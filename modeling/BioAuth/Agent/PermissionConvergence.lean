import BioAuth.Agent.PermissionLink

namespace BioAuth.Agent
open BioAuth
open BioAuth.Mobile (DateTime PermissionService PermissionSet PermissionSets StoreWeather)
open BioAuth.Protocol (Permission SyncRequest SyncResponse sessionBindingLen)
open BioAuth.Session (IoError)
open BioAuth.Verifier (Kept PairedCredential PairedDevice PairingStore)

/-- One attempt to settle, and what the network and the phone's platform make of it. -/
structure Attempt where
  connected : Except String Unit
  draws : Draws
  binding : Block sessionBindingLen
  clock : DateTime
  weather : StoreWeather
  arrives : Bool
  sent : Except IoError Unit
  returns : Bool

/-- One credential of one phone, by the names that the two sides have for it. -/
structure Grantee where
  verifierName : String
  deviceId : String
  credentialId : String
  service : PermissionService

/-- What the two sides have stored. -/
structure Sides (σ : Type) where
  kept : Kept σ
  sets : PermissionSets

inductive PermissionAct
  | install (device : PairedDevice)
  | edit (permissions : List Permission)
  | editPhone (permissions : List Permission)
  | sync (attempt : Attempt)

def Attempt.link (attempt : Attempt) (service : PermissionService) (sets : PermissionSets) : PhoneLink where
  binding := attempt.binding
  service := service
  clock := attempt.clock
  weather := attempt.weather
  arrives := attempt.arrives
  sent := attempt.sent
  returns := attempt.returns
  answered := none
  sets := sets

section Runs
variable {σ : Type} [JsonText] (whose : Grantee)

namespace Sides

/-- The call that an attempt makes. -/
def settling (sides : Sides σ) (attempt : Attempt) :
    Except PermissionsError SyncPermissionsResult × Settling σ PhoneLink :=
  syncPermissions whose.verifierName whose.deviceId whose.credentialId attempt.connected attempt.draws
    ⟨sides.kept, attempt.link whose.service sides.sets⟩

def after (sides : Sides σ) : PermissionAct → Sides σ
  | .install device => { sides with kept := (Verifier.insert device sides.kept).2 }
  | .edit permissions =>
    { sides with
      kept := (setPermissions whose.verifierName whose.deviceId whose.credentialId permissions sides.kept).2 }
  | .editPhone permissions =>
    let set := sides.sets.read whose.service.verifierId whose.service.credentialId
    { sides with
      sets := sides.sets.write whose.service.verifierId whose.service.credentialId (set.edited permissions) }
  | .sync attempt =>
    let run := sides.settling whose attempt
    ⟨run.2.kept, run.2.session.sets⟩

def afterAll (sides : Sides σ) (acts : List PermissionAct) : Sides σ := acts.foldl (Sides.after whose) sides

/-- The attempt returns a result. -/
def Completes (sides : Sides σ) (attempt : Attempt) : Prop := ∃ result, (sides.settling whose attempt).1 = .ok result

/-- What the desktop holds, if it has the credential. -/
def desk (sides : Sides σ) : Option (Copy (List Permission)) :=
  (credentialOf sides.kept.store whose.deviceId whose.credentialId).map PairedCredential.copy

def phone (sides : Sides σ) : Copy (List Permission) :=
  PermissionSet.copy (sides.sets.read whose.service.verifierId whose.service.credentialId)

/-- Everything one attempt can do. -/
theorem settling_settles {sides : Sides σ} (keyed : sides.kept.store.Keyed) (attempt : Attempt) :
    (sides.after whose (.sync attempt)).kept.store.Keyed ∧
      ∀ mine, sides.desk whose = some mine → ∃ kept, (sides.after whose (.sync attempt)).desk whose = some kept ∧
        Copy.Settles mine (sides.phone whose) kept ((sides.after whose (.sync attempt)).phone whose) ∧
        (sides.Completes whose attempt → kept = Copy.winner mine (sides.phone whose) ∧
          (sides.after whose (.sync attempt)).phone whose = Copy.winner mine (sides.phone whose)) := by
  rcases run : sides.settling whose attempt with ⟨result, left⟩
  have after : sides.after whose (.sync attempt) = ⟨left.kept, left.session.sets⟩ := by
    rw [Sides.after, run]
  obtain ⟨stays, cases⟩ := syncPermissions_cases keyed run
  rw [after]
  refine ⟨stays, fun mine held => ?_⟩
  obtain ⟨credential, known, rfl⟩ := Option.map_eq_some_iff.mp held
  rcases cases with ⟨same, error, failed⟩ | ⟨found, answered, listed, synced, content⟩
  · -- The call does not get as far as the phone.
    rw [same]
    refine ⟨_, held, ⟨Or.inl rfl, Or.inl rfl⟩, fun ⟨result, returned⟩ => ?_⟩
    rw [run, failed] at returned
    cases returned
  · cases known.symm.trans listed
    obtain ⟨service, places, ends⟩ := sync_link rfl synced
    have phone : PermissionSet.copy left.session.set = Sides.phone whose ⟨left.kept, left.session.sets⟩ := by
      rw [PhoneLink.set, service]
      rfl
    rw [phone] at places ends
    rcases answered with error | response
    · obtain ⟨same, failed⟩ := content
      refine ⟨PairedCredential.copy credential, ?_, ⟨places, Or.inl rfl⟩, fun ⟨result, returned⟩ => ?_⟩
      · rw [desk, same]
        exact held
      · rw [run, failed] at returned
        cases returned
    · obtain ⟨mirrors, stood⟩ := ends response rfl
      rcases content with changed | ⟨same, error, failed⟩
      · refine ⟨SyncResponse.copy response, ?_, ⟨Or.inr stood, Or.inr ⟨mirrors, stood⟩⟩, fun _ => ⟨mirrors, stood⟩⟩
        rw [desk, changed]
        rfl
      · refine ⟨PairedCredential.copy credential, ?_, ⟨Or.inr stood, Or.inl rfl⟩, fun ⟨result, returned⟩ => ?_⟩
        · rw [desk, same]
          exact held
        · rw [run, failed] at returned
          cases returned

variable {whose}

theorem after_keyed {sides : Sides σ} (keyed : sides.kept.store.Keyed) (act : PermissionAct) :
    (sides.after whose act).kept.store.Keyed := by
  cases act with
  | install device => exact Verifier.insert_keyed device keyed
  | edit permissions => exact (setPermissions_cases keyed rfl).1
  | editPhone permissions => exact keyed
  | sync attempt => exact (settling_settles whose keyed attempt).1

theorem afterAll_keyed {sides : Sides σ} (keyed : sides.kept.store.Keyed) (acts : List PermissionAct) :
    (sides.afterAll whose acts).kept.store.Keyed := by
  induction acts generalizing sides with
  | nil => exact keyed
  | cons act acts ih => exact ih (after_keyed keyed act)

/-- However many attempts fail, and wherever, the copy that stands is the same. -/
theorem lost_keep_winner {sides : Sides σ} (keyed : sides.kept.store.Keyed) {mine : Copy (List Permission)}
    (held : sides.desk whose = some mine) (lost : List Attempt) :
    ∃ kept, (sides.afterAll whose (lost.map .sync)).desk whose = some kept ∧
      Copy.winner kept ((sides.afterAll whose (lost.map .sync)).phone whose) =
        Copy.winner mine (sides.phone whose) := by
  induction lost generalizing sides mine with
  | nil => exact ⟨mine, held, rfl⟩
  | cons attempt lost ih =>
    obtain ⟨stays, settles⟩ := settling_settles whose keyed attempt
    obtain ⟨between, here, settled, _⟩ := settles mine held
    obtain ⟨kept, there, same⟩ := ih stays here
    exact ⟨kept, there, same.trans settled.winner_eq⟩

/-- A side that has an edit, where the other has it too or an older one. -/
def StandsAt (holder other : Sides σ → Option (Copy (List Permission))) (edit : Copy (List Permission))
    (sides : Sides σ) : Prop :=
  ∃ mine theirs, holder sides = some mine ∧ other sides = some theirs ∧ Copy.Stands edit mine theirs

variable (whose)

/-- No act but an attempt to settle touches the holder's copy, or leaves the other side with one as late as the limit. -/
def NoNewer (holder other : Sides σ → Option (Copy (List Permission))) (limit : Int) (sides : Sides σ)
    (acts : List PermissionAct) : Prop :=
  ∀ number act, acts[number]? = some act → (∃ attempt, act = .sync attempt) ∨
    let before := sides.afterAll whose (acts.take number)
    let after := before.after whose act
    holder after = holder before ∧
      (other after = other before ∨ ∃ copy, other after = some copy ∧ copy.revision < limit)

variable {whose}

/-- What an attempt to settle keeps, a run without a newer edit keeps. -/
theorem StandsAt.afterAll {holder other : Sides σ → Option (Copy (List Permission))} {edit : Copy (List Permission)}
    (settle : ∀ sides : Sides σ, sides.kept.store.Keyed → StandsAt holder other edit sides → ∀ attempt,
      StandsAt holder other edit (sides.after whose (.sync attempt)))
    {sides : Sides σ} (keyed : sides.kept.store.Keyed) (stands : StandsAt holder other edit sides)
    {acts : List PermissionAct} (older : NoNewer whose holder other edit.revision sides acts) :
    StandsAt holder other edit (sides.afterAll whose acts) := by
  induction acts generalizing sides with
  | nil => exact stands
  | cons act acts ih =>
    have next : StandsAt holder other edit (sides.after whose act) := by
      rcases older 0 act rfl with ⟨attempt, rfl⟩ | ⟨held, late⟩
      · exact settle sides keyed stands attempt
      · obtain ⟨mine, theirs, here, there, same, behind⟩ := stands
        rcases late with kept | ⟨copy, now, before⟩
        · exact ⟨mine, theirs, held.trans here, kept.trans there, same, behind⟩
        · exact ⟨mine, copy, held.trans here, now, same, Or.inr before⟩
    exact ih (after_keyed keyed act) next fun number later here => older (number + 1) later here

/-- An edit of the desktop. -/
theorem desk_stands {edit : Copy (List Permission)} {sides : Sides σ} (keyed : sides.kept.store.Keyed)
    (stands : StandsAt (desk whose) (fun sides => some (phone whose sides)) edit sides) (attempt : Attempt) :
    StandsAt (desk whose) (fun sides => some (phone whose sides)) edit (sides.after whose (.sync attempt)) := by
  obtain ⟨mine, theirs, here, there, stood⟩ := stands
  cases there
  obtain ⟨kept, now, settles, _⟩ := (settling_settles whose keyed attempt).2 mine here
  exact ⟨kept, _, now, rfl, stood.settles settles⟩

/-- An edit of the phone. -/
theorem phone_stands {edit : Copy (List Permission)} {sides : Sides σ} (keyed : sides.kept.store.Keyed)
    (stands : StandsAt (fun sides => some (phone whose sides)) (desk whose) edit sides) (attempt : Attempt) :
    StandsAt (fun sides => some (phone whose sides)) (desk whose) edit (sides.after whose (.sync attempt)) := by
  obtain ⟨mine, theirs, here, there, stood⟩ := stands
  cases here
  obtain ⟨kept, now, settles, _⟩ := (settling_settles whose keyed attempt).2 theirs there
  exact ⟨_, kept, rfl, now, stood.settles_second settles⟩

end Sides

end Runs

/-- The phone's name for a verdict. -/
def verdictOf : Protocol.Winner → Mobile.PermissionWinner
  | .mine => .mine
  | .theirs => .theirs

def otherSeat : Protocol.Winner → Protocol.Winner
  | .mine => .theirs
  | .theirs => .mine

/-- The same verdict seen from the other seat. -/
theorem reconcile_seats (mine theirs : UInt64) (phoneWinsTies : Bool) :
    Protocol.reconcile theirs mine (!phoneWinsTies) = otherSeat (Protocol.reconcile mine theirs phoneWinsTies) := by
  unfold Protocol.reconcile
  by_cases unedited : mine = 0 ∧ theirs = 0
  · rw [if_pos unedited, if_pos unedited.symm]
    cases phoneWinsTies <;> rfl
  · rw [if_neg unedited, if_neg fun zeros => unedited zeros.symm]
    by_cases newer : theirs < mine
    · rw [if_pos newer, if_neg (UInt64.lt_asymm newer), if_pos newer]
      rfl
    · by_cases older : mine < theirs
      · rw [if_pos older, if_neg newer, if_pos older]
        rfl
      · rw [if_neg older, if_neg newer, if_neg newer, if_neg older]
        cases phoneWinsTies <;> rfl

/-- Both programs give one verdict. -/
theorem reconcile_alike {mine theirs : UInt64} {own other : Int64} (first : own.toInt = mine.toNat)
    (second : other.toInt = theirs.toNat) (phoneWinsTies : Bool) :
    Mobile.reconcile own other phoneWinsTies = verdictOf (Protocol.reconcile mine theirs phoneWinsTies) := by
  have zero (number : UInt64) : number = 0 ↔ number.toNat = 0 := by
    rw [← UInt64.toNat_inj]
    rfl
  unfold Mobile.reconcile Protocol.reconcile
  simp only [int64_eq_zero, Int64.lt_iff_toInt_lt, zero, UInt64.lt_iff_toNat_lt, first, second, Int.natCast_eq_zero,
    Int.ofNat_lt]
  split
  · cases phoneWinsTies <;> rfl
  · split
    · rfl
    · split
      · rfl
      · cases phoneWinsTies <;> rfl

/-- It is the copy that stands. -/
theorem winner_eq_reconciled {α : Type} (mine theirs : UInt64) (value other : α) :
    Copy.winner ⟨mine.toNat, value⟩ ⟨theirs.toNat, other⟩ =
      if Protocol.reconcile mine theirs false = .mine then (⟨mine.toNat, value⟩ : Copy α) else ⟨theirs.toNat, other⟩ := by
  have zero (number : UInt64) : number = 0 ↔ number.toNat = 0 := by
    rw [← UInt64.toNat_inj]
    rfl
  unfold Copy.winner Protocol.reconcile
  simp only [zero, UInt64.lt_iff_toNat_lt, Int.natCast_eq_zero, Int.ofNat_lt]
  by_cases unedited : mine.toNat = 0 ∧ theirs.toNat = 0
  · rw [if_pos unedited, if_pos unedited]
    rfl
  · rw [if_neg unedited, if_neg unedited]
    by_cases newer : theirs.toNat < mine.toNat
    · rw [if_pos newer, if_pos newer]
      rfl
    · rw [if_neg newer, if_neg newer]
      by_cases older : mine.toNat < theirs.toNat
      · rw [if_pos older]
        rfl
      · rw [if_neg older]
        rfl

section Converges
variable {σ : Type} [JsonText]

/-- What is promised of the two sides as they stand after a run. -/
structure Converges (whose : Grantee) (sides : Sides σ) : Prop where
  /-- A completed attempt, after any that failed, leaves both with the copy that stood before them. -/
  settled : ∀ mine, sides.desk whose = some mine → ∀ (lost : List Attempt) (attempt : Attempt),
    (sides.afterAll whose (lost.map .sync)).Completes whose attempt →
      (sides.afterAll whose (lost.map .sync ++ [.sync attempt])).desk whose =
          some (Copy.winner mine (sides.phone whose)) ∧
        (sides.afterAll whose (lost.map .sync ++ [.sync attempt])).phone whose = Copy.winner mine (sides.phone whose)
  /-- The later edit of the desktop stays. -/
  desk : ∀ edit, sides.desk whose = some edit → (sides.phone whose).revision < edit.revision → ∀ acts,
    Sides.NoNewer whose (Sides.desk whose) (fun sides => some (sides.phone whose)) edit.revision sides acts →
      (sides.afterAll whose acts).desk whose = some edit
  /-- And that of the phone. -/
  phone : ∀ mine, sides.desk whose = some mine → mine.revision < (sides.phone whose).revision → ∀ acts,
    Sides.NoNewer whose (fun sides => some (sides.phone whose)) (Sides.desk whose) (sides.phone whose).revision sides
      acts → (sides.afterAll whose acts).phone whose = sides.phone whose

theorem converges {whose : Grantee} {sides : Sides σ} (keyed : sides.kept.store.Keyed) : Converges whose sides where
  settled mine held lost attempt completes := by
    have stays : (sides.afterAll whose (lost.map .sync)).kept.store.Keyed := Sides.afterAll_keyed keyed _
    obtain ⟨kept, here, same⟩ := Sides.lost_keep_winner keyed held lost
    obtain ⟨last, now, _, ends⟩ := (Sides.settling_settles whose stays attempt).2 kept here
    obtain ⟨mirrors, stood⟩ := ends completes
    have run : sides.afterAll whose (lost.map .sync ++ [.sync attempt]) =
        (sides.afterAll whose (lost.map .sync)).after whose (.sync attempt) := List.foldl_append
    rw [run, now, mirrors, stood, same]
    exact ⟨rfl, rfl⟩
  desk edit held newer acts older := by
    obtain ⟨_, _, here, _, same, _⟩ := Sides.StandsAt.afterAll (fun _ keyed => Sides.desk_stands keyed) keyed
      ⟨edit, _, held, rfl, rfl, Or.inr newer⟩ older
    rw [here, same]
  phone mine held newer acts older := by
    obtain ⟨_, _, here, _, same, _⟩ := Sides.StandsAt.afterAll (fun _ keyed => Sides.phone_stands keyed) keyed
      ⟨_, mine, rfl, held, rfl, Or.inr newer⟩ older
    exact (Option.some.inj here).trans same

/-- Whatever a store was loaded from and has been through, its copy and the phone's converge, by a rule that the two
programs read alike from either seat. -/
theorem permissions_converge {path : Option Locker.Path} {world left : Locker.World σ} {store : PairingStore}
    (loaded : Verifier.load path world = (.ok store, left)) (whose : Grantee) (sets : PermissionSets)
    (acts : List PermissionAct) :
    Converges whose (Sides.afterAll whose ⟨⟨store, left⟩, sets⟩ acts) ∧
      ∀ mine theirs : UInt64,
        (∀ value other : List Permission, Copy.winner ⟨mine.toNat, value⟩ ⟨theirs.toNat, other⟩ =
          if Protocol.reconcile mine theirs false = .mine then (⟨mine.toNat, value⟩ : Copy (List Permission))
          else ⟨theirs.toNat, other⟩) ∧
        ∀ phoneWinsTies,
          Protocol.reconcile theirs mine (!phoneWinsTies) = otherSeat (Protocol.reconcile mine theirs phoneWinsTies) ∧
          ∀ own other : Int64, own.toInt = mine.toNat → other.toInt = theirs.toNat →
            Mobile.reconcile own other phoneWinsTies = verdictOf (Protocol.reconcile mine theirs phoneWinsTies) :=
  ⟨converges (Sides.afterAll_keyed (Verifier.load_keyed loaded) acts), fun mine theirs =>
    ⟨fun value other => winner_eq_reconciled mine theirs value other, fun phoneWinsTies =>
      ⟨reconcile_seats mine theirs phoneWinsTies, fun _ _ first second => reconcile_alike first second phoneWinsTies⟩⟩⟩

end Converges

def plainGrantee : Grantee := ⟨"Desk", "phone", "login", ⟨"desk", "login"⟩⟩

def plainAttempt (returns : Bool) : Attempt where
  connected := .ok ()
  draws := ⟨Block.replicate 16 1, 1000, 3000⟩
  binding := Block.replicate 32 7
  clock := .sinceEpoch 2000
  weather := ⟨false, .stored⟩
  arrives := true
  sent := .ok ()
  returns := returns

/-- Each side's first edit, of one revision. -/
def plainEdits : List PermissionAct :=
  [.install Verifier.plainDevice, .edit [⟨"sudo", "*", "*", "*"⟩], .editPhone [⟨"vault", "*", "*", "*"⟩]]

def plainSides : Sides Unit :=
  letI := Verifier.plainJson
  Sides.afterAll plainGrantee ⟨⟨⟨none, ∅⟩, Locker.World.holding []⟩, fun _ => none⟩ plainEdits

/-- An answer is lost, and the next attempt ends with the phone's edit on both sides. -/
theorem permissions_converge_plain :
    letI := Verifier.plainJson
    Sides.desk plainGrantee (plainSides.afterAll plainGrantee [.sync (plainAttempt false), .sync (plainAttempt true)]) =
      some ⟨1, [⟨"vault", "*", "*", "*"⟩]⟩ := by
  let _ := Verifier.plainJson
  have mine : plainSides.desk plainGrantee = some ⟨1, [⟨"sudo", "*", "*", "*"⟩]⟩ := by decide +kernel
  have other : plainSides.phone plainGrantee = ⟨1, [⟨"vault", "*", "*", "*"⟩]⟩ := by decide +kernel
  have run : ((plainSides.afterAll plainGrantee [.sync (plainAttempt false)]).settling plainGrantee
      (plainAttempt true)).1.toOption.isSome = true := by decide +kernel
  obtain ⟨result, returned⟩ := Option.isSome_iff_exists.mp run
  have loaded : Verifier.load none (Locker.World.holding []) =
      (.ok (⟨none, ∅⟩ : PairingStore), (Locker.World.holding [] : Locker.World Unit)) := rfl
  have ends := (permissions_converge loaded plainGrantee (fun _ => none) plainEdits).1.settled _ mine
    [plainAttempt false] (plainAttempt true) ⟨result, except_toOption_eq_some.mp returned⟩
  exact ends.1.trans (congrArg (fun copy => some (Copy.winner _ copy)) other)

end BioAuth.Agent
