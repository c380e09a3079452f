import BioAuth.Mobile.PairingStore
import Mathlib.Data.List.Permutation

namespace BioAuth.Mobile
open BioAuth
open BioAuth.Interleaved
open PairingStore (persist setRecords load)

inductive PairingCall
  | save (record : PairingRecord)
  | remove (verifierId : String)
  deriving DecidableEq

namespace PairingCall
variable [DartConvert]

/-- What the call makes of the records. -/
def apply : PairingCall → List PairingRecord → List PairingRecord
  | save record => PairingStore.saved record
  | remove verifierId => PairingStore.removed verifierId

def body : PairingCall → PairingProgram Unit
  | save record => PairingStore.save record
  | remove verifierId => PairingStore.remove verifierId

theorem body_eq (call : PairingCall) : call.body = load.bind fun records => persist .update (call.apply records) := by
  cases call <;> rfl

end PairingCall

namespace PairingPreferences
variable [DartConvert]

/-- The records there are: those of the snapshot, or of the one before where it is corrupt, or the older version's. -/
def stored (preferences : PairingPreferences) : Except PairingFailure (List PairingRecord) :=
  match preferences.records with
  | none => decodeLegacy (preferences.legacyRecords.getD [])
  | some current =>
    match decodeSnapshot current with
    | .ok records => .ok records
    | .error (.unsupportedVersion version) => .error (.unsupportedVersion version)
    | .error error =>
      match preferences.previousRecords with
      | none => .error error
      | some previous => decodeSnapshot previous

/-- The libraries read back what is kept. -/
def Honest (preferences : PairingPreferences) : Prop :=
  ∀ records, preferences.records = some (encodeSnapshot records) → ReadBack records

theorem stored_of_ok {preferences : PairingPreferences} {current : String} {records : List PairingRecord}
    (held : preferences.records = some current) (decoded : decodeSnapshot current = .ok records) :
    preferences.stored = .ok records := by
  rw [stored, held]
  dsimp only
  rw [decoded]

theorem stored_of_encoded {preferences : PairingPreferences} {records : List PairingRecord}
    (held : preferences.records = some (encodeSnapshot records)) (honest : preferences.Honest) :
    preferences.stored = .ok records := stored_of_ok held (decodeSnapshot_encodeSnapshot (honest records held))

end PairingPreferences

section Alone
variable [DartConvert]

/-- The one change of a call that is its effect. -/
def counts (label : PairingPhase × PairingKey) : Bool := label = (.update, .records)

/-- What each change of a call that is alone makes of the records. -/
def Changes (call : PairingCall) (label : PairingPhase × PairingKey) (before after : PairingPreferences) : Prop :=
  before.Honest → after.Honest →
    after.stored = if counts label = true then before.stored.map call.apply else before.stored

/-- What a call that is alone has read. -/
def Holds (records : List PairingRecord) (preferences : PairingPreferences) : Prop :=
  ∃ current, preferences.records = some current ∧ (preferences.Honest → decodeSnapshot current = .ok records)

theorem Holds.stored {records : List PairingRecord} {preferences : PairingPreferences} (holds : Holds records preferences)
    (honest : preferences.Honest) : preferences.stored = .ok records := by
  obtain ⟨current, held, decoded⟩ := holds
  exact PairingPreferences.stored_of_ok held (decoded honest)

theorem holds_encoded {records : List PairingRecord} {preferences : PairingPreferences}
    (held : preferences.records = some (encodeSnapshot records)) : Holds records preferences :=
  ⟨_, held, fun honest => decodeSnapshot_encodeSnapshot (honest records held)⟩

omit [DartConvert] in
/-- A change that is made, or not, and what follows where it is. -/
theorem runs_set {post : PairingPhase × PairingKey → PairingPreferences → PairingPreferences → Prop}
    {ends : Except PairingFailure Unit → PairingPreferences → Prop} {label : PairingPhase × PairingKey}
    {edit : PairingPreferences → PairingPreferences} {failure : PairingFailure} {preferences : PairingPreferences}
    (changes : post label preferences (edit preferences)) (made : ends (.ok ()) (edit preferences))
    (failed : ∀ later, ends (.error failure) later) :
    (PairingStore.set label edit failure).Runs post ends preferences := by
  refine ⟨changes, fun outcome => ?_⟩
  cases outcome with
  | made => exact made
  | refused => exact failed _
  | unconfirmed => exact failed _

theorem runs_setRecords {call : PairingCall} {phase : PairingPhase} {records : List PairingRecord}
    {preferences : PairingPreferences} {ends : Except PairingFailure Unit → PairingPreferences → Prop}
    (changes : Changes call (phase, .records) preferences { preferences with records := some (encodeSnapshot records) })
    (made : ∀ later, Holds records later → ends (.ok ()) later) (failed : ∀ error later, ends (.error error) later) :
    (setRecords phase records).Runs (Changes call) ends preferences := by
  refine Program.Runs.bind (fun _ later => later.records = some (encodeSnapshot records)) ?_ fun _ later held => ?_
  · exact runs_set changes rfl fun _ => failed _ _
  · have still : Changes call (phase, .legacyRecords) later { later with legacyRecords := some (encodeLegacy records) } := by
      intro honest honest'
      have same := PairingPreferences.stored_of_encoded held honest
      have same' : PairingPreferences.stored { later with legacyRecords := some (encodeLegacy records) } = .ok records :=
        PairingPreferences.stored_of_encoded held honest'
      rw [same, same']
      cases phase <;> rfl
    exact runs_set still (made _ (holds_encoded held)) fun _ => failed _ _

theorem runs_rollback {call : PairingCall} {error : PairingFailure} {preferences : PairingPreferences}
    {current : String} {ends : Except PairingFailure (List PairingRecord) → PairingPreferences → Prop}
    (held : preferences.records = some current) (corrupt : decodeSnapshot current = .error error)
    (known : ∀ version, error ≠ .unsupportedVersion version) (failed : ∀ error later, ends (.error error) later) :
    (PairingStore.rollback error).Runs (Changes call) ends preferences := by
  unfold PairingStore.rollback
  change Program.Runs _ _ (match preferences.previousRecords with
    | none => _
    | some previous => _) preferences
  rcases kept : preferences.previousRecords with _ | previous
  · exact failed _ _
  · have was : preferences.stored = decodeSnapshot previous := by
      rw [PairingPreferences.stored, held]
      dsimp only
      rw [corrupt, kept]
      cases error with
      | unsupportedVersion version => exact absurd rfl (known version)
      | formatException message => rfl
      | stateError message cause => rfl
      | thrown => rfl
    change ((Program.done (decodeSnapshot previous)).bind _).Runs _ _ _
    rcases decoded : decodeSnapshot previous with error | records
    · exact failed _ _
    · change (Program.bind (PairingStore.set (.rollback, .records) _ _) _).Runs _ _ _
      refine Program.Runs.bind (fun _ later => later.records = some previous) ?_ fun _ later now => ?_
      · refine runs_set ?_ rfl fun _ => failed _ _
        intro _ _
        have now : PairingPreferences.stored { preferences with records := some previous } = .ok records :=
          PairingPreferences.stored_of_ok rfl decoded
        rw [was, now]
        exact decoded.symm
      · change (Program.bind (PairingStore.set (.rollback, .legacyRecords) _ _) _).Runs _ _ _
        refine Program.Runs.bind (fun _ _ => True) ?_ fun _ _ _ => failed _ _
        refine runs_set ?_ trivial fun _ => failed _ _
        intro _ _
        have same' : PairingPreferences.stored { later with legacyRecords := some (encodeLegacy records) } = .ok records :=
          PairingPreferences.stored_of_ok now decoded
        rw [PairingPreferences.stored_of_ok now decoded]
        exact same'

theorem runs_load (call : PairingCall) (preferences : PairingPreferences)
    {ends : Except PairingFailure (List PairingRecord) → PairingPreferences → Prop}
    (read : ∀ records later, Holds records later → ends (.ok records) later)
    (failed : ∀ error later, ends (.error error) later) : load.Runs (Changes call) ends preferences := by
  unfold PairingStore.load
  refine Program.Runs.look ?_
  rcases held : preferences.records with _ | current
  · change ((Program.done (decodeLegacy _)).bind _).Runs _ _ _
    rcases decoded : decodeLegacy (preferences.legacyRecords.getD []) with error | records
    · exact failed _ _
    · change (Program.bind (persist .migration records) _).Runs _ _ _
      refine Program.Runs.bind (fun _ => Holds records) ?_ fun _ later holds => read records later holds
      unfold PairingStore.persist
      refine Program.Runs.look ?_
      rw [held]
      refine runs_setRecords ?_ (fun _ holds => holds) fun _ _ => failed _ _
      intro _ honest
      rw [PairingPreferences.stored_of_encoded rfl honest, PairingPreferences.stored, held]
      exact decoded.symm
  · dsimp only
    rcases decoded : decodeSnapshot current with error | records
    · cases error with
      | unsupportedVersion version => exact failed _ _
      | formatException message => exact runs_rollback held decoded (fun _ => PairingFailure.noConfusion) failed
      | stateError message cause => exact runs_rollback held decoded (fun _ => PairingFailure.noConfusion) failed
      | thrown => exact runs_rollback held decoded (fun _ => PairingFailure.noConfusion) failed
    · exact read records preferences ⟨current, held, fun _ => decoded⟩

theorem runs_persist {call : PairingCall} {records : List PairingRecord} {preferences : PairingPreferences}
    (holds : Holds records preferences) :
    (persist .update (call.apply records)).Runs (Changes call) (fun _ _ => True) preferences := by
  have writes (now : PairingPreferences) (still : Holds records now) :
      (setRecords .update (call.apply records)).Runs (Changes call) (fun _ _ => True) now := by
    refine runs_setRecords ?_ (fun _ _ => trivial) fun _ _ => trivial
    intro honest honest'
    rw [PairingPreferences.stored_of_encoded rfl honest', still.stored honest]
    rfl
  obtain ⟨current, held, decoded⟩ := holds
  unfold PairingStore.persist
  refine Program.Runs.look ?_
  rw [held]
  refine Program.Runs.bind (fun _ => Holds records) ?_ fun _ => writes
  refine runs_set ?_ ⟨current, held, decoded⟩ fun _ => trivial
  intro honest honest'
  have same := PairingPreferences.stored_of_ok held (decoded honest)
  have same' : PairingPreferences.stored { preferences with previousRecords := some current } = .ok records :=
    PairingPreferences.stored_of_ok held (decoded honest')
  rw [same, same']
  rfl

theorem runs_body (call : PairingCall) (preferences : PairingPreferences) :
    call.body.Runs (Changes call) (fun _ _ => True) preferences := by
  rw [call.body_eq]
  refine Program.Runs.bind Holds ?_ fun records later holds => runs_persist holds
  exact runs_load call preferences (fun _ _ holds => holds) fun _ _ => trivial

end Alone

section Finishes

theorem idle_set (label : PairingPhase × PairingKey) (uncounted : counts label = false)
    (edit : PairingPreferences → PairingPreferences) (failure : PairingFailure) :
    (PairingStore.set label edit failure).Idle counts := by
  refine Program.idle_change uncounted edit fun made => ?_
  cases made with
  | true => exact Program.idle_done _
  | false => exact Program.idle_done _

variable [DartConvert]

theorem idle_setRecords {phase : PairingPhase} (uncounted : counts (phase, .records) = false) (records : List PairingRecord) :
    (setRecords phase records).Idle counts :=
  (idle_set (phase, .records) uncounted _ _).bind fun _ => idle_set (phase, .legacyRecords) (by cases phase <;> rfl) _ _

theorem idle_persist (records : List PairingRecord) : (persist .migration records).Idle counts := by
  refine Program.idle_look fun preferences => ?_
  rcases preferences.records with _ | current
  · exact idle_setRecords rfl records
  · exact (idle_set (.migration, .previousRecords) rfl _ _).bind fun _ => idle_setRecords rfl records

theorem idle_rollback (error : PairingFailure) : (PairingStore.rollback error).Idle counts := by
  refine Program.idle_look fun preferences => ?_
  dsimp only
  rcases preferences.previousRecords with _ | previous
  · exact Program.idle_done _
  · refine Program.Idle.bind (Program.idle_done (decodeSnapshot previous)) fun records => ?_
    refine Program.Idle.bind (idle_set (.rollback, .records) rfl _ _) fun _ => ?_
    exact Program.Idle.bind (idle_set (.rollback, .legacyRecords) rfl _ _) fun _ => Program.idle_done _

theorem idle_load : load.Idle counts := by
  refine Program.idle_look fun preferences => ?_
  rcases preferences.records with _ | current
  · refine Program.Idle.bind (Program.idle_done (decodeLegacy (preferences.legacyRecords.getD []))) fun records => ?_
    exact Program.Idle.bind (idle_persist records) fun _ => Program.idle_done _
  · dsimp only
    rcases decodeSnapshot current with error | records
    · cases error with
      | unsupportedVersion version => exact Program.idle_done _
      | formatException message => exact idle_rollback _
      | stateError message cause => exact idle_rollback _
      | thrown => exact idle_rollback _
    · exact Program.idle_done _

/-- A call that succeeds has had its effect once, and one that fails at most once. -/
def PairingCall.Outcomes (_ : PairingCall) (tried : List ((PairingPhase × PairingKey) × Outcome)) :
    Except PairingFailure Unit → Prop
  | .ok _ => effected counts tried = [true]
  | .error _ => (effected counts tried).length ≤ 1

theorem finishes_setRecords (call : PairingCall) (records : List PairingRecord)
    {tried : List ((PairingPhase × PairingKey) × Outcome)} (none_yet : effected counts tried = []) :
    (setRecords .update records).Finishes call.Outcomes tried := by
  refine Program.Finishes.bind (fun later _ => effected counts later = [true]) ?_ fun later _ once => ?_
  · intro outcome
    have after : effected counts (tried ++ [((.update, .records), outcome)]) = _ := effected_concat tried _ outcome
    rw [none_yet, List.nil_append] at after
    cases outcome with
    | made => exact after
    | refused => exact (congrArg List.length after).trans_le (Nat.zero_le 1)
    | unconfirmed => exact (congrArg List.length after).le
  · refine (idle_set (.update, .legacyRecords) rfl _ _ later).mono fun last result same => ?_
    cases result with
    | ok _ => exact same.trans once
    | error _ => exact (congrArg List.length (same.trans once)).le

theorem finishes_body (call : PairingCall) : call.body.Finishes call.Outcomes [] := by
  rw [call.body_eq]
  refine Program.Finishes.bind (fun tried _ => effected counts tried = []) ?_ fun tried records none_yet => ?_
  · refine (idle_load []).mono fun tried result same => ?_
    cases result with
    | ok _ => exact same
    | error _ => exact (congrArg List.length same).trans_le (Nat.zero_le 1)
  · intro preferences
    dsimp only
    rcases preferences.records with _ | current
    · exact finishes_setRecords call _ none_yet
    · refine Program.Finishes.bind (fun later _ => effected counts later = []) ?_ fun later _ still => ?_
      · refine (idle_set (.update, .previousRecords) rfl _ _ tried).mono fun later result same => ?_
        cases result with
        | ok _ => exact same.trans none_yet
        | error _ => exact (congrArg List.length (same.trans none_yet)).trans_le (Nat.zero_le 1)
      · exact finishes_setRecords call _ still

end Finishes

section Runs
variable [DartConvert]

/-- The calls of the stores that share the preferences of one phone. -/
abbrev PairingStores := Interleaved PairingCall PairingPreferences (PairingPhase × PairingKey) PairingFailure Unit

/-- The records are what the calls make of those there were, one after another in some order: each call that succeeded
once, and one that failed once or not at all. -/
def PairingStores.NothingLost (start : PairingPreferences) (stores : PairingStores) : Prop :=
  ∃ order : List (Nat × PairingCall),
    stores.shared.stored = order.foldl (fun records effect => records.map effect.2.apply) start.stored ∧
      (∀ number call, .returned number call (.ok ()) ∈ stores.log →
        order.filter (fun effect => effect.1 = number) = [(number, call)]) ∧
      (∀ number call error, .returned number call (.error error) ∈ stores.log →
        order.filter (fun effect => effect.1 = number) ∈ [[], [(number, call)]]) ∧
      ∀ effect ∈ order, effect.1 < stores.calls

/-- The libraries read back what is kept whenever the preferences change. -/
def PairingStores.HonestLog (stores : PairingStores) : Prop :=
  ∀ number call label outcome before after, Deed.tried number call label outcome before after ∈ stores.log →
    before.Honest ∧ after.Honest

/-- Whatever the stores are asked and however the calls interleave, if none of them sets a preference after another has since
it first read. -/
theorem pairing_updates_kept (start : PairingPreferences) (turns : List (Turn PairingCall PairingPreferences))
    (calls : ∀ edit, .meddle edit ∉ turns)
    (honest : PairingStores.HonestLog ((quiet start : PairingStores).run PairingCall.body turns))
    (timely : (quiet start : PairingStores).TimelyRun PairingCall.body turns) :
    PairingStores.NothingLost start ((quiet start : PairingStores).run PairingCall.body turns) := by
  obtain ⟨news, log, story⟩ := story_run PairingCall.body (quiet start : PairingStores) turns
  rw [show news = ((quiet start : PairingStores).run PairingCall.body turns).log from log.symm] at story
  have begun : (quiet start : PairingStores).Fresh (Outlook.alone Changes runs_body) := fun _ _ never => nomatch never
  have nothing : Apt (Outlook.alone Changes runs_body) (quiet start : PairingStores).log := fun _ _ _ _ _ _ never => nomatch never
  have apt := (begun.run _ nothing timely).2
  have kept := (Kept.quiet start : (quiet start : PairingStores).Kept PairingCall.Outcomes).run finishes_body turns
  have alone : ∀ before after, Deed.meddled before after ∉ ((quiet start : PairingStores).run PairingCall.body turns).log := by
    intro before after member
    rcases meddled_run member with never | ⟨edit, given, _⟩
    · cases never
    · exact calls edit given
  have played := replayed PairingPreferences.stored (fun call records => records.map call.apply) story apt alone
    fun number call label outcome before after member changes =>
      changes (honest _ _ _ _ _ _ member).1 (honest _ _ _ _ _ _ member).2
  let effects := effectsIn counts ((quiet start : PairingStores).run PairingCall.body turns).log
  have of_number (number : Nat) : (effects.map fun effect => (effect.1, effect.2.1)).filter (fun effect => effect.1 = number) =
      (effects.filter fun effect => effect.1 = number).map fun effect => (effect.1, effect.2.1) := List.filter_map
  refine ⟨effects.map fun effect => (effect.1, effect.2.1), ?_, ?_, ?_, ?_⟩
  · rw [List.foldl_map]
    exact played
  · intro number call member
    have once : effected counts _ = [true] := (kept.returned number call _ member).1
    rw [of_number, effectsIn_returned member, once]
    rfl
  · intro number call error member
    have few : (effected counts _).length ≤ 1 := (kept.returned number call _ member).1
    rw [of_number, effectsIn_returned member]
    generalize effected counts _ = told at few ⊢
    match told, few with
    | [], _ => exact List.mem_cons_self
    | [_], _ => exact List.mem_cons_of_mem _ List.mem_cons_self
  · intro effect member
    obtain ⟨full, logged, rfl⟩ := List.mem_map.mp member
    exact effectsIn_known kept logged

end Runs

section Plain

def desk : PairingRecord := {
  verifierId := "desk"
  verifierIdentitySpki := [1, 2, 3]
  endpoint := "192.0.2.1:42371"
  credentialId := "desk-authorization-v1"
  keyKind := .hardware
  purpose := .authorization
  pairedAt := ⟨1787875200000000, by decide⟩
}

def laptop : PairingRecord := { desk with verifierId := "laptop", credentialId := "laptop-authorization-v1" }

def plainItem (record : PairingRecord) : String :=
  "\x7b\"verifierId\":\"" ++ record.verifierId ++ "\",\"identitySpki\":\"AQID\",\"endpoint\":\"" ++ record.endpoint ++
    "\",\"credentialId\":\"" ++ record.credentialId ++
    "\",\"keyKind\":1,\"purpose\":0,\"pairedAt\":\"2026-08-28T00:00:00.000Z\"\x7d"

def plainSnapshot (records : List PairingRecord) : String :=
  "\x7b\"version\":2,\"records\":[" ++ ",".intercalate (records.map plainItem) ++ "]\x7d"

def plainRecords : List (List PairingRecord) := [[], [desk], [laptop], [desk, laptop]]

def plainJson (record : PairingRecord) : Json :=
  .object [("verifierId", .string record.verifierId), ("identitySpki", .string "AQID"),
    ("endpoint", .string "192.0.2.1:42371"), ("credentialId", .string record.credentialId), ("keyKind", .number 1),
    ("purpose", .number 0), ("pairedAt", .string "2026-08-28T00:00:00.000Z")]

def plainRecord : Json → Option PairingRecord
  | .object [("verifierId", .string verifierId), ("identitySpki", .string "AQID"), ("endpoint", .string "192.0.2.1:42371"),
      ("credentialId", .string credentialId), ("keyKind", .number 1), ("purpose", .number 0),
      ("pairedAt", .string "2026-08-28T00:00:00.000Z")] =>
    [desk, laptop].find? fun record => record.verifierId = verifierId ∧ record.credentialId = credentialId
  | _ => none

def plainEncode : Json → String
  | .object [("version", .number 2), ("records", .array items)] =>
    match items.mapM plainRecord with
    | some records => if records ∈ plainRecords then plainSnapshot records else ""
    | none => ""
  | item => ((plainRecord item).map plainItem).getD ""

def plainDecode (text : String) : Option Json :=
  ((plainRecords.find? fun records => plainSnapshot records = text).map fun records =>
    .object [("version", .number 2), ("records", .array (records.map plainJson))]).or
      (([desk, laptop].find? fun record => plainItem record = text).map plainJson)

/-- Libraries that know two desktops. -/
abbrev plainConvert : DartConvert where
  jsonEncode := plainEncode
  jsonDecode := plainDecode
  doubleIs _ _ := false
  base64UrlEncode bytes := if bytes = [1, 2, 3] then "AQID" else ""
  base64UrlDecode text := if text = "AQID" then some [1, 2, 3] else none
  toIso8601String time := if time = desk.pairedAt then "2026-08-28T00:00:00.000Z" else ""
  parse text := if text = "2026-08-28T00:00:00.000Z" then some desk.pairedAt else none

theorem toJson_plain :
    letI := plainConvert
    ∀ record ∈ [desk, laptop], record.toJson = plainJson record := by
  let := plainConvert
  have key : toBase64Url [1, 2, 3] = "AQID" := by decide +kernel
  have time : DartConvert.toIso8601String desk.pairedAt = "2026-08-28T00:00:00.000Z" := if_pos rfl
  intro record member
  rw [List.mem_pair] at member
  rcases member with rfl | rfl
  · rw [PairingRecord.toJson, plainJson, time]
    change Json.object [_, ("identitySpki", .string (toBase64Url [1, 2, 3])), _, _, _, _, _] = _
    rw [key]
    rfl
  · rw [PairingRecord.toJson, plainJson]
    change Json.object [_, ("identitySpki", .string (toBase64Url [1, 2, 3])), _, _, _, _,
      ("pairedAt", .string (DartConvert.toIso8601String desk.pairedAt))] = _
    rw [key, time]
    rfl

/-- What the libraries know of a record is all of it. -/
theorem plain_of_record {record found : PairingRecord} :
    letI := plainConvert
    plainRecord record.toJson = some found → record = found ∧ record ∈ [desk, laptop] := by
  let := plainConvert
  intro known
  obtain ⟨verifierId, verifierIdentitySpki, endpoint, credentialId, keyKind, purpose, pairedAt⟩ := record
  unfold plainRecord PairingRecord.toJson at known
  split at known
  · rename_i same
    simp only [Json.object.injEq, List.cons.injEq, Prod.mk.injEq, Json.string.injEq, Json.number.injEq, true_and, and_true] at same
    obtain ⟨rfl, spki, rfl, rfl, kind, use, time⟩ := same
    have key : verifierIdentitySpki = [1, 2, 3] := by
      by_contra other
      have short : toBase64Url verifierIdentitySpki = "" := by
        rw [toBase64Url, show DartConvert.base64UrlEncode verifierIdentitySpki = "" from if_neg other]
        rfl
      exact absurd (short.symm.trans spki) (by decide)
    have same_time : pairedAt = desk.pairedAt := by
      by_contra other
      have short : DartConvert.toIso8601String pairedAt = "" := if_neg other
      exact absurd (short.symm.trans time) (by decide)
    have same_kind : keyKind = .hardware := by
      revert kind
      cases keyKind <;> decide
    have same_use : purpose = .authorization := by
      revert use
      cases purpose <;> decide
    subst key same_time same_kind same_use
    have listed := List.mem_of_find?_eq_some known
    have alike : found.verifierId = verifierId ∧ found.credentialId = credentialId := by simpa using List.find?_some known
    rw [List.mem_pair] at listed
    rcases listed with rfl | rfl
    · obtain ⟨rfl, rfl⟩ := alike
      exact ⟨rfl, List.mem_cons_self⟩
    · obtain ⟨rfl, rfl⟩ := alike
      exact ⟨rfl, List.mem_cons_of_mem _ List.mem_cons_self⟩
  · cases known

theorem plain_of_records {records found : List PairingRecord} :
    letI := plainConvert
    (records.map PairingRecord.toJson).mapM plainRecord = some found → records = found ∧ ∀ record ∈ records, record ∈ [desk, laptop] := by
  let := plainConvert
  intro known
  induction records generalizing found with
  | nil =>
    have same : [] = found := Option.some.inj known
    exact ⟨same, fun _ never => absurd never List.not_mem_nil⟩
  | cons record records ih =>
    rw [List.map_cons, List.mapM_cons] at known
    obtain ⟨first, one, known⟩ := Option.bind_eq_some_iff.mp known
    obtain ⟨rest, others, known⟩ := Option.bind_eq_some_iff.mp known
    rw [← Option.some.inj known]
    obtain ⟨rfl, here⟩ := plain_of_record one
    obtain ⟨rfl, there⟩ := ih others
    exact ⟨rfl, List.forall_mem_cons.mpr ⟨here, there⟩⟩

theorem plain_honest {preferences : PairingPreferences} (written : preferences.records ≠ some "") :
    letI := plainConvert
    preferences.Honest := by
  let := plainConvert
  intro records held
  have spelled : (records.map PairingRecord.toJson).mapM plainRecord = some records ∧ records ∈ plainRecords := by
    have text : encodeSnapshot records = match (records.map PairingRecord.toJson).mapM plainRecord with
        | some records => if records ∈ plainRecords then plainSnapshot records else ""
        | none => "" := rfl
    rcases known : (records.map PairingRecord.toJson).mapM plainRecord with _ | found
    · rw [known] at text
      exact absurd (held.trans (congrArg some text)) written
    · obtain ⟨rfl, _⟩ := plain_of_records known
      refine ⟨rfl, ?_⟩
      by_contra other
      rw [known] at text
      exact absurd (held.trans (congrArg some (text.trans (if_neg other)))) written
  obtain ⟨known, listed⟩ := spelled
  have among := (plain_of_records known).2
  have found : ∀ records ∈ plainRecords,
      plainRecords.find? (fun other => plainSnapshot other = plainSnapshot records) = some records := by decide +kernel
  have facts : ∀ record ∈ [desk, laptop], record.verifierIdentitySpki = [1, 2, 3] ∧ record.pairedAt = desk.pairedAt := by decide
  have items : records.map plainJson = records.map PairingRecord.toJson :=
    List.map_congr_left fun record member => (toJson_plain record (among record member)).symm
  refine ⟨?_, ?_, ?_, ?_⟩
  · have text : DartConvert.jsonEncode (snapshot records) = plainSnapshot records := by
      change (match (records.map PairingRecord.toJson).mapM plainRecord with
        | some records => if records ∈ plainRecords then plainSnapshot records else ""
        | none => "") = _
      rw [known]
      exact if_pos listed
    rw [text]
    change plainDecode _ = _
    rw [plainDecode, found records listed, snapshot, ← items]
    rfl
  · intro record member
    rw [(facts record (among record member)).2]
    decide +kernel
  · intro record member
    rw [(facts record (among record member)).1]
    decide +kernel
  · intro record member
    rw [(facts record (among record member)).1]
    exact ⟨"AQID".toList, 0, by decide +kernel, by decide +kernel, by decide, by decide +kernel⟩

def plainStart : PairingPreferences := ⟨none, none, none⟩

/-- Every step of a call, one after another, if nothing is refused. -/
def wholePairing (place : Nat) (call : PairingCall) : List (Turn PairingCall PairingPreferences) :=
  .begin place call :: List.replicate 12 (.step place .made)

def plainPairings : List (Turn PairingCall PairingPreferences) :=
  wholePairing 0 (.save desk) ++ wholePairing 0 (.save laptop) ++ wholePairing 0 (.remove "desk")

/-- Both have read the records before either writes. -/
def racingPairings (one other : PairingCall) : List (Turn PairingCall PairingPreferences) :=
  [.begin 0 one, .begin 1 other, .step 0 .made, .step 1 .made] ++ List.replicate 12 (.step 0 .made) ++
    List.replicate 12 (.step 1 .made)

def spelledPairing : Deed PairingCall PairingPreferences (PairingPhase × PairingKey) PairingFailure Unit → Bool
  | .tried _ _ _ _ before after => before.records ≠ some "" && after.records ≠ some ""
  | _ => true

/-- Which call has ended, and whether it succeeded. -/
def endedPairing : Deed PairingCall PairingPreferences (PairingPhase × PairingKey) PairingFailure Unit →
    Option (Nat × PairingCall × Bool)
  | .returned number call result => some (number, call, result.toOption.isSome)
  | _ => none

theorem pairing_updates_kept_plain :
    letI := plainConvert
    let stores := (quiet plainStart : PairingStores).run PairingCall.body plainPairings
    PairingStores.NothingLost plainStart stores ∧
      stores.log.filterMap endedPairing = [(0, .save desk, true), (1, .save laptop, true), (2, .remove "desk", true)] ∧
      stores.shared.records = some (plainSnapshot [laptop]) := by
  let := plainConvert
  refine ⟨?_, by decide +kernel, by decide +kernel⟩
  refine pairing_updates_kept plainStart plainPairings ?_ ?_ (by decide +kernel)
  · intro edit member
    simp [plainPairings, wholePairing] at member
  · intro number call label outcome before after member
    have spelled : ((quiet plainStart : PairingStores).run PairingCall.body plainPairings).log.all spelledPairing = true := by
      decide +kernel
    have here := List.all_eq_true.mp spelled _ member
    change (decide (before.records ≠ some "") && decide (after.records ≠ some "")) = true at here
    obtain ⟨first, second⟩ := Bool.and_eq_true_iff.mp here
    exact ⟨plain_honest (of_decide_eq_true first), plain_honest (of_decide_eq_true second)⟩

/-- Two calls, and no other, one before the other. -/
theorem order_of_two {order : List (Nat × PairingCall)} {one other : PairingCall}
    (zero : order.filter (fun effect => effect.1 = 0) = [(0, one)])
    (first : order.filter (fun effect => effect.1 = 1) = [(1, other)]) (few : ∀ effect ∈ order, effect.1 < 2) :
    order = [(0, one), (1, other)] ∨ order = [(1, other), (0, one)] := by
  have rest : order.filter (fun effect => !decide (effect.1 = 0)) = order.filter (fun effect => effect.1 = 1) := by
    refine List.filter_congr fun effect member => ?_
    have small := few effect member
    simp only [← decide_not, decide_eq_decide]
    omega
  have both := List.filter_append_perm (fun effect : Nat × PairingCall => decide (effect.1 = 0)) order
  rw [rest, zero, first] at both
  exact List.pair_perm.mp both

def racedPairings (records : List PairingRecord) (one other : PairingCall) : PairingStores :=
  letI := plainConvert
  (quiet ⟨some (plainSnapshot records), none, none⟩ : PairingStores).run PairingCall.body (racingPairings one other)

theorem plain_stored {preferences : PairingPreferences} {records : List PairingRecord}
    (held : preferences.records = some (plainSnapshot records)) (listed : records ∈ plainRecords) :
    letI := plainConvert
    preferences.stored = .ok records := by
  let := plainConvert
  have known : ∀ records ∈ plainRecords, (records.map PairingRecord.toJson).mapM plainRecord = some records := by decide +kernel
  have text : encodeSnapshot records = plainSnapshot records := by
    change (match (records.map PairingRecord.toJson).mapM plainRecord with
      | some records => if records ∈ plainRecords then plainSnapshot records else ""
      | none => "") = _
    rw [known records listed]
    exact if_pos listed
  have spelled : ∀ records ∈ plainRecords, plainSnapshot records ≠ "" := by decide +kernel
  have honest : preferences.Honest :=
    plain_honest fun empty => spelled records listed (Option.some.inj (held.symm.trans empty))
  exact PairingPreferences.stored_of_encoded (held.trans (congrArg some text.symm)) honest

/-- Two calls that both succeeded, and what is stored is not what one makes of what the other does. -/
theorem lost_of_two {records final : List PairingRecord} {one other : PairingCall}
    (listed : records ∈ plainRecords ∧ final ∈ plainRecords)
    (ended : (racedPairings records one other).log.filterMap endedPairing = [(0, one, true), (1, other, true)])
    (held : (racedPairings records one other).shared.records = some (plainSnapshot final))
    (calls : (racedPairings records one other).calls = 2)
    (apart : other.apply (one.apply records) ≠ final ∧ one.apply (other.apply records) ≠ final) :
    letI := plainConvert
    ¬PairingStores.NothingLost ⟨some (plainSnapshot records), none, none⟩ (racedPairings records one other) := by
  let := plainConvert
  rintro ⟨order, same, done, _, few⟩
  have told : ∀ number call, (number, call, true) ∈ (racedPairings records one other).log.filterMap endedPairing →
      .returned number call (.ok ()) ∈ (racedPairings records one other).log := by
    intro number call member
    obtain ⟨deed, logged, shown⟩ := List.mem_filterMap.mp member
    cases deed with
    | tried _ _ _ _ _ _ => cases shown
    | meddled _ _ => cases shown
    | returned _ _ result =>
      cases result with
      | error _ => cases shown
      | ok _ =>
        cases shown
        exact logged
  rw [ended] at told
  have zero := done 0 one (told 0 one List.mem_cons_self)
  have first := done 1 other (told 1 other (List.mem_cons_of_mem _ List.mem_cons_self))
  rw [calls] at few
  rw [plain_stored held listed.2, plain_stored rfl listed.1] at same
  rcases order_of_two zero first few with rfl | rfl
  · exact apart.1 (Except.ok.inj same).symm
  · exact apart.2 (Except.ok.inj same).symm

/-- A desktop that was removed is back, and of two that were saved one is gone. -/
theorem pairing_updates_lost :
    letI := plainConvert
    ((racedPairings [desk] (.remove "desk") (.save laptop)).shared.records = some (plainSnapshot [desk, laptop]) ∧
      ¬PairingStores.NothingLost ⟨some (plainSnapshot [desk]), none, none⟩
        (racedPairings [desk] (.remove "desk") (.save laptop))) ∧
    (racedPairings [] (.save desk) (.save laptop)).shared.records = some (plainSnapshot [laptop]) ∧
      ¬PairingStores.NothingLost ⟨some (plainSnapshot []), none, none⟩ (racedPairings [] (.save desk) (.save laptop)) := by
  let := plainConvert
  have back : (racedPairings [desk] (.remove "desk") (.save laptop)).shared.records = some (plainSnapshot [desk, laptop]) := by
    decide +kernel
  have gone : (racedPairings [] (.save desk) (.save laptop)).shared.records = some (plainSnapshot [laptop]) := by
    decide +kernel
  refine ⟨⟨back, ?_⟩, gone, ?_⟩
  · exact lost_of_two (by decide) (by decide +kernel) back (by decide +kernel) (by decide)
  · exact lost_of_two (by decide) (by decide +kernel) gone (by decide +kernel) (by decide)

end Plain

end BioAuth.Mobile
