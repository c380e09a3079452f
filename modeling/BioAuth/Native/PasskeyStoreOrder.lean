import BioAuth.Lib.InterleavedCalls
import BioAuth.Native.PasskeyStoreRuns

namespace BioAuth.Native
open BioAuth Interleaved PasskeyStoreCodec

/-- The instances of the store over one preferences file. -/
abbrev PasskeyStores := Interleaved PasskeyCall Preferences Purpose Failure PasskeyAnswer

abbrev PasskeyDeed := Deed PasskeyCall Preferences Purpose Failure PasskeyAnswer

/-- What becomes of the records. A write that was said to be refused may have been made all the same. -/
inductive Effect
  | applied (number : Nat) (call : PasskeyCall) (confirmed : Bool)
  | spoilt

def PasskeyDeed.effect : PasskeyDeed → Option Effect
  | .tried number call .write outcome _ _ =>
    if outcome = .refused then none else some (.applied number call (decide (outcome = .made)))
  | .meddled _ _ => some .spoilt
  | _ => none

def effects (log : List PasskeyDeed) : List Effect := log.filterMap PasskeyDeed.effect

namespace Shelf

def after (shelf : Shelf) : Effect → Shelf
  | .applied _ call _ => ⟨shelf.current.map call.apply, shelf.current⟩
  | .spoilt => ⟨shelf.previous, shelf.previous⟩

def afterAll (shelf : Shelf) (effects : List Effect) : Shelf := effects.foldl after shelf

/-- Each effect is one its call may have on the records it finds. -/
def Lawful : Shelf → List Effect → Prop
  | _, [] => True
  | shelf, .applied number call confirmed :: effects =>
    (∃ records, shelf.current = some records ∧ call.Allowed records) ∧
      (shelf.after (.applied number call confirmed)).Lawful effects
  | shelf, .spoilt :: effects => (shelf.after .spoilt).Lawful effects

end Shelf

section Counters
variable {records : List PasskeyRecord} {credentialId other : Bytes}

/-- The record a credential is found by. -/
def record (credentialId : Bytes) (records : List PasskeyRecord) : Option PasskeyRecord :=
  records.find? fun record => record.credentialId = credentialId

theorem record_updateCounter (next : UInt32) :
    record credentialId (records.modify (PasskeyStore.index other records) fun record => { record with signCount := next }) =
      if other = credentialId then (record credentialId records).map fun record => { record with signCount := next }
      else record credentialId records := by
  unfold record PasskeyStore.index
  induction records with
  | nil => simp
  | cons first records ih =>
    rw [List.findIdx_cons]
    by_cases here : first.credentialId = other
    · subst here
      by_cases same : first.credentialId = credentialId
      · simp [same]
      · simp [same]
    · rw [decide_eq_false here]
      change List.find? _ (first :: records.modify _ _) = _
      by_cases same : first.credentialId = credentialId
      · have apart : other ≠ credentialId := fun equal => here (same.trans equal.symm)
        simp [same, apart]
      · rw [List.find?_cons_of_neg (by simpa using same), List.find?_cons_of_neg (by simpa using same)]
        exact ih

theorem record_delete (apart : other ≠ credentialId) :
    record credentialId (records.filter fun record => record.credentialId ≠ other) = record credentialId records := by
  unfold record
  rw [List.find?_filter]
  refine congrArg (fun p => List.find? p records) (funext fun record => ?_)
  by_cases same : record.credentialId = credentialId
  · have kept : record.credentialId ≠ other := fun equal => apart (equal.symm.trans same)
    simp [same, apart.symm]
  · simp [same]

/-- A counter only goes up, and is there until its credential is deleted. -/
theorem PasskeyCall.Allowed.counter {call : PasskeyCall} (allowed : call.Allowed records)
    (kept : call ≠ .delete credentialId) {found : PasskeyRecord} (held : record credentialId records = some found) :
    ∃ later, record credentialId (call.apply records) = some later ∧ found.signCount ≤ later.signCount := by
  cases call with
  | save saved =>
    refine ⟨found, ?_, UInt32.le_refl _⟩
    change List.find? _ (records ++ [saved.val]) = _
    rw [List.find?_append]
    exact Option.or_eq_some_iff.mpr (Or.inl held)
  | updateCounter counted expected next =>
    obtain ⟨up, current⟩ := allowed
    change ∃ later, record credentialId (records.modify _ _) = some later ∧ _
    rw [record_updateCounter]
    by_cases same : counted = credentialId
    · subst same
      rw [if_pos rfl, held]
      refine ⟨_, rfl, ?_⟩
      change (record counted records).map PasskeyRecord.signCount = some expected at current
      rw [held] at current
      cases current
      exact UInt32.le_of_lt up
    · rw [if_neg same]
      exact ⟨found, held, UInt32.le_refl _⟩
  | delete deleted =>
    have apart : deleted ≠ credentialId := fun same => kept (congrArg _ same)
    exact ⟨found, (record_delete apart).trans held, UInt32.le_refl _⟩
  | find _ => exact allowed.elim
  | allForRp _ => exact allowed.elim

/-- A credential that is not there comes back only by being saved. -/
theorem PasskeyCall.Allowed.absent {call : PasskeyCall} (allowed : call.Allowed records)
    (unsaved : ∀ saved, call = .save saved → saved.val.credentialId ≠ credentialId)
    (missing : record credentialId records = none) : record credentialId (call.apply records) = none := by
  cases call with
  | save saved =>
    change List.find? _ (records ++ [saved.val]) = _
    rw [List.find?_append]
    change (record credentialId records).or _ = none
    rw [missing, Option.none_or, List.find?_cons_of_neg (by simpa using unsaved saved rfl), List.find?_nil]
  | updateCounter counted expected next =>
    change record credentialId (records.modify _ _) = none
    rw [record_updateCounter, missing]
    split
    · rfl
    · rfl
  | delete deleted =>
    refine List.find?_eq_none.mpr fun found member => ?_
    exact List.find?_eq_none.mp missing found (List.mem_of_mem_filter member)
  | find _ => exact allowed.elim
  | allForRp _ => exact allowed.elim

namespace Shelf
variable {shelf : Shelf}

theorem lawful_append {earlier later : List Effect} (lawful : shelf.Lawful (earlier ++ later)) :
    (shelf.afterAll earlier).Lawful later := by
  induction earlier generalizing shelf with
  | nil => exact lawful
  | cons effect earlier ih =>
    cases effect with
    | applied number call confirmed => exact ih lawful.2
    | spoilt => exact ih lawful

theorem afterAll_append (earlier later : List Effect) :
    shelf.afterAll (earlier ++ later) = (shelf.afterAll earlier).afterAll later := List.foldl_append

/-- Through any effects but a deletion and a spoilt snapshot a credential stays, and its counter does not go back. -/
theorem Lawful.lasting {effects : List Effect} (lawful : shelf.Lawful effects) (whole : .spoilt ∉ effects)
    (undeleted : ∀ number confirmed, .applied number (.delete credentialId) confirmed ∉ effects)
    {records : List PasskeyRecord} (current : shelf.current = some records) {found : PasskeyRecord}
    (held : record credentialId records = some found) :
    ∃ remaining later, (shelf.afterAll effects).current = some remaining ∧ record credentialId remaining = some later ∧
      found.signCount ≤ later.signCount := by
  induction effects generalizing shelf records found with
  | nil => exact ⟨records, found, current, held, UInt32.le_refl _⟩
  | cons effect effects ih =>
    cases effect with
    | spoilt => exact absurd List.mem_cons_self whole
    | applied number call confirmed =>
      obtain ⟨⟨_, same, allowed⟩, lawful⟩ := lawful
      cases current.symm.trans same
      have kept : call ≠ .delete credentialId := by
        rintro rfl
        exact undeleted number confirmed List.mem_cons_self
      obtain ⟨next, there, up⟩ := allowed.counter kept held
      have now : (shelf.after (.applied number call confirmed)).current = some (call.apply records) := by
        rw [after, current]
        rfl
      obtain ⟨remaining, later, last, found_last, more⟩ := ih lawful (fun member => whole (List.mem_cons_of_mem _ member))
        (fun number confirmed member => undeleted number confirmed (List.mem_cons_of_mem _ member)) now there
      exact ⟨remaining, later, last, found_last, UInt32.le_trans up more⟩

theorem Lawful.absent {effects : List Effect} (lawful : shelf.Lawful effects) (whole : .spoilt ∉ effects)
    (unsaved : ∀ number (saved : { record : PasskeyRecord // record.Fits }) confirmed,
      .applied number (.save saved) confirmed ∈ effects → saved.val.credentialId ≠ credentialId)
    {records : List PasskeyRecord} (current : shelf.current = some records) (missing : record credentialId records = none) :
    ∃ remaining, (shelf.afterAll effects).current = some remaining ∧ record credentialId remaining = none := by
  induction effects generalizing shelf records with
  | nil => exact ⟨records, current, missing⟩
  | cons effect effects ih =>
    cases effect with
    | spoilt => exact absurd List.mem_cons_self whole
    | applied number call confirmed =>
      obtain ⟨⟨_, same, allowed⟩, lawful⟩ := lawful
      cases current.symm.trans same
      have still := allowed.absent (fun saved same => unsaved number saved confirmed (same ▸ List.mem_cons_self)) missing
      have now : (shelf.after (.applied number call confirmed)).current = some (call.apply records) := by
        rw [after, current]
        rfl
      exact ih lawful (fun member => whole (List.mem_cons_of_mem _ member))
        (fun number saved confirmed member => unsaved number saved confirmed (List.mem_cons_of_mem _ member)) now still

end Shelf

end Counters

section Finishes

/-- The writes a call has tried. -/
def writes (tried : List (Purpose × Outcome)) : List Outcome :=
  tried.filterMap fun trial => if trial.1 = .write then some trial.2 else none

theorem writes_append_other {label : Purpose} (other : label ≠ .write) (tried : List (Purpose × Outcome)) (outcome : Outcome) :
    writes (tried ++ [(label, outcome)]) = writes tried := by
  have none_of : writes [(label, outcome)] = [] := List.filterMap_cons_none (if_neg other)
  rw [writes, List.filterMap_append]
  exact (congrArg _ none_of).trans (List.append_nil _)

/-- A call none of whose steps is a write. -/
def Silent {α : Type} (call : StoreCall α) : Prop :=
  ∀ tried, writes tried = [] → call.Finishes (fun later _ => writes later = []) tried

theorem Silent.bind {α β : Type} {call : StoreCall α} {f : α → StoreCall β} (first : Silent call)
    (second : ∀ a, Silent (f a)) : Silent (call.bind f) := by
  intro tried none_yet
  refine Program.Finishes.bind (fun later _ => writes later = []) ?_ fun later a still => second a later still
  refine (first tried none_yet).mono fun later result still => ?_
  cases result with
  | ok a => exact still
  | error e => exact still

theorem silent_done {α : Type} (result : Except Failure α) : Silent (.done result : StoreCall α) := fun _ still => still

theorem silent_commitEdit {purpose : Purpose} (other : purpose ≠ .write) (edit : Preferences → Preferences)
    (message : String) : Silent (PasskeyStore.commitEdit purpose edit message) := by
  intro tried none_yet outcome
  have still := (writes_append_other other tried outcome).trans none_yet
  by_cases made : outcome = .made
  · rw [decide_eq_true made]
    exact still
  · rw [decide_eq_false made]
    exact still

/-- A call that succeeds has made the one write it was for, and one that fails has had none confirmed. -/
def PasskeyCall.Outcomes (call : PasskeyCall) (tried : List (Purpose × Outcome)) : Except Failure PasskeyAnswer → Prop
  | .ok _ => writes tried = if call.changes then [.made] else []
  | .error _ => writes tried = [] ∨ writes tried = [.refused] ∨ writes tried = [.unconfirmed]

variable [OrgJsonText]

theorem silent_read : Silent PasskeyStore.read := by
  intro tried none_yet current previous legacy
  change ((Program.done (readPasskeySnapshot current.recordsV2 previous.previousRecordsV2 legacy.records)).bind _).Finishes
    _ tried
  rcases readPasskeySnapshot current.recordsV2 previous.previousRecordsV2 legacy.records with e | snapshot
  · exact none_yet
  · obtain ⟨records, encoded, migrated, rolledBack⟩ := snapshot
    have migrates : Silent (PasskeyStore.commit .migration records none) := silent_commitEdit (by decide) _ _
    have rolls : Silent (PasskeyStore.commitEdit .rollback (Preferences.rollBack ⟨records, encoded, migrated, rolledBack⟩)
      "Unable to roll back corrupt passkey metadata") := silent_commitEdit (by decide) _ _
    cases migrated with
    | false =>
      cases rolledBack with
      | false => exact none_yet
      | true => exact (rolls.bind fun _ => silent_done _) tried none_yet
    | true =>
      cases rolledBack with
      | false => exact (migrates.bind fun _ => silent_done _) tried none_yet
      | true => exact (migrates.bind fun _ => rolls.bind fun _ => silent_done _) tried none_yet

theorem finishes_rest (call : PasskeyCall) (records : List PasskeyRecord) {tried : List (Purpose × Outcome)}
    (none_yet : writes tried = []) : (call.rest records).Finishes call.Outcomes tried := by
  unfold PasskeyCall.rest
  rcases call.checked records with e | _
  · exact Or.inl none_yet
  · rcases kind : call.changes with _ | _
    · change writes tried = if call.changes then [.made] else []
      rw [none_yet, kind]
      rfl
    · intro preferences outcome
      have written : writes (tried ++ [(Purpose.write, outcome)]) = [outcome] := by
        rw [writes, List.filterMap_append]
        change writes tried ++ _ = _
        rw [none_yet]
        rfl
      cases outcome with
      | made =>
        change writes _ = if call.changes then [.made] else []
        rw [written, kind]
        rfl
      | refused => exact Or.inr (Or.inl written)
      | unconfirmed => exact Or.inr (Or.inr written)

theorem finishes_body (call : PasskeyCall) : call.body.Finishes call.Outcomes [] := by
  rw [call.body_eq]
  rcases call.guarded with e | _
  · exact Or.inl rfl
  · change (PasskeyStore.read.bind call.rest).Finishes call.Outcomes []
    refine Program.Finishes.bind (fun later _ => writes later = []) ?_ fun _ records kept => finishes_rest call records kept
    refine (silent_read [] rfl).mono fun later result kept => ?_
    cases result with
    | ok _ => exact kept
    | error _ => exact Or.inl kept

end Finishes

section Order
variable [OrgJsonText]

/-- Every state a deed of the log is about reads back what is kept in it. -/
def HonestLog {κ α : Type} (log : List (Deed κ Preferences Purpose Failure α)) : Prop :=
  ∀ number call label outcome before after, Deed.tried number call label outcome before after ∈ log →
    before.Honest ∧ after.Honest

def SpoilsOnly (log : List PasskeyDeed) : Prop :=
  ∀ before after, Deed.meddled before after ∈ log → ∃ text, Corrupt text ∧ after = before.spoil text

omit [OrgJsonText] in
theorem checked_allowed {call : PasskeyCall} {records : List PasskeyRecord} (kind : call.changes = true)
    (guarded : call.guarded = .ok ()) (checked : call.checked records = .ok ()) : call.Allowed records := by
  cases call with
  | save record =>
    have apart := except_require_eq_ok.mp checked
    exact apart
  | updateCounter credentialId expected next => exact ⟨except_require_eq_ok.mp guarded, except_require_eq_ok.mp checked⟩
  | delete credentialId =>
    have held := except_require_eq_ok.mp checked
    exact held
  | find _ => cases kind
  | allForRp _ => cases kind

/-- A change either is a write, to the records as they are, or keeps the records as they are. -/
theorem Changing.shelf {call : PasskeyCall} {preferences : Preferences} {label : Purpose}
    {edit : Preferences → Preferences} {next : Bool → StoreCall PasskeyAnswer}
    (changing : Changing call preferences label edit next) (before : preferences.Honest) (after : (edit preferences).Honest) :
    label ≠ .write ∧ (edit preferences).shelf = preferences.shelf ∨
      label = .write ∧ ∃ records, preferences.shelf.current = some records ∧ call.Allowed records ∧
        (edit preferences).shelf = ⟨some (call.apply records), some records⟩ := by
  cases changing with
  | write text records next held read kind guarded checked ends =>
    have decoded : decode text = .ok records := by
      rcases read with same | ⟨rfl, fits⟩
      · exact same
      · exact decode_encode (before records held) fits
    exact Or.inr ⟨rfl, records, shelf_current_of_decode held decoded, checked_allowed kind guarded checked,
      shelf_written decoded (PasskeyCall.fits_apply (decode_fits decoded)) after⟩
  | migration records next held decoded guarded goes_on fails =>
    exact Or.inl ⟨nofun, shelf_migrate held decoded after⟩
  | rollback rollback records next held decoded same ends =>
    exact Or.inl ⟨nofun, shelf_rollBack decoded same⟩

/-- The log of a run, replayed on the records it began with, gives the records as they are. -/
theorem replay {log : List PasskeyDeed} {first last : Preferences} (story : Interleaved.Story first log last)
    (apt : Apt standing log) (honest : HonestLog log) (spoils : SpoilsOnly log) :
    last.shelf = first.shelf.afterAll (effects log) ∧ first.shelf.Lawful (effects log) := by
  induction log generalizing first with
  | nil =>
    cases story
    exact ⟨rfl, trivial⟩
  | cons deed log ih =>
    have apt' : Apt standing log := fun _ _ _ _ _ _ member => apt _ _ _ _ _ _ (List.mem_cons_of_mem _ member)
    have honest' : HonestLog log := fun _ _ _ _ _ _ member => honest _ _ _ _ _ _ (List.mem_cons_of_mem _ member)
    have spoils' : SpoilsOnly log := fun _ _ member => spoils _ _ (List.mem_cons_of_mem _ member)
    cases deed with
    | returned number call result => exact ih story apt' honest' spoils'
    | meddled before after =>
      obtain ⟨rfl, story⟩ := story
      obtain ⟨text, corrupt, rfl⟩ := spoils before after List.mem_cons_self
      have later := ih story apt' honest' spoils'
      rw [shelf_spoil corrupt] at later
      exact later
    | tried number call label outcome before after =>
      obtain ⟨rfl, story⟩ := story
      have later := ih story apt' honest' spoils'
      obtain ⟨sound, sound'⟩ := honest number call label outcome before after List.mem_cons_self
      rcases apt number call label outcome before after List.mem_cons_self with ⟨refused, same⟩ | ⟨made, edit, next, stands, same⟩
      · have nothing : effects (.tried number call label outcome before after :: log) = effects log := by
          refine List.filterMap_cons_none ?_
          cases label with
          | write => exact if_pos refused
          | _ => rfl
        rw [nothing, ← same]
        rw [same] at later ⊢
        exact later
      · rw [same] at sound' later
        rcases (PasskeyCall.Stands.changing stands).shelf sound sound' with ⟨other, kept⟩ | ⟨rfl, records, held, allowed, written⟩
        · have nothing : effects (.tried number call label outcome before after :: log) = effects log := by
            refine List.filterMap_cons_none ?_
            cases label with
            | write => exact absurd rfl other
            | _ => rfl
          rw [nothing]
          rw [kept] at later
          exact later
        · have one : effects (.tried number call .write outcome before after :: log) =
              .applied number call (decide (outcome = .made)) :: effects log := List.filterMap_cons_some (if_neg made)
          have stepped : before.shelf.after (.applied number call (decide (outcome = .made))) =
              ⟨some (call.apply records), some records⟩ := by
            rw [Shelf.after, held]
            rfl
          rw [one]
          rw [written] at later
          refine ⟨?_, ⟨records, held, allowed⟩, ?_⟩
          · rw [Shelf.afterAll, List.foldl_cons, stepped]
            exact later.1
          · rw [stepped]
            exact later.2

/-- What the effects of a log say of one call. -/
def effectsOf (log : List PasskeyDeed) (number : Nat) : List (PasskeyCall × Bool) :=
  (effects log).filterMap fun effect => match effect with
    | .applied other call confirmed => if other = number then some (call, confirmed) else none
    | .spoilt => none

omit [OrgJsonText] in
/-- Of the writes of a call the log tells those that were made. -/
theorem effectsOf_confirmed (log : List PasskeyDeed) (number : Nat) :
    (effectsOf log number).map Prod.snd = (writes (trials log number)).filterMap fun outcome =>
      if outcome = .refused then none else some (decide (outcome = .made)) := by
  induction log with
  | nil => rfl
  | cons deed log ih =>
    unfold effectsOf effects writes trials at ih ⊢
    cases deed with
    | returned other call result => exact ih
    | meddled before after => exact ih
    | tried other call label outcome before after =>
      by_cases writing : label = .write
      · subst writing
        by_cases own : other = number
        · subst own
          cases outcome with
          | made => simp [PasskeyDeed.effect, Deed.trial, ih]
          | refused => simp [PasskeyDeed.effect, Deed.trial, ih]
          | unconfirmed => simp [PasskeyDeed.effect, Deed.trial, ih]
        · cases outcome with
          | made => simp [PasskeyDeed.effect, Deed.trial, own, ih]
          | refused => simp [PasskeyDeed.effect, Deed.trial, own, ih]
          | unconfirmed => simp [PasskeyDeed.effect, Deed.trial, own, ih]
      · have skip : PasskeyDeed.effect (.tried other call label outcome before after) = none := by
          cases label with
          | write => exact absurd rfl writing
          | migration => rfl
          | rollback => rfl
        by_cases own : other = number
        · subst own
          simp [skip, Deed.trial, writing, ih]
        · simp [skip, Deed.trial, own, ih]

/-- What a relying party and a user may count on once a run has come so far. -/
structure PasskeyStores.Orderly (start : Preferences) (stores : PasskeyStores) : Prop where
  /-- The records are those of the effects, one after another, each of which its call may have on what it finds. -/
  replayed : stores.shared.shelf = start.shelf.afterAll (effects stores.log)
  lawful : start.shelf.Lawful (effects stores.log)
  /-- A call that succeeded has had its one effect, and one that failed none but by a write said to be refused. -/
  succeeded : ∀ number call answer, Deed.returned number call (.ok answer) ∈ stores.log →
    effectsOf stores.log number = if call.changes then [(call, true)] else []
  failed : ∀ number call e, Deed.returned number call (.error e) ∈ stores.log →
    effectsOf stores.log number = [] ∨ effectsOf stores.log number = [(call, false)]
  /-- What is saved stays until it is deleted, and its counter does not go back. -/
  lasting : ∀ earlier later, effects stores.log = earlier ++ later → .spoilt ∉ later → ∀ credentialId records found,
    (start.shelf.afterAll earlier).current = some records → record credentialId records = some found →
      (∀ number confirmed, .applied number (.delete credentialId) confirmed ∉ later) →
        ∃ remaining last, stores.shared.shelf.current = some remaining ∧ record credentialId remaining = some last ∧
          found.signCount ≤ last.signCount
  /-- What is not there, as what is deleted, stays away until it is saved. -/
  gone : ∀ earlier later, effects stores.log = earlier ++ later → .spoilt ∉ later → ∀ credentialId records,
    (start.shelf.afterAll earlier).current = some records → record credentialId records = none →
      (∀ number (saved : { record : PasskeyRecord // record.Fits }) confirmed,
        .applied number (.save saved) confirmed ∈ later → saved.val.credentialId ≠ credentialId) →
        ∃ remaining, stores.shared.shelf.current = some remaining ∧ record credentialId remaining = none

/-- The effects of a number are those of its call. -/
theorem effectsOf_call {start : Preferences} {turns : List (Turn PasskeyCall Preferences)} {number : Nat}
    {call : PasskeyCall} {result : Except Failure PasskeyAnswer} {log : List PasskeyDeed}
    (same : log = ((quiet start).run PasskeyCall.body turns).log) (member : Deed.returned number call result ∈ log) :
    effectsOf log number = ((effectsOf log number).map Prod.snd).map fun confirmed => (call, confirmed) := by
  rw [List.map_map]
  refine (List.map_id _).symm.trans (List.map_congr_left fun effect known => ?_)
  obtain ⟨told, inside, shown⟩ := List.mem_filterMap.mp known
  cases told with
  | spoilt => cases shown
  | applied other maker confirmed =>
    change (if other = number then some (maker, confirmed) else none) = some effect at shown
    split at shown
    · rename_i own
      cases shown
      subst own
      obtain ⟨deed, logged, is_effect⟩ := List.mem_filterMap.mp inside
      have about : deed.about = some (other, maker) := by
        cases deed with
        | returned _ _ _ => cases is_effect
        | meddled _ _ => cases is_effect
        | tried place who label outcome before after =>
          cases label with
          | write =>
            change (if outcome = .refused then none else some (Effect.applied place who (decide (outcome = .made)))) = _
              at is_effect
            split at is_effect
            · cases is_effect
            · cases is_effect
              rfl
          | migration => cases is_effect
          | rollback => cases is_effect
      rw [same] at logged member
      have one := call_unique logged member about rfl
      rw [one]
      rfl
    · cases shown

/-- Whatever the instances are asked and however their calls interleave, if none of them changes the preferences after
another has since it read, and whether or not a snapshot is spoilt. -/
theorem passkey_stores_orderly (start : Preferences) (turns : List (Turn PasskeyCall Preferences))
    (timely : (quiet start : PasskeyStores).TimelyRun PasskeyCall.body turns)
    (spoils : ∀ edit, .meddle edit ∈ turns → ∃ text, Corrupt text ∧ edit = Preferences.spoil text)
    (honest : HonestLog ((quiet start : PasskeyStores).run PasskeyCall.body turns).log) :
    PasskeyStores.Orderly start ((quiet start : PasskeyStores).run PasskeyCall.body turns) := by
  obtain ⟨news, log, story⟩ := story_run PasskeyCall.body (quiet start : PasskeyStores) turns
  rw [show news = ((quiet start : PasskeyStores).run PasskeyCall.body turns).log from log.symm] at story
  have begun : (quiet start : PasskeyStores).Fresh standing := fun _ _ never => nomatch never
  have nothing : Apt standing (quiet start : PasskeyStores).log := fun _ _ _ _ _ _ never => nomatch never
  have apt := (begun.run standing nothing timely).2
  have kept := (Kept.quiet start : (quiet start : PasskeyStores).Kept PasskeyCall.Outcomes).run finishes_body turns
  have spoilt : SpoilsOnly ((quiet start : PasskeyStores).run PasskeyCall.body turns).log := by
    intro before after member
    rcases meddled_run member with never | ⟨edit, given, rfl⟩
    · cases never
    · obtain ⟨text, corrupt, rfl⟩ := spoils edit given
      exact ⟨text, corrupt, rfl⟩
  obtain ⟨replayed, lawful⟩ := replay story apt honest spoilt
  refine ⟨replayed, lawful, ?_, ?_, ?_, ?_⟩
  · intro number call answer member
    have told : writes _ = if call.changes then [.made] else [] := (kept.returned number call _ member).1
    rw [effectsOf_call rfl member, effectsOf_confirmed, told]
    cases call.changes with
    | true => rfl
    | false => rfl
  · intro number call e member
    have told : writes _ = [] ∨ writes _ = [.refused] ∨ writes _ = [.unconfirmed] := (kept.returned number call _ member).1
    rw [effectsOf_call rfl member, effectsOf_confirmed]
    rcases told with none | none | one
    · rw [none]
      exact Or.inl rfl
    · rw [none]
      exact Or.inl rfl
    · rw [one]
      exact Or.inr rfl
  · intro earlier later split whole credentialId records found current held undeleted
    rw [split] at replayed lawful
    rw [replayed, Shelf.afterAll_append]
    exact (Shelf.lawful_append lawful).lasting whole undeleted current held
  · intro earlier later split whole credentialId records current missing unsaved
    rw [split] at replayed lawful
    rw [replayed, Shelf.afterAll_append]
    exact (Shelf.lawful_append lawful).absent whole unsaved current missing

end Order

section Plain

def ada : PasskeyRecord := ⟨[1], "example.com", [2], "ada", "Ada", "key", 0, 10⟩

def adaItem : Json → Option String
  | .object [("credentialId", .string "AQ"), ("rpId", .string "example.com"), ("userHandle", .string "Ag"),
      ("userName", .string "ada"), ("userDisplayName", .string "Ada"), ("keyAlias", .string "key"),
      ("signCount", .number signCount), ("createdAtMillis", .number 10)] =>
    if signCount = 0 ∨ signCount = 1 ∨ signCount = 2 then
      some ("\x7b\"credentialId\":\"AQ\",\"rpId\":\"example.com\",\"userHandle\":\"Ag\",\"userName\":\"ada\"," ++
        "\"userDisplayName\":\"Ada\",\"keyAlias\":\"key\",\"signCount\":" ++ toString signCount ++
        ",\"createdAtMillis\":10\x7d")
    else none
  | _ => none

def adaItems : List Json → Option String
  | [] => some "[]"
  | [item] => (adaItem item).map fun item => "[" ++ item ++ "]"
  | _ => none

def adaMember (name : String) : Json → String
  | .string value => "\"" ++ name ++ "\":\"" ++ value ++ "\""
  | .object members => "\"" ++ name ++ "\":\x7b" ++ ",".intercalate (members.map fun member => match member.2 with
      | .string value => "\"" ++ member.1 ++ "\":\"" ++ value ++ "\""
      | _ => "") ++ "\x7d"
  | _ => ""

def adaWrite : Json → Option String
  | .object [("version", .number 2), ("records", .array items)] =>
    (adaItems items).map fun items => "\x7b\"version\":2,\"records\":" ++ items ++ "\x7d"
  | .array items => adaItems items
  | .object (("id", id) :: members) =>
    some ("\x7b" ++ ",".intercalate ((("id", id) :: members).map fun member => adaMember member.1 member.2) ++ "\x7d")
  | _ => none

def adaRecords : List (List PasskeyRecord) :=
  [[], [ada], [{ ada with signCount := 1 }], [{ ada with signCount := 2 }]]

/-- A library that knows the documents of a store with at most one record, and writes what an assertion returns. -/
abbrev adaOrgJson : OrgJsonText where
  write value := (adaWrite value).getD ""
  nextValue text :=
    ((adaRecords.find? fun records => adaWrite (document records) = some text).map document).or
      ((adaRecords.find? fun records => adaWrite (recordsArray records) = some text).map recordsArray)
  valueOf _ := ""
  toInteger _ := none
  toLong _ := none

theorem ada_of_item {item : Json} {text : String} (known : adaItem item = some text) :
    ∃ signCount ∈ [0, 1, 2], item = .object (recordMembers { ada with signCount }) := by
  unfold adaItem at known
  split at known
  · split at known
    · rename_i few
      rcases few with rfl | rfl | rfl
      · exact ⟨0, by decide, rfl⟩
      · exact ⟨1, by decide, rfl⟩
      · exact ⟨2, by decide, rfl⟩
    · cases known
  · cases known

theorem ada_of_items {items : List Json} {text : String} (known : adaItems items = some text) :
    ∃ records ∈ adaRecords, items = records.map fun record => .object (recordMembers record) := by
  unfold adaItems at known
  split at known
  · exact ⟨[], by decide, rfl⟩
  · obtain ⟨_, written, _⟩ := Option.map_eq_some_iff.mp known
    obtain ⟨signCount, few, rfl⟩ := ada_of_item written
    have listed : [{ ada with signCount }] ∈ adaRecords := by
      rcases List.mem_cons.mp few with rfl | few
      · decide
      · rcases List.mem_pair.mp few with rfl | rfl <;> decide
    exact ⟨[{ ada with signCount }], listed, rfl⟩
  · cases known

theorem ada_honest {preferences : Preferences} (written : preferences.recordsV2 ≠ some "") :
    letI := adaOrgJson
    preferences.Honest := by
  let := adaOrgJson
  intro records held
  rw [held] at written
  have spelled : ∃ text, adaWrite (document records) = some text := by
    refine Option.ne_none_iff_exists'.mp fun unknown => written ?_
    change some ((adaWrite (document records)).getD "") = _
    rw [unknown]
    rfl
  obtain ⟨text, spelled⟩ := spelled
  obtain ⟨_, inside, _⟩ := Option.map_eq_some_iff.mp spelled
  obtain ⟨found, member, same⟩ := ada_of_items inside
  have document_same : document records = document found := by
    rw [document, recordsArray, same]
    rfl
  have known : ∀ found ∈ adaRecords, (adaRecords.find? fun records =>
      adaWrite (document records) = some ((adaWrite (document found)).getD "")) = some found := by decide +kernel
  change Option.or (Option.map document (List.find? (fun other => adaWrite (document other) =
    some ((adaWrite (document records)).getD "")) _)) _ = some (document records)
  rw [document_same, known found member]
  rfl

/-- Every step of a call, one after another, if nothing is refused. -/
def whole (place : Nat) (call : PasskeyCall) : List (Turn PasskeyCall Preferences) :=
  .begin place call :: List.replicate 8 (.step place .made)

def adaSave : PasskeyCall := .save ⟨ada, ⟨by decide, by decide⟩, ⟨by decide, by decide⟩⟩

/-- The record is saved and used, and then the snapshot is spoilt. -/
def plainTurns : List (Turn PasskeyCall Preferences) :=
  whole 0 adaSave ++ whole 1 (.updateCounter [1] 0 1) ++ [.meddle (Preferences.spoil "x")] ++ whole 0 (.find [1])

def plainStores : PasskeyStores :=
  letI := adaOrgJson
  (quiet ⟨none, none, none⟩ : PasskeyStores).run PasskeyCall.body plainTurns

/-- Who was told of success. -/
def PasskeyDeed.answered : PasskeyDeed → Option (Nat × Bool)
  | .returned number _ result => some (number, result.toOption.isSome)
  | _ => none

def spelledDeed {κ α : Type} : Deed κ Preferences Purpose Failure α → Bool
  | .tried _ _ _ _ before after => before.recordsV2 ≠ some "" && after.recordsV2 ≠ some ""
  | _ => true

theorem ada_honestLog {κ α : Type} {log : List (Deed κ Preferences Purpose Failure α)}
    (spelled : log.all spelledDeed = true) :
    letI := adaOrgJson
    HonestLog log := by
  intro number call label outcome before after member
  have here := List.all_eq_true.mp spelled _ member
  change (decide (before.recordsV2 ≠ some "") && decide (after.recordsV2 ≠ some "")) = true at here
  obtain ⟨first, second⟩ := Bool.and_eq_true_iff.mp here
  exact ⟨ada_honest (of_decide_eq_true first), ada_honest (of_decide_eq_true second)⟩

theorem passkey_stores_orderly_plain :
    letI := adaOrgJson
    PasskeyStores.Orderly ⟨none, none, none⟩ plainStores ∧
      plainStores.log.filterMap PasskeyDeed.answered = [(0, true), (1, true), (2, false)] ∧
      plainStores.shared.recordsV2 = adaWrite (document [ada]) := by
  let := adaOrgJson
  have timely : (quiet ⟨none, none, none⟩ : PasskeyStores).TimelyRun PasskeyCall.body plainTurns := by decide +kernel
  have corrupt : Corrupt "x" := ⟨.json, by decide +kernel, nofun⟩
  have spoils : ∀ edit, .meddle edit ∈ plainTurns → ∃ text, Corrupt text ∧ edit = Preferences.spoil text := by
    intro edit member
    refine ⟨"x", corrupt, ?_⟩
    simpa [plainTurns, whole] using member
  have honest : HonestLog plainStores.log := ada_honestLog (by decide +kernel)
  exact ⟨passkey_stores_orderly _ plainTurns timely spoils honest, by decide +kernel, by decide +kernel⟩

def spoiltTurns : List (Turn PasskeyCall Preferences) :=
  whole 0 adaSave ++ [.meddle (Preferences.spoil "x")] ++ whole 0 (.find [1]) ++ whole 0 (.find [1])

/-- The counter is about to be written when another instance deletes the record. -/
def racingTurns : List (Turn PasskeyCall Preferences) :=
  .begin 0 (.updateCounter [1] 0 1) :: List.replicate 4 (.step 0 .made) ++ whole 1 (.delete [1]) ++
    List.replicate 2 (.step 0 .made) ++ whole 1 (.find [1])

/-- A rollback takes a saved record away, and an instance that was about to write brings a deleted one back. -/
theorem records_lost_and_returned :
    letI := adaOrgJson
    (let stores := (quiet ⟨none, none, none⟩ : PasskeyStores).run PasskeyCall.body spoiltTurns
     stores.log.filterMap PasskeyDeed.answered = [(0, true), (1, false), (2, true)] ∧
       stores.shared.shelf.current = some []) ∧
    (let stores := (quiet ⟨adaWrite (document [ada]), none, none⟩ : PasskeyStores).run PasskeyCall.body racingTurns
     stores.log.filterMap PasskeyDeed.answered = [(1, true), (0, true), (2, true)] ∧
       stores.shared.shelf.current = some [{ ada with signCount := 1 }]) := by
  let := adaOrgJson
  exact ⟨⟨by decide +kernel, by decide +kernel⟩, ⟨by decide +kernel, by decide +kernel⟩⟩

end Plain

end BioAuth.Native
