import BioAuth.Native.PasskeyStore

namespace BioAuth.Native
open BioAuth

inductive PasskeyCall
  | save (record : { record : PasskeyRecord // record.Fits })
  | updateCounter (credentialId : Bytes) (expected next : UInt32)
  | delete (credentialId : Bytes)
  | find (credentialId : Bytes)
  | allForRp (rpId : String)

inductive PasskeyAnswer
  | done
  | found (record : Option PasskeyRecord)
  | records (records : List PasskeyRecord)

namespace PasskeyCall

/-- The records as a call leaves them. -/
def apply (records : List PasskeyRecord) : PasskeyCall → List PasskeyRecord
  | save record => records ++ [record.val]
  | updateCounter credentialId _ next =>
    records.modify (PasskeyStore.index credentialId records) fun record => { record with signCount := next }
  | delete credentialId => records.filter fun record => record.credentialId ≠ credentialId
  | find _ | allForRp _ => records

/-- Whether a call may change the records. -/
def Allowed (records : List PasskeyRecord) : PasskeyCall → Prop
  | save record => ∀ other ∈ records, other.credentialId ≠ record.val.credentialId
  | updateCounter credentialId expected next => expected < next ∧
    (records.find? fun record => record.credentialId = credentialId).map PasskeyRecord.signCount = some expected
  | delete credentialId => ∃ record ∈ records, record.credentialId = credentialId
  | find _ | allForRp _ => False

/-- Whether a call changes the records if it succeeds. -/
def changes : PasskeyCall → Bool
  | save _ | updateCounter _ _ _ | delete _ => true
  | find _ | allForRp _ => false

end PasskeyCall

section Calls
variable [OrgJsonText]
open PasskeyStoreCodec

namespace PasskeyCall

def body : PasskeyCall → StoreCall PasskeyAnswer
  | save record => do PasskeyStore.save record.val; return .done
  | updateCounter credentialId expected next => do PasskeyStore.updateCounter credentialId expected next; return .done
  | delete credentialId => do PasskeyStore.delete credentialId; return .done
  | find credentialId => do return .found (← PasskeyStore.find credentialId)
  | allForRp rpId => do return .records (← PasskeyStore.allForRp rpId)

/-- What is checked before anything is read. -/
def guarded : PasskeyCall → Except Failure Unit
  | updateCounter _ expected next =>
    require (expected < next) (.illegalArgument "WebAuthn signature counter must increase")
  | _ => .ok ()

/-- What is checked of the records, and why a call may fail there. -/
def checked (records : List PasskeyRecord) : PasskeyCall → Except Failure Unit
  | save record => require (∀ other ∈ records, other.credentialId ≠ record.val.credentialId)
    (.illegalArgument "Passkey credential ID collision")
  | updateCounter credentialId expected _ => require
    ((records.find? fun record => record.credentialId = credentialId).map PasskeyRecord.signCount = some expected)
    (.illegalArgument "Passkey counter changed concurrently")
  | delete credentialId => require (∃ record ∈ records, record.credentialId = credentialId)
    (.illegalArgument "Passkey not found")
  | find _ | allForRp _ => .ok ()

/-- What a call that changes nothing has found. -/
def answer (records : List PasskeyRecord) : PasskeyCall → PasskeyAnswer
  | find credentialId => .found (records.find? fun record => record.credentialId = credentialId)
  | allForRp rpId => .records (records.filter fun record => record.rpId = rpId)
  | _ => .done

/-- A call once it has read the records. -/
def rest (call : PasskeyCall) (records : List PasskeyRecord) : StoreCall PasskeyAnswer :=
  (Program.done (call.checked records)).bind fun _ =>
    if call.changes then (PasskeyStore.write (call.apply records)).bind fun _ => .done (.ok .done)
    else .done (.ok (call.answer records))

/-- Every call checks what it is given, reads, and goes on from there. -/
theorem body_eq (call : PasskeyCall) :
    call.body = (Program.done call.guarded).bind fun _ => PasskeyStore.read.bind call.rest := by
  have checks (holds : Prop) [Decidable holds] (e : Failure) :
      (require holds e : StoreCall Unit) = .done (require holds e) := by
    unfold require
    split
    · rfl
    · rfl
  cases call with
  | save record =>
    refine (Program.bind_assoc PasskeyStore.read _ _).trans (congrArg (Program.bind _) (funext fun records => ?_))
    refine (Program.bind_assoc (require _ _) _ _).trans ?_
    rw [checks]
    rfl
  | updateCounter credentialId expected next =>
    refine (Program.bind_assoc (require _ _) _ _).trans ?_
    rw [checks]
    refine congrArg (Program.bind _) (funext fun _ => ?_)
    refine (Program.bind_assoc PasskeyStore.read _ _).trans (congrArg (Program.bind _) (funext fun records => ?_))
    refine (Program.bind_assoc (require _ _) _ _).trans ?_
    rw [checks]
    rfl
  | delete credentialId =>
    refine (Program.bind_assoc PasskeyStore.read _ _).trans (congrArg (Program.bind _) (funext fun records => ?_))
    refine (Program.bind_assoc (require _ _) _ _).trans ?_
    rw [checks]
    rfl
  | find credentialId =>
    exact (Program.bind_assoc PasskeyStore.read _ _).trans (congrArg (Program.bind _) (funext fun records => rfl))
  | allForRp rpId =>
    exact (Program.bind_assoc PasskeyStore.read _ _).trans (congrArg (Program.bind _) (funext fun records => rfl))

end PasskeyCall

theorem readPasskeySnapshot_corrupt {text : String} {e : Failure} (decoded : decode text = .error e)
    (known : ∀ version, e ≠ .unsupportedVersion version) (previous legacy : Option String) :
    readPasskeySnapshot (some text) previous legacy = match previous with
      | none => .error (.illegalState "Stored passkey metadata is corrupt")
      | some rollback => match decode rollback with
        | .ok records => .ok ⟨records, rollback, false, true⟩
        | .error _ => .error (.illegalState "Passkey metadata and rollback are corrupt") := by
  unfold readPasskeySnapshot
  dsimp only
  rw [decoded]
  cases e with
  | unsupportedVersion version => exact absurd rfl (known version)
  | _ => rfl

/-- What a read comes to. -/
def Preferences.snapshot (preferences : Preferences) : Except Failure PasskeyStoreSnapshot :=
  readPasskeySnapshot preferences.recordsV2 preferences.previousRecordsV2 preferences.records

/-- The preferences once the records of the first version are kept in the second. -/
def Preferences.migrate (records : List PasskeyRecord) (preferences : Preferences) : Preferences :=
  ⟨some (encode records), preferences.previousRecordsV2, some (encodeLegacy records)⟩

def Preferences.rollBack (snapshot : PasskeyStoreSnapshot) (preferences : Preferences) : Preferences :=
  { preferences with recordsV2 := some snapshot.encoded, records := some (encodeLegacy snapshot.records) }

/-- What a read does that nobody disturbs. -/
inductive Reading (preferences : Preferences) : Prop
  | failing (e : Failure) (nothing : preferences.snapshot = .error e)
    (settled : PasskeyStore.read.settle preferences = .done (.error e))
  | current (text : String) (records : List PasskeyRecord) (held : preferences.recordsV2 = some text)
    (decoded : decode text = .ok records) (settled : PasskeyStore.read.settle preferences = .done (.ok records))
  | migrating (records : List PasskeyRecord) (held : preferences.recordsV2 = none)
    (decoded : decodeLegacy preferences.records = .ok records)
    (settled : PasskeyStore.read.settle preferences = .change .migration (Preferences.migrate records)
      fun made => if made then .done (.ok records)
        else .done (.error (.illegalState "Unable to persist passkey metadata")))
  | rollingBack (text rollback : String) (records : List PasskeyRecord) (e : Failure)
    (held : preferences.recordsV2 = some text) (corrupt : decode text = .error e)
    (before : preferences.previousRecordsV2 = some rollback) (decoded : decode rollback = .ok records)
    (same : preferences.snapshot = .ok ⟨records, rollback, false, true⟩)
    (settled : PasskeyStore.read.settle preferences = .change .rollback
      (Preferences.rollBack ⟨records, rollback, false, true⟩) fun made => .done (.error (.illegalState
        (if made then "Stored passkey metadata was corrupt and rolled back"
          else "Unable to roll back corrupt passkey metadata"))))

theorem reading (preferences : Preferences) : Reading preferences := by
  rcases held : preferences.recordsV2 with _ | text
  · rcases legacy : decodeLegacy preferences.records with e | records
    · have found : preferences.snapshot = .error e := by
        rw [Preferences.snapshot, held, readPasskeySnapshot, legacy]
        rfl
      refine .failing e found ?_
      change ((Program.done preferences.snapshot).bind _).settle preferences = _
      rw [found]
      rfl
    · have found : preferences.snapshot = .ok ⟨records, encode records, true, false⟩ := by
        rw [Preferences.snapshot, held, readPasskeySnapshot, legacy]
        rfl
      refine .migrating records held legacy ?_
      change ((Program.done preferences.snapshot).bind _).settle preferences = _
      rw [found]
      change Program.change Purpose.migration (Preferences.migrate records) _ = _
      refine congrArg _ (funext fun made => ?_)
      cases made with
      | true => rfl
      | false => rfl
  · rcases decoded : decode text with e | records
    · by_cases foreign : ∃ version, e = .unsupportedVersion version
      · obtain ⟨version, rfl⟩ := foreign
        have found : preferences.snapshot = .error (.unsupportedVersion version) := by
          rw [Preferences.snapshot, held]
          unfold readPasskeySnapshot
          dsimp only
          rw [decoded]
        refine .failing _ found ?_
        change ((Program.done preferences.snapshot).bind _).settle preferences = _
        rw [found]
        rfl
      · have corrupt := readPasskeySnapshot_corrupt decoded (fun version same => foreign ⟨version, same⟩)
          preferences.previousRecordsV2 preferences.records
        rw [← held] at corrupt
        change preferences.snapshot = _ at corrupt
        rcases before : preferences.previousRecordsV2 with _ | rollback
        · rw [before] at corrupt
          refine .failing _ corrupt ?_
          change ((Program.done preferences.snapshot).bind _).settle preferences = _
          rw [corrupt]
          rfl
        · rw [before] at corrupt
          rcases opened : decode rollback with other | records
          · simp only [opened] at corrupt
            refine .failing _ corrupt ?_
            change ((Program.done preferences.snapshot).bind _).settle preferences = _
            rw [corrupt]
            rfl
          · simp only [opened] at corrupt
            refine .rollingBack text rollback records e held decoded before opened corrupt ?_
            change ((Program.done preferences.snapshot).bind _).settle preferences = _
            rw [corrupt]
            change Program.change Purpose.rollback (Preferences.rollBack ⟨records, rollback, false, true⟩) _ = _
            refine congrArg _ (funext fun made => ?_)
            cases made with
            | true => rfl
            | false => rfl
    · have found : preferences.snapshot = .ok ⟨records, text, false, false⟩ := by
        rw [Preferences.snapshot, held]
        unfold readPasskeySnapshot
        dsimp only
        rw [decoded]
      refine .current text records held decoded ?_
      change ((Program.done preferences.snapshot).bind _).settle preferences = _
      rw [found]
      rfl

/-- The records a read would find or fall back to, and those of the snapshot before. -/
@[ext]
structure Shelf where
  current : Option (List PasskeyRecord)
  previous : Option (List PasskeyRecord)

def Preferences.shelf (preferences : Preferences) : Shelf where
  current := preferences.snapshot.toOption.map PasskeyStoreSnapshot.records
  previous := preferences.previousRecordsV2.bind fun text => (decode text).toOption

/-- What is kept in the second version is read back. -/
def Preferences.Honest (preferences : Preferences) : Prop :=
  ∀ records, preferences.recordsV2 = some (encode records) → OrgJsonText.Faithful (document records)

/-- What a write does. -/
def Preferences.written (records : List PasskeyRecord) (previous : Option String) (preferences : Preferences) :
    Preferences :=
  ⟨some (encode records), previous.or preferences.previousRecordsV2, some (encodeLegacy records)⟩

section Shelves
variable {preferences : Preferences}

theorem shelf_current_of_decode {text : String} {records : List PasskeyRecord} (held : preferences.recordsV2 = some text)
    (decoded : decode text = .ok records) : preferences.shelf.current = some records := by
  unfold Preferences.shelf Preferences.snapshot readPasskeySnapshot
  rw [held]
  dsimp only
  rw [decoded]
  rfl

theorem shelf_migrate {records : List PasskeyRecord} (held : preferences.recordsV2 = none)
    (decoded : decodeLegacy preferences.records = .ok records) (honest : (preferences.migrate records).Honest) :
    (preferences.migrate records).shelf = preferences.shelf := by
  have before : preferences.shelf.current = some records := by
    unfold Preferences.shelf Preferences.snapshot readPasskeySnapshot
    rw [held]
    dsimp only
    rw [decoded]
    rfl
  have after := shelf_current_of_decode (rfl : (preferences.migrate records).recordsV2 = some (encode records))
    (decode_encode (honest records rfl) (decodeLegacy_fits decoded))
  exact Shelf.ext (after.trans before.symm) rfl

theorem shelf_rollBack {rollback : String} {records : List PasskeyRecord}
    (decoded : decode rollback = .ok records) (same : preferences.snapshot = .ok ⟨records, rollback, false, true⟩) :
    (preferences.rollBack ⟨records, rollback, false, true⟩).shelf = preferences.shelf := by
  have after := shelf_current_of_decode
    (rfl : (preferences.rollBack ⟨records, rollback, false, true⟩).recordsV2 = some rollback) decoded
  have now : preferences.shelf.current = some records := by
    unfold Preferences.shelf
    rw [same]
    rfl
  exact Shelf.ext (after.trans now.symm) rfl

/-- A write puts the records it was given beside those it found. -/
theorem shelf_written {text : String} {records updated : List PasskeyRecord} (decoded : decode text = .ok records)
    (fits : ∀ record ∈ updated, record.Fits) (honest : (preferences.written updated (some text)).Honest) :
    (preferences.written updated (some text)).shelf = ⟨some updated, some records⟩ := by
  have after := shelf_current_of_decode
    (rfl : (preferences.written updated (some text)).recordsV2 = some (encode updated))
    (decode_encode (honest updated rfl) fits)
  refine Shelf.ext after ?_
  change (some text).bind (fun text => (decode text).toOption) = some records
  rw [Option.bind_some, decoded]
  rfl

/-- The current snapshot is no longer what was written. -/
def Preferences.spoil (text : String) (preferences : Preferences) : Preferences :=
  { preferences with recordsV2 := some text }

def Corrupt (text : String) : Prop := ∃ e, decode text = .error e ∧ ∀ version, e ≠ .unsupportedVersion version

/-- What is left of a corrupt snapshot is the one before. -/
theorem shelf_spoil {text : String} (corrupt : Corrupt text) (preferences : Preferences) :
    (preferences.spoil text).shelf = ⟨preferences.shelf.previous, preferences.shelf.previous⟩ := by
  obtain ⟨e, decoded, known⟩ := corrupt
  refine Shelf.ext ?_ rfl
  have opened := readPasskeySnapshot_corrupt decoded known preferences.previousRecordsV2 preferences.records
  change (preferences.spoil text).snapshot = _ at opened
  unfold Preferences.shelf
  dsimp only
  rw [opened]
  rcases preferences.previousRecordsV2 with _ | rollback
  · rfl
  · dsimp only [Option.bind_some]
    rcases decode rollback with e | records
    · rfl
    · rfl

end Shelves

section Outlook

omit [OrgJsonText] in
theorem PasskeyCall.fits_apply {call : PasskeyCall} {records : List PasskeyRecord} (fits : ∀ record ∈ records, record.Fits) :
    ∀ record ∈ call.apply records, record.Fits := by
  cases call with
  | save record =>
    intro other member
    rcases List.mem_append.mp member with old | new
    · exact fits other old
    · rw [List.mem_singleton.mp new]
      exact record.property
  | updateCounter credentialId expected next =>
    intro record member
    obtain ⟨place, found⟩ := List.getElem?_of_mem member
    change (records.modify _ _)[place]? = some record at found
    rw [List.getElem?_modify] at found
    obtain ⟨before, there, same⟩ := Option.map_eq_some_iff.mp found
    have fitted := fits before (List.mem_of_getElem? there)
    rw [← same]
    split
    · exact ⟨fitted.credentialId, fitted.userHandle⟩
    · exact fitted
  | delete credentialId => exact fun record member => fits record (List.mem_of_mem_filter member)
  | find _ => exact fits
  | allForRp _ => exact fits

/-- A call that has read the records either ends or writes what it makes of them. -/
theorem settle_rest (call : PasskeyCall) (records : List PasskeyRecord) (preferences : Preferences) :
    (∃ result, (call.rest records).settle preferences = .done result) ∨
      call.changes = true ∧ call.checked records = .ok () ∧ (call.rest records).settle preferences =
        .change .write (Preferences.written (call.apply records) preferences.recordsV2) fun made =>
          if made then .done (.ok .done) else .done (.error (.illegalState "Unable to persist passkey metadata")) := by
  rcases passed : call.checked records with e | _
  · left
    refine ⟨.error e, ?_⟩
    rw [PasskeyCall.rest, passed]
    rfl
  · rcases kind : call.changes with _ | _
    · left
      refine ⟨.ok (call.answer records), ?_⟩
      rw [PasskeyCall.rest, passed, kind]
      rfl
    · right
      refine ⟨rfl, rfl, ?_⟩
      rw [PasskeyCall.rest, passed, kind]
      change Program.change Purpose.write (Preferences.written (call.apply records) preferences.recordsV2) _ = _
      refine congrArg _ (funext fun made => ?_)
      cases made with
      | true => rfl
      | false => rfl

/-- Where a call stands that nobody has disturbed since it read. -/
def PasskeyCall.Stands (call : PasskeyCall) (program : StoreCall PasskeyAnswer) (preferences : Preferences) : Prop :=
  program.settle preferences = call.body.settle preferences ∨
    (call.guarded = .ok () ∧ ∃ records, preferences.recordsV2 = some (encode records) ∧ (∀ record ∈ records, record.Fits) ∧
      program.settle preferences = (call.rest records).settle preferences) ∨
    ∃ result, program = .done result

/-- A change a call is about to make that nobody has disturbed since it read. -/
inductive Changing (call : PasskeyCall) (preferences : Preferences) :
    Purpose → (Preferences → Preferences) → (Bool → StoreCall PasskeyAnswer) → Prop
  | write (text : String) (records : List PasskeyRecord) (next : Bool → StoreCall PasskeyAnswer)
    (held : preferences.recordsV2 = some text)
    (read : decode text = .ok records ∨ text = encode records ∧ ∀ record ∈ records, record.Fits)
    (kind : call.changes = true) (guarded : call.guarded = .ok ()) (checked : call.checked records = .ok ())
    (ends : ∀ made, ∃ result, next made = .done result) :
    Changing call preferences .write (Preferences.written (call.apply records) (some text)) next
  | migration (records : List PasskeyRecord) (next : Bool → StoreCall PasskeyAnswer)
    (held : preferences.recordsV2 = none) (decoded : decodeLegacy preferences.records = .ok records)
    (guarded : call.guarded = .ok ()) (goes_on : next true = call.rest records)
    (fails : ∃ e, next false = .done (.error e)) :
    Changing call preferences .migration (Preferences.migrate records) next
  | rollback (rollback : String) (records : List PasskeyRecord) (next : Bool → StoreCall PasskeyAnswer)
    (before : preferences.previousRecordsV2 = some rollback) (decoded : decode rollback = .ok records)
    (same : preferences.snapshot = .ok ⟨records, rollback, false, true⟩)
    (ends : ∀ made, ∃ result, next made = .done result) :
    Changing call preferences .rollback (Preferences.rollBack ⟨records, rollback, false, true⟩) next

theorem changing_rest {call : PasskeyCall} {preferences : Preferences} {text : String} {records : List PasskeyRecord}
    (held : preferences.recordsV2 = some text)
    (read : decode text = .ok records ∨ text = encode records ∧ ∀ record ∈ records, record.Fits)
    (guarded : call.guarded = .ok ()) {label : Purpose} {edit : Preferences → Preferences}
    {next : Bool → StoreCall PasskeyAnswer}
    (settled : (call.rest records).settle preferences = .change label edit next) : Changing call preferences label edit next := by
  rcases settle_rest call records preferences with ⟨result, ended⟩ | ⟨kind, checked, writes⟩
  · rw [ended] at settled
    cases settled
  · rw [writes, held] at settled
    cases settled
    refine .write text records _ held read kind guarded checked fun made => ?_
    cases made with
    | true => exact ⟨_, rfl⟩
    | false => exact ⟨_, rfl⟩

theorem PasskeyCall.Stands.changing {call : PasskeyCall} {preferences : Preferences} {label : Purpose}
    {edit : Preferences → Preferences} {next : Bool → StoreCall PasskeyAnswer}
    (stands : call.Stands (.change label edit next) preferences) : Changing call preferences label edit next := by
  rcases stands with start | ⟨guarded, records, held, fits, resumed⟩ | ⟨result, ended⟩
  · change .change label edit next = call.body.settle preferences at start
    rw [call.body_eq] at start
    rcases guarded : call.guarded with e | _
    · rw [guarded] at start
      cases start
    · rw [guarded] at start
      change .change label edit next = (PasskeyStore.read.bind call.rest).settle preferences at start
      cases reading preferences with
      | failing e nothing settled =>
        rw [Program.settle_bind_of_error settled] at start
        cases start
      | current text records held decoded settled =>
        rw [Program.settle_bind_of_ok settled] at start
        exact changing_rest held (Or.inl decoded) guarded start.symm
      | migrating records held decoded settled =>
        rw [Program.settle_bind_of_change settled] at start
        cases start
        exact .migration records _ held decoded guarded rfl ⟨_, rfl⟩
      | rollingBack text rollback records e held corrupt before decoded same settled =>
        rw [Program.settle_bind_of_change settled] at start
        cases start
        exact .rollback rollback records _ before decoded same fun made => ⟨_, rfl⟩
  · exact changing_rest held (Or.inr ⟨rfl, fits⟩) guarded resumed.symm
  · cases ended

/-- A call that nobody disturbs stands where it would alone. -/
def standing : Outlook PasskeyCall.body where
  holds := PasskeyCall.Stands
  start _ _ := Or.inl rfl
  look := by
    intro call next preferences stands
    rcases stands with start | ⟨guarded, records, held, fits, resumed⟩ | ⟨result, ended⟩
    · exact Or.inl start
    · exact Or.inr (Or.inl ⟨guarded, records, held, fits, resumed⟩)
    · cases ended
  change := by
    intro call label edit next preferences stands outcome
    have beyond {made : Bool} {result : Except Failure PasskeyAnswer} (ended : next made = .done result)
        (same : decide (outcome = .made) = made) : call.Stands (next (decide (outcome = .made))) (outcome.apply edit preferences) :=
      Or.inr (Or.inr ⟨result, same ▸ ended⟩)
    cases stands.changing with
    | write text records next held read kind guarded checked ends =>
      obtain ⟨result, ended⟩ := ends (decide (outcome = .made))
      exact beyond ended rfl
    | rollback rollback records next before decoded same ends =>
      obtain ⟨result, ended⟩ := ends (decide (outcome = .made))
      exact beyond ended rfl
    | migration records next held decoded guarded goes_on fails =>
      by_cases made : outcome = .made
      · subst made
        change call.Stands (next true) (Preferences.migrate records preferences)
        rw [goes_on]
        exact Or.inr (Or.inl ⟨guarded, records, rfl, decodeLegacy_fits decoded, rfl⟩)
      · obtain ⟨e, failed⟩ := fails
        exact beyond failed (decide_eq_false made)

end Outlook

end Calls

end BioAuth.Native
