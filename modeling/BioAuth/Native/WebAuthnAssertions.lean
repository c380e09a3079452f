import BioAuth.Native.PasskeyStoreOrder
import BioAuth.Native.WebAuthnCore

namespace BioAuth.Native
open BioAuth Interleaved PasskeyStoreCodec WebAuthnCore WebAuthnRequestParser

inductive AssertionCall
  | prepare (options : WebAuthnRequestOptions) (credentialId : Bytes) (client : WebAuthnClientData)
    (initializedSignature : String → Except Failure Signature)
  | finish (prepared : PreparedWebAuthnAssertion) (sign : Signature → Bytes → Except Failure Bytes)

inductive AssertionAnswer
  | prepared (prepared : PreparedWebAuthnAssertion)
  | returned (json : String)

/-- The activities over one preferences file. -/
abbrev Ceremonies := Interleaved AssertionCall Preferences Purpose Failure AssertionAnswer

abbrev AssertionDeed := Deed AssertionCall Preferences Purpose Failure AssertionAnswer

section Calls
variable [OrgJsonText] [Crypto]

namespace AssertionCall

def body : AssertionCall → StoreCall AssertionAnswer
  | prepare options credentialId client initializedSignature => do
    return .prepared (← prepareAssertion options credentialId client initializedSignature)
  | finish prepared sign => do return .returned (← finishAssertion prepared sign)

/-- What a call asks of the store. -/
def asks : AssertionCall → PasskeyCall
  | prepare _ credentialId _ _ => .find credentialId
  | finish prepared _ =>
    .updateCounter prepared.credential.credentialId prepared.previousSignCount prepared.nextSignCount

/-- What a call makes of what the store tells it. -/
def concludes : AssertionCall → Except Failure PasskeyAnswer → Except Failure AssertionAnswer
  | prepare options credentialId client initializedSignature, result => do
    match ← result with
    | .found found =>
      let prepared ← preparedAssertion options credentialId client initializedSignature found
      return .prepared prepared
    | _ => throw .crypto
  | finish prepared sign, result => do
    let signatureBytes ← sign prepared.signature prepared.dataToSign
    let _ ← result
    return .returned (assertionJson prepared signatureBytes)

theorem body_shape (call : AssertionCall) :
    (∃ e, call.body = .done (.error e)) ∨ call.body = call.asks.body.conclude call.concludes := by
  cases call with
  | prepare options credentialId client initializedSignature =>
    right
    change ((PasskeyStore.find credentialId).bind fun found =>
        .done (preparedAssertion options credentialId client initializedSignature found)).bind
          (fun prepared => .done (.ok (AssertionAnswer.prepared prepared))) =
      ((PasskeyStore.find credentialId).bind fun found => .done (.ok (PasskeyAnswer.found found))).conclude _
    rw [Program.bind_done, Program.bind_done, Program.bind_done, Program.conclude_conclude, Program.conclude_conclude]
    refine congrArg (fun f => Program.conclude f _) (funext fun result => ?_)
    rcases result with e | found
    · rfl
    · rfl
  | finish prepared sign =>
    rcases signed : sign prepared.signature prepared.dataToSign with e | signatureBytes
    · left
      refine ⟨e, ?_⟩
      change ((Program.done (sign prepared.signature prepared.dataToSign)).bind _).bind _ = _
      rw [signed]
      rfl
    · right
      change ((Program.done (sign prepared.signature prepared.dataToSign)).bind fun signatureBytes =>
        (PasskeyStore.updateCounter _ _ _).bind fun _ => .done (.ok (assertionJson prepared signatureBytes))).bind
          (fun json => .done (.ok (AssertionAnswer.returned json))) =
        ((PasskeyStore.updateCounter _ _ _).bind fun _ => .done (.ok PasskeyAnswer.done)).conclude _
      rw [signed]
      change ((PasskeyStore.updateCounter _ _ _).bind fun _ => .done (.ok (assertionJson prepared signatureBytes))).bind
          (fun json => .done (.ok (AssertionAnswer.returned json))) = _
      rw [Program.bind_done, Program.bind_done, Program.bind_done, Program.conclude_conclude, Program.conclude_conclude]
      refine congrArg (fun f => Program.conclude f _) (funext fun result => ?_)
      change _ = sign prepared.signature prepared.dataToSign >>= _
      rw [signed]
      rcases result with e | _
      · rfl
      · rfl

end AssertionCall

/-- What a prepared assertion is made of. -/
structure Prepares (options : WebAuthnRequestOptions) (credentialId : Bytes) (prepared : PreparedWebAuthnAssertion) :
    Prop where
  own : prepared.credential.credentialId = credentialId
  rpId : prepared.credential.rpId = options.rpId
  allowed : options.credentialsRestricted = false ∨ credentialId ∈ options.allowedCredentialIds
  previous : prepared.previousSignCount = prepared.credential.signCount
  next : prepared.nextSignCount = prepared.previousSignCount + 1
  positive : prepared.nextSignCount ≠ 0
  told : prepared.authenticatorData = Ctap2Encoder.assertionAuthenticatorData options.rpId prepared.nextSignCount

theorem preparedAssertion_eq_ok {options : WebAuthnRequestOptions} {credentialId : Bytes} {client : WebAuthnClientData}
    {initializedSignature : String → Except Failure Signature} {credential : PasskeyRecord}
    {prepared : PreparedWebAuthnAssertion} (own : credential.credentialId = credentialId)
    (ok : preparedAssertion options credentialId client initializedSignature (some credential) = .ok prepared) :
    Prepares options credentialId prepared := by
  unfold preparedAssertion at ok
  simp only [except_bind_eq_ok, except_require_eq_ok, except_pure_eq_ok, exists_const, okOr] at ok
  obtain ⟨_, found, rpId, allowed, positive, _, _, signature, _, rfl⟩ := ok
  cases found
  exact ⟨own, rpId, allowed, rfl, rfl, positive, rfl⟩

/-- What a call ends with, if it ends well. -/
def AssertionCall.Outcomes : AssertionCall → List (Purpose × Outcome) → Except Failure AssertionAnswer → Prop
  | .prepare options credentialId _ _, _, .ok answer =>
    ∃ prepared, answer = .prepared prepared ∧ Prepares options credentialId prepared
  | .finish prepared sign, tried, .ok answer => writes tried = [.made] ∧
    ∃ signatureBytes, sign prepared.signature prepared.dataToSign = .ok signatureBytes ∧
      answer = .returned (assertionJson prepared signatureBytes)
  | _, _, .error _ => True

omit [Crypto] in
theorem finishes_find (credentialId : Bytes) :
    (PasskeyStore.find credentialId).Finishes (fun _ result => ∀ credential, result = .ok (some credential) →
      credential.credentialId = credentialId) [] := by
  refine Program.Finishes.bind (fun _ _ => True) ?_ fun tried records _ => ?_
  · refine (silent_read [] rfl).mono fun later result _ => ?_
    cases result with
    | ok _ => trivial
    | error _ => exact nofun
  · intro credential found
    have same := Except.ok.inj found
    exact of_decide_eq_true (List.find?_some (p := fun record : PasskeyRecord => decide (record.credentialId = credentialId)) same)

theorem AssertionCall.outcomes_error (call : AssertionCall) (tried : List (Purpose × Outcome)) (e : Failure) :
    call.Outcomes tried (.error e) := by
  cases call with
  | prepare _ _ _ _ => trivial
  | finish _ _ => trivial

theorem AssertionCall.finishes_body (call : AssertionCall) : call.body.Finishes call.Outcomes [] := by
  rcases call.body_shape with ⟨e, ended⟩ | same
  · rw [ended]
    exact call.outcomes_error [] e
  · rw [same]
    refine Program.Finishes.conclude ?_
    cases call with
    | prepare options credentialId client initializedSignature =>
      refine Program.Finishes.bind (fun _ found => ∀ credential, found = some credential →
        credential.credentialId = credentialId) ?_ fun tried found own => ?_
      · refine (finishes_find credentialId).mono fun tried result own => ?_
        cases result with
        | ok found => exact fun credential same => own credential (congrArg _ same)
        | error e => trivial
      · change Outcomes (.prepare options credentialId client initializedSignature) tried
          (preparedAssertion options credentialId client initializedSignature found >>= _)
        rcases prepares : preparedAssertion options credentialId client initializedSignature found with e | prepared
        · exact outcomes_error _ _ e
        · rcases found with _ | credential
          · cases prepares
          · exact ⟨prepared, rfl, preparedAssertion_eq_ok (own credential rfl) prepares⟩
    | finish prepared sign =>
      refine (BioAuth.Native.finishes_body _).mono fun tried result told => ?_
      change Outcomes (.finish prepared sign) tried (sign prepared.signature prepared.dataToSign >>= _)
      rcases signed : sign prepared.signature prepared.dataToSign with e | signatureBytes
      · exact outcomes_error _ _ e
      · rcases result with e | answer
        · exact outcomes_error _ _ e
        · exact ⟨told, signatureBytes, signed, rfl⟩

def assertionStanding : Outlook AssertionCall.body :=
  standing.conclude AssertionCall.asks AssertionCall.concludes fun call =>
    call.body_shape.imp (fun ⟨e, ended⟩ => ⟨.error e, ended⟩) id

/-- The counter kept of a credential. -/
def counter (credentialId : Bytes) (preferences : Preferences) : Option UInt32 :=
  (preferences.shelf.current.bind (record credentialId)).map PasskeyRecord.signCount

/-- A change that is no write leaves every counter as it is, and a write puts one counter up. -/
inductive Counting (call : AssertionCall) (label : Purpose) (next : Bool → StoreCall AssertionAnswer)
    (before after : Preferences) : Prop
  | still (other : label ≠ .write) (same : ∀ credentialId, counter credentialId after = counter credentialId before)
  | counts (prepared : PreparedWebAuthnAssertion) (sign : Signature → Bytes → Except Failure Bytes)
    (finishes : call = .finish prepared sign) (writes : label = .write)
    (ends : ∀ made, ∃ result, next made = .done result)
    (expected : counter prepared.credential.credentialId before = some prepared.previousSignCount)
    (up : prepared.previousSignCount < prepared.nextSignCount)
    (now : counter prepared.credential.credentialId after = some prepared.nextSignCount)
    (onward : ∀ credentialId count, counter credentialId before = some count →
      ∃ later, counter credentialId after = some later ∧ count ≤ later)

theorem counting {call : AssertionCall} {label : Purpose} {edit : Preferences → Preferences}
    {next : Bool → StoreCall AssertionAnswer} {preferences : Preferences}
    (holds : assertionStanding.holds call (.change label edit next) preferences) (before : preferences.Honest)
    (after : (edit preferences).Honest) : Counting call label next preferences (edit preferences) := by
  rcases holds with ⟨_, never⟩ | ⟨under, stands, same⟩
  · cases never
  · obtain ⟨inner, rfl, rfl⟩ := Program.conclude_eq_change same
    have changing : Changing call.asks preferences label edit inner := PasskeyCall.Stands.changing stands
    rcases changing.shelf before after with ⟨other, kept⟩ | ⟨written, records, current, allowed, changed⟩
    · refine .still other fun credentialId => ?_
      unfold counter
      rw [kept]
    · have held (credentialId : Bytes) : counter credentialId preferences =
          (record credentialId records).map PasskeyRecord.signCount := by
        rw [counter, current]
        rfl
      have holding (credentialId : Bytes) : counter credentialId (edit preferences) =
          (record credentialId (call.asks.apply records)).map PasskeyRecord.signCount := by
        rw [counter, changed]
        rfl
      cases call with
      | prepare options credentialId client initializedSignature => exact allowed.elim
      | finish prepared sign =>
        obtain ⟨up, expected⟩ := allowed
        have ends : ∀ made, ∃ result, inner made = .done result := by
          subst written
          cases changing with
          | write _ _ _ _ _ _ _ _ ends => exact ends
        refine .counts prepared sign rfl written (fun made => ?_) ((held _).trans expected) up ?_ ?_
        · obtain ⟨result, ended⟩ := ends made
          refine ⟨_, congrArg (Program.conclude _) ended⟩
        · rw [holding]
          change (record _ (records.modify _ _)).map _ = _
          rw [record_updateCounter, if_pos rfl, Option.map_map]
          change (record prepared.credential.credentialId records).map PasskeyRecord.signCount = _ at expected
          obtain ⟨found, there, _⟩ := Option.map_eq_some_iff.mp expected
          rw [there]
          rfl
        · intro credentialId count known
          rw [held] at known
          obtain ⟨found, there, rfl⟩ := Option.map_eq_some_iff.mp known
          have permitted : (AssertionCall.finish prepared sign).asks.Allowed records := ⟨up, expected⟩
          obtain ⟨later, kept, more⟩ := permitted.counter nofun there
          exact ⟨later.signCount, (holding _).trans (congrArg (Option.map PasskeyRecord.signCount) kept), more⟩

def AssertionCall.finishes : AssertionCall → Bool
  | .finish _ _ => true
  | _ => false

/-- The assertions that were returned, in the order they were returned in. -/
def AssertionDeed.assertion : AssertionDeed → Option PreparedWebAuthnAssertion
  | .returned _ (.finish prepared _) (.ok _) => some prepared
  | _ => none

def assertions (log : List AssertionDeed) : List PreparedWebAuthnAssertion := log.filterMap AssertionDeed.assertion

/-- What was prepared is finished, with the signature that the prompt has unlocked. -/
def Started (log : List AssertionDeed) (prepared : PreparedWebAuthnAssertion) : Prop :=
  ∃ number options credentialId client initializedSignature initial,
    Deed.returned number (.prepare options credentialId client initializedSignature) (.ok (.prepared initial)) ∈ log ∧
      prepared = { initial with signature := prepared.signature }

/-- What the activities do. An assertion is finished on the main thread, one at a time. -/
def Ceremonial (ceremonies : Ceremonies) : Turn AssertionCall Preferences → Prop
  | .begin _ (.finish prepared _) => Started ceremonies.log prepared ∧
    ∀ place thread, ceremonies.threads place = some thread → thread.call.finishes = false
  | .meddle _ => False
  | _ => True

def CeremonialRun (ceremonies : Ceremonies) : List (Turn AssertionCall Preferences) → Prop
  | [] => True
  | turn :: turns => Ceremonial ceremonies turn ∧ CeremonialRun (ceremonies.after AssertionCall.body turn) turns

/-- A call no write of which has been confirmed. -/
def Unconfirmed (call : AssertionCall) (program : StoreCall AssertionAnswer) : Prop :=
  ∃ tried, .made ∉ writes tried ∧ program.Finishes call.Outcomes tried

/-- An assertion that only has to be returned. -/
structure Committed (ceremonies : Ceremonies) (prepared : PreparedWebAuthnAssertion)
    (program : StoreCall AssertionAnswer) : Prop where
  ended : ∃ answer, program = .done (.ok answer)
  current : counter prepared.credential.credentialId ceremonies.shared = some prepared.nextSignCount
  latest : ∀ earlier ∈ assertions ceremonies.log, earlier.credential.credentialId = prepared.credential.credentialId →
    earlier.nextSignCount < prepared.nextSignCount

structure Counted (ceremonies : Ceremonies) : Prop where
  lone : ∀ place other thread found, ceremonies.threads place = some thread → ceremonies.threads other = some found →
    thread.call.finishes = true → found.call.finishes = true → place = other
  waiting : ∀ place thread prepared sign, ceremonies.threads place = some thread → thread.call = .finish prepared sign →
    Unconfirmed thread.call thread.program ∨ Committed ceremonies prepared thread.program
  reached : ∀ earlier ∈ assertions ceremonies.log, ∃ count,
    counter earlier.credential.credentialId ceremonies.shared = some count ∧ earlier.nextSignCount ≤ count
  increasing : (assertions ceremonies.log).Pairwise fun first second =>
    first.credential.credentialId = second.credential.credentialId → first.nextSignCount < second.nextSignCount
  started : ∀ place thread prepared sign, ceremonies.threads place = some thread → thread.call = .finish prepared sign →
    Started ceremonies.log prepared
  logged : ∀ number prepared sign result, Deed.returned number (.finish prepared sign) result ∈ ceremonies.log →
    Started ceremonies.log prepared

omit [OrgJsonText] [Crypto] in
theorem Started.append {log news : List AssertionDeed} {prepared : PreparedWebAuthnAssertion}
    (started : Started log prepared) : Started (log ++ news) prepared := by
  obtain ⟨number, options, credentialId, client, initializedSignature, initial, member, same⟩ := started
  exact ⟨number, options, credentialId, client, initializedSignature, initial, List.mem_append_left _ member, same⟩

omit [OrgJsonText] [Crypto] in
theorem assertions_append_other {log : List AssertionDeed} {deed : AssertionDeed} (other : deed.assertion = none) :
    assertions (log ++ [deed]) = assertions log := by
  rw [assertions, List.filterMap_append, List.filterMap_cons_none other]
  exact List.append_nil _

theorem Unconfirmed.begin (call : AssertionCall) : Unconfirmed call call.body :=
  ⟨[], nofun, call.finishes_body⟩

theorem Unconfirmed.look {call : AssertionCall} {next : Preferences → StoreCall AssertionAnswer}
    (unconfirmed : Unconfirmed call (.look next)) (preferences : Preferences) : Unconfirmed call (next preferences) := by
  obtain ⟨tried, unmade, finishes⟩ := unconfirmed
  exact ⟨tried, unmade, finishes preferences⟩

theorem Unconfirmed.change {call : AssertionCall} {label : Purpose} {edit : Preferences → Preferences}
    {next : Bool → StoreCall AssertionAnswer} (unconfirmed : Unconfirmed call (.change label edit next)) {outcome : Outcome}
    (other : label ≠ .write ∨ outcome ≠ .made) : Unconfirmed call (next (outcome = .made)) := by
  obtain ⟨tried, unmade, finishes⟩ := unconfirmed
  refine ⟨tried ++ [(label, outcome)], fun member => unmade ?_, finishes outcome⟩
  by_cases write : label = .write
  · subst write
    have unmade_now : outcome ≠ .made := other.resolve_left fun differs => differs rfl
    rw [writes, List.filterMap_append] at member
    rcases List.mem_append.mp member with old | new
    · exact old
    · exact absurd (List.mem_singleton.mp new).symm unmade_now
  · rwa [writes_append_other write] at member

theorem Unconfirmed.fails {prepared : PreparedWebAuthnAssertion} {sign : Signature → Bytes → Except Failure Bytes}
    {result : Except Failure AssertionAnswer} (unconfirmed : Unconfirmed (.finish prepared sign) (.done result)) :
    ∃ e, result = .error e := by
  obtain ⟨tried, unmade, finishes⟩ := unconfirmed
  cases result with
  | error e => exact ⟨e, rfl⟩
  | ok answer =>
    refine absurd ?_ unmade
    have told : writes tried = [.made] := finishes.1
    rw [told]
    exact List.mem_singleton_self _

omit [Crypto] in
theorem Committed.of_same {ceremonies later : Ceremonies} {prepared : PreparedWebAuthnAssertion}
    {program : StoreCall AssertionAnswer} (committed : Committed ceremonies prepared program)
    (told : assertions later.log = assertions ceremonies.log)
    (same : ∀ credentialId, counter credentialId later.shared = counter credentialId ceremonies.shared) :
    Committed later prepared program :=
  ⟨committed.ended, (same _).trans committed.current, told ▸ committed.latest⟩

section Step
variable {ceremonies later : Ceremonies}

/-- What neither counts nor returns an assertion keeps everything, if no thread of an assertion goes on as though its write
had been made. -/
theorem Counted.frame (counted : Counted ceremonies) (grows : ∃ news, later.log = ceremonies.log ++ news)
    (told : assertions later.log = assertions ceremonies.log)
    (same : ∀ credentialId, counter credentialId later.shared = counter credentialId ceremonies.shared)
    (threads : ∀ place thread, later.threads place = some thread → ∃ before, ceremonies.threads place = some before ∧
      thread.call = before.call ∧ ∀ prepared sign, thread.call = .finish prepared sign →
        thread.program = before.program ∨ Unconfirmed thread.call thread.program)
    (logged : ∀ number prepared sign result, Deed.returned number (.finish prepared sign) result ∈ later.log →
      Started ceremonies.log prepared) : Counted later := by
  obtain ⟨news, grows⟩ := grows
  refine ⟨?_, ?_, ?_, told ▸ counted.increasing, ?_, ?_⟩
  · intro place other thread found here there finishes also
    obtain ⟨before, was, call, _⟩ := threads place thread here
    obtain ⟨known, existed, called, _⟩ := threads other found there
    exact counted.lone place other before known was existed (call ▸ finishes) (called ▸ also)
  · intro place thread prepared sign here finishes
    obtain ⟨before, was, call, goes_on⟩ := threads place thread here
    rcases goes_on prepared sign finishes with rests | unconfirmed
    · rcases counted.waiting place before prepared sign was (call.symm.trans finishes) with waits | committed
      · left
        rw [call, rests]
        exact waits
      · right
        rw [rests]
        exact committed.of_same told same
    · exact Or.inl unconfirmed
  · intro earlier member
    obtain ⟨count, known, more⟩ := counted.reached earlier (told ▸ member)
    exact ⟨count, (same _).trans known, more⟩
  · intro place thread prepared sign here finishes
    obtain ⟨before, was, call, _⟩ := threads place thread here
    rw [grows]
    exact (counted.started place before prepared sign was (call.symm.trans finishes)).append
  · intro number prepared sign result member
    rw [grows]
    exact (logged number prepared sign result member).append

/-- A call begins. -/
theorem Counted.begin (counted : Counted ceremonies) {place : Nat} {call : AssertionCall}
    (ceremonial : Ceremonial ceremonies (.begin place call)) :
    Counted { ceremonies with
      threads := Function.update ceremonies.threads place (some ⟨ceremonies.calls, call, call.body, false, false⟩)
      calls := ceremonies.calls + 1 } := by
  have found_as {other : Nat} {thread : Thread AssertionCall Preferences Purpose Failure AssertionAnswer}
      (there : Function.update ceremonies.threads place (some ⟨ceremonies.calls, call, call.body, false, false⟩) other =
        some thread) : other = place ∧ thread = ⟨ceremonies.calls, call, call.body, false, false⟩ ∨
          ceremonies.threads other = some thread := by
    rw [Function.update_apply] at there
    split at there
    · rename_i here
      exact Or.inl ⟨here, (Option.some.inj there).symm⟩
    · exact Or.inr there
  have alone {other : Nat} {thread : Thread AssertionCall Preferences Purpose Failure AssertionAnswer}
      (was : ceremonies.threads other = some thread) (finishes : call.finishes = true) : thread.call.finishes = false := by
    cases call with
    | prepare _ _ _ _ => cases finishes
    | finish prepared sign => exact ceremonial.2 other thread was
  refine ⟨?_, ?_, counted.reached, counted.increasing, ?_, counted.logged⟩
  · intro first second thread found here there finishes also
    rcases found_as here with ⟨rfl, rfl⟩ | was
    · rcases found_as there with ⟨rfl, rfl⟩ | existed
      · rfl
      · rw [alone existed finishes] at also
        cases also
    · rcases found_as there with ⟨rfl, rfl⟩ | existed
      · rw [alone was also] at finishes
        cases finishes
      · exact counted.lone first second thread found was existed finishes also
  · intro other thread prepared sign here finishes
    rcases found_as here with ⟨_, rfl⟩ | was
    · exact Or.inl (Unconfirmed.begin call)
    · exact (counted.waiting other thread prepared sign was finishes).imp id fun committed =>
        committed.of_same rfl fun _ => rfl
  · intro other thread prepared sign here finishes
    rcases found_as here with ⟨_, rfl⟩ | was
    · cases finishes
      exact ceremonial.1
    · exact counted.started other thread prepared sign was finishes

/-- A call returns. -/
theorem Counted.finish (counted : Counted ceremonies) {place : Nat}
    {thread : Thread AssertionCall Preferences Purpose Failure AssertionAnswer}
    (here : ceremonies.threads place = some thread) {result : Except Failure AssertionAnswer}
    (ended : thread.program = .done result) :
    Counted { ceremonies with
      threads := Function.update ceremonies.threads place none
      log := ceremonies.log ++ [.returned thread.number thread.call result] } := by
  have left {other : Nat} {found : Thread AssertionCall Preferences Purpose Failure AssertionAnswer}
      (there : Function.update ceremonies.threads place none other = some found) :
      other ≠ place ∧ ceremonies.threads other = some found := by
    rw [Function.update_apply] at there
    split at there
    · cases there
    · rename_i apart
      exact ⟨apart, there⟩
  have logged : ∀ number prepared sign answer, Deed.returned number (.finish prepared sign) answer ∈
      ceremonies.log ++ [.returned thread.number thread.call result] → Started ceremonies.log prepared := by
    intro number prepared sign answer member
    rcases List.mem_append.mp member with old | new
    · exact counted.logged number prepared sign answer old
    · have same := List.mem_singleton.mp new
      injection same with _ call _
      exact counted.started place thread prepared sign here call.symm
  by_cases returns : AssertionDeed.assertion (.returned thread.number thread.call result) = none
  · refine counted.frame ⟨_, rfl⟩ (assertions_append_other returns) (fun _ => rfl) ?_ logged
    intro other found there
    exact ⟨found, (left there).2, rfl, fun _ _ _ => Or.inl rfl⟩
  · rcases finishes : thread.call with ⟨_, _, _, _⟩ | ⟨prepared, sign⟩
    · rw [finishes] at returns
      exact absurd rfl returns
    · rcases result with e | answer
      · rw [finishes] at returns
        exact absurd rfl returns
      · have committed : Committed ceremonies prepared thread.program := by
          rcases counted.waiting place thread prepared sign here finishes with unconfirmed | committed
          · rw [finishes, ended] at unconfirmed
            obtain ⟨e, never⟩ := unconfirmed.fails
            cases never
          · exact committed
        have told : assertions (ceremonies.log ++ [.returned thread.number thread.call (.ok answer)]) =
            assertions ceremonies.log ++ [prepared] := by
          rw [assertions, List.filterMap_append, finishes]
          rfl
        have finishing : thread.call.finishes = true := by
          rw [finishes]
          rfl
        rw [finishes] at logged told
        refine ⟨?_, ?_, ?_, ?_, ?_, ?_⟩
        · exact fun first second known found there also =>
            counted.lone first second known found (left there).2 (left also).2
        · intro other found _ _ there finds
          obtain ⟨apart, was⟩ := left there
          have also : found.call.finishes = true := by
            rw [finds]
            rfl
          exact absurd (counted.lone other place found thread was here also finishing) apart
        · intro earlier member
          rw [told] at member
          rcases List.mem_append.mp member with old | new
          · exact counted.reached earlier old
          · cases List.mem_singleton.mp new
            exact ⟨_, committed.current, UInt32.le_refl _⟩
        · change (assertions (ceremonies.log ++ _)).Pairwise _
          rw [told]
          refine List.pairwise_append.mpr ⟨counted.increasing, List.pairwise_singleton _ _, fun earlier member last new => ?_⟩
          cases List.mem_singleton.mp new
          exact committed.latest earlier member
        · intro other found known signs there finds
          exact (counted.started other found known signs (left there).2 finds).append
        · intro number known signs answer member
          exact (logged number known signs answer member).append

/-- What a change makes of the activities. -/
def changed (ceremonies : Ceremonies) (place : Nat)
    (thread : Thread AssertionCall Preferences Purpose Failure AssertionAnswer) (label : Purpose)
    (edit : Preferences → Preferences) (next : Bool → StoreCall AssertionAnswer) (outcome : Outcome) : Ceremonies :=
  { ceremonies with
    shared := outcome.apply edit ceremonies.shared
    threads := Function.update (if outcome = .refused then ceremonies.threads else disturb ceremonies.threads) place
      (some { thread with program := next (outcome = .made), looked := true })
    log := ceremonies.log ++
      [.tried thread.number thread.call label outcome ceremonies.shared (outcome.apply edit ceremonies.shared)] }

section Change
variable {place : Nat} {thread : Thread AssertionCall Preferences Purpose Failure AssertionAnswer} {label : Purpose}
  {edit : Preferences → Preferences} {next : Bool → StoreCall AssertionAnswer} {outcome : Outcome}

omit [OrgJsonText] [Crypto] in
theorem changed_threads {other : Nat} {found : Thread AssertionCall Preferences Purpose Failure AssertionAnswer}
    (there : (changed ceremonies place thread label edit next outcome).threads other = some found) :
    other = place ∧ found.call = thread.call ∧ found.program = next (outcome = .made) ∨
      other ≠ place ∧ ∃ known, ceremonies.threads other = some known ∧ found.call = known.call ∧
        found.program = known.program := by
  change Function.update (if outcome = .refused then ceremonies.threads else disturb ceremonies.threads) place _ other =
    some found at there
  rw [Function.update_apply] at there
  split at there
  · rename_i own
    cases there
    exact Or.inl ⟨own, rfl, rfl⟩
  · rename_i apart
    right
    split at there
    · exact ⟨apart, found, there, rfl, rfl⟩
    · obtain ⟨known, was, rfl⟩ := disturb_eq_some.mp there
      exact ⟨apart, known, was, rfl, rfl⟩

omit [OrgJsonText] [Crypto] in
theorem assertions_changed :
    assertions (changed ceremonies place thread label edit next outcome).log = assertions ceremonies.log :=
  assertions_append_other rfl

theorem Counted.logged_changed (counted : Counted ceremonies) {number : Nat} {prepared : PreparedWebAuthnAssertion}
    {sign : Signature → Bytes → Except Failure Bytes} {result : Except Failure AssertionAnswer}
    (member : Deed.returned number (.finish prepared sign) result ∈
      (changed ceremonies place thread label edit next outcome).log) : Started ceremonies.log prepared := by
  rcases List.mem_append.mp member with old | new
  · exact counted.logged number prepared sign result old
  · cases List.mem_singleton.mp new

/-- A thread that is about to change something has had no write confirmed. -/
theorem Counted.unconfirmed (counted : Counted ceremonies) (here : ceremonies.threads place = some thread)
    (changes : thread.program = .change label edit next) (finishes : thread.call.finishes = true) :
    Unconfirmed thread.call (.change label edit next) := by
  rw [← changes]
  rcases called : thread.call with ⟨_, _, _, _⟩ | ⟨prepared, sign⟩
  · rw [called] at finishes
    cases finishes
  · rcases counted.waiting place thread prepared sign here called with waits | committed
    · exact called ▸ waits
    · obtain ⟨answer, ended⟩ := committed.ended
      rw [changes] at ended
      cases ended

/-- A change that leaves the counters as they are, and is no write that was confirmed. -/
theorem Counted.still (counted : Counted ceremonies) (here : ceremonies.threads place = some thread)
    (changes : thread.program = .change label edit next) (other : label ≠ .write ∨ outcome ≠ .made)
    (same : ∀ credentialId, counter credentialId (outcome.apply edit ceremonies.shared) =
      counter credentialId ceremonies.shared) : Counted (changed ceremonies place thread label edit next outcome) := by
  refine counted.frame ⟨_, rfl⟩ assertions_changed same ?_ fun _ _ _ _ member => counted.logged_changed member
  intro spot found there
  rcases changed_threads there with ⟨rfl, call, rests⟩ | ⟨_, known, was, call, rests⟩
  · refine ⟨thread, here, call, fun prepared sign finds => Or.inr ?_⟩
    have finishes : thread.call.finishes = true := by
      rw [← call, finds]
      rfl
    rw [call, rests]
    exact (counted.unconfirmed here changes finishes).change other
  · exact ⟨known, was, call, fun _ _ _ => Or.inl rests⟩

/-- The write of an assertion. Nothing else is being finished. -/
theorem Counted.counts (counted : Counted ceremonies) (here : ceremonies.threads place = some thread)
    (changes : thread.program = .change label edit next) {prepared : PreparedWebAuthnAssertion}
    {sign : Signature → Bytes → Except Failure Bytes} (finishes : thread.call = .finish prepared sign)
    (refused : outcome ≠ .refused) (ends : ∀ made, ∃ result, next made = .done result)
    (expected : counter prepared.credential.credentialId ceremonies.shared = some prepared.previousSignCount)
    (up : prepared.previousSignCount < prepared.nextSignCount)
    (now : counter prepared.credential.credentialId (edit ceremonies.shared) = some prepared.nextSignCount)
    (onward : ∀ credentialId count, counter credentialId ceremonies.shared = some count →
      ∃ later, counter credentialId (edit ceremonies.shared) = some later ∧ count ≤ later) :
    Counted (changed ceremonies place thread label edit next outcome) := by
  have made : (changed ceremonies place thread label edit next outcome).shared = edit ceremonies.shared := if_neg refused
  have finishing : thread.call.finishes = true := by
    rw [finishes]
    rfl
  refine ⟨?_, ?_, ?_, ?_, ?_, ?_⟩
  · intro first second found known there also one other
    rcases changed_threads there with ⟨rfl, call, _⟩ | ⟨_, before, was, call, _⟩
    · rcases changed_threads also with ⟨rfl, _⟩ | ⟨_, after, existed, called, _⟩
      · rfl
      · exact counted.lone first second thread after here existed finishing (called ▸ other)
    · rcases changed_threads also with ⟨rfl, _⟩ | ⟨_, after, existed, called, _⟩
      · exact counted.lone first second before thread was here (call ▸ one) finishing
      · exact counted.lone first second before after was existed (call ▸ one) (called ▸ other)
  · intro spot found other signs there finds
    rcases changed_threads there with ⟨rfl, call, rests⟩ | ⟨apart, before, was, call, _⟩
    · rw [call, finishes] at finds
      cases finds
      rw [rests, call]
      by_cases confirmed : outcome = .made
      · subst confirmed
        obtain ⟨result, ended⟩ := ends true
        change Unconfirmed thread.call (next true) ∨ Committed _ prepared (next true)
        rw [ended]
        rcases result with e | answer
        · exact Or.inl ⟨[], nofun, thread.call.outcomes_error [] e⟩
        · refine Or.inr ⟨⟨answer, rfl⟩, made ▸ now, fun earlier member same => ?_⟩
          rw [assertions_changed] at member
          obtain ⟨count, known, more⟩ := counted.reached earlier member
          rw [same, expected] at known
          cases known
          exact UInt32.lt_of_le_of_lt more up
      · exact Or.inl ((counted.unconfirmed here changes finishing).change (Or.inr confirmed))
    · have also : before.call.finishes = true := by
        rw [← call, finds]
        rfl
      exact absurd (counted.lone spot place before thread was here also finishing) apart
  · intro earlier member
    rw [assertions_changed] at member
    obtain ⟨count, known, more⟩ := counted.reached earlier member
    obtain ⟨later, last, further⟩ := onward _ count known
    exact ⟨later, made ▸ last, UInt32.le_trans more further⟩
  · rw [assertions_changed]
    exact counted.increasing
  · intro spot found known signs there finds
    rcases changed_threads there with ⟨rfl, call, _⟩ | ⟨_, before, was, call, _⟩
    · exact (counted.started spot thread known signs here (call ▸ finds)).append
    · exact (counted.started spot before known signs was (call ▸ finds)).append
  · exact fun number known signs result member => (counted.logged_changed member).append

/-- A change is refused, or is made by a call that has seen nothing stale. -/
theorem Counted.change (counted : Counted ceremonies) (fresh : ceremonies.Fresh assertionStanding)
    (here : ceremonies.threads place = some thread) (changes : thread.program = .change label edit next)
    (timely : ceremonies.Timely (.step place outcome)) (before : ceremonies.shared.Honest)
    (after : (outcome.apply edit ceremonies.shared).Honest) :
    Counted (changed ceremonies place thread label edit next outcome) := by
  by_cases refused : outcome = .refused
  · refine counted.still here changes (Or.inr (by rw [refused]; nofun)) fun credentialId => ?_
    rw [refused]
    rfl
  · have holds := (fresh place thread here).2 (timely thread here refused ⟨label, edit, next, changes⟩)
    rw [changes] at holds
    have made : outcome.apply edit ceremonies.shared = edit ceremonies.shared := if_neg refused
    rw [made] at after
    cases counting holds before after with
    | still other same => exact counted.still here changes (Or.inl other) (made ▸ same)
    | counts prepared sign finishes writes ends expected up now onward =>
      exact counted.counts here changes finishes refused ends expected up now onward

end Change

/-- One turn. -/
theorem Counted.after (counted : Counted ceremonies) (fresh : ceremonies.Fresh assertionStanding)
    {turn : Turn AssertionCall Preferences} (ceremonial : Ceremonial ceremonies turn) (timely : ceremonies.Timely turn)
    (honest : HonestLog (ceremonies.after AssertionCall.body turn).log) :
    Counted (ceremonies.after AssertionCall.body turn) := by
  cases turn with
  | begin place call =>
    unfold Interleaved.after
    dsimp only
    split
    · exact counted
    · exact counted.begin ceremonial
  | step place outcome =>
    unfold Interleaved.after at honest ⊢
    dsimp only at honest ⊢
    split
    · exact counted
    · rename_i thread here
      simp only [here] at honest
      split
      · rename_i result ended
        exact counted.finish here ended
      · rename_i next looks
        refine counted.frame ⟨[], (List.append_nil _).symm⟩ rfl (fun _ => rfl) ?_ counted.logged
        intro other found there
        change Function.update ceremonies.threads place _ other = some found at there
        rw [Function.update_apply] at there
        split at there
        · rename_i own
          cases there
          refine ⟨thread, own ▸ here, rfl, fun prepared sign finds => Or.inr ?_⟩
          rcases counted.waiting place thread prepared sign here finds with waits | committed
          · rw [looks] at waits
            exact waits.look ceremonies.shared
          · obtain ⟨answer, ended⟩ := committed.ended
            rw [looks] at ended
            cases ended
        · exact ⟨found, there, rfl, fun _ _ _ => Or.inl rfl⟩
      · rename_i label edit next changes
        simp only [changes] at honest
        obtain ⟨before, after⟩ := honest _ _ _ _ _ _ (List.mem_append_right _ (List.mem_singleton_self _))
        exact counted.change fresh here changes timely before after
  | meddle edit => exact ceremonial.elim

/-- A run. -/
theorem Counted.run (counted : Counted ceremonies) (fresh : ceremonies.Fresh assertionStanding)
    {turns : List (Turn AssertionCall Preferences)} (ceremonial : CeremonialRun ceremonies turns)
    (timely : ceremonies.TimelyRun AssertionCall.body turns)
    (honest : HonestLog (ceremonies.run AssertionCall.body turns).log) : Counted (ceremonies.run AssertionCall.body turns) := by
  induction turns generalizing ceremonies with
  | nil => exact counted
  | cons turn turns ih =>
    obtain ⟨news, log, _⟩ := story_run AssertionCall.body (ceremonies.after AssertionCall.body turn) turns
    have honest' : HonestLog (ceremonies.after AssertionCall.body turn).log := by
      intro number call label outcome before after member
      refine honest number call label outcome before after ?_
      change _ ∈ ((ceremonies.after AssertionCall.body turn).run AssertionCall.body turns).log
      rw [log]
      exact List.mem_append_left _ member
    exact ih (counted.after fresh ceremonial.1 timely.1 honest') (fresh.after assertionStanding turn) ceremonial.2 timely.2
      honest

end Step

/-- What a relying party may count on of the assertions that are returned. -/
structure AssertionsSound [Lowercase] (ceremonies : Ceremonies) : Prop where
  /-- Those of one credential carry counters that go up. -/
  increasing : (assertions ceremonies.log).Pairwise fun first second =>
    first.credential.credentialId = second.credential.credentialId →
      Ctap2Encoder.signCount first.authenticatorData < Ctap2Encoder.signCount second.authenticatorData
  /-- Each was prepared for a request, and its counter is the next one, which is no smaller for being kept in 32 bits. -/
  requested : ∀ number prepared sign answer, Deed.returned number (.finish prepared sign) (.ok answer) ∈ ceremonies.log →
    ∃ number options client initializedSignature initial signatureBytes,
      Deed.returned number (.prepare options prepared.credential.credentialId client initializedSignature)
        (.ok (.prepared initial)) ∈ ceremonies.log ∧
      prepared.credential.rpId = options.rpId ∧
      (options.credentialsRestricted = true → prepared.credential.credentialId ∈ options.allowedCredentialIds) ∧
      (∀ json root array, WebAuthnRequestParser.request json = .ok options → JsonObject.parse json = .ok root →
        JsonObject.optJSONArray "allowCredentials" root = some array → array ≠ [] →
          ∃ descriptor ∈ array, credentialId descriptor = some prepared.credential.credentialId) ∧
      prepared.authenticatorData = Ctap2Encoder.assertionAuthenticatorData options.rpId prepared.nextSignCount ∧
      prepared.nextSignCount.toNat = prepared.credential.signCount.toNat + 1 ∧
      sign prepared.signature prepared.dataToSign = .ok signatureBytes ∧
      answer = .returned (assertionJson prepared signatureBytes)

omit [OrgJsonText] [Crypto] in
theorem toNat_succ {count : UInt32} (positive : count + 1 ≠ 0) : (count + 1).toNat = count.toNat + 1 := by
  have small := count.toNat_lt
  have sum : (count + 1).toNat = (count.toNat + 1) % 2 ^ 32 := UInt32.toNat_add count 1
  by_cases last : count.toNat + 1 = 2 ^ 32
  · rw [last] at sum
    exact absurd (UInt32.toNat_inj.mp sum) positive
  · rw [sum]
    exact Nat.mod_eq_of_lt (by omega)

theorem Prepares.of_started {start : Preferences} {turns : List (Turn AssertionCall Preferences)}
    {prepared : PreparedWebAuthnAssertion}
    (started : Started ((quiet start : Ceremonies).run AssertionCall.body turns).log prepared) :
    ∃ number options client initializedSignature initial,
      Deed.returned number (.prepare options prepared.credential.credentialId client initializedSignature)
        (.ok (.prepared initial)) ∈ ((quiet start : Ceremonies).run AssertionCall.body turns).log ∧
      Prepares options prepared.credential.credentialId prepared := by
  have kept := (Kept.quiet start : (quiet start : Ceremonies).Kept AssertionCall.Outcomes).run
    AssertionCall.finishes_body turns
  obtain ⟨number, options, credentialId, client, initializedSignature, initial, member, same⟩ := started
  obtain ⟨told, answer, prepares⟩ := (kept.returned number _ _ member).1
  cases answer
  have own : prepared.credential.credentialId = credentialId := by
    rw [same]
    exact prepares.own
  subst own
  refine ⟨number, options, client, initializedSignature, initial, member, ?_⟩
  rw [same] at prepares ⊢
  exact ⟨rfl, prepares.rpId, prepares.allowed, prepares.previous, prepares.next, prepares.positive, prepares.told⟩

theorem counted_quiet (start : Preferences) : Counted (quiet start) where
  lone _ _ _ _ never := nomatch never
  waiting _ _ _ _ never := nomatch never
  reached _ never := nomatch never
  increasing := List.Pairwise.nil
  started _ _ _ _ never := nomatch never
  logged _ _ _ _ never := nomatch never

/-- However the ceremonies of any number of activities interleave, if no call changes the preferences after another has since
it read. -/
theorem assertions_sound [Lowercase] (start : Preferences) (turns : List (Turn AssertionCall Preferences))
    (ceremonial : CeremonialRun (quiet start) turns)
    (timely : (quiet start : Ceremonies).TimelyRun AssertionCall.body turns)
    (honest : HonestLog ((quiet start : Ceremonies).run AssertionCall.body turns).log) :
    AssertionsSound ((quiet start : Ceremonies).run AssertionCall.body turns) := by
  have fresh : (quiet start : Ceremonies).Fresh assertionStanding := fun _ _ never => nomatch never
  have counted := (counted_quiet start).run fresh ceremonial timely honest
  have kept := (Kept.quiet start : (quiet start : Ceremonies).Kept AssertionCall.Outcomes).run
    AssertionCall.finishes_body turns
  have returned {prepared : PreparedWebAuthnAssertion}
      (member : prepared ∈ assertions ((quiet start : Ceremonies).run AssertionCall.body turns).log) :
      Ctap2Encoder.signCount prepared.authenticatorData = prepared.nextSignCount.toNat := by
    obtain ⟨deed, logged, shown⟩ := List.mem_filterMap.mp member
    have started : Started ((quiet start : Ceremonies).run AssertionCall.body turns).log prepared := by
      rcases deed with ⟨number, ⟨_, _, _, _⟩ | ⟨known, sign⟩, e | answer⟩ | _ | _
      · cases shown
      · cases shown
      · cases shown
      · cases shown
        exact counted.logged number prepared sign _ logged
      · cases shown
      · cases shown
    obtain ⟨_, options, _, _, _, _, prepares⟩ := Prepares.of_started started
    rw [prepares.told]
    exact Ctap2Encoder.signCount_assertionAuthenticatorData _ _
  constructor
  · refine counted.increasing.imp_of_mem fun first second up same => ?_
    rw [returned first, returned second]
    exact UInt32.lt_iff_toNat_lt.mp (up same)
  · intro number prepared sign answer member
    obtain ⟨other, options, client, initializedSignature, initial, was, prepares⟩ :=
      Prepares.of_started (counted.logged number prepared sign _ member)
    obtain ⟨_, signatureBytes, signed, same⟩ := (kept.returned number _ _ member).1
    have allowed (restricted : options.credentialsRestricted = true) :
        prepared.credential.credentialId ∈ options.allowedCredentialIds := by
      rcases prepares.allowed with never | inside
      · rw [restricted] at never
        cases never
      · exact inside
    refine ⟨other, options, client, initializedSignature, initial, signatureBytes, was, prepares.rpId, allowed, ?_,
      prepares.told, ?_, signed, same⟩
    · intro json root array accepted parsed listed given
      obtain ⟨restricted, known⟩ := request_restricts accepted parsed listed given
      exact known _ (allowed restricted)
    · rw [prepares.next, prepares.previous]
      refine toNat_succ fun wraps => prepares.positive ?_
      rw [prepares.next, prepares.previous, wraps]

end Calls

section Plain

def AssertionDeed.prepares : AssertionDeed → Option PreparedWebAuthnAssertion
  | .returned _ (.prepare _ _ _ _) (.ok (.prepared prepared)) => some prepared
  | _ => none

/-- A turn of one of the first activities that is ceremonial. -/
def ceremonialWithin (places : Nat) (ceremonies : Ceremonies) : Turn AssertionCall Preferences → Bool
  | .begin place (.finish prepared _) => place < places &&
    (ceremonies.log.filterMap AssertionDeed.prepares).any (fun initial =>
      prepared = { initial with signature := prepared.signature }) &&
    (List.range places).all fun place => (ceremonies.threads place).all fun thread => !thread.call.finishes
  | .begin place _ => place < places
  | .step place _ => place < places
  | .meddle _ => false

def ceremonialRunWithin [OrgJsonText] [Crypto] (places : Nat) (ceremonies : Ceremonies) :
    List (Turn AssertionCall Preferences) → Bool
  | [] => true
  | turn :: turns => ceremonialWithin places ceremonies turn &&
    ceremonialRunWithin places (ceremonies.after AssertionCall.body turn) turns

theorem ceremonial_of_within {places : Nat} {ceremonies : Ceremonies} {turn : Turn AssertionCall Preferences}
    (idle : ∀ place, places ≤ place → ceremonies.threads place = none)
    (checked : ceremonialWithin places ceremonies turn = true) :
    Ceremonial ceremonies turn ∧ ∀ place, places ≤ place → turn.place ≠ some place := by
  have apart {place : Nat} (inside : place < places) : ∀ other, places ≤ other → some place ≠ some other := by
    intro other outside same
    cases same
    omega
  rcases turn with ⟨place, ⟨_, _, _, _⟩ | ⟨prepared, sign⟩⟩ | ⟨place, outcome⟩ | edit
  · exact ⟨trivial, apart (of_decide_eq_true checked)⟩
  · obtain ⟨front, free⟩ := Bool.and_eq_true_iff.mp checked
    obtain ⟨inside, begun⟩ := Bool.and_eq_true_iff.mp front
    refine ⟨⟨?_, fun other thread there => ?_⟩, apart (of_decide_eq_true inside)⟩
    · obtain ⟨initial, member, same⟩ := List.any_eq_true.mp begun
      obtain ⟨deed, logged, shown⟩ := List.mem_filterMap.mp member
      rcases deed with ⟨number, ⟨options, credentialId, client, initialized⟩ | _, e | ⟨_ | _⟩⟩ | _ | _
      · cases shown
      · cases shown
        exact ⟨number, options, credentialId, client, initialized, _, logged, of_decide_eq_true same⟩
      · cases shown
      · cases shown
      · cases shown
      · cases shown
      · cases shown
      · cases shown
    · by_cases within : other < places
      · have here := List.all_eq_true.mp free other (List.mem_range.mpr within)
        rw [there] at here
        simpa using here
      · rw [idle other (by omega)] at there
        cases there
  · exact ⟨trivial, apart (of_decide_eq_true checked)⟩
  · cases checked

theorem ceremonialRun_of_within [OrgJsonText] [Crypto] (places : Nat) {ceremonies : Ceremonies}
    {turns : List (Turn AssertionCall Preferences)}
    (idle : ∀ place, places ≤ place → ceremonies.threads place = none)
    (checked : ceremonialRunWithin places ceremonies turns = true) : CeremonialRun ceremonies turns := by
  induction turns generalizing ceremonies with
  | nil => trivial
  | cons turn turns ih =>
    obtain ⟨first, rest⟩ := Bool.and_eq_true_iff.mp checked
    obtain ⟨ceremonial, elsewhere⟩ := ceremonial_of_within idle first
    exact ⟨ceremonial, ih (fun place outside => idle_after (idle place outside) (elsewhere place outside)) rest⟩

/-- A hash that knows one relying party. -/
abbrev adaCrypto : Crypto where
  sha256 input := if input = utf8 "example.com" then
      ⟨[0xa3, 0x79, 0xa6, 0xf6, 0xee, 0xaf, 0xb9, 0xa5, 0x5e, 0x37, 0x8c, 0x11, 0x80, 0x34, 0xe2, 0x75,
        0x1e, 0x68, 0x2f, 0xab, 0x9f, 0x2d, 0x30, 0xab, 0x13, 0xd2, 0x12, 0x55, 0x86, 0xce, 0x19, 0x47], rfl⟩
    else Crypto.plain.sha256 input
  hkdf := Crypto.plain.hkdf
  chacha20Poly1305 := Crypto.plain.chacha20Poly1305

def adaOptions : WebAuthnRequestOptions := ⟨"example.com", [7], [[1]], true⟩

def adaClient : WebAuthnClientData := ⟨"https://example.com", none, some (List.replicate 32 9), "platform"⟩

def adaPrepare : AssertionCall := .prepare adaOptions [1] adaClient fun keyAlias => .ok ⟨keyAlias⟩

def adaPrepared (signCount : UInt32) : PreparedWebAuthnAssertion :=
  letI := adaCrypto
  let authData := Ctap2Encoder.assertionAuthenticatorData "example.com" (signCount + 1)
  ⟨{ ada with signCount }, none, authData, ⟨"key"⟩, authData ++ List.replicate 32 9, signCount, signCount + 1, "platform"⟩

def adaFinish (signCount : UInt32) : AssertionCall := .finish (adaPrepared signCount) fun _ _ => .ok [5]

def wholeCeremony (place : Nat) (call : AssertionCall) : List (Turn AssertionCall Preferences) :=
  .begin place call :: List.replicate 7 (.step place .made)

/-- Two activities prepare at once, and the one that is finished last has to prepare again. -/
def contestedTurns : List (Turn AssertionCall Preferences) :=
  wholeCeremony 0 adaPrepare ++ wholeCeremony 1 adaPrepare ++ wholeCeremony 0 (adaFinish 0) ++
    wholeCeremony 1 (adaFinish 0) ++ wholeCeremony 1 adaPrepare ++ wholeCeremony 1 (adaFinish 1)

theorem assertions_sound_plain :
    letI := adaOrgJson
    letI := adaCrypto
    letI : Lowercase := ⟨String.toLower⟩
    let ceremonies := (quiet ⟨adaWrite (document [ada]), none, none⟩ : Ceremonies).run AssertionCall.body contestedTurns
    AssertionsSound ceremonies ∧
      (assertions ceremonies.log).map (fun prepared => Ctap2Encoder.signCount prepared.authenticatorData) = [1, 2] := by
  let := adaOrgJson
  let := adaCrypto
  let : Lowercase := ⟨String.toLower⟩
  refine ⟨assertions_sound _ contestedTurns (ceremonialRun_of_within 2 (fun _ _ => rfl) (by decide +kernel))
    (by decide +kernel) (ada_honestLog (by decide +kernel)), by decide +kernel⟩

/-- The first activity is about to keep what it read of the first version of the records while the second migrates them and
returns an assertion. -/
def staleTurns : List (Turn AssertionCall Preferences) :=
  .begin 0 adaPrepare :: List.replicate 3 (.step 0 .made) ++ wholeCeremony 1 adaPrepare ++ wholeCeremony 1 (adaFinish 0) ++
    List.replicate 2 (.step 0 .made) ++ wholeCeremony 0 (adaFinish 0)

/-- Two assertions with one counter. -/
theorem counter_returned_twice :
    letI := adaOrgJson
    letI := adaCrypto
    let start : Preferences := ⟨none, none, adaWrite (recordsArray [ada])⟩
    CeremonialRun (quiet start) staleTurns ∧
      (assertions ((quiet start : Ceremonies).run AssertionCall.body staleTurns).log).map
        (fun prepared => (prepared.credential.credentialId, Ctap2Encoder.signCount prepared.authenticatorData)) =
          [([1], 1), ([1], 1)] := by
  let := adaOrgJson
  let := adaCrypto
  exact ⟨ceremonialRun_of_within 2 (fun _ _ => rfl) (by decide +kernel), by decide +kernel⟩

end Plain

end BioAuth.Native
