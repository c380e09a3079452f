import Mathlib.Data.List.Nodup
import Mathlib.Logic.Function.Basic

namespace BioAuth.Mobile

/-- Where a call of `acquire` stands: it waits for the one before it, it has returned its release, or it has thrown. -/
inductive Waiting
  | waits
  | returned
  | threw (message : String)
  deriving DecidableEq

/-- One call of `acquire`. Its future is completed once it is released. -/
structure Slot where
  /-- The call whose future it waits for. The first waits for one that is completed from the start. -/
  previous : Option Nat
  stage : Waiting
  didRelease : Bool

/-- The calls go by the order in which they were made. The callers that obtained the gate are an onlooker's note. -/
structure SerialGate where
  tail : Option Nat
  slots : Nat → Option Slot
  calls : Nat
  obtained : List Nat

namespace SerialGate

inductive Turn
  | acquire
  /-- The future a call waits for is completed. -/
  | resume (call : Nat)
  /-- It is not, and the time is up. -/
  | timeout (call : Nat)
  /-- A caller calls the release it was given, for the first time or again. -/
  | release (call : Nat)

def neverReleased : String := "the previous Bluetooth connection was never released"

def fresh : SerialGate := ⟨none, fun _ => none, 0, []⟩

/-- The future of a call is completed. -/
def Completed (gate : SerialGate) : Option Nat → Prop
  | none => True
  | some call => ∃ slot ∈ gate.slots call, slot.didRelease = true

instance (gate : SerialGate) : DecidablePred gate.Completed
  | none => isTrue trivial
  | some call => inferInstanceAs (Decidable (∃ slot ∈ gate.slots call, slot.didRelease = true))

def put (gate : SerialGate) (call : Nat) (slot : Slot) : SerialGate :=
  { gate with slots := Function.update gate.slots call (some slot) }

@[simp, grind =] theorem slots_put (gate : SerialGate) (call : Nat) (slot : Slot) (other : Nat) :
    (gate.put call slot).slots other = if other = call then some slot else gate.slots other :=
  Function.update_apply ..

@[simp, grind =] theorem tail_put (gate : SerialGate) (call : Nat) (slot : Slot) : (gate.put call slot).tail = gate.tail := rfl

@[simp, grind =] theorem calls_put (gate : SerialGate) (call : Nat) (slot : Slot) :
    (gate.put call slot).calls = gate.calls := rfl

@[simp, grind =] theorem obtained_put (gate : SerialGate) (call : Nat) (slot : Slot) :
    (gate.put call slot).obtained = gate.obtained := rfl

def after (gate : SerialGate) : Turn → SerialGate
  | .acquire =>
    { gate.put gate.calls ⟨gate.tail, .waits, false⟩ with tail := some gate.calls, calls := gate.calls + 1 }
  | .resume call =>
    match gate.slots call with
    | some ⟨previous, .waits, didRelease⟩ =>
      if gate.Completed previous then
        { gate.put call ⟨previous, .returned, didRelease⟩ with obtained := gate.obtained ++ [call] }
      else gate
    | _ => gate
  | .timeout call =>
    match gate.slots call with
    | some ⟨previous, .waits, _⟩ =>
      -- its slot is given up on the way out
      if gate.Completed previous then gate else gate.put call ⟨previous, .threw neverReleased, true⟩
    | _ => gate
  | .release call =>
    match gate.slots call with
    | some ⟨previous, .returned, _⟩ => gate.put call ⟨previous, .returned, true⟩
    | _ => gate

def run (gate : SerialGate) (turns : List Turn) : SerialGate := turns.foldl after gate

/-- The caller has obtained the gate and not released it. -/
def Holds (gate : SerialGate) (call : Nat) : Prop := ∃ previous, gate.slots call = some ⟨previous, .returned, false⟩

/-- The caller is done with the gate, or has given up. -/
def Done (gate : SerialGate) (call : Nat) : Prop := gate.Completed (some call)

instance (gate : SerialGate) : DecidablePred gate.Done := fun call => inferInstanceAs (Decidable (gate.Completed (some call)))

/-- What holds in every run: a call waits for the one before it, and is released only after it was let in or gave up. -/
structure Sound (gate : SerialGate) : Prop where
  tail : gate.tail = if gate.calls = 0 then none else some (gate.calls - 1)
  young : ∀ call slot, gate.slots call = some slot → call < gate.calls
  present : ∀ call < gate.calls, gate.slots call ≠ none
  previous : ∀ call slot, gate.slots call = some slot → slot.previous = if call = 0 then none else some (call - 1)
  waits : ∀ call slot, gate.slots call = some slot → slot.stage = .waits → slot.didRelease = false
  threw : ∀ call slot message, gate.slots call = some slot → slot.stage = .threw message → slot.didRelease = true
  obtained : ∀ call, call ∈ gate.obtained ↔ ∃ slot, gate.slots call = some slot ∧ slot.stage = .returned

/-- Everything that one turn can do. -/
inductive Step (gate : SerialGate) : Turn → SerialGate → Prop
  | stay {turn : Turn} : Step gate turn gate
  | acquire : Step gate .acquire
      { gate.put gate.calls ⟨gate.tail, .waits, false⟩ with tail := some gate.calls, calls := gate.calls + 1 }
  | resume {call : Nat} {previous : Option Nat} {didRelease : Bool}
      (here : gate.slots call = some ⟨previous, .waits, didRelease⟩) (completed : gate.Completed previous) :
      Step gate (.resume call) { gate.put call ⟨previous, .returned, didRelease⟩ with obtained := gate.obtained ++ [call] }
  | timeout {call : Nat} {previous : Option Nat} {didRelease : Bool}
      (here : gate.slots call = some ⟨previous, .waits, didRelease⟩) (late : ¬gate.Completed previous) :
      Step gate (.timeout call) (gate.put call ⟨previous, .threw neverReleased, true⟩)
  | release {call : Nat} {previous : Option Nat} {didRelease : Bool}
      (here : gate.slots call = some ⟨previous, .returned, didRelease⟩) :
      Step gate (.release call) (gate.put call ⟨previous, .returned, true⟩)

theorem step_after (gate : SerialGate) (turn : Turn) : Step gate turn (gate.after turn) := by
  fun_cases SerialGate.after gate turn with
  | case1 => exact .acquire
  | case2 call previous didRelease here completed => exact .resume here completed
  | case3 => exact .stay
  | case4 => exact .stay
  | case5 => exact .stay
  | case6 call previous _ here late => exact .timeout here late
  | case7 => exact .stay
  | case8 call previous _ here => exact .release here
  | case9 => exact .stay

theorem Sound.step {gate next : SerialGate} {turn : Turn} (sound : gate.Sound) (step : Step gate turn next) :
    next.Sound := by
  obtain ⟨tail, young, present, previous, waits, threw, obtained⟩ := sound
  cases step with
  | stay => exact ⟨tail, young, present, previous, waits, threw, obtained⟩
  | acquire => constructor <;> grind
  | @resume call waited didRelease here completed =>
    refine ⟨tail, by grind, by grind, by grind, by grind, by grind, fun other => ?_⟩
    by_cases same : other = call
    · subst same
      refine iff_of_true (by simp) ?_
      exact ⟨⟨waited, .returned, didRelease⟩, by simp, rfl⟩
    · have before := obtained other
      simp only [slots_put, if_neg same, List.mem_append, List.mem_singleton]
      rw [or_iff_left same, before]
  | timeout here late => constructor <;> grind
  | release here => constructor <;> grind

theorem sound_fresh : fresh.Sound := by
  constructor <;> simp [fresh]

theorem Sound.run {gate : SerialGate} (sound : gate.Sound) (turns : List Turn) : (gate.run turns).Sound := by
  induction turns generalizing gate with
  | nil => exact sound
  | cons turn turns ih => exact ih (sound.step (step_after gate turn))

/-- Whoever is done stays done. -/
theorem Step.done {gate next : SerialGate} {turn : Turn} (step : Step gate turn next) (sound : gate.Sound) {call : Nat}
    (done : gate.Done call) : next.Done call := by
  obtain ⟨slot, here, released⟩ := done
  have young := sound.young call slot here
  have waits := sound.waits call slot here
  cases step with
  | stay => exact ⟨slot, here, released⟩
  | acquire => exact ⟨slot, by grind, released⟩
  | @resume other previous didRelease there completed => exact ⟨slot, by grind, released⟩
  | @timeout other previous _ there late => exact ⟨slot, by grind, released⟩
  | @release other previous _ there =>
    by_cases same : call = other
    · exact ⟨⟨previous, .returned, true⟩, by grind, rfl⟩
    · exact ⟨slot, by grind, released⟩

/-- No caller is let in behind a wait that timed out while one before that still holds the gate or waits for it. -/
def Patient (gate : SerialGate) : Turn → Prop
  | .resume call => ∀ slot ∈ gate.slots call, ∀ before ∈ slot.previous, ∀ earlier ∈ gate.slots before,
    earlier.didRelease = true → earlier.stage ≠ .returned → ∀ other < before, gate.Done other
  | _ => True

instance (gate : SerialGate) : DecidablePred gate.Patient
  | .resume call => inferInstanceAs (Decidable (∀ slot ∈ gate.slots call, ∀ before ∈ slot.previous,
    ∀ earlier ∈ gate.slots before, earlier.didRelease = true → earlier.stage ≠ .returned → ∀ other < before, gate.Done other))
  | .acquire | .timeout _ | .release _ => isTrue trivial

def PatientRun : SerialGate → List Turn → Prop
  | _, [] => True
  | gate, turn :: turns => gate.Patient turn ∧ PatientRun (gate.after turn) turns

instance decidablePatientRun : (gate : SerialGate) → (turns : List Turn) → Decidable (PatientRun gate turns)
  | _, [] => isTrue trivial
  | gate, turn :: turns => @instDecidableAnd _ _ _ (decidablePatientRun (gate.after turn) turns)

/-- Whoever was let in found everyone before it done. -/
structure Queued (gate : SerialGate) : Prop where
  before : ∀ call slot, gate.slots call = some slot → slot.stage = .returned → ∀ other < call, gate.Done other
  order : gate.obtained.Pairwise (· < ·)

theorem Queued.entry {gate : SerialGate} (queued : gate.Queued) (sound : gate.Sound) {call : Nat} {slot : Slot}
    (here : gate.slots call = some slot) (completed : gate.Completed slot.previous) (patient : gate.Patient (.resume call)) :
    ∀ other < call, gate.Done other := by
  intro other less
  have named := sound.previous call slot here
  rw [if_neg (by omega)] at named
  rw [named] at completed
  obtain ⟨before, there, released⟩ := completed
  by_cases last : other = call - 1
  · exact last ▸ ⟨before, there, released⟩
  · have earlier : other < call - 1 := by omega
    by_cases entered : before.stage = .returned
    · exact queued.before _ _ there entered _ earlier
    · exact patient slot here (call - 1) named before there released entered _ earlier

theorem Queued.step {gate next : SerialGate} {turn : Turn} (queued : gate.Queued) (sound : gate.Sound)
    (step : Step gate turn next) (patient : gate.Patient turn) : next.Queued := by
  have keep {call other : Nat} {slot : Slot} (here : gate.slots call = some slot) (entered : slot.stage = .returned)
      (less : other < call) : next.Done other := step.done sound (queued.before call slot here entered other less)
  cases step with
  | stay => exact queued
  | acquire => exact ⟨by grind, queued.order⟩
  | @resume call waited didRelease here completed =>
    have entry := queued.entry sound here completed patient
    constructor
    · intro other slot there entered earlier less
      have done := @Step.done _ _ _ (Step.resume here completed) sound earlier
      by_cases same : other = call
      · exact done (entry earlier (by omega))
      · exact keep (by grind) entered less
    · refine List.pairwise_append.mpr ⟨queued.order, List.pairwise_singleton _ _, fun other member last same => ?_⟩
      obtain rfl := List.mem_singleton.mp same
      obtain ⟨slot, there, entered⟩ := (sound.obtained other).mp member
      rcases Nat.lt_trichotomy other last with less | rfl | more
      · exact less
      · rw [here] at there
        cases there
        cases entered
      · -- whoever came later was let in only once this one was done, and it still waits
        obtain ⟨known, also, released⟩ := queued.before other slot there entered last more
        rw [here] at also
        cases also
        cases (sound.waits _ _ here rfl).symm.trans released
  | timeout here late => exact ⟨by grind, queued.order⟩
  | release here => exact ⟨by grind, queued.order⟩

theorem queued_fresh : fresh.Queued := ⟨nofun, List.Pairwise.nil⟩

theorem Queued.run {gate : SerialGate} (queued : gate.Queued) (sound : gate.Sound) (turns : List Turn)
    (patient : gate.PatientRun turns) : (gate.run turns).Queued := by
  induction turns generalizing gate with
  | nil => exact queued
  | cons turn turns ih =>
    have step := step_after gate turn
    exact ih (queued.step sound step patient.1) (sound.step step) patient.2

/-- At most one caller holds the gate, and the callers obtained it in the order in which they asked. -/
structure Serial (gate : SerialGate) : Prop where
  one : ∀ call other, gate.Holds call → gate.Holds other → call = other
  order : gate.obtained.Pairwise (· < ·)

theorem Queued.serial {gate : SerialGate} (queued : gate.Queued) : gate.Serial where
  one call other holds also := by
    have behind {first last : Nat} (holds : gate.Holds first) (also : gate.Holds last) : ¬first < last := by
      intro less
      obtain ⟨previous, here⟩ := holds
      obtain ⟨_, there⟩ := also
      obtain ⟨slot, known, released⟩ := queued.before _ _ there rfl _ less
      rw [here] at known
      cases known
      cases released
    have left := behind holds also
    have right := behind also holds
    omega
  order := queued.order

/-- A caller that waits is let in once everyone before it is done, and giving up counts. While nobody holds the gate, it or
one before it can be let in. -/
structure Unblocked (gate : SerialGate) : Prop where
  gaveUp : ∀ call slot message, gate.slots call = some slot → slot.stage = .threw message → gate.Done call
  entry : ∀ call slot, gate.slots call = some slot → slot.stage = .waits → (∀ other < call, gate.Done other) →
    gate.Completed slot.previous
  moves : ∀ call slot, gate.slots call = some slot → slot.stage = .waits → (∀ other, ¬gate.Holds other) →
    ∃ first ≤ call, ∃ waiting, gate.slots first = some waiting ∧ waiting.stage = .waits ∧ gate.Completed waiting.previous

theorem Sound.unblocked {gate : SerialGate} (sound : gate.Sound) : gate.Unblocked where
  gaveUp call slot message here threw := ⟨slot, here, sound.threw _ _ _ here threw⟩
  entry call slot here _ done := by
    rw [sound.previous _ _ here]
    by_cases first : call = 0
    · rw [if_pos first]
      trivial
    · rw [if_neg first]
      exact done (call - 1) (by omega)
  moves call slot here waits quiet := by
    induction call using Nat.strongRecOn generalizing slot with
    | ind call ih =>
      by_cases completed : gate.Completed slot.previous
      · exact ⟨call, Nat.le_refl _, slot, here, waits, completed⟩
      · -- whom it waits for neither holds the gate nor is done, so that it waits as well
        have named := sound.previous _ _ here
        have later : call ≠ 0 := by
          rintro rfl
          rw [named] at completed
          exact completed trivial
        rw [named, if_neg later] at completed
        have bound := sound.young _ _ here
        obtain ⟨before, there⟩ := Option.ne_none_iff_exists'.mp (sound.present (call - 1) (by omega))
        have busy : before.didRelease = false := Bool.eq_false_iff.mpr fun released => completed ⟨before, there, released⟩
        have stays : before.stage = .waits := by
          rcases stage : before.stage with _ | _ | message
          · rfl
          · refine absurd ⟨before.previous, ?_⟩ (quiet (call - 1))
            rw [there, ← stage, ← busy]
          · cases busy.symm.trans (sound.threw _ _ _ there stage)
        obtain ⟨first, less, waiting⟩ := ih (call - 1) (by omega) before there stays
        exact ⟨first, by omega, waiting⟩

/-- One caller holds the gate, a second gives up, and a third is let in once the gate has been released, twice over. -/
def patientTurns : List Turn :=
  [.acquire, .resume 0, .acquire, .acquire, .timeout 1, .release 0, .release 0, .resume 2]

end SerialGate

end BioAuth.Mobile
