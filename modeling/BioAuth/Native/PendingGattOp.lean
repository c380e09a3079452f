import BioAuth.Lib.Fallible
import Mathlib.Algebra.Order.Ring.Nat
import Mathlib.Data.List.Nodup
import Mathlib.Data.List.Perm.Basic

namespace BioAuth.Native
open BioAuth

/-- What `MethodChannel.Result` is told. -/
inductive GattReply (ρ : Type)
  | success (value : ρ)
  | error (code message : String)
  deriving DecidableEq

/-- The deadline as the handler has it, and whose call of `arm` put it there. All of them run the same `Runnable`. -/
structure GattDeadline where
  operation : Nat
  due : Nat
  deriving DecidableEq

/-- An operation that has been taken from the slot, what it is to be told, and the deadline that took it, if one did. -/
structure GattClaim (ρ : Type) where
  operation : Nat
  reply : GattReply ρ
  deadline : Option GattDeadline
  deriving DecidableEq

/-- A `PendingGattOp`, the handler behind it, and the calls of it that are under way. An operation is a result that `arm`
has accepted, under its place among them. -/
structure GattOp (ρ : Type) where
  now : Nat
  pending : Option Nat
  /-- When each operation was accepted. -/
  armedAt : List Nat
  /-- Accepted, with the deadline still to be scheduled. -/
  arming : List Nat
  scheduled : List GattDeadline
  /-- Runs of `expiry` that have not looked at the slot. -/
  running : List GattDeadline
  /-- Taken from the slot, with the deadline still to be unscheduled. -/
  taken : List (GattClaim ρ)
  /-- Still to be replied to. -/
  replying : List (GattClaim ρ)
  /-- What has been replied, and when. -/
  replies : List (GattClaim ρ × Nat)
  deriving DecidableEq

/-- What happens next, on whichever thread. A number picks one of the calls that are at that point. -/
inductive GattEvent (ρ : Type)
  | pass (milliseconds : Nat)
  | arm
  | schedule (place : Nat)
  | settle (reply : GattReply ρ)
  | dispatch (place : Nat)
  | expire (place : Nat)
  | unschedule (place : Nat)
  | answer (place : Nat)

namespace GattOp
variable {ρ : Type}

def initial : GattOp ρ := ⟨0, none, [], [], [], [], [], [], []⟩

def isActive (op : GattOp ρ) : Bool := op.pending ≠ none

/-- The part of `take` under the lock. What it finds is someone's to unschedule and reply to. -/
def take (reply : GattReply ρ) (deadline : Option GattDeadline) (op : GattOp ρ) : GattOp ρ :=
  match op.pending with
  | none => op
  | some operation => { op with pending := none, taken := op.taken ++ [⟨operation, reply, deadline⟩] }

section Step
variable (errorCode : String) (timeoutMs : Nat)

/-- `fail`, which is a `settle`. -/
def fail (message : String) (code : Option String) : GattEvent ρ := .settle (.error (code.getD errorCode) message)

def step : GattEvent ρ → GattOp ρ → Option (GattOp ρ)
  | .pass milliseconds, op => some { op with now := op.now + milliseconds }
  | .arm, op =>
    -- The part under the lock. A second operation is turned away.
    if op.isActive then some op
    else some { op with
      pending := some op.armedAt.length
      armedAt := op.armedAt ++ [op.now]
      arming := op.arming ++ [op.armedAt.length] }
  | .schedule place, op => do
    let operation ← op.arming[place]?
    return { op with
      arming := op.arming.eraseIdx place
      scheduled := op.scheduled ++ [⟨operation, op.now + timeoutMs⟩] }
  | .settle reply, op => some (op.take reply none)
  | .dispatch place, op => do
    let deadline ← op.scheduled[place]?
    if deadline.due ≤ op.now then
      return { op with scheduled := op.scheduled.eraseIdx place, running := op.running ++ [deadline] }
    else none
  | .expire place, op => do
    let deadline ← op.running[place]?
    return { op with running := op.running.eraseIdx place }.take (.error errorCode "BLE operation timed out") (some deadline)
  | .unschedule place, op => do
    let claim ← op.taken[place]?
    return { op with taken := op.taken.eraseIdx place, scheduled := [], replying := op.replying ++ [claim] }
  | .answer place, op => do
    let claim ← op.replying[place]?
    return { op with replying := op.replying.eraseIdx place, replies := op.replies ++ [(claim, op.now)] }

def run : List (GattEvent ρ) → GattOp ρ → Option (GattOp ρ)
  | [], op => some op
  | event :: events, op => (step errorCode timeoutMs event op).bind (run events)

end Step

/-- The operations wherever they are: in the slot, with someone, or replied to. -/
def operations (op : GattOp ρ) : List Nat :=
  op.pending.toList ++ op.taken.map GattClaim.operation ++ op.replying.map GattClaim.operation ++
    op.replies.map fun reply => reply.1.operation

/-- Every operation that has been accepted is somewhere, once. -/
def Held (op : GattOp ρ) : Prop := op.operations.Perm (List.range op.armedAt.length)

section Steps
variable {errorCode : String} {timeoutMs : Nat} {op later : GattOp ρ} {event : GattEvent ρ}

theorem eraseIdx_perm {α : Type} {items : List α} {place : Nat} {item : α} (found : items[place]? = some item) :
    (item :: items.eraseIdx place).Perm items := by
  obtain ⟨below, rfl⟩ := List.getElem?_eq_some_iff.mp found
  exact List.getElem_cons_eraseIdx_perm below

theorem take_pending (reply : GattReply ρ) (deadline : Option GattDeadline) (op : GattOp ρ) :
    (op.take reply deadline).pending = none := by
  unfold take
  split
  · assumption
  · rfl

theorem take_operations (reply : GattReply ρ) (deadline : Option GattDeadline) (op : GattOp ρ) :
    (op.take reply deadline).operations.Perm op.operations := by
  unfold take
  split
  · rfl
  · rename_i operation pending
    refine List.perm_iff_count.mpr fun other => ?_
    simp only [operations, pending, List.map_append, List.count_append, Option.toList_none, Option.toList_some,
      List.map_cons, List.map_nil, List.count_nil]
    omega

theorem take_armedAt (reply : GattReply ρ) (deadline : Option GattDeadline) (op : GattOp ρ) :
    (op.take reply deadline).armedAt = op.armedAt := by
  unfold take
  split <;> rfl

theorem Held.step (held : op.Held) (ran : step errorCode timeoutMs event op = some later) : later.Held := by
  cases event with
  | pass milliseconds =>
    cases ran
    exact held
  | arm =>
    rw [GattOp.step] at ran
    split at ran
    · cases ran
      exact held
    · rename_i free
      cases ran
      have empty : op.pending = none := by simpa [isActive] using free
      unfold Held operations at held ⊢
      rw [empty] at held
      rw [List.length_append, List.length_singleton, List.range_succ]
      exact (held.cons op.armedAt.length).trans (List.perm_append_singleton _ _).symm
  | schedule place =>
    obtain ⟨operation, _, same⟩ := Option.bind_eq_some_iff.mp ran
    cases same
    exact held
  | settle reply =>
    cases ran
    unfold Held
    rw [take_armedAt]
    exact (take_operations reply none op).trans held
  | dispatch place =>
    obtain ⟨deadline, _, same⟩ := Option.bind_eq_some_iff.mp ran
    split at same
    · cases same
      exact held
    · cases same
  | expire place =>
    obtain ⟨deadline, _, same⟩ := Option.bind_eq_some_iff.mp ran
    cases same
    unfold Held
    rw [take_armedAt]
    exact (take_operations _ _ _).trans held
  | unschedule place =>
    obtain ⟨claim, found, same⟩ := Option.bind_eq_some_iff.mp ran
    cases same
    refine List.Perm.trans (List.perm_iff_count.mpr fun other => ?_) held
    have moved := ((eraseIdx_perm found).map GattClaim.operation).count_eq other
    simp only [operations, List.map_append, List.count_append, List.map_cons, List.map_nil, List.count_cons,
      List.count_nil] at moved ⊢
    omega
  | answer place =>
    obtain ⟨claim, found, same⟩ := Option.bind_eq_some_iff.mp ran
    cases same
    refine List.Perm.trans (List.perm_iff_count.mpr fun other => ?_) held
    have moved := ((eraseIdx_perm found).map GattClaim.operation).count_eq other
    simp only [operations, List.map_append, List.count_append, List.map_cons, List.map_nil, List.count_cons,
      List.count_nil] at moved ⊢
    omega

/-- The slot is filled by `arm` alone, with the operation it accepts. -/
theorem step_pending (ran : step errorCode timeoutMs event op = some later) {operation : Nat}
    (pending : later.pending = some operation) : op.pending = some operation ∨ operation = op.armedAt.length := by
  cases event with
  | pass milliseconds =>
    cases ran
    exact Or.inl pending
  | arm =>
    rw [GattOp.step] at ran
    split at ran
    · cases ran
      exact Or.inl pending
    · cases ran
      exact Or.inr (Option.some.inj pending).symm
  | schedule place =>
    obtain ⟨_, _, same⟩ := Option.bind_eq_some_iff.mp ran
    cases same
    exact Or.inl pending
  | settle reply =>
    cases ran
    rw [take_pending] at pending
    cases pending
  | dispatch place =>
    obtain ⟨_, _, same⟩ := Option.bind_eq_some_iff.mp ran
    split at same
    · cases same
      exact Or.inl pending
    · cases same
  | expire place =>
    obtain ⟨_, _, same⟩ := Option.bind_eq_some_iff.mp ran
    cases same
    rw [take_pending] at pending
    cases pending
  | unschedule place | answer place =>
    obtain ⟨_, _, same⟩ := Option.bind_eq_some_iff.mp ran
    cases same
    exact Or.inl pending

theorem step_armedAt (ran : step errorCode timeoutMs event op = some later) : op.armedAt <+: later.armedAt := by
  cases event with
  | pass milliseconds =>
    cases ran
    exact List.prefix_rfl
  | arm =>
    rw [GattOp.step] at ran
    split at ran
    · cases ran
      exact List.prefix_rfl
    · cases ran
      exact List.prefix_append _ _
  | settle reply =>
    cases ran
    exact (take_armedAt _ _ _).symm ▸ List.prefix_rfl
  | expire place =>
    obtain ⟨_, _, same⟩ := Option.bind_eq_some_iff.mp ran
    cases same
    exact (take_armedAt _ _ _).symm ▸ List.prefix_rfl
  | dispatch place =>
    obtain ⟨_, _, same⟩ := Option.bind_eq_some_iff.mp ran
    split at same
    · cases same
      exact List.prefix_rfl
    · cases same
  | schedule place | unschedule place | answer place =>
    obtain ⟨_, _, same⟩ := Option.bind_eq_some_iff.mp ran
    cases same
    exact List.prefix_rfl

end Steps

/-- A call that takes what is pending: `settle`, `fail`, or a run of `expiry`. -/
def GattEvent.takes : GattEvent ρ → Bool
  | .settle _ | .expire _ => true
  | _ => false

section Runs
variable {errorCode : String} {timeoutMs : Nat} {op later : GattOp ρ} {events : List (GattEvent ρ)}

theorem run_cons {event : GattEvent ρ} : run errorCode timeoutMs (event :: events) op = some later ↔
    ∃ between, step errorCode timeoutMs event op = some between ∧ run errorCode timeoutMs events between = some later :=
  Option.bind_eq_some_iff

theorem Held.run (held : op.Held) (ran : run errorCode timeoutMs events op = some later) : later.Held := by
  induction events generalizing op with
  | nil =>
    cases ran
    exact held
  | cons event events ih =>
    obtain ⟨between, first, rest⟩ := run_cons.mp ran
    exact ih (held.step first) rest

/-- An operation that has left the slot does not come back. -/
theorem run_left {operation : Nat} (known : operation < op.armedAt.length) (left : op.pending ≠ some operation)
    (ran : run errorCode timeoutMs events op = some later) :
    operation < later.armedAt.length ∧ later.pending ≠ some operation := by
  induction events generalizing op with
  | nil =>
    cases ran
    exact ⟨known, left⟩
  | cons event events ih =>
    obtain ⟨between, first, rest⟩ := run_cons.mp ran
    refine ih (Nat.lt_of_lt_of_le known (step_armedAt first).length_le) (fun pending => ?_) rest
    rcases step_pending first pending with same | same
    · exact left same
    · omega

/-- Whatever takes from the slot leaves it empty. -/
theorem run_taken {operation : Nat} (known : operation < op.armedAt.length)
    (ran : run errorCode timeoutMs events op = some later) (asked : ∃ event ∈ events, GattEvent.takes event) :
    operation < later.armedAt.length ∧ later.pending ≠ some operation := by
  induction events generalizing op with
  | nil =>
    obtain ⟨_, member, _⟩ := asked
    cases member
  | cons event events ih =>
    obtain ⟨between, first, rest⟩ := run_cons.mp ran
    have still := Nat.lt_of_lt_of_le known (step_armedAt first).length_le
    by_cases takes : GattEvent.takes event
    · have empty : between.pending = none := by
        cases event with
        | settle reply =>
          cases first
          exact take_pending _ _ _
        | expire place =>
          obtain ⟨_, _, same⟩ := Option.bind_eq_some_iff.mp first
          cases same
          exact take_pending _ _ _
        | _ => cases takes
      exact run_left still (by simp [empty]) rest
    · obtain ⟨other, member, this⟩ := asked
      rcases List.mem_cons.mp member with rfl | member
      · exact absurd this takes
      · exact ih still rest ⟨other, member, this⟩

theorem run_append {first second : List (GattEvent ρ)} : run errorCode timeoutMs (first ++ second) op = some later ↔
    ∃ between, run errorCode timeoutMs first op = some between ∧ run errorCode timeoutMs second between = some later := by
  induction first generalizing op with
  | nil => simp [GattOp.run]
  | cons event first ih =>
    rw [List.cons_append, run_cons]
    simp only [run_cons, ih]
    constructor
    · rintro ⟨one, step, two, front, back⟩
      exact ⟨two, ⟨one, step, front⟩, back⟩
    · rintro ⟨two, ⟨one, step, front⟩, back⟩
      exact ⟨one, step, two, front, back⟩

end Runs

/-- No deadline of an earlier operation can still come: none is scheduled or about to be, and no run of `expiry` has yet
to look at the slot. -/
def Quiet (op : GattOp ρ) : Prop := op.arming = [] ∧ op.scheduled = [] ∧ op.running = []

/-- Whenever an operation is accepted, no deadline of an earlier one can still come. -/
def Calm (errorCode : String) (timeoutMs : Nat) : List (GattEvent ρ) → GattOp ρ → Prop
  | [], _ => True
  | event :: events, op => (event = .arm → op.pending = none → op.Quiet) ∧
      ∀ later, step errorCode timeoutMs event op = some later → Calm errorCode timeoutMs events later

/-- The deadline that took an operation is its own, and this long after the operation was accepted. -/
def Fair (armedAt : List Nat) (timeoutMs now : Nat) (claim : GattClaim ρ) : Prop :=
  ∀ deadline ∈ claim.deadline, deadline.operation = claim.operation ∧
    ∃ moment, armedAt[claim.operation]? = some moment ∧ moment + timeoutMs ≤ now

theorem Fair.later {armedAt more : List Nat} {timeoutMs now afterwards : Nat} {claim : GattClaim ρ}
    (fair : Fair armedAt timeoutMs now claim) (longer : armedAt <+: more) (late : now ≤ afterwards) :
    Fair more timeoutMs afterwards claim := by
  intro deadline member
  obtain ⟨own, moment, found, waited⟩ := fair deadline member
  obtain ⟨behind, rfl⟩ := longer
  refine ⟨own, moment, ?_, waited.trans late⟩
  rw [List.getElem?_append_left (List.getElem?_eq_some_iff.mp found).1]
  exact found

/-- What is in the slot, and every deadline that can still come, is of the last operation. -/
structure Current (timeoutMs : Nat) (op : GattOp ρ) : Prop where
  past : ∀ moment ∈ op.armedAt, moment ≤ op.now
  pending : ∀ operation ∈ op.pending, operation + 1 = op.armedAt.length
  arming : ∀ operation ∈ op.arming, operation + 1 = op.armedAt.length
  deadlines : ∀ deadline ∈ op.scheduled ++ op.running, deadline.operation + 1 = op.armedAt.length ∧
    ∃ moment, op.armedAt[deadline.operation]? = some moment ∧ moment + timeoutMs ≤ deadline.due
  running : ∀ deadline ∈ op.running, deadline.due ≤ op.now
  fair : ∀ claim ∈ op.taken ++ op.replying, Fair op.armedAt timeoutMs op.now claim
  replied : ∀ reply ∈ op.replies, Fair op.armedAt timeoutMs reply.2 reply.1

section Current
variable {errorCode : String} {timeoutMs : Nat} {op later : GattOp ρ}

theorem Current.initial : Current timeoutMs (initial : GattOp ρ) := by
  constructor <;> intro _ member <;> cases member

theorem Current.pass (current : Current timeoutMs op) (milliseconds : Nat) :
    Current timeoutMs { op with now := op.now + milliseconds } where
  past moment member := Nat.le_add_right_of_le (current.past moment member)
  pending := current.pending
  arming := current.arming
  deadlines := current.deadlines
  running deadline member := Nat.le_add_right_of_le (current.running deadline member)
  fair claim member := (current.fair claim member).later List.prefix_rfl (Nat.le_add_right _ _)
  replied := current.replied

theorem Current.arm (current : Current timeoutMs op) (quiet : op.Quiet) :
    Current timeoutMs { op with
      pending := some op.armedAt.length
      armedAt := op.armedAt ++ [op.now]
      arming := op.arming ++ [op.armedAt.length] } := by
  obtain ⟨arming, scheduled, running⟩ := quiet
  refine ⟨fun moment member => ?_, fun operation same => ?_, fun operation member => ?_, fun deadline member => ?_,
    current.running, fun claim member => ?_, fun reply member => ?_⟩
  · rcases List.mem_append.mp member with earlier | last
    · exact current.past moment earlier
    · exact (List.mem_singleton.mp last).le
  · rw [← Option.some.inj same, List.length_append, List.length_singleton]
  · rw [arming] at member
    rw [List.mem_singleton.mp member, List.length_append, List.length_singleton]
  · rw [scheduled, running] at member
    cases member
  · exact (current.fair claim member).later (List.prefix_append _ _) le_rfl
  · exact (current.replied reply member).later (List.prefix_append _ _) le_rfl

theorem Current.schedule (current : Current timeoutMs op) {place operation : Nat}
    (found : op.arming[place]? = some operation) : Current timeoutMs { op with
      arming := op.arming.eraseIdx place
      scheduled := op.scheduled ++ [⟨operation, op.now + timeoutMs⟩] } := by
  have last := current.arming operation (List.mem_of_getElem? found)
  refine ⟨current.past, current.pending, fun other member => current.arming other (List.mem_of_mem_eraseIdx member),
    fun deadline member => ?_, current.running, current.fair, current.replied⟩
  simp only [List.append_assoc, List.mem_append, List.mem_singleton] at member
  rcases member with scheduled | rfl | running
  · exact current.deadlines deadline (List.mem_append_left _ scheduled)
  · have below : operation < op.armedAt.length := by omega
    refine ⟨last, _, List.getElem?_eq_getElem below, ?_⟩
    exact Nat.add_le_add_right (current.past _ (List.getElem_mem below)) timeoutMs
  · exact current.deadlines deadline (List.mem_append_right _ running)

/-- What is taken is the last operation, so a deadline that can take it is its own. -/
theorem Current.take (current : Current timeoutMs op) (reply : GattReply ρ) {deadline : Option GattDeadline}
    (own : ∀ some ∈ deadline, some.operation + 1 = op.armedAt.length ∧
      ∃ moment, op.armedAt[some.operation]? = .some moment ∧ moment + timeoutMs ≤ op.now) :
    Current timeoutMs (op.take reply deadline) := by
  unfold GattOp.take
  split
  · exact current
  · rename_i operation pending
    refine ⟨current.past, nofun, current.arming, current.deadlines, current.running, fun claim member => ?_,
      current.replied⟩
    simp only [List.append_assoc, List.mem_append, List.mem_singleton] at member
    rcases member with taken | rfl | replying
    · exact current.fair claim (List.mem_append_left _ taken)
    · intro some member
      obtain ⟨last, moment, found, waited⟩ := own some member
      have same : some.operation = operation := by
        have this := current.pending operation pending
        omega
      exact ⟨same, moment, same ▸ found, waited⟩
    · exact current.fair claim (List.mem_append_right _ replying)

theorem Current.dispatch (current : Current timeoutMs op) {place : Nat} {deadline : GattDeadline}
    (found : op.scheduled[place]? = some deadline) (due : deadline.due ≤ op.now) : Current timeoutMs { op with
      scheduled := op.scheduled.eraseIdx place
      running := op.running ++ [deadline] } := by
  refine ⟨current.past, current.pending, current.arming, fun other member => ?_, fun other member => ?_, current.fair,
    current.replied⟩
  · simp only [List.mem_append, List.mem_singleton] at member
    rcases member with scheduled | running | rfl
    · exact current.deadlines other (List.mem_append_left _ (List.mem_of_mem_eraseIdx scheduled))
    · exact current.deadlines other (List.mem_append_right _ running)
    · exact current.deadlines other (List.mem_append_left _ (List.mem_of_getElem? found))
  · rcases List.mem_append.mp member with running | last
    · exact current.running other running
    · rw [List.mem_singleton.mp last]
      exact due

theorem Current.expire (current : Current timeoutMs op) {place : Nat} {deadline : GattDeadline}
    (found : op.running[place]? = some deadline) (reply : GattReply ρ) :
    Current timeoutMs (GattOp.take reply (some deadline) { op with running := op.running.eraseIdx place }) := by
  have running := List.mem_of_getElem? found
  obtain ⟨last, moment, armed, waited⟩ := current.deadlines deadline (List.mem_append_right _ running)
  have others : Current timeoutMs { op with running := op.running.eraseIdx place } := by
    refine ⟨current.past, current.pending, current.arming, fun other member => ?_,
      fun other member => current.running other (List.mem_of_mem_eraseIdx member), current.fair, current.replied⟩
    rcases List.mem_append.mp member with scheduled | running
    · exact current.deadlines other (List.mem_append_left _ scheduled)
    · exact current.deadlines other (List.mem_append_right _ (List.mem_of_mem_eraseIdx running))
  refine others.take reply fun some same => ?_
  obtain rfl := Option.some.inj same
  exact ⟨last, moment, armed, waited.trans (current.running deadline running)⟩

theorem Current.unschedule (current : Current timeoutMs op) {place : Nat} {claim : GattClaim ρ}
    (found : op.taken[place]? = some claim) : Current timeoutMs { op with
      taken := op.taken.eraseIdx place
      scheduled := []
      replying := op.replying ++ [claim] } := by
  refine ⟨current.past, current.pending, current.arming,
    fun other member => current.deadlines other (List.mem_append_right _ member), current.running,
    fun other member => ?_, current.replied⟩
  simp only [List.mem_append, List.mem_singleton] at member
  rcases member with taken | replying | rfl
  · exact current.fair other (List.mem_append_left _ (List.mem_of_mem_eraseIdx taken))
  · exact current.fair other (List.mem_append_right _ replying)
  · exact current.fair other (List.mem_append_left _ (List.mem_of_getElem? found))

theorem Current.answer (current : Current timeoutMs op) {place : Nat} {claim : GattClaim ρ}
    (found : op.replying[place]? = some claim) : Current timeoutMs { op with
      replying := op.replying.eraseIdx place
      replies := op.replies ++ [(claim, op.now)] } := by
  refine ⟨current.past, current.pending, current.arming, current.deadlines, current.running, fun other member => ?_,
    fun reply member => ?_⟩
  · rcases List.mem_append.mp member with taken | replying
    · exact current.fair other (List.mem_append_left _ taken)
    · exact current.fair other (List.mem_append_right _ (List.mem_of_mem_eraseIdx replying))
  · rcases List.mem_append.mp member with earlier | last
    · exact current.replied reply earlier
    · rw [List.mem_singleton.mp last]
      exact current.fair claim (List.mem_append_right _ (List.mem_of_getElem? found))

theorem Current.step (current : Current timeoutMs op) {event : GattEvent ρ}
    (calm : event = .arm → op.pending = none → op.Quiet) (ran : step errorCode timeoutMs event op = some later) :
    Current timeoutMs later := by
  cases event with
  | pass milliseconds =>
    cases ran
    exact current.pass milliseconds
  | arm =>
    rw [GattOp.step] at ran
    split at ran
    · cases ran
      exact current
    · rename_i free
      cases ran
      exact current.arm (calm rfl (by simpa [isActive] using free))
  | schedule place =>
    obtain ⟨operation, found, same⟩ := Option.bind_eq_some_iff.mp ran
    cases same
    exact current.schedule found
  | settle reply =>
    cases ran
    exact current.take reply nofun
  | dispatch place =>
    obtain ⟨deadline, found, same⟩ := Option.bind_eq_some_iff.mp ran
    split at same
    · rename_i due
      cases same
      exact current.dispatch found due
    · cases same
  | expire place =>
    obtain ⟨deadline, found, same⟩ := Option.bind_eq_some_iff.mp ran
    cases same
    exact current.expire found _
  | unschedule place =>
    obtain ⟨claim, found, same⟩ := Option.bind_eq_some_iff.mp ran
    cases same
    exact current.unschedule found
  | answer place =>
    obtain ⟨claim, found, same⟩ := Option.bind_eq_some_iff.mp ran
    cases same
    exact current.answer found

theorem Current.run (current : Current timeoutMs op) {events : List (GattEvent ρ)}
    (calm : Calm errorCode timeoutMs events op) (ran : run errorCode timeoutMs events op = some later) :
    Current timeoutMs later := by
  induction events generalizing op with
  | nil =>
    cases ran
    exact current
  | cons event events ih =>
    obtain ⟨between, first, rest⟩ := run_cons.mp ran
    exact ih (current.step calm.1 first) (calm.2 between first) rest

end Current

section Settled
variable {errorCode : String} {timeoutMs : Nat} {events : List (GattEvent ρ)} {op : GattOp ρ}

theorem Held.initial : (initial : GattOp ρ).Held := List.Perm.refl _

/-- Whichever way the calls and the deadlines interleave, no operation is replied to twice, and one that something
follows which takes from the slot is replied to once all calls are over. If no operation is accepted while a deadline of
an earlier one can still come, then a deadline replies to its own operation alone, and no sooner than the timeout after
it was accepted. -/
theorem settles_once_and_expires_late (ran : run errorCode timeoutMs events initial = some op) :
    (op.replies.map fun reply => reply.1.operation).Nodup ∧
      (∀ before after between, events = before ++ after → run errorCode timeoutMs before initial = some between →
        ∀ operation < between.armedAt.length, (∃ event ∈ after, GattEvent.takes event) → op.taken = [] →
          op.replying = [] → ∃ reply ∈ op.replies, reply.1.operation = operation) ∧
      (Calm errorCode timeoutMs events initial → ∀ reply ∈ op.replies, ∀ deadline ∈ reply.1.deadline,
        deadline.operation = reply.1.operation ∧
          ∃ moment, op.armedAt[reply.1.operation]? = some moment ∧ moment + timeoutMs ≤ reply.2) := by
  have held := Held.initial.run ran
  refine ⟨?_, ?_, fun calm reply member => (Current.initial.run calm ran).replied reply member⟩
  · have distinct : op.operations.Nodup := held.nodup_iff.mpr List.nodup_range
    exact (List.nodup_append.mp distinct).2.1
  · rintro before after between rfl first operation known asked taken replying
    obtain ⟨middle, front, rest⟩ := run_append.mp ran
    obtain rfl : between = middle := Option.some.inj (first.symm.trans front)
    obtain ⟨known, left⟩ := run_taken known rest asked
    have somewhere : operation ∈ op.operations := held.mem_iff.mpr (List.mem_range.mpr known)
    rw [operations, taken, replying, List.map_nil, List.append_nil, List.append_nil, List.mem_append,
      Option.mem_toList] at somewhere
    rcases somewhere with pending | replied
    · exact absurd pending left
    · exact List.mem_map.mp replied

end Settled

/-- A write that is settled and replied to before its deadline comes. -/
def plainWrite : List (GattEvent Unit) :=
  [.arm, .schedule 0, .pass 5, .settle (.success ()), .unschedule 0, .answer 0, .arm, .schedule 0, .pass 10000, .dispatch 0,
    .expire 0, .unschedule 0, .answer 0]

def plainWritten : GattOp Unit where
  now := 10005
  pending := none
  armedAt := [0, 5]
  arming := []
  scheduled := []
  running := []
  taken := []
  replying := []
  replies := [(⟨0, .success (), none⟩, 5),
    (⟨1, .error "write_failed" "BLE operation timed out", some ⟨1, 10005⟩⟩, 10005)]

theorem settles_once_and_expires_late_plainWrite :
    (plainWritten.replies.map fun reply => reply.1.operation).Nodup ∧
      ∀ reply ∈ plainWritten.replies, ∀ deadline ∈ reply.1.deadline, deadline.operation = reply.1.operation := by
  have ran : run "write_failed" 10000 plainWrite initial = some plainWritten := by decide
  obtain ⟨once, _, late⟩ := settles_once_and_expires_late ran
  refine ⟨once, fun reply member deadline own => (late ?_ reply member deadline own).1⟩
  simp [Calm, plainWrite, GattOp.step, initial, isActive, Quiet, take]

/-- The link is lost while a write is between the two steps of `arm`, and its deadline takes the write behind it, a
millisecond after that was accepted. -/
def lostLink : List (GattEvent Unit) :=
  [.arm, .settle (.error "disconnected" "BLE disconnected"), .unschedule 0, .answer 0, .schedule 0, .pass 9999, .arm,
    .schedule 0, .pass 1, .dispatch 0, .expire 0, .unschedule 0, .answer 0]

theorem lostLink_expires_early :
    ((run "write_failed" 10000 lostLink initial).map fun op => (op.armedAt, op.replies)) =
      some ([0, 9999], [(⟨0, .error "disconnected" "BLE disconnected", none⟩, 0),
        (⟨1, .error "write_failed" "BLE operation timed out", some ⟨0, 10000⟩⟩, 10000)]) := by
  decide

end GattOp

end BioAuth.Native
