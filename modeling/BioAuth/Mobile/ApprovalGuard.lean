import BioAuth.Lib.Reassembly
import BioAuth.Mobile.Messages
import Mathlib.Data.List.DropRight

namespace BioAuth.Mobile
open BioAuth

namespace AuthenticationRequest

def deviceId (request : AuthenticationRequest) : String := request.verifierId

/-- What two requests that ask for the same thing have in common. -/
def fingerprint (request : AuthenticationRequest) : String :=
  "\x00".intercalate [request.verifierId, request.credentialId, request.service, request.action, request.resource,
    request.user]

end AuthenticationRequest

/-- `DateTime.subtract`, by a duration in microseconds. -/
def Moment.subtract (now : Moment) (duration : Nat) : Except Thrown Moment :=
  if within : -8640000000000000000 ≤ now.val - duration then .ok ⟨now.val - duration, within, by
    have := now.property
    omega⟩
  else .error .argumentError

inductive ApprovalDecision
  | accept
  | duplicate
  | flood

structure ObservedRequest where
  fingerprint : String
  observedAt : Moment

/-- What has not left the window before this moment. -/
def sweep (cutoff : Moment) (seen : List ObservedRequest) : List ObservedRequest :=
  seen.filter fun item => ¬item.observedAt.val < cutoff.val

structure ApprovalGuard where
  window : Nat
  maxRequestsPerWindow : Nat
  observedByDevice : Table String (List ObservedRequest)

namespace ApprovalGuard

/-- A guard that has seen nothing. -/
def initial (window maxRequestsPerWindow : Nat) : ApprovalGuard := ⟨window, maxRequestsPerWindow, .empty⟩

def inspect (request : AuthenticationRequest) (now : Moment) : Fallible ApprovalGuard Thrown ApprovalDecision := do
  let guard ← get
  let cutoff ← now.subtract guard.window
  -- Swept across every device, not only the one asking.
  let swept := (guard.observedByDevice.map (sweep cutoff)).retain fun _ seen => seen ≠ []
  let observed := (swept.get? request.deviceId).getD []
  let duplicate := observed.any fun item => item.fingerprint = request.fingerprint
  let observed := observed ++ [⟨request.fingerprint, now⟩]
  let ceiling := guard.maxRequestsPerWindow + 1
  let observed := if ceiling < observed.length then observed.drop (observed.length - ceiling) else observed
  set { guard with observedByDevice := swept.insert request.deviceId observed }
  if guard.maxRequestsPerWindow < observed.length then return .flood
  else return if duplicate then .duplicate else .accept

end ApprovalGuard

/-- The guard that keeps every request of the window, and a list for every device. -/
structure WindowGuard where
  window : Nat
  maxRequestsPerWindow : Nat
  observed : String → List ObservedRequest

namespace WindowGuard

def initial (window maxRequestsPerWindow : Nat) : WindowGuard := ⟨window, maxRequestsPerWindow, fun _ => []⟩

def inspect (request : AuthenticationRequest) (now : Moment) : Fallible WindowGuard Thrown ApprovalDecision := do
  let guard ← get
  let cutoff ← now.subtract guard.window
  let swept := fun device => sweep cutoff (guard.observed device)
  let observed := swept request.deviceId ++ [⟨request.fingerprint, now⟩]
  set { guard with observed := Function.update swept request.deviceId observed }
  if guard.maxRequestsPerWindow < observed.length then return .flood
  else return if (swept request.deviceId).any fun item => item.fingerprint = request.fingerprint then .duplicate
    else .accept

end WindowGuard

section Sweep
variable {cutoff : Moment} {seen : List ObservedRequest}

theorem mem_sweep {item : ObservedRequest} : item ∈ sweep cutoff seen ↔ item ∈ seen ∧ cutoff.val ≤ item.observedAt.val := by
  rw [sweep, List.mem_filter, decide_eq_true_eq, not_lt]

/-- Of a list in the order of its moments, the sweep leaves an end, so it does not matter when the ceiling is applied. -/
theorem sweep_rtake (ordered : seen.Pairwise fun a b => a.observedAt.val ≤ b.observedAt.val) (n : Nat) :
    sweep cutoff (seen.rtake n) = (sweep cutoff seen).rtake n := by
  induction seen using List.reverseRecOn generalizing n with
  | nil => rw [List.rtake_nil, sweep, List.filter_nil, List.rtake_nil]
  | append_singleton seen item ih =>
    obtain ⟨before, _, latest⟩ := List.pairwise_append.mp ordered
    cases n with
    | zero => rw [List.rtake_zero, List.rtake_zero, sweep, List.filter_nil]
    | succ n =>
      have fewer := ih before n
      rw [List.rtake_concat_succ]
      by_cases swept : item.observedAt.val < cutoff.val
      · -- Everything before the item is as old, and goes with it.
        have gone : sweep cutoff (seen ++ [item]) = [] := by
          refine List.filter_eq_nil_iff.mpr fun other member => ?_
          rw [decide_eq_true_eq, not_not]
          rcases List.mem_append.mp member with earlier | same
          · exact lt_of_le_of_lt (latest other earlier item List.mem_cons_self) swept
          · rw [List.mem_singleton.mp same]
            exact swept
        have all : seen.rtake n ++ [item] ⊆ seen ++ [item] :=
          List.append_subset.mpr ⟨fun _ member => List.mem_append_left _ (List.mem_of_mem_drop member),
            List.subset_append_right _ _⟩
        rw [gone, List.rtake_nil]
        refine List.eq_nil_iff_forall_not_mem.mpr fun other member => ?_
        obtain ⟨kept, late⟩ := mem_sweep.mp member
        have none := mem_sweep.mpr ⟨all kept, late⟩
        rw [gone] at none
        exact absurd none List.not_mem_nil
      · have kept (others : List ObservedRequest) : sweep cutoff (others ++ [item]) = sweep cutoff others ++ [item] := by
          rw [sweep, List.filter_append]
          congr 1
          exact List.filter_eq_self.mpr fun other same => by
            rw [List.mem_singleton.mp same, decide_eq_true_eq]
            exact swept
        rw [kept, kept, List.rtake_concat_succ, fewer]

/-- A device without a list is one with an empty list. -/
theorem getD_swept (observed : Table String (List ObservedRequest)) (device : String) :
    ((((observed.map (sweep cutoff)).retain fun _ seen => seen ≠ []).get? device).getD []) =
      sweep cutoff ((observed.get? device).getD []) := by
  have whole : ((observed.map (sweep cutoff)).get? device).getD [] = sweep cutoff ((observed.get? device).getD []) := by
    rw [Table.get?_map]
    cases observed.get? device <;> rfl
  rw [← whole]
  rcases kept : ((observed.map (sweep cutoff)).retain fun _ seen => seen ≠ []).get? device with _ | seen
  · rcases there : (observed.map (sweep cutoff)).get? device with _ | seen
    · rfl
    · by_cases empty : seen = []
      · rw [empty]
        rfl
      · have member : (device, seen) ∈ ((observed.map (sweep cutoff)).retain fun _ seen => seen ≠ []).entries :=
          Table.mem_retain.mpr ⟨Table.get?_eq_some.mp there, decide_eq_true empty⟩
        exact absurd rfl (Table.get?_eq_none.mp kept _ member)
  · have member := (Table.mem_retain.mp (Table.get?_eq_some.mp kept)).1
    rw [Table.get?_eq_some.mpr member]

end Sweep

/-- The guard holds the end of every list that the other one keeps, and the lists are in the order of their moments. -/
structure Trims (guard : ApprovalGuard) (naive : WindowGuard) : Prop where
  window : guard.window = naive.window
  ceiling : guard.maxRequestsPerWindow = naive.maxRequestsPerWindow
  kept : ∀ device, (guard.observedByDevice.get? device).getD [] =
    (naive.observed device).rtake (naive.maxRequestsPerWindow + 1)
  ordered : ∀ device, (naive.observed device).Pairwise fun a b => a.observedAt.val ≤ b.observedAt.val

/-- Nothing has been seen after this moment. -/
def WindowGuard.Past (naive : WindowGuard) (now : Moment) : Prop :=
  ∀ device, ∀ item ∈ naive.observed device, item.observedAt.val ≤ now.val

/-- No device has more requests than the ceiling, none, or one from before the window. -/
def ApprovalGuard.Bounded (guard : ApprovalGuard) (now : Moment) : Prop :=
  ∀ entry ∈ guard.observedByDevice.entries, entry.2.length ≤ guard.maxRequestsPerWindow + 1 ∧ entry.2 ≠ [] ∧
    ∀ item ∈ entry.2, now.val - guard.window ≤ item.observedAt.val

/-- The list of the device that asks. -/
def asked (request : AuthenticationRequest) (now cutoff : Moment) (seen : List ObservedRequest) : List ObservedRequest :=
  sweep cutoff seen ++ [⟨request.fingerprint, now⟩]

/-- What is decided over the list of the device. -/
def decision (most : Nat) (request : AuthenticationRequest) (cutoff : Moment) (seen : List ObservedRequest) :
    ApprovalDecision :=
  if most < (sweep cutoff seen).length + 1 then .flood
  else if (sweep cutoff seen).any fun item => item.fingerprint = request.fingerprint then .duplicate
  else .accept

section Inspect
variable {guard : ApprovalGuard} {naive : WindowGuard} {request : AuthenticationRequest} {now cutoff : Moment}

theorem WindowGuard.inspect_run (reached : now.subtract naive.window = .ok cutoff) :
    WindowGuard.inspect request now naive =
      (.ok (decision naive.maxRequestsPerWindow request cutoff (naive.observed request.deviceId)),
        { naive with
          observed := Function.update (fun device => sweep cutoff (naive.observed device)) request.deviceId
            (asked request now cutoff (naive.observed request.deviceId)) }) := by
  simp only [WindowGuard.inspect, Fallible.bind_run, Fallible.get_run, Fallible.liftM_run, reached, Fallible.set_run,
    List.length_append, List.length_singleton, decision, asked]
  split <;> rfl

theorem ApprovalGuard.inspect_run (reached : now.subtract guard.window = .ok cutoff) :
    ApprovalGuard.inspect request now guard =
      (.ok (decision guard.maxRequestsPerWindow request cutoff ((guard.observedByDevice.get? request.deviceId).getD [])),
        { guard with
          observedByDevice :=
            ((guard.observedByDevice.map (sweep cutoff)).retain fun _ seen => seen ≠ []).insert request.deviceId
              ((asked request now cutoff ((guard.observedByDevice.get? request.deviceId).getD [])).rtake
                (guard.maxRequestsPerWindow + 1)) }) := by
  have trimmed (seen : List ObservedRequest) : (if guard.maxRequestsPerWindow + 1 < seen.length
      then seen.drop (seen.length - (guard.maxRequestsPerWindow + 1)) else seen) =
        seen.rtake (guard.maxRequestsPerWindow + 1) := by
    rw [List.rtake]
    split
    · rfl
    · rw [Nat.sub_eq_zero_of_le (by omega), List.drop_zero]
  simp only [ApprovalGuard.inspect, Fallible.bind_run, Fallible.get_run, Fallible.liftM_run, reached, Fallible.set_run,
    getD_swept, trimmed]
  have length : guard.maxRequestsPerWindow < ((asked request now cutoff
      ((guard.observedByDevice.get? request.deviceId).getD [])).rtake (guard.maxRequestsPerWindow + 1)).length ↔
        guard.maxRequestsPerWindow < (sweep cutoff ((guard.observedByDevice.get? request.deviceId).getD [])).length + 1 := by
    simp only [asked, List.rtake, List.length_drop, List.length_append, List.length_singleton]
    omega
  simp only [asked, decision] at length ⊢
  by_cases flood : guard.maxRequestsPerWindow <
      (sweep cutoff ((guard.observedByDevice.get? request.deviceId).getD [])).length + 1
  · rw [if_pos (length.mpr flood), if_pos flood]
    rfl
  · rw [if_neg (mt length.mp flood), if_neg flood]
    rfl

theorem Moment.subtract_eq_ok {duration : Nat} : now.subtract duration = .ok cutoff ↔ cutoff.val = now.val - duration := by
  have bounds := cutoff.property
  unfold Moment.subtract
  split
  · rw [Except.ok.injEq, Subtype.ext_iff, eq_comm]
  · exact iff_of_false nofun (by omega)

theorem decision_rtake (ordered : (naive.observed request.deviceId).Pairwise fun a b => a.observedAt.val ≤ b.observedAt.val)
    (most : Nat) : decision most request cutoff ((naive.observed request.deviceId).rtake (most + 1)) =
      decision most request cutoff (naive.observed request.deviceId) := by
  rw [decision, decision, sweep_rtake ordered]
  generalize sweep cutoff (naive.observed request.deviceId) = seen
  by_cases flood : most < seen.length + 1
  · rw [if_pos flood, if_pos]
    rw [List.rtake, List.length_drop]
    omega
  · have short : seen.rtake (most + 1) = seen := by
      rw [List.rtake, Nat.sub_eq_zero_of_le (by omega), List.drop_zero]
    rw [short]

/-- The ceiling loses what it would have lost of the longer list. -/
theorem asked_rtake (ordered : (naive.observed request.deviceId).Pairwise fun a b => a.observedAt.val ≤ b.observedAt.val)
    (most : Nat) : (asked request now cutoff ((naive.observed request.deviceId).rtake (most + 1))).rtake (most + 1) =
      (asked request now cutoff (naive.observed request.deviceId)).rtake (most + 1) := by
  rw [asked, asked, sweep_rtake ordered, List.rtake_concat_succ, List.rtake_concat_succ]
  generalize sweep cutoff (naive.observed request.deviceId) = seen
  rw [List.rtake, List.rtake, List.rtake, List.drop_drop, List.length_drop]
  congr 2
  omega

/-- A request is decided alike by both guards, and leaves them as they were to each other. -/
theorem Trims.inspect (request : AuthenticationRequest) (trims : Trims guard naive) (past : naive.Past now) :
    (ApprovalGuard.inspect request now guard).1 = (WindowGuard.inspect request now naive).1 ∧
      Trims (ApprovalGuard.inspect request now guard).2 (WindowGuard.inspect request now naive).2 ∧
      (WindowGuard.inspect request now naive).2.Past now := by
  rcases reached : now.subtract naive.window with e | cutoff
  · have same : now.subtract guard.window = .error e := trims.window ▸ reached
    simp only [ApprovalGuard.inspect, WindowGuard.inspect, Fallible.bind_run, Fallible.get_run, Fallible.liftM_run,
      reached, same]
    exact ⟨trivial, trims, past⟩
  · have same : now.subtract guard.window = .ok cutoff := trims.window ▸ reached
    rw [ApprovalGuard.inspect_run same, WindowGuard.inspect_run reached, trims.kept, trims.ceiling,
      decision_rtake (trims.ordered _), asked_rtake (trims.ordered _)]
    refine ⟨rfl, ⟨trims.window, rfl, fun device => ?_, fun device => ?_⟩, fun device item member => ?_⟩
    · dsimp only
      by_cases same : device = request.deviceId
      · rw [same, Table.get?_insert_self, Function.update_self]
        rfl
      · rw [Table.get?_insert_of_ne same, Function.update_of_ne same, getD_swept, trims.kept,
          sweep_rtake (trims.ordered device)]
    · dsimp only
      by_cases same : device = request.deviceId
      · rw [same, Function.update_self]
        refine List.pairwise_append.mpr ⟨(trims.ordered _).filter _, List.pairwise_singleton _ _, ?_⟩
        intro item member last same
        rw [List.mem_singleton.mp same]
        exact past _ item (mem_sweep.mp member).1
      · rw [Function.update_of_ne same]
        exact (trims.ordered device).filter _
    · dsimp only at member
      by_cases same : device = request.deviceId
      · rw [same, Function.update_self] at member
        rcases List.mem_append.mp member with earlier | last
        · exact past _ item (mem_sweep.mp earlier).1
        · rw [List.mem_singleton.mp last]
      · rw [Function.update_of_ne same] at member
        exact past device item (mem_sweep.mp member).1

/-- After a request, no device has more than the ceiling, and none is without a request of the window. -/
theorem ApprovalGuard.inspect_bounded (request : AuthenticationRequest) (now : Moment) (bounded : ∀ entry ∈ guard.observedByDevice.entries,
    entry.2.length ≤ guard.maxRequestsPerWindow + 1 ∧ entry.2 ≠ []) :
    (ApprovalGuard.inspect request now guard).2.Bounded now := by
  rcases reached : now.subtract guard.window with e | cutoff
  · -- The window reaches back to before any moment.
    simp only [ApprovalGuard.inspect, Fallible.bind_run, Fallible.get_run, Fallible.liftM_run, reached]
    refine fun entry member => ⟨(bounded entry member).1, (bounded entry member).2, fun item _ => ?_⟩
    have bounds := item.observedAt.property
    by_contra before
    have ok : now.subtract guard.window = .ok ⟨now.val - guard.window, by have := now.property; omega⟩ :=
      Moment.subtract_eq_ok.mpr rfl
    rw [reached] at ok
    cases ok
  · have start := Moment.subtract_eq_ok.mp reached
    rw [ApprovalGuard.inspect_run reached]
    intro entry member
    dsimp only at member ⊢
    rcases Table.mem_insert.mp member with rfl | ⟨other, _⟩
    · refine ⟨?_, ?_, fun item kept => ?_⟩
      · dsimp only
        rw [List.rtake, List.length_drop]
        omega
      · dsimp only
        rw [asked, List.rtake_concat_succ]
        exact List.concat_ne_nil _ _
      · rw [← start]
        rcases List.mem_append.mp (List.mem_of_mem_drop kept) with earlier | last
        · exact (mem_sweep.mp earlier).2
        · rw [List.mem_singleton.mp last]
          dsimp only
          omega
    · obtain ⟨swept, some⟩ := Table.mem_retain.mp other
      obtain ⟨seen, there, rfl⟩ := List.mem_map.mp swept
      refine ⟨(List.length_filter_le _ _).trans (bounded seen there).1, of_decide_eq_true some, fun item kept => ?_⟩
      rw [← start]
      exact (mem_sweep.mp kept).2

end Inspect

/-- The decisions over a row of requests, and what either guard holds behind it. -/
def ApprovalGuard.decisions (calls : List (AuthenticationRequest × Moment)) (guard : ApprovalGuard) :
    List (Except Thrown ApprovalDecision) × ApprovalGuard :=
  Reassembly.steps (fun call => inspect call.1 call.2) calls guard

def WindowGuard.decisions (calls : List (AuthenticationRequest × Moment)) (naive : WindowGuard) :
    List (Except Thrown ApprovalDecision) × WindowGuard :=
  Reassembly.steps (fun call => inspect call.1 call.2) calls naive

section Calls
variable {calls : List (AuthenticationRequest × Moment)} {guard : ApprovalGuard} {naive : WindowGuard}

theorem Trims.decisions (trims : Trims guard naive) (clock : calls.Pairwise fun a b => a.2.val ≤ b.2.val)
    (past : ∀ call ∈ calls, naive.Past call.2) : (guard.decisions calls).1 = (naive.decisions calls).1 := by
  induction calls generalizing guard naive with
  | nil => rfl
  | cons call calls ih =>
    rw [List.pairwise_cons] at clock
    obtain ⟨same, still, seen⟩ := trims.inspect call.1 (past call List.mem_cons_self)
    have later := ih still clock.2 fun other member device item there =>
      (seen device item there).trans (clock.1 other member)
    simp only [ApprovalGuard.decisions, WindowGuard.decisions, Reassembly.steps] at later ⊢
    rw [same, later]

theorem ApprovalGuard.decisions_bounded (bounded : ∀ entry ∈ guard.observedByDevice.entries,
    entry.2.length ≤ guard.maxRequestsPerWindow + 1 ∧ entry.2 ≠ []) {last : AuthenticationRequest × Moment}
    (ends : last ∈ calls.getLast?) : (guard.decisions calls).2.Bounded last.2 := by
  induction calls generalizing guard with
  | nil => cases ends
  | cons call calls ih =>
    have after := ApprovalGuard.inspect_bounded call.1 call.2 bounded
    rcases calls with _ | ⟨next, rest⟩
    · obtain rfl : call = last := by simpa using ends
      exact after
    · exact ih (fun entry member => ⟨(after entry member).1, (after entry member).2.1⟩) (by simpa using ends)

end Calls

theorem ApprovalGuard.decisions_parameters (calls : List (AuthenticationRequest × Moment)) (guard : ApprovalGuard) :
    (guard.decisions calls).2.window = guard.window ∧
      (guard.decisions calls).2.maxRequestsPerWindow = guard.maxRequestsPerWindow := by
  induction calls generalizing guard with
  | nil => exact ⟨rfl, rfl⟩
  | cons call calls ih =>
    obtain ⟨window, ceiling⟩ := ih (inspect call.1 call.2 guard).2
    have same : (inspect call.1 call.2 guard).2.window = guard.window ∧
        (inspect call.1 call.2 guard).2.maxRequestsPerWindow = guard.maxRequestsPerWindow := by
      rcases reached : call.2.subtract guard.window with e | cutoff
      · simp only [inspect, Fallible.bind_run, Fallible.get_run, Fallible.liftM_run, reached, and_self]
      · rw [inspect_run reached]
        exact ⟨rfl, rfl⟩
    exact ⟨window.trans same.1, ceiling.trans same.2⟩

/-- While the clock does not go back, the guard decides like the one that keeps every request of the window, and holds
neither more of a device than one request above the ceiling, nor a device without a request of the window. -/
theorem trimming_changes_no_decision (window maxRequestsPerWindow : Nat) (calls : List (AuthenticationRequest × Moment))
    (clock : calls.Pairwise fun a b => a.2.val ≤ b.2.val) :
    ((ApprovalGuard.initial window maxRequestsPerWindow).decisions calls).1 =
        ((WindowGuard.initial window maxRequestsPerWindow).decisions calls).1 ∧
      ∀ last ∈ calls.getLast?,
        ∀ entry ∈ ((ApprovalGuard.initial window maxRequestsPerWindow).decisions calls).2.observedByDevice.entries,
          entry.2.length ≤ maxRequestsPerWindow + 1 ∧ entry.2 ≠ [] ∧
            ∀ item ∈ entry.2, last.2.val - window ≤ item.observedAt.val := by
  constructor
  · have trims : Trims (ApprovalGuard.initial window maxRequestsPerWindow)
        (WindowGuard.initial window maxRequestsPerWindow) :=
      ⟨rfl, rfl, fun _ => (List.rtake_nil _).symm, fun _ => List.Pairwise.nil⟩
    exact trims.decisions clock fun _ _ _ item member => absurd member List.not_mem_nil
  · intro last ends entry member
    have none : ∀ entry ∈ (ApprovalGuard.initial window maxRequestsPerWindow).observedByDevice.entries,
        entry.2.length ≤ maxRequestsPerWindow + 1 ∧ entry.2 ≠ [] := fun _ member => absurd member List.not_mem_nil
    have bounded := ApprovalGuard.decisions_bounded none ends entry member
    obtain ⟨same, ceiling⟩ := ApprovalGuard.decisions_parameters calls (.initial window maxRequestsPerWindow)
    rw [same, ceiling] at bounded
    exact bounded

/-- `sudo` asked for at this moment. -/
def attempt (microseconds : Int)
    (within : -8640000000000000000 ≤ microseconds ∧ microseconds ≤ 8640000000000000000) : AuthenticationRequest × Moment :=
  (⟨1, "r1", "desk", "desk", "login", [], "wifi", "sudo", "run", "host", "ada", ⟨0, by decide⟩, ⟨0, by decide⟩, []⟩,
    ⟨microseconds, within⟩)

def attempts : List (AuthenticationRequest × Moment) :=
  [attempt 1 (by decide), attempt 2 (by decide), attempt 31_000_000 (by decide)]

/-- A second request within the window of one is refused, and a third after it is not. -/
theorem trimming_changes_no_decision_attempts :
    ((ApprovalGuard.initial 30_000_000 1).decisions attempts).1 = ((WindowGuard.initial 30_000_000 1).decisions attempts).1 ∧
      ((ApprovalGuard.initial 30_000_000 1).decisions attempts).1 = [.ok .accept, .ok .flood, .ok .accept] := by
  refine ⟨(trimming_changes_no_decision 30_000_000 1 attempts ?_).1, rfl⟩
  simp [attempts, attempt]

end BioAuth.Mobile
