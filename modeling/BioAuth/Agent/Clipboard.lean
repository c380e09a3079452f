import BioAuth.Agent.VaultService
import Mathlib.Data.List.Basic

namespace BioAuth.Agent
open BioAuth

/-- `CLEAR_ATTEMPTS`. -/
def clearAttempts : Nat := 8

/-- What `copy_secret` asks of a secret before it touches the clipboard. -/
def copyable (secret : Bytes) (ttl : Nat) : Except ClipboardError String := do
  require (minTtl ≤ ttl ∧ ttl ≤ maxTtl) (ClipboardError.ttlOutOfRange minTtl maxTtl)
  okOr .notText (fromUtf8 secret)

/-- What is on the clipboard: nothing, what another program put there, or the entry of one of this module's copies. -/
inductive ClipboardEntry
  | nothing
  | foreign
  | secret (copy : Nat)

/-- How far `set_text` gets: the clipboard does not open, there is no memory for the entry, the entry is refused, or it
is placed. A marker that takes is a change of the clipboard too. -/
inductive SetText
  | unopened
  | unallocated
  | refused (markers : Nat)
  | placed (markers : Nat)

/-- The thread of `schedule_clear`: whose it is, the generation it captured, and the attempts it has left. -/
structure ClearTimer where
  copy : Nat
  ours : Nat
  attempts : Nat

/-- The clipboard of a session, and what this module has under way. -/
structure SessionClipboard where
  entry : ClipboardEntry
  /-- How often the clipboard has changed. Its counter has 32 bits. -/
  changes : Nat
  /-- `OURS`. -/
  ours : Nat
  /-- How many entries have been placed. -/
  copies : Nat
  /-- Copies that have placed their entry and have still to claim it. -/
  claiming : List Nat
  /-- Copies with the generation they have claimed, which have still to start their timer. -/
  claimed : List (Nat × Nat)
  timers : List ClearTimer
  /-- What the clears have emptied. -/
  emptied : List ClipboardEntry

/-- What happens next. A number picks one of the copies or timers that are at that point. -/
inductive ClipboardEvent
  | other (full : Bool) (more : Nat)
  | setText (secret : Bytes) (ttl : Nat) (outcome : SetText)
  | claim (place : Nat)
  | scheduleClear (place : Nat)
  | expire (place : Nat) (opens : Bool)
  | clearNow (opens : Bool)

namespace SessionClipboard

/-- What another program leaves on the clipboard. -/
def leave (full : Bool) : ClipboardEntry := if full then .foreign else .nothing

/-- A clipboard that this module has not used yet. -/
def initial (full : Bool) (changes : Nat) : SessionClipboard := ⟨leave full, changes, 0, 0, [], [], [], []⟩

/-- `GetClipboardSequenceNumber`. -/
def sequence (clipboard : SessionClipboard) : Nat := clipboard.changes % 2 ^ 32

def setText (outcome : SetText) (clipboard : SessionClipboard) : SessionClipboard :=
  match outcome with
  | .unopened => clipboard
  | .unallocated => { clipboard with entry := .nothing, changes := clipboard.changes + 1 }
  | .refused markers => { clipboard with entry := .nothing, changes := clipboard.changes + 1 + markers }
  | .placed markers => { clipboard with
      entry := .secret clipboard.copies
      changes := clipboard.changes + 1 + markers + 1
      copies := clipboard.copies + 1
      claiming := clipboard.claiming ++ [clipboard.copies] }

/-- `platform::clear`, and whether it succeeds. -/
def clear (opens : Bool) (clipboard : SessionClipboard) : Bool × SessionClipboard :=
  if clipboard.ours = 0 ∨ clipboard.ours ≠ clipboard.sequence then (true, clipboard)
  else if opens then
    (true, { clipboard with
      entry := .nothing
      changes := clipboard.changes + 1
      ours := 0
      emptied := clipboard.emptied ++ [clipboard.entry] })
  else (false, clipboard)

/-- One time round the loop of a timer. -/
def expire (place : Nat) (timer : ClearTimer) (opens : Bool) (clipboard : SessionClipboard) : SessionClipboard :=
  if timer.attempts = 0 ∨ clipboard.sequence ≠ timer.ours then
    { clipboard with timers := clipboard.timers.eraseIdx place }
  else
    let (ok, after) := clear opens clipboard
    if ok then { after with timers := after.timers.eraseIdx place }
    else { after with timers := after.timers.set place { timer with attempts := timer.attempts - 1 } }

def step : ClipboardEvent → SessionClipboard → Option SessionClipboard
  | .other full more, clipboard => some { clipboard with entry := leave full, changes := clipboard.changes + 1 + more }
  | .setText secret ttl outcome, clipboard =>
    match copyable secret ttl with
    | .error _ => some clipboard
    | .ok _ => some (clipboard.setText outcome)
  | .claim place, clipboard => do
    let copy ← clipboard.claiming[place]?
    return { clipboard with
      ours := clipboard.sequence
      claiming := clipboard.claiming.eraseIdx place
      claimed := clipboard.claimed ++ [(copy, clipboard.sequence)] }
  | .scheduleClear place, clipboard => do
    let (copy, ours) ← clipboard.claimed[place]?
    return { clipboard with
      claimed := clipboard.claimed.eraseIdx place
      timers := clipboard.timers ++ [⟨copy, ours, clearAttempts⟩] }
  | .expire place opens, clipboard => do
    let timer ← clipboard.timers[place]?
    return clipboard.expire place timer opens
  | .clearNow opens, clipboard => some (clear opens clipboard).2

def run : List ClipboardEvent → SessionClipboard → Option SessionClipboard
  | [], clipboard => some clipboard
  | event :: events, clipboard => (step event clipboard).bind (run events)

/-- Before each step the counter has not come round, and nobody has changed the clipboard since a copy that is about to
claim its entry has placed it. -/
def Calm : List ClipboardEvent → SessionClipboard → Prop
  | [], _ => True
  | event :: events, clipboard => clipboard.changes < 2 ^ 32 ∧
      (∀ place copy, event = .claim place → clipboard.claiming[place]? = some copy → clipboard.entry = .secret copy) ∧
      ∀ later, step event clipboard = some later → Calm events later

/-- The copies that have claimed, and what they have read. -/
def stakes (clipboard : SessionClipboard) : List (Nat × Nat) :=
  clipboard.claimed ++ clipboard.timers.map fun timer => (timer.copy, timer.ours)

/-- While the counter stands where `OURS` has it, the entry is one of this module's; and whoever has claimed the entry
that is there has read the counter as it stands. -/
structure Owned (clipboard : SessionClipboard) : Prop where
  ours_le : clipboard.ours ≤ clipboard.changes
  ours : clipboard.ours ≠ 0 → clipboard.ours = clipboard.changes → ∃ copy, clipboard.entry = .secret copy
  placed : ∀ copy, clipboard.entry = .secret copy → 0 < clipboard.changes
  claiming : ∀ copy ∈ clipboard.claiming, copy < clipboard.copies
  stakes : ∀ stake ∈ clipboard.stakes, stake.1 < clipboard.copies ∧
    (clipboard.entry = .secret stake.1 → stake.2 = clipboard.changes ∧ clipboard.ours = clipboard.changes)
  emptied : ∀ entry ∈ clipboard.emptied, ∃ copy, entry = .secret copy

section Steps
variable {clipboard later : SessionClipboard}

theorem leave_ne_secret (full : Bool) (copy : Nat) : leave full ≠ .secret copy := by
  cases full <;> exact nofun

theorem sequence_of_lt (few : clipboard.changes < 2 ^ 32) : clipboard.sequence = clipboard.changes := Nat.mod_eq_of_lt few

theorem Owned.initial (full : Bool) (changes : Nat) : (initial full changes).Owned where
  ours_le := Nat.zero_le _
  ours apart := absurd rfl apart
  placed copy secret := absurd secret (leave_ne_secret full copy)
  claiming _ member := absurd member List.not_mem_nil
  stakes _ member := absurd member List.not_mem_nil
  emptied _ member := absurd member List.not_mem_nil

/-- A change of the clipboard outdates `OURS`, and no copy has claimed what is there behind it. -/
theorem Owned.change (owned : clipboard.Owned) {entry : ClipboardEntry} {changes copies : Nat} {claiming : List Nat}
    (more : clipboard.changes < changes) (kept : clipboard.copies ≤ copies)
    (fresh : ∀ copy, entry = .secret copy → clipboard.copies ≤ copy)
    (known : ∀ copy ∈ claiming, copy < copies) :
    Owned { clipboard with entry, changes, copies, claiming } where
  ours_le := owned.ours_le.trans more.le
  ours _ same := absurd same (lt_of_le_of_lt owned.ours_le more).ne
  placed _ _ := lt_of_le_of_lt (Nat.zero_le _) more
  claiming := known
  stakes stake member := by
    have below := (owned.stakes stake member).1
    exact ⟨below.trans_le kept, fun secret => absurd (fresh _ secret) (Nat.not_le.mpr below)⟩
  emptied := owned.emptied

theorem Owned.setText (owned : clipboard.Owned) (outcome : SetText) : (clipboard.setText outcome).Owned := by
  cases outcome with
  | unopened => exact owned
  | unallocated => exact owned.change (Nat.lt_succ_self _) le_rfl nofun owned.claiming
  | refused markers => exact owned.change (by omega) le_rfl nofun owned.claiming
  | placed markers =>
    refine owned.change (by omega) (Nat.le_succ _) (fun copy same => ?_) fun copy member => ?_
    · rw [ClipboardEntry.secret.inj same]
    · rcases List.mem_append.mp member with earlier | last
      · exact (owned.claiming copy earlier).trans (Nat.lt_succ_self _)
      · rw [List.mem_singleton.mp last]
        exact Nat.lt_succ_self _

theorem Owned.claim (owned : clipboard.Owned) (few : clipboard.changes < 2 ^ 32) {place copy : Nat}
    (found : clipboard.claiming[place]? = some copy) (there : clipboard.entry = .secret copy) : Owned { clipboard with
      ours := clipboard.sequence
      claiming := clipboard.claiming.eraseIdx place
      claimed := clipboard.claimed ++ [(copy, clipboard.sequence)] } := by
  rw [sequence_of_lt few]
  refine ⟨le_rfl, fun _ _ => ⟨copy, there⟩, owned.placed,
    fun other member => owned.claiming other (List.mem_of_mem_eraseIdx member), fun stake member => ?_, owned.emptied⟩
  simp only [SessionClipboard.stakes, List.append_assoc, List.mem_append, List.mem_singleton] at member
  rcases member with claimed | rfl | timer
  · obtain ⟨below, current⟩ := owned.stakes stake (List.mem_append_left _ claimed)
    exact ⟨below, fun secret => ⟨(current secret).1, rfl⟩⟩
  · exact ⟨owned.claiming copy (List.mem_of_getElem? found), fun _ => ⟨rfl, rfl⟩⟩
  · obtain ⟨below, current⟩ := owned.stakes stake (List.mem_append_right _ timer)
    exact ⟨below, fun secret => ⟨(current secret).1, rfl⟩⟩

/-- Nothing but the stakes changes, and none is new. -/
theorem Owned.fewer (owned : clipboard.Owned) {claimed : List (Nat × Nat)} {timers : List ClearTimer}
    (fewer : ({ clipboard with claimed, timers } : SessionClipboard).stakes ⊆ clipboard.stakes) :
    Owned { clipboard with claimed, timers } :=
  ⟨owned.ours_le, owned.ours, owned.placed, owned.claiming, fun stake member => owned.stakes stake (fewer member),
    owned.emptied⟩

/-- What a clear empties is an entry of this module's. -/
theorem Owned.clear (owned : clipboard.Owned) (few : clipboard.changes < 2 ^ 32) (opens : Bool) :
    (clear opens clipboard).2.Owned := by
  unfold SessionClipboard.clear
  split
  · exact owned
  · rename_i held
    rw [sequence_of_lt few, not_or, not_not] at held
    split
    · have own := owned.ours held.1 held.2
      refine ⟨Nat.zero_le _, fun apart => absurd rfl apart, nofun, owned.claiming,
        fun stake member => ⟨(owned.stakes stake member).1, nofun⟩, fun entry member => ?_⟩
      rcases List.mem_append.mp member with earlier | last
      · exact owned.emptied entry earlier
      · rw [List.mem_singleton.mp last]
        exact own
    · exact owned

theorem clear_timers (opens : Bool) (clipboard : SessionClipboard) : (clear opens clipboard).2.timers = clipboard.timers := by
  unfold clear
  split
  · rfl
  · split <;> rfl

theorem Owned.expire (owned : clipboard.Owned) (few : clipboard.changes < 2 ^ 32) {place : Nat} {timer : ClearTimer}
    (found : clipboard.timers[place]? = some timer) (opens : Bool) : (clipboard.expire place timer opens).Owned := by
  have erased (board : SessionClipboard) : ({ board with timers := board.timers.eraseIdx place } : SessionClipboard).stakes ⊆ board.stakes := by
    intro stake member
    rcases List.mem_append.mp member with claimed | waiting
    · exact List.mem_append_left _ claimed
    · obtain ⟨other, there, rfl⟩ := List.mem_map.mp waiting
      exact List.mem_append_right _ (List.mem_map_of_mem (List.mem_of_mem_eraseIdx there))
  unfold SessionClipboard.expire
  split
  · exact owned.fewer (erased clipboard)
  · have cleared := owned.clear few opens
    have timers := clear_timers opens clipboard
    generalize SessionClipboard.clear opens clipboard = result at cleared timers ⊢
    obtain ⟨ok, after⟩ := result
    dsimp only at cleared timers ⊢
    split
    · exact cleared.fewer (erased after)
    · refine cleared.fewer fun stake member => ?_
      rcases List.mem_append.mp member with claimed | waiting
      · exact List.mem_append_left _ claimed
      · obtain ⟨other, there, rfl⟩ := List.mem_map.mp waiting
        refine List.mem_append_right _ ?_
        rcases List.mem_or_eq_of_mem_set there with same | rfl
        · exact List.mem_map_of_mem same
        · rw [timers]
          exact List.mem_map.mpr ⟨timer, List.mem_of_getElem? found, rfl⟩

theorem Owned.step (owned : clipboard.Owned) (few : clipboard.changes < 2 ^ 32) {event : ClipboardEvent}
    (calm : ∀ place copy, event = .claim place → clipboard.claiming[place]? = some copy → clipboard.entry = .secret copy)
    (ran : step event clipboard = some later) : later.Owned := by
  cases event with
  | other full more =>
    cases ran
    exact owned.change (by omega) le_rfl (fun copy same => absurd same (leave_ne_secret full copy)) owned.claiming
  | setText secret ttl outcome =>
    rw [SessionClipboard.step] at ran
    split at ran
    · cases ran
      exact owned
    · cases ran
      exact owned.setText outcome
  | claim place =>
    obtain ⟨copy, found, same⟩ := Option.bind_eq_some_iff.mp ran
    cases same
    exact owned.claim few found (calm place copy rfl found)
  | scheduleClear place =>
    obtain ⟨⟨copy, ours⟩, found, same⟩ := Option.bind_eq_some_iff.mp ran
    cases same
    refine owned.fewer fun stake member => ?_
    simp only [SessionClipboard.stakes, List.map_append, List.mem_append, List.map_cons, List.map_nil,
      List.mem_singleton] at member ⊢
    rcases member with claimed | waiting | rfl
    · exact Or.inl (List.mem_of_mem_eraseIdx claimed)
    · exact Or.inr waiting
    · exact Or.inl (List.mem_of_getElem? found)
  | expire place opens =>
    obtain ⟨timer, found, same⟩ := Option.bind_eq_some_iff.mp ran
    cases same
    exact owned.expire few found opens
  | clearNow opens =>
    cases ran
    exact owned.clear few opens

theorem Owned.run (owned : clipboard.Owned) {events : List ClipboardEvent} (calm : Calm events clipboard)
    (ran : run events clipboard = some later) : later.Owned := by
  induction events generalizing clipboard with
  | nil =>
    cases ran
    exact owned
  | cons event events ih =>
    obtain ⟨between, first, rest⟩ := Option.bind_eq_some_iff.mp ran
    exact ih (owned.step calm.1 calm.2.1 first) (calm.2.2 between first) rest

/-- A timer whose copy's entry is still there removes it, if the clipboard opens. -/
theorem Owned.expire_removes (owned : clipboard.Owned) (few : clipboard.changes < 2 ^ 32) {place : Nat}
    {timer : ClearTimer} (found : clipboard.timers[place]? = some timer) (left : timer.attempts ≠ 0)
    (there : clipboard.entry = .secret timer.copy) : (clipboard.expire place timer true).entry = .nothing ∧
      (clipboard.expire place timer true).emptied = clipboard.emptied ++ [.secret timer.copy] := by
  have waiting : (timer.copy, timer.ours) ∈ clipboard.stakes :=
    List.mem_append_right _ (List.mem_map.mpr ⟨timer, List.mem_of_getElem? found, rfl⟩)
  obtain ⟨reading, ours⟩ := (owned.stakes _ waiting).2 there
  have positive := owned.placed _ there
  have due : ¬(timer.attempts = 0 ∨ clipboard.sequence ≠ timer.ours) := by
    rw [sequence_of_lt few, not_or, not_not]
    exact ⟨left, reading.symm⟩
  have own : ¬(clipboard.ours = 0 ∨ clipboard.ours ≠ clipboard.sequence) := by
    rw [sequence_of_lt few, not_or, not_not]
    exact ⟨by omega, ours⟩
  rw [SessionClipboard.expire, if_neg due, SessionClipboard.clear, if_neg own]
  exact ⟨rfl, congrArg (clipboard.emptied ++ [·]) there⟩

end Steps

/-- In a run in which nobody changes the clipboard between a copy and its claim, and the counter does not come round,
the clears empty nothing but entries of this module's, and a timer whose entry is still there removes it, if the
clipboard opens. -/
theorem clears_remove_own_entries {full : Bool} {changes : Nat} {events : List ClipboardEvent} {clipboard : SessionClipboard}
    (calm : Calm events (initial full changes)) (ran : run events (initial full changes) = some clipboard) :
    (∀ entry ∈ clipboard.emptied, ∃ copy, entry = .secret copy) ∧
      ∀ place timer later, clipboard.changes < 2 ^ 32 → clipboard.timers[place]? = some timer → timer.attempts ≠ 0 →
        clipboard.entry = .secret timer.copy → step (.expire place true) clipboard = some later →
          later.entry = .nothing ∧ later.emptied = clipboard.emptied ++ [.secret timer.copy] := by
  have owned := (Owned.initial full changes).run calm ran
  refine ⟨owned.emptied, fun place timer later few found left there stepped => ?_⟩
  obtain ⟨other, same, taken⟩ := Option.bind_eq_some_iff.mp stepped
  obtain rfl : timer = other := Option.some.inj (found.symm.trans same)
  cases taken
  exact owned.expire_removes few found left there

/-- A secret that is cleared on request, a copy of the user's, and another secret over it. -/
def plainCopies : List ClipboardEvent :=
  [.setText [104] 5000 (.placed 3), .claim 0, .scheduleClear 0, .clearNow true, .other true 0, .setText [105] 5000 (.placed 0),
    .claim 0, .scheduleClear 0]

def plainCopied : SessionClipboard where
  entry := .secret 1
  changes := 14
  ours := 14
  copies := 2
  claiming := []
  claimed := []
  timers := [⟨0, 10, 8⟩, ⟨1, 14, 8⟩]
  emptied := [.secret 0]

theorem clears_remove_own_entries_plainCopies :
    (∀ entry ∈ plainCopied.emptied, ∃ copy, entry = .secret copy) ∧
      (plainCopied.expire 1 ⟨1, 14, 8⟩ true).entry = .nothing := by
  have ran : run plainCopies (initial true 5) = some plainCopied := rfl
  have first : copyable [104] 5000 = .ok "h" := rfl
  have second : copyable [105] 5000 = .ok "i" := rfl
  have calm : Calm plainCopies (initial true 5) := by
    simp only [Calm, plainCopies, SessionClipboard.step, initial, leave, first, second, SessionClipboard.setText, clear, sequence]
    simp
    constructor <;> rintro _ copy rfl found <;> simpa using found
  obtain ⟨own, removed⟩ := clears_remove_own_entries calm ran
  exact ⟨own, (removed 1 ⟨1, 14, 8⟩ _ (by decide) rfl (by decide) rfl rfl).1⟩

/-- Another program's copy between a secret and its claim is what the clear empties. -/
def copiedBetween : List ClipboardEvent :=
  [.setText [104] 5000 (.placed 3), .other true 0, .claim 0, .scheduleClear 0, .expire 0 true]

theorem copiedBetween_emptied :
    ((run copiedBetween (initial false 5)).map fun clipboard => clipboard.emptied) = some [.foreign] := rfl

end SessionClipboard

end BioAuth.Agent
