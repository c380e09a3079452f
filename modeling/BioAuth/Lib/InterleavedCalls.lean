import BioAuth.Lib.Interleave

namespace BioAuth

/-- What a deed says of the changes a call has tried. -/
def Deed.trial {κ σ ℓ ε α : Type} (number : Nat) : Deed κ σ ℓ ε α → Option (ℓ × Outcome)
  | .tried other _ label outcome _ _ => if other = number then some (label, outcome) else none
  | _ => none

def Deed.number {κ σ ℓ ε α : Type} : Deed κ σ ℓ ε α → Option Nat
  | .returned number _ _ | .tried number _ _ _ _ _ => some number
  | .meddled _ _ => none

namespace Interleaved
variable {κ σ ℓ ε α : Type} {body : κ → Program σ ℓ ε α} {post : κ → List (ℓ × Outcome) → Except ε α → Prop}
  {world : Interleaved κ σ ℓ ε α}

/-- The changes a call has tried. -/
def trials (log : List (Deed κ σ ℓ ε α)) (number : Nat) : List (ℓ × Outcome) := log.filterMap (Deed.trial number)

/-- Every call is one of its own, and what it has tried is what it says it has. -/
structure Kept (post : κ → List (ℓ × Outcome) → Except ε α → Prop) (world : Interleaved κ σ ℓ ε α) : Prop where
  young : ∀ place thread, world.threads place = some thread → thread.number < world.calls
  apart : ∀ place other thread later, world.threads place = some thread → world.threads other = some later →
    thread.number = later.number → place = other
  running : ∀ place thread, world.threads place = some thread →
    thread.program.Finishes (post thread.call) (trials world.log thread.number)
  known : ∀ deed ∈ world.log, ∀ number, deed.number = some number → number < world.calls
  returned : ∀ number call result, Deed.returned number call result ∈ world.log →
    post call (trials world.log number) result ∧
      ∀ place thread, world.threads place = some thread → thread.number ≠ number

theorem trials_append (log news : List (Deed κ σ ℓ ε α)) (number : Nat) :
    trials (log ++ news) number = trials log number ++ trials news number := List.filterMap_append

theorem trials_nil_of_new {log : List (Deed κ σ ℓ ε α)} {number : Nat}
    (other : ∀ deed ∈ log, deed.number ≠ some number) : trials log number = [] := by
  refine List.filterMap_eq_nil_iff.mpr fun deed member => ?_
  have apart := other deed member
  cases deed with
  | returned _ _ _ => rfl
  | tried _ _ _ _ _ _ => exact if_neg fun same => apart (congrArg some same)
  | meddled _ _ => rfl

theorem trials_concat_of_own (log : List (Deed κ σ ℓ ε α)) (number : Nat) (call : κ) (label : ℓ) (outcome : Outcome)
    (before after : σ) : trials (log ++ [.tried number call label outcome before after]) number =
      trials log number ++ [(label, outcome)] := by
  rw [trials_append]
  exact congrArg _ (List.filterMap_cons_some (if_pos rfl))

theorem Kept.quiet (shared : σ) : (quiet shared : Interleaved κ σ ℓ ε α).Kept post where
  young _ _ never := nomatch never
  apart _ _ _ _ never := nomatch never
  running _ _ never := nomatch never
  known _ never := nomatch never
  returned _ _ _ never := nomatch never

/-- The onlooker's marks on the threads are no calls' business. -/
theorem Kept.disturb (kept : world.Kept post) (shared : σ) :
    ({ world with shared := shared, threads := Interleaved.disturb world.threads } : Interleaved κ σ ℓ ε α).Kept post where
  young place thread found := by
    obtain ⟨before, here, rfl⟩ := disturb_eq_some.mp found
    exact kept.young place before here
  apart place other thread later found also same := by
    obtain ⟨before, here, rfl⟩ := disturb_eq_some.mp found
    obtain ⟨earlier, there, rfl⟩ := disturb_eq_some.mp also
    exact kept.apart place other before earlier here there same
  running place thread found := by
    obtain ⟨before, here, rfl⟩ := disturb_eq_some.mp found
    exact kept.running place before here
  known := kept.known
  returned number call result member := by
    obtain ⟨told, gone⟩ := kept.returned number call result member
    refine ⟨told, fun place thread found => ?_⟩
    obtain ⟨before, here, rfl⟩ := disturb_eq_some.mp found
    exact gone place before here

/-- The call at one place goes on, and a deed of it may be logged. -/
theorem Kept.proceed (kept : world.Kept post) {place : Nat} {thread later : Thread κ σ ℓ ε α}
    (here : world.threads place = some thread) (number : later.number = thread.number) (call : later.call = thread.call)
    {news : List (Deed κ σ ℓ ε α)} (own : ∀ deed ∈ news, ∃ label outcome before after,
      deed = .tried thread.number thread.call label outcome before after)
    (finishes : later.program.Finishes (post thread.call) (trials (world.log ++ news) thread.number)) :
    ({ world with
      threads := Function.update world.threads place (some later), log := world.log ++ news } :
        Interleaved κ σ ℓ ε α).Kept post := by
  have others {other : Nat} (apart : thread.number ≠ other) : trials (world.log ++ news) other = trials world.log other := by
    have nothing : trials news other = [] := by
      refine trials_nil_of_new fun deed member same => ?_
      obtain ⟨label, outcome, before, after, rfl⟩ := own deed member
      exact apart (Option.some.inj same)
    rw [trials_append, nothing, List.append_nil]
  have found_as {other : Nat} {found : Thread κ σ ℓ ε α}
      (there : Function.update world.threads place (some later) other = some found) :
      ∃ before, world.threads other = some before ∧ found.number = before.number := by
    rw [Function.update_apply] at there
    split at there
    · rename_i same
      cases there
      exact ⟨thread, same ▸ here, number⟩
    · exact ⟨found, there, rfl⟩
  refine ⟨?_, ?_, ?_, ?_, ?_⟩
  · intro other found there
    obtain ⟨before, was, same⟩ := found_as there
    exact same ▸ kept.young other before was
  · intro first second found also there then_there same
    obtain ⟨before, was, equal⟩ := found_as there
    obtain ⟨earlier, once, alike⟩ := found_as then_there
    exact kept.apart first second before earlier was once (equal.symm.trans (same.trans alike))
  · intro other found there
    change Function.update world.threads place (some later) other = some found at there
    rw [Function.update_apply] at there
    split at there
    · cases there
      rw [number, call]
      exact finishes
    · rename_i apart
      have numbers : thread.number ≠ found.number := fun same => apart (kept.apart place other thread found here there same).symm
      change found.program.Finishes _ (trials (world.log ++ news) found.number)
      rw [others numbers]
      exact kept.running other found there
  · intro deed member other named
    rcases List.mem_append.mp member with old | new
    · exact kept.known deed old other named
    · obtain ⟨label, outcome, before, after, rfl⟩ := own deed new
      cases named
      exact kept.young place thread here
  · intro other who result member
    have old : Deed.returned other who result ∈ world.log := by
      rcases List.mem_append.mp member with old | new
      · exact old
      · obtain ⟨_, _, _, _, never⟩ := own _ new
        cases never
    obtain ⟨told, gone⟩ := kept.returned other who result old
    refine ⟨?_, fun spot found there => ?_⟩
    · change post who (trials (world.log ++ news) other) result
      rw [others (gone place thread here)]
      exact told
    · obtain ⟨before, was, same⟩ := found_as there
      exact same ▸ gone spot before was

theorem Kept.begin (kept : world.Kept post) (start : ∀ call, (body call).Finishes (post call) []) (place : Nat)
    (call : κ) :
    ({ world with
      threads := Function.update world.threads place (some ⟨world.calls, call, body call, false, false⟩)
      calls := world.calls + 1 } : Interleaved κ σ ℓ ε α).Kept post := by
  have fresh : trials world.log world.calls = [] :=
    trials_nil_of_new fun deed member same => Nat.lt_irrefl _ (kept.known deed member _ same)
  refine ⟨?_, ?_, ?_, ?_, ?_⟩
  · intro other thread found
    change Function.update world.threads place _ other = some thread at found
    rw [Function.update_apply] at found
    split at found
    · cases found
      exact Nat.lt_succ_self _
    · exact Nat.lt_succ_of_lt (kept.young other thread found)
  · intro first second thread later found also same
    change Function.update world.threads place _ first = some thread at found
    change Function.update world.threads place _ second = some later at also
    rw [Function.update_apply] at found also
    split at found
    · cases found
      split at also
      · rename_i here there
        exact here.trans there.symm
      · exact absurd same (Nat.ne_of_gt (kept.young second later also))
    · split at also
      · cases also
        exact absurd same (Nat.ne_of_lt (kept.young first thread found))
      · exact kept.apart first second thread later found also same
  · intro other thread found
    change Function.update world.threads place _ other = some thread at found
    rw [Function.update_apply] at found
    split at found
    · cases found
      change (body call).Finishes (post call) (trials world.log world.calls)
      rw [fresh]
      exact start call
    · exact kept.running other thread found
  · exact fun deed member number named => Nat.lt_succ_of_lt (kept.known deed member number named)
  · intro number who result member
    obtain ⟨told, gone⟩ := kept.returned number who result member
    refine ⟨told, fun other thread found => ?_⟩
    change Function.update world.threads place _ other = some thread at found
    rw [Function.update_apply] at found
    split at found
    · cases found
      exact Nat.ne_of_gt (kept.known _ member number rfl)
    · exact gone other thread found

theorem Kept.finish (kept : world.Kept post) {place : Nat} {thread : Thread κ σ ℓ ε α}
    (here : world.threads place = some thread) {result : Except ε α} (ended : thread.program = .done result) :
    ({ world with
      threads := Function.update world.threads place none
      log := world.log ++ [.returned thread.number thread.call result] } : Interleaved κ σ ℓ ε α).Kept post := by
  have same_trials (number : Nat) :
      trials (world.log ++ [.returned thread.number thread.call result]) number = trials world.log number := by
    rw [trials_append]
    exact List.append_nil _
  have left {other : Nat} {found : Thread κ σ ℓ ε α}
      (there : Function.update world.threads place none other = some found) :
      other ≠ place ∧ world.threads other = some found := by
    rw [Function.update_apply] at there
    split at there
    · cases there
    · rename_i apart
      exact ⟨apart, there⟩
  refine ⟨?_, ?_, ?_, ?_, ?_⟩
  · exact fun other found there => kept.young other found (left there).2
  · exact fun first second found also there then_there same =>
      kept.apart first second found also (left there).2 (left then_there).2 same
  · intro other found there
    change found.program.Finishes _ (trials (world.log ++ _) found.number)
    rw [same_trials]
    exact kept.running other found (left there).2
  · intro deed member number named
    rcases List.mem_append.mp member with old | new
    · exact kept.known deed old number named
    · cases List.mem_singleton.mp new
      cases named
      exact kept.young place thread here
  · intro number who answer member
    change post who (trials (world.log ++ _) number) answer ∧ _
    rw [same_trials]
    rcases List.mem_append.mp member with old | new
    · obtain ⟨told, gone⟩ := kept.returned number who answer old
      exact ⟨told, fun other found there => gone other found (left there).2⟩
    · cases List.mem_singleton.mp new
      refine ⟨?_, fun other found there same => ?_⟩
      · have finishes := kept.running place thread here
        rw [ended] at finishes
        exact finishes
      · obtain ⟨apart, was⟩ := left there
        exact apart (kept.apart other place found thread was here same)

theorem Kept.after (kept : world.Kept post) (start : ∀ call, (body call).Finishes (post call) []) (turn : Turn κ σ) :
    (world.after body turn).Kept post := by
  cases turn with
  | begin place call =>
    unfold Interleaved.after
    dsimp only
    split
    · exact kept
    · exact kept.begin start place call
  | step place outcome =>
    unfold Interleaved.after
    dsimp only
    split
    · exact kept
    · rename_i thread here
      split
      · rename_i result ended
        exact kept.finish here ended
      · rename_i next looks
        have finishes := kept.running place thread here
        rw [looks] at finishes
        have proceeds := kept.proceed here (rfl : ({ thread with
          program := next world.shared, looked := true } : Thread κ σ ℓ ε α).number = _) rfl
          (fun deed (never : deed ∈ []) => nomatch never) ((List.append_nil world.log).symm ▸ finishes world.shared)
        rw [List.append_nil] at proceeds
        exact proceeds
      · rename_i label edit next changes
        have finishes := kept.running place thread here
        rw [changes] at finishes
        have told := finishes outcome
        rw [← trials_concat_of_own world.log thread.number thread.call label outcome world.shared
          (outcome.apply edit world.shared)] at told
        have deed : ∀ deed ∈ [Deed.tried thread.number thread.call label outcome world.shared
            (outcome.apply edit world.shared)], ∃ label outcome before after,
              deed = (.tried thread.number thread.call label outcome before after : Deed κ σ ℓ ε α) :=
          fun _ member => ⟨_, _, _, _, List.mem_singleton.mp member⟩
        by_cases refused : outcome = .refused
        · rw [if_pos refused]
          have proceeds := kept.proceed here (rfl : ({ thread with
            program := next (outcome = .made), looked := true } : Thread κ σ ℓ ε α).number = _) rfl deed told
          exact ⟨proceeds.young, proceeds.apart, proceeds.running, proceeds.known, proceeds.returned⟩
        · rw [if_neg refused]
          have there := disturb_eq_some.mpr ⟨thread, here, rfl⟩
          exact (kept.disturb (outcome.apply edit world.shared)).proceed there (rfl : ({ thread with
            program := next (outcome = .made), looked := true } : Thread κ σ ℓ ε α).number = _) rfl deed told
  | meddle edit =>
    have disturbed := kept.disturb (edit world.shared)
    have same (number : Nat) : trials (world.log ++ [.meddled world.shared (edit world.shared)]) number =
        trials world.log number := by
      rw [trials_append]
      exact List.append_nil _
    have old {deed : Deed κ σ ℓ ε α} (member : deed ∈ world.log ++ [.meddled world.shared (edit world.shared)]) :
        deed ∈ world.log ∨ deed = .meddled world.shared (edit world.shared) := by
      rcases List.mem_append.mp member with old | new
      · exact Or.inl old
      · exact Or.inr (List.mem_singleton.mp new)
    refine ⟨disturbed.young, disturbed.apart, ?_, ?_, ?_⟩
    · intro place thread found
      change thread.program.Finishes _ (trials (world.log ++ _) thread.number)
      rw [same]
      exact disturbed.running place thread found
    · intro deed member number named
      rcases old member with before | rfl
      · exact kept.known deed before number named
      · cases named
    · intro number call result member
      change post call (trials (world.log ++ _) number) result ∧ _
      rw [same]
      exact disturbed.returned number call result ((old member).resolve_right nofun)

theorem Kept.run (kept : world.Kept post) (start : ∀ call, (body call).Finishes (post call) []) (turns : List (Turn κ σ)) :
    (world.run body turns).Kept post := by
  induction turns generalizing world with
  | nil => exact kept
  | cons turn turns ih => exact ih (kept.after start turn)

end Interleaved

/-- The instance a turn is a turn of. -/
def Turn.place {κ σ : Type} : Turn κ σ → Option Nat
  | .begin place _ | .step place _ => some place
  | .meddle _ => none

namespace Interleaved
variable {κ σ ℓ ε α : Type} {body : κ → Program σ ℓ ε α} {world : Interleaved κ σ ℓ ε α}

/-- An instance that is never asked anything has nothing under way. -/
theorem idle_after {place : Nat} (idle : world.threads place = none) {turn : Turn κ σ}
    (elsewhere : turn.place ≠ some place) : (world.after body turn).threads place = none := by
  cases turn with
  | begin other call =>
    have apart : place ≠ other := fun same => elsewhere (congrArg some same.symm)
    unfold Interleaved.after
    dsimp only
    split
    · exact idle
    · exact (Function.update_of_ne apart _ _).trans idle
  | step other outcome =>
    have apart : place ≠ other := fun same => elsewhere (congrArg some same.symm)
    unfold Interleaved.after
    dsimp only
    split
    · exact idle
    · split
      · exact (Function.update_of_ne apart _ _).trans idle
      · exact (Function.update_of_ne apart _ _).trans idle
      · refine (Function.update_of_ne apart _ _).trans ?_
        split
        · exact idle
        · rw [disturb, idle]
          rfl
  | meddle edit =>
    change disturb world.threads place = none
    rw [disturb, idle]
    rfl

end Interleaved

/-- The call a deed is a deed of. -/
def Deed.about {κ σ ℓ ε α : Type} : Deed κ σ ℓ ε α → Option (Nat × κ)
  | .returned number call _ | .tried number call _ _ _ _ => some (number, call)
  | .meddled _ _ => none

namespace Interleaved
variable {κ σ ℓ ε α : Type} {body : κ → Program σ ℓ ε α} {world : Interleaved κ σ ℓ ε α}

/-- A number stands for one call. -/
structure Named (name : Nat → Option κ) (world : Interleaved κ σ ℓ ε α) : Prop where
  thread : ∀ place thread, world.threads place = some thread → name thread.number = some thread.call
  deed : ∀ deed ∈ world.log, ∀ number call, deed.about = some (number, call) → name number = some call
  fresh : ∀ number, world.calls ≤ number → name number = none

theorem Named.after {name : Nat → Option κ} (named : world.Named name) (body : κ → Program σ ℓ ε α) (turn : Turn κ σ) :
    ∃ later, (world.after body turn).Named later := by
  cases turn with
  | begin place call =>
    unfold Interleaved.after
    dsimp only
    split
    · exact ⟨name, named⟩
    · have kept {number : Nat} {known : κ} (same : name number = some known) :
          Function.update name world.calls (some call) number = some known := by
        rw [Function.update_of_ne, same]
        rintro rfl
        rw [named.fresh _ (Nat.le_refl _)] at same
        cases same
      refine ⟨Function.update name world.calls (some call), ?_, ?_, ?_⟩
      · intro other thread found
        change Function.update world.threads place _ other = some thread at found
        rw [Function.update_apply] at found
        split at found
        · cases found
          exact Function.update_self ..
        · exact kept (named.thread other thread found)
      · exact fun deed member number known about => kept (named.deed deed member number known about)
      · intro number late
        change world.calls + 1 ≤ number at late
        rw [Function.update_of_ne (by omega)]
        exact named.fresh number (by omega)
  | step place outcome =>
    refine ⟨name, ?_⟩
    unfold Interleaved.after
    dsimp only
    split
    · exact named
    · rename_i thread here
      have own := named.thread place thread here
      split
      · refine ⟨?_, ?_, named.fresh⟩
        · intro other later found
          change Function.update world.threads place none other = some later at found
          rw [Function.update_apply] at found
          split at found
          · cases found
          · exact named.thread other later found
        · intro deed member number known about
          rcases List.mem_append.mp member with old | new
          · exact named.deed deed old number known about
          · cases List.mem_singleton.mp new
            cases about
            exact own
      · refine ⟨?_, named.deed, named.fresh⟩
        intro other later found
        change Function.update world.threads place _ other = some later at found
        rw [Function.update_apply] at found
        split at found
        · cases found
          exact own
        · exact named.thread other later found
      · refine ⟨?_, ?_, named.fresh⟩
        · intro other later found
          change Function.update (if outcome = .refused then world.threads else disturb world.threads) place _ other =
            some later at found
          rw [Function.update_apply] at found
          split at found
          · cases found
            exact own
          · split at found
            · exact named.thread other later found
            · obtain ⟨before, was, rfl⟩ := disturb_eq_some.mp found
              exact named.thread other before was
        · intro deed member number known about
          rcases List.mem_append.mp member with old | new
          · exact named.deed deed old number known about
          · cases List.mem_singleton.mp new
            cases about
            exact own
  | meddle edit =>
    refine ⟨name, ?_, ?_, named.fresh⟩
    · intro place thread found
      obtain ⟨before, was, rfl⟩ := disturb_eq_some.mp found
      exact named.thread place before was
    · intro deed member number known about
      rcases List.mem_append.mp member with old | new
      · exact named.deed deed old number known about
      · cases List.mem_singleton.mp new
        cases about

theorem Named.run {name : Nat → Option κ} (named : world.Named name) (body : κ → Program σ ℓ ε α) (turns : List (Turn κ σ)) :
    ∃ later, (world.run body turns).Named later := by
  induction turns generalizing world name with
  | nil => exact ⟨name, named⟩
  | cons turn turns ih =>
    obtain ⟨later, next⟩ := named.after body turn
    exact ih next

theorem named_quiet (shared : σ) : (quiet shared : Interleaved κ σ ℓ ε α).Named fun _ => none where
  thread _ _ never := nomatch never
  deed _ never := nomatch never
  fresh _ _ := rfl

/-- What goes by one number in a log is one call. -/
theorem call_unique {shared : σ} {turns : List (Turn κ σ)} {deed other : Deed κ σ ℓ ε α} {number : Nat} {call known : κ}
    (member : deed ∈ ((quiet shared).run body turns).log) (also : other ∈ ((quiet shared).run body turns).log)
    (about : deed.about = some (number, call)) (about' : other.about = some (number, known)) : call = known := by
  have start : (quiet shared : Interleaved κ σ ℓ ε α).Named fun _ => none := named_quiet shared
  obtain ⟨name, named⟩ := start.run body turns
  have first := named.deed deed member number call about
  rw [named.deed other also number known about'] at first
  exact (Option.some.inj first).symm

end Interleaved

end BioAuth
