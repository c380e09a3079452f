import BioAuth.Lib.InterleavedCalls

namespace BioAuth

/-- What a deed is the effect of, and whether the call was told. A change that was said to be refused may have been made. -/
def Deed.effect {κ σ ℓ ε α : Type} (counts : ℓ → Bool) : Deed κ σ ℓ ε α → Option (Nat × κ × Bool)
  | .tried number call label outcome _ _ =>
    if counts label = true ∧ outcome ≠ .refused then some (number, call, decide (outcome = .made)) else none
  | _ => none

section Effected
variable {σ ℓ ε α β : Type} {counts : ℓ → Bool}

/-- Of each effect a call has had, whether it was told. -/
def effected (counts : ℓ → Bool) (tried : List (ℓ × Outcome)) : List Bool :=
  tried.filterMap fun trial => if counts trial.1 = true ∧ trial.2 ≠ .refused then some (decide (trial.2 = .made)) else none

theorem effected_concat (tried : List (ℓ × Outcome)) (label : ℓ) (outcome : Outcome) :
    effected counts (tried ++ [(label, outcome)]) = effected counts tried ++
      if counts label = true ∧ outcome ≠ .refused then [decide (outcome = .made)] else [] := by
  rw [effected, List.filterMap_append]
  refine congrArg _ ?_
  by_cases counted : counts label = true ∧ outcome ≠ .refused
  · rw [if_pos counted]
    exact List.filterMap_cons_some (if_pos counted)
  · rw [if_neg counted]
    exact List.filterMap_cons_none (if_neg counted)

/-- However the program goes on, it has no effect of its own. -/
def Program.Idle (counts : ℓ → Bool) (program : Program σ ℓ ε α) : Prop :=
  ∀ tried, program.Finishes (fun later _ => effected counts later = effected counts tried) tried

theorem Program.idle_done (result : Except ε α) : (done result : Program σ ℓ ε α).Idle counts := fun _ => rfl

theorem Program.idle_look {next : σ → Program σ ℓ ε α} (each : ∀ s, (next s).Idle counts) : (look next).Idle counts :=
  fun tried s => each s tried

theorem Program.Idle.bind {program : Program σ ℓ ε α} {f : α → Program σ ℓ ε β} (first : program.Idle counts)
    (second : ∀ a, (f a).Idle counts) : (program.bind f).Idle counts := by
  intro tried
  refine Finishes.bind (fun later _ => effected counts later = effected counts tried) ?_ fun later a same => ?_
  · refine (first tried).mono fun later result same => ?_
    cases result with
    | ok a => exact same
    | error e => exact same
  · exact (second a later).mono fun last _ still => still.trans same

theorem Program.idle_change {label : ℓ} (uncounted : counts label = false) (edit : σ → σ) {next : Bool → Program σ ℓ ε α}
    (rest : ∀ made, (next made).Idle counts) : (change label edit next).Idle counts := by
  intro tried outcome
  have same : effected counts (tried ++ [(label, outcome)]) = effected counts tried := by
    rw [effected_concat, if_neg fun counted => Bool.false_ne_true (uncounted.symm.trans counted.1), List.append_nil]
  exact (rest _ _).mono fun later _ still => still.trans same

end Effected

namespace Interleaved
variable {κ σ ℓ ε α τ : Type} {body : κ → Program σ ℓ ε α} {counts : ℓ → Bool}

/-- The effects of a log, one after another. -/
def effectsIn (counts : ℓ → Bool) (log : List (Deed κ σ ℓ ε α)) : List (Nat × κ × Bool) := log.filterMap (Deed.effect counts)

/-- The effects of one number are those its call has tried. -/
theorem effectsIn_number (log : List (Deed κ σ ℓ ε α)) (number : Nat) (call : κ)
    (named : ∀ deed ∈ log, ∀ known, deed.about = some (number, known) → known = call) :
    (effectsIn counts log).filter (fun effect => effect.1 = number) =
      (effected counts (trials log number)).map fun told => (number, call, told) := by
  induction log with
  | nil => rfl
  | cons deed log ih =>
    have rest := ih fun other member => named other (List.mem_cons_of_mem _ member)
    unfold effectsIn effected trials at rest ⊢
    cases deed with
    | returned other known result => exact rest
    | meddled before after => exact rest
    | tried other known label outcome before after =>
      by_cases own : other = number
      · subst own
        cases named _ List.mem_cons_self known rfl
        by_cases counted : counts label = true ∧ outcome ≠ .refused
        · simp [Deed.effect, Deed.trial, counted, rest]
        · simp [Deed.effect, Deed.trial, counted, rest]
      · by_cases counted : counts label = true ∧ outcome ≠ .refused
        · simp [Deed.effect, Deed.trial, counted, own, rest]
        · simp [Deed.effect, Deed.trial, counted, own, rest]

/-- What a call has done by the time it returns. -/
theorem effectsIn_returned {start : σ} {turns : List (Turn κ σ)} {number : Nat} {call : κ} {result : Except ε α}
    (member : Deed.returned number call result ∈ ((quiet start).run body turns).log) :
    (effectsIn counts ((quiet start).run body turns).log).filter (fun effect => effect.1 = number) =
      (effected counts (trials ((quiet start).run body turns).log number)).map fun told => (number, call, told) :=
  effectsIn_number _ number call fun _ logged _ about => call_unique logged member about rfl

/-- An effect is of a call that has begun. -/
theorem effectsIn_known {post : κ → List (ℓ × Outcome) → Except ε α → Prop} {world : Interleaved κ σ ℓ ε α}
    (kept : world.Kept post) {effect : Nat × κ × Bool} (member : effect ∈ effectsIn counts world.log) :
    effect.1 < world.calls := by
  obtain ⟨deed, logged, same⟩ := List.mem_filterMap.mp member
  cases deed with
  | returned number call result => cases same
  | meddled before after => cases same
  | tried number call label outcome before after =>
    unfold Deed.effect at same
    dsimp only at same
    split at same
    · cases same
      exact kept.known _ logged number rfl
    · cases same

variable {post : κ → ℓ → σ → σ → Prop} {runs : ∀ call s, (body call).Runs (post call) (fun _ _ => True) s}

/-- A log of changes that were made with nothing stale in sight, replayed on what there was to begin with. -/
theorem replayed (view : σ → τ) (apply : κ → τ → τ) {log : List (Deed κ σ ℓ ε α)} {first last : σ}
    (story : Story first log last) (apt : Apt (Outlook.alone post runs) log)
    (alone : ∀ before after, Deed.meddled before after ∉ log)
    (effective : ∀ number call label outcome before after, Deed.tried number call label outcome before after ∈ log →
      post call label before after → view after = if counts label = true then apply call (view before) else view before) :
    view last = (effectsIn counts log).foldl (fun v effect => apply effect.2.1 v) (view first) := by
  induction log generalizing first with
  | nil =>
    cases story
    rfl
  | cons deed log ih =>
    have apt' : Apt (Outlook.alone post runs) log := fun _ _ _ _ _ _ member => apt _ _ _ _ _ _ (List.mem_cons_of_mem _ member)
    have alone' : ∀ before after, Deed.meddled before after ∉ log := fun _ _ member => alone _ _ (List.mem_cons_of_mem _ member)
    have effective' := fun number call label outcome before after member =>
      effective number call label outcome before after (List.mem_cons_of_mem _ member)
    cases deed with
    | returned number call result => exact ih story apt' alone' effective'
    | meddled before after => exact absurd List.mem_cons_self (alone before after)
    | tried number call label outcome before after =>
      obtain ⟨rfl, story⟩ := story
      have later := ih story apt' alone' effective'
      rcases apt number call label outcome before after List.mem_cons_self with ⟨refused, same⟩ | ⟨made, edit, next, does, same⟩
      · have nothing : effectsIn counts (Deed.tried number call label outcome before after :: log) = effectsIn counts log :=
          List.filterMap_cons_none (if_neg fun counted => counted.2 refused)
        rw [nothing, later, same]
      · have step := effective number call label outcome before after List.mem_cons_self (same ▸ does.1)
        by_cases counted : counts label = true
        · have one : effectsIn counts (Deed.tried number call label outcome before after :: log) =
              (number, call, decide (outcome = .made)) :: effectsIn counts log :=
            List.filterMap_cons_some (if_pos ⟨counted, made⟩)
          rw [if_pos counted] at step
          rw [one, later, step]
          rfl
        · have nothing : effectsIn counts (Deed.tried number call label outcome before after :: log) = effectsIn counts log :=
            List.filterMap_cons_none (if_neg fun both => counted both.1)
          rw [if_neg counted] at step
          rw [nothing, later, step]

end Interleaved

end BioAuth
