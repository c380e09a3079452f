import BioAuth.Lib.Fallible

namespace BioAuth.Fallible
variable {σ τ ε α β γ : Type}

/-- A step that only adds to an output. Started where the output reads `c` it leaves it reading `c` and
more: what it added satisfies `wrote` when it succeeds, and it fails only as `fails` allows. -/
def Appends (holds : List γ → σ → Prop) (x : Fallible σ ε α) (wrote : α → List γ → Prop) (fails : ε → Prop) : Prop :=
  ∀ c s, holds c s →
    x.Ends (fun a t => ∃ more, wrote a more ∧ holds (c ++ more) t)
      (fun e t => fails e ∧ ∃ more, holds (c ++ more) t) s

variable {holds : List γ → σ → Prop} {fails : ε → Prop}

theorem Appends.mono {x : Fallible σ ε α} {wrote wider : α → List γ → Prop} (appends : x.Appends holds wrote fails)
    (grows : ∀ a more, wrote a more → wider a more) : x.Appends holds wider fails := by
  intro c s output
  refine (appends c s output).mono ?_ fun _ _ failed => failed
  rintro a t ⟨more, written, after⟩
  exact ⟨more, grows a more written, after⟩

theorem Appends.allow {x : Fallible σ ε α} {wrote : α → List γ → Prop} {lenient : ε → Prop}
    (appends : x.Appends holds wrote fails) (allows : ∀ e, fails e → lenient e) : x.Appends holds wrote lenient := by
  intro c s output
  refine (appends c s output).mono (fun _ _ done => done) ?_
  rintro e t ⟨failed, after⟩
  exact ⟨allows e failed, after⟩

theorem Appends.pure {a : α} {wrote : α → List γ → Prop} (nothing : wrote a []) :
    (Pure.pure a : Fallible σ ε α).Appends holds wrote fails := by
  intro c s output
  exact ends_pure.mpr ⟨[], nothing, by rwa [List.append_nil]⟩

theorem Appends.throw {e : ε} {wrote : α → List γ → Prop} (allowed : fails e) :
    (MonadExcept.throw e : Fallible σ ε α).Appends holds wrote fails := by
  intro c s output
  exact ends_throw.mpr ⟨allowed, [], by rwa [List.append_nil]⟩

theorem Appends.liftM {r : Except ε α} (wrote : α → List γ → Prop) (good : ∀ a, r = .ok a → wrote a [])
    (bad : ∀ e, r = .error e → fails e) : (liftM r : Fallible σ ε α).Appends holds wrote fails := by
  cases r with
  | error e => exact Appends.throw (bad e rfl)
  | ok a => exact Appends.pure (good a rfl)

theorem Appends.require {check : Prop} [Decidable check] {e : ε} (wrote : Unit → List γ → Prop)
    (good : check → wrote () []) (bad : ¬check → fails e) :
    (BioAuth.require check e : Fallible σ ε Unit).Appends holds wrote fails := by
  unfold BioAuth.require
  split
  · exact Appends.pure (good ‹_›)
  · exact Appends.throw (bad ‹_›)

theorem Appends.within {x : Fallible τ ε α} {t : τ} (wrote : α × τ → List γ → Prop)
    (good : ∀ a t', x t = (.ok a, t') → wrote (a, t') []) (bad : ∀ e t', x t = (.error e, t') → fails e) :
    (within x t : Fallible σ ε (α × τ)).Appends holds wrote fails := by
  intro c s output
  have same : holds (c ++ []) s := by rwa [List.append_nil]
  unfold Fallible.within Ends
  rcases run : x t with ⟨_ | a, t'⟩
  · exact ⟨bad _ _ run, [], same⟩
  · exact ⟨[], good _ _ run, same⟩

/-- Two steps one after the other add what the first adds and then what the second adds. -/
theorem Appends.bind {x : Fallible σ ε α} {f : α → Fallible σ ε β} {wrote : β → List γ → Prop}
    {first : α → List γ → Prop} (one : x.Appends holds first fails)
    (two : ∀ a more, first a more → (f a).Appends holds (fun b rest => wrote b (more ++ rest)) fails) :
    (x >>= f).Appends holds wrote fails := by
  intro c s output
  rw [ends_bind]
  refine (one c s output).mono ?_ fun _ _ failed => failed
  rintro a t ⟨more, written, after⟩
  refine (two a more written _ t after).mono ?_ ?_
  · rintro b u ⟨rest, both, last⟩
    exact ⟨more ++ rest, both, by rwa [← List.append_assoc]⟩
  · rintro e u ⟨allowed, rest, last⟩
    exact ⟨allowed, more ++ rest, by rwa [← List.append_assoc]⟩

end BioAuth.Fallible
