import BioAuth.Lib.Fallible

namespace BioAuth

/-- A state, with what has been noted of the calls that were made on it. -/
structure Watched (σ γ : Type) where
  state : σ
  acts : List γ

namespace Fallible
variable {σ ε α β γ : Type}

theorem tryCatch_run (x : Fallible σ ε α) (handle : ε → Fallible σ ε α) (s : σ) :
    (MonadExcept.tryCatch x handle : Fallible σ ε α) s = match x s with
      | (.ok a, t) => (.ok a, t)
      | (.error e, t) => handle e t :=
  rfl

/-- A call that is noted with how it came out. -/
def watched (note : Except ε α → γ) (x : Fallible σ ε α) : Fallible (Watched σ γ) ε α := fun s =>
  ((x s.state).1, ⟨(x s.state).2, s.acts ++ [note (x s.state).1]⟩)

/-- What a step adds to the notes when it succeeds, and when it fails. -/
def Traces (x : Fallible (Watched σ γ) ε α) (good : α → List γ → Prop) (bad : ε → List γ → Prop) : Prop :=
  ∀ s, x.Ends (fun a t => ∃ more, t.acts = s.acts ++ more ∧ good a more)
    (fun e t => ∃ more, t.acts = s.acts ++ more ∧ bad e more) s

variable {x : Fallible (Watched σ γ) ε α} {good : α → List γ → Prop} {bad : ε → List γ → Prop}

/-- Started with nothing noted, what is noted at the end is what the step has added. -/
theorem Traces.ends (traces : x.Traces good bad) (s : σ) :
    x.Ends (fun a t => good a t.acts) (fun e t => bad e t.acts) ⟨s, []⟩ := by
  refine (traces ⟨s, []⟩).mono ?_ ?_
  · rintro a t ⟨more, added, wrote⟩
    rwa [added, List.nil_append]
  · rintro e t ⟨more, added, wrote⟩
    rwa [added, List.nil_append]

theorem Traces.mono {wider : α → List γ → Prop} {lenient : ε → List γ → Prop} (traces : x.Traces good bad)
    (grows : ∀ a more, good a more → wider a more) (allows : ∀ e more, bad e more → lenient e more) :
    x.Traces wider lenient := by
  intro s
  refine (traces s).mono ?_ ?_
  · rintro a t ⟨more, added, wrote⟩
    exact ⟨more, added, grows a more wrote⟩
  · rintro e t ⟨more, added, wrote⟩
    exact ⟨more, added, allows e more wrote⟩

/-- A step that leaves the notes alone. -/
theorem Traces.silent (keeps : ∀ s, (x s).2.acts = s.acts) (succeeds : ∀ s a, (x s).1 = .ok a → good a [])
    (fails : ∀ s e, (x s).1 = .error e → bad e []) : x.Traces good bad := by
  intro s
  rw [ends_iff]
  constructor
  · intro a t run
    have kept := keeps s
    rw [run] at kept
    exact ⟨[], by rw [kept, List.append_nil], succeeds s a (by rw [run])⟩
  · intro e t run
    have kept := keeps s
    rw [run] at kept
    exact ⟨[], by rw [kept, List.append_nil], fails s e (by rw [run])⟩

theorem Traces.pure {a : α} (nothing : good a []) : (Pure.pure a : Fallible (Watched σ γ) ε α).Traces good bad :=
  .silent (fun _ => rfl) (fun _ _ same => Except.ok.inj same ▸ nothing) fun _ _ same => by cases same

theorem Traces.throw {e : ε} (nothing : bad e []) :
    (MonadExcept.throw e : Fallible (Watched σ γ) ε α).Traces good bad :=
  .silent (fun _ => rfl) (fun _ _ same => by cases same) fun _ _ same => Except.error.inj same ▸ nothing

theorem Traces.liftM {r : Except ε α} (succeeds : ∀ a, r = .ok a → good a []) (fails : ∀ e, r = .error e → bad e []) :
    (liftM r : Fallible (Watched σ γ) ε α).Traces good bad :=
  .silent (fun _ => rfl) (fun _ => succeeds) fun _ => fails

theorem Traces.watched {note : Except ε α → γ} {x : Fallible σ ε α} :
    (watched note x).Traces (fun a acts => acts = [note (.ok a)]) fun e acts => acts = [note (.error e)] := by
  intro s
  rw [ends_iff]
  constructor
  · intro a t run
    have result : (x s.state).1 = .ok a := congrArg Prod.fst run
    have after : ⟨(x s.state).2, s.acts ++ [note (x s.state).1]⟩ = t := congrArg Prod.snd run
    rw [← after, result]
    exact ⟨_, rfl, rfl⟩
  · intro e t run
    have result : (x s.state).1 = .error e := congrArg Prod.fst run
    have after : ⟨(x s.state).2, s.acts ++ [note (x s.state).1]⟩ = t := congrArg Prod.snd run
    rw [← after, result]
    exact ⟨_, rfl, rfl⟩

/-- Two steps one after the other add what the first adds and then what the second adds. -/
theorem Traces.bind {f : α → Fallible (Watched σ γ) ε β} {last : β → List γ → Prop} {failed : ε → List γ → Prop}
    (first : x.Traces good bad) (stops : ∀ e more, bad e more → failed e more)
    (second : ∀ a more, good a more → (f a).Traces (fun b rest => last b (more ++ rest)) fun e rest => failed e (more ++ rest)) :
    (x >>= f).Traces last failed := by
  intro s
  refine Ends.bind _ ((first s).mono (fun _ _ done => done) ?_) ?_
  · rintro e t ⟨more, added, wrote⟩
    exact ⟨more, added, stops e more wrote⟩
  · rintro a t ⟨more, added, wrote⟩
    refine (second a more wrote t).mono ?_ ?_
    · rintro b u ⟨rest, later, both⟩
      exact ⟨more ++ rest, by rw [later, added, List.append_assoc], both⟩
    · rintro e u ⟨rest, later, both⟩
      exact ⟨more ++ rest, by rw [later, added, List.append_assoc], both⟩

/-- A check, and what follows where it passes. -/
theorem Traces.require_bind {check : Prop} [Decidable check] {e : ε} {f : Unit → Fallible (Watched σ γ) ε α}
    (refused : ¬check → bad e []) (next : check → (f ()).Traces good bad) :
    ((require check e : Fallible (Watched σ γ) ε Unit) >>= f).Traces good bad := by
  intro s
  exact Ends.require_bind (fun fails => ⟨[], (List.append_nil _).symm, refused fails⟩) fun passes => next passes s

/-- A value that may be missing, and what follows where it is there. -/
theorem Traces.liftM_bind {r : Except ε β} {f : β → Fallible (Watched σ γ) ε α} (refused : ∀ e, r = .error e → bad e [])
    (next : ∀ b, r = .ok b → (f b).Traces good bad) :
    ((MonadLiftT.monadLift r : Fallible (Watched σ γ) ε β) >>= f).Traces good bad := by
  intro s
  exact Ends.liftM_bind (fun e fails => ⟨[], (List.append_nil _).symm, refused e fails⟩) fun b found => next b found s

/-- What is done about a failure adds to what was noted before it. -/
theorem Traces.tryCatch {handle : ε → Fallible (Watched σ γ) ε α} {failed : ε → List γ → Prop} (first : x.Traces good bad)
    (caught : ∀ e more, bad e more → (handle e).Traces (fun a rest => good a (more ++ rest)) fun e rest => failed e (more ++ rest)) :
    (MonadExcept.tryCatch x handle : Fallible (Watched σ γ) ε α).Traces good failed := by
  intro s
  refine Ends.tryCatch _ (first s) ?_
  rintro e t ⟨more, added, wrote⟩
  refine (caught e more wrote t).mono ?_ ?_
  · rintro a u ⟨rest, later, both⟩
    exact ⟨more ++ rest, by rw [later, added, List.append_assoc], both⟩
  · rintro e u ⟨rest, later, both⟩
    exact ⟨more ++ rest, by rw [later, added, List.append_assoc], both⟩

/-- To look on changes nothing: the step ends as the plain step does, in the same state. -/
def Shadows (x : Fallible (Watched σ γ) ε α) (y : Fallible σ ε α) : Prop :=
  ∀ s, (x s).1 = (y s.state).1 ∧ (x s).2.state = (y s.state).2

theorem Shadows.pure (a : α) : Shadows (Pure.pure a : Fallible (Watched σ γ) ε α) (Pure.pure a) := fun _ => ⟨rfl, rfl⟩

theorem Shadows.throw (e : ε) :
    Shadows (MonadExcept.throw e : Fallible (Watched σ γ) ε α) (MonadExcept.throw e) := fun _ => ⟨rfl, rfl⟩

theorem Shadows.liftM (r : Except ε α) :
    Shadows (MonadLiftT.monadLift r : Fallible (Watched σ γ) ε α) (MonadLiftT.monadLift r) := fun _ => ⟨rfl, rfl⟩

theorem Shadows.watched (note : Except ε α → γ) (x : Fallible σ ε α) : Shadows (watched note x) x := fun _ => ⟨rfl, rfl⟩

theorem Shadows.require (check : Prop) [Decidable check] (e : ε) :
    Shadows (require check e : Fallible (Watched σ γ) ε Unit) (require check e) := by
  unfold BioAuth.require
  split
  · exact .pure ()
  · exact .throw e

theorem Shadows.bind {x : Fallible (Watched σ γ) ε α} {y : Fallible σ ε α} {f : α → Fallible (Watched σ γ) ε β}
    {g : α → Fallible σ ε β} (first : Shadows x y) (second : ∀ a, Shadows (f a) (g a)) :
    Shadows (x >>= f) (y >>= g) := by
  intro s
  obtain ⟨result, state⟩ := first s
  rw [bind_run, bind_run]
  rcases ran : x s with ⟨e | a, t⟩
  · rcases plain : y s.state with ⟨other, u⟩
    rw [ran, plain] at result state
    cases result
    exact ⟨rfl, state⟩
  · rcases plain : y s.state with ⟨other, u⟩
    rw [ran, plain] at result state
    cases result
    cases state
    exact second a t

/-- A step that begins by looking at the state. -/
theorem Shadows.get_bind {f : Watched σ γ → Fallible (Watched σ γ) ε β} {g : σ → Fallible σ ε β}
    (second : ∀ s, Shadows (f s) (g s.state)) : Shadows (get >>= f) (get >>= g) :=
  fun s => second s s

theorem Shadows.tryCatch {x : Fallible (Watched σ γ) ε α} {y : Fallible σ ε α}
    {handle : ε → Fallible (Watched σ γ) ε α} {plainly : ε → Fallible σ ε α} (first : Shadows x y)
    (caught : ∀ e, Shadows (handle e) (plainly e)) :
    Shadows (MonadExcept.tryCatch x handle) (MonadExcept.tryCatch y plainly) := by
  intro s
  obtain ⟨result, state⟩ := first s
  rw [tryCatch_run, tryCatch_run]
  rcases ran : x s with ⟨e | a, t⟩
  · rcases ends : y s.state with ⟨other, u⟩
    rw [ran, ends] at result state
    cases result
    cases state
    exact caught e t
  · rcases ends : y s.state with ⟨other, u⟩
    rw [ran, ends] at result state
    cases result
    exact ⟨rfl, state⟩

end Fallible

end BioAuth
