import Mathlib.Tactic.Basic

namespace BioAuth

/-- A check that does nothing when it holds and fails with `e` otherwise. -/
def require {m : Type → Type} {ε : Type} [Monad m] [MonadExcept ε m] (holds : Prop) [Decidable holds] (e : ε) :
    m Unit :=
  if holds then pure () else throw e

/-- `Option::ok_or`. -/
def okOr {ε α : Type} (e : ε) : Option α → Except ε α
  | some a => .ok a
  | none => .error e

section Except
variable {ε α β : Type}
attribute [local congr] require.congr_simp
attribute [local simp] require

theorem okOr_eq_ok {e : ε} {x : Option α} {a : α} : okOr e x = .ok a ↔ x = some a := by
  cases x <;> simp [okOr]

theorem except_bind_eq_ok {x : Except ε α} {f : α → Except ε β} {b : β} :
    (x >>= f) = .ok b ↔ ∃ a, x = .ok a ∧ f a = .ok b := by
  cases x with
  | error e => exact ⟨fun run => (nomatch run), fun ⟨_, run, _⟩ => (nomatch run)⟩
  | ok a => exact ⟨fun run => ⟨a, rfl, run⟩, fun ⟨_, same, run⟩ => Except.ok.inj same ▸ run⟩

theorem except_pure_eq_ok {a b : α} : (pure a : Except ε α) = .ok b ↔ a = b := by
  rw [show (pure a : Except ε α) = .ok a from rfl, Except.ok.injEq]

theorem except_require_eq_ok {holds : Prop} [Decidable holds] {e : ε} {u : Unit} :
    (require holds e : Except ε Unit) = .ok u ↔ holds := by
  unfold require
  split
  · exact iff_of_true rfl ‹_›
  · exact iff_of_false (fun run => nomatch run) ‹_›

theorem except_toOption_eq_some {ε α : Type} {x : Except ε α} {a : α} : x.toOption = some a ↔ x = .ok a := by
  cases x with
  | error _ => exact iff_of_false nofun nofun
  | ok found => exact ⟨fun same => congrArg Except.ok (Option.some.inj same), fun same => congrArg Except.toOption same⟩

theorem except_mapError_eq_ok {ε ε' α : Type} {r : Except ε α} {rename : ε → ε'} {a : α} :
    r.mapError rename = .ok a ↔ r = .ok a := by
  cases r with
  | error _ => exact iff_of_false nofun nofun
  | ok _ =>
    exact ⟨fun same => congrArg Except.ok (Except.ok.inj same), fun same => congrArg Except.ok (Except.ok.inj same)⟩

theorem except_forM_eq_ok {items : List α} {f : α → Except ε Unit} {u : Unit} :
    items.forM f = .ok u ↔ ∀ item ∈ items, f item = .ok () := by
  induction items with
  | nil => exact iff_of_true rfl fun item member => nomatch member
  | cons item items ih =>
    rw [List.forM, List.forall_mem_cons, except_bind_eq_ok]
    simp only [ih]
    exact ⟨fun ⟨_, both⟩ => both, fun both => ⟨(), both⟩⟩

theorem except_mapM_eq_ok {items : List α} {f : α → Except ε β} {g : α → β} (each : ∀ item ∈ items, f item = .ok (g item)) :
    items.mapM f = .ok (items.map g) := by
  induction items with
  | nil => rfl
  | cons item items ih =>
    rw [List.forall_mem_cons] at each
    rw [List.mapM_cons, each.1, ih each.2]
    rfl

/-- A walk over a list fails as one of its steps does. -/
theorem except_forM_eq_error {items : List α} {f : α → Except ε Unit} {e : ε} (failed : items.forM f = .error e) :
    ∃ item ∈ items, f item = .error e := by
  induction items with
  | nil => cases failed
  | cons item items ih =>
    rcases first : f item with other | _
    · rw [List.forM, first] at failed
      exact ⟨item, List.mem_cons_self, first.trans failed⟩
    · rw [List.forM, first] at failed
      obtain ⟨later, member, same⟩ := ih failed
      exact ⟨later, List.mem_cons_of_mem _ member, same⟩

end Except

/-- A step over a state that either yields a value or fails, and leaves a state
behind in both cases. A failure does not undo what was done before it. -/
def Fallible (σ ε α : Type) : Type := σ → Except ε α × σ

namespace Fallible
variable {σ τ ε ε' α β γ : Type}

instance : Monad (Fallible σ ε) where
  pure a := fun s => (.ok a, s)
  bind x f := fun s =>
    match x s with
    | (.ok a, t) => f a t
    | (.error e, t) => (.error e, t)

instance : MonadExceptOf ε (Fallible σ ε) where
  throw e := fun s => (.error e, s)
  tryCatch x handle := fun s =>
    match x s with
    | (.ok a, t) => (.ok a, t)
    | (.error e, t) => handle e t

instance : MonadStateOf σ (Fallible σ ε) where
  get := fun s => (.ok s, s)
  set t := fun _ => (.ok ⟨⟩, t)
  modifyGet f := fun s => (.ok (f s).1, (f s).2)

instance : MonadLift (Except ε) (Fallible σ ε) where
  monadLift r := fun s => (r, s)

/-- Run a step over a state of its own and hand its final state back as a value. -/
def within (x : Fallible τ ε α) (t : τ) : Fallible σ ε (α × τ) := fun s =>
  match x t with
  | (.ok a, t') => (.ok (a, t'), s)
  | (.error e, _) => (.error e, s)

/-- The same step with its failures renamed. -/
def mapError (rename : ε → ε') (x : Fallible σ ε α) : Fallible σ ε' α := fun s =>
  match x s with
  | (.ok a, t) => (.ok a, t)
  | (.error e, t) => (.error (rename e), t)

/-- A step tried again, at most so many times, until it succeeds. -/
def retry : Nat → Fallible σ ε α → Fallible σ ε α
  | 0, step => step
  | attempts + 1, step => fun s =>
    match step s with
    | (.ok a, t) => (.ok a, t)
    | (.error _, t) => retry attempts step t

/-- One value after another, as many as asked for. -/
def times (p : Fallible σ ε α) : Nat → Fallible σ ε (List α)
  | 0 => pure []
  | n + 1 => do
    let a ← p
    let rest ← times p n
    return a :: rest

section Run

theorem pure_run (a : α) (s : σ) : (pure a : Fallible σ ε α) s = (.ok a, s) := rfl

theorem throw_run (e : ε) (s : σ) : (throw e : Fallible σ ε α) s = (.error e, s) := rfl

theorem get_run (s : σ) : (get : Fallible σ ε σ) s = (.ok s, s) := rfl

theorem set_run (t s : σ) : (set t : Fallible σ ε PUnit) s = (.ok ⟨⟩, t) := rfl

theorem modify_run (f : σ → σ) (s : σ) : (modify f : Fallible σ ε PUnit) s = (.ok ⟨⟩, f s) := rfl

/-- A run of which only the result is known. -/
theorem run_of_fst {x : Fallible σ ε α} {r : Except ε α} {s : σ} (result : (x s).1 = r) : x s = (r, (x s).2) := by
  rw [← result]

theorem liftM_run (r : Except ε α) (s : σ) : (liftM r : Fallible σ ε α) s = (r, s) := rfl

theorem bind_run (x : Fallible σ ε α) (f : α → Fallible σ ε β) (s : σ) :
    (x >>= f) s = match x s with
      | (.ok a, t) => f a t
      | (.error e, t) => (.error e, t) := rfl

theorem bind_run_ok {x : Fallible σ ε α} {a : α} {s t : σ} (f : α → Fallible σ ε β)
    (run : x s = (.ok a, t)) : (x >>= f) s = f a t := by
  rw [bind_run, run]

theorem bind_run_error {x : Fallible σ ε α} {e : ε} {s t : σ} (f : α → Fallible σ ε β)
    (run : x s = (.error e, t)) : (x >>= f) s = (.error e, t) := by
  rw [bind_run, run]

theorem bind_assoc (x : Fallible σ ε α) (f : α → Fallible σ ε β) (g : β → Fallible σ ε γ) :
    x >>= f >>= g = x >>= fun a => f a >>= g := by
  funext s
  rw [bind_run, bind_run, bind_run]
  rcases x s with ⟨_ | a, t⟩ <;> rfl

theorem bind_pure (x : Fallible σ ε α) : x >>= Pure.pure = x := by
  funext s
  rw [bind_run]
  rcases x s with ⟨_ | a, t⟩ <;> rfl

/-- A sequence succeeds exactly when both of its halves do. -/
theorem bind_eq_ok {x : Fallible σ ε α} {f : α → Fallible σ ε β} {b : β} {s u : σ} :
    (x >>= f) s = (.ok b, u) ↔ ∃ a t, x s = (.ok a, t) ∧ f a t = (.ok b, u) := by
  rw [bind_run]
  constructor
  · intro run
    rcases first : x s with ⟨_ | a, t⟩
    · simp [first] at run
    · exact ⟨a, t, rfl, by simpa only [first] using run⟩
  · rintro ⟨a, t, first, second⟩
    simp only [first, second]

theorem liftM_eq_ok {r : Except ε α} {a : α} {s t : σ} :
    (liftM r : Fallible σ ε α) s = (.ok a, t) ↔ r = .ok a ∧ s = t := by
  simp only [liftM_run, Prod.mk.injEq]

theorem require_eq_ok {holds : Prop} [Decidable holds] {e : ε} {u : Unit} {s t : σ} :
    (require holds e : Fallible σ ε Unit) s = (.ok u, t) ↔ holds ∧ s = t := by
  unfold require
  split
  · rename_i pass
    simp only [pure_run, Prod.mk.injEq, true_and, pass]
  · rename_i refused
    simp only [throw_run, Prod.mk.injEq, reduceCtorEq, false_and, refused]

theorem require_bind_run {holds : Prop} [Decidable holds] (e : ε) (f : Unit → Fallible σ ε β) (s : σ) :
    (require holds e >>= f : Fallible σ ε β) s = if holds then f () s else (.error e, s) := by
  unfold require
  split <;> rfl

theorem require_bind_eq_ok {holds : Prop} [Decidable holds] {e : ε} {f : Unit → Fallible σ ε β} {b : β} {s u : σ} :
    ((require holds e : Fallible σ ε Unit) >>= f) s = (.ok b, u) ↔ holds ∧ f () s = (.ok b, u) := by
  simp only [bind_eq_ok, require_eq_ok]
  constructor
  · rintro ⟨_, _, ⟨pass, rfl⟩, run⟩
    exact ⟨pass, run⟩
  · rintro ⟨pass, run⟩
    exact ⟨(), s, ⟨pass, rfl⟩, run⟩

theorem liftM_bind_eq_ok {r : Except ε α} {f : α → Fallible σ ε β} {b : β} {s u : σ} :
    ((liftM r : Fallible σ ε α) >>= f) s = (.ok b, u) ↔ ∃ a, r = .ok a ∧ f a s = (.ok b, u) := by
  simp only [bind_eq_ok, liftM_eq_ok]
  constructor
  · rintro ⟨a, _, ⟨read, rfl⟩, run⟩
    exact ⟨a, read, run⟩
  · rintro ⟨a, read, run⟩
    exact ⟨a, s, ⟨read, rfl⟩, run⟩

theorem pure_eq_ok {a b : α} {s t : σ} : (pure a : Fallible σ ε α) s = (.ok b, t) ↔ a = b ∧ s = t := by
  rw [pure_run, Prod.mk.injEq, Except.ok.injEq]

theorem mapError_run (rename : ε → ε') (x : Fallible σ ε α) (s : σ) :
    mapError rename x s = ((x s).1.mapError rename, (x s).2) := by
  unfold mapError
  rcases x s with ⟨_ | _, _⟩ <;> rfl

theorem mapError_eq_ok {x : Fallible σ ε α} {rename : ε → ε'} {a : α} {s t : σ} :
    mapError rename x s = (.ok a, t) ↔ x s = (.ok a, t) := by
  unfold mapError
  rcases x s with ⟨_ | _, _⟩ <;> simp

theorem within_eq_ok {x : Fallible τ ε α} {t t' : τ} {a : α} {s s' : σ} :
    within x t s = (.ok (a, t'), s') ↔ x t = (.ok a, t') ∧ s = s' := by
  unfold within
  rcases x t with ⟨_ | _, _⟩ <;> simp

end Run

section Ends

/-- From the state `s` the step ends in `good` when it succeeds and in `bad` when it fails. -/
def Ends (x : Fallible σ ε α) (good : α → σ → Prop) (bad : ε → σ → Prop) (s : σ) : Prop :=
  match x s with
  | (.ok a, t) => good a t
  | (.error e, t) => bad e t

variable {good : α → σ → Prop} {bad : ε → σ → Prop} {s : σ}

theorem ends_iff {x : Fallible σ ε α} :
    x.Ends good bad s ↔ (∀ a t, x s = (.ok a, t) → good a t) ∧ ∀ e t, x s = (.error e, t) → bad e t := by
  unfold Ends
  rcases x s with ⟨_ | _, _⟩ <;> simp

theorem Ends.good_of_run {x : Fallible σ ε α} {a : α} {t : σ} (ends : x.Ends good bad s)
    (run : x s = (.ok a, t)) : good a t :=
  (ends_iff.mp ends).1 a t run

theorem Ends.bad_of_run {x : Fallible σ ε α} {e : ε} {t : σ} (ends : x.Ends good bad s)
    (run : x s = (.error e, t)) : bad e t :=
  (ends_iff.mp ends).2 e t run

theorem ends_bind {x : Fallible σ ε α} {f : α → Fallible σ ε β} {good : β → σ → Prop} :
    (x >>= f).Ends good bad s ↔ x.Ends (fun a t => (f a).Ends good bad t) bad s := by
  unfold Ends
  rw [bind_run]
  rcases x s with ⟨_ | _, _⟩ <;> rfl

theorem ends_pure {a : α} : (pure a : Fallible σ ε α).Ends good bad s ↔ good a s := Iff.rfl

theorem ends_throw {e : ε} : (throw e : Fallible σ ε α).Ends good bad s ↔ bad e s := Iff.rfl

theorem ends_liftM {r : Except ε α} :
    (liftM r : Fallible σ ε α).Ends good bad s ↔
      (∀ a, r = .ok a → good a s) ∧ ∀ e, r = .error e → bad e s := by
  cases r <;> simp [Ends, liftM_run]

theorem ends_mapError {rename : ε → ε'} {x : Fallible σ ε α} {bad : ε' → σ → Prop} :
    (mapError rename x).Ends good bad s ↔ x.Ends good (fun e => bad (rename e)) s := by
  unfold Ends mapError
  rcases x s with ⟨_ | _, _⟩ <;> rfl

/-- What holds of both ends holds of the state behind the step. -/
theorem Ends.state {x : Fallible σ ε α} {holds : σ → Prop} (ends : x.Ends (fun _ => holds) (fun _ => holds) s) :
    holds (x s).2 := by
  unfold Ends at ends
  rcases run : x s with ⟨_ | _, _⟩ <;> rwa [run] at ends

/-- A step ends where it ends. -/
theorem ends_self (x : Fallible σ ε α) : x.Ends (fun _ t => t = (x s).2) (fun _ t => t = (x s).2) s := by
  unfold Ends
  rcases x s with ⟨_ | _, _⟩ <;> rfl

theorem Ends.mono {x : Fallible σ ε α} {good' : α → σ → Prop} {bad' : ε → σ → Prop}
    (ends : x.Ends good bad s) (goods : ∀ a t, good a t → good' a t) (bads : ∀ e t, bad e t → bad' e t) :
    x.Ends good' bad' s := by
  rw [ends_iff] at ends ⊢
  exact ⟨fun a t run => goods a t (ends.1 a t run), fun e t run => bads e t (ends.2 e t run)⟩

/-- Whatever is known of both ends, the run itself may be kept beside it. -/
theorem Ends.recall {x : Fallible σ ε α} (ends : x.Ends good bad s) :
    x.Ends (fun a t => x s = (.ok a, t) ∧ good a t) (fun e t => x s = (.error e, t) ∧ bad e t) s := by
  rw [ends_iff] at ends ⊢
  exact ⟨fun a t run => ⟨run, ends.1 a t run⟩, fun e t run => ⟨run, ends.2 e t run⟩⟩

/-- The rule of sequence: the second half starts where the first half may end. -/
theorem Ends.bind {x : Fallible σ ε α} {f : α → Fallible σ ε β} {good : β → σ → Prop} (mid : α → σ → Prop)
    (first : x.Ends mid bad s) (second : ∀ a t, mid a t → (f a).Ends good bad t) : (x >>= f).Ends good bad s :=
  ends_bind.mpr (first.mono second fun _ _ failed => failed)

/-- The rule of sequence for a first half whose run is known. -/
theorem Ends.bind_of_run {x : Fallible σ ε α} {f : α → Fallible σ ε β} {good : β → σ → Prop} {a : α} {t : σ}
    (run : x s = (.ok a, t)) (second : (f a).Ends good bad t) : (x >>= f).Ends good bad s := by
  unfold Ends
  rw [bind_run_ok f run]
  exact second

/-- The rule of recovery: the handler starts where the step may fail. -/
theorem Ends.tryCatch {x : Fallible σ ε α} {handle : ε → Fallible σ ε α} (mid : ε → σ → Prop) (first : x.Ends good mid s)
    (second : ∀ e t, mid e t → (handle e).Ends good bad t) : (MonadExcept.tryCatch x handle).Ends good bad s := by
  change match (MonadExcept.tryCatch x handle : Fallible σ ε α) s with
    | (.ok a, t) => good a t
    | (.error e, t) => bad e t
  have run : (MonadExcept.tryCatch x handle : Fallible σ ε α) s = match x s with
      | (.ok a, t) => (.ok a, t)
      | (.error e, t) => handle e t := rfl
  rw [run]
  rcases outcome : x s with ⟨e | a, t⟩
  · exact second e t (first.bad_of_run outcome)
  · exact first.good_of_run outcome

theorem ends_require {check : Prop} [Decidable check] {e : ε} {good : Unit → σ → Prop} (pass : check → good () s)
    (refused : ¬check → bad e s) : (require check e : Fallible σ ε Unit).Ends good bad s := by
  unfold require
  split
  · exact pass ‹_›
  · exact refused ‹_›

/-- A check, and what follows where it passes. -/
theorem Ends.require_bind {check : Prop} [Decidable check] {e : ε} {f : Unit → Fallible σ ε α}
    (refused : ¬check → bad e s) (next : check → (f ()).Ends good bad s) :
    ((require check e : Fallible σ ε Unit) >>= f).Ends good bad s := by
  by_cases pass : check
  · unfold BioAuth.require
    rw [if_pos pass]
    exact next pass
  · unfold BioAuth.require
    rw [if_neg pass]
    exact refused pass

/-- A value that may be missing, and what follows where it is there. -/
theorem Ends.liftM_bind {r : Except ε β} {f : β → Fallible σ ε α} (refused : ∀ e, r = .error e → bad e s)
    (next : ∀ b, r = .ok b → (f b).Ends good bad s) : ((liftM r : Fallible σ ε β) >>= f).Ends good bad s := by
  cases r with
  | error e => exact refused e rfl
  | ok b => exact next b rfl

end Ends

section Keeps

/-- The step leaves a view of the state as it was, whichever way it ends. -/
def Keeps (x : Fallible σ ε α) (view : σ → γ) : Prop := ∀ s, view (x s).2 = view s

variable {view : σ → γ}

theorem Keeps.of_run {x : Fallible σ ε α} {r : Except ε α} {s t : σ} (keeps : x.Keeps view)
    (run : x s = (r, t)) : view t = view s := by
  have same := keeps s
  rwa [run] at same

theorem Keeps.pure (a : α) : (Pure.pure a : Fallible σ ε α).Keeps view := fun _ => rfl

theorem Keeps.throw (e : ε) : (MonadExcept.throw e : Fallible σ ε α).Keeps view := fun _ => rfl

theorem Keeps.get : (MonadState.get : Fallible σ ε σ).Keeps view := fun _ => rfl

theorem Keeps.liftM (r : Except ε α) : (liftM r : Fallible σ ε α).Keeps view := fun _ => rfl

theorem Keeps.bind {x : Fallible σ ε α} {f : α → Fallible σ ε β} (first : x.Keeps view)
    (second : ∀ a, (f a).Keeps view) : (x >>= f).Keeps view := by
  intro s
  have before := first s
  rw [bind_run]
  rcases run : x s with ⟨_ | a, t⟩ <;> rw [run] at before
  · exact before
  · exact (second a t).trans before

theorem Keeps.require (check : Prop) [Decidable check] (e : ε) :
    (BioAuth.require check e : Fallible σ ε Unit).Keeps view := by
  unfold BioAuth.require
  split
  · exact Keeps.pure ()
  · exact Keeps.throw e

theorem Keeps.within (x : Fallible τ ε α) (t : τ) : (within x t : Fallible σ ε (α × τ)).Keeps view := by
  intro s
  unfold Fallible.within
  rcases x t with ⟨_ | _, _⟩ <;> rfl

/-- Whatever a step does otherwise, a view it keeps may be carried into both of its ends. -/
theorem Keeps.ends {x : Fallible σ ε α} (keeps : x.Keeps view) (s : σ) :
    x.Ends (fun a t => x s = (.ok a, t) ∧ view t = view s) (fun e t => x s = (.error e, t) ∧ view t = view s) s :=
  ends_iff.mpr ⟨fun _ _ run => ⟨run, keeps.of_run run⟩, fun _ _ run => ⟨run, keeps.of_run run⟩⟩

end Keeps

section Moves

/-- The step takes every state to one it is related to, whichever way it ends. -/
def Moves (x : Fallible σ ε α) (related : σ → σ → Prop) : Prop := ∀ s, related s (x s).2

variable {related : σ → σ → Prop}

theorem Moves.of_run {x : Fallible σ ε α} {r : Except ε α} {s t : σ} (moves : x.Moves related)
    (run : x s = (r, t)) : related s t := by
  have moved := moves s
  rwa [run] at moved

theorem Moves.modify {f : σ → σ} (moves : ∀ s, related s (f s)) : (modify f : Fallible σ ε PUnit).Moves related := moves

theorem Moves.ends {x : Fallible σ ε α} (moves : x.Moves related) (s : σ) :
    x.Ends (fun _ t => related s t) (fun _ t => related s t) s :=
  ends_iff.mpr ⟨fun _ _ run => moves.of_run run, fun _ _ run => moves.of_run run⟩

section Refl
variable [Std.Refl related]

theorem Moves.liftM (r : Except ε α) : (liftM r : Fallible σ ε α).Moves related := fun s => Std.Refl.refl s

theorem Moves.get : (MonadState.get : Fallible σ ε σ).Moves related := fun s => Std.Refl.refl s

theorem Moves.throw (e : ε) : (MonadExcept.throw e : Fallible σ ε α).Moves related := fun s => Std.Refl.refl s

end Refl

section Trans
variable [Trans related related related]

theorem Moves.bind {x : Fallible σ ε α} {f : α → Fallible σ ε β} (first : x.Moves related)
    (second : ∀ a, (f a).Moves related) : (x >>= f).Moves related := by
  intro s
  refine Ends.state (Ends.bind (fun _ t => related s t) (first.ends s) fun a t before => ?_)
  exact ((second a).ends t).mono (fun _ _ => Trans.trans before) fun _ _ => Trans.trans before

theorem Moves.tryCatch {x : Fallible σ ε α} {handle : ε → Fallible σ ε α} (first : x.Moves related)
    (second : ∀ e, (handle e).Moves related) : (MonadExcept.tryCatch x handle).Moves related := by
  intro s
  refine Ends.state (Ends.tryCatch (fun _ t => related s t) (first.ends s) fun e t before => ?_)
  exact ((second e).ends t).mono (fun _ _ => Trans.trans before) fun _ _ => Trans.trans before

end Trans

end Moves

end Fallible

end BioAuth
