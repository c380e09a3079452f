import BioAuth.Lib.BigEndian
import BioAuth.Lib.Fallible

namespace BioAuth

/-- A reader of octets: it takes what it reads off the front of what is left. -/
abbrev Parse (ε α : Type) := Fallible Bytes ε α

namespace Parse
variable {ε ε' α β : Type}

/-- The next `n` octets, or `short` when fewer are left. -/
def take (short : ε) (n : Nat) : Parse ε Bytes := fun s =>
  if n ≤ s.length then (.ok (s.take n), s.drop n) else (.error short, s)

/-- The reader accepts exactly one spelling of each value it admits, whatever follows. -/
def Spells (p : Parse ε α) (admits : α → Prop) (spell : α → Bytes) : Prop :=
  ∀ s a t, p s = (.ok a, t) ↔ admits a ∧ s = spell a ++ t

theorem Spells.complete {p : Parse ε α} {admits : α → Prop} {spell : α → Bytes}
    (spells : Spells p admits spell) {a : α} (admitted : admits a) (t : Bytes) :
    p (spell a ++ t) = (.ok a, t) :=
  (spells _ _ _).mpr ⟨admitted, rfl⟩

theorem take_eq_ok {short : ε} {n : Nat} {s a t : Bytes} :
    take short n s = (.ok a, t) ↔ a.length = n ∧ s = a ++ t := by
  unfold take
  split
  · rename_i enough
    simp only [Prod.mk.injEq, Except.ok.injEq]
    constructor
    · rintro ⟨rfl, rfl⟩
      exact ⟨List.length_take_of_le enough, (List.take_append_drop n s).symm⟩
    · rintro ⟨rfl, rfl⟩
      exact ⟨List.take_left, List.drop_left⟩
  · rename_i short
    simp only [Prod.mk.injEq, reduceCtorEq, false_and, false_iff, not_and]
    rintro rfl rfl
    exact short (by simp)

/-- Reading a value and going on reads its spelling off the front. -/
theorem Spells.bind_eq_ok {p : Parse ε α} {admits : α → Prop} {spell : α → Bytes}
    (spells : Spells p admits spell) {f : α → Parse ε β} {b : β} {s u : Bytes} :
    (p >>= f) s = (.ok b, u) ↔ ∃ a t, (admits a ∧ s = spell a ++ t) ∧ f a t = (.ok b, u) := by
  simp only [Fallible.bind_eq_ok, spells _ _ _]

theorem Spells.mapError {p : Parse ε α} {admits : α → Prop} {spell : α → Bytes}
    (spells : Spells p admits spell) (rename : ε → ε') :
    Spells (Fallible.mapError rename p : Parse ε' α) admits spell :=
  fun _ _ _ => Fallible.mapError_eq_ok.trans (spells _ _ _)

/-- Two values with one spelling, one of them admitted, are the same value. -/
theorem Spells.injective {p : Parse ε α} {admits : α → Prop} {spell : α → Bytes}
    (spells : Spells p admits spell) {a b : α} {t u : Bytes} (left : admits a) (right : admits b)
    (same : spell a ++ t = spell b ++ u) : a = b ∧ t = u := by
  have first := spells.complete left t
  rw [same, spells.complete right u] at first
  simpa only [Prod.mk.injEq, Except.ok.injEq, eq_comm] using first

/-- The reader takes a spelling shorter than `limit` off the front and yields the value, whatever follows. -/
def Reads (limit : Nat) (p : Parse ε α) (spelling : Bytes) (a : α) : Prop :=
  spelling.length < limit → ∀ rest, p (spelling ++ rest) = (.ok a, rest)

section Reads
variable {limit : Nat}

theorem Spells.reads {p : Parse ε α} {admits : α → Prop} {spell : α → Bytes} (spells : Spells p admits spell)
    {a : α} (admitted : (spell a).length < limit → admits a) : Reads limit p (spell a) a :=
  fun short => spells.complete (admitted short)

theorem Reads.pure (a : α) : Reads limit (Pure.pure a : Parse ε α) [] a := fun _ _ => rfl

theorem Reads.bind {p : Parse ε α} {f : α → Parse ε β} {front back : Bytes} {a : α} {b : β}
    (first : Reads limit p front a) (next : Reads limit (f a) back b) : Reads limit (p >>= f) (front ++ back) b := by
  intro short rest
  rw [List.length_append] at short
  rw [List.append_assoc, Fallible.bind_run_ok _ (first (by omega) _)]
  exact next (by omega) rest

/-- What one reader takes off one spelling is one value. -/
theorem Reads.injective {p : Parse ε α} {spelling : Bytes} {a b : α} (first : Reads limit p spelling a)
    (second : Reads limit p spelling b) (short : spelling.length < limit) : a = b := by
  have same := (first short []).symm.trans (second short [])
  simpa only [Prod.mk.injEq, Except.ok.injEq, and_true] using same

theorem Reads.trailing {p : Parse ε α} {spelling : Bytes} {a : α} (reads : Reads limit p (spelling ++ []) a) :
    Reads limit p spelling a := by
  rwa [List.append_nil] at reads

/-- A check that passes reads nothing. -/
theorem Reads.lift {r : Except ε α} {f : α → Parse ε β} {spelling : Bytes} {a : α} {b : β} (ok : r = .ok a)
    (next : Reads limit (f a) spelling b) : Reads limit ((liftM r : Parse ε α) >>= f) spelling b := by
  intro short rest
  rw [ok, Fallible.bind_run_ok _ (Fallible.liftM_run _ _)]
  exact next short rest

theorem Reads.require {holds : Prop} [Decidable holds] {e : ε} {f : Unit → Parse ε β} {spelling : Bytes} {b : β}
    (pass : holds) (next : Reads limit (f ()) spelling b) :
    Reads limit ((BioAuth.require holds e : Parse ε Unit) >>= f) spelling b := by
  intro short rest
  rw [BioAuth.require, if_pos pass, Fallible.bind_run_ok _ (Fallible.pure_run _ _)]
  exact next short rest

theorem Reads.times {p : Parse ε α} {spell : α → Bytes} (values : List α)
    (each : ∀ a ∈ values, Reads limit p (spell a) a) :
    Reads limit (Fallible.times p values.length) (values.flatMap spell) values := by
  induction values with
  | nil => exact Reads.pure []
  | cons a rest ih =>
    have later := ih fun b member => each b (List.mem_cons_of_mem _ member)
    have all : Reads limit (Fallible.times p (rest.length + 1)) (spell a ++ (rest.flatMap spell ++ [])) (a :: rest) :=
      (each a List.mem_cons_self).bind (later.bind (Reads.pure _))
    rwa [List.append_nil] at all

end Reads

end Parse

end BioAuth
