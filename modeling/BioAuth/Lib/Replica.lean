import Mathlib.Tactic.Basic

namespace BioAuth

/-- A value that two sides keep a copy of, and which edit of it this is. -/
structure Copy (α : Type) where
  revision : Int
  value : α
  deriving DecidableEq

namespace Copy
variable {α : Type}

/-- The copy that stands of two: the later edit, the second side's where neither is later, and the first side's where
there was none. -/
def winner (first second : Copy α) : Copy α :=
  if first.revision = 0 ∧ second.revision = 0 then first
  else if second.revision < first.revision then first
  else second

variable {first second : Copy α}

theorem winner_of_unedited (unedited : first.revision = 0 ∧ second.revision = 0) : winner first second = first := by
  rw [winner, if_pos unedited]

theorem winner_of_lt (later : second.revision < first.revision) : winner first second = first := by
  unfold winner
  by_cases unedited : first.revision = 0 ∧ second.revision = 0
  · rw [if_pos unedited]
  · rw [if_neg unedited, if_pos later]

theorem winner_of_ge (edited : ¬(first.revision = 0 ∧ second.revision = 0))
    (later : ¬second.revision < first.revision) : winner first second = second := by
  rw [winner, if_neg edited, if_neg later]

theorem winner_self (copy : Copy α) : winner copy copy = copy := by
  unfold winner
  rw [if_neg (Int.lt_irrefl _), ite_self]

theorem winner_cases (first second : Copy α) : winner first second = first ∨ winner first second = second := by
  unfold winner
  split
  · exact Or.inl rfl
  · split
    · exact Or.inl rfl
    · exact Or.inr rfl

/-- The copy that stands goes on standing on the side that has it. -/
theorem winner_absorbs (first second : Copy α) : winner first (winner first second) = winner first second := by
  rcases winner_cases first second with mine | theirs
  · rw [mine, winner_self]
  · rw [theirs, theirs]

/-- What an attempt to settle may leave: the second side takes the copy that stands, or does not; the first side takes it
only after that. -/
structure Settles (first second first' second' : Copy α) : Prop where
  other : second' = second ∨ second' = winner first second
  mine : first' = first ∨ first' = winner first second ∧ second' = winner first second

variable {first' second' : Copy α}

/-- No attempt changes which copy stands. -/
theorem Settles.winner_eq (settles : Settles first second first' second') :
    winner first' second' = winner first second := by
  rcases settles.mine with mine | ⟨mine, other⟩
  · rcases settles.other with other | other
    · rw [mine, other]
    · rw [mine, other, winner_absorbs]
  · rw [mine, other, winner_self]

/-- One side has the edit, and the other has it too or an older one. -/
def Stands (edit mine other : Copy α) : Prop := mine = edit ∧ (other = edit ∨ other.revision < edit.revision)

variable {edit : Copy α}

theorem Stands.winner_eq (stands : Stands edit first second) : winner first second = edit := by
  obtain ⟨rfl, rfl | older⟩ := stands
  · exact winner_self _
  · exact winner_of_lt older

theorem Stands.winner_eq_second (stands : Stands edit second first) : winner first second = edit := by
  obtain ⟨rfl, rfl | older⟩ := stands
  · exact winner_self _
  · exact winner_of_ge (by omega) (by omega)

/-- No attempt to settle undoes the latest edit of the first side. -/
theorem Stands.settles (stands : Stands edit first second) (settles : Settles first second first' second') :
    Stands edit first' second' := by
  have won := stands.winner_eq
  obtain ⟨same, older⟩ := stands
  have mine : first' = edit := by
    rcases settles.mine with kept | ⟨taken, _⟩
    · exact kept.trans same
    · exact taken.trans won
  refine ⟨mine, ?_⟩
  rcases settles.other with kept | taken
  · rwa [kept]
  · exact Or.inl (taken.trans won)

/-- Nor that of the second side. -/
theorem Stands.settles_second (stands : Stands edit second first) (settles : Settles first second first' second') :
    Stands edit second' first' := by
  have won := stands.winner_eq_second
  obtain ⟨same, older⟩ := stands
  have mine : second' = edit := by
    rcases settles.other with kept | taken
    · exact kept.trans same
    · exact taken.trans won
  refine ⟨mine, ?_⟩
  rcases settles.mine with kept | ⟨taken, _⟩
  · rwa [kept]
  · exact Or.inl (taken.trans won)

end Copy

end BioAuth
