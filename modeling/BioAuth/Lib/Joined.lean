import BioAuth.Lib.BigEndian

namespace BioAuth.Joined

section Separated
variable {α : Type} [DecidableEq α] {sep : α}

/-- Two texts in front of a separator are the same where each holds as many separators of its own. -/
theorem split_unique {a b x y : List α} (joined : a ++ sep :: x = b ++ sep :: y) (same : a.count sep = b.count sep) :
    a = b ∧ x = y := by
  rcases List.append_eq_append_iff.mp joined with ⟨rest, rfl, ends⟩ | ⟨rest, rfl, ends⟩
  all_goals
    cases rest with
    | nil =>
      rw [List.nil_append, List.cons.injEq] at ends
      exact ⟨by rw [List.append_nil], by simp [ends.2]⟩
    | cons first rest =>
      -- what one of the two has beyond the other starts with a separator
      rw [List.cons_append, List.cons.injEq] at ends
      rw [List.count_append, ← ends.1, List.count_cons_self] at same
      omega

/-- Texts joined by a separator are told apart as long as the separators among them are where they were. -/
theorem joined_injective {fields others : List (List α)} (joined : [sep].intercalate fields = [sep].intercalate others)
    (counts : fields.map (List.count sep) = others.map (List.count sep)) : fields = others := by
  induction fields generalizing others with
  | nil => cases others with
    | nil => rfl
    | cons other others => cases counts
  | cons field fields ih =>
    cases others with
    | nil => cases counts
    | cons other others =>
      rw [List.map_cons, List.map_cons, List.cons.injEq] at counts
      cases fields with
      | nil =>
        cases others with
        | nil =>
          rw [List.intercalate_singleton, List.intercalate_singleton] at joined
          rw [joined]
        | cons _ _ => cases counts.2
      | cons next fields =>
        cases others with
        | nil => cases counts.2
        | cons last others =>
          rw [List.intercalate_cons_cons, List.intercalate_cons_cons, List.append_assoc, List.append_assoc,
            List.singleton_append, List.singleton_append] at joined
          obtain ⟨rfl, rest⟩ := split_unique joined counts.1
          rw [ih rest counts.2]

end Separated

section Prefixed
variable {width : Nat}

/-- A field behind its length. -/
def prefixed (width : Nat) (field : Bytes) : Bytes := BigEndian.encode width field.length ++ field

/-- A field behind its length is told apart from whatever follows it. -/
theorem prefixed_unique {a b x y : Bytes} (fitsA : a.length < 256 ^ width) (fitsB : b.length < 256 ^ width)
    (joined : prefixed width a ++ x = prefixed width b ++ y) : a = b ∧ x = y := by
  unfold prefixed at joined
  rw [List.append_assoc, List.append_assoc] at joined
  obtain ⟨lengths, rest⟩ := List.append_inj joined (by rw [BigEndian.encode_length, BigEndian.encode_length])
  exact List.append_inj rest (BigEndian.encode_injective fitsA fitsB lengths)

/-- As many fields behind their lengths are told apart from one another. -/
theorem prefixed_injective {fields others : List (Bytes)} (fits : ∀ field ∈ fields, field.length < 256 ^ width)
    (fitting : ∀ other ∈ others, other.length < 256 ^ width) (same : fields.length = others.length)
    (joined : fields.flatMap (prefixed width) = others.flatMap (prefixed width)) : fields = others := by
  induction fields generalizing others with
  | nil => exact (List.length_eq_zero_iff.mp same.symm).symm
  | cons field fields ih =>
    cases others with
    | nil => cases same
    | cons other others =>
      rw [List.forall_mem_cons] at fits fitting
      rw [List.flatMap_cons, List.flatMap_cons] at joined
      obtain ⟨rfl, rest⟩ := prefixed_unique fits.1 fitting.1 joined
      rw [ih fits.2 fitting.2 (Nat.succ.inj same) rest]

end Prefixed

end BioAuth.Joined
