import Mathlib.Data.Finset.Card
import Mathlib.Data.List.DropRight
import Mathlib.Data.List.Induction
import Mathlib.Data.List.Nodup

namespace BioAuth

/-- What is no longer than the window is within it when it comes last. -/
theorem sublist_rtake {α : Type} {n : Nat} (front : List α) {back : List α} (short : back.length ≤ n) :
    back.Sublist ((front ++ back).rtake n) := by
  rw [List.rtake, List.length_append, List.drop_append_of_le_length (by omega)]
  exact List.sublist_append_right _ _

theorem rtake_length {α : Type} (history : List α) (n : Nat) : (history.rtake n).length = min n history.length := by
  rw [List.rtake, List.length_drop]
  omega

/-- A full window drops its first item for the new one. -/
theorem rtake_concat {α : Type} (history : List α) (item : α) (n : Nat) :
    (history ++ [item]).rtake n =
      if n < (history.rtake n ++ [item]).length then (history.rtake n ++ [item]).tail else history.rtake n ++ [item] := by
  have length := rtake_length history n
  rw [List.length_append, List.length_singleton, length]
  by_cases full : n ≤ history.length
  · have window : history.rtake n ++ [item] = (history ++ [item]).drop (history.length - n) := by
      rw [List.rtake, List.drop_append_of_le_length (Nat.sub_le _ _)]
    have next : (history ++ [item]).length - n = history.length - n + 1 := by
      rw [List.length_append, List.length_singleton]
      omega
    rw [if_pos (by omega), window, List.tail_drop, List.rtake, next]
  · have whole : history.rtake n = history := by rw [List.rtake, Nat.sub_eq_zero_of_le (by omega), List.drop_zero]
    have same : (history ++ [item]).rtake n = history ++ [item] := by
      rw [List.rtake, List.length_append, List.length_singleton, Nat.sub_eq_zero_of_le (by omega), List.drop_zero]
    rw [if_neg (by omega), whole, same]

/-- No item of a history is among the `n` before it. -/
inductive Spaced {α : Type} (n : Nat) : List α → Prop
  | nil : Spaced n []
  | concat {history : List α} {item : α} : Spaced n history → item ∉ history.rtake n → Spaced n (history ++ [item])

namespace Spaced
variable {α : Type} {n : Nat} {history : List α}

theorem of_concat {item : α} (spaced : Spaced n (history ++ [item])) : Spaced n history ∧ item ∉ history.rtake n := by
  generalize whole : history ++ [item] = longer at spaced
  cases spaced with
  | nil => exact absurd whole (List.concat_ne_nil _ _)
  | concat spaced fresh =>
    obtain ⟨rfl, same⟩ := List.append_inj' whole rfl
    cases same
    exact ⟨spaced, fresh⟩

theorem of_append {later : List α} (spaced : Spaced n (history ++ later)) : Spaced n history := by
  induction later using List.reverseRecOn with
  | nil => rwa [List.append_nil] at spaced
  | append_singleton later item ih =>
    rw [← List.append_assoc] at spaced
    exact ih spaced.of_concat.1

/-- An item and the `n` before it are all different. -/
theorem nodup (spaced : Spaced n history) : (history.rtake (n + 1)).Nodup := by
  induction spaced with
  | nil => rw [List.rtake_nil]; exact List.nodup_nil
  | @concat history item _ fresh ih =>
    rw [List.rtake_concat_succ]
    have fewer : (history.rtake n).Sublist (history.rtake (n + 1)) := by
      rw [List.rtake, List.rtake]
      exact List.drop_sublist_drop_left _ (by omega)
    refine List.nodup_append.mpr ⟨ih.sublist fewer, List.nodup_singleton _, ?_⟩
    intro other recent _ last same
    rw [List.mem_singleton.mp last] at same
    exact fresh (same ▸ recent)

/-- Between two occurrences of an item there are `n` other items. -/
theorem between [DecidableEq α] {earlier middle : List α} {item : α}
    (spaced : Spaced n (earlier ++ item :: middle ++ [item])) : n ≤ (middle.toFinset.erase item).card := by
  obtain ⟨before, fresh⟩ := spaced.of_concat
  have long : n ≤ middle.length := by
    by_contra short
    have within : (item :: middle).length ≤ n := by
      rw [List.length_cons]
      omega
    exact fresh ((sublist_rtake earlier within).subset List.mem_cons_self)
  have distinct : (item :: middle.take n).Nodup := by
    have first : Spaced n (earlier ++ item :: middle.take n) := by
      have whole : Spaced n ((earlier ++ item :: middle.take n) ++ middle.drop n) := by
        rwa [List.append_assoc, List.cons_append, List.take_append_drop]
      exact whole.of_append
    have within : (item :: middle.take n).length ≤ n + 1 := by
      rw [List.length_cons, List.length_take]
      omega
    exact first.nodup.sublist (sublist_rtake earlier within)
  rw [List.nodup_cons] at distinct
  calc n = (middle.take n).length := by rw [List.length_take]; omega
    _ = (middle.take n).toFinset.card := (List.toFinset_card_of_nodup distinct.2).symm
    _ ≤ (middle.toFinset.erase item).card := by
        refine Finset.card_le_card fun other member => ?_
        rw [List.mem_toFinset] at member
        refine Finset.mem_erase.mpr ⟨fun same => distinct.1 (same ▸ member), ?_⟩
        exact List.mem_toFinset.mpr (List.mem_of_mem_take member)

end Spaced

end BioAuth
