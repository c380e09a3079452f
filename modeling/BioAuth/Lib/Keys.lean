import Mathlib.Data.List.Nodup

namespace BioAuth

variable {α κ : Type} [DecidableEq κ] (key : α → κ)

/-- The first item of each key that has not been seen. -/
def unseen : List κ → List α → List α
  | _, [] => []
  | seen, item :: items => if key item ∈ seen then unseen seen items else item :: unseen (key item :: seen) items

variable {key}

/-- The item of a key, where each key is held once. -/
theorem find_key_eq_some {items : List α} (distinct : (items.map key).Nodup) {wanted : κ} {item : α} :
    items.find? (fun item => key item = wanted) = some item ↔ item ∈ items ∧ key item = wanted := by
  constructor
  · intro found
    exact ⟨List.mem_of_find?_eq_some found, by simpa using List.find?_some found⟩
  · intro ⟨member, named⟩
    rcases found : items.find? (fun item => key item = wanted) with _ | other
    · exact absurd named (by simpa using List.find?_eq_none.mp found item member)
    · have named' : key other = wanted := by simpa using List.find?_some found
      rw [List.inj_on_of_nodup_map distinct (List.mem_of_find?_eq_some found) member (named'.trans named.symm)]

theorem map_replace_eq_self {items : List α} {wanted : κ} (apart : ∀ item ∈ items, key item ≠ wanted) (new : α) :
    items.map (fun item => if key item = wanted then new else item) = items := by
  induction items with
  | nil => rfl
  | cons item items ih =>
    rw [List.forall_mem_cons] at apart
    rw [List.map_cons, if_neg apart.1, ih apart.2]

/-- To put something in the place of a key is to replace what is held under that key. -/
theorem set_findIdx_key {items : List α} (distinct : (items.map key).Nodup) (wanted : κ) (new : α) :
    items.set (items.findIdx fun item => key item = wanted) new =
      items.map fun item => if key item = wanted then new else item := by
  induction items with
  | nil => rfl
  | cons item items ih =>
    rw [List.map_cons, List.nodup_cons] at distinct
    rw [List.findIdx_cons, List.map_cons]
    by_cases named : key item = wanted
    · have apart : ∀ other ∈ items, key other ≠ wanted := by
        intro other member same
        exact distinct.1 (List.mem_map.mpr ⟨other, member, same.trans named.symm⟩)
      rw [map_replace_eq_self apart]
      simp [named]
    · simp [named, ih distinct.2]

/-- A replacement under the same key changes no key. -/
theorem map_key_replace {items : List α} {wanted : κ} {new : α} (named : key new = wanted) :
    (items.map fun item => if key item = wanted then new else item).map key = items.map key := by
  rw [List.map_map]
  refine List.map_congr_left fun item _ => ?_
  simp only [Function.comp_apply]
  split
  · rename_i same
    rw [named, same]
  · rfl

theorem unseen_sublist (seen : List κ) (items : List α) : (unseen key seen items).Sublist items := by
  induction items generalizing seen with
  | nil => exact .slnil
  | cons item items ih =>
    unfold unseen
    split
    · exact (ih seen).cons item
    · exact (ih _).cons_cons item

/-- Whatever is new is left as it is. -/
theorem unseen_of_nodup {seen : List κ} {items : List α} (distinct : (items.map key).Nodup)
    (apart : ∀ item ∈ items, key item ∉ seen) : unseen key seen items = items := by
  induction items generalizing seen with
  | nil => rfl
  | cons item items ih =>
    rw [List.map_cons, List.nodup_cons] at distinct
    rw [List.forall_mem_cons] at apart
    rw [unseen, if_neg apart.1, ih distinct.2 fun other member known => ?_]
    rcases List.mem_cons.mp known with same | earlier
    · exact distinct.1 (List.mem_map.mpr ⟨other, member, same⟩)
    · exact apart.2 other member earlier

/-- Nothing is left when every key has been seen. -/
theorem unseen_of_seen {seen : List κ} {items : List α} (known : ∀ item ∈ items, key item ∈ seen) :
    unseen key seen items = [] := by
  induction items with
  | nil => rfl
  | cons item items ih =>
    rw [List.forall_mem_cons] at known
    rw [unseen, if_pos known.1, ih known.2]

end BioAuth
