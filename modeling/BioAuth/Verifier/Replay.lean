import BioAuth.Lib.Recent

namespace BioAuth.Verifier
open BioAuth

/-- Number of consumed request ids kept. -/
def defaultCapacity : Nat := 1024

/-- The request ids consumed last, oldest first, and the set of them. -/
structure ReplayGuard where
  capacity : Nat
  seen : Finset String
  order : List String

namespace ReplayGuard

def withCapacity (capacity : Nat) : ReplayGuard := ⟨max capacity 1, ∅, []⟩

/-- Records a request id, and says whether it was not consumed already. -/
def consume (guard : ReplayGuard) (requestId : String) : Bool × ReplayGuard :=
  if requestId ∈ guard.seen then (false, guard)
  else
    let seen := insert requestId guard.seen
    let order := guard.order ++ [requestId]
    if guard.capacity < order.length then
      match order with
      | evicted :: rest => (true, { guard with seen := seen.erase evicted, order := rest })
      | [] => (true, { guard with seen, order })
    else
      (true, { guard with seen, order })

/-- The guard holds the last of the ids consumed so far, as many as it has room for. -/
structure Follows (guard : ReplayGuard) (history : List String) : Prop where
  room : 0 < guard.capacity
  order : guard.order = history.rtake guard.capacity
  seen : guard.seen = guard.order.toFinset
  spaced : Spaced guard.capacity history

theorem withCapacity_follows (capacity : Nat) : (withCapacity capacity).Follows [] where
  room := Nat.lt_of_lt_of_le Nat.one_pos (Nat.le_max_right capacity 1)
  order := (List.rtake_nil _).symm
  seen := rfl
  spaced := .nil

variable {guard : ReplayGuard} {history : List String}

theorem Follows.mem_seen (follows : guard.Follows history) {requestId : String} :
    requestId ∈ guard.seen ↔ requestId ∈ history.rtake guard.capacity := by
  rw [follows.seen, List.mem_toFinset, follows.order]

theorem Follows.order_nodup (follows : guard.Follows history) : guard.order.Nodup := by
  rw [follows.order]
  refine follows.spaced.nodup.sublist ?_
  rw [List.rtake, List.rtake]
  exact List.drop_sublist_drop_left _ (by omega)

theorem Follows.order_le (follows : guard.Follows history) : guard.order.length ≤ guard.capacity := by
  rw [follows.order, List.rtake, List.length_drop]
  omega

/-- An id is refused exactly when it is among the last consumed, and nothing changes then. -/
theorem Follows.refused (follows : guard.Follows history) {requestId : String}
    (recent : requestId ∈ history.rtake guard.capacity) : guard.consume requestId = (false, guard) :=
  if_pos (follows.mem_seen.mpr recent)

theorem Follows.consumed (follows : guard.Follows history) {requestId : String}
    (fresh : requestId ∉ history.rtake guard.capacity) :
    (guard.consume requestId).1 = true ∧ (guard.consume requestId).2.capacity = guard.capacity ∧
      (guard.consume requestId).2.Follows (history ++ [requestId]) := by
  have unseen : requestId ∉ guard.seen := fun seen => fresh (follows.mem_seen.mp seen)
  have unlisted : requestId ∉ guard.order := by rwa [follows.order]
  have next := rtake_concat history requestId guard.capacity
  have distinct : (guard.order ++ [requestId]).Nodup :=
    List.nodup_append.mpr ⟨follows.order_nodup, List.nodup_singleton _, fun other member _ last same =>
      unlisted (by rwa [← List.mem_singleton.mp last, ← same])⟩
  rw [← follows.order] at next
  unfold consume
  rw [if_neg unseen]
  dsimp only
  have all : insert requestId guard.seen = (guard.order ++ [requestId]).toFinset := by
    rw [follows.seen]
    ext other
    simp
  rcases listed : guard.order ++ [requestId] with _ | ⟨evicted, rest⟩
  · exact absurd listed (List.concat_ne_nil _ _)
  rw [listed] at next all distinct
  by_cases full : guard.capacity < (evicted :: rest).length
  · rw [if_pos full] at next ⊢
    refine ⟨rfl, rfl, follows.room, next.symm, ?_, follows.spaced.concat fresh⟩
    rw [List.nodup_cons] at distinct
    rw [all, List.toFinset_cons]
    exact Finset.erase_insert fun member => distinct.1 (List.mem_toFinset.mp member)
  · rw [if_neg full] at next ⊢
    exact ⟨rfl, rfl, follows.room, next.symm, all, follows.spaced.concat fresh⟩

end ReplayGuard

end BioAuth.Verifier
