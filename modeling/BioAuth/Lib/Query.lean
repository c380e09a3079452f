import BioAuth.Lib.Fallible
import Mathlib.Data.List.Induction
import Mathlib.Data.List.TakeWhile

namespace BioAuth

/-! A query: pairs of a name and a value, each behind the name and a sign, with separators between them. A reader folds over
the pairs, and what it makes of one depends on the name. -/

namespace Query
variable {σ ε : Type}

/-- How a pair is spelled. -/
def spell (pair : String × String) : List Char := pair.1.toList ++ '=' :: pair.2.toList

/-- What a piece says, as far as its first sign goes. -/
def cut (piece : List Char) : String × String :=
  (String.ofList (piece.takeWhile (· ≠ '=')), String.ofList ((piece.dropWhile (· ≠ '=')).drop 1))

/-- The pairs of a query. -/
def pairs (query : List Char) : List (String × String) := (query.splitOn '&').map cut

/-- One piece, which has to hold a sign. -/
def readField (malformed : ε) (readValue : σ → String → String → Except ε σ) (fields : σ) (piece : List Char) : Except ε σ :=
  match piece.dropWhile (· ≠ '=') with
  | [] => .error malformed
  | _ :: value => readValue fields (String.ofList (piece.takeWhile (· ≠ '='))) (String.ofList value)

section Read
variable {malformed : ε} {readValue : σ → String → String → Except ε σ}

theorem cut_spell {pair : String × String} (plain : '=' ∉ pair.1.toList) : cut (spell pair) = pair := by
  have whole : ∀ c ∈ pair.1.toList, decide (c ≠ '=') = true := fun c member =>
    decide_eq_true fun same => plain (same ▸ member)
  rw [cut, spell, List.takeWhile_append_of_pos whole, List.takeWhile_cons_of_neg (by decide), List.append_nil,
    List.dropWhile_append_of_pos whole, List.dropWhile_cons_of_neg (by decide), List.drop_one, List.tail_cons,
    String.ofList_toList, String.ofList_toList]

theorem readField_eq {fields : σ} {piece : List Char} :
    readField malformed readValue fields piece =
      if '=' ∈ piece then readValue fields (cut piece).1 (cut piece).2 else .error malformed := by
  unfold readField cut
  rcases back : piece.dropWhile (· ≠ '=') with _ | ⟨sign, value⟩
  · have none : '=' ∉ piece := fun member => by
      have all := List.dropWhile_eq_nil_iff.mp back '=' member
      exact absurd all (by decide)
    rw [if_neg none]
  · have member : '=' ∈ piece := by
      by_contra none
      have all : piece.dropWhile (· ≠ '=') = [] :=
        List.dropWhile_eq_nil_iff.mpr fun c inside => decide_eq_true fun same => none (same ▸ inside)
      rw [all] at back
      cases back
    rw [if_pos member]
    rfl

/-- A query is read by reading its pairs one after another. -/
theorem foldlM_readField {pieces : List (List Char)} {start last : σ} :
    pieces.foldlM (readField malformed readValue) start = .ok last ↔
      (∀ piece ∈ pieces, '=' ∈ piece) ∧
        (pieces.map cut).foldlM (fun fields pair => readValue fields pair.1 pair.2) start = .ok last := by
  induction pieces generalizing start with
  | nil => exact (and_iff_right fun _ member => nomatch member).symm
  | cons piece pieces ih =>
    rw [List.foldlM_cons, List.map_cons, List.foldlM_cons, List.forall_mem_cons, readField_eq]
    by_cases sign : '=' ∈ piece
    · rw [if_pos sign, and_iff_right sign]
      simp only [except_bind_eq_ok, ih]
      constructor
      · rintro ⟨next, read, signs, rest⟩
        exact ⟨signs, next, read, rest⟩
      · rintro ⟨signs, next, read, rest⟩
        exact ⟨next, read, signs, rest⟩
    · rw [if_neg sign]
      exact iff_of_false nofun fun both => sign both.1.1

/-- What is spelled without separators inside the parts is cut up again. -/
theorem pairs_spelled {entries : List (String × String)} (some : entries ≠ [])
    (plain : ∀ pair ∈ entries, '=' ∉ pair.1.toList ∧ '&' ∉ spell pair) :
    pairs (['&'].intercalate (entries.map spell)) = entries := by
  have apart : ∀ piece ∈ entries.map spell, '&' ∉ piece := by
    intro piece member
    obtain ⟨pair, inside, rfl⟩ := List.mem_map.mp member
    exact (plain pair inside).2
  rw [pairs, List.splitOn_intercalate '&' apart (by simpa using some), List.map_map]
  exact (List.map_congr_left fun pair member => cut_spell (plain pair member).1).trans (List.map_id' _)

end Read

/-! A part of what is read that pairs of one name write, and no others. -/

section Written
variable {readValue : σ → String → String → Except ε σ} {π : σ → Option String} {name : String}

/-- The part is what the last pair of the name said. -/
def Writes (readValue : σ → String → String → Except ε σ) (name : String) (π : σ → Option String) : Prop :=
  ∀ {fields next : σ} {key value : String}, readValue fields key value = .ok next →
    π next = if key = name then some value else π fields

variable {entries : List (String × String)} {start last : σ}

theorem Writes.kept (writes : Writes readValue name π) (absent : name ∉ entries.map Prod.fst)
    (read : entries.foldlM (fun fields pair => readValue fields pair.1 pair.2) start = .ok last) : π last = π start := by
  induction entries generalizing start with
  | nil =>
    cases read
    rfl
  | cons pair entries ih =>
    rw [List.map_cons, List.mem_cons, not_or] at absent
    rw [List.foldlM_cons] at read
    obtain ⟨next, first, rest⟩ := except_bind_eq_ok.mp read
    rw [ih absent.2 rest, writes first, if_neg fun same => absent.1 same.symm]

theorem Writes.origin (writes : Writes readValue name π) {value : String}
    (read : entries.foldlM (fun fields pair => readValue fields pair.1 pair.2) start = .ok last) (none : π start = none)
    (written : π last = some value) : (name, value) ∈ entries := by
  induction entries using List.reverseRecOn generalizing last with
  | nil =>
    cases read
    rw [none] at written
    cases written
  | append_singleton entries pair ih =>
    rw [List.foldlM_append] at read
    obtain ⟨before, front, final⟩ := except_bind_eq_ok.mp read
    rw [List.foldlM_cons] at final
    obtain ⟨next, step, done⟩ := except_bind_eq_ok.mp final
    cases done
    rw [writes step] at written
    split at written
    · rename_i same
      obtain ⟨key, text⟩ := pair
      obtain rfl := Option.some.inj written
      exact List.mem_append_right _ (List.mem_singleton.mpr (by rw [← same]))
    · exact List.mem_append_left _ (ih front written)

theorem Writes.found (writes : Writes readValue name π) {value : String} (apart : (entries.map Prod.fst).Nodup)
    (read : entries.foldlM (fun fields pair => readValue fields pair.1 pair.2) start = .ok last)
    (member : (name, value) ∈ entries) : π last = some value := by
  induction entries generalizing start with
  | nil => cases member
  | cons pair entries ih =>
    rw [List.map_cons, List.nodup_cons] at apart
    rw [List.foldlM_cons] at read
    obtain ⟨next, first, rest⟩ := except_bind_eq_ok.mp read
    rcases List.mem_cons.mp member with rfl | later
    · rw [writes.kept apart.1 rest, writes first]
      exact if_pos rfl
    · exact ih apart.2 rest later

end Written

end Query

end BioAuth
