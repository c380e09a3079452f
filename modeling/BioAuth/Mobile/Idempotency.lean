import BioAuth.Lib.Table
import BioAuth.Mobile.Messages

namespace BioAuth

namespace Table
variable {κ α : Type}

/-- The same keys in the same order, with other values. -/
def mapValues (f : α → α) (table : Table κ α) : Table κ α where
  entries := table.entries.map fun entry => (entry.1, f entry.2)
  distinct := by
    rw [List.map_map]
    exact table.distinct

theorem mem_mapValues {f : α → α} {table : Table κ α} {key : κ} {value : α} :
    (key, value) ∈ (table.mapValues f).entries ↔ ∃ before, (key, before) ∈ table.entries ∧ f before = value := by
  simp only [mapValues, List.mem_map, Prod.mk.injEq, Prod.exists]
  constructor
  · rintro ⟨_, before, member, rfl, same⟩
    exact ⟨before, member, same⟩
  · rintro ⟨before, member, same⟩
    exact ⟨key, before, member, rfl, same⟩

variable [DecidableEq κ]

/-- A new entry comes last, and an old one keeps its place. -/
def assign (key : κ) (value : α) (table : Table κ α) : Table κ α :=
  if absent : key ∈ table.entries.map Prod.fst then
    ⟨table.entries.map fun entry => (entry.1, if entry.1 = key then value else entry.2), by
      rw [List.map_map]
      exact table.distinct⟩
  else
    ⟨table.entries ++ [(key, value)], by
      rw [List.map_append]
      exact table.distinct.append (List.nodup_singleton key) (List.disjoint_singleton.mpr absent)⟩

theorem assign_new {key : κ} {table : Table κ α} (new : table.get? key = none) (value : α) :
    (table.assign key value).entries = table.entries ++ [(key, value)] := by
  have absent : key ∉ table.entries.map Prod.fst := by
    intro member
    obtain ⟨entry, here, same⟩ := List.mem_map.mp member
    exact get?_eq_none.mp new entry here same
  rw [assign, dif_neg absent]

theorem remove_length_lt {table : Table κ α} {entry : κ × α} (member : entry ∈ table.entries) :
    (table.remove entry.1).entries.length < table.entries.length := by
  refine List.length_filter_lt_length_iff_exists.mpr ⟨entry, member, ?_⟩
  simp only [ne_eq, not_true_eq_false, decide_false, Bool.false_eq_true, not_false_eq_true]

end Table

namespace Mobile
open BioAuth

/-- `_sameBytes`. -/
def sameBytes (left right : Bytes) : Bool :=
  left.length = right.length && (List.range left.length).all fun index => left[index]? = right[index]?

theorem sameBytes_iff {left right : Bytes} : sameBytes left right = true ↔ left = right := by
  simp only [sameBytes, Bool.and_eq_true, decide_eq_true_eq, List.all_eq_true, List.mem_range]
  constructor
  · intro ⟨length, each⟩
    refine List.ext_getElem? fun index => ?_
    by_cases within : index < left.length
    · exact each index within
    · rw [List.getElem?_eq_none (by omega), List.getElem?_eq_none (by omega)]
  · intro same
    subst same
    exact ⟨rfl, fun _ _ => rfl⟩

/-- How an application operation ended. -/
structure ApplicationOutcome where
  kind : ApplicationFrameKind
  payload : Bytes
  cacheable : Bool

namespace ApplicationIdempotency

/-- `_Entry`. Its outcome is that of the action that one of the calls, by its number, has begun. -/
structure Entry where
  operation : String
  payloadDigest : Bytes
  outcome : Nat
  completed : Bool

abbrev Key := String × String

abbrev Entries := Table Key Entry

/-- `_makeRoom`: completed entries go, the oldest first. -/
def makeRoom (capacity : Nat) (entries : Entries) : Option Entries :=
  if capacity ≤ entries.entries.length then
    match _found : entries.entries.find? fun entry => entry.2.completed with
    | none => none
    | some completed => makeRoom capacity (entries.remove completed.1)
  else some entries
termination_by entries.entries.length
decreasing_by exact Table.remove_length_lt (List.mem_of_find?_eq_some ‹_›)

/-- What a call that begins nothing throws. -/
inductive Rejection
  | formatException (message : String)
  | stateError (message : String)

/-- What a call finds when its payload has been digested. -/
inductive Admission
  | rejected (error : Rejection)
  | joins (outcome : Nat)
  | runs (entries : Entries)

def admission (capacity : Nat) (entries : Entries) (key : Key) (operation : String) (digest : Bytes) : Admission :=
  match entries.get? key with
  | some existing =>
    if existing.operation ≠ operation ∨ sameBytes existing.payloadDigest digest = false then
      .rejected (.formatException "requestId reutilizado com outro pedido")
    else .joins existing.outcome
  | none =>
    match makeRoom capacity entries with
    | none => .rejected (.stateError "too many application operations in flight")
    | some entries => .runs entries

/-- What the call that began an action makes of its end. -/
def conclude {ε : Type} (entries : Entries) (key : Key) (own : Nat) : Except ε ApplicationOutcome → Entries
  | .ok outcome =>
    let marked := entries.mapValues fun entry => if entry.outcome = own then { entry with completed := true } else entry
    if outcome.cacheable then marked else marked.remove key
  | .error _ => if (entries.get? key).map Entry.outcome = some own then entries.remove key else entries

/-- Making room leaves fewer entries than there may be, and each that is in flight. -/
theorem makeRoom_eq_some {capacity : Nat} {entries left : Entries} (run : makeRoom capacity entries = some left) :
    left.entries.length < capacity ∧ left.entries.Sublist entries.entries ∧
      ∀ entry ∈ entries.entries, entry.2.completed = false → entry ∈ left.entries := by
  induction entries using makeRoom.induct capacity with
  | case1 entries full none =>
    rw [makeRoom, if_pos full] at run
    split at run
    · cases run
    · rename_i completed found
      rw [none] at found
      cases found
  | case2 entries full completed found ih =>
    rw [makeRoom, if_pos full] at run
    split at run
    · cases run
    · rename_i other same
      cases found.symm.trans same
      obtain ⟨short, sublist, kept⟩ := ih run
      refine ⟨short, sublist.trans List.filter_sublist, fun entry member inFlight => ?_⟩
      refine kept entry (Table.mem_remove.mpr ⟨member, fun same => ?_⟩) inFlight
      have here := List.mem_of_find?_eq_some found
      have marked := List.find?_some found
      have one : entry = completed := List.inj_on_of_nodup_map entries.distinct member here same
      rw [one] at inFlight
      rw [inFlight] at marked
      cases marked
  | case3 entries room =>
    rw [makeRoom, if_neg room] at run
    cases run
    exact ⟨by omega, List.Sublist.refl _, fun entry member _ => member⟩

theorem admission_eq_joins {capacity outcome : Nat} {entries : Entries} {key : Key} {operation : String} {digest : Bytes} :
    admission capacity entries key operation digest = .joins outcome ↔ ∃ existing, entries.get? key = some existing ∧
      existing.operation = operation ∧ existing.payloadDigest = digest ∧ existing.outcome = outcome := by
  unfold admission
  rcases entries.get? key with _ | existing
  · dsimp only
    refine iff_of_false ?_ nofun
    split
    · nofun
    · nofun
  · dsimp only
    by_cases differs : existing.operation ≠ operation ∨ sameBytes existing.payloadDigest digest = false
    · rw [if_pos differs]
      refine iff_of_false nofun fun ⟨other, found, named, digested, _⟩ => ?_
      cases found
      rw [named, digested, sameBytes_iff.mpr rfl] at differs
      exact differs.elim (fun not => not rfl) nofun
    · rw [if_neg differs]
      obtain ⟨named, digested⟩ := not_or.mp differs
      have same := sameBytes_iff.mp (Bool.eq_true_of_not_eq_false digested)
      constructor
      · intro joined
        exact ⟨existing, rfl, not_not.mp named, same, Admission.joins.inj joined⟩
      · intro ⟨other, found, _, _, joined⟩
        cases found
        rw [joined]

theorem admission_eq_runs {capacity : Nat} {entries left : Entries} {key : Key} {operation : String} {digest : Bytes} :
    admission capacity entries key operation digest = .runs left ↔
      entries.get? key = none ∧ makeRoom capacity entries = some left := by
  unfold admission
  rcases entries.get? key with _ | existing
  · dsimp only
    rcases makeRoom capacity entries with _ | room
    · exact iff_of_false nofun nofun
    · dsimp only
      rw [Admission.runs.injEq, Option.some.injEq, eq_self_iff_true, true_and]
  · dsimp only
    refine iff_of_false ?_ nofun
    split
    · nofun
    · nofun

/-- The entry of the call that ended is completed or gone, and the others are as they were. -/
theorem mem_conclude {ε : Type} {entries : Entries} {key name : Key} {own : Nat} {mine entry : Entry}
    (here : (key, mine) ∈ entries.entries) (owns : mine.outcome = own)
    (only : ∀ name entry, (name, entry) ∈ entries.entries → entry.outcome = own → name = key)
    {result : Except ε ApplicationOutcome} (member : (name, entry) ∈ (conclude entries key own result).entries) :
    (name, entry) ∈ entries.entries ∧ entry.outcome ≠ own ∨
      (name, mine) ∈ entries.entries ∧ entry = { mine with completed := true } := by
  have marked {entry : Entry} (member : (name, entry) ∈ (entries.mapValues fun entry =>
      if entry.outcome = own then { entry with completed := true } else entry).entries) :
      (name, entry) ∈ entries.entries ∧ entry.outcome ≠ own ∨
        (name, mine) ∈ entries.entries ∧ entry = { mine with completed := true } := by
    obtain ⟨before, listed, same⟩ := Table.mem_mapValues.mp member
    by_cases owned : before.outcome = own
    · rw [if_pos owned] at same
      have named := only name before listed owned
      rw [named] at listed
      have one := Table.unique listed here
      rw [one] at same
      rw [named]
      exact Or.inr ⟨here, same.symm⟩
    · rw [if_neg owned] at same
      rw [← same]
      exact Or.inl ⟨listed, owned⟩
  cases result with
  | ok outcome =>
    unfold conclude at member
    dsimp only at member
    split at member
    · exact marked member
    · exact marked (Table.mem_remove.mp member).1
  | error error =>
    have found : (entries.get? key).map Entry.outcome = some own := by
      rw [Table.get?_eq_some.mpr here, Option.map_some, owns]
    rw [conclude, if_pos found] at member
    obtain ⟨listed, apart⟩ := Table.mem_remove.mp member
    exact Or.inl ⟨listed, fun owned => apart (only name entry listed owned)⟩

theorem conclude_keeps {ε : Type} {entries : Entries} {key name : Key} {own : Nat} {entry : Entry}
    (member : (name, entry) ∈ entries.entries) (other : entry.outcome ≠ own) (apart : name ≠ key)
    (result : Except ε ApplicationOutcome) : (name, entry) ∈ (conclude entries key own result).entries := by
  have marked : (name, entry) ∈ (entries.mapValues fun entry =>
      if entry.outcome = own then { entry with completed := true } else entry).entries :=
    Table.mem_mapValues.mpr ⟨entry, member, if_neg other⟩
  cases result with
  | ok outcome =>
    unfold conclude
    dsimp only
    split
    · exact marked
    · exact Table.mem_remove.mpr ⟨marked, apart⟩
  | error error =>
    unfold conclude
    dsimp only
    split
    · exact Table.mem_remove.mpr ⟨member, apart⟩
    · exact member

theorem conclude_length {ε : Type} (entries : Entries) (key : Key) (own : Nat) (result : Except ε ApplicationOutcome) :
    (conclude entries key own result).entries.length ≤ entries.entries.length := by
  have marked : (entries.mapValues fun entry =>
      if entry.outcome = own then { entry with completed := true } else entry).entries.length =
        entries.entries.length := List.length_map _
  cases result with
  | ok outcome =>
    unfold conclude
    dsimp only
    split
    · exact le_of_eq marked
    · exact (List.length_filter_le _ _).trans (le_of_eq marked)
  | error error =>
    unfold conclude
    dsimp only
    split
    · exact List.length_filter_le _ _
    · exact le_rfl

end ApplicationIdempotency

end Mobile

end BioAuth
