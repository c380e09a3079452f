import Mathlib.Data.List.MinMax
import Mathlib.Data.List.Nodup

namespace BioAuth

/-- A map with its entries in the order they are gone through, whichever that is. -/
structure Table (κ α : Type) where
  entries : List (κ × α)
  distinct : (entries.map Prod.fst).Nodup

namespace Table
variable {κ α : Type}

def empty : Table κ α := ⟨[], List.nodup_nil⟩

def retain (keep : κ → α → Bool) (table : Table κ α) : Table κ α :=
  ⟨table.entries.filter fun entry => keep entry.1 entry.2, table.distinct.sublist (List.filter_sublist.map _)⟩

/-- The same entries, gone through in another order. -/
def rearranged (table : Table κ α) (entries : List (κ × α)) (same : entries.Perm table.entries) : Table κ α :=
  ⟨entries, (same.map Prod.fst).nodup_iff.mpr table.distinct⟩

theorem mem_retain {keep : κ → α → Bool} {table : Table κ α} {entry : κ × α} :
    entry ∈ (table.retain keep).entries ↔ entry ∈ table.entries ∧ keep entry.1 entry.2 = true :=
  List.mem_filter

theorem unique {table : Table κ α} {key : κ} {a b : α} (left : (key, a) ∈ table.entries)
    (right : (key, b) ∈ table.entries) : a = b := by
  have same := List.inj_on_of_nodup_map table.distinct left right rfl
  exact congrArg Prod.snd same

variable [DecidableEq κ]

def get? (table : Table κ α) (key : κ) : Option α :=
  (table.entries.find? fun entry => entry.1 = key).map Prod.snd

def remove (key : κ) (table : Table κ α) : Table κ α := table.retain fun other _ => other ≠ key

def insert (key : κ) (value : α) (table : Table κ α) : Table κ α where
  entries := (key, value) :: (table.remove key).entries
  distinct := by
    refine List.nodup_cons.mpr ⟨?_, (table.remove key).distinct⟩
    intro member
    obtain ⟨entry, kept, same⟩ := List.mem_map.mp member
    exact of_decide_eq_true (mem_retain.mp kept).2 same

theorem mem_remove {key : κ} {table : Table κ α} {entry : κ × α} :
    entry ∈ (table.remove key).entries ↔ entry ∈ table.entries ∧ entry.1 ≠ key := by
  rw [remove, mem_retain, decide_eq_true_eq]

theorem mem_insert {key : κ} {value : α} {table : Table κ α} {entry : κ × α} :
    entry ∈ (table.insert key value).entries ↔ entry = (key, value) ∨ entry ∈ table.entries ∧ entry.1 ≠ key := by
  rw [← mem_remove]
  exact List.mem_cons

theorem get?_eq_some {table : Table κ α} {key : κ} {value : α} :
    table.get? key = some value ↔ (key, value) ∈ table.entries := by
  constructor
  · intro found
    obtain ⟨entry, first, same⟩ := Option.map_eq_some_iff.mp found
    have named : entry.1 = key := by simpa using List.find?_some first
    rw [← named, ← same]
    exact List.mem_of_find?_eq_some first
  · intro member
    rcases looked : table.get? key with _ | other
    · have none := List.find?_eq_none.mp (Option.map_eq_none_iff.mp looked) _ member
      exact absurd (decide_eq_true rfl) none
    · obtain ⟨entry, first, same⟩ := Option.map_eq_some_iff.mp looked
      have named : entry.1 = key := by simpa using List.find?_some first
      have here : (key, other) ∈ table.entries := by
        rw [← named, ← same]
        exact List.mem_of_find?_eq_some first
      rw [unique here member]

theorem get?_eq_none {table : Table κ α} {key : κ} :
    table.get? key = none ↔ ∀ entry ∈ table.entries, entry.1 ≠ key := by
  constructor
  · intro none entry member same
    have found : table.get? key = some entry.2 := get?_eq_some.mpr (same ▸ member)
    rw [none] at found
    cases found
  · intro apart
    rcases looked : table.get? key with _ | value
    · rfl
    · exact absurd rfl (apart _ (get?_eq_some.mp looked))

theorem get?_remove_self (key : κ) (table : Table κ α) : (table.remove key).get? key = none :=
  get?_eq_none.mpr fun _ member => (mem_remove.mp member).2

theorem get?_remove_of_ne {key other : κ} (apart : other ≠ key) (table : Table κ α) :
    (table.remove key).get? other = table.get? other := by
  refine Option.ext fun value => ?_
  rw [get?_eq_some, get?_eq_some, mem_remove]
  exact and_iff_left apart

theorem get?_insert_self (key : κ) (value : α) (table : Table κ α) : (table.insert key value).get? key = some value :=
  get?_eq_some.mpr (mem_insert.mpr (Or.inl rfl))

theorem get?_insert_of_ne {key other : κ} (apart : other ≠ key) (value : α) (table : Table κ α) :
    (table.insert key value).get? other = table.get? other := by
  refine Option.ext fun found => ?_
  rw [get?_eq_some, get?_eq_some, mem_insert]
  constructor
  · rintro (same | ⟨member, _⟩)
    · exact absurd (congrArg Prod.fst same) apart
    · exact member
  · exact fun member => Or.inr ⟨member, apart⟩

theorem remove_of_get?_eq_none {key : κ} {table : Table κ α} (missing : table.get? key = none) :
    (table.remove key).entries = table.entries :=
  List.filter_eq_self.mpr fun entry member => decide_eq_true (get?_eq_none.mp missing entry member)

theorem length_remove_le (key : κ) (table : Table κ α) : (table.remove key).entries.length ≤ table.entries.length :=
  List.length_filter_le _ _

theorem length_remove_lt {key : κ} {value : α} {table : Table κ α} (found : table.get? key = some value) :
    (table.remove key).entries.length < table.entries.length :=
  List.length_filter_lt_length_iff_exists.mpr ⟨_, get?_eq_some.mp found, by simp⟩

section Map
variable {β : Type} (f : α → β)

omit [DecidableEq κ] in
/-- The same keys with other values. -/
def map (table : Table κ α) : Table κ β where
  entries := table.entries.map fun entry => (entry.1, f entry.2)
  distinct := by
    rw [List.map_map]
    exact table.distinct

theorem get?_map (table : Table κ α) (key : κ) : (table.map f).get? key = (table.get? key).map f := by
  rw [get?, get?, map, List.find?_map, Option.map_map, Option.map_map]
  rfl

theorem map_remove (key : κ) (table : Table κ α) : (table.remove key).map f = (table.map f).remove key := by
  simp only [map, remove, retain, Table.mk.injEq, List.filter_map]
  rfl

theorem map_insert (key : κ) (value : α) (table : Table κ α) :
    (table.insert key value).map f = (table.map f).insert key (f value) := by
  have rest := congrArg Table.entries (map_remove f key table)
  simp only [insert, map, Table.mk.injEq, List.map_cons, List.cons.injEq, true_and] at rest ⊢
  exact rest

end Map

section Evict
variable (group : κ → Bool) (rank : α → Nat) (room : Nat)

omit [DecidableEq κ] in
/-- The entries of a group. -/
def members (table : Table κ α) : List (κ × α) := table.entries.filter fun entry => group entry.1

/-- Takes out the lowest of a group, one after another, until fewer than `room` are left. -/
def evict : Nat → Table κ α → Table κ α
  | 0, table => table
  | fuel + 1, table =>
    if room ≤ (table.members group).length then
      match (table.members group).argmin fun entry => rank entry.2 with
      | some lowest => evict fuel (table.remove lowest.1)
      | none => table
    else table

/-- What is left of a table when the lowest of a group have made room for one more. -/
structure Evicted (table left : Table κ α) : Prop where
  sublist : left.entries.Sublist table.entries
  others : ∀ entry ∈ table.entries, group entry.1 = false → entry ∈ left.entries
  lowest : ∀ gone ∈ table.entries, gone ∉ left.entries → ∀ kept ∈ left.members group, rank gone.2 ≤ rank kept.2
  spare : (table.members group).length < room → left = table
  fits : (left.members group).length < room
  needed : (table.members group).length < room ∨ room ≤ (left.members group).length + 1

variable {group rank room}

omit [DecidableEq κ] in
theorem mem_members {table : Table κ α} {entry : κ × α} :
    entry ∈ table.members group ↔ entry ∈ table.entries ∧ group entry.1 = true := List.mem_filter

/-- One entry of a group fewer. -/
theorem members_remove {table : Table κ α} {entry : κ × α} (member : entry ∈ table.members group) :
    ((table.remove entry.1).members group).length + 1 = (table.members group).length := by
  classical
  have distinct : ((table.members group).map Prod.fst).Nodup := table.distinct.sublist (List.filter_sublist.map _)
  have split : (table.remove entry.1).members group = (table.members group).erase entry := by
    rw [distinct.of_map.erase_eq_filter, members, members, remove, retain, List.filter_filter, List.filter_filter]
    refine List.filter_congr fun other there => ?_
    have apart : decide (other.1 ≠ entry.1) = (other != entry) := by
      by_cases same : other = entry
      · simp [same]
      · have keys : other.1 ≠ entry.1 := fun named =>
          same (List.inj_on_of_nodup_map table.distinct there (mem_members.mp member).1 named)
        simp [same, keys]
    rw [apart, Bool.and_comm]
  have positive := List.length_pos_of_mem member
  rw [split, List.length_erase_of_mem member]
  omega

/-- One entry of its group more, less the one it replaces. -/
theorem members_insert (key : κ) (value : α) (table : Table κ α) :
    ((table.insert key value).members group).length =
      ((table.remove key).members group).length + if group key = true then 1 else 0 := by
  rw [members, insert, List.filter_cons]
  split
  · rw [List.length_cons, members]
  · rw [members, Nat.add_zero]

theorem members_remove_le (key : κ) (table : Table κ α) :
    ((table.remove key).members group).length ≤ (table.members group).length :=
  (List.filter_sublist.filter _).length_le

theorem members_replace {key : κ} {old : α} {table : Table κ α} (held : (key, old) ∈ table.entries) (value : α) :
    ((table.insert key value).members group).length ≤ (table.members group).length := by
  rw [members_insert]
  by_cases grouped : group key = true
  · have fewer : ((table.remove key).members group).length + 1 = (table.members group).length :=
      members_remove (mem_members.mpr ⟨held, grouped⟩)
    rw [if_pos grouped]
    omega
  · rw [if_neg grouped]
    exact members_remove_le key table

theorem evicted (positive : 0 < room) (fuel : Nat) (table : Table κ α) (enough : (table.members group).length ≤ fuel) :
    Evicted group rank room table (table.evict group rank room fuel) := by
  have untouched {t : Table κ α} (few : (t.members group).length < room) : Evicted group rank room t t :=
    ⟨List.Sublist.refl _, fun _ member _ => member, fun _ member gone => absurd member gone, fun _ => rfl, few, Or.inl few⟩
  induction fuel generalizing table with
  | zero => exact untouched (by omega)
  | succ fuel ih =>
    unfold evict
    by_cases full : room ≤ (table.members group).length
    · rw [if_pos full]
      rcases found : (table.members group).argmin fun entry => rank entry.2 with _ | lowest
      · have none := List.argmin_eq_none.mp found
        rw [none, List.length_nil] at full
        omega
      · simp only [found]
        have member : lowest ∈ table.members group := List.argmin_mem found
        have fewer := members_remove member
        have rest := ih (table.remove lowest.1) (by omega)
        refine ⟨rest.sublist.trans List.filter_sublist, ?_, ?_, fun few => by omega, rest.fits, Or.inr ?_⟩
        · intro entry there other
          refine rest.others entry (mem_remove.mpr ⟨there, fun same => ?_⟩) other
          rw [same, (mem_members.mp member).2] at other
          cases other
        · intro gone there missing kept left
          by_cases same : gone.1 = lowest.1
          · have self := List.inj_on_of_nodup_map table.distinct there (mem_members.mp member).1 same
            have before : kept ∈ table.members group := by
              obtain ⟨inside, grouped⟩ := mem_members.mp left
              exact mem_members.mpr ⟨(rest.sublist.trans List.filter_sublist).subset inside, grouped⟩
            rw [self]
            exact List.le_of_mem_argmin (f := fun entry : κ × α => rank entry.2) before found
          · exact rest.lowest gone (mem_remove.mpr ⟨there, same⟩) missing kept left
        · rcases rest.needed with few | needed
          · rw [rest.spare few]
            omega
          · exact needed
    · rw [if_neg full]
      exact untouched (by omega)

end Evict

end Table

end BioAuth
