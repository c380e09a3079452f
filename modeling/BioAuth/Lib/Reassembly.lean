import BioAuth.Lib.Table
import Mathlib.Algebra.Order.BigOperators.Group.List
import Mathlib.Algebra.Order.Ring.Nat
import Mathlib.Algebra.Ring.Nat
import Mathlib.Data.List.Perm.Basic

namespace BioAuth.Reassembly

/-- A piece of a message: whose it is, where it stands among how many, and what it holds. -/
structure Piece (κ α : Type) where
  key : κ
  index : Nat
  total : Nat
  data : List α

/-- A message of which pieces are still to come. -/
structure Pending (α : Type) where
  total : Nat
  parts : Table Nat (List α)

/-- How many messages may be pending, and how long one may get. -/
structure Limits where
  room : Nat
  size : Nat

/-- What becomes of a piece. A refused piece of a pending message takes that message with it. -/
inductive Answer (α : Type)
  | refused
  | kept
  | complete (message : List α)

variable {κ α : Type}

namespace Pending

/-- What is held of the message. -/
def size (pending : Pending α) : Nat := (pending.parts.entries.map fun part => part.2.length).sum

def message (pending : Pending α) : Option (List α) :=
  ((List.range pending.total).mapM pending.parts.get?).map List.flatten

end Pending

theorem option_mapM_eq_some {ι β : Type} {items : List ι} {f : ι → Option β} {g : ι → β}
    (each : ∀ item ∈ items, f item = some (g item)) : items.mapM f = some (items.map g) := by
  induction items with
  | nil => rfl
  | cons item items ih =>
    rw [List.forall_mem_cons] at each
    rw [List.mapM_cons, each.1, ih each.2]
    rfl

/-- The results of a step that is taken once for each of a list, and the state behind it. -/
def steps {γ ρ σ : Type} (step : γ → σ → ρ × σ) : List γ → σ → List ρ × σ
  | [], s => ([], s)
  | item :: rest, s =>
    let (result, s) := step item s
    let (results, s) := steps step rest s
    (result :: results, s)

section Accept
variable [DecidableEq κ]

/-- Take one piece. -/
def accept (limits : Limits) (piece : Piece κ α) (buffer : Table κ (Pending α)) : Answer α × Table κ (Pending α) :=
  if buffer.get? piece.key = none ∧ limits.room ≤ buffer.entries.length then (.refused, buffer)
  else
    let pending := (buffer.get? piece.key).getD ⟨piece.total, .empty⟩
    if pending.total ≠ piece.total ∨ pending.parts.get? piece.index ≠ none ∨
        limits.size < pending.size + piece.data.length then (.refused, buffer.remove piece.key)
    else
      let pending := { pending with parts := pending.parts.insert piece.index piece.data }
      if pending.parts.entries.length ≠ piece.total then (.kept, buffer.insert piece.key pending)
      else
        match pending.message with
        | some message => (.complete message, buffer.remove piece.key)
        | none => (.refused, buffer.remove piece.key)

section Cases
variable {limits : Limits} {piece : Piece κ α} {buffer : Table κ (Pending α)} {pending : Pending α}

theorem accept_full (full : buffer.get? piece.key = none ∧ limits.room ≤ buffer.entries.length) :
    accept limits piece buffer = (.refused, buffer) := if_pos full

/-- There is room for the piece, and what is pending of its message fits to it. -/
structure Fits (limits : Limits) (piece : Piece κ α) (buffer : Table κ (Pending α)) (pending : Pending α) : Prop where
  spare : ¬(buffer.get? piece.key = none ∧ limits.room ≤ buffer.entries.length)
  stands : (buffer.get? piece.key).getD ⟨piece.total, .empty⟩ = pending
  total : pending.total = piece.total
  vacant : pending.parts.get? piece.index = none
  size : pending.size + piece.data.length ≤ limits.size

theorem accept_clash (spare : ¬(buffer.get? piece.key = none ∧ limits.room ≤ buffer.entries.length))
    (stands : (buffer.get? piece.key).getD ⟨piece.total, .empty⟩ = pending)
    (clash : pending.total ≠ piece.total ∨ pending.parts.get? piece.index ≠ none ∨
      limits.size < pending.size + piece.data.length) :
    accept limits piece buffer = (.refused, buffer.remove piece.key) := by
  rw [accept, if_neg spare, stands]
  exact if_pos clash

theorem Fits.clashless (fits : Fits limits piece buffer pending) : ¬(pending.total ≠ piece.total ∨
    pending.parts.get? piece.index ≠ none ∨ limits.size < pending.size + piece.data.length) := by
  rintro (differs | taken | long)
  · exact differs fits.total
  · exact taken fits.vacant
  · exact absurd fits.size (Nat.not_le.mpr long)

theorem Fits.accept_kept (fits : Fits limits piece buffer pending)
    (short : (pending.parts.insert piece.index piece.data).entries.length ≠ piece.total) :
    accept limits piece buffer =
      (.kept, buffer.insert piece.key { pending with parts := pending.parts.insert piece.index piece.data }) := by
  rw [accept, if_neg fits.spare, fits.stands, if_neg fits.clashless]
  exact if_pos short

theorem Fits.accept_last (fits : Fits limits piece buffer pending)
    (last : (pending.parts.insert piece.index piece.data).entries.length = piece.total) :
    accept limits piece buffer =
      ((match Pending.message { pending with parts := pending.parts.insert piece.index piece.data } with
        | some message => .complete message
        | none => .refused), buffer.remove piece.key) := by
  rw [accept, if_neg fits.spare, fits.stands, if_neg fits.clashless]
  refine (if_neg (not_not_intro last)).trans ?_
  split <;> rfl

end Cases

/-- Take what was offered, if it was a piece at all. -/
def offer (limits : Limits) : Option (Piece κ α) → Table κ (Pending α) → Answer α × Table κ (Pending α)
  | some piece, buffer => accept limits piece buffer
  | none, buffer => (.refused, buffer)

/-- The answers to a stream of offers, and what is pending behind it. -/
def run (limits : Limits) (stream : List (Option (Piece κ α))) (buffer : Table κ (Pending α)) :
    List (Answer α) × Table κ (Pending α) := steps (offer limits) stream buffer

/-- The message an answer completes. -/
def Answer.message : Answer α → Option (List α)
  | .complete message => some message
  | _ => none

/-- The messages that were completed, in order. -/
def completed (answers : List (Answer α)) : List (List α) := answers.filterMap Answer.message

end Accept

section Implements
variable [DecidableEq κ] {γ ρ σ : Type}

/-- A step takes pieces: its states stand for what is pending, and its results show the answers. -/
def Implements (limits : Limits) (parse : γ → Option (Piece κ α)) (step : γ → σ → ρ × σ) (shows : ρ → Answer α → Prop)
    (stands : σ → Table κ (Pending α) → Prop) : Prop :=
  ∀ item s buffer, stands s buffer → shows (step item s).1 (offer limits (parse item) buffer).1 ∧
    stands (step item s).2 (offer limits (parse item) buffer).2

theorem Implements.steps {limits : Limits} {parse : γ → Option (Piece κ α)} {step : γ → σ → ρ × σ}
    {shows : ρ → Answer α → Prop} {stands : σ → Table κ (Pending α) → Prop}
    (each : Implements limits parse step shows stands) {s : σ} {buffer : Table κ (Pending α)} (start : stands s buffer)
    (items : List γ) :
    List.Forall₂ shows (steps step items s).1 (run limits (items.map parse) buffer).1 ∧
      stands (steps step items s).2 (run limits (items.map parse) buffer).2 := by
  induction items generalizing s buffer with
  | nil => exact ⟨List.Forall₂.nil, start⟩
  | cons item items ih =>
    obtain ⟨first, next⟩ := each item s buffer start
    obtain ⟨results, last⟩ := ih next
    exact ⟨List.Forall₂.cons first results, last⟩

end Implements

section Bound

/-- No more is pending than there is room for, and nothing of it is too long. -/
structure Bounded (limits : Limits) (buffer : Table κ (Pending α)) : Prop where
  room : buffer.entries.length ≤ limits.room
  size : ∀ entry ∈ buffer.entries, entry.2.size ≤ limits.size

theorem empty_bounded (limits : Limits) : Bounded limits (.empty : Table κ (Pending α)) where
  room := Nat.zero_le _
  size _ member := nomatch member

/-- The octets of all that is pending. -/
def buffered (buffer : Table κ (Pending α)) : Nat := (buffer.entries.map fun entry => entry.2.size).sum

theorem Bounded.buffered_le {limits : Limits} {buffer : Table κ (Pending α)} (bounded : Bounded limits buffer) :
    buffered buffer ≤ limits.room * limits.size := by
  have each : ∀ size ∈ buffer.entries.map fun entry => entry.2.size, size ≤ limits.size := by
    intro size member
    obtain ⟨entry, held, rfl⟩ := List.mem_map.mp member
    exact bounded.size entry held
  have total := List.sum_le_card_nsmul _ _ each
  rw [List.length_map, nsmul_eq_mul, Nat.cast_id] at total
  exact total.trans (Nat.mul_le_mul_right _ bounded.room)

variable [DecidableEq κ]

theorem Bounded.remove {limits : Limits} {buffer : Table κ (Pending α)} (bounded : Bounded limits buffer) (key : κ) :
    Bounded limits (buffer.remove key) where
  room := (Table.length_remove_le key buffer).trans bounded.room
  size entry member := bounded.size entry (Table.mem_remove.mp member).1

theorem size_insert_le (pending : Pending α) (index : Nat) (data : List α) :
    Pending.size { pending with parts := pending.parts.insert index data } ≤ pending.size + data.length := by
  have fewer : ((pending.parts.remove index).entries.map fun part => part.2.length).sum ≤ pending.size :=
    List.Sublist.sum_le_sum (List.filter_sublist.map _) fun _ _ => Nat.zero_le _
  simp only [Pending.size, Table.insert, List.map_cons, List.sum_cons] at fewer ⊢
  omega

theorem size_insert {pending : Pending α} {index : Nat} (vacant : pending.parts.get? index = none) (data : List α) :
    Pending.size { pending with parts := pending.parts.insert index data } = pending.size + data.length := by
  have same := Table.remove_of_get?_eq_none vacant
  simp only [Pending.size, Table.insert, same, List.map_cons, List.sum_cons]
  omega

/-- One more piece leaves what is pending within its bounds. -/
theorem Bounded.accept {limits : Limits} {buffer : Table κ (Pending α)} (bounded : Bounded limits buffer)
    (piece : Piece κ α) : Bounded limits (accept limits piece buffer).2 := by
  unfold Reassembly.accept
  split
  · exact bounded
  · rename_i spare
    dsimp only
    split
    · exact bounded.remove _
    · rename_i fits
      simp only [not_or, not_lt] at fits
      split
      · constructor
        · show ((buffer.remove piece.key).entries.length + 1) ≤ limits.room
          have room := bounded.room
          rcases found : buffer.get? piece.key with _ | pending
          · rw [Table.remove_of_get?_eq_none found]
            rw [not_and] at spare
            have := spare found
            omega
          · have fewer := Table.length_remove_lt found
            omega
        · intro entry member
          rcases Table.mem_insert.mp member with rfl | ⟨held, _⟩
          · exact (size_insert_le _ _ _).trans fits.2.2
          · exact bounded.size entry held
      · split <;> exact bounded.remove _

theorem Bounded.run {limits : Limits} {buffer : Table κ (Pending α)} (bounded : Bounded limits buffer)
    (stream : List (Option (Piece κ α))) : Bounded limits (run limits stream buffer).2 := by
  induction stream generalizing buffer with
  | nil => exact bounded
  | cons offered rest ih =>
    cases offered with
    | none => exact ih bounded
    | some piece => exact ih (bounded.accept piece)

end Bound

section Counts
variable [DecidableEq κ] {φ : Type}

/-- What is pending in a form of its own, with the size of each message counted beside it. -/
structure Counts (view : φ → Pending α) (count : φ → Nat) (frames : Table κ φ) (buffer : Table κ (Pending α)) : Prop where
  same : frames.map view = buffer
  counted : ∀ key frame, frames.get? key = some frame → count frame = (view frame).size

variable {view : φ → Pending α} {count : φ → Nat} {frames : Table κ φ} {buffer : Table κ (Pending α)}

theorem empty_counts : Counts view count (.empty : Table κ φ) .empty := ⟨rfl, fun _ _ found => nomatch found⟩

theorem Counts.remove (counts : Counts view count frames buffer) (key : κ) :
    Counts view count (frames.remove key) (buffer.remove key) := by
  obtain ⟨rfl, counted⟩ := counts
  refine ⟨Table.map_remove _ _ _, fun other frame found => ?_⟩
  by_cases same : other = key
  · rw [same, Table.get?_remove_self] at found
    cases found
  · rw [Table.get?_remove_of_ne same] at found
    exact counted other frame found

theorem Counts.insert (counts : Counts view count frames buffer) (key : κ) {frame : φ}
    (counted : count frame = (view frame).size) :
    Counts view count (frames.insert key frame) (buffer.insert key (view frame)) := by
  obtain ⟨rfl, others⟩ := counts
  refine ⟨Table.map_insert _ _ _ _, fun other found held => ?_⟩
  by_cases same : other = key
  · rw [same, Table.get?_insert_self] at held
    cases held
    exact counted
  · rw [Table.get?_insert_of_ne same] at held
    exact others other found held

theorem Counts.full (counts : Counts view count frames buffer) {key : κ} {room : Nat} :
    (buffer.get? key = none ∧ room ≤ buffer.entries.length) ↔ frames.get? key = none ∧ room ≤ frames.entries.length := by
  rw [← counts.same, Table.get?_map, Option.map_eq_none_iff]
  exact and_congr_right fun _ => by rw [Table.map, List.length_map]

/-- The message a piece belongs to, or a new one. -/
theorem Counts.stands (counts : Counts view count frames buffer) (key : κ) {fresh : φ} (counted : count fresh = (view fresh).size) :
    ∃ frame, (frames.get? key).getD fresh = frame ∧ count frame = (view frame).size ∧
      (buffer.get? key).getD (view fresh) = view frame := by
  rw [← counts.same, Table.get?_map]
  rcases found : frames.get? key with _ | frame
  · exact ⟨fresh, rfl, counted, rfl⟩
  · exact ⟨frame, rfl, counts.counted key frame found, rfl⟩

/-- All that is pending, as it is held. -/
theorem Counts.buffered (counts : Counts view count frames buffer) :
    (frames.entries.map fun entry => (view entry.2).size).sum = buffered buffer := by
  rw [Reassembly.buffered, ← counts.same, Table.map, List.map_map]
  rfl

end Counts

/-- A message cut into parts, under the key its pieces go by. -/
structure Cut (κ α : Type) where
  key : κ
  parts : List (List α)

namespace Cut

def message (cut : Cut κ α) : List α := cut.parts.flatten

/-- The parts with their places. -/
def slots (cut : Cut κ α) : List (Nat × List α) := cut.parts.mapIdx Prod.mk

def piece (cut : Cut κ α) (slot : Nat × List α) : Piece κ α := ⟨cut.key, slot.1, cut.parts.length, slot.2⟩

def pieces (cut : Cut κ α) : List (Piece κ α) := cut.slots.map cut.piece

theorem slots_length (cut : Cut κ α) : cut.slots.length = cut.parts.length := List.length_mapIdx

theorem slots_indices (cut : Cut κ α) : cut.slots.map Prod.fst = List.range cut.parts.length := by
  refine List.ext_getElem (by simp [slots]) fun i left right => ?_
  simp [slots]

theorem slots_data (cut : Cut κ α) : cut.slots.map Prod.snd = cut.parts := by
  refine List.ext_getElem (by simp [slots]) fun i left right => ?_
  simp [slots]

theorem slots_size (cut : Cut κ α) : (cut.slots.map fun slot => slot.2.length).sum = cut.message.length := by
  rw [message, List.length_flatten, ← congrArg (List.map List.length) cut.slots_data, List.map_map]
  rfl

/-- All parts are there and the message is put together again. -/
theorem message_of_perm {cut : Cut κ α} {pending : Pending α} (total : pending.total = cut.parts.length)
    (all : pending.parts.entries.Perm cut.slots) : pending.message = some cut.message := by
  have each : ∀ i ∈ List.range cut.parts.length, pending.parts.get? i = some (cut.parts.getD i []) := by
    intro i below
    have fits := List.mem_range.mp below
    refine Table.get?_eq_some.mpr (all.mem_iff.mpr (List.mem_iff_getElem.mpr ⟨i, ?_, ?_⟩))
    · rwa [slots_length]
    · simp [slots, List.getElem?_eq_getElem fits]
  have parts : (List.range cut.parts.length).map (fun i => cut.parts.getD i []) = cut.parts := by
    refine List.ext_getElem (by simp) fun i left right => ?_
    simp [List.getElem?_eq_getElem right]
  rw [Pending.message, total, option_mapM_eq_some each, parts]
  rfl

variable [DecidableEq κ]

/-- The parts of a message among the pieces to come, with their places. -/
def waiting (cut : Cut κ α) (rest : List (Piece κ α)) : List (Nat × List α) :=
  (rest.filter fun piece => piece.key = cut.key).map fun piece => (piece.index, piece.data)

theorem waiting_own (cut : Cut κ α) (slot : Nat × List α) (rest : List (Piece κ α)) :
    cut.waiting (cut.piece slot :: rest) = slot :: cut.waiting rest := by
  simp [waiting, piece]

theorem waiting_other {cut : Cut κ α} {piece : Piece κ α} (apart : piece.key ≠ cut.key) (rest : List (Piece κ α)) :
    cut.waiting (piece :: rest) = cut.waiting rest := by
  simp [waiting, apart]

end Cut

/-- Messages that go by different keys, and that are to be put together again. -/
structure Plan (limits : Limits) (cuts : List (Cut κ α)) : Prop where
  distinct : (cuts.map Cut.key).Nodup
  room : cuts.length ≤ limits.room
  size : ∀ cut ∈ cuts, cut.message.length ≤ limits.size

section Exact
variable [DecidableEq κ] {limits : Limits} {cuts : List (Cut κ α)} {rest : List (Piece κ α)} {buffer : Table κ (Pending α)}

/-- What is pending of these messages is what is not still to come of them. -/
structure Due (cuts : List (Cut κ α)) (rest : List (Piece κ α)) (buffer : Table κ (Pending α)) : Prop where
  known : ∀ piece ∈ rest, ∃ cut ∈ cuts, ∃ slot, piece = cut.piece slot
  held : ∀ key pending, buffer.get? key = some pending → ∃ cut ∈ cuts, cut.key = key ∧
    pending.total = cut.parts.length ∧ (pending.parts.entries ++ cut.waiting rest).Perm cut.slots
  fresh : ∀ cut ∈ cuts, buffer.get? cut.key = none → (cut.waiting rest).Perm cut.slots ∨ cut.waiting rest = []

omit [DecidableEq κ] in
theorem Plan.same (plan : Plan limits cuts) {a b : Cut κ α} (left : a ∈ cuts) (right : b ∈ cuts) (keys : a.key = b.key) :
    a = b := List.inj_on_of_nodup_map plan.distinct left right keys

/-- While a message is not pending, there is room for it. -/
theorem Due.spare (plan : Plan limits cuts) (due : Due cuts rest buffer) {cut : Cut κ α} (member : cut ∈ cuts)
    (missing : buffer.get? cut.key = none) : buffer.entries.length < limits.room := by
  have apart : cut.key ∉ buffer.entries.map Prod.fst := by
    intro found
    obtain ⟨entry, held, same⟩ := List.mem_map.mp found
    exact Table.get?_eq_none.mp missing entry held same
  have within : (cut.key :: buffer.entries.map Prod.fst) ⊆ cuts.map Cut.key := by
    intro key found
    rcases List.mem_cons.mp found with rfl | found
    · exact List.mem_map_of_mem member
    · obtain ⟨entry, held, rfl⟩ := List.mem_map.mp found
      obtain ⟨other, there, same, _⟩ := due.held _ _ (Table.get?_eq_some.mpr held)
      exact List.mem_map.mpr ⟨other, there, same⟩
  have fewer := (List.subperm_of_subset (List.nodup_cons.mpr ⟨apart, buffer.distinct⟩) within).length_le
  have room := plan.room
  simp only [List.length_cons, List.length_map] at fewer
  omega

/-- What is held of the message the next piece belongs to. -/
theorem Due.pending (plan : Plan limits cuts) {cut : Cut κ α} {slot : Nat × List α} (member : cut ∈ cuts)
    (due : Due cuts (cut.piece slot :: rest) buffer) :
    ∃ pending : Pending α, (buffer.get? cut.key).getD ⟨cut.parts.length, .empty⟩ = pending ∧
      pending.total = cut.parts.length ∧ (pending.parts.entries ++ slot :: cut.waiting rest).Perm cut.slots := by
  rcases found : buffer.get? cut.key with _ | pending
  · refine ⟨_, rfl, rfl, ?_⟩
    have fresh := due.fresh cut member found
    rw [cut.waiting_own] at fresh
    exact fresh.resolve_right (List.cons_ne_nil _ _)
  · obtain ⟨other, there, same, total, perm⟩ := due.held _ _ found
    obtain rfl := plan.same there member same
    rw [other.waiting_own] at perm
    exact ⟨pending, rfl, total, perm⟩

/-- A message of which nothing is left to come, or whose next part has been kept, leaves the others as they were. -/
theorem Due.step (plan : Plan limits cuts) {cut : Cut κ α} {slot : Nat × List α} (member : cut ∈ cuts)
    (due : Due cuts (cut.piece slot :: rest) buffer) {next : Table κ (Pending α)}
    (others : ∀ key, key ≠ cut.key → next.get? key = buffer.get? key)
    (own : next.get? cut.key = none ∧ cut.waiting rest = [] ∨ ∃ pending, next.get? cut.key = some pending ∧
      pending.total = cut.parts.length ∧ (pending.parts.entries ++ cut.waiting rest).Perm cut.slots) :
    Due cuts rest next where
  known piece later := due.known piece (List.mem_cons_of_mem _ later)
  held key pending found := by
    by_cases same : key = cut.key
    · subst same
      rcases own with ⟨none, _⟩ | ⟨kept, there, total, perm⟩
      · rw [none] at found
        cases found
      · rw [there] at found
        cases found
        exact ⟨cut, member, rfl, total, perm⟩
    · rw [others key same] at found
      obtain ⟨other, there, named, total, perm⟩ := due.held key pending found
      have apart : (cut.piece slot).key ≠ other.key := fun keys => same (named.symm.trans keys.symm)
      rw [Cut.waiting_other apart] at perm
      exact ⟨other, there, named, total, perm⟩
  fresh other there missing := by
    by_cases same : other.key = cut.key
    · obtain rfl := plan.same there member same
      rcases own with ⟨_, spent⟩ | ⟨kept, found, _⟩
      · exact Or.inr spent
      · rw [found] at missing
        cases missing
    · rw [others _ same] at missing
      have fresh := due.fresh other there missing
      rwa [Cut.waiting_other fun keys => same keys.symm] at fresh

/-- What the next piece does: it is kept until the last of its message, which completes it. -/
theorem Due.accept (plan : Plan limits cuts) {cut : Cut κ α} {slot : Nat × List α} (member : cut ∈ cuts)
    (due : Due cuts (cut.piece slot :: rest) buffer) :
    ∃ next, Due cuts rest next ∧ accept limits (cut.piece slot) buffer =
      (if cut.waiting rest = [] then .complete cut.message else .kept, next) := by
  obtain ⟨pending, stands, total, perm⟩ := due.pending plan member
  -- The part is not there yet, since no place comes twice among those of the message.
  have places : ((pending.parts.entries ++ slot :: cut.waiting rest).map Prod.fst).Nodup := by
    rw [(perm.map Prod.fst).nodup_iff, cut.slots_indices]
    exact List.nodup_range
  have vacant : pending.parts.get? slot.1 = none := by
    refine Table.get?_eq_none.mpr fun entry held same => ?_
    rw [List.map_append, List.map_cons, List.nodup_append] at places
    exact places.2.2 entry.1 (List.mem_map_of_mem held) slot.1 List.mem_cons_self same
  have size : pending.size + slot.2.length ≤ limits.size := by
    have whole := (perm.map fun part => part.2.length).sum_eq
    rw [cut.slots_size, List.map_append, List.sum_append, List.map_cons, List.sum_cons] at whole
    have fits := plan.size cut member
    rw [Pending.size]
    omega
  have parts : (pending.parts.insert slot.1 slot.2).entries = slot :: pending.parts.entries :=
    congrArg (slot :: ·) (Table.remove_of_get?_eq_none vacant)
  have after : ((pending.parts.insert slot.1 slot.2).entries ++ cut.waiting rest).Perm cut.slots := by
    rw [parts]
    exact List.perm_middle.symm.trans perm
  have count := after.length_eq
  rw [List.length_append, cut.slots_length] at count
  have fits : Fits limits (cut.piece slot) buffer pending := by
    refine ⟨?_, stands, total, vacant, size⟩
    rintro ⟨missing, full⟩
    have spare := due.spare plan member missing
    omega
  by_cases last : cut.waiting rest = []
  · rw [last, List.append_nil] at after
    rw [last, List.length_nil, Nat.add_zero] at count
    have whole : Pending.message { pending with parts := pending.parts.insert slot.1 slot.2 } = some cut.message :=
      Cut.message_of_perm total after
    refine ⟨buffer.remove cut.key, due.step plan member (fun key apart => Table.get?_remove_of_ne apart _)
      (Or.inl ⟨Table.get?_remove_self _ _, last⟩), ?_⟩
    rw [fits.accept_last count, if_pos last]
    simp only [Cut.piece, whole]
  · have more := List.length_pos_iff.mpr last
    have short : (pending.parts.insert slot.1 slot.2).entries.length ≠ cut.parts.length := by omega
    refine ⟨buffer.insert cut.key { pending with parts := pending.parts.insert slot.1 slot.2 },
      due.step plan member (fun key apart => Table.get?_insert_of_ne apart _ _)
        (Or.inr ⟨_, Table.get?_insert_self _ _ _, total, after⟩), ?_⟩
    rw [fits.accept_kept short, if_neg last]
    rfl

/-- Of a list of messages, those with something left to come, when the next piece is the last of its message. -/
theorem Plan.filter_waiting (plan : Plan limits cuts) {cut : Cut κ α} (member : cut ∈ cuts) (slot : Nat × List α)
    (rest : List (Piece κ α)) :
    (cuts.filter fun other => other.waiting (cut.piece slot :: rest) ≠ []).Perm
      ((if cut.waiting rest = [] then [cut] else []) ++ cuts.filter fun other => other.waiting rest ≠ []) := by
  obtain ⟨before, behind, rfl⟩ := List.append_of_mem member
  have distinct := plan.distinct
  rw [List.map_append, List.map_cons, List.nodup_append, List.nodup_cons] at distinct
  have same (others : List (Cut κ α)) (apart : ∀ other ∈ others, cut.key ≠ other.key) :
      others.filter (fun other => other.waiting (cut.piece slot :: rest) ≠ []) =
        others.filter fun other => other.waiting rest ≠ [] := by
    refine List.filter_congr fun other there => ?_
    rw [Cut.waiting_other (apart other there)]
  have first : ∀ other ∈ before, cut.key ≠ other.key := fun other there keys =>
    distinct.2.2 other.key (List.mem_map_of_mem there) cut.key List.mem_cons_self keys.symm
  have second : ∀ other ∈ behind, cut.key ≠ other.key := fun other there keys =>
    distinct.2.1.1 (keys ▸ List.mem_map_of_mem there)
  rw [List.filter_append, List.filter_append, List.filter_cons, List.filter_cons, same before first, same behind second,
    Cut.waiting_own]
  by_cases last : cut.waiting rest = []
  · simp [last, List.perm_middle]
  · simp [last]

/-- From there the whole rest of the stream is taken, and completes each message that has something left to come. -/
theorem Due.run (plan : Plan limits cuts) (due : Due cuts rest buffer) :
    .refused ∉ (run limits (rest.map some) buffer).1 ∧ (completed (run limits (rest.map some) buffer).1).Perm
      ((cuts.filter fun cut => cut.waiting rest ≠ []).map Cut.message) := by
  induction rest generalizing buffer with
  | nil => simp [Reassembly.run, steps, completed, Cut.waiting]
  | cons piece rest ih =>
    obtain ⟨cut, member, slot, rfl⟩ := due.known piece List.mem_cons_self
    obtain ⟨next, later, answer⟩ := due.accept plan member
    obtain ⟨taken, messages⟩ := ih later
    have left := (plan.filter_waiting member slot rest).map Cut.message
    simp only [List.map_cons, Reassembly.run, steps, offer, answer]
    by_cases last : cut.waiting rest = []
    · simp only [last, if_true, List.mem_cons, reduceCtorEq, false_or, List.map_cons, List.singleton_append] at left ⊢
      exact ⟨taken, (messages.cons cut.message).trans left.symm⟩
    · simp only [last, if_false, List.mem_cons, reduceCtorEq, false_or, List.nil_append] at left ⊢
      exact ⟨taken, messages.trans left.symm⟩

/-- Of the pieces of all messages, those of one. -/
theorem Plan.filter_pieces (plan : Plan limits cuts) {cut : Cut κ α} (member : cut ∈ cuts) :
    (cuts.flatMap Cut.pieces).filter (fun piece => piece.key = cut.key) = cut.pieces := by
  obtain ⟨before, behind, rfl⟩ := List.append_of_mem member
  have distinct := plan.distinct
  rw [List.map_append, List.map_cons, List.nodup_append, List.nodup_cons] at distinct
  have none (others : List (Cut κ α)) (apart : ∀ other ∈ others, other.key ≠ cut.key) :
      (others.flatMap Cut.pieces).filter (fun piece => piece.key = cut.key) = [] := by
    refine List.filter_eq_nil_iff.mpr fun piece there own => ?_
    obtain ⟨other, listed, slot⟩ := List.mem_flatMap.mp there
    obtain ⟨_, _, rfl⟩ := List.mem_map.mp slot
    exact apart other listed (of_decide_eq_true own)
  have own : cut.pieces.filter (fun piece => piece.key = cut.key) = cut.pieces := by
    refine List.filter_eq_self.mpr fun piece there => ?_
    obtain ⟨_, _, rfl⟩ := List.mem_map.mp there
    exact decide_eq_true rfl
  have first := none before fun other there keys =>
    distinct.2.2 other.key (List.mem_map_of_mem there) cut.key List.mem_cons_self keys
  have second := none behind fun other there keys => distinct.2.1.1 (keys ▸ List.mem_map_of_mem there)
  rw [List.flatMap_append, List.flatMap_cons, List.filter_append, List.filter_append, first, second, own,
    List.nil_append, List.append_nil]

/-- The pieces of several messages in whatever order complete each message that has any, once, and none is refused. -/
theorem Plan.run (plan : Plan limits cuts) {stream : List (Piece κ α)} (order : stream.Perm (cuts.flatMap Cut.pieces)) :
    .refused ∉ (run limits (stream.map some) .empty).1 ∧ (completed (run limits (stream.map some) .empty).1).Perm
      ((cuts.filter fun cut => cut.parts ≠ []).map Cut.message) := by
  have all : ∀ cut ∈ cuts, (cut.waiting stream).Perm cut.slots := by
    intro cut member
    have own := order.filter fun piece => piece.key = cut.key
    rw [plan.filter_pieces member] at own
    refine (own.map fun piece => (piece.index, piece.data)).trans ?_
    rw [Cut.pieces, List.map_map]
    exact List.Perm.of_eq (List.map_id _)
  have due : Due cuts stream (.empty : Table κ (Pending α)) := by
    refine ⟨fun piece there => ?_, fun key pending found => ?_, fun cut member _ => Or.inl (all cut member)⟩
    · obtain ⟨cut, member, listed⟩ := List.mem_flatMap.mp (order.mem_iff.mp there)
      obtain ⟨slot, _, same⟩ := List.mem_map.mp listed
      exact ⟨cut, member, slot, same.symm⟩
    · cases found
  obtain ⟨taken, messages⟩ := due.run plan
  refine ⟨taken, messages.trans (List.Perm.of_eq ?_)⟩
  congr 1
  refine List.filter_congr fun cut member => ?_
  have lengths := (all cut member).length_eq
  rw [cut.slots_length] at lengths
  rw [decide_eq_decide, ← List.length_pos_iff, ← List.length_pos_iff, lengths]

end Exact

end BioAuth.Reassembly
