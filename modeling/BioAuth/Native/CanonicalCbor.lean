import BioAuth.CborSpelling
import Mathlib.Tactic.IntervalCases

namespace BioAuth

/-- So many values, each with one spelling, have one spelling. -/
theorem Parse.Spells.times {ε α : Type} {p : Parse ε α} {admits : α → Prop} {spell : α → Bytes}
    (spells : Spells p admits spell) (count : Nat) :
    Spells (Fallible.times p count) (fun values => values.length = count ∧ ∀ a ∈ values, admits a)
      (List.flatMap spell) := by
  induction count with
  | zero =>
    intro s values t
    constructor
    · intro run
      cases run
      exact ⟨⟨rfl, by simp⟩, rfl⟩
    · rintro ⟨⟨none, _⟩, rfl⟩
      rw [List.length_eq_zero_iff.mp none]
      rfl
  | succ count ih =>
    intro s values t
    rw [Fallible.times, spells.bind_eq_ok]
    simp only [ih.bind_eq_ok, Fallible.pure_eq_ok]
    constructor
    · rintro ⟨a, _, ⟨admitted, rfl⟩, rest, _, ⟨⟨length, all⟩, rfl⟩, rfl, rfl⟩
      exact ⟨⟨congrArg (· + 1) length, List.forall_mem_cons.mpr ⟨admitted, all⟩⟩, by simp⟩
    · rintro ⟨⟨length, all⟩, rfl⟩
      cases values with
      | nil => cases length
      | cons a rest =>
        obtain ⟨admitted, others⟩ := List.forall_mem_cons.mp all
        exact ⟨a, rest.flatMap spell ++ t, ⟨admitted, by simp⟩, rest, t, ⟨⟨Nat.succ.inj length, others⟩, rfl⟩, rfl, rfl⟩

/-! CBOR with maps, in the canonical form of CTAP2: the shortest heads, and the keys of a map in order. -/

namespace CanonicalCbor

inductive Item
  | int (value : Int)
  | bytes (value : Bytes)
  | text (value : String)
  | map (entries : List (Item × Item))

def majorMap : Nat := 5

/-- The order of keys: by their major types, then the shorter first, then by their octets. -/
def KeyBefore (a b : Bytes) : Prop :=
  (a.headD 0).toNat / 32 < (b.headD 0).toNat / 32 ∨
    (a.headD 0).toNat / 32 = (b.headD 0).toNat / 32 ∧ (a.length < b.length ∨ a.length = b.length ∧ a < b)

instance : DecidableRel KeyBefore := fun a b =>
  inferInstanceAs (Decidable ((a.headD 0).toNat / 32 < (b.headD 0).toNat / 32 ∨
    (a.headD 0).toNat / 32 = (b.headD 0).toNat / 32 ∧ (a.length < b.length ∨ a.length = b.length ∧ a < b)))

namespace Item

def encode : Item → Bytes
  | int value =>
    if 0 ≤ value then Writer.head majorUint (UInt64.ofNat value.toNat)
    else Writer.head majorNegint (UInt64.ofNat (-1 - value).toNat)
  | bytes value => Writer.bytes value
  | text value => Writer.text value
  | map entries =>
    Writer.head majorMap (UInt64.ofNat entries.length) ++ entries.flatMap fun entry => entry.1.encode ++ entry.2.encode
decreasing_by
  all_goals
    have smaller := List.sizeOf_lt_of_mem ‹entry ∈ entries›
    have parts : sizeOf entry = 1 + sizeOf entry.1 + sizeOf entry.2 := rfl
    simp only [map.sizeOf_spec]
    omega

/-- Each key of a map before the ones behind it. -/
def Sorted (entries : List (Item × Item)) : Prop :=
  entries.Pairwise fun a b => KeyBefore a.1.encode b.1.encode

instance (entries : List (Item × Item)) : Decidable (Sorted entries) :=
  inferInstanceAs (Decidable (entries.Pairwise fun a b => KeyBefore a.1.encode b.1.encode))

/-- An item that CTAP2 can say: of no more levels than these, with numbers and lengths that a head can hold, and the
keys of each map in order. -/
def Fits : Nat → Item → Prop
  | 0, _ => False
  | _ + 1, int value => -2 ^ 64 ≤ value ∧ value < 2 ^ 64
  | _ + 1, bytes value => value.length < 2 ^ 64
  | _ + 1, text value => (utf8 value).length < 2 ^ 64
  | levels + 1, map entries =>
    entries.length < 2 ^ 64 ∧ (∀ entry ∈ entries, entry.1.Fits levels ∧ entry.2.Fits levels) ∧ Sorted entries

/-- What a map has under a key. -/
def field (item key : Item) : Option Item :=
  match item with
  | map entries => (entries.find? fun entry => entry.1.encode = key.encode).map Prod.snd
  | _ => none

end Item

/-- What a strict CTAP2 reader takes for an item. -/
def read : Nat → Parse CborError Item
  | 0 => throw .unsupportedItem
  | levels + 1 => do
    let (major, argument) ← Reader.head
    if major = majorUint then
      return .int argument.toNat
    else if major = majorNegint then
      return .int (-1 - argument.toNat)
    else if major = majorBytes then
      return .bytes (← Reader.take argument.toNat)
    else if major = majorText then
      match fromUtf8 (← Reader.take argument.toNat) with
      | some text => return .text text
      | none => throw .invalidUtf8
    else if major = majorMap then
      let entries ← Fallible.times (do return (← read levels, ← read levels)) argument.toNat
      require (Item.Sorted entries) CborError.unsupportedItem
      return .map entries
    else
      throw .unsupportedItem

section Fields

theorem keyBefore_irrefl (key : Bytes) : ¬KeyBefore key key := by
  rintro (less | ⟨_, less | ⟨_, less⟩⟩)
  · exact less.ne rfl
  · exact less.ne rfl
  · exact List.lt_irrefl key less

/-- What is in a map is found under its key. -/
theorem field_of_mem {entries : List (Item × Item)} (sorted : Item.Sorted entries) {key value : Item}
    (member : (key, value) ∈ entries) : (Item.map entries).field key = some value := by
  have found : entries.find? (fun entry => entry.1.encode = key.encode) = some (key, value) := by
    induction entries with
    | nil => cases member
    | cons entry entries ih =>
      obtain ⟨first, others⟩ := List.pairwise_cons.mp sorted
      rcases List.mem_cons.mp member with rfl | later
      · exact List.find?_cons_of_pos (decide_eq_true rfl)
      · have before := first _ later
        have apart : entry.1.encode ≠ key.encode := by
          intro same
          rw [same] at before
          exact keyBefore_irrefl _ before
        rw [List.find?_cons_of_neg (by simpa using apart)]
        exact ih others later
  exact congrArg (Option.map Prod.snd) found

end Fields

section Heads

/-- The heads that CBOR has for an argument, each in one of five widths. -/
inductive Head (major argument : Nat) : Bytes → Prop
  | inline : argument < 24 → Head major argument [UInt8.ofNat (32 * major + argument)]
  | wide (power : Nat) : power < 4 → argument < 256 ^ 2 ^ power →
      Head major argument (UInt8.ofNat (32 * major + (24 + power)) :: BigEndian.encode (2 ^ power) argument)

theorem head_is (major : Nat) (argument : UInt64) : Head major argument.toNat (Writer.head major argument) := by
  have bound := argument.toNat_lt
  unfold Writer.head
  dsimp only
  split
  · exact .inline (by omega)
  split
  · exact .wide 0 (by decide) (by omega)
  split
  · exact .wide 1 (by decide) (by omega)
  split
  · exact .wide 2 (by decide) (by omega)
  · exact .wide 3 (by decide) (by omega)

/-- No head of an argument is shorter than the one that is written. -/
theorem head_shortest {major : Nat} {argument : UInt64} {bytes : Bytes} (other : Head major argument.toNat bytes) :
    (Writer.head major argument).length ≤ bytes.length := by
  have length : (Writer.head major argument).length =
      if argument.toNat ≤ 23 then 1 else if argument.toNat ≤ 0xff then 2 else if argument.toNat ≤ 0xffff then 3
        else if argument.toNat ≤ 0xffff_ffff then 5 else 9 := by
    unfold Writer.head
    dsimp only
    split_ifs <;> simp
  rw [length]
  cases other with
  | inline small =>
    rw [if_pos (by omega)]
    rfl
  | wide power few fits =>
    rw [List.length_cons, BigEndian.encode_length]
    interval_cases power <;> split_ifs <;> omega

end Heads

section Spelling

theorem encode_unsigned (argument : UInt64) : (Item.int argument.toNat).encode = Writer.head majorUint argument := by
  rw [Item.encode, if_pos (Int.natCast_nonneg _), Int.toNat_natCast, UInt64.ofNat_toNat]

theorem encode_negative (argument : UInt64) :
    (Item.int (-1 - argument.toNat)).encode = Writer.head majorNegint argument := by
  have value : -1 - (-1 - (argument.toNat : Int)) = argument.toNat := by omega
  rw [Item.encode, if_neg (by omega), value, Int.toNat_natCast, UInt64.ofNat_toNat]

/-- An integer in range is the value of one head. -/
theorem int_cases {value : Int} (low : -2 ^ 64 ≤ value) (high : value < 2 ^ 64) :
    ∃ argument : UInt64, value = argument.toNat ∨ value = -1 - argument.toNat := by
  by_cases sign : 0 ≤ value
  · refine ⟨UInt64.ofNat value.toNat, Or.inl ?_⟩
    rw [UInt64.toNat_ofNat_of_lt' (show value.toNat < 2 ^ 64 by omega)]
    omega
  · refine ⟨UInt64.ofNat (-1 - value).toNat, Or.inr ?_⟩
    rw [UInt64.toNat_ofNat_of_lt' (show (-1 - value).toNat < 2 ^ 64 by omega)]
    omega

/-- One entry of a map. -/
def readEntry (levels : Nat) : Parse CborError (Item × Item) := do return (← read levels, ← read levels)

theorem readEntry_spells {levels : Nat} (spells : Parse.Spells (read levels) (Item.Fits levels) Item.encode) :
    Parse.Spells (readEntry levels) (fun entry => entry.1.Fits levels ∧ entry.2.Fits levels)
      fun entry => entry.1.encode ++ entry.2.encode := by
  intro s entry t
  unfold readEntry
  simp only [spells.bind_eq_ok, Fallible.pure_eq_ok]
  constructor
  · rintro ⟨key, _, ⟨first, rfl⟩, value, _, ⟨second, rfl⟩, rfl, rfl⟩
    exact ⟨⟨first, second⟩, (List.append_assoc _ _ _).symm⟩
  · rintro ⟨⟨first, second⟩, rfl⟩
    exact ⟨entry.1, entry.2.encode ++ t, ⟨first, List.append_assoc _ _ _⟩, entry.2, t, ⟨second, rfl⟩, rfl, rfl⟩

/-- A strict reader takes each item from its canonical spelling and from no other. -/
theorem read_spells (levels : Nat) : Parse.Spells (read levels) (Item.Fits levels) Item.encode := by
  induction levels with
  | zero =>
    intro s item t
    constructor
    · intro run
      cases run
    · rintro ⟨none, _⟩
      exact none.elim
  | succ levels ih =>
    intro s item t
    rw [read, Reader.head_spells.bind_eq_ok]
    constructor
    · rintro ⟨⟨major, argument⟩, rest, ⟨small, rfl⟩, run⟩
      have bound := argument.toNat_lt
      dsimp only at run
      split at run
      · rename_i uint
        cases run
        exact ⟨⟨by omega, by exact_mod_cast bound⟩, by rw [encode_unsigned, uint]⟩
      split at run
      · rename_i negint
        cases run
        exact ⟨⟨by omega, by omega⟩, by rw [encode_negative, negint]⟩
      split at run
      · rename_i octets
        obtain ⟨value, _, taken, done⟩ := Fallible.bind_eq_ok.mp run
        clear run
        obtain ⟨length, rfl⟩ := Parse.take_eq_ok.mp taken
        cases done
        refine ⟨by rw [Item.Fits, length]; exact bound, ?_⟩
        rw [Item.encode, Writer.bytes, length, UInt64.ofNat_toNat, octets, List.append_assoc]
      split at run
      · rename_i text
        obtain ⟨octets, _, taken, done⟩ := Fallible.bind_eq_ok.mp run
        clear run
        obtain ⟨length, rfl⟩ := Parse.take_eq_ok.mp taken
        rcases spelled : fromUtf8 octets with _ | value
        · rw [spelled] at done
          cases done
        · rw [spelled] at done
          cases done
          rw [fromUtf8_eq_some.mp spelled] at length ⊢
          refine ⟨by rw [Item.Fits, length]; exact bound, ?_⟩
          rw [Item.encode, Writer.text, length, UInt64.ofNat_toNat, text, List.append_assoc]
      split at run
      · rename_i map
        obtain ⟨entries, mid, taken, checks⟩ := Fallible.bind_eq_ok.mp run
        clear run
        obtain ⟨⟨length, all⟩, rfl⟩ := ((readEntry_spells ih).times _ _ _ _).mp taken
        obtain ⟨_, _, check, done⟩ := Fallible.bind_eq_ok.mp checks
        clear checks
        obtain ⟨sorted, rfl⟩ := Fallible.require_eq_ok.mp check
        cases done
        refine ⟨⟨by rw [length]; exact bound, all, sorted⟩, ?_⟩
        rw [Item.encode, length, UInt64.ofNat_toNat, map, List.append_assoc]
      · cases run
    · rintro ⟨fits, rfl⟩
      cases item with
      | int value =>
        obtain ⟨argument, rfl | rfl⟩ := int_cases fits.1 fits.2
        · exact ⟨(majorUint, argument), t, ⟨(by decide : majorUint < 8), by rw [encode_unsigned]⟩, rfl⟩
        · exact ⟨(majorNegint, argument), t, ⟨(by decide : majorNegint < 8), by rw [encode_negative]⟩, rfl⟩
      | bytes value =>
        have length : (UInt64.ofNat value.length).toNat = value.length := UInt64.toNat_ofNat_of_lt' fits
        refine ⟨(majorBytes, UInt64.ofNat value.length), value ++ t, ⟨(by decide : majorBytes < 8), ?_⟩, ?_⟩
        · rw [Item.encode, Writer.bytes, List.append_assoc]
        · exact Fallible.bind_eq_ok.mpr ⟨value, t, Parse.take_eq_ok.mpr ⟨length.symm, rfl⟩, rfl⟩
      | text value =>
        have length : (UInt64.ofNat (utf8 value).length).toNat = (utf8 value).length := UInt64.toNat_ofNat_of_lt' fits
        refine ⟨(majorText, UInt64.ofNat (utf8 value).length), utf8 value ++ t, ⟨(by decide : majorText < 8), ?_⟩, ?_⟩
        · rw [Item.encode, Writer.text, List.append_assoc]
        · refine Fallible.bind_eq_ok.mpr ⟨utf8 value, t, Parse.take_eq_ok.mpr ⟨length.symm, rfl⟩, ?_⟩
          rw [fromUtf8_utf8]
          rfl
      | map entries =>
        obtain ⟨few, all, sorted⟩ := fits
        have length : (UInt64.ofNat entries.length).toNat = entries.length := UInt64.toNat_ofNat_of_lt' few
        refine ⟨(majorMap, UInt64.ofNat entries.length),
          (entries.flatMap fun entry => entry.1.encode ++ entry.2.encode) ++ t, ⟨(by decide : majorMap < 8), ?_⟩, ?_⟩
        · rw [Item.encode, List.append_assoc]
        · have taken := ((readEntry_spells ih).times entries.length _ entries t).mpr ⟨⟨rfl, all⟩, rfl⟩
          refine Fallible.bind_eq_ok.mpr ⟨entries, t, ?_, ?_⟩
          · rw [length]
            exact taken
          · exact Fallible.bind_eq_ok.mpr ⟨(), t, Fallible.require_eq_ok.mpr ⟨sorted, rfl⟩, rfl⟩

end Spelling

end CanonicalCbor

end BioAuth
