import BioAuth.Lib.BigEndian
import Mathlib.Tactic.Linarith

namespace BioAuth

namespace BigEndian

theorem decode_cons (byte : UInt8) (bytes : Bytes) : decode (byte :: bytes) = 256 ^ bytes.length * byte.toNat + decode bytes := by
  have split := decode_append [byte] bytes
  rwa [List.singleton_append, show decode [byte] = byte.toNat by simp [decode]] at split

theorem decode_zeros (count : Nat) (bytes : Bytes) : decode (List.replicate count 0 ++ bytes) = decode bytes := by
  induction count with
  | zero => rfl
  | succ count ih =>
    rw [List.replicate_succ, List.cons_append, decode_cons, ih]
    simp

/-- The octets of a number from the first that is not zero on. -/
def strip (bytes : Bytes) : Bytes := bytes.dropWhile fun byte => byte = 0

theorem strip_zeros (bytes : Bytes) : ∃ count, bytes = List.replicate count 0 ++ strip bytes := by
  induction bytes with
  | nil => exact ⟨0, rfl⟩
  | cons byte bytes ih =>
    by_cases zero : byte = 0
    · obtain ⟨count, same⟩ := ih
      refine ⟨count + 1, ?_⟩
      rw [strip, List.dropWhile_cons_of_pos (by simpa using zero), List.replicate_succ, List.cons_append, zero]
      exact congrArg (List.cons 0) same
    · exact ⟨0, by rw [strip, List.dropWhile_cons_of_neg (by simpa using zero)]; rfl⟩

theorem strip_head {bytes rest : Bytes} {first : UInt8} (stripped : strip bytes = first :: rest) : first ≠ 0 := by
  have front := List.head_dropWhile_not (fun byte : UInt8 => decide (byte = 0)) (l := bytes)
  intro zero
  unfold strip at stripped
  have bad := front (by rw [stripped]; exact List.cons_ne_nil _ _)
  simp only [stripped, List.head_cons, zero] at bad
  cases bad

@[simp] theorem decode_strip (bytes : Bytes) : decode (strip bytes) = decode bytes := by
  obtain ⟨count, same⟩ := strip_zeros bytes
  conv_rhs => rw [same, decode_zeros]

theorem strip_length_le (bytes : Bytes) : (strip bytes).length ≤ bytes.length :=
  (List.dropWhile_sublist _).length_le

/-- A number without leading zeros is as long as it must be. -/
theorem pow_le_decode_strip {bytes rest : Bytes} {first : UInt8} (stripped : strip bytes = first :: rest) :
    256 ^ rest.length ≤ decode bytes := by
  have nonzero : first.toNat ≠ 0 := fun zero => strip_head stripped (UInt8.toNat.inj zero)
  rw [← decode_strip, stripped, decode_cons]
  exact Nat.le_add_right_of_le (Nat.le_mul_of_pos_right _ (Nat.pos_of_ne_zero nonzero))

theorem strip_length_le_of_decode_le {a b : Bytes} (below : decode a ≤ decode b) : (strip a).length ≤ (strip b).length := by
  rcases stripped : strip a with _ | ⟨first, rest⟩
  · exact Nat.zero_le _
  · have bound := decode_lt (strip b)
    have low := pow_le_decode_strip stripped
    rw [decode_strip] at bound
    exact (Nat.pow_lt_pow_iff_right (by decide)).mp (low.trans_lt (below.trans_lt bound))

/-- Two spellings of one number differ in their leading zeros. -/
theorem strip_eq_iff {a b : Bytes} : strip a = strip b ↔ decode a = decode b := by
  constructor
  · intro same
    rw [← decode_strip a, same, decode_strip]
  · intro same
    have lengths := Nat.le_antisymm (strip_length_le_of_decode_le same.le) (strip_length_le_of_decode_le same.ge)
    rw [← encode_decode (strip a), ← encode_decode (strip b), lengths, decode_strip, decode_strip, same]

/-- Leading zeros up to a width spell the number in that width. -/
theorem pad_strip {bytes : Bytes} {width : Nat} (short : (strip bytes).length ≤ width) :
    List.replicate (width - (strip bytes).length) 0 ++ strip bytes = encode width (decode bytes) := by
  have whole : (List.replicate (width - (strip bytes).length) 0 ++ strip bytes).length = width := by
    rw [List.length_append, List.length_replicate]
    omega
  have spelled := encode_decode (List.replicate (width - (strip bytes).length) 0 ++ strip bytes)
  rw [whole, decode_zeros, decode_strip] at spelled
  exact spelled.symm

end BigEndian

/-! Integers in two's complement, most significant octet first, without a width of their own. -/

namespace SignedBigEndian
open BigEndian (strip)

/-- The number a string of octets spells: its top bit is a sign. -/
def decode : Bytes → Int
  | [] => 0
  | first :: rest =>
    if 0x80 ≤ first.toNat then BigEndian.decode (first :: rest) - 256 ^ (rest.length + 1)
    else BigEndian.decode (first :: rest)

/-- A spelling of a number that is not negative, with a leading zero just where the top bit would be a sign. -/
def Minimal : Bytes → Prop
  | [] => True
  | first :: rest => first.toNat < 0x80 ∧ (first = 0 → ∃ next ∈ rest.head?, 0x80 ≤ next.toNat)

instance : DecidablePred Minimal
  | [] => .isTrue trivial
  | first :: rest => inferInstanceAs (Decidable (first.toNat < 0x80 ∧ (first = 0 → ∃ next ∈ rest.head?, 0x80 ≤ next.toNat)))

/-- The minimal spelling of the number that the octets are without a sign. -/
def spell (magnitude : Bytes) : Bytes :=
  match strip magnitude with
  | [] => []
  | first :: rest => if 0x80 ≤ first.toNat then 0 :: first :: rest else first :: rest

theorem decode_cons (first : UInt8) (rest : Bytes) : decode (first :: rest) =
    if 0x80 ≤ first.toNat then (BigEndian.decode (first :: rest) : Int) - 256 ^ (rest.length + 1)
    else BigEndian.decode (first :: rest) := rfl

theorem decode_nonneg {bytes : Bytes} : 0 ≤ decode bytes ↔ decode bytes = BigEndian.decode bytes := by
  cases bytes with
  | nil => exact iff_of_true le_rfl rfl
  | cons first rest =>
    have bound : (BigEndian.decode (first :: rest) : Int) < 256 ^ (rest.length + 1) := by
      exact_mod_cast BigEndian.decode_lt (first :: rest)
    have unsigned : (0 : Int) ≤ BigEndian.decode (first :: rest) := Int.natCast_nonneg _
    rw [decode_cons]
    split
    · exact iff_of_false (by linarith) (by linarith)
    · exact iff_of_true unsigned rfl

theorem Minimal.decode {bytes : Bytes} (minimal : Minimal bytes) : decode bytes = BigEndian.decode bytes := by
  cases bytes with
  | nil => rfl
  | cons first rest => exact if_neg (by have := minimal.1; omega)

theorem spell_minimal (magnitude : Bytes) : Minimal (spell magnitude) := by
  unfold spell
  split
  · trivial
  · rename_i first rest stripped
    split
    · rename_i high
      exact ⟨by decide, fun _ => ⟨first, rfl, high⟩⟩
    · rename_i low
      exact ⟨by omega, fun zero => absurd zero (BigEndian.strip_head stripped)⟩

theorem strip_spell (magnitude : Bytes) : strip (spell magnitude) = strip magnitude := by
  unfold spell
  rcases stripped : strip magnitude with _ | ⟨first, rest⟩
  · rfl
  · have nonzero := BigEndian.strip_head stripped
    dsimp only
    split <;> simp [strip, nonzero]

@[simp] theorem decode_spell (magnitude : Bytes) : BigEndian.decode (spell magnitude) = BigEndian.decode magnitude :=
  BigEndian.strip_eq_iff.mp (strip_spell magnitude)

theorem spell_congr {a b : Bytes} (same : BigEndian.decode a = BigEndian.decode b) : spell a = spell b := by
  rw [spell, spell, BigEndian.strip_eq_iff.mpr same]

theorem length_spell_le (magnitude : Bytes) : (spell magnitude).length ≤ (strip magnitude).length + 1 := by
  unfold spell
  rcases strip magnitude with _ | ⟨first, rest⟩
  · exact Nat.zero_le _
  · dsimp only
    split <;> simp

/-- No spelling of a number is as short as its minimal one. -/
theorem eq_spell_or_length_lt {magnitude other : Bytes} (same : decode other = BigEndian.decode magnitude) :
    other = spell magnitude ∨ (spell magnitude).length < other.length := by
  have signed := decode_nonneg.mp (same ▸ Int.natCast_nonneg (BigEndian.decode magnitude))
  have stripped : strip other = strip magnitude := BigEndian.strip_eq_iff.mpr (by exact_mod_cast signed.symm.trans same)
  obtain ⟨count, zeros⟩ := BigEndian.strip_zeros other
  rw [stripped] at zeros
  unfold spell
  rcases shape : strip magnitude with _ | ⟨first, rest⟩
  · rcases other with _ | ⟨byte, bytes⟩
    · exact Or.inl rfl
    · exact Or.inr (Nat.succ_pos _)
  · rw [shape] at zeros
    dsimp only
    split
    · rename_i high
      rcases count with _ | _ | count
      · -- without a zero in front the top bit is a sign
        rw [List.replicate_zero, List.nil_append] at zeros
        rw [zeros, decode_cons, if_pos high] at signed
        have positive : (0 : Int) < 256 ^ (rest.length + 1) := Int.pow_pos (by decide)
        omega
      · exact Or.inl zeros
      · refine Or.inr ?_
        rw [zeros]
        simp only [List.length_append, List.length_replicate, List.length_cons]
        omega
    · rcases count with _ | count
      · exact Or.inl zeros
      · refine Or.inr ?_
        rw [zeros]
        simp only [List.length_append, List.length_replicate, List.length_cons]
        omega

/-- A spelling that is minimal is the one of its number. -/
theorem spell_eq_iff {bytes : Bytes} : spell bytes = bytes ↔ Minimal bytes := by
  constructor
  · intro same
    rw [← same]
    exact spell_minimal bytes
  · intro minimal
    rcases bytes with _ | ⟨first, rest⟩
    · rfl
    · obtain ⟨low, tight⟩ := minimal
      by_cases zero : first = 0
      · subst zero
        obtain ⟨next, head, high⟩ := tight rfl
        obtain ⟨more, rfl⟩ := List.head?_eq_some_iff.mp head
        have nonzero : next ≠ 0 := by
          rintro rfl
          exact absurd high (by decide)
        have stripped : strip (0 :: next :: more) = next :: more := by
          simp [strip, nonzero]
        rw [spell, stripped]
        exact if_pos high
      · have stripped : strip (first :: rest) = first :: rest := by
          simp [strip, zero]
        rw [spell, stripped]
        exact if_neg (by omega)

end SignedBigEndian

end BioAuth
