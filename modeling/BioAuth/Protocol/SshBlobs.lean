import BioAuth.Lib.SignedBigEndian
import BioAuth.Protocol.Ssh
import Mathlib.Data.Nat.Bitwise

namespace BioAuth.Protocol.Ssh
open BigEndian (strip)
open SignedBigEndian (Minimal spell)

section Mpint

theorem high_bit (byte : UInt8) : byte &&& 0x80 ≠ 0 ↔ 0x80 ≤ byte.toNat := by
  have bound := byte.toNat_lt
  have number : (byte &&& 0x80).toNat = (byte.toNat.testBit 7).toNat * 2 ^ 7 := by
    rw [UInt8.toNat_and]
    exact Nat.and_two_pow _ 7
  rw [Ne, ← UInt8.toNat_inj, number, Nat.testBit_eq_decide_div_mod_eq]
  by_cases high : 0x80 ≤ byte.toNat
  · have set : byte.toNat / 2 ^ 7 % 2 = 1 := by omega
    rw [decide_eq_true set]
    exact iff_of_true (by decide) high
  · have clear : ¬byte.toNat / 2 ^ 7 % 2 = 1 := by omega
    rw [decide_eq_false clear]
    exact iff_of_false (by decide) high

/-- A scalar is written as the minimal spelling of its number. -/
theorem mpint_eq (value : Bytes) : mpint value = string (spell value) := by
  unfold mpint spell strip
  generalize List.dropWhile _ value = digits
  rcases digits with _ | ⟨first, rest⟩
  · rfl
  · dsimp only
    by_cases high : 0x80 ≤ first.toNat
    · rw [if_pos ((high_bit first).mpr high), if_pos high]
      rfl
    · rw [if_neg fun set => high ((high_bit first).mp set), if_neg high]

end Mpint

section Signature

/-- What a signature blob of two scalars is. -/
def signatureBlob (r s : Bytes) : Bytes := text ecdsaP256Name ++ string (string r ++ string s)

/-- A blob in order: it holds two scalars that are short enough. -/
structure Holds (blob r s : Bytes) : Prop where
  blob : blob = signatureBlob r s
  fits : (string r ++ string s).length ≤ maxFieldBytes
  left : (strip r).length ≤ scalarLen
  right : (strip s).length ≤ scalarLen

theorem decodeScalar_eq_ok {scalar raw : Bytes} :
    decodeScalar scalar = .ok raw ↔
      (strip scalar).length ≤ scalarLen ∧ raw = BigEndian.encode scalarLen (BigEndian.decode scalar) := by
  unfold decodeScalar
  simp only [except_bind_eq_ok, except_require_eq_ok, except_pure_eq_ok, exists_const]
  refine and_congr_right fun short => ?_
  rw [← BigEndian.pad_strip short, eq_comm]
  rfl

theorem name_short : (utf8 ecdsaP256Name).length ≤ maxFieldBytes := by decide +kernel

theorem readSignature_eq_ok {blob inner : Bytes} :
    (readSignature blob).1 = .ok inner ↔ inner.length ≤ maxFieldBytes ∧ blob = text ecdsaP256Name ++ string inner := by
  constructor
  · intro read
    have run := Fallible.run_of_fst read
    simp only [readSignature, readText_spells.bind_eq_ok, readString_spells.bind_eq_ok, Fallible.bind_eq_ok,
      Fallible.require_eq_ok, finish_eq_ok, Fallible.pure_eq_ok] at run
    obtain ⟨_, _, ⟨_, rfl⟩, _, _, ⟨rfl, rfl⟩, _, _, ⟨fits, rfl⟩, _, _, ⟨rfl, rfl⟩, rfl, -⟩ := run
    rw [List.append_nil]
    exact ⟨fits, rfl⟩
  · rintro ⟨fits, rfl⟩
    have run : readSignature (text ecdsaP256Name ++ string inner) = (.ok inner, []) := by
      simp only [readSignature, readText_spells.bind_eq_ok, readString_spells.bind_eq_ok, Fallible.bind_eq_ok,
        Fallible.require_eq_ok, finish_eq_ok, Fallible.pure_eq_ok]
      exact ⟨_, _, ⟨name_short, rfl⟩, (), _, ⟨rfl, rfl⟩, _, _, ⟨fits, (List.append_nil _).symm⟩, (), _, ⟨rfl, rfl⟩, rfl, rfl⟩
    rw [run]

theorem readScalars_eq_ok {inner r s : Bytes} :
    (readScalars inner).1 = .ok (r, s) ↔
      r.length ≤ maxFieldBytes ∧ s.length ≤ maxFieldBytes ∧ inner = string r ++ string s := by
  constructor
  · intro read
    have run := Fallible.run_of_fst read
    simp only [readScalars, readString_spells.bind_eq_ok, Fallible.bind_eq_ok, finish_eq_ok, Fallible.pure_eq_ok,
      Prod.mk.injEq] at run
    obtain ⟨_, _, ⟨left, rfl⟩, _, _, ⟨right, rfl⟩, _, _, ⟨rfl, rfl⟩, ⟨rfl, rfl⟩, -⟩ := run
    rw [List.append_nil]
    exact ⟨left, right, rfl⟩
  · rintro ⟨left, right, rfl⟩
    have run : readScalars (string r ++ string s) = (.ok (r, s), []) := by
      simp only [readScalars, readString_spells.bind_eq_ok, Fallible.bind_eq_ok, finish_eq_ok, Fallible.pure_eq_ok]
      exact ⟨_, _, ⟨left, rfl⟩, _, _, ⟨right, (List.append_nil _).symm⟩, (), _, ⟨rfl, rfl⟩, rfl, rfl⟩
    rw [run]

theorem decodeSignature_eq_ok {blob raw : Bytes} :
    decodeSignature blob = .ok raw ↔ ∃ r s, Holds blob r s ∧
      raw = BigEndian.encode scalarLen (BigEndian.decode r) ++ BigEndian.encode scalarLen (BigEndian.decode s) := by
  unfold decodeSignature
  simp only [except_bind_eq_ok, except_pure_eq_ok, decodeScalar_eq_ok, readSignature_eq_ok]
  constructor
  · rintro ⟨inner, ⟨fits, same⟩, ⟨r, s⟩, parts, first, ⟨left, atFirst⟩, second, ⟨right, atSecond⟩, whole⟩
    obtain ⟨-, -, rfl⟩ := readScalars_eq_ok.mp parts
    rw [atFirst, atSecond] at whole
    exact ⟨r, s, ⟨same, fits, left, right⟩, whole.symm⟩
  · rintro ⟨r, s, holds, whole⟩
    have fits := holds.fits
    simp only [string, List.length_append] at fits
    refine ⟨string r ++ string s, ⟨holds.fits, holds.blob⟩, (r, s), readScalars_eq_ok.mpr ⟨by omega, by omega, rfl⟩, ?_⟩
    exact ⟨_, ⟨holds.left, rfl⟩, _, ⟨holds.right, rfl⟩, whole.symm⟩

theorem encodeSignature_eq_ok {raw blob : Bytes} :
    encodeSignature raw = .ok blob ↔ raw.length = scalarLen * 2 ∧
      blob = signatureBlob (spell (raw.take scalarLen)) (spell (raw.drop scalarLen)) := by
  unfold encodeSignature
  simp only [except_bind_eq_ok, except_require_eq_ok, except_pure_eq_ok, exists_const, mpint_eq, @eq_comm _ blob]
  rfl

/-- A blob in order is read as a signature, which is written with minimal scalars. -/
theorem Holds.encode {blob r s : Bytes} (holds : Holds blob r s) :
    encodeSignature (BigEndian.encode scalarLen (BigEndian.decode r) ++ BigEndian.encode scalarLen (BigEndian.decode s)) =
      .ok (signatureBlob (spell r) (spell s)) := by
  have again {scalar : Bytes} (short : (strip scalar).length ≤ scalarLen) :
      spell (BigEndian.encode scalarLen (BigEndian.decode scalar)) = spell scalar := by
    have bound := BigEndian.decode_lt (strip scalar)
    rw [BigEndian.decode_strip] at bound
    exact SignedBigEndian.spell_congr (BigEndian.decode_encode_of_lt (bound.trans_le (Nat.pow_le_pow_right (by decide) short)))
  have width (n : Nat) : (BigEndian.encode scalarLen n).length = scalarLen := BigEndian.encode_length _ _
  refine encodeSignature_eq_ok.mpr ⟨?_, ?_⟩
  · rw [List.length_append, width, width]
    rfl
  · rw [List.take_left' (width _), List.drop_left' (width _), again holds.left, again holds.right]

theorem spell_short {scalar : Bytes} (short : (strip scalar).length ≤ scalarLen) : (spell scalar).length ≤ 33 := by
  have length := SignedBigEndian.length_spell_le scalar
  have width : scalarLen = 32 := rfl
  omega

theorem holds_spelled {r s : Bytes} (left : (strip r).length ≤ scalarLen) (right : (strip s).length ≤ scalarLen) :
    Holds (signatureBlob (spell r) (spell s)) (spell r) (spell s) where
  blob := rfl
  fits := by
    have shortR := spell_short left
    have shortS := spell_short right
    have most : maxFieldBytes = 65536 := rfl
    simp only [string, uint32, List.length_append, BigEndian.encode_length]
    omega
  left := by rwa [SignedBigEndian.strip_spell]
  right := by rwa [SignedBigEndian.strip_spell]

/-- A blob in order holds no other scalars. -/
theorem signatureBlob_injective {r s r' s' : Bytes} (left : r.length ≤ maxFieldBytes) (right : s.length ≤ maxFieldBytes)
    (left' : r'.length ≤ maxFieldBytes) (right' : s'.length ≤ maxFieldBytes)
    (same : signatureBlob r s = signatureBlob r' s') : r = r' ∧ s = s' := by
  have most : maxFieldBytes < 256 ^ 4 := by decide
  have sizes {a b : Bytes} (first : a.length ≤ maxFieldBytes) (second : b.length ≤ maxFieldBytes) :
      (string a ++ string b).length < 256 ^ 4 := by
    have top : maxFieldBytes = 65536 := rfl
    simp only [string, uint32, List.length_append, BigEndian.encode_length]
    omega
  have inner := List.append_cancel_left same
  rw [← List.append_nil (string (string r ++ string s)), ← List.append_nil (string (string r' ++ string s'))] at inner
  obtain ⟨parts, -⟩ := string_injective (sizes left right) (sizes left' right') inner
  obtain ⟨rfl, rest⟩ := string_injective (left.trans_lt most) (left'.trans_lt most) parts
  rw [← List.append_nil (string s), ← List.append_nil (string s')] at rest
  exact ⟨rfl, (string_injective (right.trans_lt most) (right'.trans_lt most) rest).1⟩

theorem Holds.short {blob r s : Bytes} (holds : Holds blob r s) : r.length ≤ maxFieldBytes ∧ s.length ≤ maxFieldBytes := by
  have fits := holds.fits
  simp only [string, List.length_append] at fits
  omega

/-- The signature that a blob is read as is written as that blob just when both scalars are minimal. -/
theorem Holds.canonical {blob r s : Bytes} (holds : Holds blob r s) :
    signatureBlob (spell r) (spell s) = blob ↔ Minimal r ∧ Minimal s := by
  rw [← SignedBigEndian.spell_eq_iff, ← SignedBigEndian.spell_eq_iff, holds.blob]
  have shortR := spell_short holds.left
  have shortS := spell_short holds.right
  have most : maxFieldBytes = 65536 := rfl
  constructor
  · exact signatureBlob_injective (by omega) (by omega) holds.short.1 holds.short.2
  · rintro ⟨left, right⟩
    rw [left, right]

theorem decode_encodeSignature {raw : Bytes} (whole : raw.length = scalarLen * 2) :
    ∃ blob, encodeSignature raw = .ok blob ∧ decodeSignature blob = .ok raw := by
  have left : (raw.take scalarLen).length = scalarLen := List.length_take_of_le (by omega)
  have right : (raw.drop scalarLen).length = scalarLen := by
    rw [List.length_drop]
    omega
  refine ⟨_, encodeSignature_eq_ok.mpr ⟨whole, rfl⟩, decodeSignature_eq_ok.mpr ⟨_, _, holds_spelled ?_ ?_, ?_⟩⟩
  · exact (BigEndian.strip_length_le _).trans left.le
  · exact (BigEndian.strip_length_le _).trans right.le
  · have first := BigEndian.encode_decode (raw.take scalarLen)
    have second := BigEndian.encode_decode (raw.drop scalarLen)
    rw [left] at first
    rw [right] at second
    rw [SignedBigEndian.decode_spell, SignedBigEndian.decode_spell, first, second, List.take_append_drop]

theorem encode_decodeSignature_iff {blob : Bytes} :
    (∀ raw, decodeSignature blob = .ok raw → encodeSignature raw = .ok blob) ↔
      ∀ r s, Holds blob r s → Minimal r ∧ Minimal s := by
  constructor
  · intro canonical r s holds
    have written := canonical _ (decodeSignature_eq_ok.mpr ⟨r, s, holds, rfl⟩)
    rw [holds.encode] at written
    exact holds.canonical.mp (Except.ok.inj written)
  · intro minimal raw read
    obtain ⟨r, s, holds, same⟩ := decodeSignature_eq_ok.mp read
    rw [same, holds.encode, holds.canonical.mpr (minimal r s holds)]

end Signature

section PublicKey

/-- A key is read out of exactly the blob that it is written as. -/
theorem decodePublicKey_eq_ok {blob point : Bytes} : decodePublicKey blob = .ok point ↔ encodePublicKey point = .ok blob := by
  have curve : (utf8 ecdsaP256Curve).length ≤ maxFieldBytes := by decide +kernel
  have most : uncompressedPointLen ≤ maxFieldBytes := by decide
  rw [encodePublicKey_eq_ok, decodePublicKey]
  constructor
  · intro read
    have run := Fallible.run_of_fst read
    simp only [readPublicKey, readText_spells.bind_eq_ok, readString_spells.bind_eq_ok, Fallible.bind_eq_ok,
      Fallible.require_eq_ok, finish_eq_ok, Fallible.pure_eq_ok] at run
    obtain ⟨_, _, ⟨_, rfl⟩, _, _, ⟨rfl, rfl⟩, _, _, ⟨_, rfl⟩, _, _, ⟨rfl, rfl⟩, _, _, ⟨_, rfl⟩, _, _, ⟨rfl, rfl⟩,
      _, _, ⟨shape, rfl⟩, rfl, -⟩ := run
    rw [List.append_nil, List.append_assoc]
    exact ⟨shape, rfl⟩
  · rintro ⟨shape, rfl⟩
    have run : readPublicKey (text ecdsaP256Name ++ text ecdsaP256Curve ++ string point) = (.ok point, []) := by
      rw [List.append_assoc]
      simp only [readPublicKey, readText_spells.bind_eq_ok, readString_spells.bind_eq_ok, Fallible.bind_eq_ok,
        Fallible.require_eq_ok, finish_eq_ok, Fallible.pure_eq_ok]
      exact ⟨_, _, ⟨name_short, rfl⟩, (), _, ⟨rfl, rfl⟩, _, _, ⟨curve, rfl⟩, (), _, ⟨rfl, rfl⟩, _, _,
        ⟨shape.1.trans_le most, (List.append_nil _).symm⟩, (), _, ⟨rfl, rfl⟩, (), _, ⟨shape, rfl⟩, rfl, rfl⟩
    rw [run]

end PublicKey

/-- A scalar is written as the only minimal spelling of its number, a signature and a key are read back, and a blob is what
its signature is written as just when it spells both scalars minimally. -/
theorem ssh_blobs_canonical_iff (blob : Bytes) :
    (∀ value, ∃ scalar, mpint value = string scalar ∧ Minimal scalar ∧
      SignedBigEndian.decode scalar = BigEndian.decode value ∧
      ∀ other, SignedBigEndian.decode other = BigEndian.decode value → other = scalar ∨ scalar.length < other.length) ∧
    (∀ raw, raw.length = scalarLen * 2 → ∃ blob, encodeSignature raw = .ok blob ∧ decodeSignature blob = .ok raw) ∧
    (∀ point, decodePublicKey blob = .ok point ↔ encodePublicKey point = .ok blob) ∧
    ((∀ raw, decodeSignature blob = .ok raw → encodeSignature raw = .ok blob) ↔
      ∀ r s, Holds blob r s → Minimal r ∧ Minimal s) := by
  refine ⟨fun value => ⟨spell value, mpint_eq value, SignedBigEndian.spell_minimal value, ?_, ?_⟩,
    fun raw => decode_encodeSignature, fun point => decodePublicKey_eq_ok, encode_decodeSignature_iff⟩
  · rw [(SignedBigEndian.spell_minimal value).decode, SignedBigEndian.decode_spell]
  · exact fun other => SignedBigEndian.eq_spell_or_length_lt

theorem ssh_blobs_canonical_iff_high :
    ∃ blob, encodeSignature (List.replicate 64 0xff) = .ok blob ∧ decodeSignature blob = .ok (List.replicate 64 0xff) :=
  (ssh_blobs_canonical_iff []).2.1 _ (by decide)

/-- A scalar with a zero to spare is accepted, and one with the sign of a negative number. -/
theorem ssh_blobs_lenient :
    (∃ raw, decodeSignature (signatureBlob [0, 1] [1]) = .ok raw ∧ encodeSignature raw ≠ .ok (signatureBlob [0, 1] [1])) ∧
    ∃ raw, decodeSignature (signatureBlob [0x80] [1]) = .ok raw ∧ encodeSignature raw ≠ .ok (signatureBlob [0x80] [1]) :=
  ⟨⟨List.replicate 31 0 ++ 1 :: (List.replicate 31 0 ++ [1]), by decide +kernel, by decide +kernel⟩,
    ⟨List.replicate 31 0 ++ 0x80 :: (List.replicate 31 0 ++ [1]), by decide +kernel, by decide +kernel⟩⟩

end BioAuth.Protocol.Ssh
