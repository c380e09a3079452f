import BioAuth.Lib.SignedBigEndian
import BioAuth.Native.CanonicalCbor
import BioAuth.Native.WebAuthnCore
import Mathlib.Data.Nat.Size

namespace BioAuth.Native
open BioAuth CanonicalCbor

/-- The prime of P-256. -/
def p256 : Nat := 2 ^ 256 - 2 ^ 224 + 2 ^ 192 + 2 ^ 96 - 1

/-- A P-256 public key, by the affine coordinates of its point. -/
@[ext] structure ECPublicKey where
  affineX : Nat
  affineY : Nat
  x_lt : affineX < p256
  y_lt : affineY < p256
  deriving DecidableEq

/-- `BigInteger.toByteArray` of a number that is not negative: two's complement, with a bit for the sign and no more
octets than that takes. -/
def toByteArray (value : Nat) : Bytes := BigEndian.encode (value.size / 8 + 1) value

/-- What `require` throws. -/
structure IllegalArgumentException where
  message : String

namespace Ctap2Encoder

def es256 : Int32 := -7

def flagAt : UInt8 := 0x40

def unsignedCoordinate (encoded : Bytes) : Except IllegalArgumentException Bytes := do
  let trimmed := if encoded.length = 33 ∧ encoded.head? = some 0 then encoded.drop 1 else encoded
  require (trimmed.length ≤ 32) (⟨"P-256 coordinate is oversized"⟩ : IllegalArgumentException)
  return List.replicate (32 - trimmed.length) 0 ++ trimmed

namespace Cbor

/-- `ByteArrayOutputStream.write(int)`: the low eight of the thirty-two bits. -/
def write (value : UInt32) : Bytes := [value.toUInt8]

/-- `(argument shr shift).toInt()`, written for one shift after another. -/
def writeShifts (shifts : List UInt64) (argument : UInt64) : Bytes :=
  shifts.flatMap fun shift => write (argument >>> shift).toUInt32

def head (major : UInt32) (argument : UInt64) : Bytes :=
  let high := major <<< 5
  if argument < 24 then
    write (high ||| argument.toUInt32)
  else if argument ≤ 0xff then
    write (high ||| 24) ++ write argument.toUInt32
  else if argument ≤ 0xffff then
    write (high ||| 25) ++ write (argument.toUInt32 >>> 8) ++ write argument.toUInt32
  else if argument ≤ 0xffffffff then
    write (high ||| 26) ++ writeShifts [24, 16, 8, 0] argument
  else
    write (high ||| 27) ++ writeShifts [56, 48, 40, 32, 24, 16, 8, 0] argument

def map (size : Nat) : Bytes := head 5 (UInt64.ofNat size)

def bytes (value : Bytes) : Bytes := head 2 (UInt64.ofNat value.length) ++ value

def text (value : String) : Bytes := head 3 (UInt64.ofNat (utf8 value).length) ++ utf8 value

def int (value : Int32) : Bytes :=
  if 0 ≤ value then head 0 value.toInt64.toUInt64 else head 1 (-1 - value.toInt64).toUInt64

end Cbor

def coseKey (publicKey : ECPublicKey) : Except IllegalArgumentException Bytes := do
  let x ← unsignedCoordinate (toByteArray publicKey.affineX)
  let y ← unsignedCoordinate (toByteArray publicKey.affineY)
  return Cbor.map 5 ++ (Cbor.int 1 ++ Cbor.int 2) ++ (Cbor.int 3 ++ Cbor.int es256) ++ (Cbor.int (-1) ++ Cbor.int 1) ++
    (Cbor.int (-2) ++ Cbor.bytes x) ++ (Cbor.int (-3) ++ Cbor.bytes y)

def registrationAuthenticatorData [Crypto] (rpId : String) (credentialId : Bytes) (publicKey : ECPublicKey)
    (signCount : UInt32) : Except IllegalArgumentException Bytes := do
  let front := (Crypto.sha256 (utf8 rpId)).val ++ [flagUp ||| flagUv ||| flagAt] ++ uint32 signCount ++
    List.replicate 16 0
  require (credentialId.length ≤ 0xffff) (⟨"credentialId is too long"⟩ : IllegalArgumentException)
  let size := [UInt8.ofNat (credentialId.length >>> 8), UInt8.ofNat credentialId.length]
  return front ++ size ++ credentialId ++ (← coseKey publicKey)

def noneAttestationObject (authenticatorData : Bytes) : Bytes :=
  Cbor.map 3 ++ (Cbor.text "fmt" ++ Cbor.text "none") ++ (Cbor.text "attStmt" ++ Cbor.map 0) ++
    (Cbor.text "authData" ++ Cbor.bytes authenticatorData)

section Heads

/-- The low octet of what is left of an argument behind a shift. -/
theorem write_shift (argument : UInt64) {octets : Nat} (few : octets < 8) :
    Cbor.write (argument >>> UInt64.ofNat (8 * octets)).toUInt32 = [UInt8.ofNat (argument.toNat / 256 ^ octets)] := by
  have shift : (UInt64.ofNat (8 * octets)).toNat = 8 * octets := UInt64.toNat_ofNat_of_lt' (by
    have size : UInt64.size = 2 ^ 64 := rfl
    omega)
  have power : 2 ^ (8 * octets) = 256 ^ octets := by rw [Nat.pow_mul]
  rw [Cbor.write, List.singleton_inj, ← UInt8.toNat_inj, UInt32.toNat_toUInt8, UInt64.toNat_toUInt32,
    UInt64.toNat_shiftRight, shift, Nat.mod_eq_of_lt (show 8 * octets < 64 by omega), Nat.shiftRight_eq_div_pow, power,
    UInt8.toNat_ofNat']
  exact Nat.mod_mod_of_dvd _ (by decide)

theorem writeShifts_cons (argument : UInt64) {octets : Nat} (few : octets < 8) (shifts : List UInt64) :
    Cbor.writeShifts (UInt64.ofNat (8 * octets) :: shifts) argument =
      UInt8.ofNat (argument.toNat / 256 ^ octets) :: Cbor.writeShifts shifts argument := by
  rw [Cbor.writeShifts, List.flatMap_cons, write_shift argument few]
  rfl

/-- The octets behind one shift after another are those of the argument. -/
theorem writeShifts_four (argument : UInt64) :
    Cbor.writeShifts [24, 16, 8, 0] argument = BigEndian.encode 4 argument.toNat := by
  rw [show [(24 : UInt64), 16, 8, 0] = [UInt64.ofNat (8 * 3), UInt64.ofNat (8 * 2), UInt64.ofNat (8 * 1),
    UInt64.ofNat (8 * 0)] from rfl]
  iterate 4 rw [writeShifts_cons argument (by decide)]
  simp only [BigEndian.encode, Nat.div_div_eq_div_mul]
  simp [Cbor.writeShifts]

theorem writeShifts_eight (argument : UInt64) :
    Cbor.writeShifts [56, 48, 40, 32, 24, 16, 8, 0] argument = BigEndian.encode 8 argument.toNat := by
  rw [show [(56 : UInt64), 48, 40, 32, 24, 16, 8, 0] = [UInt64.ofNat (8 * 7), UInt64.ofNat (8 * 6),
    UInt64.ofNat (8 * 5), UInt64.ofNat (8 * 4), UInt64.ofNat (8 * 3), UInt64.ofNat (8 * 2), UInt64.ofNat (8 * 1),
    UInt64.ofNat (8 * 0)] from rfl]
  iterate 8 rw [writeShifts_cons argument (by decide)]
  simp only [BigEndian.encode, Nat.div_div_eq_div_mul]
  simp [Cbor.writeShifts]

/-- The first octet of a head. -/
theorem initial_eq : ∀ major < 8, ∀ low < 32,
    Cbor.write (UInt32.ofNat major <<< 5 ||| UInt32.ofNat low) = [UInt8.ofNat (32 * major + low)] := by
  decide +kernel

theorem write_low (argument : UInt64) : Cbor.write argument.toUInt32 = [UInt8.ofNat argument.toNat] := by
  have whole := write_shift argument (show 0 < 8 by decide)
  rwa [Nat.pow_zero, Nat.div_one, Nat.mul_zero, show UInt64.ofNat 0 = 0 from rfl, UInt64.shiftRight_zero] at whole

theorem write_high {argument : UInt64} (short : argument.toNat ≤ 0xffff) :
    Cbor.write (argument.toUInt32 >>> 8) = [UInt8.ofNat (argument.toNat / 256)] := by
  have value : argument.toUInt32.toNat = argument.toNat := by
    rw [UInt64.toNat_toUInt32, Nat.mod_eq_of_lt (by omega)]
  rw [Cbor.write, List.singleton_inj, ← UInt8.toNat_inj, UInt32.toNat_toUInt8, UInt32.toNat_shiftRight, value,
    UInt8.toNat_ofNat', show (8 : UInt32).toNat % 32 = 8 from rfl, Nat.shiftRight_eq_div_pow]

/-- The writer's heads are the shortest, in each of the five widths. -/
theorem head_eq {major : Nat} (small : major < 8) (argument : UInt64) :
    Cbor.head (UInt32.ofNat major) argument = Writer.head major argument := by
  have initial := initial_eq major small
  have inline : argument < 24 ↔ argument.toNat ≤ 23 := by rw [UInt64.lt_iff_toNat_lt]; exact Nat.lt_succ_iff
  have one : argument ≤ 0xff ↔ argument.toNat ≤ 0xff := UInt64.le_iff_toNat_le
  have two : argument ≤ 0xffff ↔ argument.toNat ≤ 0xffff := UInt64.le_iff_toNat_le
  have four : argument ≤ 0xffffffff ↔ argument.toNat ≤ 0xffff_ffff := UInt64.le_iff_toNat_le
  unfold Cbor.head Writer.head
  simp only [inline, one, two, four]
  by_cases tiny : argument.toNat ≤ 23
  · have low : argument.toUInt32 = UInt32.ofNat argument.toNat := by
      rw [← UInt32.toNat_inj, UInt64.toNat_toUInt32, UInt32.toNat_ofNat']
    rw [if_pos tiny, if_pos tiny, low, initial _ (by omega)]
  rw [if_neg tiny, if_neg tiny]
  by_cases byte : argument.toNat ≤ 0xff
  · rw [if_pos byte, if_pos byte, show (24 : UInt32) = UInt32.ofNat 24 from rfl, initial 24 (by decide), write_low]
    rfl
  rw [if_neg byte, if_neg byte]
  by_cases short : argument.toNat ≤ 0xffff
  · rw [if_pos short, if_pos short, show (25 : UInt32) = UInt32.ofNat 25 from rfl, initial 25 (by decide), write_low,
      write_high short]
    rfl
  rw [if_neg short, if_neg short]
  by_cases word : argument.toNat ≤ 0xffff_ffff
  · rw [if_pos word, if_pos word, show (26 : UInt32) = UInt32.ofNat 26 from rfl, initial 26 (by decide),
      writeShifts_four]
    rfl
  · rw [if_neg word, if_neg word, show (27 : UInt32) = UInt32.ofNat 27 from rfl, initial 27 (by decide),
      writeShifts_eight]
    rfl

end Heads

section Coordinates

/-- Zeros in front of a number that fits its width. -/
theorem zeros_encode (count : Nat) {width value : Nat} (fits : value < 256 ^ width) :
    List.replicate count 0 ++ BigEndian.encode width value = BigEndian.encode (count + width) value := by
  have spelled := BigEndian.encode_decode (List.replicate count 0 ++ BigEndian.encode width value)
  rw [BigEndian.decode_zeros, BigEndian.decode_encode_of_lt fits, List.length_append, List.length_replicate,
    BigEndian.encode_length] at spelled
  exact spelled.symm

theorem toByteArray_fits (value : Nat) : value < 256 ^ (value.size / 8 + 1) := by
  have power : 256 ^ (value.size / 8 + 1) = 2 ^ (8 * (value.size / 8 + 1)) := by rw [Nat.pow_mul]
  rw [power]
  exact (Nat.lt_size_self value).trans_le (Nat.pow_le_pow_right (by decide) (by omega))

/-- An octet for the sign alone goes. -/
theorem unsignedCoordinate_signed {octets : Bytes} (length : octets.length = 32) :
    unsignedCoordinate (0 :: octets) = .ok octets := by
  have whole : (0 :: octets).length = 33 ∧ (0 :: octets).head? = some 0 := ⟨by rw [List.length_cons, length], rfl⟩
  unfold unsignedCoordinate
  rw [if_pos whole, List.drop_one, List.tail_cons]
  refine except_bind_eq_ok.mpr ⟨(), except_require_eq_ok.mpr length.le, ?_⟩
  rw [length]
  rfl

theorem unsignedCoordinate_short {encoded : Bytes} (short : encoded.length ≤ 32) :
    unsignedCoordinate encoded = .ok (List.replicate (32 - encoded.length) 0 ++ encoded) := by
  have other : ¬(encoded.length = 33 ∧ encoded.head? = some 0) := fun both => by omega
  unfold unsignedCoordinate
  rw [if_neg other]
  exact except_bind_eq_ok.mpr ⟨(), except_require_eq_ok.mpr short, rfl⟩

/-- Without an octet for the sign, and with zeros in front, each coordinate has 32 octets. -/
theorem unsignedCoordinate_eq {value : Nat} (small : value < 256 ^ 32) :
    unsignedCoordinate (toByteArray value) = .ok (BigEndian.encode 32 value) := by
  have size : value.size ≤ 256 := Nat.size_le.mpr (small.trans_eq (Nat.pow_mul 2 8 32).symm)
  have length : (toByteArray value).length = value.size / 8 + 1 := BigEndian.encode_length _ _
  by_cases long : value.size / 8 + 1 = 33
  · have spelled : toByteArray value = 0 :: BigEndian.encode 32 value := by
      have zero := zeros_encode 1 small
      rw [List.replicate_one, List.singleton_append] at zero
      rw [toByteArray, long, zero]
    rw [spelled, unsignedCoordinate_signed (BigEndian.encode_length _ _)]
  · have padded := zeros_encode (32 - (value.size / 8 + 1)) (toByteArray_fits value)
    rw [Nat.sub_add_cancel (by omega)] at padded
    rw [unsignedCoordinate_short (by omega), length, ← padded, toByteArray]

end Coordinates

section Items

/-- A COSE key of two coordinates: its keys are `kty`, `alg`, `crv`, `x` and `y`. -/
def coseItem (publicKey : ECPublicKey) : Item :=
  .map [(.int 1, .int 2), (.int 3, .int (-7)), (.int (-1), .int 1),
    (.int (-2), .bytes (BigEndian.encode 32 publicKey.affineX)),
    (.int (-3), .bytes (BigEndian.encode 32 publicKey.affineY))]

/-- An attestation without a statement. -/
def attestationItem (authenticatorData : Bytes) : Item :=
  .map [(.text "fmt", .text "none"), (.text "attStmt", .map []), (.text "authData", .bytes authenticatorData)]

theorem toUInt64_eq {value : Int64} (nonneg : 0 ≤ value.toInt) : value.toUInt64 = UInt64.ofNat value.toInt.toNat := by
  have sign : value.toInt = if 2 * value.toBitVec.toNat < 2 ^ 64 then (value.toBitVec.toNat : Int)
      else value.toBitVec.toNat - (2 ^ 64 : Nat) := BitVec.toInt_eq_toNat_cond _
  have bits : value.toUInt64.toNat = value.toBitVec.toNat := rfl
  have bound := value.toBitVec.isLt
  have same : value.toInt.toNat = value.toUInt64.toNat := by
    rw [bits]
    split at sign <;> omega
  rw [same, UInt64.ofNat_toNat]

/-- Each integer has the head of its sign. -/
theorem int_eq (value : Int32) : Cbor.int value = (Item.int value.toInt).encode := by
  have wide : value.toInt64.toInt = value.toInt := Int32.toInt_toInt64 value
  have nonneg : 0 ≤ value ↔ 0 ≤ value.toInt := Int32.le_iff_toInt_le
  have low := value.le_toInt
  have high := value.toInt_lt
  rw [Cbor.int, Item.encode]
  by_cases sign : 0 ≤ value.toInt
  · rw [if_pos (nonneg.mpr sign), if_pos sign, toUInt64_eq (by rwa [wide]), wide]
    exact head_eq (by decide) _
  · have flipped : (-1 - value.toInt64).toInt = -1 - value.toInt := by
      rw [Int64.toInt_sub, wide, show (-1 : Int64).toInt = -1 from rfl]
      exact Int.bmod_eq_of_le (by omega) (by omega)
    rw [if_neg (fun le => sign (nonneg.mp le)), if_neg sign, toUInt64_eq (by omega), flipped]
    exact head_eq (by decide) _

theorem p256_lt : p256 < 256 ^ 32 := by
  rw [p256]
  norm_num

theorem map_eq (size : Nat) : Cbor.map size = Writer.head majorMap (UInt64.ofNat size) :=
  head_eq (show 5 < 8 by decide) _

theorem bytes_eq (value : Bytes) : Cbor.bytes value = (Item.bytes value).encode := by
  rw [Item.encode, Writer.bytes, Cbor.bytes]
  exact congrArg (· ++ value) (head_eq (show 2 < 8 by decide) _)

theorem text_eq (value : String) : Cbor.text value = (Item.text value).encode := by
  rw [Item.encode, Writer.text, Cbor.text]
  exact congrArg (· ++ utf8 value) (head_eq (show 3 < 8 by decide) _)

theorem coseKey_eq (publicKey : ECPublicKey) : coseKey publicKey = .ok (coseItem publicKey).encode := by
  have x := unsignedCoordinate_eq (publicKey.x_lt.trans p256_lt)
  have y := unsignedCoordinate_eq (publicKey.y_lt.trans p256_lt)
  refine except_bind_eq_ok.mpr ⟨_, x, except_bind_eq_ok.mpr ⟨_, y, ?_⟩⟩
  rw [coseItem, Item.encode, map_eq, bytes_eq, bytes_eq]
  simp only [int_eq, List.flatMap_cons, List.flatMap_nil, List.append_nil, List.append_assoc]
  rfl

theorem noneAttestationObject_eq (authenticatorData : Bytes) :
    noneAttestationObject authenticatorData = (attestationItem authenticatorData).encode := by
  have empty : Cbor.map 0 = (Item.map []).encode := by
    rw [map_eq, Item.encode, List.flatMap_nil, List.append_nil]
    rfl
  rw [noneAttestationObject, attestationItem, Item.encode, empty, map_eq, bytes_eq, text_eq, text_eq, text_eq, text_eq]
  simp only [List.flatMap_cons, List.flatMap_nil, List.append_nil, List.append_assoc]
  rfl

/-- The keys of a COSE key, in the order of their octets. -/
theorem coseItem_keys {x y : Item} :
    [(Item.int 1, Item.int 2), (.int 3, .int (-7)), (.int (-1), .int 1), (.int (-2), x), (.int (-3), y)].map
      (fun entry => entry.1.encode) = [[0x01], [0x03], [0x20], [0x21], [0x22]] := by
  simp only [List.map_cons, List.map_nil, Item.encode]
  rfl

/-- The keys of an attestation, the shorter in front. -/
theorem attestationItem_keys {data : Item} :
    [(Item.text "fmt", Item.text "none"), (.text "attStmt", .map []), (.text "authData", data)].map
      (fun entry => entry.1.encode) = [0x63 :: utf8 "fmt", 0x67 :: utf8 "attStmt", 0x68 :: utf8 "authData"] := by
  simp only [List.map_cons, List.map_nil, Item.encode]
  rfl

theorem sorted_of_keys {entries : List (Item × Item)} {keys : List Bytes}
    (same : entries.map (fun entry => entry.1.encode) = keys) (sorted : keys.Pairwise KeyBefore) :
    Item.Sorted entries := by
  rw [← same, List.pairwise_map] at sorted
  exact sorted

theorem coseItem_fits (publicKey : ECPublicKey) : (coseItem publicKey).Fits 4 := by
  refine ⟨by simp, ?_, sorted_of_keys coseItem_keys (by decide)⟩
  simp [Item.Fits, BigEndian.encode_length]

theorem attestationItem_fits {authenticatorData : Bytes} (short : authenticatorData.length < 2 ^ 64) :
    (attestationItem authenticatorData).Fits 4 := by
  have fmt : (utf8 "fmt").length < 2 ^ 64 := by decide
  have none : (utf8 "none").length < 2 ^ 64 := by decide
  have statement : (utf8 "attStmt").length < 2 ^ 64 := by decide
  have data : (utf8 "authData").length < 2 ^ 64 := by decide
  refine ⟨by simp, ?_, sorted_of_keys attestationItem_keys (by decide)⟩
  simp only [List.mem_cons, List.not_mem_nil, or_false, forall_eq_or_imp, forall_eq, Item.Fits]
  exact ⟨⟨fmt, none⟩, ⟨statement, by decide, fun _ => False.elim, .nil⟩, data, short⟩

end Items

end Ctap2Encoder

end BioAuth.Native
