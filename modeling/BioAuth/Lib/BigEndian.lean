import Mathlib.Data.List.Induction
import Mathlib.Tactic.Ring

namespace BioAuth

/-- A string of octets, as held in a `Vec<u8>` or a byte slice. -/
abbrev Bytes := List UInt8

/-- Octet strings of a fixed length, as held in a `[u8; n]`. -/
abbrev Block (n : Nat) := { bytes : Bytes // bytes.length = n }

/-- So many copies of one octet. -/
def Block.replicate (n : Nat) (octet : UInt8) : Block n := ⟨List.replicate n octet, List.length_replicate⟩

namespace BigEndian

/-- The low `width` base-256 digits of a number, most significant first. -/
def encode : Nat → Nat → Bytes
  | 0, _ => []
  | width + 1, value => encode width (value / 256) ++ [UInt8.ofNat value]

/-- The number a string of base-256 digits spells, most significant first. -/
def decode (bytes : Bytes) : Nat :=
  bytes.foldl (fun value byte => 256 * value + byte.toNat) 0

@[simp] theorem encode_length (width value : Nat) : (encode width value).length = width := by
  induction width generalizing value with
  | zero => rfl
  | succ width ih => simp [encode, ih]

@[simp] theorem decode_nil : decode [] = 0 := rfl

theorem decode_concat (bytes : Bytes) (byte : UInt8) :
    decode (bytes ++ [byte]) = 256 * decode bytes + byte.toNat := by
  simp [decode]

theorem decode_append (front back : Bytes) :
    decode (front ++ back) = 256 ^ back.length * decode front + decode back := by
  induction back using List.reverseRecOn with
  | nil => simp
  | append_singleton back byte ih =>
    rw [← List.append_assoc, decode_concat, ih, decode_concat, List.length_append, List.length_singleton, pow_succ]
    ring

theorem decode_lt (bytes : Bytes) : decode bytes < 256 ^ bytes.length := by
  induction bytes using List.reverseRecOn with
  | nil => simp
  | append_singleton bytes byte ih =>
    rw [decode_concat, List.length_append, List.length_singleton, pow_succ]
    have small := byte.toNat_lt
    omega

theorem decode_encode (width value : Nat) : decode (encode width value) = value % 256 ^ width := by
  induction width generalizing value with
  | zero => simp [encode, Nat.mod_one]
  | succ width ih =>
    have split : 256 ^ (width + 1) = 256 * 256 ^ width := by ring
    rw [encode, decode_concat, ih, split, Nat.mod_mul, UInt8.toNat_ofNat']
    omega

theorem decode_encode_of_lt {width value : Nat} (fits : value < 256 ^ width) :
    decode (encode width value) = value := by
  rw [decode_encode, Nat.mod_eq_of_lt fits]

theorem encode_decode (bytes : Bytes) : encode bytes.length (decode bytes) = bytes := by
  induction bytes using List.reverseRecOn with
  | nil => rfl
  | append_singleton bytes byte ih =>
    have small := byte.toNat_lt
    have high : (256 * decode bytes + byte.toNat) / 256 = decode bytes := by omega
    have low : UInt8.ofNat (256 * decode bytes + byte.toNat) = byte := by
      apply UInt8.toNat.inj
      rw [UInt8.toNat_ofNat']
      omega
    rw [decode_concat, List.length_append, List.length_singleton, encode, high, low, ih]

theorem encode_injective {width a b : Nat} (fitsA : a < 256 ^ width) (fitsB : b < 256 ^ width)
    (same : encode width a = encode width b) : a = b := by
  rw [← decode_encode_of_lt fitsA, same, decode_encode_of_lt fitsB]

end BigEndian

end BioAuth
