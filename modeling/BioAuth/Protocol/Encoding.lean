import BioAuth.Lib.Fallible
import BioAuth.Lib.Regroup
import BioAuth.Protocol.Common
import Mathlib.Data.List.GetD
import Mathlib.Data.List.TakeWhile

namespace BioAuth.Protocol
open BioAuth BioAuth.Regroup

structure DecodeError where
  message : String
  deriving DecidableEq

def hexDigits : List Char := "0123456789abcdef".toList

def hexDigit (nibble : UInt8) : Char := hexDigits.getD nibble.toNat '0'

def toHex (bytes : Bytes) : String := String.ofList (bytes.flatMap fun byte : UInt8 => [hexDigit (byte >>> 4), hexDigit (byte &&& 0x0f)])

/-- The nibble a digit stands for, in either case. -/
def readHexDigit (digit : Char) : Except DecodeError UInt8 :=
  let code := digit.val.toNat
  if 0x30 ≤ code ∧ code ≤ 0x39 then .ok (UInt8.ofNat (code - 0x30))
  else if 0x61 ≤ code ∧ code ≤ 0x66 then .ok (UInt8.ofNat (code - 0x61 + 10))
  else if 0x41 ≤ code ∧ code ≤ 0x46 then .ok (UInt8.ofNat (code - 0x41 + 10))
  else .error ⟨"invalid hex digit"⟩

/-- A text of evenly many octets has an odd character out only where it has one that is no digit. -/
def readHexPairs : List Char → Except DecodeError Bytes
  | hi :: lo :: rest => do
    let hi ← readHexDigit hi
    let lo ← readHexDigit lo
    let rest ← readHexPairs rest
    return (hi <<< 4 ||| lo) :: rest
  | [] => .ok []
  | [_] => .error ⟨"invalid hex digit"⟩

def fromHex (value : String) : Except DecodeError Bytes := do
  require ((utf8 value).length % 2 = 0) ⟨"hex string has an odd length"⟩
  readHexPairs value.toList

def base64url : List Char := "ABCDEFGHIJKLMNOPQRSTUVWXYZabcdefghijklmnopqrstuvwxyz0123456789-_".toList

/-- The number a chunk spells, with zeros for the octets the last chunk lacks. -/
def chunkNumber (chunk : Bytes) : UInt32 :=
  (chunk.getD 0 0).toUInt32 <<< 16 ||| (chunk.getD 1 0).toUInt32 <<< 8 ||| (chunk.getD 2 0).toUInt32

/-- The units of a chunk, one more than it has octets. -/
def chunkUnits (chunk : Bytes) : List Nat :=
  (List.range (chunk.length + 1)).map fun i => (chunkNumber chunk >>> UInt32.ofNat (18 - 6 * i) &&& 0x3f).toNat

/-- `bytes.chunks(3)`. -/
def base64urlUnits : Bytes → List Nat
  | a :: b :: c :: rest => chunkUnits [a, b, c] ++ base64urlUnits rest
  | [] => []
  | chunk => chunkUnits chunk

def base64urlUnit (unit : Nat) : Char := base64url.getD unit 'A'

def toBase64url (bytes : Bytes) : String := String.ofList ((base64urlUnits bytes).map base64urlUnit)

def readBase64url (state : UInt32 × Nat × Bytes) (ch : Char) : Except DecodeError (UInt32 × Nat × Bytes) := do
  require (ch ∈ base64url) ⟨"invalid base64url character"⟩
  return collect 6 state (base64url.idxOf ch)

/-- The bits left over have to be padding. -/
def fromBase64url (value : String) : Except DecodeError Bytes := do
  let (acc, bits, out) ← (value.toList.takeWhile (· ≠ '=')).foldlM readBase64url (0, 0, [])
  require (bits = 0 ∨ acc &&& ((1 <<< UInt32.ofNat bits) - 1) = 0) ⟨"base64url has non-zero trailing bits"⟩
  return out

theorem hexDigit_mem (nibble : UInt8) : hexDigit nibble ∈ hexDigits := by
  unfold hexDigit
  by_cases inside : nibble.toNat < hexDigits.length
  · rw [List.getD_eq_getElem _ _ inside]
    exact List.getElem_mem inside
  · rw [List.getD_eq_default _ _ (by omega)]
    decide

theorem hexDigit_inj {a b : UInt8} (small : a.toNat < 16) (little : b.toNat < 16) (same : hexDigit a = hexDigit b) :
    a = b := by
  have distinct : ∀ i < 16, ∀ j < 16, hexDigits.getD i '0' = hexDigits.getD j '0' → i = j := by decide +kernel
  exact UInt8.toNat_inj.mp (distinct _ small _ little same)

/-- An octet is spelled by its two digits. -/
theorem hexDigits_inj {a b : UInt8} (high : hexDigit (a >>> 4) = hexDigit (b >>> 4))
    (low : hexDigit (a &&& 0x0f) = hexDigit (b &&& 0x0f)) : a = b := by
  have halves (c : UInt8) : (c >>> 4).toNat = c.toNat / 16 ∧ (c &&& 0x0f).toNat = c.toNat % 16 := by
    refine ⟨?_, ?_⟩
    · rw [UInt8.toNat_shiftRight, Nat.shiftRight_eq_div_pow]
      rfl
    · rw [UInt8.toNat_and]
      exact Nat.and_two_pow_sub_one_eq_mod c.toNat 4
  have first := halves a
  have second := halves b
  have bound := a.toNat_lt
  have limit := b.toNat_lt
  have upper := congrArg UInt8.toNat (hexDigit_inj (by omega) (by omega) high)
  have lower := congrArg UInt8.toNat (hexDigit_inj (by omega) (by omega) low)
  apply UInt8.toNat_inj.mp
  omega

theorem toHex_toList (bytes : Bytes) :
    (toHex bytes).toList = bytes.flatMap fun byte : UInt8 => [hexDigit (byte >>> 4), hexDigit (byte &&& 0x0f)] :=
  String.toList_ofList

theorem toHex_injective {a b : Bytes} (same : toHex a = toHex b) : a = b := by
  have digits := congrArg String.toList same
  rw [toHex_toList, toHex_toList] at digits
  clear same
  induction a generalizing b with
  | nil =>
    cases b with
    | nil => rfl
    | cons _ _ => cases digits
  | cons byte rest ih =>
    cases b with
    | nil => cases digits
    | cons other others =>
      simp only [List.flatMap_cons, List.cons_append, List.nil_append, List.cons.injEq] at digits
      rw [hexDigits_inj digits.1 digits.2.1, ih digits.2.2]

theorem readHexPairs_digits (bytes : Bytes) :
    readHexPairs (bytes.flatMap fun byte : UInt8 => [hexDigit (byte >>> 4), hexDigit (byte &&& 0x0f)]) = .ok bytes := by
  have halves (byte : UInt8) : readHexDigit (hexDigit (byte >>> 4)) = .ok (byte >>> 4) ∧
      readHexDigit (hexDigit (byte &&& 0x0f)) = .ok (byte &&& 0x0f) ∧ byte >>> 4 <<< 4 ||| byte &&& 0x0f = byte := by
    have each : ∀ n < 256, readHexDigit (hexDigit (UInt8.ofNat n >>> 4)) = .ok (UInt8.ofNat n >>> 4) ∧
        readHexDigit (hexDigit (UInt8.ofNat n &&& 0x0f)) = .ok (UInt8.ofNat n &&& 0x0f) ∧
        UInt8.ofNat n >>> 4 <<< 4 ||| UInt8.ofNat n &&& 0x0f = UInt8.ofNat n := by decide +kernel
    have own := each byte.toNat byte.toNat_lt
    rwa [UInt8.ofNat_toNat] at own
  induction bytes with
  | nil => rfl
  | cons byte bytes ih =>
    obtain ⟨hi, lo, whole⟩ := halves byte
    simp only [List.flatMap_cons, List.cons_append, List.nil_append, readHexPairs, hi, lo, ih, except_bind_eq_ok,
      except_pure_eq_ok]
    exact ⟨_, rfl, _, rfl, bytes, rfl, congrArg (· :: bytes) whole⟩

theorem fromHex_toHex (bytes : Bytes) : fromHex (toHex bytes) = .ok bytes := by
  have even : (utf8 (toHex bytes)).length % 2 = 0 := by
    have each : ∀ digit ∈ hexDigits, (String.utf8EncodeChar digit).length = 1 := by decide +kernel
    have single (nibble : UInt8) := each _ (hexDigit_mem nibble)
    rw [utf8_eq_flatMap, toHex_toList, List.flatMap_assoc, List.length_flatMap]
    simp only [List.flatMap_cons, List.flatMap_nil, List.append_nil, List.length_append, single, List.map_const',
      List.sum_replicate_nat]
    omega
  rw [fromHex, toHex_toList, readHexPairs_digits, require, if_pos even]
  rfl

/-- Octets in hexadecimal pass for a text field. -/
theorem toHex_checkText (field : String) {bytes : Bytes} {max : Nat} (some : bytes ≠ [])
    (short : 2 * bytes.length ≤ max) : checkText field (toHex bytes) max = .ok () := by
  have digit : ∀ c ∈ (toHex bytes).toList, c ∈ hexDigits := by
    intro c member
    rw [toHex_toList, List.mem_flatMap] at member
    obtain ⟨byte, _, spelled⟩ := member
    rcases List.mem_pair.mp spelled with rfl | rfl
    · exact hexDigit_mem _
    · exact hexDigit_mem _
  have plain : ∀ c ∈ hexDigits, whitespace c = false ∧ c.val.toNat < 0x10000 := by decide
  have length : (toHex bytes).toList.length = 2 * bytes.length := by
    rw [toHex_toList, List.length_flatMap]
    simp only [List.length_cons, List.length_nil, List.map_const', List.sum_replicate_nat]
    omega
  have units : utf16Len (toHex bytes) = 2 * bytes.length := by
    have ones : (toHex bytes).toList.map (fun c => if c.val.toNat < 0x10000 then 1 else 2) =
        (toHex bytes).toList.map fun _ => 1 :=
      List.map_congr_left fun c member => if_pos (plain c (digit c member)).2
    rw [utf16Len, ones, List.map_const', List.sum_replicate_nat, length, Nat.mul_one]
  have shown : blank (toHex bytes) = false := by
    unfold blank
    rcases listed : (toHex bytes).toList with _ | ⟨c, rest⟩
    · rw [listed, List.length_nil] at length
      have positive := List.length_pos_iff.mpr some
      omega
    · have first : whitespace c = false := (plain c (digit c (by rw [listed]; exact List.mem_cons_self))).1
      rw [List.all_cons, first, Bool.false_and]
  unfold checkText
  rw [shown, units]
  exact except_bind_eq_ok.mpr ⟨(), except_require_eq_ok.mpr rfl, except_require_eq_ok.mpr short⟩

theorem base64urlUnit_mem {unit : Nat} (small : unit < 64) :
    base64urlUnit unit ∈ base64url ∧ base64url.idxOf (base64urlUnit unit) = unit ∧ base64urlUnit unit ≠ '=' := by
  revert unit
  decide +kernel

theorem chunkNumber_toNat (chunk : Bytes) :
    (chunkNumber chunk).toNat =
      65536 * (chunk.getD 0 0).toNat + 256 * (chunk.getD 1 0).toNat + (chunk.getD 2 0).toNat := by
  unfold chunkNumber
  generalize chunk.getD 0 0 = a, chunk.getD 1 0 = b, chunk.getD 2 0 = c
  have first := a.toNat_lt
  have second := b.toNat_lt
  have third := c.toNat_lt
  have high : (a.toUInt32 <<< 16).toNat = a.toNat <<< 16 := by
    rw [UInt32.toNat_shiftLeft, UInt8.toNat_toUInt32]
    change a.toNat <<< 16 % 2 ^ 32 = a.toNat <<< 16
    rw [Nat.shiftLeft_eq]
    omega
  have middle : (b.toUInt32 <<< 8).toNat = b.toNat <<< 8 := by
    rw [UInt32.toNat_shiftLeft, UInt8.toNat_toUInt32]
    change b.toNat <<< 8 % 2 ^ 32 = b.toNat <<< 8
    rw [Nat.shiftLeft_eq]
    omega
  have low : b.toNat <<< 8 ||| c.toNat = 256 * b.toNat + c.toNat := by
    rw [← Nat.shiftLeft_add_eq_or_of_lt third, Nat.shiftLeft_eq]
    omega
  rw [UInt32.toNat_or, UInt32.toNat_or, high, middle, UInt8.toNat_toUInt32, Nat.or_assoc, low,
    ← Nat.shiftLeft_add_eq_or_of_lt (by omega), Nat.shiftLeft_eq]
  omega

/-- A chunk's units are the base-64 digits of its octets, shifted to fill the last unit. -/
theorem chunkUnits_value (chunk : Bytes) (filled : chunk ≠ []) (short : chunk.length ≤ 3) :
    (chunkUnits chunk).length = chunk.length + 1 ∧ (∀ unit ∈ chunkUnits chunk, unit < 64) ∧
      Nat.ofDigits 64 (chunkUnits chunk).reverse = 2 ^ (6 - 2 * chunk.length) * BigEndian.decode chunk := by
  have unit (i : Nat) (inside : i < 4) : (chunkNumber chunk >>> UInt32.ofNat (18 - 6 * i) &&& 0x3f).toNat =
      (chunkNumber chunk).toNat / 2 ^ (18 - 6 * i) % 64 := by
    rw [UInt32.toNat_and, UInt32.toNat_shiftRight, UInt32.toNat_ofNat',
      Nat.mod_eq_of_lt (show 18 - 6 * i < 2 ^ 32 by omega), Nat.mod_eq_of_lt (show 18 - 6 * i < 32 by omega),
      Nat.shiftRight_eq_div_pow]
    exact Nat.and_two_pow_sub_one_eq_mod _ 6
  refine ⟨by rw [chunkUnits, List.length_map, List.length_range], ?_, ?_⟩
  · intro value member
    obtain ⟨i, inside, rfl⟩ := List.mem_map.mp member
    rw [unit i (by rw [List.mem_range] at inside; omega)]
    exact Nat.mod_lt _ (by decide)
  · have number := chunkNumber_toNat chunk
    unfold chunkUnits
    rcases chunk with _ | ⟨a, _ | ⟨b, _ | ⟨c, _ | ⟨d, rest⟩⟩⟩⟩
    · exact absurd rfl filled
    all_goals
      simp only [List.length_cons, List.length_nil, List.getD_cons_zero, List.getD_cons_succ, List.getD_nil,
        UInt8.toNat_zero] at short number ⊢
    · have first := a.toNat_lt
      rw [show List.range (0 + 1 + 1) = [0, 1] from rfl]
      simp only [List.map_cons, List.map_nil, unit, Nat.reduceLT, number, List.reverse_cons, List.reverse_nil,
        List.nil_append, List.cons_append, Nat.ofDigits_cons, Nat.ofDigits_nil, BigEndian.decode, List.foldl_cons,
        List.foldl_nil]
      omega
    · have first := a.toNat_lt
      have second := b.toNat_lt
      rw [show List.range (0 + 1 + 1 + 1) = [0, 1, 2] from rfl]
      simp only [List.map_cons, List.map_nil, unit, Nat.reduceLT, number, List.reverse_cons, List.reverse_nil,
        List.nil_append, List.cons_append, Nat.ofDigits_cons, Nat.ofDigits_nil, BigEndian.decode, List.foldl_cons,
        List.foldl_nil]
      omega
    · have first := a.toNat_lt
      have second := b.toNat_lt
      have third := c.toNat_lt
      rw [show List.range (0 + 1 + 1 + 1 + 1) = [0, 1, 2, 3] from rfl]
      simp only [List.map_cons, List.map_nil, unit, Nat.reduceLT, number, List.reverse_cons, List.reverse_nil,
        List.nil_append, List.cons_append, Nat.ofDigits_cons, Nat.ofDigits_nil, BigEndian.decode, List.foldl_cons,
        List.foldl_nil]
      omega
    · omega

/-- The bits the last unit is filled up with. -/
def padding (bytes : Bytes) : Nat := (2 * (3 - bytes.length % 3)) % 6

theorem base64urlUnits_value (bytes : Bytes) :
    6 * (base64urlUnits bytes).length = 8 * bytes.length + padding bytes ∧
      (∀ unit ∈ base64urlUnits bytes, unit < 64) ∧
      Nat.ofDigits 64 (base64urlUnits bytes).reverse = 2 ^ padding bytes * BigEndian.decode bytes := by
  induction bytes using base64urlUnits.induct with
  | case1 a b c rest ih =>
    obtain ⟨count, small, value⟩ := ih
    obtain ⟨units, digits, spelled⟩ := chunkUnits_value [a, b, c] (by simp) (by simp)
    have same : padding (a :: b :: c :: rest) = padding rest := by
      simp only [padding, List.length_cons]
      omega
    rw [base64urlUnits, same]
    refine ⟨?_, ?_, ?_⟩
    · rw [List.length_append, units]
      simp only [List.length_cons, List.length_nil]
      omega
    · rw [List.forall_mem_append]
      exact ⟨digits, small⟩
    · have place : 64 ^ (base64urlUnits rest).length = 2 ^ padding rest * 256 ^ rest.length := by
        rw [show 64 = 2 ^ 6 from rfl, show 256 = 2 ^ 8 from rfl, ← pow_mul, ← pow_mul, ← pow_add]
        congr 1
        omega
      rw [List.reverse_append, Nat.ofDigits_append, List.length_reverse, value, spelled, place,
        show a :: b :: c :: rest = [a, b, c] ++ rest from rfl, BigEndian.decode_append]
      simp only [List.length_cons, List.length_nil]
      ring
  | case2 => exact ⟨rfl, by simp [base64urlUnits], rfl⟩
  | case3 chunk long filled =>
    rcases chunk with _ | ⟨a, _ | ⟨b, _ | ⟨c, rest⟩⟩⟩
    · exact absurd rfl filled
    · obtain ⟨units, digits, spelled⟩ := chunkUnits_value [a] (by simp) (by simp)
      exact ⟨congrArg (6 * ·) units, digits, spelled⟩
    · obtain ⟨units, digits, spelled⟩ := chunkUnits_value [a, b] (by simp) (by simp)
      exact ⟨congrArg (6 * ·) units, digits, spelled⟩
    · exact absurd rfl (long a b c rest)

theorem readBase64url_unit (state : UInt32 × Nat × Bytes) {unit : Nat} (small : unit < 64) :
    readBase64url state (base64urlUnit unit) = .ok (collect 6 state unit) := by
  obtain ⟨known, index, _⟩ := base64urlUnit_mem small
  rw [readBase64url, require, if_pos known, index]
  rfl

theorem readBase64url_units {units : List Nat} (small : ∀ unit ∈ units, unit < 64) (state : UInt32 × Nat × Bytes) :
    (units.map base64urlUnit).foldlM readBase64url state = .ok (units.foldl (collect 6) state) := by
  induction units generalizing state with
  | nil => rfl
  | cons unit units ih =>
    rw [List.forall_mem_cons] at small
    rw [List.map_cons, List.foldlM_cons, readBase64url_unit state small.1]
    exact ih small.2 _

/-- Octets are read back as they were written. -/
theorem fromBase64url_toBase64url (bytes : Bytes) : fromBase64url (toBase64url bytes) = .ok bytes := by
  obtain ⟨count, small, value⟩ := base64urlUnits_value bytes
  obtain ⟨collected, total⟩ := collected_digits 6 (by decide) small
  have few : padding bytes < 8 := by
    have bound := Nat.mod_lt (2 * (3 - bytes.length % 3)) (show 6 > 0 by decide)
    exact Nat.lt_trans bound (by decide)
  have run := readBase64url_units small (0, 0, [])
  have plain : ((base64urlUnits bytes).map base64urlUnit).takeWhile (· ≠ '=') =
      (base64urlUnits bytes).map base64urlUnit := by
    rw [List.takeWhile_eq_self_iff]
    intro ch member
    obtain ⟨unit, inside, rfl⟩ := List.mem_map.mp member
    exact decide_eq_true (base64urlUnit_mem (small unit inside)).2.2
  generalize (base64urlUnits bytes).foldl (collect 6) (0, 0, []) = state at collected total run
  obtain ⟨acc, bits, out⟩ := state
  obtain ⟨left, same, blank⟩ := collected.octets value few (by rw [total, count])
  dsimp only at left same blank
  subst left same
  simp only [fromBase64url, toBase64url, String.toList_ofList, plain, except_bind_eq_ok, except_pure_eq_ok,
    except_require_eq_ok]
  exact ⟨_, run, (), Or.inr blank, rfl⟩

end BioAuth.Protocol
