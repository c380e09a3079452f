import BioAuth.Lib.Fallible
import BioAuth.Lib.Regroup
import Mathlib.Data.List.GetD

namespace BioAuth.Mobile
open BioAuth Regroup

/-- The case mappings of Unicode. -/
class Casing where
  toUpperCase : String → String
  toLowerCase : String → String
  upper_ascii : ∀ text, (∀ c ∈ text.toList, c.val.toNat < 0x80) →
    toUpperCase text = String.ofList (text.toList.map Char.toUpper)
  lower_ascii : ∀ text, (∀ c ∈ text.toList, c.val.toNat < 0x80) →
    toLowerCase text = String.ofList (text.toList.map Char.toLower)

/-- The case mappings as far as ASCII goes. -/
abbrev plainCasing : Casing where
  toUpperCase text := String.ofList (text.toList.map Char.toUpper)
  toLowerCase text := String.ofList (text.toList.map Char.toLower)
  upper_ascii _ _ := rfl
  lower_ascii _ _ := rfl

/-- The class `\s` of a regular expression, which is not quite what `String.trim` strips. -/
def spacing (c : Char) : Bool :=
  let code := c.val.toNat
  (9 ≤ code && code ≤ 13) || code = 0x20 || code = 0xa0 || code = 0x1680 || (0x2000 ≤ code && code ≤ 0x200a) ||
    code = 0x2028 || code = 0x2029 || code = 0x202f || code = 0x205f || code = 0x3000 || code = 0xfeff

/-- `_alphabet`. -/
def base32Alphabet : List Char := "ABCDEFGHIJKLMNOPQRSTUVWXYZ234567".toList

namespace Base32

/-- The low bits of an integer. -/
def masked (value : Int64) (bits : Nat) : Nat := (value &&& Int64.ofNat (2 ^ bits - 1)).toUInt64.toNat

/-- The body of the loop over the characters, once the character is known. -/
def collect (state : Int64 × Nat × Bytes) (index : Nat) : Int64 × Nat × Bytes :=
  let (accumulator, bits, out) := state
  let accumulator := accumulator <<< Int64.ofNat 5 ||| Int64.ofNat index
  let bits := bits + 5
  if 8 ≤ bits then
    (accumulator, bits - 8, out ++ [UInt8.ofNat (masked (accumulator >>> Int64.ofNat (bits - 8)) 8)])
  else
    (accumulator, bits, out)

def read {ε : Type} (invalid : ε) (state : Int64 × Nat × Bytes) (character : Char) :
    Except ε (Int64 × Nat × Bytes) := do
  require (character ∈ base32Alphabet) invalid
  return collect state (base32Alphabet.idxOf character)

section Write
variable {σ : Type} (push : σ → Nat → σ)

/-- Write characters while five bits are left. -/
def drain (accumulator : Int64) : Nat → σ → Nat × σ
  | bits + 5, out => drain accumulator bits (push out (masked (accumulator >>> Int64.ofNat bits) 5))
  | bits, out => (bits, out)

/-- The body of the loop over the octets. -/
def feed (state : Int64 × Nat × σ) (byte : UInt8) : Int64 × Nat × σ :=
  let (accumulator, bits, out) := state
  let accumulator := accumulator <<< Int64.ofNat 8 ||| Int64.ofNat byte.toNat
  (accumulator, drain push accumulator (bits + 8) out)

/-- The octets in base 32, without padding. The last character is filled up with zero bits. -/
def write (bytes : Bytes) (start : σ) : σ :=
  let (accumulator, bits, out) := bytes.foldl (feed push) (0, 0, start)
  if 0 < bits then push out (masked (accumulator <<< Int64.ofNat (5 - bits)) 5) else out

end Write

/-- The octets that the letters of base 32 spell. Bits left over are dropped. -/
structure Spells (letters : List Char) (octets : Bytes) : Prop where
  known : ∀ letter ∈ letters, letter ∈ base32Alphabet
  length : octets.length = 5 * letters.length / 8
  value : BigEndian.decode octets =
    Nat.ofDigits 32 (letters.map base32Alphabet.idxOf).reverse / 2 ^ (5 * letters.length % 8)

theorem Spells.unique {letters : List Char} {octets other : Bytes} (spells : Spells letters octets)
    (also : Spells letters other) : octets = other := by
  rw [← BigEndian.encode_decode octets, ← BigEndian.encode_decode other, spells.length, also.length, spells.value,
    also.value]

section Accumulator

/-- The half of an accumulator that the digits are taken from. -/
def low (accumulator : Int64) : UInt32 := accumulator.toUInt64.toUInt32

theorem low_toNat (accumulator : Int64) : (low accumulator).toNat = accumulator.toUInt64.toNat % 2 ^ 32 :=
  UInt64.toNat_toUInt32 _

theorem low_or (a b : Int64) : low (a ||| b) = low a ||| low b := by
  apply UInt32.toBitVec_inj.mp
  ext i inside
  simp [low]

theorem low_ofNat (n : Nat) : low (Int64.ofNat n) = UInt32.ofNat n := by
  apply UInt32.toBitVec_inj.mp
  simp [low]

theorem smod_small {n : Nat} (small : n < 64) : (Int64.ofNat n).toBitVec.smod 64 = BitVec.ofNat 64 n := by
  revert n
  decide

theorem low_shiftLeft (accumulator : Int64) {n : Nat} (small : n < 32) :
    low (accumulator <<< Int64.ofNat n) = low accumulator <<< UInt32.ofNat n := by
  apply UInt32.toBitVec_inj.mp
  have count : (BitVec.ofNat 64 n).toNat = n := by
    rw [BitVec.toNat_ofNat]
    omega
  have wide : (accumulator <<< Int64.ofNat n).toBitVec = accumulator.toBitVec <<< n := by
    rw [Int64.toBitVec_shiftLeft, smod_small (by omega), BitVec.shiftLeft_eq', count]
  have half : (BitVec.ofNat 32 n % 32#32).toNat = n := by
    rw [BitVec.toNat_umod, BitVec.toNat_ofNat]
    change n % 2 ^ 32 % 32 = n
    omega
  have narrow : (low accumulator <<< UInt32.ofNat n).toBitVec = (low accumulator).toBitVec <<< n := by
    rw [UInt32.toBitVec_shiftLeft, BitVec.shiftLeft_eq']
    congr 1
  rw [narrow]
  change (accumulator <<< Int64.ofNat n).toBitVec.setWidth 32 = accumulator.toBitVec.setWidth 32 <<< n
  rw [wide]
  ext i inside
  simp only [BitVec.getElem_setWidth, BitVec.getLsbD_shiftLeft, BitVec.getElem_shiftLeft]
  grind

theorem masked_eq (value : Int64) {bits : Nat} (few : bits < 64) : masked value bits = value.toUInt64.toNat % 2 ^ bits := by
  have small : 2 ^ bits < 2 ^ 64 := Nat.pow_lt_pow_right (by decide) few
  change (value.toBitVec &&& BitVec.ofNat 64 (2 ^ bits - 1)).toNat = value.toBitVec.toNat % 2 ^ bits
  rw [BitVec.toNat_and, BitVec.toNat_ofNat, Nat.mod_eq_of_lt (by omega), Nat.and_two_pow_sub_one_eq_mod]

/-- A digit above some low bits, and the sign does not reach down to it. -/
theorem masked_shiftRight (accumulator : Int64) {n bits : Nat} (room : n + bits ≤ 32) (few : n < 32) :
    masked (accumulator >>> Int64.ofNat n) bits = (low accumulator >>> UInt32.ofNat n).toNat % 2 ^ bits := by
  have count : (BitVec.ofNat 64 n).toNat = n := by
    rw [BitVec.toNat_ofNat]
    omega
  have wide : (accumulator >>> Int64.ofNat n).toBitVec = accumulator.toBitVec.sshiftRight n := by
    rw [Int64.toBitVec_shiftRight, smod_small (by omega), BitVec.sshiftRight', count]
  have narrow : (low accumulator >>> UInt32.ofNat n).toNat = (low accumulator).toNat / 2 ^ n := by
    rw [UInt32.toNat_shiftRight, UInt32.toNat_ofNat', Nat.mod_eq_of_lt (show n < 2 ^ 32 by omega), Nat.mod_eq_of_lt few,
      Nat.shiftRight_eq_div_pow]
  rw [masked_eq _ (by omega), narrow]
  change (accumulator >>> Int64.ofNat n).toBitVec.toNat % 2 ^ bits =
    (accumulator.toBitVec.setWidth 32).toNat / 2 ^ n % 2 ^ bits
  rw [wide]
  apply Nat.eq_of_testBit_eq
  intro i
  rw [Nat.testBit_mod_two_pow, Nat.testBit_mod_two_pow, Nat.testBit_div_two_pow]
  by_cases inside : i < bits
  · rw [BitVec.testBit_toNat, BitVec.testBit_toNat, BitVec.getLsbD_sshiftRight, BitVec.getLsbD_setWidth]
    grind
  · simp [inside]

theorem low_feed (accumulator : Int64) {n : Nat} (small : n < 32) (digit : Nat) :
    low (accumulator <<< Int64.ofNat n ||| Int64.ofNat digit) =
      low accumulator <<< UInt32.ofNat n ||| UInt32.ofNat digit := by
  rw [low_or, low_shiftLeft _ small, low_ofNat]

end Accumulator

/-- What a state of the reader is to a reader with half the accumulator. -/
def halved (state : Int64 × Nat × Bytes) : UInt32 × Nat × Bytes := (low state.1, state.2)

theorem halved_collect {state : Int64 × Nat × Bytes} (few : state.2.1 < 8) (index : Nat) :
    halved (collect state index) = Regroup.collect 5 (halved state) index := by
  obtain ⟨accumulator, bits, out⟩ := state
  dsimp only at few
  have fed := low_feed accumulator (n := 5) (by decide) index
  unfold halved collect Regroup.collect
  dsimp only
  by_cases enough : 8 ≤ bits + 5
  · have octet : UInt8.ofNat (masked ((accumulator <<< Int64.ofNat 5 ||| Int64.ofNat index) >>> Int64.ofNat (bits + 5 - 8)) 8) =
        ((low accumulator <<< UInt32.ofNat 5 ||| UInt32.ofNat index) >>> UInt32.ofNat (bits + 5 - 8)).toUInt8 := by
      rw [masked_shiftRight _ (by omega) (by omega), fed]
      apply UInt8.toNat_inj.mp
      rw [UInt8.toNat_ofNat', Nat.mod_mod, UInt32.toNat_toUInt8]
    rw [if_pos enough, if_pos enough]
    dsimp only
    rw [fed, octet]
  · rw [if_neg enough, if_neg enough]
    dsimp only
    rw [fed]

/-- The reader collects as one with half the accumulator does. -/
theorem halved_collected {digits : List Nat} (small : ∀ digit ∈ digits, digit < 32) :
    halved (digits.foldl collect (0, 0, [])) = digits.foldl (Regroup.collect 5) (0, 0, []) := by
  induction digits using List.reverseRecOn with
  | nil => rfl
  | append_singleton digits digit ih =>
    rw [List.forall_mem_append] at small
    have collected := (collected_digits 5 (by decide) small.1).1
    rw [← ih small.1] at collected
    rw [List.foldl_append, List.foldl_append, List.foldl_cons, List.foldl_nil, List.foldl_cons, List.foldl_nil,
      halved_collect collected.few, ih small.1]

/-- The character of a digit. -/
def glyph (digit : Nat) : Char := base32Alphabet.getD digit '='

theorem glyphs : ∀ digit < 32, glyph digit ∈ base32Alphabet ∧ base32Alphabet.idxOf (glyph digit) = digit := by
  decide

theorem idxOf_small {letters : List Char} (known : ∀ letter ∈ letters, letter ∈ base32Alphabet) :
    ∀ digit ∈ letters.map base32Alphabet.idxOf, digit < 32 := by
  intro digit member
  obtain ⟨letter, inside, rfl⟩ := List.mem_map.mp member
  exact List.idxOf_lt_length_of_mem (known letter inside)

/-- Known letters are read, and what has been collected is what they spell. -/
theorem read_known {ε : Type} (invalid : ε) {letters : List Char} (known : ∀ letter ∈ letters, letter ∈ base32Alphabet) :
    ∃ accumulator bits out, letters.foldlM (read invalid) (0, 0, []) = .ok (accumulator, bits, out) ∧ Spells letters out := by
  have run (state : Int64 × Nat × Bytes) :
      letters.foldlM (read invalid) state = .ok ((letters.map base32Alphabet.idxOf).foldl collect state) := by
    induction letters generalizing state with
    | nil => rfl
    | cons letter letters ih =>
      rw [List.forall_mem_cons] at known
      rw [List.foldlM_cons, read, require, if_pos known.1]
      exact ih known.2 _
  have small := idxOf_small known
  obtain ⟨collected, count⟩ := collected_digits 5 (by decide) small
  rw [← halved_collected small] at collected count
  have read := run (0, 0, [])
  generalize (letters.map base32Alphabet.idxOf).foldl collect (0, 0, []) = state at collected count read
  obtain ⟨accumulator, bits, out⟩ := state
  obtain ⟨few, _, value⟩ := collected
  rw [List.length_map] at count
  dsimp only [halved] at few value count
  refine ⟨accumulator, bits, out, read, known, by omega, ?_⟩
  rw [show 5 * letters.length % 8 = bits by omega]
  exact value

/-- What is read has known letters only, and is what they spell. -/
theorem read_eq_ok {ε : Type} {invalid : ε} {letters : List Char} {state : Int64 × Nat × Bytes}
    (run : letters.foldlM (read invalid) (0, 0, []) = .ok state) : Spells letters state.2.2 := by
  have known : ∀ letter ∈ letters, letter ∈ base32Alphabet := by
    generalize ((0, 0, []) : Int64 × Nat × Bytes) = start at run
    induction letters generalizing start with
    | nil => exact nofun
    | cons letter letters ih =>
      rw [List.foldlM_cons, except_bind_eq_ok] at run
      obtain ⟨next, step, rest⟩ := run
      unfold read at step
      simp only [except_bind_eq_ok, except_require_eq_ok] at step
      obtain ⟨_, first, _⟩ := step
      exact List.forall_mem_cons.mpr ⟨first, ih next rest⟩
  obtain ⟨accumulator, bits, out, same, spells⟩ := read_known invalid known
  rw [run] at same
  cases same
  exact spells

section Write
variable {σ : Type} (push : σ → Nat → σ) (start : σ)

theorem drain_emitted {whole : Nat} {accumulator : Int64} {bits : Nat} {digits : List Nat}
    (emitted : Emitted 5 whole (low accumulator) bits digits) (room : bits < 32) :
    ∃ left more, drain push accumulator bits (digits.foldl push start) = (left, more.foldl push start) ∧ left < 5 ∧
      Emitted 5 whole (low accumulator) left more ∧ 5 * more.length + left = 5 * digits.length + bits := by
  induction bits using Nat.strongRecOn generalizing digits with
  | _ bits ih =>
    by_cases enough : 5 ≤ bits
    · obtain ⟨bits, rfl⟩ := Nat.exists_eq_add_of_le' enough
      have digit : masked (accumulator >>> Int64.ofNat bits) 5 =
          (low accumulator >>> UInt32.ofNat bits).toNat &&& (2 ^ 5 - 1) := by
        rw [masked_shiftRight _ (by omega) (by omega), Nat.and_two_pow_sub_one_eq_mod]
      have pushed := emitted.push (by omega)
      rw [← digit] at pushed
      obtain ⟨left, more, same, few, last, count⟩ := ih bits (by omega) pushed (by omega)
      rw [List.length_append, List.length_singleton] at count
      rw [List.foldl_append, List.foldl_cons, List.foldl_nil] at same
      exact ⟨left, more, by rw [drain]; exact same, few, last, by omega⟩
    · have stops : drain push accumulator bits (digits.foldl push start) = (bits, digits.foldl push start) := by
        unfold drain
        split
        · omega
        · rfl
      exact ⟨bits, digits, stops, by omega, emitted, rfl⟩

theorem feed_emitted (bytes : Bytes) :
    ∃ accumulator bits digits, bytes.foldl (feed push) (0, 0, start) = (accumulator, bits, digits.foldl push start) ∧
      bits < 5 ∧ Emitted 5 (BigEndian.decode bytes) (low accumulator) bits digits ∧
      8 * bytes.length = 5 * digits.length + bits := by
  induction bytes using List.reverseRecOn with
  | nil => exact ⟨0, 0, [], rfl, by decide, Emitted.start 5, rfl⟩
  | append_singleton bytes byte ih =>
    obtain ⟨accumulator, bits, digits, run, few, emitted, count⟩ := ih
    have fed := emitted.feed (by omega) byte
    have same : low (accumulator <<< Int64.ofNat 8 ||| Int64.ofNat byte.toNat) =
        low accumulator <<< 8 ||| byte.toUInt32 := by
      have widened : UInt32.ofNat byte.toNat = byte.toUInt32 := by
        apply UInt32.toNat.inj
        rw [UInt32.toNat_ofNat', UInt8.toNat_toUInt32]
        have := byte.toNat_lt
        omega
      rw [low_feed _ (by decide), widened]
      rfl
    rw [← same] at fed
    obtain ⟨left, more, drained, fewer, last, total⟩ := drain_emitted push start fed (by omega)
    refine ⟨accumulator <<< Int64.ofNat 8 ||| Int64.ofNat byte.toNat, left, more, ?_, fewer, ?_, ?_⟩
    · rw [List.foldl_append, run, List.foldl_cons, List.foldl_nil]
      exact congrArg (Prod.mk _) drained
    · rw [BigEndian.decode_concat]
      exact last
    · rw [List.length_append, List.length_singleton]
      omega

/-- What is written are the letters that spell the octets. -/
theorem write_spells (bytes : Bytes) :
    ∃ digits : List Nat, write push bytes start = digits.foldl push start ∧ (∀ digit ∈ digits, digit < 32) ∧
      5 * digits.length = 8 * bytes.length + (5 * digits.length) % 8 ∧ Spells (digits.map glyph) bytes := by
  obtain ⟨accumulator, bits, digits, run, few, emitted, count⟩ := feed_emitted push start bytes
  have spelled {digits : List Nat} (padding : Nat) (small : ∀ digit ∈ digits, digit < 32)
      (length : 5 * digits.length = 8 * bytes.length + padding) (narrow : padding < 8)
      (value : Nat.ofDigits 32 digits.reverse = 2 ^ padding * BigEndian.decode bytes) :
      5 * digits.length = 8 * bytes.length + (5 * digits.length) % 8 ∧ Spells (digits.map glyph) bytes := by
    have back : (digits.map glyph).map base32Alphabet.idxOf = digits := by
      rw [List.map_map]
      exact (List.map_congr_left fun digit member => (glyphs digit (small digit member)).2).trans (List.map_id' digits)
    refine ⟨by omega, ?_, ?_, ?_⟩
    · rintro letter member
      obtain ⟨digit, inside, rfl⟩ := List.mem_map.mp member
      exact (glyphs digit (small digit inside)).1
    · rw [List.length_map]
      omega
    · rw [back, value, List.length_map, show 5 * digits.length % 8 = padding by omega,
        Nat.mul_div_cancel_left _ (Nat.two_pow_pos padding)]
  unfold write
  rw [run]
  dsimp only
  by_cases rest : 0 < bits
  · obtain ⟨little, value⟩ := emitted.pad few (by decide)
    have digit : masked (accumulator <<< Int64.ofNat (5 - bits)) 5 =
        (low accumulator <<< UInt32.ofNat (5 - bits)).toNat &&& (2 ^ 5 - 1) := by
      rw [masked_eq _ (by decide), ← low_shiftLeft _ (by omega), low_toNat, Nat.and_two_pow_sub_one_eq_mod]
      omega
    have small : ∀ digit ∈ digits ++ [masked (accumulator <<< Int64.ofNat (5 - bits)) 5], digit < 32 := by
      rw [digit]
      exact List.forall_mem_append.mpr ⟨emitted.small, by simpa using little⟩
    rw [← digit] at value
    rw [if_pos rest]
    refine ⟨digits ++ [_], by rw [List.foldl_append, List.foldl_cons, List.foldl_nil], small,
      spelled (5 - bits) small ?_ (by omega) value⟩
    rw [List.length_append, List.length_singleton]
    omega
  · obtain rfl : bits = 0 := by omega
    rw [if_neg rest]
    refine ⟨digits, rfl, emitted.small, spelled 0 emitted.small (by omega) (by decide) ?_⟩
    have value := emitted.value
    rw [pow_zero, Nat.div_one] at value
    rw [pow_zero, Nat.one_mul]
    exact value

end Write

end Base32

end BioAuth.Mobile
