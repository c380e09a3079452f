import BioAuth.Lib.BigEndian
import Mathlib.Data.Nat.Digits.Lemmas
import Mathlib.Tactic.Ring

namespace BioAuth.Regroup

/-- The low bits of an accumulator are those of a number that is being read digit by digit. What
the accumulator holds above them is left over from digits already handed on. -/
def Holds (accumulator : UInt32) (bits whole : Nat) : Prop :=
  accumulator.toNat % 2 ^ bits = whole % 2 ^ bits

theorem Holds.start : Holds 0 0 0 := rfl

theorem Holds.less {accumulator : UInt32} {bits width whole : Nat}
    (holds : Holds accumulator (bits + width) whole) : Holds accumulator bits whole := by
  have divides : 2 ^ bits ∣ 2 ^ (bits + width) := pow_dvd_pow 2 (Nat.le_add_right ..)
  unfold Holds at *
  rw [← Nat.mod_mod_of_dvd _ divides, holds, Nat.mod_mod_of_dvd _ divides]

theorem toNat_shiftLeft_or {accumulator : UInt32} {width digit : Nat} (narrow : width < 32)
    (small : digit < 2 ^ width) :
    (accumulator <<< UInt32.ofNat width ||| UInt32.ofNat digit).toNat =
      (accumulator.toNat * 2 ^ width + digit) % 2 ^ 32 := by
  have fits : digit < 2 ^ 32 := small.trans_le (Nat.pow_le_pow_right (by decide) narrow.le)
  have split : 2 ^ 32 = 2 ^ (32 - width) * 2 ^ width := by rw [← pow_add]; congr 1; omega
  have high : accumulator.toNat * 2 ^ width % 2 ^ 32 = accumulator.toNat % 2 ^ (32 - width) * 2 ^ width := by
    rw [split, Nat.mul_mod_mul_right]
  rw [UInt32.toNat_or, UInt32.toNat_shiftLeft, UInt32.toNat_ofNat', UInt32.toNat_ofNat', Nat.mod_eq_of_lt fits,
    Nat.mod_eq_of_lt (show width < 2 ^ 32 by omega), Nat.mod_eq_of_lt narrow, Nat.shiftLeft_eq, high,
    ← Nat.shiftLeft_eq, ← Nat.shiftLeft_add_eq_or_of_lt small, Nat.shiftLeft_eq, ← high]
  have room : accumulator.toNat % 2 ^ (32 - width) * 2 ^ width + digit < 2 ^ 32 := by
    rw [split]
    have bound := Nat.mod_lt accumulator.toNat (Nat.two_pow_pos (32 - width))
    calc accumulator.toNat % 2 ^ (32 - width) * 2 ^ width + digit
        < accumulator.toNat % 2 ^ (32 - width) * 2 ^ width + 2 ^ width := by omega
      _ = (accumulator.toNat % 2 ^ (32 - width) + 1) * 2 ^ width := by ring
      _ ≤ 2 ^ (32 - width) * 2 ^ width := Nat.mul_le_mul_right _ bound
  rw [← high] at room
  rw [← Nat.mod_eq_of_lt room, Nat.mod_add_mod]

/-- Shifting a digit in appends it to the number. -/
theorem Holds.feed {accumulator : UInt32} {bits width whole digit : Nat} (holds : Holds accumulator bits whole)
    (room : bits + width ≤ 32) (narrow : width < 32) (small : digit < 2 ^ width) :
    Holds (accumulator <<< UInt32.ofNat width ||| UInt32.ofNat digit) (bits + width) (2 ^ width * whole + digit) := by
  have divides : 2 ^ (bits + width) ∣ 2 ^ 32 := pow_dvd_pow 2 room
  unfold Holds at *
  rw [toNat_shiftLeft_or narrow small, Nat.mod_mod_of_dvd _ divides, Nat.add_mod, pow_add, Nat.mul_mod_mul_right,
    holds, ← Nat.mul_mod_mul_right, ← Nat.add_mod, Nat.mul_comm whole]

/-- Shifting right by what stays behind brings the next digit to the bottom. -/
theorem Holds.digit {accumulator : UInt32} {bits width whole : Nat} (holds : Holds accumulator (bits + width) whole)
    (room : bits < 32) : (accumulator >>> UInt32.ofNat bits).toNat % 2 ^ width = whole / 2 ^ bits % 2 ^ width := by
  unfold Holds at holds
  rw [UInt32.toNat_shiftRight, UInt32.toNat_ofNat', Nat.mod_eq_of_lt (show bits < 2 ^ 32 by omega),
    Nat.mod_eq_of_lt room, Nat.shiftRight_eq_div_pow]
  rw [pow_add] at holds
  calc accumulator.toNat / 2 ^ bits % 2 ^ width
      = accumulator.toNat % (2 ^ bits * 2 ^ width) / 2 ^ bits := (Nat.mod_mul_right_div_self ..).symm
    _ = whole / 2 ^ bits % 2 ^ width := by rw [holds, Nat.mod_mul_right_div_self]

/-- The bits that are left over are blank where they are blank in the number. -/
theorem Holds.masked {accumulator : UInt32} {bits whole : Nat} (holds : Holds accumulator bits whole) (few : bits < 8) :
    accumulator &&& ((1 <<< UInt32.ofNat bits) - 1) = 0 ↔ 2 ^ bits ∣ whole := by
  have mask : ((1 : UInt32) <<< UInt32.ofNat bits - 1).toNat = 2 ^ bits - 1 := by
    clear holds
    revert bits
    decide
  rw [← UInt32.toNat_inj, UInt32.toNat_and, mask, Nat.and_two_pow_sub_one_eq_mod, UInt32.toNat_zero, holds,
    Nat.dvd_iff_mod_eq_zero]

/-- Taking the next digit off a number and keeping the rest loses nothing. -/
theorem div_eq_digit (whole bits width : Nat) :
    whole / 2 ^ bits = 2 ^ width * (whole / 2 ^ (bits + width)) + whole / 2 ^ bits % 2 ^ width := by
  rw [pow_add, ← Nat.div_div_eq_div_mul, Nat.div_add_mod]

/-- The number a string of digits spells, most significant first. -/
theorem ofDigits_concat (base digit : Nat) (digits : List Nat) :
    Nat.ofDigits base (digits ++ [digit]).reverse = base * Nat.ofDigits base digits.reverse + digit := by
  rw [List.reverse_append, List.reverse_singleton, List.singleton_append, Nat.ofDigits_cons]
  omega

/-- A reader's step: a digit of so many bits is shifted in, and an octet handed on once there is one. -/
def collect (width : Nat) (state : UInt32 × Nat × Bytes) (digit : Nat) : UInt32 × Nat × Bytes :=
  let (accumulator, bits, bytes) := state
  let accumulator := accumulator <<< UInt32.ofNat width ||| UInt32.ofNat digit
  let bits := bits + width
  if 8 ≤ bits then
    (accumulator, bits - 8, bytes ++ [(accumulator >>> UInt32.ofNat (bits - 8)).toUInt8])
  else
    (accumulator, bits, bytes)

/-- The reader has collected all of a number but its low bits, which the accumulator holds. -/
structure Collected (whole : Nat) (state : UInt32 × Nat × Bytes) : Prop where
  few : state.2.1 < 8
  held : Holds state.1 state.2.1 whole
  value : BigEndian.decode state.2.2 = whole / 2 ^ state.2.1

theorem Collected.collect {whole digit width : Nat} {state : UInt32 × Nat × Bytes} (collected : Collected whole state)
    (narrow : width ≤ 8) (small : digit < 2 ^ width) :
    Collected (2 ^ width * whole + digit) (collect width state digit) ∧
      8 * (Regroup.collect width state digit).2.2.length + (Regroup.collect width state digit).2.1 =
        8 * state.2.2.length + state.2.1 + width := by
  obtain ⟨accumulator, bits, bytes⟩ := state
  obtain ⟨few, held, value⟩ := collected
  dsimp only at few held value
  have fed : Holds (accumulator <<< UInt32.ofNat width ||| UInt32.ofNat digit) (bits + width)
      (2 ^ width * whole + digit) :=
    held.feed (by omega) (by omega) small
  have rest : whole / 2 ^ bits = (2 ^ width * whole + digit) / 2 ^ (bits + width) := by
    rw [Nat.add_comm bits, pow_add, ← Nat.div_div_eq_div_mul]
    congr 1
    rw [Nat.mul_add_div (Nat.two_pow_pos width), Nat.div_eq_of_lt small, Nat.add_zero]
  unfold Regroup.collect
  dsimp only
  by_cases enough : 8 ≤ bits + width
  · obtain ⟨left, same⟩ := Nat.exists_eq_add_of_le' enough
    rw [if_pos enough]
    refine ⟨⟨by dsimp only; omega, ?_, ?_⟩, ?_⟩
    · dsimp only
      rw [same] at fed
      simpa only [same, Nat.add_sub_cancel] using fed.less
    · dsimp only
      rw [same] at fed rest
      rw [BigEndian.decode_concat, same, Nat.add_sub_cancel, UInt32.toNat_toUInt8, fed.digit (by omega), value, rest]
      exact (div_eq_digit _ left 8).symm
    · dsimp only
      rw [List.length_append, List.length_singleton]
      omega
  · rw [if_neg enough]
    refine ⟨⟨by dsimp only; omega, fed, ?_⟩, ?_⟩
    · dsimp only
      rw [value, rest]
    · dsimp only
      omega

theorem collected_digits (width : Nat) (narrow : width ≤ 8) {digits : List Nat}
    (small : ∀ digit ∈ digits, digit < 2 ^ width) :
    Collected (Nat.ofDigits (2 ^ width) digits.reverse) (digits.foldl (collect width) (0, 0, [])) ∧
      8 * (digits.foldl (collect width) (0, 0, [])).2.2.length + (digits.foldl (collect width) (0, 0, [])).2.1 =
        width * digits.length := by
  induction digits using List.reverseRecOn with
  | nil => exact ⟨⟨Nat.zero_lt_succ 7, Holds.start, (Nat.zero_div _).symm⟩, rfl⟩
  | append_singleton digits digit ih =>
    rw [List.forall_mem_append] at small
    obtain ⟨collected, count⟩ := ih small.1
    obtain ⟨next, total⟩ := collected.collect narrow (small.2 digit (List.mem_singleton_self _))
    rw [List.foldl_append, List.foldl_cons, List.foldl_nil, ofDigits_concat]
    refine ⟨next, ?_⟩
    rw [total, count, List.length_append, List.length_singleton, Nat.mul_succ]

/-- What is collected from the digits of some octets, padded with zero bits, is the octets, and the padding is left. -/
theorem Collected.octets {whole padding : Nat} {state : UInt32 × Nat × Bytes} (collected : Collected whole state)
    {octets : Bytes} (same : whole = 2 ^ padding * BigEndian.decode octets) (few : padding < 8)
    (count : 8 * state.2.2.length + state.2.1 = 8 * octets.length + padding) :
    state.2.1 = padding ∧ state.2.2 = octets ∧ state.1 &&& ((1 <<< UInt32.ofNat padding) - 1) = 0 := by
  obtain ⟨accumulator, bits, bytes⟩ := state
  obtain ⟨little, held, value⟩ := collected
  dsimp only at little held value count ⊢
  obtain rfl : bits = padding := by omega
  have length : bytes.length = octets.length := by omega
  refine ⟨rfl, ?_, ?_⟩
  · rw [same, Nat.mul_div_cancel_left _ (Nat.two_pow_pos bits)] at value
    rw [← BigEndian.encode_decode bytes, ← BigEndian.encode_decode octets, length, value]
  · exact (held.masked little).mpr (same ▸ Dvd.intro _ rfl)

/-- A writer has handed on all of a number but its low bits, which the accumulator holds. -/
structure Emitted (width whole : Nat) (accumulator : UInt32) (bits : Nat) (digits : List Nat) : Prop where
  small : ∀ digit ∈ digits, digit < 2 ^ width
  held : Holds accumulator bits whole
  value : Nat.ofDigits (2 ^ width) digits.reverse = whole / 2 ^ bits

theorem Emitted.start (width : Nat) : Emitted width 0 0 0 [] := ⟨nofun, Holds.start, rfl⟩

/-- A writer's step hands on the digit above the bits that stay behind. -/
theorem Emitted.push {width whole : Nat} {accumulator : UInt32} {bits : Nat} {digits : List Nat}
    (emitted : Emitted width whole accumulator (bits + width) digits) (room : bits < 32) :
    Emitted width whole accumulator bits (digits ++ [(accumulator >>> UInt32.ofNat bits).toNat &&& (2 ^ width - 1)]) := by
  have low : (accumulator >>> UInt32.ofNat bits).toNat &&& (2 ^ width - 1) = whole / 2 ^ bits % 2 ^ width := by
    rw [← emitted.held.digit room]
    exact Nat.and_two_pow_sub_one_eq_mod _ width
  rw [low]
  refine ⟨?_, emitted.held.less, ?_⟩
  · simp only [List.mem_append, List.mem_singleton]
    rintro digit (member | rfl)
    · exact emitted.small digit member
    · exact Nat.mod_lt _ (Nat.two_pow_pos width)
  · rw [ofDigits_concat, emitted.value]
    exact (div_eq_digit whole bits width).symm

/-- An octet is shifted in. -/
theorem Emitted.feed {width whole : Nat} {accumulator : UInt32} {bits : Nat} {digits : List Nat}
    (emitted : Emitted width whole accumulator bits digits) (few : bits ≤ 24) (byte : UInt8) :
    Emitted width (256 * whole + byte.toNat) (accumulator <<< 8 ||| byte.toUInt32) (bits + 8) digits := by
  have small := byte.toNat_lt
  have fed := emitted.held.feed (show bits + 8 ≤ 32 by omega) (by decide) small
  have widened : UInt32.ofNat byte.toNat = byte.toUInt32 := by
    apply UInt32.toNat.inj
    rw [UInt32.toNat_ofNat', UInt8.toNat_toUInt32]
    omega
  rw [widened] at fed
  refine ⟨emitted.small, fed, ?_⟩
  rw [emitted.value, Nat.add_comm bits, pow_add, ← Nat.div_div_eq_div_mul]
  congr 1
  omega

/-- Zeros are shifted in to fill the last digit. -/
theorem Emitted.pad {width whole : Nat} {accumulator : UInt32} {bits : Nat} {digits : List Nat}
    (emitted : Emitted width whole accumulator bits digits) (few : bits < width) (narrow : width ≤ 8) :
    (accumulator <<< UInt32.ofNat (width - bits)).toNat &&& (2 ^ width - 1) < 2 ^ width ∧
      Nat.ofDigits (2 ^ width)
        (digits ++ [(accumulator <<< UInt32.ofNat (width - bits)).toNat &&& (2 ^ width - 1)]).reverse =
          2 ^ (width - bits) * whole := by
  have shifted := emitted.held.feed (show bits + (width - bits) ≤ 32 by omega) (by omega)
    (Nat.two_pow_pos (width - bits))
  rw [Nat.add_sub_cancel' few.le, show UInt32.ofNat 0 = 0 from rfl, UInt32.or_zero, Holds, Nat.add_zero] at shifted
  rw [Nat.and_two_pow_sub_one_eq_mod, shifted, ofDigits_concat, emitted.value]
  refine ⟨Nat.mod_lt _ (Nat.two_pow_pos width), ?_⟩
  have split : 2 ^ width = 2 ^ (width - bits) * 2 ^ bits := by rw [← pow_add, Nat.sub_add_cancel few.le]
  rw [split, Nat.mul_mod_mul_left, Nat.mul_assoc, ← Nat.mul_add, Nat.div_add_mod]

end BioAuth.Regroup
