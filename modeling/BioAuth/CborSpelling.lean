import BioAuth.Cbor
import Mathlib.Tactic.SplitIfs

namespace BioAuth

theorem Writer.head_length_le (major : Nat) (argument : UInt64) : (Writer.head major argument).length ≤ 9 := by
  unfold Writer.head
  dsimp only
  split_ifs <;> simp

theorem Writer.head_ne_nil (major : Nat) (argument : UInt64) : Writer.head major argument ≠ [] := by
  unfold Writer.head
  dsimp only
  split_ifs <;> simp

theorem Writer.bytes_length_le (value : Bytes) : (Writer.bytes value).length ≤ 9 + value.length := by
  have header := Writer.head_length_le majorBytes (UInt64.ofNat value.length)
  rw [Writer.bytes, List.length_append]
  omega

theorem Writer.text_length_le (value : String) : (Writer.text value).length ≤ 9 + (utf8 value).length := by
  have header := Writer.head_length_le majorText (UInt64.ofNat (utf8 value).length)
  rw [Writer.text, List.length_append]
  omega

theorem Writer.int_length_le (value : Int64) : (Writer.int value).length ≤ 9 := by
  unfold Writer.int
  split
  · exact Writer.head_length_le _ _
  · exact Writer.head_length_le _ _

namespace Reader

theorem initial_octet {major low : Nat} (small : major < 8) (bound : low < 32) :
    (UInt8.ofNat (32 * major + low)).toNat = 32 * major + low := by
  rw [UInt8.toNat_ofNat']
  omega

theorem decode_singleton (byte : UInt8) : BigEndian.decode [byte] = byte.toNat := by
  simp [BigEndian.decode]

/-- An argument of a given width is read back exactly when no shorter form holds it. -/
theorem argument_eq_ok {width least : Nat} (fits : 256 ^ width ≤ 2 ^ 64) {s t : Bytes} {a : UInt64} :
    argument width least s = (.ok a, t) ↔
      (least ≤ a.toNat ∧ a.toNat < 256 ^ width) ∧ s = BigEndian.encode width a.toNat ++ t := by
  unfold argument
  simp only [Fallible.bind_eq_ok, take, Parse.take_eq_ok]
  constructor
  · rintro ⟨digits, rest, ⟨length, rfl⟩, run⟩
    split at run
    · cases run
    · rename_i large
      cases run
      have bound := BigEndian.decode_lt digits
      rw [length] at bound
      have value : (UInt64.ofNat (BigEndian.decode digits)).toNat = BigEndian.decode digits := by
        rw [UInt64.toNat_ofNat', Nat.mod_eq_of_lt (by omega)]
      rw [value, ← length, BigEndian.encode_decode]
      exact ⟨⟨by omega, by simpa only [length] using bound⟩, rfl⟩
  · rintro ⟨⟨lower, upper⟩, rfl⟩
    refine ⟨_, t, ⟨BigEndian.encode_length _ _, rfl⟩, ?_⟩
    rw [BigEndian.decode_encode_of_lt upper, if_neg (by omega), UInt64.ofNat_toNat]
    rfl

theorem head_append (major : Nat) (small : major < 8) (argument : UInt64) (t : Bytes) :
    head (Writer.head major argument ++ t) = (.ok (major, argument), t) := by
  have bound := argument.toNat_lt
  have initial (low : Nat) (less : low < 32) (rest : Bytes) :
      take 1 (UInt8.ofNat (32 * major + low) :: rest) = (.ok [UInt8.ofNat (32 * major + low)], rest) :=
    Parse.take_eq_ok.mpr ⟨rfl, rfl⟩
  have high (low : Nat) (less : low < 32) :
      BigEndian.decode [UInt8.ofNat (32 * major + low)] / 32 = major ∧
        BigEndian.decode [UInt8.ofNat (32 * major + low)] % 32 = low := by
    rw [decode_singleton, initial_octet small less]
    omega
  have wide (width least low : Nat) (fits : 256 ^ width ≤ 2 ^ 64)
      (lower : least ≤ argument.toNat) (upper : argument.toNat < 256 ^ width) :
      (do return (major, ← Reader.argument width least) : Parse CborError (Nat × UInt64))
        (BigEndian.encode width argument.toNat ++ t) = (.ok (major, argument), t) :=
    Fallible.bind_run_ok _ ((argument_eq_ok fits).mpr ⟨⟨lower, upper⟩, rfl⟩)
  unfold Writer.head head
  dsimp only
  split
  · rename_i tiny
    rw [List.cons_append, List.nil_append, Fallible.bind_run_ok _ (initial _ (by omega) t)]
    simp only [(high _ (show argument.toNat < 32 by omega)).1, (high _ (show argument.toNat < 32 by omega)).2,
      if_pos tiny, UInt64.ofNat_toNat, Fallible.pure_run]
  · split
    · rw [List.cons_append, Fallible.bind_run_ok _ (initial 24 (by omega) _)]
      simp only [(high 24 (by omega)).1, (high 24 (by omega)).2, Nat.reduceLeDiff, ↓reduceIte]
      exact wide 1 24 24 (by decide) (by omega) (by omega)
    · split
      · rw [List.cons_append, Fallible.bind_run_ok _ (initial 25 (by omega) _)]
        simp only [(high 25 (by omega)).1, (high 25 (by omega)).2, Nat.reduceLeDiff, Nat.reduceEqDiff,
          ↓reduceIte]
        exact wide 2 0x100 25 (by decide) (by omega) (by omega)
      · split
        · rw [List.cons_append, Fallible.bind_run_ok _ (initial 26 (by omega) _)]
          simp only [(high 26 (by omega)).1, (high 26 (by omega)).2, Nat.reduceLeDiff, Nat.reduceEqDiff,
            ↓reduceIte]
          exact wide 4 0x1_0000 26 (by decide) (by omega) (by omega)
        · rw [List.cons_append, Fallible.bind_run_ok _ (initial 27 (by omega) _)]
          simp only [(high 27 (by omega)).1, (high 27 (by omega)).2, Nat.reduceLeDiff, Nat.reduceEqDiff,
            ↓reduceIte]
          exact wide 8 0x1_0000_0000 27 (by decide) (by omega) (by omega)

/-- The head reader accepts the shortest form of each head and nothing else. -/
theorem head_spells :
    Parse.Spells head (fun item => item.1 < 8) (fun item => Writer.head item.1 item.2) := by
  rintro s ⟨major, argument⟩ t
  constructor
  · intro run
    unfold head at run
    obtain ⟨initial, rest, first, step⟩ := Fallible.bind_eq_ok.mp run
    obtain ⟨length, same⟩ := Parse.take_eq_ok.mp first
    obtain ⟨byte, rfl⟩ := List.length_eq_one_iff.mp length
    clear run first
    subst same
    simp only [decode_singleton] at step
    have small := byte.toNat_lt
    have spelled (low : Nat) (same : byte.toNat % 32 = low) : byte = UInt8.ofNat (32 * (byte.toNat / 32) + low) := by
      rw [← same, Nat.div_add_mod, UInt8.ofNat_toNat]
    have wide {width least : Nat} (fits : 256 ^ width ≤ 2 ^ 64)
        (run : (do return (byte.toNat / 32, ← Reader.argument width least) : Parse CborError (Nat × UInt64)) rest =
          (.ok (major, argument), t)) :
        byte.toNat / 32 = major ∧ (least ≤ argument.toNat ∧ argument.toNat < 256 ^ width) ∧
          rest = BigEndian.encode width argument.toNat ++ t := by
      obtain ⟨value, u, read, last⟩ := Fallible.bind_eq_ok.mp run
      cases last
      exact ⟨rfl, (argument_eq_ok fits).mp read⟩
    split at step
    · rename_i tiny
      cases step
      have value : (UInt64.ofNat (byte.toNat % 32)).toNat = byte.toNat % 32 := by
        rw [UInt64.toNat_ofNat']
        omega
      refine ⟨by omega, ?_⟩
      simp only [Writer.head, value, if_pos tiny, ← spelled _ rfl]
    · split at step
      · rename_i width
        obtain ⟨rfl, ⟨lower, upper⟩, rfl⟩ := wide (by decide) step
        refine ⟨by omega, ?_⟩
        simp only [Writer.head]
        rw [if_neg (by omega), if_pos (by omega), ← spelled _ width]
        rfl
      · split at step
        · rename_i width
          obtain ⟨rfl, ⟨lower, upper⟩, rfl⟩ := wide (by decide) step
          refine ⟨by omega, ?_⟩
          simp only [Writer.head]
          rw [if_neg (by omega), if_neg (by omega), if_pos (by omega), ← spelled _ width]
          rfl
        · split at step
          · rename_i width
            obtain ⟨rfl, ⟨lower, upper⟩, rfl⟩ := wide (by decide) step
            refine ⟨by omega, ?_⟩
            simp only [Writer.head]
            rw [if_neg (by omega), if_neg (by omega), if_neg (by omega), if_pos (by omega), ← spelled _ width]
            rfl
          · split at step
            · rename_i width
              obtain ⟨rfl, ⟨lower, upper⟩, rfl⟩ := wide (by decide) step
              refine ⟨by omega, ?_⟩
              simp only [Writer.head]
              rw [if_neg (by omega), if_neg (by omega), if_neg (by omega), if_neg (by omega), ← spelled _ width]
              rfl
            · cases step
  · rintro ⟨small, rfl⟩
    exact head_append major small argument t

theorem expect_spells {major : Nat} (small : major < 8) :
    Parse.Spells (expect major) (fun _ => True) (Writer.head major) := by
  intro s argument t
  unfold expect
  simp only [head_spells.bind_eq_ok, Prod.exists, true_and]
  constructor
  · rintro ⟨actual, read, rest, ⟨_, rfl⟩, run⟩
    split at run
    · cases run
    · rename_i same
      cases run
      rw [not_not.mp same]
  · rintro rfl
    refine ⟨major, argument, t, ⟨small, rfl⟩, ?_⟩
    rw [if_neg (not_not.mpr rfl)]
    rfl

theorem array_spells : Parse.Spells array (fun _ => True) Writer.array :=
  expect_spells (by decide)

theorem uint_spells : Parse.Spells uint (fun _ => True) Writer.uint :=
  expect_spells (by decide)

/-- A string is read back from its own spelling and from no other, as long as its length fits
the head's argument. -/
theorem bytes_spells :
    Parse.Spells bytes (fun value => value.length < 2 ^ 64) Writer.bytes := by
  intro s value t
  unfold bytes
  simp only [(expect_spells (show majorBytes < 8 by decide)).bind_eq_ok, true_and, take, Parse.take_eq_ok,
    Writer.bytes]
  constructor
  · rintro ⟨len, rest, rfl, length, rfl⟩
    have bound := len.toNat_lt
    exact ⟨by omega, by rw [length, UInt64.ofNat_toNat, List.append_assoc]⟩
  · rintro ⟨fits, rfl⟩
    refine ⟨UInt64.ofNat value.length, value ++ t, by rw [List.append_assoc], ?_, rfl⟩
    rw [UInt64.toNat_ofNat', Nat.mod_eq_of_lt fits]

theorem text_spells :
    Parse.Spells text (fun value => (utf8 value).length < 2 ^ 64) Writer.text := by
  intro s value t
  unfold text
  simp only [(expect_spells (show majorText < 8 by decide)).bind_eq_ok, true_and, Fallible.bind_eq_ok, take,
    Parse.take_eq_ok, Writer.text]
  constructor
  · rintro ⟨len, rest, rfl, octets, after, ⟨length, rfl⟩, run⟩
    rcases decoded : fromUtf8 octets with _ | found <;> rw [decoded] at run
    · cases run
    · cases run
      rw [fromUtf8_eq_some] at decoded
      subst decoded
      have bound := len.toNat_lt
      exact ⟨by omega, by rw [length, UInt64.ofNat_toNat, List.append_assoc]⟩
  · rintro ⟨fits, rfl⟩
    refine ⟨UInt64.ofNat (utf8 value).length, utf8 value ++ t, by rw [List.append_assoc], utf8 value, t,
      ⟨?_, rfl⟩, ?_⟩
    · rw [UInt64.toNat_ofNat', Nat.mod_eq_of_lt fits]
    · rw [fromUtf8_utf8]
      rfl

theorem int_spells : Parse.Spells int (fun _ => True) Writer.int := by
  intro s value t
  unfold int
  simp only [head_spells.bind_eq_ok, Prod.exists, true_and]
  constructor
  · rintro ⟨major, argument, rest, ⟨_, rfl⟩, run⟩
    split at run
    · rename_i unsigned
      split at run
      · rename_i small
        cases run
        have exact : (Int64.ofInt argument.toNat).toInt = argument.toNat :=
          Int64.toInt_ofInt_of_le (by omega) (by omega)
        simp only [Writer.int, exact, unsigned]
        rw [if_neg (by omega), Int.toNat_natCast, UInt64.ofNat_toNat]
      · cases run
    · split at run
      · rename_i negative
        split at run
        · rename_i small
          cases run
          have exact : (Int64.ofInt (-1 - argument.toNat)).toInt = -1 - argument.toNat :=
            Int64.toInt_ofInt_of_le (by omega) (by omega)
          simp only [Writer.int, exact, negative]
          rw [if_pos (by omega), show -1 - (-1 - (argument.toNat : Int)) = argument.toNat by omega,
            Int.toNat_natCast, UInt64.ofNat_toNat]
        · cases run
      · cases run
  · rintro rfl
    have lower := value.le_toInt
    have upper := value.toInt_lt
    unfold Writer.int
    split
    · rename_i negative
      have exact : (UInt64.ofNat (-1 - value.toInt).toNat).toNat = (-1 - value.toInt).toNat := by
        rw [UInt64.toNat_ofNat']
        omega
      refine ⟨majorNegint, _, t, ⟨by decide, rfl⟩, ?_⟩
      rw [exact, if_neg (by decide), if_pos rfl, if_pos (by omega), Int.toNat_of_nonneg (by omega),
        show -1 - (-1 - value.toInt) = value.toInt by omega, Int64.ofInt_toInt]
      rfl
    · rename_i nonneg
      have exact : (UInt64.ofNat value.toInt.toNat).toNat = value.toInt.toNat := by
        rw [UInt64.toNat_ofNat']
        omega
      refine ⟨majorUint, _, t, ⟨by decide, rfl⟩, ?_⟩
      rw [exact, if_pos rfl, if_pos (by omega), Int.toNat_of_nonneg (by omega), Int64.ofInt_toInt]
      rfl

theorem finish_eq_ok {s t : Bytes} : finish s = (.ok (), t) ↔ s = [] ∧ t = [] := by
  unfold finish
  rw [Fallible.bind_run_ok _ (Fallible.get_run s)]
  cases s with
  | nil => simp [Fallible.pure_run, eq_comm]
  | cons byte rest => simp [Fallible.throw_run]

end Reader

end BioAuth
