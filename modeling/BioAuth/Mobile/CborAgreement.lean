import BioAuth.Mobile.CborSpec

namespace BioAuth.Mobile
open BioAuth

/-- The reads the two readers offer. -/
inductive Call
  | array
  | uint
  | int
  | bytes
  | text
  | finish

inductive Value
  | number (value : Int)
  | octets (value : Bytes)
  | text (value : String)
  | finished
  deriving DecidableEq

namespace Call

def desktop : Call → Parse CborError Value
  | array => do return .number (← Reader.array).toNat
  | uint => do return .number (← Reader.uint).toNat
  | int => do return .number (← Reader.int).toInt
  | bytes => do return .octets (← Reader.bytes)
  | text => do return .text (← Reader.text)
  | finish => do Reader.finish; return .finished

def phone : Call → Fallible CborReader Thrown Value
  | array => do return .number (← CborReader.array).toInt
  | uint => do return .number (← CborReader.uint).toInt
  | int => do return .number (← CborReader.int64).toInt
  | bytes => do return .octets (← CborReader.bytes)
  | text => do return .text (← CborReader.text)
  | finish => do CborReader.finish; return .finished

end Call

/-- What a sequence of calls brings: each value accepted, up to the call that rejects. -/
def outcomes {σ ε : Type} (reader : Call → Fallible σ ε Value) : List Call → σ → List (Option Value)
  | [], _ => []
  | call :: calls, s =>
    match reader call s with
    | (.ok value, t) => some value :: outcomes reader calls t
    | (.error _, _) => [none]

/-- A value of the desktop as the phone reads it. -/
def Value.onPhone : Value → Value
  | .text t => .text (dropMark t)
  | value => value

/-- A value the phone has a place for: every number it holds is a signed one. -/
def Value.Holdable : Value → Prop
  | .number n => n < 2 ^ 63
  | _ => True

/-- What the phone answers beside what the desktop answers: it rejects where the desktop does, and accepts the same
values, up to a number past the largest signed one. Of a text that starts with a byte order mark only the acceptance
is said. -/
inductive Mirrors : List (Option Value) → List (Option Value) → Prop
  | done : Mirrors [] []
  | rejected : Mirrors [none] [none]
  | accepted {value : Value} {desktop phone : List (Option Value)} (same : value.onPhone = value)
      (holds : value.Holdable) (later : Mirrors desktop phone) : Mirrors (some value :: desktop) (some value :: phone)
  | unholdable {n : Int} {desktop : List (Option Value)} (large : 2 ^ 63 ≤ n) :
      Mirrors (some (.number n) :: desktop) [none]
  | marked {text read : String} {desktop phone : List (Option Value)} (mark : dropMark text ≠ text)
      (later : Mirrors desktop phone) : Mirrors (some (.text text) :: desktop) (some (.text read) :: phone)

namespace Call
open CborReader

/-- What the desktop accepts it takes off the front. -/
theorem desktop_front {call : Call} {s t : Bytes} {value : Value} (run : call.desktop s = (.ok value, t)) :
    ∃ front, s = front ++ t := by
  cases call with
  | array =>
    obtain ⟨n, _, read, last⟩ := Fallible.bind_eq_ok.mp run
    obtain ⟨_, rfl⟩ := Fallible.pure_eq_ok.mp last
    exact ⟨_, ((Reader.array_spells _ _ _).mp read).2⟩
  | uint =>
    obtain ⟨n, _, read, last⟩ := Fallible.bind_eq_ok.mp run
    obtain ⟨_, rfl⟩ := Fallible.pure_eq_ok.mp last
    exact ⟨_, ((Reader.uint_spells _ _ _).mp read).2⟩
  | int =>
    obtain ⟨n, _, read, last⟩ := Fallible.bind_eq_ok.mp run
    obtain ⟨_, rfl⟩ := Fallible.pure_eq_ok.mp last
    exact ⟨_, ((Reader.int_spells _ _ _).mp read).2⟩
  | bytes =>
    obtain ⟨n, _, read, last⟩ := Fallible.bind_eq_ok.mp run
    obtain ⟨_, rfl⟩ := Fallible.pure_eq_ok.mp last
    exact ⟨_, ((Reader.bytes_spells _ _ _).mp read).2⟩
  | text =>
    obtain ⟨n, _, read, last⟩ := Fallible.bind_eq_ok.mp run
    obtain ⟨_, rfl⟩ := Fallible.pure_eq_ok.mp last
    exact ⟨_, ((Reader.text_spells _ _ _).mp read).2⟩
  | finish =>
    obtain ⟨n, _, read, last⟩ := Fallible.bind_eq_ok.mp run
    obtain ⟨_, rfl⟩ := Fallible.pure_eq_ok.mp last
    exact ⟨[], by rw [(Reader.finish_eq_ok.mp read).1, (Reader.finish_eq_ok.mp read).2]; rfl⟩

/-- The phone accepts what the desktop accepts and it can hold, and reads on from the same place. -/
theorem phone_eq_ok {call : Call} {reader after : CborReader} {value : Value} :
    call.phone reader = (.ok value, after) ↔
      ∃ written : Value, written.Holdable ∧ value = written.onPhone ∧
        call.desktop reader.rest = (.ok written, after.rest) ∧ after.whole = reader.whole := by
  have numbers {major : Nat} (small : major < 8) :
      (do return .number (← expect major).toInt : Fallible CborReader Thrown Value) reader = (.ok value, after) ↔
        ∃ written : Value, written.Holdable ∧ value = written.onPhone ∧
          (do return .number (← Reader.expect major).toNat : Parse CborError Value) reader.rest =
            (.ok written, after.rest) ∧ after.whole = reader.whole := by
    simp only [Fallible.bind_eq_ok, expect_eq_ok small, Fallible.pure_eq_ok, Reader.expect_spells small _ _ _, true_and,
      past_iff]
    constructor
    · intro run
      obtain ⟨_, _, ⟨v, positive, rfl, front, kept⟩, rfl, rfl⟩ := run
      have number : (Int64.ofNat v.toNat).toInt = v.toNat := Int64.toInt_ofNat_of_lt positive
      refine ⟨.number v.toNat, ?_, by rw [number]; rfl, ⟨v, _, front, rfl, rfl⟩, kept⟩
      show (v.toNat : Int) < 2 ^ 63
      omega
    · intro run
      obtain ⟨_, small, rfl, ⟨v, _, front, rfl, rfl⟩, kept⟩ := run
      have positive : v.toNat < 2 ^ 63 := by
        have bound : (v.toNat : Int) < 2 ^ 63 := small
        omega
      have number : (Int64.ofNat v.toNat).toInt = v.toNat := Int64.toInt_ofNat_of_lt positive
      exact ⟨_, after, ⟨v, positive, rfl, front, kept⟩, by rw [number]; rfl, rfl⟩
  cases call with
  | array => exact numbers (by decide)
  | uint => exact numbers (by decide)
  | int =>
    simp only [phone, desktop, Fallible.bind_eq_ok, int64_mirrors, Fallible.pure_eq_ok]
    constructor
    · intro run
      obtain ⟨n, _, ⟨read, kept⟩, rfl, rfl⟩ := run
      exact ⟨.number n.toInt, n.toInt_lt, rfl, ⟨n, _, read, rfl, rfl⟩, kept⟩
    · intro run
      obtain ⟨_, _, rfl, ⟨n, _, read, rfl, rfl⟩, kept⟩ := run
      exact ⟨n, after, ⟨read, kept⟩, rfl, rfl⟩
  | bytes =>
    simp only [phone, desktop, Fallible.bind_eq_ok, bytes_eq_ok, past_iff, Fallible.pure_eq_ok, Reader.bytes_spells _ _ _]
    constructor
    · intro run
      obtain ⟨octets, _, ⟨front, kept⟩, rfl, rfl⟩ := run
      have fits := reader.fits
      have size := congrArg List.length front
      simp only [Writer.bytes, List.length_append] at fits size
      exact ⟨.octets octets, trivial, rfl, ⟨octets, _, ⟨by omega, front⟩, rfl, rfl⟩, kept⟩
    · intro run
      obtain ⟨_, _, rfl, ⟨octets, _, ⟨_, front⟩, rfl, rfl⟩, kept⟩ := run
      exact ⟨octets, after, ⟨front, kept⟩, rfl, rfl⟩
  | text =>
    simp only [phone, desktop, Fallible.bind_eq_ok, text_eq_ok, past_iff, Fallible.pure_eq_ok, Reader.text_spells _ _ _]
    constructor
    · intro run
      obtain ⟨_, _, ⟨written, rfl, front, kept⟩, rfl, rfl⟩ := run
      have fits := reader.fits
      have size := congrArg List.length front
      simp only [Writer.text, List.length_append] at fits size
      exact ⟨.text written, trivial, rfl, ⟨written, _, ⟨by omega, front⟩, rfl, rfl⟩, kept⟩
    · intro run
      obtain ⟨_, _, rfl, ⟨written, _, ⟨_, front⟩, rfl, rfl⟩, kept⟩ := run
      exact ⟨_, after, ⟨written, rfl, front, kept⟩, rfl, rfl⟩
  | finish =>
    constructor
    · intro run
      obtain ⟨_, _, done, last⟩ := Fallible.bind_eq_ok.mp run
      obtain ⟨rfl, there⟩ := Fallible.pure_eq_ok.mp last
      obtain ⟨empty, here⟩ := finish_eq_ok.mp done
      have same : after = reader := there.symm.trans here
      have desktop : Reader.finish reader.rest = (.ok (), reader.rest) := Reader.finish_eq_ok.mpr ⟨empty, empty⟩
      rw [same]
      exact ⟨.finished, trivial, rfl, Fallible.bind_eq_ok.mpr ⟨(), _, desktop, rfl⟩, rfl⟩
    · intro run
      obtain ⟨_, _, rfl, run, kept⟩ := run
      obtain ⟨_, _, done, last⟩ := Fallible.bind_eq_ok.mp run
      obtain ⟨rfl, rfl⟩ := Fallible.pure_eq_ok.mp last
      obtain ⟨empty, left⟩ := Reader.finish_eq_ok.mp done
      have same : reader.Past [] after := past_iff.mpr ⟨by rw [empty, left]; rfl, kept⟩
      have here : reader.Past [] reader := past_iff.mpr ⟨rfl, rfl⟩
      have phone : CborReader.finish reader = (.ok (), after) := finish_eq_ok.mpr ⟨empty, same.unique here⟩
      exact Fallible.bind_eq_ok.mpr ⟨(), after, phone, rfl⟩

end Call

/-- What one call adds to the answers of the two readers. -/
theorem Mirrors.step {desktop phone : List (Option Value)} (value : Value) (holds : value.Holdable)
    (later : Mirrors desktop phone) : Mirrors (some value :: desktop) (some value.onPhone :: phone) := by
  by_cases same : value.onPhone = value
  · rw [same]
    exact .accepted same holds later
  · cases value with
    | text text =>
      have mark : dropMark text ≠ text := fun unmarked => same (congrArg Value.text unmarked)
      exact .marked mark later
    | number n => exact absurd rfl same
    | octets value => exact absurd rfl same
    | finished => exact absurd rfl same

theorem outcomes_mirror (calls : List Call) (reader : CborReader) :
    Mirrors (outcomes Call.desktop calls reader.rest) (outcomes Call.phone calls reader) := by
  induction calls generalizing reader with
  | nil => exact .done
  | cons call calls ih =>
    unfold outcomes
    rcases desktop : call.desktop reader.rest with ⟨e | value, rest⟩
    · -- nothing the desktop rejects is accepted by the phone
      rcases phone : call.phone reader with ⟨_ | read, after⟩
      · exact .rejected
      · obtain ⟨written, _, _, run, _⟩ := Call.phone_eq_ok.mp phone
        rw [run] at desktop
        cases desktop
    · by_cases holds : value.Holdable
      · obtain ⟨front, split⟩ := Call.desktop_front desktop
        have taken : (reader.skip front.length).rest = rest := by
          show reader.rest.drop front.length = rest
          rw [split, List.drop_left]
        have kept : (reader.skip front.length).whole = reader.whole := by
          show reader.before ++ reader.rest.take front.length ++ reader.rest.drop front.length = _
          rw [List.append_assoc, List.take_append_drop]
          rfl
        have phone : call.phone reader = (.ok value.onPhone, reader.skip front.length) :=
          Call.phone_eq_ok.mpr ⟨value, holds, rfl, by rw [desktop, taken], kept⟩
        have later := ih (reader.skip front.length)
        rw [taken] at later
        simp only [phone]
        exact .step value holds later
      · rcases phone : call.phone reader with ⟨_ | read, after⟩
        · cases value with
          | number n =>
            have large : 2 ^ 63 ≤ n := by
              have above : ¬n < 2 ^ 63 := holds
              omega
            exact .unholdable large
          | octets value => exact absurd trivial holds
          | text text => exact absurd trivial holds
          | finished => exact absurd trivial holds
        · obtain ⟨written, held, _, run, _⟩ := Call.phone_eq_ok.mp phone
          rw [desktop] at run
          cases run
          exact absurd held holds

namespace CborWriter

/-- The two writers make the same head of a number that is zero or more. -/
theorem head_eq (major : Nat) {argument : Int64} {value : UInt64} (same : argument.toInt = value.toNat) :
    head major argument = Writer.head major value := by
  unfold head Writer.head
  dsimp only
  rw [same, Int.toNat_natCast]
  by_cases tiny : value.toNat ≤ 23
  · rw [if_pos tiny, if_pos (by omega)]
  · rw [if_neg tiny, if_neg (by omega)]
    by_cases one : value.toNat ≤ 0xff
    · rw [if_pos one, if_pos (by omega)]
    · rw [if_neg one, if_neg (by omega)]
      by_cases two : value.toNat ≤ 0xffff
      · rw [if_pos two, if_pos (by omega)]
      · rw [if_neg two, if_neg (by omega)]
        by_cases four : value.toNat ≤ 0xffff_ffff
        · rw [if_pos four, if_pos (by omega)]
        · rw [if_neg four, if_neg (by omega)]

theorem head_ofNat (major : Nat) {n : Nat} (small : n < 2 ^ 63) :
    head major (Int64.ofNat n) = Writer.head major (UInt64.ofNat n) := by
  refine head_eq major ?_
  rw [Int64.toInt_ofNat_of_lt small, UInt64.toNat_ofNat', Nat.mod_eq_of_lt (by omega)]

theorem int64_eq (value : Int64) : int64 value = Writer.int value := by
  have least := value.le_toInt
  have largest := value.toInt_lt
  unfold int64 Writer.int
  by_cases negative : value.toInt < 0
  · rw [if_pos negative, if_pos negative]
    refine head_eq majorNegint ?_
    rw [Int64.toInt_sub, show (-1 : Int64).toInt = -1 from rfl, UInt64.toNat_ofNat', Int.bmod_def]
    omega
  · rw [if_neg negative, if_neg negative]
    refine head_eq majorUint ?_
    rw [UInt64.toNat_ofNat']
    omega

theorem uint_eq {value : Int64} (nonneg : 0 ≤ value.toInt) :
    uint value = .ok (Writer.uint (UInt64.ofNat value.toInt.toNat)) := by
  have largest := value.toInt_lt
  unfold uint
  rw [if_neg (by omega)]
  refine congrArg Except.ok (head_eq majorUint ?_)
  rw [UInt64.toNat_ofNat']
  omega

theorem bytes_eq {value : Bytes} (small : value.length < 2 ^ 63) : bytes value = Writer.bytes value := by
  unfold bytes Writer.bytes
  rw [head_ofNat majorBytes small]

theorem text_eq {value : String} (small : (utf8 value).length < 2 ^ 63) : text value = Writer.text value := by
  unfold text Writer.text
  rw [head_ofNat majorText small]

end CborWriter

/-- The two readers are one parser up to a number that only the desktop holds, and the two writers spell equal values
alike. -/
theorem cbor_readers_and_writers_agree :
    (∀ (buffer : Uint8List) (calls : List Call),
      Mirrors (outcomes Call.desktop calls buffer.octets) (outcomes Call.phone calls (CborReader.of buffer))) ∧
    (∀ length : Nat, length < 2 ^ 63 → CborWriter.array length = Writer.array (UInt64.ofNat length)) ∧
    (∀ value : Int64, 0 ≤ value.toInt →
      CborWriter.uint value = .ok (Writer.uint (UInt64.ofNat value.toInt.toNat))) ∧
    (∀ value : Int64, CborWriter.int64 value = Writer.int value) ∧
    (∀ value : Bytes, value.length < 2 ^ 63 → CborWriter.bytes value = Writer.bytes value) ∧
    (∀ value : String, (utf8 value).length < 2 ^ 63 → CborWriter.text value = Writer.text value) := by
  refine ⟨fun buffer calls => outcomes_mirror calls (CborReader.of buffer), ?_, ?_, CborWriter.int64_eq, ?_, ?_⟩
  · intro length small
    exact CborWriter.head_ofNat majorArray small
  · intro value nonneg
    exact CborWriter.uint_eq nonneg
  · intro value small
    exact CborWriter.bytes_eq small
  · intro value small
    exact CborWriter.text_eq small

/-- A number of 2^63, and a text that starts with a byte order mark. -/
def wideNumber : Uint8List := ⟨[0x1b, 0x80, 0, 0, 0, 0, 0, 0, 0], by decide⟩

def markedText : Uint8List := ⟨[0x64, 0xef, 0xbb, 0xbf, 0x61], by decide⟩

/-- The phone refuses the number the desktop accepts, and reads the text without its mark. -/
theorem cbor_readers_differ :
    outcomes Call.desktop [.uint] wideNumber.octets = [some (.number (2 ^ 63))] ∧
    outcomes Call.phone [.uint] (CborReader.of wideNumber) = [none] ∧
    outcomes Call.desktop [.text] markedText.octets = [some (.text "\uFEFFa")] ∧
    outcomes Call.phone [.text] (CborReader.of markedText) = [some (.text "a")] := by
  decide +kernel

theorem short_items_agree :
    CborWriter.array 3 = Writer.array 3 ∧ CborWriter.uint 500 = .ok (Writer.uint 500) ∧
    CborWriter.bytes [7] = Writer.bytes [7] ∧ CborWriter.text "é" = Writer.text "é" :=
  ⟨cbor_readers_and_writers_agree.2.1 3 (by decide),
    cbor_readers_and_writers_agree.2.2.1 500 (by decide),
    cbor_readers_and_writers_agree.2.2.2.2.1 [7] (by decide),
    cbor_readers_and_writers_agree.2.2.2.2.2 "é" (by decide +kernel)⟩

end BioAuth.Mobile
