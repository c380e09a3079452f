import BioAuth.Mobile.Cbor

namespace BioAuth.Mobile
open BioAuth

/-- A call that throws something it does not declare. -/
def Escapes {σ α : Type} (declared : Thrown → Prop) (call : Fallible σ Thrown α) (s : σ) : Prop :=
  ∃ e t, call s = (.error e, t) ∧ ¬declared e

section Escapes
variable {σ α β : Type} {declared : Thrown → Prop} {s : σ}

theorem escapes_bind {x : Fallible σ Thrown α} {f : α → Fallible σ Thrown β} :
    Escapes declared (x >>= f) s ↔ Escapes declared x s ∨ ∃ a t, x s = (.ok a, t) ∧ Escapes declared (f a) t := by
  unfold Escapes
  rw [Fallible.bind_run]
  rcases run : x s with ⟨e | a, t⟩
  · constructor
    · intro ⟨_, _, same, undeclared⟩
      cases same
      exact Or.inl ⟨e, t, rfl, undeclared⟩
    · intro either
      rcases either with ⟨_, _, same, undeclared⟩ | ⟨a, u, same, _⟩
      · cases same
        exact ⟨e, t, rfl, undeclared⟩
      · cases same
  · constructor
    · intro escape
      exact Or.inr ⟨a, t, rfl, escape⟩
    · intro either
      rcases either with ⟨e, u, same, _⟩ | ⟨b, u, same, escape⟩
      · cases same
      · cases same
        exact escape

theorem not_escapes_pure {a : α} : ¬Escapes declared (pure a : Fallible σ Thrown α) s :=
  fun ⟨_, _, run, _⟩ => nomatch run

theorem not_escapes_throw {e : Thrown} (known : declared e) :
    ¬Escapes declared (throw e : Fallible σ Thrown α) s := by
  intro ⟨_, _, run, undeclared⟩
  cases run
  exact undeclared known

theorem not_escapes_require {check : Prop} [Decidable check] {e : Thrown} (known : declared e) :
    ¬Escapes declared (require check e : Fallible σ Thrown Unit) s := by
  unfold require
  split
  · exact not_escapes_pure
  · exact not_escapes_throw known

end Escapes

/-- The reader declares its own exception, and no error of a range. -/
structure Declared (declared : Thrown → Prop) : Prop where
  cbor (message : String) : declared (cborException message)
  range : ¬declared .rangeError

namespace CborReader
variable {declared : Thrown → Prop}

/-- The second reader is the first one past a spelling. -/
structure Past (spelling : Bytes) (reader after : CborReader) : Prop where
  rest : reader.rest = spelling ++ after.rest
  before : after.before = reader.before ++ spelling

theorem Past.unique {spelling : Bytes} {reader after other : CborReader} (past : reader.Past spelling after)
    (again : reader.Past spelling other) : after = other := by
  cases after
  cases other
  have rest := past.rest.symm.trans again.rest
  have before := past.before.trans again.before.symm
  simp only [List.append_cancel_left_eq] at rest before
  subst rest before
  rfl

theorem skip_past (reader : CborReader) (n : Nat) : reader.Past (reader.rest.take n) (reader.skip n) :=
  ⟨(List.take_append_drop n reader.rest).symm, rfl⟩

theorem past_of_front {reader : CborReader} {front back : Bytes} (rest : reader.rest = front ++ back) :
    reader.Past front (reader.skip front.length) := by
  have through := skip_past reader front.length
  rwa [rest, List.take_left] at through

theorem bufferLength_eq (reader : CborReader) : reader.bufferLength = reader.before.length + reader.rest.length :=
  List.length_append

theorem position_toInt (reader : CborReader) : reader.position.toInt = reader.before.length := by
  have fits := reader.fits
  rw [List.length_append] at fits
  exact Int64.toInt_ofNat_of_lt (by omega)

/-- What a read of so many octets comes to, with the wrapped sum worked out. -/
theorem take_run (reader : CborReader) {length : Int64} (nonneg : 0 ≤ length.toInt) :
    take length reader =
      if 2 ^ 63 ≤ reader.before.length + length.toInt then (.error .rangeError, reader)
      else if (reader.rest.length : Int) < length.toInt then (.error (cborException "truncated CBOR item"), reader)
      else (.ok (reader.rest.take length.toInt.toNat), reader.skip length.toInt.toNat) := by
  have fits := reader.fits
  have upper := length.toInt_lt
  have start := reader.position_toInt
  rw [List.length_append] at fits
  have stop : (reader.position + length).toInt = ((reader.before.length : Int) + length.toInt).bmod (2 ^ 64) := by
    rw [Int64.toInt_add, start]
  unfold take
  dsimp only
  by_cases wraps : 2 ^ 63 ≤ (reader.before.length : Int) + length.toInt
  · have below : (reader.position + length).toInt = reader.before.length + length.toInt - 2 ^ 64 := by
      rw [stop, Int.bmod_def]
      omega
    rw [if_pos wraps, below, start, bufferLength_eq, if_neg (by omega), if_pos (by omega)]
  · have same : (reader.position + length).toInt = reader.before.length + length.toInt := by
      rw [stop, Int.bmod_def]
      omega
    rw [if_neg wraps, same, start, bufferLength_eq]
    by_cases short : (reader.rest.length : Int) < length.toInt
    · rw [if_pos (by omega), if_pos short]
    · have count : (reader.position + length - reader.position).toInt = length.toInt := by
        rw [Int64.toInt_sub, same, start, Int.bmod_def]
        omega
      rw [if_neg (by omega), if_neg (by omega), if_neg short, count]

theorem take_eq_ok {reader after : CborReader} {length : Int64} {octets : Bytes} (nonneg : 0 ≤ length.toInt) :
    take length reader = (.ok octets, after) ↔ (octets.length : Int) = length.toInt ∧ reader.Past octets after := by
  have fits := reader.fits
  rw [List.length_append] at fits
  rw [take_run reader nonneg]
  constructor
  · intro run
    split at run
    · cases run
    · split at run
      · cases run
      · cases run
        refine ⟨?_, skip_past _ _⟩
        rw [List.length_take]
        omega
  · intro ⟨count, past⟩
    have whole := congrArg List.length past.rest
    rw [List.length_append] at whole
    rw [if_neg (by omega), if_neg (by omega)]
    have taken : reader.rest.take length.toInt.toNat = octets := by
      rw [past.rest, ← count, Int.toNat_natCast, List.take_left]
    have same : reader.skip length.toInt.toNat = after := by
      have skipped : reader.Past octets (reader.skip length.toInt.toNat) := taken ▸ skip_past _ _
      exact skipped.unique past
    rw [taken, same]

theorem take_escapes (known : Declared declared) {reader : CborReader} {length : Int64} (nonneg : 0 ≤ length.toInt) :
    Escapes declared (take length) reader ↔ 2 ^ 63 ≤ reader.before.length + length.toInt := by
  unfold Escapes
  rw [take_run reader nonneg]
  constructor
  · intro ⟨e, after, run, undeclared⟩
    split at run
    · assumption
    · split at run
      · cases run
        exact absurd (known.cbor _) undeclared
      · cases run
  · intro wraps
    rw [if_pos wraps]
    exact ⟨_, _, rfl, known.range⟩

/-- The buffer, whatever the position. -/
def whole (reader : CborReader) : Bytes := reader.before ++ reader.rest

theorem past_iff {spelling : Bytes} {reader after : CborReader} :
    reader.Past spelling after ↔ reader.rest = spelling ++ after.rest ∧ after.whole = reader.whole := by
  constructor
  · intro past
    refine ⟨past.rest, ?_⟩
    rw [whole, whole, past.before, past.rest, List.append_assoc]
  · intro ⟨rest, same⟩
    refine ⟨rest, ?_⟩
    rw [whole, whole, rest, ← List.append_assoc] at same
    exact List.append_cancel_right same

/-- An argument is read as the desktop reads it, if it is a number the phone can hold. -/
theorem argument_mirrors {width : Int64} {n least : Nat} (small : n ≤ 8) (same : width.toInt = n)
    {reader after : CborReader} {a : Int64} :
    argument width least reader = (.ok a, after) ↔
      ∃ v : UInt64, v.toNat < 2 ^ 63 ∧ a = Int64.ofNat v.toNat ∧
        Reader.argument n least reader.rest = (.ok v, after.rest) ∧ after.whole = reader.whole := by
  have fits : 256 ^ n ≤ 2 ^ 64 := (Nat.pow_le_pow_right (by decide) small).trans (by decide)
  have signed (v : Nat) (bound : v < 2 ^ 64) : 0 ≤ (Int64.ofNat v).toInt ↔ v < 2 ^ 63 := by
    rw [Int64.toInt_ofNat', Int64.size, Int.bmod_def]
    omega
  unfold argument
  simp only [Fallible.bind_eq_ok, take_eq_ok (show 0 ≤ width.toInt by omega), Fallible.require_eq_ok,
    Fallible.pure_eq_ok, Reader.argument_eq_ok fits]
  constructor
  · intro run
    obtain ⟨octets, mid, ⟨length, past⟩, _, _, ⟨positive, rfl⟩, _, _, ⟨enough, rfl⟩, value, rfl⟩ := run
    have count : octets.length = n := by omega
    have bound := BigEndian.decode_lt octets
    rw [count] at bound
    have exact : (UInt64.ofNat (BigEndian.decode octets)).toNat = BigEndian.decode octets := by
      rw [UInt64.toNat_ofNat', Nat.mod_eq_of_lt (by omega)]
    rw [signed _ (by omega)] at positive
    rw [Int64.toInt_ofNat_of_lt positive] at enough
    refine ⟨UInt64.ofNat (BigEndian.decode octets), by rwa [exact], by rw [exact, value], ?_, (past_iff.mp past).2⟩
    rw [exact, ← count, BigEndian.encode_decode, count]
    exact ⟨⟨by omega, bound⟩, past.rest⟩
  · intro ⟨v, positive, value, ⟨⟨lower, upper⟩, rest⟩, buffer⟩
    have decoded : BigEndian.decode (BigEndian.encode n v.toNat) = v.toNat := BigEndian.decode_encode_of_lt upper
    refine ⟨_, after, ⟨by rw [BigEndian.encode_length, same], past_iff.mpr ⟨rest, buffer⟩⟩, (), after, ⟨?_, rfl⟩, (), after,
      ⟨?_, rfl⟩, ?_, rfl⟩
    · rwa [decoded, signed _ v.toNat_lt]
    · rw [decoded, Int64.toInt_ofNat_of_lt positive]
      omega
    · rw [decoded, value]

theorem skip_one {reader : CborReader} {byte : UInt8} {rest : Bytes} (front : reader.rest = byte :: rest) :
    take 1 reader = (.ok [byte], reader.skip 1) ∧ (reader.skip 1).rest = rest ∧ (reader.skip 1).whole = reader.whole := by
  have past : reader.Past [byte] (reader.skip 1) := by
    have skipped := skip_past reader 1
    rwa [front] at skipped
  refine ⟨(take_eq_ok (by decide)).mpr ⟨rfl, past⟩, ?_, (past_iff.mp past).2⟩
  have dropped : (reader.skip 1).rest = reader.rest.drop 1 := rfl
  rw [dropped, front, List.drop_one, List.tail_cons]

/-- A head is read as the desktop reads it, if its argument is a number the phone can hold. -/
theorem head_mirrors {reader after : CborReader} {major : Nat} {a : Int64} :
    head reader = (.ok (major, a), after) ↔
      ∃ v : UInt64, v.toNat < 2 ^ 63 ∧ a = Int64.ofNat v.toNat ∧
        Reader.head reader.rest = (.ok (major, v), after.rest) ∧ after.whole = reader.whole := by
  rcases front : reader.rest with _ | ⟨byte, rest⟩
  · have none : ¬∃ octets mid, take 1 reader = (.ok octets, mid) := by
      intro ⟨octets, mid, run⟩
      obtain ⟨length, past⟩ := (take_eq_ok (by decide)).mp run
      have empty := past.rest
      rw [front] at empty
      rw [(List.append_eq_nil_iff.mp empty.symm).1] at length
      exact absurd length (by decide)
    refine iff_of_false (fun run => ?_) fun ⟨v, _, _, run, _⟩ => ?_
    · obtain ⟨octets, mid, first, _⟩ := Fallible.bind_eq_ok.mp run
      exact none ⟨octets, mid, first⟩
    · obtain ⟨octets, mid, first, _⟩ := Fallible.bind_eq_ok.mp run
      have length := (Parse.take_eq_ok.mp first).1
      rw [(List.append_eq_nil_iff.mp (Parse.take_eq_ok.mp first).2.symm).1] at length
      exact absurd length (by decide)
  · obtain ⟨first, left, buffer⟩ := skip_one front
    have desktop : Reader.take 1 (byte :: rest) = (.ok [byte], rest) := Parse.take_eq_ok.mpr ⟨rfl, rfl⟩
    have wide {width : Int64} {n least : Nat} (small : n ≤ 8) (same : width.toInt = n) (kind : Nat) :
        (do return (kind, ← argument width least) : Fallible CborReader Thrown (Nat × Int64)) (reader.skip 1) =
            (.ok (major, a), after) ↔
          ∃ v : UInt64, v.toNat < 2 ^ 63 ∧ a = Int64.ofNat v.toNat ∧
            (do return (kind, ← Reader.argument n least) : Parse CborError (Nat × UInt64)) rest =
              (.ok (major, v), after.rest) ∧ after.whole = reader.whole := by
      simp only [Fallible.bind_eq_ok, argument_mirrors small same, Fallible.pure_eq_ok, Prod.mk.injEq, left, buffer]
      constructor
      · intro run
        obtain ⟨_, _, ⟨v, positive, rfl, read, kept⟩, ⟨rfl, rfl⟩, rfl⟩ := run
        exact ⟨v, positive, rfl, ⟨v, _, read, ⟨rfl, rfl⟩, rfl⟩, kept⟩
      · intro run
        obtain ⟨v, positive, rfl, ⟨_, _, read, ⟨rfl, rfl⟩, rfl⟩, kept⟩ := run
        exact ⟨_, after, ⟨_, positive, rfl, read, kept⟩, ⟨rfl, rfl⟩, rfl⟩
    unfold head Reader.head
    rw [Fallible.bind_run_ok _ first, Fallible.bind_run_ok _ desktop]
    simp only [Reader.decode_singleton]
    by_cases tiny : byte.toNat % 32 < 24
    · have value : (UInt64.ofNat (byte.toNat % 32)).toNat = byte.toNat % 32 := by
        rw [UInt64.toNat_ofNat']
        omega
      simp only [if_pos tiny, if_pos (show byte.toNat % 32 ≤ 23 by omega), Fallible.pure_eq_ok, Prod.mk.injEq]
      constructor
      · intro run
        obtain ⟨⟨rfl, rfl⟩, rfl⟩ := run
        exact ⟨_, by omega, by rw [value], ⟨⟨rfl, rfl⟩, left.symm⟩, buffer⟩
      · intro run
        obtain ⟨v, _, rfl, ⟨⟨rfl, rfl⟩, same⟩, kept⟩ := run
        refine ⟨⟨rfl, by rw [value]⟩, ?_⟩
        have past : (reader.skip 1).Past [] after := past_iff.mpr ⟨by rw [left, same, List.nil_append], kept.trans buffer.symm⟩
        exact Past.unique (past_iff.mpr ⟨rfl, rfl⟩) past
    · rw [if_neg tiny, if_neg (show ¬byte.toNat % 32 ≤ 23 by omega)]
      by_cases one : byte.toNat % 32 = 24
      · simp only [if_pos one]
        exact wide (by decide) rfl _
      · simp only [if_neg one]
        by_cases two : byte.toNat % 32 = 25
        · simp only [if_pos two]
          exact wide (by decide) rfl _
        · simp only [if_neg two]
          by_cases four : byte.toNat % 32 = 26
          · simp only [if_pos four]
            exact wide (by decide) rfl _
          · simp only [if_neg four]
            by_cases eight : byte.toNat % 32 = 27
            · simp only [if_pos eight]
              exact wide (by decide) rfl _
            · simp only [if_neg eight]
              exact iff_of_false (fun run => nomatch run) fun ⟨_, _, _, run, _⟩ => nomatch run

/-- The phone reads the shortest form of each head whose argument it can hold, and nothing else. -/
theorem head_eq_ok {reader after : CborReader} {major : Nat} {a : Int64} :
    head reader = (.ok (major, a), after) ↔
      ∃ v : UInt64, v.toNat < 2 ^ 63 ∧ a = Int64.ofNat v.toNat ∧ major < 8 ∧
        reader.Past (Writer.head major v) after := by
  simp only [head_mirrors, Reader.head_spells _ _ _, past_iff, and_assoc]

theorem not_escapes_argument (known : Declared declared) {width : Int64} {least : Int} (nonneg : 0 ≤ width.toInt) (small : width.toInt ≤ 8)
    (reader : CborReader) : ¬Escapes declared (argument width least) reader := by
  have fits := reader.fits
  rw [List.length_append] at fits
  intro escape
  rcases escapes_bind.mp escape with first | ⟨octets, mid, _, later⟩
  · rw [take_escapes known nonneg] at first
    omega
  · rcases escapes_bind.mp later with signed | ⟨_, _, _, later⟩
    · exact not_escapes_require (known.cbor _) signed
    · rcases escapes_bind.mp later with least | ⟨_, _, _, last⟩
      · exact not_escapes_require (known.cbor _) least
      · exact not_escapes_pure last

theorem not_escapes_head (known : Declared declared) (reader : CborReader) : ¬Escapes declared head reader := by
  have fits := reader.fits
  rw [List.length_append] at fits
  intro escape
  rcases escapes_bind.mp escape with first | ⟨octets, mid, _, later⟩
  · rw [take_escapes known (by decide)] at first
    have one : (1 : Int64).toInt = 1 := rfl
    omega
  · have wide {width : Int64} {least : Int} (nonneg : 0 ≤ width.toInt) (small : width.toInt ≤ 8) (kind : Nat) :
        ¬Escapes declared (do return (kind, ← argument width least) : Fallible CborReader Thrown (Nat × Int64)) mid := by
      intro escape
      rcases escapes_bind.mp escape with inner | ⟨_, _, _, last⟩
      · exact not_escapes_argument known nonneg small mid inner
      · exact not_escapes_pure last
    revert later
    dsimp only
    split
    · exact not_escapes_pure
    · split
      · exact wide (by decide) (by decide) _
      · split
        · exact wide (by decide) (by decide) _
        · split
          · exact wide (by decide) (by decide) _
          · split
            · exact wide (by decide) (by decide) _
            · exact not_escapes_throw (known.cbor _)

theorem expect_eq_ok {major : Nat} (small : major < 8) {reader after : CborReader} {a : Int64} :
    expect major reader = (.ok a, after) ↔
      ∃ v : UInt64, v.toNat < 2 ^ 63 ∧ a = Int64.ofNat v.toNat ∧ reader.Past (Writer.head major v) after := by
  unfold expect
  simp only [Fallible.bind_eq_ok, Prod.exists, head_eq_ok]
  constructor
  · intro run
    obtain ⟨actual, _, mid, ⟨v, positive, rfl, _, past⟩, run⟩ := run
    split at run
    · cases run
    · rename_i same
      cases run
      rw [not_not.mp same] at past
      exact ⟨v, positive, rfl, past⟩
  · intro ⟨v, positive, value, past⟩
    refine ⟨major, a, after, ⟨v, positive, value, small, past⟩, ?_⟩
    rw [if_neg (not_not.mpr rfl)]
    rfl

theorem not_escapes_expect (known : Declared declared) (major : Nat) (reader : CborReader) : ¬Escapes declared (expect major) reader := by
  intro escape
  rcases escapes_bind.mp escape with first | ⟨⟨actual, argument⟩, mid, _, later⟩
  · exact not_escapes_head known reader first
  · revert later
    dsimp only
    split
    · exact not_escapes_throw (known.cbor _)
    · exact not_escapes_pure

theorem array_eq_ok {reader after : CborReader} {a : Int64} :
    array reader = (.ok a, after) ↔
      ∃ v : UInt64, v.toNat < 2 ^ 63 ∧ a = Int64.ofNat v.toNat ∧ reader.Past (Writer.array v) after :=
  expect_eq_ok (by decide)

theorem uint_eq_ok {reader after : CborReader} {a : Int64} :
    uint reader = (.ok a, after) ↔
      ∃ v : UInt64, v.toNat < 2 ^ 63 ∧ a = Int64.ofNat v.toNat ∧ reader.Past (Writer.uint v) after :=
  expect_eq_ok (by decide)

theorem Past.trans {front back : Bytes} {reader mid after : CborReader} (first : reader.Past front mid)
    (second : mid.Past back after) : reader.Past (front ++ back) after :=
  ⟨by rw [first.rest, second.rest, List.append_assoc], by rw [second.before, first.before, List.append_assoc]⟩

theorem Past.split {front back : Bytes} {reader after : CborReader} (past : reader.Past (front ++ back) after) :
    ∃ mid, reader.Past front mid ∧ mid.Past back after := by
  have rest := past.rest
  rw [List.append_assoc] at rest
  have skipped := past_of_front rest
  refine ⟨_, skipped, ?_, ?_⟩
  · have both := skipped.rest.symm.trans rest
    exact List.append_cancel_left both
  · rw [past.before, skipped.before, List.append_assoc]

/-- A string is read as the head of its length and then as many octets. -/
theorem string_eq_ok {major : Nat} (small : major < 8) {reader after : CborReader} {octets : Bytes} :
    string major reader = (.ok octets, after) ↔
      reader.Past (Writer.head major (UInt64.ofNat octets.length) ++ octets) after := by
  unfold string
  simp only [Fallible.bind_eq_ok, expect_eq_ok small]
  constructor
  · intro run
    obtain ⟨_, mid, ⟨v, positive, rfl, past⟩, run⟩ := run
    have value : (Int64.ofNat v.toNat).toInt = v.toNat := Int64.toInt_ofNat_of_lt positive
    obtain ⟨length, later⟩ := (take_eq_ok (by omega)).mp run
    have same : UInt64.ofNat octets.length = v := by
      rw [show octets.length = v.toNat by omega, UInt64.ofNat_toNat]
    rw [same]
    exact past.trans later
  · intro past
    have fits := reader.fits
    have size := congrArg List.length past.rest
    simp only [List.length_append] at fits size
    have exact : (UInt64.ofNat octets.length).toNat = octets.length := by
      rw [UInt64.toNat_ofNat', Nat.mod_eq_of_lt (by omega)]
    obtain ⟨mid, first, second⟩ := past.split
    have value : (Int64.ofNat octets.length).toInt = octets.length := Int64.toInt_ofNat_of_lt (by omega)
    exact ⟨_, mid, ⟨_, by omega, by rw [exact], first⟩, (take_eq_ok (by omega)).mpr ⟨value.symm, second⟩⟩

/-- A string head at a position, whose length, added to the position behind it, passes the largest integer. -/
def Overlong (major position : Nat) (octets : Bytes) : Prop :=
  ∃ length : UInt64, ∃ rest, length.toNat < 2 ^ 63 ∧ octets = Writer.head major length ++ rest ∧
    2 ^ 63 ≤ position + (Writer.head major length).length + length.toNat

theorem string_escapes (known : Declared declared) {major : Nat} (small : major < 8) {reader : CborReader} :
    Escapes declared (string major) reader ↔ Overlong major reader.before.length reader.rest := by
  rw [string, escapes_bind]
  constructor
  · intro either
    rcases either with first | ⟨a, mid, run, later⟩
    · exact absurd first (not_escapes_expect known major reader)
    · obtain ⟨v, positive, rfl, past⟩ := (expect_eq_ok small).mp run
      have value : (Int64.ofNat v.toNat).toInt = v.toNat := Int64.toInt_ofNat_of_lt positive
      rw [take_escapes known (by omega), value, past.before, List.length_append] at later
      exact ⟨v, mid.rest, positive, past.rest, by omega⟩
  · intro ⟨v, rest, positive, front, wraps⟩
    have value : (Int64.ofNat v.toNat).toInt = v.toNat := Int64.toInt_ofNat_of_lt positive
    have whole := past_of_front front
    refine Or.inr ⟨_, _, (expect_eq_ok small).mpr ⟨v, positive, rfl, whole⟩, ?_⟩
    rw [take_escapes known (by omega), value, whole.before, List.length_append]
    omega

theorem bytes_eq_ok {reader after : CborReader} {octets : Bytes} :
    bytes reader = (.ok octets, after) ↔ reader.Past (Writer.bytes octets) after :=
  string_eq_ok (by decide)

theorem bytes_escapes (known : Declared declared) {reader : CborReader} : Escapes declared bytes reader ↔ Overlong majorBytes reader.before.length reader.rest :=
  string_escapes known (by decide)

/-- A text is read without its byte order mark. -/
theorem text_eq_ok {reader after : CborReader} {text : String} :
    CborReader.text reader = (.ok text, after) ↔
      ∃ written, text = dropMark written ∧ reader.Past (Writer.text written) after := by
  unfold CborReader.text
  simp only [Fallible.bind_eq_ok, string_eq_ok (show majorText < 8 by decide)]
  constructor
  · intro run
    obtain ⟨octets, mid, past, run⟩ := run
    rcases decoded : utf8Decode octets with _ | found <;> rw [decoded] at run
    · cases run
    · cases run
      obtain ⟨written, spelled, rfl⟩ := Option.map_eq_some_iff.mp decoded
      rw [fromUtf8_eq_some] at spelled
      subst spelled
      exact ⟨written, rfl, past⟩
  · intro ⟨written, same, past⟩
    refine ⟨utf8 written, after, past, ?_⟩
    simp only [utf8Decode, fromUtf8_utf8, Option.map_some, same]
    rfl

theorem text_escapes (known : Declared declared) {reader : CborReader} : Escapes declared CborReader.text reader ↔ Overlong majorText reader.before.length reader.rest := by
  rw [CborReader.text, escapes_bind, string_escapes known (by decide)]
  constructor
  · intro either
    rcases either with overlong | ⟨octets, mid, _, later⟩
    · exact overlong
    · split at later
      · exact absurd later not_escapes_pure
      · exact absurd later (not_escapes_throw (known.cbor _))
  · intro overlong
    exact Or.inl overlong

theorem not_escapes_array (known : Declared declared) (reader : CborReader) : ¬Escapes declared array reader := not_escapes_expect known _ reader

theorem not_escapes_uint (known : Declared declared) (reader : CborReader) : ¬Escapes declared uint reader := not_escapes_expect known _ reader

theorem ofInt_natCast (n : Nat) : Int64.ofInt n = Int64.ofNat n := rfl

/-- A signed number is read as the desktop reads it. -/
theorem int64_mirrors {reader after : CborReader} {a : Int64} :
    int64 reader = (.ok a, after) ↔ Reader.int reader.rest = (.ok a, after.rest) ∧ after.whole = reader.whole := by
  have negated (v : UInt64) (positive : v.toNat < 2 ^ 63) : -1 - Int64.ofNat v.toNat = Int64.ofInt (-1 - v.toNat) := by
    rw [← Int64.toInt_inj, Int64.toInt_sub, Int64.toInt_ofNat_of_lt positive,
      Int64.toInt_ofInt_of_le (by omega) (by omega), show (-1 : Int64).toInt = -1 from rfl, Int.bmod_def]
    omega
  unfold int64 Reader.int
  simp only [Fallible.bind_eq_ok, Prod.exists, head_mirrors]
  constructor
  · intro run
    obtain ⟨major, _, mid, ⟨v, positive, rfl, read, kept⟩, run⟩ := run
    refine ⟨⟨major, v, mid.rest, read, ?_⟩, ?_⟩
    · by_cases unsigned : major = majorUint
      · rw [if_pos unsigned] at run ⊢
        rw [if_pos positive]
        cases run
        rfl
      · rw [if_neg unsigned] at run ⊢
        by_cases negative : major = majorNegint
        · rw [if_pos negative] at run ⊢
          obtain ⟨value, rfl⟩ := Fallible.pure_eq_ok.mp run
          rw [if_pos positive, ← negated v positive, value]
          rfl
        · rw [if_neg negative] at run
          cases run
    · split at run
      · obtain ⟨_, rfl⟩ := Fallible.pure_eq_ok.mp run
        exact kept
      · split at run
        · obtain ⟨_, rfl⟩ := Fallible.pure_eq_ok.mp run
          exact kept
        · cases run
  · intro ⟨⟨major, v, rest, read, run⟩, kept⟩
    by_cases unsigned : major = majorUint
    · rw [if_pos unsigned] at run
      split at run
      · rename_i positive
        obtain ⟨value, rfl⟩ := Fallible.pure_eq_ok.mp run
        refine ⟨major, _, after, ⟨v, positive, rfl, read, kept⟩, ?_⟩
        rw [if_pos unsigned, ← value]
        rfl
      · cases run
    · rw [if_neg unsigned] at run
      by_cases negative : major = majorNegint
      · rw [if_pos negative] at run
        split at run
        · rename_i positive
          obtain ⟨value, rfl⟩ := Fallible.pure_eq_ok.mp run
          refine ⟨major, _, after, ⟨v, positive, rfl, read, kept⟩, ?_⟩
          rw [if_neg unsigned, if_pos negative, negated v positive, ← value]
          rfl
        · cases run
      · rw [if_neg negative] at run
        cases run

theorem int64_eq_ok {reader after : CborReader} {a : Int64} :
    int64 reader = (.ok a, after) ↔ reader.Past (Writer.int a) after := by
  rw [int64_mirrors, Reader.int_spells _ _ _, true_and, past_iff]

theorem not_escapes_int64 (known : Declared declared) (reader : CborReader) : ¬Escapes declared int64 reader := by
  intro escape
  rcases escapes_bind.mp escape with first | ⟨⟨major, argument⟩, mid, _, later⟩
  · exact not_escapes_head known reader first
  · revert later
    dsimp only
    split
    · exact not_escapes_pure
    · split
      · exact not_escapes_pure
      · exact not_escapes_throw (known.cbor _)

theorem finish_eq_ok {reader after : CborReader} {u : Unit} :
    finish reader = (.ok u, after) ↔ reader.rest = [] ∧ after = reader := by
  unfold finish
  rw [Fallible.bind_run_ok _ (Fallible.get_run reader), Fallible.require_eq_ok, position_toInt, bufferLength_eq,
    ← List.length_eq_zero_iff]
  constructor
  · intro ⟨same, kept⟩
    exact ⟨by omega, kept.symm⟩
  · intro ⟨same, kept⟩
    exact ⟨by omega, kept.symm⟩

theorem not_escapes_finish (known : Declared declared) (reader : CborReader) : ¬Escapes declared finish reader := by
  intro escape
  rcases escapes_bind.mp escape with ⟨_, _, run, _⟩ | ⟨_, _, _, later⟩
  · cases run
  · exact not_escapes_require (known.cbor _) later

end CborReader

/-- A call of code that throws nothing but refusals. -/
def refusing {σ α : Type} (result : Except Refusal α) : Fallible σ Thrown α := liftM (result.mapError Thrown.refusal)

/-- `value.trim().isEmpty || value.length > max`. -/
def blankOrLong (value : String) (max : Nat) : Prop := blank value = true ∨ max < utf16Len value

instance (value : String) (max : Nat) : Decidable (blankOrLong value max) := inferInstanceAs (Decidable (_ ∨ _))

def maxFrameBytes : Nat := 8192

/-- What is read from an input of a length that is allowed, with every malformed input surfaced as a format exception. -/
def decodeWith {α : Type} (limit : Nat) (lengthRefused : String) (read : Fallible CborReader Thrown α)
    (input : Uint8List) : Except Thrown α := do
  require (input.octets ≠ [] ∧ input.octets.length ≤ limit) (formatException lengthRefused)
  (read (CborReader.of input)).1.mapError Thrown.asFormat

/-- What the payloads of one family are refused with. -/
structure PayloadRefusals where
  length : String
  shape : String
  schema : String
  canonical : String

/-- A payload: its shape, its schema, its fields, nothing behind them, and one spelling for each value. -/
def readPayload {α : Type} (refused : PayloadRefusals) (fields schema : Int64) (read : Fallible CborReader Thrown α)
    (encode : α → Except Refusal Bytes) (payload : Uint8List) : Fallible CborReader Thrown α := do
  require ((← CborReader.array) = fields) (formatException refused.shape)
  require ((← CborReader.uint) = schema) (formatException refused.schema)
  let decoded ← read
  CborReader.finish
  let reencoded ← refusing (encode decoded)
  require (reencoded = payload.octets) (formatException refused.canonical)
  return decoded

def decodePayload {α : Type} (limit : Nat) (refused : PayloadRefusals) (fields schema : Int64)
    (read : Fallible CborReader Thrown α) (encode : α → Except Refusal Bytes) (payload : Uint8List) :
    Except Thrown α :=
  decodeWith limit refused.length (readPayload refused fields schema read encode payload) payload

/-- A point in time, in milliseconds. -/
def readTime : Fallible CborReader Thrown DateTime := do
  let ms ← CborReader.int64
  DateTime.fromMillisecondsSinceEpoch ms

end BioAuth.Mobile
