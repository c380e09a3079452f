import BioAuth.Mobile.CborSpec

namespace BioAuth.Mobile
open BioAuth

/-- On a spelling of the desktop the read brings what `result` says, whatever follows, and stands behind the spelling. -/
structure Meets {α : Type} (read : Fallible CborReader Thrown α) (spelling : Bytes) (result : α → Prop) : Prop where
  run_iff {reader after : CborReader} (past : reader.Past spelling after) {a : α} {stand : CborReader} :
    read reader = (.ok a, stand) ↔ result a ∧ stand = after

namespace Meets
variable {α β : Type}

theorem mono {read : Fallible CborReader Thrown α} {spelling : Bytes} {result other : α → Prop}
    (meets : Meets read spelling result) (same : ∀ a, result a ↔ other a) : Meets read spelling other where
  run_iff {reader after} past {a stand} := by rw [meets.run_iff past, same a]

theorem bind {read : Fallible CborReader Thrown α} {f : α → Fallible CborReader Thrown β} {front back : Bytes}
    {result : α → Prop} {later : α → β → Prop} (first : Meets read front result)
    (next : ∀ a, result a → Meets (f a) back (later a)) :
    Meets (read >>= f) (front ++ back) fun b => ∃ a, result a ∧ later a b where
  run_iff {reader after} past {b stand} := by
    obtain ⟨mid, before, behind⟩ := past.split
    rw [Fallible.bind_eq_ok]
    constructor
    · intro ⟨a, between, read, rest⟩
      obtain ⟨found, same⟩ := (first.run_iff before).mp read
      rw [same] at rest
      obtain ⟨good, last⟩ := ((next a found).run_iff behind).mp rest
      exact ⟨⟨a, found, good⟩, last⟩
    · intro ⟨⟨a, found, good⟩, last⟩
      exact ⟨a, mid, (first.run_iff before).mpr ⟨found, rfl⟩, ((next a found).run_iff behind).mpr ⟨good, last⟩⟩

theorem pure (a : α) : Meets (Pure.pure a : Fallible CborReader Thrown α) [] (· = a) where
  run_iff {reader after} past {b stand} := by
    have here : reader.Past [] reader := CborReader.past_iff.mpr ⟨rfl, rfl⟩
    rw [Fallible.pure_eq_ok, past.unique here]
    exact and_congr eq_comm eq_comm

theorem trailing {read : Fallible CborReader Thrown α} {spelling : Bytes} {result : α → Prop}
    (meets : Meets read (spelling ++ []) result) : Meets read spelling result := by
  rwa [List.append_nil] at meets

/-- A check reads nothing. -/
theorem require (check : Prop) [Decidable check] (e : Thrown) {read : Fallible CborReader Thrown β}
    {spelling : Bytes} {later : β → Prop} (next : check → Meets read spelling later) :
    Meets (BioAuth.require check e >>= fun _ => read) spelling fun b => check ∧ later b where
  run_iff {reader after} past {b stand} := by
    rw [Fallible.require_bind_eq_ok, and_assoc]
    constructor
    · intro ⟨pass, run⟩
      exact ⟨pass, ((next pass).run_iff past).mp run⟩
    · intro ⟨pass, good⟩
      exact ⟨pass, ((next pass).run_iff past).mpr good⟩

theorem refusing (checked : Except Refusal α) {f : α → Fallible CborReader Thrown β} {spelling : Bytes}
    {later : α → β → Prop} (next : ∀ a, checked = .ok a → Meets (f a) spelling (later a)) :
    Meets (Mobile.refusing checked >>= f) spelling fun b => ∃ a, checked = .ok a ∧ later a b where
  run_iff {reader after} past {b stand} := by
    cases checked with
    | error refusal => exact iff_of_false (fun run => nomatch run) fun ⟨⟨_, same, _⟩, _⟩ => nomatch same
    | ok a =>
      have goesOn : (Mobile.refusing (.ok a) >>= f) reader = f a reader := rfl
      rw [goesOn, (next a rfl).run_iff past]
      constructor
      · intro ⟨good, last⟩
        exact ⟨⟨a, rfl, good⟩, last⟩
      · intro ⟨⟨_, same, good⟩, last⟩
        cases same
        exact ⟨good, last⟩

/-- A read that takes exactly the spellings of its values. -/
theorem of_past {γ : Type} {read : Fallible CborReader Thrown α} {spell : γ → Bytes} (value : γ → α → Prop)
    (reads : ∀ {reader after a}, read reader = (.ok a, after) ↔ ∃ c, value c a ∧ reader.Past (spell c) after)
    {c : γ} (single : ∀ d t u, (spell d ++ t).length < 2 ^ 62 → spell d ++ t = spell c ++ u → d = c) :
    Meets read (spell c) (value c) where
  run_iff {reader after} past {a stand} := by
    have fits := reader.fits
    rw [List.length_append] at fits
    rw [reads]
    constructor
    · intro ⟨d, found, other⟩
      have short : (spell d ++ stand.rest).length < 2 ^ 62 := by
        rw [← other.rest]
        omega
      have same := single d _ _ short (other.rest.symm.trans past.rest)
      rw [same] at other found
      exact ⟨found, other.unique past⟩
    · intro ⟨found, same⟩
      rw [same]
      exact ⟨c, found, past⟩

theorem expect {major : Nat} (small : major < 8) (value : UInt64) :
    Meets (CborReader.expect major) (Writer.head major value)
      fun a => value.toNat < 2 ^ 63 ∧ a = Int64.ofNat value.toNat := by
  refine of_past (fun (v : UInt64) a => v.toNat < 2 ^ 63 ∧ a = Int64.ofNat v.toNat) ?_ ?_
  · intro reader after a
    simp only [CborReader.expect_eq_ok small, and_assoc]
  · intro other t u _ same
    exact ((Reader.expect_spells small).injective trivial trivial same).1

theorem array (value : UInt64) :
    Meets CborReader.array (Writer.array value) fun a => value.toNat < 2 ^ 63 ∧ a = Int64.ofNat value.toNat :=
  expect (by decide) value

theorem uint (value : UInt64) :
    Meets CborReader.uint (Writer.uint value) fun a => value.toNat < 2 ^ 63 ∧ a = Int64.ofNat value.toNat :=
  expect (by decide) value

theorem int (value : Int64) : Meets CborReader.int64 (Writer.int value) (· = value) := by
  refine of_past (fun v a => a = v) ?_ ?_
  · intro reader after a
    simp only [CborReader.int64_eq_ok, exists_eq_left']
  · intro other t u _ same
    exact (Reader.int_spells.injective trivial trivial same).1

theorem bytes (value : Bytes) : Meets CborReader.bytes (Writer.bytes value) (· = value) := by
  refine of_past (fun v a => a = v) ?_ ?_
  · intro reader after a
    simp only [CborReader.bytes_eq_ok, exists_eq_left']
  · intro other t u short same
    have size := congrArg List.length same
    simp only [Writer.bytes, List.length_append] at short size
    have left : other.length < 2 ^ 64 := by omega
    have right : value.length < 2 ^ 64 := by omega
    exact (Reader.bytes_spells.injective left right same).1

theorem text (value : String) : Meets CborReader.text (Writer.text value) (· = dropMark value) := by
  refine of_past (fun v a => a = dropMark v) CborReader.text_eq_ok ?_
  intro other t u short same
  have size := congrArg List.length same
  simp only [Writer.text, List.length_append] at short size
  have left : (utf8 other).length < 2 ^ 64 := by omega
  have right : (utf8 value).length < 2 ^ 64 := by omega
  exact (Reader.text_spells.injective left right same).1

theorem time (ms : Int64) : Meets readTime (Writer.int ms) (fun moment => moment.millisecondsSinceEpoch = ms) where
  run_iff {reader after} past {a stand} := by
    simp only [readTime, Fallible.bind_eq_ok, (int ms).run_iff past, Fallible.liftM_eq_ok,
      DateTime.fromMillisecondsSinceEpoch_eq_ok]
    constructor
    · intro run
      obtain ⟨_, _, ⟨rfl, rfl⟩, same, rfl⟩ := run
      exact ⟨same, rfl⟩
    · intro ⟨same, last⟩
      exact ⟨ms, after, ⟨rfl, rfl⟩, same, last.symm⟩

/-- One spelling after another. -/
theorem times {γ : Type} {read : Fallible CborReader Thrown α} {spell : γ → Bytes} {value : γ → α} (items : List γ)
    (each : ∀ item ∈ items, Meets read (spell item) (· = value item)) :
    Meets (Fallible.times read items.length) (items.flatMap spell) (· = items.map value) := by
  induction items with
  | nil => exact .pure []
  | cons item items ih =>
    have later := ih fun other member => each other (List.mem_cons_of_mem _ member)
    have chain := (each item List.mem_cons_self).bind fun first _ => later.bind fun rest _ => .pure (first :: rest)
    rw [List.append_nil] at chain
    refine Meets.mono chain fun read => ?_
    simp only [exists_eq_left, List.map_cons]

/-- A read of the whole input, with checks behind it that read nothing more. -/
theorem finish_bind {read : Fallible CborReader Thrown α} {result good : α → Prop} {input : Uint8List}
    (meets : Meets read input.octets result) {f : α → Fallible CborReader Thrown β} {b : β}
    (checks : ∀ a reader, (∃ after, f a reader = (.ok b, after)) ↔ good a) :
    (∃ after, (do let value ← read; CborReader.finish; f value) (CborReader.of input) = (.ok b, after)) ↔
      ∃ a, result a ∧ good a := by
  have whole : (CborReader.of input).rest = input.octets ++ [] := (List.append_nil _).symm
  have past := CborReader.past_of_front whole
  have left := List.append_cancel_left (past.rest.symm.trans whole)
  constructor
  · intro ⟨after, run⟩
    obtain ⟨a, stand, first, later⟩ := Fallible.bind_eq_ok.mp run
    obtain ⟨_, behind, _, last⟩ := Fallible.bind_eq_ok.mp later
    exact ⟨a, ((meets.run_iff past).mp first).1, (checks a behind).mp ⟨after, last⟩⟩
  · intro ⟨a, found, holds⟩
    have done : CborReader.finish _ = (.ok (), _) := CborReader.finish_eq_ok.mpr ⟨left, rfl⟩
    obtain ⟨after, last⟩ := (checks a _).mpr holds
    exact ⟨after, Fallible.bind_eq_ok.mpr ⟨a, _, (meets.run_iff past).mpr ⟨found, rfl⟩,
      Fallible.bind_eq_ok.mpr ⟨(), _, done, last⟩⟩⟩

/-- A read of the whole input. -/
theorem finish_eq_ok {read : Fallible CborReader Thrown α} {result : α → Prop} {input : Uint8List}
    (meets : Meets read input.octets result) (a : α) :
    (∃ after, (do let value ← read; CborReader.finish; return value) (CborReader.of input) = (.ok a, after)) ↔
      result a := by
  have alone : ∀ value reader,
      (∃ after, (Pure.pure value : Fallible CborReader Thrown α) reader = (.ok a, after)) ↔ value = a := by
    intro value reader
    simp only [Fallible.pure_eq_ok, exists_and_left, exists_eq', and_true]
  refine (meets.finish_bind alone).trans ⟨?_, fun found => ⟨a, found, rfl⟩⟩
  intro ⟨_, found, same⟩
  exact same ▸ found

end Meets

theorem decodeWith_eq_ok {α : Type} {limit : Nat} {lengthRefused : String} {read : Fallible CborReader Thrown α}
    {input : Uint8List} {a : α} :
    decodeWith limit lengthRefused read input = .ok a ↔
      (input.octets ≠ [] ∧ input.octets.length ≤ limit) ∧ ∃ after, read (CborReader.of input) = (.ok a, after) := by
  unfold decodeWith
  rw [except_bind_eq_ok]
  simp only [except_require_eq_ok]
  rcases run : read (CborReader.of input) with ⟨e | value, after⟩
  · exact iff_of_false (fun ⟨_, _, same⟩ => nomatch same) fun ⟨_, _, same⟩ => nomatch same
  · constructor
    · intro ⟨_, sized, same⟩
      cases same
      exact ⟨sized, after, rfl⟩
    · intro ⟨sized, _, same⟩
      cases same
      exact ⟨(), sized, rfl⟩

/-- What the phone makes of a payload of the desktop. -/
theorem decodePayload_eq_ok {α : Type} {limit : Nat} {refused : PayloadRefusals} {fields schema : UInt64}
    {read : Fallible CborReader Thrown α} {encode : α → Except Refusal Bytes} {body : Bytes} {result : α → Prop}
    (meets : Meets read body result) {payload : Uint8List}
    (whole : payload.octets = Writer.array fields ++ (Writer.uint schema ++ body)) (few : fields.toNat < 2 ^ 63)
    (early : schema.toNat < 2 ^ 63) {a : α} :
    decodePayload limit refused (Int64.ofNat fields.toNat) (Int64.ofNat schema.toNat) read encode payload = .ok a ↔
      payload.octets.length ≤ limit ∧ result a ∧ encode a = .ok payload.octets := by
  have filled : payload.octets ≠ [] := by
    rw [whole]
    exact List.append_ne_nil_of_left_ne_nil (Writer.head_ne_nil _ _) _
  have chain := (Meets.array fields).bind fun count _ =>
    .require (count = Int64.ofNat fields.toNat) (formatException refused.shape) fun _ =>
    (Meets.uint schema).bind fun found _ =>
    .require (found = Int64.ofNat schema.toNat) (formatException refused.schema) fun _ => meets
  rw [← whole] at chain
  have checks : ∀ (value : α) (reader : CborReader),
      (∃ after, (do
        let reencoded ← refusing (encode value)
        require (reencoded = payload.octets) (formatException refused.canonical)
        return value : Fallible CborReader Thrown α) reader = (.ok a, after)) ↔
        value = a ∧ encode value = .ok payload.octets := by
    intro value reader
    simp only [refusing, Fallible.liftM_bind_eq_ok, Fallible.require_bind_eq_ok, Fallible.pure_eq_ok,
      except_mapError_eq_ok]
    constructor
    · intro ⟨_, _, encoded, rfl, same, _⟩
      exact ⟨same, encoded⟩
    · intro ⟨same, encoded⟩
      exact ⟨reader, _, encoded, rfl, same, rfl⟩
  have ends := chain.finish_bind checks
  simp only [Fallible.bind_assoc] at ends
  unfold decodePayload readPayload
  rw [decodeWith_eq_ok, ends]
  constructor
  · intro ⟨⟨_, size⟩, value, ⟨_, _, _, _, _, _, found⟩, same, encoded⟩
    subst same
    exact ⟨size, found, encoded⟩
  · intro ⟨size, found, encoded⟩
    exact ⟨⟨filled, size⟩, a, ⟨_, ⟨few, rfl⟩, rfl, _, ⟨early, rfl⟩, rfl, found⟩, rfl, encoded⟩

end BioAuth.Mobile
