import BioAuth.Mobile.CborSpec

namespace BioAuth.Mobile
open BioAuth

/-- The exceptions the decoders declare before the exceptions of the reader are renamed. -/
def Refused (e : Thrown) : Prop := ∃ refusal, e = .refusal refusal

theorem refused_declared : Declared Refused := ⟨fun message => ⟨.cborException message, rfl⟩, fun ⟨_, same⟩ => nomatch same⟩

/-- One item of an input, with what the decoder goes on from. -/
inductive Item
  | number (major : Nat) (accepts : Int64 → Prop)
  | int
  | text (accepts : String → Prop)
  | bytes
  | time

namespace Item

/-- The spellings of an item after which the decoder reads on. -/
inductive Passes : Item → Bytes → Prop
  | number {major : Nat} {accepts : Int64 → Prop} (value : UInt64) (signed : value.toNat < 2 ^ 63)
      (accepted : accepts (Int64.ofNat value.toNat)) : Passes (.number major accepts) (Writer.head major value)
  | int (value : Int64) : Passes .int (Writer.int value)
  | text {accepts : String → Prop} (written : String) (accepted : accepts (dropMark written)) :
      Passes (.text accepts) (Writer.text written)
  | bytes (value : Bytes) : Passes .bytes (Writer.bytes value)
  | time (ms : Int64) (within : DateTime.Reaches ms) : Passes .time (Writer.int ms)

/-- An item the decoder does not survive: a string that wraps the position, or a number that is no point in time. -/
def Stops : Item → Nat → Bytes → Prop
  | .text _, position, octets => CborReader.Overlong majorText position octets
  | .bytes, position, octets => CborReader.Overlong majorBytes position octets
  | .time, _, octets => ∃ ms : Int64, ∃ rest, octets = Writer.int ms ++ rest ∧ ¬DateTime.Reaches ms
  | _, _, _ => False

/-- A read of an item: what it escapes on, and what it accepts. -/
structure ReadBy {α : Type} (item : Item) (read : Fallible CborReader Thrown α) (accepts : α → Prop) : Prop where
  escapes (reader : CborReader) : Escapes Refused read reader ↔ item.Stops reader.before.length reader.rest
  passes (reader after : CborReader) :
    (∃ a, accepts a ∧ read reader = (.ok a, after)) ↔ ∃ spelling, item.Passes spelling ∧ reader.Past spelling after

theorem number_readBy {major : Nat} (small : major < 8) (accepts : Int64 → Prop) :
    (number major accepts).ReadBy (CborReader.expect major) accepts where
  escapes reader := iff_of_false (CborReader.not_escapes_expect refused_declared major reader) id
  passes reader after := by
    simp only [CborReader.expect_eq_ok small]
    constructor
    · intro run
      obtain ⟨_, accepted, value, signed, rfl, past⟩ := run
      exact ⟨_, .number value signed accepted, past⟩
    · intro ⟨_, passes, past⟩
      cases passes with
      | number value signed accepted => exact ⟨_, accepted, value, signed, rfl, past⟩

theorem int_readBy : int.ReadBy CborReader.int64 (fun _ => True) where
  escapes reader := iff_of_false (CborReader.not_escapes_int64 refused_declared reader) id
  passes reader after := by
    simp only [CborReader.int64_eq_ok]
    constructor
    · intro ⟨value, _, past⟩
      exact ⟨_, .int value, past⟩
    · intro ⟨_, passes, past⟩
      cases passes with
      | int value => exact ⟨value, trivial, past⟩

theorem text_readBy (accepts : String → Prop) : (text accepts).ReadBy CborReader.text accepts where
  escapes _ := CborReader.text_escapes refused_declared
  passes reader after := by
    simp only [CborReader.text_eq_ok]
    constructor
    · intro run
      obtain ⟨_, accepted, written, rfl, past⟩ := run
      exact ⟨_, .text written accepted, past⟩
    · intro ⟨_, passes, past⟩
      cases passes with
      | text written accepted => exact ⟨_, accepted, written, rfl, past⟩

theorem bytes_readBy : bytes.ReadBy CborReader.bytes (fun _ => True) where
  escapes _ := CborReader.bytes_escapes refused_declared
  passes reader after := by
    simp only [CborReader.bytes_eq_ok]
    constructor
    · intro ⟨value, _, past⟩
      exact ⟨_, .bytes value, past⟩
    · intro ⟨_, passes, past⟩
      cases passes with
      | bytes value => exact ⟨value, trivial, past⟩

theorem time_readBy : time.ReadBy readTime (fun _ => True) where
  escapes reader := by
    rw [readTime, escapes_bind]
    constructor
    · intro either
      rcases either with first | ⟨ms, mid, run, e, _, thrown, undeclared⟩
      · exact absurd first (CborReader.not_escapes_int64 refused_declared reader)
      · refine ⟨ms, mid.rest, (CborReader.int64_eq_ok.mp run).rest, ?_⟩
        intro reaches
        rw [DateTime.fromMillisecondsSinceEpoch, dif_pos reaches] at thrown
        cases thrown
    · intro ⟨ms, rest, front, outside⟩
      have thrown : DateTime.fromMillisecondsSinceEpoch ms = .error .argumentError := dif_neg outside
      refine Or.inr ⟨ms, _, CborReader.int64_eq_ok.mpr (CborReader.past_of_front front), ?_⟩
      rw [thrown]
      exact ⟨.argumentError, _, rfl, fun ⟨_, same⟩ => nomatch same⟩
  passes reader after := by
    simp only [readTime, Fallible.bind_eq_ok, CborReader.int64_eq_ok, Fallible.liftM_eq_ok,
      DateTime.fromMillisecondsSinceEpoch_eq_ok]
    constructor
    · intro run
      obtain ⟨moment, _, _, _, past, rfl, rfl⟩ := run
      exact ⟨_, .time _ moment.within, past⟩
    · intro ⟨_, passes, past⟩
      cases passes with
      | time ms within => exact ⟨⟨ms, within⟩, trivial, ms, after, past, rfl, rfl⟩

end Item

/-- What a decoder reads next: an item, or a list of as many runs of items as its head says. -/
inductive Entry
  | item (item : Item)
  | counted (max : Nat) (each : List Item)

/-- What a decoder reads, one entry after another. -/
abbrev Layout := List Entry

def Entry.runs (each : List Item) (count : Nat) : Layout := (List.replicate count (each.map Entry.item)).flatten

/-- An input the decoder of a layout does not survive: well formed up to an item that stops it. -/
inductive Trips : Layout → Nat → Bytes → Prop
  | stops {item : Item} {next : Layout} {position : Nat} {octets : Bytes} (stops : item.Stops position octets) :
      Trips (.item item :: next) position octets
  | passes {item : Item} {next : Layout} {position : Nat} {spelling rest : Bytes} (passes : item.Passes spelling)
      (later : Trips next (position + spelling.length) rest) : Trips (.item item :: next) position (spelling ++ rest)
  | counted {max : Nat} {each : List Item} {next : Layout} {position : Nat} {rest : Bytes} (count : UInt64)
      (few : count.toNat ≤ max)
      (later : Trips (Entry.runs each count.toNat ++ next) (position + (Writer.array count).length) rest) :
      Trips (.counted max each :: next) position (Writer.array count ++ rest)

/-- A call that throws nothing but refusals. -/
def Safe {α : Type} (call : Fallible CborReader Thrown α) : Prop := ∀ reader, ¬Escapes Refused call reader

section Safe
variable {α β : Type}

theorem Safe.pure (a : α) : Safe (Pure.pure a) := fun _ => not_escapes_pure

theorem Safe.require (check : Prop) [Decidable check] (refusal : Refusal) :
    Safe (BioAuth.require check (.refusal refusal)) :=
  fun _ => not_escapes_require ⟨refusal, rfl⟩

theorem Safe.refusing (result : Except Refusal α) : Safe (refusing result) := by
  intro reader ⟨e, after, run, undeclared⟩
  cases result with
  | error refusal =>
    cases run
    exact undeclared ⟨refusal, rfl⟩
  | ok a => cases run

theorem Safe.array : Safe CborReader.array := CborReader.not_escapes_array refused_declared

theorem Safe.uint : Safe CborReader.uint := CborReader.not_escapes_uint refused_declared

theorem Safe.finish : Safe CborReader.finish := CborReader.not_escapes_finish refused_declared

theorem Safe.bind {call : Fallible CborReader Thrown α} {f : α → Fallible CborReader Thrown β} (first : Safe call)
    (next : ∀ a, Safe (f a)) : Safe (call >>= f) := by
  intro reader escape
  rcases escapes_bind.mp escape with early | ⟨a, mid, _, late⟩
  · exact first reader early
  · exact next a mid late

end Safe

/-- The call escapes exactly on the inputs that trip its layout. -/
def Follows {α : Type} (call : Fallible CborReader Thrown α) (layout : Layout) : Prop :=
  ∀ reader, Escapes Refused call reader ↔ Trips layout reader.before.length reader.rest

/-- The read takes a layout off the front: whatever goes on from its values follows the layout behind it. -/
structure Reading {α : Type} (read : Fallible CborReader Thrown α) (layout : Layout) : Prop where
  goesOn {β : Type} (f : α → Fallible CborReader Thrown β) (behind : Layout) (next : ∀ a, Follows (f a) behind) :
    Follows (read >>= f) (layout ++ behind)

section Reading
variable {α β : Type} {layout : Layout}

theorem Follows.done {call : Fallible CborReader Thrown α} (safe : Safe call) : Follows call [] :=
  fun reader => iff_of_false (safe reader) fun trips => nomatch trips

/-- A call that refuses whatever the reader holds. -/
def Refuses (call : Fallible CborReader Thrown α) : Prop :=
  ∀ reader, ∃ refusal after, call reader = (.error (.refusal refusal), after)

theorem Refuses.bind {call : Fallible CborReader Thrown α} (refuses : Refuses call)
    (f : α → Fallible CborReader Thrown β) : Refuses (call >>= f) := by
  intro reader
  obtain ⟨refusal, after, run⟩ := refuses reader
  exact ⟨refusal, after, Fallible.bind_run_error f run⟩

theorem Refuses.safe {call : Fallible CborReader Thrown α} (refuses : Refuses call) : Safe call := by
  intro reader ⟨e, after, run, undeclared⟩
  obtain ⟨refusal, mid, first⟩ := refuses reader
  rw [first] at run
  cases run
  exact undeclared ⟨refusal, rfl⟩

/-- The rule of sequence: the decoder reads on after what it accepts, and refuses the rest. -/
theorem Follows.item {item : Item} {read : Fallible CborReader Thrown α} {accepts : α → Prop}
    {f : α → Fallible CborReader Thrown β} (first : item.ReadBy read accepts)
    (next : ∀ a, accepts a → Follows (f a) layout)
    (refused : ∀ a, ¬accepts a → Refuses (f a)) : Follows (read >>= f) (.item item :: layout) := by
  intro reader
  rw [escapes_bind, first.escapes]
  constructor
  · intro either
    rcases either with stops | ⟨a, mid, run, later⟩
    · exact .stops stops
    · by_cases accepted : accepts a
      · obtain ⟨spelling, passes, past⟩ := (first.passes reader mid).mp ⟨a, accepted, run⟩
        have trips := (next a accepted mid).mp later
        rw [past.before, List.length_append] at trips
        rw [past.rest]
        exact .passes passes trips
      · exact absurd later ((refused a accepted).safe mid)
  · intro trips
    generalize front : reader.rest = octets at trips
    cases trips with
    | stops stops => exact Or.inl stops
    | @passes _ _ _ spelling rest passes later =>
      have past := CborReader.past_of_front front
      obtain ⟨a, accepted, run⟩ := (first.passes reader _).mpr ⟨spelling, passes, past⟩
      have left := List.append_cancel_left (past.rest.symm.trans front)
      refine Or.inr ⟨a, _, run, (next a accepted _).mpr ?_⟩
      rw [past.before, List.length_append, left]
      exact later

theorem refuses_require {check : Prop} [Decidable check] {refusal : Refusal} (fails : ¬check)
    (f : Unit → Fallible CborReader Thrown α) : Refuses (require check (.refusal refusal) >>= f) := by
  intro reader
  refine ⟨refusal, reader, ?_⟩
  rw [require, if_neg fails]
  rfl

/-- A read whose value is checked before the next one. -/
theorem Follows.checked {item : Item} {read : Fallible CborReader Thrown α} {accepts : α → Prop}
    [DecidablePred accepts] {refusal : Refusal} {f : α → Fallible CborReader Thrown β}
    (first : item.ReadBy read accepts) (next : ∀ a, accepts a → Follows (f a) layout) :
    Follows (read >>= fun a => require (accepts a) (.refusal refusal) >>= fun _ => f a) (.item item :: layout) := by
  refine .item first ?_ fun a rejected => refuses_require rejected _
  intro a accepted
  rw [require, if_pos accepted]
  exact next a accepted

theorem Reading.pure (a : α) : Reading (Pure.pure a : Fallible CborReader Thrown α) [] := ⟨fun _ _ next => next a⟩

theorem Reading.bind {front back : Layout} {read : Fallible CborReader Thrown α}
    {f : α → Fallible CborReader Thrown β} (first : Reading read front) (next : ∀ a, Reading (f a) back) :
    Reading (read >>= f) (front ++ back) := by
  refine ⟨fun g behind last => ?_⟩
  rw [Fallible.bind_assoc, List.append_assoc]
  exact first.goesOn _ _ fun a => (next a).goesOn g behind last

theorem Reading.item {item : Item} {read : Fallible CborReader Thrown α} {accepts : α → Prop}
    {f : α → Fallible CborReader Thrown β} (first : item.ReadBy read accepts)
    (next : ∀ a, accepts a → Reading (f a) layout) (refused : ∀ a, ¬accepts a → Refuses (f a)) :
    Reading (read >>= f) (.item item :: layout) := by
  refine ⟨fun g behind last => ?_⟩
  rw [Fallible.bind_assoc]
  exact .item first (fun a accepted => (next a accepted).goesOn g behind last) fun a rejected =>
    (refused a rejected).bind g

/-- A read that accepts every value. -/
theorem Reading.every {item : Item} {read : Fallible CborReader Thrown α} {f : α → Fallible CborReader Thrown β}
    (first : item.ReadBy read fun _ => True) (next : ∀ a, Reading (f a) layout) :
    Reading (read >>= f) (.item item :: layout) :=
  .item first (fun a _ => next a) fun _ rejected => absurd trivial rejected

theorem Reading.checked {item : Item} {read : Fallible CborReader Thrown α} {accepts : α → Prop}
    [DecidablePred accepts] {refusal : Refusal} {f : α → Fallible CborReader Thrown β}
    (first : item.ReadBy read accepts) (next : ∀ a, accepts a → Reading (f a) layout) :
    Reading (read >>= fun a => require (accepts a) (.refusal refusal) >>= fun _ => f a) (.item item :: layout) := by
  refine ⟨fun g behind last => ?_⟩
  simp only [Fallible.bind_assoc]
  exact .checked first fun a accepted => (next a accepted).goesOn g behind last

/-- A number that stands for a value of an enumeration. -/
theorem Reading.converted {major : Nat} (small : major < 8) {convert : Int64 → Except Refusal α}
    {f : α → Fallible CborReader Thrown β} (next : ∀ a, Reading (f a) layout) :
    Reading (CborReader.expect major >>= fun value => refusing (convert value) >>= f)
      (.item (.number major fun value => ∃ a, convert value = .ok a) :: layout) := by
  refine .item (Item.number_readBy small _) ?_ ?_
  · intro value ⟨a, converted⟩
    rw [converted]
    exact next a
  · intro value rejected reader
    rcases converted : convert value with refusal | a
    · exact ⟨refusal, reader, rfl⟩
    · exact absurd ⟨a, converted⟩ rejected

theorem Reading.uint {f : Int64 → Fallible CborReader Thrown β} (next : ∀ a, Reading (f a) layout) :
    Reading (CborReader.uint >>= f) (.item (.number majorUint fun _ => True) :: layout) :=
  .every (Item.number_readBy (by decide) _) next

theorem Reading.int {f : Int64 → Fallible CborReader Thrown β} (next : ∀ a, Reading (f a) layout) :
    Reading (CborReader.int64 >>= f) (.item .int :: layout) :=
  .every Item.int_readBy next

theorem Reading.text {f : String → Fallible CborReader Thrown β} (next : ∀ a, Reading (f a) layout) :
    Reading (CborReader.text >>= f) (.item (.text fun _ => True) :: layout) :=
  .every (Item.text_readBy _) next

theorem Reading.bytes {f : Bytes → Fallible CborReader Thrown β} (next : ∀ a, Reading (f a) layout) :
    Reading (CborReader.bytes >>= f) (.item .bytes :: layout) :=
  .every Item.bytes_readBy next

theorem Reading.time {f : DateTime → Fallible CborReader Thrown β} (next : ∀ a, Reading (f a) layout) :
    Reading (readTime >>= f) (.item .time :: layout) :=
  .every Item.time_readBy next

theorem Reading.times {read : Fallible CborReader Thrown α} (each : Reading read layout) (count : Nat) :
    Reading (Fallible.times read count) (List.replicate count layout).flatten := by
  induction count with
  | zero => exact .pure []
  | succ count ih =>
    have all : Reading (Fallible.times read (count + 1)) (layout ++ ((List.replicate count layout).flatten ++ [])) :=
      each.bind fun a => ih.bind fun rest => .pure (a :: rest)
    rwa [List.append_nil] at all

/-- A list whose length is checked before its runs are read. -/
theorem Reading.counted {max : Nat} (bound : max < 2 ^ 63) {each : List Item} {read : Fallible CborReader Thrown α}
    {refusal : Refusal} {f : List α → Fallible CborReader Thrown β} (run : Reading read (each.map Entry.item))
    (next : ∀ values, Reading (f values) layout) :
    Reading (CborReader.array >>= fun count => require (count.toInt ≤ max) (.refusal refusal) >>= fun _ =>
      Fallible.times read count.toInt.toNat >>= f) (.counted max each :: layout) := by
  refine ⟨fun g behind last reader => ?_⟩
  have runs (count : Nat) : Follows (Fallible.times read count >>= f >>= g) (Entry.runs each count ++ (layout ++ behind)) := by
    rw [← List.append_assoc]
    exact ((run.times count).bind next).goesOn g behind last
  rw [Fallible.bind_assoc, escapes_bind]
  constructor
  · intro either
    rcases either with first | ⟨a, mid, head, later⟩
    · exact absurd first (CborReader.not_escapes_array refused_declared reader)
    · obtain ⟨count, signed, rfl, past⟩ := CborReader.array_eq_ok.mp head
      have value : (Int64.ofNat count.toNat).toInt = count.toNat := Int64.toInt_ofNat_of_lt signed
      rw [value, Int.toNat_natCast] at later
      by_cases few : (count.toNat : Int) ≤ max
      · rw [require, if_pos few] at later
        have trips := (runs count.toNat mid).mp later
        rw [past.before, List.length_append] at trips
        rw [past.rest]
        exact .counted count (by omega) trips
      · exact absurd later (((refuses_require few _).bind g).safe mid)
  · intro trips
    generalize front : reader.rest = octets at trips
    cases trips with
    | @counted _ _ _ _ rest count few later =>
      have past := CborReader.past_of_front front
      have left := List.append_cancel_left (past.rest.symm.trans front)
      have signed : count.toNat < 2 ^ 63 := by omega
      have value : (Int64.ofNat count.toNat).toInt = count.toNat := Int64.toInt_ofNat_of_lt signed
      refine Or.inr ⟨_, _, CborReader.array_eq_ok.mpr ⟨count, signed, rfl, past⟩, ?_⟩
      rw [value, Int.toNat_natCast, require, if_pos (by omega)]
      refine (runs count.toNat _).mpr ?_
      rw [past.before, List.length_append, left]
      exact later

end Reading

/-- The decoder returns or throws a format exception, but for the inputs that trip its layout. -/
def Declares {α : Type} (decode : Uint8List → Except Thrown α) (limit : Nat) (layout : Layout) : Prop :=
  ∀ input, (∀ e, decode input = .error e → ∃ message, e = formatException message) ↔
    ¬((input.octets ≠ [] ∧ input.octets.length ≤ limit) ∧ Trips layout 0 input.octets)

section Declares
variable {α : Type} {layout : Layout}

theorem asFormat_declared (e : Thrown) : (∃ message, e.asFormat = formatException message) ↔ Refused e := by
  cases e with
  | refusal refusal =>
    refine iff_of_true ?_ ⟨refusal, rfl⟩
    cases refusal <;> exact ⟨_, rfl⟩
  | rangeError => exact iff_of_false (fun ⟨_, same⟩ => nomatch same) fun ⟨_, same⟩ => nomatch same
  | argumentError => exact iff_of_false (fun ⟨_, same⟩ => nomatch same) fun ⟨_, same⟩ => nomatch same

theorem decodeWith_declares {limit : Nat} {lengthRefused : String} {read : Uint8List → Fallible CborReader Thrown α}
    (follows : ∀ input, Follows (read input) layout) :
    Declares (fun input => decodeWith limit lengthRefused (read input) input) limit layout := by
  intro input
  dsimp only
  by_cases sized : input.octets ≠ [] ∧ input.octets.length ≤ limit
  · have decoded : decodeWith limit lengthRefused (read input) input =
        (read input (CborReader.of input)).1.mapError Thrown.asFormat := by
      rw [decodeWith, require, if_pos sized]
      rfl
    have trips := follows input (CborReader.of input)
    rw [decoded, and_iff_right sized]
    show _ ↔ ¬Trips layout (CborReader.of input).before.length (CborReader.of input).rest
    rw [← trips]
    constructor
    · intro declared ⟨e, after, run, undeclared⟩
      rw [run] at declared
      exact undeclared ((asFormat_declared e).mp (declared _ rfl))
    · intro safe e thrown
      rcases run : read input (CborReader.of input) with ⟨first | a, after⟩
      · rw [run] at thrown
        cases thrown
        rw [asFormat_declared]
        by_contra undeclared
        exact safe ⟨first, after, run, undeclared⟩
      · rw [run] at thrown
        cases thrown
  · have refused : decodeWith limit lengthRefused (read input) input = .error (formatException lengthRefused) := by
      rw [decodeWith, require, if_neg sized]
      rfl
    refine iff_of_true ?_ fun both => sized both.1
    intro e thrown
    rw [refused] at thrown
    cases thrown
    exact ⟨lengthRefused, rfl⟩

/-- The end of a payload: nothing behind it, and its one spelling. -/
theorem readPayload_follows {refused : PayloadRefusals} {fields schema : Int64} {read : Fallible CborReader Thrown α}
    {encode : α → Except Refusal Bytes} {payload : Uint8List} (reads : Reading read layout) :
    Follows (readPayload refused fields schema read encode payload)
      (.item (.number majorArray (· = fields)) :: .item (.number majorUint (· = schema)) :: layout) := by
  have last (decoded : α) : Follows (do
      CborReader.finish
      let reencoded ← refusing (encode decoded)
      require (reencoded = payload.octets) (formatException refused.canonical)
      return decoded) [] := by
    refine .done (Safe.finish.bind fun _ => ?_)
    refine (Safe.refusing _).bind fun _ => ?_
    exact (Safe.require _ _).bind fun _ => .pure decoded
  have whole := reads.goesOn _ [] last
  rw [List.append_nil] at whole
  exact .checked (Item.number_readBy (by decide) _) fun _ _ =>
    .checked (Item.number_readBy (by decide) _) fun _ _ => whole

/-- The layout of a payload. -/
def payloadLayout (fields schema : Int64) (layout : Layout) : Layout :=
  .item (.number majorArray (· = fields)) :: .item (.number majorUint (· = schema)) :: layout

theorem decodePayload_declares {limit : Nat} {refused : PayloadRefusals} {fields schema : Int64}
    {read : Fallible CborReader Thrown α} {encode : α → Except Refusal Bytes} (reads : Reading read layout) :
    Declares (decodePayload limit refused fields schema read encode) limit (payloadLayout fields schema layout) :=
  decodeWith_declares fun _ => readPayload_follows reads

end Declares

end BioAuth.Mobile
