import BioAuth.Mobile.RequestAgreement
import BioAuth.Protocol.Codec

namespace BioAuth.Mobile
open BioAuth
open BioAuth.Protocol (ProtocolError Exact maxApplicationPayloadBytes)

/-- How the phone's record of a message stands for the desktop's. -/
structure View (M P : Type) where
  record : M → P
  /-- The message without the marks its texts start with. -/
  unmark : M → M
  /-- Its lists are within what one payload may count. -/
  few : M → Prop
  /-- Its numbers are within a signed word. -/
  held : M → Prop
  texts : M → List String
  /-- What the phone checks of it. -/
  good : M → Prop

/-- What the desktop reads is within its limit. -/
theorem decodePayload_within {M : Type} {fields schema : UInt64} {parse : Parse ProtocolError M} {encode : M → Bytes}
    {validate : M → Except ProtocolError Unit} {payload : Bytes} {message : M}
    (run : Protocol.decodePayload fields schema parse encode validate payload = .ok message) :
    payload.length ≤ maxApplicationPayloadBytes := by
  simp only [Protocol.decodePayload, except_bind_eq_ok, except_require_eq_ok] at run
  obtain ⟨_, ⟨_, size⟩, _⟩ := run
  exact size

namespace View
variable {M P : Type}

/-- The phone takes the message as it stands. -/
structure Suits (view : View M P) (message : M) : Prop where
  held : view.held message
  good : view.good message
  unmarked : ∀ text ∈ view.texts message, marked text = false

/-- The phone's codec goes by the view. -/
structure Faithful (view : View M P) (limit : Nat) (body encode : M → Bytes) (read : Fallible CborReader Thrown P)
    (write : P → Except Refusal Bytes) : Prop where
  few_of_good : ∀ {message}, view.good message → view.few message
  reads : ∀ {message}, view.few message → Meets read (body message) fun record =>
    view.held message ∧ record = view.record (view.unmark message)
  marks : ∀ {message}, view.record (view.unmark message) = view.record message ↔
    ∀ text ∈ view.texts message, marked text = false
  written : ∀ {record payload}, write record = .ok payload → ∃ message, view.held message ∧ record = view.record message
  writes : ∀ {message payload}, view.held message → payload.length ≤ limit →
    (write (view.record message) = .ok payload ↔ view.good message ∧ payload = encode message)

/-- What a payload that was read encodes to. -/
theorem decodePayload_encodes {limit : Nat} {refused : PayloadRefusals} {fields schema : Int64}
    {read : Fallible CborReader Thrown P} {write : P → Except Refusal Bytes} {payload : Uint8List} {record : P}
    (run : decodePayload limit refused fields schema read write payload = .ok record) :
    payload.octets.length ≤ limit ∧ write record = .ok payload.octets := by
  unfold decodePayload readPayload at run
  obtain ⟨⟨_, size⟩, after, run⟩ := decodeWith_eq_ok.mp run
  simp only [refusing, Fallible.bind_eq_ok, Fallible.require_eq_ok, Fallible.pure_eq_ok, Fallible.liftM_eq_ok,
    except_mapError_eq_ok] at run
  obtain ⟨_, _, _, _, _, _, _, _, _, _, _, _, _, _, _, _, _, _, _, _, ⟨encoded, _⟩, _, _, ⟨rfl, _⟩, rfl, _⟩ := run
  exact ⟨size, encoded⟩

section Decoding
variable {view : View M P} {limit : Nat} {body encode : M → Bytes} {read : Fallible CborReader Thrown P}
  {write : P → Except Refusal Bytes} {fields schema : UInt64} {refused : PayloadRefusals} {payload : Uint8List}
  {record : P}

/-- What the phone reads is the message that was sent, when that suits it, and nothing else is read. -/
theorem Faithful.decodePayload_eq_ok (faithful : view.Faithful limit body encode read write)
    (spelled : ∀ message, encode message = Writer.array fields ++ (Writer.uint schema ++ body message))
    (arity : fields.toNat < 2 ^ 63) (early : schema.toNat < 2 ^ 63) :
    decodePayload limit refused (Int64.ofNat fields.toNat) (Int64.ofNat schema.toNat) read write payload = .ok record ↔
      payload.octets.length ≤ limit ∧
        ∃ message, payload.octets = encode message ∧ view.Suits message ∧ record = view.record message := by
  constructor
  · intro run
    obtain ⟨size, encoded⟩ := decodePayload_encodes run
    obtain ⟨message, held, rfl⟩ := faithful.written encoded
    obtain ⟨good, whole⟩ := (faithful.writes held size).mp encoded
    have met := faithful.reads (faithful.few_of_good good)
    obtain ⟨_, ⟨_, same⟩, _⟩ := (Mobile.decodePayload_eq_ok met (whole.trans (spelled message)) arity early).mp run
    exact ⟨size, message, whole, ⟨held, good, faithful.marks.mp same.symm⟩, rfl⟩
  · intro ⟨size, message, whole, suits, same⟩
    have met := faithful.reads (faithful.few_of_good suits.good)
    have kept := faithful.marks.mpr suits.unmarked
    refine (Mobile.decodePayload_eq_ok met (whole.trans (spelled message)) arity early).mpr
      ⟨size, ⟨suits.held, same.trans kept.symm⟩, ?_⟩
    rw [same]
    exact (faithful.writes suits.held size).mpr ⟨suits.good, whole⟩

/-- The phone reads a spelling exactly when it is within its limit and the one message it spells suits the phone. -/
theorem Faithful.read_iff {ε : Type} {parse : Parse ε M} (faithful : view.Faithful limit body encode read write)
    (spelled : ∀ message, encode message = Writer.array fields ++ (Writer.uint schema ++ body message))
    (reads : ∀ message, Parse.Reads Protocol.wireLimit parse (body message) message)
    (arity : fields.toNat < 2 ^ 63) (early : schema.toNat < 2 ^ 63) (small : limit < 2 ^ 61) (message : M) :
    (∃ record, decodePayload limit refused (Int64.ofNat fields.toNat) (Int64.ofNat schema.toNat) read write
        (.ofBytes (encode message)) = .ok record) ↔
      (encode message).length ≤ limit ∧ view.Suits message := by
  have octets (size : (encode message).length ≤ limit) :
      (Uint8List.ofBytes (encode message)).octets = encode message :=
    Uint8List.ofBytes_octets (by omega)
  constructor
  · intro ⟨record, run⟩
    obtain ⟨size, other, whole, suits, _⟩ := (faithful.decodePayload_eq_ok spelled arity early).mp run
    have within : (encode message).length ≤ limit := by
      rw [Uint8List.ofBytes, List.length_take] at size
      omega
    rw [octets within] at whole
    have bodies : body message = body other := by
      rw [spelled, spelled] at whole
      exact List.append_cancel_left (List.append_cancel_left whole)
    have short : (body message).length < Protocol.wireLimit := by
      rw [spelled, List.length_append, List.length_append] at within
      unfold Protocol.wireLimit
      omega
    have same := (reads message).injective (bodies ▸ reads other) short
    exact ⟨within, same ▸ suits⟩
  · intro ⟨size, suits⟩
    exact ⟨_, (faithful.decodePayload_eq_ok spelled arity early).mpr
      ⟨(congrArg List.length (octets size)).le.trans size, message, octets size, suits, rfl⟩⟩

/-- The phone checks what the desktop checks, and that the named texts are not blank to it either. -/
def Stricter (view : View M P) (limit : Nat) (encode : M → Bytes) (validate : M → Except ProtocolError Unit)
    (named : M → List String) : Prop :=
  ∀ message, (encode message).length ≤ limit →
    (view.good message ↔ validate message = .ok () ∧ ∀ text ∈ named message, blank text = false)

variable {validate : M → Except ProtocolError Unit} {parse : Parse ProtocolError M} {named : M → List String}

/-- The phone reads what the desktop reads and suits it. -/
theorem Faithful.decode_iff (faithful : view.Faithful maxApplicationPayloadBytes body encode read write)
    (stricter : view.Stricter maxApplicationPayloadBytes encode validate named)
    (exact : Exact encode validate (Protocol.decodePayload fields schema parse encode validate) maxApplicationPayloadBytes)
    (spelled : ∀ message, encode message = Writer.array fields ++ (Writer.uint schema ++ body message))
    (arity : fields.toNat < 2 ^ 63) (early : schema.toNat < 2 ^ 63) :
    decodePayload maxApplicationPayloadBytes refused (Int64.ofNat fields.toNat) (Int64.ofNat schema.toNat) read write
        payload = .ok record ↔
      ∃ message, Protocol.decodePayload fields schema parse encode validate payload.octets = .ok message ∧
        view.Suits message ∧ record = view.record message := by
  rw [faithful.decodePayload_eq_ok spelled arity early]
  constructor
  · intro ⟨size, message, whole, suits, same⟩
    refine ⟨message, ?_, suits, same⟩
    rw [whole] at size ⊢
    exact exact.complete message ((stricter message size).mp suits.good).1 size
  · intro ⟨message, run, suits, same⟩
    exact ⟨decodePayload_within run, message, (exact.canonical _ _ run).symm, suits, same⟩

/-- The two sides read one input alike: both refuse it, or both read it and every field is the same. -/
def Alike (view : View M P) (desktop : Except ProtocolError M) (phone : Except Thrown P) : Prop :=
  (∀ message, desktop = .ok message → ∃ record, phone = .ok record ∧ view.held message ∧ record = view.record message) ∧
    ∀ record, phone = .ok record → ∃ message, desktop = .ok message ∧ view.held message ∧ record = view.record message

/-- A message both sides take alike: its numbers are within a signed word, no text starts with a byte order mark, and no
named text is blank to the phone. -/
structure Shared (view : View M P) (named : M → List String) (message : M) : Prop where
  held : view.held message
  unmarked : ∀ text ∈ view.texts message, marked text = false
  named : ∀ text ∈ named message, blank text = false

/-- Exactly the spellings of valid messages that are not shared are read differently. -/
def ReadAlike (view : View M P) (encode : M → Bytes) (validate : M → Except ProtocolError Unit) (named : M → List String)
    (desktop : Bytes → Except ProtocolError M) (phone : Uint8List → Except Thrown P) : Prop :=
  ∀ payload : Uint8List, view.Alike (desktop payload.octets) (phone payload) ↔
    ∀ message, payload.octets = encode message → payload.octets.length ≤ maxApplicationPayloadBytes →
      validate message = .ok () → view.Shared named message

/-- A payload is read alike but where it spells a valid message that is not shared. -/
def ReadsAlike (view : View M P) (encode : M → Bytes) (validate : M → Except ProtocolError Unit) (named : M → List String)
    (desktop : Bytes → Except ProtocolError M) (phone : Uint8List → Except Thrown P) (payload : Uint8List) : Prop :=
  view.Alike (desktop payload.octets) (phone payload) ↔
    ∀ message, payload.octets = encode message → payload.octets.length ≤ maxApplicationPayloadBytes →
      validate message = .ok () → view.Shared named message

theorem Faithful.readAlike (faithful : view.Faithful maxApplicationPayloadBytes body encode read write)
    (stricter : view.Stricter maxApplicationPayloadBytes encode validate named)
    (exact : Exact encode validate (Protocol.decodePayload fields schema parse encode validate) maxApplicationPayloadBytes)
    (spelled : ∀ message, encode message = Writer.array fields ++ (Writer.uint schema ++ body message))
    (arity : fields.toNat < 2 ^ 63) (early : schema.toNat < 2 ^ 63) :
    view.ReadAlike encode validate named (Protocol.decodePayload fields schema parse encode validate)
      (decodePayload maxApplicationPayloadBytes refused (Int64.ofNat fields.toNat) (Int64.ofNat schema.toNat) read
        write) := by
  intro payload
  have phone {record : P} :
      decodePayload maxApplicationPayloadBytes refused (Int64.ofNat fields.toNat) (Int64.ofNat schema.toNat) read write
          payload = .ok record ↔ _ :=
    faithful.decode_iff stricter exact spelled arity early
  constructor
  · intro ⟨forth, _⟩ message whole size passed
    rw [whole] at size
    have run := exact.complete message passed size
    rw [← whole] at run
    obtain ⟨record, read, _⟩ := forth message run
    obtain ⟨other, same, suits, _⟩ := phone.mp read
    cases run.symm.trans same
    exact ⟨suits.held, suits.unmarked, ((stricter message size).mp suits.good).2⟩
  · intro shared
    constructor
    · intro message run
      have whole := (exact.canonical _ _ run).symm
      have size := decodePayload_within run
      have passed := (Protocol.decodePayload_eq_ok run).2
      have both := shared message whole size passed
      rw [whole] at size
      have good := (stricter message size).mpr ⟨passed, both.named⟩
      exact ⟨_, phone.mpr ⟨message, run, ⟨both.held, good, both.unmarked⟩, rfl⟩, both.held, rfl⟩
    · intro record read
      obtain ⟨message, run, suits, same⟩ := phone.mp read
      exact ⟨message, run, suits.held, same⟩

end Decoding

end View

/-- A text that may not be blank, and is of bounded length, to the phone. -/
def Named (max : Nat) (text : String) : Prop := blank text = false ∧ utf16Len text ≤ max

/-- Whatever the desktop takes as blank, the phone does. -/
theorem filled_of_filled {text : String} (filled : blank text = false) : Protocol.blank text = false := by
  by_contra spaces
  rw [Bool.not_eq_false, Protocol.blank, List.all_eq_true] at spaces
  have trims : ∀ c ∈ text.toList, trimmed c = true := by
    intro c member
    have space := spaces c member
    simp only [Protocol.whitespace, Bool.or_eq_true, Bool.and_eq_true, decide_eq_true_eq] at space
    simp only [trimmed, Bool.or_eq_true, Bool.and_eq_true, decide_eq_true_eq]
    exact Or.inl space
  rw [blank, List.all_eq_true.mpr trims] at filled
  cases filled

theorem named_iff {text : String} {max : Nat} :
    Named max text ↔ (Protocol.blank text = false ∧ utf16Len text ≤ max) ∧ blank text = false :=
  ⟨fun named => ⟨⟨filled_of_filled named.1, named.2⟩, named.1⟩, fun both => ⟨both.2, both.1.2⟩⟩

theorem text_within {text : String} (units : utf16Len text ≤ 4096) : CborWriter.text text = Writer.text text := by
  have octets := utf8_length_le text
  exact CborWriter.text_eq (by omega)

theorem bytes_within {octets : Bytes} (size : octets.length ≤ 4096) : CborWriter.bytes octets = Writer.bytes octets :=
  CborWriter.bytes_eq (by omega)

/-- A number the phone can hold, as it writes it. -/
theorem uint_held {number : UInt64} (held : number.toNat < 2 ^ 63) :
    CborWriter.uint (Int64.ofNat number.toNat) = .ok (Writer.uint number) := by
  have same : (Int64.ofNat number.toNat).toInt = number.toNat := Int64.toInt_ofNat_of_lt held
  rw [CborWriter.uint_eq (by omega), same, Int.toNat_natCast, UInt64.ofNat_toNat]

theorem exists_held {number : Int64} (nonneg : 0 ≤ number) : ∃ held : UInt64, held.toNat < 2 ^ 63 ∧ number = Int64.ofNat held.toNat := by
  have least := Int64.le_iff_toInt_le.mp nonneg
  have largest := number.toInt_lt
  have zero : (0 : Int64).toInt = 0 := rfl
  have size : (UInt64.ofNat number.toInt.toNat).toNat = number.toInt.toNat := by
    rw [UInt64.toNat_ofNat']
    omega
  refine ⟨UInt64.ofNat number.toInt.toNat, by omega, ?_⟩
  rw [size, ← Int64.toInt_inj, Int64.toInt_ofNat_of_lt (by omega)]
  omega

theorem nonneg_of_held {number : UInt64} (held : number.toNat < 2 ^ 63) : 0 ≤ Int64.ofNat number.toNat := by
  have same : (Int64.ofNat number.toNat).toInt = number.toNat := Int64.toInt_ofNat_of_lt held
  have zero : (0 : Int64).toInt = 0 := rfl
  rw [Int64.le_iff_toInt_le]
  omega

end BioAuth.Mobile
