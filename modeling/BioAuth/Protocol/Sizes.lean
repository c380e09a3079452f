import BioAuth.Protocol.Messages

namespace BioAuth

namespace Writer

/-- How long the head of an argument is. -/
def headSize (value : Nat) : Nat :=
  if value ≤ 23 then 1 else if value ≤ 0xff then 2 else if value ≤ 0xffff then 3 else if value ≤ 0xffff_ffff then 5 else 9

theorem head_length (major : Nat) (argument : UInt64) : (head major argument).length = headSize argument.toNat := by
  unfold head headSize
  dsimp only
  split_ifs <;> simp

theorem uint_length (value : UInt64) : (uint value).length = headSize value.toNat := head_length majorUint value

/-- How many octets a text comes to. -/
def textSize (value : String) : Nat := headSize (utf8 value).length + (utf8 value).length

theorem text_length {value : String} (short : (utf8 value).length < 2 ^ 64) : (text value).length = textSize value := by
  have whole : (UInt64.ofNat (utf8 value).length).toNat = (utf8 value).length := by
    rw [UInt64.toNat_ofNat']
    omega
  rw [text, List.length_append, head_length, whole, textSize]

end Writer

namespace Protocol

/-- A text of so many code units, as octets. -/
theorem text_short {field value : String} {max : Nat} (checked : checkText field value max = .ok ()) :
    (utf8 value).length ≤ 3 * max := by
  have units := (checkText_eq_ok.mp checked).2
  have octets := utf8_length_le value
  omega

theorem operation_short {operation : String} (valid : validOperation operation = true) : (utf8 operation).length ≤ 64 := by
  unfold validOperation at valid
  split at valid
  · cases valid
  · simp only [Bool.and_eq_true, decide_eq_true_eq] at valid
    exact valid.1.1.2

theorem ApplicationFrame.payload_short {frame : ApplicationFrame} (valid : frame.validate = .ok ()) :
    frame.payload.length ≤ maxApplicationPayloadBytes := by
  simp only [ApplicationFrame.validate, except_bind_eq_ok] at valid
  obtain ⟨_, _, _, _, _, _, _, payload, _⟩ := valid
  exact except_require_eq_ok.mp payload

/-- A valid frame comes to less than 7000 octets. -/
theorem ApplicationFrame.encode_length_lt {frame : ApplicationFrame} (valid : frame.validate = .ok ()) :
    frame.encode.length < 7000 := by
  have within := payload_short valid
  simp only [ApplicationFrame.validate, except_bind_eq_ok] at valid
  obtain ⟨_, _, _, requestId, _, operation, _⟩ := valid
  have named := text_short requestId
  have space := operation_short (except_require_eq_ok.mp operation)
  have requestId := Writer.text_length_le frame.requestId
  have binding := Writer.bytes_length_le frame.sessionBinding.val
  have operation := Writer.text_length_le frame.operation
  have payload := Writer.bytes_length_le frame.payload
  have count := Writer.head_length_le majorArray applicationFrameLen
  have kind := Writer.head_length_le majorUint messageTypeApplication
  have version := Writer.head_length_le majorUint frame.protocolVersion
  have wire := Writer.head_length_le majorUint frame.kind.wire
  have issuedAt := Writer.int_length_le frame.issuedAtMs
  have expiresAt := Writer.int_length_le frame.expiresAtMs
  have block := frame.sessionBinding.property
  unfold sessionBindingLen at block
  unfold maxApplicationPayloadBytes at within
  simp only [ApplicationFrame.encode, ApplicationFrame.body, Writer.array, Writer.uint, List.flatten_cons,
    List.flatten_nil, List.length_append, List.length_nil]
  omega

/-- No valid frame is too long for the wire. -/
theorem ApplicationFrame.encode_short {frame : ApplicationFrame} (valid : frame.validate = .ok ()) :
    frame.encode.length ≤ maxFrameBytes :=
  Nat.le_of_lt (Nat.lt_of_lt_of_le (encode_length_lt valid) (by decide))

/-- No valid enrolment is either. -/
theorem Enrolment.encode_short {enrolment : Enrolment} (valid : enrolment.validate = .ok ()) :
    enrolment.encode.length ≤ maxFrameBytes := by
  simp only [Enrolment.validate, except_bind_eq_ok] at valid
  obtain ⟨_, _, _, deviceName, _, credentialId, _, algorithm, publicKey⟩ := valid
  have size := (except_require_eq_ok.mp publicKey).2
  have named := text_short deviceName
  have identified := text_short credentialId
  have chosen := text_short algorithm
  have deviceName := Writer.text_length_le enrolment.deviceName
  have credentialId := Writer.text_length_le enrolment.credentialId
  have algorithm := Writer.text_length_le enrolment.algorithm
  have publicKey := Writer.bytes_length_le enrolment.publicKey
  have number (value : UInt64) := Writer.head_length_le majorUint value
  have count := Writer.head_length_le majorArray Enrolment.enrolmentFrameLen
  have kind := number messageTypeEnrolment
  have version := number enrolment.protocolVersion
  have backing := number enrolment.keyKind.wire
  have use := number enrolment.purpose.wire.toUInt64
  have reserved := number 0
  simp only [Enrolment.encode, Enrolment.body, Writer.array, Writer.uint, List.flatten_cons, List.flatten_nil,
    List.length_append, List.length_nil, maxFrameBytes]
  omega

/-- A frame whose other fields are in order has room for every payload there may be. -/
theorem ApplicationFrame.holds_payload {frame : ApplicationFrame}
    (others : ApplicationFrame.validate { frame with payload := [] } = .ok ())
    (within : frame.payload.length ≤ maxApplicationPayloadBytes) :
    frame.validate = .ok () ∧ frame.encode.length ≤ maxFrameBytes := by
  have valid : frame.validate = .ok () := by
    simp only [ApplicationFrame.validate, except_bind_eq_ok] at others ⊢
    obtain ⟨_, version, _, requestId, _, operation, _, _, window⟩ := others
    exact ⟨(), version, (), requestId, (), operation, (), except_require_eq_ok.mpr within, window⟩
  exact ⟨valid, encode_short valid⟩

end Protocol

end BioAuth
