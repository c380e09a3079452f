import BioAuth.Mobile.CborAgreement
import BioAuth.Mobile.Meets
import BioAuth.Mobile.Messages

namespace BioAuth
open BioAuth.Protocol (wireLimit)

/-- Two frames with one spelling are one frame. -/
theorem Protocol.ApplicationFrame.encode_injective {frame other : Protocol.ApplicationFrame}
    (same : frame.encode = other.encode) (short : frame.encode.length < wireLimit) : frame = other := by
  have bodies : frame.body = other.body := List.append_cancel_left (List.append_cancel_left same)
  have first := frame.body_reads
  have second := other.body_reads
  rw [← bodies] at second
  refine first.injective second ?_
  simp only [Protocol.ApplicationFrame.encode, List.length_append] at short
  omega

namespace Mobile
open BioAuth

/-- The kind of a frame, by the phone's name for it. -/
def ApplicationFrameKind.ofDesktop : Protocol.ApplicationFrameKind → ApplicationFrameKind
  | .request => .request
  | .response => .response
  | .cancel => .cancel
  | .error => .error

namespace ApplicationFrame

/-- The frame on the phone has every field of the desktop's. -/
structure Mirrors (frame : ApplicationFrame) (desktop : Protocol.ApplicationFrame) : Prop where
  protocolVersion : frame.protocolVersion.toInt = desktop.protocolVersion.toNat
  kind : frame.kind = .ofDesktop desktop.kind
  requestId : frame.requestId = desktop.requestId
  sessionBinding : frame.sessionBinding = desktop.sessionBinding.val
  operation : frame.operation = desktop.operation
  issuedAt : frame.issuedAt.millisecondsSinceEpoch = desktop.issuedAtMs
  expiresAt : frame.expiresAt.millisecondsSinceEpoch = desktop.expiresAtMs
  payload : frame.payload = desktop.payload

/-- A frame that passes the phone's checks. -/
structure Valid (frame : ApplicationFrame) : Prop where
  protocolVersion : frame.protocolVersion = 1
  requestId : ¬blankOrLong frame.requestId 64
  operation : validOperation frame.operation = true
  sessionBinding : frame.sessionBinding.length = 32
  payload : frame.payload.length ≤ maxApplicationPayloadBytes
  window : 0 < frame.expiresAt.millisecondsSinceEpoch - frame.issuedAt.millisecondsSinceEpoch ∧
    frame.expiresAt.millisecondsSinceEpoch - frame.issuedAt.millisecondsSinceEpoch ≤ maxValidityMs

theorem validate_eq_ok {frame : ApplicationFrame} : frame.validate = .ok () ↔ frame.Valid := by
  simp only [validate, except_bind_eq_ok, except_require_eq_ok]
  constructor
  · intro ⟨_, version, _, requestId, _, operation, _, binding, _, payload, window⟩
    exact ⟨version, requestId, operation, binding, payload, window⟩
  · intro valid
    exact ⟨(), valid.protocolVersion, (), valid.requestId, (), valid.operation, (), valid.sessionBinding, (),
      valid.payload, valid.window⟩

theorem kind_index (kind : Protocol.ApplicationFrameKind) :
    CborWriter.uint (ApplicationFrameKind.ofDesktop kind).index = .ok (Writer.uint kind.wire) := by
  cases kind <;> rfl

theorem operation_fits {operation : String} (valid : validOperation operation = true) :
    (utf8 operation).length < 2 ^ 63 := by
  have octets := utf8_length_le operation
  have units : utf16Len operation ≤ 64 := by
    unfold validOperation at valid
    split at valid
    · cases valid
    · simp only [Bool.and_eq_true, decide_eq_true_eq] at valid
      exact valid.1.1.2
  omega

/-- The phone spells a frame as the desktop spells its own. -/
theorem encode_mirrored {frame : ApplicationFrame} {desktop : Protocol.ApplicationFrame} (mirrors : frame.Mirrors desktop)
    (valid : frame.Valid) : frame.encode = .ok desktop.encode := by
  have version : 0 ≤ frame.protocolVersion.toInt := by
    rw [mirrors.protocolVersion]
    exact Int.natCast_nonneg _
  have number : UInt64.ofNat frame.protocolVersion.toInt.toNat = desktop.protocolVersion := by
    rw [mirrors.protocolVersion, Int.toNat_natCast, UInt64.ofNat_toNat]
  have requestId : (utf8 frame.requestId).length < 2 ^ 63 := by
    have octets := utf8_length_le frame.requestId
    have units := (not_or.mp valid.requestId).2
    omega
  have binding := valid.sessionBinding
  have payload := valid.payload
  unfold maxApplicationPayloadBytes at payload
  simp only [encode, except_bind_eq_ok]
  have kind : CborWriter.uint frame.kind.index = .ok (Writer.uint desktop.kind.wire) := by
    rw [mirrors.kind]
    exact kind_index desktop.kind
  refine ⟨(), validate_eq_ok.mpr valid, Writer.uint 4, rfl, _, CborWriter.uint_eq version, _, kind, ?_⟩
  · rw [CborWriter.text_eq requestId, CborWriter.text_eq (operation_fits valid.operation),
      CborWriter.bytes_eq (by omega), CborWriter.bytes_eq (by omega), CborWriter.int64_eq, CborWriter.int64_eq, number,
      mirrors.requestId, mirrors.sessionBinding, mirrors.operation, mirrors.issuedAt, mirrors.expiresAt, mirrors.payload]
    rfl

/-- A frame of the phone that passes its checks is one the desktop has a name for. -/
theorem mirrored {frame : ApplicationFrame} (valid : frame.Valid) :
    ∃ desktop : Protocol.ApplicationFrame, frame.Mirrors desktop := by
  have kind : ∃ kind, frame.kind = .ofDesktop kind := by
    cases frame.kind
    · exact ⟨.request, rfl⟩
    · exact ⟨.response, rfl⟩
    · exact ⟨.cancel, rfl⟩
    · exact ⟨.error, rfl⟩
  obtain ⟨kind, same⟩ := kind
  refine ⟨⟨1, kind, frame.requestId, ⟨frame.sessionBinding, valid.sessionBinding⟩, frame.operation,
    frame.issuedAt.millisecondsSinceEpoch, frame.expiresAt.millisecondsSinceEpoch, frame.payload⟩, ?_⟩
  refine ⟨?_, same, rfl, rfl, rfl, rfl, rfl, rfl⟩
  rw [valid.protocolVersion]
  rfl

/-- A frame as its fields come out on the phone. -/
structure Brings (desktop : Protocol.ApplicationFrame) (read : ApplicationFrame) : Prop where
  version : desktop.protocolVersion.toNat < 2 ^ 63 ∧
    read.protocolVersion = Int64.ofNat desktop.protocolVersion.toNat
  kind : read.kind = .ofDesktop desktop.kind
  requestId : read.requestId = dropMark desktop.requestId
  sessionBinding : read.sessionBinding = desktop.sessionBinding.val
  operation : read.operation = dropMark desktop.operation
  issuedAt : read.issuedAt.millisecondsSinceEpoch = desktop.issuedAtMs
  expiresAt : read.expiresAt.millisecondsSinceEpoch = desktop.expiresAtMs
  payload : read.payload = desktop.payload

theorem kind_read (kind : Protocol.ApplicationFrameKind) :
    kind.wire.toNat < 2 ^ 63 ∧
      ApplicationFrameKind.ofIndex (Int64.ofNat kind.wire.toNat) = .ok (.ofDesktop kind) := by
  cases kind <;> decide

theorem readFields_meets (desktop : Protocol.ApplicationFrame) :
    Meets readFields desktop.body (Brings desktop) := by
  have chain := (Meets.uint desktop.protocolVersion).bind fun protocolVersion _ =>
    (Meets.uint desktop.kind.wire).bind fun index _ =>
    .refusing (ApplicationFrameKind.ofIndex index) fun kind _ =>
    (Meets.text desktop.requestId).bind fun requestId _ =>
    (Meets.bytes desktop.sessionBinding.val).bind fun sessionBinding _ =>
    (Meets.text desktop.operation).bind fun operation _ =>
    (Meets.time desktop.issuedAtMs).bind fun issuedAt _ =>
    (Meets.time desktop.expiresAtMs).bind fun expiresAt _ =>
    (Meets.bytes desktop.payload).bind fun payload _ =>
    .pure ({ protocolVersion, kind, requestId, sessionBinding, operation, issuedAt, expiresAt, payload } :
      ApplicationFrame)
  refine Meets.mono chain ?_
  intro read
  constructor
  · intro found
    obtain ⟨_, version, _, ⟨_, rfl⟩, _, kind, _, requestId, _, sessionBinding, _, operation, _, issuedAt, _, expiresAt, _,
      payload, rfl⟩ := found
    rw [(kind_read desktop.kind).2] at kind
    cases kind
    exact ⟨version, rfl, requestId, sessionBinding, operation, issuedAt, expiresAt, payload⟩
  · intro brings
    refine ⟨_, brings.version, _, ⟨(kind_read desktop.kind).1, rfl⟩, _, (kind_read desktop.kind).2, _,
      brings.requestId, _, brings.sessionBinding, _, brings.operation, _, brings.issuedAt, _, brings.expiresAt, _,
      brings.payload, ?_⟩
    rw [← brings.kind]

/-- What the phone makes of a frame of the desktop. -/
theorem decode_eq_ok {desktop : Protocol.ApplicationFrame} {frame : Uint8List} (whole : frame.octets = desktop.encode)
    (size : frame.octets.length ≤ maxFrameBytes) {read : ApplicationFrame} :
    decode frame = .ok read ↔ Brings desktop read ∧ read.Valid ∧ read.encode = .ok frame.octets := by
  have filled : frame.octets ≠ [] := by
    rw [whole, Protocol.ApplicationFrame.encode]
    exact List.append_ne_nil_of_left_ne_nil (Writer.head_ne_nil _ _) _
  have chain := (Meets.array Protocol.ApplicationFrame.applicationFrameLen).bind fun count _ =>
    .require (count = frameLength) (formatException "Estrutura de frame inesperada") fun _ =>
    (Meets.uint Protocol.messageTypeApplication).bind fun kind _ =>
    .require (kind = messageType) (formatException "Estrutura de frame inesperada") fun _ =>
    readFields_meets desktop
  rw [← Protocol.ApplicationFrame.encode, ← whole] at chain
  have checks : ∀ (value : ApplicationFrame) (reader : CborReader),
      (∃ after, (do
        refusing value.validate
        let reencoded ← refusing value.encode
        require (reencoded = frame.octets) (formatException "non-canonical CBOR frame")
        return value : Fallible CborReader Thrown ApplicationFrame) reader = (.ok read, after)) ↔
        value = read ∧ value.Valid ∧ value.encode = .ok frame.octets := by
    intro value reader
    simp only [refusing, Fallible.liftM_bind_eq_ok, Fallible.require_bind_eq_ok, Fallible.pure_eq_ok,
      except_mapError_eq_ok, ← validate_eq_ok]
    constructor
    · rintro ⟨_, _, valid, _, encoded, rfl, same, _⟩
      exact ⟨same, valid, encoded⟩
    · rintro ⟨same, valid, encoded⟩
      exact ⟨reader, (), valid, _, encoded, rfl, same, rfl⟩
  have ends := chain.finish_bind checks
  simp only [Fallible.bind_assoc] at ends
  unfold decode Mobile.ApplicationFrame.read
  rw [decodeWith_eq_ok, and_iff_right ⟨filled, size⟩, ends]
  constructor
  · rintro ⟨value, ⟨_, _, _, _, _, _, brings⟩, same, valid, encoded⟩
    subst same
    exact ⟨brings, valid, encoded⟩
  · rintro ⟨brings, valid, encoded⟩
    exact ⟨read, ⟨_, ⟨by decide, rfl⟩, rfl, _, ⟨by decide, rfl⟩, rfl, brings⟩, rfl, valid, encoded⟩

/-- The phone reads no other frame than the one that was sent. -/
theorem mirrors_of_decode {desktop : Protocol.ApplicationFrame} {frame : Uint8List}
    (whole : frame.octets = desktop.encode) {read : ApplicationFrame} (run : decode frame = .ok read) :
    read.Mirrors desktop ∧ read.Valid := by
  have size := (decodeWith_eq_ok.mp run).1.2
  obtain ⟨_, valid, encoded⟩ := (decode_eq_ok whole size).mp run
  obtain ⟨other, mirrors⟩ := mirrored valid
  have spelled := (encode_mirrored mirrors valid).symm.trans encoded
  have same : other = desktop := by
    refine Protocol.ApplicationFrame.encode_injective ((Except.ok.inj spelled).trans whole) ?_
    rw [Except.ok.inj spelled]
    unfold maxFrameBytes at size
    unfold wireLimit
    omega
  rw [same] at mirrors
  exact ⟨mirrors, valid⟩

/-- The desktop reads no other frame than the one the phone sent. -/
theorem mirrors_of_decoded {frame : ApplicationFrame} {raw : Bytes} (encoded : frame.encode = .ok raw)
    {read : Protocol.ApplicationFrame} (run : Protocol.ApplicationFrame.decode raw = .ok read) : frame.Mirrors read := by
  simp only [encode, except_bind_eq_ok] at encoded
  obtain ⟨_, checked, rest⟩ := encoded
  have valid := validate_eq_ok.mp checked
  have spelled : frame.encode = .ok raw := by
    simp only [encode, except_bind_eq_ok]
    exact ⟨(), checked, rest⟩
  obtain ⟨other, mirrors⟩ := mirrored valid
  have same := Except.ok.inj ((encode_mirrored mirrors valid).symm.trans spelled)
  have canonical := Protocol.ApplicationFrame.exact.canonical raw read run
  have size : raw.length ≤ Protocol.maxFrameBytes := by
    simp only [Protocol.ApplicationFrame.decode, Protocol.decodeFrame, except_bind_eq_ok, Protocol.checkFrameSize,
      except_require_eq_ok] at run
    obtain ⟨_, sized, _⟩ := run
    exact sized.2
  have one : read = other := by
    refine Protocol.ApplicationFrame.encode_injective (canonical.trans same.symm) ?_
    rw [canonical]
    unfold Protocol.maxFrameBytes at size
    unfold wireLimit
    omega
  rw [one]
  exact mirrors

end ApplicationFrame

end Mobile

end BioAuth
