import BioAuth.Mobile.RequestAgreement
import BioAuth.Protocol.Sizes
import BioAuth.Session.Carries

namespace BioAuth

namespace Protocol.AuthResponse

/-- How many octets a response comes to. -/
def size (response : AuthResponse) : Nat :=
  4 + Writer.textSize response.requestId + Writer.textSize response.verifierId + Writer.textSize response.credentialId +
    Writer.textSize response.algorithm + (Writer.headSize response.signature.length + response.signature.length)

theorem bytes_length {value : Bytes} (short : value.length < 2 ^ 64) :
    (Writer.bytes value).length = Writer.headSize value.length + value.length := by
  have whole : (UInt64.ofNat value.length).toNat = value.length := by
    rw [UInt64.toNat_ofNat']
    omega
  rw [Writer.bytes, List.length_append, Writer.head_length, whole]

theorem encode_length {response : AuthResponse} (valid : response.validate = .ok ())
    (algorithm : (utf8 response.algorithm).length < 2 ^ 64) (signature : response.signature.length < 2 ^ 64) :
    response.encode.length = response.size := by
  simp only [validate, except_bind_eq_ok] at valid
  obtain ⟨_, version, _, requestId, _, verifierId, _, credentialId, _⟩ := valid
  have version : response.protocolVersion = Protocol.protocolVersion := except_require_eq_ok.mp version
  have requestId := text_short requestId
  have verifierId := text_short verifierId
  have credentialId := text_short credentialId
  have count : (Writer.array responseFrameLen).length = 1 := by decide
  have kind : (Writer.uint messageTypeResponse).length = 1 := by decide
  have first : (Writer.uint response.protocolVersion).length = 1 := by
    rw [version]
    decide
  have decision : (Writer.uint response.decision.wire).length = 1 := by
    cases response.decision <;> decide
  simp only [encode, body, List.flatten_cons, List.flatten_nil, List.length_append, List.length_nil, count, kind, first,
    decision]
  rw [Writer.text_length (by omega), Writer.text_length (by omega), Writer.text_length (by omega),
    Writer.text_length algorithm, bytes_length signature, size]
  omega

/-- A response that validates fits exactly where its parts come to no more than a frame. -/
theorem fits_iff {response : AuthResponse} (valid : response.validate = .ok ()) :
    response.encode.length ≤ maxFrameBytes ↔ response.size ≤ maxFrameBytes := by
  by_cases short : (utf8 response.algorithm).length < 2 ^ 64 ∧ response.signature.length < 2 ^ 64
  · rw [encode_length valid short.1 short.2]
  · -- whatever their heads say, the parts alone are too long
    refine iff_of_false (fun fits => short ?_) fun fits => short ?_
    · simp only [encode, body, Writer.text, Writer.bytes, List.flatten_cons, List.flatten_nil, List.length_append,
        maxFrameBytes] at fits
      omega
    · simp only [size, Writer.textSize, maxFrameBytes] at fits
      omega

end Protocol.AuthResponse

namespace Session
open BioAuth.Protocol (ApplicationFrame AuthRequest AuthResponse Enrolment maxFrameBytes)

section Sent
variable [Crypto]

/-- A frame goes out: the channel seals it, and its record is not refused before it is written. What is left that may stop
it is a counter at its limit, and the platform. -/
def GoesOut (frame : Bytes) : Prop :=
  ∀ channel : SecureChannel,
    checkedAdd channel.sendCounter = none ∧ SecureChannel.seal frame channel = (.error .counterExhausted, channel) ∨
      ∃ next, checkedAdd channel.sendCounter = some next ∧
        SecureChannel.seal frame channel = (.ok (channel.record frame), { channel with sendCounter := next }) ∧
        ∀ out, Framing.writeFrame (channel.record frame) out =
          Framing.writeAll (Framing.spell (channel.record frame)) out

theorem goesOut (correct : Crypto.chacha20Poly1305.Correct tagLen) {frame : Bytes} (some_ : frame ≠ [])
    (roomy : frame.length + recordOverhead ≤ Framing.maxFrame) : GoesOut frame := by
  intro channel
  have admitted : Admitted frame := by
    refine ⟨some_, ?_⟩
    unfold recordOverhead Framing.maxFrame at roomy
    unfold maxFrame
    omega
  rcases channel.seal_cases frame with ⟨refused, _⟩ | ⟨_, exhausted, run⟩ | ⟨next, _, added, run⟩
  · exact absurd admitted refused
  · exact Or.inl ⟨exhausted, run⟩
  · refine Or.inr ⟨next, added, run, fun out => ?_⟩
    have fits : channel.record frame ≠ [] ∧ (channel.record frame).length ≤ Framing.maxFrame :=
      (fits_record correct channel frame).mpr roomy
    unfold Framing.writeFrame
    rw [Fallible.require_bind_run, if_pos fits]
    rfl

/-- A request, an application frame and an enrolment that validate fit a frame, and the first two go out over every
channel. A response fits that is decoded, and of the others that validate exactly those whose parts come to no more. -/
theorem validated_frames_fit (correct : Crypto.chacha20Poly1305.Correct tagLen) :
    (∀ request : AuthRequest, request.validate = .ok () →
      request.encode.length ≤ maxFrameBytes ∧ GoesOut request.encode) ∧
    (∀ frame : ApplicationFrame, frame.validate = .ok () →
      frame.encode.length ≤ maxFrameBytes ∧ GoesOut frame.encode) ∧
    (∀ enrolment : Enrolment, enrolment.validate = .ok () → enrolment.encode.length ≤ maxFrameBytes) ∧
    (∀ response : AuthResponse, response.validate = .ok () →
      (response.encode.length ≤ maxFrameBytes ↔ response.size ≤ maxFrameBytes)) ∧
    ∀ (raw : Bytes) (response : AuthResponse), AuthResponse.decode raw = .ok response →
      response.encode.length ≤ maxFrameBytes := by
  refine ⟨fun request valid => ?_, fun frame valid => ?_, fun enrolment => Enrolment.encode_short,
    fun response => AuthResponse.fits_iff, fun raw response read => ?_⟩
  · have roomy := Mobile.encode_roomy (Mobile.checked_of_validate valid)
    unfold Mobile.maxFrameBytes at roomy
    refine ⟨?_, goesOut correct (fun none => Writer.head_ne_nil _ _ (List.append_eq_nil_iff.mp none).1) ?_⟩
    · unfold maxFrameBytes
      omega
    · unfold recordOverhead Framing.maxFrame
      omega
  · have short := ApplicationFrame.encode_length_lt valid
    refine ⟨ApplicationFrame.encode_short valid,
      goesOut correct (fun none => Writer.head_ne_nil _ _ (List.append_eq_nil_iff.mp none).1) ?_⟩
    unfold recordOverhead Framing.maxFrame
    omega
  · rw [AuthResponse.exact.canonical raw response read]
    unfold AuthResponse.decode Protocol.decodeFrame at read
    obtain ⟨_, size, _⟩ := except_bind_eq_ok.mp read
    exact (except_require_eq_ok.mp size).2

end Sent

def pageRequest : ApplicationFrame where
  protocolVersion := 1
  kind := .request
  requestId := "r"
  sessionBinding := Block.replicate 32 2
  operation := "vault.list"
  issuedAtMs := 0
  expiresAtMs := 1000
  payload := List.replicate 6144 7

theorem validated_frames_fit_page :
    pageRequest.encode.length ≤ maxFrameBytes ∧ @GoesOut Crypto.plain pageRequest.encode := by
  have valid : pageRequest.validate = .ok () := by
    have within : pageRequest.payload.length ≤ Protocol.maxApplicationPayloadBytes := Nat.le_of_eq List.length_replicate
    simp only [ApplicationFrame.validate, except_bind_eq_ok]
    exact ⟨(), by decide, (), by decide, (), by decide, (), except_require_eq_ok.mpr within, by decide⟩
  exact (@validated_frames_fit Crypto.plain (Aead.plain_correct _ _ _)).2.1 pageRequest valid

/-- A response with a signature of 8192 octets validates, and comes to more than a frame. -/
def longSigned : AuthResponse where
  protocolVersion := 1
  requestId := "r"
  verifierId := "desk"
  credentialId := "desk-v1"
  decision := .authorized
  algorithm := "SHA256withECDSA"
  signature := List.replicate 8192 1

theorem longSigned_unfit : longSigned.validate = .ok () ∧ maxFrameBytes < longSigned.encode.length := by
  have valid : longSigned.validate = .ok () := by
    have proof : longSigned.algorithm ≠ "" ∧ longSigned.signature ≠ [] := ⟨by decide, fun none => nomatch none⟩
    simp only [AuthResponse.validate, except_bind_eq_ok]
    exact ⟨(), by decide, (), by decide, (), by decide, (), by decide, except_require_eq_ok.mpr fun _ => proof⟩
  refine ⟨valid, Nat.lt_of_not_le fun fits => ?_⟩
  have size := (AuthResponse.fits_iff valid).mp fits
  have length : longSigned.signature.length = 8192 := List.length_replicate
  unfold AuthResponse.size maxFrameBytes at size
  omega

end Session

end BioAuth
