import BioAuth.Mobile.CborAgreement
import BioAuth.Mobile.Meets
import BioAuth.Mobile.Messages

namespace BioAuth
open BioAuth.Protocol (AuthRequest)

/-- Two requests with one spelling are one request. -/
theorem Protocol.AuthRequest.encode_injective {request other : AuthRequest} (same : request.encode = other.encode)
    (short : request.encode.length < Protocol.wireLimit) : request = other := by
  have bodies : request.body = other.body := List.append_cancel_left (List.append_cancel_left same)
  have first := request.body_reads
  have second := other.body_reads
  rw [← bodies] at second
  refine first.injective second ?_
  simp only [Protocol.AuthRequest.encode, List.length_append] at short
  omega

namespace Mobile
open BioAuth
open BioAuth.Protocol (checkText checkText_eq_ok checkWindow checkVersion)

/-- The texts a request carries, each with the most code units it may have. -/
def requestTexts (request : AuthRequest) : List (String × Nat) :=
  [(request.requestId, 64), (request.verifierId, 64), (request.verifierName, 128), (request.credentialId, 64),
    (request.service, 64), (request.action, 128), (request.resource, 256), (request.user, 128)]

/-- The request on the phone has every field of the desktop's. -/
structure Shows (read : AuthenticationRequest) (request : AuthRequest) : Prop where
  protocolVersion : read.protocolVersion.toInt = request.protocolVersion.toNat
  requestId : read.requestId = request.requestId
  verifierId : read.verifierId = request.verifierId
  verifierName : read.verifierName = request.verifierName
  credentialId : read.credentialId = request.credentialId
  challenge : read.challenge = request.challenge.val
  service : read.service = request.service
  action : read.action = request.action
  resource : read.resource = request.resource
  user : read.user = request.user
  issuedAt : read.issuedAt.millisecondsSinceEpoch = request.issuedAtMs
  expiresAt : read.expiresAt.millisecondsSinceEpoch = request.expiresAtMs
  sessionBinding : read.sessionBinding = request.sessionBinding.val

/-- A request as the fields of its frame come out on the phone. -/
structure Brings (request : AuthRequest) (origin : String) (read : AuthenticationRequest) : Prop where
  version : request.protocolVersion.toNat < 2 ^ 63 ∧ read.protocolVersion = Int64.ofNat request.protocolVersion.toNat
  requestId : read.requestId = dropMark request.requestId ∧ read.requestId ≠ ""
  verifierId : read.verifierId = dropMark request.verifierId ∧ read.verifierId ≠ ""
  verifierName : read.verifierName = dropMark request.verifierName ∧ read.verifierName ≠ ""
  credentialId : read.credentialId = dropMark request.credentialId ∧ read.credentialId ≠ ""
  challenge : read.challenge = request.challenge.val
  service : read.service = dropMark request.service ∧ read.service ≠ ""
  action : read.action = dropMark request.action ∧ read.action ≠ ""
  resource : read.resource = dropMark request.resource ∧ read.resource ≠ ""
  user : read.user = dropMark request.user ∧ read.user ≠ ""
  issuedAt : read.issuedAt.millisecondsSinceEpoch = request.issuedAtMs
  expiresAt : read.expiresAt.millisecondsSinceEpoch = request.expiresAtMs
  sessionBinding : read.sessionBinding = request.sessionBinding.val
  origin : read.origin = origin

namespace PhoneAuthProtocolCodec

theorem text_meets (value : String) : Meets text (Writer.text value) fun a => a = dropMark value ∧ a ≠ "" := by
  refine ((Meets.text value).bind fun a _ => .require _ _ fun _ => .pure a).trailing.mono ?_
  intro a
  constructor
  · intro found
    obtain ⟨_, rfl, filled, rfl⟩ := found
    exact ⟨rfl, filled⟩
  · intro ⟨same, filled⟩
    exact ⟨a, same, filled, rfl⟩

theorem readFields_meets (request : AuthRequest) (origin : String) :
    Meets (readFields origin) (Writer.uint Protocol.messageTypeRequest ++ request.body) (Brings request origin) := by
  have chain := (Meets.uint Protocol.messageTypeRequest).bind fun kind _ =>
    .require (kind = requestType) (formatException "Tipo de mensagem inesperado") fun _ =>
    (Meets.uint request.protocolVersion).bind fun protocolVersion _ =>
    (text_meets request.requestId).bind fun requestId _ =>
    (text_meets request.verifierId).bind fun verifierId _ =>
    (text_meets request.verifierName).bind fun verifierName _ =>
    (text_meets request.credentialId).bind fun credentialId _ =>
    (Meets.bytes request.challenge.val).bind fun challenge _ =>
    (text_meets request.service).bind fun service _ =>
    (text_meets request.action).bind fun action _ =>
    (text_meets request.resource).bind fun resource _ =>
    (text_meets request.user).bind fun user _ =>
    (Meets.time request.issuedAtMs).bind fun issuedAt _ =>
    (Meets.time request.expiresAtMs).bind fun expiresAt _ =>
    (Meets.bytes request.sessionBinding.val).bind fun sessionBinding _ =>
    .pure ({ protocolVersion, requestId, verifierId, verifierName, credentialId, challenge, origin, service, action,
             resource, user, issuedAt, expiresAt, sessionBinding } : AuthenticationRequest)
  refine Meets.mono chain ?_
  intro read
  constructor
  · intro found
    obtain ⟨_, _, _, _, version, _, requestId, _, verifierId, _, verifierName, _, credentialId, _, challenge, _,
      service, _, action, _, resource, _, user, _, issuedAt, _, expiresAt, _, sessionBinding, rfl⟩ := found
    exact ⟨version, requestId, verifierId, verifierName, credentialId, challenge, service, action, resource, user,
      issuedAt, expiresAt, sessionBinding, rfl⟩
  · intro brings
    refine ⟨_, ⟨by decide, rfl⟩, rfl, _, brings.version, _, brings.requestId, _, brings.verifierId, _,
      brings.verifierName, _, brings.credentialId, _, brings.challenge, _, brings.service, _, brings.action, _,
      brings.resource, _, brings.user, _, brings.issuedAt, _, brings.expiresAt, _, brings.sessionBinding, ?_⟩
    rw [← brings.origin]

/-- What the phone makes of a frame of the desktop. -/
theorem decodeRequest_eq_ok {request : AuthRequest} {origin : String} {frame : Uint8List}
    (whole : frame.octets = request.encode) (size : frame.octets.length ≤ maxFrameBytes)
    {read : AuthenticationRequest} :
    decodeRequest origin frame = .ok read ↔ Brings request origin read ∧ read.validate = .ok () := by
  have filled : frame.octets ≠ [] := by
    rw [whole, AuthRequest.encode]
    exact List.append_ne_nil_of_left_ne_nil (Writer.head_ne_nil _ _) _
  have chain := (Meets.array AuthRequest.requestFrameLen).bind fun count _ =>
    .require (count = requestFrameLength) (formatException "invalid CBOR structure") fun _ =>
    ((readFields_meets request origin).bind fun read _ => .refusing read.validate fun _ _ =>
      .pure read).trailing
  rw [← AuthRequest.encode, ← whole] at chain
  have ends := chain.finish_eq_ok read
  simp only [Fallible.bind_assoc] at ends
  simp only [decodeRequest, decode, decodeWith_eq_ok, readRequest, Fallible.bind_assoc]
  rw [and_iff_right ⟨filled, size⟩, ends]
  constructor
  · intro found
    obtain ⟨_, _, _, _, brings, _, valid, rfl⟩ := found
    exact ⟨brings, valid⟩
  · rintro ⟨brings, valid⟩
    exact ⟨_, ⟨by decide, rfl⟩, rfl, read, brings, (), valid, rfl⟩

end PhoneAuthProtocolCodec

/-- What the desktop checks before it sends a request. -/
structure Checked (request : AuthRequest) : Prop where
  version : request.protocolVersion = 1
  texts : ∀ text ∈ requestTexts request, Protocol.blank text.1 = false ∧ utf16Len text.1 ≤ text.2
  window : 0 < request.expiresAtMs.toInt - request.issuedAtMs.toInt ∧
    request.expiresAtMs.toInt - request.issuedAtMs.toInt ≤ 120_000

theorem checked_of_validate {request : AuthRequest} (valid : request.validate = .ok ()) : Checked request := by
  unfold AuthRequest.validate at valid
  simp only [except_bind_eq_ok] at valid
  obtain ⟨_, version, _, requestId, _, verifierId, _, verifierName, _, credentialId, _, service, _, action, _,
    resource, _, user, window⟩ := valid
  refine ⟨except_require_eq_ok.mp version, ?_, except_require_eq_ok.mp window⟩
  intro text member
  simp only [requestTexts, List.mem_cons, List.not_mem_nil, or_false] at member
  rcases member with rfl | rfl | rfl | rfl | rfl | rfl | rfl | rfl
  · exact checkText_eq_ok.mp requestId
  · exact checkText_eq_ok.mp verifierId
  · exact checkText_eq_ok.mp verifierName
  · exact checkText_eq_ok.mp credentialId
  · exact checkText_eq_ok.mp service
  · exact checkText_eq_ok.mp action
  · exact checkText_eq_ok.mp resource
  · exact checkText_eq_ok.mp user

/-- A request leaves room in a frame for the octets a record adds to it. -/
theorem encode_roomy {request : AuthRequest} (checked : Checked request) :
    request.encode.length + 24 ≤ maxFrameBytes := by
  have text (value : String) (max : Nat) (member : (value, max) ∈ requestTexts request) :
      (Writer.text value).length ≤ 9 + 3 * max := by
    have units := (checked.texts _ member).2
    have octets := utf8_length_le value
    have spelled := Writer.text_length_le value
    dsimp only at units
    omega
  have requestId := text request.requestId 64 (by simp [requestTexts])
  have verifierId := text request.verifierId 64 (by simp [requestTexts])
  have verifierName := text request.verifierName 128 (by simp [requestTexts])
  have credentialId := text request.credentialId 64 (by simp [requestTexts])
  have service := text request.service 64 (by simp [requestTexts])
  have action := text request.action 128 (by simp [requestTexts])
  have resource := text request.resource 256 (by simp [requestTexts])
  have user := text request.user 128 (by simp [requestTexts])
  have bytes (value : Block 32) : (Writer.bytes value.val).length ≤ 41 := by
    have spelled := Writer.bytes_length_le value.val
    rwa [value.property] at spelled
  have count := Writer.head_length_le majorArray AuthRequest.requestFrameLen
  have kind := Writer.head_length_le majorUint Protocol.messageTypeRequest
  have version := Writer.head_length_le majorUint request.protocolVersion
  have issuedAt := Writer.int_length_le request.issuedAtMs
  have expiresAt := Writer.int_length_le request.expiresAtMs
  have total := Nat.add_le_add count <| Nat.add_le_add kind <| Nat.add_le_add version <|
    Nat.add_le_add requestId <| Nat.add_le_add verifierId <| Nat.add_le_add verifierName <|
    Nat.add_le_add credentialId <| Nat.add_le_add (bytes request.challenge) <| Nat.add_le_add service <|
    Nat.add_le_add action <| Nat.add_le_add resource <| Nat.add_le_add user <| Nat.add_le_add issuedAt <|
    Nat.add_le_add expiresAt (bytes request.sessionBinding)
  simp only [AuthRequest.encode, AuthRequest.body, Writer.array, Writer.uint, List.flatten_cons, List.flatten_nil,
    List.length_append, List.length_nil, Nat.add_zero]
  exact Nat.le_trans (Nat.add_le_add_right total 24) (by decide)

/-- No request is too long for a frame. -/
theorem encode_length_le {request : AuthRequest} (checked : Checked request) :
    request.encode.length ≤ maxFrameBytes :=
  Nat.le_trans (Nat.le_add_right _ _) (encode_roomy checked)

/-- The request as the phone receives it. -/
def received (request : AuthRequest) (valid : request.validate = .ok ()) : Uint8List where
  octets := request.encode
  fits := Nat.lt_of_le_of_lt (encode_length_le (checked_of_validate valid)) (by decide)

/-- A text that starts with a byte order mark. -/
def marked (text : String) : Bool := text.toList.head? = some '\uFEFF'

/-- The phone takes each text as it is and has a name for each of its times. -/
structure Readable (request : AuthRequest) : Prop where
  texts : ∀ text ∈ requestTexts request, marked text.1 = false ∧ blank text.1 = false
  issuedAt : DateTime.Reaches request.issuedAtMs
  expiresAt : DateTime.Reaches request.expiresAtMs

theorem dropMark_eq_self {text : String} : dropMark text = text ↔ marked text = false := by
  unfold dropMark marked
  split
  · rename_i rest front
    refine iff_of_false (fun same => ?_) (by simp [front])
    have size := congrArg (fun text : String => text.toList.length) same
    simp [front] at size
  · rename_i unmarked
    refine iff_of_true rfl (decide_eq_false fun front => ?_)
    rcases chars : text.toList with _ | ⟨c, rest⟩
    · rw [chars] at front
      cases front
    · rw [chars] at front
      cases front
      exact unmarked rest chars

theorem blank_of_whitespace {text : String} (filled : blank text = false) : text ≠ "" := by
  intro same
  rw [same] at filled
  exact absurd filled (by decide)

/-- A phone's request passes its own checks. -/
structure Accepted (read : AuthenticationRequest) : Prop where
  version : read.protocolVersion = 1
  requestId : ¬blankOrLong read.requestId 64
  verifierId : ¬blankOrLong read.verifierId 64
  verifierName : ¬blankOrLong read.verifierName 128
  credentialId : ¬blankOrLong read.credentialId 64
  origin : ¬blankOrLong read.origin 128
  service : ¬blankOrLong read.service 64
  action : ¬blankOrLong read.action 128
  resource : ¬blankOrLong read.resource 256
  user : ¬blankOrLong read.user 128
  lengths : read.challenge.length = 32 ∧ read.sessionBinding.length = 32
  window : read.expiresAt.isAfter read.issuedAt = true ∧
    ¬AuthenticationRequest.longestValidity < read.expiresAt.difference read.issuedAt

theorem validate_eq_ok {read : AuthenticationRequest} : read.validate = .ok () ↔ Accepted read := by
  simp only [AuthenticationRequest.validate, AuthenticationRequest.checkField, except_bind_eq_ok,
    except_require_eq_ok]
  constructor
  · intro checks
    obtain ⟨_, version, _, requestId, _, verifierId, _, verifierName, _, credentialId, _, origin, _, service, _,
      action, _, resource, _, user, _, lengths, window⟩ := checks
    exact ⟨version, requestId, verifierId, verifierName, credentialId, origin, service, action, resource, user, lengths,
      window⟩
  · intro accepted
    exact ⟨(), accepted.version, (), accepted.requestId, (), accepted.verifierId, (), accepted.verifierName, (),
      accepted.credentialId, (), accepted.origin, (), accepted.service, (), accepted.action, (), accepted.resource, (),
      accepted.user, (), accepted.lengths, accepted.window⟩

/-- A window the desktop allows is one the phone allows, and none of its sums wraps. -/
theorem window_accepted {issuedAt expiresAt : DateTime}
    (window : 0 < expiresAt.millisecondsSinceEpoch.toInt - issuedAt.millisecondsSinceEpoch.toInt ∧
      expiresAt.millisecondsSinceEpoch.toInt - issuedAt.millisecondsSinceEpoch.toInt ≤ 120_000) :
    expiresAt.isAfter issuedAt = true ∧
      ¬AuthenticationRequest.longestValidity < expiresAt.difference issuedAt := by
  have issued := issuedAt.within
  have expires := expiresAt.within
  unfold DateTime.Reaches maxMilliseconds at issued expires
  have micros (time : Int64) (reaches : -8640000000000000 ≤ time.toInt ∧ time.toInt ≤ 8640000000000000) :
      (time * 1000).toInt = time.toInt * 1000 := by
    rw [Int64.toInt_mul, show (1000 : Int64).toInt = 1000 from rfl, Int.bmod_def]
    omega
  constructor
  · rw [DateTime.isAfter, decide_eq_true_iff, Int64.lt_iff_toInt_lt]
    omega
  · have apart : (expiresAt.difference issuedAt).toInt =
        (expiresAt.millisecondsSinceEpoch.toInt - issuedAt.millisecondsSinceEpoch.toInt) * 1000 := by
      rw [DateTime.difference, Int64.toInt_sub, micros _ expires, micros _ issued, Int.bmod_def]
      omega
    rw [Int64.lt_iff_toInt_lt, apart, show AuthenticationRequest.longestValidity.toInt = 120_000_000 from rfl]
    omega

theorem not_blankOrLong {text : String} {max : Nat} :
    ¬blankOrLong text max ↔ blank text = false ∧ utf16Len text ≤ max := by
  rw [blankOrLong, not_or, Bool.not_eq_true, Nat.not_lt]

/-- The phone's own encoding of what it shows is the desktop's: it signs what the desktop asked. -/
theorem Shows.encode_within {read : AuthenticationRequest} {request : AuthRequest} (shows : Shows read request)
    (one : request.protocolVersion = 1) (within : ∀ text ∈ requestTexts request, utf16Len text.1 ≤ text.2) :
    PhoneAuthProtocolCodec.encodeRequest read = .ok request.encode := by
  have text (value : String) (max : Nat) (member : (value, max) ∈ requestTexts request) :
      CborWriter.text value = Writer.text value := by
    have units := within _ member
    have octets := utf8_length_le value
    have bound : max ≤ 256 := by
      simp only [requestTexts, List.mem_cons, Prod.mk.injEq, List.not_mem_nil, or_false] at member
      omega
    dsimp only at units
    exact CborWriter.text_eq (by omega)
  have bytes (value : Block 32) : CborWriter.bytes value.val = Writer.bytes value.val :=
    CborWriter.bytes_eq (by rw [value.property]; decide)
  have version : CborWriter.uint read.protocolVersion = .ok (Writer.uint request.protocolVersion) := by
    have same : read.protocolVersion = 1 := by
      rw [← Int64.toInt_inj, shows.protocolVersion, one]
      rfl
    rw [same, one]
    rfl
  unfold PhoneAuthProtocolCodec.encodeRequest
  rw [version, shows.requestId, shows.verifierId, shows.verifierName, shows.credentialId, shows.challenge,
    shows.service, shows.action, shows.resource, shows.user, shows.issuedAt, shows.expiresAt, shows.sessionBinding,
    text request.requestId 64 (by simp [requestTexts]),
    text request.verifierId 64 (by simp [requestTexts]),
    text request.verifierName 128 (by simp [requestTexts]),
    text request.credentialId 64 (by simp [requestTexts]),
    text request.service 64 (by simp [requestTexts]),
    text request.action 128 (by simp [requestTexts]),
    text request.resource 256 (by simp [requestTexts]),
    text request.user 128 (by simp [requestTexts]),
    bytes request.challenge, bytes request.sessionBinding, CborWriter.int64_eq, CborWriter.int64_eq]
  rfl

theorem Shows.encode {read : AuthenticationRequest} {request : AuthRequest} (shows : Shows read request)
    (checked : Checked request) : PhoneAuthProtocolCodec.encodeRequest read = .ok request.encode :=
  shows.encode_within checked.version fun text member => (checked.texts text member).2

namespace PhoneAuthProtocolCodec

theorem text_spells {reader after : CborReader} {value : String} (run : text reader = (.ok value, after)) :
    ∃ written, (value = dropMark written ∧ value ≠ "") ∧ reader.Past (Writer.text written) after := by
  unfold text at run
  simp only [Fallible.bind_eq_ok, Fallible.require_eq_ok, Fallible.pure_eq_ok] at run
  obtain ⟨_, _, read, _, _, ⟨filled, rfl⟩, rfl, rfl⟩ := run
  obtain ⟨written, same, past⟩ := CborReader.text_eq_ok.mp read
  exact ⟨written, ⟨same, filled⟩, past⟩

theorem readTime_spells {reader after : CborReader} {time : DateTime} (run : readTime reader = (.ok time, after)) :
    reader.Past (Writer.int time.millisecondsSinceEpoch) after := by
  unfold readTime at run
  simp only [Fallible.bind_eq_ok] at run
  obtain ⟨ms, _, read, made⟩ := run
  obtain ⟨known, rfl⟩ := Prod.mk.inj made
  rw [DateTime.fromMillisecondsSinceEpoch_eq_ok.mp known]
  exact CborReader.int64_eq_ok.mp read

/-- Whatever the phone reads as the fields of a request spells a request, with each mark that was dropped. -/
theorem readFields_spells {origin : String} {reader after : CborReader} {read : AuthenticationRequest}
    (run : readFields origin reader = (.ok read, after)) (challenge : read.challenge.length = 32)
    (binding : read.sessionBinding.length = 32) :
    ∃ request : AuthRequest, Brings request origin read ∧
      reader.Past (Writer.uint Protocol.messageTypeRequest ++ request.body) after := by
  unfold readFields at run
  simp only [Fallible.bind_eq_ok, Fallible.require_eq_ok, Fallible.pure_eq_ok] at run
  obtain ⟨_, _, kind, _, _, ⟨type, rfl⟩, protocolVersion, _, version, requestId, _, run₁, verifierId, _, run₂,
    verifierName, _, run₃, credentialId, _, run₄, octets, _, run₅, service, _, run₆, action, _, run₇, resource, _, run₈,
    user, _, run₉, issuedAt, _, run₁₀, expiresAt, _, run₁₁, bound, _, run₁₂, rfl, rfl⟩ := run
  obtain ⟨written₁, brings₁, past₁⟩ := text_spells run₁
  obtain ⟨written₂, brings₂, past₂⟩ := text_spells run₂
  obtain ⟨written₃, brings₃, past₃⟩ := text_spells run₃
  obtain ⟨written₄, brings₄, past₄⟩ := text_spells run₄
  obtain ⟨written₆, brings₆, past₆⟩ := text_spells run₆
  obtain ⟨written₇, brings₇, past₇⟩ := text_spells run₇
  obtain ⟨written₈, brings₈, past₈⟩ := text_spells run₈
  obtain ⟨written₉, brings₉, past₉⟩ := text_spells run₉
  obtain ⟨number, small, same, pastVersion⟩ := CborReader.uint_eq_ok.mp version
  obtain ⟨code, short, found, pastKind⟩ := CborReader.uint_eq_ok.mp kind
  have one : code = Protocol.messageTypeRequest := by
    rw [found] at type
    have value := congrArg Int64.toInt type
    rw [Int64.toInt_ofNat_of_lt short] at value
    exact UInt64.toNat.inj (Int.natCast_inj.mp value)
  subst one
  refine ⟨{ protocolVersion := number, requestId := written₁, verifierId := written₂, verifierName := written₃,
            credentialId := written₄, challenge := ⟨octets, challenge⟩, service := written₆, action := written₇,
            resource := written₈, user := written₉, issuedAtMs := issuedAt.millisecondsSinceEpoch,
            expiresAtMs := expiresAt.millisecondsSinceEpoch, sessionBinding := ⟨bound, binding⟩ }, ?_, ?_⟩
  · exact ⟨⟨small, same⟩, brings₁, brings₂, brings₃, brings₄, rfl, brings₆, brings₇, brings₈, brings₉, rfl, rfl, rfl, rfl⟩
  · refine pastKind.trans (pastVersion.trans (past₁.trans (past₂.trans (past₃.trans (past₄.trans
      ((CborReader.bytes_eq_ok.mp run₅).trans (past₆.trans (past₇.trans (past₈.trans (past₉.trans
      ((readTime_spells run₁₀).trans ((readTime_spells run₁₁).trans ?_))))))))))))
    rw [List.flatten_cons, List.flatten_nil, List.append_nil]
    exact CborReader.bytes_eq_ok.mp run₁₂

/-- A frame the phone reads is the encoding of a request. -/
theorem decodeRequest_spells {origin : String} {frame : Uint8List} {read : AuthenticationRequest}
    (run : decodeRequest origin frame = .ok read) :
    ∃ request : AuthRequest, frame.octets = request.encode ∧ Brings request origin read ∧ read.validate = .ok () := by
  unfold decodeRequest decode at run
  obtain ⟨_, after, run⟩ := decodeWith_eq_ok.mp run
  simp only [readRequest, Fallible.bind_eq_ok, Fallible.require_eq_ok, Fallible.pure_eq_ok] at run
  obtain ⟨_, _, count, _, _, ⟨fourteen, rfl⟩, _, _, ⟨_, _, fields, _, _, valid, rfl, rfl⟩, _, _, done, rfl, rfl⟩ := run
  obtain ⟨checked, rfl⟩ := Prod.mk.inj valid
  have passed := except_mapError_eq_ok.mp (checked : Except.mapError Thrown.refusal _ = .ok ())
  have accepted := validate_eq_ok.mp passed
  obtain ⟨request, brings, past⟩ := readFields_spells fields accepted.lengths.1 accepted.lengths.2
  obtain ⟨length, short, found, pastCount⟩ := CborReader.array_eq_ok.mp count
  have fields : length = AuthRequest.requestFrameLen := by
    rw [found] at fourteen
    have value := congrArg Int64.toInt fourteen
    rw [Int64.toInt_ofNat_of_lt short] at value
    exact UInt64.toNat.inj (Int.natCast_inj.mp value)
  subst fields
  have whole := (pastCount.trans past).rest
  rw [(CborReader.finish_eq_ok.mp done).1, List.append_nil] at whole
  exact ⟨request, whole, brings, passed⟩

end PhoneAuthProtocolCodec

/-- The request without the marks its texts start with. -/
def withoutMarks (request : AuthRequest) : AuthRequest :=
  { request with
    requestId := dropMark request.requestId
    verifierId := dropMark request.verifierId
    verifierName := dropMark request.verifierName
    credentialId := dropMark request.credentialId
    service := dropMark request.service
    action := dropMark request.action
    resource := dropMark request.resource
    user := dropMark request.user }

theorem withoutMarks_eq_self {request : AuthRequest} :
    withoutMarks request = request ↔ ∀ text ∈ requestTexts request, marked text.1 = false := by
  have texts : (∀ text ∈ requestTexts request, marked text.1 = false) ↔
      ∀ text ∈ requestTexts request, dropMark text.1 = text.1 := by simp only [dropMark_eq_self]
  rw [texts]
  obtain ⟨version, requestId, verifierId, verifierName, credentialId, challenge, service, action, resource, user, issued,
    expires, binding⟩ := request
  simp only [withoutMarks, Protocol.AuthRequest.mk.injEq, requestTexts, List.forall_mem_cons, List.not_mem_nil, false_imp_iff,
    implies_true, and_true, true_and]

theorem Brings.shows {request : AuthRequest} {origin : String} {read : AuthenticationRequest}
    (brings : Brings request origin read) : Shows read (withoutMarks request) where
  protocolVersion := by
    rw [brings.version.2, Int64.toInt_ofNat_of_lt brings.version.1]
    rfl
  requestId := brings.requestId.1
  verifierId := brings.verifierId.1
  verifierName := brings.verifierName.1
  credentialId := brings.credentialId.1
  challenge := brings.challenge
  service := brings.service.1
  action := brings.action.1
  resource := brings.resource.1
  user := brings.user.1
  issuedAt := brings.issuedAt
  expiresAt := brings.expiresAt
  sessionBinding := brings.sessionBinding

/-- What the phone signs is the spelling of the request without the marks. -/
theorem Brings.encode {request : AuthRequest} {origin : String} {read : AuthenticationRequest}
    (brings : Brings request origin read) (valid : read.validate = .ok ()) :
    PhoneAuthProtocolCodec.encodeRequest read = .ok (withoutMarks request).encode := by
  have accepted := validate_eq_ok.mp valid
  refine brings.shows.encode_within ?_ ?_
  · have version := brings.version.2
    rw [accepted.version] at version
    have value := congrArg Int64.toInt version
    rw [Int64.toInt_ofNat_of_lt brings.version.1] at value
    exact (UInt64.toNat.inj (Int.natCast_inj.mp value)).symm
  · intro text member
    simp only [requestTexts, withoutMarks, List.mem_cons, List.not_mem_nil, or_false] at member
    rcases member with rfl | rfl | rfl | rfl | rfl | rfl | rfl | rfl
    · exact brings.requestId.1 ▸ (not_blankOrLong.mp accepted.requestId).2
    · exact brings.verifierId.1 ▸ (not_blankOrLong.mp accepted.verifierId).2
    · exact brings.verifierName.1 ▸ (not_blankOrLong.mp accepted.verifierName).2
    · exact brings.credentialId.1 ▸ (not_blankOrLong.mp accepted.credentialId).2
    · exact brings.service.1 ▸ (not_blankOrLong.mp accepted.service).2
    · exact brings.action.1 ▸ (not_blankOrLong.mp accepted.action).2
    · exact brings.resource.1 ▸ (not_blankOrLong.mp accepted.resource).2
    · exact brings.user.1 ▸ (not_blankOrLong.mp accepted.user).2

/-- No text in a frame starts with a byte order mark. -/
def MarkFree (frame : Uint8List) : Prop :=
  ∀ request : AuthRequest, frame.octets = request.encode → ∀ text ∈ requestTexts request, marked text.1 = false

/-- The phone signs the frame it has read exactly when no text in it starts with a byte order mark. -/
theorem encodeRequest_decodeRequest_iff {origin : String} {frame : Uint8List} {read : AuthenticationRequest}
    (run : PhoneAuthProtocolCodec.decodeRequest origin frame = .ok read) :
    PhoneAuthProtocolCodec.encodeRequest read = .ok frame.octets ↔ MarkFree frame := by
  obtain ⟨request, whole, brings, valid⟩ := PhoneAuthProtocolCodec.decodeRequest_spells run
  have size : request.encode.length < Protocol.wireLimit := by
    have size := (decodeWith_eq_ok.mp run).1.2
    rw [whole] at size
    unfold maxFrameBytes at size
    unfold Protocol.wireLimit
    omega
  have only (other : AuthRequest) (spelled : frame.octets = other.encode) : other = request :=
    (Protocol.AuthRequest.encode_injective (whole.symm.trans spelled) size).symm
  rw [brings.encode valid, whole, Except.ok.injEq]
  constructor
  · intro same other spelled
    cases only other spelled
    exact withoutMarks_eq_self.mp (Protocol.AuthRequest.encode_injective same.symm size).symm
  · intro unmarked
    rw [withoutMarks_eq_self.mpr (unmarked request whole)]

/-- The phone reads a request of the desktop, and signs it as it was asked, exactly when it takes each text as it is,
has a name for each of its times, and the session it came on has a label. -/
theorem phone_reads_request_iff (request : AuthRequest) (origin : String) (valid : request.validate = .ok ()) :
    (∃ read, PhoneAuthProtocolCodec.decodeRequest origin (received request valid) = .ok read ∧ Shows read request ∧
        PhoneAuthProtocolCodec.encodeRequest read = .ok request.encode) ↔
      Readable request ∧ ¬blankOrLong origin 128 := by
  have checked := checked_of_validate valid
  have decoded {read : AuthenticationRequest} : PhoneAuthProtocolCodec.decodeRequest origin (received request valid) =
      .ok read ↔ Brings request origin read ∧ read.validate = .ok () :=
    PhoneAuthProtocolCodec.decodeRequest_eq_ok rfl (encode_length_le checked)
  constructor
  · intro ⟨read, run, shows, _⟩
    obtain ⟨brings, accepted⟩ := decoded.mp run
    have passed := validate_eq_ok.mp accepted
    refine ⟨⟨?_, ?_, ?_⟩, brings.origin ▸ passed.origin⟩
    · -- each text came out as it went in, and was not blank there
      have text {max : Nat} {value shown : String} (same : shown = value) (dropped : shown = dropMark value)
          (filled : ¬blankOrLong shown max) : marked value = false ∧ blank value = false := by
        rw [same] at dropped filled
        exact ⟨dropMark_eq_self.mp dropped.symm, (not_blankOrLong.mp filled).1⟩
      intro entry member
      simp only [requestTexts, List.mem_cons, List.not_mem_nil, or_false] at member
      rcases member with rfl | rfl | rfl | rfl | rfl | rfl | rfl | rfl
      · exact text shows.requestId brings.requestId.1 passed.requestId
      · exact text shows.verifierId brings.verifierId.1 passed.verifierId
      · exact text shows.verifierName brings.verifierName.1 passed.verifierName
      · exact text shows.credentialId brings.credentialId.1 passed.credentialId
      · exact text shows.service brings.service.1 passed.service
      · exact text shows.action brings.action.1 passed.action
      · exact text shows.resource brings.resource.1 passed.resource
      · exact text shows.user brings.user.1 passed.user
    · exact shows.issuedAt ▸ read.issuedAt.within
    · exact shows.expiresAt ▸ read.expiresAt.within
  · intro ⟨readable, label⟩
    let read : AuthenticationRequest :=
      { protocolVersion := 1, requestId := request.requestId, verifierId := request.verifierId,
        verifierName := request.verifierName, credentialId := request.credentialId,
        challenge := request.challenge.val, origin, service := request.service, action := request.action,
        resource := request.resource, user := request.user, issuedAt := ⟨request.issuedAtMs, readable.issuedAt⟩,
        expiresAt := ⟨request.expiresAtMs, readable.expiresAt⟩, sessionBinding := request.sessionBinding.val }
    have shows : Shows read request :=
      ⟨by rw [checked.version]; rfl, rfl, rfl, rfl, rfl, rfl, rfl, rfl, rfl, rfl, rfl, rfl, rfl⟩
    have text (value : String) (max : Nat) (member : (value, max) ∈ requestTexts request) :
        (value = dropMark value ∧ value ≠ "") ∧ ¬blankOrLong value max := by
      obtain ⟨unmarked, filled⟩ := readable.texts _ member
      exact ⟨⟨(dropMark_eq_self.mpr unmarked).symm, blank_of_whitespace filled⟩,
        not_blankOrLong.mpr ⟨filled, (checked.texts _ member).2⟩⟩
    have requestId := text request.requestId 64 (by simp [requestTexts])
    have verifierId := text request.verifierId 64 (by simp [requestTexts])
    have verifierName := text request.verifierName 128 (by simp [requestTexts])
    have credentialId := text request.credentialId 64 (by simp [requestTexts])
    have service := text request.service 64 (by simp [requestTexts])
    have action := text request.action 128 (by simp [requestTexts])
    have resource := text request.resource 256 (by simp [requestTexts])
    have user := text request.user 128 (by simp [requestTexts])
    have brings : Brings request origin read :=
      ⟨by rw [checked.version]; exact ⟨by decide, rfl⟩, requestId.1, verifierId.1, verifierName.1, credentialId.1, rfl,
        service.1, action.1, resource.1, user.1, rfl, rfl, rfl, rfl⟩
    have accepted : Accepted read :=
      ⟨rfl, requestId.2, verifierId.2, verifierName.2, credentialId.2, label, service.2, action.2, resource.2, user.2,
        ⟨request.challenge.property, request.sessionBinding.property⟩, window_accepted checked.window⟩
    exact ⟨read, decoded.mpr ⟨brings, validate_eq_ok.mpr accepted⟩, shows, shows.encode checked⟩

theorem validate_of_checked {request : AuthRequest} (checked : Checked request) : request.validate = .ok () := by
  have text {field value : String} {max : Nat} (member : (value, max) ∈ requestTexts request) :
      checkText field value max = .ok () :=
    checkText_eq_ok.mpr (checked.texts _ member)
  unfold AuthRequest.validate
  simp only [except_bind_eq_ok]
  exact ⟨(), except_require_eq_ok.mpr checked.version, (), text (by simp [requestTexts]), (), text (by simp [requestTexts]),
    (), text (by simp [requestTexts]), (), text (by simp [requestTexts]), (), text (by simp [requestTexts]), (),
    text (by simp [requestTexts]), (), text (by simp [requestTexts]), (), text (by simp [requestTexts]),
    except_require_eq_ok.mpr checked.window⟩

/-- A mark is among what the phone strips. -/
theorem blank_dropMark (text : String) : blank (dropMark text) = blank text := by
  unfold dropMark
  split
  · rename_i rest front
    rw [blank, blank, front, String.toList_ofList, List.all_cons, show trimmed '\uFEFF' = true by decide, Bool.true_and]
  · rfl

theorem utf16Len_dropMark (text : String) : utf16Len (dropMark text) ≤ utf16Len text := by
  unfold dropMark
  split
  · rename_i rest front
    rw [utf16Len, utf16Len, front, String.toList_ofList, List.map_cons, List.sum_cons]
    exact Nat.le_add_left _ _
  · exact Nat.le_refl _

/-- The phone takes a request of the desktop, if not always as it was asked, exactly when no text is blank to it, it has
a name for each of its times, and the session it came on has a label. -/
theorem phone_takes_request_iff {request : AuthRequest} {origin : String} {frame : Uint8List}
    (checked : Checked request) (whole : frame.octets = request.encode) :
    (∃ read, PhoneAuthProtocolCodec.decodeRequest origin frame = .ok read) ↔
      (∀ text ∈ requestTexts request, blank text.1 = false) ∧ DateTime.Reaches request.issuedAtMs ∧
        DateTime.Reaches request.expiresAtMs ∧ ¬blankOrLong origin 128 := by
  have size : frame.octets.length ≤ maxFrameBytes := whole ▸ encode_length_le checked
  have decoded {read : AuthenticationRequest} : PhoneAuthProtocolCodec.decodeRequest origin frame = .ok read ↔
      Brings request origin read ∧ read.validate = .ok () :=
    PhoneAuthProtocolCodec.decodeRequest_eq_ok whole size
  constructor
  · intro ⟨read, run⟩
    obtain ⟨brings, accepted⟩ := decoded.mp run
    have passed := validate_eq_ok.mp accepted
    have text {max : Nat} {value shown : String} (dropped : shown = dropMark value) (filled : ¬blankOrLong shown max) :
        blank value = false := by
      rw [← blank_dropMark, ← dropped]
      exact (not_blankOrLong.mp filled).1
    refine ⟨?_, brings.issuedAt ▸ read.issuedAt.within, brings.expiresAt ▸ read.expiresAt.within,
      brings.origin ▸ passed.origin⟩
    intro entry member
    simp only [requestTexts, List.mem_cons, List.not_mem_nil, or_false] at member
    rcases member with rfl | rfl | rfl | rfl | rfl | rfl | rfl | rfl
    · exact text brings.requestId.1 passed.requestId
    · exact text brings.verifierId.1 passed.verifierId
    · exact text brings.verifierName.1 passed.verifierName
    · exact text brings.credentialId.1 passed.credentialId
    · exact text brings.service.1 passed.service
    · exact text brings.action.1 passed.action
    · exact text brings.resource.1 passed.resource
    · exact text brings.user.1 passed.user
  · intro ⟨filled, issuedAt, expiresAt, label⟩
    let read : AuthenticationRequest :=
      { protocolVersion := 1, requestId := dropMark request.requestId, verifierId := dropMark request.verifierId,
        verifierName := dropMark request.verifierName, credentialId := dropMark request.credentialId,
        challenge := request.challenge.val, origin, service := dropMark request.service,
        action := dropMark request.action, resource := dropMark request.resource, user := dropMark request.user,
        issuedAt := ⟨request.issuedAtMs, issuedAt⟩, expiresAt := ⟨request.expiresAtMs, expiresAt⟩,
        sessionBinding := request.sessionBinding.val }
    have text (value : String) (max : Nat) (member : (value, max) ∈ requestTexts request) :
        (dropMark value = dropMark value ∧ dropMark value ≠ "") ∧ ¬blankOrLong (dropMark value) max := by
      have dropped := (blank_dropMark value).trans (filled _ member)
      exact ⟨⟨rfl, blank_of_whitespace dropped⟩,
        not_blankOrLong.mpr ⟨dropped, (utf16Len_dropMark value).trans (checked.texts _ member).2⟩⟩
    have requestId := text request.requestId 64 (by simp [requestTexts])
    have verifierId := text request.verifierId 64 (by simp [requestTexts])
    have verifierName := text request.verifierName 128 (by simp [requestTexts])
    have credentialId := text request.credentialId 64 (by simp [requestTexts])
    have service := text request.service 64 (by simp [requestTexts])
    have action := text request.action 128 (by simp [requestTexts])
    have resource := text request.resource 256 (by simp [requestTexts])
    have user := text request.user 128 (by simp [requestTexts])
    have brings : Brings request origin read :=
      ⟨by rw [checked.version]; exact ⟨by decide, rfl⟩, requestId.1, verifierId.1, verifierName.1, credentialId.1, rfl,
        service.1, action.1, resource.1, user.1, rfl, rfl, rfl, rfl⟩
    have accepted : Accepted read :=
      ⟨rfl, requestId.2, verifierId.2, verifierName.2, credentialId.2, label, service.2, action.2, resource.2, user.2,
        ⟨request.challenge.property, request.sessionBinding.property⟩, window_accepted checked.window⟩
    exact ⟨read, decoded.mpr ⟨brings, validate_eq_ok.mpr accepted⟩⟩

/-- A request for `sudo`, with an action of the caller's. -/
def sudoRequest (action : String) (issuedAtMs : Int64) : AuthRequest where
  protocolVersion := 1
  requestId := "r"
  verifierId := "v"
  verifierName := "desk"
  credentialId := "c"
  challenge := ⟨List.replicate 32 0, rfl⟩
  service := "sudo"
  action := action
  resource := "host"
  user := "ana"
  issuedAtMs := issuedAtMs
  expiresAtMs := issuedAtMs + 60_000
  sessionBinding := ⟨List.replicate 32 0, rfl⟩

theorem plain_request_read :
    (∃ read, PhoneAuthProtocolCodec.decodeRequest "tcp" (received (sudoRequest "reboot" 1000) (by decide +kernel)) = .ok read ∧
        Shows read (sudoRequest "reboot" 1000) ∧
        PhoneAuthProtocolCodec.encodeRequest read = .ok (sudoRequest "reboot" 1000).encode) ↔
      Readable (sudoRequest "reboot" 1000) ∧ ¬blankOrLong "tcp" 128 :=
  phone_reads_request_iff (sudoRequest "reboot" 1000) "tcp" (by decide +kernel)

/-- The desktop sends a marked text, a text that is blank on the phone only, and a time past the last the phone has. -/
theorem valid_requests_unread :
    (sudoRequest "\uFEFFreboot" 1000).validate = .ok () ∧
    (∀ valid, (PhoneAuthProtocolCodec.decodeRequest "tcp" (received (sudoRequest "\uFEFFreboot" 1000) valid)).map
      AuthenticationRequest.action = .ok "reboot") ∧
    (sudoRequest " \uFEFF" 1000).validate = .ok () ∧
    (∀ valid, PhoneAuthProtocolCodec.decodeRequest "tcp" (received (sudoRequest " \uFEFF" 1000) valid) =
      .error (formatException "invalid field: action")) ∧
    (sudoRequest "reboot" 9_000_000_000_000_000).validate = .ok () ∧
    (∀ valid, PhoneAuthProtocolCodec.decodeRequest "tcp"
      (received (sudoRequest "reboot" 9_000_000_000_000_000) valid) = .error .argumentError) := by
  decide +kernel

end Mobile

end BioAuth
