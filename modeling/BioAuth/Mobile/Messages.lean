import BioAuth.Mobile.Layout
import BioAuth.Protocol.Messages

namespace BioAuth.Mobile
open BioAuth

/-- What the phone shows and signs. -/
structure AuthenticationRequest where
  protocolVersion : Int64
  requestId : String
  verifierId : String
  verifierName : String
  credentialId : String
  challenge : Bytes
  /-- A property of the session the frame arrived on. It is not on the wire. -/
  origin : String
  service : String
  action : String
  resource : String
  user : String
  issuedAt : DateTime
  expiresAt : DateTime
  sessionBinding : Bytes
  deriving DecidableEq

namespace AuthenticationRequest

def checkField (field value : String) (max : Nat) : Except Refusal Unit :=
  require (¬blankOrLong value max) (.formatException ("invalid field: " ++ field))

/-- Two minutes, in microseconds. -/
def longestValidity : Int64 := 120_000_000

def validate (request : AuthenticationRequest) : Except Refusal Unit := do
  require (request.protocolVersion = 1) (.formatException "unsupported protocol version")
  checkField "requestId" request.requestId 64
  checkField "verifierId" request.verifierId 64
  checkField "verifierName" request.verifierName 128
  checkField "credentialId" request.credentialId 64
  checkField "origin" request.origin 128
  checkField "service" request.service 64
  checkField "action" request.action 128
  checkField "resource" request.resource 256
  checkField "user" request.user 128
  require (request.challenge.length = 32 ∧ request.sessionBinding.length = 32)
    (.formatException "challenge and session binding must be 32 bytes")
  require (request.expiresAt.isAfter request.issuedAt = true ∧
      ¬longestValidity < request.expiresAt.difference request.issuedAt)
    (.formatException "invalid validity window")

end AuthenticationRequest

namespace PhoneAuthProtocolCodec

def requestType : Int64 := 1
def requestFrameLength : Int64 := 14

def encodeRequest (request : AuthenticationRequest) : Except Refusal Bytes := do
  return [CborWriter.array 14, ← CborWriter.uint requestType, ← CborWriter.uint request.protocolVersion,
    CborWriter.text request.requestId, CborWriter.text request.verifierId, CborWriter.text request.verifierName,
    CborWriter.text request.credentialId, CborWriter.bytes request.challenge, CborWriter.text request.service,
    CborWriter.text request.action, CborWriter.text request.resource, CborWriter.text request.user,
    CborWriter.int64 request.issuedAt.millisecondsSinceEpoch,
    CborWriter.int64 request.expiresAt.millisecondsSinceEpoch, CborWriter.bytes request.sessionBinding].flatten

/-- `_text`. -/
def text : Fallible CborReader Thrown String := do
  let value ← CborReader.text
  require (value ≠ "") (formatException "Texto esperado")
  return value

/-- `_decode`. -/
def decode {α : Type} (expectedLength : Int64) (build : Fallible CborReader Thrown α) (frame : Uint8List) :
    Except Thrown α :=
  decodeWith maxFrameBytes "invalid frame length" (do
    require ((← CborReader.array) = expectedLength) (formatException "invalid CBOR structure")
    let decoded ← build
    CborReader.finish
    return decoded) frame

def readFields (origin : String) : Fallible CborReader Thrown AuthenticationRequest := do
  require ((← CborReader.uint) = requestType) (formatException "Tipo de mensagem inesperado")
  let protocolVersion ← CborReader.uint
  let requestId ← text
  let verifierId ← text
  let verifierName ← text
  let credentialId ← text
  let challenge ← CborReader.bytes
  let service ← text
  let action ← text
  let resource ← text
  let user ← text
  let issuedAt ← readTime
  let expiresAt ← readTime
  let sessionBinding ← CborReader.bytes
  return { protocolVersion, requestId, verifierId, verifierName, credentialId, challenge, origin, service, action,
           resource, user, issuedAt, expiresAt, sessionBinding }

/-- The constructor of a request validates it. -/
def readRequest (origin : String) : Fallible CborReader Thrown AuthenticationRequest := do
  let request ← readFields origin
  refusing request.validate
  return request

def decodeRequest (origin : String) : Uint8List → Except Thrown AuthenticationRequest :=
  decode requestFrameLength (readRequest origin)

theorem text_readBy : (Item.text (· ≠ "")).ReadBy text (fun _ => True) where
  escapes reader := by
    rw [text, escapes_bind]
    constructor
    · intro either
      rcases either with first | ⟨value, mid, _, later⟩
      · exact (CborReader.text_escapes refused_declared).mp first
      · exact absurd later (((Safe.require _ _).bind fun _ => .pure value) mid)
    · intro overlong
      exact Or.inl ((CborReader.text_escapes refused_declared).mpr overlong)
  passes reader after := by
    rw [← (Item.text_readBy (· ≠ "")).passes reader after]
    simp only [text, Fallible.bind_eq_ok, Fallible.require_eq_ok, Fallible.pure_eq_ok]
    constructor
    · intro run
      obtain ⟨_, _, value, mid, read, _, _, ⟨accepted, rfl⟩, rfl, rfl⟩ := run
      exact ⟨value, accepted, read⟩
    · intro ⟨value, accepted, read⟩
      exact ⟨value, trivial, value, after, read, (), after, ⟨accepted, rfl⟩, rfl, rfl⟩

theorem text_reading {β : Type} {layout : Layout} {f : String → Fallible CborReader Thrown β}
    (next : ∀ a, Reading (f a) layout) : Reading (text >>= f) (.item (.text (· ≠ "")) :: layout) :=
  .every text_readBy next

def requestLayout : Layout :=
  [.item (.number majorArray (· = requestFrameLength)), .item (.number majorUint (· = requestType)),
    .item (.number majorUint fun _ => True), .item (.text (· ≠ "")), .item (.text (· ≠ "")), .item (.text (· ≠ "")),
    .item (.text (· ≠ "")), .item .bytes, .item (.text (· ≠ "")), .item (.text (· ≠ "")), .item (.text (· ≠ "")),
    .item (.text (· ≠ "")), .item .time, .item .time, .item .bytes]

theorem readFields_reading (origin : String) : Reading (readFields origin) (requestLayout.drop 1) := by
  refine .checked (Item.number_readBy (by decide) _) fun _ _ => ?_
  refine .uint fun protocolVersion => ?_
  refine text_reading fun requestId => text_reading fun verifierId => text_reading fun verifierName => ?_
  refine text_reading fun credentialId => .bytes fun challenge => ?_
  refine text_reading fun service => text_reading fun action => text_reading fun resource => ?_
  refine text_reading fun user => ?_
  refine .time fun issuedAt => .time fun expiresAt => .bytes fun sessionBinding => ?_
  exact .pure _

theorem decodeRequest_declares (origin : String) : Declares (decodeRequest origin) maxFrameBytes requestLayout := by
  refine decodeWith_declares fun frame => .checked (Item.number_readBy (by decide) _) fun _ _ => ?_
  have last (request : AuthenticationRequest) : Safe (do
      refusing request.validate
      CborReader.finish
      return request) :=
    (Safe.refusing _).bind fun _ => Safe.finish.bind fun _ => .pure request
  have fields := (readFields_reading origin).goesOn _ [] fun request => .done (last request)
  rw [List.append_nil] at fields
  rw [readRequest, Fallible.bind_assoc]
  simp only [Fallible.bind_assoc]
  exact fields

end PhoneAuthProtocolCodec

inductive ApplicationFrameKind
  | request
  | response
  | cancel
  | error
  deriving DecidableEq

namespace ApplicationFrameKind

def index : ApplicationFrameKind → Int64
  | request => 0
  | response => 1
  | cancel => 2
  | error => 3

/-- `values[index]`, refused when there is none. -/
def ofIndex (index : Int64) : Except Refusal ApplicationFrameKind :=
  if index = 0 then .ok request
  else if index = 1 then .ok response
  else if index = 2 then .ok cancel
  else if index = 3 then .ok error
  else .error (.formatException "invalid frame type")

end ApplicationFrameKind

/-- A missing item and a stale revision are the same rejection. -/
inductive ApplicationErrorCode
  | rejected
  | invalidRequest
  | unavailable

namespace ApplicationErrorCode

def index : ApplicationErrorCode → Int64
  | rejected => 0
  | invalidRequest => 1
  | unavailable => 2

def ofIndex (index : Int64) : Except Refusal ApplicationErrorCode :=
  if index = 0 then .ok rejected
  else if index = 1 then .ok invalidRequest
  else if index = 2 then .ok unavailable
  else .error (.formatException "invalid application error")

def encode (code : ApplicationErrorCode) : Except Refusal Bytes := do
  return [CborWriter.array 2, ← CborWriter.uint 1, ← CborWriter.uint code.index].flatten

def read (payload : Uint8List) : Fallible CborReader Thrown ApplicationErrorCode := do
  require ((← CborReader.array) = 2) (formatException "invalid application error")
  require ((← CborReader.uint) = 1) (formatException "invalid application error")
  let decoded ← refusing (ofIndex (← CborReader.uint))
  CborReader.finish
  let reencoded ← refusing decoded.encode
  require (reencoded = payload.octets) (formatException "non-canonical application error")
  return decoded

def decode (payload : Uint8List) : Except Thrown ApplicationErrorCode :=
  (read payload (CborReader.of payload)).1.mapError Thrown.asFormat

/-- An error code holds nothing but numbers. -/
theorem read_safe (payload : Uint8List) : Safe (read payload) := by
  refine Safe.array.bind fun _ => (Safe.require _ _).bind fun _ => ?_
  refine Safe.uint.bind fun _ => (Safe.require _ _).bind fun _ => ?_
  refine Safe.uint.bind fun _ => (Safe.refusing _).bind fun decoded => Safe.finish.bind fun _ => ?_
  exact (Safe.refusing _).bind fun _ => (Safe.require _ _).bind fun _ => .pure decoded

theorem declares (payload : Uint8List) (e : Thrown) (thrown : decode payload = .error e) :
    ∃ message, e = formatException message := by
  unfold decode at thrown
  rcases run : read payload (CborReader.of payload) with ⟨first | code, after⟩
  · rw [run] at thrown
    cases thrown
    rw [asFormat_declared]
    by_contra undeclared
    exact read_safe payload _ ⟨first, after, run, undeclared⟩
  · rw [run] at thrown
    cases thrown

end ApplicationErrorCode

/-- An application message inside the secure channel. -/
structure ApplicationFrame where
  protocolVersion : Int64
  kind : ApplicationFrameKind
  requestId : String
  sessionBinding : Bytes
  operation : String
  issuedAt : DateTime
  expiresAt : DateTime
  payload : Bytes
  deriving DecidableEq

def maxApplicationPayloadBytes : Nat := 6 * 1024

namespace ApplicationFrame

def messageType : Int64 := 4
def frameLength : Int64 := 9
def maxValidityMs : Int64 := 120_000

def recognizes (frame : Uint8List) : Bool :=
  2 ≤ frame.octets.length && frame.octets[0]? = some 0x89 && frame.octets[1]? = some 4

def operationSpaces : List String := ["vault.", "locker.", "luks.", "ssh.", "permissions."]

/-- The code units of a letter, a digit, a dot or a hyphen. No other character has one of them. -/
def operationChar (c : Char) : Bool :=
  let unit := c.val.toNat
  (0x61 ≤ unit && unit ≤ 0x7a) || (0x30 ≤ unit && unit ≤ 0x39) || unit = 0x2e || unit = 0x2d

def containsTwoDots : List Char → Bool
  | '.' :: '.' :: _ => true
  | _ :: rest => containsTwoDots rest
  | [] => false

def validOperation (value : String) : Bool :=
  match operationSpaces.find? fun space => space.toList.isPrefixOf value.toList with
  | none => false
  | some space =>
    let suffix := value.toList.drop space.length
    !suffix.isEmpty && decide (utf16Len value ≤ 64) && !containsTwoDots suffix && suffix.all operationChar

def validate (frame : ApplicationFrame) : Except Refusal Unit := do
  require (frame.protocolVersion = 1) (.formatException "unsupported frame version")
  require (¬blankOrLong frame.requestId 64) (.formatException "invalid requestId")
  require (validOperation frame.operation = true) (.formatException "invalid application operation")
  require (frame.sessionBinding.length = 32) (.formatException "invalid session binding")
  require (frame.payload.length ≤ maxApplicationPayloadBytes) (.formatException "application payload too large")
  let validity := frame.expiresAt.millisecondsSinceEpoch - frame.issuedAt.millisecondsSinceEpoch
  require (0 < validity ∧ validity ≤ maxValidityMs) (.formatException "invalid frame validity")

def isExpiredAt (frame : ApplicationFrame) (now : DateTime) : Bool :=
  frame.expiresAt.millisecondsSinceEpoch ≤ now.millisecondsSinceEpoch

def isReplyTo (frame request : ApplicationFrame) (now : DateTime) : Bool :=
  request.kind = .request && (frame.kind = .response || frame.kind = .error) && frame.requestId = request.requestId &&
    frame.sessionBinding = request.sessionBinding && frame.operation = request.operation &&
    frame.issuedAt = request.issuedAt && frame.expiresAt = request.expiresAt && !frame.isExpiredAt now

def encode (frame : ApplicationFrame) : Except Refusal Bytes := do
  frame.validate
  return [CborWriter.array 9, ← CborWriter.uint messageType, ← CborWriter.uint frame.protocolVersion,
    ← CborWriter.uint frame.kind.index, CborWriter.text frame.requestId, CborWriter.bytes frame.sessionBinding,
    CborWriter.text frame.operation, CborWriter.int64 frame.issuedAt.millisecondsSinceEpoch,
    CborWriter.int64 frame.expiresAt.millisecondsSinceEpoch, CborWriter.bytes frame.payload].flatten

def readFields : Fallible CborReader Thrown ApplicationFrame := do
  let protocolVersion ← CborReader.uint
  let kind ← refusing (ApplicationFrameKind.ofIndex (← CborReader.uint))
  let requestId ← CborReader.text
  let sessionBinding ← CborReader.bytes
  let operation ← CborReader.text
  let issuedAt ← readTime
  let expiresAt ← readTime
  let payload ← CborReader.bytes
  return { protocolVersion, kind, requestId, sessionBinding, operation, issuedAt, expiresAt, payload }

def read (frame : Uint8List) : Fallible CborReader Thrown ApplicationFrame := do
  require ((← CborReader.array) = frameLength) (formatException "Estrutura de frame inesperada")
  require ((← CborReader.uint) = messageType) (formatException "Estrutura de frame inesperada")
  let decoded ← readFields
  CborReader.finish
  refusing decoded.validate
  let reencoded ← refusing decoded.encode
  require (reencoded = frame.octets) (formatException "non-canonical CBOR frame")
  return decoded

def decode (frame : Uint8List) : Except Thrown ApplicationFrame :=
  decodeWith maxFrameBytes "invalid frame length" (read frame) frame

def layout : Layout :=
  [.item (.number majorArray (· = frameLength)), .item (.number majorUint (· = messageType)),
    .item (.number majorUint fun _ => True),
    .item (.number majorUint fun index => ∃ kind, ApplicationFrameKind.ofIndex index = .ok kind),
    .item (.text fun _ => True), .item .bytes, .item (.text fun _ => True), .item .time, .item .time, .item .bytes]

theorem readFields_reading : Reading readFields (layout.drop 2) := by
  refine .uint fun protocolVersion => .converted (by decide) fun kind => .text fun requestId => ?_
  refine .bytes fun sessionBinding => .text fun operation => .time fun issuedAt => .time fun expiresAt => ?_
  exact .bytes fun payload => .pure _

theorem declares : Declares decode maxFrameBytes layout := by
  refine decodeWith_declares fun frame => ?_
  have last (decoded : ApplicationFrame) : Safe (do
      CborReader.finish
      refusing decoded.validate
      let reencoded ← refusing decoded.encode
      require (reencoded = frame.octets) (formatException "non-canonical CBOR frame")
      return decoded) := by
    refine Safe.finish.bind fun _ => (Safe.refusing _).bind fun _ => (Safe.refusing _).bind fun _ => ?_
    exact (Safe.require _ _).bind fun _ => .pure decoded
  have fields := readFields_reading.goesOn _ [] fun decoded => .done (last decoded)
  rw [List.append_nil] at fields
  exact .checked (Item.number_readBy (by decide) _) fun _ _ =>
    .checked (Item.number_readBy (by decide) _) fun _ _ => fields

end ApplicationFrame

end BioAuth.Mobile
