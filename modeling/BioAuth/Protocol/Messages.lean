import BioAuth.Protocol.Codec

namespace BioAuth.Protocol
open BioAuth

/-- The fields of a request or an application frame that bound it in time. The source also refuses a difference
that overflows, which is never within the window. -/
def checkWindow (issuedAtMs expiresAtMs : Int64) : Except ProtocolError Unit :=
  require (0 < expiresAtMs.toInt - issuedAtMs.toInt ∧ expiresAtMs.toInt - issuedAtMs.toInt ≤ maxValidityMs)
    ProtocolError.validityWindow

def checkVersion (version : UInt64) : Except ProtocolError Unit :=
  require (version = protocolVersion) (ProtocolError.unsupportedVersion version)

/-- What a phone displays and signs. -/
structure AuthRequest where
  protocolVersion : UInt64
  requestId : String
  verifierId : String
  verifierName : String
  credentialId : String
  challenge : Block challengeLen
  service : String
  action : String
  resource : String
  user : String
  issuedAtMs : Int64
  expiresAtMs : Int64
  sessionBinding : Block sessionBindingLen

namespace AuthRequest

def requestFrameLen : UInt64 := 14

def validate (request : AuthRequest) : Except ProtocolError Unit := do
  checkVersion request.protocolVersion
  checkText "requestId" request.requestId 64
  checkText "verifierId" request.verifierId 64
  checkText "verifierName" request.verifierName 128
  checkText "credentialId" request.credentialId 64
  checkText "service" request.service 64
  checkText "action" request.action 128
  checkText "resource" request.resource 256
  checkText "user" request.user 128
  checkWindow request.issuedAtMs request.expiresAtMs

/-- The boundary is inclusive: a request that expires now is expired. -/
def isExpiredAt (request : AuthRequest) (nowMs : Int64) : Bool := request.expiresAtMs ≤ nowMs

def body (request : AuthRequest) : Bytes :=
  [Writer.uint request.protocolVersion, Writer.text request.requestId, Writer.text request.verifierId,
    Writer.text request.verifierName, Writer.text request.credentialId, Writer.bytes request.challenge.val,
    Writer.text request.service, Writer.text request.action, Writer.text request.resource, Writer.text request.user,
    Writer.int request.issuedAtMs, Writer.int request.expiresAtMs, Writer.bytes request.sessionBinding.val].flatten

def encode (request : AuthRequest) : Bytes :=
  Writer.array requestFrameLen ++ (Writer.uint messageTypeRequest ++ request.body)

/-- The payload a phone signs. -/
def signingPayload (request : AuthRequest) : Bytes := request.encode

def read : Parse ProtocolError AuthRequest := do
  let protocolVersion ← cbor Reader.uint
  let requestId ← cbor Reader.text
  let verifierId ← cbor Reader.text
  let verifierName ← cbor Reader.text
  let credentialId ← cbor Reader.text
  let challenge ← fixedBytes challengeLen "challenge" (← cbor Reader.bytes)
  let service ← cbor Reader.text
  let action ← cbor Reader.text
  let resource ← cbor Reader.text
  let user ← cbor Reader.text
  let issuedAtMs ← cbor Reader.int
  let expiresAtMs ← cbor Reader.int
  let sessionBinding ← fixedBytes sessionBindingLen "sessionBinding" (← cbor Reader.bytes)
  return { protocolVersion, requestId, verifierId, verifierName, credentialId, challenge, service, action, resource,
           user, issuedAtMs, expiresAtMs, sessionBinding }

def decode : Bytes → Except ProtocolError AuthRequest :=
  decodeFrame requestFrameLen messageTypeRequest read validate encode

theorem body_reads (request : AuthRequest) : Parse.Reads wireLimit read request.body request :=
  (uint_reads _).bind <| (text_reads _).bind <| (text_reads _).bind <| (text_reads _).bind <| (text_reads _).bind <|
    fixed_reads _ _ <| (text_reads _).bind <| (text_reads _).bind <| (text_reads _).bind <| (text_reads _).bind <|
      (int_reads _).bind <| (int_reads _).bind <| fixed_reads _ _ <| .pure request

theorem exact : Exact encode validate decode maxFrameBytes :=
  decodeFrame_exact (fun request _ => request.body_reads) fun _ => rfl

end AuthRequest

/-- The phone's verdict. -/
inductive Decision
  | authorized
  | denied
  deriving DecidableEq

namespace Decision

def wire : Decision → UInt64
  | authorized => 0
  | denied => 1

def fromWire (value : Int64) : Except ProtocolError Decision :=
  if value = 0 then .ok authorized
  else if value = 1 then .ok denied
  else .error (.invalidDecision value)

end Decision

theorem decision_reads (decision : Decision) {α : Type} {f : Decision → Parse ProtocolError α} {back : Bytes} {a : α}
    (next : Parse.Reads wireLimit (f decision) back a) :
    Parse.Reads wireLimit (do let value ← cbor Reader.int; let decision ← Decision.fromWire value; f decision)
      (Writer.uint decision.wire ++ back) a := by
  cases decision with
  | authorized => exact (int_reads 0).bind (.lift rfl next)
  | denied => exact (int_reads 1).bind (.lift rfl next)

/-- The answer to one request. -/
structure AuthResponse where
  protocolVersion : UInt64
  requestId : String
  verifierId : String
  credentialId : String
  decision : Decision
  /-- Empty when denied. -/
  algorithm : String
  signature : Bytes

namespace AuthResponse

def responseFrameLen : UInt64 := 8

def validate (response : AuthResponse) : Except ProtocolError Unit := do
  checkVersion response.protocolVersion
  checkText "requestId" response.requestId 64
  checkText "verifierId" response.verifierId 64
  checkText "credentialId" response.credentialId 64
  require (response.decision = .authorized → response.algorithm ≠ "" ∧ response.signature ≠ [])
    ProtocolError.missingProof

def body (response : AuthResponse) : Bytes :=
  [Writer.uint response.protocolVersion, Writer.text response.requestId, Writer.text response.verifierId,
    Writer.text response.credentialId, Writer.uint response.decision.wire, Writer.text response.algorithm,
    Writer.bytes response.signature].flatten

def encode (response : AuthResponse) : Bytes :=
  Writer.array responseFrameLen ++ (Writer.uint messageTypeResponse ++ response.body)

def read : Parse ProtocolError AuthResponse := do
  let protocolVersion ← cbor Reader.uint
  let requestId ← cbor Reader.text
  let verifierId ← cbor Reader.text
  let credentialId ← cbor Reader.text
  let decision ← Decision.fromWire (← cbor Reader.int)
  let algorithm ← cbor Reader.text
  let signature ← cbor Reader.bytes
  return { protocolVersion, requestId, verifierId, credentialId, decision, algorithm, signature }

def decode : Bytes → Except ProtocolError AuthResponse :=
  decodeFrame responseFrameLen messageTypeResponse read validate encode

theorem body_reads (response : AuthResponse) : Parse.Reads wireLimit read response.body response :=
  (uint_reads _).bind <| (text_reads _).bind <| (text_reads _).bind <| (text_reads _).bind <|
    decision_reads _ <| (text_reads _).bind <| (bytes_reads _).bind <| .pure response

theorem exact : Exact encode validate decode maxFrameBytes :=
  decodeFrame_exact (fun response _ => response.body_reads) fun _ => rfl

end AuthResponse

/-- Where a credential's private key lives on the phone. -/
inductive KeyKind
  | strongBox
  | hardware
  | software
  deriving DecidableEq

namespace KeyKind

def wire : KeyKind → UInt64
  | strongBox => 0
  | hardware => 1
  | software => 2

def fromWire (value : Int64) : Except ProtocolError KeyKind :=
  if value = 0 then .ok strongBox
  else if value = 1 then .ok hardware
  else if value = 2 then .ok software
  else .error (.invalidKeyKind value)

end KeyKind

theorem keyKind_reads (keyKind : KeyKind) {α : Type} {f : KeyKind → Parse ProtocolError α} {back : Bytes} {a : α}
    (next : Parse.Reads wireLimit (f keyKind) back a) :
    Parse.Reads wireLimit (do let value ← cbor Reader.int; let keyKind ← KeyKind.fromWire value; f keyKind)
      (Writer.uint keyKind.wire ++ back) a := by
  cases keyKind with
  | strongBox => exact (int_reads 0).bind (.lift rfl next)
  | hardware => exact (int_reads 1).bind (.lift rfl next)
  | software => exact (int_reads 2).bind (.lift rfl next)

theorem purpose_reads (purpose : CredentialPurpose) {α : Type} {f : CredentialPurpose → Parse ProtocolError α}
    {back : Bytes} {a : α} (next : Parse.Reads wireLimit (f purpose) back a) :
    Parse.Reads wireLimit
      (do let value ← cbor Reader.int; let purpose ← CredentialPurpose.fromWire value; f purpose)
      (Writer.uint purpose.wire.toUInt64 ++ back) a := by
  cases purpose with
  | authorization => exact (int_reads 0).bind (.lift rfl next)
  | diskUnlock => exact (int_reads 1).bind (.lift rfl next)
  | webAuthn => exact (int_reads 2).bind (.lift rfl next)
  | vault => exact (int_reads 3).bind (.lift rfl next)
  | fileLocker => exact (int_reads 4).bind (.lift rfl next)
  | ssh => exact (int_reads 5).bind (.lift rfl next)

/-- One credential offered for enrolment. -/
structure Enrolment where
  protocolVersion : UInt64
  deviceName : String
  credentialId : String
  algorithm : String
  publicKey : Bytes
  keyKind : KeyKind
  purpose : CredentialPurpose

/-- A field kept for a future version. -/
def readReserved : Parse ProtocolError Unit := do
  let reserved ← cbor Reader.uint
  require (reserved = 0) (ProtocolError.invalidReservedField reserved)

theorem reserved_reads : Parse.Reads wireLimit readReserved (Writer.uint 0) () :=
  .trailing <| (uint_reads 0).bind <| .pure ()

namespace Enrolment

def enrolmentFrameLen : UInt64 := 9

def validate (enrolment : Enrolment) : Except ProtocolError Unit := do
  checkVersion enrolment.protocolVersion
  checkText "deviceName" enrolment.deviceName 128
  checkText "credentialId" enrolment.credentialId 64
  checkText "algorithm" enrolment.algorithm 64
  require (enrolment.publicKey ≠ [] ∧ enrolment.publicKey.length ≤ 512)
    (ProtocolError.fieldLength "publicKey" 91 enrolment.publicKey.length)

def body (enrolment : Enrolment) : Bytes :=
  [Writer.uint enrolment.protocolVersion, Writer.text enrolment.deviceName, Writer.text enrolment.credentialId,
    Writer.text enrolment.algorithm, Writer.bytes enrolment.publicKey, Writer.uint enrolment.keyKind.wire,
    Writer.uint enrolment.purpose.wire.toUInt64, Writer.uint 0].flatten

def encode (enrolment : Enrolment) : Bytes :=
  Writer.array enrolmentFrameLen ++ (Writer.uint messageTypeEnrolment ++ enrolment.body)

def read : Parse ProtocolError Enrolment := do
  let protocolVersion ← cbor Reader.uint
  let deviceName ← cbor Reader.text
  let credentialId ← cbor Reader.text
  let algorithm ← cbor Reader.text
  let publicKey ← cbor Reader.bytes
  let keyKind ← KeyKind.fromWire (← cbor Reader.int)
  let purpose ← CredentialPurpose.fromWire (← cbor Reader.int)
  readReserved
  return { protocolVersion, deviceName, credentialId, algorithm, publicKey, keyKind, purpose }

def decode : Bytes → Except ProtocolError Enrolment :=
  decodeFrame enrolmentFrameLen messageTypeEnrolment read validate encode

theorem body_reads (enrolment : Enrolment) : Parse.Reads wireLimit read enrolment.body enrolment :=
  (uint_reads _).bind <| (text_reads _).bind <| (text_reads _).bind <| (text_reads _).bind <| (bytes_reads _).bind <|
    keyKind_reads _ <| purpose_reads _ <| reserved_reads.bind <| .pure enrolment

theorem exact : Exact encode validate decode maxFrameBytes :=
  decodeFrame_exact (fun enrolment _ => enrolment.body_reads) fun _ => rfl

end Enrolment

/-- What a paired phone opens a session with: the credential the session is for. -/
structure SessionAttach where
  protocolVersion : UInt64
  credentialId : String

namespace SessionAttach

def attachFrameLen : UInt64 := 4

def validate (attach : SessionAttach) : Except ProtocolError Unit := do
  checkVersion attach.protocolVersion
  checkText "credentialId" attach.credentialId 64

def body (attach : SessionAttach) : Bytes :=
  [Writer.uint attach.protocolVersion, Writer.text attach.credentialId, Writer.uint 0].flatten

def encode (attach : SessionAttach) : Bytes :=
  Writer.array attachFrameLen ++ (Writer.uint messageTypeAttach ++ attach.body)

def read : Parse ProtocolError SessionAttach := do
  let protocolVersion ← cbor Reader.uint
  let credentialId ← cbor Reader.text
  readReserved
  return { protocolVersion, credentialId }

def decode : Bytes → Except ProtocolError SessionAttach :=
  decodeFrame attachFrameLen messageTypeAttach read validate encode

theorem body_reads (attach : SessionAttach) : Parse.Reads wireLimit read attach.body attach :=
  (uint_reads _).bind <| (text_reads _).bind <| reserved_reads.bind <| .pure attach

theorem exact : Exact encode validate decode maxFrameBytes :=
  decodeFrame_exact (fun attach _ => attach.body_reads) fun _ => rfl

/-- Whether a frame looks like an attach, without decoding it. -/
def recognizes (frame : Bytes) : Bool :=
  match Reader.array frame with
  | (.error _, _) => false
  | (.ok _, rest) => (Reader.uint rest).1 = .ok messageTypeAttach

end SessionAttach

inductive ApplicationFrameKind
  | request
  | response
  | cancel
  | error
  deriving DecidableEq

namespace ApplicationFrameKind

def wire : ApplicationFrameKind → UInt64
  | request => 0
  | response => 1
  | cancel => 2
  | error => 3

def fromWire (value : UInt64) : Except ProtocolError ApplicationFrameKind :=
  if value = 0 then .ok request
  else if value = 1 then .ok response
  else if value = 2 then .ok cancel
  else if value = 3 then .ok error
  else .error (.invalidApplicationKind value)

end ApplicationFrameKind

/-- The envelope of every operation that is not an authorization. -/
structure ApplicationFrame where
  protocolVersion : UInt64
  kind : ApplicationFrameKind
  requestId : String
  sessionBinding : Block sessionBindingLen
  operation : String
  issuedAtMs : Int64
  expiresAtMs : Int64
  payload : Bytes

/-- The namespaces an operation may be in. -/
def operationSpaces : List String := ["vault.", "locker.", "luks.", "ssh.", "permissions."]

def containsTwoDots : List Char → Bool
  | '.' :: '.' :: _ => true
  | _ :: rest => containsTwoDots rest
  | [] => false

def operationChar (c : Char) : Bool := ('a' ≤ c && c ≤ 'z') || ('0' ≤ c && c ≤ '9') || c = '.' || c = '-'

/-- Every namespace of the list ends the search, since no text starts with two of them. -/
def validOperation (value : String) : Bool :=
  match operationSpaces.find? fun space => space.toList.isPrefixOf value.toList with
  | none => false
  | some space =>
    let suffix := value.toList.drop space.length
    !suffix.isEmpty && decide ((utf8 value).length ≤ 64) && !containsTwoDots suffix && suffix.all operationChar

namespace ApplicationFrame

def applicationFrameLen : UInt64 := 9

def validate (frame : ApplicationFrame) : Except ProtocolError Unit := do
  checkVersion frame.protocolVersion
  checkText "requestId" frame.requestId 64
  require (validOperation frame.operation = true) ProtocolError.invalidOperation
  require (frame.payload.length ≤ maxApplicationPayloadBytes) (ProtocolError.payloadSize frame.payload.length)
  checkWindow frame.issuedAtMs frame.expiresAtMs

def isExpiredAt (frame : ApplicationFrame) (nowMs : Int64) : Bool := frame.expiresAtMs ≤ nowMs

/-- Every field that binds an answer to one pending request. -/
def isReplyTo (frame request : ApplicationFrame) (nowMs : Int64) : Bool :=
  request.kind = .request && (frame.kind = .response || frame.kind = .error) && frame.requestId = request.requestId &&
    frame.sessionBinding = request.sessionBinding && frame.operation = request.operation &&
    frame.issuedAtMs = request.issuedAtMs && frame.expiresAtMs = request.expiresAtMs && !frame.isExpiredAt nowMs

def body (frame : ApplicationFrame) : Bytes :=
  [Writer.uint frame.protocolVersion, Writer.uint frame.kind.wire, Writer.text frame.requestId,
    Writer.bytes frame.sessionBinding.val, Writer.text frame.operation, Writer.int frame.issuedAtMs,
    Writer.int frame.expiresAtMs, Writer.bytes frame.payload].flatten

def encode (frame : ApplicationFrame) : Bytes :=
  Writer.array applicationFrameLen ++ (Writer.uint messageTypeApplication ++ frame.body)

def read : Parse ProtocolError ApplicationFrame := do
  let protocolVersion ← cbor Reader.uint
  let kind ← ApplicationFrameKind.fromWire (← cbor Reader.uint)
  let requestId ← cbor Reader.text
  let sessionBinding ← fixedBytes sessionBindingLen "sessionBinding" (← cbor Reader.bytes)
  let operation ← cbor Reader.text
  let issuedAtMs ← cbor Reader.int
  let expiresAtMs ← cbor Reader.int
  let payload ← cbor Reader.bytes
  return { protocolVersion, kind, requestId, sessionBinding, operation, issuedAtMs, expiresAtMs, payload }

def decode : Bytes → Except ProtocolError ApplicationFrame :=
  decodeFrame applicationFrameLen messageTypeApplication read validate encode

theorem kind_wire (kind : ApplicationFrameKind) : ApplicationFrameKind.fromWire kind.wire = .ok kind := by
  cases kind <;> rfl

theorem body_reads (frame : ApplicationFrame) : Parse.Reads wireLimit read frame.body frame :=
  (uint_reads _).bind <| (uint_reads _).bind <| .lift (kind_wire frame.kind) <| (text_reads _).bind <|
    fixed_reads _ _ <| (text_reads _).bind <| (int_reads _).bind <| (int_reads _).bind <| (bytes_reads _).bind <|
      .pure frame

theorem exact : Exact encode validate decode maxFrameBytes :=
  decodeFrame_exact (fun frame _ => frame.body_reads) fun _ => rfl

end ApplicationFrame

/-- The coarse errors an application answers with. -/
inductive ApplicationErrorCode
  | rejected
  | invalidRequest
  | unavailable

namespace ApplicationErrorCode

def wire : ApplicationErrorCode → UInt64
  | rejected => 0
  | invalidRequest => 1
  | unavailable => 2

def fromWire (value : UInt64) : Except ProtocolError ApplicationErrorCode :=
  if value = 0 then .ok rejected
  else if value = 1 then .ok invalidRequest
  else if value = 2 then .ok unavailable
  else .error (.invalidApplicationError value)

def encode (code : ApplicationErrorCode) : Bytes :=
  Writer.array 2 ++ (Writer.uint protocolVersion ++ Writer.uint code.wire)

def read : Parse ProtocolError ApplicationErrorCode := do
  fromWire (← cbor Reader.uint)

/-- An error code is decoded whatever the length of its payload. -/
def decode (payload : Bytes) : Except ProtocolError ApplicationErrorCode := do
  let code ← (readRecord 2 protocolVersion .unsupportedVersion read payload).1
  require (payload = encode code) ProtocolError.notCanonical
  return code

end ApplicationErrorCode

end BioAuth.Protocol
