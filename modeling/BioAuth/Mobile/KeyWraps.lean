import BioAuth.Mobile.Vault

namespace BioAuth.Mobile
open BioAuth

def lockerSchema : Int64 := 1
def maxLockerPayloadBytes : Nat := 6 * 1024

def lockerRefusals : PayloadRefusals where
  length := "invalid locker payload length"
  shape := "Estrutura de payload inesperada"
  schema := "unsupported locker schema"
  canonical := "non-canonical locker payload"

def checkWrapper (wrapper : Bytes) (message : String) : Except Refusal Unit :=
  require (wrapper ≠ [] ∧ wrapper.length ≤ 512) (.formatException message)

def checkLength (value : Bytes) (message : String) : Except Refusal Unit :=
  require (value.length = 32) (.formatException message)

def checkPlaintextLength (length : Int64) : Except Refusal Unit :=
  require (0 ≤ length) (.formatException "invalid plaintextLength")

/-- `locker.create`: the desktop hands over a new key to be wrapped. -/
structure LockerWrapRequest where
  verifierName : String
  fileName : String
  plaintextLength : Int64
  containerBinding : Bytes
  dataKey : Bytes
  deriving DecidableEq

namespace LockerWrapRequest

def validate (request : LockerWrapRequest) : Except Refusal Unit := do
  checkName "verifierName" request.verifierName
  checkName "fileName" request.fileName
  checkLength request.containerBinding "invalid containerBinding"
  checkLength request.dataKey "invalid dataKey"
  checkPlaintextLength request.plaintextLength

def encode (request : LockerWrapRequest) : Except Refusal Bytes := do
  request.validate
  return [CborWriter.array 6, ← CborWriter.uint lockerSchema, CborWriter.text request.verifierName,
    CborWriter.text request.fileName, ← CborWriter.uint request.plaintextLength,
    CborWriter.bytes request.containerBinding, CborWriter.bytes request.dataKey].flatten

def readFields : Fallible CborReader Thrown LockerWrapRequest := do
  let verifierName ← CborReader.text
  let fileName ← CborReader.text
  let plaintextLength ← CborReader.uint
  let containerBinding ← CborReader.bytes
  let dataKey ← CborReader.bytes
  return { verifierName, fileName, plaintextLength, containerBinding, dataKey }

def decode : Uint8List → Except Thrown LockerWrapRequest :=
  decodePayload maxLockerPayloadBytes lockerRefusals 6 lockerSchema readFields encode

def layout : Layout :=
  [.item (.text fun _ => True), .item (.text fun _ => True), .item (.number majorUint fun _ => True), .item .bytes,
    .item .bytes]

theorem readFields_reading : Reading readFields layout := by
  refine .text fun verifierName => .text fun fileName => .uint fun plaintextLength => ?_
  exact .bytes fun containerBinding => .bytes fun dataKey => .pure _

theorem declares : Declares decode maxLockerPayloadBytes (payloadLayout 6 lockerSchema layout) :=
  decodePayload_declares readFields_reading

end LockerWrapRequest

/-- The phone's answer to `locker.create`. -/
structure LockerWrapResponse where
  credentialId : String
  wrapper : Bytes

namespace LockerWrapResponse

def validate (response : LockerWrapResponse) : Except Refusal Unit := do
  checkId "credentialId" response.credentialId
  checkWrapper response.wrapper "invalid wrapper"

def encode (response : LockerWrapResponse) : Except Refusal Bytes := do
  response.validate
  return [CborWriter.array 3, ← CborWriter.uint lockerSchema, CborWriter.text response.credentialId,
    CborWriter.bytes response.wrapper].flatten

def readFields : Fallible CborReader Thrown LockerWrapResponse := do
  let credentialId ← CborReader.text
  let wrapper ← CborReader.bytes
  return { credentialId, wrapper }

def decode : Uint8List → Except Thrown LockerWrapResponse :=
  decodePayload maxLockerPayloadBytes lockerRefusals 3 lockerSchema readFields encode

def layout : Layout :=
  [.item (.text fun _ => True), .item .bytes]

theorem readFields_reading : Reading readFields layout := by
  exact .text fun credentialId => .bytes fun wrapper => .pure _

theorem declares : Declares decode maxLockerPayloadBytes (payloadLayout 3 lockerSchema layout) :=
  decodePayload_declares readFields_reading

end LockerWrapResponse

/-- `locker.unlock` and `locker.rekey`: the desktop hands the wrapped key back. -/
structure LockerUnwrapRequest where
  verifierName : String
  fileName : String
  plaintextLength : Int64
  containerBinding : Bytes
  credentialId : String
  wrapper : Bytes

namespace LockerUnwrapRequest

def validate (request : LockerUnwrapRequest) : Except Refusal Unit := do
  checkName "verifierName" request.verifierName
  checkName "fileName" request.fileName
  checkId "credentialId" request.credentialId
  checkLength request.containerBinding "invalid containerBinding"
  checkWrapper request.wrapper "invalid wrapper"
  checkPlaintextLength request.plaintextLength

def encode (request : LockerUnwrapRequest) : Except Refusal Bytes := do
  request.validate
  return [CborWriter.array 7, ← CborWriter.uint lockerSchema, CborWriter.text request.verifierName,
    CborWriter.text request.fileName, ← CborWriter.uint request.plaintextLength,
    CborWriter.bytes request.containerBinding, CborWriter.text request.credentialId,
    CborWriter.bytes request.wrapper].flatten

def readFields : Fallible CborReader Thrown LockerUnwrapRequest := do
  let verifierName ← CborReader.text
  let fileName ← CborReader.text
  let plaintextLength ← CborReader.uint
  let containerBinding ← CborReader.bytes
  let credentialId ← CborReader.text
  let wrapper ← CborReader.bytes
  return { verifierName, fileName, plaintextLength, containerBinding, credentialId, wrapper }

def decode : Uint8List → Except Thrown LockerUnwrapRequest :=
  decodePayload maxLockerPayloadBytes lockerRefusals 7 lockerSchema readFields encode

def layout : Layout :=
  [.item (.text fun _ => True), .item (.text fun _ => True), .item (.number majorUint fun _ => True), .item .bytes,
    .item (.text fun _ => True), .item .bytes]

theorem readFields_reading : Reading readFields layout := by
  refine .text fun verifierName => .text fun fileName => .uint fun plaintextLength => ?_
  exact .bytes fun containerBinding => .text fun credentialId => .bytes fun wrapper => .pure _

theorem declares : Declares decode maxLockerPayloadBytes (payloadLayout 7 lockerSchema layout) :=
  decodePayload_declares readFields_reading

end LockerUnwrapRequest

/-- The phone's answer to `locker.unlock` and `locker.rekey`. -/
structure LockerUnwrapResponse where
  dataKey : Bytes

namespace LockerUnwrapResponse

def validate (response : LockerUnwrapResponse) : Except Refusal Unit := do
  checkLength response.dataKey "invalid dataKey"

def encode (response : LockerUnwrapResponse) : Except Refusal Bytes := do
  response.validate
  return [CborWriter.array 2, ← CborWriter.uint lockerSchema, CborWriter.bytes response.dataKey].flatten

def readFields : Fallible CborReader Thrown LockerUnwrapResponse := do
  let dataKey ← CborReader.bytes
  return { dataKey }

def decode : Uint8List → Except Thrown LockerUnwrapResponse :=
  decodePayload maxLockerPayloadBytes lockerRefusals 2 lockerSchema readFields encode

def layout : Layout :=
  [.item .bytes]

theorem readFields_reading : Reading readFields layout := by
  exact .bytes fun dataKey => .pure _

theorem declares : Declares decode maxLockerPayloadBytes (payloadLayout 2 lockerSchema layout) :=
  decodePayload_declares readFields_reading

end LockerUnwrapResponse

def luksSchema : Int64 := 1
def luksMaxPayloadBytes : Nat := 6 * 1024

def luksRefusals : PayloadRefusals where
  length := "invalid LUKS payload"
  shape := "Estrutura LUKS inesperada"
  schema := "unsupported LUKS schema"
  canonical := "non-canonical LUKS payload"

/-- `_names`. -/
def checkLuksNames (verifier volume : String) : Except Refusal Unit :=
  require (¬blankOrLong verifier 255 ∧ ¬blankOrLong volume 255) (.formatException "invalid LUKS name")

/-- `_id`. -/
def checkLuksCredential (value : String) : Except Refusal Unit :=
  require (¬blankOrLong value 64) (.formatException "invalid LUKS credential")

/-- `luks.enroll`: the desktop hands over a disk key to be wrapped. -/
structure LuksEnrollRequest where
  verifierName : String
  volumeName : String
  volumeBinding : Bytes
  diskKey : Bytes

namespace LuksEnrollRequest

def validate (request : LuksEnrollRequest) : Except Refusal Unit := do
  checkLuksNames request.verifierName request.volumeName
  checkLength request.volumeBinding "invalid LUKS binding"
  checkLength request.diskKey "invalid LUKS key"

def encode (request : LuksEnrollRequest) : Except Refusal Bytes := do
  request.validate
  return [CborWriter.array 5, ← CborWriter.uint luksSchema, CborWriter.text request.verifierName,
    CborWriter.text request.volumeName, CborWriter.bytes request.volumeBinding,
    CborWriter.bytes request.diskKey].flatten

def readFields : Fallible CborReader Thrown LuksEnrollRequest := do
  let verifierName ← CborReader.text
  let volumeName ← CborReader.text
  let volumeBinding ← CborReader.bytes
  let diskKey ← CborReader.bytes
  return { verifierName, volumeName, volumeBinding, diskKey }

def decode : Uint8List → Except Thrown LuksEnrollRequest :=
  decodePayload luksMaxPayloadBytes luksRefusals 5 luksSchema readFields encode

def layout : Layout :=
  [.item (.text fun _ => True), .item (.text fun _ => True), .item .bytes, .item .bytes]

theorem readFields_reading : Reading readFields layout := by
  refine .text fun verifierName => .text fun volumeName => .bytes fun volumeBinding => ?_
  exact .bytes fun diskKey => .pure _

theorem declares : Declares decode luksMaxPayloadBytes (payloadLayout 5 luksSchema layout) :=
  decodePayload_declares readFields_reading

end LuksEnrollRequest

/-- The phone's answer to `luks.enroll`. -/
structure LuksEnrollResponse where
  credentialId : String
  wrapper : Bytes

namespace LuksEnrollResponse

def validate (response : LuksEnrollResponse) : Except Refusal Unit := do
  checkLuksCredential response.credentialId
  checkWrapper response.wrapper "invalid LUKS wrapper"

def encode (response : LuksEnrollResponse) : Except Refusal Bytes := do
  response.validate
  return [CborWriter.array 3, ← CborWriter.uint luksSchema, CborWriter.text response.credentialId,
    CborWriter.bytes response.wrapper].flatten

def readFields : Fallible CborReader Thrown LuksEnrollResponse := do
  let credentialId ← CborReader.text
  let wrapper ← CborReader.bytes
  return { credentialId, wrapper }

def decode : Uint8List → Except Thrown LuksEnrollResponse :=
  decodePayload luksMaxPayloadBytes luksRefusals 3 luksSchema readFields encode

def layout : Layout :=
  [.item (.text fun _ => True), .item .bytes]

theorem readFields_reading : Reading readFields layout := by
  exact .text fun credentialId => .bytes fun wrapper => .pure _

theorem declares : Declares decode luksMaxPayloadBytes (payloadLayout 3 luksSchema layout) :=
  decodePayload_declares readFields_reading

end LuksEnrollResponse

/-- `luks.unlock`: the desktop hands the wrapped key back. -/
structure LuksUnlockRequest where
  verifierName : String
  volumeName : String
  volumeBinding : Bytes
  credentialId : String
  wrapper : Bytes
  deriving DecidableEq

namespace LuksUnlockRequest

def validate (request : LuksUnlockRequest) : Except Refusal Unit := do
  checkLuksNames request.verifierName request.volumeName
  checkLength request.volumeBinding "invalid LUKS binding"
  checkLuksCredential request.credentialId
  checkWrapper request.wrapper "invalid LUKS wrapper"

def encode (request : LuksUnlockRequest) : Except Refusal Bytes := do
  request.validate
  return [CborWriter.array 6, ← CborWriter.uint luksSchema, CborWriter.text request.verifierName,
    CborWriter.text request.volumeName, CborWriter.bytes request.volumeBinding, CborWriter.text request.credentialId,
    CborWriter.bytes request.wrapper].flatten

def readFields : Fallible CborReader Thrown LuksUnlockRequest := do
  let verifierName ← CborReader.text
  let volumeName ← CborReader.text
  let volumeBinding ← CborReader.bytes
  let credentialId ← CborReader.text
  let wrapper ← CborReader.bytes
  return { verifierName, volumeName, volumeBinding, credentialId, wrapper }

def decode : Uint8List → Except Thrown LuksUnlockRequest :=
  decodePayload luksMaxPayloadBytes luksRefusals 6 luksSchema readFields encode

def layout : Layout :=
  [.item (.text fun _ => True), .item (.text fun _ => True), .item .bytes, .item (.text fun _ => True),
    .item .bytes]

theorem readFields_reading : Reading readFields layout := by
  refine .text fun verifierName => .text fun volumeName => .bytes fun volumeBinding => ?_
  exact .text fun credentialId => .bytes fun wrapper => .pure _

theorem declares : Declares decode luksMaxPayloadBytes (payloadLayout 6 luksSchema layout) :=
  decodePayload_declares readFields_reading

end LuksUnlockRequest

/-- The phone's answer to `luks.unlock`. -/
structure LuksUnlockResponse where
  diskKey : Bytes

namespace LuksUnlockResponse

def validate (response : LuksUnlockResponse) : Except Refusal Unit := do
  checkLength response.diskKey "invalid LUKS key"

def encode (response : LuksUnlockResponse) : Except Refusal Bytes := do
  response.validate
  return [CborWriter.array 2, ← CborWriter.uint luksSchema, CborWriter.bytes response.diskKey].flatten

def readFields : Fallible CborReader Thrown LuksUnlockResponse := do
  let diskKey ← CborReader.bytes
  return { diskKey }

def decode : Uint8List → Except Thrown LuksUnlockResponse :=
  decodePayload luksMaxPayloadBytes luksRefusals 2 luksSchema readFields encode

def layout : Layout :=
  [.item .bytes]

theorem readFields_reading : Reading readFields layout := by
  exact .bytes fun diskKey => .pure _

theorem declares : Declares decode luksMaxPayloadBytes (payloadLayout 2 luksSchema layout) :=
  decodePayload_declares readFields_reading

end LuksUnlockResponse

def sshSchema : Int64 := 1
def sshSignatureLength : Nat := 64
def maxSshSignDataBytes : Nat := 2048

def sshRefusals : PayloadRefusals where
  length := "invalid ssh payload length"
  shape := "Estrutura de payload inesperada"
  schema := "unsupported ssh schema version"
  canonical := "non-canonical payload"

/-- `ssh.sign`: the desktop asks for a signature over bytes it chose. -/
structure SshSignRequest where
  verifierName : String
  /-- Where the desktop says the connection is going. -/
  destination : String
  data : Bytes
  deriving DecidableEq

namespace SshSignRequest

def encode (request : SshSignRequest) : Except Refusal Bytes := do
  require (request.verifierName ≠ "" ∧ utf16Len request.verifierName ≤ 64) (.formatException "invalid verifierName")
  require (utf16Len request.destination ≤ 128) (.formatException "invalid destination")
  require (request.data ≠ [] ∧ request.data.length ≤ maxSshSignDataBytes) (.formatException "invalid data")
  return [CborWriter.array 4, ← CborWriter.uint sshSchema, CborWriter.text request.verifierName,
    CborWriter.text request.destination, CborWriter.bytes request.data].flatten

def readFields : Fallible CborReader Thrown SshSignRequest := do
  let verifierName ← CborReader.text
  let destination ← CborReader.text
  let data ← CborReader.bytes
  return { verifierName, destination, data }

def decode : Uint8List → Except Thrown SshSignRequest :=
  decodePayload (maxSshSignDataBytes * 2) sshRefusals 4 sshSchema readFields encode

def layout : Layout := [.item (.text fun _ => True), .item (.text fun _ => True), .item .bytes]

theorem readFields_reading : Reading readFields layout :=
  .text fun _ => .text fun _ => .bytes fun _ => .pure _

theorem declares : Declares decode (maxSshSignDataBytes * 2) (payloadLayout 4 sshSchema layout) :=
  decodePayload_declares readFields_reading

end SshSignRequest

/-- The phone's answer to `ssh.sign`. -/
structure SshSignResponse where
  signature : Bytes

namespace SshSignResponse

def encode (response : SshSignResponse) : Except Refusal Bytes := do
  require (response.signature.length = sshSignatureLength) (.formatException "invalid signature length")
  return [CborWriter.array 2, ← CborWriter.uint sshSchema, CborWriter.bytes response.signature].flatten

/-- The one payload that is not compared with its encoding. -/
def read : Fallible CborReader Thrown SshSignResponse := do
  require ((← CborReader.array) = 2) (formatException sshRefusals.shape)
  require ((← CborReader.uint) = sshSchema) (formatException sshRefusals.schema)
  let signature ← CborReader.bytes
  CborReader.finish
  require (signature.length = sshSignatureLength) (formatException "invalid signature length")
  return { signature }

def decode : Uint8List → Except Thrown SshSignResponse :=
  decodeWith (maxSshSignDataBytes * 2) sshRefusals.length read

def layout : Layout := [.item .bytes]

theorem declares : Declares decode (maxSshSignDataBytes * 2) (payloadLayout 2 sshSchema layout) := by
  refine decodeWith_declares fun _ => .checked (Item.number_readBy (by decide) _) fun _ _ => ?_
  refine .checked (Item.number_readBy (by decide) _) fun _ _ => ?_
  refine .item Item.bytes_readBy (fun signature _ => .done ?_) fun _ rejected => absurd trivial rejected
  exact Safe.finish.bind fun _ => (Safe.require _ _).bind fun _ => .pure _

end SshSignResponse

end BioAuth.Mobile
