import BioAuth.Protocol.Codec

namespace BioAuth.Protocol
open BioAuth

/-- The longest wrapped key a phone may return, and a desktop may hand back. -/
def maxWrapperBytes : Nat := 512

def checkWrapper (wrapper : Bytes) : Except ProtocolError Unit :=
  require (wrapper ≠ [] ∧ wrapper.length ≤ maxWrapperBytes) (ProtocolError.payloadSize wrapper.length)

/-- A key of exactly the length its kind has. -/
def checkKey (field : String) (length : Nat) (key : Bytes) : Except ProtocolError Unit :=
  require (key.length = length) (ProtocolError.fieldLength field length key.length)

def wrapMaxNameUnits : Nat := 255
def wrapMaxIdUnits : Nat := 64

namespace LockerPayload

def lockerSchema : UInt64 := 1
def dataKeyLen : Nat := 32

def wrapRequestFields : UInt64 := 6
def wrapResponseFields : UInt64 := 3
def unwrapRequestFields : UInt64 := 7
def unwrapResponseFields : UInt64 := 2

/-- `locker.create`: the desktop hands over a fresh data key to be wrapped. -/
structure WrapRequest where
  verifierName : String
  fileName : String
  plaintextLen : UInt64
  containerBinding : Block sessionBindingLen
  dataKey : Bytes
  deriving DecidableEq

namespace WrapRequest

def validate (request : WrapRequest) : Except ProtocolError Unit := do
  checkText "verifierName" request.verifierName wrapMaxNameUnits
  checkText "fileName" request.fileName wrapMaxNameUnits
  checkKey "dataKey" dataKeyLen request.dataKey

def body (request : WrapRequest) : Bytes :=
  [Writer.text request.verifierName, Writer.text request.fileName, Writer.uint request.plaintextLen,
    Writer.bytes request.containerBinding.val, Writer.bytes request.dataKey].flatten

def encode (request : WrapRequest) : Bytes :=
  Writer.array wrapRequestFields ++ (Writer.uint lockerSchema ++ request.body)

def read : Parse ProtocolError WrapRequest := do
  let verifierName ← cbor Reader.text
  let fileName ← cbor Reader.text
  let plaintextLen ← cbor Reader.uint
  let containerBinding ← fixedBytes sessionBindingLen "containerBinding" (← cbor Reader.bytes)
  let dataKey ← cbor Reader.bytes
  return { verifierName, fileName, plaintextLen, containerBinding, dataKey }

def decode : Bytes → Except ProtocolError WrapRequest :=
  decodePayload wrapRequestFields lockerSchema read encode validate

theorem body_reads (request : WrapRequest) : Parse.Reads wireLimit read request.body request :=
  (text_reads _).bind <| (text_reads _).bind <| (uint_reads _).bind <| fixed_reads _ _ <| (bytes_reads _).bind <|
    .pure request

theorem exact : Exact encode validate decode maxApplicationPayloadBytes :=
  decodePayload_exact (fun request _ => request.body_reads) fun _ => rfl

end WrapRequest

/-- The phone's answer to `locker.create`. -/
structure WrapResponse where
  credentialId : String
  wrapper : Bytes

namespace WrapResponse

def validate (response : WrapResponse) : Except ProtocolError Unit := do
  checkText "credentialId" response.credentialId wrapMaxIdUnits
  checkWrapper response.wrapper

def body (response : WrapResponse) : Bytes :=
  [Writer.text response.credentialId, Writer.bytes response.wrapper].flatten

def encode (response : WrapResponse) : Bytes :=
  Writer.array wrapResponseFields ++ (Writer.uint lockerSchema ++ response.body)

def read : Parse ProtocolError WrapResponse := do
  let credentialId ← cbor Reader.text
  let wrapper ← cbor Reader.bytes
  return { credentialId, wrapper }

def decode : Bytes → Except ProtocolError WrapResponse :=
  decodePayload wrapResponseFields lockerSchema read encode validate

theorem body_reads (response : WrapResponse) : Parse.Reads wireLimit read response.body response :=
  (text_reads _).bind <| (bytes_reads _).bind <| .pure response

theorem exact : Exact encode validate decode maxApplicationPayloadBytes :=
  decodePayload_exact (fun response _ => response.body_reads) fun _ => rfl

end WrapResponse

/-- `locker.unlock` and `locker.rekey`: the desktop hands back a wrapped key. -/
structure UnwrapRequest where
  verifierName : String
  fileName : String
  plaintextLen : UInt64
  containerBinding : Block sessionBindingLen
  credentialId : String
  wrapper : Bytes

namespace UnwrapRequest

def validate (request : UnwrapRequest) : Except ProtocolError Unit := do
  checkText "verifierName" request.verifierName wrapMaxNameUnits
  checkText "fileName" request.fileName wrapMaxNameUnits
  checkText "credentialId" request.credentialId wrapMaxIdUnits
  checkWrapper request.wrapper

def body (request : UnwrapRequest) : Bytes :=
  [Writer.text request.verifierName, Writer.text request.fileName, Writer.uint request.plaintextLen,
    Writer.bytes request.containerBinding.val, Writer.text request.credentialId, Writer.bytes request.wrapper].flatten

def encode (request : UnwrapRequest) : Bytes :=
  Writer.array unwrapRequestFields ++ (Writer.uint lockerSchema ++ request.body)

def read : Parse ProtocolError UnwrapRequest := do
  let verifierName ← cbor Reader.text
  let fileName ← cbor Reader.text
  let plaintextLen ← cbor Reader.uint
  let containerBinding ← fixedBytes sessionBindingLen "containerBinding" (← cbor Reader.bytes)
  let credentialId ← cbor Reader.text
  let wrapper ← cbor Reader.bytes
  return { verifierName, fileName, plaintextLen, containerBinding, credentialId, wrapper }

def decode : Bytes → Except ProtocolError UnwrapRequest :=
  decodePayload unwrapRequestFields lockerSchema read encode validate

theorem body_reads (request : UnwrapRequest) : Parse.Reads wireLimit read request.body request :=
  (text_reads _).bind <| (text_reads _).bind <| (uint_reads _).bind <| fixed_reads _ _ <| (text_reads _).bind <|
    (bytes_reads _).bind <| .pure request

theorem exact : Exact encode validate decode maxApplicationPayloadBytes :=
  decodePayload_exact (fun request _ => request.body_reads) fun _ => rfl

end UnwrapRequest

/-- The phone's answer to `locker.unlock` or `locker.rekey`. -/
structure UnwrapResponse where
  dataKey : Bytes

namespace UnwrapResponse

def validate (response : UnwrapResponse) : Except ProtocolError Unit := checkKey "dataKey" dataKeyLen response.dataKey

def body (response : UnwrapResponse) : Bytes := [Writer.bytes response.dataKey].flatten

def encode (response : UnwrapResponse) : Bytes :=
  Writer.array unwrapResponseFields ++ (Writer.uint lockerSchema ++ response.body)

def read : Parse ProtocolError UnwrapResponse := do
  let dataKey ← cbor Reader.bytes
  return { dataKey }

def decode : Bytes → Except ProtocolError UnwrapResponse :=
  decodePayload unwrapResponseFields lockerSchema read encode validate

theorem body_reads (response : UnwrapResponse) : Parse.Reads wireLimit read response.body response :=
  (bytes_reads _).bind <| .pure response

theorem exact : Exact encode validate decode maxApplicationPayloadBytes :=
  decodePayload_exact (fun response _ => response.body_reads) fun _ => rfl

end UnwrapResponse

end LockerPayload

namespace LuksPayload

def luksSchema : UInt64 := 1
def diskKeyLen : Nat := 32
def volumeBindingLen : Nat := 32

def enrollRequestFields : UInt64 := 5
def enrollResponseFields : UInt64 := 3
def unlockRequestFields : UInt64 := 6
def unlockResponseFields : UInt64 := 2
def wrappedKeyFields : UInt64 := 4

def checkNames (verifier volume : String) : Except ProtocolError Unit := do
  checkText "verifierName" verifier wrapMaxNameUnits
  checkText "volumeName" volume wrapMaxNameUnits

structure EnrollRequest where
  verifierName : String
  volumeName : String
  volumeBinding : Block volumeBindingLen
  diskKey : Bytes

namespace EnrollRequest

def validate (request : EnrollRequest) : Except ProtocolError Unit := do
  checkNames request.verifierName request.volumeName
  checkKey "diskKey" diskKeyLen request.diskKey

def body (request : EnrollRequest) : Bytes :=
  [Writer.text request.verifierName, Writer.text request.volumeName, Writer.bytes request.volumeBinding.val,
    Writer.bytes request.diskKey].flatten

def encode (request : EnrollRequest) : Bytes :=
  Writer.array enrollRequestFields ++ (Writer.uint luksSchema ++ request.body)

def read : Parse ProtocolError EnrollRequest := do
  let verifierName ← cbor Reader.text
  let volumeName ← cbor Reader.text
  let volumeBinding ← fixedBytes volumeBindingLen "volumeBinding" (← cbor Reader.bytes)
  let diskKey ← cbor Reader.bytes
  return { verifierName, volumeName, volumeBinding, diskKey }

def decode : Bytes → Except ProtocolError EnrollRequest :=
  decodePayload enrollRequestFields luksSchema read encode validate

theorem body_reads (request : EnrollRequest) : Parse.Reads wireLimit read request.body request :=
  (text_reads _).bind <| (text_reads _).bind <| fixed_reads _ _ <| (bytes_reads _).bind <| .pure request

theorem exact : Exact encode validate decode maxApplicationPayloadBytes :=
  decodePayload_exact (fun request _ => request.body_reads) fun _ => rfl

end EnrollRequest

structure EnrollResponse where
  credentialId : String
  wrapper : Bytes

namespace EnrollResponse

def validate (response : EnrollResponse) : Except ProtocolError Unit := do
  checkText "credentialId" response.credentialId wrapMaxIdUnits
  checkWrapper response.wrapper

def body (response : EnrollResponse) : Bytes :=
  [Writer.text response.credentialId, Writer.bytes response.wrapper].flatten

def encode (response : EnrollResponse) : Bytes :=
  Writer.array enrollResponseFields ++ (Writer.uint luksSchema ++ response.body)

def read : Parse ProtocolError EnrollResponse := do
  let credentialId ← cbor Reader.text
  let wrapper ← cbor Reader.bytes
  return { credentialId, wrapper }

def decode : Bytes → Except ProtocolError EnrollResponse :=
  decodePayload enrollResponseFields luksSchema read encode validate

theorem body_reads (response : EnrollResponse) : Parse.Reads wireLimit read response.body response :=
  (text_reads _).bind <| (bytes_reads _).bind <| .pure response

theorem exact : Exact encode validate decode maxApplicationPayloadBytes :=
  decodePayload_exact (fun response _ => response.body_reads) fun _ => rfl

end EnrollResponse

structure UnlockRequest where
  verifierName : String
  volumeName : String
  volumeBinding : Block volumeBindingLen
  credentialId : String
  wrapper : Bytes

namespace UnlockRequest

def validate (request : UnlockRequest) : Except ProtocolError Unit := do
  checkNames request.verifierName request.volumeName
  checkText "credentialId" request.credentialId wrapMaxIdUnits
  checkWrapper request.wrapper

def body (request : UnlockRequest) : Bytes :=
  [Writer.text request.verifierName, Writer.text request.volumeName, Writer.bytes request.volumeBinding.val,
    Writer.text request.credentialId, Writer.bytes request.wrapper].flatten

def encode (request : UnlockRequest) : Bytes :=
  Writer.array unlockRequestFields ++ (Writer.uint luksSchema ++ request.body)

def read : Parse ProtocolError UnlockRequest := do
  let verifierName ← cbor Reader.text
  let volumeName ← cbor Reader.text
  let volumeBinding ← fixedBytes volumeBindingLen "volumeBinding" (← cbor Reader.bytes)
  let credentialId ← cbor Reader.text
  let wrapper ← cbor Reader.bytes
  return { verifierName, volumeName, volumeBinding, credentialId, wrapper }

def decode : Bytes → Except ProtocolError UnlockRequest :=
  decodePayload unlockRequestFields luksSchema read encode validate

theorem body_reads (request : UnlockRequest) : Parse.Reads wireLimit read request.body request :=
  (text_reads _).bind <| (text_reads _).bind <| fixed_reads _ _ <| (text_reads _).bind <| (bytes_reads _).bind <|
    .pure request

theorem exact : Exact encode validate decode maxApplicationPayloadBytes :=
  decodePayload_exact (fun request _ => request.body_reads) fun _ => rfl

end UnlockRequest

structure UnlockResponse where
  diskKey : Bytes

namespace UnlockResponse

def validate (response : UnlockResponse) : Except ProtocolError Unit := checkKey "diskKey" diskKeyLen response.diskKey

def body (response : UnlockResponse) : Bytes := [Writer.bytes response.diskKey].flatten

def encode (response : UnlockResponse) : Bytes :=
  Writer.array unlockResponseFields ++ (Writer.uint luksSchema ++ response.body)

def read : Parse ProtocolError UnlockResponse := do
  let diskKey ← cbor Reader.bytes
  return { diskKey }

def decode : Bytes → Except ProtocolError UnlockResponse :=
  decodePayload unlockResponseFields luksSchema read encode validate

theorem body_reads (response : UnlockResponse) : Parse.Reads wireLimit read response.body response :=
  (bytes_reads _).bind <| .pure response

theorem exact : Exact encode validate decode maxApplicationPayloadBytes :=
  decodePayload_exact (fun response _ => response.body_reads) fun _ => rfl

end UnlockResponse

/-- What the initrd keeps of an enrolled volume. -/
structure WrappedVolumeKey where
  volumeBinding : Block volumeBindingLen
  credentialId : String
  wrapper : Bytes

namespace WrappedVolumeKey

def validate (key : WrappedVolumeKey) : Except ProtocolError Unit := do
  checkText "credentialId" key.credentialId wrapMaxIdUnits
  checkWrapper key.wrapper

def body (key : WrappedVolumeKey) : Bytes :=
  [Writer.bytes key.volumeBinding.val, Writer.text key.credentialId, Writer.bytes key.wrapper].flatten

def encode (key : WrappedVolumeKey) : Bytes :=
  Writer.array wrappedKeyFields ++ (Writer.uint luksSchema ++ key.body)

def read : Parse ProtocolError WrappedVolumeKey := do
  let volumeBinding ← fixedBytes volumeBindingLen "volumeBinding" (← cbor Reader.bytes)
  let credentialId ← cbor Reader.text
  let wrapper ← cbor Reader.bytes
  return { volumeBinding, credentialId, wrapper }

def decode : Bytes → Except ProtocolError WrappedVolumeKey :=
  decodePayload wrappedKeyFields luksSchema read encode validate

theorem body_reads (key : WrappedVolumeKey) : Parse.Reads wireLimit read key.body key :=
  fixed_reads _ _ <| (text_reads _).bind <| (bytes_reads _).bind <| .pure key

theorem exact : Exact encode validate decode maxApplicationPayloadBytes :=
  decodePayload_exact (fun key _ => key.body_reads) fun _ => rfl

end WrappedVolumeKey

end LuksPayload

namespace SshPayload

def sshSchema : UInt64 := 1
def signRequestFields : UInt64 := 4
def signResponseFields : UInt64 := 2

/-- Two scalars of 32 octets. -/
def signatureLen : Nat := 64

def maxSignDataBytes : Nat := 2048

/-- This module counts characters where the others count UTF-16 units, and accepts a blank name. -/
def checkName (value : String) : Except ProtocolError Unit := do
  require (value ≠ "") (ProtocolError.fieldEmpty "verifierName")
  require (value.toList.length ≤ 64) (ProtocolError.fieldTooLong "verifierName" 64 value.toList.length)

/-- `ssh.sign`: the phone signs one authentication request. -/
structure SignRequest where
  verifierName : String
  /-- What the computer says the destination is, or empty. -/
  destination : String
  data : Bytes

namespace SignRequest

def validate (request : SignRequest) : Except ProtocolError Unit := do
  checkName request.verifierName
  require ((utf8 request.destination).length ≤ 128)
    (ProtocolError.fieldTooLong "destination" 128 (utf8 request.destination).length)
  require (request.data ≠ [] ∧ request.data.length ≤ maxSignDataBytes) (ProtocolError.payloadSize request.data.length)

def body (request : SignRequest) : Bytes :=
  [Writer.text request.verifierName, Writer.text request.destination, Writer.bytes request.data].flatten

def encode (request : SignRequest) : Bytes :=
  Writer.array signRequestFields ++ (Writer.uint sshSchema ++ request.body)

def read : Parse ProtocolError SignRequest := do
  let verifierName ← cbor Reader.text
  let destination ← cbor Reader.text
  let data ← cbor Reader.bytes
  return { verifierName, destination, data }

def decode : Bytes → Except ProtocolError SignRequest :=
  decodePayload signRequestFields sshSchema read encode validate

theorem body_reads (request : SignRequest) : Parse.Reads wireLimit read request.body request :=
  (text_reads _).bind <| (text_reads _).bind <| (bytes_reads _).bind <| .pure request

theorem exact : Exact encode validate decode maxApplicationPayloadBytes :=
  decodePayload_exact (fun request _ => request.body_reads) fun _ => rfl

end SignRequest

structure SignResponse where
  signature : Bytes

namespace SignResponse

def validate (response : SignResponse) : Except ProtocolError Unit :=
  checkKey "signature" signatureLen response.signature

def body (response : SignResponse) : Bytes := [Writer.bytes response.signature].flatten

def encode (response : SignResponse) : Bytes :=
  Writer.array signResponseFields ++ (Writer.uint sshSchema ++ response.body)

def read : Parse ProtocolError SignResponse := do
  let signature ← cbor Reader.bytes
  return { signature }

def decode : Bytes → Except ProtocolError SignResponse :=
  decodePayload signResponseFields sshSchema read encode validate

theorem body_reads (response : SignResponse) : Parse.Reads wireLimit read response.body response :=
  (bytes_reads _).bind <| .pure response

theorem exact : Exact encode validate decode maxApplicationPayloadBytes :=
  decodePayload_exact (fun response _ => response.body_reads) fun _ => rfl

end SignResponse

end SshPayload

end BioAuth.Protocol
