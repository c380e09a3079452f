import BioAuth.Protocol.Codec

namespace BioAuth.Protocol
open BioAuth

def permissionsSchema : UInt64 := 1

/-- The most grants one credential may carry. -/
def maxPermissions : Nat := 64

def maxFieldUnits : Nat := 255

/-- One grant: who may do what, to what, as whom. -/
structure Permission where
  service : String
  action : String
  resource : String
  user : String
  deriving DecidableEq

namespace Permission

def validate (permission : Permission) : Except ProtocolError Unit := do
  checkText "service" permission.service maxFieldUnits
  checkText "action" permission.action maxFieldUnits
  checkText "resource" permission.resource maxFieldUnits
  checkText "user" permission.user maxFieldUnits

def write (permission : Permission) : Bytes :=
  [Writer.array 4, Writer.text permission.service, Writer.text permission.action, Writer.text permission.resource,
    Writer.text permission.user].flatten

def read : Parse ProtocolError Permission := do
  let len ← cbor Reader.array
  require (len = 4) (ProtocolError.frameShape 4 len)
  let service ← cbor Reader.text
  let action ← cbor Reader.text
  let resource ← cbor Reader.text
  let user ← cbor Reader.text
  return { service, action, resource, user }

theorem write_reads (permission : Permission) : Parse.Reads wireLimit read permission.write permission :=
  (array_reads _).bind <| .require rfl <| (text_reads _).bind <| (text_reads _).bind <| (text_reads _).bind <|
    (text_reads _).bind <| .pure permission

end Permission

/-- Which side's set stands. -/
inductive Winner
  | mine
  | theirs
  deriving DecidableEq

/-- The rule of both sides: the higher revision wins, and the phone on a tie, except that a set neither side has
ever edited is the desktop's. -/
def reconcile (mine theirs : UInt64) (phoneWinsTies : Bool) : Winner :=
  if mine = 0 ∧ theirs = 0 then
    if phoneWinsTies then .theirs else .mine
  else if theirs < mine then .mine
  else if mine < theirs then .theirs
  else if phoneWinsTies then .mine
  else .theirs

def writeSet (permissions : List Permission) : Bytes :=
  Writer.array (UInt64.ofNat permissions.length) ++ permissions.flatMap Permission.write

def readSet : Parse ProtocolError (List Permission) := do
  let count ← cbor Reader.array
  require (count.toNat ≤ maxPermissions) (ProtocolError.payloadSize count.toNat)
  Fallible.times Permission.read count.toNat

def checkSet (permissions : List Permission) : Except ProtocolError Unit := do
  require (permissions.length ≤ maxPermissions) (ProtocolError.payloadSize permissions.length)
  permissions.forM Permission.validate

def checkSize (encoded : Nat) : Except ProtocolError Unit :=
  require (encoded ≤ maxApplicationPayloadBytes) (ProtocolError.payloadSize encoded)

theorem set_le {permissions : List Permission} (valid : checkSet permissions = .ok ()) :
    permissions.length ≤ maxPermissions := by
  unfold checkSet at valid
  obtain ⟨_, size, _⟩ := except_bind_eq_ok.mp valid
  exact except_require_eq_ok.mp size

theorem set_reads {permissions : List Permission} (size : permissions.length ≤ maxPermissions) :
    Parse.Reads wireLimit readSet (writeSet permissions) permissions := by
  have count : (UInt64.ofNat permissions.length).toNat = permissions.length := by
    rw [UInt64.toNat_ofNat']
    unfold maxPermissions at size
    omega
  refine (array_reads _).bind ?_
  rw [count]
  exact .require size <| Parse.Reads.times _ fun permission _ => permission.write_reads

def syncRequestFields : UInt64 := 4
def syncResponseFields : UInt64 := 3

/-- `permissions.sync`: the desktop offers what it believes and asks what stands. -/
structure SyncRequest where
  verifierName : String
  /-- Zero when never edited. -/
  revision : UInt64
  permissions : List Permission

namespace SyncRequest

def body (request : SyncRequest) : Bytes :=
  [Writer.text request.verifierName, Writer.uint request.revision, writeSet request.permissions].flatten

def encode (request : SyncRequest) : Bytes :=
  Writer.array syncRequestFields ++ (Writer.uint permissionsSchema ++ request.body)

def validate (request : SyncRequest) : Except ProtocolError Unit := do
  checkText "verifierName" request.verifierName 255
  checkSet request.permissions
  checkSize request.encode.length

def read : Parse ProtocolError SyncRequest := do
  let verifierName ← cbor Reader.text
  let revision ← cbor Reader.uint
  let permissions ← readSet
  return { verifierName, revision, permissions }

def decode : Bytes → Except ProtocolError SyncRequest :=
  decodePayload syncRequestFields permissionsSchema read encode validate

theorem permissions_le {request : SyncRequest} (valid : request.validate = .ok ()) :
    request.permissions.length ≤ maxPermissions := by
  unfold validate at valid
  obtain ⟨_, _, later⟩ := except_bind_eq_ok.mp valid
  obtain ⟨_, set, _⟩ := except_bind_eq_ok.mp later
  exact set_le set

theorem body_reads (request : SyncRequest) (size : request.permissions.length ≤ maxPermissions) :
    Parse.Reads wireLimit read request.body request :=
  (text_reads _).bind <| (uint_reads _).bind <| (set_reads size).bind <| .pure request

theorem exact : Exact encode validate decode maxApplicationPayloadBytes :=
  decodePayload_exact (fun request valid => request.body_reads (permissions_le valid)) fun _ => rfl

end SyncRequest

/-- The phone's answer: the set that stands, and the revision it stands at. -/
structure SyncResponse where
  revision : UInt64
  permissions : List Permission

namespace SyncResponse

def body (response : SyncResponse) : Bytes :=
  [Writer.uint response.revision, writeSet response.permissions].flatten

def encode (response : SyncResponse) : Bytes :=
  Writer.array syncResponseFields ++ (Writer.uint permissionsSchema ++ response.body)

def validate (response : SyncResponse) : Except ProtocolError Unit := do
  checkSet response.permissions
  checkSize response.encode.length

def read : Parse ProtocolError SyncResponse := do
  let revision ← cbor Reader.uint
  let permissions ← readSet
  return { revision, permissions }

def decode : Bytes → Except ProtocolError SyncResponse :=
  decodePayload syncResponseFields permissionsSchema read encode validate

theorem permissions_le {response : SyncResponse} (valid : response.validate = .ok ()) :
    response.permissions.length ≤ maxPermissions := by
  unfold validate at valid
  obtain ⟨_, set, _⟩ := except_bind_eq_ok.mp valid
  exact set_le set

theorem body_reads (response : SyncResponse) (size : response.permissions.length ≤ maxPermissions) :
    Parse.Reads wireLimit read response.body response :=
  (uint_reads _).bind <| (set_reads size).bind <| .pure response

theorem exact : Exact encode validate decode maxApplicationPayloadBytes :=
  decodePayload_exact (fun response valid => response.body_reads (permissions_le valid)) fun _ => rfl

end SyncResponse

end BioAuth.Protocol
