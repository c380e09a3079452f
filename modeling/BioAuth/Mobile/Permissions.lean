import BioAuth.Mobile.Layout
import BioAuth.Protocol.Permissions

namespace BioAuth.Mobile
open BioAuth
open BioAuth.Protocol (Permission)

def permissionsSchema : Int64 := 1

/-- The most grants one credential may carry. -/
def maxPermissions : Nat := 64

def maxPermissionsPayloadBytes : Nat := 64 * 1024

def permissionRefusals : PayloadRefusals where
  length := "invalid permission payload length"
  shape := "Estrutura de payload inesperada"
  schema := "unsupported permission schema version"
  canonical := "non-canonical payload"

/-- `_fits`. -/
def fits (value : String) : Bool := value ≠ "" && utf16Len value ≤ 255

/-- `isValid`: the four fields of a grant, none of them empty. -/
def isValid (permission : Permission) : Bool :=
  fits permission.service && fits permission.action && fits permission.resource && fits permission.user

/-- `toString`. -/
def shown (permission : Permission) : String :=
  permission.service ++ "/" ++ permission.action ++ "/" ++ permission.resource ++ "/" ++ permission.user

def writePermission (permission : Permission) : Bytes :=
  [CborWriter.array 4, CborWriter.text permission.service, CborWriter.text permission.action,
    CborWriter.text permission.resource, CborWriter.text permission.user].flatten

def readPermission : Fallible CborReader Thrown Permission := do
  require ((← CborReader.array) = 4) (formatException "unexpected permission structure")
  let service ← CborReader.text
  let action ← CborReader.text
  let resource ← CborReader.text
  let user ← CborReader.text
  return { service, action, resource, user }

/-- The count is checked before a list is made. -/
def readSet : Fallible CborReader Thrown (List Permission) := do
  let count ← CborReader.array
  require (count.toInt ≤ maxPermissions) (formatException "permission set too large")
  Fallible.times readPermission count.toInt.toNat

def checkSet (permissions : List Permission) : Except Refusal Unit := do
  require (permissions.length ≤ maxPermissions) (.formatException "permission set too large")
  permissions.forM fun permission =>
    require (isValid permission = true) (.formatException ("invalid permission: " ++ shown permission))

def permissionItems : List Item :=
  [.number majorArray (· = 4), .text fun _ => True, .text fun _ => True, .text fun _ => True, .text fun _ => True]

theorem readPermission_reading : Reading readPermission (permissionItems.map Entry.item) := by
  refine .checked (Item.number_readBy (by decide) _) fun _ _ => ?_
  exact .text fun service => .text fun action => .text fun resource => .text fun user => .pure _

theorem readSet_reading : Reading readSet [.counted maxPermissions permissionItems] := by
  have bound : maxPermissions < 2 ^ 63 := by decide
  rw [← Fallible.bind_pure readSet]
  simp only [readSet, Fallible.bind_assoc]
  exact .counted bound readPermission_reading Reading.pure

/-- Whose set stands. -/
inductive PermissionWinner
  | mine
  | theirs
  deriving DecidableEq

/-- The phone calls it with `true` about its own set. -/
def reconcile (mine theirs : Int64) (phoneWinsTies : Bool) : PermissionWinner :=
  if mine = 0 ∧ theirs = 0 then
    if phoneWinsTies then .theirs else .mine
  else if theirs < mine then .mine
  else if mine < theirs then .theirs
  else if phoneWinsTies then .mine
  else .theirs

/-- `permissions.sync`: the desktop offers what it believes and asks what stands. -/
structure PermissionSyncRequest where
  verifierName : String
  /-- Zero when never edited. -/
  revision : Int64
  permissions : List Permission

namespace PermissionSyncRequest

def encode (request : PermissionSyncRequest) : Except Refusal Bytes := do
  require (request.verifierName ≠ "" ∧ utf16Len request.verifierName ≤ 255) (.formatException "invalid verifierName")
  checkSet request.permissions
  require (0 ≤ request.revision) (.formatException "invalid revision")
  return [CborWriter.array 4, ← CborWriter.uint permissionsSchema, CborWriter.text request.verifierName,
    ← CborWriter.uint request.revision, CborWriter.array request.permissions.length].flatten ++
    request.permissions.flatMap writePermission

def readFields : Fallible CborReader Thrown PermissionSyncRequest := do
  let verifierName ← CborReader.text
  let revision ← CborReader.uint
  let permissions ← readSet
  return { verifierName, revision, permissions }

def decode : Uint8List → Except Thrown PermissionSyncRequest :=
  decodePayload maxPermissionsPayloadBytes permissionRefusals 4 permissionsSchema readFields encode

def layout : Layout :=
  [.item (.text fun _ => True), .item (.number majorUint fun _ => True), .counted maxPermissions permissionItems]

theorem readFields_reading : Reading readFields layout := by
  refine .text fun verifierName => .uint fun revision => ?_
  exact readSet_reading.bind fun permissions => .pure _

theorem declares : Declares decode maxPermissionsPayloadBytes (payloadLayout 4 permissionsSchema layout) :=
  decodePayload_declares readFields_reading

end PermissionSyncRequest

/-- The phone's answer: the set that stands, and the revision it stands at. -/
structure PermissionSyncResponse where
  revision : Int64
  permissions : List Permission

namespace PermissionSyncResponse

def encode (response : PermissionSyncResponse) : Except Refusal Bytes := do
  checkSet response.permissions
  require (0 ≤ response.revision) (.formatException "invalid revision")
  return [CborWriter.array 3, ← CborWriter.uint permissionsSchema, ← CborWriter.uint response.revision,
    CborWriter.array response.permissions.length].flatten ++ response.permissions.flatMap writePermission

def readFields : Fallible CborReader Thrown PermissionSyncResponse := do
  let revision ← CborReader.uint
  let permissions ← readSet
  return { revision, permissions }

def decode : Uint8List → Except Thrown PermissionSyncResponse :=
  decodePayload maxPermissionsPayloadBytes permissionRefusals 3 permissionsSchema readFields encode

def layout : Layout := [.item (.number majorUint fun _ => True), .counted maxPermissions permissionItems]

theorem readFields_reading : Reading readFields layout :=
  .uint fun _ => readSet_reading.bind fun _ => .pure _

theorem declares : Declares decode maxPermissionsPayloadBytes (payloadLayout 3 permissionsSchema layout) :=
  decodePayload_declares readFields_reading

end PermissionSyncResponse

end BioAuth.Mobile
