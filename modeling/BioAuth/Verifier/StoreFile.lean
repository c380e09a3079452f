import BioAuth.Lib.Json
import BioAuth.Protocol.Encoding
import BioAuth.Protocol.Permissions

namespace BioAuth.Verifier
open BioAuth
open BioAuth.Protocol (Permission toBase64url fromBase64url fromBase64url_toBase64url)

/-- Where a credential's private key lives on the phone, as the phone reports it. -/
inductive KeyKind
  | strongBox
  | hardware
  | software
  deriving DecidableEq

namespace KeyKind

/-- A boot-time key cannot be remediated by revoking a pairing, so a software key is never one. -/
def allowedAtBoot : KeyKind → Bool
  | .strongBox | .hardware => true
  | .software => false

def serialize : KeyKind → Json
  | .strongBox => .string "strong-box"
  | .hardware => .string "hardware"
  | .software => .string "software"

def deserialize (json : Json) : Except JsonError KeyKind := do
  match ← json.text with
  | "strong-box" => return .strongBox
  | "hardware" => return .hardware
  | "software" => return .software
  | name => throw (.unknownVariant name)

theorem deserialize_serialize (kind : KeyKind) : deserialize kind.serialize = .ok kind := by
  cases kind <;> rfl

end KeyKind

/-- What a credential is allowed to be used for. -/
inductive CredentialPurpose
  | authorization
  | diskUnlock
  | webAuthn
  | vault
  | fileLocker
  | ssh
  deriving DecidableEq

namespace CredentialPurpose

/-- The purpose reserved for a protocol service. -/
def forService (service : String) : CredentialPurpose :=
  match service with
  | "luks" => .diskUnlock
  | "webauthn" => .webAuthn
  | "vault" => .vault
  | "locker" => .fileLocker
  | "ssh" => .ssh
  | _ => .authorization

def serialize : CredentialPurpose → Json
  | .authorization => .string "authorization"
  | .diskUnlock => .string "disk-unlock"
  | .webAuthn => .string "web-authn"
  | .vault => .string "vault"
  | .fileLocker => .string "file-locker"
  | .ssh => .string "ssh"

def deserialize (json : Json) : Except JsonError CredentialPurpose := do
  match ← json.text with
  | "authorization" => return .authorization
  | "disk-unlock" => return .diskUnlock
  | "web-authn" => return .webAuthn
  | "vault" => return .vault
  | "file-locker" => return .fileLocker
  | "ssh" => return .ssh
  | name => throw (.unknownVariant name)

theorem deserialize_serialize (purpose : CredentialPurpose) : deserialize purpose.serialize = .ok purpose := by
  cases purpose <;> rfl

end CredentialPurpose

/-- Matches any value for a field. -/
def wildcard : String := "*"

namespace Permission

def serialize (permission : Permission) : Json :=
  .object [("service", .string permission.service), ("action", .string permission.action),
    ("resource", .string permission.resource), ("user", .string permission.user)]

def deserialize (json : Json) : Except JsonError Permission := do
  let members ← json.members
  let service ← Json.field "service" none Json.text members
  let action ← Json.field "action" (some wildcard) Json.text members
  let resource ← Json.field "resource" (some wildcard) Json.text members
  let user ← Json.field "user" (some wildcard) Json.text members
  return { service, action, resource, user }

theorem deserialize_serialize (permission : Permission) : deserialize (serialize permission) = .ok permission := rfl

end Permission

/-- One public credential belonging to a paired device. -/
structure PairedCredential where
  credentialId : String
  algorithm : String
  publicKey : Bytes
  keyKind : KeyKind
  purpose : CredentialPurpose
  /-- Empty means it may authorize nothing. -/
  permissions : List Permission
  /-- Which edit of the permissions this is. -/
  permissionsRevision : UInt64
  deriving DecidableEq

/-- A phone this verifier trusts, and the credentials it may present. -/
structure PairedDevice where
  deviceId : String
  displayName : String
  pairedAtMs : Int64
  sessionIdentityPublicKey : Bytes
  credentials : List PairedCredential
  deriving DecidableEq

def PairedDevice.credential (device : PairedDevice) (credentialId : String) : Option PairedCredential :=
  device.credentials.find? fun credential => credential.credentialId = credentialId

/-- Keys are kept readable. -/
def base64urlBytes (json : Json) : Except JsonError Bytes := do
  let text ← json.text
  match fromBase64url text with
  | .ok bytes => return bytes
  | .error error => throw (.custom error.message)

theorem base64urlBytes_toBase64url (bytes : Bytes) : base64urlBytes (.string (toBase64url bytes)) = .ok bytes := by
  have text : (Json.string (toBase64url bytes)).text = .ok (toBase64url bytes) := rfl
  rw [base64urlBytes, text]
  simp only [except_bind_eq_ok]
  exact ⟨_, rfl, by rw [fromBase64url_toBase64url]; rfl⟩

namespace PairedCredential

def serialize (credential : PairedCredential) : Json :=
  .object [("credentialId", .string credential.credentialId), ("algorithm", .string credential.algorithm),
    ("publicKey", .string (toBase64url credential.publicKey)), ("keyKind", credential.keyKind.serialize),
    ("purpose", credential.purpose.serialize), ("permissions", .array (credential.permissions.map Permission.serialize)),
    ("permissionsRevision", .number credential.permissionsRevision.toNat)]

def deserialize (json : Json) : Except JsonError PairedCredential := do
  let members ← json.members
  let credentialId ← Json.field "credentialId" none Json.text members
  let algorithm ← Json.field "algorithm" none Json.text members
  let publicKey ← Json.field "publicKey" none base64urlBytes members
  let keyKind ← Json.field "keyKind" none KeyKind.deserialize members
  let purpose ← Json.field "purpose" none CredentialPurpose.deserialize members
  let permissions ← Json.field "permissions" (some []) (Json.items Permission.deserialize) members
  let permissionsRevision ← Json.field "permissionsRevision" (some 0) (Json.integer 0 (2 ^ 64)) members
  return { credentialId, algorithm, publicKey, keyKind, purpose, permissions,
           permissionsRevision := UInt64.ofNat permissionsRevision.toNat }

theorem deserialize_serialize (credential : PairedCredential) : deserialize credential.serialize = .ok credential := by
  have bound := credential.permissionsRevision.toNat_lt
  have revision : Json.integer 0 (2 ^ 64) (.number credential.permissionsRevision.toNat) =
      .ok (credential.permissionsRevision.toNat : Int) := Json.integer_number (by omega)
  have permissions := Json.items_array Permission.serialize credential.permissions
    fun permission _ => Permission.deserialize_serialize permission
  simp only [deserialize, serialize, Json.members, except_bind_eq_ok, except_pure_eq_ok, Except.ok.injEq, exists_eq_left']
  refine ⟨_, Json.field_eq_ok rfl rfl, _, Json.field_eq_ok rfl rfl, _,
    Json.field_eq_ok rfl (base64urlBytes_toBase64url _), _, Json.field_eq_ok rfl (KeyKind.deserialize_serialize _), _,
    Json.field_eq_ok rfl (CredentialPurpose.deserialize_serialize _), _, Json.field_eq_ok rfl permissions, _,
    Json.field_eq_ok rfl revision, ?_⟩
  rw [Int.toNat_natCast, UInt64.ofNat_toNat]

end PairedCredential

namespace PairedDevice

def serialize (device : PairedDevice) : Json :=
  .object [("deviceId", .string device.deviceId), ("displayName", .string device.displayName),
    ("pairedAtMs", .number device.pairedAtMs.toInt),
    ("sessionIdentityPublicKey", .string (toBase64url device.sessionIdentityPublicKey)),
    ("credentials", .array (device.credentials.map PairedCredential.serialize))]

def deserialize (json : Json) : Except JsonError PairedDevice := do
  let members ← json.members
  let deviceId ← Json.field "deviceId" none Json.text members
  let displayName ← Json.field "displayName" none Json.text members
  let pairedAtMs ← Json.field "pairedAtMs" none (Json.integer (-2 ^ 63) (2 ^ 63)) members
  let sessionIdentityPublicKey ← Json.field "sessionIdentityPublicKey" (some []) base64urlBytes members
  let credentials ← Json.field "credentials" none (Json.items PairedCredential.deserialize) members
  return { deviceId, displayName, pairedAtMs := Int64.ofInt pairedAtMs, sessionIdentityPublicKey, credentials }

theorem deserialize_serialize (device : PairedDevice) : deserialize device.serialize = .ok device := by
  have time : Json.integer (-2 ^ 63) (2 ^ 63) (.number device.pairedAtMs.toInt) = .ok device.pairedAtMs.toInt :=
    Json.integer_number ⟨device.pairedAtMs.le_toInt, device.pairedAtMs.toInt_lt⟩
  have credentials := Json.items_array PairedCredential.serialize device.credentials
    fun credential _ => credential.deserialize_serialize
  simp only [deserialize, serialize, Json.members, except_bind_eq_ok, except_pure_eq_ok, Except.ok.injEq, exists_eq_left']
  refine ⟨_, Json.field_eq_ok rfl rfl, _, Json.field_eq_ok rfl rfl, _, Json.field_eq_ok rfl time, _,
    Json.field_eq_ok rfl (base64urlBytes_toBase64url _), _, Json.field_eq_ok rfl credentials, ?_⟩
  rw [Int64.ofInt_toInt]

end PairedDevice

/-- What the pairing file holds. -/
structure StoreFile where
  version : UInt32
  devices : List PairedDevice

namespace StoreFile

def serialize (file : StoreFile) : Json :=
  .object [("version", .number file.version.toNat), ("devices", .array (file.devices.map PairedDevice.serialize))]

def deserialize (json : Json) : Except JsonError StoreFile := do
  let members ← json.members
  let version ← Json.field "version" none (Json.integer 0 (2 ^ 32)) members
  let devices ← Json.field "devices" none (Json.items PairedDevice.deserialize) members
  return { version := UInt32.ofNat version.toNat, devices }

/-- A file is read back as it was written. -/
theorem deserialize_serialize (file : StoreFile) : deserialize file.serialize = .ok file := by
  have bound := file.version.toNat_lt
  have version : Json.integer 0 (2 ^ 32) (.number file.version.toNat) = .ok (file.version.toNat : Int) :=
    Json.integer_number (by omega)
  have devices := Json.items_array PairedDevice.serialize file.devices
    fun device _ => device.deserialize_serialize
  simp only [deserialize, serialize, Json.members, except_bind_eq_ok, except_pure_eq_ok, Except.ok.injEq, exists_eq_left']
  refine ⟨_, Json.field_eq_ok rfl version, _, Json.field_eq_ok rfl devices, ?_⟩
  rw [Int.toNat_natCast, UInt32.ofNat_toNat]

end StoreFile

end BioAuth.Verifier
