import BioAuth.Crypto
import BioAuth.Native.PasskeyStore

namespace BioAuth.Native
open BioAuth WebAuthnRequestParser

structure WebAuthnClientData where
  origin : String
  packageName : Option String
  suppliedHash : Option Bytes
  attachment : String

/-- A signature begun with the key of an alias. -/
structure Signature where
  keyAlias : String
  deriving DecidableEq

structure PreparedWebAuthnAssertion where
  credential : PasskeyRecord
  clientDataJson : Option Bytes
  authenticatorData : Bytes
  signature : Signature
  dataToSign : Bytes
  previousSignCount : UInt32
  nextSignCount : UInt32
  attachment : String
  deriving DecidableEq

namespace Ctap2Encoder

def flagUp : UInt8 := 0x01

def flagUv : UInt8 := 0x04

def uint32 (value : UInt32) : Bytes := BigEndian.encode 4 value.toNat

def assertionAuthenticatorData [Crypto] (rpId : String) (signCount : UInt32) : Bytes :=
  (Crypto.sha256 (utf8 rpId)).val ++ [flagUp ||| flagUv] ++ uint32 signCount

/-- The counter a relying party reads in authenticator data. -/
def signCount (authenticatorData : Bytes) : Nat := BigEndian.decode ((authenticatorData.drop 33).take 4)

theorem signCount_assertionAuthenticatorData [Crypto] (rpId : String) (count : UInt32) :
    signCount (assertionAuthenticatorData rpId count) = count.toNat := by
  have front : ((Crypto.sha256 (utf8 rpId)).val ++ [flagUp ||| flagUv]).length = 33 := by
    rw [List.length_append, (Crypto.sha256 (utf8 rpId)).property]
    rfl
  have back : (uint32 count).length = 4 := BigEndian.encode_length 4 _
  rw [signCount, assertionAuthenticatorData, List.drop_left' front, List.take_of_length_le back.le]
  exact BigEndian.decode_encode_of_lt count.toNat_lt

end Ctap2Encoder

namespace WebAuthnCore
variable [OrgJsonText] [Crypto]

structure ClientData where
  bytes : Option Bytes
  hash : Bytes

def clientData (type : String) (challenge : Bytes) (client : WebAuthnClientData) : Except Failure ClientData :=
  match client.suppliedHash with
  | some suppliedHash => do
    require (suppliedHash.length = 32) (.illegalArgument "clientDataHash must contain 32 bytes")
    return ⟨none, suppliedHash⟩
  | none =>
    let json := utf8 (OrgJsonText.write (.object ([("type", .string type), ("challenge", .string (base64Url challenge)),
      ("origin", .string client.origin), ("crossOrigin", .bool false)] ++
        (client.packageName.map fun name => ("androidPackageName", .string name)).toList)))
    .ok ⟨some json, (Crypto.sha256 json).val⟩

def credentialJson (credentialId : Bytes) (response : List (String × Json)) (attachment : String)
    (clientExtensionResults : List (String × Json)) : String :=
  OrgJsonText.write (.object [("id", .string (base64Url credentialId)), ("rawId", .string (base64Url credentialId)),
    ("type", .string "public-key"), ("authenticatorAttachment", .string attachment), ("response", .object response),
    ("clientExtensionResults", .object clientExtensionResults)])

/-- What is made of a credential once it is looked up. The keystore may have no key for its alias. -/
def preparedAssertion (options : WebAuthnRequestOptions) (credentialId : Bytes) (client : WebAuthnClientData)
    (initializedSignature : String → Except Failure Signature) (found : Option PasskeyRecord) :
    Except Failure PreparedWebAuthnAssertion := do
  let credential ← okOr (.illegalArgument "Passkey not found") found
  require (credential.rpId = options.rpId) (.illegalArgument "Passkey belongs to another relying party")
  require (options.credentialsRestricted = false ∨ credentialId ∈ options.allowedCredentialIds)
    (.illegalArgument "Passkey is not allowed by the relying party")
  let next := credential.signCount + 1
  require (next ≠ 0) (.illegalArgument "WebAuthn signature counter exhausted")
  let clientData ← clientData "webauthn.get" options.challenge client
  let authData := Ctap2Encoder.assertionAuthenticatorData options.rpId next
  let toSign := authData ++ clientData.hash
  let signature ← initializedSignature credential.keyAlias
  return ⟨credential, clientData.bytes, authData, signature, toSign, credential.signCount, next, client.attachment⟩

def prepareAssertion (options : WebAuthnRequestOptions) (credentialId : Bytes) (client : WebAuthnClientData)
    (initializedSignature : String → Except Failure Signature) : StoreCall PreparedWebAuthnAssertion := do
  liftM (preparedAssertion options credentialId client initializedSignature (← PasskeyStore.find credentialId))

/-- What a relying party is told. -/
def assertionJson (prepared : PreparedWebAuthnAssertion) (signatureBytes : Bytes) : String :=
  credentialJson prepared.credential.credentialId
    ((prepared.clientDataJson.map fun bytes => ("clientDataJSON", .string (base64Url bytes))).toList ++
      [("authenticatorData", .string (base64Url prepared.authenticatorData)),
        ("signature", .string (base64Url signatureBytes)),
        ("userHandle", .string (base64Url prepared.credential.userHandle))])
    prepared.attachment []

def finishAssertion (prepared : PreparedWebAuthnAssertion) (sign : Signature → Bytes → Except Failure Bytes) :
    StoreCall String := do
  let signatureBytes ← liftM (sign prepared.signature prepared.dataToSign)
  PasskeyStore.updateCounter prepared.credential.credentialId prepared.previousSignCount prepared.nextSignCount
  return assertionJson prepared signatureBytes

end WebAuthnCore

end BioAuth.Native
