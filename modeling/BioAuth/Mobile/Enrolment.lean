import BioAuth.Mobile.PayloadAgreement
import BioAuth.Mobile.PairingStore
import BioAuth.Protocol.Sizes

namespace BioAuth.Mobile
open BioAuth
open BioAuth.Protocol (KeyKind CredentialPurpose)

structure EnrolmentException where
  message : String
  deriving DecidableEq

/-- One credential offered for enrolment. -/
structure Enrolment where
  protocolVersion : Int64
  deviceName : String
  credentialId : String
  algorithm : String
  publicKey : Bytes
  keyKind : KeyKind
  purpose : CredentialPurpose

/-- `CredentialPurpose.name`. -/
def purposeName : CredentialPurpose → String
  | .authorization => "authorization"
  | .diskUnlock => "diskUnlock"
  | .webAuthn => "webAuthn"
  | .vault => "vault"
  | .fileLocker => "fileLocker"
  | .ssh => "ssh"

/-- The credential a phone enrols with a computer, for one purpose. -/
def credentialIdFor (verifierId : String) (purpose : CredentialPurpose) : String :=
  verifierId ++ "-" ++ purposeName purpose ++ "-v1"

theorem utf16Len_append (front back : String) : utf16Len (front ++ back) = utf16Len front + utf16Len back := by
  simp only [utf16Len, String.toList_append, List.map_append, List.sum_append]

/-- The suffix of the id for `authorization` is the longest. -/
theorem utf16Len_credentialIdFor (verifierId : String) (purpose : CredentialPurpose) :
    utf16Len verifierId + 7 ≤ utf16Len (credentialIdFor verifierId purpose) ∧
      utf16Len (credentialIdFor verifierId purpose) ≤ utf16Len (credentialIdFor verifierId .authorization) ∧
      utf16Len (credentialIdFor verifierId .authorization) = utf16Len verifierId + 17 := by
  have dash : utf16Len "-" = 1 := by decide
  have version : utf16Len "-v1" = 3 := by decide
  have name : 3 ≤ utf16Len (purposeName purpose) ∧ utf16Len (purposeName purpose) ≤ 13 := by
    cases purpose <;> decide
  have longest : utf16Len (purposeName .authorization) = 13 := by decide
  simp only [credentialIdFor, utf16Len_append]
  omega

/-- Whatever the id of the computer, that of a credential is not blank. -/
theorem credentialIdFor_filled (verifierId : String) (purpose : CredentialPurpose) :
    blank (credentialIdFor verifierId purpose) = false := by
  have dash : '-' ∈ (credentialIdFor verifierId purpose).toList := by
    simp only [credentialIdFor, String.toList_append, List.mem_append]
    exact Or.inl (Or.inl (Or.inr (by decide)))
  by_contra spaces
  rw [Bool.not_eq_false, blank, List.all_eq_true] at spaces
  exact absurd (spaces _ dash) (by decide)

namespace Enrolment

/-- `_checkText`. -/
def checkText (field value : String) (limit : Nat) : Except EnrolmentException Unit := do
  require (blank value = false) ⟨field ++ " is empty"⟩
  require (utf16Len value ≤ limit) ⟨field ++ " is longer than " ++ toString limit ++ " characters"⟩

/-- The constructor of an enrolment. -/
def validate (enrolment : Enrolment) : Except EnrolmentException Unit := do
  require (enrolment.protocolVersion = 1) ⟨"unsupported protocol version"⟩
  checkText "deviceName" enrolment.deviceName 128
  checkText "credentialId" enrolment.credentialId 64
  checkText "algorithm" enrolment.algorithm 64
  require (enrolment.publicKey ≠ [] ∧ enrolment.publicKey.length ≤ 512) ⟨"publicKey is empty or oversized"⟩

def encode (enrolment : Enrolment) : Except Refusal Bytes := do
  return [CborWriter.array 9, ← CborWriter.uint 3, ← CborWriter.uint enrolment.protocolVersion,
    CborWriter.text enrolment.deviceName, CborWriter.text enrolment.credentialId, CborWriter.text enrolment.algorithm,
    CborWriter.bytes enrolment.publicKey, ← CborWriter.uint (Int64.ofNat (keyKinds.idxOf enrolment.keyKind)),
    ← CborWriter.uint (Int64.ofNat (purposes.idxOf enrolment.purpose)), ← CborWriter.uint 0].flatten

/-- The enrolment, as the desktop names it. -/
def desktop (enrolment : Enrolment) : Protocol.Enrolment :=
  ⟨UInt64.ofNat enrolment.protocolVersion.toInt.toNat, enrolment.deviceName, enrolment.credentialId,
    enrolment.algorithm, enrolment.publicKey, enrolment.keyKind, enrolment.purpose⟩

theorem checkText_eq_ok {field value : String} {limit : Nat} {done : Unit} :
    checkText field value limit = .ok done ↔ Named limit value := by
  simp only [checkText, except_bind_eq_ok, except_require_eq_ok, exists_const, Named]

/-- What an enrolment says that could be built. -/
structure Valid (enrolment : Enrolment) : Prop where
  version : enrolment.protocolVersion = 1
  deviceName : Named 128 enrolment.deviceName
  credentialId : Named 64 enrolment.credentialId
  algorithm : Named 64 enrolment.algorithm
  publicKey : enrolment.publicKey ≠ [] ∧ enrolment.publicKey.length ≤ 512

theorem validate_eq_ok {enrolment : Enrolment} : enrolment.validate = .ok () ↔ enrolment.Valid := by
  simp only [validate, except_bind_eq_ok, except_require_eq_ok, checkText_eq_ok, exists_const]
  constructor
  · intro ⟨version, deviceName, credentialId, algorithm, publicKey⟩
    exact ⟨version, deviceName, credentialId, algorithm, publicKey⟩
  · intro valid
    exact ⟨valid.version, valid.deviceName, valid.credentialId, valid.algorithm, valid.publicKey⟩

theorem encode_eq (enrolment : Enrolment) (valid : enrolment.Valid) : enrolment.encode = .ok enrolment.desktop.encode := by
  have kind : CborWriter.uint (Int64.ofNat (keyKinds.idxOf enrolment.keyKind)) =
      .ok (Writer.uint enrolment.keyKind.wire) := by
    cases enrolment.keyKind <;> rfl
  have purpose : CborWriter.uint (Int64.ofNat (purposes.idxOf enrolment.purpose)) =
      .ok (Writer.uint enrolment.purpose.wire.toUInt64) := by
    cases enrolment.purpose <;> rfl
  have version : UInt64.ofNat enrolment.protocolVersion.toInt.toNat = 1 := by
    rw [valid.version]
    rfl
  obtain ⟨_, deviceName⟩ := valid.deviceName
  obtain ⟨_, credentialId⟩ := valid.credentialId
  obtain ⟨_, algorithm⟩ := valid.algorithm
  obtain ⟨_, publicKey⟩ := valid.publicKey
  unfold encode
  rw [kind, purpose, valid.version, text_within (by omega), text_within (by omega), text_within (by omega),
    bytes_within (by omega)]
  simp only [Protocol.Enrolment.encode, Protocol.Enrolment.body, desktop, version]
  rfl

theorem desktop_validate {enrolment : Enrolment} (valid : enrolment.Valid) : enrolment.desktop.validate = .ok () := by
  have version : enrolment.desktop.protocolVersion = Protocol.protocolVersion := by
    rw [desktop, valid.version]
    rfl
  simp only [Protocol.Enrolment.validate, except_bind_eq_ok]
  exact ⟨(), except_require_eq_ok.mpr version, (), Protocol.checkText_eq_ok.mpr (named_iff.mp valid.deviceName).1, (),
    Protocol.checkText_eq_ok.mpr (named_iff.mp valid.credentialId).1, (),
    Protocol.checkText_eq_ok.mpr (named_iff.mp valid.algorithm).1, except_require_eq_ok.mpr valid.publicKey⟩

theorem desktop_length {enrolment : Enrolment} (valid : enrolment.Valid) :
    enrolment.desktop.encode.length ≤ Protocol.maxFrameBytes :=
  Protocol.Enrolment.encode_short (desktop_validate valid)

/-- The phone can build the enrolment, and the desktop reads it. -/
def Delivered (enrolment : Enrolment) : Prop :=
  enrolment.validate = .ok () ∧ ∃ frame, enrolment.encode = .ok frame ∧
    ∃ received, Protocol.Enrolment.decode frame = .ok received

/-- The desktop reads every enrolment the phone can build. -/
theorem delivered_iff {enrolment : Enrolment} : enrolment.Delivered ↔ enrolment.Valid := by
  constructor
  · intro ⟨valid, _⟩
    exact validate_eq_ok.mp valid
  · intro valid
    exact ⟨validate_eq_ok.mpr valid, _, encode_eq enrolment valid, _,
      Protocol.Enrolment.exact.complete _ (desktop_validate valid) (desktop_length valid)⟩

end Enrolment

end BioAuth.Mobile
