import BioAuth.Cbor

namespace BioAuth.Protocol
open BioAuth

/-- The only protocol version this build speaks. -/
def protocolVersion : UInt64 := 1

/-- The bound on a single frame. -/
def maxFrameBytes : Nat := 8192

def challengeLen : Nat := 32

def sessionBindingLen : Nat := 32

/-- The longest validity window a request may declare. -/
def maxValidityMs : Int := 120_000

def messageTypeRequest : UInt64 := 1
def messageTypeResponse : UInt64 := 2
def messageTypeEnrolment : UInt64 := 3
def messageTypeApplication : UInt64 := 4
def messageTypeAttach : UInt64 := 5

inductive ProtocolError
  | cbor (error : CborError)
  | frameSize (size : Nat)
  | frameShape (expected actual : UInt64)
  | unsupportedVersion (version : UInt64)
  | unexpectedMessageType (kind : UInt64)
  | fieldEmpty (field : String)
  | fieldTooLong (field : String) (max actual : Nat)
  | fieldLength (field : String) (expected actual : Nat)
  | validityWindow
  | notCanonical
  | invalidDecision (value : Int64)
  | missingProof
  | invalidKeyKind (value : Int64)
  | invalidPurpose (value : Int64)
  | invalidApplicationKind (value : UInt64)
  | invalidApplicationError (value : UInt64)
  | invalidOperation
  | payloadSize (size : Nat)
  | invalidItemKind (kind : UInt64)
  | invalidRevision
  | invalidReservedField (value : UInt64)
  | unexpectedEnd
  | invalidText (field : String)
  deriving DecidableEq

/-- The characters `str::trim` strips: those with the Unicode property White_Space. -/
def whitespace (c : Char) : Bool :=
  let code := c.val.toNat
  (9 ≤ code && code ≤ 13) || code = 0x20 || code = 0x85 || code = 0xa0 || code = 0x1680 ||
    (0x2000 ≤ code && code ≤ 0x200a) || code = 0x2028 || code = 0x2029 || code = 0x202f || code = 0x205f ||
    code = 0x3000

/-- `value.trim().is_empty()`. -/
def blank (value : String) : Bool := value.toList.all whitespace

/-- The shared rule for text fields: not blank, and of bounded length. -/
def checkText (field value : String) (max : Nat) : Except ProtocolError Unit := do
  require (blank value = false) (ProtocolError.fieldEmpty field)
  require (utf16Len value ≤ max) (ProtocolError.fieldTooLong field max (utf16Len value))

theorem checkText_eq_ok {field value : String} {max : Nat} {done : Unit} :
    checkText field value max = .ok done ↔ blank value = false ∧ utf16Len value ≤ max := by
  unfold checkText
  rw [except_bind_eq_ok]
  simp only [except_require_eq_ok]
  exact ⟨fun ⟨_, both⟩ => both, fun both => ⟨(), both⟩⟩

def checkFrameSize (frame : Bytes) : Except ProtocolError Unit :=
  require (frame ≠ [] ∧ frame.length ≤ maxFrameBytes) (ProtocolError.frameSize frame.length)

/-- What a credential is for. -/
inductive CredentialPurpose
  | authorization
  | diskUnlock
  | webAuthn
  | vault
  | fileLocker
  | ssh
  deriving DecidableEq

namespace CredentialPurpose

def wire : CredentialPurpose → Int64
  | authorization => 0
  | diskUnlock => 1
  | webAuthn => 2
  | vault => 3
  | fileLocker => 4
  | ssh => 5

def fromWire (value : Int64) : Except ProtocolError CredentialPurpose :=
  if value = 0 then .ok authorization
  else if value = 1 then .ok diskUnlock
  else if value = 2 then .ok webAuthn
  else if value = 3 then .ok vault
  else if value = 4 then .ok fileLocker
  else if value = 5 then .ok ssh
  else .error (.invalidPurpose value)

end CredentialPurpose

end BioAuth.Protocol
