import BioAuth.Cbor
import BioAuth.Crypto

namespace BioAuth.Session
open BioAuth

inductive SessionError
  | invalidBootstrap (message : String)
  /-- The hello, or the code it came from, is past its deadline. -/
  | bootstrapExpired
  | invalidFrame (message : String)
  | cbor (error : CborError)
  | identityKey
  | signature
  /-- The peer is not the one this handshake was for. -/
  | peerMismatch
  /-- The verifier's key does not match the commitment in the scanned code. -/
  | verifierIdentityMismatch
  | kdf
  | encrypt
  | decrypt
  /-- A record arrived out of order, or twice. -/
  | replay
  /-- The record counter would wrap. -/
  | counterExhausted
  deriving DecidableEq

/-- The length of every key and of the session binding. -/
def keyLen : Nat := 32

def kdfDomain : Bytes := utf8 "PhoneAuth/secure-session/v1"
def bindingDomain : Bytes := utf8 "PhoneAuth/session-binding/v1"
def verificationDomain : Bytes := utf8 "PhoneAuth/pairing-verification/v1"

def verificationCodeDigits : Nat := 6

/-- Everything derived from one completed handshake. -/
structure KeySchedule where
  clientToServer : Block 32
  serverToClient : Block 32
  exporter : Block 32

/-- The `index`-th key of the material. -/
def split (material : Block (keyLen * 3)) (index : Fin 3) : Block 32 :=
  ⟨(material.val.drop (index * keyLen)).take keyLen, by
    have length := material.property
    have bound := index.isLt
    simp only [keyLen] at length ⊢
    simp only [List.length_take, List.length_drop]
    omega⟩

variable [Crypto]

/-- The shared secret expanded, salted with the transcript. HKDF-SHA256 refuses only an output past 8160 octets. -/
def KeySchedule.derive (sharedSecret : Bytes) (transcriptHash : Block 32) : KeySchedule :=
  let material := Crypto.hkdf transcriptHash.val sharedSecret kdfDomain (keyLen * 3)
  { clientToServer := split material 0
    serverToClient := split material 1
    exporter := split material 2 }

/-- What both peers must agree on to derive the same session binding. -/
structure SessionBindingInputs where
  transportName : String
  sessionId : String
  serverEphemeral : Bytes
  clientEphemeral : Bytes
  exporter : Bytes

/-- A field behind its length, so that no two lists of fields run together. -/
def lengthPrefixed (field : Bytes) : Bytes := BigEndian.encode 8 field.length ++ field

def sessionBinding (inputs : SessionBindingInputs) : Block 32 :=
  Crypto.sha256 (bindingDomain ++
    [utf8 inputs.transportName, utf8 inputs.sessionId, inputs.serverEphemeral, inputs.clientEphemeral,
      inputs.exporter].flatMap lengthPrefixed)

/-- Six digits both ends derive from the same handshake. -/
def verificationCode (exporter : Bytes) : String :=
  let digest := Crypto.sha256 (verificationDomain ++ exporter)
  let value := BigEndian.decode (digest.val.take 4)
  let digits := toString (value % 10 ^ verificationCodeDigits)
  "".pushn '0' (verificationCodeDigits - digits.length) ++ digits

end BioAuth.Session
