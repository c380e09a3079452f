import BioAuth.Session.Channel
import BioAuth.Session.Framing

namespace BioAuth

/-- The text of an error, as it is displayed. -/
def CborError.message : CborError → String
  | .truncated => "truncated CBOR item"
  | .trailingBytes => "trailing bytes after CBOR item"
  | .nonCanonicalInteger => "non-canonical integer encoding"
  | .unsupportedItem => "unsupported CBOR item"
  | .unexpectedType => "unexpected CBOR major type"
  | .outOfRange => "CBOR value out of range"
  | .invalidUtf8 => "CBOR text string is not valid UTF-8"

namespace Session

def SessionError.message : SessionError → String
  | .invalidBootstrap message => message
  | .bootstrapExpired => "the pairing code has expired"
  | .invalidFrame message => message
  | .cbor error => "CBOR: " ++ error.message
  | .identityKey => "invalid P-256 identity key"
  | .signature => "invalid handshake signature"
  | .peerMismatch => "handshake peer does not match pairing"
  | .verifierIdentityMismatch => "verifier key does not match the scanned code"
  | .kdf => "secure-session key derivation failed"
  | .encrypt => "secure-session record encryption failed"
  | .decrypt => "secure-session record authentication failed"
  | .replay => "replayed or out-of-order secure-session record"
  | .counterExhausted => "secure-session record counter exhausted"

/-- A session backed by a TCP connection and a channel. -/
structure NetworkSession where
  channel : SecureChannel
  outbound : Framing.Outbound
  inbox : Framing.Inbox
  closed : Bool

namespace NetworkSession

def onChannel {α : Type} (step : Fallible SecureChannel SessionError α) : Fallible NetworkSession IoError α :=
  fun session =>
    match step session.channel with
    | (.ok a, channel) => (.ok a, { session with channel })
    | (.error e, channel) => (.error ⟨.invalidData, e.message⟩, { session with channel })

def onOutbound {α : Type} (step : Fallible Framing.Outbound IoError α) : Fallible NetworkSession IoError α :=
  fun session => ((step session.outbound).1, { session with outbound := (step session.outbound).2 })

def onInbox {α : Type} (step : Fallible Framing.Inbox IoError α) : Fallible NetworkSession IoError α :=
  fun session => ((step session.inbox).1, { session with inbox := (step session.inbox).2 })

variable [Crypto]

/-- Seals a frame and writes its record. The counter has moved when the write fails. -/
def send (frame : Bytes) : Fallible NetworkSession IoError Unit := do
  let session ← get
  require (session.closed = false) (IoError.mk .brokenPipe "session closed")
  let record ← onChannel (SecureChannel.seal frame)
  onOutbound (Framing.writeFrame record)

/-- Reads one record and opens it. The platform refuses a timeout of zero. -/
def receive (timeout : Nat) : Fallible NetworkSession IoError Bytes := do
  let session ← get
  require (session.closed = false) (IoError.mk .brokenPipe "session closed")
  require (timeout ≠ 0) (IoError.mk .invalidInput "cannot set a 0 duration timeout")
  let record ← onInbox Framing.readFrameResumable
  onChannel (SecureChannel.open record)

end NetworkSession

structure ServiceError where
  code : String
  message : String
  deriving DecidableEq

def webauthnMagic : Bytes := utf8 "BAWA1\n"

/-- The frame of a WebAuthn request, from the JSON text of its value. -/
def webauthnFrame (encoded : Option Bytes) : Except ServiceError Bytes := do
  let json ← okOr ⟨"bad-request", "could not encode WebAuthn request"⟩ encoded
  let frame := webauthnMagic ++ json
  require (frame.length ≤ maxFrame)
    (ServiceError.mk "bad-request" "WebAuthn request exceeds the secure-session frame limit")
  return frame

theorem webauthnFrame_run {json : Bytes} (within : (webauthnMagic ++ json).length ≤ maxFrame) :
    webauthnFrame (some json) = .ok (webauthnMagic ++ json) :=
  except_bind_eq_ok.mpr ⟨json, rfl, except_bind_eq_ok.mpr ⟨(), except_require_eq_ok.mpr within, rfl⟩⟩

end Session

end BioAuth
