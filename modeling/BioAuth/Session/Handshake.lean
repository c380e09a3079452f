import BioAuth.Protocol.Common
import BioAuth.Session.Channel

namespace BioAuth.Session
open BioAuth

/-- The primitives of the handshake: P-256 identities with their encodings, and X25519. -/
class Identities where
  IdentityKey : Type
  VerifyingKey : Type
  DerSignature : Type
  StaticSecret : Type
  toPublicKeyDer : IdentityKey → Option Bytes
  sign : IdentityKey → Bytes → Bytes
  fromPublicKeyDer : Bytes → Option VerifyingKey
  fromDer : Bytes → Option DerSignature
  verifies : VerifyingKey → Bytes → DerSignature → Bool
  publicKey : StaticSecret → Block 32
  diffieHellman : StaticSecret → Block 32 → Block 32

/-- The version every server hello uses, and the client hello without an intent. -/
def version : UInt64 := 1

/-- The client hello version that carries an intent. -/
def versionWithIntent : UInt64 := 2

def maxHandshakeFrame : Nat := 8192

def serverHelloType : UInt64 := 16
def clientHelloType : UInt64 := 17

def identityDomain : Bytes := utf8 "PhoneAuth/identity/v1"
def transcriptDomain : Bytes := utf8 "PhoneAuth/handshake-transcript/v1"

/-- What the authenticator is connecting for. -/
inductive PairingIntent
  | resume
  | pair

namespace PairingIntent

def wire : PairingIntent → UInt64
  | resume => 0
  | pair => 1

def fromWire (value : UInt64) : Except SessionError PairingIntent :=
  if value = 0 then .ok resume
  else if value = 1 then .ok pair
  else .error (.invalidFrame "unknown pairing intent")

end PairingIntent

/-- Who the verifier will accept at the other end. -/
inductive PeerExpectation
  | paired (deviceId : String) (identitySpki : Bytes)
  | pairing
  deriving DecidableEq

/-- What a QR code carries. -/
structure ServerBootstrap where
  sessionId : String
  nonce : Block 32
  verifierId : String
  verifierIdentityHash : Block 32
  endpoint : String
  expiresAtMs : Int64
  purpose : Protocol.CredentialPurpose
  deriving DecidableEq

def ServerBootstrap.validate (bootstrap : ServerBootstrap) : Except SessionError Unit := do
  require (bootstrap.sessionId ≠ "" ∧ (utf8 bootstrap.sessionId).length ≤ 64)
    (SessionError.invalidBootstrap "invalid session identifier")
  require (bootstrap.verifierId ≠ "" ∧ (utf8 bootstrap.verifierId).length ≤ 64)
    (SessionError.invalidBootstrap "invalid verifier identifier")
  require ((utf8 bootstrap.endpoint).length ≤ 128) (SessionError.invalidBootstrap "endpoint is too long")
  require (∀ field ∈ [bootstrap.sessionId, bootstrap.verifierId, bootstrap.endpoint],
      '&' ∉ field.toList ∧ '=' ∉ field.toList)
    (SessionError.invalidBootstrap "bootstrap fields may not contain `&` or `=`")

/-- Who the authenticator will accept as the verifier. -/
inductive VerifierExpectation
  | paired (identitySpki : Bytes)
  | scanned (bootstrap : ServerBootstrap)

/-- A completed handshake. -/
structure HandshakeOutcome where
  channel : SecureChannel
  peerIdentitySpki : Bytes
  peerDeviceId : String
  verificationCode : String
  wasPairing : Bool
  intent : Option PairingIntent

structure ServerHello where
  sessionId : String
  nonce : Block 32
  verifierId : String
  expiresAtMs : Int64
  identitySpki : Bytes
  ephemeral : Block 32

structure ClientHello where
  sessionId : String
  nonce : Block 32
  verifierId : String
  expiresAtMs : Int64
  deviceId : String
  serverEphemeral : Block 32
  ephemeral : Block 32
  identitySpki : Bytes
  /-- Absent from a phone that predates intents. -/
  intent : Option PairingIntent

def cbor {α : Type} (read : Parse CborError α) : Parse SessionError α := Fallible.mapError SessionError.cbor read

def fixed (n : Nat) (bytes : Bytes) (message : String) : Except SessionError (Block n) :=
  if length : bytes.length = n then .ok ⟨bytes, length⟩ else .error (.invalidFrame message)

def encodeServerHello (bootstrap : ServerBootstrap) (identitySpki : Bytes) (ephemeral : Block 32) : Bytes :=
  Writer.array 8 ++ Writer.uint serverHelloType ++ Writer.uint version ++ Writer.text bootstrap.sessionId ++
    Writer.bytes bootstrap.nonce.val ++ Writer.text bootstrap.verifierId ++ Writer.int bootstrap.expiresAtMs ++
    Writer.bytes identitySpki ++ Writer.bytes ephemeral.val

def readServerHello : Parse SessionError ServerHello := do
  let fields ← cbor Reader.array
  require (fields = 8) (SessionError.invalidFrame "invalid server hello")
  let kind ← cbor Reader.uint
  require (kind = serverHelloType) (SessionError.invalidFrame "invalid server hello")
  let spoken ← cbor Reader.uint
  require (spoken = version) (SessionError.invalidFrame "invalid server hello")
  let sessionId ← cbor Reader.text
  let nonce ← fixed 32 (← cbor Reader.bytes) "invalid nonce"
  let verifierId ← cbor Reader.text
  let expiresAtMs ← cbor Reader.int
  let identitySpki ← cbor Reader.bytes
  let ephemeral ← fixed 32 (← cbor Reader.bytes) "invalid verifier ephemeral key"
  cbor Reader.finish
  return { sessionId, nonce, verifierId, expiresAtMs, identitySpki, ephemeral }

def decodeServerHello (frame : Bytes) : Except SessionError ServerHello := (readServerHello frame).1

def encodeClientHello (sessionId : String) (nonce : Block 32) (verifierId : String) (expiresAtMs : Int64)
    (deviceId : String) (serverEphemeral ephemeral : Block 32) (identitySpki : Bytes) (intent : PairingIntent) :
    Bytes :=
  Writer.array 11 ++ Writer.uint clientHelloType ++ Writer.uint versionWithIntent ++ Writer.text sessionId ++
    Writer.bytes nonce.val ++ Writer.text verifierId ++ Writer.int expiresAtMs ++ Writer.text deviceId ++
    Writer.bytes serverEphemeral.val ++ Writer.bytes ephemeral.val ++ Writer.bytes identitySpki ++
    Writer.uint intent.wire

def readIntent (carried : Bool) : Parse SessionError (Option PairingIntent) :=
  if carried then do
    let value ← cbor Reader.uint
    let intent ← PairingIntent.fromWire value
    return some intent
  else
    return none

/-- Both shapes are accepted: eleven fields with an intent last, or the ten of a phone that predates intents. -/
def readClientHello : Parse SessionError ClientHello := do
  let fields ← cbor Reader.array
  let kind ← cbor Reader.uint
  require (kind = clientHelloType) (SessionError.invalidFrame "invalid client hello")
  let spoken ← cbor Reader.uint
  require (fields = 11 ∧ spoken = versionWithIntent ∨ fields = 10 ∧ spoken = version)
    (SessionError.invalidFrame "invalid client hello")
  let sessionId ← cbor Reader.text
  let nonce ← fixed 32 (← cbor Reader.bytes) "invalid nonce"
  let verifierId ← cbor Reader.text
  let expiresAtMs ← cbor Reader.int
  let deviceId ← cbor Reader.text
  let serverEphemeral ← fixed 32 (← cbor Reader.bytes) "invalid verifier ephemeral key"
  let ephemeral ← fixed 32 (← cbor Reader.bytes) "invalid client ephemeral key"
  let identitySpki ← cbor Reader.bytes
  let intent ← readIntent (fields = 11)
  cbor Reader.finish
  return { sessionId, nonce, verifierId, expiresAtMs, deviceId, serverEphemeral, ephemeral, identitySpki, intent }

def decodeClientHello (frame : Bytes) : Except SessionError ClientHello := (readClientHello frame).1

def envelope (unsigned signature : Bytes) : Bytes :=
  Writer.array 2 ++ Writer.bytes unsigned ++ Writer.bytes signature

def readEnvelope : Parse SessionError (Bytes × Bytes) := do
  let fields ← cbor Reader.array
  require (fields = 2) (SessionError.invalidFrame "invalid handshake envelope")
  let unsigned ← cbor Reader.bytes
  let signature ← cbor Reader.bytes
  cbor Reader.finish
  return (unsigned, signature)

def decodeEnvelope (frame : Bytes) : Except SessionError (Bytes × Bytes) := do
  require (frame ≠ [] ∧ frame.length ≤ maxHandshakeFrame) (SessionError.invalidFrame "invalid handshake frame size")
  (readEnvelope frame).1

variable [Crypto] [Identities]
open Identities

/-- The commitment to an identity that a QR code carries. -/
def hashIdentity (spki : Bytes) : Block 32 := Crypto.sha256 (identityDomain ++ spki)

def publicKeySpki (identity : IdentityKey) : Except SessionError Bytes :=
  okOr .identityKey (toPublicKeyDer identity)

/-- Checks a handshake signature against a public key. -/
def verify (spki message signature : Bytes) : Except SessionError Unit := do
  let key ← okOr SessionError.identityKey (fromPublicKeyDer spki)
  let parsed ← okOr SessionError.signature (fromDer signature)
  require (verifies key message parsed = true) SessionError.signature

/-- Both hello bodies, each behind its length. The signatures are left out. -/
def transcriptHash (server client : Bytes) : Block 32 :=
  Crypto.sha256 (transcriptDomain ++ [server, client].flatMap lengthPrefixed)

/-- The verifier's side, between sending its hello and receiving the answer. -/
structure PendingServerHandshake where
  bootstrap : ServerBootstrap
  secret : StaticSecret
  ephemeralPublic : Block 32
  serverUnsigned : Bytes

namespace PendingServerHandshake

/-- Builds the server hello from a fresh ephemeral secret. -/
def begin (bootstrap : ServerBootstrap) (identity : IdentityKey) (secret : StaticSecret) :
    Except SessionError (PendingServerHandshake × Bytes) := do
  bootstrap.validate
  let identitySpki ← publicKeySpki identity
  require (bootstrap.verifierIdentityHash = hashIdentity identitySpki)
    (SessionError.invalidBootstrap "bootstrap does not commit to this identity key")
  let serverUnsigned := encodeServerHello bootstrap identitySpki (publicKey secret)
  return (⟨bootstrap, secret, publicKey secret, serverUnsigned⟩, envelope serverUnsigned (sign identity serverUnsigned))

/-- The peer is the stored one, or a first contact. -/
def checkPeer (client : ClientHello) : PeerExpectation → Except SessionError Bool
  | .paired deviceId identitySpki => do
    require (client.deviceId = deviceId ∧ client.identitySpki = identitySpki) SessionError.peerMismatch
    return false
  | .pairing => return true

/-- Checks the client hello and derives the channel. -/
def finish (pending : PendingServerHandshake) (clientFrame : Bytes) (expectation : PeerExpectation)
    (transportName : String) : Except SessionError HandshakeOutcome := do
  let (clientUnsigned, signature) ← decodeEnvelope clientFrame
  let client ← decodeClientHello clientUnsigned
  require (client.sessionId = pending.bootstrap.sessionId ∧ client.verifierId = pending.bootstrap.verifierId ∧
      client.nonce = pending.bootstrap.nonce ∧ client.expiresAtMs = pending.bootstrap.expiresAtMs ∧
      client.serverEphemeral = pending.ephemeralPublic)
    SessionError.peerMismatch
  let wasPairing ← checkPeer client expectation
  verify client.identitySpki clientUnsigned signature
  let shared := diffieHellman pending.secret client.ephemeral
  let transcript := transcriptHash pending.serverUnsigned clientUnsigned
  let schedule := KeySchedule.derive shared.val transcript
  let binding := sessionBinding {
    transportName
    sessionId := pending.bootstrap.sessionId
    serverEphemeral := pending.ephemeralPublic.val
    clientEphemeral := client.ephemeral.val
    exporter := schedule.exporter.val }
  return {
    channel := SecureChannel.new .server schedule binding
    peerIdentitySpki := client.identitySpki
    peerDeviceId := client.deviceId
    verificationCode := verificationCode schedule.exporter.val
    wasPairing
    intent := client.intent }

end PendingServerHandshake

namespace ClientHandshake

/-- The verifier is the stored one, or the one the scanned code commits to. -/
def checkVerifier (server : ServerHello) : VerifierExpectation → Except SessionError Bool
  | .paired identitySpki => do
    require (server.identitySpki = identitySpki) SessionError.peerMismatch
    return false
  | .scanned bootstrap => do
    bootstrap.validate
    require (server.sessionId = bootstrap.sessionId ∧ server.verifierId = bootstrap.verifierId ∧
        server.nonce = bootstrap.nonce ∧ server.expiresAtMs = bootstrap.expiresAtMs)
      SessionError.peerMismatch
    require (hashIdentity server.identitySpki = bootstrap.verifierIdentityHash) SessionError.verifierIdentityMismatch
    return true

/-- Answers a server hello with a fresh ephemeral secret. -/
def respond (serverFrame : Bytes) (expectation : VerifierExpectation) (deviceId : String) (identity : IdentityKey)
    (transportName : String) (nowMs : Int64) (secret : StaticSecret) :
    Except SessionError (Bytes × HandshakeOutcome) := do
  require (deviceId ≠ "" ∧ (utf8 deviceId).length ≤ 64) (SessionError.invalidFrame "invalid device identifier")
  let (serverUnsigned, signature) ← decodeEnvelope serverFrame
  let server ← decodeServerHello serverUnsigned
  let wasPairing ← checkVerifier server expectation
  require (nowMs < server.expiresAtMs) SessionError.bootstrapExpired
  verify server.identitySpki serverUnsigned signature
  let identitySpki ← publicKeySpki identity
  let intent : PairingIntent := if wasPairing then .pair else .resume
  let clientUnsigned := encodeClientHello server.sessionId server.nonce server.verifierId server.expiresAtMs deviceId
    server.ephemeral (publicKey secret) identitySpki intent
  let shared := diffieHellman secret server.ephemeral
  let transcript := transcriptHash serverUnsigned clientUnsigned
  let schedule := KeySchedule.derive shared.val transcript
  let binding := sessionBinding {
    transportName
    sessionId := server.sessionId
    serverEphemeral := server.ephemeral.val
    clientEphemeral := (publicKey secret).val
    exporter := schedule.exporter.val }
  return (envelope clientUnsigned (sign identity clientUnsigned), {
    channel := SecureChannel.new .client schedule binding
    peerIdentitySpki := server.identitySpki
    peerDeviceId := server.verifierId
    verificationCode := verificationCode schedule.exporter.val
    wasPairing
    intent := some intent })

end ClientHandshake

end BioAuth.Session
