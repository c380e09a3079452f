import BioAuth.Agent.Pool
import BioAuth.Protocol.Messages
import BioAuth.Session.Framing
import BioAuth.Session.Handshake
import BioAuth.Verifier.Authorization

namespace BioAuth

namespace Session
variable [Crypto] [Identities]

/-- Default lifetime of a bootstrap. -/
def defaultLifetimeMs : Int64 := 120000

/-- A bootstrap that asks for a credential of one purpose. The nonce is drawn for it. -/
def ServerBootstrap.forPurpose (sessionId verifierId endpoint : String) (identity : Identities.IdentityKey)
    (nowMs lifetimeMs : Int64) (purpose : Protocol.CredentialPurpose) (nonce : Block 32) :
    Except SessionError ServerBootstrap := do
  let spki ← publicKeySpki identity
  let bootstrap : ServerBootstrap :=
    { sessionId, nonce, verifierId, verifierIdentityHash := hashIdentity spki, endpoint,
      expiresAtMs := Verifier.saturatingAdd nowMs (max lifetimeMs 1), purpose }
  bootstrap.validate
  return bootstrap

def ServerBootstrap.new (sessionId verifierId endpoint : String) (identity : Identities.IdentityKey)
    (nowMs lifetimeMs : Int64) (nonce : Block 32) : Except SessionError ServerBootstrap :=
  ServerBootstrap.forPurpose sessionId verifierId endpoint identity nowMs lifetimeMs .authorization nonce

end Session

namespace Agent
open BioAuth.Protocol (CredentialPurpose Enrolment KeyKind ProtocolError SessionAttach)
open BioAuth.Session (HandshakeOutcome Identities IoError PendingServerHandshake SecureChannel ServerBootstrap
  SessionError defaultLifetimeMs)

/-- The devices a listener lets in, with their session identity keys. -/
abbrev Peers := Table String Bytes

/-- Why a connection did not become a session. -/
inductive ConnectionError
  | io (error : IoError)
  | session (error : SessionError)
  | protocol (error : ProtocolError)
  | cbor (error : CborError)
  | notPaired (deviceId : String)
  | wrongPurpose (offered asked : CredentialPurpose)
  | notAnAttach
  deriving DecidableEq

/-- What a completed pairing handshake offers, pending user confirmation. -/
structure PairingProposal where
  attemptId : String
  deviceId : String
  deviceName : String
  sessionIdentitySpki : Bytes
  credentialId : String
  algorithm : String
  credentialPublicKey : Bytes
  keyKind : KeyKind
  purpose : CredentialPurpose
  verificationCode : String

/-- What is behind the listener's lock. -/
structure QrState where
  sessions : Sessions
  knownPeers : Peers
  /-- Set while the user has a pairing code on screen. -/
  armedPairing : Option ServerBootstrap
  proposal : Option PairingProposal
  lastConnectionError : Option ConnectionError

namespace QrState

def initial : QrState := ⟨Table.empty, Table.empty, none, none, none⟩

/-- Replaces any code already armed. -/
def armPairing (bootstrap : ServerBootstrap) (state : QrState) : QrState :=
  { state with proposal := none, armedPairing := some bootstrap }

def cancelPairing (state : QrState) : QrState := { state with armedPairing := none, proposal := none }

def takeProposal (state : QrState) : Option PairingProposal × QrState :=
  (state.proposal, { state with proposal := none })

def setKnownPeers (peers : Peers) (state : QrState) : QrState := { state with knownPeers := peers }

end QrState

/-- The device id of a client hello that has not been verified. -/
def peekDeviceId (clientFrame : Bytes) : Except CborError String := do
  let unsigned : Bytes ← (((do let _ ← Reader.array; Reader.bytes) : Parse CborError Bytes) clientFrame).1
  (((do
    let _ ← Reader.array
    let _ ← Reader.uint
    let _ ← Reader.uint
    let _ ← Reader.text
    let _ ← Reader.bytes
    let _ ← Reader.text
    let _ ← Reader.int
    Reader.text) : Parse CborError String) unsigned).1

/-- The read timed out with nothing read. -/
def IoError.timeout (error : IoError) : Bool := error.kind = .wouldBlock || error.kind = .timedOut

/-- A connection that was accepted: its number, and the far end where the platform knows it. -/
structure TcpStream where
  number : Nat
  peerAddr : Option String

section Serving
variable [Identities]

/-- Where a connection stands between two of its reads and critical sections. -/
inductive Serving
  | accepted
  /-- The hello is out. -/
  | greeted (armed : Option ServerBootstrap) (pending : PendingServerHandshake)
  | answered (armed : Option ServerBootstrap) (pending : PendingServerHandshake) (clientFrame : Bytes) (claimed : String)
  /-- An enrolment is read. A phone that has not declared that it pairs may stay silent. -/
  | enrolling (armed : Option ServerBootstrap) (outcome : HandshakeOutcome) (declared : Bool)
  | enrolled (armed : Option ServerBootstrap) (outcome : HandshakeOutcome) (enrolment : Enrolment)
  | attaching (outcome : HandshakeOutcome)
  | attached (outcome : HandshakeOutcome) (credentialId : Option String)
  | failed (error : ConnectionError)
  | ended (result : Except ConnectionError Unit)

/-- What a connection comes upon at one step: randomness, the clocks, and what its socket does. -/
structure Surroundings where
  sessionId : String
  nonce : Block 32
  secret : Identities.StaticSecret
  attemptId : String
  nowMs : Int64
  moment : Moment
  write : Except IoError Unit
  read : Except IoError Bytes

/-- What the listener holds for good. -/
structure Shared where
  identity : Identities.IdentityKey
  verifierId : String
  idleTimeout : Nat

def Serving.settled : Except ConnectionError Serving → Serving
  | .ok serving => serving
  | .error error => .failed error

variable [Crypto]

namespace Serving

def transportName : String := "QrNetworkTransport"

def origin (stream : TcpStream) : String := transportName ++ " • " ++ stream.peerAddr.getD "unknown peer"

/-- With no code on screen this must be a phone already paired, which still needs a session id and a nonce. -/
def bootstrapFor (shared : Shared) (env : Surroundings) : Option ServerBootstrap → Except ConnectionError ServerBootstrap
  | some bootstrap => .ok bootstrap
  | none => (ServerBootstrap.new env.sessionId shared.verifierId "" shared.identity env.nowMs defaultLifetimeMs
      env.nonce).mapError ConnectionError.session

def greet (shared : Shared) (env : Surroundings) (armed : Option ServerBootstrap) : Except ConnectionError Serving := do
  let bootstrap ← bootstrapFor shared env armed
  let (pending, _) ← (PendingServerHandshake.begin bootstrap shared.identity env.secret).mapError ConnectionError.session
  env.write.mapError ConnectionError.io
  return .greeted armed pending

def hear (env : Surroundings) (armed : Option ServerBootstrap) (pending : PendingServerHandshake) :
    Except ConnectionError Serving := do
  let clientFrame ← env.read.mapError ConnectionError.io
  let claimed ← (peekDeviceId clientFrame).mapError ConnectionError.cbor
  return .answered armed pending clientFrame claimed

/-- A known phone is matched against its stored key, and a stranger is let in while a code is armed. -/
def finish (known : Option Bytes) (armed : Option ServerBootstrap) (pending : PendingServerHandshake)
    (clientFrame : Bytes) (claimed : String) : Except ConnectionError HandshakeOutcome :=
  match known, armed with
  | some identitySpki, _ =>
    (pending.finish clientFrame (.paired claimed identitySpki) transportName).mapError ConnectionError.session
  | none, some _ => (pending.finish clientFrame .pairing transportName).mapError ConnectionError.session
  | none, none => .error (.notPaired claimed)

def meet (known : Option Bytes) (armed : Option ServerBootstrap) (pending : PendingServerHandshake) (clientFrame : Bytes)
    (claimed : String) : Except ConnectionError Serving := do
  let outcome ← finish known armed pending clientFrame claimed
  if outcome.wasPairing then return .enrolling armed outcome true
  else if armed.isSome then
    -- a phone this computer already knows can still be pairing afresh
    match outcome.intent with
    | some .pair => return .enrolling armed outcome true
    | some .resume => return .attaching outcome
    | none => return .enrolling armed outcome false
  else return .attaching outcome

/-- The code said what the pairing is for. -/
def enrol (env : Surroundings) (armed : Option ServerBootstrap) (outcome : HandshakeOutcome) (declared : Bool) :
    Except ConnectionError Serving :=
  match env.read with
  | .error error => if !declared && IoError.timeout error then .ok (.attaching outcome) else .error (.io error)
  | .ok record => do
    let (opened, channel) := SecureChannel.open record outcome.channel
    let frame ← opened.mapError ConnectionError.session
    let enrolment ← (Enrolment.decode frame).mapError ConnectionError.protocol
    require (∀ bootstrap, armed = some bootstrap → enrolment.purpose = bootstrap.purpose)
      (ConnectionError.wrongPurpose enrolment.purpose ((armed.map ServerBootstrap.purpose).getD enrolment.purpose))
    return .enrolled armed { outcome with channel } enrolment

/-- A phone that does not say which credential the session is for is parked as an answer to any. -/
def attach (env : Surroundings) (outcome : HandshakeOutcome) : Except ConnectionError Serving :=
  match env.read with
  | .error error => if IoError.timeout error then .ok (.attached outcome none) else .error (.io error)
  | .ok record => do
    let (opened, channel) := SecureChannel.open record outcome.channel
    let frame ← opened.mapError ConnectionError.session
    require (SessionAttach.recognizes frame = true) ConnectionError.notAnAttach
    let attach ← (SessionAttach.decode frame).mapError ConnectionError.protocol
    return .attached { outcome with channel } (some attach.credentialId)

def propose (env : Surroundings) (outcome : HandshakeOutcome) (enrolment : Enrolment) : PairingProposal where
  attemptId := env.attemptId
  deviceId := outcome.peerDeviceId
  deviceName := enrolment.deviceName
  sessionIdentitySpki := outcome.peerIdentitySpki
  credentialId := enrolment.credentialId
  algorithm := enrolment.algorithm
  credentialPublicKey := enrolment.publicKey
  keyKind := enrolment.keyKind
  purpose := enrolment.purpose
  verificationCode := outcome.verificationCode

end Serving

/-- One step of `serve_connection`: a read, or a critical section. The error of a connection that fails is recorded by
the thread that ran it. -/
def serveConnection (shared : Shared) (stream : TcpStream) (env : Surroundings) (state : QrState) :
    Serving → QrState × Serving
  | .accepted => (state, .settled (Serving.greet shared env state.armedPairing))
  | .greeted armed pending => (state, .settled (Serving.hear env armed pending))
  | .answered armed pending clientFrame claimed =>
    (state, .settled (Serving.meet (state.knownPeers.get? claimed) armed pending clientFrame claimed))
  | .enrolling armed outcome declared => (state, .settled (Serving.enrol env armed outcome declared))
  | .enrolled _ outcome enrolment =>
    ({ state with
        armedPairing := none, proposal := some (Serving.propose env outcome enrolment), lastConnectionError := none },
      .ended (.ok ()))
  | .attaching outcome => (state, .settled (Serving.attach env outcome))
  | .attached outcome credentialId =>
    let session : ParkedSession := ⟨outcome.channel, stream.number, Serving.origin stream, env.moment.now⟩
    ({ state with
        sessions := state.sessions.park shared.idleTimeout env.moment (outcome.peerDeviceId, credentialId) session
        lastConnectionError := none },
      .ended (.ok ()))
  | .failed error => ({ state with lastConnectionError := some error }, .ended (.error error))
  | .ended result => (state, .ended result)

end Serving

end Agent

end BioAuth
