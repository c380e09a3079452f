import BioAuth.Agent.Serving

namespace BioAuth.Agent
open BioAuth
open BioAuth.Protocol (SessionAttach)
open BioAuth.Session (HandshakeOutcome Identities PendingServerHandshake SecureChannel ServerBootstrap defaultLifetimeMs)

/-- How long a session over Bluetooth may stay parked. -/
def sessionIdleTimeout : Nat := 300000

/-- What is behind the lock of the Bluetooth transport. -/
structure BleState where
  sessions : Sessions
  knownPeers : Peers
  lastLinkError : Option ConnectionError

namespace BleState

def initial : BleState := ⟨Table.empty, Table.empty, none⟩

def setKnownPeers (peers : Peers) (state : BleState) : BleState := { state with knownPeers := peers }

/-- Drops the sessions that are past their window. -/
def discardStale (now : Nat) (sessions : Sessions) : Sessions :=
  sessions.retain fun _ session => now - session.parkedAt < sessionIdleTimeout

/-- One round of waiting for a session. -/
def takeSession (now : Nat) (deviceId credentialId : String) (state : BleState) : Option ParkedSession × BleState :=
  let (taken, sessions) := (discardStale now state.sessions).takeMatching deviceId credentialId
  (taken, { state with sessions })

end BleState

/-- Where a link stands. There is no pairing over Bluetooth. -/
inductive Link [Identities]
  | accepted
  | greeted (pending : PendingServerHandshake)
  | answered (pending : PendingServerHandshake) (clientFrame : Bytes) (claimed : String)
  | attaching (outcome : HandshakeOutcome)
  | attached (outcome : HandshakeOutcome) (credentialId : Option String)
  | failed (error : ConnectionError)
  /-- Parked, or over. Of a parked link the frames are passed on. -/
  | ended (result : Except ConnectionError Unit)

section Serving
variable [Identities]

def Link.settled : Except ConnectionError Link → Link
  | .ok link => link
  | .error error => .failed error

variable [Crypto]

namespace Link

def transportName : String := "BleTransport"

def origin : String := transportName ++ " • authenticated nearby phone"

def greet (shared : Shared) (env : Surroundings) : Except ConnectionError Link := do
  let bootstrap ← (ServerBootstrap.new env.sessionId shared.verifierId "" shared.identity env.nowMs defaultLifetimeMs
    env.nonce).mapError ConnectionError.session
  let (pending, _) ← (PendingServerHandshake.begin bootstrap shared.identity env.secret).mapError ConnectionError.session
  env.write.mapError ConnectionError.io
  return .greeted pending

def hear (env : Surroundings) (pending : PendingServerHandshake) : Except ConnectionError Link := do
  let clientFrame ← env.read.mapError ConnectionError.io
  let claimed ← (peekDeviceId clientFrame).mapError ConnectionError.cbor
  return .answered pending clientFrame claimed

def meet (known : Option Bytes) (pending : PendingServerHandshake) (clientFrame : Bytes) (claimed : String) :
    Except ConnectionError Link :=
  match known with
  | none => .error (.notPaired claimed)
  | some identitySpki =>
    match pending.finish clientFrame (.paired claimed identitySpki) transportName with
    | .ok outcome => .ok (.attaching outcome)
    | .error error => .error (.session error)

/-- A phone too old to say which credential the session carries lets the window pass. -/
def attach (env : Surroundings) (outcome : HandshakeOutcome) : Except ConnectionError Link :=
  match env.read with
  | .error error => if IoError.timeout error then .ok (.attached outcome none) else .error (.io error)
  | .ok record => do
    let (opened, channel) := SecureChannel.open record outcome.channel
    let frame ← opened.mapError ConnectionError.session
    require (SessionAttach.recognizes frame = true) ConnectionError.notAnAttach
    let attach ← (SessionAttach.decode frame).mapError ConnectionError.protocol
    return .attached { outcome with channel } (some attach.credentialId)

end Link

/-- One step of `serve_link`. -/
def serveLink (shared : Shared) (number : Nat) (env : Surroundings) (state : BleState) : Link → BleState × Link
  | .accepted => (state, .settled (Link.greet shared env))
  | .greeted pending => (state, .settled (Link.hear env pending))
  | .answered pending clientFrame claimed =>
    (state, .settled (Link.meet (state.knownPeers.get? claimed) pending clientFrame claimed))
  | .attaching outcome => (state, .settled (Link.attach env outcome))
  | .attached outcome credentialId =>
    let session : ParkedSession := ⟨outcome.channel, number, Link.origin, env.moment.now⟩
    ({ state with
        sessions := (BleState.discardStale env.moment.now state.sessions).insert (outcome.peerDeviceId, credentialId) session
        lastLinkError := none },
      .ended (.ok ()))
  | .failed error => ({ state with lastLinkError := some error }, .ended (.error error))
  | .ended result => (state, .ended result)

namespace Link
variable {shared : Shared} {number : Nat} {env : Surroundings} {state : BleState}

omit [Crypto] in
/-- The phone a link is to be parked for. -/
def peer : Link → Option String
  | .attaching outcome => some outcome.peerDeviceId
  | .attached outcome _ => some outcome.peerDeviceId
  | _ => none

/-- A link gets its phone from the peers that are known then. -/
theorem peer_after {link : Link} {deviceId : String} (here : (serveLink shared number env state link).2.peer = some deviceId) :
    link.peer = some deviceId ∨ (state.knownPeers.get? deviceId).isSome = true := by
  cases link with
  | accepted =>
    simp only [serveLink] at here
    rcases run : greet shared env with error | next <;> rw [run] at here
    · cases here
    · simp only [greet, except_bind_eq_ok, except_pure_eq_ok, Prod.exists] at run
      obtain ⟨_, _, _, _, _, _, _, rfl⟩ := run
      cases here
  | greeted pending =>
    simp only [serveLink] at here
    rcases run : hear env pending with error | next <;> rw [run] at here
    · cases here
    · simp only [hear, except_bind_eq_ok, except_pure_eq_ok] at run
      obtain ⟨_, _, _, _, rfl⟩ := run
      cases here
  | answered pending clientFrame claimed =>
    simp only [serveLink] at here
    rcases stored : state.knownPeers.get? claimed with _ | identitySpki <;> rw [stored] at here
    · cases here
    · simp only [meet] at here
      rcases run : pending.finish clientFrame (.paired claimed identitySpki) transportName with error | outcome <;>
        rw [run] at here
      · cases here
      · obtain ⟨client, signature, wasPairing, shape, rfl⟩ := PendingServerHandshake.finish_eq_ok.mp run
        obtain ⟨⟨device, _⟩, _⟩ := PendingServerHandshake.checkPeer_eq_ok.mp shape.expected
        have same : client.deviceId = deviceId := Option.some.inj here
        rw [← same, device, stored]
        exact Or.inr rfl
  | attaching outcome =>
    left
    simp only [serveLink] at here
    rcases run : attach env outcome with error | next <;> rw [run] at here
    · cases here
    · rcases read : env.read with error | record <;> simp only [attach, read] at run
      · by_cases silent : IoError.timeout error = true
        · rw [if_pos silent] at run
          cases run
          exact here
        · rw [if_neg silent] at run
          cases run
      · simp only [except_bind_eq_ok, except_require_eq_ok, except_pure_eq_ok, exists_const] at run
        obtain ⟨_, _, _, _, _, rfl⟩ := run
        exact here
  | attached outcome credentialId => cases here
  | failed error => cases here
  | ended result => cases here

/-- A session that is parked was parked before, or the link parks it for its phone. -/
theorem sessions_after {link : Link} {entry : SessionKey × ParkedSession}
    (here : entry ∈ (serveLink shared number env state link).1.sessions.entries) :
    entry ∈ state.sessions.entries ∨ ∃ outcome credentialId, link = .attached outcome credentialId ∧
      entry.1.1 = outcome.peerDeviceId := by
  cases link with
  | attached outcome credentialId =>
    rcases Table.mem_insert.mp here with rfl | ⟨kept, _⟩
    · exact Or.inr ⟨outcome, credentialId, rfl, rfl⟩
    · exact Or.inl (Table.mem_retain.mp kept).1
  | accepted | greeted | answered | attaching | failed | ended => exact Or.inl here

theorem knownPeers_after (link : Link) :
    (serveLink shared number env state link).1.knownPeers = state.knownPeers := by
  cases link <;> rfl

end Link

end Serving

end BioAuth.Agent
