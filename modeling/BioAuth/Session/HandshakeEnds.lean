import BioAuth.Session.HelloSpelling

namespace BioAuth.Session
open BioAuth Identities

variable [Crypto] [Identities]

omit [Crypto] in
theorem publicKeySpki_eq_ok {identity : IdentityKey} {spki : Bytes} :
    publicKeySpki identity = .ok spki ↔ toPublicKeyDer identity = some spki := okOr_eq_ok

omit [Crypto] [Identities] in
theorem ServerBootstrap.validate_eq_ok {bootstrap : ServerBootstrap} {u : Unit} :
    bootstrap.validate = .ok u ↔
      (bootstrap.sessionId ≠ "" ∧ (utf8 bootstrap.sessionId).length ≤ 64) ∧
        (bootstrap.verifierId ≠ "" ∧ (utf8 bootstrap.verifierId).length ≤ 64) ∧
        (utf8 bootstrap.endpoint).length ≤ 128 ∧
        ∀ field ∈ [bootstrap.sessionId, bootstrap.verifierId, bootstrap.endpoint],
          '&' ∉ field.toList ∧ '=' ∉ field.toList := by
  unfold validate
  simp only [except_bind_eq_ok, except_require_eq_ok, exists_const]

namespace PendingServerHandshake

/-- The hello of a handshake under way. -/
def hello (bootstrap : ServerBootstrap) (identitySpki : Bytes) (ephemeral : Block 32) : ServerHello where
  sessionId := bootstrap.sessionId
  nonce := bootstrap.nonce
  verifierId := bootstrap.verifierId
  expiresAtMs := bootstrap.expiresAtMs
  identitySpki := identitySpki
  ephemeral := ephemeral

/-- What the verifier keeps of a handshake under way. -/
def start (bootstrap : ServerBootstrap) (identitySpki : Bytes) (secret : StaticSecret) : PendingServerHandshake where
  bootstrap := bootstrap
  secret := secret
  ephemeralPublic := publicKey secret
  serverUnsigned := (hello bootstrap identitySpki (publicKey secret)).spell

theorem begin_eq_ok {bootstrap : ServerBootstrap} {identity : IdentityKey} {secret : StaticSecret}
    {pending : PendingServerHandshake} {frame : Bytes} :
    begin bootstrap identity secret = .ok (pending, frame) ↔
      ∃ spki, bootstrap.validate = .ok () ∧ toPublicKeyDer identity = some spki ∧
        bootstrap.verifierIdentityHash = hashIdentity spki ∧
        pending = start bootstrap spki secret ∧
        frame = envelope pending.serverUnsigned (sign identity pending.serverUnsigned) := by
  unfold begin
  simp only [except_bind_eq_ok, except_require_eq_ok, except_pure_eq_ok, publicKeySpki_eq_ok, exists_const,
    Prod.mk.injEq]
  constructor
  · intro run
    obtain ⟨_, valid, spki, known, commits, rfl, rfl⟩ := run
    exact ⟨spki, valid, known, commits, rfl, rfl⟩
  · intro shape
    obtain ⟨spki, valid, known, commits, rfl, rfl⟩ := shape
    exact ⟨(), valid, spki, known, commits, rfl, rfl⟩

/-- A client hello that answers this handshake. -/
structure Echoed (pending : PendingServerHandshake) (client : ClientHello) : Prop where
  sessionId : client.sessionId = pending.bootstrap.sessionId
  verifierId : client.verifierId = pending.bootstrap.verifierId
  nonce : client.nonce = pending.bootstrap.nonce
  expiresAtMs : client.expiresAtMs = pending.bootstrap.expiresAtMs
  serverEphemeral : client.serverEphemeral = pending.ephemeralPublic

/-- The keys the verifier derives from a client hello. -/
def schedule (pending : PendingServerHandshake) (client : ClientHello) : KeySchedule :=
  KeySchedule.derive (diffieHellman pending.secret client.ephemeral).val
    (transcriptHash pending.serverUnsigned client.spell)

/-- What the verifier ends with. -/
def outcome (pending : PendingServerHandshake) (client : ClientHello) (wasPairing : Bool) (transportName : String) :
    HandshakeOutcome where
  channel := SecureChannel.new .server (pending.schedule client) (sessionBinding {
    transportName
    sessionId := pending.bootstrap.sessionId
    serverEphemeral := pending.ephemeralPublic.val
    clientEphemeral := client.ephemeral.val
    exporter := (pending.schedule client).exporter.val })
  peerIdentitySpki := client.identitySpki
  peerDeviceId := client.deviceId
  verificationCode := verificationCode (pending.schedule client).exporter.val
  wasPairing := wasPairing
  intent := client.intent

omit [Crypto] [Identities] in
theorem checkPeer_eq_ok {client : ClientHello} {expectation : PeerExpectation} {wasPairing : Bool} :
    checkPeer client expectation = .ok wasPairing ↔
      match expectation with
      | .paired deviceId identitySpki =>
        (client.deviceId = deviceId ∧ client.identitySpki = identitySpki) ∧ wasPairing = false
      | .pairing => wasPairing = true := by
  unfold checkPeer
  cases expectation with
  | paired deviceId identitySpki =>
    simp only [except_bind_eq_ok, except_require_eq_ok, except_pure_eq_ok, exists_const, @eq_comm _ false]
  | pairing => simp only [except_pure_eq_ok, @eq_comm _ true]

/-- What it takes for the verifier to finish. -/
structure Finished (pending : PendingServerHandshake) (frame : Bytes) (expectation : PeerExpectation)
    (client : ClientHello) (signature : Bytes) (wasPairing : Bool) : Prop where
  fits : client.Fits
  framed : frame = envelope client.spell signature
  bounded : frame.length ≤ maxHandshakeFrame
  echoed : pending.Echoed client
  expected : checkPeer client expectation = .ok wasPairing
  signed : verify client.identitySpki client.spell signature = .ok ()

theorem finish_eq_ok {pending : PendingServerHandshake} {frame : Bytes} {expectation : PeerExpectation}
    {transportName : String} {outcome : HandshakeOutcome} :
    pending.finish frame expectation transportName = .ok outcome ↔
      ∃ client signature wasPairing, pending.Finished frame expectation client signature wasPairing ∧
        outcome = pending.outcome client wasPairing transportName := by
  unfold finish
  simp only [except_bind_eq_ok, except_require_eq_ok, except_pure_eq_ok, exists_const, Prod.exists,
    decodeEnvelope_eq_ok, decodeClientHello_eq_ok]
  constructor
  · intro run
    obtain ⟨_, signature, ⟨bounded, framed⟩, client, ⟨fits, rfl⟩, echo, wasPairing, expected, _, signed, rfl⟩ := run
    obtain ⟨session, verifier, nonce, expiry, ephemeral⟩ := echo
    exact ⟨client, signature, wasPairing,
      ⟨fits, framed, bounded, ⟨session, verifier, nonce, expiry, ephemeral⟩, expected, signed⟩, rfl⟩
  · intro shape
    obtain ⟨client, signature, wasPairing, ⟨fits, framed, bounded, echoed, expected, signed⟩, rfl⟩ := shape
    exact ⟨client.spell, signature, ⟨bounded, framed⟩, client, ⟨fits, rfl⟩,
      ⟨echoed.sessionId, echoed.verifierId, echoed.nonce, echoed.expiresAtMs, echoed.serverEphemeral⟩, wasPairing,
      expected, (), signed, rfl⟩

end PendingServerHandshake

namespace ClientHandshake

/-- What the phone answers to a server hello. -/
def answer (server : ServerHello) (deviceId : String) (identitySpki : Bytes) (ephemeral : Block 32)
    (wasPairing : Bool) : ClientHello where
  sessionId := server.sessionId
  nonce := server.nonce
  verifierId := server.verifierId
  expiresAtMs := server.expiresAtMs
  deviceId := deviceId
  serverEphemeral := server.ephemeral
  ephemeral := ephemeral
  identitySpki := identitySpki
  intent := some (if wasPairing then .pair else .resume)

/-- The keys the phone derives. -/
def schedule (server : ServerHello) (client : ClientHello) (secret : StaticSecret) : KeySchedule :=
  KeySchedule.derive (diffieHellman secret server.ephemeral).val (transcriptHash server.spell client.spell)

/-- What the phone ends with. -/
def outcome (server : ServerHello) (client : ClientHello) (secret : StaticSecret) (wasPairing : Bool)
    (transportName : String) : HandshakeOutcome where
  channel := SecureChannel.new .client (schedule server client secret) (sessionBinding {
    transportName
    sessionId := server.sessionId
    serverEphemeral := server.ephemeral.val
    clientEphemeral := client.ephemeral.val
    exporter := (schedule server client secret).exporter.val })
  peerIdentitySpki := server.identitySpki
  peerDeviceId := server.verifierId
  verificationCode := verificationCode (schedule server client secret).exporter.val
  wasPairing := wasPairing
  intent := client.intent

omit [Identities] in
theorem checkVerifier_eq_ok {server : ServerHello} {expectation : VerifierExpectation} {wasPairing : Bool} :
    checkVerifier server expectation = .ok wasPairing ↔
      match expectation with
      | .paired identitySpki => server.identitySpki = identitySpki ∧ wasPairing = false
      | .scanned bootstrap =>
        bootstrap.validate = .ok () ∧
          (server.sessionId = bootstrap.sessionId ∧ server.verifierId = bootstrap.verifierId ∧
            server.nonce = bootstrap.nonce ∧ server.expiresAtMs = bootstrap.expiresAtMs) ∧
          hashIdentity server.identitySpki = bootstrap.verifierIdentityHash ∧ wasPairing = true := by
  unfold checkVerifier
  cases expectation with
  | paired identitySpki =>
    simp only [except_bind_eq_ok, except_require_eq_ok, except_pure_eq_ok, exists_const, @eq_comm _ false]
  | scanned bootstrap =>
    simp only [except_bind_eq_ok, except_require_eq_ok, except_pure_eq_ok, exists_const, @eq_comm _ true]
    exact ⟨fun ⟨_, checked⟩ => checked, fun checked => ⟨(), checked⟩⟩

/-- What it takes for the phone to answer. -/
structure Responded (serverFrame : Bytes) (expectation : VerifierExpectation) (deviceId : String)
    (identity : IdentityKey) (nowMs : Int64) (server : ServerHello) (signature spki : Bytes) (wasPairing : Bool) :
    Prop where
  device : deviceId ≠ "" ∧ (utf8 deviceId).length ≤ 64
  fits : server.Fits
  framed : serverFrame = envelope server.spell signature
  bounded : serverFrame.length ≤ maxHandshakeFrame
  expected : checkVerifier server expectation = .ok wasPairing
  fresh : nowMs < server.expiresAtMs
  signed : verify server.identitySpki server.spell signature = .ok ()
  known : toPublicKeyDer identity = some spki

theorem respond_eq_ok {serverFrame : Bytes} {expectation : VerifierExpectation} {deviceId : String}
    {identity : IdentityKey} {transportName : String} {nowMs : Int64} {secret : StaticSecret} {frame : Bytes}
    {result : HandshakeOutcome} :
    respond serverFrame expectation deviceId identity transportName nowMs secret = .ok (frame, result) ↔
      ∃ server signature spki wasPairing,
        Responded serverFrame expectation deviceId identity nowMs server signature spki wasPairing ∧
        frame = envelope (answer server deviceId spki (publicKey secret) wasPairing).spell
          (sign identity (answer server deviceId spki (publicKey secret) wasPairing).spell) ∧
        result = outcome server (answer server deviceId spki (publicKey secret) wasPairing) secret wasPairing
          transportName := by
  unfold respond
  simp only [except_bind_eq_ok, except_require_eq_ok, except_pure_eq_ok, exists_const, Prod.exists,
    decodeEnvelope_eq_ok, decodeServerHello_eq_ok, publicKeySpki_eq_ok, Prod.mk.injEq]
  constructor
  · intro run
    obtain ⟨device, _, signature, ⟨bounded, framed⟩, server, ⟨fits, rfl⟩, wasPairing, expected, fresh, _, signed, spki,
      known, rfl, rfl⟩ := run
    exact ⟨server, signature, spki, wasPairing,
      ⟨device, fits, framed, bounded, expected, fresh, signed, known⟩, rfl, rfl⟩
  · intro shape
    obtain ⟨server, signature, spki, wasPairing,
      ⟨device, fits, framed, bounded, expected, fresh, signed, known⟩, rfl, rfl⟩ := shape
    exact ⟨device, server.spell, signature, ⟨bounded, framed⟩, server, ⟨fits, rfl⟩, wasPairing, expected, fresh, (),
      signed, spki, known, rfl, rfl⟩

end ClientHandshake

end BioAuth.Session
