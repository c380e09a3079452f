import BioAuth.Session.HandshakeAgreement

namespace BioAuth.Session
open BioAuth Identities

/-- One field behind its length can be told from another behind its own. -/
theorem lengthPrefixed_injective {a b : Bytes} (same : lengthPrefixed a = lengthPrefixed b) : a = b := by
  have dropped := congrArg (List.drop 8) same
  rwa [lengthPrefixed, lengthPrefixed, List.drop_left' (BigEndian.encode_length _ _),
    List.drop_left' (BigEndian.encode_length _ _)] at dropped

section Sound
variable [Crypto] [Identities]

/-- What a transcript hash is computed of. -/
def transcriptInput (server client : Bytes) : Bytes := transcriptDomain ++ [server, client].flatMap lengthPrefixed

/-- Two octet strings that the hash tells apart. -/
def NoCollision (a b : Bytes) : Prop := Crypto.sha256 a = Crypto.sha256 b → a = b

/-- A run of `begin` by a verifier. -/
structure ServerRun where
  bootstrap : ServerBootstrap
  identity : IdentityKey
  secret : StaticSecret
  pending : PendingServerHandshake
  frame : Bytes
  ran : PendingServerHandshake.begin bootstrap identity secret = .ok (pending, frame)

/-- A run of `respond` by a phone that answered. -/
structure ClientRun where
  serverFrame : Bytes
  expectation : VerifierExpectation
  deviceId : String
  identity : IdentityKey
  transportName : String
  nowMs : Int64
  secret : StaticSecret
  frame : Bytes
  outcome : HandshakeOutcome
  ran : ClientHandshake.respond serverFrame expectation deviceId identity transportName nowMs secret =
    .ok (frame, outcome)

/-- The verifier hello a phone accepted and the hello it signed in answer. -/
structure ClientRun.Signed (run : ClientRun) (server : ServerHello) (client : ClientHello) : Prop where
  framed : run.frame = envelope client.spell (sign run.identity client.spell)
  accepted : ∃ signature, run.serverFrame = envelope server.spell signature ∧
    verify server.identitySpki server.spell signature = .ok ()
  fresh : run.nowMs < server.expiresAtMs
  verifierKey : run.outcome.peerIdentitySpki = server.identitySpki
  verifierId : run.outcome.peerDeviceId = server.verifierId
  answers : ∃ spki wasPairing, toPublicKeyDer run.identity = some spki ∧ run.outcome.intent = client.intent ∧
    client = ClientHandshake.answer server run.deviceId spki (publicKey run.secret) wasPairing

/-- A key whose every signature was made in one of the runs: by a verifier on its hello or by a phone on its answer. -/
structure Unforgeable (servers : ServerRun → Prop) (clients : ClientRun → Prop) (spki : Bytes) : Prop where
  made : ∀ message signature, verify spki message signature = .ok () →
    (∃ run, servers run ∧ toPublicKeyDer run.identity = some spki ∧ run.pending.serverUnsigned = message) ∨
      ∃ run server client, clients run ∧ toPublicKeyDer run.identity = some spki ∧ run.Signed server client ∧
        client.spell = message

/-- What a frame that `finish` accepts carries. -/
structure FrameSound (pending : PendingServerHandshake) (frame : Bytes) (expectation : PeerExpectation)
    (outcome : HandshakeOutcome) (client : ClientHello) : Prop where
  signed : ∃ signature, frame = envelope client.spell signature ∧
    verify outcome.peerIdentitySpki client.spell signature = .ok ()
  reported : outcome.peerIdentitySpki = client.identitySpki ∧ outcome.peerDeviceId = client.deviceId ∧
    outcome.intent = client.intent
  stored : ∀ deviceId spki, expectation = .paired deviceId spki →
    outcome.peerDeviceId = deviceId ∧ outcome.peerIdentitySpki = spki
  echoed : pending.Echoed client

/-- What a verifier hello that `respond` accepts satisfies. -/
structure HelloSound (frame : Bytes) (expectation : VerifierExpectation) (nowMs : Int64) (outcome : HandshakeOutcome)
    (server : ServerHello) : Prop where
  signed : ∃ signature, frame = envelope server.spell signature ∧
    verify outcome.peerIdentitySpki server.spell signature = .ok ()
  reported : outcome.peerIdentitySpki = server.identitySpki ∧ outcome.peerDeviceId = server.verifierId
  stored : ∀ spki, expectation = .paired spki → outcome.peerIdentitySpki = spki
  committed : ∀ bootstrap, expectation = .scanned bootstrap →
    (server.sessionId = bootstrap.sessionId ∧ server.verifierId = bootstrap.verifierId ∧
      server.nonce = bootstrap.nonce ∧ server.expiresAtMs = bootstrap.expiresAtMs) ∧
    hashIdentity outcome.peerIdentitySpki = bootstrap.verifierIdentityHash ∧
    ∀ spki, bootstrap.verifierIdentityHash = hashIdentity spki →
      NoCollision (identityDomain ++ outcome.peerIdentitySpki) (identityDomain ++ spki) →
        outcome.peerIdentitySpki = spki
  fresh : nowMs < server.expiresAtMs

/-- A phone's run that agrees with a verifier's on everything its hello names. -/
structure Agreed (pending : PendingServerHandshake) (outcome : HandshakeOutcome) (run : ClientRun)
    (server : ServerHello) (client : ClientHello) : Prop where
  identity : toPublicKeyDer run.identity = some outcome.peerIdentitySpki
  deviceId : run.deviceId = outcome.peerDeviceId
  verifierId : run.outcome.peerDeviceId = pending.bootstrap.verifierId
  sessionId : server.sessionId = pending.bootstrap.sessionId
  nonce : server.nonce = pending.bootstrap.nonce
  expiresAtMs : server.expiresAtMs = pending.bootstrap.expiresAtMs
  serverEphemeral : server.ephemeral = pending.ephemeralPublic
  clientEphemeral : client.ephemeral = publicKey run.secret
  intent : run.outcome.intent = outcome.intent
  fresh : run.nowMs < pending.bootstrap.expiresAtMs
  /-- Over one transcript they agree on the verifier's whole hello, its key included. -/
  transcript : NoCollision (transcriptInput server.spell client.spell)
      (transcriptInput pending.serverUnsigned client.spell) →
    transcriptHash server.spell client.spell = transcriptHash pending.serverUnsigned client.spell →
      server.spell = pending.serverUnsigned

theorem finish_sound {pending : PendingServerHandshake} {frame : Bytes} {expectation : PeerExpectation}
    {transportName : String} {outcome : HandshakeOutcome}
    (finished : pending.finish frame expectation transportName = .ok outcome) :
    ∃ client, FrameSound pending frame expectation outcome client := by
  obtain ⟨client, signature, wasPairing, run, rfl⟩ := PendingServerHandshake.finish_eq_ok.mp finished
  refine ⟨client, ⟨signature, run.framed, run.signed⟩, ⟨rfl, rfl, rfl⟩, ?_, run.echoed⟩
  intro deviceId spki paired
  subst paired
  exact (PendingServerHandshake.checkPeer_eq_ok.mp run.expected).1

theorem respond_sound {frame answered : Bytes} {expectation : VerifierExpectation} {deviceId : String}
    {identity : IdentityKey} {transportName : String} {nowMs : Int64} {secret : StaticSecret}
    {outcome : HandshakeOutcome}
    (responded : ClientHandshake.respond frame expectation deviceId identity transportName nowMs secret =
      .ok (answered, outcome)) : ∃ server, HelloSound frame expectation nowMs outcome server := by
  obtain ⟨server, signature, spki, wasPairing, run, _, rfl⟩ := ClientHandshake.respond_eq_ok.mp responded
  refine ⟨server, ⟨signature, run.framed, run.signed⟩, ⟨rfl, rfl⟩, ?_, ?_, run.fresh⟩
  · intro stored paired
    subst paired
    exact (ClientHandshake.checkVerifier_eq_ok.mp run.expected).1
  · intro bootstrap scanned
    subst scanned
    obtain ⟨_, fields, commits, _⟩ := ClientHandshake.checkVerifier_eq_ok.mp run.expected
    refine ⟨fields, commits, ?_⟩
    intro own commitment apart
    exact List.append_cancel_left (apart (commits.trans commitment))

omit [Identities] in
theorem transcript_agrees {server client pending : Bytes}
    (apart : NoCollision (transcriptInput server client) (transcriptInput pending client))
    (same : transcriptHash server client = transcriptHash pending client) : server = pending := by
  have inputs := apart same
  simp only [transcriptInput, List.flatMap_cons, List.flatMap_nil, List.append_nil] at inputs
  exact lengthPrefixed_injective (List.append_cancel_right (List.append_cancel_left inputs))

omit [Crypto] [Identities] in
/-- A verifier hello never passes for an answer: their first octets differ. -/
theorem hello_not_answer (server : ServerHello) (client : ClientHello) : client.spell ≠ server.spell := by
  intro same
  have front := congrArg List.head? same
  have eight : Writer.array 8 = [0x88] := by decide
  have ten : Writer.array 10 = [0x8a] := by decide
  have eleven : Writer.array 11 = [0x8b] := by decide
  cases some : client.intent.isSome with
  | true =>
    simp only [ClientHello.spell, ServerHello.spell, some, if_true, eight, eleven, List.append_assoc,
      List.singleton_append] at front
    cases front
  | false =>
    simp only [ClientHello.spell, ServerHello.spell, some, Bool.false_eq_true, if_false, eight, ten, List.append_assoc,
      List.singleton_append] at front
    cases front

omit [Crypto] [Identities] in
theorem ClientHello.fits_of_length {hello : ClientHello} (bound : hello.spell.length < 2 ^ 64) : hello.Fits := by
  simp only [ClientHello.spell, Writer.text, Writer.bytes, List.length_append] at bound
  exact ⟨by unfold Short; omega, by unfold Short; omega, by unfold Short; omega, by unfold Short; omega⟩

omit [Crypto] [Identities] in
theorem ServerHello.fits_of_length {hello : ServerHello} (bound : hello.spell.length < 2 ^ 64) : hello.Fits := by
  simp only [ServerHello.spell, Writer.text, Writer.bytes, List.length_append] at bound
  exact ⟨by unfold Short; omega, by unfold Short; omega, by unfold Short; omega⟩

omit [Crypto] [Identities] in
/-- A frame within its limit holds bodies within it. -/
theorem unsigned_length_le {unsigned signature : Bytes} (bounded : (envelope unsigned signature).length ≤ maxHandshakeFrame) :
    unsigned.length < 2 ^ 64 := by
  simp only [envelope, Writer.bytes, List.length_append, maxHandshakeFrame] at bounded
  omega

omit [Crypto] [Identities] in
theorem ClientHello.spell_injective {a b : ClientHello} (short : a.spell.length < 2 ^ 64) (same : a.spell = b.spell) :
    a = b := by
  have first := decodeClientHello_eq_ok.mpr ⟨fits_of_length short, rfl⟩
  have second := decodeClientHello_eq_ok.mpr ⟨fits_of_length (same ▸ short), rfl⟩
  rw [same, second] at first
  exact (Except.ok.inj first).symm

omit [Crypto] [Identities] in
theorem ServerHello.spell_injective {a b : ServerHello} (short : a.spell.length < 2 ^ 64) (same : a.spell = b.spell) :
    a = b := by
  have first := decodeServerHello_eq_ok.mpr ⟨fits_of_length short, rfl⟩
  have second := decodeServerHello_eq_ok.mpr ⟨fits_of_length (same ▸ short), rfl⟩
  rw [same, second] at first
  exact (Except.ok.inj first).symm

variable {servers : ServerRun → Prop} {clients : ClientRun → Prop}

/-- A verifier that finishes with a key no one else signs with has a phone's run that agrees. -/
theorem finish_agreed {pending : PendingServerHandshake} {frame : Bytes} {expectation : PeerExpectation}
    {transportName : String} {outcome : HandshakeOutcome}
    (finished : pending.finish frame expectation transportName = .ok outcome) {client : ClientHello}
    (sound : FrameSound pending frame expectation outcome client)
    (honest : Unforgeable servers clients outcome.peerIdentitySpki) :
    ∃ run server, clients run ∧ run.Signed server client ∧ Agreed pending outcome run server client := by
  obtain ⟨signature, framed, signed⟩ := sound.signed
  have short : client.spell.length < 2 ^ 64 := by
    obtain ⟨_, _, _, ended, _⟩ := PendingServerHandshake.finish_eq_ok.mp finished
    exact unsigned_length_le (framed ▸ ended.bounded)
  rcases honest.made _ _ signed with ⟨run, _, _, same⟩ | ⟨run, server, made, known, key, signs, same⟩
  · obtain ⟨spki, _, _, _, started, _⟩ := PendingServerHandshake.begin_eq_ok.mp run.ran
    rw [started] at same
    exact absurd same.symm (hello_not_answer _ _)
  · have equal := ClientHello.spell_injective short same.symm
    subst equal
    obtain ⟨spki, wasPairing, identity, intent, answered⟩ := signs.answers
    obtain ⟨reportedSpki, reportedDevice, reportedIntent⟩ := sound.reported
    have session : client.sessionId = server.sessionId := by rw [answered]; rfl
    have nonce : client.nonce = server.nonce := by rw [answered]; rfl
    have verifier : client.verifierId = server.verifierId := by rw [answered]; rfl
    have expiry : client.expiresAtMs = server.expiresAtMs := by rw [answered]; rfl
    have device : client.deviceId = run.deviceId := by rw [answered]; rfl
    have ephemeral : client.serverEphemeral = server.ephemeral := by rw [answered]; rfl
    have own : client.ephemeral = publicKey run.secret := by rw [answered]; rfl
    exact ⟨run, server, known, signs, {
      identity := key
      deviceId := device.symm.trans reportedDevice.symm
      verifierId := signs.verifierId.trans (verifier.symm.trans sound.echoed.verifierId)
      sessionId := session.symm.trans sound.echoed.sessionId
      nonce := nonce.symm.trans sound.echoed.nonce
      expiresAtMs := expiry.symm.trans sound.echoed.expiresAtMs
      serverEphemeral := ephemeral.symm.trans sound.echoed.serverEphemeral
      clientEphemeral := own
      intent := intent.trans reportedIntent.symm
      fresh := (expiry.symm.trans sound.echoed.expiresAtMs) ▸ signs.fresh
      transcript := fun apart same => transcript_agrees apart same }⟩

/-- A phone that answers a key no one else signs with answers a hello of a verifier's run. -/
theorem respond_agreed {frame answered : Bytes} {expectation : VerifierExpectation} {deviceId : String}
    {identity : IdentityKey} {transportName : String} {nowMs : Int64} {secret : StaticSecret}
    {outcome : HandshakeOutcome}
    (responded : ClientHandshake.respond frame expectation deviceId identity transportName nowMs secret =
      .ok (answered, outcome)) {server : ServerHello} (sound : HelloSound frame expectation nowMs outcome server)
    (honest : Unforgeable servers clients outcome.peerIdentitySpki) :
    ∃ run, servers run ∧ toPublicKeyDer run.identity = some outcome.peerIdentitySpki ∧
      server = PendingServerHandshake.hello run.bootstrap outcome.peerIdentitySpki (publicKey run.secret) := by
  obtain ⟨signature, framed, signed⟩ := sound.signed
  have short : server.spell.length < 2 ^ 64 := by
    obtain ⟨_, _, _, _, ended, _⟩ := ClientHandshake.respond_eq_ok.mp responded
    exact unsigned_length_le (framed ▸ ended.bounded)
  rcases honest.made _ _ signed with ⟨run, made, key, same⟩ | ⟨run, other, client, _, _, _, same⟩
  · obtain ⟨spki, _, known, _, started, _⟩ := PendingServerHandshake.begin_eq_ok.mp run.ran
    rw [started] at same
    have equal := ServerHello.spell_injective short same.symm
    have keys := Option.some.inj (known.symm.trans key)
    exact ⟨run, made, key, keys ▸ equal⟩
  · exact absurd same (hello_not_answer _ _)

/-- What completing a handshake proves, for every frame offered and every expectation, on both sides. -/
theorem handshake_sound (servers : ServerRun → Prop) (clients : ClientRun → Prop) :
    (∀ (pending : PendingServerHandshake) frame expectation transportName outcome,
      pending.finish frame expectation transportName = .ok outcome →
        ∃ client, FrameSound pending frame expectation outcome client ∧
          (Unforgeable servers clients outcome.peerIdentitySpki →
            ∃ run server, clients run ∧ run.Signed server client ∧ Agreed pending outcome run server client)) ∧
    ∀ frame expectation deviceId identity transportName nowMs secret answered outcome,
      ClientHandshake.respond frame expectation deviceId identity transportName nowMs secret = .ok (answered, outcome) →
        ∃ server, HelloSound frame expectation nowMs outcome server ∧
          (Unforgeable servers clients outcome.peerIdentitySpki →
            ∃ run, servers run ∧ toPublicKeyDer run.identity = some outcome.peerIdentitySpki ∧
              server = PendingServerHandshake.hello run.bootstrap outcome.peerIdentitySpki (publicKey run.secret)) := by
  constructor
  · intro pending frame expectation transportName outcome finished
    obtain ⟨client, sound⟩ := finish_sound finished
    exact ⟨client, sound, finish_agreed finished sound⟩
  · intro frame expectation deviceId identity transportName nowMs secret answered outcome responded
    obtain ⟨server, sound⟩ := respond_sound responded
    exact ⟨server, sound, respond_agreed responded sound⟩

end Sound

/-- The hello of another verifier, who puts its own key beside everything else it was sent. -/
def relayedHello : ServerHello :=
  PendingServerHandshake.hello plainBootstrap (plainKey 9).val (plainKey 3)

def relayedFrame : Bytes :=
  envelope relayedHello.spell (@sign Identities.plain (plainKey 9) relayedHello.spell)

/-- A phone and a verifier that both complete, and disagree on who the verifier is: the answer does not name the key. -/
theorem verifier_disagreed :
    ∃ frame answered finished,
      @PendingServerHandshake.begin Crypto.plain Identities.plain plainBootstrap (plainKey 1) (plainKey 3) =
        .ok (vouchedStart fun _ _ => true, vouchedHello fun _ _ => true) ∧
      @ClientHandshake.respond Crypto.plain Identities.plain relayedFrame (.paired (plainKey 9).val) "phone"
        (plainKey 2) "QrNetworkTransport" 5 (plainKey 4) = .ok (frame, answered) ∧
      @PendingServerHandshake.finish Crypto.plain Identities.plain (vouchedStart fun _ _ => true) frame
        (.paired "phone" (plainKey 2).val) "QrNetworkTransport" = .ok finished ∧
      @publicKeySpki Identities.plain (plainKey 1) = .ok (plainKey 1).val ∧
      answered.peerIdentitySpki ≠ (plainKey 1).val := by
  have known : @toPublicKeyDer Identities.plain (plainKey 2) = some (plainKey 2).val := rfl
  have fits : relayedHello.Fits := ⟨by decide +kernel, by decide +kernel, by decide +kernel⟩
  have bounded : relayedFrame.length ≤ maxHandshakeFrame := by decide +kernel
  have signed : @verify Identities.plain relayedHello.identitySpki relayedHello.spell
      (@sign Identities.plain (plainKey 9) relayedHello.spell) = .ok () := vouched_verify.mpr ⟨rfl, rfl⟩
  have expected : @ClientHandshake.checkVerifier Crypto.plain relayedHello (.paired (plainKey 9).val) = .ok false :=
    (@ClientHandshake.checkVerifier_eq_ok Crypto.plain _ _ _).mpr ⟨rfl, rfl⟩
  have responded : @ClientHandshake.Responded Crypto.plain Identities.plain relayedFrame (.paired (plainKey 9).val)
      "phone" (plainKey 2) 5 relayedHello (@sign Identities.plain (plainKey 9) relayedHello.spell) (plainKey 2).val
      false :=
    @ClientHandshake.Responded.mk Crypto.plain Identities.plain _ _ _ _ _ _ _ _ _ (by decide +kernel) fits rfl bounded
      expected (by decide) signed known
  have answered := (@ClientHandshake.respond_eq_ok Crypto.plain Identities.plain relayedFrame (.paired (plainKey 9).val)
    "phone" (plainKey 2) "QrNetworkTransport" 5 (plainKey 4) _ _).mpr
      ⟨relayedHello, _, (plainKey 2).val, false, responded, rfl, rfl⟩
  have accepted := @answer_accepted Identities.plain plain_lawful plainBootstrap (plainKey 1).val (plainKey 2).val
    (plainKey 3) (plainKey 4) (plainKey 2) "phone" false plainBootstrap_valid (by decide +kernel) known
    (.paired "phone" (plainKey 2).val) (Or.inr rfl) _ rfl
  have finished := (@PendingServerHandshake.finish_eq_ok Crypto.plain Identities.plain _ _ _ "QrNetworkTransport" _).mpr
    ⟨_, _, _, accepted, rfl⟩
  exact ⟨_, _, _, vouched_begun _, answered, finished, rfl, by decide⟩

/-- Two keys that have each signed one message. -/
def noted (key message : Bytes) : Bool :=
  key = (plainKey 1).val && message = plainServerHello.spell || key = (plainKey 2).val && message = plainAnswer.spell

def notedServer : @ServerRun Crypto.plain (Identities.vouched noted) :=
  @ServerRun.mk Crypto.plain (Identities.vouched noted) plainBootstrap (plainKey 1) (plainKey 3) _ _ (vouched_begun noted)

def notedClient : @ClientRun Crypto.plain (Identities.vouched noted) :=
  @ClientRun.mk Crypto.plain (Identities.vouched noted) (vouchedHello noted) (.scanned plainBootstrap) "phone"
    (plainKey 2) "QrNetworkTransport" 5 (plainKey 4) _ _ (vouched_responded noted (by decide +kernel))

theorem noted_signed : @ClientRun.Signed Crypto.plain (Identities.vouched noted) notedClient plainServerHello plainAnswer := by
  have vouched : noted (plainKey 1).val plainServerHello.spell = true := by decide +kernel
  have accepted : @verify (Identities.vouched noted) plainServerHello.identitySpki plainServerHello.spell
      (@sign (Identities.vouched noted) (plainKey 1) plainServerHello.spell) = .ok () :=
    vouched_verify.mpr ⟨vouched, rfl⟩
  exact @ClientRun.Signed.mk Crypto.plain (Identities.vouched noted) notedClient plainServerHello plainAnswer rfl
    ⟨_, rfl, accepted⟩ (by decide) rfl rfl ⟨(plainKey 2).val, true, rfl, rfl, rfl⟩

theorem noted_unforgeable :
    @Unforgeable Crypto.plain (Identities.vouched noted) (· = notedServer) (· = notedClient) (plainKey 2).val := by
  refine @Unforgeable.mk Crypto.plain (Identities.vouched noted) _ _ _ ?_
  intro message signature signed
  obtain ⟨vouched, _⟩ := vouched_verify.mp signed
  have differ : (plainKey 2).val ≠ (plainKey 1).val := by decide
  have answer : message = plainAnswer.spell := by
    simpa [noted, differ] using vouched
  exact Or.inr ⟨notedClient, plainServerHello, plainAnswer, rfl, rfl, noted_signed, answer.symm⟩

theorem noted_finished :
    @PendingServerHandshake.finish Crypto.plain (Identities.vouched noted) (vouchedStart noted) (vouchedFrame noted)
        .pairing "QrNetworkTransport" =
      .ok (@PendingServerHandshake.outcome Crypto.plain (Identities.vouched noted) (vouchedStart noted) plainAnswer true
        "QrNetworkTransport") := by
  have fits : plainAnswer.Fits := ⟨by decide +kernel, by decide +kernel, by decide +kernel, by decide +kernel⟩
  have bounded : (vouchedFrame noted).length ≤ maxHandshakeFrame := by
    have length : (vouchedFrame noted).length = (vouchedFrame fun _ _ => true).length := rfl
    rw [length]
    decide +kernel
  have echoed : @PendingServerHandshake.Echoed (Identities.vouched noted) (vouchedStart noted) plainAnswer :=
    @PendingServerHandshake.Echoed.mk (Identities.vouched noted) (vouchedStart noted) plainAnswer rfl rfl rfl rfl rfl
  have vouched : noted (plainKey 2).val plainAnswer.spell = true := by decide +kernel
  have signed : @verify (Identities.vouched noted) plainAnswer.identitySpki plainAnswer.spell
      (@sign (Identities.vouched noted) (plainKey 2) plainAnswer.spell) = .ok () := vouched_verify.mpr ⟨vouched, rfl⟩
  have ended := @PendingServerHandshake.Finished.mk (Identities.vouched noted) (vouchedStart noted) (vouchedFrame noted)
    .pairing plainAnswer _ true fits rfl bounded echoed rfl signed
  exact (@PendingServerHandshake.finish_eq_ok Crypto.plain (Identities.vouched noted) _ _ _ _ _).mpr
    ⟨_, _, _, ended, rfl⟩

theorem noted_agreed :
    ∃ run server client,
      @ClientRun.Signed Crypto.plain (Identities.vouched noted) run server client ∧
      @Agreed Crypto.plain (Identities.vouched noted) (vouchedStart noted)
        (@PendingServerHandshake.outcome Crypto.plain (Identities.vouched noted) (vouchedStart noted) plainAnswer true
          "QrNetworkTransport") run server client := by
  obtain ⟨client, _, agreement⟩ := (@handshake_sound Crypto.plain (Identities.vouched noted) (· = notedServer)
    (· = notedClient)).1 _ _ _ _ _ noted_finished
  obtain ⟨run, server, _, signs, agreed⟩ := agreement noted_unforgeable
  exact ⟨run, server, client, signs, agreed⟩

end BioAuth.Session
