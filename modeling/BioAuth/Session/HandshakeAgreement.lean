import BioAuth.Session.HandshakeEnds

namespace BioAuth.Session
open BioAuth Identities

/-- What the handshake takes for granted of its primitives: both ends of a Diffie-Hellman exchange compute one secret,
an identity's signatures verify under its public key, and P-256 encodings are as short as they are. -/
structure Lawful (_ : Identities) : Prop where
  commutes : ∀ a b : StaticSecret, diffieHellman a (publicKey b) = diffieHellman b (publicKey a)
  verifies : ∀ (identity : IdentityKey) spki, toPublicKeyDer identity = some spki → ∀ message,
    verify spki message (sign identity message) = .ok ()
  spkiLength : ∀ (identity : IdentityKey) spki, toPublicKeyDer identity = some spki → spki.length ≤ 91
  signatureLength : ∀ (identity : IdentityKey) message, (sign identity message).length ≤ 72

/-- Identities whose signature is the key and the front of the message, good for what is vouched for, and an
exchange that adds. -/
abbrev Identities.vouched (vouches : Bytes → Bytes → Bool) : Identities where
  IdentityKey := Block 32
  VerifyingKey := Bytes
  DerSignature := Bytes
  StaticSecret := Block 32
  toPublicKeyDer key := some key.val
  sign key message := key.val ++ message.take 32
  fromPublicKeyDer spki := some spki
  fromDer signature := some signature
  verifies key message signature := vouches key message && signature = key ++ message.take 32
  publicKey secret := secret
  diffieHellman secret received := ⟨List.zipWith (· + ·) secret.val received.val, by
    rw [List.length_zipWith, secret.property, received.property, min_self]⟩

abbrev Identities.plain : Identities := Identities.vouched fun _ _ => true

theorem vouched_verify {vouches : Bytes → Bytes → Bool} {spki message signature : Bytes} {u : Unit} :
    @verify (Identities.vouched vouches) spki message signature = .ok u ↔
      vouches spki message = true ∧ signature = spki ++ message.take 32 := by
  have checked : @verify (Identities.vouched vouches) spki message signature =
      require ((vouches spki message && decide (signature = spki ++ message.take 32)) = true)
        SessionError.signature := rfl
  rw [checked, except_require_eq_ok, Bool.and_eq_true, decide_eq_true_iff]

theorem plain_lawful : Lawful Identities.plain where
  commutes a b := by
    apply Subtype.ext
    exact List.zipWith_comm_of_comm fun x y => UInt8.add_comm x y
  verifies identity spki known message := by
    cases known
    exact vouched_verify.mpr ⟨rfl, rfl⟩
  spkiLength identity spki known := by
    cases known
    exact identity.property.le.trans (by decide)
  signatureLength identity message := by
    have front := List.length_take_le 32 message
    have length := identity.property
    simp only [sign, List.length_append]
    omega

section Agreement
variable [Crypto] [identities : Identities]

/-- The two ends of a handshake that agree. -/
structure Agrees (server client : HandshakeOutcome) (deviceId : String) (spki : Bytes) : Prop where
  binding : server.channel.binding = client.channel.binding
  code : server.verificationCode = client.verificationCode
  outgoing : server.channel.send = client.channel.receive
  incoming : server.channel.receive = client.channel.send
  deviceId : server.peerDeviceId = deviceId
  identity : server.peerIdentitySpki = spki
  intent : server.intent = client.intent

omit [Crypto] identities in
/-- A hello of bounded fields is far below the frame limit. -/
theorem ClientHello.spell_length_le {hello : ClientHello} (session : (utf8 hello.sessionId).length ≤ 64)
    (verifier : (utf8 hello.verifierId).length ≤ 64) (device : (utf8 hello.deviceId).length ≤ 64)
    (spki : hello.identitySpki.length ≤ 91) : hello.spell.length ≤ 600 := by
  have header : (Writer.array (if hello.intent.isSome then 11 else 10)).length ≤ 9 := Writer.head_length_le _ _
  have kind : (Writer.uint clientHelloType).length ≤ 9 := Writer.head_length_le _ _
  have spoken : (Writer.uint (if hello.intent.isSome then versionWithIntent else version)).length ≤ 9 :=
    Writer.head_length_le _ _
  have sessionId := Writer.text_length_le hello.sessionId
  have nonce := Writer.bytes_length_le hello.nonce.val
  have verifierId := Writer.text_length_le hello.verifierId
  have expiry := Writer.int_length_le hello.expiresAtMs
  have deviceId := Writer.text_length_le hello.deviceId
  have serverEphemeral := Writer.bytes_length_le hello.serverEphemeral.val
  have ephemeral := Writer.bytes_length_le hello.ephemeral.val
  have identitySpki := Writer.bytes_length_le hello.identitySpki
  have intent : ((hello.intent.map fun intent => Writer.uint intent.wire).getD []).length ≤ 9 := by
    cases hello.intent with
    | none => exact Nat.zero_le _
    | some intent => exact Writer.head_length_le _ _
  rw [hello.nonce.property] at nonce
  rw [hello.serverEphemeral.property] at serverEphemeral
  rw [hello.ephemeral.property] at ephemeral
  simp only [ClientHello.spell, List.length_append]
  omega

omit [Crypto] identities in
theorem envelope_length_le (unsigned signature : Bytes) :
    (envelope unsigned signature).length ≤ 27 + unsigned.length + signature.length := by
  have header : (Writer.array 2).length ≤ 9 := Writer.head_length_le _ _
  have first := Writer.bytes_length_le unsigned
  have second := Writer.bytes_length_le signature
  simp only [envelope, List.length_append]
  omega

/-- The hello the phone reads is the one the verifier sent. -/
theorem responded_hello (lawful : Lawful identities) {bootstrap : ServerBootstrap} {serverIdentity : IdentityKey}
    {serverSecret : StaticSecret} {pending : PendingServerHandshake} {hello : Bytes}
    (begun : PendingServerHandshake.begin bootstrap serverIdentity serverSecret = .ok (pending, hello))
    {expectation : VerifierExpectation} {deviceId : String} {identity : IdentityKey} {nowMs : Int64}
    {server : ServerHello} {signature spki : Bytes} {wasPairing : Bool}
    (responded : ClientHandshake.Responded hello expectation deviceId identity nowMs server signature spki wasPairing) :
    ∃ serverSpki, bootstrap.validate = .ok () ∧ toPublicKeyDer serverIdentity = some serverSpki ∧
      pending = PendingServerHandshake.start bootstrap serverSpki serverSecret ∧
      server = PendingServerHandshake.hello bootstrap serverSpki (publicKey serverSecret) := by
  obtain ⟨serverSpki, valid, known, _, rfl, rfl⟩ := PendingServerHandshake.begin_eq_ok.mp begun
  have bounds := ServerBootstrap.validate_eq_ok.mp valid
  have short := lawful.spkiLength serverIdentity serverSpki known
  have sent := decodeEnvelope_eq_ok.mpr ⟨responded.bounded, rfl⟩
  have read := decodeEnvelope_eq_ok.mpr ⟨responded.bounded, responded.framed⟩
  rw [sent] at read
  have same : (PendingServerHandshake.hello bootstrap serverSpki (publicKey serverSecret)).spell = server.spell :=
    (Prod.mk.inj (Except.ok.inj read)).1
  have fits : (PendingServerHandshake.hello bootstrap serverSpki (publicKey serverSecret)).Fits :=
    { sessionId := by
        have bound := bounds.1.2
        simp only [Short, PendingServerHandshake.hello]
        omega
      verifierId := by
        have bound := bounds.2.1.2
        simp only [Short, PendingServerHandshake.hello]
        omega
      identitySpki := by
        simp only [Short, PendingServerHandshake.hello]
        omega }
  have ours := decodeServerHello_eq_ok.mpr ⟨fits, rfl⟩
  have theirs := decodeServerHello_eq_ok.mpr ⟨responded.fits, rfl⟩
  rw [same, theirs] at ours
  have hello := Except.ok.inj ours
  exact ⟨serverSpki, valid, known, rfl, hello⟩

/-- The two ends of a Diffie-Hellman exchange over one transcript derive the same keys. -/
theorem schedules_agree (lawful : Lawful identities) {bootstrap : ServerBootstrap} {serverSpki : Bytes}
    {serverSecret clientSecret : StaticSecret} {client : ClientHello}
    (exchange : client.ephemeral = publicKey clientSecret) :
    (PendingServerHandshake.start bootstrap serverSpki serverSecret).schedule client =
      ClientHandshake.schedule (PendingServerHandshake.hello bootstrap serverSpki (publicKey serverSecret)) client
        clientSecret := by
  unfold PendingServerHandshake.schedule ClientHandshake.schedule
  rw [exchange, show (PendingServerHandshake.start bootstrap serverSpki serverSecret).secret = serverSecret from rfl,
    lawful.commutes]
  rfl

omit [Crypto] in
/-- The verifier accepts what the phone answers. -/
theorem answer_accepted (lawful : Lawful identities) {bootstrap : ServerBootstrap} {serverSpki spki : Bytes}
    {serverSecret clientSecret : StaticSecret} {identity : IdentityKey} {deviceId : String} {wasPairing : Bool}
    (valid : bootstrap.validate = .ok ()) (device : (utf8 deviceId).length ≤ 64)
    (known : toPublicKeyDer identity = some spki) {expected : PeerExpectation}
    (matching : expected = .pairing ∨ expected = .paired deviceId spki) {client : ClientHello}
    (answered : client = ClientHandshake.answer
      (PendingServerHandshake.hello bootstrap serverSpki (publicKey serverSecret)) deviceId spki (publicKey clientSecret)
      wasPairing) :
    (PendingServerHandshake.start bootstrap serverSpki serverSecret).Finished
      (envelope client.spell (sign identity client.spell)) expected client (sign identity client.spell)
      (decide (expected = .pairing)) := by
  have bounds := ServerBootstrap.validate_eq_ok.mp valid
  have short := lawful.spkiLength identity spki known
  have session : (utf8 client.sessionId).length ≤ 64 := by
    rw [answered]
    exact bounds.1.2
  have verifier : (utf8 client.verifierId).length ≤ 64 := by
    rw [answered]
    exact bounds.2.1.2
  have sameDevice : client.deviceId = deviceId := by rw [answered]; rfl
  have sameSpki : client.identitySpki = spki := by rw [answered]; rfl
  rw [← sameDevice] at device
  rw [← sameSpki] at short
  exact {
    fits := ⟨session.trans_lt (by decide), verifier.trans_lt (by decide), device.trans_lt (by decide),
      short.trans_lt (by decide)⟩
    framed := rfl
    bounded := by
      have body := ClientHello.spell_length_le session verifier device short
      have signed := lawful.signatureLength identity client.spell
      have whole := envelope_length_le client.spell (sign identity client.spell)
      unfold maxHandshakeFrame
      omega
    echoed := by
      rw [answered]
      exact ⟨rfl, rfl, rfl, rfl, rfl⟩
    expected := by
      rw [PendingServerHandshake.checkPeer_eq_ok]
      rcases matching with pairing | paired
      · rw [pairing]
        rfl
      · rw [paired]
        exact ⟨⟨sameDevice, sameSpki⟩, by simp⟩
    signed := by
      rw [sameSpki]
      exact lawful.verifies identity spki known _ }

/-- Every answer to an honest hello completes the handshake, and both ends agree. -/
theorem handshake_completes (lawful : Lawful identities) {bootstrap : ServerBootstrap} {serverIdentity : IdentityKey}
    {serverSecret : StaticSecret} {pending : PendingServerHandshake} {hello : Bytes}
    (begun : PendingServerHandshake.begin bootstrap serverIdentity serverSecret = .ok (pending, hello))
    {expectation : VerifierExpectation} {deviceId : String} {clientIdentity : IdentityKey} {transportName : String}
    {nowMs : Int64} {clientSecret : StaticSecret} {frame : Bytes} {answered : HandshakeOutcome}
    (responded : ClientHandshake.respond hello expectation deviceId clientIdentity transportName nowMs clientSecret =
      .ok (frame, answered))
    {spki : Bytes} (known : publicKeySpki clientIdentity = .ok spki) {expected : PeerExpectation}
    (matching : expected = .pairing ∨ expected = .paired deviceId spki) :
    ∃ finished, pending.finish frame expected transportName = .ok finished ∧ Agrees finished answered deviceId spki ∧
      finished.intent.isSome ∧ finished.wasPairing = decide (expected = .pairing) := by
  obtain ⟨server, signature, spki', wasPairing, run, rfl, rfl⟩ := ClientHandshake.respond_eq_ok.mp responded
  obtain ⟨serverSpki, valid, _, rfl, rfl⟩ := responded_hello lawful begun run
  have same : spki' = spki := Option.some.inj (run.known.symm.trans (publicKeySpki_eq_ok.mp known))
  subst same
  obtain ⟨client, here⟩ : ∃ client, client = ClientHandshake.answer
      (PendingServerHandshake.hello bootstrap serverSpki (publicKey serverSecret)) deviceId spki'
      (publicKey clientSecret) wasPairing := ⟨_, rfl⟩
  have accepted := answer_accepted lawful valid run.device.2 run.known matching here
  have exchange : client.ephemeral = publicKey clientSecret := by
    rw [here]
    rfl
  have schedules : (PendingServerHandshake.start bootstrap serverSpki serverSecret).schedule client = _ :=
    schedules_agree lawful exchange
  rw [← here]
  refine ⟨_, PendingServerHandshake.finish_eq_ok.mpr ⟨_, _, _, accepted, rfl⟩, ?_, by rw [here]; rfl, rfl⟩
  exact {
    binding := by
      simp only [PendingServerHandshake.outcome, ClientHandshake.outcome, SecureChannel.new, schedules]
      rfl
    code := by
      simp only [PendingServerHandshake.outcome, ClientHandshake.outcome, schedules]
    outgoing := by
      simp only [PendingServerHandshake.outcome, ClientHandshake.outcome, SecureChannel.new, schedules]
    incoming := by
      simp only [PendingServerHandshake.outcome, ClientHandshake.outcome, SecureChannel.new, schedules]
    deviceId := by rw [here]; rfl
    identity := by rw [here]; rfl
    intent := rfl }

end Agreement

/-- A key of one octet, over and over. -/
def plainKey (octet : UInt8) : Block 32 := ⟨List.replicate 32 octet, List.length_replicate⟩

/-- A code on screen for the verifier whose key is all ones. -/
def plainBootstrap : ServerBootstrap where
  sessionId := "s"
  nonce := plainKey 7
  verifierId := "desktop"
  verifierIdentityHash := @hashIdentity Crypto.plain (plainKey 1).val
  endpoint := ""
  expiresAtMs := 1000
  purpose := .authorization

theorem plainBootstrap_valid : plainBootstrap.validate = .ok () := by decide +kernel

/-- The hello the verifier sends and the phone reads. -/
def plainServerHello : ServerHello :=
  PendingServerHandshake.hello plainBootstrap (plainKey 1).val (plainKey 3)

def plainAnswer : ClientHello :=
  ClientHandshake.answer plainServerHello "phone" (plainKey 2).val (plainKey 4) true

section Vouched
variable (vouches : Bytes → Bytes → Bool)

def vouchedStart : @PendingServerHandshake (Identities.vouched vouches) :=
  @PendingServerHandshake.start (Identities.vouched vouches) plainBootstrap (plainKey 1).val (plainKey 3)

def vouchedHello : Bytes :=
  envelope plainServerHello.spell (@sign (Identities.vouched vouches) (plainKey 1) plainServerHello.spell)

def vouchedFrame : Bytes :=
  envelope plainAnswer.spell (@sign (Identities.vouched vouches) (plainKey 2) plainAnswer.spell)

def vouchedAnswered : HandshakeOutcome :=
  @ClientHandshake.outcome Crypto.plain (Identities.vouched vouches) plainServerHello plainAnswer (plainKey 4) true
    "QrNetworkTransport"

theorem vouched_begun :
    @PendingServerHandshake.begin Crypto.plain (Identities.vouched vouches) plainBootstrap (plainKey 1) (plainKey 3) =
      .ok (vouchedStart vouches, vouchedHello vouches) := by
  have known : @toPublicKeyDer (Identities.vouched vouches) (plainKey 1) = some (plainKey 1).val := rfl
  have commits : plainBootstrap.verifierIdentityHash = @hashIdentity Crypto.plain (plainKey 1).val := by
    rw [plainBootstrap]
  have sent : vouchedHello vouches =
      envelope (@PendingServerHandshake.serverUnsigned (Identities.vouched vouches) (vouchedStart vouches))
        (@sign (Identities.vouched vouches) (plainKey 1)
          (@PendingServerHandshake.serverUnsigned (Identities.vouched vouches) (vouchedStart vouches))) := by
    rw [vouchedHello, plainServerHello]
    rfl
  exact (@PendingServerHandshake.begin_eq_ok Crypto.plain (Identities.vouched vouches) plainBootstrap (plainKey 1)
    (plainKey 3) (vouchedStart vouches) (vouchedHello vouches)).mpr
      ⟨(plainKey 1).val, plainBootstrap_valid, known, commits, rfl, sent⟩

theorem vouched_responded (signed : vouches (plainKey 1).val plainServerHello.spell = true) :
    @ClientHandshake.respond Crypto.plain (Identities.vouched vouches) (vouchedHello vouches) (.scanned plainBootstrap)
        "phone" (plainKey 2) "QrNetworkTransport" 5 (plainKey 4) =
      .ok (vouchedFrame vouches, vouchedAnswered vouches) := by
  have known : @toPublicKeyDer (Identities.vouched vouches) (plainKey 2) = some (plainKey 2).val := rfl
  have fits : plainServerHello.Fits := ⟨by decide +kernel, by decide +kernel, by decide +kernel⟩
  have bounded : (vouchedHello vouches).length ≤ maxHandshakeFrame := by
    have length : (vouchedHello vouches).length = (vouchedHello fun _ _ => true).length := rfl
    rw [length]
    decide +kernel
  have signed : @verify (Identities.vouched vouches) plainServerHello.identitySpki plainServerHello.spell
      (@sign (Identities.vouched vouches) (plainKey 1) plainServerHello.spell) = .ok () :=
    vouched_verify.mpr ⟨signed, rfl⟩
  have commits : @hashIdentity Crypto.plain plainServerHello.identitySpki = plainBootstrap.verifierIdentityHash := by
    rw [plainBootstrap, plainServerHello, PendingServerHandshake.hello]
  have expected : @ClientHandshake.checkVerifier Crypto.plain plainServerHello (.scanned plainBootstrap) = .ok true :=
    (@ClientHandshake.checkVerifier_eq_ok Crypto.plain _ _ _).mpr
      ⟨plainBootstrap_valid, ⟨rfl, rfl, rfl, rfl⟩, commits, rfl⟩
  have responded : @ClientHandshake.Responded Crypto.plain (Identities.vouched vouches) (vouchedHello vouches)
      (.scanned plainBootstrap) "phone" (plainKey 2) 5 plainServerHello
      (@sign (Identities.vouched vouches) (plainKey 1) plainServerHello.spell) (plainKey 2).val true :=
    @ClientHandshake.Responded.mk Crypto.plain (Identities.vouched vouches) _ _ _ _ _ _ _ _ _ (by decide +kernel) fits
      rfl bounded expected (by decide) signed known
  exact (@ClientHandshake.respond_eq_ok Crypto.plain (Identities.vouched vouches) _ _ _ _ _ _ _ _ _).mpr
    ⟨plainServerHello, _, (plainKey 2).val, true, responded, rfl, rfl⟩

end Vouched

theorem plain_completes :
    ∃ finished, @PendingServerHandshake.finish Crypto.plain Identities.plain (vouchedStart fun _ _ => true)
        (vouchedFrame fun _ _ => true) (.paired "phone" (plainKey 2).val) "QrNetworkTransport" = .ok finished ∧
      Agrees finished (vouchedAnswered fun _ _ => true) "phone" (plainKey 2).val ∧
      finished.intent.isSome ∧ finished.wasPairing = decide (PeerExpectation.paired "phone" (plainKey 2).val = .pairing) :=
  @handshake_completes Crypto.plain Identities.plain plain_lawful _ _ _ _ _ (vouched_begun _) _ _ _ _ _ _ _ _
    (vouched_responded _ rfl) (plainKey 2).val rfl _ (Or.inr rfl)

end BioAuth.Session
