import BioAuth.Agent.QrNetwork
import BioAuth.Session.HandshakeEnds
import BioAuth.Session.HandshakeSound

namespace BioAuth.Agent
open BioAuth
open BioAuth.Protocol (Enrolment)
open BioAuth.Session (HandshakeOutcome Identities PendingServerHandshake SecureChannel ServerBootstrap)

variable [Crypto] [Identities]

namespace Serving

/-- What a greeting leads to. -/
theorem greet_eq_ok {shared : Shared} {env : Surroundings} {armed : Option ServerBootstrap} {serving : Serving}
    (greeted : greet shared env armed = .ok serving) :
    ∃ pending, serving = .greeted armed pending ∧ (∀ bootstrap, armed = some bootstrap → pending.bootstrap = bootstrap) ∧
      (armed = none → pending.bootstrap.expiresAtMs = Verifier.saturatingAdd env.nowMs Session.defaultLifetimeMs) := by
  simp only [greet, except_bind_eq_ok, except_pure_eq_ok, Prod.exists] at greeted
  obtain ⟨bootstrap, chosen, pending, hello, begun, _, _, same⟩ := greeted
  obtain ⟨_, _, _, _, started, _⟩ := PendingServerHandshake.begin_eq_ok.mp (except_mapError_eq_ok.mp begun)
  have carried : pending.bootstrap = bootstrap := by rw [started]; rfl
  refine ⟨pending, same.symm, ?_, ?_⟩
  · intro code here
    rw [here] at chosen
    cases chosen
    exact carried
  · intro nothing
    rw [nothing] at chosen
    unfold bootstrapFor at chosen
    have drawn := except_mapError_eq_ok.mp chosen
    simp only [ServerBootstrap.new, ServerBootstrap.forPurpose, except_bind_eq_ok, except_pure_eq_ok] at drawn
    obtain ⟨_, _, _, _, rfl⟩ := drawn
    rw [carried]
    rfl

omit [Crypto] in
theorem hear_eq_ok {env : Surroundings} {armed : Option ServerBootstrap} {pending : PendingServerHandshake}
    {serving : Serving} (heard : hear env armed pending = .ok serving) :
    ∃ clientFrame claimed, serving = .answered armed pending clientFrame claimed := by
  simp only [hear, except_bind_eq_ok, except_pure_eq_ok] at heard
  obtain ⟨clientFrame, _, claimed, _, same⟩ := heard
  exact ⟨clientFrame, claimed, same.symm⟩

/-- The peer is a phone the listener knows, under its own key. -/
def Known (peers : Peers) (outcome : HandshakeOutcome) : Prop :=
  peers.get? outcome.peerDeviceId = some outcome.peerIdentitySpki

/-- A stranger goes on to enrol, and does so only under a code. A known phone may. -/
theorem meet_eq_ok {peers : Peers} {armed : Option ServerBootstrap} {pending : PendingServerHandshake}
    {clientFrame : Bytes} {claimed : String} {serving : Serving}
    (met : meet (peers.get? claimed) armed pending clientFrame claimed = .ok serving) :
    ∃ expectation outcome, pending.finish clientFrame expectation transportName = .ok outcome ∧
      (serving = .attaching outcome ∧ Known peers outcome ∨
        armed.isSome = true ∧ ∃ declared, serving = .enrolling armed outcome declared ∧
          (declared = false → Known peers outcome) ∧
          (declared = true → peers.get? claimed = none ∨ outcome.intent = some .pair)) := by
  simp only [meet, except_bind_eq_ok] at met
  obtain ⟨outcome, finished, next⟩ := met
  have shape : ∃ expectation, pending.finish clientFrame expectation transportName = .ok outcome ∧
      (outcome.wasPairing = true → armed.isSome = true ∧ peers.get? claimed = none) ∧
        (¬outcome.wasPairing = true → Known peers outcome) := by
    rcases stored : peers.get? claimed with _ | identitySpki <;> rw [stored] at finished
    · rcases armed with _ | bootstrap
      · cases finished
      · have run := except_mapError_eq_ok.mp finished
        refine ⟨.pairing, run, fun _ => ⟨rfl, rfl⟩, fun resumed => ?_⟩
        obtain ⟨client, signature, wasPairing, shape, rfl⟩ := PendingServerHandshake.finish_eq_ok.mp run
        exact absurd (PendingServerHandshake.checkPeer_eq_ok.mp shape.expected) resumed
    · have run := except_mapError_eq_ok.mp finished
      obtain ⟨client, signature, wasPairing, shape, rfl⟩ := PendingServerHandshake.finish_eq_ok.mp run
      obtain ⟨⟨device, key⟩, resumed⟩ := PendingServerHandshake.checkPeer_eq_ok.mp shape.expected
      refine ⟨_, run, fun pairing => absurd (resumed.symm.trans pairing) Bool.noConfusion, fun _ => ?_⟩
      change peers.get? client.deviceId = some client.identitySpki
      rw [device, key, stored]
  obtain ⟨expectation, run, under, known⟩ := shape
  refine ⟨expectation, outcome, run, ?_⟩
  by_cases pairing : outcome.wasPairing = true
  · rw [if_pos pairing] at next
    obtain ⟨code, stranger⟩ := under pairing
    exact Or.inr ⟨code, true, (Except.ok.inj next).symm, fun resumed => Bool.noConfusion resumed, fun _ => Or.inl stranger⟩
  · rw [if_neg pairing] at next
    by_cases code : armed.isSome = true
    · rw [if_pos code] at next
      rcases intent : outcome.intent with _ | _ | _ <;> rw [intent] at next
      · exact Or.inr ⟨code, false, (Except.ok.inj next).symm, fun _ => known pairing,
          fun paired => Bool.noConfusion paired⟩
      · exact Or.inl ⟨(Except.ok.inj next).symm, known pairing⟩
      · exact Or.inr ⟨code, true, (Except.ok.inj next).symm, fun resumed => Bool.noConfusion resumed, fun _ => Or.inr rfl⟩
    · rw [if_neg code] at next
      exact Or.inl ⟨(Except.ok.inj next).symm, known pairing⟩

theorem enrol_eq_ok {env : Surroundings} {armed : Option ServerBootstrap} {outcome : HandshakeOutcome} {declared : Bool}
    {serving : Serving} (enrolled : enrol env armed outcome declared = .ok serving) :
    serving = .attaching outcome ∧ declared = false ∨ ∃ channel enrolment, serving = .enrolled armed { outcome with channel } enrolment ∧
      ∀ bootstrap, armed = some bootstrap → enrolment.purpose = bootstrap.purpose := by
  rcases read : env.read with error | record <;> simp only [enrol, read] at enrolled
  · by_cases silent : (!declared && IoError.timeout error) = true
    · rw [if_pos silent] at enrolled
      rw [Bool.and_eq_true, Bool.not_eq_true'] at silent
      exact Or.inl ⟨(Except.ok.inj enrolled).symm, silent.1⟩
    · rw [if_neg silent] at enrolled
      cases enrolled
  · simp only [except_bind_eq_ok, except_require_eq_ok, except_pure_eq_ok, exists_const] at enrolled
    obtain ⟨_, _, enrolment, _, purpose, same⟩ := enrolled
    exact Or.inr ⟨_, enrolment, same.symm, purpose⟩

theorem attach_eq_ok {env : Surroundings} {outcome : HandshakeOutcome} {serving : Serving}
    (attached : attach env outcome = .ok serving) :
    ∃ channel credentialId, serving = .attached { outcome with channel } credentialId := by
  rcases read : env.read with error | record <;> simp only [attach, read] at attached
  · by_cases silent : IoError.timeout error = true
    · rw [if_pos silent] at attached
      exact ⟨outcome.channel, none, (Except.ok.inj attached).symm⟩
    · rw [if_neg silent] at attached
      cases attached
  · simp only [except_bind_eq_ok, except_require_eq_ok, except_pure_eq_ok, exists_const] at attached
    obtain ⟨_, _, _, found, _, same⟩ := attached
    exact ⟨_, _, same.symm⟩

/-- Everything a step of a connection can lead to. -/
inductive Goes (env : Surroundings) (state : QrState) : Serving → Serving → Prop
  | greet {pending : PendingServerHandshake} :
    (∀ bootstrap, state.armedPairing = some bootstrap → pending.bootstrap = bootstrap) →
      (state.armedPairing = none →
        pending.bootstrap.expiresAtMs = Verifier.saturatingAdd env.nowMs Session.defaultLifetimeMs) →
        Goes env state .accepted (.greeted state.armedPairing pending)
  | hear {armed pending clientFrame claimed} :
    Goes env state (.greeted armed pending) (.answered armed pending clientFrame claimed)
  | resume {armed pending clientFrame claimed expectation outcome} :
    PendingServerHandshake.finish pending clientFrame expectation transportName = .ok outcome →
      Known state.knownPeers outcome → Goes env state (.answered armed pending clientFrame claimed) (.attaching outcome)
  | pair {bootstrap pending clientFrame claimed expectation outcome declared} :
    PendingServerHandshake.finish pending clientFrame expectation transportName = .ok outcome →
      (declared = false → Known state.knownPeers outcome) →
      (declared = true → state.knownPeers.get? claimed = none ∨ outcome.intent = some .pair) →
        Goes env state (.answered (some bootstrap) pending clientFrame claimed)
          (.enrolling (some bootstrap) outcome declared)
  | silent {armed outcome} : Goes env state (.enrolling armed outcome false) (.attaching outcome)
  | enrol {armed outcome declared channel enrolment} :
    enrol env armed outcome declared = .ok (.enrolled armed { outcome with channel } enrolment) →
      (∀ bootstrap, armed = some bootstrap → enrolment.purpose = bootstrap.purpose) →
        Goes env state (.enrolling armed outcome declared) (.enrolled armed { outcome with channel } enrolment)
  | propose {armed outcome enrolment} : Goes env state (.enrolled armed outcome enrolment) (.ended (.ok ()))
  | attach {outcome channel credentialId} :
    Goes env state (.attaching outcome) (.attached { outcome with channel } credentialId)
  | park {outcome credentialId} : Goes env state (.attached outcome credentialId) (.ended (.ok ()))
  | fail {serving error} : Goes env state serving (.failed error)
  | record {error} : Goes env state (.failed error) (.ended (.error error))
  | rest {result} : Goes env state (.ended result) (.ended result)

theorem Goes.settled {env : Surroundings} {state : QrState} {serving : Serving} {result : Except ConnectionError Serving}
    (passed : ∀ next, result = .ok next → Goes env state serving next) :
    Goes env state serving (Serving.settled result) := by
  cases result with
  | ok next => exact passed next rfl
  | error error => exact .fail

theorem goes (shared : Shared) (stream : TcpStream) (env : Surroundings) (state : QrState) (serving : Serving) :
    Goes env state serving (serveConnection shared stream env state serving).2 := by
  cases serving with
  | accepted =>
    refine Goes.settled fun next run => ?_
    obtain ⟨pending, rfl, carried, drawn⟩ := greet_eq_ok run
    exact .greet carried drawn
  | greeted armed pending =>
    refine Goes.settled fun next run => ?_
    obtain ⟨clientFrame, claimed, rfl⟩ := hear_eq_ok run
    exact .hear
  | answered armed pending clientFrame claimed =>
    refine Goes.settled fun next run => ?_
    obtain ⟨expectation, outcome, finished, ⟨rfl, known⟩ | ⟨code, declared, rfl, known, pairs⟩⟩ := meet_eq_ok run
    · exact .resume finished known
    · obtain ⟨bootstrap, rfl⟩ := Option.isSome_iff_exists.mp code
      exact .pair finished known pairs
  | enrolling armed outcome declared =>
    refine Goes.settled fun next run => ?_
    rcases enrol_eq_ok run with ⟨rfl, rfl⟩ | ⟨channel, enrolment, rfl, purpose⟩
    · exact .silent
    · exact .enrol run purpose
  | enrolled armed outcome enrolment => exact .propose
  | attaching outcome =>
    refine Goes.settled fun next run => ?_
    obtain ⟨channel, credentialId, rfl⟩ := attach_eq_ok run
    exact .attach
  | attached outcome credentialId => exact .park
  | failed error => exact .record
  | ended result => exact .rest

omit [Crypto] in
/-- The phone a connection is to be parked for. -/
def peer : Serving → Option String
  | .enrolling _ outcome false => some outcome.peerDeviceId
  | .attaching outcome => some outcome.peerDeviceId
  | .attached outcome _ => some outcome.peerDeviceId
  | _ => none

/-- A connection gets the phone it is to be parked for from the peers that are known then. -/
theorem Goes.peer {env : Surroundings} {state : QrState} {serving next : Serving} (goes : Goes env state serving next)
    {deviceId : String} (here : next.peer = some deviceId) :
    serving.peer = some deviceId ∨ (state.knownPeers.get? deviceId).isSome = true := by
  cases goes with
  | resume _ known =>
    rw [← Option.some.inj here, known]
    exact Or.inr rfl
  | @pair bootstrap pending clientFrame claimed expectation outcome declared _ known _ =>
    cases declared with
    | false =>
      rw [← Option.some.inj here, known rfl]
      exact Or.inr rfl
    | true => cases here
  | silent | attach => exact Or.inl here
  | greet | hear | enrol | propose | park | fail | record | rest => cases here

section Steps
variable (shared : Shared) (stream : TcpStream) (env : Surroundings) (state : QrState) (serving : Serving)

/-- A session that is parked was parked before, or the connection parks it for its phone. -/
theorem sessions_after {entry : SessionKey × ParkedSession}
    (here : entry ∈ (serveConnection shared stream env state serving).1.sessions.entries) :
    entry ∈ state.sessions.entries ∨ ∃ outcome credentialId, serving = .attached outcome credentialId ∧
      entry.1.1 = outcome.peerDeviceId := by
  cases serving with
  | attached outcome credentialId =>
    obtain ⟨rest, fewer, whole⟩ := Sessions.park_entries shared.idleTimeout env.moment (outcome.peerDeviceId, credentialId)
      ⟨outcome.channel, stream.number, origin stream, env.moment.now⟩ state.sessions
    have member := whole ▸ here
    rcases List.mem_cons.mp member with rfl | old
    · exact Or.inr ⟨outcome, credentialId, rfl, rfl⟩
    · exact Or.inl (fewer.subset old)
  | accepted | greeted | answered | enrolling | enrolled | attaching | failed | ended => exact Or.inl here

theorem knownPeers_after : (serveConnection shared stream env state serving).1.knownPeers = state.knownPeers := by
  cases serving <;> rfl

end Steps

end Serving

end BioAuth.Agent

namespace BioAuth.Agent
open BioAuth.Session (ClientHello HandshakeOutcome Identities PeerExpectation PendingServerHandshake Short decodeClientHello
  decodeEnvelope encodeClientHello envelope)

/-- The frame up to its body. -/
def readUnsigned : Parse CborError Bytes := do
  let _ ← Reader.array
  Reader.bytes

/-- The body up to its device id. -/
def readClaimed : Parse CborError String := do
  let _ ← Reader.array
  let _ ← Reader.uint
  let _ ← Reader.uint
  let _ ← Reader.text
  let _ ← Reader.bytes
  let _ ← Reader.text
  let _ ← Reader.int
  Reader.text

theorem peekDeviceId_eq (frame : Bytes) :
    peekDeviceId frame = (readUnsigned frame).1 >>= fun unsigned => (readClaimed unsigned).1 := rfl

theorem readUnsigned_envelope {unsigned : Bytes} (short : Short unsigned) (signature : Bytes) :
    readUnsigned (envelope unsigned signature) = (.ok unsigned, Writer.bytes signature) := by
  simp only [readUnsigned, Reader.array_spells.bind_eq_ok, Reader.bytes_spells _ _ _, envelope]
  exact ⟨2, _, ⟨trivial, List.append_assoc ..⟩, short, rfl⟩

/-- The id stands where both versions of a hello have it. -/
theorem readClaimed_spell {client : ClientHello} (fits : client.Fits) :
    ∃ rest, readClaimed client.spell = (.ok client.deviceId, rest) := by
  simp only [readClaimed, Reader.array_spells.bind_eq_ok, Reader.uint_spells.bind_eq_ok, Reader.text_spells.bind_eq_ok,
    Reader.bytes_spells.bind_eq_ok, Reader.int_spells.bind_eq_ok, Reader.text_spells _ _ _, true_and]
  refine ⟨Writer.bytes client.serverEphemeral.val ++ (Writer.bytes client.ephemeral.val ++ (Writer.bytes client.identitySpki ++
      (client.intent.map fun intent => Writer.uint intent.wire).getD [])),
    if client.intent.isSome then 11 else 10, _, by simp only [ClientHello.spell, List.append_assoc],
    Session.clientHelloType, _, rfl, if client.intent.isSome then Session.versionWithIntent else Session.version, _, rfl,
    client.sessionId, _, ⟨fits.sessionId, rfl⟩, client.nonce.val, _, ⟨Short.block client.nonce (by decide), rfl⟩,
    client.verifierId, _, ⟨fits.verifierId, rfl⟩, client.expiresAtMs, _, rfl, fits.deviceId, rfl⟩

theorem peekDeviceId_envelope {client : ClientHello} (fits : client.Fits) {signature : Bytes}
    (short : Short client.spell) : peekDeviceId (envelope client.spell signature) = .ok client.deviceId := by
  obtain ⟨rest, claimed⟩ := readClaimed_spell fits
  rw [peekDeviceId_eq, except_bind_eq_ok]
  exact ⟨client.spell, by rw [readUnsigned_envelope short], by rw [claimed]⟩

theorem short_of_bounded {unsigned signature : Bytes} (bounded : (envelope unsigned signature).length ≤ Session.maxHandshakeFrame) :
    Short unsigned := by
  have most : Session.maxHandshakeFrame = 8192 := rfl
  simp only [envelope, Writer.bytes, List.length_append] at bounded
  unfold Short
  omega

theorem encodeClientHello_spell {client : ClientHello} {intent : Session.PairingIntent} (carries : client.intent = some intent) :
    encodeClientHello client.sessionId client.nonce client.verifierId client.expiresAtMs client.deviceId
      client.serverEphemeral client.ephemeral client.identitySpki intent = client.spell := by
  simp only [ClientHello.spell, carries, Option.isSome_some, if_true, Option.map_some, Option.getD_some]
  rfl

/-- A hello that is accepted has the id it was looked up by, and is spelled in the one way it can be. -/
theorem peeked_id_is_decoded [Crypto] [Identities] :
    (∀ frame unsigned signature client, decodeEnvelope frame = .ok (unsigned, signature) →
      decodeClientHello unsigned = .ok client →
        peekDeviceId frame = .ok client.deviceId ∧ envelope unsigned signature = frame ∧ client.spell = unsigned ∧
        ∀ intent, client.intent = some intent →
          encodeClientHello client.sessionId client.nonce client.verifierId client.expiresAtMs client.deviceId
            client.serverEphemeral client.ephemeral client.identitySpki intent = unsigned) ∧
    ∀ (pending : PendingServerHandshake) frame expectation transportName outcome,
      pending.finish frame expectation transportName = .ok outcome → peekDeviceId frame = .ok outcome.peerDeviceId := by
  constructor
  · intro frame unsigned signature client framed decoded
    obtain ⟨bounded, rfl⟩ := Session.decodeEnvelope_eq_ok.mp framed
    obtain ⟨fits, rfl⟩ := Session.decodeClientHello_eq_ok.mp decoded
    exact ⟨peekDeviceId_envelope fits (short_of_bounded bounded), rfl, rfl, fun _ => encodeClientHello_spell⟩
  · intro pending frame expectation transportName outcome run
    obtain ⟨client, signature, wasPairing, finished, rfl⟩ := PendingServerHandshake.finish_eq_ok.mp run
    have bounded := finished.bounded
    rw [finished.framed] at bounded ⊢
    exact peekDeviceId_envelope finished.fits (short_of_bounded bounded)

theorem peeked_id_is_decoded_noted :
    peekDeviceId (Session.vouchedFrame Session.noted) = .ok Session.plainAnswer.deviceId :=
  (@peeked_id_is_decoded Crypto.plain (Identities.vouched Session.noted)).2 _ _ _ _ _ Session.noted_finished

end BioAuth.Agent
