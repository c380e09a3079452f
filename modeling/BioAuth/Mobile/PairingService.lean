import BioAuth.Mobile.Enrolment
import BioAuth.Mobile.PairingBootstrap
import BioAuth.Mobile.PairingStoreRuns
import BioAuth.Session.Handshake

namespace BioAuth.Mobile
open BioAuth
open BioAuth.Protocol (KeyKind CredentialPurpose)
open BioAuth.Session (hashIdentity)

inductive PairingProblem
  | notAPairingCode
  | codeExpired
  | noAddress
  | notPairing
  | unreachable
  | timedOut
  | failed

structure HandshakeException where
  message : String

/-- How a pairing attempt ends that does not start. -/
inductive PairingStop
  | pairing (problem : PairingProblem)
  | handshake (error : HandshakeException)
  | refused (refusal : Refusal)
  | enrolment (error : EnrolmentException)
  /-- Whatever the link, the secure hardware or the sending of the enrolment throws. -/
  | thrown

/-- The verifier's hello, as the phone decodes it. -/
structure VerifierHello where
  sessionId : String
  nonce : Bytes
  verifierId : String
  expiresAtMs : Int64
  identitySpki : Bytes
  ephemeral : Bytes

/-- Who the phone will accept as the verifier on the other end. -/
inductive VerifierExpectation
  | scanned (bootstrap : PairingBootstrap)
  | paired (identitySpki : Bytes)

structure SecureSessionOutcome where
  verifierIdentitySpki : Bytes
  verifierId : String
  sessionId : String
  verificationCode : String
  wasPairing : Bool

/-- An open link: what decoding its first frame brings, whether that is signed by the identity in it, and what becomes
of the phone's answer, the code of both where it is sent. -/
structure RawLink where
  hello : Except HandshakeException VerifierHello
  verified : Bool
  answer : VerifierHello → Bool → Except HandshakeException String

section Establish
variable [Crypto]

/-- Checks a first-contact hello against the scanned code. -/
def matchesBootstrap (server : VerifierHello) (bootstrap : PairingBootstrap) : Except HandshakeException Bool := do
  require (server.sessionId = bootstrap.sessionId ∧ server.verifierId = bootstrap.verifierId ∧
      server.expiresAtMs = bootstrap.expiresAtMs ∧ server.nonce = bootstrap.nonce)
    (HandshakeException.mk "server hello does not match the scanned code")
  require ((hashIdentity server.identitySpki).val = bootstrap.verifierIdentityHash)
    (HandshakeException.mk "server hello does not match the scanned code")
  return true

/-- Authenticates the verifier. It yields whether this is a first contact. -/
def VerifierExpectation.accept (server : VerifierHello) : VerifierExpectation → Except HandshakeException Bool
  | .paired identitySpki => do
    require (server.identitySpki = identitySpki) (HandshakeException.mk "verifier identity mismatch")
    return false
  | .scanned bootstrap => matchesBootstrap server bootstrap

/-- `AuthenticatedSessionEstablisher.establish`. -/
def establish (deviceId : String) (link : RawLink) (expectation : VerifierExpectation) (nowMs : Int64) :
    Except HandshakeException SecureSessionOutcome := do
  require (deviceId ≠ "" ∧ utf16Len deviceId ≤ 64) (HandshakeException.mk "invalid device identifier")
  let server ← link.hello
  let wasPairing ← expectation.accept server
  -- the deadline is inside the signed hello either way
  require (nowMs < server.expiresAtMs) (HandshakeException.mk "server hello has expired")
  require (link.verified = true) (HandshakeException.mk "verifier handshake signature is invalid")
  let verificationCode ← link.answer server wasPairing
  return {
    verifierIdentitySpki := server.identitySpki
    verifierId := server.verifierId
    sessionId := server.sessionId
    verificationCode
    wasPairing }

/-- A first contact that is established is with the verifier of the code. -/
theorem establish_scanned {deviceId : String} {link : RawLink} {bootstrap : PairingBootstrap} {nowMs : Int64}
    {outcome : SecureSessionOutcome} (run : establish deviceId link (.scanned bootstrap) nowMs = .ok outcome) :
    outcome.verifierId = bootstrap.verifierId := by
  simp only [establish, VerifierExpectation.accept, matchesBootstrap, except_bind_eq_ok, except_require_eq_ok,
    except_pure_eq_ok] at run
  obtain ⟨_, _, server, _, _, ⟨_, matched, _⟩, _, _, _, _, _, _, rfl⟩ := run
  exact matched.2.1

end Establish

/-- A handshake that awaits the user's comparison of the two codes. -/
structure PairingSession where
  verificationCode : String
  proposed : PairingRecord

/-- What a pairing uses: the link to an address, the secure hardware, and the clock when the code is read and when the
hello has come. -/
structure PairingService where
  deviceId : String
  deviceName : String
  openLink : String → String → Except PairingStop RawLink
  describe : CredentialPurpose → Except PairingStop (Bytes × String × KeyKind)
  send : Bytes → Except PairingStop Unit
  now : Moment
  heardAtMs : Int64

namespace PairingService
variable [Crypto]

/-- Dials the verifier of a code, and establishes the session. -/
def connect (service : PairingService) (transportId displayName : String) (expectation : VerifierExpectation) :
    Except PairingStop SecureSessionOutcome := do
  let link ← service.openLink transportId displayName
  (establish service.deviceId link expectation service.heardAtMs).mapError .handshake

/-- Runs the handshake and the enrolment for a scanned code. -/
def begin (service : PairingService) (scannedUri : String) : Except PairingStop PairingSession := do
  let bootstrap ← (PairingBootstrap.parse (trim scannedUri)).mapError fun _ => .pairing .notAPairingCode
  require (bootstrap.isExpiredAt (Int64.ofInt (service.now.val.tdiv 1000)) = false) (PairingStop.pairing .codeExpired)
  require (bootstrap.endpoint ≠ "") (PairingStop.pairing .noAddress)
  let outcome ← service.connect bootstrap.endpoint bootstrap.verifierId (.scanned bootstrap)
  require (outcome.wasPairing = true) (PairingStop.pairing .notPairing)
  let credentialId := credentialIdFor bootstrap.verifierId bootstrap.purpose
  let (publicKey, algorithm, keyKind) ← service.describe bootstrap.purpose
  let enrolment : Enrolment :=
    { protocolVersion := 1, deviceName := service.deviceName, credentialId, algorithm, publicKey, keyKind,
      purpose := bootstrap.purpose }
  enrolment.validate.mapError .enrolment
  let frame ← enrolment.encode.mapError .refused
  service.send frame
  return {
    verificationCode := outcome.verificationCode
    proposed := {
      verifierId := outcome.verifierId
      verifierIdentitySpki := outcome.verifierIdentitySpki
      endpoint := bootstrap.endpoint
      credentialId
      keyKind
      purpose := bootstrap.purpose
      pairedAt := service.now } }

end PairingService

/-- The credential of a record is named after its verifier and its purpose. -/
def PairingRecord.Named (record : PairingRecord) : Prop :=
  record.credentialId = credentialIdFor record.verifierId record.purpose

theorem PairingService.begin_named [Crypto] {service : PairingService} {scannedUri : String} {session : PairingSession}
    (run : service.begin scannedUri = .ok session) : session.proposed.Named := by
  simp only [begin, connect, except_bind_eq_ok, except_mapError_eq_ok, except_require_eq_ok, except_pure_eq_ok] at run
  obtain ⟨bootstrap, _, _, _, _, _, outcome, ⟨_, _, established⟩, _, _, ⟨publicKey, algorithm, keyKind⟩, _, rest⟩ := run
  obtain ⟨_, _, _, _, _, _, rfl⟩ := rest
  simp only [PairingRecord.Named, establish_scanned established]

section Stored

/-- One change of the stored records: a session that is confirmed, or a verifier that is removed. -/
inductive PairingChange
  | confirm (session : PairingSession)
  | remove (verifierId : String)

/-- `PairingSession.confirm` saves what the session proposes. -/
def PairingChange.call : PairingChange → PairingCall
  | confirm session => .save session.proposed
  | remove verifierId => .remove verifierId

/-- The sessions of the changes were begun by a service each. -/
def PairingChange.Begun [Crypto] : PairingChange → Prop
  | confirm session => ∃ (service : PairingService) (scannedUri : String), service.begin scannedUri = .ok session
  | remove _ => True

/-- The records there are after some changes. -/
def recordsAfter (changes : List PairingChange) : List PairingRecord :=
  changes.foldl (fun records change => change.call.apply records) []

theorem movedTo_named {existing fresh : PairingRecord} (named : existing.Named) : (PairingStore.movedTo existing fresh).Named := by
  unfold PairingStore.movedTo
  split
  · exact named
  · exact named

theorem apply_named [Crypto] {change : PairingChange} (begun : change.Begun) {records : List PairingRecord}
    (named : ∀ record ∈ records, record.Named) : ∀ record ∈ change.call.apply records, record.Named := by
  cases change with
  | confirm session =>
    obtain ⟨service, scannedUri, run⟩ := begun
    intro record member
    rcases List.mem_append.mp member with old | new
    · obtain ⟨existing, kept, rfl⟩ := List.mem_map.mp old
      exact movedTo_named (named _ (List.mem_of_mem_filter kept))
    · rw [List.mem_singleton.mp new]
      exact PairingService.begin_named run
  | remove verifierId => exact fun record member => named record (List.mem_of_mem_filter member)

/-- Every record a pairing service can store names its credential so. -/
theorem recordsAfter_named [Crypto] {changes : List PairingChange} (begun : ∀ change ∈ changes, change.Begun) :
    ∀ record ∈ recordsAfter changes, record.Named := by
  induction changes using List.reverseRecOn with
  | nil => exact fun record member => nomatch member
  | append_singleton changes change ih =>
    rw [recordsAfter, List.foldl_append]
    refine apply_named (begun change (by simp)) (ih fun earlier member => begun earlier ?_)
    exact List.mem_append_left _ member

end Stored

end BioAuth.Mobile
