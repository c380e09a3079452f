import BioAuth.Protocol.Messages
import BioAuth.Session.Handshake
import BioAuth.Verifier.Pairing
import BioAuth.Verifier.Replay

namespace BioAuth
open BioAuth.Protocol (AuthRequest AuthResponse Decision Permission ProtocolError challengeLen maxValidityMs protocolVersion
  sessionBindingLen toHex)
open BioAuth.Session (Identities)

namespace Verifier

section Policy

def fieldMatches (pattern value : String) : Bool := pattern = wildcard || pattern = value

/-- A wildcard service would be a total grant, so it matches nothing. -/
def Permission.allowsFields (permission : Permission) (service action resource user : String) : Bool :=
  permission.service ≠ wildcard && permission.service = service && fieldMatches permission.action action &&
    fieldMatches permission.resource resource && fieldMatches permission.user user

def Permission.allows (permission : Permission) (request : AuthRequest) : Bool :=
  Permission.allowsFields permission request.service request.action request.resource request.user

/-- Default-deny. -/
def permits (permissions : List Permission) (request : AuthRequest) : Bool :=
  permissions.any fun permission => Permission.allows permission request

end Policy

/-- What a transport claims about the channel it established. -/
structure TransportSecurity where
  transportName : String
  confidential : Bool
  peerAuthenticated : Bool
  requiresNetwork : Bool
  proximitySignal : Bool
  isDevelopment : Bool

def TransportSecurity.suitableForAuthorization (security : TransportSecurity) : Bool :=
  security.confidential && security.peerAuthenticated

/-- What the verifier reads of an established channel. -/
structure SecureSession where
  originLabel : String
  sessionBinding : Block sessionBindingLen
  security : TransportSecurity

inductive SignatureError
  | unsupportedAlgorithm (name : String)
  | unsupportedKeyEncoding (name : String)
  | malformedPublicKey
  | malformedSignature
  | invalid
  deriving DecidableEq

def algorithmEcdsaP256Sha256 : String := "SHA256withECDSA"

def publicKeyEcP256Spki : String := "EC_P256_SPKI"

section Signature
variable [Identities]

/-- An unknown identifier fails closed. -/
def verifyAuthorization (keyEncoding : String) (publicKeyDer : Bytes) (algorithm : String) (payload signatureDer : Bytes) :
    Except SignatureError Unit := do
  require (algorithm = algorithmEcdsaP256Sha256) (SignatureError.unsupportedAlgorithm algorithm)
  require (keyEncoding = publicKeyEcP256Spki) (SignatureError.unsupportedKeyEncoding keyEncoding)
  let key ← okOr SignatureError.malformedPublicKey (Identities.fromPublicKeyDer publicKeyDer)
  let signature ← okOr SignatureError.malformedSignature (Identities.fromDer signatureDer)
  require (Identities.verifies key payload signature = true) SignatureError.invalid

end Signature

structure VerifierIdentity where
  verifierId : String
  verifierName : String

/-- What the caller wants authorized. -/
structure RequestSpec where
  credentialId : String
  service : String
  action : String
  resource : String
  user : String
  validityMs : Int64

/-- A request that has been issued and is awaiting an answer. -/
structure PendingAuthorization where
  request : AuthRequest
  origin : String
  sessionBinding : Block sessionBindingLen

/-- A completed, verified authorization. -/
structure Grant where
  requestId : String
  deviceId : String
  deviceName : String
  credentialId : String
  service : String
  action : String
  resource : String
  user : String
  origin : String
  grantedAtMs : Int64
  deriving DecidableEq

inductive AuthorizationError
  | channelUnsuitable (transport : String)
  | unknownCredential (credentialId : String)
  | purposeMismatch (credentialId : String) (registered requested : CredentialPurpose)
  | keyKindUnsuitableForBoot (credentialId : String)
  | developmentTransportRefused (transport : String)
  | policyDenied
  | responseMismatch (field : String)
  | sessionBindingMismatch
  | declined
  | expired
  | replayed
  | protocol (error : ProtocolError)
  | signature (error : SignatureError)
  | malformed (error : ProtocolError)
  deriving DecidableEq

/-- `i64::saturating_add`. -/
def saturatingAdd (a b : Int64) : Int64 := Int64.ofInt (max (-2 ^ 63) (min (2 ^ 63 - 1) (a.toInt + b.toInt)))

/-- `i64::clamp`. -/
def clamp (low high value : Int64) : Int64 := if value < low then low else if high < value then high else value

/-- The random octets of one request: its id and its challenge. -/
structure RequestRandom where
  requestId : Block 16
  challenge : Block challengeLen

end Verifier

/-- Pairing records, replay state and the decision procedure. -/
structure Verifier where
  identity : Verifier.VerifierIdentity
  store : Verifier.PairingStore
  replay : Verifier.ReplayGuard

namespace Verifier

def new (identity : VerifierIdentity) (store : PairingStore) : Verifier :=
  ⟨identity, store, ReplayGuard.withCapacity defaultCapacity⟩

/-- Everything that can be checked without the user is checked here. -/
def issue (spec : RequestSpec) (session : SecureSession) (nowMs : Int64) (random : RequestRandom) (verifier : Verifier) :
    Except AuthorizationError PendingAuthorization := do
  let security := session.security
  require (security.suitableForAuthorization = true) (AuthorizationError.channelUnsuitable security.transportName)
  let (_, credential) ← okOr (AuthorizationError.unknownCredential spec.credentialId)
    (verifier.store.findCredential spec.credentialId)
  let purpose := CredentialPurpose.forService spec.service
  require (credential.purpose = purpose)
    (AuthorizationError.purposeMismatch spec.credentialId credential.purpose purpose)
  -- at boot there is no logged-in user to notice, so the key and the transport have to be the real thing
  require (purpose = .diskUnlock → credential.keyKind.allowedAtBoot = true)
    (AuthorizationError.keyKindUnsuitableForBoot spec.credentialId)
  require (purpose = .diskUnlock → security.isDevelopment = false)
    (AuthorizationError.developmentTransportRefused security.transportName)
  let validity := clamp 1 (Int64.ofInt maxValidityMs) spec.validityMs
  let request : AuthRequest :=
    { protocolVersion, requestId := toHex random.requestId.val, verifierId := verifier.identity.verifierId,
      verifierName := verifier.identity.verifierName, credentialId := spec.credentialId, challenge := random.challenge,
      service := spec.service, action := spec.action, resource := spec.resource, user := spec.user,
      issuedAtMs := nowMs, expiresAtMs := saturatingAdd nowMs validity, sessionBinding := session.sessionBinding }
  request.validate.mapError AuthorizationError.malformed
  require (permits credential.permissions request = true) AuthorizationError.policyDenied
  return ⟨request, session.originLabel, session.sessionBinding⟩

section Accept
variable [Identities]

def consume (requestId : String) : Fallible Verifier AuthorizationError Bool := fun verifier =>
  (.ok (verifier.replay.consume requestId).1, { verifier with replay := (verifier.replay.consume requestId).2 })

/-- The pairing lookup and the policy check are repeated here: a device may have been unpaired, or its permissions
narrowed, while the phone was being tapped. -/
def accept (pending : PendingAuthorization) (responseFrame : Bytes) (session : SecureSession) (nowMs : Int64) :
    Fallible Verifier AuthorizationError Grant := do
  let security := session.security
  require (security.suitableForAuthorization = true) (AuthorizationError.channelUnsuitable security.transportName)
  require (session.sessionBinding = pending.sessionBinding) AuthorizationError.sessionBindingMismatch
  let request := pending.request
  let response ← liftM ((AuthResponse.decode responseFrame).mapError AuthorizationError.protocol)
  require (response.requestId = request.requestId) (AuthorizationError.responseMismatch "requestId")
  require (response.verifierId = request.verifierId) (AuthorizationError.responseMismatch "verifierId")
  require (response.credentialId = request.credentialId) (AuthorizationError.responseMismatch "credentialId")
  require (response.protocolVersion = request.protocolVersion) (AuthorizationError.responseMismatch "protocolVersion")
  -- the id is burnt before any crypto: a request is single-use whatever the outcome
  let fresh ← consume request.requestId
  require (fresh = true) AuthorizationError.replayed
  require (request.isExpiredAt nowMs = false) AuthorizationError.expired
  require (response.decision ≠ .denied) AuthorizationError.declined
  let store := (← get).store
  let (device, credential) ← liftM (okOr (AuthorizationError.unknownCredential request.credentialId)
    (store.findCredential request.credentialId))
  require (permits credential.permissions request = true) AuthorizationError.policyDenied
  liftM ((verifyAuthorization credential.algorithm credential.publicKey response.algorithm request.signingPayload
    response.signature).mapError AuthorizationError.signature)
  return { requestId := request.requestId, deviceId := device.deviceId, deviceName := device.displayName,
           credentialId := request.credentialId, service := request.service, action := request.action,
           resource := request.resource, user := request.user, origin := pending.origin, grantedAtMs := nowMs }

end Accept

end Verifier

end BioAuth

namespace BioAuth.Verifier
open BioAuth
open BioAuth.Protocol (AuthRequest AuthResponse Decision ProtocolError)
open BioAuth.Session (Identities)

/-- The frame answers the request on the session it was issued on, so that its id is burnt. -/
structure Answers (pending : PendingAuthorization) (frame : Bytes) (session : SecureSession) (response : AuthResponse) :
    Prop where
  suitable : session.security.suitableForAuthorization = true
  binding : session.sessionBinding = pending.sessionBinding
  decoded : AuthResponse.decode frame = .ok response
  requestId : response.requestId = pending.request.requestId
  verifierId : response.verifierId = pending.request.verifierId
  credentialId : response.credentialId = pending.request.credentialId
  version : response.protocolVersion = pending.request.protocolVersion

/-- The verifier once a request id is burnt. -/
def burn (verifier : Verifier) (requestId : String) : Verifier :=
  { verifier with replay := (verifier.replay.consume requestId).2 }

/-- What a refused answer leaves: it burns the id of its request exactly when it answers it. -/
def Refused (pending : PendingAuthorization) (frame : Bytes) (session : SecureSession) (verifier after : Verifier) :
    Prop :=
  (∀ response, ¬Answers pending frame session response) ∧ after = verifier ∨
    (∃ response, Answers pending frame session response) ∧ after = burn verifier pending.request.requestId

section Accept
variable [Identities]

/-- The phone signed the request with a key that is paired and allowed to authorize it. -/
structure Proven (store : PairingStore) (request : AuthRequest) (response : AuthResponse) (device : PairedDevice)
    (credential : PairedCredential) : Prop where
  authorized : response.decision = .authorized
  paired : store.findCredential request.credentialId = some (device, credential)
  permitted : permits credential.permissions request = true
  signed : verifyAuthorization credential.algorithm credential.publicKey response.algorithm request.signingPayload
    response.signature = .ok ()

/-- What stands behind a grant. -/
structure Granted (verifier : Verifier) (pending : PendingAuthorization) (frame : Bytes) (session : SecureSession)
    (nowMs : Int64) (grant : Grant) : Prop where
  fresh : (verifier.replay.consume pending.request.requestId).1 = true
  unexpired : pending.request.isExpiredAt nowMs = false
  proven : ∃ response device credential, Answers pending frame session response ∧
    Proven verifier.store pending.request response device credential ∧
      grant = { requestId := pending.request.requestId, deviceId := device.deviceId, deviceName := device.displayName,
                credentialId := pending.request.credentialId, service := pending.request.service,
                action := pending.request.action, resource := pending.request.resource, user := pending.request.user,
                origin := pending.origin, grantedAtMs := nowMs }

/-- An answer is accepted with all that stands behind a grant, or it is refused. -/
theorem accept_ends (pending : PendingAuthorization) (frame : Bytes) (session : SecureSession) (nowMs : Int64)
    (verifier : Verifier) :
    (accept pending frame session nowMs).Ends
      (fun grant t => t = burn verifier pending.request.requestId ∧ Granted verifier pending frame session nowMs grant)
      (fun _ t => Refused pending frame session verifier t) verifier := by
  have early (unanswered : ∀ response, ¬Answers pending frame session response) :
      Refused pending frame session verifier verifier := Or.inl ⟨unanswered, rfl⟩
  unfold accept
  dsimp only
  refine .require_bind (fun refused => early fun _ answers => refused answers.suitable) fun suitable => ?_
  refine .require_bind (fun refused => early fun _ answers => refused answers.binding) fun binding => ?_
  refine .liftM_bind (fun error failed => early fun response answers => ?_) fun response read => ?_
  · rw [answers.decoded] at failed
    cases failed
  have decoded := except_mapError_eq_ok.mp read
  have only {other : AuthResponse} (answers : Answers pending frame session other) : other = response :=
    Except.ok.inj (answers.decoded.symm.trans decoded)
  refine .require_bind (fun refused => early fun _ answers => refused (only answers ▸ answers.requestId))
    fun requestId => ?_
  refine .require_bind (fun refused => early fun _ answers => refused (only answers ▸ answers.verifierId))
    fun verifierId => ?_
  refine .require_bind (fun refused => early fun _ answers => refused (only answers ▸ answers.credentialId))
    fun credentialId => ?_
  refine .require_bind (fun refused => early fun _ answers => refused (only answers ▸ answers.version))
    fun version => ?_
  have answers : Answers pending frame session response :=
    ⟨suitable, binding, decoded, requestId, verifierId, credentialId, version⟩
  have late : Refused pending frame session verifier (burn verifier pending.request.requestId) :=
    Or.inr ⟨⟨response, answers⟩, rfl⟩
  refine .bind_of_run (a := (verifier.replay.consume pending.request.requestId).1)
    (t := burn verifier pending.request.requestId) rfl ?_
  refine .require_bind (fun _ => late) fun fresh => ?_
  refine .require_bind (fun _ => late) fun unexpired => ?_
  refine .require_bind (fun _ => late) fun authorized => ?_
  refine .bind_of_run (Fallible.get_run _) ?_
  refine .liftM_bind (fun _ _ => late) fun found paired => ?_
  refine .require_bind (fun _ => late) fun permitted => ?_
  refine .liftM_bind (fun _ _ => late) fun _ signed => ?_
  refine ⟨rfl, fresh, unexpired, response, found.1, found.2, answers, ⟨?_, okOr_eq_ok.mp paired, permitted,
    except_mapError_eq_ok.mp signed⟩, rfl⟩
  rcases decision : response.decision with _ | _
  · rfl
  · exact absurd decision authorized

end Accept

end BioAuth.Verifier
