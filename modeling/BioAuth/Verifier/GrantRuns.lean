import BioAuth.Verifier.AuthorizationRuns

namespace BioAuth.Verifier
open BioAuth
open BioAuth.Protocol (AuthRequest AuthResponse Decision checkText checkVersion checkWindow maxValidityMs protocolVersion
  toHex toHex_checkText toHex_injective)
open BioAuth.Session (Identities)

/-- The request that is issued for a spec, if one is. -/
def requested (spec : RequestSpec) (session : SecureSession) (nowMs : Int64) (random : RequestRandom)
    (verifier : Verifier) : AuthRequest where
  protocolVersion := protocolVersion
  requestId := toHex random.requestId.val
  verifierId := verifier.identity.verifierId
  verifierName := verifier.identity.verifierName
  credentialId := spec.credentialId
  challenge := random.challenge
  service := spec.service
  action := spec.action
  resource := spec.resource
  user := spec.user
  issuedAtMs := nowMs
  expiresAtMs := saturatingAdd nowMs (clamp 1 (Int64.ofInt maxValidityMs) spec.validityMs)
  sessionBinding := session.sessionBinding

/-- What is checked once, before the phone is asked. -/
structure Checked (request : AuthRequest) (session : SecureSession) (device : PairedDevice)
    (credential : PairedCredential) (store : PairingStore) : Prop where
  suitable : session.security.suitableForAuthorization = true
  paired : store.findCredential request.credentialId = some (device, credential)
  purpose : credential.purpose = CredentialPurpose.forService request.service
  bootKey : CredentialPurpose.forService request.service = .diskUnlock → credential.keyKind.allowedAtBoot = true
  bootChannel : CredentialPurpose.forService request.service = .diskUnlock → session.security.isDevelopment = false
  valid : request.validate = .ok ()
  permitted : permits credential.permissions request = true

theorem issue_eq_ok {spec : RequestSpec} {session : SecureSession} {nowMs : Int64} {random : RequestRandom}
    {verifier : Verifier} {pending : PendingAuthorization} :
    issue spec session nowMs random verifier = .ok pending ↔
      (∃ device credential, Checked (requested spec session nowMs random verifier) session device credential
        verifier.store) ∧
      pending = ⟨requested spec session nowMs random verifier, session.originLabel, session.sessionBinding⟩ := by
  unfold issue
  dsimp only
  simp only [except_bind_eq_ok, except_require_eq_ok, okOr_eq_ok, except_mapError_eq_ok, except_pure_eq_ok, exists_const]
  constructor
  · intro ⟨suitable, ⟨device, credential⟩, paired, purpose, bootKey, bootChannel, _, valid, permitted, same⟩
    exact ⟨⟨device, credential, suitable, paired, purpose, bootKey, bootChannel, valid, permitted⟩, same.symm⟩
  · intro ⟨⟨device, credential, checked⟩, same⟩
    exact ⟨checked.suitable, (device, credential), checked.paired, checked.purpose, checked.bootKey,
      checked.bootChannel, (), checked.valid, checked.permitted, same.symm⟩

section Runs
variable {σ : Type} [Identities] [JsonText]

omit [JsonText] in
/-- An answer with all that stands behind a grant is accepted. -/
theorem accept_grants {pending : PendingAuthorization} {frame : Bytes} {session : SecureSession} {nowMs : Int64}
    {verifier : Verifier} {grant : Grant} (granted : Granted verifier pending frame session nowMs grant) :
    (accept pending frame session nowMs verifier).1 = .ok grant := by
  obtain ⟨response, device, credential, answers, proven, named⟩ := granted.proven
  have ends : (accept pending frame session nowMs).Ends (fun given _ => given = grant) (fun _ _ => False) verifier := by
    unfold accept
    dsimp only
    refine .require_bind (fun refused => refused answers.suitable) fun _ => ?_
    refine .require_bind (fun refused => refused answers.binding) fun _ => ?_
    refine .liftM_bind (fun _ failed => ?_) fun read decoded => ?_
    · rw [answers.decoded] at failed
      cases failed
    cases answers.decoded.symm.trans (except_mapError_eq_ok.mp decoded)
    refine .require_bind (fun refused => refused answers.requestId) fun _ => ?_
    refine .require_bind (fun refused => refused answers.verifierId) fun _ => ?_
    refine .require_bind (fun refused => refused answers.credentialId) fun _ => ?_
    refine .require_bind (fun refused => refused answers.version) fun _ => ?_
    refine .bind_of_run (a := (verifier.replay.consume pending.request.requestId).1)
      (t := burn verifier pending.request.requestId) rfl ?_
    refine .require_bind (fun refused => refused granted.fresh) fun _ => ?_
    refine .require_bind (fun refused => refused granted.unexpired) fun _ => ?_
    refine .require_bind (fun refused => refused ?_) fun _ => ?_
    · rw [proven.authorized]
      exact Decision.noConfusion
    refine .bind_of_run (Fallible.get_run _) ?_
    refine .liftM_bind (fun _ failed => ?_) fun found paired => ?_
    · rw [show (burn verifier pending.request.requestId).store = verifier.store from rfl, proven.paired] at failed
      cases failed
    cases proven.paired.symm.trans (okOr_eq_ok.mp paired)
    refine .require_bind (fun refused => refused proven.permitted) fun _ => ?_
    refine .liftM_bind (fun _ failed => ?_) fun _ _ => ?_
    · rw [proven.signed] at failed
      cases failed
    exact named.symm
  unfold Fallible.Ends at ends
  rcases run : accept pending frame session nowMs verifier with ⟨error | given, t⟩ <;> rw [run] at ends
  · cases ends
  · rw [ends]

/-- What holds when a grant is given. -/
structure GrantSound (start desk : Desk σ) (events : List Event) (pending : PendingAuthorization) (frame : Bytes)
    (session : SecureSession) (nowMs : Int64) (grant : Grant) : Prop where
  suitable : session.security.suitableForAuthorization = true
  binding : session.sessionBinding = pending.request.sessionBinding
  unexpired : pending.request.isExpiredAt nowMs = false
  /-- The answer names the request, and its signature covers the octets that were sent. -/
  answered : ∃ response device credential, AuthResponse.decode frame = .ok response ∧
    response.requestId = pending.request.requestId ∧ response.verifierId = pending.request.verifierId ∧
      response.credentialId = pending.request.credentialId ∧ response.protocolVersion = pending.request.protocolVersion ∧
        response.decision = .authorized ∧
          desk.verifier.store.findCredential pending.request.credentialId = some (device, credential) ∧
            permits credential.permissions pending.request = true ∧
              verifyAuthorization credential.algorithm credential.publicKey response.algorithm pending.request.encode
                response.signature = .ok () ∧
                grant.deviceId = device.deviceId ∧ grant.deviceName = device.displayName
  requestId : grant.requestId = pending.request.requestId
  credentialId : grant.credentialId = pending.request.credentialId
  names : grant.service = pending.request.service ∧ grant.action = pending.request.action ∧
    grant.resource = pending.request.resource ∧ grant.user = pending.request.user
  fresh : grant.requestId ∉ (start.consumed events).rtake defaultCapacity
  /-- No later answer is granted until as many other ids have been consumed. -/
  recorded : (Event.accept pending frame session nowMs).consumes desk = some grant.requestId

/-- Whatever is issued, answered and edited in between, a grant stands on what the verifier holds when it is given, and
on what was checked when its request was issued. -/
theorem grant_sound (start : Desk σ) (fresh : start.verifier.replay = .withCapacity defaultCapacity)
    (earlier later : List Event) (spec : RequestSpec) (asked : SecureSession) (askedMs : Int64) (random : RequestRandom)
    (pending : PendingAuthorization)
    (issued : issue spec asked askedMs random (start.afterAll earlier).verifier = .ok pending) (frame : Bytes)
    (session : SecureSession) (nowMs : Int64) (grant : Grant) :
    let events := earlier ++ .issue spec asked askedMs random :: later
    (accept pending frame session nowMs (start.afterAll events).verifier).1 = .ok grant →
      GrantSound start (start.afterAll events) events pending frame session nowMs grant ∧
        ∃ device credential,
          Checked pending.request asked device credential (start.afterAll earlier).verifier.store := by
  intro events granted
  have opening : start.verifier.replay.Follows [] := by
    rw [fresh]
    exact ReplayGuard.withCapacity_follows defaultCapacity
  obtain ⟨room, follows⟩ := follows_run opening events
  rw [List.nil_append] at follows
  obtain ⟨checked, same⟩ := issue_eq_ok.mp issued
  obtain ⟨_, given, named⟩ := grant_consumes granted
  obtain ⟨response, device, credential, answers, proven, shape⟩ := given.proven
  refine ⟨⟨answers.suitable, ?_, given.unexpired, ?_, named, by rw [shape], by rw [shape]; exact ⟨rfl, rfl, rfl, rfl⟩, ?_,
    grant_step follows granted⟩, ?_⟩
  · rw [answers.binding, same]
    rfl
  · exact ⟨response, device, credential, answers.decoded, answers.requestId, answers.verifierId, answers.credentialId,
      answers.version, proven.authorized, proven.paired, proven.permitted, proven.signed, by rw [shape], by rw [shape]⟩
  · have capacity : (start.afterAll events).verifier.replay.capacity = defaultCapacity := by
      rw [room, fresh]
      rfl
    rw [named, ← capacity]
    intro recent
    have refused := given.fresh
    rw [follows.refused recent] at refused
    cases refused
  · obtain ⟨device, credential, held⟩ := checked
    rw [same]
    exact ⟨device, credential, held⟩

end Runs

section Plain

theorem bootRequest_valid (requestId : Block 16) : (bootPending requestId).request.validate = .ok () := by
  have named : checkText "requestId" (toHex requestId.val) 64 = .ok () :=
    toHex_checkText _ (fun none => by simpa [none] using requestId.property) (by rw [requestId.property]; decide)
  have version : checkVersion protocolVersion = .ok () := rfl
  have others : checkText "verifierId" "desktop" 64 = .ok () ∧ checkText "verifierName" "Desktop" 128 = .ok () ∧
      checkText "credentialId" "boot" 64 = .ok () ∧ checkText "service" "luks" 64 = .ok () ∧
        checkText "action" "unlock" 128 = .ok () ∧ checkText "resource" "disk" 256 = .ok () ∧
          checkText "user" "ana" 128 = .ok () ∧ checkWindow 0 60000 = .ok () := by decide +kernel
  obtain ⟨verifierId, verifierName, credentialId, service, action, resource, user, window⟩ := others
  simp only [AuthRequest.validate, bootPending, version, named, verifierId, verifierName, credentialId, service, action,
    resource, user, window, except_bind_eq_ok, exists_const, and_self]

theorem boot_issued (requestId : Block 16) :
    issue bootSpec bootSession 0 (bootRandom requestId) bootDesk.verifier = .ok (bootPending requestId) := by
  have expiry : saturatingAdd 0 (clamp 1 (Int64.ofInt maxValidityMs) 60000) = 60000 := by decide +kernel
  have same : requested bootSpec bootSession 0 (bootRandom requestId) bootDesk.verifier =
      (bootPending requestId).request := by
    simp only [requested, bootSpec, expiry]
    rfl
  refine issue_eq_ok.mpr ⟨⟨bootDevice, bootCredential, ?_⟩, by rw [same]; rfl⟩
  have paired : bootDesk.verifier.store.findCredential "boot" = some (bootDevice, bootCredential) := by decide +kernel
  have allowed : Permission.allowsFields ⟨"luks", wildcard, wildcard, wildcard⟩ "luks" "unlock" "disk" "ana" = true := by
    decide +kernel
  have permitted : permits bootCredential.permissions (bootPending requestId).request = true :=
    List.any_eq_true.mpr ⟨_, List.mem_singleton_self _, allowed⟩
  rw [same]
  exact ⟨rfl, paired, rfl, fun _ => rfl, fun _ => rfl, bootRequest_valid requestId, permitted⟩

/-- The phone paired again with the same key, now a software key for another purpose, but with the old permissions. -/
def repairedDevice : PairedDevice :=
  { bootDevice with credentials := [{ bootCredential with keyKind := .software, purpose := .authorization }] }

def developmentSession : SecureSession :=
  { bootSession with security := { bootSession.security with isDevelopment := true } }

def bootGrant (requestId : Block 16) : Grant where
  requestId := toHex requestId.val
  deviceId := "phone"
  deviceName := "Phone"
  credentialId := "boot"
  service := "luks"
  action := "unlock"
  resource := "disk"
  user := "ana"
  origin := "desk"
  grantedAtMs := 1000

theorem bootAnswer_decoded (requestId : Block 16) (decision : Decision) :
    AuthResponse.decode (bootAnswer requestId decision).encode = .ok (bootAnswer requestId decision) := by
  have named : checkText "requestId" (toHex requestId.val) 64 = .ok () :=
    toHex_checkText _ (fun none => by simpa [none] using requestId.property) (by rw [requestId.property]; decide)
  have version : checkVersion protocolVersion = .ok () := rfl
  have others : checkText "verifierId" "desktop" 64 = .ok () ∧ checkText "credentialId" "boot" 64 = .ok () ∧
      algorithmEcdsaP256Sha256 ≠ "" := by decide +kernel
  obtain ⟨verifierId, credentialId, algorithm⟩ := others
  refine AuthResponse.exact.complete _ ?_ ?_
  · have proof : algorithmEcdsaP256Sha256 ≠ "" ∧
        [4, 1] ++ List.take 32 (bootPending requestId).request.signingPayload ≠ [] := ⟨algorithm, List.cons_ne_nil _ _⟩
    simp only [AuthResponse.validate, bootAnswer, version, named, verifierId, credentialId, except_bind_eq_ok,
      except_require_eq_ok, exists_const, proof, and_self, implies_true, ne_eq, not_false_eq_true]
  · have id : utf16Len (toHex requestId.val) ≤ 64 := by
      simp only [checkText, except_bind_eq_ok, except_require_eq_ok, exists_const] at named
      exact named.2
    have idOctets := utf8_length_le (toHex requestId.val)
    have idText := Writer.text_length_le (toHex requestId.val)
    have texts : (Writer.text "desktop").length ≤ 64 ∧ (Writer.text "boot").length ≤ 64 ∧
        (Writer.text algorithmEcdsaP256Sha256).length ≤ 64 := by decide +kernel
    have array := Writer.head_length_le majorArray AuthResponse.responseFrameLen
    have kind := Writer.head_length_le majorUint Protocol.messageTypeResponse
    have versionHead := Writer.head_length_le majorUint protocolVersion
    have verdict := Writer.head_length_le majorUint decision.wire
    have signature := Writer.bytes_length_le ([4, 1] ++ (bootPending requestId).request.signingPayload.take 32)
    have front := List.length_take_le 32 (bootPending requestId).request.signingPayload
    simp only [List.length_append, List.length_cons, List.length_nil] at signature
    simp only [AuthResponse.encode, AuthResponse.body, bootAnswer, Writer.array, Writer.uint, List.flatten_cons,
      List.flatten_nil, List.length_append, List.length_nil, Protocol.maxFrameBytes]
    omega

theorem boot_answers (requestId : Block 16) (decision : Decision) :
    Answers (bootPending requestId) (bootAnswer requestId decision).encode bootSession (bootAnswer requestId decision) :=
  ⟨rfl, rfl, bootAnswer_decoded requestId decision, rfl, rfl, rfl, rfl⟩

/-- Requests the phone is asked and turns down. -/
def bootDenials (requestIds : List (Block 16)) : List Event :=
  requestIds.flatMap fun requestId =>
    [.issue bootSpec bootSession 0 (bootRandom requestId),
      .accept (bootPending requestId) (bootAnswer requestId .denied).encode bootSession 1000]

def spelled (requestIds : List (Block 16)) : List String := requestIds.map fun requestId => toHex requestId.val

theorem spelled_cons (requestId : Block 16) (rest : List (Block 16)) :
    spelled (requestId :: rest) = [toHex requestId.val] ++ spelled rest := rfl

theorem spelled_nodup {requestIds : List (Block 16)} (distinct : requestIds.Nodup) : (spelled requestIds).Nodup :=
  distinct.map fun _ _ same => Subtype.ext (toHex_injective same)

section Denials
variable [Identities]

/-- An answer burns its id, whatever it says. -/
theorem boot_burns (verifier : Verifier) (requestId : Block 16) (decision : Decision) :
    (accept (bootPending requestId) (bootAnswer requestId decision).encode bootSession 1000 verifier).2 =
      burn verifier (toHex requestId.val) := by
  have answers := boot_answers requestId decision
  have ends := accept_ends (bootPending requestId) (bootAnswer requestId decision).encode bootSession 1000 verifier
  unfold Fallible.Ends at ends
  rcases run : accept (bootPending requestId) (bootAnswer requestId decision).encode bootSession 1000 verifier
    with ⟨error | grant, t⟩ <;> rw [run] at ends
  · rcases ends with ⟨unanswered, _⟩ | ⟨_, burnt⟩
    · exact absurd answers (unanswered _)
    · exact burnt
  · exact ends.1

/-- Denials burn their ids and change nothing else. -/
theorem bootDenials_burn [JsonText] {desk : Desk Unit} {history : List String} (requestIds : List (Block 16))
    (follows : desk.verifier.replay.Follows history) (distinct : (history ++ spelled requestIds).Nodup) :
    (desk.afterAll (bootDenials requestIds)).verifier.store = desk.verifier.store ∧
      (desk.afterAll (bootDenials requestIds)).verifier.replay.capacity = desk.verifier.replay.capacity ∧
      (desk.afterAll (bootDenials requestIds)).verifier.replay.Follows (history ++ spelled requestIds) := by
  induction requestIds generalizing desk history with
  | nil => exact ⟨rfl, rfl, by rwa [spelled, List.map_nil, List.append_nil]⟩
  | cons requestId rest ih =>
    have unused : toHex requestId.val ∉ history.rtake desk.verifier.replay.capacity := by
      intro recent
      have apart := (List.nodup_append.mp distinct).2.2 _ (List.mem_of_mem_drop recent) _ List.mem_cons_self
      exact apart rfl
    obtain ⟨_, capacity, next⟩ := follows.consumed unused
    let burnt : Desk Unit := ⟨burn desk.verifier (toHex requestId.val), desk.world⟩
    have step : desk.afterAll (bootDenials (requestId :: rest)) = burnt.afterAll (bootDenials rest) := by
      have answered := boot_burns desk.verifier requestId .denied
      simp only [bootDenials, Desk.afterAll, List.flatMap_cons, List.cons_append, List.nil_append, List.foldl_cons,
        Event.after, answered, burnt]
    have split : history ++ spelled (requestId :: rest) = history ++ [toHex requestId.val] ++ spelled rest := by
      rw [spelled_cons, List.append_assoc]
    rw [split] at distinct ⊢
    rw [step]
    have stepped : burnt.verifier.replay.Follows (history ++ [toHex requestId.val]) := next
    obtain ⟨store, room, last⟩ := ih stepped distinct
    exact ⟨store, room.trans capacity, last⟩

end Denials

theorem boot_proven :
    letI := Identities.plain
    Proven bootDesk.verifier.store (bootPending bootRequestId).request (bootAnswer bootRequestId .authorized) bootDevice
      bootCredential := by
  let := Identities.plain
  obtain ⟨device, credential, checked⟩ := (issue_eq_ok.mp (boot_issued bootRequestId)).1
  have paired : bootDesk.verifier.store.findCredential "boot" = some (bootDevice, bootCredential) := by decide +kernel
  cases paired.symm.trans checked.paired
  exact ⟨rfl, paired, checked.permitted, by decide +kernel⟩

/-- The answer is good for as long as its id is not held against it. -/
theorem boot_granted (verifier : Verifier) (store : verifier.store = bootDesk.verifier.store)
    (fresh : (verifier.replay.consume (toHex bootRequestId.val)).1 = true) :
    letI := Identities.plain
    (accept (bootPending bootRequestId) (bootAnswer bootRequestId .authorized).encode bootSession 1000 verifier).1 =
      .ok (bootGrant bootRequestId) := by
  let := Identities.plain
  refine accept_grants ⟨fresh, by decide +kernel, bootAnswer bootRequestId .authorized, bootDevice, bootCredential,
    boot_answers _ _, ?_, rfl⟩
  rw [store]
  exact boot_proven

theorem grant_sound_boot :
    letI := Identities.plain
    letI := plainJson
    let events : List Event := [] ++ .issue bootSpec bootSession 0 (bootRandom bootRequestId) :: []
    GrantSound bootDesk (bootDesk.afterAll events) events (bootPending bootRequestId)
        (bootAnswer bootRequestId .authorized).encode bootSession 1000 (bootGrant bootRequestId) ∧
      ∃ device credential,
        Checked (bootPending bootRequestId).request bootSession device credential bootDesk.verifier.store :=
  letI := Identities.plain
  letI := plainJson
  grant_sound bootDesk rfl [] [] _ _ _ _ _ (boot_issued bootRequestId) _ _ _ _ (boot_granted _ rfl rfl)

/-- The request is granted, and then others are turned down. -/
def bootForgotten (others : List (Block 16)) : List Event :=
  .issue bootSpec bootSession 0 (bootRandom bootRequestId) ::
    .accept (bootPending bootRequestId) (bootAnswer bootRequestId .authorized).encode bootSession 1000 ::
      bootDenials others

/-- Once as many others are burnt as the guard keeps, the request is granted again. -/
theorem boot_forgotten [JsonText] {others : List (Block 16)} (distinct : (bootRequestId :: others).Nodup)
    (full : others.length = defaultCapacity) :
    letI := Identities.plain
    (bootGrant bootRequestId).requestId ∈ bootDesk.consumed (bootForgotten others) ∧
      (accept (bootPending bootRequestId) (bootAnswer bootRequestId .authorized).encode bootSession 1000
        (bootDesk.afterAll (bootForgotten others)).verifier).1 = .ok (bootGrant bootRequestId) := by
  let := Identities.plain
  have opening : bootDesk.verifier.replay.Follows [] := ReplayGuard.withCapacity_follows defaultCapacity
  let burnt : Desk Unit := ⟨burn bootDesk.verifier (toHex bootRequestId.val), bootDesk.world⟩
  have unused : toHex bootRequestId.val ∉ ([] : List String).rtake bootDesk.verifier.replay.capacity :=
    List.not_mem_nil
  obtain ⟨_, room, next⟩ := opening.consumed unused
  have follows : burnt.verifier.replay.Follows [toHex bootRequestId.val] := next
  have answered := boot_burns bootDesk.verifier bootRequestId .authorized
  have step : bootDesk.afterAll (bootForgotten others) = burnt.afterAll (bootDenials others) := by
    simp only [bootForgotten, Desk.afterAll, List.foldl_cons, Event.after, answered, burnt]
  have apart := spelled_nodup distinct
  rw [spelled_cons] at apart
  obtain ⟨store, capacity, last⟩ := bootDenials_burn others follows apart
  rw [← step] at store capacity last
  refine ⟨?_, ?_⟩
  · have burns := grant_step opening (boot_granted bootDesk.verifier rfl rfl)
    have split : bootDesk.consumed (bootForgotten others) =
        [(bootGrant bootRequestId).requestId] ++ burnt.consumed (bootDenials others) := by
      simp only [bootForgotten, Desk.consumed, Event.after, burns, answered, burnt]
      rfl
    rw [split]
    exact List.mem_cons_self
  · have length : (spelled others).length = defaultCapacity := by rw [spelled, List.length_map, full]
    have window : ([toHex bootRequestId.val] ++ spelled others).rtake defaultCapacity = spelled others := by
      rw [← length, List.rtake, List.length_append, Nat.add_sub_cancel, List.drop_left]
    have forgotten : toHex bootRequestId.val ∉ ([toHex bootRequestId.val] ++ spelled others).rtake
        (bootDesk.afterAll (bootForgotten others)).verifier.replay.capacity := by
      rw [capacity, show burnt.verifier.replay.capacity = defaultCapacity from room, window]
      exact (List.nodup_cons.mp apart).1
    exact boot_granted _ store (last.consumed forgotten).1

/-- As many request ids as the guard keeps. -/
def bootIds : List (Block 16) :=
  (List.range defaultCapacity).map fun i => ⟨List.replicate 14 0 ++ [UInt8.ofNat (i / 256), UInt8.ofNat (i % 256)], rfl⟩

theorem bootIds_nodup : (bootRequestId :: bootIds).Nodup := by
  refine List.nodup_cons.mpr ⟨?_, ?_⟩
  · intro member
    obtain ⟨i, _, same⟩ := List.mem_map.mp member
    have first := congrArg (fun id : Block 16 => id.val.head?) same
    cases first
  · refine List.Nodup.map_on ?_ List.nodup_range
    intro i small j little same
    rw [List.mem_range, defaultCapacity] at small little
    have octets := List.append_cancel_left (congrArg Subtype.val same)
    simp only [List.cons.injEq, and_true] at octets
    have high := congrArg UInt8.toNat octets.1
    have low := congrArg UInt8.toNat octets.2
    simp only [UInt8.toNat_ofNat'] at high low
    omega

/-- The request is issued, and the phone is paired anew. -/
def bootEdited : List Event :=
  [.issue bootSpec bootSession 0 (bootRandom bootRequestId), .edit (.insert repairedDevice)]

/-- A grant may be given under a purpose, a key and a channel that are no longer right, and a second one for a request
once the guard has forgotten its id. -/
theorem grants_outlive_checks :
    letI := Identities.plain
    letI := plainJson
    issue bootSpec bootSession 0 (bootRandom bootRequestId) bootDesk.verifier = .ok (bootPending bootRequestId) ∧
      ((accept (bootPending bootRequestId) (bootAnswer bootRequestId .authorized).encode developmentSession 1000
          (bootDesk.afterAll bootEdited).verifier).1 = .ok (bootGrant bootRequestId) ∧
        (bootDesk.afterAll bootEdited).verifier.store.findCredential "boot" =
          some (repairedDevice, { bootCredential with keyKind := .software, purpose := .authorization })) ∧
      ((bootGrant bootRequestId).requestId ∈ bootDesk.consumed (bootForgotten bootIds) ∧
        (accept (bootPending bootRequestId) (bootAnswer bootRequestId .authorized).encode bootSession 1000
          (bootDesk.afterAll (bootForgotten bootIds)).verifier).1 = .ok (bootGrant bootRequestId)) := by
  let := Identities.plain
  let := plainJson
  have full : bootIds.length = defaultCapacity := by rw [bootIds, List.length_map, List.length_range]
  exact ⟨boot_issued bootRequestId, by decide +kernel, boot_forgotten bootIds_nodup full⟩

end Plain

end BioAuth.Verifier
