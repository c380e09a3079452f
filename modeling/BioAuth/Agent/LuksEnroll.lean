import BioAuth.Agent.RecoverySlot
import BioAuth.Agent.VaultService
import BioAuth.Protocol.KeyWraps

namespace BioAuth.Agent
open BioAuth
open BioAuth.Locker (Node Path Scratch World contentAt maxLinks resolve)
open BioAuth.Protocol (ApplicationFrame)
open BioAuth.Protocol.LuksPayload (EnrollRequest EnrollResponse WrappedVolumeKey diskKeyLen volumeBindingLen)
open BioAuth.Session (ServiceError)
open BioAuth.Verifier (PairingStore)

namespace Luks

def operationEnroll : String := "luks.enroll"

/-- What one enrollment draws from the platform for the volume. -/
structure VolumeDraws where
  diskKey : Block diskKeyLen
  volumeBinding : Block volumeBindingLen

/-- What an enrollment yields: the wrapper to store, and the key itself. -/
structure Enrollment where
  wrapped : WrappedVolumeKey
  diskKey : Block diskKeyLen

def enrollRequest (verifierName volumeName : String) (drawn : VolumeDraws) : EnrollRequest where
  verifierName := verifierName
  volumeName := volumeName
  volumeBinding := drawn.volumeBinding
  diskKey := drawn.diskKey.val

variable {τ : Type} [SecureSession τ]

/-- Asks the phone to wrap a new volume key. Any failure is a text fit for a person to read. -/
def enroll (verifierName volumeName : String) (drawn : VolumeDraws) (draws : Draws) : Fallible τ String Enrollment := do
  let payload := enrollRequest verifierName volumeName drawn
  payload.validate.mapError Protocol.ProtocolError.message
  let session ← get
  let request := applicationRequest (SecureSession.sessionBinding session) draws operationEnroll payload.encode
  request.validate.mapError Protocol.ProtocolError.message
  (SecureSession.send request.encode).mapError Session.IoError.message
  let raw ← (SecureSession.receive answerTimeout).mapError Session.IoError.message
  let reply ← (ApplicationFrame.decode raw).mapError Protocol.ProtocolError.message
  -- decoding an envelope is not authorization: it has to answer the request still pending
  require (reply.isReplyTo request draws.answeredAt = true) "the phone answered a different request"
  require (reply.kind ≠ .error) "the phone declined the enrollment"
  let response ← (EnrollResponse.decode reply.payload).mapError Protocol.ProtocolError.message
  let wrapped : WrappedVolumeKey := ⟨drawn.volumeBinding, response.credentialId, response.wrapper⟩
  wrapped.validate.mapError Protocol.ProtocolError.message
  return ⟨wrapped, drawn.diskKey⟩

/-- The phone's reply to an enrollment carries this. -/
structure Replied (verifierName volumeName : String) (drawn : VolumeDraws) (draws : Draws) (session : τ)
    (response : EnrollResponse) : Prop where
  answered : ∃ reply after,
    Heard answerTimeout (applicationRequest (SecureSession.sessionBinding session) draws operationEnroll
      (enrollRequest verifierName volumeName drawn).encode) session reply after ∧
    Answers reply (applicationRequest (SecureSession.sessionBinding session) draws operationEnroll
      (enrollRequest verifierName volumeName drawn).encode) draws.answeredAt ∧
    EnrollResponse.decode reply.payload = .ok response

/-- An enrollment that succeeds yields the key that was drawn and what the reply says of it. -/
theorem replied_of_enroll {verifierName volumeName : String} {drawn : VolumeDraws} {draws : Draws} {session : τ}
    {enrolled : Enrollment} (run : (enroll verifierName volumeName drawn draws session).1 = .ok enrolled) :
    ∃ response, Replied verifierName volumeName drawn draws session response ∧
      enrolled = ⟨⟨drawn.volumeBinding, response.credentialId, response.wrapper⟩, drawn.diskKey⟩ := by
  have run := Fallible.run_of_fst run
  unfold enroll at run
  obtain ⟨_, _, run⟩ := Fallible.liftM_bind_eq_ok.mp run
  rw [Fallible.bind_run_ok _ (Fallible.get_run session)] at run
  obtain ⟨_, _, run⟩ := Fallible.liftM_bind_eq_ok.mp run
  obtain ⟨_, sent, sending, run⟩ := Fallible.bind_eq_ok.mp run
  obtain ⟨raw, taken, receiving, run⟩ := Fallible.bind_eq_ok.mp run
  obtain ⟨reply, decoded, run⟩ := Fallible.liftM_bind_eq_ok.mp run
  obtain ⟨mine, run⟩ := Fallible.require_bind_eq_ok.mp run
  obtain ⟨noError, run⟩ := Fallible.require_bind_eq_ok.mp run
  obtain ⟨response, read, run⟩ := Fallible.liftM_bind_eq_ok.mp run
  obtain ⟨_, _, run⟩ := Fallible.liftM_bind_eq_ok.mp run
  obtain ⟨same, _⟩ := Fallible.pure_eq_ok.mp run
  refine ⟨response, ⟨reply, taken, ⟨sent, raw, ?_, ?_, except_mapError_eq_ok.mp decoded⟩, ?_, except_mapError_eq_ok.mp read⟩,
    same.symm⟩
  · exact Fallible.mapError_eq_ok.mp sending
  · exact Fallible.mapError_eq_ok.mp receiving
  · exact (answers_iff rfl).mpr ⟨mine, noError⟩

end Luks

structure LuksEnrollParams where
  volume : String
  wrappedKeyPath : String
  keyPath : String
  credentialId : Option String

structure LuksEnrollResult where
  volume : String
  credentialId : String
  wrappedKeyPath : String
  keyPath : String
  deviceName : String

section Service
variable {τ σ : Type} [SecureSession τ]

/-- Picks the credential that may wrap a volume key, and refuses a software one. -/
def selectBootCredential (store : PairingStore) (credentialId : Option String) : Except ServiceError (String × String) := do
  let (deviceId, credentialId) ← selectServiceCredential store "luks" "disk unlock" credentialId
  require (((store.findCredential credentialId).any fun found => found.2.keyKind.allowedAtBoot) = true)
    (ServiceError.mk "policy-denied"
      ("credential `" ++ credentialId ++ "` is not hardware-backed, and boot unlock only accepts a hardware key"))
  return (deviceId, credentialId)

def deviceName (store : PairingStore) (deviceId : String) : String :=
  ((store.device deviceId).map fun device => device.displayName).getD deviceId

/-- What an enrollment asks the phone, and by what name that is known. -/
def askEnrollment (store : PairingStore) (verifierName : String) (dials : Dials τ) (drawn : Luks.VolumeDraws)
    (params : LuksEnrollParams) : Except ServiceError (String × Luks.Enrollment) := do
  let (deviceId, credentialId) ← selectBootCredential store params.credentialId
  let (session, draws) ← (dials deviceId credentialId 0).mapError noTransport
  let enrolled ← (Luks.enroll verifierName params.volume drawn draws session).1.mapError (ServiceError.mk "declined")
  -- the initrd would later look for a wrapper that another credential cannot open
  require (enrolled.wrapped.credentialId = credentialId)
    (ServiceError.mk "response-mismatch" "the phone wrapped the key with a different credential")
  return (deviceName store deviceId, enrolled)

/-- The part of an enrollment that the key file's slot guards. -/
def enrollKey (platform : Platform) (store : PairingStore) (verifierName : String) (dials : Dials τ) (drawn : Luks.VolumeDraws)
    (params : LuksEnrollParams) (slot : RecoverySlot) : ServiceM σ (String × Luks.Enrollment) := do
  let (name, enrolled) ← askEnrollment store verifierName dials drawn params
  slot.writeBytes platform enrolled.diskKey.val
  return (name, enrolled)

/-- Enrolls a new volume key with a paired phone, for unlocking at boot. -/
def luksEnroll (platform : Platform) (store : PairingStore) (verifierName : String) (dials : Dials τ)
    (drawn : Luks.VolumeDraws) (params : LuksEnrollParams) : ServiceM σ LuksEnrollResult := do
  require (trim params.volume.toList ≠ [])
    (ServiceError.mk "bad-params" "the volume needs a name; it is what the phone shows the user")
  let wrappedPath ← absolutePath platform params.wrappedKeyPath
  let keyPath ← absolutePath platform params.keyPath
  -- claimed before the phone is asked, so that no fingerprint is spent on a key that has nowhere to go
  let keySlot ← claimKeyFile platform keyPath
  let (name, enrolled) ← keySlot.guarding (enrollKey platform store verifierName dials drawn params keySlot)
  (fsWrite wrappedPath enrolled.wrapped.encode).mapError (ioFailed platform)
  return {
    volume := params.volume
    credentialId := enrolled.wrapped.credentialId
    wrappedKeyPath := platform.pathText wrappedPath
    keyPath := platform.pathText keyPath
    deviceName := name }

/-- No file is at the key's path that was not there before, and what the wrapper's path leads to is what it was. -/
def LeavesNoTrace (key wrapped : Path) (before after : Path → Option Node) : Prop :=
  (before key = none → after key = none) ∧ contentAt after wrapped = contentAt before wrapped

/-- Both files hold what the phone's reply and the generated key say. -/
def HoldsBoth (store : PairingStore) (verifierName : String) (dials : Dials τ) (drawn : Luks.VolumeDraws)
    (params : LuksEnrollParams) (key wrapped : Path) (after : Path → Option Node) : Prop :=
  ∃ deviceId credentialId session draws response,
    selectBootCredential store params.credentialId = .ok (deviceId, credentialId) ∧
    dials deviceId credentialId 0 = .ok (session, draws) ∧
    Luks.Replied verifierName params.volume drawn draws session response ∧ response.credentialId = credentialId ∧
    contentAt after key = some drawn.diskKey.val ∧
    contentAt after wrapped = some (WrappedVolumeKey.encode ⟨drawn.volumeBinding, response.credentialId, response.wrapper⟩)

theorem askEnrollment_eq_ok {store : PairingStore} {verifierName : String} {dials : Dials τ} {drawn : Luks.VolumeDraws}
    {params : LuksEnrollParams} {name : String} {enrolled : Luks.Enrollment}
    (run : askEnrollment store verifierName dials drawn params = .ok (name, enrolled)) :
    ∃ deviceId credentialId session draws response,
      selectBootCredential store params.credentialId = .ok (deviceId, credentialId) ∧
      dials deviceId credentialId 0 = .ok (session, draws) ∧
      Luks.Replied verifierName params.volume drawn draws session response ∧ response.credentialId = credentialId ∧
      enrolled = ⟨⟨drawn.volumeBinding, response.credentialId, response.wrapper⟩, drawn.diskKey⟩ := by
  simp only [askEnrollment, except_bind_eq_ok, except_mapError_eq_ok, except_require_eq_ok, except_pure_eq_ok] at run
  obtain ⟨⟨deviceId, credentialId⟩, selected, ⟨session, draws⟩, dialled, found, ran, _, own, same⟩ := run
  cases same
  obtain ⟨response, replied, rfl⟩ := Luks.replied_of_enroll ran
  exact ⟨deviceId, credentialId, session, draws, response, selected, dialled, replied, own, rfl⟩

/-- The guarded part touches the claimed file only. -/
theorem enrollKey_ends (platform : Platform) (store : PairingStore) (verifierName : String) (dials : Dials τ)
    (drawn : Luks.VolumeDraws) (params : LuksEnrollParams) {slot : RecoverySlot} {disk : Locker.Disk}
    {files : Path → Option Node} {w : World σ} (scratch : Scratch disk files slot.path [] w) :
    (enrollKey platform store verifierName dials drawn params slot).Ends
      (fun asked u => askEnrollment store verifierName dials drawn params = .ok asked ∧
        Scratch disk files slot.path asked.2.diskKey.val u)
      (fun _ u => ∃ left, Scratch disk files slot.path left u) w := by
  refine .liftM_bind (fun _ _ => ⟨[], scratch⟩) fun (name, enrolled) asked => ?_
  refine .bind (fun _ u => Scratch disk files slot.path enrolled.diskKey.val u) (Fallible.ends_mapError.mpr ?_) ?_
  · exact fsWrite_scratch scratch enrolled.diskKey.val
  · exact fun _ u written => ⟨asked, written⟩

/-- The commits of an enrollment all go through: where the guarded part fails, the claimed file may be taken away again, and
where it succeeds, the platform takes the wrapper whole, in a place that is not the key's. -/
def CommitsThrough (platform : Platform) (store : PairingStore) (verifierName : String) (dials : Dials τ)
    (drawn : Luks.VolumeDraws) (params : LuksEnrollParams) (key wrapped : Path) (w : World σ) : Prop :=
  trim params.volume.toList ≠ [] → ∀ slot s, claimKeyFile platform key w = (.ok slot, s) →
    (enrollKey platform store verifierName dials drawn params slot).Ends
      (fun _ u => ∃ target, Accepts wrapped target u ∧ target ≠ key)
      (fun _ u => u.disk.verdict u.clock .discard key = none) s

/-- A wrapper is longer than the key it wraps. -/
theorem wrapped_ne_key (wrapped : WrappedVolumeKey) (key : Block diskKeyLen) : wrapped.encode ≠ key.val := by
  intro same
  have lengths := congrArg List.length same
  have binding := wrapped.volumeBinding.property
  have whole := key.property
  simp only [WrappedVolumeKey.encode, WrappedVolumeKey.body, Writer.bytes, List.flatten_cons, List.length_append] at lengths
  have array : 0 < (Writer.array Protocol.LuksPayload.wrappedKeyFields).length := by decide
  rw [binding, whole] at lengths
  unfold volumeBindingLen diskKeyLen at lengths
  omega

section Wrapper
variable {disk : Locker.Disk} {files : Path → Option Node} {key wrapped : Path} {secret bytes : Bytes} {u : World σ}

/-- A write beside the finished key file leaves it and fills the other, where the platform takes it whole and its path does
not lead to the key file. -/
theorem wrapper_committed (scratch : Scratch disk files key secret u) {target : Path} (accepts : Accepts wrapped target u)
    (apart : target ≠ key) :
    (fsWrite wrapped bytes : Locker.LockerM σ Unit).Ends
      (fun _ t => contentAt t.files key = some secret ∧ contentAt t.files wrapped = some bytes) (fun _ _ => False) u := by
  obtain ⟨attributes, found⟩ := Scratch.found scratch
  have elsewhere : resolve u.files (maxLinks + 1) key ≠ some target := by
    simp only [resolve, found]
    exact fun same => apart (Option.some.inj same).symm
  refine (fsWrite_ends wrapped bytes u).mono ?_ fun _ t failed => failed.2.1 target accepts
  rintro _ t ⟨_, other, leads, ⟨_, fresh, written⟩ | ⟨special, _⟩⟩
  · cases leads.symm.trans accepts.leads
    rw [written]
    refine ⟨?_, contentAt_update accepts.leads accepts.plain⟩
    rw [contentAt_update_of_ne elsewhere accepts.plain]
    exact Locker.contentAt_file found
  · cases leads.symm.trans accepts.leads
    exact absurd accepts.plain special

/-- Otherwise it fails beside the key file, or takes its place, or fills none. -/
theorem commits_of_wrapper (differ : bytes ≠ secret) (scratch : Scratch disk files key secret u)
    (ends : (fsWrite wrapped bytes : Locker.LockerM σ Unit).Ends
      (fun _ t => contentAt t.files key = some secret ∧ contentAt t.files wrapped ≠ none)
      (fun _ t => t.files key = none) u) :
    ∃ target, Accepts wrapped target u ∧ target ≠ key := by
  obtain ⟨attributes, found⟩ := Scratch.found scratch
  have itself : resolve u.files (maxLinks + 1) key = some key := by simp [resolve, found]
  have known := fsWrite_ends wrapped bytes u
  unfold Fallible.Ends at ends known
  rcases run : (fsWrite wrapped bytes : Locker.LockerM σ Unit) u with ⟨error | _, t⟩ <;> rw [run] at ends known <;>
    dsimp only at ends known
  · obtain ⟨_, _, untouched | ⟨target, left, fresh, leads, plain, written⟩⟩ := known
    · rw [untouched, found] at ends
      cases ends
    · rw [written, Function.update_apply] at ends
      split at ends
      · cases ends
      · rw [found] at ends
        cases ends
  · obtain ⟨_, target, leads, ⟨accepts, fresh, written⟩ | ⟨special, untouched⟩⟩ := known
    · refine ⟨target, accepts, fun same => ?_⟩
      subst same
      rw [written, contentAt_update itself accepts.plain] at ends
      exact differ (Option.some.inj ends.1)
    · rw [untouched] at ends
      obtain ⟨content, held⟩ := Option.ne_none_iff_exists'.mp ends.2
      obtain ⟨other, _, _, others, file⟩ := Locker.contentAt_eq_some.mp held
      cases leads.symm.trans others
      rw [file] at special
      exact absurd trivial special

end Wrapper

/-- What follows the claim of the key file. -/
theorem claimed_commits_iff (platform : Platform) (store : PairingStore) (verifierName : String) (dials : Dials τ)
    (drawn : Luks.VolumeDraws) (params : LuksEnrollParams) {slot : RecoverySlot} {disk : Locker.Disk}
    {files : Path → Option Node} {s : World σ} (wrapped : Path) (vacant : files slot.path = none)
    (scratch : Scratch disk files slot.path [] s) (result : String → Luks.Enrollment → LuksEnrollResult) :
    (slot.guarding (enrollKey platform store verifierName dials drawn params slot) >>= fun (name, enrolled) =>
        (fsWrite wrapped enrolled.wrapped.encode).mapError (ioFailed platform) >>= fun _ => pure (result name enrolled) :
        ServiceM σ LuksEnrollResult).Ends
        (fun _ t => HoldsBoth store verifierName dials drawn params slot.path wrapped t.files)
        (fun _ t => LeavesNoTrace slot.path wrapped files t.files) s ↔
      (enrollKey platform store verifierName dials drawn params slot).Ends
        (fun _ u => ∃ target, Accepts wrapped target u ∧ target ≠ slot.path)
        (fun _ u => u.disk.verdict u.clock .discard slot.path = none) s := by
  have ends := enrollKey_ends platform store verifierName dials drawn params scratch
  unfold Fallible.Ends at ends ⊢
  rcases run : enrollKey platform store verifierName dials drawn params slot s with ⟨error | ⟨name, enrolled⟩, u⟩ <;>
    rw [run] at ends <;> dsimp only at ends ⊢
  · obtain ⟨left, scratch⟩ := ends
    have removal := discard_claimed vacant scratch
    rw [Fallible.bind_run_error _ (RecoverySlot.guarding_run_error run)]
    dsimp only
    split at removal
    · exact iff_of_true (by rw [removal]; exact ⟨id, rfl⟩) ‹_›
    · exact iff_of_false (fun trace => removal (trace.1 vacant)) ‹_›
  · obtain ⟨asked, scratch⟩ := ends
    obtain ⟨deviceId, credentialId, session, draws, response, selected, dialled, replied, own, rfl⟩ := askEnrollment_eq_ok asked
    rw [Fallible.bind_run_ok _ (RecoverySlot.guarding_run_ok run)]
    have differ := wrapped_ne_key ⟨drawn.volumeBinding, response.credentialId, response.wrapper⟩ drawn.diskKey
    constructor
    · intro both
      refine commits_of_wrapper differ scratch ?_
      refine Fallible.ends_iff.mpr ⟨fun _ t written => ?_, fun _ t failed => ?_⟩
      · rw [Fallible.bind_run_ok _ (Fallible.mapError_eq_ok.mpr written)] at both
        obtain ⟨_, _, _, _, _, _, _, _, _, atKey, atWrapped⟩ := both
        exact ⟨atKey, by rw [atWrapped]; exact Option.some_ne_none _⟩
      · rw [Fallible.bind_run, Fallible.mapError_run, failed] at both
        exact both.1 vacant
    · rintro ⟨target, accepts, apart⟩
      change Fallible.Ends ((fsWrite wrapped _).mapError (ioFailed platform) >>= _) _ _ u
      refine .bind _ (Fallible.ends_mapError.mpr ((wrapper_committed scratch accepts apart).mono (fun _ _ held => held)
        fun _ _ never => never.elim)) fun _ t held => ?_
      exact ⟨deviceId, credentialId, session, draws, response, selected, dialled, replied, own, held⟩

/-- An enrollment starts with its claim, once its parameters are taken. -/
theorem luksEnroll_claims {platform : Platform} (store : PairingStore) (verifierName : String) (dials : Dials τ)
    (drawn : Luks.VolumeDraws) {params : LuksEnrollParams} {key wrapped : Path}
    (named : trim params.volume.toList ≠ []) (atKey : platform.absolute params.keyPath = some key)
    (atWrapped : platform.absolute params.wrappedKeyPath = some wrapped) :
    (luksEnroll platform store verifierName dials drawn params : ServiceM σ LuksEnrollResult) =
      claimKeyFile platform key >>= fun slot =>
        slot.guarding (enrollKey platform store verifierName dials drawn params slot) >>= fun (name, enrolled) =>
          (fsWrite wrapped enrolled.wrapped.encode).mapError (ioFailed platform) >>= fun _ =>
            pure ⟨params.volume, enrolled.wrapped.credentialId, platform.pathText wrapped, platform.pathText key, name⟩ := by
  unfold luksEnroll absolutePath
  rw [atKey, atWrapped, require, if_pos named]
  rfl

/-- A failed enrollment leaves no trace, and one that succeeds leaves both files, exactly when its commits all go
through. -/
theorem enroll_leaves_no_trace_iff (platform : Platform) (store : PairingStore) (verifierName : String) (dials : Dials τ)
    (drawn : Luks.VolumeDraws) (params : LuksEnrollParams) (key wrapped : Path) (w : World σ)
    (atKey : platform.absolute params.keyPath = some key)
    (atWrapped : platform.absolute params.wrappedKeyPath = some wrapped) :
    (luksEnroll platform store verifierName dials drawn params).Ends
        (fun _ t => HoldsBoth store verifierName dials drawn params key wrapped t.files)
        (fun _ t => LeavesNoTrace key wrapped w.files t.files) w ↔
      CommitsThrough platform store verifierName dials drawn params key wrapped w := by
  by_cases named : trim params.volume.toList ≠ []
  swap
  · refine iff_of_true ?_ fun given => absurd given named
    exact .require_bind (fun _ => ⟨id, rfl⟩) fun given => absurd given named
  rw [luksEnroll_claims store verifierName dials drawn named atKey atWrapped, Fallible.ends_bind]
  have claims := claimPrivateFile_ends platform key "key-file-exists" "that key file already exists; choose another path" w
  change (claimKeyFile platform key).Ends _ _ w at claims
  unfold CommitsThrough
  unfold Fallible.Ends at claims
  rcases run : claimKeyFile platform key w with ⟨error | slot, s⟩ <;> rw [run] at claims <;> dsimp only at claims
  · have same : s.files = w.files := congrArg Prod.snd claims
    refine iff_of_true ?_ fun _ _ _ claimed => nomatch claimed
    unfold Fallible.Ends
    rw [run]
    exact ⟨fun vacant => by rw [same, vacant], by rw [same]⟩
  · obtain ⟨rfl, vacant, scratch⟩ := claims
    have commits := claimed_commits_iff platform store verifierName dials drawn params wrapped vacant scratch
      fun name enrolled =>
        ⟨params.volume, enrolled.wrapped.credentialId, platform.pathText wrapped, platform.pathText slot.path, name⟩
    refine Iff.trans ?_ (commits.trans ⟨fun through _ => ?_, fun through => ?_⟩)
    · unfold Fallible.Ends
      rw [run]
    · rintro _ _ ⟨⟩
      exact through
    · exact through named slot s rfl

end Service

section Volume

/-- A phone with one hardware key for a disk. -/
def volumeStore : PairingStore := sshStore [{ sshCredential "v" [] with purpose := .diskUnlock }]

def volumeDraws : Luks.VolumeDraws :=
  ⟨⟨List.replicate diskKeyLen 5, List.length_replicate⟩, ⟨List.replicate volumeBindingLen 6, List.length_replicate⟩⟩

/-- The phone wraps the key it is sent. -/
def volumeDials : Dials Scripted := fun _ _ n =>
  .ok (answering n Luks.operationEnroll (EnrollResponse.encode ⟨"v", List.replicate 64 7⟩))

def volumeKey : Path := ⟨[], utf8 "key"⟩

def volumeWrapper : Path := ⟨[], utf8 "wrapper"⟩

def volumePlatform : Platform where
  errorText _ := ""
  pathText _ := ""
  absolute path := some ⟨[], utf8 path⟩

def volumeParams : LuksEnrollParams := ⟨"root", "wrapper", "key", none⟩

/-- The wrapper of a volume in use is on a disk that is full. -/
def fullWorld : World Unit :=
  { World.holding [(volumeWrapper, .file [1, 2, 3] ⟨0, none⟩ 1)] with
    disk := { Locker.Disk.plain with
      verdict := fun _ asked path => if asked = .write ∧ path = volumeWrapper then some .storageFull else none } }

/-- An enrollment whose wrapper is not written leaves its key file, and nothing of the wrapper that was there. -/
theorem wrapper_emptied :
    (luksEnroll volumePlatform volumeStore "desk" volumeDials volumeDraws volumeParams fullWorld).1.isOk = false ∧
    ¬LeavesNoTrace volumeKey volumeWrapper fullWorld.files
      (luksEnroll volumePlatform volumeStore "desk" volumeDials volumeDraws volumeParams fullWorld).2.files ∧
    contentAt fullWorld.files volumeWrapper = some [1, 2, 3] ∧
    contentAt (luksEnroll volumePlatform volumeStore "desk" volumeDials volumeDraws volumeParams fullWorld).2.files
      volumeWrapper = some [] ∧
    contentAt (luksEnroll volumePlatform volumeStore "desk" volumeDials volumeDraws volumeParams fullWorld).2.files
      volumeKey = some volumeDraws.diskKey.val := by
  have emptied : contentAt (luksEnroll volumePlatform volumeStore "desk" volumeDials volumeDraws volumeParams fullWorld).2.files
      volumeWrapper = some [] := by decide +kernel
  refine ⟨by decide +kernel, fun trace => ?_, by decide +kernel, emptied, by decide +kernel⟩
  rw [LeavesNoTrace, emptied] at trace
  exact absurd trace.2 (by decide +kernel)

/-- On a disk with room both files are left. -/
theorem enroll_leaves_no_trace_iff_room :
    volumePlatform.absolute "key" = some volumeKey ∧ volumePlatform.absolute "wrapper" = some volumeWrapper ∧
    ((luksEnroll volumePlatform volumeStore "desk" volumeDials volumeDraws volumeParams).Ends
        (fun _ t => HoldsBoth volumeStore "desk" volumeDials volumeDraws volumeParams volumeKey volumeWrapper t.files)
        (fun _ t => LeavesNoTrace volumeKey volumeWrapper (World.holding []).files t.files) (World.holding []) ↔
      CommitsThrough volumePlatform volumeStore "desk" volumeDials volumeDraws volumeParams volumeKey volumeWrapper
        (World.holding [])) :=
  ⟨rfl, rfl, enroll_leaves_no_trace_iff volumePlatform volumeStore "desk" volumeDials volumeDraws volumeParams volumeKey
    volumeWrapper (World.holding []) rfl rfl⟩

end Volume

end BioAuth.Agent
