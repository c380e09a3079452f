import BioAuth.Locker.Scratch

namespace BioAuth.Locker
open BioAuth

section Steps
variable {σ α : Type}

theorem fresh_plaintextLen {plaintextLen : UInt64} {w t : World σ} {header : CoreHeader}
    (run : CoreHeader.fresh plaintextLen w = (.ok header, t)) : header.plaintextLen = plaintextLen := by
  cases run
  rfl

theorem askPhone_run {x : Fallible σ LockerError α} {a : α} {w t : World σ}
    (run : askPhone x w = (.ok a, t)) : (x w.phone).1 = .ok a := congrArg Prod.fst run

end Steps

section Keeps
variable [Crypto] {σ : Type}

theorem verify_keeps (container : Path) (dek : Dek) : (verify container dek : LockerM σ Unit).Keeps World.ground :=
  (openRead_keeps _).bind fun _ => (Fallible.Keeps.within _ _).bind fun _ => (Fallible.Keeps.liftM _).bind fun _ =>
    (Fallible.Keeps.liftM _).bind fun _ => decryptChunks_keeps (fun _ => Fallible.Keeps.pure ()) _

theorem recoveryWrap_keeps (dek : Dek) (binding : Block 32) :
    (Recovery.wrap dek binding : LockerM σ (Wrapper × RecoveryKey)).Keeps World.ground :=
  (getrandom_keeps _).bind fun _ =>
    Fallible.Keeps.bind ((getrandom_keeps _).bind fun _ => Fallible.Keeps.pure _) fun _ => Fallible.Keeps.pure _

theorem lockPrepare_keeps (source : Path) (plan : LockPlan) (custodian : KeyCustodian σ) :
    (lockPrepare source plan custodian).Keeps World.ground := by
  unfold lockPrepare
  cases source.fileName with
  | none => exact Fallible.Keeps.throw _
  | some fileName =>
    exact (soleRegularFile_keeps _ _).bind fun _ => ((getrandom_keeps _).bind fun _ => Fallible.Keeps.pure _).bind fun _ =>
      (Fallible.Keeps.liftM _).bind fun _ => (getrandom_keeps _).bind fun _ => (askPhone_keeps _).bind fun _ =>
      (Fallible.Keeps.require _ _).bind fun _ => (recoveryWrap_keeps _ _).bind fun _ =>
      (Fallible.Keeps.liftM _).bind fun _ => Fallible.Keeps.pure _

theorem unlockDek_keeps (container : Path) (head : ContainerHead) (key : UnlockKey σ) :
    (unlockDek container head key).Keeps World.ground := by
  cases key with
  | phone custodian => exact (Fallible.Keeps.liftM _).bind fun _ => askPhone_keeps _
  | recovery key => exact (Fallible.Keeps.liftM _).bind fun _ => Fallible.Keeps.liftM _

theorem unlockPrepare_keeps (container : Path) (removeContainer : Bool) (key : UnlockKey σ) :
    (unlockPrepare container removeContainer key).Keeps World.ground :=
  (soleRegularFile_keeps _ _).bind fun _ => (openRead_keeps _).bind fun _ => (Fallible.Keeps.within _ _).bind fun _ =>
    (unlockDek_keeps _ _ _).bind fun _ => (Fallible.Keeps.liftM _).bind fun _ => (Fallible.Keeps.liftM _).bind fun _ =>
    (Fallible.Keeps.require _ _).bind fun _ => (Fallible.Keeps.liftM _).bind fun _ => Fallible.Keeps.pure _

theorem rekeyPrepare_keeps (container : Path) (custodian : KeyCustodian σ) (currentRecovery : Option RecoveryKey)
    (newRecovery : Bool) : (rekeyPrepare container custodian currentRecovery newRecovery).Keeps World.ground := by
  have recovery (head : ContainerHead) (dek : Dek) :
      (rekeyRecovery head dek newRecovery : LockerM σ _).Keeps World.ground := by
    cases newRecovery with
    | true => exact (recoveryWrap_keeps _ _).bind fun _ => Fallible.Keeps.pure _
    | false => exact Fallible.Keeps.pure _
  exact (soleRegularFile_keeps _ _).bind fun _ => (openRead_keeps _).bind fun _ => (Fallible.Keeps.within _ _).bind fun _ =>
    (unlockDek_keeps _ _ _).bind fun _ => (askPhone_keeps _).bind fun _ => (Fallible.Keeps.require _ _).bind fun _ =>
    (recovery _ _).bind fun _ => (Fallible.Keeps.require _ _).bind fun _ => Fallible.Keeps.pure _

end Keeps

section Lock
variable [Crypto] {σ : Type}

namespace Locking

def head (locking : Locking) : ContainerHead where
  core := locking.core
  header := locking.header
  binding := locking.binding
  wrappers := locking.wrappers
  metadata := locking.metadataBlock

/-- The container that holds this text. -/
def container (locking : Locking) (text : Bytes) : Bytes :=
  locking.head.spell ++ sealChunks locking.cipher locking.header text

end Locking

/-- What a lock has settled about its container: what it holds decodes, its wrappers open with the phone's and
the code's key, and its metadata is about the source. -/
structure Locking.Sound (source : Path) (custodian : KeyCustodian σ) (locking : Locking) : Prop where
  header : locking.header.validate = .ok ()
  name : source.name = utf8 locking.metadata.originalName
  length : locking.metadata.originalLen = locking.header.plaintextLen
  metadata : ∃ encoded, locking.metadata.encode = .ok encoded ∧
    locking.metadataBlock = locking.cipher.sealMetadata encoded
  wrappers : ∃ phone salt nonce, locking.wrappers =
      [phone, Recovery.sealed locking.dek locking.binding locking.recoveryKey salt nonce] ∧ phone.kind = .phone ∧
    ∃ (request : WrapRequest) (state : σ), request.binding = locking.binding ∧ request.dek = locking.dek ∧
      (custodian.wrap request state).1 = .ok phone

theorem recoveryWrap_sealed {dek : Dek} {binding : Block 32} {w t : World σ} {made : Wrapper × RecoveryKey}
    (run : Recovery.wrap dek binding w = (.ok made, t)) :
    ∃ salt nonce, made.1 = Recovery.sealed dek binding made.2 salt nonce := by
  cases run
  exact ⟨_, _, rfl⟩

theorem lockPrepare_sound {source : Path} {plan : LockPlan} {custodian : KeyCustodian σ} {w : World σ}
    {locking : Locking} (prepared : (lockPrepare source plan custodian w).1 = .ok locking) :
    locking.Sound source custodian := by
  have run : lockPrepare source plan custodian w = (.ok locking, (lockPrepare source plan custodian w).2) :=
    Prod.ext prepared rfl
  unfold lockPrepare at run
  rcases named : source.fileName with _ | fileName <;> rw [named] at run
  · cases run
  · simp only [↓Fallible.require_bind_eq_ok, ↓Fallible.liftM_bind_eq_ok, Fallible.bind_eq_ok, Fallible.pure_eq_ok] at run
    obtain ⟨described, _, _, header, _, fresh, _, valid, dek, _, _, phone, _, asked, kind, made, _, wrapped, encoded,
      spelled, rfl, rfl⟩ := run
    obtain ⟨salt, nonce, sealed⟩ := recoveryWrap_sealed wrapped
    refine ⟨valid, fromUtf8_eq_some.mp named, (fresh_plaintextLen fresh).symm, ⟨encoded, spelled, rfl⟩,
      phone, salt, nonce, ?_, kind, _, _, rfl, rfl, askPhone_run asked⟩
    exact congrArg (fun wrapper => [phone, wrapper]) sealed

/-- What a lock builds is the complete container of the text it has read. -/
def Locking.Built (locking : Locking) (disk : Disk) (files : Path → Option Node) (source : Path) (built : Bytes) :
    Prop :=
  ∃ text : Bytes, text.length = locking.header.plaintextLen.toNat ∧ built = locking.container text ∧
    encodeWrappers locking.wrappers = .ok (spellWrappers locking.wrappers) ∧
    (disk.Honest → ∀ content, contentAt files source = some content → text = content)

theorem lockBuild_appends {locking : Locking} (valid : locking.header.validate = .ok ()) {disk : Disk}
    {files : Path → Option Node} {temporary : Path} (vacant : files temporary = none) (source : Path) :
    (lockBuild source locking temporary : LockerM σ Unit).Appends (Scratch disk files temporary)
      (fun _ more => locking.Built disk files source more) fun _ => True := by
  have writes (bytes : Bytes) : (writeAll temporary bytes : LockerM σ Unit).Appends (Scratch disk files temporary)
      (fun _ more => more = bytes) fun _ => True := (writeAll_appends bytes).allow fun _ _ => trivial
  refine Fallible.Appends.bind (writeFront_appends (fun _ => trivial) writes _ _ _) ?_
  rintro _ _ ⟨written, rfl⟩
  refine Fallible.Appends.bind (scratch_of_keeps (openRead_keeps source) (fun reader more => more = [] ∧
    (disk.Honest → ∀ content, contentAt files source = some content → reader = ⟨content, none⟩)) ?_) ?_
  · rintro content w reader t ⟨rfl, attributes, holds⟩ run
    refine ⟨rfl, fun honest content held => openRead_honest honest (contentAt_extends ?_ held) run⟩
    rw [holds]
    exact Extends.update vacant _
  · rintro reader _ ⟨rfl, reads⟩
    refine (encryptChunks_appends (fun _ => trivial) writes valid).mono ?_
    rintro _ _ ⟨length, _, rfl⟩
    refine ⟨reader.bytes, length, rfl, written, fun honest content held => ?_⟩
    rw [reads honest content held]

/-- How a lock fails: it leaves everything as it was, or it has published the complete container, and either that does
not verify or the source is not removed. -/
def LockFailed (w : World σ) (source : Path) (plan : LockPlan) (custodian : KeyCustodian σ) (e : LockerError)
    (t : World σ) : Prop :=
  Untouched w t ∨ ∃ locking, (lockPrepare source plan custodian w).1 = .ok locking ∧
    Published w (lockDestination source plan) (locking.Built w.disk w.files source) t.files ∧
    (FailsIn (verify (lockDestination source plan) locking.dek) e t ∨
      FailsIn (removeWhen plan.removeOriginal source) e t)

/-- Everything a lock can leave behind. -/
theorem lockFile_ends (source : Path) (plan : LockPlan) (custodian : KeyCustodian σ) (w : World σ) :
    (lockFile source plan custodian).Ends
      (fun outcome t => t.disk = w.disk ∧ outcome.container = lockDestination source plan ∧
        ∃ locking, (lockPrepare source plan custodian w).1 = .ok locking ∧
          outcome.recoveryCode = formatRecoveryCode locking.recoveryKey ∧
          ∃ files, Published w (lockDestination source plan) (locking.Built w.disk w.files source) files ∧
            t.files = if plan.removeOriginal then Function.update files source none else files)
      (fun e t => t.disk = w.disk ∧ LockFailed w source plan custodian e t) w := by
  unfold lockFile
  refine Fallible.Ends.bind (fun locking t => t.ground = w.ground ∧ (lockPrepare source plan custodian w).1 = .ok locking)
    (((lockPrepare_keeps source plan custodian).ends w).mono ?_ ?_) ?_
  · intro locking t done
    exact ⟨done.2, congrArg Prod.fst done.1⟩
  · intro _ t failed
    exact (Untouched.of_ground failed.2).imp_right Or.inl
  intro locking t prepared
  obtain ⟨same, prepared⟩ := prepared
  have sound := lockPrepare_sound prepared
  have there := same
  simp only [World.ground, Prod.mk.injEq] at there
  obtain ⟨disk, files⟩ := there
  have publishes := publish_ends (lockDestination source plan) (lockBuild source locking) t fun temporary vacant =>
    lockBuild_appends sound.header vacant source
  rw [disk, files] at publishes
  refine Fallible.Ends.bind (fun _ u => u.disk = w.disk ∧
    Published w (lockDestination source plan) (locking.Built w.disk w.files source) u.files) (publishes.mono ?_ ?_) ?_
  · intro _ u done
    exact ⟨done.1, done.2.of_start same⟩
  · intro _ u failed
    exact ⟨failed.1, Or.inl (failed.2.1.of_start same)⟩
  intro _ u published
  obtain ⟨disk, published⟩ := published
  refine Fallible.Ends.bind (fun _ v => v.ground = u.ground) (((verify_keeps _ _).ends u).mono (fun _ _ done => done.2) ?_) ?_
  · intro _ v failed
    have same := failed.2
    simp only [World.ground, Prod.mk.injEq] at same
    exact ⟨same.1.trans disk, Or.inr ⟨locking, prepared, by rwa [same.2], Or.inl ⟨u, failed.2.symm, failed.1⟩⟩⟩
  intro _ v same
  simp only [World.ground, Prod.mk.injEq] at same
  refine Fallible.Ends.bind _
    ((removeWhen_ends plan.removeOriginal source v).recall.mono (fun _ _ done => done.2) ?_) ?_
  · intro _ x failed
    have kept := failed.2.1
    simp only [World.ground, Prod.mk.injEq] at kept
    exact ⟨(kept.1.trans same.1).trans disk,
      Or.inr ⟨locking, prepared, by rwa [kept.2, same.2], Or.inr ⟨v, failed.2.1.symm, failed.1⟩⟩⟩
  · intro _ x removed
    refine ⟨(removed.1.trans same.1).trans disk, rfl, locking, prepared, rfl, u.files, published, ?_⟩
    rw [removed.2, same.2]

end Lock

end BioAuth.Locker
