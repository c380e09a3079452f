import BioAuth.Locker.LockEnds

namespace BioAuth.Locker
open BioAuth

section Unlock
variable [Crypto] {σ : Type}

/-- What the key unlocks: the wrapper of its own kind, opened by the phone or by the recovery code. -/
def Unwraps (head : ContainerHead) (dek : Dek) : UnlockKey σ → Prop
  | .phone custodian => ∃ (request : UnwrapRequest) (state : σ), head.wrapper .phone = .ok request.wrapper ∧
      request.binding = head.binding ∧ (custodian.unwrap request state).1 = .ok dek
  | .recovery key => ∃ wrapper, head.wrapper .recovery = .ok wrapper ∧ Recovery.unwrap wrapper key head.binding = .ok dek

theorem unlockDek_unwraps {container : Path} {head : ContainerHead} {key : UnlockKey σ} {dek : Dek} {w t : World σ}
    (run : unlockDek container head key w = (.ok dek, t)) : Unwraps head dek key := by
  cases key with
  | phone custodian =>
    obtain ⟨wrapper, found, asked⟩ := Fallible.liftM_bind_eq_ok.mp run
    exact ⟨_, _, found, rfl, askPhone_run asked⟩
  | recovery key =>
    obtain ⟨wrapper, found, opened⟩ := Fallible.liftM_bind_eq_ok.mp run
    exact ⟨wrapper, found, (Fallible.liftM_eq_ok.mp opened).1⟩

/-- The head and the rest of a container, as an operation has read them. -/
def HeadRead (w : World σ) (container : Path) (head : ContainerHead) (rest : Stream) : Prop :=
  ∃ reader, ContainerHead.read reader = (.ok head, rest) ∧
    (w.disk.Honest → ∀ content, contentAt w.files container = some content → reader = ⟨content, none⟩)

/-- What an unlock has settled before it writes anything. -/
structure Unlocking.Sound (w : World σ) (container : Path) (key : UnlockKey σ) (unlocking : Unlocking) : Prop where
  head : HeadRead w container unlocking.head unlocking.reader
  dek : Unwraps unlocking.head unlocking.dek key
  metadata : ∃ encoded, unlocking.cipher.openMetadata unlocking.head.metadata = .ok encoded ∧
    Metadata.decode encoded = .ok unlocking.metadata
  length : unlocking.metadata.originalLen = unlocking.head.header.plaintextLen
  name : unlocking.metadata.safeFileName = .ok unlocking.name

theorem headRead_of_run {container : Path} {soleName : Bool} {w t u v : World σ} {described : UInt64 × Attributes}
    {reader rest : Stream} {head : ContainerHead} (checked : soleRegularFile container soleName w = (.ok described, t))
    (opened : openRead container t = (.ok reader, u))
    (read : Fallible.within ContainerHead.read reader u = (.ok (head, rest), v)) : HeadRead w container head rest := by
  have same := (soleRegularFile_keeps container soleName).of_run checked
  simp only [World.ground, Prod.mk.injEq] at same
  refine ⟨reader, (Fallible.within_eq_ok.mp read).1, fun honest content held => openRead_honest ?_ ?_ opened⟩
  · rwa [same.1]
  · rwa [same.2]

theorem unlockPrepare_sound {container : Path} {removeContainer : Bool} {key : UnlockKey σ} {w t : World σ}
    {unlocking : Unlocking} (run : unlockPrepare container removeContainer key w = (.ok unlocking, t)) :
    unlocking.Sound w container key := by
  simp only [unlockPrepare, ↓Fallible.require_bind_eq_ok, ↓Fallible.liftM_bind_eq_ok, Fallible.bind_eq_ok,
    Fallible.pure_eq_ok] at run
  obtain ⟨described, _, checked, reader, _, opened, ⟨head, rest⟩, _, read, dek, _, unwrapped, encoded, authentic,
    metadata, decoded, length, name, safe, rfl, rfl⟩ := run
  exact ⟨headRead_of_run checked opened read, unlockDek_unwraps unwrapped, ⟨encoded, authentic, decoded⟩, length, safe⟩

/-- Where an unlock puts the file, and what it puts there. -/
def restoredPath (container : Path) (destinationDir : Option (List Bytes)) (name : String) : Path :=
  ⟨destinationDir.getD container.directory, utf8 name⟩

def Unlocking.Restores (unlocking : Unlocking) (text : Bytes) : Prop :=
  unlocking.reader.ending = none ∧ Opens unlocking.cipher unlocking.head.header unlocking.head.header.chunkCount 0
    unlocking.head.header.plaintextLen.toNat unlocking.reader.bytes text

/-- How an unlock fails: it leaves everything as it was, or it has restored the complete file and the container is not
removed. -/
def UnlockFailed (w : World σ) (container : Path) (destinationDir : Option (List Bytes)) (removeContainer : Bool)
    (key : UnlockKey σ) (e : LockerError) (t : World σ) : Prop :=
  Untouched w t ∨ ∃ unlocking : Unlocking, unlocking.Sound w container key ∧
    Published w (restoredPath container destinationDir unlocking.name) unlocking.Restores t.files ∧
    FailsIn (removeWhen removeContainer container) e t

/-- Everything an unlock can leave behind. -/
theorem unlockFile_ends (container : Path) (destinationDir : Option (List Bytes)) (removeContainer : Bool)
    (key : UnlockKey σ) (w : World σ) :
    (unlockFile container destinationDir removeContainer key).Ends
      (fun outcome t => t.disk = w.disk ∧ ∃ unlocking : Unlocking, unlocking.Sound w container key ∧
        outcome.restored = restoredPath container destinationDir unlocking.name ∧
        ∃ files, Published w (restoredPath container destinationDir unlocking.name) unlocking.Restores files ∧
          t.files = if removeContainer then Function.update files container none else files)
      (fun e t => t.disk = w.disk ∧ UnlockFailed w container destinationDir removeContainer key e t) w := by
  unfold unlockFile
  refine Fallible.Ends.bind (fun unlocking t => t.ground = w.ground ∧ unlocking.Sound w container key)
    (((unlockPrepare_keeps container removeContainer key).ends w).mono ?_ ?_) ?_
  · intro unlocking t done
    exact ⟨done.2, unlockPrepare_sound done.1⟩
  · intro _ t failed
    exact (Untouched.of_ground failed.2).imp_right Or.inl
  intro unlocking t prepared
  obtain ⟨same, sound⟩ := prepared
  have there := same
  simp only [World.ground, Prod.mk.injEq] at there
  obtain ⟨disk, files⟩ := there
  have publishes := publish_ends (restoredPath container destinationDir unlocking.name)
    (fun temporary => decryptChunks unlocking.reader (writeAll temporary) unlocking.head.header unlocking.cipher) t
    fun temporary _ => decryptChunks_opens (fun _ => trivial)
      fun bytes => (writeAll_appends bytes).allow fun _ _ => trivial
  rw [disk, files] at publishes
  refine Fallible.Ends.bind (fun _ u => u.disk = w.disk ∧
    Published w (restoredPath container destinationDir unlocking.name) unlocking.Restores u.files)
    (publishes.mono ?_ ?_) ?_
  · intro _ u done
    exact ⟨done.1, done.2.of_start same⟩
  · intro _ u failed
    exact ⟨failed.1, Or.inl (failed.2.1.of_start same)⟩
  intro _ u published
  obtain ⟨disk, vacant, fits, content, attributes, restores, holds⟩ := published
  refine Fallible.Ends.bind (fun _ v => v.disk = w.disk ∧
    Published w (restoredPath container destinationDir unlocking.name) unlocking.Restores v.files)
    ((restoreAttributes_ends _ unlocking.metadata u holds).mono ?_ fun _ _ never => never.elim) ?_
  · intro _ v changed
    obtain ⟨same, attributes, holds⟩ := changed
    exact ⟨same.trans disk, vacant, fits, content, attributes, restores, holds⟩
  intro _ v published
  obtain ⟨disk, published⟩ := published
  refine Fallible.Ends.bind _
    ((removeWhen_ends removeContainer container v).recall.mono (fun _ _ done => done.2) ?_) ?_
  · intro _ x failed
    have kept := failed.2.1
    simp only [World.ground, Prod.mk.injEq] at kept
    exact ⟨kept.1.trans disk, Or.inr ⟨unlocking, sound, by rwa [kept.2], v, failed.2.1.symm, failed.1⟩⟩
  · intro _ x removed
    exact ⟨removed.1.trans disk, unlocking, sound, rfl, v.files, published, removed.2⟩

end Unlock

/-- A platform that refuses nothing and yields what its files hold. -/
def Disk.plain : Disk where
  verdict _ _ _ := none
  short _ := 0
  reads _ _ content := ⟨content, none⟩
  attributes _ := ⟨0o100644, some 0⟩
  random n := UInt8.ofNat n
  nameMax := 255

theorem Disk.plain_faultless : Disk.plain.Faultless := fun _ _ _ => rfl

theorem Disk.plain_honest : Disk.plain.Honest := fun _ _ _ => rfl

/-- A world of that platform which holds these files and nothing else. -/
def World.holding (files : List (Path × Node)) : World Unit where
  disk := Disk.plain
  files path := (files.find? fun file => file.1 = path).map Prod.snd
  clock := 0
  drawn := 0
  phone := ()

section Custodian
variable {σ : Type}

/-- The phone gives back every key it has wrapped, for the container it has wrapped it for. -/
def KeyCustodian.Honest (custodian : KeyCustodian σ) : Prop :=
  ∀ wrap s wrapper, (custodian.wrap wrap s).1 = .ok wrapper →
    ∀ unwrap t, unwrap.wrapper = wrapper → unwrap.binding = wrap.binding →
      (custodian.unwrap unwrap t).1 = .ok wrap.dek

/-- A phone that wraps a key into itself. -/
def KeyCustodian.plain : KeyCustodian σ where
  wrap request := return ⟨.phone, "phone", [], [], request.dek.val⟩
  unwrap request :=
    match Dek.fromSlice request.wrapper.ciphertext with
    | some dek => return dek
    | none => throw .corrupt

theorem KeyCustodian.plain_honest : (KeyCustodian.plain : KeyCustodian σ).Honest := by
  intro wrap s wrapper wrapped unwrap t same _
  cases wrapped
  simp only [KeyCustodian.plain, same, Dek.fromSlice_val]
  rfl

end Custodian

/-- A plain world with one small file. -/
def plainWorld (name : String) : World Unit := World.holding [(⟨[], utf8 name⟩, .file [1, 2, 3] ⟨0o100644, none⟩ 1)]

/-- A lock of that file, which it takes away. -/
def plainLock (name : String) : Except LockerError LockOutcome × World Unit :=
  @lockFile Crypto.plain Unit ⟨[], utf8 name⟩ ⟨none, true⟩ KeyCustodian.plain (plainWorld name)

/-- What it yields. The recovery key is drawn after the header's octets and the data key. -/
def plainLocked (name : String) : LockOutcome where
  container := lockDestination ⟨[], utf8 name⟩ ⟨none, true⟩
  recoveryCode := formatRecoveryCode ⟨(List.range 32).map fun i => UInt8.ofNat (71 + i), by simp⟩
  plaintextLen := 3
  originalRemoved := true

/-- A later plain world that holds the container and nothing else. -/
def plainLater (name : String) : World Unit :=
  World.holding [((plainLocked name).container,
    ((plainLock name).2.files (plainLocked name).container).getD .directory)]

end BioAuth.Locker
