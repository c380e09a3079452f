import BioAuth.Locker.UnlockEnds

namespace BioAuth.Locker
open BioAuth

section Works
variable {σ : Type} {w : World σ} {path : Path} {content : Bytes} {attributes : Attributes}

theorem syscall_works (faultless : w.disk.Faultless) (kind : Syscall) (path : Path) :
    (syscall kind path : LockerM σ Unit) w = (.ok (), { w with clock := w.clock + 1 }) := by
  unfold syscall
  rw [faultless]

theorem entry_found {node : Node} (found : w.files path = some node) : (entry path : LockerM σ Node) w = (.ok node, w) := by
  rw [entry, Fallible.bind_run_ok _ (Fallible.get_run w)]
  simp only [found]
  rfl

/-- A file with one name passes the check, whether that is asked for or not. -/
theorem soleRegularFile_works (faultless : w.disk.Faultless)
    (found : w.files path = some (.file content attributes 1)) (soleName : Bool) :
    (soleRegularFile path soleName : LockerM σ (UInt64 × Attributes)) w =
      (.ok (UInt64.ofNat content.length, attributes), { w with clock := w.clock + 1 }) := by
  have looked : (symlinkMetadata path : LockerM σ Node) w =
      (.ok (.file content attributes 1), { w with clock := w.clock + 1 }) := by
    rw [symlinkMetadata, Fallible.bind_run_ok _ (syscall_works faultless .stat path)]
    exact entry_found found
  rw [soleRegularFile, Fallible.bind_run_ok _ looked]
  simp [throughLink, regularFile, require, Fallible.bind_run, Fallible.pure_run]

theorem openRead_works (faultless : w.disk.Faultless) (honest : w.disk.Honest)
    (found : w.files path = some (.file content attributes 1)) :
    (openRead path : LockerM σ Stream) w = (.ok ⟨content, none⟩, { w with clock := w.clock + 1 }) := by
  rcases run : openRead path w with ⟨error | reader, t⟩
  · exfalso
    simp [openRead, followed, entry, Fallible.bind_run, syscall_works faultless, Fallible.get_run, Fallible.pure_run,
      resolve, found] at run
  · have clock : t = { w with clock := w.clock + 1 } := by
      simp [openRead, followed, entry, Fallible.bind_run, syscall_works faultless, Fallible.get_run,
        Fallible.pure_run, resolve, found] at run
      exact run.2.symm
    rw [openRead_honest honest (contentAt_file found) run, clock]

end Works

section Opens
variable [Crypto] {σ : Type}

/-- A complete container, and what its data key makes of it. -/
structure Complete (content : Bytes) (head : ContainerHead) (dek : Dek) (metadata : Metadata) (text : Bytes) : Prop where
  valid : head.Valid
  length : metadata.originalLen = head.header.plaintextLen
  described : ∃ encoded, (ContainerCipher.new dek head.header head.binding).openMetadata head.metadata = .ok encoded ∧
    Metadata.decode encoded = .ok metadata
  body : ∃ body, content = head.spell ++ body ∧ Opens (ContainerCipher.new dek head.header head.binding) head.header
    head.header.chunkCount 0 head.header.plaintextLen.toNat body text

/-- The key yields the data key of the container, at any time. -/
def Unlocks (head : ContainerHead) (dek : Dek) : UnlockKey σ → Prop
  | .phone custodian => ∃ wrapper, head.wrapper .phone = .ok wrapper ∧ ∀ request s, request.wrapper = wrapper →
      request.binding = head.binding → (custodian.unwrap request s).1 = .ok dek
  | .recovery key => ∃ wrapper, head.wrapper .recovery = .ok wrapper ∧ Recovery.unwrap wrapper key head.binding = .ok dek

/-- A working platform which holds the container under its path, and nothing in the directory. -/
structure Ready (w : World σ) (container : Path) (content : Bytes) (directory : List Bytes) : Prop where
  faultless : w.disk.Faultless
  honest : w.disk.Honest
  file : ∃ attributes, w.files container = some (.file content attributes 1)
  empty : ∀ name, w.files ⟨directory, name⟩ = none

/-- The name passes the check made of it when it is restored, and leaves room for that of the scratch file. -/
def Nameable (disk : Disk) (metadata : Metadata) : Prop :=
  (∃ name, metadata.safeFileName = .ok name) ∧ (utf8 metadata.originalName).length + 29 ≤ disk.nameMax

/-- An unlock into the directory succeeds, and leaves the text there under this name. -/
def Restores (key : UnlockKey σ) (w : World σ) (container : Path) (directory : List Bytes) (removeContainer : Bool)
    (name text : Bytes) : Prop :=
  ∃ outcome t, unlockFile container (some directory) removeContainer key w = (.ok outcome, t) ∧
    outcome.restored = ⟨directory, name⟩ ∧ ∃ attributes, t.files ⟨directory, name⟩ = some (.file text attributes 1)

omit [Crypto] in
theorem safeFileName_eq {metadata : Metadata} {name : String} (safe : metadata.safeFileName = .ok name) :
    name = metadata.originalName := by
  simp only [Metadata.safeFileName, except_bind_eq_ok, except_pure_eq_ok] at safe
  obtain ⟨_, _, _, _, same⟩ := safe
  exact same.symm

variable {w : World σ} {container : Path} {content text : Bytes} {head : ContainerHead} {dek : Dek}
  {metadata : Metadata} {key : UnlockKey σ} {directory : List Bytes}

theorem unlockDek_works (unlocks : Unlocks head dek key) (w : World σ) :
    (unlockDek container head key).Ends (fun found t => dek = found ∧ t.ground = w.ground) (fun _ _ => False) w := by
  cases key with
  | phone custodian =>
    obtain ⟨wrapper, found, unwraps⟩ := unlocks
    have unwrapped := unwraps ⟨head.binding, wrapper, container.fileName.getD "", head.header.plaintextLen⟩ w.phone
      rfl rfl
    refine Fallible.Ends.bind_of_run (Fallible.liftM_eq_ok.mpr ⟨found, rfl⟩) ?_
    unfold Fallible.Ends askPhone
    rw [unwrapped]
    exact ⟨rfl, rfl⟩
  | recovery key =>
    obtain ⟨wrapper, found, unwrapped⟩ := unlocks
    refine Fallible.Ends.bind_of_run (Fallible.liftM_eq_ok.mpr ⟨found, rfl⟩) ?_
    rw [unwrapped]
    exact ⟨rfl, rfl⟩

/-- With the right key for a complete container, only the name can stand in the way of an unlock. -/
theorem unlockPrepare_works (ready : Ready w container content directory)
    (complete : Complete content head dek metadata text) (unlocks : Unlocks head dek key) (removeContainer : Bool) :
    (unlockPrepare container removeContainer key).Ends
      (fun unlocking t => t.ground = w.ground ∧ unlocking.metadata = metadata ∧
        metadata.safeFileName = .ok unlocking.name ∧ unlocking.head = head ∧ unlocking.dek = dek ∧
        ∃ body, unlocking.reader = ⟨body, none⟩ ∧ Opens unlocking.cipher head.header head.header.chunkCount 0
          head.header.plaintextLen.toNat body text)
      (fun _ _ => ∀ name, metadata.safeFileName ≠ .ok name) w := by
  obtain ⟨attributes, file⟩ := ready.file
  obtain ⟨body, spelled, opens⟩ := complete.body
  obtain ⟨encoded, authentic, decoded⟩ := complete.described
  have read : Fallible.within ContainerHead.read ⟨content, none⟩ ({ w with clock := w.clock + 1 + 1 } : World σ) =
      (.ok (head, ⟨body, none⟩), { w with clock := w.clock + 1 + 1 }) := by
    rw [spelled]
    exact Fallible.within_eq_ok.mpr ⟨ContainerHead.read_spell complete.valid body none, rfl⟩
  refine Fallible.Ends.bind_of_run (soleRegularFile_works ready.faultless file removeContainer) ?_
  refine Fallible.Ends.bind_of_run (openRead_works ready.faultless ready.honest file) ?_
  refine Fallible.Ends.bind_of_run read ?_
  refine Fallible.Ends.bind _ ((unlockDek_works unlocks _).mono (fun _ _ done => done) fun _ _ never => never.elim) ?_
  intro _ t unlocked
  obtain ⟨rfl, same⟩ := unlocked
  refine Fallible.Ends.bind_of_run (Fallible.liftM_eq_ok.mpr ⟨authentic, rfl⟩) ?_
  refine Fallible.Ends.bind_of_run (Fallible.liftM_eq_ok.mpr ⟨decoded, rfl⟩) ?_
  have checked : (require (metadata.originalLen = head.header.plaintextLen)
      (.malformed "metadata contradicts the header") : LockerM σ Unit) t = (.ok (), t) :=
    Fallible.require_eq_ok.mpr ⟨complete.length, rfl⟩
  refine Fallible.Ends.bind_of_run checked ?_
  rcases named : metadata.safeFileName with error | name
  · intro name safe
    cases safe
  · exact ⟨same, rfl, rfl, rfl, rfl, body, rfl, opens⟩

omit [Crypto] in
/-- In an empty directory of a working platform, only the length of the name can keep a file from being made. -/
theorem not_blocked (ready : Ready w container content directory) {name : String}
    (fits : (utf8 name).length + 29 ≤ w.disk.nameMax) : ¬Blocked w.disk w.files ⟨directory, utf8 name⟩ := by
  intro blocked
  obtain refused | taken | unnamed | long | ⟨other, suffix, taken⟩ := blocked
  · exact refused ready.faultless
  · exact taken (ready.empty _)
  · simp [Path.fileName] at unnamed
  · dsimp only at long
    omega
  · exact taken (ready.empty _)

/-- With the right key, unlocking a complete container fails only where its name may not be used. -/
theorem unlockFile_works (ready : Ready w container content directory)
    (complete : Complete content head dek metadata text) (unlocks : Unlocks head dek key) (removeContainer : Bool) :
    (unlockFile container (some directory) removeContainer key).Ends
      (fun outcome t => Nameable w.disk metadata ∧ outcome.restored = ⟨directory, utf8 metadata.originalName⟩ ∧
        ∃ attributes, t.files ⟨directory, utf8 metadata.originalName⟩ = some (.file text attributes 1))
      (fun _ _ => ¬Nameable w.disk metadata) w := by
  refine Fallible.Ends.bind _ ((unlockPrepare_works ready complete unlocks removeContainer).mono
    (fun _ _ done => done) fun _ _ refused nameable => ?_) ?_
  · obtain ⟨⟨name, safe⟩, _⟩ := nameable
    exact refused name safe
  intro unlocking t prepared
  obtain ⟨same, described, safe, rfl, rfl, body, read, opens⟩ := prepared
  have name := safeFileName_eq safe
  have there := same
  simp only [World.ground, Prod.mk.injEq] at there
  obtain ⟨disk, files⟩ := there
  have writes : ∀ temporary, t.files temporary = none →
      (decryptChunks unlocking.reader (writeAll temporary) unlocking.head.header unlocking.cipher : LockerM σ Unit).Appends
        (Scratch t.disk t.files temporary) (fun _ more => more = text) fun _ => ¬t.disk.Faultless := by
    intro temporary _
    rw [read]
    exact decryptChunks_complete (fun bytes => writeAll_appends bytes) opens
  have publishes := publish_ends ⟨directory, utf8 unlocking.name⟩ _ t writes
  rw [disk, files] at publishes
  refine Fallible.Ends.bind _ (publishes.mono (fun _ _ done => done) ?_) ?_
  · intro _ u failed nameable
    obtain refused | blocked := failed.2.2
    · exact refused ready.faultless
    · exact not_blocked ready (by rw [name]; exact nameable.2) blocked
  intro _ u published
  obtain ⟨kept, vacant, fits, restored, attributes, rfl, holds⟩ := published
  rw [name, disk] at fits
  have nameable : Nameable w.disk metadata := ⟨⟨unlocking.name, safe⟩, fits⟩
  refine Fallible.Ends.bind _ ((restoreAttributes_ends _ unlocking.metadata u holds).mono (fun _ _ done => done)
    fun _ _ never => never.elim) ?_
  intro _ v changed
  obtain ⟨still, attributes, holds⟩ := changed
  obtain ⟨original, file⟩ := ready.file
  have apart : container ≠ ⟨directory, utf8 unlocking.name⟩ := by
    intro same
    rw [same, ready.empty] at file
    cases file
  have there : v.files container = some (.file content original 1) := by
    rw [holds, Function.update_of_ne apart, files, file]
  refine Fallible.Ends.bind _ ((removeWhen_ends removeContainer container v).mono (fun _ _ done => done) ?_) ?_
  · intro _ x failed
    obtain ⟨_, _, refused | missing | directory⟩ := failed
    · rw [still, kept, ready.faultless] at refused
      exact absurd rfl refused
    · rw [there] at missing
      cases missing
    · rw [there] at directory
      cases directory
  · intro _ x removed
    refine ⟨nameable, by rw [← name]; rfl, attributes, ?_⟩
    rw [removed.2, ← name]
    split
    · rw [Function.update_of_ne apart.symm, holds, Function.update_self]
    · rw [holds, Function.update_self]

/-- With the right key, a complete container comes back exactly where its name may be used, and then under that
name and with its text. -/
theorem restores_iff (ready : Ready w container content directory)
    (complete : Complete content head dek metadata text) (unlocks : Unlocks head dek key) {removeContainer : Bool}
    {name found : Bytes} :
    Restores key w container directory removeContainer name found ↔
      Nameable w.disk metadata ∧ name = utf8 metadata.originalName ∧ found = text := by
  have ends := unlockFile_works ready complete unlocks removeContainer
  constructor
  · intro restores
    obtain ⟨outcome, t, run, restored, _, file⟩ := restores
    obtain ⟨nameable, there, _, holds⟩ := ends.good_of_run run
    have same : name = utf8 metadata.originalName := congrArg Path.name (restored.symm.trans there)
    rw [← same, file] at holds
    cases holds
    exact ⟨nameable, same, rfl⟩
  · intro restorable
    obtain ⟨nameable, rfl, rfl⟩ := restorable
    rcases run : unlockFile container (some directory) removeContainer key w with ⟨error | outcome, t⟩
    · exact absurd nameable (ends.bad_of_run run)
    · exact ⟨outcome, t, run, (ends.good_of_run run).2⟩

end Opens

end BioAuth.Locker
