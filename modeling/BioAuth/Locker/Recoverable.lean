import BioAuth.Locker.UnlockEnds
import BioAuth.Locker.RecoveryCodeRoundTrip
import BioAuth.Locker.UnlockOpens

namespace BioAuth.Locker
open BioAuth

section Locked
variable [Crypto] {σ : Type}

/-- A recovery wrapper opens under the key it was sealed with. -/
theorem unwrap_sealed (correct : Crypto.chacha20Poly1305.Correct tagLen) {dek : Dek} {binding : Block 32}
    {key : RecoveryKey} {salt : Block saltLen} {nonce : Block nonceLen} :
    Recovery.unwrap (Recovery.sealed dek binding key salt nonce) key binding = .ok dek := by
  simp only [Recovery.unwrap, except_bind_eq_ok, except_require_eq_ok, fixed_eq_ok]
  refine ⟨(), rfl, nonce, rfl, ?_⟩
  simp only [openKey, Recovery.sealed, sealKey, correct.decrypt_encrypt, Option.bind_some, Dek.fromSlice_val]

namespace Locking
variable {locking : Locking} {source : Path} {custodian : KeyCustodian σ} {text : Bytes}

/-- The sealed metadata of a lock fits its section. -/
theorem metadata_fits (correct : Crypto.chacha20Poly1305.Correct tagLen) (sound : locking.Sound source custodian) :
    tagLen < locking.metadataBlock.length ∧ locking.metadataBlock.length ≤ maxMetadataBytes := by
  obtain ⟨encoded, spelled, sealed⟩ := sound.metadata
  obtain ⟨valid, _, rfl⟩ := Metadata.encode_eq_ok.mp spelled
  have length : locking.metadataBlock.length = locking.metadata.spell.length + tagLen := by
    rw [sealed, ContainerCipher.sealMetadata, correct.encrypt_length]
  have fits := Metadata.spell_length_le valid
  have shape : 0 < locking.metadata.spell.length := by
    simp only [Metadata.spell, List.length_append]
    exact Nat.lt_of_lt_of_le (by decide : 0 < (Writer.array metadataFields).length) (by omega)
  exact ⟨by rw [length]; omega, by rw [length]; exact fits⟩

theorem head_valid (correct : Crypto.chacha20Poly1305.Correct tagLen) (sound : locking.Sound source custodian)
    (written : encodeWrappers locking.wrappers = .ok (spellWrappers locking.wrappers)) : locking.head.Valid where
  header := sound.header
  core := rfl
  binding := rfl
  wrappers := written
  metadata := metadata_fits correct sound

/-- The container a lock has built is complete, under the data key it has drawn. -/
theorem complete (correct : Crypto.chacha20Poly1305.Correct tagLen) (sound : locking.Sound source custodian)
    (written : encodeWrappers locking.wrappers = .ok (spellWrappers locking.wrappers))
    (length : text.length = locking.header.plaintextLen.toNat) :
    Complete (locking.container text) locking.head locking.dek locking.metadata text where
  valid := head_valid correct sound written
  length := sound.length
  described := by
    obtain ⟨encoded, spelled, sealed⟩ := sound.metadata
    refine ⟨encoded, ContainerCipher.openMetadata_eq_ok.mpr ?_, Metadata.decode_eq_ok.mpr spelled⟩
    rw [head, sealed]
    exact correct.decrypt_encrypt _ _ _ _
  body := by
    refine ⟨sealChunks locking.cipher locking.header text, rfl, ?_⟩
    have fits := CoreHeader.plaintextLen_le sound.header
    rw [← length] at fits
    have opens : Opens locking.cipher locking.header locking.header.chunkCount 0 text.length
        (sealChunks locking.cipher locking.header text) text := Opens.of_seal correct fits
    rwa [length] at opens

/-- An honest phone unlocks its own container. -/
theorem unlocks_phone (honest : custodian.Honest) (sound : locking.Sound source custodian) :
    Unlocks locking.head locking.dek (.phone custodian) := by
  obtain ⟨phone, salt, nonce, wrappers, kind, request, state, binding, dek, wrapped⟩ := sound.wrappers
  refine ⟨phone, ?_, fun unwrap s own bound => ?_⟩
  · simp [ContainerHead.wrapper, head, wrappers, kind]
  · rw [honest request state phone wrapped unwrap s own (bound.trans binding.symm), dek]

/-- The key behind the recovery code unlocks the container it was made for. -/
theorem unlocks_recovery (correct : Crypto.chacha20Poly1305.Correct tagLen) (sound : locking.Sound source custodian) :
    Unlocks locking.head locking.dek (.recovery locking.recoveryKey : UnlockKey σ) := by
  obtain ⟨phone, salt, nonce, wrappers, kind, _⟩ := sound.wrappers
  refine ⟨Recovery.sealed locking.dek locking.binding locking.recoveryKey salt nonce, ?_, ?_⟩
  · simp [ContainerHead.wrapper, head, wrappers, kind, Recovery.sealed]
  · exact unwrap_sealed correct

end Locking

/-- A lock that succeeds leaves the complete container of the source's content. -/
theorem lockFile_leaves {source : Path} {plan : LockPlan} {custodian : KeyCustodian σ} {w : World σ} {text : Bytes}
    {outcome : LockOutcome} (reads : w.disk.Honest) (held : contentAt w.files source = some text)
    (locked : (lockFile source plan custodian w).1 = .ok outcome) :
    ∃ locking, (lockPrepare source plan custodian w).1 = .ok locking ∧
      text.length = locking.header.plaintextLen.toNat ∧
      encodeWrappers locking.wrappers = .ok (spellWrappers locking.wrappers) ∧
      outcome.recoveryCode = formatRecoveryCode locking.recoveryKey ∧
      ∃ attributes, (lockFile source plan custodian w).2.files outcome.container =
        some (.file (locking.container text) attributes 1) := by
  have ends := lockFile_ends source plan custodian w
  rcases run : lockFile source plan custodian w with ⟨result, t⟩
  rw [run] at locked
  dsimp only at locked ⊢
  rw [locked] at run
  obtain ⟨_, container, locking, prepared, code, files, published, left⟩ := ends.good_of_run run
  obtain ⟨vacant, _, content, attributes, ⟨read, length, rfl, written, honest⟩, holds⟩ := published
  obtain rfl := honest reads text held
  refine ⟨locking, prepared, length, written, code, attributes, ?_⟩
  have apart : lockDestination source plan ≠ source := by
    intro same
    rw [same] at vacant
    obtain ⟨target, _, _, leads, found⟩ := contentAt_eq_some.mp held
    simp only [resolve, vacant, Option.some.injEq] at leads
    rw [← leads, vacant] at found
    cases found
  rw [container, left]
  split
  · rw [Function.update_of_ne apart, holds, Function.update_self]
  · rw [holds, Function.update_self]

/-- Some time after an operation: the platform works, the file is as it was left, and the directory is empty. -/
structure Later (t : World σ) (container : Path) (directory : List Bytes) (w : World σ) : Prop where
  faultless : w.disk.Faultless
  honest : w.disk.Honest
  file : w.files container = t.files container
  empty : ∀ name, w.files ⟨directory, name⟩ = none

/-- The container opens with the code that came with it and with the phone, and either way the file comes
back with its name and its octets. -/
def Recoverable (outcome : LockOutcome) (custodian : KeyCustodian σ) (w : World σ) (directory : List Bytes)
    (removeContainer : Bool) (name text : Bytes) : Prop :=
  (∃ key, parseRecoveryCode outcome.recoveryCode = .ok key ∧
    Restores (.recovery key) w outcome.container directory removeContainer name text) ∧
  Restores (.phone custodian) w outcome.container directory removeContainer name text

/-- The name passes the check an unlock makes of it, and leaves room for that of its scratch file. -/
def RestorableName (disk : Disk) (name : Bytes) : Prop :=
  ∃ original, name = utf8 original ∧ (⟨original, 0, 0, 0⟩ : Metadata).safeFileName = .ok original ∧
    name.length + 29 ≤ disk.nameMax

omit [Crypto] in
theorem nameable_iff {disk : Disk} {metadata : Metadata} :
    Nameable disk metadata ↔ RestorableName disk (utf8 metadata.originalName) := by
  have same : metadata.safeFileName = (⟨metadata.originalName, 0, 0, 0⟩ : Metadata).safeFileName := rfl
  constructor
  · intro nameable
    obtain ⟨⟨name, safe⟩, fits⟩ := nameable
    have original := safeFileName_eq safe
    rw [same, original] at safe
    exact ⟨metadata.originalName, rfl, safe, fits⟩
  · intro restorable
    obtain ⟨original, spelled, safe, fits⟩ := restorable
    obtain rfl := utf8_injective spelled
    exact ⟨⟨_, same.trans safe⟩, fits⟩

/-- What has been locked away comes back, with the code and with the phone, exactly where its name is one that
an unlock will use. -/
theorem lock_recoverable_iff (correct : Crypto.chacha20Poly1305.Correct tagLen) {source : Path} {plan : LockPlan}
    {custodian : KeyCustodian σ} (honest : custodian.Honest) {w later : World σ} {text : Bytes}
    {outcome : LockOutcome} (reads : w.disk.Honest) (held : contentAt w.files source = some text)
    (locked : (lockFile source plan custodian w).1 = .ok outcome) {directory : List Bytes}
    (ready : Later (lockFile source plan custodian w).2 outcome.container directory later) (removeContainer : Bool) :
    Recoverable outcome custodian later directory removeContainer source.name text ↔
      RestorableName later.disk source.name := by
  obtain ⟨locking, prepared, length, written, code, attributes, file⟩ := lockFile_leaves reads held locked
  have sound := lockPrepare_sound prepared
  have complete := locking.complete correct sound written length
  have opened : Ready later outcome.container (locking.container text) directory :=
    ⟨ready.faultless, ready.honest, ⟨attributes, ready.file.trans file⟩, ready.empty⟩
  have comes (key : UnlockKey σ) (unlocks : Unlocks locking.head locking.dek key) :
      Restores key later outcome.container directory removeContainer source.name text ↔
        RestorableName later.disk source.name := by
    rw [restores_iff opened complete unlocks, nameable_iff, ← sound.name]
    simp only [and_true]
  unfold Recoverable
  rw [comes _ (Locking.unlocks_phone honest sound), code, parseRecoveryCode_format]
  constructor
  · intro both
    exact both.2
  · intro restorable
    exact ⟨⟨locking.recoveryKey, rfl, (comes _ (Locking.unlocks_recovery correct sound)).mpr restorable⟩, restorable⟩

end Locked

section Names

theorem plainLater_later {name : String}
    (found : (plainLock name).2.files (plainLocked name).container ≠ none) :
    Later (plainLock name).2 (plainLocked name).container [utf8 "out"] (plainLater name) where
  faultless := Disk.plain_faultless
  honest := Disk.plain_honest
  file := by
    obtain ⟨node, there⟩ := Option.ne_none_iff_exists'.mp found
    simp [plainLater, World.holding, there]
  empty other := by simp [plainLater, World.holding, plainLocked, lockDestination, Path.suffixed]

/-- A note comes back. -/
theorem note_recoverable :
    @Recoverable Crypto.plain Unit (plainLocked "note") KeyCustodian.plain (plainLater "note") [utf8 "out"] true
      (utf8 "note") [1, 2, 3] := by
  have held : contentAt (plainWorld "note").files ⟨[], utf8 "note"⟩ = some [1, 2, 3] := by decide +kernel
  have locked : (plainLock "note").1 = .ok (plainLocked "note") := by decide +kernel
  have found : (plainLock "note").2.files (plainLocked "note").container ≠ none := by decide +kernel
  have restorable : RestorableName (plainLater "note").disk (utf8 "note") :=
    ⟨"note", rfl, by decide +kernel, by decide +kernel⟩
  exact (@lock_recoverable_iff Crypto.plain Unit (Aead.plain_correct _ _ _) ⟨[], utf8 "note"⟩ ⟨none, true⟩
    KeyCustodian.plain KeyCustodian.plain_honest (plainWorld "note") (plainLater "note") [1, 2, 3] (plainLocked "note")
    Disk.plain_honest held locked [utf8 "out"] (plainLater_later found) true).mpr restorable

/-- A file whose name holds a colon is locked and taken away, and comes back under neither key. -/
theorem colon_unrecoverable :
    contentAt (plainWorld "a:b").files ⟨[], utf8 "a:b"⟩ = some [1, 2, 3] ∧
      (plainLock "a:b").1 = .ok (plainLocked "a:b") ∧
      Later (plainLock "a:b").2 (plainLocked "a:b").container [utf8 "out"] (plainLater "a:b") ∧
      ¬@Recoverable Crypto.plain Unit (plainLocked "a:b") KeyCustodian.plain (plainLater "a:b") [utf8 "out"] true
        (utf8 "a:b") [1, 2, 3] := by
  have found : (plainLock "a:b").2.files (plainLocked "a:b").container ≠ none := by decide +kernel
  have refused : (@unlockFile Crypto.plain Unit (plainLocked "a:b").container (some [utf8 "out"]) true
      (.phone KeyCustodian.plain) (plainLater "a:b")).1.isOk = false := by decide +kernel
  refine ⟨by decide +kernel, by decide +kernel, plainLater_later found, fun recoverable => ?_⟩
  obtain ⟨_, outcome, t, run, _⟩ := recoverable
  rw [run] at refused
  cases refused

end Names

end BioAuth.Locker
