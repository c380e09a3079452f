import BioAuth.Locker.Recoverable
import BioAuth.Locker.RekeyEnds

namespace BioAuth.Locker
open BioAuth

section Sections
variable [Crypto] {σ : Type}

/-- A file whose front `ContainerHead.read` takes. -/
def ReadsBack (built : Bytes) : Prop := ∃ head rest, ContainerHead.read ⟨built, none⟩ = (.ok head, ⟨rest, none⟩)

/-- The three sections of a container are ones that reading one accepts, the wrappers if they can be written at all. -/
structure Accepted (core : Bytes) (wrappers : List Wrapper) (metadata : Bytes) : Prop where
  core : core.length ≤ maxCoreBytes ∧ ∃ header, CoreHeader.decode core = .ok header
  wrappers : ∀ encoded, encodeWrappers wrappers = .ok encoded →
    encoded.length ≤ maxWrapperBytes ∧ decodeWrappers encoded = .ok wrappers
  metadata : tagLen < metadata.length ∧ metadata.length ≤ maxMetadataBytes

omit [Crypto] in
theorem encodeWrappers_accepted {wrappers : List Wrapper} {encoded : Bytes} (written : encodeWrappers wrappers = .ok encoded) :
    encoded.length ≤ maxWrapperBytes ∧ decodeWrappers encoded = .ok wrappers := by
  refine ⟨?_, decodeWrappers_eq_ok.mpr written⟩
  obtain ⟨_, _, small, rfl⟩ := encodeWrappers_eq_ok.mp written
  exact small

theorem ContainerHead.Valid.accepted {head : ContainerHead} (valid : head.Valid) (wrappers : List Wrapper) :
    Accepted head.core wrappers head.metadata where
  core := by
    rw [valid.core]
    exact ⟨CoreHeader.encode_length_le _, head.header, CoreHeader.decode_eq_ok.mpr ⟨valid.header, rfl⟩⟩
  wrappers _ written := encodeWrappers_accepted written
  metadata := valid.metadata

theorem ContainerHead.Valid.readsBack {head : ContainerHead} (valid : head.Valid) (rest : Bytes) :
    ReadsBack (head.spell ++ rest) := ⟨head, rest, ContainerHead.read_spell valid rest none⟩

/-- Other wrappers that can be written leave a head valid. -/
theorem ContainerHead.Valid.rewrapped {head : ContainerHead} (valid : head.Valid) {wrappers : List Wrapper}
    (written : encodeWrappers wrappers = .ok (spellWrappers wrappers)) : { head with wrappers }.Valid where
  header := valid.header
  core := valid.core
  binding := valid.binding
  wrappers := written
  metadata := valid.metadata

/-- What a lock hands to the writer is accepted when it is read. -/
theorem Locking.Sound.accepted (correct : Crypto.chacha20Poly1305.Correct tagLen) {locking : Locking} {source : Path}
    {custodian : KeyCustodian σ} (sound : locking.Sound source custodian) :
    Accepted locking.core locking.wrappers locking.metadataBlock where
  core := ⟨CoreHeader.encode_length_le _, locking.header, CoreHeader.decode_eq_ok.mpr ⟨sound.header, rfl⟩⟩
  wrappers _ written := encodeWrappers_accepted written
  metadata := Locking.metadata_fits correct sound

theorem Locking.Built.readsBack (correct : Crypto.chacha20Poly1305.Correct tagLen) {locking : Locking} {source : Path}
    {custodian : KeyCustodian σ} (sound : locking.Sound source custodian) {disk : Disk} {files : Path → Option Node}
    {built : Bytes} (complete : locking.Built disk files source built) : ReadsBack built := by
  obtain ⟨text, _, rfl, written, _⟩ := complete
  exact (Locking.head_valid correct sound written).readsBack _

/-- What a rekey hands to the writer is accepted when it is read. -/
theorem Rekeying.Sound.head_valid {w : World σ} {container : Path} {custodian : KeyCustodian σ}
    {currentRecovery : Option RecoveryKey} {newRecovery : Bool} {rekeying : Rekeying}
    (sound : rekeying.Sound w container custodian currentRecovery newRecovery) : rekeying.head.Valid := by
  obtain ⟨_, read, _⟩ := sound.head
  exact (ContainerHead.read_eq_ok.mp read).1

theorem Rekeying.Built.readsBack {rekeying : Rekeying} (valid : rekeying.head.Valid) {built : Bytes}
    (complete : rekeying.Built built) : ReadsBack built := by
  obtain ⟨written, _, rfl⟩ := complete
  exact (valid.rewrapped written).readsBack _

omit [Crypto] in
theorem Published.imp {w : World σ} {destination : Path} {holds other : Bytes → Prop} {files : Path → Option Node}
    (published : Published w destination holds files) (weaker : ∀ content, holds content → other content) :
    Published w destination other files := by
  obtain ⟨vacant, fits, content, attributes, held, rest⟩ := published
  exact ⟨vacant, fits, content, attributes, weaker content held, rest⟩

/-- A lock hands accepted sections to its writer, and a container it leaves behind, however it ends, reads back. -/
theorem lockFile_readsBack (correct : Crypto.chacha20Poly1305.Correct tagLen) (source : Path) (plan : LockPlan)
    (custodian : KeyCustodian σ) (w : World σ) :
    (lockFile source plan custodian).Ends
      (fun outcome t => ∃ files, Published w outcome.container ReadsBack files ∧
        t.files = if plan.removeOriginal then Function.update files source none else files)
      (fun _ t => Untouched w t ∨ Published w (lockDestination source plan) ReadsBack t.files) w := by
  refine (lockFile_ends source plan custodian w).mono ?_ ?_
  · intro outcome t done
    obtain ⟨_, container, locking, prepared, _, files, published, left⟩ := done
    rw [container]
    exact ⟨files, published.imp fun _ built => built.readsBack correct (lockPrepare_sound prepared), left⟩
  · intro e t failed
    rcases failed.2 with untouched | ⟨locking, prepared, published, _⟩
    · exact Or.inl untouched
    · exact Or.inr (published.imp fun _ built => built.readsBack correct (lockPrepare_sound prepared))

/-- A rekey leaves the container as it was or under its second name, and a replacement it leaves behind reads back. -/
theorem rekeyFile_readsBack (container : Path) (custodian : KeyCustodian σ) (currentRecovery : Option RecoveryKey)
    (newRecovery : Bool) (w : World σ) :
    (rekeyFile container custodian currentRecovery newRecovery).Ends
      (fun _ t => ∃ built fresh, t.files container = some (.file built fresh 1) ∧ ReadsBack built)
      (fun _ t => Untouched w t ∨ Published w (replacementPath container) ReadsBack t.files ∨
        t.files (supersededPath container) = w.files container ∧
          ∃ built fresh, t.files (replacementPath container) = some (.file built fresh 1) ∧ ReadsBack built) w := by
  refine (rekeyFile_ends container custodian currentRecovery newRecovery w).mono ?_ ?_
  · intro code t done
    obtain ⟨_, rekeying, sound, _, left, _, _, built, fresh, complete, files⟩ := done
    refine ⟨built, fresh, ?_, complete.readsBack sound.head_valid⟩
    have second : supersededPath container ≠ container := suffixed_ne container
    rw [files, Function.update_of_ne second.symm, Function.update_self]
  · intro e t failed
    rcases failed.2 with untouched | ⟨rekeying, sound, published, _⟩ | ⟨rekeying, sound, moved, _⟩
    · exact Or.inl untouched
    · exact Or.inr (Or.inl (published.imp fun _ built => built.readsBack sound.head_valid))
    · obtain ⟨_, _, built, _, old, links, complete, found, fresh, files⟩ := moved
      have first : replacementPath container ≠ container := suffixed_ne container
      refine Or.inr (Or.inr ⟨?_, built, fresh, ?_, complete.readsBack sound.head_valid⟩)
      · rw [files, Function.update_self, found]
      · rw [files, Function.update_of_ne (replacement_ne_superseded container), Function.update_of_ne first,
          Function.update_self]

/-- Decoding a section accepts the one spelling of a value that may stand there, and whatever a lock or a rekey hands to
its writer is accepted. A container that either leaves behind reads back, however it ends. -/
theorem sections_canonical (correct : Crypto.chacha20Poly1305.Correct tagLen) :
    (∀ bytes header, CoreHeader.decode bytes = .ok header ↔ header.validate = .ok () ∧ header.encode = bytes) ∧
    (∀ bytes wrappers, decodeWrappers bytes = .ok wrappers ↔ encodeWrappers wrappers = .ok bytes) ∧
    (∀ bytes metadata, Metadata.decode bytes = .ok metadata ↔ metadata.encode = .ok bytes) ∧
    (∀ (source : Path) (plan : LockPlan) (custodian : KeyCustodian σ) (w : World σ),
      (∀ locking, (lockPrepare source plan custodian w).1 = .ok locking →
        Accepted locking.core locking.wrappers locking.metadataBlock) ∧
      (lockFile source plan custodian).Ends
        (fun outcome t => ∃ files, Published w outcome.container ReadsBack files ∧
          t.files = if plan.removeOriginal then Function.update files source none else files)
        (fun _ t => Untouched w t ∨ Published w (lockDestination source plan) ReadsBack t.files) w) ∧
    ∀ (container : Path) (custodian : KeyCustodian σ) (currentRecovery : Option RecoveryKey) (newRecovery : Bool)
      (w : World σ),
      (∀ rekeying, (rekeyPrepare container custodian currentRecovery newRecovery w).1 = .ok rekeying →
        Accepted rekeying.head.core rekeying.wrappers rekeying.head.metadata) ∧
      (rekeyFile container custodian currentRecovery newRecovery).Ends
        (fun _ t => ∃ built fresh, t.files container = some (.file built fresh 1) ∧ ReadsBack built)
        (fun _ t => Untouched w t ∨ Published w (replacementPath container) ReadsBack t.files ∨
          t.files (supersededPath container) = w.files container ∧
            ∃ built fresh, t.files (replacementPath container) = some (.file built fresh 1) ∧ ReadsBack built) w := by
  refine ⟨fun bytes header => ?_, fun bytes wrappers => decodeWrappers_eq_ok, fun bytes metadata => Metadata.decode_eq_ok,
    fun source plan custodian w => ⟨fun locking prepared => (lockPrepare_sound prepared).accepted correct,
      lockFile_readsBack correct source plan custodian w⟩,
    fun container custodian currentRecovery newRecovery w => ⟨fun rekeying prepared => ?_,
      rekeyFile_readsBack container custodian currentRecovery newRecovery w⟩⟩
  · rw [CoreHeader.decode_eq_ok]
    exact and_congr_right fun _ => eq_comm
  · have sound := rekeyPrepare_sound (Prod.ext prepared rfl)
    exact sound.head_valid.accepted rekeying.wrappers

end Sections

/-- A header whose chunks are empty. It can be written, and no reader takes it. -/
def emptyChunks : CoreHeader where
  containerVersion := 1
  chunkSize := 0
  noncePrefix := Block.replicate 7 1
  contentSalt := Block.replicate 32 2
  plaintextLen := 0

theorem emptyChunks_unread : ¬∀ header : CoreHeader, CoreHeader.decode header.encode = .ok header := by
  intro all
  have valid := (CoreHeader.decode_eq_ok.mp (all emptyChunks)).1
  revert valid
  decide +kernel

/-- The letter is locked into a container that reads back. -/
theorem letter_readsBack :
    ∃ outcome files, (plainLock "letter").1 = .ok outcome ∧
      Published (plainWorld "letter") outcome.container (@ReadsBack Crypto.plain) files := by
  obtain ⟨_, _, _, locks, _⟩ := @sections_canonical Crypto.plain Unit (Aead.plain_correct _ _ _)
  have leaves (w t : World Unit) (outcome : LockOutcome)
      (run : @lockFile Crypto.plain Unit ⟨[], utf8 "letter"⟩ ⟨none, true⟩ KeyCustodian.plain w = (.ok outcome, t)) :
      ∃ files, Published w outcome.container (@ReadsBack Crypto.plain) files := by
    obtain ⟨files, published, _⟩ := (locks _ _ _ w).2.good_of_run run
    exact ⟨files, published⟩
  have locked : (plainLock "letter").1 = .ok (plainLocked "letter") := by decide +kernel
  have run := @Prod.mk.eta _ _ (plainLock "letter")
  rw [locked] at run
  obtain ⟨files, published⟩ := leaves _ _ _ run.symm
  exact ⟨_, files, locked, published⟩

end BioAuth.Locker
