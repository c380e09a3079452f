import BioAuth.Locker.ChunkArithmetic
import BioAuth.Locker.Recoverable
import Mathlib.Data.Set.Function

namespace BioAuth.Locker
open BioAuth

section Integrity
variable [Crypto] {σ : Type}

/-- The text of one chunk. -/
def chunkText (header : CoreHeader) (text : Bytes) (index : Nat) : Bytes :=
  (text.drop (index * header.chunkSize.toNat)).take header.chunkSize.toNat

/-- What is ever sealed for a container, by its lock and by any rekey: its chunks, its metadata, and wrappers of
its data key under whatever recovery keys. -/
inductive Locking.Seals (locking : Locking) (text : Bytes) : Sealing (Block 32) (Block 12) → Prop
  | chunk {index : Nat} (within : index < locking.header.chunkCount) :
      Seals locking text ⟨locking.cipher.content,
        locking.header.chunkNonce index (index + 1 == locking.header.chunkCount), locking.binding.val,
        chunkText locking.header text index⟩
  | metadata {encoded : Bytes} (spelled : locking.metadata.encode = .ok encoded) :
      Seals locking text ⟨locking.cipher.metadata, locking.header.metadataNonce, locking.binding.val, encoded⟩
  | wrapper {key : RecoveryKey} {salt : Block saltLen} {nonce : Block nonceLen} :
      Seals locking text ⟨derive key.val salt.val recoveryInfo, nonce,
        (wrapperAad locking.binding .recovery "").val, locking.dek.val⟩

/-- An octet string the hash is asked about when it binds a header. -/
def bindingInput (core : Bytes) : Bytes := bindingDomain ++ magic ++ core

/-- The assumptions on the primitives. The cipher is ideal for the log of everything ever sealed, in which this
container's data key serves this container only; no two of the octet strings ever hashed collide. -/
structure Guarded (locking : Locking) (text : Bytes) (sealed : Sealing (Block 32) (Block 12) → Prop)
    (hashed : Set Bytes) : Prop where
  ideal : Crypto.chacha20Poly1305.Ideal sealed
  own : ∀ sealing, sealed sealing → locking.Seals text sealing ∨
    ∀ salt info, info = contentInfo ∨ info = metadataInfo → sealing.key ≠ derive locking.dek.val salt info
  collisionFree : Set.InjOn Crypto.sha256 hashed
  binding : bindingInput locking.core ∈ hashed
  wrapper : wrapperDomain ++ locking.binding.val ++ [WrapperKind.recovery.wire.toUInt8] ++ utf8 "" ∈ hashed

/-- Read a whole container with its data key, and collect the plaintext. -/
def readContainer (dek : Dek) (offered : Bytes) : Fallible Bytes LockerError Metadata := do
  let (head, reader) ← Fallible.within ContainerHead.read ⟨offered, none⟩
  let cipher := ContainerCipher.new dek head.header head.binding
  let encoded ← cipher.openMetadata head.metadata
  let metadata ← Metadata.decode encoded
  decryptChunks reader (fun bytes => modify (· ++ bytes)) head.header cipher
  return metadata

/-- A read that succeeds has found a head, its metadata and chunks that open to the plaintext. -/
theorem readContainer_ends (dek : Dek) (offered : Bytes) :
    (readContainer dek offered).Ends
      (fun metadata found => ∃ (head : ContainerHead) (body encoded : Bytes), head.Valid ∧ offered = head.spell ++ body ∧
        (ContainerCipher.new dek head.header head.binding).openMetadata head.metadata = .ok encoded ∧
        Metadata.decode encoded = .ok metadata ∧
        Opens (ContainerCipher.new dek head.header head.binding) head.header head.header.chunkCount 0
          head.header.plaintextLen.toNat body found)
      (fun _ _ => True) [] := by
  rw [Fallible.ends_iff]
  refine ⟨fun metadata found run => ?_, fun _ _ _ => trivial⟩
  simp only [readContainer, ↓Fallible.liftM_bind_eq_ok, Fallible.bind_eq_ok, Fallible.pure_eq_ok] at run
  obtain ⟨⟨head, rest⟩, _, within, encoded, authentic, described, decoded, _, written, opened, rfl, rfl⟩ := run
  obtain ⟨read, rfl⟩ := Fallible.within_eq_ok.mp within
  obtain ⟨valid, split, _⟩ := ContainerHead.read_eq_ok.mp read
  have writes (bytes : Bytes) : (modify (· ++ bytes) : Fallible Bytes LockerError Unit).Appends (· = ·)
      (fun _ more => more = bytes) fun _ => True := by
    intro content output same
    exact ⟨bytes, rfl, by rw [same]⟩
  have opens : (decryptChunks rest (fun bytes => modify (· ++ bytes)) head.header
      (ContainerCipher.new dek head.header head.binding) : Fallible Bytes LockerError Unit).Ends _ _ [] :=
    decryptChunks_opens (fun _ => trivial) writes [] [] rfl
  obtain ⟨more, ⟨_, opens⟩, same⟩ := opens.good_of_run opened
  rw [List.nil_append] at same
  exact ⟨head, rest.bytes, encoded, valid, split, authentic, decoded, by rwa [← same]⟩

variable {locking : Locking} {text : Bytes} {sealed : Sealing (Block 32) (Block 12) → Prop} {hashed : Set Bytes}

/-- Whatever opens under this container's data key and a binding of the same kind was sealed for this container,
under its own header. -/
theorem Guarded.opened (guarded : Guarded locking text sealed hashed) {core salt info : Bytes} {nonce : Block 12}
    {ciphertext plaintext : Bytes} (asked : bindingInput core ∈ hashed) (own : info = contentInfo ∨ info = metadataInfo)
    (opened : Crypto.chacha20Poly1305.decrypt (derive locking.dek.val salt info) nonce (bindingOf core).val ciphertext =
      some plaintext) :
    core = locking.core ∧
      ciphertext = Crypto.chacha20Poly1305.encrypt (derive locking.dek.val salt info) nonce (bindingOf core).val
        plaintext ∧
      ((∃ index < locking.header.chunkCount,
          locking.header.chunkNonce index (index + 1 == locking.header.chunkCount) = nonce ∧
            chunkText locking.header text index = plaintext) ∨
        locking.header.metadataNonce = nonce ∧ locking.metadata.encode = .ok plaintext) := by
  obtain ⟨made, same⟩ := guarded.ideal _ _ _ _ plaintext opened
  have bound (input : Bytes) (member : input ∈ hashed)
      (collides : (Crypto.sha256 input).val = (bindingOf core).val) : input = bindingInput core :=
    guarded.collisionFree member asked (Subtype.ext collides)
  obtain seals | foreign := guarded.own _ made
  · generalize record : (⟨derive locking.dek.val salt info, nonce, (bindingOf core).val, plaintext⟩ :
      Sealing (Block 32) (Block 12)) = sealing at seals
    cases seals with
    | @chunk index within =>
      obtain ⟨_, rfl, aad, rfl⟩ := Sealing.mk.inj record
      have inputs := bound _ guarded.binding aad.symm
      rw [bindingInput, bindingInput, List.append_cancel_left_eq] at inputs
      exact ⟨inputs.symm, same, Or.inl ⟨index, within, rfl, rfl⟩⟩
    | @metadata encoded spelled =>
      obtain ⟨_, rfl, aad, rfl⟩ := Sealing.mk.inj record
      have inputs := bound _ guarded.binding aad.symm
      rw [bindingInput, bindingInput, List.append_cancel_left_eq] at inputs
      exact ⟨inputs.symm, same, Or.inr ⟨rfl, spelled⟩⟩
    | wrapper =>
      obtain ⟨_, _, aad, _⟩ := Sealing.mk.inj record
      have inputs := bound _ guarded.wrapper aad.symm
      simp only [bindingInput, List.append_assoc] at inputs
      have domains := List.append_inj_left inputs (by decide +kernel)
      exact absurd domains (by decide +kernel)
  · exact absurd rfl (foreign salt info own)

/-- The chunks that open under a guarded container's header are its own, in order. -/
theorem Guarded.opens (guarded : Guarded locking text sealed hashed) (valid : locking.header.validate = .ok ())
    {todo index remaining : Nat} {body found : Bytes} (within : index + todo ≤ locking.header.chunkCount)
    (opens : Opens locking.cipher locking.header todo index remaining body found) :
    body = sealEach locking.cipher locking.header todo index (text.drop (index * locking.header.chunkSize.toNat)) ∧
      found = (text.drop (index * locking.header.chunkSize.toNat)).take (todo * locking.header.chunkSize.toNat) := by
  induction opens with
  | done => simp [sealEach]
  | @chunk todo index remaining buffer plaintext body rest length opened _ ih =>
    have few : locking.header.chunkCount ≤ maxChunkIndex := (CoreHeader.validate_eq_ok.mp valid).2.2
    rw [maxChunkIndex] at few
    have decrypted := ContainerCipher.openChunk_eq_ok.mp opened
    obtain ⟨_, made, sealing⟩ := guarded.opened guarded.binding (Or.inl rfl) decrypted
    obtain ⟨rest, later⟩ := ih (by omega)
    have next : (index + 1) * locking.header.chunkSize.toNat =
        index * locking.header.chunkSize.toNat + locking.header.chunkSize.toNat := Nat.succ_mul _ _
    obtain ⟨other, _, nonce, rfl⟩ | ⟨nonce, _⟩ := sealing
    · obtain rfl := chunkNonce_injective (by omega) (by omega) nonce
      rw [next, ← List.drop_drop] at rest later
      refine ⟨by rw [made, rest]; rfl, ?_⟩
      rw [later, Nat.succ_mul, Nat.add_comm, List.take_add]
      rfl
    · exact absurd nonce.symm chunkNonce_ne_metadataNonce

/-- With the container's data key, what is offered either fails to read or is that container but for its wrappers, and
yields its metadata and its text. -/
structure Intact (locking : Locking) (text offered : Bytes) : Prop where
  reads : (readContainer locking.dek offered).Ends
    (fun metadata found => metadata = locking.metadata ∧ found = text ∧ ∃ wrappers,
      offered = { locking.head with wrappers }.spell ++ sealChunks locking.cipher locking.header text)
    (fun _ _ => True) []

/-- Whatever is offered as a container, with a data key that a lock has drawn for its own, yields what was locked or
nothing. -/
theorem container_integrity {source : Path} {plan : LockPlan} {custodian : KeyCustodian σ} {w : World σ}
    {outcome : LockOutcome} (reads : w.disk.Honest) (held : contentAt w.files source = some text)
    (prepared : (lockPrepare source plan custodian w).1 = .ok locking)
    (locked : (lockFile source plan custodian w).1 = .ok outcome) (guarded : Guarded locking text sealed hashed)
    {offered : Bytes}
    (asked : ∀ head rest, ContainerHead.read ⟨offered, none⟩ = (.ok head, rest) → bindingInput head.core ∈ hashed) :
    Intact locking text offered := by
  have sound := lockPrepare_sound prepared
  obtain ⟨_, again, length, _⟩ := lockFile_leaves reads held locked
  rw [prepared, Except.ok.injEq] at again
  subst again
  refine ⟨(readContainer_ends locking.dek offered).mono ?_ fun _ _ _ => trivial⟩
  intro metadata found read
  obtain ⟨head, body, encoded, valid, rfl, authentic, decoded, opens⟩ := read
  have core := asked head ⟨body, none⟩ (ContainerHead.read_spell valid body none)
  have decrypted := ContainerCipher.openMetadata_eq_ok.mp authentic
  rw [ContainerCipher.new, valid.binding] at decrypted
  obtain ⟨same, made, sealing⟩ := guarded.opened core (Or.inr rfl) decrypted
  -- The offered core is the container's own, so its header and its binding are as well.
  have header : head.header = locking.header := by
    have mine := CoreHeader.decode_eq_ok.mpr ⟨sound.header, rfl⟩
    have theirs := CoreHeader.decode_eq_ok.mpr ⟨valid.header, valid.core⟩
    rw [same, Locking.core, mine, Except.ok.injEq] at theirs
    exact theirs.symm
  have binding : head.binding = locking.binding := by rw [valid.binding, same]; rfl
  rw [header, binding] at opens
  obtain ⟨rfl, rfl⟩ := guarded.opens sound.header (by omega) opens
  have whole : text.length ≤ locking.header.chunkCount * locking.header.chunkSize.toNat := by
    rw [length]
    exact CoreHeader.plaintextLen_le sound.header
  obtain ⟨_, _, nonce, _⟩ | ⟨_, spelled⟩ := sealing
  · rw [header] at nonce
    exact absurd nonce chunkNonce_ne_metadataNonce
  · have own := Metadata.decode_eq_ok.mpr spelled
    rw [decoded, Except.ok.injEq] at own
    obtain ⟨again, spelledAgain, block⟩ := sound.metadata
    rw [spelled, Except.ok.injEq] at spelledAgain
    refine ⟨own, ?_, head.wrappers, ?_⟩
    · rw [Nat.zero_mul, List.drop_zero, List.take_of_length_le whole]
    · have metadata : head.metadata = locking.metadataBlock := by
        rw [made, block, ← spelledAgain, header, same]
        rfl
      have parts : head = { locking.head with wrappers := head.wrappers } := by
        cases head
        simp_all [Locking.head]
      rw [← parts, Nat.zero_mul, List.drop_zero]
      rfl

end Integrity

section Note

/-- What the plain lock of a note has settled. -/
def noteLocking : Locking :=
  (@lockPrepare Crypto.plain Unit ⟨[], utf8 "note"⟩ ⟨none, true⟩ KeyCustodian.plain (plainWorld "note")).1.toOption.get
    (by decide +kernel)

/-- What it seals under the keys of its container. -/
def noteLog : List (Sealing (Block 32) (Block 12)) :=
  [⟨(@Locking.cipher Crypto.plain noteLocking).content, noteLocking.header.chunkNonce 0 true,
      (@Locking.binding Crypto.plain noteLocking).val, [1, 2, 3]⟩,
    ⟨(@Locking.cipher Crypto.plain noteLocking).metadata, noteLocking.header.metadataNonce,
      (@Locking.binding Crypto.plain noteLocking).val, noteLocking.metadata.spell⟩]

/-- The plain primitives, with a cipher that opens just that. -/
abbrev noteCrypto : Crypto :=
  { Crypto.plain with chacha20Poly1305 := (Aead.plain (Block 32) (Block 12) tagLen).recorded noteLog }

def noteOctets : Bytes := @Locking.container noteCrypto noteLocking [1, 2, 3]

def noteHashed : Set Bytes :=
  {bindingInput noteLocking.core, wrapperDomain ++ (@Locking.binding noteCrypto noteLocking).val ++
    [WrapperKind.recovery.wire.toUInt8] ++ utf8 ""}

theorem note_own {sealing : Sealing (Block 32) (Block 12)} (member : sealing ∈ noteLog) :
    @Locking.Seals noteCrypto noteLocking [1, 2, 3] sealing := by
  have spelled : noteLocking.metadata.encode = .ok noteLocking.metadata.spell := by decide +kernel
  have chunks : noteLocking.header.chunkCount = 1 := by decide +kernel
  have text : chunkText noteLocking.header [1, 2, 3] 0 = [1, 2, 3] := by decide +kernel
  have first := @Locking.Seals.chunk noteCrypto noteLocking [1, 2, 3] 0 (by rw [chunks]; decide)
  rw [chunks, text] at first
  obtain rfl | rfl := List.mem_pair.mp member
  · exact first
  · exact @Locking.Seals.metadata noteCrypto noteLocking [1, 2, 3] _ spelled

theorem note_collisionFree : Set.InjOn noteCrypto.sha256 noteHashed := by
  have apart : noteCrypto.sha256 (bindingInput noteLocking.core) ≠ noteCrypto.sha256 (wrapperDomain ++
      (@Locking.binding noteCrypto noteLocking).val ++ [WrapperKind.recovery.wire.toUInt8] ++ utf8 "") := by
    decide +kernel
  intro a inA b inB same
  obtain rfl | rfl := inA <;> obtain rfl | rfl := inB
  · rfl
  · exact absurd same apart
  · exact absurd same.symm apart
  · rfl

/-- The note's own container reads as what it is. -/
theorem note_integrity : @Intact noteCrypto noteLocking [1, 2, 3] noteOctets := by
  have held : contentAt (plainWorld "note").files ⟨[], utf8 "note"⟩ = some [1, 2, 3] := by decide +kernel
  have prepared : (@lockPrepare noteCrypto Unit ⟨[], utf8 "note"⟩ ⟨none, true⟩ KeyCustodian.plain
      (plainWorld "note")).1 = .ok noteLocking := by decide +kernel
  have locked : (@lockFile noteCrypto Unit ⟨[], utf8 "note"⟩ ⟨none, true⟩ KeyCustodian.plain
      (plainWorld "note")).1 = .ok (plainLocked "note") := by decide +kernel
  have core : (@ContainerHead.read noteCrypto ⟨noteOctets, none⟩).1.toOption.map ContainerHead.core =
      some noteLocking.core := by decide +kernel
  have guarded := @Guarded.mk noteCrypto noteLocking [1, 2, 3] (· ∈ noteLog) noteHashed
    (Aead.recorded_ideal _ _) (fun _ member => Or.inl (note_own member)) note_collisionFree (Or.inl rfl) (Or.inr rfl)
  have asked : ∀ head rest, @ContainerHead.read noteCrypto ⟨noteOctets, none⟩ = (.ok head, rest) →
      bindingInput head.core ∈ noteHashed := by
    intro head rest read
    rw [read] at core
    have same : head.core = noteLocking.core := Option.some.inj core
    rw [same]
    exact Or.inl rfl
  exact @container_integrity noteCrypto Unit noteLocking [1, 2, 3] (· ∈ noteLog) noteHashed
    ⟨[], utf8 "note"⟩ ⟨none, true⟩ KeyCustodian.plain (plainWorld "note") (plainLocked "note") Disk.plain_honest held
    prepared locked guarded noteOctets asked

end Note

end BioAuth.Locker
