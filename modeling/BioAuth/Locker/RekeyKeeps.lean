import BioAuth.Locker.Recoverable
import BioAuth.Locker.RekeyEnds

namespace BioAuth.Locker
open BioAuth

section Rekeyed
variable [Crypto] {σ : Type} {container : Path} {content text : Bytes} {head : ContainerHead} {dek : Dek}
  {metadata : Metadata} {custodian : KeyCustodian σ} {newRecovery : Bool} {code : Option String}

/-- Whatever the one key restores from the one content of a container, the other key restores from the other. -/
def SameUnlock (container : Path) (content renewed : Bytes) (key other : UnlockKey σ) : Prop :=
  ∀ (before after : World σ) (directory : List Bytes) (removeContainer : Bool) (name found : Bytes),
    Ready before container content directory → Ready after container renewed directory →
    before.disk.nameMax = after.disk.nameMax →
    (Restores other after container directory removeContainer name found ↔
      Restores key before container directory removeContainer name found)

theorem sameUnlock {renewed : Bytes} {newHead : ContainerHead} {key other : UnlockKey σ}
    (complete : Complete content head dek metadata text) (completed : Complete renewed newHead dek metadata text)
    (unlocks : Unlocks head dek key) (unlocked : Unlocks newHead dek other) :
    SameUnlock container content renewed key other := by
  intro before after directory removeContainer name found ready readied same
  rw [restores_iff ready complete unlocks, restores_iff readied completed unlocked, Nameable, Nameable, same]

/-- What a rekey has made of a container: new wrappers in front of the same octets, and they lead to the same file. -/
structure Renewed (container : Path) (custodian : KeyCustodian σ) (key : UnlockKey σ) (newRecovery : Bool)
    (content : Bytes) (head : ContainerHead) (dek : Dek) (code : Option String) (renewed : Bytes) : Prop where
  octets : ∃ phone recovery body, content = head.spell ++ body ∧
    renewed = { head with wrappers := phone :: recovery }.spell ++ body ∧ phone.kind = .phone ∧
    (∃ (request : WrapRequest) (state : σ), request.binding = head.binding ∧ request.dek = dek ∧
      (custodian.wrap request state).1 = .ok phone) ∧
    RekeyRecovery head dek newRecovery recovery code
  phone : SameUnlock container content renewed key (.phone custodian)
  recovery : if newRecovery then
      ∃ spelled fresh, code = some spelled ∧ parseRecoveryCode spelled = .ok fresh ∧
        SameUnlock container content renewed key (.recovery fresh)
    else
      code = none ∧ ∀ old, Unlocks head dek (.recovery old : UnlockKey σ) →
        SameUnlock container content renewed (.recovery old : UnlockKey σ) (.recovery old)

/-- The head a rekey has read is the container's own, and so is the data key it works with. -/
theorem Rekeying.Sound.same {w : World σ} {rekeying : Rekeying} {currentRecovery : Option RecoveryKey}
    (sound : rekeying.Sound w container custodian currentRecovery newRecovery) (reads : w.disk.Honest)
    (held : contentAt w.files container = some content) (complete : Complete content head dek metadata text)
    (unlocks : Unlocks head dek (currentKey custodian currentRecovery)) :
    rekeying.head = head ∧ rekeying.dek = dek ∧ content = head.spell ++ rekeying.reader.bytes := by
  obtain ⟨reader, read, same⟩ := sound.head
  obtain rfl := same reads content held
  obtain ⟨body, rfl, _⟩ := complete.body
  rw [ContainerHead.read_spell complete.valid, Prod.mk.injEq, Except.ok.injEq] at read
  obtain ⟨here, rest⟩ := read
  refine ⟨here.symm, ?_, by rw [← rest]⟩
  have found := sound.dek
  rw [← here] at found
  cases currentRecovery with
  | none =>
    obtain ⟨request, state, wrapper, binding, unwrapped⟩ := found
    obtain ⟨other, listed, unwraps⟩ := unlocks
    rw [listed, Except.ok.injEq] at wrapper
    rw [unwraps request state wrapper.symm binding, Except.ok.injEq] at unwrapped
    exact unwrapped.symm
  | some key =>
    obtain ⟨wrapper, listed, unwrapped⟩ := found
    obtain ⟨other, also, unwraps⟩ := unlocks
    rw [listed, Except.ok.injEq] at also
    rw [also, unwraps, Except.ok.injEq] at unwrapped
    exact unwrapped.symm

/-- With new wrappers in front of it, a complete container is complete. -/
theorem Complete.rewrapped (complete : Complete content head dek metadata text) {wrappers : List Wrapper}
    (written : encodeWrappers wrappers = .ok (spellWrappers wrappers)) {body : Bytes}
    (split : content = head.spell ++ body) :
    Complete ({ head with wrappers }.spell ++ body) { head with wrappers } dek metadata text where
  valid := ⟨complete.valid.header, complete.valid.core, complete.valid.binding, written, complete.valid.metadata⟩
  length := complete.length
  described := complete.described
  body := by
    obtain ⟨rest, other, opens⟩ := complete.body
    rw [split, List.append_cancel_left_eq] at other
    exact ⟨body, rfl, by rwa [other]⟩

omit [Crypto] in
/-- The recovery wrapper that is found first is still the first one when only those are kept. -/
theorem wrapper_recovery_kept {phone wrapper : Wrapper} (kind : phone.kind = .phone)
    (found : head.wrapper .recovery = .ok wrapper) :
    ContainerHead.wrapper { head with
      wrappers := phone :: head.wrappers.filter fun wrapper => wrapper.kind = .recovery } .recovery = .ok wrapper := by
  unfold ContainerHead.wrapper at found ⊢
  rw [List.find?_cons_of_neg (by simp [kind]), List.find?_filter]
  simpa using found

/-- A rekey changes only who can open a container. -/
theorem rekey_changes_only_keys (correct : Crypto.chacha20Poly1305.Correct tagLen) (honest : custodian.Honest)
    {currentRecovery : Option RecoveryKey} {w : World σ} {attributes : Attributes} {links : Nat}
    (reads : w.disk.Honest) (file : w.files container = some (.file content attributes links))
    (complete : Complete content head dek metadata text)
    (unlocks : Unlocks head dek (currentKey custodian currentRecovery))
    (rekeyed : (rekeyFile container custodian currentRecovery newRecovery w).1 = .ok code) :
    ∃ renewed after, (rekeyFile container custodian currentRecovery newRecovery w).2.files container =
        some (.file renewed after 1) ∧
      Renewed container custodian (currentKey custodian currentRecovery) newRecovery content head dek code renewed := by
  have ends := rekeyFile_ends container custodian currentRecovery newRecovery w
  rcases run : rekeyFile container custodian currentRecovery newRecovery w with ⟨result, t⟩
  rw [run] at rekeyed
  dsimp only at rekeyed ⊢
  rw [rekeyed] at run
  obtain ⟨_, rekeying, sound, rfl, left, _, _, renewed, after, built, holds⟩ := ends.good_of_run run
  obtain ⟨rfl, rfl, split⟩ := sound.same reads (contentAt_file file) complete unlocks
  obtain ⟨written, _, rfl⟩ := built
  obtain ⟨phone, recovery, wrappers, kind, wrapped, made⟩ := sound.wrappers
  rw [Rekeying.newHead, wrappers] at holds
  rw [wrappers] at written
  have completed := complete.rewrapped written split
  have second : supersededPath container ≠ container := suffixed_ne container
  have byPhone : Unlocks { rekeying.head with wrappers := phone :: recovery } rekeying.dek (.phone custodian) := by
    obtain ⟨request, state, binding, dek, answered⟩ := wrapped
    refine ⟨phone, by simp [ContainerHead.wrapper, kind], fun unwrap s own bound => ?_⟩
    rw [honest request state phone answered unwrap s own (bound.trans binding.symm), dek]
  refine ⟨_, after, by rw [holds, Function.update_of_ne second.symm, Function.update_self],
    ⟨phone, recovery, _, split, rfl, kind, wrapped, made⟩, sameUnlock complete completed unlocks byPhone, ?_⟩
  unfold RekeyRecovery at made
  cases newRecovery with
  | true =>
    obtain ⟨fresh, salt, nonce, rfl, spelled⟩ := made
    refine ⟨_, fresh, spelled, parseRecoveryCode_format fresh, sameUnlock complete completed unlocks ?_⟩
    exact ⟨Recovery.sealed rekeying.dek rekeying.head.binding fresh salt nonce,
      by simp [ContainerHead.wrapper, kind, Recovery.sealed], unwrap_sealed correct⟩
  | false =>
    obtain ⟨rfl, none⟩ := made
    refine ⟨none, fun old opens => sameUnlock complete completed opens ?_⟩
    obtain ⟨wrapper, found, unwrapped⟩ := opens
    exact ⟨wrapper, wrapper_recovery_kept kind found, unwrapped⟩

end Rekeyed

section Note

/-- The note's container after a rekey with the phone, which makes a new recovery code. -/
def rekeyedNote : Except LockerError (Option String) × World Unit :=
  @rekeyFile Crypto.plain Unit (plainLocked "note").container KeyCustodian.plain none true (plainLater "note")

/-- A note survives a rekey. -/
theorem note_rekeyed :
    ∃ (locking : Locking) (code : String) (renewed : Bytes) (after : Attributes), rekeyedNote.1 = .ok (some code) ∧
      rekeyedNote.2.files (plainLocked "note").container = some (.file renewed after 1) ∧
      @Renewed Crypto.plain Unit (plainLocked "note").container KeyCustodian.plain (.phone KeyCustodian.plain) true
        (@Locking.container Crypto.plain locking [1, 2, 3]) (@Locking.head Crypto.plain locking) locking.dek (some code)
        renewed := by
  have held : contentAt (plainWorld "note").files ⟨[], utf8 "note"⟩ = some [1, 2, 3] := by decide +kernel
  have locked : (plainLock "note").1 = .ok (plainLocked "note") := by decide +kernel
  obtain ⟨locking, prepared, length, written, _, attributes, file⟩ :=
    @lockFile_leaves Crypto.plain Unit ⟨[], utf8 "note"⟩ ⟨none, true⟩ KeyCustodian.plain (plainWorld "note") [1, 2, 3]
      (plainLocked "note") Disk.plain_honest held locked
  have sound := @lockPrepare_sound Crypto.plain Unit _ _ _ _ _ prepared
  have found : (plainLock "note").2.files (plainLocked "note").container ≠ none := by decide +kernel
  have there : (plainLater "note").files (plainLocked "note").container =
      some (.file (@Locking.container Crypto.plain locking [1, 2, 3]) attributes 1) := by
    rw [(plainLater_later found).file, plainLock]
    exact file
  have rekeyed : rekeyedNote.1 = .ok (some (formatRecoveryCode ⟨(List.range 32).map fun i => UInt8.ofNat i, by simp⟩)) := by
    decide +kernel
  have correct : (@Crypto.chacha20Poly1305 Crypto.plain).Correct tagLen := Aead.plain_correct _ _ _
  obtain ⟨renewed, after, result, kept⟩ := @rekey_changes_only_keys Crypto.plain Unit
    (plainLocked "note").container (@Locking.container Crypto.plain locking [1, 2, 3]) [1, 2, 3]
    (@Locking.head Crypto.plain locking) locking.dek locking.metadata KeyCustodian.plain true _ correct
    KeyCustodian.plain_honest none (plainLater "note") attributes 1 Disk.plain_honest there
    (@Locking.complete Crypto.plain Unit locking _ _ _ correct sound written length)
    (@Locking.unlocks_phone Crypto.plain Unit locking _ _ KeyCustodian.plain_honest sound) rekeyed
  refine ⟨locking, _, renewed, after, rekeyed, ?_, kept⟩
  rw [rekeyedNote]
  exact result

end Note

end BioAuth.Locker
