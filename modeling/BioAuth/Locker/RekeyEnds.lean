import BioAuth.Locker.UnlockEnds

namespace BioAuth.Locker
open BioAuth

section Paths

theorem suffixed_ne (path : Path) {suffix : Bytes} : path.suffixed suffix ≠ path := by
  intro same
  have lengths := congrArg (fun path => path.name.length) same
  have dot : (utf8 ".").length = 1 := by decide +kernel
  simp only [Path.suffixed, List.length_append, dot] at lengths
  omega

theorem replacement_ne_superseded (container : Path) : replacementPath container ≠ supersededPath container := by
  intro same
  have names := congrArg Path.name same
  simp only [replacementPath, supersededPath, Path.suffixed, List.append_cancel_left_eq] at names
  revert names
  decide +kernel

/-- The two renames and the removal amount to the new container in the old one's place, and to the old one
under its second name or nowhere. -/
theorem rekey_files {before : Path → Option Node} {container : Path} {replacement old : Node} (left : Option Node)
    (vacant : before (replacementPath container) = none) :
    Function.update (Function.update (Function.update (Function.update (Function.update
        (Function.update before (replacementPath container) (some replacement)) container none)
        (supersededPath container) (some old)) (replacementPath container) none) container (some replacement))
        (supersededPath container) left =
      Function.update (Function.update before container (some replacement)) (supersededPath container) left := by
  have apart := replacement_ne_superseded container
  have first : replacementPath container ≠ container := suffixed_ne container
  have second : supersededPath container ≠ container := suffixed_ne container
  funext path
  by_cases superseded : path = supersededPath container
  · rw [superseded, Function.update_self, Function.update_self]
  · rw [Function.update_of_ne superseded, Function.update_of_ne superseded]
    by_cases here : path = container
    · rw [here, Function.update_self, Function.update_self]
    · rw [Function.update_of_ne here, Function.update_of_ne here]
      by_cases new : path = replacementPath container
      · rw [new, Function.update_self, vacant]
      · rw [Function.update_of_ne new, Function.update_of_ne superseded, Function.update_of_ne here,
          Function.update_of_ne new]

end Paths

section Rekey
variable [Crypto] {σ : Type}

/-- The key a rekey opens the container with. -/
def currentKey (custodian : KeyCustodian σ) : Option RecoveryKey → UnlockKey σ
  | some key => .recovery key
  | none => .phone custodian

/-- The recovery wrappers of a rekeyed container: a fresh one, with its code, or all of the old ones. -/
def RekeyRecovery (head : ContainerHead) (dek : Dek) (newRecovery : Bool) (recovery : List Wrapper)
    (code : Option String) : Prop :=
  if newRecovery then
    ∃ key salt nonce, recovery = [Recovery.sealed dek head.binding key salt nonce] ∧
      code = some (formatRecoveryCode key)
  else
    recovery = head.wrappers.filter (fun wrapper => wrapper.kind = .recovery) ∧ code = none

/-- What a rekey has settled before it writes anything. -/
structure Rekeying.Sound (w : World σ) (container : Path) (custodian : KeyCustodian σ)
    (currentRecovery : Option RecoveryKey) (newRecovery : Bool) (rekeying : Rekeying) : Prop where
  file : ∃ content attributes links, w.files container = some (.file content attributes links)
  head : HeadRead w container rekeying.head rekeying.reader
  dek : Unwraps rekeying.head rekeying.dek (currentKey custodian currentRecovery)
  wrappers : ∃ phone recovery, rekeying.wrappers = phone :: recovery ∧ phone.kind = .phone ∧
    (∃ (request : WrapRequest) (state : σ), request.binding = rekeying.head.binding ∧ request.dek = rekeying.dek ∧
      (custodian.wrap request state).1 = .ok phone) ∧
    RekeyRecovery rekeying.head rekeying.dek newRecovery recovery rekeying.code

theorem rekeyRecovery_made {head : ContainerHead} {dek : Dek} {newRecovery : Bool} {w t : World σ}
    {made : List Wrapper × Option String} (run : rekeyRecovery head dek newRecovery w = (.ok made, t)) :
    RekeyRecovery head dek newRecovery made.1 made.2 := by
  cases newRecovery with
  | false =>
    cases run
    exact ⟨rfl, rfl⟩
  | true =>
    obtain ⟨⟨wrapper, key⟩, _, wrapped, last⟩ := Fallible.bind_eq_ok.mp run
    obtain ⟨salt, nonce, sealed⟩ := recoveryWrap_sealed wrapped
    cases last
    exact ⟨key, salt, nonce, by rw [← sealed], rfl⟩

theorem rekeyPrepare_sound {container : Path} {custodian : KeyCustodian σ} {currentRecovery : Option RecoveryKey}
    {newRecovery : Bool} {w t : World σ} {rekeying : Rekeying}
    (run : rekeyPrepare container custodian currentRecovery newRecovery w = (.ok rekeying, t)) :
    rekeying.Sound w container custodian currentRecovery newRecovery := by
  simp only [rekeyPrepare, ↓Fallible.require_bind_eq_ok, Fallible.bind_eq_ok, Fallible.pure_eq_ok] at run
  obtain ⟨described, _, checked, reader, _, opened, ⟨head, rest⟩, _, read, dek, _, unwrapped, phone, _, asked, kind,
    made, _, wrapped, few, rfl, rfl⟩ := run
  refine ⟨soleRegularFile_file checked, headRead_of_run checked opened read, ?_, phone, made.1, rfl, kind,
    ⟨_, _, rfl, rfl, askPhone_run asked⟩, rekeyRecovery_made wrapped⟩
  cases currentRecovery <;> exact unlockDek_unwraps unwrapped

namespace Rekeying

/-- The head of the replacement: new wrappers, everything else as before. -/
def newHead (rekeying : Rekeying) : ContainerHead := { rekeying.head with wrappers := rekeying.wrappers }

/-- What a rekey builds is the complete replacement. -/
def Built (rekeying : Rekeying) (built : Bytes) : Prop :=
  encodeWrappers rekeying.wrappers = .ok (spellWrappers rekeying.wrappers) ∧ rekeying.reader.ending = none ∧
    built = rekeying.newHead.spell ++ rekeying.reader.bytes

end Rekeying

omit [Crypto] in
theorem rekeyBuild_appends (rekeying : Rekeying) {disk : Disk} {files : Path → Option Node} (temporary : Path) :
    (rekeyBuild rekeying temporary : LockerM σ Unit).Appends (Scratch disk files temporary)
      (fun _ more => rekeying.Built more) fun _ => True := by
  have writes (bytes : Bytes) : (writeAll temporary bytes : LockerM σ Unit).Appends (Scratch disk files temporary)
      (fun _ more => more = bytes) fun _ => True := (writeAll_appends bytes).allow fun _ _ => trivial
  refine Fallible.Appends.bind (writeFront_appends (fun _ => trivial) writes _ _ _) ?_
  rintro _ _ ⟨written, rfl⟩
  refine Fallible.Appends.bind (writes _) ?_
  rintro _ _ rfl
  rcases ending : rekeying.reader.ending with _ | error
  · refine Fallible.Appends.pure ⟨written, ending, ?_⟩
    rw [List.append_nil]
    rfl
  · exact Fallible.Appends.throw trivial

/-- A rekey has put its replacement beside the container and the container out of its way. -/
def MovedAside (w : World σ) (container : Path) (rekeying : Rekeying) (files : Path → Option Node) : Prop :=
  w.files (replacementPath container) = none ∧ container.name.length ≤ w.disk.nameMax ∧
  ∃ content attributes old links, rekeying.Built content ∧
    w.files container = some (.file old attributes links) ∧ ∃ fresh,
    files = Function.update (Function.update (Function.update w.files (replacementPath container)
      (some (.file content fresh 1))) container none) (supersededPath container) (some (.file old attributes links))

/-- A rekey fails with its replacement complete beside the container: either that does not verify or the container is
not renamed. -/
def StoppedBeside (w : World σ) (container : Path) (custodian : KeyCustodian σ)
    (currentRecovery : Option RecoveryKey) (newRecovery : Bool) (e : LockerError) (t : World σ) : Prop :=
  ∃ rekeying : Rekeying, rekeying.Sound w container custodian currentRecovery newRecovery ∧
    Published w (replacementPath container) rekeying.Built t.files ∧
    (FailsIn (verify (replacementPath container) rekeying.dek) e t ∨
      FailsIn (rename container (supersededPath container)) e t)

/-- A rekey fails with the container out of its way: the replacement is not renamed. -/
def StoppedAside (w : World σ) (container : Path) (custodian : KeyCustodian σ)
    (currentRecovery : Option RecoveryKey) (newRecovery : Bool) (e : LockerError) (t : World σ) : Prop :=
  ∃ rekeying : Rekeying, rekeying.Sound w container custodian currentRecovery newRecovery ∧
    MovedAside w container rekeying t.files ∧ FailsIn (rename (replacementPath container) container) e t

theorem rekeyAside_ends (container : Path) (custodian : KeyCustodian σ) (currentRecovery : Option RecoveryKey)
    (newRecovery : Bool) (w : World σ) :
    (rekeyAside container custodian currentRecovery newRecovery).Ends
      (fun rekeying t => t.disk = w.disk ∧
        rekeying.Sound w container custodian currentRecovery newRecovery ∧ MovedAside w container rekeying t.files)
      (fun e t => t.disk = w.disk ∧
        (Untouched w t ∨ StoppedBeside w container custodian currentRecovery newRecovery e t)) w := by
  unfold rekeyAside
  refine Fallible.Ends.bind (fun rekeying t => t.ground = w.ground ∧
    rekeying.Sound w container custodian currentRecovery newRecovery)
    (((rekeyPrepare_keeps container custodian currentRecovery newRecovery).ends w).mono ?_ ?_) ?_
  · intro rekeying t done
    exact ⟨done.2, rekeyPrepare_sound done.1⟩
  · intro _ t failed
    exact (Untouched.of_ground failed.2).imp_right Or.inl
  intro rekeying t prepared
  obtain ⟨same, sound⟩ := prepared
  have there := same
  simp only [World.ground, Prod.mk.injEq] at there
  obtain ⟨disk, files⟩ := there
  have publishes := publish_ends (replacementPath container) (rekeyBuild rekeying) t
    fun temporary _ => rekeyBuild_appends rekeying temporary
  rw [disk, files] at publishes
  refine Fallible.Ends.bind (fun _ u => u.disk = w.disk ∧
    Published w (replacementPath container) rekeying.Built u.files) (publishes.mono ?_ ?_) ?_
  · intro _ u done
    exact ⟨done.1, done.2.of_start same⟩
  · intro _ u failed
    exact ⟨failed.1, Or.inl (failed.2.1.of_start same)⟩
  intro _ u published
  obtain ⟨disk, published⟩ := published
  refine Fallible.Ends.bind (fun _ v => v.disk = w.disk ∧
    Published w (replacementPath container) rekeying.Built v.files) (((verify_keeps _ _).ends u).mono ?_ ?_) ?_
  · intro _ v done
    have same := done.2
    simp only [World.ground, Prod.mk.injEq] at same
    exact ⟨same.1.trans disk, by rwa [same.2]⟩
  · intro _ v failed
    have same := failed.2
    simp only [World.ground, Prod.mk.injEq] at same
    exact ⟨same.1.trans disk, Or.inr ⟨rekeying, sound, by rwa [same.2], Or.inl ⟨u, failed.2.symm, failed.1⟩⟩⟩
  intro _ v published
  obtain ⟨disk, published⟩ := published
  refine Fallible.Ends.bind (fun _ x => x.disk = w.disk ∧ MovedAside w container rekeying x.files)
    ((rename_ends container (supersededPath container) v).recall.mono ?_ ?_) ?_
  · intro _ x done
    obtain ⟨_, kept, _, _, old, found, moved⟩ := done
    obtain ⟨vacant, fits, content, fresh, built, holds⟩ := published
    have longer : container.name.length ≤ (replacementPath container).name.length := by
      simp only [replacementPath, Path.suffixed, List.length_append]
      omega
    obtain ⟨held, attributes, links, there⟩ := sound.file
    have first : replacementPath container ≠ container := suffixed_ne container
    rw [holds, Function.update_of_ne first.symm, there, Option.some.injEq] at found
    refine ⟨kept.trans disk, vacant, by omega, content, attributes, held, links, built, there, fresh, ?_⟩
    rw [moved, holds, found]
  · intro _ x failed
    have kept := failed.2.1
    simp only [World.ground, Prod.mk.injEq] at kept
    exact ⟨kept.1.trans disk,
      Or.inr ⟨rekeying, sound, by rwa [kept.2], Or.inr ⟨v, failed.2.1.symm, failed.1⟩⟩⟩
  · intro _ x done
    exact ⟨done.1, sound, done.2⟩

/-- The replacement has taken the container's place, and the old container is left under its second name
or nowhere. -/
def Rekeyed (w : World σ) (container : Path) (rekeying : Rekeying) (left : Option Node)
    (files : Path → Option Node) : Prop :=
  w.files (replacementPath container) = none ∧ ∃ content fresh, rekeying.Built content ∧
    files = Function.update (Function.update w.files container (some (.file content fresh 1)))
      (supersededPath container) left

omit [Crypto] in
/-- From there the second rename and the removal of the old container go through unless the platform
refuses them. -/
theorem rekeyFinish_ends {container : Path} {rekeying : Rekeying} {w t : World σ} (disk : t.disk = w.disk)
    (moved : MovedAside w container rekeying t.files) :
    (do
      rename (replacementPath container) container
      ignoring (removeFile (supersededPath container))
      return rekeying.code : LockerM σ (Option String)).Ends
      (fun code u => u.disk = w.disk ∧ code = rekeying.code ∧
        w.disk.verdict t.clock .rename (replacementPath container) = none ∧ Rekeyed w container rekeying
          (if w.disk.verdict (t.clock + 1) .remove (supersededPath container) = none then none
            else w.files container) u.files)
      (fun e u => u.ground = t.ground ∧ w.disk.verdict t.clock .rename (replacementPath container) ≠ none ∧
        FailsIn (rename (replacementPath container) container) e u) t := by
  obtain ⟨vacant, fits, content, attributes, old, links, built, found, fresh, holds⟩ := moved
  have apart := replacement_ne_superseded container
  have first : replacementPath container ≠ container := suffixed_ne container
  have second : supersededPath container ≠ container := suffixed_ne container
  refine Fallible.Ends.bind (fun _ u => u.disk = w.disk ∧ u.clock = t.clock + 1 ∧
    w.disk.verdict t.clock .rename (replacementPath container) = none ∧
    u.files = Function.update (Function.update t.files (replacementPath container) none) container
      (some (.file content fresh 1))) ((rename_ends (replacementPath container) container t).recall.mono ?_ ?_) ?_
  · intro _ u done
    obtain ⟨_, kept, ticked, granted, node, there, renamed⟩ := done
    rw [holds, Function.update_of_ne apart, Function.update_of_ne first, Function.update_self] at there
    exact ⟨kept.trans disk, ticked, by rwa [← disk], by rw [renamed, ← there]⟩
  · intro _ u failed
    obtain ⟨run, kept, why⟩ := failed
    refine ⟨kept, ?_, t, kept.symm, run⟩
    have gone : t.files container = none := by
      rw [holds, Function.update_of_ne second.symm, Function.update_self]
    rw [gone, holds, Function.update_of_ne apart, Function.update_of_ne first, Function.update_self, disk] at why
    rcases why with refused | missing | long | directory
    · exact refused
    · cases missing
    · omega
    · cases directory
  intro _ u replaced
  obtain ⟨there, ticked, granted, replaced⟩ := replaced
  have removal := removeAs_ends .remove (supersededPath container) u
  have left : u.files (supersededPath container) = some (.file old attributes links) := by
    rw [replaced, Function.update_of_ne second, Function.update_of_ne apart.symm, holds, Function.update_self]
  rw [left, there, ticked] at removal
  refine Fallible.Ends.bind (fun _ z => z.disk = w.disk ∧ Rekeyed w container rekeying
    (if w.disk.verdict (t.clock + 1) .remove (supersededPath container) = none then none
      else w.files container) z.files) ?_ ?_
  · change (ignoring (removeAs .remove (supersededPath container)) u).2.disk = w.disk ∧ Rekeyed w container rekeying _
      (ignoring (removeAs .remove (supersededPath container)) u).2.files
    unfold ignoring
    unfold Fallible.Ends at removal
    rcases run : removeAs .remove (supersededPath container) u with ⟨error | _, z⟩ <;> rw [run] at removal <;>
      dsimp only at removal ⊢
    · obtain ⟨kept, why⟩ := removal
      simp only [World.ground, Prod.mk.injEq] at kept
      have refused : w.disk.verdict (t.clock + 1) .remove (supersededPath container) ≠ none := by
        rcases why with refused | missing | directory
        · exact refused
        · cases missing
        · cases directory
      refine ⟨kept.1.trans there, vacant, content, fresh, built, ?_⟩
      rw [if_neg refused, found]
      calc z.files = Function.update u.files (supersededPath container) (some (.file old attributes links)) := by
            rw [kept.2, ← left, Function.update_eq_self]
        _ = _ := by rw [replaced, holds, rekey_files _ vacant]
    · obtain ⟨kept, granted, removed⟩ := removal
      refine ⟨kept, vacant, content, fresh, built, ?_⟩
      rw [if_pos granted, removed, replaced, holds, rekey_files none vacant]
  · intro _ z done
    exact ⟨done.1, rfl, granted, done.2⟩

/-- How a rekey fails: it leaves everything as it was, or it stops with its replacement complete, before or after the
container has made way for it. -/
def RekeyFailed (w : World σ) (container : Path) (custodian : KeyCustodian σ)
    (currentRecovery : Option RecoveryKey) (newRecovery : Bool) (e : LockerError) (t : World σ) : Prop :=
  Untouched w t ∨ StoppedBeside w container custodian currentRecovery newRecovery e t ∨
    StoppedAside w container custodian currentRecovery newRecovery e t

/-- Everything a rekey can leave behind. -/
theorem rekeyFile_ends (container : Path) (custodian : KeyCustodian σ) (currentRecovery : Option RecoveryKey)
    (newRecovery : Bool) (w : World σ) :
    (rekeyFile container custodian currentRecovery newRecovery).Ends
      (fun code t => t.disk = w.disk ∧ ∃ rekeying : Rekeying,
        rekeying.Sound w container custodian currentRecovery newRecovery ∧ code = rekeying.code ∧
        ∃ left, (left = none ∨ left = w.files container) ∧ Rekeyed w container rekeying left t.files)
      (fun e t => t.disk = w.disk ∧ RekeyFailed w container custodian currentRecovery newRecovery e t) w := by
  refine Fallible.Ends.bind _
    ((rekeyAside_ends container custodian currentRecovery newRecovery w).mono (fun _ _ done => done) ?_) ?_
  · intro _ t failed
    exact ⟨failed.1, failed.2.imp_right Or.inl⟩
  intro rekeying t aside
  obtain ⟨disk, sound, moved⟩ := aside
  refine (rekeyFinish_ends disk moved).mono ?_ ?_
  · intro code u done
    refine ⟨done.1, rekeying, sound, done.2.1, _, ?_, done.2.2.2⟩
    split
    · exact Or.inl rfl
    · exact Or.inr rfl
  · intro _ u failed
    have kept := failed.1
    simp only [World.ground, Prod.mk.injEq] at kept
    exact ⟨kept.1.trans disk, Or.inr (Or.inr ⟨rekeying, sound, by rwa [kept.2], failed.2.2⟩)⟩

end Rekey

end BioAuth.Locker
