import BioAuth.Locker.UnlockEnds
import BioAuth.Locker.RekeyEnds

namespace BioAuth.Locker
open BioAuth

/-- Two entries with the same content, whatever else the platform keeps about them. -/
def Node.Like : Node → Node → Prop
  | .file content _ _, .file other _ _ => content = other
  | node, other => node = other

instance : DecidableRel Node.Like := fun a b => by
  cases a <;> cases b <;> unfold Node.Like <;> infer_instance

theorem Node.Like.refl (node : Node) : node.Like node := by
  cases node <;> rfl

/-- Every entry other than the operation's own input is there afterwards with its content. -/
def Preserves (input : Path) (before after : Path → Option Node) : Prop :=
  ∀ path node, path ≠ input → before path = some node → ∃ left, after path = some left ∧ node.Like left

section Preserves
variable {σ : Type} {input : Path} {before after : Path → Option Node}

theorem Extends.preserves (grows : Extends before after) : Preserves input before after :=
  fun path node _ found => ⟨node, grows path node found, Node.Like.refl node⟩

/-- The input itself may go. -/
theorem Preserves.without_input (kept : Preserves input before after) (removed : Option Node) :
    Preserves input before (Function.update after input removed) := by
  intro path node other found
  rw [Function.update_of_ne other]
  exact kept path node other found

end Preserves

section Operations
variable [Crypto] {σ : Type}

theorem lockFile_preserves (source : Path) (plan : LockPlan) (custodian : KeyCustodian σ) (w : World σ) :
    Preserves source w.files (lockFile source plan custodian w).2.files := by
  have ends := lockFile_ends source plan custodian w
  rcases run : lockFile source plan custodian w with ⟨error | outcome, t⟩
  · obtain ⟨_, untouched | ⟨locking, _, published, _⟩⟩ := ends.bad_of_run run
    · exact untouched.extends.preserves
    · exact published.extends.preserves
  · obtain ⟨_, _, locking, _, _, files, published, left⟩ := ends.good_of_run run
    have kept : Preserves source w.files files := published.extends.preserves
    dsimp only
    rw [left]
    split
    · exact kept.without_input none
    · exact kept

theorem unlockFile_preserves (container : Path) (destinationDir : Option (List Bytes)) (removeContainer : Bool)
    (key : UnlockKey σ) (w : World σ) :
    Preserves container w.files (unlockFile container destinationDir removeContainer key w).2.files := by
  have ends := unlockFile_ends container destinationDir removeContainer key w
  rcases run : unlockFile container destinationDir removeContainer key w with ⟨error | outcome, t⟩
  · obtain ⟨_, untouched | ⟨unlocking, _, published, _⟩⟩ := ends.bad_of_run run
    · exact untouched.extends.preserves
    · exact published.extends.preserves
  · obtain ⟨_, unlocking, _, _, files, published, left⟩ := ends.good_of_run run
    have kept : Preserves container w.files files := published.extends.preserves
    dsimp only
    rw [left]
    split
    · exact kept.without_input none
    · exact kept

variable {container : Path} {custodian : KeyCustodian σ} {currentRecovery : Option RecoveryKey} {newRecovery : Bool}
  {w : World σ}

/-- The platform lets the rekey's second rename happen, and then the removal of the old container. -/
def Replaces (container : Path) (t : World σ) : Prop :=
  t.disk.verdict t.clock .rename (replacementPath container) = none ∧
    t.disk.verdict (t.clock + 1) .remove (supersededPath container) = none

instance (container : Path) (t : World σ) : Decidable (Replaces container t) := by
  unfold Replaces
  infer_instance

/-- Once the old container has made way, every name but the rekey's own is as it was, and the second
name ends up with the old container or with nothing. -/
theorem rekeyFile_after_aside {rekeying : Rekeying} {t : World σ}
    (aside : rekeyAside container custodian currentRecovery newRecovery w = (.ok rekeying, t)) :
    (∀ path node, path ≠ container → path ≠ supersededPath container → w.files path = some node →
      (rekeyFile container custodian currentRecovery newRecovery w).2.files path = some node) ∧
    (rekeyFile container custodian currentRecovery newRecovery w).2.files (supersededPath container) =
      if Replaces container t then none else w.files container := by
  obtain ⟨disk, sound, moved⟩ :=
    (rekeyAside_ends container custodian currentRecovery newRecovery w).good_of_run aside
  have finish := rekeyFinish_ends disk moved
  rw [rekeyFile, Fallible.bind_run_ok _ aside]
  have second : supersededPath container ≠ container := suffixed_ne container
  rcases run : (do
      rename (replacementPath container) container
      ignoring (removeFile (supersededPath container))
      return rekeying.code : LockerM σ (Option String)) t with ⟨error | code, u⟩
  · obtain ⟨same, refused, _⟩ := finish.bad_of_run run
    simp only [World.ground, Prod.mk.injEq] at same
    obtain ⟨vacant, _, content, attributes, old, links, _, found, fresh, holds⟩ := moved
    dsimp only
    rw [same.2, holds, if_neg fun replaces => refused (by rw [← disk]; exact replaces.1), Function.update_self, found]
    refine ⟨fun path node other apart there => ?_, rfl⟩
    have new : path ≠ replacementPath container := by
      intro same
      rw [same, vacant] at there
      cases there
    rw [Function.update_of_ne apart, Function.update_of_ne other, Function.update_of_ne new, there]
  · obtain ⟨_, _, renamed, _, content, fresh, _, left⟩ := finish.good_of_run run
    dsimp only
    rw [left, Function.update_self]
    refine ⟨fun path node other apart there => ?_, ?_⟩
    · rw [Function.update_of_ne apart, Function.update_of_ne other, there]
    · have replaces : Replaces container t ↔
          w.disk.verdict (t.clock + 1) .remove (supersededPath container) = none := by
        unfold Replaces
        rw [disk]
        exact and_iff_right renamed
      simp only [replaces]

/-- There is no entry under the rekey's second name to lose: there is none at all, or the rekey fails
before it renames the container onto it, or the platform then stops it from going on and the entry
had the container's own content. -/
def SparesSuperseded (container : Path) (custodian : KeyCustodian σ) (currentRecovery : Option RecoveryKey)
    (newRecovery : Bool) (w : World σ) : Prop :=
  w.files (supersededPath container) = none ∨
    ∀ rekeying t, rekeyAside container custodian currentRecovery newRecovery w = (.ok rekeying, t) →
      ¬Replaces container t ∧ ∃ node old, w.files (supersededPath container) = some node ∧
        w.files container = some old ∧ node.Like old

theorem rekeyFile_preserves_iff :
    Preserves container w.files (rekeyFile container custodian currentRecovery newRecovery w).2.files ↔
      SparesSuperseded container custodian currentRecovery newRecovery w := by
  rcases run : rekeyAside container custodian currentRecovery newRecovery w with ⟨error | rekeying, t⟩
  · have untouched : Preserves container w.files (rekeyFile container custodian currentRecovery newRecovery w).2.files := by
      rw [rekeyFile, Fallible.bind_run_error _ run]
      obtain ⟨_, untouched | ⟨rekeying, _, published, _⟩⟩ :=
        (rekeyAside_ends container custodian currentRecovery newRecovery w).bad_of_run run
      · exact untouched.extends.preserves
      · exact published.extends.preserves
    refine iff_of_true untouched (Or.inr fun rekeying t aside => ?_)
    rw [run] at aside
    cases aside
  · obtain ⟨others, superseded⟩ := rekeyFile_after_aside run
    have second : supersededPath container ≠ container := suffixed_ne container
    constructor
    · intro kept
      rcases there : w.files (supersededPath container) with _ | node
      · exact Or.inl there
      · refine Or.inr fun rekeying' t' aside => ?_
        rw [run] at aside
        cases aside
        obtain ⟨left, found, like⟩ := kept _ node second there
        rw [superseded] at found
        by_cases replaced : Replaces container t
        · rw [if_pos replaced] at found
          cases found
        · rw [if_neg replaced] at found
          exact ⟨replaced, node, left, there, found, like⟩
    · intro spared path node other there
      by_cases here : path = supersededPath container
      · subst here
        rcases spared with vacant | spared
        · rw [vacant] at there
          cases there
        · obtain ⟨stopped, found, old, same, is, like⟩ := spared rekeying t run
          rw [there, Option.some.injEq] at same
          rw [superseded, if_neg stopped, is, same]
          exact ⟨old, rfl, like⟩
      · exact ⟨node, others path node other here there, Node.Like.refl node⟩

/-- Nothing is ever written over or taken away, except that a rekey loses what stands under the name it
moves the old container to. -/
theorem nothing_written_over :
    (∀ (source : Path) (plan : LockPlan) (custodian : KeyCustodian σ) (w : World σ),
      Preserves source w.files (lockFile source plan custodian w).2.files) ∧
    (∀ (container : Path) (destinationDir : Option (List Bytes)) (removeContainer : Bool) (key : UnlockKey σ)
      (w : World σ),
      Preserves container w.files (unlockFile container destinationDir removeContainer key w).2.files) ∧
    (∀ (container : Path) (custodian : KeyCustodian σ) (currentRecovery : Option RecoveryKey) (newRecovery : Bool)
      (w : World σ),
      Preserves container w.files (rekeyFile container custodian currentRecovery newRecovery w).2.files ↔
        SparesSuperseded container custodian currentRecovery newRecovery w) :=
  ⟨lockFile_preserves, unlockFile_preserves, fun _ _ _ _ _ => rekeyFile_preserves_iff⟩

end Operations

section Sibling

def note : Path := ⟨[], utf8 "note"⟩

def noteContainer : Path := lockDestination note ⟨none, false⟩

/-- A note and its container, with a file of the user's under the name a rekey takes for the old container. -/
def withSibling : World Unit :=
  (@lockFile Crypto.plain Unit note ⟨none, false⟩ KeyCustodian.plain
    (World.holding [(note, .file [1, 2, 3] ⟨0, none⟩ 1),
      (supersededPath noteContainer, .file [9, 9] ⟨0, none⟩ 1)])).2

/-- A rekey takes a file away that was none of its own. -/
theorem rekey_loses_sibling :
    ¬Preserves noteContainer withSibling.files
      (@rekeyFile Crypto.plain Unit noteContainer KeyCustodian.plain none false withSibling).2.files := by
  intro kept
  have before : withSibling.files (supersededPath noteContainer) = some (.file [9, 9] ⟨0, none⟩ 1) := by
    decide +kernel
  have after : (@rekeyFile Crypto.plain Unit noteContainer KeyCustodian.plain none false withSibling).2.files
      (supersededPath noteContainer) = none := by
    decide +kernel
  obtain ⟨left, found, _⟩ := kept (supersededPath noteContainer) _ (suffixed_ne noteContainer) before
  rw [after] at found
  cases found

end Sibling

end BioAuth.Locker
