import BioAuth.Locker.UnlockEnds
import BioAuth.Locker.RekeyEnds

namespace BioAuth.Locker
open BioAuth

/-- A failure that leaves the input where it was and nothing new beside it. -/
def CleanFailure (input : Path) (before after : Path → Option Node) : Prop :=
  after input = before input ∧ ∀ path, before path = none → after path = none

section Leaves
variable [Crypto] {σ : Type} {w t : World σ} {e : LockerError}

omit [Crypto] in
theorem Untouched.clean (tidy : w.disk.Tidy) (untouched : Untouched w t) (input : Path) :
    CleanFailure input w.files t.files := by
  rcases untouched with same | ⟨untidy, _⟩
  · rw [same]
    exact ⟨rfl, fun _ vacant => vacant⟩
  · exact absurd tidy untidy

theorem LockFailed.extends {source : Path} {plan : LockPlan} {custodian : KeyCustodian σ}
    (failed : LockFailed w source plan custodian e t) : Extends w.files t.files := by
  obtain untouched | ⟨_, _, published, _⟩ := failed
  · exact untouched.extends
  · exact published.extends

theorem UnlockFailed.extends {container : Path} {destinationDir : Option (List Bytes)} {removeContainer : Bool}
    {key : UnlockKey σ} (failed : UnlockFailed w container destinationDir removeContainer key e t) :
    Extends w.files t.files := by
  obtain untouched | ⟨_, _, published, _⟩ := failed
  · exact untouched.extends
  · exact published.extends

/-- While a rekey fails, the container's content stands complete under one of its two names. -/
theorem RekeyFailed.kept {container : Path} {custodian : KeyCustodian σ} {currentRecovery : Option RecoveryKey}
    {newRecovery : Bool} (failed : RekeyFailed w container custodian currentRecovery newRecovery e t) :
    Extends w.files t.files ∨ t.files (supersededPath container) = w.files container := by
  obtain untouched | ⟨_, _, published, _⟩ | ⟨_, _, moved, _⟩ := failed
  · exact Or.inl untouched.extends
  · exact Or.inl published.extends
  · obtain ⟨_, _, _, _, _, _, _, found, _, holds⟩ := moved
    rw [holds, Function.update_self, found]
    exact Or.inr rfl

end Leaves

section Refusals

def letter : Path := ⟨[], utf8 "letter"⟩

def letterContainer : Path := lockDestination letter ⟨none, true⟩

/-- A letter on a platform that refuses one kind of call on one path, and nothing else. -/
def letterWorld (kind : Syscall) (path : Path) : World Unit :=
  { World.holding [(letter, .file [1, 2, 3] ⟨0, none⟩ 1)] with
    disk := { Disk.plain with
      verdict := fun _ asked at_ => if asked = kind ∧ at_ = path then some .permissionDenied else none } }

/-- The letter locked away by a run in which that refusal did not matter. -/
def lockedLetter (kind : Syscall) (path : Path) : World Unit :=
  (@lockFile Crypto.plain Unit letter ⟨none, true⟩ KeyCustodian.plain (letterWorld kind path)).2

/-- What an operation makes of the locked letter. -/
def unlockLetter (w : World Unit) : Except LockerError UnlockOutcome × World Unit :=
  @unlockFile Crypto.plain Unit letterContainer none true (.phone KeyCustodian.plain) w

def rekeyLetter (w : World Unit) : Except LockerError (Option String) × World Unit :=
  @rekeyFile Crypto.plain Unit letterContainer KeyCustodian.plain none false w

end Refusals

end BioAuth.Locker
