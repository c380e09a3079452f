import BioAuth.Locker.UnlockEnds
import BioAuth.Session.NetworkSession

namespace BioAuth.Agent
open BioAuth
open BioAuth.Locker (Attributes Disk IoError LockerError LockerM Node Path Scratch World append contentAt createNew entry
  followed ignoring maxLinks removeAs resolve setEntry syscall writeAll)
open BioAuth.Session (ServiceError)

section Calls
variable {σ : Type}

/-- What opening a file for writing makes of the entry it leads to: a plain file is emptied, and none is made. -/
def emptied (fresh : Attributes) : Option Node → Option Node
  | none => some (.file [] fresh 1)
  | some (.file _ attributes links) => some (.file [] { attributes with modified := fresh.modified } links)
  | other => other

/-- `File::create`. It yields what the path leads to. -/
def fsCreate (path : Path) : LockerM σ Path := do
  syscall .create path
  let target ← followed path
  let w ← get
  require (target.name.length ≤ w.disk.nameMax) (.io .invalidFilename)
  require (w.files target ≠ some .directory) (.io .isADirectory)
  setEntry target (emptied (w.disk.attributes w.clock) (w.files target))
  return target

/-- `std::fs::write`. -/
def fsWrite (path : Path) (bytes : Bytes) : LockerM σ Unit := do
  let target ← fsCreate path
  writeAll target bytes

/-- How many names the entry has once there is one. -/
def linksOf : Option Node → Nat
  | some (.file _ _ links) => links
  | _ => 1

/-- A plain file, or none at all. -/
def Plain : Option Node → Prop
  | none => True
  | some (.file _ _ _) => True
  | _ => False

/-- The platform takes a whole write to a path, which leads to this entry. -/
structure Accepts (path target : Path) (w : World σ) : Prop where
  opened : w.disk.verdict w.clock .create path = none
  leads : resolve w.files (maxLinks + 1) path = some target
  fits : target.name.length ≤ w.disk.nameMax
  plain : Plain (w.files target)
  written : w.disk.verdict (w.clock + 1) .write target = none

theorem emptied_plain {fresh : Attributes} {node : Option Node} (plain : Plain node) :
    ∃ attributes, emptied fresh node = some (.file [] attributes (linksOf node)) := by
  match node, plain with
  | none, _ => exact ⟨_, rfl⟩
  | some (.file _ _ _), _ => exact ⟨_, rfl⟩

theorem emptied_special {fresh : Attributes} {node : Option Node} (special : ¬Plain node) : emptied fresh node = node := by
  match node, special with
  | none, special => exact absurd trivial special
  | some (.file _ _ _), special => exact absurd trivial special
  | some .directory, _ => rfl
  | some (.symlink _), _ => rfl
  | some .special, _ => rfl

/-- How opening a file for writing ends. -/
theorem fsCreate_ends (path : Path) (w : World σ) :
    (fsCreate path : LockerM σ Path).Ends
      (fun target t => t.disk = w.disk ∧ t.clock = w.clock + 1 ∧ w.disk.verdict w.clock .create path = none ∧
        resolve w.files (maxLinks + 1) path = some target ∧ target.name.length ≤ w.disk.nameMax ∧
        ∃ fresh, t.files = Function.update w.files target (emptied fresh (w.files target)))
      (fun _ t => t.disk = w.disk ∧ t.files = w.files ∧ ∀ target, ¬Accepts path target w) w := by
  unfold fsCreate
  refine .bind (fun _ t => t = { w with clock := w.clock + 1 } ∧ w.disk.verdict w.clock .create path = none) ?_ ?_
  · unfold Fallible.Ends syscall
    rcases refused : w.disk.verdict w.clock .create path with _ | error
    · exact ⟨rfl, rfl⟩
    · exact ⟨rfl, rfl, fun _ accepts => nomatch refused.symm.trans accepts.opened⟩
  rintro _ _ ⟨rfl, opened⟩
  refine .bind (fun target t => t = { w with clock := w.clock + 1 } ∧ resolve w.files (maxLinks + 1) path = some target)
    ?_ ?_
  · unfold Fallible.Ends followed
    rw [Fallible.bind_run_ok _ (Fallible.get_run _)]
    dsimp only
    rcases leads : resolve w.files (maxLinks + 1) path with _ | target
    · exact ⟨rfl, rfl, fun _ accepts => nomatch leads.symm.trans accepts.leads⟩
    · exact ⟨rfl, rfl⟩
  rintro target _ ⟨rfl, leads⟩
  have only {other : Path} (accepts : Accepts path other w) : other = target :=
    Option.some.inj (accepts.leads.symm.trans leads)
  refine .bind_of_run (Fallible.get_run _) ?_
  refine .require_bind (fun long => ⟨rfl, rfl, ?_⟩) fun fits => ?_
  · intro other accepts
    exact long (only accepts ▸ accepts.fits)
  refine .require_bind (fun directory => ⟨rfl, rfl, ?_⟩) fun _ => ?_
  · intro other accepts
    have plain := accepts.plain
    rw [only accepts, Decidable.not_not.mp directory] at plain
    exact plain
  · exact ⟨rfl, rfl, opened, leads, fits, _, rfl⟩

/-- How a write ends: the entry the path leads to holds all of it, or is none that holds anything, or was left holding
less. -/
theorem fsWrite_ends (path : Path) (bytes : Bytes) (w : World σ) :
    (fsWrite path bytes : LockerM σ Unit).Ends
      (fun _ t => t.disk = w.disk ∧ ∃ target, resolve w.files (maxLinks + 1) path = some target ∧
        (Accepts path target w ∧
            (∃ attributes, t.files =
              Function.update w.files target (some (.file bytes attributes (linksOf (w.files target))))) ∨
          ¬Plain (w.files target) ∧ t.files = w.files))
      (fun _ t => t.disk = w.disk ∧ (∀ target, ¬Accepts path target w) ∧
        (t.files = w.files ∨ ∃ target content attributes, resolve w.files (maxLinks + 1) path = some target ∧
          Plain (w.files target) ∧
          t.files = Function.update w.files target (some (.file content attributes (linksOf (w.files target)))))) w := by
  unfold fsWrite
  refine .bind _ ((fsCreate_ends path w).mono (fun _ _ done => done) ?_) ?_
  · exact fun _ t failed => ⟨failed.1, failed.2.2, Or.inl failed.2.1⟩
  rintro target t ⟨disk, clock, opened, leads, fits, fresh, holds⟩
  have only {other : Path} (accepts : Accepts path other w) : other = target :=
    Option.some.inj (accepts.leads.symm.trans leads)
  have asked : t.disk.verdict t.clock .write target = w.disk.verdict (w.clock + 1) .write target := by rw [disk, clock]
  unfold Fallible.Ends writeAll syscall
  by_cases plain : Plain (w.files target)
  · obtain ⟨attributes, opened'⟩ := @emptied_plain fresh _ plain
    rw [opened'] at holds
    have added (more : Bytes) (n : Nat) :
        ((append target more { t with clock := n } : Except LockerError Unit × World σ).2).disk = w.disk ∧
        ((append target more { t with clock := n } : Except LockerError Unit × World σ).2).files =
          Function.update w.files target (some (.file more attributes (linksOf (w.files target)))) := by
      simp only [append, Fallible.modify_run, holds, Function.update_self, Function.update_idem, List.nil_append]
      exact ⟨disk, trivial⟩
    rcases written : t.disk.verdict t.clock .write target with _ | error <;> rw [written] at asked
    · exact ⟨(added bytes _).1, target, leads, Or.inl ⟨⟨opened, leads, fits, plain, asked.symm⟩, attributes,
        (added bytes _).2⟩⟩
    · refine ⟨(added _ _).1, ?_, Or.inr ⟨target, _, attributes, leads, plain, (added _ _).2⟩⟩
      intro other accepts
      have taken := accepts.written
      rw [only accepts, ← asked] at taken
      cases taken
  · rw [emptied_special plain, Function.update_eq_self] at holds
    have added (more : Bytes) (n : Nat) :
        ((append target more { t with clock := n } : Except LockerError Unit × World σ).2).disk = w.disk ∧
        ((append target more { t with clock := n } : Except LockerError Unit × World σ).2).files = w.files := by
      simp only [append, Fallible.modify_run, holds]
      split
      · rename_i found
        rw [found] at plain
        exact absurd trivial plain
      · exact ⟨disk, rfl⟩
    rcases t.disk.verdict t.clock .write target with _ | error
    · exact ⟨(added bytes _).1, target, leads, Or.inr ⟨plain, (added bytes _).2⟩⟩
    · refine ⟨(added _ _).1, ?_, Or.inl (added _ _).2⟩
      intro other accepts
      have there := accepts.plain
      rw [only accepts] at there
      exact plain there

/-- Symbolic links lead the same way as long as none is added or taken away. -/
theorem resolve_congr {before after : Path → Option Node}
    (same : ∀ path target, after path = some (.symlink target) ↔ before path = some (.symlink target)) (fuel : Nat)
    (path : Path) : resolve after fuel path = resolve before fuel path := by
  induction fuel generalizing path with
  | zero => rfl
  | succ fuel ih =>
    unfold resolve
    by_cases link : ∃ target, before path = some (.symlink target)
    · obtain ⟨target, link⟩ := link
      rw [link, (same path target).mpr link]
      exact ih target
    · have other : ∀ target, after path ≠ some (.symlink target) := fun target found =>
        link ⟨target, (same path target).mp found⟩
      split
      · rename_i target found
        exact absurd found (other target)
      · split
        · rename_i target found
          exact absurd ⟨target, found⟩ link
        · rfl

/-- A plain file in the place of one, or of none, changes no way. -/
theorem resolve_update {files : Path → Option Node} {target : Path} (plain : Plain (files target)) {node : Option Node}
    (file : Plain node) (fuel : Nat) (path : Path) :
    resolve (Function.update files target node) fuel path = resolve files fuel path := by
  refine resolve_congr (fun other link => ?_) fuel path
  by_cases here : other = target
  · rw [here, Function.update_self]
    constructor
    · intro found
      rw [found] at file
      exact file.elim
    · intro found
      rw [found] at plain
      exact plain.elim
  · rw [Function.update_of_ne here]

theorem contentAt_update {files : Path → Option Node} {path target : Path}
    (leads : resolve files (maxLinks + 1) path = some target) (plain : Plain (files target)) {content : Bytes} {attributes : Attributes} {links : Nat} :
    contentAt (Function.update files target (some (.file content attributes links))) path = some content :=
  have file : Plain (some (.file content attributes links)) := trivial
  Locker.contentAt_eq_some.mpr ⟨target, attributes, links, (resolve_update plain file _ _).trans leads,
    Function.update_self ..⟩

/-- What does not lead there holds what it held. -/
theorem contentAt_update_of_ne {files : Path → Option Node} {path target : Path}
    (leads : resolve files (maxLinks + 1) path ≠ some target) (plain : Plain (files target)) {content : Bytes}
    {attributes : Attributes} {links : Nat} :
    contentAt (Function.update files target (some (.file content attributes links))) path = contentAt files path := by
  have file : Plain (some (.file content attributes links)) := trivial
  unfold contentAt
  rw [resolve_update plain file]
  rcases found : resolve files (maxLinks + 1) path with _ | other
  · rfl
  · rw [found] at leads
    have apart : other ≠ target := fun same => leads (congrArg some same)
    rw [Option.bind_some, Option.bind_some, Function.update_of_ne apart]

end Calls

section Slot
variable {σ α : Type}

/-- How the platform spells its own errors and a path, and which spelling it takes for an absolute path. -/
structure Platform where
  errorText : IoError → String
  pathText : Path → String
  absolute : String → Option Path

/-- The text of an error of the locker, as it is displayed. -/
def lockerMessage (platform : Platform) : LockerError → String
  | .io error => platform.errorText error
  | .notAContainer => "not a locker container"
  | .unsupportedVersion version => s!"unsupported container version: {version}"
  | .malformed reason => "malformed container: " ++ reason
  | .tooLarge name limit => "container " ++ name ++ s!" exceeds the {limit} byte limit"
  | .corrupt => "container failed authentication"
  | .noWrapper .phone => "this container has no phone wrapper"
  | .noWrapper .recovery => "this container has no recovery wrapper"
  | .badRecoveryCode => "invalid recovery code"
  | .unsafeName => "container holds an unusable file name"
  | .notARegularFile what => "the locker only works on regular files, and this is " ++ what
  | .sharedOriginal => "this file has another name pointing at the same contents; " ++
      "removing this one would leave it readable under the other"
  | .destinationExists path => platform.pathText path ++ " already exists"
  | .inputChanged => "the file changed while it was being read"
  | .denied message => message
  | .panicked => ""

/-- A step of the service over the disk. -/
abbrev ServiceM (σ : Type) := Fallible (World σ) ServiceError

/-- A call of the platform that failed. -/
def ioFailed (platform : Platform) (error : LockerError) : ServiceError := ⟨"io-failed", lockerMessage platform error⟩

/-- A file claimed before the work starts, for a key that does not exist yet. -/
structure RecoverySlot where
  path : Path

variable (platform : Platform)

/-- A relative path is rejected, not resolved against a working directory that is not the caller's. -/
def absolutePath (path : String) : Except ServiceError Path :=
  okOr ⟨"bad-request", "locker paths must be absolute"⟩ (platform.absolute path)

def claimPrivateFile (path : Path) (code message : String) : ServiceM σ RecoverySlot := do
  (createNew path).mapError fun
    | .io .alreadyExists => ⟨code, message⟩
    | error => ioFailed platform error
  return ⟨path⟩

def claimRecoveryFile (path : Path) : ServiceM σ RecoverySlot :=
  claimPrivateFile platform path "recovery-file-exists" "that recovery code file already exists; choose another path"

/-- Where a volume key is put down on its way to `cryptsetup`. -/
def claimKeyFile (path : Path) : ServiceM σ RecoverySlot :=
  claimPrivateFile platform path "key-file-exists" "that key file already exists; choose another path"

namespace RecoverySlot

/-- A key that nobody retypes: the whole file is the key. -/
def writeBytes (slot : RecoverySlot) (bytes : Bytes) : ServiceM σ Unit :=
  (fsWrite slot.path bytes).mapError (ioFailed platform)

def write (slot : RecoverySlot) (code : String) : ServiceM σ Unit :=
  (fsWrite slot.path (utf8 (code ++ "\n"))).mapError (ioFailed platform)

/-- The work up to the write that consumes the slot. Whatever fails on the way drops the slot, and its destructor takes the
file with it. -/
def guarding (slot : RecoverySlot) (work : ServiceM σ α) : ServiceM σ α := fun w =>
  match work w with
  | (.ok a, w) => (.ok a, w)
  | (.error error, w) => (.error error, (ignoring (removeAs .discard slot.path) w).2)

end RecoverySlot

namespace RecoverySlot
variable {slot : RecoverySlot} {work : ServiceM σ α} {w t : World σ}

theorem guarding_run_ok {a : α} (run : work w = (.ok a, t)) : slot.guarding work w = (.ok a, t) := by
  unfold guarding
  rw [run]

theorem guarding_run_error {e : ServiceError} (run : work w = (.error e, t)) :
    slot.guarding work w = (.error e, (ignoring (removeAs .discard slot.path) t).2) := by
  unfold guarding
  rw [run]

end RecoverySlot

variable {disk : Disk} {files : Path → Option Node}

/-- A claim leaves an empty file where there was none, or changes nothing. -/
theorem claimPrivateFile_ends (path : Path) (code message : String) (w : World σ) :
    (claimPrivateFile platform path code message : ServiceM σ RecoverySlot).Ends
      (fun slot t => slot.path = path ∧ w.files path = none ∧ Scratch w.disk w.files path [] t)
      (fun _ t => t.ground = w.ground) w := by
  refine .bind (fun _ t => w.files path = none ∧ Scratch w.disk w.files path [] t)
    (Fallible.ends_mapError.mpr ((Locker.createNew_ends path w).mono ?_ ?_)) ?_
  · exact fun _ _ created => ⟨created.1, created.2.2⟩
  · exact fun _ _ failed => failed.1
  · exact fun _ _ created => ⟨rfl, created⟩

theorem Scratch.found {path : Path} {content : Bytes} {w : World σ} (scratch : Scratch disk files path content w) :
    ∃ attributes, w.files path = some (.file content attributes 1) := by
  obtain ⟨_, attributes, holds⟩ := scratch
  exact ⟨attributes, by rw [holds, Function.update_self]⟩

/-- The destructor takes the claimed file away exactly when the platform lets it. -/
theorem discard_claimed {path : Path} (vacant : files path = none) {content : Bytes} {w : World σ}
    (scratch : Scratch disk files path content w) :
    if w.disk.verdict w.clock .discard path = none then (ignoring (removeAs .discard path) w).2.files = files
    else (ignoring (removeAs .discard path) w).2.files path ≠ none := by
  obtain ⟨attributes, found⟩ := Scratch.found scratch
  obtain ⟨_, kept, holds⟩ := scratch
  have ends := Locker.removeAs_ends .discard path w
  unfold Fallible.Ends at ends
  unfold ignoring
  rcases run : removeAs .discard path w with ⟨error | _, t⟩ <;> rw [run] at ends <;> dsimp only at ends ⊢
  · obtain ⟨same, why⟩ := ends
    have refused : w.disk.verdict w.clock .discard path ≠ none := by
      rw [found] at why
      rcases why with refused | missing | directory
      · exact refused
      · cases missing
      · cases directory
    have there : t.files = w.files := congrArg Prod.snd same
    rw [if_neg refused, there, found]
    exact Option.some_ne_none _
  · obtain ⟨_, granted, removed⟩ := ends
    rw [if_pos granted, removed, holds, Function.update_idem, ← vacant, Function.update_eq_self]

/-- A write to the claimed file stays in it. -/
theorem fsWrite_scratch {path : Path} {content : Bytes} {w : World σ} (scratch : Scratch disk files path content w)
    (bytes : Bytes) :
    (fsWrite path bytes : LockerM σ Unit).Ends (fun _ t => Scratch disk files path bytes t)
      (fun _ t => ∃ left, Scratch disk files path left t) w := by
  obtain ⟨attributes, found⟩ := Scratch.found scratch
  obtain ⟨same, kept, holds⟩ := scratch
  have itself {target : Path} (leads : resolve w.files (maxLinks + 1) path = some target) : target = path := by
    simp only [resolve, found, Option.some.injEq] at leads
    exact leads.symm
  have updated (left : Bytes) (attributes : Attributes) :
      Function.update w.files path (some (.file left attributes (linksOf (w.files path)))) =
        Function.update files path (some (.file left attributes 1)) := by
    rw [found, linksOf, holds, Function.update_idem]
  refine (fsWrite_ends path bytes w).mono ?_ ?_
  · rintro _ t ⟨disk', target, leads, ⟨_, fresh, written⟩ | ⟨special, _⟩⟩
    · rw [itself leads, updated] at written
      exact ⟨disk'.trans same, fresh, written⟩
    · rw [itself leads, found] at special
      exact absurd trivial special
  · rintro _ t ⟨disk', _, untouched | ⟨target, left, fresh, leads, _, written⟩⟩
    · exact ⟨content, disk'.trans same, kept, untouched.trans holds⟩
    · rw [itself leads, updated] at written
      exact ⟨left, disk'.trans same, fresh, written⟩

end Slot

end BioAuth.Agent
