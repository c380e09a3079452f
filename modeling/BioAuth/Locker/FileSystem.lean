import BioAuth.Locker.Container
import Mathlib.Logic.Function.Basic

namespace BioAuth.Locker
open BioAuth

structure Attributes where
  mode : UInt32
  /-- Nanoseconds since the Unix epoch, where the platform keeps the time at all. -/
  modified : Option Int
  deriving DecidableEq

/-- What a directory entry names. -/
inductive Node
  | file (content : Bytes) (attributes : Attributes) (links : Nat)
  | directory
  | symlink (target : Path)
  | special
  deriving DecidableEq

/-- The calls the engine makes to the platform. `discard` is the removal of a scratch file by the
destructor that owns it, whose outcome nobody looks at. -/
inductive Syscall
  | stat
  | openRead
  | create
  | write
  | sync
  | rename
  | remove
  | discard
  | setAttributes
  deriving DecidableEq

/-- How the platform answers: which call, counted from the start, it refuses and why; what it has put
on the disk of a write it refused; what reading an open file yields; what it gives a new file; its random
octets; and the longest name it admits. -/
structure Disk where
  verdict : Nat → Syscall → Path → Option IoError
  short : Nat → Nat
  reads : Nat → Path → Bytes → Stream
  attributes : Nat → Attributes
  random : Nat → UInt8
  nameMax : Nat

/-- Everything an operation can see or change. The type of the phone's own state is `σ`. -/
structure World (σ : Type) where
  disk : Disk
  files : Path → Option Node
  clock : Nat
  drawn : Nat
  phone : σ

/-- A step of the locker: it may fail, and what it did before that stays done. -/
abbrev LockerM (σ : Type) := Fallible (World σ) LockerError

section Calls
variable {σ α : Type}

/-- Ask the platform for a call it may refuse. A refused call has done nothing. -/
def syscall (kind : Syscall) (path : Path) : LockerM σ Unit := fun w =>
  (match w.disk.verdict w.clock kind path with
    | some error => .error (.io error)
    | none => .ok (), { w with clock := w.clock + 1 })

def entry (path : Path) : LockerM σ Node := do
  match (← get).files path with
  | some node => return node
  | none => throw (.io .notFound)

def setEntry (path : Path) (node : Option Node) : LockerM σ Unit :=
  modify fun w => { w with files := Function.update w.files path node }

/-- Follow symbolic links, at most as many as the platform does. -/
def resolve (files : Path → Option Node) : Nat → Path → Option Path
  | 0, _ => none
  | fuel + 1, path =>
    match files path with
    | some (.symlink target) => resolve files fuel target
    | _ => some path

def maxLinks : Nat := 40

def followed (path : Path) : LockerM σ Path := do
  match resolve (← get).files (maxLinks + 1) path with
  | some target => return target
  | none => throw (.io .other)

/-- `symlink_metadata`: it describes the entry itself. -/
def symlinkMetadata (path : Path) : LockerM σ Node := do
  syscall .stat path
  entry path

/-- `metadata`: it describes what the entry leads to. -/
def metadata (path : Path) : LockerM σ Node := do
  syscall .stat path
  entry (← followed path)

/-- `File::open`. A directory opens, but does not read. -/
def openRead (path : Path) : LockerM σ Stream := do
  syscall .openRead path
  let target ← followed path
  let node ← entry target
  let w ← get
  match node with
  | .file content _ _ => return w.disk.reads w.clock target content
  | .directory => return ⟨[], some .isADirectory⟩
  | _ => return w.disk.reads w.clock target []

/-- `OpenOptions::create_new`. -/
def createNew (path : Path) : LockerM σ Unit := do
  syscall .create path
  let w ← get
  require (path.name.length ≤ w.disk.nameMax) (.io .invalidFilename)
  require (w.files path = none) (.io .alreadyExists)
  setEntry path (some (.file [] (w.disk.attributes w.clock) 1))

/-- Add to the end of a file. Only the scratch file an operation owns is ever written to, and
nobody reads it before it is published, so the buffer in front of it is left out. -/
def append (path : Path) (bytes : Bytes) : LockerM σ Unit :=
  modify fun w =>
    match w.files path with
    | some (.file content attributes links) =>
      { w with files := Function.update w.files path (some (.file (content ++ bytes) attributes links)) }
    | _ => w

def writeAll (path : Path) (bytes : Bytes) : LockerM σ Unit := fun w =>
  match syscall .write path w with
  | (.ok (), w) => append path bytes w
  | (.error error, w) => (.error error, (append path (bytes.take (w.disk.short w.clock)) w : Except LockerError Unit × _).2)

def syncAll (path : Path) : LockerM σ Unit := syscall .sync path

/-- `rename`, which replaces what the target names unless that is a directory. -/
def rename (source target : Path) : LockerM σ Unit := do
  syscall .rename source
  let node ← entry source
  let w ← get
  require (target.name.length ≤ w.disk.nameMax) (.io .invalidFilename)
  require (w.files target ≠ some .directory) (.io .isADirectory)
  setEntry source none
  setEntry target (some node)

def removeAs (kind : Syscall) (path : Path) : LockerM σ Unit := do
  syscall kind path
  let node ← entry path
  require (node ≠ .directory) (.io .isADirectory)
  setEntry path none

def removeFile (path : Path) : LockerM σ Unit := removeAs .remove path

/-- A call whose failure nobody looks at. -/
def ignoring (x : LockerM σ Unit) : LockerM σ Unit := fun w => (.ok (), (x w).2)

/-- Octets from the platform's random source. -/
def getrandom (n : Nat) : LockerM σ (Block n) := fun w =>
  (.ok ⟨(List.range n).map fun i => w.disk.random (w.drawn + i), by simp⟩, { w with drawn := w.drawn + n })

/-- A step of the phone. -/
def askPhone (x : Fallible σ LockerError α) : LockerM σ α := fun w =>
  ((x w.phone).1, { w with phone := (x w.phone).2 })

end Calls

end BioAuth.Locker
