import BioAuth.Locker.FileSystem
import BioAuth.Locker.RecoveryCode

namespace BioAuth.Locker
open BioAuth

/-- What the phone is asked to look at before it wraps a key. -/
structure WrapRequest where
  binding : Block 32
  dek : Dek
  fileName : String
  plaintextLen : UInt64

/-- What the phone is asked to unwrap. -/
structure UnwrapRequest where
  binding : Block 32
  wrapper : Wrapper
  containerName : String
  plaintextLen : UInt64

/-- The phone's half of a locker operation, over a state of its own. -/
structure KeyCustodian (σ : Type) where
  wrap : WrapRequest → Fallible σ LockerError Wrapper
  unwrap : UnwrapRequest → Fallible σ LockerError Dek

/-- Which key opens a container. -/
inductive UnlockKey (σ : Type)
  | phone (custodian : KeyCustodian σ)
  | recovery (key : RecoveryKey)

structure LockPlan where
  destination : Option Path
  removeOriginal : Bool

structure LockOutcome where
  container : Path
  recoveryCode : String
  plaintextLen : UInt64
  originalRemoved : Bool
  deriving DecidableEq

structure UnlockOutcome where
  restored : Path
  plaintextLen : UInt64
  containerRemoved : Bool

namespace Path

/-- `file_name` as text, where it is any. -/
def fileName (path : Path) : Option String := fromUtf8 path.name

/-- The path with one more extension on the end. -/
def suffixed (path : Path) (suffix : Bytes) : Path := ⟨path.directory, path.name ++ utf8 "." ++ suffix⟩

end Path

namespace CoreHeader
variable {σ : Type}

/-- A header for a new container. -/
def fresh (plaintextLen : UInt64) : LockerM σ CoreHeader := do
  let random ← getrandom (noncePrefixLen + saltLen)
  return {
    containerVersion := Locker.containerVersion
    chunkSize := Locker.chunkSize
    noncePrefix := ⟨random.val.take noncePrefixLen, by simp [random.property, noncePrefixLen, saltLen]⟩
    contentSalt := ⟨random.val.drop noncePrefixLen, by simp [random.property, noncePrefixLen]⟩
    plaintextLen }

end CoreHeader

namespace Recovery
variable [Crypto] {σ : Type}

/-- The offline wrapper of a data key under a recovery key, a salt and a nonce. -/
def sealed (dek : Dek) (binding : Block 32) (key : RecoveryKey) (salt : Block saltLen) (nonce : Block nonceLen) :
    Wrapper where
  kind := .recovery
  id := ""
  salt := salt.val
  nonce := nonce.val
  ciphertext := sealKey (derive key.val salt.val recoveryInfo) nonce (wrapperAad binding .recovery "") dek

def wrapWith (dek : Dek) (binding : Block 32) (key : RecoveryKey) : LockerM σ Wrapper := do
  let random ← getrandom (saltLen + nonceLen)
  let salt : Block saltLen := ⟨random.val.take saltLen, by simp [random.property, saltLen, nonceLen]⟩
  let nonce : Block nonceLen := ⟨random.val.drop saltLen, by simp [random.property, saltLen]⟩
  return sealed dek binding key salt nonce

/-- Builds the offline wrapper for a container and returns the code's key. -/
def wrap (dek : Dek) (binding : Block 32) : LockerM σ (Wrapper × RecoveryKey) := do
  let key ← getrandom 32
  return (← wrapWith dek binding key, key)

def unwrap (wrapper : Wrapper) (key : RecoveryKey) (binding : Block 32) : Except LockerError Dek := do
  require (wrapper.kind = .recovery) (.noWrapper .recovery)
  let wrapping := derive key.val wrapper.salt recoveryInfo
  let nonce ← fixed nonceLen wrapper.nonce "recovery nonce"
  openKey wrapping nonce (wrapperAad binding .recovery wrapper.id) wrapper.ciphertext

end Recovery

section Files
variable {σ α : Type}

/-- An operation that takes no name away reads through a symbolic link, and what matters to it is what
the link leads to. -/
def throughLink (path : Path) (soleName : Bool) : Node → LockerM σ Node
  | .symlink _ => do
    require (soleName = false) (.notARegularFile "a symbolic link")
    metadata path
  | node => return node

def regularFile (soleName : Bool) : Node → LockerM σ (UInt64 × Attributes)
  | .directory => throw (.notARegularFile "a directory")
  | .file content attributes links => do
    require (soleName = true → links ≤ 1) .sharedOriginal
    return (UInt64.ofNat content.length, attributes)
  | _ => throw (.notARegularFile "not a regular file")

/-- The length and the attributes of a path that is a plain file and, with `soleName`, the only name for
its contents. Every caller about to delete or rename the path away asks for that. -/
def soleRegularFile (path : Path) (soleName : Bool) : LockerM σ (UInt64 × Attributes) := do
  let node ← symlinkMetadata path
  let node ← throughLink path soleName node
  regularFile soleName node

/-- Whether anything at all occupies a path. `symlink_metadata` fails on an entry that is there only
where its directory cannot be searched, and there no rename succeeds either. -/
def occupied (path : Path) : LockerM σ Bool := return ((← get).files path).isSome

def hexDigit (value : UInt8) : UInt8 := if value < 10 then 0x30 + value else 0x57 + value

def toHex (bytes : Bytes) : Bytes := bytes.flatMap fun byte => [hexDigit (byte / 16), hexDigit (byte % 16)]

def scratchPath (directory : List Bytes) (name : String) (suffix : Block 8) : Path :=
  ⟨directory, utf8 "." ++ utf8 name ++ utf8 "." ++ toHex suffix.val ++ utf8 ".balock-tmp"⟩

def temporarySibling (destination : Path) : LockerM σ Path := do
  match destination.fileName with
  | none => throw .unsafeName
  | some name => do
    let suffix ← getrandom 8
    return scratchPath destination.directory name suffix

/-- A file that appears at its destination complete or not at all. -/
structure AtomicFile where
  temporary : Path
  destination : Path

namespace AtomicFile

def create (destination : Path) : LockerM σ AtomicFile := do
  require ((← occupied destination) = false) (.destinationExists destination)
  let temporary ← temporarySibling destination
  createNew temporary
  return ⟨temporary, destination⟩

/-- Best effort: neither opening the directory nor flushing it changes what a path names. -/
def syncDirectory (_destination : Path) : LockerM σ Unit := return ()

def commit (target : AtomicFile) : LockerM σ Unit := do
  syncAll target.temporary
  require ((← occupied target.destination) = false) (.destinationExists target.destination)
  rename target.temporary target.destination
  syncDirectory target.destination

/-- The work on a file, up to the commit that ends it. Whatever fails on the way drops the file,
and its destructor takes the scratch file with it. -/
def guarding (target : AtomicFile) (work : LockerM σ Unit) : LockerM σ Unit := fun w =>
  match work w with
  | (.ok (), w) => (.ok (), w)
  | (.error error, w) => (.error error, (ignoring (removeAs .discard target.temporary) w).2)

/-- Build a file under a scratch name and publish it. -/
def publish (destination : Path) (build : Path → LockerM σ Unit) : LockerM σ Unit := do
  let target ← create destination
  target.guarding do
    build target.temporary
    target.commit

end AtomicFile

/-- Take an input away once it is no longer needed, where that was asked for. -/
def removeWhen (asked : Bool) (path : Path) : LockerM σ Unit :=
  if asked then removeFile path else return ()

/-- The permission bits, without the file's type. -/
def modeOf (attributes : Attributes) : UInt32 := attributes.mode &&& 0o7777

def modifiedAtMs (attributes : Attributes) : Int64 :=
  match attributes.modified with
  | none => 0
  | some time =>
    let ms := time.toNat / 1000000
    if 0 ≤ time ∧ ms < 2 ^ 63 then Int64.ofNat ms else 0

/-- Change what the platform keeps about a file. -/
def setAttributes (path : Path) (change : Attributes → Attributes) : LockerM σ Unit := do
  syscall .setAttributes path
  modify fun w =>
    match w.files path with
    | some (.file content attributes links) =>
      { w with files := Function.update w.files path (some (.file content (change attributes) links)) }
    | _ => w

/-- Best effort, and only where there is something to restore. -/
def changeAttributes (asked : Bool) (path : Path) (change : Attributes → Attributes) : LockerM σ Unit :=
  if asked then ignoring (setAttributes path change) else return ()

/-- Restores what the platform supports, and quietly skips what it does not. -/
def restoreAttributes (path : Path) (metadata : Metadata) : LockerM σ Unit := do
  changeAttributes (0 < metadata.modifiedAtMs) path fun attributes =>
    { attributes with modified := some (metadata.modifiedAtMs.toInt * 1000000) }
  changeAttributes (metadata.mode ≠ 0) path fun attributes =>
    { attributes with mode := metadata.mode &&& 0o7777 }

end Files

section Engine
variable [Crypto] {σ : Type}

/-- Decrypts a container into nothing, purely to check it. -/
def verify (container : Path) (dek : Dek) : LockerM σ Unit := do
  let reader ← openRead container
  let (head, reader) ← Fallible.within ContainerHead.read reader
  let cipher := ContainerCipher.new dek head.header head.binding
  let metadata ← cipher.openMetadata head.metadata
  let _ ← Metadata.decode metadata
  decryptChunks reader (fun _ => pure ()) head.header cipher

/-- The front of a container as it is written. -/
def writeFront (write : Bytes → LockerM σ Unit) (core : Bytes) (wrappers : List Wrapper) (metadata : Bytes) :
    LockerM σ Unit := do
  write magic
  writeSection write core
  let encoded ← encodeWrappers wrappers
  writeSection write encoded
  writeSection write metadata

def lockDestination (source : Path) (plan : LockPlan) : Path :=
  plan.destination.getD (source.suffixed lockerExtension)

/-- What a lock has settled before it touches a file of its own. -/
structure Locking where
  header : CoreHeader
  dek : Dek
  wrappers : List Wrapper
  recoveryKey : RecoveryKey
  metadata : Metadata
  metadataBlock : Bytes
  deriving DecidableEq

namespace Locking

def core (locking : Locking) : Bytes := locking.header.encode

def binding (locking : Locking) : Block 32 := bindingOf locking.core

def cipher (locking : Locking) : ContainerCipher :=
  ContainerCipher.new locking.dek locking.header locking.binding

end Locking

/-- The first half of `lock_file`, up to the creation of the container. -/
def lockPrepare (source : Path) (plan : LockPlan) (custodian : KeyCustodian σ) : LockerM σ Locking := do
  let some fileName := source.fileName | throw .unsafeName
  let (plaintextLen, attributes) ← soleRegularFile source plan.removeOriginal
  let header ← CoreHeader.fresh plaintextLen
  header.validate
  let binding := bindingOf header.encode
  let dek ← getrandom 32
  let phone ← askPhone (custodian.wrap { binding, dek, fileName, plaintextLen })
  require (phone.kind = .phone) (.malformed "phone returned a foreign wrapper")
  let (recoveryWrapper, recoveryKey) ← Recovery.wrap dek binding
  let cipher := ContainerCipher.new dek header binding
  let metadata : Metadata := {
    originalName := fileName
    mode := modeOf attributes
    modifiedAtMs := modifiedAtMs attributes
    originalLen := plaintextLen }
  let metadataBlock := cipher.sealMetadata (← metadata.encode)
  return { header, dek, wrappers := [phone, recoveryWrapper], recoveryKey, metadata, metadataBlock }

/-- What a lock writes into the container's scratch file. -/
def lockBuild (source : Path) (locking : Locking) (temporary : Path) : LockerM σ Unit := do
  writeFront (writeAll temporary) locking.core locking.wrappers locking.metadataBlock
  let reader ← openRead source
  encryptChunks reader (writeAll temporary) locking.header locking.cipher

/-- Encrypts `source` into a new container. -/
def lockFile (source : Path) (plan : LockPlan) (custodian : KeyCustodian σ) : LockerM σ LockOutcome := do
  let locking ← lockPrepare source plan custodian
  let destination := lockDestination source plan
  AtomicFile.publish destination (lockBuild source locking)
  verify destination locking.dek
  removeWhen plan.removeOriginal source
  return {
    container := destination
    recoveryCode := formatRecoveryCode locking.recoveryKey
    plaintextLen := locking.header.plaintextLen
    originalRemoved := plan.removeOriginal }

/-- The data key of an opened container, from the phone or from the recovery code. -/
def unlockDek (container : Path) (head : ContainerHead) : UnlockKey σ → LockerM σ Dek
  | .phone custodian => do
    let wrapper ← head.wrapper .phone
    askPhone (custodian.unwrap {
      binding := head.binding
      wrapper
      containerName := container.fileName.getD ""
      plaintextLen := head.header.plaintextLen })
  | .recovery key => do
    let wrapper ← head.wrapper .recovery
    Recovery.unwrap wrapper key head.binding

/-- What an unlock has settled before it touches a file of its own. -/
structure Unlocking where
  head : ContainerHead
  reader : Stream
  dek : Dek
  metadata : Metadata
  name : String

namespace Unlocking

def cipher (unlocking : Unlocking) : ContainerCipher :=
  ContainerCipher.new unlocking.dek unlocking.head.header unlocking.head.binding

end Unlocking

/-- The first half of `unlock_file`, up to the creation of the restored file. -/
def unlockPrepare (container : Path) (removeContainer : Bool) (key : UnlockKey σ) : LockerM σ Unlocking := do
  let _ ← soleRegularFile container removeContainer
  let reader ← openRead container
  let (head, reader) ← Fallible.within ContainerHead.read reader
  let dek ← unlockDek container head key
  let cipher := ContainerCipher.new dek head.header head.binding
  let encoded ← cipher.openMetadata head.metadata
  let metadata ← Metadata.decode encoded
  require (metadata.originalLen = head.header.plaintextLen) (.malformed "metadata contradicts the header")
  let name ← metadata.safeFileName
  return { head, reader, dek, metadata, name }

/-- Decrypts a container back into the file it was made from. -/
def unlockFile (container : Path) (destinationDir : Option (List Bytes)) (removeContainer : Bool)
    (key : UnlockKey σ) : LockerM σ UnlockOutcome := do
  let unlocking ← unlockPrepare container removeContainer key
  let restored : Path := ⟨destinationDir.getD container.directory, utf8 unlocking.name⟩
  AtomicFile.publish restored fun temporary =>
    decryptChunks unlocking.reader (writeAll temporary) unlocking.head.header unlocking.cipher
  restoreAttributes restored unlocking.metadata
  removeWhen removeContainer container
  return { restored, plaintextLen := unlocking.head.header.plaintextLen, containerRemoved := removeContainer }

/-- What a rekey has settled before it touches a file of its own. -/
structure Rekeying where
  head : ContainerHead
  reader : Stream
  dek : Dek
  wrappers : List Wrapper
  code : Option String

/-- The wrappers that go with the phone's new one, and the code of a fresh one. -/
def rekeyRecovery (head : ContainerHead) (dek : Dek) (newRecovery : Bool) :
    LockerM σ (List Wrapper × Option String) :=
  if newRecovery then do
    let (wrapper, key) ← Recovery.wrap dek head.binding
    return ([wrapper], some (formatRecoveryCode key))
  else
    return (head.wrappers.filter fun wrapper => wrapper.kind = .recovery, none)

/-- The first half of `rekey_file`, up to the creation of the replacement. -/
def rekeyPrepare (container : Path) (custodian : KeyCustodian σ) (currentRecovery : Option RecoveryKey)
    (newRecovery : Bool) : LockerM σ Rekeying := do
  let _ ← soleRegularFile container true
  let reader ← openRead container
  let (head, reader) ← Fallible.within ContainerHead.read reader
  let dek ← unlockDek container head (match currentRecovery with
    | some key => .recovery key
    | none => .phone custodian)
  let phone ← askPhone (custodian.wrap {
    binding := head.binding
    dek
    fileName := container.fileName.getD ""
    plaintextLen := head.header.plaintextLen })
  require (phone.kind = .phone) (.malformed "phone returned a foreign wrapper")
  let (recovery, code) ← rekeyRecovery head dek newRecovery
  let wrappers := phone :: recovery
  require (wrappers.length ≤ maxWrappers) (.malformed "wrapper count")
  return { head, reader, dek, wrappers, code }

/-- What a rekey writes: new wrappers, and everything else as it was authenticated. -/
def rekeyBuild (rekeying : Rekeying) (temporary : Path) : LockerM σ Unit := do
  writeFront (writeAll temporary) rekeying.head.core rekeying.wrappers rekeying.head.metadata
  writeAll temporary rekeying.reader.bytes
  match rekeying.reader.ending with
  | none => return ()
  | some error => throw (.io error)

def replacementPath (container : Path) : Path := container.suffixed (utf8 "rekey-new")

def supersededPath (container : Path) : Path := container.suffixed (utf8 "rekey-old")

/-- A rekey up to the point where the old container has made way for the replacement. -/
def rekeyAside (container : Path) (custodian : KeyCustodian σ) (currentRecovery : Option RecoveryKey)
    (newRecovery : Bool) : LockerM σ Rekeying := do
  let rekeying ← rekeyPrepare container custodian currentRecovery newRecovery
  AtomicFile.publish (replacementPath container) (rekeyBuild rekeying)
  verify (replacementPath container) rekeying.dek
  rename container (supersededPath container)
  return rekeying

/-- Replaces a container's wrappers without re-encrypting its contents. Two renames rather than a delete
and a rename: at every instant at least one complete container exists. -/
def rekeyFile (container : Path) (custodian : KeyCustodian σ) (currentRecovery : Option RecoveryKey)
    (newRecovery : Bool) : LockerM σ (Option String) := do
  let rekeying ← rekeyAside container custodian currentRecovery newRecovery
  rename (replacementPath container) container
  ignoring (removeFile (supersededPath container))
  return rekeying.code

end Engine

end BioAuth.Locker
