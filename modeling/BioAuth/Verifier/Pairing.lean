import BioAuth.Locker.Engine
import BioAuth.Verifier.StoreFile
import Std.Data.ExtTreeMap

namespace BioAuth.Verifier
open BioAuth
open BioAuth.Locker (Path IoError LockerError LockerM World)

inductive PairingError
  | io (error : IoError)
  | corrupt (error : JsonError)
  | credentialConflict (id : String)
  | unknownDevice (id : String)
  deriving DecidableEq

/-- The calls the store makes fail in the platform's way only. -/
def PairingError.ofLocker : LockerError → PairingError
  | .io error => .io error
  | _ => .io .other

/-- Devices by their ids, in the order of these. -/
abbrev Devices := Std.ExtTreeMap String PairedDevice compare

/-- The set of paired devices. A store without a path is never written. -/
structure PairingStore where
  path : Option Path
  devices : Devices

namespace PairingStore

def values (store : PairingStore) : List PairedDevice := store.devices.toList.map Prod.snd

def device (store : PairingStore) (deviceId : String) : Option PairedDevice := store.devices[deviceId]?

/-- The device that holds a credential id. -/
def findCredential (store : PairingStore) (credentialId : String) : Option (PairedDevice × PairedCredential) :=
  store.values.findSome? fun device => (device.credential credentialId).map fun credential => (device, credential)

/-- A credential id may not be bound to another device or to another key already. -/
def checkConflict (store : PairingStore) (device : PairedDevice) (credential : PairedCredential) :
    Except PairingError Unit :=
  match store.findCredential credential.credentialId with
  | some (owner, existing) =>
    require (owner.deviceId = device.deviceId ∧ existing.publicKey = credential.publicKey)
      (PairingError.credentialConflict credential.credentialId)
  | none => return ()

def checkConflicts (store : PairingStore) (device : PairedDevice) : Except PairingError Unit :=
  device.credentials.forM (store.checkConflict device)

/-- A device, with the credentials it had that are not paired anew. -/
def merged (store : PairingStore) (device : PairedDevice) : PairedDevice :=
  match store.device device.deviceId with
  | some existing =>
    let incoming := device.credentials.map PairedCredential.credentialId
    { device with
      credentials := device.credentials ++ existing.credentials.filter fun kept => kept.credentialId ∉ incoming }
  | none => device

def file (store : PairingStore) : StoreFile := ⟨1, store.values⟩

end PairingStore

section Calls
variable {σ : Type}

/-- The name up to its last dot, unless that is its first octet. -/
def fileStem (name : Bytes) : Bytes :=
  match name.reverse.dropWhile (· ≠ 0x2e) with
  | _ :: before => if before = [] then name else before.reverse
  | [] => name

def withExtension (path : Path) (extension : String) : Path :=
  ⟨path.directory, fileStem path.name ++ [0x2e] ++ utf8 extension⟩

/-- `create_dir_all`. The directories above a file are no entries of their own here. -/
def createDirAll (directory : List Bytes) : LockerM σ Unit := Locker.syscall .create ⟨directory, []⟩

/-- A scratch file that is already there is a crashed write, or somebody else's. -/
def createTemp (temp : Path) : LockerM σ Unit :=
  tryCatch (Locker.createNew temp) fun error =>
    match error with
    | .io .alreadyExists => do
      Locker.removeFile temp
      Locker.createNew temp
    | error => throw error

/-- Narrows a file to its owner. -/
def restrictHandle (path : Path) : LockerM σ Unit :=
  Locker.setAttributes path fun attributes => { attributes with mode := 0o600 }

def replaceFile (path : Path) (json : Bytes) : LockerM σ Unit := do
  let temp := withExtension path "json.tmp"
  createTemp temp
  restrictHandle temp
  Locker.writeAll temp json
  Locker.syncAll temp
  Locker.rename temp path

/-- `fs::read`. -/
def readFile (path : Path) : LockerM σ Bytes := do
  let stream ← Locker.openRead path
  match stream.ending with
  | some error => throw (.io error)
  | none => return stream.bytes

end Calls

/-- The store in memory, and the disk it is kept on. -/
structure Kept (σ : Type) where
  store : PairingStore
  world : World σ

abbrev PairingM (σ : Type) := Fallible (Kept σ) PairingError

section Store
variable {σ α : Type} [JsonText]

def onDisk (x : LockerM σ α) : PairingM σ α := fun s =>
  match x s.world with
  | (.ok a, world) => (.ok a, { s with world })
  | (.error error, world) => (.error (.ofLocker error), { s with world })

/-- The devices a file holds. Of two with one id the later one stands. -/
def readStore (bytes : Bytes) : Except JsonError Devices := do
  let file ← StoreFile.deserialize (← JsonText.fromSlice bytes)
  return .ofList (file.devices.map fun device => (device.deviceId, device)) compare

/-- A missing file is an empty store. -/
def loaded (path : Path) : Except LockerError Bytes → Except PairingError PairingStore
  | .ok bytes =>
    match readStore bytes with
    | .ok devices => .ok ⟨some path, devices⟩
    | .error error => .error (.corrupt error)
  | .error (.io .notFound) => .ok ⟨some path, ∅⟩
  | .error error => .error (.ofLocker error)

def load (path : Option Path) : Fallible (World σ) PairingError PairingStore := fun world =>
  match path with
  | none => (.ok ⟨none, ∅⟩, world)
  | some path => (loaded path (readFile path world).1, (readFile path world).2)

def persist : PairingM σ Unit := do
  let store := (← get).store
  match store.path with
  | none => return
  | some path =>
    onDisk (createDirAll path.directory)
    match JsonText.toVecPretty store.file.serialize with
    | .error error => throw (.corrupt error)
    | .ok json => onDisk (replaceFile path json)

def setDevices (change : Devices → Devices) : PairingM σ Unit :=
  modify fun s => { s with store := { s.store with devices := change s.store.devices } }

/-- Adds a device, or merges new credentials into one already known. -/
def insert (device : PairedDevice) : PairingM σ Unit := do
  let store := (← get).store
  store.checkConflicts device
  setDevices fun devices => devices.insert device.deviceId (store.merged device)
  persist

def remove (deviceId : String) : PairingM σ PairedDevice := do
  let store := (← get).store
  match store.device deviceId with
  | none => throw (.unknownDevice deviceId)
  | some device =>
    setDevices fun devices => devices.erase deviceId
    persist
    return device

end Store

end BioAuth.Verifier
