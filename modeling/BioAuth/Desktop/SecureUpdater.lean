import BioAuth.Lib.Fallible
import Mathlib.Algebra.Group.Nat.Defs
import Mathlib.Logic.Function.Basic

namespace BioAuth.Desktop
open BioAuth

/-- `Number` of a decimal numeral: the nearest double, ties to even, and one value for all that are too large. -/
def number (n : Nat) : Nat :=
  if n < 2 ^ 53 then n
  else
    let unit := 2 ^ (n.log2 - 52)
    let quotient := n / unit
    let rest := n % unit
    let up := unit < 2 * rest ∨ unit = 2 * rest ∧ quotient % 2 = 1
    min ((quotient + if up then 1 else 0) * unit) (2 ^ 1024)

/-- A numeral without leading zeros. -/
def numeral (digits : List Char) : Option Nat :=
  if digits ≠ [] ∧ digits.all Char.isDigit ∧ (digits = ['0'] ∨ digits.head? ≠ some '0') then
    some (digits.foldl (fun value digit => 10 * value + (digit.toNat - '0'.toNat)) 0)
  else none

/-- The three numbers of a version. -/
def components (text : String) : Option (List Nat) :=
  let canonical := if text.toList.head? = some 'v' then text.toList.tail else text.toList
  match canonical.splitOn '.' with
  | [major, minor, patch] => do return [← numeral major, ← numeral minor, ← numeral patch]
  | _ => none

def parseVersion (text : String) : Option (List Nat) := (components text).map (List.map number)

/-- The first number that differs decides. -/
def compareNumbers : List Nat → List Nat → Ordering
  | a :: left, b :: right => if a ≠ b then (if a < b then .lt else .gt) else compareNumbers left right
  | _, _ => .eq

/-- Nothing where it throws. -/
def compareVersions (left right : String) : Option Ordering := do
  return compareNumbers (← parseVersion left) (← parseVersion right)

def installerName (version : String) : String := "PhoneAuth-Setup-" ++ version ++ "-x64.exe"

def repository : String := "Gaok1/BioAuth"

def maxInstallerBytes : Nat := 512 * 1024 * 1024

def minInstallerBytes : Nat := 1024 * 1024

/-- The parts of an URL. -/
structure Url where
  protocol : String
  hostname : String
  pathname : String
  search : String
  hash : String

/-- A file of a release: its size if that is a safe integer, and its URL if that is one. -/
structure Asset where
  name : String
  size : Option Int
  browserDownloadUrl : Option Url

/-- The metadata of a release. What is not a string is no tag. -/
structure Release where
  draft : Bool
  prerelease : Bool
  tagName : Option String
  assets : List Asset

/-- The tag without its first letter. -/
def Release.latestVersion (latest : Release) : String :=
  let tag := latest.tagName.getD ""
  if tag.toList.head? = some 'v' then String.ofList tag.toList.tail else tag

/-- What ends a call. -/
inductive UpdateError
  | error (message : String)
  | typeError

def releaseAsset (release : Release) (version : String) : Except UpdateError (Asset × Nat) := do
  require (release.draft = false ∧ release.prerelease = false ∧ release.tagName = some ("v" ++ version))
    (UpdateError.error "release metadata is not a stable canonical release")
  require (parseVersion version ≠ none) (UpdateError.error "invalid installer version")
  let expected := installerName version
  let matching := release.assets.filter fun asset => asset.name = expected
  let asset ← okOr (.error ("release must carry exactly one " ++ expected))
    (if matching.length = 1 then matching.head? else none)
  let size ← okOr (.error "release installer size is outside the accepted bounds") asset.size
  require (minInstallerBytes ≤ size ∧ size ≤ maxInstallerBytes)
    (UpdateError.error "release installer size is outside the accepted bounds")
  let parsed ← okOr .typeError asset.browserDownloadUrl
  let expectedPath := "/" ++ repository ++ "/releases/download/v" ++ version ++ "/" ++ expected
  require (parsed.protocol = "https:" ∧ parsed.hostname = "github.com" ∧ parsed.pathname = expectedPath ∧
    parsed.search = "" ∧ parsed.hash = "") (UpdateError.error "release installer URL is not GitHub HTTPS")
  return (asset, size.toNat)

/-- What the verifier says of a file. -/
structure Authenticode where
  valid : Bool
  publicKey : Option String
  fileVersion : String
  deriving DecidableEq

/-- `this.ready`. -/
structure Ready where
  version : String
  installer : String
  signerPublicKey : Option String
  deriving DecidableEq

/-- `rollback.json`: a version that is a string or only reads like one, and the installer's name if it lies in the
directory. -/
structure RollbackMetadata where
  version : String
  isString : Bool
  installer : Option String
  signerPublicKey : Option String

/-- What a file must be found to be. -/
structure Voucher where
  name : String
  publicKey : Option String
  version : Option String
  deriving DecidableEq

def Ready.voucher (ready : Ready) : Voucher := ⟨ready.installer, ready.signerPublicKey, some ready.version⟩

/-- What `#sameSigner` asks of an answer. -/
def Voucher.sameSigner (voucher : Voucher) (signature : Authenticode) : Bool :=
  signature.valid && signature.publicKey = voucher.publicKey && some signature.fileVersion = voucher.version

/-- An installation: the version it has, the build itself, what the verifier says of contents, and how the file system
resolves the names in its directory. -/
structure Installation (File Content : Type) where
  enabled : Bool
  currentVersion : String
  currentExecutable : Content
  verify : Content → Option Authenticode
  size : Content → Nat
  resolve : String → File
  parse : Content → Option RollbackMetadata
  stringify : RollbackMetadata → Content

/-- An answer of the verifier, once there is one. -/
inductive Answer
  | waiting
  | rejected
  | given (signature : Authenticode)

/-- What a check downloads: the update, or the build to roll back to once the update is verified. -/
inductive Stage
  | pending
  | rollback (ready : Ready)

structure Target where
  ready : Ready
  size : Nat
  stage : Stage

/-- Where a call awaits. -/
inductive Call
  | checkInstalled (answer : Answer)
  | checkLatest (publicKey : Option String)
  | checkDownload (target : Target) (landed : Bool)
  | checkVerify (target : Target) (answer : Answer)
  | checkVerified (target : Target)
  | checkCurrent (ready : Ready)
  | installVerify (ready : Ready) (answer : Answer)
  | installVerified
  | infoInstalled (voucher : Voucher) (launches : Bool) (answer : Answer)
  | infoVerify (voucher : Voucher) (launches : Bool) (answer : Answer)
  | infoVerified (voucher : Voucher) (launches : Bool)
  | rollbackVerified (voucher : Voucher)

/-- A path passed to `launch`: what it was launched as, and what the verifier had said last of the file, with the number
of times the file had been written by then and now. -/
structure Launch where
  rollback : Bool
  voucher : Voucher
  written : Nat
  verified : Option (Nat × Authenticode)
  deriving DecidableEq

/-- An updater with its calls under way, and the files of its directory. -/
structure SecureUpdater (File Content : Type) where
  ready : Option Ready
  files : File → Option Content
  calls : List Call
  /-- How often each file has been written. -/
  writes : File → Nat
  /-- The last answer on each file, and how often the file had been written when the verifier read it. -/
  verified : File → Option (Nat × Authenticode)
  launched : List Launch

/-- How far `atomicJson` gets. -/
inductive Stored
  | nothing
  | temporary
  | all

/-- What happens next: a call begins, or the call at some place goes on. The verifier reads a file and answers, a
download writes to its temporary file or lands, metadata arrives, a promise that is settled resumes its call, or a call
is rejected. -/
inductive Event (Content : Type)
  | check
  | install
  | rollbackInfo (launches : Bool)
  | answer (place : Nat) (succeeds : Bool)
  | metadata (place : Nat) (release : Option Release)
  | part (place : Nat) (content : Content)
  | land (place : Nat) (content : Content)
  | resume (place : Nat) (stored : Stored)
  | reject (place : Nat)

namespace SecureUpdater
variable {File Content : Type} [DecidableEq File] (setup : Installation File Content)
  (updater : SecureUpdater File Content)

/-- A directory as it is found. -/
def initial (files : File → Option Content) : SecureUpdater File Content :=
  ⟨none, files, [], fun _ => 0, fun _ => none, []⟩

def await (call : Call) : SecureUpdater File Content := { updater with calls := updater.calls ++ [call] }

def goOn (place : Nat) (call : Call) : SecureUpdater File Content :=
  { updater with calls := updater.calls.set place call }

def done (place : Nat) : SecureUpdater File Content := { updater with calls := updater.calls.eraseIdx place }

def write (name : String) (content : Content) : SecureUpdater File Content :=
  { updater with
    files := Function.update updater.files (setup.resolve name) (some content)
    writes := Function.update updater.writes (setup.resolve name) (updater.writes (setup.resolve name) + 1) }

/-- `fs.rmSync` with `force`. -/
def remove (name : String) : SecureUpdater File Content :=
  { updater with files := Function.update updater.files (setup.resolve name) none }

/-- The verifier reads a file and answers, or does not. -/
def judge (name : String) (succeeds : Bool) : Answer × SecureUpdater File Content :=
  match (if succeeds then (updater.files (setup.resolve name)).bind setup.verify else none) with
  | none => (.rejected, updater)
  | some signature => (.given signature, { updater with
      verified := Function.update updater.verified (setup.resolve name)
        (some (updater.writes (setup.resolve name), signature)) })

/-- The verifier reads the executable. -/
def judgeExecutable (succeeds : Bool) : Answer :=
  match (if succeeds then setup.verify setup.currentExecutable else none) with
  | none => .rejected
  | some signature => .given signature

def launch (rollback : Bool) (voucher : Voucher) : SecureUpdater File Content :=
  let file := setup.resolve voucher.name
  { updater with launched := updater.launched ++ [⟨rollback, voucher, updater.writes file, updater.verified file⟩] }

/-- `#downloadAndVerify` up to its first await. -/
def download (place : Nat) (target : Target) : SecureUpdater File Content :=
  let name := target.ready.installer
  let updater := updater.remove setup (name ++ ".part")
  let wrong := (updater.files (setup.resolve name)).any fun content => setup.size content ≠ target.size
  let updater := if wrong then updater.remove setup name else updater
  match updater.files (setup.resolve name) with
  | none => updater.goOn place (.checkDownload target false)
  | some _ => updater.goOn place (.checkVerify target .waiting)

def checkLatest (place : Nat) (publicKey : Option String) (release : Option Release) : SecureUpdater File Content :=
  match release with
  | none => updater.done place
  | some latest =>
    if compareVersions latest.latestVersion setup.currentVersion = some .gt then
      match releaseAsset latest latest.latestVersion with
      | .error _ => updater.done place
      | .ok (asset, size) =>
        updater.download setup place ⟨⟨latest.latestVersion, asset.name, publicKey⟩, size, .pending⟩
    else updater.done place

def checkCurrent (place : Nat) (ready : Ready) (release : Option Release) : SecureUpdater File Content :=
  match release with
  | none => updater.done place
  | some current =>
    match releaseAsset current setup.currentVersion with
    | .error _ => updater.done place
    | .ok (_, size) =>
      let rollback := "rollback-" ++ installerName setup.currentVersion
      updater.download setup place ⟨⟨setup.currentVersion, rollback, ready.signerPublicKey⟩, size, .rollback ready⟩

/-- What a check leaves behind once both installers are verified. -/
def announce (ready rollback : Ready) (stored : Stored) : SecureUpdater File Content :=
  let updater := { updater with ready := some ready }
  let content := setup.stringify ⟨rollback.version, true, some rollback.installer, rollback.signerPublicKey⟩
  match stored with
  | .nothing => updater
  | .temporary => updater.write setup "rollback.json.tmp" content
  | .all => ((updater.write setup "rollback.json.tmp" content).remove setup "rollback.json.tmp").write setup
      "rollback.json" content

/-- What the verifier says of the executable, and whether the updater goes on with it. -/
def ownSignature (signature : Authenticode) : Bool :=
  signature.valid && signature.fileVersion = setup.currentVersion

/-- The end of `#sameSigner`: what is not as it must be is deleted. -/
def settle (place : Nat) (voucher : Voucher) (answer : Answer) (call : Call) : SecureUpdater File Content :=
  match answer with
  | .waiting => updater
  | .rejected => updater.done place
  | .given signature =>
    if voucher.sameSigner signature then updater.goOn place call
    else (updater.remove setup voucher.name).done place

/-- A call goes on behind its await. -/
def resume (place : Nat) (stored : Stored) : Call → SecureUpdater File Content
  | .checkInstalled .waiting => updater
  | .checkInstalled .rejected => updater.done place
  | .checkInstalled (.given signature) =>
    if ownSignature setup signature ∧ signature.publicKey ≠ none ∧ signature.publicKey ≠ some "" then
      updater.goOn place (.checkLatest signature.publicKey)
    else updater.done place
  | .checkDownload target true =>
    match updater.files (setup.resolve target.ready.installer) with
    | none => updater.done place
    | some content =>
      if setup.size content = target.size then updater.goOn place (.checkVerify target .waiting)
      else (updater.remove setup target.ready.installer).done place
  | .checkVerify target answer => updater.settle setup place target.ready.voucher answer (.checkVerified target)
  | .checkVerified target =>
    match target.stage with
    | .pending => updater.goOn place (.checkCurrent target.ready)
    | .rollback ready => (updater.announce setup ready target.ready stored).done place
  | .installVerify ready answer => updater.settle setup place ready.voucher answer .installVerified
  | .installVerified =>
    match updater.ready with
    | none => updater.done place
    | some ready => (updater.launch setup false ready.voucher).done place
  | .infoInstalled _ _ .waiting => updater
  | .infoInstalled _ _ .rejected => updater.done place
  | .infoInstalled voucher launches (.given signature) =>
    if ownSignature setup signature ∧ signature.publicKey = voucher.publicKey then
      updater.goOn place (.infoVerify voucher launches .waiting)
    else updater.done place
  | .infoVerify voucher launches answer =>
    updater.settle setup place voucher answer (.infoVerified voucher launches)
  | .infoVerified voucher launches =>
    if launches then updater.goOn place (.rollbackVerified voucher) else updater.done place
  | .rollbackVerified voucher => (updater.launch setup true voucher).done place
  | _ => updater

/-- `rollbackInfo` up to its first await. -/
def startRollback (launches : Bool) : SecureUpdater File Content :=
  match (updater.files (setup.resolve "rollback.json")).bind setup.parse with
  | none => updater
  | some metadata =>
    match metadata.installer with
    | none => updater
    | some installer =>
      if compareVersions metadata.version setup.currentVersion = some .lt then
        let version := if metadata.isString then some metadata.version else none
        updater.await (.infoInstalled ⟨installer, metadata.signerPublicKey, version⟩ launches .waiting)
      else updater

/-- The verifier answers a call. -/
def answered (place : Nat) (succeeds : Bool) : Call → SecureUpdater File Content
  | .checkInstalled .waiting => updater.goOn place (.checkInstalled (judgeExecutable setup succeeds))
  | .checkVerify target .waiting =>
    let (answer, updater) := updater.judge setup target.ready.installer succeeds
    updater.goOn place (.checkVerify target answer)
  | .installVerify ready .waiting =>
    let (answer, updater) := updater.judge setup ready.installer succeeds
    updater.goOn place (.installVerify ready answer)
  | .infoInstalled voucher launches .waiting =>
    updater.goOn place (.infoInstalled voucher launches (judgeExecutable setup succeeds))
  | .infoVerify voucher launches .waiting =>
    let (answer, updater) := updater.judge setup voucher.name succeeds
    updater.goOn place (.infoVerify voucher launches answer)
  | _ => updater

def step (event : Event Content) : SecureUpdater File Content :=
  match event with
  | .check => if setup.enabled then updater.await (.checkInstalled .waiting) else updater
  | .install =>
    match updater.ready with
    | none => updater
    | some ready => updater.await (.installVerify ready .waiting)
  | .rollbackInfo launches => if setup.enabled then updater.startRollback setup launches else updater
  | .answer place succeeds =>
    match updater.calls[place]? with
    | some call => updater.answered setup place succeeds call
    | none => updater
  | .metadata place release =>
    match updater.calls[place]? with
    | some (.checkLatest publicKey) => updater.checkLatest setup place publicKey release
    | some (.checkCurrent ready) => updater.checkCurrent setup place ready release
    | _ => updater
  | .part place content =>
    match updater.calls[place]? with
    | some (.checkDownload target false) => updater.write setup (target.ready.installer ++ ".part") content
    | _ => updater
  | .land place content =>
    match updater.calls[place]? with
    | some (.checkDownload target false) =>
      ((updater.remove setup (target.ready.installer ++ ".part")).write setup target.ready.installer content).goOn place
        (.checkDownload target true)
    | _ => updater
  | .resume place stored =>
    match updater.calls[place]? with
    | some call => updater.resume setup place stored call
    | none => updater
  | .reject place => updater.done place

def run (events : List (Event Content)) : SecureUpdater File Content := events.foldl (step setup) updater

end SecureUpdater

end BioAuth.Desktop
