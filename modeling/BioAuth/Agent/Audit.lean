import BioAuth.Lib.FlatJson
import Mathlib.Data.Nat.Find
import Mathlib.Data.Fintype.EquivFin

namespace BioAuth.Agent
open BioAuth
open BioAuth.FlatJson (Document Foreign Value)

inductive Outcome
  | granted
  | denied
  | failed
  deriving DecidableEq

/-- `#[serde(rename_all = "kebab-case")]`. -/
def Outcome.kebab : Outcome → String
  | granted => "granted"
  | denied => "denied"
  | failed => "failed"

structure AuditEntry where
  atMs : Int64
  outcome : Outcome
  requestId : String
  service : String
  action : String
  resource : String
  user : String
  deviceName : String
  origin : String
  /-- Why it failed, when it did. -/
  detail : Option String
  development : Bool
  deriving DecidableEq

namespace AuditEntry

/-- The members that are written. A detail that is missing is skipped. -/
def fields (entry : AuditEntry) : List (String × Value) :=
  ("atMs", .integer entry.atMs.toInt) :: ("outcome", .text entry.outcome.kebab) ::
    ("requestId", .text entry.requestId) :: ("service", .text entry.service) :: ("action", .text entry.action) ::
    ("resource", .text entry.resource) :: ("user", .text entry.user) :: ("deviceName", .text entry.deviceName) ::
    ("origin", .text entry.origin) ::
    ((match entry.detail with
      | some detail => [("detail", .text detail)]
      | none => []) ++ [("development", .flag entry.development)])

/-- `serde_json::to_vec`. -/
def toVec (entry : AuditEntry) : Bytes := FlatJson.toVec entry.fields

/-- An entry as it is appended. -/
def line (entry : AuditEntry) : Bytes := entry.toVec ++ [0x0a]

end AuditEntry

/-- `serde_json::from_str` of an entry. -/
class AuditReader where
  fromStr : String → Option AuditEntry

/-- What is known of it: it reads back what was written, and it takes nothing that is not one object or array. -/
structure AuditReader.Sound [AuditReader] : Prop where
  faithful : ∀ text entry, utf8 text = entry.toVec → fromStr text = some entry
  document : ∀ text entry, fromStr text = some entry → Document (utf8 text)

structure AuditLog where
  /-- Entries kept when the file is trimmed. -/
  retain : Nat
  /-- File size above which a trim is considered. -/
  trimThresholdBytes : Nat
  retains : 0 < retain

namespace AuditLog

/-- The log the agent keeps. -/
def new : AuditLog where
  retain := 500
  trimThresholdBytes := 512 * 1024
  retains := by decide

/-- The lines of a file, each with its line feed. The last may lack it. -/
def rawLines : Bytes → List Bytes
  | [] => []
  | b :: rest =>
    if b = 0x0a then [b] :: rawLines rest
    else
      match rawLines rest with
      | [] => [[b]]
      | line :: lines => (b :: line) :: lines

/-- A line without its end. -/
def chomp (line : Bytes) : Bytes :=
  if line.getLast? = some 0x0a then
    if line.dropLast.getLast? = some 0x0d then line.dropLast.dropLast else line.dropLast
  else line

/-- One step of `BufRead::lines`, which fails on a line that is not UTF-8. -/
def readLine (line : Bytes) : Option String := do
  let _ ← fromUtf8 line
  fromUtf8 (chomp line)

/-- `lines().map_while(Result::ok)`. -/
def readable : List Bytes → List String
  | [] => []
  | line :: lines =>
    match readLine line with
    | some text => text :: readable lines
    | none => []

/-- What a missing file has is what an empty one has. -/
def readAll [AuditReader] (content : Bytes) : List AuditEntry :=
  (readable (rawLines content)).filterMap AuditReader.fromStr

/-- Most recent entries, newest first. -/
def recent [AuditReader] (content : Bytes) (limit : Nat) : List AuditEntry := (readAll content).reverse.take limit

/-- The lines a trim keeps, newest first. Never empty: one entry larger than the whole budget is still kept. -/
def gather (budget : Nat) (lines : List Bytes) (bytes : Nat) : List AuditEntry → List Bytes
  | [] => lines
  | entry :: rest =>
    if lines ≠ [] ∧ budget < bytes + entry.line.length then lines
    else gather budget (lines ++ [entry.line]) (bytes + entry.line.length) rest

/-- Keeps the file bounded. -/
def trimIfNeeded [AuditReader] (log : AuditLog) (content : Bytes) : Bytes :=
  if content.length ≤ log.trimThresholdBytes then content
  else
    let entries := readAll content
    let lines := gather (log.trimThresholdBytes / 2) [] 0 (entries.reverse.take log.retain)
    if entries.length ≤ lines.length then content else lines.reverse.flatten

/-- What a successful append makes of the file. -/
def append [AuditReader] (log : AuditLog) (content : Bytes) (entry : AuditEntry) : Bytes :=
  trimIfNeeded log (content ++ entry.line)

end AuditLog

end BioAuth.Agent
