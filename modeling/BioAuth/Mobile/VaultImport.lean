import BioAuth.Lib.Csv
import BioAuth.Lib.Json
import BioAuth.Mobile.PairingBootstrap
import BioAuth.Mobile.VaultBackup

namespace BioAuth.Mobile
open BioAuth
open VaultStore (VaultItemInput)

namespace VaultImport

def maxName : Nat := 255
def maxUsername : Nat := 255
def maxUri : Nat := 1024
def maxSecret : Nat := 4096

/-- Above this a file is not an export. -/
def maxImportRows : Nat := 4096

/-- Why a whole file cannot be read. -/
inductive ImportProblem
  | notUtf8
  | malformedJson
  | notBitwarden
  | bitwardenEncrypted
  | noItemsList
  | tooManyRows
  | unreadableCsv
  | emptyFile
  | csvNeedsNameColumn
  | csvNeedsSecretColumn
  deriving DecidableEq

/-- Why one row is left out. -/
inductive RowProblem
  | notAnItem
  | unsupportedType
  | noName
  | noSecret
  | nameTooLong
  | usernameTooLong
  | uriTooLong
  | secretTooLong
  deriving DecidableEq

structure VaultImportRejection where
  row : Nat
  reason : RowProblem
  name : String
  deriving DecidableEq

structure VaultImportPreview where
  items : List VaultItemInput
  rejections : List VaultImportRejection
  deriving DecidableEq

namespace VaultImportPreview

def empty : VaultImportPreview := { items := [], rejections := [] }

def add (item : VaultItemInput) (preview : VaultImportPreview) : VaultImportPreview :=
  { preview with items := item :: preview.items }

def reject (rejection : VaultImportRejection) (preview : VaultImportPreview) : VaultImportPreview :=
  { preview with rejections := rejection :: preview.rejections }

/-- What became of a row, in front of what became of the rows behind it. -/
def behind (row : Except VaultImportRejection VaultItemInput) (preview : VaultImportPreview) : VaultImportPreview :=
  match row with
  | .ok item => preview.add item
  | .error rejection => preview.reject rejection

end VaultImportPreview

open VaultImportPreview (empty behind)

/-- `jsonDecode`, which may throw a `FormatException`. -/
class JsonDecoder where
  jsonDecode : String → Option Json

/-- `CsvDecoder.convert` with a delimiter, the empty lines skipped and no dynamic typing. It may throw. -/
class CsvDecoder where
  convert : Char → String → Option (List (List String))

/-- The store's own bounds, with the first thing that is wrong. -/
def validate (row : Nat) (name username uri secret : String) : Option VaultImportRejection :=
  let problem : Option RowProblem :=
    if name = "" then some .noName
    else if blank secret then some .noSecret
    else if maxName < utf16Len name then some .nameTooLong
    else if maxUsername < utf16Len username then some .usernameTooLong
    else if maxUri < utf16Len uri then some .uriTooLong
    else if maxSecret < utf16Len secret then some .secretTooLong
    else none
  problem.map fun reason => { row, reason, name }

/-- A row with its bounds checked. -/
def checked (row : Nat) (item : VaultItemInput) : Except VaultImportRejection VaultItemInput :=
  match validate row item.name item.username item.uri item.secret with
  | some rejection => .error rejection
  | none => .ok item

/-- `map[key]` of a decoded object. Of members of one name the last one counts. -/
def lookup (key : String) (members : List (String × Json)) : Option Json :=
  (members.reverse.find? fun member => member.1 = key).map Prod.snd

/-- `_string`. -/
def string : Option Json → String
  | some (.string value) => value
  | _ => ""

/-- `_firstUri`. -/
def firstUri : Option Json → String
  | some (.array (.object first :: _)) => string (lookup "uri" first)
  | some (.array (first :: _)) => string (some first)
  | _ => ""

/-- The fields that an item of the export's type 1 or 2 brings. -/
def fields (type login : Option Json) (raw : List (String × Json)) : VaultItemKind × String × String × String :=
  match type, login with
  | some (.number 1), some (.object login) =>
    (.login, trim (string (lookup "username" login)), trim (firstUri (lookup "uris" login)),
      string (lookup "password" login))
  | some (.number 2), _ => (.note, "", "", string (lookup "notes" raw))
  | _, _ => (.login, "", "", "")

def supported : Option Json → Bool
  | some (.number type) => type = 1 || type = 2
  | _ => false

/-- One round of the loop over the items of a JSON export. -/
def jsonRow (row : Nat) : Json → Except VaultImportRejection VaultItemInput
  | .object raw =>
    let name := trim (string (lookup "name" raw))
    let (kind, username, uri, secret) := fields (lookup "type" raw) (lookup "login" raw) raw
    if supported (lookup "type" raw) then checked row { kind, name, username, uri, secret }
    else .error { row, reason := .unsupportedType, name }
  | _ => .error { row, reason := .notAnItem, name := "" }

def jsonRows : Nat → List Json → VaultImportPreview
  | _, [] => empty
  | index, raw :: rest => behind (jsonRow (index + 1) raw) (jsonRows (index + 1) rest)

def encrypted : Option Json → Bool
  | some (.bool value) => value
  | _ => false

/-- `_parseBitwardenJson`. -/
def parseBitwardenJson [JsonDecoder] (text : String) : Except ImportProblem VaultImportPreview :=
  match JsonDecoder.jsonDecode text with
  | none => .error .malformedJson
  | some (.object decoded) =>
    if encrypted (lookup "encrypted" decoded) then .error .bitwardenEncrypted
    else
      match lookup "items" decoded with
      | some (.array rawItems) =>
        if maxImportRows < rawItems.length then .error .tooManyRows else .ok (jsonRows 0 rawItems)
      | _ => .error .noItemsList
  | some _ => .error .notBitwarden

/-- What a column of a CSV file holds. -/
inductive Column
  | name
  | username
  | secret
  | uri
  | notes
  | type
  deriving DecidableEq

/-- `_columnAliases`. -/
def columnAliases : List (String × Column) :=
  [("name", .name), ("title", .name), ("item", .name), ("account", .name), ("username", .username),
    ("login_username", .username), ("user", .username), ("email", .username), ("password", .secret),
    ("login_password", .secret), ("pass", .secret), ("url", .uri), ("uri", .uri), ("login_uri", .uri),
    ("website", .uri), ("site", .uri), ("notes", .notes), ("note", .notes), ("type", .type)]

/-- The delimiter the first line has the most of. -/
def delimiterOf (text : String) : Char :=
  let header := text.toList.takeWhile (· ≠ '\n')
  let pick := fun (best : Char × Nat) candidate =>
    if best.2 < header.count candidate then (candidate, header.count candidate) else best
  ([',', ';', '\t'].foldl pick (',', 0)).1

/-- `_columnAliases[label.trim().toLowerCase()]`. No letter outside ASCII turns into a letter of these names. -/
def columnOf (label : String) : Option Column :=
  (columnAliases.find? fun entry => entry.1 = String.ofList ((trim label).toList.map Char.toLower)).map Prod.snd

/-- Where a column is. The first one wins. -/
def headerOf (labels : List String) (field : Column) : Option Nat :=
  labels.findIdx? fun label => columnOf label = some field

/-- A cell as it was written. -/
def verbatim (header : Column → Option Nat) (cells : List String) (field : Column) : String :=
  match header field with
  | some column => cells[column]?.getD ""
  | none => ""

/-- The trimmed cell. -/
def at' (header : Column → Option Nat) (cells : List String) (field : Column) : String :=
  trim (verbatim header cells field)

/-- One round of the loop over the rows of a CSV file. A row without name, password and notes is passed over. -/
def csvRow (header : Column → Option Nat) (row : Nat) (cells : List String) :
    Option (Except VaultImportRejection VaultItemInput) :=
  let name := at' header cells .name
  let password := at' header cells .secret
  let notes := at' header cells .notes
  let isNote := password = "" ∧ notes ≠ ""
  if name = "" ∧ password = "" ∧ notes = "" then none
  else
    let present := if isNote then notes ≠ "" else password ≠ ""
    let secret := if ¬present then "" else if isNote then verbatim header cells .notes else verbatim header cells .secret
    some (checked row
      { kind := if isNote then .note else .login
        name
        username := if isNote then "" else at' header cells .username
        uri := if isNote then "" else at' header cells .uri
        secret })

def csvRows (header : Column → Option Nat) : Nat → List (List String) → VaultImportPreview
  | _, [] => empty
  | index, cells :: rest =>
    match csvRow header (index + 1) cells with
    | some row => behind row (csvRows header (index + 1) rest)
    | none => csvRows header (index + 1) rest

/-- `text.replaceAll('\r\n', '\n')`. -/
def replaceLineEnds (text : String) : String := String.ofList (Csv.lineFeeds text.toList)

/-- `_parseCsv`. -/
def parseCsv [CsvDecoder] (text : String) : Except ImportProblem VaultImportPreview := do
  match CsvDecoder.convert (delimiterOf text) (replaceLineEnds text) with
  | none => .error .unreadableCsv
  | some [] => .error .emptyFile
  | some (first :: rows) =>
    require (rows.length ≤ maxImportRows) ImportProblem.tooManyRows
    let header := headerOf first
    require ((header .name).isSome = true) ImportProblem.csvNeedsNameColumn
    require ((header .secret).isSome = true ∨ (header .notes).isSome = true) ImportProblem.csvNeedsSecretColumn
    return csvRows header 1 rows

def trimLeft (text : String) : String := String.ofList (text.toList.dropWhile trimmed)

/-- Picks the parser from the bytes rather than from the file name. -/
def parseVaultImport [JsonDecoder] [CsvDecoder] (bytes : Bytes) : Except ImportProblem VaultImportPreview := do
  let text ← okOr ImportProblem.notUtf8 (utf8Decode bytes)
  let opening := (trimLeft text).toList.head?
  if opening = some '\x7b' ∨ opening = some '[' then parseBitwardenJson (trimLeft text) else parseCsv text

end VaultImport

end BioAuth.Mobile
