import BioAuth.Mobile.Layout

namespace BioAuth.Mobile
open BioAuth

def vaultSchema : Int64 := 1
def maxVaultPayloadBytes : Nat := 6 * 1024

/-- The most summaries one page may carry. -/
def vaultMaxPageItems : Nat := 32

def vaultRefusals : PayloadRefusals where
  length := "invalid vault payload length"
  shape := "Estrutura de payload inesperada"
  schema := "unsupported vault schema"
  canonical := "non-canonical vault payload"

/-- `_checkName` and `_checkId`. -/
def checkName (field value : String) : Except Refusal Unit :=
  require (¬blankOrLong value 255) (.formatException ("invalid " ++ field))

def checkId (field value : String) : Except Refusal Unit :=
  require (¬blankOrLong value 64) (.formatException ("invalid " ++ field))

/-- Bounded, but allowed to be empty. -/
def checkOptional (field value : String) (max : Nat) : Except Refusal Unit :=
  require (utf16Len value ≤ max) (.formatException ("invalid " ++ field))

def checkSecret (value : String) : Except Refusal Unit :=
  require (value ≠ "" ∧ utf16Len value ≤ 4096) (.formatException "invalid secret")

/-- Revisions start at one. -/
def checkRevision (revision : Int64) : Except Refusal Unit :=
  require (1 ≤ revision) (.formatException "invalid revision")

/-- `_sized`. -/
def sized (payload : Bytes) : Except Refusal Bytes := do
  require (payload.length ≤ maxVaultPayloadBytes) (.formatException "Payload de cofre grande demais")
  return payload

/-- What an item is. -/
inductive VaultItemKind
  | login
  | note
  | totp
  deriving DecidableEq

namespace VaultItemKind

def wire : VaultItemKind → Int64
  | login => 0
  | note => 1
  | totp => 2

def fromWire (value : Int64) : Except Refusal VaultItemKind :=
  if value = 0 then .ok login
  else if value = 1 then .ok note
  else if value = 2 then .ok totp
  else .error (.formatException ("Tipo de item desconhecido: " ++ toString value))

end VaultItemKind

/-- One row of a list. It carries no secret. -/
structure VaultItemSummary where
  id : String
  revision : Int64
  kind : VaultItemKind
  name : String
  username : String
  uri : String
  updatedAtMs : Int64

namespace VaultItemSummary

def validate (item : VaultItemSummary) : Except Refusal Unit := do
  checkId "itemId" item.id
  checkName "name" item.name
  checkOptional "username" item.username 255
  checkOptional "uri" item.uri 1024
  checkRevision item.revision

def write (item : VaultItemSummary) : Except Refusal Bytes := do
  return [CborWriter.array 7, CborWriter.text item.id, ← CborWriter.uint item.revision,
    ← CborWriter.uint item.kind.wire, CborWriter.text item.name, CborWriter.text item.username,
    CborWriter.text item.uri, CborWriter.int64 item.updatedAtMs].flatten

def read : Fallible CborReader Thrown VaultItemSummary := do
  require ((← CborReader.array) = 7) (formatException "Estrutura de resumo inesperada")
  let id ← CborReader.text
  let revision ← CborReader.uint
  let kind ← refusing (VaultItemKind.fromWire (← CborReader.uint))
  let name ← CborReader.text
  let username ← CborReader.text
  let uri ← CborReader.text
  let updatedAtMs ← CborReader.int64
  return { id, revision, kind, name, username, uri, updatedAtMs }

def items : List Item :=
  [.number majorArray (· = 7), .text fun _ => True, .number majorUint fun _ => True,
    .number majorUint fun wire => ∃ kind, VaultItemKind.fromWire wire = .ok kind, .text fun _ => True,
    .text fun _ => True, .text fun _ => True, .int]

theorem read_reading : Reading read (items.map Entry.item) := by
  refine .checked (Item.number_readBy (by decide) _) fun _ _ => .text fun id => .uint fun revision => ?_
  refine .converted (by decide) fun kind => .text fun name => .text fun username => .text fun uri => ?_
  exact .int fun updatedAtMs => .pure _

end VaultItemSummary

/-- `vault.list`: the desktop asks for a page of metadata. -/
structure VaultListRequest where
  verifierName : String
  /-- Empty starts at the first page. -/
  cursor : String
  deriving DecidableEq

namespace VaultListRequest

def validate (request : VaultListRequest) : Except Refusal Unit := do
  checkName "verifierName" request.verifierName
  checkOptional "cursor" request.cursor 128

def encode (request : VaultListRequest) : Except Refusal Bytes := do
  request.validate
  sized [CborWriter.array 3, ← CborWriter.uint vaultSchema, CborWriter.text request.verifierName,
    CborWriter.text request.cursor].flatten

def readFields : Fallible CborReader Thrown VaultListRequest := do
  let verifierName ← CborReader.text
  let cursor ← CborReader.text
  return { verifierName, cursor }

def decode : Uint8List → Except Thrown VaultListRequest :=
  decodePayload maxVaultPayloadBytes vaultRefusals 3 vaultSchema readFields encode

def layout : Layout :=
  [.item (.text fun _ => True), .item (.text fun _ => True)]

theorem readFields_reading : Reading readFields layout := by
  exact .text fun verifierName => .text fun cursor => .pure _

theorem declares : Declares decode maxVaultPayloadBytes (payloadLayout 3 vaultSchema layout) :=
  decodePayload_declares readFields_reading

end VaultListRequest

/-- The phone's answer to `vault.list`. -/
structure VaultListResponse where
  items : List VaultItemSummary
  /-- Empty on the last page. -/
  nextCursor : String

namespace VaultListResponse

def validate (response : VaultListResponse) : Except Refusal Unit := do
  require (response.items.length ≤ vaultMaxPageItems) (.formatException "vault page too large")
  response.items.forM VaultItemSummary.validate
  checkOptional "nextCursor" response.nextCursor 128

def encode (response : VaultListResponse) : Except Refusal Bytes := do
  response.validate
  sized ([CborWriter.array 3, ← CborWriter.uint vaultSchema, CborWriter.array response.items.length].flatten ++
    (← response.items.mapM VaultItemSummary.write).flatten ++ CborWriter.text response.nextCursor)

/-- The count is checked before a list is made. -/
def readFields : Fallible CborReader Thrown VaultListResponse := do
  let count ← CborReader.array
  require (count.toInt ≤ vaultMaxPageItems) (formatException "vault page too large")
  let items ← Fallible.times VaultItemSummary.read count.toInt.toNat
  let nextCursor ← CborReader.text
  return { items, nextCursor }

def decode : Uint8List → Except Thrown VaultListResponse :=
  decodePayload maxVaultPayloadBytes vaultRefusals 3 vaultSchema readFields encode

def layout : Layout := [.counted vaultMaxPageItems VaultItemSummary.items, .item (.text fun _ => True)]

theorem readFields_reading : Reading readFields layout := by
  refine .counted (by decide) VaultItemSummary.read_reading fun items => ?_
  exact .text fun nextCursor => .pure _

theorem declares : Declares decode maxVaultPayloadBytes (payloadLayout 3 vaultSchema layout) :=
  decodePayload_declares readFields_reading

end VaultListResponse

/-- `vault.fetch`: the desktop asks for the secret of one item. -/
structure VaultFetchRequest where
  verifierName : String
  itemId : String

namespace VaultFetchRequest

def validate (request : VaultFetchRequest) : Except Refusal Unit := do
  checkName "verifierName" request.verifierName
  checkId "itemId" request.itemId

def encode (request : VaultFetchRequest) : Except Refusal Bytes := do
  request.validate
  sized [CborWriter.array 3, ← CborWriter.uint vaultSchema, CborWriter.text request.verifierName,
    CborWriter.text request.itemId].flatten

def readFields : Fallible CborReader Thrown VaultFetchRequest := do
  let verifierName ← CborReader.text
  let itemId ← CborReader.text
  return { verifierName, itemId }

def decode : Uint8List → Except Thrown VaultFetchRequest :=
  decodePayload maxVaultPayloadBytes vaultRefusals 3 vaultSchema readFields encode

def layout : Layout :=
  [.item (.text fun _ => True), .item (.text fun _ => True)]

theorem readFields_reading : Reading readFields layout := by
  exact .text fun verifierName => .text fun itemId => .pure _

theorem declares : Declares decode maxVaultPayloadBytes (payloadLayout 3 vaultSchema layout) :=
  decodePayload_declares readFields_reading

end VaultFetchRequest

/-- The phone's answer to `vault.fetch`: the one secret approved. -/
structure VaultFetchResponse where
  itemId : String
  revision : Int64
  secret : String

namespace VaultFetchResponse

def validate (response : VaultFetchResponse) : Except Refusal Unit := do
  checkId "itemId" response.itemId
  checkRevision response.revision
  checkSecret response.secret

def encode (response : VaultFetchResponse) : Except Refusal Bytes := do
  response.validate
  sized [CborWriter.array 4, ← CborWriter.uint vaultSchema, CborWriter.text response.itemId,
    ← CborWriter.uint response.revision, CborWriter.text response.secret].flatten

def readFields : Fallible CborReader Thrown VaultFetchResponse := do
  let itemId ← CborReader.text
  let revision ← CborReader.uint
  let secret ← CborReader.text
  return { itemId, revision, secret }

def decode : Uint8List → Except Thrown VaultFetchResponse :=
  decodePayload maxVaultPayloadBytes vaultRefusals 4 vaultSchema readFields encode

def layout : Layout :=
  [.item (.text fun _ => True), .item (.number majorUint fun _ => True), .item (.text fun _ => True)]

theorem readFields_reading : Reading readFields layout := by
  exact .text fun itemId => .uint fun revision => .text fun secret => .pure _

theorem declares : Declares decode maxVaultPayloadBytes (payloadLayout 4 vaultSchema layout) :=
  decodePayload_declares readFields_reading

end VaultFetchResponse

/-- `vault.create`: the desktop asks the phone to store a new item. -/
structure VaultCreateRequest where
  verifierName : String
  kind : VaultItemKind
  name : String
  username : String
  uri : String
  secret : String

namespace VaultCreateRequest

def validate (request : VaultCreateRequest) : Except Refusal Unit := do
  checkName "verifierName" request.verifierName
  checkName "name" request.name
  checkOptional "username" request.username 255
  checkOptional "uri" request.uri 1024
  checkSecret request.secret

def encode (request : VaultCreateRequest) : Except Refusal Bytes := do
  request.validate
  sized [CborWriter.array 7, ← CborWriter.uint vaultSchema, CborWriter.text request.verifierName,
    ← CborWriter.uint request.kind.wire, CborWriter.text request.name, CborWriter.text request.username,
    CborWriter.text request.uri, CborWriter.text request.secret].flatten

def readFields : Fallible CborReader Thrown VaultCreateRequest := do
  let verifierName ← CborReader.text
  let kind ← refusing (VaultItemKind.fromWire (← CborReader.uint))
  let name ← CborReader.text
  let username ← CborReader.text
  let uri ← CborReader.text
  let secret ← CborReader.text
  return { verifierName, kind, name, username, uri, secret }

def decode : Uint8List → Except Thrown VaultCreateRequest :=
  decodePayload maxVaultPayloadBytes vaultRefusals 7 vaultSchema readFields encode

def layout : Layout :=
  [.item (.text fun _ => True), .item (.number majorUint fun wire => ∃ kind, VaultItemKind.fromWire wire = .ok kind),
    .item (.text fun _ => True), .item (.text fun _ => True), .item (.text fun _ => True),
    .item (.text fun _ => True)]

theorem readFields_reading : Reading readFields layout := by
  refine .text fun verifierName => .converted (by decide) fun kind => .text fun name => ?_
  exact .text fun username => .text fun uri => .text fun secret => .pure _

theorem declares : Declares decode maxVaultPayloadBytes (payloadLayout 7 vaultSchema layout) :=
  decodePayload_declares readFields_reading

end VaultCreateRequest

/-- `vault.update`: replaces an item, naming the revision it replaces. -/
structure VaultUpdateRequest where
  verifierName : String
  itemId : String
  expectedRevision : Int64
  kind : VaultItemKind
  name : String
  username : String
  uri : String
  secret : String

namespace VaultUpdateRequest

def validate (request : VaultUpdateRequest) : Except Refusal Unit := do
  checkName "verifierName" request.verifierName
  checkId "itemId" request.itemId
  checkRevision request.expectedRevision
  checkName "name" request.name
  checkOptional "username" request.username 255
  checkOptional "uri" request.uri 1024
  checkSecret request.secret

def encode (request : VaultUpdateRequest) : Except Refusal Bytes := do
  request.validate
  sized [CborWriter.array 9, ← CborWriter.uint vaultSchema, CborWriter.text request.verifierName,
    CborWriter.text request.itemId, ← CborWriter.uint request.expectedRevision, ← CborWriter.uint request.kind.wire,
    CborWriter.text request.name, CborWriter.text request.username, CborWriter.text request.uri,
    CborWriter.text request.secret].flatten

def readFields : Fallible CborReader Thrown VaultUpdateRequest := do
  let verifierName ← CborReader.text
  let itemId ← CborReader.text
  let expectedRevision ← CborReader.uint
  let kind ← refusing (VaultItemKind.fromWire (← CborReader.uint))
  let name ← CborReader.text
  let username ← CborReader.text
  let uri ← CborReader.text
  let secret ← CborReader.text
  return { verifierName, itemId, expectedRevision, kind, name, username, uri, secret }

def decode : Uint8List → Except Thrown VaultUpdateRequest :=
  decodePayload maxVaultPayloadBytes vaultRefusals 9 vaultSchema readFields encode

def layout : Layout :=
  [.item (.text fun _ => True), .item (.text fun _ => True), .item (.number majorUint fun _ => True),
    .item (.number majorUint fun wire => ∃ kind, VaultItemKind.fromWire wire = .ok kind), .item (.text fun _ => True),
    .item (.text fun _ => True), .item (.text fun _ => True), .item (.text fun _ => True)]

theorem readFields_reading : Reading readFields layout := by
  refine .text fun verifierName => .text fun itemId => .uint fun expectedRevision => ?_
  refine .converted (by decide) fun kind => .text fun name => .text fun username => .text fun uri => ?_
  exact .text fun secret => .pure _

theorem declares : Declares decode maxVaultPayloadBytes (payloadLayout 9 vaultSchema layout) :=
  decodePayload_declares readFields_reading

end VaultUpdateRequest

/-- The phone's answer to `vault.create` and `vault.update`. -/
structure VaultWriteResponse where
  itemId : String
  revision : Int64
  deriving DecidableEq

namespace VaultWriteResponse

def validate (response : VaultWriteResponse) : Except Refusal Unit := do
  checkId "itemId" response.itemId
  checkRevision response.revision

def encode (response : VaultWriteResponse) : Except Refusal Bytes := do
  response.validate
  sized [CborWriter.array 3, ← CborWriter.uint vaultSchema, CborWriter.text response.itemId,
    ← CborWriter.uint response.revision].flatten

def readFields : Fallible CborReader Thrown VaultWriteResponse := do
  let itemId ← CborReader.text
  let revision ← CborReader.uint
  return { itemId, revision }

def decode : Uint8List → Except Thrown VaultWriteResponse :=
  decodePayload maxVaultPayloadBytes vaultRefusals 3 vaultSchema readFields encode

def layout : Layout :=
  [.item (.text fun _ => True), .item (.number majorUint fun _ => True)]

theorem readFields_reading : Reading readFields layout := by
  exact .text fun itemId => .uint fun revision => .pure _

theorem declares : Declares decode maxVaultPayloadBytes (payloadLayout 3 vaultSchema layout) :=
  decodePayload_declares readFields_reading

end VaultWriteResponse

/-- `vault.delete`: removes an item, naming the revision it removes. -/
structure VaultDeleteRequest where
  verifierName : String
  itemId : String
  expectedRevision : Int64

namespace VaultDeleteRequest

def validate (request : VaultDeleteRequest) : Except Refusal Unit := do
  checkName "verifierName" request.verifierName
  checkId "itemId" request.itemId
  checkRevision request.expectedRevision

def encode (request : VaultDeleteRequest) : Except Refusal Bytes := do
  request.validate
  sized [CborWriter.array 4, ← CborWriter.uint vaultSchema, CborWriter.text request.verifierName,
    CborWriter.text request.itemId, ← CborWriter.uint request.expectedRevision].flatten

def readFields : Fallible CborReader Thrown VaultDeleteRequest := do
  let verifierName ← CborReader.text
  let itemId ← CborReader.text
  let expectedRevision ← CborReader.uint
  return { verifierName, itemId, expectedRevision }

def decode : Uint8List → Except Thrown VaultDeleteRequest :=
  decodePayload maxVaultPayloadBytes vaultRefusals 4 vaultSchema readFields encode

def layout : Layout :=
  [.item (.text fun _ => True), .item (.text fun _ => True), .item (.number majorUint fun _ => True)]

theorem readFields_reading : Reading readFields layout := by
  exact .text fun verifierName => .text fun itemId => .uint fun expectedRevision => .pure _

theorem declares : Declares decode maxVaultPayloadBytes (payloadLayout 4 vaultSchema layout) :=
  decodePayload_declares readFields_reading

end VaultDeleteRequest

/-- The phone's answer to `vault.delete`. -/
structure VaultDeleteResponse where
  itemId : String

namespace VaultDeleteResponse

def validate (response : VaultDeleteResponse) : Except Refusal Unit := do
  checkId "itemId" response.itemId

def encode (response : VaultDeleteResponse) : Except Refusal Bytes := do
  response.validate
  sized [CborWriter.array 2, ← CborWriter.uint vaultSchema, CborWriter.text response.itemId].flatten

def readFields : Fallible CborReader Thrown VaultDeleteResponse := do
  let itemId ← CborReader.text
  return { itemId }

def decode : Uint8List → Except Thrown VaultDeleteResponse :=
  decodePayload maxVaultPayloadBytes vaultRefusals 2 vaultSchema readFields encode

def layout : Layout :=
  [.item (.text fun _ => True)]

theorem readFields_reading : Reading readFields layout := by
  exact .text fun itemId => .pure _

theorem declares : Declares decode maxVaultPayloadBytes (payloadLayout 2 vaultSchema layout) :=
  decodePayload_declares readFields_reading

end VaultDeleteResponse

end BioAuth.Mobile
