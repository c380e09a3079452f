import BioAuth.Protocol.Codec

namespace BioAuth.Protocol.Vault
open BioAuth

def vaultSchema : UInt64 := 1

/-- The most summaries one page may carry. -/
def maxPageItems : Nat := 32

def maxIdUnits : Nat := 64
def maxNameUnits : Nat := 255
def maxUsernameUnits : Nat := 255
def maxUriUnits : Nat := 1024
def maxCursorUnits : Nat := 128
def maxSecretUnits : Nat := 4096

def summaryFields : UInt64 := 7
def listRequestFields : UInt64 := 3
def listResponseFields : UInt64 := 3
def fetchRequestFields : UInt64 := 3
def fetchResponseFields : UInt64 := 4
def createRequestFields : UInt64 := 7
def updateRequestFields : UInt64 := 9
def deleteRequestFields : UInt64 := 4
def writeResponseFields : UInt64 := 3
def deleteResponseFields : UInt64 := 2

/-- Bounded, but allowed to be empty. -/
def checkOptionalText (field value : String) (max : Nat) : Except ProtocolError Unit :=
  require (utf16Len value ≤ max) (ProtocolError.fieldTooLong field max (utf16Len value))

def checkSecret (value : String) : Except ProtocolError Unit := do
  require (value ≠ "") (ProtocolError.fieldEmpty "secret")
  require (utf16Len value ≤ maxSecretUnits) (ProtocolError.fieldTooLong "secret" maxSecretUnits (utf16Len value))

/-- Revisions start at one. -/
def checkRevision (revision : UInt64) : Except ProtocolError Unit :=
  require (revision ≠ 0) ProtocolError.invalidRevision

/-- What an item is. -/
inductive ItemKind
  | login
  | note
  | totp
  deriving DecidableEq

namespace ItemKind

def wire : ItemKind → UInt64
  | login => 0
  | note => 1
  | totp => 2

def fromWire (value : UInt64) : Except ProtocolError ItemKind :=
  if value = 0 then .ok login
  else if value = 1 then .ok note
  else if value = 2 then .ok totp
  else .error (.invalidItemKind value)

theorem fromWire_wire (kind : ItemKind) : fromWire kind.wire = .ok kind := by
  cases kind <;> rfl

end ItemKind

/-- One row of a list. It carries no secret. -/
structure ItemSummary where
  id : String
  revision : UInt64
  kind : ItemKind
  name : String
  username : String
  uri : String
  updatedAtMs : Int64
  deriving DecidableEq

namespace ItemSummary

def validate (item : ItemSummary) : Except ProtocolError Unit := do
  checkText "itemId" item.id maxIdUnits
  checkText "name" item.name maxNameUnits
  checkOptionalText "username" item.username maxUsernameUnits
  checkOptionalText "uri" item.uri maxUriUnits
  checkRevision item.revision

def write (item : ItemSummary) : Bytes :=
  [Writer.array summaryFields, Writer.text item.id, Writer.uint item.revision, Writer.uint item.kind.wire,
    Writer.text item.name, Writer.text item.username, Writer.text item.uri, Writer.int item.updatedAtMs].flatten

def read : Parse ProtocolError ItemSummary := do
  let len ← cbor Reader.array
  require (len = summaryFields) (ProtocolError.frameShape summaryFields len)
  let id ← cbor Reader.text
  let revision ← cbor Reader.uint
  let kind ← ItemKind.fromWire (← cbor Reader.uint)
  let name ← cbor Reader.text
  let username ← cbor Reader.text
  let uri ← cbor Reader.text
  let updatedAtMs ← cbor Reader.int
  return { id, revision, kind, name, username, uri, updatedAtMs }

theorem write_reads (item : ItemSummary) : Parse.Reads wireLimit read item.write item :=
  (array_reads _).bind <| .require rfl <| (text_reads _).bind <| (uint_reads _).bind <| (uint_reads _).bind <|
    .lift item.kind.fromWire_wire <| (text_reads _).bind <| (text_reads _).bind <| (text_reads _).bind <|
      (int_reads _).bind <| .pure item

end ItemSummary

/-- `vault.list`: the desktop asks for a page of metadata. -/
structure ListRequest where
  verifierName : String
  /-- Empty starts at the first page. -/
  cursor : String
  deriving DecidableEq

namespace ListRequest

def validate (request : ListRequest) : Except ProtocolError Unit := do
  checkText "verifierName" request.verifierName maxNameUnits
  checkOptionalText "cursor" request.cursor maxCursorUnits

def body (request : ListRequest) : Bytes := [Writer.text request.verifierName, Writer.text request.cursor].flatten

def encode (request : ListRequest) : Bytes :=
  Writer.array listRequestFields ++ (Writer.uint vaultSchema ++ request.body)

def read : Parse ProtocolError ListRequest := do
  let verifierName ← cbor Reader.text
  let cursor ← cbor Reader.text
  return { verifierName, cursor }

def decode : Bytes → Except ProtocolError ListRequest :=
  decodePayload listRequestFields vaultSchema read encode validate

theorem body_reads (request : ListRequest) : Parse.Reads wireLimit read request.body request :=
  (text_reads _).bind <| (text_reads _).bind <| .pure request

theorem exact : Exact encode validate decode maxApplicationPayloadBytes :=
  decodePayload_exact (fun request _ => request.body_reads) fun _ => rfl

end ListRequest

/-- The phone's answer to `vault.list`. -/
structure ListResponse where
  items : List ItemSummary
  /-- Empty on the last page. -/
  nextCursor : String

namespace ListResponse

def body (response : ListResponse) : Bytes :=
  [Writer.array (UInt64.ofNat response.items.length), response.items.flatMap ItemSummary.write,
    Writer.text response.nextCursor].flatten

def encode (response : ListResponse) : Bytes :=
  Writer.array listResponseFields ++ (Writer.uint vaultSchema ++ response.body)

def validate (response : ListResponse) : Except ProtocolError Unit := do
  require (response.items.length ≤ maxPageItems) (ProtocolError.payloadSize response.items.length)
  response.items.forM ItemSummary.validate
  checkOptionalText "nextCursor" response.nextCursor maxCursorUnits
  require (response.encode.length ≤ maxApplicationPayloadBytes) (ProtocolError.payloadSize response.encode.length)

def read : Parse ProtocolError ListResponse := do
  let count ← cbor Reader.array
  require (count.toNat ≤ maxPageItems) (ProtocolError.payloadSize count.toNat)
  let items ← Fallible.times ItemSummary.read count.toNat
  let nextCursor ← cbor Reader.text
  return { items, nextCursor }

def decode : Bytes → Except ProtocolError ListResponse :=
  decodePayload listResponseFields vaultSchema read encode validate

theorem page_le {response : ListResponse} (valid : response.validate = .ok ()) : response.items.length ≤ maxPageItems := by
  unfold validate at valid
  obtain ⟨_, page, _⟩ := except_bind_eq_ok.mp valid
  exact except_require_eq_ok.mp page

theorem body_reads (response : ListResponse) (page : response.items.length ≤ maxPageItems) :
    Parse.Reads wireLimit read response.body response := by
  have count : (UInt64.ofNat response.items.length).toNat = response.items.length := by
    rw [UInt64.toNat_ofNat']
    unfold maxPageItems at page
    omega
  refine (array_reads _).bind ?_
  rw [count]
  exact .require page <| (Parse.Reads.times _ fun item _ => item.write_reads).bind <| (text_reads _).bind <|
    .pure response

theorem exact : Exact encode validate decode maxApplicationPayloadBytes :=
  decodePayload_exact (fun response valid => response.body_reads (page_le valid)) fun _ => rfl

end ListResponse

/-- `vault.fetch`: the desktop asks for one item's secret. -/
structure FetchRequest where
  verifierName : String
  itemId : String
  deriving DecidableEq

namespace FetchRequest

def validate (request : FetchRequest) : Except ProtocolError Unit := do
  checkText "verifierName" request.verifierName maxNameUnits
  checkText "itemId" request.itemId maxIdUnits

def body (request : FetchRequest) : Bytes := [Writer.text request.verifierName, Writer.text request.itemId].flatten

def encode (request : FetchRequest) : Bytes :=
  Writer.array fetchRequestFields ++ (Writer.uint vaultSchema ++ request.body)

def read : Parse ProtocolError FetchRequest := do
  let verifierName ← cbor Reader.text
  let itemId ← cbor Reader.text
  return { verifierName, itemId }

def decode : Bytes → Except ProtocolError FetchRequest :=
  decodePayload fetchRequestFields vaultSchema read encode validate

theorem body_reads (request : FetchRequest) : Parse.Reads wireLimit read request.body request :=
  (text_reads _).bind <| (text_reads _).bind <| .pure request

theorem exact : Exact encode validate decode maxApplicationPayloadBytes :=
  decodePayload_exact (fun request _ => request.body_reads) fun _ => rfl

end FetchRequest

/-- The one secret that was approved. -/
structure FetchResponse where
  itemId : String
  revision : UInt64
  secret : String
  deriving DecidableEq

namespace FetchResponse

def validate (response : FetchResponse) : Except ProtocolError Unit := do
  checkText "itemId" response.itemId maxIdUnits
  checkRevision response.revision
  checkSecret response.secret

def body (response : FetchResponse) : Bytes :=
  [Writer.text response.itemId, Writer.uint response.revision, Writer.text response.secret].flatten

def encode (response : FetchResponse) : Bytes :=
  Writer.array fetchResponseFields ++ (Writer.uint vaultSchema ++ response.body)

def read : Parse ProtocolError FetchResponse := do
  let itemId ← cbor Reader.text
  let revision ← cbor Reader.uint
  let secret ← cbor Reader.text
  return { itemId, revision, secret }

def decode : Bytes → Except ProtocolError FetchResponse :=
  decodePayload fetchResponseFields vaultSchema read encode validate

theorem body_reads (response : FetchResponse) : Parse.Reads wireLimit read response.body response :=
  (text_reads _).bind <| (uint_reads _).bind <| (text_reads _).bind <| .pure response

theorem exact : Exact encode validate decode maxApplicationPayloadBytes :=
  decodePayload_exact (fun response _ => response.body_reads) fun _ => rfl

end FetchResponse

/-- `vault.create`: the desktop asks the phone to store an item. -/
structure CreateRequest where
  verifierName : String
  kind : ItemKind
  name : String
  username : String
  uri : String
  secret : String
  deriving DecidableEq

namespace CreateRequest

def validate (request : CreateRequest) : Except ProtocolError Unit := do
  checkText "verifierName" request.verifierName maxNameUnits
  checkText "name" request.name maxNameUnits
  checkOptionalText "username" request.username maxUsernameUnits
  checkOptionalText "uri" request.uri maxUriUnits
  checkSecret request.secret

def body (request : CreateRequest) : Bytes :=
  [Writer.text request.verifierName, Writer.uint request.kind.wire, Writer.text request.name,
    Writer.text request.username, Writer.text request.uri, Writer.text request.secret].flatten

def encode (request : CreateRequest) : Bytes :=
  Writer.array createRequestFields ++ (Writer.uint vaultSchema ++ request.body)

def read : Parse ProtocolError CreateRequest := do
  let verifierName ← cbor Reader.text
  let kind ← ItemKind.fromWire (← cbor Reader.uint)
  let name ← cbor Reader.text
  let username ← cbor Reader.text
  let uri ← cbor Reader.text
  let secret ← cbor Reader.text
  return { verifierName, kind, name, username, uri, secret }

def decode : Bytes → Except ProtocolError CreateRequest :=
  decodePayload createRequestFields vaultSchema read encode validate

theorem body_reads (request : CreateRequest) : Parse.Reads wireLimit read request.body request :=
  (text_reads _).bind <| (uint_reads _).bind <| .lift request.kind.fromWire_wire <| (text_reads _).bind <|
    (text_reads _).bind <| (text_reads _).bind <| (text_reads _).bind <| .pure request

theorem exact : Exact encode validate decode maxApplicationPayloadBytes :=
  decodePayload_exact (fun request _ => request.body_reads) fun _ => rfl

end CreateRequest

/-- `vault.update`: replace an item, naming the revision that is replaced. -/
structure UpdateRequest where
  verifierName : String
  itemId : String
  expectedRevision : UInt64
  kind : ItemKind
  name : String
  username : String
  uri : String
  secret : String

namespace UpdateRequest

def validate (request : UpdateRequest) : Except ProtocolError Unit := do
  checkText "verifierName" request.verifierName maxNameUnits
  checkText "itemId" request.itemId maxIdUnits
  checkRevision request.expectedRevision
  checkText "name" request.name maxNameUnits
  checkOptionalText "username" request.username maxUsernameUnits
  checkOptionalText "uri" request.uri maxUriUnits
  checkSecret request.secret

def body (request : UpdateRequest) : Bytes :=
  [Writer.text request.verifierName, Writer.text request.itemId, Writer.uint request.expectedRevision,
    Writer.uint request.kind.wire, Writer.text request.name, Writer.text request.username, Writer.text request.uri,
    Writer.text request.secret].flatten

def encode (request : UpdateRequest) : Bytes :=
  Writer.array updateRequestFields ++ (Writer.uint vaultSchema ++ request.body)

def read : Parse ProtocolError UpdateRequest := do
  let verifierName ← cbor Reader.text
  let itemId ← cbor Reader.text
  let expectedRevision ← cbor Reader.uint
  let kind ← ItemKind.fromWire (← cbor Reader.uint)
  let name ← cbor Reader.text
  let username ← cbor Reader.text
  let uri ← cbor Reader.text
  let secret ← cbor Reader.text
  return { verifierName, itemId, expectedRevision, kind, name, username, uri, secret }

def decode : Bytes → Except ProtocolError UpdateRequest :=
  decodePayload updateRequestFields vaultSchema read encode validate

theorem body_reads (request : UpdateRequest) : Parse.Reads wireLimit read request.body request :=
  (text_reads _).bind <| (text_reads _).bind <| (uint_reads _).bind <| (uint_reads _).bind <|
    .lift request.kind.fromWire_wire <| (text_reads _).bind <| (text_reads _).bind <| (text_reads _).bind <|
      (text_reads _).bind <| .pure request

theorem exact : Exact encode validate decode maxApplicationPayloadBytes :=
  decodePayload_exact (fun request _ => request.body_reads) fun _ => rfl

end UpdateRequest

/-- The answer to a create or an update. -/
structure WriteResponse where
  itemId : String
  revision : UInt64
  deriving DecidableEq

namespace WriteResponse

def validate (response : WriteResponse) : Except ProtocolError Unit := do
  checkText "itemId" response.itemId maxIdUnits
  checkRevision response.revision

def body (response : WriteResponse) : Bytes := [Writer.text response.itemId, Writer.uint response.revision].flatten

def encode (response : WriteResponse) : Bytes :=
  Writer.array writeResponseFields ++ (Writer.uint vaultSchema ++ response.body)

def read : Parse ProtocolError WriteResponse := do
  let itemId ← cbor Reader.text
  let revision ← cbor Reader.uint
  return { itemId, revision }

def decode : Bytes → Except ProtocolError WriteResponse :=
  decodePayload writeResponseFields vaultSchema read encode validate

theorem body_reads (response : WriteResponse) : Parse.Reads wireLimit read response.body response :=
  (text_reads _).bind <| (uint_reads _).bind <| .pure response

theorem exact : Exact encode validate decode maxApplicationPayloadBytes :=
  decodePayload_exact (fun response _ => response.body_reads) fun _ => rfl

end WriteResponse

/-- `vault.delete`: remove an item, naming the revision that is removed. -/
structure DeleteRequest where
  verifierName : String
  itemId : String
  expectedRevision : UInt64

namespace DeleteRequest

def validate (request : DeleteRequest) : Except ProtocolError Unit := do
  checkText "verifierName" request.verifierName maxNameUnits
  checkText "itemId" request.itemId maxIdUnits
  checkRevision request.expectedRevision

def body (request : DeleteRequest) : Bytes :=
  [Writer.text request.verifierName, Writer.text request.itemId, Writer.uint request.expectedRevision].flatten

def encode (request : DeleteRequest) : Bytes :=
  Writer.array deleteRequestFields ++ (Writer.uint vaultSchema ++ request.body)

def read : Parse ProtocolError DeleteRequest := do
  let verifierName ← cbor Reader.text
  let itemId ← cbor Reader.text
  let expectedRevision ← cbor Reader.uint
  return { verifierName, itemId, expectedRevision }

def decode : Bytes → Except ProtocolError DeleteRequest :=
  decodePayload deleteRequestFields vaultSchema read encode validate

theorem body_reads (request : DeleteRequest) : Parse.Reads wireLimit read request.body request :=
  (text_reads _).bind <| (text_reads _).bind <| (uint_reads _).bind <| .pure request

theorem exact : Exact encode validate decode maxApplicationPayloadBytes :=
  decodePayload_exact (fun request _ => request.body_reads) fun _ => rfl

end DeleteRequest

/-- The answer to a delete. -/
structure DeleteResponse where
  itemId : String

namespace DeleteResponse

def validate (response : DeleteResponse) : Except ProtocolError Unit := checkText "itemId" response.itemId maxIdUnits

def body (response : DeleteResponse) : Bytes := [Writer.text response.itemId].flatten

def encode (response : DeleteResponse) : Bytes :=
  Writer.array deleteResponseFields ++ (Writer.uint vaultSchema ++ response.body)

def read : Parse ProtocolError DeleteResponse := do
  let itemId ← cbor Reader.text
  return { itemId }

def decode : Bytes → Except ProtocolError DeleteResponse :=
  decodePayload deleteResponseFields vaultSchema read encode validate

theorem body_reads (response : DeleteResponse) : Parse.Reads wireLimit read response.body response :=
  (text_reads _).bind <| .pure response

theorem exact : Exact encode validate decode maxApplicationPayloadBytes :=
  decodePayload_exact (fun response _ => response.body_reads) fun _ => rfl

end DeleteResponse

end BioAuth.Protocol.Vault
