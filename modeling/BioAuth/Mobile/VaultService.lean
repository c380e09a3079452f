import BioAuth.Mobile.Approvals
import BioAuth.Mobile.Idempotency
import BioAuth.Mobile.PairingBootstrap
import BioAuth.Mobile.Vault
import BioAuth.Mobile.VaultBackup
import BioAuth.Mobile.VaultListing

namespace BioAuth.Mobile
open BioAuth
open VaultStore (VaultItemInput)

structure VaultStore.VaultSecret where
  id : String
  revision : Int64
  secret : String

structure VaultStore.VaultWrite where
  id : String
  revision : Int64

/-- What a call of the phone's throws. -/
inductive Failed
  | thrown (thrown : Thrown)
  | platformException
  | other

namespace Failed

def ofRefusal (refusal : Refusal) : Failed := .thrown (.refusal refusal)

def ofRejection : ApplicationIdempotency.Rejection → Failed
  | .formatException message => .thrown (formatException message)
  | .stateError _ => .other

end Failed

/-- A call that the service makes of the store for a desktop. -/
inductive StoreCall
  | fetch (id : String)
  | create (item : VaultItemInput)
  | update (current : VaultStore.VaultItemSummary) (item : VaultItemInput)
  | delete (item : VaultStore.VaultItemSummary)

def StoreCall.Answer : StoreCall → Type
  | .fetch _ => VaultStore.VaultSecret
  | .create _ | .update _ _ => VaultStore.VaultWrite
  | .delete _ => Unit

/-- Everything outside the service. Each call is an `await`, during which anything may happen. -/
class VaultPhone (φ : Type) where
  moment : Fallible φ Failed DateTime
  /-- `VaultListing.items`. -/
  items (restart : Bool) : Fallible φ Failed (List VaultStore.VaultItemSummary)
  confirm (request : VaultApprovalRequest) : Fallible φ Failed Bool
  store (call : StoreCall) : Fallible φ Failed call.Answer
  /-- `forget` of the listing and `recordWrite`. -/
  written : φ → φ
  digest (payload : Bytes) : Fallible φ Failed Bytes
  capacity : Nat
  entries : φ → ApplicationIdempotency.Entries
  setEntries : ApplicationIdempotency.Entries → φ → φ
  /-- The number of the next execution. -/
  executions : φ → Nat
  /-- The outcome of an execution that another call has begun. -/
  outcome (execution : Nat) : Fallible φ Failed ApplicationOutcome

section Idempotency
variable {φ : Type} [VaultPhone φ]

/-- An action whose end is entered under the key that it was begun under. -/
def ApplicationIdempotency.concluding (key : Key) (own : Nat) (operation : Fallible φ Failed ApplicationOutcome) :
    Fallible φ Failed ApplicationOutcome := fun phone =>
  let ran := operation phone
  (ran.1, VaultPhone.setEntries (conclude (VaultPhone.entries ran.2) key own ran.1) ran.2)

/-- `ApplicationIdempotency.run`. -/
def ApplicationIdempotency.run (scope : String) (request : ApplicationFrame)
    (operation : Fallible φ Failed ApplicationOutcome) : Fallible φ Failed ApplicationOutcome := do
  let digest ← VaultPhone.digest request.payload
  let key := (scope, request.requestId)
  let phone ← get
  match admission (VaultPhone.capacity φ) (VaultPhone.entries phone) key request.operation digest with
  | .rejected error => throw (Failed.ofRejection error)
  | .joins execution => VaultPhone.outcome execution
  | .runs entries =>
    let own := VaultPhone.executions phone
    modify (VaultPhone.setEntries (entries.assign key ⟨request.operation, digest, own, false⟩))
    concluding key own operation

end Idempotency

def vaultListOperation : String := "vault.list"
def vaultFetchOperation : String := "vault.fetch"
def vaultCreateOperation : String := "vault.create"
def vaultUpdateOperation : String := "vault.update"
def vaultDeleteOperation : String := "vault.delete"

/-- A payload, decoded. -/
inductive VaultRequest
  | list (request : VaultListRequest)
  | fetch (request : VaultFetchRequest)
  | create (request : VaultCreateRequest)
  | update (request : VaultUpdateRequest)
  | delete (request : VaultDeleteRequest)

namespace VaultRequest

def decode (operation : String) (payload : Uint8List) : Except Thrown VaultRequest :=
  if operation = vaultListOperation then (VaultListRequest.decode payload).map list
  else if operation = vaultFetchOperation then (VaultFetchRequest.decode payload).map fetch
  else if operation = vaultCreateOperation then (VaultCreateRequest.decode payload).map create
  else if operation = vaultUpdateOperation then (VaultUpdateRequest.decode payload).map update
  else if operation = vaultDeleteOperation then (VaultDeleteRequest.decode payload).map delete
  else .error (formatException "unknown vault operation")

def mutates : VaultRequest → Bool
  | list _ | fetch _ => false
  | create _ | update _ | delete _ => true

end VaultRequest

namespace VaultService

/-- `_pageSize`. -/
def pageSize : Nat := 32

/-- `_frame`. -/
def frame (request : ApplicationFrame) (kind : ApplicationFrameKind) (payload : Bytes) : Except Refusal Bytes :=
  { request with kind, payload }.encode

section Service
variable {φ : Type} [VaultPhone φ]

/-- A call of code that throws nothing but refusals. -/
def refusable {α : Type} (result : Except Refusal α) : Fallible φ Failed α := liftM (result.mapError Failed.ofRefusal)

/-- `_error`. -/
def error (request : ApplicationFrame) (code : ApplicationErrorCode) : Fallible φ Failed Bytes := do
  let payload ← refusable code.encode
  refusable (frame request .error payload)

/-- An outcome that says no. -/
def refusal (code : ApplicationErrorCode) (cacheable : Bool) : Fallible φ Failed ApplicationOutcome := do
  return ⟨.error, ← refusable code.encode, cacheable⟩

/-- What is on the sheet for an item that is in the vault already, by what the vault says of it. -/
def itemSheet (id verifierName itemId : String) (operation : VaultOperation) (all : List VaultStore.VaultItemSummary) :
    VaultApprovalRequest :=
  let item := all.find? fun candidate => candidate.id = itemId
  { id, verifierName, operation
    itemName := (item.map (·.name)).getD "Item desconhecido"
    username := (item.map (·.username)).getD ""
    uri := (item.map (·.uri)).getD "" }

/-- `_describe`. -/
def describe (id : String) : VaultRequest → Fallible φ Failed VaultApprovalRequest
  | .create request =>
    return { id, verifierName := request.verifierName, operation := .create, itemName := request.name
             username := request.username, uri := request.uri }
  | .fetch request => do return itemSheet id request.verifierName request.itemId .read (← VaultPhone.items false)
  | .update request => do return itemSheet id request.verifierName request.itemId .update (← VaultPhone.items false)
  | .delete request => do return itemSheet id request.verifierName request.itemId .delete (← VaultPhone.items false)
  | .list _ => throw (Failed.thrown .argumentError)

def summary (item : VaultStore.VaultItemSummary) : VaultItemSummary where
  id := item.id
  revision := item.revision
  kind := item.kind
  name := item.name
  username := item.username
  uri := item.uri
  updatedAtMs := item.updatedAt.millisecondsSinceEpoch

/-- One page of what the vault holds, from where the cursor says. -/
def page (request : VaultListRequest) (all : List VaultStore.VaultItemSummary) : Except Thrown VaultListResponse := do
  let offset : Int := if request.cursor = "" then 0 else ((tryParse request.cursor).map Int64.toInt).getD (-1)
  require (0 ≤ offset ∧ offset ≤ all.length) (formatException "invalid listing cursor")
  let page := (all.drop offset.toNat).take pageSize
  let next := offset.toNat + page.length
  return { items := page.map summary, nextCursor := if next < all.length then toString next else "" }

/-- `_list`. -/
def list (request : VaultListRequest) : Fallible φ Failed Bytes := do
  let all ← VaultPhone.items (request.cursor = "")
  let response ← (liftM ((page request all).mapError Failed.thrown) : Fallible φ Failed VaultListResponse)
  refusable response.encode

/-- A summary that is there for its id and its revision. -/
def current (id : String) (revision : Int64) (kind : VaultItemKind) (name username uri : String) : VaultStore.VaultItemSummary :=
  { id, revision, kind, name, username, uri, updatedAt := DateTime.sinceEpoch 0 }

/-- `_fetch`. -/
def fetch (request : VaultFetchRequest) : Fallible φ Failed Bytes := do
  let item : VaultStore.VaultSecret ← VaultPhone.store (.fetch request.itemId)
  refusable ({ itemId := item.id, revision := item.revision, secret := item.secret } : VaultFetchResponse).encode

/-- `_create`. -/
def create (request : VaultCreateRequest) : Fallible φ Failed Bytes := do
  let written : VaultStore.VaultWrite ←
    VaultPhone.store (.create ⟨request.kind, request.name, request.username, request.uri, request.secret⟩)
  modify VaultPhone.written
  refusable ({ itemId := written.id, revision := written.revision } : VaultWriteResponse).encode

/-- `_update`. -/
def update (request : VaultUpdateRequest) : Fallible φ Failed Bytes := do
  let written : VaultStore.VaultWrite ←
    VaultPhone.store (.update
      (current request.itemId request.expectedRevision request.kind request.name request.username request.uri)
      ⟨request.kind, request.name, request.username, request.uri, request.secret⟩)
  modify VaultPhone.written
  refusable ({ itemId := written.id, revision := written.revision } : VaultWriteResponse).encode

/-- `_delete`. -/
def delete (request : VaultDeleteRequest) : Fallible φ Failed Bytes := do
  let _ : Unit ← VaultPhone.store (.delete (current request.itemId request.expectedRevision .login request.itemId "" ""))
  modify VaultPhone.written
  refusable ({ itemId := request.itemId } : VaultDeleteResponse).encode

/-- `_run`. -/
def run : VaultRequest → Fallible φ Failed Bytes
  | .fetch request => fetch request
  | .create request => create request
  | .update request => update request
  | .delete request => delete request
  | .list _ => throw (Failed.thrown .argumentError)

/-- An operation that needs the approval of a person. The request is looked at once more when the sheet has gone. -/
def approved (request : ApplicationFrame) (decoded : VaultRequest) : Fallible φ Failed ApplicationOutcome := do
  let sheet ← describe request.requestId decoded
  let approved ← VaultPhone.confirm sheet
  if approved = false then refusal .rejected true else
    let now ← VaultPhone.moment
    if request.isExpiredAt now = true then refusal .rejected true else
      return ⟨.response, ← run decoded, true⟩

/-- Listing releases no secret and needs no approval. -/
def perform (request : ApplicationFrame) : VaultRequest → Fallible φ Failed ApplicationOutcome
  | .list listed => do return ⟨.response, ← list listed, true⟩
  | decoded => approved request decoded

/-- `execute`. What the store refuses is refused as an answer is. -/
def execute (request : ApplicationFrame) (decoded : VaultRequest) : Fallible φ Failed ApplicationOutcome :=
  tryCatch (perform request decoded) fun
    | .platformException => refusal .rejected true
    | _ => refusal .unavailable false

/-- A request that changes the vault is run once, however often it is sent. -/
def outcome (request : ApplicationFrame) (replayScope : String) (decoded : VaultRequest) : Fallible φ Failed ApplicationOutcome :=
  if decoded.mutates = true then ApplicationIdempotency.run replayScope request (execute request decoded)
  else execute request decoded

/-- What is sent back of a request that was decoded. -/
def answer (request : ApplicationFrame) (replayScope : String) (decoded : VaultRequest) : Fallible φ Failed Bytes :=
  tryCatch (do
    let outcome ← outcome request replayScope decoded
    refusable (frame request outcome.kind outcome.payload)) fun
    | .thrown (.refusal (.formatException _)) => error request .invalidRequest
    | _ => error request .unavailable

def handle (raw : Uint8List) (sessionBinding : Bytes) (authorized : Bool) (replayScope : String) :
    Fallible φ Failed Bytes := do
  let request ← ((ApplicationFrame.decode raw).mapError Failed.thrown : Except Failed ApplicationFrame)
  require (request.kind = .request ∧ sameBytes request.sessionBinding sessionBinding = true)
    (Failed.thrown (formatException "vault frame from another session"))
  let now ← VaultPhone.moment
  require (request.isExpiredAt now = false) (Failed.thrown (formatException "vault frame from another session"))
  if authorized = false then error request .rejected else
    match VaultRequest.decode request.operation (.ofBytes request.payload) with
    | .error (.refusal (.formatException _)) => error request .invalidRequest
    | .error thrown => throw (Failed.thrown thrown)
    | .ok decoded => answer request replayScope decoded

end Service

end VaultService

end BioAuth.Mobile
