import BioAuth.Native.VaultStore
import BioAuth.Native.VaultStoreCodec
import Mathlib.Logic.Function.Basic

namespace BioAuth.Native
open BioAuth VaultStoreData

/-- What the key store, the cipher, the file and the screen do while one event is handled, as failures of this channel. -/
structure Surroundings where
  cryptoReady : Except VaultStoreFailure Unit
  encryptCipher : Except VaultStoreFailure Unit
  decryptCipher : Except VaultStoreFailure Unit
  readable : Except VaultStoreFailure Unit
  /-- Whether the cipher opens the blob and whether it seals a plaintext. -/
  opened : Except VaultStoreFailure Unit
  sealed : Except VaultStoreFailure Unit
  writable : Except VaultStoreFailure Unit
  stateSaved : Bool
  raised : Except VaultStoreFailure Unit
  nowMs : Int64
  randomUUID : Nat → String
  toIntOrNull : String → Option Int32

/-- What is left to do once a prompt succeeds. A write remembers beside its plaintext what it was made of. -/
inductive Continuation
  | unlock (request : Request) (blob : Option Bytes)
  | write (plaintext : Nat) (request : Request) (blob : Option Bytes) (read updated : List VaultItem)
      (answer : ChannelValue)

structure Prompt where
  channel : Nat
  call : Nat
  continuation : Continuation
  /-- Whether its one callback has come. -/
  delivered : Bool

inductive Activity
  | fragmentActivity
  | other
  deriving DecidableEq

/-- One instance. What a cleanup wipes is a plaintext. -/
structure VaultStoreChannel where
  activity : Option Activity
  prompt : Option Nat
  pendingResult : Option Nat
  pendingCleanup : Option Nat

/-- A change of the file, with what its request read and what was there before. -/
structure Change where
  call : Nat
  request : Request
  /-- Whether the call was unanswered. -/
  unanswered : Bool
  before : Option Bytes
  blob : Option Bytes
  read : List VaultItem
  updated : List VaultItem
  after : Option Bytes

inductive Entry
  | answered (call : Nat) (answer : Except VaultStoreFailure ChannelValue)
  | changed (change : Change)

/-- The instances with what they share. The file is known by the plaintext its blob seals. An onlooker numbers the calls,
the prompts and the plaintexts and keeps a log. -/
structure Phone where
  channels : Nat → VaultStoreChannel
  operationInProgress : Bool
  storage : Option Bytes
  calls : Nat
  prompts : List Prompt
  /-- Each plaintext with the call it was serialised for. -/
  plaintexts : List (Nat × Bytes)
  log : List Entry

/-- What a request makes of the items it has read. -/
inductive Work
  | succeed (answer : ChannelValue)
  | erase (answer : ChannelValue)
  | persist (items : List VaultItem) (answer : ChannelValue)

section Channel
variable (env : Surroundings)

def numberField (key : String) (value : Nat) : ChannelValue × ChannelValue :=
  (.string key, .number (.integer (Int64.ofNat value)))

def revisionField (item : VaultItem) : ChannelValue × ChannelValue :=
  (.string "revision", .number (.integer (Int64.ofInt item.revision.toInt)))

/-- `process` up to what it does to the file and the screen. -/
def work (items : List VaultItem) : Request → Except VaultStoreFailure Work
  | .list cursor => do return .succeed (← page env.toIntOrNull items cursor)
  | .listAll => .ok (.succeed (.map (all items)))
  | .fetch id => do
    let item ← VaultStoreData.fetch items id
    return .succeed (.map [(.string "id", .string item.id), revisionField item, (.string "secret", .string item.secret)])
  | .discard => .error { code := "vault_operation_failed", message := "Discard is handled before unlocking" }
  | .export => .ok (.succeed (.map [(.string "items", .list (VaultStoreData.export items))]))
  | .restore incoming => do
    let restored ← VaultStoreData.restore env.randomUUID items incoming env.nowMs
    if restored.added = 0 then
      return .succeed (.map ([numberField "added" 0, numberField "skipped" restored.skipped] ++ all items))
    else
      return .persist restored.items
        (.map ([numberField "added" restored.added, numberField "skipped" restored.skipped] ++ all restored.items))
  | .create input => do
    let (updated, item) ← VaultStoreData.create items input env.nowMs (env.randomUUID 0)
    return .persist updated (.map ([(.string "id", .string item.id), revisionField item] ++ all updated))
  | .update input expectedRevision => do
    let (updated, item) ← VaultStoreData.update items input expectedRevision env.nowMs
    return .persist updated (.map ([(.string "id", .string item.id), revisionField item] ++ all updated))
  | .delete id expectedRevision => do
    let updated ← VaultStoreData.delete items id expectedRevision
    if updated = [] then return .erase (.map ([(.string "id", .string id)] ++ all []))
    else return .persist updated (.map ([(.string "id", .string id)] ++ all updated))

namespace Phone

def setChannel (channel : Nat) (state : VaultStoreChannel) (phone : Phone) : Phone :=
  { phone with channels := Function.update phone.channels channel state }

/-- `fill(0)`. -/
def wipe (plaintext : Nat) (phone : Phone) : Phone :=
  { phone with
    plaintexts := phone.plaintexts.modify plaintext fun held => (held.1, List.replicate held.2.length 0) }

/-- A cleanup, if there is one. -/
def invoke (cleanup : Option Nat) (phone : Phone) : Phone :=
  match cleanup with
  | some plaintext => phone.wipe plaintext
  | none => phone

def cleanPending (channel : Nat) (phone : Phone) : Phone :=
  let cleaned := phone.invoke (phone.channels channel).pendingCleanup
  cleaned.setChannel channel { phone.channels channel with pendingCleanup := none }

def respond (call : Nat) (answer : Except VaultStoreFailure ChannelValue) (phone : Phone) : Phone :=
  { phone with log := phone.log ++ [.answered call answer] }

def succeed (channel : Nat) (answer : ChannelValue) (phone : Phone) : Phone :=
  match (phone.channels channel).pendingResult with
  | none => phone
  | some call =>
    let closed := phone.setChannel channel { phone.channels channel with pendingResult := none, prompt := none }
    respond call (.ok answer) { closed with operationInProgress := false }

def fail (channel : Nat) (failure : VaultStoreFailure) (phone : Phone) : Phone :=
  match (phone.channels channel).pendingResult with
  | none => phone
  | some call =>
    let closed := phone.setChannel channel { phone.channels channel with pendingResult := none, prompt := none }
    let cleaned := closed.cleanPending channel
    respond call (.error failure) { cleaned with operationInProgress := false }

/-- The file is written, or deleted. -/
def change (channel call : Nat) (request : Request) (blob : Option Bytes) (read updated : List VaultItem)
    (after : Option Bytes) (phone : Phone) : Phone :=
  let unanswered := (phone.channels channel).pendingResult = some call
  let change := { call, request, unanswered, before := phone.storage, blob, read, updated, after }
  { phone with storage := after, log := phone.log ++ [.changed change] }

/-- `pendingCleanup = cleanup`. -/
def leave (channel : Nat) (cleanup : Option Nat) (phone : Phone) : Phone :=
  phone.setChannel channel { phone.channels channel with pendingCleanup := cleanup }

def raise (channel call : Nat) (continuation : Continuation) (phone : Phone) : Phone :=
  let raised := phone.setChannel channel { phone.channels channel with prompt := some phone.prompts.length }
  { raised with prompts := phone.prompts ++ [⟨channel, call, continuation, false⟩] }

def host (channel : Nat) (phone : Phone) : Bool := (phone.channels channel).activity = some .fragmentActivity

end Phone

open Phone

def authenticate (channel call : Nat) (cleanup : Option Nat) (continuation : Continuation) :
    Fallible Phone VaultStoreFailure Unit := do
  let phone ← get
  if phone.host channel = false ∨ env.stateSaved = true then
    modify (invoke cleanup)
    throw { code := "activity_unavailable",
            message := if phone.host channel = false then "A FragmentActivity is required for biometric authentication"
              else "The screen cannot show a prompt right now" }
  else
    modify (leave channel cleanup)
    liftM env.raised
    modify (raise channel call continuation)

variable [OrgJson]

def persist (channel call : Nat) (request : Request) (blob : Option Bytes) (read updated : List VaultItem)
    (answer : ChannelValue) : Fallible Phone VaultStoreFailure Unit := do
  let plaintext := (← get).plaintexts.length
  modify fun phone => { phone with plaintexts := phone.plaintexts ++ [(call, VaultStoreCodec.encode updated)] }
  let attempt : Fallible Phone VaultStoreFailure Unit := do
    liftM env.cryptoReady
    liftM env.encryptCipher
    authenticate env channel call (some plaintext) (.write plaintext request blob read updated answer)
  tryCatch attempt fun failure => do
    modify (wipe plaintext)
    throw failure

def process (channel call : Nat) (request : Request) (blob : Option Bytes) (items : List VaultItem) :
    Fallible Phone VaultStoreFailure Unit := do
  match ← liftM (work env items request) with
  | .succeed answer => modify (succeed channel answer)
  | .erase answer =>
    modify (change channel call request blob items [] none)
    modify (succeed channel answer)
  | .persist updated answer => persist env channel call request blob items updated answer

def load (channel call : Nat) (request : Request) : Fallible Phone VaultStoreFailure Unit := do
  let phone ← get
  match request, phone.storage with
  | .discard, before =>
    modify (change channel call .discard before [] [] none)
    modify (succeed channel (.map [(.string "discarded", .bool true)]))
  | .list _, none | .listAll, none =>
    liftM env.cryptoReady
    liftM env.encryptCipher
    authenticate env channel call none (.unlock request none)
  | .create _, none | .export, none | .restore _, none => process env channel call request none []
  | .fetch _, none | .update _ _, none | .delete _ _, none =>
    modify (fail channel { code := "not_found", message := "Vault item does not exist" })
  | _, some blob =>
    liftM env.cryptoReady
    liftM env.readable
    liftM env.decryptCipher
    authenticate env channel call none (.unlock request (some blob))

/-- What is left to do of a prompt that succeeded. -/
def operation (prompt : Prompt) : Fallible Phone VaultStoreFailure Unit :=
  match prompt.continuation with
  | .unlock request none => process env prompt.channel prompt.call request none []
  | .unlock request (some blob) => do
    liftM env.opened
    let items ← liftM (VaultStoreCodec.decode blob)
    process env prompt.channel prompt.call request (some blob) items
  | .write plaintext request blob read updated answer => do
    let held := (← get).plaintexts[plaintext]?.map Prod.snd
    liftM env.sealed
    liftM env.writable
    modify (change prompt.channel prompt.call request blob read updated held)
    modify (succeed prompt.channel answer)

namespace Phone

def attach (channel : Nat) (activity : Activity) (phone : Phone) : Phone :=
  phone.setChannel channel { phone.channels channel with activity := some activity }

/-- To cancel a prompt keeps no callback of it from coming. -/
def detach (channel : Nat) (phone : Phone) : Phone :=
  let left := phone.setChannel channel { phone.channels channel with activity := none }
  (left.cleanPending channel).fail channel
    { code := "activity_unavailable", message := "Biometric activity detached" }

def inProgress : VaultStoreFailure :=
  { code := "operation_in_progress", message := "Another vault operation is in progress" }

/-- `runCatching { step }.onFailure { fail(failureFor(it)) }`. -/
def orFail (channel : Nat) (step : Fallible Phone VaultStoreFailure Unit) (phone : Phone) : Phone :=
  match step phone with
  | (.ok (), after) => after
  | (.error failure, after) => after.fail channel failure

def onMethodCall (channel : Nat) (methodCall : MethodCall) (phone : Phone) : Phone :=
  let call := phone.calls
  let phone := { phone with calls := call + 1 }
  if (phone.channels channel).pendingResult ≠ none then phone.respond call (.error inProgress)
  else
    match request methodCall with
    | .error failure => phone.respond call (.error failure)
    | .ok request =>
      if phone.operationInProgress then phone.respond call (.error inProgress)
      else
        let claimed := phone.setChannel channel { phone.channels channel with pendingResult := some call }
        orFail channel (load env channel call request) { claimed with operationInProgress := true }

def deliver (number : Nat) (prompt : Prompt) (phone : Phone) : Phone :=
  { phone with prompts := phone.prompts.set number { prompt with delivered := true } }

def onAuthenticationSucceeded (prompt : Prompt) (cipher : Bool) (phone : Phone) : Phone :=
  let afterOperation := (phone.channels prompt.channel).pendingCleanup
  let taken := phone.setChannel prompt.channel
    { phone.channels prompt.channel with prompt := none, pendingCleanup := none }
  if cipher then (orFail prompt.channel (operation env prompt) taken).invoke afterOperation
  else
    (taken.invoke afterOperation).fail prompt.channel
      { code := "crypto_unavailable", message := "Authenticated vault cipher is unavailable" }

def onAuthenticationError (prompt : Prompt) (cancelled : Bool) (phone : Phone) : Phone :=
  (phone.cleanPending prompt.channel).fail prompt.channel
    { code := if cancelled then "authentication_cancelled" else "authentication_failed",
      message := "Biometric authentication did not complete" }

end Phone

end Channel

/-- What may happen next. Each is handled whole before the next one. -/
inductive ChannelEvent
  | attach (channel : Nat) (activity : Activity)
  | detach (channel : Nat)
  | call (channel : Nat) (methodCall : MethodCall) (env : Surroundings)
  | succeeded (prompt : Nat) (cipher : Bool) (env : Surroundings)
  | failed (prompt : Nat) (cancelled : Bool)

section Runs
variable [OrgJson]

namespace Phone

def fresh (storage : Option Bytes) : Phone :=
  ⟨fun _ => ⟨none, none, none, none⟩, false, storage, 0, [], [], []⟩

/-- A prompt delivers at most one callback. -/
def after (phone : Phone) : ChannelEvent → Phone
  | .attach channel activity => phone.attach channel activity
  | .detach channel => phone.detach channel
  | .call channel methodCall env => phone.onMethodCall env channel methodCall
  | .succeeded number cipher env =>
    match phone.prompts[number]? with
    | some prompt =>
      if prompt.delivered then phone else (phone.deliver number prompt).onAuthenticationSucceeded env prompt cipher
    | none => phone
  | .failed number cancelled =>
    match phone.prompts[number]? with
    | some prompt =>
      if prompt.delivered then phone else (phone.deliver number prompt).onAuthenticationError prompt cancelled
    | none => phone

end Phone

end Runs

end BioAuth.Native
