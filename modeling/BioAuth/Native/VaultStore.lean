import BioAuth.Lib.Fallible
import BioAuth.Lib.Keys
import BioAuth.Lib.Text
import Mathlib.Data.List.Lex

namespace BioAuth.Native
open BioAuth

/-- A number in a message of the app. -/
inductive Number
  | integer (value : Int64)
  | bigInteger (value : Int)
  | double (spelling : String)

/-- No double is spelled the way an integer is. -/
def Number.exactLongOrNull : Number → Option Int64
  | .integer value => some value
  | .bigInteger value => if -2 ^ 63 ≤ value ∧ value < 2 ^ 63 then some (Int64.ofInt value) else none
  | .double _ => none

/-- What the standard method codec makes of a message. -/
inductive ChannelValue
  | null
  | bool (value : Bool)
  | number (value : Number)
  | string (value : String)
  | octets (value : Bytes)
  | list (items : List ChannelValue)
  | map (entries : List (ChannelValue × ChannelValue))

/-- What a map holds under a name: the last entry counts, and none is as good as null. -/
def ChannelValue.lookup (key : String) (entries : List (ChannelValue × ChannelValue)) : ChannelValue :=
  entries.foldl (fun held entry =>
    match entry.1 with
    | .string name => if name = key then entry.2 else held
    | _ => held) .null

structure VaultStoreFailure where
  code : String
  message : String
  details : Option (List (String × Int32)) := none
  deriving DecidableEq

def invalid (message : String) : VaultStoreFailure := { code := "invalid_arguments", message }

def requireRevision (revision : Int32) : Except VaultStoreFailure Unit :=
  require (1 ≤ revision.toInt) (invalid "revision must be at least 1")

def validateText (name value : String) (max : Nat) (allowEmpty : Bool) : Except VaultStoreFailure Unit :=
  require ((allowEmpty = true ∨ value ≠ "") ∧ utf16Len value ≤ max) (invalid (name ++ " is invalid"))

theorem validateText_eq_ok {name value : String} {max : Nat} {allowEmpty : Bool} {u : Unit} :
    validateText name value max allowEmpty = .ok u ↔ (allowEmpty = true ∨ value ≠ "") ∧ utf16Len value ≤ max :=
  except_require_eq_ok

theorem requireRevision_eq_ok {revision : Int32} {u : Unit} :
    requireRevision revision = .ok u ↔ 1 ≤ revision.toInt := except_require_eq_ok

structure VaultItem where
  id : String
  revision : Int32
  kind : Int32
  name : String
  username : String
  uri : String
  secret : String
  updatedAtMs : Int64
  deriving DecidableEq

structure VaultItemInput where
  id : Option String
  kind : Int32
  name : String
  username : String
  uri : String
  secret : String
  deriving DecidableEq

namespace VaultStoreData

def maxId : Nat := 64
def maxName : Nat := 255
def maxUsername : Nat := 255
def maxUri : Nat := 1024
def maxSecret : Nat := 4096
def maxCursor : Nat := 128

/-- The ceiling neither a creation nor a restore may cross. -/
def maxItems : Nat := 4096

end VaultStoreData

open VaultStoreData

/-- The item kinds this build understands: login, note, TOTP seed. -/
def KindRange (kind : Int) : Prop := 0 ≤ kind ∧ kind ≤ 2

instance (kind : Int) : Decidable (KindRange kind) := inferInstanceAs (Decidable (_ ∧ _))

/-- What both the request and the stored item are held to. -/
structure Contents (kind : Int32) (name username uri secret : String) : Prop where
  kind : KindRange kind.toInt
  name : name ≠ "" ∧ utf16Len name ≤ maxName
  username : utf16Len username ≤ maxUsername
  uri : utf16Len uri ≤ maxUri
  secret : secret ≠ "" ∧ utf16Len secret ≤ maxSecret

structure VaultItemInput.Fits (input : VaultItemInput) : Prop where
  id : ∀ id, input.id = some id → id ≠ "" ∧ utf16Len id ≤ maxId
  contents : Contents input.kind input.name input.username input.uri input.secret

structure VaultItem.Fits (item : VaultItem) : Prop where
  id : item.id ≠ "" ∧ utf16Len item.id ≤ maxId
  revision : 1 ≤ item.revision.toInt
  contents : Contents item.kind item.name item.username item.uri item.secret

namespace VaultItemInput

/-- `Map.string` of a field that is required. -/
def string (key : String) (map : List (ChannelValue × ChannelValue)) : Except VaultStoreFailure String :=
  match ChannelValue.lookup key map with
  | .string value => .ok value
  | _ => .error (invalid (key ++ " is required"))

def optionalString (key : String) (map : List (ChannelValue × ChannelValue)) : Except VaultStoreFailure String :=
  match ChannelValue.lookup key map with
  | .null => .ok ""
  | .string value => .ok value
  | _ => .error (invalid (key ++ " must be a string"))

def idField (map : List (ChannelValue × ChannelValue)) : Except VaultStoreFailure (Option String) :=
  match ChannelValue.lookup "id" map with
  | .null => .ok none
  | .string value => .ok (some value)
  | _ => .error (invalid "id must be a string")

def kindField (map : List (ChannelValue × ChannelValue)) : Except VaultStoreFailure Int32 :=
  match ChannelValue.lookup "kind" map with
  | .number value =>
    match value.exactLongOrNull with
    | some kind =>
      if KindRange kind.toInt then .ok (Int32.ofInt kind.toInt) else .error (invalid "kind must be a known item kind")
    | none => .error (invalid "kind must be a known item kind")
  | _ => .error (invalid "kind is required")

def entries : ChannelValue → Except VaultStoreFailure (List (ChannelValue × ChannelValue))
  | .map entries => .ok entries
  | _ => .error (invalid "item must be a map")

def validateId : Option String → Except VaultStoreFailure Unit
  | some id => validateText "id" id maxId false
  | none => .ok ()

/-- `VaultItemInput.from`. -/
def fromArguments (arguments : ChannelValue) (requireId : Bool) : Except VaultStoreFailure VaultItemInput := do
  let map ← entries arguments
  let id ← idField map
  require (requireId = false ∨ id ≠ none) (invalid "id is required")
  validateId id
  let kind ← kindField map
  let name ← string "name" map
  let username ← optionalString "username" map
  let uri ← optionalString "uri" map
  let secret ← string "secret" map
  validateText "name" name maxName false
  validateText "username" username maxUsername true
  validateText "uri" uri maxUri true
  validateText "secret" secret maxSecret false
  return { id, kind, name, username, uri, secret }

theorem kindField_eq_ok {map : List (ChannelValue × ChannelValue)} {kind : Int32} (found : kindField map = .ok kind) :
    KindRange kind.toInt := by
  unfold kindField at found
  split at found <;> try cases found
  split at found <;> try cases found
  split at found <;> cases found
  rename_i within
  have low : (0 : Int) ≤ _ := within.1
  have high : _ ≤ (2 : Int) := within.2
  rw [Int32.toInt_ofInt_of_le (by omega) (by omega)]
  exact within

/-- What is accepted of a request keeps to the bounds. -/
theorem fromArguments_fits {arguments : ChannelValue} {requireId : Bool} {input : VaultItemInput}
    (run : fromArguments arguments requireId = .ok input) : input.Fits ∧ (requireId = true → input.id ≠ none) := by
  unfold fromArguments at run
  simp only [except_bind_eq_ok, except_pure_eq_ok, validateText_eq_ok, except_require_eq_ok, exists_const] at run
  obtain ⟨map, _, id, _, given, _, idFits, kind, atKind, name, _, username, _, uri, _, secret, _, nameFits, usernameFits, uriFits,
    secretFits, rfl⟩ := run
  refine ⟨⟨fun id same => ?_, kindField_eq_ok atKind, ?_, usernameFits.2, uriFits.2, ?_⟩, fun required => ?_⟩
  · subst same
    obtain ⟨solid, short⟩ := validateText_eq_ok.mp idFits
    exact ⟨solid.resolve_left nofun, short⟩
  · exact ⟨nameFits.1.resolve_left nofun, nameFits.2⟩
  · exact ⟨secretFits.1.resolve_left nofun, secretFits.2⟩
  · exact given.resolve_left (by rw [required]; nofun)

def item (input : VaultItemInput) (id : String) (revision : Int32) (nowMs : Int64) : VaultItem :=
  { id, revision, kind := input.kind, name := input.name, username := input.username, uri := input.uri,
    secret := input.secret, updatedAtMs := nowMs }

/-- What makes two entries the same entry for a restore: the secret is not part of it. -/
def identity (input : VaultItemInput) : List String := [toString input.kind.toInt, input.name, input.username, input.uri]

end VaultItemInput

def VaultItem.identity (item : VaultItem) : List String := [toString item.kind.toInt, item.name, item.username, item.uri]

namespace VaultStoreData

def vaultFull (message : String) : VaultStoreFailure := { code := "vault_full", message }

def notFound : VaultStoreFailure := { code := "not_found", message := "Vault item does not exist" }

def checkRevision (item : VaultItem) (expected : Int32) : Except VaultStoreFailure Unit :=
  require (item.revision = expected)
    { code := "revision_conflict", message := "Vault item revision changed",
      details := some [("expectedRevision", expected), ("currentRevision", item.revision)] }

def create (items : List VaultItem) (input : VaultItemInput) (nowMs : Int64) (id : String) :
    Except VaultStoreFailure (List VaultItem × VaultItem) := do
  validateText "id" id maxId false
  require (items.length < maxItems) (vaultFull "The vault holds as many items as it can")
  require (∀ item ∈ items, item.id ≠ id) { code := "id_conflict", message := "Vault item id already exists" }
  let created := input.item id 1 nowMs
  return (items ++ [created], created)

def update (items : List VaultItem) (input : VaultItemInput) (expectedRevision : Int32) (nowMs : Int64) :
    Except VaultStoreFailure (List VaultItem × VaultItem) := do
  requireRevision expectedRevision
  let id ← okOr (invalid "id is required") input.id
  let index := items.findIdx fun item => item.id = id
  let current ← okOr notFound items[index]?
  checkRevision current expectedRevision
  require (current.revision ≠ Int32.maxValue)
    { code := "revision_overflow", message := "Vault item revision cannot be advanced" }
  let updated := input.item id (current.revision + 1) nowMs
  return (items.set index updated, updated)

def delete (items : List VaultItem) (id : String) (expectedRevision : Int32) :
    Except VaultStoreFailure (List VaultItem) := do
  validateText "id" id maxId false
  requireRevision expectedRevision
  let current ← okOr notFound (items.find? fun item => item.id = id)
  checkRevision current expectedRevision
  return items.filter fun item => item.id ≠ id

def exportFields (item : VaultItem) : List (ChannelValue × ChannelValue) :=
  [(.string "kind", .number (.integer (Int64.ofInt item.kind.toInt))), (.string "name", .string item.name),
    (.string "username", .string item.username), (.string "uri", .string item.uri),
    (.string "secret", .string item.secret)]

/-- Every item, secrets included. -/
def «export» (items : List VaultItem) : List ChannelValue := items.map fun item => .map (exportFields item)

structure Restored where
  items : List VaultItem
  added : Nat
  skipped : Nat

/-- The loop of `restore`. Each item it adds draws an id. -/
def restoreInto (randomUUID : Nat → String) (nowMs : Int64) : List VaultItemInput → List (List String) → Restored → Restored
  | [], _, restored => restored
  | input :: incoming, existing, restored =>
    if input.identity ∈ existing then
      restoreInto randomUUID nowMs incoming existing { restored with skipped := restored.skipped + 1 }
    else
      restoreInto randomUUID nowMs incoming (input.identity :: existing)
        { restored with
          items := restored.items ++ [input.item (randomUUID restored.added) 1 nowMs]
          added := restored.added + 1 }

def restore (randomUUID : Nat → String) (items : List VaultItem) (incoming : List VaultItemInput) (nowMs : Int64) :
    Except VaultStoreFailure Restored := do
  require (items.length + incoming.length ≤ maxItems) (vaultFull "Restoring would exceed the vault's limit")
  return restoreInto randomUUID nowMs incoming (items.map VaultItem.identity) ⟨items, 0, 0⟩

def fetch (items : List VaultItem) (id : String) : Except VaultStoreFailure VaultItem := do
  validateText "id" id maxId false
  okOr notFound (items.find? fun item => item.id = id)

def pageSize : Nat := 32

def summary (item : VaultItem) : ChannelValue :=
  .map [(.string "id", .string item.id), (.string "revision", .number (.integer (Int64.ofInt item.revision.toInt))),
    (.string "kind", .number (.integer (Int64.ofInt item.kind.toInt))), (.string "name", .string item.name),
    (.string "username", .string item.username), (.string "uri", .string item.uri),
    (.string "updatedAtMs", .number (.integer item.updatedAtMs))]

/-- Newest first, ties broken by id. -/
def comesBefore (a b : VaultItem) : Bool :=
  b.updatedAtMs < a.updatedAtMs || (a.updatedAtMs = b.updatedAtMs && decide (utf16 a.id ≤ utf16 b.id))

def ordered (items : List VaultItem) : List VaultItem := items.mergeSort comesBefore

/-- Every item's metadata in one answer, as the entries of a map. -/
def all (items : List VaultItem) : List (ChannelValue × ChannelValue) :=
  [(.string "items", .list ((ordered items).map summary))]

/-- A page of them. How a cursor is read as an integer is the library's affair. -/
def page (toIntOrNull : String → Option Int32) (items : List VaultItem) (cursor : Option String) :
    Except VaultStoreFailure ChannelValue := do
  if let some cursor := cursor then
    validateText "cursor" cursor maxCursor true
  let offset ← match cursor with
    | none | some "" => .ok (0 : Int)
    | some cursor => okOr (invalid "cursor is invalid") ((toIntOrNull cursor).map Int32.toInt)
  require (0 ≤ offset ∧ offset ≤ items.length) (invalid "cursor is invalid")
  let sorted := ordered items
  let page := (sorted.drop offset.toNat).take pageSize
  let next := offset.toNat + page.length
  return .map [(.string "items", .list (page.map summary)),
    (.string "nextCursor", if next < sorted.length then .string (toString next) else .null)]

/-- The items so many draws make of what is restored. -/
def numbered (randomUUID : Nat → String) (nowMs : Int64) (drawn : Nat) (incoming : List VaultItemInput) : List VaultItem :=
  incoming.mapIdx fun place input => input.item (randomUUID (drawn + place)) 1 nowMs

theorem numbered_cons (randomUUID : Nat → String) (nowMs : Int64) (drawn : Nat) (input : VaultItemInput)
    (incoming : List VaultItemInput) :
    numbered randomUUID nowMs drawn (input :: incoming) =
      input.item (randomUUID drawn) 1 nowMs :: numbered randomUUID nowMs (drawn + 1) incoming := by
  rw [numbered, List.mapIdx_cons, numbered]
  simp only [Nat.add_zero, Nat.add_assoc, Nat.add_comm 1]

theorem numbered_length (randomUUID : Nat → String) (nowMs : Int64) (drawn : Nat) (incoming : List VaultItemInput) :
    (numbered randomUUID nowMs drawn incoming).length = incoming.length := List.length_mapIdx

theorem mem_numbered {randomUUID : Nat → String} {nowMs : Int64} {drawn : Nat} {incoming : List VaultItemInput}
    {item : VaultItem} : item ∈ numbered randomUUID nowMs drawn incoming ↔
      ∃ (place : Nat) (input : VaultItemInput), incoming[place]? = some input ∧ input.item (randomUUID (drawn + place)) 1 nowMs = item := by
  unfold numbered
  rw [List.mem_iff_getElem?]
  simp only [List.getElem?_mapIdx, Option.map_eq_some_iff]

theorem numbered_ids (randomUUID : Nat → String) (nowMs : Int64) (drawn : Nat) (incoming : List VaultItemInput) :
    (numbered randomUUID nowMs drawn incoming).map VaultItem.id =
      (List.range incoming.length).map fun place => randomUUID (drawn + place) := by
  induction incoming generalizing drawn with
  | nil => rfl
  | cons input incoming ih =>
    rw [numbered_cons, List.map_cons, ih, List.length_cons, List.range_succ_eq_map, List.map_cons, List.map_map]
    refine congrArg₂ List.cons rfl (List.map_congr_left fun place _ => ?_)
    rw [Function.comp_apply, Nat.add_assoc, Nat.add_comm 1]

/-- A restore adds the first item of each identity the vault has not got. -/
theorem restoreInto_eq (randomUUID : Nat → String) (nowMs : Int64) (incoming : List VaultItemInput)
    (existing : List (List String)) (restored : Restored) :
    let added := unseen VaultItemInput.identity existing incoming
    restoreInto randomUUID nowMs incoming existing restored =
      ⟨restored.items ++ numbered randomUUID nowMs restored.added added, restored.added + added.length,
        restored.skipped + (incoming.length - added.length)⟩ := by
  dsimp only
  induction incoming generalizing existing restored with
  | nil => simp [restoreInto, unseen, numbered]
  | cons input incoming ih =>
    unfold restoreInto unseen
    split
    · have part : (unseen VaultItemInput.identity existing incoming).Sublist incoming := unseen_sublist _ _
      have shorter := part.length_le
      rw [ih]
      simp only [List.length_cons, Restored.mk.injEq, true_and]
      omega
    · rw [ih]
      simp only [numbered_cons, List.append_assoc, List.singleton_append, List.length_cons, Restored.mk.injEq, true_and]
      omega

theorem restore_eq_ok {randomUUID : Nat → String} {items : List VaultItem} {incoming : List VaultItemInput}
    {nowMs : Int64} {restored : Restored} :
    restore randomUUID items incoming nowMs = .ok restored ↔
      items.length + incoming.length ≤ maxItems ∧
        let added := unseen VaultItemInput.identity (items.map VaultItem.identity) incoming
        restored = ⟨items ++ numbered randomUUID nowMs 0 added, added.length, incoming.length - added.length⟩ := by
  unfold restore
  rw [restoreInto_eq]
  simp only [except_bind_eq_ok, except_require_eq_ok, except_pure_eq_ok, exists_const, Nat.zero_add]
  exact and_congr_right fun _ => eq_comm

end VaultStoreData

/-- A call of a method over the channel. -/
structure MethodCall where
  method : String
  arguments : ChannelValue

inductive Request
  | list (cursor : Option String)
  | listAll
  | fetch (id : String)
  | create (item : VaultItemInput)
  | update (item : VaultItemInput) (expectedRevision : Int32)
  | delete (id : String) (expectedRevision : Int32)
  | export
  | discard
  | restore (items : List VaultItemInput)

namespace Request

def requiredString (key : String) (map : List (ChannelValue × ChannelValue)) : Except VaultStoreFailure String :=
  match ChannelValue.lookup key map with
  | .string value => if value ≠ "" ∧ utf16Len value ≤ 64 then .ok value else .error (invalid (key ++ " is invalid"))
  | _ => .error (invalid (key ++ " is required"))

def optionalStringOrNull (key : String) (map : List (ChannelValue × ChannelValue)) :
    Except VaultStoreFailure (Option String) :=
  match ChannelValue.lookup key map with
  | .null => .ok none
  | .string value => if utf16Len value ≤ 128 then .ok (some value) else .error (invalid (key ++ " is invalid"))
  | _ => .error (invalid (key ++ " must be a string"))

def requiredRevision (key : String) (map : List (ChannelValue × ChannelValue)) : Except VaultStoreFailure Int32 :=
  match ChannelValue.lookup key map with
  | .number value =>
    match value.exactLongOrNull with
    | some long =>
      if 1 ≤ long.toInt ∧ long.toInt < 2 ^ 31 then .ok (Int32.ofInt long.toInt)
      else .error (invalid (key ++ " must be at least 1"))
    | none => .error (invalid (key ++ " must be at least 1"))
  | _ => .error (invalid (key ++ " is required"))

/-- The items of a restore. -/
def restoreItems (map : List (ChannelValue × ChannelValue)) : Except VaultStoreFailure (List VaultItemInput) := do
  match ChannelValue.lookup "items" map with
  | .list items =>
    require (items.length ≤ maxItems) (invalid "too many items to restore")
    items.mapM fun item => VaultItemInput.fromArguments item false
  | _ => .error (invalid "items is required")

/-- Arguments that are no map are as good as none. -/
def arguments : ChannelValue → List (ChannelValue × ChannelValue)
  | .map entries => entries
  | _ => []

end Request

open Request in
def request (call : MethodCall) : Except VaultStoreFailure Request := do
  let arguments := arguments call.arguments
  match call.method with
  | "list" => return .list (← optionalStringOrNull "cursor" arguments)
  | "listAll" => return .listAll
  | "fetch" => return .fetch (← requiredString "id" arguments)
  | "create" => return .create (← VaultItemInput.fromArguments (ChannelValue.lookup "item" arguments) false)
  | "update" =>
    let item ← VaultItemInput.fromArguments (ChannelValue.lookup "item" arguments) true
    return .update item (← requiredRevision "expectedRevision" arguments)
  | "delete" =>
    let id ← requiredString "id" arguments
    return .delete id (← requiredRevision "expectedRevision" arguments)
  | "discard" => return .discard
  | "export" => return .export
  | "restore" => return .restore (← restoreItems arguments)
  | _ => throw { code := "not_implemented", message := "Unknown vault method" }

end BioAuth.Native
