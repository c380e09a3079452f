import BioAuth.Lib.Json
import BioAuth.Native.VaultStore

namespace BioAuth.Native
open BioAuth

/-- What org.json makes of an object and of octets, over UTF-8. -/
class OrgJson where
  /-- `toString().toByteArray(Charsets.UTF_8)`. -/
  write : List (String × Json) → Bytes
  /-- `JSONObject(bytes.toString(Charsets.UTF_8))`, if it does not throw. -/
  read : Bytes → Option (List (String × Json))

/-- What is written of an object is read back as it was. -/
def OrgJson.Faithful [OrgJson] (members : List (String × Json)) : Prop := read (write members) = some members

namespace VaultStoreCodec
open VaultStoreData

def corrupt : VaultStoreFailure := { code := "store_corrupt", message := "Vault storage is corrupt" }

def itemMembers (item : VaultItem) : List (String × Json) :=
  [("id", .string item.id), ("revision", .number item.revision.toInt), ("kind", .number item.kind.toInt),
    ("name", .string item.name), ("username", .string item.username), ("uri", .string item.uri),
    ("secret", .string item.secret), ("updatedAtMs", .number item.updatedAtMs.toInt)]

def document (items : List VaultItem) : List (String × Json) :=
  [("version", .number 1), ("items", .array (items.map fun item => .object (itemMembers item)))]

def encode [OrgJson] (items : List VaultItem) : Bytes := OrgJson.write (document items)

/-- `JSONObject.opt`: of two members of a name the later one counts. -/
def opt (key : String) (members : List (String × Json)) : Option Json :=
  members.foldl (fun held member => if member.1 = key then some member.2 else held) none

def strictString (key : String) (members : List (String × Json)) : Except VaultStoreFailure String :=
  match opt key members with
  | some (.string value) => .ok value
  | _ => .error corrupt

def strictInt (key : String) (members : List (String × Json)) : Except VaultStoreFailure Int32 :=
  match opt key members with
  | some (.number value) => if -2 ^ 31 ≤ value ∧ value < 2 ^ 31 then .ok (Int32.ofInt value) else .error corrupt
  | _ => .error corrupt

def strictLong (key : String) (members : List (String × Json)) : Except VaultStoreFailure Int64 :=
  match opt key members with
  | some (.number value) => if -2 ^ 63 ≤ value ∧ value < 2 ^ 63 then .ok (Int64.ofInt value) else .error corrupt
  | _ => .error corrupt

/-- The bounds of a request, but what fails them is no request. -/
def validate (item : VaultItem) : Except VaultStoreFailure Unit :=
  let checks : Except VaultStoreFailure Unit := do
    validateText "id" item.id maxId false
    requireRevision item.revision
    require (KindRange item.kind.toInt) corrupt
    validateText "name" item.name maxName false
    validateText "username" item.username maxUsername true
    validateText "uri" item.uri maxUri true
    validateText "secret" item.secret maxSecret false
  checks.mapError fun failure => if failure.code = "store_corrupt" then failure else corrupt

def readItem (members : List (String × Json)) : Except VaultStoreFailure VaultItem := do
  let id ← strictString "id" members
  let revision ← strictInt "revision" members
  let kind ← strictInt "kind" members
  let name ← strictString "name" members
  let username ← strictString "username" members
  let uri ← strictString "uri" members
  let secret ← strictString "secret" members
  let updatedAtMs ← strictLong "updatedAtMs" members
  return { id, revision, kind, name, username, uri, secret, updatedAtMs }

/-- The loop of `decode`, with the ids it has met. -/
def readItems : List Json → List String → Except VaultStoreFailure (List VaultItem)
  | [], _ => .ok []
  | .object members :: rest, ids => do
    let item ← readItem members
    validate item
    require (item.id ∉ ids) corrupt
    let items ← readItems rest (item.id :: ids)
    return item :: items
  | _ :: _, _ => .error corrupt

def decode [OrgJson] (bytes : Bytes) : Except VaultStoreFailure (List VaultItem) := do
  let root ← okOr corrupt (OrgJson.read bytes)
  let version ← strictInt "version" root
  require (version = 1)
    { code := "store_version_unsupported", message := "Vault storage version is unsupported" }
  match opt "items" root with
  | some (.array items) => readItems items []
  | _ => .error corrupt

theorem validate_eq_ok {item : VaultItem} {u : Unit} : validate item = .ok u ↔ item.Fits := by
  unfold validate
  simp only [except_mapError_eq_ok, except_bind_eq_ok, validateText_eq_ok, requireRevision_eq_ok, except_require_eq_ok,
    exists_const, reduceCtorEq, false_or, true_or, true_and]
  constructor
  · intro ⟨id, revision, kind, name, username, uri, secret⟩
    exact ⟨id, revision, kind, name, username, uri, secret⟩
  · intro ⟨id, revision, kind, name, username, uri, secret⟩
    exact ⟨id, revision, kind, name, username, uri, secret⟩

theorem readItem_itemMembers (item : VaultItem) : readItem (itemMembers item) = .ok item := by
  have int (value : Int32) : -2 ^ 31 ≤ value.toInt ∧ value.toInt < 2 ^ 31 := ⟨value.le_toInt, value.toInt_lt⟩
  have long : -2 ^ 63 ≤ item.updatedAtMs.toInt ∧ item.updatedAtMs.toInt < 2 ^ 63 :=
    ⟨item.updatedAtMs.le_toInt, item.updatedAtMs.toInt_lt⟩
  have revision : strictInt "revision" (itemMembers item) = .ok item.revision := by
    have found : opt "revision" (itemMembers item) = some (.number item.revision.toInt) := rfl
    rw [strictInt, found]
    dsimp only
    rw [if_pos (int _), Int32.ofInt_toInt]
  have kind : strictInt "kind" (itemMembers item) = .ok item.kind := by
    have found : opt "kind" (itemMembers item) = some (.number item.kind.toInt) := rfl
    rw [strictInt, found]
    dsimp only
    rw [if_pos (int _), Int32.ofInt_toInt]
  have updatedAtMs : strictLong "updatedAtMs" (itemMembers item) = .ok item.updatedAtMs := by
    have found : opt "updatedAtMs" (itemMembers item) = some (.number item.updatedAtMs.toInt) := rfl
    rw [strictLong, found]
    dsimp only
    rw [if_pos long, Int64.ofInt_toInt]
  unfold readItem
  rw [revision, kind, updatedAtMs]
  rfl

theorem readItems_document {items : List VaultItem} {ids : List String} (fits : ∀ item ∈ items, item.Fits)
    (distinct : (items.map VaultItem.id).Nodup) (apart : ∀ item ∈ items, item.id ∉ ids) :
    readItems (items.map fun item => .object (itemMembers item)) ids = .ok items := by
  induction items generalizing ids with
  | nil => rfl
  | cons item items ih =>
    rw [List.forall_mem_cons] at fits apart
    rw [List.map_cons, List.nodup_cons] at distinct
    have fresh : ∀ other ∈ items, other.id ∉ item.id :: ids := by
      intro other member known
      rcases List.mem_cons.mp known with same | earlier
      · exact distinct.1 (List.mem_map.mpr ⟨other, member, same⟩)
      · exact apart.2 other member earlier
    have later := ih fits.2 distinct.2 fresh
    rw [List.map_cons, readItems]
    simp only [except_bind_eq_ok, except_require_eq_ok, except_pure_eq_ok, exists_const]
    exact ⟨item, readItem_itemMembers item, (), validate_eq_ok.mpr fits.1, apart.1, items, later, rfl⟩

/-- A vault whose items fit and have an id each opens again. -/
theorem decode_encode [OrgJson] {items : List VaultItem} (faithful : OrgJson.Faithful (document items))
    (fits : ∀ item ∈ items, item.Fits) (distinct : (items.map VaultItem.id).Nodup) :
    decode (encode items) = .ok items := by
  have version : strictInt "version" (document items) = .ok 1 := rfl
  have held : opt "items" (document items) = some (.array (items.map fun item => .object (itemMembers item))) := rfl
  unfold decode encode
  rw [faithful]
  simp only [except_bind_eq_ok, okOr_eq_ok, except_require_eq_ok, exists_const]
  refine ⟨_, rfl, 1, version, rfl, ?_⟩
  rw [held]
  exact readItems_document fits distinct fun _ _ => List.not_mem_nil

end VaultStoreCodec

end BioAuth.Native
