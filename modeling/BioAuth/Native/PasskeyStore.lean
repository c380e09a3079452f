import BioAuth.Lib.Interleave
import BioAuth.Native.WebAuthnRequestParser

namespace BioAuth.Native
open BioAuth

structure PasskeyRecord where
  credentialId : Bytes
  rpId : String
  userHandle : Bytes
  userName : String
  userDisplayName : String
  keyAlias : String
  signCount : UInt32
  createdAtMillis : Int64
  deriving DecidableEq

/-- What is written of a record is read back. -/
structure PasskeyRecord.Fits (record : PasskeyRecord) : Prop where
  credentialId : record.credentialId ≠ [] ∧ record.credentialId.length ≤ 3072
  userHandle : record.userHandle ≠ [] ∧ record.userHandle.length ≤ 3072

structure Preferences where
  recordsV2 : Option String
  previousRecordsV2 : Option String
  records : Option String

structure PasskeyStoreSnapshot where
  records : List PasskeyRecord
  encoded : String
  migrated : Bool
  rolledBack : Bool

/-- What a commit is for. -/
inductive Purpose
  | migration
  | rollback
  | write
  deriving DecidableEq

section Codec
variable [OrgJsonText]
open WebAuthnRequestParser (base64Url)

namespace PasskeyStoreCodec
open JsonObject

def version : Int32 := 2

def recordMembers (record : PasskeyRecord) : List (String × Json) :=
  [("credentialId", .string (base64Url record.credentialId)), ("rpId", .string record.rpId),
    ("userHandle", .string (base64Url record.userHandle)), ("userName", .string record.userName),
    ("userDisplayName", .string record.userDisplayName), ("keyAlias", .string record.keyAlias),
    ("signCount", .number record.signCount.toNat), ("createdAtMillis", .number record.createdAtMillis.toInt)]

def recordsArray (records : List PasskeyRecord) : Json :=
  .array (records.map fun record => .object (recordMembers record))

def document (records : List PasskeyRecord) : Json :=
  .object [("version", .number version.toInt), ("records", recordsArray records)]

def encode (records : List PasskeyRecord) : String := OrgJsonText.write (document records)

def encodeLegacy (records : List PasskeyRecord) : String := OrgJsonText.write (recordsArray records)

def decodeRecord : Json → Except Failure PasskeyRecord
  | .object item => do
    let signCount ← getLong "signCount" item
    require (0 ≤ signCount.toInt ∧ signCount.toInt < 2 ^ 32) (.illegalArgument "Invalid passkey signature counter")
    let credentialId ← WebAuthnRequestParser.decode (← getString "credentialId" item) "credentialId"
    let rpId ← getString "rpId" item
    let userHandle ← WebAuthnRequestParser.decode (← getString "userHandle" item) "userHandle"
    let userName ← getString "userName" item
    let userDisplayName ← getString "userDisplayName" item
    let keyAlias ← getString "keyAlias" item
    let createdAtMillis ← getLong "createdAtMillis" item
    return {
      credentialId, rpId, userHandle, userName, userDisplayName, keyAlias, createdAtMillis
      signCount := UInt32.ofInt signCount.toInt
    }
  | _ => .error .json

def decodeRecords (array : List Json) : Except Failure (List PasskeyRecord) := array.mapM decodeRecord

def decode (encoded : String) : Except Failure (List PasskeyRecord) := do
  let root ← parse encoded
  let found ← getInt "version" root
  require (found = version) (.unsupportedVersion found)
  decodeRecords (← getJSONArray "records" root)

def decodeLegacy : Option String → Except Failure (List PasskeyRecord)
  | none => decodeRecords []
  | some encoded =>
    match OrgJsonText.nextValue encoded with
    | some (.array items) => decodeRecords items
    | _ => .error .json

end PasskeyStoreCodec

open PasskeyStoreCodec

def readPasskeySnapshot (current previous legacy : Option String) : Except Failure PasskeyStoreSnapshot :=
  match current with
  | none => do
    let records ← decodeLegacy legacy
    return ⟨records, encode records, true, false⟩
  | some current =>
    match decode current with
    | .ok records => .ok ⟨records, current, false, false⟩
    | .error (.unsupportedVersion version) => .error (.unsupportedVersion version)
    | .error _ =>
      match previous with
      | none => .error (.illegalState "Stored passkey metadata is corrupt")
      | some rollback =>
        match decode rollback with
        | .ok records => .ok ⟨records, rollback, false, true⟩
        | .error _ => .error (.illegalState "Passkey metadata and rollback are corrupt")

/-- A call of the store. Between any two of its uses of the preferences another instance may use them. -/
abbrev StoreCall := Program Preferences Purpose Failure

namespace PasskeyStore

def getString (key : Preferences → Option String) : StoreCall (Option String) :=
  .look fun preferences => .done (.ok (key preferences))

/-- `check(editor.commit())`. -/
def commitEdit (purpose : Purpose) (edit : Preferences → Preferences) (message : String) : StoreCall Unit :=
  .change purpose edit fun made => if made then .done (.ok ()) else .done (.error (.illegalState message))

def commit (purpose : Purpose) (records : List PasskeyRecord) (previous : Option String) : StoreCall Unit :=
  commitEdit purpose (fun preferences => {
    recordsV2 := some (encode records)
    previousRecordsV2 := previous.or preferences.previousRecordsV2
    records := some (encodeLegacy records)
  }) "Unable to persist passkey metadata"

def read : StoreCall (List PasskeyRecord) := do
  let current ← getString Preferences.recordsV2
  let previous ← getString Preferences.previousRecordsV2
  let legacy ← getString Preferences.records
  let snapshot ← liftM (readPasskeySnapshot current previous legacy)
  if snapshot.migrated then commit .migration snapshot.records none
  if snapshot.rolledBack then
    commitEdit .rollback (fun preferences => {
      preferences with
      recordsV2 := some snapshot.encoded
      records := some (encodeLegacy snapshot.records)
    }) "Unable to roll back corrupt passkey metadata"
    throw (.illegalState "Stored passkey metadata was corrupt and rolled back")
  return snapshot.records

def write (records : List PasskeyRecord) : StoreCall Unit := do
  let previous ← getString Preferences.recordsV2
  commit .write records previous

/-- `indexOfFirst` of a credential. -/
def index (credentialId : Bytes) (records : List PasskeyRecord) : Nat :=
  records.findIdx fun record => record.credentialId = credentialId

def allForRp (rpId : String) : StoreCall (List PasskeyRecord) := do
  return (← read).filter fun record => record.rpId = rpId

def find (credentialId : Bytes) : StoreCall (Option PasskeyRecord) := do
  return (← read).find? fun record => record.credentialId = credentialId

def save (record : PasskeyRecord) : StoreCall Unit := do
  let records ← read
  require (∀ other ∈ records, other.credentialId ≠ record.credentialId)
    (.illegalArgument "Passkey credential ID collision")
  write (records ++ [record])

def updateCounter (credentialId : Bytes) (expected next : UInt32) : StoreCall Unit := do
  require (expected < next) (.illegalArgument "WebAuthn signature counter must increase")
  let records ← read
  require ((records.find? fun record => record.credentialId = credentialId).map PasskeyRecord.signCount = some expected)
    (.illegalArgument "Passkey counter changed concurrently")
  write (records.modify (index credentialId records) fun record => { record with signCount := next })

def delete (credentialId : Bytes) : StoreCall Unit := do
  let records ← read
  require (∃ record ∈ records, record.credentialId = credentialId) (.illegalArgument "Passkey not found")
  write (records.filter fun record => record.credentialId ≠ credentialId)

end PasskeyStore

end Codec

section Snapshots
open Regroup

/-- What is decoded is neither none nor too much. -/
theorem WebAuthnRequestParser.decode_bounds {value field : String} {bytes : Bytes}
    (run : WebAuthnRequestParser.decode value field = .ok bytes) : bytes ≠ [] ∧ bytes.length ≤ 3072 := by
  unfold WebAuthnRequestParser.decode at run
  simp only [except_bind_eq_ok, except_require_eq_ok, except_pure_eq_ok, exists_const] at run
  obtain ⟨⟨spelt, short⟩, ⟨whole, known⟩, _, same⟩ := run
  have small : ∀ digit ∈ value.toList.map base64UrlAlphabet.idxOf, digit < 2 ^ 6 := by
    intro digit member
    obtain ⟨character, inside, rfl⟩ := List.mem_map.mp member
    exact List.idxOf_lt_length_of_mem (known character inside)
  have count := (collected_digits 6 (by decide) small).2
  have few := (collected_digits 6 (by decide) small).1.few
  have plain : ∀ character ∈ base64UrlAlphabet, character.val.toNat < 0x10000 := by decide
  have units : utf16Len value = value.toList.length := by
    have ones : value.toList.map (fun c => if c.val.toNat < 0x10000 then 1 else 2) = value.toList.map fun _ => 1 :=
      List.map_congr_left fun character member => if_pos (plain character (known character member))
    rw [utf16Len, ones, List.map_const', List.sum_replicate_nat, Nat.mul_one]
  have written : value.toList ≠ [] := fun empty => spelt (String.toList_inj.mp empty)
  have positive := List.length_pos_iff.mpr written
  rw [same, List.length_map] at count
  rw [units] at short whole
  unfold maxEncodedChars at short
  constructor
  · rintro rfl
    rw [List.length_nil] at count
    omega
  · omega

section Codec
variable [OrgJsonText]

namespace PasskeyStoreCodec

theorem decodeRecord_fits {item : Json} {record : PasskeyRecord} (run : decodeRecord item = .ok record) : record.Fits := by
  cases item with
  | object members =>
    simp only [decodeRecord, except_bind_eq_ok, except_require_eq_ok, except_pure_eq_ok, exists_const] at run
    obtain ⟨_, _, _, _, _, credentialId, decoded, _, _, _, _, userHandle, also, _, _, _, _, _, _, _, _, rfl⟩ := run
    exact ⟨WebAuthnRequestParser.decode_bounds decoded, WebAuthnRequestParser.decode_bounds also⟩
  | _ => cases run

theorem decodeRecords_fits {array : List Json} {records : List PasskeyRecord} (run : decodeRecords array = .ok records) :
    ∀ record ∈ records, record.Fits := by
  unfold decodeRecords at run
  induction array generalizing records with
  | nil =>
    cases run
    exact fun _ never => nomatch never
  | cons item array ih =>
    rw [List.mapM_cons] at run
    simp only [except_bind_eq_ok, except_pure_eq_ok] at run
    obtain ⟨record, first, rest, others, rfl⟩ := run
    exact List.forall_mem_cons.mpr ⟨decodeRecord_fits first, ih others⟩

theorem decode_fits {encoded : String} {records : List PasskeyRecord} (run : decode encoded = .ok records) :
    ∀ record ∈ records, record.Fits := by
  unfold decode at run
  simp only [except_bind_eq_ok, except_require_eq_ok, exists_const] at run
  obtain ⟨_, _, _, _, _, _, _, run⟩ := run
  exact decodeRecords_fits run

theorem decodeLegacy_fits {encoded : Option String} {records : List PasskeyRecord}
    (run : decodeLegacy encoded = .ok records) : ∀ record ∈ records, record.Fits := by
  unfold decodeLegacy at run
  split at run
  · exact decodeRecords_fits run
  · split at run
    · exact decodeRecords_fits run
    · cases run

theorem decodeRecord_recordMembers {record : PasskeyRecord} (fits : record.Fits) :
    decodeRecord (.object (recordMembers record)) = .ok record := by
  have small := record.signCount.toNat_lt
  have inside : -2 ^ 63 ≤ (record.signCount.toNat : Int) ∧ (record.signCount.toNat : Int) < 2 ^ 63 := by omega
  have long : -2 ^ 63 ≤ record.createdAtMillis.toInt ∧ record.createdAtMillis.toInt < 2 ^ 63 :=
    ⟨record.createdAtMillis.le_toInt, record.createdAtMillis.toInt_lt⟩
  have back : (Int64.ofInt record.signCount.toNat).toInt = record.signCount.toNat :=
    Int64.toInt_ofInt_of_le (by omega) (by omega)
  have signCount : JsonObject.getLong "signCount" (recordMembers record) = .ok (Int64.ofInt record.signCount.toNat) := by
    have found : JsonObject.opt "signCount" (recordMembers record) = some (.number record.signCount.toNat) := rfl
    rw [JsonObject.getLong, found]
    dsimp only
    rw [if_pos inside]
  have createdAtMillis : JsonObject.getLong "createdAtMillis" (recordMembers record) = .ok record.createdAtMillis := by
    have found : JsonObject.opt "createdAtMillis" (recordMembers record) = some (.number record.createdAtMillis.toInt) := rfl
    rw [JsonObject.getLong, found]
    dsimp only
    rw [if_pos long, Int64.ofInt_toInt]
  have credentialId : JsonObject.getString "credentialId" (recordMembers record) =
      .ok (WebAuthnRequestParser.base64Url record.credentialId) := rfl
  have userHandle : JsonObject.getString "userHandle" (recordMembers record) =
      .ok (WebAuthnRequestParser.base64Url record.userHandle) := rfl
  have counted : UInt32.ofInt (record.signCount.toNat : Int) = record.signCount := by
    apply UInt32.toNat.inj
    rw [UInt32.ofInt, UInt32.toNat_ofNat']
    omega
  simp only [decodeRecord, except_bind_eq_ok, except_require_eq_ok, except_pure_eq_ok, exists_const]
  refine ⟨_, signCount, ⟨by omega, by omega⟩, _, credentialId, _,
    WebAuthnRequestParser.decode_base64Url fits.credentialId.1 fits.credentialId.2 _, _, rfl, _, userHandle, _,
    WebAuthnRequestParser.decode_base64Url fits.userHandle.1 fits.userHandle.2 _, _, rfl, _, rfl, _, rfl, _,
    createdAtMillis, ?_⟩
  rw [back, counted]
  rfl

/-- A list of records that fit is read back as it was written. -/
theorem decode_encode {records : List PasskeyRecord} (faithful : OrgJsonText.Faithful (document records))
    (fits : ∀ record ∈ records, record.Fits) : decode (encode records) = .ok records := by
  have parsed : JsonObject.parse (encode records) =
      .ok [("version", .number version.toInt), ("records", recordsArray records)] := by
    rw [JsonObject.parse, encode, faithful]
    rfl
  have read : decodeRecords (records.map fun record => .object (recordMembers record)) = .ok records := by
    unfold decodeRecords
    clear parsed faithful
    induction records with
    | nil => rfl
    | cons record records ih =>
      rw [List.forall_mem_cons] at fits
      rw [List.map_cons, List.mapM_cons, decodeRecord_recordMembers fits.1, ih fits.2]
      rfl
  unfold decode
  simp only [parsed, except_bind_eq_ok, except_require_eq_ok, exists_const]
  exact ⟨_, rfl, 2, rfl, rfl, _, rfl, read⟩

end PasskeyStoreCodec

end Codec

end Snapshots

end BioAuth.Native
