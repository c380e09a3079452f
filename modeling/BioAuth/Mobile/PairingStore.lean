import BioAuth.Lib.Json
import BioAuth.Lib.Serial
import BioAuth.Lib.Text
import BioAuth.Mobile.Dart
import BioAuth.Protocol.Messages

namespace BioAuth.Mobile
open BioAuth
open BioAuth.Protocol (KeyKind CredentialPurpose)

/-- What the phone takes from the libraries of its language. -/
class DartConvert where
  jsonEncode : Json → String
  jsonDecode : String → Option Json
  /-- Whether a number that is no integer equals one. -/
  doubleIs : String → Int → Bool
  base64UrlEncode : Bytes → String
  base64UrlDecode : String → Option Bytes
  /-- Of a time in UTC. -/
  toIso8601String : Moment → String
  parse : String → Option Moment

inductive PairingFailure
  | unsupportedVersion (version : Option Json)
  | formatException (message : String)
  | stateError (message : String) (cause : Option PairingFailure)
  /-- A type, range or format error of the libraries. -/
  | thrown

structure PairingRecord where
  verifierId : String
  verifierIdentitySpki : Bytes
  endpoint : String
  credentialId : String
  keyKind : KeyKind
  purpose : CredentialPurpose
  pairedAt : Moment
  deriving DecidableEq

def keyKinds : List KeyKind := [.strongBox, .hardware, .software]

def purposes : List CredentialPurpose := [.authorization, .diskUnlock, .webAuthn, .vault, .fileLocker, .ssh]

section Codec
variable [DartConvert]

def toBase64Url (bytes : Bytes) : String :=
  String.ofList ((DartConvert.base64UrlEncode bytes).toList.filter fun character => character ≠ '=')

/-- `value.padRight((value.length + 3) & ~3, '=')` is decoded. -/
def decodeBase64Url (value : String) : Option Bytes :=
  DartConvert.base64UrlDecode
    (value ++ String.ofList (List.replicate ((utf16Len value + 3) / 4 * 4 - utf16Len value) '='))

namespace PairingRecord

def toJson (record : PairingRecord) : Json :=
  .object [("verifierId", .string record.verifierId), ("identitySpki", .string (toBase64Url record.verifierIdentitySpki)),
    ("endpoint", .string record.endpoint), ("credentialId", .string record.credentialId),
    ("keyKind", .number (keyKinds.idxOf record.keyKind)), ("purpose", .number (purposes.idxOf record.purpose)),
    ("pairedAt", .string (DartConvert.toIso8601String record.pairedAt))]

def member (name : String) (members : List (String × Json)) : Option Json :=
  (members.find? fun member => member.1 = name).map Prod.snd

def string (name : String) (members : List (String × Json)) : Except PairingFailure String :=
  match member name members with
  | some (.string value) => .ok value
  | _ => .error .thrown

/-- `values[index]`, which throws below zero. -/
def choose {α : Type} (values : List α) (index : Int) : Except PairingFailure α :=
  okOr .thrown (if 0 ≤ index then values[index.toNat]? else none)

/-- A record whose first checks its three fields pass as far as their types go. -/
def fromFields (spki : String) (keyKind purpose : Int) (json : List (String × Json)) : Except PairingFailure PairingRecord := do
  require (keyKind < keyKinds.length ∧ purpose < purposes.length) (.formatException "malformed pairing record")
  let verifierId ← string "verifierId" json
  let verifierIdentitySpki ← okOr .thrown (decodeBase64Url spki)
  let endpoint ← string "endpoint" json
  let credentialId ← string "credentialId" json
  let keyKind ← choose keyKinds keyKind
  let purpose ← choose purposes purpose
  let pairedAt ← string "pairedAt" json
  let pairedAt ← okOr .thrown (DartConvert.parse pairedAt)
  return { verifierId, verifierIdentitySpki, endpoint, credentialId, keyKind, purpose, pairedAt }

def fromJson : Json → Except PairingFailure PairingRecord
  | .object json =>
    match member "identitySpki" json, member "keyKind" json, member "purpose" json with
    | some (.string spki), some (.number keyKind), some (.number purpose) => fromFields spki keyKind purpose json
    | _, _, _ => .error (.formatException "malformed pairing record")
  | _ => .error .thrown

end PairingRecord

open PairingRecord

def snapshot (records : List PairingRecord) : Json :=
  .object [("version", .number 2), ("records", .array (records.map toJson))]

def encodeSnapshot (records : List PairingRecord) : String := DartConvert.jsonEncode (snapshot records)

def encodeLegacy (records : List PairingRecord) : List String := records.map fun record => DartConvert.jsonEncode record.toJson

/-- `value['version'] == 2`. -/
def isVersion : Option Json → Bool
  | some (.number value) => value = 2
  | some (.decimal value) => DartConvert.doubleIs value 2
  | _ => false

def decodeSnapshot (encoded : String) : Except PairingFailure (List PairingRecord) :=
  match DartConvert.jsonDecode encoded with
  | none => .error .thrown
  | some (.object value) =>
    if isVersion (member "version" value) then
      match member "records" value with
      | some (.array records) => records.mapM fromJson
      | _ => .error (.formatException "Pairing snapshot has no records")
    else .error (.unsupportedVersion (member "version" value))
  | some _ => .error (.formatException "Pairing snapshot is not an object")

def decodeLegacy (stored : List String) : Except PairingFailure (List PairingRecord) :=
  stored.mapM fun entry =>
    match DartConvert.jsonDecode entry with
    | some json => fromJson json
    | none => .error .thrown

/-- The libraries read back what is written of some records. -/
structure ReadBack (records : List PairingRecord) : Prop where
  json : DartConvert.jsonDecode (DartConvert.jsonEncode (snapshot records)) = some (snapshot records)
  time : ∀ record ∈ records, DartConvert.parse (DartConvert.toIso8601String record.pairedAt) = some record.pairedAt
  base64Url : ∀ record ∈ records,
    DartConvert.base64UrlDecode (DartConvert.base64UrlEncode record.verifierIdentitySpki) = some record.verifierIdentitySpki
  /-- What is encoded is padded to fours. -/
  padded : ∀ record ∈ records, ∃ body count,
    DartConvert.base64UrlEncode record.verifierIdentitySpki = String.ofList (body ++ List.replicate count '=') ∧
      '=' ∉ body ∧ count < 4 ∧ utf16Len (DartConvert.base64UrlEncode record.verifierIdentitySpki) % 4 = 0

variable {records : List PairingRecord}

theorem decodeBase64Url_toBase64Url (reads : ReadBack records) {record : PairingRecord} (member : record ∈ records) :
    decodeBase64Url (toBase64Url record.verifierIdentitySpki) = some record.verifierIdentitySpki := by
  obtain ⟨body, count, encoded, plain, few, fours⟩ := reads.padded record member
  have stripped : toBase64Url record.verifierIdentitySpki = String.ofList body := by
    have kept : body.filter (fun character => character ≠ '=') = body :=
      List.filter_eq_self.mpr fun character member => by
        simpa using fun same : character = '=' => plain (same ▸ member)
    unfold toBase64Url
    rw [encoded, String.toList_ofList, List.filter_append, kept]
    simp
  have units : utf16Len (String.ofList body) + count = utf16Len (DartConvert.base64UrlEncode record.verifierIdentitySpki) := by
    rw [encoded]
    simp [utf16Len]
  have width : (utf16Len (String.ofList body) + 3) / 4 * 4 - utf16Len (String.ofList body) = count := by omega
  unfold decodeBase64Url
  rw [stripped, width, ← String.ofList_append, ← encoded]
  exact reads.base64Url record member

theorem fromJson_toJson (reads : ReadBack records) {record : PairingRecord} (member : record ∈ records) :
    fromJson record.toJson = .ok record := by
  have spki := decodeBase64Url_toBase64Url reads member
  have time := reads.time record member
  obtain ⟨verifierId, verifierIdentitySpki, endpoint, credentialId, keyKind, purpose, pairedAt⟩ := record
  have known : ((keyKinds.idxOf keyKind : Nat) : Int) < keyKinds.length := by cases keyKind <;> decide
  have kind : choose keyKinds (keyKinds.idxOf keyKind : Nat) = .ok keyKind := by cases keyKind <;> rfl
  have meant : ((purposes.idxOf purpose : Nat) : Int) < purposes.length := by cases purpose <;> decide
  have use : choose purposes (purposes.idxOf purpose : Nat) = .ok purpose := by cases purpose <;> rfl
  have fields : fromJson (toJson ⟨verifierId, verifierIdentitySpki, endpoint, credentialId, keyKind, purpose, pairedAt⟩) =
      fromFields (toBase64Url verifierIdentitySpki) (keyKinds.idxOf keyKind : Nat) (purposes.idxOf purpose : Nat)
        [("verifierId", .string verifierId), ("identitySpki", .string (toBase64Url verifierIdentitySpki)),
          ("endpoint", .string endpoint), ("credentialId", .string credentialId),
          ("keyKind", .number (keyKinds.idxOf keyKind)), ("purpose", .number (purposes.idxOf purpose)),
          ("pairedAt", .string (DartConvert.toIso8601String pairedAt))] := rfl
  rw [fields, fromFields]
  simp only [except_bind_eq_ok, except_require_eq_ok, except_pure_eq_ok, okOr_eq_ok]
  exact ⟨(), ⟨known, meant⟩, verifierId, rfl, verifierIdentitySpki, spki, endpoint, rfl, credentialId, rfl, keyKind, kind,
    purpose, use, _, rfl, pairedAt, time, rfl⟩

theorem decodeSnapshot_encodeSnapshot (reads : ReadBack records) : decodeSnapshot (encodeSnapshot records) = .ok records := by
  have each := except_mapM_eq_ok fun record (member : record ∈ records) => fromJson_toJson reads member
  rw [List.map_id'] at each
  unfold decodeSnapshot encodeSnapshot
  rw [reads.json]
  change (records.map toJson).mapM fromJson = .ok records
  rw [List.mapM_map]
  exact each

end Codec

/-- The preferences the pairings are kept in. -/
structure PairingPreferences where
  /-- `bioauth.pairings.v2` -/
  records : Option String
  /-- `bioauth.pairings.v2.previous` -/
  previousRecords : Option String
  /-- `bioauth.pairings.v1` -/
  legacyRecords : Option (List String)

inductive PairingPhase
  | migration
  | rollback
  | update
  deriving DecidableEq

inductive PairingKey
  | records
  | previousRecords
  | legacyRecords
  deriving DecidableEq

abbrev PairingProgram := Program PairingPreferences (PairingPhase × PairingKey) PairingFailure

namespace PairingStore
variable [DartConvert]

/-- A `set` of the preferences, which throws where it yields false. -/
def set (label : PairingPhase × PairingKey) (edit : PairingPreferences → PairingPreferences) (failure : PairingFailure) :
    PairingProgram Unit :=
  .change label edit fun made => if made then .done (.ok ()) else .done (.error failure)

/-- The records and the list of older versions. -/
def setRecords (phase : PairingPhase) (records : List PairingRecord) : PairingProgram Unit := do
  set (phase, .records) (fun preferences => { preferences with records := some (encodeSnapshot records) })
    (.stateError "Unable to persist pairing records" none)
  set (phase, .legacyRecords) (fun preferences => { preferences with legacyRecords := some (encodeLegacy records) })
    (.stateError "Unable to persist the pairing compatibility snapshot" none)

def persist (phase : PairingPhase) (records : List PairingRecord) : PairingProgram Unit :=
  .look fun preferences =>
    match preferences.records with
    | some current =>
      (set (phase, .previousRecords) (fun preferences => { preferences with previousRecords := some current })
        (.stateError "Unable to preserve the previous pairing store" none)).bind fun _ => setRecords phase records
    | none => setRecords phase records

def rollback (error : PairingFailure) : PairingProgram (List PairingRecord) :=
  .look fun preferences =>
    match preferences.previousRecords with
    | none => .done (.error (.stateError "Pairing store is corrupt" (some error)))
    | some previous => do
      let records ← decodeSnapshot previous
      let failed := PairingFailure.stateError "Pairing store is corrupt and rollback failed" none
      set (.rollback, .records) (fun preferences => { preferences with records := some previous }) failed
      set (.rollback, .legacyRecords) (fun preferences => { preferences with legacyRecords := some (encodeLegacy records) }) failed
      throw (.stateError "Pairing store was corrupt and rolled back" (some error))

def load : PairingProgram (List PairingRecord) :=
  .look fun preferences =>
    match preferences.records with
    | none => do
      let records ← decodeLegacy (preferences.legacyRecords.getD [])
      persist .migration records
      return records
    | some current =>
      match decodeSnapshot current with
      | .ok records => .done (.ok records)
      | .error (.unsupportedVersion version) => .done (.error (.unsupportedVersion version))
      | .error error => rollback error

/-- Points another credential of the same desktop at the address it just answered on. -/
def movedTo (existing fresh : PairingRecord) : PairingRecord :=
  if existing.verifierId = fresh.verifierId ∧ existing.verifierIdentitySpki = fresh.verifierIdentitySpki then
    { existing with endpoint := fresh.endpoint }
  else existing

def saved (record : PairingRecord) (records : List PairingRecord) : List PairingRecord :=
  (records.filter fun existing => existing.credentialId ≠ record.credentialId).map (movedTo · record) ++ [record]

def removed (verifierId : String) (records : List PairingRecord) : List PairingRecord :=
  records.filter fun existing => existing.verifierId ≠ verifierId

def save (record : PairingRecord) : PairingProgram Unit := do
  let records ← load
  persist .update (saved record records)

def remove (verifierId : String) : PairingProgram Unit := do
  let records ← load
  persist .update (removed verifierId records)

end PairingStore

end BioAuth.Mobile
