import BioAuth.Crypto
import BioAuth.Mobile.Vault
import BioAuth.Mobile.Meets
import BioAuth.Mobile.CborAgreement
import BioAuth.Protocol.Sizes
import Mathlib.Algebra.Order.BigOperators.Group.List

namespace BioAuth.Mobile
open BioAuth

/-- What is wrong with a backup file or its code. -/
inductive BackupProblem
  | notABackupCode
  | codeHasInvalidCharacter
  | codeIncomplete
  | vaultTooLarge
  | fileTruncated
  | wrongCodeOrEdited
  | contradictsItself
  | badHeader
  | schemaTooNew
  | backupTooLarge
  | notABackupFile
  | badItem
  | unknownItemKind
  | corruptContent
  deriving DecidableEq

/-- What sealing and opening throw: a `VaultExportException`, or something else. -/
inductive BackupThrown
  | problem (problem : BackupProblem)
  | other (thrown : Thrown)
  deriving DecidableEq

def vaultExportSchema : Int64 := 1

def maxExportItems : Nat := 4096

/-- The info of the key derivation. -/
def kdfInfo : Bytes := utf8 "bioauth-vault-export-v1"

/-- One item as it travels inside an export. -/
structure VaultExportItem where
  kind : VaultItemKind
  name : String
  username : String
  uri : String
  secret : String
  deriving DecidableEq

/-- What a file says about itself before anyone has the key. -/
structure VaultExportHeader where
  schema : Int64
  createdAt : DateTime
  itemCount : Int64
  deriving DecidableEq

namespace VaultExport

/-- `on CborException { throw VaultExportException(problem); }`. -/
def onCbor (problem : BackupProblem) {α : Type} (result : Except BackupThrown α) : Except BackupThrown α :=
  result.mapError fun
    | .other (.refusal (.cborException _)) => .problem problem
    | thrown => thrown

def reading {α : Type} (call : Fallible CborReader Thrown α) : Fallible CborReader BackupThrown α :=
  call.mapError .other

def encodeHeader (salt nonce : Bytes) (createdAt : DateTime) (itemCount : Nat) : Except Refusal Bytes := do
  return [CborWriter.array 5, ← CborWriter.uint vaultExportSchema, CborWriter.bytes salt, CborWriter.bytes nonce,
    CborWriter.int64 createdAt.millisecondsSinceEpoch, ← CborWriter.uint (Int64.ofNat itemCount)].flatten

def encodeItem (item : VaultExportItem) : Except Refusal Bytes := do
  return [CborWriter.array 5, ← CborWriter.uint item.kind.wire, CborWriter.text item.name,
    CborWriter.text item.username, CborWriter.text item.uri, CborWriter.text item.secret].flatten

def encodeItems (items : List VaultExportItem) : Except Refusal Bytes := do
  return CborWriter.array items.length ++ (← items.mapM encodeItem).flatten

def readSplit : Fallible CborReader BackupThrown (Bytes × Bytes) := do
  require ((← reading CborReader.array) = 2) (.problem .notABackupFile)
  let header ← reading CborReader.bytes
  let sealed ← reading CborReader.bytes
  reading CborReader.finish
  return (header, sealed)

def split (file : Bytes) : Except BackupThrown (Bytes × Bytes) :=
  onCbor .notABackupFile (readSplit (.of (.ofBytes file))).1

def readHeader : Fallible CborReader BackupThrown VaultExportHeader := do
  require ((← reading CborReader.array) = 5) (.problem .badHeader)
  let schema ← reading CborReader.uint
  require (schema = vaultExportSchema) (.problem .schemaTooNew)
  let _ ← reading CborReader.bytes
  let _ ← reading CborReader.bytes
  let createdAtMs ← reading CborReader.int64
  let itemCount ← reading CborReader.uint
  reading CborReader.finish
  require (itemCount.toInt ≤ maxExportItems) (.problem .backupTooLarge)
  let createdAt ← liftM ((DateTime.fromMillisecondsSinceEpoch createdAtMs).mapError BackupThrown.other)
  return { schema, createdAt, itemCount }

def decodeHeader (header : Bytes) : Except BackupThrown VaultExportHeader :=
  onCbor .badHeader (readHeader (.of (.ofBytes header))).1

/-- The salt and the nonce of a header that has been checked. -/
def readKeying : Fallible CborReader BackupThrown (Bytes × Bytes) := do
  let _ ← reading CborReader.array
  let _ ← reading CborReader.uint
  let salt ← reading CborReader.bytes
  let nonce ← reading CborReader.bytes
  return (salt, nonce)

/-- `VaultItemKind.values[kind]`, with the check before it. -/
def kindOf (kind : Int64) : Except BackupThrown VaultItemKind :=
  if kind = 0 then .ok .login
  else if kind = 1 then .ok .note
  else if kind = 2 then .ok .totp
  else .error (.problem .unknownItemKind)

def readItem : Fallible CborReader BackupThrown VaultExportItem := do
  require ((← reading CborReader.array) = 5) (.problem .badItem)
  let kind ← liftM (kindOf (← reading CborReader.uint))
  let name ← reading CborReader.text
  let username ← reading CborReader.text
  let uri ← reading CborReader.text
  let secret ← reading CborReader.text
  return { kind, name, username, uri, secret }

def readItems : Fallible CborReader BackupThrown (List VaultExportItem) := do
  let count ← reading CborReader.array
  require (count.toInt ≤ maxExportItems) (.problem .backupTooLarge)
  let items ← Fallible.times readItem count.toInt.toNat
  reading CborReader.finish
  return items

def decodeItems (payload : Bytes) : Except BackupThrown (List VaultExportItem) :=
  onCbor .corruptContent (readItems (.of (.ofBytes payload))).1

section Seal
variable [Crypto]

/-- `_derive`. -/
def derive (key : Block 32) (salt : Bytes) : Block 32 := Crypto.hkdf salt key.val kdfInfo 32

/-- `Chacha20.poly1305Aead().decrypt`, which takes no nonce of another length. -/
def decrypt (key : Block 32) (salt nonce header sealed : Bytes) : Option Bytes :=
  if length : nonce.length = 12 then Crypto.chacha20Poly1305.decrypt (derive key salt) ⟨nonce, length⟩ header sealed
  else none

end Seal

end VaultExport

/-- Reads what a file says about itself, without the key. -/
def inspectVaultExport (file : Bytes) : Except BackupThrown VaultExportHeader := do
  let (header, _) ← VaultExport.split file
  VaultExport.decodeHeader header

section Seal
variable [Crypto]
open VaultExport

def sealVaultExport (items : List VaultExportItem) (key : Block 32) (createdAt : DateTime) (salt : Block 16)
    (nonce : Block 12) : Except BackupThrown Bytes := do
  require (items.length ≤ maxExportItems) (.problem .vaultTooLarge)
  let header ← (encodeHeader salt.val nonce.val createdAt items.length).mapError fun refusal => .other (.refusal refusal)
  let payload ← (encodeItems items).mapError fun refusal => .other (.refusal refusal)
  let sealed := Crypto.chacha20Poly1305.encrypt (derive key salt.val) nonce header payload
  return [CborWriter.array 2, CborWriter.bytes header, CborWriter.bytes sealed].flatten

def openVaultExport (file : Bytes) (key : Block 32) : Except BackupThrown (List VaultExportItem) := do
  let (header, sealed) ← split file
  let described ← decodeHeader header
  require (16 ≤ sealed.length) (.problem .fileTruncated)
  let (salt, nonce) ← (readKeying (.of (.ofBytes header))).1
  let plaintext ← okOr (.problem .wrongCodeOrEdited) (decrypt key salt nonce header sealed)
  let items ← decodeItems plaintext
  require ((items.length : Int) = described.itemCount.toInt) (.problem .contradictsItself)
  return items

end Seal

namespace VaultExport

/-- On the spelling the call brings the value and stands behind it, whatever follows. -/
structure Yields {ε α : Type} (call : Fallible CborReader ε α) (spelling : Bytes) (value : α) : Prop where
  run {reader after : CborReader} (past : reader.Past spelling after) : call reader = (.ok value, after)

namespace Yields
variable {ε α β : Type}

theorem bind {call : Fallible CborReader ε α} {f : α → Fallible CborReader ε β} {front back : Bytes} {a : α} {b : β}
    (first : Yields call front a) (next : Yields (f a) back b) : Yields (call >>= f) (front ++ back) b where
  run {reader after} past := by
    obtain ⟨mid, before, behind⟩ := past.split
    rw [Fallible.bind_run_ok f (first.run before)]
    exact next.run behind

theorem pure (a : α) : Yields (Pure.pure a : Fallible CborReader ε α) [] a where
  run {reader after} past := by
    have here : reader.Past [] reader := CborReader.past_iff.mpr ⟨rfl, rfl⟩
    rw [Fallible.pure_run, past.unique here]

theorem require {check : Prop} [Decidable check] {e : ε} {call : Fallible CborReader ε β} {spelling : Bytes} {b : β}
    (holds : check) (next : Yields call spelling b) : Yields (BioAuth.require check e >>= fun _ => call) spelling b where
  run past := Fallible.require_bind_eq_ok.mpr ⟨holds, next.run past⟩

theorem liftM {result : Except ε α} {f : α → Fallible CborReader ε β} {spelling : Bytes} {a : α} {b : β}
    (known : result = .ok a) (next : Yields (f a) spelling b) : Yields (MonadLift.monadLift result >>= f) spelling b where
  run past := Fallible.liftM_bind_eq_ok.mpr ⟨a, known, next.run past⟩

theorem trailing {call : Fallible CborReader ε α} {spelling : Bytes} {a : α} (yields : Yields call (spelling ++ []) a) :
    Yields call spelling a := by
  rwa [List.append_nil] at yields

theorem of_meets {call : Fallible CborReader Thrown α} {spelling : Bytes} {result : α → Prop} {a : α}
    (meets : Meets call spelling result) (good : result a) : Yields (reading call) spelling a where
  run past := Fallible.mapError_eq_ok.mpr ((meets.run_iff past).mpr ⟨good, rfl⟩)

theorem array {count : Nat} (small : count < 2 ^ 63) :
    Yields (reading CborReader.array) (CborWriter.array count) (Int64.ofNat count) := by
  have whole : (UInt64.ofNat count).toNat = count := by
    rw [UInt64.toNat_ofNat']
    omega
  have same : CborWriter.array count = Writer.array (UInt64.ofNat count) := CborWriter.head_ofNat majorArray small
  rw [same]
  exact of_meets (.array _) (by rw [whole]; exact ⟨small, rfl⟩)

theorem number {value : Int64} {spelling : Bytes} (written : CborWriter.uint value = .ok spelling) :
    Yields (reading CborReader.uint) spelling value := by
  have nonneg : 0 ≤ value.toInt := by
    by_contra negative
    rw [CborWriter.uint, if_pos (by omega)] at written
    cases written
  have largest := value.toInt_lt
  have whole : (UInt64.ofNat value.toInt.toNat).toNat = value.toInt.toNat := by
    rw [UInt64.toNat_ofNat']
    omega
  rw [CborWriter.uint_eq nonneg] at written
  cases written
  refine of_meets (.uint _) ?_
  rw [whole]
  refine ⟨by omega, ?_⟩
  rw [← CborReader.ofInt_natCast, Int.toNat_of_nonneg nonneg, Int64.ofInt_toInt]

theorem int (value : Int64) : Yields (reading CborReader.int64) (CborWriter.int64 value) value := by
  rw [CborWriter.int64_eq]
  exact of_meets (.int value) rfl

theorem bytes {value : Bytes} (small : value.length < 2 ^ 63) :
    Yields (reading CborReader.bytes) (CborWriter.bytes value) value := by
  rw [CborWriter.bytes_eq small]
  exact of_meets (.bytes value) rfl

/-- A text comes back unless it starts with a byte order mark. -/
theorem text {value : String} (small : (utf8 value).length < 2 ^ 63) (unmarked : dropMark value = value) :
    Yields (reading CborReader.text) (CborWriter.text value) value := by
  rw [CborWriter.text_eq small]
  exact of_meets (.text value) unmarked.symm

theorem times {γ : Type} {call : Fallible CborReader ε α} {spell : γ → Bytes} {value : γ → α} (items : List γ)
    (each : ∀ item ∈ items, Yields call (spell item) (value item)) :
    Yields (Fallible.times call items.length) (items.flatMap spell) (items.map value) := by
  induction items with
  | nil => exact .pure []
  | cons item items ih =>
    rw [List.forall_mem_cons] at each
    rw [List.length_cons, Fallible.times, List.flatMap_cons, List.map_cons]
    refine each.1.bind ?_
    have rest : Yields (Fallible.times call items.length >>= fun rest => Pure.pure (value item :: rest))
        (items.flatMap spell ++ []) (value item :: items.map value) := (ih each.2).bind (.pure _)
    exact rest.trailing

end Yields

/-- On the spelling, and nothing behind it, the call brings the value. -/
structure Finishes {ε α : Type} (call : Fallible CborReader ε α) (spelling : Bytes) (value : α) : Prop where
  run {reader after : CborReader} (past : reader.Past spelling after) (last : after.rest = []) :
    (call reader).1 = .ok value

namespace Finishes
variable {ε α β : Type}

theorem bind {call : Fallible CborReader ε α} {f : α → Fallible CborReader ε β} {front back : Bytes} {a : α} {b : β}
    (first : Yields call front a) (next : Finishes (f a) back b) : Finishes (call >>= f) (front ++ back) b where
  run {reader after} past last := by
    obtain ⟨mid, before, behind⟩ := past.split
    rw [Fallible.bind_run_ok f (first.run before)]
    exact next.run behind last

theorem require {check : Prop} [Decidable check] {e : ε} {call : Fallible CborReader ε β} {spelling : Bytes} {b : β}
    (holds : check) (next : Finishes call spelling b) :
    Finishes (BioAuth.require check e >>= fun _ => call) spelling b where
  run {reader after} past last := by
    have passed : (BioAuth.require check e : Fallible CborReader ε Unit) reader = (.ok (), reader) :=
      Fallible.require_eq_ok.mpr ⟨holds, rfl⟩
    rw [Fallible.bind_run_ok _ passed]
    exact next.run past last

theorem finish {f : Fallible CborReader BackupThrown β} {b : β} (next : ∀ reader, (f reader).1 = .ok b) :
    Finishes (reading CborReader.finish >>= fun _ => f) [] b where
  run {reader after} past last := by
    have done : reading CborReader.finish reader = (.ok (), reader) :=
      Fallible.mapError_eq_ok.mpr (CborReader.finish_eq_ok.mpr ⟨by rw [past.rest, last, List.append_nil], rfl⟩)
    rw [Fallible.bind_run_ok _ done]
    exact next reader

theorem whole {call : Fallible CborReader ε α} {spelling : Bytes} {a : α} (finishes : Finishes call (spelling ++ []) a)
    (short : spelling.length < 2 ^ 62) : (call (.of (.ofBytes spelling))).1 = .ok a := by
  have octets := Uint8List.ofBytes_octets short
  rw [List.append_nil] at finishes
  have all : (CborReader.of (.ofBytes spelling)).rest = spelling ++ [] := by
    rw [List.append_nil]
    exact octets
  have past := CborReader.past_of_front all
  exact finishes.run past (List.append_cancel_left (past.rest.symm.trans all))

end Finishes

theorem head_length_le (major : Nat) (argument : Int64) : (CborWriter.head major argument).length ≤ 9 := by
  unfold CborWriter.head
  dsimp only
  split_ifs <;> simp

theorem text_length_le {value : String} {max : Nat} (units : utf16Len value ≤ max) :
    (CborWriter.text value).length ≤ 9 + 3 * max := by
  have head := head_length_le majorText (Int64.ofNat (utf8 value).length)
  have octets := utf8_length_le value
  rw [CborWriter.text, List.length_append]
  omega

theorem bytes_length_le (value : Bytes) : (CborWriter.bytes value).length ≤ 9 + value.length := by
  have head := head_length_le majorBytes (Int64.ofNat value.length)
  rw [CborWriter.bytes, List.length_append]
  omega

theorem uint_length_le {value : Int64} {spelling : Bytes} (written : CborWriter.uint value = .ok spelling) :
    spelling.length ≤ 9 := by
  unfold CborWriter.uint at written
  split at written
  · cases written
  · cases written
    exact head_length_le _ _

theorem onCbor_ok {problem : BackupProblem} {α : Type} {a : α} {result : Except BackupThrown α} (run : result = .ok a) :
    onCbor problem result = .ok a := by
  rw [run]
  rfl

theorem split_written {header sealed : Bytes} (short : header.length < 2 ^ 60) (brief : sealed.length < 2 ^ 60) :
    split [CborWriter.array 2, CborWriter.bytes header, CborWriter.bytes sealed].flatten = .ok (header, sealed) := by
  refine onCbor_ok (Finishes.whole ?_ ?_)
  · simp only [List.flatten_cons, List.flatten_nil, List.append_assoc]
    refine .bind (.array (by decide)) (.require rfl (.bind (.bytes (by omega)) (.bind (.bytes (by omega)) ?_)))
    exact .finish fun _ => rfl
  · have head := head_length_le majorArray (Int64.ofNat 2)
    have first := bytes_length_le header
    have second := bytes_length_le sealed
    simp only [List.flatten_cons, List.flatten_nil, List.length_append, List.length_nil, CborWriter.array]
    omega

theorem encodeHeader_eq_ok {salt nonce : Bytes} {createdAt : DateTime} {itemCount : Nat} {header : Bytes}
    (written : encodeHeader salt nonce createdAt itemCount = .ok header) :
    ∃ schema count, CborWriter.uint vaultExportSchema = .ok schema ∧
      CborWriter.uint (Int64.ofNat itemCount) = .ok count ∧
      header = CborWriter.array 5 ++ (schema ++ (CborWriter.bytes salt ++ (CborWriter.bytes nonce ++
        (CborWriter.int64 createdAt.millisecondsSinceEpoch ++ (count ++ []))))) := by
  simp only [encodeHeader, except_bind_eq_ok, except_pure_eq_ok, List.flatten_cons, List.flatten_nil] at written
  obtain ⟨schema, atSchema, count, atCount, same⟩ := written
  exact ⟨schema, count, atSchema, atCount, same.symm⟩

section Header
variable {salt : Block 16} {nonce : Block 12} {createdAt : DateTime} {itemCount : Nat} {header : Bytes}

theorem header_short (written : encodeHeader salt.val nonce.val createdAt itemCount = .ok header) :
    header.length < 2 ^ 60 := by
  obtain ⟨schema, count, atSchema, atCount, rfl⟩ := encodeHeader_eq_ok written
  have head := head_length_le majorArray (Int64.ofNat 5)
  have one := uint_length_le atSchema
  have two := uint_length_le atCount
  have first := bytes_length_le salt.val
  have second := bytes_length_le nonce.val
  have time : (CborWriter.int64 createdAt.millisecondsSinceEpoch).length ≤ 9 := by
    unfold CborWriter.int64
    split
    · exact head_length_le _ _
    · exact head_length_le _ _
  have saltLength := salt.property
  have nonceLength := nonce.property
  simp only [List.length_append, List.length_nil, CborWriter.array]
  omega

theorem decodeHeader_written (few : itemCount ≤ maxExportItems)
    (written : encodeHeader salt.val nonce.val createdAt itemCount = .ok header) :
    ∃ described, decodeHeader header = .ok described ∧ described.itemCount.toInt = itemCount := by
  have short := header_short written
  obtain ⟨schema, count, atSchema, atCount, rfl⟩ := encodeHeader_eq_ok written
  have ceiling : maxExportItems = 4096 := rfl
  have whole : (Int64.ofNat itemCount).toInt = itemCount := Int64.toInt_ofNat_of_lt (by omega)
  refine ⟨⟨vaultExportSchema, createdAt, Int64.ofNat itemCount⟩, onCbor_ok (Finishes.whole ?_ (by omega)), whole⟩
  have saltLength := salt.property
  have nonceLength := nonce.property
  rw [List.append_nil]
  refine .bind (.array (by decide)) (.require rfl (.bind (.number atSchema) (.require rfl ?_)))
  refine .bind (.bytes (by omega)) (.bind (.bytes (by omega)) (.bind (.int _) (.bind (.number atCount) ?_)))
  refine .finish fun reader => ?_
  have time := DateTime.fromMillisecondsSinceEpoch_eq_ok.mpr (rfl : createdAt.millisecondsSinceEpoch = _)
  refine congrArg Prod.fst (Fallible.require_bind_eq_ok.mpr ⟨by omega, Fallible.liftM_bind_eq_ok.mpr ⟨createdAt, ?_, rfl⟩⟩)
  rw [time]
  rfl

theorem readKeying_written (written : encodeHeader salt.val nonce.val createdAt itemCount = .ok header) :
    (readKeying (.of (.ofBytes header))).1 = .ok (salt.val, nonce.val) := by
  have short := header_short written
  have octets : (Uint8List.ofBytes header).octets = header := Uint8List.ofBytes_octets (by omega)
  obtain ⟨schema, count, atSchema, atCount, same⟩ := encodeHeader_eq_ok written
  have saltLength := salt.property
  have nonceLength := nonce.property
  have yields : Yields readKeying
      (CborWriter.array 5 ++ (schema ++ (CborWriter.bytes salt ++ (CborWriter.bytes nonce ++ []))))
      (salt.val, nonce.val) :=
    .bind (.array (by decide)) (.bind (.number atSchema) (.bind (.bytes (by omega)) (.bind (.bytes (by omega)) (.pure _))))
  have front : (CborReader.of (.ofBytes header)).rest =
      (CborWriter.array 5 ++ (schema ++ (CborWriter.bytes salt ++ (CborWriter.bytes nonce ++ [])))) ++
        (CborWriter.int64 createdAt.millisecondsSinceEpoch ++ (count ++ [])) := by
    simp only [List.append_nil, List.append_assoc] at same ⊢
    exact octets.trans same
  exact congrArg Prod.fst (yields.run (CborReader.past_of_front front))

end Header

section Items

/-- The bounds of the store, which keep an export small, and no text that starts with a byte order mark. -/
structure Plain (item : VaultExportItem) : Prop where
  units : utf16Len item.name ≤ 255 ∧ utf16Len item.username ≤ 255 ∧ utf16Len item.uri ≤ 1024 ∧
    utf16Len item.secret ≤ 4096
  unmarked : dropMark item.name = item.name ∧ dropMark item.username = item.username ∧
    dropMark item.uri = item.uri ∧ dropMark item.secret = item.secret

/-- What `encodeItem` writes. -/
def spellItem (item : VaultExportItem) : Bytes :=
  CborWriter.array 5 ++ (CborWriter.head majorUint item.kind.wire ++ (CborWriter.text item.name ++
    (CborWriter.text item.username ++ (CborWriter.text item.uri ++ (CborWriter.text item.secret ++ [])))))

theorem uint_wire (kind : VaultItemKind) : CborWriter.uint kind.wire = .ok (CborWriter.head majorUint kind.wire) := by
  cases kind <;> rfl

theorem kindOf_wire (kind : VaultItemKind) : kindOf kind.wire = .ok kind := by
  cases kind <;> rfl

theorem encodeItem_eq (item : VaultExportItem) : encodeItem item = .ok (spellItem item) := by
  rw [encodeItem, uint_wire]
  rfl

theorem encodeItems_eq (items : List VaultExportItem) :
    encodeItems items = .ok (CborWriter.array items.length ++ items.flatMap spellItem) := by
  have each : items.mapM encodeItem = .ok (items.map spellItem) := except_mapM_eq_ok fun item _ => encodeItem_eq item
  rw [encodeItems, each]
  rfl

theorem spellItem_length_le {item : VaultExportItem} (plain : Plain item) : (spellItem item).length ≤ 2 ^ 20 := by
  obtain ⟨name, username, uri, secret⟩ := plain.units
  have head := head_length_le majorArray (Int64.ofNat 5)
  have kind := head_length_le majorUint item.kind.wire
  have one := text_length_le name
  have two := text_length_le username
  have three := text_length_le uri
  have four := text_length_le secret
  simp only [spellItem, List.length_append, List.length_nil, CborWriter.array]
  omega

theorem items_short {items : List VaultExportItem} (few : items.length ≤ maxExportItems) (plain : ∀ item ∈ items, Plain item) :
    (CborWriter.array items.length ++ items.flatMap spellItem).length < 2 ^ 50 := by
  have head := head_length_le majorArray (Int64.ofNat items.length)
  have ceiling : maxExportItems = 4096 := rfl
  have sum : (items.flatMap spellItem).length ≤ items.length * 2 ^ 20 := by
    induction items with
    | nil => exact Nat.zero_le _
    | cons item items ih =>
      rw [List.forall_mem_cons] at plain
      rw [List.length_cons] at few
      have first := spellItem_length_le plain.1
      have rest := ih (by omega) plain.2 (head_length_le _ _)
      rw [List.flatMap_cons, List.length_append, List.length_cons]
      omega
  rw [List.length_append, CborWriter.array]
  omega

theorem readItem_spelled {item : VaultExportItem} (plain : Plain item) : Yields readItem (spellItem item) item := by
  obtain ⟨name, username, uri, secret⟩ := plain.units
  obtain ⟨atName, atUsername, atUri, atSecret⟩ := plain.unmarked
  have short {value : String} {max : Nat} (units : utf16Len value ≤ max) (within : max ≤ 4096) :
      (utf8 value).length < 2 ^ 63 := by
    have octets := utf8_length_le value
    omega
  refine .bind (.array (by decide)) (.require rfl (.bind (.number (uint_wire _)) (.liftM (kindOf_wire _) ?_)))
  refine .bind (.text (short name (by decide)) atName) (.bind (.text (short username (by decide)) atUsername) ?_)
  exact .bind (.text (short uri (by decide)) atUri) (.bind (.text (short secret (by decide)) atSecret) (.pure _))

theorem decodeItems_written {items : List VaultExportItem} (few : items.length ≤ maxExportItems)
    (plain : ∀ item ∈ items, Plain item) {payload : Bytes} (written : encodeItems items = .ok payload) :
    decodeItems payload = .ok items := by
  have short := items_short few plain
  rw [encodeItems_eq] at written
  cases written
  have ceiling : maxExportItems = 4096 := rfl
  have whole : (Int64.ofNat items.length).toInt = items.length := Int64.toInt_ofNat_of_lt (by omega)
  have each : Yields (Fallible.times readItem items.length) (items.flatMap spellItem) (items.map id) :=
    .times items fun item member => readItem_spelled (plain item member)
  refine onCbor_ok (Finishes.whole ?_ (by omega))
  rw [List.append_assoc]
  refine .bind (.array (by omega)) (.require (by omega) ?_)
  rw [whole, Int.toNat_natCast]
  rw [List.map_id] at each
  exact .bind each (.finish fun _ => rfl)

end Items

/-- What is sealed is opened as it was, unless a text of it starts with a byte order mark. -/
theorem openVaultExport_sealVaultExport [Crypto] (correct : Crypto.chacha20Poly1305.Correct tagLen)
    {items : List VaultExportItem} (few : items.length ≤ maxExportItems) (plain : ∀ item ∈ items, Plain item)
    (key : Block 32) (createdAt : DateTime) (salt : Block 16) (nonce : Block 12) :
    ∃ file, sealVaultExport items key createdAt salt nonce = .ok file ∧ openVaultExport file key = .ok items := by
  have written := encodeItems_eq items
  have brief := items_short few plain
  obtain ⟨header, atHeader⟩ : ∃ header, encodeHeader salt.val nonce.val createdAt items.length = .ok header := by
    have count : CborWriter.uint (Int64.ofNat items.length) = .ok (CborWriter.head majorUint (Int64.ofNat items.length)) := by
      have ceiling : maxExportItems = 4096 := rfl
      have whole : (Int64.ofNat items.length).toInt = items.length := Int64.toInt_ofNat_of_lt (by omega)
      rw [CborWriter.uint, if_neg (by omega)]
    rw [encodeHeader, count]
    exact ⟨_, rfl⟩
  obtain ⟨described, atDescribed, counted⟩ := decodeHeader_written few atHeader
  have length := correct.encrypt_length (derive key salt.val) nonce header
    (CborWriter.array items.length ++ items.flatMap spellItem)
  have tag : tagLen = 16 := rfl
  refine ⟨[CborWriter.array 2, CborWriter.bytes header, CborWriter.bytes (Crypto.chacha20Poly1305.encrypt
    (derive key salt.val) nonce header (CborWriter.array items.length ++ items.flatMap spellItem))].flatten, ?_, ?_⟩
  · simp only [sealVaultExport, atHeader, written, except_bind_eq_ok, except_require_eq_ok, except_mapError_eq_ok,
      except_pure_eq_ok, Except.ok.injEq, exists_eq_left', exists_const]
    exact ⟨few, trivial⟩
  · have opened : decrypt key salt.val nonce.val header (Crypto.chacha20Poly1305.encrypt (derive key salt.val) nonce header
        (CborWriter.array items.length ++ items.flatMap spellItem)) =
          some (CborWriter.array items.length ++ items.flatMap spellItem) := by
      rw [decrypt, dif_pos nonce.property]
      exact correct.decrypt_encrypt _ _ _ _
    simp only [openVaultExport, except_bind_eq_ok, except_require_eq_ok, okOr_eq_ok, except_pure_eq_ok, exists_const]
    have tagged : 16 ≤ (Crypto.chacha20Poly1305.encrypt (derive key salt.val) nonce header
        (CborWriter.array items.length ++ items.flatMap spellItem)).length := by omega
    refine ⟨(header, _), split_written (header_short atHeader) (by omega), described, atDescribed, tagged,
      (salt.val, nonce.val), readKeying_written atHeader, _, opened, items, decodeItems_written few plain written, ?_, rfl⟩
    exact counted.symm

end VaultExport

end BioAuth.Mobile
