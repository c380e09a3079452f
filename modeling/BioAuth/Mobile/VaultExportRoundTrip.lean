import BioAuth.Mobile.VaultExportFiles

namespace BioAuth.Mobile
open BioAuth

/-- The item a text decoder makes of an item: no text of it keeps a byte order mark at its front. -/
def VaultExportItem.unmarked (item : VaultExportItem) : VaultExportItem where
  kind := item.kind
  name := dropMark item.name
  username := dropMark item.username
  uri := dropMark item.uri
  secret := dropMark item.secret

namespace VaultExport

/-- A vault to seal, with what the seal draws. -/
structure Export where
  items : List VaultExportItem
  key : Block 32
  createdAt : DateTime
  salt : Block 16
  nonce : Block 12

namespace Export

/-- What `_encodeHeader` writes. -/
def header (e : Export) : Bytes :=
  headerOf e.salt.val e.nonce.val e.createdAt.millisecondsSinceEpoch (UInt64.ofNat e.items.length)

/-- What `_encodeItems` writes. -/
def payload (e : Export) : Bytes := CborWriter.array e.items.length ++ e.items.flatMap spellItem

/-- A vault the phone exports: it has no more items than it may, and its payload is in memory. -/
structure Fits (e : Export) : Prop where
  few : e.items.length ≤ maxExportItems
  short : e.payload.length < 2 ^ 62

section Seal
variable [Crypto]

def file (e : Export) : Except BackupThrown Bytes := sealVaultExport e.items e.key e.createdAt e.salt e.nonce

def sealing (e : Export) : Sealing (Block 32) (Block 12) := ⟨derive e.key e.salt.val, e.nonce, e.header, e.payload⟩

/-- The file is this export sealed, under this key, and these are its items. -/
structure Opens (e : Export) (file : Bytes) (key : Block 32) (items : List VaultExportItem) : Prop where
  file : e.file = .ok file
  key : e.key = key
  items : items = e.items.map VaultExportItem.unmarked

end Seal

end Export

section Seal
variable [Crypto]

/-- The seals that the phone has put on these exports. -/
def SealedBy (made : Export → Prop) (sealing : Sealing (Block 32) (Block 12)) : Prop :=
  ∃ e, made e ∧ e.Fits ∧ sealing = e.sealing

/-- What is asked of the primitives: the cipher is ideal, and no two keys at hand derive one key. -/
structure Unforgeable (made : Export → Prop) (keys : Set (Block 32)) : Prop where
  ideal : Crypto.chacha20Poly1305.Ideal (SealedBy made)
  apart : ∀ salt, Set.InjOn (fun key => derive key salt) keys
  held : ∀ e, made e → e.key ∈ keys

end Seal

section Items

theorem text_yields {value : String} (small : (utf8 value).length < 2 ^ 63) :
    Yields (reading CborReader.text) (CborWriter.text value) (dropMark value) := by
  rw [CborWriter.text_eq small]
  exact .of_meets (.text value) rfl

theorem readItem_unmarked {item : VaultExportItem} (short : (spellItem item).length < 2 ^ 62) :
    Yields readItem (spellItem item) item.unmarked := by
  simp only [spellItem, CborWriter.text, List.length_append] at short
  refine .bind (.array (by decide)) (.require rfl (.bind (.number (uint_wire item.kind)) (.liftM (kindOf_wire _) ?_)))
  refine .bind (text_yields (by omega)) (.bind (text_yields (by omega)) ?_)
  exact .bind (text_yields (by omega)) (.bind (text_yields (by omega)) (.pure _))

/-- A payload is read as its items without their marks. -/
theorem decodeItems_payload {e : Export} (fits : e.Fits) : decodeItems e.payload = .ok (e.items.map VaultExportItem.unmarked) := by
  have few := fits.few
  have short := fits.short
  have ceiling : maxExportItems = 4096 := rfl
  have whole : (Int64.ofNat e.items.length).toInt = e.items.length := Int64.toInt_ofNat_of_lt (by omega)
  have each : Yields (Fallible.times readItem e.items.length) (e.items.flatMap spellItem)
      (e.items.map VaultExportItem.unmarked) := by
    refine .times e.items fun item member => readItem_unmarked ?_
    have inside : List.Sublist (spellItem item) (e.items.flatMap spellItem) := by
      rw [List.flatMap_def]
      exact List.sublist_flatten_of_mem (List.mem_map_of_mem member)
    have length := inside.length_le
    rw [Export.payload, List.length_append] at short
    omega
  refine onCbor_ok (Finishes.whole ?_ short)
  rw [Export.payload, List.append_assoc]
  refine .bind (.array (by omega)) (.require (by omega) ?_)
  rw [whole, Int.toNat_natCast]
  exact .bind each (.finish fun _ => rfl)

end Items

section Sealed
variable {e : Export}

theorem encodeHeader_export (few : e.items.length ≤ maxExportItems) :
    encodeHeader e.salt.val e.nonce.val e.createdAt e.items.length = .ok e.header := by
  have ceiling : maxExportItems = 4096 := rfl
  have whole : (Int64.ofNat e.items.length).toInt = e.items.length := Int64.toInt_ofNat_of_lt (by omega)
  have count : CborWriter.uint (Int64.ofNat e.items.length) = .ok (Writer.uint (UInt64.ofNat e.items.length)) := by
    rw [CborWriter.uint_eq (by omega), whole, Int.toNat_natCast]
  have schema : CborWriter.uint vaultExportSchema = .ok (Writer.uint 1) := rfl
  have five : CborWriter.array 5 = Writer.array 5 := CborWriter.head_ofNat majorArray (by decide)
  have saltLength := e.salt.property
  have nonceLength := e.nonce.property
  rw [encodeHeader, count, schema, five, CborWriter.bytes_eq (by omega), CborWriter.bytes_eq (by omega), CborWriter.int64_eq]
  rfl

/-- What sealing writes. -/
theorem file_eq [Crypto] (few : e.items.length ≤ maxExportItems) :
    e.file = .ok [CborWriter.array 2, CborWriter.bytes e.header,
      CborWriter.bytes (Crypto.chacha20Poly1305.ciphertext e.sealing)].flatten := by
  simp only [Export.file, sealVaultExport, encodeHeader_export few, encodeItems_eq, except_bind_eq_ok,
    except_require_eq_ok, except_mapError_eq_ok, except_pure_eq_ok, Except.ok.injEq, exists_eq_left', exists_const]
  exact ⟨few, rfl⟩

/-- A file in memory is spelled as any file is. -/
theorem fileOf_written {header sealed : Bytes} (short : header.length < 2 ^ 62) (brief : sealed.length < 2 ^ 62) :
    [CborWriter.array 2, CborWriter.bytes header, CborWriter.bytes sealed].flatten = fileOf header sealed := by
  have two : CborWriter.array 2 = Writer.array 2 := CborWriter.head_ofNat majorArray (by decide)
  rw [two, CborWriter.bytes_eq (by omega), CborWriter.bytes_eq (by omega)]
  rfl

theorem header_length (few : e.items.length ≤ maxExportItems) : e.header.length < 2 ^ 60 :=
  header_short (encodeHeader_export few)

/-- A header has one salt and one nonce. -/
theorem headerOf_keying {salt nonce other another : Bytes} {ms later : Int64} {count total : UInt64}
    (short : (headerOf salt nonce ms count).length < 2 ^ 62)
    (same : headerOf salt nonce ms count = headerOf other another later total) : salt = other ∧ nonce = another := by
  have one := readKeying_spelled ⟨headerOf salt nonce ms count, short⟩ rfl
  have two := readKeying_spelled ⟨headerOf salt nonce ms count, short⟩ same
  exact Prod.mk.inj (Except.ok.inj (one.symm.trans two))

end Sealed

section Open
variable [Crypto] {file : Uint8List} {key : Block 32} {items : List VaultExportItem}

/-- A file that is opened is in order, and its payload is decrypted under its own header. -/
theorem openVaultExport_eq_ok :
    openVaultExport file.octets key = .ok items ↔
      ∃ salt nonce ms sealed plaintext, ∃ count : UInt64, file.octets = fileOf (headerOf salt nonce ms count) sealed ∧
        count.toNat ≤ maxExportItems ∧ DateTime.Reaches ms ∧ 16 ≤ sealed.length ∧
        decrypt key salt nonce (headerOf salt nonce ms count) sealed = some plaintext ∧
        decodeItems plaintext = .ok items ∧ items.length = count.toNat := by
  have ceiling : maxExportItems = 4096 := rfl
  rw [openVaultExport_eq]
  simp only [except_bind_eq_ok]
  constructor
  · rintro ⟨⟨header, sealed⟩, run, described, read, opened⟩
    have spelled := split_eq_ok.mp run
    obtain ⟨salt, nonce, count, same, few, -, number⟩ := (decodeHeader_eq_ok ⟨header, fileOf_short spelled⟩).mp read
    dsimp only at same opened
    subst same
    have keying := readKeying_spelled ⟨_, fileOf_short spelled⟩ rfl
    simp only [openSealed, keying, except_bind_eq_ok, except_require_eq_ok, okOr_eq_ok, exists_const, Except.ok.injEq,
      exists_eq_left'] at opened
    obtain ⟨tagged, plaintext, decrypted, contents, decoded, agree, last⟩ := opened
    cases last
    rw [number, Int64.toInt_ofNat_of_lt (by omega)] at agree
    exact ⟨salt, nonce, _, sealed, plaintext, count, spelled, few, described.createdAt.within, tagged, decrypted, decoded,
      by omega⟩
  · rintro ⟨salt, nonce, ms, sealed, plaintext, count, spelled, few, reaches, tagged, decrypted, decoded, agree⟩
    let header : Uint8List := ⟨headerOf salt nonce ms count, fileOf_short spelled⟩
    let described : VaultExportHeader := ⟨vaultExportSchema, ⟨ms, reaches⟩, Int64.ofNat count.toNat⟩
    have read : decodeHeader header.octets = .ok described :=
      (decodeHeader_eq_ok header).mpr ⟨salt, nonce, count, rfl, few, rfl, rfl⟩
    have keying := readKeying_spelled header rfl
    have whole : (Int64.ofNat count.toNat).toInt = count.toNat := Int64.toInt_ofNat_of_lt (by omega)
    refine ⟨(header.octets, sealed), split_eq_ok.mpr spelled, described, read, ?_⟩
    simp only [openSealed, keying, except_bind_eq_ok, except_require_eq_ok, okOr_eq_ok, exists_const, Except.ok.injEq,
      exists_eq_left']
    refine ⟨tagged, plaintext, decrypted, items, decoded, ?_, rfl⟩
    rw [show described.itemCount = Int64.ofNat count.toNat from rfl, whole, agree]

/-- A file as it was sealed opens to its items without their marks. -/
theorem open_sealed (correct : Crypto.chacha20Poly1305.Correct tagLen) {e : Export} (few : e.items.length ≤ maxExportItems)
    (written : e.file = .ok file.octets) :
    openVaultExport file.octets e.key = .ok (e.items.map VaultExportItem.unmarked) := by
  have ceiling : maxExportItems = 4096 := rfl
  have tag : tagLen = 16 := rfl
  have length : (Crypto.chacha20Poly1305.ciphertext e.sealing).length = e.payload.length + tagLen :=
    correct.encrypt_length _ _ _ _
  have spelled := Except.ok.inj (written.symm.trans (file_eq few))
  have fits := file.fits
  have header := header_length few
  rw [spelled] at fits
  simp only [List.flatten_cons, List.flatten_nil, CborWriter.bytes, List.length_append, List.length_nil] at fits
  rw [fileOf_written (by omega) (by omega)] at spelled
  have count : (UInt64.ofNat e.items.length).toNat = e.items.length := by
    rw [UInt64.toNat_ofNat']
    omega
  refine openVaultExport_eq_ok.mpr ⟨e.salt.val, e.nonce.val, e.createdAt.millisecondsSinceEpoch, _, e.payload, _, spelled,
    by omega, e.createdAt.within, by omega, ?_, decodeItems_payload ⟨few, by omega⟩, ?_⟩
  · rw [decrypt, dif_pos e.nonce.property]
    exact correct.decrypt_encrypt _ _ _ _
  · rw [List.length_map, count]

/-- What is opened is a file that was sealed. -/
theorem sealed_of_open {made : Export → Prop} {keys : Set (Block 32)} (unforgeable : Unforgeable made keys)
    (known : key ∈ keys) (opened : openVaultExport file.octets key = .ok items) :
    ∃ e, made e ∧ e.Opens file.octets key items := by
  obtain ⟨salt, nonce, ms, sealed, plaintext, count, spelled, few, -, -, decrypted, decoded, -⟩ :=
    openVaultExport_eq_ok.mp opened
  unfold decrypt at decrypted
  split at decrypted
  · obtain ⟨⟨e, done, fits, same⟩, cipher⟩ := unforgeable.ideal _ _ _ _ _ decrypted
    have short := fileOf_short spelled
    obtain ⟨keySame, nonceSame, headerSame, payloadSame⟩ := Sealing.mk.inj same
    obtain ⟨rfl, rfl⟩ := headerOf_keying short headerSame
    have cut : Crypto.chacha20Poly1305.ciphertext e.sealing = sealed := by
      rw [← same]
      exact cipher.symm
    have written : e.file = .ok file.octets := by
      have size := file.fits
      have header := header_length fits.few
      rw [spelled, fileOf, Writer.bytes, Writer.bytes] at size
      simp only [List.length_append] at size
      rw [file_eq fits.few, cut, spelled, headerSame, fileOf_written (by omega) (by omega)]
    refine ⟨e, done, written, unforgeable.apart e.salt.val (unforgeable.held e done) known keySame.symm, ?_⟩
    rw [payloadSame, decodeItems_payload fits] at decoded
    exact (Except.ok.inj decoded).symm
  · cases decrypted

end Open

end VaultExport

open VaultExport

section Claimed
variable [Casing] [Crypto]

/-- A code is read back, and a file opens to the items it was made of unless a byte order mark is at the front of a text of
theirs. The decoders fail closed but at a length past the largest integer and at a date out of range, and what opens was
sealed under that key. -/
theorem vault_exports_kept_and_closed :
    (∀ key, VaultExportKey.parse (VaultExportKey.format key) = .ok key) ∧
    (Crypto.chacha20Poly1305.Correct tagLen → ∀ e : Export, e.items.length ≤ maxExportItems →
      ∃ octets, e.file = .ok octets ∧ ∀ file : Uint8List, file.octets = octets →
        (openVaultExport file.octets e.key = .ok e.items ↔ ∀ item ∈ e.items, item.unmarked = item)) ∧
    (∀ file : Uint8List, FailsClosed (inspectVaultExport file.octets) ↔ ¬Unread file.octets) ∧
    (∀ (file : Uint8List) key,
      FailsClosed (openVaultExport file.octets key) ↔ ¬(Unread file.octets ∨ Unopened key file.octets)) ∧
    ∀ made keys, Unforgeable made keys → ∀ (file : Uint8List), ∀ key ∈ keys, ∀ items,
      openVaultExport file.octets key = .ok items → ∃ e, made e ∧ e.Opens file.octets key items := by
  refine ⟨VaultExportKey.parse_format, fun correct e few => ?_, inspectVaultExport_failsClosed,
    openVaultExport_failsClosed, fun made keys unforgeable file key known items => sealed_of_open unforgeable known⟩
  refine ⟨_, file_eq few, fun file same => ?_⟩
  have written : e.file = .ok file.octets := by rw [same, file_eq few]
  have own := List.map_inj_left (l := e.items) (f := VaultExportItem.unmarked) (g := id)
  rw [List.map_id] at own
  rw [open_sealed correct few written, Except.ok.injEq, own]
  rfl

end Claimed

section Plain

/-- One note. -/
def noteExport : Export where
  items := [⟨.note, "gate", "", "", "1234"⟩]
  key := Block.replicate 32 7
  createdAt := .sinceEpoch 0
  salt := Block.replicate 16 1
  nonce := Block.replicate 12 2

/-- The plain primitives, with a cipher that opens just that note. -/
abbrev noteCrypto : Crypto :=
  letI := Crypto.plain
  { Crypto.plain with chacha20Poly1305 := (Aead.plain (Block 32) (Block 12) tagLen).recorded [noteExport.sealing] }

def noteFile : Uint8List := .ofBytes (@Export.file Crypto.plain noteExport |>.toOption.getD [])

theorem note_unforgeable : @Unforgeable noteCrypto (· = noteExport) {noteExport.key} :=
  letI := noteCrypto
  { ideal := by
      intro key nonce aad sealed text opened
      have fits : noteExport.Fits := ⟨by decide, by decide +kernel⟩
      obtain ⟨member, same⟩ := Aead.recorded_ideal _ _ key nonce aad sealed text opened
      exact ⟨⟨noteExport, rfl, fits, List.mem_singleton.mp member⟩, same⟩
    apart := fun _ => Set.injOn_singleton _ _
    held := fun e made => made ▸ rfl }

theorem vault_exports_kept_and_closed_note :
    @openVaultExport Crypto.plain noteFile.octets noteExport.key = .ok noteExport.items ∧
    ∃ e, e = noteExport ∧ @Export.Opens noteCrypto e noteFile.octets noteExport.key noteExport.items := by
  let := plainCasing
  constructor
  · obtain ⟨_, written, opens⟩ :=
      (@vault_exports_kept_and_closed _ Crypto.plain).2.1 (Aead.plain_correct _ _ _) noteExport (by decide)
    have same : @Export.file Crypto.plain noteExport = .ok noteFile.octets := by decide +kernel
    exact (opens noteFile (Except.ok.inj (same.symm.trans written))).mpr (by decide)
  · exact (@vault_exports_kept_and_closed _ noteCrypto).2.2.2.2 _ _ note_unforgeable noteFile _ rfl _ (by decide +kernel)

/-- That note, with a byte order mark at the front of its name. -/
def markedExport : Export := { noteExport with items := [⟨.note, "\uFEFFgate", "", "", "1234"⟩] }

/-- A header with a date as large as can be. -/
def lateHeader : Bytes := [0x85, 0x01, 0x40, 0x40, 0x1b, 0x7f, 0xff, 0xff, 0xff, 0xff, 0xff, 0xff, 0xff, 0x00]

/-- A string as long as can be and a date as late as can be are not refused, and a text loses its mark. -/
theorem backups_escape_and_lose :
    inspectVaultExport [0x82, 0x5b, 0x7f, 0xff, 0xff, 0xff, 0xff, 0xff, 0xff, 0xff] = .error (.other .rangeError) ∧
    inspectVaultExport ([0x82, 0x4e] ++ lateHeader ++ [0x40]) = .error (.other .argumentError) ∧
    letI := Crypto.plain
    (markedExport.file >>= fun file => openVaultExport file markedExport.key) = .ok noteExport.items := by
  let := Crypto.plain
  exact ⟨by decide +kernel, by decide +kernel, by decide +kernel⟩

end Plain

end BioAuth.Mobile
