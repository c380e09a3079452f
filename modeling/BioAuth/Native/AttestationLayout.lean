import BioAuth.Native.Ctap2Encoder
import Mathlib.Algebra.Order.Ring.Star

/-! What a relying party reads in authenticator data and attestation objects, by the layout of WebAuthn. -/

namespace BioAuth.Native
open BioAuth CanonicalCbor Ctap2Encoder

structure AttestedCredentialData where
  aaguid : Bytes
  credentialId : Bytes
  publicKey : ECPublicKey

structure AuthenticatorData where
  rpIdHash : Bytes
  flags : UInt8
  signCount : UInt32
  attested : Option AttestedCredentialData

/-- The key of a COSE key for ES256 over P-256. -/
def ECPublicKey.ofItem (item : Item) : Option ECPublicKey := do
  let .int kty ← item.field (.int 1) | none
  let .int alg ← item.field (.int 3) | none
  let .int crv ← item.field (.int (-1)) | none
  let .bytes x ← item.field (.int (-2)) | none
  let .bytes y ← item.field (.int (-3)) | none
  guard (kty = 2 ∧ alg = -7 ∧ crv = 1 ∧ x.length = 32 ∧ y.length = 32)
  if inside : BigEndian.decode x < p256 ∧ BigEndian.decode y < p256 then
    return ⟨BigEndian.decode x, BigEndian.decode y, inside.1, inside.2⟩
  else
    none

/-- A credential of an authenticator: its id behind the length of the id, and its key. -/
def readAttested : Parse CborError AttestedCredentialData := do
  let aaguid ← Reader.take 16
  let length ← Reader.take 2
  let credentialId ← Reader.take (BigEndian.decode length)
  let item ← read 4
  match ECPublicKey.ofItem item with
  | some publicKey => return ⟨aaguid, credentialId, publicKey⟩
  | none => throw .unexpectedType

/-- A credential is there where its flag is. -/
def readCredential (flags : UInt8) : Parse CborError (Option AttestedCredentialData) := do
  if flags &&& flagAt = 0 then
    return none
  return some (← readAttested)

def readAuthenticatorData : Parse CborError AuthenticatorData := do
  let rpIdHash ← Reader.take 32
  let flags ← Reader.take 1
  let signCount ← Reader.take 4
  let flags := UInt8.ofNat (BigEndian.decode flags)
  let attested ← readCredential flags
  Reader.finish
  return ⟨rpIdHash, flags, UInt32.ofNat (BigEndian.decode signCount), attested⟩

def decodeAuthenticatorData (bytes : Bytes) : Option AuthenticatorData := (readAuthenticatorData bytes).1.toOption

/-- The authenticator data of an attestation in the format `none`. -/
def decodeAttestationObject (bytes : Bytes) : Option AuthenticatorData := do
  let item ← ((do let item ← read 4; Reader.finish; return item) bytes : Except CborError Item × Bytes).1.toOption
  let .text fmt ← item.field (.text "fmt") | none
  let .map statement ← item.field (.text "attStmt") | none
  let .bytes authenticatorData ← item.field (.text "authData") | none
  guard (fmt = "none" ∧ statement.isEmpty)
  decodeAuthenticatorData authenticatorData

section Reading

/-- A COSE key, whatever the octets of its coordinates. -/
def coseEntries (x y : Bytes) : List (Item × Item) :=
  [(.int 1, .int 2), (.int 3, .int (-7)), (.int (-1), .int 1), (.int (-2), .bytes x), (.int (-3), .bytes y)]

theorem ofItem_entries {publicKey : ECPublicKey} {x y : Bytes} (left : x.length = 32) (right : y.length = 32)
    (first : BigEndian.decode x = publicKey.affineX) (second : BigEndian.decode y = publicKey.affineY) :
    ECPublicKey.ofItem (.map (coseEntries x y)) = some publicKey := by
  have sorted : Item.Sorted (coseEntries x y) := sorted_of_keys coseItem_keys (by decide)
  have here (key value : Item) (member : (key, value) ∈ coseEntries x y) :
      (Item.map (coseEntries x y)).field key = some value := field_of_mem sorted member
  have kty := here (.int 1) (.int 2) (by simp [coseEntries])
  have alg := here (.int 3) (.int (-7)) (by simp [coseEntries])
  have crv := here (.int (-1)) (.int 1) (by simp [coseEntries])
  have xs := here (.int (-2)) (.bytes x) (by simp [coseEntries])
  have ys := here (.int (-3)) (.bytes y) (by simp [coseEntries])
  rw [ECPublicKey.ofItem, kty, alg, crv, xs, ys]
  simp [left, right, first, second, publicKey.x_lt, publicKey.y_lt]

theorem ofItem_coseItem (publicKey : ECPublicKey) : ECPublicKey.ofItem (coseItem publicKey) = some publicKey :=
  ofItem_entries (BigEndian.encode_length 32 _) (BigEndian.encode_length 32 _)
    (BigEndian.decode_encode_of_lt (publicKey.x_lt.trans p256_lt))
    (BigEndian.decode_encode_of_lt (publicKey.y_lt.trans p256_lt))

theorem take_run {front rest : Bytes} {count : Nat} (length : front.length = count) :
    Reader.take count (front ++ rest) = (.ok front, rest) :=
  Parse.take_eq_ok.mpr ⟨length, rfl⟩

/-- What an authenticator says of a credential, laid out. -/
def AttestedCredentialData.layout (credential : AttestedCredentialData) : Bytes :=
  credential.aaguid ++ (BigEndian.encode 2 credential.credentialId.length ++
    (credential.credentialId ++ (coseItem credential.publicKey).encode))

theorem readAttested_run {credential : AttestedCredentialData} (aaguid : credential.aaguid.length = 16)
    (short : credential.credentialId.length ≤ 0xffff) (rest : Bytes) :
    readAttested (credential.layout ++ rest) = (.ok credential, rest) := by
  have length : BigEndian.decode (BigEndian.encode 2 credential.credentialId.length) =
      credential.credentialId.length := BigEndian.decode_encode_of_lt (Nat.lt_succ_of_le short)
  have key := (read_spells 4).complete (coseItem_fits credential.publicKey) rest
  rw [AttestedCredentialData.layout, List.append_assoc, List.append_assoc, List.append_assoc, readAttested,
    Fallible.bind_run_ok _ (take_run aaguid), Fallible.bind_run_ok _ (take_run (BigEndian.encode_length 2 _)), length,
    Fallible.bind_run_ok _ (take_run rfl), Fallible.bind_run_ok _ key, ofItem_coseItem]
  rfl

/-- Authenticator data, laid out. -/
def AuthenticatorData.layout (data : AuthenticatorData) : Bytes :=
  data.rpIdHash ++ ([data.flags] ++ (BigEndian.encode 4 data.signCount.toNat ++
    data.attested.elim [] AttestedCredentialData.layout))

/-- Authenticator data that a layout can hold. -/
structure AuthenticatorData.Valid (data : AuthenticatorData) : Prop where
  hash : data.rpIdHash.length = 32
  marked : data.attested.isSome ↔ data.flags &&& flagAt ≠ 0
  aaguid : ∀ credential ∈ data.attested, credential.aaguid.length = 16
  short : ∀ credential ∈ data.attested, credential.credentialId.length ≤ 0xffff

theorem readCredential_run {data : AuthenticatorData} (valid : data.Valid) :
    readCredential data.flags (data.attested.elim [] AttestedCredentialData.layout) = (.ok data.attested, []) := by
  unfold readCredential
  have marked := valid.marked
  rcases attested : data.attested with _ | credential
  · rw [attested] at marked
    rw [if_pos (by simpa using marked)]
    rfl
  · rw [attested] at marked
    have run := readAttested_run (valid.aaguid credential attested) (valid.short credential attested) []
    rw [List.append_nil] at run
    rw [if_neg (by simpa using marked), Option.elim_some, Fallible.bind_run_ok _ run]
    rfl

/-- Each layout is read as what was laid out. -/
theorem decodeAuthenticatorData_layout {data : AuthenticatorData} (valid : data.Valid) :
    decodeAuthenticatorData data.layout = some data := by
  have flags : UInt8.ofNat (BigEndian.decode [data.flags]) = data.flags := by
    rw [Reader.decode_singleton, UInt8.ofNat_toNat]
  have count : UInt32.ofNat (BigEndian.decode (BigEndian.encode 4 data.signCount.toNat)) = data.signCount := by
    rw [BigEndian.decode_encode_of_lt data.signCount.toNat_lt, UInt32.ofNat_toNat]
  have run : readAuthenticatorData data.layout = (.ok data, []) := by
    rw [AuthenticatorData.layout, readAuthenticatorData, Fallible.bind_run_ok _ (take_run valid.hash),
      Fallible.bind_run_ok _ (take_run List.length_singleton),
      Fallible.bind_run_ok _ (take_run (BigEndian.encode_length 4 _)), flags, count, Fallible.bind_run_ok _ (readCredential_run valid)]
    rfl
  rw [decodeAuthenticatorData, run]
  rfl

end Reading

section Encodings

theorem decodeAttestationObject_none {authenticatorData : Bytes} (short : authenticatorData.length < 2 ^ 64) :
    decodeAttestationObject (noneAttestationObject authenticatorData) = decodeAuthenticatorData authenticatorData := by
  have fits := attestationItem_fits short
  have whole := (read_spells 4).complete fits []
  rw [List.append_nil, ← noneAttestationObject_eq] at whole
  have read : (do let item ← read 4; Reader.finish; return item : Parse CborError Item)
      (noneAttestationObject authenticatorData) = (.ok (attestationItem authenticatorData), []) := by
    rw [Fallible.bind_run_ok _ whole]
    rfl
  have here (key value : Item) (member : (key, value) ∈ [(Item.text "fmt", Item.text "none"),
      (.text "attStmt", .map []), (.text "authData", .bytes authenticatorData)]) :
      (attestationItem authenticatorData).field key = some value := field_of_mem fits.2.2 member
  have fmt := here (.text "fmt") (.text "none") (by simp)
  have statement := here (.text "attStmt") (.map []) (by simp)
  have data := here (.text "authData") (.bytes authenticatorData) (by simp)
  rw [decodeAttestationObject, read]
  simp only [Except.toOption, Option.bind_eq_bind, Option.bind_some, fmt, statement, data]
  rfl

variable [Crypto]

/-- What a registration says. -/
def registered (rpId : String) (credentialId : Bytes) (publicKey : ECPublicKey) (signCount : UInt32) :
    AuthenticatorData :=
  ⟨(Crypto.sha256 (utf8 rpId)).val, flagUp ||| flagUv ||| flagAt, signCount,
    some ⟨List.replicate 16 0, credentialId, publicKey⟩⟩

/-- What an assertion says. -/
def asserted (rpId : String) (signCount : UInt32) : AuthenticatorData :=
  ⟨(Crypto.sha256 (utf8 rpId)).val, flagUp ||| flagUv, signCount, none⟩

theorem registered_valid (rpId : String) {credentialId : Bytes} (publicKey : ECPublicKey) (signCount : UInt32)
    (short : credentialId.length ≤ 0xffff) : (registered rpId credentialId publicKey signCount).Valid where
  hash := (Crypto.sha256 (utf8 rpId)).property
  marked := iff_of_true rfl (show (flagUp ||| flagUv ||| flagAt) &&& flagAt ≠ 0 by decide)
  aaguid := by
    rintro _ ⟨⟩
    exact List.length_replicate
  short := by
    rintro _ ⟨⟩
    exact short

theorem asserted_valid (rpId : String) (signCount : UInt32) : (asserted rpId signCount).Valid where
  hash := (Crypto.sha256 (utf8 rpId)).property
  marked := iff_of_false nofun (show ¬(flagUp ||| flagUv) &&& flagAt ≠ 0 by decide)
  aaguid := nofun
  short := nofun

theorem registrationAuthenticatorData_eq (rpId : String) {credentialId : Bytes} (publicKey : ECPublicKey)
    (signCount : UInt32) (short : credentialId.length ≤ 0xffff) :
    registrationAuthenticatorData rpId credentialId publicKey signCount =
      .ok (registered rpId credentialId publicKey signCount).layout := by
  refine except_bind_eq_ok.mpr ⟨(), except_require_eq_ok.mpr short, except_bind_eq_ok.mpr ⟨_, coseKey_eq publicKey, ?_⟩⟩
  have size : [UInt8.ofNat (credentialId.length >>> 8), UInt8.ofNat credentialId.length] =
      BigEndian.encode 2 credentialId.length := by
    rw [Nat.shiftRight_eq_div_pow]
    rfl
  rw [size, AuthenticatorData.layout, registered, Option.elim_some, AttestedCredentialData.layout, uint32]
  simp only [List.append_assoc]
  rfl

theorem assertionAuthenticatorData_eq (rpId : String) (signCount : UInt32) :
    assertionAuthenticatorData rpId signCount = (asserted rpId signCount).layout := by
  rw [assertionAuthenticatorData, AuthenticatorData.layout, asserted, Option.elim_none, uint32, List.append_nil,
    List.append_assoc]

omit [Crypto] in
theorem coseItem_length (publicKey : ECPublicKey) : (coseItem publicKey).encode.length = 77 := by
  have coordinate (value : Nat) : (Item.bytes (BigEndian.encode 32 value)).encode.length = 34 := by
    rw [Item.encode, Writer.bytes, List.length_append, BigEndian.encode_length]
    rfl
  have one (n : Int) (small : n ∈ [1, 2, 3, -7, -1, -2, -3]) : (Item.int n).encode.length = 1 := by
    rw [Item.encode]
    revert n
    decide
  rw [coseItem, Item.encode]
  simp only [List.flatMap_cons, List.flatMap_nil, List.length_append, coordinate]
  rw [one 1 (by decide), one 2 (by decide), one 3 (by decide), one (-7) (by decide), one (-1) (by decide),
    one (-2) (by decide), one (-3) (by decide)]
  rfl

theorem registered_length (rpId : String) (credentialId : Bytes) (publicKey : ECPublicKey) (signCount : UInt32) :
    (registered rpId credentialId publicKey signCount).layout.length = 132 + credentialId.length := by
  rw [AuthenticatorData.layout, registered, Option.elim_some, AttestedCredentialData.layout]
  simp only [List.length_append, List.length_singleton, List.length_replicate, BigEndian.encode_length,
    (Crypto.sha256 (utf8 rpId)).property, coseItem_length]
  omega

/-- The octets of a registration and of its attestation, spelled out. -/
structure Encoded (rpId : String) (credentialId : Bytes) (publicKey : ECPublicKey) (signCount : UInt32)
    (data : Bytes) : Prop where
  built : registrationAuthenticatorData rpId credentialId publicKey signCount = .ok data
  octets : data = (Crypto.sha256 (utf8 rpId)).val ++ ([0x45] ++ (BigEndian.encode 4 signCount.toNat ++
    (List.replicate 16 0 ++ (BigEndian.encode 2 credentialId.length ++
      (credentialId ++ (coseItem publicKey).encode)))))
  key : (coseItem publicKey).Fits 4
  attestation : noneAttestationObject data = (attestationItem data).encode
  canonical : (attestationItem data).Fits 4
  read : decodeAuthenticatorData data = some (registered rpId credentialId publicKey signCount)
  readBack : decodeAttestationObject (noneAttestationObject data) =
    some (registered rpId credentialId publicKey signCount)

theorem encoded (rpId : String) {credentialId : Bytes} (publicKey : ECPublicKey) (signCount : UInt32)
    (short : credentialId.length ≤ 0xffff) :
    Encoded rpId credentialId publicKey signCount (registered rpId credentialId publicKey signCount).layout := by
  have length := registered_length rpId credentialId publicKey signCount
  have bound : (registered rpId credentialId publicKey signCount).layout.length < 2 ^ 64 := by omega
  have read := decodeAuthenticatorData_layout (registered_valid rpId publicKey signCount short)
  exact {
    built := registrationAuthenticatorData_eq rpId publicKey signCount short
    octets := rfl
    key := coseItem_fits publicKey
    attestation := noneAttestationObject_eq _
    canonical := attestationItem_fits bound
    read := read
    readBack := (decodeAttestationObject_none bound).trans read }

theorem encoded_of_built {rpId : String} {credentialId : Bytes} {publicKey : ECPublicKey} {signCount : UInt32}
    {data : Bytes} (built : registrationAuthenticatorData rpId credentialId publicKey signCount = .ok data) :
    Encoded rpId credentialId publicKey signCount data := by
  obtain ⟨_, check, _⟩ := except_bind_eq_ok.mp built
  have short := except_require_eq_ok.mp check
  have same := (registrationAuthenticatorData_eq rpId publicKey signCount short).symm.trans built
  exact Except.ok.inj same ▸ encoded rpId publicKey signCount short

theorem registered_injective {rpId rpId' : String} {credentialId credentialId' : Bytes}
    {publicKey publicKey' : ECPublicKey} {signCount signCount' : UInt32}
    (same : registered rpId credentialId publicKey signCount = registered rpId' credentialId' publicKey' signCount') :
    Crypto.sha256 (utf8 rpId) = Crypto.sha256 (utf8 rpId') ∧ credentialId = credentialId' ∧ publicKey = publicKey' ∧
      signCount = signCount' := by
  rw [registered, registered, AuthenticatorData.mk.injEq, Option.some.injEq, AttestedCredentialData.mk.injEq] at same
  obtain ⟨hash, _, count, _, id, key⟩ := same
  exact ⟨Subtype.ext hash, id, key, count⟩

/-- Passkey encodings are canonical, and parse back as the key, the id, the hash, the flags and the counter that they
were made of. -/
theorem passkey_encodings_parse_back :
    (∀ rpId credentialId publicKey signCount, credentialId.length ≤ 0xffff →
      ∃ data, Encoded rpId credentialId publicKey signCount data) ∧
    (∀ rpId signCount, assertionAuthenticatorData rpId signCount = (asserted rpId signCount).layout ∧
      decodeAuthenticatorData (assertionAuthenticatorData rpId signCount) = some (asserted rpId signCount)) ∧
    (∀ major < 8, ∀ argument : UInt64, Head major argument.toNat (Cbor.head (UInt32.ofNat major) argument) ∧
      ∀ other, Head major argument.toNat other → (Cbor.head (UInt32.ofNat major) argument).length ≤ other.length) ∧
    (∀ rpId rpId' credentialId credentialId' publicKey publicKey' signCount signCount' data data',
      registrationAuthenticatorData rpId credentialId publicKey signCount = .ok data →
      registrationAuthenticatorData rpId' credentialId' publicKey' signCount' = .ok data' →
      (data = data' ∨ noneAttestationObject data = noneAttestationObject data') →
        Crypto.sha256 (utf8 rpId) = Crypto.sha256 (utf8 rpId') ∧ credentialId = credentialId' ∧
          publicKey = publicKey' ∧ signCount = signCount') := by
  refine ⟨fun rpId _ publicKey signCount short => ⟨_, encoded rpId publicKey signCount short⟩, fun rpId signCount => ?_,
    fun major small argument => ?_, ?_⟩
  · have same := assertionAuthenticatorData_eq rpId signCount
    exact ⟨same, same ▸ decodeAuthenticatorData_layout (asserted_valid rpId signCount)⟩
  · rw [head_eq small]
    exact ⟨head_is major argument, fun other => head_shortest⟩
  · intro rpId rpId' credentialId credentialId' publicKey publicKey' signCount signCount' data data' first second same
    have one := encoded_of_built first
    have two := encoded_of_built second
    have read : some (registered rpId credentialId publicKey signCount) =
        some (registered rpId' credentialId' publicKey' signCount') := by
      rcases same with rfl | same
      · exact one.read.symm.trans two.read
      · rw [← one.readBack, ← two.readBack, same]
    exact registered_injective (Option.some.inj read)

omit [Crypto] in
theorem passkey_encodings_parse_back_three : ∃ data, @Encoded Crypto.plain "example.org" [1, 2, 3]
    ⟨1, 2 ^ 255, by norm_num [p256], by norm_num [p256]⟩ 7 data :=
  (@passkey_encodings_parse_back Crypto.plain).1 _ _ _ _ (by decide)

end Encodings

end BioAuth.Native
