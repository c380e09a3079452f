import BioAuth.CborSpelling
import BioAuth.Locker.Format

namespace BioAuth.Locker
open BioAuth

variable {α : Type}

theorem cbor_spells {p : Parse CborError α} {admits : α → Prop} {spell : α → Bytes}
    (spells : Parse.Spells p admits spell) : Parse.Spells (cbor p) admits spell :=
  spells.mapError _

theorem cbor_finish_eq_ok {s t : Bytes} {u : Unit} : cbor Reader.finish s = (.ok u, t) ↔ s = [] ∧ t = [] :=
  Fallible.mapError_eq_ok.trans Reader.finish_eq_ok

theorem fixed_eq_ok {n : Nat} {value : Bytes} {field : String} {block : Block n} :
    fixed n value field = .ok block ↔ value = block.val := by
  unfold fixed
  split
  · rename_i length
    rw [Except.ok.injEq, Subtype.ext_iff]
  · rename_i length
    simp only [reduceCtorEq, false_iff]
    rintro rfl
    exact length block.property

namespace CoreHeader

/-- What a header has to satisfy to be written or read. -/
theorem validate_eq_ok {header : CoreHeader} {u : Unit} :
    header.validate = .ok u ↔
      header.containerVersion = Locker.containerVersion ∧
        ((minChunkSize ≤ header.chunkSize ∧ header.chunkSize ≤ maxChunkSize) ∧
          header.chunkSize.toNat.isPowerOfTwo) ∧ header.chunkCount ≤ maxChunkIndex := by
  unfold validate
  simp only [except_bind_eq_ok, except_require_eq_ok, exists_const]

/-- The header reader takes the canonical spelling of a header of this version, and only that. -/
theorem fields_eq_ok {s t : Bytes} {header : CoreHeader} :
    fields s = (.ok header, t) ↔
      header.containerVersion = Locker.containerVersion ∧ s = header.encode ∧ t = [] := by
  unfold fields
  simp only [(cbor_spells Reader.array_spells).bind_eq_ok, (cbor_spells Reader.uint_spells).bind_eq_ok,
    (cbor_spells Reader.bytes_spells).bind_eq_ok, true_and, Fallible.require_bind_eq_ok,
    Fallible.liftM_bind_eq_ok, fixed_eq_ok]
  simp only [Fallible.bind_eq_ok, cbor_finish_eq_ok, Fallible.pure_eq_ok]
  constructor
  · rintro ⟨_, _, rfl, rfl, version, _, rfl, small, current, _, _, rfl, rfl, size, _, rfl, fits, _, _, ⟨_, rfl⟩,
      noncePrefix, rfl, _, _, ⟨_, rfl⟩, contentSalt, rfl, plaintextLen, _, rfl, _, _, ⟨rfl, rfl⟩, rfl, rfl⟩
    have widened : version.toUInt8.toUInt64 = version := by
      apply UInt64.toNat.inj
      rw [UInt8.toNat_toUInt64, UInt64.toNat_toUInt8, Nat.mod_eq_of_lt small]
    have sized : size.toUInt32.toUInt64 = size := by
      apply UInt64.toNat.inj
      rw [UInt32.toNat_toUInt64, UInt64.toNat_toUInt32, Nat.mod_eq_of_lt fits]
    refine ⟨current, ?_, rfl⟩
    simp only [encode, widened, sized, List.append_assoc, List.append_nil]
  · rintro ⟨current, rfl, rfl⟩
    rw [← List.append_nil header.encode]
    refine ⟨_, _, by simp only [encode, List.append_assoc], rfl, header.containerVersion.toUInt64, _, rfl, ?_, ?_,
      _, _, rfl, rfl, header.chunkSize.toUInt64, _, rfl, ?_, _, _, ⟨?_, rfl⟩, header.noncePrefix, rfl, _, _,
      ⟨?_, rfl⟩, header.contentSalt, rfl, header.plaintextLen, [], rfl, (), [], ⟨rfl, rfl⟩, ?_, rfl⟩
    · exact header.containerVersion.toNat_lt
    · simpa using current
    · exact header.chunkSize.toNat_lt
    · rw [header.noncePrefix.property]
      decide
    · rw [header.contentSalt.property]
      decide
    · simp

theorem encode_length_le (header : CoreHeader) : header.encode.length ≤ maxCoreBytes := by
  have first := Writer.head_length_le majorArray coreFields
  have version := Writer.head_length_le majorUint header.containerVersion.toUInt64
  have cipher := Writer.head_length_le majorUint cipherChacha20Poly1305
  have size := Writer.head_length_le majorUint header.chunkSize.toUInt64
  have noncePrefix := Writer.head_length_le majorBytes (UInt64.ofNat header.noncePrefix.val.length)
  have contentSalt := Writer.head_length_le majorBytes (UInt64.ofNat header.contentSalt.val.length)
  have last := Writer.head_length_le majorUint header.plaintextLen
  simp only [encode, Writer.array, Writer.uint, Writer.bytes, List.length_append, header.noncePrefix.property,
    header.contentSalt.property, noncePrefixLen, saltLen, maxCoreBytes] at *
  omega

/-- Decoding accepts exactly the spellings of valid headers. -/
theorem decode_eq_ok {bytes : Bytes} {header : CoreHeader} :
    decode bytes = .ok header ↔ header.validate = .ok () ∧ bytes = header.encode := by
  unfold decode
  simp only [except_bind_eq_ok, except_require_eq_ok, except_pure_eq_ok]
  constructor
  · rintro ⟨_, _, read, parsed, _, valid, _, rfl, rfl⟩
    exact ⟨valid, rfl⟩
  · rintro ⟨valid, rfl⟩
    have parsed : fields header.encode = (.ok header, []) :=
      fields_eq_ok.mpr ⟨(validate_eq_ok.mp valid).1, rfl, rfl⟩
    exact ⟨(), encode_length_le header, header, by rw [parsed], (), valid, (), rfl, rfl⟩

end CoreHeader

theorem WrapperKind.fromWire_eq_ok {value : UInt64} {kind : WrapperKind} :
    fromWire value = .ok kind ↔ value = kind.wire := by
  unfold fromWire
  split_ifs with phone recovery
  · cases kind <;> simp [phone, wire]
  · cases kind <;> simp [recovery, wire]
  · cases kind <;> simp [phone, recovery, wire]

namespace Wrapper

/-- What a wrapper has to satisfy to be written or read. -/
theorem validate_eq_ok {wrapper : Wrapper} {u : Unit} :
    wrapper.validate = .ok u ↔
      utf16Len wrapper.id ≤ maxIdUnits ∧
        (wrapper.ciphertext ≠ [] ∧ wrapper.ciphertext.length ≤ maxWrapperCiphertext) ∧
        wrapper.salt.length = (match wrapper.kind with | .phone => 0 | .recovery => saltLen) ∧
        wrapper.nonce.length = (match wrapper.kind with | .phone => 0 | .recovery => nonceLen) := by
  unfold validate
  simp only [except_bind_eq_ok, except_require_eq_ok]
  cases wrapper.kind <;> simp

theorem decode_spells : Parse.Spells decode (fun wrapper => wrapper.validate = .ok ()) encode := by
  intro s wrapper t
  unfold decode
  simp only [(cbor_spells Reader.array_spells).bind_eq_ok, (cbor_spells Reader.uint_spells).bind_eq_ok,
    (cbor_spells Reader.bytes_spells).bind_eq_ok, (cbor_spells Reader.text_spells).bind_eq_ok, true_and,
    Fallible.require_bind_eq_ok, Fallible.liftM_bind_eq_ok, WrapperKind.fromWire_eq_ok, Fallible.pure_eq_ok]
  constructor
  · rintro ⟨_, _, rfl, rfl, _, _, rfl, kind, rfl, id, _, ⟨_, rfl⟩, salt, _, ⟨_, rfl⟩, nonce, _, ⟨_, rfl⟩,
      ciphertext, _, ⟨_, rfl⟩, _, valid, rfl, rfl⟩
    refine ⟨valid, ?_⟩
    simp only [encode, List.append_assoc]
  · rintro ⟨valid, rfl⟩
    have ⟨idUnits, ⟨_, sealedLength⟩, saltLength, nonceLength⟩ := validate_eq_ok.mp valid
    have idLength := utf8_length_le wrapper.id
    simp only [maxIdUnits, maxWrapperCiphertext] at idUnits sealedLength
    refine ⟨_, _, by simp only [encode, List.append_assoc], rfl, _, _, rfl, wrapper.kind, rfl, wrapper.id, _,
      ⟨by omega, rfl⟩, wrapper.salt, _, ⟨?_, rfl⟩, wrapper.nonce, _, ⟨?_, rfl⟩, wrapper.ciphertext, t,
      ⟨by omega, rfl⟩, (), valid, rfl, rfl⟩
    · rw [saltLength]
      cases wrapper.kind <;> decide
    · rw [nonceLength]
      cases wrapper.kind <;> decide

end Wrapper

theorem encodeEach_eq_ok {wrappers : List Wrapper} {bytes : Bytes} :
    encodeEach wrappers = .ok bytes ↔
      (∀ wrapper ∈ wrappers, wrapper.validate = .ok ()) ∧ bytes = wrappers.flatMap Wrapper.encode := by
  induction wrappers generalizing bytes with
  | nil => simp [encodeEach, eq_comm]
  | cons wrapper wrappers ih =>
    simp only [encodeEach, except_bind_eq_ok, except_pure_eq_ok, ih, List.forall_mem_cons, List.flatMap_cons]
    constructor
    · rintro ⟨_, valid, _, ⟨rest, rfl⟩, rfl⟩
      exact ⟨⟨valid, rest⟩, rfl⟩
    · rintro ⟨⟨valid, rest⟩, rfl⟩
      exact ⟨(), valid, _, ⟨rest, rfl⟩, rfl⟩

theorem decodeEach_spells (count : Nat) :
    Parse.Spells (decodeEach count)
      (fun wrappers => wrappers.length = count ∧ ∀ wrapper ∈ wrappers, wrapper.validate = .ok ())
      (List.flatMap Wrapper.encode) := by
  induction count with
  | zero =>
    intro s wrappers t
    simp only [decodeEach, Fallible.pure_eq_ok, List.length_eq_zero_iff]
    constructor
    · rintro ⟨rfl, rfl⟩
      simp
    · rintro ⟨⟨rfl, _⟩, rfl⟩
      simp
  | succ count ih =>
    intro s wrappers t
    simp only [decodeEach, Wrapper.decode_spells.bind_eq_ok, ih.bind_eq_ok, Fallible.pure_eq_ok]
    constructor
    · rintro ⟨wrapper, _, ⟨valid, rfl⟩, rest, _, ⟨⟨length, valids⟩, rfl⟩, rfl, rfl⟩
      simpa [length, valid] using valids
    · rintro ⟨⟨length, valids⟩, rfl⟩
      obtain ⟨wrapper, rest, rfl⟩ := List.exists_cons_of_length_eq_add_one length
      rw [List.forall_mem_cons] at valids
      refine ⟨wrapper, _, ⟨valids.1, ?_⟩, rest, _, ⟨⟨by simpa using length, valids.2⟩, rfl⟩, rfl, rfl⟩
      rw [List.flatMap_cons, List.append_assoc]

/-- The wrapper section that lists these wrappers. -/
def spellWrappers (wrappers : List Wrapper) : Bytes :=
  Writer.array (UInt64.ofNat wrappers.length) ++ wrappers.flatMap Wrapper.encode

theorem encodeWrappers_eq_ok {wrappers : List Wrapper} {bytes : Bytes} :
    encodeWrappers wrappers = .ok bytes ↔
      (wrappers ≠ [] ∧ wrappers.length ≤ maxWrappers) ∧ (∀ wrapper ∈ wrappers, wrapper.validate = .ok ()) ∧
        (spellWrappers wrappers).length ≤ maxWrapperBytes ∧ bytes = spellWrappers wrappers := by
  unfold encodeWrappers
  simp only [except_bind_eq_ok, except_require_eq_ok, except_pure_eq_ok, encodeEach_eq_ok]
  constructor
  · rintro ⟨_, count, _, ⟨valids, rfl⟩, _, small, rfl⟩
    exact ⟨count, valids, small, rfl⟩
  · rintro ⟨count, valids, small, rfl⟩
    exact ⟨(), count, _, ⟨valids, rfl⟩, (), small, rfl⟩

/-- The wrapper reader accepts exactly what the wrapper writer writes. -/
theorem decodeWrappers_eq_ok {wrappers : List Wrapper} {bytes : Bytes} :
    decodeWrappers bytes = .ok wrappers ↔ encodeWrappers wrappers = .ok bytes := by
  unfold decodeWrappers
  simp only [except_bind_eq_ok, except_require_eq_ok, except_pure_eq_ok]
  constructor
  · rintro ⟨_, _, _, _, _, encoded, _, rfl, rfl⟩
    exact encoded
  · intro encoded
    obtain ⟨⟨nonempty, few⟩, valids, small, rfl⟩ := encodeWrappers_eq_ok.mp encoded
    have bound : wrappers.length < 2 ^ 64 := lt_of_le_of_lt few (by decide)
    have count : (UInt64.ofNat wrappers.length).toNat = wrappers.length := by
      rw [UInt64.toNat_ofNat', Nat.mod_eq_of_lt bound]
    have parsed : wrapperList (spellWrappers wrappers) = (.ok wrappers, []) := by
      unfold wrapperList
      simp only [(cbor_spells Reader.array_spells).bind_eq_ok, true_and, Fallible.require_bind_eq_ok,
        (decodeEach_spells _).bind_eq_ok]
      simp only [Fallible.bind_eq_ok, cbor_finish_eq_ok, Fallible.pure_eq_ok]
      refine ⟨_, _, rfl, ⟨?_, by rwa [count]⟩, wrappers, [], ⟨⟨count.symm, valids⟩, ?_⟩, (), [], ⟨rfl, rfl⟩, rfl, rfl⟩
      · intro zero
        rw [zero] at count
        exact nonempty (List.length_eq_zero_iff.mp count.symm)
      · rw [List.append_nil]
    exact ⟨(), small, wrappers, by rw [parsed], _, encoded, (), rfl, rfl⟩

namespace Metadata

theorem encode_eq_ok {metadata : Metadata} {bytes : Bytes} :
    metadata.encode = .ok bytes ↔
      metadata.validate = .ok () ∧ metadata.spell.length ≤ maxMetadataBytes ∧ bytes = metadata.spell := by
  unfold encode
  simp only [except_bind_eq_ok, except_require_eq_ok, except_pure_eq_ok]
  constructor
  · rintro ⟨_, valid, _, small, rfl⟩
    exact ⟨valid, small, rfl⟩
  · rintro ⟨valid, small, rfl⟩
    exact ⟨(), valid, (), small, rfl⟩

theorem fields_spell {metadata : Metadata} (name : (utf8 metadata.originalName).length < 2 ^ 64) :
    fields metadata.spell = (.ok metadata, []) := by
  unfold fields
  simp only [(cbor_spells Reader.array_spells).bind_eq_ok, (cbor_spells Reader.uint_spells).bind_eq_ok,
    (cbor_spells Reader.text_spells).bind_eq_ok, (cbor_spells Reader.int_spells).bind_eq_ok, true_and,
    Fallible.require_bind_eq_ok]
  simp only [Fallible.bind_eq_ok, cbor_finish_eq_ok, Fallible.pure_eq_ok]
  rw [← List.append_nil metadata.spell]
  refine ⟨_, _, by simp only [spell, List.append_assoc], rfl, _, _, rfl, rfl, metadata.originalName, _,
    ⟨name, rfl⟩, metadata.mode.toUInt64, _, rfl, ?_, metadata.modifiedAtMs, _, rfl, metadata.originalLen, [],
    rfl, (), [], ⟨rfl, rfl⟩, ?_, rfl⟩
  · exact metadata.mode.toNat_lt
  · simp

/-- Sealed metadata still fits its section. -/
theorem spell_length_le {metadata : Metadata} (valid : metadata.validate = .ok ()) :
    metadata.spell.length + tagLen ≤ maxMetadataBytes := by
  have name := utf8_length_le metadata.originalName
  have few := (except_require_eq_ok.mp valid).2
  have shape := Writer.head_length_le majorArray metadataFields
  have schema := Writer.head_length_le majorUint metadataSchema
  have text := Writer.head_length_le majorText (UInt64.ofNat (utf8 metadata.originalName).length)
  have mode := Writer.head_length_le majorUint metadata.mode.toUInt64
  have modified : (Writer.int metadata.modifiedAtMs).length ≤ 9 := by
    unfold Writer.int
    split <;> exact Writer.head_length_le _ _
  have last := Writer.head_length_le majorUint metadata.originalLen
  simp only [spell, Writer.array, Writer.uint, Writer.text, List.length_append, maxNameUnits, maxMetadataBytes,
    tagLen] at *
  omega

/-- The metadata reader accepts exactly what the metadata writer writes. -/
theorem decode_eq_ok {bytes : Bytes} {metadata : Metadata} :
    decode bytes = .ok metadata ↔ metadata.encode = .ok bytes := by
  unfold decode
  simp only [except_bind_eq_ok, except_require_eq_ok, except_pure_eq_ok]
  constructor
  · rintro ⟨_, _, _, _, _, _, _, encoded, _, rfl, rfl⟩
    exact encoded
  · intro encoded
    obtain ⟨valid, small, rfl⟩ := encode_eq_ok.mp encoded
    have units := utf8_length_le metadata.originalName
    have few := (except_require_eq_ok.mp valid).2
    simp only [maxNameUnits] at few
    refine ⟨(), small, metadata, ?_, (), valid, _, encoded, (), rfl, rfl⟩
    rw [fields_spell (by omega)]

end Metadata

end BioAuth.Locker
