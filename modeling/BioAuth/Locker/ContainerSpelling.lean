import BioAuth.Locker.Chunks

namespace BioAuth.Locker
open BioAuth

/-- A section as it stands in a container: its length in four octets, and its content. -/
def spellSection (content : Bytes) : Bytes := BigEndian.encode 4 content.length ++ content

theorem readSection_eq_ok {name : String} {limit : Nat} (fits : limit < 2 ^ 32) {content : Bytes} {s t : Stream} :
    readSection name limit s = (.ok content, t) ↔
      content.length ≤ limit ∧ s.bytes = spellSection content ++ t.bytes ∧ s.ending = t.ending := by
  unfold readSection
  simp only [Fallible.bind_eq_ok, Fallible.mapError_eq_ok, Stream.readExact_eq_ok, Fallible.require_eq_ok]
  constructor
  · rintro ⟨digits, u, ⟨width, read, ending⟩, _, _, ⟨small, rfl⟩, length, rest, last⟩
    refine ⟨by omega, ?_, ending.trans last⟩
    rw [read, rest, spellSection, length, ← width, BigEndian.encode_decode, List.append_assoc]
  · rintro ⟨small, read, ending⟩
    have value : BigEndian.decode (BigEndian.encode 4 content.length) = content.length :=
      BigEndian.decode_encode_of_lt (lt_of_le_of_lt small fits)
    refine ⟨BigEndian.encode 4 content.length, ⟨content ++ t.bytes, s.ending⟩, ⟨BigEndian.encode_length _ _, ?_, rfl⟩,
      (), _, ⟨by rwa [value], rfl⟩, value.symm, rfl, ending⟩
    rw [read, spellSection, List.append_assoc]

namespace ContainerHead

/-- A head that could have been read: each of its parts decodes, and belongs to the others. -/
structure Valid [Crypto] (head : ContainerHead) : Prop where
  header : head.header.validate = .ok ()
  core : head.core = head.header.encode
  binding : head.binding = bindingOf head.core
  wrappers : encodeWrappers head.wrappers = .ok (spellWrappers head.wrappers)
  metadata : tagLen < head.metadata.length ∧ head.metadata.length ≤ maxMetadataBytes

/-- The front of the container that has this head. -/
def spell (head : ContainerHead) : Bytes :=
  magic ++ spellSection head.core ++ spellSection (spellWrappers head.wrappers) ++ spellSection head.metadata

theorem magic_split {bytes : Bytes} (length : bytes.length = 8)
    (front : bytes.take magicPrefix.length = magicPrefix) (version : bytes.getD 7 0 = containerVersion) :
    bytes = magic := by
  have split := List.take_append_drop magicPrefix.length bytes
  have rest : (bytes.drop magicPrefix.length).length = 1 := by
    rw [List.length_drop, length]
    rfl
  obtain ⟨byte, last⟩ := List.length_eq_one_iff.mp rest
  rw [front, last] at split
  rw [← split] at version ⊢
  rw [magic, ← version]
  rfl

variable [Crypto]

/-- Reading a head takes its one spelling off the front of the container, and accepts no other. -/
theorem read_eq_ok {head : ContainerHead} {s t : Stream} :
    read s = (.ok head, t) ↔ head.Valid ∧ s.bytes = head.spell ++ t.bytes ∧ s.ending = t.ending := by
  unfold read
  have header : maxCoreBytes < 2 ^ 32 := by decide
  have wrappers : maxWrapperBytes < 2 ^ 32 := by decide
  have metadata : maxMetadataBytes < 2 ^ 32 := by decide
  simp only [↓Fallible.require_bind_eq_ok, ↓Fallible.liftM_bind_eq_ok, CoreHeader.decode_eq_ok,
    decodeWrappers_eq_ok, Fallible.bind_eq_ok, Fallible.mapError_eq_ok, Stream.readExact_eq_ok,
    readSection_eq_ok header, readSection_eq_ok wrappers, readSection_eq_ok metadata, Fallible.pure_eq_ok]
  constructor
  · rintro ⟨front, _, ⟨length, read, end₁⟩, start, version, core, _, ⟨_, read₁, end₂⟩, found, ⟨valid, rfl⟩,
      encoded, _, ⟨_, read₂, end₃⟩, listed, written, block, _, ⟨small, read₃, end₄⟩, large, rfl, rfl⟩
    obtain rfl := magic_split length start version
    obtain ⟨_, _, _, rfl⟩ := encodeWrappers_eq_ok.mp written
    refine ⟨⟨valid, rfl, rfl, written, large, small⟩, ?_, ((end₁.trans end₂).trans end₃).trans end₄⟩
    rw [read, read₁, read₂, read₃]
    simp only [spell, List.append_assoc]
  · rintro ⟨⟨valid, core, binding, written, large, small⟩, read, ending⟩
    have count := encodeWrappers_eq_ok.mp written
    refine ⟨magic, ⟨spellSection head.core ++ (spellSection (spellWrappers head.wrappers) ++
        (spellSection head.metadata ++ t.bytes)), s.ending⟩, ⟨rfl, ?_, rfl⟩, rfl, rfl, head.core,
      ⟨_, s.ending⟩, ⟨?_, rfl, rfl⟩, head.header, ⟨valid, core⟩, spellWrappers head.wrappers,
      ⟨spellSection head.metadata ++ t.bytes, s.ending⟩, ⟨count.2.2.1, rfl, rfl⟩, head.wrappers, written,
      head.metadata, t, ⟨small, rfl, ending⟩, large, ?_, rfl⟩
    · rw [read]
      simp only [spell, List.append_assoc]
    · rw [core]
      exact CoreHeader.encode_length_le _
    · rw [← binding]

/-- Reading back a head that was written. -/
theorem read_spell {head : ContainerHead} (valid : head.Valid) (rest : Bytes) (ending : Option IoError) :
    read ⟨head.spell ++ rest, ending⟩ = (.ok head, ⟨rest, ending⟩) :=
  read_eq_ok.mpr ⟨valid, rfl, rfl⟩

end ContainerHead

end BioAuth.Locker
