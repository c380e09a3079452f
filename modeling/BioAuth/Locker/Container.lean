import BioAuth.Locker.Format

namespace BioAuth.Locker
open BioAuth

/-- A data encryption key, one for each container. -/
abbrev Dek := Block 32

def Dek.fromSlice (bytes : Bytes) : Option Dek :=
  if length : bytes.length = 32 then some ⟨bytes, length⟩ else none

theorem Dek.fromSlice_val (dek : Dek) : fromSlice dek.val = some dek := by
  unfold fromSlice
  rw [dif_pos dek.property]

section Sealing
variable [Crypto]

/-- HKDF-SHA256 with this crate's fixed output length. -/
def derive (ikm salt info : Bytes) : Block 32 := Crypto.hkdf salt ikm info 32

/-- The keys derived from one container's data key. -/
structure ContainerCipher where
  content : Block 32
  metadata : Block 32
  header : CoreHeader
  binding : Block 32

namespace ContainerCipher

def new (dek : Dek) (header : CoreHeader) (binding : Block 32) : ContainerCipher where
  content := derive dek.val header.contentSalt.val contentInfo
  metadata := derive dek.val header.contentSalt.val metadataInfo
  header := header
  binding := binding

def sealChunk (cipher : ContainerCipher) (index : Nat) (last : Bool) (buffer : Bytes) : Bytes :=
  Crypto.chacha20Poly1305.encrypt cipher.content (cipher.header.chunkNonce index last) cipher.binding.val buffer

/-- Failure is always `Corrupt`: which octet was wrong is not something a caller is told. -/
def openChunk (cipher : ContainerCipher) (index : Nat) (last : Bool) (buffer : Bytes) :
    Except LockerError Bytes :=
  match Crypto.chacha20Poly1305.decrypt cipher.content (cipher.header.chunkNonce index last) cipher.binding.val
      buffer with
  | some plaintext => .ok plaintext
  | none => .error .corrupt

def sealMetadata (cipher : ContainerCipher) (plaintext : Bytes) : Bytes :=
  Crypto.chacha20Poly1305.encrypt cipher.metadata cipher.header.metadataNonce cipher.binding.val plaintext

def openMetadata (cipher : ContainerCipher) (ciphertext : Bytes) : Except LockerError Bytes :=
  match Crypto.chacha20Poly1305.decrypt cipher.metadata cipher.header.metadataNonce cipher.binding.val
      ciphertext with
  | some plaintext => .ok plaintext
  | none => .error .corrupt

theorem openChunk_eq_ok {cipher : ContainerCipher} {index : Nat} {last : Bool} {buffer plaintext : Bytes} :
    cipher.openChunk index last buffer = .ok plaintext ↔
      Crypto.chacha20Poly1305.decrypt cipher.content (cipher.header.chunkNonce index last) cipher.binding.val buffer =
        some plaintext := by
  unfold openChunk
  split <;> simp_all

theorem openMetadata_eq_ok {cipher : ContainerCipher} {ciphertext plaintext : Bytes} :
    cipher.openMetadata ciphertext = .ok plaintext ↔
      Crypto.chacha20Poly1305.decrypt cipher.metadata cipher.header.metadataNonce cipher.binding.val ciphertext =
        some plaintext := by
  unfold openMetadata
  split <;> simp_all

end ContainerCipher

/-- Wraps a data key under a key-wrapping key, bound to one wrapper of one container by `aad`. -/
def sealKey (wrappingKey : Block 32) (nonce : Block nonceLen) (aad : Block 32) (dek : Dek) : Bytes :=
  Crypto.chacha20Poly1305.encrypt wrappingKey nonce aad.val dek.val

def openKey (wrappingKey : Block 32) (nonce : Block nonceLen) (aad : Block 32) (ciphertext : Bytes) :
    Except LockerError Dek :=
  match (Crypto.chacha20Poly1305.decrypt wrappingKey nonce aad.val ciphertext).bind Dek.fromSlice with
  | some dek => .ok dek
  | none => .error .corrupt

end Sealing

/-- What is left to read of an open file, and the error that reading on past it ends in, if any. -/
structure Stream where
  bytes : Bytes
  ending : Option IoError

namespace Stream

/-- `Read::read_exact`. -/
def readExact (n : Nat) : Fallible Stream IoError Bytes := fun s =>
  if n ≤ s.bytes.length then (.ok (s.bytes.take n), ⟨s.bytes.drop n, s.ending⟩)
  else (.error (s.ending.getD .unexpectedEof), ⟨[], s.ending⟩)

/-- `Read::read` into a buffer of one octet. It reads nothing at the end of the file. -/
def readOne : Fallible Stream IoError Bytes := fun s =>
  match s.bytes, s.ending with
  | byte :: rest, _ => (.ok [byte], ⟨rest, s.ending⟩)
  | [], none => (.ok [], s)
  | [], some error => (.error error, s)

end Stream

/-- The parsed front of a container. -/
structure ContainerHead where
  core : Bytes
  header : CoreHeader
  binding : Block 32
  wrappers : List Wrapper
  metadata : Bytes

section Sections

def readSection (name : String) (limit : Nat) : Fallible Stream LockerError Bytes := do
  let length ← (Stream.readExact 4).mapError fun _ => .malformed "truncated container"
  let length := BigEndian.decode length
  -- Checked before anything is allocated for it.
  require (length ≤ limit) (.tooLarge name limit)
  (Stream.readExact length).mapError fun _ => .malformed "truncated container"

/-- The limit the source names on this path is `u32::MAX`. -/
def writeSection {σ : Type} (write : Bytes → Fallible σ LockerError Unit) (content : Bytes) :
    Fallible σ LockerError Unit := do
  require (content.length < 2 ^ 32) (.tooLarge "section" (2 ^ 32 - 1))
  write (BigEndian.encode 4 content.length)
  write content

end Sections

namespace ContainerHead

def read [Crypto] : Fallible Stream LockerError ContainerHead := do
  let magicBytes ← (Stream.readExact 8).mapError fun _ => .notAContainer
  require (magicBytes.take magicPrefix.length = magicPrefix) .notAContainer
  require (magicBytes.getD 7 0 = containerVersion) (.unsupportedVersion (magicBytes.getD 7 0))
  let core ← readSection "header" maxCoreBytes
  let header ← CoreHeader.decode core
  let wrappers ← readSection "wrappers" maxWrapperBytes
  let wrappers ← decodeWrappers wrappers
  let metadata ← readSection "metadata" maxMetadataBytes
  require (tagLen < metadata.length) (.malformed "metadata")
  return { core, header, binding := bindingOf core, wrappers, metadata }

def wrapper (head : ContainerHead) (kind : WrapperKind) : Except LockerError Wrapper :=
  match head.wrappers.find? fun wrapper => wrapper.kind = kind with
  | some wrapper => .ok wrapper
  | none => .error (.noWrapper kind)

end ContainerHead

section Chunks
variable [Crypto] {σ : Type}

/-- Seal and write the next `todo` chunks. -/
def encryptEach (write : Bytes → Fallible σ LockerError Unit) (header : CoreHeader) (cipher : ContainerCipher) :
    (todo index remaining : Nat) → Stream → Fallible σ LockerError Stream
  | 0, _, _, reader => return reader
  | todo + 1, index, remaining, reader => do
    let take := min remaining header.chunkSize.toNat
    let (buffer, reader) ← Fallible.within ((Stream.readExact take).mapError fun _ => .inputChanged) reader
    write (cipher.sealChunk index (index + 1 == header.chunkCount) buffer)
    encryptEach write header cipher todo (index + 1) (remaining - take) reader

/-- A source that grew while it was read fails here: the chunks authenticate the length it had. -/
def encryptChunks (reader : Stream) (write : Bytes → Fallible σ LockerError Unit) (header : CoreHeader)
    (cipher : ContainerCipher) : Fallible σ LockerError Unit := do
  let reader ← encryptEach write header cipher header.chunkCount 0 header.plaintextLen.toNat reader
  let (extra, _) ← Fallible.within (Stream.readOne.mapError .io) reader
  require (extra = []) .inputChanged

def shortRead : IoError → LockerError
  | .unexpectedEof => .corrupt
  | error => .io error

/-- Open and write the next `todo` chunks. -/
def decryptEach (write : Bytes → Fallible σ LockerError Unit) (header : CoreHeader) (cipher : ContainerCipher) :
    (todo index remaining : Nat) → Stream → Fallible σ LockerError Stream
  | 0, _, _, reader => return reader
  | todo + 1, index, remaining, reader => do
    let take := min remaining header.chunkSize.toNat
    let (buffer, reader) ← Fallible.within ((Stream.readExact (take + tagLen)).mapError shortRead) reader
    let buffer ← cipher.openChunk index (index + 1 == header.chunkCount) buffer
    write buffer
    decryptEach write header cipher todo (index + 1) (remaining - take) reader

/-- Octets after the last chunk are not part of anything authenticated, so they are refused. -/
def decryptChunks (reader : Stream) (write : Bytes → Fallible σ LockerError Unit) (header : CoreHeader)
    (cipher : ContainerCipher) : Fallible σ LockerError Unit := do
  let reader ← decryptEach write header cipher header.chunkCount 0 header.plaintextLen.toNat reader
  let (extra, _) ← Fallible.within (Stream.readOne.mapError .io) reader
  require (extra = []) .corrupt

end Chunks

end BioAuth.Locker
