import BioAuth.Cbor
import BioAuth.Crypto

namespace BioAuth.Locker
open BioAuth

/-- A directory entry named by its directory and, in it, its file name as the platform's octets. -/
structure Path where
  directory : List Bytes
  name : Bytes
  deriving DecidableEq

inductive IoError
  | notFound
  | permissionDenied
  | alreadyExists
  | isADirectory
  | invalidFilename
  | storageFull
  | unexpectedEof
  | other
  deriving DecidableEq, Repr

inductive WrapperKind
  | phone
  | recovery
  deriving DecidableEq, Repr

inductive LockerError
  | io (error : IoError)
  | notAContainer
  | unsupportedVersion (version : UInt8)
  | malformed (reason : String)
  | tooLarge (name : String) (limit : Nat)
  | corrupt
  | noWrapper (kind : WrapperKind)
  | badRecoveryCode
  | unsafeName
  | notARegularFile (what : String)
  | sharedOriginal
  | destinationExists (path : Path)
  | inputChanged
  | denied (message : String)
  /-- None of the crate's own errors: how a call that panics ends. -/
  | panicked
  deriving DecidableEq

def LockerError.ofCbor (_ : CborError) : LockerError := .malformed "invalid CBOR"

/-- A reader of one section, with the CBOR errors already turned into the crate's own. -/
abbrev Section := Parse LockerError

def cbor {α : Type} (p : Parse CborError α) : Section α := p.mapError LockerError.ofCbor

/-- `b"BIOALCK"`. -/
def magicPrefix : Bytes := [0x42, 0x49, 0x4f, 0x41, 0x4c, 0x43, 0x4b]

def containerVersion : UInt8 := 1

def cipherChacha20Poly1305 : UInt64 := 1

def chunkSize : UInt32 := 64 * 1024
def minChunkSize : UInt32 := 4 * 1024
def maxChunkSize : UInt32 := 1024 * 1024

def noncePrefixLen : Nat := 7
def saltLen : Nat := 32
abbrev nonceLen : Nat := 12

/-- `u32::MAX - 1`. -/
def maxChunkIndex : Nat := 2 ^ 32 - 2

def maxCoreBytes : Nat := 4096
def maxWrapperBytes : Nat := 8192
def maxMetadataBytes : Nat := 4096
def maxWrappers : Nat := 8
def maxWrapperCiphertext : Nat := 512
def maxNameUnits : Nat := 255
def maxIdUnits : Nat := 64

def lockerExtension : Bytes := utf8 "balock"

def bindingDomain : Bytes := utf8 "bioauth-locker-binding-v1"
def wrapperDomain : Bytes := utf8 "bioauth-locker-wrapper-v1"
def contentInfo : Bytes := utf8 "bioauth-locker-content-v1"
def metadataInfo : Bytes := utf8 "bioauth-locker-metadata-v1"
def recoveryInfo : Bytes := utf8 "bioauth-locker-recovery-v1"

def coreFields : UInt64 := 6
def wrapperFields : UInt64 := 5
def metadataFields : UInt64 := 5
def metadataSchema : UInt64 := 1

def fixed (n : Nat) (value : Bytes) (field : String) : Except LockerError (Block n) :=
  if length : value.length = n then .ok ⟨value, length⟩ else .error (.malformed field)

/-- The public part of a container: no name, no key, no secret. -/
structure CoreHeader where
  containerVersion : UInt8
  chunkSize : UInt32
  noncePrefix : Block noncePrefixLen
  contentSalt : Block saltLen
  plaintextLen : UInt64
  deriving DecidableEq

namespace CoreHeader

/-- How many chunks the plaintext occupies. An empty file still has one. -/
def chunkCount (header : CoreHeader) : Nat :=
  let size := header.chunkSize.toNat
  if header.plaintextLen = 0 then 1 else (header.plaintextLen.toNat + size - 1) / size

def validate (header : CoreHeader) : Except LockerError Unit := do
  require (header.containerVersion = Locker.containerVersion) (.unsupportedVersion header.containerVersion)
  require ((minChunkSize ≤ header.chunkSize ∧ header.chunkSize ≤ maxChunkSize) ∧
    header.chunkSize.toNat.isPowerOfTwo) (.malformed "chunk size")
  require (header.chunkCount ≤ maxChunkIndex) (.malformed "plaintext length")

def encode (header : CoreHeader) : Bytes :=
  Writer.array coreFields ++ Writer.uint header.containerVersion.toUInt64 ++
    Writer.uint cipherChacha20Poly1305 ++ Writer.uint header.chunkSize.toUInt64 ++
    Writer.bytes header.noncePrefix.val ++ Writer.bytes header.contentSalt.val ++
    Writer.uint header.plaintextLen

/-- The fields of a header in the order they are read. -/
def fields : Section CoreHeader := do
  let shape ← cbor Reader.array
  require (shape = coreFields) (.malformed "header shape")
  let version ← cbor Reader.uint
  require (version.toNat < 2 ^ 8) (.malformed "container version")
  require (version.toUInt8 = Locker.containerVersion) (.unsupportedVersion version.toUInt8)
  let cipher ← cbor Reader.uint
  require (cipher = cipherChacha20Poly1305) (.malformed "cipher")
  let size ← cbor Reader.uint
  require (size.toNat < 2 ^ 32) (.malformed "chunk size")
  let noncePrefix ← fixed noncePrefixLen (← cbor Reader.bytes) "nonce prefix"
  let contentSalt ← fixed saltLen (← cbor Reader.bytes) "content salt"
  let plaintextLen ← cbor Reader.uint
  cbor Reader.finish
  return ⟨version.toUInt8, size.toUInt32, noncePrefix, contentSalt, plaintextLen⟩

def decode (bytes : Bytes) : Except LockerError CoreHeader := do
  require (bytes.length ≤ maxCoreBytes) (.tooLarge "header" maxCoreBytes)
  let header ← (fields bytes).1
  header.validate
  require (header.encode = bytes) (.malformed "header is not canonical")
  return header

/-- The nonce of chunk `index`: prefix, index as a `u32`, and whether it is the last one. -/
def chunkNonce (header : CoreHeader) (index : Nat) (finalChunk : Bool) : Block nonceLen :=
  ⟨header.noncePrefix.val ++ BigEndian.encode 4 index ++ [if finalChunk then 1 else 0], by
    simp [header.noncePrefix.property, noncePrefixLen, nonceLen]⟩

/-- The nonce of the metadata block. No chunk reaches counter `0xFFFFFFFF`, and no chunk's final
octet is ever 2. -/
def metadataNonce (header : CoreHeader) : Block nonceLen :=
  ⟨header.noncePrefix.val ++ BigEndian.encode 4 (2 ^ 32 - 1) ++ [2], by
    simp [header.noncePrefix.property, noncePrefixLen, nonceLen]⟩

end CoreHeader

def magic : Bytes := magicPrefix ++ [containerVersion]

/-- The value every tag in the container authenticates. -/
def bindingOf [Crypto] (core : Bytes) : Block 32 :=
  Crypto.sha256 (bindingDomain ++ magic ++ core)

namespace WrapperKind

def wire : WrapperKind → UInt64
  | phone => 0
  | recovery => 1

def fromWire (value : UInt64) : Except LockerError WrapperKind :=
  if value = 0 then .ok phone
  else if value = 1 then .ok recovery
  else .error (.malformed "wrapper kind")

end WrapperKind

/-- What a wrapper's own tag covers, on top of the container it belongs to. -/
def wrapperAad [Crypto] (binding : Block 32) (kind : WrapperKind) (id : String) : Block 32 :=
  Crypto.sha256 (wrapperDomain ++ binding.val ++ [kind.wire.toUInt8] ++ utf8 id)

/-- One wrapped copy of the data key. -/
structure Wrapper where
  kind : WrapperKind
  id : String
  salt : Bytes
  nonce : Bytes
  ciphertext : Bytes
  deriving DecidableEq

namespace Wrapper

def validate (wrapper : Wrapper) : Except LockerError Unit := do
  require (utf16Len wrapper.id ≤ maxIdUnits) (.malformed "wrapper id")
  require (wrapper.ciphertext ≠ [] ∧ wrapper.ciphertext.length ≤ maxWrapperCiphertext)
    (.malformed "wrapper ciphertext")
  let (salt, nonce) := match wrapper.kind with
    | .phone => (0, 0)
    | .recovery => (saltLen, nonceLen)
  require (wrapper.salt.length = salt ∧ wrapper.nonce.length = nonce) (.malformed "wrapper salt or nonce")

def encode (wrapper : Wrapper) : Bytes :=
  Writer.array wrapperFields ++ Writer.uint wrapper.kind.wire ++ Writer.text wrapper.id ++
    Writer.bytes wrapper.salt ++ Writer.bytes wrapper.nonce ++ Writer.bytes wrapper.ciphertext

def decode : Section Wrapper := do
  let shape ← cbor Reader.array
  require (shape = wrapperFields) (.malformed "wrapper shape")
  let kind ← WrapperKind.fromWire (← cbor Reader.uint)
  let id ← cbor Reader.text
  let salt ← cbor Reader.bytes
  let nonce ← cbor Reader.bytes
  let ciphertext ← cbor Reader.bytes
  let wrapper : Wrapper := ⟨kind, id, salt, nonce, ciphertext⟩
  wrapper.validate
  return wrapper

end Wrapper

/-- The wrappers one after another, each checked just before it is written. -/
def encodeEach : List Wrapper → Except LockerError Bytes
  | [] => .ok []
  | wrapper :: wrappers => do
    wrapper.validate
    return wrapper.encode ++ (← encodeEach wrappers)

def encodeWrappers (wrappers : List Wrapper) : Except LockerError Bytes := do
  require (wrappers ≠ [] ∧ wrappers.length ≤ maxWrappers) (.malformed "wrapper count")
  let encoded := Writer.array (UInt64.ofNat wrappers.length) ++ (← encodeEach wrappers)
  require (encoded.length ≤ maxWrapperBytes) (.tooLarge "wrappers" maxWrapperBytes)
  return encoded

/-- The next `count` wrappers. -/
def decodeEach : Nat → Section (List Wrapper)
  | 0 => return []
  | count + 1 => do
    let wrapper ← Wrapper.decode
    return wrapper :: (← decodeEach count)

def wrapperList : Section (List Wrapper) := do
  let count ← cbor Reader.array
  require (count ≠ 0 ∧ count.toNat ≤ maxWrappers) (.malformed "wrapper count")
  let wrappers ← decodeEach count.toNat
  cbor Reader.finish
  return wrappers

def decodeWrappers (bytes : Bytes) : Except LockerError (List Wrapper) := do
  require (bytes.length ≤ maxWrapperBytes) (.tooLarge "wrappers" maxWrapperBytes)
  let wrappers ← (wrapperList bytes).1
  let encoded ← encodeWrappers wrappers
  require (encoded = bytes) (.malformed "wrappers are not canonical")
  return wrappers

/-- What the container knows about the file it holds, under a key of its own. -/
structure Metadata where
  originalName : String
  mode : UInt32
  modifiedAtMs : Int64
  originalLen : UInt64
  deriving DecidableEq

/-- The stems Windows keeps for its devices, in upper case. -/
def deviceStem (stem : Bytes) : Bool :=
  stem == utf8 "CON" || stem == utf8 "PRN" || stem == utf8 "AUX" || stem == utf8 "NUL"

def toAsciiUppercase (byte : UInt8) : UInt8 :=
  if 0x61 ≤ byte ∧ byte ≤ 0x7a then byte - 0x20 else byte

/-- The characters `char::is_control` names: the general category Cc. -/
def isControl (c : Char) : Bool :=
  c.val.toNat < 0x20 || (0x7f ≤ c.val.toNat && c.val.toNat < 0xa0)

def forbiddenInName (c : Char) : Bool :=
  c == '/' || c == '\\' || c == ':' || c == '*' || c == '?' || c == '"' || c == '<' || c == '>' || c == '|' ||
    isControl c

namespace Metadata

def validate (metadata : Metadata) : Except LockerError Unit :=
  require (utf8 metadata.originalName ≠ [] ∧ utf16Len metadata.originalName ≤ maxNameUnits) .unsafeName

/-- The spelling of the metadata, before its size is checked. -/
def spell (metadata : Metadata) : Bytes :=
  Writer.array metadataFields ++ Writer.uint metadataSchema ++ Writer.text metadata.originalName ++
    Writer.uint metadata.mode.toUInt64 ++ Writer.int metadata.modifiedAtMs ++ Writer.uint metadata.originalLen

def encode (metadata : Metadata) : Except LockerError Bytes := do
  metadata.validate
  require (metadata.spell.length ≤ maxMetadataBytes) (.tooLarge "metadata" maxMetadataBytes)
  return metadata.spell

def fields : Section Metadata := do
  let shape ← cbor Reader.array
  require (shape = metadataFields) (.malformed "metadata shape")
  let schema ← cbor Reader.uint
  require (schema = metadataSchema) (.malformed "metadata schema")
  let originalName ← cbor Reader.text
  let mode ← cbor Reader.uint
  require (mode.toNat < 2 ^ 32) (.malformed "mode")
  let modifiedAtMs ← cbor Reader.int
  let originalLen ← cbor Reader.uint
  cbor Reader.finish
  return ⟨originalName, mode.toUInt32, modifiedAtMs, originalLen⟩

def decode (bytes : Bytes) : Except LockerError Metadata := do
  require (bytes.length ≤ maxMetadataBytes) (.tooLarge "metadata" maxMetadataBytes)
  let metadata ← (fields bytes).1
  metadata.validate
  let encoded ← metadata.encode
  require (encoded = bytes) (.malformed "metadata is not canonical")
  return metadata

/-- Whether an octet goes on a character that began before it. -/
def continuation (byte : UInt8) : Bool := 0x80 ≤ byte && byte < 0xc0

/-- Whether the name, up to its first dot, is one of the device names Windows reserves. A stem of four
octets is cut before its last one, which panics where that cut falls inside a character. -/
def reserved (name : Bytes) : Except LockerError Bool :=
  let stem := (name.takeWhile (· != 0x2e)).map toAsciiUppercase
  if deviceStem stem then .ok true
  else if stem.length ≠ 4 then .ok false
  else if (stem.drop 3).any continuation then .error .panicked
  else
    .ok ((stem.take 3 == utf8 "COM" || stem.take 3 == utf8 "LPT") &&
      (stem.drop 3).all fun digit => 0x30 ≤ digit && digit ≤ 0x39)

/-- The file name to write, checked against everything a hostile container might put there. -/
def safeFileName (metadata : Metadata) : Except LockerError String := do
  let name := metadata.originalName
  let bytes := utf8 name
  let reserved ← reserved bytes
  require (¬(bytes = [] ∨ bytes = [0x2e] ∨ bytes = [0x2e, 0x2e] ∨ reserved ∨ bytes.getLast? = some 0x20 ∨
    bytes.getLast? = some 0x2e ∨ name.toList.any forbiddenInName)) .unsafeName
  return name

end Metadata

end BioAuth.Locker
