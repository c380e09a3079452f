import BioAuth.Lib.Parse
import BioAuth.Lib.Text
import BioAuth.Protocol.Common

/-! The SSH wire encodings a phone-held key has to speak. -/

namespace BioAuth.Protocol.Ssh
open BioAuth

/-- The key type name, as it appears on the wire. -/
def ecdsaP256Name : String := "ecdsa-sha2-nistp256"

def ecdsaP256Curve : String := "nistp256"

/-- An uncompressed P-256 point: `0x04 || X || Y`. -/
def uncompressedPointLen : Nat := 65

/-- One coordinate of a P-256 signature. -/
def scalarLen : Nat := 32

/-- A cap on any length-prefixed field read from a socket. -/
def maxFieldBytes : Nat := 64 * 1024

section Writer

def uint32 (value : Nat) : Bytes := BigEndian.encode 4 value

/-- A 32-bit length followed by that many octets. -/
def string (value : Bytes) : Bytes := uint32 value.length ++ value

def text (value : String) : Bytes := string (utf8 value)

/-- A signed integer without leading zeros, and with one where the high bit would make it negative. -/
def mpint (value : Bytes) : Bytes :=
  match value.dropWhile fun byte => byte = 0 with
  | [] => uint32 0
  | first :: rest =>
    if first &&& 0x80 ≠ 0 then uint32 (rest.length + 2) ++ 0 :: first :: rest else string (first :: rest)

end Writer

section Reader

abbrev SshReader (α : Type) := Parse ProtocolError α

def readU32 : SshReader Nat := do
  let bytes ← Parse.take .unexpectedEnd 4
  return BigEndian.decode bytes

def readU8 : SshReader UInt8 := do
  let bytes ← Parse.take .unexpectedEnd 1
  return bytes.headD 0

def readString : SshReader Bytes := do
  let length ← readU32
  require (length ≤ maxFieldBytes) (ProtocolError.payloadSize length)
  Parse.take .unexpectedEnd length

def readText : SshReader String := do
  let bytes ← readString
  liftM (okOr (ProtocolError.invalidText "sshText") (fromUtf8 bytes))

def finish : SshReader Unit := do
  let rest ← get
  require (rest = []) ProtocolError.notCanonical

end Reader

/-- The public key blob of an uncompressed point, as it appears in an agent's identity list. -/
def encodePublicKey (point : Bytes) : Except ProtocolError Bytes := do
  require (point.length = uncompressedPointLen ∧ point.head? = some 0x04)
    (ProtocolError.fieldLength "sshPublicKeyPoint" uncompressedPointLen point.length)
  return text ecdsaP256Name ++ text ecdsaP256Curve ++ string point

def readPublicKey : SshReader Bytes := do
  require ((← readText) = ecdsaP256Name) ProtocolError.invalidOperation
  require ((← readText) = ecdsaP256Curve) ProtocolError.invalidOperation
  let point ← readString
  finish
  require (point.length = uncompressedPointLen ∧ point.head? = some 0x04)
    (ProtocolError.fieldLength "sshPublicKeyPoint" uncompressedPointLen point.length)
  return point

/-- The point inside a public key blob. -/
def decodePublicKey (blob : Bytes) : Except ProtocolError Bytes := (readPublicKey blob).1

/-- The signature blob, from a raw `r || s` pair. -/
def encodeSignature (raw : Bytes) : Except ProtocolError Bytes := do
  require (raw.length = scalarLen * 2) (ProtocolError.fieldLength "sshSignature" (scalarLen * 2) raw.length)
  let inner := mpint (raw.take scalarLen) ++ mpint (raw.drop scalarLen)
  return text ecdsaP256Name ++ string inner

/-- One scalar of a signature, padded back to 32 octets. -/
def decodeScalar (scalar : Bytes) : Except ProtocolError Bytes := do
  let trimmed := scalar.dropWhile fun byte => byte = 0
  require (trimmed.length ≤ scalarLen) (ProtocolError.fieldLength "sshSignatureScalar" scalarLen trimmed.length)
  return List.replicate (scalarLen - trimmed.length) 0 ++ trimmed

def readSignature : SshReader Bytes := do
  require ((← readText) = ecdsaP256Name) ProtocolError.invalidOperation
  let inner ← readString
  finish
  return inner

def readScalars : SshReader (Bytes × Bytes) := do
  let r ← readString
  let s ← readString
  finish
  return (r, s)

/-- The `r || s` pair inside a signature blob. -/
def decodeSignature (blob : Bytes) : Except ProtocolError Bytes := do
  let inner ← (readSignature blob).1
  let (r, s) ← (readScalars inner).1
  return (← decodeScalar r) ++ (← decodeScalar s)

/-- The octets at the tail of a key that stand where the point of a P-256 key stands. -/
def pointFromSpki (spki : Bytes) : Except ProtocolError Bytes := do
  require (uncompressedPointLen ≤ spki.length) (ProtocolError.fieldLength "spki" uncompressedPointLen spki.length)
  let point := spki.drop (spki.length - uncompressedPointLen)
  require (point.head? = some 0x04) ProtocolError.invalidOperation
  return point

/-- A value is read back as it was written, whatever follows. -/
theorem readString_string {value : Bytes} (fits : value.length ≤ maxFieldBytes) (rest : Bytes) :
    readString (string value ++ rest) = (.ok value, rest) := by
  have small : value.length < 256 ^ 4 := fits.trans_lt (by decide)
  have width : (uint32 value.length).length = 4 := BigEndian.encode_length 4 _
  have number : readU32 (uint32 value.length ++ (value ++ rest)) = (.ok value.length, value ++ rest) := by
    unfold readU32
    rw [Fallible.bind_run_ok _ (Parse.take_eq_ok.mpr ⟨width, rfl⟩), uint32, BigEndian.decode_encode_of_lt small]
    rfl
  unfold readString string
  rw [List.append_assoc, Fallible.bind_run_ok _ number]
  exact Fallible.require_bind_eq_ok.mpr ⟨fits, Parse.take_eq_ok.mpr ⟨rfl, rfl⟩⟩

section Spelling

theorem readU32_spells : Parse.Spells readU32 (fun value => value < 256 ^ 4) uint32 := by
  intro s value rest
  simp only [readU32, Fallible.bind_eq_ok, Parse.take_eq_ok, Fallible.pure_eq_ok]
  constructor
  · rintro ⟨bytes, _, ⟨four, rfl⟩, rfl, rfl⟩
    have small := BigEndian.decode_lt bytes
    rw [four] at small
    refine ⟨small, ?_⟩
    rw [uint32, ← four, BigEndian.encode_decode]
  · rintro ⟨small, rfl⟩
    exact ⟨_, _, ⟨BigEndian.encode_length 4 value, rfl⟩, BigEndian.decode_encode_of_lt small, rfl⟩

theorem readU8_spells : Parse.Spells readU8 (fun _ => True) fun byte => [byte] := by
  intro s byte rest
  simp only [readU8, Fallible.bind_eq_ok, Parse.take_eq_ok, Fallible.pure_eq_ok]
  constructor
  · rintro ⟨bytes, _, ⟨one, rfl⟩, rfl, rfl⟩
    obtain ⟨only, rfl⟩ := List.length_eq_one_iff.mp one
    exact ⟨trivial, rfl⟩
  · rintro ⟨_, rfl⟩
    exact ⟨[byte], rest, ⟨rfl, rfl⟩, rfl, rfl⟩

theorem readString_spells : Parse.Spells readString (fun value => value.length ≤ maxFieldBytes) string := by
  intro s value rest
  constructor
  · intro run
    unfold readString at run
    obtain ⟨length, left, ⟨_, rfl⟩, checked⟩ := readU32_spells.bind_eq_ok.mp run
    obtain ⟨fits, taken⟩ := Fallible.require_bind_eq_ok.mp checked
    obtain ⟨rfl, rfl⟩ := Parse.take_eq_ok.mp taken
    exact ⟨fits, (List.append_assoc ..).symm⟩
  · rintro ⟨fits, rfl⟩
    exact readString_string fits rest

theorem readText_spells : Parse.Spells readText (fun value => (utf8 value).length ≤ maxFieldBytes) text := by
  intro s value rest
  simp only [readText, readString_spells.bind_eq_ok, Fallible.liftM_eq_ok, okOr_eq_ok, fromUtf8_eq_some]
  constructor
  · rintro ⟨_, _, ⟨fits, rfl⟩, rfl, rfl⟩
    exact ⟨fits, rfl⟩
  · rintro ⟨fits, rfl⟩
    exact ⟨_, _, ⟨fits, rfl⟩, rfl, rfl⟩

theorem finish_eq_ok {s t : Bytes} {u : Unit} : finish s = (.ok u, t) ↔ s = [] ∧ t = [] := by
  unfold finish
  rw [Fallible.bind_run_ok _ (Fallible.get_run s), Fallible.require_eq_ok]
  refine and_congr_right fun empty => ?_
  rw [empty, eq_comm]

/-- Two strings an SSH reader could tell apart, with whatever follows them. -/
theorem string_injective {a b s t : Bytes} (smallA : a.length < 256 ^ 4) (smallB : b.length < 256 ^ 4)
    (same : string a ++ s = string b ++ t) : a = b ∧ s = t := by
  simp only [string, uint32, List.append_assoc] at same
  obtain ⟨lengths, rest⟩ := List.append_inj same (by simp only [BigEndian.encode_length])
  exact List.append_inj rest (BigEndian.encode_injective smallA smallB lengths)

end Spelling

theorem encodePublicKey_eq_ok {point blob : Bytes} :
    encodePublicKey point = .ok blob ↔ (point.length = uncompressedPointLen ∧ point.head? = some 0x04) ∧
      blob = text ecdsaP256Name ++ text ecdsaP256Curve ++ string point := by
  unfold encodePublicKey
  simp only [except_bind_eq_ok, except_require_eq_ok, except_pure_eq_ok, exists_const, @eq_comm _ blob]

theorem exists_encodeSignature {raw : Bytes} (whole : raw.length = scalarLen * 2) : ∃ blob, encodeSignature raw = .ok blob := by
  unfold encodeSignature
  rw [require, if_pos whole]
  exact ⟨_, rfl⟩

end BioAuth.Protocol.Ssh
