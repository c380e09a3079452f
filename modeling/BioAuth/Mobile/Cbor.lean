import BioAuth.CborSpelling
import BioAuth.Mobile.Dart

namespace BioAuth.Mobile
open BioAuth

namespace CborWriter

/-- A major type with its argument in the shortest form that fits. Every caller passes an argument of zero or more. -/
def head (major : Nat) (argument : Int64) : Bytes :=
  let value := argument.toInt.toNat
  if argument.toInt < 24 then
    [UInt8.ofNat (32 * major + value)]
  else if argument.toInt ≤ 0xff then
    UInt8.ofNat (32 * major + 24) :: BigEndian.encode 1 value
  else if argument.toInt ≤ 0xffff then
    UInt8.ofNat (32 * major + 25) :: BigEndian.encode 2 value
  else if argument.toInt ≤ 0xffff_ffff then
    UInt8.ofNat (32 * major + 26) :: BigEndian.encode 4 value
  else
    UInt8.ofNat (32 * major + 27) :: BigEndian.encode 8 value

def array (length : Nat) : Bytes := head majorArray (Int64.ofNat length)

def uint (value : Int64) : Except Refusal Bytes :=
  if value.toInt < 0 then .error (.cborException "negative value written as uint") else .ok (head majorUint value)

def int64 (value : Int64) : Bytes :=
  if value.toInt < 0 then head majorNegint (-1 - value) else head majorUint value

def text (value : String) : Bytes := head majorText (Int64.ofNat (utf8 value).length) ++ utf8 value

def bytes (value : Bytes) : Bytes := head majorBytes (Int64.ofNat value.length) ++ value

end CborWriter

/-- The reader: its buffer, split at the position. -/
structure CborReader where
  before : Bytes
  rest : Bytes
  fits : (before ++ rest).length < 2 ^ 62

namespace CborReader

def of (buffer : Uint8List) : CborReader := ⟨[], buffer.octets, buffer.fits⟩

def position (reader : CborReader) : Int64 := Int64.ofNat reader.before.length

/-- `_buffer.length`. -/
def bufferLength (reader : CborReader) : Nat := (reader.before ++ reader.rest).length

def skip (reader : CborReader) (n : Nat) : CborReader :=
  ⟨reader.before ++ reader.rest.take n, reader.rest.drop n, by simpa using reader.fits⟩

/-- The next `length` octets. The sum with the position wraps, and the view of the buffer then refuses its bounds. -/
def take (length : Int64) : Fallible CborReader Thrown Bytes := fun reader =>
  let stop := reader.position + length
  if length.toInt < 0 ∨ (reader.bufferLength : Int) < stop.toInt then
    (.error (cborException "truncated CBOR item"), reader)
  else if stop.toInt < reader.position.toInt then
    (.error .rangeError, reader)
  else
    let n := (stop - reader.position).toInt.toNat
    (.ok (reader.rest.take n), reader.skip n)

/-- An argument of `width` octets. Only the widest can have its top bit set and read as a number below zero. -/
def argument (width : Int64) (least : Int) : Fallible CborReader Thrown Int64 := do
  let value := Int64.ofNat (BigEndian.decode (← take width))
  require (0 ≤ value.toInt) (cborException "CBOR value out of range")
  require (least ≤ value.toInt) (cborException "non-canonical integer encoding")
  return value

def head : Fallible CborReader Thrown (Nat × Int64) := do
  let initial := BigEndian.decode (← take 1)
  let major := initial / 32
  let additional := initial % 32
  if additional < 24 then
    return (major, Int64.ofNat additional)
  else if additional = 24 then
    return (major, ← argument 1 24)
  else if additional = 25 then
    return (major, ← argument 2 0x100)
  else if additional = 26 then
    return (major, ← argument 4 0x1_0000)
  else if additional = 27 then
    return (major, ← argument 8 0x1_0000_0000)
  else
    throw (cborException "unsupported CBOR item")

def expect (major : Nat) : Fallible CborReader Thrown Int64 := do
  let (actual, argument) ← head
  if actual ≠ major then
    throw (cborException "unexpected CBOR major type")
  else
    return argument

def array : Fallible CborReader Thrown Int64 := expect majorArray

def uint : Fallible CborReader Thrown Int64 := expect majorUint

def int64 : Fallible CborReader Thrown Int64 := do
  let (major, argument) ← head
  if major = majorUint then return argument
  else if major = majorNegint then return (-1 - argument)
  else throw (cborException "unexpected CBOR major type")

/-- `_take(_expect(major))`. -/
def string (major : Nat) : Fallible CborReader Thrown Bytes := do
  let length ← expect major
  take length

def text : Fallible CborReader Thrown String := do
  let octets ← string majorText
  match utf8Decode octets with
  | some text => return text
  | none => throw (cborException "CBOR text string is not valid UTF-8")

def bytes : Fallible CborReader Thrown Bytes := string majorBytes

def finish : Fallible CborReader Thrown Unit := do
  let reader ← get
  require (reader.position.toInt = reader.bufferLength) (cborException "trailing bytes after CBOR item")

end CborReader

end BioAuth.Mobile
