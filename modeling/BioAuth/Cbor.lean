import BioAuth.Lib.Parse
import BioAuth.Lib.Text

namespace BioAuth

inductive CborError
  | truncated
  | trailingBytes
  | nonCanonicalInteger
  | unsupportedItem
  | unexpectedType
  | outOfRange
  | invalidUtf8
  deriving DecidableEq, Repr

def majorUint : Nat := 0
def majorNegint : Nat := 1
def majorBytes : Nat := 2
def majorText : Nat := 3
def majorArray : Nat := 4

namespace Writer

/-- A major type with its argument in the shortest form that fits. The first octet is
`major << 5` with the five low bits set to what follows. -/
def head (major : Nat) (argument : UInt64) : Bytes :=
  let value := argument.toNat
  if value ≤ 23 then
    [UInt8.ofNat (32 * major + value)]
  else if value ≤ 0xff then
    UInt8.ofNat (32 * major + 24) :: BigEndian.encode 1 value
  else if value ≤ 0xffff then
    UInt8.ofNat (32 * major + 25) :: BigEndian.encode 2 value
  else if value ≤ 0xffff_ffff then
    UInt8.ofNat (32 * major + 26) :: BigEndian.encode 4 value
  else
    UInt8.ofNat (32 * major + 27) :: BigEndian.encode 8 value

def array (len : UInt64) : Bytes := head majorArray len

def uint (value : UInt64) : Bytes := head majorUint value

/-- Negative values use major type 1, whose argument is `-1 - value`. -/
def int (value : Int64) : Bytes :=
  if value.toInt < 0 then
    head majorNegint (UInt64.ofNat (-1 - value.toInt).toNat)
  else
    head majorUint (UInt64.ofNat value.toInt.toNat)

def text (value : String) : Bytes :=
  head majorText (UInt64.ofNat (utf8 value).length) ++ utf8 value

def bytes (value : Bytes) : Bytes :=
  head majorBytes (UInt64.ofNat value.length) ++ value

end Writer

namespace Reader

/-- The source also refuses, as out of range, a length whose end would pass `usize::MAX`;
no buffer is that long, so it is one of the truncated ones here. -/
def take (len : Nat) : Parse CborError Bytes := Parse.take .truncated len

/-- An argument of `width` octets, refused when a shorter form would have held it. -/
def argument (width least : Nat) : Parse CborError UInt64 := do
  let value := BigEndian.decode (← take width)
  if value < least then
    throw .nonCanonicalInteger
  else
    return UInt64.ofNat value

/-- One head: the major type in the three high bits and the argument named by the five low ones.
The arguments 28 to 30 are reserved and 31 is an indefinite length. -/
def head : Parse CborError (Nat × UInt64) := do
  let initial := BigEndian.decode (← take 1)
  let major := initial / 32
  let additional := initial % 32
  if additional ≤ 23 then
    return (major, UInt64.ofNat additional)
  else if additional = 24 then
    return (major, ← argument 1 24)
  else if additional = 25 then
    return (major, ← argument 2 0x100)
  else if additional = 26 then
    return (major, ← argument 4 0x1_0000)
  else if additional = 27 then
    return (major, ← argument 8 0x1_0000_0000)
  else
    throw .unsupportedItem

def expect (major : Nat) : Parse CborError UInt64 := do
  let (actual, argument) ← head
  if actual ≠ major then
    throw .unexpectedType
  else
    return argument

def array : Parse CborError UInt64 := expect majorArray

def uint : Parse CborError UInt64 := expect majorUint

def int : Parse CborError Int64 := do
  let (major, argument) ← head
  if major = majorUint then
    if argument.toNat < 2 ^ 63 then return Int64.ofInt argument.toNat else throw .outOfRange
  else if major = majorNegint then
    if argument.toNat < 2 ^ 63 then return Int64.ofInt (-1 - argument.toNat) else throw .outOfRange
  else
    throw .unexpectedType

def text : Parse CborError String := do
  let len ← expect majorText
  let bytes ← take len.toNat
  match fromUtf8 bytes with
  | some text => return text
  | none => throw .invalidUtf8

def bytes : Parse CborError Bytes := do
  let len ← expect majorBytes
  take len.toNat

/-- Fails unless every octet of the input has been consumed. -/
def finish : Parse CborError Unit := do
  if (← get).isEmpty then return () else throw .trailingBytes

end Reader

end BioAuth
