import BioAuth.Lib.Regroup
import BioAuth.Locker.Format

namespace BioAuth.Locker
open BioAuth

/-- The secret behind a recovery code. -/
abbrev RecoveryKey := Block 32

def alphabet : Bytes := utf8 "ABCDEFGHIJKLMNOPQRSTUVWXYZ234567"

def codePrefix : String := "BAL1"

def group : Nat := 4

/-- A code as far as it has been written, and how many characters of its body that are. -/
abbrev Written := List Char × Nat

def push (out : Written) (index : Nat) : Written :=
  let code := if out.2 % group = 0 then out.1 ++ ['-'] else out.1
  (code ++ [Char.ofUInt8 (alphabet.getD index 0)], out.2 + 1)

/-- Write characters while five bits are left. -/
def drain (accumulator : UInt32) : Nat → Written → Nat × Written
  | bits + 5, out =>
    drain accumulator bits (push out ((accumulator >>> UInt32.ofNat bits).toNat &&& 31))
  | bits, out => (bits, out)

def formatByte (state : UInt32 × Nat × Written) (byte : UInt8) : UInt32 × Nat × Written :=
  let (accumulator, bits, out) := state
  let accumulator := accumulator <<< 8 ||| byte.toUInt32
  (accumulator, drain accumulator (bits + 8) out)

/-- Renders a recovery key as the code the user writes down. -/
def formatRecoveryCode (key : RecoveryKey) : String :=
  let (accumulator, bits, out) := key.val.foldl formatByte (0, 0, codePrefix.toList, 0)
  let out := if 0 < bits then push out ((accumulator <<< UInt32.ofNat (5 - bits)).toNat &&& 31) else out
  String.ofList out.1

/-- The characters with the property White_Space, as `char::is_whitespace` has them. -/
def isWhitespace (c : Char) : Bool :=
  let code := c.val.toNat
  (0x09 ≤ code && code ≤ 0x0d) || code == 0x20 || code == 0x85 || code == 0xa0 || code == 0x1680 ||
    (0x2000 ≤ code && code ≤ 0x200a) || code == 0x2028 || code == 0x2029 || code == 0x202f || code == 0x205f ||
    code == 0x3000

/-- A character that is not there for the reader only. -/
def kept (c : Char) : Bool := !isWhitespace c && c != '-' && c != '_'

def cleaned (code : String) : Bytes :=
  (utf8 (String.ofList (code.toList.filter kept))).map toAsciiUppercase

def parseByte (state : UInt32 × Nat × Bytes) (character : UInt8) :
    Except LockerError (UInt32 × Nat × Bytes) := do
  let (accumulator, bits, bytes) := state
  require (character ∈ alphabet) .badRecoveryCode
  let accumulator := accumulator <<< 5 ||| UInt32.ofNat (alphabet.idxOf character)
  let bits := bits + 5
  if 8 ≤ bits then
    return (accumulator, bits - 8, bytes ++ [(accumulator >>> UInt32.ofNat (bits - 8)).toUInt8])
  else
    return (accumulator, bits, bytes)

/-- Parses a code the user typed. The trailing bits are padding and have to be zero. -/
def parseRecoveryCode (code : String) : Except LockerError RecoveryKey := do
  let cleaned := cleaned code
  require (utf8 codePrefix <+: cleaned) .badRecoveryCode
  let body := cleaned.drop (utf8 codePrefix).length
  require (body.length = 52) .badRecoveryCode
  let (accumulator, bits, bytes) ← body.foldlM parseByte (0, 0, [])
  if padded : bytes.length = 32 ∧ accumulator &&& ((1 <<< UInt32.ofNat bits) - 1) = 0 then
    return ⟨bytes, padded.1⟩
  else
    throw .badRecoveryCode

end BioAuth.Locker
