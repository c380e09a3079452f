import BioAuth.Lib.Fallible
import BioAuth.Lib.Text

namespace BioAuth.Mobile
open BioAuth

/-- The exceptions with which the phone's decoders refuse an input. -/
inductive Refusal
  | cborException (message : String)
  | formatException (message : String)
  deriving DecidableEq

/-- What a call throws: a refusal, or an error that no handler of a refusal catches. -/
inductive Thrown
  | refusal (refusal : Refusal)
  | rangeError
  | argumentError
  deriving DecidableEq

def cborException (message : String) : Thrown := .refusal (.cborException message)

def formatException (message : String) : Thrown := .refusal (.formatException message)

/-- `on CborException catch (error) { throw FormatException(error.message); }`. -/
def Thrown.asFormat : Thrown → Thrown
  | .refusal (.cborException message) => formatException message
  | thrown => thrown

/-- A list of octets. The virtual machine makes none that is longer than an index may be. -/
structure Uint8List where
  octets : Bytes
  fits : octets.length < 2 ^ 62
  deriving DecidableEq

/-- A list in memory. -/
def Uint8List.ofBytes (octets : Bytes) : Uint8List where
  octets := octets.take (2 ^ 62 - 1)
  fits := by
    rw [List.length_take]
    omega

theorem Uint8List.ofBytes_octets {octets : Bytes} (short : octets.length < 2 ^ 62) : (ofBytes octets).octets = octets :=
  List.take_of_length_le (by omega)

/-- A text without the byte order mark it may start with. -/
def dropMark (text : String) : String :=
  match text.toList with
  | '\uFEFF' :: rest => String.ofList rest
  | _ => text

/-- `Utf8Decoder(allowMalformed: false)`, which drops a leading byte order mark. -/
def utf8Decode (bytes : Bytes) : Option String := (fromUtf8 bytes).map dropMark

/-- The characters `String.trim` strips. -/
def trimmed (c : Char) : Bool :=
  let code := c.val.toNat
  (9 ≤ code && code ≤ 13) || code = 0x20 || code = 0x85 || code = 0xa0 || code = 0x1680 ||
    (0x2000 ≤ code && code ≤ 0x200a) || code = 0x2028 || code = 0x2029 || code = 0x202f || code = 0x205f ||
    code = 0x3000 || code = 0xfeff

/-- `value.trim().isEmpty`. -/
def blank (value : String) : Bool := value.toList.all trimmed

/-- The last millisecond a `DateTime` reaches, on either side of the epoch. -/
def maxMilliseconds : Int := 8_640_000_000_000_000

def DateTime.Reaches (ms : Int64) : Prop := -maxMilliseconds ≤ ms.toInt ∧ ms.toInt ≤ maxMilliseconds

instance (ms : Int64) : Decidable (DateTime.Reaches ms) := inferInstanceAs (Decidable (_ ∧ _))

/-- A `DateTime` in UTC, in microseconds. -/
abbrev Moment := { microseconds : Int // -8640000000000000000 ≤ microseconds ∧ microseconds ≤ 8640000000000000000 }

/-- A point in time in UTC. -/
structure DateTime where
  millisecondsSinceEpoch : Int64
  within : DateTime.Reaches millisecondsSinceEpoch
  deriving DecidableEq

namespace DateTime

def microseconds (time : DateTime) : Int := time.millisecondsSinceEpoch.toInt * 1000

def fromMillisecondsSinceEpoch (ms : Int64) : Except Thrown DateTime :=
  if within : Reaches ms then .ok ⟨ms, within⟩ else .error .argumentError

/-- So many milliseconds after the epoch, or as many as there are. -/
def sinceEpoch (ms : Nat) : DateTime where
  millisecondsSinceEpoch := Int64.ofNat (min ms 8_640_000_000_000_000)
  within := by
    have least : min ms 8_640_000_000_000_000 ≤ 8_640_000_000_000_000 := Nat.min_le_right _ _
    rw [Reaches, Int64.toInt_ofNat_of_lt (by omega), maxMilliseconds]
    omega

def isAfter (self other : DateTime) : Bool := other.millisecondsSinceEpoch < self.millisecondsSinceEpoch

/-- In microseconds, which wrap when the two are further apart than an integer counts. -/
def difference (self other : DateTime) : Int64 :=
  self.millisecondsSinceEpoch * 1000 - other.millisecondsSinceEpoch * 1000

theorem fromMillisecondsSinceEpoch_eq_ok {ms : Int64} {time : DateTime} :
    fromMillisecondsSinceEpoch ms = .ok time ↔ time.millisecondsSinceEpoch = ms := by
  unfold fromMillisecondsSinceEpoch
  split
  · rw [Except.ok.injEq, DateTime.mk.injEq, eq_comm]
  · rename_i outside
    refine iff_of_false (fun run => nomatch run) fun same => ?_
    rw [← same] at outside
    exact outside time.within

end DateTime

end BioAuth.Mobile
