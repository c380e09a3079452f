import BioAuth.Mobile.Base32
import BioAuth.Mobile.PairingBootstrap

namespace BioAuth.Mobile
open BioAuth
open Casing (toUpperCase toLowerCase)

/-- A length of time. -/
structure Duration where
  inMicroseconds : Int64
  deriving DecidableEq

/-- `Duration(seconds: seconds)`. The product wraps. -/
def Duration.ofSeconds (seconds : Int64) : Duration := ⟨1000000 * seconds⟩

def Duration.inSeconds (duration : Duration) : Int64 := duration.inMicroseconds / 1000000

/-- The window every authenticator agrees on. -/
def totpPeriod : Duration := .ofSeconds 30

def totpDigits : Int64 := 6

/-- The hash inside the HMAC. -/
inductive TotpAlgorithm
  | sha1
  | sha256
  | sha512
  deriving DecidableEq

namespace TotpAlgorithm

/-- The spelling an `otpauth://` URI uses. -/
def label : TotpAlgorithm → String
  | sha1 => "SHA1"
  | sha256 => "SHA256"
  | sha512 => "SHA512"

def values : List TotpAlgorithm := [sha1, sha256, sha512]

/-- The algorithm a URI named. -/
def parse [Casing] (value : String) : Option TotpAlgorithm :=
  let wanted := (toUpperCase value).toList.filter (· ≠ '-')
  values.find? fun algorithm => algorithm.label.toList = wanted

def digestLength : TotpAlgorithm → Nat
  | sha1 => 20
  | sha256 => 32
  | sha512 => 64

end TotpAlgorithm

/-- What is wrong with a seed. -/
inductive TotpProblem
  | digitsOutOfRange
  | windowOutOfRange
  | emptyKey
  | invalidCharacter
  | keyTooShort
  | notOtpauth
  | noKeyInUri
  | unsupportedAlgorithm
  deriving DecidableEq

/-- What reading a seed and generating from it throw: a `TotpException`, or something else. -/
inductive TotpThrown
  | problem (problem : TotpProblem)
  | other (thrown : Thrown)
  | divisionByZero
  deriving DecidableEq

/-- A URI as far as it is looked at. Escapes that are no text only show when the parameters are asked for. -/
structure Uri where
  scheme : String
  host : String
  queryParameters : Except Thrown (String → Option String)

/-- A letter or a digit, which stands for itself in a URI. -/
def unreserved (c : Char) : Bool := c.isAlphanum

/-- Parameters that a query spells as they are. -/
structure PlainQuery (parameters : List (String × String)) : Prop where
  some : parameters ≠ []
  keys : ∀ entry ∈ parameters, entry.1 ≠ "" ∧ entry.1.toList.all unreserved = true
  values : ∀ entry ∈ parameters, entry.2.toList.all unreserved = true
  nodup : (parameters.map Prod.fst).Nodup

/-- `dart:core`'s URIs. -/
class Uris where
  tryParse : String → Option Uri
  encodeComponent : String → String
  toText (scheme host path : String) (queryParameters : List (String × String)) : String
  toText_plain {parameters : List (String × String)} (plain : PlainQuery parameters) :
    toText "otpauth" "totp" "/" parameters =
      "otpauth://totp/?" ++ "&".intercalate (parameters.map fun entry => entry.1 ++ "=" ++ entry.2)
  tryParse_plain {parameters : List (String × String)} (plain : PlainQuery parameters) :
    tryParse (toText "otpauth" "totp" "/" parameters) =
      Option.some ⟨"otpauth", "totp", .ok fun key => parameters.lookup key⟩

/-- `Hmac.sha1()`, `Hmac.sha256()` and `Hmac.sha512()`. -/
class Hmac where
  calculateMac : TotpAlgorithm → Bytes → Bytes → Bytes
  calculateMac_length : ∀ algorithm message key, (calculateMac algorithm message key).length = algorithm.digestLength

/-- A parsed seed, ready to generate from. -/
structure TotpSecret where
  bytes : Bytes
  digits : Int64
  period : Duration
  algorithm : TotpAlgorithm
  deriving DecidableEq

namespace TotpSecret

/-- What is left of a seed without spaces, dashes and padding. -/
def cleaned [Casing] (secret : String) : String :=
  toUpperCase (String.ofList ((secret.toList.filter fun c => ¬(spacing c = true ∨ c = '-')).filter (· ≠ '=')))

def parse [Casing] (secret : String) (digits : Int64) (period : Duration) (algorithm : TotpAlgorithm) :
    Except TotpThrown TotpSecret := do
  require (6 ≤ digits.toInt ∧ digits.toInt ≤ 8) (.problem .digitsOutOfRange)
  require (1 ≤ period.inSeconds.toInt ∧ period.inSeconds.toInt ≤ 300) (.problem .windowOutOfRange)
  require (cleaned secret ≠ "") (.problem .emptyKey)
  let (_, _, out) ← (cleaned secret).toList.foldlM (Base32.read (.problem .invalidCharacter)) (0, 0, [])
  require (out ≠ []) (.problem .keyTooShort)
  return ⟨out, digits, period, algorithm⟩

/-- `int.tryParse(parameter ?? '') ?? usual`. -/
def numberOr (parameter : Option String) (usual : Int64) : Int64 := (tryParse (parameter.getD "")).getD usual

/-- `named == null || named.isEmpty ? TotpAlgorithm.sha1 : TotpAlgorithm.parse(named)`. -/
def algorithmOf [Casing] (named : Option String) : Option TotpAlgorithm :=
  if named.getD "" = "" then some .sha1 else TotpAlgorithm.parse (named.getD "")

def fromUri [Casing] [Uris] (uri : String) : Except TotpThrown TotpSecret := do
  let parsed ← okOr (.problem .notOtpauth) (Uris.tryParse uri)
  require (parsed.scheme = "otpauth" ∧ parsed.host = "totp") (.problem .notOtpauth)
  let queryParameters ← parsed.queryParameters.mapError .other
  let secret ← okOr (.problem .noKeyInUri) (queryParameters "secret")
  require (secret ≠ "") (.problem .noKeyInUri)
  let algorithm ← okOr (.problem .unsupportedAlgorithm) (algorithmOf (queryParameters "algorithm"))
  parse secret (numberOr (queryParameters "digits") totpDigits)
    (.ofSeconds (numberOr (queryParameters "period") totpPeriod.inSeconds)) algorithm

end TotpSecret

/-- A seed written back as base32. -/
def totpSecretToBase32 (secret : TotpSecret) : String :=
  String.ofList (Base32.write (fun base32 index => base32 ++ [Base32.glyph index]) secret.bytes [])

/-- `trimmed.toLowerCase().startsWith('otpauth://')`. -/
def isOtpauth [Casing] (trimmed : String) : Prop := "otpauth://".toList <+: (toLowerCase trimmed).toList

instance [Casing] (trimmed : String) : Decidable (isOtpauth trimmed) := inferInstanceAs (Decidable (_ <+: _))

/-- Reads whichever of the two stored forms an item holds. -/
def readTotpSecret [Casing] [Uris] (stored : String) : Except TotpThrown TotpSecret :=
  if isOtpauth (trim stored) then TotpSecret.fromUri (trim stored)
  else TotpSecret.parse (trim stored) totpDigits totpPeriod .sha1

/-- The parameters of a seed's link. -/
def TotpSecret.queryParameters (secret : TotpSecret) : List (String × String) :=
  [("secret", totpSecretToBase32 secret), ("digits", toString secret.digits.toInt),
    ("period", toString secret.period.inSeconds.toInt)] ++
    -- Written only when it is not the default.
    if secret.algorithm ≠ .sha1 then [("algorithm", secret.algorithm.label)] else []

def encodeTotpSecret [Uris] (secret : TotpSecret) (label : String) : String :=
  Uris.toText "otpauth" "totp" (if label = "" then "/" else "/" ++ Uris.encodeComponent label) secret.queryParameters

/-- The form an item stores a seed in. -/
def storedTotpSecret [Uris] (secret : TotpSecret) : String :=
  if secret.digits = totpDigits ∧ secret.period = totpPeriod ∧ secret.algorithm = .sha1 then totpSecretToBase32 secret
  else encodeTotpSecret secret ""

/-- One code, and when it stops. -/
structure TotpCode where
  digits : String
  expiresAt : DateTime

/-- The octets of the counter, the last one first taken off. -/
def counterOctets : Nat → Int → Bytes
  | 0, _ => []
  | width + 1, remaining => counterOctets width (remaining >>> (8 : Nat)) ++ [UInt8.ofNat (remaining % 256).toNat]

/-- The dynamic truncation of RFC 4226. -/
def truncated (hash : Bytes) : Nat :=
  let offset := (hash.getD (hash.length - 1) 0 &&& 0x0f).toNat
  let octet (index mask : Nat) : Nat := (hash.getD (offset + index) 0).toNat &&& mask
  octet 0 0x7f <<< 24 ||| octet 1 0xff <<< 16 ||| octet 2 0xff <<< 8 ||| octet 3 0xff

def padLeft (text : String) (width : Nat) : String :=
  String.ofList (List.leftpad width '0' text.toList)

/-- Generates the code for a moment. -/
def generateTotp [Hmac] (secret : TotpSecret) (now : Moment) : Except TotpThrown TotpCode := do
  let seconds := (now.val.tdiv 1000).tdiv 1000
  let period := secret.period.inSeconds.toInt
  require (period ≠ 0) .divisionByZero
  let counter := seconds.tdiv period
  let hash := Hmac.calculateMac secret.algorithm (counterOctets 8 counter) secret.bytes
  let code := padLeft (toString (truncated hash % 10 ^ secret.digits.toInt.toNat)) secret.digits.toInt.toNat
  let expiresAt ← (DateTime.fromMillisecondsSinceEpoch (Int64.ofInt ((counter + 1) * period * 1000))).mapError .other
  return { digits := code, expiresAt }

end BioAuth.Mobile
