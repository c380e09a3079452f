import BioAuth.Lib.Json
import BioAuth.Lib.Regroup
import BioAuth.Lib.Text
import BioAuth.Native.VaultStoreCodec
import Mathlib.Data.List.GetD

namespace BioAuth.Native
open BioAuth Regroup

/-- What org.json makes of texts, and of values that are not of the type asked for. -/
class OrgJsonText where
  /-- `toString` of an object or an array. -/
  write : Json → String
  /-- `JSONTokener.nextValue`, if it does not throw. -/
  nextValue : String → Option Json
  /-- `String.valueOf` of what is no string. -/
  valueOf : Json → String
  /-- `Integer` and `Long` of what is no integer. -/
  toInteger : Json → Option Int32
  toLong : Json → Option Int64

/-- What is written is read back as it was. -/
def OrgJsonText.Faithful [OrgJsonText] (value : Json) : Prop := nextValue (write value) = some value

/-- `String.lowercase`. -/
class Lowercase where
  lowercase : String → String

/-- What the Kotlin code throws. -/
inductive Failure
  | illegalArgument (message : String)
  | illegalState (message : String)
  | unsupportedVersion (version : Int32)
  | json
  | crypto
  deriving DecidableEq

namespace JsonObject
variable [OrgJsonText]

/-- `opt`. -/
def opt (name : String) (members : List (String × Json)) : Option Json := VaultStoreCodec.opt name members

def text : Json → String
  | .string value => value
  | value => OrgJsonText.valueOf value

def optString (name : String) (members : List (String × Json)) : String := ((opt name members).map text).getD ""

def optJSONObject (name : String) (members : List (String × Json)) : Option (List (String × Json)) :=
  match opt name members with
  | some (.object value) => some value
  | _ => none

def optJSONArray (name : String) (members : List (String × Json)) : Option (List Json) :=
  match opt name members with
  | some (.array items) => some items
  | _ => none

def getString (name : String) (members : List (String × Json)) : Except Failure String :=
  okOr .json ((opt name members).map text)

def getJSONArray (name : String) (members : List (String × Json)) : Except Failure (List Json) :=
  okOr .json (optJSONArray name members)

def getInt (name : String) (members : List (String × Json)) : Except Failure Int32 :=
  match opt name members with
  | some (.number value) =>
    if -2 ^ 63 ≤ value ∧ value < 2 ^ 63 then .ok (Int32.ofInt value) else okOr .json (OrgJsonText.toInteger (.number value))
  | some value => okOr .json (OrgJsonText.toInteger value)
  | none => .error .json

def getLong (name : String) (members : List (String × Json)) : Except Failure Int64 :=
  match opt name members with
  | some (.number value) =>
    if -2 ^ 63 ≤ value ∧ value < 2 ^ 63 then .ok (Int64.ofInt value) else okOr .json (OrgJsonText.toLong (.number value))
  | some value => okOr .json (OrgJsonText.toLong value)
  | none => .error .json

/-- `JSONObject(text)`. -/
def parse (text : String) : Except Failure (List (String × Json)) :=
  match OrgJsonText.nextValue text with
  | some (.object members) => .ok members
  | _ => .error .json

end JsonObject

namespace WebAuthnRequestParser

def maxEncodedChars : Nat := 4096

def maxCredentialDescriptors : Nat := 256

def base64UrlAlphabet : List Char := "ABCDEFGHIJKLMNOPQRSTUVWXYZabcdefghijklmnopqrstuvwxyz0123456789-_".toList

def digitChar (digit : Nat) : Char := base64UrlAlphabet.getD digit 'A'

/-- `while (bits >= 6)`. -/
def appendWhile (accumulator : UInt32) : Nat → List Char → Nat × List Char
  | bits + 6, out => appendWhile accumulator bits (out ++ [digitChar ((accumulator >>> UInt32.ofNat bits).toNat &&& 0x3f)])
  | bits, out => (bits, out)

def appendByte (state : UInt32 × Nat × List Char) (byte : UInt8) : UInt32 × Nat × List Char :=
  let (accumulator, bits, out) := state
  let accumulator := accumulator <<< 8 ||| byte.toUInt32
  (accumulator, appendWhile accumulator (bits + 8) out)

def base64Url (value : Bytes) : String :=
  let (accumulator, bits, out) := value.foldl appendByte (0, 0, [])
  let out := if 0 < bits then out ++ [digitChar ((accumulator <<< UInt32.ofNat (6 - bits)).toNat &&& 0x3f)] else out
  String.ofList out

def decode (value field : String) : Except Failure Bytes := do
  require (value ≠ "" ∧ utf16Len value ≤ maxEncodedChars)
    (.illegalArgument (field ++ " must be 1.." ++ toString maxEncodedChars ++ " base64url characters, not " ++
      toString (utf16Len value)))
  require (utf16Len value % 4 ≠ 1 ∧ ∀ character ∈ value.toList, character ∈ base64UrlAlphabet)
    (.illegalArgument (field ++ " is not base64url"))
  let (accumulator, bits, output) :=
    (value.toList.map base64UrlAlphabet.idxOf).foldl (collect 6) (0, 0, [])
  require (bits = 0 ∨ accumulator &&& ((1 <<< UInt32.ofNat bits) - 1) = 0)
    (.illegalArgument (field ++ " is not canonical base64url"))
  return output

section Base64Url

theorem digitChar_facts {digit : Nat} (small : digit < 2 ^ 6) :
    digitChar digit ∈ base64UrlAlphabet ∧ base64UrlAlphabet.idxOf (digitChar digit) = digit ∧
      (digitChar digit).val.toNat < 0x10000 := by
  revert digit
  decide +kernel

theorem appendWhile_digits {whole : Nat} {accumulator : UInt32} {bits : Nat} {digits : List Nat}
    (emitted : Emitted 6 whole accumulator bits digits) (room : bits < 32) :
    ∃ left more, appendWhile accumulator bits (digits.map digitChar) = (left, more.map digitChar) ∧ left < 6 ∧
      Emitted 6 whole accumulator left more ∧ 6 * more.length + left = 6 * digits.length + bits := by
  induction bits using Nat.strongRecOn generalizing digits with
  | _ bits ih =>
    by_cases enough : 6 ≤ bits
    · obtain ⟨bits, rfl⟩ := Nat.exists_eq_add_of_le' enough
      obtain ⟨left, more, same, few, last, count⟩ := ih bits (by omega) (emitted.push (by omega)) (by omega)
      rw [List.length_append, List.length_singleton] at count
      rw [List.map_append, List.map_singleton] at same
      exact ⟨left, more, by rw [appendWhile]; exact same, few, last, by omega⟩
    · have stops : appendWhile accumulator bits (digits.map digitChar) = (bits, digits.map digitChar) := by
        unfold appendWhile
        split
        · omega
        · rfl
      exact ⟨bits, digits, stops, by omega, emitted, rfl⟩

theorem appendBytes_digits (value : Bytes) :
    ∃ accumulator bits digits, value.foldl appendByte (0, 0, []) = (accumulator, bits, digits.map digitChar) ∧
      bits < 6 ∧ Emitted 6 (BigEndian.decode value) accumulator bits digits ∧
      8 * value.length = 6 * digits.length + bits := by
  induction value using List.reverseRecOn with
  | nil => exact ⟨0, 0, [], rfl, by decide, Emitted.start 6, rfl⟩
  | append_singleton value byte ih =>
    obtain ⟨accumulator, bits, digits, run, few, emitted, count⟩ := ih
    obtain ⟨left, more, same, fewer, last, total⟩ := appendWhile_digits (emitted.feed (by omega) byte) (by omega)
    refine ⟨accumulator <<< 8 ||| byte.toUInt32, left, more, ?_, fewer, ?_, ?_⟩
    · rw [List.foldl_append, run, List.foldl_cons, List.foldl_nil]
      exact congrArg (Prod.mk _) same
    · rw [BigEndian.decode_concat]
      exact last
    · rw [List.length_append, List.length_singleton]
      omega

/-- The octets are written as the digits of their number, padded with zero bits. -/
theorem base64Url_digits (value : Bytes) :
    ∃ (digits : List Nat) (padding : Nat), base64Url value = String.ofList (digits.map digitChar) ∧ padding < 6 ∧
      (∀ digit ∈ digits, digit < 2 ^ 6) ∧ Nat.ofDigits (2 ^ 6) digits.reverse = 2 ^ padding * BigEndian.decode value ∧
      6 * digits.length = 8 * value.length + padding := by
  obtain ⟨accumulator, bits, digits, run, few, emitted, count⟩ := appendBytes_digits value
  by_cases rest : 0 < bits
  · obtain ⟨small, number⟩ := emitted.pad few (by decide)
    refine ⟨digits ++ [(accumulator <<< UInt32.ofNat (6 - bits)).toNat &&& 0x3f], 6 - bits, ?_, by omega, ?_, number, ?_⟩
    · rw [base64Url, run]
      dsimp only
      rw [if_pos rest, List.map_append, List.map_singleton]
    · intro digit member
      rcases List.mem_append.mp member with old | last
      · exact emitted.small digit old
      · rw [List.mem_singleton.mp last]
        exact small
    · rw [List.length_append, List.length_singleton]
      omega
  · obtain rfl : bits = 0 := by omega
    refine ⟨digits, 0, ?_, by decide, emitted.small, ?_, by omega⟩
    · rw [base64Url, run]
      dsimp only
      rw [if_neg rest]
    · rw [emitted.value, pow_zero, Nat.div_one, Nat.one_mul]

/-- Octets are read back as they were written, if they are neither none nor too many. -/
theorem decode_base64Url {value : Bytes} (some : value ≠ []) (short : value.length ≤ 3072) (field : String) :
    decode (base64Url value) field = .ok value := by
  obtain ⟨digits, padding, spelled, few, small, number, count⟩ := base64Url_digits value
  obtain ⟨collected, total⟩ := collected_digits 6 (by decide) small
  have positive := List.length_pos_iff.mpr some
  have characters : ∀ character ∈ digits.map digitChar, character ∈ base64UrlAlphabet := by
    intro character member
    obtain ⟨digit, inside, rfl⟩ := List.mem_map.mp member
    exact (digitChar_facts (small digit inside)).1
  have back : (digits.map digitChar).map base64UrlAlphabet.idxOf = digits := by
    rw [List.map_map]
    exact (List.map_congr_left fun digit member => (digitChar_facts (small digit member)).2.1).trans (List.map_id _)
  have units : utf16Len (String.ofList (digits.map digitChar)) = digits.length := by
    have ones : (digits.map digitChar).map (fun c => if c.val.toNat < 0x10000 then 1 else 2) = digits.map fun _ => 1 := by
      rw [List.map_map]
      exact List.map_congr_left fun digit member => if_pos (digitChar_facts (small digit member)).2.2
    rw [utf16Len, String.toList_ofList, ones, List.map_const', List.sum_replicate_nat, Nat.mul_one]
  have spelt : String.ofList (digits.map digitChar) ≠ "" := by
    intro empty
    have none := congrArg String.toList empty
    rw [String.toList_ofList] at none
    have length := congrArg List.length none
    rw [List.length_map] at length
    change digits.length = 0 at length
    omega
  generalize reached : digits.foldl (collect 6) (0, 0, []) = state at collected total
  obtain ⟨accumulator, bits, output⟩ := state
  obtain ⟨left, same, blank⟩ := collected.octets number (by omega) (by rw [total, count])
  dsimp only at left same blank
  subst left same
  unfold decode
  simp only [spelled, units, String.toList_ofList, back, reached, except_bind_eq_ok, except_require_eq_ok, except_pure_eq_ok,
    exists_const]
  refine ⟨⟨spelt, ?_⟩, ⟨?_, characters⟩, Or.inr blank, trivial⟩
  · unfold maxEncodedChars
    omega
  · omega

end Base64Url

section Request
variable [OrgJsonText]
open JsonObject

structure WebAuthnRequestOptions where
  rpId : String
  challenge : Bytes
  allowedCredentialIds : List Bytes
  credentialsRestricted : Bool

def requiredString (name : String) (members : List (String × Json)) : Except Failure String := do
  let value := optString name members
  require (value ≠ "") (.illegalArgument (name ++ " is required"))
  return value

def optionalObject (name : String) (members : List (String × Json)) : Except Failure Unit :=
  require (opt name members = none ∨ (optJSONObject name members).isSome) (.illegalArgument (name ++ " is invalid"))

def optionalEnum (name : String) (supported : List String) (members : List (String × Json)) : Except Failure Unit :=
  require (opt name members = none ∨ optString name members ∈ supported) (.illegalArgument (name ++ " is unsupported"))

def userVerificationValues : List String := ["discouraged", "preferred", "required"]

/-- The credential id of a descriptor, unless it is one to be ignored. -/
def credentialId : Json → Option Bytes
  | .object descriptor =>
    if optString "type" descriptor = "public-key" then
      match requiredString "id" descriptor >>= fun id => decode id "credential.id" with
      | .ok id => if 1 ≤ id.length ∧ id.length ≤ 1024 then some id else none
      | .error _ => none
    else none
  | _ => none

/-- No more are read than fit. -/
def credentialIds (array : Option (List Json)) : List Bytes :=
  ((array.getD []).filterMap credentialId).take maxCredentialDescriptors

def rpIdCharacter (character : Char) : Bool :=
  ('a' ≤ character && character ≤ 'z') || ('0' ≤ character && character ≤ '9') || character = '-' || character = '.'

/-- `split('.')`, over characters. -/
def labels (host : List Char) : List (List Char) := host.splitOn '.'

def validRpId [Lowercase] (value : String) : Except Failure String := do
  let rpId := Lowercase.lowercase value
  require ((1 ≤ utf16Len rpId ∧ utf16Len rpId ≤ 253) ∧ rpId = value ∧ rpId.toList.all rpIdCharacter = true ∧
      ∀ label ∈ labels rpId.toList, label ≠ [] ∧ label.length ≤ 63 ∧ label.head? ≠ some '-' ∧ label.getLast? ≠ some '-')
    (.illegalArgument "rpId is invalid")
  return rpId

def request [Lowercase] (json : String) : Except Failure WebAuthnRequestOptions := do
  require (2 ≤ utf16Len json ∧ utf16Len json ≤ 65536) (.illegalArgument "Invalid WebAuthn assertion request")
  let root ← parse json
  optionalEnum "userVerification" userVerificationValues root
  optionalObject "extensions" root
  let rpId ← validRpId (← requiredString "rpId" root)
  let challenge ← decode (← requiredString "challenge" root) "challenge"
  return {
    rpId
    challenge
    allowedCredentialIds := credentialIds (optJSONArray "allowCredentials" root)
    credentialsRestricted := decide (0 < ((optJSONArray "allowCredentials" root).getD []).length)
  }

/-- A list that is there restricts a request to the credentials it has, whatever else it holds. -/
theorem request_restricts [Lowercase] {json : String} {options : WebAuthnRequestOptions} {root : List (String × Json)}
    {array : List Json} (accepted : request json = .ok options) (parsed : parse json = .ok root)
    (listed : optJSONArray "allowCredentials" root = some array) (given : array ≠ []) :
    options.credentialsRestricted = true ∧
      ∀ id ∈ options.allowedCredentialIds, ∃ descriptor ∈ array, credentialId descriptor = some id := by
  unfold request at accepted
  simp only [except_bind_eq_ok, except_require_eq_ok, except_pure_eq_ok, parsed, exists_const] at accepted
  obtain ⟨_, _, same, _, _, _, _, _, _, _, _, _, _, _, _, rfl⟩ := accepted
  cases same
  rw [listed]
  refine ⟨decide_eq_true (List.length_pos_iff.mpr given), fun id member => ?_⟩
  exact List.mem_filterMap.mp (List.mem_of_mem_take member)

end Request

end WebAuthnRequestParser

end BioAuth.Native
