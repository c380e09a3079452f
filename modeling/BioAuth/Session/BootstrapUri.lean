import BioAuth.Lib.Query
import BioAuth.Protocol.Encoding
import BioAuth.Session.Handshake

namespace BioAuth.Session
open BioAuth
open BioAuth.Protocol (CredentialPurpose fromBase64url toBase64url)

/-- What every pairing code starts with. -/
def bootstrapPrefix : String := "phoneauth://pair/v1?"

namespace ServerBootstrap

/-- The purpose is written only when it is not the one that codes without a purpose have. -/
def purposeField (bootstrap : ServerBootstrap) : String :=
  match bootstrap.purpose with
  | .authorization => ""
  | other => "&p=" ++ toString other.wire.toInt

/-- The text a QR code spells. -/
def toUri (bootstrap : ServerBootstrap) : String :=
  bootstrapPrefix ++ "vid=" ++ bootstrap.verifierId ++ "&sid=" ++ bootstrap.sessionId ++ "&n=" ++
    toBase64url bootstrap.nonce.val ++ "&k=" ++ toBase64url bootstrap.verifierIdentityHash.val ++ "&ep=" ++
    bootstrap.endpoint ++ "&exp=" ++ toString bootstrap.expiresAtMs.toInt ++ bootstrap.purposeField

/-- The fields of a code, each a name and its value. -/
def fields (bootstrap : ServerBootstrap) : List (String × String) :=
  [("vid", bootstrap.verifierId), ("sid", bootstrap.sessionId), ("n", toBase64url bootstrap.nonce.val),
    ("k", toBase64url bootstrap.verifierIdentityHash.val), ("ep", bootstrap.endpoint),
    ("exp", toString bootstrap.expiresAtMs.toInt)] ++
    match bootstrap.purpose with
    | .authorization => []
    | other => [("p", toString other.wire.toInt)]

def spellField (field : String × String) : List Char := field.1.toList ++ '=' :: field.2.toList

theorem toUri_toList (bootstrap : ServerBootstrap) :
    bootstrap.toUri.toList = bootstrapPrefix.toList ++ ['&'].intercalate (bootstrap.fields.map spellField) := by
  obtain ⟨sessionId, nonce, verifierId, verifierIdentityHash, endpoint, expiresAtMs, purpose⟩ := bootstrap
  have literal : "vid=".toList = "vid".toList ++ ['='] ∧ "&sid=".toList = '&' :: "sid".toList ++ ['='] ∧
      "&n=".toList = '&' :: "n".toList ++ ['='] ∧ "&k=".toList = '&' :: "k".toList ++ ['='] ∧
      "&ep=".toList = '&' :: "ep".toList ++ ['='] ∧ "&exp=".toList = '&' :: "exp".toList ++ ['='] ∧
      "&p=".toList = '&' :: "p".toList ++ ['='] := by decide
  obtain ⟨vid, sid, n, k, ep, exp, p⟩ := literal
  cases purpose <;>
    simp only [toUri, purposeField, fields, spellField, String.toList_append, vid, sid, n, k, ep, exp, p,
      List.map_cons, List.map_nil, List.append_nil, List.cons_append, List.nil_append, List.intercalate_cons_cons,
      List.intercalate_singleton, List.append_assoc, String.toList_empty]

/-- No name of a field holds a separator. -/
theorem fields_plain {bootstrap : ServerBootstrap} {pair : String × String} (member : pair ∈ bootstrap.fields) :
    '=' ∉ pair.1.toList ∧ '&' ∉ pair.1.toList := by
  have keys : bootstrap.fields.map Prod.fst ⊆ ["vid", "sid", "n", "k", "ep", "exp", "p"] := by
    unfold fields
    cases bootstrap.purpose
    case authorization => exact fun _ inside => List.mem_append_left ["p"] inside
    all_goals exact fun _ inside => inside
  have key := keys (List.mem_map_of_mem member)
  revert key
  generalize pair.1 = name
  revert name
  decide

end ServerBootstrap

/-- The digits of a number behind its sign. -/
def digitsOf : List Char → List Char
  | '-' :: digits => digits
  | '+' :: digits => digits
  | digits => digits

/-- A number without anything but a sign and digits. -/
def Decimal (text : String) : Prop := ∀ c ∈ digitsOf text.toList, c.isDigit = true

instance (text : String) : Decidable (Decimal text) := inferInstanceAs (Decidable (∀ c ∈ _, _))

def signOf : List Char → Int
  | '-' :: _ => -1
  | _ => 1

/-- `str::parse::<i64>`. -/
def parseI64 (text : String) : Option Int64 :=
  let digits := digitsOf text.toList
  let value := signOf text.toList * Nat.ofDigitChars 10 digits 0
  if digits ≠ [] ∧ Decimal text ∧ -2 ^ 63 ≤ value ∧ value < 2 ^ 63 then some (Int64.ofInt value) else none

namespace ServerBootstrap

/-- `fixed_b64`. -/
def fixedB64 (value message : String) : Except SessionError (Block 32) := do
  let bytes ← (fromBase64url value).mapError fun _ => SessionError.invalidBootstrap message
  if length : bytes.length = 32 then return ⟨bytes, length⟩ else throw (.invalidBootstrap message)

/-- What has been read of a code. -/
structure Fields where
  verifierId : Option String
  sessionId : Option String
  nonce : Option (Block 32)
  hash : Option (Block 32)
  endpoint : Option String
  expiresAtMs : Option Int64
  purpose : CredentialPurpose

def Fields.none : Fields := ⟨.none, .none, .none, .none, .none, .none, .authorization⟩

def readPurpose (value : String) : Except SessionError CredentialPurpose :=
  okOr (.invalidBootstrap "invalid bootstrap credential purpose")
    ((parseI64 value).bind fun value => (CredentialPurpose.fromWire value).toOption)

/-- Unknown keys fail closed. -/
def readValue (fields : Fields) (key value : String) : Except SessionError Fields :=
  match key with
  | "vid" => .ok { fields with verifierId := value }
  | "sid" => .ok { fields with sessionId := value }
  | "n" => do return { fields with nonce := ← fixedB64 value "invalid bootstrap nonce" }
  | "k" => do return { fields with hash := ← fixedB64 value "invalid verifier identity hash" }
  | "ep" => .ok { fields with endpoint := value }
  | "exp" => do return { fields with expiresAtMs := ← okOr (.invalidBootstrap "invalid bootstrap expiry") (parseI64 value) }
  | "p" => do return { fields with purpose := ← readPurpose value }
  | _ => .error (.invalidBootstrap "unknown bootstrap field")

/-- Every field but the purpose is required. -/
def Fields.finish (fields : Fields) : Except SessionError ServerBootstrap :=
  match fields.sessionId, fields.nonce, fields.verifierId, fields.hash, fields.endpoint, fields.expiresAtMs with
  | some sessionId, some nonce, some verifierId, some hash, some endpoint, some expiresAtMs => do
    let bootstrap : ServerBootstrap := ⟨sessionId, nonce, verifierId, hash, endpoint, expiresAtMs, fields.purpose⟩
    bootstrap.validate
    return bootstrap
  | _, _, _, _, _, _ => .error (.invalidBootstrap "bootstrap is missing a required field")

/-- Parses a scanned string. -/
def fromUri (uri : String) : Except SessionError ServerBootstrap := do
  require (bootstrapPrefix.toList <+: uri.toList) (SessionError.invalidBootstrap "not a PhoneAuth v1 pairing bootstrap")
  let fields ← ((uri.toList.drop bootstrapPrefix.toList.length).splitOn '&').foldlM
    (Query.readField (.invalidBootstrap "malformed bootstrap field") readValue) .none
  fields.finish

end ServerBootstrap

end BioAuth.Session
