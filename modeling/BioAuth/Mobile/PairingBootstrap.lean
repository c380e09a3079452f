import BioAuth.Lib.Regroup
import BioAuth.Mobile.PairingStore
import BioAuth.Session.BootstrapUri

namespace BioAuth.Mobile
open BioAuth BioAuth.Regroup
open BioAuth.Protocol (CredentialPurpose)
open BioAuth.Session (ServerBootstrap bootstrapPrefix)

/-- `String.trim`. -/
def trim (text : String) : String :=
  String.ofList ((text.toList.dropWhile trimmed).reverse.dropWhile trimmed).reverse

/-- The number a character stands for, in either alphabet of base64. -/
def base64Unit (c : Char) : Option Nat :=
  let code := c.val.toNat
  if 0x41 ≤ code ∧ code ≤ 0x5a then some (code - 0x41)
  else if 0x61 ≤ code ∧ code ≤ 0x7a then some (code - 0x61 + 26)
  else if 0x30 ≤ code ∧ code ≤ 0x39 then some (code - 0x30 + 52)
  else if c = '+' ∨ c = '-' then some 62
  else if c = '/' ∨ c = '_' then some 63
  else none

/-- So many padding characters and nothing else. Each may be percent-encoded. -/
def padded : Nat → List Char → Bool
  | 0, rest => rest = []
  | n + 1, '=' :: rest => padded n rest
  | n + 1, '%' :: '3' :: d :: rest => (d = 'D' || d = 'd') && padded n rest
  | _ + 1, _ => false

/-- `base64Url.decode`. The bits left over have to be zero. -/
def base64UrlDecode (value : String) : Option Bytes :=
  let body := value.toList.takeWhile fun c => (base64Unit c).isSome
  let rest := value.toList.dropWhile fun c => (base64Unit c).isSome
  let (acc, bits, out) := (body.filterMap base64Unit).foldl (collect 6) (0, 0, [])
  if body.length % 4 ≠ 1 ∧ padded ((4 - body.length % 4) % 4) rest = true ∧
      acc &&& ((1 <<< UInt32.ofNat bits) - 1) = 0 then
    some out
  else none

/-- The value of a hexadecimal digit. -/
def hexValue (c : Char) : Option Nat :=
  if c.isDigit then some (c.toNat - '0'.toNat)
  else if 'a' ≤ c ∧ c ≤ 'f' then some (c.toNat - 'a'.toNat + 10)
  else if 'A' ≤ c ∧ c ≤ 'F' then some (c.toNat - 'A'.toNat + 10)
  else none

def inRange (value : Int) : Option Int64 :=
  if -2 ^ 63 ≤ value ∧ value < 2 ^ 63 then some (Int64.ofInt value) else none

/-- The digits behind the sign. A hexadecimal number that is not negative may fill the word. -/
def unsigned (sign : Int) (digits : List Char) : Option Int64 :=
  match digits with
  | '0' :: x :: rest =>
    if x = 'x' ∨ x = 'X' then do
      let values ← rest.mapM hexValue
      let value := values.foldl (fun (sofar digit : Nat) => 16 * sofar + digit) 0
      if rest ≠ [] ∧ value < 2 ^ 64 ∧ (0 ≤ sign ∨ value ≤ 2 ^ 63) then some (Int64.ofInt (sign * value)) else none
    else if digits.all Char.isDigit then inRange (sign * Nat.ofDigitChars 10 digits 0) else none
  | [] => none
  | _ => if digits.all Char.isDigit then inRange (sign * Nat.ofDigitChars 10 digits 0) else none

/-- `int.tryParse`. -/
def tryParse (text : String) : Option Int64 :=
  match (trim text).toList with
  | '-' :: digits => unsigned (-1) digits
  | '+' :: digits => unsigned 1 digits
  | digits => unsigned 1 digits

structure BootstrapException where
  message : String
  deriving DecidableEq

/-- The contents of a pairing code. -/
structure PairingBootstrap where
  sessionId : String
  nonce : Bytes
  verifierId : String
  verifierIdentityHash : Bytes
  endpoint : String
  expiresAtMs : Int64
  purpose : CredentialPurpose

namespace PairingBootstrap

def isExpiredAt (bootstrap : PairingBootstrap) (nowMs : Int64) : Bool := bootstrap.expiresAtMs ≤ nowMs

/-- `_validate`. -/
def validate (bootstrap : PairingBootstrap) : Except BootstrapException Unit := do
  require (bootstrap.sessionId ≠ "" ∧ utf16Len bootstrap.sessionId ≤ 64) ⟨"invalid session identifier"⟩
  require (bootstrap.verifierId ≠ "" ∧ utf16Len bootstrap.verifierId ≤ 64) ⟨"invalid verifier identifier"⟩
  require (utf16Len bootstrap.endpoint ≤ 128) ⟨"endpoint is too long"⟩
  require (bootstrap.nonce.length = 32 ∧ bootstrap.verifierIdentityHash.length = 32) ⟨"invalid bootstrap key material"⟩
  require (∀ field ∈ [bootstrap.sessionId, bootstrap.verifierId, bootstrap.endpoint],
    '&' ∉ field.toList ∧ '=' ∉ field.toList) ⟨"bootstrap fields may not contain `&` or `=`"⟩

/-- `_fixedBase64`. -/
def fixedBase64 (value message : String) : Except BootstrapException Bytes := do
  let padding := (utf16Len value + 3) / 4 * 4 - utf16Len value
  let decoded ← okOr ⟨message⟩ (base64UrlDecode (value ++ String.ofList (List.replicate padding '=')))
  require (decoded.length = 32) ⟨message⟩
  return decoded

/-- An address without the brackets around it. -/
def unbracket (address : List Char) : List Char :=
  let front := if address.head? = some '[' then address.tail else address
  if front.getLast? = some ']' then front.dropLast else front

/-- `_routableEndpoint`. -/
def routableEndpoint (value : String) : Except BootstrapException String := do
  if value = "" then return value
  let front := (value.toList.reverse.dropWhile (· ≠ ':')).tail.reverse
  require (front ≠ []) ⟨"bootstrap endpoint has no port"⟩
  let address := String.ofList (unbracket front)
  require (address ≠ "0.0.0.0" ∧ address ≠ "::" ∧ address ≠ "")
    ⟨"the computer advertised an address no phone can reach (" ++ address ++ "). It is running a version with a known " ++
      "pairing bug — update it."⟩
  return value

/-- What has been read of a code. -/
structure Fields where
  verifierId : Option String
  sessionId : Option String
  nonce : Option Bytes
  hash : Option Bytes
  endpoint : Option String
  expiresAtMs : Option Int64
  purpose : CredentialPurpose

def Fields.none : Fields := ⟨.none, .none, .none, .none, .none, .none, .authorization⟩

def readPurpose (value : String) : Except BootstrapException CredentialPurpose := do
  let index ← okOr ⟨"invalid credential purpose"⟩ (tryParse value)
  require (0 ≤ index.toInt) ⟨"invalid credential purpose"⟩
  okOr ⟨"invalid credential purpose"⟩ (purposes[index.toInt.toNat]?)

def readValue (fields : Fields) (key value : String) : Except BootstrapException Fields :=
  match key with
  | "vid" => .ok { fields with verifierId := value }
  | "sid" => .ok { fields with sessionId := value }
  | "n" => do return { fields with nonce := ← fixedBase64 value "invalid bootstrap nonce" }
  | "k" => do return { fields with hash := ← fixedBase64 value "invalid verifier identity hash" }
  | "ep" => do return { fields with endpoint := ← routableEndpoint value }
  | "exp" => do return { fields with expiresAtMs := ← okOr ⟨"invalid bootstrap expiry"⟩ (tryParse value) }
  | "p" => do return { fields with purpose := ← readPurpose value }
  | _ => .error ⟨"unknown bootstrap field"⟩

def readField (fields : Fields) (pair : List Char) : Except BootstrapException Fields :=
  match pair.dropWhile (· ≠ '=') with
  | [] => .error ⟨"malformed bootstrap field"⟩
  | _ :: value => readValue fields (String.ofList (pair.takeWhile (· ≠ '='))) (String.ofList value)

/-- Every field but the purpose is required. -/
def Fields.finish (fields : Fields) : Except BootstrapException PairingBootstrap :=
  match fields.verifierId, fields.sessionId, fields.nonce, fields.hash, fields.endpoint, fields.expiresAtMs with
  | some verifierId, some sessionId, some nonce, some hash, some endpoint, some expiresAtMs => do
    let bootstrap : PairingBootstrap := ⟨sessionId, nonce, verifierId, hash, endpoint, expiresAtMs, fields.purpose⟩
    bootstrap.validate
    return bootstrap
  | _, _, _, _, _, _ => .error ⟨"bootstrap is missing a required field"⟩

def parse (uri : String) : Except BootstrapException PairingBootstrap := do
  require (bootstrapPrefix.toList <+: uri.toList) ⟨"not a PhoneAuth v1 pairing bootstrap"⟩
  let fields ← ((uri.toList.drop bootstrapPrefix.toList.length).splitOn '&').foldlM readField .none
  fields.finish

end PairingBootstrap

section Base64
open BioAuth.Protocol (base64urlUnit base64urlUnits base64urlUnits_value toBase64url padding)

theorem base64Unit_url {unit : Nat} (small : unit < 64) :
    base64Unit (base64urlUnit unit) = some unit ∧ (base64urlUnit unit).val.toNat < 0x80 := by
  revert unit
  decide +kernel

theorem padded_replicate (count : Nat) : padded count (List.replicate count '=') = true := by
  induction count with
  | zero => rfl
  | succ count ih => exact ih

theorem utf16Len_ascii {text : String} (ascii : ∀ c ∈ text.toList, c.val.toNat < 0x80) :
    utf16Len text = text.toList.length := by
  have ones : text.toList.map (fun c => if c.val.toNat < 0x10000 then 1 else 2) = text.toList.map fun _ => 1 :=
    List.map_congr_left fun c member => if_pos (by have small := ascii c member; omega)
  rw [utf16Len, ones, List.map_const', List.sum_replicate_nat, Nat.mul_one]

/-- The phone reads the octets the desktop spelled, once the padding is back. -/
theorem base64UrlDecode_toBase64url (bytes : Bytes) {count : Nat}
    (fours : (utf16Len (toBase64url bytes) + 3) / 4 * 4 - utf16Len (toBase64url bytes) = count) :
    base64UrlDecode (toBase64url bytes ++ String.ofList (List.replicate count '=')) = some bytes := by
  obtain ⟨units, small, value⟩ := base64urlUnits_value bytes
  obtain ⟨collected, total⟩ := collected_digits 6 (by decide) small
  have known (c : Char) (member : c ∈ (base64urlUnits bytes).map base64urlUnit) :
      (base64Unit c).isSome = true ∧ c.val.toNat < 0x80 := by
    obtain ⟨unit, inside, rfl⟩ := List.mem_map.mp member
    obtain ⟨same, ascii⟩ := base64Unit_url (small unit inside)
    exact ⟨by rw [same]; rfl, ascii⟩
  have length : utf16Len (toBase64url bytes) = (base64urlUnits bytes).length := by
    rw [utf16Len_ascii (fun c member => ?_), toBase64url, String.toList_ofList, List.length_map]
    rw [toBase64url, String.toList_ofList] at member
    exact (known c member).2
  have chars : (toBase64url bytes ++ String.ofList (List.replicate count '=')).toList =
      (base64urlUnits bytes).map base64urlUnit ++ List.replicate count '=' := by
    rw [String.toList_append, toBase64url, String.toList_ofList, String.toList_ofList]
  have stops : (List.replicate count '=').takeWhile (fun c => (base64Unit c).isSome) = [] ∧
      (List.replicate count '=').dropWhile (fun c => (base64Unit c).isSome) = List.replicate count '=' := by
    cases count with
    | zero => exact ⟨rfl, rfl⟩
    | succ count => exact ⟨rfl, rfl⟩
  have body : (toBase64url bytes ++ String.ofList (List.replicate count '=')).toList.takeWhile
      (fun c => (base64Unit c).isSome) = (base64urlUnits bytes).map base64urlUnit := by
    rw [chars, List.takeWhile_append_of_pos fun c member => (known c member).1, stops.1, List.append_nil]
  have rest : (toBase64url bytes ++ String.ofList (List.replicate count '=')).toList.dropWhile
      (fun c => (base64Unit c).isSome) = List.replicate count '=' := by
    rw [chars, List.dropWhile_append_of_pos fun c member => (known c member).1, stops.2]
  have read : ((base64urlUnits bytes).map base64urlUnit).filterMap base64Unit = base64urlUnits bytes := by
    rw [List.filterMap_map]
    have same : ∀ unit ∈ base64urlUnits bytes, (base64Unit ∘ base64urlUnit) unit = some unit :=
      fun unit inside => (base64Unit_url (small unit inside)).1
    rw [List.filterMap_congr same, List.filterMap_some]
  rw [length] at fours
  have few : padding bytes < 6 := Nat.mod_lt _ (by decide)
  obtain ⟨left, octets, zero⟩ := collected.octets value (by omega) (by rw [total, units])
  unfold base64UrlDecode
  rw [body, rest]
  dsimp only
  rw [read, List.length_map]
  generalize (base64urlUnits bytes).foldl (collect 6) (0, 0, []) = state at left octets zero total
  obtain ⟨acc, bits, out⟩ := state
  dsimp only at left octets zero ⊢
  subst left octets
  have whole : (4 - (base64urlUnits out).length % 4) % 4 = count := by omega
  have filled : (base64urlUnits out).length % 4 ≠ 1 := by
    unfold padding at units
    omega
  exact if_pos ⟨filled, by rw [whole, padded_replicate], zero⟩

end Base64

theorem dropWhile_eq_self {chars : List Char} (first : ∀ c ∈ chars.head?, trimmed c = false) :
    chars.dropWhile trimmed = chars := by
  cases chars with
  | nil => rfl
  | cons c rest => rw [List.dropWhile_cons_of_neg (by rw [first c rfl]; decide)]

/-- A text with nothing to strip at its ends. -/
theorem trim_eq_self {text : String} (first : ∀ c ∈ text.toList.head?, trimmed c = false)
    (last : ∀ c ∈ text.toList.getLast?, trimmed c = false) : trim text = text := by
  have back : text.toList.reverse.dropWhile trimmed = text.toList.reverse :=
    dropWhile_eq_self (by rwa [List.head?_reverse])
  rw [trim, dropWhile_eq_self first, back, List.reverse_reverse, String.ofList_toList]

section Numbers

theorem digit_not_trimmed {c : Char} (digit : c.isDigit = true) : trimmed c = false ∧ c ≠ 'x' ∧ c ≠ 'X' ∧ c ≠ '-' ∧ c ≠ '+' := by
  have bounds : 0x30 ≤ c.val.toNat ∧ c.val.toNat ≤ 0x39 := by
    simp only [Char.isDigit, Bool.and_eq_true, decide_eq_true_eq, UInt32.le_iff_toNat_le] at digit
    exact digit
  have apart (d : Char) (outside : d.val.toNat < 0x30 ∨ 0x39 < d.val.toNat) : c ≠ d := by
    intro same
    subst same
    omega
  refine ⟨?_, apart _ (by decide), apart _ (by decide), apart _ (by decide), apart _ (by decide)⟩
  simp only [trimmed, Bool.or_eq_false_iff, Bool.and_eq_false_iff, decide_eq_false_iff_not]
  omega

theorem toDigits_digit {n : Nat} {c : Char} (member : c ∈ Nat.toDigits 10 n) : c.isDigit = true :=
  Nat.isDigit_of_mem_toDigits (by decide) (by decide) member

theorem unsigned_toDigits (sign : Int) (n : Nat) : unsigned sign (Nat.toDigits 10 n) = inRange (sign * n) := by
  have digits : (Nat.toDigits 10 n).all Char.isDigit = true := List.all_eq_true.mpr fun _ => toDigits_digit
  have value : Nat.ofDigitChars 10 (Nat.toDigits 10 n) 0 = n := Nat.ofDigitChars_ten_toDigits
  have plain (c : Char) (member : c ∈ Nat.toDigits 10 n) : ¬(c = 'x' ∨ c = 'X') := by
    obtain ⟨_, lower, upper, _⟩ := digit_not_trimmed (toDigits_digit member)
    exact fun either => either.elim lower upper
  unfold unsigned
  split
  · rename_i x rest spelled
    have second : x ∈ Nat.toDigits 10 n := by
      rw [spelled]
      exact List.mem_cons_of_mem _ List.mem_cons_self
    rw [if_neg (plain x second), if_pos digits, value]
  · rename_i spelled
    exact absurd spelled Nat.toDigits_ne_nil
  · rw [if_pos digits, value]

theorem inRange_toInt (value : Int64) : inRange value.toInt = some value := by
  have least := value.le_toInt
  have largest := value.toInt_lt
  rw [inRange, if_pos ⟨by omega, by omega⟩, Int64.ofInt_toInt]

/-- What the desktop writes of a number the phone reads. -/
theorem tryParse_toString (value : Int64) : tryParse (toString value.toInt) = some value := by
  have ends {text : String} (digits : ∀ c ∈ text.toList, trimmed c = false) : trim text = text :=
    trim_eq_self (fun c member => digits c (List.mem_of_mem_head? member))
      fun c member => digits c (List.mem_of_getLast? member)
  have back := inRange_toInt value
  rcases sign : value.toInt with n | n
  · have chars : (toString (Int.ofNat n)).toList = Nat.toDigits 10 n := by
      change (toString n).toList = _
      rw [Nat.toString_eq_ofList_toDigits, String.toList_ofList]
    rw [sign] at back
    rw [tryParse, ends fun c member => (digit_not_trimmed (toDigits_digit (chars ▸ member))).1, chars]
    split
    · rename_i digits spelled
      have member : '-' ∈ Nat.toDigits 10 n := spelled ▸ List.mem_cons_self
      exact absurd rfl (digit_not_trimmed (toDigits_digit member)).2.2.2.1
    · rename_i digits spelled
      have member : '+' ∈ Nat.toDigits 10 n := spelled ▸ List.mem_cons_self
      exact absurd rfl (digit_not_trimmed (toDigits_digit member)).2.2.2.2
    · rw [unsigned_toDigits, Int.one_mul]
      exact back
  · have chars : (toString (Int.negSucc n)).toList = '-' :: Nat.toDigits 10 (n + 1) := by
      change ("-" ++ toString (n + 1)).toList = _
      rw [String.toList_append, Nat.toString_eq_ofList_toDigits, String.toList_ofList, String.toList_ofList]
      exact List.singleton_append
    have clean (c : Char) (member : c ∈ (toString (Int.negSucc n)).toList) : trimmed c = false := by
      rw [chars] at member
      rcases List.mem_cons.mp member with rfl | digit
      · decide
      · exact (digit_not_trimmed (toDigits_digit digit)).1
    rw [sign] at back
    rw [tryParse, ends clean, chars]
    change unsigned (-1) (Nat.toDigits 10 (n + 1)) = _
    rw [unsigned_toDigits, show (-1 : Int) * ((n + 1 : Nat) : Int) = Int.negSucc n by omega]
    exact back

end Numbers

namespace PairingBootstrap

theorem readField_spell (fields : Fields) {key value : String} (plain : '=' ∉ key.toList) :
    readField fields (ServerBootstrap.spellField (key, value)) = readValue fields key value := by
  have whole : ∀ c ∈ key.toList, decide (c ≠ '=') = true := fun c member =>
    decide_eq_true fun same => plain (same ▸ member)
  have front : (ServerBootstrap.spellField (key, value)).takeWhile (· ≠ '=') = key.toList := by
    rw [ServerBootstrap.spellField, List.takeWhile_append_of_pos whole, List.takeWhile_cons_of_neg (by decide),
      List.append_nil]
  have back : (ServerBootstrap.spellField (key, value)).dropWhile (· ≠ '=') = '=' :: value.toList := by
    rw [ServerBootstrap.spellField, List.dropWhile_append_of_pos whole, List.dropWhile_cons_of_neg (by decide)]
  rw [readField, back]
  dsimp only
  rw [front, String.ofList_toList, String.ofList_toList]

theorem fixedBase64_toBase64url {bytes : Bytes} (message : String) (size : bytes.length = 32) :
    fixedBase64 (Protocol.toBase64url bytes) message = .ok bytes := by
  unfold fixedBase64
  dsimp only
  rw [base64UrlDecode_toBase64url bytes rfl]
  simp only [okOr, except_bind_eq_ok, except_pure_eq_ok, except_require_eq_ok, size, Except.ok.injEq, exists_eq_left',
    exists_const, and_self]

theorem readPurpose_wire (purpose : CredentialPurpose) : readPurpose (toString purpose.wire.toInt) = .ok purpose := by
  unfold readPurpose
  rw [tryParse_toString]
  cases purpose <;> rfl

/-- What the phone makes of the desktop's bootstrap. -/
def ofDesktop (bootstrap : ServerBootstrap) : PairingBootstrap :=
  ⟨bootstrap.sessionId, bootstrap.nonce.val, bootstrap.verifierId, bootstrap.verifierIdentityHash.val,
    bootstrap.endpoint, bootstrap.expiresAtMs, bootstrap.purpose⟩

/-- What has been read once every field has been. -/
def Fields.ofDesktop (bootstrap : ServerBootstrap) : Fields :=
  ⟨bootstrap.verifierId, bootstrap.sessionId, some bootstrap.nonce.val, some bootstrap.verifierIdentityHash.val,
    bootstrap.endpoint, bootstrap.expiresAtMs, bootstrap.purpose⟩

theorem foldlM_readField {pairs : List (String × String)} (plain : ∀ pair ∈ pairs, '=' ∉ pair.1.toList)
    (fields : Fields) :
    (pairs.map ServerBootstrap.spellField).foldlM readField fields =
      pairs.foldlM (fun fields pair => readValue fields pair.1 pair.2) fields := by
  induction pairs generalizing fields with
  | nil => rfl
  | cons pair pairs ih =>
    obtain ⟨first, rest⟩ := List.forall_mem_cons.mp plain
    rw [List.map_cons, List.foldlM_cons, List.foldlM_cons, readField_spell fields first]
    exact congrArg (readValue fields pair.1 pair.2 >>= ·) (funext fun later => ih rest later)

/-- Every field the desktop writes is read, and read as it was meant. -/
theorem readFields {bootstrap : ServerBootstrap}
    (routable : routableEndpoint bootstrap.endpoint = .ok bootstrap.endpoint) :
    (bootstrap.fields.map ServerBootstrap.spellField).foldlM readField Fields.none =
      .ok (Fields.ofDesktop bootstrap) := by
  have nonce (fields : Fields) : readValue fields "n" (Protocol.toBase64url bootstrap.nonce.val) =
      .ok { fields with nonce := some bootstrap.nonce.val } := by
    rw [readValue, fixedBase64_toBase64url _ bootstrap.nonce.property]
    rfl
  have hash (fields : Fields) : readValue fields "k" (Protocol.toBase64url bootstrap.verifierIdentityHash.val) =
      .ok { fields with hash := some bootstrap.verifierIdentityHash.val } := by
    rw [readValue, fixedBase64_toBase64url _ bootstrap.verifierIdentityHash.property]
    rfl
  have endpoint (fields : Fields) : readValue fields "ep" bootstrap.endpoint =
      .ok { fields with endpoint := some bootstrap.endpoint } := by
    rw [readValue, routable]
    rfl
  have expiry (fields : Fields) : readValue fields "exp" (toString bootstrap.expiresAtMs.toInt) =
      .ok { fields with expiresAtMs := some bootstrap.expiresAtMs } := by
    rw [readValue, tryParse_toString]
    rfl
  have purpose (fields : Fields) : readValue fields "p" (toString bootstrap.purpose.wire.toInt) =
      .ok { fields with purpose := bootstrap.purpose } := by
    rw [readValue, readPurpose_wire]
    rfl
  have id (fields : Fields) : readValue fields "vid" bootstrap.verifierId =
      .ok { fields with verifierId := some bootstrap.verifierId } := rfl
  have session (fields : Fields) : readValue fields "sid" bootstrap.sessionId =
      .ok { fields with sessionId := some bootstrap.sessionId } := rfl
  rw [foldlM_readField fun pair member => (ServerBootstrap.fields_plain member).1]
  unfold ServerBootstrap.fields
  rw [List.foldlM_append]
  refine except_bind_eq_ok.mpr ⟨{ Fields.ofDesktop bootstrap with purpose := .authorization }, ?_, ?_⟩
  · simp only [List.foldlM_cons, List.foldlM_nil, except_bind_eq_ok, except_pure_eq_ok]
    exact ⟨_, id _, _, session _, _, nonce _, _, hash _, _, endpoint _, _, expiry _, rfl⟩
  · have last : [("p", toString bootstrap.purpose.wire.toInt)].foldlM
        (fun fields pair => readValue fields pair.1 pair.2)
        { Fields.ofDesktop bootstrap with purpose := .authorization } = .ok (Fields.ofDesktop bootstrap) := by
      simp only [List.foldlM_cons, List.foldlM_nil, except_bind_eq_ok, except_pure_eq_ok]
      exact ⟨_, purpose _, rfl⟩
    rcases use : bootstrap.purpose
    case authorization =>
      rw [Fields.ofDesktop, use]
      rfl
    all_goals
      rw [use] at last
      exact last

theorem validate_ofDesktop {bootstrap : ServerBootstrap} (valid : bootstrap.validate = .ok ()) :
    (ofDesktop bootstrap).validate = .ok () := by
  simp only [ServerBootstrap.validate, except_bind_eq_ok, except_require_eq_ok, exists_const] at valid
  obtain ⟨⟨session, short⟩, ⟨verifier, small⟩, endpoint, separators⟩ := valid
  have units := utf16Len_le_utf8
  unfold validate
  simp only [except_bind_eq_ok, except_require_eq_ok, exists_const]
  exact ⟨⟨session, (units _).trans short⟩, ⟨verifier, (units _).trans small⟩, (units _).trans endpoint,
    ⟨bootstrap.nonce.property, bootstrap.verifierIdentityHash.property⟩, separators⟩

theorem base64url_plain {bytes : Bytes} {c : Char} (member : c ∈ (Protocol.toBase64url bytes).toList) : c ≠ '&' := by
  rw [Protocol.toBase64url, String.toList_ofList] at member
  obtain ⟨unit, inside, rfl⟩ := List.mem_map.mp member
  have apart : ∀ unit < 64, Protocol.base64urlUnit unit ≠ '&' := by decide +kernel
  exact apart unit ((Protocol.base64urlUnits_value bytes).2.1 unit inside)

theorem toString_plain {value : Int} {c : Char} (member : c ∈ (toString value).toList) :
    c = '-' ∨ c.isDigit = true := by
  rcases value with n | n
  · change c ∈ (toString n).toList at member
    rw [Nat.toString_eq_ofList_toDigits, String.toList_ofList] at member
    exact Or.inr (toDigits_digit member)
  · change c ∈ ("-" ++ toString (n + 1)).toList at member
    rw [String.toList_append, Nat.toString_eq_ofList_toDigits, String.toList_ofList, String.toList_ofList] at member
    rcases List.mem_append.mp member with dash | digit
    · exact Or.inl (List.mem_singleton.mp dash)
    · exact Or.inr (toDigits_digit digit)

/-- No field of a valid bootstrap holds the separator of fields. -/
theorem spellField_plain {bootstrap : ServerBootstrap} (valid : bootstrap.validate = .ok ()) :
    ∀ pair ∈ bootstrap.fields.map ServerBootstrap.spellField, '&' ∉ pair := by
  simp only [ServerBootstrap.validate, except_bind_eq_ok, except_require_eq_ok, exists_const, List.forall_mem_cons,
    List.not_mem_nil, IsEmpty.forall_iff, implies_true, and_true] at valid
  obtain ⟨_, _, _, session, verifier, endpoint⟩ := valid
  have number (value : Int) : '&' ∉ (toString value).toList := fun member =>
    (toString_plain member).elim (by decide) (by decide)
  have base64 (bytes : Bytes) : '&' ∉ (Protocol.toBase64url bytes).toList := fun member => base64url_plain member rfl
  have values : ∀ pair ∈ bootstrap.fields, '&' ∉ pair.2.toList := by
    unfold ServerBootstrap.fields
    rw [List.forall_mem_append]
    constructor
    · simp only [List.forall_mem_cons, List.not_mem_nil, IsEmpty.forall_iff, implies_true, and_true]
      exact ⟨verifier.1, session.1, base64 _, base64 _, endpoint.1, number _⟩
    · cases bootstrap.purpose
      case authorization => exact fun _ member => nomatch member
      all_goals
        rw [List.forall_mem_singleton]
        exact number _
  intro chars member
  obtain ⟨pair, inside, rfl⟩ := List.mem_map.mp member
  simp only [ServerBootstrap.spellField, List.mem_append, List.mem_cons, not_or]
  exact ⟨(ServerBootstrap.fields_plain inside).2, by decide, values pair inside⟩

/-- The phone reads the code the desktop shows, when there is an address it can dial or none. -/
theorem parse_toUri {bootstrap : ServerBootstrap} (valid : bootstrap.validate = .ok ())
    (routable : routableEndpoint bootstrap.endpoint = .ok bootstrap.endpoint) :
    parse bootstrap.toUri = .ok (ofDesktop bootstrap) := by
  have some : bootstrap.fields.map ServerBootstrap.spellField ≠ [] := nofun
  have split := List.splitOn_intercalate '&' (spellField_plain valid) some
  unfold parse
  rw [bootstrap.toUri_toList, List.drop_left, split, readFields routable]
  simp only [except_bind_eq_ok, except_require_eq_ok]
  refine ⟨(), List.prefix_append _ _, _, rfl, ?_⟩
  unfold Fields.finish Fields.ofDesktop
  exact except_bind_eq_ok.mpr ⟨(), validate_ofDesktop valid, rfl⟩

theorem routableEndpoint_eq {value routed : String} (run : routableEndpoint value = .ok routed) : routed = value := by
  unfold routableEndpoint at run
  split at run
  · cases run
    rfl
  · simp only [except_bind_eq_ok, except_pure_eq_ok] at run
    obtain ⟨_, _, _, _, rfl⟩ := run
    rfl

/-- A code that is read has an address the phone can dial, or none. -/
theorem routable_of_parse {bootstrap : ServerBootstrap} {read : PairingBootstrap} (valid : bootstrap.validate = .ok ())
    (run : parse bootstrap.toUri = .ok read) : routableEndpoint bootstrap.endpoint = .ok bootstrap.endpoint := by
  have some : bootstrap.fields.map ServerBootstrap.spellField ≠ [] := nofun
  unfold parse at run
  rw [bootstrap.toUri_toList, List.drop_left, List.splitOn_intercalate '&' (spellField_plain valid) some,
    foldlM_readField fun pair member => (ServerBootstrap.fields_plain member).1] at run
  unfold ServerBootstrap.fields at run
  simp only [List.foldlM_append, List.foldlM_cons, except_bind_eq_ok] at run
  obtain ⟨_, _, _, ⟨_, ⟨_, _, _, _, _, _, _, _, _, fifth, _⟩, _⟩, _⟩ := run
  simp only [readValue, except_bind_eq_ok] at fifth
  obtain ⟨routed, same, _⟩ := fifth
  rw [routableEndpoint_eq same] at same
  exact same

/-- A code has nothing to strip. -/
theorem trim_toUri (bootstrap : ServerBootstrap) : trim bootstrap.toUri = bootstrap.toUri := by
  have first (rest : List Char) : (bootstrapPrefix.toList ++ rest).head? = some 'p' := rfl
  have ends : ∃ (front : String) (value : Int), bootstrap.toUri = front ++ toString value ∧
      front.toList.head? = some 'p' := by
    unfold ServerBootstrap.toUri ServerBootstrap.purposeField
    rcases bootstrap.purpose
    case authorization =>
      refine ⟨_, _, String.append_empty, ?_⟩
      simp only [String.toList_append, List.append_assoc, first]
    all_goals
      refine ⟨_, _, String.append_assoc.symm, ?_⟩
      simp only [String.toList_append, List.append_assoc, first]
  obtain ⟨front, value, spelled, head⟩ := ends
  have filled : (toString value).toList ≠ [] := by
    rcases value with n | n
    · change (toString n).toList ≠ []
      rw [Nat.toString_eq_ofList_toDigits, String.toList_ofList]
      exact Nat.toDigits_ne_nil
    · change ("-" ++ toString (n + 1)).toList ≠ []
      rw [String.toList_append]
      exact List.append_ne_nil_of_left_ne_nil (by decide) _
  rw [spelled]
  refine trim_eq_self ?_ ?_
  · intro c member
    have some : front.toList ≠ [] := by
      intro none
      rw [none] at head
      cases head
    rw [String.toList_append, List.head?_append_of_ne_nil _ some, head] at member
    cases member
    decide
  · intro c member
    rw [String.toList_append, List.getLast?_append_of_ne_nil _ filled] at member
    rcases toString_plain (List.mem_of_getLast? member) with rfl | digit
    · decide
    · exact (digit_not_trimmed digit).1

end PairingBootstrap

end BioAuth.Mobile
