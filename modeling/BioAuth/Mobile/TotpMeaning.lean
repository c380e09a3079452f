import BioAuth.Mobile.TotpCodes
import Mathlib

namespace BioAuth.Mobile
open BioAuth
open Casing (toUpperCase toLowerCase)

/-- What a seed means. -/
structure Seed where
  key : Bytes
  digits : Int
  seconds : Int
  algorithm : TotpAlgorithm

/-- The seed that a parsed secret holds. -/
structure TotpSecret.Is (secret : TotpSecret) (seed : Seed) : Prop where
  key : secret.bytes = seed.key
  digits : secret.digits.toInt = seed.digits
  period : secret.period.inMicroseconds.toInt = 1000000 * seed.seconds
  algorithm : secret.algorithm = seed.algorithm

/-- The texts in which a string states a seed. -/
structure SeedTexts where
  secret : String
  digits : Option String
  period : Option String
  algorithm : Option String
  deriving DecidableEq

section Statement
variable [Casing] [Uris]

/-- A bare key, or the parameters of an `otpauth://` link. -/
def seedTexts (stored : String) : Option SeedTexts :=
  if isOtpauth (trim stored) then do
    let parsed ← Uris.tryParse (trim stored)
    let parameters ← parsed.queryParameters.toOption
    let secret ← parameters "secret"
    some ⟨secret, parameters "digits", parameters "period", parameters "algorithm"⟩
  else some ⟨trim stored, none, none, none⟩

/-- A parameter states the number it spells. Where it is absent or has no value the usual number is meant. -/
def statedNumber (parameter : Option String) (usual : Int64) : Option Int64 :=
  if parameter.getD "" = "" then some usual else tryParse (parameter.getD "")

/-- A string states a seed: its letters spell the key, and its parameters the rest. -/
def States (stored : String) (seed : Seed) : Prop :=
  ∃ texts digits seconds, seedTexts stored = some texts ∧
    Base32.Spells (TotpSecret.cleaned texts.secret).toList seed.key ∧
    statedNumber texts.digits totpDigits = some digits ∧ digits.toInt = seed.digits ∧
    statedNumber texts.period totpPeriod.inSeconds = some seconds ∧ seconds.toInt = seed.seconds ∧
    TotpSecret.algorithmOf texts.algorithm = some seed.algorithm

/-- A stored seed keeps its meaning: it is the one the string states, it is read back as it was, strings that state the
same seed are stored as the same text, and the code of a moment is the right one. -/
structure KeepsMeaning [Hmac] (stored : String) (secret : TotpSecret) (now : Moment) : Prop where
  stated : ∃ seed, States stored seed ∧ secret.Is seed
  returns : readTotpSecret (storedTotpSecret secret) = .ok secret
  canonical : ∀ other others seed, readTotpSecret other = .ok others → States stored seed → States other seed →
    storedTotpSecret others = storedTotpSecret secret
  generates : ∃ code, generateTotp secret now = .ok code ∧ code.Right secret now.val.toNat

/-- What parameters there are state numbers, the period one from 1 to 300, and the window the moment is in ends on a
date. -/
def Plainly (stored : String) (now : Moment) : Prop :=
  ∃ texts digits seconds, seedTexts stored = some texts ∧ statedNumber texts.digits totpDigits = some digits ∧
    statedNumber texts.period totpPeriod.inSeconds = some seconds ∧ 1 ≤ seconds.toInt ∧ seconds.toInt ≤ 300 ∧
    windowEnd seconds.toInt.toNat now.val.toNat ≤ maxMilliseconds

end Statement

section Reading

/-- A seed is parsed where its letters spell octets and the parameters are in range. -/
theorem TotpSecret.parse_eq_ok [Casing] {text : String} {digits : Int64} {period : Duration}
    {algorithm : TotpAlgorithm} {secret : TotpSecret} :
    parse text digits period algorithm = .ok secret ↔
      (6 ≤ digits.toInt ∧ digits.toInt ≤ 8) ∧ (1 ≤ period.inSeconds.toInt ∧ period.inSeconds.toInt ≤ 300) ∧
        Base32.Spells (cleaned text).toList secret.bytes ∧ secret.bytes ≠ [] ∧
        secret.digits = digits ∧ secret.period = period ∧ secret.algorithm = algorithm := by
  unfold parse
  simp only [except_bind_eq_ok, except_require_eq_ok, exists_const, Prod.exists]
  constructor
  · rintro ⟨counted, timed, -, accumulator, bits, out, run, some, last⟩
    cases last
    exact ⟨counted, timed, Base32.read_eq_ok run, some, rfl, rfl, rfl⟩
  · rintro ⟨counted, timed, spells, some, rfl, rfl, rfl⟩
    obtain ⟨accumulator, bits, out, run, also⟩ :=
      Base32.read_known (.problem .invalidCharacter : TotpThrown) spells.known
    obtain rfl := spells.unique also
    have filled : cleaned text ≠ "" := by
      intro none
      rw [none] at spells
      exact some (List.eq_nil_of_length_eq_zero spells.length)
    exact ⟨counted, timed, filled, accumulator, bits, secret.bytes, run, some, rfl⟩

theorem numberOr_stated {parameter : Option String} {usual number : Int64}
    (stated : statedNumber parameter usual = some number) : TotpSecret.numberOr parameter usual = number := by
  unfold statedNumber at stated
  unfold TotpSecret.numberOr
  split at stated
  · rename_i none
    rw [none, ← Option.some.inj stated, show tryParse "" = .none from by decide]
    rfl
  · rw [stated]
    rfl

/-- What is read is parsed from the texts the string has. -/
theorem readTotpSecret_eq_ok [Casing] [Uris] {stored : String} {secret : TotpSecret}
    (run : readTotpSecret stored = .ok secret) :
    ∃ texts algorithm, seedTexts stored = some texts ∧ TotpSecret.algorithmOf texts.algorithm = some algorithm ∧
      TotpSecret.parse texts.secret (TotpSecret.numberOr texts.digits totpDigits)
        (.ofSeconds (TotpSecret.numberOr texts.period totpPeriod.inSeconds)) algorithm = .ok secret := by
  unfold readTotpSecret at run
  unfold seedTexts
  split at run
  · rename_i link
    rw [if_pos link]
    unfold TotpSecret.fromUri at run
    simp only [except_bind_eq_ok, okOr_eq_ok, except_require_eq_ok, except_mapError_eq_ok, exists_const] at run
    obtain ⟨parsed, read, -, parameters, known, key, keyed, -, algorithm, named, last⟩ := run
    refine ⟨⟨key, parameters "digits", parameters "period", parameters "algorithm"⟩, algorithm, ?_, named, last⟩
    rw [read, Option.bind_eq_bind, Option.bind_some, known]
    change (parameters "secret").bind _ = _
    rw [keyed]
    rfl
  · rename_i bare
    rw [if_neg bare]
    have usual : Duration.ofSeconds (TotpSecret.numberOr none totpPeriod.inSeconds) = totpPeriod := by decide
    have six : TotpSecret.numberOr none totpDigits = totpDigits := by decide
    refine ⟨_, .sha1, rfl, rfl, ?_⟩
    rw [six, usual]
    exact run

end Reading

section Storing

/-- The characters of a stored seed. None of them is stripped, and none is a capital of the scheme. -/
def storable (c : Char) : Bool := unreserved c || c ∈ ":/?&=".toList

theorem unreserved_bounds {c : Char} (plain : unreserved c = true) : 0x30 ≤ c.val.toNat ∧ c.val.toNat ≤ 0x7a := by
  simp only [unreserved, Char.isAlphanum, Char.isAlpha, Char.isUpper, Char.isLower, Char.isDigit, Bool.or_eq_true,
    Bool.and_eq_true, decide_eq_true_eq, UInt32.le_iff_toNat_le] at plain
  change (((65 ≤ _ ∧ _ ≤ 90) ∨ (97 ≤ _ ∧ _ ≤ 122)) ∨ (48 ≤ _ ∧ _ ≤ 57)) at plain
  omega

theorem storable_ascii {c : Char} (plain : storable c = true) : c.val.toNat < 0x80 ∧ trimmed c = false := by
  have bounds : 0x21 ≤ c.val.toNat ∧ c.val.toNat < 0x80 := by
    rcases Bool.or_eq_true_iff.mp plain with letter | symbol
    · have := unreserved_bounds letter
      omega
    · have each : ∀ c ∈ ":/?&=".toList, 0x21 ≤ c.val.toNat ∧ c.val.toNat < 0x80 := by decide
      exact each c (of_decide_eq_true symbol)
  refine ⟨bounds.2, ?_⟩
  simp only [trimmed, Bool.or_eq_false_iff, Bool.and_eq_false_iff, decide_eq_false_iff_not]
  omega

theorem trim_storable {text : String} (plain : ∀ c ∈ text.toList, storable c = true) : trim text = text :=
  trim_eq_self (fun c member => (storable_ascii (plain c (List.mem_of_mem_head? member))).2)
    fun c member => (storable_ascii (plain c (List.mem_of_getLast? member))).2

/-- What reading relies on of a letter of the alphabet. -/
theorem base32_letters : ∀ c ∈ base32Alphabet, storable c = true ∧ unreserved c = true ∧ c.toUpper = c ∧ c.toLower ≠ ':' ∧
    spacing c = false ∧ c ≠ '-' ∧ c ≠ '=' := by
  decide

/-- A key that was written is read letter by letter. -/
theorem totpSecretToBase32_spells (secret : TotpSecret) :
    (∀ c ∈ (totpSecretToBase32 secret).toList, c ∈ base32Alphabet) ∧
      Base32.Spells (totpSecretToBase32 secret).toList secret.bytes := by
  obtain ⟨digits, written, -, -, spells⟩ :=
    Base32.write_spells (fun (base32 : List Char) index => base32 ++ [Base32.glyph index]) [] secret.bytes
  have chars : (totpSecretToBase32 secret).toList = digits.map Base32.glyph := by
    rw [totpSecretToBase32, String.toList_ofList, written, List.foldl_append_eq_append, List.nil_append]
    exact List.map_eq_flatMap.symm
  rw [chars]
  exact ⟨spells.known, spells⟩

theorem cleaned_base32 [Casing] {text : String} (known : ∀ c ∈ text.toList, c ∈ base32Alphabet) :
    TotpSecret.cleaned text = text := by
  have keep : (text.toList.filter fun c => ¬(spacing c = true ∨ c = '-')) = text.toList := by
    refine List.filter_eq_self.mpr fun c member => ?_
    obtain ⟨-, -, -, -, space, dash, -⟩ := base32_letters c (known c member)
    simp [space, dash]
  have pads : text.toList.filter (· ≠ '=') = text.toList := by
    refine List.filter_eq_self.mpr fun c member => ?_
    simpa using (base32_letters c (known c member)).2.2.2.2.2.2
  have upper : text.toList.map Char.toUpper = text.toList :=
    (List.map_congr_left fun c member => (base32_letters c (known c member)).2.2.1).trans (List.map_id' _)
  rw [TotpSecret.cleaned, keep, pads, String.ofList_toList, Casing.upper_ascii, upper, String.ofList_toList]
  exact fun c member => (storable_ascii (base32_letters c (known c member)).1).1

theorem base32_bare [Casing] {text : String} (known : ∀ c ∈ text.toList, c ∈ base32Alphabet) : ¬isOtpauth text := by
  intro link
  have ascii : ∀ c ∈ text.toList, c.val.toNat < 0x80 := fun c member =>
    (storable_ascii (base32_letters c (known c member)).1).1
  rw [isOtpauth, Casing.lower_ascii _ ascii] at link
  have first : ':' ∈ "otpauth://".toList := by decide
  have colon := link.subset first
  rw [String.toList_ofList] at colon
  obtain ⟨c, member, lower⟩ := List.mem_map.mp colon
  exact (base32_letters c (known c member)).2.2.2.1 lower

theorem intercalate_forall {P : Char → Prop} {sep : List Char} {pieces : List (List Char)} (between : ∀ c ∈ sep, P c)
    (within : ∀ piece ∈ pieces, ∀ c ∈ piece, P c) : ∀ c ∈ sep.intercalate pieces, P c := by
  induction pieces with
  | nil => exact nofun
  | cons piece pieces ih =>
    rw [List.forall_mem_cons] at within
    cases pieces with
    | nil =>
      rw [List.intercalate_singleton]
      exact within.1
    | cons next rest =>
      rw [List.intercalate_cons_cons, List.forall_mem_append, List.forall_mem_append]
      exact ⟨⟨within.1, between⟩, ih within.2⟩

theorem storable_of_unreserved {c : Char} (plain : unreserved c = true) : storable c = true :=
  Bool.or_eq_true_iff.mpr (Or.inl plain)

/-- A link with plain parameters is all characters that are kept as they are. -/
theorem storable_link [Uris] {parameters : List (String × String)} (plain : PlainQuery parameters) :
    ∀ c ∈ (Uris.toText "otpauth" "totp" "/" parameters).toList, storable c = true := by
  have first : ∀ c ∈ "otpauth://totp/?".toList, storable c = true := by decide
  have ampersand : ∀ c ∈ "&".toList, storable c = true := by decide
  have equals : ∀ c ∈ "=".toList, storable c = true := by decide
  rw [Uris.toText_plain plain, String.toList_append, List.forall_mem_append, String.toList_intercalate]
  refine ⟨first, intercalate_forall ampersand fun piece member => ?_⟩
  rw [List.map_map] at member
  obtain ⟨entry, inside, rfl⟩ := List.mem_map.mp member
  rw [Function.comp_apply, String.toList_append, String.toList_append, List.forall_mem_append, List.forall_mem_append]
  exact ⟨⟨fun c letter => storable_of_unreserved (List.all_eq_true.mp (plain.keys entry inside).2 c letter), equals⟩,
    fun c letter => storable_of_unreserved (List.all_eq_true.mp (plain.values entry inside) c letter)⟩

theorem prefix_ofList {front chars : List Char} (starts : front <+: chars) : front <+: (String.ofList chars).toList := by
  rwa [String.toList_ofList]

/-- A link with plain parameters is read as its parameters. -/
theorem readTotpSecret_link [Casing] [Uris] {parameters : List (String × String)} (plain : PlainQuery parameters)
    {key : String} (keyed : parameters.lookup "secret" = some key) (some : key ≠ "") {secret : TotpSecret}
    {algorithm : TotpAlgorithm} (named : TotpSecret.algorithmOf (parameters.lookup "algorithm") = algorithm)
    (parsed : TotpSecret.parse key (TotpSecret.numberOr (parameters.lookup "digits") totpDigits)
      (.ofSeconds (TotpSecret.numberOr (parameters.lookup "period") totpPeriod.inSeconds)) algorithm = .ok secret) :
    readTotpSecret (Uris.toText "otpauth" "totp" "/" parameters) = .ok secret := by
  have storable := storable_link plain
  have link : isOtpauth (Uris.toText "otpauth" "totp" "/" parameters) := by
    have lower : "otpauth://totp/?".toList.map Char.toLower = "otpauth://totp/?".toList := by decide
    have starts : "otpauth://".toList <+: "otpauth://totp/?".toList := by decide
    rw [isOtpauth, Casing.lower_ascii _ fun c member => (storable_ascii (storable c member)).1,
      Uris.toText_plain plain, String.toList_append, List.map_append, lower]
    exact prefix_ofList (starts.trans (List.prefix_append _ _))
  rw [readTotpSecret, trim_storable storable, if_pos link, TotpSecret.fromUri, Uris.tryParse_plain plain]
  simp only [except_bind_eq_ok, okOr_eq_ok, except_require_eq_ok, except_mapError_eq_ok, exists_const]
  exact ⟨_, rfl, ⟨rfl, rfl⟩, _, rfl, key, keyed, some, algorithm, named, parsed⟩

/-- The numbers a link spells. -/
theorem number_unreserved (n : Nat) : (toString (n : Int)).toList.all unreserved = true := by
  change (toString n).toList.all unreserved = true
  rw [Nat.toString_eq_ofList_toDigits, String.toList_ofList]
  refine List.all_eq_true.mpr fun c member => ?_
  rw [unreserved, Char.isAlphanum, toDigits_digit member, Bool.or_true]

theorem numberOr_toString (number usual : Int64) : TotpSecret.numberOr (some (toString number.toInt)) usual = number := by
  rw [TotpSecret.numberOr, Option.getD_some, tryParse_toString]
  rfl

/-- A duration of whole seconds in range. -/
theorem TotpSecret.Stepped.ofSeconds {secret : TotpSecret} {seconds : Nat} (stepped : secret.Stepped seconds) :
    Duration.ofSeconds secret.period.inSeconds = secret.period := by
  have few := stepped.few
  have whole := stepped.whole
  have same : (1000000 * secret.period.inSeconds).toInt = secret.period.inMicroseconds.toInt := by
    rw [Int64.toInt_mul, stepped.inSeconds, whole, show (1000000 : Int64).toInt = 1000000 from by decide]
    exact Int.bmod_eq_of_le (by norm_num; omega) (by norm_num; omega)
  rw [Duration.ofSeconds, Int64.toInt_inj.mp same]

theorem queryParameters_plain {secret : TotpSecret} {seconds : Nat} (stepped : secret.Stepped seconds) :
    PlainQuery secret.queryParameters := by
  have key : (totpSecretToBase32 secret).toList.all unreserved = true := List.all_eq_true.mpr fun c member =>
    (base32_letters c ((totpSecretToBase32_spells secret).1 c member)).2.1
  have digits : (toString secret.digits.toInt).toList.all unreserved = true := by
    obtain ⟨number, same⟩ := Int.eq_ofNat_of_zero_le (show 0 ≤ secret.digits.toInt by have := stepped.digits; omega)
    rw [same]
    exact number_unreserved number
  have period : (toString secret.period.inSeconds.toInt).toList.all unreserved = true := by
    rw [stepped.inSeconds]
    exact number_unreserved seconds
  have labels (algorithm : TotpAlgorithm) : algorithm.label.toList.all unreserved = true := by
    cases algorithm <;> decide
  have keys : secret.queryParameters.map Prod.fst <+: ["secret", "digits", "period", "algorithm"] := by
    unfold TotpSecret.queryParameters
    split
    · exact ⟨[], rfl⟩
    · exact ⟨["algorithm"], rfl⟩
  have names : ∀ name ∈ ["secret", "digits", "period", "algorithm"], name ≠ "" ∧ name.toList.all unreserved = true := by
    decide
  refine ⟨nofun, fun entry member => names _ (keys.subset (List.mem_map_of_mem member)), ?_,
    keys.sublist.nodup (by decide)⟩
  refine List.forall_mem_append.mpr ⟨?_, ?_⟩
  · exact List.forall_mem_cons.mpr ⟨key, List.forall_mem_cons.mpr ⟨digits, List.forall_mem_cons.mpr ⟨period, nofun⟩⟩⟩
  · split
    · exact List.forall_mem_singleton.mpr (labels secret.algorithm)
    · exact nofun

theorem TotpAlgorithm.parse_label [Casing] (algorithm : TotpAlgorithm) : parse algorithm.label = some algorithm := by
  have upper : toUpperCase algorithm.label = algorithm.label := by
    rw [Casing.upper_ascii] <;> cases algorithm <;> decide
  rw [parse, upper]
  cases algorithm <;> decide

/-- The algorithm is named where it is not the usual one. -/
theorem algorithmOf_queryParameters [Casing] (secret : TotpSecret) :
    TotpSecret.algorithmOf (secret.queryParameters.lookup "algorithm") = secret.algorithm := by
  obtain ⟨bytes, digits, period, algorithm⟩ := secret
  cases algorithm with
  | sha1 => rfl
  | sha256 => exact (if_neg (show "SHA256" ≠ "" by decide)).trans (TotpAlgorithm.parse_label .sha256)
  | sha512 => exact (if_neg (show "SHA512" ≠ "" by decide)).trans (TotpAlgorithm.parse_label .sha512)

/-- A seed of whole seconds is read back as it was stored. -/
theorem readTotpSecret_stored [Casing] [Uris] {secret : TotpSecret} {seconds : Nat} (stepped : secret.Stepped seconds)
    (some : secret.bytes ≠ []) : readTotpSecret (storedTotpSecret secret) = .ok secret := by
  obtain ⟨known, spells⟩ := totpSecretToBase32_spells secret
  have parsed (algorithm : TotpAlgorithm) (same : secret.algorithm = algorithm) :
      TotpSecret.parse (totpSecretToBase32 secret) secret.digits secret.period algorithm = .ok secret := by
    refine TotpSecret.parse_eq_ok.mpr ⟨stepped.digits, ?_, ?_, some, rfl, rfl, same⟩
    · have few := stepped.few
      rw [stepped.inSeconds]
      omega
    · rwa [cleaned_base32 known]
  unfold storedTotpSecret
  split
  · rename_i usual
    obtain ⟨six, thirty, sha1⟩ := usual
    have plain : ∀ c ∈ (totpSecretToBase32 secret).toList, storable c = true := fun c member =>
      (base32_letters c (known c member)).1
    rw [readTotpSecret, trim_storable plain, if_neg (base32_bare known), ← six, ← thirty]
    exact parsed .sha1 sha1
  · have filled : totpSecretToBase32 secret ≠ "" := by
      intro none
      rw [none] at spells
      exact some (List.eq_nil_of_length_eq_zero spells.length)
    refine readTotpSecret_link (queryParameters_plain stepped) rfl filled (algorithmOf_queryParameters secret) ?_
    have digits : secret.queryParameters.lookup "digits" = toString secret.digits.toInt := rfl
    have period : secret.queryParameters.lookup "period" = toString secret.period.inSeconds.toInt := rfl
    rw [digits, period, numberOr_toString, numberOr_toString, stepped.ofSeconds]
    exact parsed _ rfl

end Storing

section Meaning
variable [Casing] [Uris]

/-- What is read holds any seed the string states, up to a period that wraps. -/
theorem States.read {stored : String} {seed : Seed} {secret : TotpSecret} (states : States stored seed)
    (run : readTotpSecret stored = .ok secret) :
    ∃ digits seconds, digits.toInt = seed.digits ∧ seconds.toInt = seed.seconds ∧
      secret = ⟨seed.key, digits, .ofSeconds seconds, seed.algorithm⟩ := by
  obtain ⟨texts, digits, seconds, texted, spells, counted, digitsSame, timed, secondsSame, named⟩ := states
  obtain ⟨also, algorithm, read, chosen, parsed⟩ := readTotpSecret_eq_ok run
  cases texted.symm.trans read
  cases named.symm.trans chosen
  rw [numberOr_stated counted, numberOr_stated timed] at parsed
  obtain ⟨-, -, spelled, -, rfl, period, chosen⟩ := TotpSecret.parse_eq_ok.mp parsed
  refine ⟨_, seconds, digitsSame, secondsSame, ?_⟩
  rw [← spelled.unique spells, ← period, ← chosen]

/-- Strings that state one seed are read as one secret. -/
theorem States.canonical {stored other : String} {seed : Seed} {secret others : TotpSecret}
    (states : States stored seed) (also : States other seed) (run : readTotpSecret stored = .ok secret)
    (runs : readTotpSecret other = .ok others) : others = secret := by
  obtain ⟨digits, seconds, digitsSame, secondsSame, rfl⟩ := states.read run
  obtain ⟨digits', seconds', digitsAlso, secondsAlso, rfl⟩ := also.read runs
  rw [Int64.toInt_inj.mp (digitsAlso.trans digitsSame.symm), Int64.toInt_inj.mp (secondsAlso.trans secondsSame.symm)]

omit [Casing] [Uris] in
/-- A period in range does not wrap. -/
theorem ofSeconds_toInt {seconds : Int64} (few : 1 ≤ seconds.toInt ∧ seconds.toInt ≤ 300) :
    (Duration.ofSeconds seconds).inMicroseconds.toInt = 1000000 * seconds.toInt := by
  rw [Duration.ofSeconds, Int64.toInt_mul, show (1000000 : Int64).toInt = 1000000 from by decide]
  exact Int.bmod_eq_of_le (by norm_num; omega) (by norm_num; omega)

/-- The period of a seed that a secret read of some string holds is in range. -/
theorem TotpSecret.Is.stepped {stored : String} {seed : Seed} {secret : TotpSecret} (is : secret.Is seed) (run :
    readTotpSecret stored = .ok secret) : ∃ seconds : Nat, secret.Stepped seconds ∧ seed.seconds = seconds := by
  obtain ⟨texts, algorithm, -, -, parsed⟩ := readTotpSecret_eq_ok run
  obtain ⟨counted, timed, -, -, digits, period, -⟩ := TotpSecret.parse_eq_ok.mp parsed
  have whole := is.period
  rw [← period, Duration.inSeconds_whole whole] at timed
  rw [← digits] at counted
  obtain ⟨seconds, same⟩ := Int.eq_ofNat_of_zero_le (show 0 ≤ seed.seconds by omega)
  rw [same] at whole timed
  exact ⟨seconds, ⟨counted, by omega, whole⟩, same⟩

variable [Hmac]

/-- A seed that was read keeps its meaning exactly where what parameters its string has are numbers, the period from 1 to
300, and the window of the moment ends on a date. -/
theorem stored_seed_keeps_meaning_iff {stored : String} {secret : TotpSecret} (run : readTotpSecret stored = .ok secret)
    {now : Moment} (after : 0 ≤ now.val) : KeepsMeaning stored secret now ↔ Plainly stored now := by
  have moment : now.val = (now.val.toNat : Int) := (Int.toNat_of_nonneg after).symm
  constructor
  · intro keeps
    obtain ⟨seed, states, is⟩ := keeps.stated
    obtain ⟨seconds, stepped, same⟩ := is.stepped run
    obtain ⟨texts, digits, period, texted, -, counted, -, timed, periodSame, -⟩ := states
    have few := stepped.few
    refine ⟨texts, digits, period, texted, counted, timed, by omega, by omega, ?_⟩
    rw [periodSame, same]
    exact (generateTotp_right stepped moment).mp keeps.generates
  · rintro ⟨texts, digits, seconds, texted, counted, timed, least, most, dated⟩
    obtain ⟨also, algorithm, read, named, parsed⟩ := readTotpSecret_eq_ok run
    cases texted.symm.trans read
    rw [numberOr_stated counted, numberOr_stated timed] at parsed
    obtain ⟨-, -, spells, some, digitsSame, periodSame, algorithmSame⟩ := TotpSecret.parse_eq_ok.mp parsed
    have micros := ofSeconds_toInt ⟨least, most⟩
    have states : States stored ⟨secret.bytes, digits.toInt, seconds.toInt, algorithm⟩ :=
      ⟨texts, digits, seconds, texted, spells, counted, rfl, timed, rfl, named⟩
    rw [← periodSame] at micros
    have is : secret.Is ⟨secret.bytes, digits.toInt, seconds.toInt, algorithm⟩ :=
      ⟨rfl, congrArg Int64.toInt digitsSame, micros, algorithmSame⟩
    obtain ⟨count, stepped, counts⟩ := is.stepped run
    refine ⟨⟨_, states, is⟩, readTotpSecret_stored stepped some, fun other others seed runs first second => ?_,
      (generateTotp_right stepped moment).mpr ?_⟩
    · rw [first.canonical second run runs]
    · rw [← Int.toNat_natCast count, ← counts]
      exact dated

end Meaning

section Plain

/-- A link without escapes, taken apart. -/
def plainUri (text : String) : Uri :=
  let rest := (text.toList.dropWhile (· ≠ ':')).drop 3
  let pieces := ((rest.dropWhile (· ≠ '?')).drop 1).splitOn '&'
  let parameters := pieces.map fun piece =>
    (String.ofList (piece.takeWhile (· ≠ '=')), String.ofList ((piece.dropWhile (· ≠ '=')).drop 1))
  { scheme := String.ofList (text.toList.takeWhile (· ≠ ':'))
    host := String.ofList (rest.takeWhile (· ≠ '/'))
    queryParameters := .ok fun key => parameters.lookup key }

def plainLink (parameters : List (String × String)) : String :=
  "otpauth://totp/?" ++ "&".intercalate (parameters.map fun entry => entry.1 ++ "=" ++ entry.2)

theorem unreserved_ne {text : String} (plain : text.toList.all unreserved = true) : '&' ∉ text.toList ∧ '=' ∉ text.toList :=
  ⟨fun member => absurd (List.all_eq_true.mp plain _ member) (by decide),
    fun member => absurd (List.all_eq_true.mp plain _ member) (by decide)⟩

theorem plainUri_link {parameters : List (String × String)} (plain : PlainQuery parameters) :
    plainUri (plainLink parameters) = ⟨"otpauth", "totp", .ok fun key => parameters.lookup key⟩ := by
  have chars : (plainLink parameters).toList = "otpauth://totp/?".toList ++
      ['&'].intercalate (parameters.map fun entry => entry.1.toList ++ '=' :: entry.2.toList) := by
    rw [plainLink, String.toList_append, String.toList_intercalate, List.map_map]
    congr 2
    refine List.map_congr_left fun entry _ => ?_
    rw [Function.comp_apply, String.toList_append, String.toList_append, List.append_assoc]
    rfl
  have whole : ∀ piece ∈ parameters.map fun entry => entry.1.toList ++ '=' :: entry.2.toList, '&' ∉ piece := by
    intro piece member
    obtain ⟨entry, inside, rfl⟩ := List.mem_map.mp member
    have key := (unreserved_ne (plain.keys entry inside).2).1
    have value := (unreserved_ne (plain.values entry inside)).1
    simp [key, value]
  have back : (parameters.map fun entry => entry.1.toList ++ '=' :: entry.2.toList).map (fun piece =>
      (String.ofList (piece.takeWhile (· ≠ '=')), String.ofList ((piece.dropWhile (· ≠ '=')).drop 1))) = parameters := by
    rw [List.map_map]
    refine (List.map_congr_left fun entry inside => ?_).trans (List.map_id' parameters)
    have key : ∀ c ∈ entry.1.toList, decide (c ≠ '=') = true := fun c member =>
      decide_eq_true fun same => (unreserved_ne (plain.keys entry inside).2).2 (same ▸ member)
    simp only [Function.comp_apply, List.takeWhile_append_of_pos key, List.dropWhile_append_of_pos key]
    simp
  have some : (parameters.map fun entry => entry.1.toList ++ '=' :: entry.2.toList) ≠ [] := by simpa using plain.some
  have scheme (query : List Char) : ("otpauth://totp/?".toList ++ query).takeWhile (· ≠ ':') = "otpauth".toList := rfl
  have rest (query : List Char) :
      (("otpauth://totp/?".toList ++ query).dropWhile (· ≠ ':')).drop 3 = "totp/?".toList ++ query := rfl
  have host (query : List Char) : ("totp/?".toList ++ query).takeWhile (· ≠ '/') = "totp".toList := rfl
  have query (query : List Char) : (("totp/?".toList ++ query).dropWhile (· ≠ '?')).drop 1 = query := rfl
  unfold plainUri
  rw [chars]
  dsimp only
  rw [scheme, rest, host, query, List.splitOn_intercalate '&' whole some, back, String.ofList_toList, String.ofList_toList]

abbrev plainUris : Uris where
  tryParse text := some (plainUri text)
  encodeComponent text := text
  toText _ _ _ parameters := plainLink parameters
  toText_plain _ := rfl
  tryParse_plain plain := congrArg some (plainUri_link plain)

/-- The test vector of RFC 6238 for 59 seconds after the epoch, and no other hash. -/
abbrev vectorHmac : Hmac where
  calculateMac algorithm message key :=
    if algorithm = .sha1 ∧ message = [0, 0, 0, 0, 0, 0, 0, 1] ∧ key = utf8 "12345678901234567890" then
      [0x75, 0xa4, 0x8a, 0x19, 0xd4, 0xcb, 0xe1, 0x00, 0x64, 0x4e, 0x8a, 0xc1, 0x39, 0x7e, 0xea, 0x74, 0x7a, 0x2d,
        0x33, 0xab]
    else List.replicate algorithm.digestLength 0
  calculateMac_length algorithm message key := by
    split
    · rename_i vector
      rw [vector.1]
      rfl
    · exact List.length_replicate

def vectorLink : String := "otpauth://totp/Banco?secret=GEZDGNBVGY3TQOJQGEZDGNBVGY3TQOJQ&digits=8"

def vectorSecret : TotpSecret := ⟨utf8 "12345678901234567890", 8, totpPeriod, .sha1⟩

def vectorMoment : Moment := ⟨59000000, by decide⟩

example : letI := vectorHmac
    (generateTotp vectorSecret vectorMoment).map (fun code => (code.digits, code.expiresAt.millisecondsSinceEpoch)) =
      .ok ("94287082", 60000) := by decide +kernel

theorem stored_seed_keeps_meaning_iff_vector :
    letI := plainCasing
    letI := plainUris
    letI := vectorHmac
    readTotpSecret vectorLink = .ok vectorSecret ∧ KeepsMeaning vectorLink vectorSecret vectorMoment := by
  let := plainCasing
  let := plainUris
  let := vectorHmac
  have run : readTotpSecret vectorLink = .ok vectorSecret := by decide +kernel
  have texts : seedTexts vectorLink = some ⟨"GEZDGNBVGY3TQOJQGEZDGNBVGY3TQOJQ", some "8", none, none⟩ := by decide +kernel
  have digits : statedNumber (some "8") totpDigits = some 8 := by decide +kernel
  exact ⟨run, (stored_seed_keeps_meaning_iff run (by decide)).mpr
    ⟨_, 8, 30, texts, digits, rfl, by decide, by decide, by decide⟩⟩

/-- A period of 2^58 seconds and thirty. -/
def wrappedLink : String := "otpauth://totp/Banco?secret=JBSWY3DPEHPK3PXP&period=288230376151711774"

/-- The product with a million wraps, and what is left of the period is thirty seconds. -/
theorem wrapped_period_unstated :
    letI := plainCasing
    letI := plainUris
    letI := vectorHmac
    ∃ secret, readTotpSecret wrappedLink = .ok secret ∧ secret.period = totpPeriod ∧
      ¬KeepsMeaning wrappedLink secret vectorMoment := by
  let := plainCasing
  let := plainUris
  let := vectorHmac
  have run : readTotpSecret wrappedLink =
      .ok ⟨[0x48, 0x65, 0x6c, 0x6c, 0x6f, 0x21, 0xde, 0xad, 0xbe, 0xef], 6, totpPeriod, .sha1⟩ := by decide +kernel
  have texts : seedTexts wrappedLink = some ⟨"JBSWY3DPEHPK3PXP", none, some "288230376151711774", none⟩ := by
    decide +kernel
  have spelled : statedNumber (some "288230376151711774") totpPeriod.inSeconds = some 288230376151711774 := by
    decide +kernel
  refine ⟨_, run, rfl, fun keeps => ?_⟩
  obtain ⟨seed, ⟨said, digits, seconds, read, -, -, -, timed, same, -⟩, is⟩ := keeps.stated
  cases texts.symm.trans read
  cases spelled.symm.trans timed
  have period : (30000000 : Int) = 1000000 * seed.seconds := is.period
  have far : (288230376151711774 : Int) = seed.seconds := same
  omega

end Plain

end BioAuth.Mobile
