import BioAuth.Mobile.PairingBootstrap
import BioAuth.Protocol.Base64url
import BioAuth.Session.BootstrapUri

namespace BioAuth.Mobile
open BioAuth BioAuth.Regroup
open BioAuth.Protocol (CredentialPurpose base64url base64urlUnit fromBase64url payload readBase64url_run)
open BioAuth.Session (Decimal ServerBootstrap SessionError bootstrapPrefix digitsOf parseI64 signOf)

section Numbers

theorem unsigned_digits (sign : Int) {digits : List Char} (all : ∀ c ∈ digits, c.isDigit = true) :
    unsigned sign digits = if digits = [] then none else inRange (sign * Nat.ofDigitChars 10 digits 0) := by
  have whole : digits.all Char.isDigit = true := List.all_eq_true.mpr all
  unfold unsigned
  split
  · rename_i x rest
    have second := all x (List.mem_cons_of_mem _ List.mem_cons_self)
    obtain ⟨_, lower, upper, _⟩ := digit_not_trimmed second
    rw [if_neg fun either => either.elim lower upper, if_pos whole, if_neg (List.cons_ne_nil _ _)]
  · rw [if_pos rfl]
  · rename_i some
    rw [if_pos whole, if_neg some]

theorem decimal_clean {text : String} (decimal : Decimal text) {c : Char} (member : c ∈ text.toList) : trimmed c = false := by
  have digit (c : Char) (inside : c ∈ digitsOf text.toList) : trimmed c = false := (digit_not_trimmed (decimal c inside)).1
  rcases chars : text.toList with _ | ⟨first, rest⟩
  · rw [chars] at member
    cases member
  · rw [chars] at member digit
    unfold digitsOf at digit
    split at digit
    · rename_i spelled
      obtain ⟨rfl, rfl⟩ := List.cons.inj spelled
      rcases List.mem_cons.mp member with rfl | inside
      · decide
      · exact digit c inside
    · rename_i spelled
      obtain ⟨rfl, rfl⟩ := List.cons.inj spelled
      rcases List.mem_cons.mp member with rfl | inside
      · decide
      · exact digit c inside
    · exact digit c member

/-- A number without anything but a sign and digits is one number to both. -/
theorem tryParse_of_decimal {text : String} (decimal : Decimal text) : tryParse text = parseI64 text := by
  have whole : trim text = text :=
    trim_eq_self (fun _ member => decimal_clean decimal (List.mem_of_mem_head? member))
      fun _ member => decimal_clean decimal (List.mem_of_getLast? member)
  have read : tryParse text = unsigned (signOf text.toList) (digitsOf text.toList) := by
    unfold tryParse
    rw [whole]
    split
    · rename_i minus
      rw [minus]
      rfl
    · rename_i plus
      rw [plus]
      rfl
    · rw [signOf, digitsOf] <;> assumption
  rw [read, unsigned_digits _ decimal, parseI64]
  by_cases none : digitsOf text.toList = []
  · rw [if_pos none, if_neg fun all => all.1 none]
  · rw [if_neg none, inRange]
    split
    · rename_i within
      rw [if_pos ⟨none, decimal, within⟩]
    · rename_i without
      rw [if_neg fun all => without all.2.2]

theorem decimal_of_parseI64 {text : String} {value : Int64} (read : parseI64 text = some value) : Decimal text := by
  unfold parseI64 at read
  dsimp only at read
  split at read
  · rename_i all
    exact all.2.1
  · cases read

/-- What the phone reads as a number the desktop reads just when it is spelled plainly. -/
theorem parseI64_iff {text : String} {value : Int64} (phone : tryParse text = some value) :
    parseI64 text = some value ↔ Decimal text :=
  ⟨decimal_of_parseI64, fun decimal => (tryParse_of_decimal decimal).symm.trans phone⟩

theorem tryParse_of_parseI64 {text : String} {value : Int64} (read : parseI64 text = some value) : tryParse text = some value :=
  (tryParse_of_decimal (decimal_of_parseI64 read)).trans read

theorem decimal_toString (value : Int64) : Decimal (toString value.toInt) := by
  rcases value.toInt with n | n
  · have chars : (toString (Int.ofNat n)).toList = Nat.toDigits 10 n := by
      change (toString n).toList = _
      rw [Nat.toString_eq_ofList_toDigits, String.toList_ofList]
    intro c member
    have all : ∀ c ∈ (toString (Int.ofNat n)).toList, c.isDigit = true := chars ▸ fun _ => toDigits_digit
    unfold digitsOf at member
    split at member
    · rename_i minus
      exact all c (minus ▸ List.mem_cons_of_mem _ member)
    · rename_i plus
      exact all c (plus ▸ List.mem_cons_of_mem _ member)
    · exact all c member
  · have chars : (toString (Int.negSucc n)).toList = '-' :: Nat.toDigits 10 (n + 1) := by
      change ("-" ++ toString (n + 1)).toList = _
      rw [String.toList_append, Nat.toString_eq_ofList_toDigits, String.toList_ofList, String.toList_ofList]
      exact List.singleton_append
    intro c member
    rw [chars] at member
    exact toDigits_digit member

end Numbers

section Base64

/-- The two letters that only the phone's alphabet has. -/
theorem base64Unit_known {c : Char} {unit : Nat} (known : base64Unit c = some unit) (plus : c ≠ '+') (slash : c ≠ '/') :
    c ∈ base64url ∧ base64url.idxOf c = unit := by
  have ascii : c.val.toNat < 128 := by
    by_contra large
    have apart (d : Char) (small : d.val.toNat < 128) : c ≠ d := by
      rintro rfl
      exact large small
    unfold base64Unit at known
    dsimp only at known
    rw [if_neg (by omega), if_neg (by omega), if_neg (by omega), if_neg (not_or.mpr ⟨plus, apart '-' (by decide)⟩),
      if_neg (not_or.mpr ⟨slash, apart '_' (by decide)⟩)] at known
    cases known
  have each : ∀ code < 128, Char.ofNat code = '+' ∨ Char.ofNat code = '/' ∨ base64Unit (Char.ofNat code) = none ∨
      Char.ofNat code ∈ base64url ∧ base64Unit (Char.ofNat code) = some (base64url.idxOf (Char.ofNat code)) := by
    decide +kernel
  have self : Char.ofNat c.val.toNat = c := Char.ofNat_toNat c
  have here := each c.val.toNat ascii
  rw [self, known] at here
  rcases here with same | same | same | ⟨member, same⟩
  · exact absurd same plus
  · exact absurd same slash
  · cases same
  · exact ⟨member, (Option.some.inj same).symm⟩

theorem base64url_letter {c : Char} (member : c ∈ base64url) : c ≠ '+' ∧ c ≠ '/' := by
  revert c
  decide

theorem base64Unit_ascii {c : Char} (known : (base64Unit c).isSome = true) : c.val.toNat < 128 ∧ c ≠ '=' := by
  constructor
  · obtain ⟨unit, same⟩ := Option.isSome_iff_exists.mp known
    by_cases plus : c = '+'
    · rw [plus]
      decide
    · by_cases slash : c = '/'
      · rw [slash]
        decide
      · have member := (base64Unit_known same plus slash).1
        have all : ∀ c ∈ base64url, c.val.toNat < 128 := by decide
        exact all c member
  · rintro rfl
    cases known

theorem filterMap_length {chars : List Char} (known : ∀ c ∈ chars, (base64Unit c).isSome = true) :
    (chars.filterMap base64Unit).length = chars.length := by
  induction chars with
  | nil => rfl
  | cons c chars ih =>
    rw [List.forall_mem_cons] at known
    obtain ⟨unit, same⟩ := Option.isSome_iff_exists.mp known.1
    rw [List.filterMap_cons_some same, List.length_cons, List.length_cons, ih known.2]

theorem base64Unit_lt {c : Char} {unit : Nat} (known : base64Unit c = some unit) : unit < 64 := by
  unfold base64Unit at known
  dsimp only at known
  split_ifs at known <;> cases known <;> omega

theorem takeWhile_padded {chars : List Char} (count : Nat) :
    (chars ++ List.replicate count '=').takeWhile (· ≠ '=') = chars.takeWhile (· ≠ '=') := by
  induction chars with
  | nil =>
    cases count with
    | zero => rfl
    | succ count => exact List.takeWhile_cons_of_neg (by decide)
  | cons c chars ih =>
    rw [List.cons_append, List.takeWhile_cons, List.takeWhile_cons, ih]

/-- What the phone decodes: letters of either alphabet, and the padding of that many. -/
theorem base64UrlDecode_some {value : String} {out : Bytes} (read : base64UrlDecode value = some out) :
    ∃ body rest, value.toList = body ++ rest ∧ (∀ c ∈ body, (base64Unit c).isSome = true) ∧ body.length % 4 ≠ 1 ∧
      padded ((4 - body.length % 4) % 4) rest = true ∧
      ∃ acc bits, (body.filterMap base64Unit).foldl (collect 6) (0, 0, []) = (acc, bits, out) ∧
        acc &&& ((1 <<< UInt32.ofNat bits) - 1) = 0 := by
  unfold base64UrlDecode at read
  dsimp only at read
  split at read
  swap
  · cases read
  rename_i shape
  refine ⟨value.toList.takeWhile fun c => (base64Unit c).isSome, value.toList.dropWhile fun c => (base64Unit c).isSome,
    List.takeWhile_append_dropWhile.symm, ?_, shape.1, shape.2.1, _, _, ?_, shape.2.2⟩
  · intro c member
    exact List.mem_takeWhile_imp (p := fun c => (base64Unit c).isSome) member
  · rw [← Option.some.inj read]

theorem padded_one {rest : List Char} (padding : padded 1 rest = true) :
    rest = ['='] ∨ rest = ['%', '3', 'D'] ∨ rest = ['%', '3', 'd'] := by
  unfold padded at padding
  split at padding
  · exact absurd ‹1 = 0› (by decide)
  · rename_i same
    cases same
    exact Or.inl (by simpa [padded] using padding)
  · rename_i same
    cases same
    simp only [padded, Bool.and_eq_true, Bool.or_eq_true, decide_eq_true_eq] at padding
    obtain ⟨rfl | rfl, rfl⟩ := padding
    · exact Or.inr (Or.inl rfl)
    · exact Or.inr (Or.inr rfl)
  · cases padding

/-- What the phone reads as 32 octets: 43 letters of either alphabet, with a sign of padding or without. -/
structure Spells32 (value : String) (bytes : Bytes) : Prop where
  known : ∀ c ∈ payload value, (base64Unit c).isSome = true
  rest : ∀ c ∈ value.toList, c ∈ payload value ∨ c = '='
  collected : ∃ acc bits, ((payload value).filterMap base64Unit).foldl (collect 6) (0, 0, []) = (acc, bits, bytes) ∧
    acc &&& ((1 <<< UInt32.ofNat bits) - 1) = 0

theorem spells32_of_fixedBase64 {value message : String} {bytes : Bytes}
    (run : PairingBootstrap.fixedBase64 value message = .ok bytes) : bytes.length = 32 ∧ Spells32 value bytes := by
  unfold PairingBootstrap.fixedBase64 at run
  simp only [except_bind_eq_ok, except_require_eq_ok, except_pure_eq_ok, okOr_eq_ok, exists_const] at run
  obtain ⟨decoded, read, size, rfl⟩ := run
  obtain ⟨body, rest, spelled, known, filled, padding, acc, bits, collected, blank⟩ := base64UrlDecode_some read
  rw [String.toList_append, String.toList_ofList] at spelled
  have small : ∀ digit ∈ body.filterMap base64Unit, digit < 64 := by
    intro digit member
    obtain ⟨c, _, same⟩ := List.mem_filterMap.mp member
    exact base64Unit_lt same
  obtain ⟨⟨few, -, -⟩, total⟩ := collected_digits 6 (by decide) small
  rw [filterMap_length known, collected] at total
  rw [collected] at few
  dsimp only at total few
  have length : body.length = 43 := by omega
  rw [length] at padding
  have one : rest = ['='] := by
    rcases padded_one padding with one | percent
    · exact one
    · -- an escaped sign makes a length that no padding brings to a multiple of four
      have ascii : ∀ c ∈ value.toList, c.val.toNat < 0x80 := by
        intro c member
        have inside : c ∈ body ++ rest := spelled ▸ List.mem_append_left _ member
        rcases List.mem_append.mp inside with letter | sign
        · exact (base64Unit_ascii (known c letter)).1
        · have plain : ∀ c ∈ ['%', '3', 'D', 'd'], c.val.toNat < 0x80 := by decide
          exact plain c (by rcases percent with same | same <;> rw [same] at sign <;> simp at sign ⊢ <;> tauto)
      have three : rest.length = 3 := by rcases percent with rfl | rfl <;> rfl
      have total := congrArg List.length spelled
      rw [List.length_append, List.length_append, List.length_replicate, ← utf16Len_ascii ascii, length, three] at total
      omega
  have whole : payload value = body := by
    have front := congrArg (List.takeWhile (· ≠ '=')) spelled
    have all : ∀ c ∈ body, decide (c ≠ '=') = true := fun c member => decide_eq_true (base64Unit_ascii (known c member)).2
    rw [takeWhile_padded, one, List.takeWhile_append_of_pos all, List.takeWhile_cons_of_neg (by decide), List.append_nil] at front
    exact front
  refine ⟨size, ⟨whole ▸ known, fun c member => ?_, acc, bits, whole ▸ collected, blank⟩⟩
  have inside : c ∈ body ++ rest := spelled ▸ List.mem_append_left _ member
  rw [one, ← whole] at inside
  exact (List.mem_append.mp inside).imp_right List.mem_singleton.mp

/-- Letters that both alphabets have stand for one number. -/
theorem filterMap_base64url {chars : List Char} (letters : ∀ c ∈ chars, c ∈ base64url)
    (known : ∀ c ∈ chars, (base64Unit c).isSome = true) : chars.filterMap base64Unit = chars.map base64url.idxOf := by
  have each : ∀ c ∈ chars, base64Unit c = some (base64url.idxOf c) := by
    intro c member
    obtain ⟨unit, same⟩ := Option.isSome_iff_exists.mp (known c member)
    obtain ⟨plus, slash⟩ := base64url_letter (letters c member)
    rw [same, (base64Unit_known same plus slash).2]
  rw [List.filterMap_congr each, ← List.filterMap_eq_map]
  rfl

theorem fromBase64url_run {value : String} {out : Bytes} :
    fromBase64url value = .ok out ↔ (∀ c ∈ payload value, c ∈ base64url) ∧
      ∃ acc bits, ((payload value).map base64url.idxOf).foldl (collect 6) (0, 0, []) = (acc, bits, out) ∧
        (bits = 0 ∨ acc &&& ((1 <<< UInt32.ofNat bits) - 1) = 0) := by
  unfold fromBase64url
  rw [← payload]
  simp only [except_bind_eq_ok, except_require_eq_ok, except_pure_eq_ok, exists_const, Prod.exists, readBase64url_run]
  constructor
  · rintro ⟨acc, bits, out, ⟨known, run⟩, blank, rfl⟩
    exact ⟨known, acc, bits, run.symm, blank⟩
  · rintro ⟨known, acc, bits, run, blank⟩
    exact ⟨acc, bits, out, ⟨known, run.symm⟩, blank, rfl⟩

theorem Spells32.plain_iff {value : String} {bytes : Bytes} (spells : Spells32 value bytes) :
    (∀ c ∈ payload value, c ∈ base64url) ↔ '+' ∉ value.toList ∧ '/' ∉ value.toList := by
  have inside (c : Char) (sign : c ≠ '=') : c ∈ value.toList ↔ c ∈ payload value :=
    ⟨fun member => (spells.rest c member).resolve_right sign, fun member => (List.takeWhile_sublist _).subset member⟩
  rw [inside '+' (by decide), inside '/' (by decide)]
  constructor
  · intro letters
    exact ⟨fun member => (base64url_letter (letters _ member)).1 rfl, fun member => (base64url_letter (letters _ member)).2 rfl⟩
  · rintro ⟨plus, slash⟩ c member
    obtain ⟨unit, same⟩ := Option.isSome_iff_exists.mp (spells.known c member)
    exact (base64Unit_known same (fun is => plus (is ▸ member)) fun is => slash (is ▸ member)).1

/-- What the phone reads as 32 octets the desktop reads as the same ones, where it knows the letters. -/
theorem Spells32.fixedB64_eq_ok {value message : String} {bytes : Bytes} (spells : Spells32 value bytes) {block : Block 32} :
    ServerBootstrap.fixedB64 value message = .ok block ↔
      ('+' ∉ value.toList ∧ '/' ∉ value.toList) ∧ block.val = bytes := by
  have read : ServerBootstrap.fixedB64 value message = .ok block ↔ fromBase64url value = .ok block.val := by
    unfold ServerBootstrap.fixedB64
    simp only [except_bind_eq_ok, except_mapError_eq_ok]
    constructor
    · rintro ⟨out, run, checked⟩
      split at checked
      · cases checked
        exact run
      · cases checked
    · intro run
      exact ⟨block.val, run, dif_pos block.property⟩
  rw [read, fromBase64url_run, ← spells.plain_iff]
  refine and_congr_right fun letters => ?_
  obtain ⟨acc, bits, collected, blank⟩ := spells.collected
  rw [filterMap_base64url letters spells.known] at collected
  rw [collected]
  constructor
  · rintro ⟨_, _, same, _⟩
    cases same
    rfl
  · intro same
    exact ⟨acc, bits, by rw [same], Or.inr blank⟩

end Base64

section Purpose

/-- Both know the same purposes by the same numbers. -/
theorem fromWire_eq_ok {index : Int64} {purpose : CredentialPurpose} :
    CredentialPurpose.fromWire index = .ok purpose ↔ 0 ≤ index.toInt ∧ purposes[index.toInt.toNat]? = some purpose := by
  constructor
  · intro known
    unfold CredentialPurpose.fromWire at known
    split_ifs at known <;> subst_vars <;> cases known <;> decide
  · rintro ⟨nonneg, found⟩
    obtain ⟨inside, _⟩ := List.getElem?_eq_some_iff.mp found
    have six : purposes.length = 6 := rfl
    have same : index = Int64.ofInt index.toInt.toNat := by
      rw [Int.toNat_of_nonneg nonneg, Int64.ofInt_toInt]
    rw [same]
    rw [six] at inside
    generalize index.toInt.toNat = number at found inside
    have each : ∀ number : Nat, number < 6 → purposes[number]? = some purpose →
        CredentialPurpose.fromWire (Int64.ofInt number) = .ok purpose := by
      cases purpose <;> decide
    exact each number inside found

theorem readPurpose_eq_ok {value : String} {purpose : CredentialPurpose} :
    PairingBootstrap.readPurpose value = .ok purpose ↔
      ∃ index, tryParse value = some index ∧ CredentialPurpose.fromWire index = .ok purpose := by
  unfold PairingBootstrap.readPurpose
  simp only [except_bind_eq_ok, except_require_eq_ok, okOr_eq_ok, exists_const, fromWire_eq_ok]

theorem desktop_readPurpose_eq_ok {value : String} {purpose : CredentialPurpose} :
    ServerBootstrap.readPurpose value = .ok purpose ↔
      ∃ index, parseI64 value = some index ∧ CredentialPurpose.fromWire index = .ok purpose := by
  unfold ServerBootstrap.readPurpose
  rw [okOr_eq_ok, Option.bind_eq_some_iff]
  refine exists_congr fun index => and_congr_right fun _ => ?_
  rcases CredentialPurpose.fromWire index with _ | known
  · exact iff_of_false nofun nofun
  · exact ⟨fun same => congrArg Except.ok (Option.some.inj same), fun same => congrArg some (Except.ok.inj same)⟩

end Purpose

section Fields
open PairingBootstrap (Fields readValue)

/-- What the desktop has read, as the phone has it. -/
def Fields.ofRead (fields : ServerBootstrap.Fields) : Fields :=
  ⟨fields.verifierId, fields.sessionId, fields.nonce.map Subtype.val, fields.hash.map Subtype.val, fields.endpoint,
    fields.expiresAtMs, fields.purpose⟩

/-- A value that both read alike, if the phone reads it. -/
def Alike (name value : String) : Prop :=
  match name with
  | "n" => '+' ∉ value.toList ∧ '/' ∉ value.toList
  | "k" => '+' ∉ value.toList ∧ '/' ∉ value.toList
  | "exp" => Decimal value
  | "p" => Decimal value
  | _ => True

/-- A value that is short enough in octets. -/
def Sized (name value : String) : Prop :=
  match name with
  | "vid" => (utf8 value).length ≤ 64
  | "sid" => (utf8 value).length ≤ 64
  | "ep" => (utf8 value).length ≤ 128
  | _ => True

/-- A result of the desktop, against one of the phone: it is there where the value is read alike, and then it is the same. -/
def Agrees {ε α β : Type} (result : Except ε α) (view : α → β) (phone : β) (alike : Prop) : Prop :=
  (∀ a, result = .ok a → alike ∧ view a = phone) ∧ (alike → ∃ a, result = .ok a)

theorem Agrees.map {ε α β γ δ : Type} {result : Except ε α} {view : α → β} {phone : β} {alike : Prop}
    (agrees : Agrees result view phone alike) (put : α → γ) {look : γ → δ} {last : δ}
    (same : ∀ a, view a = phone → look (put a) = last) : Agrees (do return put (← result)) look last alike := by
  constructor
  · intro c run
    obtain ⟨a, done, last⟩ := except_bind_eq_ok.mp run
    cases last
    obtain ⟨holds, seen⟩ := agrees.1 a done
    exact ⟨holds, same a seen⟩
  · intro holds
    obtain ⟨a, done⟩ := agrees.2 holds
    exact ⟨put a, except_bind_eq_ok.mpr ⟨a, done, rfl⟩⟩

theorem fixedB64_agrees {value message other : String} {bytes : Bytes}
    (run : PairingBootstrap.fixedBase64 value message = .ok bytes) :
    Agrees (ServerBootstrap.fixedB64 value other) Subtype.val bytes ('+' ∉ value.toList ∧ '/' ∉ value.toList) := by
  obtain ⟨size, spells⟩ := spells32_of_fixedBase64 run
  exact ⟨fun _ => spells.fixedB64_eq_ok.mp, fun plain => ⟨⟨bytes, size⟩, spells.fixedB64_eq_ok.mpr ⟨plain, rfl⟩⟩⟩

theorem parseI64_agrees {value : String} {ms : Int64} {e : SessionError} (phone : tryParse value = some ms) :
    Agrees (okOr e (parseI64 value)) id ms (Decimal value) := by
  constructor
  · intro read run
    have desktop := okOr_eq_ok.mp run
    exact ⟨decimal_of_parseI64 desktop, Option.some.inj ((tryParse_of_parseI64 desktop).symm.trans phone)⟩
  · intro decimal
    exact ⟨ms, okOr_eq_ok.mpr ((parseI64_iff phone).mpr decimal)⟩

theorem readPurpose_agrees {value : String} {purpose : CredentialPurpose}
    (phone : PairingBootstrap.readPurpose value = .ok purpose) :
    Agrees (ServerBootstrap.readPurpose value) id purpose (Decimal value) := by
  obtain ⟨index, read, known⟩ := readPurpose_eq_ok.mp phone
  constructor
  · intro other run
    obtain ⟨number, desktop, same⟩ := desktop_readPurpose_eq_ok.mp run
    obtain rfl := Option.some.inj ((tryParse_of_parseI64 desktop).symm.trans read)
    exact ⟨decimal_of_parseI64 desktop, Except.ok.inj (same.symm.trans known)⟩
  · intro decimal
    exact ⟨purpose, desktop_readPurpose_eq_ok.mpr ⟨index, (parseI64_iff read).mpr decimal, known⟩⟩

theorem readValue_agrees {fields : ServerBootstrap.Fields} {name value : String} {next : Fields}
    (run : readValue (Fields.ofRead fields) name value = .ok next) :
    Agrees (ServerBootstrap.readValue fields name value) Fields.ofRead next (Alike name value) := by
  unfold readValue at run
  split at run
  · cases run
    exact ⟨fun _ same => by cases same; exact ⟨trivial, rfl⟩, fun _ => ⟨_, rfl⟩⟩
  · cases run
    exact ⟨fun _ same => by cases same; exact ⟨trivial, rfl⟩, fun _ => ⟨_, rfl⟩⟩
  · obtain ⟨bytes, read, last⟩ := except_bind_eq_ok.mp run
    cases last
    refine (fixedB64_agrees read).map (fun block => { fields with nonce := some block }) ?_
    rintro _ rfl
    rfl
  · obtain ⟨bytes, read, last⟩ := except_bind_eq_ok.mp run
    cases last
    refine (fixedB64_agrees read).map (fun block => { fields with hash := some block }) ?_
    rintro _ rfl
    rfl
  · obtain ⟨routed, read, last⟩ := except_bind_eq_ok.mp run
    cases last
    rw [PairingBootstrap.routableEndpoint_eq read]
    exact ⟨fun _ same => by cases same; exact ⟨trivial, rfl⟩, fun _ => ⟨_, rfl⟩⟩
  · obtain ⟨ms, read, last⟩ := except_bind_eq_ok.mp run
    cases last
    refine (parseI64_agrees (okOr_eq_ok.mp read)).map (fun ms => { fields with expiresAtMs := some ms }) ?_
    rintro _ rfl
    rfl
  · obtain ⟨purpose, read, last⟩ := except_bind_eq_ok.mp run
    cases last
    refine (readPurpose_agrees read).map (fun purpose => { fields with purpose }) ?_
    rintro _ rfl
    rfl
  · cases run

/-- Step by step both have read the same. -/
theorem readFields_agrees {entries : List (String × String)} {fields : ServerBootstrap.Fields} {last : Fields}
    (run : entries.foldlM (fun fields pair => readValue fields pair.1 pair.2) (Fields.ofRead fields) = .ok last) :
    Agrees (entries.foldlM (fun fields pair => ServerBootstrap.readValue fields pair.1 pair.2) fields) Fields.ofRead last
      (∀ pair ∈ entries, Alike pair.1 pair.2) := by
  induction entries generalizing fields with
  | nil =>
    cases run
    exact ⟨fun _ same => by cases same; exact ⟨nofun, rfl⟩, fun _ => ⟨_, rfl⟩⟩
  | cons pair entries ih =>
    rw [List.foldlM_cons] at run ⊢
    obtain ⟨next, first, rest⟩ := except_bind_eq_ok.mp run
    have agrees := readValue_agrees first
    rw [List.forall_mem_cons]
    constructor
    · intro done both
      obtain ⟨mid, read, later⟩ := except_bind_eq_ok.mp both
      obtain ⟨alike, rfl⟩ := agrees.1 mid read
      obtain ⟨others, same⟩ := (ih rest).1 done later
      exact ⟨⟨alike, others⟩, same⟩
    · rintro ⟨alike, others⟩
      obtain ⟨mid, read⟩ := agrees.2 alike
      obtain ⟨-, rfl⟩ := agrees.1 mid read
      obtain ⟨done, later⟩ := (ih rest).2 others
      exact ⟨done, except_bind_eq_ok.mpr ⟨mid, read, later⟩⟩

/-- The bounds that the desktop counts in octets. -/
structure Small (read : PairingBootstrap) : Prop where
  sessionId : (utf8 read.sessionId).length ≤ 64
  verifierId : (utf8 read.verifierId).length ≤ 64
  endpoint : (utf8 read.endpoint).length ≤ 128

theorem finish_agrees {fields : ServerBootstrap.Fields} {read : PairingBootstrap}
    (run : (Fields.ofRead fields).finish = .ok read) :
    Agrees fields.finish PairingBootstrap.ofDesktop read (Small read) := by
  obtain ⟨verifierId, sessionId, nonce, hash, endpoint, expiresAtMs, purpose⟩ := fields
  unfold Fields.finish Fields.ofRead at run
  rcases verifierId with _ | verifierId
  · cases run
  rcases sessionId with _ | sessionId
  · cases run
  rcases nonce with _ | nonce
  · cases run
  rcases hash with _ | hash
  · cases run
  rcases endpoint with _ | endpoint
  · cases run
  rcases expiresAtMs with _ | expiresAtMs
  · cases run
  simp only [Option.map_some, PairingBootstrap.validate, except_bind_eq_ok, except_require_eq_ok, except_pure_eq_ok,
    exists_const] at run
  obtain ⟨⟨⟨session, -⟩, ⟨verifier, -⟩, -, -, separators⟩, rfl⟩ := run
  unfold ServerBootstrap.Fields.finish
  simp only [Agrees, ServerBootstrap.validate, except_bind_eq_ok, except_require_eq_ok, except_pure_eq_ok, exists_const]
  constructor
  · rintro _ ⟨⟨⟨_, one⟩, ⟨_, two⟩, three, _⟩, rfl⟩
    exact ⟨⟨one, two, three⟩, rfl⟩
  · rintro ⟨one, two, three⟩
    exact ⟨_, ⟨⟨session, one⟩, ⟨verifier, two⟩, three, separators⟩, rfl⟩

theorem finish_fields {fields : Fields} {read : PairingBootstrap} (run : fields.finish = .ok read) :
    fields.verifierId = some read.verifierId ∧ fields.sessionId = some read.sessionId ∧ fields.endpoint = some read.endpoint := by
  unfold Fields.finish at run
  split at run
  · rename_i verifier session _ _ endpoint _
    obtain ⟨_, _, last⟩ := except_bind_eq_ok.mp run
    cases last
    exact ⟨verifier, session, endpoint⟩
  · cases run

theorem readValue_writes {fields next : Fields} {name value : String} (run : readValue fields name value = .ok next) :
    next.verifierId = (if name = "vid" then some value else fields.verifierId) ∧
    next.sessionId = (if name = "sid" then some value else fields.sessionId) ∧
    next.endpoint = if name = "ep" then some value else fields.endpoint := by
  unfold readValue at run
  split at run
  · cases run
    exact ⟨rfl, rfl, rfl⟩
  · cases run
    exact ⟨rfl, rfl, rfl⟩
  · obtain ⟨_, _, last⟩ := except_bind_eq_ok.mp run
    cases last
    exact ⟨rfl, rfl, rfl⟩
  · obtain ⟨_, _, last⟩ := except_bind_eq_ok.mp run
    cases last
    exact ⟨rfl, rfl, rfl⟩
  · obtain ⟨routed, read, last⟩ := except_bind_eq_ok.mp run
    cases last
    rw [PairingBootstrap.routableEndpoint_eq read]
    exact ⟨rfl, rfl, rfl⟩
  · obtain ⟨_, _, last⟩ := except_bind_eq_ok.mp run
    cases last
    exact ⟨rfl, rfl, rfl⟩
  · obtain ⟨_, _, last⟩ := except_bind_eq_ok.mp run
    cases last
    exact ⟨rfl, rfl, rfl⟩
  · cases run

end Fields

section Codes
open PairingBootstrap (Fields readValue parse ofDesktop routableEndpoint)

/-- The pairs of a code. -/
def pairsOf (uri : String) : List (String × String) := Query.pairs (uri.toList.drop bootstrapPrefix.toList.length)

/-- A code that names nothing twice, with values that the desktop reads as the phone does and does not find too long. -/
structure Portable (uri : String) : Prop where
  apart : ((pairsOf uri).map Prod.fst).Nodup
  alike : ∀ pair ∈ pairsOf uri, Alike pair.1 pair.2
  sized : ∀ pair ∈ pairsOf uri, Sized pair.1 pair.2

theorem parse_eq_ok {uri : String} {read : PairingBootstrap} :
    parse uri = .ok read ↔ bootstrapPrefix.toList <+: uri.toList ∧
      (∀ piece ∈ (uri.toList.drop bootstrapPrefix.toList.length).splitOn '&', '=' ∈ piece) ∧
      ∃ fields, (pairsOf uri).foldlM (fun fields pair => readValue fields pair.1 pair.2) Fields.none = .ok fields ∧
        fields.finish = .ok read := by
  have field : PairingBootstrap.readField = Query.readField ⟨"malformed bootstrap field"⟩ readValue := rfl
  unfold parse
  simp only [except_bind_eq_ok, except_require_eq_ok, exists_const, field, Query.foldlM_readField]
  constructor
  · rintro ⟨front, fields, ⟨signs, run⟩, last⟩
    exact ⟨front, signs, fields, run, last⟩
  · rintro ⟨front, signs, fields, run, last⟩
    exact ⟨front, fields, ⟨signs, run⟩, last⟩

theorem fromUri_eq_ok {uri : String} {bootstrap : ServerBootstrap} :
    ServerBootstrap.fromUri uri = .ok bootstrap ↔ bootstrapPrefix.toList <+: uri.toList ∧
      (∀ piece ∈ (uri.toList.drop bootstrapPrefix.toList.length).splitOn '&', '=' ∈ piece) ∧
      ∃ fields, (pairsOf uri).foldlM (fun fields pair => ServerBootstrap.readValue fields pair.1 pair.2)
          ServerBootstrap.Fields.none = .ok fields ∧ fields.finish = .ok bootstrap := by
  unfold ServerBootstrap.fromUri
  simp only [except_bind_eq_ok, except_require_eq_ok, exists_const, Query.foldlM_readField]
  constructor
  · rintro ⟨front, fields, ⟨signs, run⟩, last⟩
    exact ⟨front, signs, fields, run, last⟩
  · rintro ⟨front, signs, fields, run, last⟩
    exact ⟨front, fields, ⟨signs, run⟩, last⟩

/-- What is short enough in the end was short enough where it was named, when each name is there once. -/
theorem small_iff {entries : List (String × String)} {fields : Fields} {read : PairingBootstrap}
    (run : entries.foldlM (fun fields pair => readValue fields pair.1 pair.2) Fields.none = .ok fields)
    (finished : fields.finish = .ok read) (apart : (entries.map Prod.fst).Nodup) :
    Small read ↔ ∀ pair ∈ entries, Sized pair.1 pair.2 := by
  obtain ⟨verifier, session, endpoint⟩ := finish_fields finished
  have vid : Query.Writes readValue "vid" Fields.verifierId := fun step => (readValue_writes step).1
  have sid : Query.Writes readValue "sid" Fields.sessionId := fun step => (readValue_writes step).2.1
  have ep : Query.Writes readValue "ep" Fields.endpoint := fun step => (readValue_writes step).2.2
  constructor
  · rintro ⟨one, two, three⟩ ⟨name, value⟩ member
    unfold Sized
    dsimp only
    split
    · obtain rfl := Option.some.inj ((vid.found apart run member).symm.trans verifier)
      exact two
    · obtain rfl := Option.some.inj ((sid.found apart run member).symm.trans session)
      exact one
    · obtain rfl := Option.some.inj ((ep.found apart run member).symm.trans endpoint)
      exact three
    · trivial
  · intro sized
    exact ⟨sized _ (sid.origin run rfl session), sized _ (vid.origin run rfl verifier), sized _ (ep.origin run rfl endpoint)⟩

/-- A code that the phone reads the desktop reads as the same just when it is portable. -/
theorem portable_iff {uri : String} {read : PairingBootstrap} (run : parse uri = .ok read) :
    (∃ bootstrap, ServerBootstrap.fromUri uri = .ok bootstrap ∧ ofDesktop bootstrap = read) ∧
      ((pairsOf uri).map Prod.fst).Nodup ↔ Portable uri := by
  obtain ⟨front, signs, fields, folded, finished⟩ := parse_eq_ok.mp run
  have start : Fields.ofRead ServerBootstrap.Fields.none = Fields.none := rfl
  rw [← start] at folded
  have agrees := readFields_agrees folded
  constructor
  · rintro ⟨⟨bootstrap, desktop, same⟩, apart⟩
    obtain ⟨-, -, theirs, later, ended⟩ := fromUri_eq_ok.mp desktop
    obtain ⟨alike, view⟩ := agrees.1 theirs later
    rw [← view] at finished
    obtain ⟨small, -⟩ := (finish_agrees finished).1 bootstrap ended
    rw [view] at finished
    exact ⟨apart, alike, (small_iff folded finished apart).mp small⟩
  · rintro ⟨apart, alike, sized⟩
    obtain ⟨theirs, later⟩ := agrees.2 alike
    obtain ⟨-, view⟩ := agrees.1 theirs later
    have small := (small_iff folded finished apart).mpr sized
    rw [← view] at finished
    obtain ⟨bootstrap, ended⟩ := (finish_agrees finished).2 small
    obtain ⟨-, same⟩ := (finish_agrees finished).1 bootstrap ended
    exact ⟨⟨bootstrap, fromUri_eq_ok.mpr ⟨front, signs, theirs, later, ended⟩, same⟩, apart⟩

theorem pairsOf_toUri {bootstrap : ServerBootstrap} (valid : bootstrap.validate = .ok ()) :
    pairsOf bootstrap.toUri = bootstrap.fields := by
  have plain : ∀ pair ∈ bootstrap.fields, '=' ∉ pair.1.toList ∧ '&' ∉ Query.spell pair := fun pair member =>
    ⟨(ServerBootstrap.fields_plain member).1,
      PairingBootstrap.spellField_plain valid _ (List.mem_map_of_mem (f := ServerBootstrap.spellField) member)⟩
  have some : bootstrap.fields ≠ [] := nofun
  rw [pairsOf, bootstrap.toUri_toList, List.drop_left]
  exact Query.pairs_spelled some plain

theorem parseI64_toString (value : Int64) : parseI64 (toString value.toInt) = some value :=
  (parseI64_iff (tryParse_toString value)).mpr (decimal_toString value)

theorem fixedB64_toBase64url (block : Block 32) (message : String) :
    ServerBootstrap.fixedB64 (Protocol.toBase64url block.val) message = .ok block := by
  unfold ServerBootstrap.fixedB64
  rw [Protocol.fromBase64url_toBase64url]
  exact dif_pos block.property

/-- What the desktop has read of a code of its own. -/
def readBack (bootstrap : ServerBootstrap) : ServerBootstrap.Fields :=
  ⟨bootstrap.verifierId, bootstrap.sessionId, bootstrap.nonce, bootstrap.verifierIdentityHash, bootstrap.endpoint,
    bootstrap.expiresAtMs, bootstrap.purpose⟩

theorem foldlM_fields (bootstrap : ServerBootstrap) :
    bootstrap.fields.foldlM (fun fields pair => ServerBootstrap.readValue fields pair.1 pair.2) ServerBootstrap.Fields.none =
      .ok (readBack bootstrap) := by
  have nonce (fields : ServerBootstrap.Fields) :
      ServerBootstrap.readValue fields "n" (Protocol.toBase64url bootstrap.nonce.val) =
        .ok { fields with nonce := some bootstrap.nonce } := by
    rw [ServerBootstrap.readValue, fixedB64_toBase64url]
    rfl
  have hash (fields : ServerBootstrap.Fields) :
      ServerBootstrap.readValue fields "k" (Protocol.toBase64url bootstrap.verifierIdentityHash.val) =
        .ok { fields with hash := some bootstrap.verifierIdentityHash } := by
    rw [ServerBootstrap.readValue, fixedB64_toBase64url]
    rfl
  have expiry (fields : ServerBootstrap.Fields) :
      ServerBootstrap.readValue fields "exp" (toString bootstrap.expiresAtMs.toInt) =
        .ok { fields with expiresAtMs := some bootstrap.expiresAtMs } := by
    rw [ServerBootstrap.readValue, parseI64_toString]
    rfl
  have purpose (fields : ServerBootstrap.Fields) :
      ServerBootstrap.readValue fields "p" (toString bootstrap.purpose.wire.toInt) =
        .ok { fields with purpose := bootstrap.purpose } := by
    have known : ServerBootstrap.readPurpose (toString bootstrap.purpose.wire.toInt) = .ok bootstrap.purpose := by
      refine desktop_readPurpose_eq_ok.mpr ⟨_, parseI64_toString _, ?_⟩
      cases bootstrap.purpose <;> rfl
    rw [ServerBootstrap.readValue, known]
    rfl
  unfold ServerBootstrap.fields
  rw [List.foldlM_append]
  refine except_bind_eq_ok.mpr ⟨{ readBack bootstrap with purpose := .authorization }, ?_, ?_⟩
  · simp only [List.foldlM_cons, List.foldlM_nil, except_bind_eq_ok, except_pure_eq_ok]
    exact ⟨_, rfl, _, rfl, _, nonce _, _, hash _, _, rfl, _, expiry _, rfl⟩
  · have last : [("p", toString bootstrap.purpose.wire.toInt)].foldlM
        (fun fields pair => ServerBootstrap.readValue fields pair.1 pair.2)
        { readBack bootstrap with purpose := .authorization } = .ok (readBack bootstrap) := by
      simp only [List.foldlM_cons, List.foldlM_nil, except_bind_eq_ok, except_pure_eq_ok]
      exact ⟨_, purpose _, rfl⟩
    rcases use : bootstrap.purpose
    case authorization =>
      rw [readBack, use]
      rfl
    all_goals
      rw [use] at last
      exact last

/-- The desktop reads its own codes, whatever the address in them is. -/
theorem fromUri_toUri {bootstrap : ServerBootstrap} (valid : bootstrap.validate = .ok ()) :
    ServerBootstrap.fromUri bootstrap.toUri = .ok bootstrap := by
  have some : bootstrap.fields.map ServerBootstrap.spellField ≠ [] := nofun
  refine fromUri_eq_ok.mpr ⟨?_, ?_, readBack bootstrap, ?_, except_bind_eq_ok.mpr ⟨(), valid, rfl⟩⟩
  · rw [bootstrap.toUri_toList]
    exact List.prefix_append _ _
  · rw [bootstrap.toUri_toList, List.drop_left,
      List.splitOn_intercalate '&' (PairingBootstrap.spellField_plain valid) some]
    intro piece member
    obtain ⟨pair, _, rfl⟩ := List.mem_map.mp member
    exact List.mem_append_right _ List.mem_cons_self
  · rw [pairsOf_toUri valid]
    exact foldlM_fields bootstrap

/-- One picture means one pairing as far as codes are portable. -/
theorem pairing_codes_agree_iff (bootstrap : ServerBootstrap) :
    (bootstrap.validate = .ok () → ServerBootstrap.fromUri bootstrap.toUri = .ok bootstrap) ∧
    (bootstrap.validate = .ok () → routableEndpoint bootstrap.endpoint = .ok bootstrap.endpoint →
      parse bootstrap.toUri = .ok (ofDesktop bootstrap)) ∧
    ∀ uri read, parse uri = .ok read →
      ((∃ bootstrap, ServerBootstrap.fromUri uri = .ok bootstrap ∧ ofDesktop bootstrap = read) ∧
        ((pairsOf uri).map Prod.fst).Nodup ↔ Portable uri) :=
  ⟨fromUri_toUri, PairingBootstrap.parse_toUri, fun _ _ => portable_iff⟩

/-- A code for a desk on a network. -/
def deskBootstrap : ServerBootstrap where
  sessionId := "s-1"
  nonce := Block.replicate 32 251
  verifierId := "desk"
  verifierIdentityHash := Block.replicate 32 7
  endpoint := "192.168.1.10:8765"
  expiresAtMs := 1700000000000
  purpose := .ssh

theorem deskBootstrap_valid : deskBootstrap.validate = .ok () := by decide +kernel

theorem deskBootstrap_routable : routableEndpoint deskBootstrap.endpoint = .ok deskBootstrap.endpoint := by decide +kernel

theorem pairing_codes_agree_iff_desk :
    ServerBootstrap.fromUri deskBootstrap.toUri = .ok deskBootstrap ∧
    parse deskBootstrap.toUri = .ok (ofDesktop deskBootstrap) ∧
    ((∃ bootstrap, ServerBootstrap.fromUri deskBootstrap.toUri = .ok bootstrap ∧
        ofDesktop bootstrap = ofDesktop deskBootstrap) ∧
      ((pairsOf deskBootstrap.toUri).map Prod.fst).Nodup ↔ Portable deskBootstrap.toUri) :=
  ⟨(pairing_codes_agree_iff deskBootstrap).1 deskBootstrap_valid,
    (pairing_codes_agree_iff deskBootstrap).2.1 deskBootstrap_valid deskBootstrap_routable,
    (pairing_codes_agree_iff deskBootstrap).2.2 _ _ (PairingBootstrap.parse_toUri deskBootstrap_valid deskBootstrap_routable)⟩

/-- A code of that desk without an address, and with more behind it. -/
def deskCode (expiry : String) : String :=
  bootstrapPrefix ++ "vid=desk&sid=s-1&n=" ++ String.ofList (List.replicate 42 'A') ++ "A&k=" ++
    String.ofList (List.replicate 42 '-') ++ "8&ep=&exp=" ++ expiry

theorem deskCode_toList (expiry : String) :
    (deskCode expiry).toList = bootstrapPrefix.toList ++ ("vid=desk&sid=s-1&n=".toList ++ List.replicate 42 'A' ++
      "A&k=".toList ++ List.replicate 42 '-' ++ "8&ep=&exp=".toList ++ expiry.toList) := by
  simp only [deskCode, String.toList_append, String.toList_ofList, List.append_assoc]

/-- The phone reads numbers of other spellings and takes a name that is there twice. -/
theorem pairing_codes_disagree :
    ((parse (deskCode "0x10")).toOption.isSome = true ∧ (ServerBootstrap.fromUri (deskCode "0x10")).toOption = none) ∧
    ((parse (deskCode " 16")).toOption.isSome = true ∧ (ServerBootstrap.fromUri (deskCode " 16")).toOption = none) ∧
    (parse (deskCode "16&exp=17")).toOption.isSome = true ∧
      ¬((pairsOf (deskCode "16&exp=17")).map Prod.fst).Nodup := by
  simp only [parse, ServerBootstrap.fromUri, pairsOf, deskCode_toList]
  decide +kernel

end Codes

end BioAuth.Mobile
