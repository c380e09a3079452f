import BioAuth.Lib.Text
import Mathlib.Tactic.IntervalCases

namespace BioAuth.FlatJson

/-- Where a scan of a JSON text is. A depth of zero is inside one bracket. -/
inductive Place
  | before
  | within (depth : Nat)
  | quoted (depth : Nat)
  | escaped (depth : Nat)
  | closed
  deriving DecidableEq

def blank (b : UInt8) : Bool := b = 0x20 || b = 0x09 || b = 0x0a || b = 0x0d

def opens (b : UInt8) : Bool := b = 0x7b || b = 0x5b

def closes (b : UInt8) : Bool := b = 0x7d || b = 0x5d

/-- What else may stand outside strings: blanks, colons and commas, and what numbers and literals are made of. -/
def loose (b : UInt8) : Bool :=
  blank b || (0x30 ≤ b && b ≤ 0x39) ||
    [0x3a, 0x2c, 0x2b, 0x2d, 0x2e, 0x45, 0x61, 0x65, 0x66, 0x6c, 0x6e, 0x72, 0x73, 0x74, 0x75].contains b

/-- Where the last of so many brackets and one more leaves a scan. -/
def Place.leave : Nat → Place
  | 0 => closed
  | outer + 1 => within outer

def Place.step : Place → UInt8 → Option Place
  | before, b => if opens b then some (within 0) else if blank b then some before else none
  | within depth, b =>
    if b = 0x22 then some (quoted depth)
    else if opens b then some (within (depth + 1))
    else if closes b then some (leave depth)
    else if loose b then some (within depth)
    else none
  | quoted depth, b => some (if b = 0x22 then within depth else if b = 0x5c then escaped depth else quoted depth)
  | escaped depth, _ => some (quoted depth)
  | closed, b => if blank b then some closed else none

def scan (place : Place) (text : Bytes) : Option Place := text.foldlM Place.step place

/-- What holds of every text that is one JSON object or array: its brackets match, nothing follows the last one, and what
stands outside its strings is there for a reason. -/
def Document (text : Bytes) : Prop := scan .before text = some .closed

section Scan
variable {place after : Place} {text front back : Bytes} {depth : Nat}

theorem scan_append : scan place (front ++ back) = scan place front >>= fun after => scan after back :=
  List.foldlM_append

theorem scan_cons {b : UInt8} : scan place (b :: text) = place.step b >>= fun after => scan after text :=
  List.foldlM_cons

/-- The place of a scan that began inside a bracket. -/
def Place.under (depth : Nat) : Place → Place
  | before => within depth
  | within inner => within (inner + depth + 1)
  | quoted inner => quoted (inner + depth + 1)
  | escaped inner => escaped (inner + depth + 1)
  | closed => within depth

theorem step_blank {b : UInt8} (passed : blank b = true) : Place.step (.within depth) b = some (.within depth) := by
  have quote : b ≠ 0x22 := by
    rintro rfl
    exact absurd passed (by decide)
  have bracket : opens b = false ∧ closes b = false := by
    simp only [blank, Bool.or_eq_true, decide_eq_true_eq] at passed
    rcases passed with ((rfl | rfl) | rfl) | rfl <;> decide
  simp [Place.step, quote, bracket, loose, passed]

theorem step_opens {b : UInt8} (bracket : opens b = true) :
    Place.step (.within depth) b = some (.within (depth + 1)) := by
  have quote : b ≠ 0x22 := by
    rintro rfl
    exact absurd bracket (by decide)
  simp [Place.step, quote, bracket]

theorem step_under {b : UInt8} (taken : place.step b = some after) :
    (place.under depth).step b = some (after.under depth) := by
  cases place with
  | before =>
    rw [Place.step] at taken
    split at taken
    · rename_i bracket
      cases taken
      rw [Place.under, Place.under, step_opens bracket, Nat.zero_add]
    · split at taken
      · rename_i passed
        cases taken
        exact step_blank passed
      · cases taken
  | within inner =>
    rw [Place.step] at taken
    rw [Place.under, Place.step]
    by_cases quote : b = 0x22
    · rw [if_pos quote] at taken ⊢
      cases taken
      rfl
    rw [if_neg quote] at taken ⊢
    by_cases inwards : opens b = true
    · rw [if_pos inwards] at taken ⊢
      cases taken
      rw [Place.under, Nat.add_right_comm inner 1 depth]
    rw [if_neg inwards] at taken ⊢
    by_cases outwards : closes b = true
    · rw [if_pos outwards] at taken ⊢
      cases taken
      cases inner with
      | zero => rw [Nat.zero_add, Place.leave, Place.leave, Place.under]
      | succ inner => rw [Nat.add_right_comm inner 1 depth, Place.leave, Place.leave, Place.under]
    rw [if_neg outwards] at taken ⊢
    by_cases passed : loose b = true
    · rw [if_pos passed] at taken ⊢
      cases taken
      rfl
    · rw [if_neg passed] at taken
      cases taken
  | quoted inner =>
    cases taken
    rw [Place.under, Place.step]
    split
    · rfl
    · split <;> rfl
  | escaped inner =>
    cases taken
    rfl
  | closed =>
    rw [Place.step] at taken
    split at taken
    · rename_i passed
      cases taken
      exact step_blank passed
    · cases taken

/-- A scan goes on inside a bracket as it would on its own. -/
theorem scan_under (run : scan place text = some after) : scan (place.under depth) text = some (after.under depth) := by
  induction text generalizing place with
  | nil =>
    cases run
    rfl
  | cons b text ih =>
    rw [scan_cons] at run ⊢
    obtain ⟨next, taken, rest⟩ := Option.bind_eq_some_iff.mp run
    rw [step_under taken]
    exact ih rest

theorem step_ne_before {b : UInt8} (off : place ≠ .before) (taken : place.step b = some after) : after ≠ .before := by
  rintro rfl
  cases place with
  | before => exact off rfl
  | within depth =>
    rw [Place.step] at taken
    split at taken
    · cases taken
    split at taken
    · cases taken
    split at taken
    · cases depth <;> cases taken
    split at taken <;> cases taken
  | quoted depth =>
    rw [Place.step, Option.some.injEq] at taken
    split at taken
    · cases taken
    · split at taken <;> cases taken
  | escaped depth => cases taken
  | closed =>
    rw [Place.step] at taken
    split at taken <;> cases taken

theorem scan_ne_before (off : place ≠ .before) (run : scan place text = some after) : after ≠ .before := by
  induction text generalizing place with
  | nil =>
    cases run
    exact off
  | cons b text ih =>
    rw [scan_cons] at run
    obtain ⟨next, taken, rest⟩ := Option.bind_eq_some_iff.mp run
    exact ih (step_ne_before off taken) rest

/-- No string can hold an object whose first name is not made of what may stand outside strings. -/
def Foreign (object : Bytes) : Prop :=
  ∃ rest, object = 0x7b :: 0x22 :: rest ∧ ∀ depth, scan (.within depth) rest = none

/-- An object behind a part of another one makes no document with it. -/
theorem not_document_append {line torn object : Bytes} (opened : ∃ rest, line = 0x7b :: rest) (whole : Document line)
    (part : torn <+: line) (some' : torn ≠ []) (complete : Document object) (foreign : Foreign object) :
    ¬Document (torn ++ object) := by
  obtain ⟨missing, rfl⟩ := part
  rw [Document, scan_append] at whole
  obtain ⟨place, run, _⟩ := Option.bind_eq_some_iff.mp whole
  have begun : place ≠ .before := by
    obtain ⟨rest, first⟩ := opened
    cases torn with
    | nil => exact absurd rfl some'
    | cons b torn =>
      rw [List.cons_append, List.cons_eq_cons] at first
      obtain ⟨rfl, _⟩ := first
      have inside : scan (.within 0) torn = some place := run
      exact scan_ne_before (by decide : Place.within 0 ≠ .before) inside
  intro document
  rw [Document, scan_append, run] at document
  change scan place object = some .closed at document
  cases place with
  | before => exact begun rfl
  | within depth =>
    rw [show scan (.within depth) object = some (.within depth) from scan_under complete] at document
    cases document
  | quoted depth =>
    obtain ⟨rest, rfl, none⟩ := foreign
    change scan (.within depth) rest = _ at document
    rw [none] at document
    cases document
  | escaped depth =>
    obtain ⟨rest, rfl, none⟩ := foreign
    change scan (.within depth) rest = _ at document
    rw [none] at document
    cases document
  | closed =>
    obtain ⟨rest, rfl, _⟩ := foreign
    cases document

end Scan

/-- What a field of a record may hold. -/
inductive Value
  | text (value : String)
  | integer (value : Int)
  | flag (value : Bool)

def hexDigit (n : Nat) : Char := if n < 10 then Char.ofNat (0x30 + n) else Char.ofNat (0x57 + n)

/-- The characters with an escape of their own, and its letter. -/
def escapes : List (Char × Char) :=
  [('"', '"'), ('\\', '\\'), ('\x08', 'b'), ('\x0c', 'f'), ('\n', 'n'), ('\r', 'r'), ('\t', 't')]

/-- A character between quotes. -/
def escapeChar (c : Char) : List Char :=
  match escapes.find? fun escape => escape.1 = c with
  | some (_, letter) => ['\\', letter]
  | none =>
    if c.val.toNat < 0x20 then ['\\', 'u', '0', '0', hexDigit (c.val.toNat / 16), hexDigit (c.val.toNat % 16)]
    else [c]

def quote (value : String) : List Char := '"' :: (value.toList.flatMap escapeChar ++ ['"'])

def decimal : Int → List Char
  | .ofNat n => Nat.toDigits 10 n
  | .negSucc n => '-' :: Nat.toDigits 10 (n + 1)

def Value.spell : Value → List Char
  | text value => quote value
  | integer value => decimal value
  | flag true => ['t', 'r', 'u', 'e']
  | flag false => ['f', 'a', 'l', 's', 'e']

def member (field : String × Value) : List Char := quote field.1 ++ ':' :: field.2.spell

def members : List (String × Value) → List Char
  | [] => []
  | [field] => member field
  | field :: fields => member field ++ ',' :: members fields

/-- A record on one line, without blanks. -/
def object (fields : List (String × Value)) : List Char := '\x7b' :: (members fields ++ ['\x7d'])

def toVec (fields : List (String × Value)) : Bytes := utf8 (String.ofList (object fields))

section Bytes

/-- The octets of so many characters. -/
def octets (text : List Char) : Bytes := text.flatMap String.utf8EncodeChar

theorem utf8_ofList (text : List Char) : utf8 (String.ofList text) = octets text := by
  rw [utf8_eq_flatMap, String.toList_ofList, octets]

theorem octets_append (front back : List Char) : octets (front ++ back) = octets front ++ octets back :=
  List.flatMap_append

theorem octets_cons (c : Char) (text : List Char) : octets (c :: text) = String.utf8EncodeChar c ++ octets text :=
  List.flatMap_cons

/-- An octet below 0x80 is a character of its own. -/
theorem eq_of_mem_utf8EncodeChar {c : Char} {b : UInt8} (member : b ∈ String.utf8EncodeChar c) (low : b.toNat < 0x80) :
    c.val.toNat = b.toNat := by
  unfold String.utf8EncodeChar at member
  dsimp only at member
  have value (n : Nat) : (UInt8.ofNat n).toNat = n % 256 := UInt8.toNat_ofNat'
  split at member
  · rename_i small
    rw [List.mem_singleton.mp member, value]
    omega
  · exfalso
    split at member
    · simp only [List.mem_cons, List.not_mem_nil, or_false] at member
      rcases member with rfl | rfl <;> rw [value] at low <;> omega
    · split at member
      · simp only [List.mem_cons, List.not_mem_nil, or_false] at member
        rcases member with rfl | rfl | rfl <;> rw [value] at low <;> omega
      · simp only [List.mem_cons, List.not_mem_nil, or_false] at member
        rcases member with rfl | rfl | rfl | rfl <;> rw [value] at low <;> omega

theorem mem_of_mem_octets {c : Char} {text : List Char} (ascii : c.val.toNat < 0x80)
    (member : UInt8.ofNat c.val.toNat ∈ octets text) : c ∈ text := by
  obtain ⟨d, present, inside⟩ := List.mem_flatMap.mp member
  have code : (UInt8.ofNat c.val.toNat).toNat = c.val.toNat := by
    rw [UInt8.toNat_ofNat']
    omega
  have same : d.val.toNat = c.val.toNat := by
    rw [eq_of_mem_utf8EncodeChar inside (by omega), code]
  rwa [← Char.ext (UInt32.toNat_inj.mp same)]

end Bytes

section Write

/-- A text that leaves a scan inside the bracket it began in. -/
def Steady (text : List Char) : Prop := ∀ depth, scan (.within depth) (octets text) = some (.within depth)

theorem Steady.append {front back : List Char} (first : Steady front) (second : Steady back) : Steady (front ++ back) := by
  intro depth
  rw [octets_append, scan_append, first]
  exact second depth

/-- A character that is neither a quote nor a backslash stays between the quotes. -/
theorem scan_quoted_char {c : Char} (quote : c ≠ '"') (slash : c ≠ '\\') (depth : Nat) :
    scan (.quoted depth) (String.utf8EncodeChar c) = some (.quoted depth) := by
  have other {b : UInt8} (member : b ∈ String.utf8EncodeChar c) : b ≠ 0x22 ∧ b ≠ 0x5c := by
    refine ⟨?_, ?_⟩
    · rintro rfl
      exact quote (Char.ext (UInt32.toNat_inj.mp (eq_of_mem_utf8EncodeChar member (by decide))))
    · rintro rfl
      exact slash (Char.ext (UInt32.toNat_inj.mp (eq_of_mem_utf8EncodeChar member (by decide))))
  generalize String.utf8EncodeChar c = octets at other
  induction octets with
  | nil => rfl
  | cons b octets ih =>
    obtain ⟨free, plain⟩ := other List.mem_cons_self
    rw [scan_cons, Place.step, if_neg free, if_neg plain]
    exact ih fun member => other (List.mem_cons_of_mem _ member)

theorem scan_quoted_text {text : List Char} (plain : ∀ c ∈ text, c ≠ '"' ∧ c ≠ '\\') (depth : Nat) :
    scan (.quoted depth) (octets text) = some (.quoted depth) := by
  induction text with
  | nil => rfl
  | cons c text ih =>
    rw [List.forall_mem_cons] at plain
    rw [octets_cons, scan_append, scan_quoted_char plain.1.1 plain.1.2]
    exact ih plain.2

theorem hexDigit_plain {n : Nat} (small : n < 16) : hexDigit n ≠ '"' ∧ hexDigit n ≠ '\\' ∧ hexDigit n ≠ '\n' := by
  interval_cases n <;> decide

/-- How a character stands between quotes: behind a backslash, by its number, or as it is. -/
theorem escapeChar_cases (c : Char) : (∃ letter, (c, letter) ∈ escapes ∧ escapeChar c = ['\\', letter]) ∨
    (c.toNat < 0x20 ∧ escapeChar c = ['\\', 'u', '0', '0', hexDigit (c.toNat / 16), hexDigit (c.toNat % 16)]) ∨
    (c ≠ '"' ∧ c ≠ '\\' ∧ c ≠ '\n' ∧ escapeChar c = [c]) := by
  unfold escapeChar
  cases found : escapes.find? fun escape => escape.1 = c with
  | some escape =>
    have same := List.find?_some found
    rw [decide_eq_true_eq] at same
    subst same
    exact .inl ⟨escape.2, List.mem_of_find?_eq_some found, rfl⟩
  | none =>
    right
    have own := List.find?_eq_none.mp found
    by_cases control : c.val.toNat < 0x20
    · exact .inl ⟨control, if_pos control⟩
    · have other {d letter : Char} (listed : (d, letter) ∈ escapes) : c ≠ d := by
        rintro rfl
        exact own _ listed (decide_eq_true rfl)
      exact .inr ⟨@other '"' '"' (by decide), @other '\\' '\\' (by decide), @other '\n' 'n' (by decide), if_neg control⟩

theorem scan_escapeChar (c : Char) (depth : Nat) :
    scan (.quoted depth) (octets (escapeChar c)) = some (.quoted depth) := by
  rcases escapeChar_cases c with ⟨letter, listed, spelled⟩ | ⟨control, spelled⟩ | ⟨quote, slash, _, spelled⟩
  · have each : ∀ escape ∈ escapes, scan (.escaped depth) (octets [escape.2]) = some (.quoted depth) := by
      simp only [escapes, List.forall_mem_cons, List.not_mem_nil, false_implies, implies_true, and_true]
      exact ⟨rfl, rfl, rfl, rfl, rfl, rfl, rfl⟩
    rw [spelled]
    exact each _ listed
  · obtain ⟨quoteHigh, slashHigh, _⟩ := hexDigit_plain (by omega : c.toNat / 16 < 16)
    obtain ⟨quoteLow, slashLow, _⟩ := hexDigit_plain (by omega : c.toNat % 16 < 16)
    rw [spelled]
    generalize hexDigit (c.toNat / 16) = high at *
    generalize hexDigit (c.toNat % 16) = low at *
    exact @scan_quoted_text ['0', '0', high, low] (by simp [*]) depth
  · rw [spelled, octets_cons, scan_append, scan_quoted_char quote slash]
    rfl

theorem quote_steady (value : String) : Steady (quote value) := by
  intro depth
  have inside (text : List Char) : scan (.quoted depth) (octets (text.flatMap escapeChar)) = some (.quoted depth) := by
    induction text with
    | nil => rfl
    | cons c text ih =>
      rw [List.flatMap_cons, octets_append, scan_append, scan_escapeChar]
      exact ih
  rw [quote, octets_cons, scan_append]
  change scan (.quoted depth) (octets (value.toList.flatMap escapeChar ++ ['"'])) = _
  rw [octets_append, scan_append, inside]
  rfl

theorem steady_of_loose {text : List Char} (passed : ∀ c ∈ text, ∀ depth,
    scan (.within depth) (String.utf8EncodeChar c) = some (.within depth)) : Steady text := by
  intro depth
  induction text with
  | nil => rfl
  | cons c text ih =>
    rw [List.forall_mem_cons] at passed
    rw [octets_cons, scan_append, passed.1]
    exact ih passed.2

theorem decimal_mem {n : Int} {c : Char} (member : c ∈ decimal n) : c = '-' ∨ c.isDigit = true := by
  cases n with
  | ofNat n => exact .inr (Nat.isDigit_of_mem_toDigits (by decide) (by decide) member)
  | negSucc n =>
    rcases List.mem_cons.mp member with minus | digit
    · exact .inl minus
    · exact .inr (Nat.isDigit_of_mem_toDigits (by decide) (by decide) digit)

theorem scan_digit {c : Char} (digit : c.isDigit = true) (depth : Nat) :
    scan (.within depth) (String.utf8EncodeChar c) = some (.within depth) := by
  have bounds : 48 ≤ c.toNat ∧ c.toNat ≤ 57 := by
    rw [Char.isDigit, Bool.and_eq_true, decide_eq_true_eq, decide_eq_true_eq] at digit
    exact digit
  have same := Char.ofNat_toNat c
  generalize c.toNat = n at bounds same
  obtain ⟨low, high⟩ := bounds
  rw [← same]
  interval_cases n <;> rfl

theorem decimal_steady (n : Int) : Steady (decimal n) := by
  refine steady_of_loose fun c member depth => ?_
  rcases decimal_mem member with rfl | digit
  · rfl
  · exact scan_digit digit depth

theorem spell_steady : (value : Value) → Steady value.spell
  | .text value => quote_steady value
  | .integer n => decimal_steady n
  | .flag true => fun _ => rfl
  | .flag false => fun _ => rfl

theorem member_steady (field : String × Value) : Steady (member field) := by
  have colon : Steady [':'] := fun _ => rfl
  exact (quote_steady field.1).append (colon.append (spell_steady field.2))

theorem members_steady (fields : List (String × Value)) : Steady (members fields) := by
  fun_induction members fields with
  | case1 => exact fun _ => rfl
  | case2 field => exact member_steady field
  | case3 field fields more ih =>
    have comma : Steady [','] := fun _ => rfl
    exact (member_steady field).append (comma.append ih)

theorem object_document (fields : List (String × Value)) : Document (toVec fields) := by
  rw [toVec, utf8_ofList, object, octets_cons, Document, scan_append]
  change scan (.within 0) (octets (members fields ++ ['\x7d'])) = _
  rw [octets_append, scan_append, members_steady]
  rfl

theorem feed_not_mem_escapeChar (c : Char) : '\n' ∉ escapeChar c := by
  rcases escapeChar_cases c with ⟨letter, listed, spelled⟩ | ⟨control, spelled⟩ | ⟨_, _, feed, spelled⟩
  · have each : ∀ escape ∈ escapes, '\n' ∉ ['\\', escape.2] := by decide
    rw [spelled]
    exact each _ listed
  · have high := (hexDigit_plain (by omega : c.toNat / 16 < 16)).2.2
    have low := (hexDigit_plain (by omega : c.toNat % 16 < 16)).2.2
    rw [spelled]
    simp [high.symm, low.symm]
  · rw [spelled, List.mem_singleton]
    exact feed.symm

theorem feed_not_mem_quote (value : String) : '\n' ∉ quote value := by
  intro member
  rcases List.mem_cons.mp member with quote | member
  · exact absurd quote (by decide)
  · rcases List.mem_append.mp member with inside | last
    · obtain ⟨c, _, inside⟩ := List.mem_flatMap.mp inside
      exact feed_not_mem_escapeChar c inside
    · exact absurd (List.mem_singleton.mp last) (by decide)

theorem feed_not_mem_spell : (value : Value) → '\n' ∉ value.spell
  | .text value => feed_not_mem_quote value
  | .integer n => fun member => by
    rcases decimal_mem member with minus | digit
    · exact absurd minus (by decide)
    · exact absurd digit (by decide)
  | .flag true => by decide
  | .flag false => by decide

theorem feed_not_mem_members (fields : List (String × Value)) : '\n' ∉ members fields := by
  have one (field : String × Value) : '\n' ∉ member field := by
    intro inside
    rcases List.mem_append.mp inside with name | inside
    · exact feed_not_mem_quote _ name
    · rcases List.mem_cons.mp inside with colon | inside
      · exact absurd colon (by decide)
      · exact feed_not_mem_spell _ inside
  fun_induction members fields with
  | case1 => exact nofun
  | case2 field => exact one field
  | case3 field fields more ih =>
    intro inside
    rcases List.mem_append.mp inside with first | inside
    · exact one field first
    · rcases List.mem_cons.mp inside with comma | inside
      · exact absurd comma (by decide)
      · exact ih inside

/-- A record stands on one line. -/
theorem feed_not_mem_toVec (fields : List (String × Value)) : 0x0a ∉ toVec fields := by
  intro inside
  rw [toVec, utf8_ofList] at inside
  have member : '\n' ∈ object fields := mem_of_mem_octets (by decide) inside
  rcases List.mem_cons.mp member with brace | member
  · exact absurd brace (by decide)
  · rcases List.mem_append.mp member with inside | last
    · exact feed_not_mem_members fields inside
    · exact absurd (List.mem_singleton.mp last) (by decide)

theorem foreign_of_name {name : String} {value : Value} {fields : List (String × Value)} {front back : List Char}
    {c : Char} (spelled : name.toList.flatMap escapeChar = front ++ c :: back) (steady : Steady front)
    (foreign : ∀ depth, scan (.within depth) (String.utf8EncodeChar c) = none) :
    Foreign (toVec ((name, value) :: fields)) := by
  obtain ⟨rest, first⟩ : ∃ rest, members ((name, value) :: fields) = quote name ++ rest := by
    cases fields with
    | nil => exact ⟨_, rfl⟩
    | cons field fields => exact ⟨_, List.append_assoc _ _ _⟩
  refine ⟨octets (front ++ c :: (back ++ '"' :: (rest ++ ['\x7d']))), ?_, fun depth => ?_⟩
  · have whole : object ((name, value) :: fields) =
        '\x7b' :: '"' :: (front ++ c :: (back ++ '"' :: (rest ++ ['\x7d']))) := by
      rw [object, first, quote, spelled]
      simp
    rw [toVec, utf8_ofList, whole]
    rfl
  · rw [octets_append, scan_append, steady, octets_cons]
    change scan (.within depth) (String.utf8EncodeChar c ++ _) = none
    rw [scan_append, foreign]
    rfl

end Write

section Read

/-- The character that stands at the front between quotes, and what is behind it. -/
def readChar : List Char → Option (Char × List Char)
  | '\\' :: 'u' :: '0' :: '0' :: high :: low :: rest =>
    ((List.range 0x20).find? fun n => hexDigit (n / 16) = high ∧ hexDigit (n % 16) = low).map fun n =>
      (Char.ofNat n, rest)
  | '\\' :: letter :: rest => (escapes.find? fun escape => escape.2 = letter).map fun escape => (escape.1, rest)
  | c :: rest => some (c, rest)
  | [] => none

theorem readChar_escapeChar (c : Char) (rest : List Char) : readChar (escapeChar c ++ rest) = some (c, rest) := by
  rcases escapeChar_cases c with ⟨letter, listed, spelled⟩ | ⟨control, spelled⟩ | ⟨_, slash, _, spelled⟩
  · have each : ∀ escape ∈ escapes, readChar (['\\', escape.2] ++ rest) = some (escape.1, rest) := by
      simp only [escapes, List.forall_mem_cons, List.not_mem_nil, false_implies, implies_true, and_true]
      exact ⟨rfl, rfl, rfl, rfl, rfl, rfl, rfl⟩
    rw [spelled]
    exact each _ listed
  · have same := Char.ofNat_toNat c
    rw [spelled]
    generalize c.toNat = n at control same
    rw [← same]
    interval_cases n <;> rfl
  · rw [spelled, List.singleton_append]
    unfold readChar
    split
    · rename_i same
      exact absurd (List.cons_eq_cons.mp same).1 slash
    · rename_i same
      exact absurd (List.cons_eq_cons.mp same).1 slash
    · rename_i same
      rw [(List.cons_eq_cons.mp same).1, (List.cons_eq_cons.mp same).2]
    · rename_i same
      cases same

theorem escapeChar_ne_quote (c : Char) {rest other : List Char} : escapeChar c ++ rest ≠ '"' :: other := by
  rcases escapeChar_cases c with ⟨letter, _, spelled⟩ | ⟨_, spelled⟩ | ⟨quote, _, _, spelled⟩
  · rw [spelled]
    exact fun same => absurd (List.cons_eq_cons.mp same).1 (by decide)
  · rw [spelled]
    exact fun same => absurd (List.cons_eq_cons.mp same).1 (by decide)
  · rw [spelled]
    exact fun same => absurd (List.cons_eq_cons.mp same).1 quote

/-- Where a quoted text ends is plain from the text. -/
theorem quote_append_inj {value other : String} {rest rest' : List Char}
    (same : quote value ++ rest = quote other ++ rest') : value = other ∧ rest = rest' := by
  have inside (front back : List Char) (same : front.flatMap escapeChar ++ '"' :: rest =
      back.flatMap escapeChar ++ '"' :: rest') : front = back ∧ rest = rest' := by
    induction front generalizing back with
    | nil =>
      cases back with
      | nil => exact ⟨rfl, (List.cons_eq_cons.mp same).2⟩
      | cons d back =>
        rw [List.flatMap_cons, List.append_assoc] at same
        exact absurd same.symm (escapeChar_ne_quote d)
    | cons c front ih =>
      cases back with
      | nil =>
        rw [List.flatMap_cons, List.append_assoc] at same
        exact absurd same (escapeChar_ne_quote c)
      | cons d back =>
        rw [List.flatMap_cons, List.flatMap_cons, List.append_assoc, List.append_assoc] at same
        have first := congrArg readChar same
        rw [readChar_escapeChar, readChar_escapeChar, Option.some.injEq, Prod.mk.injEq] at first
        obtain ⟨rfl, left⟩ := first
        obtain ⟨rfl, right⟩ := ih back left
        exact ⟨rfl, right⟩
  have content : value.toList.flatMap escapeChar ++ '"' :: rest = other.toList.flatMap escapeChar ++ '"' :: rest' := by
    simpa [quote] using same
  obtain ⟨text, left⟩ := inside _ _ content
  exact ⟨String.toList_inj.mp text, left⟩

theorem decimal_inj {n m : Int} (same : decimal n = decimal m) : n = m := by
  have value {n m : Nat} (same : Nat.toDigits 10 n = Nat.toDigits 10 m) : n = m := by
    have read := congrArg (fun digits => Nat.ofDigitChars 10 digits 0) same
    rwa [Nat.ofDigitChars_ten_toDigits, Nat.ofDigitChars_ten_toDigits] at read
  have unsigned {n : Nat} {rest : List Char} : Nat.toDigits 10 n ≠ '-' :: rest := by
    intro signed
    have minus : '-' ∈ Nat.toDigits 10 n := signed ▸ List.mem_cons_self
    exact absurd (Nat.isDigit_of_mem_toDigits (by decide) (by decide) minus) (by decide)
  cases n with
  | ofNat n =>
    cases m with
    | ofNat m => exact congrArg Int.ofNat (value same)
    | negSucc m => exact absurd same unsigned
  | negSucc n =>
    cases m with
    | ofNat m => exact absurd same.symm unsigned
    | negSucc m =>
      have digits := value (List.cons_eq_cons.mp same).2
      exact congrArg Int.negSucc (Nat.succ.inj digits)

theorem decimal_append_inj {n m : Int} {rest rest' : List Char}
    (same : decimal n ++ ',' :: rest = decimal m ++ ',' :: rest') : n = m ∧ rest = rest' := by
  have comma (n : Int) : ',' ∉ decimal n := by
    intro member
    rcases decimal_mem member with minus | digit
    · exact absurd minus (by decide)
    · exact absurd digit (by decide)
  obtain ⟨digits, left⟩ := eq_of_append_cons (comma n) (comma m) same
  exact ⟨decimal_inj digits, left⟩

theorem members_cons {field : String × Value} {fields : List (String × Value)} (more : fields ≠ []) :
    members (field :: fields) = member field ++ ',' :: members fields := by
  cases fields with
  | nil => exact absurd rfl more
  | cons _ _ => rfl

/-- What the first field is called is plain from the text. -/
theorem members_name_inj {name name' : String} {value value' : Value} {fields others : List (String × Value)}
    {rest rest' : List Char}
    (same : members ((name, value) :: fields) ++ rest = members ((name', value') :: others) ++ rest') : name = name' := by
  have front (field : String × Value) (fields : List (String × Value)) :
      ∃ more, members (field :: fields) = quote field.1 ++ more := by
    cases fields with
    | nil => exact ⟨_, rfl⟩
    | cons _ _ => exact ⟨_, List.append_assoc _ _ _⟩
  obtain ⟨more, first⟩ := front (name, value) fields
  obtain ⟨more', first'⟩ := front (name', value') others
  rw [first, first', List.append_assoc, List.append_assoc] at same
  exact (quote_append_inj same).1

section Fields
variable {name : String} {fields others : List (String × Value)} {rest rest' : List Char}

theorem members_text_inj {value value' : String} (more : fields ≠ []) (more' : others ≠ [])
    (same : members ((name, .text value) :: fields) ++ rest = members ((name, .text value') :: others) ++ rest') :
    value = value' ∧ members fields ++ rest = members others ++ rest' := by
  simp only [members_cons more, members_cons more', member, Value.spell, List.append_assoc, List.cons_append] at same
  obtain ⟨text, left⟩ := quote_append_inj (List.cons_eq_cons.mp (List.append_cancel_left same)).2
  exact ⟨text, (List.cons_eq_cons.mp left).2⟩

theorem members_integer_inj {value value' : Int} (more : fields ≠ []) (more' : others ≠ [])
    (same : members ((name, .integer value) :: fields) ++ rest = members ((name, .integer value') :: others) ++ rest') :
    value = value' ∧ members fields ++ rest = members others ++ rest' := by
  simp only [members_cons more, members_cons more', member, Value.spell, List.append_assoc, List.cons_append] at same
  exact decimal_append_inj (List.cons_eq_cons.mp (List.append_cancel_left same)).2

theorem members_flag_inj {value value' : Bool}
    (same : members [(name, .flag value)] ++ rest = members [(name, .flag value')] ++ rest') : value = value' := by
  simp only [members, member, List.append_assoc, List.cons_append] at same
  have left := (List.cons_eq_cons.mp (List.append_cancel_left same)).2
  cases value <;> cases value' <;> first | rfl | exact absurd (List.cons_eq_cons.mp left).1 (by decide)

end Fields

theorem toVec_inj {fields others : List (String × Value)} (same : toVec fields = toVec others) :
    members fields ++ ['\x7d'] = members others ++ ['\x7d'] :=
  (List.cons_eq_cons.mp (String.ofList_injective (utf8_injective same))).2

end Read

end BioAuth.FlatJson
