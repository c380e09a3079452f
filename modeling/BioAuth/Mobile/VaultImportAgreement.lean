import BioAuth.Mobile.VaultImport

namespace BioAuth.Mobile
open BioAuth
open VaultStore (VaultItemInput)

namespace VaultImport

/-- What Bitwarden exports of an account. -/
inductive BitwardenAccount
  | login (name username uri password notes : String)
  | secureNote (name notes : String)

/-- The columns of the CSV export. -/
def bitwardenColumns : List String := ["name", "login_username", "login_password", "login_uri", "notes", "type"]

namespace BitwardenAccount

def name : BitwardenAccount → String
  | login name .. => name
  | secureNote name _ => name

def password : BitwardenAccount → String
  | login _ _ _ password _ => password
  | secureNote .. => ""

def notes : BitwardenAccount → String
  | login _ _ _ _ notes => notes
  | secureNote _ notes => notes

/-- The account's row in the CSV export. -/
def record : BitwardenAccount → List String
  | login name username uri password notes => [name, username, password, uri, notes, "login"]
  | secureNote name notes => [name, "", "", "", notes, "note"]

/-- The account as an item of its own kind. -/
def item : BitwardenAccount → VaultItemInput
  | login name username uri password _ =>
    { kind := .login, name := trim name, username := trim username, uri := trim uri, secret := password }
  | secureNote name notes => { kind := .note, name := trim name, username := "", uri := "", secret := notes }

/-- The account with nothing kept of it but its notes. -/
def note (account : BitwardenAccount) : VaultItemInput :=
  { kind := .note, name := trim account.name, username := "", uri := "", secret := account.notes }

/-- An account without a name, a password and notes. -/
def Blank (account : BitwardenAccount) : Prop :=
  blank account.name = true ∧ blank account.password = true ∧ blank account.notes = true

/-- A login that has notes and no password. -/
def NoteAlone : BitwardenAccount → Prop
  | login _ _ _ password notes => blank password = true ∧ blank notes = false
  | secureNote .. => False

instance (account : BitwardenAccount) : Decidable account.Blank := inferInstanceAs (Decidable (_ ∧ _))

instance : (account : BitwardenAccount) → Decidable account.NoteAlone
  | login .. => inferInstanceAs (Decidable (_ ∧ _))
  | secureNote .. => isFalse id

/-- The texts that are left of an account in the vault or in the report. -/
def kept : BitwardenAccount → List String
  | login name username uri password notes =>
    if blank password = true then trim name :: (if blank notes = true then [] else [notes])
    else [trim name, trim username, trim uri, password]
  | secureNote name notes => trim name :: (if blank notes = true then [] else [notes])

/-- No line of a kept text ends in a carriage return and a line feed. -/
def Unbroken (account : BitwardenAccount) : Prop := ∀ text ∈ account.kept, ¬['\r', '\n'] <:+: text.toList

instance (account : BitwardenAccount) : Decidable account.Unbroken := inferInstanceAs (Decidable (∀ _ ∈ _, _))

end BitwardenAccount

/-- A text as a JSON export writes it. An empty one may be missing. -/
def Writes (text : String) (json : Option Json) : Prop :=
  json = some (.string text) ∨ text = "" ∧ (json = none ∨ json = some .null)

def WritesUri (uri : String) (json : Option Json) : Prop :=
  (∃ members others, json = some (.array (.object members :: others)) ∧ Writes uri (lookup "uri" members)) ∨
    uri = "" ∧ (json = none ∨ json = some .null ∨ json = some (.array []))

/-- An account as an item of the JSON export. -/
inductive ItemOf : BitwardenAccount → Json → Prop
  | login {name username uri password notes : String} {members login : List (String × Json)}
      (type : lookup "type" members = some (.number 1)) (named : Writes name (lookup "name" members))
      (noted : Writes notes (lookup "notes" members)) (part : lookup "login" members = some (.object login))
      (user : Writes username (lookup "username" login)) (site : WritesUri uri (lookup "uris" login))
      (pass : Writes password (lookup "password" login)) :
      ItemOf (.login name username uri password notes) (.object members)
  | secureNote {name notes : String} {members : List (String × Json)}
      (type : lookup "type" members = some (.number 2)) (named : Writes name (lookup "name" members))
      (noted : Writes notes (lookup "notes" members)) : ItemOf (.secureNote name notes) (.object members)

/-- A file that holds the accounts as Bitwarden's JSON export does. -/
inductive JsonExport [JsonDecoder] (accounts : List BitwardenAccount) (file : Bytes) : Prop
  | intro {text : String} {members : List (String × Json)} {items : List Json} (decoded : utf8Decode file = some text)
      (opened : (trimLeft text).toList.head? = some '\x7b')
      (parsed : JsonDecoder.jsonDecode (trimLeft text) = some (.object members))
      (plain : encrypted (lookup "encrypted" members) = false) (listed : lookup "items" members = some (.array items))
      (each : List.Forall₂ ItemOf accounts items)

/-- A file that holds the accounts as Bitwarden's CSV export does, in the quoting of RFC 4180. -/
inductive CsvExport (accounts : List BitwardenAccount) (file : Bytes) : Prop
  | intro {text : String} {ends : List Char} (encoded : file = utf8 text)
      (line : ends = ['\r', '\n'] ∨ ends = ['\n'])
      (spelled : Csv.Spelled ',' ends ((bitwardenColumns :: accounts.map BitwardenAccount.record).map
        (List.map String.toList)) text.toList)

/-- What is known of the decoder: it parses RFC 4180. Its files here have line feeds and no empty lines. -/
def CsvDecoder.Parses [CsvDecoder] : Prop :=
  ∀ (records : List (List String)) (text : String),
    Csv.Spelled ',' ['\n'] (records.map (List.map String.toList)) text.toList → (∀ record ∈ records, 2 ≤ record.length) →
      CsvDecoder.convert ',' text = some records

/-- What the two importers make of the same accounts, from a row on. The rows of the CSV export come behind its header. -/
inductive Alike : Nat → List BitwardenAccount → VaultImportPreview → VaultImportPreview → Prop
  | nil {row : Nat} : Alike row [] .empty .empty
  /-- Both have the item, and it is the account. -/
  | imported {row : Nat} {account : BitwardenAccount} {accounts : List BitwardenAccount}
      {fromJson fromCsv : VaultImportPreview} (own : ¬account.Blank ∧ ¬account.NoteAlone)
      (rest : Alike (row + 1) accounts fromJson fromCsv) :
      Alike row (account :: accounts) (fromJson.add account.item) (fromCsv.add account.item)
  /-- Both reject the account, for the same reason. -/
  | rejected {row : Nat} {account : BitwardenAccount} {accounts : List BitwardenAccount}
      {fromJson fromCsv : VaultImportPreview} {reason : RowProblem} (own : ¬account.Blank ∧ ¬account.NoteAlone)
      (rest : Alike (row + 1) accounts fromJson fromCsv) :
      Alike row (account :: accounts) (fromJson.reject { row, reason, name := trim account.name })
        (fromCsv.reject { row := row + 1, reason, name := trim account.name })
  /-- The one rejects the account for its name, the other passes it over. -/
  | passedOver {row : Nat} {account : BitwardenAccount} {accounts : List BitwardenAccount}
      {fromJson fromCsv : VaultImportPreview} (nothing : account.Blank)
      (rest : Alike (row + 1) accounts fromJson fromCsv) :
      Alike row (account :: accounts) (fromJson.reject { row, reason := .noName, name := "" }) fromCsv
  /-- The one rejects the login for its password, the other makes a note of it. -/
  | noted {row : Nat} {account : BitwardenAccount} {accounts : List BitwardenAccount}
      {fromJson fromCsv : VaultImportPreview} (alone : account.NoteAlone)
      (rest : Alike (row + 1) accounts fromJson fromCsv) :
      Alike row (account :: accounts) (fromJson.reject { row, reason := .noSecret, name := trim account.name })
        (fromCsv.add account.note)
  /-- Both reject the login, the other as the note it would be. -/
  | refused {row : Nat} {account : BitwardenAccount} {accounts : List BitwardenAccount}
      {fromJson fromCsv : VaultImportPreview} {reason reason' : RowProblem} (alone : account.NoteAlone)
      (rest : Alike (row + 1) accounts fromJson fromCsv) :
      Alike row (account :: accounts) (fromJson.reject { row, reason, name := trim account.name })
        (fromCsv.reject { row := row + 1, reason := reason', name := trim account.name })

section Texts
variable {text : String}

theorem toList_replaceLineEnds : (replaceLineEnds text).toList = Csv.lineFeeds text.toList := String.toList_ofList

theorem replaceLineEnds_eq_self (unbroken : ¬['\r', '\n'] <:+: text.toList) : replaceLineEnds text = text := by
  rw [replaceLineEnds, Csv.lineFeeds_eq_self unbroken, String.ofList_toList]

theorem blank_replaceLineEnds : blank (replaceLineEnds text) = blank text := by
  rw [blank, toList_replaceLineEnds]
  exact Csv.all_lineFeeds (by decide)

theorem trim_replaceLineEnds : trim (replaceLineEnds text) = replaceLineEnds (trim text) := by
  rw [trim, toList_replaceLineEnds, Csv.dropWhile_lineFeeds (by decide) (by decide), replaceLineEnds, trim,
    String.toList_ofList]
  exact congrArg String.ofList (Csv.rdropWhile_lineFeeds (by decide) (by decide))

theorem all_dropWhile (p : Char → Bool) (chars : List Char) : (chars.dropWhile p).all p = chars.all p := by
  induction chars with
  | nil => rfl
  | cons c chars ih =>
    by_cases passed : p c = true
    · rw [List.dropWhile_cons_of_pos passed, ih, List.all_cons, passed, Bool.true_and]
    · rw [List.dropWhile_cons_of_neg passed]

theorem trim_eq_empty : trim text = "" ↔ blank text = true := by
  have ends : (text.toList.dropWhile trimmed).reverse.dropWhile trimmed = [] ↔
      (text.toList.dropWhile trimmed).all trimmed = true := by
    rw [List.dropWhile_eq_nil_iff, List.all_eq_true]
    simp only [List.mem_reverse]
  rw [trim, String.ofList_eq_empty_iff, List.reverse_eq_nil_iff, ends, all_dropWhile, blank]

theorem trim_replaceLineEnds_eq (unbroken : ¬['\r', '\n'] <:+: (trim text).toList) :
    trim (replaceLineEnds text) = trim text := by
  rw [trim_replaceLineEnds, replaceLineEnds_eq_self unbroken]

end Texts

section Rows
variable {row : Nat} {item : VaultItemInput}

/-- What is wrong with an item does not depend on its row. -/
theorem checked_cases (item : VaultItemInput) : (∀ row, checked row item = .ok item) ∨
    ∃ reason, ∀ row, checked row item = .error { row, reason, name := item.name } := by
  cases problem : validate 0 item.name item.username item.uri item.secret with
  | none =>
    refine .inl fun row => ?_
    have none : validate row item.name item.username item.uri item.secret = none := by
      rw [validate, Option.map_eq_none_iff] at problem ⊢
      exact problem
    rw [checked, none]
  | some rejection =>
    rw [validate, Option.map_eq_some_iff] at problem
    obtain ⟨reason, found, _⟩ := problem
    refine .inr ⟨reason, fun row => ?_⟩
    rw [checked, validate, found]
    rfl

theorem checked_nameless (nameless : item.name = "") :
    checked row item = .error { row, reason := .noName, name := "" } := by
  simp [checked, validate, nameless]

theorem checked_secretless {kind : VaultItemKind} {name username uri secret : String} (named : name ≠ "")
    (empty : blank secret = true) :
    checked row { kind, name, username, uri, secret } = .error { row, reason := .noSecret, name } := by
  simp [checked, validate, named, empty]

theorem string_of_writes {value : String} {json : Option Json} (writes : Writes value json) : string json = value := by
  rcases writes with rfl | ⟨rfl, rfl | rfl⟩ <;> rfl

theorem firstUri_of_writes {uri : String} {json : Option Json} (writes : WritesUri uri json) : firstUri json = uri := by
  rcases writes with ⟨members, others, rfl, inside⟩ | ⟨rfl, rfl | rfl | rfl⟩
  · exact string_of_writes inside
  all_goals rfl

theorem fields_login {login raw : List (String × Json)} : fields (some (.number 1)) (some (.object login)) raw =
    (.login, trim (string (lookup "username" login)), trim (firstUri (lookup "uris" login)),
      string (lookup "password" login)) := rfl

theorem fields_note {login : Option Json} {raw : List (String × Json)} :
    fields (some (.number 2)) login raw = (.note, "", "", string (lookup "notes" raw)) := rfl

/-- A row of a type that the schema has a place for. -/
theorem jsonRow_supported {raw : List (String × Json)} {kind : VaultItemKind} {username uri secret : String}
    (type : supported (lookup "type" raw) = true)
    (read : fields (lookup "type" raw) (lookup "login" raw) raw = (kind, username, uri, secret)) :
    jsonRow row (.object raw) =
      checked row { kind, name := trim (string (lookup "name" raw)), username, uri, secret } := by
  simp only [jsonRow, read, type, if_true]

theorem jsonRow_of_itemOf {account : BitwardenAccount} {json : Json} (exported : ItemOf account json) :
    jsonRow row json = checked row account.item := by
  cases exported with
  | login type named noted part user site pass =>
    rw [jsonRow_supported (by rw [type]; rfl) (by rw [type, part, fields_login]), string_of_writes named,
      string_of_writes user, firstUri_of_writes site, string_of_writes pass, BitwardenAccount.item]
  | secureNote type named noted =>
    rw [jsonRow_supported (by rw [type]; rfl) (by rw [type, fields_note]), string_of_writes named,
      string_of_writes noted, BitwardenAccount.item]

/-- Where the columns of Bitwarden's export are. -/
def bitwardenHeader : Column → Option Nat
  | .name => some 0
  | .username => some 1
  | .secret => some 2
  | .uri => some 3
  | .notes => some 4
  | .type => some 5

theorem headerOf_bitwardenColumns : headerOf bitwardenColumns = bitwardenHeader := by
  funext field
  cases field <;> decide +kernel

/-- The account's row with the line ends that the whole file was given. -/
def BitwardenAccount.cells (account : BitwardenAccount) : List String := account.record.map replaceLineEnds

theorem csvRow_login {name username uri password notes : String} :
    csvRow bitwardenHeader row (BitwardenAccount.login name username uri password notes).cells =
      if blank name = true ∧ blank password = true ∧ blank notes = true then none
      else if blank password = true ∧ blank notes = false then
        some (checked row { kind := .note, name := trim (replaceLineEnds name), username := "", uri := "",
                            secret := replaceLineEnds notes })
      else some (checked row
        { kind := .login, name := trim (replaceLineEnds name), username := trim (replaceLineEnds username),
          uri := trim (replaceLineEnds uri),
          secret := if blank password = true then "" else replaceLineEnds password }) := by
  have empty {text : String} : trim (replaceLineEnds text) = "" ↔ blank text = true := by
    rw [trim_eq_empty, blank_replaceLineEnds]
  unfold csvRow
  simp only [at', verbatim, bitwardenHeader, BitwardenAccount.cells, BitwardenAccount.record, List.map_cons,
    List.getElem?_cons_zero, List.getElem?_cons_succ, Option.getD_some, empty, ne_eq, Bool.not_eq_true]
  by_cases first : blank name = true ∧ blank password = true ∧ blank notes = true
  · rw [if_pos first, if_pos first]
  · rw [if_neg first, if_neg first]
    by_cases alone : blank password = true ∧ blank notes = false
    · simp [alone]
    · simp only [if_neg alone]
      cases blank password <;> simp

theorem csvRow_secureNote {name notes : String} :
    csvRow bitwardenHeader row (BitwardenAccount.secureNote name notes).cells =
      if blank name = true ∧ blank notes = true then none
      else if blank notes = false then
        some (checked row { kind := .note, name := trim (replaceLineEnds name), username := "", uri := "",
                            secret := replaceLineEnds notes })
      else some (checked row { kind := .login, name := trim (replaceLineEnds name), username := "", uri := "",
                               secret := "" }) := by
  have same : (BitwardenAccount.secureNote name notes).cells =
      [replaceLineEnds name, "", "", "", replaceLineEnds notes, "note"] := by
    rw [BitwardenAccount.cells, BitwardenAccount.record]
    rfl
  have blankEmpty : blank "" = true := rfl
  have trimEmpty : trim "" = "" := rfl
  have empty {text : String} : trim (replaceLineEnds text) = "" ↔ blank text = true := by
    rw [trim_eq_empty, blank_replaceLineEnds]
  unfold csvRow
  simp only [at', verbatim, bitwardenHeader, same, List.getElem?_cons_zero, List.getElem?_cons_succ, Option.getD_some,
    empty, trimEmpty, true_and, ne_eq, Bool.not_eq_true]
  by_cases first : blank name = true ∧ blank notes = true
  · rw [if_pos first, if_pos first]
  · rw [if_neg first, if_neg first]
    cases blank notes <;> simp

theorem csvRow_blank {account : BitwardenAccount} (nothing : account.Blank) :
    csvRow bitwardenHeader row account.cells = none := by
  cases account with
  | login name _ _ password notes =>
    have all : blank name = true ∧ blank password = true ∧ blank notes = true := nothing
    rw [csvRow_login, if_pos all]
  | secureNote => rw [csvRow_secureNote, if_pos ⟨nothing.1, nothing.2.2⟩]

theorem csvRow_noteAlone {account : BitwardenAccount} (unbroken : account.Unbroken) (alone : account.NoteAlone) :
    csvRow bitwardenHeader row account.cells = some (checked row account.note) := by
  cases account with
  | secureNote => exact alone.elim
  | login name username uri password notes =>
    obtain ⟨without, noted⟩ : blank password = true ∧ blank notes = false := alone
    have left : (BitwardenAccount.login name username uri password notes).kept = [trim name, notes] := by
      rw [BitwardenAccount.kept, if_pos without, noted]
      rfl
    rw [BitwardenAccount.Unbroken, left] at unbroken
    have partial' : ¬(blank name = true ∧ blank password = true ∧ blank notes = true) := by
      rw [noted]
      exact fun all => nomatch all.2.2
    rw [csvRow_login, if_neg partial', if_pos ⟨without, noted⟩, trim_replaceLineEnds_eq (unbroken _ (by simp)),
      replaceLineEnds_eq_self (unbroken notes (by simp))]
    rfl

theorem csvRow_own {account : BitwardenAccount} (unbroken : account.Unbroken)
    (own : ¬account.Blank ∧ ¬account.NoteAlone) :
    csvRow bitwardenHeader row account.cells = some (checked row account.item) := by
  cases account with
  | login name username uri password notes =>
    have listed : ¬(blank name = true ∧ blank password = true ∧ blank notes = true) := own.1
    have login : ¬(blank password = true ∧ blank notes = false) := own.2
    rw [csvRow_login, if_neg listed, if_neg login]
    by_cases without : blank password = true
    · -- without a password and notes there is a name, and both spellings of the password are blank
      have unnoted : blank notes = true := by simpa [without] using login
      have named : trim name ≠ "" := fun nameless => listed ⟨trim_eq_empty.mp nameless, without, unnoted⟩
      have left : (BitwardenAccount.login name username uri password notes).kept = [trim name] := by
        rw [BitwardenAccount.kept, if_pos without, if_pos unnoted]
      rw [BitwardenAccount.Unbroken, left] at unbroken
      rw [if_pos without, trim_replaceLineEnds_eq (unbroken _ (by simp)), checked_secretless named rfl,
        BitwardenAccount.item, checked_secretless named without]
    · have left : (BitwardenAccount.login name username uri password notes).kept =
          [trim name, trim username, trim uri, password] := if_neg without
      rw [BitwardenAccount.Unbroken, left] at unbroken
      rw [if_neg without, trim_replaceLineEnds_eq (unbroken _ (by simp)), trim_replaceLineEnds_eq (unbroken _ (by simp)),
        trim_replaceLineEnds_eq (unbroken _ (by simp)), replaceLineEnds_eq_self (unbroken password (by simp))]
      rfl
  | secureNote name notes =>
    have listed : ¬(blank name = true ∧ blank notes = true) := fun both => own.1 ⟨both.1, rfl, both.2⟩
    rw [csvRow_secureNote, if_neg listed]
    by_cases without : blank notes = true
    · have named : trim name ≠ "" := fun nameless => listed ⟨trim_eq_empty.mp nameless, without⟩
      have left : (BitwardenAccount.secureNote name notes).kept = [trim name] := by
        rw [BitwardenAccount.kept, if_pos without]
      rw [BitwardenAccount.Unbroken, left] at unbroken
      rw [without, if_neg (by decide), trim_replaceLineEnds_eq (unbroken _ (by simp)), checked_secretless named rfl,
        BitwardenAccount.item, checked_secretless named without]
    · have left : (BitwardenAccount.secureNote name notes).kept = [trim name, notes] := by
        rw [BitwardenAccount.kept, if_neg without]
      rw [BitwardenAccount.Unbroken, left] at unbroken
      rw [if_pos (Bool.eq_false_of_not_eq_true without), trim_replaceLineEnds_eq (unbroken _ (by simp)),
        replaceLineEnds_eq_self (unbroken notes (by simp))]
      rfl

end Rows

/-- The two loops, over the same accounts. -/
theorem alike_rows {accounts : List BitwardenAccount} (unbroken : ∀ account ∈ accounts, account.Unbroken)
    {items : List Json} (each : List.Forall₂ ItemOf accounts items) (index : Nat) :
    Alike (index + 1) accounts (jsonRows index items)
      (csvRows bitwardenHeader (index + 1) (accounts.map BitwardenAccount.cells)) := by
  induction each generalizing index with
  | nil => exact .nil
  | @cons account json accounts items exported others ih =>
    rw [List.forall_mem_cons] at unbroken
    have rest := ih unbroken.2 (index + 1)
    have name : account.item.name = trim account.name := by cases account <;> rfl
    rw [jsonRows, jsonRow_of_itemOf exported, List.map_cons, csvRows]
    by_cases nothing : account.Blank
    · rw [csvRow_blank nothing, checked_nameless (name.trans (trim_eq_empty.mpr nothing.1))]
      exact .passedOver nothing rest
    by_cases alone : account.NoteAlone
    · rw [csvRow_noteAlone unbroken.1 alone]
      have empty : blank account.item.secret = true := by
        cases account with
        | login => exact alone.1
        | secureNote => exact alone.elim
      by_cases named : trim account.name = ""
      · rw [checked_nameless (name.trans named), checked_nameless (show account.note.name = "" from named)]
        have both := @Alike.refused (index + 1) account accounts _ _ .noName .noName alone rest
        rw [named] at both
        exact both
      · have refused : checked (index + 1) account.item =
            .error { row := index + 1, reason := .noSecret, name := account.item.name } :=
          checked_secretless (name ▸ named) empty
        rw [refused, name]
        rcases checked_cases account.note with taken | ⟨reason, refused⟩
        · rw [taken]
          exact .noted alone rest
        · rw [refused]
          exact .refused alone rest
    · rw [csvRow_own unbroken.1 ⟨nothing, alone⟩]
      rcases checked_cases account.item with taken | ⟨reason, refused⟩
      · rw [taken, taken]
        exact .imported ⟨nothing, alone⟩ rest
      · rw [refused, refused, name]
        exact .rejected ⟨nothing, alone⟩ rest

section Files
variable {accounts : List BitwardenAccount} {file : Bytes}

theorem parseVaultImport_of_json [JsonDecoder] [CsvDecoder] {text : String} {members : List (String × Json)}
    {items : List Json} (decoded : utf8Decode file = some text) (opened : (trimLeft text).toList.head? = some '\x7b')
    (parsed : JsonDecoder.jsonDecode (trimLeft text) = some (.object members))
    (plain : encrypted (lookup "encrypted" members) = false) (listed : lookup "items" members = some (.array items)) :
    parseVaultImport file =
      if maxImportRows < items.length then .error .tooManyRows else .ok (jsonRows 0 items) := by
  have taken : parseVaultImport file = parseBitwardenJson (trimLeft text) := by
    rw [parseVaultImport, decoded]
    exact if_pos (.inl opened)
  simp only [taken, parseBitwardenJson, parsed, plain, listed, Bool.false_eq_true, if_false]

theorem parseVaultImport_json [JsonDecoder] [CsvDecoder] (export' : JsonExport accounts file) :
    ∃ items, List.Forall₂ ItemOf accounts items ∧ parseVaultImport file =
      if maxImportRows < accounts.length then .error .tooManyRows else .ok (jsonRows 0 items) := by
  obtain @⟨text, members, items, decoded, opened, parsed, plain, listed, each⟩ := export'
  refine ⟨items, each, ?_⟩
  rw [each.length_eq]
  exact parseVaultImport_of_json decoded opened parsed plain listed

theorem convert_export [CsvDecoder] (parses : CsvDecoder.Parses) {text : String} {ends : List Char}
    (line : ends = ['\r', '\n'] ∨ ends = ['\n'])
    (spelled : Csv.Spelled ',' ends ((bitwardenColumns :: accounts.map BitwardenAccount.record).map
      (List.map String.toList)) text.toList) :
    CsvDecoder.convert ',' (replaceLineEnds text) =
      some (bitwardenColumns :: accounts.map BitwardenAccount.cells) := by
  have columns : bitwardenColumns.map replaceLineEnds = bitwardenColumns := by
    simp [bitwardenColumns, replaceLineEnds, Csv.lineFeeds]
  apply parses
  · have read := spelled.lineFeeds (by decide) line
    rw [← toList_replaceLineEnds] at read
    have same : ((bitwardenColumns :: accounts.map BitwardenAccount.record).map (List.map String.toList)).map
        (List.map Csv.lineFeeds) =
        (bitwardenColumns :: accounts.map BitwardenAccount.cells).map (List.map String.toList) := by
      have cell : Csv.lineFeeds ∘ String.toList = String.toList ∘ replaceLineEnds :=
        funext fun text => toList_replaceLineEnds.symm
      have account (account : BitwardenAccount) : (account.record.map String.toList).map Csv.lineFeeds =
          account.cells.map String.toList := by
        rw [BitwardenAccount.cells, List.map_map, List.map_map, cell]
      have head : (bitwardenColumns.map String.toList).map Csv.lineFeeds = bitwardenColumns.map String.toList := by
        rw [List.map_map, cell, ← List.map_map, columns]
      rw [List.map_cons, List.map_cons, List.map_cons, head, List.map_map, List.map_map, List.map_map]
      exact congrArg _ (List.map_congr_left fun _ _ => account _)
    rw [same] at read
    exact read
  · intro record member
    rcases List.mem_cons.mp member with rfl | member
    · decide
    · obtain ⟨account, _, rfl⟩ := List.mem_map.mp member
      cases account <;> exact (by decide : 2 ≤ 6)

/-- Nothing in the header of the export outvotes its commas. -/
theorem delimiterOf_export {text : String} {ends : List Char} (line : ends = ['\r', '\n'] ∨ ends = ['\n'])
    {records : List (List (List Char))}
    (spelled : Csv.Spelled ',' ends (bitwardenColumns.map String.toList :: records) text.toList) :
    delimiterOf text = ',' := by
  obtain ⟨first, rest, record, whole, behind⟩ := spelled.split
  have known : ∀ c ∈ text.toList.takeWhile (· ≠ '\n'), c = '\r' ∨ c ∈ first := by
    intro c member
    have tail : c ∈ rest.takeWhile (· ≠ '\n') → c = '\r' := by
      intro member
      rcases behind with rfl | ⟨more, rfl⟩
      · cases member
      · rcases line with rfl | rfl
        · exact List.mem_singleton.mp member
        · cases member
    rw [whole, List.takeWhile_append] at member
    split at member
    · rcases List.mem_append.mp member with inside | later
      · exact .inr inside
      · exact .inl (tail later)
    · exact .inr ((List.takeWhile_prefix _).subset member)
  have absent {c : Char} (ret : c ≠ '\r') (comma : c ≠ ',') (quote : c ≠ '"')
      (outside : ∀ cell ∈ bitwardenColumns.map String.toList, c ∉ cell) :
      (text.toList.takeWhile (· ≠ '\n')).count c = 0 := by
    rw [List.count_eq_zero]
    intro member
    rcases known c member with same | inside
    · exact ret same
    · rcases record.mem inside with same | same | ⟨cell, present, inside⟩
      · exact comma same
      · exact quote same
      · exact outside cell present inside
  have semicolons := @absent ';' (by decide) (by decide) (by decide) (by simp [bitwardenColumns])
  have tabs := @absent '\t' (by decide) (by decide) (by decide) (by simp [bitwardenColumns])
  unfold delimiterOf
  simp only [List.foldl_cons, List.foldl_nil, semicolons, tabs, Nat.not_lt_zero, if_false]
  split <;> rfl

theorem head_export {text : String} {ends : List Char} {records : List (List (List Char))}
    (spelled : Csv.Spelled ',' ends (bitwardenColumns.map String.toList :: records) text.toList) :
    text.toList.head? = some 'n' ∨ text.toList.head? = some '"' := by
  obtain ⟨first, rest, record, whole, _⟩ := spelled.split
  rw [whole]
  cases record with
  | next spelled others =>
    cases spelled with
    | bare => exact .inl rfl
    | quoted => exact .inr rfl

theorem parseVaultImport_csv [JsonDecoder] [CsvDecoder] (parses : CsvDecoder.Parses) (export' : CsvExport accounts file) :
    parseVaultImport file = if maxImportRows < accounts.length then .error .tooManyRows
      else .ok (csvRows bitwardenHeader 1 (accounts.map BitwardenAccount.cells)) := by
  obtain @⟨text, ends, rfl, line, spelled⟩ := export'
  have head := head_export spelled
  have unmarked : dropMark text = text := by
    unfold dropMark
    split
    · rename_i first
      rw [first] at head
      rcases head with head | head <;> cases head
    · rfl
  have opening : (trimLeft text).toList.head? = text.toList.head? := by
    rw [trimLeft, String.toList_ofList]
    generalize text.toList = chars at head
    rcases chars with _ | ⟨c, chars⟩
    · rfl
    · rw [List.dropWhile_cons_of_neg]
      rcases head with head | head
      all_goals
        cases Option.some.inj head
        decide
  have other : ¬((trimLeft text).toList.head? = some '\x7b' ∨ (trimLeft text).toList.head? = some '[') := by
    rw [opening]
    rcases head with head | head <;> rw [head] <;> decide
  have taken : parseVaultImport (utf8 text) = parseCsv text := by
    rw [parseVaultImport, utf8Decode, fromUtf8_utf8, Option.map_some, unmarked]
    exact if_neg other
  rw [taken, parseCsv, delimiterOf_export line spelled, convert_export parses line spelled]
  simp only [headerOf_bitwardenColumns, List.length_map]
  by_cases many : maxImportRows < accounts.length
  · rw [if_pos many, require, if_neg (by omega)]
    rfl
  · rw [if_neg many, require, if_pos (by omega)]
    rfl

end Files

section Concrete

/-- A decoder that reads what is quoted as RFC 4180 says. -/
@[reducible] def quotingDecoder : CsvDecoder where
  convert delimiter text := (Csv.read delimiter text.toList).map (List.map (List.map String.ofList))

theorem quotingDecoder_parses : @CsvDecoder.Parses quotingDecoder := by
  intro records text spelled several
  have back : List.map String.ofList ∘ List.map String.toList = id := by
    funext cells
    rw [Function.comp_apply, List.map_map, show String.ofList ∘ String.toList = id from funext fun _ =>
      String.ofList_toList, List.map_id, id]
  have read := Csv.read_spelled (by decide) (by decide) spelled fun cells member => by
    obtain ⟨record, present, rfl⟩ := List.mem_map.mp member
    rw [List.length_map]
    exact several record present
  change (Csv.read ',' text.toList).map (List.map (List.map String.ofList)) = some records
  rw [read, Option.map_some, List.map_map, back, List.map_id]

/-- The file an exporter makes of the accounts, with a carriage return in every line end. -/
def csvOf (accounts : List BitwardenAccount) : String :=
  String.ofList (Csv.write ',' ['\r', '\n'] ((bitwardenColumns :: accounts.map BitwardenAccount.record).map
    (List.map String.toList)))

theorem csvOf_export (accounts : List BitwardenAccount) : CsvExport accounts (utf8 (csvOf accounts)) := by
  refine .intro rfl (.inl rfl) ?_
  rw [csvOf, String.toList_ofList]
  refine Csv.write_spelled (List.cons_ne_nil _ _) fun cells member => ?_
  rcases List.mem_cons.mp member with rfl | member
  · exact List.cons_ne_nil _ _
  · obtain ⟨record, present, rfl⟩ := List.mem_map.mp member
    obtain ⟨account, _, rfl⟩ := List.mem_map.mp present
    cases account <;> exact List.cons_ne_nil _ _

/-- An account as an item of the JSON export. -/
def BitwardenAccount.toJson : BitwardenAccount → Json
  | login name username uri password notes =>
    .object [("type", .number 1), ("name", .string name), ("notes", .string notes), ("login", .object
      [("uris", .array [.object [("uri", .string uri)]]), ("username", .string username), ("password", .string password)])]
  | secureNote name notes => .object [("type", .number 2), ("name", .string name), ("notes", .string notes)]

/-- A decoder that knows the JSON export of the accounts when it sees it. -/
@[reducible] def knowing (text : String) (accounts : List BitwardenAccount) : JsonDecoder where
  jsonDecode other :=
    if other = text then
      some (.object [("encrypted", .bool false), ("items", .array (accounts.map BitwardenAccount.toJson))])
    else none

theorem toList_brace (rest : String) : ("\x7b" ++ rest).toList = '\x7b' :: rest.toList := by
  rw [String.toList_append]
  rfl

theorem brace_opens {text : String} {rest : List Char} (brace : text.toList = '\x7b' :: rest) :
    utf8Decode (utf8 text) = some text ∧ trimLeft text = text ∧ (trimLeft text).toList.head? = some '\x7b' := by
  have same : trimLeft text = text := by
    rw [trimLeft, brace, List.dropWhile_cons_of_neg (by decide), ← brace, String.ofList_toList]
  refine ⟨?_, same, ?_⟩
  · rw [utf8Decode, fromUtf8_utf8, Option.map_some, dropMark, brace]
    rfl
  · rw [same, brace, List.head?_cons]

theorem knowing_export {accounts : List BitwardenAccount} {text : String} {rest : List Char}
    (brace : text.toList = '\x7b' :: rest) : @JsonExport (knowing text accounts) accounts (utf8 text) := by
  obtain ⟨decoded, same, opened⟩ := brace_opens brace
  refine @JsonExport.intro (knowing text accounts) accounts _ _ _ _ decoded opened (if_pos same) rfl rfl ?_
  rw [List.forall₂_map_right_iff]
  refine List.forall₂_same.mpr fun account _ => ?_
  cases account with
  | login => exact .login rfl (.inl rfl) (.inl rfl) rfl (.inl rfl) (.inl ⟨_, _, rfl, .inl rfl⟩) (.inl rfl)
  | secureNote => exact .secureNote rfl (.inl rfl) (.inl rfl)

theorem parseVaultImport_knowing [CsvDecoder] {accounts : List BitwardenAccount} {text : String} {rest : List Char}
    (brace : text.toList = '\x7b' :: rest) : @parseVaultImport (knowing text accounts) _ (utf8 text) =
      if maxImportRows < accounts.length then .error .tooManyRows
      else .ok (jsonRows 0 (accounts.map BitwardenAccount.toJson)) := by
  obtain ⟨decoded, same, opened⟩ := brace_opens brace
  have read := @parseVaultImport_of_json (utf8 text) (knowing text accounts) _ _ _
    (accounts.map BitwardenAccount.toJson) decoded opened (if_pos same) rfl rfl
  rw [List.length_map] at read
  exact read

end Concrete

/-- A login with a note on it, a secure note, and a login without a password. -/
def ordinary : List BitwardenAccount :=
  [.login " Banco" "alice" "b.example" " hunter2 " "pin\r\n4417", .secureNote "Cofre" "31-14-15", .login "Wi-Fi" "" "" "" ""]

/-- Their JSON export, behind its first brace. -/
def ordinaryRest : String :=
  "\"encrypted\":false,\"items\":[" ++
    "\x7b\"type\":1,\"name\":\" Banco\",\"notes\":\"pin\\r\\n4417\"," ++
    "\"login\":\x7b\"uris\":[\x7b\"uri\":\"b.example\"\x7d],\"username\":\"alice\",\"password\":\" hunter2 \"\x7d\x7d," ++
    "\x7b\"type\":2,\"name\":\"Cofre\",\"notes\":\"31-14-15\"\x7d," ++
    "\x7b\"type\":1,\"name\":\"Wi-Fi\",\"notes\":\"\"," ++
    "\"login\":\x7b\"uris\":[\x7b\"uri\":\"\"\x7d],\"username\":\"\",\"password\":\"\"\x7d\x7d]\x7d"

/-- The accounts on which the importers differ: a login without a password, one with nothing but a user name, and one whose
password holds a line end. -/
def toldApart : List BitwardenAccount :=
  [.login "Wi-Fi" "" "" "" "4417", .login "" "alice" "" "" "", .login "Portal" "alice" "" "a\r\nb" ""]

/-- Their JSON export, behind its first brace. -/
def toldApartRest : String :=
  "\"encrypted\":false,\"items\":[" ++
    "\x7b\"type\":1,\"name\":\"Wi-Fi\",\"notes\":\"4417\"," ++
    "\"login\":\x7b\"uris\":[\x7b\"uri\":\"\"\x7d],\"username\":\"\",\"password\":\"\"\x7d\x7d," ++
    "\x7b\"type\":1,\"name\":\"\",\"notes\":\"\"," ++
    "\"login\":\x7b\"uris\":[\x7b\"uri\":\"\"\x7d],\"username\":\"alice\",\"password\":\"\"\x7d\x7d," ++
    "\x7b\"type\":1,\"name\":\"Portal\",\"notes\":\"\"," ++
    "\"login\":\x7b\"uris\":[\x7b\"uri\":\"\"\x7d],\"username\":\"alice\",\"password\":\"a\\r\\nb\"\x7d\x7d]\x7d"

end VaultImport

end BioAuth.Mobile
