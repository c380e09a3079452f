import BioAuth.Mobile.Base32
import BioAuth.Mobile.DecodersDeclare
import BioAuth.Mobile.VaultExport

namespace BioAuth.Mobile
open BioAuth
open Casing (toUpperCase)

namespace VaultExportKey

/-- `_codePrefix`. -/
def codePrefix : String := "BAV1"

/-- `_codeGroup`. -/
def codeGroup : Nat := 4

/-- A code as far as it has been written, and how many characters of its body that are. -/
abbrev Written := List Char × Nat

def push (out : Written) (index : Nat) : Written :=
  let code := if out.2 % codeGroup = 0 then out.1 ++ ['-'] else out.1
  (code ++ [Base32.glyph index], out.2 + 1)

/-- `BAV1-` followed by base32 in groups of four. -/
def format (key : Block 32) : String := String.ofList (Base32.write push key.val (codePrefix.toList, 0)).1

/-- What is left of a code without spaces, dashes and underscores. -/
def cleaned [Casing] (code : String) : String :=
  toUpperCase (String.ofList (code.toList.filter fun c => ¬(spacing c = true ∨ c = '-' ∨ c = '_')))

/-- Reads a code back. There is no checksum. -/
def parse [Casing] (code : String) : Except BackupThrown (Block 32) := do
  require (codePrefix.toList <+: (cleaned code).toList) (.problem .notABackupCode)
  let body := (cleaned code).toList.drop codePrefix.toList.length
  let (_, _, out) ← body.foldlM (Base32.read (.problem .codeHasInvalidCharacter)) (0, 0, [])
  if length : out.length = 32 then return ⟨out, length⟩ else throw (.problem .codeIncomplete)

/-- What cleaning keeps of a code as it was written: the prefix and a letter for each digit. -/
theorem filter_written {digits : List Nat} (small : ∀ digit ∈ digits, digit < 32) :
    (digits.foldl push (codePrefix.toList, 0)).1.filter (fun c => ¬(spacing c = true ∨ c = '-' ∨ c = '_')) =
      codePrefix.toList ++ digits.map Base32.glyph := by
  have letters : ∀ c ∈ base32Alphabet, decide (¬(spacing c = true ∨ c = '-' ∨ c = '_')) = true := by decide
  induction digits using List.reverseRecOn with
  | nil => decide
  | append_singleton digits digit ih =>
    rw [List.forall_mem_append] at small
    have before := ih small.1
    have letter := letters _ (Base32.glyphs digit (small.2 digit (List.mem_singleton_self _))).1
    rw [List.foldl_append, List.foldl_cons, List.foldl_nil, List.map_append, ← List.append_assoc, ← before]
    unfold push
    dsimp only
    split <;> simp [List.filter_append] at letter ⊢ <;> simp [letter]

/-- A code is read back as the key it was written for. -/
theorem parse_format [Casing] (key : Block 32) : parse (format key) = .ok key := by
  obtain ⟨digits, written, small, -, spells⟩ := Base32.write_spells push (codePrefix.toList, 0) key.val
  have ascii : ∀ c ∈ codePrefix.toList ++ digits.map Base32.glyph, c.val.toNat < 0x80 ∧ c.toUpper = c := by
    have front : ∀ c ∈ codePrefix.toList, c.val.toNat < 0x80 ∧ c.toUpper = c := by decide
    have letters : ∀ c ∈ base32Alphabet, c.val.toNat < 0x80 ∧ c.toUpper = c := by decide
    rw [List.forall_mem_append]
    exact ⟨front, fun c member => letters c (spells.known c member)⟩
  have clean : cleaned (format key) = String.ofList (codePrefix.toList ++ digits.map Base32.glyph) := by
    have upper : (codePrefix.toList ++ digits.map Base32.glyph).map Char.toUpper =
        codePrefix.toList ++ digits.map Base32.glyph :=
      (List.map_congr_left fun c member => (ascii c member).2).trans (List.map_id' _)
    rw [cleaned, format, written, String.toList_ofList, filter_written small, Casing.upper_ascii, String.toList_ofList,
      upper]
    intro c member
    rw [String.toList_ofList] at member
    exact (ascii c member).1
  obtain ⟨accumulator, bits, out, run, also⟩ :=
    Base32.read_known (.problem .codeHasInvalidCharacter : BackupThrown) spells.known
  obtain rfl := spells.unique also
  have chars : (cleaned (format key)).toList = codePrefix.toList ++ digits.map Base32.glyph := by
    rw [clean, String.toList_ofList]
  unfold parse
  simp only [chars, List.drop_left, List.prefix_append, require, if_true, run, except_bind_eq_ok]
  exact ⟨(), rfl, _, rfl, dif_pos key.property⟩

end VaultExportKey

namespace VaultExport

section Renaming
variable {σ ε ε' α β : Type} {rename : ε → ε'}

theorem mapError_bind (x : Fallible σ ε α) (f : α → Fallible σ ε β) :
    (x >>= f).mapError rename = x.mapError rename >>= fun a => (f a).mapError rename := by
  funext s
  rw [Fallible.mapError, Fallible.bind_run, Fallible.bind_run, Fallible.mapError]
  rcases x s with ⟨_ | a, t⟩ <;> rfl

theorem mapError_require (check : Prop) [Decidable check] (e : ε) :
    (require check e : Fallible σ ε Unit).mapError rename = require check (rename e) := by
  funext s
  unfold require
  split <;> rfl

theorem mapError_times (x : Fallible σ ε α) (count : Nat) :
    (Fallible.times x count).mapError rename = Fallible.times (x.mapError rename) count := by
  induction count with
  | zero => rfl
  | succ count ih =>
    rw [Fallible.times, Fallible.times, mapError_bind]
    congr 1
    funext a
    rw [mapError_bind, ih]
    rfl

end Renaming

/-- What is thrown, as the phone's decoders see it: what a handler of the reader's exceptions catches, and what is thrown
as a problem of the backup, is refused. -/
def seen : BackupThrown → Thrown
  | .problem _ => cborException ""
  | .other (.refusal (.formatException _)) => .rangeError
  | .other thrown => thrown

/-- A call of the reader throws no format exception. -/
def Unformatted {α : Type} (call : Fallible CborReader Thrown α) : Prop :=
  ∀ reader, Escapes Cbor call reader → Escapes Refused call reader

theorem seen_reading {α : Type} {call : Fallible CborReader Thrown α} (plain : Unformatted call) :
    (reading call).mapError seen = call := by
  funext reader
  have same : (reading call).mapError seen reader = ((call reader).1.mapError (seen ∘ .other), (call reader).2) := by
    rw [reading, Fallible.mapError_run, Fallible.mapError_run]
    rcases call reader with ⟨_ | _, _⟩ <;> rfl
  rw [same]
  rcases run : call reader with ⟨e | a, after⟩
  · by_cases known : Cbor e
    · obtain ⟨message, rfl⟩ := known
      rfl
    · obtain ⟨other, later, again, strange⟩ := plain reader ⟨e, after, run, known⟩
      rw [run] at again
      cases again
      cases e with
      | refusal refusal => exact absurd ⟨refusal, rfl⟩ strange
      | rangeError => rfl
      | argumentError => rfl
  · rfl

theorem array_unformatted : Unformatted CborReader.array :=
  fun reader escapes => absurd escapes (CborReader.not_escapes_array cbor_declared reader)

theorem uint_unformatted : Unformatted CborReader.uint :=
  fun reader escapes => absurd escapes (CborReader.not_escapes_uint cbor_declared reader)

theorem int64_unformatted : Unformatted CborReader.int64 :=
  fun reader escapes => absurd escapes (CborReader.not_escapes_int64 cbor_declared reader)

theorem finish_unformatted : Unformatted CborReader.finish :=
  fun reader escapes => absurd escapes (CborReader.not_escapes_finish cbor_declared reader)

theorem bytes_unformatted : Unformatted CborReader.bytes :=
  fun _ escapes => (CborReader.bytes_escapes refused_declared).mpr ((CborReader.bytes_escapes cbor_declared).mp escapes)

theorem text_unformatted : Unformatted CborReader.text :=
  fun _ escapes => (CborReader.text_escapes refused_declared).mpr ((CborReader.text_escapes cbor_declared).mp escapes)

/-- A call that returns or throws a `VaultExportException`. -/
def FailsClosed {α : Type} (result : Except BackupThrown α) : Prop :=
  ∀ e, result = .error e → ∃ problem, e = .problem problem

theorem onCbor_error {α : Type} (problem : BackupProblem) (e : BackupThrown) :
    FailsClosed (onCbor problem (.error e : Except BackupThrown α)) ↔ Refused (seen e) := by
  have kept {thrown : Thrown} (escapes : ¬Refused thrown) (same : seen (.other thrown) = thrown)
      (run : onCbor problem (.error (.other thrown) : Except BackupThrown α) = .error (.other thrown)) :
      FailsClosed (onCbor problem (.error (.other thrown) : Except BackupThrown α)) ↔ Refused (seen (.other thrown)) := by
    rw [same]
    exact iff_of_false (fun closed => nomatch closed _ run) escapes
  rcases e with q | (m | m) | _ | _
  · exact iff_of_true (fun _ same => ⟨q, (Except.error.inj same).symm⟩) ⟨_, rfl⟩
  · exact iff_of_true (fun _ same => ⟨problem, (Except.error.inj same).symm⟩) ⟨_, rfl⟩
  · exact iff_of_false (fun closed => nomatch closed _ rfl) fun ⟨_, same⟩ => nomatch same
  · exact kept (fun ⟨_, same⟩ => nomatch same) rfl rfl
  · exact kept (fun ⟨_, same⟩ => nomatch same) rfl rfl

/-- The handler leaves what is not the reader's exception. -/
theorem onCbor_failsClosed {α : Type} {call : Fallible CborReader BackupThrown α} {problem : BackupProblem}
    (reader : CborReader) :
    FailsClosed (onCbor problem (call reader).1) ↔ ¬Escapes Refused (call.mapError seen) reader := by
  unfold Escapes
  rw [Fallible.mapError_run]
  rcases call reader with ⟨e | a, after⟩
  · rw [onCbor_error]
    constructor
    · intro refused ⟨_, _, run, undeclared⟩
      cases run
      exact undeclared refused
    · intro declared
      by_contra escapes
      exact declared ⟨_, _, rfl, escapes⟩
  · exact iff_of_true (fun _ thrown => nomatch thrown) fun ⟨_, _, run, _⟩ => nomatch run

section Layouts

/-- What a file is read as. -/
def fileLayout : Layout := [.item (.number majorArray (· = 2)), .item .bytes, .item .bytes]

/-- What a header is read as, up to the check of its numbers. -/
def headerLayout : Layout :=
  [.item (.number majorArray (· = 5)), .item (.number majorUint (· = vaultExportSchema)), .item .bytes, .item .bytes,
    .item .int, .item (.number majorUint fun _ => True)]

/-- What a payload is read as: items of five fields, the first of which names a kind. -/
def itemsLayout : Layout :=
  [.counted maxExportItems [.number majorArray (· = 5), .number majorUint fun kind => ∃ known, kindOf kind = .ok known,
    .text fun _ => True, .text fun _ => True, .text fun _ => True, .text fun _ => True]]

theorem Follows.every {α β : Type} {item : Item} {layout : Layout} {read : Fallible CborReader Thrown α}
    {f : α → Fallible CborReader Thrown β} (first : item.ReadBy read fun _ => True) (next : ∀ a, Follows (f a) layout) :
    Follows (read >>= f) (.item item :: layout) :=
  .item first (fun a _ => next a) fun _ rejected => absurd trivial rejected

theorem readSplit_follows : Follows (readSplit.mapError seen) fileLayout := by
  unfold readSplit fileLayout
  simp only [mapError_bind, mapError_require, seen_reading array_unformatted, seen_reading bytes_unformatted,
    seen_reading finish_unformatted]
  refine .checked (Item.number_readBy (by decide) _) fun _ _ => ?_
  refine Follows.every Item.bytes_readBy fun header => Follows.every Item.bytes_readBy fun sealed => ?_
  exact .done (Safe.finish.bind fun _ => .pure (header, sealed))

/-- The fields of a header, before its numbers are looked at. -/
def readFields : Fallible CborReader BackupThrown (Int64 × Int64 × Int64) := do
  require ((← reading CborReader.array) = 5) (.problem .badHeader)
  let schema ← reading CborReader.uint
  require (schema = vaultExportSchema) (.problem .schemaTooNew)
  let _ ← reading CborReader.bytes
  let _ ← reading CborReader.bytes
  let createdAtMs ← reading CborReader.int64
  let itemCount ← reading CborReader.uint
  reading CborReader.finish
  return (schema, createdAtMs, itemCount)

/-- The look at the numbers of a header. -/
def describe (fields : Int64 × Int64 × Int64) : Fallible CborReader BackupThrown VaultExportHeader := do
  require (fields.2.2.toInt ≤ maxExportItems) (.problem .backupTooLarge)
  let createdAt ← liftM ((DateTime.fromMillisecondsSinceEpoch fields.2.1).mapError BackupThrown.other)
  return { schema := fields.1, createdAt, itemCount := fields.2.2 }

theorem readHeader_eq : readHeader = readFields >>= describe := by
  unfold readHeader readFields
  simp only [Fallible.bind_assoc]
  rfl

theorem readFields_follows : Follows (readFields.mapError seen) headerLayout := by
  unfold readFields headerLayout
  simp only [mapError_bind, mapError_require, seen_reading array_unformatted, seen_reading bytes_unformatted,
    seen_reading uint_unformatted, seen_reading int64_unformatted, seen_reading finish_unformatted]
  refine .checked (Item.number_readBy (by decide) _) fun _ _ => ?_
  refine .checked (Item.number_readBy (by decide) _) fun schema _ => ?_
  refine Follows.every Item.bytes_readBy fun _ => Follows.every Item.bytes_readBy fun _ => ?_
  refine Follows.every Item.int_readBy fun ms => Follows.every (Item.number_readBy (by decide) _) fun count => ?_
  exact .done (Safe.finish.bind fun _ => .pure (schema, ms, count))

theorem readItem_reading : Reading (readItem.mapError seen)
    ([.number majorArray (· = 5), .number majorUint fun kind => ∃ known, kindOf kind = .ok known, .text fun _ => True,
      .text fun _ => True, .text fun _ => True, .text fun _ => True].map Entry.item) := by
  unfold readItem
  simp only [mapError_bind, mapError_require, seen_reading array_unformatted, seen_reading uint_unformatted,
    seen_reading text_unformatted]
  refine .checked (Item.number_readBy (by decide) _) fun _ _ => .item (Item.number_readBy (by decide) _) ?_ ?_
  · intro kind ⟨known, same⟩
    rw [same]
    refine .text fun name => .text fun username => .text fun uri => .text fun secret => ?_
    exact .pure (VaultExportItem.mk known name username uri secret)
  · intro kind rejected
    have refused : kindOf kind = .error (.problem .unknownItemKind) := by
      unfold kindOf at rejected ⊢
      split_ifs at rejected ⊢ <;> simp_all
    rw [refused]
    exact fun reader => ⟨_, reader, rfl⟩

theorem readItems_follows : Follows (readItems.mapError seen) itemsLayout := by
  unfold readItems itemsLayout
  simp only [mapError_bind, mapError_require, mapError_times, seen_reading array_unformatted,
    seen_reading finish_unformatted]
  have most : maxExportItems < 2 ^ 63 := by decide
  have counted := @Reading.counted _ _ [] _ most _ _ (.cborException "") _ readItem_reading fun items => Reading.pure items
  have whole := counted.goesOn (fun items => CborReader.finish >>= fun _ => Pure.pure items) []
    fun items => .done (Safe.finish.bind fun _ => .pure items)
  simp only [Fallible.bind_assoc] at whole
  exact whole

end Layouts

section Spelled

/-- What a file spells. -/
def fileOf (header sealed : Bytes) : Bytes := Writer.array 2 ++ (Writer.bytes header ++ (Writer.bytes sealed ++ []))

/-- What a header spells. -/
def headerOf (salt nonce : Bytes) (ms : Int64) (count : UInt64) : Bytes :=
  Writer.array 5 ++ (Writer.uint 1 ++ (Writer.bytes salt ++ (Writer.bytes nonce ++ (Writer.int ms ++
    (Writer.uint count ++ [])))))

theorem ofNat_small {v : UInt64} {n : Nat} (small : n < 2 ^ 63) (signed : v.toNat < 2 ^ 63) :
    Int64.ofNat v.toNat = Int64.ofNat n ↔ v.toNat = n := by
  constructor
  · intro same
    have ints := congrArg Int64.toInt same
    rw [Int64.toInt_ofNat_of_lt signed, Int64.toInt_ofNat_of_lt small] at ints
    omega
  · intro same
    rw [same]

theorem onCbor_eq_ok {α : Type} {problem : BackupProblem} {result : Except BackupThrown α} {a : α} :
    onCbor problem result = .ok a ↔ result = .ok a := except_mapError_eq_ok

theorem reading_eq_ok {α : Type} {call : Fallible CborReader Thrown α} {a : α} {reader after : CborReader} :
    reading call reader = (.ok a, after) ↔ call reader = (.ok a, after) := Fallible.mapError_eq_ok

theorem ofBytes_self (input : Uint8List) : Uint8List.ofBytes input.octets = input := by
  obtain ⟨octets, fits⟩ := input
  rw [Uint8List.mk.injEq]
  have short : octets.length < 2 ^ 62 := fits
  exact Uint8List.ofBytes_octets short

theorem array_yields {v : UInt64} (signed : v.toNat < 2 ^ 63) :
    Yields (reading CborReader.array) (Writer.array v) (Int64.ofNat v.toNat) := .of_meets (.array v) ⟨signed, rfl⟩

theorem uint_yields {v : UInt64} (signed : v.toNat < 2 ^ 63) :
    Yields (reading CborReader.uint) (Writer.uint v) (Int64.ofNat v.toNat) := .of_meets (.uint v) ⟨signed, rfl⟩

theorem bytes_yields (value : Bytes) : Yields (reading CborReader.bytes) (Writer.bytes value) value :=
  .of_meets (.bytes value) rfl

theorem split_eq_ok {file : Uint8List} {header sealed : Bytes} :
    split file.octets = .ok (header, sealed) ↔ file.octets = fileOf header sealed := by
  rw [split, onCbor_eq_ok]
  constructor
  · intro run
    obtain ⟨last, result⟩ : ∃ last, readSplit (.of (.ofBytes file.octets)) = (.ok (header, sealed), last) :=
      ⟨_, Fallible.run_of_fst run⟩
    unfold readSplit at result
    simp only [Fallible.bind_eq_ok, reading_eq_ok, Fallible.require_eq_ok, Fallible.pure_eq_ok, CborReader.array_eq_ok,
      CborReader.bytes_eq_ok, CborReader.finish_eq_ok, Prod.mk.injEq] at result
    obtain ⟨_, _, ⟨v, signed, rfl, first⟩, _, _, ⟨two, rfl⟩, _, _, second, _, _, third, _, _, ⟨empty, rfl⟩,
      ⟨rfl, rfl⟩, -⟩ := result
    have pair : v = 2 := UInt64.toNat_inj.mp ((ofNat_small (n := 2) (by decide) signed).mp two)
    have front := first.rest
    rw [ofBytes_self, pair, second.rest, third.rest, empty] at front
    exact front
  · intro spelled
    have finishes : Finishes readSplit (fileOf header sealed) (header, sealed) :=
      .bind (array_yields (by decide)) (.require rfl (.bind (bytes_yields header) (.bind (bytes_yields sealed)
        (.finish fun _ => rfl))))
    rw [← List.append_nil (fileOf header sealed)] at finishes
    have fits := file.fits
    rw [spelled] at fits ⊢
    exact finishes.whole fits

/-- The fields of a header that spells them, and of no other. -/
theorem readFields_eq_ok {header : Uint8List} {schema ms count : Int64} :
    (readFields (.of header)).1 = .ok (schema, ms, count) ↔
      ∃ salt nonce v, v.toNat < 2 ^ 63 ∧ header.octets = headerOf salt nonce ms v ∧ schema = vaultExportSchema ∧
        count = Int64.ofNat v.toNat := by
  constructor
  · intro run
    obtain ⟨last, result⟩ : ∃ last, readFields (.of header) = (.ok (schema, ms, count), last) :=
      ⟨_, Fallible.run_of_fst run⟩
    unfold readFields at result
    simp only [Fallible.bind_eq_ok, reading_eq_ok, Fallible.require_eq_ok, Fallible.pure_eq_ok, CborReader.array_eq_ok,
      CborReader.uint_eq_ok, CborReader.int64_eq_ok, CborReader.bytes_eq_ok, CborReader.finish_eq_ok,
      Prod.mk.injEq] at result
    obtain ⟨_, _, ⟨v, signed, rfl, first⟩, _, _, ⟨five, rfl⟩, _, _, ⟨w, small, rfl, second⟩, _, _, ⟨one, rfl⟩,
      salt, _, third, nonce, _, fourth, _, _, fifth, _, _, ⟨n, counted, rfl, sixth⟩, _, _, ⟨empty, rfl⟩,
      ⟨rfl, rfl, rfl⟩, -⟩ := result
    have fields : v = 5 := UInt64.toNat_inj.mp ((ofNat_small (n := 5) (by decide) signed).mp five)
    have version : w = 1 := UInt64.toNat_inj.mp ((ofNat_small (n := 1) (by decide) small).mp one)
    have front := first.rest
    rw [fields, second.rest, version, third.rest, fourth.rest, fifth.rest, sixth.rest, empty] at front
    exact ⟨salt, nonce, n, counted, front, one, rfl⟩
  · rintro ⟨salt, nonce, v, counted, spelled, rfl, rfl⟩
    have finishes : Finishes readFields (headerOf salt nonce ms v) (vaultExportSchema, ms, Int64.ofNat v.toNat) :=
      .bind (array_yields (by decide)) (.require rfl (.bind (uint_yields (by decide)) (.require rfl
        (.bind (bytes_yields salt) (.bind (bytes_yields nonce) (.bind (.of_meets (.int ms) rfl)
          (.bind (uint_yields counted) (.finish fun _ => rfl))))))))
    rw [← List.append_nil (headerOf salt nonce ms v)] at finishes
    have fits := header.fits
    rw [spelled] at fits
    have whole := finishes.whole fits
    rwa [← spelled, ofBytes_self] at whole

end Spelled

section Closed

/-- A header in order but for its date, which no `DateTime` reaches. -/
def Untimely (header : Bytes) : Prop :=
  ∃ salt nonce ms, ∃ count : UInt64, header = headerOf salt nonce ms count ∧ count.toNat ≤ maxExportItems ∧
    ¬DateTime.Reaches ms

/-- A file, or the header of one, that announces a string past the largest integer, or whose date is out of range. -/
def Unread (file : Bytes) : Prop :=
  Trips fileLayout 0 file ∨
    ∃ header sealed, file = fileOf header sealed ∧ (Trips headerLayout 0 header ∨ Untimely header)

/-- A file in order whose payload announces a text past the largest integer. -/
def Unopened [Crypto] (key : Block 32) (file : Bytes) : Prop :=
  ∃ salt nonce ms sealed plaintext, ∃ count : UInt64, file = fileOf (headerOf salt nonce ms count) sealed ∧
    count.toNat ≤ maxExportItems ∧ DateTime.Reaches ms ∧ 16 ≤ sealed.length ∧
    decrypt key salt nonce (headerOf salt nonce ms count) sealed = some plaintext ∧
    Trips itemsLayout 0 (Uint8List.ofBytes plaintext).octets

section Results
variable {α β : Type}

theorem failsClosed_ok (a : α) : FailsClosed (.ok a : Except BackupThrown α) := fun _ thrown => nomatch thrown

theorem failsClosed_bind {x : Except BackupThrown α} {f : α → Except BackupThrown β} :
    FailsClosed (x >>= f) ↔ FailsClosed x ∧ ∀ a, x = .ok a → FailsClosed (f a) := by
  cases x with
  | error e => exact iff_of_eq (by simp [FailsClosed, Bind.bind, Except.bind])
  | ok a =>
    refine ⟨fun closed => ⟨failsClosed_ok a, fun b same => ?_⟩, fun both => both.2 a rfl⟩
    cases same
    exact closed

theorem failsClosed_require {check : Prop} [Decidable check] (problem : BackupProblem) :
    FailsClosed (require check (BackupThrown.problem problem)) := by
  intro e thrown
  unfold require at thrown
  split at thrown
  · cases thrown
  · cases thrown
    exact ⟨problem, rfl⟩

theorem failsClosed_okOr (problem : BackupProblem) (result : Option α) :
    FailsClosed (okOr (.problem problem) result) := by
  cases result with
  | none => exact fun _ thrown => ⟨problem, (Except.error.inj thrown).symm⟩
  | some a => exact failsClosed_ok a

end Results

theorem reaches_iff {ms : Int64} : DateTime.Reaches ms ↔ ∃ time, DateTime.fromMillisecondsSinceEpoch ms = .ok time := by
  constructor
  · intro reaches
    exact ⟨_, dif_pos reaches⟩
  · rintro ⟨time, dated⟩
    exact DateTime.fromMillisecondsSinceEpoch_eq_ok.mp dated ▸ time.within

theorem describe_escapes {fields : Int64 × Int64 × Int64} {reader : CborReader} :
    Escapes Refused ((describe fields).mapError seen) reader ↔
      fields.2.2.toInt ≤ maxExportItems ∧ ¬DateTime.Reaches fields.2.1 := by
  unfold describe
  rw [mapError_bind, mapError_require, escapes_bind]
  by_cases few : fields.2.2.toInt ≤ maxExportItems
  · by_cases reaches : DateTime.Reaches fields.2.1
    · obtain ⟨time, dated⟩ := reaches_iff.mp reaches
      rw [require, if_pos few, dated]
      refine iff_of_false ?_ fun both => both.2 reaches
      rintro (⟨_, _, run, _⟩ | ⟨_, _, _, _, _, run, _⟩)
      · cases run
      · cases run
    · have thrown : DateTime.fromMillisecondsSinceEpoch fields.2.1 = .error .argumentError := dif_neg reaches
      rw [require, if_pos few, thrown]
      exact iff_of_true (Or.inr ⟨(), reader, rfl, .argumentError, reader, rfl, fun ⟨_, same⟩ => nomatch same⟩) ⟨few, reaches⟩
  · rw [require, if_neg few]
    refine iff_of_false ?_ fun both => few both.1
    rintro (⟨_, _, run, undeclared⟩ | ⟨_, _, run, _⟩)
    · cases run
      exact undeclared ⟨_, rfl⟩
    · cases run

theorem decodeHeader_failsClosed (header : Uint8List) :
    FailsClosed (decodeHeader header.octets) ↔
      ¬(Trips headerLayout 0 header.octets ∨ Untimely header.octets) := by
  have most : maxExportItems = 4096 := rfl
  rw [decodeHeader, ofBytes_self, onCbor_failsClosed, readHeader_eq, mapError_bind, escapes_bind]
  refine not_congr (or_congr (readFields_follows (.of header)) ⟨?_, ?_⟩)
  · rintro ⟨⟨schema, ms, number⟩, last, run, escapes⟩
    have result := congrArg Prod.fst (Fallible.mapError_eq_ok.mp run)
    obtain ⟨salt, nonce, count, signed, spelled, rfl, rfl⟩ := readFields_eq_ok.mp result
    obtain ⟨few, late⟩ := describe_escapes.mp escapes
    rw [Int64.toInt_ofNat_of_lt signed] at few
    exact ⟨salt, nonce, ms, count, spelled, by omega, late⟩
  · rintro ⟨salt, nonce, ms, count, spelled, few, late⟩
    have signed : count.toNat < 2 ^ 63 := by omega
    have result := readFields_eq_ok.mpr ⟨salt, nonce, count, signed, spelled, rfl, rfl⟩
    refine ⟨_, _, Fallible.mapError_eq_ok.mpr (Fallible.run_of_fst result), describe_escapes.mpr ⟨?_, late⟩⟩
    dsimp only
    rw [Int64.toInt_ofNat_of_lt signed]
    omega

theorem describe_eq_ok {fields : Int64 × Int64 × Int64} {described : VaultExportHeader} {reader after : CborReader} :
    describe fields reader = (.ok described, after) ↔
      fields.2.2.toInt ≤ maxExportItems ∧ described.createdAt.millisecondsSinceEpoch = fields.2.1 ∧
        described.schema = fields.1 ∧ described.itemCount = fields.2.2 ∧ reader = after := by
  unfold describe
  simp only [Fallible.require_bind_eq_ok, Fallible.liftM_bind_eq_ok, except_mapError_eq_ok,
    DateTime.fromMillisecondsSinceEpoch_eq_ok, Fallible.pure_eq_ok]
  constructor
  · rintro ⟨few, time, dated, rfl, same⟩
    exact ⟨few, dated, rfl, rfl, same⟩
  · rintro ⟨few, dated, schema, count, same⟩
    refine ⟨few, described.createdAt, dated, ?_, same⟩
    rw [← schema, ← count]

/-- A header that is read is in order, and says what it spells. -/
theorem decodeHeader_eq_ok (header : Uint8List) {described : VaultExportHeader} :
    decodeHeader header.octets = .ok described ↔
      ∃ salt nonce, ∃ count : UInt64, header.octets = headerOf salt nonce described.createdAt.millisecondsSinceEpoch count ∧
        count.toNat ≤ maxExportItems ∧ described.schema = vaultExportSchema ∧
        described.itemCount = Int64.ofNat count.toNat := by
  have most : maxExportItems = 4096 := rfl
  rw [decodeHeader, ofBytes_self, onCbor_eq_ok, readHeader_eq]
  constructor
  · intro run
    obtain ⟨⟨schema, ms, number⟩, mid, fields, later⟩ := Fallible.bind_eq_ok.mp (Fallible.run_of_fst run)
    obtain ⟨salt, nonce, count, signed, spelled, rfl, rfl⟩ := readFields_eq_ok.mp (congrArg Prod.fst fields)
    obtain ⟨few, dated, schema, number, -⟩ := describe_eq_ok.mp later
    dsimp only at few dated
    rw [Int64.toInt_ofNat_of_lt signed] at few
    exact ⟨salt, nonce, count, by rw [dated]; exact spelled, by omega, schema, number⟩
  · rintro ⟨salt, nonce, count, spelled, few, schema, number⟩
    have signed : count.toNat < 2 ^ 63 := by omega
    have result := Fallible.run_of_fst (readFields_eq_ok.mpr ⟨salt, nonce, count, signed, spelled, rfl, rfl⟩)
    have few' : (Int64.ofNat count.toNat).toInt ≤ maxExportItems := by
      rw [Int64.toInt_ofNat_of_lt signed]
      omega
    have ended : (readFields >>= describe) (.of header) = (.ok described, (readFields (.of header)).2) :=
      Fallible.bind_eq_ok.mpr ⟨_, _, result, describe_eq_ok.mpr ⟨few', rfl, schema, number, rfl⟩⟩
    rw [ended]

theorem readKeying_spelled (header : Uint8List) {salt nonce : Bytes} {ms : Int64} {count : UInt64}
    (spelled : header.octets = headerOf salt nonce ms count) :
    (readKeying (.of (.ofBytes header.octets))).1 = .ok (salt, nonce) := by
  have yields : Yields readKeying (Writer.array 5 ++ (Writer.uint 1 ++ (Writer.bytes salt ++ (Writer.bytes nonce ++ []))))
      (salt, nonce) :=
    .bind (array_yields (by decide)) (.bind (uint_yields (by decide)) (.bind (bytes_yields salt)
      (.bind (bytes_yields nonce) (.pure _))))
  have front : (CborReader.of header).rest = (Writer.array 5 ++ (Writer.uint 1 ++ (Writer.bytes salt ++
      (Writer.bytes nonce ++ [])))) ++ (Writer.int ms ++ (Writer.uint count ++ [])) := by
    refine spelled.trans ?_
    simp only [headerOf, List.append_assoc, List.append_nil]
  rw [ofBytes_self]
  exact congrArg Prod.fst (yields.run (CborReader.past_of_front front))

/-- The header of a file is in memory. -/
theorem fileOf_short {file : Uint8List} {header sealed : Bytes} (spelled : file.octets = fileOf header sealed) :
    header.length < 2 ^ 62 := by
  have fits := file.fits
  rw [spelled] at fits
  simp only [fileOf, Writer.bytes, List.length_append] at fits
  omega

theorem split_failsClosed (file : Uint8List) : FailsClosed (split file.octets) ↔ ¬Trips fileLayout 0 file.octets := by
  rw [split, ofBytes_self, onCbor_failsClosed, readSplit_follows]
  rfl

/-- A file that is taken apart is in order that far. -/
theorem unread_of_split {file : Uint8List} {header sealed : Bytes} (run : split file.octets = .ok (header, sealed)) :
    ¬FailsClosed (decodeHeader header) ↔ Unread file.octets := by
  have spelled := split_eq_ok.mp run
  have closed : FailsClosed (split file.octets) := by
    rw [run]
    exact failsClosed_ok _
  rw [decodeHeader_failsClosed ⟨header, fileOf_short spelled⟩, not_not, Unread,
    or_iff_right ((split_failsClosed file).mp closed)]
  constructor
  · intro bad
    exact ⟨header, sealed, spelled, bad⟩
  · rintro ⟨other, others, same, bad⟩
    have pair := split_eq_ok.mpr same
    rw [run] at pair
    cases pair
    exact bad

theorem inspectVaultExport_eq (file : Bytes) :
    inspectVaultExport file = split file >>= fun parts => decodeHeader parts.1 := rfl

theorem inspectVaultExport_failsClosed (file : Uint8List) :
    FailsClosed (inspectVaultExport file.octets) ↔ ¬Unread file.octets := by
  rw [inspectVaultExport_eq, failsClosed_bind, split_failsClosed]
  constructor
  · rintro ⟨whole, next⟩ bad
    rcases id bad with trips | ⟨header, sealed, spelled, -⟩
    · exact whole trips
    · have run := split_eq_ok.mpr spelled
      exact (unread_of_split run).mpr bad (next (header, sealed) run)
  · intro read
    refine ⟨fun trips => read (Or.inl trips), fun ⟨header, sealed⟩ run => ?_⟩
    by_contra open'
    exact read ((unread_of_split run).mp open')

theorem decodeItems_failsClosed (payload : Bytes) :
    FailsClosed (decodeItems payload) ↔ ¬Trips itemsLayout 0 (Uint8List.ofBytes payload).octets := by
  rw [decodeItems, onCbor_failsClosed, readItems_follows]
  rfl

/-- What is done with a file once its header has been read. -/
def openSealed [Crypto] (header sealed : Bytes) (key : Block 32) (described : VaultExportHeader) :
    Except BackupThrown (List VaultExportItem) := do
  require (16 ≤ sealed.length) (.problem .fileTruncated)
  let (salt, nonce) ← (readKeying (.of (.ofBytes header))).1
  let plaintext ← okOr (.problem .wrongCodeOrEdited) (decrypt key salt nonce header sealed)
  let items ← decodeItems plaintext
  require ((items.length : Int) = described.itemCount.toInt) (.problem .contradictsItself)
  return items

theorem openVaultExport_eq [Crypto] (file : Bytes) (key : Block 32) :
    openVaultExport file key = split file >>= fun parts => decodeHeader parts.1 >>= openSealed parts.1 parts.2 key := rfl

theorem openSealed_failsClosed [Crypto] (header : Uint8List) {sealed salt nonce : Bytes} {ms : Int64} {count : UInt64}
    (key : Block 32) (described : VaultExportHeader) (spelled : header.octets = headerOf salt nonce ms count) :
    FailsClosed (openSealed header.octets sealed key described) ↔
      ¬(16 ≤ sealed.length ∧ ∃ plaintext, decrypt key salt nonce header.octets sealed = some plaintext ∧
        Trips itemsLayout 0 (Uint8List.ofBytes plaintext).octets) := by
  have keying := readKeying_spelled header spelled
  rw [openSealed, failsClosed_bind, and_iff_right (failsClosed_require _)]
  constructor
  · rintro closed ⟨tagged, plaintext, opened, trips⟩
    have later := closed () (except_require_eq_ok.mpr tagged)
    rw [keying] at later
    have keyed := (failsClosed_bind.mp later).2 (salt, nonce) rfl
    have payload := (failsClosed_bind.mp keyed).2 plaintext (okOr_eq_ok.mpr opened)
    exact (decodeItems_failsClosed plaintext).mp (failsClosed_bind.mp payload).1 trips
  · intro safe _ tagged
    rw [keying]
    refine failsClosed_bind.mpr ⟨failsClosed_ok (salt, nonce), fun _ same => ?_⟩
    cases same
    refine failsClosed_bind.mpr ⟨failsClosed_okOr _ _, fun plaintext opened => ?_⟩
    refine failsClosed_bind.mpr ⟨(decodeItems_failsClosed plaintext).mpr fun trips => ?_, fun items _ => ?_⟩
    · exact safe ⟨except_require_eq_ok.mp tagged, plaintext, okOr_eq_ok.mp opened, trips⟩
    · exact failsClosed_bind.mpr ⟨failsClosed_require _, fun _ _ => failsClosed_ok items⟩

theorem openVaultExport_failsClosed [Crypto] (file : Uint8List) (key : Block 32) :
    FailsClosed (openVaultExport file.octets key) ↔ ¬(Unread file.octets ∨ Unopened key file.octets) := by
  rw [openVaultExport_eq, failsClosed_bind, split_failsClosed]
  constructor
  · rintro ⟨whole, next⟩ (bad | ⟨salt, nonce, ms, sealed, plaintext, count, spelled, few, reaches, tagged, opened, trips⟩)
    · rcases id bad with trips | ⟨header, sealed, spelled, -⟩
      · exact whole trips
      · have run := split_eq_ok.mpr spelled
        exact (unread_of_split run).mpr bad (failsClosed_bind.mp (next (header, sealed) run)).1
    · have run := split_eq_ok.mpr spelled
      let header : Uint8List := ⟨headerOf salt nonce ms count, fileOf_short spelled⟩
      let described : VaultExportHeader := ⟨vaultExportSchema, ⟨ms, reaches⟩, Int64.ofNat count.toNat⟩
      have read : decodeHeader header.octets = .ok described :=
        (decodeHeader_eq_ok header).mpr ⟨salt, nonce, count, rfl, few, rfl, rfl⟩
      have later := (failsClosed_bind.mp (next (headerOf salt nonce ms count, sealed) run)).2 described read
      exact (openSealed_failsClosed header key described rfl).mp later ⟨tagged, plaintext, opened, trips⟩
  · intro safe
    refine ⟨fun trips => safe (Or.inl (Or.inl trips)), fun ⟨header, sealed⟩ run => failsClosed_bind.mpr ⟨?_, ?_⟩⟩
    · by_contra open'
      exact safe (Or.inl ((unread_of_split run).mp open'))
    · intro described read
      have spelled := split_eq_ok.mp run
      obtain ⟨salt, nonce, count, same, few, -, -⟩ :=
        (decodeHeader_eq_ok ⟨header, fileOf_short spelled⟩).mp read
      dsimp only at same
      subst same
      refine (openSealed_failsClosed ⟨_, fileOf_short spelled⟩ key described rfl).mpr ?_
      rintro ⟨tagged, plaintext, opened, trips⟩
      exact safe (Or.inr ⟨salt, nonce, _, sealed, plaintext, count, spelled, few, described.createdAt.within, tagged, opened,
        trips⟩)

end Closed

end VaultExport

end BioAuth.Mobile
