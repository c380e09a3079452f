import Mathlib.Data.List.DropRight
import Mathlib.Data.List.Infix

namespace BioAuth.Csv

/-- What stands between the quotes of a quoted cell. -/
def doubled (cell : List Char) : List Char := cell.flatMap fun c => if c = '"' then ['"', '"'] else [c]

theorem doubled_cons (c : Char) (cell : List Char) :
    doubled (c :: cell) = (if c = '"' then ['"', '"'] else [c]) ++ doubled cell := List.flatMap_cons

section Spelled
variable {delimiter : Char} {ends : List Char}

/-- Where nothing in a cell is special, RFC 4180 lets it stand as it is. -/
def Bare (delimiter : Char) (cell : List Char) : Prop :=
  ∀ c ∈ cell, c ≠ '"' ∧ c ≠ delimiter ∧ c ≠ '\r' ∧ c ≠ '\n'

inductive CellSpelled (delimiter : Char) (cell : List Char) : List Char → Prop
  | bare (plain : Bare delimiter cell) : CellSpelled delimiter cell cell
  | quoted : CellSpelled delimiter cell ('"' :: (doubled cell ++ ['"']))

inductive RecordSpelled (delimiter : Char) : List (List Char) → List Char → Prop
  | last {cell text : List Char} (spelled : CellSpelled delimiter cell text) : RecordSpelled delimiter [cell] text
  | next {cell text : List Char} {cells : List (List Char)} {rest : List Char}
      (spelled : CellSpelled delimiter cell text) (others : RecordSpelled delimiter cells rest) :
      RecordSpelled delimiter (cell :: cells) (text ++ delimiter :: rest)

/-- The last record may go without its line end. -/
inductive Spelled (delimiter : Char) (ends : List Char) : List (List (List Char)) → List Char → Prop
  | last {cells : List (List Char)} {text : List Char} (spelled : RecordSpelled delimiter cells text) :
      Spelled delimiter ends [cells] text
  | ended {cells : List (List Char)} {text : List Char} (spelled : RecordSpelled delimiter cells text) :
      Spelled delimiter ends [cells] (text ++ ends)
  | next {cells : List (List Char)} {text : List Char} {records : List (List (List Char))} {rest : List Char}
      (spelled : RecordSpelled delimiter cells text) (others : Spelled delimiter ends records rest) :
      Spelled delimiter ends (cells :: records) (text ++ (ends ++ rest))

end Spelled

section Write
variable {delimiter : Char} {ends : List Char}

instance (delimiter : Char) (cell : List Char) : Decidable (Bare delimiter cell) :=
  inferInstanceAs (Decidable (∀ c ∈ cell, _))

/-- Quotes only where they are needed. -/
def writeCell (delimiter : Char) (cell : List Char) : List Char :=
  if Bare delimiter cell then cell else '"' :: (doubled cell ++ ['"'])

def writeRecord (delimiter : Char) : List (List Char) → List Char
  | [] => []
  | [cell] => writeCell delimiter cell
  | cell :: cells => writeCell delimiter cell ++ delimiter :: writeRecord delimiter cells

def write (delimiter : Char) (ends : List Char) : List (List (List Char)) → List Char
  | [] => []
  | [cells] => writeRecord delimiter cells ++ ends
  | cells :: records => writeRecord delimiter cells ++ (ends ++ write delimiter ends records)

theorem writeCell_spelled (cell : List Char) : CellSpelled delimiter cell (writeCell delimiter cell) := by
  unfold writeCell
  split
  · exact .bare ‹_›
  · exact .quoted

theorem writeRecord_spelled {cells : List (List Char)} (some' : cells ≠ []) :
    RecordSpelled delimiter cells (writeRecord delimiter cells) := by
  fun_induction writeRecord delimiter cells with
  | case1 => exact absurd rfl some'
  | case2 cell => exact .last (writeCell_spelled cell)
  | case3 cell cells more ih => exact .next (writeCell_spelled cell) (ih more)

theorem write_spelled {records : List (List (List Char))} (some' : records ≠ []) (each : ∀ cells ∈ records, cells ≠ []) :
    Spelled delimiter ends records (write delimiter ends records) := by
  fun_induction write delimiter ends records with
  | case1 => exact absurd rfl some'
  | case2 cells => exact .ended (writeRecord_spelled (each _ List.mem_cons_self))
  | case3 cells records more ih =>
    rw [List.forall_mem_cons] at each
    exact .next (writeRecord_spelled each.1) (ih more each.2)

end Write

/-- Where a reader is in the cell at hand. -/
inductive Place
  | start
  | bare
  | quoted
  | closing
  deriving DecidableEq

structure Reader where
  place : Place
  cell : List Char
  cells : List (List Char)
  records : List (List (List Char))

namespace Reader

def fresh : Reader := { place := .start, cell := [], cells := [], records := [] }

def push (reader : Reader) (place : Place) (c : Char) : Reader :=
  { reader with place, cell := reader.cell ++ [c] }

def nextCell (reader : Reader) : Reader :=
  { reader with place := .start, cell := [], cells := reader.cells ++ [reader.cell] }

/-- A line with nothing on it is no record. -/
def nextRecord (reader : Reader) : Reader :=
  if reader.place = .start ∧ reader.cells = [] then reader
  else { place := .start, cell := [], cells := [], records := reader.records ++ [reader.cells ++ [reader.cell]] }

/-- What follows a cell, or a character of it. -/
def plain (delimiter : Char) (reader : Reader) (c : Char) : Reader :=
  if c = delimiter then reader.nextCell
  else if c = '\n' then reader.nextRecord
  else reader.push .bare c

def step (delimiter : Char) (reader : Reader) (c : Char) : Option Reader :=
  match reader.place with
  | .start => some (if c = '"' then { reader with place := .quoted } else reader.plain delimiter c)
  | .bare => some (reader.plain delimiter c)
  | .quoted => some (if c = '"' then { reader with place := .closing } else reader.push .quoted c)
  | .closing =>
    if c = '"' then some (reader.push .quoted c)
    else if c = delimiter ∨ c = '\n' then some (reader.plain delimiter c)
    else none

def finish (reader : Reader) : Option (List (List (List Char))) :=
  if reader.place = .quoted then none else some reader.nextRecord.records

end Reader

def read (delimiter : Char) (text : List Char) : Option (List (List (List Char))) :=
  text.foldlM (Reader.step delimiter) .fresh >>= Reader.finish

section Read
variable {delimiter : Char} {cell text : List Char} {cells : List (List Char)} {records : List (List (List Char))}

theorem foldlM_doubled (reader : Reader) (inside : reader.place = .quoted) :
    (doubled cell).foldlM (Reader.step delimiter) reader = some { reader with cell := reader.cell ++ cell } := by
  induction cell generalizing reader with
  | nil =>
    rw [List.append_nil]
    rfl
  | cons c cell ih =>
    have taken : (if c = '"' then ['"', '"'] else [c]).foldlM (Reader.step delimiter) reader =
        some (reader.push .quoted c) := by
      split
      · rename_i quote
        simp [Reader.step, inside, quote, Reader.push]
      · rename_i other
        simp [Reader.step, inside, other]
    rw [doubled_cons, List.foldlM_append, taken]
    change (doubled cell).foldlM (Reader.step delimiter) (reader.push .quoted c) = _
    rw [ih _ rfl, Reader.push, List.append_assoc, List.singleton_append, inside]

theorem foldlM_bare (plain : Bare delimiter cell) (reader : Reader)
    (outside : reader.place = .start ∨ reader.place = .bare) :
    ∃ place, (place = .start ∨ place = .bare) ∧ cell.foldlM (Reader.step delimiter) reader =
      some { reader with place, cell := reader.cell ++ cell } := by
  induction cell generalizing reader with
  | nil =>
    refine ⟨reader.place, outside, ?_⟩
    rw [List.append_nil]
    rfl
  | cons c cell ih =>
    obtain ⟨quote, comma, _, feed⟩ := plain c List.mem_cons_self
    have taken : reader.step delimiter c = some (reader.push .bare c) := by
      rcases outside with at' | at' <;> simp [Reader.step, at', quote, Reader.plain, comma, feed]
    obtain ⟨place, still, run⟩ := ih (fun d member => plain d (List.mem_cons_of_mem _ member)) (reader.push .bare c)
      (.inr rfl)
    refine ⟨place, still, ?_⟩
    rw [List.foldlM_cons, taken]
    change cell.foldlM (Reader.step delimiter) (reader.push .bare c) = _
    rw [run, Reader.push, List.append_assoc, List.singleton_append]

theorem foldlM_cell (spelled : CellSpelled delimiter cell text) (reader : Reader) (start : reader.place = .start)
    (empty : reader.cell = []) :
    ∃ place, place ≠ .quoted ∧ text.foldlM (Reader.step delimiter) reader = some { reader with place, cell } := by
  cases spelled with
  | bare plain =>
    obtain ⟨place, outside, run⟩ := foldlM_bare plain reader (.inl start)
    refine ⟨place, ?_, ?_⟩
    · rcases outside with rfl | rfl <;> decide
    · rw [run, empty, List.nil_append]
  | quoted =>
    refine ⟨.closing, by decide, ?_⟩
    have opened : reader.step delimiter '"' = some { reader with place := .quoted } := by
      simp [Reader.step, start]
    rw [List.foldlM_cons, opened]
    change (doubled cell ++ ['"']).foldlM (Reader.step delimiter) { reader with place := .quoted } = _
    rw [List.foldlM_append, foldlM_doubled _ rfl, empty, List.nil_append]
    rfl

theorem step_plain {reader : Reader} {c : Char} (outside : reader.place ≠ .quoted) (quote : c ≠ '"')
    (mark : c = delimiter ∨ c = '\n') : reader.step delimiter c = some (reader.plain delimiter c) := by
  unfold Reader.step
  split
  · rw [if_neg quote]
  · rfl
  · contradiction
  · rw [if_neg quote, if_pos mark]

theorem foldlM_record (quote : delimiter ≠ '"') (spelled : RecordSpelled delimiter cells text) (reader : Reader)
    (start : reader.place = .start) (empty : reader.cell = []) :
    ∃ after, text.foldlM (Reader.step delimiter) reader = some after ∧ after.place ≠ .quoted ∧
      after.cells ++ [after.cell] = reader.cells ++ cells ∧ after.records = reader.records := by
  induction spelled generalizing reader with
  | last spelled =>
    obtain ⟨place, outside, run⟩ := foldlM_cell spelled reader start empty
    exact ⟨_, run, outside, rfl, rfl⟩
  | @next cell text cells rest spelled others ih =>
    obtain ⟨place, outside, run⟩ := foldlM_cell spelled reader start empty
    have across : Reader.step delimiter { reader with place, cell } delimiter =
        some { reader with place := .start, cell := [], cells := reader.cells ++ [cell] } := by
      rw [step_plain outside quote (.inl rfl), Reader.plain, if_pos rfl]
      rfl
    obtain ⟨after, more, ended, joined, kept⟩ :=
      ih { reader with place := .start, cell := [], cells := reader.cells ++ [cell] } rfl rfl
    refine ⟨after, ?_, ended, ?_, kept⟩
    · rw [List.foldlM_append, run]
      change (delimiter :: rest).foldlM (Reader.step delimiter) { reader with place, cell } = _
      rw [List.foldlM_cons, across]
      exact more
    · rw [joined, List.append_assoc]
      rfl

/-- A record of two cells or more is no empty line. -/
theorem nextRecord_eq {reader : Reader} (several : 2 ≤ cells.length) (joined : reader.cells ++ [reader.cell] = cells) :
    reader.nextRecord = { Reader.fresh with records := reader.records ++ [cells] } := by
  have more : ¬(reader.place = .start ∧ reader.cells = []) := by
    rintro ⟨_, none⟩
    rw [none] at joined
    rw [← joined, List.nil_append, List.length_singleton] at several
    omega
  rw [Reader.nextRecord, if_neg more, joined]
  rfl

theorem foldlM_records (quote : delimiter ≠ '"') (feed : delimiter ≠ '\n') (spelled : Spelled delimiter ['\n'] records text)
    (several : ∀ cells ∈ records, 2 ≤ cells.length) (earlier : List (List (List Char))) :
    text.foldlM (Reader.step delimiter) { Reader.fresh with records := earlier } >>= Reader.finish =
      some (earlier ++ records) := by
  have ending {cells : List (List Char)} {text : List Char} (several : 2 ≤ cells.length)
      (spelled : RecordSpelled delimiter cells text) (earlier : List (List (List Char))) :
      (text ++ ['\n']).foldlM (Reader.step delimiter) { Reader.fresh with records := earlier } =
        some { Reader.fresh with records := earlier ++ [cells] } := by
    obtain ⟨after, run, outside, joined, kept⟩ :=
      foldlM_record quote spelled { Reader.fresh with records := earlier } rfl rfl
    have turned : Reader.step delimiter after '\n' = some { Reader.fresh with records := earlier ++ [cells] } := by
      rw [step_plain outside (by decide) (.inr rfl), Reader.plain, if_neg feed.symm, if_pos rfl,
        nextRecord_eq several joined, kept]
    rw [List.foldlM_append, run]
    change ['\n'].foldlM (Reader.step delimiter) after = _
    rw [List.foldlM_cons, turned]
    rfl
  induction spelled generalizing earlier with
  | last spelled =>
    obtain ⟨after, run, outside, joined, kept⟩ :=
      foldlM_record quote spelled { Reader.fresh with records := earlier } rfl rfl
    rw [run]
    change after.finish = _
    rw [Reader.finish, if_neg outside, nextRecord_eq (several _ List.mem_cons_self) joined, kept]
  | ended spelled =>
    rw [ending (several _ List.mem_cons_self) spelled]
    rfl
  | @next cells text records rest spelled others ih =>
    rw [List.forall_mem_cons] at several
    rw [← List.append_assoc, List.foldlM_append, ending several.1 spelled]
    change rest.foldlM (Reader.step delimiter) { Reader.fresh with records := earlier ++ [cells] } >>= Reader.finish = _
    rw [ih several.2, List.append_assoc]
    rfl

/-- What is spelled is read back, where no record could be taken for an empty line. -/
theorem read_spelled (quote : delimiter ≠ '"') (feed : delimiter ≠ '\n') (spelled : Spelled delimiter ['\n'] records text)
    (several : ∀ cells ∈ records, 2 ≤ cells.length) : read delimiter text = some records :=
  foldlM_records quote feed spelled several []

end Read

section Characters
variable {delimiter c : Char} {text : List Char}

theorem CellSpelled.mem {cell : List Char} (spelled : CellSpelled delimiter cell text) (member : c ∈ text) :
    c = '"' ∨ c ∈ cell := by
  cases spelled with
  | bare plain => exact .inr member
  | quoted =>
    rcases List.mem_cons.mp member with quote | member
    · exact .inl quote
    · rcases List.mem_append.mp member with inside | last
      · obtain ⟨d, present, same⟩ := List.mem_flatMap.mp inside
        split at same
        · exact .inl (by simpa using same)
        · exact .inr (List.mem_singleton.mp same ▸ present)
      · exact .inl (List.mem_singleton.mp last)

theorem RecordSpelled.mem {cells : List (List Char)} (spelled : RecordSpelled delimiter cells text)
    (member : c ∈ text) : c = delimiter ∨ c = '"' ∨ ∃ cell ∈ cells, c ∈ cell := by
  induction spelled with
  | last spelled =>
    rcases spelled.mem member with quote | inside
    · exact .inr (.inl quote)
    · exact .inr (.inr ⟨_, List.mem_cons_self, inside⟩)
  | next spelled others ih =>
    rcases List.mem_append.mp member with first | member
    · rcases spelled.mem first with quote | inside
      · exact .inr (.inl quote)
      · exact .inr (.inr ⟨_, List.mem_cons_self, inside⟩)
    · rcases List.mem_cons.mp member with mark | later
      · exact .inl mark
      · rcases ih later with mark | quote | ⟨cell, present, inside⟩
        · exact .inl mark
        · exact .inr (.inl quote)
        · exact .inr (.inr ⟨cell, List.mem_cons_of_mem _ present, inside⟩)

/-- A file opens with its first record, and what is behind it opens with a line end. -/
theorem Spelled.split {ends : List Char} {cells : List (List Char)} {records : List (List (List Char))}
    (spelled : Spelled delimiter ends (cells :: records) text) :
    ∃ first rest, RecordSpelled delimiter cells first ∧ text = first ++ rest ∧ (rest = [] ∨ ends <+: rest) := by
  cases spelled with
  | last spelled => exact ⟨text, [], spelled, (List.append_nil text).symm, .inl rfl⟩
  | ended spelled => exact ⟨_, ends, spelled, rfl, .inr List.prefix_rfl⟩
  | next spelled others => exact ⟨_, _, spelled, rfl, .inr (List.prefix_append _ _)⟩

end Characters

/-- A line feed in place of each carriage return and line feed. -/
def lineFeeds : List Char → List Char
  | [] => []
  | '\r' :: '\n' :: rest => '\n' :: lineFeeds rest
  | c :: rest => c :: lineFeeds rest

section LineFeeds
variable {a b text : List Char}

theorem lineFeeds_cons {c : Char} (apart : c = '\r' → text.head? ≠ some '\n') :
    lineFeeds (c :: text) = c :: lineFeeds text := by
  refine lineFeeds.eq_3 c text fun rest ret feed => ?_
  rw [feed] at apart
  exact apart ret rfl

theorem lineFeeds_append (apart : a.getLast? = some '\r' → b.head? ≠ some '\n') :
    lineFeeds (a ++ b) = lineFeeds a ++ lineFeeds b := by
  fun_induction lineFeeds a with
  | case1 => rfl
  | case2 rest ih =>
    have later : rest.getLast? = some '\r' → b.head? ≠ some '\n' := by
      intro last
      apply apart
      rw [List.getLast?_cons, List.getLast?_cons, last]
      rfl
    rw [List.cons_append, List.cons_append, lineFeeds, ih later, List.cons_append]
  | case3 c rest other ih =>
    have later : rest.getLast? = some '\r' → b.head? ≠ some '\n' := by
      intro last
      apply apart
      rw [List.getLast?_cons, last]
      rfl
    have within : c = '\r' → (rest ++ b).head? ≠ some '\n' := by
      rintro rfl
      cases rest with
      | nil => exact apart rfl
      | cons d rest => exact fun same => other rest rfl (by rw [Option.some.inj same])
    rw [List.cons_append, lineFeeds_cons within, ih later, List.cons_append]

theorem lineFeeds_eq_self (unbroken : ¬['\r', '\n'] <:+: text) : lineFeeds text = text := by
  fun_induction lineFeeds text with
  | case1 => rfl
  | case2 rest ih => exact absurd ⟨[], rest, rfl⟩ unbroken
  | case3 c rest other ih =>
    rw [ih fun broken => unbroken (broken.trans (List.suffix_cons c rest).isInfix)]

theorem lineFeeds_doubled (cell : List Char) : lineFeeds (doubled cell) = doubled (lineFeeds cell) := by
  fun_induction lineFeeds cell with
  | case1 => rfl
  | case2 rest ih =>
    rw [doubled_cons, doubled_cons, if_neg (by decide), if_neg (by decide), doubled_cons, if_neg (by decide)]
    rw [List.cons_append, List.cons_append, List.nil_append, List.nil_append, lineFeeds, ih]
    rfl
  | case3 c rest other ih =>
    rw [doubled_cons, doubled_cons, ← ih]
    split
    · rw [List.cons_append, List.cons_append, List.nil_append, lineFeeds_cons (absurd · (by decide)),
        lineFeeds_cons (absurd · (by decide))]
      rfl
    · refine lineFeeds_cons fun ret feed => ?_
      cases rest with
      | nil => cases feed
      | cons d rest =>
        rw [doubled_cons] at feed
        split at feed
        · cases feed
        · exact other rest ret (by rw [Option.some.inj feed])

theorem lineFeeds_bare {delimiter : Char} (plain : Bare delimiter text) : lineFeeds text = text := by
  refine lineFeeds_eq_self ?_
  rintro ⟨before, after, rfl⟩
  exact (plain '\r' (by simp)).2.2.1 rfl

/-- No cell and no record ends in a carriage return of its own. -/
theorem CellSpelled.lineFeeds {delimiter : Char} {cell : List Char} (spelled : CellSpelled delimiter cell text) :
    CellSpelled delimiter (lineFeeds cell) (lineFeeds text) ∧ text.getLast? ≠ some '\r' := by
  cases spelled with
  | bare plain =>
    rw [lineFeeds_bare plain]
    exact ⟨.bare plain, fun last => (plain '\r' (List.mem_of_getLast? last)).2.2.1 rfl⟩
  | quoted =>
    refine ⟨?_, ?_⟩
    · rw [lineFeeds_cons (absurd · (by decide)), lineFeeds_append fun _ => by decide, lineFeeds_doubled]
      exact .quoted
    · rw [← List.cons_append, List.getLast?_concat]
      decide

theorem RecordSpelled.lineFeeds {delimiter : Char} (ret : delimiter ≠ '\r')
    {cells : List (List Char)} (spelled : RecordSpelled delimiter cells text) :
    RecordSpelled delimiter (cells.map Csv.lineFeeds) (lineFeeds text) ∧ text.getLast? ≠ some '\r' := by
  induction spelled with
  | last spelled => exact ⟨.last spelled.lineFeeds.1, spelled.lineFeeds.2⟩
  | @next cell text cells rest spelled others ih =>
    refine ⟨?_, ?_⟩
    · rw [lineFeeds_append fun last => absurd last spelled.lineFeeds.2, lineFeeds_cons (absurd · ret)]
      exact .next spelled.lineFeeds.1 ih.1
    · rw [List.getLast?_append, List.getLast?_cons]
      cases final : rest.getLast? with
      | none => simpa using ret
      | some c =>
        rw [final] at ih
        exact ih.2

/-- A file keeps its records when its line ends become line feeds, and so do the line ends inside its cells. -/
theorem Spelled.lineFeeds {delimiter : Char} (ret : delimiter ≠ '\r') {ends : List Char}
    (line : ends = ['\r', '\n'] ∨ ends = ['\n']) {records : List (List (List Char))}
    (spelled : Spelled delimiter ends records text) :
    Spelled delimiter ['\n'] (records.map (List.map Csv.lineFeeds)) (lineFeeds text) := by
  have ended {text : List Char} (last : text.getLast? ≠ some '\r') (rest : List Char) :
      Csv.lineFeeds (text ++ (ends ++ rest)) = Csv.lineFeeds text ++ (['\n'] ++ Csv.lineFeeds rest) := by
    rw [lineFeeds_append fun same => absurd same last]
    rcases line with rfl | rfl
    · rfl
    · rw [List.singleton_append, List.singleton_append, lineFeeds_cons (absurd · (by decide))]
  induction spelled with
  | last spelled => exact .last (spelled.lineFeeds ret).1
  | ended spelled =>
    obtain ⟨record, last⟩ := spelled.lineFeeds ret
    have whole := ended last []
    rw [List.append_nil] at whole
    rw [whole]
    exact .ended record
  | next spelled others ih =>
    obtain ⟨record, last⟩ := spelled.lineFeeds ret
    rw [ended last]
    exact .next record ih

section Trim
variable {p : Char → Bool}

theorem all_lineFeeds (ret : p '\r' = true) : (lineFeeds text).all p = text.all p := by
  fun_induction lineFeeds text with
  | case1 => rfl
  | case2 rest ih => rw [List.all_cons, List.all_cons, List.all_cons, ih, ret, Bool.true_and]
  | case3 c rest other ih => rw [List.all_cons, List.all_cons, ih]

theorem dropWhile_lineFeeds (ret : p '\r' = true) (feed : p '\n' = true) :
    (lineFeeds text).dropWhile p = lineFeeds (text.dropWhile p) := by
  fun_induction lineFeeds text with
  | case1 => rfl
  | case2 rest ih =>
    rw [List.dropWhile_cons_of_pos feed, List.dropWhile_cons_of_pos ret, List.dropWhile_cons_of_pos feed, ih]
  | case3 c rest other ih =>
    by_cases passed : p c = true
    · rw [List.dropWhile_cons_of_pos passed, List.dropWhile_cons_of_pos passed, ih]
    · rw [List.dropWhile_cons_of_neg passed, List.dropWhile_cons_of_neg passed, lineFeeds_cons]
      rintro rfl
      exact absurd ret passed

theorem lineFeeds_concat (c : Char) : lineFeeds (text ++ [c]) = lineFeeds text ++ [c] ∨
    c = '\n' ∧ ∃ before, text = before ++ ['\r'] ∧ lineFeeds (text ++ [c]) = lineFeeds before ++ ['\n'] ∧
      lineFeeds text = lineFeeds before ++ ['\r'] := by
  by_cases split : text.getLast? = some '\r' ∧ c = '\n'
  · obtain ⟨last, rfl⟩ := split
    obtain ⟨before, rfl⟩ := List.getLast?_eq_some_iff.mp last
    refine .inr ⟨rfl, before, rfl, ?_, lineFeeds_append fun _ => by decide⟩
    rw [List.append_assoc, lineFeeds_append fun _ => by decide]
    rfl
  · left
    have apart : text.getLast? = some '\r' → [c].head? ≠ some '\n' := fun last feed =>
      split ⟨last, Option.some.inj feed⟩
    rw [lineFeeds_append apart, lineFeeds_cons fun _ => by decide]
    rfl

theorem rdropWhile_lineFeeds (ret : p '\r' = true) (feed : p '\n' = true) :
    (lineFeeds text).rdropWhile p = lineFeeds (text.rdropWhile p) := by
  induction text using List.reverseRecOn with
  | nil => rfl
  | append_singleton text c ih =>
    by_cases passed : p c = true
    · rw [List.rdropWhile_concat_pos _ _ _ passed, ← ih]
      rcases @lineFeeds_concat text c with same | ⟨rfl, before, _, joined, split⟩
      · rw [same, List.rdropWhile_concat_pos _ _ _ passed]
      · rw [joined, split, List.rdropWhile_concat_pos _ _ _ feed, List.rdropWhile_concat_pos _ _ _ ret]
    · rw [List.rdropWhile_concat_neg _ _ _ passed]
      rcases @lineFeeds_concat text c with same | ⟨rfl, _⟩
      · rw [same, List.rdropWhile_concat_neg _ _ _ passed]
      · exact absurd feed passed

end Trim

end LineFeeds

end BioAuth.Csv
