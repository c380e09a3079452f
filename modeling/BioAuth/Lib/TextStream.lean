import BioAuth.Lib.Text
import Mathlib.Data.List.Basic

namespace BioAuth.TextStream
open BioAuth

/-- How many octets the character has that an octet begins. An octet that is a character of its own, or belongs to none,
begins nothing. -/
def asks (octet : UInt8) : Nat :=
  if octet < 0xC0 then 0
  else if octet < 0xE0 then 2
  else if octet < 0xF0 then 3
  else if octet < 0xF8 then 4
  else 0

def continues (octet : UInt8) : Bool := 0x80 ≤ octet && octet < 0xC0

def replacement : Char := '\uFFFD'

/-- Some character begins with these octets, as far as the second of them tells. -/
def begins : Bytes → Bool
  | [] => false
  | [lead] => 0xC2 ≤ lead && lead ≤ 0xF4
  | lead :: second :: _ =>
    0xC2 ≤ lead && lead ≤ 0xF4 &&
      (if lead = 0xE0 then 0xA0 else if lead = 0xF0 then 0x90 else 0x80) ≤ second &&
      second ≤ (if lead = 0xED then 0x9F else if lead = 0xF4 then 0x8F else 0xBF)

/-- The text of an octet that begins a character and of those that continue it. One replacement character stands for as
much as the beginning of a character, and one for each octet that is no part of any. -/
def decodePiece : Bytes → List Char
  | [] => []
  | lead :: others =>
    match fromUtf8 (lead :: others) with
    | some text => text.toList
    | none => if begins (lead :: others) then [replacement] else List.replicate (others.length + 1) replacement

def single (octet : UInt8) : List Char :=
  if octet < 0x80 then [Char.ofNat octet.toNat] else if asks octet = 0 then [replacement] else []

/-- One octet behind those that are held back, the text it completes, and what is then held back. -/
def feed (held : Bytes) (octet : UInt8) : List Char × Bytes :=
  if continues octet then
    match held with
    | [] => ([replacement], [])
    | lead :: _ =>
      if held.length + 1 < asks lead then ([], held ++ [octet]) else (decodePiece (held ++ [octet]), [])
  else (decodePiece held ++ single octet, if asks octet = 0 then [] else [octet])

/-- The text of a chunk. A character that the chunk leaves unfinished is held back. -/
def write (held : Bytes) : Bytes → List Char × Bytes
  | [] => ([], held)
  | octet :: chunk =>
    let (text, held) := feed held octet
    let (more, held) := write held chunk
    (text ++ more, held)

theorem write_cons (held : Bytes) (octet : UInt8) (chunk : Bytes) : write held (octet :: chunk) =
    ((feed held octet).1 ++ (write (feed held octet).2 chunk).1, (write (feed held octet).2 chunk).2) := rfl

/-- It does not matter where a stream of octets is cut. -/
theorem write_append (held first second : Bytes) : write held (first ++ second) =
    ((write held first).1 ++ (write (write held first).2 second).1, (write (write held first).2 second).2) := by
  induction first generalizing held with
  | nil => rfl
  | cons octet first ih =>
    rw [List.cons_append, write_cons, ih]
    simp only [write_cons, List.append_assoc]

/-- The first line, without the newline that ends it, and what is behind. -/
def takeLine : List Char → Option (List Char × List Char)
  | [] => none
  | c :: text => if c = '\n' then some ([], text) else (takeLine text).map fun (line, rest) => (c :: line, rest)

/-- The lines that have ended, and what is behind the last of them. -/
def lines : List Char → List (List Char) × List Char
  | [] => ([], [])
  | c :: text =>
    if c = '\n' then ([] :: (lines text).1, (lines text).2)
    else
      match lines text with
      | ([], rest) => ([], c :: rest)
      | (line :: ended, rest) => ((c :: line) :: ended, rest)

/-- Lines with the newlines that end them. -/
def joined (ended : List (List Char)) : List Char := ended.flatMap fun line => line ++ ['\n']

theorem joined_concat (ended : List (List Char)) (line : List Char) :
    joined (ended ++ [line]) = joined ended ++ line ++ ['\n'] := by
  simp [joined]

theorem takeLine_eq_none {text : List Char} : takeLine text = none ↔ '\n' ∉ text := by
  induction text with
  | nil => simp [takeLine]
  | cons c text ih =>
    rw [takeLine]
    split
    · rename_i newline
      simp [newline]
    · rename_i other
      simp [ih, Ne.symm other]

theorem takeLine_eq_some {text line rest : List Char} (taken : takeLine text = some (line, rest)) :
    text = line ++ '\n' :: rest ∧ '\n' ∉ line := by
  induction text generalizing line with
  | nil => cases taken
  | cons c text ih =>
    rw [takeLine] at taken
    split at taken
    · rename_i newline
      cases taken
      exact ⟨congrArg (· :: _) newline, List.not_mem_nil⟩
    · rename_i other
      obtain ⟨⟨shorter, behind⟩, first, same⟩ := Option.map_eq_some_iff.mp taken
      cases same
      obtain ⟨split, inside⟩ := ih first
      exact ⟨congrArg (c :: ·) split, by simp [inside, Ne.symm other]⟩

theorem lines_plain {text : List Char} (plain : '\n' ∉ text) : lines text = ([], text) := by
  induction text with
  | nil => rfl
  | cons c text ih =>
    obtain ⟨other, rest⟩ := not_or.mp (mt List.mem_cons.mpr plain)
    rw [lines, ih rest]
    exact if_neg (Ne.symm other)

theorem lines_line {line : List Char} (plain : '\n' ∉ line) (text : List Char) :
    lines (line ++ '\n' :: text) = (line :: (lines text).1, (lines text).2) := by
  induction line with
  | nil => rw [List.nil_append, lines, if_pos rfl]
  | cons c line ih =>
    obtain ⟨other, rest⟩ := not_or.mp (mt List.mem_cons.mpr plain)
    rw [List.cons_append, lines, ih rest]
    exact if_neg (Ne.symm other)

/-- Lines are found again in front of what is behind them. -/
theorem lines_joined {ended : List (List Char)} (plain : ∀ line ∈ ended, '\n' ∉ line) (rest : List Char) :
    lines (joined ended ++ rest) = (ended ++ (lines rest).1, (lines rest).2) := by
  induction ended with
  | nil => rfl
  | cons line ended ih =>
    have same : joined (line :: ended) ++ rest = line ++ '\n' :: (joined ended ++ rest) := by simp [joined]
    rw [same, lines_line (plain line List.mem_cons_self), ih fun line member => plain line (List.mem_cons_of_mem _ member)]
    rfl

end BioAuth.TextStream
