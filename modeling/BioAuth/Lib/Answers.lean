import BioAuth.Lib.Table

namespace BioAuth

/-- Why a question is answered. What a session abandons it may have asked elsewhere. -/
inductive Cause (ρ : Type)
  | approved (question : ρ)
  | denied (question : ρ)
  | abandoned (question : Option ρ)
  | dismissed

/-- What an onlooker notes of the questions. -/
inductive Note (ρ : Type)
  | raised (question : ρ)
  | waits (question : ρ) (completer : Nat)
  | refused (question : ρ)
  | completed (completer : Nat) (answer : Bool) (cause : Cause ρ)

/-- Questions that wait for an answer, each under an id that whoever asks has chosen. -/
structure Answers (ρ : Type) where
  pending : Table String (ρ × Nat)
  completers : Nat
  log : List (Note ρ)

namespace Answers
variable {ρ κ : Type}

def none : Answers ρ := ⟨.empty, 0, []⟩

def note (notes : List (Note ρ)) (answers : Answers ρ) : Answers ρ := { answers with log := answers.log ++ notes }

/-- Ask, unless a question is pending under the id. That one may answer for this one too, which may be put on screen again. -/
def ask (id : String) (shares : ρ → Bool) (again : Bool) (question : ρ) (answers : Answers ρ) : Answers ρ :=
  match answers.pending.get? id with
  | some (pending, completer) =>
    if shares pending then
      answers.note ((if again then [.raised question] else []) ++ [.waits question completer])
    else answers.note [.refused question]
  | Option.none => {
      pending := answers.pending.insert id (question, answers.completers)
      completers := answers.completers + 1
      log := answers.log ++ [.raised question, .waits question answers.completers]
    }

def answer (id : String) (value : Bool) (cause : Cause ρ) (answers : Answers ρ) : Answers ρ :=
  match answers.pending.get? id with
  | some (_, completer) =>
    { answers with
      pending := answers.pending.remove id
      log := answers.log ++ [.completed completer value cause] }
  | Option.none => answers

/-- Refuse all that is pending. -/
def dismiss (answers : Answers ρ) : Answers ρ :=
  (answers.pending.entries.map Prod.fst).foldl (fun answers id => answers.answer id false .dismissed) answers

end Answers

def Note.completer {ρ : Type} : Note ρ → Option Nat
  | .completed completer _ _ => some completer
  | _ => Option.none

namespace Answers
variable {ρ κ : Type} (content : ρ → κ)

/-- What holds of a log in which an answer covers what was asked. -/
structure Orderly (log : List (Note ρ)) : Prop where
  approved : ∀ question completer cause, .waits question completer ∈ log → .completed completer true cause ∈ log →
    ∃ tapped raised before later, cause = .approved tapped ∧ log = before ++ .completed completer true cause :: later ∧
      .raised raised ∈ before ∧ .waits question completer ∈ before ∧ content raised = content question ∧
        content tapped = content question
  alike : ∀ first second completer, .waits first completer ∈ log → .waits second completer ∈ log →
    content first = content second
  once : (log.filterMap Note.completer).Nodup
  abandoned : ∀ question completer value owner, .waits question completer ∈ log →
    .completed completer value (.abandoned owner) ∈ log →
      value = false ∧ ∃ own, owner = some own ∧ content own = content question

/-- What holds of the questions that are pending. -/
structure Held (answers : Answers ρ) : Prop where
  orderly : Orderly content answers.log
  below : ∀ id question completer, (id, (question, completer)) ∈ answers.pending.entries → completer < answers.completers
  noted : ∀ question completer, .waits question completer ∈ answers.log → completer < answers.completers
  told : ∀ completer value cause, .completed completer value cause ∈ answers.log → completer < answers.completers
  apart : ∀ id other question known completer, (id, (question, completer)) ∈ answers.pending.entries →
    (other, (known, completer)) ∈ answers.pending.entries → id = other
  unanswered : ∀ id question completer, (id, (question, completer)) ∈ answers.pending.entries → ∀ value cause,
    .completed completer value cause ∉ answers.log
  shared : ∀ id question completer, (id, (question, completer)) ∈ answers.pending.entries → ∀ waiting,
    .waits waiting completer ∈ answers.log → content waiting = content question
  raised : ∀ id question completer, (id, (question, completer)) ∈ answers.pending.entries → .raised question ∈ answers.log

section Steps
variable {content} {log : List (Note ρ)}

theorem mem_concat {note last : Note ρ} (member : note ∈ log ++ [last]) : note ∈ log ∨ note = last :=
  (List.mem_append.mp member).imp id List.mem_singleton.mp

/-- A note that nobody waits by and that answers nothing. -/
theorem Orderly.plain (orderly : Orderly content log) {note : Note ρ} (waits : ∀ question completer, note ≠ .waits question completer)
    (completed : ∀ completer value cause, note ≠ .completed completer value cause) : Orderly content (log ++ [note]) where
  approved := by
    intro question completer cause waiting done
    have was := (mem_concat waiting).resolve_right fun same => waits _ _ same.symm
    have already := (mem_concat done).resolve_right fun same => completed _ _ _ same.symm
    obtain ⟨tapped, raised, before, later, by_tap, split, facts⟩ := orderly.approved question completer cause was already
    refine ⟨tapped, raised, before, later ++ [note], by_tap, ?_, facts⟩
    rw [split, List.append_assoc]
    rfl
  alike := by
    intro first second completer one other
    exact orderly.alike first second completer ((mem_concat one).resolve_right fun same => waits _ _ same.symm)
      ((mem_concat other).resolve_right fun same => waits _ _ same.symm)
  once := by
    have nothing : note.completer = Option.none := by
      cases note with
      | completed completer value cause => exact absurd rfl (completed completer value cause)
      | _ => rfl
    rw [List.filterMap_append, List.filterMap_cons_none nothing]
    exact (List.append_nil _).symm ▸ orderly.once
  abandoned := by
    intro question completer value owner waiting done
    exact orderly.abandoned question completer value owner
      ((mem_concat waiting).resolve_right fun same => waits _ _ same.symm)
      ((mem_concat done).resolve_right fun same => completed _ _ _ same.symm)

/-- One more waits for an answer that has not been given. -/
theorem Orderly.waits (orderly : Orderly content log) {question : ρ} {completer : Nat}
    (unanswered : ∀ value cause, .completed completer value cause ∉ log)
    (same : ∀ other, .waits other completer ∈ log → content other = content question) :
    Orderly content (log ++ [.waits question completer]) where
  approved := by
    intro asked answered cause waiting done
    have already := (mem_concat done).resolve_right nofun
    rcases mem_concat waiting with was | new
    · obtain ⟨tapped, raised, before, later, by_tap, split, facts⟩ := orderly.approved asked answered cause was already
      refine ⟨tapped, raised, before, later ++ [.waits question completer], by_tap, ?_, facts⟩
      rw [split, List.append_assoc]
      rfl
    · cases new
      exact absurd already (unanswered _ _)
  alike := by
    intro first second other one two
    rcases mem_concat one with was | new
    · rcases mem_concat two with also | last
      · exact orderly.alike first second other was also
      · cases last
        exact same first was
    · cases new
      rcases mem_concat two with also | last
      · exact (same second also).symm
      · cases last
        rfl
  once := by
    rw [List.filterMap_append]
    exact (List.append_nil _).symm ▸ orderly.once
  abandoned := by
    intro asked answered value owner waiting done
    have already := (mem_concat done).resolve_right nofun
    rcases mem_concat waiting with was | new
    · exact orderly.abandoned asked answered value owner was already
    · cases new
      exact absurd already (unanswered _ _)

/-- Why a pending question may be answered so. -/
structure Covers (content : ρ → κ) (value : Bool) (cause : Cause ρ) (question : ρ) : Prop where
  approved : value = true → ∃ tapped, cause = .approved tapped ∧ content tapped = content question
  abandoned : ∀ owner, cause = .abandoned owner → value = false ∧ ∃ own, owner = some own ∧ content own = content question

/-- An answer to what is pending. -/
theorem Orderly.completed (orderly : Orderly content log) {question : ρ} {completer : Nat} {value : Bool} {cause : Cause ρ}
    (unanswered : ∀ value cause, .completed completer value cause ∉ log) (raised : .raised question ∈ log)
    (same : ∀ waiting, .waits waiting completer ∈ log → content waiting = content question)
    (covers : Covers content value cause question) : Orderly content (log ++ [.completed completer value cause]) where
  approved := by
    intro asked answered why waiting done
    have was := (mem_concat waiting).resolve_right nofun
    rcases mem_concat done with already | new
    · obtain ⟨tapped, shown, before, later, by_tap, split, facts⟩ := orderly.approved asked answered why was already
      refine ⟨tapped, shown, before, later ++ [.completed completer value cause], by_tap, ?_, facts⟩
      rw [split, List.append_assoc]
      rfl
    · cases new
      obtain ⟨tapped, by_tap, alike⟩ := covers.approved rfl
      have asks := same asked was
      exact ⟨tapped, question, log, [], by_tap, rfl, raised, was, asks.symm, alike.trans asks.symm⟩
  alike := by
    intro first second other one two
    exact orderly.alike first second other ((mem_concat one).resolve_right nofun) ((mem_concat two).resolve_right nofun)
  once := by
    rw [List.filterMap_append]
    refine List.nodup_append.mpr ⟨orderly.once, List.nodup_singleton completer, ?_⟩
    intro one member other last equal
    cases List.mem_singleton.mp last
    subst equal
    obtain ⟨note, noted, told⟩ := List.mem_filterMap.mp member
    cases note with
    | completed known answer why =>
      cases told
      exact unanswered _ _ noted
    | _ => cases told
  abandoned := by
    intro asked answered told owner waiting done
    have was := (mem_concat waiting).resolve_right nofun
    rcases mem_concat done with already | new
    · exact orderly.abandoned asked answered told owner was already
    · cases new
      obtain ⟨refused, own, held, alike⟩ := covers.abandoned owner rfl
      exact ⟨refused, own, held, alike.trans (same asked was).symm⟩

variable {answers : Answers ρ}

theorem held_none : Held content (none : Answers ρ) where
  orderly := ⟨fun _ _ _ never => (nomatch never), fun _ _ _ never => (nomatch never), List.nodup_nil,
    fun _ _ _ _ never => nomatch never⟩
  below _ _ _ never := nomatch never
  noted _ _ never := nomatch never
  told _ _ _ never := nomatch never
  apart _ _ _ _ _ never := nomatch never
  unanswered _ _ _ never := nomatch never
  shared _ _ _ never := nomatch never
  raised _ _ _ never := nomatch never

/-- A note that nobody waits by and that answers nothing. -/
theorem Held.plain (held : Held content answers) {note : Note ρ} (waits : ∀ question completer, note ≠ .waits question completer)
    (completed : ∀ completer value cause, note ≠ .completed completer value cause) : Held content (answers.note [note]) where
  orderly := held.orderly.plain waits completed
  below := held.below
  noted question completer member :=
    held.noted question completer ((mem_concat member).resolve_right fun same => waits _ _ same.symm)
  told completer value cause member :=
    held.told completer value cause ((mem_concat member).resolve_right fun same => completed _ _ _ same.symm)
  apart := held.apart
  unanswered id question completer pending value cause member :=
    held.unanswered id question completer pending value cause
      ((mem_concat member).resolve_right fun same => completed _ _ _ same.symm)
  shared id question completer pending waiting member :=
    held.shared id question completer pending waiting ((mem_concat member).resolve_right fun same => waits _ _ same.symm)
  raised id question completer pending := List.mem_append_left _ (held.raised id question completer pending)

/-- One more waits for the answer to what is pending. -/
theorem Held.joins (held : Held content answers) {id : String} {pending question : ρ} {completer : Nat}
    (here : (id, (pending, completer)) ∈ answers.pending.entries) (same : content pending = content question) :
    Held content (answers.note [.waits question completer]) where
  orderly := by
    refine held.orderly.waits (held.unanswered id pending completer here) fun other waiting => ?_
    exact (held.shared id pending completer here other waiting).trans same
  below := held.below
  noted asked known member := by
    rcases mem_concat member with was | new
    · exact held.noted asked known was
    · cases new
      exact held.below id pending completer here
  told known value cause member := held.told known value cause ((mem_concat member).resolve_right nofun)
  apart := held.apart
  unanswered other asked known there value cause member :=
    held.unanswered other asked known there value cause ((mem_concat member).resolve_right nofun)
  shared other asked known there waiting member := by
    rcases mem_concat member with was | new
    · exact held.shared other asked known there waiting was
    · cases new
      cases held.apart other id asked pending completer there here
      cases Table.unique there here
      exact same.symm
  raised other asked known there := List.mem_append_left _ (held.raised other asked known there)

/-- What is asked under a free id is put on screen and waits. -/
theorem Held.opens (held : Held content answers) (id : String) (question : ρ) :
    Held content {
      pending := answers.pending.insert id (question, answers.completers)
      completers := answers.completers + 1
      log := answers.log ++ [.raised question, .waits question answers.completers] } := by
  have shown : Held content (answers.note [.raised question]) := held.plain nofun nofun
  have unanswered : ∀ value cause, .completed answers.completers value cause ∉ (answers.note [.raised question]).log :=
    fun value cause member => Nat.lt_irrefl _ (shown.told _ value cause member)
  have nobody : ∀ other, .waits other answers.completers ∈ (answers.note [.raised question]).log →
      content other = content question := fun other member => absurd (shown.noted other _ member) (Nat.lt_irrefl _)
  have orderly := shown.orderly.waits unanswered nobody
  have same : answers.log ++ [.raised question, .waits question answers.completers] =
      (answers.note [.raised question]).log ++ [.waits question answers.completers] := List.append_cons _ _ _
  rw [same]
  refine ⟨orderly, ?_, ?_, ?_, ?_, ?_, ?_, ?_⟩
  · intro other asked completer member
    rcases Table.mem_insert.mp member with new | ⟨old, _⟩
    · cases new
      exact Nat.lt_succ_self _
    · exact Nat.lt_succ_of_lt (held.below other asked completer old)
  · intro asked completer member
    rcases mem_concat member with was | new
    · exact Nat.lt_succ_of_lt (shown.noted asked completer was)
    · cases new
      exact Nat.lt_succ_self _
  · intro completer value cause member
    exact Nat.lt_succ_of_lt (shown.told completer value cause ((mem_concat member).resolve_right nofun))
  · intro first second asked known completer here there
    rcases Table.mem_insert.mp here with new | ⟨old, _⟩
    · cases new
      rcases Table.mem_insert.mp there with last | ⟨other, _⟩
      · cases last
        rfl
      · exact absurd (held.below _ _ _ other) (Nat.lt_irrefl _)
    · rcases Table.mem_insert.mp there with last | ⟨other, _⟩
      · cases last
        exact absurd (held.below _ _ _ old) (Nat.lt_irrefl _)
      · exact held.apart first second asked known completer old other
  · intro other asked completer here value cause member
    have already := (mem_concat member).resolve_right nofun
    rcases Table.mem_insert.mp here with new | ⟨old, _⟩
    · cases new
      exact unanswered value cause already
    · exact shown.unanswered other asked completer old value cause already
  · intro other asked completer here waiting member
    rcases Table.mem_insert.mp here with new | ⟨old, _⟩
    · cases new
      rcases mem_concat member with was | last
      · exact nobody waiting was
      · cases last
        rfl
    · rcases mem_concat member with was | last
      · exact shown.shared other asked completer old waiting was
      · cases last
        exact absurd (held.below _ _ _ old) (Nat.lt_irrefl _)
  · intro other asked completer here
    rcases Table.mem_insert.mp here with new | ⟨old, _⟩
    · cases new
      exact List.mem_append_left _ (List.mem_append_right _ (List.mem_singleton_self _))
    · exact List.mem_append_left _ (shown.raised other asked completer old)

/-- A question shares the answer to a pending one with the same content only. -/
theorem Held.ask (held : Held content answers) {id : String} {shares : ρ → Bool} {again : Bool} {question : ρ}
    (alike : ∀ pending completer, answers.pending.get? id = some (pending, completer) → shares pending = true →
      content pending = content question) : Held content (answers.ask id shares again question) := by
  unfold Answers.ask
  split
  · rename_i pending completer found
    have here := Table.get?_eq_some.mp found
    split
    · rename_i shared
      have same := alike pending completer found shared
      cases again with
      | true =>
        have shown : Held content (answers.note [.raised question]) := held.plain nofun nofun
        have joined := shown.joins here same
        rw [note, note, List.append_assoc] at joined
        exact joined
      | false => exact held.joins here same
    · exact held.plain nofun nofun
  · exact held.opens id question

/-- What is pending is answered. -/
theorem Held.answer (held : Held content answers) {id : String} {value : Bool} {cause : Cause ρ}
    (covers : ∀ pending completer, answers.pending.get? id = some (pending, completer) → Covers content value cause pending) :
    Held content (answers.answer id value cause) := by
  unfold Answers.answer
  split
  · rename_i pending completer found
    have here := Table.get?_eq_some.mp found
    have left {other : String} {asked : ρ} {known : Nat}
        (member : (other, (asked, known)) ∈ (answers.pending.remove id).entries) :
        (other, (asked, known)) ∈ answers.pending.entries ∧ other ≠ id := Table.mem_remove.mp member
    refine ⟨?_, ?_, ?_, ?_, ?_, ?_, ?_, ?_⟩
    · exact held.orderly.completed (held.unanswered id pending completer here) (held.raised id pending completer here)
        (held.shared id pending completer here) (covers pending completer found)
    · exact fun other asked known member => held.below other asked known (left member).1
    · exact fun asked known member => held.noted asked known ((mem_concat member).resolve_right nofun)
    · intro known told why member
      rcases mem_concat member with was | new
      · exact held.told known told why was
      · cases new
        exact held.below id pending completer here
    · exact fun first second asked known other one two =>
        held.apart first second asked known other (left one).1 (left two).1
    · intro other asked known member told why done
      obtain ⟨was, apart⟩ := left member
      rcases mem_concat done with already | new
      · exact held.unanswered other asked known was told why already
      · cases new
        exact apart (held.apart other id asked pending completer was here)
    · exact fun other asked known member waiting noted =>
        held.shared other asked known (left member).1 waiting ((mem_concat noted).resolve_right nofun)
    · exact fun other asked known member => List.mem_append_left _ (held.raised other asked known (left member).1)
  · exact held

theorem Held.dismiss (held : Held content answers) : Held content answers.dismiss := by
  unfold Answers.dismiss
  generalize answers.pending.entries.map Prod.fst = ids
  induction ids generalizing answers with
  | nil => exact held
  | cons id ids ih => exact ih (held.answer fun _ _ _ => ⟨nofun, nofun⟩)

end Steps

end Answers

end BioAuth
