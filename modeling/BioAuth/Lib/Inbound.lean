import BioAuth.Lib.BigEndian
import BioAuth.Lib.Fallible

namespace BioAuth
variable {ε : Type}

/-- What one wait on a byte stream brings: at least one octet, or an error that leaves the stream where it is. -/
inductive Arrival (ε : Type)
  | octets (first : UInt8) (more : Bytes)
  | fails (e : ε)

/-- A byte stream, as what each wait on it will bring. After the last of them it is at its end. -/
abbrev Inbound (ε : Type) := List (Arrival ε)

namespace Inbound

/-- All that is left to read. -/
def octets : Inbound ε → Bytes
  | [] => []
  | .octets first more :: rest => first :: more ++ octets rest
  | .fails _ :: rest => octets rest

/-- The errors still to come. -/
def failures : Inbound ε → List ε
  | [] => []
  | .octets _ _ :: rest => failures rest
  | .fails e :: rest => e :: failures rest

/-- What a read leaves of an arrival it did not take whole. -/
def putBack (left : Bytes) (rest : Inbound ε) : Inbound ε :=
  match left with
  | [] => rest
  | first :: more => .octets first more :: rest

/-- `Read::read` into a buffer of `wanted` octets: what has arrived, as far as it fits, and nothing at the end. -/
def read (wanted : Nat) : Fallible (Inbound ε) ε Bytes
  | [] => (.ok [], [])
  | .fails e :: rest => (.error e, rest)
  | .octets first more :: rest => (.ok ((first :: more).take wanted), putBack ((first :: more).drop wanted) rest)

/-- `Read::read_exact`, which starts over after an error that is to be retried and loses what it has read after
any other. -/
def readExact (retried : ε → Bool) (atEnd : ε) : Nat → Fallible (Inbound ε) ε Bytes
  | 0, source => (.ok [], source)
  | _ + 1, [] => (.error atEnd, [])
  | missing + 1, .fails e :: rest => if retried e then readExact retried atEnd (missing + 1) rest else (.error e, rest)
  | missing + 1, .octets first more :: rest =>
    if more.length ≤ missing then
      match readExact retried atEnd (missing - more.length) rest with
      | (.ok bytes, left) => (.ok (first :: more ++ bytes), left)
      | (.error e, left) => (.error e, left)
    else
      (.ok (first :: more.take missing), putBack (more.drop missing) rest)

@[simp] theorem octets_putBack (left : Bytes) (rest : Inbound ε) : (putBack left rest).octets = left ++ octets rest := by
  cases left <;> rfl

@[simp] theorem failures_putBack (left : Bytes) (rest : Inbound ε) : (putBack left rest).failures = failures rest := by
  cases left <;> rfl

/-- One read brings some of what is left, or one of the errors. -/
theorem read_ends {wanted : Nat} (positive : 0 < wanted) (source : Inbound ε) (left : source.octets ≠ []) :
    (read wanted).Ends
      (fun bytes after => bytes ≠ [] ∧ bytes.length ≤ wanted ∧ source.octets = bytes ++ octets after ∧
        after.failures = source.failures)
      (fun e after => source.failures = e :: after.failures ∧ octets after = source.octets) source := by
  cases source with
  | nil => exact absurd rfl left
  | cons arrival rest =>
    cases arrival with
    | fails e => exact ⟨rfl, rfl⟩
    | octets first more =>
      have split : octets (.octets first more :: rest) =
          (first :: more).take wanted ++ octets (putBack ((first :: more).drop wanted) rest) := by
        rw [octets_putBack, ← List.append_assoc, List.take_append_drop]
        rfl
      have some : (first :: more).take wanted ≠ [] := by
        obtain ⟨fewer, rfl⟩ := Nat.exists_eq_succ_of_ne_zero positive.ne'
        simp
      exact ⟨some, List.length_take_le _ _, split, failures_putBack _ _⟩

/-- One read of a stream with nothing left finds its end or one of the errors. -/
theorem read_drained (wanted : Nat) (source : Inbound ε) (drained : source.octets = []) :
    (read wanted).Ends (fun bytes _ => bytes = [])
      (fun e after => source.failures = e :: after.failures ∧ octets after = []) source := by
  cases source with
  | nil => exact rfl
  | cons arrival rest =>
    cases arrival with
    | fails e => exact ⟨rfl, drained⟩
    | octets first more => exact absurd drained (List.cons_ne_nil _ _)

/-- When only errors that are retried lie ahead, the octets asked for are read in the end. -/
theorem readExact_run {retried : ε → Bool} (atEnd : ε) {source : Inbound ε} {front rest : Bytes}
    (enough : source.octets = front ++ rest) (quiet : ∀ e ∈ source.failures, retried e = true) :
    ∃ after : Inbound ε, readExact retried atEnd front.length source = (.ok front, after) ∧ after.octets = rest ∧
      ∀ e ∈ after.failures, retried e = true := by
  induction source generalizing front with
  | nil =>
    have both := List.append_eq_nil_iff.mp enough.symm
    obtain ⟨rfl, rfl⟩ := both
    exact ⟨[], rfl, rfl, quiet⟩
  | cons arrival source ih =>
    cases front with
    | nil => exact ⟨_, rfl, enough, quiet⟩
    | cons byte front =>
      cases arrival with
      | fails e =>
        obtain ⟨after, run, left, later⟩ := ih enough fun e member => quiet e (List.mem_cons_of_mem _ member)
        have again : retried e = true := quiet e List.mem_cons_self
        refine ⟨after, ?_, left, later⟩
        simp only [List.length_cons, readExact, again, if_true]
        exact run
      | octets first more =>
        have parts : first = byte ∧ more ++ octets source = front ++ rest := by
          simpa [octets] using enough
        obtain ⟨rfl, tail⟩ := parts
        by_cases whole : more.length ≤ front.length
        · have head : front.take more.length = more := by
            have taken := congrArg (List.take more.length) tail
            rw [List.take_left, List.take_append_of_le_length whole] at taken
            exact taken.symm
          have later : octets source = front.drop more.length ++ rest := by
            have dropped := congrArg (List.drop more.length) tail
            rwa [List.drop_left, List.drop_append_of_le_length whole] at dropped
          obtain ⟨after, run, left, calm⟩ := ih later quiet
          rw [List.length_drop] at run
          refine ⟨after, ?_, left, calm⟩
          simp only [List.length_cons, readExact, if_pos whole, run]
          conv_rhs => rw [← List.take_append_drop more.length front, head]
          rfl
        · have short : front.length ≤ more.length := by omega
          have head : more.take front.length = front := by
            have taken := congrArg (List.take front.length) tail
            rwa [List.take_left, List.take_append_of_le_length short] at taken
          have left : more.drop front.length ++ octets source = rest := by
            have dropped := congrArg (List.drop front.length) tail
            rwa [List.drop_left, List.drop_append_of_le_length short] at dropped
          refine ⟨putBack (more.drop front.length) source, ?_, ?_, ?_⟩
          · simp only [List.length_cons, readExact, if_neg whole, head]
          · rw [octets_putBack, left]
          · rwa [failures_putBack]

/-- When only errors that are retried lie ahead of too few octets, the end of the stream is met. -/
theorem readExact_short {retried : ε → Bool} (atEnd : ε) {source : Inbound ε} {wanted : Nat}
    (short : source.octets.length < wanted) (quiet : ∀ e ∈ source.failures, retried e = true) :
    ∃ after : Inbound ε, readExact retried atEnd wanted source = (.error atEnd, after) := by
  induction source generalizing wanted with
  | nil =>
    obtain ⟨fewer, rfl⟩ : ∃ fewer, wanted = fewer + 1 := Nat.exists_eq_succ_of_ne_zero (Nat.ne_zero_of_lt short)
    exact ⟨[], rfl⟩
  | cons arrival source ih =>
    obtain ⟨fewer, rfl⟩ : ∃ fewer, wanted = fewer + 1 := Nat.exists_eq_succ_of_ne_zero (Nat.ne_zero_of_lt short)
    cases arrival with
    | fails e =>
      have again : retried e = true := quiet e List.mem_cons_self
      obtain ⟨after, failed⟩ := ih short fun e member => quiet e (List.mem_cons_of_mem _ member)
      refine ⟨after, ?_⟩
      simp only [readExact, again, if_true]
      exact failed
    | octets first more =>
      simp only [octets, List.cons_append, List.length_cons, List.length_append] at short
      obtain ⟨after, failed⟩ := ih (show (octets source).length < fewer - more.length by omega) quiet
      refine ⟨after, ?_⟩
      simp only [readExact, if_pos (show more.length ≤ fewer by omega), failed]

/-- What arrives before the first error that is not retried, with that error. -/
def burst (retried : ε → Bool) : Inbound ε → Bytes × Option ε
  | [] => ([], none)
  | .octets first more :: rest => (first :: more ++ (burst retried rest).1, (burst retried rest).2)
  | .fails e :: rest => if retried e then burst retried rest else ([], some e)

theorem burst_putBack (retried : ε → Bool) (left : Bytes) (rest : Inbound ε) :
    burst retried (putBack left rest) = (left ++ (burst retried rest).1, (burst retried rest).2) := by
  cases left <;> rfl

/-- What is asked for is read when it arrives before any such error. Otherwise all of it is lost to the error or to the
end of the stream. -/
theorem readExact_burst (retried : ε → Bool) (atEnd : ε) (wanted : Nat) (source : Inbound ε) :
    (readExact retried atEnd wanted).Ends
      (fun bytes after => wanted ≤ (burst retried source).1.length ∧ bytes = (burst retried source).1.take wanted ∧
        burst retried after = ((burst retried source).1.drop wanted, (burst retried source).2) ∧
        octets source = bytes ++ octets after)
      (fun e after => (burst retried source).1.length < wanted ∧
        ((burst retried source).2 = some e ∧ octets source = (burst retried source).1 ++ octets after ∨
          (burst retried source).2 = none ∧ e = atEnd)) source := by
  induction source generalizing wanted with
  | nil =>
    cases wanted with
    | zero => exact ⟨Nat.zero_le _, rfl, rfl, rfl⟩
    | succ missing => exact ⟨Nat.succ_pos _, Or.inr ⟨rfl, rfl⟩⟩
  | cons arrival source ih =>
    cases wanted with
    | zero => exact ⟨Nat.zero_le _, rfl, rfl, rfl⟩
    | succ missing =>
      cases arrival with
      | fails e =>
        by_cases again : retried e = true
        · unfold Fallible.Ends
          simp only [readExact, burst, again, if_true]
          exact ih (missing + 1)
        · unfold Fallible.Ends
          simp only [readExact, burst, again]
          exact ⟨Nat.succ_pos _, Or.inl ⟨rfl, rfl⟩⟩
      | octets first more =>
        by_cases whole : more.length ≤ missing
        · have later := ih (missing - more.length)
          rcases run : readExact retried atEnd (missing - more.length) source with ⟨e | bytes, after⟩
          · obtain ⟨few, lost⟩ := later.bad_of_run run
            unfold Fallible.Ends
            simp only [readExact, if_pos whole, run, burst, octets, List.length_append, List.length_cons]
            refine ⟨by omega, lost.imp_left fun ⟨stop, split⟩ => ⟨stop, ?_⟩⟩
            rw [split, List.append_assoc]
          · obtain ⟨enough, same, rest, split⟩ := later.good_of_run run
            have front : (first :: more ++ (burst retried source).1).take (missing + 1) = first :: more ++ bytes := by
              rw [List.take_append, List.take_of_length_le (by simpa using whole), same, List.length_cons,
                Nat.add_sub_add_right]
            have back : (first :: more ++ (burst retried source).1).drop (missing + 1) =
                (burst retried source).1.drop (missing - more.length) := by
              rw [List.drop_append, List.drop_of_length_le (by simpa using whole), List.length_cons,
                Nat.add_sub_add_right, List.nil_append]
            unfold Fallible.Ends
            simp only [readExact, if_pos whole, run, burst, octets]
            refine ⟨?_, front.symm, ?_, ?_⟩
            · simp only [List.length_append, List.length_cons]
              omega
            · rw [rest, back]
            · rw [split, List.append_assoc]
        · have short : missing ≤ more.length := by omega
          unfold Fallible.Ends
          simp only [readExact, if_neg whole, burst, octets, burst_putBack, octets_putBack]
          refine ⟨?_, ?_, ?_, ?_⟩
          · simp only [List.length_append, List.length_cons]
            omega
          · rw [List.cons_append, List.take_succ_cons, List.take_append_of_le_length short]
          · rw [List.cons_append, List.drop_succ_cons, List.drop_append_of_le_length short]
          · rw [List.cons_append, List.cons_append, ← List.append_assoc, List.take_append_drop]

end Inbound

end BioAuth
