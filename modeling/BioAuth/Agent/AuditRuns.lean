import BioAuth.Agent.Audit

namespace BioAuth.Agent
open BioAuth
open BioAuth.FlatJson (Document Foreign Value)

namespace AuditEntry

theorem feed_not_mem_toVec (entry : AuditEntry) : 0x0a ∉ entry.toVec := FlatJson.feed_not_mem_toVec _

theorem toVec_document (entry : AuditEntry) : Document entry.toVec := FlatJson.object_document _

theorem toVec_foreign (entry : AuditEntry) : Foreign entry.toVec := by
  have spelled : "atMs".toList.flatMap FlatJson.escapeChar = ['a', 't'] ++ 'M' :: ['s'] := by simp; rfl
  exact FlatJson.foreign_of_name spelled (fun _ => rfl) fun _ => rfl

theorem toVec_text (entry : AuditEntry) : ∃ text, utf8 text = entry.toVec ∧ utf8 (text ++ "\n") = entry.line := by
  refine ⟨_, rfl, ?_⟩
  rw [utf8_eq_flatMap, String.toList_append, List.flatMap_append, ← utf8_eq_flatMap]
  rfl

/-- What is written ends in a brace. -/
theorem getLast_toVec (entry : AuditEntry) : entry.toVec.getLast? = some 0x7d := by
  rw [toVec, FlatJson.toVec, FlatJson.utf8_ofList, FlatJson.object, FlatJson.octets_cons, FlatJson.octets_append,
    List.getLast?_append, List.getLast?_append]
  rfl

theorem toVec_brace (entry : AuditEntry) : ∃ rest, entry.toVec = 0x7b :: rest := by
  obtain ⟨rest, same, _⟩ := entry.toVec_foreign
  exact ⟨_, same⟩

/-- What is written tells the entries apart. -/
theorem toVec_inj {entry other : AuditEntry} (same : entry.toVec = other.toVec) : entry = other := by
  have step := FlatJson.toVec_inj same
  obtain ⟨atMs, outcome, requestId, service, action, resource, user, deviceName, origin, detail, development⟩ := entry
  obtain ⟨atMs', outcome', requestId', service', action', resource', user', deviceName', origin', detail', development'⟩ :=
    other
  unfold fields at step
  dsimp only at step
  obtain ⟨time, step⟩ := FlatJson.members_integer_inj (by simp) (by simp) step
  obtain ⟨kebab, step⟩ := FlatJson.members_text_inj (by simp) (by simp) step
  obtain ⟨byRequest, step⟩ := FlatJson.members_text_inj (by simp) (by simp) step
  obtain ⟨byService, step⟩ := FlatJson.members_text_inj (by simp) (by simp) step
  obtain ⟨byAction, step⟩ := FlatJson.members_text_inj (by simp) (by simp) step
  obtain ⟨byResource, step⟩ := FlatJson.members_text_inj (by simp) (by simp) step
  obtain ⟨byUser, step⟩ := FlatJson.members_text_inj (by simp) (by simp) step
  obtain ⟨byDevice, step⟩ := FlatJson.members_text_inj (by simp) (by simp) step
  obtain ⟨byOrigin, step⟩ := FlatJson.members_text_inj (by simp) (by simp) step
  have same : atMs = atMs' := Int64.toInt_inj.mp time
  have outcomes : outcome = outcome' := by
    cases outcome <;> cases outcome' <;> first | rfl | exact absurd kebab (by decide)
  rw [same, outcomes, byRequest, byService, byAction, byResource, byUser, byDevice, byOrigin]
  cases detail with
  | none =>
    cases detail' with
    | none => rw [FlatJson.members_flag_inj step]
    | some why => exact absurd (FlatJson.members_name_inj step) (by decide)
  | some why =>
    cases detail' with
    | none => exact absurd (FlatJson.members_name_inj step) (by decide)
    | some why' =>
      obtain ⟨same, step⟩ := FlatJson.members_text_inj (List.cons_ne_nil _ _) (List.cons_ne_nil _ _) step
      rw [same, FlatJson.members_flag_inj step]

end AuditEntry

namespace AuditLog

/-- The lines of so many entries. -/
def spelled (entries : List AuditEntry) : Bytes := entries.flatMap AuditEntry.line

/-- The octets of so many entries. -/
def size (entries : List AuditEntry) : Nat := (entries.map fun entry => entry.line.length).sum

theorem length_spelled (entries : List AuditEntry) : (spelled entries).length = size entries := List.length_flatMap

theorem size_nil : size [] = 0 := rfl

theorem size_cons (entry : AuditEntry) (entries : List AuditEntry) :
    size (entry :: entries) = entry.line.length + size entries := List.sum_cons

theorem size_append (entries later : List AuditEntry) : size (entries ++ later) = size entries + size later := by
  rw [size, List.map_append, List.sum_append]
  rfl

theorem size_reverse (entries : List AuditEntry) : size entries.reverse = size entries := by
  rw [size, List.map_reverse, List.sum_reverse]
  rfl

theorem spelled_append (entries later : List AuditEntry) : spelled (entries ++ later) = spelled entries ++ spelled later :=
  List.flatMap_append

section Lines
variable {line rest : Bytes}

theorem rawLines_line (whole : 0x0a ∉ line) : rawLines (line ++ 0x0a :: rest) = (line ++ [0x0a]) :: rawLines rest := by
  induction line with
  | nil => rfl
  | cons b line ih =>
    rw [List.mem_cons, not_or] at whole
    rw [List.cons_append, rawLines, if_neg (Ne.symm whole.1), ih whole.2]
    rfl

theorem chomp_line (plain : line.getLast? ≠ some 0x0d) : chomp (line ++ [0x0a]) = line := by
  rw [chomp, List.getLast?_concat, if_pos rfl, List.dropLast_concat, if_neg plain]

theorem readLine_line (entry : AuditEntry) : ∃ text, utf8 text = entry.toVec ∧ readLine entry.line = some text := by
  obtain ⟨text, same, ended⟩ := entry.toVec_text
  have plain : entry.toVec.getLast? ≠ some 0x0d := by
    rw [entry.getLast_toVec]
    decide
  refine ⟨text, same, ?_⟩
  rw [readLine, AuditEntry.line, chomp_line plain, ← same, fromUtf8_utf8]
  rw [AuditEntry.line] at ended
  rw [same, ← ended, fromUtf8_utf8]
  rfl

end Lines

section Reading
variable [AuditReader] (sound : AuditReader.Sound)
include sound

/-- Complete lines are read whatever stands behind them. -/
theorem readAll_spelled (entries : List AuditEntry) (rest : Bytes) :
    readAll (spelled entries ++ rest) = entries ++ readAll rest := by
  induction entries with
  | nil => rfl
  | cons entry entries ih =>
    obtain ⟨text, same, read⟩ := readLine_line entry
    have split : rawLines (spelled (entry :: entries) ++ rest) = entry.line :: rawLines (spelled entries ++ rest) := by
      rw [spelled, List.flatMap_cons, AuditEntry.line, List.append_assoc, List.append_assoc]
      exact rawLines_line entry.feed_not_mem_toVec
    rw [readAll] at ih ⊢
    rw [split, readable, read, List.filterMap_cons, sound.faithful text entry same, ih]
    rfl

theorem readAll_entries (entries : List AuditEntry) : readAll (spelled entries) = entries := by
  have read := readAll_spelled sound entries []
  rwa [List.append_nil, show readAll [] = [] from rfl, List.append_nil] at read

/-- A line behind a part of another one is lost. -/
theorem readAll_torn {torn : Bytes} {last entry : AuditEntry} (part : torn <+: last.toVec) (some' : torn ≠ []) :
    readAll (torn ++ entry.line) = [] := by
  have feed : 0x0a ∉ torn ++ entry.toVec := by
    rw [List.mem_append, not_or]
    exact ⟨fun member => last.feed_not_mem_toVec (part.subset member), entry.feed_not_mem_toVec⟩
  have plain : (torn ++ entry.toVec).getLast? ≠ some 0x0d := by
    rw [List.getLast?_append, entry.getLast_toVec, Option.some_or]
    decide
  have lines : rawLines (torn ++ entry.line) = [(torn ++ entry.toVec) ++ [0x0a]] := by
    rw [AuditEntry.line, ← List.append_assoc]
    exact rawLines_line feed
  have refused (text : String) (read : readLine ((torn ++ entry.toVec) ++ [0x0a]) = some text) :
      AuditReader.fromStr text = none := by
    rw [readLine, chomp_line plain] at read
    obtain ⟨_, _, decoded⟩ := Option.bind_eq_some_iff.mp read
    rw [fromUtf8_eq_some] at decoded
    cases taken : AuditReader.fromStr text with
    | none => rfl
    | some other =>
      have document := sound.document text other taken
      rw [← decoded] at document
      exact absurd document (FlatJson.not_document_append last.toVec_brace last.toVec_document part some'
        entry.toVec_document entry.toVec_foreign)
  rw [readAll, lines, readable]
  split
  · rename_i text read
    rw [List.filterMap_cons, refused text read]
    rfl
  · rfl

end Reading

section Window
variable {log : AuditLog} {newest entries : List AuditEntry}

/-- What a trim may leave: so many entries within half the threshold, or the newest one alone. -/
def Fits (log : AuditLog) (newest : List AuditEntry) : Prop :=
  newest.length ≤ log.retain ∧ (newest.length ≤ 1 ∨ size newest ≤ log.trimThresholdBytes / 2)

instance (log : AuditLog) (newest : List AuditEntry) : Decidable (Fits log newest) :=
  inferInstanceAs (Decidable (_ ∧ _))

/-- The entries, newest first, that trimming has not aged out: all of them below the threshold, and otherwise as many as may
be left. -/
def window (log : AuditLog) (newest : List AuditEntry) : List AuditEntry :=
  if size newest ≤ log.trimThresholdBytes then newest
  else newest.take (Nat.findGreatest (fun count => Fits log (newest.take count)) newest.length)

/-- One more entry. -/
def remember (log : AuditLog) (newest : List AuditEntry) (entry : AuditEntry) : List AuditEntry :=
  window log (entry :: newest)

theorem size_take_le {a b : Nat} (le : a ≤ b) : size (newest.take a) ≤ size (newest.take b) := by
  obtain ⟨more, same⟩ := (List.take_prefix_take_left le : newest.take a <+: newest.take b)
  rw [← same, size_append]
  exact Nat.le_add_right _ _

/-- What the loop has gathered fits or is one line, and it stopped at a line that does not. -/
theorem gather_spec (budget : Nat) (lines : List Bytes) (bytes : Nat) (rest : List AuditEntry) :
    ∃ count ≤ rest.length, gather budget lines bytes rest = lines ++ (rest.take count).map AuditEntry.line ∧
      (count = 0 ∨ lines.length + count ≤ 1 ∨ bytes + size (rest.take count) ≤ budget) ∧
      (count = rest.length ∨ 1 ≤ lines.length + count ∧ budget < bytes + size (rest.take (count + 1))) := by
  induction rest generalizing lines bytes with
  | nil => exact ⟨0, le_rfl, (List.append_nil lines).symm, .inl rfl, .inl rfl⟩
  | cons entry rest ih =>
    rw [gather]
    split
    · rename_i full
      refine ⟨0, Nat.zero_le _, (List.append_nil lines).symm, .inl rfl, .inr ⟨?_, ?_⟩⟩
      · exact List.length_pos_iff.mpr full.1
      · simpa [size_cons, size_nil] using full.2
    · rename_i room
      obtain ⟨count, within, gathered, fits, stopped⟩ := ih (lines ++ [entry.line]) (bytes + entry.line.length)
      have sum (n : Nat) : size ((entry :: rest).take (n + 1)) = entry.line.length + size (rest.take n) := by
        rw [List.take_succ_cons, size_cons]
      rw [List.length_append, List.length_singleton] at fits stopped
      refine ⟨count + 1, Nat.succ_le_succ within, ?_, .inr ?_, ?_⟩
      · rw [gathered, List.append_assoc]
        rfl
      · rw [sum]
        rcases fits with rfl | one | fits
        · by_cases first : lines = []
          · exact .inl (by rw [first]; rfl)
          · have small : ¬budget < bytes + entry.line.length := fun large => room ⟨first, large⟩
            have none : size (rest.take 0) = 0 := rfl
            exact .inr (by omega)
        · exact .inl (by omega)
        · exact .inr (by omega)
      · rw [sum]
        rcases stopped with rfl | ⟨_, beyond⟩
        · exact .inl rfl
        · exact .inr ⟨by omega, by omega⟩

/-- What the loop gathers is as much as may be left. -/
theorem gather_eq (newest : List AuditEntry) :
    gather (log.trimThresholdBytes / 2) [] 0 (newest.take log.retain) =
      (newest.take (Nat.findGreatest (fun count => Fits log (newest.take count)) newest.length)).map AuditEntry.line := by
  obtain ⟨count, within, gathered, fits, stopped⟩ :=
    gather_spec (log.trimThresholdBytes / 2) [] 0 (newest.take log.retain)
  rw [List.length_take] at within stopped
  rw [List.take_take, Nat.min_eq_left (by omega : count ≤ log.retain)] at gathered
  rw [List.take_take, Nat.min_eq_left (by omega : count ≤ log.retain), Nat.zero_add] at fits
  have greatest : Nat.findGreatest (fun count => Fits log (newest.take count)) newest.length = count := by
    rw [Nat.findGreatest_eq_iff]
    refine ⟨by omega, fun _ => ⟨?_, ?_⟩, fun more above below both => ?_⟩
    · rw [List.length_take]
      omega
    · rw [List.length_take]
      rcases fits with rfl | one | fits
      · exact .inl (by omega)
      · exact .inl (by rw [List.length_nil] at one; omega)
      · exact .inr fits
    · obtain ⟨few, small⟩ := both
      rw [List.length_take, Nat.min_eq_left below] at few small
      rcases stopped with all | ⟨one, beyond⟩
      · omega
      · have larger : size ((newest.take log.retain).take (count + 1)) ≤ size (newest.take more) := by
          rw [List.take_take]
          exact size_take_le (by omega)
        rw [List.length_nil] at one
        omega
  rw [gathered, greatest, List.nil_append]

theorem flatten_reverse_lines (newest : List AuditEntry) :
    (newest.map AuditEntry.line).reverse.flatten = spelled newest.reverse := by
  rw [← List.map_reverse, spelled, List.flatMap_def]

theorem remember_small {entry : AuditEntry} (small : size (entry :: newest) ≤ log.trimThresholdBytes) :
    remember log newest entry = entry :: newest := if_pos small

/-- The last entry is in every window. -/
theorem head_mem_remember (newest : List AuditEntry) (entry : AuditEntry) : entry ∈ remember log newest entry := by
  rw [remember, window]
  split
  · exact List.mem_cons_self
  · have one : Fits log ((entry :: newest).take 1) := ⟨log.retains, .inl le_rfl⟩
    have some' : 1 ≤ Nat.findGreatest (fun count => Fits log ((entry :: newest).take count)) (entry :: newest).length :=
      Nat.le_findGreatest (Nat.succ_le_succ (Nat.zero_le _)) one
    obtain ⟨count, same⟩ := Nat.exists_eq_add_of_le' some'
    rw [same, List.take_succ_cons]
    exact List.mem_cons_self

/-- What a window leaves is at most the threshold, or one entry. -/
theorem size_window_le (log : AuditLog) (newest : List AuditEntry) :
    size (window log newest) ≤ log.trimThresholdBytes ∨ (window log newest).length ≤ 1 := by
  rw [window]
  split
  · exact .inl ‹_›
  · have fits : Fits log (newest.take (Nat.findGreatest (fun count => Fits log (newest.take count)) newest.length)) :=
      @Nat.findGreatest_spec _ (fun count => Fits log (newest.take count)) _ _ (Nat.zero_le _)
        ⟨Nat.zero_le _, .inl (Nat.zero_le _)⟩
    rcases fits.2 with one | small
    · exact .inr one
    · exact .inl (small.trans (Nat.div_le_self _ _))

theorem window_newest (log : AuditLog) (newest : List AuditEntry) : window log newest <+: newest := by
  rw [window]
  split
  · exact List.prefix_rfl
  · exact List.take_prefix _ _

/-- What is remembered is the newest of what there was. -/
theorem foldl_remember_prefix (log : AuditLog) (later newest : List AuditEntry) :
    later.foldl (remember log) newest <+: later.reverse ++ newest := by
  induction later generalizing newest with
  | nil => exact List.prefix_rfl
  | cons entry later ih =>
    rw [List.foldl_cons, List.reverse_cons, List.append_assoc]
    exact (ih _).trans ((List.prefix_append_right_inj _).mpr (window_newest log (entry :: newest)))

theorem size_foldl_remember_le (log : AuditLog) (appended : List AuditEntry) :
    size (appended.foldl (remember log) []) ≤ log.trimThresholdBytes ∨
      (appended.foldl (remember log) []).length = 1 := by
  rcases List.eq_nil_or_concat appended with rfl | ⟨before, entry, rfl⟩
  · exact .inl (Nat.zero_le _)
  · rw [List.concat_eq_append, List.foldl_append, List.foldl_cons, List.foldl_nil, remember]
    rcases size_window_le log (entry :: before.foldl (remember log) []) with small | few
    · exact .inl small
    · rcases Nat.le_one_iff_eq_zero_or_eq_one.mp few with none | one
      · rw [List.length_eq_zero_iff.mp none]
        exact .inl (Nat.zero_le _)
      · exact .inr one

/-- What is left in a file by a write that did not get to the end of its line. -/
def Torn (torn : Bytes) : Prop := ∃ last : AuditEntry, torn <+: last.line ∧ torn ≠ last.line

theorem exists_fresh (entries : List AuditEntry) : ∃ entry, entry ∉ entries := by
  let numbered (n : Nat) : AuditEntry :=
    { atMs := 0, outcome := .granted, requestId := String.ofList (List.replicate n 'r'), service := "", action := ""
      resource := "", user := "", deviceName := "", origin := "", detail := none, development := false }
  have injective : Function.Injective numbered := by
    intro n m same
    have ids := String.ofList_injective (congrArg AuditEntry.requestId same)
    simpa using congrArg List.length ids
  have infinite : Infinite AuditEntry := Infinite.of_injective numbered injective
  obtain ⟨entry, fresh⟩ := Infinite.exists_notMem_finset entries.toFinset
  exact ⟨entry, fun member => fresh (List.mem_toFinset.mpr member)⟩

end Window

section Runs
variable [AuditReader] {log : AuditLog} {earlier : List AuditEntry} {torn : Bytes}

/-- A trim of complete lines is the window of their entries. -/
theorem trimIfNeeded_spelled (sound : AuditReader.Sound) (log : AuditLog) (entries : List AuditEntry) :
    trimIfNeeded log (spelled entries) = spelled (window log entries.reverse).reverse := by
  rw [trimIfNeeded, window, length_spelled, size_reverse]
  split
  · rw [List.reverse_reverse]
  · dsimp only
    rw [readAll_entries sound, gather_eq, List.length_map, List.length_take, List.length_reverse, flatten_reverse_lines]
    split
    · rename_i all
      rw [List.take_of_length_le (by rw [List.length_reverse]; omega), List.reverse_reverse]
    · rfl

theorem append_spelled (sound : AuditReader.Sound) (entries : List AuditEntry) (entry : AuditEntry) :
    append log (spelled entries) entry = spelled (remember log entries.reverse entry).reverse := by
  have grown : spelled entries ++ entry.line = spelled (entries ++ [entry]) := by
    rw [spelled_append]
    exact congrArg _ (List.append_nil entry.line).symm
  rw [append, grown, trimIfNeeded_spelled sound, List.reverse_append]
  rfl

/-- Every run of appends behind complete lines is a run of the window. -/
theorem foldl_append_spelled (sound : AuditReader.Sound) (later : List AuditEntry) (newest : List AuditEntry) :
    later.foldl (append log) (spelled newest.reverse) = spelled (later.foldl (remember log) newest).reverse := by
  induction later generalizing newest with
  | nil => rfl
  | cons entry later ih => rw [List.foldl_cons, List.foldl_cons, append_spelled sound, List.reverse_reverse, ih]

theorem append_small {content : Bytes} {entry : AuditEntry}
    (small : (content ++ entry.line).length ≤ log.trimThresholdBytes) :
    append log content entry = content ++ entry.line := if_pos small

/-- A trim makes up no entry. -/
theorem readAll_trimIfNeeded (sound : AuditReader.Sound) {content : Bytes} {entry : AuditEntry}
    (member : entry ∈ readAll (trimIfNeeded log content)) : entry ∈ readAll content := by
  rw [trimIfNeeded] at member
  split at member
  · exact member
  · dsimp only at member
    split at member
    · exact member
    · rw [gather_eq, flatten_reverse_lines, readAll_entries sound, List.mem_reverse] at member
      exact List.mem_reverse.mp (List.mem_of_mem_take member)

/-- Whatever is appended later, the log has it, and with it all that was in the file, as far as trimming has not aged it
out. -/
def Survives (log : AuditLog) (earlier : List AuditEntry) (torn : Bytes) : Prop :=
  ∀ (later : List AuditEntry) (limit : Nat), recent (later.foldl (append log) (spelled earlier ++ torn)) limit =
    (later.foldl (remember log) earlier.reverse).take limit

theorem survives_nil (sound : AuditReader.Sound) : Survives log earlier [] := by
  intro later limit
  have run := @foldl_append_spelled _ log sound later earlier.reverse
  rw [List.reverse_reverse] at run
  rw [List.append_nil, run, recent, readAll_entries sound, List.reverse_reverse]

theorem eq_nil_of_survives (sound : AuditReader.Sound) (cut : Torn torn) (survives : Survives log earlier torn) :
    torn = [] := by
  by_contra some'
  obtain ⟨last, part, open'⟩ := cut
  have within : torn <+: last.toVec := by
    rcases List.prefix_concat_iff.mp part with whole | inside
    · exact absurd whole open'
    · exact inside
  obtain ⟨entry, fresh⟩ := exists_fresh earlier
  have newest := survives [entry] (remember log earlier.reverse entry).length
  rw [List.foldl_cons, List.foldl_nil, List.foldl_cons, List.foldl_nil, List.take_length] at newest
  have listed := newest ▸ head_mem_remember earlier.reverse entry
  have read := readAll_trimIfNeeded sound (List.mem_reverse.mp (List.mem_of_mem_take listed))
  rw [List.append_assoc, readAll_spelled sound, readAll_torn sound within some', List.append_nil] at read
  exact fresh read

/-- Without a torn write the file is the end of what was appended. -/
theorem foldl_append_bounded (sound : AuditReader.Sound) (log : AuditLog) (appended : List AuditEntry) :
    ∃ kept, kept <:+ appended ∧ appended.foldl (append log) [] = spelled kept ∧
      ((appended.foldl (append log) []).length ≤ log.trimThresholdBytes ∨ kept.length = 1) := by
  have run := @foldl_append_spelled _ log sound appended []
  have newest := foldl_remember_prefix log appended []
  rw [List.append_nil] at newest
  refine ⟨(appended.foldl (remember log) []).reverse, ?_, run, ?_⟩
  · have last := List.reverse_suffix.mpr newest
    rwa [List.reverse_reverse] at last
  · rw [show appended.foldl (append log) [] = _ from run, length_spelled, size_reverse, List.length_reverse]
    exact size_foldl_remember_le log appended

/-- The log survives a torn write if and only if none of its line was written. Without one it is the end of what was
appended, and at most the threshold in size or one entry. -/
theorem survives_iff (sound : AuditReader.Sound) (log : AuditLog) :
    (∀ earlier torn, Torn torn → (Survives log earlier torn ↔ torn = [])) ∧
      ∀ appended : List AuditEntry, ∃ kept, kept <:+ appended ∧ appended.foldl (append log) [] = spelled kept ∧
        ((appended.foldl (append log) []).length ≤ log.trimThresholdBytes ∨ kept.length = 1) := by
  refine ⟨fun earlier torn cut => ⟨eq_nil_of_survives sound cut, ?_⟩, foldl_append_bounded sound log⟩
  rintro rfl
  exact survives_nil sound

end Runs

section Concrete

/-- A reader that takes what was written, and nothing else. -/
@[reducible] noncomputable def recalling : AuditReader where
  fromStr text :=
    open Classical in if written : ∃ entry : AuditEntry, utf8 text = entry.toVec then some written.choose else none

theorem recalling_sound : @AuditReader.Sound recalling := by
  refine @AuditReader.Sound.mk recalling (fun text entry same => ?_) fun text entry taken => ?_
  · have written : ∃ entry : AuditEntry, utf8 text = entry.toVec := ⟨entry, same⟩
    exact (dif_pos written).trans (congrArg some (AuditEntry.toVec_inj (written.choose_spec.symm.trans same)))
  · by_cases written : ∃ entry : AuditEntry, utf8 text = entry.toVec
    · obtain ⟨other, same⟩ := written
      rw [same]
      exact other.toVec_document
    · have refused : recalling.fromStr text = none := dif_neg written
      rw [refused] at taken
      cases taken

def installed (requestId : String) : AuditEntry :=
  { atMs := 1, outcome := .granted, requestId, service := "sudo", action := "maçã", resource := "", user := ""
    deviceName := "", origin := "", detail := none, development := false }

/-- What is left of a line that was cut inside a character of its action. -/
def cutLine : Bytes := (installed "r-2").toVec.take 78

theorem torn_cutLine : Torn cutLine := by
  refine ⟨installed "r-2", (List.take_prefix _ _).trans (List.prefix_append _ _), fun same => ?_⟩
  have size := congrArg List.length same
  rw [cutLine, AuditEntry.line, List.length_take, List.length_append, List.length_singleton] at size
  omega

theorem toVec_eq (entry : AuditEntry) : entry.toVec = FlatJson.octets (FlatJson.object entry.fields) :=
  FlatJson.utf8_ofList _

theorem installed_length : ∀ id ∈ ["r-1", "r-3", "r-4"], (installed id).toVec.length = 155 := by
  simp only [toVec_eq]
  decide +kernel

theorem whole_lines_survive : ∃ reader : AuditReader, @Survives reader new [installed "r-1"] [] := by
  refine ⟨recalling, (((@survives_iff recalling recalling_sound new).1 _ _ ?_).mpr rfl)⟩
  exact ⟨installed "r-2", List.nil_prefix, fun same => absurd (congrArg List.length same) (by simp [AuditEntry.line])⟩

/-- No entry behind the cut is found again. -/
theorem cut_line_hides : ∃ reader : AuditReader, @AuditReader.Sound reader ∧ Torn cutLine ∧
    @recent reader ([installed "r-3", installed "r-4"].foldl (@append reader new) (spelled [installed "r-1"] ++ cutLine)) 10 =
      [installed "r-1"] ∧
    ([installed "r-3", installed "r-4"].foldl (remember new) [installed "r-1"]).take 10 =
      [installed "r-4", installed "r-3", installed "r-1"] := by
  have small : (spelled [installed "r-1"] ++ cutLine ++ (installed "r-3").line ++ (installed "r-4").line).length ≤
      new.trimThresholdBytes := by
    have one := installed_length "r-1" (by decide)
    have three := installed_length "r-3" (by decide)
    have four := installed_length "r-4" (by decide)
    have cut : cutLine.length ≤ 78 := List.length_take_le _ _
    have room : (1000 : Nat) ≤ new.trimThresholdBytes := by decide
    simp only [List.length_append, length_spelled, size_cons, size_nil, AuditEntry.line, List.length_singleton, one,
      three, four]
    omega
  refine ⟨recalling, recalling_sound, torn_cutLine, ?_, ?_⟩
  rotate_left
  · simp only [List.length_append, length_spelled, size_cons, size_nil] at small
    have kept : remember new [installed "r-1"] (installed "r-3") = [installed "r-3", installed "r-1"] :=
      remember_small (by simp only [size_cons, size_nil]; omega)
    have both : remember new [installed "r-3", installed "r-1"] (installed "r-4") =
        [installed "r-4", installed "r-3", installed "r-1"] :=
      remember_small (by simp only [size_cons, size_nil]; omega)
    rw [List.foldl_cons, List.foldl_cons, List.foldl_nil, kept, both]
    rfl
  have first : @append recalling new (spelled [installed "r-1"] ++ cutLine) (installed "r-3") =
      spelled [installed "r-1"] ++ cutLine ++ (installed "r-3").line := by
    rw [List.length_append] at small
    exact @append_small recalling new _ _ (by omega)
  have second : @append recalling new (spelled [installed "r-1"] ++ cutLine ++ (installed "r-3").line) (installed "r-4") =
      spelled [installed "r-1"] ++ cutLine ++ (installed "r-3").line ++ (installed "r-4").line :=
    @append_small recalling new _ _ small
  have feed : 0x0a ∉ cutLine ++ (installed "r-3").toVec := by
    rw [List.mem_append, not_or]
    exact ⟨fun member => AuditEntry.feed_not_mem_toVec _ (List.mem_of_mem_take member), AuditEntry.feed_not_mem_toVec _⟩
  have joined : cutLine ++ ((installed "r-3").line ++ (installed "r-4").line) =
      (cutLine ++ (installed "r-3").toVec) ++ 0x0a :: (installed "r-4").line := by
    simp [AuditEntry.line]
  -- the line that the cut opens is not UTF-8, and reading stops at it
  have broken : readLine ((cutLine ++ (installed "r-3").toVec) ++ [0x0a]) = none := by
    have invalid : fromUtf8 ((cutLine ++ (installed "r-3").toVec) ++ [0x0a]) = none := by
      rw [cutLine, toVec_eq, toVec_eq]
      decide +kernel
    rw [readLine, invalid]
    rfl
  have stopped : @readAll recalling (cutLine ++ ((installed "r-3").line ++ (installed "r-4").line)) = [] := by
    change (readable (rawLines _)).filterMap recalling.fromStr = []
    rw [joined, rawLines_line feed, readable, broken]
    rfl
  rw [List.foldl_cons, List.foldl_cons, List.foldl_nil, first, second, List.append_assoc, List.append_assoc]
  change (@readAll recalling _).reverse.take 10 = _
  rw [@readAll_spelled recalling recalling_sound, stopped]
  rfl

end Concrete

end AuditLog

end BioAuth.Agent
