import BioAuth.Session.Framing

namespace BioAuth.Session.Framing
open BioAuth

/-- An error that a reader with a timeout meets while a frame is on its way. -/
def passing (e : IoError) : Bool := e.kind = .wouldBlock || e.kind = .timedOut || e.kind = .interrupted

/-- Frames as they are written one after another. -/
def wire (frames : List Bytes) : Bytes := frames.flatMap spell

/-- A stream that brings all it has at once. -/
def unsplit (octets : Bytes) : Inbound IoError := Inbound.putBack octets []

/-- Calls of `read_frame` up to the first that fails. -/
def readFrames : Nat → Inbound IoError → List Bytes × Option IoError
  | 0, _ => ([], none)
  | calls + 1, source =>
    match readFrame source with
    | (.ok frame, after) =>
      let later := readFrames calls after
      (frame :: later.1, later.2)
    | (.error e, _) => ([], some e)

/-- What repeated calls with one buffer have brought: the frames, the error they ended with, and what is left. -/
structure Reading where
  frames : List Bytes
  stopped : Option IoError
  inbox : Inbox

/-- Calls of `read_frame_resumable` up to the first that fails for good. -/
def resumeFrames : Nat → Inbox → Reading
  | 0, inbox => ⟨[], none, inbox⟩
  | calls + 1, inbox =>
    match readFrameResumable inbox with
    | (.ok frame, after) =>
      let later := resumeFrames calls after
      { later with frames := frame :: later.frames }
    | (.error e, after) => if passing e then resumeFrames calls after else ⟨[], some e, after⟩

/-- The error of a length that is not admitted. -/
def refusal (len : Nat) : IoError := ⟨.invalidData, s!"peer announced a {len}-byte frame"⟩

/-- Octets that no frame can be read from, with what each of the two readers says: a frame that is cut short, nothing
at all among them, or a length that is not admitted. -/
inductive Halts : Bytes → IoError → IoError → Prop
  | cut {start frame more : Bytes} (fits : Fits frame) (part : spell frame = start ++ more) (missing : more ≠ []) :
    Halts start ⟨.unexpectedEof, "failed to fill whole buffer"⟩ ⟨.unexpectedEof, "connection closed inside a frame"⟩
  | refused {len : Nat} (rest : Bytes) (spelt : len < 256 ^ prefixLen) (bad : len = 0 ∨ maxFrame < len) :
    Halts (BigEndian.encode prefixLen len ++ rest) (refusal len) (refusal len)

/-- The octets the next call reads from. -/
def nextOf (left : List Bytes) (ending : Bytes) : Bytes :=
  match left with
  | [] => ending
  | frame :: _ => spell frame

/-- Nothing of the stream is lost, and what is buffered starts the frame that is read next. -/
structure Inbox.Between (left : List Bytes) (ending : Bytes) (inbox : Inbox) : Prop where
  holds : inbox.Holds (wire left ++ ending)
  within : inbox.pending <+: nextOf left ending

theorem Halts.kind {ending : Bytes} {shot stop : IoError} (halts : Halts ending shot stop) : shot.kind = stop.kind := by
  cases halts <;> rfl

theorem Halts.final {ending : Bytes} {shot stop : IoError} (halts : Halts ending shot stop) : passing stop = false := by
  cases halts <;> rfl

/-- A frame that is cut short is cut in its length or behind it. -/
theorem cut_cases {start frame more : Bytes} (part : spell frame = start ++ more) (missing : more ≠ []) :
    start.length < prefixLen ∨
      ∃ body, start = BigEndian.encode prefixLen frame.length ++ body ∧ body.length < frame.length := by
  by_cases short : start.length < prefixLen
  · exact Or.inl short
  · right
    have positive := List.length_pos_iff.mpr missing
    have total := congrArg List.length part
    rw [spell_length, List.length_append] at total
    have front := congrArg (List.take prefixLen) part
    unfold spell at front
    rw [List.take_left' (BigEndian.encode_length _ _), List.take_append_of_le_length (by omega)] at front
    refine ⟨start.drop prefixLen, ?_, ?_⟩
    · rw [front, List.take_append_drop]
    · rw [List.length_drop]
      omega

/-- One call on the whole stream, where only retried errors lie ahead, fails at what no frame can be read from. -/
theorem readFrame_halts {ending : Bytes} {shot stop : IoError} (halts : Halts ending shot stop) {source : Inbound IoError}
    (arrives : source.octets = ending) (quiet : ∀ e ∈ source.failures, interrupted e = true) :
    ∃ after, readFrame source = (.error shot, after) := by
  cases halts with
  | cut fits part missing =>
    rcases cut_cases part missing with short | ⟨body, rfl, less⟩
    · obtain ⟨after, failed⟩ := Inbound.readExact_short ⟨.unexpectedEof, "failed to fill whole buffer"⟩
        (by rw [arrives]; exact short) quiet
      unfold readFrame
      exact ⟨after, Fallible.bind_run_error _ failed⟩
    · obtain ⟨middle, first, later, calm⟩ := Inbound.readExact_run
        ⟨.unexpectedEof, "failed to fill whole buffer"⟩ arrives quiet
      rw [BigEndian.encode_length] at first
      obtain ⟨after, failed⟩ := Inbound.readExact_short ⟨.unexpectedEof, "failed to fill whole buffer"⟩
        (by rw [later]; exact less) calm
      have positive := List.length_pos_iff.mpr fits.1
      refine ⟨after, ?_⟩
      unfold readFrame
      rw [Fallible.bind_run_ok _ first]
      simp only [decode_announced fits, require]
      rw [if_pos ⟨by omega, fits.2⟩]
      exact failed
  | refused rest spelt bad =>
    obtain ⟨middle, first, _⟩ := Inbound.readExact_run ⟨.unexpectedEof, "failed to fill whole buffer"⟩ arrives quiet
    rw [BigEndian.encode_length] at first
    refine ⟨middle, ?_⟩
    unfold readFrame
    rw [Fallible.bind_run_ok _ first]
    simp only [BigEndian.decode_encode_of_lt spelt, require]
    rw [if_neg (by omega)]
    rfl

theorem unsplit_octets (octets : Bytes) : (unsplit octets).octets = octets :=
  (Inbound.octets_putBack octets []).trans (List.append_nil octets)

theorem unsplit_quiet (octets : Bytes) : ∀ e ∈ (unsplit octets).failures, interrupted e = true := by
  unfold unsplit
  rw [Inbound.failures_putBack]
  exact fun e member => nomatch member

/-- On a stream without timeouts the frames are read one by one, up to what no frame can be read from. -/
theorem readFrames_run {frames : List Bytes} {ending : Bytes} {shot stop : IoError} (valid : ∀ frame ∈ frames, Fits frame)
    (halts : Halts ending shot stop) {source : Inbound IoError} (arrives : source.octets = wire frames ++ ending)
    (quiet : ∀ e ∈ source.failures, interrupted e = true) :
    readFrames (frames.length + 1) source = (frames, some shot) := by
  induction frames generalizing source with
  | nil =>
    obtain ⟨after, failed⟩ := readFrame_halts halts arrives quiet
    rw [List.length_nil, readFrames, failed]
  | cons frame frames ih =>
    rw [List.forall_mem_cons] at valid
    have split : source.octets = spell frame ++ (wire frames ++ ending) := by
      rw [arrives, wire, List.flatMap_cons, List.append_assoc, wire]
    obtain ⟨after, read, left, calm⟩ := readFrame_run valid.1 split quiet
    have later := ih valid.2 left calm
    rw [List.length_cons, readFrames, read]
    simp only [later]

theorem Inbox.Holds.length {content : Bytes} {inbox : Inbox} (holds : inbox.Holds content) :
    inbox.pending.length + inbox.stream.octets.length = content.length := by
  unfold Inbox.Holds at holds
  rw [← holds, List.length_append]

/-- Filling to a target that the stream does not reach ends at an error with everything kept, or at the end. -/
theorem fillRounds_short {content : Bytes} {target : Nat} (short : content.length < target) (rounds : Nat)
    {inbox : Inbox} (holds : inbox.Holds content) (within : target - inbox.pending.length ≤ rounds) :
    (fillRounds target rounds).Ends (fun _ _ => False)
      (fun e t => e = ⟨.unexpectedEof, "connection closed inside a frame"⟩ ∨
        t.Holds content ∧ inbox.stream.failures = e :: t.stream.failures)
      inbox := by
  induction rounds generalizing inbox with
  | zero =>
    have total := holds.length
    omega
  | succ rounds ih =>
    have total := holds.length
    apply Fallible.Ends.bind_of_run (Fallible.get_run inbox)
    rw [if_pos (by omega)]
    by_cases drained : inbox.stream.octets = []
    · have read := Inbound.read_drained (min (target - inbox.pending.length) 1024) inbox.stream drained
      rcases run : Inbound.read (min (target - inbox.pending.length) 1024) inbox.stream with ⟨e | chunk, stream⟩
      · obtain ⟨met, same⟩ := read.bad_of_run run
        have step : readSome (min (target - inbox.pending.length) 1024) inbox = (.error e, { inbox with stream }) := by
          simp only [readSome, run]
        unfold Fallible.Ends
        rw [Fallible.bind_run_error _ step]
        unfold Inbox.Holds at holds
        rw [drained] at holds
        exact Or.inr ⟨(congrArg (inbox.pending ++ ·) same).trans holds, met⟩
      · have empty : chunk = [] := read.good_of_run run
        have step : readSome (min (target - inbox.pending.length) 1024) inbox = (.ok [], { inbox with stream }) := by
          simp only [readSome, run, empty]
        exact Fallible.Ends.bind_of_run step (Fallible.Ends.require_bind (fun _ => Or.inl rfl) fun some => absurd rfl some)
    · have positive := List.length_pos_iff.mpr drained
      have read := readSome_ends (min (target - inbox.pending.length) 1024) (by omega) holds (by omega)
      refine Fallible.Ends.bind _ (read.mono (fun _ _ done => done) ?_) ?_
      · intro e t failed
        obtain ⟨kept, _, met⟩ := failed
        exact Or.inr ⟨kept, met⟩
      · intro chunk t done
        obtain ⟨some, _, same, whole, calm⟩ := done
        have longer := List.length_pos_iff.mpr some
        refine Fallible.Ends.require_bind (fun none => absurd some none) fun _ => ?_
        refine Fallible.Ends.bind_of_run (Fallible.modify_run _ _) ?_
        have kept : Inbox.Holds content { t with pending := t.pending ++ chunk } := by
          unfold Inbox.Holds
          rwa [same]
        refine (ih kept (by simp only [List.length_append, same]; omega)).mono (fun _ _ never => never) ?_
        intro e u failed
        exact failed.imp_right (And.imp_right calm.symm.trans)

theorem fillTo_short {content : Bytes} {target : Nat} (short : content.length < target) {inbox : Inbox}
    (holds : inbox.Holds content) :
    (fillTo target).Ends (fun _ _ => False)
      (fun e t => e = ⟨.unexpectedEof, "connection closed inside a frame"⟩ ∨
        t.Holds content ∧ inbox.stream.failures = e :: t.stream.failures)
      inbox :=
  Fallible.Ends.bind_of_run (Fallible.get_run inbox) (fillRounds_short short _ holds le_rfl)

/-- A call at what no frame can be read from fails for good, or at an error with everything kept. -/
theorem readFrameResumable_halts {ending : Bytes} {shot stop : IoError} (halts : Halts ending shot stop) {inbox : Inbox}
    (holds : inbox.Holds ending) :
    readFrameResumable.Ends (fun _ _ => False)
      (fun e t => e = stop ∨ t.Holds ending ∧ inbox.stream.failures = e :: t.stream.failures) inbox := by
  unfold readFrameResumable
  cases halts with
  | cut fits part missing =>
    rcases cut_cases part missing with short | ⟨body, rfl, less⟩
    · exact Fallible.Ends.bind _ (fillTo_short short holds) fun _ _ never => never.elim
    · rename_i frame _
      have front : (BigEndian.encode prefixLen frame.length ++ body).take prefixLen =
          BigEndian.encode prefixLen frame.length := List.take_left' (BigEndian.encode_length _ _)
      have total : (BigEndian.encode prefixLen frame.length ++ body).length = prefixLen + body.length := by
        rw [List.length_append, BigEndian.encode_length]
      have positive := List.length_pos_iff.mpr fits.1
      refine Fallible.Ends.bind _ ((fillTo_ends prefixLen (by omega) holds).mono (fun _ _ done => done) ?_) ?_
      · intro e t failed
        exact Or.inr ⟨failed.1, failed.2.2⟩
      · intro _ t done
        obtain ⟨kept, filled, calm⟩ := done
        refine Fallible.Ends.bind_of_run (Fallible.get_run t) ?_
        have announced : t.pending.take prefixLen = BigEndian.encode prefixLen frame.length := by
          rw [kept.pending_eq, List.take_take, min_eq_left (by omega), front]
        have bound := fits.2
        simp only [announced, decode_announced fits]
        rw [if_neg (by omega)]
        refine Fallible.Ends.bind _ ((fillTo_short (by omega) kept).mono (fun _ _ never => never) ?_)
          fun _ _ never => never.elim
        intro e u failed
        exact failed.imp_right fun ⟨left, met⟩ => ⟨left, calm.symm.trans met⟩
  | refused rest spelt bad =>
    rename_i len
    have front : (BigEndian.encode prefixLen len ++ rest).take prefixLen = BigEndian.encode prefixLen len :=
      List.take_left' (BigEndian.encode_length _ _)
    have total : (BigEndian.encode prefixLen len ++ rest).length = prefixLen + rest.length := by
      rw [List.length_append, BigEndian.encode_length]
    refine Fallible.Ends.bind _ ((fillTo_ends prefixLen (by omega) holds).mono (fun _ _ done => done) ?_) ?_
    · intro e t failed
      exact Or.inr ⟨failed.1, failed.2.2⟩
    · intro _ t done
      obtain ⟨kept, filled, _⟩ := done
      refine Fallible.Ends.bind_of_run (Fallible.get_run t) ?_
      have announced : t.pending.take prefixLen = BigEndian.encode prefixLen len := by
        rw [kept.pending_eq, List.take_take, min_eq_left (by omega), front]
      simp only [announced, BigEndian.decode_encode_of_lt spelt]
      rw [if_pos (by omega)]
      exact Or.inl rfl

theorem Inbox.Holds.between {left : List Bytes} {ending : Bytes} {inbox : Inbox} (holds : inbox.Holds (wire left ++ ending))
    (short : inbox.pending.length ≤ (nextOf left ending).length) : inbox.Between left ending := by
  have starts : inbox.pending <+: wire left ++ ending := ⟨_, holds⟩
  refine ⟨holds, ?_⟩
  cases left with
  | nil => exact starts
  | cons frame left =>
    refine List.prefix_of_prefix_length_le starts ?_ short
    exact ⟨wire left ++ ending, by rw [wire, wire, List.flatMap_cons, List.append_assoc]; rfl⟩

/-- One call brings the next frame, or meets one error and keeps everything. -/
theorem Inbox.Between.read {frame ending : Bytes} {left : List Bytes} {inbox : Inbox} (fits : Fits frame)
    (between : inbox.Between (frame :: left) ending) :
    readFrameResumable.Ends
      (fun found t => found = frame ∧ t.Between left ending ∧ t.stream.failures = inbox.stream.failures)
      (fun e t => t.Between (frame :: left) ending ∧ inbox.stream.failures = e :: t.stream.failures) inbox := by
  have split : wire (frame :: left) ++ ending = spell frame ++ (wire left ++ ending) := by
    rw [wire, wire, List.flatMap_cons, List.append_assoc]
  have holds := between.holds
  rw [split] at holds
  refine (readFrameResumable_ends fits holds between.within.length_le).mono ?_ ?_
  · intro found t done
    obtain ⟨same, empty, rest, calm⟩ := done
    have whole : t.Holds (wire left ++ ending) := by
      unfold Inbox.Holds
      rw [empty, rest, List.nil_append]
    exact ⟨same, whole.between (by rw [empty]; exact Nat.zero_le _), calm⟩
  · intro e t failed
    obtain ⟨kept, short, met⟩ := failed
    rw [← split] at kept
    exact ⟨kept.between short, met⟩

/-- The frames brought so far are the first ones. The rest is all there, or there is none and the calls have ended. -/
def Reading.Follows (frames : List Bytes) (ending : Bytes) (stop : IoError) (reading : Reading) : Prop :=
  ∃ left, frames = reading.frames ++ left ∧
    (reading.stopped = none ∧ reading.inbox.Between left ending ∨ reading.stopped = some stop ∧ left = [])

theorem resumeFrames_follows {frames : List Bytes} {ending : Bytes} {shot stop : IoError}
    (valid : ∀ frame ∈ frames, Fits frame) (halts : Halts ending shot stop) (calls : Nat) {inbox : Inbox}
    (between : inbox.Between frames ending) (calm : ∀ e ∈ inbox.stream.failures, passing e = true) :
    (resumeFrames calls inbox).Follows frames ending stop ∧
      (frames.length + inbox.stream.failures.length < calls → (resumeFrames calls inbox).stopped = some stop) := by
  induction calls generalizing frames inbox with
  | zero => exact ⟨⟨frames, rfl, Or.inl ⟨rfl, between⟩⟩, fun few => absurd few (Nat.not_lt_zero _)⟩
  | succ calls ih =>
    rw [resumeFrames]
    cases frames with
    | nil =>
      have ends := readFrameResumable_halts halts between.holds
      rcases run : readFrameResumable inbox with ⟨e | found, t⟩
      · rcases ends.bad_of_run run with rfl | ⟨kept, met⟩
        · simp only [halts.final]
          exact ⟨⟨[], rfl, Or.inr ⟨rfl, rfl⟩⟩, fun _ => rfl⟩
        · rw [met, List.forall_mem_cons] at calm
          have starts : t.Between [] ending := ⟨kept, ⟨_, kept⟩⟩
          simp only [calm.1, if_true]
          have later := ih (show ∀ frame ∈ ([] : List Bytes), Fits frame from nofun) starts calm.2
          refine ⟨later.1, fun enough => later.2 ?_⟩
          rw [met, List.length_cons] at enough
          omega
      · exact (ends.good_of_run run).elim
    | cons frame left =>
      rw [List.forall_mem_cons] at valid
      have ends := between.read valid.1
      rcases run : readFrameResumable inbox with ⟨e | found, t⟩
      · obtain ⟨kept, met⟩ := ends.bad_of_run run
        rw [met, List.forall_mem_cons] at calm
        simp only [calm.1, if_true]
        have later := ih (List.forall_mem_cons.mpr valid) kept calm.2
        refine ⟨later.1, fun enough => later.2 ?_⟩
        rw [met, List.length_cons, List.length_cons] at enough
        rw [List.length_cons]
        omega
      · obtain ⟨rfl, kept, same⟩ := ends.good_of_run run
        have later := ih valid.2 kept (by rw [same]; exact calm)
        obtain ⟨rest, parts, stands⟩ := later.1
        refine ⟨⟨rest, by rw [parts]; rfl, stands⟩, fun enough => later.2 ?_⟩
        rw [List.length_cons] at enough
        rw [same]
        omega

/-- Repeated calls with one buffer bring the frames that one-shot reads bring from the unsplit stream, in order, and
then end as these do. After any number of calls nothing is lost, and the buffer starts the frame that is read next. -/
theorem resumable_reads_alike {frames : List Bytes} {ending : Bytes} {shot stop : IoError}
    (valid : ∀ frame ∈ frames, Fits frame) (halts : Halts ending shot stop) {source : Inbound IoError}
    (arrives : source.octets = wire frames ++ ending) (calm : ∀ e ∈ source.failures, passing e = true) (calls : Nat) :
    (readFrames (frames.length + 1) (unsplit (wire frames ++ ending)) = (frames, some shot) ∧ shot.kind = stop.kind) ∧
      (resumeFrames calls ⟨source, []⟩).Follows frames ending stop ∧
      (frames.length + source.failures.length < calls →
        (resumeFrames calls ⟨source, []⟩).frames = frames ∧ (resumeFrames calls ⟨source, []⟩).stopped = some stop) := by
  have start : Inbox.Holds (wire frames ++ ending) ⟨source, []⟩ := arrives
  obtain ⟨follows, ends⟩ := resumeFrames_follows valid halts calls (start.between (Nat.zero_le _)) calm
  refine ⟨⟨readFrames_run valid halts (unsplit_octets _) (unsplit_quiet _), halts.kind⟩, follows, fun enough => ?_⟩
  have stopped := ends enough
  obtain ⟨left, parts, ⟨open', _⟩ | ⟨_, rfl⟩⟩ := follows
  · rw [open'] at stopped
    cases stopped
  · exact ⟨by rw [parts, List.append_nil], stopped⟩

/-- Two frames split across a timeout in the first length and one in the second body, with a length of zero behind them. -/
def splitSource : Inbound IoError :=
  [.octets 0 [0], .fails ⟨.timedOut, ""⟩, .octets 0 [1, 7, 0, 0], .octets 0 [2, 8], .fails ⟨.wouldBlock, ""⟩,
    .octets 9 [0, 0, 0, 0]]

theorem split_reads_alike :
    (readFrames 3 (unsplit (wire [[7], [8, 9]] ++ [0, 0, 0, 0])) = ([[7], [8, 9]], some (refusal 0)) ∧
        (refusal 0).kind = (refusal 0).kind) ∧
      (resumeFrames 5 ⟨splitSource, []⟩).Follows [[7], [8, 9]] [0, 0, 0, 0] (refusal 0) ∧
      (2 + 2 < 5 → (resumeFrames 5 ⟨splitSource, []⟩).frames = [[7], [8, 9]] ∧
        (resumeFrames 5 ⟨splitSource, []⟩).stopped = some (refusal 0)) := by
  have valid : ∀ frame ∈ ([[7], [8, 9]] : List Bytes), Fits frame := by simp [Fits, maxFrame]
  have halts : Halts [0, 0, 0, 0] (refusal 0) (refusal 0) := Halts.refused [] (by decide) (Or.inl rfl)
  have arrives : splitSource.octets = wire [[7], [8, 9]] ++ [0, 0, 0, 0] := by decide
  exact resumable_reads_alike valid halts arrives (by decide) 5

end BioAuth.Session.Framing
