import BioAuth.Lib.Inbound
import BioAuth.Lib.Text

namespace BioAuth.Session
open BioAuth

/-- `io::ErrorKind`, as far as these crates name it. -/
inductive ErrorKind
  | invalidInput
  | invalidData
  | unexpectedEof
  | brokenPipe
  | interrupted
  | wouldBlock
  | timedOut
  | other
  deriving DecidableEq

structure IoError where
  kind : ErrorKind
  message : String
  deriving DecidableEq

namespace Framing

/-- The largest handshake frame or encrypted record accepted before allocation. -/
def maxFrame : Nat := 8192

/-- `PREFIX`. -/
def prefixLen : Nat := 4

/-- The writing half of a connection: what has gone out, and how many octets of the next write the platform takes
before it fails. -/
structure Outbound where
  written : Bytes
  fault : Option (Nat × IoError)

/-- `Write::write_all` and `Write::flush`. -/
def writeAll (buffer : Bytes) : Fallible Outbound IoError Unit := fun out =>
  match out.fault with
  | none => (.ok (), { out with written := out.written ++ buffer })
  | some (taken, e) => (.error e, { out with written := out.written ++ buffer.take taken })

/-- A frame behind its length. -/
def spell (frame : Bytes) : Bytes := BigEndian.encode prefixLen frame.length ++ frame

def writeFrame (frame : Bytes) : Fallible Outbound IoError Unit := do
  require (frame ≠ [] ∧ frame.length ≤ maxFrame)
    (IoError.mk .invalidInput s!"refusing to write a {frame.length}-byte frame")
  writeAll (BigEndian.encode prefixLen frame.length ++ frame)

def interrupted (e : IoError) : Bool := e.kind = .interrupted

def readFrame : Fallible (Inbound IoError) IoError Bytes := do
  let announced ← Inbound.readExact interrupted ⟨.unexpectedEof, "failed to fill whole buffer"⟩ prefixLen
  let len := BigEndian.decode announced
  require (len ≠ 0 ∧ len ≤ maxFrame) (IoError.mk .invalidData s!"peer announced a {len}-byte frame")
  Inbound.readExact interrupted ⟨.unexpectedEof, "failed to fill whole buffer"⟩ len

/-- The reading half of a connection, with what has been read of a frame that is not whole yet. -/
structure Inbox where
  stream : Inbound IoError
  pending : Bytes

/-- One read of the stream. An error it meets is gone from the stream. -/
def readSome (wanted : Nat) : Fallible Inbox IoError Bytes := fun inbox =>
  match Inbound.read wanted inbox.stream with
  | (result, stream) => (result, { inbox with stream })

/-- The loop of `fill_to`. Each round adds at least one octet, so as many rounds as octets are missing are enough. -/
def fillRounds (target : Nat) : Nat → Fallible Inbox IoError Unit
  | 0 => pure ()
  | rounds + 1 => do
    let inbox ← get
    if inbox.pending.length < target then
      let chunk ← readSome (min (target - inbox.pending.length) 1024)
      require (chunk ≠ []) (IoError.mk .unexpectedEof "connection closed inside a frame")
      modify fun inbox => { inbox with pending := inbox.pending ++ chunk }
      fillRounds target rounds
    else
      pure ()

def fillTo (target : Nat) : Fallible Inbox IoError Unit := do
  let inbox ← get
  fillRounds target (target - inbox.pending.length)

/-- Reads across short timeouts without losing a partial frame. -/
def readFrameResumable : Fallible Inbox IoError Bytes := do
  fillTo prefixLen
  let inbox ← get
  let len := BigEndian.decode (inbox.pending.take prefixLen)
  if len = 0 ∨ len > maxFrame then do
    set ({ inbox with pending := [] } : Inbox)
    throw (IoError.mk .invalidData s!"peer announced a {len}-byte frame")
  else do
    fillTo (prefixLen + len)
    let inbox ← get
    let frame := (inbox.pending.drop prefixLen).take len
    set ({ inbox with pending := inbox.pending.drop (prefixLen + len) } : Inbox)
    return frame

/-- A frame of a size that may be written. -/
def Fits (frame : Bytes) : Prop := frame ≠ [] ∧ frame.length ≤ maxFrame

theorem spell_length (frame : Bytes) : (spell frame).length = prefixLen + frame.length := by
  unfold spell
  rw [List.length_append, BigEndian.encode_length]

theorem decode_announced {frame : Bytes} (fits : Fits frame) :
    BigEndian.decode (BigEndian.encode prefixLen frame.length) = frame.length := by
  have bound := fits.2
  unfold maxFrame at bound
  exact BigEndian.decode_encode_of_lt (by unfold prefixLen; omega)

theorem writeFrame_run {frame : Bytes} {out : Outbound} (fits : Fits frame) (works : out.fault = none) :
    writeFrame frame out = (.ok (), { out with written := out.written ++ spell frame }) := by
  have pass : frame ≠ [] ∧ frame.length ≤ maxFrame := fits
  unfold writeFrame
  rw [require, if_pos pass, Fallible.bind_run_ok _ (Fallible.pure_run () out)]
  simp only [writeAll, works, spell]

theorem writeFrame_refused {frame : Bytes} {out : Outbound} (large : ¬Fits frame) :
    writeFrame frame out = (.error ⟨.invalidInput, s!"refusing to write a {frame.length}-byte frame"⟩, out) := by
  have fail : ¬(frame ≠ [] ∧ frame.length ≤ maxFrame) := large
  unfold writeFrame
  rw [require, if_neg fail]
  rfl

theorem writeFrame_fault {frame : Bytes} {out : Outbound} {taken : Nat} {e : IoError} (fits : Fits frame)
    (fault : out.fault = some (taken, e)) :
    writeFrame frame out = (.error e, { out with written := out.written ++ (spell frame).take taken }) := by
  have pass : frame ≠ [] ∧ frame.length ≤ maxFrame := fits
  unfold writeFrame
  rw [require, if_pos pass, Fallible.bind_run_ok _ (Fallible.pure_run () out)]
  simp only [writeAll, fault, spell]

/-- A frame that was written is read back, however it arrives, when only retried errors lie ahead. -/
theorem readFrame_run {frame rest : Bytes} (fits : Fits frame) {source : Inbound IoError}
    (arrives : source.octets = spell frame ++ rest) (quiet : ∀ e ∈ source.failures, interrupted e = true) :
    ∃ after : Inbound IoError, readFrame source = (.ok frame, after) ∧ after.octets = rest ∧
      ∀ e ∈ after.failures, interrupted e = true := by
  have announced := decode_announced fits
  have positive := List.length_pos_iff.mpr fits.1
  have length : (BigEndian.encode prefixLen frame.length).length = prefixLen := BigEndian.encode_length _ _
  unfold spell at arrives
  rw [List.append_assoc] at arrives
  obtain ⟨middle, first, body, calm⟩ := Inbound.readExact_run
    ⟨.unexpectedEof, "failed to fill whole buffer"⟩ arrives quiet
  obtain ⟨after, second, left, later⟩ := Inbound.readExact_run
    ⟨.unexpectedEof, "failed to fill whole buffer"⟩ body calm
  rw [length] at first
  refine ⟨after, ?_, left, later⟩
  unfold readFrame
  rw [Fallible.bind_run_ok _ first]
  simp only [announced, require]
  rw [if_pos ⟨by omega, fits.2⟩]
  exact second

/-- What is pending and what is still to come, together. -/
def Inbox.Holds (content : Bytes) (inbox : Inbox) : Prop := inbox.pending ++ inbox.stream.octets = content

/-- One read of a content that goes on adds to what is pending or meets one error. -/
theorem readSome_ends {content : Bytes} {inbox : Inbox} (wanted : Nat) (positive : 0 < wanted)
    (holds : inbox.Holds content) (more : inbox.pending.length < content.length) :
    (readSome wanted).Ends
      (fun chunk t => chunk ≠ [] ∧ chunk.length ≤ wanted ∧ t.pending = inbox.pending ∧
        inbox.pending ++ chunk ++ t.stream.octets = content ∧ t.stream.failures = inbox.stream.failures)
      (fun e t => t.Holds content ∧ t.pending = inbox.pending ∧ inbox.stream.failures = e :: t.stream.failures)
      inbox := by
  have left : inbox.stream.octets ≠ [] := by
    intro none
    unfold Inbox.Holds at holds
    rw [none, List.append_nil] at holds
    rw [holds] at more
    exact lt_irrefl _ more
  have ends := Inbound.read_ends positive inbox.stream left
  unfold Inbox.Holds at holds
  rcases run : Inbound.read wanted inbox.stream with ⟨e | chunk, stream⟩
  · obtain ⟨met, same⟩ := ends.bad_of_run run
    simp only [Fallible.Ends, readSome, run]
    exact ⟨(congrArg (inbox.pending ++ ·) same).trans holds, trivial, met⟩
  · obtain ⟨some, bound, split, same⟩ := ends.good_of_run run
    simp only [Fallible.Ends, readSome, run]
    refine ⟨some, bound, trivial, ?_, same⟩
    rw [List.append_assoc, ← split, holds]

/-- Filling to a target stops there, or at an error with everything kept. -/
theorem fillRounds_ends {content : Bytes} {target : Nat} (enough : target ≤ content.length) (rounds : Nat)
    {inbox : Inbox} (holds : inbox.Holds content) (within : target - inbox.pending.length ≤ rounds) :
    (fillRounds target rounds).Ends
      (fun _ t => t.Holds content ∧ t.pending.length = max target inbox.pending.length ∧
        t.stream.failures = inbox.stream.failures)
      (fun e t => t.Holds content ∧ t.pending.length < target ∧ inbox.stream.failures = e :: t.stream.failures)
      inbox := by
  induction rounds generalizing inbox with
  | zero => exact Fallible.ends_pure.mpr ⟨holds, by omega, rfl⟩
  | succ rounds ih =>
    apply Fallible.Ends.bind_of_run (Fallible.get_run inbox)
    by_cases missing : inbox.pending.length < target
    · rw [if_pos missing]
      have read := readSome_ends (min (target - inbox.pending.length) 1024) (by omega) holds (by omega)
      refine Fallible.Ends.bind _ (read.mono (fun _ _ done => done) ?_) ?_
      · intro e t failed
        obtain ⟨kept, same, met⟩ := failed
        exact ⟨kept, by rw [same]; exact missing, met⟩
      · intro chunk t done
        obtain ⟨some, bound, same, whole, calm⟩ := done
        have positive := List.length_pos_iff.mpr some
        refine Fallible.Ends.bind (fun _ u => t = u)
          (Fallible.ends_require (fun _ => rfl) fun none => absurd some none) ?_
        intro _ _ unmoved
        subst unmoved
        refine Fallible.Ends.bind_of_run (Fallible.modify_run _ _) ?_
        have kept : Inbox.Holds content { t with pending := t.pending ++ chunk } := by
          unfold Inbox.Holds
          rwa [same]
        have next := ih kept (by simp only [List.length_append, same]; omega)
        refine next.mono ?_ ?_
        · intro _ u after
          obtain ⟨kept, length, later⟩ := after
          simp only [List.length_append, same] at length
          exact ⟨kept, by omega, later.trans calm⟩
        · intro e u after
          obtain ⟨kept, short, met⟩ := after
          exact ⟨kept, short, calm.symm.trans met⟩
    · rw [if_neg missing]
      exact Fallible.ends_pure.mpr ⟨holds, by omega, rfl⟩

theorem fillTo_ends {content : Bytes} (target : Nat) (enough : target ≤ content.length) {inbox : Inbox}
    (holds : inbox.Holds content) :
    (fillTo target).Ends
      (fun _ t => t.Holds content ∧ t.pending.length = max target inbox.pending.length ∧
        t.stream.failures = inbox.stream.failures)
      (fun e t => t.Holds content ∧ t.pending.length < target ∧ inbox.stream.failures = e :: t.stream.failures)
      inbox :=
  Fallible.Ends.bind_of_run (Fallible.get_run inbox) (fillRounds_ends enough _ holds le_rfl)

theorem Inbox.Holds.pending_eq {content : Bytes} {inbox : Inbox} (holds : inbox.Holds content) :
    inbox.pending = content.take inbox.pending.length := by
  unfold Inbox.Holds at holds
  rw [← holds, List.take_left]

/-- A resumable read of a frame that was written yields the frame and leaves what follows it, or stops at an error
and keeps all it has. -/
theorem readFrameResumable_ends {frame rest : Bytes} (fits : Fits frame) {inbox : Inbox}
    (holds : inbox.Holds (spell frame ++ rest)) (within : inbox.pending.length ≤ (spell frame).length) :
    readFrameResumable.Ends
      (fun found t => found = frame ∧ t.pending = [] ∧ t.stream.octets = rest ∧
        t.stream.failures = inbox.stream.failures)
      (fun e t => t.Holds (spell frame ++ rest) ∧ t.pending.length ≤ (spell frame).length ∧
        inbox.stream.failures = e :: t.stream.failures)
      inbox := by
  have positive := List.length_pos_iff.mpr fits.1
  have length := spell_length frame
  have longer : (spell frame).length ≤ (spell frame ++ rest).length := by simp
  have front : (spell frame ++ rest).take prefixLen = BigEndian.encode prefixLen frame.length := by
    unfold spell
    rw [List.append_assoc, List.take_left' (BigEndian.encode_length _ _)]
  unfold readFrameResumable
  refine Fallible.Ends.bind _ ((fillTo_ends prefixLen (by omega) holds).mono
    (fun _ _ done => done) ?_) ?_
  · intro e t failed
    obtain ⟨kept, short, met⟩ := failed
    exact ⟨kept, by omega, met⟩
  · intro _ t done
    obtain ⟨kept, filled, calm⟩ := done
    refine Fallible.Ends.bind_of_run (Fallible.get_run t) ?_
    have announced : t.pending.take prefixLen = BigEndian.encode prefixLen frame.length := by
      rw [kept.pending_eq, List.take_take, min_eq_left (by omega), front]
    have bound := fits.2
    simp only [announced, decode_announced fits]
    rw [if_neg (by omega)]
    refine Fallible.Ends.bind _ ((fillTo_ends (prefixLen + frame.length) (by omega) kept).mono
      (fun _ _ done => done) ?_) ?_
    · intro e u failed
      obtain ⟨kept, short, met⟩ := failed
      exact ⟨kept, by omega, calm.symm.trans met⟩
    · intro _ u done
      obtain ⟨last, full, later⟩ := done
      refine Fallible.Ends.bind_of_run (Fallible.get_run u) (Fallible.Ends.bind_of_run (Fallible.set_run _ _) ?_)
      have total : u.pending = spell frame := by
        rw [last.pending_eq, full, show max (prefixLen + frame.length) t.pending.length = (spell frame).length by omega,
          List.take_left]
      have body : ((spell frame).drop prefixLen).take frame.length = frame := by
        unfold spell
        rw [List.drop_left' (BigEndian.encode_length _ _), List.take_length]
      unfold Inbox.Holds at last
      rw [total, List.append_cancel_left_eq] at last
      refine Fallible.ends_pure.mpr ⟨?_, ?_, last, later.trans calm⟩
      · rw [total, body]
      · rw [total, ← length, List.drop_length]

/-- As many attempts as there are errors ahead read the frame. -/
theorem readFrameResumable_retry {frame rest : Bytes} (fits : Fits frame) (attempts : Nat) {inbox : Inbox}
    (holds : inbox.Holds (spell frame ++ rest)) (within : inbox.pending.length ≤ (spell frame).length)
    (enough : inbox.stream.failures.length ≤ attempts) :
    ∃ after : Inbound IoError, readFrameResumable.retry attempts inbox = (.ok frame, ⟨after, []⟩) ∧
      after.octets = rest := by
  induction attempts generalizing inbox with
  | zero =>
    have ends := readFrameResumable_ends fits holds within
    rcases run : readFrameResumable inbox with ⟨e | found, t⟩
    · obtain ⟨_, _, met⟩ := ends.bad_of_run run
      rw [met, List.length_cons] at enough
      omega
    · obtain ⟨rfl, empty, left, _⟩ := ends.good_of_run run
      exact ⟨t.stream, by rw [← empty]; exact run, left⟩
  | succ attempts ih =>
    have ends := readFrameResumable_ends fits holds within
    rcases run : readFrameResumable inbox with ⟨e | found, t⟩
    · obtain ⟨kept, short, met⟩ := ends.bad_of_run run
      rw [met, List.length_cons] at enough
      obtain ⟨after, done, left⟩ := ih kept short (by omega)
      refine ⟨after, ?_, left⟩
      simp only [Fallible.retry, run]
      exact done
    · obtain ⟨rfl, empty, left, _⟩ := ends.good_of_run run
      refine ⟨t.stream, ?_, left⟩
      simp only [Fallible.retry, run]
      rw [← empty]

end Framing

end BioAuth.Session
