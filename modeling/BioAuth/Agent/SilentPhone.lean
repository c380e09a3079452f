import BioAuth.Agent.QrNetwork
import BioAuth.Session.ResumableFraming

namespace BioAuth

namespace Session
open Framing

namespace Framing

/-- These octets of a stream tell what its first record is, or that its length is not admitted. -/
def Decided (octets : Bytes) : Prop :=
  prefixLen ≤ octets.length ∧
    (BigEndian.decode (octets.take prefixLen) = 0 ∨ maxFrame < BigEndian.decode (octets.take prefixLen) ∨
      prefixLen + BigEndian.decode (octets.take prefixLen) ≤ octets.length)

instance (octets : Bytes) : Decidable (Decided octets) := inferInstanceAs (Decidable (_ ∧ _))

/-- A read of a record fails at an error of the stream exactly when the error comes before the record has. All that came
before the error is lost then. -/
theorem readFrame_burst (source : Inbound IoError) :
    readFrame.Ends (fun _ _ => Decided (Inbound.burst interrupted source).1)
      (fun e after => ¬Decided (Inbound.burst interrupted source).1 ∧
          (Inbound.burst interrupted source).2 = some e ∧
          source.octets = (Inbound.burst interrupted source).1 ++ after.octets ∨
        (e.kind = .unexpectedEof ∨ e.kind = .invalidData) ∧
          (Decided (Inbound.burst interrupted source).1 ∨ (Inbound.burst interrupted source).2 = none)) source := by
  unfold readFrame
  have first := Inbound.readExact_burst interrupted ⟨.unexpectedEof, "failed to fill whole buffer"⟩ prefixLen source
  refine Fallible.Ends.bind _ (first.mono (fun _ _ done => done) ?_) ?_
  · intro e after failed
    obtain ⟨few, ⟨stop, split⟩ | ⟨stop, rfl⟩⟩ := failed
    · exact Or.inl ⟨fun decided => absurd decided.1 (by omega), stop, split⟩
    · exact Or.inr ⟨Or.inl rfl, Or.inr stop⟩
  · intro announced middle done
    obtain ⟨long, rfl, rest, split⟩ := done
    refine Fallible.Ends.require_bind ?_ fun pass => ?_
    · intro refused
      exact Or.inr ⟨Or.inr rfl, Or.inl ⟨long, by omega⟩⟩
    · have second := Inbound.readExact_burst interrupted ⟨.unexpectedEof, "failed to fill whole buffer"⟩
        (BigEndian.decode ((Inbound.burst interrupted source).1.take prefixLen)) middle
      rw [rest] at second
      refine second.mono ?_ ?_
      · intro frame after done
        have enough := done.1
        rw [List.length_drop] at enough
        exact ⟨long, Or.inr (Or.inr (by omega))⟩
      · intro e after failed
        obtain ⟨few, lost⟩ := failed
        rw [List.length_drop] at few
        rcases lost with ⟨stop, left⟩ | ⟨stop, rfl⟩
        · refine Or.inl ⟨?_, stop, ?_⟩
          · rintro ⟨_, zero | large | whole⟩ <;> omega
          · rw [split, left, ← List.append_assoc, List.take_append_drop]
        · exact Or.inr ⟨Or.inl rfl, Or.inr stop⟩

end Framing

section Records
variable [Crypto]

/-- The records of several frames. -/
def SecureChannel.sealAll : List Bytes → Fallible SecureChannel SessionError (List Bytes)
  | [] => pure []
  | cleartext :: later => do
    let record ← SecureChannel.seal cleartext
    let records ← sealAll later
    return record :: records

def SecureChannel.openAll : List Bytes → Fallible SecureChannel SessionError (List Bytes)
  | [] => pure []
  | record :: later => do
    let cleartext ← SecureChannel.open record
    let cleartexts ← openAll later
    return cleartext :: cleartexts

/-- In step, a run of records opens to what was sealed. -/
theorem InStep.openAll_records (correct : Crypto.chacha20Poly1305.Correct tagLen) {sender peer after : SecureChannel}
    (inStep : InStep sender peer) {cleartexts records : List Bytes}
    (sealed : SecureChannel.sealAll cleartexts sender = (.ok records, after)) :
    (SecureChannel.openAll records peer).1 = .ok cleartexts := by
  induction cleartexts generalizing sender peer records with
  | nil =>
    obtain ⟨rfl, rfl⟩ := Fallible.pure_eq_ok.mp sealed
    rfl
  | cons cleartext later ih =>
    unfold SecureChannel.sealAll at sealed
    obtain ⟨record, middle, first, rest⟩ := Fallible.bind_eq_ok.mp sealed
    obtain ⟨more, _, second, last⟩ := Fallible.bind_eq_ok.mp rest
    obtain ⟨rfl, rfl⟩ := Fallible.pure_eq_ok.mp last
    rcases sender.seal_cases cleartext with ⟨_, run⟩ | ⟨_, _, run⟩ | ⟨next, admitted, added, run⟩
    · rw [run] at first
      cases first
    · rw [run] at first
      cases first
    · rw [run] at first
      cases first
      have opened := inStep.open_record correct admitted added
      have kept : InStep { sender with sendCounter := next } { peer with receiveCounter := next } :=
        ⟨inStep.key, inStep.binding, rfl⟩
      have tail := ih kept second
      rw [SecureChannel.openAll, Fallible.bind_run_ok _ opened]
      rcases run : SecureChannel.openAll more { peer with receiveCounter := next } with ⟨e | cleartexts, end'⟩
      · rw [run] at tail
        cases tail
      · rw [run] at tail
        cases tail
        rw [Fallible.bind_run_ok _ run]
        rfl

end Records

end Session

namespace Agent
open BioAuth.Protocol (Enrolment ProtocolError SessionAttach)
open BioAuth.Session (HandshakeOutcome InStep Identities IoError SecureChannel SessionError)
open BioAuth.Session.Framing (Decided Fits Halts interrupted passing readFrame readFrame_burst
  resumable_reads_alike resumeFrames wire)

/-- A connection whose handshake is done: what it brings, and the channel over it. -/
structure Line where
  source : Inbound IoError
  channel : SecureChannel

namespace Line
variable {α : Type}

/-- A read of the stream, with its error as a value. -/
def reading (step : Fallible (Inbound IoError) IoError α) : Fallible Line ConnectionError (Except IoError α) :=
  fun line => (.ok (step line.source).1, { line with source := (step line.source).2 })

def opening (step : Fallible SecureChannel SessionError α) : Fallible Line ConnectionError α := fun line =>
  ((step line.channel).1.mapError ConnectionError.session, { line with channel := (step line.channel).2 })

end Line

section Windows
variable [Crypto] {α : Type}

/-- Waits for one message while a window lasts. Setting the window and taking it back may each fail. -/
def readWithin (set restore : Except IoError Unit) (decode : Bytes → Except ConnectionError α) :
    Fallible Line ConnectionError (Option α) := do
  set.mapError ConnectionError.io
  let record ← Line.reading readFrame
  restore.mapError ConnectionError.io
  match record with
  | .error e => if IoError.timeout e then return none else throw (ConnectionError.io e)
  | .ok record => do
    let frame ← Line.opening (SecureChannel.open record)
    let message ← decode frame
    return some message

/-- The credential a phone says its session carries. -/
def readAttach (set restore : Except IoError Unit) : Fallible Line ConnectionError (Option String) :=
  readWithin set restore fun frame => do
    require (SessionAttach.recognizes frame = true) ConnectionError.notAnAttach
    let attach ← (SessionAttach.decode frame).mapError ConnectionError.protocol
    return attach.credentialId

/-- The enrolment of a phone that already has a stored key. -/
def peekEnrolment (set restore : Except IoError Unit) : Fallible Line ConnectionError (Option Enrolment) :=
  readWithin set restore fun frame => (Enrolment.decode frame).mapError ConnectionError.protocol

/-- Nothing was read and nothing opened. -/
structure Untouched (line after : Line) : Prop where
  octets : after.source.octets = line.source.octets
  channel : after.channel = line.channel

/-- The window closes on a record that has begun to arrive and is not whole. -/
def CutShort (source : Inbound IoError) : Prop :=
  (∃ e, (Inbound.burst interrupted source).2 = some e ∧ IoError.timeout e = true) ∧
    (Inbound.burst interrupted source).1 ≠ [] ∧ ¬Decided (Inbound.burst interrupted source).1

/-- A wait comes to nothing exactly when the read of the record times out. -/
theorem readWithin_eq_none {set restore : Except IoError Unit} {decode : Bytes → Except ConnectionError α}
    {line after : Line} :
    readWithin set restore decode line = (.ok none, after) ↔
      set = .ok () ∧ restore = .ok () ∧ after.channel = line.channel ∧
        ∃ e, readFrame line.source = (.error e, after.source) ∧ IoError.timeout e = true := by
  unfold readWithin
  constructor
  · intro whole
    obtain ⟨_, put, whole⟩ := Fallible.liftM_bind_eq_ok.mp whole
    obtain ⟨record, middle, read, whole⟩ := Fallible.bind_eq_ok.mp whole
    obtain ⟨_, back, rest⟩ := Fallible.liftM_bind_eq_ok.mp whole
    rw [except_mapError_eq_ok] at put back
    obtain ⟨same, rfl⟩ := Prod.mk.inj read
    rcases run : readFrame line.source with ⟨e | frame, source⟩
    · obtain rfl : Except.error e = record := by simpa only [run, Except.ok.injEq] using same
      by_cases timed : IoError.timeout e = true
      · simp only [timed, if_true] at rest
        obtain ⟨_, rfl⟩ := Fallible.pure_eq_ok.mp rest
        exact ⟨put, back, rfl, e, by simp only [run], timed⟩
      · simp only [timed] at rest
        cases rest
    · obtain rfl : Except.ok frame = record := by simpa only [run, Except.ok.injEq] using same
      obtain ⟨_, _, _, rest⟩ := Fallible.bind_eq_ok.mp rest
      obtain ⟨_, _, rest⟩ := Fallible.liftM_bind_eq_ok.mp rest
      cases (Fallible.pure_eq_ok.mp rest).1
  · rintro ⟨put, back, channel, e, read, timed⟩
    refine Fallible.liftM_bind_eq_ok.mpr ⟨(), except_mapError_eq_ok.mpr put, Fallible.bind_eq_ok.mpr
      ⟨.error e, after, ?_, Fallible.liftM_bind_eq_ok.mpr ⟨(), except_mapError_eq_ok.mpr back, ?_⟩⟩⟩
    · unfold Line.reading
      rw [read, ← channel]
    · simp only [timed, if_true]
      rfl

/-- A wait that comes to nothing has cost nothing exactly when its window did not close on part of a record. -/
theorem readWithin_costs_nothing_iff (set restore : Except IoError Unit) (decode : Bytes → Except ConnectionError α)
    (line : Line) :
    (∀ after, readWithin set restore decode line = (.ok none, after) → Untouched line after) ↔
      (set = .ok () → restore = .ok () → ¬CutShort line.source) := by
  have burst := readFrame_burst line.source
  constructor
  · intro free put back cut
    obtain ⟨⟨e, stop, timed⟩, some, undecided⟩ := cut
    rcases run : readFrame line.source with ⟨other | frame, source⟩
    · rcases burst.bad_of_run run with ⟨_, same, split⟩ | ⟨_, decided | none⟩
      · obtain rfl : e = other := Option.some.inj (stop.symm.trans same)
        have silent : readWithin set restore decode line = (.ok none, ⟨source, line.channel⟩) :=
          readWithin_eq_none.mpr ⟨put, back, rfl, e, run, timed⟩
        have kept := congrArg List.length (free _ silent).octets
        have lost := congrArg List.length split
        rw [List.length_append] at lost
        have positive := List.length_pos_iff.mpr some
        change source.octets.length = _ at kept
        omega
      · exact undecided decided
      · rw [none] at stop
        cases stop
    · exact undecided (burst.good_of_run run)
  · intro whole after silent
    obtain ⟨put, back, channel, e, read, timed⟩ := readWithin_eq_none.mp silent
    rcases burst.bad_of_run read with ⟨undecided, stop, split⟩ | ⟨other, _⟩
    · have none : (Inbound.burst interrupted line.source).1 = [] := by
        by_contra some
        exact whole put back ⟨⟨e, stop, timed⟩, some, undecided⟩
      rw [none, List.nil_append] at split
      exact ⟨split.symm, channel⟩
    · unfold IoError.timeout at timed
      rcases other with kind | kind <;> rw [kind] at timed <;> exact absurd timed (by decide)

/-- Every later record of the phone is framed and opened, however it arrives. -/
def Serves (line after : Line) : Prop :=
  ∀ {sender sealed : SecureChannel} {cleartexts records : List Bytes} {ending : Bytes} {shot stop : IoError},
    InStep sender line.channel → SecureChannel.sealAll cleartexts sender = (.ok records, sealed) →
    (∀ record ∈ records, Fits record) → Halts ending shot stop → line.source.octets = wire records ++ ending →
    (∀ e ∈ after.source.failures, passing e = true) →
      ∃ calls, (resumeFrames calls ⟨after.source, []⟩).frames = records ∧
        (SecureChannel.openAll records after.channel).1 = .ok cleartexts

theorem Untouched.serves (correct : Crypto.chacha20Poly1305.Correct tagLen) {line after : Line}
    (untouched : Untouched line after) : Serves line after := by
  intro sender sealed' cleartexts records ending shot stop inStep spelt valid halts arrives calm
  rw [← untouched.octets] at arrives
  have reading := (resumable_reads_alike valid halts arrives calm (records.length + after.source.failures.length + 1)).2.2
  refine ⟨_, (reading (Nat.lt_succ_self _)).1, ?_⟩
  rw [untouched.channel]
  exact inStep.openAll_records correct spelt

/-- When either wait comes to nothing, nothing of the stream is read and the channel is as it was, exactly when the window
did not close on a record that had begun to arrive. The parked session then reads everything the phone sends later. -/
theorem silent_phone_costs_nothing_iff (set restore : Except IoError Unit) (line : Line) :
    ((∀ after, readAttach set restore line = (.ok none, after) → Untouched line after) ↔
        (set = .ok () → restore = .ok () → ¬CutShort line.source)) ∧
      ((∀ after, peekEnrolment set restore line = (.ok none, after) → Untouched line after) ↔
        (set = .ok () → restore = .ok () → ¬CutShort line.source)) ∧
      (Crypto.chacha20Poly1305.Correct tagLen → ∀ after, Untouched line after → Serves line after) :=
  ⟨readWithin_costs_nothing_iff set restore _ line, readWithin_costs_nothing_iff set restore _ line,
    fun correct _ untouched => untouched.serves correct⟩

end Windows

/-- The first octet of a record, the end of the window, and the rest of the record. -/
def begunLine : Line :=
  ⟨[.octets 0 [], .fails ⟨.timedOut, ""⟩, .octets 0 [0, 1, 7]], ⟨Block.replicate 32 0, Block.replicate 32 0,
    Block.replicate 32 0, 0, 0⟩⟩

/-- The octet is gone, so that the parked session takes the rest of the record for a length. -/
theorem begun_record_lost :
    ¬(∀ after, @readAttach Crypto.plain (.ok ()) (.ok ()) begunLine = (.ok none, after) → Untouched begunLine after) ∧
      ¬(∀ after, @peekEnrolment Crypto.plain (.ok ()) (.ok ()) begunLine = (.ok none, after) → Untouched begunLine after) ∧
      (@readAttach Crypto.plain (.ok ()) (.ok ()) begunLine).1 = .ok none ∧
      begunLine.source.octets = wire [[7]] ∧
      (resumeFrames 2 ⟨(@readAttach Crypto.plain (.ok ()) (.ok ()) begunLine).2.source, []⟩).stopped =
        some ⟨.unexpectedEof, "connection closed inside a frame"⟩ := by
  refine ⟨fun free => ?_, fun free => ?_, by decide +kernel, by decide +kernel, by decide +kernel⟩
  · have kept := (free ⟨[.octets 0 [0, 1, 7]], begunLine.channel⟩ rfl).octets
    exact absurd kept (by decide)
  · have kept := (free ⟨[.octets 0 [0, 1, 7]], begunLine.channel⟩ rfl).octets
    exact absurd kept (by decide)

end Agent

end BioAuth
