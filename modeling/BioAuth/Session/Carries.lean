import BioAuth.Session.NetworkSession

namespace BioAuth.Session
open BioAuth

variable [Crypto]

/-- A record goes out, is read back however it arrives, and opens to the frame. -/
structure Delivers (session : NetworkSession) (peer : SecureChannel) (frame record : Bytes) : Prop where
  sealed : ∃ channel, SecureChannel.seal frame session.channel = (.ok record, channel)
  written : ∀ before, Framing.writeFrame record ⟨before, none⟩ = (.ok (), ⟨before ++ Framing.spell record, none⟩)
  read : ∀ (source : Inbound IoError) rest, source.octets = Framing.spell record ++ rest →
    (∀ e ∈ source.failures, Framing.interrupted e = true) →
    ∃ after : Inbound IoError, Framing.readFrame source = (.ok record, after) ∧ after.octets = rest
  resumed : ∀ (source : Inbound IoError) rest, source.octets = Framing.spell record ++ rest →
    ∃ after : Inbound IoError, Framing.readFrameResumable.retry source.failures.length ⟨source, []⟩ =
      (.ok record, ⟨after, []⟩) ∧ after.octets = rest
  opened : ∃ channel, SecureChannel.open record peer = (.ok frame, channel)

/-- What is asked of a session about to send a frame: a frame the channel admits is delivered, and a send that
fails leaves a channel whose next record the peer opens. -/
structure Carries (session : NetworkSession) (peer : SecureChannel) (frame : Bytes) : Prop where
  delivers : Admitted frame → ∃ record, Delivers session peer frame record
  survives : ∀ e after, NetworkSession.send frame session = (.error e, after) → ∀ next, Admitted next →
    ∃ record sealed opened, SecureChannel.seal next after.channel = (.ok record, sealed) ∧
      SecureChannel.open record peer = (.ok next, opened)

/-- Everything a send can do. -/
theorem send_cases (session : NetworkSession) (frame : Bytes) :
    (∃ e, (session.closed = true ∨ ¬Admitted frame ∨ checkedAdd session.channel.sendCounter = none) ∧
        NetworkSession.send frame session = (.error e, session)) ∨
      ∃ next, session.closed = false ∧ Admitted frame ∧ checkedAdd session.channel.sendCounter = some next ∧
        NetworkSession.send frame session = NetworkSession.onOutbound
          (Framing.writeFrame (session.channel.record frame))
          { session with channel := { session.channel with sendCounter := next } } := by
  unfold NetworkSession.send
  rw [Fallible.bind_run_ok _ (Fallible.get_run session)]
  by_cases closed : session.closed = false
  · rw [require, if_pos closed, Fallible.bind_run_ok _ (Fallible.pure_run () session)]
    rcases session.channel.seal_cases frame with ⟨refused, run⟩ | ⟨_, added, run⟩ | ⟨next, admitted, added, run⟩
    · have failed : NetworkSession.onChannel (SecureChannel.seal frame) session =
          (.error ⟨.invalidData, "invalid cleartext frame size"⟩, session) := by
        simp only [NetworkSession.onChannel, run]
        rfl
      exact Or.inl ⟨_, Or.inr (Or.inl refused), Fallible.bind_run_error _ failed⟩
    · have failed : NetworkSession.onChannel (SecureChannel.seal frame) session =
          (.error ⟨.invalidData, "secure-session record counter exhausted"⟩, session) := by
        simp only [NetworkSession.onChannel, run]
        rfl
      exact Or.inl ⟨_, Or.inr (Or.inr added), Fallible.bind_run_error _ failed⟩
    · have sealed : NetworkSession.onChannel (SecureChannel.seal frame) session =
          (.ok (session.channel.record frame),
            { session with channel := { session.channel with sendCounter := next } }) := by
        simp only [NetworkSession.onChannel, run]
      exact Or.inr ⟨next, closed, admitted, added, Fallible.bind_run_ok _ sealed⟩
  · rw [require, if_neg closed]
    exact Or.inl ⟨_, Or.inl (by simpa using closed), rfl⟩

variable {session : NetworkSession} {peer : SecureChannel} {frame : Bytes}

/-- The frames whose records can be written. -/
theorem fits_record (correct : Crypto.chacha20Poly1305.Correct tagLen) (channel : SecureChannel) (frame : Bytes) :
    Framing.Fits (channel.record frame) ↔ frame.length + recordOverhead ≤ Framing.maxFrame := by
  have length := channel.record_length correct frame
  unfold Framing.Fits
  rw [length, ← List.length_pos_iff, length]
  unfold recordOverhead
  omega

theorem seal_run {sender : SecureChannel} {next : UInt64} (admitted : Admitted frame)
    (added : checkedAdd sender.sendCounter = some next) :
    SecureChannel.seal frame sender = (.ok (sender.record frame), { sender with sendCounter := next }) := by
  rcases sender.seal_cases frame with ⟨refused, _⟩ | ⟨_, exhausted, _⟩ | ⟨next', _, added', run⟩
  · exact absurd admitted refused
  · cases added.symm.trans exhausted
  · cases added.symm.trans added'
    exact run

theorem delivers (correct : Crypto.chacha20Poly1305.Correct tagLen) (inStep : InStep session.channel peer)
    (room : checkedAdd session.channel.sendCounter ≠ none) (admitted : Admitted frame)
    (small : frame.length + recordOverhead ≤ Framing.maxFrame) :
    Delivers session peer frame (session.channel.record frame) := by
  obtain ⟨next, added⟩ := Option.ne_none_iff_exists'.mp room
  have fits := (fits_record correct session.channel frame).mpr small
  exact {
    sealed := ⟨_, seal_run admitted added⟩
    written := fun before => Framing.writeFrame_run fits rfl
    read := by
      intro source rest arrives quiet
      obtain ⟨after, run, left, _⟩ := Framing.readFrame_run fits arrives quiet
      exact ⟨after, run, left⟩
    resumed := fun source rest arrives =>
      Framing.readFrameResumable_retry fits _ (by simpa [Framing.Inbox.Holds] using arrives) (by simp) le_rfl
    opened := ⟨_, inStep.open_record correct admitted added⟩ }

/-- A record that the wire refuses takes the counter with it: the peer opens nothing that is sealed next. -/
theorem not_survives (inStep : InStep session.channel peer) {next : UInt64}
    (added : checkedAdd session.channel.sendCounter = some next) {after : NetworkSession}
    (moved : after.channel = { session.channel with sendCounter := next }) {text record : Bytes}
    {sealed opened : SecureChannel} (run : SecureChannel.seal text after.channel = (.ok record, sealed)) :
    SecureChannel.open record peer ≠ (.ok text, opened) := by
  intro opens
  obtain ⟨_, counter, _⟩ := SecureChannel.open_eq_ok.mp opens
  rcases after.channel.seal_cases text with ⟨_, failed⟩ | ⟨_, _, failed⟩ | ⟨_, _, _, done⟩
  · rw [run] at failed
    cases failed
  · rw [run] at failed
    cases failed
  · rw [run] at done
    cases done
    have stamp : recordCounter (after.channel.record text) = next := by
      rw [SecureChannel.record, recordCounter_encode, moved]
    have forward := checkedAdd_eq_some added
    rw [stamp, inStep.counter] at counter
    rw [counter] at forward
    omega

/-- The frames between the two limits are sealed and then refused by the framing. -/
theorem not_carried (correct : Crypto.chacha20Poly1305.Correct tagLen)
    (large : Framing.maxFrame < frame.length + recordOverhead) (admitted : Admitted frame) : ¬Carries session peer frame := by
  intro carries
  obtain ⟨record, delivered⟩ := carries.delivers admitted
  obtain ⟨channel, run⟩ := delivered.sealed
  rcases session.channel.seal_cases frame with ⟨_, failed⟩ | ⟨_, _, failed⟩ | ⟨_, _, _, done⟩
  · rw [run] at failed
    cases failed
  · rw [run] at failed
    cases failed
  · rw [run] at done
    cases done
    have refused : ¬Framing.Fits (session.channel.record frame) := by
      rw [fits_record correct]
      omega
    have written := delivered.written []
    rw [Framing.writeFrame_refused refused] at written
    cases written

/-- A session carries a frame exactly when its record is within the framing's limit, not only the frame within the
channel's, and the wire takes it, if anything is sent at all. -/
theorem carries_iff (correct : Crypto.chacha20Poly1305.Correct tagLen) (inStep : InStep session.channel peer)
    (room : checkedAdd session.channel.sendCounter ≠ none) :
    Carries session peer frame ↔
      ¬Admitted frame ∨ frame.length + recordOverhead ≤ Framing.maxFrame ∧
        (session.closed = true ∨ session.outbound.fault = none) := by
  obtain ⟨next, added⟩ := Option.ne_none_iff_exists'.mp room
  constructor
  · intro carries
    by_cases admitted : Admitted frame
    · right
      by_cases small : frame.length + recordOverhead ≤ Framing.maxFrame
      · refine ⟨small, ?_⟩
        by_contra broken
        obtain ⟨opened, faulty⟩ := not_or.mp broken
        obtain ⟨⟨taken, e⟩, fault⟩ := Option.ne_none_iff_exists'.mp faulty
        have fits := (fits_record correct session.channel frame).mpr small
        rcases send_cases session frame with ⟨_, reason, _⟩ | ⟨next', _, _, added', run⟩
        · rcases reason with closed | refused | exhausted
          · exact opened closed
          · exact refused admitted
          · exact room exhausted
        · cases added.symm.trans added'
          have failed := Framing.writeFrame_fault fits fault
          simp only [NetworkSession.onOutbound, failed] at run
          obtain ⟨record, sealed, opened, sealing, opening⟩ := carries.survives e _ run [0] (by decide)
          exact not_survives inStep added rfl sealing opening
      · exact absurd carries (not_carried correct (by omega) admitted)
    · exact Or.inl admitted
  · intro condition
    constructor
    · intro admitted
      rcases condition with refused | ⟨small, _⟩
      · exact absurd admitted refused
      · exact ⟨_, delivers correct inStep room admitted small⟩
    · intro e after failed text admitted
      rcases send_cases session frame with ⟨_, _, run⟩ | ⟨next', opened, sendable, added', run⟩
      · rw [run] at failed
        cases failed
        exact ⟨_, _, _, seal_run admitted added, inStep.open_record correct admitted added⟩
      · rcases condition with refused | ⟨small, works⟩
        · exact absurd sendable refused
        · have working : session.outbound.fault = none := works.resolve_left (by simp [opened])
          have fits := (fits_record correct session.channel frame).mpr small
          have done := Framing.writeFrame_run fits working
          simp only [NetworkSession.onOutbound, done] at run
          rw [run] at failed
          cases failed

/-- A fresh session of a phone, and the channel of its peer. -/
def plainSession : NetworkSession where
  channel := SecureChannel.new .client (@KeySchedule.derive Crypto.plain [] (Block.replicate 32 0)) (Block.replicate 32 0)
  outbound := ⟨[], none⟩
  inbox := ⟨[], []⟩
  closed := false

def plainPeer : SecureChannel :=
  SecureChannel.new .server (@KeySchedule.derive Crypto.plain [] (Block.replicate 32 0)) (Block.replicate 32 0)

omit [Crypto] in
theorem plain_inStep : InStep plainSession.channel plainPeer := ⟨rfl, rfl, rfl⟩

omit [Crypto] in
theorem short_carried : @Carries Crypto.plain plainSession plainPeer [7] :=
  (@carries_iff Crypto.plain plainSession plainPeer [7] (Aead.plain_correct (Block 32) (Block 12) tagLen) plain_inStep
    (by decide)).mpr (Or.inr ⟨by decide, Or.inr rfl⟩)

/-- A WebAuthn request as long as its own check allows. -/
def longRequest : Bytes := webauthnMagic ++ List.replicate 8186 0x20

omit [Crypto] in
theorem longRequest_length : longRequest.length = 8192 := by
  have magic : webauthnMagic.length = 6 := by decide
  rw [longRequest, List.length_append, List.length_replicate, magic]

omit [Crypto] in
/-- A frame within every limit that its sender checks, which ends the session. -/
theorem longest_not_carried :
    webauthnFrame (some (List.replicate 8186 0x20)) = .ok longRequest ∧ Admitted longRequest ∧
      InStep plainSession.channel plainPeer ∧ checkedAdd plainSession.channel.sendCounter ≠ none ∧
      ¬@Carries Crypto.plain plainSession plainPeer longRequest := by
  have length := longRequest_length
  have within : longRequest.length ≤ maxFrame := length.le
  have some : longRequest ≠ [] := by
    rw [← List.length_pos_iff, length]
    decide
  have admitted : Admitted longRequest := ⟨some, within⟩
  have framed : webauthnFrame (.some (List.replicate 8186 0x20)) = .ok longRequest := webauthnFrame_run within
  have large : Framing.maxFrame < longRequest.length + recordOverhead := by
    rw [length]
    decide
  exact ⟨framed, admitted, plain_inStep, by decide,
    @not_carried Crypto.plain plainSession plainPeer longRequest (Aead.plain_correct (Block 32) (Block 12) tagLen)
      large admitted⟩

end BioAuth.Session
