import BioAuth.Mobile.SecureChannel
import BioAuth.Session.Link
import Mathlib.Data.List.Perm.Basic

namespace BioAuth.Mobile
open BioAuth
open BioAuth.Session (Role KeySchedule Admitted recordCounter nonce)

/-! ### Futures on one channel -/

/-- A channel, the calls on it that wait for the cipher, and the records that `seal` has returned. -/
structure Futures where
  channel : SecureChannel
  waiting : List Awaiting
  sealed : List Bytes

/-- A call is started, and runs up to its `await`; or a call that waits is resumed, and runs to its end. -/
inductive Futures.Turn
  | start (call : ChannelCall)
  | resume (index : Nat)

namespace Futures

def idle (channel : SecureChannel) : Futures := ⟨channel, [], []⟩

/-- The counters of the records, as their first octets say. -/
def counters (world : Futures) : List UInt64 := world.sealed.map recordCounter

/-- A seal that waits with a counter it may still use. -/
def Holds (counter : Int64) : Awaiting → Bool
  | .encrypt held _ => held = counter && held ≠ SecureChannel.maxCounter
  | .decrypt _ _ => false

/-- No frame is sealed while another is being sealed. At its last counter a channel seals nothing. -/
def Alone (world : Futures) : Turn → Prop
  | .start (.sealing cleartext) => Admitted cleartext →
    ∀ counter text, Awaiting.encrypt counter text ∈ world.waiting → counter = SecureChannel.maxCounter
  | _ => True

/-- The record that a call returns, if it is a seal's. -/
def returned : Awaiting → Except ChannelError Bytes → List Bytes
  | .encrypt _ _, .ok record => [record]
  | _, _ => []

variable [Crypto]

def after (world : Futures) : Turn → Futures
  | .start call =>
    match world.channel.begin call with
    | .ok waiting => { world with waiting := world.waiting ++ [waiting] }
    | .error _ => world
  | .resume index =>
    match world.waiting[index]? with
    | none => world
    | some waiting =>
      let (result, channel) := SecureChannel.finish waiting world.channel
      ⟨channel, world.waiting.eraseIdx index, world.sealed ++ returned waiting result⟩

def run (world : Futures) (turns : List Turn) : Futures := turns.foldl after world

/-- In every step of a run a frame is sealed alone. -/
def OneAtATime (world : Futures) : List Turn → Prop
  | [] => True
  | turn :: turns => world.Alone turn ∧ OneAtATime (world.after turn) turns

/-- Everything resuming a call can do. -/
theorem after_resume (world : Futures) (index : Nat) :
    (world.waiting[index]? = none ∧ world.after (.resume index) = world) ∨
    (∃ counter text, world.waiting[index]? = some (.encrypt counter text) ∧
      ((counter = SecureChannel.maxCounter ∧
          world.after (.resume index) = { world with waiting := world.waiting.eraseIdx index }) ∨
        (counter ≠ SecureChannel.maxCounter ∧
          world.after (.resume index) =
            ⟨{ world.channel with sendCounter := counter + 1 }, world.waiting.eraseIdx index,
              world.sealed ++ [world.channel.record counter text]⟩))) ∨
    ∃ counter record receiveCounter, world.waiting[index]? = some (.decrypt counter record) ∧
      world.after (.resume index) =
        ⟨{ world.channel with receiveCounter }, world.waiting.eraseIdx index, world.sealed⟩ := by
  cases found : world.waiting[index]? with
  | none =>
    left
    simp only [after, found, and_self]
  | some waiting =>
    right
    cases waiting with
    | encrypt counter text =>
      left
      refine ⟨counter, text, rfl, ?_⟩
      by_cases last : counter = SecureChannel.maxCounter
      · left
        simp only [after, found, SecureChannel.finish_encrypt, if_pos last, returned, List.append_nil]
        exact ⟨last, trivial⟩
      · right
        simp only [after, found, SecureChannel.finish_encrypt, if_neg last, returned]
        exact ⟨last, trivial⟩
    | decrypt counter record =>
      right
      simp only [after, found]
      rcases ran : SecureChannel.finish (.decrypt counter record) world.channel with ⟨e | clear, channel⟩
      · rw [SecureChannel.finish_error ran]
        exact ⟨counter, record, world.channel.receiveCounter, rfl, by simp only [returned, List.append_nil]⟩
      · obtain ⟨_, _, rfl⟩ := SecureChannel.finish_decrypt_eq_ok.mp ran
        exact ⟨counter, record, counter + 1, rfl, by simp only [returned, List.append_nil]⟩

/-- Everything starting a call can do. -/
theorem after_start (world : Futures) (call : ChannelCall) :
    world.after (.start call) = world ∨
    (∃ cleartext, call = .sealing cleartext ∧ Admitted cleartext ∧ world.after (.start call) =
      { world with waiting := world.waiting ++ [.encrypt world.channel.sendCounter cleartext] }) ∨
    ∃ record, world.after (.start call) =
      { world with waiting := world.waiting ++ [.decrypt world.channel.receiveCounter record] } := by
  simp only [after]
  cases begun : world.channel.begin call with
  | error e => exact Or.inl rfl
  | ok waiting =>
    right
    cases call with
    | sealing cleartext =>
      obtain ⟨admitted, rfl⟩ := SecureChannel.begin_sealing_eq_ok.mp begun
      exact Or.inl ⟨cleartext, rfl, admitted, rfl⟩
    | opening record =>
      obtain ⟨_, _, rfl⟩ := SecureChannel.begin_opening_eq_ok.mp begun
      exact Or.inr ⟨record, rfl⟩

/-- While frames are sealed one at a time, a seal that waits holds the counter of the next record. -/
structure Spaced (world : Futures) : Prop where
  counts : Counts world.channel.sendCounter
  held : ∀ counter text, Awaiting.encrypt counter text ∈ world.waiting → counter = world.channel.sendCounter
  one : world.waiting.countP (Holds world.channel.sendCounter) ≤ 1
  used : ∀ counter ∈ world.counters, counter.toNat < world.channel.sendCounter.toUInt64.toNat
  distinct : world.counters.Nodup

theorem recordCounter_record (channel : SecureChannel) (counter : Int64) (text : Bytes) :
    recordCounter (channel.record counter text) = counter.toUInt64 := Session.recordCounter_encode _ _

omit [Crypto] in
theorem idle_spaced {channel : SecureChannel} (counts : Counts channel.sendCounter) : (idle channel).Spaced where
  counts := counts
  held _ _ never := nomatch never
  one := Nat.zero_le _
  used _ never := nomatch never
  distinct := List.nodup_nil

variable {world : Futures}

theorem Spaced.start (spaced : world.Spaced) {call : ChannelCall} (alone : world.Alone (.start call)) :
    (world.after (.start call)).Spaced := by
  rcases world.after_start call with same | ⟨cleartext, rfl, admitted, same⟩ | ⟨record, same⟩
  · rwa [same]
  · rw [same]
    refine ⟨spaced.counts, ?_, ?_, spaced.used, spaced.distinct⟩
    · intro counter text member
      rcases List.mem_append.mp member with old | new
      · exact spaced.held counter text old
      · cases List.mem_singleton.mp new
        rfl
    · have none : world.waiting.countP (Holds world.channel.sendCounter) = 0 := by
        rw [List.countP_eq_zero]
        intro waiting member
        cases waiting with
        | encrypt counter text => simp [Holds, alone admitted counter text member]
        | decrypt counter record => simp [Holds]
      simp only [List.countP_append, none, Nat.zero_add]
      exact List.countP_le_length
  · rw [same]
    refine ⟨spaced.counts, ?_, ?_, spaced.used, spaced.distinct⟩
    · intro counter text member
      exact spaced.held counter text ((List.mem_append.mp member).resolve_right (by simp))
    · have one := spaced.one
      simpa [List.countP_append, Holds] using one

omit [Crypto] in
/-- What resuming a call leaves waiting. -/
theorem countP_eraseIdx {index : Nat} {waiting : Awaiting} (found : world.waiting[index]? = some waiting)
    (p : Awaiting → Bool) :
    world.waiting.countP p = (world.waiting.eraseIdx index).countP p + if p waiting then 1 else 0 := by
  obtain ⟨within, rfl⟩ := List.getElem?_eq_some_iff.mp found
  rw [← List.Perm.countP_eq p (List.getElem_cons_eraseIdx_perm within), List.countP_cons]

theorem Spaced.resume (spaced : world.Spaced) (index : Nat) : (world.after (.resume index)).Spaced := by
  have fewer : (world.waiting.eraseIdx index).Sublist world.waiting := List.eraseIdx_sublist ..
  rcases world.after_resume index with ⟨_, same⟩ | ⟨counter, text, found, ⟨last, same⟩ | ⟨room, same⟩⟩ |
    ⟨counter, record, received, _, same⟩
  · rwa [same]
  · rw [same]
    exact ⟨spaced.counts, fun counter text member => spaced.held counter text (fewer.subset member),
      (fewer.countP_le).trans spaced.one, spaced.used, spaced.distinct⟩
  · have current := spaced.held counter text (List.mem_of_getElem? found)
    subst current
    obtain ⟨counts, added⟩ := spaced.counts.succ room
    have moved := Session.checkedAdd_eq_some added
    -- The seal that is resumed was the only one that waited.
    have none : ∀ other text, Awaiting.encrypt other text ∉ world.waiting.eraseIdx index := by
      intro other text member
      have same := spaced.held other text (fewer.subset member)
      have positive : 0 < (world.waiting.eraseIdx index).countP (Holds world.channel.sendCounter) :=
        List.countP_pos_iff.mpr ⟨_, member, by simp [Holds, room, same]⟩
      have one := spaced.one
      rw [countP_eraseIdx found, if_pos (by simp [Holds, room])] at one
      omega
    have stamp := recordCounter_record world.channel world.channel.sendCounter text
    rw [same]
    refine ⟨counts, fun other text member => absurd member (none other text), ?_, ?_, ?_⟩
    · refine (Nat.le_of_eq (List.countP_eq_zero.mpr ?_)).trans (Nat.zero_le 1)
      intro waiting member
      cases waiting with
      | encrypt other text => exact absurd member (none other text)
      | decrypt other record => simp [Holds]
    · intro counter member
      simp only [counters, List.map_append, List.map_cons, List.map_nil, List.mem_append, List.mem_singleton] at member
      change counter.toNat < (world.channel.sendCounter + 1).toUInt64.toNat
      rcases member with old | new
      · have below := spaced.used counter old
        omega
      · rw [new, stamp]
        omega
    · simp only [counters, List.map_append, List.map_cons, List.map_nil, stamp]
      refine List.nodup_append.mpr ⟨spaced.distinct, List.nodup_singleton _, ?_⟩
      intro counter old other new same
      have below := spaced.used counter old
      rw [same, List.mem_singleton.mp new] at below
      omega
  · rw [same]
    exact ⟨spaced.counts, fun counter text member => spaced.held counter text (fewer.subset member),
      (fewer.countP_le).trans spaced.one, spaced.used, spaced.distinct⟩

theorem Spaced.after (spaced : world.Spaced) {turn : Turn} (alone : world.Alone turn) : (world.after turn).Spaced := by
  cases turn with
  | start call => exact spaced.start alone
  | resume index => exact spaced.resume index

theorem Spaced.run (spaced : world.Spaced) {turns : List Turn} (alone : world.OneAtATime turns) :
    (world.run turns).Spaced := by
  induction turns generalizing world with
  | nil => exact spaced
  | cons turn turns ih => exact ih (spaced.after alone.1) alone.2

/-- Two records have a counter between them, or will have. -/
def Twice (counter : Int64) (world : Futures) : Prop :=
  2 ≤ world.counters.count counter.toUInt64 + world.waiting.countP (Holds counter)

theorem Twice.after {counter : Int64} (twice : world.Twice counter) (turn : Turn) : (world.after turn).Twice counter := by
  unfold Twice at *
  cases turn with
  | start call =>
    rcases world.after_start call with same | ⟨cleartext, _, _, same⟩ | ⟨record, same⟩
    · rwa [same]
    · rw [same]
      simp only [List.countP_append]
      exact twice.trans (Nat.add_le_add_left (Nat.le_add_right _ _) _)
    · rw [same]
      simp only [List.countP_append]
      exact twice.trans (Nat.add_le_add_left (Nat.le_add_right _ _) _)
  | resume index =>
    rcases world.after_resume index with ⟨_, same⟩ | ⟨held, text, found, ⟨last, same⟩ | ⟨room, same⟩⟩ |
      ⟨held, record, received, found, same⟩
    · rwa [same]
    · rw [countP_eraseIdx found, if_neg (by simp [Holds, last])] at twice
      rw [same]
      exact twice
    · rw [countP_eraseIdx found] at twice
      rw [same]
      simp only [counters, List.map_append, List.map_cons, List.map_nil, List.count_append, recordCounter_record] at twice ⊢
      by_cases own : held = counter
      · subst own
        rw [if_pos (by simp [Holds, room])] at twice
        rw [List.count_singleton_self]
        omega
      · rw [if_neg (by simp [Holds, own])] at twice
        omega
    · rw [countP_eraseIdx found, if_neg (by simp [Holds])] at twice
      rw [same]
      exact twice

theorem Twice.run {counter : Int64} (twice : world.Twice counter) (turns : List Turn) :
    (world.run turns).Twice counter := by
  induction turns generalizing world with
  | nil => exact twice
  | cons turn turns ih => exact ih (twice.after turn)

/-- A second seal that starts in the meantime reads the counter that the first has read. -/
theorem Spaced.twice (spaced : world.Spaced) {turn : Turn} (crowded : ¬world.Alone turn) :
    (world.after turn).Twice world.channel.sendCounter := by
  unfold Alone at crowded
  split at crowded
  · rename_i cleartext
    simp only [not_forall] at crowded
    obtain ⟨admitted, counter, text, member, room⟩ := crowded
    have current := spaced.held counter text member
    subst current
    have one : 0 < world.waiting.countP (Holds world.channel.sendCounter) :=
      List.countP_pos_iff.mpr ⟨_, member, by simp [Holds, room]⟩
    have begun := SecureChannel.begin_sealing_eq_ok.mpr
      (⟨admitted, rfl⟩ : Admitted cleartext ∧ _ = Awaiting.encrypt world.channel.sendCounter cleartext)
    have own : Holds world.channel.sendCounter (.encrypt world.channel.sendCounter cleartext) = true := by
      simp [Holds, room]
    unfold Twice
    simp only [Futures.after, begun, List.countP_append, List.countP_singleton, own]
    simp only [if_true]
    omega
  · exact absurd trivial crowded

/-- The calls that wait are resumed one after another. -/
theorem run_resumes (world : Futures) :
    (world.run (List.replicate world.waiting.length (.resume 0))).waiting = [] := by
  induction known : world.waiting.length generalizing world with
  | zero => exact List.length_eq_zero_iff.mp known
  | succ n ih =>
    have shorter : (world.after (.resume 0)).waiting.length = n := by
      have erased : (world.after (.resume 0)).waiting = world.waiting.eraseIdx 0 := by
        rcases world.after_resume 0 with ⟨none, _⟩ | ⟨_, _, _, ⟨_, same⟩ | ⟨_, same⟩⟩ | ⟨_, _, _, _, same⟩
        · rw [List.getElem?_eq_none_iff] at none
          omega
        · rw [same]
        · rw [same]
        · rw [same]
      rw [erased, List.length_eraseIdx_of_lt (by omega), known]
      rfl
    rw [List.replicate_succ]
    exact ih (world.after (.resume 0)) shorter

theorem run_append (world : Futures) (turns later : List Turn) :
    world.run (turns ++ later) = (world.run turns).run later := List.foldl_append

theorem oneAtATime_append {turns later : List Turn} :
    world.OneAtATime (turns ++ later) ↔ world.OneAtATime turns ∧ (world.run turns).OneAtATime later := by
  induction turns generalizing world with
  | nil => exact ⟨fun later => ⟨trivial, later⟩, fun both => both.2⟩
  | cons turn turns ih =>
    change world.Alone turn ∧ (world.after turn).OneAtATime (turns ++ later) ↔ (_ ∧ _) ∧ _
    rw [ih, and_assoc]
    rfl

theorem oneAtATime_resumes (indices : List Nat) : world.OneAtATime (indices.map .resume) := by
  induction indices generalizing world with
  | nil => trivial
  | cons index indices ih => exact ⟨trivial, ih⟩

/-- A frame that is sealed while another is being sealed gets a counter that is used twice. -/
theorem Spaced.twice_run (spaced : world.Spaced) {turns : List Turn} (crowded : ¬world.OneAtATime turns) :
    ∃ counter, (world.run turns).Twice counter := by
  induction turns generalizing world with
  | nil => exact absurd trivial crowded
  | cons turn turns ih =>
    by_cases alone : world.Alone turn
    · exact ih (spaced.after alone) fun rest => crowded ⟨alone, rest⟩
    · exact ⟨_, (spaced.twice alone).run turns⟩

/-- Whatever becomes of the calls that wait, no two records have one counter, exactly when frames are sealed one at a
time. -/
theorem Spaced.distinct_iff (spaced : world.Spaced) (turns : List Turn) :
    (∀ indices : List Nat, (world.run (turns ++ indices.map .resume)).counters.Nodup) ↔ world.OneAtATime turns := by
  constructor
  · intro distinct
    by_contra crowded
    obtain ⟨counter, twice⟩ := spaced.twice_run crowded
    have ended := twice.run (List.replicate (world.run turns).waiting.length (.resume 0))
    unfold Twice at ended
    rw [run_resumes, List.countP_nil, ← List.map_replicate, ← run_append] at ended
    have once := List.nodup_iff_count_le_one.mp (distinct (List.replicate (world.run turns).waiting.length 0)) counter.toUInt64
    omega
  · intro alone indices
    exact (spaced.run (oneAtATime_append.mpr ⟨alone, oneAtATime_resumes indices⟩)).distinct

end Futures

/-! ### A phone and a desktop -/

/-- One direction: the frames that were given a record, the records under way with the frames they were made of, and the
frames read. -/
structure Lane where
  sent : List Bytes
  inFlight : List (Bytes × Bytes)
  read : List Bytes

/-- A channel on each side, and the two directions between them. -/
structure Conversation where
  phone : SecureChannel
  desktop : Session.SecureChannel
  fromPhone : Lane
  fromDesktop : Lane

inductive Conversation.Move
  | phoneSeals (frame : Bytes)
  | desktopSeals (frame : Bytes)
  | phoneOpens
  | desktopOpens

def Lane.empty : Lane := ⟨[], [], []⟩

def Lane.post (lane : Lane) (frame record : Bytes) : Lane :=
  { lane with sent := lane.sent ++ [frame], inFlight := lane.inFlight ++ [(frame, record)] }

def Lane.take (lane : Lane) (clear : Bytes) : Lane :=
  { lane with inFlight := lane.inFlight.tail, read := lane.read ++ [clear] }

variable [Crypto]

namespace Conversation

/-- Two fresh channels over the same traffic keys. -/
def start (role : Role) (schedule : KeySchedule) (binding : Block 32) : Conversation where
  phone := SecureChannel.new role schedule binding
  desktop := Session.SecureChannel.new role.peer schedule binding
  fromPhone := .empty
  fromDesktop := .empty

/-- Calls one after another. The record that is opened is the oldest under way; one that does not open stays. -/
def step (talk : Conversation) : Move → Conversation
  | .phoneSeals frame =>
    match SecureChannel.seal frame talk.phone with
    | (.ok record, phone) => { talk with phone, fromPhone := talk.fromPhone.post frame record }
    | (.error _, phone) => { talk with phone }
  | .desktopSeals frame =>
    match Session.SecureChannel.seal frame talk.desktop with
    | (.ok record, desktop) => { talk with desktop, fromDesktop := talk.fromDesktop.post frame record }
    | (.error _, desktop) => { talk with desktop }
  | .phoneOpens =>
    match talk.fromDesktop.inFlight with
    | [] => talk
    | (_, record) :: _ =>
      match SecureChannel.open record talk.phone with
      | (.ok clear, phone) => { talk with phone, fromDesktop := talk.fromDesktop.take clear }
      | (.error _, phone) => { talk with phone }
  | .desktopOpens =>
    match talk.fromPhone.inFlight with
    | [] => talk
    | (_, record) :: _ =>
      match Session.SecureChannel.open record talk.desktop with
      | (.ok clear, desktop) => { talk with desktop, fromPhone := talk.fromPhone.take clear }
      | (.error _, desktop) => { talk with desktop }

def run (talk : Conversation) (moves : List Move) : Conversation := moves.foldl step talk

end Conversation

/-- The record of a frame under a key, a binding and a counter. -/
def wire (key binding : Block 32) (counter : UInt64) (frame : Bytes) : Bytes :=
  BigEndian.encode 8 counter.toNat ++ Crypto.chacha20Poly1305.encrypt key (nonce counter) binding.val frame

/-- The records under way are those of the frames not yet read, under the counters in between. -/
structure Lane.Sound (lane : Lane) (key binding : Block 32) (sends receives : UInt64) : Prop where
  whole : lane.read ++ lane.inFlight.map Prod.fst = lane.sent
  sent : sends.toNat = lane.sent.length
  read : receives.toNat = lane.read.length
  records : ∀ (i : Nat) frame record, lane.inFlight[i]? = some (frame, record) →
    Admitted frame ∧ record = wire key binding (UInt64.ofNat (lane.read.length + i)) frame

variable {lane : Lane} {key binding : Block 32} {sends receives next : UInt64}

omit [Crypto] in
theorem ofNat_of_toNat {counter : UInt64} {n : Nat} (same : counter.toNat = n) : UInt64.ofNat n = counter := by
  rw [← same, UInt64.ofNat_toNat]

theorem Lane.empty_sound : Lane.empty.Sound key binding 0 0 where
  whole := rfl
  sent := rfl
  read := rfl
  records _ _ _ never := nomatch never

theorem Lane.Sound.post (sound : lane.Sound key binding sends receives) {frame : Bytes} (admitted : Admitted frame)
    (added : Session.checkedAdd sends = some next) :
    (lane.post frame (wire key binding sends frame)).Sound key binding next receives := by
  have moved := Session.checkedAdd_eq_some added
  have sent := sound.sent
  have length := congrArg List.length sound.whole
  rw [List.length_append, List.length_map] at length
  refine ⟨?_, ?_, sound.read, ?_⟩
  · simp only [Lane.post, List.map_append, List.map_cons, List.map_nil, ← List.append_assoc, sound.whole]
  · simp only [Lane.post, List.length_append, List.length_singleton]
    omega
  · intro i text record found
    simp only [Lane.post] at found ⊢
    by_cases within : i < lane.inFlight.length
    · rw [List.getElem?_append_left within] at found
      exact sound.records i text record found
    · rw [List.getElem?_append_right (by omega), List.getElem?_singleton] at found
      split at found
      · cases found
        exact ⟨admitted, by rw [ofNat_of_toNat (by omega : sends.toNat = _)]⟩
      · cases found

theorem Lane.Sound.take (sound : lane.Sound key binding sends receives) {frame record : Bytes}
    {rest : List (Bytes × Bytes)} (first : lane.inFlight = (frame, record) :: rest)
    (added : Session.checkedAdd receives = some next) : (lane.take frame).Sound key binding sends next := by
  have moved := Session.checkedAdd_eq_some added
  have read := sound.read
  refine ⟨?_, sound.sent, ?_, ?_⟩
  · change (lane.read ++ [frame]) ++ lane.inFlight.tail.map Prod.fst = lane.sent
    rw [← sound.whole, first, List.tail_cons, List.map_cons, List.append_assoc, List.singleton_append]
  · simp only [Lane.take, List.length_append, List.length_singleton]
    omega
  · intro i text other found
    simp only [Lane.take, first, List.tail_cons, List.length_append, List.length_singleton] at found ⊢
    have old := sound.records (i + 1) text other (by rwa [first, List.getElem?_cons_succ])
    rwa [Nat.add_assoc, Nat.add_comm 1 i]

/-- The oldest record under way is that of the receiving counter. -/
theorem Lane.Sound.oldest (sound : lane.Sound key binding sends receives) {frame record : Bytes}
    {rest : List (Bytes × Bytes)} (first : lane.inFlight = (frame, record) :: rest) :
    Admitted frame ∧ record = wire key binding receives frame := by
  have found := sound.records 0 frame record (by rw [first, List.getElem?_cons_zero])
  rwa [Nat.add_zero, ofNat_of_toNat sound.read] at found

/-- A channel opens the record of its receiving counter. -/
theorem open_wire (correct : Crypto.chacha20Poly1305.Correct tagLen) {channel : Session.SecureChannel} {frame : Bytes}
    (admitted : Admitted frame) (added : Session.checkedAdd channel.receiveCounter = some next) :
    Session.SecureChannel.open (wire channel.receive channel.binding channel.receiveCounter frame) channel =
      (.ok frame, { channel with receiveCounter := next }) := by
  have inStep : Session.InStep ({ channel with
      send := channel.receive
      sendCounter := channel.receiveCounter } : Session.SecureChannel) channel := ⟨rfl, rfl, rfl⟩
  exact inStep.open_record correct admitted added

theorem seal_wire {channel after : Session.SecureChannel} {frame record : Bytes}
    (run : Session.SecureChannel.seal frame channel = (.ok record, after)) :
    Admitted frame ∧ record = wire channel.send channel.binding channel.sendCounter frame ∧
      ∃ next, Session.checkedAdd channel.sendCounter = some next ∧ after = { channel with sendCounter := next } := by
  rcases channel.seal_cases frame with ⟨_, same⟩ | ⟨_, _, same⟩ | ⟨next, admitted, added, same⟩
  · rw [same] at run
    cases run
  · rw [same] at run
    cases run
  · rw [same] at run
    cases run
    exact ⟨admitted, rfl, next, added, rfl⟩

namespace Conversation

/-- The two sides hold the keys of one schedule, and each direction stands where its channels do. -/
structure Sound (talk : Conversation) : Prop where
  upward : talk.desktop.receive = talk.phone.sendKey
  downward : talk.phone.receiveKey = talk.desktop.send
  bound : talk.desktop.binding = talk.phone.binding
  sends : Counts talk.phone.sendCounter
  receives : Counts talk.phone.receiveCounter
  fromPhone : talk.fromPhone.Sound talk.phone.sendKey talk.phone.binding talk.phone.sendCounter.toUInt64
    talk.desktop.receiveCounter
  fromDesktop : talk.fromDesktop.Sound talk.desktop.send talk.desktop.binding talk.desktop.sendCounter
    talk.phone.receiveCounter.toUInt64

theorem start_sound (role : Role) (schedule : KeySchedule) (binding : Block 32) :
    (start role schedule binding).Sound := by
  have zero : Counts 0 := by
    unfold Counts
    decide
  cases role with
  | server => exact ⟨rfl, rfl, rfl, zero, zero, Lane.empty_sound, Lane.empty_sound⟩
  | client => exact ⟨rfl, rfl, rfl, zero, zero, Lane.empty_sound, Lane.empty_sound⟩

variable {talk : Conversation}

theorem Sound.phoneSeals (sound : talk.Sound) (frame : Bytes) : (talk.step (.phoneSeals frame)).Sound := by
  unfold step
  dsimp only
  split
  · rename_i record phone run
    obtain ⟨admitted, room, rfl, rfl⟩ := SecureChannel.seal_eq_ok.mp run
    obtain ⟨counts, added⟩ := sound.sends.succ room
    exact ⟨sound.upward, sound.downward, sound.bound, counts, sound.receives, sound.fromPhone.post admitted added,
      sound.fromDesktop⟩
  · rename_i e phone run
    cases SecureChannel.call_error run
    exact sound

theorem Sound.desktopSeals (sound : talk.Sound) (frame : Bytes) : (talk.step (.desktopSeals frame)).Sound := by
  unfold step
  dsimp only
  split
  · rename_i record desktop run
    obtain ⟨admitted, rfl, next, added, rfl⟩ := seal_wire run
    exact ⟨sound.upward, sound.downward, sound.bound, sound.sends, sound.receives, sound.fromPhone,
      sound.fromDesktop.post admitted added⟩
  · rename_i e desktop run
    rcases talk.desktop.seal_cases frame with ⟨_, same⟩ | ⟨_, _, same⟩ | ⟨_, _, _, same⟩
    · cases run.symm.trans same
      exact sound
    · cases run.symm.trans same
      exact sound
    · cases run.symm.trans same

/-- The oldest record from the desktop opens on the phone, before the phone's last counter. -/
theorem Sound.phone_opens (sound : talk.Sound) (correct : Crypto.chacha20Poly1305.Correct tagLen) {frame record : Bytes}
    {rest : List (Bytes × Bytes)} (first : talk.fromDesktop.inFlight = (frame, record) :: rest)
    (room : talk.phone.receiveCounter ≠ SecureChannel.maxCounter) :
    SecureChannel.open record talk.phone =
      (.ok frame, { talk.phone with receiveCounter := talk.phone.receiveCounter + 1 }) := by
  obtain ⟨admitted, rfl⟩ := sound.fromDesktop.oldest first
  have added : Session.checkedAdd talk.phone.mirror.receiveCounter = some (talk.phone.receiveCounter + 1).toUInt64 :=
    (sound.receives.succ room).2
  have opened := open_wire correct admitted added
  have same : wire talk.desktop.send talk.desktop.binding talk.phone.receiveCounter.toUInt64 frame =
      wire talk.phone.mirror.receive talk.phone.mirror.binding talk.phone.mirror.receiveCounter frame := by
    rw [← sound.downward, sound.bound]
    rfl
  rw [same]
  obtain ⟨after, run, _⟩ := (SecureChannel.open_mirror sound.receives room).mp opened
  rw [run, (SecureChannel.open_eq_ok.mp run).2.2.2.2]

/-- The oldest record from the phone opens on the desktop. -/
theorem Sound.desktop_opens (sound : talk.Sound) (correct : Crypto.chacha20Poly1305.Correct tagLen)
    {frame record : Bytes} {rest : List (Bytes × Bytes)} (first : talk.fromPhone.inFlight = (frame, record) :: rest) :
    ∃ next, Session.checkedAdd talk.desktop.receiveCounter = some next ∧
      Session.SecureChannel.open record talk.desktop =
        (.ok frame, { talk.desktop with receiveCounter := next }) := by
  obtain ⟨admitted, rfl⟩ := sound.fromPhone.oldest first
  have room : ∃ next, Session.checkedAdd talk.desktop.receiveCounter = some next := by
    cases added : Session.checkedAdd talk.desktop.receiveCounter with
    | some next => exact ⟨next, rfl⟩
    | none =>
      have last := Session.checkedAdd_eq_none.mp added
      have read := sound.fromPhone.read
      have sent := sound.fromPhone.sent
      have counts : talk.phone.sendCounter.toUInt64.toNat < 2 ^ 63 := sound.sends
      have length := congrArg List.length sound.fromPhone.whole
      rw [List.length_append] at length
      omega
  obtain ⟨next, added⟩ := room
  refine ⟨next, added, ?_⟩
  rw [← sound.upward, ← sound.bound]
  exact open_wire correct admitted added

theorem Sound.phoneOpens (sound : talk.Sound) (correct : Crypto.chacha20Poly1305.Correct tagLen) :
    (talk.step .phoneOpens).Sound := by
  cases first : talk.fromDesktop.inFlight with
  | nil => simpa only [step, first] using sound
  | cons entry rest =>
    obtain ⟨frame, record⟩ := entry
    by_cases room : talk.phone.receiveCounter = SecureChannel.maxCounter
    · rcases run : SecureChannel.open record talk.phone with ⟨e | clear, phone⟩
      · simp only [step, first, run]
        cases SecureChannel.call_error run
        exact sound
      · exact absurd room (SecureChannel.open_eq_ok.mp run).2.2.2.1
    · obtain ⟨counts, added⟩ := sound.receives.succ room
      simp only [step, first, sound.phone_opens correct first room]
      exact ⟨sound.upward, sound.downward, sound.bound, sound.sends, counts, sound.fromPhone,
        sound.fromDesktop.take first added⟩

theorem Sound.desktopOpens (sound : talk.Sound) (correct : Crypto.chacha20Poly1305.Correct tagLen) :
    (talk.step .desktopOpens).Sound := by
  cases first : talk.fromPhone.inFlight with
  | nil => simpa only [step, first] using sound
  | cons entry rest =>
    obtain ⟨frame, record⟩ := entry
    obtain ⟨next, added, run⟩ := sound.desktop_opens correct first
    simp only [step, first, run]
    exact ⟨sound.upward, sound.downward, sound.bound, sound.sends, sound.receives, sound.fromPhone.take first added,
      sound.fromDesktop⟩

theorem Sound.run (sound : talk.Sound) (correct : Crypto.chacha20Poly1305.Correct tagLen) (moves : List Move) :
    (talk.run moves).Sound := by
  induction moves generalizing talk with
  | nil => exact sound
  | cons move moves ih =>
    apply ih
    cases move with
    | phoneSeals frame => exact sound.phoneSeals frame
    | desktopSeals frame => exact sound.desktopSeals frame
    | phoneOpens => exact sound.phoneOpens correct
    | desktopOpens => exact sound.desktopOpens correct

/-- What the two channels are for. The phone's counters end one short of 2^63. -/
structure Exact (talk : Conversation) : Prop where
  fromPhone : talk.fromPhone.read ++ talk.fromPhone.inFlight.map Prod.fst = talk.fromPhone.sent
  fromDesktop : talk.fromDesktop.read ++ talk.fromDesktop.inFlight.map Prod.fst = talk.fromDesktop.sent
  phone_seals : ∀ frame, Admitted frame → talk.fromPhone.sent.length + 1 < 2 ^ 63 →
    ∃ record phone, SecureChannel.seal frame talk.phone = (.ok record, phone)
  desktop_seals : ∀ frame, Admitted frame → talk.fromDesktop.sent.length + 1 < 2 ^ 64 →
    ∃ record desktop, Session.SecureChannel.seal frame talk.desktop = (.ok record, desktop)
  phone_opens : ∀ frame record rest, talk.fromDesktop.inFlight = (frame, record) :: rest →
    talk.fromDesktop.read.length + 1 < 2 ^ 63 → ∃ phone, SecureChannel.open record talk.phone = (.ok frame, phone)
  desktop_opens : ∀ frame record rest, talk.fromPhone.inFlight = (frame, record) :: rest →
    ∃ desktop, Session.SecureChannel.open record talk.desktop = (.ok frame, desktop)

omit [Crypto] in
theorem ne_maxCounter {counter : Int64} {n : Nat} (same : counter.toUInt64.toNat = n) (room : n + 1 < 2 ^ 63) :
    counter ≠ SecureChannel.maxCounter := by
  rintro rfl
  have last : SecureChannel.maxCounter.toUInt64.toNat = 2 ^ 63 - 1 := by decide
  omega

theorem Sound.exact (sound : talk.Sound) (correct : Crypto.chacha20Poly1305.Correct tagLen) : talk.Exact where
  fromPhone := sound.fromPhone.whole
  fromDesktop := sound.fromDesktop.whole
  phone_seals frame admitted room :=
    ⟨_, _, SecureChannel.seal_eq_ok.mpr ⟨admitted, ne_maxCounter sound.fromPhone.sent room, rfl, rfl⟩⟩
  desktop_seals frame admitted room := by
    have sent := sound.fromDesktop.sent
    rcases talk.desktop.seal_cases frame with ⟨refused, _⟩ | ⟨_, exhausted, _⟩ | ⟨_, _, _, run⟩
    · exact absurd admitted refused
    · have last := Session.checkedAdd_eq_none.mp exhausted
      omega
    · exact ⟨_, _, run⟩
  phone_opens frame record rest first room :=
    ⟨_, sound.phone_opens correct first (ne_maxCounter sound.fromDesktop.read room)⟩
  desktop_opens frame record rest first := by
    obtain ⟨next, _, run⟩ := sound.desktop_opens correct first
    exact ⟨_, run⟩

end Conversation

/-- Whatever becomes of the calls under way, the phone's records have counters of their own exactly when it seals one
frame at a time. Called so, its channel and the desktop's carry every frame, in order and once. -/
theorem phone_channel_exact (correct : Crypto.chacha20Poly1305.Correct tagLen) (role : Role) (schedule : KeySchedule)
    (binding : Block 32) :
    (∀ turns : List Futures.Turn,
        (∀ indices : List Nat, ((Futures.idle (SecureChannel.new role schedule binding)).run
          (turns ++ indices.map .resume)).counters.Nodup) ↔
        (Futures.idle (SecureChannel.new role schedule binding)).OneAtATime turns) ∧
      ∀ moves : List Conversation.Move, ((Conversation.start role schedule binding).run moves).Exact := by
  have fresh := Conversation.start_sound role schedule binding
  constructor
  · intro turns
    exact (Futures.idle_spaced fresh.sends).distinct_iff turns
  · intro moves
    exact (fresh.run correct moves).exact correct

/-- Traffic keys of a plain schedule. -/
def plainSchedule : KeySchedule := @KeySchedule.derive Crypto.plain [] (Block.replicate 32 0)

omit [Crypto] in
theorem phone_channel_exact_plain :
    letI := Crypto.plain
    (∀ turns : List Futures.Turn,
        (∀ indices : List Nat, ((Futures.idle (SecureChannel.new .client plainSchedule ⟨List.replicate 32 0, rfl⟩)).run
          (turns ++ indices.map .resume)).counters.Nodup) ↔
        (Futures.idle (SecureChannel.new .client plainSchedule ⟨List.replicate 32 0, rfl⟩)).OneAtATime turns) ∧
      ∀ moves : List Conversation.Move,
        ((Conversation.start .client plainSchedule ⟨List.replicate 32 0, rfl⟩).run moves).Exact :=
  @phone_channel_exact Crypto.plain (Aead.plain_correct (Block 32) (Block 12) tagLen) .client plainSchedule
    ⟨List.replicate 32 0, rfl⟩

omit [Crypto] in
/-- The second seal starts before the first is done. -/
theorem overlapping_seals_share_a_counter :
    letI := Crypto.plain
    ¬((Futures.idle (SecureChannel.new .client plainSchedule ⟨List.replicate 32 0, rfl⟩)).run
      [.start (.sealing [7]), .start (.sealing [8]), .resume 0, .resume 0]).counters.Nodup := by
  decide +kernel

end BioAuth.Mobile
