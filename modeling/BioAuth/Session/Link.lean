import BioAuth.Session.Channel
import Mathlib.Logic.Function.Basic
import Mathlib.Data.List.Infix
import Mathlib.Data.List.Nodup

namespace BioAuth.Session
open BioAuth

/-- One end of a session: its channel, the frames it has sealed with the record returned for each, and the frames
it has opened. -/
structure Party where
  channel : SecureChannel
  sent : List (Bytes × Bytes)
  received : List Bytes

/-- The key an end seals with. -/
def KeySchedule.sends (schedule : KeySchedule) : Role → Block 32
  | .server => schedule.serverToClient
  | .client => schedule.clientToServer

/-- What an end hands to the cipher for its `counter`-th frame. -/
def KeySchedule.sealing (schedule : KeySchedule) (binding : Block 32) (role : Role) (counter : UInt64)
    (frame : Bytes) : Sealing (Block 32) (Block 12) where
  key := schedule.sends role
  nonce := nonce counter
  aad := binding.val
  plaintext := frame

/-- Both ends, and everything ever handed to the cipher, returned or not. -/
structure Link where
  ends : Role → Party
  log : List (Sealing (Block 32) (Block 12))

/-- A call made on one end. The record that is opened is whatever the network delivers. -/
inductive Call
  | sealing (role : Role) (frame : Bytes)
  | opening (role : Role) (record : Bytes)

variable [Crypto]

/-- The same primitives with the cipher made ideal for what has been sealed so far. -/
abbrev recording (log : List (Sealing (Block 32) (Block 12))) : Crypto where
  sha256 := Crypto.sha256
  hkdf := Crypto.hkdf
  chacha20Poly1305 := Crypto.chacha20Poly1305.recorded log

namespace Link

/-- Two fresh channels over the same traffic keys. -/
def start (schedule : KeySchedule) (binding : Block 32) : Link where
  ends role := ⟨SecureChannel.new role schedule binding, [], []⟩
  log := []

def put (link : Link) (role : Role) (party : Party) : Link :=
  { link with ends := Function.update link.ends role party }

/-- What `open` does with a record at one end. -/
def opens (link : Link) (role : Role) (record : Bytes) : Except SessionError Bytes × SecureChannel :=
  @SecureChannel.open (recording link.log) record (link.ends role).channel

/-- The cipher is asked for every frame of an admitted size, also where the counter then refuses to move. -/
def step (link : Link) : Call → Link
  | .sealing role frame =>
    let party := link.ends role
    let asked := if Admitted frame then link.log ++ [party.channel.sealing frame] else link.log
    match SecureChannel.seal frame party.channel with
    | (.ok record, channel) =>
      { link.put role { party with channel, sent := party.sent ++ [(frame, record)] } with log := asked }
    | (.error _, channel) => { link.put role { party with channel } with log := asked }
  | .opening role record =>
    let party := link.ends role
    match link.opens role record with
    | (.ok frame, channel) => link.put role { party with channel, received := party.received ++ [frame] }
    | (.error _, channel) => link.put role { party with channel }

/-- A link whose end `role` has just been given a record for a frame. -/
def issue (link : Link) (role : Role) (next : UInt64) (frame : Bytes) : Link :=
  { link.put role { link.ends role with
      channel := { (link.ends role).channel with sendCounter := next }
      sent := (link.ends role).sent ++ [(frame, (link.ends role).channel.record frame)] } with
    log := link.log ++ [(link.ends role).channel.sealing frame] }

def run (link : Link) (calls : List Call) : Link := calls.foldl step link

omit [Crypto] in
theorem put_self (link : Link) (role : Role) : link.put role (link.ends role) = link := by
  unfold put
  rw [Function.update_eq_self]

omit [Crypto] in
@[simp] theorem put_ends_self (link : Link) (role : Role) (party : Party) :
    (link.put role party).ends role = party := Function.update_self ..

omit [Crypto] in
theorem put_ends_of_ne (link : Link) {role other : Role} (party : Party) (differ : other ≠ role) :
    (link.put role party).ends other = link.ends other := Function.update_of_ne differ ..

omit [Crypto] in
/-- What holds of the end put in place and of the other end holds of both. -/
theorem put_forall {motive : Role → Party → Prop} {link : Link} {role : Role} {party : Party}
    (here : motive role party) (there : ∀ other, motive other (link.ends other)) (other : Role) :
    motive other ((link.put role party).ends other) := by
  by_cases same : other = role
  · subst same
    rwa [put_ends_self]
  · rw [put_ends_of_ne link party same]
    exact there other

/-- Everything sealing a frame can do to a link. -/
theorem step_sealing_cases (link : Link) (role : Role) (frame : Bytes) :
    link.step (.sealing role frame) = link ∨
      (checkedAdd (link.ends role).channel.sendCounter = none ∧
        link.step (.sealing role frame) =
          { link with log := link.log ++ [(link.ends role).channel.sealing frame] }) ∨
      ∃ next, Admitted frame ∧ checkedAdd (link.ends role).channel.sendCounter = some next ∧
        link.step (.sealing role frame) = link.issue role next frame := by
  unfold step
  rcases (link.ends role).channel.seal_cases frame with ⟨refused, run⟩ | ⟨admitted, added, run⟩ |
    ⟨next, admitted, added, run⟩
  · left
    simp only [run, if_neg refused]
    exact put_self link role
  · right; left
    simp only [run, if_pos admitted]
    exact ⟨added, by rw [show (link.put role (link.ends role)) = link from put_self link role]⟩
  · right; right
    simp only [run, if_pos admitted]
    exact ⟨next, admitted, added, rfl⟩

theorem opens_error {link : Link} {role : Role} {record : Bytes} {e : SessionError} {channel : SecureChannel}
    (failed : link.opens role record = (.error e, channel)) : channel = (link.ends role).channel :=
  @SecureChannel.open_error (recording link.log) _ _ _ _ failed

/-- Opening a record changes nothing or yields one more frame and moves the counter. -/
theorem step_opening_cases (link : Link) (role : Role) (record : Bytes) :
    link.step (.opening role record) = link ∨
      ∃ frame channel, link.opens role record = (.ok frame, channel) ∧
        link.step (.opening role record) =
          link.put role { link.ends role with channel, received := (link.ends role).received ++ [frame] } := by
  unfold step
  rcases run : link.opens role record with ⟨e | frame, channel⟩
  · left
    simp only [run]
    rw [opens_error run]
    exact put_self link role
  · right
    simp only [run]
    exact ⟨frame, channel, rfl, rfl⟩

/-- What every reachable link satisfies. A cipher call whose counter is at its limit returned no record. -/
structure Sound (schedule : KeySchedule) (binding : Block 32) (link : Link) : Prop where
  send : ∀ role, (link.ends role).channel.send = schedule.sends role
  receive : ∀ role, (link.ends role).channel.receive = schedule.sends role.peer
  bound : ∀ role, (link.ends role).channel.binding = binding
  sealed : ∀ role, (link.ends role).channel.sendCounter.toNat = (link.ends role).sent.length
  opened : ∀ role, (link.ends role).channel.receiveCounter.toNat = (link.ends role).received.length
  records : ∀ role (counter : UInt64) frame record, (link.ends role).sent[counter.toNat]? = some (frame, record) →
    Admitted frame ∧ schedule.sealing binding role counter frame ∈ link.log ∧
      record = BigEndian.encode 8 counter.toNat ++
        Crypto.chacha20Poly1305.ciphertext (schedule.sealing binding role counter frame)
  asked : ∀ sealing ∈ link.log, ∃ role counter frame, sealing = schedule.sealing binding role counter frame ∧
    (checkedAdd counter = none ∨ ∃ record, (link.ends role).sent[counter.toNat]? = some (frame, record))
  delivered : ∀ role, (link.ends role).received <+: (link.ends role.peer).sent.map Prod.fst

variable {schedule : KeySchedule} {binding : Block 32} {link : Link}

theorem start_sound : (start schedule binding).Sound schedule binding where
  send role := by cases role <;> rfl
  receive role := by cases role <;> rfl
  bound role := by cases role <;> rfl
  sealed role := by cases role <;> rfl
  opened role := by cases role <;> rfl
  records role counter frame record entry := by simp [start] at entry
  asked sealing member := by simp [start] at member
  delivered role := List.prefix_rfl

theorem Sound.sealing_eq (sound : link.Sound schedule binding) (role : Role) (frame : Bytes) :
    (link.ends role).channel.sealing frame =
      schedule.sealing binding role (link.ends role).channel.sendCounter frame := by
  unfold SecureChannel.sealing KeySchedule.sealing
  rw [sound.send, sound.bound]

/-- An entry stays where it is when a frame is added behind it. -/
theorem issue_keeps {role other : Role} {next : UInt64} {frame : Bytes} {i : Nat} {entry : Bytes × Bytes}
    (old : (link.ends other).sent[i]? = some entry) :
    ((link.issue role next frame).ends other).sent[i]? = some entry := by
  refine put_forall (motive := fun other party => (link.ends other).sent[i]? = some entry →
    party.sent[i]? = some entry) ?_ (fun other old => old) other old
  intro old
  obtain ⟨within, _⟩ := List.getElem?_eq_some_iff.mp old
  rw [List.getElem?_append_left within, old]

/-- The only new entry is the one just added. -/
theorem issue_entry {role other : Role} {next : UInt64} {frame : Bytes} {i : Nat} {entry : Bytes × Bytes}
    (found : ((link.issue role next frame).ends other).sent[i]? = some entry) :
    (link.ends other).sent[i]? = some entry ∨
      other = role ∧ i = (link.ends role).sent.length ∧ entry = (frame, (link.ends role).channel.record frame) := by
  by_cases same : other = role
  · subst same
    simp only [issue, put_ends_self] at found
    by_cases within : i < (link.ends other).sent.length
    · rw [List.getElem?_append_left within] at found
      exact Or.inl found
    · rw [List.getElem?_append_right (by omega), List.getElem?_singleton] at found
      split at found
      · exact Or.inr ⟨rfl, by omega, (Option.some.inj found).symm⟩
      · cases found
  · simp only [issue, put_ends_of_ne _ _ same] at found
    exact Or.inl found

theorem issue_sent_grows (role other : Role) (next : UInt64) (frame : Bytes) :
    (link.ends other).sent <+: ((link.issue role next frame).ends other).sent :=
  put_forall (motive := fun other party => (link.ends other).sent <+: party.sent) (List.prefix_append _ _)
    (fun _ => List.prefix_rfl) other

theorem Sound.issue (sound : link.Sound schedule binding) {role : Role} {frame : Bytes} {next : UInt64}
    (admitted : Admitted frame) (added : checkedAdd (link.ends role).channel.sendCounter = some next) :
    (link.issue role next frame).Sound schedule binding := by
  have moved := checkedAdd_eq_some added
  have counted := sound.sealed role
  exact {
    send := put_forall (motive := fun r p => p.channel.send = schedule.sends r) (sound.send role) sound.send
    receive := put_forall (motive := fun r p => p.channel.receive = schedule.sends r.peer) (sound.receive role)
      sound.receive
    bound := put_forall (motive := fun _ p => p.channel.binding = binding) (sound.bound role) sound.bound
    sealed := put_forall (motive := fun _ p => p.channel.sendCounter.toNat = p.sent.length)
      (by rw [List.length_append, moved, counted]; rfl) sound.sealed
    opened := put_forall (motive := fun _ p => p.channel.receiveCounter.toNat = p.received.length)
      (sound.opened role) sound.opened
    records := by
      intro other counter text record found
      rcases issue_entry found with old | ⟨rfl, last, entry⟩
      · obtain ⟨admitted, member, spelled⟩ := sound.records other counter text record old
        exact ⟨admitted, List.mem_append_left _ member, spelled⟩
      · have same : counter = (link.ends other).channel.sendCounter := UInt64.toNat.inj (last.trans counted.symm)
        cases entry
        rw [same, ← sound.sealing_eq]
        exact ⟨admitted, List.mem_append_right _ (List.mem_singleton_self _), rfl⟩
    asked := by
      intro sealing member
      rcases List.mem_append.mp member with old | new
      · obtain ⟨other, counter, text, same, found⟩ := sound.asked sealing old
        refine ⟨other, counter, text, same, found.imp id fun found => ?_⟩
        obtain ⟨record, entry⟩ := found
        exact ⟨record, issue_keeps entry⟩
      · rw [sound.sealing_eq] at new
        refine ⟨role, _, frame, List.mem_singleton.mp new, 
          Or.inr ⟨(link.ends role).channel.record frame, ?_⟩⟩
        rw [counted]
        simp only [Link.issue, put_ends_self, List.getElem?_concat_length]
    delivered := by
      intro other
      have kept : ((link.issue role next frame).ends other).received = (link.ends other).received := by
        refine put_forall (motive := fun other party => party.received = (link.ends other).received) ?_ ?_ other
        · rfl
        · exact fun _ => rfl
      rw [kept]
      exact (sound.delivered other).trans ((issue_sent_grows role other.peer next frame).map _) }

theorem Sound.step_sealing (sound : link.Sound schedule binding) (role : Role) (frame : Bytes) :
    (link.step (.sealing role frame)).Sound schedule binding := by
  rcases link.step_sealing_cases role frame with same | ⟨exhausted, same⟩ | ⟨next, admitted, added, same⟩
  · rwa [same]
  · rw [same, sound.sealing_eq]
    exact { sound with
      records := by
        intro other counter text record entry
        obtain ⟨admitted, member, spelled⟩ := sound.records other counter text record entry
        exact ⟨admitted, List.mem_append_left _ member, spelled⟩
      asked := by
        intro sealing member
        rcases List.mem_append.mp member with old | new
        · exact sound.asked sealing old
        · exact ⟨role, _, frame, List.mem_singleton.mp new, Or.inl exhausted⟩ }
  · rw [same]
    exact sound.issue admitted added

/-- A record that opens carries the next frame the other end has sealed: the cipher opens nothing it was not asked
for, the direction keys differ, and a frame that got no record would leave this counter no room either. -/
theorem Sound.opens_next (sound : link.Sound schedule binding)
    (distinct : schedule.clientToServer ≠ schedule.serverToClient) {role : Role} {record frame : Bytes}
    {channel : SecureChannel} (run : link.opens role record = (.ok frame, channel)) :
    (link.ends role.peer).sent[(link.ends role).received.length]? = some (frame, record) ∧
      ∃ next, checkedAdd (link.ends role).channel.receiveCounter = some next ∧
        channel = { (link.ends role).channel with receiveCounter := next } := by
  obtain ⟨sized, counter, opened, next, added, same⟩ :=
    (@SecureChannel.open_eq_ok (recording link.log) _ _ _ _).mp run
  refine ⟨?_, next, added, same⟩
  obtain ⟨member, spelled⟩ := Aead.recorded_ideal Crypto.chacha20Poly1305 link.log _ _ _ _ frame opened
  obtain ⟨other, asked, text, made, answered⟩ := sound.asked _ member
  obtain ⟨key, stamp, aad, rfl⟩ := Sealing.mk.inj made
  rw [sound.receive] at key
  have sender : other = role.peer := by
    cases role <;> cases other
    · exact absurd key distinct
    · rfl
    · rfl
    · exact absurd key.symm distinct
  subst sender
  cases nonce_injective stamp
  rcases answered with exhausted | ⟨found, entry⟩
  · rw [added] at exhausted
    cases exhausted
  · obtain ⟨_, _, spelling⟩ := sound.records _ _ _ _ entry
    have same : record = found := by
      have front : record.take 8 = BigEndian.encode 8 (link.ends role).channel.receiveCounter.toNat := by
        rw [← encode_recordCounter (by unfold recordOverhead at sized; omega), counter]
      rw [spelling, ← List.take_append_drop 8 record, front, spelled]
      simp only [Aead.ciphertext, KeySchedule.sealing, sound.receive, sound.bound]
      rfl
    rw [← sound.opened, same, entry]

theorem Sound.step_opening (sound : link.Sound schedule binding)
    (distinct : schedule.clientToServer ≠ schedule.serverToClient) (role : Role) (record : Bytes) :
    (link.step (.opening role record)).Sound schedule binding := by
  rcases link.step_opening_cases role record with same | ⟨frame, channel, run, same⟩
  · rwa [same]
  · obtain ⟨entry, next, added, rfl⟩ := sound.opens_next distinct run
    rw [same]
    have moved := checkedAdd_eq_some added
    have sent (other : Role) : ((link.step (.opening role record)).ends other).sent = (link.ends other).sent := by
      rw [same]
      refine put_forall (motive := fun other party => party.sent = (link.ends other).sent) ?_ ?_ other
      · rfl
      · exact fun _ => rfl
    rw [same] at sent
    exact {
      send := put_forall (motive := fun r p => p.channel.send = schedule.sends r) (sound.send role) sound.send
      receive := put_forall (motive := fun r p => p.channel.receive = schedule.sends r.peer) (sound.receive role)
        sound.receive
      bound := put_forall (motive := fun _ p => p.channel.binding = binding) (sound.bound role) sound.bound
      sealed := put_forall (motive := fun _ p => p.channel.sendCounter.toNat = p.sent.length) (sound.sealed role)
        sound.sealed
      opened := put_forall (motive := fun _ p => p.channel.receiveCounter.toNat = p.received.length)
        (by rw [List.length_append, moved, sound.opened]; rfl) sound.opened
      records := by
        intro other counter text spelled found
        rw [sent] at found
        exact sound.records other counter text spelled found
      asked := by
        intro sealing member
        obtain ⟨other, counter, text, made, answered⟩ := sound.asked sealing member
        refine ⟨other, counter, text, made, ?_⟩
        rwa [sent]
      delivered := by
        intro other
        rw [sent]
        refine put_forall (motive := fun r p => p.received <+: (link.ends r.peer).sent.map Prod.fst) ?_
          sound.delivered other
        obtain ⟨within, found⟩ := List.getElem?_eq_some_iff.mp entry
        have longer := List.concat_get_prefix (sound.delivered role) (by simpa using within)
        simpa [found] using longer }

theorem Sound.run (distinct : schedule.clientToServer ≠ schedule.serverToClient) (calls : List Call)
    (sound : link.Sound schedule binding) : (link.run calls).Sound schedule binding := by
  induction calls generalizing link with
  | nil => exact sound
  | cons call calls ih =>
    apply ih
    cases call with
    | sealing role frame => exact sound.step_sealing role frame
    | opening role record => exact sound.step_opening distinct role record

/-- The next genuine record opens. -/
theorem Sound.opens_genuine (sound : link.Sound schedule binding) (correct : Crypto.chacha20Poly1305.Correct tagLen)
    {role : Role} {frame record : Bytes}
    (entry : (link.ends role.peer).sent[(link.ends role).received.length]? = some (frame, record)) :
    ∃ channel, link.opens role record = (.ok frame, channel) := by
  obtain ⟨within, _⟩ := List.getElem?_eq_some_iff.mp entry
  rw [← sound.opened] at entry within
  obtain ⟨admitted, member, spelled⟩ := sound.records _ _ _ _ entry
  obtain ⟨nonempty, bound⟩ := admitted
  have room : ∃ next, checkedAdd (link.ends role).channel.receiveCounter = some next := by
    cases added : checkedAdd (link.ends role).channel.receiveCounter with
    | some next => exact ⟨next, rfl⟩
    | none =>
      have last := checkedAdd_eq_none.mp added
      have counted := sound.sealed role.peer
      have limit := (link.ends role.peer).channel.sendCounter.toNat_lt
      omega
  obtain ⟨next, added⟩ := room
  have positive := List.length_pos_iff.mpr nonempty
  have length : record.length = 8 + (frame.length + tagLen) := by
    rw [spelled, List.length_append, BigEndian.encode_length]
    exact congrArg (8 + ·) (correct.encrypt_length _ _ _ _)
  have opened := Aead.recorded_opens correct member
  refine ⟨{ (link.ends role).channel with receiveCounter := next },
    (@SecureChannel.open_eq_ok (recording link.log) _ _ _ _).mpr ⟨?_, ?_, ?_, next, added, rfl⟩⟩
  · unfold recordOverhead tagLen at *
    omega
  · rw [spelled, recordCounter_encode]
  · rw [spelled, List.drop_left' (BigEndian.encode_length _ _), sound.receive, sound.bound]
    exact opened

/-- The key and the nonce of every record returned so far. -/
def issued (link : Link) : List (Block 32 × Block 12) :=
  [Role.server, Role.client].flatMap fun role =>
    (link.ends role).sent.map fun entry => ((link.ends role).channel.send, nonce (recordCounter entry.2))

theorem Sound.counters (sound : link.Sound schedule binding) (role : Role) :
    (link.ends role).sent.map (fun entry => recordCounter entry.2) =
      (List.range (link.ends role).sent.length).map UInt64.ofNat := by
  apply List.ext_getElem
  · simp
  · intro i within _
    rw [List.length_map] at within
    have small : i < 2 ^ 64 := by
      have counted := sound.sealed role
      have limit := (link.ends role).channel.sendCounter.toNat_lt
      omega
    have back : (UInt64.ofNat i).toNat = i := by rw [UInt64.toNat_ofNat', Nat.mod_eq_of_lt small]
    obtain ⟨_, _, spelled⟩ := sound.records role (UInt64.ofNat i) _ _
      (by rw [back]; exact List.getElem?_eq_getElem within)
    rw [List.get_eq_getElem] at spelled
    simp only [List.getElem_map, List.getElem_range, spelled, recordCounter_encode]

theorem Sound.issued_nodup (sound : link.Sound schedule binding)
    (distinct : schedule.clientToServer ≠ schedule.serverToClient) : link.issued.Nodup := by
  have each (role : Role) : ((link.ends role).sent.map fun entry =>
      ((link.ends role).channel.send, nonce (recordCounter entry.2))).Nodup := by
    have spread : ((List.range (link.ends role).sent.length).map UInt64.ofNat).Nodup := by
      refine List.Nodup.map_on ?_ List.nodup_range
      intro i first j second same
      have counted := sound.sealed role
      have limit := (link.ends role).channel.sendCounter.toNat_lt
      rw [List.mem_range] at first second
      have values := congrArg UInt64.toNat same
      rwa [UInt64.toNat_ofNat', UInt64.toNat_ofNat', Nat.mod_eq_of_lt (by omega), Nat.mod_eq_of_lt (by omega)] at values
    rw [← sound.counters role] at spread
    have injective : Function.Injective fun counter => ((link.ends role).channel.send, nonce counter) :=
      fun a b same => nonce_injective (Prod.mk.inj same).2
    have stamped := spread.map injective
    rwa [List.map_map] at stamped
  simp only [issued, List.flatMap_cons, List.flatMap_nil, List.append_nil]
  refine List.nodup_append.mpr ⟨each .server, each .client, ?_⟩
  intro first server second client same
  obtain ⟨_, _, rfl⟩ := List.mem_map.mp server
  obtain ⟨_, _, rfl⟩ := List.mem_map.mp client
  have key := (Prod.mk.inj same).1
  rw [sound.send, sound.send] at key
  exact distinct key.symm

/-- What a pair of channels is for: whatever the network offers, an end reads the other's frames, in order, each
once, and a record refused costs nothing. -/
structure Fifo (link : Link) : Prop where
  delivered : ∀ role, (link.ends role).received <+: (link.ends role.peer).sent.map Prod.fst
  refused : ∀ role record e channel, link.opens role record = (.error e, channel) →
    channel = (link.ends role).channel
  resumes : ∀ role frame record,
    (link.ends role.peer).sent[(link.ends role).received.length]? = some (frame, record) →
      ∃ channel, link.opens role record = (.ok frame, channel)
  nonces : link.issued.Nodup

end Link

/-- Every schedule of calls on the two ends, with any records offered, keeps the channel a queue in each direction. -/
theorem channel_fifo (correct : Crypto.chacha20Poly1305.Correct tagLen) (sharedSecret : Bytes)
    (transcript binding : Block 32) (distinct : (KeySchedule.derive sharedSecret transcript).clientToServer ≠
      (KeySchedule.derive sharedSecret transcript).serverToClient) (calls : List Call) :
    ((Link.start (KeySchedule.derive sharedSecret transcript) binding).run calls).Fifo := by
  have fresh : (Link.start (KeySchedule.derive sharedSecret transcript) binding).Sound _ binding := Link.start_sound
  have sound := Link.Sound.run distinct calls fresh
  exact {
    delivered := sound.delivered
    refused := fun _ _ _ _ failed => Link.opens_error failed
    resumes := fun _ _ _ entry => sound.opens_genuine correct entry
    nonces := sound.issued_nodup distinct }

/-- The record a plain cipher gives the frame `[7]` first. -/
def firstRecord : Bytes := List.replicate 8 0 ++ [7] ++ List.replicate 16 0

/-- A frame sealed, its record reflected, cut short, delivered and replayed. -/
def exchange : List Call :=
  [.sealing .server [7], .opening .server firstRecord, .opening .client (firstRecord.take 24),
    .opening .client firstRecord, .opening .client firstRecord]

omit [Crypto] in
theorem exchange_fifo :
    ((@Link.run Crypto.plain (Link.start (@KeySchedule.derive Crypto.plain [] ⟨List.replicate 32 0, rfl⟩)
        ⟨List.replicate 32 0, rfl⟩) exchange).ends .client).received = [[7]] ∧
      @Link.Fifo Crypto.plain (@Link.run Crypto.plain
        (Link.start (@KeySchedule.derive Crypto.plain [] ⟨List.replicate 32 0, rfl⟩) ⟨List.replicate 32 0, rfl⟩)
        exchange) :=
  ⟨by decide +kernel, @channel_fifo Crypto.plain (Aead.plain_correct (Block 32) (Block 12) tagLen) []
    ⟨List.replicate 32 0, rfl⟩ ⟨List.replicate 32 0, rfl⟩ (by decide +kernel) exchange⟩

end BioAuth.Session
