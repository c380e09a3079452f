import BioAuth.Session.Channel

namespace BioAuth.Mobile
open BioAuth
open BioAuth.Session (Role KeySchedule recordCounter nonce)

/-- What a call on a channel throws: an exception of its own, or the cipher's. -/
inductive ChannelError
  | channelException (message : String)
  | secretBoxAuthenticationError

structure SecureChannel where
  sendKey : Block 32
  receiveKey : Block 32
  binding : Block 32
  sendCounter : Int64
  receiveCounter : Int64

inductive ChannelCall
  | sealing (cleartext : Bytes)
  | opening (record : Bytes)

/-- A call of `seal` or of `open` that waits for the cipher, with the counter it has read. -/
inductive Awaiting
  | encrypt (counter : Int64) (cleartext : Bytes)
  | decrypt (counter : Int64) (record : Bytes)
  deriving DecidableEq

namespace SecureChannel

def maxFrame : Nat := 8192

def recordOverhead : Nat := 8 + 16

def maxCounter : Int64 := 0x7fffffffffffffff

def new (role : Role) (schedule : KeySchedule) (binding : Block 32) : SecureChannel where
  sendKey := if role = .server then schedule.serverToClient else schedule.clientToServer
  receiveKey := if role = .server then schedule.clientToServer else schedule.serverToClient
  binding := binding
  sendCounter := 0
  receiveCounter := 0

/-- `ByteData.setUint64` in big-endian order. -/
def counterBytes (counter : Int64) : Bytes := BigEndian.encode 8 counter.toUInt64.toNat

/-- `ByteData.getUint64`, whose upper half a signed integer holds as negative numbers. -/
def getUint64 (record : Bytes) : Int64 := (recordCounter record).toInt64

/-- What a call does before it waits. -/
def begin (channel : SecureChannel) : ChannelCall → Except ChannelError Awaiting
  | .sealing cleartext => do
    require (¬(cleartext = [] ∨ maxFrame < cleartext.length))
      (ChannelError.channelException "invalid cleartext frame size")
    return .encrypt channel.sendCounter cleartext
  | .opening record => do
    require (¬(record.length ≤ recordOverhead ∨ maxFrame + recordOverhead < record.length))
      (ChannelError.channelException "invalid encrypted record size")
    let counter := getUint64 record
    require (counter = channel.receiveCounter) (ChannelError.channelException "replayed or out-of-order record")
    return .decrypt counter record

variable [Crypto]

/-- What a call does once the cipher has answered. The text of a box and its tag are one ciphertext. -/
def finish : Awaiting → Fallible SecureChannel ChannelError Bytes
  | .encrypt counter cleartext => do
    let channel ← get
    let box := Crypto.chacha20Poly1305.encrypt channel.sendKey (nonce counter.toUInt64) channel.binding.val cleartext
    require (counter ≠ maxCounter) (ChannelError.channelException "record counter exhausted")
    set { channel with sendCounter := counter + 1 }
    return counterBytes counter ++ box
  | .decrypt counter record => do
    let channel ← get
    let clear ← okOr ChannelError.secretBoxAuthenticationError
      (Crypto.chacha20Poly1305.decrypt channel.receiveKey (nonce counter.toUInt64) channel.binding.val (record.drop 8))
    require (counter ≠ maxCounter) (ChannelError.channelException "record counter exhausted")
    set { channel with receiveCounter := counter + 1 }
    return clear

/-- A call that nothing comes between. -/
def call (request : ChannelCall) : Fallible SecureChannel ChannelError Bytes := do
  let channel ← get
  let waiting ← channel.begin request
  finish waiting

/-- The record of a frame under a counter. -/
def record (channel : SecureChannel) (counter : Int64) (cleartext : Bytes) : Bytes :=
  counterBytes counter ++
    Crypto.chacha20Poly1305.encrypt channel.sendKey (nonce counter.toUInt64) channel.binding.val cleartext

omit [Crypto] in
theorem begin_sealing_eq_ok {channel : SecureChannel} {cleartext : Bytes} {waiting : Awaiting} :
    channel.begin (.sealing cleartext) = .ok waiting ↔
      Session.Admitted cleartext ∧ waiting = .encrypt channel.sendCounter cleartext := by
  have admitted : ¬(cleartext = [] ∨ maxFrame < cleartext.length) ↔ Session.Admitted cleartext := by
    rw [not_or, Nat.not_lt]
    rfl
  simp only [begin, except_bind_eq_ok, except_require_eq_ok, except_pure_eq_ok, admitted, eq_comm (a := waiting)]
  exact ⟨fun ⟨_, both⟩ => both, fun both => ⟨(), both⟩⟩

omit [Crypto] in
theorem begin_opening_eq_ok {channel : SecureChannel} {record : Bytes} {waiting : Awaiting} :
    channel.begin (.opening record) = .ok waiting ↔
      (recordOverhead < record.length ∧ record.length ≤ maxFrame + recordOverhead) ∧
        getUint64 record = channel.receiveCounter ∧ waiting = .decrypt channel.receiveCounter record := by
  simp only [begin, except_bind_eq_ok, except_require_eq_ok, except_pure_eq_ok, not_or, Nat.not_le, Nat.not_lt]
  constructor
  · rintro ⟨_, sized, _, counter, rfl⟩
    exact ⟨sized, counter, by rw [counter]⟩
  · rintro ⟨sized, counter, rfl⟩
    exact ⟨(), sized, (), counter, by rw [counter]⟩

theorem finish_encrypt (channel : SecureChannel) (counter : Int64) (cleartext : Bytes) :
    finish (.encrypt counter cleartext) channel =
      if counter = maxCounter then (.error (.channelException "record counter exhausted"), channel)
      else (.ok (channel.record counter cleartext), { channel with sendCounter := counter + 1 }) := by
  by_cases last : counter = maxCounter
  · rw [if_pos last]
    unfold finish
    simp only [Fallible.bind_run, Fallible.get_run, require, ne_eq, last, not_true, if_false, Fallible.throw_run]
  · rw [if_neg last]
    unfold finish
    simp only [Fallible.bind_run, Fallible.get_run, require, ne_eq, last, not_false_eq_true, if_true,
      Fallible.pure_run, Fallible.set_run]
    rfl

theorem finish_decrypt_eq_ok {channel after : SecureChannel} {counter : Int64} {record clear : Bytes} :
    finish (.decrypt counter record) channel = (.ok clear, after) ↔
      Crypto.chacha20Poly1305.decrypt channel.receiveKey (nonce counter.toUInt64) channel.binding.val
          (record.drop 8) = some clear ∧
        counter ≠ maxCounter ∧ after = { channel with receiveCounter := counter + 1 } := by
  unfold finish
  simp only [↓Fallible.require_bind_eq_ok, ↓Fallible.liftM_bind_eq_ok, Fallible.bind_eq_ok, Fallible.get_run,
    Fallible.set_run, Fallible.pure_eq_ok, okOr_eq_ok, Prod.mk.injEq, Except.ok.injEq]
  constructor
  · intro run
    obtain ⟨_, _, ⟨rfl, rfl⟩, found, opened, room, _, _, ⟨_, rfl⟩, rfl, rfl⟩ := run
    exact ⟨opened, room, rfl⟩
  · intro run
    obtain ⟨opened, room, rfl⟩ := run
    exact ⟨channel, channel, ⟨rfl, rfl⟩, clear, opened, room, ⟨⟩, _, ⟨trivial, rfl⟩, rfl, rfl⟩

/-- Whatever it throws, a call that has waited leaves the channel as it found it. -/
theorem finish_error {waiting : Awaiting} {channel after : SecureChannel} {e : ChannelError}
    (failed : finish waiting channel = (.error e, after)) : after = channel := by
  cases waiting with
  | encrypt counter cleartext =>
    rw [finish_encrypt] at failed
    split at failed
    · exact (Prod.mk.inj failed).2.symm
    · cases failed
  | decrypt counter record =>
    have ends : (finish (.decrypt counter record)).Ends (fun _ _ => True) (fun _ t => t = channel) channel := by
      unfold finish
      refine Fallible.Ends.bind_of_run (Fallible.get_run _) ?_
      refine Fallible.Ends.bind (fun _ t => t = _) (Fallible.ends_liftM.mpr ⟨fun _ _ => rfl, fun _ _ => rfl⟩) ?_
      rintro _ _ rfl
      refine Fallible.Ends.bind (fun _ t => t = _) (Fallible.ends_require (fun _ => rfl) fun _ => rfl) ?_
      rintro _ _ rfl
      exact Fallible.Ends.bind_of_run (Fallible.set_run _ _) (Fallible.ends_pure.mpr trivial)
    exact ends.bad_of_run failed

theorem call_eq_ok {request : ChannelCall} {channel after : SecureChannel} {answer : Bytes} :
    call request channel = (.ok answer, after) ↔
      ∃ waiting, channel.begin request = .ok waiting ∧ finish waiting channel = (.ok answer, after) := by
  unfold call
  simp only [↓Fallible.liftM_bind_eq_ok, Fallible.bind_eq_ok, Fallible.get_run, Prod.mk.injEq, Except.ok.injEq]
  constructor
  · rintro ⟨_, _, ⟨rfl, rfl⟩, waiting, begun, run⟩
    exact ⟨waiting, begun, run⟩
  · rintro ⟨waiting, begun, run⟩
    exact ⟨channel, channel, ⟨rfl, rfl⟩, waiting, begun, run⟩

theorem call_error {request : ChannelCall} {channel after : SecureChannel} {e : ChannelError}
    (failed : call request channel = (.error e, after)) : after = channel := by
  unfold call at failed
  rw [Fallible.bind_run_ok _ (Fallible.get_run channel), Fallible.bind_run, Fallible.liftM_run] at failed
  cases begun : channel.begin request with
  | error _ =>
    rw [begun] at failed
    exact (Prod.mk.inj failed).2.symm
  | ok waiting =>
    rw [begun] at failed
    exact finish_error failed

end SecureChannel

variable [Crypto]

def SecureChannel.seal (cleartext : Bytes) : Fallible SecureChannel ChannelError Bytes := call (.sealing cleartext)

def SecureChannel.open (record : Bytes) : Fallible SecureChannel ChannelError Bytes := call (.opening record)

theorem SecureChannel.seal_eq_ok {channel after : SecureChannel} {cleartext answer : Bytes} :
    SecureChannel.seal cleartext channel = (.ok answer, after) ↔
      Session.Admitted cleartext ∧ channel.sendCounter ≠ maxCounter ∧
        answer = channel.record channel.sendCounter cleartext ∧
          after = { channel with sendCounter := channel.sendCounter + 1 } := by
  unfold SecureChannel.seal
  rw [call_eq_ok]
  constructor
  · rintro ⟨waiting, begun, run⟩
    obtain ⟨admitted, rfl⟩ := begin_sealing_eq_ok.mp begun
    rw [finish_encrypt] at run
    split at run
    · cases run
    · rename_i room
      cases run
      exact ⟨admitted, room, rfl, rfl⟩
  · rintro ⟨admitted, room, rfl, rfl⟩
    exact ⟨_, begin_sealing_eq_ok.mpr ⟨admitted, rfl⟩, by rw [finish_encrypt, if_neg room]⟩

theorem SecureChannel.open_eq_ok {channel after : SecureChannel} {record clear : Bytes} :
    SecureChannel.open record channel = (.ok clear, after) ↔
      (recordOverhead < record.length ∧ record.length ≤ maxFrame + recordOverhead) ∧
        getUint64 record = channel.receiveCounter ∧
        Crypto.chacha20Poly1305.decrypt channel.receiveKey (nonce channel.receiveCounter.toUInt64)
          channel.binding.val (record.drop 8) = some clear ∧
        channel.receiveCounter ≠ maxCounter ∧
          after = { channel with receiveCounter := channel.receiveCounter + 1 } := by
  unfold SecureChannel.open
  rw [call_eq_ok]
  constructor
  · rintro ⟨waiting, begun, run⟩
    obtain ⟨sized, counter, rfl⟩ := begin_opening_eq_ok.mp begun
    exact ⟨sized, counter, finish_decrypt_eq_ok.mp run⟩
  · rintro ⟨sized, counter, run⟩
    exact ⟨_, begin_opening_eq_ok.mpr ⟨sized, counter, rfl⟩, finish_decrypt_eq_ok.mpr run⟩

/-! ### The same channel on the desktop -/

/-- The desktop's channel with the same keys and counters. -/
def SecureChannel.mirror (channel : SecureChannel) : Session.SecureChannel where
  send := channel.sendKey
  receive := channel.receiveKey
  binding := channel.binding
  sendCounter := channel.sendCounter.toUInt64
  receiveCounter := channel.receiveCounter.toUInt64

/-- A counter as the phone's channels hold them. -/
def Counts (counter : Int64) : Prop := counter.toUInt64.toNat < 2 ^ 63

omit [Crypto] in
theorem Counts.succ {counter : Int64} (counts : Counts counter) (room : counter ≠ SecureChannel.maxCounter) :
    Counts (counter + 1) ∧ Session.checkedAdd counter.toUInt64 = some (counter + 1).toUInt64 := by
  have below : counter.toUInt64.toNat ≠ 2 ^ 63 - 1 :=
    fun last => room (congrArg UInt64.toInt64 (UInt64.toNat.inj last : counter.toUInt64 = SecureChannel.maxCounter.toUInt64))
  unfold Counts at *
  have next : (counter + 1).toUInt64 = counter.toUInt64 + 1 := Int64.toUInt64_add ..
  have moved : (counter.toUInt64 + 1).toNat = counter.toUInt64.toNat + 1 := by
    rw [UInt64.toNat_add, UInt64.toNat_one, Nat.mod_eq_of_lt (by omega)]
  rw [next]
  refine ⟨by omega, ?_⟩
  unfold Session.checkedAdd
  rw [if_pos (by omega)]

/-- Before its last counter the phone opens what the desktop would. -/
theorem SecureChannel.open_mirror {channel : SecureChannel} (counts : Counts channel.receiveCounter)
    (room : channel.receiveCounter ≠ maxCounter) {record clear : Bytes} {next : Session.SecureChannel} :
    Session.SecureChannel.open record channel.mirror = (.ok clear, next) ↔
      ∃ after, SecureChannel.open record channel = (.ok clear, after) ∧ after.mirror = next := by
  have added := (counts.succ room).2
  have counter : recordCounter record = channel.receiveCounter.toUInt64 ↔ getUint64 record = channel.receiveCounter :=
    ⟨fun same => congrArg UInt64.toInt64 same, fun same => congrArg Int64.toUInt64 same⟩
  rw [Session.SecureChannel.open_eq_ok]
  simp only [SecureChannel.open_eq_ok]
  constructor
  · rintro ⟨sized, stamp, opened, other, same, rfl⟩
    cases same.symm.trans added
    exact ⟨_, ⟨sized, counter.mp stamp, opened, room, rfl⟩, rfl⟩
  · rintro ⟨_, ⟨sized, stamp, opened, _, rfl⟩, rfl⟩
    exact ⟨sized, counter.mpr stamp, opened, _, added, rfl⟩

end BioAuth.Mobile
