import BioAuth.Lib.Fallible
import BioAuth.Session.Keys

namespace BioAuth.Session
open BioAuth

/-- The largest cleartext frame a record may carry. -/
def maxFrame : Nat := 8192

/-- What a record adds to its cleartext: an eight-octet counter and the tag. -/
def recordOverhead : Nat := 8 + 16

/-- Which end of the handshake a channel belongs to. -/
inductive Role
  | server
  | client
  deriving DecidableEq

def Role.peer : Role → Role
  | .server => .client
  | .client => .server

structure SecureChannel where
  send : Block 32
  receive : Block 32
  binding : Block 32
  sendCounter : UInt64
  receiveCounter : UInt64
  deriving DecidableEq

/-- `u64::checked_add(1)`. -/
def checkedAdd (counter : UInt64) : Option UInt64 :=
  if counter.toNat + 1 < 2 ^ 64 then some (counter + 1) else none

/-- The 96-bit nonce of a record: four zeros and the counter. -/
def nonce (counter : UInt64) : Block 12 :=
  ⟨List.replicate 4 0 ++ BigEndian.encode 8 counter.toNat, by simp⟩

theorem checkedAdd_eq_some {counter next : UInt64} (added : checkedAdd counter = some next) :
    next.toNat = counter.toNat + 1 := by
  unfold checkedAdd at added
  split at added
  · cases added
    rw [UInt64.toNat_add, UInt64.toNat_one, Nat.mod_eq_of_lt ‹_›]
  · cases added

theorem checkedAdd_eq_none {counter : UInt64} : checkedAdd counter = none ↔ counter.toNat + 1 = 2 ^ 64 := by
  have bound := counter.toNat_lt
  unfold checkedAdd
  split
  · simp only [reduceCtorEq, false_iff]
    omega
  · simp only [true_iff]
    omega

theorem nonce_injective {a b : UInt64} (same : nonce a = nonce b) : a = b := by
  have octets := congrArg Subtype.val same
  simp only [nonce, List.append_cancel_left_eq] at octets
  exact UInt64.toNat.inj (BigEndian.encode_injective (by simpa using a.toNat_lt) (by simpa using b.toNat_lt) octets)

/-- The counter a record starts with. -/
def recordCounter (record : Bytes) : UInt64 := UInt64.ofNat (BigEndian.decode (record.take 8))

theorem recordCounter_encode (counter : UInt64) (rest : Bytes) :
    recordCounter (BigEndian.encode 8 counter.toNat ++ rest) = counter := by
  have front : (BigEndian.encode 8 counter.toNat ++ rest).take 8 = BigEndian.encode 8 counter.toNat :=
    List.take_left' (BigEndian.encode_length _ _)
  unfold recordCounter
  rw [front, BigEndian.decode_encode_of_lt (by simpa using counter.toNat_lt), UInt64.ofNat_toNat]

/-- The first eight octets of a record spell its counter. -/
theorem encode_recordCounter {record : Bytes} (long : 8 ≤ record.length) :
    BigEndian.encode 8 (recordCounter record).toNat = record.take 8 := by
  have length : (record.take 8).length = 8 := by
    rw [List.length_take]
    omega
  have bound := BigEndian.decode_lt (record.take 8)
  rw [length] at bound
  unfold recordCounter
  rw [UInt64.toNat_ofNat', Nat.mod_eq_of_lt (by simpa using bound)]
  conv_rhs => rw [← BigEndian.encode_decode (record.take 8), length]

namespace SecureChannel

def new (role : Role) (schedule : KeySchedule) (binding : Block 32) : SecureChannel :=
  let (send, receive) := match role with
    | .server => (schedule.serverToClient, schedule.clientToServer)
    | .client => (schedule.clientToServer, schedule.serverToClient)
  { send, receive, binding, sendCounter := 0, receiveCounter := 0 }

/-- What one call of `seal` hands to the cipher. -/
def sealing (channel : SecureChannel) (cleartext : Bytes) : Sealing (Block 32) (Block 12) where
  key := channel.send
  nonce := nonce channel.sendCounter
  aad := channel.binding.val
  plaintext := cleartext

end SecureChannel

variable [Crypto]

/-- Encrypts one frame. The counter moves after the encryption: at its limit the ciphertext is dropped. -/
def SecureChannel.seal (cleartext : Bytes) : Fallible SecureChannel SessionError Bytes := do
  require (cleartext ≠ [] ∧ cleartext.length ≤ maxFrame) (SessionError.invalidFrame "invalid cleartext frame size")
  let channel ← get
  let counter := channel.sendCounter
  let cipher := Crypto.chacha20Poly1305.ciphertext (channel.sealing cleartext)
  let next ← okOr SessionError.counterExhausted (checkedAdd counter)
  set { channel with sendCounter := next }
  return BigEndian.encode 8 counter.toNat ++ cipher

/-- Decrypts one frame. Records must arrive in order. -/
def SecureChannel.open (record : Bytes) : Fallible SecureChannel SessionError Bytes := do
  require (recordOverhead < record.length ∧ record.length ≤ maxFrame + recordOverhead)
    (SessionError.invalidFrame "invalid encrypted record size")
  let channel ← get
  let counter := recordCounter record
  require (counter = channel.receiveCounter) SessionError.replay
  let clear ← okOr SessionError.decrypt
    (Crypto.chacha20Poly1305.decrypt channel.receive (nonce counter) channel.binding.val (record.drop 8))
  let next ← okOr SessionError.counterExhausted (checkedAdd channel.receiveCounter)
  set { channel with receiveCounter := next }
  return clear

/-- A frame of a size the channel admits. -/
def Admitted (cleartext : Bytes) : Prop := cleartext ≠ [] ∧ cleartext.length ≤ maxFrame

instance (cleartext : Bytes) : Decidable (Admitted cleartext) := inferInstanceAs (Decidable (_ ∧ _))

/-- The record of a frame under a channel's current counter. -/
def SecureChannel.record (channel : SecureChannel) (cleartext : Bytes) : Bytes :=
  BigEndian.encode 8 channel.sendCounter.toNat ++ Crypto.chacha20Poly1305.ciphertext (channel.sealing cleartext)

/-- Everything a call of `seal` can do. -/
theorem SecureChannel.seal_cases (channel : SecureChannel) (cleartext : Bytes) :
    (¬Admitted cleartext ∧
        SecureChannel.seal cleartext channel = (.error (.invalidFrame "invalid cleartext frame size"), channel)) ∨
      (Admitted cleartext ∧ checkedAdd channel.sendCounter = none ∧
        SecureChannel.seal cleartext channel = (.error .counterExhausted, channel)) ∨
      ∃ next, Admitted cleartext ∧ checkedAdd channel.sendCounter = some next ∧
        SecureChannel.seal cleartext channel =
          (.ok (channel.record cleartext), { channel with sendCounter := next }) := by
  unfold SecureChannel.seal
  by_cases admitted : cleartext ≠ [] ∧ cleartext.length ≤ maxFrame
  · simp only [require, if_pos admitted, Fallible.bind_run, Fallible.pure_run, Fallible.get_run, Fallible.liftM_run]
    cases added : checkedAdd channel.sendCounter with
    | none => exact Or.inr (Or.inl ⟨admitted, rfl, rfl⟩)
    | some next => exact Or.inr (Or.inr ⟨next, admitted, rfl, rfl⟩)
  · simp only [require, if_neg admitted]
    exact Or.inl ⟨admitted, rfl⟩

/-- A call of `open` that fails leaves the channel as it was. -/
theorem SecureChannel.open_error {channel after : SecureChannel} {record : Bytes} {e : SessionError}
    (failed : SecureChannel.open record channel = (.error e, after)) : after = channel := by
  have ends : (SecureChannel.open record).Ends (fun _ _ => True) (fun _ t => t = channel) channel := by
    unfold SecureChannel.open
    refine Fallible.Ends.bind (fun _ t => t = channel) (Fallible.ends_require (fun _ => rfl) fun _ => rfl) ?_
    rintro _ _ rfl
    refine Fallible.Ends.bind_of_run (Fallible.get_run _) ?_
    refine Fallible.Ends.bind (fun _ t => t = _) (Fallible.ends_require (fun _ => rfl) fun _ => rfl) ?_
    rintro _ _ rfl
    refine Fallible.Ends.bind (fun _ t => t = _) (Fallible.ends_liftM.mpr ⟨fun _ _ => rfl, fun _ _ => rfl⟩) ?_
    rintro _ _ rfl
    refine Fallible.Ends.bind (fun _ t => t = _) (Fallible.ends_liftM.mpr ⟨fun _ _ => rfl, fun _ _ => rfl⟩) ?_
    rintro _ _ rfl
    exact Fallible.Ends.bind_of_run (Fallible.set_run _ _) (Fallible.ends_pure.mpr trivial)
  exact ends.bad_of_run failed

/-- What it takes for a call of `open` to yield a frame. -/
theorem SecureChannel.open_eq_ok {channel after : SecureChannel} {record clear : Bytes} :
    SecureChannel.open record channel = (.ok clear, after) ↔
      (recordOverhead < record.length ∧ record.length ≤ maxFrame + recordOverhead) ∧
        recordCounter record = channel.receiveCounter ∧
        Crypto.chacha20Poly1305.decrypt channel.receive (nonce channel.receiveCounter) channel.binding.val
          (record.drop 8) = some clear ∧
        ∃ next, checkedAdd channel.receiveCounter = some next ∧ after = { channel with receiveCounter := next } := by
  unfold SecureChannel.open
  simp only [↓Fallible.require_bind_eq_ok, ↓Fallible.liftM_bind_eq_ok, Fallible.bind_eq_ok, Fallible.get_run,
    Fallible.set_run, Fallible.pure_eq_ok, okOr_eq_ok, Prod.mk.injEq, Except.ok.injEq]
  constructor
  · intro run
    obtain ⟨sized, _, _, ⟨rfl, rfl⟩, counter, found, opened, next, added, _, _, ⟨_, rfl⟩, rfl, rfl⟩ := run
    exact ⟨sized, counter, by rwa [counter] at opened, next, added, rfl⟩
  · intro run
    obtain ⟨sized, counter, opened, next, added, rfl⟩ := run
    exact ⟨sized, channel, channel, ⟨rfl, rfl⟩, counter, clear, by rwa [counter], next, added, ⟨⟩, _,
      ⟨trivial, rfl⟩, rfl, rfl⟩

theorem SecureChannel.record_length (correct : Crypto.chacha20Poly1305.Correct tagLen) (channel : SecureChannel)
    (cleartext : Bytes) : (channel.record cleartext).length = cleartext.length + recordOverhead := by
  unfold SecureChannel.record
  have cipher : (Crypto.chacha20Poly1305.ciphertext (channel.sealing cleartext)).length = cleartext.length + tagLen :=
    correct.encrypt_length _ _ _ _
  rw [List.length_append, BigEndian.encode_length, cipher]
  unfold recordOverhead tagLen
  omega

/-- The receiving end of a direction stands where the sending end does. -/
structure InStep (sender peer : SecureChannel) : Prop where
  key : peer.receive = sender.send
  binding : peer.binding = sender.binding
  counter : peer.receiveCounter = sender.sendCounter

/-- In step, a record opens to what was sealed. -/
theorem InStep.open_record (correct : Crypto.chacha20Poly1305.Correct tagLen) {sender peer : SecureChannel}
    (inStep : InStep sender peer) {cleartext : Bytes} (admitted : Admitted cleartext) {next : UInt64}
    (added : checkedAdd sender.sendCounter = some next) :
    SecureChannel.open (sender.record cleartext) peer = (.ok cleartext, { peer with receiveCounter := next }) := by
  have length := sender.record_length correct cleartext
  have positive := List.length_pos_iff.mpr admitted.1
  have bound := admitted.2
  have counter : recordCounter (sender.record cleartext) = sender.sendCounter := recordCounter_encode _ _
  have cipher : (sender.record cleartext).drop 8 = Crypto.chacha20Poly1305.ciphertext (sender.sealing cleartext) :=
    List.drop_left' (BigEndian.encode_length _ _)
  refine SecureChannel.open_eq_ok.mpr ⟨⟨by omega, by omega⟩, counter.trans inStep.counter.symm, ?_, next, ?_, rfl⟩
  · rw [cipher, inStep.key, inStep.binding, inStep.counter]
    exact correct.decrypt_encrypt _ _ _ _
  · rw [inStep.counter, added]

end BioAuth.Session
