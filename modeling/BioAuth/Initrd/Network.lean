import BioAuth.Agent.QrNetwork
import BioAuth.Session.HandshakeAgreement
import BioAuth.Session.HandshakeSound
import BioAuth.Session.NetworkSession

namespace BioAuth.Initrd
open BioAuth BioAuth.Session BioAuth.Session.Identities
open BioAuth.Verifier (TransportSecurity)

/-- Must match the paired phone's saved LAN transport name: it is part of the session binding. -/
def transportName : String := "QrNetworkTransport"

/-- The last `Instant`, in nanoseconds. -/
def maxInstant : Nat := (2 ^ 63 - 1) * 1000000000 + 999999999

/-- An inbound connection, as the platform and its far end will treat it. -/
structure Connection where
  /-- `set_nonblocking(false)`. -/
  blocking : Except IoError Unit
  /-- When its service begins. -/
  now : Nat
  peer : String
  outbound : Framing.Outbound
  /-- What arrives once the hello is out. A wait that outlasts the deadline fails. -/
  replies : Bytes → Inbound IoError

/-- What one call of the listener's `accept` brings. -/
inductive Poll
  | connection (connection : Connection)
  | wouldBlock (now : Nat)
  | failed (error : IoError)

structure WiredSession where
  channel : SecureChannel
  origin : String
  deadline : Nat
  security : TransportSecurity
  closed : Bool

/-- A call of the listener: what it is given, the clocks, and what it draws. -/
structure WiredListener [Identities] where
  identity : IdentityKey
  verifierId : String
  phoneDeviceId : String
  phoneIdentitySpki : Bytes
  timeout : Nat
  start : Nat
  nowMs : Int64
  sessionId : String
  nonce : Block 32
  secret : StaticSecret

def invalidData (error : SessionError) : IoError := ⟨.invalidData, error.message⟩

def timedOut : IoError := ⟨.timedOut, "initrd transport timed out"⟩

def remaining (deadline now : Nat) : Except IoError Nat :=
  if deadline ≤ now then .error timedOut else .ok (deadline - now)

namespace WiredListener
variable [Crypto] [Identities]

/-- The bootstrap of a handshake with so much time left. -/
def bootstrap (listener : WiredListener) (left : Nat) : Except SessionError ServerBootstrap :=
  let lifetimeMs := Int64.ofNat (min (left / 1000000) (2 ^ 63 - 1))
  ServerBootstrap.new listener.sessionId listener.verifierId "" listener.identity listener.nowMs (max lifetimeMs 1)
    listener.nonce

def expectation (listener : WiredListener) : PeerExpectation := .paired listener.phoneDeviceId listener.phoneIdentitySpki

/-- The handshake over the connection that was accepted. -/
def serve (listener : WiredListener) (deadline : Nat) (connection : Connection) : Except IoError WiredSession := do
  connection.blocking
  let left ← remaining deadline connection.now
  let bootstrap ← (listener.bootstrap left).mapError invalidData
  let (pending, hello) ← (PendingServerHandshake.begin bootstrap listener.identity listener.secret).mapError invalidData
  (Framing.writeFrame hello connection.outbound).1
  let answer ← (Framing.readFrame (connection.replies hello)).1
  let outcome ← (pending.finish answer listener.expectation transportName).mapError invalidData
  return {
    channel := outcome.channel
    origin := transportName ++ " • " ++ connection.peer
    deadline
    security := {
      transportName
      confidential := true
      peerAuthenticated := true
      requiresNetwork := true
      proximitySignal := false
      isDevelopment := false
    }
    closed := false
  }

/-- Waits for one connection. When the last poll is over nobody connects any more. -/
def await (listener : WiredListener) (deadline : Nat) : List Poll → Except IoError WiredSession
  | [] => .error timedOut
  | .connection connection :: _ => listener.serve deadline connection
  | .wouldBlock now :: polls => if deadline ≤ now then .error timedOut else listener.await deadline polls
  | .failed error :: _ => .error error

def deadline (listener : WiredListener) : Nat := listener.start + listener.timeout

/-- Accepts exactly one paired phone under one end-to-end timeout. -/
def accept (listener : WiredListener) (polls : List Poll) : Except IoError WiredSession :=
  if maxInstant < listener.deadline then .error ⟨.invalidInput, "timeout is too large"⟩
  else listener.await listener.deadline polls

/-- The listener's hello over a connection, while there is time. -/
structure Greets (listener : WiredListener) (connection : Connection) (pending : PendingServerHandshake) (hello : Bytes) :
    Prop where
  reachable : listener.deadline ≤ maxInstant
  blocking : connection.blocking = .ok ()
  inTime : connection.now < listener.deadline
  begun : ∃ bootstrap, listener.bootstrap (listener.deadline - connection.now) = .ok bootstrap ∧
    PendingServerHandshake.begin bootstrap listener.identity listener.secret = .ok (pending, hello)
  written : (Framing.writeFrame hello connection.outbound).1 = .ok ()

/-- Over the connection comes an answer of the paired device under the paired key. -/
structure Completes (listener : WiredListener) (connection : Connection) (pending : PendingServerHandshake) (hello : Bytes)
    (client : ClientHello) : Prop extends Greets listener connection pending hello where
  answered : ∃ frame signature, (Framing.readFrame (connection.replies hello)).1 = .ok frame ∧
    pending.Finished frame listener.expectation client signature false

/-- The session a completed handshake leaves. -/
def session (listener : WiredListener) (connection : Connection) (pending : PendingServerHandshake) (client : ClientHello) :
    WiredSession where
  channel := (pending.outcome client false transportName).channel
  origin := transportName ++ " • " ++ connection.peer
  deadline := listener.deadline
  security := ⟨transportName, true, true, true, false, false⟩
  closed := false

theorem serve_eq_ok {listener : WiredListener} {connection : Connection} {session : WiredSession}
    (reachable : listener.deadline ≤ maxInstant) :
    listener.serve listener.deadline connection = .ok session ↔
      ∃ pending hello client, listener.Completes connection pending hello client ∧
        session = listener.session connection pending client := by
  have left {now amount : Nat} : remaining listener.deadline now = .ok amount ↔
      now < listener.deadline ∧ listener.deadline - now = amount := by
    unfold remaining
    split
    · exact iff_of_false nofun fun both => by omega
    · rw [Except.ok.injEq]
      exact ⟨fun same => ⟨by omega, same⟩, fun both => both.2⟩
  unfold serve
  simp only [except_bind_eq_ok, except_mapError_eq_ok, except_pure_eq_ok, left, PendingServerHandshake.finish_eq_ok,
    Prod.exists]
  constructor
  · rintro ⟨_, blocking, _, ⟨inTime, rfl⟩, bootstrap, drawn, pending, hello, begun, _, written, frame, read, outcome,
      ⟨client, signature, wasPairing, finished, rfl⟩, rfl⟩
    have known : wasPairing = false := (PendingServerHandshake.checkPeer_eq_ok.mp finished.expected).2
    subst known
    exact ⟨pending, hello, client, ⟨⟨reachable, blocking, inTime, ⟨bootstrap, drawn, begun⟩, written⟩, frame, signature, read,
      finished⟩, rfl⟩
  · rintro ⟨pending, hello, client, ⟨⟨_, blocking, inTime, ⟨bootstrap, drawn, begun⟩, written⟩, frame, signature, read,
      finished⟩, rfl⟩
    exact ⟨(), blocking, _, ⟨inTime, rfl⟩, bootstrap, drawn, pending, hello, begun, (), written, frame, read, _,
      ⟨client, signature, false, finished, rfl⟩, rfl⟩

/-- The first connection of a run is the one that is served. -/
theorem await_first (listener : WiredListener) {deadline : Nat} {waits : List Poll}
    (inTime : ∀ poll ∈ waits, ∃ now, poll = .wouldBlock now ∧ now < deadline) (first : Connection) (later : List Poll) :
    listener.await deadline (waits ++ .connection first :: later) = listener.serve deadline first := by
  induction waits with
  | nil => rfl
  | cons poll waits ih =>
    rw [List.forall_mem_cons] at inTime
    obtain ⟨now, rfl, early⟩ := inTime.1
    have rest := ih inTime.2
    rw [List.cons_append, await, if_neg (Nat.not_le_of_lt early)]
    exact rest

/-- A session comes of the first connection there is. -/
theorem await_eq_ok {listener : WiredListener} {deadline : Nat} {polls : List Poll} {session : WiredSession}
    (accepted : listener.await deadline polls = .ok session) :
    ∃ first, .connection first ∈ polls ∧ listener.serve deadline first = .ok session := by
  induction polls with
  | nil => cases accepted
  | cons poll polls ih =>
    cases poll with
    | connection first => exact ⟨first, List.mem_cons_self, accepted⟩
    | failed error => cases accepted
    | wouldBlock now =>
      unfold await at accepted
      split at accepted
      · cases accepted
      · obtain ⟨first, member, served⟩ := ih accepted
        exact ⟨first, List.mem_cons_of_mem _ member, served⟩

theorem accept_eq_ok {listener : WiredListener} {polls : List Poll} {session : WiredSession}
    (accepted : listener.accept polls = .ok session) :
    ∃ first, .connection first ∈ polls ∧ ∃ pending hello client, listener.Completes first pending hello client ∧
      session = listener.session first pending client := by
  unfold accept at accepted
  split at accepted
  · cases accepted
  · rename_i reachable
    obtain ⟨first, member, served⟩ := await_eq_ok accepted
    exact ⟨first, member, (serve_eq_ok (Nat.le_of_not_lt reachable)).mp served⟩

/-- The session is with the paired device: it has answered this listener's hello under the key that is stored, and where
nobody else signs under that key it has run the handshake itself and agrees on it. -/
def WithPhone (listener : WiredListener) (session : WiredSession) : Prop :=
  ∃ (pending : PendingServerHandshake) (frame : Bytes) (outcome : HandshakeOutcome) (client : ClientHello),
    session.channel = outcome.channel ∧ FrameSound pending frame listener.expectation outcome client ∧
      (outcome.peerDeviceId = listener.phoneDeviceId ∧ outcome.peerIdentitySpki = listener.phoneIdentitySpki) ∧
      ∀ servers clients, Unforgeable servers clients listener.phoneIdentitySpki →
        ∃ run server, clients run ∧ run.Signed server client ∧ Agreed pending outcome run server client

theorem withPhone_of_completes {listener : WiredListener} {connection : Connection} {pending : PendingServerHandshake}
    {hello : Bytes} {client : ClientHello} (completes : listener.Completes connection pending hello client) :
    listener.WithPhone (listener.session connection pending client) := by
  obtain ⟨frame, signature, _, finished⟩ := completes.answered
  have ran : pending.finish frame listener.expectation transportName = .ok (pending.outcome client false transportName) :=
    PendingServerHandshake.finish_eq_ok.mpr ⟨client, signature, false, finished, rfl⟩
  have peer := (PendingServerHandshake.checkPeer_eq_ok.mp finished.expected).1
  have sound : FrameSound pending frame listener.expectation (pending.outcome client false transportName) client := {
    signed := ⟨signature, finished.framed, finished.signed⟩
    reported := ⟨rfl, rfl, rfl⟩
    stored := fun deviceId spki paired => by
      obtain ⟨rfl, rfl⟩ := PeerExpectation.paired.inj paired
      exact peer
    echoed := finished.echoed
  }
  refine ⟨pending, frame, pending.outcome client false transportName, client, rfl, sound, peer, ?_⟩
  intro servers clients honest
  exact finish_agreed ran sound (peer.2.symm ▸ honest)

/-- The paired phone answers this listener's hello over the connection. -/
structure Honest (listener : WiredListener) (connection : Connection) (pending : PendingServerHandshake) (hello : Bytes)
    (answered : HandshakeOutcome) : Prop extends Greets listener connection pending hello where
  answers : ∃ identity nowMs secret verifierSpki frame later,
    publicKeySpki identity = .ok listener.phoneIdentitySpki ∧
      ClientHandshake.respond hello (.paired verifierSpki) listener.phoneDeviceId identity transportName nowMs secret =
        .ok (frame, answered) ∧
      (connection.replies hello).octets = Framing.spell frame ++ later ∧
      ∀ error ∈ (connection.replies hello).failures, Framing.interrupted error = true

theorem Honest.completes (lawful : Lawful ‹Identities›) {listener : WiredListener} {connection : Connection}
    {pending : PendingServerHandshake} {hello : Bytes} {answered : HandshakeOutcome}
    (honest : listener.Honest connection pending hello answered) :
    ∃ client, listener.Completes connection pending hello client ∧
      Agrees (pending.outcome client false transportName) answered listener.phoneDeviceId listener.phoneIdentitySpki := by
  obtain ⟨identity, nowMs, secret, verifierSpki, frame, later, known, responded, arrives, calm⟩ := honest.answers
  obtain ⟨bootstrap, _, begun⟩ := honest.begun
  obtain ⟨finished, ran, agrees, _⟩ := handshake_completes lawful begun responded known (Or.inr rfl)
  obtain ⟨client, signature, wasPairing, ended, rfl⟩ := PendingServerHandshake.finish_eq_ok.mp ran
  have paired : wasPairing = false := (PendingServerHandshake.checkPeer_eq_ok.mp ended.expected).2
  subst paired
  have some_frame : frame ≠ [] := by
    rw [ended.framed]
    exact nofun
  obtain ⟨_, read, _⟩ := Framing.readFrame_run ⟨some_frame, ended.bounded⟩ arrives calm
  exact ⟨client, ⟨honest.toGreets, frame, signature, by rw [read], ended⟩, agrees⟩

/-- The first connection of a run, after nothing but waiting. -/
def First (polls : List Poll) (first : Connection) : Prop :=
  ∃ waits later, polls = waits ++ .connection first :: later ∧ ∀ poll ∈ waits, ∃ now, poll = .wouldBlock now

omit [Crypto] [Identities] in
theorem first_of_mem {polls : List Poll} {deadline : Nat} {connection : Connection} (member : .connection connection ∈ polls)
    (inTime : ∀ poll ∈ polls, (∃ connection, poll = .connection connection) ∨ ∃ now, poll = .wouldBlock now ∧ now < deadline) :
    ∃ first, First polls first := by
  induction polls with
  | nil => cases member
  | cons poll polls ih =>
    rw [List.forall_mem_cons] at inTime
    rcases inTime.1 with ⟨first, rfl⟩ | ⟨now, rfl, _⟩
    · exact ⟨first, [], polls, rfl, nofun⟩
    · have rest : .connection connection ∈ polls := (List.mem_cons.mp member).resolve_left nofun
      obtain ⟨first, waits, later, rfl, quiet⟩ := ih rest inTime.2
      exact ⟨first, .wouldBlock now :: waits, later, rfl, List.forall_mem_cons.mpr ⟨⟨now, rfl⟩, quiet⟩⟩

theorem accept_first {listener : WiredListener} (reachable : listener.deadline ≤ maxInstant) {polls : List Poll}
    (inTime : ∀ poll ∈ polls,
      (∃ connection, poll = .connection connection) ∨ ∃ now, poll = .wouldBlock now ∧ now < listener.deadline)
    {first : Connection} (earliest : First polls first) {session : WiredSession} :
    listener.accept polls = .ok session ↔ ∃ pending hello client, listener.Completes first pending hello client ∧
      session = listener.session first pending client := by
  obtain ⟨waits, later, rfl, quiet⟩ := earliest
  have waiting : ∀ poll ∈ waits, ∃ now, poll = .wouldBlock now ∧ now < listener.deadline := by
    intro poll member
    obtain ⟨now, rfl⟩ := quiet poll member
    rcases inTime _ (List.mem_append_left _ member) with ⟨_, never⟩ | ⟨_, same, early⟩
    · cases never
    · cases same
      exact ⟨now, rfl, early⟩
  unfold accept
  rw [if_neg (Nat.not_lt_of_le reachable), listener.await_first waiting first later]
  exact serve_eq_ok reachable

/-- Whoever connects, and in whatever order, with the paired phone among them: the boot is unlocked exactly if the first
connection completes the handshake as the paired phone, and never by another peer. -/
theorem unlocks_iff_first_completes (lawful : Lawful ‹Identities›) (listener : WiredListener) {polls : List Poll}
    (inTime : ∀ poll ∈ polls,
      (∃ connection, poll = .connection connection) ∨ ∃ now, poll = .wouldBlock now ∧ now < listener.deadline)
    {phone : Connection} (connects : .connection phone ∈ polls) {pending : PendingServerHandshake} {hello : Bytes}
    {answered : HandshakeOutcome} (honest : listener.Honest phone pending hello answered) :
    ((∃ session, listener.accept polls = .ok session ∧ listener.WithPhone session) ↔
      ∃ first, First polls first ∧ ∃ pending hello client, listener.Completes first pending hello client) ∧
    (First polls phone → ∃ client, listener.accept polls = .ok (listener.session phone pending client) ∧
      Agrees (pending.outcome client false transportName) answered listener.phoneDeviceId listener.phoneIdentitySpki) ∧
    ∀ others session, listener.accept others = .ok session → listener.WithPhone session := by
  refine ⟨⟨?_, ?_⟩, ?_, ?_⟩
  · rintro ⟨session, accepted, _⟩
    obtain ⟨first, earliest⟩ := first_of_mem connects inTime
    obtain ⟨pending, hello, client, completes, _⟩ := (accept_first honest.reachable inTime earliest).mp accepted
    exact ⟨first, earliest, pending, hello, client, completes⟩
  · rintro ⟨first, earliest, pending, hello, client, completes⟩
    exact ⟨_, (accept_first honest.reachable inTime earliest).mpr ⟨pending, hello, client, completes, rfl⟩,
      withPhone_of_completes completes⟩
  · intro earliest
    obtain ⟨client, completes, agrees⟩ := honest.completes lawful
    exact ⟨client, (accept_first honest.reachable inTime earliest).mpr ⟨pending, hello, client, completes, rfl⟩, agrees⟩
  · intro others session accepted
    obtain ⟨first, _, pending, hello, client, completes, rfl⟩ := accept_eq_ok accepted
    exact withPhone_of_completes completes

end WiredListener

section Plain

abbrev plainListener : @WiredListener Identities.plain :=
  letI := Identities.plain
  { identity := plainKey 1
    verifierId := "desktop"
    phoneDeviceId := "phone"
    phoneIdentitySpki := (plainKey 2).val
    timeout := 1000000000
    start := 0
    nowMs := 0
    sessionId := "s"
    nonce := plainKey 7
    secret := plainKey 3 }

def pairedAnswer : ClientHello := ClientHandshake.answer plainServerHello "phone" (plainKey 2).val (plainKey 4) false

def pairedFrame : Bytes := envelope pairedAnswer.spell (@sign Identities.plain (plainKey 2) pairedAnswer.spell)

def pairedAnswered : HandshakeOutcome :=
  @ClientHandshake.outcome Crypto.plain Identities.plain plainServerHello pairedAnswer (plainKey 4) false transportName

/-- Connects and closes, as the phone does on its way to the desktop. -/
def probe : Connection := ⟨.ok (), 0, "192.168.42.129:50000", ⟨[], none⟩, fun _ => []⟩

def plainPhone : Connection where
  blocking := .ok ()
  now := 0
  peer := "192.168.42.129:50001"
  outbound := ⟨[], none⟩
  replies _ := Inbound.putBack (Framing.spell pairedFrame) []

theorem paired_responded :
    letI := Crypto.plain
    letI := Identities.plain
    ClientHandshake.respond (vouchedHello fun _ _ => true) (.paired (plainKey 1).val) "phone" (plainKey 2) transportName 5
      (plainKey 4) = .ok (pairedFrame, pairedAnswered) := by
  let := Crypto.plain
  let := Identities.plain
  have fits : plainServerHello.Fits := ⟨by decide +kernel, by decide +kernel, by decide +kernel⟩
  have expected : ClientHandshake.checkVerifier plainServerHello (.paired (plainKey 1).val) = .ok false :=
    ClientHandshake.checkVerifier_eq_ok.mpr ⟨rfl, rfl⟩
  have responded : ClientHandshake.Responded (vouchedHello fun _ _ => true) (.paired (plainKey 1).val) "phone" (plainKey 2) 5
      plainServerHello (sign (plainKey 1) plainServerHello.spell) (plainKey 2).val false := {
    device := by decide +kernel
    fits
    framed := rfl
    bounded := by decide +kernel
    expected
    fresh := by decide
    signed := vouched_verify.mpr ⟨rfl, rfl⟩
    known := rfl
  }
  exact ClientHandshake.respond_eq_ok.mpr ⟨plainServerHello, _, (plainKey 2).val, false, responded, rfl, rfl⟩

theorem plain_greets {connection : Connection} (blocking : connection.blocking = .ok ()) (now : connection.now = 0)
    (works : connection.outbound.fault = none) :
    letI := Crypto.plain
    letI := Identities.plain
    plainListener.Greets connection (vouchedStart fun _ _ => true) (vouchedHello fun _ _ => true) := by
  let := Crypto.plain
  let := Identities.plain
  have drawn : plainListener.bootstrap (plainListener.deadline - connection.now) = .ok plainBootstrap := by
    rw [now]
    decide +kernel
  have fits : Framing.Fits (vouchedHello fun _ _ => true) := ⟨by decide +kernel, by decide +kernel⟩
  exact {
    reachable := by decide +kernel
    blocking
    inTime := by
      rw [now]
      decide +kernel
    begun := ⟨plainBootstrap, drawn, vouched_begun _⟩
    written := by rw [Framing.writeFrame_run fits works]
  }

theorem plain_honest :
    letI := Crypto.plain
    letI := Identities.plain
    plainListener.Honest plainPhone (vouchedStart fun _ _ => true) (vouchedHello fun _ _ => true) pairedAnswered := by
  let := Crypto.plain
  let := Identities.plain
  refine ⟨plain_greets rfl rfl rfl, plainKey 2, 5, plainKey 4, (plainKey 1).val, pairedFrame, [], rfl, paired_responded, ?_, ?_⟩
  · exact Inbound.octets_putBack (Framing.spell pairedFrame) ([] : Inbound IoError)
  · intro error member
    rw [plainPhone, Inbound.failures_putBack] at member
    cases member

theorem unlocks_iff_first_completes_plain :
    letI := Crypto.plain
    letI := Identities.plain
    ∃ session, plainListener.accept [.wouldBlock 7, .connection plainPhone, .connection probe] = .ok session ∧
      plainListener.WithPhone session := by
  let := Crypto.plain
  let := Identities.plain
  have inTime : ∀ poll ∈ [Poll.wouldBlock 7, .connection plainPhone, .connection probe],
      (∃ connection, poll = .connection connection) ∨ ∃ now, poll = .wouldBlock now ∧ now < plainListener.deadline := by
    simp only [List.forall_mem_cons]
    exact ⟨Or.inr ⟨7, rfl, by decide +kernel⟩, Or.inl ⟨_, rfl⟩, Or.inl ⟨_, rfl⟩, nofun⟩
  have first : WiredListener.First [.wouldBlock 7, .connection plainPhone, .connection probe] plainPhone :=
    ⟨[.wouldBlock 7], [.connection probe], rfl, fun _ member => ⟨7, List.mem_singleton.mp member⟩⟩
  have unlocks := WiredListener.unlocks_iff_first_completes plain_lawful plainListener inTime
    (List.mem_cons_of_mem _ List.mem_cons_self) plain_honest
  obtain ⟨client, accepted, _⟩ := unlocks.2.1 first
  exact ⟨_, accepted, unlocks.2.2 _ _ accepted⟩

/-- A probe costs the boot unlock: the phone that answers next is never served. -/
theorem probe_costs_the_unlock :
    letI := Crypto.plain
    letI := Identities.plain
    (∃ pending hello answered, plainListener.Honest plainPhone pending hello answered) ∧
      plainListener.accept [.connection probe, .connection plainPhone] =
        .error ⟨.unexpectedEof, "failed to fill whole buffer"⟩ := by
  let := Crypto.plain
  let := Identities.plain
  refine ⟨⟨_, _, _, plain_honest⟩, ?_⟩
  have greets : plainListener.Greets probe _ _ := plain_greets rfl rfl rfl
  obtain ⟨bootstrap, drawn, begun⟩ := greets.begun
  have left : remaining plainListener.deadline probe.now = .ok (plainListener.deadline - probe.now) := if_neg (by decide +kernel)
  have served : plainListener.serve plainListener.deadline probe = .error ⟨.unexpectedEof, "failed to fill whole buffer"⟩ := by
    have silent : (Framing.readFrame (probe.replies (vouchedHello fun _ _ => true))).1 =
        .error ⟨.unexpectedEof, "failed to fill whole buffer"⟩ := rfl
    unfold WiredListener.serve
    simp only [greets.blocking, left, drawn, begun, greets.written, silent, Except.mapError, bind, Except.bind]
  exact served

end Plain

end BioAuth.Initrd
