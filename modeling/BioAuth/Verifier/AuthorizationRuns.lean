import BioAuth.Verifier.Authorization
import BioAuth.Verifier.PairingFailure
import BioAuth.Session.HandshakeAgreement

namespace BioAuth.Verifier
open BioAuth
open BioAuth.Locker (World)
open BioAuth.Protocol (AuthRequest AuthResponse)
open BioAuth.Session (Identities)

/-- A verifier at work, and the disk its store is kept on. -/
structure Desk (σ : Type) where
  verifier : Verifier
  world : World σ

/-- A call to the verifier, or an edit of its store. Answers may be made up, and a request answered for again. -/
inductive Event
  | issue (spec : RequestSpec) (session : SecureSession) (nowMs : Int64) (random : RequestRandom)
  | accept (pending : PendingAuthorization) (frame : Bytes) (session : SecureSession) (nowMs : Int64)
  | edit (write : StoreWrite)

section Runs
variable {σ : Type} [Identities] [JsonText]

namespace Event

def after (desk : Desk σ) : Event → Desk σ
  | .issue .. => desk
  | .accept pending frame session nowMs =>
    { desk with verifier := (Verifier.accept pending frame session nowMs desk.verifier).2 }
  | .edit write =>
    let kept := (write.run ⟨desk.verifier.store, desk.world⟩).2
    ⟨{ desk.verifier with store := kept.store }, kept.world⟩

/-- The request id the event puts into the guard. -/
def consumes (desk : Desk σ) : Event → Option String
  | .accept pending frame session nowMs =>
    let id := pending.request.requestId
    let after := (Verifier.accept pending frame session nowMs desk.verifier).2
    if id ∉ desk.verifier.replay.seen ∧ id ∈ after.replay.seen then some id else none
  | _ => none

end Event

namespace Desk

def afterAll (desk : Desk σ) (events : List Event) : Desk σ := events.foldl Event.after desk

/-- The request ids consumed along a run, oldest first. -/
def consumed (desk : Desk σ) : List Event → List String
  | [] => []
  | event :: events => (event.consumes desk).toList ++ (event.after desk).consumed events

theorem afterAll_append (desk : Desk σ) (earlier later : List Event) :
    desk.afterAll (earlier ++ later) = (desk.afterAll earlier).afterAll later := List.foldl_append

theorem consumed_append (desk : Desk σ) (earlier later : List Event) :
    desk.consumed (earlier ++ later) = desk.consumed earlier ++ (desk.afterAll earlier).consumed later := by
  induction earlier generalizing desk with
  | nil => rfl
  | cons event events ih =>
    rw [List.cons_append, consumed, ih, consumed, List.append_assoc]
    rfl

end Desk

omit [JsonText] in
/-- What an answer does to the guard. -/
theorem accept_replay (pending : PendingAuthorization) (frame : Bytes) (session : SecureSession) (nowMs : Int64)
    (verifier : Verifier) :
    (accept pending frame session nowMs verifier).2.replay = verifier.replay ∨
      (accept pending frame session nowMs verifier).2.replay =
        (verifier.replay.consume pending.request.requestId).2 := by
  have ends := accept_ends pending frame session nowMs verifier
  unfold Fallible.Ends at ends
  rcases run : accept pending frame session nowMs verifier with ⟨error | grant, t⟩ <;> rw [run] at ends
  · rcases ends with ⟨_, same⟩ | ⟨_, same⟩
    · exact Or.inl (by rw [same])
    · exact Or.inr (by rw [same]; rfl)
  · exact Or.inr (by rw [ends.1]; rfl)

/-- One event keeps the guard in step with what was consumed. -/
theorem follows_step {desk : Desk σ} {history : List String} (follows : desk.verifier.replay.Follows history)
    (event : Event) :
    (event.after desk).verifier.replay.capacity = desk.verifier.replay.capacity ∧
      (event.after desk).verifier.replay.Follows (history ++ (event.consumes desk).toList) := by
  cases event with
  | issue spec session nowMs random =>
    have nothing : history ++ (Event.consumes desk (.issue spec session nowMs random)).toList = history :=
      List.append_nil _
    exact ⟨rfl, by rw [nothing]; exact follows⟩
  | edit write =>
    have nothing : history ++ (Event.consumes desk (.edit write)).toList = history := List.append_nil _
    exact ⟨rfl, by rw [nothing]; exact follows⟩
  | accept pending frame session nowMs =>
    unfold Event.after Event.consumes
    dsimp only
    by_cases recent : pending.request.requestId ∈ history.rtake desk.verifier.replay.capacity
    · have seen := follows.mem_seen.mpr recent
      have same : (accept pending frame session nowMs desk.verifier).2.replay = desk.verifier.replay := by
        rcases accept_replay pending frame session nowMs desk.verifier with kept | consumed
        · exact kept
        · rw [consumed, follows.refused recent]
      rw [if_neg fun both => both.1 seen, same]
      exact ⟨rfl, by rwa [Option.toList, List.append_nil]⟩
    · have unseen := fun seen => recent (follows.mem_seen.mp seen)
      obtain ⟨_, capacity, next⟩ := follows.consumed recent
      rcases accept_replay pending frame session nowMs desk.verifier with kept | consumed
      · rw [kept, if_neg fun both => unseen both.2]
        exact ⟨rfl, by rwa [Option.toList, List.append_nil]⟩
      · have seen : pending.request.requestId ∈ (desk.verifier.replay.consume pending.request.requestId).2.seen := by
          rw [next.mem_seen, capacity]
          exact (sublist_rtake history follows.room).subset List.mem_cons_self
        rw [consumed, if_pos ⟨unseen, seen⟩]
        exact ⟨capacity, next⟩

theorem follows_run {desk : Desk σ} {history : List String} (follows : desk.verifier.replay.Follows history)
    (events : List Event) :
    (desk.afterAll events).verifier.replay.capacity = desk.verifier.replay.capacity ∧
      (desk.afterAll events).verifier.replay.Follows (history ++ desk.consumed events) := by
  induction events generalizing desk history with
  | nil => exact ⟨rfl, by rwa [Desk.consumed, List.append_nil]⟩
  | cons event events ih =>
    obtain ⟨capacity, next⟩ := follows_step follows event
    obtain ⟨later, last⟩ := ih next
    rw [List.append_assoc] at last
    exact ⟨later.trans capacity, last⟩

omit [JsonText] in
/-- What a grant does to the guard, and what it says of the id. -/
theorem grant_consumes {pending : PendingAuthorization} {frame : Bytes} {session : SecureSession} {nowMs : Int64}
    {verifier : Verifier} {grant : Grant} (granted : (accept pending frame session nowMs verifier).1 = .ok grant) :
    (accept pending frame session nowMs verifier).2 = burn verifier pending.request.requestId ∧
      Granted verifier pending frame session nowMs grant ∧ grant.requestId = pending.request.requestId := by
  rcases run : accept pending frame session nowMs verifier with ⟨error | other, t⟩ <;> rw [run] at granted
  · cases granted
  · cases granted
    obtain ⟨after, given⟩ := (accept_ends pending frame session nowMs verifier).good_of_run run
    obtain ⟨_, _, _, _, _, same⟩ := given.proven
    exact ⟨after, given, by rw [same]⟩

omit [JsonText] in
theorem grant_step {desk : Desk σ} {history : List String} (follows : desk.verifier.replay.Follows history)
    {pending : PendingAuthorization} {frame : Bytes} {session : SecureSession} {nowMs : Int64} {grant : Grant}
    (granted : (accept pending frame session nowMs desk.verifier).1 = .ok grant) :
    (Event.accept pending frame session nowMs).consumes desk = some grant.requestId := by
  obtain ⟨after, given, named⟩ := grant_consumes granted
  have recent : pending.request.requestId ∉ history.rtake desk.verifier.replay.capacity := by
    intro recent
    have refused := given.fresh
    rw [follows.refused recent] at refused
    cases refused
  obtain ⟨_, capacity, next⟩ := follows.consumed recent
  have seen : pending.request.requestId ∈ (burn desk.verifier pending.request.requestId).replay.seen := by
    unfold burn
    rw [next.mem_seen, capacity]
    exact (sublist_rtake history follows.room).subset List.mem_cons_self
  unfold Event.consumes
  dsimp only
  rw [after, if_pos ⟨fun there => recent (follows.mem_seen.mp there), seen⟩, named]

/-- What holds of the guard after a run, whatever was answered. -/
structure GuardSound (start desk : Desk σ) (events : List Event) : Prop where
  capacity : desk.verifier.replay.capacity = start.verifier.replay.capacity
  seen : desk.verifier.replay.seen = desk.verifier.replay.order.toFinset
  nodup : desk.verifier.replay.order.Nodup
  bounded : desk.verifier.replay.order.length ≤ desk.verifier.replay.capacity
  /-- An id is refused exactly when it is among the last that were accepted. -/
  refuses : ∀ id, (desk.verifier.replay.consume id).1 = false ↔
    id ∈ (start.consumed events).rtake desk.verifier.replay.capacity
  /-- An answer that is refused before its id is burnt changes nothing. -/
  spared : ∀ pending frame session nowMs error,
    (accept pending frame session nowMs desk.verifier).1 = .error error →
      (∀ response, ¬Answers pending frame session response) →
        (accept pending frame session nowMs desk.verifier).2 = desk.verifier
  /-- Before a request is granted again, as many other ids are consumed as the guard keeps. -/
  apart : ∀ first middle pending frame session nowMs grant again answer later atMs another,
    events = first ++ .accept pending frame session nowMs :: middle →
      (accept pending frame session nowMs (start.afterAll first).verifier).1 = .ok grant →
        (accept again answer later atMs desk.verifier).1 = .ok another → another.requestId = grant.requestId →
          desk.verifier.replay.capacity ≤
            (((start.afterAll (first ++ [.accept pending frame session nowMs])).consumed middle).toFinset.erase
              grant.requestId).card

theorem guard_sound (start : Desk σ) (capacity : Nat) (fresh : start.verifier.replay = .withCapacity capacity)
    (events : List Event) : GuardSound start (start.afterAll events) events := by
  have opening : start.verifier.replay.Follows [] := by
    rw [fresh]
    exact ReplayGuard.withCapacity_follows capacity
  obtain ⟨room, follows⟩ := follows_run opening events
  rw [List.nil_append] at follows
  refine ⟨room, follows.seen, follows.order_nodup, follows.order_le, ?_, ?_, ?_⟩
  · intro id
    by_cases recent : id ∈ (start.consumed events).rtake (start.afterAll events).verifier.replay.capacity
    · exact iff_of_true (by rw [follows.refused recent]) recent
    · refine iff_of_false ?_ recent
      rw [(follows.consumed recent).1]
      exact Bool.noConfusion
  · intro pending frame session nowMs error failed unanswered
    rcases run : accept pending frame session nowMs (start.afterAll events).verifier with ⟨other | grant, t⟩ <;>
      rw [run] at failed
    · rcases (accept_ends pending frame session nowMs _).bad_of_run run with ⟨_, same⟩ | ⟨⟨response, answers⟩, _⟩
      · exact same
      · exact absurd answers (unanswered response)
    · cases failed
  · intro first middle pending frame session nowMs grant again answer later atMs another split granted regranted same
    have early := (follows_run opening first).2
    have mine := grant_step early granted
    have theirs := grant_step follows regranted
    obtain ⟨kept, last⟩ := follows_step follows (.accept again answer later atMs)
    rw [theirs, same] at last
    have spaced := last.spaced
    have history : start.consumed events = start.consumed first ++ grant.requestId ::
        (start.afterAll (first ++ [.accept pending frame session nowMs])).consumed middle := by
      rw [split, Desk.consumed_append, Desk.consumed, mine, Desk.afterAll_append]
      rfl
    rw [history] at spaced
    rw [kept] at spaced
    exact spaced.between

end Runs

section Plain

/-- A credential that may open the disk. -/
def bootCredential : PairedCredential where
  credentialId := "boot"
  algorithm := publicKeyEcP256Spki
  publicKey := [4, 1]
  keyKind := .strongBox
  purpose := .diskUnlock
  permissions := [⟨"luks", wildcard, wildcard, wildcard⟩]
  permissionsRevision := 0

def bootDevice : PairedDevice where
  deviceId := "phone"
  displayName := "Phone"
  pairedAtMs := 0
  sessionIdentityPublicKey := [4]
  credentials := [bootCredential]

/-- A verifier that has just started, its store kept in memory. -/
def bootDesk : Desk Unit where
  verifier := new ⟨"desktop", "Desktop"⟩ ⟨none, .ofList [("phone", bootDevice)] compare⟩
  world := Locker.World.holding []

def bootSession : SecureSession where
  originLabel := "desk"
  sessionBinding := ⟨List.replicate 32 7, rfl⟩
  security := ⟨"QrNetworkTransport", true, true, true, false, false⟩

def bootSpec : RequestSpec := ⟨"boot", "luks", "unlock", "disk", "ana", 60000⟩

def bootRandom (requestId : Block 16) : RequestRandom := ⟨requestId, ⟨List.replicate 32 9, rfl⟩⟩

def bootPending (requestId : Block 16) : PendingAuthorization where
  request :=
    { protocolVersion := Protocol.protocolVersion, requestId := Protocol.toHex requestId.val, verifierId := "desktop",
      verifierName := "Desktop", credentialId := "boot", challenge := ⟨List.replicate 32 9, rfl⟩, service := "luks",
      action := "unlock", resource := "disk", user := "ana", issuedAtMs := 0, expiresAtMs := 60000,
      sessionBinding := bootSession.sessionBinding }
  origin := "desk"
  sessionBinding := bootSession.sessionBinding

def bootAnswer (requestId : Block 16) (decision : Protocol.Decision) : AuthResponse where
  protocolVersion := Protocol.protocolVersion
  requestId := Protocol.toHex requestId.val
  verifierId := "desktop"
  credentialId := "boot"
  decision := decision
  algorithm := algorithmEcdsaP256Sha256
  signature := [4, 1] ++ (bootPending requestId).request.signingPayload.take 32

def bootRequestId : Block 16 := ⟨List.replicate 16 3, rfl⟩

theorem guard_sound_boot :
    letI := Identities.plain
    letI := plainJson
    let events : List Event :=
      [.issue bootSpec bootSession 0 (bootRandom bootRequestId),
        .accept (bootPending bootRequestId) (bootAnswer bootRequestId .authorized).encode bootSession 1000,
        .edit (.remove "phone")]
    GuardSound bootDesk (bootDesk.afterAll events) events :=
  letI := Identities.plain
  letI := plainJson
  guard_sound bootDesk defaultCapacity rfl _

end Plain

end BioAuth.Verifier
