import BioAuth.Agent.Serving
import BioAuth.Session.HandshakeAgreement

namespace BioAuth.Agent
open BioAuth
open BioAuth.Protocol (Enrolment)
open BioAuth.Session (HandshakeOutcome Identities PendingServerHandshake PeerExpectation SecureChannel ServerBootstrap
  plainBootstrap plainKey vouchedAnswered vouchedFrame)

/-- A call on the listener, or a step of one of its connections. -/
inductive Act [Identities]
  | armPairing (bootstrap : ServerBootstrap)
  | cancelPairing
  | takeProposal
  | setKnownPeers (peers : Peers)
  | discardSessions (deviceId : String)
  | takeSession (deviceId credentialId : String) (moment : Moment)
  | sweep (moment : Moment)
  | serve (stream : TcpStream) (env : Surroundings)

/-- The listener and its connections, with what an onlooker notes of each: whether the code on screen has changed since
it took its copy, and when its hello was finished. -/
structure Listener [Identities] where
  state : QrState
  connections : Nat → Serving
  disturbed : Nat → Bool
  finishedAt : Nat → Int64

section Runs
variable [Crypto] [Identities] (shared : Shared)

omit [Crypto] in
/-- The connection is about to store a proposal. -/
def Listener.Storing (listener : Listener) (number : Nat) (armed : Option ServerBootstrap) (outcome : HandshakeOutcome)
    (enrolment : Enrolment) : Prop :=
  listener.connections number = .enrolled armed outcome enrolment

omit [Crypto] in
/-- A connection that starts has seen no change yet. A proposal is a change to all. -/
def Serving.disturbing (number : Nat) (disturbed : Nat → Bool) : Serving → Nat → Bool
  | .accepted => Function.update disturbed number false
  | .enrolled .. => fun _ => true
  | _ => disturbed

omit [Crypto] in
def Serving.finishing (number : Nat) (nowMs : Int64) (finishedAt : Nat → Int64) : Serving → Nat → Int64
  | .answered .. => Function.update finishedAt number nowMs
  | _ => finishedAt

namespace Listener

omit [Crypto] in
def start : Listener := ⟨QrState.initial, fun _ => .accepted, fun _ => false, fun _ => 0⟩

def after (listener : Listener) : Act → Listener
  | .armPairing bootstrap =>
    { listener with state := listener.state.armPairing bootstrap, disturbed := fun _ => true }
  | .cancelPairing => { listener with state := listener.state.cancelPairing, disturbed := fun _ => true }
  | .takeProposal => { listener with state := listener.state.takeProposal.2 }
  | .setKnownPeers peers => { listener with state := listener.state.setKnownPeers peers }
  | .discardSessions deviceId =>
    { listener with state := { listener.state with sessions := listener.state.sessions.discardSessions deviceId } }
  | .takeSession deviceId credentialId moment =>
    { listener with state := { listener.state with
        sessions := (listener.state.sessions.takeSession shared.idleTimeout moment deviceId credentialId).2 } }
  | .sweep moment =>
    { listener with state := { listener.state with
        sessions := listener.state.sessions.discardStale shared.idleTimeout moment } }
  | .serve stream env =>
    let serving := listener.connections stream.number
    let stepped := serveConnection shared stream env listener.state serving
    { state := stepped.1
      connections := Function.update listener.connections stream.number stepped.2
      disturbed := serving.disturbing stream.number listener.disturbed
      finishedAt := serving.finishing stream.number env.nowMs listener.finishedAt }

def afterAll (listener : Listener) (acts : List Act) : Listener := acts.foldl (after shared) listener

end Listener

/-- The outcome is of a handshake under the code, whatever has been read since. -/
def Under (bootstrap : ServerBootstrap) (outcome : HandshakeOutcome) : Prop :=
  ∃ (pending : PendingServerHandshake) (frame : Bytes) (expectation : PeerExpectation) (finished : HandshakeOutcome),
    pending.bootstrap = bootstrap ∧ pending.finish frame expectation Serving.transportName = .ok finished ∧
      outcome = { finished with channel := outcome.channel }

namespace Serving

omit [Crypto] in
/-- The copy a connection holds of what was armed when it started. -/
def copy : Serving → Option (Option ServerBootstrap)
  | .greeted armed _ => some armed
  | .answered armed _ _ _ => some armed
  | .enrolling armed _ _ => some armed
  | .enrolled armed _ _ => some armed
  | _ => none

omit [Crypto] in
/-- The code of a connection that is about to store a proposal. -/
def storesUnder : Serving → Option ServerBootstrap
  | .enrolled armed _ _ => armed
  | _ => none

/-- A connection keeps to the code it started under. -/
def Sound : Serving → Prop
  | .greeted armed pending => ∀ bootstrap, armed = some bootstrap → pending.bootstrap = bootstrap
  | .answered armed pending _ _ => ∀ bootstrap, armed = some bootstrap → pending.bootstrap = bootstrap
  | .enrolling armed outcome _ => ∃ bootstrap, armed = some bootstrap ∧ Under bootstrap outcome
  | .enrolled armed outcome enrolment =>
    ∃ bootstrap, armed = some bootstrap ∧ Under bootstrap outcome ∧ enrolment.purpose = bootstrap.purpose
  | _ => True

variable {shared} {stream : TcpStream} {env : Surroundings} {state : QrState} {serving next : Serving}

omit [Crypto] in
theorem storesUnder_eq_some {bootstrap : ServerBootstrap} (under : serving.storesUnder = some bootstrap) :
    ∃ outcome enrolment, serving = .enrolled (some bootstrap) outcome enrolment := by
  cases serving with
  | enrolled armed outcome enrolment =>
    cases under
    exact ⟨outcome, enrolment, rfl⟩
  | accepted | greeted | answered | enrolling | attaching | attached | failed | ended => cases under

theorem Goes.sound (goes : Goes env state serving next) (sound : serving.Sound) : next.Sound := by
  cases goes with
  | greet carried => exact carried
  | hear => exact sound
  | pair finished => exact ⟨_, rfl, _, _, _, _, sound _ rfl, finished, rfl⟩
  | enrol _ purpose =>
    obtain ⟨bootstrap, here, pending, frame, expectation, finished, under, run, shape⟩ := sound
    refine ⟨bootstrap, here, ⟨pending, frame, expectation, finished, under, run, ?_⟩, purpose bootstrap here⟩
    rw [shape]
  | resume | silent | propose | attach | park | fail | record | rest => trivial

/-- A connection takes its copy when it starts, and never another. -/
theorem Goes.copied (goes : Goes env state serving next) {armed : Option ServerBootstrap}
    (holds : next.copy = some armed) : serving = .accepted ∧ armed = state.armedPairing ∨ serving.copy = some armed := by
  cases goes with
  | greet => exact Or.inl ⟨rfl, (Option.some.inj holds).symm⟩
  | hear | pair | enrol => exact Or.inr holds
  | resume | silent | propose | attach | park | fail | record | rest => cases holds

end Serving

namespace Listener
variable {shared} {listener : Listener}

/-- A copy that nothing has disturbed is of what is armed now. -/
structure Tracks (listener : Listener) : Prop where
  sound : ∀ number, (listener.connections number).Sound
  copies : ∀ number armed, (listener.connections number).copy = some armed → listener.disturbed number = false →
    listener.state.armedPairing = armed

theorem start_tracks : start.Tracks := ⟨fun _ => trivial, fun _ _ holds => nomatch holds⟩

/-- What leaves the code and the connections alone keeps track of them. -/
theorem Tracks.kept (tracks : listener.Tracks) {state : QrState} (same : state.armedPairing = listener.state.armedPairing) :
    Tracks { listener with state } :=
  ⟨tracks.sound, fun number armed holds calm => same.trans (tracks.copies number armed holds calm)⟩

/-- What changes the code disturbs every connection. -/
theorem Tracks.changed (tracks : listener.Tracks) (state : QrState) :
    Tracks { listener with state, disturbed := fun _ => true } :=
  ⟨tracks.sound, fun _ _ _ calm => nomatch calm⟩

/-- Only a proposal takes the armed code away. -/
theorem serve_armed (shared : Shared) (stream : TcpStream) (env : Surroundings) (state : QrState) (serving : Serving) :
    (serveConnection shared stream env state serving).1.armedPairing = state.armedPairing ∨
      ∃ armed outcome enrolment, serving = .enrolled armed outcome enrolment ∧
        (serveConnection shared stream env state serving).1.armedPairing = none := by
  cases serving with
  | enrolled armed outcome enrolment => exact Or.inr ⟨armed, outcome, enrolment, rfl, rfl⟩
  | accepted | greeted | answered | enrolling | attaching | attached | failed | ended => exact Or.inl rfl

omit [Crypto] in
/-- What a connection that is calm after a step was before it. -/
theorem disturbing_calm {serving : Serving} {number other : Nat} {disturbed : Nat → Bool}
    (calm : serving.disturbing number disturbed other = false) :
    (∀ armed outcome enrolment, serving ≠ .enrolled armed outcome enrolment) ∧
      (disturbed other = false ∨ serving = .accepted ∧ other = number) := by
  cases serving with
  | accepted =>
    refine ⟨nofun, ?_⟩
    by_cases here : other = number
    · exact Or.inr ⟨rfl, here⟩
    · rw [Serving.disturbing, Function.update_of_ne here] at calm
      exact Or.inl calm
  | enrolled => cases calm
  | greeted | answered | enrolling | attaching | attached | failed | ended =>
    refine ⟨fun _ _ _ storing => ?_, Or.inl calm⟩
    cases storing

theorem Tracks.serve (tracks : listener.Tracks) (stream : TcpStream) (env : Surroundings) :
    (listener.after shared (.serve stream env)).Tracks := by
  have goes := Serving.goes shared stream env listener.state (listener.connections stream.number)
  refine ⟨fun number => ?_, fun number armed holds calm => ?_⟩
  · simp only [after]
    by_cases here : number = stream.number
    · rw [here, Function.update_self]
      exact goes.sound (tracks.sound stream.number)
    · rw [Function.update_of_ne here]
      exact tracks.sound number
  · simp only [after] at calm
    obtain ⟨none, before⟩ := disturbing_calm calm
    have same : (listener.after shared (.serve stream env)).state.armedPairing = listener.state.armedPairing := by
      rcases serve_armed shared stream env listener.state (listener.connections stream.number) with
        same | ⟨_, _, _, storing, _⟩
      · exact same
      · exact absurd storing (none _ _ _)
    rw [same]
    simp only [after] at holds
    by_cases here : number = stream.number
    · subst here
      rw [Function.update_self] at holds
      rcases goes.copied holds with ⟨_, taken⟩ | earlier
      · exact taken.symm
      · rcases before with quiet | ⟨started, _⟩
        · exact tracks.copies _ armed earlier quiet
        · rw [started] at earlier
          cases earlier
    · rw [Function.update_of_ne here] at holds
      rcases before with quiet | ⟨_, there⟩
      · exact tracks.copies number armed holds quiet
      · exact absurd there here

theorem Tracks.step (tracks : listener.Tracks) (act : Act) : (listener.after shared act).Tracks := by
  cases act with
  | armPairing bootstrap => exact tracks.changed _
  | cancelPairing => exact tracks.changed _
  | takeProposal => exact tracks.kept rfl
  | setKnownPeers peers => exact tracks.kept rfl
  | discardSessions deviceId => exact tracks.kept rfl
  | takeSession deviceId credentialId moment => exact tracks.kept rfl
  | sweep moment => exact tracks.kept rfl
  | serve stream env => exact tracks.serve stream env

theorem Tracks.run (tracks : listener.Tracks) (acts : List Act) : (listener.afterAll shared acts).Tracks := by
  induction acts generalizing listener with
  | nil => exact tracks
  | cons act acts ih => exact ih (tracks.step act)

/-- A code that is armed was armed before, or it is armed by this act. -/
theorem armed_after {act : Act} {bootstrap : ServerBootstrap}
    (armed : (listener.after shared act).state.armedPairing = some bootstrap) :
    listener.state.armedPairing = some bootstrap ∨ act = .armPairing bootstrap := by
  cases act with
  | armPairing other =>
    cases armed
    exact Or.inr rfl
  | cancelPairing => cases armed
  | takeProposal | setKnownPeers | discardSessions | takeSession | sweep => exact Or.inl armed
  | serve stream env =>
    rcases serve_armed shared stream env listener.state (listener.connections stream.number) with
      same | ⟨_, _, _, _, none⟩
    · exact Or.inl (same.symm.trans armed)
    · exact absurd (none.symm.trans armed) nofun

theorem armed_afterAll {acts : List Act} {bootstrap : ServerBootstrap}
    (armed : (listener.afterAll shared acts).state.armedPairing = some bootstrap) :
    listener.state.armedPairing = some bootstrap ∨ .armPairing bootstrap ∈ acts := by
  induction acts generalizing listener with
  | nil => exact Or.inl armed
  | cons act acts ih =>
    rcases ih armed with before | later
    · rcases armed_after before with earlier | rfl
      · exact Or.inl earlier
      · exact Or.inr List.mem_cons_self
    · exact Or.inr (List.mem_cons_of_mem _ later)

theorem afterAll_take (acts : List Act) {n : Nat} {act : Act} (here : acts[n]? = some act) :
    start.afterAll shared (acts.take (n + 1)) = (start.afterAll shared (acts.take n)).after shared act := by
  rw [List.take_add_one, here, Option.toList_some, afterAll, afterAll, List.foldl_append]
  rfl

end Listener

variable (acts : List Act)

/-- The listener as the numbered act of a run finds it. -/
def foundAt (number : Nat) : Listener := Listener.start.afterAll shared (acts.take number)

/-- The numbered act of a run stores a proposal. -/
structure StoresAt (number : Nat) (stream : TcpStream) (env : Surroundings) (armed : Option ServerBootstrap)
    (outcome : HandshakeOutcome) (enrolment : Enrolment) : Prop where
  act : acts[number]? = some (.serve stream env)
  storing : (foundAt shared acts number).Storing stream.number armed outcome enrolment

/-- No connection of the run stores a proposal once the code on screen has changed since it started. -/
def Undisturbed : Prop :=
  ∀ number stream env armed outcome enrolment, StoresAt shared acts number stream env armed outcome enrolment →
    (foundAt shared acts number).disturbed stream.number = false

/-- What pairing by the code on screen promises of a run. -/
structure FollowsCode : Prop where
  /-- A proposal comes from a handshake under the code that is armed when it is stored. -/
  current : ∀ number stream env armed outcome enrolment, StoresAt shared acts number stream env armed outcome enrolment →
    ∃ bootstrap, armed = some bootstrap ∧ (foundAt shared acts number).state.armedPairing = some bootstrap ∧
      Under bootstrap outcome ∧ enrolment.purpose = bootstrap.purpose ∧
        (foundAt shared acts (number + 1)).state.proposal = some (Serving.propose env outcome enrolment)
  /-- No other step of a connection touches the proposal or the code. -/
  untouched : ∀ number stream env, acts[number]? = some (.serve stream env) →
    (∀ armed outcome enrolment, ¬StoresAt shared acts number stream env armed outcome enrolment) →
      (foundAt shared acts (number + 1)).state.armedPairing = (foundAt shared acts number).state.armedPairing ∧
        (foundAt shared acts (number + 1)).state.proposal = (foundAt shared acts number).state.proposal
  /-- A second proposal takes a second code. -/
  once : ∀ first second, first < second → ∀ stream env armed outcome enrolment stream' env' bootstrap outcome' enrolment',
    StoresAt shared acts first stream env armed outcome enrolment →
      StoresAt shared acts second stream' env' (some bootstrap) outcome' enrolment' →
        ∃ between, first < between ∧ between < second ∧ acts[between]? = some (.armPairing bootstrap)

variable {shared acts}

theorem foundAt_tracks (number : Nat) : (foundAt shared acts number).Tracks :=
  Listener.start_tracks.run (acts.take number)

theorem foundAt_succ {number : Nat} {act : Act} (here : acts[number]? = some act) :
    foundAt shared acts (number + 1) = (foundAt shared acts number).after shared act :=
  Listener.afterAll_take acts here

/-- A code that is armed late in a run was armed earlier, or it was armed in between. -/
theorem foundAt_armed {first second : Nat} {bootstrap : ServerBootstrap} (ordered : first ≤ second)
    (armed : (foundAt shared acts second).state.armedPairing = some bootstrap) :
    (foundAt shared acts first).state.armedPairing = some bootstrap ∨
      ∃ between, first ≤ between ∧ between < second ∧ acts[between]? = some (.armPairing bootstrap) := by
  have split : acts.take second = acts.take first ++ (acts.take second).drop first := by
    have parts := List.take_append_drop first (acts.take second)
    rw [List.take_take, min_eq_left ordered] at parts
    exact parts.symm
  unfold foundAt at armed
  rw [split, Listener.afterAll, List.foldl_append] at armed
  rcases Listener.armed_afterAll armed with before | between
  · exact Or.inl before
  · obtain ⟨offset, found⟩ := List.mem_iff_getElem?.mp between
    rw [List.getElem?_drop, List.getElem?_take] at found
    by_cases bounded : first + offset < second
    · rw [if_pos bounded] at found
      exact Or.inr ⟨first + offset, Nat.le_add_right _ _, bounded, found⟩
    · rw [if_neg bounded] at found
      cases found

/-- A proposal that comes too late breaks the promise. -/
theorem not_followsCode {number : Nat} {stream : TcpStream} {env : Surroundings} {bootstrap : ServerBootstrap}
    (act : acts[number]? = some (.serve stream env))
    (under : ((foundAt shared acts number).connections stream.number).storesUnder = some bootstrap)
    (newer : (foundAt shared acts number).state.armedPairing ≠ some bootstrap) : ¬FollowsCode shared acts := by
  intro follows
  obtain ⟨outcome, enrolment, storing⟩ := Serving.storesUnder_eq_some under
  obtain ⟨_, same, armed, _⟩ := follows.current number stream env _ outcome enrolment ⟨act, storing⟩
  exact newer (armed.trans same.symm)

end Runs

section Vouched

def plainShared : @Shared Identities.plain := @Shared.mk Identities.plain (plainKey 1) "desktop" 300000

/-- What a connection comes upon when nothing stands in its way, at a time and with a record to read. -/
def plainSurroundings (nowMs : Int64) (read : Except Session.IoError Bytes) : @Surroundings Identities.plain :=
  @Surroundings.mk Identities.plain "t" (plainKey 8) (plainKey 3) "attempt" nowMs ⟨0, fun _ => true⟩ (.ok ()) read

def plainEnrolment : Enrolment where
  protocolVersion := 1
  deviceName := "Phone"
  credentialId := "login"
  algorithm := "EC_P256_SPKI"
  publicKey := [4]
  keyKind := .strongBox
  purpose := .authorization

/-- The enrolment of the phone that answered, as it sends it. -/
def vouchedRecord : Bytes :=
  @SecureChannel.record Crypto.plain (vouchedAnswered fun _ _ => true).channel plainEnrolment.encode

def plainServe (nowMs : Int64) (read : Except Session.IoError Bytes) : @Act Identities.plain :=
  @Act.serve Identities.plain ⟨0, none⟩ (plainSurroundings nowMs read)

/-- The reads of a phone that pairs, in a connection that is greeted already. -/
def vouchedPairing (nowMs : Int64) : List (@Act Identities.plain) :=
  [plainServe nowMs (.ok (vouchedFrame fun _ _ => true)), plainServe nowMs (.ok []), plainServe nowMs (.ok vouchedRecord),
    plainServe nowMs (.ok [])]

/-- The code is cancelled and another one armed while a phone answers. -/
def vouchedLate : List (@Act Identities.plain) :=
  [@Act.armPairing Identities.plain plainBootstrap, plainServe 5 (.ok []), @Act.cancelPairing Identities.plain,
    @Act.armPairing Identities.plain { plainBootstrap with sessionId := "t" }] ++ vouchedPairing 5

def vouchedPrompt : List (@Act Identities.plain) :=
  [@Act.armPairing Identities.plain plainBootstrap, plainServe 5 (.ok [])] ++ vouchedPairing 5

end Vouched

end BioAuth.Agent
