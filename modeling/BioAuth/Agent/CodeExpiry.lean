import BioAuth.Agent.PairingCode

namespace BioAuth.Agent
open BioAuth
open BioAuth.Protocol (Enrolment)
open BioAuth.Session (HandshakeOutcome Identities PairingIntent PendingServerHandshake ServerBootstrap plainBootstrap)

section Runs
variable [Crypto] [Identities] (shared : Shared) (acts : List Act)

/-- A proposal comes from a hello that was finished while its code was good. -/
def ProposalsTimely : Prop :=
  ∀ number stream env bootstrap outcome enrolment,
    StoresAt shared acts number stream env (some bootstrap) outcome enrolment →
      (foundAt shared acts number).finishedAt stream.number < bootstrap.expiresAtMs

/-- A hello is good when it is sent, to whomever. -/
def GreetingsTimely : Prop :=
  ∀ number stream env armed pending, acts[number]? = some (.serve stream env) →
    (foundAt shared acts number).connections stream.number = .accepted →
      (foundAt shared acts (number + 1)).connections stream.number = .greeted armed pending →
        env.nowMs < pending.bootstrap.expiresAtMs

/-- The connection a serving step of a run finds. -/
structure ServesAt (number : Nat) (stream : TcpStream) (env : Surroundings) (serving : Serving) : Prop where
  act : acts[number]? = some (.serve stream env)
  stage : (foundAt shared acts number).connections stream.number = serving

/-- A hello that does not say it pairs. -/
def Reconnects (clientFrame : Bytes) : Prop :=
  ∀ unsigned signature client, Session.decodeEnvelope clientFrame = .ok (unsigned, signature) →
    Session.decodeClientHello unsigned = .ok client → client.intent ≠ some .pair

/-- No connection starts under a code that has expired, and none pairs by a hello that comes when its code has. -/
structure Timely : Prop where
  greeted : ∀ number stream env, ServesAt shared acts number stream env .accepted →
    match (foundAt shared acts number).state.armedPairing with
    | some bootstrap => env.nowMs < bootstrap.expiresAtMs
    | none => env.nowMs < Int64.maxValue
  answered : ∀ number stream env bootstrap pending clientFrame claimed,
    ServesAt shared acts number stream env (.answered (some bootstrap) pending clientFrame claimed) →
      env.nowMs < bootstrap.expiresAtMs ∨
        (foundAt shared acts number).state.knownPeers.get? claimed ≠ none ∧ Reconnects clientFrame
  silent : ∀ number stream env bootstrap outcome,
    ServesAt shared acts number stream env (.enrolling (some bootstrap) outcome false) →
      (foundAt shared acts number).finishedAt stream.number < bootstrap.expiresAtMs ∨ ∃ error, env.read = .error error

variable {shared acts}

omit [Crypto] [Identities] in
/-- A lifetime added to a clock that is not at its end leads past it. -/
theorem lt_saturatingAdd {nowMs : Int64} (room : nowMs < Int64.maxValue) :
    nowMs < Verifier.saturatingAdd nowMs Session.defaultLifetimeMs := by
  have bounded : nowMs.toInt < 2 ^ 63 - 1 := Int64.lt_iff_toInt_lt.mp room
  have low := Int64.le_toInt nowMs
  have lifetime : Session.defaultLifetimeMs.toInt = 120000 := rfl
  rw [Int64.lt_iff_toInt_lt, Verifier.saturatingAdd, lifetime, Int64.toInt_ofInt_of_le (by omega) (by omega)]
  omega

/-- A connection that waits for an enrolment, or has one, finished its hello in time. -/
def Serving.InTime (finishedAt : Int64) : Serving → Prop
  | .enrolling (some bootstrap) _ true => finishedAt < bootstrap.expiresAtMs
  | .enrolled (some bootstrap) _ _ => finishedAt < bootstrap.expiresAtMs
  | _ => True

/-- The intent an outcome reports is the one in the hello. -/
theorem reconnects_intent {pending : PendingServerHandshake} {clientFrame : Bytes} {expectation : Session.PeerExpectation}
    {outcome : HandshakeOutcome} (reconnects : Reconnects clientFrame)
    (finished : pending.finish clientFrame expectation Serving.transportName = .ok outcome) :
    outcome.intent ≠ some .pair := by
  obtain ⟨client, signature, wasPairing, shape, rfl⟩ := PendingServerHandshake.finish_eq_ok.mp finished
  exact reconnects _ _ client (Session.decodeEnvelope_eq_ok.mpr ⟨shape.bounded, shape.framed⟩)
    (Session.decodeClientHello_eq_ok.mpr ⟨shape.fits, rfl⟩)

/-- A step that does not pair too late keeps a connection in time. -/
theorem Serving.Goes.inTime {env : Surroundings} {state : QrState} {serving next : Serving} {number : Nat}
    {finishedAt : Nat → Int64} (goes : Goes env state serving next) (before : serving.InTime (finishedAt number))
    (answered : ∀ bootstrap pending clientFrame claimed,
      serving = .answered (some bootstrap) pending clientFrame claimed →
        env.nowMs < bootstrap.expiresAtMs ∨ state.knownPeers.get? claimed ≠ none ∧ Reconnects clientFrame)
    (silent : ∀ bootstrap outcome, serving = .enrolling (some bootstrap) outcome false →
      finishedAt number < bootstrap.expiresAtMs ∨ ∃ error, env.read = .error error) :
    next.InTime (serving.finishing number env.nowMs finishedAt number) := by
  cases goes with
  | @pair bootstrap pending clientFrame claimed _ _ declared finished _ pairs =>
    cases declared with
    | false => trivial
    | true =>
      rw [Serving.finishing, Function.update_self]
      rcases answered bootstrap pending clientFrame claimed rfl with fresh | ⟨known, reconnects⟩
      · exact fresh
      · rcases pairs rfl with stranger | pairing
        · exact absurd stranger known
        · exact absurd pairing (reconnects_intent reconnects finished)
  | @enrol armed outcome declared channel enrolment run _ =>
    cases armed with
    | none => trivial
    | some bootstrap =>
      cases declared with
      | true => exact before
      | false =>
        rcases silent bootstrap outcome rfl with fresh | ⟨error, failed⟩
        · exact fresh
        · rw [Serving.enrol, failed] at run
          simp only at run
          split at run <;> cases run
  | greet | hear | resume | silent | propose | attach | park | fail | record | rest => trivial

theorem Timely.inTime (timely : Timely shared acts) (number connection : Nat) :
    ((foundAt shared acts number).connections connection).InTime ((foundAt shared acts number).finishedAt connection) := by
  induction number with
  | zero => trivial
  | succ number ih =>
    rcases here : acts[number]? with _ | act
    · have unmoved : foundAt shared acts (number + 1) = foundAt shared acts number := by
        rw [foundAt, foundAt, List.take_add_one, here, Option.toList_none, List.append_nil]
      rw [unmoved]
      exact ih
    · rw [foundAt_succ here]
      cases act with
      | armPairing | cancelPairing | takeProposal | setKnownPeers | discardSessions | takeSession | sweep => exact ih
      | serve stream env =>
        simp only [Listener.after]
        by_cases own : connection = stream.number
        · rw [own] at ih ⊢
          rw [Function.update_self]
          exact (Serving.goes shared stream env _ _).inTime ih
            (fun bootstrap pending clientFrame claimed stage => timely.answered _ _ _ _ _ _ _ ⟨here, stage⟩)
            (fun bootstrap outcome stage => timely.silent _ _ _ _ _ ⟨here, stage⟩)
        · rw [Function.update_of_ne own]
          have other : Serving.finishing stream.number env.nowMs (foundAt shared acts number).finishedAt
              ((foundAt shared acts number).connections stream.number) connection =
                (foundAt shared acts number).finishedAt connection := by
            rcases (foundAt shared acts number).connections stream.number
            case answered => exact Function.update_of_ne own _ _
            all_goals rfl
          rw [other]
          exact ih

/-- An expired code is dead where no connection starts under one and none pairs by a late hello. -/
theorem expired_code_dead (timely : Timely shared acts) : ProposalsTimely shared acts ∧ GreetingsTimely shared acts := by
  constructor
  · intro number stream env bootstrap outcome enrolment stores
    have inTime := timely.inTime number stream.number
    have storing : (foundAt shared acts number).connections stream.number = .enrolled (some bootstrap) outcome enrolment :=
      stores.storing
    rw [storing] at inTime
    exact inTime
  · intro number stream env armed pending here stage greeted
    have fresh := timely.greeted number stream env ⟨here, stage⟩
    have goes := Serving.goes shared stream env (foundAt shared acts number).state .accepted
    rw [foundAt_succ here] at greeted
    simp only [Listener.after, stage, Function.update_self] at greeted
    rw [greeted] at goes
    cases goes with
    | greet carried drawn =>
      rcases code : (foundAt shared acts number).state.armedPairing with _ | bootstrap <;> rw [code] at fresh
      · rw [drawn code]
        exact lt_saturatingAdd fresh
      · rw [carried bootstrap code]
        exact fresh

end Runs

section Vouched

/-- A phone pairs by a code that expired before it dialled. -/
def vouchedOverdue : List (@Act Identities.plain) :=
  [@Act.armPairing Identities.plain plainBootstrap, plainServe 2000 (.ok [])] ++ vouchedPairing 2000

/-- The code of a hello. -/
def Serving.greets [Identities] : Serving → Option ServerBootstrap
  | .greeted _ pending => some pending.bootstrap
  | _ => none

theorem expired_code_lives :
    letI := Crypto.plain
    letI := Identities.plain
    ¬ProposalsTimely plainShared vouchedOverdue ∧ ¬GreetingsTimely plainShared vouchedOverdue := by
  let crypto := Crypto.plain
  let identities := Identities.plain
  constructor
  · intro timely
    have under : ((foundAt plainShared vouchedOverdue 5).connections 0).storesUnder = some plainBootstrap := by
      decide +kernel
    have late : ¬(foundAt plainShared vouchedOverdue 5).finishedAt 0 < plainBootstrap.expiresAtMs := by decide +kernel
    obtain ⟨outcome, enrolment, storing⟩ := Serving.storesUnder_eq_some under
    exact late (timely 5 ⟨0, none⟩ _ _ _ _ ⟨rfl, storing⟩)
  · intro timely
    have greeted : ((foundAt plainShared vouchedOverdue 2).connections 0).greets = some plainBootstrap := by
      decide +kernel
    rcases stage : (foundAt plainShared vouchedOverdue 2).connections 0
    all_goals rw [stage] at greeted
    case greeted armed pending =>
      have fresh := timely 1 ⟨0, none⟩ _ armed pending rfl rfl stage
      rw [Option.some.inj greeted] at fresh
      exact absurd fresh (by decide)
    all_goals cases greeted

theorem vouchedPrompt_calm (number : Nat) :
    letI := Crypto.plain
    letI := Identities.plain
    (foundAt plainShared vouchedPrompt number).disturbed 0 = false →
      (foundAt plainShared vouchedPrompt number).state.armedPairing = some plainBootstrap →
        (foundAt plainShared vouchedPrompt number).finishedAt 0 < plainBootstrap.expiresAtMs →
          (foundAt plainShared vouchedPrompt number).state.armedPairing = some plainBootstrap ∧
            (foundAt plainShared vouchedPrompt number).finishedAt 0 < plainBootstrap.expiresAtMs ∧
              ∀ armed, ((foundAt plainShared vouchedPrompt number).connections 0).copy = some armed →
                armed = some plainBootstrap := by
  let crypto := Crypto.plain
  let identities := Identities.plain
  intro calm code fresh
  exact ⟨code, fresh, fun armed copied => ((foundAt_tracks number).copies 0 armed copied calm).symm.trans code⟩

/-- Every step of a phone that pairs by a good code comes in time, under the one code there is. -/
theorem vouchedPrompt_steps {number : Nat} {stream : TcpStream} {env : @Surroundings Identities.plain}
    (act : vouchedPrompt[number]? = some (@Act.serve Identities.plain stream env)) :
    letI := Crypto.plain
    letI := Identities.plain
    stream.number = 0 ∧ env.nowMs = 5 ∧
      (foundAt plainShared vouchedPrompt number).state.armedPairing = some plainBootstrap ∧
      (foundAt plainShared vouchedPrompt number).finishedAt 0 < plainBootstrap.expiresAtMs ∧
      ∀ armed, ((foundAt plainShared vouchedPrompt number).connections 0).copy = some armed →
        armed = some plainBootstrap := by
  match number with
  | 0 => cases act
  | 1 =>
    cases act
    exact ⟨rfl, rfl, rfl, by decide, fun _ copied => nomatch copied⟩
  | 2 =>
    cases act
    exact ⟨rfl, rfl, vouchedPrompt_calm 2 (by decide +kernel) (by decide +kernel) (by decide +kernel)⟩
  | 3 =>
    cases act
    exact ⟨rfl, rfl, vouchedPrompt_calm 3 (by decide +kernel) (by decide +kernel) (by decide +kernel)⟩
  | 4 =>
    cases act
    exact ⟨rfl, rfl, vouchedPrompt_calm 4 (by decide +kernel) (by decide +kernel) (by decide +kernel)⟩
  | 5 =>
    cases act
    exact ⟨rfl, rfl, vouchedPrompt_calm 5 (by decide +kernel) (by decide +kernel) (by decide +kernel)⟩
  | n + 6 => cases act

theorem expired_code_dead_prompt :
    letI := Crypto.plain
    letI := Identities.plain
    ProposalsTimely plainShared vouchedPrompt ∧ GreetingsTimely plainShared vouchedPrompt := by
  let crypto := Crypto.plain
  let identities := Identities.plain
  refine expired_code_dead ⟨?_, ?_, ?_⟩
  · intro number stream env here
    obtain ⟨_, now, code, _⟩ := vouchedPrompt_steps here.act
    rw [code, now]
    decide
  · intro number stream env bootstrap pending clientFrame claimed here
    obtain ⟨first, now, _, _, copies⟩ := vouchedPrompt_steps here.act
    have same := copies (some bootstrap) (by rw [← first, here.stage]; rfl)
    rw [Option.some.inj same, now]
    exact Or.inl (by decide)
  · intro number stream env bootstrap outcome here
    obtain ⟨first, _, _, finished, copies⟩ := vouchedPrompt_steps here.act
    have same := copies (some bootstrap) (by rw [← first, here.stage]; rfl)
    rw [Option.some.inj same, first]
    exact Or.inl finished

end Vouched

end BioAuth.Agent
