import BioAuth.Native.WebAuthnRelayCoordinator

namespace BioAuth.Native.WebAuthnRelayCoordinator

/-- The answer is that of a cancellation. -/
def Answer.Cancels : Answer → Prop
  | .success _ => False
  | .error code _ => code = cancelledCode

theorem failed_ne_cancelled : failedCode ≠ cancelledCode := by decide

theorem completed_not_cancels (responseJson error : Option String) : ¬(completed responseJson error).Cancels := by
  cases responseJson with
  | none => exact failed_ne_cancelled
  | some responseJson => exact id

theorem published_not_cancels (describeFailure : Throwable → String) (outcome : Except Throwable String) :
    ¬(published describeFailure outcome).Cancels := by
  cases outcome with
  | error failure => exact failed_ne_cancelled
  | ok responseJson => exact id

/-- What a call may answer. -/
def Call.MayAnswer : Call → Answer → Prop
  | .complete _ _ _, answer | .completeWith _ _, answer => ¬answer.Cancels
  | .cancel _ error, answer => answer = .error cancelledCode error
  | _, _ => False

/-- What a call goes on with that has claimed a request. -/
def Call.claiming : Call → Nat → Option Stage
  | .complete _ _ _, result | .completeWith _ _, result => some (.drop result)
  | .cancel _ _, result => some (.dismiss result)
  | _, _ => none

theorem claiming_cases {call : Call} {result : Nat} {stage : Stage} (claims : call.claiming result = some stage) :
    stage = .drop result ∨ stage = .dismiss result := by
  cases call <;> simp only [Call.claiming, reduceCtorEq, Option.some.injEq] at claims <;> simp [← claims]

/-- The request a call has claimed and not answered. -/
def Stage.holding : Stage → Option Nat
  | .drop result | .operate result | .answer result _ | .dismiss result | .invoke result _ => some result
  | _ => none

/-- The call removes a listener next, whichever it is. -/
def Stage.Clears : Stage → Prop
  | .drop _ | .dismiss _ | .withdraw => True
  | _ => False

/-- The call has claimed a request whose listener it has not seen to. -/
def Stage.Settles : Stage → Prop
  | .drop _ | .dismiss _ => True
  | _ => False

/-- The call is over. -/
def Stage.Over : Stage → Prop
  | .returned _ | .finished | .threw => True
  | _ => False

theorem Stage.Settles.clears {stage : Stage} (settles : stage.Settles) : stage.Clears := by
  cases stage <;> trivial

theorem Stage.Clears.not_over {stage : Stage} (clears : stage.Clears) : ¬stage.Over := by
  cases stage <;> first | exact id | exact clears.elim

instance : DecidablePred Stage.Over
  | .returned _ | .finished | .threw => isTrue trivial
  | .start | .drop _ | .operate _ | .answer _ _ | .put | .recheck | .withdraw | .dismiss _ | .invoke _ _ => isFalse id

/-- Everything that one turn can do. -/
inductive Step (world : Coordinator) : Nat → Coordinator → Prop
  | stay {number : Nat} : Step world number world
  | begin (call : Call) : Step world world.calls { world.goesOn world.calls call .start with calls := world.calls + 1 }
  | refuse {number : Nat} {call : Call} {stage : Stage} (here : world.threads number = some ⟨call, .start⟩)
      (ends : stage = .returned false ∨ stage = .finished) : Step world number (world.goesOn number call stage)
  | accept {number : Nat} {requestId : String} (here : world.threads number = some ⟨.add requestId, .start⟩)
      (free : world.pending requestId = none) :
      Step world number (((world.goesOn number (.add requestId) (.returned true)).setPending requestId (some number)).note
        (.accepted number requestId))
  | claim {number result : Nat} {call : Call} {stage : Stage} (here : world.threads number = some ⟨call, .start⟩)
      (found : world.pending call.requestId = some result) (claims : call.claiming result = some stage) :
      Step world number (((world.goesOn number call stage).setPending call.requestId none).note (.claimed result number))
  | check {number result : Nat} {requestId : String}
      (here : world.threads number = some ⟨.attachCancellationListener requestId, .start⟩)
      (found : world.pending requestId = some result) :
      Step world number (world.goesOn number (.attachCancellationListener requestId) .put)
  | detach {number listener : Nat} {requestId : String}
      (here : world.threads number = some ⟨.detachCancellationListener requestId, .start⟩)
      (found : world.cancellationListeners requestId = some listener) :
      Step world number (((world.goesOn number (.detachCancellationListener requestId) .finished).setListener requestId
        none).note (.detached listener number))
  | drop {number result : Nat} {call : Call} {stage : Stage} (here : world.threads number = some ⟨call, .drop result⟩)
      (completes : ∀ answer, call.MayAnswer answer ↔ ¬answer.Cancels)
      (next : (∃ answer, stage = .answer result answer ∧ call.MayAnswer answer) ∨
        stage = .operate result ∧ ∃ requestId describeFailure, call = .completeWith requestId describeFailure) :
      Step world number ((world.goesOn number call stage).setListener call.requestId none)
  | operate {number result : Nat} {requestId : String} {describeFailure : Throwable → String} {answer : Answer}
      (here : world.threads number = some ⟨.completeWith requestId describeFailure, .operate result⟩)
      (other : ¬answer.Cancels) :
      Step world number ((world.goesOn number (.completeWith requestId describeFailure) (.answer result answer)).note
        (.operated result number))
  | answer {number result : Nat} {call : Call} {stage : Stage} {answer : Answer}
      (here : world.threads number = some ⟨call, .answer result answer⟩) (ends : stage = .returned true ∨ stage = .finished) :
      Step world number ((world.goesOn number call stage).note (.answered result number answer))
  | put {number : Nat} {requestId : String}
      (here : world.threads number = some ⟨.attachCancellationListener requestId, .put⟩) :
      Step world number ((world.goesOn number (.attachCancellationListener requestId) .recheck).setListener requestId (some number))
  | attach {number result : Nat} {requestId : String}
      (here : world.threads number = some ⟨.attachCancellationListener requestId, .recheck⟩)
      (found : world.pending requestId = some result) :
      Step world number ((world.goesOn number (.attachCancellationListener requestId) (.returned true)).note
        (.attached number result))
  | miss {number : Nat} {requestId : String}
      (here : world.threads number = some ⟨.attachCancellationListener requestId, .recheck⟩)
      (gone : world.pending requestId = none) :
      Step world number (world.goesOn number (.attachCancellationListener requestId) .withdraw)
  | withdraw {number : Nat} {requestId : String}
      (here : world.threads number = some ⟨.attachCancellationListener requestId, .withdraw⟩) :
      Step world number ((world.goesOn number (.attachCancellationListener requestId) (.returned false)).setListener requestId none)
  | pass {number result : Nat} {requestId error : String}
      (here : world.threads number = some ⟨.cancel requestId error, .dismiss result⟩)
      (missing : world.cancellationListeners requestId = none) :
      Step world number (world.goesOn number (.cancel requestId error) (.answer result (.error cancelledCode error)))
  | dismiss {number result listener : Nat} {requestId error : String}
      (here : world.threads number = some ⟨.cancel requestId error, .dismiss result⟩)
      (found : world.cancellationListeners requestId = some listener) :
      Step world number ((world.goesOn number (.cancel requestId error) (.invoke result listener)).setListener requestId none)
  | invoke {number result listener : Nat} {requestId error : String} {stage : Stage}
      (here : world.threads number = some ⟨.cancel requestId error, .invoke result listener⟩)
      (next : stage = .answer result (.error cancelledCode error) ∨ stage = .threw) :
      Step world number ((world.goesOn number (.cancel requestId error) stage).note (.invoked listener number))

theorem step_start {world : Coordinator} {number : Nat} {call : Call} (here : world.threads number = some ⟨call, .start⟩) :
    Step world number (world.start number call) := by
  fun_cases Coordinator.start world number call with
  | case1 => exact .refuse here (Or.inl rfl)
  | case2 _ free => exact .accept here free
  | case3 => exact .refuse here (Or.inr rfl)
  | case4 _ _ _ _ found => exact .claim here found rfl
  | case5 => exact .refuse here (Or.inl rfl)
  | case6 _ _ _ found => exact .claim here found rfl
  | case7 => exact .refuse here (Or.inl rfl)
  | case8 _ _ found => exact .check here found
  | case9 => exact .refuse here (Or.inr rfl)
  | case10 _ _ found => exact .detach here found
  | case11 => exact .refuse here (Or.inl rfl)
  | case12 _ _ _ found => exact .claim here found rfl

theorem step_proceed {world : Coordinator} {number : Nat} {call : Call} {stage : Stage} (outcome : Except Throwable String)
    (here : world.threads number = some ⟨call, stage⟩) : Step world number (world.proceed number outcome call stage) := by
  fun_cases Coordinator.proceed world number outcome call stage with
  | case1 call => exact step_start here
  | case2 _ requestId responseJson error result =>
    exact .drop here (fun _ => Iff.rfl) (Or.inl ⟨_, rfl, completed_not_cancels responseJson error⟩)
  | case3 _ requestId describeFailure result => exact .drop here (fun _ => Iff.rfl) (Or.inr ⟨rfl, _, _, rfl⟩)
  | case4 _ requestId describeFailure result => exact .operate here (published_not_cancels describeFailure outcome)
  | case5 => exact .answer here (Or.inr rfl)
  | case6 => exact .answer here (Or.inl rfl)
  | case7 => exact .answer here (Or.inl rfl)
  | case8 => exact .put here
  | case9 _ _ gone => exact .miss here gone
  | case10 _ _ _ found => exact .attach here found
  | case11 => exact .withdraw here
  | case12 _ _ _ _ missing => exact .pass here missing
  | case13 _ _ _ _ _ found => exact .dismiss here found
  | case14 => exact .invoke here (Or.inl rfl)
  | case15 => exact .invoke here (Or.inr rfl)
  | case16 => exact .stay

/-- The call a turn is a turn of. -/
def Turn.number (world : Coordinator) : Turn → Nat
  | .begin _ => world.calls
  | .step number _ => number

theorem step_after (world : Coordinator) (turn : Turn) : Step world (turn.number world) (world.after turn) := by
  cases turn with
  | begin call => exact .begin call
  | step number outcome =>
    unfold Coordinator.after
    dsimp only
    split
    · exact .stay
    · exact step_proceed outcome ‹_›

/-- The request whose result an event answers. -/
def Event.answers : Event → Option Nat
  | .answered result _ _ => some result
  | _ => none

/-- What holds of requests, whatever the order of the steps. -/
structure Coordinator.Sound (world : Coordinator) : Prop where
  young : ∀ number thread, world.threads number = some thread → number < world.calls
  accepted : ∀ result requestId, .accepted result requestId ∈ world.log →
    world.threads result = some ⟨.add requestId, .returned true⟩
  pending : ∀ requestId result, world.pending requestId = some result →
    .accepted result requestId ∈ world.log ∧ ∀ number, .claimed result number ∉ world.log
  claimedOnce : ∀ result number other, .claimed result number ∈ world.log → .claimed result other ∈ world.log → number = other
  claimer : ∀ result number, .claimed result number ∈ world.log → ∃ call stage,
    world.threads number = some ⟨call, stage⟩ ∧ .accepted result call.requestId ∈ world.log ∧ stage ≠ .start
  holding : ∀ number call stage result, world.threads number = some ⟨call, stage⟩ → stage.holding = some result →
    .claimed result number ∈ world.log ∧ result ∉ world.log.filterMap Event.answers
  ready : ∀ number call result answer, world.threads number = some ⟨call, .answer result answer⟩ → call.MayAnswer answer
  answered : ∀ result number answer, .answered result number answer ∈ world.log → .claimed result number ∈ world.log ∧
    ∃ call stage, world.threads number = some ⟨call, stage⟩ ∧ stage.Over ∧ call.MayAnswer answer
  once : (world.log.filterMap Event.answers).Nodup
  operated : ∀ result number, .operated result number ∈ world.log → .claimed result number ∈ world.log ∧
    ∃ requestId describeFailure stage, world.threads number = some ⟨.completeWith requestId describeFailure, stage⟩ ∧
      stage ≠ .start
  cancelled : ∀ number requestId error, world.threads number = some ⟨.cancel requestId error, .returned true⟩ →
    ∃ result, .answered result number (.error cancelledCode error) ∈ world.log
  attacher : ∀ listener result, .attached listener result ∈ world.log → ∃ requestId,
    world.threads listener = some ⟨.attachCancellationListener requestId, .returned true⟩ ∧
      .accepted result requestId ∈ world.log
  attached : ∀ number requestId, world.threads number = some ⟨.attachCancellationListener requestId, .returned true⟩ →
    ∃ result, .attached number result ∈ world.log

namespace Coordinator.Sound
variable {world next : Coordinator} {mover : Nat}

/-- A call that has claimed a request is about the id it was accepted under. -/
theorem about (sound : world.Sound) {result number : Nat} {call : Call} {stage : Stage} {requestId : String}
    (claimed : .claimed result number ∈ world.log) (here : world.threads number = some ⟨call, stage⟩)
    (accepted : .accepted result requestId ∈ world.log) : call.requestId = requestId := by
  obtain ⟨known, _, there, also, _⟩ := sound.claimer _ _ claimed
  cases Option.some.inj (here.symm.trans there)
  have first := sound.accepted _ _ accepted
  rw [sound.accepted _ _ also] at first
  cases first
  rfl

theorem young_step (sound : world.Sound) (step : Step world mover next) :
    ∀ number thread, next.threads number = some thread → number < next.calls := by
  have young := sound.young
  cases step <;> grind

/-- The number of a call that begins is new. -/
theorem new (sound : world.Sound) : world.threads world.calls = none := by
  rcases found : world.threads world.calls with _ | thread
  · rfl
  · exact absurd (sound.young _ _ found) (Nat.lt_irrefl _)

theorem accepted_step (sound : world.Sound) (step : Step world mover next) :
    ∀ result requestId, .accepted result requestId ∈ next.log →
      next.threads result = some ⟨.add requestId, .returned true⟩ := by
  have accepted := sound.accepted
  have new := sound.new
  cases step <;> grind

theorem pending_step (sound : world.Sound) (step : Step world mover next) :
    ∀ requestId result, next.pending requestId = some result →
      .accepted result requestId ∈ next.log ∧ ∀ number, .claimed result number ∉ next.log := by
  have pending := sound.pending
  cases step with
  | accept here free =>
    -- a result that was claimed was accepted, and the one that is accepted now was not
    have fresh : ∀ other, .claimed mover other ∉ world.log := by
      intro other claimed
      obtain ⟨_, _, _, old, _⟩ := sound.claimer _ _ claimed
      have added := sound.accepted _ _ old
      rw [here] at added
      cases added
    grind
  | claim here found claims =>
    have accepted := sound.accepted
    grind
  | _ => grind

theorem claimedOnce_step (sound : world.Sound) (step : Step world mover next) :
    ∀ result number other, .claimed result number ∈ next.log → .claimed result other ∈ next.log → number = other := by
  have once := sound.claimedOnce
  cases step with
  | claim here found claims =>
    have fresh := (sound.pending _ _ found).2
    grind
  | _ => grind

theorem claimer_step (sound : world.Sound) (step : Step world mover next) :
    ∀ result number, .claimed result number ∈ next.log → ∃ call stage,
      next.threads number = some ⟨call, stage⟩ ∧ .accepted result call.requestId ∈ next.log ∧ stage ≠ .start := by
  have claimer := sound.claimer
  have new := sound.new
  cases step with
  | @claim _ result call stage here found claims =>
    have old := (sound.pending _ _ found).1
    intro other who member
    rcases List.mem_append.mp member with before | now
    · obtain ⟨known, at', there, accepted, begun⟩ := claimer _ _ before
      have apart : who ≠ mover := by grind
      exact ⟨known, at', by grind, by grind, begun⟩
    · cases List.mem_singleton.mp now
      refine ⟨call, stage, by simp, by simp [old], ?_⟩
      rcases claiming_cases claims with rfl | rfl <;> nofun
  | refuse here ends =>
    rcases ends with rfl | rfl <;> grind
  | drop here completes goes =>
    obtain ⟨_, rfl, _⟩ | ⟨rfl, _⟩ := goes <;> grind
  | answer here ends =>
    rcases ends with rfl | rfl <;> grind
  | invoke here goes =>
    rcases goes with rfl | rfl <;> grind
  | _ => grind

theorem holding_step (sound : world.Sound) (step : Step world mover next) :
    ∀ number call stage result, next.threads number = some ⟨call, stage⟩ → stage.holding = some result →
      .claimed result number ∈ next.log ∧ result ∉ next.log.filterMap Event.answers := by
  have holding := sound.holding
  have claimedOnce := sound.claimedOnce
  cases step with
  | claim here found claims =>
    -- what is pending has not been claimed, so that it has not been answered either
    obtain ⟨_, fresh⟩ := sound.pending _ _ found
    have silent : _ ∉ world.log.filterMap Event.answers := fun told => by
      obtain ⟨event, member, same⟩ := List.mem_filterMap.mp told
      cases event <;> cases same
      exact fresh _ (sound.answered _ _ _ member).1
    rcases claiming_cases claims with rfl | rfl <;> grind [Stage.holding, Event.answers]
  | answer here ends => grind [Stage.holding, Event.answers]
  | drop here completes goes =>
    obtain ⟨_, rfl, _⟩ | ⟨rfl, _⟩ := goes <;> grind [Stage.holding]
  | _ => grind [Stage.holding, Event.answers]

theorem ready_step (sound : world.Sound) (step : Step world mover next) :
    ∀ number call result answer, next.threads number = some ⟨call, .answer result answer⟩ → call.MayAnswer answer := by
  have ready := sound.ready
  cases step with
  | claim here found claims =>
    rcases claiming_cases claims with rfl | rfl <;> grind
  | drop here completes goes =>
    obtain ⟨_, rfl, may⟩ | ⟨rfl, _⟩ := goes <;> grind
  | operate here other => grind [Call.MayAnswer]
  | pass here missing => grind [Call.MayAnswer]
  | invoke here goes => grind [Call.MayAnswer]
  | _ => grind

theorem answered_step (sound : world.Sound) (step : Step world mover next) :
    ∀ result number answer, .answered result number answer ∈ next.log → .claimed result number ∈ next.log ∧
      ∃ call stage, next.threads number = some ⟨call, stage⟩ ∧ stage.Over ∧ call.MayAnswer answer := by
  have answered := sound.answered
  have new := sound.new
  cases step with
  | answer here ends =>
    have held := (sound.holding _ _ _ _ here rfl).1
    have may := sound.ready _ _ _ _ here
    rcases ends with rfl | rfl <;> grind [Stage.Over]
  | _ => grind [Stage.Over]

theorem once_step (sound : world.Sound) (step : Step world mover next) : (next.log.filterMap Event.answers).Nodup := by
  have once := sound.once
  cases step with
  | answer here ends =>
    have silent := (sound.holding _ _ _ _ here rfl).2
    simp only [Coordinator.log_note, Coordinator.log_goesOn, List.filterMap_append]
    exact List.nodup_append_comm.mp (List.nodup_cons.mpr ⟨silent, once⟩)
  | _ => simpa [List.filterMap_append, List.filterMap_cons, Event.answers] using once

theorem operated_step (sound : world.Sound) (step : Step world mover next) :
    ∀ result number, .operated result number ∈ next.log → .claimed result number ∈ next.log ∧
      ∃ requestId describeFailure stage, next.threads number = some ⟨.completeWith requestId describeFailure, stage⟩ ∧
        stage ≠ .start := by
  have operated := sound.operated
  have new := sound.new
  cases step with
  | operate here other =>
    have held := (sound.holding _ _ _ _ here rfl).1
    grind
  | refuse here ends =>
    rcases ends with rfl | rfl <;> grind
  | drop here completes goes =>
    obtain ⟨_, rfl, _⟩ | ⟨rfl, _⟩ := goes <;> grind
  | answer here ends =>
    rcases ends with rfl | rfl <;> grind
  | _ => grind

theorem cancelled_step (sound : world.Sound) (step : Step world mover next) :
    ∀ number requestId error, next.threads number = some ⟨.cancel requestId error, .returned true⟩ →
      ∃ result, .answered result number (.error cancelledCode error) ∈ next.log := by
  have cancelled := sound.cancelled
  cases step with
  | answer here ends =>
    have may := sound.ready _ _ _ _ here
    grind [Call.MayAnswer]
  | claim here found claims =>
    rcases claiming_cases claims with rfl | rfl <;> grind
  | _ => grind

theorem attacher_step (sound : world.Sound) (step : Step world mover next) :
    ∀ listener result, .attached listener result ∈ next.log → ∃ requestId,
      next.threads listener = some ⟨.attachCancellationListener requestId, .returned true⟩ ∧
        .accepted result requestId ∈ next.log := by
  have attacher := sound.attacher
  have new := sound.new
  cases step with
  | @attach _ result requestId here found =>
    have accepted := (sound.pending _ _ found).1
    intro listener known member
    rcases List.mem_append.mp member with before | now
    · obtain ⟨id, there, old⟩ := attacher _ _ before
      exact ⟨id, by grind, by grind⟩
    · cases List.mem_singleton.mp now
      exact ⟨requestId, by simp, by simp [accepted]⟩
  | _ => grind

theorem attached_step (sound : world.Sound) (step : Step world mover next) :
    ∀ number requestId, next.threads number = some ⟨.attachCancellationListener requestId, .returned true⟩ →
      ∃ result, .attached number result ∈ next.log := by
  have attached := sound.attached
  cases step with
  | answer here ends =>
    have may := sound.ready _ _ _ _ here
    grind [Call.MayAnswer]
  | claim here found claims =>
    rcases claiming_cases claims with rfl | rfl <;> grind
  | _ => grind

theorem step (sound : world.Sound) (turn : Turn) : (world.after turn).Sound where
  young := sound.young_step (step_after world turn)
  accepted := sound.accepted_step (step_after world turn)
  pending := sound.pending_step (step_after world turn)
  claimedOnce := sound.claimedOnce_step (step_after world turn)
  claimer := sound.claimer_step (step_after world turn)
  holding := sound.holding_step (step_after world turn)
  ready := sound.ready_step (step_after world turn)
  answered := sound.answered_step (step_after world turn)
  once := sound.once_step (step_after world turn)
  operated := sound.operated_step (step_after world turn)
  cancelled := sound.cancelled_step (step_after world turn)
  attacher := sound.attacher_step (step_after world turn)
  attached := sound.attached_step (step_after world turn)

end Coordinator.Sound

/-- Only the call whose turn it is goes on. -/
theorem Step.others {world next : Coordinator} {mover : Nat} (step : Step world mover next) {number : Nat}
    (other : number ≠ mover) : next.threads number = world.threads number := by
  cases step <;> simp [other]

/-- What is noted stays. -/
theorem Step.log_mem {world next : Coordinator} {mover : Nat} (step : Step world mover next) {event : Event}
    (noted : event ∈ world.log) : event ∈ next.log := by
  cases step <;> simp [noted]

/-- A number stands for one call. -/
theorem Step.call_kept {world next : Coordinator} {mover : Nat} (step : Step world mover next) {number : Nat} {call : Call}
    {stage : Stage} (here : world.threads number = some ⟨call, stage⟩) (known : number < world.calls) :
    ∃ later, next.threads number = some ⟨call, later⟩ := by
  cases step <;> grind

/-- Some call about this id removes a listener next. -/
def Coordinator.Clearing (world : Coordinator) (requestId : String) : Prop :=
  ∃ number call stage, world.threads number = some ⟨call, stage⟩ ∧ call.requestId = requestId ∧ stage.Clears

/-- It stays so, unless that call does just that. -/
theorem Step.clearing {world next : Coordinator} {mover : Nat} (step : Step world mover next) (requestId : String)
    (mine : ∀ call stage, world.threads mover = some ⟨call, stage⟩ → call.requestId = requestId → ¬stage.Clears)
    (clearing : world.Clearing requestId) : next.Clearing requestId := by
  obtain ⟨number, call, stage, here, about, clears⟩ := clearing
  have other : number ≠ mover := by
    rintro rfl
    exact mine call stage here about clears
  exact ⟨number, call, stage, (step.others other).trans here, about, clears⟩

theorem Step.clearing_of {world next : Coordinator} {mover : Nat} (step : Step world mover next) (requestId : String)
    (call : Call) (stage : Stage) (here : world.threads mover = some ⟨call, stage⟩)
    (idle : ¬stage.Clears ∨ call.requestId ≠ requestId) (clearing : world.Clearing requestId) :
    next.Clearing requestId := by
  refine step.clearing requestId (fun known at' there about => ?_) clearing
  cases Option.some.inj (here.symm.trans there)
  exact idle.resolve_right fun other => other about

/-- A listener that is held is about to be checked again, or is attached to the request that is pending, or is about to be
removed. -/
def Coordinator.Tidy (world : Coordinator) : Prop :=
  ∀ requestId listener, world.cancellationListeners requestId = some listener →
    world.threads listener = some ⟨.attachCancellationListener requestId, .recheck⟩ ∨
      (∃ result, world.pending requestId = some result ∧ .attached listener result ∈ world.log) ∨ world.Clearing requestId

theorem Coordinator.Tidy.step {world next : Coordinator} {mover : Nat} (tidy : world.Tidy) (sound : world.Sound)
    (step : Step world mover next) : next.Tidy := by
  have new := sound.new
  intro requestId listener held
  have before := tidy requestId listener
  have kept := step.clearing_of requestId
  cases step with
  | begin call =>
    have kept := (Step.begin call).clearing requestId (fun _ _ there => by rw [new] at there; cases there)
    grind
  | @claim _ result call stage here found claims =>
    have mine : (((world.goesOn mover call stage).setPending call.requestId none).note (.claimed result mover)).Clearing
        call.requestId := by
      refine ⟨mover, call, stage, by simp, rfl, ?_⟩
      rcases claiming_cases claims with rfl | rfl <;> trivial
    grind [Stage.Clears]
  | @miss _ id here gone =>
    have mine : (world.goesOn mover (.attachCancellationListener id) .withdraw).Clearing id :=
      ⟨mover, .attachCancellationListener id, .withdraw, by simp, rfl, trivial⟩
    grind [Stage.Clears]
  | _ => grind [Stage.Clears, Call.requestId]

/-- An id is accepted only when no call about it is between two of its steps, and a listener is put only when none is held
for the id and no other call that attaches one is about to check or to withdraw. -/
def Coordinator.Orderly (world : Coordinator) (mover : Nat) : Prop :=
  match world.threads mover with
  | some ⟨.add requestId, .start⟩ => world.pending requestId = none →
    ∀ number < world.calls, ∀ thread ∈ world.threads number, thread.call.requestId = requestId →
      thread.stage = .start ∨ thread.stage.Over
  | some ⟨.attachCancellationListener requestId, .put⟩ => world.cancellationListeners requestId = none ∧
    ∀ number < world.calls, ∀ thread ∈ world.threads number, thread.call.requestId = requestId →
      thread.stage ≠ .recheck ∧ thread.stage ≠ .withdraw
  | _ => True

instance (world : Coordinator) (mover : Nat) : Decidable (world.Orderly mover) := by
  unfold Coordinator.Orderly
  split <;> infer_instance

theorem Coordinator.Orderly.accepts {world : Coordinator} {mover : Nat} (orderly : world.Orderly mover) (sound : world.Sound)
    {requestId : String} (here : world.threads mover = some ⟨.add requestId, .start⟩)
    (free : world.pending requestId = none) (number : Nat) (call : Call) (stage : Stage)
    (there : world.threads number = some ⟨call, stage⟩) (about : call.requestId = requestId) :
    stage = .start ∨ stage.Over := by
  simp only [Coordinator.Orderly, here] at orderly
  exact orderly free number (sound.young _ _ there) _ there about

theorem Coordinator.Orderly.puts {world : Coordinator} {mover : Nat} (orderly : world.Orderly mover) (sound : world.Sound)
    {requestId : String} (here : world.threads mover = some ⟨.attachCancellationListener requestId, .put⟩) :
    world.cancellationListeners requestId = none ∧
      ∀ number call stage, world.threads number = some ⟨call, stage⟩ → call.requestId = requestId →
        stage ≠ .recheck ∧ stage ≠ .withdraw := by
  simp only [Coordinator.Orderly, here] at orderly
  exact ⟨orderly.1, fun number call stage there about => orderly.2 number (sound.young _ _ there) _ there about⟩

/-- What becomes of a listener that was attached to a request. -/
inductive Coordinator.Attends (world : Coordinator) (listener result : Nat) (requestId : String) : Prop
  | detached (number : Nat) (noted : .detached listener number ∈ world.log)
  | waiting (held : world.cancellationListeners requestId = some listener) (waits : world.pending requestId = some result)
  | settling (number : Nat) (call : Call) (stage : Stage) (held : world.cancellationListeners requestId = some listener)
      (here : world.threads number = some ⟨call, stage⟩) (settles : stage = .drop result ∨ stage = .dismiss result)
  | leaving (number : Nat) (call : Call) (here : world.threads number = some ⟨call, .invoke result listener⟩)
  | invoked (number : Nat) (noted : .invoked listener number ∈ world.log) (claimed : .claimed result number ∈ world.log)
  | completed (number : Nat) (call : Call) (stage : Stage) (claimed : .claimed result number ∈ world.log)
      (here : world.threads number = some ⟨call, stage⟩) (completes : ∀ answer, call.MayAnswer answer ↔ ¬answer.Cancels)

/-- What holds of listeners where ids and listeners come one at a time. -/
structure Coordinator.Attended (world : Coordinator) : Prop where
  late : ∀ number call stage, world.threads number = some ⟨call, stage⟩ → stage.Clears →
    world.pending call.requestId = none
  alone : ∀ number other call call' stage stage', world.threads number = some ⟨call, stage⟩ →
    world.threads other = some ⟨call', stage'⟩ → call.requestId = call'.requestId → stage.Settles → stage'.Settles →
      number = other
  checking : ∀ number requestId result, world.threads number = some ⟨.attachCancellationListener requestId, .recheck⟩ →
    world.pending requestId = some result → world.cancellationListeners requestId = some number ∨
      ∃ other, .detached number other ∈ world.log
  own : ∀ number requestId stage listener, world.threads number = some ⟨.attachCancellationListener requestId, stage⟩ →
    stage = .recheck ∨ stage = .withdraw → world.cancellationListeners requestId = some listener → listener = number
  attends : ∀ listener result requestId, .attached listener result ∈ world.log → .accepted result requestId ∈ world.log →
    world.Attends listener result requestId

namespace Coordinator.Attended
variable {world next : Coordinator} {mover : Nat}

theorem late_step (attended : world.Attended) (sound : world.Sound) (orderly : world.Orderly mover)
    (step : Step world mover next) : ∀ number call stage, next.threads number = some ⟨call, stage⟩ → stage.Clears →
      next.pending call.requestId = none := by
  have late := attended.late
  cases step with
  | accept here free =>
    have idle := orderly.accepts sound here free
    grind [Stage.Clears, Stage.Clears.not_over]
  | refuse here ends => grind [Stage.Clears]
  | drop here completes goes => grind [Stage.Clears]
  | answer here ends => grind [Stage.Clears]
  | invoke here goes => grind [Stage.Clears]
  | _ => grind [Stage.Clears, Call.requestId]

theorem alone_step (attended : world.Attended) (step : Step world mover next) :
    ∀ number other call call' stage stage', next.threads number = some ⟨call, stage⟩ →
      next.threads other = some ⟨call', stage'⟩ → call.requestId = call'.requestId → stage.Settles → stage'.Settles →
        number = other := by
  have alone := attended.alone
  have late := attended.late
  cases step with
  | claim here found claims => grind [Stage.Settles, Stage.Settles.clears]
  | refuse here ends => grind [Stage.Settles]
  | drop here completes goes => grind [Stage.Settles]
  | answer here ends => grind [Stage.Settles]
  | invoke here goes => grind [Stage.Settles]
  | _ => grind [Stage.Settles]

theorem checking_step (attended : world.Attended) (sound : world.Sound) (orderly : world.Orderly mover) (step : Step world mover next) :
    ∀ number requestId result, next.threads number = some ⟨.attachCancellationListener requestId, .recheck⟩ →
      next.pending requestId = some result → next.cancellationListeners requestId = some number ∨
        ∃ other, .detached number other ∈ next.log := by
  have checking := attended.checking
  have late := attended.late
  cases step with
  | accept here free =>
    have idle := orderly.accepts sound here free
    grind [Stage.Over, Call.requestId]
  | put here =>
    have first := orderly.puts sound here
    grind [Call.requestId]
  | drop here completes goes => grind [Stage.Clears, Call.requestId]
  | _ => grind [Stage.Clears, Call.requestId, Call.claiming]

theorem own_step (attended : world.Attended) (sound : world.Sound) (orderly : world.Orderly mover)
    (step : Step world mover next) :
    ∀ number requestId stage listener, next.threads number = some ⟨.attachCancellationListener requestId, stage⟩ →
      stage = .recheck ∨ stage = .withdraw → next.cancellationListeners requestId = some listener →
        listener = number := by
  have own := attended.own
  cases step with
  | put here =>
    have first := orderly.puts sound here
    grind [Call.requestId]
  | claim here found claims =>
    rcases claiming_cases claims with rfl | rfl <;> grind
  | _ => grind

theorem attends_step (attended : world.Attended) (sound : world.Sound) (orderly : world.Orderly mover)
    (step : Step world mover next) {listener result : Nat} {requestId : String}
    (attached : .attached listener result ∈ world.log) (accepted : .accepted result requestId ∈ world.log)
    (attends : world.Attends listener result requestId) : next.Attends listener result requestId := by
  have keeps {event : Event} (noted : event ∈ world.log) := step.log_mem noted
  cases attends with
  | detached number noted => exact .detached number (keeps noted)
  | invoked number noted claimed => exact .invoked number (keeps noted) (keeps claimed)
  | completed number call stage claimed here completes =>
    obtain ⟨later, there⟩ := step.call_kept here (sound.young _ _ here)
    exact .completed number call later (keeps claimed) there completes
  | leaving number call here =>
    by_cases own : number = mover
    · subst own
      have claimed := (sound.holding _ _ _ _ here rfl).1
      cases step with
      | stay => exact .leaving number call here
      | begin call => exact absurd here (by rw [sound.new]; nofun)
      | invoke there goes =>
        cases Option.some.inj (here.symm.trans there)
        exact .invoked number (by simp) (keeps claimed)
      | _ there => cases Option.some.inj (here.symm.trans there)
    · exact .leaving number call ((step.others own).trans here)
  | waiting held waits =>
    have late := attended.late
    cases step with
    | @claim _ known call stage here found claims =>
      by_cases same : call.requestId = requestId
      · obtain rfl : known = result := by
          rw [same, waits] at found
          exact (Option.some.inj found).symm
        exact .settling mover call stage (by simpa using held) (by simp) (claiming_cases claims)
      · exact .waiting (by grind) (by grind)
    | @detach _ known id here found =>
      by_cases same : id = requestId
      · obtain rfl : known = listener := by
          rw [same, held] at found
          exact (Option.some.inj found).symm
        exact .detached mover (by simp)
      · exact .waiting (by grind) (by grind)
    | put here =>
      have first := orderly.puts sound here
      exact .waiting (by grind) (by grind)
    | drop here completes goes =>
      have gone := late _ _ _ here trivial
      exact .waiting (by grind) (by grind)
    | withdraw here =>
      have gone := late _ _ _ here trivial
      exact .waiting (by grind [Call.requestId]) (by grind)
    | dismiss here found =>
      have gone := late _ _ _ here trivial
      exact .waiting (by grind [Call.requestId]) (by grind)
    | _ => exact .waiting (by grind) (by grind)
  | settling number call stage held here settles =>
    have clears : stage.Clears := by rcases settles with rfl | rfl <;> trivial
    have claimed : .claimed result number ∈ world.log := by
      rcases settles with rfl | rfl <;> exact (sound.holding _ _ _ _ here rfl).1
    have about : call.requestId = requestId := sound.about claimed here accepted
    have gone : world.pending requestId = none := about ▸ attended.late _ _ _ here clears
    by_cases own : number = mover
    · subst own
      cases step with
      | stay => exact .settling number call stage held here settles
      | begin call => exact absurd here (by rw [sound.new]; nofun)
      | @drop _ _ _ later there completes goes =>
        cases Option.some.inj (here.symm.trans there)
        exact .completed number call later (keeps claimed) (by simp) completes
      | @pass _ _ id error there missing =>
        cases Option.some.inj (here.symm.trans there)
        rw [show id = requestId from about, held] at missing
        cases missing
      | @dismiss _ known other id error there found =>
        cases Option.some.inj (here.symm.trans there)
        rw [show id = requestId from about, held] at found
        cases found
        obtain rfl : known = result := by
          rcases settles with settles | settles <;> cases settles
          rfl
        exact .leaving number (.cancel id error) (by simp)
      | withdraw there =>
        cases Option.some.inj (here.symm.trans there)
        rcases settles with settles | settles <;> cases settles
      | _ there => cases Option.some.inj (here.symm.trans there); exact clears.elim
    · have there := (step.others own).trans here
      suffices same : next.cancellationListeners requestId = some listener ∨ .detached listener mover ∈ next.log by
        rcases same with same | noted
        · exact .settling number call stage same there settles
        · exact .detached mover noted
      have alone (known : Call) (at' : Stage) (busy : world.threads mover = some ⟨known, at'⟩) (also : at'.Settles) :
          known.requestId ≠ requestId := by
        intro same
        have settles : stage.Settles := by rcases settles with rfl | rfl <;> trivial
        exact own (attended.alone _ _ _ _ _ _ here busy (about.trans same.symm) settles also)
      cases step with
      | put busy =>
        have first := orderly.puts sound busy
        grind
      | drop busy completes goes =>
        have apart := alone _ _ busy trivial
        grind
      | dismiss busy found =>
        have apart := alone _ _ busy trivial
        grind [Call.requestId]
      | withdraw busy =>
        have mine := attended.own _ _ _ listener busy (Or.inr rfl)
        obtain ⟨_, beyond, _⟩ := sound.attacher _ _ attached
        grind
      | _ => grind

/-- A listener that has just been attached is held, unless it has been detached before its request was looked for again. -/
theorem attends_new (attended : world.Attended) (sound : world.Sound) (step : Step world mover next)
    {listener result : Nat} {requestId : String} (accepted : .accepted result requestId ∈ next.log)
    (before : .attached listener result ∉ world.log) (attached : .attached listener result ∈ next.log) :
    next.Attends listener result requestId := by
  cases step with
  | @attach _ known id here found =>
    rcases List.mem_append.mp attached with old | now
    · exact absurd old before
    · cases List.mem_singleton.mp now
      have first := sound.accepted _ _ (sound.pending _ _ found).1
      rw [sound.accepted result requestId (by simpa using accepted)] at first
      cases first
      rcases attended.checking _ _ _ here found with held | ⟨other, noted⟩
      · exact .waiting (by simpa using held) (by simpa using found)
      · exact .detached other (by simp [noted])
  | _ => exact absurd attached (by simp [before])

/-- Every listener attached so far is attended to after one more step. -/
theorem step (attended : world.Attended) (sound : world.Sound) (turn : Turn) (orderly : world.Orderly (turn.number world)) :
    (world.after turn).Attended where
  late := attended.late_step sound orderly (step_after world turn)
  alone := attended.alone_step (step_after world turn)
  checking := attended.checking_step sound orderly (step_after world turn)
  own := attended.own_step sound orderly (step_after world turn)
  attends := by
    intro listener result requestId attached accepted
    have step := step_after world turn
    by_cases before : .attached listener result ∈ world.log
    · obtain ⟨known, _, old⟩ := sound.attacher _ _ before
      have first := (sound.step turn).accepted _ _ accepted
      rw [(sound.step turn).accepted _ _ (step.log_mem old)] at first
      cases first
      exact attended.attends_step sound orderly step before old (attended.attends _ _ _ before old)
    · exact attended.attends_new sound step accepted before attached

end Coordinator.Attended

namespace Coordinator

/-- Every step of a run is orderly. -/
def OrderlyRun : Coordinator → List Turn → Prop
  | _, [] => True
  | world, turn :: turns => world.Orderly (turn.number world) ∧ OrderlyRun (world.after turn) turns

instance decidableOrderlyRun : (world : Coordinator) → (turns : List Turn) → Decidable (OrderlyRun world turns)
  | _, [] => isTrue trivial
  | world, turn :: turns => @instDecidableAnd _ _ _ (decidableOrderlyRun (world.after turn) turns)

theorem sound_quiet : quiet.Sound := by
  constructor <;> simp [quiet]

theorem tidy_quiet : quiet.Tidy := nofun

theorem attended_quiet : quiet.Attended := by
  constructor <;> simp [quiet]

theorem Sound.run {world : Coordinator} (sound : world.Sound) (turns : List Turn) : (world.run turns).Sound := by
  induction turns generalizing world with
  | nil => exact sound
  | cons turn turns ih => exact ih (sound.step turn)

theorem Tidy.run {world : Coordinator} (tidy : world.Tidy) (sound : world.Sound) (turns : List Turn) :
    (world.run turns).Tidy := by
  induction turns generalizing world with
  | nil => exact tidy
  | cons turn turns ih => exact ih (tidy.step sound (step_after world turn)) (sound.step turn)

theorem Attended.run {world : Coordinator} (attended : world.Attended) (sound : world.Sound) (turns : List Turn)
    (orderly : OrderlyRun world turns) : (world.run turns).Attended := by
  induction turns generalizing world with
  | nil => exact attended
  | cons turn turns ih => exact ih (attended.step sound turn orderly.1) (sound.step turn) orderly.2

/-- Every request is settled once, by one call. -/
structure Settled (world : Coordinator) : Prop where
  once : (world.log.filterMap Event.answers).Nodup
  accepted : ∀ result number answer, .answered result number answer ∈ world.log →
    ∃ requestId, .accepted result requestId ∈ world.log
  /-- A cancellation that returns true has answered a request whose operation never runs. -/
  cancelled : ∀ number requestId error, world.threads number = some ⟨.cancel requestId error, .returned true⟩ →
    ∃ result, .accepted result requestId ∈ world.log ∧
      .answered result number (.error cancelledCode error) ∈ world.log ∧ ∀ other, .operated result other ∉ world.log
  operated : ∀ result number, .operated result number ∈ world.log → ∀ other answer,
    .answered result other answer ∈ world.log → ¬answer.Cancels
  /-- A listener whose attachment returned true was attached to a request with that id. -/
  attached : ∀ number requestId, world.threads number = some ⟨.attachCancellationListener requestId, .returned true⟩ →
    ∃ result, .attached number result ∈ world.log ∧ .accepted result requestId ∈ world.log
  /-- When no call about an id is under way, the listener held for it is attached to the request that is pending. -/
  listeners : ∀ requestId listener, world.cancellationListeners requestId = some listener →
    (∀ number thread, world.threads number = some thread → thread.call.requestId = requestId → thread.stage.Over) →
      ∃ result, world.pending requestId = some result ∧ .attached listener result ∈ world.log

/-- A listener that was attached to a request is invoked by the call that cancels it, unless it was detached. -/
def Dismisses (world : Coordinator) : Prop :=
  ∀ number requestId error result listener, world.threads number = some ⟨.cancel requestId error, .returned true⟩ →
    .answered result number (.error cancelledCode error) ∈ world.log → .attached listener result ∈ world.log →
      .invoked listener number ∈ world.log ∨ ∃ other, .detached listener other ∈ world.log

theorem Sound.settled {world : Coordinator} (sound : world.Sound) (tidy : world.Tidy) : world.Settled where
  once := sound.once
  accepted result number answer answered := by
    obtain ⟨_, _, _, accepted, _⟩ := sound.claimer _ _ (sound.answered _ _ _ answered).1
    exact ⟨_, accepted⟩
  cancelled number requestId error here := by
    obtain ⟨result, answered⟩ := sound.cancelled _ _ _ here
    have claimed := (sound.answered _ _ _ answered).1
    obtain ⟨call, stage, there, accepted, _⟩ := sound.claimer _ _ claimed
    cases Option.some.inj (here.symm.trans there)
    refine ⟨result, accepted, answered, fun other operated => ?_⟩
    obtain ⟨also, _, _, _, busy, _⟩ := sound.operated _ _ operated
    obtain rfl := sound.claimedOnce _ _ _ claimed also
    cases Option.some.inj (here.symm.trans busy)
  operated result number operated other answer answered := by
    obtain ⟨claimed, _, _, _, here, _⟩ := sound.operated _ _ operated
    obtain ⟨also, _, _, there, _, may⟩ := sound.answered _ _ _ answered
    obtain rfl := sound.claimedOnce _ _ _ claimed also
    cases Option.some.inj (here.symm.trans there)
    exact may
  attached number requestId here := by
    obtain ⟨result, attached⟩ := sound.attached _ _ here
    obtain ⟨known, there, accepted⟩ := sound.attacher _ _ attached
    cases Option.some.inj (here.symm.trans there)
    exact ⟨result, attached, accepted⟩
  listeners requestId listener held beyond := by
    rcases tidy _ _ held with checking | attached | ⟨number, call, stage, here, about, clears⟩
    · exact (beyond _ _ checking rfl).elim
    · exact attached
    · exact absurd (beyond _ _ here about) clears.not_over

theorem Attended.dismisses {world : Coordinator} (attended : world.Attended) (sound : world.Sound) : world.Dismisses := by
  intro number requestId error result listener here answered attached
  have claimed := (sound.answered _ _ _ answered).1
  obtain ⟨_, _, _, accepted, _⟩ := sound.claimer _ _ claimed
  have mine {other : Nat} {call : Call} {stage : Stage} (also : .claimed result other ∈ world.log)
      (there : world.threads other = some ⟨call, stage⟩) : call = .cancel requestId error ∧ stage = .returned true := by
    obtain rfl := sound.claimedOnce _ _ _ claimed also
    cases Option.some.inj (here.symm.trans there)
    exact ⟨rfl, rfl⟩
  cases attended.attends _ _ _ attached accepted with
  | detached other noted => exact Or.inr ⟨other, noted⟩
  | waiting held waits => exact absurd claimed ((sound.pending _ _ waits).2 _)
  | settling other call stage held there settles =>
    have also : .claimed result other ∈ world.log := by
      rcases settles with rfl | rfl <;> exact (sound.holding _ _ _ _ there rfl).1
    obtain ⟨_, rfl⟩ := mine also there
    rcases settles with settles | settles <;> cases settles
  | leaving other call there =>
    obtain ⟨_, beyond⟩ := mine (sound.holding _ _ _ _ there rfl).1 there
    cases beyond
  | invoked other noted also =>
    obtain rfl := sound.claimedOnce _ _ _ claimed also
    exact Or.inl noted
  | completed other call stage also there completes =>
    obtain ⟨rfl, _⟩ := mine also there
    exact absurd rfl ((completes (.error cancelledCode error)).mp rfl)

end Coordinator

/-- In every interleaving each request is settled once and no listener outlives its request. Where ids and listeners come
one at a time, a cancellation also invokes the listener attached to its request. -/
theorem requests_settled_once (turns : List Turn) :
    (Coordinator.quiet.run turns).Settled ∧
      (Coordinator.quiet.OrderlyRun turns → (Coordinator.quiet.run turns).Dismisses) := by
  have sound := Coordinator.sound_quiet.run turns
  refine ⟨sound.settled (Coordinator.tidy_quiet.run Coordinator.sound_quiet turns), fun orderly => ?_⟩
  exact (Coordinator.attended_quiet.run Coordinator.sound_quiet turns orderly).dismisses sound

/-- A request, the listener of its prompt, and its cancellation. -/
def plainTurns : List Turn :=
  [.begin (.add "r"), .step 0 (.ok ""), .begin (.attachCancellationListener "r"), .step 1 (.ok ""), .step 1 (.ok ""),
    .step 1 (.ok ""), .begin (.cancel "r" "late"), .step 2 (.ok ""), .step 2 (.ok ""), .step 2 (.ok ""), .step 2 (.ok "")]

theorem plain_request_settled :
    Coordinator.quiet.OrderlyRun plainTurns ∧ (Coordinator.quiet.run plainTurns).Dismisses ∧
      .invoked 1 2 ∈ (Coordinator.quiet.run plainTurns).log := by
  have orderly : Coordinator.quiet.OrderlyRun plainTurns := by decide +kernel
  exact ⟨orderly, (requests_settled_once plainTurns).2 orderly, by decide +kernel⟩

/-- Two listeners are put before either is checked again. The first finds its request gone and withdraws the second. -/
def racingTurns : List Turn :=
  [.begin (.add "r"), .step 0 (.ok ""), .begin (.attachCancellationListener "r"), .begin (.attachCancellationListener "r"),
    .step 1 (.ok ""), .step 2 (.ok ""), .step 1 (.ok ""), .step 2 (.ok ""), .step 2 (.ok ""), .begin (.cancel "r" "late"),
    .step 3 (.ok ""), .step 1 (.ok ""), .step 1 (.ok ""), .step 3 (.ok ""), .step 3 (.ok "")]

/-- The attachment of the second returned true, nothing replaced or detached it, and the cancellation does not invoke it. -/
theorem attached_listener_forgotten :
    (Coordinator.quiet.run racingTurns).threads 2 = some ⟨.attachCancellationListener "r", .returned true⟩ ∧
      (Coordinator.quiet.run racingTurns).threads 3 = some ⟨.cancel "r" "late", .returned true⟩ ∧
      (Coordinator.quiet.run racingTurns).log =
        [.accepted 0 "r", .attached 2 0, .claimed 0 3, .answered 0 3 (.error cancelledCode "late")] ∧
      ¬(Coordinator.quiet.run racingTurns).Dismisses := by
  have log : (Coordinator.quiet.run racingTurns).log =
      [.accepted 0 "r", .attached 2 0, .claimed 0 3, .answered 0 3 (.error cancelledCode "late")] := by decide +kernel
  have attached : (Coordinator.quiet.run racingTurns).threads 2 =
      some ⟨.attachCancellationListener "r", .returned true⟩ := rfl
  have cancelled : (Coordinator.quiet.run racingTurns).threads 3 = some ⟨.cancel "r" "late", .returned true⟩ := rfl
  refine ⟨attached, cancelled, log, fun dismisses => ?_⟩
  have done := dismisses 3 "r" "late" 0 2 cancelled (by simp [log]) (by simp [log])
  simp [log] at done

end BioAuth.Native.WebAuthnRelayCoordinator
