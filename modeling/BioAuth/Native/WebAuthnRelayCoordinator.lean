import Mathlib.Data.List.Nodup
import Mathlib.Logic.Function.Basic

namespace BioAuth.Native.WebAuthnRelayCoordinator

/-- What an operation fails with. -/
structure Throwable where
  message : Option String

/-- What is said to the caller of a request. -/
inductive Answer
  | success (responseJson : String)
  | error (code message : String)
  deriving DecidableEq

/-- A call of one of the functions. The result a call of `add` brings, and the listener a call brings to be attached, go
by the number of the call. -/
inductive Call
  | add (requestId : String)
  | complete (requestId : String) (responseJson error : Option String)
  | completeWith (requestId : String) (describeFailure : Throwable → String)
  | attachCancellationListener (requestId : String)
  | detachCancellationListener (requestId : String)
  | cancel (requestId error : String)

def Call.requestId : Call → String
  | add requestId | complete requestId _ _ | completeWith requestId _ | attachCancellationListener requestId
  | detachCancellationListener requestId | cancel requestId _ => requestId

/-- What a call does next: one access to a map, the operation, a listener, or the answer. -/
inductive Stage
  | start
  /-- The request is claimed. Its listener is removed. -/
  | drop (result : Nat)
  | operate (result : Nat)
  | answer (result : Nat) (answer : Answer)
  | put
  | recheck
  | withdraw
  /-- The request is claimed for a cancellation. Its listener is removed, to be invoked. -/
  | dismiss (result : Nat)
  | invoke (result listener : Nat)
  | returned (value : Bool)
  | finished
  | threw
  deriving DecidableEq

structure Thread where
  call : Call
  stage : Stage

/-- What an onlooker notes: of requests, of operations and answers, and of listeners. -/
inductive Event
  | accepted (result : Nat) (requestId : String)
  | claimed (result number : Nat)
  | operated (result number : Nat)
  | answered (result number : Nat) (answer : Answer)
  /-- A listener is attached, and the request pending at that moment. -/
  | attached (listener result : Nat)
  | detached (listener number : Nat)
  | invoked (listener number : Nat)
  deriving DecidableEq

structure Coordinator where
  pending : String → Option Nat
  cancellationListeners : String → Option Nat
  threads : Nat → Option Thread
  calls : Nat
  log : List Event

inductive Turn
  | begin (call : Call)
  /-- A call does what is next. The operation and the listener return or throw as they will. -/
  | step (number : Nat) (outcome : Except Throwable String)

def failedCode : String := "webauthn_failed"

def cancelledCode : String := "webauthn_cancelled"

/-- What `complete` answers. -/
def completed (responseJson error : Option String) : Answer :=
  match responseJson with
  | some responseJson => .success responseJson
  | none => .error failedCode (error.getD "Passkey operation failed")

/-- What `completeWith` answers. -/
def published (describeFailure : Throwable → String) : Except Throwable String → Answer
  | .ok responseJson => .success responseJson
  | .error failure => .error failedCode (describeFailure failure)

namespace Coordinator

def quiet : Coordinator := ⟨fun _ => none, fun _ => none, fun _ => none, 0, []⟩

def goesOn (world : Coordinator) (number : Nat) (call : Call) (stage : Stage) : Coordinator :=
  { world with threads := Function.update world.threads number (some ⟨call, stage⟩) }

def setPending (world : Coordinator) (requestId : String) (result : Option Nat) : Coordinator :=
  { world with pending := Function.update world.pending requestId result }

def setListener (world : Coordinator) (requestId : String) (listener : Option Nat) : Coordinator :=
  { world with cancellationListeners := Function.update world.cancellationListeners requestId listener }

def note (world : Coordinator) (event : Event) : Coordinator := { world with log := world.log ++ [event] }

section Fields
variable (world : Coordinator)

@[simp, grind =] theorem threads_goesOn (number : Nat) (call : Call) (stage : Stage) (other : Nat) :
    (world.goesOn number call stage).threads other = if other = number then some ⟨call, stage⟩ else world.threads other :=
  Function.update_apply ..

@[simp, grind =] theorem pending_setPending (requestId : String) (result : Option Nat) (other : String) :
    (world.setPending requestId result).pending other = if other = requestId then result else world.pending other :=
  Function.update_apply ..

@[simp, grind =] theorem cancellationListeners_setListener (requestId : String) (listener : Option Nat) (other : String) :
    (world.setListener requestId listener).cancellationListeners other =
      if other = requestId then listener else world.cancellationListeners other :=
  Function.update_apply ..

@[simp, grind =] theorem log_note (event : Event) : (world.note event).log = world.log ++ [event] := rfl

@[simp, grind =] theorem pending_goesOn (number : Nat) (call : Call) (stage : Stage) (other : String) :
    (world.goesOn number call stage).pending other = world.pending other := rfl

@[simp, grind =] theorem cancellationListeners_goesOn (number : Nat) (call : Call) (stage : Stage) (other : String) :
    (world.goesOn number call stage).cancellationListeners other = world.cancellationListeners other := rfl

@[simp, grind =] theorem calls_goesOn (number : Nat) (call : Call) (stage : Stage) :
    (world.goesOn number call stage).calls = world.calls := rfl

@[simp, grind =] theorem log_goesOn (number : Nat) (call : Call) (stage : Stage) :
    (world.goesOn number call stage).log = world.log := rfl

@[simp, grind =] theorem cancellationListeners_setPending (requestId : String) (result : Option Nat) (other : String) :
    (world.setPending requestId result).cancellationListeners other = world.cancellationListeners other := rfl

@[simp, grind =] theorem threads_setPending (requestId : String) (result : Option Nat) (other : Nat) :
    (world.setPending requestId result).threads other = world.threads other := rfl

@[simp, grind =] theorem calls_setPending (requestId : String) (result : Option Nat) :
    (world.setPending requestId result).calls = world.calls := rfl

@[simp, grind =] theorem log_setPending (requestId : String) (result : Option Nat) :
    (world.setPending requestId result).log = world.log := rfl

@[simp, grind =] theorem pending_setListener (requestId : String) (listener : Option Nat) (other : String) :
    (world.setListener requestId listener).pending other = world.pending other := rfl

@[simp, grind =] theorem threads_setListener (requestId : String) (listener : Option Nat) (other : Nat) :
    (world.setListener requestId listener).threads other = world.threads other := rfl

@[simp, grind =] theorem calls_setListener (requestId : String) (listener : Option Nat) :
    (world.setListener requestId listener).calls = world.calls := rfl

@[simp, grind =] theorem log_setListener (requestId : String) (listener : Option Nat) :
    (world.setListener requestId listener).log = world.log := rfl

@[simp, grind =] theorem pending_note (event : Event) (other : String) :
    (world.note event).pending other = world.pending other := rfl

@[simp, grind =] theorem cancellationListeners_note (event : Event) (other : String) :
    (world.note event).cancellationListeners other = world.cancellationListeners other := rfl

@[simp, grind =] theorem threads_note (event : Event) (other : Nat) :
    (world.note event).threads other = world.threads other := rfl

@[simp, grind =] theorem calls_note (event : Event) :
    (world.note event).calls = world.calls := rfl

end Fields

/-- The first access of a call to a map. -/
def start (world : Coordinator) (number : Nat) : Call → Coordinator
  | .add requestId =>
    match world.pending requestId with
    | some _ => world.goesOn number (.add requestId) (.returned false)
    | none => ((world.goesOn number (.add requestId) (.returned true)).setPending requestId (some number)).note
      (.accepted number requestId)
  | .complete requestId responseJson error =>
    match world.pending requestId with
    | none => world.goesOn number (.complete requestId responseJson error) .finished
    | some result => ((world.goesOn number (.complete requestId responseJson error) (.drop result)).setPending requestId
      none).note (.claimed result number)
  | .completeWith requestId describeFailure =>
    match world.pending requestId with
    | none => world.goesOn number (.completeWith requestId describeFailure) (.returned false)
    | some result => ((world.goesOn number (.completeWith requestId describeFailure) (.drop result)).setPending requestId
      none).note (.claimed result number)
  | .attachCancellationListener requestId =>
    match world.pending requestId with
    | none => world.goesOn number (.attachCancellationListener requestId) (.returned false)
    | some _ => world.goesOn number (.attachCancellationListener requestId) .put
  | .detachCancellationListener requestId =>
    match world.cancellationListeners requestId with
    | none => world.goesOn number (.detachCancellationListener requestId) .finished
    | some listener => ((world.goesOn number (.detachCancellationListener requestId) .finished).setListener requestId
      none).note (.detached listener number)
  | .cancel requestId error =>
    match world.pending requestId with
    | none => world.goesOn number (.cancel requestId error) (.returned false)
    | some result => ((world.goesOn number (.cancel requestId error) (.dismiss result)).setPending requestId
      none).note (.claimed result number)

/-- What a call does next, with how its operation or its listener ends. -/
def proceed (world : Coordinator) (number : Nat) (outcome : Except Throwable String) : Call → Stage → Coordinator
  | call, .start => world.start number call
  | .complete requestId responseJson error, .drop result =>
    (world.goesOn number (.complete requestId responseJson error) (.answer result (completed responseJson error))).setListener
      requestId none
  | .completeWith requestId describeFailure, .drop result =>
    (world.goesOn number (.completeWith requestId describeFailure) (.operate result)).setListener requestId none
  | .completeWith requestId describeFailure, .operate result =>
    (world.goesOn number (.completeWith requestId describeFailure)
      (.answer result (published describeFailure outcome))).note (.operated result number)
  | .complete requestId responseJson error, .answer result answer =>
    (world.goesOn number (.complete requestId responseJson error) .finished).note (.answered result number answer)
  | .completeWith requestId describeFailure, .answer result answer =>
    (world.goesOn number (.completeWith requestId describeFailure) (.returned true)).note (.answered result number answer)
  | .cancel requestId error, .answer result answer =>
    (world.goesOn number (.cancel requestId error) (.returned true)).note (.answered result number answer)
  | .attachCancellationListener requestId, .put =>
    (world.goesOn number (.attachCancellationListener requestId) .recheck).setListener requestId (some number)
  | .attachCancellationListener requestId, .recheck =>
    match world.pending requestId with
    | none => world.goesOn number (.attachCancellationListener requestId) .withdraw
    | some result => (world.goesOn number (.attachCancellationListener requestId) (.returned true)).note
      (.attached number result)
  | .attachCancellationListener requestId, .withdraw =>
    (world.goesOn number (.attachCancellationListener requestId) (.returned false)).setListener requestId none
  | .cancel requestId error, .dismiss result =>
    match world.cancellationListeners requestId with
    | none => world.goesOn number (.cancel requestId error) (.answer result (.error cancelledCode error))
    | some listener =>
      (world.goesOn number (.cancel requestId error) (.invoke result listener)).setListener requestId none
  | .cancel requestId error, .invoke result listener =>
    match outcome with
    | .ok _ => (world.goesOn number (.cancel requestId error) (.answer result (.error cancelledCode error))).note
      (.invoked listener number)
    | .error _ => (world.goesOn number (.cancel requestId error) .threw).note (.invoked listener number)
  | _, _ => world

def after (world : Coordinator) : Turn → Coordinator
  | .begin call => { world.goesOn world.calls call .start with calls := world.calls + 1 }
  | .step number outcome =>
    match world.threads number with
    | none => world
    | some thread => world.proceed number outcome thread.call thread.stage

def run (world : Coordinator) (turns : List Turn) : Coordinator := turns.foldl after world

end Coordinator

end BioAuth.Native.WebAuthnRelayCoordinator
