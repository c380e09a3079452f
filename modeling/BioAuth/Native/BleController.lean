import BioAuth.Native.PendingGattOp

namespace BioAuth.Native
open BioAuth

def GattReply.failed {ρ : Type} : GattReply ρ → Bool
  | success _ => false
  | error _ _ => true

/-- What a run of `takeConnect` is for: `failConnect`, which a callback may have `closeGatt` follow, `connectTimeout`, the
callback that completes a connect, and `closeGatt` itself. -/
inductive BleClaim
  | failConnect (message : String) (closes : Bool)
  | connectTimeout
  | completeConnect
  | closeGatt
  deriving DecidableEq

/-- Where a run of these stands. Each point is one access to what the threads share. -/
inductive BlePoint
  | takeConnect (claim : BleClaim)
  /-- The connect is taken, and the deadline is removed. -/
  | removeCallbacks (call : Nat) (claim : BleClaim)
  | post (call : Nat) (claim : BleClaim)
  | closeGatt
  | readGatt
  | clearGatt (current : Option Nat)
  | close (current : Option Nat)
  deriving DecidableEq

namespace BleClaim

def reply : BleClaim → GattReply Unit
  | failConnect message _ => .error "connection_failed" message
  | connectTimeout => .error "connection_failed" "BLE connection timed out"
  | completeConnect => .success ()
  | closeGatt => .error "disconnected" "BLE disconnected"

/-- Whether the deadline is removed between taking the connect and replying. -/
def removes : BleClaim → Bool
  | failConnect _ _ | completeConnect => true
  | connectTimeout | closeGatt => false

/-- What comes next where no connect is pending. -/
def missing : BleClaim → Option BlePoint
  | failConnect _ closes => if closes then some .closeGatt else none
  | connectTimeout | completeConnect => none
  | closeGatt => some .readGatt

/-- What comes next once the connect is replied to. -/
def found : BleClaim → Option BlePoint
  | failConnect _ closes => if closes then some .closeGatt else none
  | connectTimeout => some .closeGatt
  | completeConnect => none
  | closeGatt => some .readGatt

end BleClaim

/-- Something that fails, completes or closes, and the link whose deadline or callback it is, if it is not a method call
that does. A link goes by the number of the connect it was opened for. -/
structure BleTask where
  link : Option Nat
  point : BlePoint
  deriving DecidableEq

inductive GattConnection
  | connected
  | disconnected
  | other
  deriving DecidableEq

/-- What the stack calls back with, and what it says to what the callback then asks of it. A status is whether it is
`GATT_SUCCESS`. -/
inductive GattCallback
  | onConnectionStateChange (status : Bool) (newState : GattConnection) (discovers : Bool)
  | onServicesDiscovered (status available started : Bool)
  | onDescriptorWrite (configuration status : Bool)

/-- What a callback settles, if anything. -/
def GattCallback.claim : GattCallback → Option BleClaim
  | onConnectionStateChange status newState discovers =>
    if status ∧ newState = .connected then
      if discovers then none else some (.failConnect "Unable to discover BLE services" false)
    else if newState = .disconnected ∨ ¬status then some (.failConnect "BLE connection closed" true)
    else none
  | onServicesDiscovered status available started =>
    if ¬status then some (.failConnect "BLE service discovery failed" false)
    else if ¬available then some (.failConnect "PhoneAuth BLE characteristics are unavailable" false)
    else if ¬started then some (.failConnect "Unable to enable BLE notifications" false)
    else none
  | onDescriptorWrite configuration status =>
    if ¬configuration then none
    else if status then some .completeConnect
    else some (.failConnect "Unable to enable BLE notifications" false)

/-- A call of `connect`: whether the permissions are granted, the connection id, which of the three UUIDs parse, whether
there is a device of that id, and whether `connectGatt` gives a link to it. -/
structure BleConnect where
  granted : Bool
  connectionId : Option String
  uuids : List Bool
  device : Bool
  opens : Bool
  deriving DecidableEq

def isWhitespace (c : Char) : Bool :=
  let code := c.toNat
  (9 ≤ code ∧ code ≤ 13) ∨ (28 ≤ code ∧ code ≤ 32) ∨ code = 0xA0 ∨ code = 0x1680 ∨ (0x2000 ≤ code ∧ code ≤ 0x200A) ∨
    code = 0x2028 ∨ code = 0x2029 ∨ code = 0x202F ∨ code = 0x205F ∨ code = 0x3000

def isNullOrBlank (value : Option String) : Bool := (value.getD "").toList.all isWhitespace

/-- What is wrong with the arguments, in the order they are looked at. -/
def BleConnect.refusal (request : BleConnect) : Option (GattReply Unit) :=
  if isNullOrBlank request.connectionId then some (.error "invalid_arguments" "Missing BLE connection id")
  else if request.uuids.contains false then some (.error "invalid_arguments" "Invalid BLE UUID")
  else if ¬request.device then some (.error "invalid_arguments" "Invalid BLE connection id")
  else none

/-- Where a call of `connect` stands. -/
inductive ConnectPoint
  | checkPending
  | checkGatt
  | armConnect
  | connectGatt
  | setGatt (opened : Option Nat)
  | checkOpened
  | postDelayed
  deriving DecidableEq

/-- What the main thread is at. -/
inductive BleMain
  | connect (call : Nat) (request : BleConnect) (point : ConnectPoint)
  | task (running : BleTask)
  deriving DecidableEq

/-- A connect that is taken, or a link that is closed, and the link whose deadline or callback does it. -/
structure BleAct where
  cause : Option Nat
  target : Nat
  deriving DecidableEq

/-- What the threads share, and what has come of it. -/
structure BleController where
  pendingConnect : Option Nat
  gatt : Option Nat
  /-- The connect that `armConnect` accepted last. -/
  armed : Option Nat
  /-- The links that the stack can call back for. -/
  opened : List Nat
  /-- `connectTimeout` as the handler has it, once for each connect that posted it. -/
  scheduled : List Nat
  /-- The replies that the main thread has yet to give. -/
  posted : List (Nat × GattReply Unit)
  answers : List (Nat × GattReply Unit)
  acts : List BleAct
  deriving DecidableEq

namespace BleController

def acting (cause : Option Nat) (target : Option Nat) (controller : BleController) : BleController :=
  { controller with acts := controller.acts ++ target.toList.map fun target => ⟨cause, target⟩ }

def answer (call : Nat) (reply : GattReply Unit) (controller : BleController) : BleController :=
  { controller with answers := controller.answers ++ [(call, reply)] }

def inProgress : GattReply Unit := .error "operation_in_progress" "A BLE connection is already active"

end BleController

/-- One access, and where it leads. -/
def BlePoint.step (link : Option Nat) (controller : BleController) : BlePoint → BleController × Option BlePoint
  | takeConnect claim =>
    match controller.pendingConnect with
    | none => (controller, claim.missing)
    | some call =>
      ({ controller with pendingConnect := none }.acting link (some call),
        some (if claim.removes then removeCallbacks call claim else post call claim))
  | removeCallbacks call claim => ({ controller with scheduled := [] }, some (post call claim))
  | post call claim => ({ controller with posted := controller.posted ++ [(call, claim.reply)] }, claim.found)
  | closeGatt => ({ controller with scheduled := [] }, some (takeConnect .closeGatt))
  | readGatt => (controller, some (clearGatt controller.gatt))
  | clearGatt current => ({ controller with gatt := none }, some (close current))
  | close current => (controller.acting link current, none)

def BleTask.step (controller : BleController) (task : BleTask) : BleController × Option BleTask :=
  let (after, next) := task.point.step task.link controller
  (after, next.map (BleTask.mk task.link))

/-- One access of a call of `connect`. -/
def ConnectPoint.step (call : Nat) (request : BleConnect) (controller : BleController) :
    ConnectPoint → BleController × Option BleMain
  | checkPending =>
    if controller.pendingConnect.isSome then (controller.answer call BleController.inProgress, none)
    else (controller, some (.connect call request checkGatt))
  | checkGatt =>
    if controller.gatt.isSome then (controller.answer call BleController.inProgress, none)
    else match request.refusal with
      | some refusal => (controller.answer call refusal, none)
      | none => (controller, some (.connect call request armConnect))
  | armConnect =>
    if controller.pendingConnect.isSome then (controller.answer call BleController.inProgress, none)
    else ({ controller with pendingConnect := some call, armed := some call }, some (.connect call request connectGatt))
  | connectGatt =>
    if request.opens then
      ({ controller with opened := controller.opened ++ [call] }, some (.connect call request (setGatt (some call))))
    else (controller, some (.connect call request (setGatt none)))
  | setGatt opened => ({ controller with gatt := opened }, some (.connect call request checkOpened))
  | checkOpened =>
    if controller.gatt.isSome then (controller, some (.connect call request postDelayed))
    else (controller, some (.task ⟨none, .takeConnect (.failConnect "Unable to start BLE connection" false)⟩))
  | postDelayed => ({ controller with scheduled := controller.scheduled ++ [call] }, none)

def BleMain.step (controller : BleController) : BleMain → BleController × Option BleMain
  | connect call request point => point.step call request controller
  | task running =>
    let (after, next) := running.step controller
    (after, next.map BleMain.task)

/-- The controller, and the calls that are under way on the two sides of it. A connect goes by its place among the calls
of `connect`. -/
structure BleThreads where
  controller : BleController
  calls : Nat
  main : Option BleMain
  callbacks : List BleTask
  deriving DecidableEq

/-- What happens next. The main thread begins nothing new while it is at something. -/
inductive BleEvent
  | connect (request : BleConnect)
  | disconnect
  /-- The deadline of a write on that link closes it. -/
  | writeExpires (link : Nat)
  | timeout (place : Nat)
  | reply
  | callback (link : Nat) (callback : GattCallback)
  | main
  | binder (place : Nat)

namespace BleThreads

def initial : BleThreads := ⟨⟨none, none, none, [], [], [], [], []⟩, 0, none, []⟩

def step (threads : BleThreads) : BleEvent → Option BleThreads
  | .connect request =>
    if threads.main.isSome then none
    else if request.granted then
      some { threads with calls := threads.calls + 1, main := some (.connect threads.calls request .checkPending) }
    else some { threads with
      calls := threads.calls + 1
      controller := threads.controller.answer threads.calls
        (.error "permission_denied" "Bluetooth permission is required") }
  | .disconnect =>
    if threads.main.isSome then none else some { threads with main := some (.task ⟨none, .closeGatt⟩) }
  | .writeExpires link =>
    if threads.main.isSome ∨ link ∉ threads.controller.opened then none
    else some { threads with main := some (.task ⟨some link, .closeGatt⟩) }
  | .timeout place => do
    let link ← threads.controller.scheduled[place]?
    if threads.main.isSome then none
    else return { threads with
      controller := { threads.controller with scheduled := threads.controller.scheduled.eraseIdx place }
      main := some (.task ⟨some link, .takeConnect .connectTimeout⟩) }
  | .reply =>
    match threads.controller.posted with
    | [] => none
    | (call, reply) :: posted =>
      if threads.main.isSome then none
      else some { threads with controller := { threads.controller with posted }.answer call reply }
  | .callback link callback =>
    if link ∈ threads.controller.opened then
      some { threads with
        callbacks := threads.callbacks ++ (callback.claim.map fun claim => ⟨some link, .takeConnect claim⟩).toList }
    else none
  | .main => do
    let main ← threads.main
    let (controller, next) := main.step threads.controller
    return { threads with controller, main := next }
  | .binder place => do
    let task ← threads.callbacks[place]?
    let (controller, next) := task.step threads.controller
    return { threads with controller, callbacks := threads.callbacks.eraseIdx place ++ next.toList }

def run : List BleEvent → BleThreads → Option BleThreads
  | [], threads => some threads
  | event :: events, threads => (threads.step event).bind (run events)

end BleThreads

end BioAuth.Native
