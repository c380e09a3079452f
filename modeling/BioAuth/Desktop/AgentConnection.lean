import BioAuth.Lib.Json
import BioAuth.Lib.TextStream

namespace BioAuth.Desktop
open BioAuth BioAuth.TextStream

/-- What the engine that runs the script makes of texts. -/
class ScriptEngine where
  /-- `JSON.parse`, with the text of its error. A number that is an integer is given as one, however it is spelled. -/
  parse : List Char → Except String Json
  /-- `Number` of a string, where that is an integer. -/
  number : String → Option Int
  /-- `String` of an integer. -/
  spell : Int → String

/-- What `JSON.parse` makes of an object has the member that comes last, where there are several of one name. -/
def property (name : String) : Json → Option Json
  | .object members => (members.reverse.find? fun member => member.1 = name).map Prod.snd
  | _ => none

def truthy : Json → Bool
  | .null => false
  | .bool value => value
  | .number value => value ≠ 0
  | .string value => value ≠ ""
  | _ => true

section Engine
variable [ScriptEngine]

mutual

/-- `String`. No value that JSON gives can be called, so that an object throws that has a `toString` of its own. -/
def toText : Json → Option String
  | .null => some "null"
  | .bool value => some (if value then "true" else "false")
  | .number value => some (ScriptEngine.spell value)
  | .decimal spelling => some spelling
  | .string value => some value
  | .array items => (toTexts items).map (String.intercalate ",")
  | .object members => if members.any fun member => member.1 = "toString" then none else some "[object Object]"

/-- What an array is made of when it is made a text. -/
def toTexts : List Json → Option (List String)
  | [] => some []
  | .null :: items => (toTexts items).map ("" :: ·)
  | item :: items => do
    let text ← toText item
    let texts ← toTexts items
    return text :: texts

end

/-- `Number`, and nothing where that throws. What is no integer has no value here. -/
def toNumber : Option Json → Option (Option Int)
  | none => some none
  | some .null => some (some 0)
  | some (.bool value) => some (some (if value then 1 else 0))
  | some (.number value) => some (some value)
  | some (.decimal _) => some none
  | some (.string value) => some (ScriptEngine.number value)
  | some value => (toText value).map ScriptEngine.number

/-- The text of the error that a reply is turned into, and nothing where that throws. -/
def errorText (message : Json) : Option String :=
  match property "error" message with
  | none => some "agent error"
  | some error =>
    if truthy error then
      match property "message" error with
      | none => some ""
      | some text => toText text
    else some "agent error"

/-- What `String.prototype.trim` takes off. -/
def isWhiteSpace (c : Char) : Bool :=
  let code := c.toNat
  (9 ≤ code ∧ code ≤ 13) ∨ code = 0x20 ∨ code = 0xA0 ∨ code = 0x1680 ∨ (0x2000 ≤ code ∧ code ≤ 0x200A) ∨
    code = 0x2028 ∨ code = 0x2029 ∨ code = 0x202F ∨ code = 0x205F ∨ code = 0x3000 ∨ code = 0xFEFF

def trim (line : List Char) : List Char := ((line.dropWhile isWhiteSpace).reverse.dropWhile isWhiteSpace).reverse

/-- The message on a line, unless the line is blank or no JSON. -/
def readLine (line : List Char) : Option Json :=
  if trim line = [] then none else (ScriptEngine.parse (trim line)).toOption

end Engine

/-- `MAX_UNTERMINATED_CHARS`. -/
def maxUnterminatedChars : Nat := 1048576

/-- `String.prototype.length`. -/
def utf16Length (text : List Char) : Nat := (text.map fun c => if c.val.toNat < 0x10000 then 1 else 2).sum

/-- Why a connection is given up. -/
inductive Failure
  | notRunning (detail : String)
  | malformed
  | notReachable (detail : String)
  | error (message : String)
  | closed
  | oversized
  | stopped

def Failure.text : Failure → String
  | notRunning detail => s!"agent not running ({detail})"
  | malformed => "agent endpoint file is malformed"
  | notReachable detail => s!"agent not reachable ({detail})"
  | error message => message
  | closed => "agent connection closed"
  | oversized => "agent sent an oversized line"
  | stopped => "agent connection stopped"

/-- Why a promise is resolved or rejected. -/
inductive Cause
  | notConnected
  /-- `JSON.stringify` throws on the parameters. -/
  | unwritable
  | reply
  | deadline
  | lost (reason : Failure)

/-- A promise that is resolved or rejected, and how many lines had been taken by then. -/
structure Settlement where
  cause : Cause
  taken : Nat
  outcome : Except String (Option Json)

/-- A call that is written to a socket, and how many lines had been taken by then. -/
structure Written where
  socket : Nat
  since : Nat
  id : Nat
  token : Option Json
  method : String
  params : Json

/-- The promise of a call, with all that has been said to it. It heeds what is said first. -/
structure AgentPromise where
  written : Option Written
  settled : List Settlement

def AgentPromise.tell (settlement : Settlement) (promise : AgentPromise) : AgentPromise :=
  { promise with settled := promise.settled ++ [settlement] }

/-- What `pending` has for an id: the promise of a call, and its method, which the text of its deadline tells. -/
structure Waiter where
  id : Nat
  call : Nat
  method : String

/-- A socket, and what an onlooker notes of it. -/
structure AgentSocket where
  /-- Neither destroyed nor closed. -/
  live : Bool
  /-- The listeners are attached. -/
  heard : Bool
  received : Bytes
  ended : Option Failure

inductive Emission
  | connected
  | disconnected (reason : String) (reachable : Bool)
  /-- An event of the agent's, with the socket whose data it came from. -/
  | agentEvent (socket : Nat) (message : Json)

/-- What is still to be run: a listener that an `emit` has called, or the code behind the `emit` or in the loop. -/
inductive Frame
  | listening
  /-- The loop of `consume`, called for this socket. -/
  | consuming (socket : Nat)
  /-- `fail` behind its `emit`. -/
  | scheduling
  /-- The connect handler behind its `emit`. -/
  | subscribing

/-- The fields of the connection. Timers of calls run for as long as the call is pending. -/
structure AgentConnection where
  socket : Option Nat
  token : Option Json
  buffer : List Char
  decoder : Bytes
  nextId : Nat
  pending : List Waiter
  connected : Bool
  retryTimer : Bool
  lastError : Option String
  reachedAgent : Bool

/-- The connection with what surrounds it: the code that is being run, the sockets and promises it has made, the lines it
has taken with the socket of each, and what it has emitted. -/
structure AgentRun where
  connection : AgentConnection
  stack : List Frame
  sockets : List AgentSocket
  promises : List AgentPromise
  lines : List (Nat × List Char)
  emitted : List Emission
  threw : Bool

/-- The endpoint file, or why it is not read. -/
abbrev EndpointFile := Except String (List Char)

namespace AgentRun

def initial : AgentRun where
  connection :=
    { socket := none
      token := none
      buffer := []
      decoder := []
      nextId := 1
      pending := []
      connected := false
      retryTimer := false
      lastError := none
      reachedAgent := false }
  stack := []
  sockets := []
  promises := []
  lines := []
  emitted := []
  threw := false

/-- An error that nobody catches ends whatever is being run. -/
def throw (run : AgentRun) : AgentRun := { run with threw := true, stack := [] }

/-- Emit to listeners, who do what they do before the code behind the `emit` is run. -/
def emit (emission : Emission) (behind : List Frame) (run : AgentRun) : AgentRun :=
  { run with emitted := run.emitted ++ [emission], stack := .listening :: behind }

def settle (cause : Cause) (outcome : Except String (Option Json)) (call : Nat) (run : AgentRun) : AgentRun :=
  { run with promises := run.promises.modify call (AgentPromise.tell ⟨cause, run.lines.length, outcome⟩) }

def discard (reason : Failure) (run : AgentRun) : AgentRun :=
  let run : AgentRun := { run with sockets := match run.connection.socket with
    | some socket => run.sockets.modify socket fun dropped =>
        { dropped with live := false, heard := false, ended := some reason }
    | none => run.sockets }
  let run := run.connection.pending.foldl
    (fun run waiter => run.settle (.lost reason) (.error reason.text) waiter.call) run
  { run with connection := { run.connection with
      connected := false
      socket := none
      pending := []
      buffer := []
      decoder := [] } }

def fail (reason : Failure) (run : AgentRun) : AgentRun :=
  let run := { run with connection := { run.connection with lastError := some reason.text } }.discard reason
  run.emit (.disconnected reason.text run.connection.reachedAgent) (.scheduling :: run.stack)

def stop (run : AgentRun) : AgentRun :=
  { run with connection := { run.connection with retryTimer := false } }.discard .stopped

def scheduleRetry (run : AgentRun) : AgentRun := { run with connection := { run.connection with retryTimer := true } }

def call (method : String) (params : Except String Json) (run : AgentRun) : AgentRun :=
  let refused (cause : Cause) (message : String) : AgentPromise := ⟨none, [⟨cause, run.lines.length, .error message⟩]⟩
  match run.connection.socket, run.connection.connected with
  | some socket, true =>
    let id := run.connection.nextId
    let promise := match params with
      | .ok params => ⟨some ⟨socket, run.lines.length, id, run.connection.token, method, params⟩, []⟩
      | .error message => refused .unwritable message
    { run with
      promises := run.promises ++ [promise]
      connection := { run.connection with
        nextId := id + 1
        pending := run.connection.pending ++ [⟨id, run.promises.length, method⟩] } }
  | _, _ =>
    { run with promises := run.promises ++
        [refused .notConnected ((run.connection.lastError.filter (· ≠ "")).getD "agent not connected")] }

section Steps
variable [ScriptEngine]

/-- The port of an endpoint, and nothing where looking for it throws. -/
def port : Json → Option (Option Int)
  | .null => none
  | endpoint => toNumber (property "port" endpoint)

def connectTo (token : Option Json) (connects : Except String Unit) (run : AgentRun) : AgentRun :=
  let run := { run with connection := { run.connection with token } }
  match connects with
  | .error detail => run.fail (.notReachable detail)
  | .ok () =>
    { run with
      sockets := run.sockets ++ [⟨true, true, [], none⟩]
      connection := { run.connection with socket := some run.sockets.length } }

def start (file : EndpointFile) (connects : Except String Unit) (run : AgentRun) : AgentRun :=
  let run := { run with connection := { run.connection with retryTimer := false, reachedAgent := false } }
  match file.bind ScriptEngine.parse with
  | .error detail => run.fail (.notRunning detail)
  | .ok endpoint =>
    match port endpoint with
    | none => run.throw
    | some none => run.fail .malformed
    | some (some port) =>
      if port < 1 ∨ 65535 < port then run.fail .malformed else run.connectTo (property "token" endpoint) connects

/-- `pending.get`. -/
def waiting (id : Json) (run : AgentRun) : Option Waiter :=
  match id with
  | .number id => run.connection.pending.find? fun waiter => (waiter.id : Int) = id
  | _ => none

/-- `pending.delete`. -/
def forget (id : Nat) (run : AgentRun) : AgentRun :=
  { run with connection := { run.connection with pending := run.connection.pending.filter fun waiter => waiter.id ≠ id } }

def reply (waiter : Waiter) (message : Json) (run : AgentRun) : AgentRun :=
  let run := run.forget waiter.id
  if (property "ok" message).any truthy then run.settle .reply (.ok (property "result" message)) waiter.call
  else
    match errorText message with
    | none => run.throw
    | some text => run.settle .reply (.error text) waiter.call

/-- What `consume` does with a line of a socket's. -/
def handle (socket : Nat) (line : List Char) (run : AgentRun) : AgentRun :=
  match readLine line with
  | none => run
  | some .null => run.throw
  | some message =>
    match property "id" message with
    | none => run.emit (.agentEvent socket message) run.stack
    | some id =>
      match run.waiting id with
      | none => run
      | some waiter => run.reply waiter message

/-- A line is taken out of the buffer. -/
def take (socket : Nat) (line buffer : List Char) (run : AgentRun) : AgentRun :=
  { run with
    connection := { run.connection with buffer }
    lines := run.lines ++ [(socket, line)] }

/-- Once round the loop of `consume`, or what is behind it. -/
def consume (socket : Nat) (behind : List Frame) (run : AgentRun) : AgentRun :=
  match takeLine run.connection.buffer with
  | some (line, buffer) => (run.take socket line buffer).handle socket line
  | none =>
    let run := { run with stack := behind }
    if maxUnterminatedChars < utf16Length run.connection.buffer then run.fail .oversized else run

/-- The code behind an `emit`, or in the loop. -/
def proceed (run : AgentRun) : Option AgentRun :=
  match run.stack with
  | .consuming socket :: behind => some (run.consume socket behind)
  | .scheduling :: behind => some { run with stack := behind }.scheduleRetry
  | .subscribing :: behind => some ({ run with stack := behind }.call "subscribe" (.ok (.object [])))
  | _ => none

end Steps

/-- Code that is not the connection's can call it. -/
def yields (run : AgentRun) : Bool :=
  match run.stack with
  | [] | .listening :: _ => true
  | _ => false

end AgentRun

/-- What happens next. A listener may call what it likes before it returns. Timers and sockets wait until nothing is being
run. -/
inductive AgentEvent
  | start (file : EndpointFile) (connects : Except String Unit)
  | stop
  | call (method : String) (params : Except String Json)
  | returns
  | proceed
  | retry (file : EndpointFile) (connects : Except String Unit)
  | deadline (id : Nat)
  | connect (socket : Nat)
  | data (socket : Nat) (chunk : Bytes)
  | error (socket : Nat) (message : String)
  | close (socket : Nat)

namespace AgentRun
variable [ScriptEngine]

/-- A socket whose listeners are called. -/
def hears (socket : Nat) (run : AgentRun) : Bool := run.stack = [] && (run.sockets[socket]?).any AgentSocket.heard

def isLive (socket : Nat) (run : AgentRun) : Bool := (run.sockets[socket]?).any AgentSocket.live

/-- The socket is closed, of itself or for an error. -/
def ends (socket : Nat) (run : AgentRun) : AgentRun :=
  { run with sockets := run.sockets.modify socket fun ended => { ended with live := false } }

def step (run : AgentRun) : AgentEvent → Option AgentRun
  | .start file connects => if run.yields then some (run.start file connects) else none
  | .stop => if run.yields then some run.stop else none
  | .call method params => if run.yields then some (run.call method params) else none
  | .returns =>
    match run.stack with
    | .listening :: behind => some { run with stack := behind }
    | _ => none
  | .proceed => run.proceed
  | .retry file connects =>
    if run.stack = [] ∧ run.connection.retryTimer then
      some ({ run with connection := { run.connection with retryTimer := false } }.start file connects)
    else none
  | .deadline id =>
    if run.stack = [] then
      (run.connection.pending.find? fun waiter => waiter.id = id).map fun waiter =>
        (run.forget id).settle .deadline (.error s!"agent did not answer {waiter.method}") waiter.call
    else none
  | .connect socket =>
    if run.hears socket ∧ run.isLive socket then
      some ({ run with connection := { run.connection with
        connected := true
        reachedAgent := true
        lastError := none } }.emit .connected [.subscribing])
    else none
  | .data socket chunk =>
    if run.hears socket ∧ run.isLive socket then
      let (text, held) := write run.connection.decoder chunk
      some { run with
        sockets := run.sockets.modify socket fun receiving => { receiving with received := receiving.received ++ chunk }
        connection := { run.connection with buffer := run.connection.buffer ++ text, decoder := held }
        stack := [.consuming socket] }
    else none
  | .error socket message =>
    if run.hears socket ∧ run.isLive socket then some ((run.ends socket).fail (.error message)) else none
  | .close socket => if run.hears socket then some ((run.ends socket).fail .closed) else none

def run : List AgentEvent → AgentRun → Option AgentRun
  | [], after => some after
  | event :: events, before => (before.step event).bind (run events)

end AgentRun

end BioAuth.Desktop
