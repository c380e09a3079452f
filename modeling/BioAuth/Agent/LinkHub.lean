import BioAuth.Agent.Ble
import BioAuth.Agent.BleFraming

namespace BioAuth.Agent
open BioAuth
open BioAuth.Session (Identities IoError SecureChannel)

/-- Routes characteristic writes to the one active notification subscription, by the id of its link. -/
structure LinkHub where
  nextId : Nat
  active : Option Nat

inductive ReqError
  | notPermitted
  | failed
  | invalidOffset

namespace LinkHub

def initial : LinkHub := ⟨0, none⟩

def begin (hub : LinkHub) : Option (Nat × LinkHub) :=
  match hub.active with
  | some _ => none
  | none => some (hub.nextId, ⟨hub.nextId + 1, some hub.nextId⟩)

/-- The link that a write goes to. One that has stopped listening refuses it. -/
def write (listens : Nat → Bool) (hub : LinkHub) : Except ReqError Nat :=
  match hub.active with
  | none => .error .notPermitted
  | some id => if listens id then .ok id else .error .failed

def finish (id : Nat) (hub : LinkHub) : LinkHub := if hub.active = some id then { hub with active := none } else hub

end LinkHub

variable [Identities]

/-- Where the task of a link stands: in `serve_link` up to where the session is parked or an error is noted, in its
loop, or behind it. -/
inductive LinkStage
  | serving (link : Link)
  | relaying
  | finishing

/-- The task of a link. -/
structure LinkTask where
  id : Nat
  /-- The phone still holds the subscription that the link was begun for. -/
  subscribed : Bool
  stage : LinkStage
  /-- What has been written to the link, each with its place among the writes, as far as it has not been taken out. -/
  rawIncoming : List (Nat × Bytes)
  decoder : BleFrameDecoder
  outgoing : List Bytes

namespace LinkTask

def relays (task : LinkTask) : Bool := task.stage matches .relaying

/-- A phone that has let go of the subscription is not notified. -/
def delivered (result : Except IoError Unit) (task : LinkTask) : Except IoError Unit :=
  if task.subscribed then result else .error ⟨.brokenPipe, "notification session stopped"⟩

def surroundings (env : Surroundings) (task : LinkTask) : Surroundings :=
  { env with write := task.delivered env.write }

end LinkTask

/-- A session that `connect` has taken. -/
structure BleSession where
  channel : SecureChannel
  link : Nat
  closed : Bool

/-- The BlueZ server with its sessions. An onlooker notes each write with the link that is active when it arrives, and
what each decoder is fed. -/
structure BleServer where
  state : BleState
  hub : LinkHub
  links : List LinkTask
  taken : List BleSession
  written : List (Nat × Bytes)
  fed : List (Nat × Nat)

/-- What happens next, on whichever thread. A number picks one of the links, or one of the sessions taken. -/
inductive HubEvent
  | setKnownPeers (peers : Peers)
  | subscribe
  | unsubscribe (place : Nat)
  | write (offset : Nat) (value : Bytes)
  /-- A step of `serve_link` that waits for nothing. -/
  | serve (place : Nat) (env : Surroundings)
  | chunk (place : Nat) (env : Surroundings)
  /-- The time for a frame of the handshake runs out. -/
  | timeout (place : Nat) (env : Surroundings)
  /-- Nothing is left to be written to the link. -/
  | hangUp (place : Nat) (env : Surroundings)
  | notify (place : Nat) (delivered : Except IoError Unit)
  /-- Nothing is left to be sent by the session. -/
  | release (place : Nat)
  | finish (place : Nat)
  | take (now : Nat) (deviceId credentialId : String)
  | send (place : Nat) (frame : Bytes)
  | close (place : Nat)
  | drop (place : Nat)
  | sweep (now : Nat)

/-- Whether a step reads a frame. -/
def Link.reads : Link → Bool
  | .greeted _ | .attaching _ => true
  | _ => false

/-- A link that is over returns from `serve_link`, unless it has parked its session. -/
def LinkStage.after : Link → LinkStage
  | .ended (.ok _) => .relaying
  | .ended (.error _) => .finishing
  | link => .serving link

namespace BleServer

def initial : BleServer := ⟨BleState.initial, LinkHub.initial, [], [], [], []⟩

def parks (server : BleServer) (id : Nat) : Bool := server.state.sessions.entries.any fun entry => entry.2.stream = id

/-- The session of the link can still be read from. -/
def receives (server : BleServer) (id : Nat) : Bool :=
  server.parks id || server.taken.any fun session => session.link = id

/-- The session of the link can still be sent through. -/
def sends (server : BleServer) (id : Nat) : Bool :=
  server.parks id || server.taken.any fun session => session.link = id && !session.closed

/-- What is left of the link listens to what is written. -/
def listens (server : BleServer) (id : Nat) : Bool :=
  server.links.any fun task => task.id = id && match task.stage with
    | .serving (.failed _) | .finishing => false
    | _ => true

def put (place : Nat) (task : LinkTask) (server : BleServer) : BleServer :=
  { server with links := server.links.set place task }

section Steps
variable [Crypto] (shared : Shared)

/-- A step of `serve_link`. -/
def serve (place : Nat) (env : Surroundings) (task : LinkTask) (link : Link) (server : BleServer) : BleServer :=
  let (state, next) := serveLink shared task.id (task.surroundings env) server.state link
  { server with state }.put place { task with stage := .after next }

/-- What a frame, a failure to get one, or a chunk that completes none does to a link. -/
def hear (place : Nat) (env : Surroundings) (task : LinkTask) (read : Except IoError (Option Bytes))
    (server : BleServer) : Option BleServer :=
  match task.stage with
  | .serving link =>
    if ¬link.reads then none
    else match read with
      | .ok none => some (server.put place task)
      | .ok (some frame) => some (server.serve shared place { env with read := .ok frame } task link)
      | .error error => some (server.serve shared place { env with read := .error error } task link)
  | .relaying =>
    match read with
    | .ok none => some (server.put place task)
    | .ok (some _) =>
      if server.receives task.id then some (server.put place task)
      else some (server.put place { task with stage := .finishing })
    | .error error => some (server.put place { task with stage := .serving (.failed (.io error)) })
  | .finishing => none

def step (server : BleServer) : HubEvent → Option BleServer
  | .setKnownPeers peers => some { server with state := server.state.setKnownPeers peers }
  | .subscribe =>
    match server.hub.begin with
    | none => some server
    | some (id, hub) =>
      some { server with hub, links := server.links ++ [⟨id, true, .serving .accepted, [], .initial, []⟩] }
  | .unsubscribe place => do
    let task ← server.links[place]?
    return server.put place { task with subscribed := false }
  | .write offset value =>
    if offset ≠ 0 then some server
    else match server.hub.write server.listens with
      | .error _ => some server
      | .ok id => some { server with
          links := server.links.map fun task =>
            if task.id = id then { task with rawIncoming := task.rawIncoming ++ [(server.written.length, value)] }
            else task
          written := server.written ++ [(id, value)] }
  | .serve place env => do
    let task ← server.links[place]?
    match task.stage with
    | .serving link => if link.reads then none else some (server.serve shared place env task link)
    | _ => none
  | .chunk place env => do
    let task ← server.links[place]?
    match task.rawIncoming with
    | [] => none
    | (number, value) :: rawIncoming =>
      let (read, decoder) := BleFrameDecoder.addChunk value task.decoder
      let fed := { server with fed := server.fed ++ [(number, task.id)] }
      fed.hear shared place env { task with rawIncoming, decoder } read
  | .timeout place env => do
    let task ← server.links[place]?
    match task.stage with
    | .serving _ => server.hear shared place env task (.error ⟨.timedOut, "BLE handshake timed out"⟩)
    | _ => none
  | .hangUp place env => do
    let task ← server.links[place]?
    if server.hub.active = some task.id ∨ task.rawIncoming ≠ [] then none
    else match task.stage with
      | .relaying => some (server.put place { task with stage := .finishing })
      | _ => server.hear shared place env task (.error ⟨.brokenPipe, "BLE link closed during handshake"⟩)
  | .notify place delivered => do
    let task ← server.links[place]?
    match task.stage, task.outgoing with
    | .relaying, _ :: outgoing =>
      match task.delivered delivered with
      | .ok _ => some (server.put place { task with outgoing })
      | .error error => some (server.put place { task with outgoing, stage := .serving (.failed (.io error)) })
    | _, _ => none
  | .release place => do
    let task ← server.links[place]?
    match task.stage, task.outgoing with
    | .relaying, [] => if server.sends task.id then none else some (server.put place { task with stage := .finishing })
    | _, _ => none
  | .finish place => do
    let task ← server.links[place]?
    match task.stage with
    | .finishing => some { server with hub := server.hub.finish task.id, links := server.links.eraseIdx place }
    | _ => none
  | .take now deviceId credentialId =>
    let (session, state) := server.state.takeSession now deviceId credentialId
    some { server with
      state
      taken := server.taken ++ session.toList.map fun session => ⟨session.channel, session.stream, false⟩ }
  | .send place frame => do
    let session ← server.taken[place]?
    if session.closed then some server
    else match SecureChannel.seal frame session.channel with
      | (.error _, channel) => some { server with taken := server.taken.set place { session with channel } }
      | (.ok record, channel) => some { server with
          taken := server.taken.set place { session with channel }
          links := server.links.map fun task =>
            if task.id = session.link ∧ task.relays then { task with outgoing := task.outgoing ++ [record] } else task }
  | .close place => do
    let session ← server.taken[place]?
    return { server with taken := server.taken.set place { session with closed := true } }
  | .drop place =>
    if place < server.taken.length then some { server with taken := server.taken.eraseIdx place } else none
  | .sweep now =>
    some { server with state := { server.state with sessions := BleState.discardStale now server.state.sessions } }

def run : List HubEvent → BleServer → Option BleServer
  | [], server => some server
  | event :: events, server => (server.step shared event).bind (run events)

end Steps

end BleServer

end BioAuth.Agent
