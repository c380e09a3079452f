import BioAuth.Crypto
import BioAuth.Protocol.Ssh
import Mathlib.Data.Finset.Insert
import Mathlib.Data.List.Chain

namespace BioAuth.Agent
open BioAuth BioAuth.Protocol

def sshAgentFailure : UInt8 := 5
def sshAgentSuccess : UInt8 := 6
def sshAgentcRequestIdentities : UInt8 := 11
def sshAgentIdentitiesAnswer : UInt8 := 12
def sshAgentcSignRequest : UInt8 := 13
def sshAgentSignResponse : UInt8 := 14
def sshAgentcExtension : UInt8 := 27

/-- The extension that tells an agent which host a connection is to. -/
def sessionBindName : String := "session-bind@openssh.com"

/-- What a client asks to have signed, and with which key. -/
structure SignRequest where
  keyBlob : Bytes
  data : Bytes
  flags : Nat

/-- Who and what a sign request is for, as far as the request itself says. -/
structure SignContext where
  user : String
  service : String
  deriving DecidableEq

structure SessionBind where
  /-- Its fingerprint is what names a destination. -/
  hostKey : Bytes
  /-- The agent is reached through a forwarded connection. -/
  forwarding : Bool
  deriving DecidableEq

inductive SshRequest
  | identities
  | sign (request : SignRequest)
  | sessionBind (bind : SessionBind)
  | unsupported

/-- The user and service of an RFC 4252 `publickey` request, and nothing of any other blob. -/
def SignRequest.describe (request : SignRequest) : Option SignContext :=
  let read : Ssh.SshReader SignContext := do
    let _ ← Ssh.readString
    let kind ← Ssh.readU8
    require (kind = 50) ProtocolError.invalidOperation
    let user ← Ssh.readText
    let service ← Ssh.readText
    let method ← Ssh.readText
    require (method = "publickey") ProtocolError.invalidOperation
    return { user, service }
  (read request.data).1.toOption

def readSignRequest : Ssh.SshReader SignRequest := do
  let keyBlob ← Ssh.readString
  let data ← Ssh.readString
  let flags ← Ssh.readU32
  Ssh.finish
  return { keyBlob, data, flags }

/-- The session identifier and the signature over it are read, and not verified. -/
def readSessionBind : Ssh.SshReader SessionBind := do
  let name ← Ssh.readText
  require (name = sessionBindName) ProtocolError.invalidOperation
  let hostKey ← Ssh.readString
  let _ ← Ssh.readString
  let _ ← Ssh.readString
  let forwarding ← Ssh.readU8
  Ssh.finish
  return { hostKey, forwarding := forwarding ≠ 0 }

/-- Reads one agent message body. -/
def SshRequest.parse : Bytes → SshRequest
  | [] => .unsupported
  | kind :: rest =>
    if kind = sshAgentcRequestIdentities ∧ rest = [] then .identities
    else if kind = sshAgentcSignRequest then
      match (readSignRequest rest).1 with
      | .ok request => .sign request
      | .error _ => .unsupported
    else if kind = sshAgentcExtension then
      match (readSessionBind rest).1 with
      | .ok bind => .sessionBind bind
      | .error _ => .unsupported
    else .unsupported

/-- Puts the 32-bit length in front. -/
def sshFramed (body : Bytes) : Bytes := Ssh.uint32 body.length ++ body

def identitiesAnswer (keys : List (Bytes × String)) : Bytes :=
  sshFramed (sshAgentIdentitiesAnswer :: Ssh.uint32 keys.length ++
    keys.flatMap fun key => Ssh.string key.1 ++ Ssh.text key.2)

def signResponse (signatureBlob : Bytes) : Bytes := sshFramed (sshAgentSignResponse :: Ssh.string signatureBlob)

/-- The one answer to everything this agent will not do. -/
def sshFailure : Bytes := sshFramed [sshAgentFailure]

def sshSuccess : Bytes := sshFramed [sshAgentSuccess]

/-- What the phone shows before signing. -/
structure SshPrompt where
  user : String
  /-- The host key fingerprint, unless the client did not say. -/
  destination : Option String
  forwarded : Bool
  /-- The destination is not one this machine has signed into before. -/
  firstTime : Bool
  deriving DecidableEq

inductive SshDecision
  | ask (prompt : SshPrompt)
  /-- The reason is for the agent's own log. -/
  | refuse (reason : String)

/-- The hosts this agent will sign for, and how. -/
structure SshPolicy where
  /-- Fingerprints seen before. -/
  known : Finset String
  /-- Fingerprints allowed to be reached through a forwarded agent. -/
  forwardable : Finset String
  /-- When not empty, the only destinations that may be signed for at all. -/
  restrictedTo : Finset String

def base64 : List Char := "ABCDEFGHIJKLMNOPQRSTUVWXYZabcdefghijklmnopqrstuvwxyz0123456789+/".toList

/-- While six bits or more are held, they are pushed. -/
def pushSextets (accumulator : UInt32) : Nat → List Char × Nat
  | bits + 6 =>
    let (more, left) := pushSextets accumulator bits
    (base64.getD (accumulator >>> UInt32.ofNat bits &&& 63).toNat 'A' :: more, left)
  | bits => ([], bits)

def base64Unpadded (bytes : Bytes) : String :=
  let (accumulator, bits, out) := bytes.foldl (fun (state : UInt32 × Nat × List Char) byte =>
    let (accumulator, bits, out) := state
    let accumulator := accumulator <<< 8 ||| byte.toUInt32
    let (sextets, left) := pushSextets accumulator (bits + 8)
    (accumulator, left, out ++ sextets)) (0, 0, [])
  String.ofList (if 0 < bits then out ++ [base64.getD (accumulator <<< UInt32.ofNat (6 - bits) &&& 63).toNat 'A'] else out)

section Policy
variable [Crypto]

/-- OpenSSH's `SHA256:` fingerprint of a host key blob. -/
def fingerprint (hostKey : Bytes) : String := "SHA256:" ++ base64Unpadded (Crypto.sha256 hostKey).val

namespace SshPolicy

/-- Records that a signature was made for this destination. -/
def remember (policy : SshPolicy) (fingerprint : String) : SshPolicy :=
  { policy with known := insert fingerprint policy.known }

/-- Decides what to do about one request. -/
def decide (policy : SshPolicy) (context : Option SignContext) (bind : Option SessionBind) : SshDecision :=
  match context with
  | none => .refuse "the sign request is not a readable login"
  | some context =>
    if context.user = "" then .refuse "the sign request names no account"
    else
      let prompt (destination : Option String) (forwarded firstTime : Bool) : SshDecision :=
        .ask { user := context.user, destination, forwarded, firstTime }
      match bind with
      | some bind =>
        let name := fingerprint bind.hostKey
        if policy.restrictedTo ≠ ∅ ∧ name ∉ policy.restrictedTo then .refuse "this destination is not in the allow-list"
        else if bind.forwarding = true ∧ name ∉ policy.forwardable then
          .refuse "agent forwarding is not allowed to this host"
        else prompt (some name) bind.forwarding (name ∉ policy.known)
      | none =>
        if policy.restrictedTo ≠ ∅ then .refuse "the client did not name a destination"
        else prompt none false true

end SshPolicy

end Policy

/-- What the session can ask of the world outside it. -/
class SshBackend (β : Type) where
  /-- The keys to advertise: a public key blob and a comment each. -/
  identities : β → List (Bytes × String) × β
  /-- Asks the phone to sign, and may be refused. -/
  sign : Bytes → Bytes → SshPrompt → β → Option Bytes × β

/-- One connection. -/
structure SshSession (β : Type) where
  backend : β
  policy : SshPolicy
  bind : Option SessionBind

namespace SshSession
variable {β : Type} [SshBackend β] [Crypto]

def new (backend : β) (policy : SshPolicy) : SshSession β := ⟨backend, policy, none⟩

/-- A request the policy admits. -/
def sign (request : SignRequest) (prompt : SshPrompt) (session : SshSession β) : Bytes × SshSession β :=
  let (keys, backend) := SshBackend.identities session.backend
  if keys.any fun key => key.1 = request.keyBlob then
    let (answer, backend) := SshBackend.sign request.keyBlob request.data prompt backend
    match answer.bind fun raw => (Ssh.encodeSignature raw).toOption with
    | none => (sshFailure, { session with backend })
    | some blob =>
      let policy := match prompt.destination with
        | some destination => session.policy.remember destination
        | none => session.policy
      (signResponse blob, { session with backend, policy })
  else (sshFailure, { session with backend })

/-- Handles one message body and returns the framed reply. -/
def handle (body : Bytes) (session : SshSession β) : Bytes × SshSession β :=
  match SshRequest.parse body with
  | .identities =>
    let (keys, backend) := SshBackend.identities session.backend
    (identitiesAnswer keys, { session with backend })
  | .sessionBind bind => (sshSuccess, { session with bind := some bind })
  | .sign request =>
    match session.policy.decide request.describe session.bind with
    | .ask prompt => session.sign request prompt
    | .refuse _ => (sshFailure, session)
  | .unsupported => (sshFailure, session)

/-- The messages of a connection, one after another. -/
def run (session : SshSession β) (bodies : List Bytes) : SshSession β :=
  bodies.foldl (fun session body => (session.handle body).2) session

end SshSession

/-- What a backend is asked, and what it answers. -/
inductive BackendDeed
  | listed (keys : List (Bytes × String))
  | asked (keyBlob data : Bytes) (prompt : SshPrompt) (answer : Option Bytes)
  deriving DecidableEq

/-- A backend with what it has been asked. -/
structure Recording (β : Type) where
  backend : β
  deeds : List BackendDeed

instance (β : Type) [SshBackend β] : SshBackend (Recording β) where
  identities recording :=
    let (keys, backend) := SshBackend.identities recording.backend
    (keys, ⟨backend, recording.deeds ++ [.listed keys]⟩)
  sign keyBlob data prompt recording :=
    let (answer, backend) := SshBackend.sign keyBlob data prompt recording.backend
    (answer, ⟨backend, recording.deeds ++ [.asked keyBlob data prompt answer]⟩)

section Handled
variable {β : Type} [SshBackend β] [Crypto]

omit [Crypto] in
theorem identities_recording (backend : β) (deeds : List BackendDeed) :
    SshBackend.identities (⟨backend, deeds⟩ : Recording β) = ((SshBackend.identities backend).1,
      ⟨(SshBackend.identities backend).2, deeds ++ [.listed (SshBackend.identities backend).1]⟩) := rfl

omit [Crypto] in
theorem sign_recording (keyBlob data : Bytes) (prompt : SshPrompt) (backend : β) (deeds : List BackendDeed) :
    SshBackend.sign keyBlob data prompt (⟨backend, deeds⟩ : Recording β) =
      ((SshBackend.sign keyBlob data prompt backend).1, ⟨(SshBackend.sign keyBlob data prompt backend).2,
        deeds ++ [.asked keyBlob data prompt (SshBackend.sign keyBlob data prompt backend).1]⟩) := rfl

theorem SshPolicy.decide_eq_ask {policy : SshPolicy} {context : Option SignContext} {bind : Option SessionBind}
    {prompt : SshPrompt} (asks : policy.decide context bind = .ask prompt) :
    (∃ known, context = some known ∧ known.user ≠ "") ∧
      prompt.destination = bind.map (fun bind => fingerprint bind.hostKey) ∧
      (policy.restrictedTo ≠ ∅ → ∃ known, bind = some known ∧ fingerprint known.hostKey ∈ policy.restrictedTo) ∧
      ∀ known, bind = some known → known.forwarding = true → fingerprint known.hostKey ∈ policy.forwardable := by
  unfold decide at asks
  cases context with
  | none => cases asks
  | some known =>
    dsimp only at asks
    split at asks
    · cases asks
    · rename_i named
      cases bind with
      | none =>
        dsimp only at asks
        split at asks
        · cases asks
        · rename_i unrestricted
          cases asks
          exact ⟨⟨known, rfl, named⟩, rfl, fun restricted => absurd restricted unrestricted, nofun⟩
      | some bind =>
        dsimp only at asks
        split at asks
        · cases asks
        · rename_i inside
          split at asks
          · cases asks
          · rename_i forwards
            cases asks
            refine ⟨⟨known, rfl, named⟩, rfl, fun restricted => ⟨bind, rfl, ?_⟩, ?_⟩
            · by_contra outside
              exact inside ⟨restricted, outside⟩
            · intro known same forwarding
              cases same
              by_contra barred
              exact forwards ⟨forwarding, barred⟩

namespace SshSession

/-- What the backend is asked over one message. -/
def news (session : SshSession (Recording β)) (body : Bytes) : List BackendDeed :=
  (session.handle body).2.backend.deeds.drop session.backend.deeds.length

/-- A message over which nothing is asked of the phone. -/
structure Quiet (session : SshSession (Recording β)) (body : Bytes) : Prop where
  news : ∀ deed ∈ session.news body, ∃ keys, deed = .listed keys
  policy : (session.handle body).2.policy = session.policy
  reply : ∀ blob, (session.handle body).1 ≠ signResponse blob

/-- A message over which the phone is asked for a signature. -/
structure Asks (session : SshSession (Recording β)) (body : Bytes) (request : SignRequest) (prompt : SshPrompt)
    (answer : Option Bytes) (keys : List (Bytes × String)) : Prop where
  parsed : SshRequest.parse body = .sign request
  admitted : session.policy.decide request.describe session.bind = .ask prompt
  listed : ∃ comment, (request.keyBlob, comment) ∈ keys
  news : session.news body = [.listed keys, .asked request.keyBlob request.data prompt answer]
  ends : (session.handle body).2.policy = session.policy ∧ (∀ blob, (session.handle body).1 ≠ signResponse blob) ∨
    ∃ raw blob, answer = some raw ∧ Ssh.encodeSignature raw = .ok blob ∧ (session.handle body).1 = signResponse blob ∧
      (session.handle body).2.policy = (match prompt.destination with
        | some destination => session.policy.remember destination
        | none => session.policy)

end SshSession

omit [SshBackend β] [Crypto] in
/-- No other reply reads as a signature. -/
theorem framed_ne_signResponse {kind : UInt8} {body blob : Bytes} (other : kind ≠ sshAgentSignResponse) :
    sshFramed (kind :: body) ≠ signResponse blob := by
  intro same
  have kinds := congrArg (fun reply => reply[4]?) same
  unfold signResponse sshFramed at kinds
  have width (bytes : Bytes) : (Ssh.uint32 bytes.length).length = 4 := BigEndian.encode_length 4 _
  simp only [List.getElem?_append_right (width _).le, width, Nat.sub_self, List.getElem?_cons_zero, Option.some.injEq] at kinds
  exact other kinds

theorem handle_bind (session : SshSession β) (body : Bytes) :
    (session.handle body).2.bind = match SshRequest.parse body with
      | .sessionBind bind => some bind
      | _ => session.bind := by
  unfold SshSession.handle
  cases SshRequest.parse body with
  | identities => rfl
  | sessionBind bind => rfl
  | unsupported => rfl
  | sign request =>
    dsimp only
    split
    · unfold SshSession.sign
      dsimp only
      split
      · split
        · rfl
        · rfl
      · rfl
    · rfl

namespace SshSession

theorem news_of_deeds {session : SshSession (Recording β)} {body : Bytes} {deeds : List BackendDeed}
    (appended : (session.handle body).2.backend.deeds = session.backend.deeds ++ deeds) : session.news body = deeds := by
  rw [news, appended, List.drop_left]

/-- Whatever a message is, either nothing is asked of the phone or all the checks have passed. -/
theorem handle_cases (session : SshSession (Recording β)) (body : Bytes) :
    session.Quiet body ∨ ∃ request prompt answer keys, session.Asks body request prompt answer keys := by
  have refused (result : session.handle body = (sshFailure, session)) : session.Quiet body := by
    have nothing : session.news body = [] := news_of_deeds (by rw [result, List.append_nil])
    refine ⟨fun deed member => ?_, by rw [result], fun blob => ?_⟩
    · rw [nothing] at member
      cases member
    · rw [result]
      exact framed_ne_signResponse (by decide)
  rcases parsed : SshRequest.parse body with _ | request | bind | _
  · have result : session.handle body = (identitiesAnswer (SshBackend.identities session.backend).1,
        { session with backend := (SshBackend.identities session.backend).2 }) := by
      rw [handle, parsed]
    have listed : session.news body = [.listed (SshBackend.identities session.backend).1] := news_of_deeds (by rw [result]; rfl)
    refine Or.inl ⟨fun deed member => ?_, by rw [result], fun blob => ?_⟩
    · rw [listed] at member
      exact ⟨_, List.mem_singleton.mp member⟩
    · rw [result]
      exact framed_ne_signResponse (by decide)
  · rcases admitted : session.policy.decide request.describe session.bind with prompt | reason
    · have result : session.handle body = session.sign request prompt := by rw [handle, parsed]; dsimp only; rw [admitted]
      rcases offered : SshBackend.identities session.backend.backend with ⟨keys, backend⟩
      have first : SshBackend.identities session.backend =
          (keys, (⟨backend, session.backend.deeds ++ [.listed keys]⟩ : Recording β)) := by
        have recorded := identities_recording session.backend.backend session.backend.deeds
        rwa [offered] at recorded
      by_cases advertised : (keys.any fun key => key.1 = request.keyBlob) = true
      · rcases answered : SshBackend.sign request.keyBlob request.data prompt backend with ⟨answer, later⟩
        have second : SshBackend.sign request.keyBlob request.data prompt
            (⟨backend, session.backend.deeds ++ [.listed keys]⟩ : Recording β) = (answer, ⟨later, session.backend.deeds ++
              [.listed keys] ++ [.asked request.keyBlob request.data prompt answer]⟩) := by
          rw [sign_recording, answered]
        have listed : ∃ comment, (request.keyBlob, comment) ∈ keys := by
          obtain ⟨⟨key, comment⟩, member, same⟩ := List.any_eq_true.mp advertised
          exact ⟨comment, of_decide_eq_true same ▸ member⟩
        have signs : session.sign request prompt = match answer.bind fun raw => (Ssh.encodeSignature raw).toOption with
            | none => (sshFailure, { session with backend := ⟨later, session.backend.deeds ++ [.listed keys] ++
                [.asked request.keyBlob request.data prompt answer]⟩ })
            | some blob => (signResponse blob, { session with
                backend := ⟨later, session.backend.deeds ++ [.listed keys] ++
                  [.asked request.keyBlob request.data prompt answer]⟩
                policy := match prompt.destination with
                  | some destination => session.policy.remember destination
                  | none => session.policy }) := by
          unfold sign
          rw [first]
          dsimp only
          rw [if_pos advertised, second]
        right
        refine ⟨request, prompt, answer, keys, parsed, admitted, listed, ?_, ?_⟩
        · refine news_of_deeds ?_
          rw [result, signs]
          split
          · exact List.append_assoc _ _ _
          · exact List.append_assoc _ _ _
        · rcases encoded : answer.bind fun raw => (Ssh.encodeSignature raw).toOption with _ | blob
          · refine Or.inl ⟨by rw [result, signs, encoded], fun blob => ?_⟩
            rw [result, signs, encoded]
            exact framed_ne_signResponse (by decide)
          · obtain ⟨raw, given, spelled⟩ := Option.bind_eq_some_iff.mp encoded
            refine Or.inr ⟨raw, blob, given, except_toOption_eq_some.mp spelled, ?_, ?_⟩
            · rw [result, signs, encoded]
            · rw [result, signs, encoded]
      · have signs : session.sign request prompt =
            (sshFailure, { session with backend := ⟨backend, session.backend.deeds ++ [.listed keys]⟩ }) := by
          unfold sign
          rw [first]
          dsimp only
          rw [if_neg advertised]
        have listed : session.news body = [.listed keys] := news_of_deeds (by rw [result, signs])
        refine Or.inl ⟨fun deed member => ?_, by rw [result, signs], fun blob => ?_⟩
        · rw [listed] at member
          exact ⟨_, List.mem_singleton.mp member⟩
        · rw [result, signs]
          exact framed_ne_signResponse (by decide)
    · exact Or.inl (refused (by rw [handle, parsed]; dsimp only; rw [admitted]))
  · have result : session.handle body = (sshSuccess, { session with bind := some bind }) := by rw [handle, parsed]
    have nothing : session.news body = [] := news_of_deeds (by rw [result, List.append_nil])
    refine Or.inl ⟨fun deed member => ?_, by rw [result], fun blob => ?_⟩
    · rw [nothing] at member
      cases member
    · rw [result]
      exact framed_ne_signResponse (by decide)
  · exact Or.inl (refused (by rw [handle, parsed]))

/-- A message changes nothing of what the policy allows. -/
theorem handle_policy (session : SshSession (Recording β)) (body : Bytes) :
    (session.handle body).2.policy.forwardable = session.policy.forwardable ∧
      (session.handle body).2.policy.restrictedTo = session.policy.restrictedTo := by
  rcases session.handle_cases body with quiet | ⟨request, prompt, answer, keys, asks⟩
  · rw [quiet.policy]
    exact ⟨rfl, rfl⟩
  · rcases asks.ends with ⟨same, _⟩ | ⟨_, _, _, _, _, remembers⟩
    · rw [same]
      exact ⟨rfl, rfl⟩
    · rw [remembers]
      cases prompt.destination with
      | none => exact ⟨rfl, rfl⟩
      | some destination => exact ⟨rfl, rfl⟩

theorem run_policy (session : SshSession (Recording β)) (bodies : List Bytes) :
    (session.run bodies).policy.forwardable = session.policy.forwardable ∧
      (session.run bodies).policy.restrictedTo = session.policy.restrictedTo := by
  induction bodies generalizing session with
  | nil => exact ⟨rfl, rfl⟩
  | cons body bodies ih =>
    have step := session.handle_policy body
    have rest := ih (session.handle body).2
    exact ⟨rest.1.trans step.1, rest.2.trans step.2⟩

/-- The binds a connection has announced. -/
def announced (bodies : List Bytes) : List SessionBind :=
  bodies.filterMap fun body => match SshRequest.parse body with
    | .sessionBind bind => some bind
    | _ => none

/-- The connection is bound as it was last. -/
theorem run_bind (session : SshSession (Recording β)) (bodies : List Bytes) :
    (session.run bodies).bind = (announced bodies).getLast?.or session.bind := by
  induction bodies generalizing session with
  | nil => rfl
  | cons body bodies ih =>
    have rest := ih (session.handle body).2
    rw [handle_bind] at rest
    change ((session.handle body).2.run bodies).bind = _
    rw [rest]
    unfold announced
    rcases parsed : SshRequest.parse body with _ | request | bind | _
    · rw [List.filterMap_cons_none (by rw [parsed])]
    · rw [List.filterMap_cons_none (by rw [parsed])]
    · rw [List.filterMap_cons_some (by rw [parsed]), List.getLast?_cons]
      generalize List.getLast? _ = last
      cases last <;> rfl
    · rw [List.filterMap_cons_none (by rw [parsed])]

/-- Over a message the phone is asked only for what can be described, may be signed for and is advertised, a signature comes
of the phone's alone, and a destination becomes known by one. -/
structure Guarded (policy : SshPolicy) (session : SshSession (Recording β)) (body : Bytes) : Prop where
  described : ∀ keyBlob data prompt answer, .asked keyBlob data prompt answer ∈ session.news body →
    ∃ request context, SshRequest.parse body = .sign request ∧ request.keyBlob = keyBlob ∧ request.data = data ∧
      request.describe = some context ∧ context.user ≠ ""
  admitted : ∀ keyBlob data prompt answer, .asked keyBlob data prompt answer ∈ session.news body →
    policy.restrictedTo ≠ ∅ → ∃ bind, session.bind = some bind ∧ fingerprint bind.hostKey ∈ policy.restrictedTo
  advertised : ∀ keyBlob data prompt answer, .asked keyBlob data prompt answer ∈ session.news body →
    ∃ keys comment, .listed keys ∈ session.news body ∧ (keyBlob, comment) ∈ keys
  signed : ∀ blob, (session.handle body).1 = signResponse blob → ∃ keyBlob data prompt raw own,
    .asked keyBlob data prompt (some raw) ∈ session.news body ∧ Ssh.encodeSignature raw = .ok own ∧
      (session.handle body).1 = signResponse own
  known : ∀ destination ∈ (session.handle body).2.policy.known, destination ∉ session.policy.known →
    (∃ blob, (session.handle body).1 = signResponse blob) ∧ ∃ bind, session.bind = some bind ∧
      fingerprint bind.hostKey = destination

/-- The phone is asked over a message only if every forwarding announced so far is allowed. -/
def StaysForwarded (policy : SshPolicy) (earlier : List Bytes) (session : SshSession (Recording β)) (body : Bytes) : Prop :=
  (∃ keyBlob data prompt answer, .asked keyBlob data prompt answer ∈ session.news body) →
    ∀ bind ∈ announced earlier, bind.forwarding = true → fingerprint bind.hostKey ∈ policy.forwardable

/-- The bind announces forwarding to a destination it is not allowed to. -/
def Bars (policy : SshPolicy) (bind : SessionBind) : Prop :=
  bind.forwarding = true ∧ fingerprint bind.hostKey ∉ policy.forwardable

theorem Asks.news_asked {session : SshSession (Recording β)} {body : Bytes} {request : SignRequest} {prompt : SshPrompt}
    {answer : Option Bytes} {keys : List (Bytes × String)} (asks : session.Asks body request prompt answer keys)
    {keyBlob data : Bytes} {shown : SshPrompt} {given : Option Bytes}
    (member : .asked keyBlob data shown given ∈ session.news body) :
    keyBlob = request.keyBlob ∧ data = request.data ∧ shown = prompt ∧ given = answer := by
  rw [asks.news, List.mem_pair] at member
  rcases member with never | same
  · cases never
  · cases same
    exact ⟨rfl, rfl, rfl, rfl⟩

theorem Quiet.not_asked {session : SshSession (Recording β)} {body : Bytes} (quiet : session.Quiet body)
    {keyBlob data : Bytes} {prompt : SshPrompt} {answer : Option Bytes} :
    .asked keyBlob data prompt answer ∉ session.news body := by
  intro member
  obtain ⟨_, never⟩ := quiet.news _ member
  cases never

theorem guarded (session : SshSession (Recording β)) (body : Bytes) : session.Guarded session.policy body := by
  rcases session.handle_cases body with quiet | ⟨request, prompt, answer, keys, asks⟩
  · exact {
      described := fun _ _ _ _ member => absurd member quiet.not_asked
      admitted := fun _ _ _ _ member => absurd member quiet.not_asked
      advertised := fun _ _ _ _ member => absurd member quiet.not_asked
      signed := fun blob replied => absurd replied (quiet.reply blob)
      known := fun destination now before => absurd (quiet.policy ▸ now) before
    }
  · obtain ⟨⟨context, described, named⟩, destination, restricted, _⟩ := SshPolicy.decide_eq_ask asks.admitted
    have asked : .asked request.keyBlob request.data prompt answer ∈ session.news body := by
      rw [asks.news]
      exact List.mem_cons_of_mem _ List.mem_cons_self
    refine ⟨?_, ?_, ?_, ?_, ?_⟩
    · intro keyBlob data shown given member
      obtain ⟨rfl, rfl, _, _⟩ := asks.news_asked member
      exact ⟨request, context, asks.parsed, rfl, rfl, described, named⟩
    · exact fun _ _ _ _ _ => restricted
    · intro keyBlob data shown given member
      obtain ⟨rfl, _, _, _⟩ := asks.news_asked member
      obtain ⟨comment, listed⟩ := asks.listed
      refine ⟨keys, comment, ?_, listed⟩
      rw [asks.news]
      exact List.mem_cons_self
    · intro blob replied
      rcases asks.ends with ⟨_, never⟩ | ⟨raw, own, given, encoded, reply, _⟩
      · exact absurd replied (never blob)
      · exact ⟨request.keyBlob, request.data, prompt, raw, own, given ▸ asked, encoded, reply⟩
    · intro place now before
      rcases asks.ends with ⟨same, _⟩ | ⟨raw, blob, _, _, replied, remembers⟩
      · exact absurd (same ▸ now) before
      · refine ⟨⟨blob, replied⟩, ?_⟩
        rw [remembers, destination] at now
        cases bound : session.bind with
        | none =>
          rw [bound] at now
          exact absurd now before
        | some bind =>
          rw [bound] at now
          refine ⟨bind, rfl, ?_⟩
          rcases Finset.mem_insert.mp now with same | old
          · exact same.symm
          · exact absurd old before

/-- The bars on one connection, once there, are there for good: as long as none of its binds lifts one. -/
theorem barred_last {policy : SshPolicy} {binds : List SessionBind}
    (kept : binds.IsChain fun bind next => Bars policy bind → Bars policy next) {bind last : SessionBind}
    (member : bind ∈ binds) (latest : binds.getLast? = some last) (bars : Bars policy bind) : Bars policy last := by
  induction binds generalizing bind with
  | nil => cases member
  | cons first binds ih =>
    cases binds with
    | nil =>
      rw [List.getLast?_singleton, Option.some.injEq] at latest
      rw [← latest, ← List.mem_singleton.mp member]
      exact bars
    | cons second binds =>
      rw [List.isChain_cons_cons] at kept
      rw [List.getLast?_cons_cons] at latest
      rcases List.mem_cons.mp member with rfl | later
      · exact ih kept.2 List.mem_cons_self latest (kept.1 bars)
      · exact ih kept.2 later latest bars

/-- Over every connection: each message is guarded, and where no bind replaces one that announces forwarding to a
destination it is not allowed to by one that does not, forwarded agents stay forwarded. -/
theorem forwarded_agents_stay_forwarded (policy : SshPolicy) (backend : β) (bodies : List Bytes) :
    let start : SshSession (Recording β) := SshSession.new ⟨backend, []⟩ policy
    (∀ earlier body later, bodies = earlier ++ body :: later → (start.run earlier).Guarded policy body) ∧
      ((announced bodies).IsChain (fun bind next => Bars policy bind → Bars policy next) →
        ∀ earlier body later, bodies = earlier ++ body :: later → StaysForwarded policy earlier (start.run earlier) body) := by
  intro start
  have same (earlier : List Bytes) := start.run_policy earlier
  constructor
  · intro earlier body _ _
    have own := (start.run earlier).guarded body
    exact { own with
      admitted := fun keyBlob data prompt answer member restricted => by
        have within := own.admitted keyBlob data prompt answer member
        rw [(same earlier).2] at within
        exact within restricted
    }
  · rintro kept earlier body later rfl ⟨keyBlob, data, prompt, answer, member⟩ bind announcedBind forwarding
    rcases (start.run earlier).handle_cases body with quiet | ⟨request, shown, given, keys, asks⟩
    · exact absurd member quiet.not_asked
    · have earlierKept : (announced earlier).IsChain fun bind next => Bars policy bind → Bars policy next := by
        unfold announced at kept ⊢
        rw [List.filterMap_append] at kept
        exact kept.left_of_append
      obtain ⟨_, _, _, allowed⟩ := SshPolicy.decide_eq_ask asks.admitted
      rw [run_bind, (same earlier).1] at allowed
      by_contra barred
      rcases latest : (announced earlier).getLast? with _ | last
      · rw [List.getLast?_eq_none_iff.mp latest] at announcedBind
        cases announcedBind
      · have bars := barred_last earlierKept announcedBind latest ⟨forwarding, barred⟩
        rw [latest] at allowed
        exact bars.2 (allowed last rfl bars.1)

end SshSession

end Handled

section Plain

/-- A phone that holds one key and approves whatever it is asked. -/
instance approving : SshBackend Unit where
  identities backend := ([([1], "phone")], backend)
  sign _ _ _ backend := (some (List.replicate 64 1), backend)

def bindBody (hostKey : Bytes) (forwarding : UInt8) : Bytes :=
  sshAgentcExtension :: Ssh.text sessionBindName ++ Ssh.string hostKey ++ Ssh.string [] ++ Ssh.string [] ++ [forwarding]

def loginData : Bytes :=
  Ssh.string [9] ++ [50] ++ Ssh.text "root" ++ Ssh.text "ssh-connection" ++ Ssh.text "publickey"

/-- `root` asks to log in with a key. -/
def loginBody (keyBlob : Bytes) : Bytes :=
  sshAgentcSignRequest :: Ssh.string keyBlob ++ Ssh.string loginData ++ Ssh.uint32 0

abbrev openPolicy : SshPolicy := ⟨∅, ∅, ∅⟩

abbrev plainConnection : SshSession (Recording Unit) := SshSession.new ⟨(), []⟩ openPolicy

/-- A local connection that is bound anew, and signs. -/
theorem forwarded_agents_stay_forwarded_plain :
    letI := Crypto.plain
    (plainConnection.run [bindBody [8] 0, bindBody [7] 0]).Guarded openPolicy (loginBody [1]) ∧
      SshSession.StaysForwarded openPolicy [bindBody [8] 0, bindBody [7] 0]
        (plainConnection.run [bindBody [8] 0, bindBody [7] 0]) (loginBody [1]) ∧
      ((plainConnection.run [bindBody [8] 0, bindBody [7] 0]).handle (loginBody [1])).1 ≠ sshFailure := by
  let := Crypto.plain
  have binds : SshSession.announced [bindBody [8] 0, bindBody [7] 0, loginBody [1]] = [⟨[8], false⟩, ⟨[7], false⟩] := by
    decide +kernel
  have kept := SshSession.forwarded_agents_stay_forwarded openPolicy () [bindBody [8] 0, bindBody [7] 0, loginBody [1]]
  refine ⟨kept.1 [bindBody [8] 0, bindBody [7] 0] (loginBody [1]) [] rfl, ?_, by decide +kernel⟩
  refine kept.2 ?_ [bindBody [8] 0, bindBody [7] 0] (loginBody [1]) [] rfl
  rw [binds]
  exact List.isChain_pair.mpr fun bars => absurd bars.1 Bool.false_ne_true

/-- The remote host of a forwarded connection binds it anew, as a local one, and gets its signature. -/
theorem forwarding_forgotten :
    letI := Crypto.plain
    ¬SshSession.StaysForwarded openPolicy [bindBody [7] 1, bindBody [8] 0]
        (plainConnection.run [bindBody [7] 1, bindBody [8] 0]) (loginBody [1]) := by
  let := Crypto.plain
  intro stays
  have binds : SshSession.announced [bindBody [7] 1, bindBody [8] 0] = [⟨[7], true⟩, ⟨[8], false⟩] := by decide +kernel
  have asked : (plainConnection.run [bindBody [7] 1, bindBody [8] 0]).news (loginBody [1]) = [.listed [([1], "phone")],
      .asked [1] loginData ⟨"root", some (fingerprint [8]), false, true⟩ (some (List.replicate 64 1))] := by decide +kernel
  have allowed := stays ⟨[1], loginData, ⟨"root", some (fingerprint [8]), false, true⟩, some (List.replicate 64 1), by
    rw [asked]
    exact List.mem_cons_of_mem _ List.mem_cons_self⟩ ⟨[7], true⟩ (by rw [binds]; exact List.mem_cons_self) rfl
  exact absurd allowed (Finset.notMem_empty _)

end Plain

end BioAuth.Agent
