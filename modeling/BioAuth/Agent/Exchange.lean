import BioAuth.Locker.Format
import BioAuth.Protocol.Encoding
import BioAuth.Protocol.Messages
import BioAuth.Session.NetworkSession

namespace BioAuth

/-- The text of an error, as it is displayed. -/
def Protocol.ProtocolError.message : Protocol.ProtocolError → String
  | .cbor error => error.message
  | .frameSize size => s!"invalid frame size: {size} bytes"
  | .frameShape expected actual => s!"expected a {expected}-element frame, got {actual}"
  | .unsupportedVersion version => s!"unsupported protocol version: {version}"
  | .unexpectedMessageType kind => s!"unexpected message type: {kind}"
  | .fieldEmpty field => "field `" ++ field ++ "` is empty"
  | .fieldTooLong field max actual => "field `" ++ field ++ s!"` is {actual} units, maximum is {max}"
  | .fieldLength field expected actual => "field `" ++ field ++ s!"` must be {expected} bytes, got {actual}"
  | .validityWindow => "invalid request validity window"
  | .notCanonical => "frame is not canonical CBOR"
  | .invalidDecision value => s!"invalid authorization decision: {value}"
  | .missingProof => "authorized response carried no algorithm or signature"
  | .invalidKeyKind value => s!"invalid key kind: {value}"
  | .invalidPurpose value => s!"invalid credential purpose: {value}"
  | .invalidApplicationKind value => s!"invalid application frame kind: {value}"
  | .invalidApplicationError value => s!"invalid application error code: {value}"
  | .invalidOperation => "invalid application operation"
  | .payloadSize size => s!"invalid application payload size: {size}"
  | .invalidItemKind kind => s!"unknown vault item kind: {kind}"
  | .invalidRevision => "vault revision must start at one"
  | .invalidReservedField value => s!"reserved field must be zero, got {value}"
  | .unexpectedEnd => "input ended inside a length-prefixed field"
  | .invalidText field => "field `" ++ field ++ "` is not UTF-8"

namespace Agent
open BioAuth
open BioAuth.Locker (LockerError)
open BioAuth.Protocol (ApplicationErrorCode ApplicationFrame ProtocolError protocolVersion sessionBindingLen toHex
  toHex_injective)
open BioAuth.Session (IoError NetworkSession)

/-- What a transport claims about its channel. -/
structure TransportSecurity where
  confidential : Bool
  peerAuthenticated : Bool

def TransportSecurity.suitableForAuthorization (security : TransportSecurity) : Bool :=
  security.confidential && security.peerAuthenticated

/-- An established channel to a phone, whatever moves its frames. -/
class SecureSession (σ : Type) where
  sessionBinding : σ → Block sessionBindingLen
  security : σ → TransportSecurity
  send : Bytes → Fallible σ IoError Unit
  receive : Nat → Fallible σ IoError Bytes

instance [Crypto] : SecureSession NetworkSession where
  sessionBinding session := session.channel.binding
  security _ := ⟨true, true⟩
  send := NetworkSession.send
  receive := NetworkSession.receive

inductive VaultError
  | declined
  | unavailable
  | protocol (reason : String)
  deriving DecidableEq

/-- How long a request stays valid. -/
def validityMs : Int64 := 120_000

/-- `ANSWER_TRAVEL_MARGIN`, in milliseconds. -/
def answerTravelMargin : Nat := 15_000

/-- What one exchange draws from the platform: the octets of the request's id, and the clock when the request is made
and when an answer has come. -/
structure Draws where
  requestId : Block 16
  sentAt : Int64
  answeredAt : Int64

/-- The frame of one request. -/
def applicationRequest (sessionBinding : Block sessionBindingLen) (draws : Draws) (operation : String)
    (payload : Bytes) : ApplicationFrame where
  protocolVersion := protocolVersion
  kind := .request
  requestId := toHex draws.requestId.val
  sessionBinding := sessionBinding
  operation := operation
  issuedAtMs := draws.sentAt
  expiresAtMs := draws.sentAt + validityMs
  payload := payload

/-- What a client makes of each way an exchange can fail. -/
structure Refusals (ε : Type) where
  unsuitable : ε
  invalid : ProtocolError → ε
  unsent : IoError → ε
  unheard : IoError → ε
  unread : ProtocolError → ε
  different : ε
  /-- An answer that is an error, by its payload. -/
  declined : Bytes → ε

section Exchange
variable {σ ε : Type} [SecureSession σ]

/-- Sends one frame and takes the payload of the reply that answers it. -/
def exchangeWith (refused : Refusals ε) (timeout : Nat) (draws : Draws) (operation : String) (payload : Bytes) :
    Fallible σ ε Bytes := do
  let session ← get
  require ((SecureSession.security session).suitableForAuthorization = true) refused.unsuitable
  let request := applicationRequest (SecureSession.sessionBinding session) draws operation payload
  request.validate.mapError refused.invalid
  (SecureSession.send request.encode).mapError refused.unsent
  let raw ← (SecureSession.receive timeout).mapError refused.unheard
  let reply ← (ApplicationFrame.decode raw).mapError refused.unread
  require (reply.isReplyTo request draws.answeredAt = true) refused.different
  require (reply.kind ≠ .error) (refused.declined reply.payload)
  return reply.payload

/-- An error that does not decode is still an error. -/
def vaultDeclined (payload : Bytes) : VaultError :=
  match ApplicationErrorCode.decode payload with
  | .ok .rejected => .declined
  | .ok .unavailable => .unavailable
  | .ok .invalidRequest => .protocol "the phone rejected the request as malformed"
  | .error _ => .declined

def vaultRefusals : Refusals VaultError where
  unsuitable := .protocol "the vault needs an authenticated confidential session"
  invalid error := .protocol error.message
  unsent _ := .unavailable
  unheard _ := .unavailable
  unread error := .protocol error.message
  different := .protocol "the phone answered a different request"
  declined := vaultDeclined

/-- `RECEIVE_TIMEOUT` of the vault and of the locker: as long as the request is valid, and the way back. -/
def answerTimeout : Nat := 120_000 + answerTravelMargin

/-- `PhoneVault::exchange`. -/
def PhoneVault.exchange : Draws → String → Bytes → Fallible σ VaultError Bytes :=
  exchangeWith vaultRefusals answerTimeout

def lockerRefusals : Refusals LockerError where
  unsuitable := .denied "the locker needs an authenticated confidential session"
  invalid error := .denied error.message
  unsent error := .denied error.message
  unheard error := .denied error.message
  unread error := .denied error.message
  different := .denied "the phone answered a different request"
  declined _ := .denied "the phone declined the locker request"

/-- `PhoneCustodian::exchange_on`. -/
def PhoneCustodian.exchangeOn : Draws → String → Bytes → Fallible σ LockerError Bytes :=
  exchangeWith lockerRefusals answerTimeout

def permissionsDeclined (payload : Bytes) : VaultError :=
  match ApplicationErrorCode.decode payload with
  | .ok .unavailable => .unavailable
  | _ => .declined

def permissionsRefusals : Refusals VaultError where
  unsuitable := .protocol "permissions need an authenticated confidential session"
  invalid error := .protocol error.message
  unsent _ := .unavailable
  unheard _ := .unavailable
  unread error := .protocol error.message
  different := .protocol "the phone answered a different request"
  declined := permissionsDeclined

/-- `PhonePermissions::exchange`. It looks at the kind of the answer once more. -/
def PhonePermissions.exchange (draws : Draws) (operation : String) (payload : Bytes) : Fallible σ VaultError Bytes := do
  let session ← get
  require ((SecureSession.security session).suitableForAuthorization = true) permissionsRefusals.unsuitable
  let request := applicationRequest (SecureSession.sessionBinding session) draws operation payload
  request.validate.mapError permissionsRefusals.invalid
  (SecureSession.send request.encode).mapError permissionsRefusals.unsent
  let raw ← (SecureSession.receive 120_000).mapError permissionsRefusals.unheard
  let reply ← (ApplicationFrame.decode raw).mapError permissionsRefusals.unread
  require (reply.isReplyTo request draws.answeredAt = true) permissionsRefusals.different
  require (reply.kind ≠ .error) (permissionsRefusals.declined reply.payload)
  require (reply.kind = .response) (VaultError.protocol "the phone sent an unexpected frame")
  return reply.payload

/-- The sent request, and the frame that was received next. -/
structure Heard (timeout : Nat) (request : ApplicationFrame) (before : σ) (reply : ApplicationFrame) (after : σ) :
    Prop where
  taken : ∃ sent raw, SecureSession.send request.encode before = (.ok (), sent) ∧
    SecureSession.receive timeout sent = (.ok raw, after) ∧ ApplicationFrame.decode raw = .ok reply

/-- A frame is the answer to a request, in time. -/
structure Answers (reply request : ApplicationFrame) (now : Int64) : Prop where
  kind : reply.kind = .response
  requestId : reply.requestId = request.requestId
  sessionBinding : reply.sessionBinding = request.sessionBinding
  operation : reply.operation = request.operation
  issuedAtMs : reply.issuedAtMs = request.issuedAtMs
  expiresAtMs : reply.expiresAtMs = request.expiresAtMs
  live : now < request.expiresAtMs

omit [SecureSession σ] in
theorem answers_iff {reply request : ApplicationFrame} {now : Int64} (asked : request.kind = .request) :
    Answers reply request now ↔ reply.isReplyTo request now = true ∧ reply.kind ≠ .error := by
  simp only [ApplicationFrame.isReplyTo, ApplicationFrame.isExpiredAt, Bool.and_eq_true, Bool.or_eq_true,
    decide_eq_true_eq, Bool.not_eq_true', decide_eq_false_iff_not]
  constructor
  · intro answers
    have live : ¬reply.expiresAtMs ≤ now := by
      rw [answers.expiresAtMs]
      exact Int64.not_le.mpr answers.live
    refine ⟨⟨⟨⟨⟨⟨⟨⟨asked, Or.inl answers.kind⟩, answers.requestId⟩, answers.sessionBinding⟩, answers.operation⟩,
      answers.issuedAtMs⟩, answers.expiresAtMs⟩, live⟩, ?_⟩
    rw [answers.kind]
    decide
  · intro ⟨⟨⟨⟨⟨⟨⟨⟨_, kind⟩, requestId⟩, sessionBinding⟩, operation⟩, issuedAtMs⟩, expiresAtMs⟩, live⟩, noError⟩
    rw [expiresAtMs] at live
    exact ⟨kind.resolve_right noError, requestId, sessionBinding, operation, issuedAtMs, expiresAtMs,
      Int64.not_le.mp live⟩

/-- Everything an exchange that succeeds has done. -/
theorem exchangeWith_eq_ok {refused : Refusals ε} {timeout : Nat} {draws : Draws} {operation : String}
    {payload answer : Bytes} {before after : σ} :
    exchangeWith refused timeout draws operation payload before = (.ok answer, after) ↔
      (SecureSession.security before).suitableForAuthorization = true ∧
        (applicationRequest (SecureSession.sessionBinding before) draws operation payload).validate = .ok () ∧
        ∃ reply, Heard timeout (applicationRequest (SecureSession.sessionBinding before) draws operation payload)
            before reply after ∧
          Answers reply (applicationRequest (SecureSession.sessionBinding before) draws operation payload)
            draws.answeredAt ∧
          reply.payload = answer := by
  unfold exchangeWith
  rw [Fallible.bind_run_ok _ (Fallible.get_run before)]
  rw [Fallible.require_bind_eq_ok, Fallible.liftM_bind_eq_ok]
  refine and_congr_right fun _ => ?_
  constructor
  · intro ⟨_, valid, run⟩
    obtain ⟨_, sent, sending, run⟩ := Fallible.bind_eq_ok.mp run
    obtain ⟨raw, taken, receiving, run⟩ := Fallible.bind_eq_ok.mp run
    obtain ⟨reply, decoded, run⟩ := Fallible.liftM_bind_eq_ok.mp run
    obtain ⟨mine, run⟩ := Fallible.require_bind_eq_ok.mp run
    obtain ⟨noError, run⟩ := Fallible.require_bind_eq_ok.mp run
    obtain ⟨same, rfl⟩ := Fallible.pure_eq_ok.mp run
    refine ⟨except_mapError_eq_ok.mp valid, reply, ⟨sent, raw, ?_, ?_, except_mapError_eq_ok.mp decoded⟩, ?_, same⟩
    · exact Fallible.mapError_eq_ok.mp sending
    · exact Fallible.mapError_eq_ok.mp receiving
    · exact (answers_iff rfl).mpr ⟨mine, noError⟩
  · intro ⟨valid, reply, ⟨sent, raw, sending, receiving, decoded⟩, answers, same⟩
    obtain ⟨mine, noError⟩ := (answers_iff rfl).mp answers
    refine ⟨(), except_mapError_eq_ok.mpr valid, ?_⟩
    refine Fallible.bind_eq_ok.mpr ⟨(), sent, Fallible.mapError_eq_ok.mpr sending, ?_⟩
    refine Fallible.bind_eq_ok.mpr ⟨raw, after, Fallible.mapError_eq_ok.mpr receiving, ?_⟩
    refine Fallible.liftM_bind_eq_ok.mpr ⟨reply, except_mapError_eq_ok.mpr decoded, ?_⟩
    refine Fallible.require_bind_eq_ok.mpr ⟨mine, Fallible.require_bind_eq_ok.mpr ⟨noError, ?_⟩⟩
    exact Fallible.pure_eq_ok.mpr ⟨same, rfl⟩

/-- How far an exchange gets, however it ends: it sends nothing, or it sends its request and may take one answer. -/
theorem exchangeWith_after (refused : Refusals ε) (timeout : Nat) (draws : Draws) (operation : String) (payload : Bytes)
    (before : σ) :
    let request := applicationRequest (SecureSession.sessionBinding before) draws operation payload
    (exchangeWith refused timeout draws operation payload before).2 = before ∨
      request.validate = .ok () ∧
        ((exchangeWith refused timeout draws operation payload before).2 =
            (SecureSession.send request.encode before).2 ∨
          (exchangeWith refused timeout draws operation payload before).2 =
            (SecureSession.receive timeout (SecureSession.send request.encode before).2).2) := by
  intro request
  let sent := (SecureSession.send request.encode before).2
  let taken := (SecureSession.receive timeout sent).2
  let holds (after : σ) : Prop := after = before ∨ request.validate = .ok () ∧ (after = sent ∨ after = taken)
  suffices ends : (exchangeWith refused timeout draws operation payload).Ends (fun _ => holds) (fun _ => holds) before from
    ends.state
  refine Fallible.Ends.bind_of_run (Fallible.get_run before) ?_
  refine .require_bind (fun _ => Or.inl rfl) fun _ => .liftM_bind (fun _ _ => Or.inl rfl) fun _ checked => ?_
  have valid : request.validate = .ok () := except_mapError_eq_ok.mp checked
  have atSent : holds sent := Or.inr ⟨valid, Or.inl rfl⟩
  have atTaken : holds taken := Or.inr ⟨valid, Or.inr rfl⟩
  refine .bind (fun _ after => after = sent) (Fallible.ends_mapError.mpr ((Fallible.ends_self _).mono ?_ ?_)) ?_
  · exact fun _ _ same => same
  · intro _ after same
    rw [same]
    exact atSent
  · intro _ after same
    rw [same]
    refine .bind (fun _ after => after = taken) (Fallible.ends_mapError.mpr ((Fallible.ends_self _).mono ?_ ?_)) ?_
    · exact fun _ _ same => same
    · intro _ after same
      rw [same]
      exact atTaken
    · intro raw after same
      rw [same]
      refine .liftM_bind (fun _ _ => atTaken) fun reply _ => ?_
      exact .require_bind (fun _ => atTaken) fun _ => .require_bind (fun _ => atTaken) fun _ => atTaken

/-- The kind of an answer that is no error is known by then. -/
theorem PhonePermissions.exchange_eq (draws : Draws) (operation : String) (payload : Bytes) :
    (PhonePermissions.exchange draws operation payload : Fallible σ VaultError Bytes) =
      exchangeWith permissionsRefusals 120_000 draws operation payload := by
  unfold PhonePermissions.exchange exchangeWith
  refine bind_congr fun session => bind_congr fun _ => ?_
  refine bind_congr fun _ => bind_congr fun _ => bind_congr fun raw => bind_congr fun reply => ?_
  by_cases mine : reply.isReplyTo (applicationRequest (SecureSession.sessionBinding session) draws operation payload)
      draws.answeredAt = true
  · refine bind_congr fun _ => ?_
    by_cases noError : reply.kind ≠ .error
    · have kind := ((answers_iff rfl).mpr ⟨mine, noError⟩).kind
      refine bind_congr fun _ => ?_
      rw [require, if_pos kind]
      rfl
    · rw [require, if_neg noError]
      rfl
  · rw [require, if_neg mine]
    rfl

end Exchange

/-- The three clients that put requests to a phone. -/
inductive Client
  | vault
  | custodian
  | permissions

/-- One request put to a phone, on one of the sessions there are. -/
structure Call where
  client : Client
  session : Nat
  draws : Draws
  operation : String
  payload : Bytes

/-- One client after the other, on sessions that their peers fill with any records they like. -/
abbrev Desk (σ : Type) := Nat → σ

section Calls
variable {σ : Type} [SecureSession σ]

namespace Call

def timeout (call : Call) : Nat :=
  match call.client with
  | .vault | .custodian => answerTimeout
  | .permissions => 120_000

/-- What the call returns, if it returns a payload, and the session behind it. -/
def exchange (call : Call) (session : σ) : Option Bytes × σ :=
  match call.client with
  | .vault =>
    let result := PhoneVault.exchange call.draws call.operation call.payload session
    (result.1.toOption, result.2)
  | .custodian =>
    let result := PhoneCustodian.exchangeOn call.draws call.operation call.payload session
    (result.1.toOption, result.2)
  | .permissions =>
    let result := PhonePermissions.exchange call.draws call.operation call.payload session
    (result.1.toOption, result.2)

/-- The request that the call sends. -/
def request (call : Call) (session : σ) : ApplicationFrame :=
  applicationRequest (SecureSession.sessionBinding session) call.draws call.operation call.payload

def after (sessions : Desk σ) (call : Call) : Desk σ :=
  Function.update sessions call.session (call.exchange (sessions call.session)).2

/-- The call sent its request, took the reply next, and returns what that brought it. -/
structure AnsweredBy (call : Call) (session : σ) (answer : Bytes) (reply : ApplicationFrame) : Prop where
  heard : ∃ after, Heard call.timeout (call.request session) session reply after
  answers : Answers reply (call.request session) call.draws.answeredAt
  payload : reply.payload = answer

theorem answeredBy_of_exchange {call : Call} {session : σ} {answer : Bytes}
    (returned : (call.exchange session).1 = some answer) : ∃ reply, call.AnsweredBy session answer reply := by
  have common {ε : Type} {refused : Refusals ε} {timeout : Nat} (same : timeout = call.timeout)
      (run : (exchangeWith refused timeout call.draws call.operation call.payload session).1.toOption = some answer) :
      ∃ reply, call.AnsweredBy session answer reply := by
    rcases outcome : exchangeWith refused timeout call.draws call.operation call.payload session with ⟨error | taken, after⟩
    · rw [outcome] at run
      cases run
    · rw [outcome] at run
      cases run
      obtain ⟨_, _, reply, heard, answers, payload⟩ := exchangeWith_eq_ok.mp outcome
      rw [same] at heard
      exact ⟨reply, ⟨after, heard⟩, answers, payload⟩
  unfold exchange at returned
  unfold timeout at common
  rcases client : call.client with _ | _ | _
  · rw [client] at returned common
    exact common rfl returned
  · rw [client] at returned common
    exact common rfl returned
  · rw [client] at returned common
    rw [PhonePermissions.exchange_eq] at returned
    exact common rfl returned

end Call

/-- The sessions after a run of calls. -/
def Desk.afterCalls (sessions : Desk σ) (calls : List Call) : Desk σ := calls.foldl Call.after sessions

/-- In every run a payload is that of a reply to the request of the very call, and no reply serves two calls. -/
theorem replies_answer_own_requests (sessions : Desk σ) (calls : List Call)
    (fresh : (calls.map fun call => call.draws.requestId).Nodup) :
    (∀ position (call : Call) answer, calls[position]? = some call →
      (call.exchange (sessions.afterCalls (calls.take position) call.session)).1 = some answer →
        ∃ reply, call.AnsweredBy (sessions.afterCalls (calls.take position) call.session) answer reply) ∧
    ∀ first second (call other : Call) answer another reply, calls[first]? = some call → calls[second]? = some other →
      call.AnsweredBy (sessions.afterCalls (calls.take first) call.session) answer reply →
      other.AnsweredBy (sessions.afterCalls (calls.take second) other.session) another reply → first = second := by
  refine ⟨fun position call answer _ returned => Call.answeredBy_of_exchange returned, ?_⟩
  intro first second call other answer another reply here there answered again
  have ids : toHex call.draws.requestId.val = toHex other.draws.requestId.val :=
    answered.answers.requestId.symm.trans again.answers.requestId
  have drawn : call.draws.requestId = other.draws.requestId := Subtype.ext (toHex_injective ids)
  have bound : first < (calls.map fun call => call.draws.requestId).length := by
    rw [List.length_map]
    exact (List.getElem?_eq_some_iff.mp here).1
  refine (List.getElem?_inj bound fresh).mp ?_
  rw [List.getElem?_map, List.getElem?_map, here, there, Option.map_some, Option.map_some, drawn]

end Calls

/-- A session whose peer has queued its records. -/
structure Scripted where
  binding : Block sessionBindingLen
  queued : List Bytes

instance : SecureSession Scripted where
  sessionBinding session := session.binding
  security _ := ⟨true, true⟩
  send _ := pure ()
  receive _ session :=
    match session.queued with
    | [] => (.error ⟨.timedOut, "nothing was queued"⟩, session)
    | raw :: queued => (.ok raw, { session with queued })

def listCall : Call := ⟨.vault, 0, ⟨⟨List.replicate 16 1, rfl⟩, 1000, 2000⟩, "vault.list", [7]⟩

def syncCall : Call := ⟨.permissions, 1, ⟨⟨List.replicate 16 2, rfl⟩, 3000, 4000⟩, "permissions.sync", [8]⟩

/-- What a phone that answers a call sends back. -/
def scriptedReply (call : Call) (binding : Block sessionBindingLen) (payload : Bytes) : Bytes :=
  ApplicationFrame.encode { applicationRequest binding call.draws call.operation payload with kind := .response }

/-- The second session holds the answer of the first before its own, which comes too late. -/
def scriptedSessions : Desk Scripted := fun session =>
  let binding : Block sessionBindingLen := ⟨List.replicate 32 (UInt8.ofNat session), by simp [sessionBindingLen]⟩
  if session = 0 then ⟨binding, [scriptedReply listCall binding [1]]⟩
  else ⟨binding, [scriptedReply listCall binding [1], scriptedReply syncCall binding [2]]⟩

theorem replies_answer_own_requests_scripted :
    (syncCall.exchange (scriptedSessions 1)).1 = none ∧
      ∃ reply, listCall.AnsweredBy (scriptedSessions.afterCalls [] 0) [1] reply :=
  ⟨by decide +kernel,
    (replies_answer_own_requests scriptedSessions [listCall, syncCall] (by decide)).1 0 listCall [1] rfl
      (by decide +kernel)⟩

end Agent

end BioAuth
