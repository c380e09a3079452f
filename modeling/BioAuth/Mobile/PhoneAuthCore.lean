import BioAuth.Lib.Recent
import BioAuth.Mobile.Approvals
import BioAuth.Mobile.RequestAgreement

namespace BioAuth.Mobile
open BioAuth
open BioAuth.Protocol (AuthRequest)

/-- `isExpiredAt`: the boundary is inclusive. -/
def AuthenticationRequest.isExpiredAt (request : AuthenticationRequest) (now : Moment) : Bool :=
  !(now.val < request.expiresAt.microseconds)

structure AuthorizationProof where
  algorithm : String
  signature : Bytes
  deriving DecidableEq

inductive AuthorizationDecision
  | authorized
  | denied
  deriving DecidableEq

namespace AuthorizationDecision

def index : AuthorizationDecision → Int64
  | authorized => 0
  | denied => 1

end AuthorizationDecision

structure AuthResponse where
  protocolVersion : Int64
  requestId : String
  verifierId : String
  credentialId : String
  decision : AuthorizationDecision
  algorithm : String
  signature : Bytes
  deriving DecidableEq

namespace AuthResponse

/-- The checks of the constructor. -/
def make (response : AuthResponse) : Except Refusal AuthResponse := do
  require (¬(response.protocolVersion ≠ 1 ∨ response.requestId = "" ∨ response.verifierId = "" ∨
      response.credentialId = "" ∨
      (response.decision = .authorized ∧ (response.algorithm = "" ∨ response.signature = []))))
    (Refusal.formatException "invalid authorization response")
  return response

def denied (request : AuthenticationRequest) : Except Refusal AuthResponse :=
  make { protocolVersion := request.protocolVersion, requestId := request.requestId, verifierId := request.verifierId,
         credentialId := request.credentialId, decision := .denied, algorithm := "", signature := [] }

end AuthResponse

namespace PhoneAuthProtocolCodec

def encodeResponse (response : AuthResponse) : Except Refusal Bytes := do
  return [CborWriter.array 8, ← CborWriter.uint 2, ← CborWriter.uint response.protocolVersion,
    CborWriter.text response.requestId, CborWriter.text response.verifierId, CborWriter.text response.credentialId,
    ← CborWriter.uint response.decision.index, CborWriter.text response.algorithm,
    CborWriter.bytes response.signature].flatten

end PhoneAuthProtocolCodec

/-- One thing a verifier is allowed to ask for. -/
structure VerifierPermission where
  service : String
  action : String
  resource : String

namespace VerifierPermission

/-- `_matches`. -/
def fits (pattern value : String) : Bool := pattern = "*" || pattern = value

def allows (permission : VerifierPermission) (request : AuthenticationRequest) : Bool :=
  fits permission.service request.service && fits permission.action request.action &&
    fits permission.resource request.resource

end VerifierPermission

structure VerifierPolicy where
  verifierId : String
  credentialId : String
  purpose : String
  permissions : List VerifierPermission

def VerifierPolicy.allows (policy : VerifierPolicy) (request : AuthenticationRequest) : Bool :=
  request.verifierId = policy.verifierId && request.credentialId = policy.credentialId &&
    policy.permissions.any (·.allows request)

structure SecureTransportSession where
  originLabel : String
  sessionBinding : Bytes
  securityProperties : TransportSecurityProperties
  deriving DecidableEq

/-- What `serveFrame` throws before anyone is asked. -/
inductive ServeError
  | phoneAuthProtocolException (message : String)
  | thrown (thrown : Thrown)

/-- What a core remembers: the ids it has seen, and their order. -/
structure PhoneAuthCore where
  seenRequestIds : List String
  seenOrder : List String

namespace PhoneAuthCore

/-- How many ids a core remembers. -/
def seenLimit : Nat := 1024

/-- How far ahead of the phone's clock a request may be issued, in microseconds. -/
def skew : Int := 30_000_000

def empty : PhoneAuthCore := ⟨[], []⟩

/-- `_remember`. -/
def remember (requestId : String) (core : PhoneAuthCore) : PhoneAuthCore :=
  let seen := if requestId ∈ core.seenRequestIds then core.seenRequestIds else core.seenRequestIds ++ [requestId]
  let order := core.seenOrder ++ [requestId]
  if seenLimit < order.length then
    ⟨seen.filter fun id => order.head? ≠ some id, order.tail⟩
  else ⟨seen, order⟩

/-- What becomes of a frame before anyone is asked. -/
def receive (session : SecureTransportSession) (frame : Uint8List) (now : Moment) :
    Fallible PhoneAuthCore ServeError AuthenticationRequest := do
  let request ← (PhoneAuthProtocolCodec.decodeRequest session.originLabel frame).mapError ServeError.thrown
  require (¬(session.securityProperties.confidential = false ∨ session.securityProperties.peerAuthenticated = false))
    (ServeError.phoneAuthProtocolException
      "Sensitive authorization requires an authenticated confidential session")
  require (request.sessionBinding = session.sessionBinding)
    (ServeError.phoneAuthProtocolException "Session binding mismatch")
  require (now.val + skew ≤ 8640000000000000000) (ServeError.thrown .argumentError)
  require (¬(now.val + skew < request.issuedAt.microseconds ∨ request.isExpiredAt now = true))
    (ServeError.phoneAuthProtocolException "Request is outside its validity window")
  let core ← get
  require (request.requestId ∉ core.seenRequestIds) (ServeError.phoneAuthProtocolException "Request replay detected")
  set (core.remember request.requestId)
  return request

end PhoneAuthCore

/-- A frame a core serves, with the request in it and the time it came. -/
structure Serving where
  number : Nat
  session : SecureTransportSession
  frame : Uint8List
  request : AuthenticationRequest
  arrived : Moment
  deriving DecidableEq

/-- What a call of `serveFrame` waits for: the user's consent, or a proof over the octets it has given. -/
inductive Awaited
  | consent
  | proof (canonicalRequest : Bytes)

inductive Deed
  | remembered (serving : Serving)
  | asked (serving : Serving)
  | answered (serving : Serving) (approved : Bool) (now : Moment)
  | signing (serving : Serving) (canonicalRequest : Bytes) (purpose : String)
  | signed (serving : Serving) (proof : AuthorizationProof)
  | sent (serving : Serving) (response : AuthResponse) (frame : Bytes)
  deriving DecidableEq

/-- A core, the calls of `serveFrame` that wait, and all that has been done. -/
structure Phone where
  core : PhoneAuthCore
  waiting : List (Serving × Awaited)
  calls : Nat
  log : List Deed

/-- A frame comes on a session; the user answers, or the sheet throws; the key signs, or throws. -/
inductive Phone.Event
  | arrive (session : SecureTransportSession) (frame : Uint8List) (now : Moment)
  | answer (index : Nat) (approved : Option Bool) (now : Moment)
  | prove (index : Nat) (proof : Option AuthorizationProof)

namespace Phone

def start : Phone := ⟨.empty, [], 0, []⟩

def note (phone : Phone) (deed : Deed) : Phone := { phone with log := phone.log ++ [deed] }

def wait (phone : Phone) (serving : Serving) (awaited : Awaited) : Phone :=
  { phone with waiting := phone.waiting ++ [(serving, awaited)] }

/-- `await session.send(codec.encodeResponse(response))`. -/
def send (phone : Phone) (serving : Serving) (response : Except Refusal AuthResponse) : Phone :=
  match response with
  | .error _ => phone
  | .ok response =>
    match PhoneAuthProtocolCodec.encodeResponse response with
    | .error _ => phone
    | .ok frame => phone.note (.sent serving response frame)

/-- `AuthResponse.denied(request)`. -/
def deny (phone : Phone) (serving : Serving) : Phone := phone.send serving (AuthResponse.denied serving.request)

/-- What follows the user's consent. -/
def goOn (policy : VerifierPolicy) (serving : Serving) (now : Moment) (phone : Phone) : Phone :=
  if serving.request.isExpiredAt now then phone.deny serving
  else
    match PhoneAuthProtocolCodec.encodeRequest serving.request with
    | .error _ => phone.deny serving
    | .ok canonicalRequest =>
      (phone.note (.signing serving canonicalRequest policy.purpose)).wait serving (.proof canonicalRequest)

/-- What follows a proof. A response that its constructor refuses is caught like a proof that fails. -/
def conclude (serving : Serving) (proof : AuthorizationProof) (phone : Phone) : Phone :=
  match AuthResponse.make
      { protocolVersion := serving.request.protocolVersion, requestId := serving.request.requestId,
        verifierId := serving.request.verifierId, credentialId := serving.request.credentialId,
        decision := .authorized, algorithm := proof.algorithm, signature := proof.signature } with
  | .error _ => phone.deny serving
  | .ok response => (phone.note (.signed serving proof)).send serving (.ok response)

def after (policy : VerifierPolicy) (phone : Phone) : Event → Phone
  | .arrive session frame now =>
    match PhoneAuthCore.receive session frame now phone.core with
    | (.error _, core) => { phone with core }
    | (.ok request, core) =>
      let serving : Serving := { number := phone.calls, session, frame, request, arrived := now }
      let phone := { phone with core, calls := phone.calls + 1 }.note (.remembered serving)
      if policy.allows request then (phone.note (.asked serving)).wait serving .consent else phone.deny serving
  | .answer index approved now =>
    match phone.waiting[index]? with
    | some (serving, .consent) =>
      let phone := { phone with waiting := phone.waiting.eraseIdx index }
      match approved with
      | none => phone
      | some false => (phone.note (.answered serving false now)).deny serving
      | some true => (phone.note (.answered serving true now)).goOn policy serving now
    | _ => phone
  | .prove index proof =>
    match phone.waiting[index]? with
    | some (serving, .proof _) =>
      let phone := { phone with waiting := phone.waiting.eraseIdx index }
      match proof with
      | none => phone.deny serving
      | some proof => phone.conclude serving proof
    | _ => phone

def run (policy : VerifierPolicy) (phone : Phone) (events : List Event) : Phone := events.foldl (after policy) phone

end Phone

/-! ### What an authorized response rests on -/

/-- The request has been issued by the phone's clock, or a little ahead of it, and has not expired. -/
def Within (request : AuthenticationRequest) (now : Moment) : Prop :=
  request.issuedAt.microseconds ≤ now.val + PhoneAuthCore.skew ∧ request.isExpiredAt now = false

/-- What is checked of a frame before anyone is asked. -/
structure Granted (serving : Serving) : Prop where
  confidential : serving.session.securityProperties.confidential = true
  peerAuthenticated : serving.session.securityProperties.peerAuthenticated = true
  decoded : PhoneAuthProtocolCodec.decodeRequest serving.session.originLabel serving.frame = .ok serving.request
  bound : serving.request.sessionBinding = serving.session.sessionBinding
  arrived : Within serving.request serving.arrived

theorem PhoneAuthCore.receive_eq_ok {session : SecureTransportSession} {frame : Uint8List} {now : Moment}
    {core after : PhoneAuthCore} {request : AuthenticationRequest} :
    receive session frame now core = (.ok request, after) ↔
      PhoneAuthProtocolCodec.decodeRequest session.originLabel frame = .ok request ∧
        (session.securityProperties.confidential = true ∧ session.securityProperties.peerAuthenticated = true) ∧
        request.sessionBinding = session.sessionBinding ∧ now.val + skew ≤ 8640000000000000000 ∧
        Within request now ∧ request.requestId ∉ core.seenRequestIds ∧ after = core.remember request.requestId := by
  have secure : ¬(session.securityProperties.confidential = false ∨ session.securityProperties.peerAuthenticated = false) ↔
      session.securityProperties.confidential = true ∧ session.securityProperties.peerAuthenticated = true := by
    rw [not_or, Bool.not_eq_false, Bool.not_eq_false]
  have within {request : AuthenticationRequest} :
      ¬(now.val + skew < request.issuedAt.microseconds ∨ request.isExpiredAt now = true) ↔ Within request now := by
    rw [not_or, Int.not_lt, Bool.not_eq_true]
    rfl
  unfold receive
  simp only [↓Fallible.require_bind_eq_ok, ↓Fallible.liftM_bind_eq_ok, Fallible.bind_eq_ok, Fallible.get_run,
    Fallible.set_run, Fallible.pure_eq_ok, except_mapError_eq_ok, Prod.mk.injEq, Except.ok.injEq, secure, within]
  constructor
  · rintro ⟨_, decoded, authentic, bound, room, window, _, _, ⟨rfl, rfl⟩, fresh, _, _, ⟨_, rfl⟩, rfl, rfl⟩
    exact ⟨decoded, authentic, bound, room, window, fresh, rfl⟩
  · rintro ⟨decoded, authentic, bound, room, window, fresh, rfl⟩
    exact ⟨request, decoded, authentic, bound, room, window, core, core, ⟨rfl, rfl⟩, fresh, ⟨⟩, _, ⟨trivial, rfl⟩, rfl, rfl⟩

theorem PhoneAuthCore.receive_error {session : SecureTransportSession} {frame : Uint8List} {now : Moment}
    {core after : PhoneAuthCore} {e : ServeError} (failed : receive session frame now core = (.error e, after)) :
    after = core := by
  have ends : (receive session frame now).Ends (fun _ _ => True) (fun _ t => t = core) core := by
    unfold receive
    refine Fallible.Ends.bind (fun _ t => t = core) (Fallible.ends_liftM.mpr ⟨fun _ _ => rfl, fun _ _ => rfl⟩) ?_
    rintro _ _ rfl
    refine Fallible.Ends.bind (fun _ t => t = _) (Fallible.ends_require (fun _ => rfl) fun _ => rfl) ?_
    rintro _ _ rfl
    refine Fallible.Ends.bind (fun _ t => t = _) (Fallible.ends_require (fun _ => rfl) fun _ => rfl) ?_
    rintro _ _ rfl
    refine Fallible.Ends.bind (fun _ t => t = _) (Fallible.ends_require (fun _ => rfl) fun _ => rfl) ?_
    rintro _ _ rfl
    refine Fallible.Ends.bind (fun _ t => t = _) (Fallible.ends_require (fun _ => rfl) fun _ => rfl) ?_
    rintro _ _ rfl
    refine Fallible.Ends.bind_of_run (Fallible.get_run _) ?_
    refine Fallible.Ends.bind (fun _ t => t = _) (Fallible.ends_require (fun _ => rfl) fun _ => rfl) ?_
    rintro _ _ rfl
    exact Fallible.Ends.bind_of_run (Fallible.set_run _ _) (Fallible.ends_pure.mpr trivial)
  exact ends.bad_of_run failed

/-- The id a deed remembers. -/
def Deed.id : Deed → Option String
  | .remembered serving => some serving.request.requestId
  | _ => none

/-- The ids of the requests a log has remembered, in order. -/
def ids (log : List Deed) : List String := log.filterMap Deed.id

/-- Every step towards a response that says authorized, in order. -/
structure Grounds (policy : VerifierPolicy) (log : List Deed) (serving : Serving) (response : AuthResponse)
    (frame : Bytes) : Prop where
  granted : Granted serving
  allowed : policy.allows serving.request = true
  steps : ∃ (now : Moment) (canonicalRequest : Bytes) (proof : AuthorizationProof),
    serving.request.isExpiredAt now = false ∧
    PhoneAuthProtocolCodec.encodeRequest serving.request = .ok canonicalRequest ∧
    response = { protocolVersion := serving.request.protocolVersion, requestId := serving.request.requestId,
                 verifierId := serving.request.verifierId, credentialId := serving.request.credentialId,
                 decision := .authorized, algorithm := proof.algorithm, signature := proof.signature } ∧
    [.remembered serving, .asked serving, .answered serving true now, .signing serving canonicalRequest policy.purpose,
      .signed serving proof, .sent serving response frame].Sublist log

/-- What has been done for a call that waits. -/
def Waits (policy : VerifierPolicy) (log : List Deed) : Serving × Awaited → Prop
  | (serving, .consent) => Granted serving ∧ policy.allows serving.request = true ∧
      [.remembered serving, .asked serving].Sublist log
  | (serving, .proof canonicalRequest) => Granted serving ∧ policy.allows serving.request = true ∧
      PhoneAuthProtocolCodec.encodeRequest serving.request = .ok canonicalRequest ∧
      ∃ now : Moment, serving.request.isExpiredAt now = false ∧
        [.remembered serving, .asked serving, .answered serving true now,
          .signing serving canonicalRequest policy.purpose].Sublist log

theorem Waits.mono {policy : VerifierPolicy} {log later : List Deed} {entry : Serving × Awaited}
    (waits : Waits policy log entry) (grows : log.Sublist later) : Waits policy later entry := by
  obtain ⟨serving, awaited⟩ := entry
  cases awaited with
  | consent => exact ⟨waits.1, waits.2.1, waits.2.2.trans grows⟩
  | proof canonicalRequest =>
    obtain ⟨granted, allowed, encoded, now, current, steps⟩ := waits
    exact ⟨granted, allowed, encoded, now, current, steps.trans grows⟩

theorem Grounds.mono {policy : VerifierPolicy} {log later : List Deed} {serving : Serving} {response : AuthResponse}
    {frame : Bytes} (backed : Grounds policy log serving response frame) (grows : log.Sublist later) :
    Grounds policy later serving response frame := by
  obtain ⟨now, canonicalRequest, proof, current, encoded, same, steps⟩ := backed.steps
  exact ⟨backed.granted, backed.allowed, now, canonicalRequest, proof, current, encoded, same, steps.trans grows⟩

namespace Phone

/-- What every reachable phone satisfies: the core remembers the last ids, and each call that waits or has been answered
has been through every step before. -/
structure Kept (policy : VerifierPolicy) (phone : Phone) : Prop where
  order : phone.core.seenOrder = (ids phone.log).rtake PhoneAuthCore.seenLimit
  seen : ∀ id, id ∈ phone.core.seenRequestIds ↔ id ∈ phone.core.seenOrder
  spaced : Spaced PhoneAuthCore.seenLimit (ids phone.log)
  waiting : ∀ entry ∈ phone.waiting, Waits policy phone.log entry
  sent : ∀ serving response frame, .sent serving response frame ∈ phone.log → response.decision = .authorized →
    Grounds policy phone.log serving response frame

theorem start_kept (policy : VerifierPolicy) : start.Kept policy where
  order := rfl
  seen _ := Iff.rfl
  spaced := .nil
  waiting _ never := nomatch never
  sent _ _ _ never := nomatch never

variable {policy : VerifierPolicy} {phone : Phone}

theorem Kept.note (kept : phone.Kept policy) (deed : Deed) (silent : deed.id = none)
    (backed : ∀ serving response frame, deed = .sent serving response frame → response.decision = .authorized →
      Grounds policy (phone.log ++ [deed]) serving response frame) : (phone.note deed).Kept policy := by
  have same : ids (phone.log ++ [deed]) = ids phone.log := by
    rw [ids, List.filterMap_append, List.filterMap_cons_none silent, List.filterMap_nil, List.append_nil]
    rfl
  have grows : phone.log.Sublist (phone.log ++ [deed]) := List.sublist_append_left _ _
  refine ⟨?_, kept.seen, ?_, fun entry member => (kept.waiting entry member).mono grows, ?_⟩
  · exact kept.order.trans (congrArg (List.rtake · PhoneAuthCore.seenLimit) same.symm)
  · exact same.symm ▸ kept.spaced
  · intro serving response frame member authorized
    rcases List.mem_append.mp member with old | new
    · exact (kept.sent serving response frame old authorized).mono grows
    · exact backed serving response frame (List.mem_singleton.mp new).symm authorized

theorem Kept.wait (kept : phone.Kept policy) {serving : Serving} {awaited : Awaited}
    (waits : Waits policy phone.log (serving, awaited)) : (phone.wait serving awaited).Kept policy := by
  refine ⟨kept.order, kept.seen, kept.spaced, ?_, kept.sent⟩
  intro entry member
  rcases List.mem_append.mp member with old | new
  · exact kept.waiting entry old
  · exact (List.mem_singleton.mp new) ▸ waits

theorem Kept.erase (kept : phone.Kept policy) (index : Nat) :
    ({ phone with waiting := phone.waiting.eraseIdx index } : Phone).Kept policy :=
  ⟨kept.order, kept.seen, kept.spaced, fun entry member => kept.waiting entry (List.mem_of_mem_eraseIdx member),
    kept.sent⟩

theorem make_eq_ok {response made : AuthResponse} (run : response.make = .ok made) : made = response := by
  unfold AuthResponse.make at run
  rw [except_bind_eq_ok] at run
  obtain ⟨_, _, same⟩ := run
  exact (except_pure_eq_ok.mp same).symm

theorem Kept.send (kept : phone.Kept policy) {serving : Serving} {response : AuthResponse}
    (backed : response.decision = .authorized → ∀ frame,
      Grounds policy (phone.log ++ [.sent serving response frame]) serving response frame) :
    (phone.send serving (.ok response)).Kept policy := by
  unfold Phone.send
  dsimp only
  split
  · exact kept
  · rename_i frame _
    refine kept.note (.sent serving response frame) rfl fun other answer frame same authorized => ?_
    cases same
    exact backed authorized _

theorem Kept.deny (kept : phone.Kept policy) (serving : Serving) : (phone.deny serving).Kept policy := by
  unfold Phone.deny
  cases made : AuthResponse.denied serving.request with
  | error e => exact kept
  | ok response =>
    refine kept.send fun authorized => ?_
    rw [make_eq_ok made] at authorized
    cases authorized

theorem Kept.goOn (kept : phone.Kept policy) {serving : Serving} {now : Moment} (granted : Granted serving)
    (allowed : policy.allows serving.request = true)
    (steps : [.remembered serving, .asked serving, .answered serving true now].Sublist phone.log) :
    (phone.goOn policy serving now).Kept policy := by
  unfold Phone.goOn
  split
  · exact kept.deny serving
  · rename_i current
    split
    · exact kept.deny serving
    · rename_i canonicalRequest encoded
      refine (kept.note (.signing serving canonicalRequest policy.purpose) rfl fun _ _ _ same _ => nomatch same).wait ?_
      exact ⟨granted, allowed, encoded, now, Bool.not_eq_true _ ▸ current, steps.append (List.Sublist.refl [_])⟩

theorem Kept.conclude (kept : phone.Kept policy) {serving : Serving} {canonicalRequest : Bytes}
    (waits : Waits policy phone.log (serving, .proof canonicalRequest)) (proof : AuthorizationProof) :
    (phone.conclude serving proof).Kept policy := by
  unfold Phone.conclude
  split
  · exact kept.deny serving
  · rename_i response made
    obtain ⟨granted, allowed, encoded, now, current, steps⟩ := waits
    refine (kept.note (.signed serving proof) rfl fun _ _ _ same _ => nomatch same).send fun _ frame => ?_
    refine ⟨granted, allowed, now, canonicalRequest, proof, current, encoded, make_eq_ok made, ?_⟩
    have signed := steps.append (List.Sublist.refl [Deed.signed serving proof])
    exact signed.append (List.Sublist.refl [Deed.sent serving response frame])

theorem ids_concat (log : List Deed) (serving : Serving) :
    ids (log ++ [.remembered serving]) = ids log ++ [serving.request.requestId] := by
  rw [ids, List.filterMap_append]
  rfl

/-- A core that remembers one id more. -/
theorem Kept.remember (kept : phone.Kept policy) (serving : Serving)
    (fresh : serving.request.requestId ∉ phone.core.seenRequestIds) :
    ({ phone with
      core := phone.core.remember serving.request.requestId
      calls := phone.calls + 1 }.note (.remembered serving)).Kept policy := by
  have grows : phone.log.Sublist (phone.log ++ [.remembered serving]) := List.sublist_append_left _ _
  have unseen : serving.request.requestId ∉ (ids phone.log).rtake PhoneAuthCore.seenLimit := by
    rw [← kept.order, ← kept.seen]
    exact fresh
  have spaced := Spaced.concat kept.spaced unseen
  have distinct := spaced.nodup
  rw [List.rtake_concat_succ, ← kept.order] at distinct
  have order := rtake_concat (ids phone.log) serving.request.requestId PhoneAuthCore.seenLimit
  rw [← kept.order, ← ids_concat] at order
  rw [← ids_concat] at spaced
  have added : (if serving.request.requestId ∈ phone.core.seenRequestIds then phone.core.seenRequestIds
      else phone.core.seenRequestIds ++ [serving.request.requestId]) =
      phone.core.seenRequestIds ++ [serving.request.requestId] := if_neg fresh
  have seen (id : String) : id ∈ phone.core.seenRequestIds ++ [serving.request.requestId] ↔
      id ∈ phone.core.seenOrder ++ [serving.request.requestId] := by
    rw [List.mem_append, List.mem_append, kept.seen]
  refine ⟨?_, ?_, spaced, fun entry member => (kept.waiting entry member).mono grows, ?_⟩
  · change (phone.core.remember serving.request.requestId).seenOrder = _
    rw [Phone.note, order]
    unfold PhoneAuthCore.remember
    dsimp only
    split
    · rfl
    · rfl
  · intro id
    change id ∈ (phone.core.remember serving.request.requestId).seenRequestIds ↔
      id ∈ (phone.core.remember serving.request.requestId).seenOrder
    unfold PhoneAuthCore.remember
    dsimp only
    rw [added]
    split
    · rw [List.mem_filter, seen]
      cases whole : phone.core.seenOrder ++ [serving.request.requestId] with
      | nil => exact absurd whole (List.concat_ne_nil _ _)
      | cons first rest =>
        rw [whole, List.nodup_cons] at distinct
        simp only [List.head?_cons, List.tail_cons, List.mem_cons, ne_eq, Option.some.injEq, decide_not,
          Bool.not_eq_true', decide_eq_false_iff_not]
        constructor
        · rintro ⟨rfl | later, apart⟩
          · exact absurd rfl apart
          · exact later
        · intro later
          exact ⟨Or.inr later, fun same => distinct.1 (same ▸ later)⟩
    · exact seen id
  · intro other response frame member authorized
    rcases List.mem_append.mp member with old | new
    · exact (kept.sent other response frame old authorized).mono grows
    · cases List.mem_singleton.mp new

theorem Kept.arrive (kept : phone.Kept policy) (session : SecureTransportSession) (frame : Uint8List) (now : Moment) :
    (phone.after policy (.arrive session frame now)).Kept policy := by
  unfold Phone.after
  dsimp only
  split
  · rename_i e core run
    cases PhoneAuthCore.receive_error run
    exact kept
  · rename_i request core run
    obtain ⟨decoded, ⟨confidential, peerAuthenticated⟩, bound, _, window, fresh, rfl⟩ :=
      PhoneAuthCore.receive_eq_ok.mp run
    let serving : Serving := ⟨phone.calls, session, frame, request, now⟩
    have granted : Granted serving := ⟨confidential, peerAuthenticated, decoded, bound, window⟩
    have remembered := kept.remember serving fresh
    split
    · rename_i allowed
      refine (remembered.note (.asked serving) rfl fun _ _ _ same _ => nomatch same).wait ⟨granted, allowed, ?_⟩
      have first : [Deed.remembered serving].Sublist (phone.log ++ [.remembered serving]) := List.sublist_append_right _ _
      exact first.append (List.Sublist.refl [Deed.asked serving])
    · exact remembered.deny _

theorem Kept.answer (kept : phone.Kept policy) (index : Nat) (approved : Option Bool) (now : Moment) :
    (phone.after policy (.answer index approved now)).Kept policy := by
  unfold Phone.after
  dsimp only
  split
  · rename_i serving found
    obtain ⟨granted, allowed, steps⟩ := kept.waiting _ (List.mem_of_getElem? found)
    have erased := kept.erase index
    split
    · exact erased
    · exact (erased.note (.answered serving false now) rfl fun _ _ _ same _ => nomatch same).deny serving
    · exact (erased.note (.answered serving true now) rfl fun _ _ _ same _ => nomatch same).goOn granted allowed
        (steps.append (List.Sublist.refl [Deed.answered serving true now]))
  · exact kept

theorem Kept.prove (kept : phone.Kept policy) (index : Nat) (proof : Option AuthorizationProof) :
    (phone.after policy (.prove index proof)).Kept policy := by
  unfold Phone.after
  dsimp only
  split
  · rename_i serving canonicalRequest found
    have waits := kept.waiting _ (List.mem_of_getElem? found)
    have erased := kept.erase index
    split
    · exact erased.deny serving
    · exact erased.conclude waits _
  · exact kept

theorem Kept.run (kept : phone.Kept policy) (events : List Event) : (phone.run policy events).Kept policy := by
  induction events generalizing phone with
  | nil => exact kept
  | cons event events ih =>
    apply ih
    cases event with
    | arrive session frame now => exact kept.arrive session frame now
    | answer index approved now => exact kept.answer index approved now
    | prove index proof => exact kept.prove index proof

end Phone

end BioAuth.Mobile
