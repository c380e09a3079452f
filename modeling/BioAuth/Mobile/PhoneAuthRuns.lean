import BioAuth.Mobile.PhoneAuthCore

namespace BioAuth.Mobile
open BioAuth
open BioAuth.Protocol (AuthRequest)

/-- What lies behind a response that says authorized. -/
structure Authorized (policy : VerifierPolicy) (log : List Deed) (serving : Serving) (response : AuthResponse)
    (frame : Bytes) : Prop where
  granted : Granted serving
  allowed : policy.allows serving.request = true
  fresh : ∃ earlier later, log = earlier ++ .remembered serving :: later ∧
    serving.request.requestId ∉ (ids earlier).rtake PhoneAuthCore.seenLimit
  answered : ∃ (now : Moment) (canonicalRequest : Bytes) (proof : AuthorizationProof),
    serving.request.isExpiredAt now = false ∧ (serving.arrived.val ≤ now.val → Within serving.request now) ∧
    [.remembered serving, .asked serving, .answered serving true now, .signing serving canonicalRequest policy.purpose,
      .signed serving proof, .sent serving response frame].Sublist log ∧
    PhoneAuthProtocolCodec.encodeRequest serving.request = .ok canonicalRequest ∧
    (MarkFree serving.frame → canonicalRequest = serving.frame.octets) ∧
    response.requestId = serving.request.requestId ∧ response.algorithm = proof.algorithm ∧
    response.signature = proof.signature

theorem Within.later {request : AuthenticationRequest} {arrived now : Moment} (window : Within request arrived)
    (current : request.isExpiredAt now = false) (forward : arrived.val ≤ now.val) : Within request now :=
  ⟨by have issued := window.1; omega, current⟩

/-- A request that has been remembered was not among those remembered last. -/
theorem Phone.Kept.fresh {policy : VerifierPolicy} {phone : Phone} (kept : phone.Kept policy) {serving : Serving}
    (member : .remembered serving ∈ phone.log) : ∃ earlier later, phone.log = earlier ++ .remembered serving :: later ∧
      serving.request.requestId ∉ (ids earlier).rtake PhoneAuthCore.seenLimit := by
  obtain ⟨earlier, later, whole⟩ := List.append_of_mem member
  refine ⟨earlier, later, whole, ?_⟩
  have spaced := kept.spaced
  rw [whole, List.append_cons, ids, List.filterMap_append, ← ids, ids_concat] at spaced
  exact spaced.of_append.of_concat.2

/-- In every run, whatever the order of its calls, a response that says authorized has everything behind it that the
phone checks, and signs the request the user was displayed: the frame itself, where no text in it starts with a mark. -/
theorem authorized_responses_backed (policy : VerifierPolicy) (events : List Phone.Event) (serving : Serving)
    (response : AuthResponse) (frame : Bytes) (sent : .sent serving response frame ∈ (Phone.start.run policy events).log)
    (authorized : response.decision = .authorized) :
    Authorized policy (Phone.start.run policy events).log serving response frame := by
  have kept := (Phone.start_kept policy).run events
  obtain ⟨granted, allowed, now, canonicalRequest, proof, current, encoded, same, steps⟩ :=
    kept.sent serving response frame sent authorized
  have signs (markFree : MarkFree serving.frame) : canonicalRequest = serving.frame.octets := by
    have whole := (encodeRequest_decodeRequest_iff granted.decoded).mpr markFree
    rwa [encoded, Except.ok.injEq] at whole
  exact {
    granted := granted
    allowed := allowed
    fresh := kept.fresh (steps.subset List.mem_cons_self)
    answered := ⟨now, canonicalRequest, proof, current, granted.arrived.later current, steps, encoded, signs,
      congrArg AuthResponse.requestId same, congrArg AuthResponse.algorithm same, congrArg AuthResponse.signature same⟩ }

/-! ### What is not promised -/

section Replay
variable {policy : VerifierPolicy} {phone : Phone} {session : SecureTransportSession} {frame : Uint8List} {now : Moment}
  {request : AuthenticationRequest} {core : PhoneAuthCore}

/-- One frame served from beginning to end. -/
def served (session : SecureTransportSession) (frame : Uint8List) (now : Moment) (proof : AuthorizationProof) :
    List Phone.Event :=
  [.arrive session frame now, .answer 0 (some true) now, .prove 0 (some proof)]

theorem run_served (idle : phone.waiting = [])
    (received : PhoneAuthCore.receive session frame now phone.core = (.ok request, core))
    (allowed : policy.allows request = true) {canonicalRequest octets : Bytes}
    (encoded : PhoneAuthProtocolCodec.encodeRequest request = .ok canonicalRequest) {proof : AuthorizationProof}
    {response : AuthResponse}
    (made : AuthResponse.make
      { protocolVersion := request.protocolVersion, requestId := request.requestId, verifierId := request.verifierId,
        credentialId := request.credentialId, decision := .authorized, algorithm := proof.algorithm,
        signature := proof.signature } = .ok response)
    (spelled : PhoneAuthProtocolCodec.encodeResponse response = .ok octets) :
    let serving : Serving := ⟨phone.calls, session, frame, request, now⟩
    phone.run policy (served session frame now proof) =
      ⟨core, [], phone.calls + 1, phone.log ++ [.remembered serving, .asked serving, .answered serving true now,
        .signing serving canonicalRequest policy.purpose, .signed serving proof, .sent serving response octets]⟩ := by
  have current := (PhoneAuthCore.receive_eq_ok.mp received).2.2.2.2.1.2
  simp only [Phone.run, served, List.foldl_cons, List.foldl_nil, Phone.after, received, allowed, if_true, Phone.note,
    Phone.wait, idle, List.nil_append, List.getElem?_cons_zero, List.eraseIdx_cons_zero, Phone.goOn, current, encoded,
    Phone.conclude, made, Phone.send, spelled, List.append_assoc, List.cons_append, Bool.false_eq_true, if_false]

/-- A frame that the policy does not allow is remembered and denied. -/
theorem arrive_disallowed (received : PhoneAuthCore.receive session frame now phone.core = (.ok request, core))
    (disallowed : policy.allows request = false) :
    (phone.after policy (.arrive session frame now)).waiting = phone.waiting ∧
      ids (phone.after policy (.arrive session frame now)).log = ids phone.log ++ [request.requestId] ∧
      phone.log.Sublist (phone.after policy (.arrive session frame now)).log ∧
      (phone.after policy (.arrive session frame now)).calls = phone.calls + 1 := by
  let serving : Serving := ⟨phone.calls, session, frame, request, now⟩
  have remembered : ids (phone.log ++ [.remembered serving]) = ids phone.log ++ [request.requestId] := Phone.ids_concat _ _
  have grows : phone.log.Sublist (phone.log ++ [.remembered serving]) := List.sublist_append_left _ _
  simp only [Phone.after, received, disallowed, Bool.false_eq_true, if_false, Phone.deny, Phone.send, Phone.note]
  split
  · exact ⟨rfl, remembered, grows, rfl⟩
  · split
    · exact ⟨rfl, remembered, grows, rfl⟩
    · refine ⟨rfl, ?_, grows.trans (List.sublist_append_left _ _), rfl⟩
      rw [ids, List.filterMap_append, ← ids, remembered]
      exact List.append_nil _

/-- A request that comes whole and in time on a session, and is not allowed. -/
def Disallowed (policy : VerifierPolicy) (session : SecureTransportSession) (now : Moment)
    (entry : Uint8List × AuthenticationRequest) : Prop :=
  (∀ core : PhoneAuthCore, entry.2.requestId ∉ core.seenRequestIds →
    PhoneAuthCore.receive session entry.1 now core = (.ok entry.2, core.remember entry.2.requestId)) ∧
    policy.allows entry.2 = false

theorem Phone.Kept.unseen (kept : phone.Kept policy) {id : String} (new : id ∉ ids phone.log) :
    id ∉ phone.core.seenRequestIds := by
  rw [kept.seen, kept.order]
  exact fun member => new (List.mem_of_mem_drop member)

/-- Frames with ids of their own that are not allowed leave nothing but their ids. -/
theorem run_disallowed (kept : phone.Kept policy) {entries : List (Uint8List × AuthenticationRequest)}
    (each : ∀ entry ∈ entries, Disallowed policy session now entry)
    (distinct : (ids phone.log ++ entries.map fun entry => entry.2.requestId).Nodup) :
    (phone.run policy (entries.map fun entry => .arrive session entry.1 now)).waiting = phone.waiting ∧
      ids (phone.run policy (entries.map fun entry => .arrive session entry.1 now)).log =
        ids phone.log ++ entries.map (fun entry => entry.2.requestId) ∧
      phone.log.Sublist (phone.run policy (entries.map fun entry => .arrive session entry.1 now)).log ∧
      phone.calls ≤ (phone.run policy (entries.map fun entry => .arrive session entry.1 now)).calls := by
  induction entries generalizing phone with
  | nil => exact ⟨rfl, (List.append_nil _).symm, List.Sublist.refl _, Nat.le_refl _⟩
  | cons entry entries ih =>
    obtain ⟨receives, disallowed⟩ := each entry List.mem_cons_self
    rw [List.map_cons, List.append_cons] at distinct
    have new : entry.2.requestId ∉ ids phone.log := by
      intro old
      have front := distinct.sublist (List.sublist_append_left _ _)
      exact (List.nodup_append.mp front).2.2 _ old _ (List.mem_singleton_self _) rfl
    obtain ⟨waiting, remembered, grows, calls⟩ := arrive_disallowed (receives phone.core (kept.unseen new)) disallowed
    rw [← remembered] at distinct
    obtain ⟨waiting', remembered', grows', calls'⟩ :=
      ih (kept.arrive session entry.1 now) (fun other member => each other (List.mem_cons_of_mem _ member)) distinct
    refine ⟨waiting'.trans waiting, remembered'.trans ?_, grows.trans grows', Nat.le_trans ?_ calls'⟩
    · rw [remembered, List.map_cons, ← List.append_cons]
    · rw [calls]
      exact Nat.le_succ _

end Replay

/-- A request for `sudo` under an id. -/
def ask (id action : String) : AuthRequest := { sudoRequest action 1000 with requestId := id }

/-- The same request as the phone shows it. -/
def displayed (id action : String) : AuthenticationRequest where
  protocolVersion := 1
  requestId := id
  verifierId := "v"
  verifierName := "desk"
  credentialId := "c"
  challenge := List.replicate 32 0
  origin := "tcp"
  service := "sudo"
  action := action
  resource := "host"
  user := "ana"
  issuedAt := .sinceEpoch 1000
  expiresAt := .sinceEpoch 61000
  sessionBinding := List.replicate 32 0

def plainSession : SecureTransportSession := ⟨"tcp", List.replicate 32 0, ⟨true, true⟩⟩

def rebootPolicy : VerifierPolicy := ⟨"v", "c", "authorization", [⟨"sudo", "reboot", "*"⟩]⟩

/-- Two seconds past the epoch, a second after the requests are issued. -/
def soon : Moment := ⟨2_000_000, by decide⟩

def plainProof : AuthorizationProof := ⟨"ES256", [1]⟩

/-- A short text that both sides take as it is. -/
structure PlainText (text : String) : Prop where
  unmarked : marked text = false
  phone : blank text = false
  desktop : Protocol.blank text = false
  short : utf16Len text ≤ 64

theorem PlainText.brought {text : String} (plain : PlainText text) : text = dropMark text ∧ text ≠ "" :=
  ⟨(dropMark_eq_self.mpr plain.unmarked).symm, blank_of_whitespace plain.phone⟩

theorem PlainText.taken {text : String} (plain : PlainText text) {max : Nat} (room : 64 ≤ max) : ¬blankOrLong text max :=
  not_blankOrLong.mpr ⟨plain.phone, Nat.le_trans plain.short room⟩

theorem plain_texts : ∀ text ∈ ["v", "desk", "c", "sudo", "host", "ana", "tcp", "reboot", "halt"], PlainText text := by
  have facts : ∀ text ∈ ["v", "desk", "c", "sudo", "host", "ana", "tcp", "reboot", "halt"],
      marked text = false ∧ blank text = false ∧ Protocol.blank text = false ∧ utf16Len text ≤ 64 := by
    decide +kernel
  intro text member
  obtain ⟨unmarked, phone, desktop, short⟩ := facts text member
  exact ⟨unmarked, phone, desktop, short⟩

theorem ask_checked {id action : String} (plain : PlainText id) (known : PlainText action) :
    Checked (ask id action) := by
  have window : 0 < (sudoRequest "" 1000).expiresAtMs.toInt - (sudoRequest "" 1000).issuedAtMs.toInt ∧
      (sudoRequest "" 1000).expiresAtMs.toInt - (sudoRequest "" 1000).issuedAtMs.toInt ≤ 120_000 := by decide
  refine ⟨rfl, ?_, window⟩
  have text {value : String} (taken : PlainText value) {max : Nat} (room : 64 ≤ max) :
      Protocol.blank value = false ∧ utf16Len value ≤ max := ⟨taken.desktop, Nat.le_trans taken.short room⟩
  intro entry member
  simp only [requestTexts, ask, sudoRequest, List.mem_cons, List.not_mem_nil, or_false] at member
  rcases member with rfl | rfl | rfl | rfl | rfl | rfl | rfl | rfl
  · exact text plain (Nat.le_refl 64)
  · exact text (plain_texts "v" (by simp)) (Nat.le_refl 64)
  · exact text (plain_texts "desk" (by simp)) (by decide)
  · exact text (plain_texts "c" (by simp)) (Nat.le_refl 64)
  · exact text (plain_texts "sudo" (by simp)) (Nat.le_refl 64)
  · exact text known (by decide : 64 ≤ 128)
  · exact text (plain_texts "host" (by simp)) (by decide)
  · exact text (plain_texts "ana" (by simp)) (by decide)

/-- The frame of a request. -/
def frameOf (id action : String) : Uint8List := Uint8List.ofBytes (ask id action).encode

theorem frameOf_octets {id action : String} (plain : PlainText id) (known : PlainText action) :
    (frameOf id action).octets = (ask id action).encode := by
  have size := encode_length_le (ask_checked plain known)
  refine Uint8List.ofBytes_octets ?_
  unfold maxFrameBytes at size
  omega

theorem frameOf_decodes {id action : String} (plain : PlainText id) (known : PlainText action) :
    PhoneAuthProtocolCodec.decodeRequest "tcp" (frameOf id action) = .ok (displayed id action) := by
  have size := encode_length_le (ask_checked plain known)
  have whole := frameOf_octets plain known
  have v := plain_texts "v" (by simp)
  have desk := plain_texts "desk" (by simp)
  have c := plain_texts "c" (by simp)
  have service := plain_texts "sudo" (by simp)
  have host := plain_texts "host" (by simp)
  have ana := plain_texts "ana" (by simp)
  have tcp := plain_texts "tcp" (by simp)
  refine (PhoneAuthProtocolCodec.decodeRequest_eq_ok whole (whole ▸ size)).mpr ⟨?_, validate_eq_ok.mpr ?_⟩
  · have version : (1 : UInt64).toNat < 2 ^ 63 ∧ (1 : Int64) = Int64.ofNat (1 : UInt64).toNat := by decide
    exact ⟨version, plain.brought, v.brought, desk.brought, c.brought, rfl, service.brought, known.brought, host.brought,
      ana.brought, rfl, rfl, rfl, rfl⟩
  · have window : (displayed "" "").expiresAt.isAfter (displayed "" "").issuedAt = true ∧
        ¬AuthenticationRequest.longestValidity < (displayed "" "").expiresAt.difference (displayed "" "").issuedAt := by decide
    exact ⟨rfl, plain.taken (by decide), v.taken (by decide), desk.taken (by decide), c.taken (by decide),
      tcp.taken (by decide), service.taken (by decide), known.taken (by decide), host.taken (by decide),
      ana.taken (by decide), ⟨List.length_replicate, List.length_replicate⟩, window⟩

theorem frameOf_received {id action : String} (plain : PlainText id) (known : PlainText action)
    {core : PhoneAuthCore} (fresh : id ∉ core.seenRequestIds) :
    PhoneAuthCore.receive plainSession (frameOf id action) soon core = (.ok (displayed id action), core.remember id) := by
  have window : (displayed "" "").issuedAt.microseconds ≤ soon.val + PhoneAuthCore.skew ∧
      (displayed "" "").isExpiredAt soon = false := by decide
  have room : soon.val + PhoneAuthCore.skew ≤ 8640000000000000000 := by decide
  exact PhoneAuthCore.receive_eq_ok.mpr ⟨frameOf_decodes plain known, ⟨rfl, rfl⟩, rfl, room, window, fresh, rfl⟩

/-- A letter, by its place in the alphabet. -/
def letter (n : Nat) : Char := Char.ofNat (97 + n)

/-- The ids of the requests that come in between. -/
def fillerId (n : Nat) : String := String.ofList [letter (n / 32), letter (n % 32)]

theorem letter_plain : ∀ n < 32, letter n ≠ '\uFEFF' ∧ trimmed (letter n) = false ∧
    Protocol.whitespace (letter n) = false ∧ (letter n).val.toNat = 97 + n := by
  decide

theorem fillerId_plain {n : Nat} (few : n < 1024) : PlainText (fillerId n) := by
  obtain ⟨unmarked, phone, desktop, value⟩ := letter_plain (n / 32) (by omega)
  have second := (letter_plain (n % 32) (Nat.mod_lt _ (by decide))).2.2.2
  refine ⟨?_, ?_, ?_, ?_⟩
  · simp [marked, fillerId, unmarked]
  · simp [blank, fillerId, phone]
  · simp [Protocol.blank, fillerId, desktop]
  · simp only [utf16Len, fillerId, String.toList_ofList, List.map_cons, List.map_nil, List.sum_cons, List.sum_nil, value,
      second]
    split <;> split <;> omega

theorem fillerId_injective {m n : Nat} (first : m < 1024) (second : n < 1024) (same : fillerId m = fillerId n) : m = n := by
  have letters := String.ofList_injective same
  simp only [List.cons.injEq, and_true] at letters
  have high := congrArg (fun c : Char => c.val.toNat) letters.1
  have low := congrArg (fun c : Char => c.val.toNat) letters.2
  rw [(letter_plain (m / 32) (by omega)).2.2.2, (letter_plain (n / 32) (by omega)).2.2.2] at high
  rw [(letter_plain (m % 32) (Nat.mod_lt _ (by decide))).2.2.2,
    (letter_plain (n % 32) (Nat.mod_lt _ (by decide))).2.2.2] at low
  omega

/-- As many requests as a core remembers, none of them allowed. -/
def fillers : List (Uint8List × AuthenticationRequest) :=
  (List.range 1024).map fun n => (frameOf (fillerId n) "halt", displayed (fillerId n) "halt")

/-- A frame is served, others come in between, and it is served again. -/
def replay : List Phone.Event :=
  served plainSession (frameOf "r" "reboot") soon plainProof ++
    (fillers.map fun entry => Phone.Event.arrive plainSession entry.1 soon) ++
    served plainSession (frameOf "r" "reboot") soon plainProof

theorem fillers_disallowed {entry : Uint8List × AuthenticationRequest} (member : entry ∈ fillers) :
    Disallowed rebootPolicy plainSession soon entry := by
  obtain ⟨n, few, rfl⟩ := List.mem_map.mp member
  have plain := fillerId_plain (List.mem_range.mp few)
  refine ⟨fun core fresh => frameOf_received plain (plain_texts "halt" (by simp)) fresh, ?_⟩
  have other : rebootPolicy.allows (displayed "" "halt") = false := by decide +kernel
  exact other

/-- The response to the request under the id `r`. -/
def plainAnswer : AuthResponse where
  protocolVersion := 1
  requestId := "r"
  verifierId := "v"
  credentialId := "c"
  decision := .authorized
  algorithm := "ES256"
  signature := [1]

/-- What serving the frame under the id `r` does to a phone that does not remember it. -/
theorem run_served_plain {phone : Phone} (idle : phone.waiting = []) (fresh : "r" ∉ phone.core.seenRequestIds) :
    ∃ serving octets deeds, serving.number = phone.calls ∧ serving.request.requestId = "r" ∧ ids deeds = ["r"] ∧
      Deed.sent serving plainAnswer octets ∈ deeds ∧
      phone.run rebootPolicy (served plainSession (frameOf "r" "reboot") soon plainProof) =
        ⟨phone.core.remember "r", [], phone.calls + 1, phone.log ++ deeds⟩ := by
  have r : PlainText "r" := ⟨by decide +kernel, by decide +kernel, by decide +kernel, by decide +kernel⟩
  have allowed : rebootPolicy.allows (displayed "r" "reboot") = true := by decide +kernel
  have made : AuthResponse.make plainAnswer = .ok plainAnswer := by decide +kernel
  obtain ⟨canonicalRequest, encoded⟩ :
      ∃ octets, PhoneAuthProtocolCodec.encodeRequest (displayed "r" "reboot") = .ok octets := ⟨_, rfl⟩
  obtain ⟨octets, spelled⟩ : ∃ octets, PhoneAuthProtocolCodec.encodeResponse plainAnswer = .ok octets := ⟨_, rfl⟩
  have received := frameOf_received r (plain_texts "reboot" (by simp)) fresh
  let serving : Serving := ⟨phone.calls, plainSession, frameOf "r" "reboot", displayed "r" "reboot", soon⟩
  refine ⟨serving, octets, [.remembered serving, .asked serving, .answered serving true soon,
    .signing serving canonicalRequest rebootPolicy.purpose, .signed serving plainProof,
    .sent serving plainAnswer octets], rfl, rfl, rfl, by simp, ?_⟩
  exact run_served idle received allowed encoded made spelled

theorem fillers_ids : fillers.map (fun entry => entry.2.requestId) = (List.range 1024).map fillerId := by
  rw [fillers, List.map_map]
  rfl

theorem fillers_distinct : (["r"] ++ fillers.map fun entry => entry.2.requestId).Nodup := by
  rw [fillers_ids, List.singleton_append, List.nodup_cons]
  constructor
  · intro member
    obtain ⟨n, _, same⟩ := List.mem_map.mp member
    have letters := congrArg String.toList same
    rw [fillerId, String.toList_ofList] at letters
    have one : "r".toList.length = 1 := by decide +kernel
    rw [← letters] at one
    cases one
  · refine List.Nodup.map_on (fun m few n also same => ?_) List.nodup_range
    exact fillerId_injective (List.mem_range.mp few) (List.mem_range.mp also) same

/-- Once a core has forgotten an id it serves it again. -/
theorem replay_served : ∃ first second firstFrame secondFrame, first.number ≠ second.number ∧
    first.request.requestId = second.request.requestId ∧
    Deed.sent first plainAnswer firstFrame ∈ (Phone.start.run rebootPolicy replay).log ∧
    Deed.sent second plainAnswer secondFrame ∈ (Phone.start.run rebootPolicy replay).log := by
  obtain ⟨first, octets, deeds, number, id, known, sent, once⟩ :=
    run_served_plain (rfl : Phone.start.waiting = []) List.not_mem_nil
  have kept := (Phone.start_kept rebootPolicy).run (served plainSession (frameOf "r" "reboot") soon plainProof)
  rw [once] at kept
  obtain ⟨waiting, remembered, grows, calls⟩ :=
    run_disallowed kept (fun entry member => fillers_disallowed member) (known.symm ▸ fillers_distinct)
  have later := kept.run (fillers.map fun entry => .arrive plainSession entry.1 soon)
  have forgotten := later.seen "r"
  rw [later.order, remembered] at forgotten
  have window : (ids deeds ++ fillers.map fun entry => entry.2.requestId).rtake PhoneAuthCore.seenLimit =
      fillers.map fun entry => entry.2.requestId := by
    rw [known, List.singleton_append, List.rtake]
    have length : (fillers.map fun entry => entry.2.requestId).length = 1024 := by
      rw [fillers_ids, List.length_map, List.length_range]
    rw [List.length_cons, length]
    rfl
  have distinct := fillers_distinct
  rw [List.singleton_append, List.nodup_cons] at distinct
  obtain ⟨second, octets', deeds', number', id', _, sent', again⟩ :=
    run_served_plain waiting fun member => distinct.1 (window ▸ forgotten.mp member)
  have whole : Phone.start.run rebootPolicy replay = (((Phone.start.run rebootPolicy
      (served plainSession (frameOf "r" "reboot") soon plainProof)).run rebootPolicy
      (fillers.map fun entry => .arrive plainSession entry.1 soon))).run rebootPolicy
      (served plainSession (frameOf "r" "reboot") soon plainProof) := by
    unfold Phone.run replay
    rw [List.foldl_append, List.foldl_append]
  rw [once, again] at whole
  refine ⟨first, second, octets, octets', ?_, id.trans id'.symm, ?_, ?_⟩
  · rw [number, number']
    exact Nat.ne_of_lt calls
  · rw [whole]
    exact List.mem_append_left _ (grows.subset sent)
  · rw [whole]
    exact List.mem_append_right _ sent'

/-- The frame of the response. -/
def plainAnswerFrame : Bytes := (PhoneAuthProtocolCodec.encodeResponse plainAnswer).toOption.getD []

/-- A request whose action starts with a byte order mark. -/
def markedFrame : Uint8List := Uint8List.ofBytes (sudoRequest "\uFEFFreboot" 1000).encode

/-- Forty seconds before the epoch. -/
def longAgo : Moment := ⟨-40_000_000, by decide⟩

def servedPlain (frame : Uint8List) : Serving := ⟨0, plainSession, frame, displayed "r" "reboot", soon⟩

/-- The clock goes back while the user decides. -/
def rewound : List Phone.Event :=
  [.arrive plainSession (frameOf "r" "reboot") soon, .answer 0 (some true) longAgo, .prove 0 (some plainProof)]

theorem authorized_responses_backed_plain :
    Authorized rebootPolicy
      (Phone.start.run rebootPolicy (served plainSession (frameOf "r" "reboot") soon plainProof)).log
      (servedPlain (frameOf "r" "reboot")) plainAnswer plainAnswerFrame :=
  authorized_responses_backed rebootPolicy (served plainSession (frameOf "r" "reboot") soon plainProof)
    (servedPlain (frameOf "r" "reboot")) plainAnswer plainAnswerFrame (by decide +kernel) rfl

/-- A marked frame is not what is signed, a clock that has gone back is not noticed, and an id is served again once it is
forgotten. -/
theorem authorized_responses_unpromised :
    (∃ canonicalRequest, Deed.signing (servedPlain markedFrame) canonicalRequest "authorization" ∈
        (Phone.start.run rebootPolicy (served plainSession markedFrame soon plainProof)).log ∧
      Deed.sent (servedPlain markedFrame) plainAnswer plainAnswerFrame ∈
        (Phone.start.run rebootPolicy (served plainSession markedFrame soon plainProof)).log ∧
      canonicalRequest ≠ markedFrame.octets) ∧
    (Deed.answered (servedPlain (frameOf "r" "reboot")) true longAgo ∈ (Phone.start.run rebootPolicy rewound).log ∧
      Deed.sent (servedPlain (frameOf "r" "reboot")) plainAnswer plainAnswerFrame ∈
        (Phone.start.run rebootPolicy rewound).log ∧
      ¬Within (displayed "r" "reboot") longAgo) ∧
    ∃ first second firstFrame secondFrame, first.number ≠ second.number ∧
      first.request.requestId = second.request.requestId ∧
      Deed.sent first plainAnswer firstFrame ∈ (Phone.start.run rebootPolicy replay).log ∧
      Deed.sent second plainAnswer secondFrame ∈ (Phone.start.run rebootPolicy replay).log := by
  refine ⟨⟨(ask "r" "reboot").encode, by decide +kernel, by decide +kernel, by decide +kernel⟩,
    ⟨by decide +kernel, by decide +kernel, ?_⟩, replay_served⟩
  have late : ¬(displayed "r" "reboot").issuedAt.microseconds ≤ longAgo.val + PhoneAuthCore.skew := by decide
  exact fun window => late window.1

end BioAuth.Mobile
