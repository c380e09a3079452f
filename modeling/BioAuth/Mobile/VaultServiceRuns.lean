import BioAuth.Lib.Traces
import BioAuth.Mobile.FrameAgreement
import BioAuth.Mobile.VaultService

namespace BioAuth.Mobile
open BioAuth Fallible

/-- What an onlooker notes while a request is handled: each call that leaves the service, with how it came out. -/
inductive VaultAct
  | moment (result : Except Failed DateTime)
  | items (restart : Bool) (result : Except Failed (List VaultStore.VaultItemSummary))
  | sheet (request : VaultApprovalRequest) (result : Except Failed Bool)
  | store (call : StoreCall) (result : Except Failed call.Answer)
  | digest (result : Except Failed Bytes)
  | outcome (execution : Nat) (result : Except Failed ApplicationOutcome)

/-- The store has been called. -/
def VaultAct.touches : VaultAct → Bool
  | store _ _ => true
  | _ => false

def Untouched (acts : List VaultAct) : Prop := ∀ act ∈ acts, act.touches = false

theorem untouched_nil : Untouched [] := List.forall_mem_nil _

theorem untouched_single {act : VaultAct} (calm : act.touches = false) : Untouched [act] :=
  List.forall_mem_singleton.mpr calm

theorem untouched_append {before after : List VaultAct} :
    Untouched (before ++ after) ↔ Untouched before ∧ Untouched after :=
  List.forall_mem_append

/-- A phone that is looked on. -/
instance {φ : Type} [VaultPhone φ] : VaultPhone (Watched φ VaultAct) where
  moment := watched .moment VaultPhone.moment
  items restart := watched (.items restart) (VaultPhone.items restart)
  confirm request := watched (.sheet request) (VaultPhone.confirm request)
  store call := watched (.store call) (VaultPhone.store call)
  written phone := { phone with state := VaultPhone.written phone.state }
  digest payload := watched .digest (VaultPhone.digest payload)
  capacity := VaultPhone.capacity φ
  entries phone := VaultPhone.entries phone.state
  setEntries entries phone := { phone with state := VaultPhone.setEntries entries phone.state }
  executions phone := VaultPhone.executions phone.state
  outcome execution := watched (.outcome execution) (VaultPhone.outcome execution)

theorem ApplicationFrame.valid_of_decode {frame : Uint8List} {request : ApplicationFrame}
    (run : ApplicationFrame.decode frame = .ok request) : request.Valid := by
  obtain ⟨_, after, run⟩ := decodeWith_eq_ok.mp run
  obtain ⟨_, _, _, run⟩ := Fallible.bind_eq_ok.mp run
  obtain ⟨_, _, _, run⟩ := Fallible.bind_eq_ok.mp run
  obtain ⟨_, _, _, run⟩ := Fallible.bind_eq_ok.mp run
  obtain ⟨_, _, _, run⟩ := Fallible.bind_eq_ok.mp run
  obtain ⟨decoded, _, _, run⟩ := Fallible.bind_eq_ok.mp run
  obtain ⟨_, _, _, run⟩ := Fallible.bind_eq_ok.mp run
  obtain ⟨_, _, checked, run⟩ := Fallible.bind_eq_ok.mp run
  obtain ⟨_, _, _, run⟩ := Fallible.bind_eq_ok.mp run
  obtain ⟨_, _, _, run⟩ := Fallible.bind_eq_ok.mp run
  cases run
  exact ApplicationFrame.validate_eq_ok.mp (except_mapError_eq_ok.mp (Fallible.liftM_eq_ok.mp checked).1)

namespace VaultRequest

/-- The call of the store that a request asks for. -/
def call : VaultRequest → Option StoreCall
  | list _ => none
  | fetch request => some (.fetch request.itemId)
  | create request => some (.create ⟨request.kind, request.name, request.username, request.uri, request.secret⟩)
  | update request => some (.update
      (VaultService.current request.itemId request.expectedRevision request.kind request.name request.username request.uri)
      ⟨request.kind, request.name, request.username, request.uri, request.secret⟩)
  | delete request => some (.delete
      (VaultService.current request.itemId request.expectedRevision .login request.itemId "" ""))

/-- The sheet of a request names its computer, its operation and its item, as the vault has it. Only what is to be created is
named by the request itself. -/
inductive Shows (id : String) : VaultRequest → List VaultAct → VaultApprovalRequest → Prop
  | fetch (request : VaultFetchRequest) (all : List VaultStore.VaultItemSummary) :
    Shows id (.fetch request) [.items false (.ok all)]
      (VaultService.itemSheet id request.verifierName request.itemId .read all)
  | create (request : VaultCreateRequest) : Shows id (.create request) []
      ⟨id, request.verifierName, .create, request.name, request.username, request.uri⟩
  | update (request : VaultUpdateRequest) (all : List VaultStore.VaultItemSummary) :
    Shows id (.update request) [.items false (.ok all)]
      (VaultService.itemSheet id request.verifierName request.itemId .update all)
  | delete (request : VaultDeleteRequest) (all : List VaultStore.VaultItemSummary) :
    Shows id (.delete request) [.items false (.ok all)]
      (VaultService.itemSheet id request.verifierName request.itemId .delete all)

theorem Shows.untouched {id : String} {decoded : VaultRequest} {asked : List VaultAct} {sheet : VaultApprovalRequest}
    (shows : decoded.Shows id asked sheet) : Untouched asked := by
  cases shows with
  | create request => exact untouched_nil
  | fetch request all => exact untouched_single rfl
  | update request all => exact untouched_single rfl
  | delete request all => exact untouched_single rfl

end VaultRequest

/-- What is told of what the store answered. -/
def StoreCall.told : (call : StoreCall) → call.Answer → Except Refusal Bytes
  | .fetch _, item => ({ itemId := item.id, revision := item.revision, secret := item.secret } : VaultFetchResponse).encode
  | .create _, written => ({ itemId := written.id, revision := written.revision } : VaultWriteResponse).encode
  | .update _ _, written => ({ itemId := written.id, revision := written.revision } : VaultWriteResponse).encode
  | .delete item, _ => ({ itemId := item.id } : VaultDeleteResponse).encode

namespace VaultService

/-- What was noted last gives leave for the request: its own sheet was approved, and the request was still alive then. -/
def Leave (request : ApplicationFrame) (decoded : VaultRequest) (acts : List VaultAct) : Prop :=
  ∃ before asked sheet now, acts = before ++ (asked ++ [.sheet sheet (.ok true), .moment (.ok now)]) ∧
    decoded.Shows request.requestId asked sheet ∧ request.isExpiredAt now = false

/-- The store is called at most once, last, for what the request asks, and with leave. -/
inductive Careful (request : ApplicationFrame) (decoded : VaultRequest) (acts : List VaultAct) : Prop
  | untouched (calm : Untouched acts)
  | touched (before : List VaultAct) (call : StoreCall) (result : Except Failed call.Answer)
    (same : acts = before ++ [.store call result]) (calm : Untouched before) (asked : decoded.call = some call)
    (leave : Leave request decoded before)

/-- What is sent back of a request, by what was noted. -/
inductive Earned (decoded : VaultRequest) (acts : List VaultAct) : ApplicationFrameKind → Bytes → Prop
  | refused {code : ApplicationErrorCode} {payload : Bytes} (spelled : code.encode = .ok payload) :
    Earned decoded acts .error payload
  | listed {request : VaultListRequest} {all : List VaultStore.VaultItemSummary} {response : VaultListResponse}
    {payload : Bytes} (listing : decoded = .list request)
    (held : acts.getLast? = some (.items (request.cursor = "") (.ok all)))
    (carries : page request all = .ok response) (spelled : response.encode = .ok payload) :
    Earned decoded acts .response payload
  | done {call : StoreCall} {result : call.Answer} {payload : Bytes} (asked : decoded.call = some call)
    (held : acts.getLast? = some (.store call (.ok result))) (told : call.told result = .ok payload) :
    Earned decoded acts .response payload
  | joined {execution : Nat} {outcome : ApplicationOutcome} (mutates : decoded.mutates = true)
    (held : acts.getLast? = some (.outcome execution (.ok outcome))) : Earned decoded acts outcome.kind outcome.payload

def Concludes (request : ApplicationFrame) (decoded : VaultRequest) (outcome : ApplicationOutcome)
    (acts : List VaultAct) : Prop :=
  Careful request decoded acts ∧ Earned decoded acts outcome.kind outcome.payload

section Traces
variable {φ : Type} [VaultPhone φ] {request : ApplicationFrame} {decoded : VaultRequest} {acts : List VaultAct}

theorem Leave.after (leave : Leave request decoded acts) (front : List VaultAct) : Leave request decoded (front ++ acts) := by
  obtain ⟨early, shown, sheet, now, parts, shows, alive⟩ := leave
  exact ⟨front ++ early, shown, sheet, now, by rw [parts, List.append_assoc], shows, alive⟩

theorem Careful.after {front : List VaultAct} (careful : Careful request decoded acts) (calm : Untouched front) :
    Careful request decoded (front ++ acts) := by
  cases careful with
  | untouched rest => exact .untouched (untouched_append.mpr ⟨calm, rest⟩)
  | touched before call result same rest asked leave =>
    exact .touched (front ++ before) call result (by rw [same, List.append_assoc]) (untouched_append.mpr ⟨calm, rest⟩) asked
      (leave.after front)

theorem Earned.after {kind : ApplicationFrameKind} {payload : Bytes} (earned : Earned decoded acts kind payload)
    (front : List VaultAct) : Earned decoded (front ++ acts) kind payload := by
  have last {act : VaultAct} (held : acts.getLast? = some act) : (front ++ acts).getLast? = some act := by
    rw [List.getLast?_append, held]
    rfl
  cases earned with
  | refused spelled => exact .refused spelled
  | listed listing held carries spelled => exact .listed listing (last held) carries spelled
  | done asked held told => exact .done asked (last held) told
  | joined mutates held => exact .joined mutates (last held)

theorem items_traces (restart : Bool) :
    (VaultPhone.items restart : Fallible (Watched φ VaultAct) Failed (List VaultStore.VaultItemSummary)).Traces
      (fun all acts => acts = [.items restart (.ok all)]) fun e acts => acts = [.items restart (.error e)] :=
  .watched

theorem confirm_traces (sheet : VaultApprovalRequest) :
    (VaultPhone.confirm sheet : Fallible (Watched φ VaultAct) Failed Bool).Traces
      (fun answer acts => acts = [.sheet sheet (.ok answer)]) fun e acts => acts = [.sheet sheet (.error e)] :=
  .watched

theorem moment_traces :
    (VaultPhone.moment : Fallible (Watched φ VaultAct) Failed DateTime).Traces
      (fun now acts => acts = [.moment (.ok now)]) fun e acts => acts = [.moment (.error e)] :=
  .watched

theorem store_traces (call : StoreCall) :
    (VaultPhone.store call : Fallible (Watched φ VaultAct) Failed call.Answer).Traces
      (fun result acts => acts = [.store call (.ok result)]) fun e acts => acts = [.store call (.error e)] :=
  .watched

omit [VaultPhone φ] in
/-- Nothing is noted of a call that throws nothing but refusals. -/
theorem refusable_traces {α : Type} (result : Except Refusal α) :
    (refusable result : Fallible (Watched φ VaultAct) Failed α).Traces (fun a acts => acts = [] ∧ result = .ok a)
      fun _ acts => acts = [] ∧ ∃ refusal, result = .error refusal := by
  refine .liftM (fun a run => ⟨rfl, except_mapError_eq_ok.mp run⟩) fun e run => ⟨rfl, ?_⟩
  cases result with
  | error refusal => exact ⟨refusal, rfl⟩
  | ok a => cases run

theorem code_encode (code : ApplicationErrorCode) :
    ∃ payload, code.encode = .ok payload ∧ payload.length ≤ maxApplicationPayloadBytes := by
  cases code <;> exact ⟨_, rfl, by decide⟩

omit [VaultPhone φ] in
theorem refused_traces (careful : Careful request decoded acts) (code : ApplicationErrorCode) (cacheable : Bool) :
    (refusal code cacheable : Fallible (Watched φ VaultAct) Failed ApplicationOutcome).Traces
      (fun outcome rest => Concludes request decoded outcome (acts ++ rest))
      fun _ rest => Careful request decoded (acts ++ rest) := by
  refine Traces.bind (refusable_traces code.encode) ?_ ?_
  · rintro e more ⟨rfl, _⟩
    rwa [List.append_nil]
  · rintro payload more ⟨rfl, spelled⟩
    refine .pure ?_
    simp only [List.append_nil]
    exact ⟨careful, .refused spelled⟩

/-- One call of the store, for what the request asks, and what is told of its answer. -/
theorem run_traces (decoded : VaultRequest) :
    (run decoded : Fallible (Watched φ VaultAct) Failed Bytes).Traces
      (fun payload acts => ∃ call result, decoded.call = some call ∧ acts = [.store call (.ok result)] ∧
        call.told result = .ok payload)
      fun _ acts => acts = [] ∨ ∃ call result, decoded.call = some call ∧ acts = [.store call result] := by
  have stored {call : StoreCall} (asked : decoded.call = some call)
      {f : call.Answer → Fallible (Watched φ VaultAct) Failed Bytes}
      (tells : ∀ result, (f result).Traces (fun payload rest => rest = [] ∧ call.told result = .ok payload)
        fun _ rest => rest = []) :
      (VaultPhone.store call >>= f : Fallible (Watched φ VaultAct) Failed Bytes).Traces
        (fun payload acts => ∃ call result, decoded.call = some call ∧ acts = [.store call (.ok result)] ∧
          call.told result = .ok payload)
        fun _ acts => acts = [] ∨ ∃ call result, decoded.call = some call ∧ acts = [.store call result] := by
    refine Traces.bind (store_traces call) ?_ ?_
    · rintro e more rfl
      exact Or.inr ⟨call, _, asked, rfl⟩
    · rintro result more rfl
      refine (tells result).mono ?_ ?_
      · rintro payload rest ⟨rfl, told⟩
        exact ⟨call, result, asked, rfl, told⟩
      · rintro e rest rfl
        exact Or.inr ⟨call, _, asked, rfl⟩
  have told {result : Except Refusal Bytes} :
      (refusable result : Fallible (Watched φ VaultAct) Failed Bytes).Traces
        (fun payload rest => rest = [] ∧ result = .ok payload) fun _ rest => rest = [] :=
    (refusable_traces result).mono (fun _ _ both => both) fun _ _ both => both.1
  have written {result : Except Refusal Bytes} :
      (modify VaultPhone.written >>= fun _ => refusable result : Fallible (Watched φ VaultAct) Failed Bytes).Traces
        (fun payload rest => rest = [] ∧ result = .ok payload) fun _ rest => rest = [] := by
    have kept : (modify VaultPhone.written : Fallible (Watched φ VaultAct) Failed PUnit).Traces
        (fun _ rest => rest = []) fun _ rest => rest = [] :=
      .silent (fun _ => rfl) (fun _ _ _ => rfl) fun _ _ _ => rfl
    refine Traces.bind kept (fun _ _ none => none) ?_
    rintro _ more rfl
    exact told
  cases decoded with
  | list request => exact .throw (Or.inl rfl)
  | fetch request => exact stored rfl fun _ => told
  | create request => exact stored rfl fun _ => written
  | update request => exact stored rfl fun _ => written
  | delete request => exact stored rfl fun _ => written

theorem describe_traces (id : String) (decoded : VaultRequest) :
    (describe id decoded : Fallible (Watched φ VaultAct) Failed VaultApprovalRequest).Traces
      (fun sheet acts => decoded.Shows id acts sheet) fun _ => Untouched := by
  have reads {f : List VaultStore.VaultItemSummary → VaultApprovalRequest}
      (shows : ∀ all, decoded.Shows id [.items false (.ok all)] (f all)) :
      (VaultPhone.items false >>= fun all => pure (f all) :
        Fallible (Watched φ VaultAct) Failed VaultApprovalRequest).Traces
        (fun sheet acts => decoded.Shows id acts sheet) fun _ => Untouched := by
    refine Traces.bind (items_traces false) ?_ ?_
    · rintro e more rfl
      exact untouched_single rfl
    · rintro all more rfl
      exact .pure (shows all)
  cases decoded with
  | list request => exact .throw untouched_nil
  | create request => exact .pure (.create request)
  | fetch request => exact reads (.fetch request)
  | update request => exact reads (.update request)
  | delete request => exact reads (.delete request)

/-- Whatever needs approval is done with leave, and at most once. -/
theorem approved_traces (request : ApplicationFrame) (decoded : VaultRequest) :
    (approved request decoded : Fallible (Watched φ VaultAct) Failed ApplicationOutcome).Traces
      (Concludes request decoded) fun _ => Careful request decoded := by
  refine Traces.bind (describe_traces request.requestId decoded) (fun _ _ => .untouched) fun sheet asked shows => ?_
  refine Traces.bind (confirm_traces sheet) ?_ ?_
  · rintro e more rfl
    exact .untouched (untouched_append.mpr ⟨shows.untouched, untouched_single rfl⟩)
  · rintro answer more rfl
    have shown : Untouched (asked ++ [.sheet sheet (.ok answer)]) :=
      untouched_append.mpr ⟨shows.untouched, untouched_single rfl⟩
    simp only [← List.append_assoc]
    cases answer with
    | false => exact refused_traces (.untouched shown) .rejected true
    | true =>
      refine Traces.bind moment_traces ?_ ?_
      · rintro e more rfl
        exact .untouched (untouched_append.mpr ⟨shown, untouched_single rfl⟩)
      · rintro now more rfl
        have looked : Untouched (asked ++ [.sheet sheet (.ok true)] ++ [.moment (.ok now)]) :=
          untouched_append.mpr ⟨shown, untouched_single rfl⟩
        simp only [← List.append_assoc]
        by_cases late : request.isExpiredAt now = true
        · rw [if_pos late]
          exact refused_traces (.untouched looked) .rejected true
        · rw [if_neg late]
          -- The sheet was approved and the request is still alive: the store may be called.
          have leave : Leave request decoded (asked ++ [.sheet sheet (.ok true)] ++ [.moment (.ok now)]) :=
            ⟨[], asked, sheet, now, by simp, shows, Bool.eq_false_of_not_eq_true late⟩
          refine Traces.bind (run_traces decoded) ?_ ?_
          · rintro e more (rfl | ⟨call, result, named, rfl⟩)
            · rw [List.append_nil]
              exact .untouched looked
            · exact .touched _ call result rfl looked named leave
          · rintro payload more ⟨call, result, named, rfl, told⟩
            refine .pure ?_
            simp only [List.append_nil]
            exact ⟨.touched _ call (.ok result) rfl looked named leave, .done named (List.getLast?_concat ..) told⟩

theorem list_traces (listed : VaultListRequest) :
    (list listed : Fallible (Watched φ VaultAct) Failed Bytes).Traces
      (fun payload acts => Untouched acts ∧ Earned (.list listed) acts .response payload) fun _ => Untouched := by
  refine Traces.bind (items_traces _) ?_ ?_
  · rintro e more rfl
    exact untouched_single rfl
  · rintro all more rfl
    have held : Untouched [.items (decide (listed.cursor = "")) (.ok all)] := untouched_single rfl
    refine Traces.liftM_bind (fun _ _ => held) fun response made => ?_
    refine (refusable_traces response.encode).mono ?_ ?_
    · rintro payload rest ⟨rfl, spelled⟩
      exact ⟨held, .listed rfl rfl (except_mapError_eq_ok.mp made) spelled⟩
    · rintro e rest ⟨rfl, _⟩
      exact held

theorem perform_traces (request : ApplicationFrame) (decoded : VaultRequest) :
    (perform request decoded : Fallible (Watched φ VaultAct) Failed ApplicationOutcome).Traces
      (Concludes request decoded) fun _ => Careful request decoded := by
  cases decoded with
  | list listed =>
    refine Traces.bind (list_traces listed) (fun _ _ => .untouched) fun payload more both => .pure ?_
    simp only [List.append_nil]
    exact ⟨.untouched both.1, both.2⟩
  | fetch fetched => exact approved_traces request (.fetch fetched)
  | create created => exact approved_traces request (.create created)
  | update updated => exact approved_traces request (.update updated)
  | delete deleted => exact approved_traces request (.delete deleted)

theorem execute_traces (request : ApplicationFrame) (decoded : VaultRequest) :
    (execute request decoded : Fallible (Watched φ VaultAct) Failed ApplicationOutcome).Traces
      (Concludes request decoded) fun _ => Careful request decoded := by
  refine Traces.tryCatch (perform_traces request decoded) fun e more careful => ?_
  split
  · exact refused_traces careful .rejected true
  · exact refused_traces careful .unavailable false

theorem concluding_traces {key : ApplicationIdempotency.Key} {own : Nat}
    {operation : Fallible (Watched φ VaultAct) Failed ApplicationOutcome} {good : ApplicationOutcome → List VaultAct → Prop}
    {bad : Failed → List VaultAct → Prop} (traces : operation.Traces good bad) :
    (ApplicationIdempotency.concluding key own operation).Traces good bad := by
  intro s
  have ran := ends_iff.mp (traces s)
  rw [ends_iff]
  constructor
  · intro outcome t run
    have result : (operation s).1 = .ok outcome := congrArg Prod.fst run
    have after : (ApplicationIdempotency.concluding key own operation s).2 = t := congrArg Prod.snd run
    rw [← after]
    exact ran.1 outcome (operation s).2 (Prod.ext result rfl)
  · intro e t run
    have result : (operation s).1 = .error e := congrArg Prod.fst run
    have after : (ApplicationIdempotency.concluding key own operation s).2 = t := congrArg Prod.snd run
    rw [← after]
    exact ran.2 e (operation s).2 (Prod.ext result rfl)

/-- A call that an entry answers for does nothing, and one that begins does what it would do by itself. -/
theorem idempotent_traces (scope : String) (mutates : decoded.mutates = true) :
    (ApplicationIdempotency.run scope request (execute request decoded) :
        Fallible (Watched φ VaultAct) Failed ApplicationOutcome).Traces
      (Concludes request decoded) fun _ => Careful request decoded := by
  have digested : (VaultPhone.digest request.payload : Fallible (Watched φ VaultAct) Failed Bytes).Traces
      (fun digest acts => acts = [.digest (.ok digest)]) fun e acts => acts = [.digest (.error e)] := .watched
  have looked : (get : Fallible (Watched φ VaultAct) Failed (Watched φ VaultAct)).Traces
      (fun _ rest => rest = []) fun _ rest => rest = [] :=
    .silent (fun _ => rfl) (fun _ _ _ => rfl) fun _ _ _ => rfl
  have entered (entries : ApplicationIdempotency.Entries) :
      (modify (VaultPhone.setEntries entries) : Fallible (Watched φ VaultAct) Failed PUnit).Traces
        (fun _ rest => rest = []) fun _ rest => rest = [] :=
    .silent (fun _ => rfl) (fun _ _ _ => rfl) fun _ _ _ => rfl
  refine Traces.bind digested ?_ ?_
  · rintro e more rfl
    exact .untouched (untouched_single rfl)
  · rintro digest more rfl
    have noted : Untouched [.digest (.ok digest)] := untouched_single rfl
    refine Traces.bind looked ?_ ?_
    · rintro e rest rfl
      exact .untouched noted
    · rintro phone rest rfl
      dsimp only
      split
      · exact .throw (.untouched noted)
      · rename_i execution _
        have joined : (VaultPhone.outcome execution : Fallible (Watched φ VaultAct) Failed ApplicationOutcome).Traces
            (fun outcome acts => acts = [.outcome execution (.ok outcome)])
            fun e acts => acts = [.outcome execution (.error e)] := .watched
        refine joined.mono ?_ ?_
        · rintro outcome acts rfl
          exact ⟨.untouched (untouched_append.mpr ⟨noted, untouched_single rfl⟩), .joined mutates rfl⟩
        · rintro e acts rfl
          exact .untouched (untouched_append.mpr ⟨noted, untouched_single rfl⟩)
      · refine Traces.bind (entered _) ?_ ?_
        · rintro e rest rfl
          exact .untouched noted
        · rintro _ rest rfl
          refine (concluding_traces (execute_traces request decoded)).mono ?_ ?_
          · rintro outcome acts ⟨careful, earned⟩
            exact ⟨careful.after noted, earned.after _⟩
          · intro e acts careful
            exact careful.after noted

theorem frame_encodes (valid : request.Valid) (kind : ApplicationFrameKind) {payload : Bytes}
    (short : payload.length ≤ maxApplicationPayloadBytes) : ∃ raw, frame request kind payload = .ok raw := by
  have checked : ({ request with kind, payload } : ApplicationFrame).Valid :=
    ⟨valid.protocolVersion, valid.requestId, valid.operation, valid.sessionBinding, short, valid.window⟩
  obtain ⟨desktop, mirrors⟩ := ApplicationFrame.mirrored checked
  exact ⟨_, ApplicationFrame.encode_mirrored mirrors checked⟩

omit [VaultPhone φ] in
/-- A frame that says no can always be sent. -/
theorem error_traces (valid : request.Valid) (code : ApplicationErrorCode) :
    (error request code : Fallible (Watched φ VaultAct) Failed Bytes).Traces
      (fun raw acts => acts = [] ∧ ∃ payload, code.encode = .ok payload ∧ frame request .error payload = .ok raw)
      fun _ _ => False := by
  obtain ⟨payload, spelled, short⟩ := code_encode code
  obtain ⟨raw, framed⟩ := frame_encodes valid .error short
  refine Traces.bind (refusable_traces code.encode) ?_ ?_
  · rintro e more ⟨_, refusal, refused⟩
    rw [spelled] at refused
    cases refused
  · rintro found more ⟨rfl, same⟩
    cases spelled.symm.trans same
    refine (refusable_traces (frame request .error payload)).mono ?_ ?_
    · rintro reply rest ⟨rfl, replied⟩
      exact ⟨rfl, payload, spelled, replied⟩
    · rintro e rest ⟨_, refusal, refused⟩
      rw [framed] at refused
      cases refused

/-- A request that was decoded is answered whatever happens, with what it has earned. -/
theorem answer_traces (valid : request.Valid) (scope : String) (decoded : VaultRequest) :
    (answer request scope decoded : Fallible (Watched φ VaultAct) Failed Bytes).Traces
      (fun raw acts => Careful request decoded acts ∧
        ∃ kind payload, Earned decoded acts kind payload ∧ frame request kind payload = .ok raw)
      fun _ _ => False := by
  have settled : (outcome request scope decoded : Fallible (Watched φ VaultAct) Failed ApplicationOutcome).Traces
      (Concludes request decoded) fun _ => Careful request decoded := by
    unfold outcome
    split
    · exact idempotent_traces scope ‹_›
    · exact execute_traces request decoded
  have replied (outcome : ApplicationOutcome) (more : List VaultAct) (done : Concludes request decoded outcome more) :
      (refusable (frame request outcome.kind outcome.payload) : Fallible (Watched φ VaultAct) Failed Bytes).Traces
        (fun raw rest => Careful request decoded (more ++ rest) ∧
          ∃ kind payload, Earned decoded (more ++ rest) kind payload ∧ frame request kind payload = .ok raw)
        fun _ rest => Careful request decoded (more ++ rest) := by
    refine (refusable_traces _).mono ?_ ?_
    · rintro raw rest ⟨rfl, framed⟩
      rw [List.append_nil]
      exact ⟨done.1, _, _, done.2, framed⟩
    · rintro e rest ⟨rfl, _⟩
      rw [List.append_nil]
      exact done.1
  refine Traces.tryCatch (settled.bind (fun _ _ careful => careful) replied) fun e more careful => ?_
  have refused (code : ApplicationErrorCode) : (error request code : Fallible (Watched φ VaultAct) Failed Bytes).Traces
      (fun raw rest => Careful request decoded (more ++ rest) ∧
        ∃ kind payload, Earned decoded (more ++ rest) kind payload ∧ frame request kind payload = .ok raw)
      fun _ _ => False := by
    refine (error_traces valid code).mono ?_ fun _ _ never => never
    rintro raw rest ⟨rfl, payload, spelled, framed⟩
    rw [List.append_nil]
    exact ⟨careful, _, payload, .refused spelled, framed⟩
  split
  · exact refused .invalidRequest
  · exact refused .unavailable

/-- How a request of this session is answered: refused at once, or by what was done for it. -/
inductive Settled (request : ApplicationFrame) (authorized : Bool) (acts : List VaultAct) :
    ApplicationFrameKind → Bytes → Prop
  | unauthorized {payload : Bytes} (refused : authorized = false) (nothing : acts = [])
    (spelled : ApplicationErrorCode.rejected.encode = .ok payload) : Settled request authorized acts .error payload
  | undecoded {payload : Bytes} {message : String} (may : authorized = true) (nothing : acts = [])
    (refused : VaultRequest.decode request.operation (.ofBytes request.payload) = .error (formatException message))
    (spelled : ApplicationErrorCode.invalidRequest.encode = .ok payload) : Settled request authorized acts .error payload
  | served {decoded : VaultRequest} {kind : ApplicationFrameKind} {payload : Bytes} (may : authorized = true)
    (named : VaultRequest.decode request.operation (.ofBytes request.payload) = .ok decoded)
    (careful : Careful request decoded acts) (earned : Earned decoded acts kind payload) :
    Settled request authorized acts kind payload

/-- The frame that a call of the service came to, by what was noted. -/
def Handled (raw : Uint8List) (sessionBinding : Bytes) (authorized : Bool) (reply : Bytes) (acts : List VaultAct) : Prop :=
  ∃ request now rest kind payload, ApplicationFrame.decode raw = .ok request ∧ request.kind = .request ∧
    sameBytes request.sessionBinding sessionBinding = true ∧ request.isExpiredAt now = false ∧
      acts = .moment (.ok now) :: rest ∧ Settled request authorized rest kind payload ∧
        frame request kind payload = .ok reply

theorem handle_traces (raw : Uint8List) (sessionBinding : Bytes) (authorized : Bool) (scope : String) :
    (handle raw sessionBinding authorized scope : Fallible (Watched φ VaultAct) Failed Bytes).Traces
      (Handled raw sessionBinding authorized) fun _ acts => acts = [] ∨ ∃ result, acts = [.moment result] := by
  refine Traces.liftM_bind (fun _ _ => Or.inl rfl) fun request read => ?_
  have decoded := except_mapError_eq_ok.mp read
  have valid := ApplicationFrame.valid_of_decode decoded
  refine Traces.require_bind (fun _ => Or.inl rfl) fun mine => ?_
  refine Traces.bind moment_traces ?_ ?_
  · rintro e more rfl
    exact Or.inr ⟨_, rfl⟩
  · rintro now more rfl
    refine Traces.require_bind (fun _ => Or.inr ⟨_, rfl⟩) fun alive => ?_
    have handled {rest : List VaultAct} {kind : ApplicationFrameKind} {payload reply : Bytes}
        (settled : Settled request authorized rest kind payload) (framed : frame request kind payload = .ok reply) :
        Handled raw sessionBinding authorized reply ([.moment (.ok now)] ++ rest) :=
      ⟨request, now, rest, kind, payload, decoded, mine.1, mine.2, alive, rfl, settled, framed⟩
    by_cases may : authorized = false
    · rw [if_pos may]
      refine (error_traces valid .rejected).mono ?_ fun _ _ never => never.elim
      rintro reply rest ⟨rfl, payload, spelled, framed⟩
      exact handled (.unauthorized may rfl spelled) framed
    · rw [if_neg may]
      have may : authorized = true := Bool.eq_true_of_not_eq_false may
      rcases named : VaultRequest.decode request.operation (.ofBytes request.payload) with thrown | decoded
      · rcases thrown with (_ | message) | _ | _
        · exact .throw (Or.inr ⟨_, rfl⟩)
        · refine (error_traces valid .invalidRequest).mono ?_ fun _ _ never => never.elim
          rintro reply rest ⟨rfl, payload, spelled, framed⟩
          exact handled (.undecoded may rfl named spelled) framed
        · exact .throw (Or.inr ⟨_, rfl⟩)
        · exact .throw (Or.inr ⟨_, rfl⟩)
      · refine (answer_traces valid scope decoded).mono ?_ fun _ _ never => never.elim
        rintro reply rest ⟨careful, kind, payload, earned, framed⟩
        exact handled (.served may named careful earned) framed

end Traces

section Shadows
variable {φ : Type} [VaultPhone φ] {request : ApplicationFrame}

omit [VaultPhone φ] in
theorem refusal_shadows (code : ApplicationErrorCode) (cacheable : Bool) :
    Shadows (refusal code cacheable : Fallible (Watched φ VaultAct) Failed ApplicationOutcome) (refusal code cacheable) :=
  .bind (.liftM _) fun _ => .pure _

omit [VaultPhone φ] in
theorem error_shadows (code : ApplicationErrorCode) :
    Shadows (error request code : Fallible (Watched φ VaultAct) Failed Bytes) (error request code) :=
  .bind (.liftM _) fun _ => .liftM _

theorem describe_shadows (id : String) (decoded : VaultRequest) :
    Shadows (describe id decoded : Fallible (Watched φ VaultAct) Failed VaultApprovalRequest) (describe id decoded) := by
  cases decoded with
  | list request => exact .throw _
  | create request => exact .pure _
  | fetch request => exact .bind (.watched _ _) fun _ => .pure _
  | update request => exact .bind (.watched _ _) fun _ => .pure _
  | delete request => exact .bind (.watched _ _) fun _ => .pure _

theorem run_shadows (decoded : VaultRequest) :
    Shadows (run decoded : Fallible (Watched φ VaultAct) Failed Bytes) (run decoded) := by
  have written {result : Except Refusal Bytes} :
      Shadows (modify VaultPhone.written >>= fun _ => refusable result : Fallible (Watched φ VaultAct) Failed Bytes)
        (modify VaultPhone.written >>= fun _ => refusable result) :=
    .bind (fun _ => ⟨rfl, rfl⟩) fun _ => .liftM _
  cases decoded with
  | list request => exact .throw _
  | fetch request => exact .bind (.watched _ _) fun _ => .liftM _
  | create request => exact .bind (.watched _ _) fun _ => written
  | update request => exact .bind (.watched _ _) fun _ => written
  | delete request => exact .bind (.watched _ _) fun _ => written

theorem approved_shadows (decoded : VaultRequest) :
    Shadows (approved request decoded : Fallible (Watched φ VaultAct) Failed ApplicationOutcome)
      (approved request decoded) := by
  refine .bind (describe_shadows _ decoded) fun sheet => .bind (.watched _ _) fun answer => ?_
  cases answer with
  | false => exact refusal_shadows .rejected true
  | true =>
    refine .bind (.watched _ _) fun now => ?_
    split
    · exact refusal_shadows .rejected true
    · exact .bind (run_shadows decoded) fun _ => .pure _

theorem execute_shadows (decoded : VaultRequest) :
    Shadows (execute request decoded : Fallible (Watched φ VaultAct) Failed ApplicationOutcome)
      (execute request decoded) := by
  refine .tryCatch ?_ fun e => ?_
  · cases decoded with
    | list listed =>
      exact .bind (.bind (.watched _ _) fun _ => .bind (.liftM _) fun _ => .liftM _) fun _ => .pure _
    | fetch fetched => exact approved_shadows (.fetch fetched)
    | create created => exact approved_shadows (.create created)
    | update updated => exact approved_shadows (.update updated)
    | delete deleted => exact approved_shadows (.delete deleted)
  · split
    · exact refusal_shadows .rejected true
    · exact refusal_shadows .unavailable false

theorem concluding_shadows {key : ApplicationIdempotency.Key} {own : Nat}
    {operation : Fallible (Watched φ VaultAct) Failed ApplicationOutcome} {plain : Fallible φ Failed ApplicationOutcome}
    (shadows : Shadows operation plain) :
    Shadows (ApplicationIdempotency.concluding key own operation) (ApplicationIdempotency.concluding key own plain) := by
  intro s
  obtain ⟨result, state⟩ := shadows s
  refine ⟨result, ?_⟩
  change VaultPhone.setEntries (ApplicationIdempotency.conclude (VaultPhone.entries (operation s).2.state) key own
    (operation s).1) (operation s).2.state = _
  rw [result, state]
  rfl

theorem outcome_shadows (scope : String) (decoded : VaultRequest) :
    Shadows (outcome request scope decoded : Fallible (Watched φ VaultAct) Failed ApplicationOutcome)
      (outcome request scope decoded) := by
  unfold outcome
  split
  · refine .bind (.watched _ _) fun digest => .get_bind fun phone => ?_
    have same : ApplicationIdempotency.admission (VaultPhone.capacity (Watched φ VaultAct)) (VaultPhone.entries phone)
        (scope, request.requestId) request.operation digest =
      ApplicationIdempotency.admission (VaultPhone.capacity φ) (VaultPhone.entries phone.state) (scope, request.requestId)
        request.operation digest := rfl
    dsimp only
    rw [same]
    cases ApplicationIdempotency.admission (VaultPhone.capacity φ) (VaultPhone.entries phone.state)
        (scope, request.requestId) request.operation digest with
    | rejected error => exact .throw _
    | joins execution => exact .watched _ _
    | runs entries => exact .bind (fun _ => ⟨rfl, rfl⟩) fun _ => concluding_shadows (execute_shadows decoded)
  · exact execute_shadows decoded

theorem answer_shadows (scope : String) (decoded : VaultRequest) :
    Shadows (answer request scope decoded : Fallible (Watched φ VaultAct) Failed Bytes) (answer request scope decoded) := by
  refine .tryCatch (.bind (outcome_shadows scope decoded) fun _ => .liftM _) fun e => ?_
  split
  · exact error_shadows .invalidRequest
  · exact error_shadows .unavailable

/-- A frame is handled on a phone that is looked on as on any other. -/
theorem handle_shadows (raw : Uint8List) (sessionBinding : Bytes) (authorized : Bool) (scope : String) :
    Shadows (handle raw sessionBinding authorized scope : Fallible (Watched φ VaultAct) Failed Bytes)
      (handle raw sessionBinding authorized scope) := by
  refine .bind (.liftM _) fun request => .bind (.require _ _) fun _ => .bind (.watched _ _) fun now => ?_
  refine .bind (.require _ _) fun _ => ?_
  split
  · exact error_shadows .rejected
  · cases VaultRequest.decode request.operation (.ofBytes request.payload) with
    | ok decoded => exact answer_shadows scope decoded
    | error thrown =>
      rcases thrown with (_ | message) | _ | _
      · exact .throw _
      · exact error_shadows .invalidRequest
      · exact .throw _
      · exact .throw _

end Shadows

section Phones
variable {φ : Type} [VaultPhone φ]

/-- What is noted while a phone handles a frame. -/
def notes (phone : φ) (raw : Uint8List) (sessionBinding : Bytes) (authorized : Bool) (scope : String) : List VaultAct :=
  (handle raw sessionBinding authorized scope (⟨phone, []⟩ : Watched φ VaultAct)).2.acts

/-- Every frame is answered with one frame, by what was done for it, or thrown away before anything was asked but the time. -/
theorem frames_answered (phone : φ) (raw : Uint8List) (sessionBinding : Bytes) (authorized : Bool) (scope : String) :
    (∃ reply, (handle raw sessionBinding authorized scope phone).1 = .ok reply ∧
      Handled raw sessionBinding authorized reply (notes phone raw sessionBinding authorized scope)) ∨
    ∃ thrown, (handle raw sessionBinding authorized scope phone).1 = .error thrown ∧
      (notes phone raw sessionBinding authorized scope = [] ∨
        ∃ result, notes phone raw sessionBinding authorized scope = [.moment result]) := by
  have ends := (handle_traces raw sessionBinding authorized scope).ends phone
  rw [← (handle_shadows raw sessionBinding authorized scope ⟨phone, []⟩).1]
  unfold notes
  rcases run : handle raw sessionBinding authorized scope (⟨phone, []⟩ : Watched φ VaultAct) with ⟨thrown | reply, after⟩
  · exact Or.inr ⟨thrown, rfl, ends.bad_of_run run⟩
  · exact Or.inl ⟨reply, rfl, ends.good_of_run run⟩

/-- The store is called for the request of the frame only, once, as the last thing that is done, after its own sheet was
approved and while the request was alive. -/
theorem store_called_with_leave (phone : φ) (raw : Uint8List) (sessionBinding : Bytes) (authorized : Bool) (scope : String) :
    Untouched (notes phone raw sessionBinding authorized scope) ∨
      ∃ request decoded before call result, notes phone raw sessionBinding authorized scope = before ++ [.store call result] ∧
        Untouched before ∧ ApplicationFrame.decode raw = .ok request ∧ request.kind = .request ∧
        sameBytes request.sessionBinding sessionBinding = true ∧ authorized = true ∧
        VaultRequest.decode request.operation (.ofBytes request.payload) = .ok decoded ∧ decoded.call = some call ∧
        Leave request decoded before := by
  rcases frames_answered phone raw sessionBinding authorized scope with ⟨reply, _, handled⟩ | ⟨_, _, none | ⟨_, one⟩⟩
  · obtain ⟨request, now, rest, kind, payload, read, isRequest, mine, _, acts, settled, _⟩ := handled
    have timed : Untouched [.moment (.ok now)] := untouched_single rfl
    rw [acts]
    cases settled with
    | unauthorized _ nothing _ =>
      rw [nothing]
      exact Or.inl timed
    | undecoded _ nothing _ _ =>
      rw [nothing]
      exact Or.inl timed
    | served may named careful earned =>
      cases careful with
      | untouched calm => exact Or.inl (untouched_append.mpr ⟨timed, calm⟩)
      | touched early call result same calm asked leave =>
        have front : Untouched (.moment (.ok now) :: early) := untouched_append.mpr ⟨timed, calm⟩
        have parts : VaultAct.moment (.ok now) :: rest = (.moment (.ok now) :: early) ++ [.store call result] := by
          rw [same, List.cons_append]
        exact Or.inr ⟨request, _, _, call, result, parts, front, read, isRequest, mine, may, named, asked, leave.after [_]⟩
  · rw [none]
    exact Or.inl untouched_nil
  · rw [one]
    exact Or.inl (untouched_single rfl)

end Phones

end VaultService

end BioAuth.Mobile
