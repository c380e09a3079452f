import BioAuth.Desktop.AgentConnection
import Mathlib.Data.List.Nodup

namespace BioAuth.Desktop
open BioAuth BioAuth.TextStream

mutual

/-- No object with a `toString` of its own is met on the way to a text. -/
def converts : Json → Bool
  | .array items => allConvert items
  | .object members => members.all fun member => member.1 ≠ "toString"
  | _ => true

def allConvert : List Json → Bool
  | [] => true
  | item :: items => converts item && allConvert items

end

/-- What is read of an endpoint file. -/
def endpointConverts : Json → Bool
  | .null => false
  | endpoint => (property "port" endpoint).all converts

/-- What is read of a reply. -/
def replyConverts (message : Json) : Bool :=
  (property "ok" message).any truthy ||
    ((property "error" message).filter truthy).all fun error => (property "message" error).all converts

section Engine
variable [ScriptEngine]

mutual

theorem toText_isSome : ∀ value : Json, (toText value).isSome = converts value
  | .null | .bool _ | .number _ | .decimal _ | .string _ => by
    rw [toText, converts]
    · rfl
    · exact nofun
    · exact nofun
  | .array items => by
    rw [toText, converts, Option.isSome_map]
    exact toTexts_isSome items
  | .object members => by
    rw [toText, converts]
    split
    · rename_i own
      obtain ⟨member, there, named⟩ := List.any_eq_true.mp own
      refine (List.all_eq_false.mpr ⟨member, there, ?_⟩).symm
      simpa using named
    · rename_i none
      refine (List.all_eq_true.mpr fun member there => ?_).symm
      simpa using fun named => none (List.any_eq_true.mpr ⟨member, there, by simpa using named⟩)

theorem toTexts_isSome : ∀ items : List Json, (toTexts items).isSome = allConvert items
  | [] => by rw [toTexts, allConvert]; rfl
  | item :: items => by
    have rest := toTexts_isSome items
    have first := toText_isSome item
    rw [allConvert, ← first, ← rest]
    cases item with
    | null => simp [toTexts, toText]
    | _ =>
      rw [toTexts]
      · cases toText _ with
        | none => rfl
        | some text => cases toTexts items <;> rfl
      · exact nofun

end

theorem toText_some {value : Json} (converts : converts value = true) : ∃ text, toText value = some text :=
  Option.isSome_iff_exists.mp ((toText_isSome value).trans converts)

theorem port_some {endpoint : Json} (converts : endpointConverts endpoint = true) : ∃ value, AgentRun.port endpoint = some value := by
  have read : (property "port" endpoint).all Desktop.converts = true → 
      ∃ value, toNumber (property "port" endpoint) = some value := by
    intro fits
    cases at_port : property "port" endpoint with
    | none => exact ⟨_, rfl⟩
    | some value =>
      rw [at_port] at fits
      cases value with
      | array items =>
        obtain ⟨text, made⟩ := toText_some (show Desktop.converts (.array items) = true from fits)
        exact ⟨_, congrArg (Option.map _) made⟩
      | object members =>
        obtain ⟨text, made⟩ := toText_some (show Desktop.converts (.object members) = true from fits)
        exact ⟨_, congrArg (Option.map _) made⟩
      | _ => exact ⟨_, rfl⟩
  cases endpoint with
  | null => cases converts
  | _ => exact read converts

theorem errorText_some {message : Json} (refused : (property "ok" message).any truthy = false)
    (converts : replyConverts message = true) : ∃ text, errorText message = some text := by
  rw [replyConverts, refused, Bool.false_or] at converts
  unfold errorText
  cases failed : property "error" message with
  | none => exact ⟨_, rfl⟩
  | some error =>
    rw [failed] at converts
    dsimp only
    split
    · rename_i truth
      rw [Option.filter_some_pos truth] at converts
      cases told : property "message" error with
      | none => exact ⟨_, rfl⟩
      | some text => exact toText_some (by simpa [told] using converts)
    · exact ⟨_, rfl⟩

end Engine

namespace AgentRun
section Orderly
variable [ScriptEngine]

def fileConverts (file : EndpointFile) : Bool :=
  match file.bind ScriptEngine.parse with
  | .ok endpoint => endpointConverts endpoint
  | .error _ => true

def messageConverts (run : AgentRun) : Json → Bool
  | .null => false
  | message => ((property "id" message).bind run.waiting).isNone || replyConverts message

/-- The line that the loop takes next. -/
def nextConverts (run : AgentRun) : Bool :=
  match run.stack, takeLine run.connection.buffer with
  | .consuming _ :: _, some (line, _) => (readLine line).all run.messageConverts
  | _, _ => true

/-- What the code does not see to: it is started only while it holds no socket, neither the endpoint file nor a line is
`null`, and neither the port nor the error of a call that waits has a `toString` of its own. -/
def orderly (run : AgentRun) : AgentEvent → Bool
  | .start file _ | .retry file _ => run.connection.socket.isNone && fileConverts file
  | .proceed => run.nextConverts
  | _ => true

/-- A run that is orderly throughout. -/
def calm : List AgentEvent → AgentRun → Bool
  | [], _ => true
  | event :: events, run => run.orderly event && (run.step event).all (calm events)

end Orderly
end AgentRun

/-- The lines taken of a socket's. -/
def takenFrom (socket : Nat) (lines : List (Nat × List Char)) : List (List Char) :=
  lines.filterMap fun line => if line.1 = socket then some line.2 else none

theorem takenFrom_concat (socket : Nat) (lines : List (Nat × List Char)) (line : Nat × List Char) :
    takenFrom socket (lines ++ [line]) = takenFrom socket lines ++ if line.1 = socket then [line.2] else [] := by
  unfold takenFrom
  rw [List.filterMap_append]
  by_cases same : line.1 = socket
  · simp [same]
  · simp [same]

def eventFrom (socket : Nat) : Emission → Option Json
  | .agentEvent other message => if other = socket then some message else none
  | _ => none

section Meaning
variable [ScriptEngine]

/-- The event on a line, which carries no id. -/
def eventOf (line : List Char) : Option Json := (readLine line).filter fun message => (property "id" message).isNone

/-- A line carries the id. -/
def Answers (id : Nat) (line : List Char) : Prop :=
  ∃ message, readLine line = some message ∧ property "id" message = some (.number id)

/-- Of so many lines, none that its socket has sent since it was written carries the id of a call. -/
def Unanswered (lines : List (Nat × List Char)) (written : Written) (count : Nat) : Prop :=
  ∀ n line, written.since ≤ n → n < count → lines[n]? = some (written.socket, line) → ¬Answers written.id line

/-- What a promise is told for a reply. -/
def Replies (message : Json) (outcome : Except String (Option Json)) : Prop :=
  if (property "ok" message).any truthy then outcome = .ok (property "result" message)
  else ∃ text, errorText message = some text ∧ outcome = .error text

/-- Why a call that was written is settled: by the first line with its id that came on its socket since, by its deadline
where none has come, or by the loss of that socket where none has come. -/
def Settlement.Of (sockets : List AgentSocket) (lines : List (Nat × List Char)) (written : Written) (settlement : Settlement) :
    Prop :=
  settlement.taken ≤ lines.length ∧
    match settlement.cause with
    | .reply => ∃ n line message, settlement.taken = n + 1 ∧ written.since ≤ n ∧
        lines[n]? = some (written.socket, line) ∧ readLine line = some message ∧
          property "id" message = some (.number written.id) ∧ Replies message settlement.outcome ∧
            Unanswered lines written n
    | .deadline => settlement.outcome = .error s!"agent did not answer {written.method}" ∧
        Unanswered lines written settlement.taken
    | .lost reason => settlement.outcome = .error reason.text ∧ Unanswered lines written settlement.taken ∧
        ∃ socket, sockets[written.socket]? = some socket ∧ socket.live = false ∧ socket.ended = some reason
    | .notConnected | .unwritable => False

theorem Unanswered.append {lines : List (Nat × List Char)} {written : Written} {count : Nat}
    (unanswered : Unanswered lines written count) (inside : count ≤ lines.length) (more : List (Nat × List Char)) :
    Unanswered (lines ++ more) written count := by
  intro n line since below at_line
  rw [List.getElem?_append_left (by omega)] at at_line
  exact unanswered n line since below at_line

/-- One more line that does not carry the id. -/
theorem Unanswered.concat {lines : List (Nat × List Char)} {written : Written}
    (unanswered : Unanswered lines written lines.length) {line : Nat × List Char}
    (other : line.1 = written.socket → ¬Answers written.id line.2) :
    Unanswered (lines ++ [line]) written (lines ++ [line]).length := by
  intro n text since below at_line
  rw [List.length_append, List.length_singleton] at below
  by_cases earlier : n < lines.length
  · exact unanswered.append le_rfl [line] n text since earlier at_line
  · obtain rfl : n = lines.length := by omega
    rw [List.getElem?_concat_length] at at_line
    cases at_line
    exact other rfl

/-- A socket that is given up stays as it is. -/
def Later (sockets after : List AgentSocket) : Prop :=
  ∀ (k : Nat) (found : AgentSocket), sockets[k]? = some found → found.ended ≠ none → after[k]? = some found

omit [ScriptEngine] in
theorem Later.refl (sockets : List AgentSocket) : Later sockets sockets := fun _ _ found _ => found

theorem Settlement.Of.later {sockets after : List AgentSocket} {lines : List (Nat × List Char)} {written : Written}
    {settlement : Settlement} (of : settlement.Of sockets lines written) (later : Later sockets after)
    (more : List (Nat × List Char)) : settlement.Of after (lines ++ more) written := by
  obtain ⟨inside, why⟩ := of
  refine ⟨by rw [List.length_append]; omega, ?_⟩
  cases cause : settlement.cause with
  | reply =>
    simp only [cause] at why ⊢
    obtain ⟨n, line, message, taken, since, at_line, read, named, replies, unanswered⟩ := why
    refine ⟨n, line, message, taken, since, ?_, read, named, replies, unanswered.append (by omega) more⟩
    rw [List.getElem?_append_left (by omega)]
    exact at_line
  | deadline =>
    simp only [cause] at why ⊢
    exact ⟨why.1, why.2.append inside more⟩
  | lost reason =>
    simp only [cause] at why ⊢
    obtain ⟨outcome, unanswered, socket, found, dead, ended⟩ := why
    exact ⟨outcome, unanswered.append inside more, socket, later _ _ found (by rw [ended]; nofun), dead, ended⟩
  | notConnected => simp only [cause] at why
  | unwritable => simp only [cause] at why

end Meaning

/-- The sockets that are live or heard are the one that is held. -/
structure Wired (sockets : List AgentSocket) (socket : Option Nat) : Prop where
  attached : ∀ k found, sockets[k]? = some found → found.live ∨ found.heard → socket = some k
  current : ∀ k, socket = some k → ∃ found, sockets[k]? = some found ∧ found.ended = none

/-- What has come on a socket is the lines taken of it and what is left: on the one that is held, the buffer and what the
decoder holds back. -/
structure Spelled (sockets : List AgentSocket) (socket : Option Nat) (buffer : List Char) (decoder : Bytes)
    (lines : List (Nat × List Char)) (stack : List Frame) : Prop where
  known : ∀ line ∈ lines, line.1 < sockets.length
  plain : ∀ line ∈ lines, '\n' ∉ line.2
  given : ∀ k found, sockets[k]? = some found → ∃ rest, (write [] found.received).1 = joined (takenFrom k lines) ++ rest ∧
    (found.ended = some .oversized → '\n' ∉ rest ∧ maxUnterminatedChars < utf16Length rest)
  current : ∀ k found, socket = some k → sockets[k]? = some found →
    write [] found.received = (joined (takenFrom k lines) ++ buffer, decoder)
  down : socket = none → buffer = [] ∧ decoder = []
  looping : ∀ k, .consuming k ∈ stack → socket = some k ∨ buffer = []
  whole : (∀ k, .consuming k ∉ stack) → '\n' ∉ buffer

/-- Something changes about the socket that is held. -/
theorem Wired.later {sockets : List AgentSocket} {held : Option Nat} {socket : Nat} (wired : Wired sockets held)
    (own : held = some socket)
    (change : AgentSocket → AgentSocket) : Later sockets (sockets.modify socket change) := by
  intro k found at_k ended
  rw [List.getElem?_modify_ne]
  · exact at_k
  · rintro rfl
    obtain ⟨current, at_socket, fresh⟩ := wired.current socket own
    obtain rfl := Option.some.inj (at_socket.symm.trans at_k)
    exact ended fresh

theorem Wired.modify {sockets : List AgentSocket} {held : Option Nat} {socket : Nat} (wired : Wired sockets held)
    (own : held = some socket)
    {change : AgentSocket → AgentSocket} (same : ∀ found, (change found).ended = found.ended) :
    Wired (sockets.modify socket change) held where
  attached k found at_k alive := by
    by_cases other : socket = k
    · exact other ▸ own
    · rw [List.getElem?_modify_ne _ _ other] at at_k
      exact wired.attached k found at_k alive
  current k at_held := by
    obtain ⟨found, at_k, fresh⟩ := wired.current k at_held
    obtain rfl := Option.some.inj (own.symm.trans at_held)
    exact ⟨change found, by rw [List.getElem?_modify_eq, at_k]; rfl, (same found).trans fresh⟩

section Answering
variable [ScriptEngine]

/-- How a promise stands: it was refused at once, it waits, or it is settled and waits no more. -/
def AgentPromise.Stands (sockets : List AgentSocket) (socket : Option Nat) (lines : List (Nat × List Char))
    (pending : List Waiter) (call : Nat) (promise : AgentPromise) : Prop :=
  match promise.written with
  | none => ∃ refusal later, promise.settled = refusal :: later ∧
      (refusal.cause = .notConnected ∨ refusal.cause = .unwritable)
  | some written =>
    (promise.settled = [] ∧ socket = some written.socket ∧ written.since ≤ lines.length ∧
      Unanswered lines written lines.length ∧ ⟨written.id, call, written.method⟩ ∈ pending) ∨
    ∃ settlement, promise.settled = [settlement] ∧ settlement.Of sockets lines written ∧ call ∉ pending.map Waiter.call

omit [ScriptEngine] in
@[simp] theorem AgentPromise.tell_written (settlement : Settlement) (promise : AgentPromise) :
    (promise.tell settlement).written = promise.written := rfl

omit [ScriptEngine] in
@[simp] theorem AgentPromise.tell_settled (settlement : Settlement) (promise : AgentPromise) :
    (promise.tell settlement).settled = promise.settled ++ [settlement] := rfl

structure Answered (sockets : List AgentSocket) (socket : Option Nat) (lines : List (Nat × List Char))
    (promises : List AgentPromise) (pending : List Waiter) (nextId : Nat) : Prop where
  fresh : ∀ waiter ∈ pending, waiter.id < nextId
  ids : (pending.map Waiter.id).Nodup
  calls : (pending.map Waiter.call).Nodup
  waiter : ∀ waiter ∈ pending, ∃ promise, promises[waiter.call]? = some promise
  stands : ∀ (call : Nat) (promise : AgentPromise), promises[call]? = some promise →
    promise.Stands sockets socket lines pending call

def Delivered (emitted : List Emission) (lines : List (Nat × List Char)) : Prop :=
  ∀ socket, emitted.filterMap (eventFrom socket) = (takenFrom socket lines).filterMap eventOf

end Answering

/-- Whether the loop is being run is all that matters of what is being run. -/
theorem Spelled.restack {sockets : List AgentSocket} {socket : Option Nat} {buffer : List Char} {decoder : Bytes}
    {lines : List (Nat × List Char)} {stack other : List Frame}
    (spelled : Spelled sockets socket buffer decoder lines stack) (same : ∀ k, .consuming k ∈ other ↔ .consuming k ∈ stack) :
    Spelled sockets socket buffer decoder lines other :=
  { spelled with
    looping := fun k member => spelled.looping k ((same k).mp member)
    whole := fun none => spelled.whole fun k member => none k ((same k).mpr member) }

section Steps
variable {sockets after : List AgentSocket} {socket : Option Nat} {lines : List (Nat × List Char)}
  {promises : List AgentPromise} {pending : List Waiter} {nextId : Nat}

theorem getElem?_concat {α : Type} {items : List α} {item last : α} {i : Nat} (found : (items ++ [last])[i]? = some item) :
    items[i]? = some item ∨ i = items.length ∧ item = last := by
  rw [List.getElem?_append] at found
  split at found
  · exact Or.inl found
  · obtain ⟨at_last, same⟩ := List.getElem?_eq_some_iff.mp found
    rw [List.length_singleton] at at_last
    simp only [List.getElem_singleton] at same
    exact Or.inr ⟨by omega, same.symm⟩

/-- Something is said to each promise of a list. -/
theorem getElem?_foldl_modify {α : Type} (f : α → α) {places : List Nat} (distinct : places.Nodup) (items : List α) (i : Nat) :
    (places.foldl (fun items place => items.modify place f) items)[i]? =
      if i ∈ places then items[i]?.map f else items[i]? := by
  induction places generalizing items with
  | nil => rfl
  | cons place places ih =>
    obtain ⟨other, distinct⟩ := List.nodup_cons.mp distinct
    rw [List.foldl_cons, ih distinct, List.getElem?_modify]
    by_cases same : place = i
    · subst same
      rw [if_neg other, if_pos List.mem_cons_self]
      simp
    · have apart : i ∈ place :: places ↔ i ∈ places := by simp [Ne.symm same]
      simp [same, apart]

variable [ScriptEngine]

theorem Answered.below (answered : Answered sockets socket lines promises pending nextId) {waiter : Waiter}
    (member : waiter ∈ pending) : waiter.call < promises.length := by
  obtain ⟨promise, found⟩ := answered.waiter waiter member
  exact (List.getElem?_eq_some_iff.mp found).1

/-- A call that waits has its own id and method. -/
theorem Answered.same (answered : Answered sockets socket lines promises pending nextId) {waiter : Waiter}
    (member : waiter ∈ pending) {promise : AgentPromise} (found : promises[waiter.call]? = some promise) {written : Written}
    (wrote : promise.written = some written) :
    promise.settled = [] ∧ socket = some written.socket ∧ written.since ≤ lines.length ∧
      Unanswered lines written lines.length ∧ waiter = ⟨written.id, waiter.call, written.method⟩ := by
  have stands := answered.stands waiter.call promise found
  rw [AgentPromise.Stands, wrote] at stands
  rcases stands with ⟨open', up, since, unanswered, there⟩ | ⟨_, _, _, gone⟩
  · exact ⟨open', up, since, unanswered, List.inj_on_of_nodup_map answered.calls member there rfl⟩
  · exact absurd (List.mem_map_of_mem member) gone

/-- What becomes of the sockets and the lines that no waiting call is concerned with. -/
theorem Answered.passes (answered : Answered sockets socket lines promises pending nextId) (later : Later sockets after)
    (more : List (Nat × List Char)) (held : Option Nat)
    (waits : ∀ written, socket = some written.socket → written.since ≤ lines.length → Unanswered lines written lines.length →
      (∃ call, ⟨written.id, call, written.method⟩ ∈ pending) →
        held = some written.socket ∧ Unanswered (lines ++ more) written (lines ++ more).length) :
    Answered after held (lines ++ more) promises pending nextId where
  fresh := answered.fresh
  ids := answered.ids
  calls := answered.calls
  waiter := answered.waiter
  stands call promise found := by
    have stands := answered.stands call promise found
    unfold AgentPromise.Stands at stands ⊢
    cases wrote : promise.written with
    | none => simpa [wrote] using stands
    | some written =>
      simp only [wrote] at stands ⊢
      rcases stands with ⟨open', up, since, unanswered, there⟩ | ⟨settlement, settled, of, gone⟩
      · obtain ⟨still, none⟩ := waits written up since unanswered ⟨call, there⟩
        exact Or.inl ⟨open', still, by rw [List.length_append]; omega, none, there⟩
      · exact Or.inr ⟨settlement, settled, of.later later more, gone⟩

/-- The sockets change, and nothing is taken. -/
theorem Answered.rewired (answered : Answered sockets socket lines promises pending nextId) (later : Later sockets after) :
    Answered after socket lines promises pending nextId := by
  have passes := answered.passes later [] socket fun written up _ unanswered _ => ⟨up, by simpa using unanswered⟩
  rwa [List.append_nil] at passes

/-- A call that waits is settled. -/
theorem Answered.settles (answered : Answered sockets socket lines promises pending nextId) (later : Later sockets after)
    {waiter : Waiter} (member : waiter ∈ pending) (more : List (Nat × List Char)) {settlement : Settlement}
    (of : ∀ written, socket = some written.socket → written.id = waiter.id → written.method = waiter.method →
      written.since ≤ lines.length → Unanswered lines written lines.length → settlement.Of after (lines ++ more) written)
    (others : ∀ written, socket = some written.socket → written.id ≠ waiter.id → Unanswered lines written lines.length →
      Unanswered (lines ++ more) written (lines ++ more).length) :
    Answered after socket (lines ++ more)
      (promises.modify waiter.call (AgentPromise.tell settlement))
      (pending.filter fun other => other.id ≠ waiter.id) nextId where
  fresh other there := answered.fresh other (List.mem_filter.mp there).1
  ids := answered.ids.sublist (List.filter_sublist.map Waiter.id)
  calls := answered.calls.sublist (List.filter_sublist.map Waiter.call)
  waiter other there := by
    obtain ⟨promise, found⟩ := answered.waiter other (List.mem_filter.mp there).1
    rw [List.getElem?_modify, found]
    exact ⟨_, rfl⟩
  stands call told found := by
    rw [List.getElem?_modify] at found
    obtain ⟨promise, before, same⟩ := Option.map_eq_some_iff.mp found
    have stands := answered.stands call promise before
    by_cases own : waiter.call = call
    · subst own
      rw [if_pos rfl] at same
      cases same
      unfold AgentPromise.Stands at stands ⊢
      simp only [AgentPromise.tell_written, AgentPromise.tell_settled]
      cases wrote : promise.written with
      | none =>
        simp only [wrote] at stands ⊢
        obtain ⟨refusal, rest, settled, cause⟩ := stands
        exact ⟨refusal, rest ++ [settlement], by rw [settled, List.cons_append], cause⟩
      | some written =>
        simp only
        obtain ⟨open', up, since, unanswered, known⟩ := answered.same member before wrote
        refine Or.inr ⟨settlement, by rw [open', List.nil_append], ?_, ?_⟩
        · exact of written up (congrArg Waiter.id known).symm (congrArg Waiter.method known).symm since unanswered
        · intro still
          obtain ⟨other, there, calls⟩ := List.mem_map.mp still
          obtain ⟨there, apart⟩ := List.mem_filter.mp there
          have same := List.inj_on_of_nodup_map answered.calls there member calls
          exact absurd (congrArg Waiter.id same) (by simpa using apart)
    · rw [if_neg own] at same
      cases same
      unfold AgentPromise.Stands at stands ⊢
      cases wrote : told.written with
      | none => simpa [wrote] using stands
      | some written =>
        simp only [wrote] at stands ⊢
        rcases stands with ⟨open', up, since, unanswered, there⟩ | ⟨reason, settled, why, gone⟩
        · have apart : written.id ≠ waiter.id := by
            intro same
            have one := List.inj_on_of_nodup_map answered.ids there member same
            exact own (congrArg Waiter.call one).symm
          refine Or.inl ⟨open', up, by rw [List.length_append]; omega, others written up apart unanswered, ?_⟩
          exact List.mem_filter.mpr ⟨there, by simpa using apart⟩
        · refine Or.inr ⟨reason, settled, why.later later more, fun still => gone ?_⟩
          exact List.map_subset _ (List.filter_subset_self pending) still

/-- All that wait are told that their socket is lost. -/
theorem Answered.lost (answered : Answered sockets socket lines promises pending nextId) (later : Later sockets after)
    {reason : Failure} (gone : ∀ k, socket = some k → ∃ found, after[k]? = some found ∧ found.live = false ∧ found.ended = some reason) :
    Answered after none lines
      ((pending.map Waiter.call).foldl (fun promises call => promises.modify call
        (AgentPromise.tell ⟨.lost reason, lines.length, .error reason.text⟩)) promises) [] nextId where
  fresh _ never := nomatch never
  ids := List.nodup_nil
  calls := List.nodup_nil
  waiter _ never := nomatch never
  stands call told found := by
    rw [getElem?_foldl_modify _ answered.calls] at found
    by_cases waits : call ∈ pending.map Waiter.call
    · rw [if_pos waits] at found
      obtain ⟨promise, before, same⟩ := Option.map_eq_some_iff.mp found
      cases same
      have stands := answered.stands call promise before
      unfold AgentPromise.Stands at stands ⊢
      simp only [AgentPromise.tell_written, AgentPromise.tell_settled]
      cases wrote : promise.written with
      | none =>
        simp only [wrote] at stands ⊢
        obtain ⟨refusal, rest, settled, cause⟩ := stands
        exact ⟨refusal, rest ++ [_], by rw [settled, List.cons_append], cause⟩
      | some written =>
        simp only [wrote] at stands ⊢
        rcases stands with ⟨open', up, since, unanswered, _⟩ | ⟨_, _, _, never⟩
        · refine Or.inr ⟨⟨.lost reason, lines.length, .error reason.text⟩, by rw [open', List.nil_append],
            ⟨le_rfl, rfl, unanswered, gone _ up⟩, List.not_mem_nil⟩
        · exact absurd waits never
    · rw [if_neg waits] at found
      have stands := answered.stands call told found
      unfold AgentPromise.Stands at stands ⊢
      cases wrote : told.written with
      | none => simpa [wrote] using stands
      | some written =>
        simp only [wrote] at stands ⊢
        rcases stands with ⟨_, _, _, _, there⟩ | ⟨settlement, settled, of, _⟩
        · exact absurd (List.mem_map_of_mem there) waits
        · refine Or.inr ⟨settlement, settled, ?_, List.not_mem_nil⟩
          simpa using of.later later []

/-- A call that is refused at once, and waits for nothing or for what it does not heed. -/
theorem Answered.refuses (answered : Answered sockets socket lines promises pending nextId) {refusal : Settlement}
    (cause : refusal.cause = .notConnected ∨ refusal.cause = .unwritable) :
    Answered sockets socket lines (promises ++ [⟨none, [refusal]⟩]) pending nextId where
  fresh := answered.fresh
  ids := answered.ids
  calls := answered.calls
  waiter waiter member := by
    obtain ⟨promise, found⟩ := answered.waiter waiter member
    exact ⟨promise, by rw [List.getElem?_append_left (answered.below member)]; exact found⟩
  stands call promise found := by
    rcases getElem?_concat found with before | ⟨_, rfl⟩
    · exact answered.stands call promise before
    · exact ⟨refusal, [], rfl, cause⟩

/-- A call that waits from now on. -/
theorem Answered.asks (answered : Answered sockets socket lines promises pending nextId) {promise : AgentPromise}
    {method : String}
    (stands : promise.Stands sockets socket lines (pending ++ [⟨nextId, promises.length, method⟩]) promises.length) :
    Answered sockets socket lines (promises ++ [promise]) (pending ++ [⟨nextId, promises.length, method⟩]) (nextId + 1) where
  fresh waiter member := by
    rcases List.mem_append.mp member with old | new
    · exact Nat.lt_succ_of_lt (answered.fresh waiter old)
    · cases List.mem_singleton.mp new
      exact Nat.lt_succ_self nextId
  ids := by
    rw [List.map_append]
    refine List.nodup_append.mpr ⟨answered.ids, List.nodup_singleton _, fun id old other new => ?_⟩
    cases List.mem_singleton.mp new
    obtain ⟨waiter, member, rfl⟩ := List.mem_map.mp old
    exact (answered.fresh waiter member).ne
  calls := by
    rw [List.map_append]
    refine List.nodup_append.mpr ⟨answered.calls, List.nodup_singleton _, fun call old other new => ?_⟩
    cases List.mem_singleton.mp new
    obtain ⟨waiter, member, rfl⟩ := List.mem_map.mp old
    exact (answered.below member).ne
  waiter waiter member := by
    rcases List.mem_append.mp member with old | new
    · obtain ⟨promise, found⟩ := answered.waiter waiter old
      exact ⟨promise, by rw [List.getElem?_append_left (answered.below old)]; exact found⟩
    · cases List.mem_singleton.mp new
      exact ⟨promise, List.getElem?_concat_length⟩
  stands call told found := by
    by_cases earlier : call < promises.length
    · rw [List.getElem?_append_left earlier] at found
      have before := answered.stands call told found
      unfold AgentPromise.Stands at before ⊢
      cases wrote : told.written with
      | none => simpa [wrote] using before
      | some written =>
        simp only [wrote] at before ⊢
        rcases before with ⟨open', up, since, unanswered, there⟩ | ⟨settlement, settled, of, gone⟩
        · exact Or.inl ⟨open', up, since, unanswered, List.mem_append_left _ there⟩
        · refine Or.inr ⟨settlement, settled, of, ?_⟩
          rw [List.map_append, List.mem_append]
          rintro (still | new)
          · exact gone still
          · exact earlier.ne (List.mem_singleton.mp new)
    · have last : call = promises.length := by
        have inside := (List.getElem?_eq_some_iff.mp found).1
        rw [List.length_append, List.length_singleton] at inside
        omega
      subst last
      rw [List.getElem?_concat_length] at found
      cases found
      exact stands

/-- A line that is no reply to any call that waits. -/
theorem Answered.ignores (answered : Answered sockets socket lines promises pending nextId) {line : Nat × List Char}
    (none : ∀ waiter ∈ pending, ¬Answers waiter.id line.2) :
    Answered sockets socket (lines ++ [line]) promises pending nextId := by
  refine answered.passes (Later.refl sockets) _ socket fun written up _ unanswered ⟨call, there⟩ => ⟨up, ?_⟩
  exact unanswered.concat fun _ => none _ there

/-- A line that brings no event leaves the events as they are. -/
theorem Delivered.concat {emitted : List Emission} (delivered : Delivered emitted lines) {line : Nat × List Char}
    (none : eventOf line.2 = Option.none) : Delivered emitted (lines ++ [line]) := by
  intro k
  rw [takenFrom_concat, List.filterMap_append, delivered k]
  by_cases same : line.1 = k
  · simp [same, none]
  · simp [same]

theorem Delivered.event {emitted : List Emission} (delivered : Delivered emitted lines) (origin : Nat) {line : List Char}
    {message : Json} (event : eventOf line = some message) :
    Delivered (emitted ++ [.agentEvent origin message]) (lines ++ [(origin, line)]) := by
  intro k
  rw [takenFrom_concat, List.filterMap_append, List.filterMap_append, delivered k]
  by_cases same : origin = k
  · simp [eventFrom, same, event]
  · simp [eventFrom, same]

end Steps

namespace AgentRun
variable {run later : AgentRun} {socket : Nat}

section Core
variable [ScriptEngine]

/-- What holds between the accesses of a step. -/
structure Core (run : AgentRun) : Prop where
  silent : run.threw = false
  wired : Wired run.sockets run.connection.socket
  spelled : Spelled run.sockets run.connection.socket run.connection.buffer run.connection.decoder run.lines run.stack
  answered : Answered run.sockets run.connection.socket run.lines run.promises run.connection.pending run.connection.nextId
  delivered : Delivered run.emitted run.lines

/-- What the runs keep. The socket that is held is live. -/
structure Kept (run : AgentRun) : Prop extends Core run where
  up : ∀ k, run.connection.socket = some k → run.isLive k

theorem Kept.initial : initial.Kept where
  silent := rfl
  wired := ⟨nofun, nofun⟩
  spelled := ⟨nofun, nofun, nofun, nofun, fun _ => ⟨rfl, rfl⟩, nofun, fun _ => List.not_mem_nil⟩
  answered := ⟨nofun, List.nodup_nil, List.nodup_nil, nofun, nofun⟩
  delivered _ := rfl
  up := nofun

/-- The socket that is given up is the only one that changes. -/
def dropped (reason : Failure) (run : AgentRun) : List AgentSocket :=
  match run.connection.socket with
  | some socket => run.sockets.modify socket fun dropped => { dropped with live := false, heard := false, ended := some reason }
  | none => run.sockets

omit [ScriptEngine] in
theorem foldl_settle (reason : Failure) (waiters : List Waiter) (run : AgentRun) :
    waiters.foldl (fun run waiter => run.settle (.lost reason) (.error reason.text) waiter.call) run =
      { run with promises := (waiters.map Waiter.call).foldl (fun promises call => promises.modify call
          (AgentPromise.tell ⟨.lost reason, run.lines.length, .error reason.text⟩)) run.promises } := by
  induction waiters generalizing run with
  | nil => rfl
  | cons waiter waiters ih =>
    rw [List.foldl_cons, ih]
    rfl

omit [ScriptEngine] in
theorem discard_eq (reason : Failure) (run : AgentRun) : run.discard reason =
    { run with
      sockets := run.dropped reason
      promises := (run.connection.pending.map Waiter.call).foldl (fun promises call => promises.modify call
        (AgentPromise.tell ⟨.lost reason, run.lines.length, .error reason.text⟩)) run.promises
      connection := { run.connection with
        connected := false
        socket := none
        pending := []
        buffer := []
        decoder := [] } } := by
  unfold discard
  simp only [foldl_settle]
  rfl

/-- Giving up the socket that is held, if any. -/
theorem Core.discard (core : run.Core) {reason : Failure}
    (oversized : reason = .oversized → '\n' ∉ run.connection.buffer ∧ maxUnterminatedChars < utf16Length run.connection.buffer) :
    (run.discard reason).Kept := by
  obtain ⟨silent, wired, spelled, answered, delivered⟩ := core
  have size : (run.dropped reason).length = run.sockets.length := by
    unfold dropped
    split
    · exact List.length_modify ..
    · rfl
  have others : ∀ k, run.connection.socket ≠ some k → (run.dropped reason)[k]? = run.sockets[k]? := by
    intro k apart
    unfold dropped
    split
    · rename_i socket held
      exact List.getElem?_modify_ne _ _ fun same => apart (same ▸ held)
    · rfl
  have own : ∀ k, run.connection.socket = some k → ∃ found, run.sockets[k]? = some found ∧
      (run.dropped reason)[k]? = some { found with live := false, heard := false, ended := some reason } := by
    intro k held
    obtain ⟨found, at_k, _⟩ := wired.current k held
    refine ⟨found, at_k, ?_⟩
    unfold dropped
    simp [held, at_k]
  have later : Later run.sockets (run.dropped reason) := by
    intro k found at_k ended
    rw [others k fun held => ?_]
    · exact at_k
    · obtain ⟨current, at_current, fresh⟩ := wired.current k held
      obtain rfl := Option.some.inj (at_current.symm.trans at_k)
      exact ended fresh
  rw [discard_eq]
  refine { silent, wired := ⟨fun k found at_k alive => ?_, nofun⟩, spelled := ?_, answered := ?_, delivered, up := nofun }
  · by_cases held : run.connection.socket = some k
    · obtain ⟨_, _, dead⟩ := own k held
      obtain rfl := Option.some.inj (at_k.symm.trans dead)
      exact absurd alive (by simp)
    · exact absurd (wired.attached k found (others k held ▸ at_k) alive) held
  · refine ⟨size ▸ spelled.known, spelled.plain, fun k found at_k => ?_, nofun, fun _ => ⟨rfl, rfl⟩, fun _ _ => Or.inr rfl,
      fun _ => List.not_mem_nil⟩
    by_cases held : run.connection.socket = some k
    · obtain ⟨before, at_before, dead⟩ := own k held
      obtain rfl := Option.some.inj (at_k.symm.trans dead)
      refine ⟨run.connection.buffer, congrArg Prod.fst (spelled.current k before held at_before), fun ended => ?_⟩
      exact oversized (Option.some.inj ended)
    · exact spelled.given k found (others k held ▸ at_k)
  · refine answered.lost later fun k held => ?_
    obtain ⟨_, _, dead⟩ := own k held
    exact ⟨_, dead, rfl, rfl⟩

/-- What is emitted beside events. -/
theorem Kept.emit (kept : run.Kept) {emission : Emission} (status : ∀ socket, eventFrom socket emission = none)
    {behind : List Frame} (same : ∀ k, .consuming k ∈ behind ↔ .consuming k ∈ run.stack) :
    (run.emit emission behind).Kept :=
  { kept with
    spelled := kept.spelled.restack fun k => by simpa [AgentRun.emit] using same k
    delivered := fun socket => by
      rw [AgentRun.emit, List.filterMap_append, List.filterMap_cons_none (status socket)]
      simpa using kept.delivered socket }

theorem Core.fail (core : run.Core) {reason : Failure}
    (oversized : reason = .oversized → '\n' ∉ run.connection.buffer ∧ maxUnterminatedChars < utf16Length run.connection.buffer) :
    (run.fail reason).Kept := by
  have noted : ({ run with connection := { run.connection with lastError := some reason.text } } : AgentRun).Core :=
    ⟨core.silent, core.wired, core.spelled, core.answered, core.delivered⟩
  exact (noted.discard oversized).emit (fun _ => rfl) fun k => by rw [discard_eq]; simp

end Core
end AgentRun

namespace AgentRun
variable {run later : AgentRun} {socket : Nat}

section Steps
variable [ScriptEngine]

theorem Kept.connectTo (kept : run.Kept) (free : run.connection.socket = none) (token : Option Json)
    (connects : Except String Unit) : (run.connectTo token connects).Kept := by
  have core := kept.toCore
  unfold AgentRun.connectTo
  cases connects with
  | error detail =>
    have noted : ({ run with connection := { run.connection with token } } : AgentRun).Core :=
      ⟨core.silent, core.wired, core.spelled, core.answered, core.delivered⟩
    exact noted.fail nofun
  | ok _ =>
    obtain ⟨silent, wired, spelled, answered, delivered⟩ := core
    obtain ⟨buffer, decoder⟩ := spelled.down free
    have unknown : takenFrom run.sockets.length run.lines = [] := by
      refine List.filterMap_eq_nil_iff.mpr fun line member => if_neg ?_
      exact (spelled.known line member).ne
    have later : Later run.sockets (run.sockets ++ [⟨true, true, [], none⟩]) := by
      intro k found at_k _
      rw [List.getElem?_append_left (List.getElem?_eq_some_iff.mp at_k).1]
      exact at_k
    refine { silent, wired := ⟨fun k found at_k alive => ?_, fun k held => ?_⟩, spelled := ?_, answered := ?_, delivered, up := fun k held => ?_ }
    · rcases getElem?_concat at_k with before | ⟨rfl, _⟩
      · have held := wired.attached k found before alive
        rw [free] at held
        cases held
      · rfl
    · cases held
      exact ⟨_, List.getElem?_concat_length, rfl⟩
    · refine ⟨fun line member => ?_, spelled.plain, fun k found at_k => ?_, fun k found held at_k => ?_, nofun,
        fun _ _ => Or.inr buffer, fun _ => ?_⟩
      · rw [List.length_append]
        exact Nat.lt_add_right _ (spelled.known line member)
      · rcases getElem?_concat at_k with before | ⟨rfl, rfl⟩
        · exact spelled.given k found before
        · refine ⟨[], ?_, nofun⟩
          rw [unknown]
          rfl
      · cases held
        rw [List.getElem?_concat_length] at at_k
        cases at_k
        rw [unknown, buffer, decoder]
        rfl
      · rw [buffer]
        exact List.not_mem_nil
    · have passes := answered.passes later [] (some run.sockets.length) fun written up => by
        rw [free] at up
        cases up
      rwa [List.append_nil] at passes
    · cases held
      simp [isLive]

theorem Kept.start (kept : run.Kept) {file : EndpointFile} (free : run.connection.socket = none)
    (converts : fileConverts file = true) (connects : Except String Unit) : (run.start file connects).Kept := by
  have ready : ({ run with connection := { run.connection with retryTimer := false, reachedAgent := false } } : AgentRun).Kept :=
    { kept with }
  unfold AgentRun.start
  unfold fileConverts at converts
  cases read : file.bind ScriptEngine.parse with
  | error detail => exact ready.toCore.fail nofun
  | ok endpoint =>
    rw [read] at converts
    obtain ⟨value, found⟩ := port_some converts
    simp only [found]
    cases value with
    | none => exact ready.toCore.fail nofun
    | some port =>
      dsimp only
      split
      · exact ready.toCore.fail nofun
      · exact ready.connectTo free _ _

theorem Kept.stop (kept : run.Kept) : run.stop.Kept := by
  have core := kept.toCore
  have unscheduled : ({ run with connection := { run.connection with retryTimer := false } } : AgentRun).Core :=
    ⟨core.silent, core.wired, core.spelled, core.answered, core.delivered⟩
  exact unscheduled.discard nofun

theorem Kept.call (kept : run.Kept) (method : String) (params : Except String Json) : (run.call method params).Kept := by
  obtain ⟨⟨silent, wired, spelled, answered, delivered⟩, up⟩ := kept
  unfold AgentRun.call
  split
  · rename_i socket held _
    refine { silent, wired, spelled, delivered, up, answered := ?_ }
    cases params with
    | ok params =>
      refine answered.asks (Or.inl ⟨rfl, held, le_rfl, ?_, List.mem_append_right _ (List.mem_singleton_self _)⟩)
      intro n line since below
      exact absurd since (Nat.not_le.mpr below)
    | error message => exact answered.asks ⟨_, [], rfl, Or.inr rfl⟩
  · exact { silent, wired, spelled, delivered, up, answered := answered.refuses (Or.inl rfl) }

/-- The loop takes a line that nobody waits for. -/
theorem Kept.takes (kept : run.Kept) {behind : List Frame} (looping : run.stack = .consuming socket :: behind)
    {line buffer : List Char} (next : takeLine run.connection.buffer = some (line, buffer)) :
    run.connection.socket = some socket ∧
      Spelled run.sockets run.connection.socket buffer run.connection.decoder (run.lines ++ [(socket, line)]) run.stack := by
  obtain ⟨⟨silent, wired, spelled, answered, delivered⟩, up⟩ := kept
  obtain ⟨split, plain⟩ := takeLine_eq_some next
  have some : run.connection.buffer ≠ [] := by
    rw [split]
    simp
  have held : run.connection.socket = Option.some socket :=
    (spelled.looping socket (looping ▸ List.mem_cons_self)).resolve_right some
  obtain ⟨found, at_socket, _⟩ := wired.current socket held
  refine ⟨held, ?_, ?_, fun k other at_k => ?_, fun k other up at_k => ?_, fun down => ?_, fun k member => ?_, fun none => ?_⟩
  · intro entry member
    rcases List.mem_append.mp member with old | new
    · exact spelled.known entry old
    · cases List.mem_singleton.mp new
      exact (List.getElem?_eq_some_iff.mp at_socket).1
  · intro entry member
    rcases List.mem_append.mp member with old | new
    · exact spelled.plain entry old
    · cases List.mem_singleton.mp new
      exact plain
  · rw [takenFrom_concat]
    by_cases same : socket = k
    · subst same
      obtain rfl := Option.some.inj (at_socket.symm.trans at_k)
      have text := congrArg Prod.fst (spelled.current socket found held at_socket)
      obtain ⟨_, at_own, fresh⟩ := wired.current socket held
      obtain rfl := Option.some.inj (at_socket.symm.trans at_own)
      refine ⟨buffer, ?_, fun ended => by rw [fresh] at ended; cases ended⟩
      rw [if_pos rfl, joined_concat, text, split]
      simp
    · rw [if_neg same, List.append_nil]
      exact spelled.given k other at_k
  · have same : socket = k := Option.some.inj (held.symm.trans up)
    subst same
    rw [takenFrom_concat, if_pos rfl, joined_concat, spelled.current socket other held at_k, split]
    simp
  · rw [held] at down
    cases down
  · exact Or.inl ((spelled.looping k member).resolve_right some)
  · exact absurd (looping ▸ List.mem_cons_self) (none socket)

omit [ScriptEngine] in
/-- A call that waits has its waiter found by its id. -/
theorem waiting_of_mem {id : Nat} {waiter : Waiter} (member : waiter ∈ run.connection.pending) (named : waiter.id = id) :
    run.waiting (.number id) ≠ none := by
  intro missing
  have none := List.find?_eq_none.mp missing waiter member
  exact none (by simp [named])

omit [ScriptEngine] in
theorem waiting_eq_some {id : Json} {waiter : Waiter} (found : run.waiting id = some waiter) :
    waiter ∈ run.connection.pending ∧ id = .number waiter.id := by
  cases id with
  | number id =>
    refine ⟨List.mem_of_find?_eq_some found, congrArg Json.number ?_⟩
    have same := List.find?_some found
    exact (of_decide_eq_true same).symm
  | _ => cases found

theorem handle_eq {line : List Char} {message : Json} (read : readLine line = some message) (some : message ≠ .null)
    (run : AgentRun) : run.handle socket line =
      match property "id" message with
      | none => run.emit (.agentEvent socket message) run.stack
      | Option.some id =>
        match run.waiting id with
        | none => run
        | Option.some waiter => run.reply waiter message := by
  unfold handle
  rw [read]
  cases message with
  | null => exact absurd rfl some
  | _ => rfl

/-- The first line that carries the id of a call settles it. -/
theorem Kept.replied (kept : run.Kept) {line buffer : List Char} (held : run.connection.socket = some socket)
    (spelled : Spelled run.sockets run.connection.socket buffer run.connection.decoder (run.lines ++ [(socket, line)]) run.stack)
    {waiter : Waiter} (member : waiter ∈ run.connection.pending) {message : Json} (read : readLine line = some message)
    (named : property "id" message = some (.number waiter.id)) {outcome : Except String (Option Json)}
    (replies : Replies message outcome) :
    (((run.take socket line buffer).forget waiter.id).settle .reply outcome waiter.call).Kept := by
  have none : eventOf line = Option.none := by
    rw [eventOf, read, Option.filter_some_neg (by rw [named]; rfl)]
  refine { kept with spelled, delivered := kept.delivered.concat none, answered := ?_ }
  refine kept.answered.settles (Later.refl run.sockets) member _ (fun written up id _ since unanswered => ?_)
    fun written up apart unanswered => ?_
  · have own : written.socket = socket := Option.some.inj (up.symm.trans held)
    refine ⟨le_rfl, run.lines.length, line, message, List.length_append, since, ?_, read, id ▸ named, replies,
      unanswered.append le_rfl _⟩
    rw [own]
    exact List.getElem?_concat_length
  · refine unanswered.concat fun _ ⟨other, found, answers⟩ => apart ?_
    obtain rfl := Option.some.inj (read.symm.trans found)
    have same := named.symm.trans answers
    simp only [Option.some.injEq, Json.number.injEq, Int.natCast_inj] at same
    exact same.symm

/-- Once round the loop, or what is behind it. -/
theorem Kept.consume (kept : run.Kept) {behind : List Frame} (looping : run.stack = .consuming socket :: behind)
    (converts : run.nextConverts = true) : (run.consume socket behind).Kept := by
  unfold AgentRun.consume
  cases next : takeLine run.connection.buffer with
  | none =>
    have plain := takeLine_eq_none.mp next
    have popped : ({ run with stack := behind } : AgentRun).Kept :=
      { kept with
        spelled := { kept.spelled with
          looping := fun k member => kept.spelled.looping k (looping ▸ List.mem_cons_of_mem _ member)
          whole := fun _ => plain } }
    dsimp only
    split
    · rename_i long
      exact popped.toCore.fail fun _ => ⟨plain, long⟩
    · exact popped
  | some taken =>
    obtain ⟨line, buffer⟩ := taken
    obtain ⟨held, spelled⟩ := kept.takes looping next
    unfold nextConverts at converts
    rw [looping, next] at converts
    dsimp only at converts ⊢
    cases read : readLine line with
    | none =>
      unfold handle
      rw [read]
      have none : eventOf line = Option.none := by rw [eventOf, read, Option.filter_none]
      refine { kept with spelled, delivered := kept.delivered.concat none, answered := kept.answered.ignores ?_ }
      rintro waiter _ ⟨message, found, _⟩
      rw [read] at found
      cases found
    | some message =>
      rw [read] at converts
      have fits : run.messageConverts message = true := converts
      have some : message ≠ .null := by
        rintro rfl
        cases fits
      rw [handle_eq read some]
      cases named : property "id" message with
      | none =>
        have event : eventOf line = Option.some message := by
          rw [eventOf, read, Option.filter_some_pos (by rw [named]; rfl)]
        have delivered : Delivered (run.emitted ++ [.agentEvent socket message]) (run.lines ++ [(socket, line)]) :=
          kept.delivered.event socket event
        refine { kept with
          spelled := spelled.restack fun k => ?_
          delivered
          answered := kept.answered.ignores ?_ }
        · exact List.mem_cons.trans (or_iff_right nofun)
        rintro waiter _ ⟨other, found, answers⟩
        obtain rfl := Option.some.inj (read.symm.trans found)
        rw [named] at answers
        cases answers
      | some id =>
        dsimp only
        cases found : waiting id run with
        | none =>
          have quiet : (run.take socket line buffer).waiting id = none := found
          rw [quiet]
          have none : eventOf line = Option.none := by
            rw [eventOf, read, Option.filter_some_neg (by rw [named]; rfl)]
          refine { kept with spelled, delivered := kept.delivered.concat none, answered := kept.answered.ignores ?_ }
          rintro waiter member ⟨other, again, answers⟩
          obtain rfl := Option.some.inj (read.symm.trans again)
          obtain rfl := Option.some.inj (named.symm.trans answers)
          exact waiting_of_mem member rfl found
        | some waiter =>
          have waits : (run.take socket line buffer).waiting id = Option.some waiter := found
          rw [waits]
          obtain ⟨member, rfl⟩ := waiting_eq_some found
          unfold reply
          dsimp only
          split
          · rename_i accepted
            refine kept.replied held spelled member read named ?_
            rw [Replies, if_pos accepted]
          · rename_i refused
            have shown : replyConverts message = true := by
              unfold messageConverts at fits
              split at fits
              · exact absurd rfl some
              · rw [named, Option.bind_some, found] at fits
                exact fits
            obtain ⟨text, made⟩ := errorText_some (Bool.eq_false_iff.mpr refused) shown
            rw [made]
            refine kept.replied held spelled member read named ?_
            unfold Replies
            rw [if_neg refused]
            exact ⟨text, made, rfl⟩

theorem Kept.proceed (kept : run.Kept) (converts : run.nextConverts = true) (ran : run.proceed = some later) :
    later.Kept := by
  unfold AgentRun.proceed at ran
  have popped : ∀ frame behind, run.stack = frame :: behind → (∀ k, frame ≠ .consuming k) →
      ({ run with stack := behind } : AgentRun).Kept := fun frame behind top other =>
    { kept with spelled := kept.spelled.restack fun k => by simp [top, Ne.symm (other k)] }
  split at ran
  · rename_i socket behind looping
    cases ran
    exact kept.consume looping converts
  · rename_i behind top
    cases ran
    have ready := popped _ _ top nofun
    exact { ready with }
  · rename_i behind top
    cases ran
    exact (popped _ _ top nofun).call _ _
  · cases ran

/-- What a socket that is heard is about. -/
theorem Core.heard (core : run.Core) (hears : run.hears socket = true) :
    run.stack = [] ∧ run.connection.socket = some socket := by
  rw [AgentRun.hears, Bool.and_eq_true] at hears
  obtain ⟨idle, heard⟩ := hears
  cases at_socket : run.sockets[socket]? with
  | none =>
    rw [at_socket] at heard
    cases heard
  | some found =>
    rw [at_socket] at heard
    exact ⟨of_decide_eq_true idle, core.wired.attached socket found at_socket (Or.inr heard)⟩

end Steps

section Runs
variable [ScriptEngine]

/-- The socket that is held is closed. -/
theorem Core.ends (core : run.Core) (own : run.connection.socket = some socket) : (run.ends socket).Core := by
  obtain ⟨silent, wired, spelled, answered, delivered⟩ := core
  refine ⟨silent, wired.modify own fun _ => rfl, ?_, answered.rewired (wired.later own _), delivered⟩
  have back : ∀ (k : Nat) (found : AgentSocket), (run.sockets.modify socket fun ended => { ended with live := false })[k]? = some found →
      ∃ before : AgentSocket, run.sockets[k]? = some before ∧ found.received = before.received ∧ found.ended = before.ended := by
    intro k found at_k
    rw [List.getElem?_modify] at at_k
    obtain ⟨before, at_before, same⟩ := Option.map_eq_some_iff.mp at_k
    refine ⟨before, at_before, ?_⟩
    split at same <;> cases same <;> exact ⟨rfl, rfl⟩
  refine { spelled with known := ?_, given := fun k found at_k => ?_, current := fun k found held at_k => ?_ }
  · exact fun line member => (List.length_modify ..).symm ▸ spelled.known line member
  · obtain ⟨before, at_before, received, ended⟩ := back k found at_k
    rw [received, ended]
    exact spelled.given k before at_before
  · obtain ⟨before, at_before, received, _⟩ := back k found at_k
    rw [received]
    exact spelled.current k before held at_before

/-- A chunk arrives on the socket that is held. -/
theorem Kept.data (kept : run.Kept) (own : run.connection.socket = some socket) (chunk : Bytes) :
    ({ run with
      sockets := run.sockets.modify socket fun receiving => { receiving with received := receiving.received ++ chunk }
      connection := { run.connection with
        buffer := run.connection.buffer ++ (write run.connection.decoder chunk).1
        decoder := (write run.connection.decoder chunk).2 }
      stack := [.consuming socket] } : AgentRun).Kept := by
  obtain ⟨⟨silent, wired, spelled, answered, delivered⟩, up⟩ := kept
  obtain ⟨found, at_socket, fresh⟩ := wired.current socket own
  have text := spelled.current socket found own at_socket
  have more : write [] (found.received ++ chunk) =
      (joined (takenFrom socket run.lines) ++ (run.connection.buffer ++ (write run.connection.decoder chunk).1),
        (write run.connection.decoder chunk).2) := by
    rw [write_append, text, List.append_assoc]
  have at_own : (run.sockets.modify socket fun receiving =>
      { receiving with received := receiving.received ++ chunk })[socket]? =
        some { found with received := found.received ++ chunk } := by
    rw [List.getElem?_modify_eq, at_socket]
    rfl
  refine {
    silent
    wired := wired.modify own fun _ => rfl
    spelled := ?_
    answered := answered.rewired (wired.later own _)
    delivered
    up := fun k held => ?_ }
  · refine ⟨fun line member => (List.length_modify ..).symm ▸ spelled.known line member, spelled.plain, fun k other at_k => ?_,
      fun k other held at_k => ?_, fun none => ?_, fun k member => ?_, fun none => ?_⟩
    · by_cases same : socket = k
      · subst same
        obtain rfl := Option.some.inj (at_own.symm.trans at_k)
        exact ⟨_, congrArg Prod.fst more, fun ended => by rw [fresh] at ended; cases ended⟩
      · rw [List.getElem?_modify_ne _ _ same] at at_k
        exact spelled.given k other at_k
    · obtain rfl := Option.some.inj (own.symm.trans held)
      obtain rfl := Option.some.inj (at_own.symm.trans at_k)
      exact more
    · rw [own] at none
      cases none
    · cases List.mem_singleton.mp member
      exact Or.inl own
    · exact absurd (List.mem_singleton_self _) (none socket)
  · obtain rfl := Option.some.inj (own.symm.trans held)
    have alive := up socket own
    rw [isLive, at_socket] at alive
    rw [isLive, at_own]
    exact alive

/-- The deadline of a call that waits. -/
theorem Kept.expires (kept : run.Kept) {waiter : Waiter} (member : waiter ∈ run.connection.pending) :
    ((run.forget waiter.id).settle .deadline (.error s!"agent did not answer {waiter.method}") waiter.call).Kept := by
  refine { kept with answered := ?_ }
  have of : ∀ written : Written, run.connection.socket = some written.socket → written.id = waiter.id →
      written.method = waiter.method → written.since ≤ run.lines.length → Unanswered run.lines written run.lines.length →
        Settlement.Of run.sockets (run.lines ++ []) written
          ⟨.deadline, run.lines.length, .error s!"agent did not answer {waiter.method}"⟩ := by
    intro written _ _ method _ unanswered
    rw [List.append_nil, ← method]
    exact ⟨le_rfl, rfl, unanswered⟩
  have settles := kept.answered.settles (Later.refl run.sockets) member [] of
    fun written _ _ unanswered => by rwa [List.append_nil]
  rw [List.append_nil] at settles
  exact settles

theorem Kept.step (kept : run.Kept) {event : AgentEvent} (orderly : run.orderly event = true)
    (ran : run.step event = some later) : later.Kept := by
  cases event with
  | start file connects =>
    obtain ⟨_, same⟩ := Option.ite_none_right_eq_some.mp ran
    cases same
    rw [AgentRun.orderly, Bool.and_eq_true] at orderly
    exact kept.start (Option.isNone_iff_eq_none.mp orderly.1) orderly.2 connects
  | stop =>
    obtain ⟨_, same⟩ := Option.ite_none_right_eq_some.mp ran
    cases same
    exact kept.stop
  | call method params =>
    obtain ⟨_, same⟩ := Option.ite_none_right_eq_some.mp ran
    cases same
    exact kept.call method params
  | returns =>
    rw [AgentRun.step] at ran
    split at ran
    · rename_i behind top
      cases ran
      exact { kept with spelled := kept.spelled.restack fun k => by simp [top] }
    · cases ran
  | proceed => exact kept.proceed orderly ran
  | retry file connects =>
    obtain ⟨_, same⟩ := Option.ite_none_right_eq_some.mp ran
    cases same
    rw [AgentRun.orderly, Bool.and_eq_true] at orderly
    have fired : ({ run with connection := { run.connection with retryTimer := false } } : AgentRun).Kept := { kept with }
    exact fired.start (Option.isNone_iff_eq_none.mp orderly.1) orderly.2 connects
  | deadline id =>
    obtain ⟨_, fires⟩ := Option.ite_none_right_eq_some.mp ran
    obtain ⟨waiter, found, same⟩ := Option.map_eq_some_iff.mp fires
    cases same
    obtain rfl : waiter.id = id := by simpa using List.find?_some found
    exact kept.expires (List.mem_of_find?_eq_some found)
  | connect socket =>
    obtain ⟨hears, same⟩ := Option.ite_none_right_eq_some.mp ran
    cases same
    obtain ⟨idle, _⟩ := kept.toCore.heard hears.1
    have ready : ({ run with connection := { run.connection with
        connected := true
        reachedAgent := true
        lastError := none } } : AgentRun).Kept := { kept with }
    exact ready.emit (fun _ => rfl) fun k => by simp [idle]
  | data socket chunk =>
    obtain ⟨hears, same⟩ := Option.ite_none_right_eq_some.mp ran
    cases same
    exact kept.data (kept.toCore.heard hears.1).2 chunk
  | error socket message =>
    obtain ⟨hears, same⟩ := Option.ite_none_right_eq_some.mp ran
    cases same
    exact (kept.toCore.ends (kept.toCore.heard hears.1).2).fail nofun
  | close socket =>
    obtain ⟨hears, same⟩ := Option.ite_none_right_eq_some.mp ran
    cases same
    exact (kept.toCore.ends (kept.toCore.heard hears).2).fail nofun

theorem Kept.runs (kept : run.Kept) {events : List AgentEvent} (calm : calm events run = true)
    (ran : AgentRun.run events run = some later) : later.Kept := by
  induction events generalizing run with
  | nil =>
    cases ran
    exact kept
  | cons event events ih =>
    obtain ⟨between, first, rest⟩ := Option.bind_eq_some_iff.mp ran
    rw [AgentRun.calm, first, Bool.and_eq_true] at calm
    exact ih (kept.step calm.1 first) calm.2 rest

/-- No two sockets are live at once. -/
def Single (run : AgentRun) : Prop :=
  ∀ (i j : Nat) (one other : AgentSocket), run.sockets[i]? = some one → run.sockets[j]? = some other →
    one.live → other.live → i = j

/-- A call waits on the socket it was written to, which is up, for a line that has not come, and its deadline settles it as
soon as nothing is being run. -/
def Waits (run : AgentRun) (call : Nat) (written : Written) : Prop :=
  run.connection.socket = some written.socket ∧ run.isLive written.socket ∧
    Unanswered run.lines written run.lines.length ∧
      (run.stack = [] → ∃ later promise, run.step (.deadline written.id) = some later ∧
        later.promises[call]? = some promise ∧ promise.settled ≠ [])

/-- Each call that is written is settled once, for a reason of its own, or waits. One that is not written is refused at
once. -/
def Settles (run : AgentRun) : Prop :=
  ∀ (call : Nat) (promise : AgentPromise), run.promises[call]? = some promise →
    match promise.written with
    | none => ∃ refusal later, promise.settled = refusal :: later ∧
        (refusal.cause = .notConnected ∨ refusal.cause = .unwritable)
    | some written => (promise.settled = [] ∧ run.Waits call written) ∨
        ∃ settlement, promise.settled = [settlement] ∧ settlement.Of run.sockets run.lines written

/-- The lines taken of a socket are the first of those that have ended in the text of all that came on it, and all of them
while it is held and nothing is being run. Its events are those on the lines. One that is given up for an oversized line has
brought such a line. -/
def Delivers (run : AgentRun) : Prop :=
  ∀ (k : Nat) (found : AgentSocket), run.sockets[k]? = some found →
    takenFrom k run.lines <+: (TextStream.lines (write [] found.received).1).1 ∧
    (run.connection.socket = some k → run.stack = [] → takenFrom k run.lines = (TextStream.lines (write [] found.received).1).1) ∧
    run.emitted.filterMap (eventFrom k) = (takenFrom k run.lines).filterMap eventOf ∧
    (found.ended = some .oversized → maxUnterminatedChars < utf16Length (TextStream.lines (write [] found.received).1).2)

theorem Kept.single (kept : run.Kept) : run.Single := by
  intro i j one other at_i at_j first second
  have own := kept.wired.attached i one at_i (Or.inl first)
  exact Option.some.inj (own.symm.trans (kept.wired.attached j other at_j (Or.inl second)))

theorem Kept.settles (kept : run.Kept) : run.Settles := by
  intro call promise found
  have stands := kept.answered.stands call promise found
  unfold AgentPromise.Stands at stands
  cases wrote : promise.written with
  | none => simpa [wrote] using stands
  | some written =>
    simp only [wrote] at stands ⊢
    rcases stands with ⟨open', up, _, unanswered, there⟩ | ⟨settlement, settled, of, _⟩
    · refine Or.inl ⟨open', up, kept.up _ up, unanswered, fun idle => ?_⟩
      cases next : run.connection.pending.find? fun waiter => waiter.id = written.id with
      | none => exact absurd (List.find?_eq_none.mp next _ there) (by simp)
      | some waiter =>
        have named : waiter.id = written.id := by simpa using List.find?_some next
        have same := List.inj_on_of_nodup_map kept.answered.ids (List.mem_of_find?_eq_some next) there named
        subst same
        have fires : run.step (.deadline written.id) = some ((run.forget written.id).settle .deadline
            (.error s!"agent did not answer {written.method}") call) := by
          rw [AgentRun.step, if_pos idle, next]
          rfl
        refine ⟨_, promise.tell ⟨.deadline, run.lines.length, .error s!"agent did not answer {written.method}"⟩, fires, ?_,
          by simp⟩
        show (run.promises.modify call _)[call]? = _
        rw [List.getElem?_modify_eq, found]
        rfl
    · exact Or.inr ⟨settlement, settled, of⟩

theorem Kept.delivers (kept : run.Kept) : run.Delivers := by
  intro k found at_k
  have plain : ∀ line ∈ takenFrom k run.lines, '\n' ∉ line := by
    intro line member
    obtain ⟨entry, there, own⟩ := List.mem_filterMap.mp member
    obtain ⟨_, rfl⟩ := Option.ite_none_right_eq_some.mp own |>.imp id Option.some.inj
    exact kept.spelled.plain entry there
  obtain ⟨rest, text, oversized⟩ := kept.spelled.given k found at_k
  refine ⟨?_, fun held idle => ?_, kept.delivered k, fun ended => ?_⟩
  · rw [text, lines_joined plain]
    exact List.prefix_append _ _
  · have whole : '\n' ∉ run.connection.buffer := kept.spelled.whole fun j => by simp [idle]
    rw [kept.spelled.current k found held at_k, lines_joined plain, lines_plain whole]
    exact (List.append_nil _).symm
  · obtain ⟨unended, long⟩ := oversized ended
    rw [text, lines_joined plain, lines_plain unended]
    exact long

/-- In a run that is orderly throughout, nothing throws, no two sockets are live at once, each call is settled once or
waits, and what is delivered depends on what came on each socket and not on where it was cut. -/
theorem connection_survives {events : List AgentEvent} (calm : calm events initial = true)
    (ran : AgentRun.run events initial = some later) :
    later.threw = false ∧ later.Single ∧ later.Settles ∧ later.Delivers :=
  have kept := Kept.initial.runs calm ran
  ⟨kept.silent, kept.single, kept.settles, kept.delivers⟩

end Runs

section Plain

def endpointText : List Char := "\x7b\"port\":80\x7d".toList

def acceptedText : List Char := "\x7b\"id\":1,\"ok\":true\x7d".toList

/-- The error of this reply has a message that is no text. -/
def refusedText : List Char := "\x7b\"id\":1,\"error\":\x7b\"message\":\x7b\"toString\":1\x7d\x7d\x7d".toList

/-- An engine that knows four texts. -/
abbrev plainEngine : ScriptEngine where
  parse text :=
    if text = endpointText then .ok (.object [("port", .number 80)])
    else if text = acceptedText then .ok (.object [("id", .number 1), ("ok", .bool true)])
    else if text = refusedText then
      .ok (.object [("id", .number 1), ("error", .object [("message", .object [("toString", .number 1)])])])
    else if text = "null".toList then .ok .null
    else .error "Unexpected token"
  number _ := none
  spell := toString

/-- What ASCII signs are spelled with. -/
def octets (text : List Char) : Bytes := text.map fun c => UInt8.ofNat c.toNat

/-- The connection comes up and subscribes. -/
def connecting : List AgentEvent := [.start (.ok endpointText) (.ok ()), .connect 0, .returns, .proceed]

/-- A line comes in two pieces. -/
def plainEvents : List AgentEvent :=
  connecting ++ [.data 0 (octets (acceptedText.take 5)), .proceed,
    .data 0 (octets (acceptedText.drop 5 ++ ['\n'])), .proceed, .proceed]

/-- The reply is taken, and nobody waits any more. -/
theorem connection_survives_plain :
    letI := plainEngine
    ∃ after, AgentRun.run plainEvents initial = some after ∧ after.lines = [(0, acceptedText)] ∧
      after.connection.pending = [] ∧ (after.threw = false ∧ after.Single ∧ after.Settles ∧ after.Delivers) :=
  let := plainEngine
  ⟨_, rfl, rfl, rfl, connection_survives (by decide +kernel : calm plainEvents initial = true) rfl⟩

/-- A file and a line that are `null` throw, a reply whose error is no text throws and leaves its call waiting for good,
and a second `start` leaves two sockets live. -/
theorem connection_goes_wrong :
    letI := plainEngine
    (∃ after, AgentRun.run [.start (.ok "null".toList) (.ok ())] initial = some after ∧ after.threw = true) ∧
    (∃ after, AgentRun.run (connecting ++ [.data 0 (octets ("null".toList ++ ['\n'])), .proceed]) initial = some after ∧
      after.threw = true) ∧
    (∃ after, AgentRun.run (connecting ++ [.data 0 (octets (refusedText ++ ['\n'])), .proceed]) initial = some after ∧
      after.threw = true ∧ ¬after.Settles) ∧
    ∃ after, AgentRun.run [.start (.ok endpointText) (.ok ()), .start (.ok endpointText) (.ok ())] initial = some after ∧
      ¬after.Single := by
  let := plainEngine
  refine ⟨⟨_, rfl, rfl⟩, ⟨_, rfl, rfl⟩, ⟨_, rfl, rfl, fun settles => ?_⟩, ⟨_, rfl, fun single => ?_⟩⟩
  · rcases settles 0 ⟨some ⟨0, 0, 1, none, "subscribe", .object []⟩, []⟩ rfl with ⟨_, _, _, _, waits⟩ | ⟨_, never, _⟩
    · obtain ⟨_, _, fires, _⟩ := waits rfl
      cases fires
    · cases never
  · exact absurd (single 0 1 ⟨true, true, [], none⟩ ⟨true, true, [], none⟩ rfl rfl rfl rfl) (by decide)

end Plain

end AgentRun

end BioAuth.Desktop
