import BioAuth.Mobile.Idempotency

namespace BioAuth.Mobile.ApplicationIdempotency
open BioAuth

/-- One call of `run`. -/
structure Call where
  scope : String
  request : ApplicationFrame

def Call.key (call : Call) : Key := (call.scope, call.request.requestId)

/-- How far a call has come. The end of an action is known by the number of the call that began it. -/
inductive Phase (ε : Type)
  | digesting
  | waiting (execution : Nat)
  | returned (execution : Nat) (result : Except ε ApplicationOutcome)
  | rejected (error : Rejection)

structure Running (ε : Type) where
  entries : Entries
  calls : List (Call × Phase ε)
  /-- The calls whose actions have been begun. -/
  executed : List (Nat × Call)
  results : Nat → Option (Except ε ApplicationOutcome)

def Running.fresh {ε : Type} : Running ε := ⟨.empty, [], [], fun _ => none⟩

/-- What may happen next. Between two of these nothing interrupts the program. -/
inductive Event (ε : Type)
  | call (call : Call)
  | digested (number : Nat)
  | ended (number : Nat) (result : Except ε ApplicationOutcome)
  | resumed (number : Nat)

section Runs
variable {ε : Type} (mac : Bytes → Bytes) (capacity : Nat)

namespace Running

/-- A call goes on until it waits for an action, its own or the one it found. -/
def digested (state : Running ε) (number : Nat) (call : Call) : Running ε :=
  let digest := mac call.request.payload
  match admission capacity state.entries call.key call.request.operation digest with
  | .rejected error => { state with calls := state.calls.set number (call, .rejected error) }
  | .joins outcome => { state with calls := state.calls.set number (call, .waiting outcome) }
  | .runs entries =>
    { state with
      entries := entries.assign call.key ⟨call.request.operation, digest, number, false⟩
      calls := state.calls.set number (call, .waiting number)
      executed := state.executed ++ [(number, call)] }

def after (state : Running ε) : Event ε → Running ε
  | .call call => { state with calls := state.calls ++ [(call, .digesting)] }
  | .digested number =>
    match state.calls[number]? with
    | some (call, .digesting) => state.digested mac capacity number call
    | _ => state
  | .ended number result =>
    if number ∈ state.executed.map Prod.fst ∧ state.results number = none then
      { state with results := Function.update state.results number (some result) }
    else state
  | .resumed number =>
    match state.calls[number]? with
    | some (call, .waiting execution) =>
      match state.results execution with
      | some result =>
        { state with
          entries := if execution = number then conclude state.entries call.key number result else state.entries
          calls := state.calls.set number (call, .returned execution result) }
      | none => state
    | _ => state

def afterAll (state : Running ε) (events : List (Event ε)) : Running ε := events.foldl (after mac capacity) state

/-- Everything an event can do. -/
inductive Steps (state : Running ε) : Event ε → Running ε → Prop
  | idle (event : Event ε) : Steps state event state
  | call (call : Call) : Steps state (.call call) { state with calls := state.calls ++ [(call, .digesting)] }
  | rejected {number : Nat} {call : Call} {error : Rejection} (digesting : state.calls[number]? = some (call, .digesting))
      (admitted : admission capacity state.entries call.key call.request.operation (mac call.request.payload) =
        .rejected error) :
      Steps state (.digested number) { state with calls := state.calls.set number (call, .rejected error) }
  | joins {number outcome : Nat} {call : Call} (digesting : state.calls[number]? = some (call, .digesting))
      (admitted : admission capacity state.entries call.key call.request.operation (mac call.request.payload) =
        .joins outcome) :
      Steps state (.digested number) { state with calls := state.calls.set number (call, .waiting outcome) }
  | runs {number : Nat} {call : Call} {entries : Entries} (digesting : state.calls[number]? = some (call, .digesting))
      (admitted : admission capacity state.entries call.key call.request.operation (mac call.request.payload) =
        .runs entries) :
      Steps state (.digested number)
        { state with
          entries := entries.assign call.key ⟨call.request.operation, mac call.request.payload, number, false⟩
          calls := state.calls.set number (call, .waiting number)
          executed := state.executed ++ [(number, call)] }
  | ended {number : Nat} {result : Except ε ApplicationOutcome} (begun : number ∈ state.executed.map Prod.fst)
      (pending : state.results number = none) :
      Steps state (.ended number result) { state with results := Function.update state.results number (some result) }
  | resumed {number execution : Nat} {call : Call} {result : Except ε ApplicationOutcome}
      (waiting : state.calls[number]? = some (call, .waiting execution)) (known : state.results execution = some result) :
      Steps state (.resumed number)
        { state with
          entries := if execution = number then conclude state.entries call.key number result else state.entries
          calls := state.calls.set number (call, .returned execution result) }

variable {mac capacity}

theorem after_steps (state : Running ε) (event : Event ε) :
    Steps mac capacity state event (state.after mac capacity event) := by
  cases event with
  | call call => exact .call call
  | digested number =>
    rcases here : state.calls[number]? with _ | ⟨call, phase⟩
    · simp only [after, here]
      exact .idle _
    · cases phase with
      | digesting =>
        simp only [after, here, digested]
        rcases admitted : admission capacity state.entries call.key call.request.operation (mac call.request.payload) with
          error | outcome | entries
        · exact .rejected here admitted
        · exact .joins here admitted
        · exact .runs here admitted
      | waiting | returned | rejected =>
        simp only [after, here]
        exact .idle _
  | ended number result =>
    unfold after
    by_cases pending : number ∈ state.executed.map Prod.fst ∧ state.results number = none
    · simp only [if_pos pending]
      exact .ended pending.1 pending.2
    · simp only [if_neg pending]
      exact .idle _
  | resumed number =>
    rcases here : state.calls[number]? with _ | ⟨call, phase⟩
    · simp only [after, here]
      exact .idle _
    · cases phase with
      | waiting execution =>
        rcases known : state.results execution with _ | result
        · simp only [after, here, known]
          exact .idle _
        · simp only [after, here, known]
          exact .resumed here known
      | digesting | returned | rejected =>
        simp only [after, here]
        exact .idle _

end Running

/-- Two calls that may share one action, as far as their digests tell. -/
structure Retries (mac : Bytes → Bytes) (call owner : Call) : Prop where
  key : call.key = owner.key
  operation : call.request.operation = owner.request.operation
  digest : mac call.request.payload = mac owner.request.payload

/-- What holds however the calls and their actions interleave. -/
structure Sound (mac : Bytes → Bytes) (capacity : Nat) (state : Running ε) : Prop where
  room : state.entries.entries.length ≤ capacity
  once : (state.executed.map Prod.fst).Nodup
  begun : ∀ number call, (number, call) ∈ state.executed → ∃ phase : Phase ε, state.calls[number]? = some (call, phase) ∧
    (phase = .waiting number ∨ ∃ result, phase = .returned number result)
  entry : ∀ key entry, (key, entry) ∈ state.entries.entries → ∃ call, (entry.outcome, call) ∈ state.executed ∧
    key = call.key ∧ entry.operation = call.request.operation ∧ entry.payloadDigest = mac call.request.payload
  inFlight : ∀ key entry, (key, entry) ∈ state.entries.entries → entry.completed = false →
    ∃ call, state.calls[entry.outcome]? = some (call, .waiting entry.outcome)
  owned : ∀ (number : Nat) (call : Call), state.calls[number]? = some (call, .waiting number) →
    ∃ entry, (call.key, entry) ∈ state.entries.entries ∧ entry.outcome = number ∧ entry.completed = false
  heard : ∀ (number : Nat) (call : Call) (execution : Nat), state.calls[number]? = some (call, .waiting execution) →
    ∃ owner, (execution, owner) ∈ state.executed ∧ Retries mac call owner
  returned : ∀ (number : Nat) (call : Call) (execution : Nat) (result : Except ε ApplicationOutcome),
    state.calls[number]? = some (call, .returned execution result) →
    state.results execution = some result ∧ ∃ owner, (execution, owner) ∈ state.executed ∧ Retries mac call owner

variable {mac capacity}

/-- One call's phase changes. -/
theorem set_cases {calls : List (Call × Phase ε)} {number other : Nat} {now found : Call × Phase ε}
    (here : (calls.set number now)[other]? = some found) :
    other = number ∧ found = now ∨ other ≠ number ∧ calls[other]? = some found := by
  rw [List.getElem?_set] at here
  by_cases same : number = other
  · rw [if_pos same] at here
    split at here
    · exact Or.inl ⟨same.symm, (Option.some.inj here).symm⟩
    · cases here
  · rw [if_neg same] at here
    exact Or.inr ⟨fun other => same other.symm, here⟩

theorem set_self {calls : List (Call × Phase ε)} {number : Nat} {before : Call × Phase ε}
    (here : calls[number]? = some before) (now : Call × Phase ε) : (calls.set number now)[number]? = some now := by
  rw [List.getElem?_set_self (List.getElem?_eq_some_iff.mp here).1]

theorem set_other {calls : List (Call × Phase ε)} {number other : Nat} (apart : other ≠ number)
    (now : Call × Phase ε) : (calls.set number now)[other]? = calls[other]? :=
  List.getElem?_set_ne (Ne.symm apart)

theorem concat_cases {calls : List (Call × Phase ε)} {new found : Call × Phase ε} {number : Nat}
    (here : (calls ++ [new])[number]? = some found) : calls[number]? = some found ∨ found = new := by
  by_cases within : number < calls.length
  · rw [List.getElem?_append_left within] at here
    exact Or.inl here
  · rw [List.getElem?_append_right (by omega)] at here
    exact Or.inr (List.mem_singleton.mp (List.mem_of_getElem? here))

theorem concat_old {calls : List (Call × Phase ε)} {found : Call × Phase ε} {number : Nat}
    (here : calls[number]? = some found) (new : Call × Phase ε) : (calls ++ [new])[number]? = some found := by
  rw [List.getElem?_append_left (List.getElem?_eq_some_iff.mp here).1, here]

namespace Sound
variable {state : Running ε}

/-- Only one entry stands for an action. -/
theorem only (sound : Sound mac capacity state) {number : Nat} {call : Call} (begun : (number, call) ∈ state.executed)
    {key : Key} {entry : Entry} (member : (key, entry) ∈ state.entries.entries) (owns : entry.outcome = number) :
    key = call.key := by
  obtain ⟨owner, executed, named, _⟩ := sound.entry key entry member
  rw [owns] at executed
  cases List.inj_on_of_nodup_map sound.once executed begun rfl
  exact named

/-- A call that has begun nothing and found nothing is no one's action. -/
theorem idle (sound : Sound mac capacity state) {number : Nat} {call : Call}
    (digesting : state.calls[number]? = some (call, .digesting)) {owner : Call} : (number, owner) ∉ state.executed := by
  intro executed
  obtain ⟨phase, found, waiting | ⟨_, returned⟩⟩ := sound.begun number owner executed
  · cases digesting.symm.trans found
    cases waiting
  · cases digesting.symm.trans found
    cases returned

theorem fresh : Sound mac capacity (Running.fresh : Running ε) where
  room := Nat.zero_le _
  once := List.nodup_nil
  begun _ _ executed := absurd executed List.not_mem_nil
  entry _ _ member := absurd member List.not_mem_nil
  inFlight _ _ member _ := absurd member List.not_mem_nil
  owned _ _ here := nomatch here
  heard _ _ _ here := nomatch here
  returned _ _ _ _ here := nomatch here

/-- A call that begins nothing changes its own phase only. -/
theorem rephase (sound : Sound mac capacity state) {number : Nat} {call : Call}
    (digesting : state.calls[number]? = some (call, .digesting)) {now : Phase ε}
    (heard : ∀ execution, now = .waiting execution → ∃ owner, (execution, owner) ∈ state.executed ∧ Retries mac call owner)
    (silent : ∀ execution result, now ≠ .returned execution result) :
    Sound mac capacity { state with calls := state.calls.set number (call, now) } where
  room := sound.room
  once := sound.once
  begun other owner executed := by
    have apart : other ≠ number := fun same => sound.idle digesting (same ▸ executed)
    rw [set_other apart]
    exact sound.begun other owner executed
  entry := sound.entry
  inFlight key entry member pending := by
    obtain ⟨owner, executed, _⟩ := sound.entry key entry member
    have apart : entry.outcome ≠ number := fun same => sound.idle digesting (same ▸ executed)
    rw [set_other apart]
    exact sound.inFlight key entry member pending
  owned other caller here := by
    rcases set_cases here with ⟨same, found⟩ | ⟨_, here⟩
    · cases found
      obtain ⟨owner, executed, _⟩ := heard other rfl
      exact absurd executed (same ▸ sound.idle digesting)
    · exact sound.owned other caller here
  heard other caller execution here := by
    rcases set_cases here with ⟨_, found⟩ | ⟨_, here⟩
    · cases found
      exact heard execution rfl
    · exact sound.heard other caller execution here
  returned other caller execution result here := by
    rcases set_cases here with ⟨_, found⟩ | ⟨_, here⟩
    · cases found
      exact absurd rfl (silent execution result)
    · exact sound.returned other caller execution result here

theorem call (sound : Sound mac capacity state) (call : Call) :
    Sound mac capacity { state with calls := state.calls ++ [(call, .digesting)] } where
  room := sound.room
  once := sound.once
  begun other owner executed := by
    obtain ⟨phase, here, ends⟩ := sound.begun other owner executed
    exact ⟨phase, concat_old here _, ends⟩
  entry := sound.entry
  inFlight key entry member pending := by
    obtain ⟨owner, here⟩ := sound.inFlight key entry member pending
    exact ⟨owner, concat_old here _⟩
  owned other caller here := by
    rcases concat_cases here with here | found
    · exact sound.owned other caller here
    · cases found
  heard other caller execution here := by
    rcases concat_cases here with here | found
    · exact sound.heard other caller execution here
    · cases found
  returned other caller execution result here := by
    rcases concat_cases here with here | found
    · exact sound.returned other caller execution result here
    · cases found

/-- A call that found nothing begins its action in the room that was made. -/
theorem runs (sound : Sound mac capacity state) {number : Nat} {call : Call} {entries : Entries}
    (digesting : state.calls[number]? = some (call, .digesting)) (new : state.entries.get? call.key = none)
    (room : makeRoom capacity state.entries = some entries) :
    Sound mac capacity
      { state with
        entries := entries.assign call.key ⟨call.request.operation, mac call.request.payload, number, false⟩
        calls := state.calls.set number (call, .waiting number)
        executed := state.executed ++ [(number, call)] } := by
  obtain ⟨short, sublist, kept⟩ := makeRoom_eq_some room
  have absent : entries.get? call.key = none :=
    Table.get?_eq_none.mpr fun entry member => Table.get?_eq_none.mp new entry (sublist.subset member)
  have listed (key : Key) (entry : Entry) : (key, entry) ∈ (entries.assign call.key
      ⟨call.request.operation, mac call.request.payload, number, false⟩).entries ↔ (key, entry) ∈ entries.entries ∨
        (key, entry) = (call.key, ⟨call.request.operation, mac call.request.payload, number, false⟩) := by
    rw [Table.assign_new absent, List.mem_append, List.mem_singleton]
  have idle (owner : Call) : (number, owner) ∉ state.executed := sound.idle digesting
  have began (other : Nat) (owner : Call) (executed : (other, owner) ∈ state.executed) : other ≠ number :=
    fun same => idle owner (same ▸ executed)
  constructor
  · rw [Table.assign_new absent, List.length_append, List.length_singleton]
    omega
  · rw [List.map_append]
    refine sound.once.append (List.nodup_singleton number) (List.disjoint_singleton.mpr fun member => ?_)
    obtain ⟨⟨_, owner⟩, executed, rfl⟩ := List.mem_map.mp member
    exact idle owner executed
  · intro other owner executed
    rcases List.mem_append.mp executed with before | mine
    · rw [set_other (began other owner before)]
      exact sound.begun other owner before
    · cases List.mem_singleton.mp mine
      exact ⟨_, set_self digesting _, Or.inl rfl⟩
  · intro key entry member
    rcases (listed key entry).mp member with before | mine
    · obtain ⟨owner, executed, same⟩ := sound.entry key entry (sublist.subset before)
      exact ⟨owner, List.mem_append_left _ executed, same⟩
    · cases mine
      exact ⟨call, List.mem_append_right _ (List.mem_singleton_self _), rfl, rfl, rfl⟩
  · intro key entry member pending
    rcases (listed key entry).mp member with before | mine
    · obtain ⟨owner, executed, _⟩ := sound.entry key entry (sublist.subset before)
      rw [set_other (began _ owner executed)]
      exact sound.inFlight key entry (sublist.subset before) pending
    · cases mine
      exact ⟨call, set_self digesting _⟩
  · intro other caller here
    rcases set_cases here with ⟨same, found⟩ | ⟨_, here⟩
    · cases found
      exact ⟨_, (listed _ _).mpr (Or.inr rfl), same.symm, rfl⟩
    · obtain ⟨entry, member, owns, pending⟩ := sound.owned other caller here
      exact ⟨entry, (listed _ _).mpr (Or.inl (kept _ member pending)), owns, pending⟩
  · intro other caller execution here
    rcases set_cases here with ⟨_, found⟩ | ⟨_, here⟩
    · cases found
      exact ⟨call, List.mem_append_right _ (List.mem_singleton_self _), rfl, rfl, rfl⟩
    · obtain ⟨owner, executed, retries⟩ := sound.heard other caller execution here
      exact ⟨owner, List.mem_append_left _ executed, retries⟩
  · intro other caller execution result here
    rcases set_cases here with ⟨_, found⟩ | ⟨_, here⟩
    · cases found
    · obtain ⟨known, owner, executed, retries⟩ := sound.returned other caller execution result here
      exact ⟨known, owner, List.mem_append_left _ executed, retries⟩

theorem ended (sound : Sound mac capacity state) {number : Nat} (pending : state.results number = none)
    (result : Except ε ApplicationOutcome) :
    Sound mac capacity { state with results := Function.update state.results number (some result) } where
  room := sound.room
  once := sound.once
  begun := sound.begun
  entry := sound.entry
  inFlight := sound.inFlight
  owned := sound.owned
  heard := sound.heard
  returned other caller execution found here := by
    obtain ⟨known, owner⟩ := sound.returned other caller execution found here
    have apart : execution ≠ number := by
      intro same
      rw [same, pending] at known
      cases known
    exact ⟨(Function.update_of_ne apart _ _).trans known, owner⟩

/-- A call goes on when its action has ended. Where it began that itself, its entry is completed or goes. -/
theorem resumed (sound : Sound mac capacity state) {number execution : Nat} {call : Call}
    {result : Except ε ApplicationOutcome} (waiting : state.calls[number]? = some (call, .waiting execution))
    (known : state.results execution = some result) :
    Sound mac capacity
      { state with
        entries := if execution = number then conclude state.entries call.key number result else state.entries
        calls := state.calls.set number (call, .returned execution result) } := by
  have begun (other : Nat) (owner : Call) (executed : (other, owner) ∈ state.executed) :
      ∃ phase : Phase ε, (state.calls.set number (call, .returned execution result))[other]? = some (owner, phase) ∧
        (phase = .waiting other ∨ ∃ result, phase = .returned other result) := by
    obtain ⟨phase, here, ends⟩ := sound.begun other owner executed
    by_cases mine : other = number
    · subst mine
      cases waiting.symm.trans here
      refine ⟨_, set_self waiting _, ?_⟩
      rcases ends with own | ⟨_, returned⟩
      · cases own
        exact Or.inr ⟨result, rfl⟩
      · cases returned
    · rw [set_other mine]
      exact ⟨phase, here, ends⟩
  have heard (other : Nat) (caller : Call) (found : Nat)
      (here : (state.calls.set number (call, .returned execution result))[other]? = some (caller, .waiting found)) :
      other ≠ number ∧ state.calls[other]? = some (caller, .waiting found) := by
    rcases set_cases here with ⟨_, found⟩ | ⟨apart, here⟩
    · cases found
    · exact ⟨apart, here⟩
  have returned (other : Nat) (caller : Call) (found : Nat) (ending : Except ε ApplicationOutcome)
      (here : (state.calls.set number (call, .returned execution result))[other]? = some (caller, .returned found ending)) :
      state.results found = some ending ∧ ∃ owner, (found, owner) ∈ state.executed ∧ Retries mac caller owner := by
    rcases set_cases here with ⟨_, same⟩ | ⟨_, here⟩
    · cases same
      exact ⟨known, sound.heard number call execution waiting⟩
    · exact sound.returned other caller found ending here
  by_cases own : execution = number
  · -- The call that began the action: nothing else stands for it.
    subst own
    obtain ⟨mine, listed, owns, pending⟩ := sound.owned execution call waiting
    obtain ⟨owner, executed, named, _⟩ := sound.entry call.key mine listed
    rw [owns] at executed
    have only (key : Key) (entry : Entry) (member : (key, entry) ∈ state.entries.entries)
        (same : entry.outcome = execution) : key = call.key := (sound.only executed member same).trans named.symm
    constructor
    · rw [if_pos rfl]
      exact (conclude_length _ _ _ _).trans sound.room
    · exact sound.once
    · exact begun
    · intro key entry member
      rw [if_pos rfl] at member
      rcases mem_conclude listed owns only member with ⟨before, _⟩ | ⟨before, rfl⟩
      · exact sound.entry key entry before
      · exact sound.entry key mine before
    · intro key entry member inFlight
      rw [if_pos rfl] at member
      rcases mem_conclude listed owns only member with ⟨before, apart⟩ | ⟨_, rfl⟩
      · obtain ⟨caller, here⟩ := sound.inFlight key entry before inFlight
        refine ⟨caller, ?_⟩
        rw [set_other apart]
        exact here
      · cases inFlight
    · intro other caller here
      obtain ⟨apart, here⟩ := heard other caller other here
      obtain ⟨entry, member, outcome, inFlight⟩ := sound.owned other caller here
      refine ⟨entry, ?_, outcome, inFlight⟩
      rw [if_pos rfl]
      refine conclude_keeps member (outcome ▸ apart) (fun same => ?_) result
      rw [same] at member
      rw [Table.unique member listed, owns] at outcome
      exact apart outcome.symm
    · intro other caller found here
      exact sound.heard other caller found (heard other caller found here).2
    · exact returned
  · constructor
    · rw [if_neg own]
      exact sound.room
    · exact sound.once
    · exact begun
    · rw [if_neg own]
      exact sound.entry
    · rw [if_neg own]
      intro key entry member inFlight
      obtain ⟨caller, here⟩ := sound.inFlight key entry member inFlight
      refine ⟨caller, ?_⟩
      have apart : entry.outcome ≠ number := by
        intro same
        rw [same] at here
        cases waiting.symm.trans here
        exact own rfl
      rw [set_other apart]
      exact here
    · rw [if_neg own]
      intro other caller here
      exact sound.owned other caller (heard other caller other here).2
    · intro other caller found here
      exact sound.heard other caller found (heard other caller found here).2
    · exact returned

theorem step (sound : Sound mac capacity state) {event : Event ε} {next : Running ε}
    (steps : Running.Steps mac capacity state event next) : Sound mac capacity next := by
  cases steps with
  | idle => exact sound
  | call call => exact sound.call call
  | rejected digesting admitted => exact sound.rephase digesting nofun nofun
  | joins digesting admitted =>
    refine sound.rephase digesting (fun execution same => ?_) nofun
    cases same
    obtain ⟨existing, found, operation, digest, outcome⟩ := admission_eq_joins.mp admitted
    obtain ⟨owner, executed, key, operates, digests⟩ := sound.entry _ existing (Table.get?_eq_some.mp found)
    rw [outcome] at executed
    exact ⟨owner, executed, key, operation.symm.trans operates, digest.symm.trans digests⟩
  | runs digesting admitted =>
    obtain ⟨new, room⟩ := admission_eq_runs.mp admitted
    exact sound.runs digesting new room
  | ended begun pending => exact sound.ended pending _
  | resumed waiting known => exact sound.resumed waiting known

theorem run (events : List (Event ε)) : Sound mac capacity (Running.fresh.afterAll mac capacity events) := by
  induction events using List.reverseRecOn with
  | nil => exact fresh
  | append_singleton events event ih =>
    rw [Running.afterAll, List.foldl_append]
    exact ih.step (Running.after_steps _ event)

end Sound

section Promise
variable (mac capacity)

/-- What has become of the calls after so many events. -/
def foundAt (events : List (Event ε)) (number : Nat) : Running ε :=
  Running.fresh.afterAll mac capacity (events.take number)

/-- The calls under a key whose actions have been begun. -/
def executionsOf (key : Key) (state : Running ε) : List (Nat × Call) :=
  state.executed.filter fun execution => execution.2.key = key

/-- Two calls that ask for one thing. -/
structure SameRequest (call owner : Call) : Prop where
  operation : call.request.operation = owner.request.operation
  payload : call.request.payload = owner.request.payload

/-- Application operations run at most once. -/
structure RunsOnce (events : List (Event ε)) : Prop where
  /-- Nothing is begun under a key while it has an entry. -/
  once : ∀ first last key, first ≤ last →
    (∀ number, first ≤ number → number < last → ((foundAt mac capacity events number).entries.get? key).isSome) →
      executionsOf key (foundAt mac capacity events last) = executionsOf key (foundAt mac capacity events first)
  /-- A call that finds an entry waits for the action it stands for, or is refused and begins nothing. -/
  met : ∀ (position number : Nat) (call : Call) (entry : Entry), events[position]? = some (.digested number) →
    (foundAt mac capacity events position).calls[number]? = some (call, .digesting) →
    (foundAt mac capacity events position).entries.get? call.key = some entry →
      ∃ owner, (entry.outcome, owner) ∈ (foundAt mac capacity events position).executed ∧ owner.key = call.key ∧
        (SameRequest call owner →
          (foundAt mac capacity events (position + 1)).calls[number]? = some (call, .waiting entry.outcome)) ∧
        (¬SameRequest call owner →
          (foundAt mac capacity events (position + 1)).calls[number]? =
              some (call, .rejected (.formatException "requestId reutilizado com outro pedido")) ∧
            (foundAt mac capacity events (position + 1)).executed = (foundAt mac capacity events position).executed)
  /-- A call that waits goes on with what its action ended with. -/
  heard : ∀ (position number : Nat) (call : Call) (execution : Nat) (result : Except ε ApplicationOutcome), events[position]? = some (.resumed number) →
    (foundAt mac capacity events position).calls[number]? = some (call, .waiting execution) →
    (foundAt mac capacity events position).results execution = some result →
      (foundAt mac capacity events (position + 1)).calls[number]? = some (call, .returned execution result)
  /-- What a call returned is the one end of an action that was begun for just what it asked. -/
  returned : ∀ (position number : Nat) (call : Call) (execution : Nat) (result : Except ε ApplicationOutcome),
    (foundAt mac capacity events position).calls[number]? = some (call, .returned execution result) →
      (foundAt mac capacity events position).results execution = some result ∧
        ∃ owner, (execution, owner) ∈ (foundAt mac capacity events position).executed ∧ owner.key = call.key ∧
          SameRequest call owner
  /-- An entry in flight leaves only when its own action has ended. -/
  kept : ∀ position key entry, (foundAt mac capacity events position).entries.get? key = some entry →
    entry.completed = false →
      (foundAt mac capacity events (position + 1)).entries.get? key = some entry ∨
        events[position]? = some (.resumed entry.outcome) ∧
          ∃ result, (foundAt mac capacity events position).results entry.outcome = some result
  room : ∀ position, (foundAt mac capacity events position).entries.entries.length ≤ capacity

variable {mac capacity}

theorem foundAt_succ {events : List (Event ε)} {position : Nat} {event : Event ε}
    (here : events[position]? = some event) :
    foundAt mac capacity events (position + 1) = (foundAt mac capacity events position).after mac capacity event := by
  rw [foundAt, List.take_add_one, here, Option.toList_some, Running.afterAll, List.foldl_append]
  rfl

theorem foundAt_over {events : List (Event ε)} {position : Nat} (beyond : events[position]? = none) :
    foundAt mac capacity events (position + 1) = foundAt mac capacity events position := by
  rw [foundAt, foundAt, List.take_add_one, beyond, Option.toList_none, List.append_nil]

/-- What one event may do, or nothing when there is no more. -/
theorem foundAt_steps (events : List (Event ε)) (position : Nat) :
    foundAt mac capacity events (position + 1) = foundAt mac capacity events position ∨
      ∃ event, events[position]? = some event ∧
        Running.Steps mac capacity (foundAt mac capacity events position) event
          (foundAt mac capacity events (position + 1)) := by
  rcases here : events[position]? with _ | event
  · exact Or.inl (foundAt_over here)
  · rw [foundAt_succ here]
    exact Or.inr ⟨event, rfl, Running.after_steps _ event⟩

/-- Every call there is has been made. -/
theorem call_made (events : List (Event ε)) {number : Nat} {call : Call} {phase : Phase ε}
    (here : (Running.fresh.afterAll mac capacity events).calls[number]? = some (call, phase)) : .call call ∈ events := by
  induction events using List.reverseRecOn generalizing number phase with
  | nil => cases here
  | append_singleton events event ih =>
    rw [Running.afterAll, List.foldl_append] at here
    have steps : Running.Steps mac capacity (Running.fresh.afterAll mac capacity events) event _ :=
      Running.after_steps _ event
    replace here : ((Running.fresh.afterAll mac capacity events).after mac capacity event).calls[number]? =
      some (call, phase) := here
    generalize (Running.fresh.afterAll mac capacity events).after mac capacity event = next at steps here
    refine List.mem_append.mpr ?_
    cases steps with
    | idle => exact Or.inl (ih here)
    | call made =>
      rcases concat_cases here with here | found
      · exact Or.inl (ih here)
      · cases found
        exact Or.inr (List.mem_singleton_self _)
    | rejected digesting _ | joins digesting _ | runs digesting _ | resumed digesting _ =>
      rcases set_cases here with ⟨_, found⟩ | ⟨_, here⟩
      · cases found
        exact Or.inl (ih digesting)
      · exact Or.inl (ih here)
    | ended => exact Or.inl (ih here)

theorem executionsOf_succ (events : List (Event ε)) {position : Nat} {key : Key}
    (retained : ((foundAt mac capacity events position).entries.get? key).isSome) :
    executionsOf key (foundAt mac capacity events (position + 1)) = executionsOf key (foundAt mac capacity events position) := by
  rcases foundAt_steps events position with beyond | ⟨event, _, steps⟩
  · rw [beyond]
  · generalize foundAt mac capacity events (position + 1) = next at steps
    cases steps with
    | @runs number call entries digesting admitted =>
      have new := (admission_eq_runs.mp admitted).1
      have apart : ¬call.key = key := by
        intro same
        rw [← same, new] at retained
        cases retained
      rw [executionsOf, executionsOf, List.filter_append, List.filter_singleton]
      simp only [apart, decide_false, cond_false, List.append_nil]
    | idle | call | rejected | joins | ended | resumed => rfl

theorem admission_of_entry {entries : Entries} {key : Key} {entry : Entry} (found : entries.get? key = some entry)
    {operation : String} {digest : Bytes} (differs : ¬(entry.operation = operation ∧ entry.payloadDigest = digest)) :
    admission capacity entries key operation digest = .rejected (.formatException "requestId reutilizado com outro pedido") := by
  have apart : entry.operation ≠ operation ∨ sameBytes entry.payloadDigest digest = false := by
    by_cases operates : entry.operation = operation
    · refine Or.inr (Bool.eq_false_iff.mpr fun same => differs ⟨operates, sameBytes_iff.mp same⟩)
    · exact Or.inl operates
  simp only [admission, found, if_pos apart]

/-- What is in flight at a state, and after an event. -/
theorem Sound.keeps {state next : Running ε} (sound : Sound mac capacity state) {event : Event ε}
    (steps : Running.Steps mac capacity state event next) {key : Key} {entry : Entry}
    (found : state.entries.get? key = some entry) (pending : entry.completed = false) :
    next.entries.get? key = some entry ∨
      event = .resumed entry.outcome ∧ ∃ result, state.results entry.outcome = some result := by
  have member := Table.get?_eq_some.mp found
  cases steps with
  | idle | call | rejected | joins | ended => exact Or.inl found
  | runs digesting admitted =>
    obtain ⟨new, room⟩ := admission_eq_runs.mp admitted
    obtain ⟨_, sublist, kept⟩ := makeRoom_eq_some room
    refine Or.inl (Table.get?_eq_some.mpr ?_)
    rw [Table.assign_new (Table.get?_eq_none.mpr fun other here => Table.get?_eq_none.mp new other (sublist.subset here))]
    exact List.mem_append_left _ (kept _ member pending)
  | @resumed number execution caller result waiting known =>
    by_cases own : execution = number
    · subst own
      by_cases mine : entry.outcome = execution
      · rw [mine]
        exact Or.inr ⟨rfl, result, known⟩
      · refine Or.inl (Table.get?_eq_some.mpr ?_)
        obtain ⟨other, listed, owns, _⟩ := sound.owned execution caller waiting
        rw [if_pos rfl]
        refine conclude_keeps member mine (fun same => ?_) result
        rw [same] at member
        rw [Table.unique member listed] at mine
        exact mine owns
    · rw [if_neg own]
      exact Or.inl found

/-- Whatever calls are made, in whatever order they and their actions go on, end and fail: where the digest tells the
payloads of the calls apart, an action runs at most once while its entry is there. -/
theorem operations_run_once (events : List (Event ε))
    (distinguishes : ∀ call other : Call, .call call ∈ events → .call other ∈ events →
      mac call.request.payload = mac other.request.payload → call.request.payload = other.request.payload) :
    RunsOnce mac capacity events := by
  have sound (position : Nat) : Sound mac capacity (foundAt mac capacity events position) := Sound.run _
  have made (position number : Nat) (call : Call) (phase : Phase ε)
      (here : (foundAt mac capacity events position).calls[number]? = some (call, phase)) : .call call ∈ events :=
    List.mem_of_mem_take (call_made _ here)
  have owned (position number : Nat) (owner : Call)
      (executed : (number, owner) ∈ (foundAt mac capacity events position).executed) : .call owner ∈ events := by
    obtain ⟨phase, here, _⟩ := (sound position).begun number owner executed
    exact made position number owner phase here
  constructor
  · intro first last key before retained
    induction last, before using Nat.le_induction with
    | base => rfl
    | succ last before ih =>
      rw [executionsOf_succ events (retained last before (Nat.lt_succ_self last))]
      exact ih fun number after within => retained number after (within.trans (Nat.lt_succ_self last))
  · intro position number call entry event digesting found
    obtain ⟨owner, executed, key, operates, digests⟩ := (sound position).entry _ entry (Table.get?_eq_some.mp found)
    refine ⟨owner, executed, key.symm, fun same => ?_, fun differs => ?_⟩
    · have admitted : admission capacity (foundAt mac capacity events position).entries call.key call.request.operation
          (mac call.request.payload) = .joins entry.outcome := by
        refine admission_eq_joins.mpr ⟨entry, found, operates.trans same.operation.symm, ?_, rfl⟩
        rw [digests, same.payload]
      rw [foundAt_succ event]
      simp only [Running.after, digesting, Running.digested, admitted]
      exact set_self digesting _
    · have apart : ¬(entry.operation = call.request.operation ∧ entry.payloadDigest = mac call.request.payload) := by
        intro ⟨operation, digest⟩
        refine differs ⟨operation.symm.trans operates, ?_⟩
        refine distinguishes call owner (made position number call _ digesting) (owned position _ owner executed) ?_
        exact digest.symm.trans digests
      have admitted : admission capacity (foundAt mac capacity events position).entries call.key call.request.operation
          (mac call.request.payload) = .rejected (.formatException "requestId reutilizado com outro pedido") :=
        admission_of_entry found apart
      rw [foundAt_succ event]
      simp only [Running.after, digesting, Running.digested, admitted]
      exact ⟨set_self digesting _, trivial⟩
  · intro position number call execution result event waiting known
    rw [foundAt_succ event]
    simp only [Running.after, waiting, known]
    exact set_self waiting _
  · intro position number call execution result here
    obtain ⟨known, owner, executed, retries⟩ := (sound position).returned number call execution result here
    refine ⟨known, owner, executed, retries.key.symm, retries.operation, ?_⟩
    exact distinguishes call owner (made position number call _ here) (owned position _ owner executed) retries.digest
  · intro position key entry found pending
    rcases foundAt_steps events position with beyond | ⟨event, here, steps⟩
    · rw [beyond]
      exact Or.inl found
    · rcases (sound position).keeps steps found pending with stays | ⟨rfl, ends⟩
      · exact Or.inl stays
      · exact Or.inr ⟨here, ends⟩
  · exact fun position => (sound position).room

end Promise

end Runs

section Retried

def plainRequest (operation : String) (payload : Bytes) : ApplicationFrame where
  protocolVersion := 1
  kind := .request
  requestId := "r"
  sessionBinding := List.replicate 32 7
  operation := operation
  issuedAt := ⟨1000, by decide⟩
  expiresAt := ⟨2000, by decide⟩
  payload := payload

/-- A request, a retry while it is in flight, and another one under its id. -/
def plainEvents : List (Event Unit) :=
  let created := Call.mk "desk" (plainRequest "vault.create" [1])
  [.call created, .call created, .call ⟨"desk", plainRequest "vault.create" [2]⟩, .digested 0, .digested 1, .digested 2,
    .ended 0 (.ok ⟨.response, [3], true⟩), .resumed 0, .resumed 1]

theorem operations_run_once_plain :
    (executionsOf ("desk", "r") (foundAt id 1 plainEvents 9)).length = 1 := by
  have distinguishes : ∀ call other : Call, .call call ∈ plainEvents → .call other ∈ plainEvents →
      id call.request.payload = id other.request.payload → call.request.payload = other.request.payload :=
    fun _ _ _ _ same => same
  have runs : RunsOnce id 1 plainEvents := operations_run_once plainEvents distinguishes
  have retained : ∀ number < 9, 4 ≤ number →
      ((foundAt id 1 plainEvents number).entries.get? ("desk", "r")).isSome = true := by decide +kernel
  rw [runs.once 4 9 ("desk", "r") (by decide) fun number after within => retained number within after]
  decide +kernel

end Retried

end BioAuth.Mobile.ApplicationIdempotency
