import BioAuth.Native.VaultStoreChannel

namespace BioAuth.Native
open BioAuth VaultStoreData

section Runs
variable [OrgJson]

/-- The items a request finds in the file. -/
def Reads (blob : Option Bytes) (items : List VaultItem) : Prop :=
  match blob with
  | none => items = []
  | some octets => VaultStoreCodec.decode octets = .ok items

/-- The change is made for a call that waits for its answer, to the very file its request has read, and it is the one the
request asks for. -/
structure Change.Own (change : Change) : Prop where
  unanswered : change.unanswered = true
  current : change.before = change.blob
  asked : change.request = .discard ∧ change.after = none ∨
    Reads change.blob change.read ∧ ∃ env answer,
      work env change.read change.request = .ok (.persist change.updated answer) ∧
          change.after = some (VaultStoreCodec.encode change.updated) ∨
        work env change.read change.request = .ok (.erase answer) ∧ change.after = none

def Entry.answers (call : Nat) : Entry → Bool
  | .answered other _ => other = call
  | .changed _ => false

/-- Nothing is left of a plaintext. -/
def Wiped (octets : Bytes) : Prop := ∀ octet ∈ octets, octet = 0

/-- The call that waits for its answer, and its prompt. -/
structure Now where
  channel : Nat
  call : Nat
  prompt : Option Nat

/-- What holds between and within events. A plaintext may lie open. -/
structure Books (phone : Phone) (now : Option Now) (lying : Option Nat) : Prop where
  pending : ∀ channel call, (phone.channels channel).pendingResult = some call ↔
    ∃ n, now = some n ∧ n.channel = channel ∧ n.call = call
  flag : phone.operationInProgress = now.isSome
  young : ∀ n, now = some n → n.call < phone.calls
  answers : ∀ call, phone.log.countP (Entry.answers call) =
    if call < phone.calls ∧ now.map Now.call ≠ some call then 1 else 0
  wiped : ∀ (plaintext : Nat) held, phone.plaintexts[plaintext]? = some held → Wiped held.2 ∨ lying = some plaintext
  cleanups : ∀ channel plaintext, (phone.channels channel).pendingCleanup = some plaintext → lying = some plaintext →
    ∃ n, now = some n ∧ n.channel = channel
  placed : ∀ channel plaintext, (phone.channels channel).pendingCleanup = some plaintext →
    plaintext < phone.plaintexts.length
  known : ∀ prompt ∈ phone.prompts, prompt.call < phone.calls
  alone : ∀ (number : Nat) prompt, phone.prompts[number]? = some prompt → prompt.delivered = false →
    ∀ n, now = some n → prompt.call = n.call → n.prompt = some number
  changes : ∀ change, .changed change ∈ phone.log → change.Own ∧ ∃ answer, .answered change.call (.ok answer) ∈ phone.log

namespace Phone
variable {phone : Phone} {channel call : Nat}

omit [OrgJson] in
theorem channels_setChannel (state : VaultStoreChannel) (other : Nat) :
    ((phone.setChannel channel state).channels other) = if other = channel then state else phone.channels other :=
  Function.update_apply _ _ _ _

end Phone

omit [OrgJson] in
theorem wiped_replicate (count : Nat) : Wiped (List.replicate count 0) := fun _ member => (List.mem_replicate.mp member).2

namespace Books
variable {phone : Phone} {now : Option Now} {lying : Option Nat}

omit [OrgJson] in
theorem plaintexts_wipe (phone : Phone) (plaintext other : Nat) :
    (phone.wipe plaintext).plaintexts[other]? =
      if plaintext = other then phone.plaintexts[other]?.map fun held => (held.1, List.replicate held.2.length 0)
      else phone.plaintexts[other]? := by
  unfold Phone.wipe
  rw [List.getElem?_modify]
  split
  · rfl
  · simp

theorem wipe (books : Books phone now lying) (plaintext : Nat) : Books (phone.wipe plaintext) now lying :=
  { books with
    placed := by
      intro channel other named
      rw [Phone.wipe, List.length_modify]
      exact books.placed channel other named
    wiped := by
      intro other held found
      rw [plaintexts_wipe] at found
      split at found
      · obtain ⟨before, _, rfl⟩ := Option.map_eq_some_iff.mp found
        exact Or.inl (wiped_replicate _)
      · exact books.wiped other held found }

/-- What lies open is wiped. -/
theorem wipe_lying {plaintext : Nat} (books : Books phone now (some plaintext)) : Books (phone.wipe plaintext) now none :=
  { books.wipe plaintext with
    wiped := by
      intro other held found
      rw [plaintexts_wipe] at found
      split at found
      · obtain ⟨before, _, rfl⟩ := Option.map_eq_some_iff.mp found
        exact Or.inl (wiped_replicate _)
      · rename_i apart
        exact Or.inl ((books.wiped other held found).resolve_right fun same => apart (Option.some.inj same))
    cleanups := fun _ _ _ never => nomatch never }

theorem invoke (books : Books phone now lying) (cleanup : Option Nat) : Books (phone.invoke cleanup) now lying := by
  cases cleanup with
  | none => exact books
  | some plaintext => exact books.wipe plaintext

theorem invoke_lying (books : Books phone now lying) : Books (phone.invoke lying) now none := by
  cases lying with
  | none => exact books
  | some plaintext => exact books.wipe_lying

/-- The activity, the prompt and the cleanup of a channel are none of the calls' business. -/
theorem setChannel (books : Books phone now lying) (channel : Nat) {state : VaultStoreChannel}
    (same : state.pendingResult = (phone.channels channel).pendingResult)
    (cleanup : ∀ plaintext, state.pendingCleanup = some plaintext → lying = some plaintext →
      ∃ n, now = some n ∧ n.channel = channel)
    (placed : ∀ plaintext, state.pendingCleanup = some plaintext → plaintext < phone.plaintexts.length) :
    Books (phone.setChannel channel state) now lying :=
  { books with
    placed := by
      intro other plaintext named
      rw [Phone.channels_setChannel] at named
      split at named
      · exact placed plaintext named
      · exact books.placed other plaintext named
    pending := by
      intro other call
      rw [← books.pending other call, Phone.channels_setChannel]
      split
      · rename_i here
        rw [same, here]
      · rfl
    cleanups := by
      intro other plaintext named lies
      rw [Phone.channels_setChannel] at named
      split at named
      · rename_i here
        rw [here]
        exact cleanup plaintext named lies
      · exact books.cleanups other plaintext named lies }

theorem cleanPending_lying {channel : Nat} (books : Books phone now lying)
    (own : (phone.channels channel).pendingCleanup = lying) : Books (phone.cleanPending channel) now none := by
  unfold Phone.cleanPending
  rw [own]
  exact books.invoke_lying.setChannel channel (by cases lying <;> rfl) (fun _ never => nomatch never)
    fun _ never => nomatch never

section Answers
variable {channel call : Nat} {n : Now} {answer : Except VaultStoreFailure ChannelValue}

theorem waits (books : Books phone (some n) lying) : (phone.channels n.channel).pendingResult = some n.call :=
  (books.pending n.channel n.call).mpr ⟨n, rfl, rfl, rfl⟩

/-- The call under way is answered. -/
theorem close (books : Books phone (some n) lying) (answer : Except VaultStoreFailure ChannelValue)
    {state : VaultStoreChannel} (answered : state.pendingResult = none)
    (clean : lying = none ∨ state.pendingCleanup = none)
    (placed : ∀ plaintext, state.pendingCleanup = some plaintext → plaintext < phone.plaintexts.length) :
    Books (Phone.respond n.call answer { phone.setChannel n.channel state with operationInProgress := false }) none
      lying where
  pending := by
    intro channel call
    have apart := (books.pending channel call).mp
    change ((phone.setChannel n.channel state).channels channel).pendingResult = some call ↔ _
    rw [Phone.channels_setChannel]
    constructor
    · split
      · intro never
        rw [answered] at never
        cases never
      · rename_i other
        intro waits
        obtain ⟨m, same, here, _⟩ := apart waits
        cases same
        exact absurd here.symm other
    · intro ⟨_, never, _⟩
      cases never
  flag := rfl
  young _ never := nomatch never
  answers := by
    intro call
    have before := books.answers call
    change (phone.log ++ [Entry.answered n.call answer]).countP _ = if call < phone.calls ∧ _ then 1 else 0
    rw [List.countP_append, before, List.countP_singleton, Entry.answers]
    have young := books.young n rfl
    by_cases same : n.call = call
    · subst same
      simp [young]
    · simp [same]
  wiped := books.wiped
  cleanups := by
    intro channel plaintext named lies
    change ((phone.setChannel n.channel state).channels channel).pendingCleanup = some plaintext at named
    rw [Phone.channels_setChannel] at named
    split at named
    · rcases clean with never | never
      · rw [never] at lies
        cases lies
      · rw [never] at named
        cases named
    · rename_i other
      obtain ⟨m, same, here⟩ := books.cleanups channel plaintext named lies
      cases same
      exact absurd here.symm other
  placed := by
    intro channel plaintext named
    change ((phone.setChannel n.channel state).channels channel).pendingCleanup = some plaintext at named
    rw [Phone.channels_setChannel] at named
    split at named
    · exact placed plaintext named
    · exact books.placed channel plaintext named
  known := books.known
  alone _ _ _ _ _ never := nomatch never
  changes := by
    intro change member
    have old : Entry.changed change ∈ phone.log := by
      rcases List.mem_append.mp member with old | new
      · exact old
      · exact absurd (List.mem_singleton.mp new) nofun
    obtain ⟨own, answer, answered⟩ := books.changes change old
    exact ⟨own, answer, List.mem_append_left _ answered⟩

theorem succeed (books : Books phone (some n) lying) (answer : ChannelValue)
    (clean : lying = none ∨ (phone.channels n.channel).pendingCleanup = none) :
    Books (phone.succeed n.channel answer) none lying := by
  unfold Phone.succeed
  rw [books.waits]
  exact books.close (.ok answer) rfl clean (books.placed n.channel)

/-- A change of the file, and the answer after it. -/
theorem change_succeed (books : Books phone (some n) lying) (answer : ChannelValue)
    (clean : lying = none ∨ (phone.channels n.channel).pendingCleanup = none) {request : Request} {blob after : Option Bytes}
    {read updated : List VaultItem}
    (own : Change.Own ⟨n.call, request, true, phone.storage, blob, read, updated, after⟩) :
    Books ((phone.change n.channel n.call request blob read updated after).succeed n.channel answer) none lying := by
  have waits : ((phone.change n.channel n.call request blob read updated after).channels n.channel).pendingResult =
      some n.call := books.waits
  have unanswered : decide ((phone.channels n.channel).pendingResult = some n.call) = true := decide_eq_true books.waits
  have log : (phone.change n.channel n.call request blob read updated after).log =
      phone.log ++ [.changed ⟨n.call, request, true, phone.storage, blob, read, updated, after⟩] := by
    rw [Phone.change, unanswered]
  have closed := books.succeed answer clean
  unfold Phone.succeed at closed ⊢
  rw [books.waits] at closed
  rw [waits]
  exact { closed with
    answers := by
      intro call
      have counted := closed.answers call
      change (phone.log ++ [Entry.answered n.call (.ok answer)]).countP _ = _ at counted
      change ((phone.change n.channel n.call request blob read updated after).log ++
        [Entry.answered n.call (.ok answer)]).countP _ = _
      rw [List.countP_append] at counted
      rw [log, List.countP_append, List.countP_append, List.countP_singleton]
      exact counted
    changes := by
      intro change member
      change Entry.changed change ∈ (phone.change n.channel n.call request blob read updated after).log ++
        [Entry.answered n.call (.ok answer)] at member
      rw [log] at member
      rcases List.mem_append.mp member with earlier | last
      · rcases List.mem_append.mp earlier with old | new
        · obtain ⟨kept, answer, answered⟩ := books.changes change old
          refine ⟨kept, answer, ?_⟩
          change _ ∈ (phone.change n.channel n.call request blob read updated after).log ++ _
          rw [log]
          exact List.mem_append_left _ (List.mem_append_left _ answered)
        · cases List.mem_singleton.mp new
          exact ⟨own, answer, List.mem_append_right _ (List.mem_singleton_self _)⟩
      · exact absurd (List.mem_singleton.mp last) nofun }

omit [OrgJson] in
theorem fail_eq (phone : Phone) (channel : Nat) (failure : VaultStoreFailure) {call : Nat}
    (waits : (phone.channels channel).pendingResult = some call) :
    phone.fail channel failure = Phone.respond call (.error failure)
      { (phone.invoke (phone.channels channel).pendingCleanup).setChannel channel
          { phone.channels channel with pendingResult := none, prompt := none, pendingCleanup := none } with
        operationInProgress := false } := by
  unfold Phone.fail Phone.cleanPending
  rw [waits]
  dsimp only
  rw [Phone.channels_setChannel, if_pos rfl]
  cases (phone.channels channel).pendingCleanup with
  | none => simp only [Phone.invoke, Phone.setChannel, Function.update_idem]
  | some plaintext => simp only [Phone.invoke, Phone.wipe, Phone.setChannel, Function.update_idem]

theorem fail (books : Books phone (some n) lying) (failure : VaultStoreFailure) :
    Books (phone.fail n.channel failure) none lying ∧
      ((phone.channels n.channel).pendingCleanup = lying → Books (phone.fail n.channel failure) none none) := by
  rw [fail_eq phone n.channel failure books.waits]
  constructor
  · exact (books.invoke _).close (.error failure) rfl (Or.inr rfl) fun _ never => nomatch never
  · intro own
    rw [own]
    exact books.invoke_lying.close (.error failure) rfl (Or.inr rfl) fun _ never => nomatch never

end Answers

/-- A plaintext is serialised, and lies open. -/
theorem serialise (books : Books phone (some n) none) (call : Nat) (octets : Bytes) :
    Books { phone with plaintexts := phone.plaintexts ++ [(call, octets)] } (some n) (some phone.plaintexts.length) :=
  { books with
    wiped := by
      intro plaintext held found
      rw [List.getElem?_append] at found
      split at found
      · exact Or.inl ((books.wiped plaintext held found).resolve_right nofun)
      · rename_i late
        rw [List.getElem?_singleton] at found
        split at found
        · exact Or.inr (congrArg some (by omega))
        · cases found
    cleanups := by
      intro channel plaintext named lies
      have early := books.placed channel plaintext named
      cases lies
      exact absurd early (Nat.lt_irrefl _)
    placed := by
      intro channel plaintext named
      rw [List.length_append]
      exact Nat.lt_add_right _ (books.placed channel plaintext named) }

/-- A call is refused at once. -/
theorem refuse (books : Books phone now lying) (failure : VaultStoreFailure) :
    Books (Phone.respond phone.calls (.error failure) { phone with calls := phone.calls + 1 }) now lying :=
  { books with
    young := fun n same => Nat.lt_succ_of_lt (books.young n same)
    answers := by
      intro call
      change (phone.log ++ [Entry.answered phone.calls (.error failure)]).countP _ = if call < phone.calls + 1 ∧ _ then 1 else 0
      rw [List.countP_append, books.answers call, List.countP_singleton, Entry.answers]
      by_cases same : phone.calls = call
      · subst same
        have other : now.map Now.call ≠ some phone.calls := by
          intro here
          obtain ⟨n, known, equal⟩ := Option.map_eq_some_iff.mp here
          have young := books.young n known
          omega
        simp [other]
      · simp only [same, decide_false, Bool.false_eq_true, if_false, Nat.add_zero]
        refine if_congr (and_congr_left fun _ => ?_) rfl rfl
        omega
    known := fun prompt member => Nat.lt_succ_of_lt (books.known prompt member)
    changes := by
      intro change member
      have old : Entry.changed change ∈ phone.log := by
        rcases List.mem_append.mp member with old | new
        · exact old
        · exact absurd (List.mem_singleton.mp new) nofun
      obtain ⟨own, answer, answered⟩ := books.changes change old
      exact ⟨own, answer, List.mem_append_left _ answered⟩ }

/-- A call is taken up. -/
theorem claim (books : Books phone none none) (channel : Nat) :
    Books { ({ phone with calls := phone.calls + 1 } : Phone).setChannel channel
        { phone.channels channel with pendingResult := some phone.calls } with operationInProgress := true }
      (some ⟨channel, phone.calls, none⟩) none :=
  { books with
    pending := by
      intro other call
      change ((phone.setChannel channel _).channels other).pendingResult = some call ↔ _
      rw [Phone.channels_setChannel]
      simp only [Option.some.injEq, exists_eq_left']
      split
      · rename_i here
        simp [here]
      · rename_i apart
        have idle := books.pending other call
        simp only [reduceCtorEq, false_and, exists_false, iff_false] at idle
        exact iff_of_false idle fun same => apart same.1.symm
    flag := rfl
    young := by
      intro n same
      cases same
      exact Nat.lt_succ_self _
    answers := by
      intro call
      change phone.log.countP _ = if call < phone.calls + 1 ∧ _ then 1 else 0
      rw [books.answers call]
      simp only [Option.map_none, Option.map_some, ne_eq, reduceCtorEq, not_false_iff, and_true, Option.some.injEq]
      refine if_congr ?_ rfl rfl
      omega
    cleanups := fun _ _ _ never => nomatch never
    placed := by
      intro other plaintext named
      change ((phone.setChannel channel _).channels other).pendingCleanup = some plaintext at named
      rw [Phone.channels_setChannel] at named
      split at named
      · exact books.placed channel plaintext named
      · exact books.placed other plaintext named
    known := fun prompt member => Nat.lt_succ_of_lt (books.known prompt member)
    alone := by
      intro number prompt found _ n same mine
      cases same
      have early := books.known prompt (List.mem_of_getElem? found)
      exact absurd mine (Nat.ne_of_lt early) }

/-- A callback comes. -/
theorem deliver (books : Books phone now lying) {number : Nat} {prompt : Prompt}
    (found : phone.prompts[number]? = some prompt) : Books (phone.deliver number prompt) now lying :=
  { books with
    known := by
      intro other member
      rcases List.mem_or_eq_of_mem_set member with old | rfl
      · exact books.known other old
      · exact books.known prompt (List.mem_of_getElem? found)
    alone := by
      intro place other here waiting n same mine
      rw [Phone.deliver, List.getElem?_set] at here
      split at here
      · split at here
        · cases here
          cases waiting
        · cases here
      · exact books.alone place other here waiting n same mine }

/-- Once its callback has come the call under way has no prompt. -/
theorem delivered {number : Nat} {prompt : Prompt} (books : Books phone (some n) lying)
    (found : phone.prompts[number]? = some prompt) (own : n.prompt = some number) :
    Books (phone.deliver number prompt) (some ⟨n.channel, n.call, none⟩) lying :=
  { books.deliver found with
    pending := by
      intro channel call
      rw [(books.deliver found).pending channel call]
      simp only [Option.some.injEq, exists_eq_left']
    young := by
      intro m same
      cases same
      exact books.young n rfl
    cleanups := by
      intro channel plaintext named lies
      obtain ⟨m, same, here⟩ := books.cleanups channel plaintext named lies
      cases same
      exact ⟨_, rfl, here⟩
    alone := by
      intro place other here waiting m same mine
      cases same
      have there := (books.deliver found).alone place other here waiting n rfl mine
      rw [own] at there
      cases there
      rw [Phone.deliver, List.getElem?_set_self (List.getElem?_eq_some_iff.mp found).1] at here
      cases here
      cases waiting }

/-- What lies open is wiped and the call under way fails. -/
theorem dismiss (books : Books phone (some n) lying) (own : (phone.channels n.channel).pendingCleanup = lying)
    (failure : VaultStoreFailure) : Books ((phone.cleanPending n.channel).fail n.channel failure) none none :=
  ((books.cleanPending_lying own).fail failure).1

/-- A prompt is raised for the call under way. -/
theorem raise (books : Books phone (some n) lying) (fresh : n.prompt = none) (continuation : Continuation) :
    Books { phone with prompts := phone.prompts ++ [⟨n.channel, n.call, continuation, false⟩] }
      (some ⟨n.channel, n.call, some phone.prompts.length⟩) lying :=
  { books with
    pending := by
      intro channel call
      rw [books.pending channel call]
      simp only [Option.some.injEq, exists_eq_left']
    young := by
      intro m same
      cases same
      exact books.young n rfl
    cleanups := by
      intro channel plaintext named lies
      obtain ⟨m, same, here⟩ := books.cleanups channel plaintext named lies
      cases same
      exact ⟨_, rfl, here⟩
    known := by
      intro prompt member
      rcases List.mem_append.mp member with old | new
      · exact books.known prompt old
      · cases List.mem_singleton.mp new
        exact books.young n rfl
    alone := by
      intro number prompt found waiting m same mine
      cases same
      rw [List.getElem?_append] at found
      split at found
      · have never := books.alone number prompt found waiting n rfl mine
        rw [fresh] at never
        cases never
      · rename_i late
        rw [List.getElem?_singleton] at found
        split at found
        · rename_i here
          exact congrArg some (by omega)
        · cases found }

end Books

/-- What the prompt of the call under way is about: the file as it is, and the plaintext that lies open. -/
def Continuation.Current (phone : Phone) (channel call : Nat) (lying : Option Nat) : Continuation → Prop
  | .unlock _ blob => lying = none ∧ (phone.channels channel).pendingCleanup = none ∧ blob = phone.storage
  | .write plaintext request blob read updated _ =>
    lying = some plaintext ∧ (phone.channels channel).pendingCleanup = some plaintext ∧
      phone.plaintexts[plaintext]? = some (call, VaultStoreCodec.encode updated) ∧ blob = phone.storage ∧
      Reads blob read ∧ ∃ env answer, work env read request = .ok (.persist updated answer)

/-- The call under way waits for its prompt. -/
structure Waiting (phone : Phone) (channel call number : Nat) (lying : Option Nat) : Prop where
  books : Books phone (some ⟨channel, call, some number⟩) lying
  raised : ∃ continuation, phone.prompts[number]? = some ⟨channel, call, continuation, false⟩ ∧
    continuation.Current phone channel call lying

/-- The call that waits for its prompt, with the plaintext that lies open for it. -/
structure Wait where
  channel : Nat
  call : Nat
  number : Nat
  lying : Option Nat

/-- What holds between two events. -/
def Phone.Live (phone : Phone) : Option Wait → Prop
  | none => Books phone none none
  | some wait => Waiting phone wait.channel wait.call wait.number wait.lying

def Phone.Sound (phone : Phone) : Prop := ∃ wait, phone.Live wait

theorem Books.sound {phone : Phone} (books : Books phone none none) : phone.Sound := ⟨none, books⟩

section Steps
variable {env : Surroundings} {phone : Phone} {channel call : Nat}

/-- A call under way has no prompt, and what the file holds is known. -/
structure Held (channel call : Nat) (storage : Option Bytes) (phone : Phone) : Prop where
  books : Books phone (some ⟨channel, call, none⟩) none
  storage : phone.storage = storage

theorem authenticate_ends {lying : Option Nat} (books : Books phone (some ⟨channel, call, none⟩) lying)
    {continuation : Continuation} (current : continuation.Current (phone.leave channel lying) channel call lying) :
    (authenticate env channel call lying continuation).Ends (fun _ after => after.Sound)
      (fun _ after => Books after (some ⟨channel, call, none⟩) lying ∧ after.storage = phone.storage) phone := by
  have placed : ∀ plaintext, lying = some plaintext → plaintext < phone.plaintexts.length := by
    intro plaintext lies
    cases continuation with
    | unlock request blob =>
      rw [current.1] at lies
      cases lies
    | write other request blob read updated answer =>
      obtain ⟨same, _, found, _⟩ := current
      cases lies.symm.trans same
      exact (List.getElem?_eq_some_iff.mp found).1
  have left : Books (phone.leave channel lying) (some ⟨channel, call, none⟩) lying :=
    books.setChannel channel rfl (fun _ _ _ => ⟨_, rfl, rfl⟩) placed
  have kept : (((phone.leave channel lying).raise channel call continuation).channels channel).pendingCleanup =
      ((phone.leave channel lying).channels channel).pendingCleanup := by
    change (((phone.leave channel lying).setChannel channel _).channels channel).pendingCleanup = _
    rw [Phone.channels_setChannel, if_pos rfl]
  have waiting : Waiting ((phone.leave channel lying).raise channel call continuation) channel call
      phone.prompts.length lying := by
    refine ⟨(left.raise rfl continuation).setChannel channel rfl (fun _ _ _ => ⟨_, rfl, rfl⟩) (left.placed channel), continuation,
      List.getElem?_concat_length, ?_⟩
    cases continuation with
    | unlock request blob => exact ⟨current.1, kept.trans current.2.1, current.2.2⟩
    | write plaintext request blob read updated answer => exact ⟨current.1, kept.trans current.2.1, current.2.2⟩
  unfold authenticate
  refine Fallible.Ends.bind_of_run (Fallible.get_run phone) ?_
  split
  · refine Fallible.Ends.bind_of_run (Fallible.modify_run _ _) (Fallible.ends_throw.mpr ⟨books.invoke lying, ?_⟩)
    cases lying <;> rfl
  · refine Fallible.Ends.bind_of_run (Fallible.modify_run _ _) ?_
    refine Fallible.Ends.bind (fun _ after => after = phone.leave channel lying)
      (Fallible.ends_liftM.mpr ⟨fun _ _ => rfl, fun _ _ => ⟨left, rfl⟩⟩) fun _ after same => ?_
    subst same
    exact ⟨some ⟨channel, call, _, lying⟩, waiting⟩

theorem persist_ends {blob : Option Bytes} (held : Held channel call blob phone) {request : Request}
    {read updated : List VaultItem} {answer : ChannelValue} (reads : Reads blob read)
    (asked : work env read request = .ok (.persist updated answer)) :
    (persist env channel call request blob read updated answer).Ends (fun _ after => after.Sound)
      (fun _ after => Held channel call blob after) phone := by
  have lies := held.books.serialise call (VaultStoreCodec.encode updated)
  have current : (Continuation.write phone.plaintexts.length request blob read updated answer).Current
      (({ phone with plaintexts := phone.plaintexts ++ [(call, VaultStoreCodec.encode updated)] } : Phone).leave channel
        (some phone.plaintexts.length)) channel call (some phone.plaintexts.length) := by
    refine ⟨rfl, ?_, List.getElem?_concat_length, held.storage.symm, reads, env, answer, asked⟩
    rw [Phone.leave, Phone.channels_setChannel, if_pos rfl]
  unfold persist
  refine Fallible.Ends.bind_of_run (Fallible.get_run phone) (Fallible.Ends.bind_of_run (Fallible.modify_run _ _) ?_)
  refine Fallible.Ends.tryCatch (fun _ after => Books after (some ⟨channel, call, none⟩) (some phone.plaintexts.length) ∧
    after.storage = phone.storage) ?_ ?_
  · refine Fallible.Ends.bind (fun _ after => after =
      { phone with plaintexts := phone.plaintexts ++ [(call, VaultStoreCodec.encode updated)] })
      (Fallible.ends_liftM.mpr ⟨fun _ _ => rfl, fun _ _ => ⟨lies, rfl⟩⟩) fun _ after same => ?_
    subst same
    refine Fallible.Ends.bind (fun _ after => after =
      { phone with plaintexts := phone.plaintexts ++ [(call, VaultStoreCodec.encode updated)] })
      (Fallible.ends_liftM.mpr ⟨fun _ _ => rfl, fun _ _ => ⟨lies, rfl⟩⟩) fun _ after same => ?_
    subst same
    exact authenticate_ends lies current
  · intro failure after ⟨books, storage⟩
    refine Fallible.Ends.bind_of_run (Fallible.modify_run _ _) (Fallible.ends_throw.mpr ⟨books.wipe_lying, ?_⟩)
    exact storage.trans held.storage

theorem process_ends {blob : Option Bytes} (held : Held channel call blob phone) {request : Request}
    {items : List VaultItem} (reads : Reads blob items) :
    (process env channel call request blob items).Ends (fun _ after => after.Sound)
      (fun _ after => Held channel call blob after) phone := by
  unfold process
  refine Fallible.Ends.bind (fun made after => after = phone ∧ work env items request = .ok made)
    (Fallible.ends_liftM.mpr ⟨fun made asked => ⟨rfl, asked⟩, fun _ _ => held⟩) fun made after both => ?_
  obtain ⟨same, asked⟩ := both
  subst same
  cases made with
  | succeed answer => exact (held.books.succeed answer (Or.inl rfl)).sound
  | erase answer =>
    refine Fallible.Ends.bind_of_run (Fallible.modify_run _ _) (Books.sound ?_)
    refine held.books.change_succeed answer (Or.inl rfl) ⟨rfl, held.storage, Or.inr ⟨reads, env, answer, Or.inr ⟨asked, rfl⟩⟩⟩
  | persist updated answer => exact persist_ends held reads asked

theorem unlock_ends (held : Held channel call phone.storage phone) (request : Request) :
    (authenticate env channel call none (.unlock request phone.storage)).Ends (fun _ after => after.Sound)
      (fun _ after => Held channel call phone.storage after) phone := by
  have current : (Continuation.unlock request phone.storage).Current (phone.leave channel none) channel call none := by
    refine ⟨rfl, ?_, rfl⟩
    rw [Phone.leave, Phone.channels_setChannel, if_pos rfl]
  exact (authenticate_ends held.books current).mono (fun _ _ sound => sound) fun _ _ kept => ⟨kept.1, kept.2⟩

theorem load_ends (held : Held channel call phone.storage phone) (request : Request) :
    (load env channel call request).Ends (fun _ after => after.Sound)
      (fun _ after => Held channel call phone.storage after) phone := by
  have checked {result : Except VaultStoreFailure Unit} {step : Fallible Phone VaultStoreFailure Unit}
      (ends : step.Ends (fun _ after => after.Sound) (fun _ after => Held channel call phone.storage after) phone) :
      (MonadLift.monadLift result >>= fun _ => step).Ends (fun _ after => after.Sound)
        (fun _ after => Held channel call phone.storage after) phone :=
    Fallible.Ends.bind (fun _ after => after = phone) (Fallible.ends_liftM.mpr ⟨fun _ _ => rfl, fun _ _ => held⟩)
      fun _ _ same => same ▸ ends
  have discards : (do
      modify (Phone.change channel call .discard phone.storage [] [] none)
      modify (Phone.succeed channel (.map [(.string "discarded", .bool true)])) : Fallible Phone VaultStoreFailure Unit).Ends
      (fun _ after => after.Sound) (fun _ after => Held channel call phone.storage after) phone := by
    refine Fallible.Ends.bind_of_run (Fallible.modify_run _ _) (Books.sound ?_)
    exact held.books.change_succeed _ (Or.inl rfl) ⟨rfl, rfl, Or.inl ⟨rfl, rfl⟩⟩
  have missing (failure : VaultStoreFailure) : (modify (Phone.fail channel failure) : Fallible Phone VaultStoreFailure Unit).Ends
      (fun _ after => after.Sound) (fun _ after => Held channel call phone.storage after) phone :=
    (held.books.fail failure).1.sound
  have unlocks : (authenticate env channel call none (.unlock request phone.storage)).Ends _ _ _ := unlock_ends held request
  unfold load
  refine Fallible.Ends.bind_of_run (Fallible.get_run phone) ?_
  generalize file : phone.storage = storage at *
  cases storage with
  | none =>
    have reads : Reads none [] := rfl
    cases request with
    | discard => exact discards
    | list _ => exact checked (checked unlocks)
    | listAll => exact checked (checked unlocks)
    | create _ => exact process_ends held reads
    | «export» => exact process_ends held reads
    | restore _ => exact process_ends held reads
    | fetch _ => exact missing _
    | update _ _ => exact missing _
    | delete _ _ => exact missing _
  | some blob =>
    cases request with
    | discard => exact discards
    | _ => exact checked (checked (checked unlocks))

end Steps

end Runs

end BioAuth.Native
