import BioAuth.Native.VaultStoreChannelEvents
import BioAuth.Native.VaultStoreRuns

namespace BioAuth.Native
open BioAuth VaultStoreData

/-- What the entries of a log make of the file, each from what the one before left. -/
def Story (storage : Option Bytes) : List Entry → Option Bytes → Prop
  | [], last => last = storage
  | .answered _ _ :: entries, last => Story storage entries last
  | .changed change :: entries, last => change.before = storage ∧ Story change.after entries last

/-- The log is only added to, and tells what becomes of the file. -/
def Told (phone after : Phone) : Prop :=
  ∃ news, after.log = phone.log ++ news ∧ Story phone.storage news after.storage

section Told
variable {phone after last : Phone}

theorem story_append {first second : List Entry} : ∀ {storage middle last : Option Bytes},
    Story storage first middle → Story middle second last → Story storage (first ++ second) last := by
  induction first with
  | nil =>
    intro storage middle last before later
    cases before
    exact later
  | cons entry entries ih =>
    intro storage middle last before later
    cases entry with
    | answered call answer => exact ih before later
    | changed change => exact ⟨before.1, ih before.2 later⟩

theorem Told.of_same (log : after.log = phone.log) (storage : after.storage = phone.storage) : Told phone after :=
  ⟨[], log.trans (List.append_nil _).symm, storage⟩

theorem Told.refl (phone : Phone) : Told phone phone := Told.of_same rfl rfl

theorem Told.trans (first : Told phone after) (second : Told after last) : Told phone last := by
  obtain ⟨news, log, story⟩ := first
  obtain ⟨later, log', story'⟩ := second
  refine ⟨news ++ later, ?_, story_append story story'⟩
  rw [log', log, List.append_assoc]

instance : Std.Refl Told := ⟨Told.refl⟩

instance : Trans Told Told Told := ⟨Told.trans⟩

theorem told_invoke (phone : Phone) (cleanup : Option Nat) : Told phone (phone.invoke cleanup) := by
  cases cleanup <;> exact Told.of_same rfl rfl

theorem told_respond (phone : Phone) (call : Nat) (answer : Except VaultStoreFailure ChannelValue) :
    Told phone (phone.respond call answer) := ⟨[.answered call answer], rfl, rfl⟩

theorem told_cleanPending (phone : Phone) (channel : Nat) : Told phone (phone.cleanPending channel) :=
  (told_invoke phone _).trans (Told.of_same rfl rfl)

theorem told_succeed (phone : Phone) (channel : Nat) (answer : ChannelValue) :
    Told phone (phone.succeed channel answer) := by
  unfold Phone.succeed
  split
  · exact Told.refl phone
  · exact ⟨[.answered _ _], rfl, rfl⟩

theorem told_fail (phone : Phone) (channel : Nat) (failure : VaultStoreFailure) :
    Told phone (phone.fail channel failure) := by
  unfold Phone.fail
  split
  · exact Told.refl phone
  · refine (Told.trans ?_ (told_cleanPending _ channel)).trans ⟨[.answered _ _], rfl, rfl⟩
    exact Told.of_same rfl rfl

theorem told_change (phone : Phone) (channel call : Nat) (request : Request) (blob : Option Bytes)
    (read updated : List VaultItem) (after : Option Bytes) :
    Told phone (phone.change channel call request blob read updated after) := ⟨[.changed _], rfl, rfl, rfl⟩

end Told

theorem answers_of_mem {log : List Entry} {call : Nat} {first second : Except VaultStoreFailure ChannelValue}
    (one : log.countP (Entry.answers call) = 1) (there : Entry.answered call first ∈ log) (here : Entry.answered call second ∈ log) :
    first = second := by
  induction log with
  | nil => cases there
  | cons entry entries ih =>
    rw [List.countP_cons] at one
    have none_left (counted : Entry.answers call entry = true) {answer : Except VaultStoreFailure ChannelValue}
        (member : Entry.answered call answer ∈ entries) : False := by
      have some_left : 0 < entries.countP (Entry.answers call) :=
        List.countP_pos_iff.mpr ⟨_, member, decide_eq_true rfl⟩
      rw [counted, if_pos rfl] at one
      omega
    rcases List.mem_cons.mp there with rfl | later
    · rcases List.mem_cons.mp here with same | later
      · cases same
        rfl
      · exact absurd later (none_left (decide_eq_true rfl))
    · rcases List.mem_cons.mp here with rfl | also
      · exact absurd later (none_left (decide_eq_true rfl))
      · have apart : Entry.answers call entry ≠ true := fun counted => none_left counted also
        rw [if_neg apart] at one
        exact ih one later also

section Runs
variable [OrgJson]

section Steps
variable {phone : Phone} {env : Surroundings} {channel call : Nat}

omit [OrgJson] in
theorem told_authenticate (cleanup : Option Nat) (continuation : Continuation) :
    (authenticate env channel call cleanup continuation).Moves Told := by
  unfold authenticate
  refine Fallible.Moves.bind Fallible.Moves.get fun phone => ?_
  split
  · exact Fallible.Moves.bind (Fallible.Moves.modify fun phone => told_invoke phone cleanup)
      fun _ => Fallible.Moves.throw _
  · refine Fallible.Moves.bind (Fallible.Moves.modify fun _ => Told.of_same rfl rfl) fun _ => ?_
    refine Fallible.Moves.bind (Fallible.Moves.liftM _) fun _ => ?_
    exact Fallible.Moves.modify fun _ => Told.of_same rfl rfl

theorem told_persist (request : Request) (blob : Option Bytes) (read updated : List VaultItem) (answer : ChannelValue) :
    (persist env channel call request blob read updated answer).Moves Told := by
  unfold persist
  refine Fallible.Moves.bind Fallible.Moves.get fun phone => ?_
  refine Fallible.Moves.bind (Fallible.Moves.modify fun _ => Told.of_same rfl rfl) fun _ => ?_
  refine Fallible.Moves.tryCatch ?_ fun failure => ?_
  · refine Fallible.Moves.bind (Fallible.Moves.liftM _) fun _ => ?_
    exact Fallible.Moves.bind (Fallible.Moves.liftM _) fun _ => told_authenticate _ _
  · exact Fallible.Moves.bind (Fallible.Moves.modify fun _ => Told.of_same rfl rfl)
      fun _ => Fallible.Moves.throw _

theorem told_process (request : Request) (blob : Option Bytes) (items : List VaultItem) :
    (process env channel call request blob items).Moves Told := by
  unfold process
  refine Fallible.Moves.bind (Fallible.Moves.liftM _) fun made => ?_
  cases made with
  | succeed answer => exact Fallible.Moves.modify fun phone => told_succeed phone channel answer
  | erase answer =>
    exact Fallible.Moves.bind (Fallible.Moves.modify fun phone => told_change phone _ _ _ _ _ _ _)
      fun _ => Fallible.Moves.modify fun phone => told_succeed phone channel answer
  | persist updated answer => exact told_persist request blob items updated answer

theorem told_load (request : Request) : (load env channel call request).Moves Told := by
  have lifted (result : Except VaultStoreFailure Unit) {step : Fallible Phone VaultStoreFailure Unit}
      (told : step.Moves Told) : (liftM result >>= fun _ => step).Moves Told :=
    Fallible.Moves.bind (Fallible.Moves.liftM result) fun _ => told
  unfold load
  refine Fallible.Moves.bind Fallible.Moves.get fun phone => ?_
  split
  · exact Fallible.Moves.bind (Fallible.Moves.modify fun phone => told_change phone _ _ _ _ _ _ _)
      fun _ => Fallible.Moves.modify fun phone => told_succeed phone channel _
  · exact lifted _ (lifted _ (told_authenticate _ _))
  · exact lifted _ (lifted _ (told_authenticate _ _))
  · exact told_process _ _ _
  · exact told_process _ _ _
  · exact told_process _ _ _
  · exact Fallible.Moves.modify fun phone => told_fail phone channel _
  · exact Fallible.Moves.modify fun phone => told_fail phone channel _
  · exact Fallible.Moves.modify fun phone => told_fail phone channel _
  · exact lifted _ (lifted _ (lifted _ (told_authenticate _ _)))

theorem told_operation (prompt : Prompt) : (operation env prompt).Moves Told := by
  unfold operation
  split
  · exact told_process _ _ _
  · refine Fallible.Moves.bind (Fallible.Moves.liftM _) fun _ => ?_
    exact Fallible.Moves.bind (Fallible.Moves.liftM _) fun items => told_process _ _ items
  · refine Fallible.Moves.bind Fallible.Moves.get fun phone => ?_
    refine Fallible.Moves.bind (Fallible.Moves.liftM _) fun _ => ?_
    refine Fallible.Moves.bind (Fallible.Moves.liftM _) fun _ => ?_
    exact Fallible.Moves.bind (Fallible.Moves.modify fun phone => told_change phone _ _ _ _ _ _ _)
      fun _ => Fallible.Moves.modify fun phone => told_succeed phone _ _

omit [OrgJson] in
theorem told_orFail (phone : Phone) (channel : Nat) {step : Fallible Phone VaultStoreFailure Unit} (told : step.Moves Told) :
    Told phone (phone.orFail channel step) := by
  unfold Phone.orFail
  split
  · rename_i after run
    exact told.of_run run
  · rename_i failure after run
    exact (told.of_run run).trans (told_fail after channel failure)

/-- Every event is told, timely or not. -/
theorem told_after (phone : Phone) (event : ChannelEvent) : Told phone (phone.after event) := by
  cases event with
  | attach channel activity => exact Told.of_same rfl rfl
  | detach channel =>
    refine Told.trans ?_ (told_fail _ channel _)
    refine Told.trans ?_ (told_cleanPending _ channel)
    exact Told.of_same rfl rfl
  | call channel methodCall env =>
    have called : Told phone { phone with calls := phone.calls + 1 } := Told.of_same rfl rfl
    change Told phone (phone.onMethodCall env channel methodCall)
    unfold Phone.onMethodCall
    dsimp only
    split
    · exact called.trans (told_respond _ _ _)
    · split
      · exact called.trans (told_respond _ _ _)
      · split
        · exact called.trans (told_respond _ _ _)
        · refine Told.trans ?_ (told_orFail _ channel (told_load _))
          exact Told.of_same rfl rfl
  | succeeded number cipher env =>
    unfold Phone.after
    dsimp only
    split
    · split
      · exact Told.refl phone
      · unfold Phone.onAuthenticationSucceeded
        dsimp only
        split
        · refine Told.trans (Told.trans ?_ (told_orFail _ _ (told_operation _))) (told_invoke _ _)
          exact Told.of_same rfl rfl
        · refine Told.trans (Told.trans ?_ (told_invoke _ _)) (told_fail _ _ _)
          exact Told.of_same rfl rfl
    · exact Told.refl phone
  | failed number cancelled =>
    unfold Phone.after
    dsimp only
    split
    · split
      · exact Told.refl phone
      · refine Told.trans (Told.trans ?_ (told_cleanPending _ _)) (told_fail _ _ _)
        exact Told.of_same rfl rfl
    · exact Told.refl phone

end Steps

theorem Phone.after_succeeded (phone : Phone) (number : Nat) (cipher : Bool) (env : Surroundings) :
    phone.after (.succeeded number cipher env) = match phone.prompts[number]? with
      | some prompt =>
        if prompt.delivered then phone else (phone.deliver number prompt).onAuthenticationSucceeded env prompt cipher
      | none => phone := rfl

theorem Phone.after_failed (phone : Phone) (number : Nat) (cancelled : Bool) :
    phone.after (.failed number cancelled) = match phone.prompts[number]? with
      | some prompt => if prompt.delivered then phone else (phone.deliver number prompt).onAuthenticationError prompt cancelled
      | none => phone := rfl

/-- One timely event after another. -/
theorem Phone.Live.after {phone : Phone} {wait : Option Wait} {event : ChannelEvent} (live : phone.Live wait)
    (timely : phone.Timely event) : (phone.after event).Sound := by
  have late_or {number : Nat} {prompt : Prompt} (named : event.prompt = some number)
      (found : phone.prompts[number]? = some prompt)
      (other : prompt.delivered = true ∨ (phone.channels prompt.channel).pendingResult ≠ some prompt.call) :
      (phone.after event).Sound := by
    refine ⟨wait, (Aside.after live timely (fun same late here there undelivered => ?_) ?_).live wait live⟩
    · cases named.symm.trans here
      cases found.symm.trans there
      exact other.resolve_left (Bool.eq_false_iff.mp undelivered)
    · rw [named]
      exact nofun
  cases event with
  | attach channel activity => exact ⟨wait, live.activity channel (some activity)⟩
  | detach channel => exact live.detach channel
  | call channel methodCall env => exact live.onMethodCall channel methodCall
  | succeeded number cipher env =>
    rcases found : phone.prompts[number]? with _ | prompt
    · rw [Phone.after_succeeded, found]
      exact ⟨wait, live⟩
    by_cases own : prompt.delivered = false ∧ (phone.channels prompt.channel).pendingResult = some prompt.call
    · obtain ⟨here, rfl, rfl, same⟩ := live.own found own.1 own.2
      rw [same] at found
      rw [Phone.after_succeeded, found]
      exact live.onAuthenticationSucceeded found cipher
    · exact late_or rfl found (Classical.or_iff_not_imp_left.mpr fun undelivered waits =>
        own ⟨Bool.not_eq_true _ ▸ undelivered, waits⟩)
  | failed number cancelled =>
    rcases found : phone.prompts[number]? with _ | prompt
    · rw [Phone.after_failed, found]
      exact ⟨wait, live⟩
    by_cases own : prompt.delivered = false ∧ (phone.channels prompt.channel).pendingResult = some prompt.call
    · obtain ⟨here, rfl, rfl, same⟩ := live.own found own.1 own.2
      rw [same] at found
      rw [Phone.after_failed, found]
      exact live.onAuthenticationError found cancelled
    · exact late_or rfl found (Classical.or_iff_not_imp_left.mpr fun undelivered waits =>
        own ⟨Bool.not_eq_true _ ▸ undelivered, waits⟩)

namespace Phone

def run (phone : Phone) (events : List ChannelEvent) : Phone := events.foldl after phone

/-- Every event of a run comes in time. -/
def TimelyRun (phone : Phone) : List ChannelEvent → Prop
  | [] => True
  | event :: events => phone.Timely event ∧ (phone.after event).TimelyRun events

end Phone

/-- What a vault operation may count on in a state a run has reached. -/
structure Phone.Orderly (storage : Option Bytes) (phone : Phone) : Prop where
  /-- A call is answered once, or its channel still waits for a prompt that has yet to call back. -/
  answered : ∀ call < phone.calls, phone.log.countP (Entry.answers call) = 1 ∨
    phone.log.countP (Entry.answers call) = 0 ∧ ∃ (channel number : Nat) (continuation : Continuation),
      (phone.channels channel).pendingResult = some call ∧
        phone.prompts[number]? = some ⟨channel, call, continuation, false⟩
  unanswered : ∀ channel call, (phone.channels channel).pendingResult = some call →
    call < phone.calls ∧ phone.log.countP (Entry.answers call) = 0
  busy : phone.operationInProgress = true ↔ ∃ channel, (phone.channels channel).pendingResult ≠ none
  alone : ∀ channel other, (phone.channels channel).pendingResult ≠ none →
    (phone.channels other).pendingResult ≠ none → channel = other
  /-- The file is what the changes in the log have made of it, each from what its own request has read. -/
  told : Story storage phone.log phone.storage
  own : ∀ change, Entry.changed change ∈ phone.log → change.Own
  /-- What is answered with an error has changed nothing. -/
  failed : ∀ change failure, Entry.changed change ∈ phone.log → Entry.answered change.call (.error failure) ∉ phone.log
  zeroed : ∀ (plaintext call : Nat) octets, phone.plaintexts[plaintext]? = some (call, octets) →
    phone.log.countP (Entry.answers call) = 1 → Wiped octets
  /-- A callback for an answered call answers nothing, changes nothing and wipes nothing that was not wiped. -/
  late : ∀ (event : ChannelEvent) (number : Nat) prompt, phone.Timely event → event.prompt = some number →
    phone.prompts[number]? = some prompt → phone.log.countP (Entry.answers prompt.call) = 1 →
      (phone.after event).log = phone.log ∧ (phone.after event).storage = phone.storage ∧
      (∀ channel, ((phone.after event).channels channel).pendingResult = (phone.channels channel).pendingResult) ∧
      ∀ (plaintext : Nat) held, phone.plaintexts[plaintext]? = some held →
        (phone.after event).plaintexts[plaintext]? = some held

theorem Phone.Live.orderly {phone : Phone} {wait : Option Wait} (live : phone.Live wait) {storage : Option Bytes}
    (told : Story storage phone.log phone.storage) : phone.Orderly storage where
  answered := by
    intro call young
    have counted := live.books.answers call
    cases wait with
    | none =>
      left
      rw [counted, if_pos ⟨young, nofun⟩]
    | some here =>
      by_cases mine : here.call = call
      · subst mine
        obtain ⟨continuation, raised, _⟩ := Waiting.raised live
        right
        rw [counted, if_neg fun both => both.2 rfl]
        exact ⟨rfl, _, _, continuation, Books.waits (n := here.now) live.books, raised⟩
      · left
        rw [counted, if_pos ⟨young, fun same => mine (Option.some.inj same)⟩]
  unanswered := by
    intro channel call waits
    obtain ⟨now, same, _, rfl⟩ := (live.books.pending channel call).mp waits
    refine ⟨live.books.young now same, ?_⟩
    rw [live.books.answers, same, if_neg fun both => both.2 rfl]
  busy := by
    rw [live.books.flag]
    constructor
    · intro busy
      obtain ⟨now, same⟩ := Option.isSome_iff_exists.mp busy
      have waits := (live.books.pending now.channel now.call).mpr ⟨now, same, rfl, rfl⟩
      refine ⟨now.channel, ?_⟩
      rw [waits]
      exact nofun
    · intro ⟨channel, waits⟩
      obtain ⟨call, waits⟩ := Option.ne_none_iff_exists'.mp waits
      obtain ⟨now, same, _⟩ := (live.books.pending channel call).mp waits
      rw [same]
      rfl
  alone := by
    intro channel other waits also
    obtain ⟨call, waits⟩ := Option.ne_none_iff_exists'.mp waits
    obtain ⟨later, also⟩ := Option.ne_none_iff_exists'.mp also
    obtain ⟨now, same, here, _⟩ := (live.books.pending channel call).mp waits
    obtain ⟨again, known, there, _⟩ := (live.books.pending other later).mp also
    cases same.symm.trans known
    exact here.symm.trans there
  told := told
  own change member := (live.books.changes change member).1
  failed := by
    intro change failure member refused
    obtain ⟨_, answer, answered⟩ := live.books.changes change member
    have some_answer : 0 < phone.log.countP (Entry.answers change.call) :=
      List.countP_pos_iff.mpr ⟨_, answered, decide_eq_true rfl⟩
    have one : phone.log.countP (Entry.answers change.call) = 1 := by
      have counted := live.books.answers change.call
      split at counted <;> omega
    exact absurd (answers_of_mem one answered refused) nofun
  zeroed := by
    intro plaintext call octets found one
    refine (live.books.wiped plaintext _ found).resolve_right fun lies => ?_
    obtain ⟨here, held, rfl, serialised⟩ := live.lying lies
    cases found.symm.trans serialised
    have waits := live.books.answers here.call
    rw [one, if_neg fun both => both.2 rfl] at waits
    cases waits
  late := by
    intro event number prompt timely named found one
    have aside : Aside phone (phone.after event) := by
      refine Aside.after live timely (fun same late here there _ waits => ?_) ?_
      · cases named.symm.trans here
        cases found.symm.trans there
        obtain ⟨now, same, _, mine⟩ := (live.books.pending _ _).mp waits
        have counted := live.books.answers prompt.call
        rw [one, same, ← mine, if_neg fun both => both.2 rfl] at counted
        cases counted
      · rw [named]
        exact nofun
    exact ⟨aside.log, aside.storage, aside.pending, aside.plaintexts⟩

theorem Phone.Sound.run {phone : Phone} (sound : phone.Sound) {events : List ChannelEvent}
    (timely : phone.TimelyRun events) : (phone.run events).Sound := by
  induction events generalizing phone with
  | nil => exact sound
  | cons event events ih =>
    obtain ⟨wait, live⟩ := sound
    exact ih (live.after timely.1) timely.2

theorem told_run (phone : Phone) (events : List ChannelEvent) : Told phone (phone.run events) := by
  induction events generalizing phone with
  | nil => exact Told.refl phone
  | cons event events ih => exact (told_after phone event).trans (ih _)

theorem Books.fresh (storage : Option Bytes) : Books (Phone.fresh storage) none none where
  pending channel call := iff_of_false nofun fun ⟨_, never, _⟩ => nomatch never
  flag := rfl
  young _ never := nomatch never
  answers call := by
    rw [if_neg fun both => Nat.not_lt_zero _ both.1]
    rfl
  wiped _ _ never := nomatch never
  cleanups _ _ never := nomatch never
  placed _ _ never := nomatch never
  known _ never := nomatch never
  alone _ _ never := nomatch never
  changes _ never := nomatch never

/-- From a fresh process on, whatever is called, attached, detached and called back, in whatever order, as long as every
callback comes in time. -/
theorem vault_operations_orderly (storage : Option Bytes) (events : List ChannelEvent)
    (timely : (Phone.fresh storage).TimelyRun events) : ((Phone.fresh storage).run events).Orderly storage := by
  obtain ⟨wait, live⟩ := (Books.fresh storage).sound.run timely
  obtain ⟨news, log, story⟩ := told_run (Phone.fresh storage) events
  refine live.orderly ?_
  rw [log]
  exact story

end Runs

section Plain

/-- A phone on which everything works. -/
def plainSurroundings : Surroundings where
  cryptoReady := .ok ()
  encryptCipher := .ok ()
  decryptCipher := .ok ()
  readable := .ok ()
  opened := .ok ()
  sealed := .ok ()
  writable := .ok ()
  stateSaved := false
  raised := .ok ()
  nowMs := 10
  randomUUID := plainUUID
  toIntOrNull _ := none

def firstItem : VaultItem := (plainInput none "one").item (plainUUID 0) 1 10

def firstDocument : Bytes := utf8
  ("\x7b\"version\":1,\"items\":[\x7b\"id\":\"0c6f1c35-6a25-4d11-8a38-0d7b4f1d6a11\",\"revision\":1,\"kind\":0," ++
    "\"name\":\"Mail\",\"username\":\"\",\"uri\":\"mail.example\",\"secret\":\"one\",\"updatedAtMs\":10\x7d]\x7d")

/-- A library that knows the document of a vault with its first item. -/
abbrev firstOrgJson : OrgJson where
  write
    | [("version", .number 1), ("items", .array [.object [("id", .string "0c6f1c35-6a25-4d11-8a38-0d7b4f1d6a11"),
        ("revision", .number 1), ("kind", .number 0), ("name", .string "Mail"), ("username", .string ""),
        ("uri", .string "mail.example"), ("secret", .string "one"), ("updatedAtMs", .number 10)]])] => firstDocument
    | _ => []
  read bytes := if bytes = firstDocument then some (VaultStoreCodec.document [firstItem]) else none

def createCall : MethodCall := ⟨"create", .map [(.string "item", plainFields .null "one")]⟩

def listCall : MethodCall := ⟨"listAll", .map []⟩

/-- An item is created, and the unlock prompt of a listing succeeds when its activity is gone. -/
def plainEvents : List ChannelEvent :=
  [.attach 0 .fragmentActivity, .call 0 createCall plainSurroundings, .call 1 listCall plainSurroundings,
    .succeeded 0 true plainSurroundings, .call 0 listCall plainSurroundings, .detach 0, .succeeded 1 true plainSurroundings]

theorem plainEvents_timely :
    letI := firstOrgJson
    (Phone.fresh none).TimelyRun plainEvents := by
  let := firstOrgJson
  refine ⟨trivial, trivial, trivial, ?_, trivial, trivial, ?_, trivial⟩
  · intro prompt found _
    cases found
    exact Or.inl rfl
  · intro prompt found _
    cases found
    exact Or.inr ⟨rfl, fun _ _ items _ => ⟨fun _ => nofun, fun _ _ => nofun⟩⟩

theorem vault_operations_orderly_plain :
    letI := firstOrgJson
    ((Phone.fresh none).run plainEvents).Orderly none ∧
      ((Phone.fresh none).run plainEvents).storage = some firstDocument := by
  let := firstOrgJson
  exact ⟨vault_operations_orderly none plainEvents plainEvents_timely, by decide +kernel⟩

/-- The activity goes while an item is being created, and then the prompt succeeds. -/
def lateEvents : List ChannelEvent :=
  [.attach 0 .fragmentActivity, .call 0 createCall plainSurroundings, .detach 0, .succeeded 0 true plainSurroundings]

/-- A request that is answered with an error writes its wiped plaintext over the vault. -/
theorem late_success_writes_zeros :
    letI := firstOrgJson
    ((Phone.fresh none).run lateEvents).storage = some (List.replicate firstDocument.length 0) ∧
      (∃ failure, Entry.answered 0 (.error failure) ∈ ((Phone.fresh none).run lateEvents).log) ∧
      ¬((Phone.fresh none).run lateEvents).Orderly none := by
  let := firstOrgJson
  have refused : Entry.answered 0 (.error ⟨"activity_unavailable", "Biometric activity detached", none⟩) ∈
      ((Phone.fresh none).run lateEvents).log := List.mem_cons_self
  have changed : ∃ change, Entry.changed change ∈ ((Phone.fresh none).run lateEvents).log ∧ change.call = 0 :=
    ⟨_, List.mem_cons_of_mem _ List.mem_cons_self, rfl⟩
  refine ⟨by decide +kernel, ⟨_, refused⟩, fun orderly => ?_⟩
  obtain ⟨change, member, same⟩ := changed
  exact orderly.failed change _ member (same ▸ refused)

end Plain

end BioAuth.Native
