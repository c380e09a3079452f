import BioAuth.Native.VaultStoreChannelRuns

namespace BioAuth.Native
open BioAuth VaultStoreData

section Idle
variable {phone : Phone} {channel : Nat}

theorem replicate_of_wiped {octets : Bytes} (wiped : Wiped octets) : List.replicate octets.length 0 = octets :=
  (List.eq_replicate_iff.mpr ⟨rfl, wiped⟩).symm

theorem Phone.fail_idle (failure : VaultStoreFailure) (idle : (phone.channels channel).pendingResult = none) :
    phone.fail channel failure = phone := by
  unfold Phone.fail
  rw [idle]

theorem Phone.succeed_idle (answer : ChannelValue) (idle : (phone.channels channel).pendingResult = none) :
    phone.succeed channel answer = phone := by
  unfold Phone.succeed
  rw [idle]

/-- To wipe what is wiped does nothing. -/
theorem Phone.wipe_of_wiped {plaintext : Nat}
    (wiped : ∀ held, phone.plaintexts[plaintext]? = some held → Wiped held.2) : phone.wipe plaintext = phone := by
  have same : phone.plaintexts.modify plaintext (fun held => (held.1, List.replicate held.2.length 0)) =
      phone.plaintexts := by
    refine List.ext_getElem? fun place => ?_
    rw [List.getElem?_modify]
    split
    · rename_i here
      subst here
      rcases found : phone.plaintexts[plaintext]? with _ | held
      · rfl
      · exact congrArg (fun octets => some (held.1, octets)) (replicate_of_wiped (wiped held found))
    · simp
  unfold Phone.wipe
  rw [same]

end Idle

section Runs
variable [OrgJson]

section Live
variable {phone : Phone} {wait : Option Wait}

def Wait.now (wait : Wait) : Now := ⟨wait.channel, wait.call, some wait.number⟩

theorem Phone.Live.books (live : phone.Live wait) : Books phone (wait.map Wait.now) (wait.bind Wait.lying) := by
  cases wait with
  | none => exact live
  | some wait => exact Waiting.books live

/-- The plaintext that lies open is the one the call under way has serialised. -/
theorem Phone.Live.lying (live : phone.Live wait) {plaintext : Nat} (lies : wait.bind Wait.lying = some plaintext) :
    ∃ here octets, wait = some here ∧ phone.plaintexts[plaintext]? = some (here.call, octets) := by
  cases wait with
  | none => cases lies
  | some here =>
    obtain ⟨continuation, _, current⟩ := Waiting.raised live
    change here.lying = some plaintext at lies
    rw [lies] at current
    cases continuation with
    | unlock request blob => cases current.1
    | write other request blob read updated answer =>
      obtain ⟨same, _, found, _⟩ := current
      cases same
      exact ⟨here, _, rfl, found⟩

/-- A channel that waits for nothing has no cleanup that would wipe anything, then or later. -/
theorem Phone.Live.invoke_idle (live : phone.Live wait) {channel : Nat}
    (idle : (phone.channels channel).pendingResult = none) {after : Phone}
    (kept : ∀ (plaintext : Nat) held, phone.plaintexts[plaintext]? = some held → after.plaintexts[plaintext]? = some held) :
    after.invoke (phone.channels channel).pendingCleanup = after := by
  rcases named : (phone.channels channel).pendingCleanup with _ | plaintext
  · rfl
  · have early := live.books.placed channel plaintext named
    have found := List.getElem?_eq_getElem early
    have wiped : Wiped (phone.plaintexts[plaintext]).2 := by
      refine (live.books.wiped plaintext _ found).resolve_right fun lies => ?_
      obtain ⟨now, same, here⟩ := live.books.cleanups channel plaintext named lies
      have waits := (live.books.pending channel now.call).mpr ⟨now, same, here, rfl⟩
      rw [idle] at waits
      cases waits
    refine Phone.wipe_of_wiped fun held later => ?_
    cases (kept plaintext _ found).symm.trans later
    exact wiped

/-- What a prompt of the call under way is about does not hang on what other channels do. -/
theorem Phone.Live.frame (live : phone.Live wait) {after : Phone}
    (books : Books after (wait.map Wait.now) (wait.bind Wait.lying))
    (prompts : ∀ here, wait = some here → after.prompts[here.number]? = phone.prompts[here.number]?)
    (storage : after.storage = phone.storage)
    (cleanups : ∀ here, wait = some here →
      (after.channels here.channel).pendingCleanup = (phone.channels here.channel).pendingCleanup)
    (plaintexts : ∀ (plaintext : Nat) held, phone.plaintexts[plaintext]? = some held →
      wait.bind Wait.lying = some plaintext → after.plaintexts[plaintext]? = some held) : after.Live wait := by
  cases wait with
  | none => exact books
  | some here =>
    obtain ⟨continuation, raised, current⟩ := Waiting.raised live
    refine ⟨books, continuation, (prompts here rfl).trans raised, ?_⟩
    cases continuation with
    | unlock request blob => exact ⟨current.1, (cleanups here rfl).trans current.2.1, current.2.2.trans storage.symm⟩
    | write plaintext request blob read updated answer =>
      obtain ⟨lies, cleanup, found, same, reads, asked⟩ := current
      exact ⟨lies, (cleanups here rfl).trans cleanup, plaintexts _ _ found lies, same.trans storage.symm, reads, asked⟩

end Live

/-- Nothing happens to a call under way, to an answered one, to the file or to a plaintext that is not wiped. -/
structure Aside (phone after : Phone) : Prop where
  log : after.log = phone.log
  storage : after.storage = phone.storage
  pending : ∀ channel, (after.channels channel).pendingResult = (phone.channels channel).pendingResult
  plaintexts : ∀ (plaintext : Nat) held, phone.plaintexts[plaintext]? = some held → after.plaintexts[plaintext]? = some held
  live : ∀ wait, phone.Live wait → after.Live wait

namespace Aside
variable {phone after last : Phone} {channel : Nat}

theorem refl (phone : Phone) : Aside phone phone := ⟨rfl, rfl, fun _ => rfl, fun _ _ found => found, fun _ live => live⟩

theorem trans (first : Aside phone after) (second : Aside after last) : Aside phone last where
  log := second.log.trans first.log
  storage := second.storage.trans first.storage
  pending channel := (second.pending channel).trans (first.pending channel)
  plaintexts plaintext held found := second.plaintexts plaintext held (first.plaintexts plaintext held found)
  live wait live := second.live wait (first.live wait live)

/-- The call under way waits on its own channel. -/
theorem apart {wait : Wait} (live : phone.Live (some wait)) (idle : (phone.channels channel).pendingResult = none) :
    wait.channel ≠ channel := by
  rintro rfl
  have waits := Books.waits (n := wait.now) live.books
  change (phone.channels wait.channel).pendingResult = _ at waits
  rw [idle] at waits
  cases waits

/-- A prompt of a channel that waits for nothing delivers its callback. -/
theorem deliver {number : Nat} {prompt : Prompt} (found : phone.prompts[number]? = some prompt)
    (idle : (phone.channels prompt.channel).pendingResult = none) : Aside phone (phone.deliver number prompt) where
  log := rfl
  storage := rfl
  pending _ := rfl
  plaintexts _ _ found := found
  live wait live := by
    refine live.frame (live.books.deliver found) ?_ rfl (fun _ _ => rfl) fun _ _ found _ => found
    intro here same
    subst same
    obtain ⟨continuation, raised, _⟩ := Waiting.raised live
    refine List.getElem?_set_ne fun equal => ?_
    rw [equal] at found
    cases found.symm.trans raised
    exact apart live idle rfl

/-- A channel that waits for nothing changes, and its cleanup goes. -/
theorem setChannel (state : VaultStoreChannel) (idle : (phone.channels channel).pendingResult = none)
    (still : state.pendingResult = none) (clean : state.pendingCleanup = none ∨
      state.pendingCleanup = (phone.channels channel).pendingCleanup) : Aside phone (phone.setChannel channel state) where
  log := rfl
  storage := rfl
  pending other := by
    rw [Phone.channels_setChannel]
    split
    · rename_i here
      rw [here, idle, still]
    · rfl
  plaintexts _ _ found := found
  live wait live := by
    have books : Books (phone.setChannel channel state) _ _ := live.books.setChannel channel (still.trans idle.symm)
      (fun plaintext named lies => by
        rcases clean with never | same
        · rw [never] at named
          cases named
        · exact live.books.cleanups channel plaintext (same ▸ named) lies)
      (fun plaintext named => by
        rcases clean with never | same
        · rw [never] at named
          cases named
        · exact live.books.placed channel plaintext (same ▸ named))
    refine live.frame books (fun _ _ => rfl) rfl ?_ fun _ _ found _ => found
    intro here same
    subst same
    rw [Phone.channels_setChannel, if_neg (apart live idle)]

/-- A plaintext that is wiped at once is serialised, and perhaps a cleanup is left for it. -/
theorem abandon (call count : Nat) (cleanup : Option Nat) (idle : (phone.channels channel).pendingResult = none)
    (clean : cleanup = (phone.channels channel).pendingCleanup ∨ cleanup = some phone.plaintexts.length) :
    Aside phone (Phone.leave channel cleanup
      { phone with plaintexts := phone.plaintexts ++ [(call, List.replicate count 0)] }) where
  log := rfl
  storage := rfl
  pending other := by
    rw [Phone.leave, Phone.channels_setChannel]
    split
    · rename_i here
      rw [here]
    · rfl
  plaintexts plaintext held found := by
    change (phone.plaintexts ++ _)[plaintext]? = _
    rw [List.getElem?_append_left (List.getElem?_eq_some_iff.mp found).1, found]
  live wait live := by
    have early : ∀ plaintext, wait.bind Wait.lying = some plaintext → plaintext < phone.plaintexts.length := by
      intro plaintext lies
      obtain ⟨_, _, _, found⟩ := live.lying lies
      exact (List.getElem?_eq_some_iff.mp found).1
    have written : Books { phone with plaintexts := phone.plaintexts ++ [(call, List.replicate count 0)] }
        (wait.map Wait.now) (wait.bind Wait.lying) :=
      { live.books with
        wiped := by
          intro plaintext held found
          rw [List.getElem?_append] at found
          split at found
          · exact live.books.wiped plaintext held found
          · rw [List.getElem?_singleton] at found
            split at found
            · cases found
              exact Or.inl (wiped_replicate count)
            · cases found
        placed := by
          intro other plaintext named
          rw [List.length_append]
          exact Nat.lt_add_right _ (live.books.placed other plaintext named) }
    have books : Books (Phone.leave channel cleanup _) _ _ := written.setChannel channel rfl
      (fun plaintext named lies => by
        rcases clean with same | last
        · exact live.books.cleanups channel plaintext (same ▸ named) lies
        · cases last.symm.trans named
          exact absurd (early _ lies) (Nat.lt_irrefl _))
      (fun plaintext named => by
        change plaintext < (phone.plaintexts ++ _).length
        rw [List.length_append, List.length_singleton]
        rcases clean with same | last
        · exact Nat.lt_succ_of_lt (live.books.placed channel plaintext (same ▸ named))
        · cases last.symm.trans named
          exact Nat.lt_succ_self _)
    refine live.frame books (fun _ _ => rfl) rfl ?_ ?_
    · intro here same
      subst same
      rw [Phone.leave, Phone.channels_setChannel, if_neg (apart live idle)]
    · intro plaintext held found _
      change (phone.plaintexts ++ _)[plaintext]? = _
      rw [List.getElem?_append_left (List.getElem?_eq_some_iff.mp found).1, found]

end Aside

section Events
variable {env : Surroundings} {phone : Phone} {channel call : Nat} {wait : Option Wait}

omit [OrgJson] in
theorem Phone.channels_setChannel_self (state : VaultStoreChannel) :
    (phone.setChannel channel state).channels channel = state := by
  rw [Phone.channels_setChannel, if_pos rfl]

/-- To dismiss a channel that waits for nothing forgets its cleanup. -/
theorem Aside.dismiss (failure : VaultStoreFailure) (live : phone.Live wait)
    (idle : (phone.channels channel).pendingResult = none) :
    Aside phone ((phone.cleanPending channel).fail channel failure) := by
  have cleaned : phone.cleanPending channel =
      phone.setChannel channel { phone.channels channel with pendingCleanup := none } := by
    unfold Phone.cleanPending
    rw [live.invoke_idle idle fun _ _ found => found]
  have still : ((phone.cleanPending channel).channels channel).pendingResult = none := by
    rw [cleaned, Phone.channels_setChannel_self]
    exact idle
  rw [Phone.fail_idle failure still, cleaned]
  exact Aside.setChannel _ idle idle (Or.inl rfl)

/-- To dismiss the channel of the call under way fails the call. -/
theorem Phone.Live.dismiss {here : Wait} (live : phone.Live (some here)) (failure : VaultStoreFailure) :
    ((phone.cleanPending here.channel).fail here.channel failure).Sound := by
  obtain ⟨continuation, _, current⟩ := Waiting.raised live
  refine (Books.dismiss (n := here.now) live.books ?_ failure).sound
  cases continuation with
  | unlock request blob => exact current.2.1.trans current.1.symm
  | write plaintext request blob read updated answer => exact current.2.1.trans current.1.symm

/-- A channel either waits for nothing or is the one of the call under way. -/
theorem Phone.Live.idle_or (live : phone.Live wait) (channel : Nat) :
    (phone.channels channel).pendingResult = none ∨ ∃ here, wait = some here ∧ here.channel = channel := by
  rcases waits : (phone.channels channel).pendingResult with _ | call
  · exact Or.inl rfl
  · obtain ⟨now, same, at_channel, _⟩ := (live.books.pending channel call).mp waits
    obtain ⟨here, known, rfl⟩ := Option.map_eq_some_iff.mp same
    exact Or.inr ⟨here, known, at_channel⟩

theorem Phone.Live.activity (live : phone.Live wait) (channel : Nat) (activity : Option Activity) :
    (phone.setChannel channel { phone.channels channel with activity := activity }).Live wait := by
  have books : Books (phone.setChannel channel { phone.channels channel with activity := activity }) _ _ :=
    live.books.setChannel channel rfl (live.books.cleanups channel) (live.books.placed channel)
  refine live.frame books (fun _ _ => rfl) rfl ?_ fun _ _ found _ => found
  intro here _
  rw [Phone.channels_setChannel]
  split
  · rename_i same
    rw [same]
  · rfl

theorem Phone.Live.detach (live : phone.Live wait) (channel : Nat) : (phone.detach channel).Sound := by
  unfold Phone.detach
  have left := live.activity channel none
  rcases left.idle_or channel with idle | ⟨here, rfl, rfl⟩
  · exact ⟨wait, (Aside.dismiss _ left idle).live wait left⟩
  · exact left.dismiss _

/-- A step that fails before its call is answered lets it fail. -/
theorem Phone.orFail_sound {storage : Option Bytes} {step : Fallible Phone VaultStoreFailure Unit}
    (ends : step.Ends (fun _ after => after.Sound) (fun _ after => Held channel call storage after) phone) :
    (phone.orFail channel step).Sound := by
  unfold Phone.orFail
  split
  · rename_i after run
    exact ends.good_of_run run
  · rename_i failure after run
    have held := ends.bad_of_run run
    exact (held.books.fail failure).1.sound

theorem Phone.Live.onMethodCall (live : phone.Live wait) (channel : Nat) (methodCall : MethodCall) :
    (phone.onMethodCall env channel methodCall).Sound := by
  have refuse (failure : VaultStoreFailure) :
      (Phone.respond phone.calls (.error failure) { phone with calls := phone.calls + 1 }).Sound :=
    ⟨wait, live.frame (live.books.refuse failure) (fun _ _ => rfl) rfl (fun _ _ => rfl) fun _ _ found _ => found⟩
  unfold Phone.onMethodCall
  dsimp only
  split
  · exact refuse _
  · split
    · exact refuse _
    · rename_i request _
      split
      · exact refuse _
      · rename_i free
        have flag := live.books.flag
        cases wait with
        | some here => exact absurd flag free
        | none =>
          have held : Held channel phone.calls phone.storage
              { ({ phone with calls := phone.calls + 1 } : Phone).setChannel channel
                  { phone.channels channel with pendingResult := some phone.calls } with operationInProgress := true } :=
            ⟨Books.claim live channel, rfl⟩
          exact Phone.orFail_sound (load_ends held request)

/-- The one callback of a live prompt ends the call's wait, and what the prompt was about still holds. -/
theorem Phone.Live.delivered {here : Wait} (live : phone.Live (some here)) {continuation : Continuation}
    (found : phone.prompts[here.number]? = some ⟨here.channel, here.call, continuation, false⟩) :
    Books (phone.deliver here.number ⟨here.channel, here.call, continuation, false⟩)
        (some ⟨here.channel, here.call, none⟩) here.lying ∧
      continuation.Current phone here.channel here.call here.lying := by
  obtain ⟨other, raised, current⟩ := Waiting.raised live
  cases found.symm.trans raised
  exact ⟨Books.delivered (n := here.now) live.books found rfl, current⟩

theorem unlocked_ends {request : Request} {blob : Option Bytes} (held : Held channel call blob phone) :
    (operation env ⟨channel, call, .unlock request blob, false⟩).Ends (fun _ after => after.Sound)
      (fun _ after => Held channel call blob after) phone := by
  unfold operation
  cases blob with
  | none => exact process_ends held rfl
  | some octets =>
    refine Fallible.Ends.bind (fun _ after => after = phone)
      (Fallible.ends_liftM.mpr ⟨fun _ _ => rfl, fun _ _ => held⟩) fun _ after same => ?_
    subst same
    refine Fallible.Ends.bind (fun items now => now = after ∧ VaultStoreCodec.decode octets = .ok items)
      (Fallible.ends_liftM.mpr ⟨fun _ decoded => ⟨rfl, decoded⟩, fun _ _ => held⟩) fun items now both => ?_
    obtain ⟨same, decoded⟩ := both
    subst same
    exact process_ends held decoded

theorem written_ends {lying : Option Nat} {plaintext : Nat} {request : Request} {blob : Option Bytes}
    {read updated : List VaultItem} {answer : ChannelValue} (taken : Books phone (some ⟨channel, call, none⟩) lying)
    (clean : (phone.channels channel).pendingCleanup = none)
    (found : phone.plaintexts[plaintext]? = some (call, VaultStoreCodec.encode updated)) (same : blob = phone.storage)
    (reads : Reads blob read) (asked : ∃ env answer, work env read request = .ok (.persist updated answer)) :
    (operation env ⟨channel, call, .write plaintext request blob read updated answer, false⟩).Ends
      (fun _ after => Books after none lying) (fun _ after => after = phone) phone := by
  unfold operation
  refine Fallible.Ends.bind_of_run (Fallible.get_run phone) ?_
  refine Fallible.Ends.bind (fun _ after => after = phone)
    (Fallible.ends_liftM.mpr ⟨fun _ _ => rfl, fun _ _ => rfl⟩) fun _ after here => ?_
  subst here
  refine Fallible.Ends.bind (fun _ now => now = after)
    (Fallible.ends_liftM.mpr ⟨fun _ _ => rfl, fun _ _ => rfl⟩) fun _ now here => ?_
  subst here
  refine Fallible.Ends.bind_of_run (Fallible.modify_run _ _) ?_
  obtain ⟨other, reply, asked⟩ := asked
  have octets : now.plaintexts[plaintext]?.map Prod.snd = some (VaultStoreCodec.encode updated) := by
    rw [found, Option.map_some]
  exact Books.change_succeed (n := ⟨channel, call, none⟩) taken answer (Or.inr clean)
    ⟨rfl, same.symm, Or.inr ⟨reads, other, reply, Or.inl ⟨asked, octets⟩⟩⟩

theorem Phone.Live.onAuthenticationSucceeded {here : Wait} (live : phone.Live (some here)) {continuation : Continuation}
    (found : phone.prompts[here.number]? = some ⟨here.channel, here.call, continuation, false⟩) (cipher : Bool) :
    ((phone.deliver here.number ⟨here.channel, here.call, continuation, false⟩).onAuthenticationSucceeded env
      ⟨here.channel, here.call, continuation, false⟩ cipher).Sound := by
  obtain ⟨channel, call, number, lying⟩ := here
  obtain ⟨books, current⟩ := live.delivered found
  dsimp only at books current found ⊢
  generalize delivered : phone.deliver number ⟨channel, call, continuation, false⟩ = after at books ⊢
  have storage : after.storage = phone.storage := by rw [← delivered]; rfl
  have plaintexts : after.plaintexts = phone.plaintexts := by rw [← delivered]; rfl
  have cleanup : (after.channels channel).pendingCleanup = lying := by
    rw [← delivered]
    cases continuation with
    | unlock request blob => exact current.2.1.trans current.1.symm
    | write plaintext request blob read updated answer => exact current.2.1.trans current.1.symm
  have taken : Books (after.setChannel channel { after.channels channel with prompt := none, pendingCleanup := none })
      (some ⟨channel, call, none⟩) lying := books.setChannel channel rfl (fun _ never => nomatch never) fun _ never => nomatch never
  have clean : ((after.setChannel channel { after.channels channel with prompt := none, pendingCleanup := none }).channels
      channel).pendingCleanup = none := by rw [Phone.channels_setChannel_self]
  unfold Phone.onAuthenticationSucceeded
  dsimp only
  rw [cleanup]
  split
  · cases continuation with
    | unlock request blob =>
      obtain ⟨closed, _, same⟩ := current
      subst closed
      exact Phone.orFail_sound (unlocked_ends ⟨taken, storage.trans same.symm⟩)
    | write plaintext request blob read updated answer =>
      obtain ⟨_, _, serialised, same, reads, asked⟩ := current
      have ended : (operation env ⟨channel, call, .write plaintext request blob read updated answer, false⟩).Ends _ _ _ :=
        written_ends taken clean (plaintexts ▸ serialised) (same.trans storage.symm) reads asked
      refine Books.sound (Books.invoke_lying ?_)
      unfold Phone.orFail
      split
      · rename_i last run
        exact ended.good_of_run run
      · rename_i failure last run
        rw [ended.bad_of_run run]
        exact (taken.fail failure).1
  · exact (taken.invoke_lying.fail _).1.sound

theorem Phone.Live.onAuthenticationError {here : Wait} (live : phone.Live (some here)) {continuation : Continuation}
    (found : phone.prompts[here.number]? = some ⟨here.channel, here.call, continuation, false⟩) (cancelled : Bool) :
    ((phone.deliver here.number ⟨here.channel, here.call, continuation, false⟩).onAuthenticationError
      ⟨here.channel, here.call, continuation, false⟩ cancelled).Sound := by
  obtain ⟨books, current⟩ := live.delivered found
  refine (Books.dismiss (n := ⟨here.channel, here.call, none⟩) books ?_ _).sound
  cases continuation with
  | unlock request blob => exact current.2.1.trans current.1.symm
  | write plaintext request blob read updated answer => exact current.2.1.trans current.1.symm

/-- A prompt that has not called back and whose request waits is the one the request waits for. -/
theorem Phone.Live.own (live : phone.Live wait) {number : Nat} {prompt : Prompt}
    (found : phone.prompts[number]? = some prompt) (open_yet : prompt.delivered = false)
    (waits : (phone.channels prompt.channel).pendingResult = some prompt.call) :
    ∃ here, wait = some here ∧ here.number = number ∧ prompt = ⟨here.channel, here.call, prompt.continuation, false⟩ := by
  obtain ⟨now, same, at_channel, at_call⟩ := (live.books.pending prompt.channel prompt.call).mp waits
  have mine := live.books.alone number prompt found open_yet now same at_call.symm
  obtain ⟨here, known, rfl⟩ := Option.map_eq_some_iff.mp same
  refine ⟨here, known, Option.some.inj mine, ?_⟩
  obtain ⟨channel, call, continuation, delivered⟩ := prompt
  cases at_channel
  cases at_call
  cases open_yet
  rfl

end Events

/-- The prompt whose callback an event is. -/
def ChannelEvent.prompt : ChannelEvent → Option Nat
  | .succeeded number _ _ | .failed number _ => some number
  | _ => none

/-- Whether a prompt could be raised for a write. -/
def Surroundings.Raises (env : Surroundings) (host : Bool) : Prop :=
  env.cryptoReady = .ok () ∧ env.encryptCipher = .ok () ∧ host = true ∧ env.stateSaved = false ∧ env.raised = .ok ()

/-- What a prompt has left to do changes no file and raises no prompt. -/
def Harmless (env : Surroundings) (host : Bool) : Continuation → Prop
  | .write .. => ¬(env.sealed = .ok () ∧ env.writable = .ok ())
  | .unlock request blob => (blob ≠ none → env.opened = .ok ()) → ∀ items, Reads blob items →
    (∀ answer, work env items request ≠ .ok (.erase answer)) ∧
      ∀ updated answer, work env items request = .ok (.persist updated answer) → ¬env.Raises host

/-- A callback comes while its request waits for it, or where nothing waits and there is nothing left to do. -/
def Phone.Timely (phone : Phone) : ChannelEvent → Prop
  | .succeeded number cipher env => ∀ prompt, phone.prompts[number]? = some prompt → prompt.delivered = false →
    (phone.channels prompt.channel).pendingResult = some prompt.call ∨
      (phone.channels prompt.channel).pendingResult = none ∧
        (cipher = true → Harmless env (phone.host prompt.channel) prompt.continuation)
  | .failed number _ => ∀ prompt, phone.prompts[number]? = some prompt → prompt.delivered = false →
    (phone.channels prompt.channel).pendingResult = some prompt.call ∨
      (phone.channels prompt.channel).pendingResult = none
  | _ => True

section Late
variable {env : Surroundings} {phone : Phone} {channel call : Nat} {wait : Option Wait}

theorem persist_aside (idle : (phone.channels channel).pendingResult = none) (quiet : ¬env.Raises (phone.host channel))
    (request : Request) (blob : Option Bytes) (read updated : List VaultItem) (answer : ChannelValue) :
    (persist env channel call request blob read updated answer).Ends (fun _ after => Aside phone after)
      (fun _ after => Aside phone after) phone := by
  let serialised : Phone := { phone with plaintexts := phone.plaintexts ++ [(call, VaultStoreCodec.encode updated)] }
  let zeros := List.replicate (VaultStoreCodec.encode updated).length (0 : UInt8)
  let wiped : Phone := { phone with plaintexts := phone.plaintexts ++ [(call, zeros)] }
  have last (held : Nat × Bytes) : (phone.plaintexts ++ [held]).modify phone.plaintexts.length
      (fun held => (held.1, List.replicate held.2.length 0)) =
        phone.plaintexts ++ [(held.1, List.replicate held.2.length 0)] := List.modifyTailIdx_add _ 0 _ _
  have unserialised : serialised.wipe phone.plaintexts.length = wiped := by
    rw [Phone.wipe, last]
  have again : wiped.wipe phone.plaintexts.length = wiped := by
    rw [Phone.wipe, last, List.length_replicate]
  have left (cleanup : Option Nat) : (serialised.leave channel cleanup).wipe phone.plaintexts.length =
      wiped.leave channel cleanup := by
    rw [← unserialised]
    rfl
  have as_is : wiped.leave channel (phone.channels channel).pendingCleanup = wiped := by
    unfold Phone.leave Phone.setChannel
    rw [Function.update_eq_self]
  have abandoned (cleanup : Option Nat)
      (clean : cleanup = (phone.channels channel).pendingCleanup ∨ cleanup = some phone.plaintexts.length) :
      Aside phone (wiped.leave channel cleanup) := Aside.abandon call _ cleanup idle clean
  have kept : Aside phone wiped := as_is ▸ abandoned _ (Or.inl rfl)
  unfold persist
  refine Fallible.Ends.bind_of_run (Fallible.get_run phone) (Fallible.Ends.bind_of_run (Fallible.modify_run _ _) ?_)
  refine Fallible.Ends.tryCatch (fun _ after => Aside phone (after.wipe phone.plaintexts.length)) ?_ ?_
  · refine Fallible.Ends.bind (fun _ after => after = serialised ∧ env.cryptoReady = .ok ())
      (Fallible.ends_liftM.mpr ⟨fun _ ready => ⟨rfl, ready⟩, fun _ _ => unserialised ▸ kept⟩) fun _ after both => ?_
    obtain ⟨rfl, ready⟩ := both
    refine Fallible.Ends.bind (fun _ after => after = serialised ∧ env.encryptCipher = .ok ())
      (Fallible.ends_liftM.mpr ⟨fun _ made => ⟨rfl, made⟩, fun _ _ => unserialised ▸ kept⟩) fun _ after both => ?_
    obtain ⟨rfl, made⟩ := both
    unfold authenticate
    refine Fallible.Ends.bind_of_run (Fallible.get_run _) ?_
    split
    · refine Fallible.Ends.bind_of_run (Fallible.modify_run _ _) (Fallible.ends_throw.mpr ?_)
      change Aside phone ((serialised.wipe phone.plaintexts.length).wipe phone.plaintexts.length)
      rw [unserialised, again]
      exact kept
    · rename_i shown
      refine Fallible.Ends.bind_of_run (Fallible.modify_run _ _) ?_
      refine Fallible.Ends.bind (fun _ _ => env.raised = .ok ()) (Fallible.ends_liftM.mpr ⟨fun _ raised => raised,
        fun _ _ => ?_⟩) fun _ _ raised => ?_
      · rw [left]
        exact abandoned _ (Or.inr rfl)
      · have hosted : phone.host channel = true := by
          rw [← Bool.not_eq_false]
          exact fun never => shown (Or.inl never)
        exact absurd ⟨ready, made, hosted, Bool.not_eq_true _ ▸ fun never => shown (Or.inr never), raised⟩ quiet
  · intro failure after gone
    exact Fallible.Ends.bind_of_run (Fallible.modify_run _ _) (Fallible.ends_throw.mpr gone)

theorem process_aside {request : Request} {blob : Option Bytes} {items : List VaultItem}
    (idle : (phone.channels channel).pendingResult = none)
    (keeps : ∀ answer, work env items request ≠ .ok (.erase answer))
    (quiet : ∀ updated answer, work env items request = .ok (.persist updated answer) → ¬env.Raises (phone.host channel)) :
    (process env channel call request blob items).Ends (fun _ after => Aside phone after)
      (fun _ after => Aside phone after) phone := by
  unfold process
  refine Fallible.Ends.bind (fun made after => after = phone ∧ work env items request = .ok made)
    (Fallible.ends_liftM.mpr ⟨fun made asked => ⟨rfl, asked⟩, fun _ _ => Aside.refl phone⟩) fun made after both => ?_
  obtain ⟨same, asked⟩ := both
  subst same
  cases made with
  | succeed answer =>
    change Aside after (after.succeed channel answer)
    rw [Phone.succeed_idle answer idle]
    exact Aside.refl after
  | erase answer => exact absurd asked (keeps answer)
  | persist updated answer => exact persist_aside idle (quiet updated answer asked) request blob items updated answer

/-- A harmless prompt does nothing for a request that is answered. -/
theorem operation_aside {prompt : Prompt} (idle : (phone.channels prompt.channel).pendingResult = none)
    (harmless : Harmless env (phone.host prompt.channel) prompt.continuation) :
    (operation env prompt).Ends (fun _ after => Aside phone after) (fun _ after => Aside phone after) phone := by
  obtain ⟨channel, call, continuation, delivered⟩ := prompt
  have lifted {α : Type} (result : Except VaultStoreFailure α) {step : α → Fallible Phone VaultStoreFailure Unit}
      (ends : ∀ value, result = .ok value →
        (step value).Ends (fun _ after => Aside phone after) (fun _ after => Aside phone after) phone) :
      (liftM result >>= step).Ends (fun _ after => Aside phone after) (fun _ after => Aside phone after) phone :=
    Fallible.Ends.liftM_bind (fun _ _ => Aside.refl phone) ends
  unfold operation
  cases continuation with
  | write plaintext request blob read updated answer =>
    refine Fallible.Ends.bind_of_run (Fallible.get_run phone) (lifted _ fun _ sealed => lifted _ fun _ written => ?_)
    exact absurd ⟨sealed, written⟩ harmless
  | unlock request blob =>
    cases blob with
    | none =>
      obtain ⟨keeps, quiet⟩ := harmless (fun never => absurd rfl never) [] rfl
      exact process_aside idle keeps quiet
    | some octets =>
      refine lifted _ fun _ opened => lifted _ fun items decoded => ?_
      obtain ⟨keeps, quiet⟩ := harmless (fun _ => opened) items decoded
      exact process_aside idle keeps quiet

theorem Aside.onAuthenticationSucceeded {prompt : Prompt} {cipher : Bool} (live : phone.Live wait)
    (idle : (phone.channels prompt.channel).pendingResult = none)
    (harmless : cipher = true → Harmless env (phone.host prompt.channel) prompt.continuation) :
    Aside phone (phone.onAuthenticationSucceeded env prompt cipher) := by
  unfold Phone.onAuthenticationSucceeded
  dsimp only
  generalize same : phone.setChannel prompt.channel
    { phone.channels prompt.channel with prompt := none, pendingCleanup := none } = taken
  have aside : Aside phone taken := by
    rw [← same]
    exact Aside.setChannel _ idle idle (Or.inl rfl)
  have still : (taken.channels prompt.channel).pendingResult = none := (aside.pending _).trans idle
  have hosted : taken.host prompt.channel = phone.host prompt.channel := by
    rw [← same, Phone.host, Phone.channels_setChannel_self, Phone.host]
  split
  · rename_i shown
    have ends : (operation env prompt).Ends _ _ taken := operation_aside still (hosted ▸ harmless shown)
    have ended : Aside taken (taken.orFail prompt.channel (operation env prompt)) := by
      unfold Phone.orFail
      split
      · rename_i last run
        exact ends.good_of_run run
      · rename_i failure last run
        have gone := ends.bad_of_run run
        rw [Phone.fail_idle failure ((gone.pending _).trans still)]
        exact gone
    have done := aside.trans ended
    rw [live.invoke_idle idle done.plaintexts]
    exact done
  · rw [live.invoke_idle idle aside.plaintexts, Phone.fail_idle _ still]
    exact aside

/-- A callback for an answered request disturbs nothing. -/
theorem Aside.after {event : ChannelEvent} (live : phone.Live wait) (timely : phone.Timely event)
    (late : ∀ number prompt, event.prompt = some number → phone.prompts[number]? = some prompt → prompt.delivered = false →
      (phone.channels prompt.channel).pendingResult ≠ some prompt.call) (called : event.prompt ≠ none) :
    Aside phone (phone.after event) := by
  cases event with
  | attach _ _ => exact absurd rfl called
  | detach _ => exact absurd rfl called
  | call _ _ _ => exact absurd rfl called
  | succeeded number cipher env =>
    unfold Phone.after
    dsimp only
    split
    · rename_i prompt found
      split
      · exact Aside.refl phone
      · rename_i undelivered
        have open_yet : prompt.delivered = false := Bool.not_eq_true _ ▸ undelivered
        obtain ⟨idle, harmless⟩ := (timely prompt found open_yet).resolve_left (late number prompt rfl found open_yet)
        have delivered := Aside.deliver found idle
        exact delivered.trans (Aside.onAuthenticationSucceeded (delivered.live wait live) idle harmless)
    · exact Aside.refl phone
  | failed number cancelled =>
    unfold Phone.after
    dsimp only
    split
    · rename_i prompt found
      split
      · exact Aside.refl phone
      · rename_i undelivered
        have open_yet : prompt.delivered = false := Bool.not_eq_true _ ▸ undelivered
        have idle := (timely prompt found open_yet).resolve_left (late number prompt rfl found open_yet)
        have delivered := Aside.deliver found idle
        exact delivered.trans (Aside.dismiss _ (delivered.live wait live) idle)
    · exact Aside.refl phone

end Late

end Runs

end BioAuth.Native
