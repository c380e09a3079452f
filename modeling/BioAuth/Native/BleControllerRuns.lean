import BioAuth.Native.BleConnects

namespace BioAuth.Native
open BioAuth

namespace BlePoint

/-- What is left concerns nothing but what has been taken or read already. -/
def spent : BlePoint → Bool
  | post _ claim => claim.found.isNone
  | close _ => true
  | _ => false

def completes : BlePoint → Bool
  | takeConnect .completeConnect | removeCallbacks _ .completeConnect => true
  | _ => false

/-- `gatt` is still to be set to null. -/
def clears : BlePoint → Bool
  | takeConnect claim => claim.missing.isSome
  | removeCallbacks _ claim | post _ claim => claim.found.isSome
  | closeGatt | readGatt | clearGatt _ => true
  | close _ => false

/-- Whatever connect is pending is still to be taken. -/
def takes : BlePoint → Bool
  | takeConnect _ | closeGatt => true
  | removeCallbacks _ claim | post _ claim => claim.found = some closeGatt
  | _ => false

/-- `failConnect` with no `closeGatt` behind it. -/
def abandons : BlePoint → Bool
  | takeConnect (.failConnect _ closes) => !closes
  | _ => false

end BlePoint

/-- There is neither a connect to take nor a link to close. -/
def BleController.Bare (controller : BleController) : Prop := controller.pendingConnect = none ∧ controller.gatt = none

namespace BleThreads

/-- The main thread is between `armConnect` and the end of `connect`. -/
def starting (threads : BleThreads) : Bool := threads.stage.any fun stage => stage.2.begun

/-- `armConnect` is about to accept a connect. -/
def accepting (threads : BleThreads) : Bool :=
  threads.controller.pendingConnect = none ∧ threads.stage.any fun stage => stage.2 = .armConnect

/-- What comes of a link finds no other: it is the last one, or no connect is under way and none is up. -/
def Current (threads : BleThreads) (link : Nat) : Prop :=
  threads.controller.armed = some link ∨ threads.controller.Bare ∧ threads.starting = false

instance (threads : BleThreads) (link : Nat) : Decidable (threads.Current link) :=
  inferInstanceAs (Decidable (_ ∨ (_ ∧ _) ∧ _))

/-- What is about to take one of its steps. -/
def moves (threads : BleThreads) : BleEvent → Option BleTask
  | .main => threads.main.bind fun main => main.tasks.head?
  | .binder place => threads.callbacks[place]?
  | _ => none

/-- `failConnect` takes a connect with no `closeGatt` behind it only where there is no link. -/
def Careful (threads : BleThreads) (event : BleEvent) : Prop :=
  ∀ task ∈ (threads.moves event).toList, task.point.abandons →
    threads.controller.pendingConnect = none ∨ threads.controller.gatt = none

instance (threads : BleThreads) (event : BleEvent) : Decidable (threads.Careful event) :=
  inferInstanceAs (Decidable (∀ task ∈ (threads.moves event).toList, _))

/-- What the code does not see to: a callback and the deadline of a write come for a link that is current, and what
fails or closes does not come while `connect` is still starting the link; a connect is accepted while no callback is at work;
`failConnect` is careful; and no connect is told of an error while a callback has yet to set `gatt` to null. -/
def Orderly (threads : BleThreads) : BleEvent → Prop
  | .callback link callback => ∀ claim ∈ callback.claim.toList,
      threads.Current link ∧ (threads.starting → claim = .completeConnect)
  | .writeExpires link => threads.Current link
  | .main => (threads.accepting → ∀ task ∈ threads.callbacks, task.point.spent) ∧ threads.Careful .main
  | .binder place => threads.Careful (.binder place)
  | .reply => ∀ reply ∈ threads.controller.posted.head?.toList, reply.2.failed →
      threads.controller.armed = some reply.1 → ∀ task ∈ threads.callbacks, task.point.clears = false
  | .connect _ | .disconnect | .timeout _ => True

instance (threads : BleThreads) : (event : BleEvent) → Decidable (threads.Orderly event)
  | .callback _ callback => inferInstanceAs (Decidable (∀ claim ∈ callback.claim.toList, _ ∧ _))
  | .writeExpires link => inferInstanceAs (Decidable (threads.Current link))
  | .main => inferInstanceAs (Decidable ((_ → ∀ task ∈ threads.callbacks, _) ∧ threads.Careful .main))
  | .binder place => inferInstanceAs (Decidable (threads.Careful (.binder place)))
  | .reply => inferInstanceAs (Decidable (∀ reply ∈ threads.controller.posted.head?.toList, _))
  | .connect _ | .disconnect | .timeout _ => isTrue trivial

/-- A run that is orderly throughout. -/
def Calm : List BleEvent → BleThreads → Prop
  | [], _ => True
  | event :: events, threads => threads.Orderly event ∧ ∀ later ∈ (threads.step event).toList, Calm events later

instance decidableCalm : (events : List BleEvent) → (threads : BleThreads) → Decidable (Calm events threads)
  | [], _ => isTrue trivial
  | event :: events, threads =>
    have := decidableCalm events
    inferInstanceAs (Decidable (threads.Orderly event ∧ ∀ later ∈ (threads.step event).toList, Calm events later))

end BleThreads

/-- What holds of the state where a call stands. -/
def BlePoint.Ready (link : Option Nat) (controller : BleController) : BlePoint → Prop
  | removeCallbacks _ _ => controller.pendingConnect = none
  | takeConnect .closeGatt | post _ .closeGatt | readGatt => controller.scheduled = []
  | clearGatt current => controller.scheduled = [] ∧ ∀ own ∈ link, ∀ target ∈ current, target = own
  | close current => ∀ own ∈ link, ∀ target ∈ current, target = own
  | _ => True

/-- What is done for a link finds that link alone. -/
structure BleTask.Fits (controller : BleController) (task : BleTask) : Prop where
  own : ∀ link ∈ task.link, task.point.spent ∨ controller.armed = some link ∨ controller.Bare
  ready : task.point.Ready task.link controller

/-- What can be under way while a connect starts its link. -/
def BleTask.Quiet (controller : BleController) (task : BleTask) : Prop :=
  task.point.spent ∨ task.point.completes ∧ ∀ link ∈ task.link, controller.armed = some link

/-- What `connect` has seen so far. -/
def ConnectPoint.Ready (controller : BleController) (call : Nat) : ConnectPoint → Prop
  | checkPending | checkGatt => controller.armed ≠ some call
  | armConnect => controller.armed ≠ some call ∧ controller.gatt = none
  | connectGatt => controller.armed = some call ∧ controller.gatt = none
  | setGatt opened => controller.armed = some call ∧ controller.gatt = none ∧ ∀ link ∈ opened, link = call
  | checkOpened => controller.armed = some call
  | postDelayed => controller.armed = some call ∧ controller.gatt ≠ none

/-- All there is belongs to the connect that was accepted last, and one that has failed leaves no link. -/
structure Tidy (controller : BleController) (stage : Option (Nat × ConnectPoint)) (tasks : List BleTask) : Prop where
  pending : ∀ call ∈ controller.pendingConnect, controller.armed = some call
  link : ∀ link ∈ controller.gatt, controller.armed = some link
  scheduled : ∀ call ∈ controller.scheduled, controller.armed = some call
  closed : controller.gatt = none → controller.scheduled = []
  acts : ∀ act ∈ controller.acts, ∀ link ∈ act.cause, act.target = link
  fits : ∀ task ∈ tasks, task.Fits controller
  ready : ∀ at_stage ∈ stage, at_stage.2.Ready controller at_stage.1
  quiet : ∀ at_stage ∈ stage, at_stage.2.begun → ∀ task ∈ tasks, task.Quiet controller
  settles : controller.pendingConnect ≠ none → controller.scheduled ≠ [] ∨ (∃ task ∈ tasks, task.point.takes) ∨
    ∃ at_stage ∈ stage, at_stage.2.begun
  failing : ∀ reply ∈ controller.owed tasks, reply.2.failed → controller.armed = some reply.1 →
    (∀ at_stage ∈ stage, at_stage.2.begun = false) ∧ (controller.gatt = none ∨ ∃ task ∈ tasks, task.point.clears)
  failed : ∀ reply ∈ controller.answers, reply.2.failed → controller.armed = some reply.1 →
    (∀ at_stage ∈ stage, at_stage.2.begun = false) ∧ controller.gatt = none

/-- The controller with nothing new in it. -/
structure Narrows (before after : BleController) : Prop where
  armed : after.armed = before.armed
  pending : after.pendingConnect = none ∨ after.pendingConnect = before.pendingConnect
  gatt : after.gatt = none ∨ after.gatt = before.gatt
  scheduled : after.scheduled ⊆ before.scheduled

section Narrowing
variable {before after : BleController}

theorem Narrows.bare (narrows : Narrows before after) (bare : before.Bare) : after.Bare := by
  obtain ⟨pending, gatt⟩ := bare
  refine ⟨?_, ?_⟩
  · exact narrows.pending.elim id fun same => same.trans pending
  · exact narrows.gatt.elim id fun same => same.trans gatt

theorem Narrows.scheduled_empty (narrows : Narrows before after) (empty : before.scheduled = []) :
    after.scheduled = [] :=
  List.eq_nil_of_subset_nil (empty ▸ narrows.scheduled)

theorem Narrows.fits (narrows : Narrows before after) {task : BleTask} (fits : task.Fits before) : task.Fits after := by
  obtain ⟨link, point⟩ := task
  obtain ⟨own, ready⟩ := fits
  refine ⟨fun member some => ?_, ?_⟩
  · rw [narrows.armed]
    exact (own member some).imp id (Or.imp id narrows.bare)
  · cases point with
    | takeConnect claim =>
      cases claim with
      | closeGatt => exact narrows.scheduled_empty ready
      | _ => trivial
    | removeCallbacks call claim => exact narrows.pending.elim id fun same => same.trans ready
    | post call claim =>
      cases claim with
      | closeGatt => exact narrows.scheduled_empty ready
      | _ => trivial
    | closeGatt => trivial
    | readGatt => exact narrows.scheduled_empty ready
    | clearGatt current => exact ⟨narrows.scheduled_empty ready.1, ready.2⟩
    | close current => exact ready

theorem task_narrows (controller : BleController) (task : BleTask) : Narrows controller (task.step controller).1 := by
  obtain ⟨link, point⟩ := task
  unfold BleTask.step
  cases point with
  | takeConnect claim =>
    cases pending : controller.pendingConnect with
    | none => simp only [BlePoint.step, pending]; exact ⟨rfl, Or.inr rfl, Or.inr rfl, List.Subset.refl _⟩
    | some call => simp only [BlePoint.step, pending]; exact ⟨rfl, Or.inl rfl, Or.inr rfl, List.Subset.refl _⟩
  | removeCallbacks call claim => exact ⟨rfl, Or.inr rfl, Or.inr rfl, List.nil_subset _⟩
  | post call claim => exact ⟨rfl, Or.inr rfl, Or.inr rfl, List.Subset.refl _⟩
  | closeGatt => exact ⟨rfl, Or.inr rfl, Or.inr rfl, List.nil_subset _⟩
  | readGatt => exact ⟨rfl, Or.inr rfl, Or.inr rfl, List.Subset.refl _⟩
  | clearGatt current => exact ⟨rfl, Or.inr rfl, Or.inl rfl, List.Subset.refl _⟩
  | close current => exact ⟨rfl, Or.inr rfl, Or.inr rfl, List.Subset.refl _⟩

end Narrowing

section Advance
variable {controller : BleController} {stage : Option (Nat × ConnectPoint)} {task : BleTask} {others : List BleTask}

/-- What a task does next fits the state that its access leaves. -/
theorem BleTask.Fits.next (fits : task.Fits controller)
    (last : ∀ link ∈ controller.gatt, controller.armed = some link) :
    ∀ next ∈ (task.step controller).2, next.Fits (task.step controller).1 := by
  obtain ⟨link, point⟩ := task
  obtain ⟨own, ready⟩ := fits
  have narrows := task_narrows controller ⟨link, point⟩
  have owned : point.spent = false → ∀ member ∈ link,
      ((⟨link, point⟩ : BleTask).step controller).1.armed = some member ∨
        ((⟨link, point⟩ : BleTask).step controller).1.Bare := by
    intro busy member some
    rw [narrows.armed]
    rcases own member some with spent | rest
    · rw [busy] at spent
      cases spent
    · exact rest.imp id narrows.bare
  unfold BleTask.step at owned ⊢
  intro next member
  obtain ⟨point', leads, rfl⟩ := Option.mem_map.mp member
  refine ⟨fun own' some => ?_, ?_⟩
  · cases point with
    | takeConnect claim => exact Or.inr (owned rfl own' some)
    | removeCallbacks call claim => exact Or.inr (owned rfl own' some)
    | post call claim =>
      have busy : (BlePoint.post call claim).spent = false := by
        have found : claim.found = .some point' := leads
        simp [BlePoint.spent, found]
      exact Or.inr (owned busy own' some)
    | closeGatt => exact Or.inr (owned rfl own' some)
    | readGatt => exact Or.inr (owned rfl own' some)
    | clearGatt current =>
      cases leads
      exact Or.inl rfl
    | close current => cases leads
  · cases point with
    | takeConnect claim =>
      cases pending : controller.pendingConnect with
      | none =>
        simp only [BlePoint.step, pending] at leads ⊢
        cases claim with
        | failConnect message closes =>
          cases closes
          · cases leads
          · cases leads
            trivial
        | connectTimeout | completeConnect => cases leads
        | closeGatt =>
          cases leads
          exact ready
      | some call =>
        simp only [BlePoint.step, pending] at leads ⊢
        cases claim with
        | failConnect message closes | completeConnect =>
          cases leads
          rfl
        | connectTimeout =>
          cases leads
          trivial
        | closeGatt =>
          cases leads
          exact ready
    | removeCallbacks call claim =>
      cases leads
      cases claim with
      | closeGatt => rfl
      | _ => trivial
    | post call claim =>
      cases claim with
      | failConnect message closes =>
        cases closes
        · cases leads
        · cases leads
          trivial
      | connectTimeout =>
        cases leads
        trivial
      | completeConnect => cases leads
      | closeGatt =>
        cases leads
        exact ready
    | closeGatt =>
      cases leads
      rfl
    | readGatt =>
      cases leads
      refine ⟨ready, fun own' some target current => ?_⟩
      rcases own own' some with spent | armed | bare
      · cases spent
      · exact Option.some.inj ((last target current).symm.trans armed)
      · rw [bare.2] at current
        cases current
    | clearGatt current =>
      cases leads
      exact ready.2
    | close current => cases leads

/-- What a task takes or closes is of its own link. -/
theorem BleTask.Fits.acts (fits : task.Fits controller)
    (pending : ∀ call ∈ controller.pendingConnect, controller.armed = some call)
    (acts : ∀ act ∈ controller.acts, ∀ link ∈ act.cause, act.target = link) :
    ∀ act ∈ (task.step controller).1.acts, ∀ link ∈ act.cause, act.target = link := by
  obtain ⟨link, point⟩ := task
  obtain ⟨own, ready⟩ := fits
  unfold BleTask.step
  cases point with
  | takeConnect claim =>
    cases found : controller.pendingConnect with
    | none =>
      simp only [BlePoint.step, found]
      exact acts
    | some call =>
      simp only [BlePoint.step, found, BleController.acting]
      intro act member cause some
      rcases List.mem_append.mp member with earlier | last
      · exact acts act earlier cause some
      · rw [List.mem_singleton.mp last] at some ⊢
        rcases own cause some with spent | armed | bare
        · cases spent
        · exact Option.some.inj ((pending call found).symm.trans armed)
        · rw [bare.1] at found
          cases found
  | close current =>
    intro act member cause some
    rcases List.mem_append.mp member with earlier | last
    · exact acts act earlier cause some
    · obtain ⟨target, closed, rfl⟩ := List.mem_map.mp last
      exact ready cause some target (Option.mem_toList.mp closed)
  | removeCallbacks call claim | post call claim | closeGatt | readGatt | clearGatt current => exact acts

/-- A connect that is left pending still has a deadline, or something that will take it. -/
theorem BleTask.Fits.settles (fits : task.Fits controller)
    (pending : (task.step controller).1.pendingConnect ≠ none) : controller.pendingConnect ≠ none ∧
      (controller.scheduled ≠ [] ∨ task.point.takes →
        (task.step controller).1.scheduled ≠ [] ∨ ∃ next ∈ (task.step controller).2, next.point.takes) := by
  obtain ⟨link, point⟩ := task
  have ready := fits.ready
  unfold BleTask.step at pending ⊢
  cases point with
  | takeConnect claim =>
    cases found : controller.pendingConnect with
    | none =>
      simp only [BlePoint.step, found] at pending
      exact absurd rfl pending
    | some call =>
      simp only [BlePoint.step, found] at pending
      exact absurd rfl pending
  | removeCallbacks call claim => exact absurd ready pending
  | post call claim =>
    refine ⟨pending, fun before => before.imp id fun takes => ?_⟩
    have found : claim.found = some .closeGatt := by simpa [BlePoint.takes] using takes
    exact ⟨⟨link, .closeGatt⟩, by simp [BlePoint.step, found], rfl⟩
  | closeGatt => exact ⟨pending, fun _ => Or.inr ⟨_, rfl, rfl⟩⟩
  | readGatt | clearGatt current | close current =>
    refine ⟨pending, fun before => Or.inl (before.elim id (by rintro ⟨⟩))⟩

/-- A task that is to set `gatt` to null does so, or is still to. -/
theorem BleTask.clears_next (clears : task.point.clears) :
    (task.step controller).1.gatt = none ∨ ∃ next ∈ (task.step controller).2, next.point.clears := by
  obtain ⟨link, point⟩ := task
  unfold BleTask.step
  cases point with
  | takeConnect claim =>
    cases pending : controller.pendingConnect with
    | none =>
      obtain ⟨point', missing⟩ := Option.isSome_iff_exists.mp clears
      refine Or.inr ⟨⟨link, point'⟩, by simp [BlePoint.step, pending, missing], ?_⟩
      cases claim with
      | failConnect message closes =>
        cases closes
        · cases missing
        · cases missing
          rfl
      | connectTimeout | completeConnect => cases missing
      | closeGatt =>
        cases missing
        rfl
    | some call =>
      simp only [BlePoint.step, pending]
      cases claim with
      | failConnect message closes =>
        cases closes
        · cases clears
        · exact Or.inr ⟨_, rfl, rfl⟩
      | connectTimeout | completeConnect => cases clears
      | closeGatt => exact Or.inr ⟨_, rfl, rfl⟩
  | removeCallbacks call claim => exact Or.inr ⟨_, rfl, clears⟩
  | post call claim =>
    obtain ⟨point', found⟩ := Option.isSome_iff_exists.mp clears
    refine Or.inr ⟨⟨link, point'⟩, by simp [BlePoint.step, found], ?_⟩
    cases claim with
    | failConnect message closes =>
      cases closes
      · cases found
      · cases found
        rfl
    | completeConnect => cases found
    | connectTimeout | closeGatt =>
      cases found
      rfl
  | closeGatt | readGatt => exact Or.inr ⟨_, rfl, rfl⟩
  | clearGatt current => exact Or.inl rfl
  | close current => cases clears

/-- What is owed afterwards was owed before, or is of the connect that has just been taken. -/
theorem mem_owed_step {reply : Nat × GattReply Unit}
    (owed : reply ∈ (task.step controller).1.owed ((task.step controller).2.toList ++ others)) :
    reply ∈ controller.owed (task :: others) ∨ ∃ claim, task.point = .takeConnect claim ∧
      controller.pendingConnect = some reply.1 ∧ reply.2 = claim.reply ∧
        ∃ next ∈ (task.step controller).2, next.point.clears = claim.found.isSome := by
  obtain ⟨link, point⟩ := task
  unfold BleTask.step at owed ⊢
  simp only [BleController.owed, List.flatMap_append, List.flatMap_cons, List.mem_append] at owed ⊢
  cases point with
  | takeConnect claim =>
    cases pending : controller.pendingConnect with
    | none =>
      simp only [BlePoint.step, pending, (claim.rest_holds link).1] at owed
      refine Or.inl (owed.imp id fun rest => Or.inr (rest.resolve_left (by rintro ⟨⟩)))
    | some call =>
      rcases owed with posted | held | rest
      · simp only [BlePoint.step, pending] at posted
        exact Or.inl (Or.inl posted)
      · have own : reply = (call, claim.reply) := by
          cases removes : claim.removes <;> simpa [BlePoint.step, pending, removes] using held
        subst own
        refine Or.inr ⟨claim, rfl, rfl, rfl, ?_⟩
        cases removes : claim.removes <;> exact ⟨_, by simp [BlePoint.step, pending, removes]; rfl, rfl⟩
      · exact Or.inl (Or.inr (Or.inr rest))
  | removeCallbacks call claim =>
    refine Or.inl (owed.imp id fun rest => rest.imp (fun held => ?_) id)
    simpa [BlePoint.step] using held
  | post call claim =>
    simp only [BlePoint.step, (claim.rest_holds link).2, List.mem_append, List.mem_singleton] at owed
    rcases owed with (posted | rfl) | held | rest
    · exact Or.inl (Or.inl posted)
    · exact Or.inl (Or.inr (Or.inl (List.mem_singleton.mpr rfl)))
    · cases held
    · exact Or.inl (Or.inr (Or.inr rest))
  | closeGatt | readGatt | clearGatt current =>
    simp only [BlePoint.step] at owed
    exact Or.inl (owed.imp id fun rest => Or.inr (rest.resolve_left (by rintro ⟨⟩)))
  | close current =>
    exact Or.inl (owed.imp id fun rest => Or.inr (rest.resolve_left (by rintro ⟨⟩)))

theorem BleTask.Fits.closed (fits : task.Fits controller) (closed : controller.gatt = none → controller.scheduled = [])
    (empty : (task.step controller).1.gatt = none) : (task.step controller).1.scheduled = [] := by
  have narrows := task_narrows controller task
  obtain ⟨link, point⟩ := task
  have ready := fits.ready
  unfold BleTask.step at empty ⊢
  cases point with
  | takeConnect claim =>
    refine narrows.scheduled_empty (closed ?_)
    cases pending : controller.pendingConnect <;> simpa [BlePoint.step, BleController.acting, pending] using empty
  | clearGatt current => exact ready.1
  | removeCallbacks call claim | closeGatt => rfl
  | post call claim | readGatt | close current => exact closed empty

/-- What is under way while a connect starts its link does not touch the link. -/
theorem BleTask.Quiet.next (quiet : task.Quiet controller) : (task.step controller).1.gatt = controller.gatt ∧
    ∀ next ∈ (task.step controller).2, next.Quiet (task.step controller).1 := by
  obtain ⟨link, point⟩ := task
  have narrows := task_narrows controller ⟨link, point⟩
  rcases quiet with spent | ⟨completes, own⟩
  · unfold BleTask.step
    cases point with
    | post call claim =>
      refine ⟨rfl, fun next member => ?_⟩
      obtain ⟨point', found, rfl⟩ := Option.mem_map.mp member
      have missing : claim.found = none := by simpa [BlePoint.spent] using spent
      rw [BlePoint.step, missing] at found
      cases found
    | close current => exact ⟨rfl, by rintro _ ⟨⟩⟩
    | _ => cases spent
  · have kept : ∀ member ∈ link, ((⟨link, point⟩ : BleTask).step controller).1.armed = some member := by
      intro member some
      rw [narrows.armed]
      exact own member some
    unfold BleTask.step at kept ⊢
    cases point with
    | takeConnect claim =>
      cases claim with
      | completeConnect =>
        cases pending : controller.pendingConnect with
        | none =>
          simp only [BlePoint.step, pending]
          exact ⟨trivial, by rintro _ ⟨⟩⟩
        | some call =>
          simp only [BlePoint.step, pending] at kept ⊢
          refine ⟨rfl, fun next member => ?_⟩
          cases member
          exact Or.inr ⟨rfl, kept⟩
      | _ => cases completes
    | removeCallbacks call claim =>
      cases claim with
      | completeConnect =>
        refine ⟨rfl, fun next member => ?_⟩
        cases member
        exact Or.inl rfl
      | _ => cases completes
    | _ => cases completes

theorem task_step_answers : (task.step controller).1.answers = controller.answers := by
  obtain ⟨link, point⟩ := task
  unfold BleTask.step
  cases point with
  | takeConnect claim =>
    cases pending : controller.pendingConnect <;> simp [BlePoint.step, BleController.acting, pending]
  | _ => rfl

theorem ConnectPoint.Ready.after {point : ConnectPoint} {call : Nat} {after : BleController}
    (ready : point.Ready controller call) (armed : after.armed = controller.armed)
    (gatt : after.gatt = controller.gatt ∨ point.begun = false ∧ after.gatt = none) : point.Ready after call := by
  rcases gatt with same | ⟨early, empty⟩
  · cases point <;> simpa only [ConnectPoint.Ready, armed, same] using ready
  · cases point with
    | checkPending | checkGatt => simpa only [ConnectPoint.Ready, armed] using ready
    | armConnect => exact ⟨armed ▸ ready.1, empty⟩
    | _ => cases early

theorem Tidy.advance (tidy : Tidy controller stage (task :: others))
    (careful : task.point.abandons → controller.pendingConnect = none ∨ controller.gatt = none) :
    Tidy (task.step controller).1 stage ((task.step controller).2.toList ++ others) := by
  have narrows := task_narrows controller task
  have fits := tidy.fits task List.mem_cons_self
  -- The link is as it was, or null, and it is not made null while a connect is starting.
  have gatt : ∀ at_stage ∈ stage, (task.step controller).1.gatt = controller.gatt ∨
      at_stage.2.begun = false ∧ (task.step controller).1.gatt = none := by
    intro at_stage member
    cases begun : at_stage.2.begun with
    | true => exact Or.inl (tidy.quiet at_stage member begun task List.mem_cons_self).next.1
    | false => exact narrows.gatt.symm.imp id fun empty => ⟨rfl, empty⟩
  constructor
  case pending =>
    intro call found
    rw [narrows.armed]
    rcases narrows.pending with none | same
    · rw [none] at found
      cases found
    · exact tidy.pending call (same ▸ found)
  case link =>
    intro link found
    rw [narrows.armed]
    rcases narrows.gatt with none | same
    · rw [none] at found
      cases found
    · exact tidy.link link (same ▸ found)
  case scheduled =>
    intro call member
    rw [narrows.armed]
    exact tidy.scheduled call (narrows.scheduled member)
  case closed => exact fits.closed tidy.closed
  case acts => exact fits.acts tidy.pending tidy.acts
  case fits =>
    intro other member
    rcases List.mem_append.mp member with next | rest
    · exact fits.next tidy.link other (Option.mem_toList.mp next)
    · exact narrows.fits (tidy.fits other (List.mem_cons_of_mem _ rest))
  case ready =>
    intro at_stage member
    exact (tidy.ready at_stage member).after narrows.armed (gatt at_stage member)
  case quiet =>
    intro at_stage member begun other rest
    have quiet := tidy.quiet at_stage member begun
    rcases List.mem_append.mp rest with next | rest
    · exact (quiet task List.mem_cons_self).next.2 other (Option.mem_toList.mp next)
    · refine (quiet other (List.mem_cons_of_mem _ rest)).imp id fun ⟨completes, own⟩ => ⟨completes, ?_⟩
      rwa [narrows.armed]
  case settles =>
    intro pending
    obtain ⟨before, goes⟩ := fits.settles pending
    rcases tidy.settles before with scheduled | ⟨other, member, takes⟩ | begun
    · rcases goes (Or.inl scheduled) with scheduled | ⟨next, member, takes⟩
      · exact Or.inl scheduled
      · exact Or.inr (Or.inl ⟨next, List.mem_append_left _ (Option.mem_toList.mpr member), takes⟩)
    · rcases List.mem_cons.mp member with rfl | rest
      · rcases goes (Or.inr takes) with scheduled | ⟨next, member, takes⟩
        · exact Or.inl scheduled
        · exact Or.inr (Or.inl ⟨next, List.mem_append_left _ (Option.mem_toList.mpr member), takes⟩)
      · exact Or.inr (Or.inl ⟨other, List.mem_append_right _ rest, takes⟩)
    · exact Or.inr (Or.inr begun)
  case failing =>
    intro reply owed failed armed
    rw [narrows.armed] at armed
    rcases mem_owed_step owed with before | ⟨claim, at_claim, pending, said, next, member, clears⟩
    · obtain ⟨early, free⟩ := tidy.failing reply before failed armed
      refine ⟨early, ?_⟩
      rcases free with empty | ⟨other, member, clears⟩
      · exact Or.inl (narrows.gatt.elim id fun same => same.trans empty)
      · rcases List.mem_cons.mp member with rfl | rest
        · refine (BleTask.clears_next clears).imp id fun ⟨next, member, clears⟩ => ?_
          exact ⟨next, List.mem_append_left _ (Option.mem_toList.mpr member), clears⟩
        · exact Or.inr ⟨other, List.mem_append_right _ rest, clears⟩
    · -- The connect has just been taken, by something that closes the link, or where there is none.
      refine ⟨fun at_stage stage => ?_, ?_⟩
      · by_contra begun
        rcases tidy.quiet at_stage stage (by simpa using begun) task List.mem_cons_self with spent | ⟨completes, _⟩
        · rw [at_claim] at spent
          cases spent
        · rw [at_claim] at completes
          cases claim with
          | completeConnect =>
            rw [said] at failed
            cases failed
          | _ => cases completes
      · cases found : claim.found with
        | some _ =>
          rw [found] at clears
          exact Or.inr ⟨next, List.mem_append_left _ (Option.mem_toList.mpr member), clears⟩
        | none =>
          cases claim with
          | failConnect message closes =>
            cases closes
            · have abandons : task.point.abandons := by
                rw [at_claim]
                rfl
              rcases careful abandons with none | empty
              · rw [none] at pending
                cases pending
              · exact Or.inl (narrows.gatt.elim id fun same => same.trans empty)
            · cases found
          | completeConnect =>
            rw [said] at failed
            cases failed
          | connectTimeout | closeGatt => cases found
  case failed =>
    intro reply member failed armed
    rw [narrows.armed] at armed
    obtain ⟨early, empty⟩ := tidy.failed reply (task_step_answers ▸ member) failed armed
    exact ⟨early, narrows.gatt.elim id fun same => same.trans empty⟩

end Advance

section Stages
variable {controller : BleController} {stage : Option (Nat × ConnectPoint)} {tasks others : List BleTask} {call : Nat}
  {link : Option Nat} {request : BleConnect} {point : ConnectPoint}

theorem Tidy.congr (tidy : Tidy controller stage tasks) (same : tasks.Perm others) : Tidy controller stage others where
  pending := tidy.pending
  link := tidy.link
  scheduled := tidy.scheduled
  closed := tidy.closed
  acts := tidy.acts
  fits task member := tidy.fits task (same.mem_iff.mpr member)
  ready := tidy.ready
  quiet at_stage member begun task rest := tidy.quiet at_stage member begun task (same.mem_iff.mpr rest)
  settles pending := (tidy.settles pending).imp id <| Or.imp
    (fun ⟨task, member, takes⟩ => ⟨task, same.mem_iff.mp member, takes⟩) id
  failing reply owed failed armed := by
    have before : reply ∈ controller.owed tasks :=
      ((same.flatMap_right fun task => task.point.held).append_left _).mem_iff.mpr owed
    obtain ⟨early, free⟩ := tidy.failing reply before failed armed
    exact ⟨early, free.imp id fun ⟨task, member, clears⟩ => ⟨task, same.mem_iff.mp member, clears⟩⟩
  failed := tidy.failed

theorem ConnectPoint.Ready.unarmed (early : point.begun = false) (ready : point.Ready controller call) :
    controller.armed ≠ some call := by
  cases point with
  | checkPending | checkGatt => exact ready
  | armConnect => exact ready.1
  | _ => cases early

/-- A call that is turned away leaves things as they are. -/
theorem Tidy.answer (tidy : Tidy controller (some (call, point)) tasks) (early : point.begun = false)
    (reply : GattReply Unit) : Tidy (controller.answer call reply) none tasks where
  pending := tidy.pending
  link := tidy.link
  scheduled := tidy.scheduled
  closed := tidy.closed
  acts := tidy.acts
  fits task member :=
    (⟨rfl, Or.inr rfl, Or.inr rfl, List.Subset.refl _⟩ : Narrows controller (controller.answer call reply)).fits
      (tidy.fits task member)
  ready := nofun
  quiet := nofun
  settles pending := by
    rcases tidy.settles pending with scheduled | takes | ⟨_, member, begun⟩
    · exact Or.inl scheduled
    · exact Or.inr (Or.inl takes)
    · cases member
      rw [early] at begun
      cases begun
  failing reply owed failed armed := ⟨nofun, (tidy.failing reply owed failed armed).2⟩
  failed other member failed armed := by
    refine ⟨nofun, ?_⟩
    rcases List.mem_append.mp member with earlier | last
    · exact (tidy.failed other earlier failed armed).2
    · rw [List.mem_singleton.mp last] at armed
      exact absurd armed ((tidy.ready _ rfl).unarmed early)

/-- What is spent fits any state. -/
theorem BleTask.Fits.spent {task : BleTask} (fits : task.Fits controller) (spent : task.point.spent)
    (after : BleController) : task.Fits after := by
  obtain ⟨link, point⟩ := task
  refine ⟨fun _ _ => Or.inl spent, ?_⟩
  have ready := fits.ready
  cases point with
  | post taken claim =>
    cases claim with
    | closeGatt => cases spent
    | _ => trivial
  | close current => exact ready
  | _ => cases spent

/-- What is under way while a connect starts its link goes on, whatever becomes of the link and of the deadline. -/
theorem BleTask.Quiet.fits {task : BleTask} (quiet : task.Quiet controller) (fits : task.Fits controller)
    {after : BleController} (armed : after.armed = controller.armed)
    (pending : after.pendingConnect = controller.pendingConnect) : task.Fits after := by
  rcases quiet with spent | ⟨completes, own⟩
  · exact fits.spent spent after
  · obtain ⟨link, point⟩ := task
    refine ⟨fun member some => Or.inr (Or.inl (armed ▸ own member some)), ?_⟩
    have ready := fits.ready
    cases point with
    | takeConnect claim =>
      cases claim with
      | completeConnect => trivial
      | _ => cases completes
    | removeCallbacks taken claim => exact pending.trans ready
    | _ => cases completes

/-- A call of `connect` that has not been accepted does nothing but look. -/
theorem Tidy.looks (tidy : Tidy controller stage tasks) (early : ∀ at_stage ∈ stage, at_stage.2.begun = false)
    (yet : point.begun = false) (ready : point.Ready controller call) : Tidy controller (some (call, point)) tasks where
  pending := tidy.pending
  link := tidy.link
  scheduled := tidy.scheduled
  closed := tidy.closed
  acts := tidy.acts
  fits := tidy.fits
  ready at_stage member := by
    cases member
    exact ready
  quiet at_stage member begun := by
    cases member
    rw [yet] at begun
    cases begun
  settles pending := by
    refine (tidy.settles pending).imp id (Or.imp id ?_)
    rintro ⟨at_stage, member, begun⟩
    rw [early at_stage member] at begun
    cases begun
  failing reply owed failed armed := by
    refine ⟨fun at_stage member => ?_, (tidy.failing reply owed failed armed).2⟩
    cases member
    exact yet
  failed reply answered failed armed := by
    refine ⟨fun at_stage member => ?_, (tidy.failed reply answered failed armed).2⟩
    cases member
    exact yet

/-- `armConnect` accepts a connect that nothing has been said to yet, with nothing of an earlier one at work. -/
theorem Tidy.accept (tidy : Tidy controller (some (call, .armConnect)) tasks)
    (answered : call ∉ controller.answers.map Prod.fst) (owed : call ∉ (controller.owed tasks).map Prod.fst)
    (spent : ∀ task ∈ tasks, task.point.spent) :
    Tidy { controller with pendingConnect := some call, armed := some call } (some (call, .connectGatt)) tasks := by
  have empty : controller.gatt = none := (tidy.ready _ rfl).2
  have closed := tidy.closed empty
  constructor
  case pending => exact fun _ same => same
  case link =>
    intro link found
    rw [empty] at found
    cases found
  case scheduled =>
    intro other member
    rw [closed] at member
    cases member
  case closed => exact tidy.closed
  case acts => exact tidy.acts
  case fits => exact fun task member => (tidy.fits task member).spent (spent task member) _
  case ready =>
    intro at_stage member
    cases member
    exact ⟨rfl, empty⟩
  case quiet => exact fun _ _ _ task member => Or.inl (spent task member)
  case settles => exact fun _ => Or.inr (Or.inr ⟨_, rfl, rfl⟩)
  case failing =>
    intro reply member _ armed
    obtain rfl := Option.some.inj armed
    exact absurd (List.mem_map_of_mem member) owed
  case failed =>
    intro reply member _ armed
    obtain rfl := Option.some.inj armed
    exact absurd (List.mem_map_of_mem member) answered

/-- No connect that has begun has failed yet. -/
theorem Tidy.unfailed (tidy : Tidy controller (some (call, point)) tasks) (begun : point.begun)
    {reply : Nat × GattReply Unit} (member : reply ∈ controller.owed tasks ∨ reply ∈ controller.answers)
    (failed : reply.2.failed) : controller.armed ≠ some reply.1 := by
  intro armed
  have early : point.begun = false := by
    rcases member with owed | answered
    · exact (tidy.failing reply owed failed armed).1 _ rfl
    · exact (tidy.failed reply answered failed armed).1 _ rfl
  rw [begun] at early
  cases early

/-- `connect` goes on starting its link: it touches the link and the deadline alone. -/
theorem Tidy.start (tidy : Tidy controller (some (call, point)) tasks) (begun : point.begun) {later : ConnectPoint}
    (still : later.begun) {gatt : Option Nat} {opened : List Nat} (link : ∀ link ∈ gatt, controller.armed = some link)
    (closed : gatt = none → controller.scheduled = [])
    (ready : later.Ready { controller with gatt, opened } call) :
    Tidy { controller with gatt, opened } (some (call, later)) tasks where
  pending := tidy.pending
  link := link
  scheduled := tidy.scheduled
  closed := closed
  acts := tidy.acts
  fits task member := (tidy.quiet _ rfl begun task member).fits (tidy.fits task member) rfl rfl
  ready at_stage member := by
    cases member
    exact ready
  quiet _ _ _ := tidy.quiet _ rfl begun
  settles _ := Or.inr (Or.inr ⟨_, rfl, still⟩)
  failing reply owed failed armed := absurd armed (tidy.unfailed begun (Or.inl owed) failed)
  failed reply member failed armed := absurd armed (tidy.unfailed begun (Or.inr member) failed)

/-- `connect` ends with a deadline for the link it has started. -/
theorem Tidy.schedule (tidy : Tidy controller (some (call, .postDelayed)) tasks) :
    Tidy { controller with scheduled := controller.scheduled ++ [call] } none tasks where
  pending := tidy.pending
  link := tidy.link
  scheduled other member := by
    rcases List.mem_append.mp member with earlier | last
    · exact tidy.scheduled other earlier
    · rw [List.mem_singleton.mp last]
      exact (tidy.ready _ rfl).1
  closed empty := absurd empty (tidy.ready _ rfl).2
  acts := tidy.acts
  fits task member := (tidy.quiet _ rfl rfl task member).fits (tidy.fits task member) rfl rfl
  ready := nofun
  quiet := nofun
  settles _ := Or.inl (List.append_ne_nil_of_right_ne_nil _ (List.cons_ne_nil _ _))
  failing reply owed failed armed := absurd armed (tidy.unfailed rfl (Or.inl owed) failed)
  failed reply member failed armed := absurd armed (tidy.unfailed rfl (Or.inr member) failed)

/-- `connect` finds that it has not started a link, and fails. -/
theorem Tidy.fail (tidy : Tidy controller (some (call, .checkOpened)) tasks) (message : String) :
    Tidy controller none (⟨none, .takeConnect (.failConnect message false)⟩ :: tasks) where
  pending := tidy.pending
  link := tidy.link
  scheduled := tidy.scheduled
  closed := tidy.closed
  acts := tidy.acts
  fits task member := by
    rcases List.mem_cons.mp member with rfl | rest
    · exact ⟨nofun, trivial⟩
    · exact tidy.fits task rest
  ready := nofun
  quiet := nofun
  settles _ := Or.inr (Or.inl ⟨_, List.mem_cons_self, rfl⟩)
  failing reply owed failed armed := absurd armed (tidy.unfailed rfl (Or.inl owed) failed)
  failed reply member failed armed := absurd armed (tidy.unfailed rfl (Or.inr member) failed)

theorem Tidy.connect (tidy : Tidy controller (some (call, point)) tasks)
    (fresh : point.begun = false → call ∉ controller.answers.map Prod.fst ∧ call ∉ (controller.owed tasks).map Prod.fst)
    (accepts : point = .armConnect → controller.pendingConnect = none → ∀ task ∈ tasks, task.point.spent) :
    Tidy (point.step call request controller).1 ((point.step call request controller).2.bind BleMain.stage)
      ((point.step call request controller).2.toList.flatMap BleMain.tasks ++ tasks) := by
  cases point with
  | checkPending =>
    rw [ConnectPoint.step]
    split
    · exact tidy.answer rfl _
    · refine tidy.looks (fun at_stage member => ?_) rfl (tidy.ready _ rfl)
      cases member
      rfl
  | checkGatt =>
    rw [ConnectPoint.step]
    split
    · exact tidy.answer rfl _
    · rename_i free
      cases request.refusal with
      | some refusal => exact tidy.answer rfl _
      | none =>
        refine tidy.looks (fun at_stage member => ?_) rfl ⟨tidy.ready _ rfl, by simpa using free⟩
        cases member
        rfl
  | armConnect =>
    rw [ConnectPoint.step]
    split
    · exact tidy.answer rfl _
    · rename_i free
      obtain ⟨answered, owed⟩ := fresh rfl
      exact tidy.accept answered owed (accepts rfl (by simpa using free))
  | connectGatt =>
    obtain ⟨armed, empty⟩ := tidy.ready _ rfl
    rw [ConnectPoint.step]
    split
    · exact tidy.start rfl rfl tidy.link tidy.closed ⟨armed, empty, fun _ same => (Option.some.inj same).symm⟩
    · exact tidy.start rfl rfl tidy.link tidy.closed ⟨armed, empty, by rintro _ ⟨⟩⟩
  | setGatt opened =>
    obtain ⟨armed, empty, own⟩ := tidy.ready _ rfl
    refine tidy.start rfl rfl (fun link member => ?_) (fun _ => tidy.closed empty) armed
    rw [own link member]
    exact armed
  | checkOpened =>
    rw [ConnectPoint.step]
    split
    · rename_i up
      exact tidy.start rfl rfl tidy.link tidy.closed ⟨tidy.ready _ rfl, Option.isSome_iff_ne_none.mp up⟩
    · exact tidy.fail _
  | postDelayed => exact tidy.schedule

/-- Something new that is to take whatever connect is pending. -/
theorem Tidy.begins (tidy : Tidy controller stage tasks) {task : BleTask} {scheduled : List Nat}
    (fewer : scheduled ⊆ controller.scheduled) (fits : task.Fits { controller with scheduled })
    (empty : task.point.held = []) (takes : task.point.takes)
    (quiet : ∀ at_stage ∈ stage, at_stage.2.begun → task.Quiet controller) :
    Tidy { controller with scheduled } stage (task :: tasks) where
  pending := tidy.pending
  link := tidy.link
  scheduled call member := tidy.scheduled call (fewer member)
  closed none := List.eq_nil_of_subset_nil (tidy.closed none ▸ fewer)
  acts := tidy.acts
  fits other member := by
    rcases List.mem_cons.mp member with rfl | rest
    · exact fits
    · exact (⟨rfl, Or.inr rfl, Or.inr rfl, fewer⟩ : Narrows controller { controller with scheduled }).fits
        (tidy.fits other rest)
  ready at_stage member := (tidy.ready at_stage member).after rfl (Or.inl rfl)
  quiet at_stage member begun other rest := by
    rcases List.mem_cons.mp rest with rfl | rest
    · exact quiet at_stage member begun
    · exact tidy.quiet at_stage member begun other rest
  settles _ := Or.inr (Or.inl ⟨task, List.mem_cons_self, takes⟩)
  failing reply owed failed armed := by
    have before : reply ∈ controller.owed tasks := by
      simpa [BleController.owed, empty] using owed
    obtain ⟨early, free⟩ := tidy.failing reply before failed armed
    refine ⟨early, free.imp_right fun clears => ?_⟩
    obtain ⟨other, member, clears⟩ := clears
    exact ⟨other, List.mem_cons_of_mem _ member, clears⟩
  failed := tidy.failed

theorem Tidy.reply (tidy : Tidy controller none tasks) {reply : GattReply Unit} {posted : List (Nat × GattReply Unit)}
    (next : controller.posted = (call, reply) :: posted)
    (cleared : reply.failed → controller.armed = some call → ∀ task ∈ tasks, task.point.clears = false) :
    Tidy ({ controller with posted }.answer call reply) none tasks where
  pending := tidy.pending
  link := tidy.link
  scheduled := tidy.scheduled
  closed := tidy.closed
  acts := tidy.acts
  fits task member :=
    (⟨rfl, Or.inr rfl, Or.inr rfl, List.Subset.refl _⟩ : Narrows controller
      ({ controller with posted }.answer call reply)).fits (tidy.fits task member)
  ready := nofun
  quiet := nofun
  settles := tidy.settles
  failing other owed failed armed := by
    refine tidy.failing other ?_ failed armed
    rw [BleController.owed, next]
    exact List.mem_cons_of_mem _ owed
  failed other member failed armed := by
    refine ⟨nofun, ?_⟩
    rcases List.mem_append.mp member with earlier | last
    · exact (tidy.failed other earlier failed armed).2
    · obtain rfl := List.mem_singleton.mp last
      have owed : (call, reply) ∈ controller.owed tasks := by
        rw [BleController.owed, next]
        exact List.mem_cons_self
      rcases (tidy.failing _ owed failed armed).2 with empty | ⟨task, member, clears⟩
      · exact empty
      · rw [cleared failed armed task member] at clears
        cases clears

/-- No callback is `closeGatt`. -/
theorem GattCallback.claim_ready (callback : GattCallback) {claim : BleClaim} (claims : callback.claim = some claim)
    {link : Option Nat} : (BlePoint.takeConnect claim).Ready link controller := by
  cases claim with
  | closeGatt =>
    cases callback <;>
    · rw [GattCallback.claim] at claims
      repeat' split at claims
      all_goals cases claims
  | _ => trivial

end Stages

namespace BleThreads
variable {threads later : BleThreads} {event : BleEvent}

/-- What the runs keep: all is tidy, and the connect that was accepted last has been called. -/
structure Kept (threads : BleThreads) : Prop where
  held : threads.Held
  known : ∀ call ∈ threads.controller.armed, call < threads.calls
  tidy : Tidy threads.controller threads.stage threads.tasks

theorem Kept.initial : initial.Kept where
  held := Held.initial
  known := nofun
  tidy :=
    { pending := nofun
      link := nofun
      scheduled := nofun
      closed := fun _ => rfl
      acts := nofun
      fits := nofun
      ready := fun _ member => nomatch (member : _ ∈ none)
      quiet := fun _ member => nomatch (member : _ ∈ none)
      settles := fun pending => absurd rfl pending
      failing := nofun
      failed := nofun }

theorem Kept.idle (kept : threads.Kept) (idle : threads.main = none) :
    Tidy threads.controller none threads.callbacks := by
  have tidy := kept.tidy
  rwa [(idle_tasks idle).1, (idle_tasks idle).2] at tidy

/-- The main thread begins something that concerns the last link, or nothing that is there. -/
theorem Kept.begins (kept : threads.Kept) (idle : threads.main = none) {running : BleTask} {scheduled : List Nat}
    (fewer : scheduled ⊆ threads.controller.scheduled) (fits : running.Fits { threads.controller with scheduled })
    (empty : running.point.held = []) (takes : running.point.takes) :
    Tidy { threads.controller with scheduled } none (running :: threads.callbacks) :=
  (kept.idle idle).begins fewer fits empty takes nofun

theorem connect_armed {controller : BleController} {call : Nat} {request : BleConnect} {point : ConnectPoint} :
    (point.step call request controller).1.armed = controller.armed ∨
      point.begun = false ∧ (point.step call request controller).1.armed = some call := by
  cases point with
  | checkPending =>
    rw [ConnectPoint.step]
    split <;> exact Or.inl rfl
  | checkGatt =>
    rw [ConnectPoint.step]
    split
    · exact Or.inl rfl
    · split <;> exact Or.inl rfl
  | armConnect =>
    rw [ConnectPoint.step]
    split
    · exact Or.inl rfl
    · exact Or.inr ⟨rfl, rfl⟩
  | connectGatt =>
    rw [ConnectPoint.step]
    split <;> exact Or.inl rfl
  | setGatt opened => exact Or.inl rfl
  | checkOpened =>
    rw [ConnectPoint.step]
    split <;> exact Or.inl rfl
  | postDelayed => exact Or.inl rfl

theorem Kept.main (kept : threads.Kept) (orderly : threads.Orderly .main) {main : BleMain}
    (at_main : threads.main = some main) :
    (∀ call ∈ (main.step threads.controller).1.armed, call < threads.calls) ∧
      Tidy (main.step threads.controller).1 ((main.step threads.controller).2.bind BleMain.stage)
        ((main.step threads.controller).2.toList.flatMap BleMain.tasks ++ threads.callbacks) := by
  obtain ⟨held, known, tidy⟩ := kept
  unfold Held at held
  rw [stage, tasks, at_main] at tidy held
  cases main with
  | connect call request point =>
    rw [BleMain.step_connect]
    have below : point.begun = false → call < threads.calls := by
      intro early
      refine List.mem_range.mp (held.mem_iff.mp ?_)
      exact List.mem_append_right _ (by simp [BleMain.stage, early])
    refine ⟨fun other armed => ?_, Tidy.connect tidy (fun early => ?_) fun at_arm free => ?_⟩
    · rcases connect_armed with same | ⟨early, accepted⟩
      · exact known other (same ▸ armed)
      · obtain rfl := Option.some.inj (accepted.symm.trans armed)
        exact below early
    · have distinct := held.nodup_iff.mpr List.nodup_range
      have apart := (List.nodup_append.mp distinct).2.2
      have waits : call ∈ waiting (some (call, point)) := by simp [early]
      refine ⟨fun answered => apart call ?_ call waits rfl, fun owed => apart call ?_ call waits rfl⟩
      · exact List.mem_append_left _ (List.mem_append_left _ answered)
      · exact List.mem_append_left _ (List.mem_append_right _ owed)
    · subst at_arm
      exact orderly.1 (by simp [accepting, free, stage, at_main, BleMain.stage])
  | task running =>
    have advanced := Tidy.advance tidy (orderly.2 running (by rw [moves, at_main]; exact List.mem_singleton.mpr rfl))
    rw [BleMain.step_task, BleMain.stage_map_task, BleMain.tasks_map_task]
    exact ⟨fun call armed => known call ((task_narrows threads.controller running).armed ▸ armed), advanced⟩

theorem Kept.step (kept : threads.Kept) (orderly : threads.Orderly event) (ran : threads.step event = some later) :
    later.Kept := by
  have held := kept.held.step ran
  cases event with
  | connect request =>
    rw [BleThreads.step] at ran
    split at ran
    · cases ran
    · rename_i free
      have idle : threads.main = none := by simpa using free
      have unarmed : threads.controller.armed ≠ some threads.calls := fun armed =>
        Nat.lt_irrefl _ (kept.known _ armed)
      have looks : Tidy threads.controller (some (threads.calls, .checkPending)) threads.callbacks :=
        (kept.idle idle).looks (by rintro _ ⟨⟩) rfl unarmed
      split at ran
      · cases ran
        exact ⟨held, fun call armed => Nat.lt_succ_of_lt (kept.known call armed), looks⟩
      · cases ran
        refine ⟨held, fun call armed => Nat.lt_succ_of_lt (kept.known call armed), ?_⟩
        unfold stage tasks
        rw [idle]
        exact looks.answer rfl _
  | disconnect =>
    rw [BleThreads.step] at ran
    split at ran
    · cases ran
    · rename_i free
      cases ran
      refine ⟨held, kept.known, ?_⟩
      exact kept.begins (by simpa using free) (List.Subset.refl _) ⟨by rintro _ ⟨⟩, trivial⟩ rfl rfl
  | writeExpires link =>
    rw [BleThreads.step] at ran
    split at ran
    · cases ran
    · rename_i free
      cases ran
      refine ⟨held, kept.known, ?_⟩
      refine kept.begins (by simpa using (not_or.mp free).1) (List.Subset.refl _) ⟨fun own same => ?_, trivial⟩ rfl rfl
      cases same
      exact Or.inr (orderly.imp id And.left)
  | timeout place =>
    obtain ⟨link, found, same⟩ := Option.bind_eq_some_iff.mp ran
    split at same
    · cases same
    · rename_i free
      cases same
      refine ⟨held, kept.known, ?_⟩
      refine kept.begins (by simpa using free) (List.eraseIdx_subset) ⟨fun own some => ?_, trivial⟩ rfl rfl
      cases some
      exact Or.inr (Or.inl (kept.tidy.scheduled link (List.mem_of_getElem? found)))
  | reply =>
    rw [BleThreads.step] at ran
    split at ran
    · cases ran
    · rename_i call reply posted next
      split at ran
      · cases ran
      · rename_i free
        have idle : threads.main = none := by simpa using free
        cases ran
        refine ⟨held, kept.known, ?_⟩
        have cleared := orderly (call, reply) (by rw [next]; exact List.mem_singleton.mpr rfl)
        unfold stage tasks
        rw [idle]
        exact (kept.idle idle).reply next cleared
  | callback link callback =>
    rw [BleThreads.step] at ran
    split at ran
    · cases ran
      refine ⟨held, kept.known, ?_⟩
      cases claims : callback.claim with
      | none => simpa [stage, tasks] using kept.tidy
      | some claim =>
        obtain ⟨own, completes⟩ := orderly claim (by rw [claims]; exact List.mem_singleton.mpr rfl)
        have begins : Tidy threads.controller threads.stage (⟨some link, .takeConnect claim⟩ :: threads.tasks) := by
          refine kept.tidy.begins (List.Subset.refl _) ⟨fun member same => ?_, callback.claim_ready claims⟩ rfl rfl
            fun at_stage member begun => ?_
          · cases same
            exact Or.inr (own.imp id And.left)
          · have starting : threads.starting := by
              unfold BleThreads.starting
              rw [Option.mem_def.mp member]
              exact begun
            rw [completes starting]
            refine Or.inr ⟨rfl, fun member same => ?_⟩
            cases same
            refine own.resolve_right fun left => ?_
            rw [left.2] at starting
            cases starting
        refine begins.congr ?_
        unfold tasks
        simp only [Option.map_some, Option.toList_some, ← List.append_assoc]
        exact (List.perm_append_singleton _ _).symm
    · cases ran
  | main =>
    obtain ⟨main, at_main, same⟩ := Option.bind_eq_some_iff.mp ran
    cases same
    obtain ⟨known, tidy⟩ := kept.main orderly at_main
    exact ⟨held, known, tidy⟩
  | binder place =>
    obtain ⟨task, found, same⟩ := Option.bind_eq_some_iff.mp ran
    cases same
    have moved : task ∈ (threads.moves (.binder place)).toList := by
      rw [moves, found]
      exact List.mem_singleton.mpr rfl
    have advanced := (kept.tidy.congr (beside_perm found).symm).advance (orderly task moved)
    refine ⟨held, fun call armed => kept.known call ((task_narrows threads.controller task).armed ▸ armed), ?_⟩
    exact advanced.congr (beside_concat _)

theorem Kept.run (kept : threads.Kept) {events : List BleEvent} (calm : Calm events threads)
    (ran : run events threads = some later) : later.Kept := by
  induction events generalizing threads with
  | nil =>
    cases ran
    exact kept
  | cons event events ih =>
    obtain ⟨between, first, rest⟩ := Option.bind_eq_some_iff.mp ran
    exact ih (kept.step calm.1 first) (calm.2 between (Option.mem_toList.mpr first)) rest

/-- Nothing is under way, and nothing is left to be said or to run out. -/
def AtRest (threads : BleThreads) : Prop :=
  threads.main = none ∧ threads.callbacks = [] ∧ threads.controller.posted = [] ∧ threads.controller.scheduled = []

/-- No connect is answered twice, and at rest every call of `connect` has been answered. -/
def AnswersOnce (threads : BleThreads) : Prop :=
  (threads.controller.answers.map Prod.fst).Nodup ∧
    (threads.AtRest → (threads.controller.answers.map Prod.fst).Perm (List.range threads.calls))

/-- Where the connect that was accepted last has been answered with an error, there is no link, and no connect either,
that the next one is refused for. -/
def FreesSlot (threads : BleThreads) : Prop :=
  ∀ reply ∈ threads.controller.answers, reply.2.failed → threads.controller.armed = some reply.1 →
    threads.controller.gatt = none ∧ threads.controller.pendingConnect = none

/-- What a deadline or a callback takes or closes is of its own link. -/
def KeepsApart (threads : BleThreads) : Prop :=
  ∀ act ∈ threads.controller.acts, ∀ link ∈ act.cause, act.target = link

/-- In a run that is orderly throughout, every connect is answered once, one that fails leaves neither a link nor a
connect, and what comes of an earlier link leaves a later one alone. -/
theorem connects_settle_and_free {events : List BleEvent} (calm : Calm events initial)
    (ran : run events initial = some threads) : threads.AnswersOnce ∧ threads.FreesSlot ∧ threads.KeepsApart := by
  obtain ⟨held, known, tidy⟩ := Kept.initial.run calm ran
  have distinct := held.nodup_iff.mpr List.nodup_range
  refine ⟨⟨?_, fun ⟨idle, callbacks, posted, scheduled⟩ => ?_⟩, fun reply member failed armed => ?_, tidy.acts⟩
  · exact (List.nodup_append.mp (List.nodup_append.mp (List.nodup_append.mp distinct).1).1).1
  · have none : threads.controller.pendingConnect = none := by
      by_contra pending
      rcases tidy.settles pending with deadline | ⟨task, member, _⟩ | ⟨at_stage, member, _⟩
      · exact deadline scheduled
      · rw [(idle_tasks idle).1, callbacks] at member
        cases member
      · rw [(idle_tasks idle).2] at member
        cases member
    unfold Held at held
    rw [(idle_tasks idle).1, (idle_tasks idle).2, callbacks] at held
    simpa [BleController.connects, BleController.owed, none, posted] using held
  · refine ⟨(tidy.failed reply member failed armed).2, ?_⟩
    by_contra pending
    obtain ⟨call, found⟩ := Option.ne_none_iff_exists'.mp pending
    obtain rfl := Option.some.inj ((tidy.pending call found).symm.trans armed)
    have apart := (List.nodup_append.mp (List.nodup_append.mp distinct).1).2.2
    refine apart reply.1 ?_ reply.1 ?_ rfl
    · exact List.mem_append_left _ (List.mem_map_of_mem member)
    · rw [found]
      exact List.mem_singleton.mpr rfl

def plainConnect : BleConnect := ⟨true, some "00:11:22:33:44:55", [true, true, true], true, true⟩

/-- A call of `connect` from its beginning to its end. -/
def connecting : List BleEvent := .connect plainConnect :: List.replicate 7 .main

/-- A connect runs out of time, the next one succeeds, and its link is lost. -/
def plainConnects : List BleEvent :=
  connecting ++ .timeout 0 :: List.replicate 7 .main ++ .reply :: connecting ++
    [.callback 1 (.onDescriptorWrite true true), .binder 0, .binder 0, .binder 0, .reply,
      .callback 1 (.onConnectionStateChange true .disconnected false)] ++ List.replicate 6 (.binder 0)

def plainConnected : BleThreads where
  controller :=
    { pendingConnect := none
      gatt := none
      armed := some 1
      opened := [0, 1]
      scheduled := []
      posted := []
      answers := [(0, .error "connection_failed" "BLE connection timed out"), (1, .success ())]
      acts := [⟨some 0, 0⟩, ⟨some 0, 0⟩, ⟨some 1, 1⟩, ⟨some 1, 1⟩] }
  calls := 2
  main := none
  callbacks := []

theorem connects_settle_and_free_plain :
    plainConnected.AnswersOnce ∧ plainConnected.FreesSlot ∧ plainConnected.KeepsApart :=
  connects_settle_and_free (by decide : Calm plainConnects initial)
    (by decide : run plainConnects initial = some plainConnected)

/-- The services are not discovered, and the next connect is refused. -/
def undiscovered : List BleEvent :=
  connecting ++ [.callback 0 (.onServicesDiscovered false false false), .binder 0, .binder 0, .binder 0, .reply,
    .connect plainConnect, .main, .main]

/-- A link is closed and the next connect is accepted before the first link's callback comes to its `failConnect`. -/
def overtaken : List BleEvent :=
  connecting ++ [.callback 0 (.onConnectionStateChange true .disconnected false), .disconnect] ++
    List.replicate 6 .main ++ .reply :: connecting ++ [.binder 0]

/-- As before, but the callback has taken its connect by then, and removes the deadline of the next. -/
def unanswered : List BleEvent :=
  connecting ++ [.callback 0 (.onServicesDiscovered false false false), .binder 0, .disconnect] ++
    List.replicate 5 .main ++ connecting ++ [.binder 0, .binder 0, .reply]

/-- A connect that has failed leaves its link behind, a callback fails the connect of a later link, and a connect is
never answered. -/
theorem ble_runs_go_wrong :
    (∃ threads, run undiscovered initial = some threads ∧ ¬threads.FreesSlot ∧
      (1, BleController.inProgress) ∈ threads.controller.answers) ∧
      (∃ threads, run overtaken initial = some threads ∧ ¬threads.KeepsApart) ∧
      ∃ threads, run unanswered initial = some threads ∧ ¬threads.AnswersOnce := by
  refine ⟨⟨_, rfl, fun frees => ?_, by decide⟩, ⟨_, rfl, fun apart => ?_⟩, ⟨_, rfl, fun once => ?_⟩⟩
  · obtain ⟨none, _⟩ := frees (0, .error "connection_failed" "BLE service discovery failed") (by decide) rfl rfl
    cases none
  · exact absurd (apart ⟨some 0, 1⟩ (by decide) 0 rfl) (by decide)
  · exact absurd (once.2 ⟨rfl, rfl, rfl, rfl⟩).length_eq (by decide)

end BleThreads

end BioAuth.Native
