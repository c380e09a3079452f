import BioAuth.Native.BleController

namespace BioAuth.Native
open BioAuth

/-- What is taken and still to be posted. -/
def BlePoint.held : BlePoint → List (Nat × GattReply Unit)
  | removeCallbacks call claim | post call claim => [(call, claim.reply)]
  | _ => []

namespace BlePoint

@[simp] theorem held_takeConnect (claim : BleClaim) : (takeConnect claim).held = [] := rfl
@[simp] theorem held_removeCallbacks (call : Nat) (claim : BleClaim) :
    (removeCallbacks call claim).held = [(call, claim.reply)] := rfl
@[simp] theorem held_post (call : Nat) (claim : BleClaim) : (post call claim).held = [(call, claim.reply)] := rfl

end BlePoint

/-- Whether `armConnect` has accepted the call. -/
def ConnectPoint.begun : ConnectPoint → Bool
  | checkPending | checkGatt | armConnect => false
  | connectGatt | setGatt _ | checkOpened | postDelayed => true

def BleMain.tasks : BleMain → List BleTask
  | connect _ _ _ => []
  | task running => [running]

/-- The call of `connect` that the main thread is at. -/
def BleMain.stage : BleMain → Option (Nat × ConnectPoint)
  | connect call _ point => some (call, point)
  | task _ => none

@[simp] theorem BleMain.step_task (controller : BleController) (running : BleTask) :
    (task running).step controller = ((running.step controller).1, (running.step controller).2.map task) := rfl

@[simp] theorem BleMain.step_connect (controller : BleController) (call : Nat) (request : BleConnect)
    (point : ConnectPoint) : (connect call request point).step controller = point.step call request controller := rfl

@[simp] theorem BleMain.stage_map_task (next : Option BleTask) : (next.map task).bind stage = none := by
  cases next <;> rfl

@[simp] theorem BleMain.tasks_map_task (next : Option BleTask) :
    (next.map task).toList.flatMap tasks = next.toList := by
  cases next <;> rfl

/-- A call of `connect` that has yet to be accepted or turned away. -/
def waiting (stage : Option (Nat × ConnectPoint)) : List Nat :=
  (stage.filter fun stage => ¬stage.2.begun).toList.map Prod.fst

@[simp] theorem waiting_none : waiting none = [] := rfl

@[simp] theorem waiting_some (call : Nat) (point : ConnectPoint) :
    waiting (some (call, point)) = if point.begun then [] else [call] := by
  cases point <;> rfl

namespace BleThreads

def stage (threads : BleThreads) : Option (Nat × ConnectPoint) := threads.main.bind BleMain.stage

/-- What is under way on either thread. -/
def tasks (threads : BleThreads) : List BleTask := threads.main.toList.flatMap BleMain.tasks ++ threads.callbacks

end BleThreads

/-- The replies that are still to be given. -/
def BleController.owed (controller : BleController) (tasks : List BleTask) : List (Nat × GattReply Unit) :=
  controller.posted ++ tasks.flatMap fun task => task.point.held

/-- The calls of `connect` wherever they are: answered, owed a reply, pending, or waiting to be. -/
def BleController.connects (controller : BleController) (stage : Option (Nat × ConnectPoint)) (tasks : List BleTask) :
    List Nat :=
  controller.answers.map Prod.fst ++ (controller.owed tasks).map Prod.fst ++ controller.pendingConnect.toList ++
    waiting stage

/-- Every call of `connect` is somewhere, once. -/
def BleThreads.Held (threads : BleThreads) : Prop :=
  (threads.controller.connects threads.stage threads.tasks).Perm (List.range threads.calls)

section Accesses
variable {controller : BleController} {stage : Option (Nat × ConnectPoint)} {tasks others : List BleTask}

theorem connects_congr (same : tasks.Perm others) :
    (controller.connects stage tasks).Perm (controller.connects stage others) := by
  unfold BleController.connects BleController.owed
  have held := (same.flatMap_right fun task => task.point.held).map Prod.fst
  simp only [List.map_append]
  exact (((held.append_left _).append_left _).append_right _).append_right _

/-- Behind a `takeConnect` that finds nothing, and behind a reply, nothing is held. -/
theorem BleClaim.rest_holds (claim : BleClaim) (link : Option Nat) :
    ((claim.missing.map (BleTask.mk link)).toList.flatMap fun task => task.point.held) = [] ∧
      ((claim.found.map (BleTask.mk link)).toList.flatMap fun task => task.point.held) = [] := by
  cases claim with
  | failConnect message closes => cases closes <;> exact ⟨rfl, rfl⟩
  | connectTimeout | completeConnect | closeGatt => exact ⟨rfl, rfl⟩

theorem task_step_connects (task : BleTask) :
    ((task.step controller).1.connects stage ((task.step controller).2.toList ++ others)).Perm
      (controller.connects stage (task :: others)) := by
  obtain ⟨link, point⟩ := task
  refine List.perm_iff_count.mpr fun call => ?_
  unfold BleController.connects BleController.owed BleTask.step
  simp only [List.flatMap_append, List.flatMap_cons, List.map_append, List.count_append]
  cases point with
  | takeConnect claim =>
    cases pending : controller.pendingConnect with
    | none => simp [BlePoint.step, pending, (claim.rest_holds link).1]
    | some taken =>
      cases removes : claim.removes <;>
      · simp [BlePoint.step, pending, removes, BleController.acting]
        omega
  | removeCallbacks taken claim => rfl
  | post taken claim =>
    simp only [BlePoint.step, (claim.rest_holds link).2, BlePoint.held_post, List.map_append, List.count_append,
      List.map_nil, List.count_nil]
    omega
  | closeGatt | readGatt | clearGatt current | close current => rfl

/-- A call that is turned away is answered there and then. -/
theorem answer_connects {call : Nat} {point : ConnectPoint} (early : point.begun = false) (reply : GattReply Unit) :
    ((controller.answer call reply).connects none tasks).Perm (controller.connects (some (call, point)) tasks) := by
  refine List.perm_iff_count.mpr fun other => ?_
  simp only [BleController.connects, BleController.answer, BleController.owed, waiting_some, waiting_none, early,
    Bool.false_eq_true, if_false, List.map_append, List.map_cons, List.map_nil, List.count_append, List.count_nil]
  omega

theorem connect_step_connects (call : Nat) (request : BleConnect) (point : ConnectPoint) :
    ((point.step call request controller).1.connects ((point.step call request controller).2.bind BleMain.stage)
      ((point.step call request controller).2.toList.flatMap BleMain.tasks ++ others)).Perm
      (controller.connects (some (call, point)) others) := by
  cases point with
  | checkPending =>
    rw [ConnectPoint.step]
    split
    · exact answer_connects rfl _
    · rfl
  | checkGatt =>
    rw [ConnectPoint.step]
    split
    · exact answer_connects rfl _
    · cases request.refusal with
      | some refusal => exact answer_connects rfl _
      | none => rfl
  | armConnect =>
    rw [ConnectPoint.step]
    split
    · exact answer_connects rfl _
    · rename_i free
      have empty : controller.pendingConnect = none := by simpa using free
      simp [BleController.connects, BleController.owed, empty, BleMain.stage, BleMain.tasks, ConnectPoint.begun]
  | connectGatt =>
    rw [ConnectPoint.step]
    split <;> rfl
  | setGatt opened => rfl
  | checkOpened =>
    rw [ConnectPoint.step]
    split <;> rfl
  | postDelayed => rfl

end Accesses

namespace BleThreads
variable {threads later : BleThreads} {event : BleEvent}

theorem idle_tasks (idle : threads.main = none) : threads.tasks = threads.callbacks ∧ threads.stage = none := by
  rw [tasks, stage, idle]
  exact ⟨rfl, rfl⟩

/-- What is under way beside a callback. -/
def beside (threads : BleThreads) (place : Nat) : List BleTask :=
  threads.main.toList.flatMap BleMain.tasks ++ threads.callbacks.eraseIdx place

theorem beside_perm {place : Nat} {task : BleTask} (found : threads.callbacks[place]? = some task) :
    (task :: threads.beside place).Perm threads.tasks :=
  List.perm_middle.symm.trans ((GattOp.eraseIdx_perm found).append_left _)

theorem beside_concat {place : Nat} (next : List BleTask) : (next ++ threads.beside place).Perm
    (threads.main.toList.flatMap BleMain.tasks ++ (threads.callbacks.eraseIdx place ++ next)) := by
  rw [beside, ← List.append_assoc _ _ next]
  exact List.perm_append_comm

/-- The main thread begins something that holds nothing. -/
theorem Held.begins (held : threads.Held) (idle : threads.main = none) {running : BleTask}
    (empty : running.point.held = []) : Held { threads with main := some (.task running) } := by
  unfold Held at held ⊢
  rw [(idle_tasks idle).1, (idle_tasks idle).2] at held
  simpa [stage, tasks, BleMain.stage, BleMain.tasks, BleController.connects, BleController.owed, empty] using held

theorem main_connects {main : BleMain} (at_main : threads.main = some main) :
    ((main.step threads.controller).1.connects ((main.step threads.controller).2.bind BleMain.stage)
      ((main.step threads.controller).2.toList.flatMap BleMain.tasks ++ threads.callbacks)).Perm
      (threads.controller.connects threads.stage threads.tasks) := by
  rw [stage, tasks, at_main]
  cases main with
  | connect call request point => exact connect_step_connects call request point
  | task running =>
    rw [BleMain.step_task, BleMain.stage_map_task, BleMain.tasks_map_task]
    exact task_step_connects running

theorem Held.step (held : threads.Held) (ran : threads.step event = some later) : later.Held := by
  cases event with
  | connect request =>
    rw [BleThreads.step] at ran
    split at ran
    · cases ran
    · rename_i free
      have idle : threads.main = none := by simpa using free
      unfold Held at held
      rw [(idle_tasks idle).1, (idle_tasks idle).2] at held
      have longer : (threads.controller.connects none threads.callbacks ++ [threads.calls]).Perm
          (List.range (threads.calls + 1)) := by
        rw [List.range_succ]
        exact held.append_right _
      split at ran
      · cases ran
        refine List.Perm.trans ?_ longer
        simp [BleController.connects, stage, tasks, BleMain.stage, BleMain.tasks, ConnectPoint.begun]
      · cases ran
        refine List.Perm.trans ?_ longer
        unfold stage tasks
        rw [idle]
        refine (answer_connects (rfl : ConnectPoint.checkPending.begun = false) _).trans ?_
        simp [BleController.connects, ConnectPoint.begun]
  | disconnect =>
    rw [BleThreads.step] at ran
    split at ran
    · cases ran
    · rename_i free
      cases ran
      exact held.begins (by simpa using free) rfl
  | writeExpires link =>
    rw [BleThreads.step] at ran
    split at ran
    · cases ran
    · rename_i free
      cases ran
      exact held.begins (by simpa using (not_or.mp free).1) rfl
  | timeout place =>
    obtain ⟨link, found, same⟩ := Option.bind_eq_some_iff.mp ran
    split at same
    · cases same
    · rename_i free
      cases same
      exact held.begins (by simpa using free) rfl
  | reply =>
    rw [BleThreads.step] at ran
    split at ran
    · cases ran
    · rename_i call reply posted next
      split at ran
      · cases ran
      · rename_i free
        have idle : threads.main = none := by simpa using free
        cases ran
        refine List.Perm.trans (List.perm_iff_count.mpr fun other => ?_) held
        unfold stage tasks
        simp only [idle, BleController.connects, BleController.owed, BleController.answer, next, List.map_append,
          List.map_cons, List.map_nil, List.count_append, List.count_cons, List.count_nil]
        omega
  | callback link callback =>
    rw [BleThreads.step] at ran
    split at ran
    · cases ran
      refine List.Perm.trans ?_ held
      unfold stage tasks BleController.connects BleController.owed
      cases callback.claim <;> simp
    · cases ran
  | main =>
    obtain ⟨main, at_main, same⟩ := Option.bind_eq_some_iff.mp ran
    cases same
    exact (main_connects at_main).trans held
  | binder place =>
    obtain ⟨task, found, same⟩ := Option.bind_eq_some_iff.mp ran
    cases same
    have kept : ((task.step threads.controller).1.connects threads.stage
        (threads.main.toList.flatMap BleMain.tasks ++
          (threads.callbacks.eraseIdx place ++ (task.step threads.controller).2.toList))).Perm
        (threads.controller.connects threads.stage threads.tasks) :=
      (connects_congr (beside_concat _).symm).trans
        ((task_step_connects task).trans (connects_congr (beside_perm found)))
    exact kept.trans held

theorem Held.initial : initial.Held := List.Perm.refl _

end BleThreads

end BioAuth.Native
