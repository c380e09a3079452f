import BioAuth.Lib.Fallible
import Mathlib.Logic.Function.Basic

namespace BioAuth

/-- A call on a state it shares with others, who may come between any two of its steps. A change says what it is for, and
the call is told whether it was made. -/
inductive Program (σ ℓ ε α : Type)
  | done (result : Except ε α)
  | look (next : σ → Program σ ℓ ε α)
  | change (label : ℓ) (edit : σ → σ) (next : Bool → Program σ ℓ ε α)

namespace Program
variable {σ ℓ ε α β : Type}

def bind : Program σ ℓ ε α → (α → Program σ ℓ ε β) → Program σ ℓ ε β
  | done (.ok a), f => f a
  | done (.error e), _ => done (.error e)
  | look next, f => look fun s => bind (next s) f
  | change label edit next, f => change label edit fun made => bind (next made) f

/-- Recover from the error a call ends with. -/
def recover (handle : ε → Program σ ℓ ε α) : Program σ ℓ ε α → Program σ ℓ ε α
  | done (.ok a) => done (.ok a)
  | done (.error e) => handle e
  | look next => look fun s => recover handle (next s)
  | change label edit next => change label edit fun made => recover handle (next made)

instance : Monad (Program σ ℓ ε) where
  pure a := done (.ok a)
  bind := bind

instance : MonadExceptOf ε (Program σ ℓ ε) where
  throw e := done (.error e)
  tryCatch program handle := recover handle program

instance : MonadLift (Except ε) (Program σ ℓ ε) where
  monadLift result := done result

theorem bind_assoc {γ : Type} (program : Program σ ℓ ε α) (f : α → Program σ ℓ ε β) (g : β → Program σ ℓ ε γ) :
    (program.bind f).bind g = program.bind fun a => (f a).bind g := by
  induction program with
  | done result => cases result <;> rfl
  | look next ih => exact congrArg look (funext ih)
  | change label edit next ih => exact congrArg (change label edit) (funext ih)

/-- The call once it has looked at a state that stays as it is. -/
def settle (s : σ) : Program σ ℓ ε α → Program σ ℓ ε α
  | look next => settle s (next s)
  | program => program

theorem settle_bind (s : σ) (program : Program σ ℓ ε α) (f : α → Program σ ℓ ε β) :
    settle s (program.bind f) = settle s ((settle s program).bind f) := by
  induction program with
  | done result => rfl
  | look next ih => exact ih s
  | change label edit next => rfl

theorem settle_bind_of_ok {s : σ} {program : Program σ ℓ ε α} {a : α} (settled : settle s program = done (.ok a))
    (f : α → Program σ ℓ ε β) : settle s (program.bind f) = settle s (f a) := by
  rw [settle_bind, settled]
  rfl

theorem settle_bind_of_error {s : σ} {program : Program σ ℓ ε α} {e : ε} (settled : settle s program = done (.error e))
    (f : α → Program σ ℓ ε β) : settle s (program.bind f) = done (.error e) := by
  rw [settle_bind, settled]
  rfl

theorem settle_bind_of_change {s : σ} {program : Program σ ℓ ε α} {label : ℓ} {edit : σ → σ}
    {next : Bool → Program σ ℓ ε α} (settled : settle s program = change label edit next)
    (f : α → Program σ ℓ ε β) : settle s (program.bind f) = change label edit fun made => (next made).bind f := by
  rw [settle_bind, settled]
  rfl

/-- The call with something else made of its result. -/
def conclude (f : Except ε α → Except ε β) : Program σ ℓ ε α → Program σ ℓ ε β
  | done result => done (f result)
  | look next => look fun s => conclude f (next s)
  | change label edit next => change label edit fun made => conclude f (next made)

theorem bind_done (program : Program σ ℓ ε α) (f : α → Except ε β) :
    (program.bind fun a => done (f a)) = program.conclude fun result => result >>= f := by
  induction program with
  | done result => cases result <;> rfl
  | look next ih => exact congrArg look (funext ih)
  | change label edit next ih => exact congrArg (change label edit) (funext ih)

theorem conclude_conclude {γ : Type} (program : Program σ ℓ ε α) (f : Except ε α → Except ε β)
    (g : Except ε β → Except ε γ) : (program.conclude f).conclude g = program.conclude fun result => g (f result) := by
  induction program with
  | done result => rfl
  | look next ih => exact congrArg look (funext ih)
  | change label edit next ih => exact congrArg (change label edit) (funext ih)

theorem conclude_eq_look {f : Except ε α → Except ε β} {program : Program σ ℓ ε α} {next : σ → Program σ ℓ ε β}
    (looks : program.conclude f = look next) : ∃ inner, program = look inner ∧ next = fun s => (inner s).conclude f := by
  cases program with
  | done result => cases looks
  | look inner => exact ⟨inner, rfl, (Program.look.inj looks).symm⟩
  | change label edit inner => cases looks

theorem conclude_eq_change {f : Except ε α → Except ε β} {program : Program σ ℓ ε α} {label : ℓ} {edit : σ → σ}
    {next : Bool → Program σ ℓ ε β} (changes : program.conclude f = change label edit next) :
    ∃ inner, program = change label edit inner ∧ next = fun made => (inner made).conclude f := by
  cases program with
  | done result => cases changes
  | look inner => cases changes
  | change other edits inner =>
    cases changes
    exact ⟨inner, rfl, rfl⟩

end Program

/-- What becomes of a change: it is made, it is refused, or it is made and yet said to be refused. -/
inductive Outcome
  | made
  | refused
  | unconfirmed
  deriving DecidableEq

namespace Outcome

def apply {σ : Type} (outcome : Outcome) (edit : σ → σ) (s : σ) : σ := if outcome = .refused then s else edit s

end Outcome

namespace Program
variable {σ ℓ ε α β : Type}

/-- However a call goes on, whatever it sees: what it ends with, and the changes it has tried by then. -/
def Finishes (post : List (ℓ × Outcome) → Except ε α → Prop) : Program σ ℓ ε α → List (ℓ × Outcome) → Prop
  | done result, tried => post tried result
  | look next, tried => ∀ s, Finishes post (next s) tried
  | change label _ next, tried => ∀ outcome : Outcome, Finishes post (next (outcome = .made)) (tried ++ [(label, outcome)])

/-- The rule of sequence. -/
theorem Finishes.bind {post : List (ℓ × Outcome) → Except ε β → Prop} (mid : List (ℓ × Outcome) → α → Prop)
    {program : Program σ ℓ ε α} {f : α → Program σ ℓ ε β} {tried : List (ℓ × Outcome)}
    (first : program.Finishes (fun tried result => match result with
      | .ok a => mid tried a
      | .error e => post tried (.error e)) tried)
    (second : ∀ tried a, mid tried a → (f a).Finishes post tried) : (program.bind f).Finishes post tried := by
  induction program generalizing tried with
  | done result =>
    cases result with
    | ok a => exact second tried a first
    | error e => exact first
  | look next ih => exact fun s => ih s (first s)
  | change label edit next ih => exact fun outcome => ih _ (first outcome)

theorem Finishes.mono {post weaker : List (ℓ × Outcome) → Except ε α → Prop} {program : Program σ ℓ ε α}
    {tried : List (ℓ × Outcome)} (finishes : program.Finishes post tried)
    (weaken : ∀ tried result, post tried result → weaker tried result) : program.Finishes weaker tried := by
  induction program generalizing tried with
  | done result => exact weaken tried result finishes
  | look next ih => exact fun s => ih s (finishes s)
  | change label edit next ih => exact fun outcome => ih _ (finishes outcome)

/-- However a call goes on that is alone with the state: what each change makes of it, and what it ends with. -/
def Runs (post : ℓ → σ → σ → Prop) (ends : Except ε α → σ → Prop) : Program σ ℓ ε α → σ → Prop
  | done result, s => ends result s
  | look next, s => Runs post ends (next s) s
  | change label edit next, s => post label s (edit s) ∧
    ∀ outcome : Outcome, Runs post ends (next (outcome = .made)) (outcome.apply edit s)

/-- The rule of sequence. -/
theorem Runs.bind {post : ℓ → σ → σ → Prop} {ends : Except ε β → σ → Prop} (mid : α → σ → Prop)
    {program : Program σ ℓ ε α} {f : α → Program σ ℓ ε β} {s : σ}
    (first : program.Runs post (fun result s => match result with
      | .ok a => mid a s
      | .error e => ends (.error e) s) s)
    (second : ∀ a s, mid a s → (f a).Runs post ends s) : (program.bind f).Runs post ends s := by
  induction program generalizing s with
  | done result =>
    cases result with
    | ok a => exact second a s first
    | error e => exact first
  | look next ih => exact ih s first
  | change label edit next ih => exact ⟨first.1, fun outcome => ih _ (first.2 outcome)⟩

theorem Runs.look {post : ℓ → σ → σ → Prop} {ends : Except ε α → σ → Prop} {next : σ → Program σ ℓ ε α} {s : σ}
    (runs : (next s).Runs post ends s) : (look next).Runs post ends s :=
  runs

theorem Finishes.conclude {post : List (ℓ × Outcome) → Except ε β → Prop} {f : Except ε α → Except ε β}
    {program : Program σ ℓ ε α} {tried : List (ℓ × Outcome)}
    (finishes : program.Finishes (fun tried result => post tried (f result)) tried) :
    (program.conclude f).Finishes post tried := by
  induction program generalizing tried with
  | done result => exact finishes
  | look next ih => exact fun s => ih s (finishes s)
  | change label edit next ih => exact fun outcome => ih _ (finishes outcome)

end Program

/-- A call under way. Whether it has seen the state yet, and whether another has changed what it saw. -/
structure Thread (κ σ ℓ ε α : Type) where
  number : Nat
  call : κ
  program : Program σ ℓ ε α
  looked : Bool
  stale : Bool

inductive Deed (κ σ ℓ ε α : Type)
  | returned (number : Nat) (call : κ) (result : Except ε α)
  | tried (number : Nat) (call : κ) (label : ℓ) (outcome : Outcome) (before after : σ)
  | meddled (before after : σ)

/-- The instances that share a state, each with at most one call under way. The log is an onlooker's. -/
structure Interleaved (κ σ ℓ ε α : Type) where
  shared : σ
  threads : Nat → Option (Thread κ σ ℓ ε α)
  calls : Nat
  log : List (Deed κ σ ℓ ε α)

/-- What may happen next: a call begins, a call takes a step, or the state changes by itself. -/
inductive Turn (κ σ : Type)
  | begin (place : Nat) (call : κ)
  | step (place : Nat) (outcome : Outcome)
  | meddle (edit : σ → σ)

namespace Interleaved
variable {κ σ ℓ ε α : Type} (body : κ → Program σ ℓ ε α)

def quiet (shared : σ) : Interleaved κ σ ℓ ε α := ⟨shared, fun _ => none, 0, []⟩

/-- Whoever has looked has seen a state that is no more. -/
def disturb (threads : Nat → Option (Thread κ σ ℓ ε α)) (place : Nat) : Option (Thread κ σ ℓ ε α) :=
  (threads place).map fun thread => { thread with stale := thread.stale || thread.looked }

/-- A call whose instance is taken waits for it, so it begins later. -/
def after (world : Interleaved κ σ ℓ ε α) : Turn κ σ → Interleaved κ σ ℓ ε α
  | .begin place call =>
    match world.threads place with
    | some _ => world
    | none =>
      { world with
        threads := Function.update world.threads place (some ⟨world.calls, call, body call, false, false⟩)
        calls := world.calls + 1 }
  | .step place outcome =>
    match world.threads place with
    | none => world
    | some thread =>
      match thread.program with
      | .done result =>
        { world with
          threads := Function.update world.threads place none
          log := world.log ++ [.returned thread.number thread.call result] }
      | .look next =>
        { world with
          threads := Function.update world.threads place
            (some { thread with program := next world.shared, looked := true }) }
      | .change label edit next =>
        { world with
          shared := outcome.apply edit world.shared
          threads := Function.update (if outcome = .refused then world.threads else disturb world.threads) place
            (some { thread with program := next (outcome = .made), looked := true })
          log := world.log ++
            [.tried thread.number thread.call label outcome world.shared (outcome.apply edit world.shared)] }
  | .meddle edit =>
    { world with
      shared := edit world.shared
      threads := disturb world.threads
      log := world.log ++ [.meddled world.shared (edit world.shared)] }

def run (world : Interleaved κ σ ℓ ε α) (turns : List (Turn κ σ)) : Interleaved κ σ ℓ ε α := turns.foldl (after body) world

/-- No change is made by a call that has seen what is no more. -/
def Timely (world : Interleaved κ σ ℓ ε α) : Turn κ σ → Prop
  | .step place outcome => ∀ thread, world.threads place = some thread → outcome ≠ .refused →
    (∃ label edit next, thread.program = .change label edit next) → thread.stale = false
  | _ => True

def TimelyRun (world : Interleaved κ σ ℓ ε α) : List (Turn κ σ) → Prop
  | [] => True
  | turn :: turns => world.Timely turn ∧ TimelyRun (world.after body turn) turns

/-- Whether a change of a thread's would be made on what is no more. -/
def late (outcome : Outcome) (thread : Thread κ σ ℓ ε α) : Bool :=
  match thread.program with
  | .change _ _ _ => outcome ≠ .refused && thread.stale
  | _ => false

theorem timely_step {world : Interleaved κ σ ℓ ε α} {place : Nat} {outcome : Outcome} :
    world.Timely (.step place outcome) ↔ ∀ thread ∈ world.threads place, late outcome thread = false := by
  refine forall_congr' fun thread => ?_
  rw [Option.mem_def]
  refine imp_congr_right fun _ => ?_
  obtain ⟨number, call, program, looked, stale⟩ := thread
  cases program with
  | done result => exact ⟨fun _ => rfl, fun _ _ ⟨_, _, _, never⟩ => nomatch never⟩
  | look next => exact ⟨fun _ => rfl, fun _ _ ⟨_, _, _, never⟩ => nomatch never⟩
  | change label edit next =>
    constructor
    · intro timely
      by_cases refused : outcome = .refused
      · simp [late, refused]
      · have current : stale = false := timely refused ⟨label, edit, next, rfl⟩
        simp [late, current]
    · intro still made _
      simpa [late, made] using still

instance (world : Interleaved κ σ ℓ ε α) : (turn : Turn κ σ) → Decidable (world.Timely turn)
  | .begin _ _ => isTrue trivial
  | .meddle _ => isTrue trivial
  | .step _ _ => decidable_of_iff _ timely_step.symm

def decidableTimelyRun : (world : Interleaved κ σ ℓ ε α) → (turns : List (Turn κ σ)) → Decidable (TimelyRun body world turns)
  | _, [] => isTrue trivial
  | world, turn :: turns => @instDecidableAnd _ _ _ (decidableTimelyRun (world.after body turn) turns)

instance (world : Interleaved κ σ ℓ ε α) (turns : List (Turn κ σ)) : Decidable (TimelyRun body world turns) :=
  decidableTimelyRun body world turns

end Interleaved

/-- What a call that has seen nothing stale is about to do, told of the state as it is. -/
structure Outlook {κ σ ℓ ε α : Type} (body : κ → Program σ ℓ ε α) where
  holds : κ → Program σ ℓ ε α → σ → Prop
  start : ∀ call s, holds call (body call) s
  look : ∀ {call next s}, holds call (.look next) s → holds call (next s) s
  change : ∀ {call label edit next s}, holds call (.change label edit next) s → ∀ outcome : Outcome,
    holds call (next (outcome = .made)) (outcome.apply edit s)

/-- A call that nobody disturbs does what it would alone. -/
def Outlook.alone {κ σ ℓ ε α : Type} {body : κ → Program σ ℓ ε α} (post : κ → ℓ → σ → σ → Prop)
    (runs : ∀ call s, (body call).Runs (post call) (fun _ _ => True) s) : Outlook body where
  holds call program s := program.Runs (post call) (fun _ _ => True) s
  start := runs
  look holds := holds
  change holds outcome := holds.2 outcome

/-- Calls that end at once, or are others' with something else made of the result, have those others' outlook. -/
def Outlook.conclude {κ κ' σ ℓ ε α β : Type} {body : κ → Program σ ℓ ε α} (outlook : Outlook body)
    {outer : κ' → Program σ ℓ ε β} (inner : κ' → κ) (f : κ' → Except ε α → Except ε β)
    (shape : ∀ call, (∃ result, outer call = .done result) ∨ outer call = (body (inner call)).conclude (f call)) :
    Outlook outer where
  holds call program s := (∃ result, program = .done result) ∨
    ∃ under, outlook.holds (inner call) under s ∧ under.conclude (f call) = program
  start call s := (shape call).imp id fun same => ⟨_, outlook.start (inner call) s, same.symm⟩
  look := by
    rintro call next s (⟨_, never⟩ | ⟨under, holds, same⟩)
    · cases never
    · obtain ⟨inner, rfl, rfl⟩ := Program.conclude_eq_look same
      exact Or.inr ⟨inner s, outlook.look holds, rfl⟩
  change := by
    rintro call label edit next s (⟨_, never⟩ | ⟨under, holds, same⟩) outcome
    · cases never
    · obtain ⟨inner, rfl, rfl⟩ := Program.conclude_eq_change same
      exact Or.inr ⟨inner (outcome = .made), outlook.change holds outcome, rfl⟩

namespace Interleaved
variable {κ σ ℓ ε α : Type} {body : κ → Program σ ℓ ε α} (outlook : Outlook body)

/-- A call that has not looked stands where it began, and one that has seen nothing stale keeps its outlook. -/
def Fresh (world : Interleaved κ σ ℓ ε α) : Prop :=
  ∀ place thread, world.threads place = some thread →
    (thread.looked = false → thread.program = body thread.call ∧ thread.stale = false) ∧
      (thread.stale = false → outlook.holds thread.call thread.program world.shared)

/-- Each change in the log was made with an outlook on the state it changed. -/
def Apt (log : List (Deed κ σ ℓ ε α)) : Prop :=
  ∀ number call label outcome before after, Deed.tried number call label outcome before after ∈ log →
    outcome = .refused ∧ after = before ∨ outcome ≠ .refused ∧
      ∃ edit next, outlook.holds call (.change label edit next) before ∧ after = edit before

/-- One change after another makes the state what it is. -/
def Story : σ → List (Deed κ σ ℓ ε α) → σ → Prop
  | first, [], last => last = first
  | first, .returned .. :: deeds, last => Story first deeds last
  | first, .tried _ _ _ _ before after :: deeds, last => before = first ∧ Story after deeds last
  | first, .meddled before after :: deeds, last => before = first ∧ Story after deeds last

theorem story_append {deeds later : List (Deed κ σ ℓ ε α)} : ∀ {first middle last : σ},
    Story first deeds middle → Story middle later last → Story first (deeds ++ later) last := by
  induction deeds with
  | nil =>
    intro first middle last early late
    cases early
    exact late
  | cons deed deeds ih =>
    intro first middle last early late
    cases deed with
    | returned number call result => exact ih early late
    | tried number call label outcome before after => exact ⟨early.1, ih early.2 late⟩
    | meddled before after => exact ⟨early.1, ih early.2 late⟩

variable {world : Interleaved κ σ ℓ ε α}

theorem disturb_eq_some {threads : Nat → Option (Thread κ σ ℓ ε α)} {place : Nat} {thread : Thread κ σ ℓ ε α} :
    disturb threads place = some thread ↔ ∃ before, threads place = some before ∧
      thread = { before with stale := before.stale || before.looked } := by
  unfold disturb
  rw [Option.map_eq_some_iff]
  exact exists_congr fun before => and_congr_right fun _ => eq_comm

/-- After a change by something else only who has not looked has seen nothing stale. -/
theorem Fresh.disturb (fresh : world.Fresh outlook) {place : Nat} {thread : Thread κ σ ℓ ε α}
    (here : Interleaved.disturb world.threads place = some thread) (s : σ) :
    (thread.looked = false → thread.program = body thread.call ∧ thread.stale = false) ∧
      (thread.stale = false → outlook.holds thread.call thread.program s) := by
  obtain ⟨before, found, rfl⟩ := disturb_eq_some.mp here
  have start := (fresh place before found).1
  constructor
  · intro unseen
    have same := start unseen
    exact ⟨same.1, Bool.or_eq_false_iff.mpr ⟨same.2, unseen⟩⟩
  · intro current
    obtain ⟨_, unseen⟩ := Bool.or_eq_false_iff.mp current
    have same := (start unseen).1
    change outlook.holds before.call before.program s
    rw [same]
    exact outlook.start before.call s

theorem Fresh.after (fresh : world.Fresh outlook) (turn : Turn κ σ) : (world.after body turn).Fresh outlook := by
  cases turn with
  | begin place call =>
    unfold Interleaved.after
    dsimp only
    split
    · exact fresh
    · intro other thread found
      change Function.update world.threads place _ other = some thread at found
      rw [Function.update_apply] at found
      split at found
      · cases found
        exact ⟨fun _ => ⟨rfl, rfl⟩, fun _ => outlook.start call world.shared⟩
      · exact fresh other thread found
  | step place outcome =>
    unfold Interleaved.after
    dsimp only
    split
    · exact fresh
    · rename_i thread here
      obtain ⟨start, known⟩ := fresh place thread here
      split
      · intro other later found
        change Function.update world.threads place none other = some later at found
        rw [Function.update_apply] at found
        split at found
        · cases found
        · exact fresh other later found
      · rename_i next looks
        intro other later found
        change Function.update world.threads place _ other = some later at found
        rw [Function.update_apply] at found
        split at found
        · cases found
          refine ⟨nofun, fun current => ?_⟩
          exact outlook.look (looks ▸ known current)
        · exact fresh other later found
      · rename_i label edit next changes
        intro other later found
        change Function.update (if outcome = .refused then world.threads else Interleaved.disturb world.threads) place _
          other = some later at found
        rw [Function.update_apply] at found
        split at found
        · cases found
          refine ⟨nofun, fun current => ?_⟩
          exact outlook.change (changes ▸ known current) outcome
        · by_cases refused : outcome = .refused
          · rw [if_pos refused] at found
            have same : outcome.apply edit world.shared = world.shared := if_pos refused
            change _ ∧ (later.stale = false → outlook.holds later.call later.program (outcome.apply edit world.shared))
            rw [same]
            exact fresh other later found
          · rw [if_neg refused] at found
            exact fresh.disturb outlook found _
  | meddle edit =>
    intro place thread found
    exact fresh.disturb outlook found _

theorem Apt.after (apt : Apt outlook world.log) (fresh : world.Fresh outlook) {turn : Turn κ σ}
    (timely : world.Timely turn) : Apt outlook (world.after body turn).log := by
  cases turn with
  | begin place call =>
    unfold Interleaved.after
    dsimp only
    split
    · exact apt
    · exact apt
  | step place outcome =>
    unfold Interleaved.after
    dsimp only
    split
    · exact apt
    · rename_i thread here
      split
      · intro number call label outcome before after member
        rcases List.mem_append.mp member with old | new
        · exact apt number call label outcome before after old
        · exact absurd (List.mem_singleton.mp new) nofun
      · exact apt
      · rename_i label edit next changes
        intro number call other result before after member
        rcases List.mem_append.mp member with old | new
        · exact apt number call other result before after old
        · cases List.mem_singleton.mp new
          by_cases refused : outcome = .refused
          · exact Or.inl ⟨refused, if_pos refused⟩
          · have current := timely thread here refused ⟨label, edit, next, changes⟩
            exact Or.inr ⟨refused, edit, next, changes ▸ (fresh place thread here).2 current, if_neg refused⟩
  | meddle edit =>
    intro number call label outcome before after member
    rcases List.mem_append.mp member with old | new
    · exact apt number call label outcome before after old
    · exact absurd (List.mem_singleton.mp new) nofun

theorem story_after (body : κ → Program σ ℓ ε α) (world : Interleaved κ σ ℓ ε α) (turn : Turn κ σ) :
    ∃ news, (world.after body turn).log = world.log ++ news ∧ Story world.shared news (world.after body turn).shared := by
  cases turn with
  | begin place call =>
    unfold Interleaved.after
    dsimp only
    split
    · exact ⟨[], (List.append_nil _).symm, rfl⟩
    · exact ⟨[], (List.append_nil _).symm, rfl⟩
  | step place outcome =>
    unfold Interleaved.after
    dsimp only
    split
    · exact ⟨[], (List.append_nil _).symm, rfl⟩
    · split
      · exact ⟨[_], rfl, rfl⟩
      · exact ⟨[], (List.append_nil _).symm, rfl⟩
      · exact ⟨[_], rfl, rfl, rfl⟩
  | meddle edit => exact ⟨[_], rfl, rfl, rfl⟩

theorem story_run (body : κ → Program σ ℓ ε α) (world : Interleaved κ σ ℓ ε α) (turns : List (Turn κ σ)) :
    ∃ news, (world.run body turns).log = world.log ++ news ∧ Story world.shared news (world.run body turns).shared := by
  induction turns generalizing world with
  | nil => exact ⟨[], (List.append_nil _).symm, rfl⟩
  | cons turn turns ih =>
    obtain ⟨news, log, story⟩ := story_after body world turn
    obtain ⟨later, log', story'⟩ := ih (world.after body turn)
    refine ⟨news ++ later, ?_, story_append story story'⟩
    change ((world.after body turn).run body turns).log = _
    rw [log', log, List.append_assoc]

/-- What changes by itself changes as the run says. -/
theorem meddled_run {world : Interleaved κ σ ℓ ε α} {turns : List (Turn κ σ)} {before after : σ}
    (member : Deed.meddled before after ∈ (world.run body turns).log) :
    Deed.meddled before after ∈ world.log ∨ ∃ edit, Turn.meddle edit ∈ turns ∧ after = edit before := by
  induction turns generalizing world with
  | nil => exact Or.inl member
  | cons turn turns ih =>
    have own : Deed.meddled before after ∈ (world.after body turn).log →
        Deed.meddled before after ∈ world.log ∨ ∃ edit, turn = .meddle edit ∧ after = edit before := by
      intro now
      cases turn with
      | begin place call =>
        left
        unfold Interleaved.after at now
        dsimp only at now
        split at now
        · exact now
        · exact now
      | step place outcome =>
        left
        unfold Interleaved.after at now
        dsimp only at now
        split at now
        · exact now
        · split at now
          · exact (List.mem_append.mp now).resolve_right fun new => absurd (List.mem_singleton.mp new) nofun
          · exact now
          · exact (List.mem_append.mp now).resolve_right fun new => absurd (List.mem_singleton.mp new) nofun
      | meddle edit =>
        rcases List.mem_append.mp now with old | new
        · exact Or.inl old
        · cases List.mem_singleton.mp new
          exact Or.inr ⟨edit, rfl, rfl⟩
    rcases ih member with early | ⟨edit, later, same⟩
    · rcases own early with old | ⟨edit, rfl, same⟩
      · exact Or.inl old
      · exact Or.inr ⟨edit, List.mem_cons_self, same⟩
    · exact Or.inr ⟨edit, List.mem_cons_of_mem _ later, same⟩

theorem Fresh.run (fresh : world.Fresh outlook) (apt : Apt outlook world.log) {turns : List (Turn κ σ)}
    (timely : world.TimelyRun body turns) :
    (world.run body turns).Fresh outlook ∧ Apt outlook (world.run body turns).log := by
  induction turns generalizing world with
  | nil => exact ⟨fresh, apt⟩
  | cons turn turns ih => exact ih (fresh.after outlook turn) (apt.after outlook fresh timely.1) timely.2

end Interleaved

end BioAuth
