import Mathlib.Algebra.Order.Floor.Semiring
import Mathlib.Data.Rat.Floor
import Mathlib.Data.List.Nodup
import Mathlib.Data.List.Perm.Basic
import FitzTs.Lib.Machine
/-!
# FitzTs.Core.TaskGroup

`createTaskGroup` of `core/task-group.ts`: a number of workers, started together and stopped
together.

A worker is named by the run that started it and by its index. One that `start` has made is a task
until the `finally` of its promise has run; before that it is live, as long as an iteration of `run`
is under way. What rejects an iteration reaches the group when the `catch` of its worker runs, and
`resume` is that moment. Whatever `run` does before its first `await` comes after `start` here.

The group keeps the reason that stopped it in `state.error` and looks at the truth of that value to
tell a failure from a stop. A worker may reject with `undefined`, or with any other falsy value:
the group then ends as if it had been stopped, and can be started again.

## Main result

* `taskGroup_sound` — whatever happens, a completion settles once all workers of its run are over,
  no worker is lost or started twice, and a failed group stays failed. The completion of a run
  rejects with just the reason of the worker that failed it exactly if that reason is truthy.
-/

namespace FitzTs.Core

/-- A value that may be thrown. Objects, functions and symbols are told apart by identity. -/
inductive Thrown
  | undefined
  | null
  | boolean (value : Bool)
  | number (value : ℚ)
  | infinity (negative : Bool)
  | nan
  | bigint (value : Int)
  | string (value : String)
  /-- An `Error`, with its `name`. -/
  | error (name : String) (identity : Nat)
  | object (identity : Nat)
  deriving DecidableEq

/-- What a condition makes of it. -/
def Thrown.isTruthy : Thrown → Bool
  | undefined | null | nan => false
  | boolean value => value
  | number value => value ≠ 0
  | bigint value => value ≠ 0
  | string value => value ≠ ""
  | infinity _ | error .. | object _ => true

/-- `isAbortError`. -/
def Thrown.isAbortError : Thrown → Bool
  | error name _ => name = "AbortError"
  | _ => false

inductive TaskGroupStatus
  | idle
  | running
  | stopping
  | stopped
  | failed
  deriving DecidableEq, Repr

inductive TaskGroupErrorPolicy
  | stopGroup
  | restartTask
  | ignore
  deriving DecidableEq, Repr

inductive Concurrency
  | finite (value : ℚ)
  | infinity
  | nan
  deriving DecidableEq

/-- `concurrency < 1`. -/
def Concurrency.isBelowOne : Concurrency → Bool
  | finite value => value < 1
  | infinity | nan => false

/-- How many rounds `for (let index = 0; index < concurrency; index += 1)` has, if it ends. -/
def Concurrency.workers : Concurrency → Option Nat
  | finite value => some ⌈value⌉₊
  | infinity => none
  | nan => some 0

structure TaskGroupOptions where
  concurrency : Concurrency
  errorPolicy : TaskGroupErrorPolicy := .stopGroup
  deriving DecidableEq

/-- A promise made by `createDeferred`. -/
inductive Completion
  | pending
  | resolved
  | rejected (reason : Thrown)
  deriving DecidableEq

/-- A promise settles once. -/
def Completion.settle (outcome : Completion) : Completion → Completion
  | pending => outcome
  | settled => settled

/-- `runWorker(index)`, called by `start` for the `run`th time. -/
structure Worker where
  run : Nat
  index : Nat
  deriving DecidableEq, Repr

structure TaskGroup where
  options : TaskGroupOptions
  status : TaskGroupStatus := .idle
  /-- Whether the controller has aborted. -/
  controller : Option Bool := none
  completion : Option Nat := none
  error : Thrown := .null
  tasks : List Worker := []
  /-- The deferreds made so far. -/
  completions : List Completion := []
  /-- The completion of each run. -/
  runs : List Nat := []
  /-- The workers with an iteration under way. -/
  live : List Worker := []
  /-- The calls of `runWorker` by `start`. -/
  started : List Worker := []
  /-- The workers whose `finally` has run. -/
  finished : List Worker := []
  deriving DecidableEq

/-- `createTaskGroup(options)`. -/
def createTaskGroup (options : TaskGroupOptions) : Except String TaskGroup :=
  if options.concurrency.isBelowOne then .error "TaskGroup concurrency must be at least 1"
  else .ok { options }

/-- How an iteration of `run` ends. -/
inductive Iteration
  | fulfilled
  | rejected (error : Thrown)
  deriving DecidableEq

inductive TaskGroupEvent
  | start
  | stop
  | dispose
  | join
  /-- The iteration of a worker is over, and the worker goes on. -/
  | resume (worker : Worker) (outcome : Iteration)
  /-- The `finally` of a worker that has returned runs. -/
  | finish (worker : Worker)
  deriving DecidableEq

namespace TaskGroup

/-- `ensureCompletion()`. -/
def ensureCompletion (g : TaskGroup) : Nat × TaskGroup :=
  match g.completion with
  | some completion => (completion, g)
  | none => (g.completions.length, { g with
      completion := some g.completions.length
      completions := g.completions ++ [.pending] })

def settle (g : TaskGroup) (completion : Nat) (outcome : Completion) : TaskGroup :=
  { g with completions := g.completions.modify completion outcome.settle }

/-- `complete(error)`. -/
def complete (g : TaskGroup) (error : Thrown) : TaskGroup :=
  let (completion, g) := g.ensureCompletion
  if error ≠ .undefined then
    { g with status := .failed, error }.settle completion (.rejected error)
  else { g with status := .stopped }.settle completion .resolved

/-- `maybeFinish()`. -/
def maybeFinish (g : TaskGroup) : TaskGroup :=
  if g.tasks ≠ [] then g
  else if g.error.isTruthy then g.complete g.error
  else if g.status = .running ∨ g.status = .stopping then g.complete .undefined
  else g

/-- `shouldRestart(error)`. -/
def shouldRestart (g : TaskGroup) (error : Thrown) : Bool :=
  g.options.errorPolicy = .restartTask ∧ g.status = .running ∧ g.controller ≠ some true ∧
    error.isAbortError = false

/-- `handleWorkerError(error)`. -/
def handleWorkerError (g : TaskGroup) (error : Thrown) : TaskGroup :=
  if error.isAbortError then g
  else if g.status = .stopping then g
  else if g.options.errorPolicy = .stopGroup then
    { g with error, status := .stopping, controller := g.controller.map fun _ => true }
  else g

/-- A round of the loop of `runWorker`, up to its call of `run`. -/
def runWorker (g : TaskGroup) (worker : Worker) : TaskGroup :=
  match g.controller with
  | none => g
  | some _ => { g with live := g.live ++ [worker] }

/-- The rest of the round. A worker that does not go on to the next one has returned. -/
def resume (g : TaskGroup) (worker : Worker) (outcome : Iteration) : TaskGroup :=
  let g := { g with live := g.live.erase worker }
  match outcome with
  | .fulfilled => g
  | .rejected error =>
    if error.isAbortError ∨ g.status = .stopping then g
    else
      match g.options.errorPolicy with
      | .stopGroup => g.handleWorkerError error
      | .restartTask => if g.shouldRestart error then g.runWorker worker else g
      | .ignore => g

/-- `track(promise)`. -/
def track (g : TaskGroup) (worker : Worker) : TaskGroup :=
  { g with tasks := g.tasks ++ [worker], started := g.started ++ [worker] }

/-- The callback that `track` gives to `finally`. -/
def finish (g : TaskGroup) (worker : Worker) : TaskGroup :=
  maybeFinish { g with tasks := g.tasks.erase worker, finished := g.finished ++ [worker] }

/-- `start` in a group that may start. -/
def launch (g : TaskGroup) (workers : Nat) : TaskGroup :=
  let previousStatus := g.status
  let g := { g with controller := some false }
  let (completion, g) :=
    if previousStatus = .stopped then { g with completion := none }.ensureCompletion
    else g.ensureCompletion
  let run := g.runs.length
  let g := { g with error := .null, status := .running, runs := g.runs ++ [completion] }
  (List.range workers).foldl (fun g index => (g.runWorker ⟨run, index⟩).track ⟨run, index⟩) g

/-- `start`. `none`: it does not return. -/
def start (g : TaskGroup) : Option (Except String TaskGroup) :=
  if g.status = .running then some (.error "TaskGroup already running")
  else if g.status = .stopping then some (.error "TaskGroup is stopping")
  else if g.status = .failed then some (.error "TaskGroup has failed and cannot be restarted")
  else g.options.concurrency.workers.map fun workers => .ok (g.launch workers)

/-- `stop`, and the completion that its promise follows. -/
def stop (g : TaskGroup) : Option Nat × TaskGroup :=
  match g.status with
  | .idle =>
    let (completion, g) := { g with status := .stopped }.ensureCompletion
    (none, g.settle completion .resolved)
  | .running =>
    let (completion, g) := { g with
      status := .stopping, controller := g.controller.map fun _ => true }.ensureCompletion
    (some completion, g)
  | .stopping | .stopped | .failed =>
    let (completion, g) := g.ensureCompletion
    (some completion, g)

/-- `join`, and the completion that its promise follows. -/
def join (g : TaskGroup) : Nat × TaskGroup := g.ensureCompletion

def step (g : TaskGroup) : TaskGroupEvent → Option TaskGroup
  | .start => g.start.map fun started => started.toOption.getD g
  | .stop | .dispose => some g.stop.2
  | .join => some g.join.2
  | .resume worker outcome => if worker ∈ g.live then some (g.resume worker outcome) else none
  | .finish worker =>
    if worker ∈ g.tasks ∧ worker ∉ g.live then some (g.finish worker) else none

/-- A task group, from `g` on. -/
def machine (g : TaskGroup) : Machine TaskGroup TaskGroupEvent where
  init := g
  step := step

/-- Under `stop-group`, a worker of the run rejects for a reason other than cancellation, before the
group is stopping. -/
def Fails (run : Nat) (reason : Thrown) (g : TaskGroup) (e : TaskGroupEvent) : Prop :=
  g.options.errorPolicy = .stopGroup ∧ g.status = .running ∧ reason.isAbortError = false ∧
    ∃ index, e = .resume ⟨run, index⟩ (.rejected reason)

/-- The workers of `count` runs. -/
def workersOf (g : TaskGroup) (count : Nat) : List Worker :=
  (List.range count).flatMap fun run =>
    (List.range (g.options.concurrency.workers.getD 0)).map fun index => ⟨run, index⟩

/-- What a group keeps to, whatever happens. -/
structure Keeps (g : TaskGroup) : Prop where
  /-- Once a completion has settled, no worker of its run is left. -/
  settled : ∀ (completion : Nat) (outcome : Completion),
    g.completions[completion]? = some outcome → outcome ≠ .pending →
      ∀ worker ∈ g.tasks, g.runs[worker.run]? ≠ some completion
  /-- The completion of a run is pending only as long as it has a worker left. -/
  pending : ∀ (run completion : Nat), g.runs[run]? = some completion →
    g.completions[completion]? = some .pending → 0 < g.options.concurrency.workers.getD 0 →
      ∃ worker ∈ g.tasks, worker.run = run
  /-- While workers run, their completion is the one that `join` and `stop` observe. -/
  observed : g.status = .running ∨ g.status = .stopping → g.completion = g.runs.getLast?
  /-- Each run starts each of its workers once, in order. -/
  started : g.started = g.workersOf g.runs.length
  /-- A worker that was started is either a task or finished. -/
  perm : (g.tasks ++ g.finished).Perm g.started
  live : g.live.Nodup ∧ g.live ⊆ g.tasks
  /-- A completion rejects only as the group fails, for good. -/
  rejected : ∀ (completion : Nat) (reason : Thrown),
    g.completions[completion]? = some (.rejected reason) →
      g.status = .failed ∧ g.runs.getLast? = some completion

/-! ## What a run comes to -/

/-- How the completion of a run settles, after what has failed it. -/
def outcomeOf (failure : Option Thrown) : Completion :=
  match failure with
  | none => .resolved
  | some reason => if reason.isTruthy then .rejected reason else .resolved

theorem outcomeOf_ne_pending (failure : Option Thrown) : outcomeOf failure ≠ .pending := by
  cases failure with
  | none => simp [outcomeOf]
  | some reason => cases hreason : reason.isTruthy <;> simp [outcomeOf, hreason]

theorem outcomeOf_eq_rejected {failure : Option Thrown} {reason : Thrown} :
    outcomeOf failure = .rejected reason ↔ failure = some reason ∧ reason.isTruthy = true := by
  cases failure with
  | none => simp [outcomeOf]
  | some other =>
      cases hother : other.isTruthy with
      | false =>
          simp only [outcomeOf, hother, Bool.false_eq_true, if_false, Option.some.injEq]
          refine iff_of_false (by simp) ?_
          intro h
          rw [← h.1, hother] at h
          exact absurd h.2 (by simp)
      | true =>
          simp only [outcomeOf, hother, if_true, Completion.rejected.injEq, Option.some.injEq]
          refine ⟨fun h => ⟨h, h ▸ hother⟩, And.left⟩

/-- The run is over, and has come to `outcome`. `failed` tells what has failed each run. -/
structure Over (failed : Nat → Thrown → Prop) (completions : List Completion)
    (run completion : Nat) (failure : Option Thrown) : Prop where
  failure_iff : ∀ reason, failed run reason ↔ failure = some reason
  outcome : completions[completion]? = some (outcomeOf failure)

/-- The last run is under way. -/
structure Busy (failed : Nat → Thrown → Prop) (g : TaskGroup) (run completion : Nat)
    (failure : Option Thrown) : Prop where
  length : g.runs.length = run + 1
  getElem : g.runs[run]? = some completion
  observed : g.completion = some completion
  pending : g.completions[completion]? = some .pending
  controller : g.controller.isSome = true
  failure_iff : ∀ reason, failed run reason ↔ failure = some reason
  error : g.error = failure.getD .null
  tasks : 0 < g.options.concurrency.workers.getD 0 → g.tasks ≠ []

/-- What the status stands for. -/
def Phase (failed : Nat → Thrown → Prop) (g : TaskGroup) : Prop :=
  match g.status with
  | .idle => g.runs = [] ∧ ∀ outcome ∈ g.completions, outcome = .pending
  | .running => ∃ run completion, Busy failed g run completion none
  | .stopping => ∃ run completion failure, Busy failed g run completion failure
  | .stopped => g.tasks = [] ∧ g.completion.isSome = true ∧
      ∀ (run completion : Nat), g.runs[run]? = some completion →
        ∃ failure, Over failed g.completions run completion failure ∧ outcomeOf failure = .resolved
  | .failed => g.tasks = [] ∧ g.completion.isSome = true ∧
      ∃ run completion reason, g.runs.length = run + 1 ∧ g.runs[run]? = some completion ∧
        Over failed g.completions run completion (some reason) ∧ reason.isTruthy = true

/-- Where the workers are. -/
structure Attended (g : TaskGroup) : Prop where
  started : g.started = g.workersOf g.runs.length
  perm : (g.tasks ++ g.finished).Perm g.started
  live_nodup : g.live.Nodup
  live_subset : g.live ⊆ g.tasks
  current : ∀ worker ∈ g.tasks, worker.run + 1 = g.runs.length

structure Sound (failed : Nat → Thrown → Prop) (g : TaskGroup) : Prop extends Attended g where
  increasing : g.runs.Pairwise (· < ·)
  runs_lt : ∀ completion ∈ g.runs, completion < g.completions.length
  completion_lt : ∀ completion, g.completion = some completion →
    completion + 1 = g.completions.length
  failed_lt : ∀ run reason, failed run reason → run < g.runs.length
  /-- All runs but the last have resolved. -/
  past : ∀ (run completion : Nat), g.runs[run]? = some completion → run + 1 < g.runs.length →
    ∃ failure, Over failed g.completions run completion failure ∧ outcomeOf failure = .resolved
  /-- A completion of no run is never rejected. -/
  stray : ∀ (completion : Nat) (reason : Thrown),
    g.completions[completion]? = some (.rejected reason) → completion ∈ g.runs
  phase : Phase failed g

variable {g : TaskGroup} {failed : Nat → Thrown → Prop}

theorem ensureCompletion_of_eq_some {completion : Nat} (h : g.completion = some completion) :
    g.ensureCompletion = (completion, g) := by
  simp [ensureCompletion, h]

theorem ensureCompletion_of_eq_none (h : g.completion = none) :
    g.ensureCompletion = (g.completions.length, { g with
      completion := some g.completions.length, completions := g.completions ++ [.pending] }) := by
  simp [ensureCompletion, h]

theorem created_sound (options : TaskGroupOptions) :
    Sound (fun _ _ => False) { options } := by
  refine ⟨⟨by simp [workersOf], by simp, by simp, by simp, by simp⟩, by simp, by simp, by simp,
    by simp, by simp, by simp, ?_⟩
  simp [Phase]

theorem Over.keep {completions completions' : List Completion} {run completion : Nat}
    {failure : Option Thrown} (h : Over failed completions run completion failure)
    (hkept : ∀ outcome, completions[completion]? = some outcome →
      completions'[completion]? = some outcome) : Over failed completions' run completion failure :=
  ⟨h.failure_iff, hkept _ h.outcome⟩

/-- The completion of an earlier run is not that of the last one. -/
theorem Sound.ne_of_past (h : Sound failed g) {run last completion current : Nat}
    (hpast : g.runs[run]? = some completion) (hlast : g.runs[last]? = some current)
    (hlt : run < last) : completion ≠ current := by
  obtain ⟨hrun, rfl⟩ := List.getElem?_eq_some_iff.mp hpast
  obtain ⟨hl, rfl⟩ := List.getElem?_eq_some_iff.mp hlast
  exact Nat.ne_of_lt (List.pairwise_iff_getElem.mp h.increasing run last hrun hl hlt)

/-- Two runs do not share a completion. -/
theorem Sound.run_inj (h : Sound failed g) {run run' completion : Nat}
    (hrun : g.runs[run]? = some completion) (hrun' : g.runs[run']? = some completion) :
    run = run' := by
  rcases Nat.lt_trichotomy run run' with hlt | heq | hlt
  · exact absurd rfl (h.ne_of_past hrun hrun' hlt)
  · exact heq
  · exact absurd rfl (h.ne_of_past hrun' hrun hlt)

/-- Only a group that runs has tasks. -/
theorem Sound.status_of_mem (h : Sound failed g) {worker : Worker} (hmem : worker ∈ g.tasks) :
    ∃ run completion failure, Busy failed g run completion failure ∧
      (g.status = .running ∧ failure = none ∨ g.status = .stopping) := by
  have hphase := h.phase
  have hcurrent := h.current worker hmem
  unfold Phase at hphase
  split at hphase
  case h_1 =>
    rw [hphase.1] at hcurrent
    simp at hcurrent
  case h_2 hstatus =>
    obtain ⟨run, completion, hbusy⟩ := hphase
    exact ⟨run, completion, none, hbusy, Or.inl ⟨hstatus, rfl⟩⟩
  case h_3 hstatus =>
    obtain ⟨run, completion, failure, hbusy⟩ := hphase
    exact ⟨run, completion, failure, hbusy, Or.inr hstatus⟩
  case h_4 => simp [hphase.1] at hmem
  case h_5 => simp [hphase.1] at hmem

/-! ## Start -/

theorem foldl_track (l : List Nat) (run : Nat) (hcontroller : g.controller.isSome = true) :
    l.foldl (fun g index => (g.runWorker ⟨run, index⟩).track ⟨run, index⟩) g =
      { g with
        live := g.live ++ l.map (Worker.mk run)
        tasks := g.tasks ++ l.map (Worker.mk run)
        started := g.started ++ l.map (Worker.mk run) } := by
  induction l generalizing g with
  | nil => simp
  | cons index l ih =>
      have hround : (g.runWorker ⟨run, index⟩).track ⟨run, index⟩ = { g with
          live := g.live ++ [⟨run, index⟩]
          tasks := g.tasks ++ [⟨run, index⟩]
          started := g.started ++ [⟨run, index⟩] } := by
        obtain ⟨aborted, haborted⟩ := Option.isSome_iff_exists.mp hcontroller
        simp [runWorker, haborted, track]
      rw [List.foldl_cons, hround]
      refine (ih (by exact hcontroller)).trans ?_
      simp

/-- What `launch` does, to a completion that is pending. -/
structure Launched (g g' : TaskGroup) (workers completion : Nat) : Prop where
  eq : g' = { g with
    status := .running
    controller := some false
    completion := some completion
    error := .null
    completions := g'.completions
    runs := g.runs ++ [completion]
    live := g.live ++ (List.range workers).map (Worker.mk g.runs.length)
    tasks := g.tasks ++ (List.range workers).map (Worker.mk g.runs.length)
    started := g.started ++ (List.range workers).map (Worker.mk g.runs.length) }
  length : completion + 1 = g'.completions.length
  pending : g'.completions[completion]? = some .pending
  new : ∀ other ∈ g.runs, other < completion
  kept : ∀ (other : Nat) (outcome : Completion), g.completions[other]? = some outcome →
    g'.completions[other]? = some outcome
  source : ∀ (other : Nat) (reason : Thrown), g'.completions[other]? = some (.rejected reason) →
    g.completions[other]? = some (.rejected reason)

/-- A run that makes its own completion. -/
theorem launched_append (h : Sound failed g) (workers : Nat)
    (hlaunch : g.launch workers = (List.range workers).foldl
      (fun group index => (group.runWorker ⟨g.runs.length, index⟩).track ⟨g.runs.length, index⟩)
      { g with
        controller := some false
        completion := some g.completions.length
        completions := g.completions ++ [.pending]
        error := .null
        status := .running
        runs := g.runs ++ [g.completions.length] }) :
    Launched g (g.launch workers) workers g.completions.length := by
  rw [foldl_track _ _ rfl] at hlaunch
  refine ⟨hlaunch.trans (by rw [hlaunch]), by simp [hlaunch], by simp [hlaunch], h.runs_lt, ?_, ?_⟩
  · intro other outcome hother
    obtain ⟨hlt, -⟩ := List.getElem?_eq_some_iff.mp hother
    rw [hlaunch]
    exact (List.getElem?_append_left hlt).trans hother
  · intro other reason hother
    rw [hlaunch] at hother
    dsimp only at hother
    rw [List.getElem?_append] at hother
    split at hother
    · exact hother
    · rw [List.getElem?_singleton] at hother
      split at hother <;> simp at hother

theorem Sound.launched (h : Sound failed g) (workers : Nat)
    (hstatus : g.status = .idle ∨ g.status = .stopped) :
    ∃ completion, Launched g (g.launch workers) workers completion := by
  rcases hstatus with hstatus | hstatus
  · have hphase := h.phase
    simp only [Phase, hstatus] at hphase
    obtain ⟨hruns, hpending⟩ := hphase
    cases hcompletion : g.completion with
    | none =>
        refine ⟨_, launched_append h workers ?_⟩
        simp [launch, hstatus, ensureCompletion, hcompletion]
    | some completion =>
        -- the one that a `join` has made before
        have hlength := h.completion_lt completion hcompletion
        have hlaunch : g.launch workers = (List.range workers).foldl
            (fun group index =>
              (group.runWorker ⟨g.runs.length, index⟩).track ⟨g.runs.length, index⟩)
            { g with
              controller := some false
              error := .null
              status := .running
              runs := g.runs ++ [completion] } := by
          simp [launch, hstatus, ensureCompletion, hcompletion]
        rw [foldl_track _ _ rfl] at hlaunch
        have hlt : completion < g.completions.length := by omega
        refine ⟨completion, hlaunch.trans (by rw [hlaunch, hcompletion]), ?_, ?_, by simp [hruns],
          ?_, ?_⟩
        · rw [hlaunch]
          exact hlength
        · rw [hlaunch]
          refine List.getElem?_eq_some_iff.mpr ⟨hlt, ?_⟩
          exact hpending _ (List.getElem_mem hlt)
        · rw [hlaunch]
          exact fun _ _ => id
        · rw [hlaunch]
          exact fun _ _ => id
  · refine ⟨_, launched_append h workers ?_⟩
    simp [launch, hstatus, ensureCompletion]

/-- All runs of a group that may start have resolved, and no worker is left. -/
theorem Sound.resting (h : Sound failed g) (hstatus : g.status = .idle ∨ g.status = .stopped) :
    g.tasks = [] ∧ ∀ (run completion : Nat), g.runs[run]? = some completion →
      ∃ failure, Over failed g.completions run completion failure ∧
        outcomeOf failure = .resolved := by
  have hphase := h.phase
  rcases hstatus with hstatus | hstatus
  · simp only [Phase, hstatus] at hphase
    refine ⟨List.eq_nil_iff_forall_not_mem.mpr fun worker hmem => ?_, by simp [hphase.1]⟩
    have hcurrent := h.current worker hmem
    rw [hphase.1] at hcurrent
    simp at hcurrent
  · simp only [Phase, hstatus] at hphase
    exact ⟨hphase.1, hphase.2.2⟩

theorem mem_newWorkers {run workers : Nat} {worker : Worker}
    (h : worker ∈ (List.range workers).map (Worker.mk run)) : worker.run = run := by
  obtain ⟨index, -, rfl⟩ := List.mem_map.mp h
  rfl

theorem workersOf_succ (count : Nat) : g.workersOf (count + 1) = g.workersOf count ++
    (List.range (g.options.concurrency.workers.getD 0)).map (Worker.mk count) := by
  simp [workersOf, List.range_succ]

theorem Sound.launch (h : Sound failed g) {workers : Nat}
    (hstatus : g.status = .idle ∨ g.status = .stopped)
    (hworkers : g.options.concurrency.workers = some workers) :
    Sound failed (g.launch workers) := by
  obtain ⟨completion, hlaunched⟩ := h.launched workers hstatus
  obtain ⟨htasks, hover⟩ := h.resting hstatus
  have hlive : g.live = [] := List.subset_nil.mp (htasks ▸ h.live_subset)
  generalize g.launch workers = g' at hlaunched ⊢
  -- the completion of the run is a new one, unless one is pending that nobody settled
  obtain ⟨heq, hlength, hpending, hnew, hkept, hsource⟩ := hlaunched
  generalize g'.completions = completions at *
  subst heq
  have hcount : g.options.concurrency.workers.getD 0 = workers := by simp [hworkers]
  have hnone : ∀ reason, ¬ failed g.runs.length reason :=
    fun reason hfailed => Nat.lt_irrefl _ (h.failed_lt _ _ hfailed)
  have hold : ∀ (run other : Nat), (g.runs ++ [completion])[run]? = some other →
      run + 1 < g.runs.length + 1 → g.runs[run]? = some other := by
    intro run other hrun hlt
    rwa [List.getElem?_append_left (Nat.lt_of_succ_lt_succ hlt)] at hrun
  refine ⟨⟨?_, ?_, ?_, ?_, ?_⟩, ?_, ?_, ?_, ?_, ?_, ?_, ?_⟩
  · change g.started ++ _ = g.workersOf (g.runs ++ [completion]).length
    rw [List.length_append, List.length_singleton, workersOf_succ, h.started, hcount]
  · have hperm := h.perm
    rw [htasks, List.nil_append] at hperm
    rw [htasks, List.nil_append]
    exact List.perm_append_comm.trans (hperm.append_right _)
  · rw [hlive, List.nil_append]
    exact List.Nodup.map (fun _ _ heq => congrArg Worker.index heq) List.nodup_range
  · rw [hlive, htasks]
    exact List.Subset.refl _
  · intro worker hmem
    rw [htasks, List.nil_append] at hmem
    simp [mem_newWorkers hmem]
  · refine List.pairwise_append.mpr ⟨h.increasing, List.pairwise_singleton .., ?_⟩
    intro other hother last hlast
    exact List.mem_singleton.mp hlast ▸ hnew other hother
  · intro other hother
    rcases List.mem_append.mp hother with hother | hother
    · have := hnew other hother
      exact hlength ▸ Nat.lt_succ_of_lt this
    · obtain rfl := List.mem_singleton.mp hother
      exact Nat.lt_of_succ_le hlength.le
  · intro other hother
    exact Option.some.inj hother ▸ hlength
  · intro run reason hfailed
    simpa using Nat.lt_succ_of_lt (h.failed_lt run reason hfailed)
  · intro run other hrun hlt
    -- the runs before are over, and their completions stay as they are
    obtain ⟨failure, hrunOver, hresolved⟩ :=
      hover run other (hold run other hrun (by simpa using hlt))
    exact ⟨failure, hrunOver.keep (hkept other), hresolved⟩
  · intro other reason hother
    exact List.mem_append_left _ (h.stray other reason (hsource other reason hother))
  · refine ⟨g.runs.length, completion, by simp, by simp, rfl, hpending, rfl,
      fun reason => iff_of_false (hnone reason) (by simp), rfl, ?_⟩
    intro hpos
    have hworker : (⟨g.runs.length, 0⟩ : Worker) ∈
        g.tasks ++ (List.range workers).map (Worker.mk g.runs.length) :=
      List.mem_append_right _ (List.mem_map_of_mem (List.mem_range.mpr (hcount ▸ hpos)))
    exact List.ne_nil_of_mem hworker

theorem start_eq_some {started : Except String TaskGroup} (h : g.start = some started) :
    (∃ message, started = .error message) ∨
      (g.status = .idle ∨ g.status = .stopped) ∧
        ∃ workers, g.options.concurrency.workers = some workers ∧
          started = .ok (g.launch workers) := by
  unfold start at h
  cases hstatus : g.status with
  | running =>
      simp only [hstatus, if_true] at h
      exact Or.inl ⟨_, (Option.some.inj h).symm⟩
  | stopping =>
      simp only [hstatus, reduceCtorEq, if_false, if_true] at h
      exact Or.inl ⟨_, (Option.some.inj h).symm⟩
  | failed =>
      simp only [hstatus, reduceCtorEq, if_false, if_true] at h
      exact Or.inl ⟨_, (Option.some.inj h).symm⟩
  | idle | stopped =>
      simp only [hstatus, reduceCtorEq, if_false] at h
      obtain ⟨workers, hworkers, rfl⟩ := Option.map_eq_some_iff.mp h
      exact Or.inr ⟨by simp, workers, hworkers, rfl⟩

theorem Sound.start (h : Sound failed g) {started : Except String TaskGroup}
    (hstart : g.start = some started) : Sound failed (started.toOption.getD g) := by
  rcases start_eq_some hstart with ⟨message, rfl⟩ | ⟨hstatus, workers, hworkers, rfl⟩
  · exact h
  · exact h.launch hstatus hworkers

/-! ## Stop and join -/

/-- What a call of `join` or `stop` may do to a group that does not run: make a completion. -/
theorem Sound.idle (h : Sound failed g) (hstatus : g.status = .idle) {completion : Nat}
    {completions : List Completion} {status : TaskGroupStatus}
    (hlength : completion + 1 = completions.length)
    (hnew : status = .idle ∧ (∀ outcome ∈ completions, outcome = .pending) ∨
      status = .stopped ∧ ∀ outcome ∈ completions, outcome = .pending ∨ outcome = .resolved) :
    Sound failed { g with status, completion := some completion, completions } := by
  have htasks := (h.resting (Or.inl hstatus)).1
  have hphase := h.phase
  simp only [Phase, hstatus] at hphase
  obtain ⟨hruns, -⟩ := hphase
  refine ⟨{ h.toAttended with }, h.increasing, by simp [hruns], ?_, h.failed_lt, by simp [hruns],
    ?_, ?_⟩
  · intro other hother
    exact Option.some.inj hother ▸ hlength
  · intro other reason hother
    have hmem := List.mem_of_getElem? hother
    rcases hnew with ⟨-, hall⟩ | ⟨-, hall⟩ <;> simpa using hall _ hmem
  · rcases hnew with ⟨rfl, hall⟩ | ⟨rfl, -⟩
    · exact ⟨hruns, hall⟩
    · exact ⟨htasks, rfl, by simp [hruns]⟩

/-- Only in an idle group there may be no completion yet. -/
theorem Sound.completion_isSome (h : Sound failed g) (hstatus : g.status ≠ .idle) :
    g.completion.isSome = true := by
  have hphase := h.phase
  unfold Phase at hphase
  split at hphase
  case h_1 hidle => exact absurd hidle hstatus
  case h_2 =>
    obtain ⟨_, _, hbusy⟩ := hphase
    simp [hbusy.observed]
  case h_3 =>
    obtain ⟨_, _, _, hbusy⟩ := hphase
    simp [hbusy.observed]
  case h_4 => exact hphase.2.1
  case h_5 => exact hphase.2.1

/-- What there is of completions where none has settled. -/
theorem ensureCompletion_of_pending
    (hlength : ∀ completion, g.completion = some completion → completion + 1 = g.completions.length)
    (hall : ∀ outcome ∈ g.completions, outcome = .pending) :
    ∃ completion completions, g.ensureCompletion =
        (completion, { g with completion := some completion, completions }) ∧
      completion + 1 = completions.length ∧ ∀ outcome ∈ completions, outcome = .pending := by
  cases hcompletion : g.completion with
  | none =>
      refine ⟨_, _, ensureCompletion_of_eq_none hcompletion, by simp, ?_⟩
      intro outcome hmem
      rcases List.mem_append.mp hmem with hmem | hmem
      · exact hall outcome hmem
      · exact List.mem_singleton.mp hmem
  | some completion =>
      refine ⟨completion, g.completions, ?_, hlength completion hcompletion, hall⟩
      rw [ensureCompletion_of_eq_some hcompletion, ← hcompletion]

theorem Sound.join (h : Sound failed g) : Sound failed g.join.2 := by
  unfold TaskGroup.join
  by_cases hstatus : g.status = .idle
  · have hphase := h.phase
    simp only [Phase, hstatus] at hphase
    obtain ⟨completion, completions, heq, hlength, hall⟩ :=
      ensureCompletion_of_pending h.completion_lt hphase.2
    have hidle := h.idle hstatus hlength (Or.inl ⟨rfl, hall⟩)
    rw [heq]
    rwa [← hstatus] at hidle
  · obtain ⟨completion, hcompletion⟩ := Option.isSome_iff_exists.mp (h.completion_isSome hstatus)
    rwa [ensureCompletion_of_eq_some hcompletion]

/-- A run that has not failed is told to stop. -/
theorem Sound.stopping (h : Sound failed g) (hstatus : g.status = .running) :
    Sound failed { g with
      status := .stopping, controller := g.controller.map fun _ => true } := by
  have hphase := h.phase
  simp only [Phase, hstatus] at hphase
  obtain ⟨run, completion, hbusy⟩ := hphase
  refine { h with phase := ?_ }
  exact ⟨run, completion, none, { hbusy with controller := by simp [hbusy.controller] }⟩

theorem Sound.stop (h : Sound failed g) : Sound failed g.stop.2 := by
  unfold TaskGroup.stop
  split
  case h_1 hstatus =>
    have hphase := h.phase
    simp only [Phase, hstatus] at hphase
    obtain ⟨completion, completions, heq, hlength, hall⟩ :=
      ensureCompletion_of_pending (g := { g with status := .stopped }) h.completion_lt hphase.2
    rw [heq]
    refine h.idle hstatus (by simpa using hlength) (Or.inr ⟨rfl, fun outcome hmem => ?_⟩)
    obtain ⟨i, hi, rfl⟩ := List.mem_iff_getElem.mp hmem
    rw [List.getElem_modify]
    split
    · rw [hall _ (List.getElem_mem _)]
      exact Or.inr rfl
    · exact Or.inl (hall _ (List.getElem_mem _))
  case h_2 hstatus =>
    have hstopping := h.stopping hstatus
    obtain ⟨completion, hcompletion⟩ :=
      Option.isSome_iff_exists.mp (hstopping.completion_isSome (by simp))
    rwa [ensureCompletion_of_eq_some hcompletion]
  all_goals
    rename_i hstatus
    obtain ⟨completion, hcompletion⟩ :=
      Option.isSome_iff_exists.mp (h.completion_isSome (by simp [hstatus]))
    rwa [ensureCompletion_of_eq_some hcompletion]

/-! ## Workers -/

theorem Phase.of_live {live : List Worker} (h : Phase failed g) :
    Phase failed { g with live } := by
  unfold Phase at h ⊢
  cases hstatus : g.status with
  | idle | stopped | failed => simpa only [hstatus] using h
  | running =>
      simp only [hstatus] at h ⊢
      obtain ⟨run, completion, hbusy⟩ := h
      exact ⟨run, completion, { hbusy with tasks := hbusy.tasks }⟩
  | stopping =>
      simp only [hstatus] at h ⊢
      obtain ⟨run, completion, failure, hbusy⟩ := h
      exact ⟨run, completion, failure, { hbusy with tasks := hbusy.tasks }⟩

theorem Sound.of_live (h : Sound failed g) {live : List Worker} (hnodup : live.Nodup)
    (hsubset : live ⊆ g.tasks) : Sound failed { g with live } :=
  { h with live_nodup := hnodup, live_subset := hsubset, phase := h.phase.of_live }

theorem Sound.congr {failed' : Nat → Thrown → Prop} (h : Sound failed g)
    (hfailed : ∀ run reason, failed' run reason ↔ failed run reason) : Sound failed' g := by
  have heq : failed' = failed := funext fun run => funext fun reason => propext (hfailed run reason)
  exact heq ▸ h

/-- A worker of the run fails the group. -/
theorem Sound.fail (h : Sound failed g) {worker : Worker} (hmem : worker ∈ g.tasks)
    (hstatus : g.status = .running) (error : Thrown) :
    Sound (fun run reason => failed run reason ∨ run = worker.run ∧ reason = error) { g with
      error, status := .stopping, controller := g.controller.map fun _ => true } := by
  have hphase := h.phase
  simp only [Phase, hstatus] at hphase
  obtain ⟨run, completion, hbusy⟩ := hphase
  have hcurrent : worker.run = run :=
    Nat.succ_injective ((h.current worker hmem).trans hbusy.length)
  refine { h with failed_lt := ?_, past := ?_, phase := ?_ }
  · rintro run' reason (hfailed | ⟨rfl, -⟩)
    · exact h.failed_lt run' reason hfailed
    · exact Nat.lt_of_succ_le (h.current worker hmem).le
  · intro run' completion' hrun hlt
    obtain ⟨failure, hover, hresolved⟩ := h.past run' completion' hrun hlt
    refine ⟨failure, ⟨fun reason => ?_, hover.outcome⟩, hresolved⟩
    have hne : run' ≠ worker.run := by
      rintro rfl
      exact Nat.lt_irrefl _ ((h.current worker hmem).symm ▸ hlt)
    simp [hover.failure_iff, hne]
  · refine ⟨run, completion, some error, hbusy.length, hbusy.getElem, hbusy.observed,
      hbusy.pending, by simp [hbusy.controller], fun reason => ?_, rfl, hbusy.tasks⟩
    simp [hbusy.failure_iff, hcurrent, eq_comm]

/-- A worker goes round again. -/
theorem Sound.runWorker (h : Sound failed g) {worker : Worker} (hmem : worker ∈ g.tasks)
    (hnew : worker ∉ g.live) : Sound failed (g.runWorker worker) := by
  unfold TaskGroup.runWorker
  split
  · exact h
  · refine h.of_live ?_ ?_
    · refine List.nodup_append.mpr ⟨h.live_nodup, List.nodup_singleton _, ?_⟩
      rintro other hother _ hagain rfl
      exact hnew (List.mem_singleton.mp hagain ▸ hother)
    · intro other hother
      rcases List.mem_append.mp hother with hother | hother
      · exact h.live_subset hother
      · exact List.mem_singleton.mp hother ▸ hmem

/-- A worker that has not settled starts its next iteration, or has returned. -/
theorem Sound.resume (h : Sound failed g) {worker : Worker} (hlive : worker ∈ g.live)
    (outcome : Iteration) :
    Sound (fun run reason => failed run reason ∨ Fails run reason g (.resume worker outcome))
      (g.resume worker outcome) := by
  have hmem := h.live_subset hlive
  have herase : Sound failed { g with live := g.live.erase worker } :=
    h.of_live (h.live_nodup.erase worker) fun _ hother =>
      h.live_subset (List.mem_of_mem_erase hother)
  cases outcome with
  | fulfilled => exact herase.congr fun run reason => by simp [Fails]
  | rejected error =>
      unfold TaskGroup.resume
      dsimp only
      split
      -- the group no longer listens to what its workers throw
      case isTrue hover =>
        refine herase.congr fun run reason => or_iff_left ?_
        rintro ⟨-, hrunning, habort, index, heq⟩
        obtain rfl : error = reason := by simpa using (TaskGroupEvent.resume.inj heq).2
        rcases hover with hover | hover
        · exact absurd hover (by simp [habort])
        · exact absurd (hover.symm.trans hrunning) (by simp)
      case isFalse hgo =>
        rw [not_or, Bool.not_eq_true] at hgo
        obtain ⟨habort, hstopping⟩ := hgo
        have hrunning : g.status = .running := by
          obtain ⟨_, _, _, -, ⟨hrunning, -⟩ | hstatus⟩ := h.status_of_mem hmem
          · exact hrunning
          · exact absurd hstatus hstopping
        split
        -- `stopGroup`: the error is noted for the completion
        case h_1 hpolicy =>
          have hhandle :
              ({ g with live := g.live.erase worker } : TaskGroup).handleWorkerError error =
              { g with
                live := g.live.erase worker, error, status := .stopping
                controller := g.controller.map fun _ => true } := by
            simp [handleWorkerError, habort, hrunning, hpolicy]
          rw [hhandle]
          refine (herase.fail hmem hrunning error).congr fun run reason => or_congr_right ?_
          constructor
          · rintro ⟨-, -, -, index, heq⟩
            obtain ⟨hworker, hreason⟩ := TaskGroupEvent.resume.inj heq
            exact ⟨by rw [hworker], (Iteration.rejected.inj hreason).symm⟩
          · rintro ⟨rfl, rfl⟩
            exact ⟨hpolicy, hrunning, habort, worker.index, rfl⟩
        -- `restartTask`: the worker starts its next iteration, if it should
        case h_2 hpolicy =>
          have hnone : ∀ run reason, ¬ Fails run reason g (.resume worker (.rejected error)) := by
            intro run reason hfails
            exact absurd (hpolicy.symm.trans hfails.1) (by simp)
          split
          case isTrue =>
            exact (herase.runWorker hmem h.live_nodup.not_mem_erase).congr fun run reason =>
              or_iff_left (hnone run reason)
          case isFalse => exact herase.congr fun run reason => or_iff_left (hnone run reason)
        -- `ignore`: the worker returns
        case h_3 hpolicy =>
          refine herase.congr fun run reason => or_iff_left ?_
          intro hfails
          exact absurd (hpolicy.symm.trans hfails.1) (by simp)

theorem complete_of_eq_some {completion : Nat} (hcompletion : g.completion = some completion)
    (error : Thrown) : g.complete error =
      if error ≠ .undefined then
        { g with status := .failed, error }.settle completion (.rejected error)
      else { g with status := .stopped }.settle completion .resolved := by
  simp [complete, ensureCompletion_of_eq_some hcompletion]

theorem getElem?_settle_self {completion : Nat} (outcome : Completion)
    (hpending : g.completions[completion]? = some .pending) :
    (g.settle completion outcome).completions[completion]? = some outcome := by
  simp [settle, hpending, Completion.settle]

theorem getElem?_settle_of_ne {completion other : Nat} (outcome : Completion)
    (hne : completion ≠ other) :
    (g.settle completion outcome).completions[other]? = g.completions[other]? := by
  simp [settle, hne]

theorem Attended.finish (h : Attended g) {worker : Worker} (hmem : worker ∈ g.tasks)
    (hlive : worker ∉ g.live) : Attended { g with
      tasks := g.tasks.erase worker, finished := g.finished ++ [worker] } where
  started := h.started
  perm := by
    refine List.Perm.trans ?_ h.perm
    have hperm : g.tasks.Perm (worker :: g.tasks.erase worker) := List.perm_cons_erase hmem
    refine List.Perm.trans ?_ (hperm.append_right g.finished).symm
    rw [← List.append_assoc, List.cons_append]
    exact List.perm_append_singleton worker _
  live_nodup := h.live_nodup
  live_subset := fun other hother => by
    have hne : other ≠ worker := fun heq => hlive (heq ▸ hother)
    exact (List.mem_erase_of_ne hne).mpr (h.live_subset hother)
  current := fun other hother => h.current other (List.mem_of_mem_erase hother)

/-- The last worker of a run is over. -/
theorem Sound.settled {run completion : Nat} {failure : Option Thrown} {error : Thrown}
    {status : TaskGroupStatus} {finished : List Worker} (h : Sound failed g)
    (hbusy : Busy failed g run completion failure)
    (hattended : Attended { g with tasks := [], finished })
    (hstatus : status = .stopped ∧ outcomeOf failure = .resolved ∨
      status = .failed ∧ ∃ reason, failure = some reason ∧ reason.isTruthy = true) :
    Sound failed (settle { g with tasks := [], finished, status, error } completion
      (outcomeOf failure)) := by
  have hlength : ∀ outcome, (g.completions.modify completion outcome).length =
      g.completions.length := fun outcome => List.length_modify ..
  have hself : (settle { g with tasks := [], finished, status, error } completion
      (outcomeOf failure)).completions[completion]? = some (outcomeOf failure) :=
    getElem?_settle_self _ hbusy.pending
  have hother : ∀ other, completion ≠ other →
      (settle { g with tasks := [], finished, status, error } completion
        (outcomeOf failure)).completions[other]? = g.completions[other]? :=
    fun other hne => getElem?_settle_of_ne _ hne
  have hlast : Over failed (settle { g with tasks := [], finished, status, error } completion
      (outcomeOf failure)).completions run completion failure := ⟨hbusy.failure_iff, hself⟩
  -- the completions of the runs before are not touched
  have hpast : ∀ (run' completion' : Nat), g.runs[run']? = some completion' →
      run' + 1 < g.runs.length → ∃ failure', Over failed
        (settle { g with tasks := [], finished, status, error } completion
          (outcomeOf failure)).completions run' completion' failure' ∧
        outcomeOf failure' = .resolved := by
    intro run' completion' hrun hlt
    obtain ⟨failure', hover, hresolved⟩ := h.past run' completion' hrun hlt
    have hlt' : run' < run := by
      rw [hbusy.length] at hlt
      exact Nat.lt_of_succ_lt_succ hlt
    have hne := h.ne_of_past hrun hbusy.getElem hlt'
    exact ⟨failure', hover.keep fun outcome houtcome => by rwa [hother _ hne.symm], hresolved⟩
  refine ⟨{ hattended with }, h.increasing, ?_, ?_, h.failed_lt, hpast, ?_, ?_⟩
  · intro other hmem
    exact (h.runs_lt other hmem).trans_eq (hlength _).symm
  · intro other hobserved
    exact (h.completion_lt other hobserved).trans (hlength _).symm
  · intro other reason hrejected
    by_cases heq : completion = other
    · exact heq ▸ List.mem_of_getElem? hbusy.getElem
    · exact h.stray other reason (hother other heq ▸ hrejected)
  · rcases hstatus with ⟨rfl, hresolved⟩ | ⟨rfl, reason, rfl, htruthy⟩
    · refine ⟨rfl, Option.isSome_of_eq_some hbusy.observed, fun run' completion' hrun => ?_⟩
      have hrunLt : run' < g.runs.length := (List.getElem?_eq_some_iff.mp hrun).1
      by_cases heq : run' = run
      · subst heq
        obtain rfl := Option.some.inj (hrun.symm.trans hbusy.getElem)
        exact ⟨failure, hlast, hresolved⟩
      · refine hpast run' completion' hrun ?_
        have hlength := hbusy.length
        omega
    · exact ⟨rfl, Option.isSome_of_eq_some hbusy.observed, run, completion, reason, hbusy.length,
        hbusy.getElem, hlast, htruthy⟩

theorem Sound.finish (h : Sound failed g) {worker : Worker} (hmem : worker ∈ g.tasks)
    (hlive : worker ∉ g.live) : Sound failed (g.finish worker) := by
  have hattended := h.toAttended.finish hmem hlive
  obtain ⟨run, completion, failure, hbusy, hstatus⟩ := h.status_of_mem hmem
  unfold TaskGroup.finish maybeFinish
  by_cases htasks : g.tasks.erase worker = []
  · rw [htasks] at hattended ⊢
    simp only [ne_eq, not_true_eq_false, if_false]
    have herror : g.error = failure.getD .null := hbusy.error
    split
    case isTrue htruthy =>
      -- `null` is not truthy, so a worker has failed the run
      obtain ⟨reason, rfl⟩ : ∃ reason, failure = some reason := by
        cases failure with
        | none =>
            rw [herror] at htruthy
            exact absurd htruthy (by simp [Thrown.isTruthy])
        | some reason => exact ⟨reason, rfl⟩
      obtain rfl : g.error = reason := herror
      have hne : g.error ≠ .undefined := by
        intro heq
        rw [heq] at htruthy
        exact absurd htruthy (by simp [Thrown.isTruthy])
      have hsettled : Sound failed (settle (({ g with
          tasks := [], finished := g.finished ++ [worker], status := .failed }) : TaskGroup)
            completion (outcomeOf (some g.error))) :=
        h.settled hbusy hattended (Or.inr ⟨rfl, g.error, rfl, htruthy⟩)
      rw [complete_of_eq_some (g := { g with tasks := [], finished := g.finished ++ [worker] })
        hbusy.observed, if_pos hne]
      simpa only [outcomeOf, htruthy, if_true] using hsettled
    case isFalse hfalsy =>
      have hresolved : outcomeOf failure = .resolved := by
        cases failure with
        | none => rfl
        | some reason =>
            obtain rfl : g.error = reason := herror
            simp [outcomeOf, hfalsy]
      have hactive : g.status = .running ∨ g.status = .stopping := by
        rcases hstatus with ⟨hrunning, -⟩ | hstopping
        · exact Or.inl hrunning
        · exact Or.inr hstopping
      have hsettled : Sound failed (settle (({ g with
          tasks := [], finished := g.finished ++ [worker], status := .stopped }) : TaskGroup)
            completion (outcomeOf failure)) :=
        h.settled hbusy hattended (Or.inl ⟨rfl, hresolved⟩)
      rw [if_pos hactive, complete_of_eq_some
        (g := { g with tasks := [], finished := g.finished ++ [worker] }) hbusy.observed,
        if_neg (not_not_intro rfl)]
      rwa [hresolved] at hsettled
  · simp only [ne_eq, htasks, not_false_eq_true, if_true]
    refine { h with toAttended := hattended, phase := ?_ }
    rcases hstatus with ⟨hrunning, rfl⟩ | hstopping
    · simp only [Phase, hrunning]
      exact ⟨run, completion, { hbusy with tasks := fun _ => htasks }⟩
    · simp only [Phase, hstopping]
      exact ⟨run, completion, failure, { hbusy with tasks := fun _ => htasks }⟩

/-- One step. -/
theorem Sound.step (h : Sound failed g) {g' : TaskGroup} {e : TaskGroupEvent}
    (hs : g.step e = some g') :
    Sound (fun run reason => failed run reason ∨ Fails run reason g e) g' := by
  cases e with
  | start =>
      obtain ⟨started, hstarted, rfl⟩ := Option.map_eq_some_iff.mp hs
      exact (h.start hstarted).congr fun run reason => by simp [Fails]
  | stop | dispose => exact Option.some.inj hs ▸ h.stop.congr fun run reason => by simp [Fails]
  | join => exact Option.some.inj hs ▸ h.join.congr fun run reason => by simp [Fails]
  | resume worker outcome =>
      obtain ⟨hlive, heq⟩ := Option.ite_none_right_eq_some.mp hs
      exact Option.some.inj heq ▸ h.resume hlive outcome
  | finish worker =>
      obtain ⟨⟨hmem, hlive⟩, heq⟩ := Option.ite_none_right_eq_some.mp hs
      exact Option.some.inj heq ▸ (h.finish hmem hlive).congr fun run reason => by simp [Fails]

/-! ## What holds of every run -/

/-- A run is under way, or over. -/
theorem Sound.run_cases (h : Sound failed g) {run completion : Nat}
    (hrun : g.runs[run]? = some completion) :
    (∃ failure, Busy failed g run completion failure) ∨
      ∃ failure, Over failed g.completions run completion failure ∧
        (outcomeOf failure = .resolved ∨ g.status = .failed ∧ g.runs.length = run + 1) := by
  have hlt : run < g.runs.length := (List.getElem?_eq_some_iff.mp hrun).1
  -- a run before the last is over
  by_cases hpast : run + 1 < g.runs.length
  · obtain ⟨failure, hover, hresolved⟩ := h.past run completion hrun hpast
    exact Or.inr ⟨failure, hover, Or.inl hresolved⟩
  have hlast : ∀ last current, g.runs.length = last + 1 → g.runs[last]? = some current →
      last = run ∧ current = completion := by
    intro last current hlength hcurrent
    obtain rfl : last = run := by omega
    exact ⟨rfl, Option.some.inj (hcurrent.symm.trans hrun)⟩
  have hphase := h.phase
  unfold Phase at hphase
  split at hphase
  case h_1 =>
    rw [hphase.1] at hrun
    simp at hrun
  case h_2 =>
    obtain ⟨last, current, hbusy⟩ := hphase
    obtain ⟨rfl, rfl⟩ := hlast last current hbusy.length hbusy.getElem
    exact Or.inl ⟨none, hbusy⟩
  case h_3 =>
    obtain ⟨last, current, failure, hbusy⟩ := hphase
    obtain ⟨rfl, rfl⟩ := hlast last current hbusy.length hbusy.getElem
    exact Or.inl ⟨failure, hbusy⟩
  case h_4 =>
    obtain ⟨failure, hover, hresolved⟩ := hphase.2.2 run completion hrun
    exact Or.inr ⟨failure, hover, Or.inl hresolved⟩
  case h_5 hstatus =>
    obtain ⟨-, -, last, current, reason, hlength, hcurrent, hover, -⟩ := hphase
    obtain ⟨rfl, rfl⟩ := hlast last current hlength hcurrent
    exact Or.inr ⟨some reason, hover, Or.inr ⟨hstatus, hlength⟩⟩

/-- A run whose completion has settled is over. -/
theorem Sound.over (h : Sound failed g) {run completion : Nat}
    (hrun : g.runs[run]? = some completion)
    (hsettled : g.completions[completion]? ≠ some .pending) :
    ∃ failure, Over failed g.completions run completion failure := by
  rcases h.run_cases hrun with ⟨failure, hbusy⟩ | ⟨failure, hover, -⟩
  · exact absurd hbusy.pending hsettled
  · exact ⟨failure, hover⟩

/-- What is rejected belongs to the last run, and the group has failed. -/
theorem Sound.rejected (h : Sound failed g) {completion : Nat} {reason : Thrown}
    (hrejected : g.completions[completion]? = some (.rejected reason)) :
    g.status = .failed ∧ g.runs.getLast? = some completion := by
  obtain ⟨run, hrun⟩ := List.getElem?_of_mem (h.stray completion reason hrejected)
  rcases h.run_cases hrun with ⟨failure, hbusy⟩ | ⟨failure, hover, hresolved | ⟨hstatus, hlength⟩⟩
  · exact absurd (hrejected.symm.trans hbusy.pending) (by simp)
  · have heq := hrejected.symm.trans hover.outcome
    rw [hresolved] at heq
    exact absurd heq (by simp)
  · refine ⟨hstatus, ?_⟩
    rw [List.getLast?_eq_getElem?, hlength, Nat.add_sub_cancel, hrun]

theorem Sound.worker_run (h : Sound failed g) {run completion : Nat} {failure : Option Thrown}
    (hbusy : Busy failed g run completion failure) {worker : Worker} (hmem : worker ∈ g.tasks) :
    worker.run = run :=
  Nat.succ_injective ((h.current worker hmem).trans hbusy.length)

theorem Sound.keeps (h : Sound failed g) : g.Keeps where
  settled := by
    intro completion outcome houtcome hsettled worker hmem hrun
    obtain ⟨run, current, failure, hbusy, -⟩ := h.status_of_mem hmem
    obtain rfl : completion = current := by
      rw [h.worker_run hbusy hmem, hbusy.getElem] at hrun
      exact (Option.some.inj hrun).symm
    exact hsettled (Option.some.inj (houtcome.symm.trans hbusy.pending))
  pending := by
    intro run completion hrun hpending hpos
    rcases h.run_cases hrun with ⟨failure, hbusy⟩ | ⟨failure, hover, -⟩
    · obtain ⟨worker, hmem⟩ := List.exists_mem_of_ne_nil _ (hbusy.tasks hpos)
      exact ⟨worker, hmem, h.worker_run hbusy hmem⟩
    · exact absurd (Option.some.inj (hover.outcome.symm.trans hpending))
        (outcomeOf_ne_pending failure)
  observed := by
    have hbusy : ∀ {run completion : Nat} {failure : Option Thrown},
        Busy failed g run completion failure → g.completion = g.runs.getLast? := by
      intro run completion failure hbusy
      rw [List.getLast?_eq_getElem?, hbusy.length, Nat.add_sub_cancel, hbusy.getElem,
        hbusy.observed]
    have hphase := h.phase
    rintro (hstatus | hstatus) <;> simp only [Phase, hstatus] at hphase
    · obtain ⟨run, completion, hrun⟩ := hphase
      exact hbusy hrun
    · obtain ⟨run, completion, failure, hrun⟩ := hphase
      exact hbusy hrun
  started := h.started
  perm := h.perm
  live := ⟨h.live_nodup, h.live_subset⟩
  rejected := fun completion reason => h.rejected

/-- A completion that has settled tells what failed its run exactly if that is truthy. -/
theorem Sound.rejected_iff (h : Sound failed g) {completion : Nat} {outcome : Completion}
    (houtcome : g.completions[completion]? = some outcome) (hsettled : outcome ≠ .pending) :
    (∀ reason, outcome = .rejected reason ↔
        ∃ run, g.runs[run]? = some completion ∧ failed run reason) ↔
      ∀ run reason, g.runs[run]? = some completion → failed run reason →
        reason.isTruthy = true := by
  -- a completion belongs to one run at most
  by_cases hmem : completion ∈ g.runs
  · obtain ⟨run, hrun⟩ := List.getElem?_of_mem hmem
    obtain ⟨failure, hover⟩ := h.over hrun fun hpending =>
      hsettled (Option.some.inj (houtcome.symm.trans hpending))
    obtain rfl : outcome = outcomeOf failure := Option.some.inj (houtcome.symm.trans hover.outcome)
    have hfailed : ∀ reason, (∃ run, g.runs[run]? = some completion ∧ failed run reason) ↔
        failure = some reason := by
      intro reason
      rw [← hover.failure_iff]
      constructor
      · rintro ⟨run', hrun', hfailed⟩
        exact h.run_inj hrun hrun' ▸ hfailed
      · intro hfailed
        exact ⟨run, hrun, hfailed⟩
    simp only [hfailed, outcomeOf_eq_rejected]
    constructor
    · intro hall run' reason hrun' hrunFailed
      exact ((hall reason).mpr ((hfailed reason).mp ⟨run', hrun', hrunFailed⟩)).2
    · intro htruthy reason
      refine ⟨And.left, fun heq => ⟨heq, ?_⟩⟩
      exact htruthy run reason hrun ((hover.failure_iff reason).mpr heq)
  · have hnone : ∀ run, g.runs[run]? ≠ some completion :=
      fun run hrun => hmem (List.mem_of_getElem? hrun)
    have hnot : ∀ reason, outcome ≠ .rejected reason :=
      fun reason heq => hmem (h.stray completion reason (heq ▸ houtcome))
    simp [hnone, hnot]

/-! ## A failed group -/

/-- What a failed group does. -/
theorem failed_step {g' : TaskGroup} {e : TaskGroupEvent} (h : Sound failed g)
    (hs : g.step e = some g') (hstatus : g.status = .failed) :
    g'.status = .failed ∧ g'.started = g.started := by
  have hphase := h.phase
  simp only [Phase, hstatus] at hphase
  obtain ⟨htasks, hcompletion, -⟩ := hphase
  obtain ⟨completion, hcompletion⟩ := Option.isSome_iff_exists.mp hcompletion
  cases e with
  | start =>
      simp only [TaskGroup.step, TaskGroup.start, hstatus, reduceCtorEq, if_false, if_true,
        Option.map_some, Option.some.injEq] at hs
      exact hs ▸ ⟨hstatus, rfl⟩
  | stop | dispose =>
      simp only [TaskGroup.step, TaskGroup.stop, hstatus, ensureCompletion_of_eq_some hcompletion,
        Option.some.injEq] at hs
      exact hs ▸ ⟨hstatus, rfl⟩
  | join =>
      simp only [TaskGroup.step, TaskGroup.join, ensureCompletion_of_eq_some hcompletion,
        Option.some.injEq] at hs
      exact hs ▸ ⟨hstatus, rfl⟩
  | resume worker outcome =>
      have hlive := (Option.ite_none_right_eq_some.mp hs).1
      exact absurd (htasks ▸ h.live_subset hlive) (by simp)
  | finish worker =>
      have hmem := (Option.ite_none_right_eq_some.mp hs).1.1
      exact absurd (htasks ▸ hmem) (by simp)

end TaskGroup

open TaskGroup in
/-- Whatever happens, a completion settles once all workers of its run are over, no worker is lost
or started twice, and a group that has failed stays as it is. What a settled completion rejects
with is what has failed its run, exactly if that is truthy. -/
theorem taskGroup_sound {options : TaskGroupOptions} {created g : TaskGroup}
    {events : List TaskGroupEvent} (hcreated : createTaskGroup options = .ok created)
    (hrun : (machine created).run events = some g) :
    g.Keeps ∧
      (machine created).EachStep
        (fun before _ after => before.status = .failed →
          after.status = .failed ∧ after.started = before.started) created events ∧
      ∀ (completion : Nat) (outcome : Completion), g.completions[completion]? = some outcome →
        outcome ≠ .pending →
        ((∀ reason, outcome = .rejected reason ↔ ∃ run, g.runs[run]? = some completion ∧
            (machine created).Occurs (Fails run reason) events) ↔
          ∀ run reason, g.runs[run]? = some completion →
            (machine created).Occurs (Fails run reason) events → reason.isTruthy = true) := by
  obtain rfl : created = { options } := by
    unfold createTaskGroup at hcreated
    split at hcreated
    · simp at hcreated
    · exact (Except.ok.inj hcreated).symm
  have hstart : Sound (fun _ _ => False) ({ options } : TaskGroup) := created_sound options
  have hsound :
      Sound (fun run reason => (machine { options }).Occurs (Fails run reason) events) g := by
    -- what has failed a run is read off the events so far
    refine Machine.runFrom_induction
      (motive := fun events g =>
        Sound (fun run reason => (machine { options }).Occurs (Fails run reason) events) g)
      ?_ ?_ hrun
    · exact hstart.congr fun run reason => iff_of_false Machine.not_occurs_nil not_false
    · intro before g₁ e g₂ hbefore hsound hs
      exact (hsound.step hs).congr fun run reason => Machine.occurs_snoc hbefore
  refine ⟨hsound.keeps, ?_, fun completion outcome houtcome hsettled =>
    hsound.rejected_iff houtcome hsettled⟩
  refine (Machine.eachStep_iff_guarded (K := fun _ _ => True)
    (I := fun g => ∃ failed, Sound failed g) ?_ ?_ ⟨_, hstart⟩ hrun).mpr
    (Machine.guarded_of_forall fun _ _ _ => trivial)
  · rintro g₁ e g₂ ⟨failed, hsound⟩ hs
    exact ⟨_, hsound.step hs⟩
  · rintro g₁ e g₂ ⟨failed, hsound⟩ hs
    exact iff_of_true (failed_step hsound hs) trivial

open TaskGroup in
/-- One worker fails the group, the other is told to stop. -/
theorem taskGroup_sound_failed :
    ∃ g, (machine { options := { concurrency := .finite 2 } }).run
        [.join, .start, .resume ⟨0, 1⟩ (.rejected (.error "Error" 0)),
          .resume ⟨0, 0⟩ (.rejected (.error "AbortError" 1)), .finish ⟨0, 1⟩, .finish ⟨0, 0⟩] =
        some g ∧
      g.Keeps ∧ g.status = .failed ∧ g.completions = [.rejected (.error "Error" 0)] := by
  have hrun : ∃ g, (machine { options := { concurrency := .finite 2 } }).run
        [.join, .start, .resume ⟨0, 1⟩ (.rejected (.error "Error" 0)),
          .resume ⟨0, 0⟩ (.rejected (.error "AbortError" 1)), .finish ⟨0, 1⟩, .finish ⟨0, 0⟩] =
        some g ∧
      g.status = .failed ∧ g.completions = [.rejected (.error "Error" 0)] := ⟨_, rfl, by decide⟩
  obtain ⟨g, hrun, hstatus, hcompletions⟩ := hrun
  have hcreated : createTaskGroup { concurrency := .finite 2 } =
      .ok { options := { concurrency := .finite 2 } } := by decide
  exact ⟨g, hrun, (taskGroup_sound hcreated hrun).1, hstatus, hcompletions⟩

open TaskGroup in
/-- A worker that rejects with `undefined` stops the group, and `join` resolves. -/
theorem not_taskGroup_sound :
    ∃ g, (machine { options := { concurrency := .finite 1 } }).run
        [.start, .resume ⟨0, 0⟩ (.rejected .undefined), .finish ⟨0, 0⟩] = some g ∧
      (machine { options := { concurrency := .finite 1 } }).Occurs (Fails 0 .undefined)
        [.start, .resume ⟨0, 0⟩ (.rejected .undefined), .finish ⟨0, 0⟩] ∧
      g.runs[0]? = some 0 ∧ g.completions[0]? = some .resolved ∧ g.status = .stopped := by
  refine ⟨_, rfl, ?_, by decide⟩
  exact ⟨[.start], .resume ⟨0, 0⟩ (.rejected .undefined), [.finish ⟨0, 0⟩], _, rfl, rfl, rfl, rfl,
    rfl, 0, rfl⟩

end FitzTs.Core
