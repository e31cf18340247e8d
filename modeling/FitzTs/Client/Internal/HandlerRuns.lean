import Mathlib.Algebra.Order.Floor.Defs
import Mathlib.Data.Rat.Floor
import Mathlib.Data.List.Nodup
import Mathlib.Data.List.Perm.Basic
import FitzTs.Lib.Machine
/-!
# FitzTs.Client.Internal.HandlerRuns

The runs of an async handler dispatcher: dispatches, the microtasks and timers behind `runTask`,
`close`, and calls of `drain`.

A task that gets a slot is called a microtask later. When its promise has settled, one microtask
reports the error and clears the timer, a later one frees the slot and fills it from the queue.
After `close` only what has a slot goes on.

`AsyncHandlerDispatcher` is this dispatcher without its microtasks and timers; `HandlerViews`
relates the two.

## Main result

* `asyncHandlerDispatcher_sound` — slots, queue and order of every run, and what `close` ends.
-/

namespace FitzTs.Client

abbrev TaskId := Nat

/-- How far a task that was dispatched has come. -/
inductive TaskPhase
  /-- `dispatch` has returned `false`. -/
  | refused
  | queued
  /-- It has a slot, and its function is about to be called. -/
  | starting
  | called
  /-- The promise of its function has settled. -/
  | settled (failed : Bool)
  /-- The error has been reported, the timer is cleared. -/
  | reported
  /-- The slot is free again. -/
  | finished
  /-- `close` has taken it from the queue. -/
  | dropped
  deriving DecidableEq, Repr

/-- The task has a slot. -/
def TaskPhase.active : TaskPhase → Bool
  | starting | called | settled _ | reported => true
  | refused | queued | finished | dropped => false

inductive TaskReport
  | timeout
  | failure
  deriving DecidableEq, Repr

/-- A call of `drain`. -/
inductive Drain
  /-- It awaits `Promise.allSettled` of these tasks. -/
  | waiting (tasks : List TaskId)
  | resolved
  deriving DecidableEq, Repr

structure HandlerRun where
  /-- `none` where it is `Infinity`. -/
  concurrency : Option Nat
  /-- `none` where it is `Infinity`. -/
  queueCapacity : Option Nat
  activeCount : Nat := 0
  saturationCount : Nat := 0
  closed : Bool := false
  queue : List TaskId := []
  activeTasks : List TaskId := []
  /-- How many tasks have been dispatched. -/
  count : Nat := 0
  phases : TaskId → Option TaskPhase := fun _ => none
  /-- The microtasks that call a task. -/
  starting : List TaskId := []
  /-- What `onError` has been told. -/
  reports : List (TaskId × TaskReport) := []
  drains : List Drain := []
  /-- The tasks that `dispatch` has taken, in order. -/
  accepted : List TaskId := []
  /-- The tasks whose function has been called, in order. -/
  calls : List TaskId := []

inductive HandlerEvent
  | dispatch
  /-- The next task is called. -/
  | call
  | settle (i : TaskId) (failed : Bool)
  | report (i : TaskId)
  | free (i : TaskId)
  | timeout (i : TaskId)
  | close
  | drain
  /-- `Promise.allSettled` of a `drain` has resolved. -/
  | continueDrain (k : Nat)
  deriving DecidableEq, Repr

namespace HandlerRun

/-- `createAsyncHandlerDispatcher`; a number that is not finite is `none`. -/
def create (maxConcurrency queueCapacity : Option ℚ) : HandlerRun where
  concurrency := maxConcurrency.map fun limit => (max 1 ⌊limit⌋).toNat
  queueCapacity := queueCapacity.map fun limit => (max 0 ⌊limit⌋).toNat

def setPhase (s : HandlerRun) (i : TaskId) (phase : TaskPhase) : HandlerRun :=
  { s with phases := Function.update s.phases i (some phase) }

/-- `activeCount < concurrency`. -/
def hasSlot (s : HandlerRun) : Bool := s.concurrency.all (s.activeCount < ·)

/-- `queue.length < queueCapacity`. -/
def hasRoom (s : HandlerRun) : Bool := s.queueCapacity.all (s.queue.length < ·)

/-- `run`. -/
def run (s : HandlerRun) (i : TaskId) : HandlerRun :=
  if s.closed then s
  else
    { s.setPhase i .starting with
      activeCount := s.activeCount + 1
      activeTasks := s.activeTasks ++ [i]
      starting := s.starting ++ [i] }

/-- `dispatch`. -/
def dispatch (s : HandlerRun) : HandlerRun :=
  let i := s.count
  let s := { s with count := s.count + 1 }
  if s.closed then s.setPhase i .refused
  else if s.hasSlot then { s with accepted := s.accepted ++ [i] }.run i
  else if s.hasRoom then
    { s.setPhase i .queued with queue := s.queue ++ [i], accepted := s.accepted ++ [i] }
  else { s.setPhase i .refused with saturationCount := s.saturationCount + 1 }

/-- The loop of `flush`, over the queue. -/
def fill (s : HandlerRun) : List TaskId → HandlerRun
  | [] => { s with queue := [] }
  | i :: rest => if s.hasSlot then (s.run i).fill rest else { s with queue := i :: rest }

def flush (s : HandlerRun) : HandlerRun :=
  if s.closed then { s with queue := [] } else s.fill s.queue

/-- `reportOnce`. -/
def reportOnce (s : HandlerRun) (i : TaskId) (report : TaskReport) : HandlerRun :=
  if s.reports.any (·.1 = i) then s else { s with reports := s.reports ++ [(i, report)] }

/-- The last `finally`: the slot is free. -/
def free (s : HandlerRun) (i : TaskId) : HandlerRun :=
  { s.setPhase i .finished with
    activeTasks := s.activeTasks.erase i
    activeCount := s.activeCount - 1 }.flush

/-- `close`. -/
def close (s : HandlerRun) : HandlerRun :=
  { s with
    closed := true
    queue := []
    phases := fun i => if i ∈ s.queue then some .dropped else s.phases i }

/-- The loop of `drain`. -/
def drainOnce (s : HandlerRun) : Drain :=
  if s.activeTasks = [] then .resolved else .waiting s.activeTasks

def isFinished (s : HandlerRun) (i : TaskId) : Bool := s.phases i = some .finished

def step (s : HandlerRun) : HandlerEvent → Option HandlerRun
  | .dispatch => some s.dispatch
  | .call =>
    match s.starting with
    | [] => none
    | i :: rest => some { s.setPhase i .called with starting := rest, calls := s.calls ++ [i] }
  | .settle i failed =>
    if s.phases i = some .called then some (s.setPhase i (.settled failed)) else none
  | .report i =>
    match s.phases i with
    | some (.settled true) => some ((s.setPhase i .reported).reportOnce i .failure)
    | some (.settled false) => some (s.setPhase i .reported)
    | _ => none
  | .free i => if s.phases i = some .reported then some (s.free i) else none
  | .timeout i =>
    -- the timer is there until the task has been reported
    if (s.phases i).any fun phase => phase.active && phase ≠ .reported then
      some (s.reportOnce i .timeout)
    else none
  | .close => some s.close
  | .drain => some { s with drains := s.drains ++ [s.drainOnce] }
  | .continueDrain k =>
    match s.drains[k]? with
    | some (.waiting tasks) =>
      if tasks.all s.isFinished then some { s with drains := s.drains.set k s.drainOnce } else none
    | _ => none

def machine (maxConcurrency queueCapacity : Option ℚ) : Machine HandlerRun HandlerEvent where
  init := create maxConcurrency queueCapacity
  step := step

/-- The tasks that have a slot. -/
def runningTasks (s : HandlerRun) : List TaskId :=
  (List.range s.count).filter fun i => (s.phases i).any (·.active)

/-- What holds in every state. -/
structure Orderly (s : HandlerRun) : Prop where
  active : s.runningTasks.length = s.activeCount
  active_le : ∀ limit, s.concurrency = some limit → s.activeCount ≤ limit
  queue_le : ∀ limit, s.queueCapacity = some limit → s.queue.length ≤ limit
  busy : s.queue ≠ [] → s.concurrency = some s.activeCount
  /-- Tasks are taken in the order of their dispatch. -/
  accepted : s.accepted.Pairwise (· < ·)
  /-- They are called in this order, and none twice; what is dropped is not called. -/
  calls : ∃ dropped, s.accepted = s.calls ++ s.starting ++ s.queue ++ dropped ∧
    (s.closed = false → dropped = []) ∧ ∀ i ∈ dropped, s.phases i = some .dropped
  closed : s.closed = true → s.queue = []

/-- What the single steps keep to. -/
structure Proceeds (s : HandlerRun) (e : HandlerEvent) (s' : HandlerRun) : Prop where
  /-- A dispatch that is refused only counts. -/
  refused : e = .dispatch → s'.phases s.count = some .refused →
    s' = { s.setPhase s.count .refused with
      count := s.count + 1, saturationCount := s'.saturationCount }
  /-- A timeout only reports. -/
  timeout : ∀ i, e = .timeout i → s' = { s with reports := s'.reports }
  /-- Nothing is running when a `drain` resolves. -/
  drained : ∀ k : Nat, s.drains[k]? ≠ some .resolved → s'.drains[k]? = some .resolved →
    s'.runningTasks = []
  /-- What is called stays called, and what is called anew was waiting for it. -/
  calls : ∀ i ∈ s'.calls, i ∉ s.calls → s.phases i = some .starting
  /-- `close` drops all that waits. -/
  closes : e = .close → s'.closed = true ∧ ∀ i ∈ s.queue, s'.phases i = some .dropped

/-- What a closed dispatcher keeps to from then on. -/
structure StaysClosed (s s' : HandlerRun) : Prop where
  closed : s'.closed = true
  /-- Of the tasks only those already starting are called. -/
  calls : s'.calls ++ s'.starting = s.calls ++ s.starting
  /-- What was dropped or refused stays so. -/
  ended : ∀ i phase, phase = .dropped ∨ phase = .refused → s.phases i = some phase →
    s'.phases i = some phase
  /-- Every task dispatched since is refused. -/
  refused : ∀ i, s.count ≤ i → i < s'.count → s'.phases i = some .refused

/-! ## One task at a time -/

/-- What is known of a state, but for how full it is. -/
structure Tracked (s : HandlerRun) : Prop where
  lt_count : ∀ i phase, s.phases i = some phase → i < s.count
  active : ∀ i, i ∈ s.activeTasks ↔ ∃ phase, s.phases i = some phase ∧ phase.active = true
  nodup : s.activeTasks.Nodup
  length : s.activeTasks.length = s.activeCount
  active_le : ∀ limit, s.concurrency = some limit → s.activeCount ≤ limit
  starting : ∀ i ∈ s.starting, s.phases i = some .starting
  queued : ∀ i ∈ s.queue, s.phases i = some .queued
  accepted : s.accepted.Pairwise (· < ·)
  accepted_lt : ∀ i ∈ s.accepted, i < s.count
  calls : ∃ dropped, s.accepted = s.calls ++ s.starting ++ s.queue ++ dropped ∧
    (s.closed = false → dropped = []) ∧ ∀ i ∈ dropped, s.phases i = some .dropped
  closed : s.closed = true → s.queue = []

variable {s s' : HandlerRun} {i : TaskId}

theorem hasSlot_iff : s.hasSlot = true ↔ ∀ limit, s.concurrency = some limit →
    s.activeCount < limit := by
  unfold hasSlot
  cases s.concurrency <;> simp

theorem hasRoom_iff : s.hasRoom = true ↔
    ∀ limit, s.queueCapacity = some limit → s.queue.length < limit := by
  unfold hasRoom
  cases s.queueCapacity <;> simp

/-- A task that keeps its slot. -/
theorem Tracked.advance (h : s.Tracked) {before phase : TaskPhase} (hi : s.phases i = some before)
    (hbefore : before.active = true) (hphase : phase.active = true) (hstarting : i ∉ s.starting) :
    (s.setPhase i phase).Tracked := by
  have hother : ∀ j, j ≠ i → (s.setPhase i phase).phases j = s.phases j :=
    fun j hj => Function.update_of_ne hj _ _
  have hkeep : ∀ j other, s.phases j = some other → other.active = false →
      (s.setPhase i phase).phases j = some other := by
    intro j other hj hinactive
    have hne : j ≠ i := by
      rintro rfl
      obtain rfl := Option.some.inj (hj.symm.trans hi)
      rw [hbefore] at hinactive
      cases hinactive
    exact (hother j hne).trans hj
  obtain ⟨dropped, hcalls, hopen, hdropped⟩ := h.calls
  refine ⟨fun j other hj => ?_, fun j => ?_, h.nodup, h.length, h.active_le, fun j hj => ?_,
    fun j hj => hkeep j _ (h.queued j hj) rfl, h.accepted, h.accepted_lt,
    ⟨dropped, hcalls, hopen, fun j hj => hkeep j _ (hdropped j hj) rfl⟩, h.closed⟩
  · by_cases hji : j = i
    · exact hji ▸ h.lt_count i before hi
    · exact h.lt_count j other ((hother j hji).symm.trans hj)
  · by_cases hji : j = i
    · subst hji
      refine iff_of_true ((h.active j).mpr ⟨before, hi, hbefore⟩) ⟨phase, ?_, hphase⟩
      exact Function.update_self ..
    · rw [hother j hji]
      exact h.active j
  · have hne : j ≠ i := fun heq => hstarting (heq ▸ hj)
    exact (hother j hne).trans (h.starting j hj)

/-- The first of the queue gets a slot. -/
theorem Tracked.run {rest : List TaskId} (h : ({ s with queue := i :: rest } : HandlerRun).Tracked)
    (hslot : s.hasSlot = true) (hopen : s.closed = false) :
    ({ s.run i with queue := rest } : HandlerRun).Tracked := by
  unfold HandlerRun.run
  rw [if_neg (by simp [hopen])]
  have hi : s.phases i = some .queued := h.queued i (List.mem_cons_self ..)
  have hother : ∀ j, j ≠ i → (s.setPhase i .starting).phases j = s.phases j :=
    fun j hj => Function.update_of_ne hj _ _
  -- a queued task is not active yet
  have hnot : i ∉ s.activeTasks := fun hmem => by
    obtain ⟨phase, hphase, hactive⟩ := (h.active i).mp hmem
    obtain rfl := Option.some.inj (hi.symm.trans hphase)
    cases hactive
  obtain ⟨dropped, hcalls, hdrop, -⟩ := h.calls
  obtain rfl := hdrop hopen
  dsimp only at hcalls
  have hnodup : (s.calls ++ s.starting ++ i :: rest ++ []).Nodup :=
    hcalls ▸ h.accepted.imp Nat.ne_of_lt
  -- and stands in the queue once
  have hrest : i ∉ rest := by
    rw [List.append_nil] at hnodup
    exact (List.nodup_cons.mp (List.nodup_append.mp hnodup).2.1).1
  refine ⟨fun j other hj => ?_, fun j => ?_, ?_, ?_, fun limit hlimit => ?_, fun j hj => ?_,
    fun j hj => ?_, h.accepted, h.accepted_lt, ⟨[], ?_, fun _ => rfl, by simp⟩, fun hclosed => ?_⟩
  · by_cases hji : j = i
    · exact hji ▸ h.lt_count i _ hi
    · exact h.lt_count j other ((hother j hji).symm.trans hj)
  · dsimp only
    rw [List.mem_append, List.mem_singleton]
    by_cases hji : j = i
    · exact iff_of_true (Or.inr hji) ⟨.starting, by rw [hji]; exact Function.update_self .., rfl⟩
    · rw [hother j hji]
      exact (or_iff_left hji).trans (h.active j)
  · exact List.nodup_append.mpr ⟨h.nodup, List.nodup_singleton i,
      fun j hj k hk => List.mem_singleton.mp hk ▸ fun heq => hnot (heq ▸ hj)⟩
  · have hlength := h.length
    dsimp only at hlength ⊢
    rw [List.length_append, hlength, List.length_singleton]
  · exact hasSlot_iff.mp hslot limit hlimit
  · rcases List.mem_append.mp hj with hj | hj
    · have hstarting := h.starting j hj
      have hne : j ≠ i := by
        rintro rfl
        rw [hi] at hstarting
        cases hstarting
      exact (hother j hne).trans hstarting
    · rw [List.mem_singleton.mp hj]
      exact Function.update_self ..
  · have hne : j ≠ i := fun heq => hrest (heq ▸ hj)
    exact (hother j hne).trans (h.queued j (List.mem_cons_of_mem _ hj))
  · exact hcalls.trans (by simp [setPhase])
  · exact absurd (hclosed.symm.trans hopen) (by simp)

/-- The task that is dispatched, in a phase without a slot. -/
theorem Tracked.fresh (h : s.Tracked) (phase : TaskPhase) (hphase : phase.active = false) :
    (∀ j other, s.phases j = some other → (s.setPhase s.count phase).phases j = some other) ∧
      (∀ j other, (s.setPhase s.count phase).phases j = some other → j < s.count + 1) ∧
      ∀ j, j ∈ s.activeTasks ↔
        ∃ other, (s.setPhase s.count phase).phases j = some other ∧ other.active = true := by
  have hself : (s.setPhase s.count phase).phases s.count = some phase := Function.update_self ..
  have hother : ∀ j, j ≠ s.count → (s.setPhase s.count phase).phases j = s.phases j :=
    fun j hj => Function.update_of_ne hj _ _
  refine ⟨fun j other hj => ?_, fun j other hj => ?_, fun j => ?_⟩
  · exact (hother j (Nat.ne_of_lt (h.lt_count j other hj))).trans hj
  · by_cases hne : j = s.count
    · exact hne ▸ Nat.lt_succ_self _
    · exact Nat.lt_succ_of_lt (h.lt_count j other ((hother j hne).symm.trans hj))
  · by_cases hne : j = s.count
    · subst hne
      refine iff_of_false (fun hmem => ?_) fun ⟨other, hj, hactive⟩ => ?_
      · obtain ⟨other, hj, -⟩ := (h.active _).mp hmem
        exact Nat.lt_irrefl _ (h.lt_count _ _ hj)
      · obtain rfl := Option.some.inj (hself.symm.trans hj)
        exact absurd (hactive.symm.trans hphase) (by simp)
    · rw [hother j hne]
      exact h.active j

/-- A dispatch that is refused. -/
theorem Tracked.refuse (h : s.Tracked) (saturationCount : Nat) :
    ({ s.setPhase s.count .refused with count := s.count + 1, saturationCount } :
      HandlerRun).Tracked := by
  obtain ⟨hother, hlt, hactive⟩ := h.fresh .refused rfl
  obtain ⟨dropped, hcalls, hopen, hdropped⟩ := h.calls
  exact ⟨hlt, hactive, h.nodup, h.length, h.active_le, fun j hj => hother j _ (h.starting j hj),
    fun j hj => hother j _ (h.queued j hj), h.accepted,
    fun j hj => Nat.lt_succ_of_lt (h.accepted_lt j hj),
    ⟨dropped, hcalls, hopen, fun j hj => hother j _ (hdropped j hj)⟩, h.closed⟩

/-- A dispatch whose task joins the queue. -/
theorem Tracked.enqueue (h : s.Tracked) (hopen : s.closed = false) :
    ({ s.setPhase s.count .queued with
      count := s.count + 1
      queue := s.queue ++ [s.count]
      accepted := s.accepted ++ [s.count] } : HandlerRun).Tracked := by
  obtain ⟨hother, hlt, hactive⟩ := h.fresh .queued rfl
  obtain ⟨dropped, hcalls, hdrop, -⟩ := h.calls
  obtain rfl := hdrop hopen
  refine ⟨hlt, hactive, h.nodup, h.length, h.active_le, fun j hj => hother j _ (h.starting j hj),
    fun j hj => ?_, ?_, fun j hj => ?_, ⟨[], ?_, fun _ => rfl, by simp⟩,
    fun hclosed => absurd (hclosed.symm.trans hopen) (by simp)⟩
  · rcases List.mem_append.mp hj with hj | hj
    · exact hother j _ (h.queued j hj)
    · rw [List.mem_singleton.mp hj]
      exact Function.update_self ..
  · refine List.pairwise_append.mpr ⟨h.accepted, List.pairwise_singleton _ _, fun j hj k hk => ?_⟩
    exact List.mem_singleton.mp hk ▸ h.accepted_lt j hj
  · rcases List.mem_append.mp hj with hj | hj
    · exact Nat.lt_succ_of_lt (h.accepted_lt j hj)
    · exact List.mem_singleton.mp hj ▸ Nat.lt_succ_self _
  · dsimp only
    rw [hcalls]
    simp [setPhase]

/-! ## A full dispatcher -/

structure Sound (s : HandlerRun) : Prop extends Tracked s where
  queue_le : ∀ limit, s.queueCapacity = some limit → s.queue.length ≤ limit
  busy : s.queue ≠ [] → s.hasSlot = false

theorem sound_create (maxConcurrency queueCapacity : Option ℚ) :
    (create maxConcurrency queueCapacity).Sound where
  lt_count := by simp [create]
  active := by simp [create]
  nodup := List.nodup_nil
  length := rfl
  active_le := fun _ _ => Nat.zero_le _
  starting := by simp [create]
  queued := by simp [create]
  accepted := List.Pairwise.nil
  accepted_lt := by simp [create]
  calls := ⟨[], rfl, fun _ => rfl, by simp⟩
  closed := fun _ => rfl
  queue_le := fun _ _ => Nat.zero_le _
  busy := fun hne => absurd rfl hne

/-- The queue is taken from until no slot is left. -/
theorem Tracked.fill {l : List TaskId} (h : ({ s with queue := l } : HandlerRun).Tracked)
    (hopen : s.closed = false)
    (hqueue : ∀ limit, s.queueCapacity = some limit → l.length ≤ limit) : (s.fill l).Sound := by
  induction l generalizing s with
  | nil => exact ⟨h, fun _ _ => Nat.zero_le _, fun hne => absurd rfl hne⟩
  | cons i rest ih =>
      unfold HandlerRun.fill
      split
      · rename_i hslot
        have hrun : s.run i = { s.setPhase i .starting with
            activeCount := s.activeCount + 1
            activeTasks := s.activeTasks ++ [i]
            starting := s.starting ++ [i] } := if_neg (by simp [hopen])
        refine ih (h.run hslot hopen) (hrun ▸ hopen) ?_
        rw [hrun]
        intro limit hlimit
        exact Nat.le_trans (Nat.le_succ _) (hqueue limit hlimit)
      · rename_i hslot
        exact ⟨h, hqueue, fun _ => by simpa [hasSlot] using hslot⟩

theorem Tracked.flush (h : s.Tracked)
    (hqueue : ∀ limit, s.queueCapacity = some limit → s.queue.length ≤ limit) :
    s.flush.Sound := by
  unfold HandlerRun.flush
  split
  · rename_i hclosed
    have hempty := h.closed hclosed
    have heq : ({ s with queue := [] } : HandlerRun) = s := by rw [← hempty]
    rw [heq]
    exact ⟨h, hqueue, fun hne => absurd hempty hne⟩
  · rename_i hclosed
    exact Tracked.fill h (by simpa using hclosed) hqueue

theorem Sound.dispatch (h : s.Sound) : s.dispatch.Sound := by
  unfold HandlerRun.dispatch
  dsimp only
  split
  · exact ⟨h.refuse s.saturationCount, h.queue_le, h.busy⟩
  · rename_i hclosed
    have hopen : s.closed = false := by simpa using hclosed
    split
    · -- nothing waits beside a slot
      rename_i hslot
      have hempty : s.queue = [] := by
        by_contra hne
        exact absurd ((h.busy hne).symm.trans hslot) (by simp)
      have henqueued := h.toTracked.enqueue hopen
      rw [hempty] at henqueued
      have hrun := Tracked.run (s := { s.setPhase s.count .queued with
        count := s.count + 1, accepted := s.accepted ++ [s.count] }) henqueued hslot hopen
      have heq : ({ s with count := s.count + 1, accepted := s.accepted ++ [s.count] } :
          HandlerRun).run s.count =
          { ({ s.setPhase s.count .queued with
            count := s.count + 1, accepted := s.accepted ++ [s.count] } : HandlerRun).run
            s.count with
            queue := [] } := by
        unfold HandlerRun.run
        simp [setPhase, hopen, hempty]
      rw [heq]
      exact ⟨hrun, fun _ _ => Nat.zero_le _, fun hne => absurd rfl hne⟩
    · split
      · rename_i hslot hroom
        refine ⟨h.toTracked.enqueue hopen, fun limit hlimit => ?_,
          fun _ => eq_false_of_ne_true hslot⟩
        have hlt := hasRoom_iff.mp hroom limit hlimit
        rw [List.length_append]
        exact hlt
      · exact ⟨h.refuse _, h.queue_le, h.busy⟩

/-- Reports and calls of `drain` change nothing else. -/
theorem Sound.observe (h : s.Sound) (reports : List (TaskId × TaskReport)) (drains : List Drain) :
    ({ s with reports, drains } : HandlerRun).Sound :=
  ⟨⟨h.lt_count, h.active, h.nodup, h.length, h.active_le, h.starting, h.queued, h.accepted,
    h.accepted_lt, h.calls, h.closed⟩, h.queue_le, h.busy⟩

theorem Sound.advance (h : s.Sound) {before phase : TaskPhase} (hi : s.phases i = some before)
    (hbefore : before.active = true) (hphase : phase.active = true) (hstarting : i ∉ s.starting) :
    (s.setPhase i phase).Sound :=
  ⟨h.toTracked.advance hi hbefore hphase hstarting, h.queue_le, h.busy⟩

theorem reportOnce_eq (report : TaskReport) :
    ∃ reports, s.reportOnce i report = { s with reports } := by
  unfold reportOnce
  split
  · exact ⟨s.reports, rfl⟩
  · exact ⟨_, rfl⟩

theorem Sound.reportOnce (h : s.Sound) (report : TaskReport) : (s.reportOnce i report).Sound := by
  obtain ⟨reports, heq⟩ := @reportOnce_eq s i report
  rw [heq]
  exact h.observe reports s.drains

/-- A task that is not starting is not about to be called. -/
theorem Tracked.not_starting (h : s.Tracked) {phase : TaskPhase} (hi : s.phases i = some phase)
    (hne : phase ≠ .starting) : i ∉ s.starting := fun hmem =>
  hne (Option.some.inj (hi.symm.trans (h.starting i hmem)))

theorem Sound.call (h : s.Sound) {rest : List TaskId} (hstarting : s.starting = i :: rest) :
    ({ s.setPhase i .called with starting := rest, calls := s.calls ++ [i] } :
      HandlerRun).Sound := by
  have hi : s.phases i = some .starting := h.starting i (by simp [hstarting])
  obtain ⟨dropped, hcalls, hopen, hdropped⟩ := h.calls
  have hrest : i ∉ rest := by
    have hnodup : (s.calls ++ s.starting ++ s.queue ++ dropped).Nodup :=
      hcalls ▸ h.accepted.imp Nat.ne_of_lt
    rw [List.append_assoc, List.append_assoc, hstarting] at hnodup
    have hnodup' := (List.nodup_append.mp (List.nodup_append.mp hnodup).2.1).1
    exact (List.nodup_cons.mp hnodup').1
  -- the call is recorded first
  have hrecorded : ({ s with starting := rest, calls := s.calls ++ [i] } : HandlerRun).Sound := by
    refine ⟨⟨h.lt_count, h.active, h.nodup, h.length, h.active_le, fun j hj => ?_, h.queued,
      h.accepted, h.accepted_lt, ⟨dropped, ?_, hopen, hdropped⟩, h.closed⟩, h.queue_le, h.busy⟩
    · exact h.starting j (by rw [hstarting]; exact List.mem_cons_of_mem _ hj)
    · rw [hcalls, hstarting]
      simp
  exact hrecorded.advance hi rfl rfl hrest

theorem Sound.free (h : s.Sound) (hi : s.phases i = some .reported) : (s.free i).Sound := by
  have hmem : i ∈ s.activeTasks := (h.active i).mpr ⟨_, hi, rfl⟩
  have hself : (s.setPhase i .finished).phases i = some .finished := Function.update_self ..
  have hother : ∀ j, j ≠ i → (s.setPhase i .finished).phases j = s.phases j :=
    fun j hj => Function.update_of_ne hj _ _
  have hkeep : ∀ j other, s.phases j = some other → other ≠ .reported →
      (s.setPhase i .finished).phases j = some other := by
    intro j other hj hne
    refine (hother j fun heq => hne ?_).trans hj
    exact Option.some.inj (hj.symm.trans (heq ▸ hi))
  obtain ⟨dropped, hcalls, hopen, hdropped⟩ := h.calls
  refine Tracked.flush
    ⟨fun j other hj => ?_, fun j => ?_, h.nodup.erase i, ?_, fun limit hlimit => ?_,
    fun j hj => hkeep j _ (h.starting j hj) (by simp),
    fun j hj => hkeep j _ (h.queued j hj) (by simp), h.accepted, h.accepted_lt,
    ⟨dropped, hcalls, hopen, fun j hj => hkeep j _ (hdropped j hj) (by simp)⟩, h.closed⟩ h.queue_le
  · by_cases hji : j = i
    · exact hji ▸ h.lt_count i _ hi
    · exact h.lt_count j other ((hother j hji).symm.trans hj)
  · dsimp only
    rw [h.nodup.mem_erase_iff]
    by_cases hji : j = i
    · subst hji
      refine iff_of_false (fun hj => hj.1 rfl) fun ⟨other, hj, hactive⟩ => ?_
      obtain rfl := Option.some.inj (hself.symm.trans hj)
      cases hactive
    · rw [hother j hji]
      exact (and_iff_right hji).trans (h.active j)
  · dsimp only
    rw [List.length_erase_of_mem hmem, h.length]
  · exact Nat.le_trans (Nat.sub_le _ _) (h.active_le limit hlimit)

theorem Sound.close (h : s.Sound) : s.close.Sound := by
  have hkeep : ∀ j other, s.phases j = some other → other ≠ .queued →
      s.close.phases j = some other := by
    intro j other hj hne
    refine (if_neg fun hmem => hne ?_).trans hj
    exact Option.some.inj (hj.symm.trans (h.queued j hmem))
  have hdrop : ∀ j ∈ s.queue, s.close.phases j = some .dropped := fun j hj => if_pos hj
  obtain ⟨dropped, hcalls, hopen, hdropped⟩ := h.calls
  refine ⟨⟨fun j other hj => ?_, fun j => ?_, h.nodup, h.length, h.active_le,
    fun j hj => hkeep j _ (h.starting j hj) (by simp), by simp [HandlerRun.close], h.accepted,
    h.accepted_lt, ⟨s.queue ++ dropped, ?_, fun hc => (nomatch hc), fun j hj => ?_⟩,
    fun _ => rfl⟩, fun _ _ => Nat.zero_le _, fun hne => absurd rfl hne⟩
  · by_cases hmem : j ∈ s.queue
    · exact h.lt_count j _ (h.queued j hmem)
    · exact h.lt_count j other ((if_neg hmem).symm.trans hj)
  · by_cases hmem : j ∈ s.queue
    · refine iff_of_false (fun hj => ?_) fun ⟨other, hj, hactive⟩ => ?_
      · obtain ⟨other, hother, hactive⟩ := (h.active j).mp hj
        obtain rfl := Option.some.inj ((h.queued j hmem).symm.trans hother)
        cases hactive
      · obtain rfl := Option.some.inj ((hdrop j hmem).symm.trans hj)
        cases hactive
    · have heq : s.close.phases j = s.phases j := if_neg hmem
      rw [heq]
      exact h.active j
  · refine hcalls.trans ?_
    simp [HandlerRun.close]
  · rcases List.mem_append.mp hj with hj | hj
    · exact hdrop j hj
    · exact hkeep j _ (hdropped j hj) (by simp)

theorem Sound.step {e : HandlerEvent} (h : s.Sound) (hs : s.step e = some s') : s'.Sound := by
  cases e with
  | dispatch => exact Option.some.inj hs ▸ h.dispatch
  | call =>
      simp only [HandlerRun.step] at hs
      split at hs
      · cases hs
      · rename_i i rest hstarting
        exact Option.some.inj hs ▸ h.call hstarting
  | settle i failed =>
      obtain ⟨hi, heq⟩ := Option.ite_none_right_eq_some.mp hs
      exact Option.some.inj heq ▸ h.advance hi rfl rfl (h.not_starting hi (by simp))
  | report i =>
      simp only [HandlerRun.step] at hs
      split at hs
      · rename_i hi
        exact Option.some.inj hs ▸
          (h.advance hi rfl rfl (h.not_starting hi (by simp))).reportOnce _
      · rename_i hi
        exact Option.some.inj hs ▸ h.advance hi rfl rfl (h.not_starting hi (by simp))
      · cases hs
  | free i =>
      obtain ⟨hi, heq⟩ := Option.ite_none_right_eq_some.mp hs
      exact Option.some.inj heq ▸ h.free hi
  | timeout i =>
      obtain ⟨-, heq⟩ := Option.ite_none_right_eq_some.mp hs
      exact Option.some.inj heq ▸ h.reportOnce _
  | close => exact Option.some.inj hs ▸ h.close
  | drain => exact Option.some.inj hs ▸ h.observe s.reports _
  | continueDrain k =>
      simp only [HandlerRun.step] at hs
      split at hs
      · split at hs
        · exact Option.some.inj hs ▸ h.observe s.reports _
        · cases hs
      · cases hs

/-! ## What is kept -/

theorem Tracked.runningTasks_perm (h : s.Tracked) : s.runningTasks.Perm s.activeTasks := by
  refine (List.perm_ext_iff_of_nodup (List.nodup_range.filter _) h.nodup).mpr fun j => ?_
  rw [h.active j, List.mem_filter, List.mem_range, Option.any_eq_true]
  exact and_iff_right_of_imp fun ⟨phase, hphase, _⟩ => h.lt_count j phase hphase

theorem Sound.orderly (h : s.Sound) : s.Orderly where
  active := h.runningTasks_perm.length_eq.trans h.length
  active_le := h.active_le
  queue_le := h.queue_le
  busy := fun hne => by
    have hfull := h.busy hne
    unfold hasSlot at hfull
    cases hlimit : s.concurrency with
    | none => simp [hlimit] at hfull
    | some limit =>
        simp only [hlimit, Option.all_some, decide_eq_false_iff_not, Nat.not_lt] at hfull
        exact congrArg some (Nat.le_antisymm hfull (h.active_le limit hlimit))
  accepted := h.accepted
  calls := h.calls
  closed := h.closed

/-- What starting tasks leaves as it is. -/
structure Spares (s s' : HandlerRun) : Prop where
  limits : s'.concurrency = s.concurrency ∧ s'.queueCapacity = s.queueCapacity
  drains : s'.drains = s.drains
  calls : s'.calls = s.calls

theorem spares_run : s.Spares (s.run i) := by
  unfold run
  split <;> exact ⟨⟨rfl, rfl⟩, rfl, rfl⟩

theorem spares_fill (l : List TaskId) : s.Spares (s.fill l) := by
  induction l generalizing s with
  | nil => exact ⟨⟨rfl, rfl⟩, rfl, rfl⟩
  | cons i rest ih =>
      unfold fill
      split
      · have hrun := @spares_run s i
        have hrest := @ih (s.run i)
        exact ⟨⟨hrest.limits.1.trans hrun.limits.1, hrest.limits.2.trans hrun.limits.2⟩,
          hrest.drains.trans hrun.drains, hrest.calls.trans hrun.calls⟩
      · exact ⟨⟨rfl, rfl⟩, rfl, rfl⟩

theorem spares_free : s.Spares (s.free i) := by
  unfold free flush
  split
  · exact ⟨⟨rfl, rfl⟩, rfl, rfl⟩
  · obtain ⟨hlimits, hdrains, hcalls⟩ := @spares_fill
      { s.setPhase i .finished with
        activeTasks := s.activeTasks.erase i, activeCount := s.activeCount - 1 } s.queue
    exact ⟨hlimits, hdrains, hcalls⟩

theorem spares_dispatch : s.Spares s.dispatch := by
  unfold dispatch
  dsimp only
  split
  · exact ⟨⟨rfl, rfl⟩, rfl, rfl⟩
  · split
    · obtain ⟨hlimits, hdrains, hcalls⟩ := @spares_run
        { s with count := s.count + 1, accepted := s.accepted ++ [s.count] } s.count
      exact ⟨hlimits, hdrains, hcalls⟩
    · split <;> exact ⟨⟨rfl, rfl⟩, rfl, rfl⟩

theorem spares_reportOnce (report : TaskReport) : s.Spares (s.reportOnce i report) := by
  obtain ⟨reports, heq⟩ := @reportOnce_eq s i report
  rw [heq]
  exact ⟨⟨rfl, rfl⟩, rfl, rfl⟩

/-- Calls of `drain` apart, and the call of a task, nothing touches these. -/
theorem spares_step {e : HandlerEvent} (hs : s.step e = some s') :
    s.Spares s' ∨
      (∃ i rest, s.starting = i :: rest ∧
        s' = { s.setPhase i .called with starting := rest, calls := s.calls ++ [i] }) ∨
      ∃ drains, s' = { s with drains } ∧
        ∀ k : Nat, s.drains[k]? ≠ some .resolved → drains[k]? = some .resolved →
          s.activeTasks = [] := by
  cases e with
  | dispatch => exact Or.inl (Option.some.inj hs ▸ spares_dispatch)
  | call =>
      simp only [HandlerRun.step] at hs
      split at hs
      · cases hs
      · rename_i i rest hstarting
        exact Or.inr (Or.inl ⟨i, rest, hstarting, (Option.some.inj hs).symm⟩)
  | settle i failed =>
      obtain ⟨-, heq⟩ := Option.ite_none_right_eq_some.mp hs
      exact Or.inl (Option.some.inj heq ▸ ⟨⟨rfl, rfl⟩, rfl, rfl⟩)
  | report i =>
      simp only [HandlerRun.step] at hs
      split at hs
      · obtain ⟨hlimits, hdrains, hcalls⟩ := @spares_reportOnce (s.setPhase i .reported) i .failure
        exact Or.inl (Option.some.inj hs ▸ ⟨hlimits, hdrains, hcalls⟩)
      · exact Or.inl (Option.some.inj hs ▸ ⟨⟨rfl, rfl⟩, rfl, rfl⟩)
      · cases hs
  | free i =>
      obtain ⟨-, heq⟩ := Option.ite_none_right_eq_some.mp hs
      exact Or.inl (Option.some.inj heq ▸ spares_free)
  | timeout i =>
      obtain ⟨-, heq⟩ := Option.ite_none_right_eq_some.mp hs
      exact Or.inl (Option.some.inj heq ▸ spares_reportOnce _)
  | close => exact Or.inl (Option.some.inj hs ▸ ⟨⟨rfl, rfl⟩, rfl, rfl⟩)
  -- a `drain` resolves at once only if no task is active
  | drain =>
      refine Or.inr (Or.inr ⟨_, (Option.some.inj hs).symm, fun k hbefore hafter => ?_⟩)
      rcases Nat.lt_or_ge k s.drains.length with hlt | hge
      · rw [List.getElem?_append_left hlt] at hafter
        exact absurd hafter hbefore
      · rw [List.getElem?_append_right hge, List.getElem?_singleton] at hafter
        split at hafter
        · by_contra hne
          simp [drainOnce, hne] at hafter
        · cases hafter
  -- and one that waits looks again when its tasks are over
  | continueDrain j =>
      simp only [HandlerRun.step] at hs
      split at hs
      · split at hs
        · refine Or.inr (Or.inr ⟨_, (Option.some.inj hs).symm, fun k hbefore hafter => ?_⟩)
          by_cases hk : j = k
          · rw [List.getElem?_set, if_pos hk] at hafter
            by_contra hne
            split at hafter <;> simp [drainOnce, hne] at hafter
          · rw [List.getElem?_set, if_neg hk] at hafter
            exact absurd hafter hbefore
        · cases hs
      · cases hs

theorem limits_step {e : HandlerEvent} (hs : s.step e = some s') :
    s'.concurrency = s.concurrency ∧ s'.queueCapacity = s.queueCapacity := by
  rcases spares_step hs with hspares | ⟨i, rest, -, rfl⟩ | ⟨drains, rfl, -⟩
  · exact hspares.limits
  · exact ⟨rfl, rfl⟩
  · exact ⟨rfl, rfl⟩

theorem dispatch_refused (hrefused : s.dispatch.phases s.count = some .refused) :
    s.dispatch = { s.setPhase s.count .refused with
      count := s.count + 1, saturationCount := s.dispatch.saturationCount } := by
  unfold dispatch at hrefused ⊢
  dsimp only at hrefused ⊢
  split at hrefused <;> rename_i hclosed
  · rw [if_pos hclosed]
    rfl
  · rw [if_neg hclosed]
    split at hrefused <;> rename_i hslot
    · simp [run, hclosed, setPhase] at hrefused
    · rw [if_neg hslot]
      split at hrefused <;> rename_i hroom
      · simp [setPhase] at hrefused
      · rw [if_neg hroom]
        rfl

theorem Sound.proceeds {e : HandlerEvent} (h : s.Sound) (hs : s.step e = some s') :
    s.Proceeds e s' where
  refused := fun he hrefused => by
    subst he
    obtain rfl := Option.some.inj hs
    exact dispatch_refused hrefused
  timeout := fun i he => by
    subst he
    obtain ⟨-, heq⟩ := Option.ite_none_right_eq_some.mp hs
    obtain ⟨reports, hreports⟩ := @reportOnce_eq s i .timeout
    obtain rfl := Option.some.inj heq
    rw [hreports]
  drained := fun k hbefore hafter => by
    have hs' := h.step hs
    rcases spares_step hs with hspares | ⟨i, rest, -, rfl⟩ | ⟨drains, rfl, hdrains⟩
    · exact absurd (hspares.drains ▸ hafter) hbefore
    · exact absurd hafter hbefore
    · have hperm := hs'.runningTasks_perm
      dsimp only at hperm
      rw [hdrains k hbefore hafter] at hperm
      exact hperm.eq_nil
  calls := fun i hi hnot => by
    rcases spares_step hs with hspares | ⟨j, rest, hstarting, rfl⟩ | ⟨drains, rfl, -⟩
    · exact absurd (hspares.calls ▸ hi) hnot
    · rcases List.mem_append.mp hi with hi | hi
      · exact absurd hi hnot
      · exact h.starting i
          (by rw [hstarting, List.mem_singleton.mp hi]; exact List.mem_cons_self ..)
    · exact absurd hi hnot
  closes := fun he => by
    subst he
    obtain rfl := Option.some.inj hs
    exact ⟨rfl, fun i hi => if_pos hi⟩

/-! ## After `close` -/

/-- A task that goes on was neither dropped nor refused. -/
theorem setPhase_ended {before phase : TaskPhase} (hi : s.phases i = some before)
    (hgoes : before ≠ .dropped ∧ before ≠ .refused) {j : TaskId} {ended : TaskPhase}
    (hended : ended = .dropped ∨ ended = .refused) (hj : s.phases j = some ended) :
    (s.setPhase i phase).phases j = some ended := by
  have hne : j ≠ i := by
    rintro rfl
    obtain rfl := Option.some.inj (hj.symm.trans hi)
    rcases hended with hended | hended
    · exact hgoes.1 hended
    · exact hgoes.2 hended
  exact (Function.update_of_ne hne _ _).trans hj

theorem StaysClosed.refl (hclosed : s.closed = true) : s.StaysClosed s :=
  ⟨hclosed, rfl, fun _ _ _ hi => hi, fun _ hge hlt => absurd hlt (Nat.not_lt.mpr hge)⟩

theorem StaysClosed.trans {s'' : HandlerRun} (h : s.StaysClosed s') (h' : s'.StaysClosed s'') :
    s.StaysClosed s'' where
  closed := h'.closed
  calls := h'.calls.trans h.calls
  ended := fun i ended hended hi => h'.ended i ended hended (h.ended i ended hended hi)
  refused := fun i hge hlt => by
    rcases Nat.lt_or_ge i s'.count with hbefore | hafter
    · exact h'.ended i .refused (Or.inr rfl) (h.refused i hge hbefore)
    · exact h'.refused i hafter hlt

/-- What the reports and the calls of `drain` are does not matter to it. -/
theorem StaysClosed.observe (h : s.StaysClosed s') (reports : List (TaskId × TaskReport))
    (drains : List Drain) : s.StaysClosed { s' with reports, drains } :=
  ⟨h.closed, h.calls, h.ended, h.refused⟩

theorem StaysClosed.reportOnce (h : s.StaysClosed s') (report : TaskReport) :
    s.StaysClosed (s'.reportOnce i report) := by
  obtain ⟨reports, heq⟩ := @reportOnce_eq s' i report
  rw [heq]
  exact h.observe reports s'.drains

/-- A task that has a slot goes on. -/
theorem staysClosed_setPhase (hclosed : s.closed = true) {before phase : TaskPhase}
    (hi : s.phases i = some before) (hactive : before.active = true) :
    s.StaysClosed (s.setPhase i phase) := by
  have hgoes : before ≠ .dropped ∧ before ≠ .refused := by
    constructor <;> rintro rfl <;> cases hactive
  exact ⟨hclosed, rfl, fun _ _ hended hj => setPhase_ended hi hgoes hended hj,
    fun _ hge hlt => absurd hlt (Nat.not_lt.mpr hge)⟩

theorem Sound.staysClosed_dispatch (h : s.Sound) (hclosed : s.closed = true) :
    s.StaysClosed s.dispatch := by
  have heq : s.dispatch = { s.setPhase s.count .refused with count := s.count + 1 } := by
    unfold HandlerRun.dispatch
    dsimp only
    rw [if_pos hclosed]
    rfl
  obtain ⟨hother, -, -⟩ := h.fresh .refused rfl
  rw [heq]
  refine ⟨hclosed, rfl, fun j ended _ hj => hother j ended hj, fun j hge hlt => ?_⟩
  obtain rfl : j = s.count := Nat.le_antisymm (Nat.lt_succ_iff.mp hlt) hge
  exact Function.update_self ..

theorem Sound.staysClosed_free (h : s.Sound) (hclosed : s.closed = true)
    (hi : s.phases i = some .reported) : s.StaysClosed (s.free i) := by
  have heq : s.free i = { s.setPhase i .finished with
      activeTasks := s.activeTasks.erase i, activeCount := s.activeCount - 1 } := by
    unfold HandlerRun.free HandlerRun.flush
    rw [if_pos (by exact hclosed)]
    simp only [setPhase, h.closed hclosed]
  rw [heq]
  have hset : s.StaysClosed (s.setPhase i .finished) := staysClosed_setPhase hclosed hi rfl
  exact ⟨hset.closed, hset.calls, hset.ended, hset.refused⟩

/-- One step of a closed dispatcher. -/
theorem Sound.staysClosed {e : HandlerEvent} (h : s.Sound) (hclosed : s.closed = true)
    (hs : s.step e = some s') : s.StaysClosed s' := by
  cases e with
  | dispatch => exact Option.some.inj hs ▸ h.staysClosed_dispatch hclosed
  | call =>
      simp only [HandlerRun.step] at hs
      split at hs
      · cases hs
      · rename_i i rest hstarting
        have hi : s.phases i = some .starting := h.starting i (by simp [hstarting])
        have hset : s.StaysClosed (s.setPhase i .called) := staysClosed_setPhase hclosed hi rfl
        obtain rfl := Option.some.inj hs
        exact ⟨hset.closed, by simp [hstarting], hset.ended, hset.refused⟩
  | settle i failed =>
      obtain ⟨hi, heq⟩ := Option.ite_none_right_eq_some.mp hs
      exact Option.some.inj heq ▸ staysClosed_setPhase hclosed hi rfl
  | report i =>
      simp only [HandlerRun.step] at hs
      split at hs
      · rename_i hi
        exact Option.some.inj hs ▸ (staysClosed_setPhase hclosed hi rfl).reportOnce _
      · rename_i hi
        exact Option.some.inj hs ▸ staysClosed_setPhase hclosed hi rfl
      · cases hs
  | free i =>
      obtain ⟨hi, heq⟩ := Option.ite_none_right_eq_some.mp hs
      exact Option.some.inj heq ▸ h.staysClosed_free hclosed hi
  | timeout i =>
      obtain ⟨-, heq⟩ := Option.ite_none_right_eq_some.mp hs
      exact Option.some.inj heq ▸ (StaysClosed.refl hclosed).reportOnce _
  | close =>
      obtain rfl := Option.some.inj hs
      -- nothing waits any more
      refine ⟨rfl, rfl, fun j ended _ hj => ?_,
        fun _ hge hlt => absurd hlt (Nat.not_lt.mpr hge)⟩
      exact (if_neg (by simp [h.closed hclosed])).trans hj
  | drain => exact Option.some.inj hs ▸ (StaysClosed.refl hclosed).observe s.reports _
  | continueDrain k =>
      simp only [HandlerRun.step] at hs
      split at hs
      · split at hs
        · exact Option.some.inj hs ▸ (StaysClosed.refl hclosed).observe s.reports _
        · cases hs
      · cases hs

/-- A run of a closed dispatcher. -/
theorem Sound.staysClosed_run {maxConcurrency queueCapacity : Option ℚ} (h : s.Sound)
    (hclosed : s.closed = true) {es : List HandlerEvent}
    (hrun : (machine maxConcurrency queueCapacity).runFrom s es = some s') : s.StaysClosed s' := by
  have hboth : s'.Sound ∧ s.StaysClosed s' :=
    Machine.invariant (I := fun t => t.Sound ∧ s.StaysClosed t)
      ⟨h, StaysClosed.refl hclosed⟩
      (fun _ _ _ ht hs => ⟨ht.1.step hs, ht.2.trans (ht.1.staysClosed ht.2.closed hs)⟩) hrun
  exact hboth.2

end HandlerRun

open HandlerRun in
/-- In every run the slots are those of the running tasks and within the limits, tasks are called in
the order of their dispatch, each once, and but for what `close` drops all are called or to come.
Once the dispatcher is closed only what was starting is called, what was dropped stays so, and every
task that is dispatched is refused. -/
theorem asyncHandlerDispatcher_sound {maxConcurrency queueCapacity : Option ℚ}
    {es : List HandlerEvent} {s : HandlerRun}
    (hrun : (machine maxConcurrency queueCapacity).run es = some s) :
    s.Orderly ∧
      s.concurrency = maxConcurrency.map (fun limit => (max 1 ⌊limit⌋).toNat) ∧
      s.queueCapacity = queueCapacity.map (fun limit => (max 0 ⌊limit⌋).toNat) ∧
      (machine maxConcurrency queueCapacity).EachStep Proceeds
        (machine maxConcurrency queueCapacity).init es ∧
      (s.closed = true → ∀ later s',
        (machine maxConcurrency queueCapacity).runFrom s later = some s' → s.StaysClosed s') := by
  have hinit : (machine maxConcurrency queueCapacity).init.Sound :=
    sound_create maxConcurrency queueCapacity
  have hsound : s.Sound := Machine.invariant hinit (fun _ _ _ h hs => h.step hs) hrun
  have hlimits : s.concurrency = (create maxConcurrency queueCapacity).concurrency ∧
      s.queueCapacity = (create maxConcurrency queueCapacity).queueCapacity :=
    Machine.invariant
      (I := fun s => s.concurrency = (create maxConcurrency queueCapacity).concurrency ∧
        s.queueCapacity = (create maxConcurrency queueCapacity).queueCapacity) ⟨rfl, rfl⟩
      (fun _ _ _ h hs => ⟨(limits_step hs).1.trans h.1, (limits_step hs).2.trans h.2⟩) hrun
  refine ⟨hsound.orderly, hlimits.1, hlimits.2, ?_,
    fun hclosed later s' hlater => hsound.staysClosed_run hclosed hlater⟩
  refine (Machine.eachStep_iff_guarded (I := Sound) (K := fun _ _ => True)
    (fun _ _ _ h hs => h.step hs) (fun _ _ _ h hs => iff_of_true (h.proceeds hs) trivial) hinit
    hrun).mpr ?_
  exact Machine.guarded_of_forall fun _ _ _ => trivial

open HandlerRun in
/-- One slot: the second task waits for the first, which has timed out and fails later. While it is
about to be called the dispatcher is closed: the third is dropped, the fourth refused. -/
theorem asyncHandlerDispatcher_sound_timeout : ∃ s s', (machine (some 1) none).run
    [.dispatch, .dispatch, .call, .timeout 0, .settle 0 true, .report 0, .free 0, .dispatch,
      .close] = some s ∧ (machine (some 1) none).runFrom s [.call, .dispatch] = some s' ∧
      s.Orderly ∧ s.StaysClosed s' ∧ s.calls = [0] ∧ s'.calls = [0, 1] ∧
      s'.phases 2 = some .dropped ∧ s'.phases 3 = some .refused := by
  have hrun : ∃ s s', (machine (some 1) none).run [.dispatch, .dispatch, .call, .timeout 0,
      .settle 0 true, .report 0, .free 0, .dispatch, .close] = some s ∧
      (machine (some 1) none).runFrom s [.call, .dispatch] = some s' ∧ s.closed = true ∧
      s.calls = [0] ∧ s'.calls = [0, 1] ∧ s'.phases 2 = some .dropped ∧
      s'.phases 3 = some .refused := ⟨_, _, rfl, rfl, rfl, rfl, rfl, rfl, rfl⟩
  obtain ⟨s, s', hrun, hlater, hclosed, hcalls⟩ := hrun
  obtain ⟨horderly, -, -, -, hstays⟩ := asyncHandlerDispatcher_sound hrun
  exact ⟨s, s', hrun, hlater, horderly, hstays hclosed _ s' hlater, hcalls⟩

end FitzTs.Client
