import FitzTs.Client.Internal.AsyncHandlerDispatcher
import FitzTs.Client.Internal.HandlerRuns
/-!
# FitzTs.Client.Internal.HandlerViews

**The two models of the async handler dispatcher agree.**

`HandlerRun` has the microtasks, timers and calls of `drain` and knows tasks by their number;
`AsyncHandlerDispatcher` has the tasks themselves and only what their callers see. In every run of
the first the second, given the events as its own operations, is a view of it.

## Main results

* `views_run` — every run of a `HandlerRun` is one of an `AsyncHandlerDispatcher`.
* `Views.dispatch_accepted` — both take the same tasks.
-/

namespace FitzTs.Client

namespace HandlerRun

variable {s s' : HandlerRun} {i : TaskId}
variable {τ : Type*} {task : TaskId → τ} {d : AsyncHandlerDispatcher τ}

/-- `d` is the dispatcher without its microtasks and timers; task `i` is `task i`. -/
structure Views (task : TaskId → τ) (d : AsyncHandlerDispatcher τ) (s : HandlerRun) : Prop where
  concurrency : d.concurrency = s.concurrency
  queueCapacity : d.queueCapacity = s.queueCapacity
  closed : d.closed = s.closed
  activeCount : d.activeCount = s.activeCount
  starting : d.starting = s.starting.map task
  queue : d.queue = s.queue.map task
  /-- The tasks that have been called got their slots before the others. -/
  running : ∃ called, s.activeTasks = called ++ s.starting ∧ d.running = called.map task

/-- What an event is to `d`. -/
def follow (task : TaskId → τ) (d : AsyncHandlerDispatcher τ) (s : HandlerRun) :
    HandlerEvent → AsyncHandlerDispatcher τ
  | .dispatch => (d.dispatch (task s.count)).1
  | .call => d.call
  | .free i => d.settle (s.activeTasks.idxOf i)
  | .close => d.close
  | _ => d

/-- What a run is to `d`. -/
def followAll (task : TaskId → τ) (d : AsyncHandlerDispatcher τ) (s : HandlerRun) :
    List HandlerEvent → AsyncHandlerDispatcher τ
  | [] => d
  | e :: es =>
    match s.step e with
    | some s' => followAll task (follow task d s e) s' es
    | none => d

theorem views_create (task : TaskId → τ) (maxConcurrency queueCapacity : Option Nat) :
    Views task (AsyncHandlerDispatcher.create maxConcurrency queueCapacity)
      (create (maxConcurrency.map (↑)) (queueCapacity.map (↑))) where
  concurrency := by
    cases maxConcurrency with
    | none => rfl
    | some limit =>
        simp only [AsyncHandlerDispatcher.create, create, Option.map_some, Int.floor_natCast]
        congr 1
        omega
  queueCapacity := by
    cases queueCapacity with
    | none => rfl
    | some limit =>
        simp only [AsyncHandlerDispatcher.create, create, Option.map_some, Int.floor_natCast]
        congr 1
  closed := rfl
  activeCount := rfl
  starting := rfl
  queue := rfl
  running := ⟨[], rfl, rfl⟩

theorem Views.hasSlot (h : Views task d s) : d.hasSlot = s.hasSlot := by
  unfold AsyncHandlerDispatcher.hasSlot HandlerRun.hasSlot
  rw [h.concurrency, h.activeCount]

theorem Views.hasRoom (h : Views task d s) : d.hasRoom = s.hasRoom := by
  unfold AsyncHandlerDispatcher.hasRoom HandlerRun.hasRoom
  rw [h.queueCapacity, h.queue, List.length_map]

theorem Views.run (h : Views task d s) (hopen : s.closed = false) :
    Views task (d.run (task i)) (s.run i) := by
  obtain ⟨called, hactive, hcalled⟩ := h.running
  unfold HandlerRun.run
  rw [if_neg (by simp [hopen])]
  refine ⟨h.concurrency, h.queueCapacity, h.closed, ?_, ?_, h.queue, called, ?_, hcalled⟩
  · have hcount := h.activeCount
    simp only [AsyncHandlerDispatcher.activeCount, AsyncHandlerDispatcher.run, List.length_append,
      List.length_singleton] at hcount ⊢
    omega
  · simp [AsyncHandlerDispatcher.run, h.starting]
  · simp [hactive]

theorem Views.fill {l : List TaskId} {queue : List τ} (h : Views task d s)
    (hopen : s.closed = false) (hd : d.closed = false) (hqueue : queue = l.map task) :
    Views task (d.fill hd queue) (s.fill l) := by
  induction l generalizing s d queue with
  | nil =>
      subst hqueue
      exact ⟨h.concurrency, h.queueCapacity, h.closed, h.activeCount, h.starting, rfl, h.running⟩
  | cons i rest ih =>
      subst hqueue
      unfold HandlerRun.fill AsyncHandlerDispatcher.fill
      rw [List.map_cons]
      dsimp only
      rw [h.hasSlot]
      split
      · have hrun : (s.run i).closed = false := by
          unfold HandlerRun.run
          rw [if_neg (by simp [hopen])]
          exact hopen
        exact ih (h.run hopen) hrun hd rfl
      · exact ⟨h.concurrency, h.queueCapacity, h.closed, h.activeCount, h.starting, rfl, h.running⟩

theorem Views.flush (h : Views task d s) (hqueue : s.closed = true → s.queue = []) :
    Views task d.flush s.flush := by
  unfold AsyncHandlerDispatcher.flush HandlerRun.flush
  split <;> rename_i hd
  · have hopen : s.closed = false := h.closed.symm.trans hd
    rw [if_neg (by simp [hopen])]
    exact h.fill hopen hd h.queue
  · have hclosed : s.closed = true := h.closed.symm.trans (by simpa using hd)
    rw [if_pos hclosed]
    exact ⟨h.concurrency, h.queueCapacity, h.closed, h.activeCount, h.starting,
      h.queue.trans (by rw [hqueue hclosed]), h.running⟩

theorem Views.dispatch (h : Views task d s) :
    Views task (d.dispatch (task s.count)).1 s.dispatch := by
  obtain ⟨called, hactive, hcalled⟩ := h.running
  unfold AsyncHandlerDispatcher.dispatch HandlerRun.dispatch
  dsimp only
  by_cases hclosed : s.closed = true
  · rw [dif_pos (h.closed.trans hclosed), if_pos hclosed]
    exact ⟨h.concurrency, h.queueCapacity, h.closed, h.activeCount, h.starting, h.queue, h.running⟩
  · have hopen : s.closed = false := by simpa using hclosed
    have hslot : ({ s with count := s.count + 1 } : HandlerRun).hasSlot = d.hasSlot :=
      h.hasSlot.symm
    have hroom : ({ s with count := s.count + 1 } : HandlerRun).hasRoom = d.hasRoom :=
      h.hasRoom.symm
    rw [dif_neg (by rw [h.closed]; exact hclosed), if_neg hclosed, hslot, hroom]
    by_cases hd : d.hasSlot = true
    · rw [if_pos hd, if_pos hd]
      have haccepted : Views task d
          { s with count := s.count + 1, accepted := s.accepted ++ [s.count] } :=
        ⟨h.concurrency, h.queueCapacity, h.closed, h.activeCount, h.starting, h.queue, h.running⟩
      exact haccepted.run hopen
    · rw [if_neg hd, if_neg hd]
      by_cases hr : d.hasRoom = true
      · rw [if_pos hr, if_pos hr]
        exact ⟨h.concurrency, h.queueCapacity, h.closed, h.activeCount, h.starting,
          by simp [h.queue], h.running⟩
      · rw [if_neg hr, if_neg hr]
        exact ⟨h.concurrency, h.queueCapacity, h.closed, h.activeCount, h.starting, h.queue,
          h.running⟩

theorem Views.call {rest : List TaskId} (h : Views task d s) (hstarting : s.starting = i :: rest) :
    Views task d.call
      { s.setPhase i .called with starting := rest, calls := s.calls ++ [i] } := by
  obtain ⟨called, hactive, hcalled⟩ := h.running
  have hd : d.starting = task i :: rest.map task := by rw [h.starting, hstarting, List.map_cons]
  unfold AsyncHandlerDispatcher.call
  rw [hd]
  refine ⟨h.concurrency, h.queueCapacity, h.closed, ?_, rfl, h.queue, called ++ [i], ?_, ?_⟩
  · have hcount := h.activeCount
    simp only [AsyncHandlerDispatcher.activeCount, hd, List.length_cons, List.length_append,
      List.length_nil] at hcount ⊢
    exact Eq.trans (by omega) hcount
  · dsimp only [setPhase]
    rw [hactive, hstarting]
    simp
  · simp [hcalled]

theorem Views.free (h : Views task d s) (hs : s.Sound) (hi : s.phases i = some .reported) :
    Views task (d.settle (s.activeTasks.idxOf i)) (s.free i) := by
  obtain ⟨called, hactive, hcalled⟩ := h.running
  have hnot : i ∉ s.starting := hs.not_starting hi (by simp)
  have hmem : i ∈ called := by
    have hmem := (hs.active i).mpr ⟨_, hi, rfl⟩
    rw [hactive] at hmem
    exact (List.mem_append.mp hmem).resolve_right hnot
  have hindex : s.activeTasks.idxOf i = called.idxOf i := by
    rw [hactive, List.idxOf_append_of_mem hmem]
  have herase : d.running.eraseIdx (called.idxOf i) = (called.erase i).map task := by
    rw [hcalled, List.eraseIdx_map, List.erase_eq_eraseIdx_of_idxOf rfl]
  rw [hindex]
  refine Views.flush ⟨h.concurrency, h.queueCapacity, h.closed, ?_, h.starting, h.queue,
    called.erase i, ?_, herase⟩ hs.closed
  · have hcount := h.activeCount
    have hpos : 0 < called.length := List.length_pos_of_mem hmem
    have hlength : (d.running.eraseIdx (called.idxOf i)).length = called.length - 1 := by
      rw [herase, List.length_map, List.length_erase_of_mem hmem]
    refine (congrArg (d.starting.length + ·) hlength).trans ?_
    simp only [AsyncHandlerDispatcher.activeCount, hcalled, List.length_map] at hcount ⊢
    exact Eq.trans (by omega) (congrArg (· - 1) hcount)
  · dsimp only [setPhase]
    rw [hactive, List.erase_append_left _ hmem]

/-- Phases, reports and calls of `drain` are out of its sight. -/
theorem Views.observe (h : Views task d s) (phases : TaskId → Option TaskPhase)
    (reports : List (TaskId × TaskReport)) (drains : List Drain) :
    Views task d { s with phases, reports, drains } :=
  ⟨h.concurrency, h.queueCapacity, h.closed, h.activeCount, h.starting, h.queue, h.running⟩

/-- One step: `d` follows it. -/
theorem Views.step {e : HandlerEvent} (h : Views task d s) (hsound : s.Sound)
    (hs : s.step e = some s') : Views task (follow task d s e) s' := by
  have hset : ∀ j phase, Views task d (s.setPhase j phase) :=
    fun _ _ => h.observe _ s.reports s.drains
  have hreport : ∀ {t : HandlerRun} (_ : Views task d t) (j : TaskId) (report : TaskReport),
      Views task d (t.reportOnce j report) := by
    intro t ht j report
    obtain ⟨reports, heq⟩ := @reportOnce_eq t j report
    rw [heq]
    exact ht.observe t.phases reports t.drains
  cases e with
  | dispatch => exact Option.some.inj hs ▸ h.dispatch
  | call =>
      simp only [HandlerRun.step] at hs
      split at hs
      · cases hs
      · rename_i i rest hstarting
        exact Option.some.inj hs ▸ h.call hstarting
  | settle i failed =>
      obtain ⟨-, heq⟩ := Option.ite_none_right_eq_some.mp hs
      exact Option.some.inj heq ▸ hset i _
  | report i =>
      simp only [HandlerRun.step] at hs
      split at hs
      · exact Option.some.inj hs ▸ hreport (hset i _) i .failure
      · exact Option.some.inj hs ▸ hset i _
      · cases hs
  | free i =>
      obtain ⟨hi, heq⟩ := Option.ite_none_right_eq_some.mp hs
      exact Option.some.inj heq ▸ h.free hsound hi
  | timeout i =>
      obtain ⟨-, heq⟩ := Option.ite_none_right_eq_some.mp hs
      exact Option.some.inj heq ▸ hreport h i .timeout
  | close =>
      obtain rfl := Option.some.inj hs
      exact ⟨h.concurrency, h.queueCapacity, rfl, h.activeCount, h.starting, rfl, h.running⟩
  | drain => exact Option.some.inj hs ▸ h.observe s.phases s.reports _
  | continueDrain k =>
      simp only [HandlerRun.step] at hs
      split at hs
      · split at hs
        · exact Option.some.inj hs ▸ h.observe s.phases s.reports _
        · cases hs
      · cases hs

/-- A run: `d` follows it. -/
theorem views_run {maxConcurrency queueCapacity : Option ℚ} {es : List HandlerEvent}
    (h : Views task d s) (hsound : s.Sound)
    (hrun : (machine maxConcurrency queueCapacity).runFrom s es = some s') :
    Views task (followAll task d s es) s' := by
  induction es generalizing s d with
  | nil =>
      obtain rfl := Option.some.inj hrun
      exact h
  | cons e es ih =>
      obtain ⟨t, hs, hrest⟩ := Machine.runFrom_cons.mp hrun
      have hstep : s.step e = some t := hs
      unfold followAll
      rw [hstep]
      exact ih (h.step hsound hstep) (hsound.step hstep) hrest

/-- `dispatch` returns whether the task is taken. -/
theorem Views.dispatch_accepted (h : Views task d s) :
    (d.dispatch (task s.count)).2 = true ↔ s.dispatch.phases s.count ≠ some .refused := by
  rw [AsyncHandlerDispatcher.dispatch_accepted]
  unfold AsyncHandlerDispatcher.accepts
  rw [h.closed, h.hasSlot, h.hasRoom]
  have hslot : ({ s with count := s.count + 1 } : HandlerRun).hasSlot = s.hasSlot := rfl
  have hroom : ({ s with count := s.count + 1 } : HandlerRun).hasRoom = s.hasRoom := rfl
  unfold HandlerRun.dispatch
  dsimp only
  rw [hslot, hroom]
  cases hclosed : s.closed <;> cases s.hasSlot <;> cases s.hasRoom <;>
    simp [setPhase, HandlerRun.run]

/-- From the start, with limits that are natural numbers. -/
theorem views_run_create (task : TaskId → τ) (maxConcurrency queueCapacity : Option Nat)
    {es : List HandlerEvent}
    (hrun : (machine (maxConcurrency.map (↑)) (queueCapacity.map (↑))).run es = some s) :
    Views task (followAll task (AsyncHandlerDispatcher.create maxConcurrency queueCapacity)
      (create (maxConcurrency.map (↑)) (queueCapacity.map (↑))) es) s :=
  views_run (views_create task maxConcurrency queueCapacity) (sound_create _ _) hrun

end HandlerRun

end FitzTs.Client
