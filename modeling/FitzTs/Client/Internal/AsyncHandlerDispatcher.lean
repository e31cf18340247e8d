import Mathlib.Data.List.Basic
/-!
# FitzTs.Client.Internal.AsyncHandlerDispatcher

`createAsyncHandlerDispatcher` of `client/internal/async-handler-dispatcher.ts`: at
most `concurrency` tasks are active, at most `queueCapacity` wait, and `dispatch`
refuses the rest.

A task becomes active in `run`, and its function is called a microtask later
(`Promise.resolve().then(task)`): `starting` holds the active tasks before that call,
`running` those after it. What `close` finds in the queue is dropped; what is active
goes on.
-/

namespace FitzTs.Client

/-- A dispatcher of tasks in `τ`. -/
structure AsyncHandlerDispatcher (τ : Type*) where
  /-- `none` where it is `Infinity`. -/
  concurrency : Option Nat
  /-- `none` where it is `Infinity`. -/
  queueCapacity : Option Nat
  starting : List τ
  running : List τ
  queue : List τ
  closed : Bool
  /-- Nothing waits in a closed dispatcher. -/
  queue_of_closed : closed = true → queue = []
  deriving DecidableEq

namespace AsyncHandlerDispatcher

variable {τ : Type*}

/-- `createAsyncHandlerDispatcher`; a finite `maxConcurrency` is at least one. -/
def create (maxConcurrency queueCapacity : Option Nat) : AsyncHandlerDispatcher τ where
  concurrency := maxConcurrency.map (max 1)
  queueCapacity := queueCapacity
  starting := []
  running := []
  queue := []
  closed := false
  queue_of_closed h := (nomatch h)

def activeCount (d : AsyncHandlerDispatcher τ) : Nat := d.starting.length + d.running.length

/-- `activeCount < concurrency`. -/
def hasSlot (d : AsyncHandlerDispatcher τ) : Bool := d.concurrency.all (d.activeCount < ·)

/-- `queue.length < queueCapacity`. -/
def hasRoom (d : AsyncHandlerDispatcher τ) : Bool := d.queueCapacity.all (d.queue.length < ·)

/-- `run`, for a task that has a slot. -/
def run (d : AsyncHandlerDispatcher τ) (task : τ) : AsyncHandlerDispatcher τ :=
  { d with starting := d.starting ++ [task] }

/-- `dispatch` takes a task. -/
def accepts (d : AsyncHandlerDispatcher τ) : Bool := !d.closed && (d.hasSlot || d.hasRoom)

/-- `dispatch`, which returns whether it has taken the task. -/
def dispatch (d : AsyncHandlerDispatcher τ) (task : τ) : AsyncHandlerDispatcher τ × Bool :=
  if h : d.closed = true then (d, false)
  else if d.hasSlot then (d.run task, true)
  else if d.hasRoom then
    ({ d with queue := d.queue ++ [task], queue_of_closed := fun hc => absurd hc h }, true)
  else (d, false)

/-- The function of the task that has become active first is called. -/
def call (d : AsyncHandlerDispatcher τ) : AsyncHandlerDispatcher τ :=
  match d.starting with
  | [] => d
  | task :: rest => { d with starting := rest, running := d.running ++ [task] }

/-- The loop of `flush` over the queue. -/
def fill (d : AsyncHandlerDispatcher τ) (h : d.closed = false) :
    List τ → AsyncHandlerDispatcher τ
  | [] => { d with queue := [], queue_of_closed := fun _ => rfl }
  | task :: rest =>
    if d.hasSlot then (d.run task).fill h rest
    else
      { d with
        queue := task :: rest
        queue_of_closed := fun hc => absurd (h.symm.trans hc) Bool.false_ne_true }

/-- `flush`. -/
def flush (d : AsyncHandlerDispatcher τ) : AsyncHandlerDispatcher τ :=
  if h : d.closed = false then d.fill h d.queue else d

/-- The promise of a running task settles. -/
def settle (d : AsyncHandlerDispatcher τ) (i : Nat) : AsyncHandlerDispatcher τ :=
  { d with running := d.running.eraseIdx i }.flush

/-- `close`. -/
def close (d : AsyncHandlerDispatcher τ) : AsyncHandlerDispatcher τ :=
  { d with closed := true, queue := [], queue_of_closed := fun _ => rfl }

/-- `dispatch` takes the tasks, one after the other. -/
def acceptsAll (d : AsyncHandlerDispatcher τ) : List τ → Bool
  | [] => true
  | task :: rest => d.accepts && (d.dispatch task).1.acceptsAll rest

/-- `dispatch` for one task after the other. -/
def dispatchAll (d : AsyncHandlerDispatcher τ) (tasks : List τ) : AsyncHandlerDispatcher τ :=
  tasks.foldl (fun d task => (d.dispatch task).1) d

/-- The task is in the dispatcher, and its function has not been called. -/
def Holds (d : AsyncHandlerDispatcher τ) (task : τ) : Prop := task ∈ d.starting ∨ task ∈ d.queue

instance [DecidableEq τ] (d : AsyncHandlerDispatcher τ) (task : τ) : Decidable (d.Holds task) :=
  inferInstanceAs (Decidable (_ ∨ _))

variable {d : AsyncHandlerDispatcher τ} {task other : τ}

/-! ### What becomes of a task -/

theorem dispatch_accepted : (d.dispatch task).2 = d.accepts := by
  unfold dispatch accepts
  by_cases hc : d.closed = true
  · simp [hc]
  · by_cases hs : d.hasSlot = true
    · simp [hc, hs]
    · by_cases hr : d.hasRoom = true <;> simp [hc, hs, hr]

/-- A task that is taken is held. -/
theorem holds_dispatch_self (h : d.accepts = true) : (d.dispatch task).1.Holds task := by
  unfold accepts at h
  simp only [Bool.and_eq_true, Bool.not_eq_true', Bool.or_eq_true] at h
  obtain ⟨hclosed, hroom⟩ := h
  unfold dispatch
  rw [dif_neg (by simp [hclosed])]
  split
  · exact Or.inl (by simp [run])
  · rename_i hslot
    rw [if_pos (hroom.resolve_left hslot)]
    exact Or.inr (by simp)

theorem Holds.dispatch (h : d.Holds other) : (d.dispatch task).1.Holds other := by
  unfold AsyncHandlerDispatcher.dispatch
  split
  · exact h
  · split
    · exact h.imp_left fun hs => List.mem_append_left _ hs
    · split
      · exact h.imp_right fun hq => List.mem_append_left _ hq
      · exact h

theorem Holds.dispatchAll {tasks : List τ} (h : d.Holds other) :
    (d.dispatchAll tasks).Holds other := by
  induction tasks generalizing d with
  | nil => exact h
  | cons task rest ih => exact ih h.dispatch

theorem holds_dispatchAll_self {tasks : List τ} (hall : d.acceptsAll tasks = true)
    (hmem : task ∈ tasks) : (d.dispatchAll tasks).Holds task := by
  induction tasks generalizing d with
  | nil => cases hmem
  | cons first rest ih =>
      simp only [acceptsAll, Bool.and_eq_true] at hall
      rcases List.mem_cons.mp hmem with rfl | hmem
      · exact (holds_dispatch_self hall.1).dispatchAll
      · exact ih hall.2 hmem

/-- The function of one task is called; every other is still held. -/
theorem Holds.call (h : d.Holds other) (hne : d.starting.head? ≠ some other) :
    d.call.Holds other := by
  unfold AsyncHandlerDispatcher.call
  split
  · exact h
  · rename_i task rest hstarting
    refine h.imp_left fun hs => ?_
    rw [hstarting] at hs hne
    rcases List.mem_cons.mp hs with rfl | hs
    · exact absurd rfl hne
    · exact hs

theorem holds_fill {h : d.closed = false} {queue : List τ}
    (hmem : other ∈ d.starting ∨ other ∈ queue) : (d.fill h queue).Holds other := by
  induction queue generalizing d with
  | nil => exact Or.inl (hmem.resolve_right (List.not_mem_nil))
  | cons task rest ih =>
      unfold fill
      split
      · refine ih ?_
        rcases hmem with hs | hq
        · exact Or.inl (List.mem_append_left _ hs)
        · rcases List.mem_cons.mp hq with rfl | hq
          · exact Or.inl (by simp [run])
          · exact Or.inr hq
      · exact hmem

theorem Holds.flush (h : d.Holds other) : d.flush.Holds other := by
  unfold AsyncHandlerDispatcher.flush
  split
  · exact holds_fill h
  · exact h

theorem Holds.settle {i : Nat} (h : d.Holds other) : (d.settle i).Holds other :=
  Holds.flush (d := { d with running := d.running.eraseIdx i }) h

/-- Closing keeps what is active. -/
theorem holds_close : d.close.Holds other ↔ other ∈ d.starting := by
  simp [Holds, close]

/-! ### What keeps the queue moving -/

/-- What waits, waits for an active task. -/
structure Busy (d : AsyncHandlerDispatcher τ) : Prop where
  positive : ∀ limit, d.concurrency = some limit → 0 < limit
  active : d.queue ≠ [] → 0 < d.activeCount

theorem busy_create (maxConcurrency queueCapacity : Option Nat) :
    (create maxConcurrency queueCapacity : AsyncHandlerDispatcher τ).Busy where
  positive limit h := by
    obtain ⟨n, -, rfl⟩ := Option.map_eq_some_iff.mp h
    exact Nat.lt_of_lt_of_le Nat.zero_lt_one (Nat.le_max_left 1 n)
  active h := absurd rfl h

/-- Without a slot some task is active. -/
theorem activeCount_pos (hpositive : ∀ limit, d.concurrency = some limit → 0 < limit)
    (h : d.hasSlot = false) : 0 < d.activeCount := by
  unfold hasSlot at h
  cases hc : d.concurrency with
  | none => simp [hc] at h
  | some limit =>
      have hlimit := hpositive limit hc
      simp only [hc, Option.all_some, decide_eq_false_iff_not, Nat.not_lt] at h
      omega

theorem Busy.dispatch (h : d.Busy) : (d.dispatch task).1.Busy := by
  unfold AsyncHandlerDispatcher.dispatch
  split
  · exact h
  · split
    · exact ⟨h.positive, fun _ => by
        simp only [run, activeCount, List.length_append, List.length_singleton]
        omega⟩
    · rename_i hslot
      split
      · have hpos : 0 < d.activeCount := activeCount_pos h.positive (by simpa using hslot)
        exact ⟨h.positive, fun _ => hpos⟩
      · exact h

theorem Busy.call (h : d.Busy) : d.call.Busy := by
  unfold AsyncHandlerDispatcher.call
  split
  · exact h
  · exact ⟨h.positive, fun _ => by
      simp only [activeCount, List.length_append, List.length_singleton]
      omega⟩

theorem busy_fill {h : d.closed = false} {queue : List τ}
    (hpositive : ∀ limit, d.concurrency = some limit → 0 < limit) : (d.fill h queue).Busy := by
  induction queue generalizing d with
  | nil => exact ⟨hpositive, fun hne => absurd rfl hne⟩
  | cons task rest ih =>
      unfold fill
      split
      · exact ih hpositive
      · rename_i hslot
        have hpos : 0 < d.activeCount := activeCount_pos hpositive (by simpa using hslot)
        exact ⟨hpositive, fun _ => hpos⟩

theorem Busy.settle (h : d.Busy) {i : Nat} : (d.settle i).Busy := by
  unfold AsyncHandlerDispatcher.settle flush
  split
  · exact busy_fill h.positive
  · rename_i hclosed
    have hempty : d.queue = [] := d.queue_of_closed (by simpa using hclosed)
    exact ⟨h.positive, fun hne => absurd hempty hne⟩

theorem Busy.close (h : d.Busy) : d.close.Busy := ⟨h.positive, fun hne => absurd rfl hne⟩

end AsyncHandlerDispatcher

end FitzTs.Client
