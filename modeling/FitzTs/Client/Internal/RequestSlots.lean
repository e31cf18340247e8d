import Mathlib.Data.List.Nodup
import Mathlib.Data.List.Perm.Basic
import FitzTs.Client.Internal.RequestGate
import FitzTs.Lib.Machine
/-!
# FitzTs.Client.Internal.RequestSlots

The runs of a request gate with its callers: calls of `acquire`, signals that abort, slots that are
released, at most once each, and `close`.

A signal that aborts sets its flag first, and its listeners run one after the other. A release that
comes in between meets a waiter that is aborted and still queued; `release` drops it together with
its listener, and nothing settles its promise any more.

The limits are natural numbers. `createRequestGate` takes any number and only compares them with
counts: a fractional limit is its ceiling and a negative one is zero. What is left out is `NaN`,
with which `maxConcurrency` grants no slot and `maxQueueSize` refuses no waiter, and `Infinity`,
with which the limit never holds.

## Main result

* `requestGate_sound` — slots, queue and order are kept to in every run, and no caller is lost
  exactly if no release meets an aborted waiter.
-/

namespace FitzTs.Client

namespace RequestGate

/-- The loop of `release`, over the queue. -/
def handOver (aborted : CallId → Bool) (g : RequestGate) : List CallId → RequestGate
  | [] => { g with queue := [] }
  | i :: rest =>
    if aborted i then g.handOver aborted rest
    else { g.setOutcome i .granted with queue := rest, activeCount := g.activeCount + 1 }

/-- `release`; `aborted i` is `waiter.signal?.aborted`. -/
def releaseWith (g : RequestGate) (aborted : CallId → Bool) : RequestGate :=
  let g := { g with activeCount := g.activeCount - 1 }
  if g.closed = false ∧ g.activeCount < g.maxConcurrency then g.handOver aborted g.queue else g

variable {g : RequestGate} {aborted : CallId → Bool} {i : CallId}

/-- The slot goes to the first waiter that is not aborted, if there is one. -/
theorem handOver_cases (l : List CallId) :
    ((∀ i ∈ l, aborted i = true) ∧ g.handOver aborted l = { g with queue := [] }) ∨
      ∃ dropped j rest, l = dropped ++ j :: rest ∧ (∀ i ∈ dropped, aborted i = true) ∧
        aborted j = false ∧ g.handOver aborted l =
          { g.setOutcome j .granted with queue := rest, activeCount := g.activeCount + 1 } := by
  induction l with
  | nil => exact Or.inl ⟨by simp, rfl⟩
  | cons i l ih =>
      cases hi : aborted i with
      | true =>
          simp only [handOver, hi, if_true]
          rcases ih with ⟨hall, heq⟩ | ⟨dropped, j, rest, rfl, hdropped, hj, heq⟩
          · exact Or.inl ⟨List.forall_mem_cons.mpr ⟨hi, hall⟩, heq⟩
          · exact Or.inr ⟨i :: dropped, j, rest, rfl,
              List.forall_mem_cons.mpr ⟨hi, hdropped⟩, hj, heq⟩
      | false =>
          simp only [handOver, hi]
          exact Or.inr ⟨[], i, l, rfl, by simp, hi, rfl⟩

/-- What `acquire` can do. -/
theorem acquire_cases (flag : Bool) :
    (∃ error, g.acquire i flag = g.setOutcome i (.rejected error)) ∨
      (flag = false ∧ g.closed = false ∧ g.activeCount < g.maxConcurrency ∧ g.acquire i flag =
        { g.setOutcome i .granted with activeCount := g.activeCount + 1 }) ∨
      (flag = false ∧ g.closed = false ∧ g.maxConcurrency ≤ g.activeCount ∧
        g.queue.length < g.maxQueueSize ∧
        g.acquire i flag = { g.setOutcome i .queued with queue := g.queue ++ [i] }) := by
  unfold acquire
  split
  · exact Or.inl ⟨_, rfl⟩
  · rename_i hflag
    split
    · exact Or.inl ⟨_, rfl⟩
    · rename_i hclosed
      have hflag : flag = false := by simpa using hflag
      have hclosed : g.closed = false := by simpa using hclosed
      split
      · rename_i hfree
        exact Or.inr (Or.inl ⟨hflag, hclosed, hfree, rfl⟩)
      · rename_i hfull
        split
        · exact Or.inl ⟨_, rfl⟩
        · rename_i hroom
          exact Or.inr (Or.inr ⟨hflag, hclosed, Nat.not_lt.mp hfull, Nat.not_le.mp hroom, rfl⟩)

/-- Where no waiter is aborted it is `release`. -/
theorem release_eq (g : RequestGate) : g.release = g.releaseWith fun _ => false := by
  unfold release releaseWith
  dsimp only
  split
  case isFalse => rfl
  case isTrue =>
    cases hqueue : g.queue with
    | nil => simp [handOver, ← hqueue]
    | cons i rest => simp [handOver]

end RequestGate

/-- The promise is settled. -/
def SlotOutcome.settled : SlotOutcome → Bool
  | granted | rejected _ => true
  | none | queued => false

/-- A gate and its callers. -/
structure GateRun where
  gate : RequestGate
  /-- How many calls of `acquire` there have been. -/
  count : Nat := 0
  signals : CallId → Option Nat := fun _ => none
  aborted : Nat → Bool := fun _ => false
  /-- The calls whose slot has been released. -/
  released : List CallId := []
  /-- The calls that have been queued, in order. -/
  arrivals : List CallId := []
  /-- The calls that were queued and have been granted, in order. -/
  handed : List CallId := []

inductive GateEvent
  | acquire (signal : Option Nat)
  /-- The signal aborts. -/
  | abort (signal : Nat)
  /-- The listener of a waiter runs. -/
  | listener (i : CallId)
  | release (i : CallId)
  | close
  deriving DecidableEq, Repr

namespace GateRun

/-- The signal of `i` has aborted. -/
def isAborted (s : GateRun) (i : CallId) : Bool := (s.signals i).any s.aborted

/-- `i` has a slot. -/
def holds (s : GateRun) (i : CallId) : Bool :=
  decide (s.gate.outcomes i = .granted ∧ i ∉ s.released)

/-- The slots that are granted and not released. -/
def holders (s : GateRun) : List CallId := (List.range s.count).filter s.holds

def acquire (s : GateRun) (signal : Option Nat) : GateRun :=
  let gate := s.gate.acquire s.count (signal.any s.aborted)
  { s with
    gate
    count := s.count + 1
    signals := Function.update s.signals s.count signal
    arrivals := s.arrivals ++ if gate.outcomes s.count = .queued then [s.count] else [] }

def release (s : GateRun) (i : CallId) : GateRun :=
  let gate := s.gate.releaseWith s.isAborted
  { s with
    gate
    released := i :: s.released
    handed := s.handed ++ s.gate.queue.filter (gate.outcomes · = .granted) }

def step (s : GateRun) : GateEvent → Option GateRun
  | .acquire signal => some (s.acquire signal)
  | .abort signal => some { s with aborted := Function.update s.aborted signal true }
  | .listener i =>
    -- the listener is there only while the waiter is queued
    if i ∈ s.gate.queue ∧ s.isAborted i = true then some { s with gate := s.gate.abort i } else none
  | .release i => if s.holds i = true then some (s.release i) else none
  | .close => some { s with gate := s.gate.close }

/-- `createRequestGate`. -/
def machine (maxConcurrency maxQueueSize : Nat) : Machine GateRun GateEvent where
  init := { gate := .create maxConcurrency maxQueueSize }
  step := step

/-- A release does not meet an aborted waiter. -/
def NotDropping (s : GateRun) : GateEvent → Prop
  | .release _ => ∀ i ∈ s.gate.queue.head?, s.isAborted i = false
  | _ => True

instance (s : GateRun) : (e : GateEvent) → Decidable (s.NotDropping e)
  | .release _ => inferInstanceAs (Decidable (∀ i ∈ s.gate.queue.head?, _))
  | .acquire _ | .abort _ | .listener _ | .close => isTrue trivial

/-- The limits are kept to, and nobody waits beside a free slot. -/
structure Limited (maxConcurrency maxQueueSize : Nat) (s : GateRun) : Prop where
  active : s.holders.length = s.gate.activeCount
  active_le : s.gate.activeCount ≤ maxConcurrency
  queue_le : s.gate.queue.length ≤ maxQueueSize
  busy : ∀ i, s.gate.outcomes i = .queued → s.isAborted i = false →
    s.gate.activeCount = maxConcurrency

/-- Who was queued is granted in order; only the aborted are passed over. -/
structure Fair (s : GateRun) : Prop where
  sublist : s.handed.Sublist s.arrivals
  first : ∀ i j, [i, j].Sublist s.arrivals → j ∈ s.handed → i ∈ s.handed ∨ s.isAborted i = true

/-- What a step does to the promises. -/
structure Settles (s s' : GateRun) : Prop where
  once : ∀ i, (s.gate.outcomes i).settled = true → s'.gate.outcomes i = s.gate.outcomes i
  /-- A slot goes to nobody aborted, and to nobody after the close. -/
  granted : ∀ i, s.gate.outcomes i ≠ .granted → s'.gate.outcomes i = .granted →
    s'.isAborted i = false ∧ s'.gate.closed = false

/-- Whoever is not settled is in the queue. -/
def NoneLost (s : GateRun) : Prop :=
  ∀ i < s.count, (s.gate.outcomes i).settled = false → i ∈ s.gate.queue

/-! ## The queue in order -/

/-- The arrivals are split: those whose turn has come, and those still to come. -/
structure Turns (aborted : CallId → Prop) (closed : Prop) (arrivals handed queue : List CallId) :
    Prop where
  nodup : arrivals.Nodup
  split : ∃ past future, arrivals = past ++ future ∧ handed.Sublist past ∧ queue.Sublist future ∧
    (∀ i ∈ past, i ∈ handed ∨ aborted i) ∧ (¬ closed → ∀ i ∈ future, i ∈ queue ∨ aborted i)

section

variable {aborted aborted' : CallId → Prop} {closed closed' : Prop}
  {arrivals handed queue : List CallId}

theorem Turns.nodup_queue (h : Turns aborted closed arrivals handed queue) : queue.Nodup := by
  obtain ⟨past, future, harrivals, -, hqueue, -⟩ := h.split
  exact hqueue.nodup (List.nodup_append.mp (harrivals ▸ h.nodup)).2.1

theorem Turns.sublist (h : Turns aborted closed arrivals handed queue) :
    handed.Sublist arrivals := by
  obtain ⟨past, future, rfl, hhanded, -⟩ := h.split
  exact hhanded.trans (List.sublist_append_left ..)

/-- Whoever came before one that has been handed a slot has had one too, or is aborted. -/
theorem Turns.first (h : Turns aborted closed arrivals handed queue) {i j : CallId}
    (hij : [i, j].Sublist arrivals) (hj : j ∈ handed) : i ∈ handed ∨ aborted i := by
  have hnodup := h.nodup
  obtain ⟨past, future, rfl, hhanded, -, hpast, -⟩ := h.split
  obtain ⟨hfst, hsnd, hdisjoint⟩ := List.nodup_append.mp hnodup
  obtain ⟨first, second, heq, hi, hj'⟩ := List.cons_sublist_iff.mp hij
  refine hpast i ?_
  -- `i` is to come only if `j` is
  rcases List.append_eq_append_iff.mp heq with ⟨mid, rfl, rfl⟩ | ⟨mid, rfl, rfl⟩
  · rcases List.mem_append.mp hi with hi | hi
    · exact hi
    · have hj'' : j ∈ second := List.singleton_sublist.mp hj'
      exact absurd rfl (hdisjoint j (hhanded.subset hj) j (List.mem_append_right _ hj''))
  · exact List.mem_append_left _ hi

theorem Turns.mono (h : Turns aborted closed arrivals handed queue)
    (haborted : ∀ i ∈ arrivals, aborted i → aborted' i) (hclosed : closed → closed') :
    Turns aborted' closed' arrivals handed queue := by
  refine ⟨h.nodup, ?_⟩
  obtain ⟨past, future, rfl, hhanded, hqueue, hpast, hfuture⟩ := h.split
  refine ⟨past, future, rfl, hhanded, hqueue, fun i hi => ?_, fun hopen i hi => ?_⟩
  · exact (hpast i hi).imp_right (haborted i (List.mem_append_left _ hi))
  · exact (hfuture (fun hc => hopen (hclosed hc)) i hi).imp_right
      (haborted i (List.mem_append_right _ hi))

/-- Waiters that leave the queue without a slot are aborted, or the gate is closed. -/
theorem Turns.leave (h : Turns aborted closed arrivals handed queue) {queue' : List CallId}
    (hsublist : queue'.Sublist queue)
    (hleft : ¬ closed → ∀ i ∈ queue, i ∈ queue' ∨ aborted i) :
    Turns aborted closed arrivals handed queue' := by
  refine ⟨h.nodup, ?_⟩
  obtain ⟨past, future, heq, hhanded, hqueue, hpast, hfuture⟩ := h.split
  refine ⟨past, future, heq, hhanded, hsublist.trans hqueue, hpast, fun hopen i hi => ?_⟩
  rcases hfuture hopen i hi with hi | hi
  · exact hleft hopen i hi
  · exact Or.inr hi

theorem Turns.push (h : Turns aborted closed arrivals handed queue) {k : CallId}
    (hk : k ∉ arrivals) : Turns aborted closed (arrivals ++ [k]) handed (queue ++ [k]) := by
  refine ⟨List.nodup_append.mpr ⟨h.nodup, List.nodup_singleton k, fun i hi j hj => ?_⟩, ?_⟩
  · exact List.mem_singleton.mp hj ▸ fun hik => hk (hik ▸ hi)
  · obtain ⟨past, future, rfl, hhanded, hqueue, hpast, hfuture⟩ := h.split
    refine ⟨past, future ++ [k], by simp, hhanded, hqueue.append (List.Sublist.refl _), hpast,
      fun hopen i hi => ?_⟩
    rcases List.mem_append.mp hi with hi | hi
    · exact (hfuture hopen i hi).imp_left (List.mem_append_left _)
    · exact Or.inl (List.mem_append_right _ hi)

/-- The first waiter that is not aborted is handed a slot. -/
theorem Turns.hand (h : Turns aborted closed arrivals handed queue) (hopen : ¬ closed)
    {dropped rest : List CallId} {j : CallId} (hqueue : queue = dropped ++ j :: rest)
    (hdropped : ∀ i ∈ dropped, aborted i) :
    Turns aborted closed arrivals (handed ++ [j]) rest := by
  refine ⟨h.nodup, ?_⟩
  obtain ⟨past, future, harrivals, hhanded, hsublist, hpast, hfuture⟩ := h.split
  rw [hqueue] at hsublist
  obtain ⟨skipped, future', hfuture', -, hsublist'⟩ := List.append_sublist_iff.mp hsublist
  obtain ⟨upto, later, hlater, hj, hrest⟩ := List.cons_sublist_iff.mp hsublist'
  -- the turn of `skipped ++ upto` has come
  have hsplit : future = (skipped ++ upto) ++ later := by simp [hfuture', hlater]
  have hnodup : future.Nodup := (List.nodup_append.mp (harrivals ▸ h.nodup)).2.1
  have hdisjoint := (List.nodup_append.mp (hsplit ▸ hnodup)).2.2
  refine ⟨past ++ (skipped ++ upto), later, by simp [harrivals, hsplit],
    hhanded.append (List.singleton_sublist.mpr (List.mem_append_right _ hj)), hrest,
    fun i hi => ?_, fun _ i hi => ?_⟩
  · rcases List.mem_append.mp hi with hi | hi
    · exact (hpast i hi).imp_left (List.mem_append_left _)
    · rcases hfuture hopen i (hsplit ▸ List.mem_append_left _ hi) with hiq | hi'
      · rw [hqueue] at hiq
        rcases List.mem_append.mp hiq with hiq | hiq
        · exact Or.inr (hdropped i hiq)
        · rcases List.mem_cons.mp hiq with rfl | hiq
          · exact Or.inl (by simp)
          · exact absurd rfl (hdisjoint i hi i (hrest.subset hiq))
      · exact Or.inr hi'
  · rcases hfuture hopen i (hsplit ▸ List.mem_append_right _ hi) with hiq | hi'
    · rw [hqueue] at hiq
      rcases List.mem_append.mp hiq with hiq | hiq
      · exact Or.inr (hdropped i hiq)
      · rcases List.mem_cons.mp hiq with rfl | hiq
        · exact absurd rfl (hdisjoint i (List.mem_append_right _ hj) i hi)
        · exact Or.inl hiq
    · exact Or.inr hi'

end

/-! ## Slots and promises -/

/-- What is known of a gate in a run. -/
structure Counted (maxConcurrency maxQueueSize : Nat) (s : GateRun) : Prop where
  limits : s.gate.maxConcurrency = maxConcurrency ∧ s.gate.maxQueueSize = maxQueueSize
  fresh : ∀ i, s.gate.outcomes i = .none ↔ s.count ≤ i
  queued : ∀ i ∈ s.gate.queue, s.gate.outcomes i = .queued
  released : ∀ i ∈ s.released, s.gate.outcomes i = .granted
  active : s.holders.length = s.gate.activeCount
  active_le : s.gate.activeCount ≤ maxConcurrency
  queue_le : s.gate.queue.length ≤ maxQueueSize
  busy : s.gate.queue ≠ [] → s.gate.activeCount = maxConcurrency
  closed : s.gate.closed = true → s.gate.queue = []
  /-- Only an aborted waiter can have been dropped. -/
  pending : ∀ i, s.gate.outcomes i = .queued → i ∈ s.gate.queue ∨ s.isAborted i = true

/-- The order of a run. -/
structure Ordered (s : GateRun) : Prop where
  arrived : ∀ i ∈ s.arrivals, i < s.count
  turns : Turns (s.isAborted · = true) (s.gate.closed = true) s.arrivals s.handed s.gate.queue

structure Sound (maxConcurrency maxQueueSize : Nat) (s : GateRun) : Prop extends
  Counted maxConcurrency maxQueueSize s, Ordered s

variable {maxConcurrency maxQueueSize : Nat} {s s' : GateRun}

/-- One more element passes the filter. -/
theorem length_filter_flip {l : List Nat} (hl : l.Nodup) {p q : Nat → Bool} {j : Nat}
    (hj : j ∈ l) (hp : p j = false) (hq : q j = true) (hother : ∀ i, i ≠ j → q i = p i) :
    (l.filter q).length = (l.filter p).length + 1 := by
  have hperm : (l.filter q).Perm (j :: l.filter p) := by
    refine (List.perm_ext_iff_of_nodup (hl.filter q) ?_).mpr fun i => ?_
    · exact List.nodup_cons.mpr ⟨by simp [hp], hl.filter p⟩
    · by_cases hi : i = j
      · simp [hi, hj, hq]
      · simp [hi, hother i hi]
  exact hperm.length_eq

theorem Counted.lt_count (h : s.Counted maxConcurrency maxQueueSize) {i : CallId}
    (hi : s.gate.outcomes i ≠ .none) : i < s.count :=
  Nat.lt_of_not_le fun hle => hi ((h.fresh i).mpr hle)

/-- What holds a slot has been granted. -/
theorem holds_iff {i : CallId} :
    s.holds i = true ↔ s.gate.outcomes i = .granted ∧ i ∉ s.released := by
  simp [holds]

theorem isAborted_update {signal : Nat} {i : CallId} (hi : s.isAborted i = true) :
    (s.signals i).any (Function.update s.aborted signal true) = true := by
  unfold isAborted at hi
  rw [Option.any_eq_true] at hi ⊢
  obtain ⟨other, hother, hset⟩ := hi
  refine ⟨other, hother, ?_⟩
  by_cases heq : other = signal
  · simp [heq]
  · simpa [heq] using hset

/-- What a release does: the slot is handed over, or stays free. -/
theorem Sound.release_cases (h : s.Sound maxConcurrency maxQueueSize) {i : CallId}
    (hi : s.holds i = true) :
    ((∀ j ∈ s.gate.queue, s.isAborted j = true) ∧ s.release i =
        { s with
          gate := { s.gate with activeCount := s.gate.activeCount - 1, queue := [] }
          released := i :: s.released }) ∨
      ∃ dropped j rest, s.gate.queue = dropped ++ j :: rest ∧
        (∀ k ∈ dropped, s.isAborted k = true) ∧ s.isAborted j = false ∧
        s.gate.closed = false ∧ s.release i =
          { s with
            gate := { s.gate.setOutcome j .granted with queue := rest }
            released := i :: s.released
            handed := s.handed ++ [j] } := by
  have hpos : 0 < s.gate.activeCount := by
    rw [← h.active]
    exact List.length_pos_of_mem (List.mem_filter.mpr
      ⟨List.mem_range.mpr (h.lt_count (by simp [(holds_iff.mp hi).1])), hi⟩)
  have hfree : s.gate.activeCount - 1 < s.gate.maxConcurrency := by
    rw [h.limits.1]
    have hle := h.active_le
    omega
  -- of the queue, only one that is handed the slot is granted
  have hnone : s.gate.queue.filter (s.gate.outcomes · = .granted) = [] :=
    List.filter_eq_nil_iff.mpr fun j hj => by simp [h.queued j hj]
  unfold release RequestGate.releaseWith
  dsimp only
  by_cases hclosed : s.gate.closed = true
  · have hempty := h.closed hclosed
    refine Or.inl ⟨by simp [hempty], ?_⟩
    simp [hclosed, hempty]
  · simp only [Bool.not_eq_true] at hclosed
    rw [if_pos ⟨hclosed, hfree⟩]
    rcases @RequestGate.handOver_cases { s.gate with activeCount := s.gate.activeCount - 1 }
      s.isAborted s.gate.queue with
      ⟨hall, heq⟩ | ⟨dropped, j, rest, hqueue, hdropped, hj, heq⟩
    · refine Or.inl ⟨hall, ?_⟩
      rw [heq]
      simp [hnone]
    · refine Or.inr ⟨dropped, j, rest, hqueue, hdropped, hj, hclosed, ?_⟩
      have hnodup : (dropped ++ j :: rest).Nodup := hqueue ▸ h.turns.nodup_queue
      have hqueued := h.queued
      rw [hqueue] at hqueued
      obtain ⟨-, hrest, hdisjoint⟩ := List.nodup_append.mp hnodup
      have hdropped' : dropped.filter
          (Function.update s.gate.outcomes j .granted · = .granted) = [] :=
        List.filter_eq_nil_iff.mpr fun k hk => by
          have hne : k ≠ j := hdisjoint k hk j (List.mem_cons_self ..)
          simp [hne, hqueued k (List.mem_append_left _ hk)]
      have hrest' : rest.filter
          (Function.update s.gate.outcomes j .granted · = .granted) = [] :=
        List.filter_eq_nil_iff.mpr fun k hk => by
          have hne : k ≠ j := fun heq => (List.nodup_cons.mp hrest).1 (heq ▸ hk)
          simp [hne, hqueued k (List.mem_append_right _ (List.mem_cons_of_mem _ hk))]
      have hhanded : s.gate.queue.filter
          (Function.update s.gate.outcomes j .granted · = .granted) = [j] := by
        rw [hqueue, List.filter_append, List.filter_cons, hdropped', hrest']
        simp
      rw [heq]
      simp only [RequestGate.setOutcome, Nat.sub_add_cancel hpos]
      congr 1
      exact congrArg (s.handed ++ ·) hhanded

theorem holders_congr (hcount : s'.count = s.count) (hholds : ∀ i, s'.holds i = s.holds i) :
    s'.holders = s.holders := by
  unfold holders
  rw [hcount]
  exact List.filter_congr fun i _ => hholds i

/-- A call whose promise becomes `outcome` at once. -/
theorem Sound.call (h : s.Sound maxConcurrency maxQueueSize) (signal : Option Nat)
    (outcome : SlotOutcome) {gate : RequestGate} {arrivals : List CallId}
    (hs : s' = { s with
      gate, count := s.count + 1, signals := Function.update s.signals s.count signal, arrivals })
    (hlimits : gate.maxConcurrency = s.gate.maxConcurrency ∧
      gate.maxQueueSize = s.gate.maxQueueSize)
    (hclosed : gate.closed = s.gate.closed)
    (houtcomes : gate.outcomes = Function.update s.gate.outcomes s.count outcome)
    (houtcome : outcome ≠ .none)
    (hqueue : gate.queue = s.gate.queue ++ if outcome = .queued then [s.count] else [])
    (harrivals : arrivals = s.arrivals ++ if outcome = .queued then [s.count] else [])
    (hactive : gate.activeCount = s.gate.activeCount + if outcome = .granted then 1 else 0)
    (hactive_le : gate.activeCount ≤ maxConcurrency)
    (hqueue_le : gate.queue.length ≤ maxQueueSize)
    (hbusy : gate.queue ≠ [] → gate.activeCount = maxConcurrency)
    (hopen : gate.closed = true → gate.queue = []) :
    s'.Sound maxConcurrency maxQueueSize := by
  subst hs
  have hnew : s.count ∉ s.arrivals := fun hmem => Nat.lt_irrefl _ (h.arrived _ hmem)
  have hnone : s.gate.outcomes s.count = .none := (h.fresh _).mpr (Nat.le_refl _)
  have hnew' : s.count ∉ s.released := fun hmem => by
    rw [h.released _ hmem] at hnone
    cases hnone
  have habortedOf : ∀ i, i ≠ s.count →
      (Function.update s.signals s.count signal i).any s.aborted = s.isAborted i := by
    intro i hi
    rw [Function.update_of_ne hi]
    rfl
  have hmem : ∀ i ∈ gate.queue, i ∈ s.gate.queue ∨ i = s.count ∧ outcome = .queued := by
    intro i hi
    rw [hqueue] at hi
    rcases List.mem_append.mp hi with hi | hi
    · exact Or.inl hi
    · split at hi
      · rename_i hq
        exact Or.inr ⟨List.mem_singleton.mp hi, hq⟩
      · cases hi
  refine ⟨⟨⟨hlimits.1.trans h.limits.1, hlimits.2.trans h.limits.2⟩, fun i => ?_, fun i hi => ?_,
    fun i hi => ?_, ?_, hactive_le, hqueue_le, hbusy,
    hopen, fun i hi => ?_⟩, ⟨fun i hi => ?_, ?_⟩⟩
  · dsimp only
    rw [houtcomes]
    by_cases hi : i = s.count
    · subst hi
      simp [houtcome]
    · rw [Function.update_of_ne hi, h.fresh i]
      exact ⟨fun hle => Nat.lt_of_le_of_ne hle (Ne.symm hi), Nat.le_of_lt⟩
  · dsimp only at hi ⊢
    rw [houtcomes]
    rcases hmem i hi with hi | ⟨rfl, hq⟩
    · have hne : i ≠ s.count := fun heq => by
        rw [← heq, h.queued i hi] at hnone
        cases hnone
      rw [Function.update_of_ne hne]
      exact h.queued i hi
    · simp [hq]
  · dsimp only at hi ⊢
    have hne : i ≠ s.count := fun heq => hnew' (heq ▸ hi)
    rw [houtcomes, Function.update_of_ne hne]
    exact h.released i hi
  · -- the slots are those of before, and perhaps the new one
    have hsame : ∀ i ∈ List.range s.count,
        decide (gate.outcomes i = .granted ∧ i ∉ s.released) = s.holds i := by
      intro i hi
      have hne : i ≠ s.count := Nat.ne_of_lt (List.mem_range.mp hi)
      simp only [houtcomes, Function.update_of_ne hne, holds]
    change ((List.range (s.count + 1)).filter fun i =>
      decide (gate.outcomes i = .granted ∧ i ∉ s.released)).length = gate.activeCount
    rw [List.range_succ, List.filter_append, List.filter_congr hsame, List.length_append, hactive,
      ← h.active]
    by_cases ho : outcome = .granted
    · simp [houtcomes, ho, hnew', holders]
    · simp [houtcomes, ho, holders]
  · dsimp only at hi
    by_cases hne : i = s.count
    · subst hne
      simp only [houtcomes, Function.update_self] at hi
      refine Or.inl ?_
      dsimp only
      rw [hqueue, if_pos hi]
      exact List.mem_append_right _ (List.mem_singleton_self _)
    · rw [houtcomes, Function.update_of_ne hne] at hi
      refine (h.pending i hi).imp (fun hi => ?_) fun hi => (habortedOf i hne).trans hi
      dsimp only
      rw [hqueue]
      exact List.mem_append_left _ hi
  · dsimp only at hi
    rw [harrivals] at hi
    rcases List.mem_append.mp hi with hi | hi
    · exact Nat.lt_succ_of_lt (h.arrived i hi)
    · split at hi
      · exact List.mem_singleton.mp hi ▸ Nat.lt_succ_self _
      · cases hi
  · have hturns : Turns (fun i => (Function.update s.signals s.count signal i).any s.aborted = true)
        (gate.closed = true) s.arrivals s.handed s.gate.queue := by
      refine h.turns.mono (fun i hi haborted => ?_) (fun hc => hclosed.trans hc)
      exact (habortedOf i (fun heq => hnew (heq ▸ hi))).trans haborted
    change Turns (fun i => (Function.update s.signals s.count signal i).any s.aborted = true)
      (gate.closed = true) arrivals s.handed gate.queue
    rw [hqueue, harrivals]
    split
    · exact hturns.push hnew
    · simpa using hturns

theorem Sound.acquire (h : s.Sound maxConcurrency maxQueueSize) (signal : Option Nat) :
    (s.acquire signal).Sound maxConcurrency maxQueueSize := by
  obtain ⟨hmax, hmaxQueue⟩ := h.limits
  have heq : s.acquire signal = { s with
      gate := s.gate.acquire s.count (signal.any s.aborted)
      count := s.count + 1
      signals := Function.update s.signals s.count signal
      arrivals := s.arrivals ++
        if (s.gate.acquire s.count (signal.any s.aborted)).outcomes s.count = .queued then [s.count]
        else [] } := rfl
  rcases @RequestGate.acquire_cases s.gate s.count (signal.any s.aborted) with
    ⟨error, hgate⟩ | ⟨-, hopen, hfree, hgate⟩ | ⟨-, hopen, hfull, hroom, hgate⟩
  all_goals rw [hgate] at heq
  · exact h.call signal (.rejected error) heq ⟨rfl, rfl⟩ rfl rfl (by simp)
      (by simp [RequestGate.setOutcome]) (by simp [RequestGate.setOutcome])
      (by simp [RequestGate.setOutcome]) h.active_le h.queue_le h.busy h.closed
  · have hempty : s.gate.queue = [] := by
      by_contra hne
      exact absurd (h.busy hne) (Nat.ne_of_lt (hmax ▸ hfree))
    exact h.call signal .granted heq ⟨rfl, rfl⟩ rfl rfl (by simp)
      (by simp [RequestGate.setOutcome]) (by simp [RequestGate.setOutcome])
      (by simp) (hmax ▸ hfree) h.queue_le (fun hne => absurd hempty hne) h.closed
  · refine h.call signal .queued heq ⟨rfl, rfl⟩ rfl rfl (by simp)
      (by simp) (by simp [RequestGate.setOutcome])
      (by simp [RequestGate.setOutcome]) h.active_le ?_ ?_ ?_
    · simp only [List.length_append, List.length_singleton]
      exact hmaxQueue ▸ hroom
    · intro _
      exact Nat.le_antisymm h.active_le (hmax ▸ hfull)
    · intro hclosed
      exact absurd (hclosed.symm.trans hopen) (by simp)

theorem Sound.abort (h : s.Sound maxConcurrency maxQueueSize) (signal : Nat) :
    ({ s with aborted := Function.update s.aborted signal true } : GateRun).Sound maxConcurrency
      maxQueueSize where
  limits := h.limits
  fresh := h.fresh
  queued := h.queued
  released := h.released
  active := h.active
  active_le := h.active_le
  queue_le := h.queue_le
  busy := h.busy
  closed := h.closed
  pending := fun i hi => (h.pending i hi).imp_right isAborted_update
  arrived := h.arrived
  turns := h.turns.mono (fun _ _ => isAborted_update) id

/-- Promises of the queue that are rejected, and leave it. -/
theorem Sound.reject (h : s.Sound maxConcurrency maxQueueSize) {gate : RequestGate}
    (hlimits : gate.maxConcurrency = s.gate.maxConcurrency ∧
      gate.maxQueueSize = s.gate.maxQueueSize)
    (hactive : gate.activeCount = s.gate.activeCount)
    (hqueue : gate.queue.Sublist s.gate.queue)
    (hclosed : s.gate.closed = true → gate.closed = true)
    (hempty : gate.closed = true → gate.queue = [])
    (hrejected : ∀ i, gate.outcomes i = s.gate.outcomes i ∧ (i ∈ s.gate.queue → i ∈ gate.queue) ∨
      s.gate.outcomes i = .queued ∧ i ∉ gate.queue ∧
        (s.isAborted i = true ∨ gate.closed = true) ∧ ∃ error, gate.outcomes i = .rejected error) :
    ({ s with gate } : GateRun).Sound maxConcurrency maxQueueSize := by
  -- nobody gives up a slot by it
  have hholds : ∀ i, ({ s with gate } : GateRun).holds i = s.holds i := by
    intro i
    unfold holds
    rcases hrejected i with ⟨heq, -⟩ | ⟨hbefore, -, -, error, hafter⟩
    · simp only [heq]
    · simp [hbefore, hafter]
  refine ⟨⟨⟨hlimits.1.trans h.limits.1, hlimits.2.trans h.limits.2⟩, fun i => ?_, fun i hi => ?_,
    fun i hi => ?_, ?_, hactive ▸ h.active_le, Nat.le_trans hqueue.length_le h.queue_le,
    fun hne => ?_, hempty,
    fun i hi => ?_⟩, ⟨h.arrived, ?_⟩⟩
  · rcases hrejected i with ⟨heq, -⟩ | ⟨hbefore, -, -, error, hafter⟩
    · simp only [heq, h.fresh i]
    · have hlt : i < s.count := h.toCounted.lt_count (by simp [hbefore])
      simp only [hafter]
      exact iff_of_false (by simp) (Nat.not_le.mpr hlt)
  · rcases hrejected i with ⟨heq, -⟩ | ⟨-, hleft, -⟩
    · exact heq.trans (h.queued i (hqueue.subset hi))
    · exact absurd hi hleft
  · rcases hrejected i with ⟨heq, -⟩ | ⟨hbefore, -⟩
    · exact heq.trans (h.released i hi)
    · rw [h.released i hi] at hbefore
      cases hbefore
  · have hsame : ({ s with gate } : GateRun).holders = s.holders := holders_congr rfl hholds
    rw [hsame, h.active]
    exact hactive.symm
  · exact hactive.trans (h.busy fun hnil => hne (List.sublist_nil.mp (hnil ▸ hqueue)))
  · rcases hrejected i with ⟨heq, hkept⟩ | ⟨-, -, -, error, hafter⟩
    · exact (h.pending i (heq ▸ hi)).imp_left hkept
    · dsimp only at hi
      rw [hafter] at hi
      cases hi
  · refine (h.turns.mono (fun _ _ => id) hclosed).leave hqueue fun hopen i hi => ?_
    rcases hrejected i with ⟨-, hkept⟩ | ⟨-, -, hwhy, -⟩
    · exact Or.inl (hkept hi)
    · exact Or.inr (hwhy.resolve_right hopen)

/-- The listener of a waiter that is queued. -/
theorem Sound.listener (h : s.Sound maxConcurrency maxQueueSize) {i : CallId}
    (hi : i ∈ s.gate.queue) (haborted : s.isAborted i = true) :
    ({ s with gate := s.gate.abort i } : GateRun).Sound maxConcurrency maxQueueSize := by
  unfold RequestGate.abort
  rw [if_pos hi]
  refine h.reject ⟨rfl, rfl⟩ rfl List.filter_sublist id (fun hclosed => ?_) fun j => ?_
  · have hempty := h.closed hclosed
    simp [hempty]
  · by_cases hj : j = i
    · subst hj
      exact Or.inr ⟨h.queued j hi, by simp, Or.inl haborted, abortError,
        by simp [RequestGate.setOutcome]⟩
    · exact Or.inl ⟨by simp [RequestGate.setOutcome, hj], fun hmem => by simp [hmem, hj]⟩

theorem Sound.close (h : s.Sound maxConcurrency maxQueueSize) :
    ({ s with gate := s.gate.close } : GateRun).Sound maxConcurrency maxQueueSize := by
  unfold RequestGate.close
  split
  · exact h
  · refine h.reject ⟨rfl, rfl⟩ rfl (List.nil_sublist _) (fun _ => rfl) (fun _ => rfl) fun j => ?_
    by_cases hj : j ∈ s.gate.queue
    · exact Or.inr ⟨h.queued j hj, by simp, Or.inr rfl, _, if_pos hj⟩
    · exact Or.inl ⟨if_neg hj, fun hmem => absurd hmem hj⟩

/-- A slot that is released is one less. -/
theorem Sound.holders_release (h : s.Sound maxConcurrency maxQueueSize) {i : CallId}
    (hi : s.holds i = true) (hs : s'.count = s.count)
    (hholds : ∀ j, s'.holds j = true ↔ s.holds j = true ∧ j ≠ i) :
    s'.holders.length + 1 = s.gate.activeCount := by
  rw [← h.active]
  unfold holders
  rw [hs]
  have hmem : i ∈ List.range s.count :=
    List.mem_range.mpr (h.toCounted.lt_count (by simp [(holds_iff.mp hi).1]))
  refine (length_filter_flip List.nodup_range hmem ?_ hi fun j hj => ?_).symm
  · have hnot : ¬ s'.holds i = true := fun h => ((hholds i).mp h).2 rfl
    simpa using hnot
  · rw [Bool.eq_iff_iff, hholds j]
    simp [hj]

theorem Sound.release (h : s.Sound maxConcurrency maxQueueSize) {i : CallId}
    (hi : s.holds i = true) : (s.release i).Sound maxConcurrency maxQueueSize := by
  obtain ⟨hgranted, hnot⟩ := holds_iff.mp hi
  have hreleased : ∀ j ∈ i :: s.released, s.gate.outcomes j = .granted :=
    List.forall_mem_cons.mpr ⟨hgranted, h.released⟩
  have hcount : ({ s with released := i :: s.released } : GateRun).holders.length + 1 =
      s.gate.activeCount := by
    refine h.holders_release hi rfl fun j => ?_
    simp only [holds_iff, List.mem_cons, not_or]
    exact ⟨fun ⟨hj, hne, hmem⟩ => ⟨⟨hj, hmem⟩, hne⟩, fun ⟨⟨hj, hmem⟩, hne⟩ => ⟨hj, hne, hmem⟩⟩
  rcases h.release_cases hi with ⟨hall, heq⟩ | ⟨dropped, j, rest, hqueue, hdropped, hj, hopen, heq⟩
  · -- nobody is waiting but the aborted
    rw [heq]
    refine ⟨⟨h.limits, h.fresh, by simp, hreleased, ?_, ?_, by simp, by simp, fun _ => rfl,
      fun k hk => ?_⟩, ⟨h.arrived, ?_⟩⟩
    · exact Nat.eq_sub_of_add_eq hcount
    · exact Nat.le_trans (Nat.sub_le _ _) h.active_le
    · exact (h.pending k hk).elim (fun hk => Or.inr (hall k hk)) Or.inr
    · exact h.turns.leave (List.nil_sublist _) fun _ k hk => Or.inr (hall k hk)
  · rw [heq]
    have hturns : Turns (s.isAborted · = true) (s.gate.closed = true) s.arrivals (s.handed ++ [j])
        rest := h.turns.hand (by simp [hopen]) hqueue hdropped
    have hmem : ∀ k, k ∈ s.gate.queue ↔ k ∈ dropped ∨ k = j ∨ k ∈ rest := by
      intro k
      rw [hqueue, List.mem_append, List.mem_cons]
    have hbefore : s.gate.outcomes j = .queued := h.queued j ((hmem j).mpr (Or.inr (Or.inl rfl)))
    have hjnot : j ∉ i :: s.released := fun hmem' => by
      rw [hreleased j hmem'] at hbefore
      cases hbefore
    have hfull : s.gate.activeCount = maxConcurrency :=
      h.busy (List.ne_nil_of_mem ((hmem j).mpr (Or.inr (Or.inl rfl))))
    have hrest : j ∉ rest := by
      have hnodup : (dropped ++ j :: rest).Nodup := hqueue ▸ h.turns.nodup_queue
      exact (List.nodup_cons.mp (List.nodup_append.mp hnodup).2.1).1
    have hlt : j < s.count := h.toCounted.lt_count (by simp [hbefore])
    refine ⟨⟨h.limits, fun k => ?_, fun k hk => ?_, fun k hk => ?_, ?_, h.active_le, ?_,
      fun _ => hfull, fun hc => absurd (hc.symm.trans hopen) (by simp), fun k hk => ?_⟩,
      ⟨h.arrived, hturns⟩⟩
    · by_cases hkj : k = j
      · subst hkj
        exact iff_of_false (by simp [RequestGate.setOutcome]) (Nat.not_le.mpr hlt)
      · simpa [RequestGate.setOutcome, hkj] using h.fresh k
    · have hkj : k ≠ j := fun heq => hrest (heq ▸ hk)
      have hqueued := h.queued k ((hmem k).mpr (Or.inr (Or.inr hk)))
      simpa [RequestGate.setOutcome, hkj] using hqueued
    · have hkj : k ≠ j := fun heq => hjnot (heq ▸ hk)
      simpa [RequestGate.setOutcome, hkj] using hreleased k hk
    · refine Eq.trans ?_ hcount
      refine length_filter_flip List.nodup_range (List.mem_range.mpr hlt) ?_ ?_ fun k hk => ?_
      · simp [holds, hbefore]
      · simpa [holds, RequestGate.setOutcome] using hjnot
      · simp [holds, RequestGate.setOutcome, hk]
    · have hle := h.queue_le
      rw [hqueue, List.length_append, List.length_cons] at hle
      exact Nat.le_trans (Nat.le_succ _) (Nat.le_trans (Nat.le_add_left _ _) hle)
    · by_cases hkj : k = j
      · subst hkj
        simp [RequestGate.setOutcome] at hk
      · simp only [RequestGate.setOutcome, Function.update_of_ne hkj] at hk
        rcases h.pending k hk with hk | hk
        · rcases (hmem k).mp hk with hk | hk | hk
          · exact Or.inr (hdropped k hk)
          · exact absurd hk hkj
          · exact Or.inl hk
        · exact Or.inr hk

theorem sound_init : (machine maxConcurrency maxQueueSize).init.Sound maxConcurrency
    maxQueueSize where
  limits := ⟨rfl, rfl⟩
  fresh := fun i => iff_of_true rfl (Nat.zero_le i)
  queued := by simp [machine, RequestGate.create]
  released := by simp [machine]
  active := rfl
  active_le := Nat.zero_le _
  queue_le := Nat.zero_le _
  busy := fun hne => absurd rfl hne
  closed := fun _ => rfl
  pending := fun i hi => by cases hi
  arrived := by simp [machine]
  turns := ⟨List.nodup_nil, [], [], rfl, List.Sublist.refl _, List.Sublist.refl _, by simp,
    by simp⟩

theorem Sound.step {e : GateEvent} (h : s.Sound maxConcurrency maxQueueSize)
    (hs : s.step e = some s') : s'.Sound maxConcurrency maxQueueSize := by
  cases e with
  | acquire signal => exact Option.some.inj hs ▸ h.acquire signal
  | abort signal => exact Option.some.inj hs ▸ h.abort signal
  | listener i =>
      obtain ⟨⟨hi, haborted⟩, heq⟩ := Option.ite_none_right_eq_some.mp hs
      exact Option.some.inj heq ▸ h.listener hi haborted
  | release i =>
      obtain ⟨hi, heq⟩ := Option.ite_none_right_eq_some.mp hs
      exact Option.some.inj heq ▸ h.release hi
  | close => exact Option.some.inj hs ▸ h.close

theorem Sound.limited (h : s.Sound maxConcurrency maxQueueSize) :
    s.Limited maxConcurrency maxQueueSize where
  active := h.active
  active_le := h.active_le
  queue_le := h.queue_le
  busy := fun i hi haborted => by
    rcases h.pending i hi with hmem | hset
    · exact h.busy (List.ne_nil_of_mem hmem)
    · exact absurd (hset.symm.trans haborted) (by simp)

theorem Sound.fair (h : s.Sound maxConcurrency maxQueueSize) : s.Fair where
  sublist := h.turns.sublist
  first := fun _ _ hij hj => h.turns.first hij hj

/-! ## What becomes of the promises -/

theorem settles_of_eq (hgate : s'.gate.outcomes = s.gate.outcomes) : s.Settles s' where
  once := fun i _ => congrFun hgate i
  granted := fun i hbefore hafter => absurd (congrFun hgate i ▸ hafter) hbefore

/-- Promises that are rejected. -/
theorem settles_of_rejected (hrejected : ∀ i, s'.gate.outcomes i = s.gate.outcomes i ∨
    s.gate.outcomes i = .queued ∧ ∃ error, s'.gate.outcomes i = .rejected error) :
    s.Settles s' where
  once := fun i hsettled => by
    rcases hrejected i with heq | ⟨hbefore, -⟩
    · exact heq
    · simp [hbefore, SlotOutcome.settled] at hsettled
  granted := fun i hbefore hafter => by
    rcases hrejected i with heq | ⟨-, error, hrej⟩
    · exact absurd (heq ▸ hafter) hbefore
    · rw [hrej] at hafter
      cases hafter

theorem Sound.settles_acquire (h : s.Sound maxConcurrency maxQueueSize) (signal : Option Nat) :
    s.Settles (s.acquire signal) := by
  have hnone : s.gate.outcomes s.count = .none := (h.fresh _).mpr (Nat.le_refl _)
  obtain ⟨outcome, houtcomes, hgranted⟩ : ∃ outcome,
      (s.acquire signal).gate.outcomes = Function.update s.gate.outcomes s.count outcome ∧
        (outcome = .granted → signal.any s.aborted = false ∧
          (s.acquire signal).gate.closed = false) := by
    unfold GateRun.acquire
    rcases @RequestGate.acquire_cases s.gate s.count (signal.any s.aborted) with
      ⟨error, hgate⟩ | ⟨hflag, hopen, -, hgate⟩ | ⟨-, -, -, -, hgate⟩
    · exact ⟨.rejected error, by rw [hgate]; rfl, by simp⟩
    · exact ⟨.granted, by rw [hgate]; rfl, fun _ => ⟨hflag, by rw [hgate]; exact hopen⟩⟩
    · exact ⟨.queued, by rw [hgate]; rfl, by simp⟩
  refine ⟨fun i hsettled => ?_, fun i hbefore hafter => ?_⟩
  · have hne : i ≠ s.count := by
      rintro rfl
      simp [hnone, SlotOutcome.settled] at hsettled
    rw [houtcomes, Function.update_of_ne hne]
  · by_cases hi : i = s.count
    · subst hi
      rw [houtcomes, Function.update_self] at hafter
      obtain ⟨hflag, hopen⟩ := hgranted hafter
      exact ⟨by simpa [isAborted, GateRun.acquire] using hflag, hopen⟩
    · rw [houtcomes, Function.update_of_ne hi] at hafter
      exact absurd hafter hbefore

theorem Sound.settles_release (h : s.Sound maxConcurrency maxQueueSize) {i : CallId}
    (hi : s.holds i = true) : s.Settles (s.release i) := by
  rcases h.release_cases hi with ⟨-, heq⟩ | ⟨dropped, j, rest, hqueue, -, hj, hopen, heq⟩
  · rw [heq]
    exact settles_of_eq rfl
  · rw [heq]
    have hbefore : s.gate.outcomes j = .queued := h.queued j (by simp [hqueue])
    refine ⟨fun k hsettled => ?_, fun k hnot hafter => ?_⟩
    · have hne : k ≠ j := by
        rintro rfl
        simp [hbefore, SlotOutcome.settled] at hsettled
      exact Function.update_of_ne hne _ _
    · by_cases hk : k = j
      · subst hk
        exact ⟨hj, hopen⟩
      · simp only [RequestGate.setOutcome, Function.update_of_ne hk] at hafter
        exact absurd hafter hnot

theorem Sound.settles {e : GateEvent} (h : s.Sound maxConcurrency maxQueueSize)
    (hs : s.step e = some s') : s.Settles s' := by
  cases e with
  | acquire signal => exact Option.some.inj hs ▸ h.settles_acquire signal
  | abort signal => exact settles_of_eq (Option.some.inj hs ▸ rfl)
  | listener i =>
      obtain ⟨⟨hi, -⟩, heq⟩ := Option.ite_none_right_eq_some.mp hs
      refine Option.some.inj heq ▸ settles_of_rejected fun j => ?_
      unfold RequestGate.abort
      rw [if_pos hi]
      by_cases hj : j = i
      · subst hj
        exact Or.inr ⟨h.queued j hi, abortError, by simp [RequestGate.setOutcome]⟩
      · exact Or.inl (by simp [RequestGate.setOutcome, hj])
  | release i =>
      obtain ⟨hi, heq⟩ := Option.ite_none_right_eq_some.mp hs
      exact Option.some.inj heq ▸ h.settles_release hi
  | close =>
      refine Option.some.inj hs ▸ settles_of_rejected fun j => ?_
      unfold RequestGate.close
      split
      · exact Or.inl rfl
      · by_cases hj : j ∈ s.gate.queue
        · exact Or.inr ⟨h.queued j hj, _, if_pos hj⟩
        · exact Or.inl (if_neg hj)

/-! ## Callers that are lost -/

/-- The promise of `i` has been forgotten. -/
def Lost (s : GateRun) (i : CallId) : Prop := s.gate.outcomes i = .queued ∧ i ∉ s.gate.queue

theorem Sound.noneLost_iff (h : s.Sound maxConcurrency maxQueueSize) :
    s.NoneLost ↔ ∀ i, ¬ s.Lost i := by
  unfold NoneLost Lost
  constructor
  · intro hnone i ⟨hi, hleft⟩
    exact hleft (hnone i (h.toCounted.lt_count (by simp [hi])) (by simp [hi, SlotOutcome.settled]))
  · intro hnone i hlt hnot
    by_contra hleft
    refine hnone i ⟨?_, hleft⟩
    cases hi : s.gate.outcomes i with
    | none => exact absurd ((h.fresh i).mp hi) (Nat.not_le.mpr hlt)
    | queued => rfl
    | granted | rejected error => simp [hi, SlotOutcome.settled] at hnot

theorem Sound.lost_acquire (h : s.Sound maxConcurrency maxQueueSize) (signal : Option Nat)
    (i : CallId) : (s.acquire signal).Lost i ↔ s.Lost i := by
  have hnone : s.gate.outcomes s.count = .none := (h.fresh _).mpr (Nat.le_refl _)
  unfold Lost GateRun.acquire
  rcases @RequestGate.acquire_cases s.gate s.count (signal.any s.aborted) with
    ⟨error, hgate⟩ | ⟨-, -, -, hgate⟩ | ⟨-, -, -, -, hgate⟩
  all_goals
    rw [hgate]
    by_cases hi : i = s.count
    · simp [RequestGate.setOutcome, hi, hnone]
    · simp [RequestGate.setOutcome, hi]

/-- A release loses the aborted waiters that it meets. -/
theorem Sound.lost_release (h : s.Sound maxConcurrency maxQueueSize) {i : CallId}
    (hi : s.holds i = true) :
    (∀ j, ¬ (s.release i).Lost j) ↔
      (∀ j, ¬ s.Lost j) ∧ ∀ j ∈ s.gate.queue.head?, s.isAborted j = false := by
  rcases h.release_cases hi with ⟨hall, heq⟩ | ⟨dropped, j, rest, hqueue, hdropped, hj, -, heq⟩
  · -- the queue is emptied
    have hlost : ∀ k, (s.release i).Lost k ↔ s.gate.outcomes k = .queued := by
      intro k
      rw [heq]
      simp [Lost]
    simp only [hlost]
    constructor
    · intro hnone
      refine ⟨fun k hk => hnone k hk.1, fun k hk => absurd (h.queued k ?_) (hnone k)⟩
      exact List.mem_of_mem_head? hk
    · intro ⟨hnone, hhead⟩ k hk
      refine hnone k ⟨hk, ?_⟩
      cases hqueue : s.gate.queue with
      | nil => simp
      | cons first rest =>
          have hset := hall first (by simp [hqueue])
          rw [hhead first (by simp [hqueue])] at hset
          cases hset
  · have hnodup : (dropped ++ j :: rest).Nodup := hqueue ▸ h.turns.nodup_queue
    obtain ⟨-, -, hdisjoint⟩ := List.nodup_append.mp hnodup
    have hlost : ∀ k, (s.release i).Lost k ↔ k ≠ j ∧ s.gate.outcomes k = .queued ∧ k ∉ rest := by
      intro k
      rw [heq]
      by_cases hk : k = j
      · simp [Lost, RequestGate.setOutcome, hk]
      · simp [Lost, RequestGate.setOutcome, hk]
    simp only [hlost]
    constructor
    · intro hnone
      refine ⟨fun k ⟨hk, hleft⟩ => ?_, fun k hk => ?_⟩
      · rw [hqueue] at hleft
        simp only [List.mem_append, List.mem_cons, not_or] at hleft
        exact hnone k ⟨hleft.2.1, hk, hleft.2.2⟩
      · cases dropped with
        | nil =>
            rw [hqueue] at hk
            obtain rfl := Option.some.inj hk
            exact hj
        | cons first dropped =>
            have hmem : first ∈ first :: dropped := List.mem_cons_self ..
            refine absurd ⟨hdisjoint first hmem j (List.mem_cons_self ..), ?_, ?_⟩ (hnone first)
            · exact h.queued first (by simp [hqueue])
            · exact fun hrest => hdisjoint first hmem first (List.mem_cons_of_mem _ hrest) rfl
    · intro ⟨hnone, hhead⟩ k ⟨hne, hk, hrest⟩
      cases dropped with
      | nil => exact hnone k ⟨hk, by simp [hqueue, hne, hrest]⟩
      | cons first dropped =>
          have hset := hdropped first (List.mem_cons_self ..)
          rw [hhead first (by simp [hqueue])] at hset
          cases hset

theorem Sound.noneLost_step {e : GateEvent} (h : s.Sound maxConcurrency maxQueueSize)
    (hs : s.step e = some s') : s'.NoneLost ↔ s.NoneLost ∧ s.NotDropping e := by
  rw [(h.step hs).noneLost_iff, h.noneLost_iff]
  cases e with
  | acquire signal =>
      obtain rfl := Option.some.inj hs
      simp only [h.lost_acquire, NotDropping, and_true]
  | abort signal =>
      obtain rfl := Option.some.inj hs
      simp only [Lost, NotDropping, and_true]
  | listener i =>
      obtain ⟨⟨hi, -⟩, heq⟩ := Option.ite_none_right_eq_some.mp hs
      obtain rfl := Option.some.inj heq
      simp only [NotDropping, and_true]
      refine forall_congr' fun j => not_congr ?_
      unfold Lost RequestGate.abort
      rw [if_pos hi]
      by_cases hj : j = i
      · simp [RequestGate.setOutcome, hj, hi]
      · simp [RequestGate.setOutcome, hj]
  | release i =>
      obtain ⟨hi, heq⟩ := Option.ite_none_right_eq_some.mp hs
      obtain rfl := Option.some.inj heq
      exact h.lost_release hi
  | close =>
      obtain rfl := Option.some.inj hs
      simp only [NotDropping, and_true]
      refine forall_congr' fun j => not_congr ?_
      unfold Lost RequestGate.close
      dsimp only
      split
      · rfl
      · by_cases hj : j ∈ s.gate.queue <;> simp [hj]

end GateRun

open GateRun in
/-- In every run the slots and the queue are within their limits, the queue is served in order and
a promise settles at most once; each caller is settled or in the queue exactly if no release has
met an aborted waiter. -/
theorem requestGate_sound {maxConcurrency maxQueueSize : Nat} {es : List GateEvent} {s : GateRun}
    (hrun : (machine maxConcurrency maxQueueSize).run es = some s) :
    s.Limited maxConcurrency maxQueueSize ∧ s.Fair ∧
      (machine maxConcurrency maxQueueSize).EachStep (fun s _ s' => s.Settles s')
        (machine maxConcurrency maxQueueSize).init es ∧
      (s.NoneLost ↔ (machine maxConcurrency maxQueueSize).Guarded NotDropping
        (machine maxConcurrency maxQueueSize).init es) := by
  have hsound : s.Sound maxConcurrency maxQueueSize :=
    Machine.invariant sound_init (fun _ _ _ h hs => h.step hs) hrun
  refine ⟨hsound.limited, hsound.fair, ?_, ?_⟩
  · refine (Machine.eachStep_iff_guarded (I := Sound maxConcurrency maxQueueSize)
      (K := fun _ _ => True) (fun _ _ _ h hs => h.step hs)
      (fun _ _ _ h hs => iff_of_true (h.settles hs) trivial) sound_init hrun).mpr ?_
    exact Machine.guarded_of_forall fun _ _ _ => trivial
  · rw [Machine.runFrom_iff_guarded (I := Sound maxConcurrency maxQueueSize) (J := fun _ => True)
      (fun _ _ _ h _ hs => h.step hs) (fun _ _ _ h _ hs => h.noneLost_step hs) sound_init
      (fun _ _ => trivial) hrun]
    exact and_iff_right fun i hi => absurd hi (Nat.not_lt_zero i)

open GateRun in
theorem requestGate_sound_handed : ∃ s, (machine 1 1).run [.acquire none, .acquire (some 0),
    .release 0, .abort 0, .close] = some s ∧ s.Limited 1 1 ∧ s.handed = [1] :=
  have hrun : ∃ s, (machine 1 1).run [.acquire none, .acquire (some 0), .release 0, .abort 0,
      .close] = some s ∧ s.handed = [1] := ⟨_, rfl, by decide⟩
  let ⟨s, hrun, hhanded⟩ := hrun
  ⟨s, hrun, (requestGate_sound hrun).1, hhanded⟩

open GateRun in
/-- A release that comes between the abort of a signal and its listener. -/
theorem not_requestGate_sound : ∃ s, (machine 1 1).run [.acquire none, .acquire (some 0),
    .abort 0, .release 0, .close] = some s ∧ s.gate.outcomes 1 = .queued ∧ s.gate.queue = [] :=
  ⟨_, rfl, by decide, by decide⟩

end FitzTs.Client
