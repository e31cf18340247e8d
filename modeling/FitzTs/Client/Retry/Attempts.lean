import FitzTs.Client.Connection.Sending
import FitzTs.Client.Retry
/-!
# FitzTs.Client.Retry.Attempts

What holds of the attempts of an operation, and of their frames.

Each attempt but the last has failed in a way that lets the operation run again, and there
are no more of them than `maxAttempts`. An attempt makes one call of the connection, and a
call has one frame. Once the caller's signal has been aborted, no call of the operation gets
a frame any more.
-/

namespace FitzTs.Retry

open FitzTs.Client

variable {options : ConnectionOptions} {retry : RetryOptions} {s s' : Client} {x : Execution}
  {o : OperationId} {i : CallId} {a : Attempt} {outcome : Outcome}

namespace Execution

/-- The attempts after which the operation has gone on. -/
def past (x : Execution) : List Attempt :=
  match x.phase with
  | .backingOff _ => x.attempts
  | .attempting | .finished _ => x.attempts.tail

/-- The attempt has failed, and the operation may run again. -/
def Retried (x : Execution) (a : Attempt) : Prop :=
  ∃ outcome thrown, a.outcome = some outcome ∧ outcome.thrown x.operation.task = some thrown ∧
    x.operation.retryClass ≠ .waitOnly ∧
      shouldRetryOperation x.operation.retryClass thrown = true

/-- What an attempt has come to is what its task and the connection have done. -/
def Arises (x : Execution) (a : Attempt) : Prop :=
  ∀ outcome, a.outcome = some outcome →
    match outcome with
    | .threw thrown => ∃ capabilityIds, x.operation.task.prepare capabilityIds = .error thrown
    | .rejected thrown => ∀ resilience, thrown.resilience = some resilience →
        resilience.explicitNegative = false
    | .answered _ => a.call.isSome = true

/-- What holds of an operation after every run. -/
structure Kept (retry : RetryOptions) (x : Execution) : Prop where
  retried : ∀ a ∈ x.past, x.Retried a
  bounded : ∀ maxAttempts, retry.maxAttempts = some maxAttempts →
    x.past = [] ∨ (x.past.length : Int) < maxAttempts
  arises : ∀ a ∈ x.attempts, x.Arises a

theorem attempts_le_past (x : Execution) : x.attempts.length ≤ x.past.length + 1 := by
  unfold past
  cases x.phase <;> simp only [List.length_tail] <;> omega

/-- No more attempts than `max(1, maxAttempts)`. -/
theorem Kept.attempts_le (h : x.Kept retry) {maxAttempts : Int}
    (hmax : retry.maxAttempts = some maxAttempts) :
    (x.attempts.length : Int) ≤ max 1 maxAttempts := by
  have hle := x.attempts_le_past
  rcases h.bounded maxAttempts hmax with hnone | hlt
  · rw [hnone, List.length_nil] at hle
    omega
  · omega

/-- An operation that is only waited for is attempted once. -/
theorem Kept.waitOnly (h : x.Kept retry) (hclass : x.operation.retryClass = .waitOnly) :
    x.attempts.length ≤ 1 := by
  have hnone : x.past = [] := by
    refine List.eq_nil_iff_forall_not_mem.mpr fun a ha => ?_
    obtain ⟨-, -, -, -, hretried, -⟩ := h.retried a ha
    exact hretried hclass
  have hle := x.attempts_le_past
  rwa [hnone, List.length_nil, Nat.zero_add] at hle

theorem tail_subset_past (x : Execution) : x.attempts.tail ⊆ x.past := by
  unfold past
  cases x.phase with
  | backingOff => exact List.tail_subset _
  | attempting | finished => exact List.Subset.refl _

/-! ### The steps of an operation -/

/-- The task runs once more. -/
theorem Kept.attempts (h : x.Kept retry) (hpast : x.past = x.attempts) (ha : x.Arises a) :
    Kept retry { x with phase := .attempting, attempts := a :: x.attempts } where
  retried := fun a' ha' => h.retried a' (hpast ▸ ha')
  bounded := fun maxAttempts hmax => hpast ▸ h.bounded maxAttempts hmax
  arises := fun a' ha' => by
    rcases List.mem_cons.mp ha' with rfl | ha'
    · exact ha
    · exact h.arises a' ha'

/-- The task has settled. -/
theorem Kept.taskSettled (h : x.Kept retry) (hphase : x.phase = .attempting) {rest : List Attempt}
    (hattempts : x.attempts = a :: rest) (ha : x.Arises { a with outcome := some outcome })
    (jitterMs : Int) : (x.taskSettled retry outcome jitterMs).Kept retry := by
  have hpast : x.past = rest := by
    unfold past
    rw [hphase, hattempts]
    rfl
  have hrecord : x.record outcome =
      { x with attempts := { a with outcome := some outcome } :: rest } := by
    unfold record
    rw [hattempts]
  have harises : ∀ a' ∈ { a with outcome := some outcome } :: rest, x.Arises a' := by
    intro a' ha'
    rcases List.mem_cons.mp ha' with rfl | ha'
    · exact ha
    · exact h.arises a' (hattempts ▸ List.mem_cons_of_mem _ ha')
  have hfinished : ∀ thrown, Kept retry { x with
      attempts := { a with outcome := some outcome } :: rest, phase := .finished thrown } :=
    fun thrown => ⟨fun a' ha' => h.retried a' (hpast ▸ ha'),
      fun maxAttempts hmax => hpast ▸ h.bounded maxAttempts hmax, harises⟩
  unfold Execution.taskSettled
  rw [hrecord]
  dsimp only
  split
  · -- the task has succeeded, and nothing is retried
    exact hfinished none
  · rename_i thrown hthrown
    split
    · -- the attempt joins the past ones: its error was retryable
      rename_i hretries
      unfold retriesAfter at hretries
      simp only [Bool.and_eq_true, decide_eq_true_eq, Bool.not_eq_true'] at hretries
      obtain ⟨⟨⟨⟨-, hclass⟩, -⟩, hshould⟩, hleft⟩ := hretries
      refine ⟨fun a' ha' => ?_, fun maxAttempts hmax => Or.inr ?_, harises⟩
      · rcases List.mem_cons.mp ha' with rfl | ha'
        · exact ⟨outcome, thrown, rfl, hthrown, hclass, hshould⟩
        · exact h.retried a' (hpast ▸ ha')
      · unfold RetryOptions.allows at hleft
        rw [hmax] at hleft
        exact of_decide_eq_true hleft
    · -- the error goes to the caller
      exact hfinished (some thrown)

/-- The backoff goes on, or ends. -/
theorem Kept.of_sleep (h : x.Kept retry) {sleep : Deferred} (hphase : x.phase = .backingOff sleep)
    {phase : Phase}
    (hnext : (∃ sleep', phase = .backingOff sleep') ∨ ∃ thrown, phase = .finished thrown)
    (signal : Option Bool) : Kept retry { x with phase, signal } := by
  have hpast : x.past = x.attempts := by
    unfold past
    rw [hphase]
  rcases hnext with ⟨sleep', rfl⟩ | ⟨thrown, rfl⟩
  · exact ⟨fun a' ha' => h.retried a' (hpast ▸ ha'),
      fun maxAttempts hmax => hpast ▸ h.bounded maxAttempts hmax, h.arises⟩
  · refine ⟨fun a' ha' => h.retried a' (hpast ▸ List.tail_subset _ ha'), fun maxAttempts hmax => ?_,
      h.arises⟩
    rcases h.bounded maxAttempts hmax with hnone | hlt
    · rw [hpast] at hnone
      exact Or.inl (by simp [past, hnone])
    · rw [hpast] at hlt
      refine Or.inr ?_
      simp only [past, List.length_tail]
      omega

end Execution

/-! ### The calls of the operations -/

/-- A call listens to a signal, and has heard of it if it was aborted. -/
def Heeds (signal : Option Bool) (call : Call) : Prop :=
  signal.isSome = call.signal.isSome ∧ (signal = some true → call.signal = some true)

/-- Call `i` was made by operation `o`, whose caller's signal it listens to. -/
structure Belongs (s : Client) (i : CallId) (o : OperationId) : Prop where
  kind : (s.connection.calls i).kind = .request false
  called : (s.connection.calls i).phase ≠ .notCalled
  execution : ∃ x, s.executions o = some x ∧ (∃ a ∈ x.attempts, a.call = some i) ∧
    ((s.connection.calls i).unbound = true → Heeds x.signal (s.connection.calls i))

/-- What holds of a client after every run. -/
structure Sound (retry : RetryOptions) (s : Client) : Prop where
  connection : s.connection.Sound
  single : s.connection.Single
  kept : ∀ {o x}, s.executions o = some x → x.Kept retry
  owned : ∀ {i o}, s.calls i = some o → Belongs s i o
  /-- A call that is not awaited any more has been bound to a transport, or has ended. -/
  calls : ∀ {o x}, s.executions o = some x → ∀ a ∈ x.attempts, ∀ i, a.call = some i →
    s.calls i = some o ∧ (x.awaiting ≠ some i → (s.connection.calls i).unbound = false)

theorem sound_create (options : ConnectionOptions) (retry : RetryOptions) :
    Sound retry { connection := .create options } where
  connection := Connection.sound_create options
  single := Connection.single_create options
  kept := fun h => (nomatch h)
  owned := fun h => (nomatch h)
  calls := fun h => (nomatch h)

theorem setExecution_executions (s : Client) (o o' : OperationId) (x : Execution) :
    (s.setExecution o x).executions o' = if o' = o then some x else s.executions o' := by
  unfold Client.setExecution
  by_cases ho : o' = o
  · subst ho
    simp
  · simp [ho]

/-- A step of the connection. -/
theorem Sound.connection_step (hs : Sound retry s) {e : Connection.Event} {c : Connection}
    (hst : s.connection.step e = some c) : Sound retry { s with connection := c } := by
  have hposts := Connection.step_posts hs.connection.multiplexer hst
  refine ⟨hs.connection.step hst, hs.single.of_posts hposts, hs.kept, fun {i o} hi => ?_,
    fun {o x} hx a ha i hi => ?_⟩
  · obtain ⟨hkind, hcalled, x, hx, hattempt, hheeds⟩ := hs.owned hi
    obtain ⟨hkind', hunbound, hsignal⟩ := hposts.call_kept hcalled
    refine ⟨hkind'.trans hkind, hposts.called hcalled, x, hx, hattempt, fun hu => ?_⟩
    obtain ⟨hsome, haborted⟩ := hheeds (hunbound hu)
    rcases hsignal with hsame | ⟨hlive, hfired⟩
    · exact ⟨by rw [hsame]; exact hsome, fun h => by rw [hsame]; exact haborted h⟩
    · exact ⟨by rw [hfired]; rw [hlive] at hsome; exact hsome, fun _ => hfired⟩
  · obtain ⟨howner, hawaited⟩ := hs.calls hx a ha i hi
    refine ⟨howner, fun hne => ?_⟩
    have hbound := hawaited hne
    by_contra hu
    obtain ⟨-, hunbound, -⟩ := hposts.call_kept (hs.owned howner).called
    rw [hunbound (eq_true_of_ne_false hu)] at hbound
    cases hbound

/-- An execution moves on without a new attempt. -/
theorem Sound.setExecution (hs : Sound retry s) {x' : Execution} (hx : s.executions o = some x)
    (hkept : x'.Kept retry)
    (hattempts : x'.attempts.map Attempt.call = x.attempts.map Attempt.call)
    (hsignal : ∀ {i}, s.calls i = some o → (s.connection.calls i).unbound = true →
      Heeds x'.signal (s.connection.calls i))
    (hawaiting : ∀ i, x'.awaiting ≠ some i → x.awaiting = some i →
      (s.connection.calls i).unbound = false) : Sound retry (s.setExecution o x') := by
  refine ⟨hs.connection, hs.single, fun {o' y} hy => ?_, fun {i o'} hi => ?_,
    fun {o' y} hy a ha i hi => ?_⟩
  · rw [setExecution_executions] at hy
    split at hy
    · exact Option.some.inj hy ▸ hkept
    · exact hs.kept hy
  · obtain ⟨hkind, hcalled, y, hy, ⟨a, ha, hcall⟩, hheeds⟩ := hs.owned hi
    refine ⟨hkind, hcalled, ?_⟩
    rw [setExecution_executions]
    split
    · rename_i ho
      subst ho
      obtain rfl := Option.some.inj (hy.symm.trans hx)
      -- the attempts of the execution are the same, so its calls are
      have hmem : some i ∈ x'.attempts.map Attempt.call := by
        rw [hattempts]
        exact List.mem_map.mpr ⟨a, ha, hcall⟩
      obtain ⟨a', ha', hcall'⟩ := List.mem_map.mp hmem
      exact ⟨x', rfl, ⟨a', ha', hcall'⟩, hsignal hi⟩
    · exact ⟨y, hy, ⟨a, ha, hcall⟩, hheeds⟩
  · rw [setExecution_executions] at hy
    split at hy
    · rename_i ho
      subst ho
      obtain rfl := Option.some.inj hy
      have hmem : some i ∈ x.attempts.map Attempt.call := by
        rw [← hattempts]
        exact List.mem_map.mpr ⟨a, ha, hi⟩
      obtain ⟨a', ha', hcall'⟩ := List.mem_map.mp hmem
      obtain ⟨howner, hbound⟩ := hs.calls hx a' ha' i hcall'
      refine ⟨howner, fun hne => ?_⟩
      by_cases hwas : x.awaiting = some i
      · exact hawaiting i hne hwas
      · exact hbound hwas
    · exact hs.calls hy a ha i hi

/-- A request listens to the signal it is given. -/
theorem call_signal (c : Connection) (i : CallId) (messageType : MessageType) (frameLength : Nat)
    (signal : Option Bool) :
    ((c.call i (.request false) messageType frameLength signal).calls i).signal = signal := by
  unfold Connection.call
  dsimp only
  rw [if_neg (by simp [Connection.restoreShortcut])]
  unfold Connection.acquireSlotAndWait
  split
  · simp [Connection.finishCall, Connection.modifyCall, Connection.startCall]
  · simp [Connection.modifyCall, Connection.startCall, Connection.waitForReady]

/-- Whose attempt is about to begin: an operation that awaits nothing, or a new one. -/
def Resting (s : Client) (o : OperationId) (x : Execution) : Prop :=
  s.executions o = some x ∧ x.awaiting = none ∨ s.executions o = none ∧ x.attempts = []

/-- An attempt that is over has no call that waits. -/
theorem Sound.resting_calls (hs : Sound retry s) (hrest : Resting s o x) (ha : a ∈ x.attempts)
    (hi : a.call = some i) : s.calls i = some o ∧ (s.connection.calls i).unbound = false := by
  rcases hrest with ⟨hx, hnone⟩ | ⟨-, hnil⟩
  · obtain ⟨howner, hbound⟩ := hs.calls hx a ha i hi
    exact ⟨howner, hbound (by rw [hnone]; simp)⟩
  · rw [hnil] at ha
    cases ha

/-- What a call of the operation belongs to, once another attempt has begun. -/
theorem Belongs.attempts (hi : Belongs s i o) (hrest : Resting s o x) (a : Attempt) :
    ∃ a' ∈ a :: x.attempts, a'.call = some i ∧
      ((s.connection.calls i).unbound = true → Heeds x.signal (s.connection.calls i)) := by
  obtain ⟨-, -, y, hy, ⟨a', ha', hcall⟩, hheeds⟩ := hi
  rcases hrest with ⟨hx, -⟩ | ⟨hnone, -⟩
  · obtain rfl := Option.some.inj (hy.symm.trans hx)
    exact ⟨a', List.mem_cons_of_mem _ ha', hcall, hheeds⟩
  · rw [hnone] at hy
    cases hy

/-- The task runs. -/
theorem Sound.runTask (hs : Sound retry s) (hkept : x.Kept retry) (hpast : x.past = x.attempts)
    (hrest : Resting s o x) (hfresh : (s.connection.calls i).phase = .notCalled)
    (capabilityIds : List Nat) : Sound retry (s.runTask o x i capabilityIds) := by
  unfold Client.runTask
  split
  · rename_i thrown hthrown
    -- the task throws before it makes a call
    have harises : x.Arises ⟨none, some (.threw thrown)⟩ := by
      intro outcome houtcome
      obtain rfl := Option.some.inj houtcome
      exact ⟨capabilityIds, hthrown⟩
    refine ⟨hs.connection, hs.single, fun {o' y} hy => ?_, fun {j o'} hj => ?_,
      fun {o' y} hy a ha j hj => ?_⟩
    · rw [setExecution_executions] at hy
      split at hy
      · exact Option.some.inj hy ▸ hkept.attempts hpast harises
      · exact hs.kept hy
    · have hbelongs := hs.owned hj
      refine ⟨hbelongs.kind, hbelongs.called, ?_⟩
      rw [setExecution_executions]
      split
      · rename_i ho
        subst ho
        obtain ⟨a', ha', hcall, hheeds⟩ := hbelongs.attempts hrest ⟨none, some (.threw thrown)⟩
        exact ⟨_, rfl, ⟨a', ha', hcall⟩, hheeds⟩
      · exact hbelongs.execution
    · rw [setExecution_executions] at hy
      split at hy
      · rename_i ho
        subst ho
        obtain rfl := Option.some.inj hy
        rcases List.mem_cons.mp ha with rfl | ha
        · cases hj
        · obtain ⟨howner, hbound⟩ := hs.resting_calls hrest ha hj
          exact ⟨howner, fun _ => hbound⟩
      · exact hs.calls hy a ha j hj
  · rename_i frameLength _
    have hst : s.connection.step (.call i (.request false) x.operation.task.messageType frameLength
        x.signal) = some (s.connection.call i (.request false) x.operation.task.messageType
          frameLength x.signal) := if_pos hfresh
    have hc := hs.connection_step hst
    obtain ⟨hkind, hphase, -⟩ := Connection.call_request_fields s.connection i
      x.operation.task.messageType frameLength x.signal
    have hsignal := call_signal s.connection i x.operation.task.messageType frameLength x.signal
    generalize s.connection.call i (.request false) x.operation.task.messageType frameLength
      x.signal = c at hc hkind hphase hsignal
    -- the call is a new one, and belongs to nobody yet
    have hother : ∀ {j o'}, s.calls j = some o' → j ≠ i := by
      intro j o' hj hij
      exact (hs.owned hj).called (hij ▸ hfresh)
    have harises : x.Arises ⟨some i, none⟩ := fun _ houtcome => (nomatch houtcome)
    refine ⟨hc.connection, hc.single, fun {o' y} hy => ?_, fun {j o'} hj => ?_,
      fun {o' y} hy a ha j hj => ?_⟩
    · rw [setExecution_executions] at hy
      split at hy
      · exact Option.some.inj hy ▸ hkept.attempts hpast harises
      · exact hs.kept hy
    · change Function.update s.calls i (some o) j = some o' at hj
      by_cases hij : j = i
      · subst hij
        rw [Function.update_self] at hj
        obtain rfl := Option.some.inj hj
        refine ⟨hkind, ?_, _, (setExecution_executions _ o o _).trans (if_pos rfl),
          ⟨_, List.mem_cons_self, rfl⟩, fun _ => ?_⟩
        · change (c.calls j).phase ≠ .notCalled
          rcases hphase with ⟨slot, hphase⟩ | ⟨failure, hphase⟩ <;> rw [hphase] <;> simp
        · change Heeds x.signal (c.calls j)
          exact ⟨by rw [hsignal], fun h => hsignal.trans h⟩
      · rw [Function.update_of_ne hij] at hj
        have hbelongs := hc.owned hj
        refine ⟨hbelongs.kind, hbelongs.called, ?_⟩
        rw [setExecution_executions]
        split
        · rename_i ho
          subst ho
          obtain ⟨a', ha', hcall, hheeds⟩ := hbelongs.attempts hrest ⟨some i, none⟩
          exact ⟨_, rfl, ⟨a', ha', hcall⟩, hheeds⟩
        · exact hbelongs.execution
    · rw [setExecution_executions] at hy
      have howner : ∀ {o'}, s.calls j = some o' →
          Function.update s.calls i (some o) j = some o' := fun hj' => by
        rw [Function.update_of_ne (hother hj')]
        exact hj'
      split at hy
      · rename_i ho
        subst ho
        obtain rfl := Option.some.inj hy
        rcases List.mem_cons.mp ha with rfl | ha
        · obtain rfl := Option.some.inj hj
          exact ⟨Function.update_self .., fun hne => absurd rfl hne⟩
        · obtain ⟨hj', hbound⟩ := hc.resting_calls hrest ha hj
          exact ⟨howner hj', fun _ => hbound⟩
      · obtain ⟨hj', hbound⟩ := hc.calls hy a ha j hj
        exact ⟨howner hj', hbound⟩

/-- A request that has an outcome has ended. -/
theorem requestOutcome_unbound {c : Connection} (h : requestOutcome c i = some outcome) :
    (c.calls i).unbound = false := by
  unfold requestOutcome at h
  unfold Call.unbound
  split at h
  · rename_i hphase
    rw [hphase]
  · rename_i hphase _
    rw [hphase]
  · cases h

/-- The errors of a request are no answer of the broker. -/
theorem requestError_explicitNegative (c : Connection) (i : CallId) (error : ClientError)
    {resilience : ResilienceErrorMeta} (h : (requestError c i error).resilience = some resilience) :
    resilience.explicitNegative = false := by
  unfold requestError at h
  dsimp only at h
  split at h
  · exact Option.some.inj h ▸ rfl
  · cases h

theorem Sound.taskOutcome (hs : Sound retry s) (hx : s.executions o = some x)
    (h : s.taskOutcome x = some outcome) : ∃ a rest, x.attempts = a :: rest ∧
      x.Arises { a with outcome := some outcome } ∧
        ∀ i, a.call = some i → (s.connection.calls i).unbound = false := by
  unfold Client.taskOutcome at h
  split at h
  · rename_i rest hattempts
    refine ⟨⟨none, some outcome⟩, rest, h ▸ hattempts, ?_, fun _ hi => (nomatch hi)⟩
    exact (hs.kept hx).arises _ (hattempts ▸ h ▸ List.mem_cons_self)
  · rename_i i _ rest hattempts
    refine ⟨_, rest, hattempts, fun outcome' heq => ?_, fun j hj => ?_⟩
    · obtain rfl := Option.some.inj heq
      unfold requestOutcome at h
      split at h
      · obtain rfl := Option.some.inj h
        exact fun resilience => requestError_explicitNegative _ _ _
      · split at h
        · obtain rfl := Option.some.inj h
          rfl
        · cases h
      · cases h
    · obtain rfl := Option.some.inj hj
      exact requestOutcome_unbound h
  · cases h

theorem taskSettled_fields (retry : RetryOptions) (x : Execution) (outcome : Outcome)
    (jitterMs : Int) : (x.taskSettled retry outcome jitterMs).attempts.map Attempt.call =
      x.attempts.map Attempt.call ∧ (x.taskSettled retry outcome jitterMs).signal = x.signal := by
  have hrecord : (x.record outcome).attempts.map Attempt.call = x.attempts.map Attempt.call ∧
      (x.record outcome).signal = x.signal := by
    unfold Execution.record
    split
    · rename_i hattempts
      exact ⟨by rw [hattempts]; rfl, rfl⟩
    · exact ⟨rfl, rfl⟩
  unfold Execution.taskSettled Execution.backOff
  dsimp only
  split
  · exact hrecord
  · split <;> exact hrecord

theorem Sound.taskSettles (hs : Sound retry s) (hx : s.executions o = some x)
    (hphase : x.phase = .attempting) (houtcome : s.taskOutcome x = some outcome) (jitterMs : Int) :
    Sound retry (s.setExecution o (x.taskSettled retry outcome jitterMs)) := by
  obtain ⟨a, rest, hattempts, harises, hbound⟩ := hs.taskOutcome hx houtcome
  have hsame := taskSettled_fields retry x outcome jitterMs
  refine hs.setExecution hx ((hs.kept hx).taskSettled hphase hattempts harises jitterMs) hsame.1
    (fun hi hu => ?_) fun i _ hi => ?_
  · obtain ⟨-, -, y, hy, -, hheeds⟩ := hs.owned hi
    obtain rfl := Option.some.inj (hy.symm.trans hx)
    rw [hsame.2]
    exact hheeds hu
  · refine hbound i ?_
    unfold Execution.awaiting at hi
    rw [hphase, hattempts] at hi
    exact hi

/-- A call that listens to a signal hears of it when it fires. -/
theorem abortCall_signal {c : Connection} (h : (c.calls i).signal.isSome = true) :
    (((c.abortCall i).getD c).calls i).signal = some true := by
  unfold Connection.abortCall
  split
  · dsimp only
    split <;> simp [Connection.modifyCall, Connection.modifyGate]
  · rename_i hfired
    cases hsignal : (c.calls i).signal with
    | none =>
        rw [hsignal] at h
        cases h
    | some aborted =>
        cases aborted
        · exact absurd hsignal hfired
        · exact hsignal

theorem abortSleep_fields (x : Execution) : x.abortSleep.attempts = x.attempts ∧
    x.abortSleep.signal = x.signal ∧ x.abortSleep.awaiting = x.awaiting := by
  unfold Execution.abortSleep Execution.awaiting
  split
  · rename_i sleep hphase
    split
    · exact ⟨rfl, rfl, by rw [hphase]⟩
    · exact ⟨rfl, rfl, rfl⟩
  · exact ⟨rfl, rfl, rfl⟩

theorem Execution.Kept.abortSleep (h : x.Kept retry) : x.abortSleep.Kept retry := by
  unfold Execution.abortSleep
  split
  · rename_i sleep hphase
    split
    · exact h.of_sleep hphase (Or.inl ⟨_, rfl⟩) x.signal
    · exact h
  · exact h

/-- The backoff of an operation goes on, or ends. -/
theorem Sound.setExecution_sleep (hs : Sound retry s) (hx : s.executions o = some x)
    {sleep : Deferred} (hphase : x.phase = .backingOff sleep) {phase : Phase}
    (hnext : (∃ sleep', phase = .backingOff sleep') ∨ ∃ thrown, phase = .finished thrown) :
    Sound retry (s.setExecution o { x with phase }) := by
  refine hs.setExecution hx ((hs.kept hx).of_sleep hphase hnext x.signal) rfl (fun hi hu => ?_)
    fun i _ hi => ?_
  · obtain ⟨-, -, y, hy, -, hheeds⟩ := hs.owned hi
    obtain rfl := Option.some.inj (hy.symm.trans hx)
    exact hheeds hu
  · unfold Execution.awaiting at hi
    rw [hphase] at hi
    cases hi

/-- The signal of the caller fires, and the call that is awaited hears of it. -/
theorem Sound.abort (hs : Sound retry s) (hx : s.executions o = some x)
    (hlive : x.signal = some false) : Sound retry (s.abort o x) := by
  have hfields := abortSleep_fields { x with signal := some true }
  have hkept : Execution.Kept retry { x with signal := some true } :=
    ⟨(hs.kept hx).retried, (hs.kept hx).bounded, (hs.kept hx).arises⟩
  have heeds : ∀ {i}, s.calls i = some o → (s.connection.calls i).unbound = true →
      (s.connection.calls i).signal.isSome = true := by
    intro i hi hu
    obtain ⟨-, -, y, hy, -, hheeds⟩ := hs.owned hi
    obtain rfl := Option.some.inj (hy.symm.trans hx)
    rw [← (hheeds hu).1, hlive]
    rfl
  -- whatever becomes of the connection, the execution notes the signal
  have marked : ∀ c : Connection, Sound retry { s with connection := c } →
      (∀ i, s.calls i = some o → x.awaiting = some i → (c.calls i).unbound = true →
        (c.calls i).signal = some true) →
      Sound retry ({ s with connection := c }.setExecution o
        { x with signal := some true }.abortSleep) := by
    intro c hc hfired
    refine hc.setExecution hx hkept.abortSleep (by rw [hfields.1]) (fun {i} hi hu => ?_)
      fun i hne hi => absurd (hfields.2.2.trans hi) hne
    rw [hfields.2.1]
    by_cases hawaited : x.awaiting = some i
    · have hsignal := hfired i hi hawaited hu
      exact ⟨by rw [hsignal], fun _ => hsignal⟩
    · obtain ⟨-, -, y, hy, ⟨a, ha, hcall⟩, -⟩ := hc.owned hi
      obtain rfl := Option.some.inj (hy.symm.trans hx)
      rw [(hc.calls hx a ha i hcall).2 hawaited] at hu
      cases hu
  unfold Client.abort
  dsimp only
  split
  · -- the call that is awaited hears of the signal
    rename_i i hawaited
    refine marked ((s.connection.abortCall i).getD s.connection) ?_ fun j hj hawaited' hu => ?_
    · cases hst : s.connection.abortCall i with
      | none => exact hs
      | some c => exact hs.connection_step (e := .abortCall i) hst
    · obtain rfl := Option.some.inj (hawaited.symm.trans hawaited')
      refine abortCall_signal (heeds hj ?_)
      cases hst : s.connection.abortCall i with
      | none =>
          rw [hst] at hu
          exact hu
      | some c =>
          rw [hst] at hu
          have hposts := Connection.step_posts (e := .abortCall i) hs.connection.multiplexer hst
          exact (hposts.call_kept (hs.owned hj).called).2.1 hu
  · rename_i hnone
    exact marked s.connection hs fun i _ hi => by rw [hnone] at hi; cases hi

/-! ### Every run -/

theorem Sound.step (hs : Sound retry s) {e : Event} (hst : s.step retry e = some s') :
    Sound retry s' := by
  cases e with
  | connection e =>
      simp only [Client.step] at hst
      split at hst
      · cases hst
      · obtain ⟨c, hc, rfl⟩ := Option.map_eq_some_iff.mp hst
        exact hs.connection_step hc
  | execute o operation signal i capabilityIds =>
      simp only [Client.step] at hst
      split at hst
      · rename_i hfresh
        obtain rfl := Option.some.inj hst
        -- a new execution has no attempts behind it
        refine hs.runTask ⟨fun _ h => (List.not_mem_nil h).elim, fun _ _ => Or.inl rfl,
          fun _ h => (List.not_mem_nil h).elim⟩ rfl
            (Or.inr ⟨Option.isNone_iff_eq_none.mp hfresh.1, rfl⟩) hfresh.2 capabilityIds
      · cases hst
  | taskSettles o jitterMs =>
      simp only [Client.step] at hst
      split at hst
      · rename_i x hx
        split at hst
        · rename_i outcome hphase houtcome
          obtain rfl := Option.some.inj hst
          exact hs.taskSettles hx hphase houtcome jitterMs
        · cases hst
      · cases hst
  | backoffTimer o =>
      simp only [Client.step] at hst
      split at hst
      · rename_i x hx
        split at hst
        · rename_i sleep hphase
          obtain rfl := Option.some.inj hst
          exact hs.setExecution_sleep hx hphase (Or.inl ⟨_, rfl⟩)
        · cases hst
      · cases hst
  | backoffEnds o i capabilityIds =>
      simp only [Client.step] at hst
      split at hst
      · rename_i x hx
        split at hst
        · rename_i hphase
          split at hst
          · rename_i hfresh
            obtain rfl := Option.some.inj hst
            refine hs.runTask (hs.kept hx) ?_ (Or.inl ⟨hx, ?_⟩) hfresh capabilityIds
            · unfold Execution.past
              rw [hphase]
            · unfold Execution.awaiting
              rw [hphase]
          · cases hst
        · rename_i error hphase
          obtain rfl := Option.some.inj hst
          exact hs.setExecution_sleep hx hphase (Or.inr ⟨_, rfl⟩)
        · cases hst
      · cases hst
  | abort o =>
      simp only [Client.step] at hst
      split at hst
      · rename_i x hx
        split at hst
        · rename_i hlive
          obtain rfl := Option.some.inj hst
          exact hs.abort hx hlive
        · cases hst
      · cases hst

theorem sound_runFrom (hs : Sound retry s) {es : List Event}
    (hrun : (machine options retry).runFrom s es = some s') : Sound retry s' :=
  Machine.invariant hs (fun _ _ _ h hst => h.step hst) hrun

theorem sound_run {es : List Event} (hrun : (machine options retry).run es = some s) :
    Sound retry s := sound_runFrom (sound_create options retry) hrun

/-! ### The frames of an operation -/

/-- What is counted by `p` is counted by one of the `q b`, and each of these counts one thing at
most. -/
theorem countP_le_length {α β : Type} {q : β → α → Bool} {as : List α} {bs : List β} {p : α → Bool}
    (hcover : ∀ a ∈ as, p a = true → ∃ b ∈ bs, q b a = true)
    (hone : ∀ b ∈ bs, as.countP (q b) ≤ 1) : as.countP p ≤ bs.length := by
  induction bs generalizing p with
  | nil =>
      rw [List.countP_eq_zero.mpr fun a ha hp => by
        obtain ⟨b, hb, -⟩ := hcover a ha hp
        cases hb]
      exact Nat.zero_le _
  | cons b bs ih =>
      have hrest : as.countP (fun a => p a && !q b a) ≤ bs.length := by
        refine ih (fun a ha hp => ?_) fun b' hb' => hone b' (List.mem_cons_of_mem _ hb')
        simp only [Bool.and_eq_true, Bool.not_eq_true'] at hp
        obtain ⟨b', hb', hq⟩ := hcover a ha hp.1
        rcases List.mem_cons.mp hb' with rfl | hb'
        · rw [hp.2] at hq
          cases hq
        · exact ⟨b', hb', hq⟩
      have hfirst : as.countP (fun a => p a && q b a) ≤ 1 :=
        (List.countP_mono_left fun a _ h => (Bool.and_eq_true _ _ ▸ h).2).trans
          (hone b List.mem_cons_self)
      have hsplit := List.countP_eq_countP_filter_add as p (q b)
      rw [List.countP_filter, List.countP_filter] at hsplit
      rw [List.length_cons]
      omega

/-- The frames of an operation that have been handed to a transport, or wait for the write
lock. -/
def Client.framesOf (s : Client) (o : OperationId) : Nat :=
  s.connection.framesFor fun i => s.calls i = some o

/-- A frame of one of the calls `S`. -/
def isFrameFor (S : CallId → Bool) (w : Write) : Bool :=
  match w.frame with
  | .message i _ => S i
  | _ => false

theorem framesFor_eq_countP (c : Connection) (S : CallId → Bool) :
    c.framesFor S = (c.writeChain ++ c.written).countP (isFrameFor S) := rfl

theorem isFrameFor_iff {S : CallId → Bool} {w : Write} :
    isFrameFor S w = true ↔ ∃ i id, w.frame = .message i id ∧ S i = true := by
  unfold isFrameFor
  cases w.frame <;> simp

/-- The frame of an attempt is the one of its call. -/
theorem Sound.framesFor_attempt_le (hs : Sound retry s) (a : Attempt) :
    s.connection.framesFor (fun i => a.call = some i) ≤ 1 := by
  cases hcall : a.call with
  | none =>
      rw [framesFor_eq_countP, List.countP_eq_zero.mpr]
      · exact Nat.zero_le 1
      · intro w _ hw
        obtain ⟨i, -, -, hi⟩ := isFrameFor_iff.mp hw
        cases of_decide_eq_true hi
  | some i =>
      have hcalls : (fun j => decide (some i = some j)) = fun j => decide (j = i) := by
        funext j
        simp [eq_comm]
      rw [hcalls]
      refine (hs.single i).trans ?_
      split
      · exact Nat.zero_le 1
      · exact le_rfl

/-- An attempt sends one frame at most. -/
theorem Sound.framesOf_le (hs : Sound retry s) (hx : s.executions o = some x) :
    s.framesOf o ≤ x.attempts.length := by
  unfold Client.framesOf
  rw [framesFor_eq_countP]
  refine countP_le_length (q := fun a : Attempt => isFrameFor fun i => decide (a.call = some i))
    (fun w _ hw => ?_) fun a _ => hs.framesFor_attempt_le a
  obtain ⟨i, id, hframe, hi⟩ := isFrameFor_iff.mp hw
  obtain ⟨-, -, y, hy, ⟨a, ha, hcall⟩, -⟩ := hs.owned (of_decide_eq_true hi)
  obtain rfl := Option.some.inj (hy.symm.trans hx)
  exact ⟨a, ha, isFrameFor_iff.mpr ⟨i, id, hframe, decide_eq_true hcall⟩⟩

/-! ### After the signal was aborted -/

/-- The caller's signal of operation `o` has been aborted. -/
def Client.Aborted (s : Client) (o : OperationId) : Prop :=
  ∃ x, s.executions o = some x ∧ x.signal = some true

/-- A frame of operation `o` has been handed to a transport, or waits for the write lock. -/
def Client.SendsFor (s : Client) (o : OperationId) (w : Write) : Prop :=
  s.connection.Sends w ∧ ∃ i id, w.frame = .message i id ∧ s.calls i = some o

/-- A call without a transport has no frame. -/
theorem Sound.bound_of_sends (hs : Sound retry s) {w : Write} {id : CorrelationId}
    (hw : s.connection.Sends w) (hframe : w.frame = .message i id) :
    (s.connection.calls i).unbound = false := by
  by_contra hu
  have hnone := hs.single i
  rw [if_pos (eq_true_of_ne_false hu)] at hnone
  have hmem : w ∈ s.connection.writeChain ++ s.connection.written := List.mem_append.mpr hw
  refine List.countP_eq_zero.mp (Nat.le_zero.mp hnone) w hmem ?_
  rw [hframe]
  exact decide_eq_true rfl

/-- In a step of the connection an aborted operation gets no frame. -/
theorem Sound.sends_connection (hs : Sound retry s) (haborted : s.Aborted o) {e : Connection.Event}
    {c : Connection} (hst : s.connection.step e = some c) {w : Write} {id : CorrelationId}
    (hw : c.Sends w) (hframe : w.frame = .message i id) (hi : s.calls i = some o) :
    s.connection.Sends w := by
  have hposts := Connection.step_posts hs.connection.multiplexer hst
  rcases hposts.sends_new hw hframe with hold | ⟨⟨-, hunbound⟩, -, hwilling⟩
  · exact hold
  · obtain ⟨x, hx, hfired⟩ := haborted
    obtain ⟨hkind, -, y, hy, -, hheeds⟩ := hs.owned hi
    obtain rfl := Option.some.inj (hy.symm.trans hx)
    exact absurd ((hheeds hunbound).2 hfired) (hwilling fun correlation h => by
      rw [hkind] at h
      cases h)

/-- `task()` sends nothing before its first `await`. -/
theorem Sound.sends_runTask (hs : Sound retry s) {o' : OperationId}
    (hfresh : (s.connection.calls i).phase = .notCalled) {capabilityIds : List Nat} {w : Write}
    (hw : (s.runTask o' x i capabilityIds).SendsFor o w) : s.SendsFor o w := by
  obtain ⟨hw, j, id, hframe, hj⟩ := hw
  unfold Client.runTask at hw hj
  split at hw
  · rename_i hprepare
    rw [hprepare] at hj
    exact ⟨hw, j, id, hframe, hj⟩
  · rename_i frameLength hprepare
    rw [hprepare] at hj
    obtain ⟨-, -, -, hchain, hwritten⟩ := Connection.call_request_fields s.connection i
      x.operation.task.messageType frameLength x.signal
    have hold : s.connection.Sends w := by
      rcases hw with hw | hw
      · exact Or.inl (hchain ▸ hw)
      · exact Or.inr (hwritten ▸ hw)
    have hij : j ≠ i := by
      rintro rfl
      have hbound := hs.bound_of_sends hold hframe
      rw [Call.unbound, hfresh] at hbound
      cases hbound
    change Function.update s.calls i (some o') j = some o at hj
    rw [Function.update_of_ne hij] at hj
    exact ⟨hold, j, id, hframe, hj⟩

/-- The signal stays aborted, and the operation gets no new frame. -/
theorem Sound.step_aborted (hs : Sound retry s) (haborted : s.Aborted o) {e : Event}
    (hst : s.step retry e = some s') :
    s'.Aborted o ∧ ∀ w, s'.SendsFor o w → s.SendsFor o w := by
  -- the signal of an execution never goes back
  have stays : ∀ (s₁ : Client) {o' x'}, s₁.executions = s.executions →
      (∀ x, s.executions o' = some x → x.signal = some true → x'.signal = some true) →
      (s₁.setExecution o' x').Aborted o := by
    intro s₁ o' x' hsame hkeeps
    obtain ⟨x, hx, hfired⟩ := haborted
    unfold Client.Aborted
    rw [setExecution_executions, hsame]
    split
    · rename_i ho
      exact ⟨x', rfl, hkeeps x (ho ▸ hx) hfired⟩
    · exact ⟨x, hx, hfired⟩
  have runs : ∀ {o' x' i capabilityIds}, (∀ x, s.executions o' = some x → x.signal = some true →
      x'.signal = some true) → (s.runTask o' x' i capabilityIds).Aborted o := by
    intro o' x' i capabilityIds hkeeps
    unfold Client.runTask
    split
    · exact stays s rfl hkeeps
    · exact stays _ rfl hkeeps
  cases e with
  | connection e =>
      simp only [Client.step] at hst
      split at hst
      · cases hst
      · obtain ⟨c, hc, rfl⟩ := Option.map_eq_some_iff.mp hst
        refine ⟨haborted, fun w ⟨hw, i, id, hframe, hi⟩ => ?_⟩
        exact ⟨hs.sends_connection haborted hc hw hframe hi, i, id, hframe, hi⟩
  | execute o' operation signal i capabilityIds =>
      simp only [Client.step] at hst
      split at hst
      · rename_i hfresh
        obtain rfl := Option.some.inj hst
        refine ⟨runs fun x hx => ?_, fun w => hs.sends_runTask hfresh.2⟩
        rw [Option.isNone_iff_eq_none.mp hfresh.1] at hx
        cases hx
      · cases hst
  | taskSettles o' jitterMs =>
      simp only [Client.step] at hst
      split at hst
      · rename_i x hx
        split at hst
        · obtain rfl := Option.some.inj hst
          refine ⟨stays s rfl fun y hy hfired => ?_, fun w => id⟩
          obtain rfl := Option.some.inj (hy.symm.trans hx)
          exact (taskSettled_fields retry _ _ _).2.trans hfired
        · cases hst
      · cases hst
  | backoffTimer o' =>
      simp only [Client.step] at hst
      split at hst
      · rename_i x hx
        split at hst
        · obtain rfl := Option.some.inj hst
          refine ⟨stays s rfl fun y hy hfired => ?_, fun w => id⟩
          exact Option.some.inj (hy.symm.trans hx) ▸ hfired
        · cases hst
      · cases hst
  | backoffEnds o' i capabilityIds =>
      simp only [Client.step] at hst
      split at hst
      · rename_i x hx
        have hkeeps : ∀ y, s.executions o' = some y → y.signal = some true → x.signal = some true :=
          fun y hy hfired => Option.some.inj (hy.symm.trans hx) ▸ hfired
        split at hst
        · split at hst
          · rename_i hfresh
            obtain rfl := Option.some.inj hst
            exact ⟨runs hkeeps, fun w => hs.sends_runTask hfresh⟩
          · cases hst
        · obtain rfl := Option.some.inj hst
          exact ⟨stays s rfl hkeeps, fun w => id⟩
        · cases hst
      · cases hst
  | abort o' =>
      simp only [Client.step] at hst
      split at hst
      · rename_i x hx
        split at hst
        · obtain rfl := Option.some.inj hst
          unfold Client.abort
          dsimp only
          have hfields := abortSleep_fields { x with signal := some true }
          split
          · rename_i i _
            refine ⟨stays { s with connection := (s.connection.abortCall i).getD s.connection } rfl
              fun _ _ _ => hfields.2.1, fun w ⟨hw, j, id, hframe, hj⟩ => ?_⟩
            refine ⟨?_, j, id, hframe, hj⟩
            cases hst : s.connection.abortCall i with
            | none =>
                change ((s.connection.abortCall i).getD s.connection).Sends w at hw
                rwa [hst] at hw
            | some c =>
                change ((s.connection.abortCall i).getD s.connection).Sends w at hw
                rw [hst] at hw
                exact hs.sends_connection haborted (e := .abortCall i) hst hw hframe hj
          · exact ⟨stays s rfl fun _ _ _ => hfields.2.1, fun w => id⟩
        · cases hst
      · cases hst

/-- Whatever happens after the signal was aborted, the operation gets no new frame. -/
theorem Sound.run_aborted (hs : Sound retry s) (haborted : s.Aborted o) {es : List Event}
    (hrun : (machine options retry).runFrom s es = some s') {w : Write} (hw : s'.SendsFor o w) :
    s.SendsFor o w := by
  have hkept : Sound retry s' ∧ s'.Aborted o ∧ ∀ w, s'.SendsFor o w → s.SendsFor o w :=
    Machine.invariant (I := fun s₁ => Sound retry s₁ ∧ s₁.Aborted o ∧
        ∀ w, s₁.SendsFor o w → s.SendsFor o w) ⟨hs, haborted, fun _ => id⟩
      (fun s₁ e s₂ ⟨hs₁, ha₁, hold⟩ hst => by
        obtain ⟨ha₂, hback⟩ := hs₁.step_aborted ha₁ hst
        exact ⟨hs₁.step hst, ha₂, fun w hw => hold w (hback w hw)⟩) hrun
  exact hkept.2.2 w hw

end FitzTs.Retry
