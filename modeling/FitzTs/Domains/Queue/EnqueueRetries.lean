import FitzTs.Client.Retry.Attempts
import FitzTs.Domains.Queue.Enqueue
/-!
# FitzTs.Domains.Queue.EnqueueRetries

When an operation is sent again, and when not.

An enqueue is sent again after an answer of the broker that declines it, and never after a
failure that leaves open what the broker has done. A frame crosses the boundary of the send
when it is put behind the write lock: a signal that is aborted while it waits there does not
take it back.
-/

namespace FitzTs.Queue

open FitzTs.Client FitzTs.Retry

variable {options : ConnectionOptions} {retry : RetryOptions} {s s' : Retry.Client}
  {x : Execution} {o : OperationId}

/-- Each attempt of an enqueue but the last was answered, and the answer declined it. -/
theorem enqueue_declined (hkept : x.Kept retry) {encoded : Except ClientError Nat}
    {ttlHours : Option FrameCodec.JsNumber} (hoperation : x.operation = enqueue encoded ttlHours) :
    ∀ a ∈ x.attempts.tail, ∃ payload, a.outcome = some (.answered payload) ∧ Declined payload := by
  intro a ha
  obtain ⟨outcome, thrown, houtcome, hthrown, -, hretry⟩ :=
    hkept.retried a (x.tail_subset_past ha)
  have harises := hkept.arises a (List.mem_of_mem_tail ha) outcome houtcome
  rw [hoperation] at hthrown hretry
  cases outcome with
  | threw error =>
      obtain rfl := Option.some.inj hthrown
      obtain ⟨capabilityIds, hprepare⟩ := harises
      rw [hoperation] at hprepare
      obtain ⟨resilience, hresilience, -⟩ := shouldRetry_confirmedNegative hretry
      rw [prepareEnqueue_resilience hprepare] at hresilience
      cases hresilience
  | rejected error =>
      obtain rfl := Option.some.inj hthrown
      obtain ⟨resilience, hresilience, hnegative, -⟩ := shouldRetry_confirmedNegative hretry
      rw [harises resilience hresilience] at hnegative
      cases hnegative
  | answered payload => exact ⟨payload, houtcome, declined_of_retry hthrown hretry⟩

/-- What the operations of a client attempt and send. -/
theorem retries_run {es es' : List Retry.Event}
    (hrun : (machine options retry).run es = some s)
    (hafter : (machine options retry).runFrom s es' = some s') (hx : s.executions o = some x) :
    (∀ encoded ttlHours, x.operation = enqueue encoded ttlHours → ∀ a ∈ x.attempts.tail,
        ∃ payload, a.outcome = some (.answered payload) ∧ Declined payload) ∧
      (x.operation.retryClass = .waitOnly → s.framesOf o ≤ 1) ∧
      (∀ maxAttempts, retry.maxAttempts = some maxAttempts →
        (x.attempts.length : ℤ) ≤ max 1 maxAttempts) ∧
      s.framesOf o ≤ x.attempts.length ∧
      (x.signal = some true → ∀ w, s'.SendsFor o w → s.SendsFor o w) := by
  have hs := sound_run hrun
  have hkept := hs.kept hx
  have hframes := hs.framesOf_le hx
  refine ⟨fun encoded ttlHours hoperation => enqueue_declined hkept hoperation,
    fun hclass => hframes.trans (hkept.waitOnly hclass), fun _ hmax => hkept.attempts_le hmax,
    hframes, fun hfired w hw => hs.run_aborted ⟨x, hx, hfired⟩ hafter hw⟩

/-! ### Two enqueues -/

/-- The connection is authenticated on transport 0. -/
def connected : List Retry.Event :=
  [.connect 0 none, .transportConnect 0 none, .token 0 none, .connectSent 0 none,
    .receive 0 Connection.helloChunk, .helloSettled 0, .connectSettled 0].map .connection

/-- The request of call `i` gets its slot, and its frame waits for the write lock. -/
def queued (i : CallId) : List Retry.Event :=
  [.readyContinues i, .slotContinues i 0].map .connection

/-- The frame of call `i` is written, and the answer to identifier `id` arrives. -/
def answered (i : CallId) (id : CorrelationId) (payload : Payload) : List Retry.Event :=
  [.writeBegins, .writeEnds none, .sendSettles i,
    .receive 0 (.ok (.ok ([.message MSG_QUEUE_ENQUEUE payload id true], false))),
    .callSettles i].map .connection

/-- An enqueue is declined, since the queue is full, and accepted after a backoff. Its signal
is aborted when it has ended. -/
def declinedRun : List Retry.Event :=
  connected ++ [.execute 0 (enqueue (.ok 20) none) (some false) 1 []] ++ queued 1 ++
    answered 1 1 [1, 0x0f, 0xa5, 5, 0, 0, 0, 0, 0] ++
    [.taskSettles 0 7, .backoffTimer 0, .backoffEnds 0 2 []] ++ queued 2 ++
    answered 2 2 [0] ++ [.taskSettles 0 0, .abort 0]

/-- The second of the three attempts that are allowed is the last. -/
theorem retries_run_declined : ∃ s x, (machine {} {}).run declinedRun = some s ∧
    s.executions 0 = some x ∧ x.attempts.length = 2 ∧
      (x.attempts.length : ℤ) ≤ max 1 3 ∧ s.framesOf 0 ≤ 2 ∧
      ∀ a ∈ x.attempts.tail, ∃ payload, a.outcome = some (.answered payload) ∧
        Declined payload := by
  obtain ⟨s, x, hrun, hx, hlength, hoperation⟩ : ∃ s x,
      (machine {} {}).run declinedRun = some s ∧ s.executions 0 = some x ∧
        x.attempts.length = 2 ∧ x.operation = enqueue (.ok 20) none :=
    ⟨_, _, rfl, rfl, by decide +kernel, rfl⟩
  have hafter : (machine {} {}).runFrom s [] = some s := rfl
  obtain ⟨hdeclined, -, hbounded, hframes, -⟩ := retries_run hrun hafter hx
  exact ⟨s, x, hrun, hx, hlength, hbounded 3 rfl, hlength ▸ hframes,
    hdeclined (.ok 20) none hoperation⟩

/-- The signal is aborted while the frame waits for the write lock; then the lock is free. -/
theorem retries_run_fails :
    ¬ ∀ (es es' : List Retry.Event) (s s' : Retry.Client) (o : OperationId) (x : Execution),
      (machine {} {}).run es = some s → (machine {} {}).runFrom s es' = some s' →
        s.executions o = some x → x.signal = some true →
          ∀ w ∈ s'.connection.written, s'.SendsFor o w → w ∈ s.connection.written := by
  intro h
  obtain ⟨s, s', x, hrun, hafter, hx, hfired, hwritten, hcalls, hbefore⟩ : ∃ s s' x,
      (machine {} {}).run (connected ++
        [.execute 0 (enqueue (.ok 20) none) (some false) 1 []] ++ queued 1 ++ [.abort 0]) =
          some s ∧
      (machine {} {}).runFrom s [.connection .writeBegins] = some s' ∧
      s.executions 0 = some x ∧ x.signal = some true ∧
      ⟨0, .message 1 1⟩ ∈ s'.connection.written ∧ s'.calls 1 = some 0 ∧
      ⟨0, .message 1 1⟩ ∉ s.connection.written :=
    ⟨_, _, _, rfl, rfl, rfl, rfl, by decide +kernel, by decide +kernel, by decide +kernel⟩
  exact hbefore (h _ _ s s' 0 x hrun hafter hx hfired _ hwritten
    ⟨Or.inr hwritten, 1, 1, rfl, hcalls⟩)

end FitzTs.Queue
