import FitzTs.Client.Internal.RequestGate
/-!
# FitzTs.Client.Internal.Readiness

`createReadinessWaiter` of `client/internal/readiness.ts`: callers that park
until the connection is ready, or can no longer become so.

The connection's `getState` and `getFailure` are arguments of the operations
that call them. A parked caller is one whose listener is in `readyListeners`.
-/

namespace FitzTs.Client

/-- What has become of the promise of one `waitForReady`. -/
inductive WaitOutcome
  | none
  | parked
  | resolved
  | rejected (error : ClientError)
  deriving DecidableEq, Repr

/-- The state of the readiness waiter. -/
structure ReadinessWaiter where
  maxWaiters : Nat
  readyWaiterCount : Nat := 0
  waiters : CallId → WaitOutcome := fun _ => .none

namespace ReadinessWaiter

variable (state : ConnectionState) (failure : Option ClientError)

/-- What `onStateChange` makes of a parked caller. -/
def onStateChange : WaitOutcome :=
  if state = .authenticated then .resolved
  else
    match failure with
    | some error => .rejected error
    | none => .parked

/-- `notify`: every listener looks at the connection again. -/
def notify (w : ReadinessWaiter) : ReadinessWaiter :=
  { w with waiters := fun i =>
      if w.waiters i = .parked then onStateChange state failure else w.waiters i }

/-- Settle, or park, the promise of `i`. -/
def setOutcome (w : ReadinessWaiter) (i : CallId) (outcome : WaitOutcome) : ReadinessWaiter :=
  { w with waiters := Function.update w.waiters i outcome }

/-- `acquireWaitSlot`: the error it throws, or whether the caller now holds a slot. -/
def acquireWaitSlot (w : ReadinessWaiter) : Except ClientError (Bool × ReadinessWaiter) :=
  if state = .authenticated ∨ failure.isSome then .ok (false, w)
  else if w.readyWaiterCount ≥ w.maxWaiters then .error RequestGate.requestQueueFullError
  else .ok (true, { w with readyWaiterCount := w.readyWaiterCount + 1 })

/-- The function `acquireWaitSlot` returns, which works once. -/
def releaseWaitSlot (w : ReadinessWaiter) : ReadinessWaiter :=
  { w with readyWaiterCount := w.readyWaiterCount - 1 }

/-- `waitForReady` of caller `i`; `aborted` is `signal?.aborted`. -/
def waitForReady (w : ReadinessWaiter) (i : CallId) (aborted : Bool) : ReadinessWaiter :=
  if aborted then w.setOutcome i (.rejected abortError)
  else
    match failure with
    | some error => w.setOutcome i (.rejected error)
    | none => w.setOutcome i (onStateChange state failure)

/-- `settle(() => reject(error))` by the timer or the signal of a parked caller. -/
def rejectParked (w : ReadinessWaiter) (i : CallId) (error : ClientError) : ReadinessWaiter :=
  if w.waiters i = .parked then w.setOutcome i (.rejected error) else w

end ReadinessWaiter

end FitzTs.Client
