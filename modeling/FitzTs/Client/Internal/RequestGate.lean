import Mathlib.Logic.Function.Basic
import FitzTs.Core.Types
/-!
# FitzTs.Client.Internal.RequestGate

`createRequestGate` of `client/internal/request-gate.ts`: at most
`maxConcurrency` callers hold a slot, at most `maxQueueSize` wait for one.

A caller of `acquire` is a number; what has become of its promise is kept in a
table, since the caller continues in a later turn.
-/

namespace FitzTs.Client

/-- The identity of a call to the connection. -/
abbrev CallId := Nat

/-- What has become of the promise of one `acquire`. -/
inductive SlotOutcome
  | none
  | queued
  | granted
  | rejected (error : ClientError)
  deriving DecidableEq, Repr

/-- The state of one gate. -/
structure RequestGate where
  maxConcurrency : Nat
  maxQueueSize : Nat
  activeCount : Nat := 0
  closed : Bool := false
  queue : List CallId := []
  outcomes : CallId → SlotOutcome := fun _ => .none

namespace RequestGate

/-- `createRequestGate`. -/
def create (maxConcurrency maxQueueSize : Nat) : RequestGate where
  maxConcurrency := maxConcurrency
  maxQueueSize := maxQueueSize

/-- Settle, or start, the promise of `i`. -/
def setOutcome (g : RequestGate) (i : CallId) (outcome : SlotOutcome) : RequestGate :=
  { g with outcomes := Function.update g.outcomes i outcome }

/-- `RequestQueueFullError`. -/
def requestQueueFullError : ClientError := ⟨.requestQueueFull, "Request queue is full"⟩

/-- `acquire`; `aborted` is `signal?.aborted`. -/
def acquire (g : RequestGate) (i : CallId) (aborted : Bool) : RequestGate :=
  if aborted then g.setOutcome i (.rejected abortError)
  else if g.closed then g.setOutcome i (.rejected connectionClosedError)
  else if g.activeCount < g.maxConcurrency then
    { g.setOutcome i .granted with activeCount := g.activeCount + 1 }
  else if g.queue.length ≥ g.maxQueueSize then g.setOutcome i (.rejected requestQueueFullError)
  else { g.setOutcome i .queued with queue := g.queue ++ [i] }

/-- `onAbort` of a waiter: its listener is there only while it is queued. -/
def abort (g : RequestGate) (i : CallId) : RequestGate :=
  if i ∈ g.queue then
    { g.setOutcome i (.rejected abortError) with queue := g.queue.filter (· ≠ i) }
  else g

/-- `close`. -/
def close (g : RequestGate) : RequestGate :=
  if g.closed then g
  else
    { g with
      closed := true
      queue := []
      outcomes := fun i => if i ∈ g.queue then .rejected connectionClosedError else g.outcomes i }

/-- `release`: the slot goes to the first waiter. A waiter whose signal has
fired is not in the queue any more. -/
def release (g : RequestGate) : RequestGate :=
  let g := { g with activeCount := g.activeCount - 1 }
  if g.closed = false ∧ g.activeCount < g.maxConcurrency then
    match g.queue with
    | [] => g
    | i :: rest =>
      { g.setOutcome i .granted with queue := rest, activeCount := g.activeCount + 1 }
  else g

end RequestGate

end FitzTs.Client
