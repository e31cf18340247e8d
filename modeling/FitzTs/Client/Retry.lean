import FitzTs.Client.Connection
import FitzTs.Client.Resilience
/-!
# FitzTs.Client.Retry

`executeWithRetry` of `client/connection.ts`: the operations that run through it, on the
connection their requests are made on.

    attempting ──▶ backingOff ──▶ attempting ──▶ … ──▶ finished

An operation calls its `task` once for each attempt. The task encodes a request, makes it by
`connection.request` with the caller's signal, and decodes the response; it may throw at each
of these. `attempts` and `calls` record what has happened; of these, only the attempt that
runs is read by a function, and the number of attempts.
-/

namespace FitzTs.Retry

open FitzTs.Client

/-- The identity of a call of `executeWithRetry`. -/
abbrev OperationId := Nat

/-- What `task` does around its request. -/
structure Task where
  messageType : MessageType
  /-- The length of the frame, or what is thrown instead, given the ids of the capabilities
  that the session has negotiated. -/
  prepare : List Nat → Except Thrown Nat
  /-- What is thrown for a response, if anything. -/
  decode : Payload → Option Thrown

/-- A `RetryOperation` and its `task`. -/
structure RetryOperation where
  retryClass : RetryClass
  /-- `operation.signal` is the signal of the caller, and not undefined. -/
  hasSignal : Bool := true
  task : Task

/-- What a call of `task` has come to. -/
inductive Outcome
  /-- It threw before its request. -/
  | threw (thrown : Thrown)
  /-- The request was rejected. -/
  | rejected (thrown : Thrown)
  /-- The request was answered. -/
  | answered (payload : Payload)

/-- What the promise of `task` settles with. -/
def Outcome.thrown (task : Task) : Outcome → Option Thrown
  | .threw thrown | .rejected thrown => some thrown
  | .answered payload => task.decode payload

/-- One call of `task`. -/
structure Attempt where
  /-- The call of its request, if it made one. -/
  call : Option CallId
  outcome : Option Outcome := none

/-- What an operation is awaiting. -/
inductive Phase
  /-- `task()`. -/
  | attempting
  /-- `sleepWithAbort`. -/
  | backingOff (sleep : Deferred)
  /-- Returned, or thrown. -/
  | finished (thrown : Option Thrown)

/-- One call of `executeWithRetry`. -/
structure Execution where
  operation : RetryOperation
  /-- `signal?.aborted` of the caller. -/
  signal : Option Bool
  phase : Phase := .attempting
  /-- The attempts, latest first. -/
  attempts : List Attempt := []
  delayMs : Int

/-- A connection, and the operations that run on it. -/
structure Client where
  connection : Connection
  executions : OperationId → Option Execution := fun _ => none
  /-- Which operation has made a call. -/
  calls : CallId → Option OperationId := fun _ => none

/-- What can happen. -/
inductive Event
  /-- A step of the connection. -/
  | connection (e : Connection.Event)
  /-- `executeWithRetry`. A request made by the first call of `task` is call `i`. -/
  | execute (o : OperationId) (operation : RetryOperation) (signal : Option Bool) (i : CallId)
      (capabilityIds : List Nat)
  /-- The operation continues after `task()`. -/
  | taskSettles (o : OperationId) (jitterMs : Int)
  /-- The timer of `sleepWithAbort` fires. -/
  | backoffTimer (o : OperationId)
  /-- The operation continues after `sleepWithAbort`. -/
  | backoffEnds (o : OperationId) (i : CallId) (capabilityIds : List Nat)
  /-- The signal of the caller fires. -/
  | abort (o : OperationId)

/-! ### The errors of a request -/

/-- A gate has given call `i` a slot. -/
def hadSlot (c : Connection) (i : CallId) : Bool :=
  (List.range c.gatesCreated).any fun gate => (c.gates gate).outcomes i = .granted

/-- What `requestInternal` throws with `error`. Its `catch` attaches metadata to the errors that
come after `acquireRequestSlot`. -/
def requestError (c : Connection) (i : CallId) (error : ClientError) : Thrown :=
  let boundary := if (c.calls i).request.isSome then .postSend else .preSend
  if hadSlot c i then
    attachResilienceMeta (.client error)
      { boundary, failureKind := classifyFailureKind (.client error), explicitNegative := false }
  else ⟨.client error, none⟩

/-- What the promise of `connection.request` of call `i` has settled with. -/
def requestOutcome (c : Connection) (i : CallId) : Option Outcome :=
  match (c.calls i).phase, (c.calls i).request with
  | .finished (some error), _ => some (.rejected (requestError c i error))
  | .finished none, some r =>
    match (c.multiplexer.requests r).settlements.head? with
    | some (.fulfilled payload) => some (.answered payload)
    | _ => none
  | _, _ => none

/-! ### The loop -/

namespace Execution

/-- `attempt`. -/
def attempt (x : Execution) : Nat := x.attempts.length

/-- The call whose request the running attempt awaits. -/
def awaiting (x : Execution) : Option CallId :=
  match x.phase, x.attempts with
  | .attempting, ⟨call, _⟩ :: _ => call
  | _, _ => none

/-- The promise of `task` has settled. -/
def record (x : Execution) (outcome : Outcome) : Execution :=
  match x.attempts with
  | a :: rest => { x with attempts := { a with outcome := some outcome } :: rest }
  | [] => x

/-- The `catch` goes on to another attempt. -/
def retriesAfter (options : RetryOptions) (x : Execution) (thrown : Thrown) : Bool :=
  options.enabled && x.operation.retryClass ≠ .waitOnly && !thrown.isAbort &&
    shouldRetryOperation x.operation.retryClass thrown && options.allows x.attempt

/-- `sleepWithAbort(ms, operation.signal)`, up to its `await`. -/
def sleepWithAbort (x : Execution) (ms : Int) : Deferred :=
  if x.operation.hasSignal ∧ x.signal = some true then .rejected abortError
  else if ms ≤ 0 then .resolved
  else .pending

/-- The `catch`, where it goes on. -/
def backOff (options : RetryOptions) (x : Execution) (jitterMs : Int) : Execution :=
  { x with
    phase := .backingOff
      (x.sleepWithAbort (jitteredBackoffMs x.delayMs options.maxBackoffMs jitterMs))
    delayMs := min (x.delayMs * 2) options.maxBackoffMs }

/-- The continuation of `task()`. -/
def taskSettled (options : RetryOptions) (x : Execution) (outcome : Outcome) (jitterMs : Int) :
    Execution :=
  let x := x.record outcome
  match outcome.thrown x.operation.task with
  | none => { x with phase := .finished none }
  | some thrown =>
    if x.retriesAfter options thrown then x.backOff options jitterMs
    else { x with phase := .finished (some thrown) }

/-- The listener that `sleepWithAbort` adds to the signal. -/
def abortSleep (x : Execution) : Execution :=
  match x.phase with
  | .backingOff sleep =>
    if x.operation.hasSignal then
      { x with phase := .backingOff (sleep.settle (.rejected abortError)) }
    else x
  | _ => x

end Execution

namespace Client

/-- Store an execution. -/
def setExecution (s : Client) (o : OperationId) (x : Execution) : Client :=
  { s with executions := Function.update s.executions o (some x) }

/-- `task()`, up to its `await`. -/
def runTask (s : Client) (o : OperationId) (x : Execution) (i : CallId)
    (capabilityIds : List Nat) : Client :=
  match x.operation.task.prepare capabilityIds with
  | .error thrown =>
    s.setExecution o { x with
      phase := .attempting
      attempts := ⟨none, some (.threw thrown)⟩ :: x.attempts }
  | .ok frameLength =>
    { s with
      connection := s.connection.call i (.request false) x.operation.task.messageType frameLength
        x.signal
      calls := Function.update s.calls i (some o) }.setExecution o { x with
        phase := .attempting
        attempts := ⟨some i, none⟩ :: x.attempts }

/-- What the promise of `task` has settled with. -/
def taskOutcome (s : Client) (x : Execution) : Option Outcome :=
  match x.attempts with
  | ⟨none, outcome⟩ :: _ => outcome
  | ⟨some i, _⟩ :: _ => requestOutcome s.connection i
  | [] => none

/-- The signal of the caller fires; whoever listens hears of it. -/
def abort (s : Client) (o : OperationId) (x : Execution) : Client :=
  let s := s.setExecution o { x with signal := some true }.abortSleep
  match x.awaiting with
  | some i => { s with connection := (s.connection.abortCall i).getD s.connection }
  | none => s

/-- The signal that `e` fires belongs to an operation. -/
def firesSignal (s : Client) : Connection.Event → Bool
  | .abortCall i => (s.calls i).isSome
  | _ => false

/-- One step; `none` is an event that cannot happen. -/
def step (options : RetryOptions) (s : Client) : Event → Option Client
  | .connection e =>
    if s.firesSignal e then none
    else (s.connection.step e).map fun connection => { s with connection }
  | .execute o operation signal i capabilityIds =>
    if (s.executions o).isNone ∧ (s.connection.calls i).phase = .notCalled then
      some (s.runTask o { operation, signal, delayMs := options.backoffMs } i capabilityIds)
    else none
  | .taskSettles o jitterMs =>
    match s.executions o with
    | some x =>
      match x.phase, s.taskOutcome x with
      | .attempting, some outcome =>
          some (s.setExecution o (x.taskSettled options outcome jitterMs))
      | _, _ => none
    | none => none
  | .backoffTimer o =>
    match s.executions o with
    | some x =>
      match x.phase with
      | .backingOff sleep =>
        some (s.setExecution o { x with phase := .backingOff (sleep.settle .resolved) })
      | _ => none
    | none => none
  | .backoffEnds o i capabilityIds =>
    match s.executions o with
    | some x =>
      match x.phase with
      | .backingOff .resolved =>
        if (s.connection.calls i).phase = .notCalled then some (s.runTask o x i capabilityIds)
        else none
      | .backingOff (.rejected error) =>
        some (s.setExecution o { x with phase := .finished (some ⟨.client error, none⟩) })
      | _ => none
    | none => none
  | .abort o =>
    match s.executions o with
    | some x => if x.signal = some false then some (s.abort o x) else none
    | none => none

end Client

/-- The operations of a client with the given options, driven by the events. -/
def machine (options : ConnectionOptions) (retry : RetryOptions) : Machine Client Event :=
  ⟨{ connection := .create options }, Client.step retry⟩

end FitzTs.Retry
