import FitzTs.Lib.Machine
import FitzTs.Domains.Rpc.Codec
/-!
# FitzTs.Domains.Rpc.Worker

One inbound request in the hands of a worker: `createRpcResponseWriter` and `handleRpcRequest` of
`domains/rpc/client.ts`, once a registration has been found.

The connection's `send` is the environment's: it awaits `waitForReady`, asks the request gate for a
slot, takes the transport that is installed and waits for the write lock; it fails at any of these
places, or after its frame was written. The gate and the write lock keep the order in which they
are asked. `waitForReady` does not: a send that has to wait there can be overtaken by a later one
that finds the connection ready. The loss of the connection closes the gate, which rejects those
queued at it; a send in `waitForReady` waits on, for the next session, and one that has been given
its slot looks for the transport when it goes on.
Other invocations touch this one only through `activeInvocations`, by taking the entry of its key.
-/

namespace FitzTs.Rpc

open JsString Buffer

/-! ## The response writer -/

/-- How the promise of a `send` settles. A failure that counts as a shutdown fulfils it. -/
inductive SendOutcome
  | fulfilled
  | rejected
  deriving DecidableEq, Repr

/-- Where a `connection.send` is. -/
inductive SendStage
  /-- In `waitForReady`. -/
  | readiness
  /-- It has its place in the line for a slot and the write lock. -/
  | line (place : Nat)
  /-- The transport has been given the frame. -/
  | written
  deriving DecidableEq, Repr

/-- A call of `write` or `end` that found the writer usable. -/
structure Send where
  frame : RpcResponse
  stage : SendStage
  outcome : Option SendOutcome
  deriving DecidableEq, Repr

def Send.written (s : Send) : Bool := s.stage = .written

def Send.waiting (s : Send) : Bool := !s.written && s.outcome.isNone

/-- It does not stand before `place` in the line. -/
def Send.behind (s : Send) (place : Nat) : Bool :=
  match s.stage with
  | .line p => s.outcome.isSome || place ≤ p
  | _ => true

/-- The variables of `createRpcResponseWriter`, with the sends so far and the frames written. -/
structure ResponseWriter where
  correlationId : Bytes
  sequence : Nat
  stale : Bool
  ended : Bool
  benignlyDisposed : Bool
  sends : List Send
  /-- The places taken in the line for a slot. -/
  places : Nat
  wire : List RpcResponse
  deriving DecidableEq, Repr

namespace ResponseWriter

def create (correlationId : Bytes) : ResponseWriter where
  correlationId := correlationId
  sequence := 0
  stale := false
  ended := false
  benignlyDisposed := false
  sends := []
  places := 0
  wire := []

def dispose (w : ResponseWriter) : ResponseWriter := { w with stale := true }

/-- The disconnect listener, which `dispose` takes away. -/
def disconnected (w : ResponseWriter) : ResponseWriter :=
  if w.stale then w else { w with benignlyDisposed := true }.dispose

/-- `send(body, isEnd)` up to its `await`; a writer that is no longer valid throws. -/
def send (w : ResponseWriter) (body : Bytes) (isEnd : Bool) : Option ResponseWriter :=
  if w.stale then none
  else some
    { w with
      sequence := w.sequence + 1
      sends := w.sends ++ [⟨⟨w.correlationId, w.sequence, body, isEnd⟩, .readiness, none⟩] }

/-- The `i`-th send goes on after `waitForReady`, and asks for a slot. -/
def passed (w : ResponseWriter) (i : Nat) : Option ResponseWriter :=
  match w.sends[i]? with
  | some s =>
    if s.stage = .readiness ∧ s.outcome = none then
      some
        { w with
          sends := w.sends.set i { s with stage := .line w.places }
          places := w.places + 1 }
    else none
  | none => none

/-- The transport is given the frame of the `i`-th send, which is the next in the line. -/
def wrote (w : ResponseWriter) (i : Nat) : Option ResponseWriter :=
  match w.sends[i]? with
  | some s =>
    match s.stage with
    | .line place =>
      if s.outcome = none ∧ ∀ t ∈ w.sends, t.behind place then
        some
          { w with
            sends := w.sends.set i { s with stage := .written }
            wire := w.wire ++ [s.frame] }
      else none
    | _ => none
  | none => none

/-- `connection.send` fulfils. -/
def succeeded (w : ResponseWriter) (i : Nat) : Option ResponseWriter :=
  match w.sends[i]? with
  | some s =>
    if s.written ∧ s.outcome = none then
      let w := { w with sends := w.sends.set i { s with outcome := some .fulfilled } }
      some (if s.frame.streamEnd then { w with ended := true }.dispose else w)
    else none
  | none => none

/-- `connection.send` rejects; `benign` is `isBenignShutdownError(error, connection)`. -/
def failed (w : ResponseWriter) (i : Nat) (benign : Bool) : Option ResponseWriter :=
  match w.sends[i]? with
  | some s =>
    if s.outcome = none then
      some (if benign then
        { w with
          sends := w.sends.set i { s with outcome := some .fulfilled }
          benignlyDisposed := true }.dispose
      else { w with sends := w.sends.set i { s with outcome := some .rejected } })
    else none
  | none => none

end ResponseWriter

/-! ## The invocation -/

inductive InvocationPhase
  /-- Accepted by the dispatcher. -/
  | queued
  /-- `await writer.end(..)` of a request whose deadline is over, with the index of the send. -/
  | expired (send : Nat)
  /-- `await registration.handler(..)`. -/
  | handling
  /-- `await writer.end(..)` with the handler's error. -/
  | failing (send : Nat)
  /-- `await writer.end(..)` of `sendBackpressureResponse`. -/
  | overloaded (send : Nat)
  | finished
  deriving DecidableEq, Repr

/-- A cleanup acknowledgement handed to `connection.send`. -/
inductive Ack
  /-- In `waitForReady`. -/
  | parked
  /-- At the request gate. -/
  | queued
  /-- It has its slot, and is still to look for the transport. -/
  | granted
  /-- It has the transport of a session. -/
  | sending (session : Nat)
  | written (session : Nat)
  | failed
  deriving DecidableEq, Repr

structure Invocation where
  /-- `hasRpcCancellationCapability(connection)`. -/
  supportsCancellation : Bool
  writer : ResponseWriter
  phase : InvocationPhase
  /-- `activeInvocations.get(correlationKey) === invocation`. -/
  registered : Bool
  started : Bool
  cancellationRequested : Bool
  /-- `controller.signal.aborted`. -/
  aborted : Bool
  acks : List Ack
  connected : Bool
  /-- The sessions there have been since that of the request, which is 0. -/
  session : Nat
  deriving DecidableEq, Repr

inductive InvocationEvent
  /-- The dispatcher runs the task; `expired` is `deadlineAt <= performance.now()`. -/
  | begins (expired : Bool)
  /-- The handler's promise fulfils. -/
  | returns
  /-- The handler throws; `benign` is `isBenignShutdownError(error, connection)`. -/
  | throws (benign : Bool) (message : JsString)
  /-- The task goes on after `await writer.end(..)`; the arguments are about its error, if any. -/
  | continues (benign : Bool) (message : JsString)
  /-- The handler calls `write` or `end`, whether it awaits it or not. -/
  | call (body : Bytes) (isEnd : Bool)
  | passed (send : Nat)
  | wrote (send : Nat)
  | succeeded (send : Nat)
  | failed (send : Nat) (benign : Bool)
  /-- A lifecycle frame with the kind `worker_cancellation`. -/
  | cancelled
  /-- The timer of the deadline fires. -/
  | timerFires
  /-- Another request with the same correlation id arrives. -/
  | replaced
  | disconnected
  | reconnected
  | ackReady (ack : Nat)
  | ackGranted (ack : Nat)
  | ackSends (ack : Nat)
  | ackWritten (ack : Nat)
  | ackFailed (ack : Nat)
  deriving DecidableEq, Repr

namespace Invocation

/-- `writer.end({ body: encodeRpcErrorBody(code, message) })`. -/
def answer (c : Invocation) (phase : Nat → InvocationPhase) (code : Nat) (message : JsString) :
    Option Invocation :=
  (c.writer.send (encodeRpcErrorBody code message) true).map fun writer =>
    { c with writer := writer, phase := phase c.writer.sends.length }

def sendAck (c : Invocation) : Invocation := { c with acks := c.acks ++ [.parked] }

/-- The `finally` of the task, and that of `sendBackpressureResponse`. -/
def finish (c : Invocation) : Invocation :=
  let c := { c with registered := false, writer := c.writer.dispose, phase := .finished }
  if c.supportsCancellation then c.sendAck else c

/-- The `catch` of the task. A writer that is no longer valid makes its `end` throw. -/
def catchError (c : Invocation) (benign : Bool) (message : JsString) : Invocation :=
  if benign then c.finish
  else (c.answer .failing ErrCodeRpcBackendError (message.take 512)).getD c.finish

/-- The task up to its first `await`. -/
def begin (c : Invocation) (expired : Bool) : Invocation :=
  if !c.registered then { c with writer := c.writer.dispose, phase := .finished }
  else if c.cancellationRequested then c.finish
  else if expired then
    let c := { c with aborted := true }
    -- a stale writer throws a `ConnectionError`, which counts as a shutdown
    (c.answer .expired ErrCodeRpcTimeout (js "RPC request deadline elapsed")).getD c.finish
  else if c.aborted then c.finish
  else { c with started := true, phase := .handling }

/-- `handleRpcRequest`; `accepted` is the answer of the dispatcher. -/
def create (correlationId : Bytes) (supportsCancellation accepted : Bool) : Invocation :=
  let c : Invocation :=
    { supportsCancellation := supportsCancellation
      writer := .create correlationId
      phase := .queued
      registered := true
      started := false
      cancellationRequested := false
      aborted := false
      acks := []
      connected := true
      session := 0 }
  if accepted then c
  else
    let c := { c with registered := false }
    (c.answer .overloaded ErrCodeRpcBackpressure (js "Local RPC worker is overloaded")).getD
      c.finish

/-- The task after an `await writer.end(..)` that has settled. -/
def continue' (c : Invocation) (benign : Bool) (message : JsString) : Option Invocation :=
  match c.phase with
  | .expired i =>
    match c.writer.sends[i]?.bind Send.outcome with
    | some .fulfilled => some c.finish
    | some .rejected => some (c.catchError benign message)
    | none => none
  | .failing i | .overloaded i =>
    match c.writer.sends[i]?.bind Send.outcome with
    | some _ => some c.finish
    | none => none
  | _ => none

/-- The lifecycle handler. -/
def cancel (c : Invocation) : Invocation :=
  if c.registered then
    let c := { c with cancellationRequested := true, aborted := true }
    if c.started then c else { c with registered := false }.sendAck
  else c

/-- The loss of the connection: the request gate closes, and the disconnect listeners of the client
and of the writer run. -/
def disconnect (c : Invocation) : Invocation :=
  { c with
    connected := false
    aborted := c.aborted || c.registered
    registered := false
    writer := c.writer.disconnected
    acks := c.acks.map fun ack => if ack = .queued then .failed else ack }

/-- The session of the transport that a send finds: before the next session has begun, its
transport may be installed already. -/
def nextSession (c : Invocation) : Nat := if c.connected then c.session else c.session + 1

def setAck (c : Invocation) (i : Nat) (ack : Ack) : Invocation :=
  { c with acks := c.acks.set i ack }

def step (c : Invocation) : InvocationEvent → Option Invocation
  | .begins expired => if c.phase = .queued then some (c.begin expired) else none
  | .returns => if c.phase = .handling then some c.finish else none
  | .throws benign message =>
    if c.phase = .handling then some (c.catchError benign message) else none
  | .continues benign message => c.continue' benign message
  | .call body isEnd =>
    if c.started then
      some { c with writer := (c.writer.send body isEnd).getD c.writer }
    else none
  | .passed i => (c.writer.passed i).map fun writer => { c with writer }
  | .wrote i => (c.writer.wrote i).map fun writer => { c with writer }
  | .succeeded i => (c.writer.succeeded i).map fun writer => { c with writer }
  | .failed i benign => (c.writer.failed i benign).map fun writer => { c with writer }
  | .cancelled => if c.connected then some c.cancel else none
  | .timerFires =>
    if c.registered ∧ c.cancellationRequested = false then some { c with aborted := true } else none
  | .replaced => if c.connected then some { c with registered := false } else none
  | .disconnected => if c.connected then some c.disconnect else none
  | .reconnected =>
    if c.connected then none else some { c with connected := true, session := c.session + 1 }
  | .ackReady i =>
    if c.acks[i]? = some .parked ∧ c.connected then some (c.setAck i .queued) else none
  | .ackGranted i => if c.acks[i]? = some .queued then some (c.setAck i .granted) else none
  | .ackSends i =>
    if c.acks[i]? = some .granted then some (c.setAck i (.sending c.nextSession)) else none
  | .ackWritten i =>
    match c.acks[i]? with
    | some (.sending session) => some (c.setAck i (.written session))
    | _ => none
  | .ackFailed i =>
    match c.acks[i]? with
    | some .parked | some .queued | some .granted | some (.sending _) => some (c.setAck i .failed)
    | _ => none

def machine (correlationId : Bytes) (supportsCancellation accepted : Bool) :
    Machine Invocation InvocationEvent :=
  ⟨create correlationId supportsCancellation accepted, step⟩

variable {c c' : Invocation}

/-- The task goes on in its `finally`, or in its `catch` after a deadline answer that failed. -/
theorem continue_cases {benign : Bool} {message : JsString}
    (h : c.continue' benign message = some c') :
    ((∃ i, c.phase = .expired i) ∨ (∃ i, c.phase = .failing i) ∨ ∃ i, c.phase = .overloaded i) ∧
      c' = c.finish ∨ (∃ i, c.phase = .expired i) ∧ c' = c.catchError benign message := by
  unfold continue' at h
  cases hphase : c.phase with
  | expired i =>
      simp only [hphase] at h
      split at h
      · exact Or.inl ⟨Or.inl ⟨i, rfl⟩, (Option.some.inj h).symm⟩
      · exact Or.inr ⟨⟨i, rfl⟩, (Option.some.inj h).symm⟩
      · cases h
  | failing i =>
      simp only [hphase] at h
      split at h
      · exact Or.inl ⟨Or.inr (Or.inl ⟨i, rfl⟩), (Option.some.inj h).symm⟩
      · cases h
  | overloaded i =>
      simp only [hphase] at h
      split at h
      · exact Or.inl ⟨Or.inr (Or.inr ⟨i, rfl⟩), (Option.some.inj h).symm⟩
      · cases h
  | queued | handling | finished => simp [hphase] at h

end Invocation

end FitzTs.Rpc
