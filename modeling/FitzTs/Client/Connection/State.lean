import FitzTs.Client.Multiplexer
import FitzTs.Client.Internal.Readiness
/-!
# FitzTs.Client.Connection.State

The variables of `createConnection` (`client/connection.ts`), and the helpers
that only read or set them.

An `async` function is cut at its `await`s. What runs between two of them is one
step; what is awaited is part of the state (`AttemptPhase`, `ReconnectLoop`,
`CallPhase`, …), and the event that continues the function can happen at any time
after the awaited promise has settled. So every order in which the runtime may
run the continuations is an order of events, and some orders are events here
that the runtime's queue of microtasks excludes.

* Each call of `openAndAuthenticate` makes one transport. Attempt and transport
  share one number (`TransportId`), and the table `attempts` holds the local
  variables of the attempt and what the transport object has been asked to do.
* The frame parser is represented by what it returned for a chunk: an error, or at
  most one frame.
* Time is represented by the timers' events; no duration is computed.

`lossReported`, `closeCalled`, `calledIn`, `readyOn`, `sessions`, `authenticatedBy`,
`disconnects` and `written` record what has happened; no function reads them.
-/

namespace FitzTs.Client

/-- The identity of a `Transport` and of the attempt that made it. -/
abbrev TransportId := Nat

/-- The identity of a request gate. -/
abbrev GateId := Nat

/-- The `ConnectionOptions` that decide something, with their defaults. -/
structure ConnectionOptions where
  timeout : Nat := 30000
  maxInFlightRequests : Nat := 256
  maxRequestQueueSize : Nat := 1024
  reconnectEnabled : Bool := false
  /-- `none` is `Infinity`. -/
  reconnectMaxAttempts : Option Nat := none
  heartbeatEnabled : Bool := true
  deriving DecidableEq, Repr

/-- `DEFAULT_MAX_MESSAGE_BYTES`. -/
def defaultMaxMessageBytes : Nat := 1024 * 1024

/-! ### Calls and frames -/

/-- Which function of the connection was called. -/
inductive CallKind
  /-- `connect`, where it waits for readiness. -/
  | connect
  | waitUntilReady
  /-- `requestInternal`, with its `allowReconnectRestore`. -/
  | request (allowReconnectRestore : Bool)
  /-- `send`, with its `correlation`. -/
  | send (correlation : CorrelationId)
  deriving DecidableEq, Repr

/-- What a call is awaiting. -/
inductive CallPhase
  | notCalled
  /-- `waitForReady`, with a wait slot or without. -/
  | waitingReady (slot : Bool)
  /-- The early return of `waitForRequestReady`, during a restore. -/
  | readyForRestore
  /-- `requestGate.acquire`. -/
  | waitingSlot (gate : GateId)
  /-- `multiplexer.request`. -/
  | requesting (gate : GateId) (t : TransportId)
  /-- `sendSerialized`. -/
  | sending (gate : GateId) (t : TransportId)
  /-- Returned, or thrown. -/
  | finished (failure : Option ClientError)
  deriving DecidableEq, Repr

/-- One call. -/
structure Call where
  kind : CallKind := .waitUntilReady
  messageType : MessageType := 0
  /-- The length of the encoded frame. -/
  frameLength : Nat := 0
  /-- `signal?.aborted`. -/
  signal : Option Bool := none
  phase : CallPhase := .notCalled
  /-- The request `multiplexer.request` has made for this call. -/
  request : Option RequestId := none
  /-- The promise of this call's `sendSerialized`. -/
  sendOutcome : Deferred := .pending
  /-- The number of sessions that had begun when the call was made. -/
  calledIn : Nat := 0
  /-- The transport that was installed when the call was found ready. -/
  readyOn : Option TransportId := none
  deriving DecidableEq, Repr

/-- What is written to a transport. -/
inductive OutboundFrame
  | connect
  | heartbeat
  | message (call : CallId) (correlation : CorrelationId)
  deriving DecidableEq, Repr

/-- One frame on its way to one transport. -/
structure Write where
  transport : TransportId
  frame : OutboundFrame
  deriving DecidableEq, Repr

/-! ### Attempts -/

/-- Where an `openAndAuthenticate` is. -/
inductive AttemptPhase
  | unused
  /-- Awaiting `activeTransport.connect`. -/
  | connecting
  /-- Awaiting `waitForHello`. -/
  | negotiating
  /-- Awaiting `restoreReconnectState`. -/
  | restoring
  /-- In the `catch`, awaiting `activeTransport.close`. -/
  | closing (error : ClientError) (unconfirmedAtCatch wasReconnectRestoreActive : Bool)
  /-- Returned, or thrown. -/
  | finished (failure : Option ClientError)
  deriving DecidableEq, Repr

/-- Where a `sendConnect` is. -/
inductive SendConnect
  | notCalled
  /-- Awaiting `tokenProvider()`. -/
  | token
  /-- Awaiting `activeTransport.send`. -/
  | sending
  | sent
  | failed (error : ClientError)
  deriving DecidableEq, Repr

/-- Where the `startReceiveLoop` of a transport is. -/
inductive ReceiveLoop
  | notStarted
  /-- Awaiting `activeTransport.receive`. -/
  | running
  | ended
  deriving DecidableEq, Repr

/-- One `openAndAuthenticate`, and its transport. -/
structure Attempt where
  phase : AttemptPhase := .unused
  isReconnect : Bool := false
  /-- `signal?.aborted`. -/
  signal : Option Bool := none
  /-- The deferred this attempt stores in the variable `authOutcome`. -/
  authOutcome : Deferred := .pending
  sendConnect : SendConnect := .notCalled
  /-- The promise `waitForHello` awaits: CONNECT sent and HELLO received, or the
  first of its failures, the timer and the signal. -/
  hello : Deferred := .pending
  receiveLoop : ReceiveLoop := .notStarted
  /-- `failPartialFrame` is awaiting `failedTransport.close`. -/
  failingPartialFrame : Bool := false
  /-- `transport.close` has been called. -/
  closeCalled : Bool := false
  /-- `handleConnectionLoss` has been called for this transport. -/
  lossReported : Bool := false
  deriving DecidableEq, Repr

/-- The promise of `waitForHello` settles with the first of what it waits for. -/
def Attempt.settleHello (a : Attempt) : Attempt :=
  let outcome : Deferred := match a.sendConnect, a.authOutcome with
    | .failed error, _ => .rejected error
    | _, .rejected error => .rejected error
    | .sent, .resolved => .resolved
    | _, _ => .pending
  { a with hello := a.hello.settle outcome }

/-- `ReconnectLoopResult`. -/
inductive ReconnectLoopResult
  | connected
  | closed
  | exhausted
  deriving DecidableEq, Repr

/-- `reconnectPromise`, and where the `reconnectLoop` behind it is. -/
inductive ReconnectLoop
  /-- `reconnectPromise` is null. -/
  | idle
  /-- `runLoop` is awaiting `sleepWithAbort`. -/
  | sleeping (attempts : Nat)
  /-- `runLoop` is awaiting `openAndAuthenticate`. -/
  | opening (attempts : Nat) (attempt : TransportId)
  /-- `runLoop` has returned to `reconnectLoop`. -/
  | returned (result : ReconnectLoopResult)
  /-- `reconnectLoop` has returned; its `finally` is still to run. -/
  | finished
  deriving DecidableEq, Repr

/-! ### The connection -/

/-- The variables that say whose the connection is and how it stands. -/
structure Control where
  options : ConnectionOptions
  transport : Option TransportId := none
  state : ConnectionState := .disconnected
  receiveLoopAbort : Bool := false
  closeRequested : Bool := false
  permanentlyClosed : Bool := false
  /-- The attempt whose promise is shared. -/
  connectPromise : Option TransportId := none
  /-- `closePromise` is not null. -/
  closePromise : Bool := false
  reconnectPromise : ReconnectLoop := .idle
  /-- `connectionLossPromise` is not null. -/
  connectionLossPromise : Bool := false
  reconnectRestoreActive : Bool := false
  /-- The attempt whose deferred the variable holds. -/
  authOutcome : Option TransportId := none
  authRejected : Bool := false
  sessionConfirmed : Bool := false
  hasEstablishedSession : Bool := false
  reconnectExhausted : Bool := false
  /-- The number of transports opened so far, and the next identity. -/
  opened : TransportId := 0
  /-- The transports for which `multiplexer.setConnected` was called, latest first. -/
  sessions : List TransportId := []
  /-- The attempt that last set AUTHENTICATED. -/
  authenticatedBy : Option TransportId := none
  /-- The number of calls of `emitDisconnect`. -/
  disconnects : Nat := 0

/-- The variables that the calls, the frames and the heartbeat work with. -/
structure Traffic where
  /-- The gate the variable `requestGate` holds. -/
  requestGate : GateId := 0
  /-- The gates made so far; a call keeps the one it asked. -/
  gates : GateId → RequestGate
  gatesCreated : GateId := 1
  calls : CallId → Call := fun _ => {}
  /-- The operations behind `writeChain` that have not started, first come first. -/
  writeChain : List Write := []
  /-- The operation that holds the write lock. -/
  writing : Option Write := none
  /-- The calls of `transport.send` and `transport.sendHeartbeat`, latest first. -/
  written : List Write := []
  maxMessageBytes : Nat := defaultMaxMessageBytes
  negotiatedMaxMessageBytes : Nat := defaultMaxMessageBytes
  negotiatedMaxInFlight : Nat
  /-- `getPendingFrameInfo().hasPending`. -/
  framePending : Bool := false
  /-- The transport the armed timer was armed for. -/
  partialFrameTimeout : Option TransportId := none
  heartbeatTransport : Option TransportId := none
  heartbeatPending : Bool := false
  /-- The promise of the last `sendHeartbeat` of each transport. -/
  heartbeats : TransportId → Deferred := fun _ => .pending

/-- The variables of one connection. -/
structure Connection extends Control, Traffic where
  multiplexer : Multiplexer := {}
  readiness : ReadinessWaiter
  attempts : TransportId → Attempt := fun _ => {}

/-! ### Readiness -/

/-- `AuthenticationError("Authentication rejected")`. -/
def authenticationRejectedError : ClientError := ⟨.authentication, "Authentication rejected"⟩

namespace Control

variable (c : Control)

/-- `canWaitForReconnect`. -/
def canWaitForReconnect : Bool :=
  c.options.reconnectEnabled && c.hasEstablishedSession && !c.reconnectExhausted && !c.authRejected

/-- The error of a connection that cannot be used in its state. -/
def cannotUseError : ClientError :=
  ⟨.connection (some c.state), s!"Cannot use connection while state is {c.state.text}"⟩

/-- `readyFailure`. -/
def readyFailure : Option ClientError :=
  if c.state = .authenticated then none
  else if c.authRejected then some authenticationRejectedError
  else if c.closeRequested ∨ c.state = .closed then some connectionClosedError
  else
    match c.state with
    | .connecting | .connected | .authenticating | .reconnecting => none
    | .disconnected => if c.canWaitForReconnect then none else some c.cannotUseError
    | _ => some c.cannotUseError

/-- `createTimeoutError` of the readiness waiter. -/
def readyTimeoutError : ClientError :=
  ⟨.connection (some c.state), "Timed out waiting for connection to become ready"⟩

/-- `ensureAuthenticated`: the error it throws. -/
def ensureAuthenticated : Option ClientError :=
  if c.closeRequested ∨ c.state ≠ .authenticated then some c.cannotUseError else none

/-- The error of `ensureTransport`. -/
def noTransportError : ClientError := ⟨.connection (some c.state), "No active transport"⟩

/-- `isUnconfirmedSessionLoss`. -/
def isUnconfirmedSessionLoss : Bool := !c.sessionConfirmed && c.state = .authenticating

/-- The states in which `connect` waits for an attempt that is not its own. -/
def connectMustWait : Bool :=
  c.reconnectPromise ≠ .idle ||
    match c.state with
    | .connecting | .connected | .authenticating | .reconnecting => true
    | .disconnected => c.canWaitForReconnect
    | _ => false

/-- `attempts < options.maxAttempts`, in `runLoop`. -/
def attemptsLeft (attempts : Nat) : Bool :=
  match c.options.reconnectMaxAttempts with
  | none => true
  | some maxAttempts => attempts < maxAttempts

end Control

namespace Connection

/-- `createConnection`. -/
def create (options : ConnectionOptions) : Connection where
  options := options
  gates := fun _ => .create options.maxInFlightRequests options.maxRequestQueueSize
  negotiatedMaxInFlight := options.maxInFlightRequests
  readiness := ⟨options.maxRequestQueueSize, 0, fun _ => .none⟩

/-- Change the variables of one attempt. -/
def modifyAttempt (c : Connection) (t : TransportId) (f : Attempt → Attempt) : Connection :=
  { c with attempts := Function.update c.attempts t (f (c.attempts t)) }

/-- Change the variables of one call. -/
def modifyCall (c : Connection) (i : CallId) (f : Call → Call) : Connection :=
  { c with calls := Function.update c.calls i (f (c.calls i)) }

/-- Change one gate. -/
def modifyGate (c : Connection) (gate : GateId) (f : RequestGate → RequestGate) : Connection :=
  { c with gates := Function.update c.gates gate (f (c.gates gate)) }

/-- `requestGate = createRequestGate(maxConcurrency, maxRequestQueueSize)`. -/
def replaceRequestGate (c : Connection) (maxConcurrency : Nat) : Connection :=
  { c with
    requestGate := c.gatesCreated
    gates := Function.update c.gates c.gatesCreated
      (.create maxConcurrency c.options.maxRequestQueueSize)
    gatesCreated := c.gatesCreated + 1 }

/-- `requestGate.close()`. -/
def closeRequestGate (c : Connection) : Connection := c.modifyGate c.requestGate .close

/-- `activeTransport.close()`, without waiting for it. -/
def callClose (c : Connection) (t : TransportId) : Connection :=
  c.modifyAttempt t fun a => { a with closeCalled := true }

/-! ### The state -/

/-- `notifyReadyListeners`. -/
def notifyReadyListeners (c : Connection) : Connection :=
  { c with readiness := c.readiness.notify c.state c.readyFailure }

/-- `setState`. -/
def setState (c : Connection) (newState : ConnectionState) : Connection :=
  notifyReadyListeners { c with state := newState }

/-! ### Small helpers -/

/-- `stopHeartbeat`. -/
def stopHeartbeat (c : Connection) : Connection :=
  { c with heartbeatTransport := none, heartbeatPending := false }

/-- `startHeartbeat`. -/
def startHeartbeat (c : Connection) (t : TransportId) : Connection :=
  if c.options.heartbeatEnabled then
    { c with heartbeatTransport := some t, heartbeatPending := false }
  else c

/-- `clearPartialFrameTimeout`. -/
def clearPartialFrameTimeout (c : Connection) : Connection := { c with partialFrameTimeout := none }

/-- `emitDisconnect`. -/
def emitDisconnect (c : Connection) : Connection := { c with disconnects := c.disconnects + 1 }

/-- `multiplexer.setDisconnected()`. -/
def disconnectMultiplexer (c : Connection) : Connection :=
  { c with multiplexer := c.multiplexer.setDisconnected }

/-- `multiplexer.setConnected()`, on behalf of attempt `t`. -/
def connectMultiplexer (c : Connection) (t : TransportId) : Connection :=
  { c with multiplexer := c.multiplexer.setConnected, sessions := t :: c.sessions }

/-- `confirmSession`. -/
def confirmSession (c : Connection) : Connection :=
  if c.sessionConfirmed then c
  else { c with sessionConfirmed := true, hasEstablishedSession := true }

/-- `createInferredAuthenticationError`. -/
def createInferredAuthenticationError (error : ClientError) : ClientError :=
  ⟨.authentication, describeConnectionLoss error⟩

/-- `authOutcome?.resolve()` and `authOutcome?.reject(error)`. -/
def settleAuth (c : Connection) (outcome : Deferred) : Connection :=
  match c.authOutcome with
  | none => c
  | some t =>
    c.modifyAttempt t fun a =>
      Attempt.settleHello { a with authOutcome := a.authOutcome.settle outcome }

/-- `settleAuth`, followed by `authOutcome = null`. -/
def finishAuth (c : Connection) (outcome : Deferred) : Connection :=
  { c.settleAuth outcome with authOutcome := none }

end Connection

end FitzTs.Client
