import FitzTs.Client.Connection.Calls
import FitzTs.Client.Connection.Receiving
/-!
# FitzTs.Client.Connection

`createConnection` of `client/connection.ts` as a `Machine`: the calls, the
timers, the transport's answers and the continuations of the `async` functions,
in any order.
-/

namespace FitzTs.Client.Connection

/-- The events of the multiplexer that its `register` functions stand for. -/
def isRegistration : Multiplexer.Event → Bool
  | .expectOptionalResponse _ | .forgetOptionalResponse _ | .registerNotificationHandler _
  | .unregisterNotificationHandler _ | .registerPushFrameClassifier _ _ => true
  | _ => false

/-- What can happen to a connection. -/
inductive Event
  /-- `connect` by call `i`. -/
  | connect (i : CallId) (signal : Option Bool)
  /-- The promise `connect` shares has settled. -/
  | connectSettled (t : TransportId)
  | close
  /-- Call `i` of another function. -/
  | call (i : CallId) (request : CallRequest) (messageType : MessageType) (frameLength : Nat)
      (signal : Option Bool)
  /-- Call `i` continues after `waitForReady`. -/
  | readyContinues (i : CallId)
  /-- Call `i` continues after `requestGate.acquire`. -/
  | slotContinues (i : CallId) (nowMs : Nat)
  /-- The multiplexer sees the promise of `sendSerialized` settled. -/
  | sendSettles (i : CallId)
  /-- Call `i` continues after `multiplexer.request` or `sendSerialized`. -/
  | callSettles (i : CallId)
  | abortCall (i : CallId)
  | waitTimeout (i : CallId)
  | writeBegins
  | writeEnds (failure : Option ClientError)
  /-- `activeTransport.connect` settles. -/
  | transportConnect (t : TransportId) (failure : Option ClientError)
  /-- `tokenProvider()` settles. -/
  | token (t : TransportId) (failure : Option ClientError)
  /-- The `send` of CONNECT settles. -/
  | connectSent (t : TransportId) (failure : Option ClientError)
  | helloTimeout (t : TransportId)
  /-- The signal of attempt `t` fires. -/
  | abortAttempt (t : TransportId)
  /-- Attempt `t` continues after `waitForHello`. -/
  | helloSettled (t : TransportId)
  /-- Attempt `t` continues after `restoreReconnectState`. -/
  | restored (t : TransportId)
  /-- Attempt `t` continues after `activeTransport.close` in its `catch`. -/
  | attemptClosed (t : TransportId)
  /-- `receive()` of transport `t` settles: the error it rejects with, or what the
  parser makes of the data. -/
  | receive (t : TransportId)
      (outcome : Except ClientError (Except ClientError (List InboundFrame × Bool)))
  | partialFrameTimer
  /-- `failPartialFrame` continues after `failedTransport.close`. -/
  | partialFrameClosed (t : TransportId)
  | heartbeatTick
  /-- The promise of `sendHeartbeat` of transport `t` has settled. -/
  | heartbeatSettled (t : TransportId) (active : Bool)
  /-- The `finally` of `connectionLossPromise`. -/
  | connectionLossSettled
  /-- `runLoop` continues after `sleepWithAbort`. -/
  | reconnectWake
  /-- `runLoop` continues after `openAndAuthenticate`. -/
  | reconnectAttempted
  /-- `reconnectLoop` continues after `runLoop`. -/
  | reconnectReturned
  /-- The `finally` of `reconnectPromise`. -/
  | reconnectSettled
  /-- The timer of the multiplexer fires. -/
  | multiplexerTimer (nowMs : Nat)
  /-- A registration with the multiplexer. -/
  | register (e : Multiplexer.Event)

/-- The continuation of a promise that may have been rejected. -/
def settled (failure : Option ClientError) (resolved : Connection)
    (rejected : ClientError → Connection) : Connection :=
  match failure with
  | none => resolved
  | some error => rejected error

/-- The steps of attempt `t` after the `await` it is in. -/
def attemptStep (c : Connection) (t : TransportId) : Event → Option Connection
  | .transportConnect _ failure =>
    match (c.attempts t).phase with
    | .connecting => some (settled failure (c.transportConnected t) (c.catchFailure t))
    | _ => none
  | .helloSettled _ =>
    match (c.attempts t).phase, (c.attempts t).hello with
    | .negotiating, .resolved => some (c.helloReceived t)
    | .negotiating, .rejected error => some (c.catchFailure t error)
    | _, _ => none
  | .restored _ =>
    match (c.attempts t).phase with
    | .restoring => some (c.restored t)
    | _ => none
  | .attemptClosed _ =>
    match (c.attempts t).phase with
    | .closing error unconfirmed wasRestore =>
        some (c.rethrowFailure t error unconfirmed wasRestore)
    | _ => none
  | _ => none

/-- The steps of `sendConnect` and of the wait for HELLO of attempt `t`. -/
def handshakeStep (c : Connection) (t : TransportId) : Event → Option Connection
  | .token _ failure =>
    if (c.attempts t).sendConnect = .token then
      some (settled failure (c.tokenProvided t) fun error => c.setSendConnect t (.failed error))
    else none
  | .connectSent _ failure =>
    if (c.attempts t).sendConnect = .sending then
      some (settled failure (c.setSendConnect t .sent)
        fun error => c.setSendConnect t (.failed error))
    else none
  | .helloTimeout _ =>
    if (c.attempts t).phase = .negotiating then some (c.rejectHello t helloTimeoutError) else none
  | .abortAttempt _ =>
    if (c.attempts t).signal = some false then
      let c := c.modifyAttempt t fun a => { a with signal := some true }
      some (if (c.attempts t).phase = .negotiating then c.rejectHello t abortError else c)
    else none
  | _ => none

/-- The steps of `runLoop` and of `reconnectLoop`. -/
def reconnectStep (c : Connection) : Event → Option Connection
  | .reconnectWake =>
    match c.reconnectPromise with
    | .sleeping attempts => some (c.reconnectWake attempts)
    | _ => none
  | .reconnectAttempted =>
    match c.reconnectPromise with
    | .opening attempts t =>
      match (c.attempts t).phase with
      | .finished failure => some (c.reconnectAttempted attempts failure)
      | _ => none
    | _ => none
  | .reconnectReturned =>
    match c.reconnectPromise with
    | .returned result => some (c.reconnectReturned result)
    | _ => none
  | .reconnectSettled =>
    if c.reconnectPromise = .finished then some { c with reconnectPromise := .idle } else none
  | _ => none

/-- The steps of the receive loop, of the timer of incomplete frames and of the
heartbeat. -/
def receiveStep (c : Connection) : Event → Option Connection
  | .receive t outcome =>
    if (c.attempts t).receiveLoop = .running ∧ atMostOneFrame outcome then
      match outcome with
      | .ok parsed => c.received t parsed
      | .error error => some (c.receiveFailed t error)
    else none
  | .partialFrameTimer => c.partialFrameTimeout.map c.partialFrameTimer
  | .partialFrameClosed t =>
    if (c.attempts t).failingPartialFrame then some (c.failPartialFrame t) else none
  | .heartbeatTick => c.heartbeatTransport.map c.heartbeatTick
  | .heartbeatSettled t active =>
    if c.heartbeats t = .pending then none else some (c.heartbeatSettled t active)
  | .connectionLossSettled =>
    if c.connectionLossPromise then some { c with connectionLossPromise := false } else none
  | _ => none

/-- The steps of the calls, other than `connect` and `close`. -/
def callStep (c : Connection) : Event → Option Connection
  | .call i request messageType frameLength signal =>
    if (c.calls i).phase = .notCalled then some (c.call i request messageType frameLength signal)
    else none
  | .readyContinues i => c.readyContinues i
  | .slotContinues i nowMs => c.slotContinues i nowMs
  | .sendSettles i => c.sendSettles i
  | .abortCall i => c.abortCall i
  | .waitTimeout i =>
    if c.readiness.waiters i = .parked then some (c.waitTimedOut i) else none
  | .writeBegins => c.writeBegins
  | .writeEnds failure => c.writeEnds failure
  | .multiplexerTimer nowMs =>
    (c.multiplexer.step (.timer nowMs)).map fun m => { c with multiplexer := m }
  | .register e =>
    if isRegistration e then (c.multiplexer.step e).map fun m => { c with multiplexer := m }
    else none
  | _ => none

/-- One step; `none` is an event that cannot happen. -/
def step (c : Connection) (e : Event) : Option Connection :=
  match e with
  | .connect i signal =>
    if (c.calls i).phase = .notCalled then some (c.connect i signal).2 else none
  | .connectSettled t =>
    match (c.attempts t).phase with
    | .finished _ => some (c.connectSettled t)
    | _ => none
  | .close => some c.close
  | .callSettles i => c.callSettles i
  | .transportConnect t _ | .helloSettled t | .restored t | .attemptClosed t => c.attemptStep t e
  | .token t _ | .connectSent t _ | .helloTimeout t | .abortAttempt t => c.handshakeStep t e
  | .reconnectWake | .reconnectAttempted | .reconnectReturned | .reconnectSettled =>
    c.reconnectStep e
  | .receive _ _ | .partialFrameTimer | .partialFrameClosed _ | .heartbeatTick
  | .heartbeatSettled _ _ | .connectionLossSettled => c.receiveStep e
  | .call _ _ _ _ _ | .readyContinues _ | .slotContinues _ _ | .sendSettles _ | .abortCall _
  | .waitTimeout _ | .writeBegins | .writeEnds _ | .multiplexerTimer _ | .register _ => c.callStep e

/-- A connection with the given options, driven by its events. -/
def machine (options : ConnectionOptions) : Machine Connection Event := ⟨create options, step⟩

end FitzTs.Client.Connection
