import FitzTs.Client.Connection.Loss
/-!
# FitzTs.Client.Connection.Calls

What the callers of a connection do: `connect`, `close`, `waitUntilReady`,
`requestInternal`, `send` and `sendCorrelated` of `client/connection.ts`, and the
write lock.

    waitingReady ──▶ waitingSlot ──▶ requesting / sending ──▶ finished
                          ▲
    readyForRestore ──────┘

An error can end a call in each of these phases.
-/

namespace FitzTs.Client.Connection

/-! ### connect and close -/

/-- What `connect` does, before its first `await` has returned. -/
inductive ConnectResult
  | rejected (error : ClientError)
  /-- The connection is authenticated already. -/
  | done
  /-- It awaits the promise of attempt `t`, made by another call. -/
  | shared (t : TransportId)
  /-- It awaits `waitForReady`. -/
  | waits
  /-- It has made attempt `t`. -/
  | opened (t : TransportId)
  deriving DecidableEq, Repr

/-- `waitForReady` of call `i`. -/
def waitForReady (c : Connection) (i : CallId) (aborted : Bool) : Connection :=
  { c with readiness := c.readiness.waitForReady c.state c.readyFailure i aborted }

/-- `connect` by call `i`. -/
def connect (c : Connection) (i : CallId) (signal : Option Bool) : ConnectResult × Connection :=
  if c.permanentlyClosed ∨ c.closeRequested then (.rejected connectionClosedError, c)
  else if signal = some true then (.rejected abortError, c)
  else if c.state = .authenticated then (.done, c)
  else
    match c.connectPromise with
    | some t => (.shared t, c)
    | none =>
      if c.connectMustWait then
        let c := c.modifyCall i fun _ => { kind := .connect, signal, phase := .waitingReady false }
        (.waits, c.waitForReady i false)
      else
        let t := c.opened
        let c := { c with authRejected := false, reconnectExhausted := false }
        (.opened t, { c.openAndAuthenticate false signal with connectPromise := some t })

/-- The `finally` of `connect`'s shared promise. -/
def connectSettled (c : Connection) (t : TransportId) : Connection :=
  if c.connectPromise = some t then { c with connectPromise := none } else c

/-- The error of a close, while the connection is not authenticated yet. -/
def closedDuringConnectError : ClientError := ⟨.connection (some .closed), "Connection closed"⟩

/-- `runClose`, where it does something. -/
def tearDown (c : Connection) : Connection :=
  let c := { c with permanentlyClosed := true, closeRequested := true, receiveLoopAbort := true }
  let c := (c.stopHeartbeat.clearPartialFrameTimeout.setState .closed).closeRequestGate
  let c := (c.finishAuth (.rejected closedDuringConnectError)).disconnectMultiplexer.emitDisconnect
  match c.transport with
  | none => c
  | some t => { c with transport := none }.callClose t

/-- `close`, with `runClose`; its promise is shared by all calls. -/
def close (c : Connection) : Connection :=
  if c.closePromise then c
  else
    let c := { c with closePromise := true }
    if c.state = .closed ∧ c.transport = none then c else c.tearDown

/-! ### Waiting for readiness -/

/-- The call `i` has returned or thrown. -/
def finishCall (c : Connection) (i : CallId) (failure : Option ClientError) : Connection :=
  c.modifyCall i fun call => { call with phase := .finished failure }

/-- `acquireReadyWaitSlot` and `waitForReady`. -/
def acquireSlotAndWait (c : Connection) (i : CallId) (aborted : Bool) : Connection :=
  match c.readiness.acquireWaitSlot c.state c.readyFailure with
  | .error error => c.finishCall i (some error)
  | .ok (slot, readiness) =>
    ({ c with readiness }.waitForReady i aborted).modifyCall i
      fun call => { call with phase := .waitingReady slot }

/-- The condition of `waitForRequestReady`'s early return. -/
def restoreShortcut (c : Connection) (allowReconnectRestore : Bool) : Bool :=
  allowReconnectRestore && c.reconnectRestoreActive && c.state = .authenticating &&
    !c.closeRequested && !c.authRejected && c.transport.isSome

/-- What a caller asks for. -/
inductive CallRequest
  | waitUntilReady
  /-- `request` and `requestWithFlags`, or `requestDuringReconnectRestore`. -/
  | request (allowReconnectRestore : Bool)
  /-- `send` with correlation 0: `sendFireAndForget`. -/
  | sendFireAndForget
  | sendCorrelated
  deriving DecidableEq, Repr

/-- Store call `i`, which is about to wait. -/
def startCall (c : Connection) (i : CallId) (kind : CallKind) (messageType : MessageType)
    (frameLength : Nat) (signal : Option Bool) : Connection :=
  c.modifyCall i fun _ =>
    { kind, messageType, frameLength, signal, calledIn := c.sessions.length }

/-- `sendCorrelated`: the identifier is drawn before anything is awaited. -/
def sendCorrelated (c : Connection) (i : CallId) (messageType : MessageType) (frameLength : Nat)
    (signal : Option Bool) : Connection :=
  match c.multiplexer.allocateCorrelationId with
  | .error error =>
    (c.startCall i (.send 0) messageType frameLength signal).finishCall i (some error)
  | .ok (correlation, m) =>
    ({ c with multiplexer := m }.startCall i (.send correlation) messageType frameLength signal)
      |>.acquireSlotAndWait i (signal = some true)

/-- A call, up to its first `await`. -/
def call (c : Connection) (i : CallId) (request : CallRequest) (messageType : MessageType)
    (frameLength : Nat) (signal : Option Bool) : Connection :=
  match request with
  | .waitUntilReady =>
    ((c.startCall i .waitUntilReady messageType frameLength signal).waitForReady i
      (signal = some true)).modifyCall i fun call => { call with phase := .waitingReady false }
  | .request allowReconnectRestore =>
    let c := c.startCall i (.request allowReconnectRestore) messageType frameLength signal
    if c.restoreShortcut allowReconnectRestore then
      c.modifyCall i fun call => { call with phase := .readyForRestore, readyOn := c.transport }
    else c.acquireSlotAndWait i (signal = some true)
  | .sendFireAndForget =>
    (c.startCall i (.send 0) messageType frameLength signal).acquireSlotAndWait i
      (signal = some true)
  | .sendCorrelated => c.sendCorrelated i messageType frameLength signal

/-- `acquireRequestSlot`. -/
def acquireRequestSlot (c : Connection) (i : CallId) : Connection :=
  (c.modifyGate c.requestGate fun g => g.acquire i ((c.calls i).signal = some true)).modifyCall i
    fun call => { call with
      phase := .waitingSlot c.requestGate
      -- a call let through during a restore has been found ready before
      readyOn := if call.phase = .readyForRestore then call.readyOn else c.transport }

/-- `releaseReadyWaitSlot?.()`. -/
def releaseReadyWaitSlot (c : Connection) (slot : Bool) : Connection :=
  if slot then { c with readiness := c.readiness.releaseWaitSlot } else c

/-- The continuation of `waitForReady`, once its promise has been settled with
`failure`. -/
def waitReturned (c : Connection) (i : CallId) (slot : Bool) (failure : Option ClientError) :
    Connection :=
  let c := c.releaseReadyWaitSlot slot
  match failure with
  | some error => c.finishCall i (some error)
  | none =>
    match (c.calls i).kind with
    | .connect | .waitUntilReady => c.finishCall i none
    | .request _ | .send _ =>
      match c.ensureAuthenticated with
      | some error => c.finishCall i (some error)
      | none => c.acquireRequestSlot i

/-- What continues a call that waits for readiness. -/
def readyContinues (c : Connection) (i : CallId) : Option Connection :=
  match (c.calls i).phase with
  | .readyForRestore => some (c.acquireRequestSlot i)
  | .waitingReady slot =>
    match c.readiness.waiters i with
    | .resolved => some (c.waitReturned i slot none)
    | .rejected error => some (c.waitReturned i slot (some error))
    | .none | .parked => none
  | _ => none

/-- The timer of `waitForReady` fires, while the call is parked. -/
def waitTimedOut (c : Connection) (i : CallId) : Connection :=
  { c with readiness := c.readiness.rejectParked i c.readyTimeoutError }

/-! ### Sending -/

/-- `releaseRequestSlot()` and the end of the call. -/
def releaseAndFinish (c : Connection) (i : CallId) (gate : GateId) (failure : Option ClientError) :
    Connection :=
  (c.modifyGate gate .release).finishCall i failure

/-- The check of a frame against `maxMessageBytes`. -/
def messageTooLargeError : ClientError :=
  ⟨.protocol none, "Message exceeds the negotiated max_message_bytes"⟩

/-- `sendSerialized(transport, frame)` on behalf of call `i`: behind the writes
that wait for the lock. -/
def sendSerialized (c : Connection) (i : CallId) (t : TransportId) (correlation : CorrelationId) :
    Connection :=
  { c with writeChain := c.writeChain ++ [⟨t, .message i correlation⟩] }

/-- `multiplexer.request` of call `i`. An error is one that leaves before the
request exists, so before `send` is called. -/
def multiplexerRequest (c : Connection) (i : CallId) (gate : GateId) (t : TransportId)
    (nowMs : Nat) : Connection :=
  let call := c.calls i
  match c.multiplexer.issueRequest call.messageType nowMs c.options.timeout call.signal none with
  | .error error => c.releaseAndFinish i gate (some error)
  | .ok m =>
    let r := c.multiplexer.issued
    let correlation := ((m.requests r).correlationId).getD 0
    ({ c with multiplexer := m }.sendSerialized i t correlation).modifyCall i
      fun call => { call with phase := .requesting gate t, request := some r }

/-- The `try` block of `requestInternal` and of `send`, up to its `await`. -/
def slotGranted (c : Connection) (i : CallId) (gate : GateId) (nowMs : Nat) : Connection :=
  match c.transport with
  | none => c.releaseAndFinish i gate (some c.noTransportError)
  | some t =>
    if (c.calls i).frameLength > c.maxMessageBytes then
      c.releaseAndFinish i gate (some messageTooLargeError)
    else
      match (c.calls i).kind with
      | .send correlation =>
        (c.sendSerialized i t correlation).modifyCall i
          fun call => { call with phase := .sending gate t }
      | _ => c.multiplexerRequest i gate t nowMs

/-- The continuation of `acquireRequestSlot`. -/
def slotContinues (c : Connection) (i : CallId) (nowMs : Nat) : Option Connection :=
  match (c.calls i).phase with
  | .waitingSlot gate =>
    match (c.gates gate).outcomes i with
    | .granted => some (c.slotGranted i gate nowMs)
    | .rejected error => some (c.finishCall i (some error))
    | .none | .queued => none
  | _ => none

/-- The handlers `issueRequest` put on the promise of `sendSerialized`. -/
def sendSettles (c : Connection) (i : CallId) : Option Connection :=
  match (c.calls i).request with
  | some r =>
    if (c.multiplexer.requests r).sendPending then
      match (c.calls i).sendOutcome with
      | .resolved => some { c with multiplexer := c.multiplexer.sendResolved r }
      | .rejected error => some { c with multiplexer := c.multiplexer.sendRejected r error }
      | .pending => none
    else none
  | none => none

/-- The `catch` and the `finally` of a call whose `send` was called. -/
def callFailed (c : Connection) (i : CallId) (gate : GateId) (t : TransportId)
    (error : ClientError) : Connection :=
  (c.handlePossibleTransportFailure error t).releaseAndFinish i gate (some error)

/-- What the promise of `multiplexer.request` or of `sendSerialized` has settled with,
and the gate and the transport of the call. -/
def callOutcome (c : Connection) (i : CallId) :
    Option (GateId × TransportId × Option ClientError) :=
  match (c.calls i).phase, (c.calls i).request with
  | .requesting gate t, some r =>
    match (c.multiplexer.requests r).settlements.head? with
    | some (.fulfilled _) => some (gate, t, none)
    | some (.rejected error) => some (gate, t, some error)
    | none => none
  | .sending gate t, _ =>
    match (c.calls i).sendOutcome with
    | .resolved => some (gate, t, none)
    | .rejected error => some (gate, t, some error)
    | .pending => none
  | _, _ => none

/-- The continuation of `multiplexer.request` and of `sendSerialized`. -/
def callSettles (c : Connection) (i : CallId) : Option Connection :=
  match c.callOutcome i with
  | some (gate, _, none) => some (c.releaseAndFinish i gate none)
  | some (gate, t, some error) => some (c.callFailed i gate t error)
  | none => none

/-- The caller's signal fires. -/
def abortCall (c : Connection) (i : CallId) : Option Connection :=
  if (c.calls i).signal = some false then
    let c := c.modifyCall i fun call => { call with signal := some true }
    match (c.calls i).phase, (c.calls i).request with
    | .waitingReady _, _ => some { c with readiness := c.readiness.rejectParked i abortError }
    | .waitingSlot gate, _ => some (c.modifyGate gate fun g => g.abort i)
    | .requesting _ _, some r =>
      some { c with multiplexer := (c.multiplexer.step (.abort r)).getD c.multiplexer }
    | _, _ => some c
  else none

/-! ### The write lock -/

/-- The next operation of the write chain gets the lock: it calls `send` or
`sendHeartbeat` of its transport. -/
def writeBegins (c : Connection) : Option Connection :=
  match c.writing, c.writeChain with
  | none, w :: rest =>
    some { c with writing := some w, writeChain := rest, written := w :: c.written }
  | _, _ => none

/-- The promise of the operation that holds the lock settles. -/
def writeEnds (c : Connection) (failure : Option ClientError) : Option Connection :=
  match c.writing with
  | none => none
  | some w =>
    let c := { c with writing := none }
    let outcome : Deferred := match failure with
      | none => .resolved
      | some error => .rejected error
    match w.frame with
    | .message i _ =>
      some (c.modifyCall i fun call => { call with sendOutcome := call.sendOutcome.settle outcome })
    | .heartbeat =>
      some { c with heartbeats := Function.update c.heartbeats w.transport outcome }
    | .connect => some c

end FitzTs.Client.Connection
