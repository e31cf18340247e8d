import FitzTs.Client.Connection.State
/-!
# FitzTs.Client.Connection.Attempts

`openAndAuthenticate` and `sendConnect` of `client/connection.ts`, and the wait
for HELLO of `client/internal/negotiation.ts`.

    connecting ──▶ negotiating ──▶ restoring ──▶ finished none
        │              │               │
        └──────────────┴───────────────┴──▶ closing ──▶ finished (some failure)

The variables an attempt sets are the connection's, so an attempt that is no
longer the newest still sets them.
-/

namespace FitzTs.Client.Connection

/-- `openAndAuthenticate` up to `await activeTransport.connect`. -/
def openAndAuthenticate (c : Connection) (isReconnect : Bool) (signal : Option Bool) : Connection :=
  let t := c.opened
  let c := { c with
    receiveLoopAbort := false
    framePending := false
    partialFrameTimeout := none
    maxMessageBytes := defaultMaxMessageBytes
    sessionConfirmed := false
    hasEstablishedSession := isReconnect && c.hasEstablishedSession }
  let c := c.replaceRequestGate c.options.maxInFlightRequests
  let attempt : Attempt := { phase := .connecting, isReconnect, signal }
  let c := { c with
    transport := some t
    opened := t + 1
    attempts := Function.update c.attempts t attempt }
  c.stopHeartbeat.setState (if isReconnect then .reconnecting else .connecting)

/-- The `catch`, up to `await activeTransport.close()`. -/
def catchFailure (c : Connection) (t : TransportId) (error : ClientError) : Connection :=
  let unconfirmedAtCatch := c.isUnconfirmedSessionLoss
  let wasReconnectRestoreActive := c.reconnectRestoreActive
  let c := { c with authOutcome := none, reconnectRestoreActive := false }
  let c := { c.stopHeartbeat with receiveLoopAbort := true }
  (c.callClose t).modifyAttempt t fun a =>
    { a with phase := .closing error unconfirmedAtCatch wasReconnectRestoreActive }

/-- The failure the `catch` throws, unless it is an abort. -/
def catchFailureError (c : Connection) (error : ClientError)
    (unconfirmedAtCatch wasReconnectRestoreActive : Bool) : ClientError :=
  let inferredAuthFailure :=
    !c.closeRequested && !isAbortError error && !wasReconnectRestoreActive && unconfirmedAtCatch
  if inferredAuthFailure then createInferredAuthenticationError error else error

/-- The end of the `catch`: the state of a connection whose attempt failed. -/
def settleFailure (c : Connection) (rejectedAuth : Bool) : Connection :=
  let alreadyHandledByConnectionLoss := c.state = .closed
  if alreadyHandledByConnectionLoss then c
  else if c.closeRequested then c.setState .closed
  else
    c.disconnectMultiplexer.emitDisconnect.setState
      (if rejectedAuth then .closed else .disconnected)

/-- The `catch`, after `await activeTransport.close()`. -/
def rethrowFailure (c : Connection) (t : TransportId) (error : ClientError)
    (unconfirmedAtCatch wasReconnectRestoreActive : Bool) : Connection :=
  let failure := c.catchFailureError error unconfirmedAtCatch wasReconnectRestoreActive
  let rejectedAuth : Bool := failure.cls = .authentication
  let c := { c with
    transport := if c.transport = some t then none else c.transport
    authRejected := rejectedAuth || c.authRejected }
  (c.settleFailure rejectedAuth).modifyAttempt t fun a =>
    { a with phase := .finished (some (if isAbortError error then abortError else failure)) }

/-- `throwIfAborted(signal)` of attempt `t`. -/
def signalAborted (c : Connection) (t : TransportId) : Bool := (c.attempts t).signal = some true

/-- `startReceiveLoop`, up to its first `await`. -/
def startReceiveLoop (c : Connection) (t : TransportId) : Connection :=
  let running := !c.receiveLoopAbort && !c.closeRequested && c.transport = some t
  c.modifyAttempt t fun a => { a with receiveLoop := if running then .running else .ended }

/-- `authOutcome = createDeferred()`, on behalf of attempt `t`. -/
def createAuthOutcome (c : Connection) (t : TransportId) : Connection :=
  { c with authOutcome := some t }

/-- The continuation of `activeTransport.connect`. -/
def transportConnected (c : Connection) (t : TransportId) : Connection :=
  if c.closeRequested then c.catchFailure t connectionClosedError
  else if c.signalAborted t then c.catchFailure t abortError
  else
    let c := (((c.startReceiveLoop t).setState .connected).setState .authenticating)
    let c := c.createAuthOutcome t
    if ¬ (c.attempts t).isReconnect ∧ c.authRejected then
      c.catchFailure t authenticationRejectedError
    else
      c.modifyAttempt t fun a => { a with phase := .negotiating, sendConnect := .token }

/-- Set where `sendConnect` of attempt `t` is, which its `hello` may depend on. -/
def setSendConnect (c : Connection) (t : TransportId) (s : SendConnect) : Connection :=
  c.modifyAttempt t fun a => Attempt.settleHello { a with sendConnect := s }

/-- The error of a CONNECT whose transport has been replaced. -/
def connectionChangedError (c : Connection) : ClientError :=
  ⟨.connection (some c.state), "Connection changed while preparing CONNECT"⟩

/-- The continuation of `tokenProvider()`: CONNECT goes to the transport
directly, not through the write chain. -/
def tokenProvided (c : Connection) (t : TransportId) : Connection :=
  if c.transport = some t then
    { c.setSendConnect t .sending with written := ⟨t, .connect⟩ :: c.written }
  else c.setSendConnect t (.failed c.connectionChangedError)

/-- The promise attempt `t` waits for HELLO with is rejected by its timer or signal. -/
def rejectHello (c : Connection) (t : TransportId) (error : ClientError) : Connection :=
  c.modifyAttempt t fun a => { a with hello := a.hello.settle (.rejected error) }

/-- The error of `waitForHello`'s timer. -/
def helloTimeoutError : ClientError :=
  ⟨.connection none, "Timed out waiting for HELLO negotiation"⟩

/-- The end of the `try` block: the attempt has reached AUTHENTICATED. -/
def authenticated (c : Connection) (t : TransportId) : Connection :=
  let c := { c with reconnectExhausted := false }
  let c := { c.setState .authenticated with authenticatedBy := some t }
  let c := c.startHeartbeat t
  let c := if (c.attempts t).isReconnect then c else c.connectMultiplexer t
  c.modifyAttempt t fun a => { a with phase := .finished none }

/-- A reconnect's session begins, and `restoreReconnectState` is called. -/
def beginRestore (c : Connection) (t : TransportId) : Connection :=
  { c.connectMultiplexer t with reconnectRestoreActive := true }.modifyAttempt t
    fun a => { a with phase := .restoring }

/-- The continuation of `waitForHello`. -/
def helloReceived (c : Connection) (t : TransportId) : Connection :=
  if c.closeRequested then c.catchFailure t connectionClosedError
  else if c.signalAborted t then c.catchFailure t abortError
  else if ¬ (c.attempts t).isReconnect ∧ c.authRejected then
    c.catchFailure t authenticationRejectedError
  else
    let c := c.finishAuth .resolved
    if (c.attempts t).isReconnect then c.beginRestore t else c.authenticated t

/-- The continuation of `restoreReconnectState`. -/
def restored (c : Connection) (t : TransportId) : Connection :=
  let c := { c with reconnectRestoreActive := false }
  if c.closeRequested then c.catchFailure t connectionClosedError else c.authenticated t

end FitzTs.Client.Connection
