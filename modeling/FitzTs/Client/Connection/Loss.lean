import FitzTs.Client.Connection.Attempts
/-!
# FitzTs.Client.Connection.Loss

`handleConnectionLoss` of `client/connection.ts` and the loop of
`client/internal/reconnect.ts`.
-/

namespace FitzTs.Client.Connection

/-! ### The reconnect loop -/

/-- The head of `runLoop`'s loop and, where that ends the loop, what follows it. -/
def runLoopHead (c : Connection) (attempts : Nat) : Connection :=
  if ¬ c.closeRequested ∧ c.attemptsLeft attempts then
    { c.setState .reconnecting with reconnectPromise := .sleeping (attempts + 1) }
  else if c.closeRequested then
    { c.setState .closed with reconnectPromise := .returned .closed }
  else
    { c.setState .disconnected with reconnectPromise := .returned .exhausted }

/-- The continuation of `sleepWithAbort`. The close signal and `closeRequested`
are set together, so a loop that is woken by the signal finds the flag set. -/
def reconnectWake (c : Connection) (attempts : Nat) : Connection :=
  if c.closeRequested then { c with reconnectPromise := .returned .closed }
  else
    { c.openAndAuthenticate true none with reconnectPromise := .opening attempts c.opened }

/-- The `catch` of `runLoop`. -/
def reconnectFailed (c : Connection) (attempts : Nat) (error : ClientError) : Connection :=
  if c.closeRequested ∨ isAbortError error then { c with reconnectPromise := .returned .closed }
  else if error.cls = .authentication then
    { c.setState .closed with reconnectPromise := .returned .closed }
  else if error.cls = .protocol (some 50) then
    { c.setState .disconnected with reconnectPromise := .returned .exhausted }
  else c.runLoopHead attempts

/-- The continuation of `openAndAuthenticate` in `runLoop`. -/
def reconnectAttempted (c : Connection) (attempts : Nat) (failure : Option ClientError) :
    Connection :=
  match failure with
  | none => { c with reconnectPromise := .returned .connected }
  | some error => c.reconnectFailed attempts error

/-- `reconnectLoop`, after `runLoop` has returned. -/
def reconnectReturned (c : Connection) (result : ReconnectLoopResult) : Connection :=
  { c with
    reconnectPromise := .finished
    reconnectExhausted := result = .exhausted || c.reconnectExhausted }

/-! ### The loss of a connection -/

/-- The end of `handleConnectionLossOnce`: the new state, and the reconnect loop. -/
def afterLoss (c : Connection) : Connection :=
  if c.closeRequested ∨ c.authRejected then c.setState .closed
  else
    let c := { c with reconnectExhausted := false }.setState .disconnected
    if c.options.reconnectEnabled ∧ c.reconnectPromise = .idle then c.runLoopHead 0 else c

/-- The rejection of `authOutcome`, where the handshake is still going on. -/
def failHandshake (c : Connection) (failure : ClientError) : Connection :=
  if c.state = .authenticating then c.settleAuth (.rejected failure) else c

/-- `handleConnectionLossOnce` of the transport that is still the current one. -/
def loseConnection (c : Connection) (error : ClientError) : Connection :=
  let c := c.stopHeartbeat.clearPartialFrameTimeout
  let inferredAuthFailure := c.isUnconfirmedSessionLoss
  let c := { c with authRejected := inferredAuthFailure || c.authRejected }
  let c := c.disconnectMultiplexer.closeRequestGate.emitDisconnect
  let failure := if inferredAuthFailure then createInferredAuthenticationError error
    else ⟨.connection (some c.state), describeConnectionLoss error⟩
  (c.failHandshake failure).afterLoss

/-- `handleConnectionLossOnce`. -/
def handleConnectionLossOnce (c : Connection) (error : ClientError)
    (failedTransport : TransportId) : Connection :=
  if c.transport = some failedTransport then c.loseConnection error else c

/-- `handleConnectionLoss`. While one incident is being handled, another call
only waits for it. -/
def handleConnectionLoss (c : Connection) (error : ClientError) (failedTransport : TransportId) :
    Connection :=
  let c := c.modifyAttempt failedTransport fun a => { a with lossReported := true }
  if c.connectionLossPromise then c
  else { c.handleConnectionLossOnce error failedTransport with connectionLossPromise := true }

/-- The classes of errors that `handlePossibleTransportFailure` takes for the loss
of the connection. -/
def isConnectionFailure (error : ClientError) : Bool :=
  match error.cls with
  | .transport | .connection _ | .authentication => true
  | _ => false

/-- `handlePossibleTransportFailure` of a call that failed after `send` was called. -/
def handlePossibleTransportFailure (c : Connection) (error : ClientError)
    (failedTransport : TransportId) : Connection :=
  if c.closeRequested ∨ c.state ≠ .authenticated then c
  else if isConnectionFailure error then c.handleConnectionLoss error failedTransport
  else c

end FitzTs.Client.Connection
