import FitzTs.Client.Connection.Loss
/-!
# FitzTs.Client.Connection.Receiving

`startReceiveLoop` of `client/connection.ts`, its timer for incomplete frames,
and the heartbeat of `client/internal/heartbeat.ts`.

The frames of one chunk are handled in one step: there is no `await` between
them, and the handlers are taken to return without calling the connection.
-/

namespace FitzTs.Client

/-- `FLAG_EXTENSIONS_PRESENT`. -/
def flagExtensionsPresent : Nat := 4

/-- What `FrameCodec.decodeHello` returns. -/
structure Hello where
  version : Nat
  brokerCapabilities : Nat
  maxMessageBytes : Nat
  maxInFlight : Nat
  deriving DecidableEq, Repr

/-- A parsed frame. A payload that does not decode is the error the decoder throws. -/
inductive InboundFrame
  /-- `decodeExtensions` throws. -/
  | badExtensions (error : ClientError)
  | hello (correlation : CorrelationId) (flags : Nat) (body : Except ClientError Hello)
  | connectRejected (correlation : CorrelationId) (body : Except ClientError (Nat × String))
  | goAway (correlation : CorrelationId) (body : Except ClientError Unit)
  | message (messageType : MessageType) (payload : Payload) (correlation : CorrelationId)
      (responseFinal : Bool)

namespace Connection

/-- A `ProtocolError`. -/
def protocolError (message : String) : ClientError := ⟨.protocol none, message⟩

/-- The check that throws on a HELLO, if one does. -/
def helloError (c : Connection) (correlation : CorrelationId) (flags : Nat)
    (body : Except ClientError Hello) : Except ClientError Hello :=
  if c.multiplexer.brokerProtocolVersion ≠ 0 then
    .error (protocolError "Repeated HELLO cannot renegotiate an established session")
  else if correlation ≠ 0 ∨ flags ≠ flagExtensionsPresent then
    .error (protocolError "HELLO must have correlation 0")
  else
    match body with
    | .error error => .error error
    | .ok hello =>
      if hello.version ≠ 3 ∨ hello.brokerCapabilities ≠ 0 ∨ hello.maxMessageBytes < 15 then
        .error (protocolError s!"Broker negotiated unsupported wire version {hello.version}")
      else if hello.maxInFlight = 0 then
        .error (protocolError "HELLO max_in_flight must be non-zero")
      else .ok hello

/-- A HELLO that passed its checks. -/
def acceptHello (c : Connection) (hello : Hello) : Connection :=
  let maxMessageBytes := min defaultMaxMessageBytes hello.maxMessageBytes
  let c := { c with
    maxMessageBytes := maxMessageBytes
    negotiatedMaxMessageBytes := maxMessageBytes
    negotiatedMaxInFlight := hello.maxInFlight }
  let c := c.replaceRequestGate (min c.options.maxInFlightRequests hello.maxInFlight)
  let c := { c with
    multiplexer := c.multiplexer.setCapabilities hello.version hello.brokerCapabilities }
  c.settleAuth .resolved

/-- The failure a CONNECT_REJECTED stands for. -/
def connectRejectedError (code : Nat) (message : String) : ClientError :=
  if code = 1 then
    ⟨.authentication, if message = "" then "Authentication rejected" else message⟩
  else
    ⟨.protocol (some code),
      if code = 50 then s!"Wire version mismatch (50): {message}"
      else if message = "" then "CONNECT rejected" else message⟩

/-- A CONNECT_REJECTED. -/
def connectRejected (c : Connection) (code : Nat) (message : String) : Connection :=
  { c with authRejected := code = 1 || c.authRejected }.settleAuth
    (.rejected (connectRejectedError code message))

/-- The outcome of handling frames: the connection, and the error that ended it. -/
abbrev FrameOutcome := Connection × Option ClientError

/-- One turn of the loop over the frames; `none` when it does not return. -/
def handleFrame (c : Connection) : InboundFrame → Option FrameOutcome
  | .badExtensions error => some (c, some error)
  | .hello correlation flags body =>
    match c.helloError correlation flags body with
    | .ok hello => some (c.acceptHello hello, none)
    | .error error => some (c, some error)
  | .connectRejected correlation body =>
    if correlation ≠ 0 then
      some (c, some (protocolError "CONNECT_REJECTED must have correlation 0"))
    else
      match body with
      | .ok (code, message) => some (c.connectRejected code message, none)
      | .error error => some (c, some error)
  | .goAway correlation body =>
    if correlation ≠ 0 then some (c, some (protocolError "GOAWAY must have correlation 0"))
    else
      match body with
      | .ok _ => some (c, none)
      | .error error => some (c, some error)
  | .message messageType payload correlation responseFinal =>
    let correlation? := if correlation = 0 then none else some correlation
    match c.multiplexer.dispatch messageType payload correlation? responseFinal with
    | .ok m => some ({ c with multiplexer := m }, none)
    | .error (.unexpectedCorrelation id) =>
      some (c, some (Multiplexer.unexpectedCorrelationError id))
    | .error .spin => none

/-- The loop over the frames of one chunk. -/
def handleFrames (c : Connection) : List InboundFrame → Option FrameOutcome
  | [] => some (c, none)
  | frame :: frames =>
    match c.handleFrame frame with
    | some (c, none) => c.handleFrames frames
    | outcome => outcome

/-- `updatePartialFrameTimeout`. -/
def updatePartialFrameTimeout (c : Connection) (t : TransportId) (pending : Bool) : Connection :=
  { c with
    framePending := pending
    partialFrameTimeout := if pending then some t else none }

/-- The receive loop of `t` has returned. -/
def endReceiveLoop (c : Connection) (t : TransportId) : Connection :=
  c.modifyAttempt t fun a => { a with receiveLoop := .ended }

/-- The `catch` of the receive loop. -/
def receiveFailed (c : Connection) (t : TransportId) (error : ClientError) : Connection :=
  if c.receiveLoopAbort ∨ c.closeRequested then c.endReceiveLoop t
  else (c.handleConnectionLoss error t).endReceiveLoop t

/-- The condition of the receive loop, evaluated again. -/
def continueReceiveLoop (c : Connection) (t : TransportId) : Connection :=
  if ¬ c.receiveLoopAbort ∧ ¬ c.closeRequested ∧ c.transport = some t then c
  else c.endReceiveLoop t

/-- What precedes the loop over the frames of a chunk. -/
def beginChunk (c : Connection) (t : TransportId) (frames : List InboundFrame) (pending : Bool) :
    Connection :=
  let c := c.updatePartialFrameTimeout t pending
  if frames = [] then c else c.confirmSession

/-- `receive()` of the current transport has returned a chunk that parses into
`frames`, with an incomplete frame behind them if `pending`. -/
def chunkReceived (c : Connection) (t : TransportId) (frames : List InboundFrame) (pending : Bool) :
    Option Connection :=
  match (c.beginChunk t frames pending).handleFrames frames with
  | some (c, none) => some (c.continueReceiveLoop t)
  | some (c, some error) => some (c.receiveFailed t error)
  | none => none

/-- The continuation of `receive()`: what the parser makes of the data, or the
error it throws. -/
def received (c : Connection) (t : TransportId)
    (parsed : Except ClientError (List InboundFrame × Bool)) : Option Connection :=
  if c.transport ≠ some t then some (c.endReceiveLoop t)
  else
    match parsed with
    | .ok (frames, pending) => c.chunkReceived t frames pending
    | .error error => some (c.receiveFailed t error)

/-- `parseFrames` returns at most one frame; it throws if there is more data behind it. -/
def atMostOneFrame : Except ClientError (Except ClientError (List InboundFrame × Bool)) → Bool
  | .ok (.ok (frames, _)) => frames.length ≤ 1
  | _ => true

/-! ### The timer of an incomplete frame -/

/-- The timer armed for `t` fires. -/
def partialFrameTimer (c : Connection) (t : TransportId) : Connection :=
  let c := c.clearPartialFrameTimeout
  if ¬ c.framePending ∨ c.closeRequested ∨ c.receiveLoopAbort ∨ c.transport ≠ some t then c
  else (c.callClose t).modifyAttempt t fun a => { a with failingPartialFrame := true }

/-- The error of the timer; the times it names are not computed. -/
def partialFrameError : ClientError := protocolError "Timed out waiting for complete frame"

/-- `failPartialFrame`, after `await failedTransport.close()`. -/
def failPartialFrame (c : Connection) (t : TransportId) : Connection :=
  (c.modifyAttempt t fun a => { a with failingPartialFrame := false }).handleConnectionLoss
    partialFrameError t

/-! ### The heartbeat -/

/-- `tick`, for the transport the heartbeat was started for. It does nothing if
the loop is stopped or a heartbeat is on its way. -/
def heartbeatTick (c : Connection) (t : TransportId) : Connection :=
  if c.closeRequested ∨ c.receiveLoopAbort ∨ c.heartbeatPending then c
  else
    { c with
      heartbeatPending := true
      heartbeats := Function.update c.heartbeats t .pending
      writeChain := c.writeChain ++ [⟨t, .heartbeat⟩] }

/-- The handlers of `sendHeartbeat`'s promise; `active` is
`lastActivityAt > heartbeatSentAt`. -/
def heartbeatSettled (c : Connection) (t : TransportId) (active : Bool) : Connection :=
  let outcome := c.heartbeats t
  let c := { c with heartbeats := Function.update c.heartbeats t .pending }
  if c.heartbeatTransport ≠ some t then c
  else
    let c := { c with heartbeatPending := false }
    match outcome with
    | .rejected error =>
      if active then c
      else
        (c.callClose t).handleConnectionLoss
          ⟨.transport, s!"Heartbeat failed: {error.message}"⟩ t
    | _ => c

end Connection

end FitzTs.Client
