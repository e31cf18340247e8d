import Mathlib.Data.List.Range
import Mathlib.Algebra.Group.Nat.Defs
import FitzTs.Lib.Machine
import FitzTs.Lib.OrderedMap
import FitzTs.Core.Types
import FitzTs.Client.Multiplexer.PendingQueue
/-!
# FitzTs.Client.Multiplexer

`createMultiplexer` of `client/multiplexer.ts`: the closure variables as one
record, its functions as functions on that record, and the whole as a `Machine`
whose events are the calls and callbacks that reach it.

* A `PendingRequest` object is a number (`RequestId`); its fields live in the
  table `requests`, so an object that is no longer referenced by any collection
  keeps its fields, as it does in the source while a closure holds it.
* A promise is modelled by the calls that settle it: `settlements` logs every
  `deferred.resolve` and `deferred.reject` (and the rejection of the send branch
  of the final `Promise.race`), with no check that there is only one.
* `Date.now()` is an argument of the events that read the clock.

Metrics and tracing are left out: nothing reads them back.
-/

namespace FitzTs.Client

abbrev MessageType := Nat

/-- A wire-header correlation (`bigint`); `0` stands for none on the wire. -/
abbrev CorrelationId := Nat

abbrev Payload := List UInt8

/-- How a request's promise was settled. -/
inductive Settlement
  | fulfilled (payload : Payload)
  | rejected (error : ClientError)
  deriving DecidableEq, Repr

/-- A `PendingRequest`, with the variables of its `issueRequest` closure. -/
structure PendingRequest where
  messageType : MessageType := 0
  correlationId : Option CorrelationId := none
  /-- Milliseconds; `-1` once the request needs no timer any more. -/
  deadline : Int := -1
  discardResponse : Bool := false
  sentAt : Nat := 0
  /-- The caller passed an `AbortSignal`. -/
  hasSignal : Bool := false
  /-- `signal.aborted`. -/
  aborted : Bool := false
  /-- The promise returned by `send` has not settled yet. -/
  sendPending : Bool := false
  /-- `settled` of the closure, which `finalize` sets. -/
  settled : Bool := false
  /-- Everything that has settled the promise returned to the caller. -/
  settlements : List Settlement := []
  deriving DecidableEq, Repr

/-- The state of one multiplexer. -/
structure Multiplexer where
  /-- `pendingByCorrelation`. -/
  pendingByCorrelation : OrderedMap CorrelationId RequestId := ∅
  /-- `pending`: the uncorrelated requests, by message type. -/
  pending : OrderedMap MessageType PendingQueue := ∅
  correlationEnabled : Bool := true
  brokerProtocolVersion : Nat := 0
  brokerCapabilities : Nat := 0
  /-- `nextCorrelationId`; `0` when the identifiers are used up. -/
  nextCorrelationId : CorrelationId := 1
  notificationHandlers : List MessageType := []
  pushClassifiers : OrderedMap MessageType (Payload → Bool) := ∅
  optionalResponses : OrderedMap MessageType Nat := ∅
  state : ConnectionState := .disconnected
  timeouts : TimeoutHeap := {}
  /-- The deadline `timeoutHandle` is armed for; `none` when it is `undefined`. -/
  timeoutHandle : Option Int := none
  /-- `none` is `Infinity`. -/
  nextTimeoutDeadline : Option Int := none
  requestsInFlight : Int := 0
  requestsTotal : Nat := 0
  responsesTotal : Nat := 0
  responsesDropped : Nat := 0
  responsesIgnored : Nat := 0
  /-- The `PendingRequest` objects. -/
  requests : RequestId → PendingRequest := fun _ => {}
  /-- `queueIndex` of each request. -/
  queueIndex : RequestId → Int := fun _ => -1
  /-- The number of requests issued so far, and the next identity. -/
  issued : RequestId := 0
  /-- The calls made to notification handlers, latest first. -/
  handlerCalls : List (MessageType × Payload) := []

namespace Multiplexer

/-- Change the fields of one request. -/
def modifyRequest (m : Multiplexer) (r : RequestId) (f : PendingRequest → PendingRequest) :
    Multiplexer :=
  { m with requests := Function.update m.requests r (f (m.requests r)) }

/-- The deadlines the heap is ordered by. -/
def deadline (m : Multiplexer) (r : RequestId) : Int := (m.requests r).deadline

/-- `deferred.resolve` and `deferred.reject`: one more settlement of the promise. -/
def settle (m : Multiplexer) (r : RequestId) (s : Settlement) : Multiplexer :=
  m.modifyRequest r fun e => { e with settlements := e.settlements ++ [s] }

/-- `recordRequestFinished`. -/
def recordRequestFinished (m : Multiplexer) : Multiplexer :=
  { m with requestsInFlight := m.requestsInFlight - 1 }

/-- `removeTimeoutEntry`. -/
def removeTimeoutEntry (m : Multiplexer) (r : RequestId) : Multiplexer :=
  { m with timeouts := m.timeouts.removeTimeoutEntry m.deadline r }

/-! ### Settling one request -/

/-- `finalize`: `none` when the request was settled already. -/
def finalize (m : Multiplexer) (r : RequestId) : Option Multiplexer :=
  if (m.requests r).settled then none
  else
    let m := m.modifyRequest r fun e => { e with settled := true }
    some ((m.removeTimeoutEntry r).modifyRequest r fun e => { e with deadline := -1 })

/-- `discardResponse = true`: the entry stays behind as a tombstone. -/
def tombstone (m : Multiplexer) (r : RequestId) : Multiplexer :=
  m.modifyRequest r fun e => { e with discardResponse := true }

/-- `failRequest`. -/
def failRequest (m : Multiplexer) (r : RequestId) (error : ClientError) : Multiplexer :=
  match m.finalize r with
  | none => m
  | some m => (m.tombstone r).recordRequestFinished.settle r (.rejected error)

/-- `unregisterRequest`. A correlated entry is deleted by its identifier; an
uncorrelated one only from the slot that holds it. -/
def unregisterRequest (m : Multiplexer) (r : RequestId) : Multiplexer :=
  match (m.requests r).correlationId with
  | some c => { m with pendingByCorrelation := m.pendingByCorrelation.delete c }
  | none =>
    let messageType := (m.requests r).messageType
    match m.pending.get? messageType with
    | none => m
    | some q =>
      if q.size = 0 then m
      else
        match q.unregister m.queueIndex r with
        | none => m
        | some q =>
          let m := { m with
            pending := if q.size = 0 then m.pending.delete messageType
              else m.pending.set messageType q }
          m.recordRequestFinished

/-- `rejectRequest` of an entry, with `retainQueueSlot`. -/
def rejectRequest (m : Multiplexer) (r : RequestId) (error : ClientError)
    (retainQueueSlot : Bool) : Multiplexer :=
  match m.finalize r with
  | none => m
  | some m =>
    let m := m.removeTimeoutEntry r
    let m := if retainQueueSlot then (m.tombstone r).recordRequestFinished
      else m.unregisterRequest r
    m.settle r (.rejected error)

/-- `onComplete` of an entry. -/
def onComplete (m : Multiplexer) (r : RequestId) : Multiplexer := (m.finalize r).getD m

/-! ### Sessions -/

/-- `setConnected`. -/
def setConnected (m : Multiplexer) : Multiplexer :=
  { m with state := .authenticated, nextCorrelationId := 1 }

/-- `setCapabilities`. -/
def setCapabilities (m : Multiplexer) (protocolVersion capabilities : Nat) : Multiplexer :=
  { m with
    brokerProtocolVersion := protocolVersion
    brokerCapabilities := capabilities
    correlationEnabled := 2 ≤ protocolVersion }

/-- The error of an aborted or lost connection. -/
def connectionReset (state : ConnectionState) : ClientError :=
  ⟨.connection (some state), "Connection closed or reset"⟩

/-- The requests `cancelAll` rejects: every entry of both collections. -/
def requestsToCancel (m : Multiplexer) : List RequestId :=
  m.pendingByCorrelation.values ++ m.pending.values.flatMap fun q => q.queue.reduceOption

/-- `cancelAll`. -/
def cancelAll (m : Multiplexer) : Multiplexer :=
  let requestsToCancel := m.requestsToCancel
  let m := { m with timeoutHandle := none, pendingByCorrelation := ∅ }
  let m := requestsToCancel.foldl
    (fun m r => m.rejectRequest r (connectionReset m.state) false) m
  { m with
    timeouts := { m.timeouts with timeoutEntries := [] }
    nextTimeoutDeadline := none
    pending := ∅
    requestsInFlight := 0 }

/-- `setDisconnected`. -/
def setDisconnected (m : Multiplexer) : Multiplexer :=
  cancelAll { m with
    state := .disconnected
    optionalResponses := ∅
    correlationEnabled := true
    brokerProtocolVersion := 0
    brokerCapabilities := 0 }

/-- `0xffffffffffffffffn`. -/
def maxCorrelationId : CorrelationId := 2 ^ 64 - 1

/-- `allocateCorrelationId`. -/
def allocateCorrelationId (m : Multiplexer) : Except ClientError (CorrelationId × Multiplexer) :=
  if m.nextCorrelationId = 0 then
    .error ⟨.connection (some m.state),
      "Correlation IDs exhausted; reconnect before sending another request"⟩
  else
    let correlationId := m.nextCorrelationId
    .ok (correlationId,
      { m with nextCorrelationId :=
          if correlationId = maxCorrelationId then 0 else correlationId + 1 })

/-! ### Timers -/

/-- `deadline >= nextTimeoutDeadline`. -/
def notBefore (deadline : Int) : Option Int → Bool
  | some next => next ≤ deadline
  | none => false

/-- `scheduleTimeout`. -/
def scheduleTimeout (m : Multiplexer) (deadline : Int) : Multiplexer :=
  if m.timeoutHandle.isSome && notBefore deadline m.nextTimeoutDeadline then m
  else { m with nextTimeoutDeadline := some deadline, timeoutHandle := some deadline }

/-- The error of a request whose deadline passed at `nowMs`. -/
def timeoutError (m : Multiplexer) (r : RequestId) (nowMs : Nat) : ClientError :=
  let elapsed : Int := nowMs - (m.requests r).sentAt
  ⟨.timeout, s!"Request timeout after {elapsed}ms"⟩

/-- One turn of the loop of `handleTimeouts`, for the request at the root. -/
def expire (m : Multiplexer) (r : RequestId) (nowMs : Nat) : Multiplexer :=
  let m := (m.removeTimeoutEntry r).modifyRequest r fun e => { e with deadline := -1 }
  m.rejectRequest r (m.timeoutError r nowMs) true

/-- The loop of `handleTimeouts`, on fuel: `none` when it has not ended by then. -/
def handleTimeoutsLoop (nowMs : Nat) : Nat → Multiplexer → Option Multiplexer
  | 0, _ => none
  | fuel + 1, m =>
    match m.timeouts.timeoutEntries.head? with
    | some r =>
      if m.deadline r ≤ nowMs then handleTimeoutsLoop nowMs fuel (m.expire r nowMs) else some m
    | none => some m

/-- `handleTimeouts`: the loop removes an entry in each turn. -/
def handleTimeouts (m : Multiplexer) (nowMs : Nat) : Option Multiplexer :=
  let m := { m with timeoutHandle := none, nextTimeoutDeadline := none }
  (handleTimeoutsLoop nowMs (m.timeouts.timeoutEntries.length + 1) m).map fun m =>
    let next := m.timeouts.getNextTimeoutDeadline m.deadline
    { m with nextTimeoutDeadline := next, timeoutHandle := next }

/-! ### Issuing a request -/

/-- Store a new entry where its response will look for it. -/
def register (m : Multiplexer) (r : RequestId) : Multiplexer :=
  match (m.requests r).correlationId with
  | some c => { m with pendingByCorrelation := m.pendingByCorrelation.set c r }
  | none =>
    let messageType := (m.requests r).messageType
    -- `getOrCreatePendingQueue`
    let q := (m.pending.get? messageType).getD .create
    let (q, queueIndex) := q.enqueuePendingRequest m.queueIndex r
    { m with pending := m.pending.set messageType q, queueIndex := queueIndex }

/-- The body of `issueRequest` after the identifier: build the entry, arm its
timer, store it, count it. `send` is called right after this. -/
def enter (m : Multiplexer) (messageType : MessageType) (correlationId : Option CorrelationId)
    (nowMs timeoutMs : Nat) (hasSignal : Bool) : Multiplexer :=
  let r := m.issued
  let entry : PendingRequest :=
    { messageType, correlationId, deadline := nowMs + timeoutMs, sentAt := nowMs, hasSignal
      sendPending := true }
  let m := { m with
    requests := Function.update m.requests r entry
    queueIndex := Function.update m.queueIndex r (-1)
    issued := r + 1 }
  let m := { m with timeouts := m.timeouts.push m.deadline r }
  let m := (m.scheduleTimeout entry.deadline).register r
  { m with
    requestsInFlight := m.requestsInFlight + 1
    requestsTotal := m.requestsTotal + 1 }

/-- `correlationEnabled ? allocateCorrelationId() : undefined`. -/
def requestCorrelationId (m : Multiplexer) :
    Except ClientError (Option CorrelationId × Multiplexer) :=
  if m.correlationEnabled then
    match m.allocateCorrelationId with
    | .ok (c, m') => .ok (some c, m')
    | .error error => .error error
  else .ok (none, m)

/-- `issueRequest` up to and including the call of `send`. `signal` is
`signal?.aborted`; `sendThrows` is the error `send` throws synchronously. An
error is one that leaves before the request exists. -/
def issueRequest (m : Multiplexer) (messageType : MessageType) (nowMs timeoutMs : Nat)
    (signal : Option Bool) (sendThrows : Option ClientError) :
    Except ClientError Multiplexer :=
  if signal = some true then .error abortError
  else
    match m.requestCorrelationId with
    | .error error => .error error
    | .ok (correlationId, m') =>
      let r := m'.issued
      let m' := m'.enter messageType correlationId nowMs timeoutMs signal.isSome
      match sendThrows with
      | none => .ok m'
      | some error =>
        let m' := m'.modifyRequest r fun e => { e with sendPending := false }
        .ok (m'.failRequest r error)

/-- The fulfilment handler of the send promise. -/
def sendResolved (m : Multiplexer) (r : RequestId) : Multiplexer :=
  let m := m.modifyRequest r fun e => { e with sendPending := false }
  if m.state = .authenticated then m else m.failRequest r (connectionReset m.state)

/-- The rejection handler of the send promise. -/
def sendRejected (m : Multiplexer) (r : RequestId) (error : ClientError) : Multiplexer :=
  let m := m.modifyRequest r fun e => { e with sendPending := false }
  match m.finalize r with
  | none => m
  | some m =>
    let error := if (m.requests r).aborted then abortError else error
    (m.unregisterRequest r).settle r (.rejected error)

/-- The caller's signal fires; `finalize` has removed the listener of a settled
request. -/
def signalAborted (m : Multiplexer) (r : RequestId) : Multiplexer :=
  (m.modifyRequest r fun e => { e with aborted := true }).failRequest r abortError

/-! ### Responses -/

/-- Why `dispatch` does not return normally. -/
inductive DispatchError
  /-- It throws the `ProtocolError` of a response nothing waits for. -/
  | unexpectedCorrelation (correlationId : CorrelationId)
  /-- `dequeuePendingRequest` does not return. -/
  | spin
  deriving DecidableEq, Repr

/-- The error thrown on a response nothing waits for. -/
def unexpectedCorrelationError (correlationId : CorrelationId) : ClientError :=
  ⟨.protocol none, s!"Unexpected response correlation {correlationId}"⟩

/-- Hand the payload to the request that has just been taken out of its collection. -/
def complete (m : Multiplexer) (r : RequestId) (payload : Payload) : Multiplexer :=
  let m := m.modifyRequest r fun e => { e with deadline := -1 }
  let m := { m.recordRequestFinished with responsesTotal := m.responsesTotal + 1 }
  (m.settle r (.fulfilled payload)).onComplete r

/-- `dispatch` of a response with a correlation. -/
def dispatchCorrelated (m : Multiplexer) (payload : Payload) (correlationId : CorrelationId)
    (responseFinal : Bool) : Except DispatchError Multiplexer :=
  match m.pendingByCorrelation.get? correlationId with
  | none => .error (.unexpectedCorrelation correlationId)
  | some correlated =>
    let without := { m with pendingByCorrelation := m.pendingByCorrelation.delete correlationId }
    if (m.requests correlated).discardResponse then
      let m := if responseFinal then without else m
      .ok { m with responsesIgnored := m.responsesIgnored + 1 }
    else if responseFinal then .ok (without.complete correlated payload)
    else .ok m

/-- The end of `dispatch`, for a frame that no request takes. -/
def dispatchUnclaimed (m : Multiplexer) (messageType : MessageType) (payload : Payload) :
    Multiplexer :=
  if messageType ∈ m.notificationHandlers then
    { m with handlerCalls := (messageType, payload) :: m.handlerCalls }
  else
    let optionalCount := (m.optionalResponses.get? messageType).getD 0
    if optionalCount > 0 then
      { m with
        optionalResponses :=
          if optionalCount = 1 then m.optionalResponses.delete messageType
          else m.optionalResponses.set messageType (optionalCount - 1)
        responsesIgnored := m.responsesIgnored + 1 }
    else if m.state ≠ .authenticated then { m with responsesIgnored := m.responsesIgnored + 1 }
    else { m with responsesDropped := m.responsesDropped + 1 }

/-- `dispatch` of a frame without a correlation. -/
def dispatchUncorrelated (m : Multiplexer) (messageType : MessageType) (payload : Payload) :
    Except DispatchError Multiplexer :=
  let isPush := match m.pushClassifiers.get? messageType with
    | some classifier => classifier payload
    | none => false
  if messageType ∈ m.notificationHandlers ∧ isPush = true then
    .ok { m with handlerCalls := (messageType, payload) :: m.handlerCalls }
  else
    match m.pending.get? messageType with
    | none => .ok (m.dispatchUnclaimed messageType payload)
    | some q =>
      if q.size = 0 then .ok (m.dispatchUnclaimed messageType payload)
      else
        match q.dequeuePendingRequest with
        | none => .error .spin
        | some (request, q) =>
          let m := { m with
            pending := if q.size = 0 then m.pending.delete messageType
              else m.pending.set messageType q }
          if (m.requests request).discardResponse then
            .ok { m with responsesIgnored := m.responsesIgnored + 1 }
          else .ok (m.complete request payload)

/-- `dispatch`. -/
def dispatch (m : Multiplexer) (messageType : MessageType) (payload : Payload)
    (correlationId : Option CorrelationId) (responseFinal : Bool) :
    Except DispatchError Multiplexer :=
  match correlationId with
  | some c => m.dispatchCorrelated payload c responseFinal
  | none => m.dispatchUncorrelated messageType payload

/-! ### The optional responses and the handlers -/

/-- `expectOptionalResponse`. -/
def expectOptionalResponse (m : Multiplexer) (messageType : MessageType) : Multiplexer :=
  { m with optionalResponses :=
      m.optionalResponses.set messageType ((m.optionalResponses.get? messageType).getD 0 + 1) }

/-- The function `expectOptionalResponse` returns. -/
def forgetOptionalResponse (m : Multiplexer) (messageType : MessageType) : Multiplexer :=
  let currentCount := (m.optionalResponses.get? messageType).getD 0
  { m with optionalResponses :=
      if currentCount ≤ 1 then m.optionalResponses.delete messageType
      else m.optionalResponses.set messageType (currentCount - 1) }

/-- `registerNotificationHandler`. -/
def registerNotificationHandler (m : Multiplexer) (messageType : MessageType) : Multiplexer :=
  { m with notificationHandlers := messageType :: m.notificationHandlers }

/-- `unregisterNotificationHandler`. -/
def unregisterNotificationHandler (m : Multiplexer) (messageType : MessageType) : Multiplexer :=
  { m with notificationHandlers := m.notificationHandlers.filter (· ≠ messageType) }

/-- `registerPushFrameClassifier`. -/
def registerPushFrameClassifier (m : Multiplexer) (messageType : MessageType)
    (classifier : Payload → Bool) : Multiplexer :=
  { m with pushClassifiers := m.pushClassifiers.set messageType classifier }

/-! ### The machine -/

/-- What can happen to a multiplexer. A request is issued by `request` (for an
uncorrelated one, when its lane lets it through). -/
inductive Event
  | issue (messageType : MessageType) (nowMs timeoutMs : Nat) (signal : Option Bool)
      (sendThrows : Option ClientError)
  | sendResolved (r : RequestId)
  | sendRejected (r : RequestId) (error : ClientError)
  | dispatch (messageType : MessageType) (payload : Payload)
      (correlationId : Option CorrelationId) (responseFinal : Bool)
  | timer (nowMs : Nat)
  | abort (r : RequestId)
  | setConnected
  | setDisconnected
  | setCapabilities (protocolVersion capabilities : Nat)
  /-- `allocateCorrelationId` on behalf of a frame that awaits no response. -/
  | allocate
  | expectOptionalResponse (messageType : MessageType)
  | forgetOptionalResponse (messageType : MessageType)
  | registerNotificationHandler (messageType : MessageType)
  | unregisterNotificationHandler (messageType : MessageType)
  | registerPushFrameClassifier (messageType : MessageType) (classifier : Payload → Bool)

/-- A call that throws leaves the state as it was; `none` is an event that cannot
happen (a send promise that has settled, a timer that is not armed) or a call
that does not return. -/
def step (m : Multiplexer) : Event → Option Multiplexer
  | .issue messageType nowMs timeoutMs signal sendThrows =>
    match m.issueRequest messageType nowMs timeoutMs signal sendThrows with
    | .ok m' => some m'
    | .error _ => some m
  | .sendResolved r => if (m.requests r).sendPending then some (m.sendResolved r) else none
  | .sendRejected r error =>
    if (m.requests r).sendPending then some (m.sendRejected r error) else none
  | .dispatch messageType payload correlationId responseFinal =>
    match m.dispatch messageType payload correlationId responseFinal with
    | .ok m' => some m'
    | .error (.unexpectedCorrelation _) => some m
    | .error .spin => none
  | .timer nowMs => if m.timeoutHandle.isSome then m.handleTimeouts nowMs else none
  | .abort r =>
    if (m.requests r).hasSignal ∧ ¬ (m.requests r).aborted then some (m.signalAborted r) else none
  | .setConnected => some m.setConnected
  | .setDisconnected => some m.setDisconnected
  | .setCapabilities protocolVersion capabilities =>
    some (m.setCapabilities protocolVersion capabilities)
  | .allocate =>
    match m.allocateCorrelationId with
    | .ok (_, m') => some m'
    | .error _ => some m
  | .expectOptionalResponse messageType => some (m.expectOptionalResponse messageType)
  | .forgetOptionalResponse messageType => some (m.forgetOptionalResponse messageType)
  | .registerNotificationHandler messageType => some (m.registerNotificationHandler messageType)
  | .unregisterNotificationHandler messageType =>
    some (m.unregisterNotificationHandler messageType)
  | .registerPushFrameClassifier messageType classifier =>
    some (m.registerPushFrameClassifier messageType classifier)

/-- `createMultiplexer()`, driven by its events. -/
def machine : Machine Multiplexer Event := ⟨{}, step⟩

/-- `hasPending`. -/
def hasPending (m : Multiplexer) : Bool := m.requestsInFlight > 0

end Multiplexer

end FitzTs.Client
