import FitzTs.Client.Multiplexer.Surface
import FitzTs.Domains.Rpc.Iterator
/-!
# FitzTs.Domains.Rpc.Caller

The calling side of `createRpcClient` of `domains/rpc/client.ts`: the calls, the table of those that
are pending, and the handler of the response frames behind the multiplexer of the connection.

A call is a number, in the order of the calls of `call`. What happens on the connection besides
frames are events of the multiplexer. How a cancellation is negotiated with the broker is left out
but for its end (`cleanedUp`), which can come at any time after the cancellation.
-/

namespace FitzTs.Rpc

open JsString Buffer Client

def MSG_RPC_RESPONSE : MessageType := 303

def ErrCodeRpcInvalidSequence : Nat := 6053
def ErrCodeRpcDuplicateCorrelation : Nat := 6054

def rpcErrorCodeName (domainCode : Nat) : String :=
  if domainCode = ErrCodeRpcTimeout then "TIMEOUT"
  else if domainCode = ErrCodeRpcWorkerNotFound then "WORKER_NOT_FOUND"
  else if domainCode = ErrCodeRpcBackpressure then "BACKPRESSURE"
  else if domainCode = ErrCodeRpcRouteNotRegistered then "ROUTE_NOT_REGISTERED"
  else if domainCode = ErrCodeRpcCorrelationNotFound then "CORRELATION_NOT_FOUND"
  else if domainCode = ErrCodeRpcDuplicateCorrelation then "DUPLICATE_CORRELATION"
  else if domainCode = ErrCodeRpcInvalidSequence then "INVALID_SEQUENCE"
  else if domainCode = ErrCodeRpcWrongWorker then "WRONG_WORKER"
  else if domainCode = ErrCodeRpcUnauthorized then "UNAUTHORIZED"
  else if domainCode = ErrCodeRpcBackendError then "BACKEND_ERROR"
  else "DOMAIN_ERROR"

/-- The error of a call that a terminal error body ends. -/
def responseError (e : RpcErrorBody) : RpcError where
  -- `terminalError.message || "RPC error"`
  message := if e.message = [] then js "RPC error" else e.message
  code := rpcErrorCodeName e.code
  domainCode := e.code
  errorClass := some e.errorClass
  effect := some e.effect

/-- A call: its key in `pendingRpcs`, its iterator and `requestSent`. -/
structure Call where
  correlationKey : Nat := 0
  iterator : RpcIterator := {}
  requestSent : Option Bool := none

/-- The error of the calls that are pending when the connection is lost. -/
def connectionClosed : CallError :=
  .client ⟨.connection none, "Connection closed while RPC response was pending"⟩

/-- The variables of `createRpcClient`, over the connection's multiplexer. -/
structure RpcCaller where
  multiplexer : Multiplexer := {}
  initialized : Bool := false
  /-- The call under each correlation key. -/
  pendingRpcs : OrderedMap Nat Nat := ∅
  calls : Nat → Call := fun _ => {}
  issued : Nat := 0

inductive RpcCallerEvent
  /-- `call` draws a correlation id; `signal` is `signal.aborted`, if it has a signal. -/
  | call (correlationId : Bytes) (signal : Option Bool)
  /-- The request of a call has been sent, or that failed. -/
  | sent (call : Nat)
  | sendFailed (call : Nat) (error : ClientError)
  /-- A frame arrives. -/
  | receive (messageType : MessageType) (payload : Payload) (correlationId : Option CorrelationId)
      (responseFinal : Bool)
  /-- Anything else that happens to the multiplexer. -/
  | connection (e : Multiplexer.Event)
  | next (call : Nat)
  | returns (call : Nat)
  | aborts (call : Nat)
  | timerFires (call : Nat)
  /-- A rejection that `fail` has put off. -/
  | rejects (call : Nat)
  /-- The cancellation of a call has an outcome. -/
  | cleanedUp (call : Nat)
  /-- The disconnect listener runs. -/
  | disconnected

namespace RpcCaller

def setCall (c : RpcCaller) (i : Nat) (call : Call) : RpcCaller :=
  { c with calls := Function.update c.calls i call }

def setIterator (c : RpcCaller) (i : Nat) (it : RpcIterator) : RpcCaller :=
  c.setCall i { c.calls i with iterator := it }

def modifyIterator (c : RpcCaller) (i : Nat) (f : RpcIterator → RpcIterator) : RpcCaller :=
  c.setIterator i (f (c.calls i).iterator)

def cleanupPendingRpc (c : RpcCaller) (i : Nat) : RpcCaller :=
  { c with pendingRpcs := c.pendingRpcs.delete (c.calls i).correlationKey }

/-- `iterator.fail(reason)`, with the `finish` of the call. -/
def fail (c : RpcCaller) (i : Nat) (reason : CallError) : RpcCaller :=
  if (c.calls i).iterator.done then c
  else (c.modifyIterator i fun it => it.fail reason).cleanupPendingRpc i

def handleRpcResponse (c : RpcCaller) (key : ResponseKey) : RpcCaller :=
  match c.pendingRpcs.get? key.correlationKey with
  | none => c
  | some i =>
    match if key.streamEnd then tryDecodeTerminalErrorBody key.body else none with
    | some terminalError => c.fail i (.rpc (responseError terminalError))
    | none =>
      let frame : ResponseFrame := ⟨key.body, key.sequence⟩
      if key.streamEnd then
        let c := if key.body.length > 0 then c.modifyIterator i fun it => it.push frame else c
        (c.cleanupPendingRpc i).modifyIterator i fun it => it.end'
      else c.modifyIterator i fun it => it.push frame

/-- The notification handler; a frame that cannot be decoded is dropped. -/
def notified (c : RpcCaller) (handlerCall : MessageType × Payload) : RpcCaller :=
  if handlerCall.1 = MSG_RPC_RESPONSE then
    match decodeResponseKey handlerCall.2 with
    | some key => c.handleRpcResponse key
    | none => c
  else c

/-- A frame goes through the multiplexer, which calls the handlers. -/
def receive (c : RpcCaller) (messageType : MessageType) (payload : Payload)
    (correlationId : Option CorrelationId) (responseFinal : Bool) : RpcCaller :=
  match c.multiplexer.dispatch messageType payload correlationId responseFinal with
  | .error _ => c
  | .ok m =>
    let calls := m.handlerCalls.take (m.handlerCalls.length - c.multiplexer.handlerCalls.length)
    calls.reverse.foldl notified { c with multiplexer := m }

/-- `initRpcHandler`, as far as responses go. -/
def initRpcHandler (c : RpcCaller) : RpcCaller :=
  if c.initialized then c
  else
    { c with
      initialized := true
      multiplexer :=
        (c.multiplexer.registerPushFrameClassifier MSG_RPC_RESPONSE isStreamResponsePayload)
          |>.registerNotificationHandler MSG_RPC_RESPONSE }

/-- A call enters the table. -/
def enter (c : RpcCaller) (call : Call) : RpcCaller :=
  { c with
    pendingRpcs := c.pendingRpcs.set call.correlationKey c.issued
    calls := Function.update c.calls c.issued call
    issued := c.issued + 1 }

/-- `call`; one whose signal has aborted already does not send its request. -/
def call (c : RpcCaller) (correlationId : Bytes) (signal : Option Bool) : RpcCaller :=
  c.initRpcHandler.enter
    { correlationKey := correlationIdToKey correlationId
      iterator := .create signal
      requestSent := if signal = some true then some false else none }

def requestSettled (c : RpcCaller) (i : Nat) (sent : Bool) : RpcCaller :=
  c.setCall i { c.calls i with requestSent := some sent }

/-- The disconnect listener. -/
def disconnect (c : RpcCaller) : RpcCaller :=
  { c.pendingRpcs.values.foldl (fun c i => c.fail i connectionClosed) c with pendingRpcs := ∅ }

def step (c : RpcCaller) : RpcCallerEvent → Option RpcCaller
  | .call correlationId signal => some (c.call correlationId signal)
  | .sent i =>
    if i < c.issued ∧ (c.calls i).requestSent = none then some (c.requestSettled i true) else none
  | .sendFailed i error =>
    if i < c.issued ∧ (c.calls i).requestSent = none then
      some ((c.requestSettled i false).fail i (.client error))
    else none
  | .receive messageType payload correlationId responseFinal =>
    some (c.receive messageType payload correlationId responseFinal)
  | .connection e =>
    if e.isDispatch then none
    else (c.multiplexer.step e).map fun multiplexer => { c with multiplexer }
  | .next i => if i < c.issued then some (c.modifyIterator i .next) else none
  | .returns i => if i < c.issued then some (c.modifyIterator i .return') else none
  | .aborts i =>
    if i < c.issued ∧ (c.calls i).iterator.signal = some false then
      some (c.modifyIterator i .abort)
    else none
  | .timerFires i => if i < c.issued then some (c.modifyIterator i .timerFires) else none
  | .rejects i =>
    if i < c.issued then (c.calls i).iterator.rejects.map (c.setIterator i) else none
  | .cleanedUp i =>
    if i < c.issued ∧ (c.calls i).iterator.cancellationRequested then
      some (c.cleanupPendingRpc i)
    else none
  | .disconnected => some c.disconnect

/-- `createRpcClient` over a connection, driven by its events. -/
def machine : Machine RpcCaller RpcCallerEvent := ⟨{}, step⟩

/-! ## The iterator of a call -/

@[simp] theorem setCall_calls_self {c : RpcCaller} {i : Nat} {call : Call} :
    (c.setCall i call).calls i = call :=
  Function.update_self ..

theorem setCall_calls_of_ne {c : RpcCaller} {i j : Nat} {call : Call} (h : j ≠ i) :
    (c.setCall i call).calls j = c.calls j :=
  Function.update_of_ne h ..

/-- What is done to one call: another iterator, and its entry at most taken out of the table. -/
structure Moves (c : RpcCaller) (i : Nat) (it : RpcIterator) (c' : RpcCaller) : Prop where
  multiplexer : c'.multiplexer = c.multiplexer
  initialized : c'.initialized = c.initialized
  issued : c'.issued = c.issued
  correlationKey : ∀ j, (c'.calls j).correlationKey = (c.calls j).correlationKey
  iterator : (c'.calls i).iterator = it
  others : ∀ j, j ≠ i → c'.calls j = c.calls j
  entries : ∀ k, c'.pendingRpcs.get? k = c.pendingRpcs.get? k ∨
    k = (c.calls i).correlationKey ∧ c'.pendingRpcs.get? k = none

variable {c c' c'' : RpcCaller} {i : Nat} {it it' : RpcIterator}

theorem Moves.refl : Moves c i (c.calls i).iterator c :=
  ⟨rfl, rfl, rfl, fun _ => rfl, rfl, fun _ _ => rfl, fun _ => Or.inl rfl⟩

theorem Moves.trans (h : Moves c i it c') (h' : Moves c' i it' c'') : Moves c i it' c'' where
  multiplexer := h'.multiplexer.trans h.multiplexer
  initialized := h'.initialized.trans h.initialized
  issued := h'.issued.trans h.issued
  correlationKey := fun j => (h'.correlationKey j).trans (h.correlationKey j)
  iterator := h'.iterator
  others := fun j hne => (h'.others j hne).trans (h.others j hne)
  entries := fun k => by
    rcases h'.entries k with hsame | ⟨hkey, hnone⟩
    · rw [hsame]
      exact h.entries k
    · exact Or.inr ⟨hkey.trans (h.correlationKey i), hnone⟩

theorem setCall_moves {call : Call} (h : call.correlationKey = (c.calls i).correlationKey) :
    Moves c i call.iterator (c.setCall i call) where
  multiplexer := rfl
  initialized := rfl
  issued := rfl
  correlationKey := fun j => by
    by_cases hj : j = i
    · rw [hj, setCall_calls_self, h]
    · rw [setCall_calls_of_ne hj]
  iterator := by rw [setCall_calls_self]
  others := fun j hne => setCall_calls_of_ne hne
  entries := fun _ => Or.inl rfl

theorem modifyIterator_moves {f : RpcIterator → RpcIterator} :
    Moves c i (f (c.calls i).iterator) (c.modifyIterator i f) :=
  @setCall_moves c i { c.calls i with iterator := f (c.calls i).iterator } rfl

theorem cleanupPendingRpc_moves : Moves c i (c.calls i).iterator (c.cleanupPendingRpc i) where
  multiplexer := rfl
  initialized := rfl
  issued := rfl
  correlationKey := fun _ => rfl
  iterator := rfl
  others := fun _ _ => rfl
  entries := fun k => by
    rw [cleanupPendingRpc, OrderedMap.get?_delete]
    split
    case isTrue hkey => exact Or.inr ⟨hkey, rfl⟩
    case isFalse => exact Or.inl rfl

theorem fail_moves {reason : CallError} :
    Moves c i ((c.calls i).iterator.fail reason) (c.fail i reason) := by
  unfold fail
  split
  case isTrue hdone =>
    rw [show (c.calls i).iterator.fail reason = (c.calls i).iterator from if_pos hdone]
    exact .refl
  case isFalse =>
    have hcleaned := cleanupPendingRpc_moves (c := c.modifyIterator i fun it => it.fail reason)
      (i := i)
    rw [modifyIterator_moves.iterator] at hcleaned
    exact modifyIterator_moves.trans hcleaned

end RpcCaller

end FitzTs.Rpc
