import FitzTs.Client.Connection
import FitzTs.Client.Resilience
import FitzTs.Lib.Machine
/-!
# FitzTs.Domains.Handles

The handles of one session, and the connection they share.

`createKvTransaction` (`domains/kv/transaction.ts`), `createQueueItem`
(`domains/queue/types.ts`), `createLease` (`domains/lease/types.ts`) and
`createStreamSession` (`domains/stream/session.ts`) make an object around an id the
broker has granted: a txId, a reservation token, a fencing token, a session id. The
object registers a listener with `onDisconnect` when it is built, which is some awaits
after the answer that grants the id has arrived; from then on a disconnect closes it.
An operation looks at `closed` once, before its first `await`, and hands its request
to the connection. `get` and `scan` go through `executeWithRetry`, which runs the
request again without another look.

Payloads are represented by the length of their frame. A request of a handle carries
the handle's id, so the session that granted the id is kept with the handle. The other
requests of the client are calls of the connection that belong to no handle.
-/

namespace FitzTs.Handles

open FitzTs.Client

/-- The identity of a handle. -/
abbrev HandleId := Nat

/-! ### The operations -/

/-- When an operation sets `closed`. -/
inductive Closing
  | never
  /-- Before its request. -/
  | first
  /-- When its request has been answered with OK. -/
  | answered
  /-- When it has failed. -/
  | failed
  deriving DecidableEq, Repr

/-- What the operations of the handles differ in. -/
structure Operation where
  messageType : MessageType
  /-- Its request is a `replayable_read` of `runWithRetry`. -/
  retried : Bool := false
  closing : Closing := .never
  deriving DecidableEq, Repr

namespace KvTransaction

def put : Operation := { messageType := 104 }
def insert : Operation := { messageType := 105 }
def get : Operation := { messageType := 103, retried := true }
def delete : Operation := { messageType := 106 }
def deleteRange : Operation := { messageType := 107 }
def scan : Operation := { messageType := 108, retried := true }
def commit : Operation := { messageType := 101, closing := .first }
def rollback : Operation := { messageType := 102, closing := .first }

end KvTransaction

namespace QueueItem

def extend : Operation := { messageType := 203 }
def complete : Operation := { messageType := 204, closing := .answered }
def nack : Operation := { messageType := 210, closing := .answered }

end QueueItem

namespace Lease

def extend : Operation := { messageType := 401, closing := .failed }
def release : Operation := { messageType := 402, closing := .first }

end Lease

namespace StreamSession

def append : Operation := { messageType := 601 }
def commit : Operation := { messageType := 602, closing := .answered }
def rollback : Operation := { messageType := 603, closing := .first }

end StreamSession

/-- The four handles. -/
inductive HandleKind
  | kvTransaction
  | queueItem
  | lease
  | streamSession
  deriving DecidableEq, Repr

namespace HandleKind

def operations : HandleKind → List Operation
  | .kvTransaction =>
    [KvTransaction.put, KvTransaction.insert, KvTransaction.get, KvTransaction.delete,
      KvTransaction.deleteRange, KvTransaction.scan, KvTransaction.commit, KvTransaction.rollback]
  | .queueItem => [QueueItem.extend, QueueItem.complete, QueueItem.nack]
  | .lease => [Lease.extend, Lease.release]
  | .streamSession => [StreamSession.append, StreamSession.commit, StreamSession.rollback]

/-- What `[Symbol.asyncDispose]` calls. -/
def disposal : HandleKind → Option Operation
  | .kvTransaction => some KvTransaction.rollback
  | .streamSession => some StreamSession.rollback
  | .queueItem | .lease => none

/-- `createLease` runs its operations one after the other (`serialize`). -/
def serializes : HandleKind → Bool
  | .lease => true
  | _ => false

end HandleKind

/-! ### The handles and their requests -/

/-- A handle, from the arrival of the answer that grants its id. -/
structure Handle where
  kind : HandleKind
  /-- The transport of the session in which the id was granted. -/
  session : TransportId
  /-- The number of disconnects there had been by then. -/
  grantedAt : Nat
  /-- The object exists, and its listener is registered. -/
  built : Bool := false
  closed : Bool := false
  /-- A serialized operation is under way. -/
  busy : Bool := false
  deriving DecidableEq, Repr

/-- The listener of `onDisconnect`. -/
def Handle.disconnected (h : Handle) : Handle := if h.built then { h with closed := true } else h

/-- What an operation does before its request. -/
def Handle.started (operation : Operation) (h : Handle) : Handle :=
  { h with
    closed := h.closed || operation.closing = .first
    busy := h.kind.serializes }

/-- What an operation does once its request has ended with `failure`. -/
def Handle.settled (operation : Operation) (failure : Option ClientError) (ok : Bool)
    (h : Handle) : Handle :=
  let succeeds := failure.isNone && ok
  { h with
    closed := h.closed ||
      match operation.closing with
      | .answered => succeeds
      | .failed => !succeeds
      | .never | .first => false
    busy := false }

/-- One request of an operation. -/
structure Request where
  call : CallId
  handle : HandleId
  operation : Operation
  /-- `attempt` of `executeWithRetry`. -/
  attempt : Nat := 1
  /-- It is the rollback of an async disposal. -/
  disposal : Bool := false
  deriving DecidableEq, Repr

/-- `isTransientRetryError`, of an error the connection rejects a request with. -/
def isTransientRetryError (error : ClientError) : Bool :=
  match error.cls with
  | .timeout | .transport | .connection _ | .requestQueueFull => true
  | _ => false

/-- `executeWithRetry` runs the request again after one that ended with `failure`. Without
a failure there is an answer; `retryableAnswer` says that it is an error `isRetryable`. -/
def Request.retriesAfter (options : RetryOptions) (r : Request) (failure : Option ClientError)
    (retryableAnswer : Bool) : Bool :=
  options.enabled && r.operation.retried && options.allows r.attempt &&
    match failure with
    | none => retryableAnswer
    | some error => !isAbortError error && isTransientRetryError error

/-- A client: its connection, and the handles it has been granted. -/
structure Client where
  connection : Connection
  handles : HandleId → Option Handle := fun _ => none
  requests : List Request := []
  /-- The calls after which their operation has gone on. -/
  continued : List CallId := []
  /-- The handles whose async disposal has completed, latest first. -/
  disposed : List HandleId := []

/-- What can happen to a client. -/
inductive Event
  /-- A step of the connection; a call in it belongs to no handle. -/
  | connection (e : Connection.Event)
  /-- The answer arrives that grants the id of `h`. -/
  | grants (h : HandleId) (kind : HandleKind)
  /-- The awaits of `begin`, `reserve` or `acquire` are over: the object is built. -/
  | builds (h : HandleId)
  /-- An operation of an open handle; its request is call `i`. -/
  | operates (h : HandleId) (i : CallId) (operation : Operation) (frameLength : Nat)
      (signal : Option Bool)
  /-- `[Symbol.asyncDispose]()`; the request of its rollback, if it sends one, is call `i`. -/
  | disposes (h : HandleId) (i : CallId) (frameLength : Nat)
  /-- `executeWithRetry` runs the request of call `i` again, as call `j`. -/
  | retries (i j : CallId) (retryableAnswer : Bool)
  /-- The operation goes on after call `i`; `ok` says that the answer, if there is one, is OK. -/
  | continues (i : CallId) (ok : Bool)

namespace Client

/-- Change one handle. -/
def modifyHandle (s : Client) (h : HandleId) (f : Handle → Handle) : Client :=
  { s with handles := Function.update s.handles h ((s.handles h).map f) }

/-- An id has been granted. -/
def grant (s : Client) (h : HandleId) (handle : Handle) : Client :=
  { s with handles := Function.update s.handles h (some handle) }

/-- A step of the connection has led to `c`; in a disconnect it has called the listeners. -/
def follow (s : Client) (c : Connection) : Client :=
  { s with
    connection := c
    handles := fun h =>
      if c.disconnects = s.connection.disconnects then s.handles h
      else (s.handles h).map Handle.disconnected }

/-- `connection.request` on behalf of a handle. -/
def request (s : Client) (r : Request) (frameLength : Nat) (signal : Option Bool) : Client :=
  { s with
    connection := s.connection.call r.call (.request false) r.operation.messageType frameLength
      signal
    requests := r :: s.requests }

/-- An operation, up to its request. -/
def start (s : Client) (r : Request) (frameLength : Nat) (signal : Option Bool) : Client :=
  (s.modifyHandle r.handle (Handle.started r.operation)).request r frameLength signal

/-- The request of call `i`, where the call has ended, and with what. -/
def ended (s : Client) (i : CallId) : Option (Request × Option ClientError) :=
  if i ∈ s.continued then none
  else
    match (s.connection.calls i).phase with
    | .finished failure => (s.requests.find? (·.call = i)).map (·, failure)
    | _ => none

/-- The handle `h`, where its object has been built. -/
def object (s : Client) (h : HandleId) : Option Handle := (s.handles h).filter (·.built)

/-- One step; `none` is an event that cannot happen. -/
def step (retry : RetryOptions) (s : Client) : Event → Option Client
  | .connection e => (s.connection.step e).map s.follow
  | .grants h kind =>
    match s.handles h, s.connection.transport with
    | none, some t =>
      if s.connection.state = .authenticated then
        some (s.grant h { kind, session := t, grantedAt := s.connection.disconnects })
      else none
    | _, _ => none
  | .builds h =>
    match s.handles h with
    | some handle =>
      if handle.built then none else some (s.modifyHandle h fun h => { h with built := true })
    | none => none
  | .operates h i operation frameLength signal =>
    match s.object h with
    | some handle =>
      -- A closed handle throws, or returns at once.
      if operation ∈ handle.kind.operations ∧ handle.closed = false ∧ handle.busy = false ∧
          (s.connection.calls i).phase = .notCalled then
        some (s.start { call := i, handle := h, operation } frameLength signal)
      else none
    | none => none
  | .disposes h i frameLength =>
    match s.object h with
    | some handle =>
      match handle.kind.disposal with
      | some rollback =>
        if handle.closed then some { s with disposed := h :: s.disposed }
        else if (s.connection.calls i).phase = .notCalled then
          some (s.start { call := i, handle := h, operation := rollback, disposal := true }
            frameLength none)
        else none
      | none => none
    | none => none
  | .retries i j retryableAnswer =>
    match s.ended i with
    | some (r, failure) =>
      if r.retriesAfter retry failure retryableAnswer ∧
        (s.connection.calls j).phase = .notCalled then
        some ({ s with continued := i :: s.continued }.request
          { r with call := j, attempt := r.attempt + 1 } (s.connection.calls i).frameLength
          (s.connection.calls i).signal)
      else none
    | none => none
  | .continues i ok =>
    match s.ended i with
    | some (r, failure) =>
      let s := { s with
        continued := i :: s.continued
        disposed := if r.disposal then r.handle :: s.disposed else s.disposed }
      some (s.modifyHandle r.handle (Handle.settled r.operation failure ok))
    | none => none

end Client

/-- A client with the given options, driven by its events. -/
def machine (options : ConnectionOptions) (retry : RetryOptions) : Machine Client Event :=
  ⟨{ connection := .create options }, Client.step retry⟩

end FitzTs.Handles
