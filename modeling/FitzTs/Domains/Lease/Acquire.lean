import Mathlib.Logic.Function.Basic
import FitzTs.Lib.Machine
import FitzTs.Domains.Lease.Handle
/-!
# FitzTs.Domains.Lease.Acquire

`acquire` of `domains/lease/client.ts`: the calls queue up behind
`acquisitionTail`, and the one whose turn it is runs `runAcquire`.

The broker's part is an assumption: it answers each request once, under the
request's correlation id, and for each request it answered with "queued" it
sends one completion without an id, in the order in which it queued them.
`granted` and `owed` are its books. Whether the arguments of a call pass
`assertExactLeaseRoute`, `assertLeaseTtl` and `assertWaitSeconds` is a field of
the call.
-/

namespace FitzTs.Lease

/-! ## Responses and errors -/

/-- A decoded ACQUIRE response, in answer to the request or as a completion. -/
inductive AcquireResponse
  /-- Response type 0. -/
  | acquired (token : Nat)
  /-- Response type 1, treated as type 0. -/
  | alreadyHeld (token : Nat)
  /-- Response type 2. -/
  | queued
  /-- Response type 3. -/
  | alreadyQueued
  /-- `decodeAcquireResponse` throws. -/
  | failed (error : JsError)
  deriving DecidableEq, Repr

/-- The token of a response that grants one. -/
def AcquireResponse.token : AcquireResponse → Option Nat
  | .acquired token => some token
  | .alreadyHeld token => some token
  | _ => none

/-- What a call of `acquire` can reject with. -/
inductive AcquireError
  /-- A `LeaseError`. -/
  | lease (message code : String)
  /-- `options.signal.reason`, or the error that stands in for it. -/
  | canceled (reason : JsValue)
  /-- What the arguments, the request or a response failed with. -/
  | passedOn (error : JsError)
  deriving DecidableEq, Repr

def alreadyQueuedError : AcquireError :=
  .lease "ACQUIRE request is already queued" "ALREADY_QUEUED"

def queuedWithoutWaitError : AcquireError :=
  .lease "ACQUIRE queued without a wait request" "INVALID_RESPONSE"

def secondQueuedError : AcquireError :=
  .lease "ACQUIRE returned a second queued response" "INVALID_RESPONSE"

def interruptedError : AcquireError :=
  .lease "Lease acquisition interrupted by disconnect" "DISCONNECTED"

/-- `new Error("Lease acquisition canceled")`. -/
def acquisitionCanceled : JsError := ⟨"Error", "Lease acquisition canceled", 4⟩

/-- `options.signal.reason ?? new Error("Lease acquisition canceled")`. -/
def cancellation : JsValue → AcquireError
  | .undefined => .canceled acquisitionCanceled.value
  | .null => .canceled acquisitionCanceled.value
  | reason => .canceled reason

/-! ## One call -/

/-- A promise. -/
inductive Promise (ε α : Type*)
  | pending
  | resolved (value : α)
  | rejected (error : ε)
  deriving DecidableEq, Repr

/-- `resolve` and `reject`: only the first of them counts. -/
def Promise.settle {ε α : Type*} : Promise ε α → Promise ε α → Promise ε α
  | .pending, outcome => outcome
  | settled, _ => settled

theorem Promise.settle_resolved {ε α : Type*} {p outcome : Promise ε α} {value : α}
    (h : p.settle outcome = .resolved value) :
    p = .resolved value ∨ p = .pending ∧ outcome = .resolved value := by
  cases p with
  | pending => exact Or.inr ⟨rfl, h⟩
  | resolved => exact Or.inl h
  | rejected => cases h

/-- A waiter in `queuedAcquisitions`, with the promise `queuedResponse`. -/
structure QueuedAcquisition where
  settled : Bool
  response : Promise AcquireError AcquireResponse
  deriving DecidableEq, Repr

/-- The frame of a request, as broker and transport see it. -/
inductive Wire
  | unsent
  | sent
  | answered
  /-- The connection went before an answer came. -/
  | lost
  deriving DecidableEq, Repr

inductive AcquirePhase
  /-- No such call was made. -/
  | uncalled
  /-- Behind `acquisitionTail`. -/
  | waitingTurn
  /-- `await requestFrame(MSG_LEASE_ACQUIRE, ..)`. -/
  | requesting
  /-- `await queuedResponse`. -/
  | awaitingQueued
  | returned (lease : LeaseHandle)
  | threw (error : AcquireError)
  deriving DecidableEq, Repr

/-- `runAcquire` has come to its end. -/
def AcquirePhase.isDone : AcquirePhase → Bool
  | .returned _ => true
  | .threw _ => true
  | _ => false

/-- `runAcquire` is under way. -/
def AcquirePhase.isRunning : AcquirePhase → Bool
  | .requesting => true
  | .awaitingQueued => true
  | _ => false

/-- A call of `acquire(route, options)`. -/
structure Acquire where
  route : String
  waitSeconds : Nat
  /-- What the argument checks throw, if anything. -/
  refused : Option JsError
  /-- The reason of `options.signal`, once it is aborted. -/
  aborted : Option JsValue
  phase : AcquirePhase
  /-- Set by the call's own disconnect listener. -/
  disconnected : Bool
  /-- The promise of `requestFrame`. -/
  request : Promise JsError AcquireResponse
  wire : Wire
  queued : Option QueuedAcquisition
  deriving DecidableEq, Repr

namespace Acquire

/-- A call that has not been made. -/
def uncalled : Acquire where
  route := ""
  waitSeconds := 0
  refused := none
  aborted := none
  phase := .uncalled
  disconnected := false
  request := .pending
  wire := .unsent
  queued := none

/-- `queued.settled = true; queued.reject(error)`, unless it is settled. -/
def rejectQueued (a : Acquire) (error : AcquireError) : Acquire :=
  { a with queued := a.queued.map fun q =>
      if q.settled then q else ⟨true, q.response.settle (.rejected error)⟩ }

/-- `queued.resolve(response)`. -/
def resolveQueued (a : Acquire) (response : AcquireResponse) : Acquire :=
  { a with queued := a.queued.map fun q =>
      { q with response := q.response.settle (.resolved response) } }

/-- Is its waiter there, and not settled? -/
def waits (a : Acquire) : Bool :=
  match a.queued with
  | some q => !q.settled
  | none => false

/-- The `finally` of `runAcquire`, with what is returned or thrown. -/
def finish (a : Acquire) (phase : AcquirePhase) : Acquire :=
  { a with phase := phase, queued := a.queued.map fun q => { q with settled := true } }

/-- What is thrown when the request, or its decoding, fails. -/
def requestError (a : Acquire) (error : JsError) : AcquireError :=
  match a.aborted with
  | some reason => cancellation reason
  | none => if a.disconnected then interruptedError else .passedOn error

/-- `createLease(decoded.token, expiresAt, route, connection)`. -/
def grant (a : Acquire) (token : Nat) : AcquirePhase := .returned ⟨a.route, token, false⟩

/-- The continuation of `await requestFrame(..)`. -/
def requestContinues (a : Acquire) : Promise JsError AcquireResponse → Option Acquire
  | .pending => none
  | .rejected error => some (a.finish (.threw (a.requestError error)))
  | .resolved response =>
    match response with
    | .failed error => some (a.finish (.threw (a.requestError error)))
    | .alreadyQueued => some (a.finish (.threw alreadyQueuedError))
    | .queued =>
      match a.queued with
      | none => some (a.finish (.threw queuedWithoutWaitError))
      | some _ => some { a with phase := .awaitingQueued }
    | .acquired token => some (a.finish (a.grant token))
    | .alreadyHeld token => some (a.finish (a.grant token))

/-- The continuation of `await queuedResponse`. -/
def queuedContinues (a : Acquire) : Promise AcquireError AcquireResponse → Option Acquire
  | .pending => none
  | .rejected error => some (a.finish (.threw error))
  | .resolved response =>
    match response with
    | .failed error => some (a.finish (.threw (.passedOn error)))
    | .queued => some (a.finish (.threw secondQueuedError))
    | .alreadyQueued => some (a.finish (.threw secondQueuedError))
    | .acquired token => some (a.finish (a.grant token))
    | .alreadyHeld token => some (a.finish (a.grant token))

/-- The continuation of whatever `runAcquire` awaits. -/
def continues (a : Acquire) : Option Acquire :=
  match a.phase, a.queued with
  | .requesting, _ => a.requestContinues a.request
  | .awaitingQueued, some q => a.queuedContinues q.response
  | _, _ => none

/-- The connection goes: a request on the wire fails, and the listener of a
running call notes it. -/
def connectionLost (a : Acquire) (error : JsError) : Acquire :=
  { a with
    disconnected := a.disconnected || a.phase.isRunning
    wire := if a.wire = .sent then .lost else a.wire
    request := if a.wire = .sent then a.request.settle (.rejected error) else a.request }

end Acquire

/-! ## The client and the broker -/

/-- The variables of `createLeaseClient` that `acquire` uses, the calls made, and
the broker's books. -/
structure AcquireClient where
  /-- The number of calls made; the calls are numbered in order. -/
  count : Nat
  acquires : Nat → Acquire
  /-- The calls whose waiters are in `queuedAcquisitions`. -/
  queuedAcquisitions : List Nat
  acquireHandlerInitialized : Bool
  /-- The requests the broker has queued and not completed, in the order of queueing. -/
  owed : List Nat
  /-- The tokens granted, with the calls whose requests they were granted to. -/
  granted : List (Nat × Nat)
  /-- The completions handed to a waiter: the call that was queued, and the call
  whose waiter took it. -/
  handed : List (Nat × Nat)

inductive AcquireEvent
  /-- `acquire(route, options)` is called. -/
  | call (route : String) (waitSeconds : Nat) (refused : Option JsError) (aborted : Option JsValue)
  /-- `acquisitionTail` lets the call begin `runAcquire`. -/
  | begins (i : Nat)
  /-- The caller aborts the call's signal. -/
  | abort (i : Nat) (reason : JsValue)
  /-- The request goes out. -/
  | sent (i : Nat)
  /-- The broker answers the request. -/
  | answered (i : Nat) (response : AcquireResponse)
  /-- `requestFrame` rejects without an answer: a timeout, or a local failure. -/
  | requestFails (i : Nat) (error : JsError)
  /-- The broker completes the request it has queued the longest. -/
  | completed (response : AcquireResponse)
  /-- What the call awaits has settled, and it continues. -/
  | continues (i : Nat)
  /-- The disconnect listeners run; requests on the wire fail with `error`. -/
  | disconnected (error : JsError)
  deriving DecidableEq, Repr

namespace AcquireClient

def create : AcquireClient where
  count := 0
  acquires := fun _ => .uncalled
  queuedAcquisitions := []
  acquireHandlerInitialized := false
  owed := []
  granted := []
  handed := []

/-- Replace a call. -/
def set (c : AcquireClient) (i : Nat) (a : Acquire) : AcquireClient :=
  { c with acquires := Function.update c.acquires i a }

/-- Replace a call that has left `queuedAcquisitions`, as `removeQueued` makes it. -/
def setRemoved (c : AcquireClient) (i : Nat) (a : Acquire) : AcquireClient :=
  { c.set i a with queuedAcquisitions := c.queuedAcquisitions.erase i }

/-- `runAcquire` up to its request. -/
def begin (c : AcquireClient) (i : Nat) : AcquireClient :=
  let a := c.acquires i
  match a.refused, a.aborted with
  | some error, _ => c.set i (a.finish (.threw (.passedOn error)))
  | none, some reason => c.set i (a.finish (.threw (cancellation reason)))
  | none, none =>
    if a.waitSeconds > 0 then
      { c.set i { a with phase := .requesting, queued := some ⟨false, .pending⟩ } with
        queuedAcquisitions := c.queuedAcquisitions ++ [i]
        acquireHandlerInitialized := true }
    else c.set i { a with phase := .requesting }

/-- The abort of a call's signal. `requestFrame` and `onAbort` listen to it while
`runAcquire` is under way. -/
def abort (c : AcquireClient) (i : Nat) (reason : JsValue) : AcquireClient :=
  let reason := abortReason reason
  let a := { c.acquires i with aborted := some reason }
  if a.phase.isRunning then
    c.setRemoved i { a.rejectQueued (cancellation reason) with
      request := a.request.settle (.rejected abortException) }
  else c.set i a

/-- The broker notes what it grants with a response to the request of call `i`. -/
def grants (c : AcquireClient) (i : Nat) (response : AcquireResponse) : AcquireClient :=
  match response.token with
  | some token => { c with granted := c.granted ++ [(i, token)] }
  | none => c

/-- The broker answers the request of call `i`; the client may have given it up. -/
def answer (c : AcquireClient) (i : Nat) (response : AcquireResponse) : AcquireClient :=
  let a := c.acquires i
  let c := (c.grants i response).set i
    { a with wire := .answered, request := a.request.settle (.resolved response) }
  if response = .queued then { c with owed := c.owed ++ [i] } else c

/-- The handler for `MSG_LEASE_ACQUIRE`: the first waiter that is not settled takes
the completion, whichever request it completes. -/
def handle (c : AcquireClient) (owner : Nat) (response : AcquireResponse) : AcquireClient :=
  match c.queuedAcquisitions.dropWhile fun i => !(c.acquires i).waits with
  | [] => { c with queuedAcquisitions := [] }
  | i :: rest =>
    { c.set i ((c.acquires i).resolveQueued response) with
      queuedAcquisitions := rest
      handed := c.handed ++ [(owner, i)] }

/-- The broker completes the request of call `owner`. -/
def complete (c : AcquireClient) (owner : Nat) (response : AcquireResponse) : AcquireClient :=
  let c := { c with owed := c.owed.tail }.grants owner response
  if c.acquireHandlerInitialized then c.handle owner response else c

/-- The disconnect listener of the client rejects every waiter in the queue. What
the broker has queued ends with its session. -/
def disconnect (c : AcquireClient) (error : JsError) : AcquireClient :=
  { c with
    acquires := fun i =>
      let a := (c.acquires i).connectionLost error
      if i ∈ c.queuedAcquisitions then a.rejectQueued interruptedError else a
    queuedAcquisitions := []
    owed := [] }

def step (c : AcquireClient) : AcquireEvent → Option AcquireClient
  | .call route waitSeconds refused aborted =>
    some { c.set c.count { Acquire.uncalled with
        route := route, waitSeconds := waitSeconds, refused := refused, aborted := aborted
        phase := .waitingTurn } with count := c.count + 1 }
  | .begins i =>
    if (c.acquires i).phase = .waitingTurn ∧ ∀ j < i, (c.acquires j).phase.isDone then
      some (c.begin i)
    else none
  | .abort i reason =>
    if i < c.count ∧ (c.acquires i).aborted = none then some (c.abort i reason) else none
  | .sent i =>
    let a := c.acquires i
    if a.phase = .requesting ∧ a.request = .pending ∧ a.wire = .unsent then
      some (c.set i { a with wire := .sent })
    else none
  | .answered i response =>
    if (c.acquires i).wire = .sent then some (c.answer i response) else none
  | .requestFails i error =>
    let a := c.acquires i
    if a.phase = .requesting ∧ a.request = .pending then
      some (c.set i { a with request := .rejected error })
    else none
  | .completed response =>
    match c.owed with
    | owner :: _ => some (c.complete owner response)
    | [] => none
  | .continues i =>
    match (c.acquires i).continues with
    | some a => some (if a.phase.isDone then c.setRemoved i a else c.set i a)
    | none => none
  | .disconnected error => some (c.disconnect error)

/-- The acquisitions of one lease client. -/
def machine : Machine AcquireClient AcquireEvent := ⟨create, step⟩

end AcquireClient

end FitzTs.Lease
