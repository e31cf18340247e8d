import FitzTs.Domains.Subscriptions.Notifications
/-!
# FitzTs.Domains.Subscriptions.Local

`subscribe`, `addLocalSubscription`, `unsubscribe` and the controllers of handles.
-/

namespace FitzTs.Subscriptions.Client

/-! ## Unsubscribing -/

/-- `unsubscribeFn` has fulfilled: `completion` resolves. -/
def complete (c : Client) (h : Nat) : Client :=
  c.setHandle h { c.handles h with completed := true, pending := none }

/-- The wire UNSUBSCRIBE of the last handler. -/
def unsubscribeWire (c : Client) (pattern : String) (s h : Nat) : Client :=
  let r := c.requestCount
  let c := c.request (.unsubscribe pattern (c.store.states s).subId) false
  (c.setStore (c.store.setPending s (some r))).setHandle h
    { c.handles h with pending := some (s, r) }

/-- `unsubscribe(pattern, handlerId)` up to its first `await`. Without one it has
fulfilled. -/
def unsubscribeHandler (v : Variant) (c : Client) (pattern : String) (h : Nat) : Client :=
  match c.entry? pattern with
  | none => c.complete h
  | some s =>
    if v.keepsLastHandler then
      if h ∉ (c.store.states s).handlers then c.complete h
      else if (c.store.states s).handlers.length > 1 then
        (c.setStore (c.store.deleteHandler s h)).complete h
      else c.unsubscribeWire pattern s h
    else
      let c := c.setStore (c.store.deleteHandler s h)
      if (c.store.states s).handlers ≠ [] then c.complete h
      else c.unsubscribeWire pattern s h

/-- `handle.unsubscribe()`; it is also what an abort or a disposal runs. -/
def unsubscribe (v : Variant) (c : Client) (h : Nat) : Client :=
  let handle := c.handles h
  if handle.active then
    (c.setHandle h { handle with active := false, listening := false }).unsubscribeHandler v
      handle.pattern h
  else c

/-- The `finally` around `await wireUnsubscribe`. -/
def clearPending (c : Client) (s r : Nat) : Client :=
  if (c.store.states s).pendingUnsubscribe = some r then c.setStore (c.store.setPending s none)
  else c

/-- A client that has kept the last handler removes it now. -/
def dropLastHandler (v : Variant) (c : Client) (s h : Nat) : Client :=
  if v.keepsLastHandler then c.setStore (c.store.deleteHandler s h) else c

/-- Clear the bookkeeping of the pattern, if `s` is still its entry and has no handler. -/
def unregisterIfEmpty (v : Variant) (c : Client) (pattern : String) (s : Nat) : Client :=
  if c.store.isCurrentEmptyState pattern s then
    (c.setStore (c.store.unregister pattern s)).removeIfBuffered v (c.store.states s).subId
  else c

/-- The continuation of `await wireUnsubscribe` in the `unsubscribe` of handle `h`,
which holds on to state `s`, and what the controller makes of its outcome. -/
def unsubscribeContinues (v : Variant) (c : Client) (h s r : Nat) : Client :=
  let c := c.clearPending s r
  if (c.requests r).phase = .unsubscribed then
    ((c.dropLastHandler v s h).unregisterIfEmpty v (c.handles h).pattern s).complete h
  else c.setHandle h { c.handles h with active := true, pending := none }

/-! ## Subscribing -/

/-- `createSubscriptionController`: the handle of handler `c.nextHandlerId`. If the
signal is aborted already, the handle is disposed of on the spot. -/
def createController (v : Variant) (c : Client) (pattern : String) (aborted : Bool) : Client :=
  let h := c.nextHandlerId
  let c := { c.setHandle h ⟨pattern, true, !aborted, false, none⟩ with
    nextHandlerId := c.nextHandlerId + 1 }
  if aborted then c.unsubscribe v h else c

/-- A handler joins state `s`, and call `i` returns its handle. `subId` is the id
that notifications waiting for it are buffered under. -/
def addHandler (v : Variant) (c : Client) (i s subId : Nat) : Client :=
  let h := c.nextHandlerId
  let call := c.calls i
  let c := c.createController v call.pattern call.aborted
  let c := c.setStore (c.store.addHandler s h)
  (c.flushIfBuffered v subId).setCall i (.returned h)

/-- `addLocalSubscription(pattern, subId, handler, signal)`. -/
def addLocalSubscription (v : Variant) (c : Client) (i subId : Nat) : Client :=
  let pattern := (c.calls i).pattern
  match c.entry? pattern with
  | some s => c.addHandler v i s subId
  | none => (c.setStore (c.store.register pattern subId)).addHandler v i c.store.stateCount subId

/-- The loop of `subscribe`, from its head to an `await` or a `return`. -/
def decide (v : Variant) (c : Client) (i : Nat) : Client :=
  let pattern := (c.calls i).pattern
  match c.entry? pattern with
  | some s =>
    match (c.store.states s).pendingUnsubscribe with
    | some r => c.setCall i (.awaitingUnsubscribe r)
    | none => c.addHandler v i s (c.store.states s).subId
  | none =>
    match c.inFlight.get? pattern with
    | some r => c.setCall i (.awaitingFlight r)
    | none =>
      let r := c.requestCount
      let c := c.request (.subscribe pattern) false
      { c with inFlight := c.inFlight.set pattern r }.setCall i (.awaitingFlight r)

/-- The body of `subscribe`. -/
def beginSubscribe (v : Variant) (c : Client) (i : Nat) : Client :=
  { c with initialized := true }.decide v i

/-- `subscribe(pattern, handler, { signal })`. -/
def subscribe (v : Variant) (c : Client) (pattern : String) (aborted : Bool) : Client :=
  let i := c.callCount
  let c := { c with
    calls := Function.update c.calls i ⟨pattern, aborted, .waitingTurn⟩
    callCount := c.callCount + 1 }
  if v.serializes then c else c.beginSubscribe v i

/-- The single flight of request `r` settles: `register` has run to its end, and its
`finally` frees the key. -/
def flightSettles (v : Variant) (c : Client) (r : Nat) (pattern : String) : Client :=
  let c := { c with inFlight := c.inFlight.delete pattern }
  let request := { c.requests r with landed := true }
  match request.phase with
  | .subscribed subId =>
    if v.registersInFlight then
      (c.setStore (c.store.register pattern subId)).setRequest r
        { request with registered := some c.store.stateCount }
    else c.setRequest r request
  | _ => c.setRequest r request

/-- The continuation of `await registerSingleFlight(..)`. -/
def flightContinues (v : Variant) (c : Client) (i r : Nat) : Client :=
  match (c.requests r).phase, (c.requests r).registered with
  | .subscribed _, some s => c.addHandler v i s (c.store.states s).subId
  | .subscribed subId, none => c.addLocalSubscription v i subId
  | _, _ => c.setCall i .threw

/-- The continuation of what call `i` awaits, if it has settled. -/
def callContinues (v : Variant) (c : Client) (i : Nat) : Option Client :=
  match (c.calls i).phase with
  | .waitingTurn => if ∀ j < i, (c.calls j).phase.isDone then some (c.beginSubscribe v i) else none
  | .awaitingUnsubscribe r =>
    if (c.requests r).phase.isSettled then some (c.decide v i) else none
  | .awaitingFlight r => if (c.requests r).landed then some (c.flightContinues v i r) else none
  | _ => none

/-- The signal of call `i` is aborted. -/
def abort (v : Variant) (c : Client) (i : Nat) : Client :=
  let c := { c with calls := Function.update c.calls i { c.calls i with aborted := true } }
  match (c.calls i).phase with
  | .returned h => if (c.handles h).listening then c.unsubscribe v h else c
  | _ => c

end FitzTs.Subscriptions.Client
