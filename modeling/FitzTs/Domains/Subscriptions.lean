import FitzTs.Domains.Subscriptions.Local
import FitzTs.Domains.Subscriptions.Restoring
/-!
# FitzTs.Domains.Subscriptions

A domain client with its subscriptions, its connection and the broker, as a machine.

An event is a call, an abort, something the connection or the broker does, or the
continuation of an operation whose `await` has settled. The broker holds the
registrations its successful answers say it holds; a session ends with the
connection, and with it the registrations it had.
-/

namespace FitzTs.Subscriptions

inductive Event
  /-- `subscribe(pattern, handler, { signal })`, with a signal that may be aborted. -/
  | subscribe (pattern : String) (aborted : Bool)
  /-- A call of `subscribe` continues. -/
  | callContinues (i : Nat)
  /-- The signal of a call is aborted. -/
  | abort (i : Nat)
  /-- `handle.unsubscribe()`. -/
  | unsubscribe (h : Nat)
  /-- The `unsubscribe` of a handle continues. -/
  | unsubscribeContinues (h : Nat)
  /-- A single flight settles. -/
  | flightSettles (r : Nat)
  /-- A request goes out. -/
  | sent (r : Nat)
  /-- SUBSCRIBE succeeds. -/
  | subscribed (r subId : Nat)
  /-- UNSUBSCRIBE succeeds. -/
  | unsubscribed (r : Nat)
  /-- A request fails, sent or not. -/
  | rejected (r : Nat)
  /-- A notification arrives. -/
  | notify (subId : Nat)
  /-- The connection is lost. -/
  | lost
  /-- A new session is up. -/
  | connected
  /-- The reconnect listener is called. -/
  | restoreBegins
  /-- The reconnect listener continues. -/
  | restoreContinues
  /-- The connection is authenticated again. -/
  | restored
  deriving DecidableEq, Repr

namespace Client

/-- A request may go out: an ordinary one on an authenticated connection, one of the
reconnect listener while the listeners run. -/
def mayBeSent (c : Client) (r : Nat) : Bool :=
  r < c.requestCount && (c.requests r).phase = .unsent &&
    if (c.requests r).restoring then c.link = .restoring else c.link = .authenticated

/-- The request goes out in the current session. -/
def send (c : Client) (r : Nat) : Client :=
  let request := c.requests r
  let c := c.setRequest r { request with phase := .sent, sentIn := c.session }
  match request.frame with
  | .unsubscribe pattern subId =>
    { c with unsubscribed := c.unsubscribed ++ [(c.session, subId, pattern)] }
  | .subscribe _ => c

/-- The broker registers the pattern under an id. -/
def brokerSubscribes (c : Client) (r subId : Nat) (pattern : String) : Client :=
  { c.setRequest r { c.requests r with phase := .subscribed subId } with
    registrations := c.registrations ++ [(pattern, subId)]
    assigned := c.assigned ++ [(c.session, subId, pattern)] }

/-- The broker drops the registration the frame names. -/
def brokerUnsubscribes (v : Variant) (c : Client) (r subId : Nat) (pattern : String) : Client :=
  { c.setRequest r { c.requests r with phase := .unsubscribed } with
    registrations := c.registrations.filter fun e =>
      if v.unsubscribesById then e.2 ≠ subId else e.1 ≠ pattern }

/-- The connection goes, with the requests on it and the broker's session. -/
def loseConnection (c : Client) : Client :=
  { c with
    link := .disconnected
    registrations := []
    requests := fun r =>
      if (c.requests r).phase = .sent then { c.requests r with phase := .rejected }
      else c.requests r }

def step (v : Variant) (c : Client) : Event → Option Client
  | .subscribe pattern aborted => some (c.subscribe v pattern aborted)
  | .callContinues i => c.callContinues v i
  | .abort i => if i < c.callCount ∧ !(c.calls i).aborted then some (c.abort v i) else none
  | .unsubscribe h => if h < c.nextHandlerId then some (c.unsubscribe v h) else none
  | .unsubscribeContinues h =>
    match (c.handles h).pending with
    | some (s, r) =>
      if (c.requests r).phase.isSettled then some (c.unsubscribeContinues v h s r) else none
    | none => none
  | .flightSettles r =>
    match (c.requests r).frame with
    | .subscribe pattern =>
      if r < c.requestCount ∧ !(c.requests r).restoring ∧ !(c.requests r).landed ∧
          (c.requests r).phase.isSettled then
        some (c.flightSettles v r pattern)
      else none
    | .unsubscribe _ _ => none
  | .sent r => if c.mayBeSent r then some (c.send r) else none
  | .subscribed r subId =>
    match (c.requests r).frame with
    | .subscribe pattern =>
      if (c.requests r).phase = .sent then some (c.brokerSubscribes r subId pattern) else none
    | .unsubscribe _ _ => none
  | .unsubscribed r =>
    match (c.requests r).frame with
    | .unsubscribe pattern subId =>
      if (c.requests r).phase = .sent then some (c.brokerUnsubscribes v r subId pattern) else none
    | .subscribe _ => none
  | .rejected r =>
    if r < c.requestCount ∧ !(c.requests r).phase.isSettled then
      some (c.setRequest r { c.requests r with phase := .rejected })
    else none
  | .notify subId => if c.link ≠ .disconnected then some (c.notify v subId) else none
  | .lost => if c.link ≠ .disconnected then some c.loseConnection else none
  | .connected =>
    if c.link = .disconnected ∧ c.restore = .idle then
      some { c with
        link := .restoring, session := c.session + 1, restore := .pending, restoreFailed := false }
    else none
  | .restoreBegins => if c.restore = .pending then some (c.restoreBegins v) else none
  | .restoreContinues => c.restoreContinues v
  | .restored =>
    if c.link = .restoring ∧ c.restore = .idle then some { c with link := .authenticated } else none

/-- A client of the given kind. -/
def machine (v : Variant) : Machine Client Event := ⟨create, step v⟩

end Client

end FitzTs.Subscriptions
