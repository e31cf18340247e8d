import FitzTs.Domains.Subscriptions.State
/-!
# FitzTs.Domains.Subscriptions.Notifications

`createPendingNotificationBuffer`, and the handlers for notifications.

The buffer is keyed by the id alone: what is in it is not tied to a session, and
only a flush under the same id or an UNSUBSCRIBE takes it out.
-/

namespace FitzTs.Subscriptions.Client

/-- `dispatchNotification`: every handler of the state, in order. -/
def dispatch (c : Client) (s : Nat) (notifications : List Notification) : Client :=
  { c with
    delivered := c.delivered ++
      notifications.flatMap fun n => (c.store.states s).handlers.map fun h => ⟨h, n⟩ }

/-- `queue`. -/
def enqueue (c : Client) (subId : Nat) (notification : Notification) : Client :=
  { c with
    pendingBySubId := c.pendingBySubId.set subId
      ((c.pendingBySubId.get? subId).getD [] ++ [notification]) }

/-- `flush`. -/
def flush (c : Client) (subId : Nat) : Client :=
  match c.pendingBySubId.get? subId, c.store.resolve subId with
  | some pending, some s =>
    if pending = [] then c
    else { c with pendingBySubId := c.pendingBySubId.delete subId }.dispatch s pending
  | _, _ => c

/-- `remove`. -/
def removePending (c : Client) (subId : Nat) : Client :=
  { c with pendingBySubId := c.pendingBySubId.delete subId }

/-- The handler for notification frames: `dispatchOrQueue`, or a dispatch that drops
what it cannot resolve. Before the first `subscribe` there is none. -/
def notify (v : Variant) (c : Client) (subId : Nat) : Client :=
  let n : Notification := ⟨subId, c.session, c.arrivals⟩
  let c := { c with arrivals := c.arrivals + 1 }
  if c.initialized then
    match c.store.resolve subId with
    | some s => c.dispatch s [n]
    | none => if v.buffers then c.enqueue subId n else c
  else c

/-- `flush`, where there is a buffer. -/
def flushIfBuffered (v : Variant) (c : Client) (subId : Nat) : Client :=
  if v.buffers then c.flush subId else c

/-- `remove`, where there is a buffer. -/
def removeIfBuffered (v : Variant) (c : Client) (subId : Nat) : Client :=
  if v.buffers then c.removePending subId else c

end FitzTs.Subscriptions.Client
