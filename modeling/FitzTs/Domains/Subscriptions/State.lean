import Mathlib.Logic.Function.Basic
import FitzTs.Lib.Machine
import FitzTs.Lib.OrderedMap
/-!
# FitzTs.Domains.Subscriptions.State

What a domain client holds for its subscriptions, and the broker's side of it.

Six clients keep subscriptions by the same design and differ in a few choices;
`Variant` names the choices and `stream`, `queue`, `schedule`, `kv`, `lease` and
`notice` make them. A `SubscriptionState` is an object: the table holds references
to it, and so do the operations that are under way, which is what the checks of
`isCurrentEmptyState` are about. So is the promise of a request; it is named by
the number of the request.
-/

namespace FitzTs.Subscriptions

/-! ## The clients -/

/-- Where the domain clients differ. -/
structure Variant where
  /-- Notifications for unknown ids wait in a `createPendingNotificationBuffer`. -/
  buffers : Bool
  /-- `unsubscribe` removes the last handler only once the broker has confirmed, and
  does nothing for a handler that is not there. -/
  keepsLastHandler : Bool
  /-- The state is put into the table by the function the single flight runs. -/
  registersInFlight : Bool
  /-- The restore moves the index entry of each pattern as its answer comes. -/
  indexesEachEntry : Bool
  /-- UNSUBSCRIBE names the subscription id, not the pattern. -/
  unsubscribesById : Bool
  /-- Calls of `subscribe` run one at a time. -/
  serializes : Bool
  deriving DecidableEq, Repr

/-- `domains/stream/client.ts`. -/
def stream : Variant := ⟨true, false, false, false, false, false⟩

/-- `domains/queue/client.ts`. -/
def queue : Variant := ⟨true, false, false, false, false, false⟩

/-- `domains/schedule/client.ts`. -/
def schedule : Variant := ⟨true, false, false, false, false, false⟩

/-- `domains/kv/client.ts`. -/
def kv : Variant := ⟨false, false, true, false, false, false⟩

/-- `domains/lease/client.ts`. -/
def lease : Variant := ⟨false, true, false, true, false, false⟩

/-- `domains/notice/client.ts`. -/
def notice : Variant := ⟨true, true, false, false, true, true⟩

/-! ## The table of subscriptions -/

/-- The state object of a pattern. `handlers` is a `Map` from handler ids; a
handler is named by its id, and the ids are in the order of insertion. -/
structure SubscriptionState where
  /-- The key it was made for. -/
  pattern : String
  subId : Nat
  handlers : List Nat
  /-- The UNSUBSCRIBE request whose round trip it awaits. -/
  pendingUnsubscribe : Option Nat
  deriving DecidableEq, Repr

/-- `subscriptionsByPattern`, `patternsBySubId` and the objects they lead to. -/
structure Store where
  states : Nat → SubscriptionState
  /-- The number of objects made. -/
  stateCount : Nat
  subscriptionsByPattern : OrderedMap String Nat
  patternsBySubId : OrderedMap Nat String

namespace Store

def empty : Store := ⟨fun _ => ⟨"", 0, [], none⟩, 0, ∅, ∅⟩

/-- Make an object. -/
def make (t : Store) (state : SubscriptionState) : Store :=
  { t with states := Function.update t.states t.stateCount state, stateCount := t.stateCount + 1 }

/-- Write to an object. -/
def write (t : Store) (s : Nat) (state : SubscriptionState) : Store :=
  { t with states := Function.update t.states s state }

/-- A new object with an id goes into both maps. -/
def register (t : Store) (pattern : String) (subId : Nat) : Store :=
  { t.make ⟨pattern, subId, [], none⟩ with
    subscriptionsByPattern := t.subscriptionsByPattern.set pattern t.stateCount
    patternsBySubId := t.patternsBySubId.set subId pattern }

/-- `handlers.set(handlerId, ..)`. -/
def addHandler (t : Store) (s handler : Nat) : Store :=
  t.write s { t.states s with handlers := (t.states s).handlers ++ [handler] }

/-- `handlers.delete(handlerId)`. -/
def deleteHandler (t : Store) (s handler : Nat) : Store :=
  t.write s { t.states s with handlers := (t.states s).handlers.erase handler }

/-- `pendingUnsubscribe = ..`. -/
def setPending (t : Store) (s : Nat) (pendingUnsubscribe : Option Nat) : Store :=
  t.write s { t.states s with pendingUnsubscribe := pendingUnsubscribe }

/-- `isCurrentEmptyState(subscriptionsByPattern, pattern, state)`. -/
def isCurrentEmptyState (t : Store) (pattern : String) (s : Nat) : Bool :=
  t.subscriptionsByPattern.get? pattern = some s && (t.states s).handlers.isEmpty

/-- The pattern and its id leave both maps. -/
def unregister (t : Store) (pattern : String) (s : Nat) : Store :=
  { t with
    subscriptionsByPattern := t.subscriptionsByPattern.delete pattern
    patternsBySubId := t.patternsBySubId.delete (t.states s).subId }

/-- The state that notifications with an id go to. -/
def resolve (t : Store) (subId : Nat) : Option Nat :=
  (t.patternsBySubId.get? subId).bind t.subscriptionsByPattern.get?

end Store

/-! ## Notifications -/

/-- A notification, with the session it was received in and its place among all
notifications received. -/
structure Notification where
  subId : Nat
  session : Nat
  arrival : Nat
  deriving DecidableEq, Repr

/-- A notification that was dispatched to a handler. -/
structure Delivery where
  handler : Nat
  notification : Notification
  deriving DecidableEq, Repr

/-! ## Requests -/

/-- The frames the subscription code sends. An UNSUBSCRIBE names the pattern or the
id; both are kept. -/
inductive Frame
  | subscribe (pattern : String)
  | unsubscribe (pattern : String) (subId : Nat)
  deriving DecidableEq, Repr

inductive RequestPhase
  /-- Not sent yet; parked, if the connection is not ready for it. -/
  | unsent
  | sent
  /-- SUBSCRIBE was answered with an id. -/
  | subscribed (subId : Nat)
  /-- UNSUBSCRIBE was confirmed. -/
  | unsubscribed
  | rejected
  deriving DecidableEq, Repr

def RequestPhase.isSettled : RequestPhase → Bool
  | .unsent => false
  | .sent => false
  | _ => true

structure Request where
  frame : Frame
  /-- Made by `requestReconnectFrame`. -/
  restoring : Bool
  phase : RequestPhase
  /-- The session in which it was made, and whether a restore was under way then. -/
  madeIn : Nat
  duringRestore : Bool
  /-- The session in which it was sent. -/
  sentIn : Nat
  /-- The single flight's `finally` has run. -/
  landed : Bool
  /-- The state the function of a single flight has registered. -/
  registered : Option Nat
  deriving DecidableEq, Repr

/-! ## Handles and calls -/

/-- A controller made by `createSubscriptionController`, with its handle. It is named
by the handler id it was made for. -/
structure Handle where
  pattern : String
  active : Bool
  /-- It listens to the abort of its signal. -/
  listening : Bool
  /-- The promise `completion` has resolved. -/
  completed : Bool
  /-- The UNSUBSCRIBE it awaits: the state it holds on to, and the request. -/
  pending : Option (Nat × Nat)
  deriving DecidableEq, Repr

/-- Where a call of `subscribe` stands. -/
inductive CallPhase
  | uncalled
  /-- Behind `mutationTail`. -/
  | waitingTurn
  /-- `await awaitPendingUnsubscribe(existing)`. -/
  | awaitingUnsubscribe (request : Nat)
  /-- `await registerSingleFlight(..)`. -/
  | awaitingFlight (request : Nat)
  | returned (handle : Nat)
  | threw
  deriving DecidableEq, Repr

def CallPhase.isDone : CallPhase → Bool
  | .returned _ => true
  | .threw => true
  | _ => false

/-- A call of `subscribe(pattern, handler, { signal })`. -/
structure Call where
  pattern : String
  /-- Its signal is aborted. -/
  aborted : Bool
  phase : CallPhase
  deriving DecidableEq, Repr

/-! ## The reconnect listener -/

/-- Where the reconnect listener stands. The lists hold patterns with the state
objects read from the table, or made for it. -/
inductive Restore
  | idle
  /-- It is about to be called. -/
  | pending
  /-- Its resubscribe request for the first of `todo` is under way. -/
  | resubscribing (todo restored : List (String × Nat)) (request : Nat)
  /-- Its UNSUBSCRIBE request for the first of `todo` is under way. -/
  | rollingBack (todo : List (String × Nat)) (request : Nat)
  /-- The restored table is in place, the index is still the old one. -/
  | committed
  deriving DecidableEq, Repr

/-- The entries of the table are still those of the session before. -/
def Restore.isUnderWay : Restore → Bool
  | .idle => false
  | .committed => false
  | _ => true

/-- The connection, as far as requests see it. -/
inductive Link
  | disconnected
  /-- The session is up, and the reconnect listeners are running. -/
  | restoring
  | authenticated
  deriving DecidableEq, Repr

/-! ## The client -/

structure Client where
  store : Store
  pendingBySubId : OrderedMap Nat (List Notification)
  /-- The notification handler is installed. -/
  initialized : Bool
  handles : Nat → Handle
  nextHandlerId : Nat
  /-- The map of `createKeyedSingleFlight`. -/
  inFlight : OrderedMap String Nat
  calls : Nat → Call
  callCount : Nat
  requests : Nat → Request
  requestCount : Nat
  restore : Restore
  /-- The restore of this session ended with an error, which the connection reports. -/
  restoreFailed : Bool
  link : Link
  session : Nat
  /-- The broker's registrations in the current session. -/
  registrations : List (String × Nat)
  /-- What sessions assigned: session, id and pattern. -/
  assigned : List (Nat × Nat × String)
  /-- The UNSUBSCRIBE frames written: session, id and pattern. -/
  unsubscribed : List (Nat × Nat × String)
  arrivals : Nat
  delivered : List Delivery

namespace Client

/-- A client that has just been created, over an authenticated connection. -/
def create : Client where
  store := .empty
  pendingBySubId := ∅
  initialized := false
  handles := fun _ => ⟨"", false, false, false, none⟩
  nextHandlerId := 1
  inFlight := ∅
  calls := fun _ => ⟨"", false, .uncalled⟩
  callCount := 0
  requests := fun _ => ⟨.subscribe "", false, .unsent, 0, false, 0, false, none⟩
  requestCount := 0
  restore := .idle
  restoreFailed := false
  link := .authenticated
  session := 0
  registrations := []
  assigned := []
  unsubscribed := []
  arrivals := 0
  delivered := []

/-- The entry of a pattern. -/
def entry? (c : Client) (pattern : String) : Option Nat :=
  c.store.subscriptionsByPattern.get? pattern

def setStore (c : Client) (store : Store) : Client := { c with store := store }

def setHandle (c : Client) (h : Nat) (handle : Handle) : Client :=
  { c with handles := Function.update c.handles h handle }

def setCall (c : Client) (i : Nat) (phase : CallPhase) : Client :=
  { c with calls := Function.update c.calls i { c.calls i with phase := phase } }

def setRequest (c : Client) (r : Nat) (request : Request) : Client :=
  { c with requests := Function.update c.requests r request }

/-- Make a request; its number is `c.requestCount`. -/
def request (c : Client) (frame : Frame) (restoring : Bool) : Client :=
  { c with
    requests := Function.update c.requests c.requestCount
      ⟨frame, restoring, .unsent, c.session, c.restore.isUnderWay, 0, false, none⟩
    requestCount := c.requestCount + 1 }

end Client

end FitzTs.Subscriptions
