import FitzTs.Lib.Machine
import FitzTs.Client.Internal.AsyncHandlerDispatcher
/-!
# FitzTs.Domains.WakeLoop

**Generators that sleep until they are woken**: `reserveWhenAvailable` of the queue
client and `read` of the stream client in follow mode. Both subscribe to their route,
and then repeat: sample the version of a wake gate, make a round trip, hand out what
it brought, and wait until the gate is past the sample.

The gate is woken by the handler of the subscription, which a notification reaches
through the connection's bounded dispatcher, by a listener for reconnects and, in
`reserveWhenAvailable` only, by one for disconnects. `Helper` names the differences.
The machine is one generator with its subscription, the dispatcher, which other
handlers use as well, and the connection; the route has no other subscriber in the
client. What the generator does when something it awaits has settled is an event of
its own; what takes another round trip comes after it.

Of the gate a `Loop` has what its one waiter sees. `FitzTs.Domains.WakeLoop.Gate` shows that this is
the gate of `FitzTs.Core.WakeGate`.
-/

namespace FitzTs.WakeLoop

open Client (AsyncHandlerDispatcher)

/-! ### The two helpers -/

inductive Helper
  /-- `queue.reserveWhenAvailable`. -/
  | reserveWhenAvailable
  /-- `stream.read` with `mode: "follow"`. -/
  | read
  deriving DecidableEq, Repr

/-- The helper registers `connection.onDisconnect(() => wakeGate.wake())`. -/
def Helper.wakesOnDisconnect : Helper → Bool
  | .reserveWhenAvailable => true
  | .read => false

/-- The helper passes its signal to `subscribe`. -/
def Helper.subscribesWithSignal : Helper → Bool
  | .reserveWhenAvailable => false
  | .read => true

/-- What a round trip has brought. -/
inductive Answer
  /-- RESERVE: the number of items. -/
  | items (count : Nat)
  /-- READ: `page.cursor.hasMore`, and whether the page is the second that stalls. -/
  | page (hasMore stalled : Bool)
  deriving DecidableEq, Repr

/-- The answer is one to the helper's request. -/
def Helper.requests : Helper → Answer → Bool
  | .reserveWhenAvailable, .items _ => true
  | .read, .page _ _ => true
  | _, _ => false

/-! ### The state -/

inductive Phase
  | created
  /-- `await subscribe(..)`, its SUBSCRIBE outstanding. -/
  | subscribing
  /-- SUBSCRIBE was answered with an id. -/
  | subscribed (subId : Nat)
  /-- `await reserveOnce(..)` or `await readPage(..)`, with their retries. -/
  | requesting
  | answered (answer : Answer)
  /-- At a `yield`, after which the loop goes `on` or waits. -/
  | yielded (on : Bool)
  /-- `await wakeGate.waitAfter(observed)`, with a waiter at the gate. -/
  | parked
  /-- `waitAfter` has resolved. -/
  | resumed
  | returned
  | threw
  deriving DecidableEq, Repr

/-- The generator is in its loop. -/
def Phase.inLoop : Phase → Bool
  | .requesting | .answered _ | .yielded _ | .parked | .resumed => true
  | .created | .subscribing | .subscribed _ | .returned | .threw => false

/-- A task of the dispatcher. -/
inductive Task
  /-- The generator's handler, for a notification. -/
  | wake (notification : Nat)
  | other
  deriving DecidableEq, Repr

/-- The connection, and how far its reconnect listeners have been called. -/
inductive Link
  | disconnected
  /-- A session is up; the domain's restore listener runs. -/
  | restoring
  /-- The broker has answered the restore's SUBSCRIBE. -/
  | resubscribed
  /-- The restore listener has returned. -/
  | restored
  /-- Every listener has been called. -/
  | reconnected
  /-- Authenticated. -/
  | ready
  /-- Closed, out of attempts, without reconnect or rejected: unusable for good. -/
  | down
  deriving DecidableEq, Repr

structure Loop where
  helper : Helper
  phase : Phase
  /-- `wakeGate.version`, and the version sampled before the round trip. -/
  version : Nat
  observed : Nat
  /-- `options.signal` is aborted. -/
  aborted : Bool
  /-- The reconnect and disconnect listeners are installed. -/
  listening : Bool
  /-- The handle is active, and the handler is in the route's entry. -/
  attached : Bool
  /-- The id of the route's entry. -/
  entry : Option Nat
  /-- `pendingNotifications`: notifications under ids without an entry. -/
  pendingNotifications : List (Nat × Nat)
  dispatcher : AsyncHandlerDispatcher Task
  link : Link
  /-- The id of the route's registration in the current session. -/
  registered : Option Nat
  /-- How many notifications of the route have been received. -/
  arrivals : Nat
  /-- Those received since the last round trip began. -/
  since : List Nat

namespace Loop

/-- A generator over an authenticated connection; `next` has not been called. -/
def create (helper : Helper) (maxConcurrency queueCapacity : Option Nat) : Loop where
  helper := helper
  phase := .created
  version := 0
  observed := 0
  aborted := false
  listening := false
  attached := false
  entry := none
  pendingNotifications := []
  dispatcher := .create maxConcurrency queueCapacity
  link := .ready
  registered := none
  arrivals := 0
  since := []

/-! ### The wake gate -/

/-- `wakeGate.wake()`. -/
def wake (s : Loop) : Loop :=
  { s with
    version := s.version + 1
    phase := if s.phase = .parked then .resumed else s.phase }

/-- A listener of the generator, while it is installed. -/
def listen (s : Loop) : Loop := if s.listening then s.wake else s

/-- `emitDisconnect`. -/
def emitDisconnect (s : Loop) : Loop := if s.helper.wakesOnDisconnect then s.listen else s

/-! ### The generator -/

/-- The generator leaves the loop; its `finally` removes the listeners and
unsubscribes. -/
def finish (s : Loop) (phase : Phase) : Loop :=
  { s with phase := phase, listening := false, attached := false }

/-- The head of the loop. -/
def head (s : Loop) : Loop := { s with phase := .requesting, observed := s.version, since := [] }

/-- `wakeGate.waitAfter(observed, { signal })`. -/
def waitAfter (s : Loop) : Loop :=
  if s.observed < s.version then { s with phase := .resumed }
  else if s.aborted then s.finish .threw
  else { s with phase := .parked }

/-- The loop after its round trip. -/
def answered (s : Loop) : Answer → Loop
  | .items count => if 0 < count then { s with phase := .yielded true } else s.waitAfter
  | .page hasMore stalled =>
    if stalled then s.finish .threw else { s with phase := .yielded hasMore }

/-! ### Notifications -/

/-- `dispatchSubscriptionHandler`: what the dispatcher refuses fails the subscription,
whose handle then is inactive. -/
def deliver (s : Loop) (notification : Nat) : Loop :=
  if s.attached then
    { s with
      dispatcher := (s.dispatcher.dispatch (.wake notification)).1
      attached := (s.dispatcher.dispatch (.wake notification)).2 }
  else s

/-- `pendingNotifications.flush(subId)`. -/
def flush (s : Loop) (subId : Nat) : Loop :=
  ((s.pendingNotifications.filter (·.1 = subId)).map Prod.snd).foldl deliver
    { s with pendingNotifications := s.pendingNotifications.filter (·.1 ≠ subId) }

/-- A notification arrives under the id of the registration. -/
def notify (s : Loop) (subId : Nat) : Loop :=
  let received := { s with arrivals := s.arrivals + 1, since := s.since ++ [s.arrivals] }
  if s.entry = some subId then received.deliver s.arrivals
  else { received with pendingNotifications := s.pendingNotifications ++ [(subId, s.arrivals)] }

/-- `addLocalSubscription`. The handle of an aborted signal is inactive from the start. -/
def addLocalSubscription (s : Loop) (subId : Nat) : Loop :=
  { s with
    entry := some subId
    attached := !(s.aborted && s.helper.subscribesWithSignal) }.flush subId

/-- The generator from `subscribe` to its first round trip. -/
def subscribes (s : Loop) (subId : Nat) : Loop :=
  { s.addLocalSubscription subId with listening := true }.head

/-- The restored entry is put in place, under the id the session has given it. -/
def commits (s : Loop) (subId : Nat) : Loop :=
  { { s with entry := some subId }.flush subId with link := .restored }

/-- The signal is aborted: a waiter rejects, and so does the subscription's handle. -/
def abort (s : Loop) : Loop :=
  let s := { s with aborted := true, attached := s.attached && !s.helper.subscribesWithSignal }
  if s.phase = .parked then s.finish .threw else s

/-- The session goes, and with it the registration. -/
def loses (s : Loop) (link : Link) : Loop :=
  { s with link := link, registered := none }.emitDisconnect

/-- `client.close()`. -/
def closes (s : Loop) : Loop := { s with dispatcher := s.dispatcher.close }.loses .down

end Loop

/-! ### The machine -/

inductive Event
  /-- The consumer calls `next()`. -/
  | next
  /-- The consumer leaves its loop. -/
  | leave
  /-- SUBSCRIBE is confirmed. -/
  | subscribed (subId : Nat)
  | subscribeFails
  | answered (answer : Answer)
  /-- The round trip fails for good. -/
  | requestFails
  /-- What the generator awaits has settled, and it continues. -/
  | continues
  | abort
  /-- A notification of the route arrives. -/
  | notify
  /-- Another handler is dispatched. -/
  | dispatchOther
  /-- The function of the next active task is called. -/
  | taskCalled
  | taskSettles (i : Nat)
  /-- The session is lost. -/
  | lost
  /-- An attempt to reconnect fails. -/
  | attemptFails
  /-- No further attempt is made. -/
  | givesUp
  | closes
  | sessionBegins
  /-- The restore's SUBSCRIBE is confirmed. -/
  | resubscribed (subId : Nat)
  /-- The restore puts its entries in place. -/
  | commits
  /-- The restore listener throws, or has nothing to restore; the broker may have
  `kept` a registration that could not be rolled back. -/
  | restoreEnds (kept : Bool)
  /-- The generator's reconnect listener is called. -/
  | reconnected
  | authenticated
  /-- The entry of a handle that is inactive is removed. -/
  | unsubscribed
  deriving DecidableEq, Repr

namespace Loop

/-- No continuation of the generator is due. -/
def isSettled (s : Loop) : Bool :=
  match s.phase with
  | .subscribed _ | .answered _ | .resumed => false
  | _ => true

def step (s : Loop) : Event → Option Loop
  | .next =>
    match s.phase with
    | .created => some { s with phase := .subscribing }
    | .yielded true => some s.head
    | .yielded false => some s.waitAfter
    | _ => none
  | .leave =>
    match s.phase with
    | .created => some { s with phase := .returned }
    | .yielded _ => some (s.finish .returned)
    | _ => none
  | .subscribed subId =>
    if s.phase = .subscribing ∧ s.link = .ready then
      some { s with phase := .subscribed subId, registered := some subId }
    else none
  | .subscribeFails =>
    if s.phase = .subscribing then some { s with phase := .threw } else none
  | .answered answer =>
    if s.phase = .requesting ∧ s.link = .ready ∧ s.aborted = false ∧ s.helper.requests answer then
      some { s with phase := .answered answer }
    else none
  | .requestFails => if s.phase = .requesting then some (s.finish .threw) else none
  | .continues =>
    match s.phase with
    | .subscribed subId => some (s.subscribes subId)
    | .answered answer => some (s.answered answer)
    | .resumed => some s.head
    | _ => none
  | .abort => if s.aborted then none else some s.abort
  | .notify => s.registered.map s.notify
  | .dispatchOther => some { s with dispatcher := (s.dispatcher.dispatch .other).1 }
  | .taskCalled =>
    match s.dispatcher.starting with
    | [] => none
    | .wake _ :: _ => some { s with dispatcher := s.dispatcher.call }.wake
    | .other :: _ => some { s with dispatcher := s.dispatcher.call }
  | .taskSettles i =>
    if i < s.dispatcher.running.length then some { s with dispatcher := s.dispatcher.settle i }
    else none
  | .lost =>
    match s.link with
    | .disconnected | .down => none
    | _ => some (s.loses .disconnected)
  | .attemptFails => if s.link = .disconnected then some s.emitDisconnect else none
  | .givesUp => if s.link = .disconnected then some { s with link := .down } else none
  | .closes => some s.closes
  | .sessionBegins =>
    if s.link = .disconnected ∧ s.isSettled then some { s with link := .restoring } else none
  | .resubscribed subId =>
    if s.link = .restoring ∧ s.entry.isSome then
      some { s with link := .resubscribed, registered := some subId }
    else none
  | .commits =>
    if s.link = .resubscribed then s.registered.map s.commits else none
  | .restoreEnds kept =>
    match s.link with
    | .restoring | .resubscribed =>
      some { s with link := .restored, registered := if kept then s.registered else none }
    | _ => none
  | .reconnected =>
    if s.link = .restored ∧ s.isSettled then some { s with link := .reconnected }.listen else none
  | .authenticated => if s.link = .reconnected then some { s with link := .ready } else none
  | .unsubscribed =>
    if s.entry.isSome ∧ s.attached = false ∧ s.link = .ready then
      some { s with entry := none, registered := none }
    else none

/-- The machine of one generator. -/
def machine (helper : Helper) (maxConcurrency queueCapacity : Option Nat) : Machine Loop Event :=
  ⟨create helper maxConcurrency queueCapacity, step⟩

/-- `reserveWhenAvailable(route, options)`. -/
def reserveWhenAvailable (maxConcurrency queueCapacity : Option Nat) : Machine Loop Event :=
  machine .reserveWhenAvailable maxConcurrency queueCapacity

/-- `read(route, { mode: "follow", .. })`. -/
def read (maxConcurrency queueCapacity : Option Nat) : Machine Loop Event :=
  machine .read maxConcurrency queueCapacity

/-! ### What a step can do -/

/-- The outcomes of `step`, each with what holds before it. -/
inductive Steps (s : Loop) : Event → Loop → Prop
  | starts (hphase : s.phase = .created) : Steps s .next { s with phase := .subscribing }
  | goesOn (hphase : s.phase = .yielded true) : Steps s .next s.head
  | waits (hphase : s.phase = .yielded false) : Steps s .next s.waitAfter
  | neverStarts (hphase : s.phase = .created) : Steps s .leave { s with phase := .returned }
  | leaves {on : Bool} (hphase : s.phase = .yielded on) : Steps s .leave (s.finish .returned)
  | subscribed {subId : Nat} (hphase : s.phase = .subscribing) :
      Steps s (.subscribed subId) { s with phase := .subscribed subId, registered := some subId }
  | subscribeFails (hphase : s.phase = .subscribing) :
      Steps s .subscribeFails { s with phase := .threw }
  | answered {answer : Answer} (hphase : s.phase = .requesting) (hlink : s.link = .ready)
      (hrequests : s.helper.requests answer = true) :
      Steps s (.answered answer) { s with phase := .answered answer }
  | requestFails (hphase : s.phase = .requesting) : Steps s .requestFails (s.finish .threw)
  | subscribes {subId : Nat} (hphase : s.phase = .subscribed subId) :
      Steps s .continues (s.subscribes subId)
  | handsOut {answer : Answer} (hphase : s.phase = .answered answer) :
      Steps s .continues (s.answered answer)
  | resumes (hphase : s.phase = .resumed) : Steps s .continues s.head
  | abort : Steps s .abort s.abort
  | notify {subId : Nat} (hregistered : s.registered = some subId) :
      Steps s .notify (s.notify subId)
  | dispatchOther :
      Steps s .dispatchOther { s with dispatcher := (s.dispatcher.dispatch .other).1 }
  | wakes {n : Nat} {rest : List Task} (hstarting : s.dispatcher.starting = .wake n :: rest) :
      Steps s .taskCalled { s with dispatcher := s.dispatcher.call }.wake
  | calls {rest : List Task} (hstarting : s.dispatcher.starting = .other :: rest) :
      Steps s .taskCalled { s with dispatcher := s.dispatcher.call }
  | taskSettles {i : Nat} : Steps s (.taskSettles i) { s with dispatcher := s.dispatcher.settle i }
  | lost : Steps s .lost (s.loses .disconnected)
  | attemptFails : Steps s .attemptFails s.emitDisconnect
  | givesUp (hlink : s.link = .disconnected) : Steps s .givesUp { s with link := .down }
  | closes : Steps s .closes s.closes
  | sessionBegins (hlink : s.link = .disconnected) :
      Steps s .sessionBegins { s with link := .restoring }
  | resubscribed {subId : Nat} (hlink : s.link = .restoring) :
      Steps s (.resubscribed subId) { s with link := .resubscribed, registered := some subId }
  | commits {subId : Nat} (hlink : s.link = .resubscribed)
      (hregistered : s.registered = some subId) :
      Steps s .commits (s.commits subId)
  | restoreEnds {kept : Bool} (hlink : s.link = .restoring ∨ s.link = .resubscribed) :
      Steps s (.restoreEnds kept)
        { s with link := .restored, registered := if kept then s.registered else none }
  | reconnected (hlink : s.link = .restored) :
      Steps s .reconnected { s with link := .reconnected }.listen
  | authenticated : Steps s .authenticated { s with link := .ready }
  | unsubscribed (hdetached : s.attached = false) :
      Steps s .unsubscribed { s with entry := none, registered := none }

/-- **`step` has these outcomes.** -/
theorem steps_of_step {s s' : Loop} {e : Event} (hs : s.step e = some s') : Steps s e s' := by
  cases e with
  | next =>
      simp only [step] at hs
      split at hs
      · exact Option.some.inj hs ▸ .starts ‹_›
      · exact Option.some.inj hs ▸ .goesOn ‹_›
      · exact Option.some.inj hs ▸ .waits ‹_›
      · cases hs
  | leave =>
      simp only [step] at hs
      split at hs
      · exact Option.some.inj hs ▸ .neverStarts ‹_›
      · exact Option.some.inj hs ▸ .leaves ‹_›
      · cases hs
  | continues =>
      simp only [step] at hs
      split at hs
      · exact Option.some.inj hs ▸ .subscribes ‹_›
      · exact Option.some.inj hs ▸ .handsOut ‹_›
      · exact Option.some.inj hs ▸ .resumes ‹_›
      · cases hs
  | answered answer =>
      obtain ⟨⟨hphase, hlink, -, hrequests⟩, heq⟩ := Option.ite_none_right_eq_some.mp hs
      exact Option.some.inj heq ▸ .answered hphase hlink hrequests
  | subscribed | subscribeFails | requestFails | taskSettles | attemptFails | givesUp
  | sessionBegins | resubscribed | reconnected | authenticated | unsubscribed =>
      obtain ⟨hguard, heq⟩ := Option.ite_none_right_eq_some.mp hs
      obtain rfl := Option.some.inj heq
      constructor <;> simp only [hguard]
  | abort =>
      obtain ⟨-, heq⟩ := Option.ite_none_left_eq_some.mp hs
      exact Option.some.inj heq ▸ .abort
  | notify =>
      obtain ⟨subId, hregistered, rfl⟩ := Option.map_eq_some_iff.mp hs
      exact .notify hregistered
  | dispatchOther => exact Option.some.inj hs ▸ .dispatchOther
  | taskCalled =>
      simp only [step] at hs
      split at hs
      · cases hs
      · exact Option.some.inj hs ▸ .wakes ‹_›
      · exact Option.some.inj hs ▸ .calls ‹_›
  | lost =>
      simp only [step] at hs
      split at hs
      · cases hs
      · cases hs
      · exact Option.some.inj hs ▸ .lost
  | closes => exact Option.some.inj hs ▸ .closes
  | commits =>
      obtain ⟨hlink, heq⟩ := Option.ite_none_right_eq_some.mp hs
      obtain ⟨subId, hregistered, rfl⟩ := Option.map_eq_some_iff.mp heq
      exact .commits hlink hregistered
  | restoreEnds kept =>
      simp only [step] at hs
      split at hs
      · exact Option.some.inj hs ▸ .restoreEnds (Or.inl ‹_›)
      · exact Option.some.inj hs ▸ .restoreEnds (Or.inr ‹_›)
      · cases hs

end Loop

end FitzTs.WakeLoop
