import FitzTs.Lib.Machine
import FitzTs.Lib.OrderedMap
/-!
# FitzTs.Domains.Lease.Inventory

**`observeInventory`**: a view of the leases under a pattern, kept current by
LIST passes that notifications, reconnects, failed subscriptions and a timer ask for.

The observer is a machine whose events are what the connection and the broker do
and the continuations of its asynchronous functions. An `await` ends a step: what
a frame or a timer settles and what the function that awaits it does next are two
events, so that frames of the same chunk may come in between. What needs another
round trip waits for the continuations that are due before it.

The pattern has no other subscriber in this client. A call that rejects leaves no
observer behind, and its run ends there.
-/

namespace FitzTs.Lease.Inventory

/-! ### LIST -/

structure LeaseListCursor where
  snapshotId : Nat
  offset : Nat
  deriving DecidableEq, Repr

structure LeaseListItem where
  route : String
  ownerId : String
  holderIncarnation : Nat
  acquiredAt : String
  expiresInSecs : Nat
  renewals : Nat
  deriving DecidableEq, Repr

structure LeaseListPage where
  items : List LeaseListItem
  nextCursor : Option LeaseListCursor
  deriving DecidableEq, Repr

/-- A page a pass has read, with the session whose broker answered it. -/
structure Answer where
  page : LeaseListPage
  session : Nat
  deriving DecidableEq, Repr

/-- The map `fullRelist` builds of the pages of a pass. -/
def fullRelist (pages : List LeaseListPage) : OrderedMap String LeaseListItem :=
  pages.foldl (fun next page => page.items.foldl (fun next item => next.set item.route item) next) ∅

/-! ### The observer's asynchronous functions -/

/-- What a caller of `requestReconcile` awaits. -/
inductive Awaited
  | pending
  | settled (threw : Bool)
  deriving DecidableEq, Repr

/-- Settle what is awaited. -/
def Awaited.settle (threw : Bool) : Awaited → Awaited
  | .pending => .settled threw
  | .settled threw' => .settled threw'

/-- Where the loop of `requestReconcile` stands. -/
inductive PassPhase
  /-- `fullRelist` waits for its next page. -/
  | fetching
  /-- The last page has come. -/
  | collected
  /-- A page could not be read. -/
  | failed
  /-- The pass was raced and backs off. -/
  | sleeping
  /-- The loop is left; `finally` is due. -/
  | ended (threw : Bool)
  deriving DecidableEq, Repr

/-- `activeReconcile`: the loop and its current pass. -/
structure Reconcile where
  phase : PassPhase
  attempts : Nat
  passSubscriptionGeneration : Nat
  /-- The pages read so far. -/
  answers : List Answer
  /-- How many invalidations had arrived when the pass began. -/
  startedAt : Nat
  /-- The session the pass began in. -/
  session : Nat
  /-- In every state since the pass began and until its last page came, that session
  was the current one and held the subscription. -/
  registered : Bool
  deriving DecidableEq, Repr

/-- The loop before its first pass. -/
def Reconcile.begin : Reconcile := ⟨.ended false, 0, 0, [], 0, 0, false⟩

/-- The pages the pass has read. -/
def Reconcile.pages (p : Reconcile) : List LeaseListPage := p.answers.map Answer.page

/-- The current pass has neither been installed nor given up. -/
def Reconcile.isRunning (p : Reconcile) : Bool :=
  match p.phase with
  | .fetching | .collected | .failed => true
  | .sleeping | .ended _ => false

/-- The `subscribe` of the bootstrap or of a recovery. -/
inductive Subscribing
  /-- It waits out a pending UNSUBSCRIBE. -/
  | waits
  /-- SUBSCRIBE is outstanding. -/
  | requested
  /-- SUBSCRIBE was answered. -/
  | answered
  /-- The handler is registered; the caller is due. -/
  | added
  | failed
  deriving DecidableEq, Repr

/-- The controller of the subscription added last, `subscription` once its
`subscribe` has continued. -/
structure Handle where
  handlerId : Nat
  active : Bool
  terminalFailure : Bool
  /-- `completion` has rejected; `watchSubscriptionCompletion` is due. -/
  rejected : Bool
  deriving DecidableEq, Repr

/-- The pattern's entry of `subscriptionsByRoute`. -/
structure Entry where
  /-- The keys of `handlers`. -/
  handlers : List Nat
  /-- The handler whose UNSUBSCRIBE is outstanding. -/
  pendingUnsubscribe : Option Nat
  deriving DecidableEq, Repr

/-- `activeRecovery`. -/
inductive Recovery
  | subscribing
  | reconciling (result : Awaited)
  | sleeping
  /-- The loop is left; `finally` is due. -/
  | ended
  deriving DecidableEq, Repr

/-- `observeInventory` itself. -/
inductive Stage
  | subscribing
  | bootstrapping (result : Awaited)
  | returned
  | threw
  deriving DecidableEq, Repr

/-- The timer of `scheduleReconcile`. -/
inductive Timer
  | off
  | armed
  /-- It has fired and its callback reconciles. -/
  | reconciling (result : Awaited)
  deriving DecidableEq, Repr

/-- The connection, and how far its reconnect listeners have been called. -/
inductive Link
  | disconnected
  /-- A session is up; the domain's restore listener runs. -/
  | restoring
  /-- The restore listener has returned. -/
  | restored
  /-- The observer's listener has been called, if there is one. -/
  | reconnected
  /-- Authenticated: ordinary requests are sent. -/
  | ready
  deriving DecidableEq, Repr

/-- A view as it was installed. -/
structure Install where
  view : OrderedMap String LeaseListItem
  /-- The pass it was collected by. -/
  pass : Reconcile
  /-- How many invalidations had arrived by then. -/
  arrived : Nat

structure Observer where
  /-- The views installed, newest first; each made the observer ready. -/
  installs : List Install
  ready : Bool
  subscriptionReady : Bool
  subscriptionGeneration : Nat
  reconcileRequested : Bool
  activeReconcile : Option Reconcile
  closed : Bool
  aborted : Bool
  reconcileTimer : Timer
  activeRecovery : Option Recovery
  stage : Stage
  subscribing : Option Subscribing
  subscription : Handle
  nextHandlerId : Nat
  /-- The reconnect listener is installed. -/
  listening : Bool
  /-- The reconnect listener's call. -/
  listener : Option Awaited
  entry : Option Entry
  /-- UNSUBSCRIBEs outstanding for an entry that a restore has replaced. -/
  staleUnsubscribes : Nat
  link : Link
  session : Nat
  /-- The current session holds the pattern's registration, under the id the client has. -/
  registered : Bool
  /-- How many invalidations have arrived: notifications, reconnects, suspected gaps. -/
  invalidations : Nat

namespace Observer

/-- `observeInventory(pattern, options)` sends its SUBSCRIBE. -/
def create : Observer where
  installs := []
  ready := false
  subscriptionReady := false
  subscriptionGeneration := 0
  reconcileRequested := true
  activeReconcile := none
  closed := false
  aborted := false
  reconcileTimer := .off
  activeRecovery := none
  stage := .subscribing
  subscribing := some .requested
  subscription := ⟨0, false, false, false⟩
  nextHandlerId := 1
  listening := false
  listener := none
  entry := none
  staleUnsubscribes := 0
  link := .disconnected
  session := 0
  registered := false
  invalidations := 0

/-- `view`. -/
def view (s : Observer) : OrderedMap String LeaseListItem :=
  match s.installs with
  | [] => ∅
  | install :: _ => install.view

/-- How many invalidations had arrived when the pass of the current view began. -/
def viewStartedAt (s : Observer) : Nat :=
  match s.installs with
  | [] => 0
  | install :: _ => install.pass.startedAt

/-! ### `requestReconcile` -/

/-- The head of the loop: the next pass begins, or the loop is left. -/
def loop (s : Observer) (p : Reconcile) : Observer :=
  if s.reconcileRequested && !s.closed && s.subscriptionReady && !s.aborted then
    { s with
      reconcileRequested := false
      activeReconcile := some
        { phase := .fetching
          attempts := p.attempts + 1
          passSubscriptionGeneration := s.subscriptionGeneration
          answers := []
          startedAt := s.invalidations
          session := s.session
          registered := s.registered } }
  else { s with activeReconcile := some { p with phase := .ended false } }

/-- `reconcileRequested = true`, and `ready = false` when a gap is suspected. -/
def request (s : Observer) (suspectGap : Bool) : Observer :=
  { s with
    reconcileRequested := true
    ready := s.ready && !suspectGap
    invalidations := if suspectGap then s.invalidations + 1 else s.invalidations }

/-- `requestReconcile(suspectGap)` and what its caller awaits. -/
def requestReconcile (s : Observer) (suspectGap : Bool) : Observer × Awaited :=
  if s.aborted then ({ s.request suspectGap with ready := false }, .settled false)
  else if !s.subscriptionReady || s.closed then (s.request suspectGap, .settled false)
  else if s.activeReconcile.isSome then (s.request suspectGap, .pending)
  else ((s.request suspectGap).loop .begin, .pending)

/-- `invalidate()`: a notification has arrived. -/
def invalidate (s : Observer) : Observer :=
  ({ s with invalidations := s.invalidations + 1 }.requestReconcile false).1

/-- The view of a complete pass that nothing raced is installed. -/
def install (s : Observer) (p : Reconcile) : Observer :=
  { s with
    installs := ⟨fullRelist p.pages, p, s.invalidations⟩ :: s.installs
    ready := true
    activeReconcile := some { p with phase := .ended false } }

/-- The loop continues once `fullRelist` has returned or thrown. -/
def passContinues (s : Observer) (p : Reconcile) : Option Observer :=
  match p.phase with
  | .failed => some { s with activeReconcile := some { p with phase := .ended true } }
  | .collected =>
    if s.closed then some { s with activeReconcile := some { p with phase := .ended false } }
    else if !s.subscriptionReady || s.subscriptionGeneration != p.passSubscriptionGeneration then
      some { s with
        reconcileRequested := true
        activeReconcile := some { p with phase := .ended false } }
    else if s.reconcileRequested then
      some { s with activeReconcile := some { p with phase := .sleeping } }
    else some (s.install p)
  | .fetching | .sleeping | .ended _ => none

/-- Everyone who awaits the active pass is told how it went. -/
def settle (s : Observer) (threw : Bool) : Observer :=
  { s with
    stage := match s.stage with
      | .bootstrapping result => .bootstrapping (result.settle threw)
      | stage => stage
    listener := s.listener.map (Awaited.settle threw)
    activeRecovery := s.activeRecovery.map fun
      | .reconciling result => .reconciling (result.settle threw)
      | recovery => recovery
    reconcileTimer := match s.reconcileTimer with
      | .reconciling result => .reconciling (result.settle threw)
      | timer => timer }

/-- The `finally` of the loop: what was requested meanwhile is taken up. -/
def passFinally (s : Observer) (threw : Bool) : Observer :=
  let s := { s with activeReconcile := none }.settle threw
  if s.reconcileRequested && s.subscriptionReady && !s.closed then (s.requestReconcile false).1
  else s

/-! ### The subscription -/

/-- `unsubscribe(route, handlerId)`: the last handler takes a round trip. -/
def unsubscribe (s : Observer) (handlerId : Nat) : Observer :=
  match s.entry with
  | none => s
  | some entry =>
    if handlerId ∉ entry.handlers then s
    else if 1 < entry.handlers.length then
      { s with entry := some { entry with handlers := entry.handlers.erase handlerId } }
    else { s with entry := some { entry with pendingUnsubscribe := some handlerId } }

/-- `subscription.unsubscribe()`, also by the abort of its signal. -/
def unsubscribeHandle (s : Observer) : Observer :=
  if s.subscription.active then
    { s with subscription := { s.subscription with active := false } }.unsubscribe
      s.subscription.handlerId
  else s

/-- `registration.fail(error)`: the dispatcher has refused the notification. -/
def fail (s : Observer) : Observer :=
  if s.subscription.active then
    { s with
      subscription := { s.subscription with
        active := false, terminalFailure := true, rejected := true } }.unsubscribe
      s.subscription.handlerId
  else s

/-- `addLocalSubscription`. The controller of an aborted signal is inactive from the start. -/
def addLocalSubscription (s : Observer) : Observer :=
  { s with
    entry := match s.entry with
      | none => some ⟨[s.nextHandlerId], none⟩
      | some entry => some { entry with handlers := entry.handlers ++ [s.nextHandlerId] }
    subscription := ⟨s.nextHandlerId, !s.aborted, false, false⟩
    nextHandlerId := s.nextHandlerId + 1
    subscribing := some .added }

/-- The loop of `subscribe` looks at the pattern's entry. -/
def subscribe (s : Observer) : Observer :=
  match s.entry with
  | none => { s with subscribing := some .requested }
  | some entry =>
    if entry.pendingUnsubscribe.isSome then { s with subscribing := some .waits }
    else s.addLocalSubscription

/-- UNSUBSCRIBE of the pattern's entry settles: `ok` when it was confirmed,
`processed` when the broker has dropped the registration all the same. -/
def unsubscribeSettles (s : Observer) (entry : Entry) (handlerId : Nat) (ok processed : Bool) :
    Observer :=
  if ok then
    { s with
      entry := if entry.handlers.erase handlerId = [] then none
        else some ⟨entry.handlers.erase handlerId, none⟩
      registered := false }
  else
    { s with
      entry := some { entry with pendingUnsubscribe := none }
      subscription := { s.subscription with
        active := s.subscription.active ||
          (s.subscription.handlerId = handlerId && !s.subscription.terminalFailure) }
      registered := s.registered && !processed }

/-! ### `recoverSubscription` -/

/-- The head of the recovery's loop. -/
def recoveryLoop (s : Observer) : Observer :=
  if s.closed || s.aborted then { s with activeRecovery := some .ended }
  else if s.subscriptionReady then
    { (s.requestReconcile true).1 with
      activeRecovery := some (.reconciling (s.requestReconcile true).2) }
  else { s with activeRecovery := some .subscribing }.subscribe

/-- `recoverSubscription(replaceSubscription)`. -/
def recoverSubscription (s : Observer) (replaceSubscription : Bool) : Observer :=
  if s.closed || s.activeRecovery.isSome then s
  else
    { s with
      ready := false
      subscriptionReady := s.subscriptionReady && !replaceSubscription }.recoveryLoop

/-- The rejection of `completion` is handled. -/
def completionRejected (s : Observer) : Observer :=
  let s := { s with subscription := { s.subscription with rejected := false } }
  if s.closed then s
  else
    { s with
      ready := false
      subscriptionReady := false
      subscriptionGeneration := s.subscriptionGeneration + 1
      reconcileRequested := true
      invalidations := s.invalidations + 1 }.recoverSubscription true

/-- The recovery continues after `requestReconcile(true)`. -/
def recoveryContinues (s : Observer) (threw : Bool) : Observer :=
  if !threw && s.subscriptionReady && s.ready then { s with activeRecovery := some .ended }
  else { s with activeRecovery := some .sleeping }

/-- The new subscription is the observer's. -/
def adopt (s : Observer) : Observer :=
  { s with
    subscribing := none
    subscriptionReady := true
    subscriptionGeneration := s.subscriptionGeneration + 1 }

/-- The bootstrap continues after `subscribe`. -/
def bootstrapSubscribed (s : Observer) (failed : Bool) : Observer :=
  if failed then { s with subscribing := none, stage := .threw }
  else
    { (s.adopt.requestReconcile true).1 with
      stage := .bootstrapping (s.adopt.requestReconcile true).2 }

/-- A recovery continues after `subscribe`. -/
def recoverySubscribed (s : Observer) (failed : Bool) : Observer :=
  if failed then { s with subscribing := none, activeRecovery := some .sleeping }
  else if s.closed || s.aborted then
    { s with subscribing := none, activeRecovery := some .ended }.unsubscribeHandle
  else
    { (s.adopt.requestReconcile true).1 with
      activeRecovery := some (.reconciling (s.adopt.requestReconcile true).2) }

/-! ### Reconnects, the timer, abort and close -/

/-- The observer's reconnect listener is called. -/
def reconnected (s : Observer) : Observer :=
  if s.listening && !s.closed then
    { (s.requestReconcile true).1 with listener := some (s.requestReconcile true).2 }
  else { s with invalidations := s.invalidations + 1 }

/-- The domain's reconnect listener restores the pattern's entry. -/
def restores (s : Observer) (ok : Bool) : Observer :=
  match s.entry with
  | none => s
  | some entry =>
    if ok then
      { s with
        entry := some { entry with pendingUnsubscribe := none }
        staleUnsubscribes :=
          s.staleUnsubscribes + (if entry.pendingUnsubscribe.isSome then 1 else 0)
        registered := true }
    else s

/-- The signal is aborted: the subscription's listener, then `handleObserverAbort`. -/
def abort (s : Observer) : Observer :=
  let s := { s with aborted := true }.unsubscribeHandle
  if s.stage = .returned && !s.closed then
    { s with
      ready := false
      reconcileTimer := if s.reconcileTimer = .armed then .off else s.reconcileTimer }
  else s

/-- `close()`, until its first `await`. -/
def close (s : Observer) : Observer :=
  { s with
    closed := true
    reconcileTimer := if s.reconcileTimer = .armed then .off else s.reconcileTimer
    listening := false }

end Observer

/-! ### The machine -/

inductive Event
  /-- The session is lost. -/
  | disconnects
  /-- A reconnect has opened a session and calls the listeners. -/
  | sessionBegins
  /-- The domain's restore listener returns. -/
  | restores (ok : Bool)
  /-- The observer's reconnect listener is called, if it is installed. -/
  | reconnected
  /-- Every listener has returned: the connection is authenticated. -/
  | authenticated
  /-- `connect()` has opened a session, which calls no listener. -/
  | connects
  /-- A notification of the pattern arrives; `refused` when the dispatcher overflows. -/
  | notify (refused : Bool)
  /-- The handler of a rejected `completion` runs. -/
  | completionRejected
  /-- SUBSCRIBE is confirmed. -/
  | subscribed
  /-- SUBSCRIBE fails. -/
  | subscribeFails
  /-- `subscribe` continues after a pending UNSUBSCRIBE. -/
  | subscribeResumes
  /-- `subscribe` continues after its SUBSCRIBE. -/
  | subscribeAdds
  /-- The caller of `subscribe` continues. -/
  | subscribeContinues
  /-- A page is answered, possibly to a retry of its request. -/
  | pageAnswered (page : LeaseListPage)
  /-- A page fails for good. -/
  | pageFails
  | passContinues
  /-- A raced pass has backed off. -/
  | passWakes
  | passFinally
  | bootstrapContinues
  | listenerContinues
  | recoveryContinues
  | recoveryWakes
  | recoveryFinally
  /-- The timer fires. -/
  | timerFires
  | timerContinues
  | unsubscribeSettles (ok processed : Bool)
  /-- An UNSUBSCRIBE settles whose entry a restore has replaced. -/
  | staleUnsubscribeSettles (processed : Bool)
  | abort
  | close
  /-- `close()` continues once the pass and the recovery are over. -/
  | closeContinues
  deriving DecidableEq, Repr

namespace Observer

/-- A page of the pass is answered in the current session. -/
def answer (s : Observer) (p : Reconcile) (page : LeaseListPage) : Observer :=
  { s with
    activeReconcile := some { p with
      answers := p.answers ++ [⟨page, s.session⟩]
      phase := if page.nextCursor.isSome then .fetching else .collected } }

/-- No continuation is due that comes before anything from the network. -/
def isSettled (s : Observer) : Bool :=
  !s.subscription.rejected && s.subscribing != some .answered && s.subscribing != some .added

/-- What the event does. -/
def act (s : Observer) : Event → Option Observer
  | .disconnects =>
    if s.link != .disconnected then some { s with link := .disconnected, registered := false }
    else none
  | .sessionBegins =>
    if s.link = .disconnected && s.listener.isNone && s.isSettled then
      some { s with link := .restoring, session := s.session + 1, registered := false }
    else none
  | .restores ok =>
    if s.link = .restoring && s.isSettled then some { s.restores ok with link := .restored }
    else none
  | .reconnected =>
    if s.link = .restored && s.isSettled then some { s with link := .reconnected }.reconnected
    else none
  | .authenticated =>
    if s.link = .reconnected && s.listener.isNone then some { s with link := .ready } else none
  | .connects =>
    if s.link = .disconnected && s.isSettled then
      some { s with link := .ready, session := s.session + 1, registered := false }
    else none
  | .notify refused =>
    if s.registered then
      -- an answered SUBSCRIBE whose handler is not added yet hears nothing
      if s.entry.isNone then some s
      else if refused then some s.invalidate.fail else some s.invalidate
    else none
  | .completionRejected =>
    if s.subscription.rejected && s.subscribing != some .added then some s.completionRejected
    else none
  | .subscribed =>
    if s.subscribing = some .requested && s.link = .ready then
      some { s with subscribing := some .answered, registered := true }
    else none
  | .subscribeFails =>
    if s.subscribing = some .requested then some { s with subscribing := some .failed } else none
  | .subscribeResumes =>
    if s.subscribing = some .waits && !s.entry.any (·.pendingUnsubscribe.isSome) then
      some s.subscribe
    else none
  | .subscribeAdds =>
    if s.subscribing = some .answered then some s.addLocalSubscription else none
  | .subscribeContinues =>
    if s.subscribing = some .added || s.subscribing = some .failed then
      if s.stage = .subscribing then
        some (s.bootstrapSubscribed (s.subscribing = some .failed))
      else some (s.recoverySubscribed (s.subscribing = some .failed))
    else none
  | .pageAnswered page =>
    match s.activeReconcile with
    | some p =>
      if p.phase = .fetching && s.link = .ready && !s.aborted then some (s.answer p page) else none
    | none => none
  | .pageFails =>
    match s.activeReconcile with
    | some p =>
      if p.phase = .fetching then
        some { s with activeReconcile := some { p with phase := .failed } }
      else none
    | none => none
  | .passContinues => s.activeReconcile.bind s.passContinues
  | .passWakes =>
    match s.activeReconcile with
    | some p => if p.phase = .sleeping then some (s.loop p) else none
    | none => none
  | .passFinally =>
    match s.activeReconcile.map Reconcile.phase with
    | some (.ended threw) => some (s.passFinally threw)
    | _ => none
  | .bootstrapContinues =>
    match s.stage with
    | .bootstrapping (.settled false) =>
      some { s with stage := .returned, listening := true, reconcileTimer := .armed }
    | .bootstrapping (.settled true) => some { s with stage := .threw }.unsubscribeHandle
    | _ => none
  | .listenerContinues =>
    match s.listener with
    | some (.settled threw) =>
      if threw then some ({ s with listener := none }.recoverSubscription false)
      else some { s with listener := none }
    | _ => none
  | .recoveryContinues =>
    match s.activeRecovery with
    | some (.reconciling (.settled threw)) => some (s.recoveryContinues threw)
    | _ => none
  | .recoveryWakes =>
    if s.activeRecovery = some .sleeping then some s.recoveryLoop else none
  | .recoveryFinally =>
    if s.activeRecovery = some .ended then some { s with activeRecovery := none } else none
  | .timerFires =>
    if s.reconcileTimer = .armed then
      if s.closed || s.aborted then some { s with reconcileTimer := .off }
      else
        some { (s.requestReconcile false).1 with
          reconcileTimer := .reconciling (s.requestReconcile false).2 }
    else none
  | .timerContinues =>
    match s.reconcileTimer with
    | .reconciling (.settled _) =>
      some { s with reconcileTimer := if s.closed then .off else .armed }
    | _ => none
  | .unsubscribeSettles ok processed =>
    match s.entry with
    | some entry =>
      match entry.pendingUnsubscribe with
      | some handlerId =>
        if s.isSettled && (!ok || s.link = .ready) then
          some (s.unsubscribeSettles entry handlerId ok processed)
        else none
      | none => none
    | none => none
  | .staleUnsubscribeSettles processed =>
    if 0 < s.staleUnsubscribes then
      some { s with
        staleUnsubscribes := s.staleUnsubscribes - 1
        registered := s.registered && !processed }
    else none
  | .abort => if s.aborted then none else some s.abort
  | .close => if s.stage = .returned && !s.closed then some s.close else none
  | .closeContinues =>
    if s.closed && s.activeReconcile.isNone && s.activeRecovery.isNone then some s.unsubscribeHandle
    else none

/-- A pass that waits for a page keeps track of whether the subscription is in place. -/
def note (s : Observer) : Observer :=
  match s.activeReconcile with
  | some p =>
    if p.phase = .fetching then
      { s with
        activeReconcile := some { p with
          registered := p.registered && s.registered && s.session = p.session } }
    else s
  | none => s

def step (s : Observer) (e : Event) : Option Observer :=
  if s.stage = .threw then none else (s.act e).map note

/-- The machine of one call. -/
def machine : Machine Observer Event := ⟨create, step⟩

/-! ### What an event can do -/

/-- The outcomes of `act`, each with what holds before it. -/
inductive Acts (s : Observer) : Event → Observer → Prop
  | disconnects : Acts s .disconnects { s with link := .disconnected, registered := false }
  | sessionBegins :
      Acts s .sessionBegins
        { s with link := .restoring, session := s.session + 1, registered := false }
  | restores {ok : Bool} (hsettled : s.isSettled = true) :
      Acts s (.restores ok) { s.restores ok with link := .restored }
  | reconnected (hlink : s.link = .restored) :
      Acts s .reconnected { s with link := .reconnected }.reconnected
  | authenticated (hlink : s.link = .reconnected) : Acts s .authenticated { s with link := .ready }
  | connects (hsettled : s.isSettled = true) :
      Acts s .connects { s with link := .ready, session := s.session + 1, registered := false }
  | unheard {refused : Bool} : Acts s (.notify refused) s
  | refused : Acts s (.notify true) s.invalidate.fail
  | notified : Acts s (.notify false) s.invalidate
  | completionRejected (hadded : s.subscribing ≠ some .added) :
      Acts s .completionRejected s.completionRejected
  | subscribed (hrequested : s.subscribing = some .requested) :
      Acts s .subscribed { s with subscribing := some .answered, registered := true }
  | subscribeFails : Acts s .subscribeFails { s with subscribing := some .failed }
  | subscribeResumes : Acts s .subscribeResumes s.subscribe
  | subscribeAdds (hanswered : s.subscribing = some .answered) :
      Acts s .subscribeAdds s.addLocalSubscription
  | bootstrapSubscribed (hsub : s.subscribing = some .added ∨ s.subscribing = some .failed)
      (hstage : s.stage = .subscribing) :
      Acts s .subscribeContinues (s.bootstrapSubscribed (s.subscribing = some .failed))
  | recoverySubscribed (hsub : s.subscribing = some .added ∨ s.subscribing = some .failed) :
      Acts s .subscribeContinues (s.recoverySubscribed (s.subscribing = some .failed))
  | pageAnswered {p : Reconcile} {page : LeaseListPage} (hp : s.activeReconcile = some p)
      (hphase : p.phase = .fetching) (hlink : s.link = .ready) (haborted : s.aborted = false) :
      Acts s (.pageAnswered page) (s.answer p page)
  | pageFails {p : Reconcile} (hp : s.activeReconcile = some p) :
      Acts s .pageFails { s with activeReconcile := some { p with phase := .failed } }
  | passContinues {p : Reconcile} {s' : Observer} (hp : s.activeReconcile = some p)
      (hs : s.passContinues p = some s') : Acts s .passContinues s'
  | passWakes {p : Reconcile} (hp : s.activeReconcile = some p) (hphase : p.phase = .sleeping) :
      Acts s .passWakes (s.loop p)
  | passFinally {p : Reconcile} {threw : Bool} (hp : s.activeReconcile = some p)
      (hphase : p.phase = .ended threw) : Acts s .passFinally (s.passFinally threw)
  | bootstrapReturns (hstage : s.stage = .bootstrapping (.settled false)) :
      Acts s .bootstrapContinues
        { s with stage := .returned, listening := true, reconcileTimer := .armed }
  | bootstrapThrows : Acts s .bootstrapContinues { s with stage := .threw }.unsubscribeHandle
  | listenerThrows :
      Acts s .listenerContinues ({ s with listener := none }.recoverSubscription false)
  | listenerReturns : Acts s .listenerContinues { s with listener := none }
  | recoveryContinues {threw : Bool} : Acts s .recoveryContinues (s.recoveryContinues threw)
  | recoveryWakes : Acts s .recoveryWakes s.recoveryLoop
  | recoveryFinally : Acts s .recoveryFinally { s with activeRecovery := none }
  | timerStops : Acts s .timerFires { s with reconcileTimer := .off }
  | timerFires :
      Acts s .timerFires
        { (s.requestReconcile false).1 with
          reconcileTimer := .reconciling (s.requestReconcile false).2 }
  | timerContinues :
      Acts s .timerContinues { s with reconcileTimer := if s.closed then .off else .armed }
  | unsubscribeSettles {ok processed : Bool} {entry : Entry} {handlerId : Nat}
      (hentry : s.entry = some entry) (hpending : entry.pendingUnsubscribe = some handlerId)
      (hsettled : s.isSettled = true) :
      Acts s (.unsubscribeSettles ok processed)
        (s.unsubscribeSettles entry handlerId ok processed)
  | staleUnsubscribeSettles {processed : Bool} (hstale : 0 < s.staleUnsubscribes) :
      Acts s (.staleUnsubscribeSettles processed)
        { s with
          staleUnsubscribes := s.staleUnsubscribes - 1
          registered := s.registered && !processed }
  | abort : Acts s .abort s.abort
  | close : Acts s .close s.close
  | closeContinues (hclosed : s.closed = true) : Acts s .closeContinues s.unsubscribeHandle

/-- **`act` has these outcomes.** -/
theorem acts_of_act {s s' : Observer} {e : Event} (hs : s.act e = some s') : Acts s e s' := by
  cases e with
  | disconnects | sessionBegins | authenticated | subscribed | subscribeFails | subscribeResumes
  | subscribeAdds | recoveryWakes | recoveryFinally | staleUnsubscribeSettles =>
      obtain ⟨hguard, heq⟩ := Option.ite_none_right_eq_some.mp hs
      obtain rfl := Option.some.inj heq
      constructor <;> simp_all
  | restores ok | reconnected | connects | completionRejected | close | closeContinues =>
      obtain ⟨hguard, heq⟩ := Option.ite_none_right_eq_some.mp hs
      obtain rfl := Option.some.inj heq
      simp only [Bool.and_eq_true, decide_eq_true_eq, bne_iff_ne, ne_eq] at hguard
      constructor <;> simp_all
  | abort =>
      obtain ⟨-, heq⟩ := Option.ite_none_left_eq_some.mp hs
      exact Option.some.inj heq ▸ .abort
  | notify refused =>
      obtain ⟨-, heq⟩ := Option.ite_none_right_eq_some.mp hs
      split at heq
      · exact Option.some.inj heq ▸ .unheard
      · cases refused with
        | true => exact Option.some.inj heq ▸ .refused
        | false => exact Option.some.inj heq ▸ .notified
  | subscribeContinues =>
      obtain ⟨hsub, heq⟩ := Option.ite_none_right_eq_some.mp hs
      simp only [Bool.or_eq_true, decide_eq_true_eq] at hsub
      split at heq
      · exact Option.some.inj heq ▸ .bootstrapSubscribed hsub ‹_›
      · exact Option.some.inj heq ▸ .recoverySubscribed hsub
  | pageAnswered page =>
      simp only [act] at hs
      split at hs
      · obtain ⟨hopen, heq⟩ := Option.ite_none_right_eq_some.mp hs
        simp only [Bool.and_eq_true, decide_eq_true_eq, Bool.not_eq_true'] at hopen
        exact Option.some.inj heq ▸ .pageAnswered ‹_› hopen.1.1 hopen.1.2 hopen.2
      · cases hs
  | pageFails =>
      simp only [act] at hs
      split at hs
      · obtain ⟨-, heq⟩ := Option.ite_none_right_eq_some.mp hs
        exact Option.some.inj heq ▸ .pageFails ‹_›
      · cases hs
  | passContinues =>
      obtain ⟨p, hp, hs⟩ := Option.bind_eq_some_iff.mp hs
      exact .passContinues hp hs
  | passWakes =>
      simp only [act] at hs
      split at hs
      · obtain ⟨hphase, heq⟩ := Option.ite_none_right_eq_some.mp hs
        exact Option.some.inj heq ▸ .passWakes ‹_› hphase
      · cases hs
  | passFinally =>
      simp only [act] at hs
      split at hs
      · rename_i threw hended
        obtain ⟨p, hp, hphase⟩ := Option.map_eq_some_iff.mp hended
        exact Option.some.inj hs ▸ .passFinally hp hphase
      · cases hs
  | bootstrapContinues =>
      simp only [act] at hs
      split at hs
      · exact Option.some.inj hs ▸ .bootstrapReturns ‹_›
      · exact Option.some.inj hs ▸ .bootstrapThrows
      · cases hs
  | listenerContinues =>
      simp only [act] at hs
      split at hs
      · split at hs
        · exact Option.some.inj hs ▸ .listenerThrows
        · exact Option.some.inj hs ▸ .listenerReturns
      · cases hs
  | recoveryContinues =>
      simp only [act] at hs
      split at hs
      · exact Option.some.inj hs ▸ .recoveryContinues
      · cases hs
  | timerFires =>
      obtain ⟨-, heq⟩ := Option.ite_none_right_eq_some.mp hs
      split at heq
      · exact Option.some.inj heq ▸ .timerStops
      · exact Option.some.inj heq ▸ .timerFires
  | timerContinues =>
      simp only [act] at hs
      split at hs
      · exact Option.some.inj hs ▸ .timerContinues
      · cases hs
  | unsubscribeSettles ok processed =>
      simp only [act] at hs
      split at hs
      · split at hs
        · obtain ⟨hsettled, heq⟩ := Option.ite_none_right_eq_some.mp hs
          simp only [Bool.and_eq_true] at hsettled
          exact Option.some.inj heq ▸ .unsubscribeSettles ‹_› ‹_› hsettled.1
        · cases hs
      · cases hs

end Observer

end FitzTs.Lease.Inventory
