import FitzTs.Domains.Subscriptions.Requests
/-!
# FitzTs.Domains.Subscriptions.Moves

What a call or a continuation does to handlers and handles, for the clients that remove
the last handler at once (kv, stream, queue and schedule).

`step_move` is the inversion of a step; what the later modules prove about handlers is read
off its cases. The aborted calls are left out: their handler joins after the handle has been
disposed of.
-/

namespace FitzTs.Subscriptions

/-- The pending UNSUBSCRIBE of state `s` is over, if it is request `r`. -/
def Store.clearPending (t : Store) (s r : Nat) : Store :=
  if (t.states s).pendingUnsubscribe = some r then t.setPending s none else t

namespace Store

variable {t : Store} {s k : Nat}

/-! ### What the objects hold after a write -/

theorem states_addHandler (h : Nat) : (t.addHandler s h).states k =
    if k = s then { t.states s with handlers := (t.states s).handlers ++ [h] } else t.states k :=
  Function.update_apply ..

theorem states_deleteHandler (h : Nat) : (t.deleteHandler s h).states k =
    if k = s then { t.states s with handlers := (t.states s).handlers.erase h }
    else t.states k :=
  Function.update_apply ..

theorem states_setPending (r : Option Nat) : (t.setPending s r).states k =
    if k = s then { t.states s with pendingUnsubscribe := r } else t.states k :=
  Function.update_apply ..

theorem states_register (pattern : String) (subId : Nat) : (t.register pattern subId).states k =
    if k = t.stateCount then ⟨pattern, subId, [], none⟩ else t.states k :=
  Function.update_apply ..

@[simp] theorem states_unregister (pattern : String) (s' : Nat) :
    (t.unregister pattern s').states = t.states := rfl

@[simp] theorem handlers_setPending (r : Option Nat) :
    ((t.setPending s r).states k).handlers = (t.states k).handlers := by
  rw [states_setPending]
  split
  · rename_i hk
    rw [hk]
  · rfl

@[simp] theorem handlers_clearPending (r : Nat) :
    ((t.clearPending s r).states k).handlers = (t.states k).handlers := by
  unfold clearPending
  split
  · exact handlers_setPending none
  · rfl

/-- Only the request that is over is cleared. -/
theorem pendingUnsubscribe_clearPending (r : Nat) :
    ((t.clearPending s r).states k).pendingUnsubscribe =
      if k = s ∧ (t.states s).pendingUnsubscribe = some r then none
      else (t.states k).pendingUnsubscribe := by
  unfold clearPending
  split
  · rename_i hr
    rw [states_setPending]
    by_cases hk : k = s
    · simp [hk, hr]
    · simp [hk]
  · rename_i hr
    simp [hr]

@[simp] theorem pendingUnsubscribe_addHandler (h : Nat) :
    ((t.addHandler s h).states k).pendingUnsubscribe = (t.states k).pendingUnsubscribe := by
  rw [states_addHandler]
  split
  · rename_i hk
    rw [hk]
  · rfl

@[simp] theorem pendingUnsubscribe_deleteHandler (h : Nat) :
    ((t.deleteHandler s h).states k).pendingUnsubscribe = (t.states k).pendingUnsubscribe := by
  rw [states_deleteHandler]
  split
  · rename_i hk
    rw [hk]
  · rfl

@[simp] theorem table_clearPending (r : Nat) : (t.clearPending s r).table = t.table := by
  unfold clearPending
  split
  · exact table_setPending none
  · rfl

end Store

/-- A handler that joins a state. -/
structure Join where
  pattern : String
  /-- The call's signal is aborted already. -/
  aborted : Bool
  state : Nat
  deriving DecidableEq, Repr

/-- The objects, the handles, and the next handler id. -/
structure Seats where
  store : Store
  handles : Nat → Handle
  nextHandlerId : Nat

/-- A new handler and its handle. -/
def Seats.join (t : Seats) (pattern : String) (s : Nat) : Seats where
  store := t.store.addHandler s t.nextHandlerId
  handles := Function.update t.handles t.nextHandlerId ⟨pattern, true, true, false, none⟩
  nextHandlerId := t.nextHandlerId + 1

/-- The handle of an `unsubscribe` that has fulfilled without a request. -/
def Handle.gone (handle : Handle) : Handle :=
  { handle with active := false, listening := false, completed := true, pending := none }

namespace Client

variable {v : Variant} {c c' : Client} {e : Event}

def seats (c : Client) : Seats := ⟨c.store, c.handles, c.nextHandlerId⟩

/-! ### The events that move handlers -/

/-- The loop of `subscribe` finds an entry that a handler can join. -/
def joinsEntry (c : Client) (pattern : String) (aborted : Bool) : Option Join :=
  match c.entry? pattern with
  | some s =>
    if (c.store.states s).pendingUnsubscribe = none then some ⟨pattern, aborted, s⟩ else none
  | none => none

/-- The handler that joins a state with an event. -/
def joining (v : Variant) (c : Client) : Event → Option Join
  | .subscribe pattern aborted => if v.serializes then none else c.joinsEntry pattern aborted
  | .callContinues i =>
    let call := c.calls i
    match call.phase with
    | .waitingTurn => c.joinsEntry call.pattern call.aborted
    | .awaitingUnsubscribe _ => c.joinsEntry call.pattern call.aborted
    | .awaitingFlight r =>
      match (c.requests r).phase, (c.requests r).registered with
      | .subscribed _, some s => some ⟨call.pattern, call.aborted, s⟩
      | .subscribed _, none =>
        some ⟨call.pattern, call.aborted, ( c.entry? call.pattern).getD c.store.stateCount⟩
      | _, _ => none
    | _ => none
  | _ => none

/-- The handle whose `unsubscribe` runs with an event. -/
def leaving (c : Client) : Event → Option Nat
  | .unsubscribe h => if (c.handles h).active then some h else none
  | .abort i =>
    match (c.calls i).phase with
    | .returned h => if (c.handles h).listening ∧ (c.handles h).active then some h else none
    | _ => none
  | _ => none

/-- What `unsubscribe` does up to its first `await`. -/
inductive Leaves (c : Client) (h : Nat) (c' : Client) : Prop
  /-- There is no entry. -/
  | gone (hentry : c.entry? (c.handles h).pattern = none)
      (hseats : c'.seats =
        { c.seats with handles := Function.update c.handles h (c.handles h).gone })
      (hrequests : c'.requests = c.requests)
  /-- Other handlers are left. -/
  | others (s : Nat) (hentry : c.entry? (c.handles h).pattern = some s)
      (hleft : (c.store.states s).handlers.erase h ≠ [])
      (hseats : c'.seats = ⟨c.store.deleteHandler s h,
        Function.update c.handles h (c.handles h).gone, c.nextHandlerId⟩)
      (hrequests : c'.requests = c.requests)
  /-- It was the last one: UNSUBSCRIBE is requested. -/
  | last (s : Nat) (hentry : c.entry? (c.handles h).pattern = some s)
      (hleft : (c.store.states s).handlers.erase h = [])
      (hseats : c'.seats =
        ⟨(c.store.deleteHandler s h).setPending s (some c.requestCount),
          Function.update c.handles h { c.handles h with
            active := false, listening := false, pending := some (s, c.requestCount) },
          c.nextHandlerId⟩)
      (hrequests : c'.requests = (c.request
        (.unsubscribe (c.handles h).pattern (c.store.states s).subId) false).requests)
      (hcount : c'.requestCount = c.requestCount + 1)

/-- How a call or a continuation moves handlers. -/
inductive Move (v : Variant) (c : Client) (e : Event) (c' : Client) : Prop
  | still (hjoin : c.joining v e = none) (hregister : c.registering v e = none)
      (hleave : c.leaving e = none) (hunregister : c.unregistering v e = none)
      (hseats : c'.seats = c.seats)
  /-- The single flight puts an entry into the table. -/
  | registers (pattern : String) (subId r : Nat) (hv : v.registersInFlight = true)
      (hjoin : c.joining v e = none) (hregister : c.registering v e = some (pattern, subId, r))
      (hseats : c'.seats = { c.seats with store := c.store.register pattern subId })
  | joins (pattern : String) (s : Nat) (hjoin : c.joining v e = some ⟨pattern, false, s⟩)
      (hregister : c.registering v e = none) (hseats : c'.seats = c.seats.join pattern s)
  /-- The handler joins an entry that is put into the table for it. -/
  | enters (pattern : String) (subId r : Nat)
      (hjoin : c.joining v e = some ⟨pattern, false, c.store.stateCount⟩)
      (hregister : c.registering v e = some (pattern, subId, r))
      (hseats : c'.seats = Seats.join { c.seats with store := c.store.register pattern subId }
        pattern c.store.stateCount)
  | leaves (h : Nat) (hjoin : c.joining v e = none) (hregister : c.registering v e = none)
      (hleave : c.leaving e = some h) (hmove : Leaves c h c')
  /-- UNSUBSCRIBE was confirmed, and the entry is cleared. -/
  | clears (h s r : Nat) (hevent : e = .unsubscribeContinues h)
      (hpending : (c.handles h).pending = some (s, r))
      (hphase : (c.requests r).phase = .unsubscribed)
      (hunregister : c.unregistering v e = some ((c.handles h).pattern, s))
      (hseats : c'.seats = ⟨(c.store.clearPending s r).unregister (c.handles h).pattern s,
        Function.update c.handles h { c.handles h with completed := true, pending := none },
        c.nextHandlerId⟩)
  /-- UNSUBSCRIBE was confirmed; there is no entry with this state, or it has handlers. -/
  | keeps (h s r : Nat) (hevent : e = .unsubscribeContinues h)
      (hpending : (c.handles h).pending = some (s, r))
      (hphase : (c.requests r).phase = .unsubscribed) (hunregister : c.unregistering v e = none)
      (hseats : c'.seats = ⟨c.store.clearPending s r,
        Function.update c.handles h { c.handles h with completed := true, pending := none },
        c.nextHandlerId⟩)
  /-- UNSUBSCRIBE failed. -/
  | refused (h s r : Nat) (hevent : e = .unsubscribeContinues h)
      (hpending : (c.handles h).pending = some (s, r))
      (hsettled : (c.requests r).phase.isSettled = true)
      (hphase : (c.requests r).phase ≠ .unsubscribed) (hunregister : c.unregistering v e = none)
      (hseats : c'.seats = ⟨c.store.clearPending s r,
        Function.update c.handles h { c.handles h with active := true, pending := none },
        c.nextHandlerId⟩)

/-! ### The operations -/

theorem flushIfBuffered_seats (subId : Nat) : (c.flushIfBuffered v subId).seats = c.seats := by
  unfold flushIfBuffered flush
  split
  · split
    · split <;> rfl
    · rfl
  · rfl

theorem removeIfBuffered_seats (subId : Nat) : (c.removeIfBuffered v subId).seats = c.seats := by
  unfold removeIfBuffered
  split <;> rfl

/-- A handle that is not aborted takes a seat at the entry. -/
theorem addHandler_seats {i : Nat} (haborted : (c.calls i).aborted = false) (s subId : Nat) :
    (c.addHandler v i s subId).seats = c.seats.join (c.calls i).pattern s := by
  have hset : ∀ (c₁ : Client) (phase : CallPhase), (c₁.setCall i phase).seats = c₁.seats :=
    fun _ _ => rfl
  unfold addHandler
  dsimp only
  rw [hset, flushIfBuffered_seats]
  simp only [createController, haborted, Bool.false_eq_true, if_false, Bool.not_false]
  rfl

/-- The loop of `subscribe` moves handlers only where a handler joins an entry. -/
theorem decide_seats {i : Nat}
    (hjoin : ∀ j ∈ c.joinsEntry (c.calls i).pattern (c.calls i).aborted, j.aborted = false) :
    (c.joinsEntry (c.calls i).pattern (c.calls i).aborted = none ∧
      (c.decide v i).seats = c.seats) ∨
    ∃ s, c.joinsEntry (c.calls i).pattern (c.calls i).aborted =
        some ⟨(c.calls i).pattern, false, s⟩ ∧
      (c.decide v i).seats = c.seats.join (c.calls i).pattern s := by
  cases hentry : c.entry? (c.calls i).pattern with
  | none =>
      refine Or.inl ⟨by simp [joinsEntry, hentry], ?_⟩
      unfold Client.decide
      simp only [hentry]
      split <;> rfl
  | some s =>
      unfold joinsEntry at hjoin ⊢
      unfold Client.decide
      simp only [hentry] at hjoin ⊢
      cases hpending : (c.store.states s).pendingUnsubscribe with
      | some r => exact Or.inl ⟨by simp, rfl⟩
      | none =>
          simp only [hpending, if_true, Option.mem_def, Option.some.injEq, forall_eq'] at hjoin
          exact Or.inr ⟨s, by simp [hjoin], addHandler_seats hjoin s _⟩

/-- The same for an event with which a call runs the loop. -/
theorem decide_move {c₁ : Client} {i : Nat} (hseats : c₁.seats = c.seats)
    (hjoining : c.joining v e = c₁.joinsEntry (c₁.calls i).pattern (c₁.calls i).aborted)
    (hregister : c.registering v e = none) (hleave : c.leaving e = none)
    (hunregister : c.unregistering v e = none)
    (hjoin : ∀ j ∈ c.joining v e, j.aborted = false) : Move v c e (c₁.decide v i) := by
  rw [hjoining] at hjoin
  rcases decide_seats (v := v) hjoin with ⟨hnone, hafter⟩ | ⟨s, hsome, hafter⟩
  · exact .still (hjoining.trans hnone) hregister hleave hunregister (hafter.trans hseats)
  · exact .joins _ s (hjoining.trans hsome) hregister (hafter.trans (by rw [hseats]))

/-- A call that has waited for a flight joins the entry it finds, or the one it makes. -/
theorem flightContinues_move {i r : Nat} (hphase : (c.calls i).phase = .awaitingFlight r)
    (hjoin : ∀ j ∈ c.joining v (.callContinues i), j.aborted = false) :
    Move v c (.callContinues i) (c.flightContinues v i r) := by
  unfold Client.flightContinues
  split
  · -- the flight has made the entry itself
    -- another call has made the entry
    rename_i s hsubscribed hregistered
    have hjoining : c.joining v (.callContinues i) =
        some ⟨(c.calls i).pattern, (c.calls i).aborted, s⟩ := by
      simp [joining, hphase, hsubscribed, hregistered]
    have haborted : (c.calls i).aborted = false := hjoin _ hjoining
    refine .joins _ s ?_ ?_ (addHandler_seats haborted s _)
    · rw [hjoining, haborted]
    · simp [registering, hphase, hsubscribed, hregistered]
  · rename_i subId hsubscribed hregistered
    have hjoining : c.joining v (.callContinues i) = some ⟨(c.calls i).pattern, (c.calls i).aborted,
        ( c.entry? (c.calls i).pattern).getD c.store.stateCount⟩ := by
      simp [joining, hphase, hsubscribed, hregistered]
    have haborted : (c.calls i).aborted = false := hjoin _ hjoining
    rw [haborted] at hjoining
    unfold Client.addLocalSubscription
    dsimp only
    split
    · rename_i s hs
      refine .joins _ s ?_ ?_ (addHandler_seats haborted s _)
      · rw [hjoining, hs]
        rfl
      · simp [registering, hphase, hsubscribed, hregistered, hs]
    · rename_i hnone
      have hafter := addHandler_seats (v := v) (i := i)
        (c := c.setStore (c.store.register (c.calls i).pattern subId)) haborted c.store.stateCount
        subId
      refine .enters (c.calls i).pattern subId r ?_ ?_ hafter
      · rw [hjoining, hnone]
        rfl
      · simp [registering, hphase, hsubscribed, hregistered, hnone]
  · refine .still ?_ ?_ rfl rfl rfl
    · simp only [joining, hphase]
    · simp only [registering, hphase]

/-- The last handle of an entry asks for its UNSUBSCRIBE, any other leaves at once. -/
theorem unsubscribeHandler_leaves (hv : v.keepsLastHandler = false) {c₀ : Client} {h : Nat}
    (hc : c = c₀.setHandle h { c₀.handles h with active := false, listening := false }) :
    Leaves c₀ h (c.unsubscribeHandler v (c₀.handles h).pattern h) := by
  have hhandle : c.handles h = { c₀.handles h with active := false, listening := false } := by
    simp [hc, setHandle]
  have hhandles : ∀ handle, Function.update c.handles h handle =
      Function.update c₀.handles h handle := by
    intro handle
    rw [hc]
    exact Function.update_idem ..
  have hentry : c.entry? = c₀.entry? := by rw [hc]; rfl
  have hstore : c.store = c₀.store := by rw [hc]; rfl
  have hnext : c.nextHandlerId = c₀.nextHandlerId := by rw [hc]; rfl
  have hrequests : c.requests = c₀.requests := by rw [hc]; rfl
  have hcount : c.requestCount = c₀.requestCount := by rw [hc]; rfl
  have hcompletes : ∀ c₁ : Client, c₁.handles = c.handles →
      (c₁.complete h).handles = Function.update c₀.handles h (c₀.handles h).gone := by
    intro c₁ hc₁
    simp only [complete, setHandle, hc₁, hhandle]
    rw [hhandles]
    rfl
  have hleft : ∀ s, ((c.store.deleteHandler s h).states s).handlers =
      (c₀.store.states s).handlers.erase h := by
    intro s
    simp [hstore, Store.deleteHandler, Store.write]
  unfold unsubscribeHandler
  rw [hentry]
  split
  · rename_i hnone
    refine .gone hnone ?_ hrequests
    rw [seats, hcompletes c rfl]
    simp only [complete, setHandle, seats, hstore, hnext]
  · rename_i s hs
    simp only [hv, Bool.false_eq_true, if_false]
    split
    · -- others keep the entry
      rename_i hne
      refine .others s hs (fun hnil => hne ((hleft s).trans hnil)) ?_ hrequests
      rw [seats, hcompletes (c.setStore (c.store.deleteHandler s h)) rfl]
      simp only [complete, setHandle, setStore, hstore, hnext]
    · rename_i hnil
      have hnil : ((c.store.deleteHandler s h).states s).handlers = [] := not_not.mp hnil
      have hid : ((c₀.store.deleteHandler s h).states s).subId = (c₀.store.states s).subId :=
        congrFun (congrArg Table.subId (Store.table_deleteHandler h)) s
      refine .last s hs ((hleft s).symm.trans hnil) ?_ ?_ (congrArg (· + 1) hcount)
      · simp only [seats, unsubscribeWire, setStore, setHandle, request, hstore, hnext, hcount,
          hhandle, hhandles]
      · simp only [unsubscribeWire, setStore, setHandle, request, hstore, hrequests, hcount, hid]
        rw [hc]
        rfl

/-- A handle that is active leaves. -/
theorem unsubscribe_leaves (hv : v.keepsLastHandler = false) {h : Nat}
    (hactive : (c.handles h).active = true) : Leaves c h (c.unsubscribe v h) := by
  unfold Client.unsubscribe
  simp only [hactive, if_true]
  exact unsubscribeHandler_leaves hv rfl

/-- A handle unsubscribes once. -/
theorem unsubscribe_inactive {h : Nat} (hactive : (c.handles h).active = false) :
    c.unsubscribe v h = c := by
  simp [Client.unsubscribe, hactive]

theorem clearPending_store (s r : Nat) : (c.clearPending s r).store = c.store.clearPending s r := by
  unfold clearPending Store.clearPending
  split <;> rfl

/-- The mark of an UNSUBSCRIBE is in the store. -/
theorem clearPending_seats (s r : Nat) :
    (c.clearPending s r).seats = { c.seats with store := c.store.clearPending s r } := by
  unfold clearPending Store.clearPending
  split <;> rfl

/-- The continuation of an `unsubscribe`. -/
theorem unsubscribeContinues_move (hv : v.keepsLastHandler = false) {h s r : Nat}
    (hpending : (c.handles h).pending = some (s, r))
    (hsettled : (c.requests r).phase.isSettled = true) :
    Move v c (.unsubscribeContinues h) (c.unsubscribeContinues v h s r) := by
  unfold Client.unsubscribeContinues
  dsimp only
  rw [clearPending_requests, clearPending_handles]
  split
  · rename_i hphase
    have hdrop : (c.clearPending s r).dropLastHandler v s h = c.clearPending s r := by
      simp [dropLastHandler, hv]
    rw [hdrop]
    have hcomplete : ∀ c₁ : Client, c₁.handles = c.handles → (c₁.complete h).seats = ⟨c₁.store,
        Function.update c.handles h { c.handles h with completed := true, pending := none },
        c₁.nextHandlerId⟩ := by
      intro c₁ hc₁
      simp only [complete, setHandle, seats, hc₁]
    have hiff : (c.clearPending s r).store.isCurrentEmptyState (c.handles h).pattern s = true ↔
        c.entry? (c.handles h).pattern = some s ∧ c.handlersLeft v s h = [] := by
      rw [isCurrentEmptyState_iff, clearPending_handlers, ← Same.entry? (Same.clearPending s r)]
      simp only [handlersLeft, hv, Bool.false_eq_true, if_false]
      rfl
    unfold unregisterIfEmpty
    split
    · rename_i hempty
      refine .clears h s r rfl hpending hphase ?_ ?_
      · simp [unregistering, hpending, hphase, hiff.mp hempty]
      · have hremove := removeIfBuffered_seats (v := v)
          (c := (c.clearPending s r).setStore
            ((c.clearPending s r).store.unregister (c.handles h).pattern s))
          ((c.clearPending s r).store.states s).subId
        rw [seats, seats, Seats.mk.injEq] at hremove
        obtain ⟨hstore, hhandles, hnext⟩ := hremove
        rw [hcomplete _ (hhandles.trans (clearPending_handles s r)), hstore, hnext]
        simp only [setStore, clearPending_store]
        congr 1
        exact congrArg Seats.nextHandlerId (clearPending_seats s r)
    · rename_i hnot
      refine .keeps h s r rfl hpending hphase ?_ ?_
      · simp only [unregistering, hpending]
        exact if_neg fun hall => hnot (hiff.mpr hall.2)
      · rw [hcomplete _ (clearPending_handles s r), clearPending_store]
        congr 1
        exact congrArg Seats.nextHandlerId (clearPending_seats s r)
  · rename_i hphase
    refine .refused h s r rfl hpending hsettled hphase ?_ ?_
    · simp [unregistering, hpending, hphase]
    · simp only [seats, setHandle, clearPending_store, clearPending_handles]
      congr 1
      exact congrArg Seats.nextHandlerId (clearPending_seats s r)

/-- The end of a single flight. -/
theorem flightSettles_move {r : Nat} {pattern : String}
    (hframe : (c.requests r).frame = .subscribe pattern) :
    Move v c (.flightSettles r) (c.flightSettles v r pattern) := by
  unfold Client.flightSettles
  dsimp only
  split
  · rename_i subId hphase
    split
    · rename_i hregisters
      exact .registers pattern subId r hregisters rfl
        (by simp [registering, hframe, hphase, hregisters]) rfl
    · rename_i hregisters
      exact .still rfl (by simp [registering, hframe, hphase, hregisters]) rfl rfl rfl
  · rename_i hother
    refine .still rfl ?_ rfl rfl rfl
    unfold registering
    simp only [hframe]
    split
    · rename_i subId _ hphase
      exact absurd hphase (hother subId)
    · rfl

/-- **How a call or a continuation moves handlers.** -/
theorem step_move (hv : v.keepsLastHandler = false) (he : e.isLocal)
    (hjoin : ∀ j ∈ c.joining v e, j.aborted = false) (hs : c.step v e = some c') :
    Move v c e c' := by
  cases e with
  | subscribe pattern aborted =>
      cases hs
      unfold Client.subscribe
      dsimp only
      split
      · rename_i hserializes
        exact .still (by simp [joining, hserializes]) rfl rfl rfl rfl
      · rename_i hserializes
        have hcall : (Function.update c.calls c.callCount ⟨pattern, aborted, .waitingTurn⟩
            c.callCount) = ⟨pattern, aborted, .waitingTurn⟩ := Function.update_self ..
        refine decide_move rfl ?_ rfl rfl rfl hjoin
        simp only [joining, hserializes, hcall]
        rfl
  | callContinues i =>
      unfold Client.step Client.callContinues at hs
      dsimp only at hs
      split at hs
      · rename_i hphase
        obtain ⟨-, ⟨⟩⟩ := Option.ite_none_right_eq_some.mp hs
        refine decide_move (c := c) rfl ?_ ?_ rfl rfl hjoin
        · simp only [joining, hphase]
          rfl
        · simp only [registering, hphase]
      · rename_i r hphase
        obtain ⟨-, ⟨⟩⟩ := Option.ite_none_right_eq_some.mp hs
        refine decide_move (c := c) rfl ?_ ?_ rfl rfl hjoin
        · simp only [joining, hphase]
        · simp only [registering, hphase]
      · rename_i r hphase
        obtain ⟨-, ⟨⟩⟩ := Option.ite_none_right_eq_some.mp hs
        exact flightContinues_move hphase hjoin
      · cases hs
  | abort i =>
      obtain ⟨-, ⟨⟩⟩ := Option.ite_none_right_eq_some.mp hs
      let flagged : Client := { c with
        calls := Function.update c.calls i { c.calls i with aborted := true } }
      have hphase : (flagged.calls i).phase = (c.calls i).phase := by simp [flagged]
      unfold Client.abort
      dsimp only
      split
      · rename_i h hreturned
        have hreturned : (c.calls i).phase = .returned h := hphase.symm.trans hreturned
        split
        · rename_i hlistening
          cases hactive : (c.handles h).active with
          | true =>
              refine .leaves h rfl rfl ?_ ?_
              · have hlistening : (c.handles h).listening = true := hlistening
                simp [leaving, hreturned, hlistening, hactive]
              · -- the flag plays no part
                cases unsubscribe_leaves (c := flagged) hv hactive with
                | gone hentry hseats hrequests => exact .gone hentry hseats hrequests
                | others s hentry hleft hseats hrequests =>
                    exact .others s hentry hleft hseats hrequests
                | last s hentry hleft hseats hrequests hcount =>
                    exact .last s hentry hleft hseats hrequests hcount
          | false =>
              have hsame : flagged.unsubscribe v h = flagged := unsubscribe_inactive hactive
              refine .still rfl rfl ?_ rfl ((congrArg seats hsame).trans rfl)
              simp [leaving, hreturned, hactive]
        · rename_i hlistening
          refine .still rfl rfl ?_ rfl rfl
          have hlistening : ¬ (c.handles h).listening = true := hlistening
          simp [leaving, hreturned, hlistening]
      · rename_i hother
        refine .still rfl rfl ?_ rfl rfl
        simp only [leaving]
        split
        · rename_i h hreturned
          exact absurd (hphase.trans hreturned) (hother h)
        · rfl
  | unsubscribe h =>
      obtain ⟨-, ⟨⟩⟩ := Option.ite_none_right_eq_some.mp hs
      cases hactive : (c.handles h).active with
      | true => exact .leaves h rfl rfl (by simp [leaving, hactive]) (unsubscribe_leaves hv hactive)
      | false =>
          exact .still rfl rfl (by simp [leaving, hactive]) rfl
            (congrArg seats (unsubscribe_inactive hactive))
  | unsubscribeContinues h =>
      unfold Client.step at hs
      dsimp only at hs
      split at hs
      · rename_i s r hpending
        obtain ⟨hsettled, ⟨⟩⟩ := Option.ite_none_right_eq_some.mp hs
        exact unsubscribeContinues_move hv hpending hsettled
      · cases hs
  | flightSettles r =>
      unfold Client.step at hs
      dsimp only at hs
      split at hs
      · rename_i pattern hframe
        obtain ⟨-, ⟨⟩⟩ := Option.ite_none_right_eq_some.mp hs
        exact flightSettles_move hframe
      · cases hs
  | sent | subscribed | unsubscribed | rejected | notify | lost | connected | restoreBegins
  | restoreContinues | restored => cases he

/-- A handle whose `unsubscribe` runs is active. -/
theorem leaving_active {h : Nat} (hleave : c.leaving e = some h) : (c.handles h).active = true := by
  unfold leaving at hleave
  split at hleave
  · obtain ⟨hactive, ⟨⟩⟩ := Option.ite_none_right_eq_some.mp hleave
    exact hactive
  · split at hleave
    · obtain ⟨⟨-, hactive⟩, ⟨⟩⟩ := Option.ite_none_right_eq_some.mp hleave
      exact hactive
    · cases hleave
  · cases hleave

/-- An entry that is cleared has no handlers. -/
theorem unregistering_empty {pattern : String} {s : Nat} (hv : v.keepsLastHandler = false)
    (h : c.unregistering v e = some (pattern, s)) : (c.store.states s).handlers = [] := by
  unfold unregistering at h
  split at h
  · split at h
    · obtain ⟨⟨-, -, hleft⟩, heq⟩ := Option.ite_none_right_eq_some.mp h
      cases heq
      simpa [handlersLeft, hv] using hleft
    · cases h
  · cases h

/-! ### The other events -/

/-- Neither the handles nor the calls change. -/
structure SameHandles (c c' : Client) : Prop where
  handles : c'.handles = c.handles
  nextHandlerId : c'.nextHandlerId = c.nextHandlerId
  calls : c'.calls = c.calls

theorem SameHandles.flushIfBuffered (subId : Nat) : SameHandles c (c.flushIfBuffered v subId) :=
  ⟨congrArg Seats.handles (flushIfBuffered_seats subId),
    congrArg Seats.nextHandlerId (flushIfBuffered_seats subId),
    congrArg Traffic.calls (flushIfBuffered_traffic subId)⟩

theorem SameHandles.trans {c d e : Client} (h₁ : SameHandles c d) (h₂ : SameHandles d e) :
    SameHandles c e :=
  ⟨h₂.handles.trans h₁.handles, h₂.nextHandlerId.trans h₁.nextHandlerId,
    h₂.calls.trans h₁.calls⟩

theorem resubscribeNext_handles (todo restored : List (String × Nat)) :
    SameHandles c (c.resubscribeNext todo restored) := by
  unfold resubscribeNext
  split <;> exact ⟨rfl, rfl, rfl⟩

theorem rollbackNext_handles (todo : List (String × Nat)) :
    SameHandles c (c.rollbackNext v todo) := by
  unfold rollbackNext
  split
  · dsimp only
    split <;> exact ⟨rfl, rfl, rfl⟩
  · exact ⟨rfl, rfl, rfl⟩

/-- `reindex` writes the store alone. -/
theorem reindex_handles : SameHandles c (c.reindex v) := by
  have fold : ∀ (l : List (String × Nat)) (c₁ : Client), SameHandles c₁
      (l.foldl (fun c e => (c.setStore { c.store with
        patternsBySubId := c.store.patternsBySubId.set (c.store.states e.2).subId e.1
        }).flushIfBuffered v (c.store.states e.2).subId) c₁) := by
    intro l
    induction l with
    | nil => exact fun c₁ => ⟨rfl, rfl, rfl⟩
    | cons e l ih =>
        intro c₁
        rw [List.foldl_cons]
        have hflush : SameHandles c₁ ((c₁.setStore { c₁.store with
            patternsBySubId := c₁.store.patternsBySubId.set (c₁.store.states e.2).subId e.1
            }).flushIfBuffered v (c₁.store.states e.2).subId) :=
          SameHandles.trans (d := c₁.setStore { c₁.store with
            patternsBySubId := c₁.store.patternsBySubId.set (c₁.store.states e.2).subId e.1 })
            ⟨rfl, rfl, rfl⟩ (.flushIfBuffered _)
        exact hflush.trans (ih _)
  unfold reindex
  split
  · exact ⟨rfl, rfl, rfl⟩
  · obtain ⟨hhandles, hnext, hcalls⟩ := fold c.store.subscriptionsByPattern.entries
      (c.setStore { c.store with patternsBySubId := ∅ })
    exact ⟨hhandles, hnext, hcalls⟩

/-- A notification changes no seat. -/
theorem notify_handles (subId : Nat) : SameHandles c (c.notify v subId) := by
  unfold notify
  dsimp only
  split
  · split
    · exact ⟨rfl, rfl, rfl⟩
    · split <;> exact ⟨rfl, rfl, rfl⟩
  · exact ⟨rfl, rfl, rfl⟩

/-- **Only calls and continuations touch handles and calls.** -/
theorem step_handles (he : e.isLocal = false) (hs : c.step v e = some c') : SameHandles c c' := by
  cases e with
  | sent r =>
      obtain ⟨-, ⟨⟩⟩ := Option.ite_none_right_eq_some.mp hs
      unfold send
      dsimp only
      split <;> exact ⟨rfl, rfl, rfl⟩
  | subscribed r subId =>
      unfold step at hs
      dsimp only at hs
      split at hs
      · obtain ⟨-, ⟨⟩⟩ := Option.ite_none_right_eq_some.mp hs
        exact ⟨rfl, rfl, rfl⟩
      · cases hs
  | unsubscribed r =>
      unfold step at hs
      dsimp only at hs
      split at hs
      · obtain ⟨-, ⟨⟩⟩ := Option.ite_none_right_eq_some.mp hs
        exact ⟨rfl, rfl, rfl⟩
      · cases hs
  | rejected r =>
      obtain ⟨-, ⟨⟩⟩ := Option.ite_none_right_eq_some.mp hs
      exact ⟨rfl, rfl, rfl⟩
  | notify subId =>
      obtain ⟨-, ⟨⟩⟩ := Option.ite_none_right_eq_some.mp hs
      exact notify_handles subId
  | lost =>
      obtain ⟨-, ⟨⟩⟩ := Option.ite_none_right_eq_some.mp hs
      exact ⟨rfl, rfl, rfl⟩
  | connected =>
      obtain ⟨-, ⟨⟩⟩ := Option.ite_none_right_eq_some.mp hs
      exact ⟨rfl, rfl, rfl⟩
  | restoreBegins =>
      obtain ⟨-, ⟨⟩⟩ := Option.ite_none_right_eq_some.mp hs
      unfold restoreBegins
      split
      · dsimp only
        split <;> exact ⟨rfl, rfl, rfl⟩
      · exact resubscribeNext_handles _ _
  | restoreContinues =>
      unfold step restoreContinues at hs
      dsimp only at hs
      split at hs
      · rename_i pattern s todo restored r _
        split at hs
        · rename_i subId _
          cases hs
          exact SameHandles.trans (d := c.restoreEntry v pattern s subId) ⟨rfl, rfl, rfl⟩
            (resubscribeNext_handles _ _)
        · cases hs
        · cases hs
        · cases hs
          exact rollbackNext_handles _
      · obtain ⟨-, ⟨⟩⟩ := Option.ite_none_right_eq_some.mp hs
        exact rollbackNext_handles _
      · cases hs
        exact reindex_handles
      · cases hs
  | restored =>
      obtain ⟨-, ⟨⟩⟩ := Option.ite_none_right_eq_some.mp hs
      exact ⟨rfl, rfl, rfl⟩
  | subscribe | callContinues | abort | unsubscribe | unsubscribeContinues | flightSettles =>
      cases he

/-! ### The calls that return -/

end Client

end FitzTs.Subscriptions
