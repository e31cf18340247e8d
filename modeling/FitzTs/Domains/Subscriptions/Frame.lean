import FitzTs.Domains.Subscriptions
/-!
# FitzTs.Domains.Subscriptions.Frame

What the operations leave alone.

`Control` collects the fields that only the connection, the broker and the reconnect
listener write. `Table` is the store without what is inside the state objects:
the two maps, and the pattern and the id of every object.
-/

namespace FitzTs.Subscriptions

/-- An event that is a call of the client, or the continuation of one. -/
def Event.isLocal : Event → Bool
  | .subscribe .. => true
  | .callContinues _ => true
  | .abort _ => true
  | .unsubscribe _ => true
  | .unsubscribeContinues _ => true
  | .flightSettles _ => true
  | _ => false

/-! ### Control -/

/-- The fields that calls of `subscribe` and `unsubscribe` do not write. -/
structure Control where
  restore : Restore
  restoreFailed : Bool
  link : Link
  session : Nat
  registrations : List (String × Nat)
  assigned : List (Nat × Nat × String)
  unsubscribed : List (Nat × Nat × String)
  arrivals : Nat

/-- The part of a store that calls of `subscribe` and `unsubscribe` change only when a
pattern is registered or unregistered. -/
structure Table where
  subscriptionsByPattern : OrderedMap String Nat
  patternsBySubId : OrderedMap Nat String
  stateCount : Nat
  subId : Nat → Nat
  pattern : Nat → String

/-- The table of a store. -/
def Store.table (t : Store) : Table where
  subscriptionsByPattern := t.subscriptionsByPattern
  patternsBySubId := t.patternsBySubId
  stateCount := t.stateCount
  subId := fun s => (t.states s).subId
  pattern := fun s => (t.states s).pattern

namespace Store

variable {t : Store} {s : Nat}

/-- A write that keeps the pattern and the id. -/
theorem table_write {state : SubscriptionState} (hpattern : state.pattern = (t.states s).pattern)
    (hid : state.subId = (t.states s).subId) : (t.write s state).table = t.table := by
  have hstates : ∀ k, ((t.write s state).states k).subId = (t.states k).subId ∧
      ((t.write s state).states k).pattern = (t.states k).pattern := by
    intro k
    -- the other objects are not written
    by_cases hk : k = s
    · subst hk
      simp [write, hpattern, hid]
    · simp [write, Function.update_of_ne hk]
  unfold table
  congr 1
  · exact funext fun k => (hstates k).1
  · exact funext fun k => (hstates k).2

@[simp] theorem table_addHandler (h : Nat) : (t.addHandler s h).table = t.table :=
  table_write rfl rfl

@[simp] theorem table_deleteHandler (h : Nat) : (t.deleteHandler s h).table = t.table :=
  table_write rfl rfl

@[simp] theorem table_setPending (r : Option Nat) : (t.setPending s r).table = t.table :=
  table_write rfl rfl

/-- Unregistering a pattern acts on the table alone. -/
theorem table_unregister {t₁ t₂ : Store} (h : t₁.table = t₂.table) (pattern : String) (s : Nat) :
    (t₁.unregister pattern s).table = (t₂.unregister pattern s).table := by
  unfold table at h
  injection h with hmap hindex hcount hids hpatterns
  have hid : (t₁.states s).subId = (t₂.states s).subId := congrFun hids s
  unfold table unregister
  simp only [hmap, hindex, hcount, hid]
  congr 1

end Store

namespace Client

variable {v : Variant} {c : Client}

/-- The control fields of a client. -/
def control (c : Client) : Control where
  restore := c.restore
  restoreFailed := c.restoreFailed
  link := c.link
  session := c.session
  registrations := c.registrations
  assigned := c.assigned
  unsubscribed := c.unsubscribed
  arrivals := c.arrivals

/-- Neither the control fields nor the table change. -/
structure Same (c c' : Client) : Prop where
  control : c'.control = c.control
  table : c'.store.table = c.store.table

namespace Same

theorem refl : Same c c := ⟨rfl, rfl⟩

/-- What two operations in a row leave alone. -/
theorem trans {c₁ c₂ c₃ : Client} (h₁ : Same c₁ c₂) (h₂ : Same c₂ c₃) : Same c₁ c₃ :=
  ⟨h₂.control.trans h₁.control, h₂.table.trans h₁.table⟩

theorem setHandle (h : Nat) (handle : Handle) : Same c (c.setHandle h handle) := ⟨rfl, rfl⟩

theorem setCall (i : Nat) (phase : CallPhase) : Same c (c.setCall i phase) := ⟨rfl, rfl⟩

theorem setRequest (r : Nat) (request : Request) : Same c (c.setRequest r request) := ⟨rfl, rfl⟩

theorem request (frame : Frame) (restoring : Bool) : Same c (c.request frame restoring) :=
  ⟨rfl, rfl⟩

/-- A write to the store that keeps the table. -/
theorem setStore {t : Store} (h : t.table = c.store.table) : Same c (c.setStore t) := ⟨rfl, h⟩

theorem deleteHandler (s h : Nat) : Same c (c.setStore (c.store.deleteHandler s h)) :=
  setStore (Store.table_deleteHandler h)

/-- `flush` hands out buffered notifications; what it writes is in the handles. -/
theorem flush (subId : Nat) : Same c (c.flush subId) := by
  unfold Client.flush
  split
  · split
    · exact refl
    · exact ⟨rfl, rfl⟩
  · exact refl

/-- The lease client has no buffer. -/
theorem flushIfBuffered (subId : Nat) : Same c (c.flushIfBuffered v subId) := by
  unfold Client.flushIfBuffered
  split
  · exact flush subId
  · exact refl

theorem removeIfBuffered (subId : Nat) : Same c (c.removeIfBuffered v subId) := by
  unfold Client.removeIfBuffered
  split
  · exact ⟨rfl, rfl⟩
  · exact refl

theorem complete (h : Nat) : Same c (c.complete h) := setHandle h _

/-- An UNSUBSCRIBE that has been requested leaves its entry in the table until it is confirmed. -/
theorem unsubscribeWire (pattern : String) (s h : Nat) : Same c (c.unsubscribeWire pattern s h) :=
  ⟨rfl, Store.table_setPending _⟩

/-- A handler that is removed stays in the table with its state object. -/
theorem unsubscribeHandler (pattern : String) (h : Nat) :
    Same c (c.unsubscribeHandler v pattern h) := by
  unfold Client.unsubscribeHandler
  split
  · exact complete h
  · rename_i s _
    split
    · split
      · exact complete h
      · split
        · -- others still use the entry
          exact (deleteHandler s h).trans (complete h)
        · exact unsubscribeWire pattern s h
    · dsimp only
      split
      · exact (deleteHandler s h).trans (complete h)
      · exact (deleteHandler s h).trans (unsubscribeWire pattern s h)

theorem unsubscribe (h : Nat) : Same c (c.unsubscribe v h) := by
  unfold Client.unsubscribe
  dsimp only
  split
  · exact (setHandle h _).trans (unsubscribeHandler _ h)
  · exact refl

theorem clearPending (s r : Nat) : Same c (c.clearPending s r) := by
  unfold Client.clearPending
  split
  · exact setStore (Store.table_setPending _)
  · exact refl

theorem dropLastHandler (s h : Nat) : Same c (c.dropLastHandler v s h) := by
  unfold Client.dropLastHandler
  split
  · exact deleteHandler s h
  · exact refl

/-- A new handle is not in the table yet. -/
theorem createController (pattern : String) (aborted : Bool) :
    Same c (c.createController v pattern aborted) := by
  unfold Client.createController
  dsimp only
  have hnew : Same c { c.setHandle c.nextHandlerId ⟨pattern, true, !aborted, false, none⟩ with
      nextHandlerId := c.nextHandlerId + 1 } := ⟨rfl, rfl⟩
  split
  · exact hnew.trans (unsubscribe _)
  · exact hnew

theorem addHandler (i s subId : Nat) : Same c (c.addHandler v i s subId) := by
  unfold Client.addHandler
  dsimp only
  exact (((createController _ _).trans (setStore (Store.table_addHandler _))).trans
    (flushIfBuffered subId)).trans (setCall i _)

/-- The decision that `subscribe` takes at its turn sends a request or joins an entry. -/
theorem decide (i : Nat) : Same c (c.decide v i) := by
  unfold Client.decide
  dsimp only
  split
  · split
    · exact setCall i _
    · exact addHandler i _ _
  · split
    · exact setCall i _
    · exact ⟨rfl, rfl⟩

theorem beginSubscribe (i : Nat) : Same c (c.beginSubscribe v i) := by
  have hinit : Same c { c with initialized := true } := ⟨rfl, rfl⟩
  exact hinit.trans (decide i)

theorem subscribe (pattern : String) (aborted : Bool) : Same c (c.subscribe v pattern aborted) := by
  unfold Client.subscribe
  dsimp only
  have hnew : Same c { c with
      calls := Function.update c.calls c.callCount ⟨pattern, aborted, .waitingTurn⟩
      callCount := c.callCount + 1 } := ⟨rfl, rfl⟩
  split
  · exact hnew
  · exact hnew.trans (beginSubscribe _)

theorem abort (i : Nat) : Same c (c.abort v i) := by
  unfold Client.abort
  dsimp only
  have hflag : Same c { c with
      calls := Function.update c.calls i { c.calls i with aborted := true } } := ⟨rfl, rfl⟩
  split
  · split
    · exact hflag.trans (unsubscribe _)
    · exact hflag
  · exact hflag

end Same

/-! ### Registering and unregistering -/

/-- The pattern, id and request with which an event puts a new entry into the table. -/
def registering (v : Variant) (c : Client) : Event → Option (String × Nat × Nat)
  | .callContinues i =>
    match (c.calls i).phase with
    | .awaitingFlight r =>
      match (c.requests r).phase, (c.requests r).registered with
      | .subscribed subId, none =>
        if c.entry? (c.calls i).pattern = none then some ((c.calls i).pattern, subId, r) else none
      | _, _ => none
    | _ => none
  | .flightSettles r =>
    match (c.requests r).frame, (c.requests r).phase with
    | .subscribe pattern, .subscribed subId =>
      if v.registersInFlight then some (pattern, subId, r) else none
    | _, _ => none
  | _ => none

/-- Unless the single flight registers, a pattern is registered only where it has no
entry. -/
theorem registering_none {e : Event} {pattern : String} {subId r : Nat}
    (hv : v.registersInFlight = false) (h : c.registering v e = some (pattern, subId, r)) :
    c.entry? pattern = none := by
  unfold registering at h
  split at h
  · split at h
    · split at h
      · obtain ⟨hnone, heq⟩ := Option.ite_none_right_eq_some.mp h
        cases heq
        exact hnone
      · cases h
    · cases h
  · split at h
    · simp [hv] at h
    · cases h
  · cases h

/-- The handlers that are left in state `s` when the UNSUBSCRIBE of handle `h` has been
confirmed. -/
def handlersLeft (v : Variant) (c : Client) (s h : Nat) : List Nat :=
  if v.keepsLastHandler then (c.store.states s).handlers.erase h else (c.store.states s).handlers

/-- The pattern and state that an event takes out of the table. -/
def unregistering (v : Variant) (c : Client) : Event → Option (String × Nat)
  | .unsubscribeContinues h =>
    match (c.handles h).pending with
    | some (s, r) =>
      if (c.requests r).phase = .unsubscribed ∧ c.entry? (c.handles h).pattern = some s ∧
          c.handlersLeft v s h = [] then some ((c.handles h).pattern, s)
      else none
    | none => none
  | _ => none

/-- Only a pattern that has an entry is taken out. -/
theorem unregistering_some {e : Event} {pattern : String} {s : Nat}
    (h : c.unregistering v e = some (pattern, s)) : c.entry? pattern = some s := by
  unfold unregistering at h
  split at h
  · split at h
    · obtain ⟨⟨-, hentry, -⟩, heq⟩ := Option.ite_none_right_eq_some.mp h
      cases heq
      exact hentry
    · cases h
  · cases h

/-- How a call or a continuation changes the table. -/
inductive Local (v : Variant) (c : Client) (e : Event) (c' : Client) : Prop
  | same (hregister : c.registering v e = none) (hunregister : c.unregistering v e = none)
      (hsame : Same c c')
  | registers (pattern : String) (subId r : Nat)
      (hregister : c.registering v e = some (pattern, subId, r))
      (hsame : Same (c.setStore (c.store.register pattern subId)) c')
  | unregisters (pattern : String) (s : Nat)
      (hunregister : c.unregistering v e = some (pattern, s))
      (hsame : Same (c.setStore (c.store.unregister pattern s)) c')

/-- A call that has waited for the flight of another registers its pattern only if there is no
entry yet. -/
theorem flightContinues_local {i r : Nat} (hphase : (c.calls i).phase = .awaitingFlight r) :
    Local v c (.callContinues i) (c.flightContinues v i r) := by
  unfold Client.flightContinues
  split
  · rename_i hsubscribed hregistered
    exact .same (by simp [registering, hphase, hsubscribed, hregistered]) rfl (Same.addHandler ..)
  · rename_i subId hsubscribed hregistered
    unfold Client.addLocalSubscription
    dsimp only
    split
    · rename_i s hs
      exact .same (by simp [registering, hphase, hsubscribed, hregistered, hs]) rfl
        (Same.addHandler ..)
    · rename_i hnone
      -- nobody has made an entry while the flight was under way
      exact .registers _ subId r (by simp [registering, hphase, hsubscribed, hregistered, hnone])
        (Same.addHandler ..)
  · rename_i hother
    refine .same ?_ rfl (Same.setCall ..)
    unfold registering
    simp only [hphase]

/-- A call of `subscribe` that goes on. -/
theorem callContinues_local {i : Nat} {c' : Client} (hs : c.callContinues v i = some c') :
    Local v c (.callContinues i) c' := by
  unfold Client.callContinues at hs
  split at hs
  · rename_i hphase
    obtain ⟨-, ⟨⟩⟩ := Option.ite_none_right_eq_some.mp hs
    exact .same (by simp [registering, hphase]) rfl (Same.beginSubscribe i)
  · rename_i r hphase
    obtain ⟨-, ⟨⟩⟩ := Option.ite_none_right_eq_some.mp hs
    exact .same (by simp [registering, hphase]) rfl (Same.decide i)
  · rename_i r hphase
    obtain ⟨-, ⟨⟩⟩ := Option.ite_none_right_eq_some.mp hs
    exact flightContinues_local hphase
  · cases hs

/-- The single flight registers the pattern itself in the clients that say so. -/
theorem flightSettles_local {r : Nat} {pattern : String}
    (hframe : (c.requests r).frame = .subscribe pattern) :
    Local v c (.flightSettles r) (c.flightSettles v r pattern) := by
  unfold Client.flightSettles
  dsimp only
  split
  · rename_i subId hphase
    split
    · rename_i hkv
      exact .registers pattern subId r (by simp [registering, hframe, hphase, hkv]) ⟨rfl, rfl⟩
    · rename_i hkv
      exact .same (by simp [registering, hframe, hphase, hkv]) rfl ⟨rfl, rfl⟩
  · rename_i hother
    refine .same ?_ rfl ⟨rfl, rfl⟩
    unfold registering
    simp only [hframe]
    split
    · rename_i subId _ hphase
      exact absurd hphase (hother subId)
    · rfl

@[simp] theorem clearPending_requests (s r : Nat) : (c.clearPending s r).requests = c.requests := by
  unfold clearPending
  split <;> rfl

@[simp] theorem clearPending_handles (s r : Nat) : (c.clearPending s r).handles = c.handles := by
  unfold clearPending
  split <;> rfl

/-- The pending UNSUBSCRIBE is no part of the handlers. -/
theorem clearPending_handlers (s r k : Nat) :
    ((c.clearPending s r).store.states k).handlers = (c.store.states k).handlers := by
  unfold clearPending
  split
  · by_cases hk : k = s
    · subst hk
      simp [setStore, Store.setPending, Store.write]
    · simp [setStore, Store.setPending, Store.write, hk]
  · rfl

/-- The last handler goes at the confirmation where the client has kept it until then. -/
theorem dropLastHandler_handlers (s h : Nat) :
    ((c.dropLastHandler v s h).store.states s).handlers = c.handlersLeft v s h := by
  unfold dropLastHandler handlersLeft
  split
  · simp [setStore, Store.deleteHandler, Store.write]
  · rfl

/-- `isCurrentEmptyState` tells whether the entry of a pattern is a given state without
handlers. -/
theorem isCurrentEmptyState_iff {t : Store} {pattern : String} {s : Nat} :
    t.isCurrentEmptyState pattern s = true ↔
      t.subscriptionsByPattern.get? pattern = some s ∧ (t.states s).handlers = [] := by
  simp [Store.isCurrentEmptyState]

/-- The entries are part of the table. -/
theorem Same.entry? {c c' : Client} (h : Same c c') : c'.entry? = c.entry? :=
  congrArg (fun t => OrderedMap.get? (Table.subscriptionsByPattern t)) h.table

/-- A confirmed UNSUBSCRIBE takes the entry out if it is still the one that was left and nobody
has joined it; a refused one only clears the mark. -/
theorem unsubscribeContinues_local {h s r : Nat} (hpending : (c.handles h).pending = some (s, r)) :
    Local v c (.unsubscribeContinues h) (c.unsubscribeContinues v h s r) := by
  have hsame : Same c ((c.clearPending s r).dropLastHandler v s h) :=
    (Same.clearPending s r).trans (Same.dropLastHandler s h)
  unfold Client.unsubscribeContinues
  dsimp only
  rw [clearPending_requests, clearPending_handles]
  split
  · rename_i hconfirmed
    unfold unregisterIfEmpty
    -- the guard reads a state without the mark and the handler, `handlersLeft` the one before
    have hiff : ((c.clearPending s r).dropLastHandler v s h).store.isCurrentEmptyState
        (c.handles h).pattern s = true ↔ c.entry? (c.handles h).pattern = some s ∧
          c.handlersLeft v s h = [] := by
      rw [isCurrentEmptyState_iff, dropLastHandler_handlers]
      unfold handlersLeft
      rw [clearPending_handlers, ← hsame.entry?]
      rfl
    split
    · rename_i hempty
      refine .unregisters (c.handles h).pattern s ?_ ?_
      · simp [unregistering, hpending, hconfirmed, hiff.mp hempty]
      · have htable := Store.table_unregister hsame.table (c.handles h).pattern s
        have hstart : Same (c.setStore (c.store.unregister (c.handles h).pattern s))
            (((c.clearPending s r).dropLastHandler v s h).setStore
              (((c.clearPending s r).dropLastHandler v s h).store.unregister
                (c.handles h).pattern s)) := ⟨hsame.control, htable⟩
        exact (hstart.trans (Same.removeIfBuffered _)).trans (Same.complete h)
    · rename_i hnot
      refine .same rfl ?_ (hsame.trans (Same.complete h))
      -- the entry is another one by now, or somebody has joined it
      simp only [unregistering, hpending]
      exact if_neg fun hall => hnot (hiff.mpr hall.2)
  · rename_i hrefused
    refine .same rfl ?_ ((Same.clearPending s r).trans (Same.setHandle h _))
    simp [unregistering, hpending, hrefused]

/-- **What a call or a continuation does to the table.** -/
theorem step_local {e : Event} {c' : Client} (he : e.isLocal) (hs : c.step v e = some c') :
    Local v c e c' := by
  cases e with
  | subscribe pattern aborted =>
      cases hs
      exact .same rfl rfl (Same.subscribe pattern aborted)
  | callContinues i => exact callContinues_local hs
  | abort i =>
      obtain ⟨-, ⟨⟩⟩ := Option.ite_none_right_eq_some.mp hs
      exact .same rfl rfl (Same.abort i)
  | unsubscribe h =>
      obtain ⟨-, ⟨⟩⟩ := Option.ite_none_right_eq_some.mp hs
      exact .same rfl rfl (Same.unsubscribe h)
  | unsubscribeContinues h =>
      unfold step at hs
      dsimp only at hs
      split at hs
      · rename_i s r hpending
        obtain ⟨-, ⟨⟩⟩ := Option.ite_none_right_eq_some.mp hs
        exact unsubscribeContinues_local hpending
      · cases hs
  | flightSettles r =>
      unfold step at hs
      dsimp only at hs
      split at hs
      · rename_i pattern hframe
        obtain ⟨-, ⟨⟩⟩ := Option.ite_none_right_eq_some.mp hs
        exact flightSettles_local hframe
      · cases hs
  | sent | subscribed | unsubscribed | rejected | notify | lost | connected | restoreBegins
  | restoreContinues | restored => cases he

/-- A call or a continuation does not write the control fields. -/
theorem Local.control {e : Event} {c' : Client} (hmove : Local v c e c') :
    c'.control = c.control := by
  cases hmove with
  | same _ _ hsame => exact hsame.control
  | registers _ _ _ _ hsame => exact hsame.control
  | unregisters _ _ _ hsame => exact hsame.control

@[simp] theorem dispatch_store (s : Nat) (notifications : List Notification) :
    (c.dispatch s notifications).store = c.store := rfl

/-- A notification goes to the handles or to the buffer, and not to the store. -/
theorem notify_store (subId : Nat) : (c.notify v subId).store = c.store := by
  unfold notify
  dsimp only
  split
  · split
    · rfl
    · split <;> rfl
  · rfl

theorem notify_restore (subId : Nat) : (c.notify v subId).restore = c.restore := by
  unfold notify
  dsimp only
  split
  · split
    · rfl
    · split <;> rfl
  · rfl

/-- **What the connection and the broker do** does not touch the store; a new session
makes the listener's call due. -/
theorem step_remote {e : Event} {c' : Client} (he : e.isLocal = false)
    (hbegins : e ≠ .restoreBegins) (hcontinues : e ≠ .restoreContinues)
    (hs : c.step v e = some c') : c'.store = c.store ∧
      (c'.restore = c.restore ∨ c'.restore = .pending ∧ c.restore = .idle) := by
  cases e with
  | sent r =>
      obtain ⟨-, ⟨⟩⟩ := Option.ite_none_right_eq_some.mp hs
      unfold send
      dsimp only
      split <;> exact ⟨rfl, Or.inl rfl⟩
  | subscribed r subId =>
      unfold step at hs
      dsimp only at hs
      split at hs
      · obtain ⟨-, ⟨⟩⟩ := Option.ite_none_right_eq_some.mp hs
        exact ⟨rfl, Or.inl rfl⟩
      · cases hs
  | unsubscribed r =>
      unfold step at hs
      dsimp only at hs
      split at hs
      · obtain ⟨-, ⟨⟩⟩ := Option.ite_none_right_eq_some.mp hs
        exact ⟨rfl, Or.inl rfl⟩
      · cases hs
  | rejected r =>
      obtain ⟨-, ⟨⟩⟩ := Option.ite_none_right_eq_some.mp hs
      exact ⟨rfl, Or.inl rfl⟩
  | notify subId =>
      obtain ⟨-, ⟨⟩⟩ := Option.ite_none_right_eq_some.mp hs
      exact ⟨notify_store subId, Or.inl (notify_restore subId)⟩
  | lost =>
      obtain ⟨-, ⟨⟩⟩ := Option.ite_none_right_eq_some.mp hs
      exact ⟨rfl, Or.inl rfl⟩
  | connected =>
      obtain ⟨⟨-, hidle⟩, ⟨⟩⟩ := Option.ite_none_right_eq_some.mp hs
      exact ⟨rfl, Or.inr ⟨rfl, hidle⟩⟩
  | restored =>
      obtain ⟨-, ⟨⟩⟩ := Option.ite_none_right_eq_some.mp hs
      exact ⟨rfl, Or.inl rfl⟩
  | restoreBegins => exact absurd rfl hbegins
  | restoreContinues => exact absurd rfl hcontinues
  | subscribe | callContinues | abort | unsubscribe | unsubscribeContinues | flightSettles =>
      cases he

end Client

end FitzTs.Subscriptions
