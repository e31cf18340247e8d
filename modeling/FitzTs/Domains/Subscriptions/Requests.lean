import FitzTs.Domains.Subscriptions.Frame
/-!
# FitzTs.Domains.Subscriptions.Requests

The requests of a client: what they ask for, in which session they go out, and who
waits for them.
-/

namespace FitzTs.Subscriptions

/-- The requests, and who waits for a single flight. -/
structure Traffic where
  requests : Nat → Request
  requestCount : Nat
  inFlight : OrderedMap String Nat
  calls : Nat → Call
  callCount : Nat

namespace Client

variable {v : Variant} {c c' : Client}

def traffic (c : Client) : Traffic where
  requests := c.requests
  requestCount := c.requestCount
  inFlight := c.inFlight
  calls := c.calls
  callCount := c.callCount

/-! ### What the operations ask for -/

/-- An operation on handles asks for nothing, or for the UNSUBSCRIBE of an entry. -/
inductive Asks (c c' : Client) : Prop
  | nothing (htraffic : c'.traffic = c.traffic)
  | unsubscribes (pattern : String) (s : Nat) (hentry : c.entry? pattern = some s)
      (htraffic : c'.traffic =
        (c.request (.unsubscribe pattern (c.store.states s).subId) false).traffic)

/-- Buffered notifications are no requests. -/
theorem flushIfBuffered_traffic (subId : Nat) :
    (c.flushIfBuffered v subId).traffic = c.traffic := by
  unfold flushIfBuffered flush
  split
  · split
    · split <;> rfl
    · rfl
  · rfl

theorem flushIfBuffered_store (subId : Nat) : (c.flushIfBuffered v subId).store = c.store := by
  unfold flushIfBuffered flush
  split
  · split
    · split <;> rfl
    · rfl
  · rfl

theorem removeIfBuffered_traffic (subId : Nat) :
    (c.removeIfBuffered v subId).traffic = c.traffic := by
  unfold removeIfBuffered
  split <;> rfl

/-- Only the last handler of an entry asks for an UNSUBSCRIBE. -/
theorem unsubscribeHandler_asks (pattern : String) (h : Nat) :
    Asks c (c.unsubscribeHandler v pattern h) := by
  unfold unsubscribeHandler
  split
  · exact .nothing rfl
  · rename_i s hs
    split
    · split
      · exact .nothing rfl
      · split
        · exact .nothing rfl
        · exact .unsubscribes pattern s hs rfl
    · dsimp only
      split
      · exact .nothing rfl
      · refine .unsubscribes pattern s hs ?_
        have hid : ((c.store.deleteHandler s h).states s).subId = (c.store.states s).subId :=
          congrFun (congrArg Table.subId (Store.table_deleteHandler h)) s
        simp only [unsubscribeWire, setStore, hid]
        rfl

theorem unsubscribe_asks (h : Nat) : Asks c (c.unsubscribe v h) := by
  unfold unsubscribe
  dsimp only
  split
  · cases unsubscribeHandler_asks (v := v) (c := c.setHandle h
        { c.handles h with active := false, listening := false }) (c.handles h).pattern h with
    | nothing htraffic => exact .nothing htraffic
    | unsubscribes pattern s hentry htraffic => exact .unsubscribes pattern s hentry htraffic
  · exact .nothing rfl

/-- A handle whose signal is aborted already unsubscribes at once. -/
theorem createController_asks (pattern : String) (aborted : Bool) :
    Asks c (c.createController v pattern aborted) := by
  unfold createController
  dsimp only
  split
  · cases unsubscribe_asks (v := v) (c := { c.setHandle c.nextHandlerId
        ⟨pattern, true, !aborted, false, none⟩ with nextHandlerId := c.nextHandlerId + 1 })
        c.nextHandlerId with
    | nothing htraffic => exact .nothing htraffic
    | unsubscribes pattern s hentry htraffic => exact .unsubscribes pattern s hentry htraffic
  · exact .nothing rfl

/-- A handler joins: whatever its controller asks for, and the call returns. -/
theorem addHandler_traffic (i s subId : Nat) : ∃ c₁, Asks c c₁ ∧ Same c c₁ ∧
    (c.addHandler v i s subId).traffic = (c₁.setCall i (.returned c.nextHandlerId)).traffic := by
  refine ⟨_, createController_asks (v := v) (c.calls i).pattern (c.calls i).aborted,
    Same.createController _ _, ?_⟩
  unfold addHandler
  dsimp only
  have hflush := flushIfBuffered_traffic (v := v) (c := (c.createController v (c.calls i).pattern
    (c.calls i).aborted).setStore ((c.createController v (c.calls i).pattern
      (c.calls i).aborted).store.addHandler s c.nextHandlerId)) subId
  unfold traffic at hflush
  injection hflush with hrequests hcount hinFlight hcalls hcallCount
  simp only [traffic, setCall, hrequests, hcount, hinFlight, hcalls, hcallCount]
  rfl

/-! ### Who waits for what -/

/-- What holds of the requests after every run. -/
structure Flights (c : Client) : Prop where
  made : ∀ r, (c.requests r).madeIn ≤ c.session
  past : ∀ r, (c.requests r).sentIn ≤ c.session
  /-- What is on the wire went out in this session. -/
  sent : ∀ r, (c.requests r).phase = .sent →
    c.link ≠ .disconnected ∧ (c.requests r).sentIn = c.session
  /-- A request goes out in the session it was made in, or in a later one. -/
  order : ∀ r, (c.requests r).phase ≠ .unsent → (c.requests r).phase ≠ .rejected →
    (c.requests r).madeIn ≤ (c.requests r).sentIn
  /-- The id in an answer was assigned by the session the request went out in. -/
  answered : ∀ r subId, (c.requests r).phase = .subscribed subId → ∃ pattern,
    (c.requests r).frame = .subscribe pattern ∧
      ((c.requests r).sentIn, subId, pattern) ∈ c.assigned
  confirmed : ∀ r, (c.requests r).phase = .unsubscribed → ∃ pattern subId,
    (c.requests r).frame = .unsubscribe pattern subId
  flight : ∀ pattern r, c.inFlight.get? pattern = some r → r < c.requestCount ∧
    (c.requests r).frame = .subscribe pattern ∧ (c.requests r).restoring = false ∧
      (c.requests r).landed = false
  call : ∀ i r, (c.calls i).phase = .awaitingFlight r → r < c.requestCount ∧
    (c.requests r).frame = .subscribe (c.calls i).pattern ∧ (c.requests r).restoring = false
  unmade : ∀ r, c.requestCount ≤ r → (c.requests r).phase = .unsent
  uncalled : ∀ i, c.callCount ≤ i → (c.calls i).phase = .uncalled

/-- Nothing has been asked for yet. -/
theorem flights_create : create.Flights where
  made := fun _ => Nat.le_refl _
  past := fun _ => Nat.le_refl _
  sent := fun _ h => by cases h
  order := fun _ h => absurd rfl h
  answered := fun _ _ h => by cases h
  confirmed := fun _ h => by cases h
  flight := fun _ _ h => by cases h
  call := fun _ _ h => by cases h
  unmade := fun _ _ => rfl
  uncalled := fun _ _ => rfl

/-- Nothing that the requests depend on changes. -/
theorem Flights.of_traffic (h : c.Flights) (htraffic : c'.traffic = c.traffic)
    (hcontrol : c'.control = c.control) : c'.Flights := by
  unfold traffic at htraffic
  injection htraffic with hrequests hcount hinFlight hcalls hcallCount
  have hsession : c'.session = c.session := congrArg Control.session hcontrol
  have hlink : c'.link = c.link := congrArg Control.link hcontrol
  have hassigned : c'.assigned = c.assigned := congrArg Control.assigned hcontrol
  refine ⟨?_, ?_, ?_, ?_, ?_, ?_, ?_, ?_, ?_, ?_⟩
  · rw [hrequests, hsession]
    exact h.made
  · rw [hrequests, hsession]
    exact h.past
  · rw [hrequests, hsession, hlink]
    exact h.sent
  · rw [hrequests]
    exact h.order
  · rw [hrequests, hassigned]
    exact h.answered
  · rw [hrequests]
    exact h.confirmed
  · rw [hrequests, hcount, hinFlight]
    exact h.flight
  · rw [hrequests, hcount, hcalls]
    exact h.call
  · rw [hrequests, hcount]
    exact h.unmade
  · rw [hcalls, hcallCount]
    exact h.uncalled

theorem Flights.setStore (h : c.Flights) (t : Store) : (c.setStore t).Flights :=
  h.of_traffic rfl rfl

/-- A new request. -/
theorem Flights.request (h : c.Flights) (frame : Frame) (restoring : Bool) :
    (c.request frame restoring).Flights := by
  have hget : ∀ r, (c.request frame restoring).requests r =
      if r = c.requestCount then ⟨frame, restoring, .unsent, c.session, c.restore.isUnderWay, 0,
        false, none⟩ else c.requests r := fun r => by
    by_cases hr : r = c.requestCount
    · subst hr
      simp [Client.request]
    · simp [Client.request, hr]
  have hold : ∀ r, r < c.requestCount → (c.request frame restoring).requests r = c.requests r :=
    fun r hr => by rw [hget, if_neg (Nat.ne_of_lt hr)]
  refine ⟨fun r => ?_, fun r => ?_, fun r => ?_, fun r => ?_, fun r subId => ?_, fun r => ?_,
    fun pattern r hr => ?_, fun i r hi => ?_, fun r hr => ?_, h.uncalled⟩
  · rw [hget]
    split
    · exact Nat.le_refl _
    · exact h.made r
  · rw [hget]
    split
    · exact Nat.zero_le _
    · exact h.past r
  · rw [hget]
    split
    · exact nofun
    · exact h.sent r
  · rw [hget]
    split
    · exact fun hne => absurd rfl hne
    · exact h.order r
  · rw [hget]
    split
    · exact nofun
    · exact h.answered r subId
  · rw [hget]
    split
    · exact nofun
    · exact h.confirmed r
  · obtain ⟨hlt, hframe⟩ := h.flight pattern r hr
    exact ⟨Nat.lt_succ_of_lt hlt, by rw [hold r hlt]; exact hframe⟩
  · obtain ⟨hlt, hframe⟩ := h.call i r hi
    exact ⟨Nat.lt_succ_of_lt hlt, by rw [hold r hlt]; exact hframe⟩
  · rw [hget]
    split
    · rfl
    · exact h.unmade r (Nat.le_of_succ_le hr)

/-- One request more, or none. -/
theorem Flights.of_asks (h : c.Flights) (hasks : Asks c c') (hcontrol : c'.control = c.control) :
    c'.Flights := by
  cases hasks with
  | nothing htraffic => exact h.of_traffic htraffic hcontrol
  | unsubscribes pattern s _ htraffic =>
      exact (h.request _ _).of_traffic htraffic hcontrol

/-- A call comes to wait for a single flight of its pattern, or for none. -/
theorem Flights.setCall (h : c.Flights) {i : Nat} (hi : i < c.callCount) {phase : CallPhase}
    (hphase : ∀ r, phase = .awaitingFlight r → r < c.requestCount ∧
      (c.requests r).frame = .subscribe (c.calls i).pattern ∧
        (c.requests r).restoring = false) : (c.setCall i phase).Flights := by
  refine ⟨h.made, h.past, h.sent, h.order, h.answered, h.confirmed, h.flight, fun j r hj => ?_,
    h.unmade, fun j hj => ?_⟩
  · by_cases hji : j = i
    · subst hji
      simp only [Client.setCall, Function.update_self] at hj ⊢
      exact hphase r hj
    · simp only [Client.setCall, Function.update_of_ne hji] at hj ⊢
      exact h.call j r hj
  · have hji : j ≠ i := Nat.ne_of_gt (Nat.lt_of_lt_of_le hi hj)
    simp only [Client.setCall, Function.update_of_ne hji]
    exact h.uncalled j hj

theorem Flights.addHandler (h : c.Flights) {i : Nat} (hi : i < c.callCount) (s subId : Nat) :
    (c.addHandler v i s subId).Flights := by
  obtain ⟨c₁, hasks, hsame, htraffic⟩ := addHandler_traffic (v := v) (c := c) i s subId
  have hcontrol : (c.addHandler v i s subId).control = c₁.control :=
    (Same.addHandler i s subId).control.trans hsame.control.symm
  have hcount : c₁.callCount = c.callCount := by
    cases hasks with
    | nothing htraffic => exact congrArg Traffic.callCount htraffic
    | unsubscribes pattern s _ htraffic => exact congrArg Traffic.callCount htraffic
  have hreturned : (c₁.setCall i (.returned c.nextHandlerId)).Flights :=
    (h.of_asks hasks hsame.control).setCall (hcount ▸ hi) nofun
  exact hreturned.of_traffic htraffic hcontrol

/-- A call that finds no entry joins the flight of its pattern, or starts one. -/
theorem Flights.decide (h : c.Flights) {i : Nat} (hi : i < c.callCount) :
    (c.decide v i).Flights := by
  unfold Client.decide
  dsimp only
  split
  · split
    · -- an entry that is about to go has to be waited for
      exact h.setCall hi nofun
    · exact h.addHandler hi _ _
  · rename_i hnone
    split
    · rename_i r hr
      -- the call joins the flight under way
      obtain ⟨hlt, hframe, hown, -⟩ := h.flight _ r hr
      exact h.setCall hi fun r' heq => (CallPhase.awaitingFlight.inj heq) ▸ ⟨hlt, hframe, hown⟩
    · -- the call starts the single flight
      have hreq := h.request (.subscribe (c.calls i).pattern) false
      have hnew : (c.request (.subscribe (c.calls i).pattern) false).requests c.requestCount =
          ⟨.subscribe (c.calls i).pattern, false, .unsent, c.session, c.restore.isUnderWay, 0,
            false, none⟩ := by simp [Client.request]
      have hflight : Flights { c.request (.subscribe (c.calls i).pattern) false with
          inFlight := c.inFlight.set (c.calls i).pattern c.requestCount } := by
        refine ⟨hreq.made, hreq.past, hreq.sent, hreq.order, hreq.answered, hreq.confirmed,
          fun pattern r hr => ?_, hreq.call, hreq.unmade, hreq.uncalled⟩
        rw [OrderedMap.get?_set] at hr
        split at hr
        · rename_i hpattern
          obtain rfl := Option.some.inj hr
          dsimp only
          rw [hnew, hpattern]
          exact ⟨Nat.lt_succ_self _, rfl, rfl, rfl⟩
        · exact hreq.flight pattern r hr
      refine hflight.setCall hi fun r heq => ?_
      obtain rfl := CallPhase.awaitingFlight.inj heq
      dsimp only
      rw [hnew]
      exact ⟨Nat.lt_succ_self _, rfl, rfl⟩

theorem Flights.beginSubscribe (h : c.Flights) {i : Nat} (hi : i < c.callCount) :
    (c.beginSubscribe v i).Flights := by
  have hinit : Flights { c with initialized := true } :=
    ⟨h.made, h.past, h.sent, h.order, h.answered, h.confirmed, h.flight, h.call, h.unmade,
      h.uncalled⟩
  exact hinit.decide hi

/-- A call of `subscribe` has its number. -/
def called (c : Client) (pattern : String) (aborted : Bool) : Client :=
  { c with
    calls := Function.update c.calls c.callCount ⟨pattern, aborted, .waitingTurn⟩
    callCount := c.callCount + 1 }

theorem Flights.called (h : c.Flights) (pattern : String) (aborted : Bool) :
    (c.called pattern aborted).Flights := by
  refine ⟨h.made, h.past, h.sent, h.order, h.answered, h.confirmed, h.flight, fun j r hj => ?_,
    h.unmade, fun j hj => ?_⟩
  · by_cases hji : j = c.callCount
    · subst hji
      simp [Client.called] at hj
    · simp only [Client.called, Function.update_of_ne hji] at hj ⊢
      exact h.call j r hj
  · have hji : j ≠ c.callCount := Nat.ne_of_gt hj
    simp only [Client.called, Function.update_of_ne hji]
    exact h.uncalled j (Nat.le_of_succ_le hj)

theorem Flights.subscribe (h : c.Flights) (pattern : String) (aborted : Bool) :
    (c.subscribe v pattern aborted).Flights := by
  unfold Client.subscribe
  dsimp only
  split
  · exact h.called pattern aborted
  · exact (h.called pattern aborted).beginSubscribe (Nat.lt_succ_self _)

/-- A signal is noted for its call, and unsubscribes its handle if there is one. -/
theorem Flights.abort (h : c.Flights) (i : Nat) : (c.abort v i).Flights := by
  unfold Client.abort
  dsimp only
  have hflag : Flights { c with
      calls := Function.update c.calls i { c.calls i with aborted := true } } := by
    refine ⟨h.made, h.past, h.sent, h.order, h.answered, h.confirmed, h.flight, fun j r hj => ?_,
      h.unmade, fun j hj => ?_⟩
    · by_cases hji : j = i
      · subst hji
        simp only [Function.update_self] at hj ⊢
        exact h.call j r hj
      · simp only [Function.update_of_ne hji] at hj ⊢
        exact h.call j r hj
    · by_cases hji : j = i
      · subst hji
        simp only [Function.update_self]
        exact h.uncalled j hj
      · simp only [Function.update_of_ne hji]
        exact h.uncalled j hj
  split
  · split
    · exact hflag.of_asks (unsubscribe_asks _) (Same.unsubscribe _).control
    · exact hflag
  · exact hflag

/-- A request changes: what is known of it is what is known of the new one. -/
theorem Flights.setRequest (h : c.Flights) (r : Nat) {request : Request}
    (hlt : r < c.requestCount) (hframe : request.frame = (c.requests r).frame)
    (hown : request.restoring = (c.requests r).restoring)
    (hlanded : (∃ pattern, c.inFlight.get? pattern = some r) →
      request.landed = (c.requests r).landed)
    (hmade : request.madeIn ≤ c.session)
    (hpast : request.sentIn ≤ c.session)
    (hsent : request.phase = .sent → c.link ≠ .disconnected ∧ request.sentIn = c.session)
    (horder : request.phase ≠ .unsent → request.phase ≠ .rejected →
      request.madeIn ≤ request.sentIn)
    (hanswered : ∀ subId, request.phase = .subscribed subId → ∃ pattern,
      request.frame = .subscribe pattern ∧ (request.sentIn, subId, pattern) ∈ c.assigned)
    (hconfirmed : request.phase = .unsubscribed → ∃ pattern subId,
      request.frame = .unsubscribe pattern subId) : (c.setRequest r request).Flights := by
  have hget : ∀ k, (c.setRequest r request).requests k =
      if k = r then request else c.requests k := fun k => by
    by_cases hk : k = r
    · subst hk
      simp [Client.setRequest]
    · simp [Client.setRequest, hk]
  have hframes : ∀ k, ((c.setRequest r request).requests k).frame = (c.requests k).frame ∧
      ((c.setRequest r request).requests k).restoring = (c.requests k).restoring :=
    fun k => by
      rw [hget]
      split
      · rename_i hk
        rw [hk, hframe, hown]
        exact ⟨rfl, rfl⟩
      · exact ⟨rfl, rfl⟩
  refine ⟨fun k => ?_, fun k => ?_, fun k => ?_, fun k => ?_, fun k subId => ?_, fun k => ?_,
    fun pattern k hk => ?_, fun i k hk => ?_, fun k hk => ?_, h.uncalled⟩
  · rw [hget]
    split
    · exact hmade
    · exact h.made k
  · rw [hget]
    split
    · exact hpast
    · exact h.past k
  · rw [hget]
    split
    · exact hsent
    · exact h.sent k
  · rw [hget]
    split
    · exact horder
    · exact h.order k
  · rw [hget]
    split
    · exact hanswered subId
    · exact h.answered k subId
  · rw [hget]
    split
    · exact hconfirmed
    · exact h.confirmed k
  · -- the request in flight may be the one that changes
    obtain ⟨hin, hsame, hby, hopen⟩ := h.flight pattern k hk
    refine ⟨hin, (hframes k).1.trans hsame, (hframes k).2.trans hby, ?_⟩
    rw [hget]
    split
    · rename_i hkr
      subst hkr
      exact (hlanded ⟨pattern, hk⟩).trans hopen
    · exact hopen
  · rw [(hframes k).1, (hframes k).2]
    exact h.call i k hk
  · have hkr : k ≠ r := Nat.ne_of_gt (Nat.lt_of_lt_of_le hlt hk)
    rw [hget, if_neg hkr]
    exact h.unmade k hk

/-- The flight of a pattern ends with its request. -/
theorem Flights.flightSettles (h : c.Flights) {r : Nat} {pattern : String}
    (hlt : r < c.requestCount) (hframe : (c.requests r).frame = .subscribe pattern) :
    (c.flightSettles v r pattern).Flights := by
  have hdelete : Flights { c with inFlight := c.inFlight.delete pattern } := by
    refine ⟨h.made, h.past, h.sent, h.order, h.answered, h.confirmed, fun q k hk => ?_, h.call,
      h.unmade, h.uncalled⟩
    rw [OrderedMap.get?_delete] at hk
    split at hk
    · cases hk
    · exact h.flight q k hk
  -- the key of the flight is free again
  have hfree : ¬ ∃ q, (c.inFlight.delete pattern).get? q = some r := by
    rintro ⟨q, hq⟩
    rw [OrderedMap.get?_delete] at hq
    split at hq
    · cases hq
    · rename_i hne
      exact hne (Frame.subscribe.inj ((h.flight q r hq).2.1.symm.trans hframe))
  unfold Client.flightSettles
  dsimp only
  split
  · split
    · exact (hdelete.setStore _).setRequest r hlt rfl rfl (fun hin => absurd hin hfree) (h.made r)
        (h.past r) (h.sent r) (h.order r) (h.answered r) (h.confirmed r)
    · exact hdelete.setRequest r hlt rfl rfl (fun hin => absurd hin hfree) (h.made r) (h.past r)
        (h.sent r) (h.order r) (h.answered r) (h.confirmed r)
  · exact hdelete.setRequest r hlt rfl rfl (fun hin => absurd hin hfree) (h.made r) (h.past r)
      (h.sent r) (h.order r) (h.answered r) (h.confirmed r)

/-- Who is somewhere in `subscribe` has called it. -/
theorem Flights.lt_callCount (h : c.Flights) {i : Nat} (hi : (c.calls i).phase ≠ .uncalled) :
    i < c.callCount := Nat.lt_of_not_le fun hle => hi (h.uncalled i hle)

theorem Flights.lt_requestCount (h : c.Flights) {r : Nat} (hr : (c.requests r).phase ≠ .unsent) :
    r < c.requestCount := Nat.lt_of_not_le fun hle => hr (h.unmade r hle)

/-- A call goes on when its turn has come, or the flight it waits for has ended. -/
theorem Flights.callContinues (h : c.Flights) {i : Nat} (hs : c.callContinues v i = some c') :
    c'.Flights := by
  unfold Client.callContinues at hs
  split at hs
  · rename_i hphase
    obtain ⟨-, ⟨⟩⟩ := Option.ite_none_right_eq_some.mp hs
    exact h.beginSubscribe (h.lt_callCount (by simp [hphase]))
  · rename_i hphase
    obtain ⟨-, ⟨⟩⟩ := Option.ite_none_right_eq_some.mp hs
    exact h.decide (h.lt_callCount (by simp [hphase]))
  · rename_i hphase
    have hi : i < c.callCount := h.lt_callCount (by simp [hphase])
    obtain ⟨-, ⟨⟩⟩ := Option.ite_none_right_eq_some.mp hs
    unfold Client.flightContinues
    split
    · exact h.addHandler hi _ _
    · unfold Client.addLocalSubscription
      dsimp only
      split
      · exact h.addHandler hi _ _
      · exact (h.setStore (c.store.register _ _)).addHandler hi _ _
    · exact h.setCall hi nofun
  · cases hs

theorem clearPending_traffic (s r : Nat) : (c.clearPending s r).traffic = c.traffic := by
  unfold clearPending
  split <;> rfl

theorem dropLastHandler_traffic (s h : Nat) : (c.dropLastHandler v s h).traffic = c.traffic := by
  unfold dropLastHandler
  split <;> rfl

theorem unregisterIfEmpty_traffic (pattern : String) (s : Nat) :
    (c.unregisterIfEmpty v pattern s).traffic = c.traffic := by
  unfold unregisterIfEmpty
  split
  · exact removeIfBuffered_traffic _
  · rfl

theorem unsubscribeContinues_traffic (h s r : Nat) :
    (c.unsubscribeContinues v h s r).traffic = c.traffic := by
  have hclear := clearPending_traffic (c := c) s r
  unfold unsubscribeContinues
  dsimp only
  split
  · exact ((unregisterIfEmpty_traffic _ _).trans (dropLastHandler_traffic _ _)).trans hclear
  · exact hclear

/-- A request is sent once. -/
theorem Flights.send (h : c.Flights) {r : Nat} (hsend : c.mayBeSent r = true) :
    (c.send r).Flights := by
  have hlink : c.link ≠ .disconnected := by
    intro hdown
    unfold mayBeSent at hsend
    simp [hdown] at hsend
  have hlt : r < c.requestCount := by
    unfold mayBeSent at hsend
    simp only [Bool.and_eq_true, decide_eq_true_eq] at hsend
    exact hsend.1.1
  have hset : (c.setRequest r { c.requests r with phase := .sent, sentIn := c.session }).Flights :=
    h.setRequest r hlt rfl rfl (fun _ => rfl) (h.made r) (Nat.le_refl _) (fun _ => ⟨hlink, rfl⟩)
      (fun _ _ => h.made r) nofun nofun
  unfold Client.send
  dsimp only
  split
  · exact ⟨hset.made, hset.past, hset.sent, hset.order, hset.answered, hset.confirmed,
      hset.flight, hset.call, hset.unmade, hset.uncalled⟩
  · exact hset

theorem Flights.brokerSubscribes (h : c.Flights) {r subId : Nat} {pattern : String}
    (hframe : (c.requests r).frame = .subscribe pattern) (hsent : (c.requests r).phase = .sent) :
    (c.brokerSubscribes r subId pattern).Flights := by
  have hassigned : Flights { c with
      registrations := c.registrations ++ [(pattern, subId)]
      assigned := c.assigned ++ [(c.session, subId, pattern)] } := by
    refine ⟨h.made, h.past, h.sent, h.order, fun k id hk => ?_, h.confirmed, h.flight, h.call,
      h.unmade, h.uncalled⟩
    obtain ⟨q, hq, hmem⟩ := h.answered k id hk
    exact ⟨q, hq, List.mem_append_left _ hmem⟩
  refine hassigned.setRequest (c := { c with
      registrations := c.registrations ++ [(pattern, subId)]
      assigned := c.assigned ++ [(c.session, subId, pattern)] }) r
    (h.lt_requestCount (by simp [hsent])) rfl rfl (fun _ => rfl) (h.made r) (h.past r) nofun
    (fun _ _ => h.order r (by simp [hsent]) (by simp [hsent])) (fun id heq => ?_) nofun
  obtain rfl := RequestPhase.subscribed.inj heq
  exact ⟨pattern, hframe, List.mem_append_right _ (by simp [(h.sent r hsent).2])⟩

theorem Flights.brokerUnsubscribes (h : c.Flights) {r subId : Nat} {pattern : String}
    (hframe : (c.requests r).frame = .unsubscribe pattern subId)
    (hsent : (c.requests r).phase = .sent) :
    (c.brokerUnsubscribes v r subId pattern).Flights := by
  have hset : (c.setRequest r { c.requests r with phase := .unsubscribed }).Flights :=
    h.setRequest r (h.lt_requestCount (by simp [hsent])) rfl rfl (fun _ => rfl) (h.made r)
      (h.past r) nofun (fun _ _ => h.order r (by simp [hsent]) (by simp [hsent])) nofun
      (fun _ => ⟨pattern, subId, hframe⟩)
  exact ⟨hset.made, hset.past, hset.sent, hset.order, hset.answered, hset.confirmed, hset.flight,
    hset.call, hset.unmade, hset.uncalled⟩

/-- What has been sent and not answered fails with the connection. -/
theorem Flights.loseConnection (h : c.Flights) : c.loseConnection.Flights := by
  -- a request is rejected or stays as it is
  have hget : ∀ r, c.loseConnection.requests r = c.requests r ∨
      c.loseConnection.requests r = { c.requests r with phase := .rejected } := fun r => by
    unfold Client.loseConnection
    dsimp only
    split
    · exact Or.inr rfl
    · exact Or.inl rfl
  have hframe : ∀ r, (c.loseConnection.requests r).frame = (c.requests r).frame ∧
      (c.loseConnection.requests r).restoring = (c.requests r).restoring ∧
      (c.loseConnection.requests r).landed = (c.requests r).landed := fun r => by
    rcases hget r with heq | heq <;> rw [heq] <;> exact ⟨rfl, rfl, rfl⟩
  refine ⟨fun r => ?_, fun r => ?_, fun r hr => ?_, fun r => ?_, fun r id => ?_, fun r => ?_,
    fun pattern r hr => ?_, fun i r hi => ?_, fun r hr => ?_, h.uncalled⟩
  · rcases hget r with heq | heq <;> rw [heq] <;> exact h.made r
  · rcases hget r with heq | heq <;> rw [heq] <;> exact h.past r
  · unfold Client.loseConnection at hr
    dsimp only at hr
    split at hr
    · cases hr
    · rename_i hnot
      exact absurd hr hnot
  · rcases hget r with heq | heq <;> rw [heq]
    · exact h.order r
    · exact fun _ hne => absurd rfl hne
  · rcases hget r with heq | heq <;> rw [heq]
    · exact h.answered r id
    · exact nofun
  · rcases hget r with heq | heq <;> rw [heq]
    · exact h.confirmed r
    · exact nofun
  · rw [(hframe r).1, (hframe r).2.1, (hframe r).2.2]
    exact h.flight pattern r hr
  · rw [(hframe r).1, (hframe r).2.1]
    exact h.call i r hi
  · have hunsent := h.unmade r hr
    unfold Client.loseConnection
    dsimp only
    rw [if_neg (by simp [hunsent])]
    exact hunsent

/-- What the requests depend on is the same, but for where the listener stands. -/
theorem Flights.of_restore (h : c.Flights) (htraffic : c'.traffic = c.traffic)
    (hlink : c'.link = c.link) (hsession : c'.session = c.session)
    (hassigned : c'.assigned = c.assigned) : c'.Flights := by
  unfold traffic at htraffic
  injection htraffic with hrequests hcount hinFlight hcalls hcallCount
  refine ⟨?_, ?_, ?_, ?_, ?_, ?_, ?_, ?_, ?_, ?_⟩
  · rw [hrequests, hsession]
    exact h.made
  · rw [hrequests, hsession]
    exact h.past
  · rw [hrequests, hsession, hlink]
    exact h.sent
  · rw [hrequests]
    exact h.order
  · rw [hrequests, hassigned]
    exact h.answered
  · rw [hrequests]
    exact h.confirmed
  · rw [hrequests, hcount, hinFlight]
    exact h.flight
  · rw [hrequests, hcount, hcalls]
    exact h.call
  · rw [hrequests, hcount]
    exact h.unmade
  · rw [hcalls, hcallCount]
    exact h.uncalled

/-- The listener asks for the next entry when the one before is answered. -/
theorem Flights.resubscribeNext (h : c.Flights) (todo restored : List (String × Nat)) :
    (c.resubscribeNext todo restored).Flights := by
  unfold Client.resubscribeNext
  split
  · exact (h.request _ true).of_restore rfl rfl rfl rfl
  · exact h.of_restore rfl rfl rfl rfl

theorem Flights.rollbackNext (h : c.Flights) (todo : List (String × Nat)) :
    (c.rollbackNext v todo).Flights := by
  unfold Client.rollbackNext
  split
  · dsimp only
    split
    · exact ((h.setStore _).request _ true).of_restore rfl rfl rfl rfl
    · exact (h.request _ true).of_restore rfl rfl rfl rfl
  · exact h.of_restore rfl rfl rfl rfl

theorem Flights.restoreBegins (h : c.Flights) : (c.restoreBegins v).Flights := by
  unfold Client.restoreBegins
  split
  · dsimp only
    split
    · exact h.of_restore rfl rfl rfl rfl
    · exact h.of_restore rfl rfl rfl rfl
  · exact h.resubscribeNext _ _

/-- The fold of `reindex` writes the index, the buffer and the deliveries. -/
theorem reindex_frame : (c.reindex v).traffic = c.traffic ∧
    (c.reindex v).control = { c.control with restore := .idle } := by
  have fold : ∀ (l : List (String × Nat)) (c₁ : Client),
      (l.foldl (fun c e => (c.setStore { c.store with
        patternsBySubId := c.store.patternsBySubId.set (c.store.states e.2).subId e.1
        }).flushIfBuffered v (c.store.states e.2).subId) c₁).traffic = c₁.traffic ∧
      (l.foldl (fun c e => (c.setStore { c.store with
        patternsBySubId := c.store.patternsBySubId.set (c.store.states e.2).subId e.1
        }).flushIfBuffered v (c.store.states e.2).subId) c₁).control = c₁.control := by
    intro l
    induction l with
    | nil => exact fun c₁ => ⟨rfl, rfl⟩
    | cons e l ih =>
        intro c₁
        rw [List.foldl_cons]
        obtain ⟨htraffic, hcontrol⟩ := ih ((c₁.setStore { c₁.store with
          patternsBySubId := c₁.store.patternsBySubId.set (c₁.store.states e.2).subId e.1
          }).flushIfBuffered v (c₁.store.states e.2).subId)
        exact ⟨htraffic.trans (flushIfBuffered_traffic _),
          hcontrol.trans (Same.flushIfBuffered _).control⟩
  unfold reindex
  split
  · exact ⟨rfl, rfl⟩
  · dsimp only
    obtain ⟨htraffic, hcontrol⟩ := fold c.store.subscriptionsByPattern.entries
      (c.setStore { c.store with patternsBySubId := ∅ })
    refine ⟨htraffic, ?_⟩
    have hset : ∀ c₁ : Client, ({ c₁ with restore := .idle } : Client).control =
        { c₁.control with restore := .idle } := fun _ => rfl
    exact (hset _).trans (congrArg (fun k => { k with restore := .idle }) hcontrol)

/-- The ids of entries lead to their patterns. -/
def indexEntries (t : Store) (entries : List (String × Nat)) (index : OrderedMap Nat String) :
    OrderedMap Nat String :=
  entries.foldl (fun m e => m.set (t.states e.2).subId e.1) index

/-- The index after `reindex`. -/
def newIndex (v : Variant) (c : Client) : OrderedMap Nat String :=
  if v.indexesEachEntry then c.store.patternsBySubId
  else indexEntries c.store c.store.subscriptionsByPattern.entries ∅

/-- `reindex` writes nothing else in the store than the index. -/
theorem reindex_store : (c.reindex v).store = { c.store with patternsBySubId := c.newIndex v } := by
  have fold : ∀ (l : List (String × Nat)) (c₁ : Client),
      (l.foldl (fun c e => (c.setStore { c.store with
        patternsBySubId := c.store.patternsBySubId.set (c.store.states e.2).subId e.1
        }).flushIfBuffered v (c.store.states e.2).subId) c₁).store = { c₁.store with
          patternsBySubId := indexEntries c₁.store l c₁.store.patternsBySubId } := by
    intro l
    induction l with
    | nil => exact fun c₁ => rfl
    | cons e l ih =>
        intro c₁
        rw [List.foldl_cons, ih, flushIfBuffered_store]
        rfl
  unfold reindex newIndex
  split
  · rfl
  · exact fold c.store.subscriptionsByPattern.entries
      (c.setStore { c.store with patternsBySubId := ∅ })

/-- The restore goes on with the next entry, rolls back, or ends. -/
theorem Flights.restoreContinues (h : c.Flights) (hs : c.restoreContinues v = some c') :
    c'.Flights := by
  unfold Client.restoreContinues at hs
  split at hs
  · split at hs
    · cases hs
      exact (h.setStore _).resubscribeNext _ _
    · cases hs
    · cases hs
    · cases hs
      exact h.rollbackNext _
  · obtain ⟨-, ⟨⟩⟩ := Option.ite_none_right_eq_some.mp hs
    exact h.rollbackNext _
  · cases hs
    obtain ⟨htraffic, hcontrol⟩ := reindex_frame (v := v) (c := c)
    exact h.of_restore htraffic (congrArg Control.link hcontrol) (congrArg Control.session hcontrol)
      (congrArg Control.assigned hcontrol)
  · cases hs

theorem notify_frame (subId : Nat) : (c.notify v subId).traffic = c.traffic ∧
    (c.notify v subId).control = { c.control with arrivals := c.arrivals + 1 } := by
  unfold notify
  dsimp only
  split
  · split
    · exact ⟨rfl, rfl⟩
    · split <;> exact ⟨rfl, rfl⟩
  · exact ⟨rfl, rfl⟩

/-- The step lemma. -/
theorem Flights.step (h : c.Flights) {e : Event} (hs : c.step v e = some c') : c'.Flights := by
  cases e with
  | subscribe pattern aborted =>
      cases hs
      exact h.subscribe pattern aborted
  | callContinues i => exact h.callContinues hs
  | abort i =>
      obtain ⟨-, ⟨⟩⟩ := Option.ite_none_right_eq_some.mp hs
      exact h.abort i
  | unsubscribe k =>
      obtain ⟨-, ⟨⟩⟩ := Option.ite_none_right_eq_some.mp hs
      exact h.of_asks (unsubscribe_asks k) (Same.unsubscribe k).control
  | unsubscribeContinues k =>
      unfold Client.step at hs
      dsimp only at hs
      split at hs
      · rename_i s r hpending
        obtain ⟨-, ⟨⟩⟩ := Option.ite_none_right_eq_some.mp hs
        obtain ⟨-, -, hsame⟩ | ⟨_, _, _, -, hsame⟩ | ⟨_, _, -, hsame⟩ :=
          unsubscribeContinues_local (v := v) hpending
        · exact h.of_traffic (unsubscribeContinues_traffic k s r) hsame.control
        · exact h.of_traffic (unsubscribeContinues_traffic k s r) hsame.control
        · exact h.of_traffic (unsubscribeContinues_traffic k s r) hsame.control
      · cases hs
  | flightSettles r =>
      unfold Client.step at hs
      dsimp only at hs
      split at hs
      · rename_i pattern hframe
        obtain ⟨⟨hlt, -⟩, ⟨⟩⟩ := Option.ite_none_right_eq_some.mp hs
        exact h.flightSettles hlt hframe
      · cases hs
  | sent r =>
      obtain ⟨hsend, ⟨⟩⟩ := Option.ite_none_right_eq_some.mp hs
      exact h.send hsend
  | subscribed r subId =>
      unfold Client.step at hs
      dsimp only at hs
      split at hs
      · rename_i pattern hframe
        obtain ⟨hsent, ⟨⟩⟩ := Option.ite_none_right_eq_some.mp hs
        exact h.brokerSubscribes hframe hsent
      · cases hs
  | unsubscribed r =>
      unfold Client.step at hs
      dsimp only at hs
      split at hs
      · rename_i pattern subId hframe
        obtain ⟨hsent, ⟨⟩⟩ := Option.ite_none_right_eq_some.mp hs
        exact h.brokerUnsubscribes hframe hsent
      · cases hs
  | rejected r =>
      obtain ⟨⟨hlt, -⟩, ⟨⟩⟩ := Option.ite_none_right_eq_some.mp hs
      exact h.setRequest r hlt rfl rfl (fun _ => rfl) (h.made r) (h.past r) nofun
        (fun _ hne => absurd rfl hne) nofun nofun
  | notify subId =>
      obtain ⟨-, ⟨⟩⟩ := Option.ite_none_right_eq_some.mp hs
      obtain ⟨htraffic, hcontrol⟩ := notify_frame (v := v) (c := c) subId
      exact h.of_restore htraffic (congrArg Control.link hcontrol)
        (congrArg Control.session hcontrol) (congrArg Control.assigned hcontrol)
  | lost =>
      obtain ⟨-, ⟨⟩⟩ := Option.ite_none_right_eq_some.mp hs
      exact h.loseConnection
  | connected =>
      obtain ⟨⟨hdown, -⟩, ⟨⟩⟩ := Option.ite_none_right_eq_some.mp hs
      exact ⟨fun r => Nat.le_succ_of_le (h.made r), fun r => Nat.le_succ_of_le (h.past r),
        -- nothing is under way in a session that begins
        fun r hr => absurd hdown (h.sent r hr).1,
        h.order, h.answered, h.confirmed, h.flight, h.call, h.unmade, h.uncalled⟩
  | restoreBegins =>
      obtain ⟨-, ⟨⟩⟩ := Option.ite_none_right_eq_some.mp hs
      exact h.restoreBegins
  | restoreContinues => exact h.restoreContinues hs
  | restored =>
      obtain ⟨⟨hlink, -⟩, ⟨⟩⟩ := Option.ite_none_right_eq_some.mp hs
      refine ⟨h.made, h.past, fun r hr => ⟨nofun, (h.sent r hr).2⟩, h.order, h.answered,
        h.confirmed, h.flight, h.call, h.unmade, h.uncalled⟩

/-! ### What a call or a continuation asks for -/

/-- The fields of a request that never change. -/
structure SameRequest (a b : Request) : Prop where
  frame : b.frame = a.frame
  restoring : b.restoring = a.restoring
  madeIn : b.madeIn = a.madeIn
  duringRestore : b.duringRestore = a.duringRestore

theorem SameRequest.refl {a : Request} : SameRequest a a := ⟨rfl, rfl, rfl, rfl⟩

/-- A request that stays as it is, but for the end of its single flight. -/
structure Kept (a b : Request) : Prop extends SameRequest a b where
  phase : b.phase = a.phase
  sentIn : b.sentIn = a.sentIn

theorem Kept.refl {a : Request} : Kept a a := ⟨.refl, rfl, rfl⟩

/-- The requests of `c'` are those of `c` and at most one more, which subscribes, or
unsubscribes an entry of `c'`. -/
structure Extends (c c' : Client) : Prop where
  count : c.requestCount ≤ c'.requestCount
  old : ∀ r, r ≠ c.requestCount → Kept (c.requests r) (c'.requests r)
  new : Kept (c.requests c.requestCount) (c'.requests c.requestCount) ∨
    (c'.requests c.requestCount).restoring = false ∧
      (c'.requests c.requestCount).phase = .unsent ∧
      (c'.requests c.requestCount).madeIn = c.session ∧
      (c'.requests c.requestCount).duringRestore = c.restore.isUnderWay ∧
      ∀ pattern subId, (c'.requests c.requestCount).frame = .unsubscribe pattern subId →
        ∃ s, c'.entry? pattern = some s ∧ (c'.store.states s).subId = subId

theorem Extends.of_requests (hcount : c'.requestCount = c.requestCount)
    (h : ∀ r, Kept (c.requests r) (c'.requests r)) : Extends c c' :=
  ⟨Nat.le_of_eq hcount.symm, fun r _ => h r, Or.inl (h _)⟩

/-- An operation on handles makes at most one request. -/
theorem Extends.of_asks (hasks : Asks c c') (hsame : Same c c') : Extends c c' := by
  cases hasks with
  | nothing htraffic =>
      have hrequests : c'.requests = c.requests := congrArg Traffic.requests htraffic
      exact .of_requests (congrArg Traffic.requestCount htraffic) fun r => by
        rw [hrequests]
        exact .refl
  | unsubscribes pattern s hentry htraffic =>
      have hrequests : c'.requests = _ := congrArg Traffic.requests htraffic
      have hcount : c'.requestCount = c.requestCount + 1 :=
        congrArg Traffic.requestCount htraffic
      refine ⟨hcount ▸ Nat.le_succ _, fun r hr => ?_, Or.inr ?_⟩
      · rw [hrequests]
        simp only [traffic, Client.request, Function.update_of_ne hr]
        exact .refl
      · rw [hrequests]
        simp only [traffic, Client.request, Function.update_self]
        refine ⟨trivial, trivial, trivial, trivial, fun q id heq => ?_⟩
        obtain ⟨rfl, rfl⟩ := Frame.unsubscribe.inj heq
        exact ⟨s, by rw [ hsame.entry?]; exact hentry,
          congrFun (congrArg Table.subId hsame.table) s⟩

theorem Extends.addHandler (i s subId : Nat) : Extends c (c.addHandler v i s subId) := by
  obtain ⟨c₁, hasks, hsame, htraffic⟩ := addHandler_traffic (v := v) (c := c) i s subId
  have hext := Extends.of_asks hasks hsame
  have hrequests : (c.addHandler v i s subId).requests = c₁.requests :=
    congrArg Traffic.requests htraffic
  have hafter : Same c₁ (c.addHandler v i s subId) :=
    ⟨(Same.addHandler i s subId).control.trans hsame.control.symm,
      (Same.addHandler i s subId).table.trans hsame.table.symm⟩
  have hcount : (c.addHandler v i s subId).requestCount = c₁.requestCount :=
    congrArg Traffic.requestCount htraffic
  refine ⟨hcount ▸ hext.count, fun r hr => ?_, ?_⟩
  · rw [hrequests]
    exact hext.old r hr
  · rw [hrequests]
    refine hext.new.imp id fun ⟨hlocal, hunsent, hmade, hduring, hentry⟩ =>
      ⟨hlocal, hunsent, hmade, hduring, fun q id heq => ?_⟩
    obtain ⟨k, hk, hid⟩ := hentry q id heq
    exact ⟨k, by rw [ hafter.entry?]; exact hk,
      (congrFun (congrArg Table.subId hafter.table) k).trans hid⟩

theorem Extends.decide (i : Nat) : Extends c (c.decide v i) := by
  unfold Client.decide
  dsimp only
  split
  · split
    · exact .of_requests rfl fun _ => .refl
    · exact .addHandler i _ _
  · split
    · exact .of_requests rfl fun _ => .refl
    · refine ⟨Nat.le_succ _, fun r hr => ?_, Or.inr ?_⟩
      · simp only [Client.setCall, Client.request, Function.update_of_ne hr]
        exact .refl
      · simp only [Client.setCall, Client.request, Function.update_self]
        exact ⟨trivial, trivial, trivial, trivial, fun _ _ heq => by cases heq⟩

/-- Registering does not touch the requests. -/
theorem Extends.of_setStore {t : Store} (h : Extends (c.setStore t) c') : Extends c c' :=
  ⟨h.count, h.old, h.new⟩

/-- **What a call or a continuation asks for.** -/
theorem step_extends {e : Event} (he : e.isLocal) (hs : c.step v e = some c') : Extends c c' := by
  cases e with
  | subscribe pattern aborted =>
      cases hs
      unfold Client.subscribe
      dsimp only
      split
      · exact .of_requests rfl fun _ => .refl
      · have hext := Extends.decide (v := v) (c := { c with
          calls := Function.update c.calls c.callCount ⟨pattern, aborted, .waitingTurn⟩
          callCount := c.callCount + 1, initialized := true }) c.callCount
        exact ⟨hext.count, hext.old, hext.new⟩
  -- only the decision what to do with the entry can ask for a SUBSCRIBE
  | callContinues i =>
      unfold Client.step Client.callContinues at hs
      dsimp only at hs
      split at hs
      · obtain ⟨-, ⟨⟩⟩ := Option.ite_none_right_eq_some.mp hs
        have hext := Extends.decide (v := v) (c := { c with initialized := true }) i
        exact ⟨hext.count, hext.old, hext.new⟩
      · obtain ⟨-, ⟨⟩⟩ := Option.ite_none_right_eq_some.mp hs
        exact .decide i
      · obtain ⟨-, ⟨⟩⟩ := Option.ite_none_right_eq_some.mp hs
        unfold Client.flightContinues
        split
        · exact .addHandler i _ _
        · unfold Client.addLocalSubscription
          dsimp only
          split
          · exact .addHandler i _ _
          · exact (Extends.addHandler i _ _).of_setStore
        · exact .of_requests rfl fun _ => .refl
      · cases hs
  | abort i =>
      obtain ⟨-, ⟨⟩⟩ := Option.ite_none_right_eq_some.mp hs
      unfold Client.abort
      dsimp only
      split
      · split
        · rename_i h _ _
          have hext : Extends
              { c with calls := Function.update c.calls i { c.calls i with aborted := true } } _ :=
            .of_asks (unsubscribe_asks (v := v) h) (Same.unsubscribe h)
          exact ⟨hext.count, hext.old, hext.new⟩
        · exact .of_requests rfl fun _ => .refl
      · exact .of_requests rfl fun _ => .refl
  | unsubscribe h =>
      obtain ⟨-, ⟨⟩⟩ := Option.ite_none_right_eq_some.mp hs
      exact .of_asks (unsubscribe_asks h) (Same.unsubscribe h)
  -- the answer is booked in the table, nothing is asked
  | unsubscribeContinues h =>
      unfold Client.step at hs
      dsimp only at hs
      split at hs
      · rename_i s r hpending
        obtain ⟨-, ⟨⟩⟩ := Option.ite_none_right_eq_some.mp hs
        have hrequests : (c.unsubscribeContinues v h s r).requests = c.requests :=
          congrArg Traffic.requests (unsubscribeContinues_traffic h s r)
        exact .of_requests (congrArg Traffic.requestCount (unsubscribeContinues_traffic h s r))
          fun k => by
            rw [hrequests]
            exact .refl
      · cases hs
  -- the request is marked as settled and keeps what it was asked for
  | flightSettles r =>
      unfold Client.step at hs
      dsimp only at hs
      split at hs
      · rename_i pattern _
        obtain ⟨-, ⟨⟩⟩ := Option.ite_none_right_eq_some.mp hs
        have hcount : (c.flightSettles v r pattern).requestCount = c.requestCount := by
          unfold Client.flightSettles
          dsimp only
          split
          · split <;> rfl
          · rfl
        refine .of_requests hcount fun k => ?_
        unfold Client.flightSettles
        dsimp only
        have key : ∀ request : Request, Kept (c.requests r) request →
            Kept (c.requests k) (Function.update c.requests r request k) := by
          intro request hrequest
          by_cases hk : k = r
          · subst hk
            simpa using hrequest
          · rw [Function.update_of_ne hk]
            exact .refl
        split
        · split
          · exact key _ ⟨⟨rfl, rfl, rfl, rfl⟩, rfl, rfl⟩
          · exact key _ ⟨⟨rfl, rfl, rfl, rfl⟩, rfl, rfl⟩
        · exact key _ ⟨⟨rfl, rfl, rfl, rfl⟩, rfl, rfl⟩
      · cases hs
  | sent | subscribed | unsubscribed | rejected | notify | lost | connected | restoreBegins
  | restoreContinues | restored => cases he

end Client

end FitzTs.Subscriptions
