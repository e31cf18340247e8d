import FitzTs.Domains.Subscriptions.Requests
/-!
# FitzTs.Domains.Subscriptions.Answers

Which answers to SUBSCRIBE requests have yet to be put into the table.

An answer waits for its single flight to settle and, where the calls register, for the first of
them to continue. In the meantime the connection may go and other requests may be answered.
-/

namespace FitzTs.Subscriptions

/-- SUBSCRIBE was answered with an id. -/
def RequestPhase.isSubscribed : RequestPhase → Bool
  | .subscribed _ => true
  | _ => false

theorem RequestPhase.isSubscribed_iff {phase : RequestPhase} :
    phase.isSubscribed = true ↔ ∃ subId, phase = .subscribed subId := by
  cases phase <;> simp [RequestPhase.isSubscribed]

namespace Client

variable {v : Variant} {c c' : Client}

/-- A registration is that of an answered request. -/
theorem registering_answered {pattern : String} {subId r : Nat} {e : Event}
    (hflights : c.Flights)
    (h : c.registering v e = some (pattern, subId, r)) :
    (c.requests r).phase = .subscribed subId ∧ (c.requests r).frame = .subscribe pattern := by
  unfold registering at h
  split at h
  · rename_i i
    split at h
    · rename_i r' hcall
      split at h
      · rename_i subId' hphase _
        obtain ⟨-, heq⟩ := Option.ite_none_right_eq_some.mp h
        cases heq
        exact ⟨hphase, (hflights.call i r hcall).2.1⟩
      · cases h
    · cases h
  · split at h
    · rename_i hframe hphase
      obtain ⟨-, heq⟩ := Option.ite_none_right_eq_some.mp h
      cases heq
      exact ⟨hphase, hframe⟩
    · cases h
  · cases h

/-- Request `r` is one of a single flight that has not settled, or after which a call has still to
continue. -/
def Unplaced (c : Client) (r : Nat) : Prop :=
  (c.requests r).restoring = false ∧ ((c.requests r).landed = false ∨
    ∃ i < c.callCount, (c.calls i).phase = .awaitingFlight r)

instance (c : Client) (r : Nat) : Decidable (c.Unplaced r) := by
  unfold Unplaced
  infer_instance

/-- What is put into the table had to be. -/
theorem registering_unplaced {pattern : String} {subId r : Nat} {e : Event} (hflights : c.Flights)
    (hs : c.step v e = some c') (h : c.registering v e = some (pattern, subId, r)) :
    c.Unplaced r := by
  unfold registering at h
  split at h
  · rename_i i
    split at h
    · rename_i r' hcall
      split at h
      · obtain ⟨-, heq⟩ := Option.ite_none_right_eq_some.mp h
        cases heq
        exact ⟨(hflights.call i r hcall).2.2,
          Or.inr ⟨i, hflights.lt_callCount (by simp [hcall]), hcall⟩⟩
      · cases h
    · cases h
  · rename_i k
    split at h
    · rename_i q id hframe _
      obtain ⟨-, heq⟩ := Option.ite_none_right_eq_some.mp h
      cases heq
      simp only [Client.step, hframe] at hs
      obtain ⟨⟨-, hown, hopen, -⟩, -⟩ := Option.ite_none_right_eq_some.mp hs
      exact ⟨by simpa using hown, Or.inl (by simpa using hopen)⟩
    · cases h
  · cases h

/-- No answer comes to be unplaced, but those of requests that are still to go out. -/
def Places (c c' : Client) : Prop :=
  ∀ r, c'.Unplaced r → c.Unplaced r ∨ (c'.requests r).phase = .unsent

theorem Places.of_requests (hcalls : c'.calls = c.calls) (hcount : c'.callCount = c.callCount)
    (hrequests : ∀ r, (c'.requests r).restoring = (c.requests r).restoring ∧
      ((c'.requests r).landed = false → (c.requests r).landed = false)) : Places c c' := by
  intro r hr
  unfold Unplaced at hr ⊢
  rw [(hrequests r).1, hcalls, hcount] at hr
  exact Or.inl ⟨hr.1, hr.2.imp (hrequests r).2 id⟩

theorem Places.of_traffic (htraffic : c'.traffic = c.traffic) : Places c c' := by
  have hrequests : c'.requests = c.requests := congrArg Traffic.requests htraffic
  refine .of_requests (congrArg Traffic.calls htraffic) (congrArg Traffic.callCount htraffic) ?_
  intro r
  rw [hrequests]
  exact ⟨rfl, id⟩

theorem Places.trans {c₁ c₂ : Client} (h₁ : Places c c₁) (h₂ : Places c₁ c₂)
    (hphase : ∀ r, (c₂.requests r).phase = (c₁.requests r).phase) : Places c c₂ := by
  intro r hr
  rcases h₂ r hr with hr | hunsent
  · exact (h₁ r hr).imp id (hphase r).trans
  · exact Or.inr hunsent

/-- A new request is still to go out. -/
theorem Places.request (frame : Frame) (restoring : Bool) :
    Places c (c.request frame restoring) := by
  intro r hr
  by_cases hnew : r = c.requestCount
  · subst hnew
    exact Or.inr (by simp [Client.request])
  · have hsame : (c.request frame restoring).requests r = c.requests r := by
      simp [Client.request, Function.update_of_ne hnew]
    unfold Unplaced at hr ⊢
    rw [hsame] at hr
    exact Or.inl hr

theorem Places.of_asks (hasks : Asks c c') : Places c c' := by
  cases hasks with
  | nothing htraffic => exact .of_traffic htraffic
  | unsubscribes pattern s _ htraffic =>
      have hrequests : c'.requests = _ := congrArg Traffic.requests htraffic
      exact (Places.request _ _).trans (.of_traffic htraffic) fun r => by
        rw [hrequests]
        rfl

/-- A call awaits no single flight any more. -/
theorem Places.setCall (i : Nat) {phase : CallPhase} (hphase : ∀ r, phase ≠ .awaitingFlight r) :
    Places c (c.setCall i phase) := by
  rintro r ⟨hown, hopen | ⟨j, hj, hawaits⟩⟩
  · exact Or.inl ⟨hown, Or.inl hopen⟩
  · by_cases hji : j = i
    · subst hji
      simp only [Client.setCall, Function.update_self] at hawaits
      exact absurd hawaits (hphase r)
    · simp only [Client.setCall, Function.update_of_ne hji] at hawaits
      exact Or.inl ⟨hown, Or.inr ⟨j, hj, hawaits⟩⟩

/-- A call comes to await a single flight that has not settled. -/
theorem Places.awaitFlight (i : Nat) {r : Nat} (hown : (c.requests r).restoring = false)
    (hopen : (c.requests r).landed = false) : Places c (c.setCall i (.awaitingFlight r)) := by
  rintro k ⟨hk, hlanded | ⟨j, hj, hawaits⟩⟩
  · exact Or.inl ⟨hk, Or.inl hlanded⟩
  · by_cases hji : j = i
    · subst hji
      simp only [Client.setCall, Function.update_self] at hawaits
      obtain rfl := CallPhase.awaitingFlight.inj hawaits
      exact Or.inl ⟨hown, Or.inl hopen⟩
    · simp only [Client.setCall, Function.update_of_ne hji] at hawaits
      exact Or.inl ⟨hk, Or.inr ⟨j, hj, hawaits⟩⟩

theorem Places.addHandler (i s subId : Nat) : Places c (c.addHandler v i s subId) := by
  obtain ⟨c₁, hasks, -, htraffic⟩ := addHandler_traffic (v := v) (c := c) i s subId
  have hrequests : (c.addHandler v i s subId).requests = c₁.requests :=
    congrArg Traffic.requests htraffic
  have hreturned : Places c (c₁.setCall i (.returned c.nextHandlerId)) :=
    (Places.of_asks hasks).trans (.setCall i nofun) fun _ => rfl
  exact hreturned.trans (.of_traffic htraffic) fun r => by
    rw [hrequests]
    rfl

theorem Places.decide (h : c.Flights) (i : Nat) : Places c (c.decide v i) := by
  unfold Client.decide
  dsimp only
  split
  · split
    · exact .setCall i nofun
    · exact .addHandler i _ _
  · split
    · rename_i r hr
      obtain ⟨-, -, hown, hopen⟩ := h.flight _ r hr
      exact .awaitFlight i hown hopen
    · -- the call starts the single flight
      have hflight : Places c { c.request (.subscribe (c.calls i).pattern) false with
          inFlight := c.inFlight.set (c.calls i).pattern c.requestCount } :=
        (Places.request _ _).trans (.of_requests rfl rfl fun _ => ⟨rfl, id⟩) fun _ => rfl
      refine hflight.trans (.awaitFlight i ?_ ?_) fun _ => rfl
      · simp [Client.request]
      · simp [Client.request]

theorem Places.flightSettles (r : Nat) (pattern : String) :
    Places c (c.flightSettles v r pattern) := by
  have key : ∀ request : Request, request.restoring = (c.requests r).restoring →
      request.landed = true → ∀ k, (Function.update c.requests r request k).restoring =
        (c.requests k).restoring ∧ ((Function.update c.requests r request k).landed = false →
          (c.requests k).landed = false) := by
    intro request hown hlanded k
    by_cases hk : k = r
    · subst hk
      rw [Function.update_self]
      exact ⟨hown, fun hopen => by rw [hlanded] at hopen; cases hopen⟩
    · rw [Function.update_of_ne hk]
      exact ⟨rfl, id⟩
  unfold Client.flightSettles
  dsimp only
  split
  · split
    · exact .of_requests rfl rfl (key _ rfl rfl)
    · exact .of_requests rfl rfl (key _ rfl rfl)
  · exact .of_requests rfl rfl (key _ rfl rfl)

theorem Places.beginSubscribe (h : c.Flights) (i : Nat) : Places c (c.beginSubscribe v i) := by
  have hinit : Flights { c with initialized := true } :=
    h.of_traffic rfl rfl
  exact Places.decide hinit i

theorem Places.callContinues (h : c.Flights) {i : Nat} (hs : c.callContinues v i = some c') :
    Places c c' := by
  unfold Client.callContinues at hs
  split at hs
  · obtain ⟨-, ⟨⟩⟩ := Option.ite_none_right_eq_some.mp hs
    exact .beginSubscribe h i
  · obtain ⟨-, ⟨⟩⟩ := Option.ite_none_right_eq_some.mp hs
    exact .decide h i
  · obtain ⟨-, ⟨⟩⟩ := Option.ite_none_right_eq_some.mp hs
    unfold Client.flightContinues
    split
    · exact .addHandler i _ _
    · unfold Client.addLocalSubscription
      dsimp only
      split
      · exact .addHandler i _ _
      · exact Places.addHandler (c := c.setStore (c.store.register _ _)) i _ _
    · exact .setCall i nofun
  · cases hs

theorem unplaced_of_called {pattern : String} {aborted : Bool} {r : Nat}
    (h : (c.called pattern aborted).Unplaced r) : c.Unplaced r := by
  obtain ⟨hown, hopen | ⟨j, hj, hawaits⟩⟩ := h
  · exact ⟨hown, Or.inl hopen⟩
  · by_cases hji : j = c.callCount
    · subst hji
      simp [called] at hawaits
    · simp only [called, Function.update_of_ne hji] at hawaits
      exact ⟨hown, Or.inr ⟨j, by simp only [called] at hj; omega, hawaits⟩⟩

theorem Places.subscribe (h : c.Flights) (pattern : String) (aborted : Bool) :
    Places c (c.subscribe v pattern aborted) := by
  unfold Client.subscribe
  dsimp only
  split
  · exact fun r hr => Or.inl (unplaced_of_called hr)
  · intro r hr
    exact (Places.beginSubscribe (h.called pattern aborted) c.callCount r hr).imp_left
      unplaced_of_called

theorem Places.abort (i : Nat) : Places c (c.abort v i) := by
  have hflag : ∀ r, Unplaced { c with
      calls := Function.update c.calls i { c.calls i with aborted := true } } r → c.Unplaced r := by
    rintro r ⟨hown, hopen | ⟨j, hj, hawaits⟩⟩
    · exact ⟨hown, Or.inl hopen⟩
    · by_cases hji : j = i
      · subst hji
        simp only [Function.update_self] at hawaits
        exact ⟨hown, Or.inr ⟨j, hj, hawaits⟩⟩
      · simp only [Function.update_of_ne hji] at hawaits
        exact ⟨hown, Or.inr ⟨j, hj, hawaits⟩⟩
  unfold Client.abort
  dsimp only
  split
  · split
    · exact fun r hr => (Places.of_asks (unsubscribe_asks _) r hr).imp_left (hflag r)
    · exact fun r hr => Or.inl (hflag r hr)
  · exact fun r hr => Or.inl (hflag r hr)

/-- An answer comes in, or a request goes out. -/
theorem Places.setRequest (r : Nat) {request : Request}
    (hown : request.restoring = (c.requests r).restoring)
    (hlanded : request.landed = (c.requests r).landed) : Places c (c.setRequest r request) := by
  refine .of_requests rfl rfl fun k => ?_
  by_cases hk : k = r
  · subst hk
    simp only [Client.setRequest, Function.update_self]
    exact ⟨hown, hlanded.symm.trans⟩
  · simp only [Client.setRequest, Function.update_of_ne hk]
    exact ⟨trivial, id⟩

theorem Places.resubscribeNext (todo restored : List (String × Nat)) :
    Places c (c.resubscribeNext todo restored) := by
  unfold Client.resubscribeNext
  split
  · exact .request _ _
  · exact .of_traffic rfl

theorem Places.rollbackNext (todo : List (String × Nat)) : Places c (c.rollbackNext v todo) := by
  unfold Client.rollbackNext
  split
  · dsimp only
    split
    · exact Places.request (c := c.setStore _) _ _
    · exact .request _ _
  · exact .of_traffic rfl

/-- **What comes to be unplaced.** -/
theorem step_places (h : c.Flights) {e : Event} (hs : c.step v e = some c') : Places c c' := by
  cases e with
  | subscribe pattern aborted =>
      cases hs
      exact .subscribe h pattern aborted
  | callContinues i => exact .callContinues h hs
  | abort i =>
      obtain ⟨-, ⟨⟩⟩ := Option.ite_none_right_eq_some.mp hs
      exact .abort i
  | unsubscribe k =>
      obtain ⟨-, ⟨⟩⟩ := Option.ite_none_right_eq_some.mp hs
      exact .of_asks (unsubscribe_asks k)
  | unsubscribeContinues k =>
      unfold Client.step at hs
      dsimp only at hs
      split at hs
      · obtain ⟨-, ⟨⟩⟩ := Option.ite_none_right_eq_some.mp hs
        exact .of_traffic (unsubscribeContinues_traffic k _ _)
      · cases hs
  | flightSettles r =>
      unfold Client.step at hs
      dsimp only at hs
      split at hs
      · obtain ⟨-, ⟨⟩⟩ := Option.ite_none_right_eq_some.mp hs
        exact .flightSettles r _
      · cases hs
  | sent r =>
      obtain ⟨-, ⟨⟩⟩ := Option.ite_none_right_eq_some.mp hs
      unfold Client.send
      dsimp only
      split
      · exact Places.setRequest (c := c) r rfl rfl
      · exact .setRequest r rfl rfl
  | subscribed r subId =>
      unfold Client.step at hs
      dsimp only at hs
      split at hs
      · obtain ⟨-, ⟨⟩⟩ := Option.ite_none_right_eq_some.mp hs
        exact Places.setRequest (c := c) r rfl rfl
      · cases hs
  | unsubscribed r =>
      unfold Client.step at hs
      dsimp only at hs
      split at hs
      · obtain ⟨-, ⟨⟩⟩ := Option.ite_none_right_eq_some.mp hs
        exact Places.setRequest (c := c) r rfl rfl
      · cases hs
  | rejected r =>
      obtain ⟨-, ⟨⟩⟩ := Option.ite_none_right_eq_some.mp hs
      exact .setRequest r rfl rfl
  | notify subId =>
      obtain ⟨-, ⟨⟩⟩ := Option.ite_none_right_eq_some.mp hs
      exact .of_traffic (notify_frame subId).1
  -- what is lost with the connection is answered by the loss
  | lost =>
      obtain ⟨-, ⟨⟩⟩ := Option.ite_none_right_eq_some.mp hs
      refine .of_requests rfl rfl fun r => ?_
      unfold Client.loseConnection
      dsimp only
      split
      · exact ⟨rfl, id⟩
      · exact ⟨rfl, id⟩
  | connected =>
      obtain ⟨-, ⟨⟩⟩ := Option.ite_none_right_eq_some.mp hs
      exact .of_traffic rfl
  | restoreBegins =>
      obtain ⟨-, ⟨⟩⟩ := Option.ite_none_right_eq_some.mp hs
      unfold Client.restoreBegins
      split
      · dsimp only
        split
        · exact .of_traffic rfl
        · exact .of_traffic rfl
      · exact .resubscribeNext _ _
  -- the next entry, the rollback, or the end
  | restoreContinues =>
      unfold Client.step Client.restoreContinues at hs
      dsimp only at hs
      split at hs
      · split at hs
        · cases hs
          exact Places.resubscribeNext (c := c.restoreEntry v _ _ _) _ _
        · cases hs
        · cases hs
        · cases hs
          exact .rollbackNext _
      · obtain ⟨-, ⟨⟩⟩ := Option.ite_none_right_eq_some.mp hs
        exact .rollbackNext _
      · cases hs
        exact .of_traffic reindex_frame.1
      · cases hs
  | restored =>
      obtain ⟨-, ⟨⟩⟩ := Option.ite_none_right_eq_some.mp hs
      exact .of_traffic rfl

/-- A SUBSCRIBE of the pattern has been answered in this session, and the answer has yet to be put
into the table. -/
def AnswerHeld (c : Client) (pattern : String) (r : Nat) : Prop :=
  c.Unplaced r ∧ (c.requests r).frame = .subscribe pattern ∧
    (c.requests r).phase.isSubscribed = true ∧ (c.requests r).sentIn = c.session

instance (c : Client) (pattern : String) (r : Nat) : Decidable (c.AnswerHeld pattern r) := by
  unfold AnswerHeld
  infer_instance

/-- What an answer that is held depends on. -/
theorem AnswerHeld.of_places {pattern : String} {r : Nat} (h : c'.AnswerHeld pattern r)
    (hplaces : Places c c') (hframe : (c'.requests r).frame = (c.requests r).frame)
    (hphase : (c'.requests r).phase = (c.requests r).phase)
    (hsentIn : (c'.requests r).sentIn = (c.requests r).sentIn) (hsession : c'.session = c.session) :
    c.AnswerHeld pattern r := by
  obtain ⟨hunplaced, hof, hanswered, hnow⟩ := h
  have hwas : c.Unplaced r := by
    refine (hplaces r hunplaced).resolve_right fun hunsent => ?_
    rw [hunsent] at hanswered
    cases hanswered
  rw [hframe] at hof
  rw [hphase] at hanswered
  rw [hsentIn, hsession] at hnow
  exact ⟨hwas, hof, hanswered, hnow⟩

theorem AnswerHeld.of_traffic {pattern : String} {r : Nat} (h : c'.AnswerHeld pattern r)
    (htraffic : c'.traffic = c.traffic) (hsession : c'.session = c.session) :
    c.AnswerHeld pattern r := by
  have hrequests : c'.requests = c.requests := congrArg Traffic.requests htraffic
  exact h.of_places (.of_traffic htraffic) (by rw [hrequests]) (by rw [hrequests])
    (by rw [hrequests]) hsession

/-- A call or a continuation comes to hold no answer. -/
theorem AnswerHeld.of_extends {pattern : String} {r : Nat} (h : c'.AnswerHeld pattern r)
    (hplaces : Places c c') (hext : Extends c c') (hsession : c'.session = c.session) :
    c.AnswerHeld pattern r := by
  have hkept : Kept (c.requests r) (c'.requests r) := by
    by_cases hr : r = c.requestCount
    · subst hr
      rcases hext.new with hkept | ⟨-, hunsent, -⟩
      · exact hkept
      · have hanswered := h.2.2.1
        rw [hunsent] at hanswered
        cases hanswered
    · exact hext.old r hr
  exact h.of_places hplaces hkept.frame hkept.phase hkept.sentIn hsession

/-- A request of the reconnect listener is not the answer of a single flight. -/
theorem AnswerHeld.of_request (frame : Frame) {pattern : String} {r : Nat}
    (h : (c.request frame true).AnswerHeld pattern r) : c.AnswerHeld pattern r := by
  have hr : r ≠ c.requestCount := by
    rintro rfl
    have hown := h.1.1
    simp [Client.request] at hown
  have hsame : (c.request frame true).requests r = c.requests r := by
    simp [Client.request, Function.update_of_ne hr]
  exact h.of_places (.request frame true) (by rw [hsame]) (by rw [hsame]) (by rw [hsame]) rfl

end Client

end FitzTs.Subscriptions
