import FitzTs.Client.Connection
import FitzTs.Client.Multiplexer.Sessions
/-!
# FitzTs.Client.Connection.Quiet

The steps that leave the control variables alone.

What the calls do, and what the handshake of an attempt does between two of the
attempt's own continuations, changes no variable of `Control` and no attempt's
role (`Quiet`). At most a caller parks, in a state in which callers may.
-/

namespace FitzTs.Client

variable {a a' a'' : Attempt} {c c' c'' : Connection} {i : CallId} {t : TransportId}

/-- The attempt is where it was, and so is its receive loop. -/
structure Attempt.SameRole (a a' : Attempt) : Prop where
  phase : a'.phase = a.phase
  isReconnect : a'.isReconnect = a.isReconnect
  authOutcome : a'.authOutcome = a.authOutcome
  receiveLoop : a'.receiveLoop = a.receiveLoop
  lossReported : a'.lossReported = a.lossReported
  closeCalled : a.closeCalled = true → a'.closeCalled = true
  /-- HELLO counts as received only once its outcome has. -/
  hello : a'.hello = .resolved → a.hello = .resolved ∨ a.authOutcome = .resolved

namespace Attempt

theorem SameRole.refl (a : Attempt) : SameRole a a := ⟨rfl, rfl, rfl, rfl, rfl, id, Or.inl⟩

theorem SameRole.trans (h : SameRole a a') (h' : SameRole a' a'') : SameRole a a'' where
  phase := h'.phase.trans h.phase
  isReconnect := h'.isReconnect.trans h.isReconnect
  authOutcome := h'.authOutcome.trans h.authOutcome
  receiveLoop := h'.receiveLoop.trans h.receiveLoop
  lossReported := h'.lossReported.trans h.lossReported
  closeCalled := fun hc => h'.closeCalled (h.closeCalled hc)
  hello := fun hr => by
    rcases h'.hello hr with hr | hr
    · exact h.hello hr
    · exact Or.inr (h.authOutcome.symm.trans hr)

theorem settle_eq_resolved {d outcome : Deferred} (h : d.settle outcome = .resolved) :
    d = .resolved ∨ outcome = .resolved := by
  unfold Deferred.settle at h
  split at h
  · exact Or.inr h
  · exact Or.inl h

/-- The promise of `waitForHello` fulfils only after the deferred of the attempt has. -/
theorem settleHello_sameRole (a : Attempt) : SameRole a a.settleHello := by
  refine ⟨rfl, rfl, rfl, rfl, rfl, id, fun h => ?_⟩
  rcases settle_eq_resolved h with h | h
  · exact Or.inl h
  · refine Or.inr ?_
    cases hs : a.sendConnect <;> cases ha : a.authOutcome <;> simp [hs, ha] at h ⊢

end Attempt

namespace Connection

/-- From `c` to `c'` no control variable changes, and no attempt moves on. -/
structure Quiet (c c' : Connection) : Prop where
  control : c'.toControl = c.toControl
  multiplexer : c.multiplexer.Keeps c'.multiplexer
  waiters : ∀ i, c'.readiness.waiters i = .parked →
    c.readiness.waiters i = .parked ∨ c.readyFailure = none ∧ c.state ≠ .authenticated
  attempts : ∀ t, (c.attempts t).SameRole (c'.attempts t)

theorem Quiet.trans (h : Quiet c c') (h' : Quiet c' c'') : Quiet c c'' where
  control := h'.control.trans h.control
  multiplexer := h.multiplexer.trans h'.multiplexer
  waiters := fun i hi => by
    rcases h'.waiters i hi with hi | hi
    · exact h.waiters i hi
    · rw [h.control] at hi
      exact Or.inr hi
  attempts := fun t => (h.attempts t).trans (h'.attempts t)

theorem Quiet.andThen (h : Quiet c c') (h' : c'.multiplexer.WellFormed → Quiet c' c'') :
    Quiet c c'' := h.trans (h' h.multiplexer.wellFormed)

/-- Changes of the traffic alone. -/
theorem quiet_of_traffic (h : c.multiplexer.WellFormed) (hcontrol : c'.toControl = c.toControl)
    (hmultiplexer : c'.multiplexer = c.multiplexer)
    (hwaiters : c'.readiness.waiters = c.readiness.waiters)
    (hattempts : c'.attempts = c.attempts) : Quiet c c' where
  control := hcontrol
  multiplexer := by rw [hmultiplexer]; exact .refl h
  waiters := fun i hi => Or.inl (by rwa [hwaiters] at hi)
  attempts := fun t => by rw [hattempts]; exact .refl _

/-- Changes of the multiplexer within its session. -/
theorem quiet_of_multiplexer {m : Multiplexer} (h : c.multiplexer.Keeps m) :
    Quiet c { c with multiplexer := m } :=
  ⟨rfl, h, fun _ => Or.inl, fun _ => .refl _⟩

/-- A change of one attempt that keeps its role. -/
theorem quiet_modifyAttempt (h : c.multiplexer.WellFormed) {f : Attempt → Attempt}
    (hf : (c.attempts t).SameRole (f (c.attempts t))) : Quiet c (c.modifyAttempt t f) := by
  refine ⟨rfl, .refl h, fun _ => Or.inl, fun t' => ?_⟩
  unfold modifyAttempt
  by_cases ht : t' = t
  · subst ht
    simpa using hf
  · simpa [Function.update_of_ne ht] using Attempt.SameRole.refl (c.attempts t')

/-! ### Waiting for readiness -/

/-- A waiter stays parked while the client is neither ready nor beyond it. -/
theorem onStateChange_parked {state : ConnectionState} {failure : Option ClientError}
    (h : ReadinessWaiter.onStateChange state failure = .parked) :
    failure = none ∧ state ≠ .authenticated := by
  unfold ReadinessWaiter.onStateChange at h
  split at h
  · cases h
  · cases failure with
    | none => exact ⟨rfl, by assumption⟩
    | some error => cases h

/-- A caller parks only if the connection is neither ready nor beyond it. -/
theorem waitForReady_quiet (h : c.multiplexer.WellFormed) (i : CallId) (aborted : Bool) :
    Quiet c (c.waitForReady i aborted) := by
  refine ⟨rfl, .refl h, fun j hj => ?_, fun _ => .refl _⟩
  unfold waitForReady ReadinessWaiter.waitForReady ReadinessWaiter.setOutcome at hj
  by_cases hji : j = i
  · subst hji
    cases aborted with
    | true => simp at hj
    | false =>
        cases hf : c.readyFailure with
        | some error => simp [hf] at hj
        | none =>
            simp only [hf, Bool.false_eq_true, if_false, Function.update_self] at hj
            exact Or.inr ⟨rfl, (onStateChange_parked hj).2⟩
  · refine Or.inl ?_
    cases aborted <;> cases hf : c.readyFailure <;> simpa [hf, Function.update_of_ne hji] using hj

theorem acquireWaitSlot_waiters {w w' : ReadinessWaiter} {slot : Bool} {state : ConnectionState}
    {failure : Option ClientError} (h : w.acquireWaitSlot state failure = .ok (slot, w')) :
    w'.waiters = w.waiters := by
  unfold ReadinessWaiter.acquireWaitSlot at h
  split at h
  · cases h
    rfl
  · split at h
    · cases h
    · cases h
      rfl

theorem modifyCall_quiet (h : c.multiplexer.WellFormed) (i : CallId) (f : Call → Call) :
    Quiet c (c.modifyCall i f) := quiet_of_traffic h rfl rfl rfl rfl

theorem finishCall_quiet (h : c.multiplexer.WellFormed) (i : CallId)
    (failure : Option ClientError) : Quiet c (c.finishCall i failure) :=
  modifyCall_quiet h i _

theorem acquireSlotAndWait_quiet (h : c.multiplexer.WellFormed) (i : CallId) (aborted : Bool) :
    Quiet c (c.acquireSlotAndWait i aborted) := by
  unfold acquireSlotAndWait
  split
  · exact finishCall_quiet h i _
  · rename_i slot w hslot
    have hacquired : Quiet c { c with readiness := w } :=
      quiet_of_traffic h rfl rfl (acquireWaitSlot_waiters hslot) rfl
    have hwaited :=
      hacquired.trans (waitForReady_quiet (c := { c with readiness := w }) h i aborted)
    exact hwaited.trans (modifyCall_quiet hwaited.multiplexer.wellFormed i _)

/-- A waiter that is rejected is parked no more. -/
theorem rejectParked_quiet (h : c.multiplexer.WellFormed) (i : CallId) (error : ClientError) :
    Quiet c { c with readiness := c.readiness.rejectParked i error } := by
  refine ⟨rfl, .refl h, fun j hj => Or.inl ?_, fun _ => .refl _⟩
  unfold ReadinessWaiter.rejectParked ReadinessWaiter.setOutcome at hj
  dsimp only at hj
  split at hj
  · by_cases hji : j = i
    · subst hji
      simp at hj
    · simpa [Function.update_of_ne hji] using hj
  · exact hj

/-! ### The calls -/

/-- Drawing an identifier is a step of the multiplexer. -/
theorem allocate_keeps {m m' : Multiplexer} {correlation : CorrelationId} (h : m.WellFormed)
    (ha : m.allocateCorrelationId = .ok (correlation, m')) : m.Keeps m' :=
  have hstep : m.step .allocate = some m' := by simp [Multiplexer.step, ha]
  Multiplexer.step_keeps h hstep trivial

/-- A call begins by waiting for its turn. -/
theorem call_quiet (h : c.multiplexer.WellFormed) (i : CallId) (request : CallRequest)
    (messageType : MessageType) (frameLength : Nat) (signal : Option Bool) :
    Quiet c (c.call i request messageType frameLength signal) := by
  have start : ∀ kind, Quiet c (c.startCall i kind messageType frameLength signal) :=
    fun _ => modifyCall_quiet h i _
  cases request with
  | waitUntilReady =>
      have hwaits :
          Quiet c ((c.startCall i .waitUntilReady messageType frameLength signal).waitForReady
          i (signal = some true)) := (start _).andThen fun hm => waitForReady_quiet hm i _
      unfold call
      exact hwaits.andThen fun hm => modifyCall_quiet hm i _
  | request allowReconnectRestore =>
      unfold call
      dsimp only
      split
      · exact (start _).andThen fun hm => modifyCall_quiet hm i _
      · exact (start _).andThen fun hm => acquireSlotAndWait_quiet hm i _
  | sendFireAndForget => exact (start _).andThen fun hm => acquireSlotAndWait_quiet hm i _
  | sendCorrelated =>
      unfold call sendCorrelated
      dsimp only
      split
      · exact (start _).andThen fun hm => finishCall_quiet hm i _
      · rename_i correlation m hallocate
        have hdrawn : Quiet c { c with multiplexer := m } :=
          quiet_of_multiplexer (allocate_keeps h hallocate)
        exact (hdrawn.andThen fun hm => modifyCall_quiet hm i _).andThen fun hm =>
          acquireSlotAndWait_quiet hm i _

theorem acquireRequestSlot_quiet (h : c.multiplexer.WellFormed) (i : CallId) :
    Quiet c (c.acquireRequestSlot i) := quiet_of_traffic h rfl rfl rfl rfl

theorem waitReturned_quiet (h : c.multiplexer.WellFormed) (i : CallId) (slot : Bool)
    (failure : Option ClientError) : Quiet c (c.waitReturned i slot failure) := by
  have hrelease : Quiet c (c.releaseReadyWaitSlot slot) := by
    cases slot <;> exact quiet_of_traffic h rfl rfl rfl rfl
  have finish : ∀ failure, Quiet c ((c.releaseReadyWaitSlot slot).finishCall i failure) :=
    fun failure => hrelease.andThen fun hm => finishCall_quiet hm i failure
  have acquire : Quiet c ((c.releaseReadyWaitSlot slot).acquireRequestSlot i) :=
    hrelease.andThen fun hm => acquireRequestSlot_quiet hm i
  unfold waitReturned
  dsimp only
  split
  · exact finish _
  · split
    · exact finish _
    · exact finish _
    · split
      · exact finish _
      · exact acquire
    · split
      · exact finish _
      · exact acquire

theorem readyContinues_quiet (h : c.multiplexer.WellFormed) (hs : c.readyContinues i = some c') :
    Quiet c c' := by
  unfold readyContinues at hs
  split at hs
  · cases hs
    exact acquireRequestSlot_quiet h i
  · split at hs
    · cases hs
      exact waitReturned_quiet h i _ _
    · cases hs
      exact waitReturned_quiet h i _ _
    · cases hs
    · cases hs
  · cases hs

theorem releaseAndFinish_quiet (h : c.multiplexer.WellFormed) (i : CallId) (gate : GateId)
    (failure : Option ClientError) : Quiet c (c.releaseAndFinish i gate failure) :=
  quiet_of_traffic h rfl rfl rfl rfl

/-- Issuing a request is a step of the multiplexer. -/
theorem issue_keeps {m m' : Multiplexer} (h : m.WellFormed) {messageType : MessageType}
    {nowMs timeoutMs : Nat} {signal : Option Bool}
    (hi : m.issueRequest messageType nowMs timeoutMs signal none = .ok m') : m.Keeps m' :=
  have hstep : m.step (.issue messageType nowMs timeoutMs signal none) = some m' := by
    simp [Multiplexer.step, hi]
  Multiplexer.step_keeps h hstep trivial

/-- The multiplexer takes the request; the attempts do not hear of it. -/
theorem slotGranted_quiet (h : c.multiplexer.WellFormed) (i : CallId) (gate : GateId)
    (nowMs : Nat) : Quiet c (c.slotGranted i gate nowMs) := by
  have request : ∀ t, Quiet c (c.multiplexerRequest i gate t nowMs) := by
    intro t
    unfold multiplexerRequest
    dsimp only
    split
    · exact releaseAndFinish_quiet h i gate _
    · rename_i m hissue
      have hissued : Quiet c { c with multiplexer := m } :=
        quiet_of_multiplexer (issue_keeps h hissue)
      exact hissued.andThen fun hm => quiet_of_traffic hm rfl rfl rfl rfl
  unfold slotGranted
  split
  · exact releaseAndFinish_quiet h i gate _
  · split
    · exact releaseAndFinish_quiet h i gate _
    · split
      · exact quiet_of_traffic h rfl rfl rfl rfl
      · exact request _

theorem slotContinues_quiet (h : c.multiplexer.WellFormed) {nowMs : Nat}
    (hs : c.slotContinues i nowMs = some c') : Quiet c c' := by
  unfold slotContinues at hs
  split at hs
  · split at hs
    · cases hs
      exact slotGranted_quiet h i _ nowMs
    · cases hs
      exact finishCall_quiet h i _
    · cases hs
    · cases hs
  · cases hs

/-- The multiplexer is told how a send has ended. -/
theorem sendSettles_quiet (h : c.multiplexer.WellFormed) (hs : c.sendSettles i = some c') :
    Quiet c c' := by
  have of_step : ∀ {e m}, c.multiplexer.step e = some m → Multiplexer.KeepsSession e →
      Quiet c { c with multiplexer := m } :=
    fun hstep hk => quiet_of_multiplexer (Multiplexer.step_keeps h hstep hk)
  unfold sendSettles at hs
  split at hs
  · rename_i r _
    split at hs
    · rename_i hpending
      split at hs
      · cases hs
        exact of_step (e := .sendResolved r) (if_pos hpending) trivial
      · rename_i error _
        cases hs
        exact of_step (e := .sendRejected r error) (if_pos hpending) trivial
      · cases hs
    · cases hs
  · cases hs

/-- A signal ends the wait of its call. -/
theorem abortCall_quiet (h : c.multiplexer.WellFormed) (hs : c.abortCall i = some c') :
    Quiet c c' := by
  unfold abortCall at hs
  split at hs
  · have hmark : Quiet c (c.modifyCall i fun call => { call with signal := some true }) :=
      modifyCall_quiet h i _
    dsimp only at hs
    split at hs
    · cases hs
      exact hmark.andThen fun hm => rejectParked_quiet hm i _
    · cases hs
      exact hmark.andThen fun hm => quiet_of_traffic hm rfl rfl rfl rfl
    · rename_i r _ _
      cases hs
      exact hmark.andThen fun hm =>
        quiet_of_multiplexer (Multiplexer.step_getD_keeps hm (.abort r) trivial)
    · cases hs
      exact hmark
  · cases hs

theorem writeBegins_quiet (h : c.multiplexer.WellFormed) (hs : c.writeBegins = some c') :
    Quiet c c' := by
  unfold writeBegins at hs
  split at hs
  · cases hs
    exact quiet_of_traffic h rfl rfl rfl rfl
  · cases hs

theorem writeEnds_quiet (h : c.multiplexer.WellFormed) {failure : Option ClientError}
    (hs : c.writeEnds failure = some c') : Quiet c c' := by
  unfold writeEnds at hs
  split at hs
  · cases hs
  · dsimp only at hs
    split at hs <;> cases hs <;> exact quiet_of_traffic h rfl rfl rfl rfl

/-- A registration neither begins nor ends a session. -/
theorem keepsSession_of_isRegistration {e : Multiplexer.Event} (h : isRegistration e = true) :
    Multiplexer.KeepsSession e := by
  cases e <;> simp [isRegistration] at h <;> trivial

/-- What the calls do is quiet. -/
theorem callStep_quiet (h : c.multiplexer.WellFormed) {e : Event} (hs : c.callStep e = some c') :
    Quiet c c' := by
  have of_step : ∀ {e m}, c.multiplexer.step e = some m → Multiplexer.KeepsSession e →
      Quiet c { c with multiplexer := m } :=
    fun hstep hk => quiet_of_multiplexer (Multiplexer.step_keeps h hstep hk)
  unfold callStep at hs
  split at hs
  · split at hs
    · cases hs
      exact call_quiet h _ _ _ _ _
    · cases hs
  · exact readyContinues_quiet h hs
  · exact slotContinues_quiet h hs
  · exact sendSettles_quiet h hs
  · exact abortCall_quiet h hs
  · split at hs
    · cases hs
      exact rejectParked_quiet h _ _
    · cases hs
  · exact writeBegins_quiet h hs
  · exact writeEnds_quiet h hs
  · obtain ⟨m, hstep, rfl⟩ := Option.map_eq_some_iff.mp hs
    exact of_step hstep trivial
  · split at hs
    · rename_i hregister
      obtain ⟨m, hstep, rfl⟩ := Option.map_eq_some_iff.mp hs
      exact of_step hstep (keepsSession_of_isRegistration hregister)
    · cases hs
  · cases hs

/-! ### The handshake -/

theorem setSendConnect_quiet (h : c.multiplexer.WellFormed) (t : TransportId) (s : SendConnect) :
    Quiet c (c.setSendConnect t s) := by
  refine quiet_modifyAttempt h ?_
  have hset : (c.attempts t).SameRole { c.attempts t with sendConnect := s } :=
    ⟨rfl, rfl, rfl, rfl, rfl, id, Or.inl⟩
  exact hset.trans (Attempt.settleHello_sameRole _)

theorem rejectHello_quiet (h : c.multiplexer.WellFormed) (t : TransportId) (error : ClientError) :
    Quiet c (c.rejectHello t error) := by
  refine quiet_modifyAttempt h ⟨rfl, rfl, rfl, rfl, rfl, id, fun hr => ?_⟩
  rcases Attempt.settle_eq_resolved hr with hr | hr
  · exact Or.inl hr
  · cases hr

/-- What happens to `sendConnect` and to the wait for HELLO is quiet. -/
theorem handshakeStep_quiet (h : c.multiplexer.WellFormed) {e : Event}
    (hs : c.handshakeStep t e = some c') : Quiet c c' := by
  unfold handshakeStep at hs
  split at hs
  · rename_i failure
    split at hs
    · cases hs
      cases failure with
      | some error => exact setSendConnect_quiet h t _
      | none =>
          change Quiet c (c.tokenProvided t)
          unfold tokenProvided
          split
          · exact (setSendConnect_quiet h t _).andThen fun hm => quiet_of_traffic hm rfl rfl rfl rfl
          · exact setSendConnect_quiet h t _
    · cases hs
  · rename_i failure
    split at hs
    · cases hs
      cases failure <;> exact setSendConnect_quiet h t _
    · cases hs
  · split at hs
    · cases hs
      exact rejectHello_quiet h t _
    · cases hs
  · split at hs
    · cases hs
      have hmark : Quiet c (c.modifyAttempt t fun a => { a with signal := some true }) :=
        quiet_modifyAttempt h ⟨rfl, rfl, rfl, rfl, rfl, id, Or.inl⟩
      split
      · exact hmark.andThen fun hm => rejectHello_quiet hm t _
      · exact hmark
    · cases hs
  · cases hs

/-- It does not reach the multiplexer. -/
theorem handshakeStep_multiplexer {e : Event} (hs : c.handshakeStep t e = some c') :
    c'.multiplexer = c.multiplexer := by
  unfold handshakeStep at hs
  split at hs
  · rename_i failure
    split at hs
    · cases hs
      cases failure with
      | some error => rfl
      | none =>
          change (c.tokenProvided t).multiplexer = _
          unfold tokenProvided
          split <;> rfl
    · cases hs
  · rename_i failure
    split at hs
    · cases hs
      cases failure <;> rfl
    · cases hs
  · split at hs
    · cases hs
      rfl
    · cases hs
  · split at hs
    · cases hs
      split <;> rfl
    · cases hs
  · cases hs

end Connection

end FitzTs.Client
