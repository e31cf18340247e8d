import FitzTs.Client.Connection.Incidents
/-!
# FitzTs.Client.Connection.Moves

How an attempt moves on: what `openAndAuthenticate` does in each of its parts,
and what the reconnect loop and `close` do around it.
-/

namespace FitzTs.Client.Connection

variable {c c' : Connection} {i : CallId} {t t' : TransportId} {error : ClientError}

section

variable (c) (t)

/-! ### Opening -/

/-- The flags that a new attempt sets: the receive loop is no longer told to stop, and the
transport is the current one. -/
@[simp] theorem openAndAuthenticate_control (isReconnect : Bool) (signal : Option Bool) :
    (c.openAndAuthenticate isReconnect signal).toControl = { c.toControl with
      receiveLoopAbort := false
      sessionConfirmed := false
      hasEstablishedSession := isReconnect && c.hasEstablishedSession
      transport := some c.opened
      opened := c.opened + 1
      state := if isReconnect then .reconnecting else .connecting } := rfl

@[simp] theorem openAndAuthenticate_multiplexer (isReconnect : Bool) (signal : Option Bool) :
    (c.openAndAuthenticate isReconnect signal).multiplexer = c.multiplexer := rfl

/-- The new attempt begins with connecting. -/
@[simp] theorem openAndAuthenticate_attempts (isReconnect : Bool) (signal : Option Bool) :
    (c.openAndAuthenticate isReconnect signal).attempts =
      Function.update c.attempts c.opened { phase := .connecting, isReconnect, signal } := rfl

/-- The waiters hear of the new state. -/
theorem openAndAuthenticate_notified (isReconnect : Bool) (signal : Option Bool) :
    (c.openAndAuthenticate isReconnect signal).Notified := setState_notified _ _

/-! ### Authentication -/

/-- The outcome of the handshake has been read and is cleared. -/
@[simp] theorem finishAuth_control (d : Deferred) :
    (c.finishAuth d).toControl = { c.toControl with authOutcome := none } := by
  simp [finishAuth]

@[simp] theorem finishAuth_multiplexer (d : Deferred) :
    (c.finishAuth d).multiplexer = c.multiplexer := settleAuth_multiplexer c d

@[simp] theorem finishAuth_readiness (d : Deferred) :
    (c.finishAuth d).readiness = c.readiness := settleAuth_readiness c d

/-- The outcome goes to the attempt whose handshake it is; no attempt moves by it. -/
theorem finishAuth_attempts (d : Deferred) (t : TransportId) :
    (c.attempts t).SamePlace ((c.finishAuth d).attempts t) := settleAuth_attempts c d t

@[simp] theorem authenticated_control : (c.authenticated t).toControl = { c.toControl with
    reconnectExhausted := false
    state := .authenticated
    authenticatedBy := some t
    sessions := if (c.attempts t).isReconnect then c.sessions else t :: c.sessions } := by
  unfold authenticated startHeartbeat connectMultiplexer
  cases hr : (c.attempts t).isReconnect <;> cases hh : c.options.heartbeatEnabled <;>
    simp [hr, hh, setState, notifyReadyListeners, modifyAttempt]

/-- On a reconnect the multiplexer has been connected before the restore. -/
@[simp] theorem authenticated_multiplexer : (c.authenticated t).multiplexer =
    if (c.attempts t).isReconnect then c.multiplexer else c.multiplexer.setConnected := by
  unfold authenticated startHeartbeat connectMultiplexer
  cases hr : (c.attempts t).isReconnect <;> cases hh : c.options.heartbeatEnabled <;>
    simp [hr, hh, setState, notifyReadyListeners, modifyAttempt]

/-- The attempt has ended without an error. -/
@[simp] theorem authenticated_attempts : (c.authenticated t).attempts =
    Function.update c.attempts t { c.attempts t with phase := .finished none } := by
  unfold authenticated startHeartbeat connectMultiplexer
  cases hr : (c.attempts t).isReconnect <;> cases hh : c.options.heartbeatEnabled <;>
    simp [hr, hh, setState, notifyReadyListeners, modifyAttempt]

theorem authenticated_readiness : (c.authenticated t).readiness =
    ({ c with reconnectExhausted := false }.setState .authenticated).readiness := by
  unfold authenticated startHeartbeat connectMultiplexer
  cases hr : (c.attempts t).isReconnect <;> cases hh : c.options.heartbeatEnabled <;>
    simp [hr, hh, setState, notifyReadyListeners, modifyAttempt]

/-- The waiters hear that the client is ready. -/
theorem authenticated_notified : (c.authenticated t).Notified := by
  refine (setState_notified { c with reconnectExhausted := false } .authenticated).congr ?_ ?_ ?_
  · rw [authenticated_readiness]
  · rw [authenticated_control]
    rfl
  · rw [authenticated_control]
    rfl

@[simp] theorem emitDisconnect_control :
    c.emitDisconnect.toControl = { c.toControl with disconnects := c.disconnects + 1 } := rfl

@[simp] theorem disconnectMultiplexer_control :
    c.disconnectMultiplexer.toControl = c.toControl := rfl

/-- The session begins with its restore. -/
@[simp] theorem beginRestore_control : (c.beginRestore t).toControl = { c.toControl with
    reconnectRestoreActive := true, sessions := t :: c.sessions } := rfl

/-- The restore sends requests, so the multiplexer is connected first. -/
@[simp] theorem beginRestore_multiplexer :
    (c.beginRestore t).multiplexer = c.multiplexer.setConnected := rfl

@[simp] theorem beginRestore_readiness : (c.beginRestore t).readiness = c.readiness := rfl

@[simp] theorem beginRestore_attempts : (c.beginRestore t).attempts =
    Function.update c.attempts t { c.attempts t with phase := .restoring } := rfl

end

/-- What `waitForHello` continues with. -/
inductive HelloOutcome (c : Connection) (t : TransportId) : Connection → Prop
  | failed (error : ClientError) : HelloOutcome c t (c.catchFailure t error)
  | restoring (closeRequested : c.closeRequested = false)
      (isReconnect : (c.attempts t).isReconnect = true) :
      HelloOutcome c t ((c.finishAuth .resolved).beginRestore t)
  | authenticated (closeRequested : c.closeRequested = false)
      (isReconnect : (c.attempts t).isReconnect = false) :
      HelloOutcome c t ((c.finishAuth .resolved).authenticated t)

/-- After the HELLO a reconnect restores its subscriptions and a first connection is
authenticated, unless the client has been told to close. -/
theorem helloReceived_outcome (c : Connection) (t : TransportId) :
    HelloOutcome c t (c.helloReceived t) := by
  unfold helloReceived
  split
  · exact .failed _
  · rename_i hclose
    split
    · exact .failed _
    · split
      · exact .failed _
      · have hplace := (finishAuth_attempts c .resolved t).isReconnect
        dsimp only
        split
        · rename_i hr
          exact .restoring (Bool.not_eq_true _ ▸ hclose) (hplace.symm.trans hr)
        · rename_i hr
          exact .authenticated (Bool.not_eq_true _ ▸ hclose)
            (hplace.symm.trans (Bool.not_eq_true _ ▸ hr))

/-- What `activeTransport.connect` continues with. -/
inductive ConnectedOutcome (c : Connection) (t : TransportId) : Connection → Prop
  | failed (error : ClientError) : ConnectedOutcome c t (c.catchFailure t error)
  | rejected {c₁ : Connection} (closeRequested : c.closeRequested = false)
      (control : c₁.toControl =
        { c.toControl with state := .authenticating, authOutcome := some t })
      (multiplexer : c₁.multiplexer = c.multiplexer) (notified : c₁.Notified)
      (attempts : ∃ loop, c₁.attempts =
        Function.update c.attempts t { c.attempts t with receiveLoop := loop })
      (error : ClientError) : ConnectedOutcome c t (c₁.catchFailure t error)
  | negotiating {c' : Connection} (closeRequested : c.closeRequested = false)
      (control : c'.toControl =
        { c.toControl with state := .authenticating, authOutcome := some t })
      (multiplexer : c'.multiplexer = c.multiplexer) (notified : c'.Notified)
      (attempts : c'.attempts = Function.update c.attempts t { c.attempts t with
        phase := .negotiating
        sendConnect := .token
        receiveLoop :=
          if !c.receiveLoopAbort && c.transport = some t then .running else .ended }) :
      ConnectedOutcome c t c'

/-- What follows `connect` of the transport: the handshake begins, or the attempt fails. -/
theorem transportConnected_outcome (c : Connection) (t : TransportId) :
    ConnectedOutcome c t (c.transportConnected t) := by
  unfold transportConnected
  split
  · exact .failed _
  · rename_i hclose
    have hopen : c.closeRequested = false := Bool.not_eq_true _ ▸ hclose
    split
    · exact .failed _
    · extract_lets c₁ c₂
      have hnotified : c₂.Notified :=
        (setState_notified ((c.startReceiveLoop t).setState .connected) .authenticating).congr
          rfl rfl rfl
      have hcontrol : c₂.toControl =
          { c.toControl with state := .authenticating, authOutcome := some t } := rfl
      split
      · exact .rejected hopen hcontrol rfl hnotified ⟨_, rfl⟩ _
      · refine .negotiating hopen rfl rfl (hnotified.congr rfl rfl rfl) ?_
        simp [c₂, c₁, createAuthOutcome, startReceiveLoop, modifyAttempt, setState,
          notifyReadyListeners, hopen]

/-! ### The end of a failed attempt -/

/-- The variables of `c`, once the `catch` of attempt `t` has dropped its transport. -/
def dropped (c : Connection) (t : TransportId) (rejectedAuth : Bool) : Control :=
  { c.toControl with
    transport := if c.transport = some t then none else c.transport
    authRejected := rejectedAuth || c.authRejected }

/-- What the `catch` does after `activeTransport.close()`, when the failure it
throws is one of authentication or not. -/
inductive FailureOutcome (c : Connection) (t : TransportId) (rejectedAuth : Bool)
    (c' : Connection) : Prop
  /-- Another incident has closed the connection already. -/
  | handled (wasClosed : c.state = .closed) (multiplexer : c'.multiplexer = c.multiplexer)
      (control : c'.toControl = c.dropped t rejectedAuth)
  | closing (wasOpen : c.state ≠ .closed) (closeRequested : c.closeRequested = true)
      (multiplexer : c'.multiplexer = c.multiplexer)
      (control : c'.toControl = { c.dropped t rejectedAuth with state := .closed })
  | failed (wasOpen : c.state ≠ .closed) (closeRequested : c.closeRequested = false)
      (multiplexer : c'.multiplexer = c.multiplexer.setDisconnected)
      (control : c'.toControl = { c.dropped t rejectedAuth with
        disconnects := c.disconnects + 1
        state := if rejectedAuth then .closed else .disconnected })

/-- Attempt `t` throws. -/
structure Rethrows (c : Connection) (t : TransportId) (rejectedAuth : Bool) (c' : Connection) :
    Prop where
  attempts : ∃ thrown, c'.attempts =
    Function.update c.attempts t { c.attempts t with phase := .finished (some thrown) }
  notified : c.Notified → c'.Notified
  outcome : FailureOutcome c t rejectedAuth c'

/-- A closed client is never ready. -/
theorem readyFailure_of_closed {k : Control} (h : k.state = .closed) : k.readyFailure ≠ none := by
  unfold Control.readyFailure
  rw [h]
  cases k.authRejected <;> simp

/-- The `catch` of `openAndAuthenticate` ends the attempt with the failure it throws. -/
theorem rethrowFailure_rethrows (c : Connection) (t : TransportId) (error : ClientError)
    (unconfirmed wasRestore : Bool) :
    Rethrows c t ((c.catchFailureError error unconfirmed wasRestore).cls = .authentication)
      (c.rethrowFailure t error unconfirmed wasRestore) := by
  unfold rethrowFailure settleFailure
  dsimp only
  -- what is closed stays closed and keeps its waiters
  split
  · rename_i hclosed
    refine ⟨⟨_, rfl⟩, fun hn i hi => ?_, .handled hclosed rfl rfl⟩
    exact absurd (hn i hi).1 (readyFailure_of_closed hclosed)
  · rename_i hopen
    split
    · rename_i hclose
      exact ⟨⟨_, rfl⟩, fun _ => (setState_notified _ _).congr rfl rfl rfl,
        .closing hopen hclose rfl rfl⟩
    · rename_i hclose
      exact ⟨⟨_, rfl⟩, fun _ => (setState_notified _ _).congr rfl rfl rfl,
        .failed hopen (Bool.not_eq_true _ ▸ hclose) rfl rfl⟩

/-! ### The reconnect loop -/

/-- What `runLoop` makes of an attempt that has ended with `failure`. -/
inductive LoopOutcome (c : Connection) (failure : Option ClientError) (c' : Connection) : Prop
  /-- It returns, and leaves the state as it is. -/
  | ended (result : ReconnectLoopResult) (notExhausted : result ≠ .exhausted)
      (why : c.closeRequested = true ∨ failure.all isAbortError = true)
      (control : c'.toControl = { c.toControl with reconnectPromise := .returned result })
      (readiness : c'.readiness = c.readiness)
  | rejected (closeRequested : c.closeRequested = false)
      (control : c'.toControl =
        { c.toControl with state := .closed, reconnectPromise := .returned .closed })
      (notified : c'.Notified)
  | exhausted (closeRequested : c.closeRequested = false)
      (control : c'.toControl =
        { c.toControl with state := .disconnected, reconnectPromise := .returned .exhausted })
      (notified : c'.Notified)
  | retries (closeRequested : c.closeRequested = false) (attempts : Nat)
      (control : c'.toControl =
        { c.toControl with state := .reconnecting, reconnectPromise := .sleeping attempts })
      (notified : c'.Notified)

/-- The loop ends, gives up, or sleeps before the next attempt; neither the requests nor the
attempts change. -/
theorem reconnectAttempted_outcome (c : Connection) (attempts : Nat)
    (failure : Option ClientError) :
    LoopOutcome c failure (c.reconnectAttempted attempts failure) ∧
      (c.reconnectAttempted attempts failure).multiplexer = c.multiplexer ∧
      (c.reconnectAttempted attempts failure).attempts = c.attempts := by
  have notified : ∀ s p, ({ c.setState s with reconnectPromise := p }).Notified := fun s _ =>
    (setState_notified c s).congr rfl rfl rfl
  -- the loop returns after a success, and `reconnectFailed` decides after a failure
  cases failure with
  | none => exact ⟨.ended .connected (by decide) (Or.inr rfl) rfl rfl, rfl, rfl⟩
  | some error =>
      change LoopOutcome c _ (c.reconnectFailed attempts error) ∧
        (c.reconnectFailed attempts error).multiplexer = _ ∧
        (c.reconnectFailed attempts error).attempts = _
      unfold reconnectFailed
      split
      · rename_i hends
        exact ⟨.ended .closed (by decide) hends rfl rfl, rfl, rfl⟩
      · rename_i hgoes
        have hclose : c.closeRequested = false := Bool.not_eq_true _ ▸ (not_or.mp hgoes).1
        split
        · exact ⟨.rejected hclose rfl (notified _ _), rfl, rfl⟩
        · split
          · exact ⟨.exhausted hclose rfl (notified _ _), rfl, rfl⟩
          · unfold runLoopHead
            split
            · exact ⟨.retries hclose _ rfl (notified _ _), rfl, rfl⟩
            · split
              · rename_i hreq
                rw [hclose] at hreq
                cases hreq
              · exact ⟨.exhausted hclose rfl (notified _ _), rfl, rfl⟩

/-! ### close -/

/-- `runClose` takes everything down in one turn. -/
theorem tearDown_fields (c : Connection) :
    c.tearDown.toControl = { c.toControl with
        permanentlyClosed := true
        closeRequested := true
        receiveLoopAbort := true
        state := .closed
        authOutcome := none
        disconnects := c.disconnects + 1
        transport := none } ∧
      c.tearDown.Notified ∧ c.tearDown.multiplexer = c.multiplexer.setDisconnected ∧
      (∀ t, (c.attempts t).SamePlace (c.tearDown.attempts t)) ∧
      ∀ t, (c.tearDown.attempts t).closeCalled = true ↔
        c.transport = some t ∨ (c.attempts t).closeCalled = true := by
  unfold tearDown
  extract_lets c₁ c₂ c₃
  have hcontrol₃ : c₃.toControl = { c.toControl with
      permanentlyClosed := true, closeRequested := true, receiveLoopAbort := true, state := .closed
      authOutcome := none, disconnects := c.disconnects + 1 } := by
    simp only [c₃, emitDisconnect_control, disconnectMultiplexer_control, finishAuth_control]
    rfl
  have hmultiplexer₃ : c₃.multiplexer = c.multiplexer.setDisconnected := by
    change (c₂.finishAuth _).multiplexer.setDisconnected = _
    rw [finishAuth_multiplexer]
    rfl
  have hplace₃ : ∀ t, (c.attempts t).SamePlace (c₃.attempts t) :=
    fun t => finishAuth_attempts c₂ _ t
  have hclosed₃ : ∀ t, (c₃.attempts t).closeCalled = (c.attempts t).closeCalled :=
    settleAuth_closeCalled c₂ _
  have hnotified₂ : c₂.Notified :=
    (setState_notified c₁.stopHeartbeat.clearPartialFrameTimeout .closed).congr rfl rfl rfl
  have hnotified₃ : c₃.Notified := by
    refine hnotified₂.congr ?_ ?_ ?_
    · change (c₂.finishAuth _).readiness.waiters = _
      rw [finishAuth_readiness]
    · rw [hcontrol₃]
      rfl
    · rw [hcontrol₃]
      rfl
  have htransport : c₃.transport = c.transport := by rw [hcontrol₃]
  rw [htransport]
  split
  · rename_i hnone
    refine ⟨?_, hnotified₃, hmultiplexer₃, hplace₃, fun t => ?_⟩
    · rw [hcontrol₃]
      dsimp only
      rw [hnone]
    · rw [hclosed₃, hnone]
      simp
  · rename_i t₀ hsome
    refine ⟨?_, hnotified₃.congr rfl rfl rfl, hmultiplexer₃, fun t => ?_, fun t => ?_⟩
    · change { c₃.toControl with transport := none } = _
      rw [hcontrol₃]
    · have hclose : (c₃.attempts t).SamePlace
          (({ c₃ with transport := none }.callClose t₀).attempts t) := by
        unfold callClose
        rw [modifyAttempt_attempts]
        by_cases ht : t = t₀
        · subst ht
          rw [Function.update_self]
          exact ⟨rfl, rfl, rfl, rfl, fun _ => rfl, fun _ => rfl, id⟩
        · rw [Function.update_of_ne ht]
          exact .refl _
      exact (hplace₃ t).trans hclose
    · rw [hsome, Option.some.injEq, ← hclosed₃ t]
      unfold callClose
      rw [modifyAttempt_attempts]
      by_cases ht : t = t₀
      · subst ht
        simp
      · simp [Function.update_of_ne ht, Ne.symm ht]

end FitzTs.Client.Connection
