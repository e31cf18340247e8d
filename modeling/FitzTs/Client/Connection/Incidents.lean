import FitzTs.Client.Connection.Effects
/-!
# FitzTs.Client.Connection.Incidents

How a connection ends: the loss that is reported for a transport
(`handleConnectionLoss`), the failure of an attempt (its `catch`) and `close`.
-/

namespace FitzTs.Client.Connection

variable {c c' : Connection} {i : CallId} {t t' : TransportId} {error : ClientError}

/-! ### Losses -/

/-- The state and the reconnect loop after a loss. -/
inductive LossOutcome (c c' : Connection) : Prop
  /-- A client that closes, or whose credentials were rejected, does not reconnect. -/
  | closed (why : c.closeRequested = true ∨ c'.authRejected = true) (state : c'.state = .closed)
      (reconnectPromise : c'.reconnectPromise = c.reconnectPromise)
      (reconnectExhausted : c'.reconnectExhausted = c.reconnectExhausted)
  /-- No loop is started: there is none to start, or the last one has not been forgotten. -/
  | disconnected (closeRequested : c.closeRequested = false)
      (authRejected : c'.authRejected = false) (state : c'.state = .disconnected)
      (reconnectPromise : c'.reconnectPromise = c.reconnectPromise)
      (loop : c.options.reconnectEnabled = true → c.reconnectPromise ≠ .idle)
      (reconnectExhausted : c'.reconnectExhausted = false)
  | reconnecting (closeRequested : c.closeRequested = false)
      (authRejected : c'.authRejected = false) (state : c'.state = .reconnecting)
      (idle : c.reconnectPromise = .idle) (reconnectPromise : c'.reconnectPromise = .sleeping 1)
      (reconnectExhausted : c'.reconnectExhausted = false)
  /-- A loop that is allowed no attempt. -/
  | exhausted (closeRequested : c.closeRequested = false)
      (authRejected : c'.authRejected = false) (state : c'.state = .disconnected)
      (idle : c.reconnectPromise = .idle)
      (reconnectPromise : c'.reconnectPromise = .returned .exhausted)
      (reconnectExhausted : c'.reconnectExhausted = false)

/-- The current transport is lost. -/
structure Loses (c c' : Connection) : Prop where
  control : c'.toControl = { c.toControl with
    authRejected := c.isUnconfirmedSessionLoss || c.authRejected
    disconnects := c.disconnects + 1
    state := c'.state
    reconnectPromise := c'.reconnectPromise
    reconnectExhausted := c'.reconnectExhausted }
  outcome : LossOutcome c c'
  multiplexer : c'.multiplexer = c.multiplexer.setDisconnected
  notified : c'.Notified
  attempts : ∀ t, (c.attempts t).SamePlace (c'.attempts t)
  /-- An attempt that still waits for HELLO fails. -/
  authOutcome : ∀ {t}, c.state = .authenticating → c.authOutcome = some t →
    (c.attempts t).authOutcome = .pending → ∃ e, (c'.attempts t).authOutcome = .rejected e
  /-- A loss resolves no authentication. -/
  resolved : ∀ {t}, (c'.attempts t).authOutcome = .resolved → (c.attempts t).authOutcome = .resolved

/-- What `afterLoss` does. -/
theorem afterLoss_outcome (c : Connection) :
    LossOutcome c c.afterLoss ∧
      c.afterLoss.toControl = { c.toControl with
        state := c.afterLoss.state
        reconnectPromise := c.afterLoss.reconnectPromise
        reconnectExhausted := c.afterLoss.reconnectExhausted } ∧
      c.afterLoss.Notified ∧ c.afterLoss.multiplexer = c.multiplexer ∧
      c.afterLoss.attempts = c.attempts := by
  unfold afterLoss
  by_cases hclosed : c.closeRequested = true ∨ c.authRejected = true
  · rw [if_pos hclosed]
    exact ⟨.closed hclosed rfl rfl rfl, rfl, setState_notified _ _, rfl, rfl⟩
  · rw [if_neg hclosed]
    have hclose : c.closeRequested = false := Bool.not_eq_true _ ▸ (not_or.mp hclosed).1
    have hauth : c.authRejected = false := Bool.not_eq_true _ ▸ (not_or.mp hclosed).2
    dsimp only
    by_cases hloop :
        ({ c with reconnectExhausted := false }.setState .disconnected).options.reconnectEnabled =
          true ∧
        ({ c with reconnectExhausted := false }.setState .disconnected).reconnectPromise = .idle
    · rw [if_pos hloop]
      have hidle : c.reconnectPromise = .idle := hloop.2
      unfold runLoopHead
      split
      · exact ⟨.reconnecting hclose hauth rfl hidle rfl rfl, rfl,
          (setState_notified _ _).congr rfl rfl rfl, rfl, rfl⟩
      · split
        · rename_i hreq
          rw [setState_control] at hreq
          exact absurd hreq (by simp [hclose])
        · exact ⟨.exhausted hclose hauth rfl hidle rfl rfl, rfl,
            (setState_notified _ _).congr rfl rfl rfl, rfl, rfl⟩
    · rw [if_neg hloop]
      exact ⟨.disconnected hclose hauth rfl rfl (fun hr hi => hloop ⟨hr, hi⟩) rfl, rfl,
        setState_notified _ _, rfl, rfl⟩

theorem failHandshake_fields (c : Connection) (failure : ClientError) :
    (c.failHandshake failure).toControl = c.toControl ∧
      (c.failHandshake failure).multiplexer = c.multiplexer ∧
      ∀ t, (c.attempts t).SamePlace ((c.failHandshake failure).attempts t) := by
  unfold failHandshake
  split
  · exact ⟨settleAuth_control _ _, settleAuth_multiplexer _ _, settleAuth_attempts c _⟩
  · exact ⟨rfl, rfl, fun _ => .refl _⟩

/-- An outcome that is rejected does not resolve an authentication. -/
theorem settleAuth_rejected (error : ClientError)
    (h : ((c.settleAuth (.rejected error)).attempts t).authOutcome = .resolved) :
    (c.attempts t).authOutcome = .resolved := by
  unfold settleAuth at h
  split at h
  · exact h
  · rename_i t' _
    rw [modifyAttempt_attempts] at h
    by_cases ht : t = t'
    · subst ht
      rw [Function.update_self] at h
      exact (Attempt.settle_eq_resolved h).resolve_right (by simp)
    · rw [Function.update_of_ne ht] at h
      exact h

theorem failHandshake_resolved (failure : ClientError)
    (h : ((c.failHandshake failure).attempts t).authOutcome = .resolved) :
    (c.attempts t).authOutcome = .resolved := by
  unfold failHandshake at h
  split at h
  · exact settleAuth_rejected failure h
  · exact h

theorem failHandshake_authOutcome (failure : ClientError) (hstate : c.state = .authenticating)
    (hvar : c.authOutcome = some t) (hpending : (c.attempts t).authOutcome = .pending) :
    ((c.failHandshake failure).attempts t).authOutcome = .rejected failure := by
  unfold failHandshake settleAuth
  rw [if_pos hstate, hvar]
  simp [Attempt.settleHello, Deferred.settle, hpending]

theorem loseConnection_loses (c : Connection) (error : ClientError) :
    Loses c (c.loseConnection error) := by
  unfold loseConnection
  extract_lets c₁ inferredAuthFailure c₂ c₃ failure
  have hcontrol₃ : c₃.toControl = { c.toControl with
      authRejected := c.isUnconfirmedSessionLoss || c.authRejected
      disconnects := c.disconnects + 1 } := rfl
  obtain ⟨hcontrol₄, hmultiplexer₄, hattempts₄⟩ := failHandshake_fields c₃ failure
  have hauth₄ := fun {t} => failHandshake_authOutcome (c := c₃) (t := t) failure
  have hresolved₄ := fun {t} => failHandshake_resolved (c := c₃) (t := t) failure
  generalize c₃.failHandshake failure = c₄ at *
  obtain ⟨houtcome, hcontrol, hnotified, hmultiplexer, hattempts⟩ := afterLoss_outcome c₄
  rw [hcontrol₄, hcontrol₃] at hcontrol
  refine ⟨hcontrol, ?_, hmultiplexer.trans hmultiplexer₄, hnotified, ?_, ?_, ?_⟩
  · cases houtcome with
    | closed why hs hp he =>
        rw [hcontrol₄] at why hp he
        exact .closed why hs hp he
    | disconnected hc ha hs hp hl he =>
        rw [hcontrol₄] at hc hp hl
        exact .disconnected hc ha hs hp hl he
    | reconnecting hc ha hs hi hp he =>
        rw [hcontrol₄] at hc hi
        exact .reconnecting hc ha hs hi hp he
    | exhausted hc ha hs hi hp he =>
        rw [hcontrol₄] at hc hi
        exact .exhausted hc ha hs hi hp he
  · intro t
    rw [hattempts]
    exact hattempts₄ t
  · intro t hstate hvar hpending
    rw [hattempts]
    exact ⟨failure, hauth₄ hstate hvar hpending⟩
  · intro t hr
    rw [hattempts] at hr
    exact hresolved₄ hr

/-- Mark the transport for which a loss is reported. -/
def reportLoss (c : Connection) (t : TransportId) : Connection :=
  c.modifyAttempt t fun a => { a with lossReported := true }

/-- What becomes of a report: it is swallowed while another one is being handled,
it comes too late for its transport, or the connection is lost. -/
inductive ReportOutcome (c : Connection) (t : TransportId) : Connection → Prop
  | swallowed (busy : c.connectionLossPromise = true) : ReportOutcome c t (c.reportLoss t)
  | late (stale : c.transport ≠ some t) :
      ReportOutcome c t { c.reportLoss t with connectionLossPromise := true }
  | lost {c₁ : Connection} (idle : c.connectionLossPromise = false)
      (current : c.transport = some t) (loses : Loses (c.reportLoss t) c₁) :
      ReportOutcome c t { c₁ with connectionLossPromise := true }

theorem handleConnectionLoss_outcome (c : Connection) (error : ClientError) (t : TransportId) :
    ReportOutcome c t (c.handleConnectionLoss error t) := by
  unfold handleConnectionLoss
  change ReportOutcome c t (if (c.reportLoss t).connectionLossPromise then c.reportLoss t
    else { (c.reportLoss t).handleConnectionLossOnce error t with connectionLossPromise := true })
  by_cases hbusy : c.connectionLossPromise = true
  · rw [if_pos (show (c.reportLoss t).connectionLossPromise = true from hbusy)]
    exact .swallowed hbusy
  · rw [if_neg (show ¬ (c.reportLoss t).connectionLossPromise = true from hbusy)]
    unfold handleConnectionLossOnce
    split
    · rename_i hcurrent
      exact .lost (Bool.not_eq_true _ ▸ hbusy) hcurrent (loseConnection_loses _ error)
    · rename_i hstale
      exact .late hstale

/-! ### The end of a receive loop -/

theorem continueReceiveLoop_cases (c : Connection) (t : TransportId) :
    c.continueReceiveLoop t = c ∧ c.transport = some t ∧ c.receiveLoopAbort = false ∧
        c.closeRequested = false ∨
      c.continueReceiveLoop t = c.endReceiveLoop t ∧
        (c.transport ≠ some t ∨ c.receiveLoopAbort = true ∨ c.closeRequested = true) := by
  unfold continueReceiveLoop
  split
  · rename_i h
    exact Or.inl ⟨rfl, h.2.2, Bool.not_eq_true _ ▸ h.1, Bool.not_eq_true _ ▸ h.2.1⟩
  · rename_i h
    refine Or.inr ⟨rfl, ?_⟩
    by_cases ht : c.transport = some t
    · refine Or.inr ?_
      by_contra hno
      exact h ⟨fun ha => hno (Or.inl ha), fun hc => hno (Or.inr hc), ht⟩
    · exact Or.inl ht

/-! ### Failed attempts -/

@[simp] theorem catchFailure_control (c : Connection) (t : TransportId) (error : ClientError) :
    (c.catchFailure t error).toControl = { c.toControl with
      authOutcome := none, reconnectRestoreActive := false, receiveLoopAbort := true } := rfl

@[simp] theorem catchFailure_multiplexer (c : Connection) (t : TransportId) (error : ClientError) :
    (c.catchFailure t error).multiplexer = c.multiplexer := rfl

@[simp] theorem catchFailure_readiness (c : Connection) (t : TransportId) (error : ClientError) :
    (c.catchFailure t error).readiness = c.readiness := rfl

@[simp] theorem catchFailure_attempts (c : Connection) (t : TransportId) (error : ClientError) :
    (c.catchFailure t error).attempts = Function.update c.attempts t { c.attempts t with
      closeCalled := true
      phase := .closing error c.isUnconfirmedSessionLoss c.reconnectRestoreActive } := by
  simp [catchFailure, callClose, modifyAttempt, stopHeartbeat, Control.isUnconfirmedSessionLoss]

end FitzTs.Client.Connection
