import FitzTs.Client.Connection.Sound
/-!
# FitzTs.Client.Connection.ReconnectWait

Waiting for a reconnect, while one is under way.

A client that has had a session and may reconnect waits in DISCONNECTED for the
reconnect loop. Only `handleConnectionLossOnce` starts the loop, and DISCONNECTED
is reached on other paths too. They are listed in `StaysUnderway`:

* the `catch` of an attempt that nobody but `connect` awaits;
* a loop that ends after its attempt, because of an abort or of a success that has
  been lost since;
* the first frame of a session that arrives when the client is DISCONNECTED;
* a loss that finds the last loop ended and not yet forgotten.
-/

namespace FitzTs.Client

variable {c c' : Connection} {t : TransportId}

namespace Control

variable (k : Control)

/-- The reconnect loop will open a transport, await one, or give up for good. -/
def loopActive : Bool :=
  match k.reconnectPromise with
  | .sleeping _ | .opening _ _ | .returned .exhausted => true
  | _ => false

/-- In this state `connect`, `waitUntilReady` and the requests park. -/
def OffersWait : Prop :=
  k.closeRequested = false ∧ k.state = .disconnected ∧ k.canWaitForReconnect = true

instance : Decidable k.OffersWait := inferInstanceAs (Decidable (_ ∧ _ ∧ _))

end Control

namespace Connection

/-- Attempt `t` is in its `catch`. -/
def catching (c : Connection) (t : TransportId) : Bool :=
  match (c.attempts t).phase with
  | .closing _ _ _ => true
  | _ => false

/-- The attempt that `connect` shares is in its `catch`. -/
def connectFailing (c : Connection) : Bool := c.connectPromise.any c.catching

/-- The reconnect loop is active, or an attempt is still handling its failure. -/
def Underway (c : Connection) : Prop := c.loopActive = true ∨ ∃ t, c.catching t = true

/-- Waiting for a reconnect is offered only while one is under way. -/
def WaitsUnderway (c : Connection) : Prop := c.OffersWait → c.Underway

/-! ### The condition -/

/-- The step reports a loss that is acted on. -/
def TakesLoss (c : Connection) (e : Event) : Prop :=
  c.reportsLoss e ≠ none ∧ c.reportsLoss e = c.transport ∧ c.connectionLossPromise = false

instance (c : Connection) (e : Event) : Decidable (c.TakesLoss e) :=
  inferInstanceAs (Decidable (_ ∧ _ ∧ _))

/-- The `catch` of an attempt ends and sets DISCONNECTED: nothing else has closed
the connection, and the failure is not one of authentication. -/
def failsAttempt (c : Connection) : Event → Bool
  | .attemptClosed t =>
    match (c.attempts t).phase with
    | .closing error unconfirmed wasRestore =>
      !c.closeRequested && c.state ≠ .closed &&
        (c.catchFailureError error unconfirmed wasRestore).cls ≠ .authentication
    | _ => false
  | _ => false

/-- The attempt the loop awaits has ended so that the loop ends too, and does not
count as exhausted: it has succeeded, or was aborted. -/
def endsLoop (c : Connection) : Event → Bool
  | .reconnectAttempted =>
    match c.reconnectPromise with
    | .opening _ t =>
      match (c.attempts t).phase with
      | .finished failure => failure.all isAbortError
      | _ => false
    | _ => false
  | _ => false

/-- The first frames of a session arrive, and the client is DISCONNECTED. -/
def confirmsDisconnected (c : Connection) : Event → Bool
  | .receive t (.ok (.ok (frames, _))) =>
    c.transport = some t && !frames.isEmpty && c.state = .disconnected && !c.sessionConfirmed
  | _ => false

/-- Where a step reaches DISCONNECTED, or begins to offer the wait there, a
reconnect is under way. -/
structure StaysUnderway (c : Connection) (e : Event) : Prop where
  attempt : c.failsAttempt e = true → c.canWaitForReconnect = true → c.loopActive = true
  loop : c.endsLoop e = true → c.OffersWait → c.connectFailing = true
  frames : c.confirmsDisconnected e = true → c.loopActive = true ∨ c.connectFailing = true
  loss : c.TakesLoss e →
    c.reconnectPromise = .idle ∨ c.loopActive = true ∨ c.connectFailing = true

instance (c : Connection) (e : Event) : Decidable (c.StaysUnderway e) :=
  decidable_of_iff
    ((c.failsAttempt e = true → c.canWaitForReconnect = true → c.loopActive = true) ∧
      (c.endsLoop e = true → c.OffersWait → c.connectFailing = true) ∧
      (c.confirmsDisconnected e = true → c.loopActive = true ∨ c.connectFailing = true) ∧
      (c.TakesLoss e →
        c.reconnectPromise = .idle ∨ c.loopActive = true ∨ c.connectFailing = true))
    ⟨fun ⟨h₁, h₂, h₃, h₄⟩ => ⟨h₁, h₂, h₃, h₄⟩, fun ⟨h₁, h₂, h₃, h₄⟩ => ⟨h₁, h₂, h₃, h₄⟩⟩

/-! ### What keeps the wait underway -/

theorem underway_of_connectFailing (h : c.connectFailing = true) : c.Underway := by
  obtain ⟨t, -, ht⟩ := (Option.any_eq_true _ _).mp h
  exact Or.inr ⟨t, ht⟩

/-- An attempt in its `catch` is the one `connect` shares, or the loop awaits it. -/
theorem Underway.cases_owned (ho : c.Owned) (h : c.Underway) :
    c.loopActive = true ∨ c.connectFailing = true := by
  rcases h with hactive | ⟨t, ht⟩
  · exact Or.inl hactive
  · have hprogress : (c.attempts t).inProgress = true := by
      unfold catching at ht
      unfold Attempt.inProgress
      split at ht <;> simp_all
    have howned := ho t hprogress
    split at howned
    · obtain ⟨n, hn⟩ := howned
      refine Or.inl ?_
      unfold Control.loopActive
      rw [hn]
    · refine Or.inr ?_
      unfold connectFailing
      rw [howned]
      exact ht

/-- In another state than DISCONNECTED no wait for a reconnect is offered. -/
theorem waitsUnderway_of_state {s : ConnectionState} (h : c.state = s) (hs : s ≠ .disconnected) :
    c.WaitsUnderway :=
  fun ho => absurd (h.symm.trans ho.2.1) hs

theorem waitsUnderway_of_closing (h : c.closeRequested = true) : c.WaitsUnderway :=
  fun ho => absurd h (by simp [ho.1])

theorem catching_of_phase (h : (c'.attempts t).phase = (c.attempts t).phase) :
    c'.catching t = c.catching t := by
  unfold catching
  rw [h]

/-- The loop and the attempts are where they were. -/
theorem Underway.congr (h : c.Underway) (hloop : c'.reconnectPromise = c.reconnectPromise)
    (hphase : ∀ t, c.catching t = true → (c'.attempts t).phase = (c.attempts t).phase) :
    c'.Underway := by
  rcases h with hactive | ⟨t, ht⟩
  · refine Or.inl ?_
    unfold Control.loopActive at hactive ⊢
    rw [hloop]
    exact hactive
  · exact Or.inr ⟨t, (catching_of_phase (hphase t ht)).trans ht⟩

theorem OffersWait.congr {k k' : Control} (h : k'.OffersWait)
    (hclose : k'.closeRequested = k.closeRequested) (hstate : k'.state = k.state)
    (hwait : k'.canWaitForReconnect = k.canWaitForReconnect) : k.OffersWait :=
  ⟨hclose ▸ h.1, hstate ▸ h.2.1, hwait ▸ h.2.2⟩

/-- A step that changes none of the variables the wait depends on. -/
theorem WaitsUnderway.congr (h : c.WaitsUnderway)
    (hclose : c'.closeRequested = c.closeRequested) (hstate : c'.state = c.state)
    (hwait : c'.canWaitForReconnect = c.canWaitForReconnect)
    (hloop : c'.reconnectPromise = c.reconnectPromise)
    (hphase : ∀ t, c.catching t = true → (c'.attempts t).phase = (c.attempts t).phase) :
    c'.WaitsUnderway :=
  fun ho => (h (OffersWait.congr ho hclose hstate hwait)).congr hloop hphase

/-- The `catch` of an attempt begins. -/
theorem catchFailure_underway (c : Connection) (t : TransportId) (error : ClientError) :
    (c.catchFailure t error).WaitsUnderway := by
  refine fun _ => Or.inr ⟨t, ?_⟩
  simp [catching]

/-- Frames reach the connection. -/
theorem Handles.waitsUnderway {frames : List InboundFrame} (hh : Handles frames c c')
    (h : c.WaitsUnderway)
    (hconfirms : frames ≠ [] → c.state = .disconnected → c.sessionConfirmed = false →
      c.loopActive = true ∨ c.connectFailing = true) : c'.WaitsUnderway := by
  have hcontrol := hh.control
  have hsame : c.Underway → c'.Underway := fun hu =>
    hu.congr (by rw [hcontrol]) fun t _ => (hh.attempts t).phase
  intro ho
  have hstate : c'.state = c.state := by rw [hcontrol]
  rcases hh.sessionConfirmed with ⟨-, hest⟩ | ⟨hconfirmed, -, hne⟩
  · refine hsame (h ⟨?_, ?_, ?_⟩)
    · rw [← ho.1, hcontrol]
    · rw [← ho.2.1, hcontrol]
    · have hwait := ho.2.2
      simp only [Control.canWaitForReconnect, Bool.and_eq_true, Bool.not_eq_true'] at hwait ⊢
      rw [hest] at hwait
      rw [hcontrol] at hwait
      refine ⟨hwait.1, ?_⟩
      rcases hh.authRejected with heq | ⟨htrue, -⟩
      · exact heq ▸ hwait.2
      · rw [htrue] at hwait
        exact absurd hwait.2 (by simp)
  · refine hsame ?_
    rcases hconfirms hne (hstate.symm.trans ho.2.1) hconfirmed with hactive | hfailing
    · exact Or.inl hactive
    · exact underway_of_connectFailing hfailing

theorem WindsUp.waitsUnderway (hw : WindsUp t c c') (h : c.WaitsUnderway) : c'.WaitsUnderway := by
  have hcontrol := hw.control
  refine h.congr (by rw [hcontrol]) (by rw [hcontrol]) (by rw [hcontrol]) (by rw [hcontrol])
    fun t' _ => ?_
  rcases hw.attempts t' with heq | ⟨rfl, heq⟩
  · rw [heq]
  · rw [heq]

/-- A loss is reported. -/
theorem ReportOutcome.waitsUnderway (ho : ReportOutcome c t c') (h : c.WaitsUnderway)
    (hloss : c.transport = some t → c.connectionLossPromise = false →
      c.reconnectPromise = .idle ∨ c.Underway) : c'.WaitsUnderway := by
  have hphase : ∀ t', ((c.reportLoss t).attempts t').phase = (c.attempts t').phase := by
    intro t'
    unfold reportLoss
    rw [modifyAttempt_attempts]
    by_cases ht : t' = t
    · subst ht
      rw [Function.update_self]
    · rw [Function.update_of_ne ht]
  cases ho with
  | swallowed => exact h.congr rfl rfl rfl rfl fun t' _ => hphase t'
  | late => exact h.congr rfl rfl rfl rfl fun t' _ => hphase t'
  | @lost c₁ hidle hcurrent hl =>
      have hrp : (c.reportLoss t).reconnectPromise = c.reconnectPromise := rfl
      cases hl.outcome with
      | closed _ hstate =>
          exact waitsUnderway_of_state hstate (by decide)
      | disconnected _ _ _ hp hloop =>
          intro hoffer
          have henabled : c.options.reconnectEnabled = true := by
            have hwait : c₁.canWaitForReconnect = true := hoffer.2.2
            simp only [Control.canWaitForReconnect, Bool.and_eq_true] at hwait
            rw [hl.control] at hwait
            exact hwait.1.1.1
          rcases hloss hcurrent hidle with hnone | hunder
          · exact absurd hnone (hloop henabled)
          · exact hunder.congr (hp.trans hrp) fun t' _ =>
              ((hl.attempts t').phase).trans (hphase t')
      | reconnecting _ _ hstate =>
          exact waitsUnderway_of_state hstate (by decide)
      | exhausted _ _ _ _ hp =>
          refine fun _ => Or.inl ?_
          unfold Control.loopActive
          rw [show _ = ReconnectLoop.returned .exhausted from hp]

/-- A failed attempt throws. -/
theorem Rethrows.waitsUnderway {rejected : Bool} (hr : Rethrows c t rejected c')
    (hattempt : c.closeRequested = false → c.state ≠ .closed → rejected = false →
      c.canWaitForReconnect = true → c.loopActive = true) : c'.WaitsUnderway := by
  cases hr.outcome with
  | handled hclosed _ hcontrol =>
      refine waitsUnderway_of_state (s := .closed) ?_ (by decide)
      rw [hcontrol]
      exact hclosed
  | closing _ hclose _ hcontrol =>
      refine waitsUnderway_of_closing ?_
      rw [hcontrol]
      exact hclose
  | failed hopen hclose _ hcontrol =>
      intro ho
      have hactive : c'.loopActive = c.loopActive := by
        rw [hcontrol]
        rfl
      have hwait := ho.2.2
      have hstate := ho.2.1
      rw [hcontrol] at hwait hstate
      cases rejected with
      | true => cases hstate
      | false =>
          refine Or.inl (hactive.trans (hattempt hclose hopen rfl ?_))
          simpa [Control.canWaitForReconnect, dropped] using hwait

/-- `runLoop` goes on after an attempt. -/
theorem LoopOutcome.waitsUnderway {failure : Option ClientError} {n : Nat}
    (ho : LoopOutcome c failure c') (hattempts : c'.attempts = c.attempts)
    (hopening : c.reconnectPromise = .opening n t)
    (hphase : (c.attempts t).phase = .finished failure)
    (hends : c.endsLoop .reconnectAttempted = true → c.OffersWait → c.connectFailing = true) :
    c'.WaitsUnderway := by
  cases ho with
  | ended _ _ hwhy hcontrol =>
      intro hoffer
      rw [hcontrol] at hoffer
      have hbefore : c.OffersWait := hoffer
      have hfailing : c.connectFailing = true := by
        refine hends ?_ hbefore
        rcases hwhy with hclose | hall
        · exact absurd hclose (by simp [hbefore.1])
        · simpa only [endsLoop, hopening, hphase] using hall
      obtain ⟨t', -, ht'⟩ := (Option.any_eq_true _ _).mp hfailing
      exact Or.inr ⟨t', (catching_of_phase (by rw [hattempts])).trans ht'⟩
  | rejected _ hcontrol =>
      exact waitsUnderway_of_state (s := .closed) (by rw [hcontrol]) (by decide)
  | exhausted _ hcontrol =>
      refine fun _ => Or.inl ?_
      rw [hcontrol]
      rfl
  | retries _ _ hcontrol =>
      exact waitsUnderway_of_state (s := .reconnecting) (by rw [hcontrol]) (by decide)

theorem Effect.waitsUnderway {e : Event} (he : Effect c e c') (h : c.WaitsUnderway)
    (hK : c.StaysUnderway e) : c'.WaitsUnderway := by
  -- frames that confirm a session again need somebody at work
  have frames : ∀ t' frames pending, e = .receive t' (.ok (.ok (frames, pending))) →
      c.transport = some t' → frames ≠ [] → c.state = .disconnected → c.sessionConfirmed = false →
      c.loopActive = true ∨ c.connectFailing = true := by
    rintro t' frames pending rfl hcurrent hne hstate hconfirmed
    exact hK.frames (by simp [confirmsDisconnected, hcurrent, hne, hstate, hconfirmed])
  cases he with
  | quiet _ hq =>
      have hcontrol := hq.control
      exact h.congr (by rw [hcontrol]) (by rw [hcontrol]) (by rw [hcontrol]) (by rw [hcontrol])
        fun t _ => (hq.attempts t).phase
  | opens => exact waitsUnderway_of_state (s := .connecting) rfl (by decide)
  | forgets => exact h.congr rfl rfl rfl rfl fun _ _ => rfl
  | closesIdle => exact h.congr rfl rfl rfl rfl fun _ _ => rfl
  -- a closed client offers no wait
  | closes =>
      refine waitsUnderway_of_closing ?_
      rw [(tearDown_fields { c with closePromise := true }).1]
  | connected _ ho =>
      cases ho with
      | failed error => exact catchFailure_underway c _ error
      | rejected _ _ _ _ _ error => exact catchFailure_underway _ _ error
      | negotiating _ hcontrol =>
          exact waitsUnderway_of_state (s := .authenticating) (by rw [hcontrol]) (by decide)
  | fails error => exact catchFailure_underway c _ error
  | @negotiated t _ hphase _ ho =>
      cases ho with
      | failed error => exact catchFailure_underway c _ error
      -- the attempt stays at work: it restores the subscriptions
      | restoring =>
          have hcontrol : ((c.finishAuth .resolved).beginRestore t).toControl = { c.toControl with
              authOutcome := none
              reconnectRestoreActive := true
              sessions := t :: c.sessions } := by
            rw [beginRestore_control, finishAuth_control]
          refine h.congr (by rw [hcontrol]) (by rw [hcontrol]) (by rw [hcontrol]; rfl)
            (by rw [hcontrol]) fun t' ht' => ?_
          have hne : t' ≠ t := by
            rintro rfl
            simp [catching, hphase] at ht'
          rw [beginRestore_attempts, Function.update_of_ne hne]
          exact (finishAuth_attempts c .resolved t').phase
      | authenticated =>
          exact waitsUnderway_of_state (s := .authenticated) (by rw [authenticated_control])
            (by decide)
  | restoreFails => exact catchFailure_underway _ _ _
  | restores =>
      exact waitsUnderway_of_state (s := .authenticated) (by rw [authenticated_control]) (by decide)
  -- the one place where an attempt stops being at work
  | @rethrows t error unconfirmed wasRestore _ hphase hr =>
      refine hr.waitsUnderway fun hclose hopen hfailure hwait => hK.attempt ?_ hwait
      simpa [failsAttempt, hphase, hclose, hopen] using hfailure
  | receives hcurrent hh => exact hh.waitsUnderway h (frames _ _ _ rfl hcurrent)
  | @receivesLast t outcome c₁ hh hcurrent =>
      refine (endReceiveLoop_windsUp t c₁).waitsUnderway ?_
      rcases hcurrent with rfl | hcurrent
      · exact h
      · refine hh.waitsUnderway h fun hne => ?_
        simp only [framesOf] at hne
        split at hne
        · rename_i hevent
          exact frames _ _ _ hevent (by cases hevent; exact hcurrent) hne
        · exact absurd rfl hne
  -- after a loss the loop starts, unless the condition names who is at work
  | @loses _ t c₀ _ _ hreports _ hh _ _ ho hw =>
      have hbefore : c₀.WaitsUnderway := hh.waitsUnderway h fun hne => by
        simp only [framesOf] at hne
        split at hne
        · exact frames _ _ _ rfl (current_of_reportsLoss hreports) hne
        · exact absurd rfl hne
      refine hw.waitsUnderway (ho.waitsUnderway hbefore fun hcurrent hidle => ?_)
      rw [hh.control] at hcurrent hidle
      rw [hh.control]
      rcases hK.loss ⟨by simp [hreports], hreports.trans hcurrent.symm, hidle⟩ with
        hnone | hactive | hfailing
      · exact Or.inl hnone
      · exact Or.inr (Underway.congr (Or.inl hactive) (by rw [hh.control])
          fun t' _ => (hh.attempts t').phase)
      · exact Or.inr ((underway_of_connectFailing hfailing).congr (by rw [hh.control])
          fun t' _ => (hh.attempts t').phase)
  | settlesLoss => exact h.congr rfl rfl rfl rfl fun _ _ => rfl
  | wakesClosed _ hclose => exact waitsUnderway_of_closing hclose
  | wakes => exact waitsUnderway_of_state (s := .reconnecting) rfl (by decide)
  | attempted hopening hphase ho _ hattempts =>
      exact ho.waitsUnderway hattempts hopening hphase hK.loop
  -- a loop that has given up takes the offer back
  | @returns result hreturned =>
      intro hoffer
      by_cases hend : result = .exhausted
      · have hwait := hoffer.2.2
        simp [Control.canWaitForReconnect, reconnectReturned, hend] at hwait
      · have hunder : c.Underway := by
          refine h ⟨hoffer.1, hoffer.2.1, ?_⟩
          simpa [Control.canWaitForReconnect, reconnectReturned, hend] using hoffer.2.2
        rcases hunder with hactive | hcatching
        · unfold Control.loopActive at hactive
          rw [hreturned] at hactive
          cases result <;> simp at hactive hend
        · exact Or.inr hcatching
  | settlesLoop hfinished =>
      intro hoffer
      rcases h hoffer with hactive | hcatching
      · unfold Control.loopActive at hactive
        rw [hfinished] at hactive
        simp at hactive
      · exact Or.inr hcatching

/-- In a run whose steps stay underway, waiting for a reconnect is offered only while
one is under way. -/
theorem waitsUnderway_run {options : ConnectionOptions} {es : List Event} {c : Connection}
    (hguard : (machine options).Guarded StaysUnderway (create options) es)
    (hrun : (machine options).run es = some c) : c.WaitsUnderway := by
  have hall : c.Sound ∧ c.WaitsUnderway :=
    Machine.Guarded.invariant (M := machine options) (I := fun c => c.Sound ∧ c.WaitsUnderway)
      ⟨sound_create options, fun hoffer => absurd hoffer.2.2 (by
        simp [Control.canWaitForReconnect, create])⟩
      (fun _ _ _ hI hK hst => ⟨hI.1.step hst,
        (step_effect hI.1.multiplexer hst).waitsUnderway hI.2 hK⟩) hguard hrun
  exact hall.2

/-- A connection is lost, and the first attempt of its reconnect fails. -/
def failedReconnectRun : List Event :=
  [.connect 0 none, .transportConnect 0 none, .token 0 none, .connectSent 0 none,
    .receive 0 (.ok (.ok ([.hello 0 4 (.ok ⟨3, 0, 1000000, 10⟩)], false))), .helloSettled 0,
    .connectSettled 0, .receive 0 (.error ⟨.transport, "reset"⟩), .connectionLossSettled,
    .reconnectWake, .transportConnect 1 (some ⟨.transport, "refused"⟩), .attemptClosed 1]

/-- The wait is offered, and the loop is active. -/
theorem waitsUnderway_run_failedReconnect : ∃ c : Connection,
    (machine { reconnectEnabled := true }).run failedReconnectRun = some c ∧ c.OffersWait ∧
      c.WaitsUnderway := by
  have hguard : (machine { reconnectEnabled := true }).Guarded StaysUnderway
      (create { reconnectEnabled := true }) failedReconnectRun := by decide +kernel
  exact ⟨_, rfl, by decide +kernel, waitsUnderway_run hguard rfl⟩

/-- On a first connect the broker rejects CONNECT because of its wire version. The
rejection has confirmed the session, and nothing reconnects. -/
theorem waitsUnderway_run_fails :
    ¬ ∀ es c, (machine { reconnectEnabled := true }).run es = some c → c.WaitsUnderway := by
  intro h
  obtain ⟨c, hc, hoffer, hidle, hfailing⟩ : ∃ c : Connection,
      (machine { reconnectEnabled := true }).run
        [.connect 0 none, .transportConnect 0 none,
          .receive 0 (.ok (.ok ([.connectRejected 0 (.ok (50, "version"))], false))),
          .helloSettled 0, .attemptClosed 0] = some c ∧
        c.OffersWait ∧ c.loopActive = false ∧ c.connectFailing = false :=
    ⟨_, rfl, by decide +kernel, by decide +kernel, by decide +kernel⟩
  rcases (h _ c hc hoffer).cases_owned (sound_run hc).owned with hactive | hcatching
  · rw [hidle] at hactive
    cases hactive
  · rw [hfailing] at hcatching
    cases hcatching

end Connection

end FitzTs.Client
