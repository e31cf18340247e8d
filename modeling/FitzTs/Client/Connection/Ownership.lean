import FitzTs.Client.Connection.Sound
/-!
# FitzTs.Client.Connection.Ownership

Who may move the connection.

A step installs a transport, or it recedes: the transport goes at most away, and
attempts in progress become fewer. So if no attempt is in progress whenever a
transport is installed, the newest attempt is the only one that acts. `connect`
sees to this by itself. The reconnect loop does not: it can wake while the
attempt of a `connect` is still closing its transport.
-/

namespace FitzTs.Client.Connection

variable {c c' c'' : Connection} {t : TransportId}

/-! ### Receding and installing -/

/-- No transport is installed, and no attempt starts. -/
structure Recedes (c c' : Connection) : Prop where
  opened : c'.opened = c.opened
  transport : ∀ {t}, c'.transport = some t → c.transport = some t
  inProgress : ∀ {t}, (c'.attempts t).inProgress = true → (c.attempts t).inProgress = true
  opening : ∀ {n t}, c'.reconnectPromise = .opening n t → c.reconnectPromise = .opening n t

/-- The next transport is installed: by `connect`, or by the reconnect loop. -/
structure Installs (c : Connection) (e : Event) (c' : Connection) : Prop where
  opener : c.connectPromise = none ∧ c.reconnectPromise = .idle ∨
    e = .reconnectWake ∧ c.closeRequested = false ∧ ∃ n, c.reconnectPromise = .sleeping n
  opened : c'.opened = c.opened + 1
  transport : c'.transport = some c.opened
  attempts : ∃ isReconnect signal, c'.attempts =
    Function.update c.attempts c.opened { phase := .connecting, isReconnect, signal }
  opening : ∀ {n t}, c'.reconnectPromise = .opening n t → t = c.opened

theorem Recedes.trans (h : Recedes c c') (h' : Recedes c' c'') : Recedes c c'' :=
  ⟨h'.opened.trans h.opened, fun ht => h.transport (h'.transport ht),
    fun hp => h.inProgress (h'.inProgress hp), fun ho => h.opening (h'.opening ho)⟩

/-- Variables of the same values, and attempts in the same places. -/
theorem recedes_of_samePlace (hopened : c'.opened = c.opened)
    (htransport : c'.transport = c.transport) (hloop : c'.reconnectPromise = c.reconnectPromise)
    (hattempts : ∀ t, (c.attempts t).SamePlace (c'.attempts t)) : Recedes c c' :=
  ⟨hopened, fun ht => htransport ▸ ht, fun hp => (hattempts _).inProgress ▸ hp,
    fun ho => hloop ▸ ho⟩

/-- One attempt in progress moves on. -/
theorem recedes_of_update (hopened : c'.opened = c.opened)
    (htransport : ∀ {t}, c'.transport = some t → c.transport = some t)
    (hloop : c'.reconnectPromise = c.reconnectPromise) {a : Attempt}
    (hattempts : c'.attempts = Function.update c.attempts t a)
    (hprogress : (c.attempts t).inProgress = true) : Recedes c c' := by
  refine ⟨hopened, htransport, fun {t'} hp => ?_, fun ho => hloop ▸ ho⟩
  by_cases ht : t' = t
  · rw [ht]
    exact hprogress
  · rw [hattempts, Function.update_of_ne ht] at hp
    exact hp

theorem catchFailure_recedes (error : ClientError) (hprogress : (c.attempts t).inProgress = true) :
    Recedes c (c.catchFailure t error) :=
  recedes_of_update rfl id rfl (catchFailure_attempts c t error) hprogress

theorem authenticated_recedes (hprogress : (c.attempts t).inProgress = true) :
    Recedes c (c.authenticated t) := by
  refine recedes_of_update ?_ (fun ht => ?_) ?_ (authenticated_attempts c t) hprogress
  · rw [authenticated_control]
  · rw [authenticated_control] at ht
    exact ht
  · rw [authenticated_control]

theorem Handles.recedes {frames : List InboundFrame} (hh : Handles frames c c') : Recedes c c' :=
  recedes_of_samePlace (by rw [hh.control]) (by rw [hh.control]) (by rw [hh.control]) hh.attempts

theorem ReportOutcome.recedes (ho : ReportOutcome c t c') : Recedes c c' := by
  have hreport : Recedes c (c.reportLoss t) := by
    refine ⟨rfl, id, fun {t'} hp => ?_, id⟩
    unfold reportLoss at hp
    rw [modifyAttempt_attempts] at hp
    by_cases ht : t' = t
    · subst ht
      rw [Function.update_self] at hp
      exact hp
    · rw [Function.update_of_ne ht] at hp
      exact hp
  cases ho with
  | swallowed => exact hreport
  | late => exact ⟨rfl, id, hreport.inProgress, id⟩
  | @lost c₁ _ _ hl =>
      have hopened : c₁.opened = c.opened := by
        rw [hl.control]
        rfl
      have htransport : c₁.transport = c.transport := by
        rw [hl.control]
        rfl
      refine ⟨hopened, fun ht => htransport ▸ ht, fun hp => hreport.inProgress ?_, fun ho => ?_⟩
      · exact (hl.attempts _).inProgress ▸ hp
      · change c₁.reconnectPromise = _ at ho
        cases hl.outcome with
        | closed _ _ hp => exact hp ▸ ho
        | disconnected _ _ _ hp => exact hp ▸ ho
        | reconnecting _ _ _ _ hp =>
            rw [hp] at ho
            cases ho
        | exhausted _ _ _ _ hp =>
            rw [hp] at ho
            cases ho

theorem WindsUp.recedes (hw : WindsUp t c c') : Recedes c c' := by
  refine ⟨by rw [hw.control], fun ht => by rw [hw.control] at ht; exact ht, fun {t'} hp => ?_,
    fun ho => by rw [hw.control] at ho; exact ho⟩
  rcases hw.attempts t' with heq | ⟨rfl, heq⟩
  · rw [heq] at hp
    exact hp
  · rw [heq] at hp
    exact hp

theorem Rethrows.recedes {r : Bool} (hr : Rethrows c t r c')
    (hprogress : (c.attempts t).inProgress = true) : Recedes c c' := by
  obtain ⟨thrown, hattempts⟩ := hr.attempts
  have drops : ∀ {t'}, (c.dropped t r).transport = some t' → c.transport = some t' := by
    intro t' ht
    simp only [dropped] at ht
    split at ht
    · cases ht
    · exact ht
  cases hr.outcome with
  | handled _ _ hcontrol | closing _ _ _ hcontrol | failed _ _ _ hcontrol =>
      exact recedes_of_update (by rw [hcontrol]; rfl)
        (fun ht => drops (by rw [hcontrol] at ht; exact ht)) (by rw [hcontrol]; rfl) hattempts
        hprogress

/-- Every step installs a transport or recedes. -/
theorem Effect.recedes_or_installs {e : Event} (he : Effect c e c') :
    Recedes c c' ∨ Installs c e c' := by
  cases he with
  | quiet _ hq =>
      exact Or.inl (recedes_of_samePlace (by rw [hq.control]) (by rw [hq.control])
        (by rw [hq.control]) fun t => (hq.attempts t).samePlace)
  -- `connect` installs when nobody else is at it
  | opens _ _ _ hnone hwait =>
      have hidle := idle_of_connectMustWait hwait
      refine Or.inr ⟨Or.inl ⟨hnone, hidle⟩, rfl, rfl, ⟨_, _, rfl⟩, fun ho => ?_⟩
      rw [show _ = ReconnectLoop.idle from hidle] at ho
      cases ho
  | forgets => exact Or.inl (recedes_of_samePlace rfl rfl rfl fun _ => .refl _)
  | closesIdle => exact Or.inl (recedes_of_samePlace rfl rfl rfl fun _ => .refl _)
  | closes =>
      obtain ⟨hcontrol, -, -, hattempts, -⟩ := tearDown_fields { c with closePromise := true }
      refine Or.inl ⟨by rw [hcontrol], fun ht => ?_, fun hp => ?_, fun ho => ?_⟩
      · rw [hcontrol] at ht
        cases ht
      · exact (hattempts _).inProgress ▸ hp
      · rw [hcontrol] at ho
        exact ho
  | @connected t _ hphase ho =>
      have hprogress : (c.attempts t).inProgress = true := by simp [Attempt.inProgress, hphase]
      cases ho with
      | failed error => exact Or.inl (catchFailure_recedes error hprogress)
      | @rejected c₁ _ hcontrol _ _ hattempts error =>
          obtain ⟨loop, hloop⟩ := hattempts
          have hmid : Recedes c c₁ := recedes_of_update (by rw [hcontrol])
            (fun ht => by rw [hcontrol] at ht; exact ht) (by rw [hcontrol]) hloop hprogress
          refine Or.inl (hmid.trans (catchFailure_recedes error ?_))
          rw [hloop, Function.update_self]
          exact hprogress
      | negotiating _ hcontrol _ _ hattempts =>
          exact Or.inl (recedes_of_update (by rw [hcontrol])
            (fun ht => by rw [hcontrol] at ht; exact ht) (by rw [hcontrol]) hattempts hprogress)
  | fails error _ hphase =>
      refine Or.inl (catchFailure_recedes error ?_)
      rcases hphase with hphase | hphase <;> simp [Attempt.inProgress, hphase]
  | @negotiated t _ hphase _ ho =>
      have hprogress : (c.attempts t).inProgress = true := by simp [Attempt.inProgress, hphase]
      have hfinish : Recedes c (c.finishAuth .resolved) :=
        recedes_of_samePlace (by rw [finishAuth_control]) (by rw [finishAuth_control])
          (by rw [finishAuth_control]) (finishAuth_attempts c .resolved)
      have hprogress' : ((c.finishAuth .resolved).attempts t).inProgress = true :=
        (finishAuth_attempts c .resolved t).inProgress.trans hprogress
      cases ho with
      | failed error => exact Or.inl (catchFailure_recedes error hprogress)
      | restoring =>
          exact Or.inl (hfinish.trans
            (recedes_of_update rfl id rfl (beginRestore_attempts _ t) hprogress'))
      | authenticated => exact Or.inl (hfinish.trans (authenticated_recedes hprogress'))
  | @restoreFails t hphase =>
      have hcatch := catchFailure_recedes (c := { c with reconnectRestoreActive := false }) (t := t)
        connectionClosedError (by simp [Attempt.inProgress, hphase])
      exact Or.inl ⟨hcatch.opened, hcatch.transport, hcatch.inProgress, hcatch.opening⟩
  | @restores t hphase =>
      have hdone := authenticated_recedes (c := { c with reconnectRestoreActive := false }) (t := t)
        (by simp [Attempt.inProgress, hphase])
      exact Or.inl ⟨hdone.opened, hdone.transport, hdone.inProgress, hdone.opening⟩
  | @rethrows t _ _ _ _ hphase hr =>
      exact Or.inl (hr.recedes (by simp [Attempt.inProgress, hphase]))
  | receives _ hh => exact Or.inl hh.recedes
  | receivesLast hh => exact Or.inl (hh.recedes.trans (endReceiveLoop_windsUp _ _).recedes)
  | loses _ _ hh _ _ ho hw => exact Or.inl ((hh.recedes.trans ho.recedes).trans hw.recedes)
  | settlesLoss => exact Or.inl (recedes_of_samePlace rfl rfl rfl fun _ => .refl _)
  | wakesClosed => exact Or.inl ⟨rfl, id, id, fun ho => by cases ho⟩
  -- and so does the loop when it wakes
  | wakes hsleeping hopen =>
      exact Or.inr ⟨Or.inr ⟨rfl, hopen, _, hsleeping⟩, rfl, rfl, ⟨_, _, rfl⟩,
        fun ho => by cases ho; rfl⟩
  | attempted _ _ ho _ hattempts =>
      have hsame : ∀ t, (c.attempts t).SamePlace (c'.attempts t) := fun t => by
        rw [hattempts]
        exact .refl _
      refine Or.inl ?_
      cases ho with
      | ended _ _ _ hcontrol | rejected _ hcontrol | exhausted _ hcontrol | retries _ _ hcontrol =>
          refine ⟨by rw [hcontrol], fun ht => by rw [hcontrol] at ht; exact ht,
            fun hp => (hsame _).inProgress ▸ hp, fun ho => ?_⟩
          rw [hcontrol] at ho
          cases ho
  | returns => exact Or.inl ⟨rfl, id, id, fun ho => by cases ho⟩
  | settlesLoop => exact Or.inl ⟨rfl, id, id, fun ho => by cases ho⟩

/-! ### Becoming authenticated -/

theorem Loses.state_ne (hl : Loses c c') : c'.state ≠ .authenticated := by
  cases hl.outcome with
  | closed _ hs => rw [hs]; decide
  | disconnected _ _ hs => rw [hs]; decide
  | reconnecting _ _ hs => rw [hs]; decide
  | exhausted _ _ hs => rw [hs]; decide

/-- An attempt that is in progress and has got its HELLO makes the connection authenticated,
and ends by it. -/
theorem Effect.authenticates {e : Event} (he : Effect c e c') (h : c'.state = .authenticated) :
    c'.opened = c.opened ∧ (c.state = .authenticated ∨
      ∃ t, (c.attempts t).inProgress = true ∧
        ((c.attempts t).hello = .resolved ∨ (c.attempts t).phase = .restoring) ∧
          (c'.attempts t).phase = .finished none) := by
  cases he with
  | quiet _ hq =>
      have hcontrol := hq.control
      rw [hcontrol] at h ⊢
      exact ⟨rfl, Or.inl h⟩
  | opens => cases h
  | forgets => exact ⟨rfl, Or.inl h⟩
  | closesIdle => exact ⟨rfl, Or.inl h⟩
  | closes =>
      obtain ⟨hcontrol, -⟩ := tearDown_fields { c with closePromise := true }
      rw [hcontrol] at h
      cases h
  | connected _ ho =>
      cases ho with
      | failed => exact ⟨rfl, Or.inl h⟩
      | rejected _ hcontrol =>
          rw [catchFailure_control] at h
          rw [hcontrol] at h
          cases h
      | negotiating _ hcontrol =>
          rw [hcontrol] at h
          cases h
  | fails => exact ⟨rfl, Or.inl h⟩
  | @negotiated t _ hphase hhello ho =>
      have hprogress : (c.attempts t).inProgress = true := by simp [Attempt.inProgress, hphase]
      cases ho with
      | failed => exact ⟨rfl, Or.inl h⟩
      | restoring =>
          rw [beginRestore_control, finishAuth_control] at h ⊢
          exact ⟨rfl, Or.inl h⟩
      -- a first connection: there is nothing to restore
      | authenticated =>
          refine ⟨?_, Or.inr ⟨t, hprogress, Or.inl hhello, ?_⟩⟩
          · rw [authenticated_control, finishAuth_control]
          · rw [authenticated_attempts, Function.update_self]
  | restoreFails => exact ⟨rfl, Or.inl h⟩
  -- a reconnect is authenticated after its restore
  | @restores t hphase =>
      refine ⟨?_, Or.inr ⟨t, by simp [Attempt.inProgress, hphase], Or.inr hphase, ?_⟩⟩
      · rw [authenticated_control]
      · rw [authenticated_attempts, Function.update_self]
  | rethrows _ hr =>
      cases hr.outcome with
      | handled _ _ hcontrol =>
          rw [hcontrol] at h ⊢
          exact ⟨rfl, Or.inl h⟩
      | closing _ _ _ hcontrol =>
          rw [hcontrol] at h
          cases h
      | failed _ _ _ hcontrol =>
          rw [hcontrol] at h
          dsimp only at h
          split at h <;> cases h
  -- a frame never changes the state to authenticated
  | receives _ hh =>
      have hcontrol := hh.control
      rw [hcontrol] at h ⊢
      exact ⟨rfl, Or.inl h⟩
  | receivesLast hh =>
      have hcontrol := hh.control
      unfold endReceiveLoop at h ⊢
      rw [modifyAttempt_control, hcontrol] at h ⊢
      exact ⟨rfl, Or.inl h⟩
  | @loses _ _ c₀ _ _ _ _ hh _ _ ho hw =>
      have hcontrol := hh.control
      rw [hw.control] at h ⊢
      have stays : c₀.opened = c.opened ∧ c₀.state = c.state := by
        rw [hcontrol]
        exact ⟨rfl, rfl⟩
      cases ho with
      | swallowed => exact ⟨stays.1, Or.inl (stays.2.symm.trans h)⟩
      | late => exact ⟨stays.1, Or.inl (stays.2.symm.trans h)⟩
      | lost _ _ hl => exact absurd h hl.state_ne
  | settlesLoss => exact ⟨rfl, Or.inl h⟩
  | wakesClosed => exact ⟨rfl, Or.inl h⟩
  | wakes => cases h
  | attempted _ _ ho =>
      cases ho with
      | ended _ _ _ hcontrol =>
          rw [hcontrol] at h ⊢
          exact ⟨rfl, Or.inl h⟩
      | rejected _ hcontrol | exhausted _ hcontrol | retries _ _ hcontrol =>
          rw [hcontrol] at h
          cases h
  | returns => exact ⟨rfl, Or.inl h⟩
  | settlesLoop => exact ⟨rfl, Or.inl h⟩

/-! ### The newest attempt -/

/-- Only the newest attempt is in progress, has its transport installed, and is
awaited by the reconnect loop. -/
structure Newest (c : Connection) : Prop where
  inProgress : ∀ {t}, (c.attempts t).inProgress = true → t + 1 = c.opened
  transport : ∀ {t}, c.transport = some t → t + 1 = c.opened
  opening : ∀ {n t}, c.reconnectPromise = .opening n t → t + 1 = c.opened

theorem Newest.unique {t' : TransportId} (h : c.Newest) (hp : (c.attempts t).inProgress = true)
    (hp' : (c.attempts t').inProgress = true) : t = t' :=
  Nat.succ_injective ((h.inProgress hp).trans (h.inProgress hp').symm)

theorem newest_create (options : ConnectionOptions) : (create options).Newest :=
  ⟨fun h => (by cases h), fun h => (by cases h), fun h => (by cases h)⟩

theorem Recedes.newest (h : Recedes c c') (hn : c.Newest) : c'.Newest where
  inProgress := fun hp => (hn.inProgress (h.inProgress hp)).trans h.opened.symm
  transport := fun ht => (hn.transport (h.transport ht)).trans h.opened.symm
  opening := fun ho => (hn.opening (h.opening ho)).trans h.opened.symm

theorem Installs.newest {e : Event} (h : Installs c e c')
    (hfree : ∀ t, (c.attempts t).inProgress = false) : c'.Newest where
  inProgress := by
    intro t hp
    obtain ⟨isReconnect, signal, hattempts⟩ := h.attempts
    by_cases ht : t = c.opened
    · rw [ht, h.opened]
    · rw [hattempts, Function.update_of_ne ht, hfree t] at hp
      cases hp
  transport := by
    intro t ht
    obtain rfl := Option.some.inj (h.transport.symm.trans ht)
    exact h.opened.symm
  opening := by
    intro n t ho
    rw [h.opening ho, h.opened]

/-- The reconnect loop opens a transport only when the attempt of `connect` has
ended, its `catch` included. -/
def WakesAlone (c : Connection) : Event → Prop
  | .reconnectWake =>
    c.closeRequested = true ∨ c.connectPromise.all (fun t => !(c.attempts t).inProgress) = true
  | _ => True

instance (c : Connection) : ∀ e, Decidable (c.WakesAlone e)
  | .reconnectWake => inferInstanceAs (Decidable (_ ∨ _))
  | .connect .. | .connectSettled .. | .close | .call .. | .readyContinues .. | .slotContinues ..
  | .sendSettles .. | .callSettles .. | .abortCall .. | .waitTimeout .. | .writeBegins
  | .writeEnds .. | .transportConnect .. | .token .. | .connectSent .. | .helloTimeout ..
  | .abortAttempt .. | .helloSettled .. | .restored .. | .attemptClosed .. | .receive ..
  | .partialFrameTimer | .partialFrameClosed .. | .heartbeatTick | .heartbeatSettled ..
  | .connectionLossSettled | .reconnectAttempted | .reconnectReturned | .reconnectSettled
  | .multiplexerTimer .. | .register .. => isTrue trivial

/-- The loop that wakes alone finds no attempt in progress. -/
theorem Owned.of_wakes (ho : c.Owned) {n : Nat} (hsleeping : c.reconnectPromise = .sleeping n)
    (hopen : c.closeRequested = false) (hK : c.WakesAlone .reconnectWake) :
    ∀ t, (c.attempts t).inProgress = false := by
  intro t
  refine Bool.not_eq_true _ ▸ fun hp => ?_
  have howned := ho t hp
  split at howned
  · obtain ⟨m, hm⟩ := howned
    rw [hsleeping] at hm
    cases hm
  · rcases hK with hclosing | halone
    · rw [hopen] at hclosing
      cases hclosing
    · rw [howned] at halone
      simp [hp] at halone

/-- Whoever opens a transport finds no attempt in progress. -/
theorem Installs.free {e : Event} (h : Installs c e c') (ho : c.Owned) (hK : c.WakesAlone e) :
    ∀ t, (c.attempts t).inProgress = false := by
  rcases h.opener with ⟨hnone, hidle⟩ | ⟨rfl, hopen, n, hsleeping⟩
  · exact ho.of_opens hnone fun n t hn => by rw [hidle] at hn; cases hn
  · exact ho.of_wakes hsleeping hopen hK

theorem Effect.newest {e : Event} (he : Effect c e c') (ho : c.Owned) (hn : c.Newest)
    (hK : c.WakesAlone e) : c'.Newest := by
  rcases he.recedes_or_installs with hr | hi
  · exact hr.newest hn
  · exact hi.newest (hi.free ho hK)

/-- In a run in which the loop wakes alone, the newest attempt is the only one. -/
theorem newest_run {options : ConnectionOptions} {es : List Event}
    (hguard : (machine options).Guarded WakesAlone (create options) es)
    (hrun : (machine options).run es = some c) : c.Newest := by
  have hall : c.Sound ∧ c.Newest :=
    Machine.Guarded.invariant (M := machine options) (I := fun c => c.Sound ∧ c.Newest)
      ⟨sound_create options, newest_create options⟩
      (fun _ _ _ hI hK hst => ⟨hI.1.step hst,
        (step_effect hI.1.multiplexer hst).newest hI.1.owned hI.2 hK⟩) hguard hrun
  exact hall.2

/-! ### Older attempts -/

/-- What belongs to the newest attempt is left alone. -/
structure LeavesAlone (c c' : Connection) : Prop where
  transport : c'.transport = c.transport
  state : c'.state = c.state
  receiveLoopAbort : c'.receiveLoopAbort = c.receiveLoopAbort
  multiplexer : c'.multiplexer = c.multiplexer
  authOutcome : c'.authOutcome = c.authOutcome
  disconnects : c'.disconnects = c.disconnects

theorem leavesAlone_of_control (hcontrol : c'.toControl = c.toControl)
    (hmultiplexer : c'.multiplexer = c.multiplexer) : LeavesAlone c c' :=
  ⟨by rw [hcontrol], by rw [hcontrol], by rw [hcontrol], hmultiplexer, by rw [hcontrol],
    by rw [hcontrol]⟩

theorem LeavesAlone.trans (h : LeavesAlone c c') (h' : LeavesAlone c' c'') : LeavesAlone c c'' :=
  ⟨h'.transport.trans h.transport, h'.state.trans h.state,
    h'.receiveLoopAbort.trans h.receiveLoopAbort, h'.multiplexer.trans h.multiplexer,
    h'.authOutcome.trans h.authOutcome, h'.disconnects.trans h.disconnects⟩

theorem Handles.leavesAlone {frames : List InboundFrame} (hh : Handles frames c c')
    (hmultiplexer : c'.multiplexer = c.multiplexer) : LeavesAlone c c' :=
  ⟨by rw [hh.control], by rw [hh.control], by rw [hh.control], hmultiplexer, by rw [hh.control],
    by rw [hh.control]⟩

/-- A loss reported for a transport that is not installed any more. -/
theorem ReportOutcome.leavesAlone (ho : ReportOutcome c t c') (hstale : c.transport ≠ some t) :
    LeavesAlone c c' := by
  cases ho with
  | swallowed => exact ⟨rfl, rfl, rfl, rfl, rfl, rfl⟩
  | late => exact ⟨rfl, rfl, rfl, rfl, rfl, rfl⟩
  | lost _ hcurrent => exact absurd hcurrent hstale

/-- A continuation of an attempt that is not the newest. -/
theorem Effect.leavesAlone {e : Event} (he : Effect c e c') (hn : c.Newest)
    (hc : c.continues e = some t) (hold : t + 1 < c.opened) : LeavesAlone c c' := by
  have hidle : ∀ {t'}, c.continues e = some t' → (c.attempts t').inProgress = false := by
    intro t' hc'
    obtain rfl := Option.some.inj (hc.symm.trans hc')
    refine Bool.not_eq_true _ ▸ fun hp => ?_
    exact absurd (hn.inProgress hp) hold.ne
  have hstale : ∀ {t'}, c.continues e = some t' → c.transport ≠ some t' := by
    intro t' hc' ht
    obtain rfl := Option.some.inj (hc.symm.trans hc')
    exact absurd (hn.transport ht) hold.ne
  have progress : ∀ {t'}, c.continues e = some t' → (c.attempts t').inProgress = true →
      LeavesAlone c c' := fun hc' hp => absurd hp (by simp [hidle hc'])
  cases he with
  | quiet _ hq hm => exact leavesAlone_of_control hq.control (hm.resolve_left (by simp [hc]))
  | opens | forgets | closesIdle | closes | settlesLoss | wakesClosed | wakes | returns
  | settlesLoop => cases hc
  | connected hphase => exact progress rfl (by simp [Attempt.inProgress, hphase])
  | fails error hcontinues hphase =>
      refine progress hcontinues ?_
      rcases hphase with hphase | hphase <;> simp [Attempt.inProgress, hphase]
  | negotiated hphase => exact progress rfl (by simp [Attempt.inProgress, hphase])
  | restoreFails hphase => exact progress rfl (by simp [Attempt.inProgress, hphase])
  | restores hphase => exact progress rfl (by simp [Attempt.inProgress, hphase])
  | rethrows hphase => exact progress rfl (by simp [Attempt.inProgress, hphase])
  | receives hcurrent => exact absurd hcurrent (hstale rfl)
  | @receivesLast t' _ c₁ hh hcurrent =>
      have hbefore := hh.leavesAlone (by rw [hcurrent.resolve_right (hstale rfl)])
      have hw := endReceiveLoop_windsUp t' c₁
      exact hbefore.trans (leavesAlone_of_control hw.control hw.multiplexer)
  | @loses _ t' c₀ _ _ _ hcontinues hh hcurrent _ ho hw =>
      have hbefore := hh.leavesAlone (hcurrent.resolve_right (hstale hcontinues))
      have hlate : c₀.transport ≠ some t' := by
        rw [hbefore.transport]
        exact hstale hcontinues
      exact (hbefore.trans (ho.leavesAlone hlate)).trans
        (leavesAlone_of_control hw.control hw.multiplexer)
  | @attempted n t' _ _ hopening =>
      have hcontinues : c.continues .reconnectAttempted = some t' := by
        simp only [continues, hopening]
      obtain rfl := Option.some.inj (hc.symm.trans hcontinues)
      exact absurd (hn.opening hopening) hold.ne

/-- In a run in which the reconnect loop wakes alone, no continuation of an attempt
touches the connection once a newer transport is installed. -/
theorem older_leavesAlone {options : ConnectionOptions} {es : List Event} {c : Connection}
    (hguard : (machine options).Guarded WakesAlone (create options) es)
    (hrun : (machine options).run es = some c) {e : Event} {t : TransportId} {c' : Connection}
    (hstep : c.step e = some c') (hcontinues : c.continues e = some t) (hold : t + 1 < c.opened) :
    LeavesAlone c c' :=
  (step_effect (sound_run hrun).multiplexer hstep).leavesAlone (newest_run hguard hrun) hcontinues
    hold

/-- A frame is never completed; while its transport is closed for that, the broker
resets the connection and a reconnect begins. -/
def partialFrameRun : List Event :=
  [.connect 0 none, .transportConnect 0 none, .token 0 none, .connectSent 0 none,
    .receive 0 (.ok (.ok ([.hello 0 4 (.ok ⟨3, 0, 1000000, 10⟩)], true))), .helloSettled 0,
    .connectSettled 0, .partialFrameTimer, .receive 0 (.error ⟨.transport, "reset"⟩),
    .connectionLossSettled, .reconnectWake]

/-- The report of the incomplete frame comes late. -/
theorem older_leavesAlone_partialFrame : ∃ c c' : Connection,
    (machine { reconnectEnabled := true }).run partialFrameRun = some c ∧
      c.step (.partialFrameClosed 0) = some c' ∧ LeavesAlone c c' := by
  have hguard : (machine { reconnectEnabled := true }).Guarded WakesAlone
      (create { reconnectEnabled := true }) partialFrameRun := by decide +kernel
  exact ⟨_, _, rfl, rfl, older_leavesAlone hguard rfl (e := .partialFrameClosed 0) (t := 0) rfl rfl
    (by decide +kernel)⟩

/-- The broker sends GOAWAY and resets the connection before HELLO. The `catch` of
the attempt outlasts the backoff, and then takes the next attempt's connection down. -/
theorem older_leavesAlone_fails :
    ¬ ∀ es c, (machine { reconnectEnabled := true }).run es = some c →
      ∀ (e : Event) (t : TransportId) (c' : Connection), c.step e = some c' →
        c.continues e = some t → t + 1 < c.opened → LeavesAlone c c' := by
  intro h
  obtain ⟨c, hc, hold, hstate⟩ : ∃ c : Connection,
      (machine { reconnectEnabled := true }).run
        [.connect 0 none, .transportConnect 0 none,
          .receive 0 (.ok (.ok ([.goAway 0 (.ok ())], false))),
          .receive 0 (.error ⟨.transport, "reset"⟩), .helloSettled 0, .connectionLossSettled,
          .reconnectWake] = some c ∧ 0 + 1 < c.opened ∧
      ((c.step (.attemptClosed 0)).any (·.state ≠ c.state)) = true :=
    ⟨_, rfl, by decide +kernel, by decide +kernel⟩
  obtain ⟨c', hc', hne⟩ := (Option.any_eq_true _ _).mp hstate
  exact of_decide_eq_true hne (h _ c hc (.attemptClosed 0) 0 c' hc' rfl hold).state

end FitzTs.Client.Connection
