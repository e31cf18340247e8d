import FitzTs.Client.Connection.Bystanders
import FitzTs.Client.Connection.Handshake
import FitzTs.Client.Connection.Authenticated
/-!
# FitzTs.Client.Connection.Serving

What happens to an AUTHENTICATED connection.

While the loop opens no transport over it and no second HELLO is accepted
(`KeepsSessions`), an authenticated connection stays on its transport and at its gate
until the listeners of `onDisconnect` are called. A call that is queued at the gate is
refused then; so when the next transport is opened nobody is queued.
-/

namespace FitzTs.Client.Connection

variable {c c' c₀ c₁ : Connection} {i : CallId} {t : TransportId} {e : Event}

/-- The step takes an authenticated connection away without a disconnect: the reconnect
loop opens the next transport, or a HELLO that is accepted replaces the gate. -/
def disturbs (c : Connection) (e : Event) : Bool :=
  c.state = .authenticated &&
    match e with
    | .reconnectWake => !c.closeRequested
    | e => c.acceptsHello e

/-- The connection takes up its sessions one at a time. -/
def KeepsSessions (c : Connection) (e : Event) : Prop := c.WakesAlone e ∧ c.disturbs e = false

instance (c : Connection) (e : Event) : Decidable (c.KeepsSessions e) :=
  inferInstanceAs (Decidable (_ ∧ (_ = false)))

/-- Whoever is authenticated awaits no attempt. -/
structure Settled (c : Connection) : Prop where
  idle : ∀ {t}, (c.attempts t).inProgress = true → c.state ≠ .authenticated
  /-- The loop that is about to learn of a failure finds the connection down. -/
  failed : ∀ {n t error}, c.reconnectPromise = .opening n t →
    (c.attempts t).phase = .finished (some error) → c.state ≠ .authenticated

/-! ### Staying authenticated -/

/-- A step from an authenticated connection. The attempts stay where they are, and as long
as no listener of `onDisconnect` is called, so does the connection. -/
structure Stays (c c' : Connection) : Prop where
  opened : c'.opened = c.opened
  phase : ∀ t, (c'.attempts t).phase = (c.attempts t).phase
  state : c'.disconnects = c.disconnects → c'.state = c.state ∧ c'.transport = c.transport

theorem stays_of_control (hopened : c'.opened = c.opened) (hstate : c'.state = c.state)
    (htransport : c'.transport = c.transport)
    (hattempts : ∀ t, (c'.attempts t).phase = (c.attempts t).phase) : Stays c c' :=
  ⟨hopened, hattempts, fun _ => ⟨hstate, htransport⟩⟩

theorem WindsUp.phase (hw : WindsUp t c c') (t' : TransportId) :
    (c'.attempts t').phase = (c.attempts t').phase := by
  rcases hw.attempts t' with heq | ⟨rfl, heq⟩ <;> rw [heq]

theorem ReportOutcome.stays (ho : ReportOutcome c t c') : Stays c c' := by
  have hreport : ∀ t', ((c.reportLoss t).attempts t').phase = (c.attempts t').phase := by
    intro t'
    rw [reportLoss_attempts]
    by_cases ht : t' = t
    · subst ht
      rw [Function.update_self]
    · rw [Function.update_of_ne ht]
  cases ho with
  | swallowed => exact stays_of_control rfl rfl rfl hreport
  | late => exact stays_of_control rfl rfl rfl hreport
  | @lost c₁ _ _ hl =>
      have hcontrol := hl.control
      have hopened : c₁.opened = c.opened := (congrArg Control.opened hcontrol).trans rfl
      refine ⟨hopened, fun t' => ((hl.attempts t').phase).trans (hreport t'), fun hd => ?_⟩
      exact absurd ((congrArg Control.disconnects hcontrol).symm.trans hd) (Nat.succ_ne_self _)

theorem Stays.trans {c'' : Connection} (h : Stays c c') (h' : Stays c' c'')
    (hd : c''.disconnects = c.disconnects → c'.disconnects = c.disconnects) : Stays c c'' where
  opened := h'.opened.trans h.opened
  phase := fun t => (h'.phase t).trans (h.phase t)
  state := fun heq =>
    have hmid := hd heq
    have hlast := h'.state (heq.trans hmid.symm)
    ⟨hlast.1.trans (h.state hmid).1, hlast.2.trans (h.state hmid).2⟩

theorem Handles.stays {frames : List InboundFrame} (hh : Handles frames c c') : Stays c c' :=
  have hcontrol := hh.control
  stays_of_control (by rw [hcontrol]) (by rw [hcontrol]) (by rw [hcontrol])
    fun t => (hh.attempts t).phase

theorem WindsUp.stays (hw : WindsUp t c c') : Stays c c' :=
  stays_of_control (by rw [hw.control]) (by rw [hw.control]) (by rw [hw.control]) hw.phase

/-- An authenticated connection stays, until it is lost or closed. -/
theorem Effect.stays (he : Effect c e c') (h : c.Settled) (hauth : c.state = .authenticated)
    (hK : c.disturbs e = false) (hs : c.step e = some c') : Stays c c' := by
  -- no attempt is in progress while the connection is authenticated
  have resting : ∀ {t}, (c.attempts t).inProgress = true → False := fun hp => h.idle hp hauth
  cases he with
  | quiet _ hq =>
      have hcontrol := hq.control
      exact stays_of_control (by rw [hcontrol]) (by rw [hcontrol]) (by rw [hcontrol])
        fun t => (hq.attempts t).phase
  | opens _ _ hstate => exact absurd hauth hstate
  | forgets => exact stays_of_control rfl rfl rfl fun _ => rfl
  | closesIdle _ hstate =>
      rw [hauth] at hstate
      cases hstate
  | closes =>
      obtain ⟨hcontrol, -, -, hplace, -⟩ := tearDown_fields { c with closePromise := true }
      refine ⟨by rw [hcontrol], fun t => (hplace t).phase, fun hd => ?_⟩
      rw [hcontrol] at hd
      exact absurd hd (Nat.succ_ne_self _)
  | @connected t _ hphase => exact (resting (t := t) (by simp [Attempt.inProgress, hphase])).elim
  | @fails _ t _ _ hphase =>
      refine (resting (t := t) ?_).elim
      rcases hphase with hphase | hphase <;> simp [Attempt.inProgress, hphase]
  | @negotiated t _ hphase => exact (resting (t := t) (by simp [Attempt.inProgress, hphase])).elim
  | @restoreFails t hphase => exact (resting (t := t) (by simp [Attempt.inProgress, hphase])).elim
  | @restores t hphase => exact (resting (t := t) (by simp [Attempt.inProgress, hphase])).elim
  | @rethrows t _ _ _ _ hphase =>
      exact (resting (t := t) (by simp [Attempt.inProgress, hphase])).elim
  | receives _ hh => exact hh.stays
  | receivesLast hh =>
      have hcontrol := hh.control
      exact hh.stays.trans (endReceiveLoop_windsUp _ _).stays fun _ => by rw [hcontrol]
  | @loses _ t c₀ c₁ _ _ _ hh _ _ ho hw =>
      have hcontrol := hh.control
      have hwinds : c'.disconnects = c₁.disconnects := by rw [hw.control]
      exact (hh.stays.trans ho.stays fun _ => by rw [hcontrol]).trans hw.stays fun heq =>
        hwinds ▸ heq
  | settlesLoss => exact stays_of_control rfl rfl rfl fun _ => rfl
  | wakesClosed => exact stays_of_control rfl rfl rfl fun _ => rfl
  | wakes _ hopen =>
      unfold disturbs at hK
      simp [hauth, hopen] at hK
  -- a failed attempt would not have left the connection authenticated
  | @attempted n _ failure _ hopening hphase ho _ hattempts =>
      have hfailure : failure = none := by
        cases failure with
        | none => rfl
        | some error => exact absurd hauth (h.failed hopening hphase)
      subst hfailure
      simp only [step, reconnectStep, hopening, hphase, Option.some.injEq] at hs
      subst hs
      exact stays_of_control rfl rfl rfl fun _ => rfl
  | returns => exact stays_of_control rfl rfl rfl fun _ => rfl
  | settlesLoop => exact stays_of_control rfl rfl rfl fun _ => rfl

theorem settled_create (options : ConnectionOptions) : (create options).Settled :=
  ⟨fun h => (nomatch h), fun h => (nomatch h)⟩

/-- The connection becomes authenticated by the one attempt that is in progress. -/
theorem Effect.settled (he : Effect c e c') (h : c.Settled) (hn : c.Newest)
    (hK : c.disturbs e = false) (hs : c.step e = some c') : c'.Settled := by
  have recedes : c'.state = .authenticated → Recedes c c' := by
    intro hauth
    rcases he.recedes_or_installs with hr | hi
    · exact hr
    · have hopened := (he.authenticates hauth).1
      rw [hi.opened] at hopened
      exact absurd hopened (Nat.succ_ne_self _)
  constructor
  · intro t hp hauth
    have hprogress := (recedes hauth).inProgress hp
    rcases (he.authenticates hauth).2 with hwas | ⟨t₀, hp₀, -, hdone⟩
    · exact h.idle hprogress hwas
    · obtain rfl : t = t₀ := hn.unique hprogress hp₀
      simp [Attempt.inProgress, hdone] at hp
  · intro n t error hopening hphase hauth
    have hopening₀ := (recedes hauth).opening hopening
    rcases (he.authenticates hauth).2 with hwas | ⟨t₀, hp₀, -, hdone⟩
    · rw [(he.stays h hwas hK hs).phase] at hphase
      exact h.failed hopening₀ hphase hwas
    · obtain rfl : t = t₀ :=
        Nat.succ_injective ((hn.opening hopening₀).trans (hn.inProgress hp₀).symm)
      rw [hdone] at hphase
      cases hphase

/-! ### The frames of the calls -/

/-- Whether the frame is on its way or written. -/
def Sends (c : Connection) (w : Write) : Prop := w ∈ c.writeChain ∨ w ∈ c.written

/-- A frame of a call that was not sent before is one for the installed transport, in the
step in which the call takes up its slot. A request does so with a signal that has not been
aborted. -/
theorem Posts.sends_new (hp : Posts c e c') {w : Write} {id : CorrelationId} (hw : c'.Sends w)
    (hframe : w.frame = .message i id) :
    c.Sends w ∨ ((c.calls i).phase ≠ .notCalled ∧ (c.calls i).unbound = true) ∧
      c.transport = some w.transport ∧
        ((∀ correlation, (c.calls i).kind ≠ .send correlation) →
          (c.calls i).signal ≠ some true) := by
  rcases hw with hw | hw
  · cases hp with
    | still _ hs => exact Or.inl (Or.inl (hs.writeChain ▸ hw))
    | opens _ _ hchain | draws _ _ _ _ _ _ _ _ _ _ hchain | connects _ _ _ hchain =>
        rw [hchain] at hw
        exact Or.inl (Or.inl hw)
    | begins hcalm | resumes hcalm => exact Or.inl (Or.inl (hcalm.writeChain ▸ hw))
    | beats _ _ hchain =>
        rw [hchain] at hw
        rcases List.mem_append.mp hw with hw | hw
        · exact Or.inl (Or.inl hw)
        · obtain rfl := List.mem_singleton.mp hw
          cases hframe
    | binds hunbound hcalled hcurrent _ _ _ _ _ _ hchain _ _ _ _ hwilling =>
        rw [hchain] at hw
        rcases List.mem_append.mp hw with hw | hw
        · exact Or.inl (Or.inl hw)
        · obtain rfl := List.mem_singleton.mp hw
          obtain ⟨rfl, -⟩ := OutboundFrame.message.inj hframe
          exact Or.inr ⟨⟨hcalled, hunbound⟩, hcurrent, hwilling⟩
    | writes _ hnext hchain =>
        rw [hchain] at hw
        exact Or.inl (Or.inl (hnext ▸ List.mem_cons_of_mem _ hw))
  · rcases hp.written_new hw with hw | hw | ⟨hconnect, -⟩
    · exact Or.inl (Or.inr hw)
    · exact Or.inl (Or.inl hw)
    · rw [hframe] at hconnect
      cases hconnect

/-- What a step leaves of a call that has been made: what it is, and that its signal was
aborted. -/
theorem Posts.call_kept (hp : Posts c e c') (h : (c.calls i).phase ≠ .notCalled) :
    (c'.calls i).kind = (c.calls i).kind ∧
      ((c'.calls i).unbound = true → (c.calls i).unbound = true) ∧
        ((c'.calls i).signal = (c.calls i).signal ∨
          (c.calls i).signal = some false ∧ (c'.calls i).signal = some true) := by
  cases hp with
  | still _ hs => exact ⟨(hs.calls i).kind h, (hs.calls i).unbound, (hs.calls i).signal h⟩
  | begins hcalm | resumes hcalm =>
      exact ⟨(hcalm.calls i).kind h, (hcalm.calls i).unbound, (hcalm.calls i).signal h⟩
  | opens _ hcalls => exact ⟨by rw [hcalls], by rw [hcalls]; exact id, Or.inl (by rw [hcalls])⟩
  | connects honly | beats honly | writes honly =>
      exact ⟨by rw [honly.calls], by rw [honly.calls]; exact id, Or.inl (by rw [honly.calls])⟩
  | @draws _ j _ _ hphase _ _ _ _ _ _ _ hothers =>
      have hj : i ≠ j := fun hij => h (hij ▸ hphase)
      exact ⟨by rw [hothers i hj], by rw [hothers i hj]; exact id, Or.inl (by rw [hothers i hj])⟩
  | @binds j _ _ _ _ hunbound _ _ _ _ _ hkind _ hothers _ _ _ _ hsignal =>
      by_cases hj : i = j
      · subst hj
        exact ⟨hkind, fun _ => hunbound, Or.inl hsignal⟩
      · exact ⟨by rw [hothers i hj], by rw [hothers i hj]; exact id, Or.inl (by rw [hothers i hj])⟩

/-- A call is called once. -/
theorem Posts.called (hp : Posts c e c') (h : (c.calls i).phase ≠ .notCalled) :
    (c'.calls i).phase ≠ .notCalled := by
  cases hp with
  | still _ hs => exact (hs.calls i).called h
  | begins hcalm | resumes hcalm => exact (hcalm.calls i).called h
  | opens _ hcalls => rwa [hcalls]
  | connects honly | beats honly | writes honly => rwa [honly.calls]
  | @draws _ j _ _ _ _ _ _ _ _ _ hcalled hothers =>
      by_cases hj : i = j
      · exact hj ▸ hcalled
      · rwa [hothers i hj]
  | @binds j _ _ _ _ _ _ _ _ _ hbound _ _ hothers =>
      by_cases hj : i = j
      · subst hj
        exact fun hp => by rw [Call.unbound, hp] at hbound; cases hbound
      · rwa [hothers i hj]

/-! ### One session after the other -/

/-- What holds of a connection that takes up its sessions one at a time. -/
structure Orderly (c : Connection) : Prop where
  sound : c.Sound
  newest : c.Newest
  settled : c.Settled
  queues : ∀ gate, (c.gates gate).Queues
  called : ∀ {w i id}, c.Sends w → w.frame = .message i id → (c.calls i).phase ≠ .notCalled

theorem orderly_create (options : ConnectionOptions) : (create options).Orderly :=
  ⟨sound_create options, newest_create options, settled_create options,
    fun _ => RequestGate.queues_create _ _, fun h => by rcases h with h | h <;> cases h⟩

theorem Orderly.step (h : c.Orderly) (hK : c.KeepsSessions e) (hs : c.step e = some c') :
    c'.Orderly :=
  have he := step_effect h.sound.multiplexer hs
  have hp := step_posts h.sound.multiplexer hs
  ⟨h.sound.step hs, he.newest h.sound.owned h.newest hK.1,
    he.settled h.settled h.newest hK.2 hs, fun gate => (step_spares hs).queues gate (h.queues gate),
    fun hw hframe => hp.called (by
      rcases hp.sends_new hw hframe with hold | ⟨⟨hcalled, -⟩, -⟩
      · exact h.called hold hframe
      · exact hcalled)⟩

/-- The gate of an authenticated connection is not replaced. -/
theorem Orderly.not_resetsGate (h : c.Orderly) (hK : c.KeepsSessions e)
    (hs : c.step e = some c') (hauth : c.state = .authenticated) : ¬ c.resetsGate e := by
  have hK := hK.2
  unfold disturbs at hK
  rw [hauth] at hK
  cases e with
  | connect => exact fun hne => hne hauth
  | reconnectWake =>
      intro hopen
      have hopen : c.closeRequested = false := hopen
      simp [hopen] at hK
  | attemptClosed t =>
      intro _
      simp only [Connection.step, attemptStep] at hs
      split at hs
      · rename_i hphase
        exact h.settled.idle (t := t) (by simp [Attempt.inProgress, hphase]) hauth
      · cases hs
  | receive t outcome =>
      intro haccepts
      have haccepts : c.acceptsHello (.receive t outcome) = true := haccepts
      simp [haccepts] at hK
  | _ =>
      intro haccepts
      cases haccepts

/-- Until the listeners of `onDisconnect` are called, an authenticated connection stays
authenticated, on its transport and at its gate. -/
theorem Orderly.stays (h : c.Orderly) (hK : c.KeepsSessions e) (hs : c.step e = some c')
    (hauth : c.state = .authenticated) (hd : c'.disconnects = c.disconnects) :
    c'.state = .authenticated ∧ c'.transport = c.transport ∧ c'.requestGate = c.requestGate := by
  have hstays := (step_effect h.sound.multiplexer hs).stays h.settled hauth hK.2 hs
  exact ⟨(hstays.state hd).1.trans hauth, (hstays.state hd).2,
    (step_spares hs).requestGate (h.not_resetsGate hK hs hauth)⟩

/-- A transport is installed by a connection that is not authenticated. -/
theorem Orderly.installs (h : c.Orderly) (hK : c.KeepsSessions e) (hs : c.step e = some c')
    (ht : c'.transport = some t) :
    c.transport = some t ∨ c'.opened ≠ c.opened ∧ c.state ≠ .authenticated := by
  have he := step_effect h.sound.multiplexer hs
  rcases he.recedes_or_installs with hr | hi
  · exact Or.inl (hr.transport ht)
  · have hopened : c'.opened ≠ c.opened := by
      rw [hi.opened]
      exact Nat.succ_ne_self _
    exact Or.inr ⟨hopened, fun hauth => hopened (he.stays h.settled hauth hK.2 hs).opened⟩

/-! ### The steps of a call -/

/-- A request that continues after `waitForReady` asks the gate for a slot, or ends. -/
theorem readyContinues_request (hkind : (c.calls i).kind = .request false)
    (hphase : (c.calls i).phase ≠ .readyForRestore) (hs : c.readyContinues i = some c') :
    c'.toControl = c.toControl ∧ (c'.calls i).kind = .request false ∧
      ((∃ failure, (c'.calls i).phase = .finished failure) ∨
        (c'.calls i).phase = .waitingSlot c'.requestGate ∧ c.state = .authenticated) := by
  have returned : ∀ slot failure, c.waitReturned i slot failure = c' →
      c'.toControl = c.toControl ∧ (c'.calls i).kind = .request false ∧
        ((∃ failure, (c'.calls i).phase = .finished failure) ∨
          (c'.calls i).phase = .waitingSlot c'.requestGate ∧ c.state = .authenticated) := by
    rintro slot failure rfl
    unfold waitReturned
    extract_lets c₁
    have hcontrol : c₁.toControl = c.toControl := by
      change (c.releaseReadyWaitSlot slot).toControl = _
      unfold releaseReadyWaitSlot
      split <;> rfl
    have hcalls : c₁.calls = c.calls := by
      change (c.releaseReadyWaitSlot slot).calls = _
      unfold releaseReadyWaitSlot
      split <;> rfl
    have finish : ∀ failure, (c₁.finishCall i failure).toControl = c.toControl ∧
        ((c₁.finishCall i failure).calls i).kind = .request false ∧
        ∃ failure', ((c₁.finishCall i failure).calls i).phase = .finished failure' := fun failure =>
      ⟨hcontrol, by simp [finishCall, modifyCall, hcalls, hkind], failure,
        by simp [finishCall, modifyCall]⟩
    split
    · exact ⟨(finish _).1, (finish _).2.1, Or.inl (finish _).2.2⟩
    · rw [hcalls, hkind]
      dsimp only
      split
      · exact ⟨(finish _).1, (finish _).2.1, Or.inl (finish _).2.2⟩
      · rename_i hready
        refine ⟨hcontrol, by simp [acquireRequestSlot, modifyCall, modifyGate, hcalls, hkind],
          Or.inr ⟨by simp [acquireRequestSlot, modifyCall, modifyGate], ?_⟩⟩
        unfold Control.ensureAuthenticated at hready
        split at hready
        · cases hready
        · rename_i husable
          rw [hcontrol] at husable
          exact not_not.mp (not_or.mp husable).2
  unfold readyContinues at hs
  split at hs
  · rename_i hrestore
    exact absurd hrestore hphase
  · split at hs
    · exact returned _ _ (Option.some.inj hs)
    · exact returned _ _ (Option.some.inj hs)
    · cases hs
    · cases hs
  · cases hs

theorem unbound_of_readyContinues (hs : c.readyContinues i = some c') :
    (c.calls i).unbound = true := by
  unfold readyContinues at hs
  unfold Call.unbound
  split at hs
  · rename_i hphase
    rw [hphase]
  · rename_i hphase
    rw [hphase]
  · cases hs

theorem releaseAndFinish_call (c : Connection) (i : CallId) (gate : GateId)
    (failure : Option ClientError) : (c.releaseAndFinish i gate failure).calls i =
      { c.calls i with phase := .finished failure } := by
  simp [releaseAndFinish, finishCall, modifyCall, modifyGate]

/-- A request that continues after `acquireRequestSlot` is bound to a transport, or ends. -/
theorem slotContinues_request (hkind : (c.calls i).kind = .request false) {nowMs : Nat}
    (hs : c.slotContinues i nowMs = some c') :
    (c'.calls i).kind = .request false ∧ (c'.calls i).unbound = false := by
  have ends : ∀ gate failure,
      ((c.releaseAndFinish i gate failure).calls i).kind = .request false ∧
        ((c.releaseAndFinish i gate failure).calls i).unbound = false := by
    intro gate failure
    rw [releaseAndFinish_call]
    exact ⟨hkind, rfl⟩
  unfold slotContinues at hs
  split at hs
  · split at hs
    · cases hs
      unfold slotGranted
      split
      · exact ends _ _
      · split
        · exact ends _ _
        · rw [hkind]
          dsimp only
          unfold multiplexerRequest
          extract_lets call r
          split
          · exact ends _ _
          · exact ⟨by simp [modifyCall, sendSerialized, hkind],
              by simp [modifyCall, sendSerialized, Call.unbound]⟩
    · cases hs
      exact ⟨by simp [finishCall, modifyCall, hkind],
        by simp [finishCall, modifyCall, Call.unbound]⟩
    · cases hs
    · cases hs
  · cases hs

/-- A request that continues after `multiplexer.request` ends. -/
theorem callSettles_request (hkind : (c.calls i).kind = .request false)
    (hs : c.callSettles i = some c') :
    (c'.calls i).kind = .request false ∧ ∃ failure, (c'.calls i).phase = .finished failure := by
  unfold callSettles at hs
  split at hs
  · cases hs
    rw [releaseAndFinish_call]
    exact ⟨hkind, _, rfl⟩
  · rename_i gate t error _
    cases hs
    have hloss : Spares (fun _ => False) False c (c.handlePossibleTransportFailure error t) :=
      handlePossibleTransportFailure_spares c error t
    unfold callFailed
    rw [releaseAndFinish_call]
    exact ⟨(hloss.calls i id).2.1.trans hkind, _, rfl⟩
  · cases hs

/-! ### A call that is confined to a transport -/

/-- The step opens a transport. -/
def opensTransport (c : Connection) (e : Event) : Bool :=
  (c.step e).any fun c' => c'.opened ≠ c.opened

/-- A continuation of the call is due: a request that is made while the connection is
authenticated does not park, and its `acquire` has settled unless it is queued. -/
def Due (c : Connection) (i : CallId) : Bool :=
  match (c.calls i).phase with
  | .waitingReady _ => true
  | .waitingSlot gate => (c.gates gate).outcomes i ≠ .queued
  | _ => false

/-- The request `i` reaches no transport but `t`. -/
structure Confined (c : Connection) (i : CallId) (t : TransportId) : Prop where
  kind : (c.calls i).kind = .request false
  called : (c.calls i).phase ≠ .notCalled
  waits : (c.calls i).phase ≠ .readyForRestore
  transport : (c.calls i).unbound = true → ∀ {t'}, c.transport = some t' → t' = t
  queued : ∀ {gate}, (c.calls i).phase = .waitingSlot gate →
    (c.gates gate).outcomes i = .queued → c.state = .authenticated ∧ gate = c.requestGate
  frames : ∀ {w id}, c.Sends w → w.frame = .message i id → w.transport = t

/-- A request starts by waiting for readiness, if it does not fail at once. -/
theorem call_request_fields (c : Connection) (i : CallId) (messageType : MessageType)
    (frameLength : Nat) (signal : Option Bool) :
    let c' := c.call i (.request false) messageType frameLength signal
    (c'.calls i).kind = .request false ∧
      ((∃ slot, (c'.calls i).phase = .waitingReady slot) ∨
        ∃ failure, (c'.calls i).phase = .finished failure) ∧
      c'.toControl = c.toControl ∧ c'.writeChain = c.writeChain ∧ c'.written = c.written := by
  unfold call
  dsimp only
  rw [if_neg (by simp [restoreShortcut])]
  unfold acquireSlotAndWait
  split
  · rename_i error _
    refine ⟨by simp [finishCall, modifyCall, startCall], Or.inr ⟨some error, ?_⟩, rfl, rfl, rfl⟩
    simp [finishCall, modifyCall]
  · rename_i slot readiness _
    refine ⟨by simp [modifyCall, startCall, waitForReady], Or.inl ⟨slot, ?_⟩, rfl, rfl, rfl⟩
    simp [modifyCall]

/-- A request that is made on an authenticated connection is confined to its transport. -/
theorem confined_call (ht : c.transport = some t)
    (hsilent : ∀ {w id}, c.Sends w → w.frame ≠ .message i id) (messageType : MessageType)
    (frameLength : Nat) (signal : Option Bool) :
    Confined (c.call i (.request false) messageType frameLength signal) i t := by
  obtain ⟨hkind, hphase, hcontrol, hchain, hwritten⟩ :=
    call_request_fields c i messageType frameLength signal
  refine ⟨hkind, ?_, ?_, fun _ {t'} ht' => ?_, fun {gate} hslot => ?_, fun {w id} hw hframe => ?_⟩
  · rcases hphase with ⟨slot, hp⟩ | ⟨failure, hp⟩ <;> rw [hp] <;> exact fun h => (nomatch h)
  · rcases hphase with ⟨slot, hp⟩ | ⟨failure, hp⟩ <;> rw [hp] <;> exact fun h => (nomatch h)
  · rw [hcontrol, ht] at ht'
    exact (Option.some.inj ht').symm
  · rcases hphase with ⟨slot, hp⟩ | ⟨failure, hp⟩ <;> rw [hp] at hslot <;> cases hslot
  · unfold Sends at hw
    rw [hchain, hwritten] at hw
    exact absurd hframe (hsilent hw)

/-- A request that has not been given a transport is due, unless it is queued. -/
theorem Confined.due_or_queued (h : c.Confined i t) (hunbound : (c.calls i).unbound = true) :
    c.Due i = true ∨ ∃ gate, (c.calls i).phase = .waitingSlot gate ∧
      (c.gates gate).outcomes i = .queued := by
  have hcalled := h.called
  have hwaits := h.waits
  unfold Call.unbound at hunbound
  unfold Due
  cases hphase : (c.calls i).phase with
  | notCalled => exact absurd hphase hcalled
  | readyForRestore => exact absurd hphase hwaits
  | waitingReady slot => exact Or.inl rfl
  | waitingSlot gate =>
      by_cases hqueued : (c.gates gate).outcomes i = .queued
      · exact Or.inr ⟨gate, rfl, hqueued⟩
      · exact Or.inl (decide_eq_true hqueued)
  | requesting | sending | finished =>
      rw [hphase] at hunbound
      cases hunbound

/-- A step of the call itself leads it on, to the gate that is in use or out of it. -/
theorem Confined.moves (h : c.Confined i t) (hmover : mover e = some i) (hs : c.step e = some c') :
    (c'.calls i).kind = .request false ∧
      ((c'.calls i).unbound = false ∨ (c.calls i).unbound = true ∧ c'.toControl = c.toControl ∧
        (c'.calls i).phase = .waitingSlot c'.requestGate ∧ c.state = .authenticated) := by
  have ended : ∀ {failure}, (c'.calls i).phase = .finished failure →
      (c'.calls i).unbound = false := fun hphase => by rw [Call.unbound, hphase]
  cases e with
  | connect =>
      obtain rfl := Option.some.inj hmover
      simp only [Connection.step] at hs
      rw [if_neg h.called] at hs
      cases hs
  | call =>
      obtain rfl := Option.some.inj hmover
      simp only [Connection.step, callStep] at hs
      rw [if_neg h.called] at hs
      cases hs
  | readyContinues =>
      obtain rfl := Option.some.inj hmover
      obtain ⟨hcontrol, hkind, ⟨failure, hphase⟩ | ⟨hphase, hauth⟩⟩ :=
        readyContinues_request h.kind h.waits hs
      · exact ⟨hkind, Or.inl (ended hphase)⟩
      · exact ⟨hkind, Or.inr ⟨unbound_of_readyContinues hs, hcontrol, hphase, hauth⟩⟩
  | slotContinues =>
      obtain rfl := Option.some.inj hmover
      obtain ⟨hkind, hbound⟩ := slotContinues_request h.kind hs
      exact ⟨hkind, Or.inl hbound⟩
  | callSettles =>
      obtain rfl := Option.some.inj hmover
      obtain ⟨hkind, failure, hphase⟩ := callSettles_request h.kind hs
      exact ⟨hkind, Or.inl (ended hphase)⟩
  | _ => cases hmover

/-- Unless a transport is opened while its continuation is due, a confined request stays
confined. -/
theorem Confined.step (h : c.Confined i t) (ho : c.Orderly) (hK : c.KeepsSessions e)
    (hdue : c.Due i = true → c'.opened = c.opened) (hs : c.step e = some c') :
    c'.Confined i t := by
  have hspares := step_spares hs
  have hposts := step_posts ho.sound.multiplexer hs
  have frames : ∀ {w id}, c'.Sends w → w.frame = .message i id → w.transport = t := by
    intro w id hw hframe
    rcases hposts.sends_new hw hframe with hold | ⟨⟨-, hunbound⟩, hcurrent, -⟩
    · exact h.frames hold hframe
    · exact h.transport hunbound hcurrent
  -- Nobody is queued at a connection that opens a transport.
  have transport : (c.calls i).unbound = true → ∀ {t'}, c'.transport = some t' → t' = t := by
    intro hunbound t' ht
    rcases ho.installs hK hs ht with hold | ⟨hopened, hdown⟩
    · exact h.transport hunbound hold
    · rcases h.due_or_queued hunbound with hd | ⟨gate, hslot, hqueued⟩
      · exact absurd (hdue hd) hopened
      · exact absurd (h.queued hslot hqueued).1 hdown
  by_cases hmover : mover e = some i
  · obtain ⟨hkind, hmoves⟩ := h.moves hmover hs
    have hcalled : (c'.calls i).phase ≠ .notCalled ∧ (c'.calls i).phase ≠ .readyForRestore := by
      rcases hmoves with hbound | ⟨-, -, hslot, -⟩
      · constructor <;> exact fun hp => by rw [Call.unbound, hp] at hbound; cases hbound
      · rw [hslot]
        constructor <;> exact fun hp => by cases hp
    refine ⟨hkind, hcalled.1, hcalled.2, fun hu => ?_, fun {gate} hslot _ => ?_, frames⟩
    · rcases hmoves with hbound | ⟨hunbound, -⟩
      · rw [hbound] at hu
        cases hu
      · exact transport hunbound
    · rcases hmoves with hbound | ⟨-, hcontrol, hslot', hauth⟩
      · rw [Call.unbound, hslot] at hbound
        cases hbound
      · rw [hslot'] at hslot
        exact ⟨by rw [hcontrol]; exact hauth, (CallPhase.waitingSlot.inj hslot).symm⟩
  · obtain ⟨hphase, hkind, -⟩ := hspares.calls i hmover
    refine ⟨hkind.trans h.kind, hphase ▸ h.called, hphase ▸ h.waits, fun hu => ?_,
      fun {gate} hslot hqueued => ?_, frames⟩
    · refine transport ?_
      unfold Call.unbound at hu ⊢
      rwa [hphase] at hu
    · have hslot₀ := hphase ▸ hslot
      have hqueued₀ := hspares.queued gate i hmover hqueued
      obtain ⟨hauth, rfl⟩ := h.queued hslot₀ hqueued₀
      by_cases hd : c'.disconnects = c.disconnects
      · obtain ⟨hauth', -, hgate⟩ := ho.stays hK hs hauth hd
        exact ⟨hauth', hgate.symm⟩
      · exact absurd hqueued (hspares.refuses (ho.not_resetsGate hK hs hauth) hd
          (ho.queues _) i hmover)

end FitzTs.Client.Connection
