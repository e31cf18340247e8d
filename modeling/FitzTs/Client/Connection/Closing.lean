import FitzTs.Client.Connection.Sound
/-!
# FitzTs.Client.Connection.Closing

`close` is final, where it does its work.

From a connection that closes no step leads away: it stays CLOSED, without a
transport, and opens none. But the promise of `close` is made once, and a client
that is CLOSED without having been closed (its credentials were rejected) spends
it on nothing. And a transport that a newer one has replaced is nobody's to close
any more.
-/

namespace FitzTs.Client.Connection

variable {c c' : Connection} {t : TransportId}

/-- The connection is closed for good, with the `n` transports it has opened. -/
structure AtRest (n : TransportId) (c : Connection) : Prop where
  state : c.state = .closed
  transport : c.transport = none
  opened : c.opened = n
  connect : ∀ i signal, ∃ error, (c.connect i signal).1 = .rejected error
  closeCalled : ∀ t, t < n → (c.attempts t).closeCalled = true

theorem closeCalled_update {f : TransportId → Attempt} {a : Attempt}
    (ha : (f t).closeCalled = true → a.closeCalled = true) {t' : TransportId}
    (h : (f t').closeCalled = true) : (Function.update f t a t').closeCalled = true := by
  by_cases ht : t' = t
  · subst ht
    rw [Function.update_self]
    exact ha h
  · rw [Function.update_of_ne ht]
    exact h

/-- No transport is opened, and what has been closed stays closed. -/
structure KeepsClosed (c c' : Connection) : Prop where
  opened : c'.opened = c.opened
  closeRequested : c.closeRequested = true → c'.closeRequested = true
  closeCalled : ∀ {t}, (c.attempts t).closeCalled = true → (c'.attempts t).closeCalled = true

theorem KeepsClosed.trans {c'' : Connection} (h : KeepsClosed c c') (h' : KeepsClosed c' c'') :
    KeepsClosed c c'' :=
  ⟨h'.opened.trans h.opened, fun hc => h'.closeRequested (h.closeRequested hc),
    fun hc => h'.closeCalled (h.closeCalled hc)⟩

theorem keepsClosed_of_update (hopened : c'.opened = c.opened)
    (hrequested : c'.closeRequested = c.closeRequested) {a : Attempt}
    (hattempts : c'.attempts = Function.update c.attempts t a)
    (ha : (c.attempts t).closeCalled = true → a.closeCalled = true) : KeepsClosed c c' :=
  ⟨hopened, fun hc => hrequested.trans hc,
    fun hc => by rw [hattempts]; exact closeCalled_update ha hc⟩

theorem catchFailure_keepsClosed (c : Connection) (t : TransportId) (error : ClientError) :
    KeepsClosed c (c.catchFailure t error) :=
  keepsClosed_of_update rfl rfl (catchFailure_attempts c t error) fun _ => rfl

theorem ReportOutcome.keepsClosed (ho : ReportOutcome c t c') : KeepsClosed c c' := by
  have hreport : KeepsClosed c (c.reportLoss t) := keepsClosed_of_update rfl rfl rfl id
  cases ho with
  | swallowed => exact hreport
  | late => exact ⟨hreport.opened, hreport.closeRequested, hreport.closeCalled⟩
  | @lost c₁ _ _ hl =>
      have hopened : c₁.opened = c.opened := by
        rw [hl.control]
        rfl
      have hrequested : c₁.closeRequested = c.closeRequested := by
        rw [hl.control]
        rfl
      exact ⟨hopened, fun hc => hrequested.trans hc,
        fun hc => (hl.attempts _).closeCalled (hreport.closeCalled hc)⟩

theorem WindsUp.keepsClosed (hw : WindsUp t c c') : KeepsClosed c c' := by
  refine ⟨by rw [hw.control], fun hc => by rw [hw.control]; exact hc, fun {t'} hc => ?_⟩
  rcases hw.attempts t' with heq | ⟨rfl, heq⟩
  · rw [heq]
    exact hc
  · rw [heq]
    exact hc

theorem Handles.keepsClosed {frames : List InboundFrame} (hh : Handles frames c c') :
    KeepsClosed c c' :=
  ⟨by rw [hh.control], fun hc => by rw [hh.control]; exact hc,
    fun hc => (hh.attempts _).closeCalled hc⟩

/-- A client that closes opens no transport, and never takes the close back. -/
theorem Effect.keepsClosed {e : Event} (he : Effect c e c') (hclosing : c.closeRequested = true) :
    KeepsClosed c c' := by
  have same : ∀ {c' : Connection}, c'.opened = c.opened →
      c'.closeRequested = c.closeRequested → c'.attempts = c.attempts → KeepsClosed c c' :=
    fun hopened hrequested hattempts =>
      ⟨hopened, fun hc => hrequested.trans hc, fun hc => by rw [hattempts]; exact hc⟩
  have of_open : ∀ {c' : Connection}, c.closeRequested = false → KeepsClosed c c' := by
    intro c' hopen
    rw [hclosing] at hopen
    cases hopen
  cases he with
  | quiet _ hq =>
      exact ⟨by rw [hq.control], fun hc => by rw [hq.control]; exact hc,
        fun hc => (hq.attempts _).closeCalled hc⟩
  | opens hopen => exact of_open hopen
  | forgets => exact same rfl rfl rfl
  | closesIdle => exact same rfl rfl rfl
  | closes =>
      obtain ⟨hcontrol, -, -, hattempts, -⟩ := tearDown_fields { c with closePromise := true }
      exact ⟨by rw [hcontrol], fun _ => by rw [hcontrol], fun hc => (hattempts _).closeCalled hc⟩
  | connected _ ho =>
      cases ho with
      | failed error => exact catchFailure_keepsClosed c _ error
      | rejected hopen | negotiating hopen => exact of_open hopen
  | fails error => exact catchFailure_keepsClosed c _ error
  | negotiated _ _ ho =>
      cases ho with
      | failed error => exact catchFailure_keepsClosed c _ error
      | restoring hopen | authenticated hopen => exact of_open hopen
  | @restoreFails t =>
      have hcatch := catchFailure_keepsClosed { c with reconnectRestoreActive := false } t
        connectionClosedError
      exact ⟨hcatch.opened, hcatch.closeRequested, hcatch.closeCalled⟩
  | restores _ hopen => exact of_open hopen
  | rethrows _ hr =>
      obtain ⟨thrown, hattempts⟩ := hr.attempts
      cases hr.outcome with
      | handled _ _ hcontrol =>
          exact keepsClosed_of_update (by rw [hcontrol]; rfl) (by rw [hcontrol]; rfl) hattempts id
      | closing _ _ _ hcontrol =>
          exact keepsClosed_of_update (by rw [hcontrol]; rfl) (by rw [hcontrol]; rfl) hattempts id
      | failed _ hopen => exact of_open hopen
  | receives _ hh => exact hh.keepsClosed
  | receivesLast hh => exact hh.keepsClosed.trans (endReceiveLoop_windsUp _ _).keepsClosed
  | loses _ _ hh _ _ ho hw => exact (hh.keepsClosed.trans ho.keepsClosed).trans hw.keepsClosed
  | settlesLoss => exact same rfl rfl rfl
  | wakesClosed => exact same rfl rfl rfl
  | wakes _ hopen => exact of_open hopen
  | attempted _ _ ho _ hattempts =>
      cases ho with
      | ended _ _ _ hcontrol => exact same (by rw [hcontrol]) (by rw [hcontrol]) hattempts
      | rejected hopen | exhausted hopen | retries hopen => exact of_open hopen
  | returns => exact same rfl rfl rfl
  | settlesLoop => exact same rfl rfl rfl

/-- A connection that closes, and has closed every transport it opened, is at rest. -/
theorem atRest_of_closing (hsound : c.ClosedSound) (hclosing : c.closeRequested = true)
    (hcloses : ∀ t, t < c.opened → (c.attempts t).closeCalled = true) : AtRest c.opened c := by
  obtain ⟨hstate, htransport, hpermanent, -⟩ := hsound.closed hclosing
  refine ⟨hstate, htransport, rfl, fun i signal => ⟨connectionClosedError, ?_⟩, hcloses⟩
  simp [connect, hclosing]

/-- It stays so in every run. -/
theorem atRest_runFrom {options : ConnectionOptions} {es : List Event} (hsound : c.Sound)
    (hclosing : c.closeRequested = true)
    (hcloses : ∀ t, t < c.opened → (c.attempts t).closeCalled = true)
    (hrun : (machine options).runFrom c es = some c') : AtRest c.opened c' := by
  have hkept : c'.Sound ∧ c'.closeRequested = true ∧ KeepsClosed c c' :=
    Machine.invariant (M := machine options)
      (I := fun c' => c'.Sound ∧ c'.closeRequested = true ∧ KeepsClosed c c')
      ⟨hsound, hclosing, rfl, fun hc => hc, fun hc => hc⟩
      (fun c₁ e c₂ hI hst => by
        obtain ⟨hs, hc, hk⟩ := hI
        have hstep := (step_effect hs.multiplexer hst).keepsClosed hc
        exact ⟨hs.step hst, hstep.closeRequested hc, hk.trans hstep⟩) hrun
  obtain ⟨hs, hc, hk⟩ := hkept
  rw [← hk.opened]
  refine atRest_of_closing hs.closed hc fun t ht => hk.closeCalled (hcloses t ?_)
  rw [← hk.opened]
  exact ht

/-- The state in which `close` is called leaves it its work: the promise has not
been spent on a connection that was CLOSED already, and the transports that have
been replaced have been closed. -/
def CloseTakesHold (c : Connection) : Prop :=
  (c.closeRequested = true ∨
    c.closePromise = false ∧ ¬ (c.state = .closed ∧ c.transport = none)) ∧
  ∀ t, t < c.opened → c.transport = some t ∨ (c.attempts t).closeCalled = true

/-- A `connect` that is not stopped by a close does not reject at once. -/
theorem connect_not_rejected (hpermanent : c.permanentlyClosed = false)
    (hrequested : c.closeRequested = false) (i : CallId) (error : ClientError) :
    (c.connect i none).1 ≠ .rejected error := by
  unfold connect
  rw [if_neg (by simp [hpermanent, hrequested]), if_neg (by simp)]
  split
  · simp
  · split
    · simp
    · split <;> simp

/-- What `close` does: nothing but the memo, or all its work. -/
theorem close_cases (c : Connection) :
    (c.closePromise = true ∧ c.close = c) ∨
      (c.closePromise = false ∧ c.state = .closed ∧ c.transport = none ∧
        c.close = { c with closePromise := true }) ∨
      (c.closePromise = false ∧ ¬ (c.state = .closed ∧ c.transport = none) ∧
        c.close = { c with closePromise := true }.tearDown) := by
  unfold close
  cases hfirst : c.closePromise with
  | true => exact Or.inl ⟨rfl, if_pos rfl⟩
  | false =>
      refine Or.inr ?_
      rw [if_neg (by simp)]
      by_cases hidle : c.state = .closed ∧ c.transport = none
      · exact Or.inl ⟨rfl, hidle.1, hidle.2, if_pos hidle⟩
      · exact Or.inr ⟨rfl, hidle, if_neg hidle⟩

/-- The run after a call of `close` is at rest throughout, exactly if the call
takes hold. -/
theorem close_final_iff {options : ConnectionOptions} (es : List Event) (c : Connection)
    (hrun : (machine options).run es = some c) :
    (∀ es' c', (machine options).runFrom c.close es' = some c' → AtRest c.opened c') ↔
      c.CloseTakesHold := by
  have hsound : c.Sound := sound_run hrun
  have hsound' : c.close.Sound := hsound.step (e := .close) rfl
  constructor
  · intro h
    have hrest : AtRest c.opened c.close := h [] c.close rfl
    constructor
    · by_contra hno
      obtain ⟨hrequested, hspent⟩ := not_or.mp hno
      have hopen : c.closeRequested = false := Bool.not_eq_true _ ▸ hrequested
      have hpermanent : c.permanentlyClosed = false :=
        Bool.not_eq_true _ ▸ fun hp => hrequested (hsound.closed.requested hp)
      obtain ⟨error, hreject⟩ := hrest.connect 0 none
      rcases close_cases c with ⟨-, heq⟩ | ⟨-, -, -, heq⟩ | ⟨hfirst, hbusy, -⟩
      · rw [heq] at hreject
        exact connect_not_rejected hpermanent hopen 0 error hreject
      · rw [heq] at hreject
        exact connect_not_rejected (c := { c with closePromise := true }) hpermanent hopen 0 error
          hreject
      · exact hspent ⟨hfirst, hbusy⟩
    · intro t ht
      have hclosed := hrest.closeCalled t ht
      rcases close_cases c with ⟨-, heq⟩ | ⟨-, -, -, heq⟩ | ⟨-, -, heq⟩
      · exact Or.inr (heq ▸ hclosed)
      · rw [heq] at hclosed
        exact Or.inr hclosed
      · obtain ⟨-, -, -, -, hcloses⟩ := tearDown_fields { c with closePromise := true }
        rw [heq] at hclosed
        exact (hcloses t).mp hclosed
  · rintro ⟨hholds, hcloses⟩ es' c' hrun'
    -- whichever way it is, `c.close` closes and has closed every transport
    obtain ⟨hclosing, hopened, hall⟩ : c.close.closeRequested = true ∧ c.close.opened = c.opened ∧
        ∀ t, t < c.opened → (c.close.attempts t).closeCalled = true := by
      rcases hholds with hrequested | ⟨hfirst, hbusy⟩
      · obtain ⟨-, htransport, -, hpromise⟩ := hsound.closed.closed hrequested
        have heq : c.close = c := if_pos hpromise
        rw [heq]
        refine ⟨hrequested, rfl, fun t ht => (hcloses t ht).resolve_left ?_⟩
        rw [htransport]
        simp
      · have heq : c.close = { c with closePromise := true }.tearDown := by
          unfold close
          rw [hfirst]
          exact if_neg hbusy
        obtain ⟨hcontrol, -, -, -, hclosed⟩ := tearDown_fields { c with closePromise := true }
        rw [heq]
        exact ⟨by rw [hcontrol], by rw [hcontrol], fun t ht => (hclosed t).mpr (hcloses t ht)⟩
    rw [← hopened] at hall ⊢
    exact atRest_runFrom hsound' hclosing hall hrun'

/-- A client that is connecting is closed. -/
theorem close_final_iff_connecting :
    ∃ c, (machine {}).run [.connect 0 none] = some c ∧
      ((∀ es' c', (machine {}).runFrom c.close es' = some c' → AtRest c.opened c') ↔
        c.CloseTakesHold) :=
  ⟨_, rfl, close_final_iff [.connect 0 none] _ rfl⟩

/-- The broker rejects the credentials; the client closes, and connects again. -/
theorem close_final_fails :
    ¬ ∀ es c, (machine {}).run es = some c → ∀ es' c',
      (machine {}).runFrom c.close es' = some c' → AtRest c.opened c' := by
  intro h
  let es : List Event := [.connect 0 none, .transportConnect 0 none,
    .receive 0 (.ok (.ok ([.connectRejected 0 (.ok (1, "bad token"))], false))), .helloSettled 0,
    .attemptClosed 0, .connectSettled 0]
  obtain ⟨c, hc, hopened⟩ : ∃ c, (machine {}).run es = some c ∧
      (((machine {}).runFrom c.close [.connect 1 none]).any (·.opened ≠ c.opened)) = true :=
    ⟨_, rfl, by decide +kernel⟩
  obtain ⟨c', hc', hne⟩ := (Option.any_eq_true _ _).mp hopened
  exact of_decide_eq_true hne (h es c hc [.connect 1 none] c' hc').opened

end FitzTs.Client.Connection
