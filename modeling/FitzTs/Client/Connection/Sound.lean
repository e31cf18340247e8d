import FitzTs.Client.Connection.Steps
/-!
# FitzTs.Client.Connection.Sound

What holds of every connection, whatever happens to it.

* Its multiplexer satisfies the multiplexer's own invariant.
* A connection that closes is CLOSED and has no transport.
* An attempt that is in progress is the one `connect` shares, or the one the
  reconnect loop awaits.
-/

namespace FitzTs.Client

variable {c c' c₁ : Connection} {t : TransportId}

/-- The attempt has neither returned nor thrown. -/
def Attempt.inProgress (a : Attempt) : Bool :=
  match a.phase with
  | .unused | .finished _ => false
  | _ => true

theorem Attempt.SamePlace.inProgress {a a' : Attempt} (h : a.SamePlace a') :
    a'.inProgress = a.inProgress := by
  unfold Attempt.inProgress
  rw [h.phase]

namespace Connection

/-! ### The multiplexer -/

theorem setConnected_wellFormed {m : Multiplexer} (h : m.WellFormed) : m.setConnected.WellFormed :=
  Multiplexer.wellFormed_step (e := .setConnected) h rfl

theorem setDisconnected_wellFormed {m : Multiplexer} (h : m.WellFormed) :
    m.setDisconnected.WellFormed :=
  h.of_disconnects (Multiplexer.setDisconnected_disconnects m)

theorem ReportOutcome.wellFormed (h : c.multiplexer.WellFormed) (ho : ReportOutcome c t c') :
    c'.multiplexer.WellFormed := by
  cases ho with
  | swallowed => exact h
  | late => exact h
  | lost _ _ hl =>
      have hm := hl.multiplexer
      rw [show (c.reportLoss t).multiplexer = c.multiplexer from rfl] at hm
      exact hm ▸ setDisconnected_wellFormed h

theorem authenticated_wellFormed (h : c.multiplexer.WellFormed) (t : TransportId) :
    (c.authenticated t).multiplexer.WellFormed := by
  rw [authenticated_multiplexer]
  split
  · exact h
  · exact setConnected_wellFormed h

/-- Every step leads the multiplexer along its own runs. -/
theorem Effect.wellFormed (h : c.multiplexer.WellFormed) {e : Event} (he : Effect c e c') :
    c'.multiplexer.WellFormed := by
  cases he with
  | quiet _ hq => exact hq.multiplexer.wellFormed
  | opens => exact h
  | forgets => exact h
  | closesIdle => exact h
  | closes =>
      obtain ⟨-, -, hm, -⟩ := tearDown_fields { c with closePromise := true }
      exact hm ▸ setDisconnected_wellFormed h
  | connected _ ho =>
      cases ho with
      | failed => exact h
      | rejected _ _ hm => exact hm ▸ h
      | negotiating _ _ hm => exact hm ▸ h
  | fails => exact h
  | negotiated _ _ ho =>
      have hfinish : (c.finishAuth .resolved).multiplexer.WellFormed := by
        rw [finishAuth_multiplexer]
        exact h
      cases ho with
      | failed => exact h
      | restoring => exact setConnected_wellFormed hfinish
      | authenticated => exact authenticated_wellFormed hfinish _
  | restoreFails => exact h
  | restores => exact authenticated_wellFormed (c := { c with reconnectRestoreActive := false }) h _
  | rethrows _ hr =>
      cases hr.outcome with
      | handled _ hm => exact hm ▸ h
      | closing _ _ hm => exact hm ▸ h
      | failed _ _ hm => exact hm ▸ setDisconnected_wellFormed h
  | receives _ hh => exact hh.multiplexer.wellFormed
  | receivesLast hh => exact hh.multiplexer.wellFormed
  | loses _ _ hh _ _ ho hw => exact hw.multiplexer ▸ ho.wellFormed hh.multiplexer.wellFormed
  | settlesLoss => exact h
  | wakesClosed => exact h
  | wakes => exact h
  | attempted _ _ _ hm => exact hm ▸ h
  | returns => exact h
  | settlesLoop => exact h

/-! ### Closing -/

/-- A connection that closes has come to rest. -/
structure Closed (c : Connection) : Prop where
  state : c.state = .closed
  transport : c.transport = none
  permanentlyClosed : c.permanentlyClosed = true
  closePromise : c.closePromise = true

/-- `closeRequested` is set by `close` only, which does all the rest as well. -/
structure ClosedSound (c : Connection) : Prop where
  closed : c.closeRequested = true → c.Closed
  requested : c.permanentlyClosed = true → c.closeRequested = true

theorem ClosedSound.of_control (h : c.ClosedSound)
    (hrequested : c'.closeRequested = c.closeRequested)
    (hpermanent : c'.permanentlyClosed = c.permanentlyClosed)
    (hpromise : c'.closePromise = c.closePromise)
    (hrest : c.closeRequested = true → c'.state = c.state ∧ c'.transport = c.transport) :
    c'.ClosedSound := by
  refine ⟨fun hc => ?_, fun hp => ?_⟩
  · rw [hrequested] at hc
    obtain ⟨hs, ht⟩ := hrest hc
    obtain ⟨hs', ht', hp', hm'⟩ := h.closed hc
    exact ⟨hs.trans hs', ht.trans ht', hpermanent.trans hp', hpromise.trans hm'⟩
  · rw [hrequested]
    exact h.requested (hpermanent ▸ hp)

/-- A loss that takes effect hits a connection that does not close: a closed one
has no transport. -/
theorem ClosedSound.open_of_transport (h : c.ClosedSound) (ht : c.transport = some t) :
    c.closeRequested = false := by
  refine Bool.not_eq_true _ ▸ fun hc => ?_
  rw [(h.closed hc).transport] at ht
  cases ht

theorem ClosedSound.of_report (h : c.ClosedSound) (ho : ReportOutcome c t c') : c'.ClosedSound := by
  cases ho with
  | swallowed => exact h.of_control rfl rfl rfl fun _ => ⟨rfl, rfl⟩
  | late => exact h.of_control rfl rfl rfl fun _ => ⟨rfl, rfl⟩
  | @lost c₁ _ hcurrent hl =>
      have hcontrol := hl.control
      have hopen := h.open_of_transport hcurrent
      refine h.of_control ?_ ?_ ?_ fun hc => ?_
      · change c₁.closeRequested = _
        rw [hcontrol]
        rfl
      · change c₁.permanentlyClosed = _
        rw [hcontrol]
        rfl
      · change c₁.closePromise = _
        rw [hcontrol]
        rfl
      · rw [hopen] at hc
        cases hc

theorem Effect.closedSound (h : c.ClosedSound) {e : Event} (he : Effect c e c') :
    c'.ClosedSound := by
  -- the moves of a connection that does not close
  have of_open : ∀ {c' : Connection}, c.closeRequested = false →
      c'.closeRequested = c.closeRequested → c'.permanentlyClosed = c.permanentlyClosed →
      c'.closePromise = c.closePromise → c'.ClosedSound := by
    intro c' hopen hr hp hm
    refine h.of_control hr hp hm fun hc => ?_
    rw [hopen] at hc
    cases hc
  cases he with
  | quiet _ hq =>
      have hcontrol := hq.control
      exact h.of_control (by rw [hcontrol]) (by rw [hcontrol]) (by rw [hcontrol])
        fun _ => ⟨by rw [hcontrol], by rw [hcontrol]⟩
  | opens hopen => exact of_open hopen rfl rfl rfl
  | forgets => exact h.of_control rfl rfl rfl fun _ => ⟨rfl, rfl⟩
  | closesIdle hfirst hs ht =>
      refine ⟨fun hc => ?_, h.requested⟩
      obtain ⟨-, -, hp, -⟩ := h.closed hc
      exact ⟨hs, ht, hp, rfl⟩
  | closes =>
      obtain ⟨hcontrol, -⟩ := tearDown_fields { c with closePromise := true }
      refine ⟨fun _ => ⟨?_, ?_, ?_, ?_⟩, fun _ => ?_⟩ <;> rw [hcontrol]
  | connected _ ho =>
      cases ho with
      | failed => exact h.of_control rfl rfl rfl fun _ => ⟨rfl, rfl⟩
      | rejected hopen hcontrol =>
          refine of_open hopen ?_ ?_ ?_ <;> rw [catchFailure_control, hcontrol]
      | negotiating hopen hcontrol =>
          refine of_open hopen ?_ ?_ ?_ <;> rw [hcontrol]
  | fails => exact h.of_control rfl rfl rfl fun _ => ⟨rfl, rfl⟩
  | negotiated _ _ ho =>
      cases ho with
      | failed => exact h.of_control rfl rfl rfl fun _ => ⟨rfl, rfl⟩
      | restoring hopen =>
          refine of_open hopen ?_ ?_ ?_ <;> rw [beginRestore_control, finishAuth_control]
      | authenticated hopen =>
          refine of_open hopen ?_ ?_ ?_ <;> rw [authenticated_control, finishAuth_control]
  | restoreFails => exact h.of_control rfl rfl rfl fun _ => ⟨rfl, rfl⟩
  | restores _ hopen =>
      refine of_open hopen ?_ ?_ ?_ <;> rw [authenticated_control]
  | rethrows _ hr =>
      cases hr.outcome with
      | handled _ _ hcontrol =>
          refine h.of_control ?_ ?_ ?_ fun hc => ⟨?_, ?_⟩
          · rw [hcontrol]
            rfl
          · rw [hcontrol]
            rfl
          · rw [hcontrol]
            rfl
          · rw [hcontrol]
            rfl
          · rw [hcontrol, dropped, (h.closed hc).transport]
            rfl
      | closing hnot hc => exact absurd (h.closed hc).state hnot
      | failed _ hopen _ hcontrol =>
          refine of_open hopen ?_ ?_ ?_ <;> rw [hcontrol] <;> rfl
  | receives _ hh =>
      have hcontrol := hh.control
      exact h.of_control (by rw [hcontrol]) (by rw [hcontrol]) (by rw [hcontrol])
        fun _ => ⟨by rw [hcontrol], by rw [hcontrol]⟩
  | @receivesLast t _ c₁ hh =>
      have hcontrol : (c₁.endReceiveLoop t).toControl = _ := hh.control
      exact h.of_control (by rw [hcontrol]) (by rw [hcontrol]) (by rw [hcontrol])
        fun _ => ⟨by rw [hcontrol], by rw [hcontrol]⟩
  | @loses _ t c₀ _ _ _ _ hh _ _ ho hw =>
      have hcontrol := hh.control
      have hbefore : c₀.ClosedSound :=
        h.of_control (by rw [hcontrol]) (by rw [hcontrol]) (by rw [hcontrol])
          fun _ => ⟨by rw [hcontrol], by rw [hcontrol]⟩
      have hafter := hbefore.of_report ho
      have hcontrol' := hw.control
      exact hafter.of_control (by rw [hcontrol']) (by rw [hcontrol']) (by rw [hcontrol'])
        fun _ => ⟨by rw [hcontrol'], by rw [hcontrol']⟩
  | settlesLoss => exact h.of_control rfl rfl rfl fun _ => ⟨rfl, rfl⟩
  | wakesClosed => exact h.of_control rfl rfl rfl fun _ => ⟨rfl, rfl⟩
  | wakes _ hopen => exact of_open hopen rfl rfl rfl
  | attempted _ _ ho =>
      cases ho with
      | ended _ _ _ hcontrol =>
          exact h.of_control (by rw [hcontrol]) (by rw [hcontrol]) (by rw [hcontrol])
            fun _ => ⟨by rw [hcontrol], by rw [hcontrol]⟩
      | rejected hopen hcontrol =>
          refine of_open hopen ?_ ?_ ?_ <;> rw [hcontrol]
      | exhausted hopen hcontrol =>
          refine of_open hopen ?_ ?_ ?_ <;> rw [hcontrol]
      | retries hopen _ hcontrol =>
          refine of_open hopen ?_ ?_ ?_ <;> rw [hcontrol]
  | returns => exact h.of_control rfl rfl rfl fun _ => ⟨rfl, rfl⟩
  | settlesLoop => exact h.of_control rfl rfl rfl fun _ => ⟨rfl, rfl⟩

/-! ### Who awaits an attempt -/

/-- An attempt in progress is awaited: by the reconnect loop, or by `connect`. -/
def Owned (c : Connection) : Prop :=
  ∀ t, (c.attempts t).inProgress = true →
    if (c.attempts t).isReconnect then ∃ n, c.reconnectPromise = .opening n t
    else c.connectPromise = some t

/-- The promises that an attempt in progress is awaited through are kept. -/
structure KeepsPromises (c c' : Connection) : Prop where
  connectPromise : c'.connectPromise = c.connectPromise
  opening : ∀ {n t}, c.reconnectPromise = .opening n t → c'.reconnectPromise = .opening n t

theorem KeepsPromises.of_control (hc : c'.connectPromise = c.connectPromise)
    (hr : c'.reconnectPromise = c.reconnectPromise) : KeepsPromises c c' :=
  ⟨hc, fun h => hr.trans h⟩

/-- Attempts that are where they were, and the one that moves, stay owned. -/
theorem Owned.of_attempts (h : c.Owned) (hp : KeepsPromises c c')
    (hattempts : ∀ t, (c'.attempts t).inProgress = true →
      (c.attempts t).inProgress = true ∧
        (c'.attempts t).isReconnect = (c.attempts t).isReconnect) : c'.Owned := by
  intro t ht
  obtain ⟨hold, hr⟩ := hattempts t ht
  have howned := h t hold
  rw [hr]
  split
  · rename_i hrec
    rw [if_pos hrec] at howned
    obtain ⟨n, hn⟩ := howned
    exact ⟨n, hp.opening hn⟩
  · rename_i hrec
    rw [if_neg hrec] at howned
    exact hp.connectPromise.trans howned

/-- Attempts that all stay in their places. -/
theorem Owned.of_samePlace (h : c.Owned) (hp : KeepsPromises c c')
    (hattempts : ∀ t, (c.attempts t).SamePlace (c'.attempts t)) : c'.Owned :=
  h.of_attempts hp fun t ht =>
    ⟨(hattempts t).inProgress ▸ ht, (hattempts t).isReconnect⟩

/-- One attempt moves on, and is still the same attempt. -/
theorem Owned.of_update (h : c.Owned) (hp : KeepsPromises c c') {a : Attempt}
    (hattempts : c'.attempts = Function.update c.attempts t a)
    (hr : a.isReconnect = (c.attempts t).isReconnect)
    (hprogress : (c.attempts t).inProgress = true) : c'.Owned := by
  refine h.of_attempts hp fun t' ht' => ?_
  rw [hattempts] at ht' ⊢
  by_cases ht : t' = t
  · subst ht
    rw [Function.update_self]
    exact ⟨hprogress, hr⟩
  · rw [Function.update_of_ne ht] at ht' ⊢
    exact ⟨ht', rfl⟩

theorem Loses.keepsPromises (hl : Loses c c') : KeepsPromises c c' := by
  have hcontrol := hl.control
  refine ⟨by rw [hcontrol], fun hopening => ?_⟩
  cases hl.outcome with
  | closed _ _ hp => exact hp.trans hopening
  | disconnected _ _ _ hp => exact hp.trans hopening
  | reconnecting _ _ _ hidle =>
      rw [hidle] at hopening
      cases hopening
  | exhausted _ _ _ hidle =>
      rw [hidle] at hopening
      cases hopening

theorem Owned.of_report (h : c.Owned) (ho : ReportOutcome c t c') : c'.Owned := by
  have hreport : (c.reportLoss t).Owned := by
    refine h.of_attempts (.of_control rfl rfl) fun t' ht' => ?_
    unfold reportLoss at ht' ⊢
    rw [modifyAttempt_attempts] at ht' ⊢
    by_cases ht : t' = t
    · subst ht
      rw [Function.update_self] at ht' ⊢
      exact ⟨ht', rfl⟩
    · rw [Function.update_of_ne ht] at ht' ⊢
      exact ⟨ht', rfl⟩
  cases ho with
  | swallowed => exact hreport
  | late => exact hreport
  | lost _ _ hl =>
      obtain ⟨hconnect, hopening⟩ := hl.keepsPromises
      exact hreport.of_samePlace ⟨hconnect, hopening⟩ hl.attempts

theorem Owned.of_windsUp (h : c.Owned) (hw : WindsUp t c c') : c'.Owned := by
  have hcontrol := hw.control
  refine h.of_attempts (.of_control (by rw [hcontrol]) (by rw [hcontrol])) fun t' ht' => ?_
  rcases hw.attempts t' with heq | ⟨rfl, heq⟩
  · rw [heq] at ht' ⊢
    exact ⟨ht', rfl⟩
  · rw [heq] at ht' ⊢
    exact ⟨ht', rfl⟩

/-- The `catch` of an attempt begins. -/
theorem Owned.of_catchFailure (h : c.Owned) (hprogress : (c.attempts t).inProgress = true)
    (error : ClientError) : (c.catchFailure t error).Owned :=
  h.of_update (.of_control rfl rfl) (catchFailure_attempts c t error) rfl hprogress

/-- An attempt returns. -/
theorem Owned.of_authenticated (h : c.Owned) (hprogress : (c.attempts t).inProgress = true) :
    (c.authenticated t).Owned := by
  refine h.of_update (.of_control ?_ ?_) (authenticated_attempts c t) rfl hprogress
  · rw [authenticated_control]
  · rw [authenticated_control]

/-- Only `connect` and the reconnect loop open, and each knows that no attempt of
its own is in progress. -/
theorem Owned.of_opens (h : c.Owned) (hconnect : c.connectPromise = none)
    (hloop : ∀ n t, c.reconnectPromise ≠ .opening n t) :
    ∀ t, (c.attempts t).inProgress = false := by
  intro t
  refine Bool.not_eq_true _ ▸ fun ht => ?_
  have howned := h t ht
  split at howned
  · obtain ⟨n, hn⟩ := howned
    exact hloop n t hn
  · rw [hconnect] at howned
    cases howned

theorem idle_of_connectMustWait {k : Control} (h : k.connectMustWait = false) :
    k.reconnectPromise = .idle := by
  unfold Control.connectMustWait at h
  by_contra hne
  simp [hne] at h

/-- `connect` opens while nobody has an attempt. -/
theorem Owned.connects (h : c.Owned) (hnone : c.connectPromise = none)
    (hidle : c.reconnectPromise = .idle) (signal : Option Bool) :
    { { c with authRejected := false, reconnectExhausted := false }.openAndAuthenticate false signal
      with connectPromise := some c.opened }.Owned := by
  have hfree := h.of_opens hnone fun n t hn => by rw [hidle] at hn; cases hn
  intro t ht
  by_cases htop : t = c.opened
  · subst htop
    rw [if_neg (by simp)]
  · have hold : (c.attempts t).inProgress = true := by
      simpa [Function.update_of_ne htop] using ht
    rw [hfree t] at hold
    cases hold

/-- `connect` forgets an attempt that is finished. -/
theorem Owned.forgets (h : c.Owned) {failure : Option ClientError}
    (hphase : (c.attempts t).phase = .finished failure) (hshared : c.connectPromise = some t) :
    { c with connectPromise := none }.Owned := by
  intro t' ht'
  have howned := h t' ht'
  split at howned
  · rename_i hrec
    rw [if_pos hrec]
    exact howned
  · rw [hshared] at howned
    obtain rfl := Option.some.inj howned
    have hprogress : (c.attempts t).inProgress = true := ht'
    simp [Attempt.inProgress, hphase] at hprogress

theorem Owned.connected (h : c.Owned) (hprogress : (c.attempts t).inProgress = true)
    (ho : ConnectedOutcome c t c') : c'.Owned := by
  cases ho with
  | failed => exact h.of_catchFailure hprogress _
  | @rejected c₁ _ hcontrol _ _ hattempts error =>
      obtain ⟨loop, hloop⟩ := hattempts
      have hmid : c₁.Owned :=
        h.of_update (.of_control (by rw [hcontrol]) (by rw [hcontrol])) hloop rfl hprogress
      refine hmid.of_catchFailure ?_ error
      rw [hloop, Function.update_self]
      exact hprogress
  | negotiating _ hcontrol _ _ hattempts =>
      exact h.of_update (.of_control (by rw [hcontrol]) (by rw [hcontrol])) hattempts rfl hprogress

theorem Owned.negotiated (h : c.Owned) (hprogress : (c.attempts t).inProgress = true)
    (ho : HelloOutcome c t c') : c'.Owned := by
  have hfinish : (c.finishAuth .resolved).Owned :=
    h.of_samePlace (.of_control (by rw [finishAuth_control]) (by rw [finishAuth_control]))
      (finishAuth_attempts c .resolved)
  have hprogress' : ((c.finishAuth .resolved).attempts t).inProgress = true :=
    (finishAuth_attempts c .resolved t).inProgress.trans hprogress
  cases ho with
  | failed => exact h.of_catchFailure hprogress _
  | restoring =>
      exact hfinish.of_update (.of_control rfl rfl) (beginRestore_attempts _ t) rfl hprogress'
  | authenticated => exact hfinish.of_authenticated hprogress'

theorem Owned.rethrows (h : c.Owned) {rejected : Bool}
    (hprogress : (c.attempts t).inProgress = true) (hr : Rethrows c t rejected c') : c'.Owned := by
  obtain ⟨thrown, hattempts⟩ := hr.attempts
  have hpromises : KeepsPromises c c' := by
    cases hr.outcome with
    | handled _ _ hcontrol => exact .of_control (by rw [hcontrol]; rfl) (by rw [hcontrol]; rfl)
    | closing _ _ _ hcontrol => exact .of_control (by rw [hcontrol]; rfl) (by rw [hcontrol]; rfl)
    | failed _ _ _ hcontrol => exact .of_control (by rw [hcontrol]; rfl) (by rw [hcontrol]; rfl)
  exact h.of_update hpromises hattempts rfl hprogress

/-- The reconnect loop opens, and awaits what it has opened. -/
theorem Owned.reconnects (h : c.Owned) {n : Nat} (hsleeping : c.reconnectPromise = .sleeping n) :
    { c.openAndAuthenticate true none with reconnectPromise := .opening n c.opened }.Owned := by
  intro t ht
  by_cases htop : t = c.opened
  · subst htop
    rw [if_pos (by simp)]
    exact ⟨n, rfl⟩
  · have hold : (c.attempts t).inProgress = true := by
      simpa [Function.update_of_ne htop] using ht
    have howned := h t hold
    have hsame : ({ c.openAndAuthenticate true none with
        reconnectPromise := .opening n c.opened }.attempts t) = c.attempts t := by
      simp [Function.update_of_ne htop]
    rw [hsame]
    split at howned
    · obtain ⟨m, hm⟩ := howned
      rw [hsleeping] at hm
      cases hm
    · rename_i hrec
      rw [if_neg hrec]
      exact howned

/-- The attempt of the loop is finished. -/
theorem Owned.attempted (h : c.Owned) {n : Nat} {failure : Option ClientError}
    (hopening : c.reconnectPromise = .opening n t)
    (hphase : (c.attempts t).phase = .finished failure) (ho : LoopOutcome c failure c')
    (hattempts : c'.attempts = c.attempts) : c'.Owned := by
  have hconnect : c'.connectPromise = c.connectPromise := by
    cases ho with
    | ended _ _ _ hcontrol => rw [hcontrol]
    | rejected _ hcontrol => rw [hcontrol]
    | exhausted _ hcontrol => rw [hcontrol]
    | retries _ _ hcontrol => rw [hcontrol]
  intro t' ht'
  rw [hattempts] at ht' ⊢
  have howned := h t' ht'
  split at howned
  · obtain ⟨m, hm⟩ := howned
    rw [hopening] at hm
    cases hm
    simp [Attempt.inProgress, hphase] at ht'
  · rename_i hrec
    rw [if_neg hrec, hconnect]
    exact howned

/-- The loop moves on where it awaits no attempt. -/
theorem Owned.of_loop (h : c.Owned) (hloop : ∀ n t, c.reconnectPromise ≠ .opening n t)
    (hconnect : c'.connectPromise = c.connectPromise) (hattempts : c'.attempts = c.attempts) :
    c'.Owned :=
  h.of_samePlace ⟨hconnect, fun hn => absurd hn (hloop _ _)⟩ fun t => by
    rw [hattempts]
    exact .refl _

/-- **One step.** -/
theorem Effect.owned (h : c.Owned) {e : Event} (he : Effect c e c') : c'.Owned := by
  cases he with
  | quiet _ hq =>
      have hcontrol := hq.control
      exact h.of_samePlace (.of_control (by rw [hcontrol]) (by rw [hcontrol]))
        fun t => (hq.attempts t).samePlace
  | opens _ _ _ hnone hwait => exact h.connects hnone (idle_of_connectMustWait hwait) _
  | forgets hphase hshared => exact h.forgets hphase hshared
  | closesIdle => exact h.of_samePlace (.of_control rfl rfl) fun _ => .refl _
  | closes =>
      obtain ⟨hcontrol, -, -, hattempts, -⟩ := tearDown_fields { c with closePromise := true }
      exact h.of_samePlace (.of_control (by rw [hcontrol]) (by rw [hcontrol])) hattempts
  | connected hphase ho => exact h.connected (by simp [Attempt.inProgress, hphase]) ho
  | fails error _ hphase =>
      refine h.of_catchFailure ?_ error
      rcases hphase with hphase | hphase <;> simp [Attempt.inProgress, hphase]
  | negotiated hphase _ ho => exact h.negotiated (by simp [Attempt.inProgress, hphase]) ho
  | @restoreFails t hphase =>
      refine Owned.of_catchFailure (c := { c with reconnectRestoreActive := false }) h ?_ _
      simp [Attempt.inProgress, hphase]
  | @restores t hphase =>
      refine Owned.of_authenticated (c := { c with reconnectRestoreActive := false }) h ?_
      simp [Attempt.inProgress, hphase]
  | rethrows hphase hr => exact h.rethrows (by simp [Attempt.inProgress, hphase]) hr
  | receives _ hh =>
      have hcontrol := hh.control
      exact h.of_samePlace (.of_control (by rw [hcontrol]) (by rw [hcontrol])) hh.attempts
  | receivesLast hh =>
      have hcontrol := hh.control
      have hmid := h.of_samePlace (.of_control (by rw [hcontrol]) (by rw [hcontrol])) hh.attempts
      exact hmid.of_windsUp (endReceiveLoop_windsUp _ _)
  | loses _ _ hh _ _ ho hw =>
      have hcontrol := hh.control
      have hmid := h.of_samePlace (.of_control (by rw [hcontrol]) (by rw [hcontrol])) hh.attempts
      exact (hmid.of_report ho).of_windsUp hw
  | settlesLoss => exact h.of_samePlace (.of_control rfl rfl) fun _ => .refl _
  | wakesClosed hsleeping => exact h.of_loop (by simp [hsleeping]) rfl rfl
  | wakes hsleeping => exact h.reconnects hsleeping
  | attempted hopening hphase ho _ hattempts => exact h.attempted hopening hphase ho hattempts
  | returns hreturned => exact h.of_loop (by simp [hreturned]) rfl rfl
  | settlesLoop hfinished => exact h.of_loop (by simp [hfinished]) rfl rfl

/-! ### Every reachable connection -/

/-- What holds of every connection. -/
structure Sound (c : Connection) : Prop where
  multiplexer : c.multiplexer.WellFormed
  closed : c.ClosedSound
  owned : c.Owned

theorem sound_create (options : ConnectionOptions) : (create options).Sound where
  multiplexer := Multiplexer.wellFormed_init
  closed := ⟨fun h => (by cases h), fun h => (by cases h)⟩
  owned := fun _ h => (by cases h)

theorem Sound.step (h : c.Sound) {e : Event} (hs : c.step e = some c') : c'.Sound :=
  have he := step_effect h.multiplexer hs
  ⟨he.wellFormed h.multiplexer, he.closedSound h.closed, he.owned h.owned⟩

theorem sound_run {options : ConnectionOptions} {es : List Event}
    (h : (machine options).run es = some c) : c.Sound :=
  Machine.invariant (M := machine options) (I := Sound) (sound_create options)
    (fun _ _ _ hsound hs => hsound.step hs) h

end Connection

end FitzTs.Client
