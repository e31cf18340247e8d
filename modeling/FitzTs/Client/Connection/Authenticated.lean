import FitzTs.Client.Connection.Ownership
/-!
# FitzTs.Client.Connection.Authenticated

What AUTHENTICATED stands for.

The newest attempt sets AUTHENTICATED at its end, over whatever state it finds.
So a loss must reach the attempt while it can still fail:

* before HELLO the loss rejects the deferred the attempt waits for;
* between HELLO and AUTHENTICATED nothing looks at the loss again, and nothing does
  at any time while another report is being handled (`noticesLoss`).

`InOrder` says where an attempt on its way is; together with `Newest` it is what a
run keeps.
-/

namespace FitzTs.Client.Connection

variable {c c' c₁ : Connection} {t : TransportId}

/-- The client is authenticated on `t`: `t` is installed, and by the attempt that
said so, no loss of `t` has been reported, the multiplexer's session has begun and
the receive loop of `t` is running. -/
structure Established (c : Connection) (t : TransportId) : Prop where
  transport : c.transport = some t
  authenticatedBy : c.authenticatedBy = some t
  lossReported : (c.attempts t).lossReported = false
  multiplexer : c.multiplexer.state = .authenticated
  receiveLoop : (c.attempts t).receiveLoop = .running

/-- Attempt `t` will not reach AUTHENTICATED on a lost transport. -/
def OnCourse (c : Connection) (t : TransportId) : Prop :=
  match (c.attempts t).phase with
  | .connecting =>
    c.transport = some t ∧ c.receiveLoopAbort = false ∧ (c.attempts t).lossReported = false
  | .negotiating =>
    c.transport = some t ∧ c.receiveLoopAbort = false ∧
      ((c.attempts t).lossReported = false ∧ (c.attempts t).receiveLoop = .running ∧
          c.state = .authenticating ∧ c.authOutcome = some t ∨
        ∃ error, (c.attempts t).authOutcome = .rejected error)
  | .restoring =>
    c.transport = some t ∧ c.receiveLoopAbort = false ∧ (c.attempts t).lossReported = false ∧
      (c.attempts t).receiveLoop = .running ∧ c.multiplexer.state = .authenticated
  | _ => True

/-- The attempts and the state fit together. -/
structure InOrder (c : Connection) : Prop where
  hello : ∀ t, (c.attempts t).hello = .resolved → (c.attempts t).authOutcome = .resolved
  onCourse : c.closeRequested = false → ∀ t, c.OnCourse t
  /-- An attempt in progress has still to reach AUTHENTICATED. -/
  inProgress : ∀ t, (c.attempts t).inProgress = true → c.state ≠ .authenticated
  authenticated : c.state = .authenticated →
    c.receiveLoopAbort = false ∧ ∃ t, c.Established t

/-! ### The condition -/

/-- A report of the loss of `t` still has its effect: another report of the loss has
been seen, or none is being handled and attempt `t` does not stand between HELLO and
AUTHENTICATED. -/
def noticesLoss (c : Connection) (t : TransportId) : Bool :=
  (c.attempts t).lossReported ||
    !c.connectionLossPromise &&
      match (c.attempts t).phase with
      | .connecting | .restoring => false
      | .negotiating => (c.attempts t).authOutcome ≠ .resolved
      | _ => true

/-- If a step reports the loss of the installed transport, the report has its effect. -/
def LossInTime (c : Connection) (e : Event) : Prop :=
  (c.reportsLoss e).all (fun t => c.transport ≠ some t || c.noticesLoss t) = true

/-- Transports are installed one attempt at a time, and losses are noticed. -/
def KeepsAuthenticated (c : Connection) (e : Event) : Prop := c.WakesAlone e ∧ c.LossInTime e

instance (c : Connection) (e : Event) : Decidable (c.KeepsAuthenticated e) :=
  inferInstanceAs (Decidable (_ ∧ (_ = true)))

theorem LossInTime.notices {e : Event} (h : c.LossInTime e) (hreports : c.reportsLoss e = some t)
    (hcurrent : c.transport = some t) : c.noticesLoss t = true := by
  unfold LossInTime at h
  rw [hreports] at h
  simpa [hcurrent] using h

/-! ### What leaves an attempt on its course -/

theorem onCourse_of_idle (h : (c.attempts t).inProgress = false) : c.OnCourse t := by
  unfold OnCourse
  unfold Attempt.inProgress at h
  split at h <;> simp_all

/-- The variables an attempt on its way depends on are the same. -/
theorem OnCourse.congr (h : c.OnCourse t) (htransport : c'.transport = c.transport)
    (habort : c'.receiveLoopAbort = c.receiveLoopAbort) (hstate : c'.state = c.state)
    (hauth : c'.authOutcome = c.authOutcome)
    (hmultiplexer : c'.multiplexer.state = c.multiplexer.state)
    (hplace : (c.attempts t).SamePlace (c'.attempts t)) : c'.OnCourse t := by
  unfold OnCourse at h ⊢
  rw [hplace.phase]
  split
  · rename_i hphase
    rw [hphase] at h
    rw [htransport, habort, hplace.lossReported]
    exact h
  · rename_i hphase
    rw [hphase] at h
    obtain ⟨htr, hab, hopen | ⟨error, herror⟩⟩ := h
    · rw [htransport, habort, hplace.lossReported, hplace.receiveLoop, hstate, hauth]
      exact ⟨htr, hab, Or.inl hopen⟩
    · refine ⟨htransport.trans htr, habort.trans hab, Or.inr ⟨error, ?_⟩⟩
      rw [hplace.authOutcome (by rw [herror]; simp), herror]
  · rename_i hphase
    rw [hphase] at h
    rw [htransport, habort, hplace.lossReported, hplace.receiveLoop, hmultiplexer]
    exact h
  · trivial

theorem Established.congr (h : c.Established t) (htransport : c'.transport = c.transport)
    (hby : c'.authenticatedBy = c.authenticatedBy)
    (hmultiplexer : c'.multiplexer.state = c.multiplexer.state)
    (hplace : (c.attempts t).SamePlace (c'.attempts t)) : c'.Established t :=
  ⟨htransport.trans h.transport, hby.trans h.authenticatedBy,
    hplace.lossReported.trans h.lossReported, hmultiplexer.trans h.multiplexer,
    hplace.receiveLoop.trans h.receiveLoop⟩

/-- A step that changes none of the variables of `InOrder`. -/
theorem InOrder.congr (h : c.InOrder) (hclose : c'.closeRequested = c.closeRequested)
    (htransport : c'.transport = c.transport)
    (habort : c'.receiveLoopAbort = c.receiveLoopAbort) (hstate : c'.state = c.state)
    (hauth : c'.authOutcome = c.authOutcome) (hby : c'.authenticatedBy = c.authenticatedBy)
    (hmultiplexer : c'.multiplexer.state = c.multiplexer.state)
    (hplace : ∀ t, (c.attempts t).SamePlace (c'.attempts t)) : c'.InOrder where
  hello := fun t => (hplace t).hello (h.hello t)
  onCourse := fun ho t =>
    (h.onCourse (hclose ▸ ho) t).congr htransport habort hstate hauth hmultiplexer (hplace t)
  inProgress := fun t hp => by
    rw [(hplace t).inProgress] at hp
    rw [hstate]
    exact h.inProgress t hp
  authenticated := fun hs => by
    obtain ⟨hab, t, ht⟩ := h.authenticated (hstate ▸ hs)
    exact ⟨habort.trans hab, t, ht.congr htransport hby hmultiplexer (hplace t)⟩

/-- The newest attempt moves on, and the state is not AUTHENTICATED after it. -/
theorem InOrder.of_moves (h : c.InOrder) (hn : c.Newest)
    (hprogress : (c.attempts t).inProgress = true)
    (hothers : ∀ t', t' ≠ t → (c.attempts t').SamePlace (c'.attempts t'))
    (hhello : (c'.attempts t).hello = .resolved → (c'.attempts t).authOutcome = .resolved)
    (ht : c'.closeRequested = false → c'.OnCourse t) (hstate : c'.state ≠ .authenticated) :
    c'.InOrder where
  hello := fun t' => by
    by_cases htt : t' = t
    · subst htt
      exact hhello
    · exact (hothers t' htt).hello (h.hello t')
  onCourse := fun ho t' => by
    by_cases htt : t' = t
    · subst htt
      exact ht ho
    · refine onCourse_of_idle ?_
      rw [(hothers t' htt).inProgress]
      refine Bool.not_eq_true _ ▸ fun hp => htt ?_
      exact Nat.succ_injective ((hn.inProgress hp).trans (hn.inProgress hprogress).symm)
  inProgress := fun _ _ => hstate
  authenticated := fun hs => absurd hs hstate

/-- One attempt is changed; the others are where they were. -/
theorem samePlace_of_update {a : Attempt} (hattempts : c'.attempts = Function.update c.attempts t a)
    {t' : TransportId} (hne : t' ≠ t) : (c.attempts t').SamePlace (c'.attempts t') := by
  rw [hattempts, Function.update_of_ne hne]
  exact .refl _

/-- The `catch` of an attempt begins. -/
theorem InOrder.of_catchFailure (h : c.InOrder) (hn : c.Newest) (error : ClientError)
    (hprogress : (c.attempts t).inProgress = true) : (c.catchFailure t error).InOrder := by
  have hattempts := catchFailure_attempts c t error
  refine h.of_moves hn hprogress (fun t' => samePlace_of_update hattempts) ?_ (fun _ => ?_)
    (h.inProgress t hprogress)
  · rw [hattempts, Function.update_self]
    exact h.hello t
  · unfold OnCourse
    rw [hattempts, Function.update_self]
    trivial

/-- The newest attempt ends, and the connection is established. -/
theorem inOrder_of_authenticated (hn : c.Newest)
    (hhello : ∀ t, (c.attempts t).hello = .resolved → (c.attempts t).authOutcome = .resolved)
    (hprogress : (c.attempts t).inProgress = true) (htransport : c.transport = some t)
    (habort : c.receiveLoopAbort = false) (hloss : (c.attempts t).lossReported = false)
    (hloop : (c.attempts t).receiveLoop = .running)
    (hmultiplexer : (c.attempts t).isReconnect = true → c.multiplexer.state = .authenticated) :
    (c.authenticated t).InOrder := by
  have hattempts := authenticated_attempts c t
  have hidle : ∀ t', ((c.authenticated t).attempts t').inProgress = false := by
    intro t'
    rw [hattempts]
    by_cases htt : t' = t
    · subst htt
      rw [Function.update_self]
      rfl
    · rw [Function.update_of_ne htt]
      refine Bool.not_eq_true _ ▸ fun hp => htt ?_
      exact Nat.succ_injective ((hn.inProgress hp).trans (hn.inProgress hprogress).symm)
  have hcontrol := authenticated_control c t
  refine ⟨fun t' => ?_, fun _ t' => onCourse_of_idle (hidle t'), fun t' hp => ?_, fun _ => ?_⟩
  · rw [hattempts]
    by_cases htt : t' = t
    · subst htt
      rw [Function.update_self]
      exact hhello t'
    · rw [Function.update_of_ne htt]
      exact hhello t'
  · rw [hidle t'] at hp
    cases hp
  · refine ⟨by rw [hcontrol]; exact habort, t, by rw [hcontrol]; exact htransport,
      by rw [hcontrol], ?_, ?_, ?_⟩
    · rw [hattempts, Function.update_self]
      exact hloss
    · rw [authenticated_multiplexer]
      split
      · rename_i hr
        exact hmultiplexer hr
      · rfl
    · rw [hattempts, Function.update_self]
      exact hloop

/-- A transport is installed while no attempt is in progress. -/
theorem InOrder.of_opens (h : c.InOrder) (hfree : ∀ t, (c.attempts t).inProgress = false)
    (isReconnect : Bool) (signal : Option Bool) :
    (c.openAndAuthenticate isReconnect signal).InOrder := by
  have hattempts := openAndAuthenticate_attempts c isReconnect signal
  have hstate : (c.openAndAuthenticate isReconnect signal).state ≠ .authenticated := by
    rw [openAndAuthenticate_control]
    cases isReconnect <;> simp
  refine ⟨fun t => ?_, fun _ t => ?_, fun _ _ => hstate, fun hs => absurd hs hstate⟩
  · rw [hattempts]
    by_cases ht : t = c.opened
    · subst ht
      rw [Function.update_self]
      intro hr
      cases hr
    · rw [Function.update_of_ne ht]
      exact h.hello t
  · by_cases ht : t = c.opened
    · unfold OnCourse
      rw [hattempts, ht, Function.update_self]
      exact ⟨rfl, rfl, rfl⟩
    · refine onCourse_of_idle ?_
      rw [hattempts, Function.update_of_ne ht]
      exact hfree t

/-- A client that closes. -/
theorem inOrder_of_closing (hhello : ∀ t, (c.attempts t).hello = .resolved →
    (c.attempts t).authOutcome = .resolved) (hclose : c.closeRequested = true)
    (hstate : c.state = .closed) : c.InOrder where
  hello := hhello
  onCourse := fun ho => by rw [hclose] at ho; cases ho
  inProgress := fun _ _ => by rw [hstate]; decide
  authenticated := fun hs => by rw [hstate] at hs; cases hs

/-! ### Losses -/

theorem reportLoss_attempts (c : Connection) (t : TransportId) : (c.reportLoss t).attempts =
    Function.update c.attempts t { c.attempts t with lossReported := true } := rfl

/-- Nothing but the mark is changed by a report. -/
theorem reportLoss_samePlace {t' : TransportId}
    (hsame : t' = t → (c.attempts t).lossReported = true) :
    (c.attempts t').SamePlace ((c.reportLoss t).attempts t') := by
  rw [reportLoss_attempts]
  by_cases ht : t' = t
  · subst ht
    rw [Function.update_self]
    exact ⟨rfl, rfl, rfl, (hsame rfl).symm, id, fun _ => rfl, id⟩
  · rw [Function.update_of_ne ht]
    exact .refl _

theorem reportLoss_inProgress {t' : TransportId} :
    ((c.reportLoss t).attempts t').inProgress = (c.attempts t').inProgress := by
  rw [reportLoss_attempts]
  by_cases ht : t' = t
  · subst ht
    rw [Function.update_self]
    rfl
  · rw [Function.update_of_ne ht]

/-- An attempt whose transport is not installed is not on its way. -/
theorem OnCourse.elsewhere (h : c.OnCourse t) (hstale : c.transport ≠ some t)
    (hphase : (c'.attempts t).phase = (c.attempts t).phase) : c'.OnCourse t := by
  unfold OnCourse at h ⊢
  rw [hphase]
  split
  · rename_i hp
    rw [hp] at h
    exact absurd h.1 hstale
  · rename_i hp
    rw [hp] at h
    exact absurd h.1 hstale
  · rename_i hp
    rw [hp] at h
    exact absurd h.1 hstale
  · trivial

/-- A report that changes nothing else. -/
theorem InOrder.of_reportLoss (h : c.InOrder)
    (hseen : c.transport = some t → (c.attempts t).lossReported = true) :
    (c.reportLoss t).InOrder := by
  by_cases hcurrent : c.transport = some t
  · exact h.congr rfl rfl rfl rfl rfl rfl rfl fun t' =>
      reportLoss_samePlace fun _ => hseen hcurrent
  · have hplace : ∀ t', t' ≠ t → (c.attempts t').SamePlace ((c.reportLoss t).attempts t') :=
      fun t' hne => reportLoss_samePlace fun ht => absurd ht hne
    refine ⟨fun t' => ?_, fun ho t' => ?_, fun t' hp => ?_, fun hs => ?_⟩
    · by_cases ht : t' = t
      · subst ht
        rw [reportLoss_attempts, Function.update_self]
        exact h.hello t'
      · exact (hplace t' ht).hello (h.hello t')
    · by_cases ht : t' = t
      · subst ht
        refine (h.onCourse ho t').elsewhere hcurrent ?_
        rw [reportLoss_attempts, Function.update_self]
      · exact (h.onCourse ho t').congr rfl rfl rfl rfl rfl (hplace t' ht)
    · rw [reportLoss_inProgress] at hp
      exact h.inProgress t' hp
    · obtain ⟨hab, t', ht'⟩ := h.authenticated hs
      have hne : t' ≠ t := by
        rintro rfl
        exact hcurrent ht'.transport
      exact ⟨hab, t', ht'.congr rfl rfl rfl (hplace t' hne)⟩

/-- Attempt `t` does not stand between HELLO and AUTHENTICATED. -/
def CanFail (c : Connection) (t : TransportId) : Prop :=
  match (c.attempts t).phase with
  | .connecting | .restoring => False
  | .negotiating => (c.attempts t).authOutcome ≠ .resolved
  | _ => True

/-- The installed transport is lost: its attempt, if it is still on its way, fails. -/
theorem Loses.onCourse (hl : Loses (c.reportLoss t) c') (h : c.OnCourse t)
    (hcan : (c.attempts t).lossReported = true ∨ c.CanFail t) : c'.OnCourse t := by
  have hphase : (c'.attempts t).phase = (c.attempts t).phase := by
    rw [(hl.attempts t).phase, reportLoss_attempts, Function.update_self]
  have hauth : ((c.reportLoss t).attempts t).authOutcome = (c.attempts t).authOutcome := by
    rw [reportLoss_attempts, Function.update_self]
  have htransport : c'.transport = c.transport := by
    rw [hl.control]
    rfl
  have habort : c'.receiveLoopAbort = c.receiveLoopAbort := by
    rw [hl.control]
    rfl
  unfold OnCourse at h ⊢
  unfold CanFail at hcan
  rw [hphase]
  split
  · rename_i hp
    rw [hp] at h hcan
    rcases hcan with hseen | hno
    · rw [h.2.2] at hseen
      cases hseen
    · exact hno.elim
  · rename_i hp
    rw [hp] at h hcan
    obtain ⟨htr, hab, hopen⟩ := h
    refine ⟨htransport.trans htr, habort.trans hab, Or.inr ?_⟩
    -- a deferred that is settled stays so; a pending one is rejected by the loss
    have keeps : ∀ error, (c.attempts t).authOutcome = .rejected error →
        ∃ error, (c'.attempts t).authOutcome = .rejected error := by
      intro error herror
      rw [← hauth] at herror
      exact ⟨error, ((hl.attempts t).authOutcome (by rw [herror]; simp)).trans herror⟩
    rcases hopen with ⟨hloss, -, hstate, hvar⟩ | ⟨error, herror⟩
    · have hunresolved : (c.attempts t).authOutcome ≠ .resolved := by
        rcases hcan with hseen | hres
        · rw [hloss] at hseen
          cases hseen
        · exact hres
      cases hd : (c.attempts t).authOutcome with
      | pending => exact hl.authOutcome hstate hvar (hauth.trans hd)
      | resolved => exact absurd hd hunresolved
      | rejected error => exact keeps error hd
    · exact keeps error herror
  · rename_i hp
    rw [hp] at h hcan
    rcases hcan with hseen | hno
    · rw [h.2.2.1] at hseen
      cases hseen
    · exact hno.elim
  · trivial

/-- A loss is reported. -/
theorem ReportOutcome.inOrder (ho : ReportOutcome c t c') (h : c.InOrder)
    (hnotice : c.transport = some t → (c.attempts t).lossReported = true ∨
      c.connectionLossPromise = false ∧ c.CanFail t) : c'.InOrder := by
  cases ho with
  | swallowed hbusy =>
      refine h.of_reportLoss fun hcurrent => (hnotice hcurrent).resolve_right fun hno => ?_
      rw [hbusy] at hno
      cases hno.1
  | late hstale =>
      exact (h.of_reportLoss fun hcurrent => absurd hcurrent hstale).congr rfl rfl rfl rfl rfl rfl
        rfl fun _ => .refl _
  | @lost c₁ hidle hcurrent hl =>
      have hcan := (hnotice hcurrent).imp_right And.right
      have hclose : c₁.closeRequested = c.closeRequested := by
        rw [hl.control]
        rfl
      have hstate : c₁.state ≠ .authenticated := hl.state_ne
      refine ⟨fun t' => ?_, fun hopen t' => ?_, fun _ _ => hstate, fun hs => absurd hs hstate⟩
      · refine (hl.attempts t').hello ?_
        rw [reportLoss_attempts]
        by_cases ht : t' = t
        · subst ht
          rw [Function.update_self]
          exact h.hello t'
        · rw [Function.update_of_ne ht]
          exact h.hello t'
      · have hon := h.onCourse (hclose ▸ hopen)
        by_cases ht : t' = t
        · subst ht
          exact hl.onCourse (hon t') hcan
        · refine (hon t').elsewhere ?_ ?_
          · rw [hcurrent, Ne, Option.some.injEq]
            exact fun heq => ht heq.symm
          · change (c₁.attempts t').phase = _
            rw [(hl.attempts t').phase, reportLoss_attempts, Function.update_of_ne ht]

/-- The receive loop of a transport ends that nobody needs any more. -/
theorem WindsUp.inOrder (hw : WindsUp t c c') (h : c.InOrder)
    (hclosed : c.closeRequested = true → c.state ≠ .authenticated)
    (hgone : c.closeRequested = false → c.transport = some t → c.receiveLoopAbort = false →
      (c.attempts t).lossReported = true) : c'.InOrder := by
  have hcontrol := hw.control
  -- nothing but the loop of `t` has changed
  have hfields : ∀ t', (c'.attempts t').phase = (c.attempts t').phase ∧
      (c'.attempts t').lossReported = (c.attempts t').lossReported ∧
      (c'.attempts t').hello = (c.attempts t').hello ∧
      (c'.attempts t').authOutcome = (c.attempts t').authOutcome ∧
      (c'.attempts t').inProgress = (c.attempts t').inProgress ∧
      (t' ≠ t → (c'.attempts t').receiveLoop = (c.attempts t').receiveLoop) := by
    intro t'
    rcases hw.attempts t' with heq | ⟨rfl, heq⟩
    · rw [heq]
      exact ⟨rfl, rfl, rfl, rfl, rfl, fun _ => rfl⟩
    · rw [heq]
      exact ⟨rfl, rfl, rfl, rfl, rfl, fun hne => absurd rfl hne⟩
  refine ⟨fun t' => ?_, fun hopen t' => ?_, fun t' hp => ?_, fun hs => ?_⟩
  · obtain ⟨-, -, hh, ha, -⟩ := hfields t'
    rw [hh, ha]
    exact h.hello t'
  · rw [hcontrol] at hopen
    have hon := h.onCourse hopen t'
    obtain ⟨hp, hl, -, ha, -, hr⟩ := hfields t'
    unfold OnCourse at hon ⊢
    rw [hp, hl, ha, hcontrol, hw.multiplexer]
    split
    · rename_i hphase
      rw [hphase] at hon
      exact hon
    · rename_i hphase
      rw [hphase] at hon
      obtain ⟨htr, hab, ⟨hloss, hloop, hrest⟩ | hrej⟩ := hon
      · refine ⟨htr, hab, Or.inl ⟨hloss, ?_, hrest⟩⟩
        rw [hr ?_, hloop]
        -- the loop that ends is not that of the transport in use: its loss is reported
        rintro rfl
        rw [hgone hopen htr hab] at hloss
        cases hloss
      · exact ⟨htr, hab, Or.inr hrej⟩
    · rename_i hphase
      rw [hphase] at hon
      obtain ⟨htr, hab, hloss, hloop, hm⟩ := hon
      refine ⟨htr, hab, hloss, ?_, hm⟩
      rw [hr ?_, hloop]
      rintro rfl
      rw [hgone hopen htr hab] at hloss
      cases hloss
    · trivial
  · rw [(hfields t').2.2.2.2.1] at hp
    rw [hcontrol]
    exact h.inProgress t' hp
  · rw [hcontrol] at hs
    obtain ⟨hab, t', ht'⟩ := h.authenticated hs
    obtain ⟨-, hl, -, -, -, hr⟩ := hfields t'
    refine ⟨by rw [hcontrol]; exact hab, t', by rw [hcontrol]; exact ht'.transport,
      by rw [hcontrol]; exact ht'.authenticatedBy, hl.trans ht'.lossReported,
      by rw [hw.multiplexer]; exact ht'.multiplexer, ?_⟩
    rw [hr ?_, ht'.receiveLoop]
    rintro rfl
    have hopen : c.closeRequested = false := Bool.not_eq_true _ ▸ fun hc => hclosed hc hs
    have hlost := hgone hopen ht'.transport hab
    rw [ht'.lossReported] at hlost
    cases hlost

/-! ### Steps -/

theorem Handles.inOrder {frames : List InboundFrame} (hh : Handles frames c c') (h : c.InOrder) :
    c'.InOrder := by
  have hcontrol := hh.control
  exact h.congr (by rw [hcontrol]) (by rw [hcontrol]) (by rw [hcontrol]) (by rw [hcontrol])
    (by rw [hcontrol]) (by rw [hcontrol]) hh.multiplexer.state hh.attempts

/-- `activeTransport.connect` continues. -/
theorem ConnectedOutcome.inOrder (ho : ConnectedOutcome c t c') (h : c.InOrder) (hn : c.Newest)
    (hphase : (c.attempts t).phase = .connecting) : c'.InOrder := by
  have hprogress : (c.attempts t).inProgress = true := by simp [Attempt.inProgress, hphase]
  cases ho with
  | failed error => exact h.of_catchFailure hn error hprogress
  | @rejected c₁ _ hcontrol _ _ hattempts error =>
      obtain ⟨loop, hloop⟩ := hattempts
      have hafter := catchFailure_attempts c₁ t error
      refine h.of_moves hn hprogress (fun t' hne => ?_) ?_ (fun _ => ?_) ?_
      · rw [hafter, Function.update_of_ne hne]
        exact samePlace_of_update hloop hne
      · rw [hafter, Function.update_self, hloop, Function.update_self]
        exact h.hello t
      · unfold OnCourse
        rw [hafter, Function.update_self]
        trivial
      · rw [catchFailure_control, hcontrol]
        simp
  | negotiating hopen hcontrol _ _ hattempts =>
      have hon := h.onCourse hopen t
      unfold OnCourse at hon
      rw [hphase] at hon
      obtain ⟨htransport, habort, hloss⟩ := hon
      refine h.of_moves hn hprogress (fun t' => samePlace_of_update hattempts) ?_ (fun _ => ?_) ?_
      · rw [hattempts, Function.update_self]
        exact h.hello t
      · unfold OnCourse
        rw [hattempts, Function.update_self, hcontrol]
        exact ⟨htransport, habort, Or.inl ⟨hloss, by simp [htransport, habort], rfl, rfl⟩⟩
      · rw [hcontrol]
        simp

/-- An attempt whose HELLO has come. -/
theorem OnCourse.negotiated (h : c.OnCourse t) (hphase : (c.attempts t).phase = .negotiating)
    (hauth : (c.attempts t).authOutcome = .resolved) :
    c.transport = some t ∧ c.receiveLoopAbort = false ∧ (c.attempts t).lossReported = false ∧
      (c.attempts t).receiveLoop = .running ∧ c.state = .authenticating := by
  unfold OnCourse at h
  rw [hphase] at h
  obtain ⟨htr, hab, ⟨hloss, hloop, hstate, -⟩ | ⟨error, herror⟩⟩ := h
  · exact ⟨htr, hab, hloss, hloop, hstate⟩
  · rw [hauth] at herror
    cases herror

/-- `waitForHello` continues. -/
theorem HelloOutcome.inOrder (ho : HelloOutcome c t c') (h : c.InOrder) (hn : c.Newest)
    (hphase : (c.attempts t).phase = .negotiating) (hhello : (c.attempts t).hello = .resolved) :
    c'.InOrder := by
  have hprogress : (c.attempts t).inProgress = true := by simp [Attempt.inProgress, hphase]
  have hplace := finishAuth_attempts c .resolved
  cases ho with
  | failed error => exact h.of_catchFailure hn error hprogress
  | restoring hopen =>
      obtain ⟨htr, hab, hloss, hloop, hstate⟩ :=
        (h.onCourse hopen t).negotiated hphase (h.hello t hhello)
      have hattempts := beginRestore_attempts (c.finishAuth .resolved) t
      have hcontrol : ((c.finishAuth .resolved).beginRestore t).toControl = { c.toControl with
          authOutcome := none, reconnectRestoreActive := true, sessions := t :: c.sessions } := by
        rw [beginRestore_control, finishAuth_control]
      refine h.of_moves hn hprogress (fun t' hne => ?_) ?_ (fun _ => ?_) ?_
      · rw [hattempts, Function.update_of_ne hne]
        exact hplace t'
      · rw [hattempts, Function.update_self]
        exact (hplace t).hello (h.hello t)
      · unfold OnCourse
        rw [hattempts, Function.update_self, hcontrol]
        exact ⟨htr, hab, (hplace t).lossReported.trans hloss, (hplace t).receiveLoop.trans hloop,
          rfl⟩
      · rw [hcontrol]
        change c.state ≠ _
        rw [hstate]
        decide
  | authenticated hopen hr =>
      obtain ⟨htr, hab, hloss, hloop, -⟩ :=
        (h.onCourse hopen t).negotiated hphase (h.hello t hhello)
      have hnewest : (c.finishAuth .resolved).Newest :=
        (recedes_of_samePlace (by rw [finishAuth_control]) (by rw [finishAuth_control])
          (by rw [finishAuth_control]) hplace).newest hn
      refine inOrder_of_authenticated hnewest (fun t' => (hplace t').hello (h.hello t'))
        ((hplace t).inProgress.trans hprogress) ?_ ?_ ((hplace t).lossReported.trans hloss)
        ((hplace t).receiveLoop.trans hloop) fun hrec => ?_
      · rw [finishAuth_control]
        exact htr
      · rw [finishAuth_control]
        exact hab
      · rw [(hplace t).isReconnect, hr] at hrec
        cases hrec

/-- A failed attempt throws. -/
theorem Rethrows.inOrder {rejected : Bool} (hr : Rethrows c t rejected c') (h : c.InOrder)
    (hn : c.Newest) (hprogress : (c.attempts t).inProgress = true) : c'.InOrder := by
  obtain ⟨thrown, hattempts⟩ := hr.attempts
  refine h.of_moves hn hprogress (fun t' => samePlace_of_update hattempts) ?_ (fun _ => ?_) ?_
  · rw [hattempts, Function.update_self]
    exact h.hello t
  · unfold OnCourse
    rw [hattempts, Function.update_self]
    trivial
  · cases hr.outcome with
    | handled hclosed _ hcontrol =>
        rw [hcontrol]
        change c.state ≠ _
        rw [hclosed]
        decide
    | closing _ _ _ hcontrol =>
        rw [hcontrol]
        simp
    | failed _ _ _ hcontrol =>
        rw [hcontrol]
        cases rejected <;> simp

/-- `runLoop` goes on after an attempt. -/
theorem LoopOutcome.inOrder {failure : Option ClientError} {n : Nat} (ho : LoopOutcome c failure c')
    (h : c.InOrder) (hn : c.Newest) (hopening : c.reconnectPromise = .opening n t)
    (hphase : (c.attempts t).phase = .finished failure) (hattempts : c'.attempts = c.attempts)
    (hmultiplexer : c'.multiplexer = c.multiplexer) : c'.InOrder := by
  have hidle : ∀ t', (c'.attempts t').inProgress = false := by
    intro t'
    rw [hattempts]
    refine Bool.not_eq_true _ ▸ fun hp => ?_
    obtain rfl : t' = t :=
      Nat.succ_injective ((hn.inProgress hp).trans (hn.opening hopening).symm)
    simp [Attempt.inProgress, hphase] at hp
  have of_state : c'.state ≠ .authenticated → c'.InOrder := fun hstate =>
    ⟨fun t' => by rw [hattempts]; exact h.hello t', fun _ t' => onCourse_of_idle (hidle t'),
      fun _ _ => hstate, fun hs => absurd hs hstate⟩
  cases ho with
  | ended _ _ _ hcontrol =>
      refine h.congr ?_ ?_ ?_ ?_ ?_ ?_ (by rw [hmultiplexer]) fun t' => ?_
      · rw [hcontrol]
      · rw [hcontrol]
      · rw [hcontrol]
      · rw [hcontrol]
      · rw [hcontrol]
      · rw [hcontrol]
      · rw [hattempts]
        exact .refl _
  | rejected _ hcontrol | exhausted _ hcontrol | retries _ _ hcontrol =>
      exact of_state (by rw [hcontrol]; simp)

theorem Effect.inOrder {e : Event} (he : Effect c e c') (hs : c.Sound) (hn : c.Newest)
    (h : c.InOrder) (hK : c.KeepsAuthenticated e) : c'.InOrder := by
  have same : ∀ {c' : Connection}, c'.closeRequested = c.closeRequested →
      c'.transport = c.transport → c'.receiveLoopAbort = c.receiveLoopAbort →
      c'.state = c.state → c'.authOutcome = c.authOutcome →
      c'.authenticatedBy = c.authenticatedBy → c'.multiplexer = c.multiplexer →
      c'.attempts = c.attempts → c'.InOrder := fun h₁ h₂ h₃ h₄ h₅ h₆ h₇ h₈ =>
    h.congr h₁ h₂ h₃ h₄ h₅ h₆ (by rw [h₇]) fun t => by rw [h₈]; exact .refl _
  have hclosed : ∀ {d : Connection}, d.closeRequested = c.closeRequested →
      d.state = c.state → d.closeRequested = true → d.state ≠ .authenticated := by
    intro d hc hstate hclose
    rw [hstate, (hs.closed.closed (hc ▸ hclose)).state]
    decide
  cases he with
  -- what the order speaks of has not changed
  | quiet _ hq =>
      have hcontrol := hq.control
      exact h.congr (by rw [hcontrol]) (by rw [hcontrol]) (by rw [hcontrol]) (by rw [hcontrol])
        (by rw [hcontrol]) (by rw [hcontrol]) hq.multiplexer.state
        fun t => (hq.attempts t).samePlace
  -- no attempt is under way when `connect` opens a transport
  | @opens _ signal _ _ _ hnone hwait =>
      have hidle := idle_of_connectMustWait hwait
      have hfree := hs.owned.of_opens hnone fun n t hp => by rw [hidle] at hp; cases hp
      have hbefore : InOrder { c with authRejected := false, reconnectExhausted := false } :=
        same rfl rfl rfl rfl rfl rfl rfl rfl
      exact (hbefore.of_opens hfree false signal).congr rfl rfl rfl rfl rfl rfl rfl fun _ => .refl _
  | forgets => exact same rfl rfl rfl rfl rfl rfl rfl rfl
  | closesIdle => exact same rfl rfl rfl rfl rfl rfl rfl rfl
  | closes =>
      obtain ⟨hcontrol, -, -, hplace, -⟩ := tearDown_fields { c with closePromise := true }
      exact inOrder_of_closing (fun t => (hplace t).hello (h.hello t)) (by rw [hcontrol])
        (by rw [hcontrol])
  | connected hphase ho => exact ho.inOrder h hn hphase
  | fails error _ hphase =>
      refine h.of_catchFailure hn error ?_
      rcases hphase with hphase | hphase <;> simp [Attempt.inProgress, hphase]
  | negotiated hphase hhello ho => exact ho.inOrder h hn hphase hhello
  | @restoreFails t hphase =>
      have hbefore : InOrder { c with reconnectRestoreActive := false } :=
        same rfl rfl rfl rfl rfl rfl rfl rfl
      exact hbefore.of_catchFailure ⟨hn.inProgress, hn.transport, hn.opening⟩ _
        (show (c.attempts t).inProgress = true by simp [Attempt.inProgress, hphase])
  -- the transport that has been restored is still the current one
  | @restores t hphase hopen =>
      have hon := h.onCourse hopen t
      unfold OnCourse at hon
      rw [hphase] at hon
      obtain ⟨htr, hab, hloss, hloop, hm⟩ := hon
      exact inOrder_of_authenticated (c := { c with reconnectRestoreActive := false })
        ⟨hn.inProgress, hn.transport, hn.opening⟩ h.hello
        (show (c.attempts t).inProgress = true by simp [Attempt.inProgress, hphase]) htr hab hloss
        hloop fun _ => hm
  | rethrows hphase hr => exact hr.inOrder h hn (by simp [Attempt.inProgress, hphase])
  | receives _ hh => exact hh.inOrder h
  -- the loop of a transport that is current and not stopped goes on
  | @receivesLast t _ c₁ hh _ hunwanted =>
      have hcontrol := hh.control
      refine (endReceiveLoop_windsUp t c₁).inOrder (hh.inOrder h)
        (hclosed (by rw [hcontrol]) (by rw [hcontrol])) fun hopen htr hab => ?_
      rw [hcontrol] at hopen htr hab
      rcases hunwanted with hne | habort | hclose
      · exact absurd htr hne
      · rw [hab] at habort
        cases habort
      · rw [hopen] at hclose
        cases hclose
  -- after the frames of the chunk, the report, and the end of the loop
  | @loses _ t c₀ c₁ _ hreports _ hh _ hresolves ho hw =>
      have hcontrol := hh.control
      have hreported : (c₁.attempts t).lossReported = true := by
        have hmark : ((c₀.reportLoss t).attempts t).lossReported = true := by
          rw [reportLoss_attempts, Function.update_self]
        cases ho with
        | swallowed => exact hmark
        | late => exact hmark
        | lost _ _ hl => exact (hl.attempts t).lossReported.trans hmark
      have hafter : c₁.InOrder := ho.inOrder (hh.inOrder h) fun hcurrent => by
        have hnotices := hK.2.notices hreports (by rw [hcontrol] at hcurrent; exact hcurrent)
        unfold noticesLoss at hnotices
        rw [Bool.or_eq_true, Bool.and_eq_true, Bool.not_eq_true'] at hnotices
        rw [(hh.attempts t).lossReported]
        refine hnotices.imp_right fun hwithout => ⟨by rw [hcontrol]; exact hwithout.1, ?_⟩
        have hphase := hwithout.2
        -- the attempt of a lost transport is to find its failure
        unfold CanFail
        rw [(hh.attempts t).phase]
        split at hphase
        · cases hphase
        · cases hphase
        · intro hres
          simp only [decide_eq_true_eq] at hphase
          exact hphase ((hresolves t hres).resolve_right (by simp))
        · trivial
      refine hw.inOrder hafter (fun hclose => ?_) fun _ _ _ => hreported
      cases ho with
      | swallowed =>
          exact hclosed (d := c₀) (by rw [hcontrol]) (by rw [hcontrol]) hclose
      | late =>
          exact hclosed (d := c₀) (by rw [hcontrol]) (by rw [hcontrol]) hclose
      | lost _ _ hl => exact hl.state_ne
  | settlesLoss => exact same rfl rfl rfl rfl rfl rfl rfl rfl
  | wakesClosed => exact same rfl rfl rfl rfl rfl rfl rfl rfl
  -- the loop is the only one to open a transport
  | wakes hsleeping hopen =>
      have hfree := hs.owned.of_wakes hsleeping hopen hK.1
      exact (h.of_opens hfree true none).congr rfl rfl rfl rfl rfl rfl rfl fun _ => .refl _
  | attempted hopening hphase ho hmultiplexer hattempts =>
      exact ho.inOrder h hn hopening hphase hattempts hmultiplexer
  | returns => exact same rfl rfl rfl rfl rfl rfl rfl rfl
  | settlesLoop => exact same rfl rfl rfl rfl rfl rfl rfl rfl

theorem inOrder_create (options : ConnectionOptions) : (create options).InOrder where
  hello := fun _ h => by cases h
  onCourse := fun _ _ => trivial
  inProgress := fun _ h => by cases h
  authenticated := fun h => by cases h

theorem inOrder_run {options : ConnectionOptions} {es : List Event} {c : Connection}
    (hguard : (machine options).Guarded KeepsAuthenticated (create options) es)
    (hrun : (machine options).run es = some c) : c.InOrder := by
  have hall : c.Sound ∧ c.Newest ∧ c.InOrder :=
    Machine.Guarded.invariant (M := machine options) (I := fun c => c.Sound ∧ c.Newest ∧ c.InOrder)
      ⟨sound_create options, newest_create options, inOrder_create options⟩
      (fun _ _ _ ⟨hs, hn, ho⟩ hK hst =>
        have he := step_effect hs.multiplexer hst
        ⟨hs.step hst, he.newest hs.owned hn hK.1, he.inOrder hs hn ho hK⟩) hguard hrun
  exact hall.2.2

/-- In a run that keeps to the condition, AUTHENTICATED stands for an established
connection. -/
theorem authenticated_established {options : ConnectionOptions} {es : List Event} {c : Connection}
    (hguard : (machine options).Guarded KeepsAuthenticated (create options) es)
    (hrun : (machine options).run es = some c) (hstate : c.state = .authenticated) :
    ∃ t, c.Established t :=
  ((inOrder_run hguard hrun).authenticated hstate).2

/-- A connection is established, lost, and established again. -/
def reestablishedRun : List Event :=
  [.connect 0 none, .transportConnect 0 none, .token 0 none, .connectSent 0 none,
    .receive 0 (.ok (.ok ([.hello 0 4 (.ok ⟨3, 0, 1000000, 10⟩)], false))), .helloSettled 0,
    .connectSettled 0, .receive 0 (.error ⟨.transport, "reset"⟩), .connectionLossSettled,
    .reconnectWake, .transportConnect 1 none, .token 1 none, .connectSent 1 none,
    .receive 1 (.ok (.ok ([.hello 0 4 (.ok ⟨3, 0, 1000000, 10⟩)], false))), .helloSettled 1,
    .restored 1]

/-- It is established on its second transport. -/
theorem authenticated_established_again : ∃ c : Connection,
    (machine { reconnectEnabled := true }).run reestablishedRun = some c ∧
      c.state = .authenticated ∧ ∃ t, c.Established t := by
  have hguard : (machine { reconnectEnabled := true }).Guarded KeepsAuthenticated
      (create { reconnectEnabled := true }) reestablishedRun := by decide +kernel
  exact ⟨_, rfl, by decide +kernel, authenticated_established hguard rfl (by decide +kernel)⟩

/-- HELLO comes, and in the next chunk a frame that fails. The loss is reported between
HELLO and AUTHENTICATED, and the attempt does not notice. -/
theorem authenticated_established_fails :
    ¬ ∀ es c, (machine {}).run es = some c → c.state = .authenticated → ∃ t, c.Established t := by
  intro h
  obtain ⟨c, hc, hstate, htransport, hloss⟩ : ∃ c : Connection,
      (machine {}).run
        [.connect 0 none, .transportConnect 0 none, .token 0 none, .connectSent 0 none,
          .receive 0 (.ok (.ok ([.hello 0 4 (.ok ⟨3, 0, 1000000, 10⟩)], false))),
          .receive 0 (.ok (.ok ([.goAway 7 (.ok ())], false))), .helloSettled 0] = some c ∧
        c.state = .authenticated ∧ c.transport = some 0 ∧ (c.attempts 0).lossReported = true :=
    ⟨_, rfl, by decide +kernel, by decide +kernel, by decide +kernel⟩
  obtain ⟨t, ht⟩ := h _ c hc hstate
  obtain rfl := Option.some.inj (htransport.symm.trans ht.transport)
  rw [ht.lossReported] at hloss
  cases hloss

end FitzTs.Client.Connection
