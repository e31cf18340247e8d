import FitzTs.Client.Multiplexer.Outcome
/-!
# FitzTs.Client.Multiplexer.Sessions

What the events between `setConnected` and `setDisconnected` leave as it is, for
the connection that drives the multiplexer: the session, and a request that none of
them reaches.
-/

namespace FitzTs.Client.Multiplexer

variable {m m' m'' : Multiplexer} {r : RequestId} {e : Event}

/-- The events that neither begin nor end a session, nor turn correlations off. -/
def KeepsSession : Event → Prop
  | .setConnected | .setDisconnected => False
  | .setCapabilities protocolVersion _ => 2 ≤ protocolVersion
  | _ => True

/-- The events that draw no identifier. -/
def DrawsNothing : Event → Prop
  | .issue .. | .allocate | .setConnected => False
  | _ => True

/-- Some events between `setConnected` and `setDisconnected` lead from `m` to `m'`. -/
structure Keeps (m m' : Multiplexer) : Prop where
  wellFormed : m'.WellFormed
  state : m'.state = m.state
  correlationEnabled : m.correlationEnabled = true → m'.correlationEnabled = true

theorem Keeps.refl (h : m.WellFormed) : Keeps m m := ⟨h, rfl, id⟩

theorem Keeps.trans (h : Keeps m m') (h' : Keeps m' m'') : Keeps m m'' :=
  ⟨h'.wellFormed, h'.state.trans h.state, fun he => h'.correlationEnabled (h.correlationEnabled he)⟩

/-- The timer fires within the session. -/
theorem handleTimeouts_session (h : m.WellFormed) {nowMs : Nat}
    (ht : m.handleTimeouts nowMs = some m') : SameSession m m' := by
  refine (handleTimeouts_induction (P := fun m' => SameSession m m') h ?_ ?_ (.refl m) ht).2
  · intro m₁ m₂ hm₁ _ hs _
    exact hm₁.trans hs
  · intro m₁ r m₂ _ hm₁ he
    rcases he.result with ⟨-, hs⟩ | ⟨m₃, error, -, hs, htomb⟩
    · exact hm₁.trans hs
    · exact hm₁.trans (hs.trans htomb.toSameSession)

/-- A delivered frame stays within the session. -/
theorem Delivers.session {t : MessageType} {payload : Payload} {cid : Option CorrelationId}
    {r : RequestId} (hd : Delivers m t payload cid r m') : SameSession m m' := by
  rcases hd.result with ⟨-, -, -, hs, -⟩ | ⟨-, hc, -⟩
  · exact hs
  · exact hc.toSameSession

/-- An event that keeps the session keeps the state of the multiplexer. -/
theorem step_keeps (h : m.WellFormed) {e : Event} (hs : m.step e = some m') (hk : KeepsSession e) :
    Keeps m m' := by
  have hm' : m'.WellFormed := wellFormed_step h hs
  have of_session : SameSession m m' → Keeps m m' := fun hsession =>
    ⟨hm', hsession.state, fun he => hsession.correlationEnabled.trans he⟩
  cases step_outcome h hs with
  | refused => exact .refl h
  | quiet _ _ _ hsession => exact of_session hsession
  | entered henters =>
      exact ⟨hm', henters.state, fun he => henters.correlationEnabled.trans he⟩
  | enteredFailed henters _ hsession ht =>
      have hrest := hsession.trans ht.toSameSession
      exact ⟨hm', hrest.state.trans henters.state,
        fun he => hrest.correlationEnabled.trans (henters.correlationEnabled.trans he)⟩
  | resolvedLate _ _ hsession ht => exact of_session (hsession.trans ht.toSameSession)
  | aborted _ _ hsession ht => exact of_session (hsession.trans ht.toSameSession)
  | withdrawn _ hcloses _ => exact of_session hcloses.toSameSession
  | delivered _ hdelivers => exact of_session hdelivers.session
  | expired htimeouts => exact of_session (handleTimeouts_session h htimeouts)
  | connected => exact hk.elim
  | disconnected => exact hk.elim
  | configured protocolVersion capabilities =>
      exact ⟨hm', rfl, fun _ => decide_eq_true hk⟩
  | allocated _ => exact ⟨hm', rfl, id⟩

theorem step_getD_keeps (h : m.WellFormed) (e : Event) (hk : KeepsSession e) :
    Keeps m ((m.step e).getD m) := by
  cases hstep : m.step e with
  | none => exact .refl h
  | some m' => exact step_keeps h hstep hk

/-- Only requests and `allocateCorrelationId` draw identifiers. -/
theorem step_nextCorrelationId (h : m.WellFormed) {e : Event} (hs : m.step e = some m')
    (hd : DrawsNothing e) : m'.nextCorrelationId = m.nextCorrelationId := by
  cases step_outcome h hs with
  | refused => rfl
  | quiet _ _ _ hsession => exact hsession.nextCorrelationId
  | entered => exact hd.elim
  | enteredFailed => exact hd.elim
  | resolvedLate _ _ hsession ht =>
      exact (hsession.trans ht.toSameSession).nextCorrelationId
  | aborted _ _ hsession ht => exact (hsession.trans ht.toSameSession).nextCorrelationId
  | withdrawn _ hcloses _ => exact hcloses.nextCorrelationId
  | delivered _ hdelivers => exact hdelivers.session.nextCorrelationId
  | expired htimeouts => exact (handleTimeouts_session h htimeouts).nextCorrelationId
  | connected => exact hd.elim
  | disconnected hdisconnects => exact hdisconnects.nextCorrelationId
  | configured => rfl
  | allocated _ => exact hd.elim

/-! ### A request that waits -/

/-- A frame of type `t` with correlation `cid` is looked up where request `r` is stored. -/
def FoundBy (m : Multiplexer) (r : RequestId) (t : MessageType) (cid : Option CorrelationId) :
    Prop :=
  (m.requests r).correlationId = cid ∧ (cid = none → (m.requests r).messageType = t)

instance (m : Multiplexer) (r : RequestId) (t : MessageType) (cid : Option CorrelationId) :
    Decidable (m.FoundBy r t cid) :=
  inferInstanceAs (Decidable (_ ∧ (_ → _)))

/-- The events that can settle request `r`. -/
def Reaches (m : Multiplexer) (r : RequestId) : Event → Prop
  | .sendResolved q | .sendRejected q _ | .abort q => q = r
  | .dispatch t _ cid _ => m.FoundBy r t cid
  | .timer nowMs => (m.requests r).deadline ≤ nowMs
  | .setDisconnected => True
  | _ => False

/-- What is taken out for a frame is a request the frame answers. -/
theorem Takes.foundBy {t : MessageType} {cid : Option CorrelationId} (ht : Takes m r t m' cid)
    (h : m.Filed) : m.FoundBy r t cid := by
  cases ht with
  | correlated stored => exact ⟨(h.correlated stored).2, fun hnone => by cases hnone⟩
  | uncorrelated stored without =>
      obtain ⟨-, hcid, htype⟩ := h.uncorrelated stored without.stored
      exact ⟨hcid, fun _ => htype⟩

/-- A timer settles none whose deadline has not passed. -/
theorem handleTimeouts_unreached (h : m.WellFormed) {nowMs : Nat}
    (hdue : ¬ (m.requests r).deadline ≤ nowMs) (ht : m.handleTimeouts nowMs = some m') :
    m'.requests r = m.requests r := by
  refine (handleTimeouts_induction (P := fun m' => m'.requests r = m.requests r) h ?_ ?_ rfl ht).2
  · intro m₁ m₂ hm₁ _ _ hrequests
    rw [hrequests]
    exact hm₁
  · intro m₁ q m₂ _ hm₁ he
    rw [he.others r ?_]
    · exact hm₁
    · rintro rfl
      exact hdue (hm₁ ▸ he.due)

/-- A request stays open as long as no event reaches it. -/
theorem step_unreached (h : m.WellFormed) (hs : m.step e = some m') (hr : r < m.issued)
    (hopen : (m.requests r).settled = false) (hreach : ¬ m.Reaches r e) :
    (m'.requests r).settled = false := by
  cases step_outcome h hs with
  | refused => exact hopen
  | quiet _ _ hquiet => exact (hquiet.requests r).settled.trans hopen
  | entered henters =>
      rw [henters.requests, Function.update_of_ne hr.ne]
      exact hopen
  | enteredFailed henters hquiet _ ht =>
      rw [ht.others r hr.ne, (hquiet.requests r).settled, henters.requests,
        Function.update_of_ne hr.ne]
      exact hopen
  | resolvedLate _ hquiet _ ht | aborted _ hquiet _ ht =>
      rw [ht.others r fun heq => hreach heq.symm, (hquiet.requests r).settled]
      exact hopen
  | withdrawn _ hcloses =>
      rw [hcloses.others r fun heq => hreach heq.symm]
      exact hopen
  | delivered _ hdelivers =>
      rcases hdelivers.result with ⟨-, hrequests, -⟩ | ⟨-, hcloses, -⟩
      · rw [hrequests]
        exact hopen
      · rw [hcloses.others r ?_]
        · exact hopen
        · rintro rfl
          exact hreach (hdelivers.takes.foundBy h.toFiled)
  | expired ht =>
      rw [handleTimeouts_unreached h hreach ht]
      exact hopen
  | connected | configured | allocated => exact hopen
  | disconnected => exact absurd trivial hreach

/-- The requests are numbered on. -/
theorem step_issued (h : m.WellFormed) (hs : m.step e = some m') : m.issued ≤ m'.issued := by
  cases step_outcome h hs with
  | refused | connected | configured | allocated => exact le_rfl
  | quiet _ _ hquiet => exact hquiet.issued.ge
  | entered henters => exact henters.issued ▸ Nat.le_succ _
  | enteredFailed henters hquiet _ ht =>
      rw [ht.issued, hquiet.issued, henters.issued]
      exact Nat.le_succ _
  | resolvedLate _ hquiet _ ht | aborted _ hquiet _ ht => exact (ht.issued.trans hquiet.issued).ge
  | withdrawn _ hcloses => exact hcloses.issued.ge
  | delivered _ hdelivers =>
      rcases hdelivers.result with ⟨-, -, hframe, -⟩ | ⟨-, hcloses, -⟩
      · exact hframe.issued.ge
      · exact hcloses.issued.ge
  | expired ht =>
      refine (handleTimeouts_induction (P := fun m' => m.issued ≤ m'.issued) h ?_ ?_ le_rfl ht).2
      · intro m₁ m₂ hm₁ hquiet _ _
        exact hm₁.trans hquiet.issued.ge
      · intro m₁ q m₂ _ hm₁ he
        rcases he.result with ⟨hquiet, -⟩ | ⟨m₃, error, hquiet, -, htomb⟩
        · exact hm₁.trans hquiet.issued.ge
        · exact hm₁.trans (htomb.issued.trans hquiet.issued).ge
  | disconnected hdisconnects => exact hdisconnects.issued.ge

end FitzTs.Client.Multiplexer
