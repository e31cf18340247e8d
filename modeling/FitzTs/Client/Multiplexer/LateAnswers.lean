import FitzTs.Client.Multiplexer.Outcome
/-!
# FitzTs.Client.Multiplexer.LateAnswers

When `dispatch` knows the correlation of an answer.

A timeout, an abort and a send that throws leave a tombstone behind, so the
identifier stays known until the final answer. A send that rejects deletes the
entry: from then on the answer, if it still comes, is an unexpected one, and the
exception ends the connection.
-/

namespace FitzTs.Client.Multiplexer

variable {m m' : Multiplexer} {r : RequestId} {c : CorrelationId}

/-- `dispatch` finds an entry for correlation `c`. -/
def Known (c : CorrelationId) (m : Multiplexer) : Prop := m.pendingByCorrelation.get? c ≠ none

/-- An answer with a known correlation is dispatched without an exception. -/
theorem dispatch_ok_iff :
    (∀ t payload final, ∃ m', m.dispatch t payload (some c) final = .ok m') ↔ m.Known c := by
  unfold Known dispatch
  simp only [dispatchCorrelated]
  cases hget : m.pendingByCorrelation.get? c with
  | none =>
      refine iff_of_false (fun h => ?_) (by simp)
      obtain ⟨m', hm'⟩ := h 0 [] true
      cases hm'
  | some correlated =>
      refine iff_of_true (fun t payload final => ?_) (by simp)
      dsimp only
      split
      · exact ⟨_, rfl⟩
      · split <;> exact ⟨_, rfl⟩

/-- The steps that keep the entry of correlation `c`: no send rejects for an open
request that holds this identifier. -/
def Retains (c : CorrelationId) (m : Multiplexer) : Event → Prop
  | .sendRejected r _ => (m.requests r).settled = true ∨ (m.requests r).correlationId ≠ some c
  | _ => True

/-- The events of one session, before the final answer to correlation `c`. -/
def Unanswered (c : CorrelationId) : Event → Prop
  | .setConnected | .setDisconnected => False
  | .dispatch _ _ (some c') final => ¬ (c' = c ∧ final = true)
  | _ => True

/-- Identifier `c` has been given out in this session. -/
def Drawn (c : CorrelationId) (m : Multiplexer) : Prop :=
  m.nextCorrelationId = 0 ∨ c < m.nextCorrelationId

theorem Drawn.of_session (h : m.Drawn c) (hs : SameSession m m') : m'.Drawn c := by
  rw [Drawn, hs.nextCorrelationId]
  exact h

theorem Drawn.of_next (h : m.Drawn c) (hpos : m.nextCorrelationId ≠ 0)
    (hnext : m'.nextCorrelationId = 0 ∨ m'.nextCorrelationId = m.nextCorrelationId + 1) :
    m'.Drawn c := by
  have hlt : c < m.nextCorrelationId := h.resolve_left hpos
  rcases hnext with h0 | hsucc
  · exact Or.inl h0
  · exact Or.inr (by rw [hsucc]; exact Nat.lt_succ_of_lt hlt)

theorem Enters.drawn {e : PendingRequest} (henters : Enters m e m') (h : m.Drawn c) :
    m'.Drawn c := by
  have hnext := henters.nextCorrelationId
  split at hnext
  · exact h.of_next hnext.1 hnext.2
  · rw [Drawn, hnext]
    exact h

/-- A new request does not take an identifier that has been given out. -/
theorem Enters.known_iff {e : PendingRequest} (henters : Enters m e m') (h : m.Drawn c) :
    m'.Known c ↔ m.Known c := by
  have hcid := henters.correlationId
  have hnext := henters.nextCorrelationId
  rw [Known, Known, henters.pendingByCorrelation]
  by_cases henabled : m.correlationEnabled = true
  · rw [if_pos henabled] at hcid hnext
    rw [hcid]
    have hlt : c < m.nextCorrelationId := h.resolve_left hnext.1
    dsimp only
    rw [OrderedMap.get?_set_of_ne _ _ hlt.ne]
  · rw [if_neg henabled] at hcid
    rw [hcid]

theorem SameEntries.known_iff (h : SameEntries m m') : m'.Known c ↔ m.Known c := by
  rw [Known, Known, h.pendingByCorrelation]

theorem Known.delete_iff {c' : CorrelationId}
    (h : m'.pendingByCorrelation = m.pendingByCorrelation.delete c') :
    m'.Known c ↔ m.Known c ∧ c' ≠ c := by
  rw [Known, Known, h, OrderedMap.get?_delete]
  split
  · rename_i hc
    simp [hc]
  · rename_i hc
    simp [Ne.symm hc]

/-- One step within a session: the identifier stays known exactly when the step retains it. -/
theorem Outcome.known_iff (h : m.WellFormed) (hdrawn : m.Drawn c) {e : Event}
    (hJ : Unanswered c e) (ho : Outcome m e m') :
    m'.Drawn c ∧ (m'.Known c ↔ m.Known c ∧ m.Retains c e) := by
  have hidle : ∀ {e}, m.Idle e → m.Retains c e := by
    intro e hidle
    cases e <;> first | trivial | exact Or.inl hidle
  cases ho with
  | refused _ hi => exact ⟨hdrawn, (and_iff_left (hidle hi)).symm⟩
  | quiet _ hi hq hs =>
      exact ⟨hdrawn.of_session hs, hq.known_iff.trans (and_iff_left (hidle hi)).symm⟩
  | entered henters =>
      exact ⟨henters.drawn hdrawn, (henters.known_iff hdrawn).trans (and_iff_left trivial).symm⟩
  | enteredFailed henters hq hs ht =>
      refine ⟨((henters.drawn hdrawn).of_session hs).of_session ht.toSameSession, ?_⟩
      rw [ht.known_iff, hq.known_iff, henters.known_iff hdrawn]
      exact (and_iff_left trivial).symm
  | resolvedLate _ hq hs ht =>
      refine ⟨(hdrawn.of_session hs).of_session ht.toSameSession, ?_⟩
      rw [ht.known_iff, hq.known_iff]
      exact (and_iff_left trivial).symm
  | aborted _ hq hs ht =>
      refine ⟨(hdrawn.of_session hs).of_session ht.toSameSession, ?_⟩
      rw [ht.known_iff, hq.known_iff]
      exact (and_iff_left trivial).symm
  | @withdrawn r _ error error' hr hclose hw =>
      refine ⟨hdrawn.of_session hclose.toSameSession, ?_⟩
      have hopen := hclose.wasOpen
      cases hw with
      | correlated hcid hby _ _ =>
          rw [Known.delete_iff hby]
          simp [Retains, hopen, hcid]
      | uncorrelated hcid htakes _ =>
          have hsame : m'.pendingByCorrelation = m.pendingByCorrelation := by
            cases htakes with
            | uncorrelated _ _ hby _ => exact hby
          rw [Known, Known, hsame]
          simp [Retains, hcid]
      | unstored hcid _ hsame _ =>
          rw [hsame.known_iff]
          simp [Retains, hcid]
  | delivered hfinal hdel =>
      rcases hdel with ⟨htakes, hresult⟩
      refine ⟨?_, ?_⟩
      · rcases hresult with ⟨-, -, -, hs, -⟩ | ⟨-, hclose, -⟩
        · exact hdrawn.of_session hs
        · exact hdrawn.of_session hclose.toSameSession
      · cases htakes with
        | correlated _ hby _ =>
            -- this answer is final, so it is not the one to `c`
            rw [Known.delete_iff hby]
            refine and_congr_right fun _ => iff_of_true (fun hc => ?_) trivial
            exact hJ ⟨hc, hfinal rfl⟩
        | uncorrelated _ _ hby _ =>
            rw [Known, Known, hby]
            exact (and_iff_left trivial).symm
  | expired ht =>
      obtain ⟨hsame, hs⟩ := (handleTimeouts_induction h
        (P := fun m₁ => SameEntries m m₁ ∧ SameSession m m₁)
        (fun _ _ hP hq hs _ => ⟨hP.1.trans hq.toSameEntries, hP.2.trans hs⟩)
        (fun _ _ _ _ hP he => by
          rcases he.result with ⟨hq, hs⟩ | ⟨_, _, hq, hs, ht⟩
          · exact ⟨hP.1.trans hq.toSameEntries, hP.2.trans hs⟩
          · exact ⟨(hP.1.trans hq.toSameEntries).trans ht.toSameEntries,
              (hP.2.trans hs).trans ht.toSameSession⟩) ⟨.refl m, .refl m⟩ ht).2
      exact ⟨hdrawn.of_session hs, hsame.known_iff.trans (and_iff_left trivial).symm⟩
  | connected => exact hJ.elim
  | disconnected => exact hJ.elim
  | configured => exact ⟨hdrawn, (and_iff_left trivial).symm⟩
  | allocated hnext =>
      exact ⟨hdrawn.of_next hnext.1 hnext.2, (and_iff_left trivial).symm⟩

/-- A request that has just got its identifier is known by it. -/
theorem Enters.known {e : PendingRequest} (henters : Enters m e m')
    (hcid : (m'.requests m.issued).correlationId = some c) : m'.Known c ∧ m'.Drawn c := by
  rw [henters.requests, Function.update_self] at hcid
  have hdrawn := henters.correlationId
  have hnext := henters.nextCorrelationId
  by_cases henabled : m.correlationEnabled = true
  · rw [if_pos henabled] at hdrawn hnext
    obtain rfl := Option.some.inj (hcid.symm.trans hdrawn)
    refine ⟨?_, hnext.2.imp_right fun hs => ?_⟩
    · rw [Known, henters.pendingByCorrelation, hcid]
      simp
    · rw [hs]
      exact Nat.lt_succ_self _
  · rw [if_neg henabled, hcid] at hdrawn
    cases hdrawn

/-- A request got identifier `c` and was handed to `send`; the session goes on
and the final answer to `c` has not come. Then every answer to `c` is
dispatched without an exception, exactly if no send has rejected in between for
an open request with that identifier. -/
theorem lateAnswer_ok_iff {es₀ es : List Event} {m₀ m₁ m₂ : Multiplexer} {t : MessageType}
    {nowMs timeoutMs : Nat} {signal : Option Bool} {sendThrows : Option ClientError}
    {c : CorrelationId} (h₀ : machine.run es₀ = some m₀)
    (hissue : step m₀ (.issue t nowMs timeoutMs signal sendThrows) = some m₁)
    (hissued : m₁.issued = m₀.issued + 1)
    (hcid : (m₁.requests m₀.issued).correlationId = some c)
    (hsession : ∀ e ∈ es, Unanswered c e) (hrun : machine.runFrom m₁ es = some m₂) :
    (∀ t' payload final, ∃ m', m₂.dispatch t' payload (some c) final = .ok m') ↔
      machine.Guarded (Retains c) m₁ es := by
  have hm₀ : m₀.WellFormed := wellFormed_run h₀
  have hm₁ : m₁.WellFormed := wellFormed_step hm₀ hissue
  obtain ⟨hknown, hdrawn⟩ : m₁.Known c ∧ m₁.Drawn c := by
    cases step_outcome hm₀ hissue with
    | refused => exact absurd hissued (Nat.succ_ne_self _).symm
    | quiet _ _ hq => exact absurd (hq.issued.symm.trans hissued) (Nat.succ_ne_self _).symm
    | entered henters => exact henters.known hcid
    | enteredFailed henters hq hs ht =>
        rw [ht.correlationId, (hq.requests _).correlationId] at hcid
        obtain ⟨hk, hd⟩ := henters.known hcid
        refine ⟨?_, (hd.of_session hs).of_session ht.toSameSession⟩
        rw [ht.known_iff, hq.known_iff]
        exact hk
  rw [dispatch_ok_iff]
  -- the entry is looked up by identifier, so each step is exact
  have hexact := Machine.runFrom_iff_guarded (M := machine) (K := Retains c)
    (I := fun m => m.WellFormed ∧ m.Drawn c) (P := Known c) (J := Unanswered c)
    (fun _ _ _ hI hJ hst => ⟨wellFormed_step hI.1 hst,
      ((step_outcome hI.1 hst).known_iff hI.1 hI.2 hJ).1⟩)
    (fun _ _ _ hI hJ hst => ((step_outcome hI.1 hst).known_iff hI.1 hI.2 hJ).2)
    ⟨hm₁, hdrawn⟩ hsession hrun
  rw [hexact]
  exact and_iff_right hknown

/-- A request times out, and its answer comes late. -/
theorem lateAnswer_ok_iff_timeout :
    ∃ m₀ m₁ m₂, machine.run [.setConnected] = some m₀ ∧
      step m₀ (.issue 7 0 1000 none none) = some m₁ ∧
      machine.runFrom m₁ [.sendResolved 0, .timer 2000] = some m₂ ∧
      ((∀ t payload final, ∃ m', m₂.dispatch t payload (some 1) final = .ok m') ↔
        machine.Guarded (Retains 1) m₁ [.sendResolved 0, .timer 2000]) := by
  refine ⟨_, _, _, rfl, rfl, rfl, ?_⟩
  refine lateAnswer_ok_iff (show machine.run [.setConnected] = some _ from rfl)
    (show step _ (.issue 7 0 1000 none none) = some _ from rfl) rfl rfl ?_ rfl
  intro e he
  rcases List.mem_cons.mp he with rfl | he
  · trivial
  · obtain rfl := List.mem_singleton.mp he
    trivial

/-- The send of a request rejects after its frame was handed to `send`, and the
broker's answer throws. -/
theorem lateAnswer_ok_fails :
    ¬ ∀ (es₀ es : List Event) (m₀ m₁ m₂ : Multiplexer) (t : MessageType) (c : CorrelationId),
      machine.run es₀ = some m₀ → step m₀ (.issue t 0 1000 none none) = some m₁ →
        (m₁.requests m₀.issued).correlationId = some c → (∀ e ∈ es, Unanswered c e) →
          machine.runFrom m₁ es = some m₂ →
            ∀ payload final, ∃ m', m₂.dispatch t payload (some c) final = .ok m' := by
  intro h
  obtain ⟨m', hm'⟩ := h [.setConnected] [.sendRejected 0 ⟨.transport, "write failed"⟩] _ _ _ 7 1
    rfl rfl rfl (by intro e he; simp only [List.mem_singleton] at he; subst he; trivial) rfl [] true
  cases hm'

end FitzTs.Client.Multiplexer
