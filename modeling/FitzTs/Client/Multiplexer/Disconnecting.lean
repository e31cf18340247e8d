import FitzTs.Client.Multiplexer.Invariant
/-!
# FitzTs.Client.Multiplexer.Disconnecting

`cancelAll`: every stored request that is open is rejected, once, and both
collections are empty afterwards. A request that is open but not stored is not
reached.
-/

namespace FitzTs.Client.Multiplexer

variable {m m' m₁ : Multiplexer} {r : RequestId}

theorem mem_requestsToCancel : r ∈ m.requestsToCancel ↔ m.Stored r := by
  rw [requestsToCancel, List.mem_append, OrderedMap.mem_values, List.mem_flatMap]
  refine or_congr Iff.rfl ?_
  constructor
  · intro ⟨q, hq, hr⟩
    obtain ⟨t, ht⟩ := OrderedMap.mem_values.mp hq
    exact ⟨t, q, ht, PendingQueue.stores_iff_mem_queue.mpr hr⟩
  · intro ⟨t, q, ht, hr⟩
    exact ⟨q, OrderedMap.mem_values.mpr ⟨t, ht⟩, PendingQueue.stores_iff_mem_queue.mp hr⟩

/-- Without `retainQueueSlot`, `rejectRequest` closes an open request. -/
theorem rejectRequest_drop_of_open (error : ClientError) (h : (m.requests r).settled = false) :
    Closes m r (.rejected error) (m.rejectRequest r error false) := by
  obtain ⟨m₁, hfin, hf⟩ := finalize_of_open h
  rw [rejectRequest, hfin]
  exact hf.removeTimeoutEntry.closes_unregistered h _

/-- `rejectRequest` stores nothing under a correlation. -/
theorem rejectRequest_emptied (error : ClientError) (h : m.pendingByCorrelation = ∅) :
    (m.rejectRequest r error false).pendingByCorrelation = ∅ := by
  cases hset : (m.requests r).settled with
  | true => rw [rejectRequest_of_settled _ _ hset, h]
  | false =>
      obtain ⟨m₁, hfin, hf⟩ := finalize_of_open hset
      rw [rejectRequest, hfin]
      have h₁ : (m₁.removeTimeoutEntry r).pendingByCorrelation = ∅ :=
        hf.pendingByCorrelation.trans h
      have hun : ((m₁.removeTimeoutEntry r).unregisterRequest r).pendingByCorrelation = ∅ := by
        unfold unregisterRequest
        cases ((m₁.removeTimeoutEntry r).requests r).correlationId with
        | some c =>
            dsimp only
            rw [h₁]
            rfl
        | none =>
            dsimp only
            split
            · exact h₁
            · split
              · exact h₁
              · split <;> exact h₁
      exact hun

/-- Each open request of `rs` has been rejected with `error`, and nothing else has happened. -/
structure Rejects (m : Multiplexer) (rs : List RequestId) (error : ClientError)
    (m' : Multiplexer) : Prop extends Frame m m', SameSession m m' where
  closed : ∀ r ∈ rs, (m.requests r).settled = false →
    (m'.requests r).settled = true ∧
      (m'.requests r).settlements = (m.requests r).settlements ++ [.rejected error] ∧
      (m'.requests r).correlationId = (m.requests r).correlationId
  others : ∀ r, r ∉ rs ∨ (m.requests r).settled = true → m'.requests r = m.requests r
  emptied : m.pendingByCorrelation = ∅ → m'.pendingByCorrelation = ∅

theorem foldl_rejectRequest_rejects (rs : List RequestId) : ∀ (m : Multiplexer),
    Rejects m rs (connectionReset m.state)
      (rs.foldl (fun m r => m.rejectRequest r (connectionReset m.state) false) m) := by
  induction rs with
  | nil =>
      intro m; exact ⟨.refl m, .refl m, fun _ hr => (List.not_mem_nil hr).elim, fun _ _ => rfl, id⟩
  | cons r rs ih =>
      intro m
      rw [List.foldl_cons]
      have htail := ih (m.rejectRequest r (connectionReset m.state) false)
      cases hset : (m.requests r).settled with
      | true =>
          rw [rejectRequest_of_settled _ _ hset] at htail ⊢
          refine ⟨htail.toFrame, htail.toSameSession, fun q hq hopen => ?_, fun q hq => ?_,
            htail.emptied⟩
          · rcases List.mem_cons.mp hq with rfl | hq
            · rw [hset] at hopen
              cases hopen
            · exact htail.closed q hq hopen
          · exact htail.others q (hq.imp_left fun hq hmem => hq (List.mem_cons_of_mem _ hmem))
      | false =>
          have hclose := rejectRequest_drop_of_open (connectionReset m.state) hset
          rw [hclose.state] at htail
          refine ⟨hclose.toFrame.trans htail.toFrame, hclose.toSameSession.trans
            htail.toSameSession, fun q hq hopen => ?_, fun q hq => ?_,
            fun he => htail.emptied (rejectRequest_emptied _ he)⟩
          · by_cases hqr : q = r
            · subst hqr
              rw [htail.others q (Or.inr hclose.settled)]
              exact ⟨hclose.settled, hclose.settlements, hclose.correlationId⟩
            · have hq' := (List.mem_cons.mp hq).resolve_left hqr
              rw [← hclose.others q hqr] at hopen ⊢
              exact htail.closed q hq' hopen
          · have hqr : q ≠ r := by
              intro hqr
              subst hqr
              rcases hq with hq | hq
              · exact hq (List.mem_cons_self ..)
              · rw [hset] at hq
                cases hq
            rw [htail.others q ?_, hclose.others q hqr]
            rw [hclose.others q hqr]
            exact hq.imp_left fun hq hmem => hq (List.mem_cons_of_mem _ hmem)

/-- Everything stored has been rejected and both collections are empty. -/
structure Disconnects (m m' : Multiplexer) : Prop extends Frame m m' where
  state : m'.state = .disconnected
  nextCorrelationId : m'.nextCorrelationId = m.nextCorrelationId
  correlationEnabled : m'.correlationEnabled = true
  pendingByCorrelation : m'.pendingByCorrelation = ∅
  pending : m'.pending = ∅
  requestsInFlight : m'.requestsInFlight = 0
  closed : ∀ r, m.Stored r → (m.requests r).settled = false →
    (m'.requests r).settled = true ∧
      (m'.requests r).settlements =
        (m.requests r).settlements ++ [.rejected (connectionReset .disconnected)] ∧
      (m'.requests r).correlationId = (m.requests r).correlationId
  others : ∀ r, ¬ m.Stored r ∨ (m.requests r).settled = true → m'.requests r = m.requests r

theorem setDisconnected_disconnects (m : Multiplexer) : Disconnects m m.setDisconnected := by
  unfold setDisconnected cancelAll
  extract_lets requestsToCancel m₁ m₂
  have hrejects : Rejects m₁ requestsToCancel (connectionReset m₁.state) m₂ :=
    foldl_rejectRequest_rejects requestsToCancel m₁
  have hmem : ∀ r, r ∈ requestsToCancel ↔ m.Stored r := fun r => mem_requestsToCancel (m := m)
  refine ⟨⟨hrejects.issued, hrejects.queueIndex, fun hi =>
    ⟨?_, fun hx => (by cases hx), Nat.zero_le _⟩⟩,
    hrejects.state, hrejects.nextCorrelationId, hrejects.correlationEnabled, hrejects.emptied rfl,
    rfl, rfl,
    fun r hs hopen => hrejects.closed r ((hmem r).mpr hs) hopen,
    fun r hr => hrejects.others r (hr.imp_left fun hn hin => hn ((hmem r).mp hin))⟩
  intro i x hx
  cases hx

theorem Disconnects.not_stored (h : Disconnects m m') : ¬ m'.Stored r := by
  intro hs
  rcases hs with ⟨c, hc⟩ | ⟨t, q, hq, -⟩
  · rw [h.pendingByCorrelation] at hc
    cases hc
  · rw [h.pending] at hq
    cases hq

theorem WellFormed.of_disconnects (h : m.WellFormed) (hd : Disconnects m m') : m'.WellFormed := by
  -- whether a request was open and stored decides what has become of it
  have hcase : ∀ r, (m.Stored r ∧ (m.requests r).settled = false) ∨
      m'.requests r = m.requests r := by
    intro r
    by_cases hs : m.Stored r
    · cases hset : (m.requests r).settled with
      | true => exact Or.inr (hd.others r (Or.inr hset))
      | false => exact Or.inl ⟨hs, rfl⟩
    · exact Or.inr (hd.others r (Or.inl hs))
  refine ⟨⟨fun hc => ?_, fun hq => ?_, fun hq => ?_, fun hq => ?_⟩,
    fun hs => absurd hs hd.not_stored, ?_, ?_, ?_, (hd.heap h.heap).indexed, ?_⟩
  · exact absurd (Or.inl ⟨_, hc⟩) (hd.not_stored)
  · rw [hd.pending] at hq
    cases hq
  · rw [hd.pending] at hq
    cases hq
  · rw [hd.pending] at hq
    cases hq
  · intro r hdis
    rcases hcase r with ⟨hs, hopen⟩ | heq
    · exact (hd.closed r hs hopen).1
    · rw [heq] at hdis ⊢
      exact h.tombstone hdis
  · intro r
    rcases hcase r with ⟨hs, hopen⟩ | heq
    · obtain ⟨hset, hlog, -⟩ := hd.closed r hs hopen
      have hold := h.once r
      rw [hopen] at hold
      rw [hlog, hset, List.length_append, hold]
      rfl
    · rw [heq]
      exact h.once r
  · intro r hr
    rw [hd.issued] at hr
    rcases hcase r with ⟨hs, -⟩ | heq
    · exact absurd (h.stored_lt hs) (not_lt.mpr hr)
    · rw [heq]
      exact h.fresh hr
  · intro r hr
    rw [hd.issued]
    exact h.heapIssued ((hd.heap h.heap).sub hr)

end FitzTs.Client.Multiplexer
