import FitzTs.Client.Multiplexer.Settling
/-!
# FitzTs.Client.Multiplexer.Invariant

The invariant of the multiplexer (`WellFormed`), and what keeps it.

Its centre is `openEntry`: an entry that still waits for its answer (stored, not
marked `discardResponse`) belongs to a request that is not settled. `dispatch`
settles such an entry without looking at `settled`, so this is what stands
between it and a second settlement. The filing of the entries (`Filed`) makes
removal exact: a removed request is not stored anywhere else.
-/

namespace FitzTs.Client.Multiplexer

variable {m m' m'' : Multiplexer} {r : RequestId}

/-- Every entry is filed where its request belongs. -/
structure Filed (m : Multiplexer) : Prop where
  /-- A correlated entry is stored under its own identifier. -/
  correlated : ∀ {c r}, m.pendingByCorrelation.get? c = some r →
    r < m.issued ∧ (m.requests r).correlationId = some c
  /-- Every ring is indexed. -/
  ring : ∀ {t q}, m.pending.get? t = some q → q.Indexed m.queueIndex
  /-- An empty ring is not kept. -/
  ringPos : ∀ {t q}, m.pending.get? t = some q → 0 < q.size
  /-- An uncorrelated entry is stored in the ring of its own message type. -/
  uncorrelated : ∀ {t q r}, m.pending.get? t = some q → q.Stores r →
    r < m.issued ∧ (m.requests r).correlationId = none ∧ (m.requests r).messageType = t

/-- The invariant of the multiplexer. -/
structure WellFormed (m : Multiplexer) : Prop extends Filed m where
  /-- An entry that is not a tombstone is open. -/
  openEntry : ∀ {r}, m.Stored r → (m.requests r).discardResponse = false →
    (m.requests r).settled = false
  /-- A tombstone is settled. -/
  tombstone : ∀ {r}, (m.requests r).discardResponse = true → (m.requests r).settled = true
  /-- A request is settled by one settlement. -/
  once : ∀ r, (m.requests r).settlements.length = if (m.requests r).settled then 1 else 0
  /-- The numbers from `issued` on are unused. -/
  fresh : ∀ {r}, m.issued ≤ r → m.requests r = {}
  heap : m.timeouts.Indexed
  heapIssued : ∀ {r}, r ∈ m.timeouts.timeoutEntries → r < m.issued

theorem Filed.stored_lt (h : m.Filed) (hs : m.Stored r) : r < m.issued := by
  rcases hs with ⟨c, hc⟩ | ⟨t, q, hq, hr⟩
  · exact (h.correlated hc).1
  · exact (h.uncorrelated hq hr).1

/-- A request of which anything is known has been issued. -/
theorem WellFormed.lt_of_ne (h : m.WellFormed) (hr : m.requests r ≠ {}) : r < m.issued := by
  by_contra hlt
  exact hr (h.fresh (not_lt.mp hlt))

theorem wellFormed_init : machine.init.WellFormed where
  correlated h := by cases h
  ring h := by cases h
  ringPos h := by cases h
  uncorrelated h := by cases h
  openEntry h := by
    rcases h with ⟨c, hc⟩ | ⟨t, q, hq, -⟩
    · cases hc
    · cases hq
  tombstone h := by cases h
  once _ := rfl
  fresh _ := rfl
  heap := by
    intro i r h
    cases h
  heapIssued h := by cases h

/-! ### Shrinking the collections -/

/-- Every entry of `m'` is one of `m`; the rings are the same or lack a request. -/
structure SubEntries (m m' : Multiplexer) : Prop where
  correlated : ∀ {c r}, m'.pendingByCorrelation.get? c = some r →
    m.pendingByCorrelation.get? c = some r
  ring : ∀ {t q'}, m'.pending.get? t = some q' →
    ∃ q, m.pending.get? t = some q ∧
      (q' = q ∨ 0 < q'.size ∧ ∃ r, PendingQueue.Without q r q')

theorem SameEntries.sub (h : SameEntries m m') : SubEntries m m' where
  correlated hc := by rw [h.pendingByCorrelation] at hc; exact hc
  ring hq := by rw [h.pending] at hq; exact ⟨_, hq, Or.inl rfl⟩

theorem Takes.sub {t : MessageType} {cid : Option CorrelationId} (h : Takes m r t m' cid) :
    SubEntries m m' := by
  cases h with
  | correlated stored hby hpending =>
      refine ⟨fun hc => ?_, fun hq => ⟨_, hpending ▸ hq, Or.inl rfl⟩⟩
      rw [hby, OrderedMap.get?_delete] at hc
      split at hc
      · cases hc
      · exact hc
  | @uncorrelated q q' stored without hby hpending =>
      refine ⟨fun hc => hby ▸ hc, ?_⟩
      intro t' q₂ hq
      rw [hpending] at hq
      by_cases hsize : q'.size = 0
      · rw [if_pos hsize, OrderedMap.get?_delete] at hq
        split at hq
        · cases hq
        · exact ⟨q₂, hq, Or.inl rfl⟩
      · rw [if_neg hsize, OrderedMap.get?_set] at hq
        split at hq
        · rename_i ht
          obtain rfl := Option.some.inj hq
          exact ⟨q, ht ▸ stored, Or.inr ⟨by omega, r, without⟩⟩
        · exact ⟨q₂, hq, Or.inl rfl⟩

theorem SubEntries.stored (h : SubEntries m m') (hs : m'.Stored r) : m.Stored r := by
  rcases hs with ⟨c, hc⟩ | ⟨t, q', hq', hr⟩
  · exact Or.inl ⟨c, h.correlated hc⟩
  · obtain ⟨q, hq, rfl | ⟨-, x, hw⟩⟩ := h.ring hq'
    · exact Or.inr ⟨t, q', hq, hr⟩
    · exact Or.inr ⟨t, q, hq, hw.stores hr⟩

/-- A request that is taken out is stored nowhere else. -/
theorem Takes.not_stored {t : MessageType} {cid : Option CorrelationId} (h : Takes m r t m' cid)
    (hm : m.Filed) : ¬ m'.Stored r := by
  have hsub := h.sub
  intro hs
  cases h with
  | correlated stored hby hpending =>
      have hcid := (hm.correlated stored).2
      rcases hs with ⟨c', hc'⟩ | ⟨t', q', hq', hr⟩
      · have hcid' := (hm.correlated (hsub.correlated hc')).2
        obtain rfl := Option.some.inj (hcid.symm.trans hcid')
        rw [hby, OrderedMap.get?_delete_self] at hc'
        cases hc'
      · rw [hpending] at hq'
        have hnone := (hm.uncorrelated hq' hr).2.1
        rw [hcid] at hnone
        cases hnone
  | @uncorrelated q q' stored without hby hpending =>
      obtain ⟨-, hnone, htype⟩ := hm.uncorrelated stored without.stored
      rcases hs with ⟨c', hc'⟩ | ⟨t', q₂, hq₂, hr⟩
      · rw [hby] at hc'
        have hcid := (hm.correlated hc').2
        rw [hnone] at hcid
        cases hcid
      · have htype' : (m.requests r).messageType = t' := by
          obtain ⟨q₁, hq₁, rfl | ⟨-, x, hw⟩⟩ := hsub.ring hq₂
          · exact (hm.uncorrelated hq₁ hr).2.2
          · exact (hm.uncorrelated hq₁ (hw.stores hr)).2.2
        obtain rfl := htype.symm.trans htype'
        rw [hpending] at hq₂
        split at hq₂
        · rw [OrderedMap.get?_delete_self] at hq₂
          cases hq₂
        · rw [OrderedMap.get?_set_self] at hq₂
          obtain rfl := Option.some.inj hq₂
          exact without.removed hr

/-- Entries that are filed stay filed when some are taken out. -/
theorem Filed.of_sub (h : m.Filed) (hsub : SubEntries m m') (hframe : Frame m m')
    (hcore : ∀ q, (m'.requests q).correlationId = (m.requests q).correlationId ∧
      (m'.requests q).messageType = (m.requests q).messageType) : m'.Filed where
  correlated hc := by
    rw [hframe.issued, (hcore _).1]
    exact h.correlated (hsub.correlated hc)
  ring hq' := by
    rw [hframe.queueIndex]
    obtain ⟨q, hq, rfl | ⟨-, x, hw⟩⟩ := hsub.ring hq'
    · exact h.ring hq
    · exact hw.indexed (h.ring hq)
  ringPos hq' := by
    obtain ⟨q, hq, rfl | ⟨hpos, -⟩⟩ := hsub.ring hq'
    · exact h.ringPos hq
    · exact hpos
  uncorrelated hq' hr := by
    rw [hframe.issued, (hcore _).1, (hcore _).2]
    obtain ⟨q, hq, rfl | ⟨-, x, hw⟩⟩ := hsub.ring hq'
    · exact h.uncorrelated hq hr
    · exact h.uncorrelated hq (hw.stores hr)

/-- A change that settles nothing and stores nothing keeps the invariant. -/
theorem WellFormed.of_sub (h : m.WellFormed) (hsub : SubEntries m m') (hframe : Frame m m')
    (hcore : ∀ q, SameCore (m.requests q) (m'.requests q))
    (hfresh : ∀ q, m.issued ≤ q → m'.requests q = m.requests q) : m'.WellFormed where
  toFiled := h.toFiled.of_sub hsub hframe fun q => ⟨(hcore q).correlationId, (hcore q).messageType⟩
  openEntry hs hd := by
    rw [(hcore _).settled]
    exact h.openEntry (hsub.stored hs) ((hcore _).discardResponse ▸ hd)
  tombstone hd := by
    rw [(hcore _).settled]
    exact h.tombstone ((hcore _).discardResponse ▸ hd)
  once q := by
    rw [(hcore q).settlements, (hcore q).settled]
    exact h.once q
  fresh hr := by
    rw [hframe.issued] at hr
    rw [hfresh _ hr]
    exact h.fresh hr
  heap := (hframe.heap h.heap).indexed
  heapIssued hr := by
    rw [hframe.issued]
    exact h.heapIssued ((hframe.heap h.heap).sub hr)

theorem WellFormed.of_quiet (h : m.WellFormed) (hq : Quiet m m') : m'.WellFormed :=
  h.of_sub hq.toSameEntries.sub hq.toFrame hq.requests hq.fresh

/-- Settling an open request keeps the invariant, if its entry is gone or has
become a tombstone. -/
theorem WellFormed.of_closes (h : m.WellFormed) {s : Settlement} (hc : Closes m r s m')
    (hr : r < m.issued) (hsub : SubEntries m m')
    (hgone : m'.Stored r → (m'.requests r).discardResponse = true) : m'.WellFormed where
  toFiled := h.toFiled.of_sub hsub hc.toFrame fun q => by
    by_cases hq : q = r
    · subst hq
      exact ⟨hc.correlationId, hc.messageType⟩
    · rw [hc.others q hq]
      exact ⟨rfl, rfl⟩
  openEntry := by
    intro q hs hd
    by_cases hq : q = r
    · subst hq
      rw [hgone hs] at hd
      cases hd
    · rw [hc.others q hq] at hd ⊢
      exact h.openEntry (hsub.stored hs) hd
  tombstone := by
    intro q hd
    by_cases hq : q = r
    · subst hq
      exact hc.settled
    · rw [hc.others q hq] at hd ⊢
      exact h.tombstone hd
  once q := by
    by_cases hq : q = r
    · subst hq
      have hold := h.once q
      rw [hc.wasOpen] at hold
      rw [hc.settlements, hc.settled, List.length_append, hold]
      rfl
    · rw [hc.others q hq]
      exact h.once q
  fresh := by
    intro q hq
    rw [hc.issued] at hq
    rw [hc.others q (lt_of_lt_of_le hr hq).ne']
    exact h.fresh hq
  heap := (hc.heap h.heap).indexed
  heapIssued hq := by
    rw [hc.issued]
    exact h.heapIssued ((hc.heap h.heap).sub hq)

theorem WellFormed.of_tombstones (h : m.WellFormed) {s : Settlement} (ht : Tombstones m r s m')
    (hr : r < m.issued) : m'.WellFormed :=
  h.of_closes ht.toCloses hr ht.toSameEntries.sub fun _ => ht.discardResponse

end FitzTs.Client.Multiplexer
