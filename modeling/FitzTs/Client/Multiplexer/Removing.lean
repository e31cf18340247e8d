import FitzTs.Client.Multiplexer.Invariant
/-!
# FitzTs.Client.Multiplexer.Removing

The two ways in which an entry leaves its collection: a send that rejects
withdraws its request, and a frame takes out the request it answers.
-/

namespace FitzTs.Client.Multiplexer

variable {m m' m₁ m₂ : Multiplexer} {r : RequestId}

/-! ### A rejected send -/

/-- What `unregisterRequest` does to the collections and the counter. The entry
under a correlation is deleted whoever it belongs to, and is not counted. -/
inductive Withdraws (m : Multiplexer) (r : RequestId) (m' : Multiplexer) : Prop
  | correlated {c : CorrelationId} (correlationId : (m.requests r).correlationId = some c)
      (pendingByCorrelation : m'.pendingByCorrelation = m.pendingByCorrelation.delete c)
      (pending : m'.pending = m.pending)
      (requestsInFlight : m'.requestsInFlight = m.requestsInFlight)
  | uncorrelated (correlationId : (m.requests r).correlationId = none)
      (takes : Takes m r (m.requests r).messageType m' none)
      (requestsInFlight : m'.requestsInFlight = m.requestsInFlight - 1)
  | unstored (correlationId : (m.requests r).correlationId = none) (notStored : ¬ m.Stored r)
      (same : SameEntries m m') (requestsInFlight : m'.requestsInFlight = m.requestsInFlight)

/-- An uncorrelated request is stored in the ring of its message type or nowhere. -/
theorem Filed.stored_uncorrelated (h : m.Filed) (hcid : (m.requests r).correlationId = none) :
    m.Stored r ↔ ∃ q, m.pending.get? (m.requests r).messageType = some q ∧ q.Stores r := by
  constructor
  · intro hs
    rcases hs with ⟨c, hc⟩ | ⟨t, q, hq, hr⟩
    · have hsome := (h.correlated hc).2
      rw [hcid] at hsome
      cases hsome
    · obtain rfl := (h.uncorrelated hq hr).2.2
      exact ⟨q, hq, hr⟩
  · intro ⟨q, hq, hr⟩
    exact Or.inr ⟨_, q, hq, hr⟩

theorem unregisterRequest_withdraws (h : m.Filed) : Withdraws m r (m.unregisterRequest r) := by
  unfold unregisterRequest
  cases hcid : (m.requests r).correlationId with
  | some c => exact .correlated hcid rfl rfl rfl
  | none =>
      dsimp only
      have hstored := h.stored_uncorrelated hcid
      cases hq : m.pending.get? (m.requests r).messageType with
      | none =>
          refine .unstored hcid (fun hs => ?_) (.refl m) rfl
          obtain ⟨q, hq', -⟩ := hstored.mp hs
          rw [hq] at hq'
          cases hq'
      | some q =>
          have hpos := h.ringPos hq
          simp only [if_neg (Nat.pos_iff_ne_zero.mp hpos)]
          cases hu : q.unregister m.queueIndex r with
          | none =>
              refine .unstored hcid (fun hs => ?_) (.refl m) rfl
              obtain ⟨q₁, hq₁, hr⟩ := hstored.mp hs
              obtain rfl := Option.some.inj (hq.symm.trans hq₁)
              have hsome := (PendingQueue.unregister_isSome (h.ring hq)).mpr hr
              rw [hu] at hsome
              cases hsome
          | some q' =>
              refine .uncorrelated hcid (.uncorrelated hq ?_ rfl rfl) rfl
              exact PendingQueue.unregister_without (h.ring hq) hu

theorem Takes.congr {t : MessageType} {cid : Option CorrelationId} (h : Takes m₁ r t m' cid)
    (hsame : SameEntries m m₁) : Takes m r t m' cid := by
  cases h with
  | correlated stored hby hpending =>
      exact .correlated (hsame.pendingByCorrelation ▸ stored) (hsame.pendingByCorrelation ▸ hby)
        (hpending.trans hsame.pending)
  | uncorrelated stored without hby hpending =>
      rw [hsame.pending] at stored hpending
      exact .uncorrelated stored without (hby.trans hsame.pendingByCorrelation) hpending

theorem Withdraws.congr (h : Withdraws m₁ r m') (hsame : SameEntries m m₁)
    (hcid : (m₁.requests r).correlationId = (m.requests r).correlationId)
    (htype : (m₁.requests r).messageType = (m.requests r).messageType)
    (hcount : m₁.requestsInFlight = m.requestsInFlight) : Withdraws m r m' := by
  cases h with
  | correlated c hby hpending hn =>
      exact .correlated (hcid ▸ c) (hsame.pendingByCorrelation ▸ hby) (hpending.trans hsame.pending)
        (hn.trans hcount)
  | uncorrelated c takes hn =>
      exact .uncorrelated (hcid ▸ c) (htype ▸ takes.congr hsame) (hcount ▸ hn)
  | unstored c hns same hn =>
      exact .unstored (hcid ▸ c) (fun hs => hns (hsame.stored_iff.mpr hs)) (hsame.trans same)
        (hn.trans hcount)

theorem Withdraws.sub (h : Withdraws m r m') : SubEntries m m' := by
  cases h with
  | correlated c hby hpending =>
      refine ⟨fun hc => ?_, fun hq => ⟨_, hpending ▸ hq, Or.inl rfl⟩⟩
      rw [hby, OrderedMap.get?_delete] at hc
      split at hc
      · cases hc
      · exact hc
  | uncorrelated c takes => exact takes.sub
  | unstored c hns same => exact same.sub

theorem Withdraws.not_stored (h : Withdraws m r m') (hm : m.Filed) : ¬ m'.Stored r := by
  have hsub := h.sub
  cases h with
  | correlated hcid hby hpending =>
      intro hs
      rcases hs with ⟨c', hc'⟩ | ⟨t, q, hq, hr⟩
      · have hcid' := (hm.correlated (hsub.correlated hc')).2
        obtain rfl := Option.some.inj (hcid.symm.trans hcid')
        rw [hby, OrderedMap.get?_delete_self] at hc'
        cases hc'
      · rw [hpending] at hq
        have hnone := (hm.uncorrelated hq hr).2.1
        rw [hcid] at hnone
        cases hnone
  | uncorrelated hcid takes => exact takes.not_stored hm
  | unstored hcid hns same => exact fun hs => hns (same.stored_iff.mp hs)

theorem Withdraws.congr_right (h : Withdraws m r m₁) (hsame : SameEntries m₁ m')
    (hcount : m'.requestsInFlight = m₁.requestsInFlight) : Withdraws m r m' := by
  cases h with
  | correlated c hby hpending hn =>
      exact .correlated c (hsame.pendingByCorrelation.trans hby) (hsame.pending.trans hpending)
        (hcount.trans hn)
  | uncorrelated c takes hn =>
      refine .uncorrelated c ?_ (hcount.trans hn)
      cases takes with
      | uncorrelated stored without hby hpending =>
          exact .uncorrelated stored without (hsame.pendingByCorrelation.trans hby)
            (hsame.pending.trans hpending)
  | unstored c hns same hn => exact .unstored c hns (same.trans hsame) (hcount.trans hn)

/-- A send that rejects settles its open request and withdraws it. -/
theorem sendRejected_of_open (h : m.WellFormed) (error : ClientError) (hr : r < m.issued)
    (hopen : (m.requests r).settled = false) :
    ∃ error', Closes m r (.rejected error') (m.sendRejected r error) ∧
      Withdraws m r (m.sendRejected r error) := by
  unfold sendRejected
  extract_lets m₁
  obtain ⟨hquiet, hsession⟩ : Quiet m m₁ ∧ SameSession m m₁ :=
    modifyRequest_quiet m hr ⟨rfl, rfl, rfl, rfl, rfl⟩
  have hopen₁ : (m₁.requests r).settled = false := (hquiet.requests r).settled.trans hopen
  obtain ⟨m₂, hfin, hf⟩ := finalize_of_open hopen₁
  rw [hfin]
  dsimp only
  generalize (if (m₂.requests r).aborted then abortError else error) = error'
  have hclose := hf.closes_unregistered hopen₁ (.rejected error')
  have hfiled₂ : m₂.Filed :=
    (h.of_quiet hquiet).toFiled.of_sub hf.toSameEntries.sub hf.toFrame fun q => by
      rw [hf.requests]
      by_cases hq : q = r
      · subst hq
        simp
      · simp [Function.update_of_ne hq]
  refine ⟨error', ⟨hquiet.toFrame.trans hclose.toFrame, hsession.trans hclose.toSameSession, hopen,
    hclose.settled, ?_, ?_, ?_, ?_⟩, ?_⟩
  · rw [hclose.settlements, (hquiet.requests r).settlements]
  · rw [hclose.correlationId, (hquiet.requests r).correlationId]
  · rw [hclose.messageType, (hquiet.requests r).messageType]
  · intro q hq
    rw [hclose.others q hq]
    exact Function.update_of_ne hq _ _
  · have hw : Withdraws m₂ r ((m₂.unregisterRequest r).settle r (.rejected error')) :=
      (unregisterRequest_withdraws hfiled₂).congr_right ⟨rfl, rfl⟩ rfl
    refine hw.congr (hquiet.toSameEntries.trans hf.toSameEntries) ?_ ?_
      (hf.requestsInFlight.trans hquiet.requestsInFlight)
    · rw [hf.requests, Function.update_self]
      exact (hquiet.requests r).correlationId
    · rw [hf.requests, Function.update_self]
      exact (hquiet.requests r).messageType

theorem sendRejected_of_settled (error : ClientError) (hr : r < m.issued)
    (hset : (m.requests r).settled = true) :
    Quiet m (m.sendRejected r error) ∧ SameSession m (m.sendRejected r error) := by
  unfold sendRejected
  extract_lets m₁
  obtain ⟨hquiet, hsession⟩ : Quiet m m₁ ∧ SameSession m m₁ :=
    modifyRequest_quiet m hr ⟨rfl, rfl, rfl, rfl, rfl⟩
  rw [finalize_of_settled ((hquiet.requests r).settled.trans hset)]
  exact ⟨hquiet, hsession⟩

/-! ### A dispatched frame -/

/-- A frame takes out the entry of `r`: a tombstone is dropped with its answer,
and a request that waits is settled with the payload. -/
structure Delivers (m : Multiplexer) (t : MessageType) (payload : Payload)
    (cid : Option CorrelationId) (r : RequestId) (m' : Multiplexer) : Prop where
  takes : Takes m r t m' cid
  result :
    ((m.requests r).discardResponse = true ∧ m'.requests = m.requests ∧ Frame m m' ∧
        SameSession m m' ∧ m'.requestsInFlight = m.requestsInFlight) ∨
      ((m.requests r).discardResponse = false ∧ Closes m r (.fulfilled payload) m' ∧
        m'.requestsInFlight = m.requestsInFlight - 1)

section

variable {t : MessageType} {payload : Payload} {cid : Option CorrelationId} {final : Bool}

/-- What is taken out was looked up by its identifier, or without one. -/
theorem Takes.correlationId (htakes : Takes m r t m' cid) (h : m.Filed) :
    (m.requests r).correlationId = cid := by
  cases htakes with
  | correlated stored => exact (h.correlated stored).2
  | uncorrelated stored without => exact (h.uncorrelated stored without.stored).2.1

/-- Once the entry is out, and nothing else has changed, the frame is delivered. -/
theorem Takes.delivers (htakes : Takes m r t m₁ cid) (h : m.WellFormed) (payload : Payload)
    (hreq : m₁.requests = m.requests) (hframe : Frame m m₁) (hsession : SameSession m m₁)
    (hcount : m₁.requestsInFlight = m.requestsInFlight) :
    ((m.requests r).discardResponse = true →
        Delivers m t payload cid r { m₁ with responsesIgnored := m₁.responsesIgnored + 1 }) ∧
      ((m.requests r).discardResponse = false →
        Delivers m t payload cid r (m₁.complete r payload)) := by
  constructor
  · intro hdis
    refine ⟨?_, Or.inl ⟨hdis, hreq, hframe.trans (.of_timeouts rfl rfl rfl),
      hsession.trans ⟨rfl, rfl, rfl⟩, hcount⟩⟩
    cases htakes with
    | correlated stored hby hpending => exact .correlated stored hby hpending
    | uncorrelated stored without hby hpending =>
        exact .uncorrelated stored without hby hpending
  · intro hdis
    have hopen : (m₁.requests r).settled = false := by
      rw [hreq]
      exact h.openEntry htakes.stored hdis
    obtain ⟨hclose, hsame, hcount'⟩ := complete_of_open payload hopen
    refine ⟨?_, Or.inr ⟨hdis, ⟨hframe.trans hclose.toFrame, hsession.trans hclose.toSameSession,
      hreq ▸ hopen, hclose.settled, hreq ▸ hclose.settlements, hreq ▸ hclose.correlationId,
      hreq ▸ hclose.messageType, fun q hq => by rw [hclose.others q hq, hreq]⟩, by omega⟩⟩
    cases htakes with
    | correlated stored hby hpending =>
        exact .correlated stored (hsame.pendingByCorrelation.trans hby)
          (hsame.pending.trans hpending)
    | uncorrelated stored without hby hpending =>
        exact .uncorrelated stored without (hsame.pendingByCorrelation.trans hby)
          (hsame.pending.trans hpending)

theorem dispatchUnclaimed_quiet (m : Multiplexer) (t : MessageType) (payload : Payload) :
    Quiet m (m.dispatchUnclaimed t payload) ∧ SameSession m (m.dispatchUnclaimed t payload) := by
  unfold dispatchUnclaimed
  extract_lets optionalCount
  split
  · exact ⟨quiet_of_fields rfl rfl rfl rfl ⟨rfl, rfl⟩ rfl, ⟨rfl, rfl, rfl⟩⟩
  · split
    · exact ⟨quiet_of_fields rfl rfl rfl rfl ⟨rfl, rfl⟩ rfl, ⟨rfl, rfl, rfl⟩⟩
    · split
      · exact ⟨quiet_of_fields rfl rfl rfl rfl ⟨rfl, rfl⟩ rfl, ⟨rfl, rfl, rfl⟩⟩
      · exact ⟨quiet_of_fields rfl rfl rfl rfl ⟨rfl, rfl⟩ rfl, ⟨rfl, rfl, rfl⟩⟩

theorem dispatchCorrelated_cases {c : CorrelationId} (h : m.WellFormed)
    (hd : m.dispatchCorrelated payload c final = .ok m') :
    Quiet m m' ∧ SameSession m m' ∨ final = true ∧ ∃ r, Delivers m t payload (some c) r m' := by
  unfold dispatchCorrelated at hd
  cases hget : m.pendingByCorrelation.get? c with
  | none => rw [hget] at hd; cases hd
  | some correlated =>
      rw [hget] at hd
      dsimp only at hd
      have htakes : Takes m correlated t
          { m with pendingByCorrelation := m.pendingByCorrelation.delete c } (some c) :=
        .correlated hget rfl rfl
      obtain ⟨hdrop, hcomplete⟩ := htakes.delivers h payload rfl (.of_timeouts rfl rfl rfl)
        ⟨rfl, rfl, rfl⟩ rfl
      cases final with
      | true =>
          refine Or.inr ⟨rfl, correlated, ?_⟩
          cases hdis : (m.requests correlated).discardResponse with
          | true =>
              simp only [hdis, if_true, Except.ok.injEq] at hd
              exact hd ▸ hdrop hdis
          | false =>
              simp only [hdis, Bool.false_eq_true, if_false, if_true, Except.ok.injEq] at hd
              exact hd ▸ hcomplete hdis
      | false =>
          refine Or.inl ?_
          cases hdis : (m.requests correlated).discardResponse with
          | true =>
              simp only [hdis, if_true, Bool.false_eq_true, if_false, Except.ok.injEq] at hd
              subst hd
              exact ⟨quiet_of_fields rfl rfl rfl rfl ⟨rfl, rfl⟩ rfl,
                ⟨rfl, rfl, rfl⟩⟩
          | false =>
              simp only [hdis, Bool.false_eq_true, if_false, Except.ok.injEq] at hd
              exact hd ▸ ⟨.refl m, .refl m⟩

theorem dispatchUncorrelated_cases (h : m.WellFormed)
    (hd : m.dispatchUncorrelated t payload = .ok m') :
    Quiet m m' ∧ SameSession m m' ∨ ∃ r, Delivers m t payload none r m' := by
  unfold dispatchUncorrelated at hd
  extract_lets isPush at hd
  split at hd
  · -- a push frame, given to its handler
    obtain rfl := Except.ok.inj hd
    exact Or.inl ⟨quiet_of_fields rfl rfl rfl rfl ⟨rfl, rfl⟩ rfl,
      ⟨rfl, rfl, rfl⟩⟩
  · cases hq : m.pending.get? t with
    | none =>
        rw [hq] at hd
        exact Or.inl (Except.ok.inj hd ▸ dispatchUnclaimed_quiet m t payload)
    | some q =>
        rw [hq] at hd
        dsimp only at hd
        rw [if_neg (Nat.pos_iff_ne_zero.mp (h.ringPos hq))] at hd
        cases hdeq : q.dequeuePendingRequest with
        | none => rw [hdeq] at hd; cases hd
        | some taken =>
            obtain ⟨request, q'⟩ := taken
            rw [hdeq] at hd
            dsimp only at hd
            have htakes : Takes m request t
                { m with
                  pending := if q'.size = 0 then m.pending.delete t else m.pending.set t q' }
                  none :=
              .uncorrelated hq (PendingQueue.dequeuePendingRequest_without (h.ring hq) hdeq) rfl rfl
            obtain ⟨hdrop, hcomplete⟩ := htakes.delivers h payload rfl (.of_timeouts rfl rfl rfl)
              ⟨rfl, rfl, rfl⟩ rfl
            refine Or.inr ⟨request, ?_⟩
            cases hdis : (m.requests request).discardResponse with
            | true =>
                simp only [hdis, if_true, Except.ok.injEq] at hd
                exact hd ▸ hdrop hdis
            | false =>
                simp only [hdis, Bool.false_eq_true, if_false, Except.ok.injEq] at hd
                exact hd ▸ hcomplete hdis

theorem dispatch_cases (h : m.WellFormed) (hd : m.dispatch t payload cid final = .ok m') :
    Quiet m m' ∧ SameSession m m' ∨
      (cid.isSome → final = true) ∧ ∃ r, Delivers m t payload cid r m' := by
  cases cid with
  | some c =>
      exact (dispatchCorrelated_cases h hd).imp_right fun hdel => ⟨fun _ => hdel.1, hdel.2⟩
  | none =>
      refine (dispatchUncorrelated_cases h hd).imp_right fun hdel => ⟨fun hs => ?_, hdel⟩
      cases hs

theorem WellFormed.of_delivers (h : m.WellFormed) (hd : Delivers m t payload cid r m') :
    m'.WellFormed := by
  have hr := h.stored_lt hd.takes.stored
  rcases hd.result with ⟨-, hreq, hframe, -, -⟩ | ⟨-, hclose, -⟩
  · exact h.of_sub hd.takes.sub hframe (fun q => hreq ▸ .refl _) fun q _ => by rw [hreq]
  · exact h.of_closes hclose hr hd.takes.sub fun hs => absurd hs (hd.takes.not_stored h.toFiled)

end

end FitzTs.Client.Multiplexer
