import FitzTs.Client.Multiplexer.Invariant
/-!
# FitzTs.Client.Multiplexer.Issuing

A request enters the multiplexer (`Enters`): it gets its identifier, its place in
the heap and its entry, and the invariant holds with it.
-/

namespace FitzTs.Client.Multiplexer

variable {m m' m₁ : Multiplexer} {r : RequestId}

/-- The request with the number `m.issued` and the fields `e` is stored, in the
collection its identifier says. -/
structure Enters (m : Multiplexer) (e : PendingRequest) (m' : Multiplexer) : Prop where
  settled : e.settled = false
  settlements : e.settlements = []
  issued : m'.issued = m.issued + 1
  requests : m'.requests = Function.update m.requests m.issued e
  state : m'.state = m.state
  correlationEnabled : m'.correlationEnabled = m.correlationEnabled
  correlationId : e.correlationId = if m.correlationEnabled then some m.nextCorrelationId else none
  /-- Identifiers start at 1; after the last one none is left. -/
  nextCorrelationId : if m.correlationEnabled
    then m.nextCorrelationId ≠ 0 ∧
      (m'.nextCorrelationId = 0 ∨ m'.nextCorrelationId = m.nextCorrelationId + 1)
    else m'.nextCorrelationId = m.nextCorrelationId
  pendingByCorrelation : m'.pendingByCorrelation = match e.correlationId with
    | some c => m.pendingByCorrelation.set c m.issued
    | none => m.pendingByCorrelation
  requestsInFlight : m'.requestsInFlight = m.requestsInFlight + 1
  stored : ∀ {r}, m'.Stored r → r = m.issued ∨ m.Stored r
  wellFormed : m'.WellFormed

theorem scheduleTimeout_fields (m : Multiplexer) (d : Int) :
    (m.scheduleTimeout d).requests = m.requests ∧ (m.scheduleTimeout d).issued = m.issued ∧
      (m.scheduleTimeout d).queueIndex = m.queueIndex ∧
      (m.scheduleTimeout d).timeouts = m.timeouts ∧
      (m.scheduleTimeout d).requestsInFlight = m.requestsInFlight ∧
      SameEntries m (m.scheduleTimeout d) ∧ SameSession m (m.scheduleTimeout d) := by
  unfold scheduleTimeout
  split
  · exact ⟨rfl, rfl, rfl, rfl, rfl, .refl m, .refl m⟩
  · exact ⟨rfl, rfl, rfl, rfl, rfl, ⟨rfl, rfl⟩, ⟨rfl, rfl, rfl⟩⟩

/-- `m` is `m₀` with a new request built, which is not stored yet. -/
structure Builds (m₀ : Multiplexer) (e : PendingRequest) (m : Multiplexer) : Prop
    extends SameEntries m₀ m where
  issued : m.issued = m₀.issued + 1
  requests : m.requests = Function.update m₀.requests m₀.issued e
  queueIndex : m.queueIndex = Function.update m₀.queueIndex m₀.issued (-1)

section

variable {m₀ : Multiplexer} {e : PendingRequest}

theorem Filed.stored_ne (h : m₀.Filed) (hs : m₀.Stored r) : r ≠ m₀.issued := (h.stored_lt hs).ne

/-- The rings of `m₀` are indexed by the places of `m` as well. -/
theorem Builds.ring (hb : Builds m₀ e m) (h : m₀.Filed) {t : MessageType} {q : PendingQueue}
    (hq : m₀.pending.get? t = some q) : q.Indexed m.queueIndex := by
  rw [hb.queueIndex]
  refine (h.ring hq).congr fun x hx => ?_
  exact Function.update_of_ne (h.stored_ne (Or.inr ⟨t, q, hq, hx⟩)) _ _

/-- The ring that a new uncorrelated request joins. -/
theorem Builds.joined (hb : Builds m₀ e m) (h : m₀.Filed) (t : MessageType) :
    ((m.pending.get? t).getD .create).Indexed m.queueIndex ∧
      ∀ x, ((m.pending.get? t).getD .create).Stores x →
        ∃ q₀, m₀.pending.get? t = some q₀ ∧ q₀.Stores x := by
  rw [hb.pending]
  cases hget : m₀.pending.get? t with
  | none =>
      exact ⟨PendingQueue.create_indexed, fun x hx => absurd hx PendingQueue.not_stores_create⟩
  | some q => exact ⟨hb.ring h hget, fun x hx => ⟨q, rfl, hx⟩⟩

theorem Builds.not_joined (hb : Builds m₀ e m) (h : m₀.Filed) (t : MessageType) :
    ¬ ((m.pending.get? t).getD .create).Stores m₀.issued := by
  intro hs
  obtain ⟨q₀, hget, hx⟩ := (hb.joined h t).2 _ hs
  exact h.stored_ne (Or.inr ⟨_, q₀, hget, hx⟩) rfl

/-- Storing the new request stores nothing else. -/
theorem Builds.stored_register (hb : Builds m₀ e m) (h : m₀.Filed)
    (hs : (m.register m₀.issued).Stored r) : r = m₀.issued ∨ m₀.Stored r := by
  have hnew : m.requests m₀.issued = e := by rw [hb.requests, Function.update_self]
  unfold register at hs
  rw [hnew] at hs
  cases hcid : e.correlationId with
  | some c =>
      rw [hcid] at hs
      rcases hs with ⟨c', hr⟩ | ⟨t, q, hq, hr⟩
      · rw [OrderedMap.get?_set, hb.pendingByCorrelation] at hr
        split at hr
        · exact Or.inl (Option.some.inj hr).symm
        · exact Or.inr (Or.inl ⟨c', hr⟩)
      · exact Or.inr (Or.inr ⟨t, q, hb.pending ▸ hq, hr⟩)
  | none =>
      rw [hcid] at hs
      rcases hs with ⟨c', hr⟩ | ⟨t, q, hq, hr⟩
      · exact Or.inr (Or.inl ⟨c', hb.pendingByCorrelation ▸ hr⟩)
      · dsimp only at hq
        rw [OrderedMap.get?_set, hb.pending] at hq
        split at hq
        · obtain rfl := Option.some.inj hq
          obtain ⟨hindexed, hfrom⟩ := hb.joined h e.messageType
          rw [← hb.pending] at hr
          obtain ⟨-, hstores, -⟩ :=
            PendingQueue.enqueuePendingRequest_indexed hindexed (hb.not_joined h e.messageType)
          rcases hstores r hr with rfl | hold
          · exact Or.inl rfl
          · obtain ⟨q₀, hget, hx⟩ := hfrom r hold
            exact Or.inr (Or.inr ⟨_, q₀, hget, hx⟩)
        · exact Or.inr (Or.inr ⟨t, q, hq, hr⟩)

/-- The entries are filed when the new request has been stored. -/
theorem Builds.register_filed (hb : Builds m₀ e m) (h : m₀.Filed) :
    (m.register m₀.issued).Filed := by
  have hold : ∀ {x}, m₀.Stored x → m.requests x = m₀.requests x := fun hs => by
    rw [hb.requests, Function.update_of_ne (h.stored_ne hs)]
  have hnew : m.requests m₀.issued = e := by rw [hb.requests, Function.update_self]
  unfold register
  rw [hnew]
  cases hcid : e.correlationId with
  | some c =>
      refine ⟨?_, fun hq => hb.ring h (hb.pending ▸ hq), fun hq => h.ringPos (hb.pending ▸ hq), ?_⟩
      · intro c' x hx
        dsimp only at hx ⊢
        rw [hb.pendingByCorrelation, OrderedMap.get?_set] at hx
        rw [hb.issued]
        split at hx
        · rename_i hc
          obtain rfl := Option.some.inj hx
          rw [hnew, hc]
          exact ⟨Nat.lt_succ_self _, hcid⟩
        · rw [hold (Or.inl ⟨_, hx⟩)]
          exact ⟨Nat.lt_succ_of_lt (h.correlated hx).1, (h.correlated hx).2⟩
      · intro t q x hq hx
        dsimp only at hq ⊢
        rw [hb.pending] at hq
        rw [hb.issued, hold (Or.inr ⟨t, q, hq, hx⟩)]
        obtain ⟨hlt, hrest⟩ := h.uncorrelated hq hx
        exact ⟨Nat.lt_succ_of_lt hlt, hrest⟩
  | none =>
      dsimp only
      obtain ⟨hjoin, hfrom⟩ := hb.joined h e.messageType
      obtain ⟨hindexed, hstores, hkeep⟩ :=
        PendingQueue.enqueuePendingRequest_indexed hjoin (hb.not_joined h e.messageType)
      have hpos := PendingQueue.enqueuePendingRequest_size_pos
        ((m.pending.get? e.messageType).getD .create) m.queueIndex m₀.issued
      generalize ((m.pending.get? e.messageType).getD .create).enqueuePendingRequest
        m.queueIndex m₀.issued = joined at *
      obtain ⟨q', index'⟩ := joined
      dsimp only at hindexed hstores hkeep hpos ⊢
      refine ⟨?_, ?_, ?_, ?_⟩
      · intro c' x hx
        dsimp only at hx ⊢
        rw [hb.pendingByCorrelation] at hx
        rw [hb.issued, hold (Or.inl ⟨_, hx⟩)]
        exact ⟨Nat.lt_succ_of_lt (h.correlated hx).1, (h.correlated hx).2⟩
      · intro t q₂ hq₂
        dsimp only at hq₂ ⊢
        rw [OrderedMap.get?_set, hb.pending] at hq₂
        split at hq₂
        · obtain rfl := Option.some.inj hq₂
          exact hindexed
        · rename_i ht
          refine (hb.ring h hq₂).congr fun x hx => ?_
          -- `x` is filed under another message type, so enqueuing leaves its place alone
          refine hkeep x (h.stored_ne (Or.inr ⟨t, q₂, hq₂, hx⟩)) fun hs => ?_
          obtain ⟨q₀, hget, hx₀⟩ := hfrom _ hs
          exact ht ((h.uncorrelated hq₂ hx).2.2.symm.trans (h.uncorrelated hget hx₀).2.2)
      · intro t q₂ hq₂
        dsimp only at hq₂
        rw [OrderedMap.get?_set, hb.pending] at hq₂
        split at hq₂
        · obtain rfl := Option.some.inj hq₂
          exact hpos
        · exact h.ringPos hq₂
      · intro t q₂ x hq₂ hx
        dsimp only at hq₂ ⊢
        rw [OrderedMap.get?_set, hb.pending] at hq₂
        rw [hb.issued]
        split at hq₂
        · rename_i ht
          obtain rfl := Option.some.inj hq₂
          rcases hstores x hx with rfl | hx
          · rw [hnew]
            exact ⟨Nat.lt_succ_self _, hcid, ht.symm⟩
          · obtain ⟨q₀, hget, hx₀⟩ := hfrom _ hx
            obtain ⟨hlt, hnone, htype⟩ := h.uncorrelated hget hx₀
            rw [hold (Or.inr ⟨_, q₀, hget, hx₀⟩), ht]
            exact ⟨Nat.lt_succ_of_lt hlt, hnone, htype⟩
        · rw [hold (Or.inr ⟨t, q₂, hq₂, hx⟩)]
          obtain ⟨hlt, hrest⟩ := h.uncorrelated hq₂ hx
          exact ⟨Nat.lt_succ_of_lt hlt, hrest⟩

end

/-- `register` changes the collections and the places in the rings. -/
theorem register_fields (m : Multiplexer) (r : RequestId) :
    (m.register r).requests = m.requests ∧ (m.register r).issued = m.issued ∧
      (m.register r).timeouts = m.timeouts ∧
      (m.register r).requestsInFlight = m.requestsInFlight ∧ SameSession m (m.register r) ∧
      (m.register r).pendingByCorrelation = match (m.requests r).correlationId with
        | some c => m.pendingByCorrelation.set c r
        | none => m.pendingByCorrelation := by
  unfold register
  cases (m.requests r).correlationId <;> exact ⟨rfl, rfl, rfl, rfl, ⟨rfl, rfl, rfl⟩, rfl⟩

theorem enter_enters (h : m.WellFormed) (t : MessageType) (nowMs timeoutMs : Nat)
    (hasSignal : Bool) {cid : Option CorrelationId} {next : CorrelationId}
    (hcid : cid = if m.correlationEnabled then some m.nextCorrelationId else none)
    (hnext : if m.correlationEnabled
      then m.nextCorrelationId ≠ 0 ∧ (next = 0 ∨ next = m.nextCorrelationId + 1)
      else next = m.nextCorrelationId) :
    Enters m ⟨t, cid, nowMs + timeoutMs, false, nowMs, hasSignal, false, true, false, []⟩
      ({ m with nextCorrelationId := next }.enter t cid nowMs timeoutMs hasSignal) := by
  unfold enter
  extract_lets r entry m₁ m₂ m₃
  obtain ⟨hreq₂, hiss₂, hidx₂, hheap₂, hcount₂, hsame₂, hsession₂⟩ :=
    scheduleTimeout_fields m₂ entry.deadline
  obtain ⟨hreq₃, hiss₃, hheap₃, hcount₃, hsession₃, hby₃⟩ :=
    register_fields (m₂.scheduleTimeout entry.deadline) r
  have hbuilds : Builds m entry (m₂.scheduleTimeout entry.deadline) :=
    ⟨⟨hsame₂.pendingByCorrelation, hsame₂.pending⟩, hiss₂, hreq₂, hidx₂⟩
  have hreq : m₃.requests = Function.update m.requests m.issued entry := hreq₃.trans hreq₂
  have hiss : m₃.issued = m.issued + 1 := hiss₃.trans hiss₂
  have hheap : m₃.timeouts = m.timeouts.push m₁.deadline m.issued := hheap₃.trans hheap₂
  have hrest : ∀ {x}, x ≠ m.issued → m₃.requests x = m.requests x := fun hx => by
    rw [hreq, Function.update_of_ne hx]
  have hself : m₃.requests m.issued = entry := by rw [hreq, Function.update_self]
  -- what is stored afterwards is the new request or was stored before
  have hstored : ∀ {x}, m₃.Stored x → x = m.issued ∨ m.Stored x :=
    hbuilds.stored_register h.toFiled
  -- each part of the invariant, for the new request and for the others
  have hm₃ : m₃.WellFormed := by
    refine ⟨hbuilds.register_filed h.toFiled, ?_, ?_, ?_, ?_, ?_, ?_⟩
    · intro x hs hd
      rcases hstored hs with rfl | hold
      · rw [hself]
      · rw [hrest (h.toFiled.stored_ne hold)] at hd ⊢
        exact h.openEntry hold hd
    · intro x hd
      by_cases hx : x = m.issued
      · rw [hx, hself] at hd
        cases hd
      · rw [hrest hx] at hd ⊢
        exact h.tombstone hd
    · intro x
      by_cases hx : x = m.issued
      · rw [hx, hself]
        rfl
      · rw [hrest hx]
        exact h.once x
    · intro x hx
      rw [hiss] at hx
      rw [hrest (Nat.lt_of_succ_le hx).ne']
      exact h.fresh (Nat.le_of_succ_le hx)
    · rw [hheap]
      refine TimeoutHeap.push_indexed h.heap fun hmem => ?_
      exact (h.heapIssued hmem).ne rfl
    · intro x hx
      rw [hheap, TimeoutHeap.mem_push] at hx
      rw [hiss]
      rcases hx with rfl | hx
      · exact Nat.lt_succ_self _
      · exact Nat.lt_succ_of_lt (h.heapIssued hx)
  have hstate : m₃.state = m.state := hsession₃.state.trans hsession₂.state
  have henabled : m₃.correlationEnabled = m.correlationEnabled :=
    hsession₃.correlationEnabled.trans hsession₂.correlationEnabled
  refine ⟨rfl, rfl, hiss, hreq, hstate, henabled, hcid, ?_, ?_, ?_, hstored, ?_⟩
  · have hn : m₃.nextCorrelationId = next :=
      hsession₃.nextCorrelationId.trans hsession₂.nextCorrelationId
    dsimp only
    rw [hn]
    exact hnext
  · have hcid₂ : ((m₂.scheduleTimeout entry.deadline).requests r).correlationId = cid := by
      rw [hbuilds.requests]
      exact congrArg _ (Function.update_self ..)
    rw [hcid₂, hbuilds.pendingByCorrelation] at hby₃
    exact hby₃
  · change m₃.requestsInFlight + 1 = _
    rw [show m₃.requestsInFlight = m.requestsInFlight from hcount₃.trans hcount₂]
  · exact hm₃.of_sub (SameEntries.sub ⟨rfl, rfl⟩) (.of_timeouts rfl rfl rfl) (fun q => .refl _)
      fun _ _ => rfl

/-- The identifier of a new request, and what remains to be given out. -/
theorem requestCorrelationId_ok {cid : Option CorrelationId}
    (h : m.requestCorrelationId = .ok (cid, m₁)) :
    cid = (if m.correlationEnabled then some m.nextCorrelationId else none) ∧
      ∃ next, m₁ = { m with nextCorrelationId := next } ∧
        if m.correlationEnabled
        then m.nextCorrelationId ≠ 0 ∧ (next = 0 ∨ next = m.nextCorrelationId + 1)
        else next = m.nextCorrelationId := by
  unfold requestCorrelationId allocateCorrelationId at h
  by_cases henabled : m.correlationEnabled = true
  · simp only [if_pos henabled] at h ⊢
    by_cases hnext : m.nextCorrelationId = 0
    · rw [if_pos hnext] at h
      cases h
    · rw [if_neg hnext] at h
      obtain ⟨rfl, rfl⟩ := Prod.mk.inj (Except.ok.inj h)
      refine ⟨rfl, _, rfl, hnext, ?_⟩
      split
      · exact Or.inl rfl
      · exact Or.inr rfl
  · simp only [if_neg henabled] at h ⊢
    obtain ⟨rfl, rfl⟩ := Prod.mk.inj (Except.ok.inj h)
    exact ⟨rfl, _, rfl, rfl⟩

/-- A request whose `send` does not throw enters. -/
theorem issueRequest_enters (h : m.WellFormed) {t : MessageType} {nowMs timeoutMs : Nat}
    {signal : Option Bool} (hi : m.issueRequest t nowMs timeoutMs signal none = .ok m') :
    ∃ e, Enters m e m' := by
  unfold issueRequest at hi
  split at hi
  · cases hi
  · cases hcid : m.requestCorrelationId with
    | error error => rw [hcid] at hi; cases hi
    | ok drawn =>
        obtain ⟨cid, m₀⟩ := drawn
        obtain ⟨hid, next, rfl, hnext⟩ := requestCorrelationId_ok hcid
        rw [hcid] at hi
        exact ⟨_, Except.ok.inj hi ▸ enter_enters h t nowMs timeoutMs signal.isSome hid hnext⟩

/-- No request is issued for a signal that has been aborted. -/
theorem issueRequest_signal {t : MessageType} {nowMs timeoutMs : Nat} {signal : Option Bool}
    {sendThrows : Option ClientError}
    (hi : m.issueRequest t nowMs timeoutMs signal sendThrows = .ok m') : signal ≠ some true := by
  intro hsignal
  unfold issueRequest at hi
  rw [if_pos hsignal] at hi
  cases hi

/-- A request that is issued enters; one whose `send` throws fails at once. -/
theorem issueRequest_cases (h : m.WellFormed) {t : MessageType} {nowMs timeoutMs : Nat}
    {signal : Option Bool} {sendThrows : Option ClientError}
    (hi : m.issueRequest t nowMs timeoutMs signal sendThrows = .ok m') :
    ∃ e m₁, e.messageType = t ∧ Enters m e m₁ ∧
      (m' = m₁ ∨ ∃ m₂ error, Quiet m₁ m₂ ∧ SameSession m₁ m₂ ∧
        Tombstones m₂ m.issued (.rejected error) m') := by
  unfold issueRequest at hi
  split at hi
  · cases hi
  · cases hcid : m.requestCorrelationId with
    | error error => rw [hcid] at hi; cases hi
    | ok drawn =>
        obtain ⟨cid, m₀⟩ := drawn
        obtain ⟨hid, next, rfl, hnext⟩ := requestCorrelationId_ok hcid
        rw [hcid] at hi
        dsimp only at hi
        have henters := enter_enters h t nowMs timeoutMs signal.isSome hid hnext
        refine ⟨_, _, rfl, henters, ?_⟩
        cases sendThrows with
        | none => exact Or.inl (Except.ok.inj hi).symm
        | some error =>
            refine Or.inr ?_
            have hlt : m.issued < ({ m with nextCorrelationId := next }.enter t cid nowMs timeoutMs
                signal.isSome).issued := by
              rw [henters.issued]
              exact Nat.lt_succ_self _
            obtain ⟨hquiet, hsession⟩ := modifyRequest_quiet _ hlt
              (f := fun e => { e with sendPending := false }) ⟨rfl, rfl, rfl, rfl, rfl⟩
            refine ⟨_, error, hquiet, hsession, Except.ok.inj hi ▸ failRequest_of_open error ?_⟩
            rw [(hquiet.requests m.issued).settled, henters.requests, Function.update_self]

end FitzTs.Client.Multiplexer
