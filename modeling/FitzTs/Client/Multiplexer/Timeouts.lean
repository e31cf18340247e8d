import FitzTs.Client.Multiplexer.TimeoutHeapOrder
import FitzTs.Client.Multiplexer.Outcome
/-!
# FitzTs.Client.Multiplexer.Timeouts

**The deadlines of the open requests.** The heap holds every unsettled request
once and no other, it is in order, and the timer is armed for the least deadline
or earlier (`TimeoutsSound`).

A step does one of three things to it: nothing (`SameTimeouts`), take out the
request it settles (`TakesTimeout`), or push a new one. Only `cancelAll` is
different: it clears the heap, whether or not it has settled what was in it.

## Main result

* `timeoutsSound_throughout_iff` — a run keeps the heap sound throughout exactly
  when every disconnect finds every unsettled request still stored.
-/

namespace FitzTs.Client.Multiplexer

open BinaryHeap

variable {m m' m₁ m₂ : Multiplexer} {r : RequestId}

/-- The heap holds the unsettled requests, in order, each at its place. -/
structure HeapSound (m : Multiplexer) : Prop where
  indexed : m.timeouts.Indexed
  isHeap : m.timeouts.IsHeap m.deadline
  mem : ∀ r, r ∈ m.timeouts.timeoutEntries ↔ r < m.issued ∧ (m.requests r).settled = false

/-- A timer is armed, for the least deadline or earlier. -/
structure Armed (m : Multiplexer) : Prop where
  next : m.timeoutHandle.isSome → m.nextTimeoutDeadline = m.timeoutHandle
  inTime : m.timeouts.timeoutEntries ≠ [] →
    ∃ armed, m.timeoutHandle = some armed ∧ ∀ r ∈ m.timeouts.timeoutEntries, armed ≤ m.deadline r

/-- What holds of the deadlines between two steps. -/
structure TimeoutsSound (m : Multiplexer) : Prop extends Armed m where
  /-- No deadline in `timeoutEntries` is before the one above it. -/
  ordered : Ordered m.timeouts.timeoutEntries.length (m.timeouts.deadlineAt m.deadline)
  /-- `timeoutIndex` is the place of the entry. -/
  index : ∀ {i : Nat} {r : RequestId}, m.timeouts.timeoutEntries[i]? = some r →
    m.timeouts.timeoutIndex r = i
  /-- Every unsettled request is there once, and no settled one is. -/
  once : ∀ r, m.timeouts.timeoutEntries.count r =
    if r < m.issued ∧ (m.requests r).settled = false then 1 else 0
  /-- When the timer fires, no request outlives its deadline. -/
  noticed : ∀ nowMs : Nat, ∃ m', m.handleTimeouts nowMs = some m' ∧
    ∀ r < m.issued, m.deadline r ≤ nowMs → (m'.requests r).settled = true

/-- The heap is the invariant that carries `TimeoutsSound`. -/
theorem TimeoutsSound.heapSound (h : m.TimeoutsSound) : m.HeapSound where
  indexed := fun _ _ hi => h.index hi
  isHeap := h.ordered
  mem := by
    intro r
    rw [← List.one_le_count_iff, h.once r]
    split
    · rename_i hopen
      exact iff_of_true le_rfl hopen
    · rename_i hopen
      exact iff_of_false (by omega) hopen

/-! ### What a step does to the heap -/

/-- Nothing the timeouts read has changed, but for the deadline of `r`. -/
structure SameButDeadline (m : Multiplexer) (r : RequestId) (m' : Multiplexer) : Prop where
  timeouts : m'.timeouts = m.timeouts
  timeoutHandle : m'.timeoutHandle = m.timeoutHandle
  nextTimeoutDeadline : m'.nextTimeoutDeadline = m.nextTimeoutDeadline
  issued : m'.issued = m.issued
  settled : ∀ q, (m'.requests q).settled = (m.requests q).settled
  others : ∀ q, q ≠ r → m'.deadline q = m.deadline q

/-- Nothing the timeouts read has changed. -/
structure SameTimeouts (m m' : Multiplexer) : Prop where
  timeouts : m'.timeouts = m.timeouts
  timeoutHandle : m'.timeoutHandle = m.timeoutHandle
  nextTimeoutDeadline : m'.nextTimeoutDeadline = m.nextTimeoutDeadline
  issued : m'.issued = m.issued
  settled : ∀ q, (m'.requests q).settled = (m.requests q).settled
  deadline : m'.deadline = m.deadline

/-- Request `r` has been settled and taken out of the heap. -/
structure TakesTimeout (m : Multiplexer) (r : RequestId) (m' : Multiplexer) : Prop where
  extracts : m.timeouts.Extracts m.deadline r m'.timeouts
  timeoutHandle : m'.timeoutHandle = m.timeoutHandle
  nextTimeoutDeadline : m'.nextTimeoutDeadline = m.nextTimeoutDeadline
  issued : m'.issued = m.issued
  settled : (m'.requests r).settled = true
  others : ∀ q, q ≠ r →
    (m'.requests q).settled = (m.requests q).settled ∧ m'.deadline q = m.deadline q

theorem SameTimeouts.refl (m : Multiplexer) : SameTimeouts m m :=
  ⟨rfl, rfl, rfl, rfl, fun _ => rfl, rfl⟩

theorem SameTimeouts.but (h : SameTimeouts m m') (r : RequestId) : SameButDeadline m r m' :=
  ⟨h.timeouts, h.timeoutHandle, h.nextTimeoutDeadline, h.issued, h.settled,
    fun q _ => congrFun h.deadline q⟩

theorem SameTimeouts.trans (h : SameTimeouts m m₁) (h' : SameTimeouts m₁ m') :
    SameTimeouts m m' :=
  ⟨h'.timeouts.trans h.timeouts, h'.timeoutHandle.trans h.timeoutHandle,
    h'.nextTimeoutDeadline.trans h.nextTimeoutDeadline, h'.issued.trans h.issued,
    fun q => (h'.settled q).trans (h.settled q), h'.deadline.trans h.deadline⟩

theorem sameTimeouts_of_requests (hreq : m'.requests = m.requests)
    (htimeouts : m'.timeouts = m.timeouts) (hhandle : m'.timeoutHandle = m.timeoutHandle)
    (hnext : m'.nextTimeoutDeadline = m.nextTimeoutDeadline) (hissued : m'.issued = m.issued) :
    SameTimeouts m m' := by
  refine ⟨htimeouts, hhandle, hnext, hissued, ?_, ?_⟩
  · intro q
    rw [hreq]
  · funext q
    rw [deadline, deadline, hreq]

/-- A change to fields of a request that the timeouts do not read. -/
theorem modifyRequest_sameTimeouts (m : Multiplexer) (r : RequestId)
    {f : PendingRequest → PendingRequest}
    (hsettled : (f (m.requests r)).settled = (m.requests r).settled)
    (hdeadline : (f (m.requests r)).deadline = (m.requests r).deadline) :
    SameTimeouts m (m.modifyRequest r f) := by
  refine ⟨rfl, rfl, rfl, rfl, ?_, ?_⟩
  · intro q
    by_cases hq : q = r
    · subst hq
      simpa [modifyRequest] using hsettled
    · simp [modifyRequest, Function.update_of_ne hq]
  · funext q
    by_cases hq : q = r
    · subst hq
      simpa [modifyRequest, deadline] using hdeadline
    · simp [modifyRequest, deadline, Function.update_of_ne hq]

theorem TakesTimeout.trans_same (h : TakesTimeout m r m₁) (h' : SameTimeouts m₁ m') :
    TakesTimeout m r m' where
  extracts := h'.timeouts ▸ h.extracts
  timeoutHandle := h'.timeoutHandle.trans h.timeoutHandle
  nextTimeoutDeadline := h'.nextTimeoutDeadline.trans h.nextTimeoutDeadline
  issued := h'.issued.trans h.issued
  settled := (h'.settled r).trans h.settled
  others := fun q hq =>
    ⟨(h'.settled q).trans (h.others q hq).1, (congrFun h'.deadline q).trans (h.others q hq).2⟩

theorem SameTimeouts.takes (h : SameTimeouts m m₁) (h' : TakesTimeout m₁ r m') :
    TakesTimeout m r m' where
  extracts := by
    have hextracts := h'.extracts
    rwa [h.timeouts, h.deadline] at hextracts
  timeoutHandle := h'.timeoutHandle.trans h.timeoutHandle
  nextTimeoutDeadline := h'.nextTimeoutDeadline.trans h.nextTimeoutDeadline
  issued := h'.issued.trans h.issued
  settled := h'.settled
  others := fun q hq =>
    ⟨(h'.others q hq).1.trans (h.settled q), (h'.others q hq).2.trans (congrFun h.deadline q)⟩

/-! ### What keeps the heap sound -/

/-- The invariant reads what `SameTimeouts` compares. -/
theorem HeapSound.of_same (h : m.HeapSound) (hs : SameTimeouts m m') : m'.HeapSound where
  indexed := hs.timeouts ▸ h.indexed
  isHeap := by
    rw [hs.timeouts, hs.deadline]
    exact h.isHeap
  mem := by
    intro q
    rw [hs.timeouts, hs.issued, hs.settled q]
    exact h.mem q

/-- An extraction takes out one request, and only this one. -/
theorem TakesTimeout.mem_iff (ht : TakesTimeout m r m') (h : m.HeapSound) {q : RequestId} :
    q ∈ m'.timeouts.timeoutEntries ↔ q ≠ r ∧ q ∈ m.timeouts.timeoutEntries := by
  have hnodup := ht.extracts.perm.nodup_iff.mpr h.indexed.nodup
  have hout : r ∉ m'.timeouts.timeoutEntries := (List.nodup_cons.mp hnodup).1
  rw [← ht.extracts.perm.mem_iff, List.mem_cons]
  constructor
  · intro hq
    exact ⟨fun he => hout (he ▸ hq), Or.inr hq⟩
  · intro ⟨hne, hq⟩
    exact hq.resolve_left hne

/-- A request that is settled leaves the heap. -/
theorem HeapSound.of_takes (h : m.HeapSound) (ht : TakesTimeout m r m') : m'.HeapSound where
  indexed := ht.extracts.indexed
  isHeap := by
    refine ht.extracts.isHeap.congr ?_
    intro q hq
    exact (ht.others q ((ht.mem_iff h).mp hq).1).2
  mem := by
    intro q
    rw [ht.mem_iff h, h.mem q, ht.issued]
    by_cases hq : q = r
    · subst hq
      simp [ht.settled]
    · simp [hq, (ht.others q hq).1]

theorem Armed.of_same (h : m.Armed) (hs : SameTimeouts m m') : m'.Armed where
  next := by
    rw [hs.timeoutHandle, hs.nextTimeoutDeadline]
    exact h.next
  inTime := by
    rw [hs.timeouts, hs.timeoutHandle, hs.deadline]
    exact h.inTime

/-- The timer may fire too early for what is left, but never too late. -/
theorem Armed.of_takes (h : m.Armed) (hm : m.HeapSound) (ht : TakesTimeout m r m') : m'.Armed where
  next := by
    rw [ht.timeoutHandle, ht.nextTimeoutDeadline]
    exact h.next
  inTime := by
    intro hne
    obtain ⟨q, hq⟩ := List.exists_mem_of_ne_nil _ hne
    obtain ⟨armed, harmed, hle⟩ := h.inTime (List.ne_nil_of_mem ((ht.mem_iff hm).mp hq).2)
    refine ⟨armed, ht.timeoutHandle.trans harmed, ?_⟩
    intro x hx
    obtain ⟨hxr, hxm⟩ := (ht.mem_iff hm).mp hx
    rw [(ht.others x hxr).2]
    exact hle x hxm

/-! ### Settling a request -/

/-- `finalize`, whatever the deadline of the request is by then. -/
theorem finalize_takes (h : m.HeapSound) (hs : SameButDeadline m r m₁) (hr : r < m.issued)
    (hopen : (m.requests r).settled = false) :
    ∃ m₂, m₁.finalize r = some m₂ ∧ TakesTimeout m r m₂ := by
  have hopen₁ : ¬ (m₁.requests r).settled = true := by rw [hs.settled r, hopen]; decide
  refine ⟨_, by rw [finalize, if_neg hopen₁], ?_⟩
  have hmem : r ∈ m.timeouts.timeoutEntries := (h.mem r).mpr ⟨hr, hopen⟩
  have hagree : ∀ q, q ≠ r →
      (m₁.modifyRequest r fun e => { e with settled := true }).deadline q = m.deadline q := by
    intro q hq
    rw [← hs.others q hq]
    simp [modifyRequest, deadline, Function.update_of_ne hq]
  have hextracts := TimeoutHeap.removeTimeoutEntry_extracts h.indexed h.isHeap hmem hagree
  refine ⟨?_, hs.timeoutHandle, hs.nextTimeoutDeadline, hs.issued, ?_, ?_⟩
  · rw [← hs.timeouts] at hextracts ⊢
    exact hextracts
  · simp [modifyRequest, removeTimeoutEntry]
  · intro q hq
    have hset := hs.settled q
    have hdead := hs.others q hq
    simp only [deadline] at hdead
    simp [modifyRequest, removeTimeoutEntry, deadline, Function.update_of_ne hq, hset, hdead]

/-- Removing the entry of a request that is out of the heap does nothing. -/
theorem removeTimeoutEntry_of_index (hr : m.timeouts.timeoutIndex r = -1) :
    m.removeTimeoutEntry r = m := by
  rw [removeTimeoutEntry, TimeoutHeap.removeTimeoutEntry_of_index hr]

/-- `finalize` takes nothing out of the heap when the entry is out already. -/
theorem finalize_removed (hr : m.timeouts.timeoutIndex r = -1)
    (hopen : (m.requests r).settled = false) :
    m.finalize r =
      some (m.modifyRequest r fun e => { e with settled := true, deadline := -1 }) := by
  have hmarked : (m.modifyRequest r fun e => { e with settled := true }).removeTimeoutEntry r =
      m.modifyRequest r fun e => { e with settled := true } := removeTimeoutEntry_of_index hr
  rw [finalize, if_neg (by rw [hopen]; decide)]
  dsimp only
  rw [hmarked]
  simp [modifyRequest]

theorem unregisterRequest_sameTimeouts (m : Multiplexer) (r : RequestId) :
    SameTimeouts m (m.unregisterRequest r) := by
  unfold unregisterRequest
  cases (m.requests r).correlationId with
  | some c => exact sameTimeouts_of_requests rfl rfl rfl rfl rfl
  | none =>
      dsimp only
      cases m.pending.get? (m.requests r).messageType with
      | none => exact .refl m
      | some q =>
          dsimp only
          split
          · exact .refl m
          · cases q.unregister m.queueIndex r with
            | none => exact .refl m
            | some q' => exact sameTimeouts_of_requests rfl rfl rfl rfl rfl

theorem settle_sameTimeouts (m : Multiplexer) (r : RequestId) (s : Settlement) :
    SameTimeouts m (m.settle r s) := modifyRequest_sameTimeouts m r rfl rfl

/-- `failRequest` and `rejectRequest` with `retainQueueSlot` do the same to the heap. -/
theorem settled_in_place_takes (ht : TakesTimeout m r m₁) (s : Settlement) :
    TakesTimeout m r ((m₁.tombstone r).recordRequestFinished.settle r s) := by
  have htomb : SameTimeouts m₁ (m₁.tombstone r) := modifyRequest_sameTimeouts m₁ r rfl rfl
  have hcount : SameTimeouts (m₁.tombstone r) (m₁.tombstone r).recordRequestFinished :=
    sameTimeouts_of_requests rfl rfl rfl rfl rfl
  exact ((ht.trans_same htomb).trans_same hcount).trans_same (settle_sameTimeouts _ r s)

/-- What a step that settles at most one request does. -/
def Touches (m m' : Multiplexer) : Prop :=
  SameTimeouts m m' ∨ ∃ r, TakesTimeout m r m'

theorem SameTimeouts.touches (hs : SameTimeouts m m₁) (ht : Touches m₁ m') : Touches m m' := by
  rcases ht with hsame | ⟨r, ht⟩
  · exact Or.inl (hs.trans hsame)
  · exact Or.inr ⟨r, hs.takes ht⟩

/-- A step that settles at most one request keeps what holds of the deadlines. -/
theorem Touches.keeps (ht : Touches m m') (h : m.HeapSound) (ha : m.Armed) :
    m'.HeapSound ∧ m'.Armed := by
  rcases ht with hsame | ⟨r, ht⟩
  · exact ⟨h.of_same hsame, ha.of_same hsame⟩
  · exact ⟨h.of_takes ht, ha.of_takes h ht⟩

theorem failRequest_touches (h : m.HeapSound) (hr : r < m.issued) (error : ClientError) :
    Touches m (m.failRequest r error) := by
  cases hset : (m.requests r).settled with
  | true =>
      rw [failRequest_of_settled error hset]
      exact Or.inl (.refl m)
  | false =>
      obtain ⟨m₂, hfin, ht⟩ := finalize_takes h ((SameTimeouts.refl m).but r) hr hset
      rw [failRequest, hfin]
      exact Or.inr ⟨r, settled_in_place_takes ht _⟩

/-- A request that is answered leaves the heap. -/
theorem complete_takes (h : m.HeapSound) (hr : r < m.issued)
    (hopen : (m.requests r).settled = false) (payload : Payload) :
    TakesTimeout m r (m.complete r payload) := by
  unfold complete onComplete
  extract_lets m₁ m₂ m₃
  -- the deadline is dropped before the request is taken out
  have hbut : SameButDeadline m r (m₃.settle r (.fulfilled payload)) := by
    refine ⟨rfl, rfl, rfl, rfl, ?_, ?_⟩
    · intro q
      by_cases hq : q = r
      · subst hq
        simp [m₁, m₂, m₃, settle, modifyRequest, recordRequestFinished]
      · simp [m₁, m₂, m₃, settle, modifyRequest, recordRequestFinished, Function.update_of_ne hq]
    · intro q hq
      simp [m₁, m₂, m₃, settle, modifyRequest, recordRequestFinished, deadline,
        Function.update_of_ne hq]
  obtain ⟨m₄, hfin, ht⟩ := finalize_takes h hbut hr hopen
  rw [hfin, Option.getD_some]
  exact ht

/-- A send that fails settles its request, unless that has been settled before. -/
theorem sendRejected_touches (h : m.HeapSound) (hr : r < m.issued) (error : ClientError) :
    Touches m (m.sendRejected r error) := by
  have hsent : SameTimeouts m (m.modifyRequest r fun e => { e with sendPending := false }) :=
    modifyRequest_sameTimeouts m r rfl rfl
  unfold sendRejected
  cases hset : (m.requests r).settled with
  -- the request has left the heap before
  | true =>
      dsimp only
      rw [finalize_of_settled ((hsent.settled r).trans hset)]
      exact Or.inl hsent
  | false =>
      obtain ⟨m₂, hfin, ht⟩ := finalize_takes h (hsent.but r) hr hset
      dsimp only
      rw [hfin]
      exact Or.inr ⟨r, (ht.trans_same (unregisterRequest_sameTimeouts m₂ r)).trans_same
        (settle_sameTimeouts _ r _)⟩

theorem sendResolved_touches (h : m.HeapSound) (hr : r < m.issued) :
    Touches m (m.sendResolved r) := by
  have hsent : SameTimeouts m (m.modifyRequest r fun e => { e with sendPending := false }) :=
    modifyRequest_sameTimeouts m r rfl rfl
  unfold sendResolved
  dsimp only
  split
  · exact Or.inl hsent
  · exact hsent.touches (failRequest_touches (h.of_same hsent) (hsent.issued ▸ hr) _)

theorem signalAborted_touches (h : m.HeapSound) (hr : r < m.issued) :
    Touches m (m.signalAborted r) := by
  have haborted : SameTimeouts m (m.modifyRequest r fun e => { e with aborted := true }) :=
    modifyRequest_sameTimeouts m r rfl rfl
  exact haborted.touches (failRequest_touches (h.of_same haborted) (haborted.issued ▸ hr) _)

/-! ### A dispatched frame -/

/-- A response settles at most the request it belongs to. -/
theorem dispatchCorrelated_touches (h : m.HeapSound) (hm : m.WellFormed) {payload : Payload}
    {c : CorrelationId} {final : Bool} (hd : m.dispatchCorrelated payload c final = .ok m') :
    Touches m m' := by
  unfold dispatchCorrelated at hd
  cases hget : m.pendingByCorrelation.get? c with
  | none => rw [hget] at hd; cases hd
  | some correlated =>
      rw [hget] at hd
      dsimp only at hd
      have hstored : m.Stored correlated := Or.inl ⟨c, hget⟩
      have hwithout : SameTimeouts m
          { m with pendingByCorrelation := m.pendingByCorrelation.delete c } :=
        sameTimeouts_of_requests rfl rfl rfl rfl rfl
      cases hdis : (m.requests correlated).discardResponse with
      | true =>
          rw [hdis, if_pos rfl] at hd
          obtain rfl := Except.ok.inj hd
          refine Or.inl ?_
          split <;> exact sameTimeouts_of_requests rfl rfl rfl rfl rfl
      | false =>
          rw [hdis, if_neg (by decide)] at hd
          split at hd
          · obtain rfl := Except.ok.inj hd
            exact Or.inr ⟨correlated, hwithout.takes (complete_takes (h.of_same hwithout)
              (hm.stored_lt hstored) (hm.openEntry hstored hdis) payload)⟩
          · obtain rfl := Except.ok.inj hd
            exact Or.inl (.refl m)

theorem dispatchUnclaimed_sameTimeouts (m : Multiplexer) (t : MessageType) (payload : Payload) :
    SameTimeouts m (m.dispatchUnclaimed t payload) := by
  unfold dispatchUnclaimed
  extract_lets optionalCount
  split
  · exact sameTimeouts_of_requests rfl rfl rfl rfl rfl
  · split
    · exact sameTimeouts_of_requests rfl rfl rfl rfl rfl
    · split <;> exact sameTimeouts_of_requests rfl rfl rfl rfl rfl

/-- Without correlation the oldest request of the type is answered. -/
theorem dispatchUncorrelated_touches (h : m.HeapSound) (hm : m.WellFormed) {t : MessageType}
    {payload : Payload} (hd : m.dispatchUncorrelated t payload = .ok m') : Touches m m' := by
  unfold dispatchUncorrelated at hd
  extract_lets isPush at hd
  split at hd
  · obtain rfl := Except.ok.inj hd
    exact Or.inl (sameTimeouts_of_requests rfl rfl rfl rfl rfl)
  · cases hq : m.pending.get? t with
    | none =>
        rw [hq] at hd
        obtain rfl := Except.ok.inj hd
        exact Or.inl (dispatchUnclaimed_sameTimeouts m t payload)
    -- the oldest request of the type is answered, or its answer discarded
    | some q =>
        rw [hq] at hd
        dsimp only at hd
        rw [if_neg (Nat.pos_iff_ne_zero.mp (hm.ringPos hq))] at hd
        cases hdeq : q.dequeuePendingRequest with
        | none => rw [hdeq] at hd; cases hd
        | some taken =>
            obtain ⟨request, q'⟩ := taken
            have hstored : m.Stored request := Or.inr ⟨t, q, hq,
              (PendingQueue.dequeuePendingRequest_without (hm.ring hq) hdeq).stored⟩
            rw [hdeq] at hd
            dsimp only at hd
            have hwithout : SameTimeouts m { m with
                pending := if q'.size = 0 then m.pending.delete t else m.pending.set t q' } :=
              sameTimeouts_of_requests rfl rfl rfl rfl rfl
            cases hdis : (m.requests request).discardResponse with
            | true =>
                rw [hdis, if_pos rfl] at hd
                obtain rfl := Except.ok.inj hd
                exact Or.inl (sameTimeouts_of_requests rfl rfl rfl rfl rfl)
            | false =>
                rw [hdis, if_neg (by decide)] at hd
                obtain rfl := Except.ok.inj hd
                exact Or.inr ⟨request, hwithout.takes (complete_takes (h.of_same hwithout)
                  (hm.stored_lt hstored) (hm.openEntry hstored hdis) payload)⟩

/-! ### The timer -/

/-- One turn of the loop takes out the request at the root. -/
theorem expire_takes (h : m.HeapSound) (hmem : r ∈ m.timeouts.timeoutEntries) (nowMs : Nat) :
    TakesTimeout m r (m.expire r nowMs) := by
  obtain ⟨-, hopen⟩ := (h.mem r).mp hmem
  have hextracts : TimeoutHeap.Extracts m.timeouts m.deadline r
      (m.timeouts.removeTimeoutEntry m.deadline r) :=
    TimeoutHeap.removeTimeoutEntry_extracts h.indexed h.isHeap hmem fun _ _ => rfl
  unfold expire
  extract_lets m₁
  have hopen₁ : (m₁.requests r).settled = false := by
    simp [m₁, modifyRequest, Multiplexer.removeTimeoutEntry, hopen]
  have hindex : m₁.timeouts.timeoutIndex r = -1 := hextracts.timeoutIndex
  have hfin := finalize_removed hindex hopen₁
  have ht : TakesTimeout m r
      (m₁.modifyRequest r fun e => { e with settled := true, deadline := -1 }) := by
    refine ⟨hextracts, rfl, rfl, rfl, ?_, ?_⟩
    · simp [modifyRequest]
    · intro q hq
      simp [m₁, modifyRequest, deadline, Multiplexer.removeTimeoutEntry, Function.update_of_ne hq]
  rw [rejectRequest, hfin]
  dsimp only
  rw [removeTimeoutEntry_of_index ht.extracts.timeoutIndex, if_pos rfl]
  exact settled_in_place_takes ht _

/-- What the loop leaves: no request whose deadline has passed. -/
theorem handleTimeoutsLoop_heapSound {nowMs : Nat} : ∀ {fuel : Nat} {m m' : Multiplexer},
    m.HeapSound → handleTimeoutsLoop nowMs fuel m = some m' →
    m'.HeapSound ∧ m'.issued = m.issued ∧
      (∀ q, (m'.requests q).settled = false →
        (m.requests q).settled = false ∧ m'.deadline q = m.deadline q) ∧
      ∀ q ∈ m'.timeouts.timeoutEntries, (nowMs : Int) < m'.deadline q := by
  intro fuel
  induction fuel with
  | zero => intro m m' _ hl; cases hl
  | succ fuel ih =>
      intro m m' h hl
      rw [handleTimeoutsLoop] at hl
      cases hhead : m.timeouts.timeoutEntries.head? with
      | none =>
          rw [hhead] at hl
          obtain rfl := Option.some.inj hl
          have hempty := List.head?_eq_none_iff.mp hhead
          refine ⟨h, rfl, fun _ hq => ⟨hq, rfl⟩, ?_⟩
          intro q hq
          rw [hempty] at hq
          cases hq
      | some r =>
          rw [hhead] at hl
          dsimp only at hl
          by_cases hdue : m.deadline r ≤ nowMs
          · rw [if_pos hdue] at hl
            have ht := expire_takes h (List.mem_of_mem_head? hhead) nowMs
            obtain ⟨hsound, hissued, hopen, hlate⟩ := ih (h.of_takes ht) hl
            refine ⟨hsound, hissued.trans ht.issued, ?_, hlate⟩
            intro q hq
            obtain ⟨hqopen, hqdead⟩ := hopen q hq
            have hqr : q ≠ r := by
              intro he
              rw [he, ht.settled] at hqopen
              cases hqopen
            obtain ⟨hset, hdead⟩ := ht.others q hqr
            exact ⟨hset ▸ hqopen, hqdead.trans hdead⟩
          · rw [if_neg hdue] at hl
            obtain rfl := Option.some.inj hl
            refine ⟨h, rfl, fun _ hq => ⟨hq, rfl⟩, ?_⟩
            intro q hq
            exact (not_le.mp hdue).trans_le (h.isHeap.head_le hhead hq)

/-- The timer fires: whatever is due is rejected, and the timer is set for the rest. -/
theorem handleTimeouts_heapSound (h : m.HeapSound) {nowMs : Nat}
    (ht : m.handleTimeouts nowMs = some m') :
    m'.HeapSound ∧ m'.Armed ∧
      ∀ r < m.issued, m.deadline r ≤ nowMs → (m'.requests r).settled = true := by
  unfold handleTimeouts at ht
  obtain ⟨m₁, hloop, rfl⟩ := Option.map_eq_some_iff.mp ht
  have hstopped : HeapSound { m with timeoutHandle := none, nextTimeoutDeadline := none } :=
    ⟨h.indexed, h.isHeap, h.mem⟩
  obtain ⟨hsound, hissued, hopen, hlate⟩ := handleTimeoutsLoop_heapSound hstopped hloop
  refine ⟨⟨hsound.indexed, hsound.isHeap, hsound.mem⟩, ⟨fun _ => rfl, ?_⟩, ?_⟩
  · -- the timer is armed for the root, the least deadline that is left
    intro hne
    obtain ⟨root, hroot⟩ : ∃ root, m₁.timeouts.timeoutEntries.head? = some root :=
      Option.isSome_iff_exists.mp (List.isSome_head?.mpr hne)
    refine ⟨m₁.deadline root, ?_, ?_⟩
    · show m₁.timeouts.timeoutEntries.head?.map m₁.deadline = some (m₁.deadline root)
      rw [hroot]
      rfl
    · intro q hq
      exact hsound.isHeap.head_le hroot hq
  · intro r hr hdue
    -- what the loop leaves in the heap is not due
    by_contra hunsettled
    have hunsettled' : (m₁.requests r).settled = false := Bool.not_eq_true _ ▸ hunsettled
    have hlt := hlate r ((hsound.mem r).mpr ⟨hissued.symm ▸ hr, hunsettled'⟩)
    rw [(hopen r hunsettled').2] at hlt
    exact absurd hdue (not_le.mpr hlt)

/-! ### A new request -/

theorem register_sameTimeouts (m : Multiplexer) (r : RequestId) :
    SameTimeouts m (m.register r) := by
  unfold register
  cases (m.requests r).correlationId <;> exact sameTimeouts_of_requests rfl rfl rfl rfl rfl

/-- A request is pushed: the heap is sound with it, and the timer is armed in time for it. -/
theorem enter_heapSound (h : m.HeapSound) (ha : m.Armed) (t : MessageType)
    (cid : Option CorrelationId) (nowMs timeoutMs : Nat) (hasSignal : Bool) :
    (m.enter t cid nowMs timeoutMs hasSignal).HeapSound ∧
      (m.enter t cid nowMs timeoutMs hasSignal).Armed ∧
      (m.enter t cid nowMs timeoutMs hasSignal).issued = m.issued + 1 := by
  unfold enter
  extract_lets r entry m₁ m₂ m₃
  have hnew : r ∉ m.timeouts.timeoutEntries := by
    intro hmem
    exact absurd ((h.mem r).mp hmem).1 (lt_irrefl r)
  have hold : ∀ q ∈ m.timeouts.timeoutEntries, m₁.deadline q = m.deadline q := by
    intro q hq
    have hqr : q ≠ r := fun he => hnew (he ▸ hq)
    show (Function.update m.requests r entry q).deadline = (m.requests q).deadline
    rw [Function.update_of_ne hqr]
  have hself : m₂.deadline r = entry.deadline := by
    show (Function.update m.requests r entry r).deadline = entry.deadline
    rw [Function.update_self]
  have hpushed : m₂.HeapSound := by
    refine ⟨TimeoutHeap.push_indexed h.indexed hnew,
      TimeoutHeap.push_isHeap (h.isHeap.congr hold), ?_⟩
    intro q
    rw [TimeoutHeap.mem_push, h.mem q]
    show _ ↔ q < r + 1 ∧ (Function.update m.requests r entry q).settled = false
    by_cases hq : q = r
    · subst hq
      simp [entry]
    · have hlt : q < r + 1 ↔ q < r :=
        ⟨fun hle => lt_of_le_of_ne (Nat.le_of_lt_succ hle) hq, Nat.lt_succ_of_lt⟩
      rw [Function.update_of_ne hq, hlt]
      exact ⟨fun hmem => hmem.resolve_left hq, Or.inr⟩
  obtain ⟨hscheduled, harmed⟩ : (m₂.scheduleTimeout entry.deadline).HeapSound ∧
      (m₂.scheduleTimeout entry.deadline).Armed := by
    have hentries : ∀ q ∈ m₂.timeouts.timeoutEntries,
        q = r ∨ q ∈ m.timeouts.timeoutEntries ∧ m₂.deadline q = m.deadline q := by
      intro q hq
      exact (TimeoutHeap.mem_push.mp hq).imp_right fun hmem => ⟨hmem, hold q hmem⟩
    unfold scheduleTimeout
    by_cases hearly : (m₂.timeoutHandle.isSome &&
        notBefore entry.deadline m₂.nextTimeoutDeadline) = true
    · -- armed for this deadline or an earlier one
      rw [if_pos hearly]
      obtain ⟨hsome, hnot⟩ := Bool.and_eq_true_iff.mp hearly
      obtain ⟨armed, harmed⟩ := Option.isSome_iff_exists.mp hsome
      have hnext : m₂.nextTimeoutDeadline = some armed := (ha.next hsome).trans harmed
      rw [hnext] at hnot
      have hle : armed ≤ entry.deadline := of_decide_eq_true hnot
      refine ⟨hpushed, ha.next, fun _ => ⟨armed, harmed, ?_⟩⟩
      intro q hq
      rcases hentries q hq with rfl | ⟨hmem, hdead⟩
      · exact hself ▸ hle
      · obtain ⟨armed', harmed', hall⟩ := ha.inTime (List.ne_nil_of_mem hmem)
        obtain rfl := Option.some.inj (harmed.symm.trans harmed')
        rw [hdead]
        exact hall q hmem
    · rw [if_neg hearly]
      refine ⟨⟨hpushed.indexed, hpushed.isHeap, hpushed.mem⟩, fun _ => rfl,
        fun _ => ⟨entry.deadline, rfl, ?_⟩⟩
      intro q hq
      show entry.deadline ≤ m₂.deadline q
      rcases hentries q hq with rfl | ⟨hmem, hdead⟩
      · exact hself.ge
      · -- the timer that was armed is later than the new deadline
        obtain ⟨armed, harmed, hall⟩ := ha.inTime (List.ne_nil_of_mem hmem)
        have hsome : m₂.timeoutHandle.isSome = true := by
          show m.timeoutHandle.isSome = true
          rw [harmed]
          rfl
        have hnext : m₂.nextTimeoutDeadline = some armed := (ha.next hsome).trans harmed
        rw [hsome, hnext, Bool.true_and] at hearly
        have hlt : ¬ armed ≤ entry.deadline := fun hle => hearly (decide_eq_true hle)
        rw [hdead]
        exact (not_le.mp hlt).le.trans (hall q hmem)
  have hregistered : SameTimeouts (m₂.scheduleTimeout entry.deadline) m₃ :=
    register_sameTimeouts _ r
  have hcounted : SameTimeouts m₃ { m₃ with
      requestsInFlight := m₃.requestsInFlight + 1, requestsTotal := m₃.requestsTotal + 1 } :=
    sameTimeouts_of_requests rfl rfl rfl rfl rfl
  have hsame := hregistered.trans hcounted
  have hissued : (m₂.scheduleTimeout entry.deadline).issued = m.issued + 1 :=
    (scheduleTimeout_fields m₂ entry.deadline).2.1
  exact ⟨hscheduled.of_same hsame, harmed.of_same hsame, hsame.issued.trans hissued⟩

/-- A request joins the heap with its deadline. -/
theorem issueRequest_heapSound (h : m.HeapSound) (ha : m.Armed) {t : MessageType}
    {nowMs timeoutMs : Nat} {signal : Option Bool} {sendThrows : Option ClientError}
    (hi : m.issueRequest t nowMs timeoutMs signal sendThrows = .ok m') :
    m'.HeapSound ∧ m'.Armed := by
  unfold issueRequest at hi
  split at hi
  · cases hi
  · cases hcid : m.requestCorrelationId with
    | error error => rw [hcid] at hi; cases hi
    | ok drawn =>
        obtain ⟨cid, m₀⟩ := drawn
        obtain ⟨-, next, rfl, -⟩ := requestCorrelationId_ok hcid
        rw [hcid] at hi
        dsimp only at hi
        have hdrawn : SameTimeouts m { m with nextCorrelationId := next } :=
          sameTimeouts_of_requests rfl rfl rfl rfl rfl
        obtain ⟨hentered, harmed, hissued⟩ := enter_heapSound (h.of_same hdrawn)
          (ha.of_same hdrawn) t cid nowMs timeoutMs signal.isSome
        cases sendThrows with
        | none =>
            obtain rfl := Except.ok.inj hi
            exact ⟨hentered, harmed⟩
        | some error =>
            obtain rfl := Except.ok.inj hi
            -- a send that throws fails the request it has just entered
            generalize ({ m with nextCorrelationId := next }.enter t cid nowMs timeoutMs
              signal.isSome) = m₁ at hentered harmed hissued ⊢
            have hthrown : SameTimeouts m₁
                (m₁.modifyRequest m.issued fun e => { e with sendPending := false }) :=
              modifyRequest_sameTimeouts m₁ m.issued rfl rfl
            have hlt : m.issued < m₁.issued := by
              rw [hissued]
              exact Nat.lt_succ_self _
            exact (hthrown.touches (failRequest_touches (hentered.of_same hthrown)
              (hthrown.issued ▸ hlt) error)).keeps hentered harmed

/-! ### One step -/

/-- A disconnect finds every unsettled request stored. -/
def ReachesAll (m : Multiplexer) : Event → Prop
  | .setDisconnected => ∀ r < m.issued, (m.requests r).settled = false → m.Stored r
  | _ => True

/-- Every step but a disconnect keeps the heap sound and the timer armed. -/
theorem step_heapSound (h : m.HeapSound) (ha : m.Armed) (hm : m.WellFormed) {e : Event}
    (he : e ≠ .setDisconnected) (hs : step m e = some m') : m'.HeapSound ∧ m'.Armed := by
  have hsame : SameTimeouts m m' → m'.HeapSound ∧ m'.Armed :=
    fun hsame => ⟨h.of_same hsame, ha.of_same hsame⟩
  cases e with
  | issue t nowMs timeoutMs signal sendThrows =>
      rw [step] at hs
      cases hi : m.issueRequest t nowMs timeoutMs signal sendThrows with
      | error error =>
          rw [hi] at hs
          obtain rfl := Option.some.inj hs
          exact ⟨h, ha⟩
      | ok m₁ =>
          rw [hi] at hs
          obtain rfl := Option.some.inj hs
          exact issueRequest_heapSound h ha hi
  | sendResolved r =>
      obtain ⟨hp, heq⟩ := Option.ite_none_right_eq_some.mp hs
      obtain rfl := Option.some.inj heq
      exact (sendResolved_touches h (hm.lt_of_sendPending hp)).keeps h ha
  | sendRejected r error =>
      obtain ⟨hp, heq⟩ := Option.ite_none_right_eq_some.mp hs
      obtain rfl := Option.some.inj heq
      exact (sendRejected_touches h (hm.lt_of_sendPending hp) error).keeps h ha
  | dispatch t payload cid final =>
      rw [step] at hs
      cases hd : m.dispatch t payload cid final with
      | error error =>
          rw [hd] at hs
          cases error with
          | unexpectedCorrelation c =>
              obtain rfl := Option.some.inj hs
              exact ⟨h, ha⟩
          | spin => cases hs
      | ok m₁ =>
          rw [hd] at hs
          obtain rfl := Option.some.inj hs
          cases cid with
          | some c => exact (dispatchCorrelated_touches h hm hd).keeps h ha
          | none => exact (dispatchUncorrelated_touches h hm hd).keeps h ha
  -- the timer expires what is due and is armed for the next
  | timer nowMs =>
      obtain ⟨-, heq⟩ := Option.ite_none_right_eq_some.mp hs
      obtain ⟨hsound, harmed, -⟩ := handleTimeouts_heapSound h heq
      exact ⟨hsound, harmed⟩
  | abort r =>
      obtain ⟨hp, heq⟩ := Option.ite_none_right_eq_some.mp hs
      obtain rfl := Option.some.inj heq
      exact (signalAborted_touches h (hm.lt_of_hasSignal hp.1)).keeps h ha
  -- the disconnect clears the heap in another way, and is treated apart
  | setDisconnected => exact absurd rfl he
  | allocate =>
      rw [step] at hs
      unfold allocateCorrelationId at hs
      by_cases hexhausted : m.nextCorrelationId = 0
      · rw [if_pos hexhausted] at hs
        obtain rfl := Option.some.inj hs
        exact ⟨h, ha⟩
      · rw [if_neg hexhausted] at hs
        obtain rfl := Option.some.inj hs
        exact hsame (sameTimeouts_of_requests rfl rfl rfl rfl rfl)
  | _ =>
      obtain rfl := Option.some.inj hs
      exact hsame (sameTimeouts_of_requests rfl rfl rfl rfl rfl)

/-- With the heap and the timer right, so are the deadlines. -/
theorem HeapSound.timeoutsSound (h : m.HeapSound) (ha : m.Armed) (hm : m.WellFormed) :
    m.TimeoutsSound where
  toArmed := ha
  ordered := h.isHeap
  index := fun hi => h.indexed hi
  once := by
    intro r
    by_cases hr : r ∈ m.timeouts.timeoutEntries
    · rw [if_pos ((h.mem r).mp hr)]
      exact List.count_eq_one_of_mem h.indexed.nodup hr
    · rw [if_neg fun hopen => hr ((h.mem r).mpr hopen)]
      exact List.count_eq_zero.mpr hr
  noticed := by
    intro nowMs
    obtain ⟨m', ht⟩ := Option.isSome_iff_exists.mp (handleTimeouts_isSome hm nowMs)
    obtain ⟨-, -, hnoticed⟩ := handleTimeouts_heapSound h ht
    exact ⟨m', ht, hnoticed⟩

/-- An empty heap is sound if nothing is pending. -/
theorem HeapSound.of_empty (hempty : m.timeouts.timeoutEntries = [])
    (hsettled : ∀ r < m.issued, (m.requests r).settled = true) : m.HeapSound where
  indexed := by
    intro i r hi
    rw [hempty] at hi
    cases hi
  isHeap := by
    intro i _ hi
    rw [hempty] at hi
    cases hi
  mem := by
    intro r
    rw [hempty]
    refine iff_of_false List.not_mem_nil ?_
    intro ⟨hr, hopen⟩
    rw [hsettled r hr] at hopen
    cases hopen

/-- No timer is needed for an empty heap. -/
theorem Armed.of_empty (hempty : m.timeouts.timeoutEntries = []) (hnone : m.timeoutHandle = none) :
    m.Armed where
  next := by
    intro hs
    rw [hnone] at hs
    cases hs
  inTime := fun hne => absurd hempty hne

theorem rejectRequest_timeoutHandle (m : Multiplexer) (r : RequestId) (error : ClientError) :
    (m.rejectRequest r error false).timeoutHandle = m.timeoutHandle := by
  unfold rejectRequest
  cases hfin : m.finalize r with
  | none => rfl
  | some m₁ =>
      have hkeep : m₁.timeoutHandle = m.timeoutHandle := by
        obtain ⟨-, heq⟩ := Option.ite_none_left_eq_some.mp hfin
        obtain rfl := Option.some.inj heq
        rfl
      exact (unregisterRequest_sameTimeouts (m₁.removeTimeoutEntry r) r).timeoutHandle.trans hkeep

/-- No timer is armed after `cancelAll`. -/
theorem setDisconnected_timeoutHandle (m : Multiplexer) :
    m.setDisconnected.timeoutHandle = none := by
  unfold setDisconnected cancelAll
  extract_lets requestsToCancel m₁ m₂
  have hfold : ∀ (rs : List RequestId) (m : Multiplexer),
      (rs.foldl (fun m r => m.rejectRequest r (connectionReset m.state) false) m).timeoutHandle =
        m.timeoutHandle := by
    intro rs
    induction rs with
    | nil => intro m; rfl
    | cons r rs ih =>
        intro m
        rw [List.foldl_cons, ih, rejectRequest_timeoutHandle]
  exact hfold requestsToCancel m₁

/-- `cancelAll` clears the heap; what it has not reached is open without an entry there. -/
theorem setDisconnected_timeoutsSound_iff (hm : m.WellFormed) :
    m.setDisconnected.TimeoutsSound ↔ m.ReachesAll .setDisconnected := by
  have hd : Disconnects m m.setDisconnected := setDisconnected_disconnects m
  have hempty : m.setDisconnected.timeouts.timeoutEntries = [] := rfl
  constructor
  · intro hsound r hr hopen
    by_contra hstored
    have honce := hsound.once r
    rw [hempty, hd.issued, hd.others r (Or.inl hstored), if_pos ⟨hr, hopen⟩] at honce
    cases honce
  · intro hreaches
    refine HeapSound.timeoutsSound (.of_empty hempty ?_)
      (.of_empty hempty (setDisconnected_timeoutHandle m)) (hm.of_disconnects hd)
    intro r hr
    rw [hd.issued] at hr
    cases hwas : (m.requests r).settled with
    | true => rw [hd.others r (Or.inr hwas), hwas]
    | false => exact (hd.closed r (hreaches r hr hwas) hwas).1

theorem timeoutsSound_init : machine.init.TimeoutsSound :=
  HeapSound.timeoutsSound (.of_empty rfl fun _ hr => absurd hr (Nat.not_lt_zero _))
    (.of_empty rfl rfl) wellFormed_init

/-- **The timeout heap.** It is sound in every state of a run exactly when every
disconnect of the run finds every unsettled request in one of the collections. -/
theorem timeoutsSound_throughout_iff (es : List Event) (hrun : (machine.run es).isSome) :
    machine.Throughout TimeoutsSound machine.init es ↔
      machine.Guarded ReachesAll machine.init es := by
  obtain ⟨t, ht⟩ := Option.isSome_iff_exists.mp hrun
  refine Machine.throughout_iff_guarded (I := WellFormed)
    (fun _ _ _ hm hs => wellFormed_step hm hs) ?_ wellFormed_init timeoutsSound_init ht
  intro m e m' hm hsound hs
  by_cases he : e = .setDisconnected
  · subst he
    obtain rfl := Option.some.inj hs
    exact setDisconnected_timeoutsSound_iff hm
  · obtain ⟨hheap, harmed⟩ := step_heapSound hsound.heapSound hsound.toArmed hm he hs
    refine iff_of_true (hheap.timeoutsSound harmed (wellFormed_step hm hs)) ?_
    cases e <;> trivial

/-- A run with three deadlines, an answer, a firing of the timer and a disconnect. -/
private def deadlinesRun : List Event :=
  [.setConnected, .issue 7 0 3000 none none, .issue 7 0 1000 none none, .issue 7 0 2000 none none,
    .dispatch 7 [1] (some 3) true, .timer 1000, .setDisconnected]

theorem timeoutsSound_throughout_deadlinesRun :
    machine.Throughout TimeoutsSound machine.init deadlinesRun ↔
      machine.Guarded ReachesAll machine.init deadlinesRun :=
  timeoutsSound_throughout_iff deadlinesRun (by decide)

/-- The identifiers start again, so the second request replaces the entry of the first; the
disconnect takes the first one's deadline away and does not settle it. -/
theorem timeoutsSound_fails : ¬ ∀ es m, machine.run es = some m → m.TimeoutsSound := by
  intro h
  let es : List Event := [.issue 7 0 1000 none none, .setConnected, .issue 7 0 1000 none none,
    .setDisconnected]
  obtain ⟨m, hm, hgone, hopen⟩ : ∃ m, machine.run es = some m ∧
      m.timeouts.timeoutEntries.count 0 = 0 ∧
      (0 < m.issued ∧ (m.requests 0).settled = false) := ⟨_, rfl, by decide, by decide⟩
  have honce := (h es m hm).once 0
  rw [hgone, if_pos hopen] at honce
  cases honce

end FitzTs.Client.Multiplexer
