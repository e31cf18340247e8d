import FitzTs.Client.Multiplexer.PendingQueueSound
import FitzTs.Client.Multiplexer.TimeoutHeapSound
import FitzTs.Client.Multiplexer
/-!
# FitzTs.Client.Multiplexer.Settling

What the functions that settle a request do to the multiplexer, said once.

There are seven ways in which the promise of a request is settled (an answer on
either path, a timeout, an abort, a send that throws, resolves too late or
rejects, and a disconnect). Each ends in `Closes m r s m'`: request `r` was open
in `m`, is closed with settlement `s` in `m'`, and no other request's fields have
changed. The lemmas of the individual functions add what became of the two
collections (`SameEntries`, `Takes`) and of the counter.
-/

namespace FitzTs.Client.Multiplexer

variable {m m' m'' : Multiplexer} {r : RequestId}

/-- Request `r` has an entry in one of the two collections. -/
def Stored (m : Multiplexer) (r : RequestId) : Prop :=
  (∃ c, m.pendingByCorrelation.get? c = some r) ∨
    ∃ t q, m.pending.get? t = some q ∧ q.Stores r

/-- No request is issued; the heap at most loses entries. -/
structure Frame (m m' : Multiplexer) : Prop where
  issued : m'.issued = m.issued
  queueIndex : m'.queueIndex = m.queueIndex
  heap : m.timeouts.Indexed → m.timeouts.Shrinks m'.timeouts

/-- The session goes on, and no identifier is drawn. -/
structure SameSession (m m' : Multiplexer) : Prop where
  state : m'.state = m.state
  nextCorrelationId : m'.nextCorrelationId = m.nextCorrelationId
  correlationEnabled : m'.correlationEnabled = m.correlationEnabled

/-- Both collections are as before. -/
structure SameEntries (m m' : Multiplexer) : Prop where
  pendingByCorrelation : m'.pendingByCorrelation = m.pendingByCorrelation
  pending : m'.pending = m.pending

theorem Frame.of_timeouts (hissued : m'.issued = m.issued) (hindex : m'.queueIndex = m.queueIndex)
    (htimeouts : m'.timeouts = m.timeouts) : Frame m m' :=
  ⟨hissued, hindex, fun h => by rw [htimeouts]; exact .refl h⟩

theorem Frame.refl (m : Multiplexer) : Frame m m := .of_timeouts rfl rfl rfl

theorem Frame.trans (h : Frame m m') (h' : Frame m' m'') : Frame m m'' := by
  refine ⟨h'.issued.trans h.issued, h'.queueIndex.trans h.queueIndex, fun hi => ?_⟩
  have hm' := h.heap hi
  exact hm'.trans (h'.heap hm'.indexed)

theorem SameSession.refl (m : Multiplexer) : SameSession m m := ⟨rfl, rfl, rfl⟩

theorem SameSession.trans (h : SameSession m m') (h' : SameSession m' m'') :
    SameSession m m'' :=
  ⟨h'.state.trans h.state, h'.nextCorrelationId.trans h.nextCorrelationId,
    h'.correlationEnabled.trans h.correlationEnabled⟩

theorem SameEntries.refl (m : Multiplexer) : SameEntries m m := ⟨rfl, rfl⟩

theorem SameEntries.trans (h : SameEntries m m') (h' : SameEntries m' m'') : SameEntries m m'' :=
  ⟨h'.pendingByCorrelation.trans h.pendingByCorrelation, h'.pending.trans h.pending⟩

theorem SameEntries.stored_iff (h : SameEntries m m') : m'.Stored r ↔ m.Stored r := by
  rw [Stored, Stored, h.pendingByCorrelation, h.pending]

/-- The fields of a request that say who it is and how it stands. -/
structure SameCore (e e' : PendingRequest) : Prop where
  correlationId : e'.correlationId = e.correlationId
  messageType : e'.messageType = e.messageType
  discardResponse : e'.discardResponse = e.discardResponse
  settled : e'.settled = e.settled
  settlements : e'.settlements = e.settlements

theorem SameCore.refl (e : PendingRequest) : SameCore e e := ⟨rfl, rfl, rfl, rfl, rfl⟩

theorem SameCore.trans {e e' e'' : PendingRequest} (h : SameCore e e') (h' : SameCore e' e'') :
    SameCore e e'' :=
  ⟨h'.correlationId.trans h.correlationId, h'.messageType.trans h.messageType,
    h'.discardResponse.trans h.discardResponse, h'.settled.trans h.settled,
    h'.settlements.trans h.settlements⟩

/-- Nothing is stored, taken out or settled. -/
structure Quiet (m m' : Multiplexer) : Prop extends Frame m m', SameEntries m m' where
  requests : ∀ q, SameCore (m.requests q) (m'.requests q)
  fresh : ∀ q, m.issued ≤ q → m'.requests q = m.requests q
  requestsInFlight : m'.requestsInFlight = m.requestsInFlight

theorem Quiet.refl (m : Multiplexer) : Quiet m m :=
  ⟨.refl m, .refl m, fun _ => .refl _, fun _ _ => rfl, rfl⟩

theorem quiet_of_fields (hrequests : m'.requests = m.requests) (hissued : m'.issued = m.issued)
    (hindex : m'.queueIndex = m.queueIndex) (htimeouts : m'.timeouts = m.timeouts)
    (hentries : SameEntries m m') (hcount : m'.requestsInFlight = m.requestsInFlight) :
    Quiet m m' :=
  ⟨.of_timeouts hissued hindex htimeouts, hentries, fun _ => hrequests ▸ .refl _,
    fun _ _ => by rw [hrequests], hcount⟩

/-- Changing other fields of an issued request. -/
theorem modifyRequest_quiet (m : Multiplexer) {r : RequestId} (hr : r < m.issued)
    {f : PendingRequest → PendingRequest} (hf : SameCore (m.requests r) (f (m.requests r))) :
    Quiet m (m.modifyRequest r f) ∧ SameSession m (m.modifyRequest r f) := by
  refine ⟨⟨.of_timeouts rfl rfl rfl, ⟨rfl, rfl⟩, fun q => ?_, fun q hq => ?_, rfl⟩,
    ⟨rfl, rfl, rfl⟩⟩
  · by_cases hqr : q = r
    · subst hqr
      simpa [modifyRequest] using hf
    · simpa [modifyRequest, Function.update_of_ne hqr] using SameCore.refl _
  · have hne : q ≠ r := (lt_of_lt_of_le hr hq).ne'
    simp [modifyRequest, Function.update_of_ne hne]

theorem removeTimeoutEntry_frame (m : Multiplexer) (r : RequestId) :
    Frame m (m.removeTimeoutEntry r) :=
  ⟨rfl, rfl, fun h => (TimeoutHeap.removeTimeoutEntry_removes h).toShrinks⟩

/-! ### Settling one request -/

/-- From `m` to `m'`, request `r` is settled by `s` and nothing else about any
request changes. -/
structure Closes (m : Multiplexer) (r : RequestId) (s : Settlement) (m' : Multiplexer) : Prop
    extends Frame m m', SameSession m m' where
  wasOpen : (m.requests r).settled = false
  settled : (m'.requests r).settled = true
  settlements : (m'.requests r).settlements = (m.requests r).settlements ++ [s]
  correlationId : (m'.requests r).correlationId = (m.requests r).correlationId
  messageType : (m'.requests r).messageType = (m.requests r).messageType
  others : ∀ q, q ≠ r → m'.requests q = m.requests q

theorem finalize_of_settled (h : (m.requests r).settled = true) : m.finalize r = none := by
  simp [finalize, h]

/-- `m'` is `m` with request `r` finalized: two of its fields change and its
entry leaves the heap. -/
structure Finalizes (m : Multiplexer) (r : RequestId) (m' : Multiplexer) : Prop
    extends Frame m m', SameSession m m', SameEntries m m' where
  requests : m'.requests =
    Function.update m.requests r { m.requests r with settled := true, deadline := -1 }
  requestsInFlight : m'.requestsInFlight = m.requestsInFlight

theorem finalize_of_open (h : (m.requests r).settled = false) :
    ∃ m', m.finalize r = some m' ∧ Finalizes m r m' := by
  refine ⟨_, by rw [finalize, if_neg (by simp [h])], ?_⟩
  refine ⟨?_, ⟨rfl, rfl, rfl⟩, ⟨rfl, rfl⟩, ?_, rfl⟩
  · have hmark : Frame m (m.modifyRequest r fun e => { e with settled := true }) :=
      .of_timeouts rfl rfl rfl
    exact (hmark.trans (removeTimeoutEntry_frame _ r)).trans (.of_timeouts rfl rfl rfl)
  · simp [modifyRequest, removeTimeoutEntry]

/-- A finalized request is closed once its promise is settled, whatever happens
to its collection and its tombstone mark in between. -/
theorem Finalizes.closes {m₁ m₂ : Multiplexer} (hf : Finalizes m r m₁)
    (h : (m.requests r).settled = false) (s : Settlement) (discard : Bool)
    (hreq : m₂.requests = Function.update m₁.requests r
      { m₁.requests r with discardResponse := discard })
    (hframe : Frame m₁ m₂) (hsession : SameSession m₁ m₂) :
    Closes m r s (m₂.settle r s) := by
  refine ⟨hf.toFrame.trans (hframe.trans (.of_timeouts rfl rfl rfl)),
    hf.toSameSession.trans (hsession.trans ⟨rfl, rfl, rfl⟩), h, ?_, ?_, ?_, ?_, ?_⟩ <;>
    simp +contextual [settle, modifyRequest, hreq, hf.requests]

/-! ### Settled in place -/

/-- The request is settled by `s` and stays in its collection as a tombstone;
the counter has been lowered. -/
structure Tombstones (m : Multiplexer) (r : RequestId) (s : Settlement) (m' : Multiplexer) : Prop
    extends Closes m r s m', SameEntries m m' where
  discardResponse : (m'.requests r).discardResponse = true
  requestsInFlight : m'.requestsInFlight = m.requestsInFlight - 1

/-- A finalized request that is marked, counted and settled stays as a tombstone. -/
theorem Finalizes.tombstones {m₁ : Multiplexer} (hf : Finalizes m r m₁)
    (h : (m.requests r).settled = false) (s : Settlement) :
    Tombstones m r s ((m₁.tombstone r).recordRequestFinished.settle r s) := by
  have hframe : Frame m₁ (m₁.tombstone r).recordRequestFinished := .of_timeouts rfl rfl rfl
  have hsession : SameSession m₁ (m₁.tombstone r).recordRequestFinished := ⟨rfl, rfl, rfl⟩
  refine ⟨hf.closes h s true rfl hframe hsession, ⟨hf.pendingByCorrelation, hf.pending⟩, ?_, ?_⟩
  · simp [tombstone, recordRequestFinished, settle, modifyRequest]
  · simp [tombstone, recordRequestFinished, settle, modifyRequest, hf.requestsInFlight]

/-- Removing its heap entry once more changes nothing about a finalized request. -/
theorem Finalizes.removeTimeoutEntry {m₁ : Multiplexer} (hf : Finalizes m r m₁) :
    Finalizes m r (m₁.removeTimeoutEntry r) where
  toFrame := hf.toFrame.trans (removeTimeoutEntry_frame m₁ r)
  toSameSession := hf.toSameSession.trans ⟨rfl, rfl, rfl⟩
  toSameEntries := hf.toSameEntries.trans ⟨rfl, rfl⟩
  requests := hf.requests
  requestsInFlight := hf.requestsInFlight

/-- `failRequest` leaves the entry of the request in place, as a tombstone. -/
theorem failRequest_of_open (error : ClientError) (h : (m.requests r).settled = false) :
    Tombstones m r (.rejected error) (m.failRequest r error) := by
  obtain ⟨m₁, hfin, hf⟩ := finalize_of_open h
  rw [failRequest, hfin]
  exact hf.tombstones h _

theorem failRequest_of_settled (error : ClientError) (h : (m.requests r).settled = true) :
    m.failRequest r error = m := by
  rw [failRequest, finalize_of_settled h]

/-- With `retainQueueSlot`, `rejectRequest` does what `failRequest` does. -/
theorem rejectRequest_retain_of_open (error : ClientError) (h : (m.requests r).settled = false) :
    Tombstones m r (.rejected error) (m.rejectRequest r error true) := by
  obtain ⟨m₁, hfin, hf⟩ := finalize_of_open h
  rw [rejectRequest, hfin]
  exact hf.removeTimeoutEntry.tombstones h _

theorem rejectRequest_of_settled (error : ClientError) (retain : Bool)
    (h : (m.requests r).settled = true) : m.rejectRequest r error retain = m := by
  rw [rejectRequest, finalize_of_settled h]

/-! ### Taken out of a collection -/

/-- From `m` to `m'`, the entry of `r` leaves the place where a frame of type `t`
with correlation `cid` is looked up. -/
inductive Takes (m : Multiplexer) (r : RequestId) (t : MessageType) (m' : Multiplexer) :
    Option CorrelationId → Prop
  | correlated {c : CorrelationId} (stored : m.pendingByCorrelation.get? c = some r)
      (pendingByCorrelation : m'.pendingByCorrelation = m.pendingByCorrelation.delete c)
      (pending : m'.pending = m.pending) : Takes m r t m' (some c)
  | uncorrelated {q q' : PendingQueue} (stored : m.pending.get? t = some q)
      (without : PendingQueue.Without q r q')
      (pendingByCorrelation : m'.pendingByCorrelation = m.pendingByCorrelation)
      (pending : m'.pending =
        if q'.size = 0 then m.pending.delete t else m.pending.set t q') : Takes m r t m' none

theorem Takes.stored {t : MessageType} {cid : Option CorrelationId} (h : Takes m r t m' cid) :
    m.Stored r := by
  cases h with
  | correlated stored _ _ => exact Or.inl ⟨_, stored⟩
  | uncorrelated stored without _ _ => exact Or.inr ⟨t, _, stored, without.stored⟩

/-- `unregisterRequest` touches the collections and the counter only. -/
theorem unregisterRequest_frame (m : Multiplexer) (r : RequestId) :
    (m.unregisterRequest r).requests = m.requests ∧ Frame m (m.unregisterRequest r) ∧
      SameSession m (m.unregisterRequest r) := by
  unfold unregisterRequest
  cases (m.requests r).correlationId with
  | some c => exact ⟨rfl, .of_timeouts rfl rfl rfl, ⟨rfl, rfl, rfl⟩⟩
  | none =>
      dsimp only
      cases m.pending.get? (m.requests r).messageType with
      | none => exact ⟨rfl, .refl m, .refl m⟩
      | some q =>
          dsimp only
          split
          · exact ⟨rfl, .refl m, .refl m⟩
          · cases q.unregister m.queueIndex r with
            | none => exact ⟨rfl, .refl m, .refl m⟩
            | some q' => exact ⟨rfl, .of_timeouts rfl rfl rfl, ⟨rfl, rfl, rfl⟩⟩

/-- Settling a finalized request after taking it out of its collection. -/
theorem Finalizes.closes_unregistered {m₁ : Multiplexer} (hf : Finalizes m r m₁)
    (h : (m.requests r).settled = false) (s : Settlement) :
    Closes m r s ((m₁.unregisterRequest r).settle r s) := by
  obtain ⟨hreq, hframe, hsession⟩ := unregisterRequest_frame m₁ r
  refine hf.closes h s (m₁.requests r).discardResponse ?_ hframe hsession
  rw [hreq]
  exact (Function.update_eq_self r m₁.requests).symm

/-- `complete` settles a request that is open. -/
theorem complete_of_open (payload : Payload) (h : (m.requests r).settled = false) :
    Closes m r (.fulfilled payload) (m.complete r payload) ∧
      SameEntries m (m.complete r payload) ∧
      (m.complete r payload).requestsInFlight = m.requestsInFlight - 1 := by
  unfold complete onComplete
  extract_lets m₁ m₂ m₃
  -- up to `onComplete`, a settlement has been logged and nothing closed
  obtain ⟨e, hreq, hset, hlog, hcid, htype⟩ : ∃ e,
      (m₃.settle r (.fulfilled payload)).requests = Function.update m.requests r e ∧
        e.settled = false ∧ e.settlements = (m.requests r).settlements ++ [.fulfilled payload] ∧
        e.correlationId = (m.requests r).correlationId ∧
        e.messageType = (m.requests r).messageType := by
    refine ⟨(m₃.settle r (.fulfilled payload)).requests r, ?_, ?_, ?_, ?_, ?_⟩ <;>
      simp [m₁, m₂, m₃, settle, modifyRequest, recordRequestFinished, h]
  have hframe : Frame m (m₃.settle r (.fulfilled payload)) := .of_timeouts rfl rfl rfl
  have hsession : SameSession m (m₃.settle r (.fulfilled payload)) := ⟨rfl, rfl, rfl⟩
  have hopen : ((m₃.settle r (.fulfilled payload)).requests r).settled = false := by
    rw [hreq, Function.update_self]
    exact hset
  obtain ⟨m₄, hfin, hf⟩ := finalize_of_open hopen
  rw [hfin, Option.getD_some]
  refine ⟨⟨hframe.trans hf.toFrame, hsession.trans hf.toSameSession, h, ?_, ?_, ?_, ?_, ?_⟩,
    ⟨hf.pendingByCorrelation, hf.pending⟩, hf.requestsInFlight⟩ <;>
    simp +contextual [hf.requests, hreq, hlog, hcid, htype]

end FitzTs.Client.Multiplexer
