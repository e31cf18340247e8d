import Mathlib.Data.Finset.Card
import Mathlib.Data.Finset.Range
import FitzTs.Client.Multiplexer.Outcome
/-!
# FitzTs.Client.Multiplexer.InFlight

The counter of requests in flight, against the requests that are not settled.

The two agree throughout a run exactly when no step of the run settles a request
past the counter (`Counted`): a send that rejects takes a correlated request out
without counting it, and a disconnect resets the counter even if an open request
is not stored any more.
-/

namespace FitzTs.Client.Multiplexer

variable {m m' : Multiplexer} {r : RequestId}

/-- The issued requests whose promise has not been settled. -/
def unsettled (m : Multiplexer) : Finset RequestId :=
  (Finset.range m.issued).filter fun r => (m.requests r).settled = false

theorem mem_unsettled : r ∈ m.unsettled ↔ r < m.issued ∧ (m.requests r).settled = false := by
  rw [unsettled, Finset.mem_filter, Finset.mem_range]

/-- `getInFlightCount` is the number of unsettled requests, and `hasPending` says
whether there is one. -/
structure InFlightExact (m : Multiplexer) : Prop where
  count : m.requestsInFlight = m.unsettled.card
  nonneg : 0 ≤ m.requestsInFlight
  hasPending : m.hasPending = true ↔ m.unsettled.Nonempty

theorem inFlightExact_iff : m.InFlightExact ↔ m.requestsInFlight = m.unsettled.card := by
  refine ⟨fun h => h.count, fun h => ⟨h, by omega, ?_⟩⟩
  rw [hasPending, h, decide_eq_true_iff, ← Finset.card_pos]
  omega

/-- The steps that keep the counter right: a send rejects for a settled request,
or for an uncorrelated one that is still stored; a disconnect finds every
unsettled request stored. -/
def Counted (m : Multiplexer) : Event → Prop
  | .sendRejected r _ =>
    (m.requests r).settled = true ∨ (m.requests r).correlationId = none ∧ m.Stored r
  | .setDisconnected => ∀ r < m.issued, (m.requests r).settled = false → m.Stored r
  | _ => True

/-! ### The unsettled requests after one change -/

theorem unsettled_of_same (hissued : m'.issued = m.issued)
    (hset : ∀ q, (m'.requests q).settled = (m.requests q).settled) :
    m'.unsettled = m.unsettled := by
  ext q
  rw [mem_unsettled, mem_unsettled, hissued, hset]

theorem Quiet.unsettled (h : Quiet m m') : m'.unsettled = m.unsettled :=
  unsettled_of_same h.issued fun q => (h.requests q).settled

theorem Closes.unsettled {s : Settlement} (h : Closes m r s m') (hr : r < m.issued) :
    m'.unsettled.card + 1 = m.unsettled.card := by
  have herase : m'.unsettled = m.unsettled.erase r := by
    ext q
    rw [Finset.mem_erase, mem_unsettled, mem_unsettled, h.issued]
    by_cases hq : q = r
    · subst hq
      simp [h.settled]
    · rw [h.others q hq]
      simp [hq]
  rw [herase]
  exact Finset.card_erase_add_one (mem_unsettled.mpr ⟨hr, h.wasOpen⟩)

theorem Enters.unsettled {e : PendingRequest} (h : Enters m e m') :
    m'.unsettled.card = m.unsettled.card + 1 := by
  have hnew : m.issued ∉ m.unsettled := fun hmem => (mem_unsettled.mp hmem).1.ne rfl
  have hinsert : m'.unsettled = insert m.issued m.unsettled := by
    ext q
    rw [Finset.mem_insert, mem_unsettled, mem_unsettled, h.issued, h.requests]
    by_cases hq : q = m.issued
    · rw [hq, Function.update_self]
      simp [h.settled]
    · rw [Function.update_of_ne hq]
      simp only [hq, false_or]
      refine and_congr_left fun _ => ?_
      exact ⟨fun hlt => lt_of_le_of_ne (Nat.le_of_lt_succ hlt) hq, Nat.lt_succ_of_lt⟩
  rw [hinsert, Finset.card_insert_of_notMem hnew]

theorem Disconnects.mem_unsettled_iff (h : Disconnects m m') :
    r ∈ m'.unsettled ↔ r ∈ m.unsettled ∧ ¬ m.Stored r := by
  rw [mem_unsettled, mem_unsettled, h.issued]
  by_cases hs : m.Stored r
  · cases hset : (m.requests r).settled with
    | true => simp [h.others r (Or.inr hset), hset]
    | false => simp [(h.closed r hs hset).1, hs]
  · simp [h.others r (Or.inl hs), hs]

/-! ### One step -/

theorem Tombstones.count {s : Settlement} (h : Tombstones m r s m') (hr : r < m.issued) :
    m'.requestsInFlight = m'.unsettled.card ↔ m.requestsInFlight = m.unsettled.card := by
  have := h.toCloses.unsettled hr
  rw [h.requestsInFlight]
  omega

theorem Quiet.count (h : Quiet m m') :
    m'.requestsInFlight = m'.unsettled.card ↔ m.requestsInFlight = m.unsettled.card := by
  rw [h.requestsInFlight, h.unsettled]

theorem Enters.count {e : PendingRequest} (h : Enters m e m') :
    m'.requestsInFlight = m'.unsettled.card ↔ m.requestsInFlight = m.unsettled.card := by
  have := h.unsettled
  rw [h.requestsInFlight]
  omega

theorem Delivers.count {t : MessageType} {payload : Payload} {cid : Option CorrelationId}
    (h : Delivers m t payload cid r m') (hr : r < m.issued) :
    m'.requestsInFlight = m'.unsettled.card ↔ m.requestsInFlight = m.unsettled.card := by
  rcases h.result with ⟨-, hreq, hframe, -, hcount⟩ | ⟨-, hclose, hcount⟩
  · rw [hcount, unsettled_of_same hframe.issued fun q => by rw [hreq]]
  · have := hclose.unsettled hr
    rw [hcount]
    omega

theorem Expires.count {nowMs : Nat} (h : Expires m nowMs r m') :
    m'.requestsInFlight = m'.unsettled.card ↔ m.requestsInFlight = m.unsettled.card := by
  rcases h.result with ⟨hq, -⟩ | ⟨m₁, error, hq, -, ht⟩
  · exact hq.count
  · exact (ht.count (hq.issued ▸ h.issued)).trans hq.count

/-- From a state in which the counter is right, a step keeps it right exactly
when it is `Counted`. -/
theorem Outcome.count_iff (h : m.WellFormed) {e : Event} (ho : Outcome m e m')
    (hm : m.requestsInFlight = m.unsettled.card) :
    m'.requestsInFlight = m'.unsettled.card ↔ m.Counted e := by
  have hidle : ∀ {e}, m.Idle e → m.Counted e := by
    intro e hidle
    cases e <;> first | trivial | exact Or.inl hidle
  cases ho with
  | refused _ hi => exact iff_of_true hm (hidle hi)
  | quiet _ hi hq => exact iff_of_true (hq.count.mpr hm) (hidle hi)
  | entered henters => exact iff_of_true (henters.count.mpr hm) trivial
  | @enteredFailed _ _ _ _ _ _ _ m₂ _ _ henters hq _ ht =>
      have hr : m.issued < m₂.issued := by
        rw [hq.issued, henters.issued]
        exact Nat.lt_succ_self _
      exact iff_of_true ((ht.count hr).mpr (hq.count.mpr (henters.count.mpr hm))) trivial
  | resolvedLate hr hq _ ht =>
      exact iff_of_true ((ht.count (hq.issued ▸ hr)).mpr (hq.count.mpr hm)) trivial
  | aborted hr hq _ ht =>
      exact iff_of_true ((ht.count (hq.issued ▸ hr)).mpr (hq.count.mpr hm)) trivial
  | @withdrawn r _ error error' hr hclose hw =>
      have hcard := hclose.unsettled hr
      have hopen := hclose.wasOpen
      cases hw with
      -- the counter is not told of the rejected request
      | correlated hcid _ _ hcount =>
          refine iff_of_false (by omega) ?_
          simp [Counted, hopen, hcid]
      | uncorrelated hcid htakes hcount =>
          exact iff_of_true (by omega) (Or.inr ⟨hcid, htakes.stored⟩)
      | unstored hcid hns _ hcount =>
          refine iff_of_false (by omega) ?_
          simp [Counted, hopen, hns]
  | delivered _ hdel =>
      exact iff_of_true ((hdel.count (h.stored_lt hdel.takes.stored)).mpr hm) trivial
  | expired ht =>
      have hkeep := handleTimeouts_induction h
        (P := fun m => m.requestsInFlight = m.unsettled.card)
        (fun _ _ hP hq _ _ => hq.count.mpr hP) (fun _ _ _ _ hP he => he.count.mpr hP) hm ht
      exact iff_of_true hkeep.2 trivial
  | connected => exact iff_of_true hm trivial
  | configured => exact iff_of_true hm trivial
  | allocated => exact iff_of_true hm trivial
  -- the counter is reset, so what is not in the maps must be settled
  | disconnected hd =>
      rw [hd.requestsInFlight, eq_comm, Int.natCast_eq_zero, Finset.card_eq_zero,
        Finset.eq_empty_iff_forall_notMem]
      refine forall_congr' fun r => ?_
      rw [hd.mem_unsettled_iff, mem_unsettled, not_and_not_right, and_imp]

/-- The counter is exact in every state of a run exactly when every step of the
run is counted. -/
theorem inFlightExact_throughout_iff (es : List Event) (hrun : (machine.run es).isSome) :
    machine.Throughout InFlightExact machine.init es ↔ machine.Guarded Counted machine.init es := by
  obtain ⟨t, ht⟩ := Option.isSome_iff_exists.mp hrun
  have hstart : InFlightExact machine.init := inFlightExact_iff.mpr rfl
  refine Machine.throughout_iff_guarded (I := WellFormed) (P := InFlightExact)
    (fun _ _ _ hI hst => wellFormed_step hI hst) ?_ wellFormed_init hstart ht
  intro m e m' hm hexact hst
  rw [inFlightExact_iff]
  exact (step_outcome hm hst).count_iff hm hexact.count

/-- A run in which a request is answered and a send rejects after that. -/
private def answeredRun : List Event :=
  [.setConnected, .issue 7 0 1000 none none, .dispatch 7 [1] (some 1) true,
    .sendRejected 0 ⟨.transport, "write failed"⟩]

theorem inFlightExact_throughout_answeredRun :
    machine.Throughout InFlightExact machine.init answeredRun ↔
      machine.Guarded Counted machine.init answeredRun :=
  inFlightExact_throughout_iff answeredRun (by decide)

/-- The send of a correlated request rejects: the request is settled, and still
counted as in flight. -/
theorem inFlightExact_fails :
    ¬ ∀ es m, machine.run es = some m → m.InFlightExact := by
  intro h
  let es : List Event := [.setConnected, .issue 7 0 1000 none none,
    .sendRejected 0 ⟨.transport, "write failed"⟩]
  obtain ⟨m, hm, hcount⟩ : ∃ m, machine.run es = some m ∧
      m.requestsInFlight ≠ m.unsettled.card := ⟨_, rfl, by decide⟩
  exact hcount (h es m hm).count

end FitzTs.Client.Multiplexer
