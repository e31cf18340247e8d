import FitzTs.Lib.Machine
import FitzTs.Lib.RingBuffer
import FitzTs.Client.Multiplexer.PendingQueueSound
/-!
# FitzTs.Client.Multiplexer.PendingQueueOrder

**One ring as a queue.** `QueueRun` is a ring that is driven by its three
operations, beside a record of what was put in, removed from it and taken out.

The ring decides by `size` whether it is full, and `size` does not count holes.
As long as `tail` has not come round to `head`, the requests stand in the order
of their enqueueing in the window that begins at `head` (`RingBuffer.Spans`), and
every operation does what a queue does. An enqueue that finds `tail` at `head`,
with a hole in between, overwrites or overtakes the requests that wait.

## Main result

* `keepsOrder_throughout_iff` — a run keeps the order, and loses nothing, exactly
  when no enqueue of it finds `tail` at `head` in a ring that has both requests
  and holes.
-/

namespace FitzTs.Client

open RingBuffer

namespace PendingQueue

variable {q q' : PendingQueue} {queueIndex : RequestId → Int} {r : RequestId}
  {window : List (Option RequestId)}

/-- The stored requests, in the order from `head`. -/
def waiting (q : PendingQueue) : List RequestId := contents q.queue q.head

/-- The window of the ring. -/
abbrev Spans (q : PendingQueue) (window : List (Option RequestId)) : Prop :=
  RingBuffer.Spans q.queue q.head q.tail window

theorem stores_iff_mem_waiting : q.Stores r ↔ r ∈ q.waiting := by
  rw [stores_iff_mem_queue, waiting, (contents_perm _ _).mem_iff]

theorem slot_eq_some {i : Nat} : q.slot i = some r ↔ q.queue[i]? = some (some r) := by
  rw [slot, List.getD_eq_getElem?_getD]
  cases q.queue[i]? <;> simp

theorem slot_of_getElem? {i : Nat} {x : Option RequestId} (h : q.queue[i]? = some x) :
    q.slot i = x := by
  rw [slot, List.getD_eq_getElem?_getD, h, Option.getD_some]

theorem Spans.slot_head {x : Option RequestId} (h : q.Spans (x :: window)) :
    q.slot q.head = x := slot_of_getElem? h.head_eq

theorem Spans.waiting_eq (h : q.Spans window) : q.waiting = window.reduceOption := h.contents_eq

/-- Nothing is in a new ring. -/
theorem create_spans : create.Spans [] := RingBuffer.Spans.empty (by decide)

theorem waiting_create : create.waiting = [] := create_spans.waiting_eq

/-! ### Enqueuing -/

/-- A full ring has no holes, and the grown one has its requests in front. -/
theorem growPendingQueue_spans (h : q.Spans window) (hsize : q.size = q.waiting.length)
    (hfull : q.queue.length ≤ q.size) (queueIndex : RequestId → Int) :
    (q.growPendingQueue queueIndex).1.Spans window ∧
      window.length < (q.growPendingQueue queueIndex).1.queue.length := by
  have hle := h.length_le
  have hcount := h.length_contents_le
  have hpos : 0 < q.queue.length := Nat.zero_lt_of_lt h.head_lt
  have hwindow : window.length = q.size := by
    rw [hsize] at hfull ⊢
    exact le_antisymm (hle.trans hfull) hcount
  have hlen : (q.growPendingQueue queueIndex).1.queue.length = max (q.queue.length * 2) 16 := by
    simp [growPendingQueue]
  have hroom : window.length < max (q.queue.length * 2) 16 := by omega
  have hqueue : (q.growPendingQueue queueIndex).1.queue =
      window ++ List.replicate (max (q.queue.length * 2) 16 - window.length) none := by
    refine List.ext_getElem? ?_
    intro i
    rw [growPendingQueue]
    dsimp only
    by_cases hi : i < window.length
    · have hslot : q.slot (q.fromHead i) = window[i] :=
        slot_of_getElem? ((h.getElem? hi).trans (List.getElem?_eq_getElem hi))
      rw [List.getElem?_append_left hi, List.getElem?_map, List.getElem?_range (by omega),
        Option.map_some, if_pos (by omega), hslot, List.getElem?_eq_getElem hi]
    · rw [List.getElem?_append_right (by omega), List.getElem?_map, List.getElem?_replicate]
      by_cases hin : i < max (q.queue.length * 2) 16
      · rw [List.getElem?_range hin, Option.map_some, if_neg (by omega), if_pos (by omega)]
      · rw [List.getElem?_eq_none (by simp; omega), if_neg (by omega)]
        rfl
  refine ⟨⟨?_, ?_, ?_⟩, hlen ▸ hroom⟩
  · rw [hlen, hqueue]
    exact List.rotate_zero _
  · rw [hlen]
    show 0 < max (q.queue.length * 2) 16
    omega
  · rw [hlen]
    show q.size = (0 + window.length) % max (q.queue.length * 2) 16
    rw [Nat.zero_add, Nat.mod_eq_of_lt hroom, hwindow]

/-- An enqueue may go on: the ring grows, or nothing waits in it, or `tail` is not at `head`. -/
def HasRoom (q : PendingQueue) : Prop :=
  q.tail = q.head → q.size = 0 ∨ q.queue.length ≤ q.size

instance : Decidable q.HasRoom := inferInstanceAs (Decidable (_ → _))

/-- With room in the ring, some window leaves a slot free. -/
theorem HasRoom.exists_window (hroom : q.HasRoom) (h : q.Spans window)
    (hsize : q.size = q.waiting.length) (hnotfull : ¬ q.queue.length ≤ q.size) :
    ∃ window', q.Spans window' ∧ window'.length < q.queue.length := by
  by_cases hlt : window.length < q.queue.length
  · exact ⟨window, h, hlt⟩
  · have hpos : 0 < q.queue.length := Nat.zero_lt_of_lt h.head_lt
    have hlen : window.length = q.queue.length := le_antisymm h.length_le (not_lt.mp hlt)
    have htail : q.tail = q.head := by
      rw [h.tail_eq, hlen, Nat.add_mod_right, Nat.mod_eq_of_lt h.head_lt]
    have hzero : q.size = 0 := (hroom htail).resolve_right hnotfull
    -- nothing waits, so the empty window will do
    have hempty : window.reduceOption = [] := by
      rw [← h.waiting_eq]
      exact List.eq_nil_of_length_eq_zero (hsize.symm.trans hzero)
    refine ⟨[], ⟨?_, h.head_lt, ?_⟩, hpos⟩
    · obtain ⟨n, rfl⟩ := (List.reduceOption_eq_nil_iff window).mp hempty
      rw [List.length_replicate] at hlen
      rw [h.layout, hlen]
      simp
    · rw [htail, List.length_nil, Nat.add_zero, Nat.mod_eq_of_lt h.head_lt]

/-- With room in the ring, the new request waits behind all others. -/
theorem enqueuePendingRequest_spans (hroom : q.HasRoom) (h : q.Spans window)
    (hsize : q.size = q.waiting.length) (queueIndex : RequestId → Int) (r : RequestId) :
    (∃ window', (q.enqueuePendingRequest queueIndex r).1.Spans window') ∧
      (q.enqueuePendingRequest queueIndex r).1.waiting = q.waiting ++ [r] ∧
      (q.enqueuePendingRequest queueIndex r).1.size = q.size + 1 := by
  -- the ring the request is written to
  obtain ⟨ring, index, window', hring, hspans, hfree, hwaiting, hcount⟩ :
      ∃ (ring : PendingQueue) (index : RequestId → Int) (window' : List (Option RequestId)),
        (if q.size ≥ q.queue.length then q.growPendingQueue queueIndex else (q, queueIndex)) =
          (ring, index) ∧ ring.Spans window' ∧ window'.length < ring.queue.length ∧
          ring.waiting = q.waiting ∧ ring.size = q.size := by
    by_cases hfull : q.size ≥ q.queue.length
    · obtain ⟨hgrown, hlt⟩ := growPendingQueue_spans h hsize hfull queueIndex
      exact ⟨_, _, window, if_pos hfull, hgrown, hlt,
        hgrown.waiting_eq.trans h.waiting_eq.symm, rfl⟩
    · obtain ⟨window', hspans, hlt⟩ := hroom.exists_window h hsize hfull
      exact ⟨q, queueIndex, window', if_neg hfull, hspans, hlt, rfl, rfl⟩
  have hpush := RingBuffer.Spans.push hspans hfree r
  rw [enqueuePendingRequest, hring]
  refine ⟨⟨_, hpush⟩, ?_, ?_⟩
  · rw [← hwaiting, hspans.waiting_eq]
    refine hpush.contents_eq.trans ?_
    rw [List.reduceOption_append]
    rfl
  · show ring.size + 1 = q.size + 1
    rw [hcount]

/-- When `tail` has come round to `head` and the ring does not grow, the new request comes first. -/
theorem enqueuePendingRequest_first (h : q.Spans window) (htail : q.tail = q.head)
    (hnotfull : ¬ q.queue.length ≤ q.size) (queueIndex : RequestId → Int) (r : RequestId) :
    ∃ rest, (q.enqueuePendingRequest queueIndex r).1.waiting = r :: rest := by
  obtain ⟨rest, hrest⟩ := RingBuffer.Spans.contents_set_head h r
  refine ⟨rest, ?_⟩
  rw [← htail] at hrest
  rw [enqueuePendingRequest, if_neg hnotfull, waiting]
  dsimp only
  rw [← htail]
  exact hrest

/-! ### Dequeuing -/

/-- The loop passes over the holes in front and takes the first request that waits. -/
theorem dequeueLoop_spans : ∀ {window : List (Option RequestId)} {fuel : Nat} {q : PendingQueue}
    {rest : List RequestId}, q.Spans window → window.reduceOption = r :: rest →
    window.length ≤ fuel → ∃ q' window', dequeueLoop fuel q = some (r, q') ∧ q'.Spans window' ∧
      window'.reduceOption = rest ∧ q'.size = q.size - 1 := by
  intro window
  induction window with
  | nil => intro fuel q rest _ hrest; cases hrest
  | cons x window ih =>
      intro fuel q rest h hrest hfuel
      obtain ⟨fuel, rfl⟩ : ∃ n, fuel = n + 1 :=
        Nat.exists_eq_succ_of_ne_zero (by rw [List.length_cons] at hfuel; omega)
      have hnext := RingBuffer.Spans.advance h
      rw [dequeueLoop]
      dsimp only
      rw [h.slot_head]
      cases x with
      | none =>
          -- a hole
          rw [List.length_cons] at hfuel
          exact ih hnext hrest (by omega)
      | some first =>
          obtain ⟨rfl, rfl⟩ := List.cons.inj hrest
          exact ⟨_, window, rfl, hnext, rfl, rfl⟩

theorem dequeuePendingRequest_spans {rest : List RequestId} (h : q.Spans window)
    (hwaiting : q.waiting = r :: rest) : ∃ q', q.dequeuePendingRequest = some (r, q') ∧
      (∃ window', q'.Spans window') ∧ q'.waiting = rest ∧ q'.size = q.size - 1 := by
  rw [h.waiting_eq] at hwaiting
  obtain ⟨q', window', hdeq, hspans, hrest, hsize⟩ := dequeueLoop_spans h hwaiting h.length_le
  exact ⟨q', hdeq, ⟨window', hspans⟩, hspans.waiting_eq.trans hrest, hsize⟩

/-! ### Removing from the middle -/

/-- Moving `head` past holes moves nothing that waits. -/
theorem skipHoles_spans : ∀ (fuel : Nat) {q : PendingQueue} {window : List (Option RequestId)},
    q.Spans window → q.waiting ≠ [] →
    ∃ window', (skipHoles fuel q).Spans window' ∧ (skipHoles fuel q).waiting = q.waiting := by
  intro fuel
  induction fuel with
  | zero => intro q window h _; exact ⟨window, h, rfl⟩
  | succ fuel ih =>
      intro q window h hne
      rw [skipHoles]
      by_cases hhole : q.slot q.head = none
      · rw [if_pos hhole]
        cases window with
        | nil => exact absurd h.waiting_eq hne
        | cons x window =>
            obtain rfl := h.slot_head.symm.trans hhole
            have hskip := RingBuffer.Spans.skip h
            generalize hnext : ({ q with head := (q.head + 1) % q.queue.length } :
              PendingQueue) = next
            have hspans : next.Spans window := hnext ▸ hskip
            have hsame : next.waiting = q.waiting := hspans.waiting_eq.trans h.waiting_eq.symm
            obtain ⟨window', hspans', hsame'⟩ := ih hspans (hsame ▸ hne)
            exact ⟨window', hspans', hsame'.trans hsame⟩
      · rw [if_neg hhole]
        exact ⟨window, h, rfl⟩

/-- The place before `tail` is the last of the window. -/
theorem Spans.place_before_tail (h : q.Spans window) {i j : Nat} (hj : j < window.length)
    (hij : i = (q.head + j) % q.queue.length)
    (hi : i = if q.tail = 0 then q.queue.length - 1 else q.tail - 1) : j + 1 = window.length := by
  have hle := h.length_le
  have hpos : 0 < q.queue.length := Nat.zero_lt_of_lt h.head_lt
  have hilt : i < q.queue.length := hij ▸ Nat.mod_lt _ hpos
  have htail : q.tail = (i + 1) % q.queue.length := by
    have htlt : q.tail < q.queue.length := h.tail_eq ▸ Nat.mod_lt _ hpos
    by_cases hzero : q.tail = 0
    · rw [if_pos hzero] at hi
      rw [hzero, hi, Nat.sub_add_cancel hpos, Nat.mod_self]
    · rw [if_neg hzero] at hi
      rw [hi, Nat.sub_add_cancel (Nat.pos_of_ne_zero hzero), Nat.mod_eq_of_lt htlt]
  have hmod : Nat.ModEq q.queue.length (j + 1) window.length := by
    refine Nat.ModEq.add_left_cancel' q.head ?_
    show (q.head + (j + 1)) % q.queue.length = (q.head + window.length) % q.queue.length
    rw [← h.tail_eq, htail, hij, Nat.mod_add_mod, Nat.add_assoc]
  obtain ⟨k, hk⟩ := (Nat.modEq_iff_dvd' hj).mp hmod
  have hsmall : q.queue.length * k < q.queue.length := by omega
  have hzero : k = 0 := by
    by_contra hk0
    exact absurd (Nat.le_mul_of_pos_right q.queue.length (Nat.pos_of_ne_zero hk0))
      (not_le.mpr hsmall)
  rw [hzero, Nat.mul_zero] at hk
  omega

/-- A request that waits is taken out of the middle, and the others wait as before. -/
theorem unregister_spans (h : q.Spans window) (hindexed : q.Indexed queueIndex)
    (hsize : q.size = q.waiting.length) (hnodup : q.waiting.Nodup) (hr : r ∈ q.waiting) :
    ∃ q', q.unregister queueIndex r = some q' ∧ (∃ window', q'.Spans window') ∧
      q'.waiting = q.waiting.erase r ∧ q'.size = q.size - 1 := by
  obtain ⟨i, hi⟩ := stores_iff_mem_waiting.mpr hr
  have hidx : queueIndex r = i := hindexed.index hi
  have hilt := slot_lt hi
  obtain ⟨j, hj, hij, hwj⟩ := h.exists_place (slot_eq_some.mp hi)
  generalize hcleared : ({ q with queue := q.queue.set i none, size := q.size - 1 } :
    PendingQueue) = cleared
  have hspans : cleared.Spans (window.set j none) := by
    rw [← hcleared, hij]
    exact RingBuffer.Spans.clear h hj
  have hwaiting : cleared.waiting = q.waiting.erase r := by
    rw [hspans.waiting_eq, h.waiting_eq]
    exact reduceOption_set_none hwj (h.waiting_eq ▸ hnodup)
  have hcount : cleared.size = q.size - 1 := by rw [← hcleared]
  unfold unregister
  simp only [hidx, Int.toNat_natCast, hcleared]
  rw [if_neg (by omega), if_neg (by simp [hi])]
  by_cases hhead : (i : Int) = q.head
  · rw [if_pos hhead]
    by_cases hmore : q.size - 1 > 0
    · rw [if_pos hmore]
      have hne : cleared.waiting ≠ [] := by
        intro hnil
        have herase := List.length_erase_of_mem hr
        rw [← hwaiting, hnil, List.length_nil] at herase
        omega
      obtain ⟨window', hskip, hsame⟩ := skipHoles_spans (q.queue.set i none).length
        hspans hne
      exact ⟨_, rfl, ⟨window', hskip⟩, hsame.trans hwaiting,
        (skipHoles_fields _ _).2.2.trans hcount⟩
    · rw [if_neg hmore]
      exact ⟨_, rfl, ⟨_, hspans⟩, hwaiting, hcount⟩
  · rw [if_neg hhead]
    by_cases hlast : (i : Int) =
        ↑(if q.tail = 0 then (q.queue.set i none).length - 1 else q.tail - 1)
    · -- the hole is at the end of the window
      rw [if_pos hlast]
      have hend :=
        h.place_before_tail hj hij (by rw [List.length_set] at hlast; exact_mod_cast hlast)
      obtain ⟨before, hsplit⟩ : ∃ before, window.set j none = before ++ [none] ∧
          before.length = j := by
        refine ⟨window.take j, ?_, by rw [List.length_take]; omega⟩
        rw [List.set_eq_take_append_cons_drop, if_pos hj, List.drop_eq_nil_of_le (by omega)]
      obtain ⟨hsplit, hbefore⟩ := hsplit
      rw [hsplit] at hspans
      have hretreat := RingBuffer.Spans.retreat hspans
      have hi' : (cleared.head + before.length) % cleared.queue.length = i := by
        rw [← hcleared, hbefore]
        show (q.head + j) % (q.queue.set i none).length = i
        rw [List.length_set, ← hij]
      rw [hi', ← hcleared] at hretreat
      refine ⟨_, rfl, ⟨before, hretreat⟩, ?_, rfl⟩
      rw [← hwaiting, ← hcleared]
      rfl
    · rw [if_neg hlast]
      exact ⟨_, rfl, ⟨_, hspans⟩, hwaiting, hcount⟩

end PendingQueue

/-! ### One ring and its operations -/

/-- A ring that has been driven by its operations, and what they have done. -/
structure QueueRun where
  queue : PendingQueue := .create
  queueIndex : RequestId → Int := fun _ => -1
  /-- The requests enqueued so far, in this order. -/
  enqueued : List RequestId := []
  /-- Those for which `unregisterRequest` was called while they were queued. -/
  removed : List RequestId := []
  /-- What `dequeuePendingRequest` has returned, in this order. -/
  dequeued : List RequestId := []

namespace QueueRun

/-- The calls made on one ring. -/
inductive Operation
  /-- `enqueuePendingRequest`; a request object is enqueued once. -/
  | enqueue (r : RequestId)
  | dequeue
  /-- `unregisterRequest`, of a request that may have left the queue. -/
  | unregister (r : RequestId)
  deriving DecidableEq, Repr

/-- `r` is still queued: it was enqueued, and neither removed nor taken out. -/
def StillQueued (s : QueueRun) (r : RequestId) : Prop :=
  r ∈ s.enqueued ∧ r ∉ s.removed ∧ r ∉ s.dequeued

instance {s : QueueRun} {r : RequestId} : Decidable (s.StillQueued r) :=
  inferInstanceAs (Decidable (_ ∧ _))

/-- One call. A dequeue of an empty ring throws and changes nothing; `none` is one that does not
return. -/
def step (s : QueueRun) : Operation → Option QueueRun
  | .enqueue r =>
    if r ∈ s.enqueued then none
    else
      let (queue, queueIndex) := s.queue.enqueuePendingRequest s.queueIndex r
      some { s with queue, queueIndex, enqueued := s.enqueued ++ [r] }
  | .dequeue =>
    if s.queue.size = 0 then some s
    else
      match s.queue.dequeuePendingRequest with
      | none => none
      | some (request, queue) => some { s with queue, dequeued := s.dequeued ++ [request] }
  | .unregister r =>
    let s' := if s.StillQueued r then { s with removed := s.removed ++ [r] } else s
    if s.queue.size = 0 then some s'
    else
      match s.queue.unregister s.queueIndex r with
      | none => some s'
      | some queue => some { s' with queue }

def machine : Machine QueueRun Operation := ⟨{}, step⟩

/-- The ring is a queue of the requests that were enqueued and not removed. -/
structure KeepsOrder (s : QueueRun) : Prop where
  /-- What was taken out and what waits, together, are the requests in the order of their
  enqueueing: none is lost, repeated or overwritten. -/
  order : s.enqueued.filter (· ∉ s.removed) = s.dequeued ++ s.queue.waiting
  /-- `queueIndex` is the slot of a request that waits. -/
  places : ∀ r ∈ s.queue.waiting, ∃ i : Nat, s.queueIndex r = i ∧ s.queue.slot i = some r
  size : s.queue.size = s.queue.waiting.length
  /-- A queue that is not empty gives out its first request. -/
  returns : ∀ r rest, s.queue.waiting = r :: rest →
    0 < s.queue.size ∧ ∃ queue, s.queue.dequeuePendingRequest = some (r, queue)

/-- An enqueue finds room in the ring. -/
def FindsRoom (s : QueueRun) : Operation → Prop
  | .enqueue _ => s.queue.HasRoom
  | _ => True

/-- The invariant of the runs that find room. -/
structure Sound (s : QueueRun) : Prop where
  nodup : s.enqueued.Nodup
  removed : ∀ r ∈ s.removed, r ∈ s.enqueued
  order : s.enqueued.filter (· ∉ s.removed) = s.dequeued ++ s.queue.waiting
  indexed : s.queue.Indexed s.queueIndex
  spans : ∃ window, s.queue.Spans window
  size : s.queue.size = s.queue.waiting.length

variable {s s' : QueueRun} {r : RequestId}

theorem Sound.nodup_split (h : s.Sound) : (s.dequeued ++ s.queue.waiting).Nodup :=
  h.order ▸ h.nodup.filter _

theorem Sound.mem_waiting_iff (h : s.Sound) : r ∈ s.queue.waiting ↔ s.StillQueued r := by
  have hmem : r ∈ s.dequeued ++ s.queue.waiting ↔ r ∈ s.enqueued ∧ r ∉ s.removed := by
    rw [← h.order, List.mem_filter, decide_eq_true_iff]
  rw [List.mem_append] at hmem
  constructor
  · intro hr
    obtain ⟨hin, hkept⟩ := hmem.mp (Or.inr hr)
    refine ⟨hin, hkept, ?_⟩
    intro hout
    exact (List.nodup_append.mp h.nodup_split).2.2 r hout r hr rfl
  · intro ⟨hin, hkept, hout⟩
    exact (hmem.mpr ⟨hin, hkept⟩).resolve_left hout

theorem Sound.keepsOrder (h : s.Sound) : s.KeepsOrder where
  order := h.order
  places := by
    intro r hr
    obtain ⟨i, hi⟩ := PendingQueue.stores_iff_mem_waiting.mpr hr
    exact ⟨i, h.indexed.index hi, hi⟩
  size := h.size
  returns := by
    intro r rest hwaiting
    obtain ⟨window, hspans⟩ := h.spans
    obtain ⟨queue, hdeq, -⟩ := PendingQueue.dequeuePendingRequest_spans hspans hwaiting
    refine ⟨?_, queue, hdeq⟩
    rw [h.size, hwaiting]
    exact Nat.succ_pos _

theorem sound_init : machine.init.Sound where
  nodup := List.nodup_nil
  removed := fun _ hr => absurd hr List.not_mem_nil
  order := by
    show [] = [] ++ PendingQueue.create.waiting
    rw [PendingQueue.waiting_create]
    rfl
  indexed := PendingQueue.create_indexed
  spans := ⟨[], PendingQueue.create_spans⟩
  size := by
    show 0 = PendingQueue.create.waiting.length
    rw [PendingQueue.waiting_create]
    rfl

/-! ### Every operation -/

theorem Sound.enqueue (h : s.Sound) (hroom : s.queue.HasRoom) (hnew : r ∉ s.enqueued) :
    Sound { s with
      queue := (s.queue.enqueuePendingRequest s.queueIndex r).1
      queueIndex := (s.queue.enqueuePendingRequest s.queueIndex r).2
      enqueued := s.enqueued ++ [r] } := by
  obtain ⟨window, hspans⟩ := h.spans
  obtain ⟨hspans', hwaiting, hsize⟩ :=
    PendingQueue.enqueuePendingRequest_spans hroom hspans h.size s.queueIndex r
  have hnotin : ¬ s.queue.Stores r := by
    intro hstores
    exact hnew (h.mem_waiting_iff.mp (PendingQueue.stores_iff_mem_waiting.mp hstores)).1
  have hkept : r ∉ s.removed := fun hr => hnew (h.removed r hr)
  refine ⟨?_, ?_, ?_, (PendingQueue.enqueuePendingRequest_indexed h.indexed hnotin).1, hspans', ?_⟩
  · exact List.nodup_append.mpr ⟨h.nodup, List.nodup_singleton r,
      fun x hx y hy he => hnew (List.mem_singleton.mp hy ▸ he ▸ hx)⟩
  · intro x hx
    exact List.mem_append_left _ (h.removed x hx)
  · rw [List.filter_append, h.order, hwaiting, ← List.append_assoc]
    simp [hkept]
  · rw [hsize, hwaiting, h.size, List.length_append]
    rfl

theorem Sound.dequeue (h : s.Sound) {request : RequestId} {queue : PendingQueue}
    (hpos : s.queue.size ≠ 0) (hdeq : s.queue.dequeuePendingRequest = some (request, queue)) :
    Sound { s with queue, dequeued := s.dequeued ++ [request] } := by
  obtain ⟨window, hspans⟩ := h.spans
  cases hwaiting : s.queue.waiting with
  | nil => exact absurd (h.size.trans (congrArg List.length hwaiting)) hpos
  | cons first rest =>
      obtain ⟨queue', hdeq', hspans', hrest, hsize⟩ :=
        PendingQueue.dequeuePendingRequest_spans hspans hwaiting
      obtain ⟨rfl, rfl⟩ := Prod.mk.inj (Option.some.inj (hdeq.symm.trans hdeq'))
      refine ⟨h.nodup, h.removed, ?_,
        (PendingQueue.dequeuePendingRequest_without h.indexed hdeq).indexed h.indexed, hspans', ?_⟩
      · rw [h.order, hwaiting, hrest, List.append_assoc]
        rfl
      · rw [hsize, hrest, h.size, hwaiting, List.length_cons, Nat.add_sub_cancel]

theorem Sound.unregister (h : s.Sound) (hqueued : s.StillQueued r) :
    ∃ queue, s.queue.unregister s.queueIndex r = some queue ∧
      Sound { s with queue, removed := s.removed ++ [r] } := by
  obtain ⟨window, hspans⟩ := h.spans
  have hr := h.mem_waiting_iff.mpr hqueued
  have hnodup : s.queue.waiting.Nodup := (List.nodup_append.mp h.nodup_split).2.1
  obtain ⟨queue, hun, hspans', hwaiting, hsize⟩ :=
    PendingQueue.unregister_spans hspans h.indexed h.size hnodup hr
  refine ⟨queue, hun, h.nodup, ?_, ?_,
    (PendingQueue.unregister_without h.indexed hun).indexed h.indexed, hspans', ?_⟩
  · intro x hx
    rcases List.mem_append.mp hx with hx | hx
    · exact h.removed x hx
    · exact List.mem_singleton.mp hx ▸ hqueued.1
  · have hfilter : s.enqueued.filter (fun x => x ∉ s.removed ++ [r]) =
        (s.enqueued.filter (· ∉ s.removed)).erase r := by
      rw [(h.nodup.filter _).erase_eq_filter, List.filter_filter]
      refine List.filter_congr ?_
      intro x _
      rw [Bool.eq_iff_iff]
      simp [and_comm]
    rw [hfilter, h.order, hwaiting]
    exact List.erase_append_right _ hqueued.2.2
  · rw [hsize, hwaiting, List.length_erase_of_mem hr, h.size]

/-- An operation that finds room keeps the invariant. -/
theorem Sound.step (h : s.Sound) {e : Operation} (hroom : s.FindsRoom e)
    (hs : machine.step s e = some s') : s'.Sound := by
  cases e with
  | enqueue r =>
      obtain ⟨hnew, heq⟩ := Option.ite_none_left_eq_some.mp hs
      obtain rfl := Option.some.inj heq
      exact h.enqueue hroom hnew
  | dequeue =>
      replace hs : (if s.queue.size = 0 then some s else _) = some s' := hs
      by_cases hzero : s.queue.size = 0
      · rw [if_pos hzero] at hs
        exact Option.some.inj hs ▸ h
      · rw [if_neg hzero] at hs
        cases hdeq : s.queue.dequeuePendingRequest with
        | none => rw [hdeq] at hs; cases hs
        | some taken =>
            rw [hdeq] at hs
            obtain rfl := Option.some.inj hs
            exact h.dequeue hzero hdeq
  | unregister r =>
      by_cases hqueued : s.StillQueued r
      · obtain ⟨queue, hun, hsound⟩ := h.unregister hqueued
        have hpos : s.queue.size ≠ 0 := by
          have hlen := List.length_pos_of_mem (h.mem_waiting_iff.mpr hqueued)
          rw [h.size]
          omega
        simp only [machine, QueueRun.step, if_pos hqueued, if_neg hpos, hun] at hs
        exact Option.some.inj hs ▸ hsound
      · -- the slot at its `queueIndex` does not hold it
        have hnot : s.queue.unregister s.queueIndex r = none := by
          by_contra hsome
          have hstores := (PendingQueue.unregister_isSome h.indexed).mp
            (Option.isSome_iff_ne_none.mpr hsome)
          exact hqueued (h.mem_waiting_iff.mp (PendingQueue.stores_iff_mem_waiting.mp hstores))
        simp only [machine, QueueRun.step, if_neg hqueued, hnot, ite_self] at hs
        exact Option.some.inj hs ▸ h

/-- An enqueue that does not find room: the new request is the first in the ring, before or in place
of one that waits. -/
theorem Sound.breaks (h : s.Sound) {e : Operation} (hroom : ¬ s.FindsRoom e)
    (hs : machine.step s e = some s') : ¬ s'.KeepsOrder := by
  cases e with
  | dequeue => exact absurd trivial hroom
  | unregister r => exact absurd trivial hroom
  | enqueue r =>
      obtain ⟨hnew, heq⟩ := Option.ite_none_left_eq_some.mp hs
      obtain rfl := Option.some.inj heq
      obtain ⟨htail, hnot⟩ := Classical.not_imp.mp hroom
      obtain ⟨hsize, hnotfull⟩ := not_or.mp hnot
      obtain ⟨window, hspans⟩ := h.spans
      obtain ⟨rest, hfirst⟩ :=
        PendingQueue.enqueuePendingRequest_first hspans htail hnotfull s.queueIndex r
      intro hkeeps
      have horder : (s.enqueued ++ [r]).filter (· ∉ s.removed) =
          s.dequeued ++ (s.queue.enqueuePendingRequest s.queueIndex r).1.waiting := hkeeps.order
      have hkept : r ∉ s.removed := fun hr => hnew (h.removed r hr)
      have hfilter : (s.enqueued ++ [r]).filter (· ∉ s.removed) =
          s.dequeued ++ (s.queue.waiting ++ [r]) := by
        rw [List.filter_append, h.order, List.append_assoc]
        simp [hkept]
      have hwaiting := List.append_cancel_left (hfilter.symm.trans horder)
      rw [hfirst] at hwaiting
      cases hw : s.queue.waiting with
      | nil => exact hsize (h.size.trans (congrArg List.length hw))
      | cons first others =>
          rw [hw] at hwaiting
          obtain ⟨rfl, -⟩ := List.cons.inj hwaiting
          have hin : first ∈ s.queue.waiting := hw ▸ List.mem_cons_self ..
          exact hnew (h.mem_waiting_iff.mp hin).1

/-- **The pending ring buffer.** In every state of a run the ring is a queue, exactly when every
enqueue of the run finds room. -/
theorem keepsOrder_throughout_iff (es : List Operation) (hrun : (machine.run es).isSome) :
    machine.Throughout KeepsOrder machine.init es ↔
      machine.Guarded FindsRoom machine.init es := by
  obtain ⟨t, ht⟩ := Option.isSome_iff_exists.mp hrun
  exact Machine.throughout_iff_guarded_of_invariant (I := Sound) (fun _ h => h.keepsOrder)
    (fun _ _ _ h hroom hs => h.step hroom hs) (fun _ _ _ h hroom hs => h.breaks hroom hs)
    sound_init ht

/-- A run that removes a request from the middle. -/
private def removingRun : List Operation :=
  [.enqueue 0, .enqueue 1, .enqueue 2, .unregister 1, .enqueue 3, .dequeue, .dequeue, .dequeue]

theorem keepsOrder_throughout_removingRun :
    machine.Throughout KeepsOrder machine.init removingRun ↔
      machine.Guarded FindsRoom machine.init removingRun :=
  keepsOrder_throughout_iff removingRun (by decide +kernel)

/-- The 128 slots are taken, one request in the middle is removed, and the next one is written over
the first. -/
theorem keepsOrder_fails : ¬ ∀ es s, machine.run es = some s → s.KeepsOrder := by
  intro h
  let es : List Operation := (List.range 128).map .enqueue ++ [.unregister 1, .enqueue 128]
  have hfirst : (machine.run es).map (fun s => s.queue.waiting.head?) = some (some 128) := by
    decide +kernel
  have hwas : (machine.run es).map (fun s =>
      ((s.enqueued.filter (· ∉ s.removed)).head?, s.dequeued)) = some (some 0, []) := by
    decide +kernel
  obtain ⟨s, hs, hwaiting⟩ := Option.map_eq_some_iff.mp hfirst
  obtain ⟨s', hs', hexpected⟩ := Option.map_eq_some_iff.mp hwas
  obtain rfl := Option.some.inj (hs.symm.trans hs')
  obtain ⟨hhead, hnone⟩ := Prod.mk.inj hexpected
  rw [(h es s hs).order, hnone, List.nil_append, hwaiting] at hhead
  cases hhead

end QueueRun

end FitzTs.Client
