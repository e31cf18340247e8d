import Mathlib.Data.List.GetD
import Mathlib.Data.List.Nodup
import Mathlib.Data.List.Perm.Subperm
import Mathlib.Data.List.ReduceOption
import Mathlib.Data.Nat.ModEq
import FitzTs.Client.Multiplexer.PendingQueue
/-!
# FitzTs.Client.Multiplexer.PendingQueueSound

The invariant of one ring (`PendingQueue.Indexed`): every stored request sits at
its own `queueIndex`, so no request is stored twice and `unregister` finds a
request exactly when it is stored. Each operation keeps it, and the lemmas say
which requests are stored afterwards.

Nothing here says that an enqueued request stays stored until it is removed: with
holes in the ring, `tail` can catch up with an occupied slot.
-/

namespace FitzTs.Client.PendingQueue

variable {q q' : PendingQueue} {queueIndex queueIndex' : RequestId → Int} {r : RequestId}

/-- Some slot of the ring holds `r`. -/
def Stores (q : PendingQueue) (r : RequestId) : Prop := ∃ i, q.slot i = some r

/-- The number of occupied slots. -/
def occupied (q : PendingQueue) : Nat := q.queue.countP Option.isSome

/-- The ring is well formed and every stored request sits at its `queueIndex`.
`size` never falls short of the occupied slots. -/
structure Indexed (q : PendingQueue) (queueIndex : RequestId → Int) : Prop where
  length_pos : 0 < q.queue.length
  tail_lt : q.tail < q.queue.length
  size_le : q.size ≤ q.queue.length
  occupied_le : q.occupied ≤ q.size
  index : ∀ {i r}, q.slot i = some r → queueIndex r = i

/-- Overwriting a slot, empty or not. -/
theorem occupied_set {i a b s : Nat} (hi : i < q.queue.length) (v : Option RequestId) :
    (⟨q.queue.set i v, a, b, s⟩ : PendingQueue).occupied + (if (q.slot i).isSome then 1 else 0) =
      q.occupied + if v.isSome then 1 else 0 := by
  have hslot : q.slot i = q.queue[i] := List.getD_eq_getElem _ _ hi
  unfold occupied
  rw [List.countP_set hi, hslot]
  by_cases hsome : q.queue[i].isSome = true
  · have hpos : 0 < q.queue.countP Option.isSome :=
      List.countP_pos_iff.mpr ⟨_, List.getElem_mem hi, hsome⟩
    simp only [hsome, if_true]
    omega
  · simp [hsome]

theorem slot_lt {i : Nat} (h : q.slot i = some r) : i < q.queue.length := by
  by_contra hi
  rw [slot, List.getD_eq_default _ _ (by omega)] at h
  cases h

theorem slot_set {l : List (Option RequestId)} {a b s i j : Nat} {v : Option RequestId}
    (hi : i < l.length) :
    (⟨l.set i v, a, b, s⟩ : PendingQueue).slot j = if i = j then v else l.getD j none := by
  unfold slot
  simp only [List.getD_eq_getElem?_getD, List.getElem?_set]
  split
  · rename_i h; subst h; simp
  · rfl

theorem stores_iff_mem_queue : q.Stores r ↔ r ∈ q.queue.reduceOption := by
  rw [List.reduceOption_mem_iff, List.mem_iff_getElem?]
  refine exists_congr fun i => ?_
  rw [slot, List.getD_eq_getElem?_getD]
  cases q.queue[i]? <;> simp

theorem Indexed.slot_inj (h : q.Indexed queueIndex) {i j : Nat} (hi : q.slot i = some r)
    (hj : q.slot j = some r) : i = j := by
  have := (h.index hi).symm.trans (h.index hj)
  omega

/-- Only the places of the stored requests matter. -/
theorem Indexed.congr (h : q.Indexed queueIndex)
    (heq : ∀ x, q.Stores x → queueIndex' x = queueIndex x) : q.Indexed queueIndex' where
  length_pos := h.length_pos
  tail_lt := h.tail_lt
  size_le := h.size_le
  occupied_le := h.occupied_le
  index hi := by rw [heq _ ⟨_, hi⟩]; exact h.index hi

theorem create_indexed : create.Indexed queueIndex where
  length_pos := by simp [create]
  tail_lt := by simp [create]
  size_le := by simp [create]
  occupied_le := by simp [create, occupied]
  index := by
    intro i r h
    rw [slot, create, List.getD_eq_getElem?_getD, List.getElem?_replicate] at h
    split at h <;> cases h

theorem not_stores_create : ¬ create.Stores r := by
  intro ⟨i, h⟩
  rw [slot, create, List.getD_eq_getElem?_getD, List.getElem?_replicate] at h
  split at h <;> cases h

/-! ### Growing -/

theorem fromHead_inj {i j : Nat} (hi : i < q.queue.length) (hj : j < q.queue.length)
    (h : q.fromHead i = q.fromHead j) : i = j := by
  have hmod : Nat.ModEq q.queue.length i j := Nat.ModEq.add_left_cancel' q.head h
  exact hmod.eq_of_lt_of_lt hi hj

/-- The slots of the grown ring are those of the old one, read from `head`. -/
theorem slot_growPendingQueue {i : Nat} :
    (q.growPendingQueue queueIndex).1.slot i = some r →
      i < q.size ∧ q.slot (q.fromHead i) = some r := by
  intro h
  rw [growPendingQueue, slot, List.getD_eq_getElem?_getD, List.getElem?_map] at h
  by_cases hi : i < max (q.queue.length * 2) 16
  · rw [List.getElem?_range hi] at h
    simp only [Option.map_some, Option.getD_some] at h
    by_cases hs : i < q.size
    · rw [if_pos hs] at h; exact ⟨hs, h⟩
    · rw [if_neg hs] at h; cases h
  · rw [List.getElem?_eq_none (by rw [List.length_range]; omega)] at h
    cases h

/-- Reindexing the first `n` places gives each request there its place, and
leaves the requests that are not there alone. -/
private theorem reindex (h : q.Indexed queueIndex) (n : Nat) (hn : n ≤ q.size) :
    let index := (List.range n).foldl (fun index i =>
      match q.slot (q.fromHead i) with
      | some entry => Function.update index entry (i : Int)
      | none => index) queueIndex
    (∀ i r, i < n → q.slot (q.fromHead i) = some r → index r = i) ∧
      ∀ r, ¬ q.Stores r → index r = queueIndex r := by
  induction n with
  | zero => simp
  | succ n ih =>
      obtain ⟨hplace, hrest⟩ := ih (by omega)
      rw [List.range_succ, List.foldl_append]
      simp only [List.foldl_cons, List.foldl_nil]
      cases hslot : q.slot (q.fromHead n) with
      | none =>
          refine ⟨fun i r hi hr => ?_, hrest⟩
          rcases Nat.lt_succ_iff_lt_or_eq.mp hi with hlt | rfl
          · exact hplace i r hlt hr
          · rw [hslot] at hr; cases hr
      | some entry =>
          dsimp only
          refine ⟨fun i r hi hr => ?_, fun r hr => ?_⟩
          · by_cases hre : r = entry
            · subst hre
              have hin := fromHead_inj (i := i) (j := n) (by have := h.size_le; omega)
                (by have := h.size_le; omega) (h.slot_inj hr hslot)
              rw [hin, Function.update_self]
            · rw [Function.update_of_ne hre]
              rcases Nat.lt_succ_iff_lt_or_eq.mp hi with hlt | rfl
              · exact hplace i r hlt hr
              · rw [hslot] at hr
                exact absurd (Option.some.inj hr).symm hre
          · have hne : r ≠ entry := fun he => hr ⟨q.fromHead n, he ▸ hslot⟩
            rw [Function.update_of_ne hne, hrest r hr]

/-- The grown ring has no more requests than `size` counts. -/
theorem occupied_growPendingQueue (q : PendingQueue) (queueIndex : RequestId → Int) :
    (q.growPendingQueue queueIndex).1.occupied ≤ (q.growPendingQueue queueIndex).1.size := by
  simp only [growPendingQueue, occupied, List.countP_map]
  generalize max (q.queue.length * 2) 16 = capacity
  have hmono : (List.range capacity).countP (Option.isSome ∘ fun i =>
      if i < q.size then q.slot (q.fromHead i) else none) ≤
      (List.range capacity).countP (fun i => decide (i < q.size)) := by
    refine List.countP_mono_left fun i _ hi => ?_
    by_contra hlt
    simp only [Function.comp, decide_eq_true_iff] at hi hlt
    rw [if_neg hlt] at hi
    cases hi
  refine le_trans hmono ?_
  rw [List.countP_eq_length_filter]
  have hsub : (List.range capacity).filter (fun i => decide (i < q.size)) ⊆ List.range q.size := by
    intro i hi
    rw [List.mem_filter, decide_eq_true_iff] at hi
    exact List.mem_range.mpr hi.2
  have hnodup : ((List.range capacity).filter fun i => decide (i < q.size)).Nodup :=
    List.Nodup.filter _ List.nodup_range
  simpa using (List.subperm_of_subset hnodup hsub).length_le

theorem growPendingQueue_indexed (h : q.Indexed queueIndex) :
    (q.growPendingQueue queueIndex).1.Indexed (q.growPendingQueue queueIndex).2 ∧
      (∀ x, (q.growPendingQueue queueIndex).1.Stores x → q.Stores x) ∧
      ∀ x, ¬ q.Stores x → (q.growPendingQueue queueIndex).2 x = queueIndex x := by
  have hpos := h.length_pos
  have hsize := h.size_le
  obtain ⟨hplace, hrest⟩ := reindex h q.size (le_refl _)
  refine ⟨⟨?_, ?_, ?_, occupied_growPendingQueue q queueIndex, ?_⟩, ?_, hrest⟩
  · simp only [growPendingQueue, List.length_map, List.length_range]; omega
  · simp only [growPendingQueue, List.length_map, List.length_range]; omega
  · simp only [growPendingQueue, List.length_map, List.length_range]; omega
  · intro i r hi
    obtain ⟨hlt, hslot⟩ := slot_growPendingQueue hi
    exact hplace i r hlt hslot
  · intro x ⟨i, hi⟩
    exact ⟨_, (slot_growPendingQueue hi).2⟩

/-! ### Enqueuing -/

/-- What a write at `tail` and a step of `tail` do to an indexed ring. -/
private theorem append_indexed (h : q.Indexed queueIndex) (hlt : q.size < q.queue.length)
    (hnew : ¬ q.Stores r) :
    let q' : PendingQueue := ⟨q.queue.set q.tail (some r), q.head,
      (q.tail + 1) % q.queue.length, q.size + 1⟩
    q'.Indexed (Function.update queueIndex r q.tail) ∧
      ∀ x, q'.Stores x → x = r ∨ q.Stores x := by
  have htail := h.tail_lt
  refine ⟨⟨?_, ?_, ?_, ?_, ?_⟩, ?_⟩
  · simpa using h.length_pos
  · simpa using Nat.mod_lt _ h.length_pos
  · simpa using Nat.succ_le_of_lt hlt
  · have hocc := occupied_set (a := q.head) (b := (q.tail + 1) % q.queue.length) (s := q.size + 1)
      htail (some r)
    have hle := h.occupied_le
    simp only [Option.isSome_some, if_true] at hocc
    show occupied _ ≤ q.size + 1
    omega
  · intro i x hx
    rw [slot_set htail] at hx
    split at hx
    · rename_i hi
      obtain rfl := Option.some.inj hx
      rw [Function.update_self, hi]
    · have hne : x ≠ r := fun he => hnew ⟨i, he ▸ hx⟩
      rw [Function.update_of_ne hne]
      exact h.index hx
  · intro x ⟨i, hx⟩
    rw [slot_set htail] at hx
    split at hx
    · exact Or.inl (Option.some.inj hx).symm
    · exact Or.inr ⟨i, hx⟩

theorem enqueuePendingRequest_indexed (h : q.Indexed queueIndex) (hnew : ¬ q.Stores r) :
    (q.enqueuePendingRequest queueIndex r).1.Indexed (q.enqueuePendingRequest queueIndex r).2 ∧
      (∀ x, (q.enqueuePendingRequest queueIndex r).1.Stores x → x = r ∨ q.Stores x) ∧
      ∀ x, x ≠ r → ¬ q.Stores x →
        (q.enqueuePendingRequest queueIndex r).2 x = queueIndex x := by
  unfold enqueuePendingRequest
  by_cases hfull : q.size ≥ q.queue.length
  · simp only [if_pos hfull]
    obtain ⟨hgrown, hfrom, hkeep⟩ := growPendingQueue_indexed h
    have hroom : (q.growPendingQueue queueIndex).1.size <
        (q.growPendingQueue queueIndex).1.queue.length := by
      have := h.length_pos
      have := h.size_le
      simp only [growPendingQueue, List.length_map, List.length_range]
      omega
    obtain ⟨hind, hst⟩ := append_indexed hgrown hroom (fun hs => hnew (hfrom r hs))
    refine ⟨hind, fun x hx => (hst x hx).imp_right (hfrom x), fun x hne hx => ?_⟩
    rw [Function.update_of_ne hne, hkeep x hx]
  · simp only [if_neg hfull]
    obtain ⟨hind, hst⟩ := append_indexed h (by omega) hnew
    exact ⟨hind, hst, fun x hne _ => Function.update_of_ne hne _ _⟩

theorem enqueuePendingRequest_size_pos (q : PendingQueue) (queueIndex : RequestId → Int)
    (r : RequestId) : 0 < (q.enqueuePendingRequest queueIndex r).1.size :=
  Nat.succ_pos _

/-! ### Removing -/

/-- `q'` is `q` with `r` taken out. -/
structure Without (q : PendingQueue) (r : RequestId) (q' : PendingQueue) : Prop where
  stored : q.Stores r
  length : q'.queue.length = q.queue.length
  size : q'.size = q.size - 1
  occupied : q'.occupied + 1 = q.occupied
  tail_lt : q.tail < q.queue.length → q'.tail < q.queue.length
  slots : ∀ {i x}, q'.slot i = some x → q.slot i = some x
  others : ∀ {i x}, x ≠ r → q.slot i = some x → q'.slot i = some x
  removed : ¬ q'.Stores r

theorem Without.indexed (hw : Without q r q') (h : q.Indexed queueIndex) :
    q'.Indexed queueIndex where
  length_pos := by rw [hw.length]; exact h.length_pos
  tail_lt := by rw [hw.length]; exact hw.tail_lt h.tail_lt
  size_le := by rw [hw.length, hw.size]; exact le_trans (Nat.sub_le _ _) h.size_le
  occupied_le := by
    have hocc := hw.occupied
    have hle := h.occupied_le
    rw [hw.size]
    omega
  index hi := h.index (hw.slots hi)

theorem Without.stores (hw : Without q r q') {x : RequestId} (hx : q'.Stores x) : q.Stores x :=
  let ⟨i, hi⟩ := hx
  ⟨i, hw.slots hi⟩

theorem Without.stores_iff (hw : Without q r q') {x : RequestId} (hx : x ≠ r) :
    q'.Stores x ↔ q.Stores x :=
  ⟨hw.stores, fun ⟨i, hi⟩ => ⟨i, hw.others hx hi⟩⟩

/-- A ring that still stores a request is not empty. -/
theorem Indexed.size_pos (h : q.Indexed queueIndex) {x : RequestId} (hx : q.Stores x) :
    0 < q.size := by
  obtain ⟨i, hi⟩ := hx
  have hmem : some x ∈ q.queue := by
    rw [slot, List.getD_eq_getElem _ _ (slot_lt hi)] at hi
    exact hi ▸ List.getElem_mem _
  have hpos : 0 < q.occupied := List.countP_pos_iff.mpr ⟨_, hmem, rfl⟩
  exact lt_of_lt_of_le hpos h.occupied_le

/-- Clearing the slot of `r` leaves the slots of the others alone. -/
private theorem slot_clear_of_ne {a b s i j : Nat} {x : RequestId}
    (hi : ∀ y, q.slot i = some y → y = r) (hx : x ≠ r) (hj : q.slot j = some x) :
    (⟨q.queue.set i none, a, b, s⟩ : PendingQueue).slot j = some x := by
  have hij : i ≠ j := fun he => hx (hi x (he ▸ hj))
  rw [slot, List.getD_eq_getElem?_getD, List.getElem?_set_ne hij, ← List.getD_eq_getElem?_getD]
  exact hj

private theorem slots_clear {a b s i j : Nat} {x : RequestId}
    (h : (⟨q.queue.set i none, a, b, s⟩ : PendingQueue).slot j = some x) :
    q.slot j = some x ∧ (i < q.queue.length → j ≠ i) := by
  by_cases hi : i < q.queue.length
  · rw [slot_set hi] at h
    split at h
    · cases h
    · rename_i hne; exact ⟨h, fun _ he => hne he.symm⟩
  · refine ⟨?_, fun hlt => absurd hlt hi⟩
    simpa [slot, List.set_eq_of_length_le (not_lt.mp hi)] using h

theorem dequeueLoop_without (h : q.Indexed queueIndex) :
    ∀ {fuel : Nat}, dequeueLoop fuel q = some (r, q') → Without q r q' := by
  intro fuel
  induction fuel generalizing q with
  | zero => intro hd; cases hd
  | succ fuel ih =>
      intro hd
      rw [dequeueLoop] at hd
      cases hslot : q.slot q.head with
      | some request =>
          rw [hslot] at hd
          obtain ⟨rfl, rfl⟩ := Prod.mk.inj (Option.some.inj hd)
          refine ⟨⟨q.head, hslot⟩, by simp, rfl, ?_, fun ht => ht, fun hi => (slots_clear hi).1,
            fun hx hi => slot_clear_of_ne (fun y hy => ?_) hx hi, ?_⟩
          · simpa [hslot] using occupied_set (slot_lt hslot) none
          · exact (Option.some.inj (hslot.symm.trans hy)).symm
          intro ⟨i, hi⟩
          obtain ⟨hold, hne⟩ := slots_clear hi
          exact hne (slot_lt hslot) (h.slot_inj hold hslot)
      | none =>
          rw [hslot] at hd
          have hcleared : PendingQueue.occupied { q with
              queue := q.queue.set q.head none, head := (q.head + 1) % q.queue.length } =
              q.occupied := by
            by_cases hlt : q.head < q.queue.length
            · simpa [hslot] using occupied_set hlt none
            · rw [List.set_eq_of_length_le (not_lt.mp hlt)]
              rfl
          have hnext : Indexed { q with
              queue := q.queue.set q.head none, head := (q.head + 1) % q.queue.length }
              queueIndex :=
            ⟨by simpa using h.length_pos, by simpa using h.tail_lt, by simpa using h.size_le,
              hcleared ▸ h.occupied_le, fun hi => h.index (slots_clear hi).1⟩
          have hw := ih hnext hd
          refine ⟨?_, by simpa using hw.length, hw.size, hw.occupied.trans hcleared, ?_,
            fun hi => (slots_clear (hw.slots hi)).1, fun hx hi => ?_, hw.removed⟩
          · obtain ⟨i, hi⟩ := hw.stored
            exact ⟨i, (slots_clear hi).1⟩
          · intro ht
            simpa using hw.tail_lt (by simpa using ht)
          · refine hw.others hx (slot_clear_of_ne (r := r) (fun y hy => ?_) hx hi)
            rw [hslot] at hy
            cases hy

theorem dequeuePendingRequest_without (h : q.Indexed queueIndex)
    (hd : q.dequeuePendingRequest = some (r, q')) : Without q r q' :=
  dequeueLoop_without h hd

theorem skipHoles_fields : ∀ (fuel : Nat) (q : PendingQueue),
    (skipHoles fuel q).queue = q.queue ∧ (skipHoles fuel q).tail = q.tail ∧
      (skipHoles fuel q).size = q.size := by
  intro fuel
  induction fuel with
  | zero => intro q; exact ⟨rfl, rfl, rfl⟩
  | succ fuel ih =>
      intro q
      rw [skipHoles]
      split
      · exact ih _
      · exact ⟨rfl, rfl, rfl⟩

/-- `unregister` succeeds exactly on the stored requests. -/
theorem unregister_isSome (h : q.Indexed queueIndex) :
    (q.unregister queueIndex r).isSome ↔ q.Stores r := by
  unfold unregister
  simp only
  constructor
  · intro hs
    split at hs
    · cases hs
    · split at hs
      · cases hs
      · rename_i hslot; exact ⟨_, not_not.mp hslot⟩
  · intro ⟨i, hi⟩
    have hidx := h.index hi
    have hlt := slot_lt hi
    rw [if_neg (by omega), if_neg (by simp [hidx, hi])]
    split <;> rfl

theorem unregister_without (h : q.Indexed queueIndex)
    (hu : q.unregister queueIndex r = some q') : Without q r q' := by
  have hst : q.Stores r := (unregister_isSome h).mp (by rw [hu]; rfl)
  obtain ⟨i, hi⟩ := hst
  have hidx : queueIndex r = i := h.index hi
  have hlt := slot_lt hi
  -- whichever way `head` and `tail` move, the slots are those of the cleared ring
  have hcleared : q'.queue = q.queue.set i none ∧ q'.size = q.size - 1 ∧
      (q'.tail = q.tail ∨ q'.tail = i) := by
    unfold unregister at hu
    simp only [hidx, Int.toNat_natCast] at hu
    rw [if_neg (by omega), if_neg (by simp [hi])] at hu
    split at hu
    · obtain rfl := Option.some.inj hu
      split
      · obtain ⟨h1, h2, h3⟩ := skipHoles_fields (q.queue.set i none).length
          { q with queue := q.queue.set i none, size := q.size - 1 }
        exact ⟨h1, h3, Or.inl h2⟩
      · exact ⟨rfl, rfl, Or.inl rfl⟩
    · obtain rfl := Option.some.inj hu
      generalize (if q.tail = 0 then (q.queue.set i none).length - 1 else q.tail - 1) = expected
      split
      · exact ⟨rfl, rfl, Or.inr rfl⟩
      · exact ⟨rfl, rfl, Or.inl rfl⟩
  obtain ⟨hq, hs, ht⟩ := hcleared
  have hslots : ∀ {j x}, q'.slot j = some x → q.slot j = some x ∧ j ≠ i := by
    intro j x hj
    have hj' : (⟨q.queue.set i none, 0, 0, 0⟩ : PendingQueue).slot j = some x := by
      rw [← hj, slot, slot, hq]
    exact ⟨(slots_clear hj').1, (slots_clear hj').2 hlt⟩
  have hocc : q'.occupied + 1 = q.occupied := by
    have hset := occupied_set (a := 0) (b := 0) (s := 0) hlt none
    simp only [hi, Option.isSome_some, Option.isSome_none, if_true, Bool.false_eq_true,
      if_false, Nat.add_zero] at hset
    rw [← hset, occupied, occupied, hq]
  refine ⟨⟨i, hi⟩, by simp [hq], hs, hocc, fun htl => by omega, fun hj => (hslots hj).1,
    fun hx hj => ?_, ?_⟩
  · have hkept := slot_clear_of_ne (a := 0) (b := 0) (s := 0)
      (fun y hy => (Option.some.inj (hi.symm.trans hy)).symm) hx hj
    rw [slot] at hkept ⊢
    rw [hq]
    exact hkept
  intro ⟨j, hj⟩
  exact (hslots hj).2 (h.slot_inj (hslots hj).1 hi)

end FitzTs.Client.PendingQueue
