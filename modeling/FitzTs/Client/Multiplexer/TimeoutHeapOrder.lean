import Mathlib.Data.Int.Order.Basic
import Mathlib.Data.List.Nodup
import FitzTs.Lib.BinaryHeap
import FitzTs.Client.Multiplexer.TimeoutHeapSound
/-!
# FitzTs.Client.Multiplexer.TimeoutHeapOrder

The order of the deadline heap (`BinaryHeap.Ordered`), and what `push` and
`removeTimeoutEntry` leave of it.

A request may have lost its deadline before it is removed (`dispatch` and the
timer set it to `-1` first), so the order of what is left is stated for deadlines
that agree off the removed request.
-/

namespace FitzTs.Client.TimeoutHeap

open BinaryHeap

variable {h h' : TimeoutHeap} {deadline deadline' : RequestId → Int} {r : RequestId}

/-- `timeoutEntries` is a min-heap on the deadlines. -/
def IsHeap (h : TimeoutHeap) (deadline : RequestId → Int) : Prop :=
  Ordered h.timeoutEntries.length (h.deadlineAt deadline)

theorem deadlineAt_of_getElem? {i : Nat} {x : RequestId} (hx : h.timeoutEntries[i]? = some x) :
    h.deadlineAt deadline i = deadline x := by
  rw [deadlineAt, List.getD_eq_getElem?_getD, hx, Option.getD_some]

theorem exists_entry {i : Nat} (hi : i < h.timeoutEntries.length) :
    ∃ x, h.timeoutEntries[i]? = some x := ⟨_, List.getElem?_eq_getElem hi⟩

/-- Only the deadlines of the requests in the array matter. -/
theorem IsHeap.congr (hheap : h.IsHeap deadline)
    (heq : ∀ x ∈ h.timeoutEntries, deadline' x = deadline x) : h.IsHeap deadline' := by
  refine Ordered.congr hheap ?_
  intro i hi
  obtain ⟨x, hx⟩ := exists_entry hi
  rw [deadlineAt_of_getElem? hx, deadlineAt_of_getElem? hx, heq x (List.mem_of_getElem? hx)]

/-- The request at the root has the least deadline. -/
theorem IsHeap.head_le (hheap : h.IsHeap deadline) (hr : h.timeoutEntries.head? = some r)
    {x : RequestId} (hx : x ∈ h.timeoutEntries) : deadline r ≤ deadline x := by
  obtain ⟨i, hi⟩ := List.getElem?_of_mem hx
  rw [List.head?_eq_getElem?] at hr
  have hle := Ordered.root_le hheap (List.getElem?_eq_some_iff.mp hi).1
  rwa [deadlineAt_of_getElem? hr, deadlineAt_of_getElem? hi] at hle

/-! ### Heapifying -/

theorem swapTimeoutEntries_swapped {i j : Nat} (hi : i < h.timeoutEntries.length)
    (hj : j < h.timeoutEntries.length) (hij : i ≠ j) :
    Swapped (h.deadlineAt deadline) i j ((h.swapTimeoutEntries i j).deadlineAt deadline) := by
  obtain ⟨x, hx⟩ := exists_entry hi
  obtain ⟨y, hy⟩ := exists_entry hj
  have hentries : (h.swapTimeoutEntries i j).timeoutEntries =
      (h.timeoutEntries.set i y).set j x := by
    simp only [swapTimeoutEntries, hx, hy]
  have hlen : j < (h.timeoutEntries.set i y).length := by rwa [List.length_set]
  constructor
  · rw [deadlineAt_of_getElem? hy]
    refine deadlineAt_of_getElem? ?_
    rw [hentries, List.getElem?_set_ne hij.symm, List.getElem?_set_self hi]
  · rw [deadlineAt_of_getElem? hx]
    refine deadlineAt_of_getElem? ?_
    rw [hentries, List.getElem?_set_self hlen]
  · intro k hki hkj
    simp only [deadlineAt, List.getD_eq_getElem?_getD]
    rw [hentries, List.getElem?_set_ne hkj.symm, List.getElem?_set_ne hki.symm]

theorem mem_swapTimeoutEntries {i j : Nat} :
    r ∈ (h.swapTimeoutEntries i j).timeoutEntries ↔ r ∈ h.timeoutEntries :=
  (swapTimeoutEntries_rearranges h i j).1.mem_iff

theorem length_swapTimeoutEntries (h : TimeoutHeap) (i j : Nat) :
    (h.swapTimeoutEntries i j).timeoutEntries.length = h.timeoutEntries.length :=
  (swapTimeoutEntries_rearranges h i j).1.length_eq

theorem heapifyUpLoop_isHeap : ∀ (fuel index : Nat) (h : TimeoutHeap), index ≤ fuel →
    index < h.timeoutEntries.length →
    UpAt h.timeoutEntries.length (h.deadlineAt deadline) index →
    (heapifyUpLoop deadline fuel index h).IsHeap deadline := by
  intro fuel
  induction fuel with
  | zero =>
      intro index h hle _ hup
      exact hup.ordered fun hpos => absurd hpos (by omega)
  | succ fuel ih =>
      intro index h hle hlt hup
      rw [heapifyUpLoop]
      by_cases hpos : index > 0
      · rw [if_pos hpos]
        dsimp only
        by_cases hdone : h.deadlineAt deadline index ≥ h.deadlineAt deadline ((index - 1) / 2)
        · rw [if_pos hdone]
          exact hup.ordered fun _ => hdone
        · rw [if_neg hdone]
          have hparent : parent index < index := (isChild_parent hpos).lt
          have hstep := hup.swap hpos hlt (not_le.mp hdone)
            (swapTimeoutEntries_swapped hlt (hparent.trans hlt) hparent.ne')
          have hlen := length_swapTimeoutEntries h index ((index - 1) / 2)
          refine ih _ _ (by omega) ?_ ?_
          · rw [hlen]
            exact hparent.trans hlt
          · rw [hlen]
            exact hstep
      · rw [if_neg hpos]
        exact hup.ordered fun h => absurd h hpos

theorem heapifyUp_isHeap {index : Nat} (hlt : index < h.timeoutEntries.length)
    (hup : UpAt h.timeoutEntries.length (h.deadlineAt deadline) index) :
    (h.heapifyUp deadline index).IsHeap deadline :=
  heapifyUpLoop_isHeap index index h le_rfl hlt hup

/-- One turn of `heapifyDown`: it stops at a request that is not after its
children, or goes on at the lesser child. -/
theorem heapifyDownLoop_succ (deadline : RequestId → Int) (fuel index : Nat) (h : TimeoutHeap) :
    (heapifyDownLoop deadline (fuel + 1) index h = h ∧
      ∀ c, IsChild c index → c < h.timeoutEntries.length →
        h.deadlineAt deadline index ≤ h.deadlineAt deadline c) ∨
    ∃ c, IsChild c index ∧ c < h.timeoutEntries.length ∧
      h.deadlineAt deadline c < h.deadlineAt deadline index ∧
      (∀ d, IsChild d index → d < h.timeoutEntries.length →
        h.deadlineAt deadline c ≤ h.deadlineAt deadline d) ∧
      heapifyDownLoop deadline (fuel + 1) index h =
        heapifyDownLoop deadline fuel c (h.swapTimeoutEntries index c) := by
  rw [heapifyDownLoop]
  generalize h.deadlineAt deadline = key
  generalize h.timeoutEntries.length = n
  by_cases hleft : index * 2 + 1 < n ∧ key (index * 2 + 1) < key index
  · rw [if_pos hleft]
    by_cases hright : index * 2 + 2 < n ∧ key (index * 2 + 2) < key (index * 2 + 1)
    · rw [if_pos hright, if_neg (by omega)]
      refine Or.inr ⟨index * 2 + 2, Or.inr rfl, hright.1, hright.2.trans hleft.2, ?_, rfl⟩
      intro d hd _
      rcases hd with rfl | rfl
      · exact hright.2.le
      · exact le_rfl
    · rw [if_neg hright, if_neg (by omega)]
      refine Or.inr ⟨index * 2 + 1, Or.inl rfl, hleft.1, hleft.2, ?_, rfl⟩
      intro d hd hdn
      rcases hd with rfl | rfl
      · exact le_rfl
      · exact not_lt.mp fun hlt => hright ⟨hdn, hlt⟩
  · rw [if_neg hleft]
    by_cases hright : index * 2 + 2 < n ∧ key (index * 2 + 2) < key index
    · rw [if_pos hright, if_neg (by omega)]
      refine Or.inr ⟨index * 2 + 2, Or.inr rfl, hright.1, hright.2, ?_, rfl⟩
      intro d hd hdn
      rcases hd with rfl | rfl
      · exact hright.2.le.trans (not_lt.mp fun hlt => hleft ⟨hdn, hlt⟩)
      · exact le_rfl
    · rw [if_neg hright, if_pos rfl]
      refine Or.inl ⟨rfl, ?_⟩
      intro c hc hcn
      rcases hc with rfl | rfl
      · exact not_lt.mp fun hlt => hleft ⟨hcn, hlt⟩
      · exact not_lt.mp fun hlt => hright ⟨hcn, hlt⟩

theorem heapifyDownLoop_isHeap : ∀ (fuel index : Nat) (h : TimeoutHeap),
    h.timeoutEntries.length ≤ fuel + index →
    DownAt h.timeoutEntries.length (h.deadlineAt deadline) index →
    (heapifyDownLoop deadline fuel index h).IsHeap deadline := by
  intro fuel
  induction fuel with
  | zero =>
      intro index h hle hdown
      exact hdown.ordered fun c hc hcn => absurd hc.lt (by omega)
  | succ fuel ih =>
      intro index h hle hdown
      rcases heapifyDownLoop_succ deadline fuel index h with
        ⟨hstop, hdone⟩ | ⟨c, hc, hcn, hlt, hmin, hgo⟩
      · rw [hstop]
        exact hdown.ordered hdone
      · have hstep := hdown.hole.swap hc hcn hlt hmin
          (swapTimeoutEntries_swapped (hc.lt.trans hcn) hcn hc.lt.ne)
        have hlen := length_swapTimeoutEntries h index c
        have hdeeper : index < c := hc.lt
        rw [hgo]
        refine ih c _ (by omega) ?_
        rw [hlen]
        exact hstep

/-- After `heapifyDown`, the place it started from only has to look up. -/
theorem heapifyDown_upAt {index : Nat} (hlt : index < h.timeoutEntries.length)
    (hhole : Hole h.timeoutEntries.length (h.deadlineAt deadline) index) :
    UpAt (h.heapifyDown deadline index).timeoutEntries.length
      ((h.heapifyDown deadline index).deadlineAt deadline) index := by
  obtain ⟨fuel, hfuel⟩ : ∃ fuel, h.timeoutEntries.length = fuel + 1 :=
    Nat.exists_eq_succ_of_ne_zero (by omega)
  have hloop : h.heapifyDown deadline index = heapifyDownLoop deadline (fuel + 1) index h := by
    rw [heapifyDown, hfuel]
  rcases heapifyDownLoop_succ deadline fuel index h with
    ⟨hstop, hdone⟩ | ⟨c, hc, hcn, hless, hmin, hgo⟩
  · rw [hloop, hstop]
    exact hhole.upAt hdone
  · have hstep := hhole.swap hc hcn hless hmin
      (swapTimeoutEntries_swapped (hc.lt.trans hcn) hcn hc.lt.ne)
    have hlen := length_swapTimeoutEntries h index c
    have hdeeper : index < c := hc.lt
    rw [hloop, hgo]
    refine Ordered.upAt (heapifyDownLoop_isHeap fuel c _ (by omega) ?_) index
    rw [hlen]
    exact hstep

/-! ### Places of requests that are not in the array -/

theorem swapTimeoutEntries_timeoutIndex {i j : Nat} (hr : r ∉ h.timeoutEntries) :
    (h.swapTimeoutEntries i j).timeoutIndex r = h.timeoutIndex r := by
  unfold swapTimeoutEntries
  cases hx : h.timeoutEntries[i]? with
  | none => rfl
  | some x =>
      cases hy : h.timeoutEntries[j]? with
      | none => rfl
      | some y =>
          have hrx : r ≠ x := fun he => hr (he ▸ List.mem_of_getElem? hx)
          have hry : r ≠ y := fun he => hr (he ▸ List.mem_of_getElem? hy)
          dsimp only
          rw [Function.update_of_ne hry, Function.update_of_ne hrx]

theorem heapifyUpLoop_timeoutIndex (deadline : RequestId → Int) :
    ∀ (fuel index : Nat) (h : TimeoutHeap), r ∉ h.timeoutEntries →
    (heapifyUpLoop deadline fuel index h).timeoutIndex r = h.timeoutIndex r := by
  intro fuel
  induction fuel with
  | zero => intro index h _; rfl
  | succ fuel ih =>
      intro index h hr
      rw [heapifyUpLoop]
      split
      · dsimp only
        split
        · rfl
        · rw [ih _ _ fun hin => hr (mem_swapTimeoutEntries.mp hin)]
          exact swapTimeoutEntries_timeoutIndex hr
      · rfl

theorem heapifyDownLoop_timeoutIndex : ∀ (fuel index : Nat) (h : TimeoutHeap),
    r ∉ h.timeoutEntries →
    (heapifyDownLoop deadline fuel index h).timeoutIndex r = h.timeoutIndex r := by
  intro fuel
  induction fuel with
  | zero => intro index h _; rfl
  | succ fuel ih =>
      intro index h hr
      rcases heapifyDownLoop_succ deadline fuel index h with
        ⟨hstop, -⟩ | ⟨c, -, -, -, -, hgo⟩
      · rw [hstop]
      · rw [hgo, ih _ _ fun hin => hr (mem_swapTimeoutEntries.mp hin)]
        exact swapTimeoutEntries_timeoutIndex hr

/-! ### Pushing and removing -/

theorem Indexed.nodup (hi : h.Indexed) : h.timeoutEntries.Nodup := by
  rw [List.nodup_iff_injective_get]
  intro i j hij
  have hx : h.timeoutEntries[i.val]? = some (h.timeoutEntries.get i) :=
    List.getElem?_eq_getElem i.isLt
  have hy : h.timeoutEntries[j.val]? = some (h.timeoutEntries.get j) :=
    List.getElem?_eq_getElem j.isLt
  rw [← hij] at hy
  exact Fin.ext (hi.inj hx hy)

theorem push_isHeap (hheap : h.IsHeap deadline) : (h.push deadline r).IsHeap deadline := by
  refine heapifyUp_isHeap (by simp) ?_
  have hlen : (h.timeoutEntries ++ [r]).length = h.timeoutEntries.length + 1 := by simp
  dsimp only
  rw [hlen]
  refine Ordered.append hheap ?_
  intro i hi
  simp only [deadlineAt, List.getD_eq_getElem?_getD]
  rw [List.getElem?_append_left hi]

/-- A request that is not in the array, and knows it, is not removed from it. -/
theorem removeTimeoutEntry_of_index (hr : h.timeoutIndex r = -1) :
    h.removeTimeoutEntry deadline r = h := by
  unfold removeTimeoutEntry
  dsimp only
  rw [if_pos (Or.inl (by omega))]

/-- `h'` is the heap `h` without the request `r` that was in it. -/
structure Extracts (h : TimeoutHeap) (deadline : RequestId → Int) (r : RequestId)
    (h' : TimeoutHeap) : Prop where
  perm : (r :: h'.timeoutEntries).Perm h.timeoutEntries
  indexed : h'.Indexed
  isHeap : h'.IsHeap deadline
  timeoutIndex : h'.timeoutIndex r = -1

theorem removeTimeoutEntry_extracts (hi : h.Indexed) (hheap : h.IsHeap deadline)
    (hr : r ∈ h.timeoutEntries) (hagree : ∀ x, x ≠ r → deadline' x = deadline x) :
    Extracts h deadline r (h.removeTimeoutEntry deadline' r) := by
  have hindexed : (h.removeTimeoutEntry deadline' r).Indexed :=
    (removeTimeoutEntry_removes hi).indexed
  obtain ⟨i, hir⟩ := List.getElem?_of_mem hr
  have hilt := (List.getElem?_eq_some_iff.mp hir).1
  have hidx : h.timeoutIndex r = i := hi hir
  have hne : h.timeoutEntries ≠ [] := List.ne_nil_of_mem hr
  obtain ⟨rest, last, hsplit⟩ : ∃ rest last, h.timeoutEntries = rest ++ [last] :=
    ⟨_, _, (List.dropLast_append_getLast hne).symm⟩
  have hlen : h.timeoutEntries.length = rest.length + 1 := by simp [hsplit]
  have hnodup := hi.nodup
  -- the deadlines in the part of the array that stays in place
  have hkeys : ∀ {g : TimeoutHeap} {k : Nat}, k < rest.length → g.timeoutEntries[k]? = rest[k]? →
      g.deadlineAt deadline k = h.deadlineAt deadline k := by
    intro g k hk hg
    simp only [deadlineAt, List.getD_eq_getElem?_getD]
    rw [hg, hsplit, List.getElem?_append_left hk]
  unfold removeTimeoutEntry at hindexed ⊢
  dsimp only at hindexed ⊢
  rw [if_neg (by omega)] at hindexed ⊢
  simp only [hsplit, List.dropLast_concat, List.getLast?_concat, hidx] at hindexed ⊢
  by_cases hlast : (i : Int) = rest.length
  · -- the last one is popped
    have hrlast : last = r := by
      rw [hsplit, List.getElem?_append_right (by omega)] at hir
      have hzero : i - rest.length = 0 := by omega
      rw [hzero] at hir
      exact Option.some.inj hir
    rw [if_pos hlast] at hindexed ⊢
    refine ⟨?_, hindexed, ?_, by simp⟩
    · rw [hsplit, hrlast]
      exact (List.perm_append_singleton r rest).symm
    · intro k hpos hk
      have hparent : parent k < k := (isChild_parent hpos).lt
      dsimp only at hk
      rw [hkeys hk rfl, hkeys (hparent.trans hk) rfl]
      exact hheap k hpos (by omega)
  · -- the last one takes the place of `r`
    have hirest : i < rest.length := by omega
    rw [if_neg hlast] at hindexed ⊢
    simp only [Int.toNat_natCast] at hindexed ⊢
    have hrest : rest[i]? = some r := by
      rwa [hsplit, List.getElem?_append_left hirest] at hir
    generalize hm : (⟨rest.set i last, Function.update
      (Function.update h.timeoutIndex last (i : Int)) r (-1)⟩ : TimeoutHeap) = moved
      at hindexed ⊢
    have hmoved : moved.timeoutEntries = rest.set i last := by rw [← hm]
    have hmlen : moved.timeoutEntries.length = rest.length := by rw [hmoved, List.length_set]
    have hre : Rearranges moved ((moved.heapifyDown deadline' i).heapifyUp deadline' i) :=
      (heapifyDown_rearranges moved i).trans (heapifyUp_rearranges _ i)
    have hperm : (r :: moved.timeoutEntries).Perm h.timeoutEntries := by
      obtain ⟨hlt, hget⟩ := List.getElem?_eq_some_iff.mp hrest
      have hset : (rest.set i last).Perm (last :: rest.eraseIdx i) :=
        List.set_perm_cons_eraseIdx hlt last
      have hcons : (r :: rest.eraseIdx i).Perm rest := by
        have := List.getElem_cons_eraseIdx_perm hlt
        rwa [hget] at this
      rw [hmoved, hsplit]
      calc
        List.Perm (r :: rest.set i last) (r :: last :: rest.eraseIdx i) := hset.cons r
        List.Perm _ (last :: r :: rest.eraseIdx i) := List.Perm.swap ..
        List.Perm _ (last :: rest) := hcons.cons last
        List.Perm _ (rest ++ [last]) := (List.perm_append_singleton last rest).symm
    have hout : r ∉ moved.timeoutEntries := (List.nodup_cons.mp (hperm.nodup_iff.mpr hnodup)).1
    have hout' := fun hin => hout (hre.1.mem_iff.mp hin)
    refine ⟨(hre.1.cons r).trans hperm, hindexed, ?_, ?_⟩
    · have hhole : Hole moved.timeoutEntries.length (moved.deadlineAt deadline') i := by
        have hfirst : Ordered rest.length (h.deadlineAt deadline) :=
          fun k hpos hk => hheap k hpos (by omega)
        rw [hmlen]
        refine Ordered.replace hfirst ?_
        intro k hk hki
        have hkeep : moved.timeoutEntries[k]? = rest[k]? := by
          rw [hmoved, List.getElem?_set_ne hki.symm]
        rw [← hkeys hk hkeep]
        obtain ⟨x, hx⟩ := exists_entry (h := moved) (i := k) (by omega)
        rw [deadlineAt_of_getElem? hx, deadlineAt_of_getElem? hx]
        exact hagree x fun he => hout (he ▸ List.mem_of_getElem? hx)
      have hupAt := heapifyDown_upAt (by omega) hhole
      have hdown : (moved.heapifyDown deadline' i).timeoutEntries.length =
          moved.timeoutEntries.length := (heapifyDown_rearranges moved i).1.length_eq
      refine (heapifyUp_isHeap (by omega) hupAt).congr ?_
      intro x hx
      exact (hagree x fun he => hout' (he ▸ hx)).symm
    · have hdown : (moved.heapifyDown deadline' i).timeoutIndex r = moved.timeoutIndex r :=
        heapifyDownLoop_timeoutIndex _ _ _ hout
      have hup := heapifyUpLoop_timeoutIndex deadline' i i (moved.heapifyDown deadline' i)
        fun hin => hout ((heapifyDown_rearranges moved i).1.mem_iff.mp hin)
      have hmark : moved.timeoutIndex r = -1 := by
        rw [← hm]
        exact Function.update_self ..
      rw [heapifyUp, hup, hdown, hmark]

end FitzTs.Client.TimeoutHeap
