import Mathlib.Data.List.Perm.Basic
import FitzTs.Client.Multiplexer.TimeoutHeap
/-!
# FitzTs.Client.Multiplexer.TimeoutHeapSound

The invariant of the heap that removal rests on (`TimeoutHeap.Indexed`): every
request in the array knows its place. Heapifying only rearranges the array, so
the requests in it are those that were pushed and not removed since, and taking
out the request at the root shortens the array.

The order of the heap plays no part here.
-/

namespace FitzTs.Client.TimeoutHeap

variable {h h' h'' : TimeoutHeap} {deadline : RequestId → Int} {r : RequestId}

/-- Every request in the array has its place as `timeoutIndex`. -/
def Indexed (h : TimeoutHeap) : Prop :=
  ∀ ⦃i : Nat⦄ ⦃r : RequestId⦄, h.timeoutEntries[i]? = some r → h.timeoutIndex r = i

theorem Indexed.inj (hi : h.Indexed) {i j : Nat} (hr : h.timeoutEntries[i]? = some r)
    (hr' : h.timeoutEntries[j]? = some r) : i = j := by
  have := (hi hr).symm.trans (hi hr')
  omega

/-- `h'` has the requests of `h` in another order, and the places follow. -/
def Rearranges (h h' : TimeoutHeap) : Prop :=
  h'.timeoutEntries.Perm h.timeoutEntries ∧ (h.Indexed → h'.Indexed)

theorem Rearranges.refl (h : TimeoutHeap) : Rearranges h h := ⟨.refl _, id⟩

theorem Rearranges.trans (h₁ : Rearranges h h') (h₂ : Rearranges h' h'') : Rearranges h h'' :=
  ⟨h₂.1.trans h₁.1, fun hi => h₂.2 (h₁.2 hi)⟩

theorem swapTimeoutEntries_rearranges (h : TimeoutHeap) (i j : Nat) :
    Rearranges h (h.swapTimeoutEntries i j) := by
  unfold swapTimeoutEntries
  cases hl : h.timeoutEntries[i]? with
  | none => exact .refl h
  | some left =>
      cases hr : h.timeoutEntries[j]? with
      | none => exact .refl h
      | some right =>
          obtain ⟨hi, rfl⟩ := List.getElem?_eq_some_iff.mp hl
          obtain ⟨hj, rfl⟩ := List.getElem?_eq_some_iff.mp hr
          refine ⟨List.set_set_perm hi hj, ?_⟩
          intro hidx k x hk
          dsimp only at hk ⊢
          rw [List.getElem?_set, List.length_set] at hk
          by_cases hkj : j = k
          · subst hkj
            rw [if_pos rfl, if_pos hj] at hk
            obtain rfl := Option.some.inj hk
            by_cases hne : h.timeoutEntries[i] = h.timeoutEntries[j]
            · have hij : i = j := hidx.inj hl (by rw [hr, hne])
              rw [hne, Function.update_self, hij]
            · rw [Function.update_of_ne hne, Function.update_self]
          · rw [if_neg hkj, List.getElem?_set] at hk
            by_cases hki : i = k
            · subst hki
              rw [if_pos rfl, if_pos hi] at hk
              obtain rfl := Option.some.inj hk
              rw [Function.update_self]
            · rw [if_neg hki] at hk
              have hxr : x ≠ h.timeoutEntries[j] := fun he => hkj (hidx.inj hr (he ▸ hk))
              have hxl : x ≠ h.timeoutEntries[i] := fun he => hki (hidx.inj hl (he ▸ hk))
              rw [Function.update_of_ne hxr, Function.update_of_ne hxl]
              exact hidx hk

theorem heapifyUpLoop_rearranges :
    ∀ (fuel index : Nat) (h : TimeoutHeap), Rearranges h (heapifyUpLoop deadline fuel index h) := by
  intro fuel
  induction fuel with
  | zero => intro index h; exact .refl h
  | succ fuel ih =>
      intro index h
      rw [heapifyUpLoop]
      split
      · dsimp only
        split
        · exact .refl h
        · exact (swapTimeoutEntries_rearranges h _ _).trans (ih _ _)
      · exact .refl h

theorem heapifyDownLoop_rearranges :
    ∀ (fuel index : Nat) (h : TimeoutHeap),
      Rearranges h (heapifyDownLoop deadline fuel index h) := by
  intro fuel
  induction fuel with
  | zero => intro index h; exact .refl h
  | succ fuel ih =>
      intro index h
      unfold heapifyDownLoop
      -- whichever child is the smallest, it is swapped into the parent's place
      extract_lets length leftIndex rightIndex smallest₁ smallest
      split
      · exact .refl h
      · exact (swapTimeoutEntries_rearranges h _ _).trans (ih _ _)

theorem heapifyUp_rearranges (h : TimeoutHeap) (index : Nat) :
    Rearranges h (h.heapifyUp deadline index) :=
  heapifyUpLoop_rearranges index index h

theorem heapifyDown_rearranges (h : TimeoutHeap) (index : Nat) :
    Rearranges h (h.heapifyDown deadline index) :=
  heapifyDownLoop_rearranges _ index h

/-! ### Pushing and removing -/

theorem push_indexed (hi : h.Indexed) (hnew : r ∉ h.timeoutEntries) :
    (h.push deadline r).Indexed := by
  refine (heapifyUp_rearranges _ _).2 ?_
  intro k x hk
  dsimp only at hk ⊢
  rcases List.getElem?_eq_some_iff.mp hk with ⟨hlt, -⟩
  rw [List.length_append, List.length_singleton] at hlt
  by_cases hke : k = h.timeoutEntries.length
  · subst hke
    rw [List.getElem?_append_right (Nat.le_refl _), Nat.sub_self] at hk
    obtain rfl := Option.some.inj hk
    rw [Function.update_self]
  · rw [List.getElem?_append_left (by omega)] at hk
    have hne : x ≠ r := fun he => hnew (he ▸ List.mem_of_getElem? hk)
    rw [Function.update_of_ne hne]
    exact hi hk

theorem mem_push {x : RequestId} :
    x ∈ (h.push deadline r).timeoutEntries ↔ x = r ∨ x ∈ h.timeoutEntries := by
  rw [push, (heapifyUp_rearranges _ _).1.mem_iff, List.mem_append, List.mem_singleton, or_comm]

/-- `h'` is indexed and has lost some requests of `h`, if any. -/
structure Shrinks (h h' : TimeoutHeap) : Prop where
  indexed : h'.Indexed
  sub : ∀ {x}, x ∈ h'.timeoutEntries → x ∈ h.timeoutEntries
  length_le : h'.timeoutEntries.length ≤ h.timeoutEntries.length

theorem Shrinks.refl (hi : h.Indexed) : Shrinks h h := ⟨hi, id, Nat.le_refl _⟩

theorem Shrinks.trans (h₁ : Shrinks h h') (h₂ : Shrinks h' h'') : Shrinks h h'' :=
  ⟨h₂.indexed, fun hx => h₁.sub (h₂.sub hx), Nat.le_trans h₂.length_le h₁.length_le⟩

/-- What `removeTimeoutEntry` leaves. -/
structure Removes (h : TimeoutHeap) (r : RequestId) (h' : TimeoutHeap) : Prop
    extends Shrinks h h' where
  shorter : r ∈ h.timeoutEntries → h'.timeoutEntries.length < h.timeoutEntries.length

theorem removeTimeoutEntry_removes (hi : h.Indexed) :
    Removes h r (h.removeTimeoutEntry deadline r) := by
  unfold removeTimeoutEntry
  dsimp only
  split
  · -- not in the array: a request there has its place as index
    rename_i hout
    refine ⟨.refl hi, fun hr => ?_⟩
    obtain ⟨k, hk⟩ := List.getElem?_of_mem hr
    have hlt := (List.getElem?_eq_some_iff.mp hk).1
    have := hi hk
    omega
  · rename_i hin
    have hpos : 0 < h.timeoutEntries.length := by omega
    have hne : h.timeoutEntries ≠ [] := List.ne_nil_of_length_pos hpos
    have hlen : h.timeoutEntries.dropLast.length + 1 = h.timeoutEntries.length := by
      rw [List.length_dropLast]; omega
    -- a place before the last one still has its request after `pop`
    have hpop : ∀ {k x}, h.timeoutEntries.dropLast[k]? = some x →
        h.timeoutEntries[k]? = some x ∧ k < h.timeoutEntries.dropLast.length := by
      intro k x hk
      have hlt := (List.getElem?_eq_some_iff.mp hk).1
      rw [List.getElem?_dropLast] at hk
      split at hk
      · exact ⟨hk, hlt⟩
      · cases hk
    rw [List.getLast?_eq_some_getLast hne]
    dsimp only
    have hlast : h.timeoutEntries[h.timeoutEntries.dropLast.length]? =
        some (h.timeoutEntries.getLast hne) := by
      rw [← List.getLast?_eq_some_getLast hne, List.getLast?_eq_getElem?]
      congr 1
      omega
    generalize h.timeoutEntries.getLast hne = last at hlast ⊢
    have hlastIdx := hi hlast
    split
    · rename_i hr
      refine ⟨⟨?_, fun hx => List.dropLast_subset _ hx, by dsimp only; omega⟩,
        fun _ => by dsimp only; omega⟩
      intro k x hk
      obtain ⟨hold, hlt⟩ := hpop hk
      have hne' : x ≠ r := fun he => by
        have := hi (he ▸ hold)
        omega
      dsimp only
      rw [Function.update_of_ne hne']
      exact hi hold
    · rename_i hr
      obtain ⟨i, hidx⟩ : ∃ i : Nat, h.timeoutIndex r = i :=
        ⟨_, (Int.toNat_of_nonneg (by omega)).symm⟩
      have hlt : i < h.timeoutEntries.dropLast.length := by omega
      simp only [hidx, Int.toNat_natCast]
      generalize hm : (⟨h.timeoutEntries.dropLast.set i last, Function.update
        (Function.update h.timeoutIndex last (i : Int)) r (-1)⟩ : TimeoutHeap) = moved
      have hre : Rearranges moved ((moved.heapifyDown deadline i).heapifyUp deadline i) :=
        (heapifyDown_rearranges moved i).trans (heapifyUp_rearranges _ i)
      subst hm
      have hlen' := hre.1.length_eq
      rw [List.length_set] at hlen'
      refine ⟨⟨hre.2 ?_, ?_, by omega⟩, fun _ => by omega⟩
      · intro k x hk
        dsimp only at hk ⊢
        rw [List.getElem?_set] at hk
        by_cases hki : i = k
        · subst hki
          rw [if_pos rfl, if_pos hlt] at hk
          obtain rfl := Option.some.inj hk
          have hlr : last ≠ r := fun he => by rw [he] at hlastIdx; omega
          rw [Function.update_of_ne hlr, Function.update_self]
        · rw [if_neg hki] at hk
          obtain ⟨hold, hklt⟩ := hpop hk
          have hxr : x ≠ r := fun he => by
            have := hi (he ▸ hold)
            omega
          have hxl : x ≠ last := fun he => by
            have := hi.inj hlast (he ▸ hold)
            omega
          rw [Function.update_of_ne hxr, Function.update_of_ne hxl]
          exact hi hold
      · intro x hx
        rw [hre.1.mem_iff] at hx
        rcases List.mem_or_eq_of_mem_set hx with hx | rfl
        · exact List.dropLast_subset _ hx
        · exact List.mem_of_getElem? hlast

end FitzTs.Client.TimeoutHeap
