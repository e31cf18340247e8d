import Mathlib.Order.Nat
import Mathlib.Order.Lattice
/-!
# FitzTs.Lib.BinaryHeap

**The order of a binary heap**, as a property of the key at each place of an array.

A heap is repaired by moving one place that is out of order. `Hole p` says that every pair
without `p` is in order; `UpAt p` and `DownAt p` add one direction of `p`. Each has a lemma for
one swap and a lemma for the end:

* up: `UpAt.swap` until `UpAt.ordered`;
* down: `Hole.swap` until `DownAt.ordered`, or `Hole.upAt` when the place never moves.
-/

namespace BinaryHeap

variable {κ : Type*} [LinearOrder κ] {n p c : Nat} {key key' : Nat → κ}

/-- The place above `i`. -/
def parent (i : Nat) : Nat := (i - 1) / 2

/-- `c` is one of the two places below `p`. -/
def IsChild (c p : Nat) : Prop := c = p * 2 + 1 ∨ c = p * 2 + 2

theorem isChild_iff : IsChild c p ↔ 0 < c ∧ parent c = p := by
  unfold IsChild parent
  omega

theorem IsChild.lt (h : IsChild c p) : p < c := by
  unfold IsChild at h
  omega

theorem isChild_parent (hc : 0 < c) : IsChild c (parent c) := isChild_iff.mpr ⟨hc, rfl⟩

/-- The first `n` places are in order: no key is below the one above it. -/
def Ordered (n : Nat) (key : Nat → κ) : Prop :=
  ∀ i, 0 < i → i < n → key (parent i) ≤ key i

/-- The root is the least. -/
theorem Ordered.root_le (h : Ordered n key) {i : Nat} (hi : i < n) : key 0 ≤ key i := by
  induction i using Nat.strongRecOn with
  | ind i ih =>
      rcases Nat.eq_zero_or_pos i with rfl | hpos
      · exact le_rfl
      · have hlt : parent i < i := (isChild_parent hpos).lt
        exact (ih (parent i) hlt (hlt.trans hi)).trans (h i hpos hi)

/-- The order of the first places only depends on their keys. -/
theorem Ordered.congr (h : Ordered n key) (heq : ∀ i < n, key' i = key i) : Ordered n key' := by
  intro i hpos hi
  have hlt : parent i < i := (isChild_parent hpos).lt
  rw [heq i hi, heq _ (hlt.trans hi)]
  exact h i hpos hi

/-- What is below `p` is not before what is above it. -/
def Bridged (n : Nat) (key : Nat → κ) (p : Nat) : Prop :=
  0 < p → ∀ c, IsChild c p → c < n → key (parent p) ≤ key c

/-- Every pair that `p` is not part of is in order. -/
structure Hole (n : Nat) (key : Nat → κ) (p : Nat) : Prop where
  off : ∀ i, 0 < i → i < n → i ≠ p → parent i ≠ p → key (parent i) ≤ key i
  bridge : Bridged n key p

/-- Only `p` and the place above it may be out of order. -/
structure UpAt (n : Nat) (key : Nat → κ) (p : Nat) : Prop where
  off : ∀ i, 0 < i → i < n → i ≠ p → key (parent i) ≤ key i
  bridge : Bridged n key p

/-- Only `p` and the places below it may be out of order. -/
structure DownAt (n : Nat) (key : Nat → κ) (p : Nat) : Prop where
  off : ∀ i, 0 < i → i < n → parent i ≠ p → key (parent i) ≤ key i
  bridge : Bridged n key p

theorem Ordered.bridged (h : Ordered n key) (p : Nat) : Bridged n key p := by
  intro hp c hc hcn
  have habove : key (parent p) ≤ key p := h p hp (hc.lt.trans hcn)
  obtain ⟨hpos, rfl⟩ := isChild_iff.mp hc
  exact habove.trans (h c hpos hcn)

theorem Ordered.upAt (h : Ordered n key) (p : Nat) : UpAt n key p :=
  ⟨fun i hpos hi _ => h i hpos hi, h.bridged p⟩

theorem DownAt.hole (h : DownAt n key p) : Hole n key p :=
  ⟨fun i hpos hi _ hpar => h.off i hpos hi hpar, h.bridge⟩

/-! ### Swapping two places -/

/-- The keys after the keys at `p` and `q` have changed places. -/
structure Swapped (key : Nat → κ) (p q : Nat) (key' : Nat → κ) : Prop where
  left : key' p = key q
  right : key' q = key p
  others : ∀ i, i ≠ p → i ≠ q → key' i = key i

/-- One step up: `p` was before the place above it. -/
theorem UpAt.swap (h : UpAt n key p) (hpos : 0 < p) (hpn : p < n) (hlt : key p < key (parent p))
    (hs : Swapped key p (parent p) key') : UpAt n key' (parent p) := by
  have hpp : parent p < p := (isChild_parent hpos).lt
  constructor
  · intro i hi hin hne
    by_cases hip : i = p
    · subst hip
      rw [hs.left, hs.right]
      exact hlt.le
    · rw [hs.others i hip hne]
      by_cases hparp : parent i = p
      · -- a place below `p`, which has the key from above now
        rw [hparp, hs.left]
        exact h.bridge hpos i (isChild_iff.mpr ⟨hi, hparp⟩) hin
      · by_cases hparpp : parent i = parent p
        · rw [hparpp, hs.right]
          exact hlt.le.trans (hparpp ▸ h.off i hi hin hip)
        · rw [hs.others _ hparp hparpp]
          exact h.off i hi hin hip
  · intro hq c hc hcn
    have hqq : parent (parent p) < parent p := (isChild_parent hq).lt
    have habove : key (parent (parent p)) ≤ key (parent p) :=
      h.off _ hq (hpp.trans hpn) hpp.ne
    obtain ⟨hcpos, hcpar⟩ := isChild_iff.mp hc
    rw [hs.others _ (hqq.trans hpp).ne hqq.ne]
    by_cases hcp : c = p
    · subst hcp
      rw [hs.left]
      exact habove
    · rw [hs.others c hcp hc.lt.ne']
      exact habove.trans (hcpar ▸ h.off c hcpos hcn hcp)

/-- The end of the way up. -/
theorem UpAt.ordered (h : UpAt n key p) (hp : 0 < p → key (parent p) ≤ key p) :
    Ordered n key := by
  intro i hpos hi
  by_cases hip : i = p
  · subst hip
    exact hp hpos
  · exact h.off i hpos hi hip

/-- One step down: `c` is the least of the places below `p`, and before `p`. -/
theorem Hole.swap (h : Hole n key p) (hc : IsChild c p) (hcn : c < n) (hlt : key c < key p)
    (hmin : ∀ d, IsChild d p → d < n → key c ≤ key d) (hs : Swapped key p c key') :
    DownAt n key' c := by
  have hpc : p < c := hc.lt
  constructor
  · intro i hi hin hpar
    have hparlt : parent i < i := (isChild_parent hi).lt
    by_cases hic : i = c
    · subst hic
      rw [(isChild_iff.mp hc).2, hs.left, hs.right]
      exact hlt.le
    · by_cases hip : i = p
      · subst hip
        rw [hs.left, hs.others _ hparlt.ne (hparlt.trans hpc).ne]
        exact h.bridge hi c hc hcn
      · rw [hs.others i hip hic]
        by_cases hparp : parent i = p
        · rw [hparp, hs.left]
          exact hmin i (isChild_iff.mpr ⟨hi, hparp⟩) hin
        · rw [hs.others _ hparp hpar]
          exact h.off i hi hin hip hparp
  · intro _ d hd hdn
    obtain ⟨hdpos, hdpar⟩ := isChild_iff.mp hd
    have hdp : p < d := hpc.trans hd.lt
    rw [(isChild_iff.mp hc).2, hs.left, hs.others d hdp.ne' hd.lt.ne']
    have hbelow := h.off d hdpos hdn hdp.ne' (by rw [hdpar]; exact hpc.ne')
    rwa [hdpar] at hbelow

/-- The end of the way down. -/
theorem DownAt.ordered (h : DownAt n key p) (hp : ∀ c, IsChild c p → c < n → key p ≤ key c) :
    Ordered n key := by
  intro i hpos hi
  by_cases hpar : parent i = p
  · rw [hpar]
    exact hp i (isChild_iff.mpr ⟨hpos, hpar⟩) hi
  · exact h.off i hpos hi hpar

/-- A place that is not after those below it only has to look up. -/
theorem Hole.upAt (h : Hole n key p) (hp : ∀ c, IsChild c p → c < n → key p ≤ key c) :
    UpAt n key p := by
  refine ⟨?_, h.bridge⟩
  intro i hpos hi hip
  by_cases hpar : parent i = p
  · rw [hpar]
    exact hp i (isChild_iff.mpr ⟨hpos, hpar⟩) hi
  · exact h.off i hpos hi hip hpar

/-! ### Adding and replacing a place -/

/-- A heap with one more place behind it. -/
theorem Ordered.append (h : Ordered n key) (heq : ∀ i < n, key' i = key i) :
    UpAt (n + 1) key' n := by
  have hlt : ∀ {i}, 0 < i → parent i < i := fun hpos => (isChild_parent hpos).lt
  constructor
  · intro i hpos hi hne
    have hin : i < n := by omega
    rw [heq i hin, heq _ ((hlt hpos).trans hin)]
    exact h i hpos hin
  · intro _ c hc hcn
    exact absurd hc.lt (by omega)

/-- A heap of which one place has another key. -/
theorem Ordered.replace (h : Ordered n key) (heq : ∀ i < n, i ≠ p → key' i = key i) :
    Hole n key' p := by
  have hlt : ∀ {i}, 0 < i → parent i < i := fun hpos => (isChild_parent hpos).lt
  constructor
  · intro i hpos hi hip hpar
    rw [heq i hi hip, heq _ ((hlt hpos).trans hi) hpar]
    exact h i hpos hi
  · intro hp c hc hcn
    have hpn : p < n := hc.lt.trans hcn
    rw [heq c hcn hc.lt.ne', heq _ ((hlt hp).trans hpn) (hlt hp).ne]
    exact h.bridged p hp c hc hcn

end BinaryHeap
