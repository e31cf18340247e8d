import Mathlib.Data.List.Rotate
import Mathlib.Data.List.ReduceOption
import Mathlib.Data.Nat.ModEq
/-!
# FitzTs.Lib.RingBuffer

**A ring buffer with holes**: slots that are full or empty, and two indices. `Spans` reads the ring
from its head: first a window, in which full slots and holes may stand in any order, and then
nothing but empty slots. The tail is the index right behind the window, so it is the index of the
head again when the window is as long as the ring, and also when it is empty.

`contents` is what the full slots hold, in the order from the head. Each change of the ring (write
behind the window, leave its first slot, clear a slot, give up a hole at its end) has its lemma.
-/

namespace RingBuffer

variable {α : Type*} {slots window : List (Option α)} {head tail : Nat}

/-- What the full slots hold, read from the head. -/
def contents (slots : List (Option α)) (head : Nat) : List α := (slots.rotate head).reduceOption

/-- The ring is `window` from the head on, and empty from there to the head. -/
structure Spans (slots : List (Option α)) (head tail : Nat) (window : List (Option α)) : Prop where
  layout : slots.rotate head =
    window ++ List.replicate (slots.length - window.length) none
  head_lt : head < slots.length
  tail_eq : tail = (head + window.length) % slots.length

theorem contents_perm (slots : List (Option α)) (head : Nat) :
    (contents slots head).Perm slots.reduceOption :=
  (List.rotate_perm slots head).filterMap id

/-! ### The ring from its head -/

theorem getElem?_rotate_eq {j : Nat} (hj : j < slots.length) :
    slots[(head + j) % slots.length]? = (slots.rotate head)[j]? := by
  rw [List.getElem?_rotate hj, Nat.add_comm]

/-- Writing the `j`-th slot from the head. -/
theorem rotate_set {j : Nat} (hj : j < slots.length) (v : Option α) :
    (slots.set ((head + j) % slots.length) v).rotate head = (slots.rotate head).set j v := by
  have hpos : 0 < slots.length := by omega
  have hlen : (slots.set ((head + j) % slots.length) v).length = slots.length :=
    List.length_set
  refine List.ext_getElem? ?_
  intro i
  by_cases hi : i < slots.length
  · rw [List.getElem?_rotate (by omega), hlen, List.getElem?_set, List.getElem?_set,
      List.getElem?_rotate hi, List.length_rotate]
    have hsame : (head + j) % slots.length = (i + head) % slots.length ↔ j = i := by
      constructor
      · intro heq
        rw [Nat.add_comm i head] at heq
        exact (Nat.ModEq.add_left_cancel' head heq).eq_of_lt_of_lt hj hi
      · intro heq
        rw [heq, Nat.add_comm]
    by_cases hij : j = i
    · rw [if_pos (hsame.mpr hij), if_pos hij, if_pos (Nat.mod_lt _ hpos), if_pos hj]
    · rw [if_neg fun heq => hij (hsame.mp heq), if_neg hij]
  · rw [List.getElem?_eq_none (by simp; omega), List.getElem?_eq_none (by simp; omega)]

theorem rotate_set_head (hlt : head < slots.length) (v : Option α) :
    (slots.set head v).rotate head = (slots.rotate head).set 0 v := by
  have hzero : (slots.set ((head + 0) % slots.length) v).rotate head =
      (slots.rotate head).set 0 v := rotate_set (Nat.zero_lt_of_lt hlt) v
  rwa [Nat.add_zero, Nat.mod_eq_of_lt hlt] at hzero

/-- The ring from the next slot on. -/
theorem rotate_succ (slots : List α) (head : Nat) :
    slots.rotate ((head + 1) % slots.length) = (slots.rotate head).rotate 1 := by
  rw [List.rotate_mod, List.rotate_rotate]

namespace Spans

/-- A new ring. -/
theorem empty {n : Nat} (hn : 0 < n) : Spans (List.replicate n (none : Option α)) 0 0 [] where
  layout := by
    rw [List.rotate_zero, List.length_replicate]
    rfl
  head_lt := by rwa [List.length_replicate]
  tail_eq := (Nat.zero_mod _).symm

theorem length_le (h : Spans slots head tail window) : window.length ≤ slots.length := by
  have hlen := congrArg List.length h.layout
  rw [List.length_rotate, List.length_append, List.length_replicate] at hlen
  omega

theorem contents_eq (h : Spans slots head tail window) :
    contents slots head = window.reduceOption := by
  rw [contents, h.layout, List.reduceOption_append, List.reduceOption_replicate_none,
    List.append_nil]

theorem length_contents_le (h : Spans slots head tail window) :
    (contents slots head).length ≤ window.length := by
  rw [h.contents_eq]
  exact List.reduceOption_length_le window

/-- The slot `j` places behind the head. -/
theorem getElem? (h : Spans slots head tail window) {j : Nat} (hj : j < window.length) :
    slots[(head + j) % slots.length]? = window[j]? := by
  have hle := h.length_le
  rw [getElem?_rotate_eq (by omega), h.layout, List.getElem?_append_left hj]

theorem head_eq {x : Option α} (h : Spans slots head tail (x :: window)) :
    slots[head]? = some x := by
  have hread := h.getElem? (j := 0) (by simp)
  rwa [Nat.add_zero, Nat.mod_eq_of_lt h.head_lt] at hread

/-- A full slot is in the window. -/
theorem exists_place (h : Spans slots head tail window) {i : Nat} {a : α}
    (hi : slots[i]? = some (some a)) :
    ∃ j < window.length, i = (head + j) % slots.length ∧ window[j]? = some (some a) := by
  have hilt : i < slots.length := (List.getElem?_eq_some_iff.mp hi).1
  have hhead := h.head_lt
  -- the distance of `i` from the head
  obtain ⟨j, hj, hij⟩ : ∃ j < slots.length, i = (head + j) % slots.length := by
    by_cases hle : head ≤ i
    · refine ⟨i - head, by omega, ?_⟩
      rw [Nat.add_sub_cancel' hle, Nat.mod_eq_of_lt hilt]
    · refine ⟨i + slots.length - head, by omega, ?_⟩
      have hsum : head + (i + slots.length - head) = i + slots.length := by omega
      rw [hsum, Nat.add_mod_right, Nat.mod_eq_of_lt hilt]
  rw [hij, getElem?_rotate_eq hj, h.layout] at hi
  have hjw : j < window.length := by
    by_contra hout
    rw [List.getElem?_append_right (by omega), List.getElem?_replicate] at hi
    split at hi <;> cases hi
  rw [List.getElem?_append_left hjw] at hi
  exact ⟨j, hjw, hij, hi⟩

/-! ### Changing the ring -/

/-- A write behind the window. -/
theorem push (h : Spans slots head tail window) (hroom : window.length < slots.length) (a : α) :
    Spans (slots.set tail (some a)) head ((tail + 1) % slots.length) (window ++ [some a]) where
  layout := by
    obtain ⟨k, hk⟩ : ∃ k, slots.length - window.length = k + 1 :=
      Nat.exists_eq_succ_of_ne_zero (by omega)
    have hk' : slots.length - (window ++ [some a]).length = k := by
      rw [List.length_append, List.length_singleton]
      omega
    rw [h.tail_eq, rotate_set hroom, h.layout, List.length_set, hk, hk', List.replicate_succ,
      List.set_append_right _ _ le_rfl, Nat.sub_self, List.set_cons_zero, List.append_assoc]
    rfl
  head_lt := by rw [List.length_set]; exact h.head_lt
  tail_eq := by
    rw [List.length_set, h.tail_eq, List.length_append, List.length_singleton, Nat.mod_add_mod,
      Nat.add_assoc]

/-- A write at the head, whatever is there, comes first. -/
theorem contents_set_head (h : Spans slots head tail window) (a : α) :
    ∃ rest, contents (slots.set head (some a)) head = a :: rest := by
  have hpos : 0 < slots.length := Nat.zero_lt_of_lt h.head_lt
  have hset := rotate_set_head h.head_lt (some a)
  cases hrot : slots.rotate head with
  | nil =>
      have hlen := congrArg List.length hrot
      rw [List.length_rotate, List.length_nil] at hlen
      omega
  | cons x rest =>
      refine ⟨rest.reduceOption, ?_⟩
      rw [contents, hset, hrot, List.set_cons_zero, List.reduceOption_cons_of_some]

/-- The first slot of the window is emptied and left behind. -/
theorem advance {x : Option α} (h : Spans slots head tail (x :: window)) :
    Spans (slots.set head none) ((head + 1) % slots.length) tail window where
  layout := by
    have hpos : 0 < slots.length := Nat.zero_lt_of_lt h.head_lt
    have hle := h.length_le
    rw [List.length_cons] at hle
    have hset := rotate_set_head h.head_lt (none : Option α)
    have hsucc := rotate_succ (slots.set head none) head
    rw [List.length_set] at hsucc
    obtain ⟨k, hk⟩ : ∃ k, slots.length = (window.length + 1) + k := Nat.exists_eq_add_of_le hle
    have hrest : slots.length - (x :: window).length = k := by
      rw [List.length_cons]
      omega
    have hrest' : slots.length - window.length = k + 1 := by omega
    rw [hsucc, hset, h.layout, List.length_set, hrest, hrest', List.cons_append,
      List.set_cons_zero, List.rotate_cons_succ, List.rotate_zero, List.append_assoc,
      List.replicate_succ']
  head_lt := by
    rw [List.length_set]
    exact Nat.mod_lt _ (Nat.zero_lt_of_lt h.head_lt)
  tail_eq := by
    rw [List.length_set, h.tail_eq, List.length_cons, Nat.mod_add_mod]
    congr 1
    omega

/-- A hole at the head is left behind. -/
theorem skip (h : Spans slots head tail (none :: window)) :
    Spans slots ((head + 1) % slots.length) tail window := by
  have hnone : slots.set head none = slots := by
    obtain ⟨hlt, hget⟩ := List.getElem?_eq_some_iff.mp h.head_eq
    have hsame := List.set_getElem_self hlt
    rwa [hget] at hsame
  have hadvance := h.advance
  rwa [hnone] at hadvance

/-- A slot of the window is emptied. -/
theorem clear (h : Spans slots head tail window) {j : Nat} (hj : j < window.length) :
    Spans (slots.set ((head + j) % slots.length) none) head tail (window.set j none) where
  layout := by
    have hle := h.length_le
    rw [rotate_set (by omega), h.layout, List.set_append_left _ _ hj, List.length_set,
      List.length_set]
  head_lt := by rw [List.length_set]; exact h.head_lt
  tail_eq := by rw [List.length_set, List.length_set]; exact h.tail_eq

/-- A hole at the end of the window is given up. -/
theorem retreat (h : Spans slots head tail (window ++ [none])) :
    Spans slots head ((head + window.length) % slots.length) window where
  layout := by
    have hle := h.length_le
    rw [List.length_append, List.length_singleton] at hle
    have hk : slots.length - window.length =
        slots.length - (window ++ [none]).length + 1 := by
      rw [List.length_append, List.length_singleton]
      omega
    rw [h.layout, hk, List.replicate_succ, List.append_assoc]
    rfl
  head_lt := h.head_lt
  tail_eq := rfl

end Spans

/-! ### What is left when a slot is cleared -/

variable [DecidableEq α]

theorem reduceOption_set_none {j : Nat} {a : α} (hj : window[j]? = some (some a))
    (hnodup : window.reduceOption.Nodup) :
    (window.set j none).reduceOption = window.reduceOption.erase a := by
  obtain ⟨hlt, hget⟩ := List.getElem?_eq_some_iff.mp hj
  have hsplit : window = window.take j ++ some a :: window.drop (j + 1) := by
    rw [← hget, List.getElem_cons_drop, List.take_append_drop]
  have hlen : (window.take j).length = j := by
    rw [List.length_take]
    omega
  generalize window.take j = before at hsplit hlen
  generalize window.drop (j + 1) = after at hsplit
  subst hsplit
  have hbefore : a ∉ before.reduceOption := by
    rw [List.reduceOption_append, List.reduceOption_cons_of_some] at hnodup
    intro hmem
    exact (List.nodup_append.mp hnodup).2.2 a hmem a (List.mem_cons_self ..) rfl
  rw [List.set_append_right _ _ hlen.le, hlen, Nat.sub_self, List.set_cons_zero,
    List.reduceOption_append, List.reduceOption_append, List.reduceOption_cons_of_none,
    List.reduceOption_cons_of_some, List.erase_append_right _ hbefore, List.erase_cons_head]

end RingBuffer
