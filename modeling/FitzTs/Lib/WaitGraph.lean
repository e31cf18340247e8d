import Mathlib.Logic.Relation
/-!
# FitzTs.Lib.WaitGraph

**Who waits for whom**, where each waits for at most one other.

A wait graph is a partial function `f`: `f a = some b` says that `a` waits for `b`. `Ends f a` says
that the chain of those `a` waits for comes to an end, with one that waits for nobody. Nothing here
mentions a particular program.

Two changes keep it that way: one node stops waiting (`Ends.release`), and one node starts to wait
for another that does not wait for it (`Ends.join`). A node that closes a circle waits for ever, and
so does whoever it waits for (`ne_none_of_circle`).
-/

namespace WaitGraph

variable {α : Type*} {f g : α → Option α} {a b d x : α}

/-- `a` waits for `b`, itself or through others, or is `b`. -/
def Waits (f : α → Option α) : α → α → Prop := Relation.ReflTransGen fun a b => f a = some b

/-- The chain of those `a` waits for comes to an end. -/
def Ends (f : α → Option α) (a : α) : Prop := Acc (fun b a => f a = some b) a

theorem ends_of_none (h : f a = none) : Ends f a := by
  refine ⟨a, fun b hb => ?_⟩
  rw [h] at hb
  cases hb

theorem Ends.exists_last (h : Ends f a) : ∃ b, Waits f a b ∧ f b = none := by
  induction h with
  | intro a _ ih =>
      cases hf : f a with
      | none => exact ⟨a, .refl, hf⟩
      | some b =>
          obtain ⟨c, hwaits, hnone⟩ := ih b hf
          exact ⟨c, .head hf hwaits, hnone⟩

/-- `x` waits for nobody; the others wait as before, or no longer, or for `x`. -/
theorem Ends.release (h : Ends f a) (hx : g x = none)
    (hothers : ∀ a, a ≠ x → g a = f a ∨ g a = none ∨ g a = some x) : Ends g a := by
  induction h with
  | intro a _ ih =>
      refine ⟨a, fun b hb => ?_⟩
      by_cases ha : a = x
      · rw [ha, hx] at hb
        cases hb
      · rcases hothers a ha with hsame | hnone | hjoins
        · exact ih b (hsame.symm.trans hb)
        · rw [hnone] at hb
          cases hb
        · obtain rfl := Option.some.inj (hjoins.symm.trans hb)
          exact ends_of_none hx

theorem Ends.congr (h : Ends f a) (hsame : ∀ a, g a = f a) : Ends g a := by
  obtain rfl : g = f := funext hsame
  exact h

/-- What does not wait for `x` does not notice what `x` does. -/
theorem Ends.of_apart (h : Ends f a) (hothers : ∀ a, a ≠ x → g a = f a)
    (hapart : ¬ Waits f a x) : Ends g a := by
  induction h with
  | intro a _ ih =>
      have ha : a ≠ x := fun heq => hapart (heq ▸ .refl)
      refine ⟨a, fun b hb => ?_⟩
      have hf : f a = some b := (hothers a ha).symm.trans hb
      exact ih b hf fun hwaits => hapart (.head hf hwaits)

/-- `x` starts to wait for `d`, which does not wait for `x`. -/
theorem Ends.join (h : Ends f a) (hall : Ends f d) (hx : g x = some d)
    (hothers : ∀ a, a ≠ x → g a = f a) (hapart : ¬ Waits f d x) : Ends g a := by
  have hjoined : Ends g x := by
    refine ⟨x, fun b hb => ?_⟩
    obtain rfl := Option.some.inj (hx.symm.trans hb)
    exact hall.of_apart hothers hapart
  induction h with
  | intro a _ ih =>
      by_cases ha : a = x
      · exact ha ▸ hjoined
      · refine ⟨a, fun b hb => ?_⟩
        exact ih b ((hothers a ha).symm.trans hb)

/-- On a way to `x` nobody's waiting matters but that of the others. -/
theorem Waits.of_others (h : Waits f a x) (hothers : ∀ a, a ≠ x → g a = f a) : Waits g a x := by
  induction h using Relation.ReflTransGen.head_induction_on with
  | refl => exact .refl
  | @head a b hab _ ih =>
      by_cases ha : a = x
      · rw [ha]
        exact .refl
      · exact .head ((hothers a ha).trans hab) ih

/-- A node that waits for one that waits for it: so does everybody it waits for. -/
theorem ne_none_of_circle (hx : f x = some d) (hback : Waits f d x) (h : Waits f x a) :
    f a ≠ none := by
  have hreturns : Waits f a x := by
    induction h with
    | refl => exact .refl
    | @tail b c _ hbc ih =>
        rcases Relation.ReflTransGen.cases_head ih with rfl | ⟨c', hc', hwaits⟩
        · obtain rfl := Option.some.inj (hx.symm.trans hbc)
          exact hback
        · obtain rfl := Option.some.inj (hc'.symm.trans hbc)
          exact hwaits
  rcases Relation.ReflTransGen.cases_head hreturns with rfl | ⟨b, hb, -⟩
  · rw [hx]
    exact Option.some_ne_none d
  · rw [hb]
    exact Option.some_ne_none b

/-- A rank that falls from each to the one it waits for. -/
theorem Waits.rank_le {rank : α → Nat} (hrank : ∀ a b, f a = some b → rank b < rank a)
    (h : Waits f a b) : rank b ≤ rank a := by
  induction h with
  | refl => exact Nat.le_refl _
  | @tail b c _ hbc ih => exact Nat.le_trans (Nat.le_of_lt (hrank b c hbc)) ih

end WaitGraph
