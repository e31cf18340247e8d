import Mathlib.Data.List.Basic
import Mathlib.Order.Defs.Unbundled
/-!
# FitzTs.Lib.Keyset

**Keyset pagination.** A list whose keys stand in a strict order is read page by page; each page is
a nonempty beginning of what the range still selects, and the next range begins strictly after its
last key. What that range selects is what was left (`select_after`), so the pages together are the
list selected by the first range.
-/

namespace Keyset

variable {α κ : Type*}

/-- A range of keys, in the direction of the order. -/
structure Range (κ : Type*) where
  start : Option κ
  startExclusive : Bool
  stop : Option κ

/-- The range that goes on strictly after a key. -/
def Range.after (r : Range κ) (k : κ) : Range κ :=
  { r with start := some k, startExclusive := true }

section

variable (before : κ → κ → Prop) [DecidableRel before]

def Range.contains (r : Range κ) (k : κ) : Bool :=
  r.start.all (fun start => if r.startExclusive then before start k else ¬ before k start) &&
    r.stop.all fun stop => before k stop

/-- What a range selects. -/
def select (key : α → κ) (l : List α) (r : Range κ) : List α :=
  l.filter fun a => r.contains before (key a)

end

/-- A page of what is left: a beginning of it, empty only if nothing is left. -/
structure IsPage (left entries : List α) (hasMore : Bool) : Prop where
  isPrefix : entries <+: left
  hasMore_iff : hasMore = true ↔ entries ≠ left
  nonempty : entries = [] → left = []

instance [DecidableEq α] {left entries : List α} {hasMore : Bool} :
    Decidable (IsPage left entries hasMore) :=
  decidable_of_iff
    (entries <+: left ∧ (hasMore = true ↔ entries ≠ left) ∧ (entries = [] → left = []))
    ⟨fun ⟨h₁, h₂, h₃⟩ => ⟨h₁, h₂, h₃⟩, fun ⟨h₁, h₂, h₃⟩ => ⟨h₁, h₂, h₃⟩⟩

variable {before : κ → κ → Prop} [DecidableRel before] {key : α → κ} {l : List α} {r : Range κ}

/-- What comes after a key that the range contains is in the range up to its end. -/
theorem contains_after [IsTrans κ before] [Std.Irrefl before] {k k' : κ}
    (hk : r.contains before k = true) :
    (r.after k).contains before k' = (r.contains before k' && decide (before k k')) := by
  obtain ⟨start, startExclusive, stop⟩ := r
  simp only [Range.contains, Range.after, Option.all_some, if_true, Bool.and_eq_true] at hk ⊢
  by_cases hbefore : before k k'
  · have hstart : start.all (fun start =>
        if startExclusive then before start k' else ¬ before k' start) = true := by
      cases start with
      | none => rfl
      | some start =>
          have hstart := hk.1
          cases startExclusive with
          | true =>
              simp only [Option.all_some, if_true, decide_eq_true_eq] at hstart ⊢
              exact IsTrans.trans _ _ _ hstart hbefore
          | false =>
              simp only [Option.all_some, Bool.false_eq_true, if_false, decide_eq_true_eq]
                at hstart ⊢
              exact fun hlt => hstart (IsTrans.trans _ _ _ hbefore hlt)
    rw [hstart, decide_eq_true hbefore, Bool.true_and, Bool.and_true]
  · simp [hbefore]

/-- **What is left after a page** is what the range after its last key selects. -/
theorem select_after [IsTrans κ before] [Std.Irrefl before] {page rest : List α} {last : α}
    (hl : l.Pairwise fun a b => before (key a) (key b))
    (h : select before key l r = page ++ last :: rest) :
    select before key l (r.after (key last)) = rest := by
  have hlast : r.contains before (key last) = true := by
    have hmem : last ∈ select before key l r := by rw [h]; simp
    exact (List.mem_filter.mp hmem).2
  have hsplit : select before key l (r.after (key last)) =
      (select before key l r).filter fun a => before (key last) (key a) := by
    unfold select
    rw [List.filter_filter]
    exact List.filter_congr fun a _ => by rw [contains_after hlast, Bool.and_comm]
  have hpairs : (page ++ last :: rest).Pairwise fun a b => before (key a) (key b) :=
    h ▸ hl.sublist List.filter_sublist
  obtain ⟨-, htail, hcross⟩ := List.pairwise_append.mp hpairs
  rw [hsplit, h, List.filter_append, List.filter_cons]
  -- the page stands before its last key, the rest after it
  have hpage : page.filter (fun a => decide (before (key last) (key a))) = [] := by
    refine List.filter_eq_nil_iff.mpr fun a ha hafter => ?_
    exact irrefl _ (IsTrans.trans _ _ _ (of_decide_eq_true hafter) (hcross a ha last (by simp)))
  have hrest : rest.filter (fun a => decide (before (key last) (key a))) = rest :=
    List.filter_eq_self.mpr fun a ha => decide_eq_true ((List.pairwise_cons.mp htail).1 a ha)
  rw [hpage, hrest, if_neg (by simp [irrefl])]
  rfl

end Keyset
