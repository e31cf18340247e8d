import Mathlib.Order.WellFounded
import Mathlib.Data.Sum.Basic
/-!
# FitzTs.Lib.Loop

**Loops and their total correctness.** A loop is a function that does one round: it goes on with
the next state, or it returns. `Loop.total` is the rule for it: an invariant that every round keeps
and that gives the postcondition where the loop returns, and a well-founded relation along which
the states decrease.
-/

namespace Loop

variable {σ β : Type*} {round : σ → σ ⊕ β} {s s' : σ} {b b' : β} {n m : ℕ}

/-- What the loop returns from `s`, if it does so within `n` rounds. -/
def run (round : σ → σ ⊕ β) : ℕ → σ → Option β
  | 0, _ => none
  | n + 1, s =>
    match round s with
    | .inl s' => run round n s'
    | .inr b => some b

/-- The loop returns `b`. -/
def Returns (round : σ → σ ⊕ β) (s : σ) (b : β) : Prop := ∃ n, run round n s = some b

theorem run_next (h : round s = .inl s') : run round (n + 1) s = run round n s' := by
  simp only [run, h]

theorem run_return (h : round s = .inr b) : run round (n + 1) s = some b := by
  simp only [run, h]

theorem Returns.next (h : round s = .inl s') (hs : Returns round s' b) : Returns round s b := by
  obtain ⟨n, hn⟩ := hs
  exact ⟨n + 1, (run_next h).trans hn⟩

theorem Returns.now (h : round s = .inr b) : Returns round s b := ⟨1, run_return h⟩

/-- More rounds do not change what is returned. -/
theorem run_mono (h : run round n s = some b) (hle : n ≤ m) : run round m s = some b := by
  induction n generalizing m s with
  | zero => cases h
  | succ n ih =>
      obtain ⟨m, rfl⟩ := Nat.exists_eq_add_of_le' hle
      cases hround : round s with
      | inl s' =>
          rw [show m + (n + 1) = m + n + 1 from rfl, run_next hround]
          rw [run_next hround] at h
          exact ih h (Nat.le_add_left ..)
      | inr b' =>
          rw [show m + (n + 1) = m + n + 1 from rfl, run_return hround]
          rw [run_return hround] at h
          exact h

theorem Returns.unique (h : Returns round s b) (h' : Returns round s b') : b = b' := by
  obtain ⟨n, hn⟩ := h
  obtain ⟨m, hm⟩ := h'
  have hmax := run_mono hn (Nat.le_max_left n m)
  rw [run_mono hm (Nat.le_max_right n m)] at hmax
  exact (Option.some.inj hmax).symm

/-- **Total correctness.** -/
theorem total {I : σ → Prop} {post : β → Prop} {r : σ → σ → Prop} (hwf : WellFounded r)
    (hnext : ∀ s s', I s → round s = .inl s' → I s' ∧ r s' s)
    (hreturn : ∀ s b, I s → round s = .inr b → post b) (hs : I s) :
    ∃ b, Returns round s b ∧ post b := by
  induction s using hwf.induction with
  | _ s ih =>
      cases hround : round s with
      | inl s' =>
          obtain ⟨hs', hdecreases⟩ := hnext s s' hs hround
          obtain ⟨b, hb, hpost⟩ := ih s' hdecreases hs'
          exact ⟨b, hb.next hround, hpost⟩
      | inr b => exact ⟨b, .now hround, hreturn s b hs hround⟩

/-- A loop that counts down to its end. -/
theorem total_of_measure {I : σ → Prop} {post : β → Prop} (measure : σ → ℕ)
    (hnext : ∀ s s', I s → round s = .inl s' → I s' ∧ measure s' < measure s)
    (hreturn : ∀ s b, I s → round s = .inr b → post b) (hs : I s) :
    ∃ b, Returns round s b ∧ post b :=
  total (InvImage.wf measure Nat.lt_wfRel.wf) hnext hreturn hs

end Loop
