import Mathlib.Logic.Basic
import Mathlib.Data.List.Induction
/-!
# FitzTs.Lib.Machine

**Deterministic labelled machines and their runs.**

A `Machine` is an initial state and a partial step function; a run is a list of
events, folded from left to right. Nothing here mentions a particular program.

Two kinds of statement recur about a machine, and each has its rule here:

* *something holds after every run* — `runFrom_induction` (the motive sees the
  events so far) and `invariant` (it does not);
* *something holds after every run all of whose steps meet a condition* —
  `Guarded K`, with `Guarded.runFrom_induction` and `Guarded.invariant`.

`Throughout P` says that `P` holds in every state a run passes through.
`throughout_iff_guarded` relates the two exactly: if, from a state satisfying
`P`, a step keeps `P` iff it meets `K`, then a run keeps `P` throughout iff all
its steps meet `K`.
-/

/-- A deterministic machine: `step s e` is `none` when event `e` cannot happen
in state `s`. -/
structure Machine (σ ε : Type*) where
  /-- The initial state. -/
  init : σ
  /-- One step. -/
  step : σ → ε → Option σ

namespace Machine

variable {σ ε : Type*} (M : Machine σ ε)

/-- The state after the events `es` from `s`, if each of them can happen. -/
def runFrom : σ → List ε → Option σ
  | s, [] => some s
  | s, e :: es =>
    match M.step s e with
    | some s' => runFrom s' es
    | none => none

/-- The state after the events `es` from the initial state. -/
def run (es : List ε) : Option σ := M.runFrom M.init es

/-- Some run ends in `s`. -/
def Reachable (s : σ) : Prop := ∃ es, M.run es = some s

variable {M}

@[simp] theorem runFrom_nil {s : σ} : M.runFrom s [] = some s := rfl

theorem runFrom_cons {s : σ} {e : ε} {es : List ε} {t : σ} :
    M.runFrom s (e :: es) = some t ↔ ∃ s', M.step s e = some s' ∧ M.runFrom s' es = some t := by
  rw [runFrom]
  cases M.step s e <;> simp

theorem runFrom_append {s : σ} {es fs : List ε} {t : σ} :
    M.runFrom s (es ++ fs) = some t ↔
      ∃ s', M.runFrom s es = some s' ∧ M.runFrom s' fs = some t := by
  induction es generalizing s with
  | nil => simp
  | cons e es ih =>
      rw [List.cons_append, runFrom_cons]
      simp only [ih, runFrom_cons]
      constructor
      · rintro ⟨s₁, h₁, s₂, h₂, h₃⟩
        exact ⟨s₂, ⟨s₁, h₁, h₂⟩, h₃⟩
      · rintro ⟨s₂, ⟨s₁, h₁, h₂⟩, h₃⟩
        exact ⟨s₁, h₁, s₂, h₂, h₃⟩

theorem runFrom_snoc {s : σ} {es : List ε} {e : ε} {t : σ} :
    M.runFrom s (es ++ [e]) = some t ↔
      ∃ s', M.runFrom s es = some s' ∧ M.step s' e = some t := by
  simp [runFrom_append, runFrom_cons]

theorem Reachable.init : M.Reachable M.init := ⟨[], rfl⟩

theorem Reachable.runFrom {s t : σ} {es : List ε} (hs : M.Reachable s)
    (h : M.runFrom s es = some t) : M.Reachable t := by
  obtain ⟨pre, hpre⟩ := hs
  exact ⟨pre ++ es, runFrom_append.mpr ⟨s, hpre, h⟩⟩

theorem Reachable.step {s t : σ} {e : ε} (hs : M.Reachable s) (h : M.step s e = some t) :
    M.Reachable t :=
  have hrun : M.runFrom s [e] = some t := runFrom_cons.mpr ⟨t, h, rfl⟩
  hs.runFrom hrun

/-! ### Induction over runs -/

/-- Induction on the last event of a run. -/
theorem runFrom_induction {s : σ} {motive : List ε → σ → Prop} (nil : motive [] s)
    (snoc : ∀ es s₁ e s₂, M.runFrom s es = some s₁ → motive es s₁ →
      M.step s₁ e = some s₂ → motive (es ++ [e]) s₂)
    {es : List ε} {t : σ} (h : M.runFrom s es = some t) : motive es t := by
  induction es using List.reverseRecOn generalizing t with
  | nil => simpa using (Option.some.inj h) ▸ nil
  | append_singleton es e ih =>
      obtain ⟨s₁, h₁, h₂⟩ := runFrom_snoc.mp h
      exact snoc es s₁ e t h₁ (ih h₁) h₂

/-- What holds at the start and is kept by every step holds after every run. -/
theorem invariant {s : σ} {I : σ → Prop} (start : I s)
    (keep : ∀ s₁ e s₂, I s₁ → M.step s₁ e = some s₂ → I s₂)
    {es : List ε} {t : σ} (h : M.runFrom s es = some t) : I t :=
  runFrom_induction (motive := fun _ s => I s) start
    (fun _ s₁ e s₂ _ hI hst => keep s₁ e s₂ hI hst) h

theorem Reachable.invariant {I : σ → Prop} (start : I M.init)
    (keep : ∀ s₁ e s₂, I s₁ → M.step s₁ e = some s₂ → I s₂)
    {t : σ} (h : M.Reachable t) : I t := by
  obtain ⟨es, hes⟩ := h
  exact Machine.invariant start keep hes

/-! ### What has happened in a run -/

variable (M) in
/-- In the run `es` an event came in a state such that `P`. -/
def Occurs (P : σ → ε → Prop) (es : List ε) : Prop :=
  ∃ before e after s, es = before ++ e :: after ∧ M.run before = some s ∧ P s e

theorem Occurs.append {P : σ → ε → Prop} {es : List ε} (h : M.Occurs P es) (fs : List ε) :
    M.Occurs P (es ++ fs) := by
  obtain ⟨before, e, after, s, rfl, hrun, hP⟩ := h
  exact ⟨before, e, after ++ fs, s, by simp, hrun, hP⟩

theorem occurs_last {P : σ → ε → Prop} {es : List ε} {s : σ} {e : ε} (hrun : M.run es = some s)
    (hP : P s e) : M.Occurs P (es ++ [e]) := ⟨es, e, [], s, rfl, hrun, hP⟩

theorem not_occurs_nil {P : σ → ε → Prop} : ¬ M.Occurs P [] := by
  rintro ⟨before, e, after, s, heq, -⟩
  simp at heq

/-- What has happened after one more event: it had happened, or happens now. -/
theorem occurs_snoc {P : σ → ε → Prop} {es : List ε} {s : σ} {e : ε} (hrun : M.run es = some s) :
    M.Occurs P (es ++ [e]) ↔ M.Occurs P es ∨ P s e := by
  constructor
  · rintro ⟨before, e', after, s', heq, hrun', hP⟩
    rcases List.eq_nil_or_concat after with rfl | ⟨after, last, rfl⟩
    · obtain ⟨rfl, hlast⟩ := List.append_inj' heq rfl
      obtain rfl := List.singleton_inj.mp hlast
      rw [hrun] at hrun'
      obtain rfl := Option.some.inj hrun'
      exact Or.inr hP
    · rw [List.concat_eq_append, ← List.cons_append, ← List.append_assoc] at heq
      obtain ⟨rfl, -⟩ := List.append_inj' heq rfl
      exact Or.inl ⟨before, e', after, s', rfl, hrun', hP⟩
  · rintro (h | hP)
    · exact h.append [e]
    · exact occurs_last hrun hP

/-! ### Runs whose steps meet a condition -/

variable (M)

/-- Every step of the run `es` from `s` meets the condition `K`, which reads the
state before the step and the event. -/
def Guarded (K : σ → ε → Prop) : σ → List ε → Prop
  | _, [] => True
  | s, e :: es => K s e ∧ ∀ s', M.step s e = some s' → Guarded K s' es

/-- `P` holds in every state the run `es` from `s` passes through, `s` included. -/
def Throughout (P : σ → Prop) : σ → List ε → Prop
  | s, [] => P s
  | s, e :: es => P s ∧ ∀ s', M.step s e = some s' → Throughout P s' es

variable {M}

/-- Whether a given run meets a decidable condition can be computed. -/
instance decidableGuarded {K : σ → ε → Prop} [∀ s e, Decidable (K s e)] :
    ∀ s es, Decidable (M.Guarded K s es)
  | _, [] => isTrue trivial
  | s, e :: es =>
    match h : M.step s e with
    | none => decidable_of_iff (K s e) (by simp [Guarded, h])
    | some s' =>
      have := decidableGuarded (K := K) s' es
      decidable_of_iff (K s e ∧ M.Guarded K s' es) (by simp [Guarded, h])

@[simp] theorem guarded_nil {K : σ → ε → Prop} {s : σ} : M.Guarded K s [] := trivial

theorem guarded_append {K : σ → ε → Prop} {s : σ} {es fs : List ε} :
    M.Guarded K s (es ++ fs) ↔
      M.Guarded K s es ∧ ∀ s', M.runFrom s es = some s' → M.Guarded K s' fs := by
  induction es generalizing s with
  | nil => simp
  | cons e es ih =>
      simp only [List.cons_append, Guarded, ih, runFrom_cons]
      constructor
      · rintro ⟨hK, h⟩
        refine ⟨⟨hK, fun s' hs' => (h s' hs').1⟩, ?_⟩
        rintro t ⟨s', hs', ht⟩
        exact (h s' hs').2 t ht
      · rintro ⟨⟨hK, h⟩, h'⟩
        exact ⟨hK, fun s' hs' => ⟨h s' hs', fun t ht => h' t ⟨s', hs', ht⟩⟩⟩

theorem guarded_snoc {K : σ → ε → Prop} {s : σ} {es : List ε} {e : ε} :
    M.Guarded K s (es ++ [e]) ↔
      M.Guarded K s es ∧ ∀ s', M.runFrom s es = some s' → K s' e := by
  simp [guarded_append, Guarded]

theorem Guarded.mono {K K' : σ → ε → Prop} (hKK : ∀ s e, K s e → K' s e) {s : σ}
    {es : List ε} (h : M.Guarded K s es) : M.Guarded K' s es := by
  induction es generalizing s with
  | nil => trivial
  | cons e es ih => exact ⟨hKK s e h.1, fun s' hs' => ih (h.2 s' hs')⟩

/-- A run of events that meet the condition in every state. -/
theorem guarded_of_forall {K : σ → ε → Prop} {es : List ε} (hK : ∀ e ∈ es, ∀ s, K s e) {s : σ} :
    M.Guarded K s es := by
  induction es generalizing s with
  | nil => trivial
  | cons e es ih =>
      exact ⟨hK e (List.mem_cons_self ..) s,
        fun _ _ => ih fun x hx => hK x (List.mem_cons_of_mem _ hx)⟩

/-- Induction on the last event of a guarded run. -/
theorem Guarded.runFrom_induction {K : σ → ε → Prop} {s : σ} {motive : List ε → σ → Prop}
    (nil : motive [] s)
    (snoc : ∀ es s₁ e s₂, M.runFrom s es = some s₁ → motive es s₁ → K s₁ e →
      M.step s₁ e = some s₂ → motive (es ++ [e]) s₂)
    {es : List ε} {t : σ} (hK : M.Guarded K s es) (h : M.runFrom s es = some t) :
    motive es t := by
  have key : M.Guarded K s es → motive es t :=
    Machine.runFrom_induction (motive := fun es t => M.Guarded K s es → motive es t)
      (fun _ => nil)
      (fun es s₁ e s₂ hrun ih hst hg => by
        obtain ⟨hg₁, hK₁⟩ := guarded_snoc.mp hg
        exact snoc es s₁ e s₂ hrun (ih hg₁) (hK₁ s₁ hrun) hst) h
  exact key hK

/-- What holds at the start and is kept by every step meeting `K` holds after
every run guarded by `K`. -/
theorem Guarded.invariant {K : σ → ε → Prop} {s : σ} {I : σ → Prop} (start : I s)
    (keep : ∀ s₁ e s₂, I s₁ → K s₁ e → M.step s₁ e = some s₂ → I s₂)
    {es : List ε} {t : σ} (hK : M.Guarded K s es) (h : M.runFrom s es = some t) : I t :=
  Guarded.runFrom_induction (motive := fun _ s => I s) start
    (fun _ s₁ e s₂ _ hI hK hst => keep s₁ e s₂ hI hK hst) hK h

/-- What an invariant of the guarded steps implies holds throughout a guarded run. -/
theorem Guarded.throughout {K : σ → ε → Prop} {I P : σ → Prop}
    (keep : ∀ s₁ e s₂, I s₁ → K s₁ e → M.step s₁ e = some s₂ → I s₂) (implies : ∀ s, I s → P s)
    {s : σ} (start : I s) {es : List ε} (hK : M.Guarded K s es) : M.Throughout P s es := by
  induction es generalizing s with
  | nil => exact implies s start
  | cons e es ih =>
      exact ⟨implies s start, fun s' hs => ih (keep s e s' start hK.1 hs) (hK.2 s' hs)⟩

/-- If every step of a run keeps `P` exactly when it meets `K`, and never makes
`P` true, then `P` holds at the end exactly when it holds at the start and every
step meets `K`. `J` is what is known about the events of the run. -/
theorem runFrom_iff_guarded {K : σ → ε → Prop} {I P : σ → Prop} {J : ε → Prop}
    (keep : ∀ s₁ e s₂, I s₁ → J e → M.step s₁ e = some s₂ → I s₂)
    (exact' : ∀ s₁ e s₂, I s₁ → J e → M.step s₁ e = some s₂ → (P s₂ ↔ P s₁ ∧ K s₁ e))
    {s : σ} (start : I s) {es : List ε} (hJ : ∀ e ∈ es, J e) {t : σ}
    (h : M.runFrom s es = some t) : P t ↔ P s ∧ M.Guarded K s es := by
  induction es generalizing s with
  | nil =>
      obtain rfl := Option.some.inj h
      simp
  | cons e es ih =>
      obtain ⟨s', hst, hrest⟩ := runFrom_cons.mp h
      have he : J e := hJ e (List.mem_cons_self ..)
      rw [ih (keep s e s' start he hst) (fun x hx => hJ x (List.mem_cons_of_mem _ hx)) hrest,
        exact' s e s' start he hst]
      simp only [Guarded, hst, Option.some.injEq, forall_eq', and_assoc]

variable (M) in
/-- Every step of the run `es` from `s` satisfies `R`, which reads the states
before and after it. -/
def EachStep (R : σ → ε → σ → Prop) (s : σ) (es : List ε) : Prop :=
  M.Guarded (fun s e => ∀ s', M.step s e = some s' → R s e s') s es

/-- If a step satisfies `R` exactly when it meets `K`, then a run does so in
each step exactly when it is guarded by `K`. -/
theorem eachStep_iff_guarded {R : σ → ε → σ → Prop} {K : σ → ε → Prop} {I : σ → Prop}
    (keep : ∀ s₁ e s₂, I s₁ → M.step s₁ e = some s₂ → I s₂)
    (exact' : ∀ s₁ e s₂, I s₁ → M.step s₁ e = some s₂ → (R s₁ e s₂ ↔ K s₁ e))
    {s : σ} (start : I s) {es : List ε} {t : σ} (h : M.runFrom s es = some t) :
    M.EachStep R s es ↔ M.Guarded K s es := by
  induction es generalizing s with
  | nil => simp [EachStep]
  | cons e es ih =>
      obtain ⟨s', hst, hrest⟩ := runFrom_cons.mp h
      have htail := ih (keep s e s' start hst) hrest
      unfold EachStep at htail ⊢
      simp only [Guarded, hst, Option.some.injEq, forall_eq', htail,
        exact' s e s' start hst]

/-- If `I` implies `P`, a step that meets `K` keeps `I`, and a step from `I` that does not meet
`K` breaks `P`, then a run keeps `P` throughout exactly when all its steps meet `K`. -/
theorem throughout_iff_guarded_of_invariant {K : σ → ε → Prop} {I P : σ → Prop}
    (implies : ∀ s, I s → P s) (keep : ∀ s₁ e s₂, I s₁ → K s₁ e → M.step s₁ e = some s₂ → I s₂)
    (breaks : ∀ s₁ e s₂, I s₁ → ¬ K s₁ e → M.step s₁ e = some s₂ → ¬ P s₂)
    {s : σ} (start : I s) {es : List ε} {t : σ} (h : M.runFrom s es = some t) :
    M.Throughout P s es ↔ M.Guarded K s es := by
  induction es generalizing s with
  | nil => simpa [Throughout] using implies s start
  | cons e es ih =>
      obtain ⟨s', hst, hrest⟩ := runFrom_cons.mp h
      have head : M.Throughout P s' es → P s' := by cases es <;> simp +contextual [Throughout]
      simp only [Throughout, Guarded, hst, Option.some.injEq, forall_eq', implies s start, true_and]
      constructor
      · intro hth
        have hK : K s e := by
          by_contra hK
          exact breaks s e s' start hK hst (head hth)
        exact ⟨hK, (ih (keep s e s' start hK hst) hrest).mp hth⟩
      · intro ⟨hK, hg⟩
        exact (ih (keep s e s' start hK hst) hrest).mpr hg

/-- If a step from a `P`-state keeps `P` exactly when it meets `K`, a run keeps
`P` throughout exactly when all its steps meet `K`. -/
theorem throughout_iff_guarded {K : σ → ε → Prop} {I P : σ → Prop}
    (keep : ∀ s₁ e s₂, I s₁ → M.step s₁ e = some s₂ → I s₂)
    (exact' : ∀ s₁ e s₂, I s₁ → P s₁ → M.step s₁ e = some s₂ → (P s₂ ↔ K s₁ e))
    {s : σ} (start : I s) (hP : P s) {es : List ε} {t : σ} (h : M.runFrom s es = some t) :
    M.Throughout P s es ↔ M.Guarded K s es := by
  refine throughout_iff_guarded_of_invariant (I := fun s => I s ∧ P s) (fun _ hs => hs.2) ?_ ?_
    ⟨start, hP⟩ h
  · intro s₁ e s₂ hs hK hst
    exact ⟨keep s₁ e s₂ hs.1 hst, (exact' s₁ e s₂ hs.1 hs.2 hst).mpr hK⟩
  · intro s₁ e s₂ hs hK hst hP'
    exact hK ((exact' s₁ e s₂ hs.1 hs.2 hst).mp hP')

end Machine
