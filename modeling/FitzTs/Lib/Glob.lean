import Mathlib.Data.List.Forall2
import Mathlib.Data.List.Infix
import Mathlib.Data.Set.Basic
import Mathlib.Data.Set.BooleanAlgebra
import Mathlib.Algebra.GroupWithZero.Nat
import Mathlib.Order.CompletePartialOrder
/-!
# FitzTs.Lib.Glob

**Glob patterns over an arbitrary alphabet**, and when one matches less than another.

A pattern is a list of tokens: a letter, any one letter, any number of letters. What it
matches depends on its *shape* alone: the letters it names, and for each gap before,
between and after them the number of single wildcards and whether there is a multiple one.

## Main result

* `language_ssubset_iff` — if `q` names no more letters than `p` and, where they name equally
  many, has no more single wildcards, then `q` matches strictly less than `p` exactly if its
  shape is strictly below that of `p`: the same letters, the same single wildcards in each gap,
  and multiple ones in fewer gaps.
-/

namespace Glob

/-- One position of a pattern. -/
inductive Token (α : Type*)
  | literal (a : α)
  /-- `*`. -/
  | one
  /-- `**`. -/
  | many
  deriving DecidableEq, Repr

variable {α : Type*}

/-- The pattern matches the sequence. -/
def Matches : List (Token α) → List α → Prop
  | [], [] => True
  | [], _ :: _ => False
  | .literal _ :: _, [] => False
  | .literal a :: p, b :: s => a = b ∧ Matches p s
  | .one :: _, [] => False
  | .one :: p, _ :: s => Matches p s
  | .many :: p, s => ∃ t ∈ s.tails, Matches p t

instance decidableMatches [DecidableEq α] : ∀ (p : List (Token α)) s, Decidable (Matches p s)
  | [], [] => isTrue trivial
  | [], _ :: _ => isFalse not_false
  | .literal _ :: _, [] => isFalse not_false
  | .literal _ :: p, _ :: s =>
    have := decidableMatches p s
    inferInstanceAs (Decidable (_ ∧ _))
  | .one :: _, [] => isFalse not_false
  | .one :: p, _ :: s => decidableMatches p s
  | .many :: p, s =>
    have := fun t => decidableMatches p t
    inferInstanceAs (Decidable (∃ t ∈ s.tails, Matches p t))

@[simp] theorem matches_nil {s : List α} : Matches [] s ↔ s = [] := by
  cases s <;> simp [Matches]

@[simp] theorem matches_literal {a : α} {p : List (Token α)} {s : List α} :
    Matches (.literal a :: p) s ↔ ∃ t, s = a :: t ∧ Matches p t := by
  cases s with
  | nil => simp [Matches]
  | cons b s =>
      simp only [Matches, List.cons.injEq]
      constructor
      · rintro ⟨rfl, h⟩
        exact ⟨s, ⟨rfl, rfl⟩, h⟩
      · rintro ⟨t, ⟨rfl, rfl⟩, h⟩
        exact ⟨rfl, h⟩

@[simp] theorem matches_one {p : List (Token α)} {s : List α} :
    Matches (.one :: p) s ↔ ∃ b t, s = b :: t ∧ Matches p t := by
  cases s <;> simp [Matches]

@[simp] theorem matches_many {p : List (Token α)} {s : List α} :
    Matches (.many :: p) s ↔ ∃ t, t <:+ s ∧ Matches p t := by
  simp [Matches]

/-! ### Shapes -/

/-- A gap between two letters of a pattern. -/
structure Gap where
  /-- Single wildcards. -/
  ones : ℕ
  /-- There is a multiple wildcard. -/
  isOpen : Bool
  deriving DecidableEq, Repr

/-- The gap can be filled by `n` letters. -/
def Gap.Accepts (g : Gap) (n : ℕ) : Prop := g.ones ≤ n ∧ (n = g.ones ∨ g.isOpen = true)

/-- The first gap, and the letters with the gap after each. -/
def shape : List (Token α) → Gap × List (α × Gap)
  | [] => (⟨0, false⟩, [])
  | .literal a :: p => (⟨0, false⟩, (a, (shape p).1) :: (shape p).2)
  | .one :: p => ({ (shape p).1 with ones := (shape p).1.ones + 1 }, (shape p).2)
  | .many :: p => ({ (shape p).1 with isOpen := true }, (shape p).2)

/-- A sequence fits a shape. -/
def Fits : Gap → List (α × Gap) → List α → Prop
  | g, [], s => g.Accepts s.length
  | g, (a, g') :: rest, s => ∃ u t, s = u ++ a :: t ∧ g.Accepts u.length ∧ Fits g' rest t

/-- A gap with one more single wildcard. -/
theorem fits_one {g : Gap} {rest : List (α × Gap)} {s : List α} :
    Fits { g with ones := g.ones + 1 } rest s ↔ ∃ b t, s = b :: t ∧ Fits g rest t := by
  have haccepts : ∀ n, Gap.Accepts { g with ones := g.ones + 1 } n ↔
      ∃ m, n = m + 1 ∧ g.Accepts m := by
    intro n
    unfold Gap.Accepts
    dsimp only
    constructor
    · rintro ⟨hle, hor⟩
      exact ⟨n - 1, by omega, by omega, hor.imp (fun h => by omega) id⟩
    · rintro ⟨m, rfl, hle, hor⟩
      exact ⟨by omega, hor.imp (fun h => by omega) id⟩
  cases rest with
  | nil =>
      unfold Fits
      rw [haccepts]
      constructor
      · rintro ⟨m, hm, h⟩
        obtain ⟨b, t, rfl⟩ := List.exists_cons_of_length_eq_add_one hm
        obtain rfl : t.length = m := Nat.succ.inj hm
        exact ⟨b, t, rfl, h⟩
      · rintro ⟨b, t, rfl, h⟩
        exact ⟨t.length, rfl, h⟩
  | cons x rest =>
      obtain ⟨a, g'⟩ := x
      unfold Fits
      constructor
      · rintro ⟨u, t, rfl, hu, ht⟩
        obtain ⟨m, hm, h⟩ := (haccepts _).mp hu
        obtain ⟨b, u', rfl⟩ := List.exists_cons_of_length_eq_add_one hm
        obtain rfl : u'.length = m := Nat.succ.inj hm
        exact ⟨b, u' ++ a :: t, rfl, u', t, rfl, h, ht⟩
      · rintro ⟨b, _, rfl, u, t, rfl, hu, ht⟩
        exact ⟨b :: u, t, rfl, (haccepts _).mpr ⟨u.length, rfl, hu⟩, ht⟩

/-- A gap with a multiple wildcard. -/
theorem fits_many {g : Gap} {rest : List (α × Gap)} {s : List α} :
    Fits { g with isOpen := true } rest s ↔ ∃ t, t <:+ s ∧ Fits g rest t := by
  have haccepts : ∀ n, Gap.Accepts { g with isOpen := true } n ↔ ∃ m ≤ n, g.Accepts m := by
    intro n
    unfold Gap.Accepts
    constructor
    · rintro ⟨hle, -⟩
      exact ⟨g.ones, hle, Nat.le_refl _, Or.inl rfl⟩
    · rintro ⟨m, hmn, hle, -⟩
      exact ⟨Nat.le_trans hle hmn, Or.inr rfl⟩
  cases rest with
  | nil =>
      unfold Fits
      rw [haccepts]
      constructor
      · rintro ⟨m, hm, h⟩
        refine ⟨s.drop (s.length - m), List.drop_suffix .., ?_⟩
        rw [List.length_drop]
        exact (Nat.sub_sub_self hm).symm ▸ h
      · rintro ⟨t, ht, h⟩
        exact ⟨t.length, ht.length_le, h⟩
  | cons x rest =>
      obtain ⟨a, g'⟩ := x
      unfold Fits
      constructor
      · rintro ⟨u, t, rfl, hu, ht⟩
        obtain ⟨m, hm, h⟩ := (haccepts _).mp hu
        refine ⟨u.drop (u.length - m) ++ a :: t, ?_, u.drop (u.length - m), t, rfl, ?_, ht⟩
        · obtain ⟨w, hw⟩ := List.drop_suffix (u.length - m) u
          exact ⟨w, by rw [← List.append_assoc, hw]⟩
        · rw [List.length_drop]
          exact (Nat.sub_sub_self hm).symm ▸ h
      · rintro ⟨_, ⟨u', rfl⟩, u, t, rfl, hu, ht⟩
        refine ⟨u' ++ u, t, by simp, (haccepts _).mpr ⟨u.length, by simp, hu⟩, ht⟩

/-- **A pattern matches what fits its shape.** -/
theorem matches_iff_fits {p : List (Token α)} {s : List α} :
    Matches p s ↔ Fits (shape p).1 (shape p).2 s := by
  induction p generalizing s with
  | nil => simp [shape, Fits, Gap.Accepts]
  | cons x p ih =>
      cases x with
      | literal a =>
          simp only [matches_literal, shape, Fits, ih]
          constructor
          · rintro ⟨t, rfl, h⟩
            exact ⟨[], t, rfl, by simp [Gap.Accepts], h⟩
          · rintro ⟨u, t, rfl, hu, h⟩
            obtain rfl : u = [] := by simpa [Gap.Accepts] using hu
            exact ⟨t, rfl, h⟩
      | one => simp only [matches_one, shape, fits_one, ih]
      | many => simp only [matches_many, shape, fits_many, ih]

/-! ### The order of shapes -/

/-- The same single wildcards, and a multiple one only where the other has one. -/
def Gap.Below (g g' : Gap) : Prop := g.ones = g'.ones ∧ (g.isOpen = true → g'.isOpen = true)

instance (g g' : Gap) : Decidable (g.Below g') := by
  unfold Gap.Below
  infer_instance

/-- The same letters, and gap by gap at most the wildcards of the other. -/
def ShapeBelow (a b : Gap × List (α × Gap)) : Prop :=
  a.1.Below b.1 ∧ List.Forall₂ (fun x y => x.1 = y.1 ∧ x.2.Below y.2) a.2 b.2

theorem Gap.Below.accepts {g g' : Gap} (h : g.Below g') {n : ℕ} (hn : g.Accepts n) :
    g'.Accepts n :=
  ⟨h.1 ▸ hn.1, hn.2.imp (fun heq => heq.trans h.1) h.2⟩

theorem Gap.Below.antisymm {g g' : Gap} (h : g.Below g') (h' : g'.Below g) : g = g' := by
  obtain ⟨ones, isOpen⟩ := g
  obtain ⟨ones', isOpen'⟩ := g'
  obtain ⟨heq, hopen⟩ := h
  obtain ⟨-, hopen'⟩ := h'
  simp only at heq hopen hopen'
  rw [heq, Bool.eq_iff_iff.mpr ⟨hopen, hopen'⟩]

theorem ShapeBelow.antisymm {a b : Gap × List (α × Gap)} (h : ShapeBelow a b)
    (h' : ShapeBelow b a) : a = b := by
  obtain ⟨g, l⟩ := a
  obtain ⟨g', l'⟩ := b
  obtain ⟨hg, hl⟩ := h
  obtain ⟨hg', hl'⟩ := h'
  have hlists : l = l' := by
    simp only at hl hl'
    clear hg hg'
    induction hl with
    | nil => rfl
    | cons hx _ ih =>
        cases hl' with
        | cons hx' hl' =>
            rw [ih hl', Prod.ext hx.1 (hx.2.antisymm hx'.2)]
  have hgaps : g = g' := hg.antisymm hg'
  rw [hgaps, hlists]

/-- What fits a shape fits the shapes above it. -/
theorem Fits.mono {g g' : Gap} {l l' : List (α × Gap)}
    (hl : List.Forall₂ (fun x y => x.1 = y.1 ∧ x.2.Below y.2) l l') (hg : g.Below g') {s : List α}
    (h : Fits g l s) : Fits g' l' s := by
  induction hl generalizing g g' s with
  | nil => exact hg.accepts h
  | @cons x y l l' hx _ ih =>
      obtain ⟨u, t, rfl, hu, ht⟩ := h
      exact ⟨u, t, by rw [hx.1], hg.accepts hu, ih hx.2 ht⟩

theorem Matches.mono {p q : List (Token α)} (hbelow : ShapeBelow (shape q) (shape p)) {s : List α}
    (h : Matches q s) : Matches p s :=
  matches_iff_fits.mpr ((matches_iff_fits.mp h).mono hbelow.2 hbelow.1)

/-! ### Sample sequences -/

/-- The letters a pattern names. -/
def literals : List (Token α) → List α
  | [] => []
  | .literal a :: p => a :: literals p
  | .one :: p => literals p
  | .many :: p => literals p

/-- The number of single wildcards. -/
def ones : List (Token α) → ℕ
  | [] => 0
  | .literal _ :: p => ones p
  | .one :: p => ones p + 1
  | .many :: p => ones p

@[simp] theorem literals_map_literal (s : List α) : literals (s.map .literal) = s := by
  induction s with
  | nil => rfl
  | cons a s ih => simp [literals, ih]

@[simp] theorem ones_map_literal (s : List α) : ones (s.map .literal) = 0 := by
  induction s with
  | nil => rfl
  | cons a s ih => simp [ones, ih]

theorem matches_map_literal (s : List α) : Matches (s.map .literal) s := by
  induction s with
  | nil => exact matches_nil.mpr rfl
  | cons a s ih => exact matches_literal.mpr ⟨s, rfl, ih⟩

/-- Letters and single wildcards take one letter each. -/
theorem Matches.length_le {p : List (Token α)} {s : List α} (h : Matches p s) :
    (literals p).length + ones p ≤ s.length := by
  induction p generalizing s with
  | nil => simp [literals, ones]
  | cons x p ih =>
      cases x with
      | literal a =>
          obtain ⟨t, rfl, ht⟩ := matches_literal.mp h
          have hle := ih ht
          simp only [literals, ones, List.length_cons]
          omega
      | one =>
          obtain ⟨b, t, rfl, ht⟩ := matches_one.mp h
          have hle := ih ht
          simp only [literals, ones, List.length_cons]
          omega
      | many =>
          obtain ⟨t, hsuffix, ht⟩ := matches_many.mp h
          exact Nat.le_trans (ih ht) hsuffix.length_le

/-- Without a multiple wildcard a pattern takes that many letters and no more. -/
theorem Matches.length_eq {p : List (Token α)} {s : List α} (h : Matches p s)
    (hmany : Token.many ∉ p) : (literals p).length + ones p = s.length := by
  induction p generalizing s with
  | nil => simp [matches_nil.mp h, literals, ones]
  | cons x p ih =>
      rw [List.mem_cons, not_or] at hmany
      cases x with
      | literal a =>
          obtain ⟨t, rfl, ht⟩ := matches_literal.mp h
          have heq := ih ht hmany.2
          simp only [literals, ones, List.length_cons]
          omega
      | one =>
          obtain ⟨b, t, rfl, ht⟩ := matches_one.mp h
          have heq := ih ht hmany.2
          simp only [literals, ones, List.length_cons]
          omega
      | many => exact absurd rfl hmany.1

/-- The lengths of what a pattern matches among the sequences of given letters. -/
theorem exists_matches_iff {letter : α → Prop} {f : α} (hf : letter f) {p : List (Token α)}
    (hp : ∀ a ∈ literals p, letter a) {n : ℕ} :
    (∃ s, s.length = n ∧ (∀ b ∈ s, letter b) ∧ Matches p s) ↔
      (literals p).length + ones p ≤ n ∧
        (Token.many ∈ p ∨ (literals p).length + ones p = n) := by
  constructor
  · rintro ⟨s, rfl, -, h⟩
    refine ⟨h.length_le, ?_⟩
    by_cases hmany : Token.many ∈ p
    · exact Or.inl hmany
    · exact Or.inr (h.length_eq hmany)
  · rintro ⟨hle, hlength⟩
    induction p generalizing n with
    | nil =>
        obtain rfl : 0 = n := by simpa [literals, ones] using hlength
        exact ⟨[], rfl, by simp, matches_nil.mpr rfl⟩
    | cons x p ih =>
        cases x with
        | literal a =>
            rw [literals, List.forall_mem_cons] at hp
            simp only [literals, ones, List.length_cons, List.mem_cons, reduceCtorEq, false_or]
              at hle hlength
            obtain ⟨n, rfl⟩ := Nat.exists_eq_add_of_le' (show 1 ≤ n by omega)
            obtain ⟨s, hs, hletters, hmatch⟩ := ih hp.2 (n := n) (by omega)
              (hlength.imp_right fun h => by omega)
            exact ⟨a :: s, by simp [hs], List.forall_mem_cons.mpr ⟨hp.1, hletters⟩,
              matches_literal.mpr ⟨s, rfl, hmatch⟩⟩
        | one =>
            simp only [literals, ones, List.mem_cons, reduceCtorEq, false_or] at hp hle hlength
            obtain ⟨n, rfl⟩ := Nat.exists_eq_add_of_le' (show 1 ≤ n by omega)
            obtain ⟨s, hs, hletters, hmatch⟩ := ih hp (n := n) (by omega)
              (hlength.imp_right fun h => by omega)
            exact ⟨f :: s, by simp [hs], List.forall_mem_cons.mpr ⟨hf, hletters⟩,
              matches_one.mpr ⟨f, s, rfl, hmatch⟩⟩
        | many =>
            -- the wildcard takes what is too much for the rest
            simp only [literals, ones] at hp hle
            obtain ⟨s, hs, hletters, hmatch⟩ := ih hp (n := (literals p).length + ones p)
              (Nat.le_refl _) (Or.inr rfl)
            refine ⟨List.replicate (n - s.length) f ++ s, ?_, ?_, ?_⟩
            · rw [List.length_append, List.length_replicate]
              omega
            · intro b hb
              rcases List.mem_append.mp hb with hb | hb
              · exact List.eq_of_mem_replicate hb ▸ hf
              · exact hletters b hb
            · exact matches_many.mpr ⟨s, List.suffix_append .., hmatch⟩

/-- A pattern that names as many letters as it takes is the sequence itself, unless it has a
multiple wildcard. -/
theorem Matches.eq_map_literal {p : List (Token α)} {s : List α} (h : Matches p s)
    (hlength : (literals p).length = s.length) (hmany : Token.many ∉ p) : p = s.map .literal := by
  induction p generalizing s with
  | nil => simp [matches_nil.mp h]
  | cons x p ih =>
      rw [List.mem_cons, not_or] at hmany
      cases x with
      | literal a =>
          obtain ⟨t, rfl, ht⟩ := matches_literal.mp h
          rw [List.map_cons, ih ht (Nat.succ.inj hlength) hmany.2]
      | one =>
          obtain ⟨b, t, rfl, ht⟩ := matches_one.mp h
          have hle := ht.length_le
          simp only [literals, List.length_cons] at hlength
          omega
      | many => exact absurd rfl hmany.1

@[simp] theorem shape_letters (p : List (Token α)) : (shape p).2.map Prod.fst = literals p := by
  induction p with
  | nil => rfl
  | cons x p ih => cases x <;> simp [shape, literals, ih]

theorem shape_ones (p : List (Token α)) :
    (shape p).1.ones + ((shape p).2.map fun x => x.2.ones).sum = ones p := by
  induction p with
  | nil => rfl
  | cons x p ih => cases x <;> simp [shape, ones, ← ih, Nat.add_right_comm]

/-- Each gap filled with copies of one letter, as many as `n` says. -/
def fill (f : α) (n : Gap → ℕ) (g : Gap) (l : List (α × Gap)) : List α :=
  List.replicate (n g) f ++ l.flatMap fun x => x.1 :: List.replicate (n x.2) f

theorem fill_cons (f : α) (n : Gap → ℕ) (g : Gap) (x : α × Gap) (l : List (α × Gap)) :
    fill f n g (x :: l) = List.replicate (n g) f ++ x.1 :: fill f n x.2 l := by
  simp [fill]

theorem mem_fill {f : α} {n : Gap → ℕ} {g : Gap} {l : List (α × Gap)} {b : α}
    (h : b ∈ fill f n g l) : b = f ∨ b ∈ l.map Prod.fst := by
  unfold fill at h
  rcases List.mem_append.mp h with h | h
  · exact Or.inl (List.eq_of_mem_replicate h)
  · obtain ⟨x, hx, hb⟩ := List.mem_flatMap.mp h
    rcases List.mem_cons.mp hb with rfl | hb
    · exact Or.inr (List.mem_map_of_mem hx)
    · exact Or.inl (List.eq_of_mem_replicate hb)

/-- A shape's own sample fits it. -/
theorem fits_fill {f : α} {n : Gap → ℕ} (hn : ∀ g : Gap, g.Accepts (n g)) (g : Gap)
    (l : List (α × Gap)) : Fits g l (fill f n g l) := by
  induction l generalizing g with
  | nil => simpa [Fits, fill] using hn g
  | cons x l ih =>
      rw [fill_cons]
      exact ⟨_, _, rfl, by simpa using hn g, ih x.2⟩

/-- The letters of a shape come in what fits it, in order. -/
theorem Fits.letters_sublist {g : Gap} {l : List (α × Gap)} {s : List α} (h : Fits g l s) :
    (l.map Prod.fst).Sublist s := by
  induction l generalizing g s with
  | nil => simp
  | cons x l ih =>
      obtain ⟨u, t, rfl, -, ht⟩ := h
      exact ((ih ht).cons_cons x.1).trans (List.sublist_append_right u _)

section Fresh

variable [DecidableEq α] {f : α}

theorem filter_fill {n : Gap → ℕ} {g : Gap} {l : List (α × Gap)} (hf : f ∉ l.map Prod.fst) :
    (fill f n g l).filter (· ≠ f) = l.map Prod.fst := by
  induction l generalizing g with
  | nil => simp [fill]
  | cons x l ih =>
      rw [List.map_cons, List.mem_cons, not_or] at hf
      rw [fill_cons, List.filter_append, List.filter_cons_of_pos (by simpa using Ne.symm hf.1),
        ih hf.2]
      simp

/-- A shape with as many letters that is fitted by the sample of another, taken with a letter
of neither, has the same letters, and its gaps accept those of the sample. -/
theorem Fits.of_fill {n : Gap → ℕ} {g g' : Gap} {l l' : List (α × Gap)} (hf : f ∉ l.map Prod.fst)
    (hf' : f ∉ l'.map Prod.fst) (hlength : l'.length = l.length) (h : Fits g' l' (fill f n g l)) :
    g'.Accepts (n g) ∧ List.Forall₂ (fun x y => x.1 = y.1 ∧ y.2.Accepts (n x.2)) l l' := by
  induction l generalizing g g' l' with
  | nil =>
      obtain rfl := List.length_eq_zero_iff.mp hlength
      exact ⟨by simpa [Fits, fill] using h, .nil⟩
  | cons x l ih =>
      obtain ⟨y, l', rfl⟩ := List.exists_cons_of_length_eq_add_one hlength
      have hfilter := filter_fill (n := n) (g := g) hf
      obtain ⟨u, t, hut, hu, ht⟩ := h
      rw [List.map_cons, List.mem_cons, not_or] at hf hf'
      -- the letters after the first one leave none for its gap
      have hleft : u.filter (· ≠ f) = [] := by
        have hsub : (l'.map Prod.fst).Sublist (t.filter (· ≠ f)) := by
          have := ht.letters_sublist.filter (· ≠ f)
          rwa [List.filter_eq_self.mpr fun b hb => by
            simpa using fun heq : b = f => hf'.2 (heq ▸ hb)] at this
        have hcount := congrArg List.length hfilter
        rw [hut, List.filter_append,
          List.filter_cons_of_pos (by simpa using Ne.symm hf'.1)] at hcount
        have hle := hsub.length_le
        simp only [List.length_append, List.length_cons, List.length_map] at hcount hle hlength
        exact List.length_eq_zero_iff.mp (by omega)
      have hcopies : u = List.replicate u.length f := List.eq_replicate_iff.mpr ⟨rfl, fun b hb => by
        by_contra hne
        exact List.not_mem_nil (hleft ▸ List.mem_filter.mpr ⟨hb, by simpa using hne⟩)⟩
      rw [fill_cons, hcopies] at hut
      have hlen : n g = u.length ∧ x.1 :: fill f n x.2 l = y.1 :: t := by
        have key : ∀ (a b : ℕ) {c d : α} {r s : List α}, c ≠ f → d ≠ f →
            List.replicate a f ++ c :: r = List.replicate b f ++ d :: s → a = b ∧
              c :: r = d :: s := by
          intro a
          induction a with
          | zero =>
              rintro (_ | b) c d r s hc hd heq
              · exact ⟨rfl, by simpa using heq⟩
              · simp [List.replicate_succ, hc] at heq
          | succ a ih =>
              rintro (_ | b) c d r s hc hd heq
              · simp [List.replicate_succ, Ne.symm hd] at heq
              · simp only [List.replicate_succ, List.cons_append, List.cons.injEq, true_and] at heq
                exact (ih b hc hd heq).imp (congrArg (· + 1)) id
        exact key _ _ (Ne.symm hf.1) (Ne.symm hf'.1) hut
      obtain ⟨hxy, rfl⟩ := List.cons.inj hlen.2
      obtain ⟨hgap, hrest⟩ := ih hf.2 hf'.2 (Nat.succ.inj hlength) ht
      exact ⟨hlen.1 ▸ hu, .cons ⟨hxy, hgap⟩ hrest⟩

end Fresh

/-! ### Inclusion -/

/-- What a pattern matches among the non-empty sequences of given letters. -/
def language (letter : α → Prop) (p : List (Token α)) : Set (List α) :=
  { s | s ≠ [] ∧ (∀ b ∈ s, letter b) ∧ Matches p s }

/-- As few letters as the gap takes. -/
def Gap.least (g : Gap) : ℕ := g.ones

/-- One letter more, where the gap takes it. -/
def Gap.more (g : Gap) : ℕ := g.ones + if g.isOpen then 1 else 0

theorem Gap.accepts_least (g : Gap) : g.Accepts g.least := ⟨Nat.le_refl _, Or.inl rfl⟩

theorem Gap.accepts_more (g : Gap) : g.Accepts g.more := by
  unfold Gap.Accepts Gap.more
  cases g.isOpen <;> simp

section Inclusion

variable {letter : α → Prop} {p q : List (Token α)} {f : α}

theorem fill_mem_language {n : Gap → ℕ} (hn : ∀ g : Gap, g.Accepts (n g)) (hletter : letter f)
    (hq : ∀ a ∈ literals q, letter a) (hne : fill f n (shape q).1 (shape q).2 ≠ []) :
    fill f n (shape q).1 (shape q).2 ∈ language letter q := by
  refine ⟨hne, fun b hb => ?_, matches_iff_fits.mpr (fits_fill hn _ _)⟩
  rcases mem_fill hb with rfl | hb
  · exact hletter
  · exact hq b (by simpa using hb)

theorem fill_more_ne_nil (hq : q ≠ []) : fill f Gap.more (shape q).1 (shape q).2 ≠ [] := by
  cases q with
  | nil => exact absurd rfl hq
  | cons x q =>
      cases x with
      | literal a => simp [shape, fill]
      | one => simp [shape, fill, Gap.more]
      | many => simp [shape, fill, Gap.more]

variable [DecidableEq α]

/-- A pattern that matches more names no more letters. -/
theorem literals_le_of_subset (hletter : letter f) (hfq : f ∉ literals q) (hfp : f ∉ literals p)
    (hq : ∀ a ∈ literals q, letter a) (hne : q ≠ [])
    (hsub : language letter q ⊆ language letter p) :
    (literals p).length ≤ (literals q).length := by
  have hmem := fill_mem_language Gap.accepts_more hletter hq (fill_more_ne_nil (f := f) hne)
  have hfits := matches_iff_fits.mp (hsub hmem).2.2
  have hletters := (hfits.letters_sublist).filter (· ≠ f)
  rw [shape_letters, filter_fill (by simpa using hfq), shape_letters,
    List.filter_eq_self.mpr fun b hb => by simpa using fun heq : b = f => hfp (heq ▸ hb)]
    at hletters
  exact hletters.length_le

omit [DecidableEq α] in
/-- Gaps that are no larger one by one, and no smaller in all, are equal. -/
private theorem ones_eq_of_sum {l l' : List (α × Gap)} {g g' : Gap} (hg : g'.ones ≤ g.ones)
    (hl : List.Forall₂ (fun x y => x.1 = y.1 ∧ y.2.ones ≤ x.2.ones) l l')
    (hsum : g.ones + (l.map fun x => x.2.ones).sum ≤ g'.ones + (l'.map fun x => x.2.ones).sum) :
    g.ones = g'.ones ∧ List.Forall₂ (fun x y => x.1 = y.1 ∧ x.2.ones = y.2.ones) l l' := by
  have hrest : (l'.map fun x => x.2.ones).sum ≤ (l.map fun x => x.2.ones).sum := by
    clear hsum
    induction hl with
    | nil => exact Nat.le_refl _
    | cons hx _ ih => simpa using Nat.add_le_add hx.2 ih
  induction hl generalizing g g' with
  | nil => exact ⟨Nat.le_antisymm (by simpa using hsum) hg, .nil⟩
  | @cons x y l l' hx hl ih =>
      have htail : (l'.map fun x => x.2.ones).sum ≤ (l.map fun x => x.2.ones).sum := by
        clear hsum hrest ih
        induction hl with
        | nil => exact Nat.le_refl _
        | cons hx _ ih => simpa using Nat.add_le_add hx.2 ih
      simp only [List.map_cons, List.sum_cons] at hsum hrest
      obtain ⟨hxy, hall⟩ := ih hx.2 (by omega) htail
      exact ⟨by omega, .cons ⟨hx.1, hxy⟩ hall⟩

/-- **Strict inclusion of patterns**, where `p` names at least as many letters as `q`, and has at
least as many single wildcards if it names equally many. -/
theorem language_ssubset_iff (hletter : letter f) (hfq : f ∉ literals q) (hfp : f ∉ literals p)
    (hq : ∀ a ∈ literals q, letter a) (hp : ∀ a ∈ literals p, letter a) (hqne : q ≠ [])
    (hpne : p ≠ [])
    (hrank : (literals q).length < (literals p).length ∨
      (literals q).length = (literals p).length ∧ ones q ≤ ones p) :
    language letter q ⊂ language letter p ↔
      ShapeBelow (shape q) (shape p) ∧ shape q ≠ shape p := by
  have hfq' : f ∉ (shape q).2.map Prod.fst := by simpa using hfq
  have hfp' : f ∉ (shape p).2.map Prod.fst := by simpa using hfp
  constructor
  · intro hsub
    have hle := literals_le_of_subset hletter hfq hfp hq hqne hsub.subset
    obtain ⟨hlength, hones⟩ := hrank.resolve_left (by omega)
    have hlength : (shape p).2.length = (shape q).2.length := by
      simpa [← shape_letters] using hlength.symm
    -- the least sample of `q` is not empty, since `q` does not match everything
    have hleast : fill f Gap.least (shape q).1 (shape q).2 ≠ [] := by
      intro hnil
      refine hsub.2 fun s hs => ⟨hs.1, hs.2.1, matches_iff_fits.mpr ?_⟩
      obtain ⟨hzero, htail⟩ := List.append_eq_nil_iff.mp hnil
      have htail : (shape q).2 = [] := by
        cases hshape : (shape q).2 with
        | nil => rfl
        | cons x l => simp [hshape] at htail
      have hzero : (shape q).1.ones = 0 := by simpa [Gap.least] using hzero
      have hopen : (shape q).1.isOpen = true := by
        by_contra hclosed
        refine fill_more_ne_nil (f := f) hqne ?_
        simp [fill, htail, Gap.more, hzero, hclosed]
      rw [htail]
      exact ⟨by omega, Or.inr hopen⟩
    have hmin := (matches_iff_fits.mp (hsub.subset
      (fill_mem_language Gap.accepts_least hletter hq hleast)).2.2).of_fill hfq' hfp' hlength
    have hmax := (matches_iff_fits.mp (hsub.subset (fill_mem_language Gap.accepts_more hletter hq
      (fill_more_ne_nil hqne))).2.2).of_fill hfq' hfp' hlength
    have hsum : (shape q).1.ones + ((shape q).2.map fun x => x.2.ones).sum ≤
        (shape p).1.ones + ((shape p).2.map fun x => x.2.ones).sum := by
      rwa [shape_ones, shape_ones]
    obtain ⟨hhead, htail⟩ := ones_eq_of_sum hmin.1.1 (hmin.2.imp fun _ _ h => ⟨h.1, h.2.1⟩) hsum
    have below : ∀ {g g' : Gap}, g.ones = g'.ones → g'.Accepts g.more → g.Below g' := by
      intro g g' hones haccepts
      refine ⟨hones, fun hopen => ?_⟩
      have hmore : g.more = g'.ones + 1 := by simp [Gap.more, hopen, hones]
      exact haccepts.2.resolve_left (by omega)
    refine ⟨⟨below hhead hmax.1, ?_⟩, fun heq => ?_⟩
    · have hmax' := hmax.2
      revert htail hmax'
      generalize (shape q).2 = l
      generalize (shape p).2 = l'
      intro htail hmax'
      induction htail with
      | nil => exact .nil
      | cons hx _ ih =>
          cases hmax' with
          | cons hy hmax' => exact .cons ⟨hx.1, below hx.2 hy.2⟩ (ih hmax')
    · refine hsub.2 fun s hs => ⟨hs.1, hs.2.1, ?_⟩
      rw [matches_iff_fits, heq]
      exact matches_iff_fits.mp hs.2.2
  · rintro ⟨hbelow, hne⟩
    refine ⟨fun s hs => ⟨hs.1, hs.2.1, hs.2.2.mono hbelow⟩, fun hback => hne ?_⟩
    have hlength : (shape q).2.length = (shape p).2.length := hbelow.2.length_eq
    have hmax := (matches_iff_fits.mp (hback (fill_mem_language Gap.accepts_more hletter hp
      (fill_more_ne_nil hpne))).2.2).of_fill hfp' hfq' hlength
    have below : ∀ {g g' : Gap}, g.Below g' → g.Accepts g'.more → g'.Below g := by
      intro g g' hgg' haccepts
      refine ⟨hgg'.1.symm, fun hopen => ?_⟩
      have hmore : g'.more = g.ones + 1 := by simp [Gap.more, hopen, hgg'.1]
      exact haccepts.2.resolve_left (by omega)
    refine hbelow.antisymm ⟨below hbelow.1 hmax.1, ?_⟩
    have hbelow' := hbelow.2
    have hmax' := hmax.2
    revert hbelow' hmax'
    generalize (shape q).2 = l
    generalize (shape p).2 = l'
    intro hbelow' hmax'
    induction hbelow' with
    | nil => exact .nil
    | cons hx _ ih =>
        cases hmax' with
        | cons hy hmax' => exact .cons ⟨hx.1.symm, below hx.2 hy.2⟩ (ih hmax')

end Inclusion

end Glob
