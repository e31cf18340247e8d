import Mathlib.Data.List.Induction
import Mathlib.Data.List.Nodup
/-!
# FitzTs.Lib.OrderedMap

**Insertion-ordered maps**, the collection a JavaScript `Map` is: one entry per
key, enumerated in the order in which the keys were first set. Setting a present
key keeps its place; deleting a key and setting it again moves it to the end.

The entries carry the proof that no key occurs twice, so a lookup is membership
(`get?_eq_some`), and every law below is read off that.
-/

/-- A map from `κ` to `ν` that remembers the order in which keys were first set. -/
structure OrderedMap (κ ν : Type*) where
  /-- The entries, oldest first. -/
  entries : List (κ × ν)
  /-- No key has two entries. -/
  nodup : (entries.map Prod.fst).Nodup

namespace OrderedMap

variable {κ ν : Type*}

instance : EmptyCollection (OrderedMap κ ν) := ⟨⟨[], List.nodup_nil⟩⟩

@[simp] theorem entries_empty : (∅ : OrderedMap κ ν).entries = [] := rfl

/-- The values, in key order. -/
def values (m : OrderedMap κ ν) : List ν := m.entries.map Prod.snd

@[simp] theorem values_empty : (∅ : OrderedMap κ ν).values = [] := rfl

/-- The keys, in the order in which they were first set. -/
def keys (m : OrderedMap κ ν) : List κ := m.entries.map Prod.fst

variable [DecidableEq κ]

/-- The value stored under `k`. -/
def get? (m : OrderedMap κ ν) (k : κ) : Option ν :=
  (m.entries.find? fun p => p.1 = k).map Prod.snd

/-- The entries with the value under a present key `k` replaced by `v`. -/
private def replaceEntry (k : κ) (v : ν) (p : κ × ν) : κ × ν :=
  if p.1 = k then (k, v) else p

private theorem replaceEntry_fst (k : κ) (v : ν) (p : κ × ν) :
    (replaceEntry k v p).1 = p.1 := by
  unfold replaceEntry
  split
  · rename_i h; exact h.symm
  · rfl

private theorem map_replaceEntry_keys (k : κ) (v : ν) (l : List (κ × ν)) :
    (l.map (replaceEntry k v)).map Prod.fst = l.map Prod.fst := by
  simp [List.map_map, Function.comp_def, replaceEntry_fst]

/-- Store `v` under `k`: in place when `k` is present, at the end otherwise. -/
def set (m : OrderedMap κ ν) (k : κ) (v : ν) : OrderedMap κ ν :=
  if h : k ∈ m.entries.map Prod.fst then
    ⟨m.entries.map (replaceEntry k v), by rw [map_replaceEntry_keys]; exact m.nodup⟩
  else
    ⟨m.entries ++ [(k, v)], by
      rw [List.map_append, List.nodup_append]
      refine ⟨m.nodup, by simp, ?_⟩
      rintro a ha b hb rfl
      simp only [List.map_cons, List.map_nil, List.mem_singleton] at hb
      exact h (hb ▸ ha)⟩

/-- Remove the entry of `k`, if there is one. -/
def delete (m : OrderedMap κ ν) (k : κ) : OrderedMap κ ν :=
  ⟨m.entries.filter fun p => p.1 ≠ k, m.nodup.sublist (List.filter_sublist.map _)⟩

/-! ### Lookups as membership -/

theorem get?_eq_some {m : OrderedMap κ ν} {k : κ} {v : ν} :
    m.get? k = some v ↔ (k, v) ∈ m.entries := by
  unfold get?
  obtain ⟨l, hl⟩ := m
  induction l with
  | nil => simp
  | cons p l ih =>
      obtain ⟨k', v'⟩ := p
      rw [List.map_cons, List.nodup_cons] at hl
      by_cases hk : k' = k
      · subst hk
        rw [List.find?_cons_of_pos (by simp)]
        have hnot : ∀ w, (k', w) ∉ l := fun w hw =>
          hl.1 (List.mem_map.mpr ⟨(k', w), hw, rfl⟩)
        simp [hnot, eq_comm]
      · rw [List.find?_cons_of_neg (by simpa using hk), ih hl.2]
        simp [Ne.symm hk]

theorem mem_values {m : OrderedMap κ ν} {v : ν} : v ∈ m.values ↔ ∃ k, m.get? k = some v := by
  simp only [values, List.mem_map, get?_eq_some]
  constructor
  · rintro ⟨⟨k, v'⟩, h, rfl⟩; exact ⟨k, h⟩
  · rintro ⟨k, h⟩; exact ⟨(k, v), h, rfl⟩

private theorem ext_get? {a b : Option ν} (h : ∀ v, a = some v ↔ b = some v) : a = b := by
  cases a with
  | none =>
      cases b with
      | none => rfl
      | some w => exact absurd ((h w).mpr rfl) (by simp)
  | some v => exact ((h v).mp rfl).symm

/-! ### The laws of `get?` -/

@[simp] theorem get?_empty (k : κ) : (∅ : OrderedMap κ ν).get? k = none := rfl

private theorem mem_entries_set {m : OrderedMap κ ν} {k k' : κ} {v v' : ν} :
    (k', v') ∈ (m.set k v).entries ↔
      if k' = k then v' = v else (k', v') ∈ m.entries := by
  unfold set
  split
  · rename_i hmem
    obtain ⟨⟨k₀, w⟩, hw, rfl⟩ := List.mem_map.mp hmem
    simp only [List.mem_map, replaceEntry]
    by_cases hk : k' = k₀
    · subst hk
      simp only [if_true]
      constructor
      · rintro ⟨⟨a, b⟩, -, hab⟩
        split at hab
        · exact ((Prod.mk.inj hab).2).symm
        · rename_i hne; exact absurd (Prod.mk.inj hab).1 hne
      · rintro rfl; exact ⟨(k', w), hw, by simp⟩
    · simp only [if_neg hk]
      constructor
      · rintro ⟨⟨a, b⟩, hab, heq⟩
        split at heq
        · exact absurd (Prod.mk.inj heq).1.symm hk
        · exact heq ▸ hab
      · intro h; exact ⟨(k', v'), h, by simp [hk]⟩
  · rename_i hmem
    by_cases hk : k' = k
    · subst hk
      have hnot : (k', v') ∉ m.entries := fun h => hmem (List.mem_map.mpr ⟨_, h, rfl⟩)
      simp [hnot]
    · simp [hk]

@[simp] theorem get?_set_self (m : OrderedMap κ ν) (k : κ) (v : ν) :
    (m.set k v).get? k = some v := by
  rw [get?_eq_some, mem_entries_set]; simp

theorem get?_set_of_ne (m : OrderedMap κ ν) {k k' : κ} (v : ν) (h : k' ≠ k) :
    (m.set k v).get? k' = m.get? k' :=
  ext_get? fun w => by rw [get?_eq_some, get?_eq_some, mem_entries_set, if_neg h]

theorem get?_set (m : OrderedMap κ ν) (k k' : κ) (v : ν) :
    (m.set k v).get? k' = if k' = k then some v else m.get? k' := by
  split
  · rename_i h; rw [h, get?_set_self]
  · rename_i h; exact get?_set_of_ne m v h

theorem get?_delete (m : OrderedMap κ ν) (k k' : κ) :
    (m.delete k).get? k' = if k' = k then none else m.get? k' := by
  refine ext_get? fun w => ?_
  rw [get?_eq_some]
  by_cases h : k' = k <;> simp [delete, h, get?_eq_some]

@[simp] theorem get?_delete_self (m : OrderedMap κ ν) (k : κ) : (m.delete k).get? k = none := by
  simp [get?_delete]

theorem get?_delete_of_ne (m : OrderedMap κ ν) {k k' : κ} (h : k' ≠ k) :
    (m.delete k).get? k' = m.get? k' := by
  simp [get?_delete, h]

/-- What is found after setting entries one after the other is one of them, or was
there before. -/
theorem of_get?_foldl_set {l : List (κ × ν)} {m : OrderedMap κ ν} {k : κ} {v : ν}
    (h : (l.foldl (fun m e => m.set e.1 e.2) m).get? k = some v) :
    (k, v) ∈ l ∨ m.get? k = some v := by
  induction l generalizing m with
  | nil => exact Or.inr h
  | cons e l ih =>
      rw [List.foldl_cons] at h
      rcases ih h with hmem | hget
      · exact Or.inl (List.mem_cons_of_mem _ hmem)
      · rw [get?_set] at hget
        split at hget
        · rename_i hk
          cases hget
          exact Or.inl (hk ▸ List.mem_cons_self ..)
        · exact Or.inr hget

/-- Setting entries with distinct keys one after the other: each is found, and the
other keys keep what they had. -/
theorem get?_foldl_set {l : List (κ × ν)} (hl : (l.map Prod.fst).Nodup) (m : OrderedMap κ ν)
    {k : κ} {v : ν} : (l.foldl (fun m e => m.set e.1 e.2) m).get? k = some v ↔
      (k, v) ∈ l ∨ k ∉ l.map Prod.fst ∧ m.get? k = some v := by
  induction l generalizing m with
  | nil => simp
  | cons e l ih =>
      obtain ⟨k₀, v₀⟩ := e
      rw [List.map_cons, List.nodup_cons] at hl
      rw [List.foldl_cons, ih hl.2, get?_set]
      by_cases hk : k = k₀
      · subst hk
        have hnot : ∀ w, (k, w) ∉ l := fun w hw => hl.1 (List.mem_map.mpr ⟨(k, w), hw, rfl⟩)
        simp [hnot, hl.1, eq_comm]
      · simp [hk]

/-- The map with the given entries. -/
theorem get?_foldl_set_empty {l : List (κ × ν)} (hl : (l.map Prod.fst).Nodup) {k : κ} {v : ν} :
    (l.foldl (fun m e => m.set e.1 e.2) (∅ : OrderedMap κ ν)).get? k = some v ↔ (k, v) ∈ l := by
  rw [get?_foldl_set hl]
  simp

/-- Setting an absent key puts its entry at the end. -/
theorem entries_set_of_not_mem {m : OrderedMap κ ν} {k : κ} {v : ν}
    (h : k ∉ m.entries.map Prod.fst) : (m.set k v).entries = m.entries ++ [(k, v)] := by
  simp [set, h]

/-- Setting entries with new and distinct keys appends them. -/
theorem entries_foldl_set {l : List (κ × ν)} {m : OrderedMap κ ν}
    (hl : ((m.entries ++ l).map Prod.fst).Nodup) :
    (l.foldl (fun m e => m.set e.1 e.2) m).entries = m.entries ++ l := by
  induction l generalizing m with
  | nil => simp
  | cons e l ih =>
      have hnot : e.1 ∉ m.entries.map Prod.fst := by
        rw [List.map_append, List.nodup_append] at hl
        exact fun hmem => hl.2.2 _ hmem _ (List.mem_map_of_mem (List.mem_cons_self ..)) rfl
      have hentries := entries_set_of_not_mem (v := e.2) hnot
      rw [List.foldl_cons, ih (by rw [hentries]; simpa using hl), hentries]
      simp

/-- Delete a key, if there is one to delete, and set another. -/
def move (m : OrderedMap κ ν) (old : Option κ) (k : κ) (v : ν) : OrderedMap κ ν :=
  (match old with
    | some k₀ => m.delete k₀
    | none => m).set k v

theorem get?_move (m : OrderedMap κ ν) (old : Option κ) (k k' : κ) (v : ν) :
    (m.move old k v).get? k' =
      if k' = k then some v else if old = some k' then none else m.get? k' := by
  unfold move
  rw [get?_set]
  cases old with
  | none => simp
  | some k₀ =>
      rw [get?_delete]
      simp only [Option.some.injEq, eq_comm (a := k₀)]

/-- After moves to new keys, each with a value of its own, all of them are in place exactly
if none was undone by a later one, which took the same key or deleted it. -/
theorem forall_get?_foldl_move {α : Type*} (old : α → Option κ) (key : α → κ) (val : α → ν)
    {l : List α} (hval : (l.map val).Nodup) (m : OrderedMap κ ν) :
    (∀ a ∈ l, (l.foldl (fun m a => m.move (old a) (key a) (val a)) m).get? (key a) =
      some (val a)) ↔ l.Pairwise fun a b => key a ≠ key b ∧ old b ≠ some (key a) := by
  induction l using List.reverseRecOn with
  | nil => simp
  | append_singleton l b ih =>
      rw [List.map_append, List.nodup_append] at hval
      obtain ⟨hval, -, hnew⟩ := hval
      have hlast : ∀ a ∈ l, val a ≠ val b := fun a ha =>
        hnew _ (List.mem_map_of_mem ha) _ (by simp)
      rw [List.pairwise_append, ← ih hval]
      simp only [List.foldl_append, List.foldl_cons, List.foldl_nil, List.mem_append,
        List.mem_singleton, List.pairwise_singleton, true_and, get?_move]
      constructor
      · intro h
        have hkeys : ∀ a ∈ l, key a ≠ key b ∧ old b ≠ some (key a) := by
          intro a ha
          have hget := h a (Or.inl ha)
          constructor
          · intro hk
            rw [if_pos hk] at hget
            exact hlast a ha (Option.some.inj hget).symm
          · intro hold
            split at hget
            · exact hlast a ha (Option.some.inj hget).symm
            · cases hget
        refine ⟨fun a ha => ?_, fun a ha _ hb => hb ▸ hkeys a ha⟩
        have hget := h a (Or.inl ha)
        rwa [if_neg (hkeys a ha).1, if_neg (hkeys a ha).2] at hget
      · rintro ⟨hall, hkeys⟩ a (ha | rfl)
        · rw [if_neg (hkeys a ha b rfl).1, if_neg (hkeys a ha b rfl).2]
          exact hall a ha
        · rw [if_pos rfl]

end OrderedMap
