import FitzTs.Lib.BigEndian
/-!
# FitzTs.Lib.Framing

**Byte strings behind their length.** `frame m` is the length of `m` in four bytes, and `m`. A
stream of such frames can be read in one way only: what stands before the first frame that is
incomplete (`Incomplete`), or whose length is over the limit (`Overlong`), is fixed
(`frames_unique`).
-/

namespace Framing

open BigEndian

/-- `m` behind its length. The length is taken modulo `2 ^ 32`. -/
def frame (m : List UInt8) : List UInt8 := toBytes 4 m.length ++ m

/-- The frames of `ms`, one after the other. -/
def frames (ms : List (List UInt8)) : List UInt8 := ms.flatMap frame

/-- The length fits, and is not over the limit. -/
structure Fits (limit : Nat) (m : List UInt8) : Prop where
  limit : m.length ≤ limit
  width : m.length < 2 ^ 32

/-- The beginning of a frame that is not complete. -/
def Incomplete (limit : Nat) (p : List UInt8) : Prop :=
  p.length < 4 ∨ ∃ n body, n ≤ limit ∧ n < 2 ^ 32 ∧ body.length < n ∧ p = toBytes 4 n ++ body

/-- A length over the limit, and whatever comes after it. -/
def Overlong (limit : Nat) (p : List UInt8) : Prop :=
  ∃ n rest, limit < n ∧ n < 2 ^ 32 ∧ p = toBytes 4 n ++ rest

variable {limit : Nat} {m p q : List UInt8} {ms ms' : List (List UInt8)}

@[simp] theorem frames_nil : frames [] = [] := rfl

@[simp] theorem frames_cons : frames (m :: ms) = frame m ++ frames ms := List.flatMap_cons

@[simp] theorem frames_append : frames (ms ++ ms') = frames ms ++ frames ms' := List.flatMap_append

theorem incomplete_nil : Incomplete limit [] := Or.inl (by simp)

/-- Two lengths that stand at the beginning of one string are equal. -/
theorem length_unique {n k : Nat} {rest rest' : List UInt8} (hn : n < 2 ^ 32) (hk : k < 2 ^ 32)
    (h : toBytes 4 n ++ rest = toBytes 4 k ++ rest') : n = k ∧ rest = rest' := by
  obtain ⟨hlength, hrest⟩ := List.append_inj h (by simp)
  have hnumber := congrArg ofBytes hlength
  rw [ofBytes_toBytes (hn.trans_le (by decide)), ofBytes_toBytes (hk.trans_le (by decide))]
    at hnumber
  exact ⟨hnumber, hrest⟩

theorem not_incomplete_of_overlong (h : Overlong limit p) : ¬ Incomplete limit p := by
  obtain ⟨n, rest, hlimit, hn, rfl⟩ := h
  rintro (hshort | ⟨k, body, hk, hwidth, -, heq⟩)
  · simp at hshort
  · obtain ⟨rfl, -⟩ := length_unique hn hwidth heq
    omega

/-- A whole frame is neither incomplete nor over the limit. -/
theorem frame_not_end (hm : Fits limit m) (hp : Incomplete limit p ∨ Overlong limit p) :
    frame m ++ q ≠ p := by
  intro h
  rw [frame, List.append_assoc] at h
  rcases hp with (hshort | ⟨n, body, -, hn, hbody, rfl⟩) | ⟨n, rest, hlimit, hn, rfl⟩
  · rw [← h] at hshort
    simp at hshort
  · obtain ⟨hlength, rfl⟩ := length_unique hm.width hn h
    rw [List.length_append] at hbody
    omega
  · obtain ⟨hlength, -⟩ := length_unique hm.width hn h
    have hle := hm.limit
    omega

/-- The frames of a stream, up to the first that is incomplete or over the limit, are unique. -/
theorem frames_unique (hms : ∀ m ∈ ms, Fits limit m) (hms' : ∀ m ∈ ms', Fits limit m)
    (hp : Incomplete limit p ∨ Overlong limit p) (hq : Incomplete limit q ∨ Overlong limit q)
    (h : frames ms ++ p = frames ms' ++ q) : ms = ms' ∧ p = q := by
  induction ms generalizing ms' with
  | nil =>
      cases ms' with
      | nil => exact ⟨rfl, h⟩
      | cons m' ms' =>
          rw [frames_cons, List.append_assoc] at h
          exact absurd h.symm (frame_not_end (hms' m' List.mem_cons_self) hp)
  | cons m ms ih =>
      cases ms' with
      | nil =>
          rw [frames_cons, List.append_assoc] at h
          exact absurd h (frame_not_end (hms m List.mem_cons_self) hq)
      | cons m' ms' =>
          simp only [frames_cons, frame, List.append_assoc] at h
          obtain ⟨hlength, hrest⟩ := length_unique (hms m List.mem_cons_self).width
            (hms' m' List.mem_cons_self).width h
          obtain ⟨rfl, htail⟩ := List.append_inj hrest hlength
          obtain ⟨rfl, rfl⟩ := ih (fun m hm => hms m (List.mem_cons_of_mem _ hm))
            (fun m hm => hms' m (List.mem_cons_of_mem _ hm)) htail
          exact ⟨rfl, rfl⟩

end Framing
