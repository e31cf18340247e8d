import FitzTs.Lib.Utf8.RoundTrip
/-!
# FitzTs.Lib.Utf8.Truncation

A string whose encoding has been cut off. What is left of the last code point decodes to no more
than its bytes, so a string that comes back has lost almost nothing
(`length_le_of_utf8Decode_take`).
-/

namespace JsString

variable {s : JsString} {ns : List Nat}

/-- A byte out of place ends the sequence, and is read like a first one. -/
theorem decodeFrom_of_out_of_place {p : Pending} {b : UInt8} (h : ¬ (p.lower ≤ b ∧ b ≤ p.upper))
    (bs : List UInt8) :
    decodeFrom (some p) (b :: bs) = replacement :: decodeFrom none (b :: bs) := by
  simp only [decodeFrom, if_neg h]
  cases lead b <;> rfl

/-- At most one code point for every byte. -/
theorem length_decodeFrom (bs : List UInt8) (pending : Option Pending) :
    (decodeFrom pending bs).length ≤ pending.elim 0 (fun _ => 1) + bs.length := by
  induction bs generalizing pending with
  | nil => cases pending <;> simp [decodeFrom]
  | cons b bs ih =>
      have hnone := ih none
      have hsome : ∀ p, (decodeFrom (some p) bs).length ≤ 1 + bs.length := fun p => ih (some p)
      simp only [Option.elim_none, Nat.zero_add] at hnone
      have hfirst : (decodeFrom none (b :: bs)).length ≤ 1 + bs.length := by
        simp only [decodeFrom, List.nil_append]
        split
        · simp only [List.length_cons]
          omega
        · exact hsome _
        · simp only [List.length_cons]
          omega
      cases pending with
      | none =>
          simp only [Option.elim_none, List.length_cons]
          omega
      | some p =>
          simp only [Option.elim_some, List.length_cons]
          by_cases hplace : p.lower ≤ b ∧ b ≤ p.upper
          · simp only [decodeFrom, if_pos hplace]
            split
            · simp only [List.length_cons]
              omega
            · have hp := hsome ⟨p.needed - 1, p.codePoint * 0x40 + b.toNat % 0x40, 0x80, 0xbf⟩
              omega
          · rw [decodeFrom_of_out_of_place hplace, List.length_cons]
            omega

theorem decodeFrom_flatMap_append (h : ∀ n ∈ ns, IsScalar n) (bs : List UInt8) :
    decodeFrom none (ns.flatMap utf8Bytes ++ bs) = ns ++ decodeFrom none bs := by
  induction ns with
  | nil => rfl
  | cons n ns ih =>
      obtain ⟨hn, hns⟩ := List.forall_mem_cons.mp h
      rw [List.flatMap_cons, List.append_assoc, decodeFrom_utf8Bytes hn, ih hns, List.cons_append]

theorem length_utf8Bytes_le (n : Nat) : (utf8Bytes n).length ≤ 4 := by
  unfold utf8Bytes
  split_ifs <;> simp

/-- A code unit takes at most three bytes. -/
theorem length_utf8Bytes_le_units (n : Nat) :
    (utf8Bytes n).length ≤ 3 * (fromCodePoint n).length := by
  unfold utf8Bytes fromCodePoint
  split_ifs <;> simp

theorem length_flatMap_utf8Bytes_le (ns : List Nat) :
    (ns.flatMap utf8Bytes).length ≤ 3 * (ns.flatMap fromCodePoint).length := by
  induction ns with
  | nil => exact Nat.le_refl _
  | cons n ns ih =>
      have hn := length_utf8Bytes_le_units n
      simp only [List.flatMap_cons, List.length_append]
      omega

theorem length_flatMap_fromCodePoint (ns : List Nat) :
    (ns.flatMap fromCodePoint).length ≤ 2 * ns.length := by
  induction ns with
  | nil => exact Nat.le_refl _
  | cons n ns ih =>
      have hn : (fromCodePoint n).length ≤ 2 := by
        unfold fromCodePoint
        split_ifs <;> simp
      simp only [List.flatMap_cons, List.length_append, List.length_cons]
      omega

/-- What is left of an encoding: whole code points, and at most three bytes of the next. -/
theorem take_flatMap_utf8Bytes (ns : List Nat) (count : Nat) :
    ∃ whole cut partialBytes, ns = whole ++ cut ∧
      (ns.flatMap utf8Bytes).take count = whole.flatMap utf8Bytes ++ partialBytes ∧
        partialBytes.length ≤ 3 ∧
          (ns.flatMap utf8Bytes).length ≤ count + (cut.flatMap utf8Bytes).length := by
  induction ns generalizing count with
  | nil => exact ⟨[], [], [], rfl, by simp, by simp, Nat.zero_le _⟩
  | cons n ns ih =>
      rcases Nat.lt_or_ge count (utf8Bytes n).length with hlt | hge
      · have hle := length_utf8Bytes_le n
        refine ⟨[], n :: ns, (utf8Bytes n).take count, rfl, ?_, ?_, Nat.le_add_left _ _⟩
        · rw [List.flatMap_cons, List.take_append_of_le_length (Nat.le_of_lt hlt)]
          rfl
        · rw [List.length_take]
          omega
      · obtain ⟨more, rfl⟩ := Nat.exists_eq_add_of_le hge
        obtain ⟨whole, cut, partialBytes, rfl, htake, hpartial, hlength⟩ := ih more
        refine ⟨n :: whole, cut, partialBytes, rfl, ?_, hpartial, ?_⟩
        · rw [List.flatMap_cons, List.take_length_add_append, htake, List.flatMap_cons,
            List.append_assoc]
        · rw [List.flatMap_cons, List.length_append]
          omega

/-- **A string that comes back although its encoding was cut has lost almost nothing.** -/
theorem length_le_of_utf8Decode_take {count : Nat} (hplain : utf8Decode (utf8Encode s) = s)
    (h : utf8Decode ((utf8Encode s).take count) = s) : (utf8Encode s).length ≤ count + 18 := by
  obtain ⟨hwell, hmark⟩ := utf8Decode_utf8Encode_eq_self_iff.mp hplain
  obtain ⟨whole, cut, partialBytes, hsplit, htake, hpartial, hlength⟩ :=
    take_flatMap_utf8Bytes (codePoints s) count
  have hscalar : ∀ n ∈ whole, IsScalar n := fun n hn =>
    isScalar_codePoints n (by rw [hsplit]; exact List.mem_append_left _ hn)
  -- no mark is dropped
  have hnoMark :
      ¬ [0xef, 0xbb, 0xbf].isPrefixOf ((utf8Encode s).take count) = true := fun hprefix =>
    hmark ((isPrefixOf_utf8Encode s).mp (List.isPrefixOf_iff_prefix.mpr
      ((List.isPrefixOf_iff_prefix.mp hprefix).trans (List.take_prefix _ _))))
  have hpoints : whole ++ cut = codePoints s := hsplit.symm
  have hstring : (whole ++ cut).flatMap fromCodePoint = s := by
    rw [hpoints]
    exact toWellFormed_eq_self_iff.mpr hwell
  have hdecoded : (whole ++ decodeFrom none partialBytes).flatMap fromCodePoint = s := by
    rw [← decodeFrom_flatMap_append hscalar, ← htake]
    unfold utf8Decode at h
    rwa [if_neg hnoMark] at h
  have heq := hstring.trans hdecoded.symm
  rw [List.flatMap_append, List.flatMap_append] at heq
  have hcut := List.append_cancel_left heq
  have hunits : (cut.flatMap fromCodePoint).length ≤ 2 * 3 := by
    have hpoints := length_decodeFrom partialBytes none
    have hcodePoints := length_flatMap_fromCodePoint (decodeFrom none partialBytes)
    simp only [Option.elim_none, Nat.zero_add] at hpoints
    rw [hcut]
    omega
  have hbytes := length_flatMap_utf8Bytes_le cut
  unfold utf8Encode
  omega

end JsString
