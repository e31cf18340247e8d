import FitzTs.Lib.Utf8
/-!
# FitzTs.Lib.Utf8.RoundTrip

**What is decoded after encoding.** Every code point of a string is decoded from its own bytes
(`decodeFrom_utf8Bytes`), so decoding undoes encoding up to two things: surrogates that stand alone
come back as U+FFFD, and a byte order mark at the start is dropped (`utf8Decode_utf8Encode`). A
string comes back as it was exactly if it has neither (`utf8Decode_utf8Encode_eq_self_iff`).
-/

namespace JsString

/-- U+FEFF. -/
def byteOrderMark : UInt16 := 0xfeff

/-- `isWellFormed()`: no surrogate stands alone. -/
def isWellFormed : JsString → Bool
  | [] => true
  | [c] => !(0xd800 ≤ c ∧ c ≤ 0xdfff : Bool)
  | c :: d :: s =>
    if 0xd800 ≤ c ∧ c ≤ 0xdbff ∧ 0xdc00 ≤ d ∧ d ≤ 0xdfff then isWellFormed s
    else !(0xd800 ≤ c ∧ c ≤ 0xdfff : Bool) && isWellFormed (d :: s)

/-- `toWellFormed()`. -/
def toWellFormed (s : JsString) : JsString := (codePoints s).flatMap fromCodePoint

/-- A code point that is not a surrogate. -/
def IsScalar (n : Nat) : Prop := n < 0xd800 ∨ 0xe000 ≤ n ∧ n < 0x110000

/-! ## Code points -/

variable {s : JsString} {n : Nat}

theorem toNat_toUInt8 (h : n < 256) : n.toUInt8.toNat = n := by
  simpa [Nat.toUInt8] using Nat.mod_eq_of_lt h

/-- The code point of one code unit. -/
def unitPoint (c : UInt16) : Nat := if 0xd800 ≤ c ∧ c ≤ 0xdfff then replacement else c.toNat

/-- The code point of a surrogate pair. -/
def pairPoint (c d : UInt16) : Nat := 0x10000 + (c.toNat - 0xd800) * 0x400 + (d.toNat - 0xdc00)

theorem isScalar_unitPoint (c : UInt16) : IsScalar (unitPoint c) := by
  have hc := c.toNat_lt
  unfold unitPoint IsScalar replacement
  split
  · omega
  · rename_i h
    simp only [UInt16.le_iff_toNat_le] at h
    have h1 : (0xd800 : UInt16).toNat = 0xd800 := rfl
    have h2 : (0xdfff : UInt16).toNat = 0xdfff := rfl
    omega

theorem isScalar_pairPoint {c d : UInt16}
    (h : 0xd800 ≤ c ∧ c ≤ 0xdbff ∧ 0xdc00 ≤ d ∧ d ≤ 0xdfff) :
    IsScalar (pairPoint c d) ∧ 0x10000 ≤ pairPoint c d := by
  simp only [UInt16.le_iff_toNat_le] at h
  have h1 : (0xd800 : UInt16).toNat = 0xd800 := rfl
  have h2 : (0xdbff : UInt16).toNat = 0xdbff := rfl
  have h3 : (0xdc00 : UInt16).toNat = 0xdc00 := rfl
  have h4 : (0xdfff : UInt16).toNat = 0xdfff := rfl
  unfold IsScalar pairPoint
  omega

/-- The code points of any string are scalar values. -/
theorem isScalar_codePoints : ∀ n ∈ codePoints s, IsScalar n := by
  fun_induction codePoints s with
  | case1 => simp
  | case2 c =>
      rw [List.forall_mem_singleton]
      exact isScalar_unitPoint c
  | case3 c d s hpair ih =>
      rw [List.forall_mem_cons]
      exact ⟨(isScalar_pairPoint hpair).1, ih⟩
  | case4 c d s hpair ih =>
      rw [List.forall_mem_cons]
      exact ⟨isScalar_unitPoint c, ih⟩

/-! ## Bytes -/

section

variable {b : Nat} {bs : List UInt8} {p : Pending}

/-- The first byte of a sequence, as a number. -/
theorem lead_toUInt8 (h : b < 256) : lead b.toUInt8 =
    if b ≤ 0x7f then .ascii b
    else if 0xc2 ≤ b ∧ b ≤ 0xdf then .sequence ⟨1, b % 0x20, 0x80, 0xbf⟩
    else if 0xe0 ≤ b ∧ b ≤ 0xef then
      .sequence ⟨2, b % 0x10, if b = 0xe0 then 0xa0 else 0x80, if b = 0xed then 0x9f else 0xbf⟩
    else if 0xf0 ≤ b ∧ b ≤ 0xf4 then
      .sequence ⟨3, b % 0x8, if b = 0xf0 then 0x90 else 0x80, if b = 0xf4 then 0x8f else 0xbf⟩
    else .invalid := by
  have heq : ∀ m : UInt8, b.toUInt8 = m ↔ b = m.toNat := fun m => by
    rw [← UInt8.toNat_inj, toNat_toUInt8 h]
  simp only [lead, UInt8.le_iff_toNat_le, toNat_toUInt8 h, heq]
  rfl

theorem decodeFrom_ascii {b : UInt8} (h : lead b = .ascii n) :
    decodeFrom none (b :: bs) = n :: decodeFrom none bs := by
  simp [decodeFrom, h]

theorem decodeFrom_sequence {b : UInt8} (h : lead b = .sequence p) :
    decodeFrom none (b :: bs) = decodeFrom (some p) bs := by
  simp [decodeFrom, h]

/-- A byte that the sequence goes on with. -/
theorem decodeFrom_next {needed codePoint k : Nat} {lower upper : UInt8} (hk : k < 0x40)
    (hlower : lower.toNat ≤ 0x80 + k) (hupper : 0x80 + k ≤ upper.toNat) :
    decodeFrom (some ⟨needed, codePoint, lower, upper⟩) ((0x80 + k).toUInt8 :: bs) =
      if needed = 1 then (codePoint * 0x40 + k) :: decodeFrom none bs
      else decodeFrom (some ⟨needed - 1, codePoint * 0x40 + k, 0x80, 0xbf⟩) bs := by
  have hbyte : (0x80 + k).toUInt8.toNat = 0x80 + k := toNat_toUInt8 (by omega)
  have hlow : (0x80 + k) % 0x40 = k := by omega
  rw [decodeFrom]
  simp only [UInt8.le_iff_toNat_le, hbyte, hlow]
  rw [if_pos ⟨hlower, hupper⟩]

end

/-- A byte of which nothing but its kind is asked. -/
theorem decodeFrom_tail {needed codePoint k : Nat} {bs : List UInt8} (hk : k < 0x40) :
    decodeFrom (some ⟨needed, codePoint, 0x80, 0xbf⟩) ((0x80 + k).toUInt8 :: bs) =
      if needed = 1 then (codePoint * 0x40 + k) :: decodeFrom none bs
      else decodeFrom (some ⟨needed - 1, codePoint * 0x40 + k, 0x80, 0xbf⟩) bs :=
  decodeFrom_next hk (Nat.le_add_right ..) (show 0x80 + k ≤ 0xbf by omega)

/-- **A code point is decoded from its bytes.** -/
theorem decodeFrom_utf8Bytes (h : IsScalar n) (bs : List UInt8) :
    decodeFrom none (utf8Bytes n ++ bs) = n :: decodeFrom none bs := by
  unfold utf8Bytes
  split
  case isTrue hascii =>
    exact decodeFrom_ascii ((lead_toUInt8 (by omega)).trans (if_pos (by omega)))
  case isFalse hascii =>
    split
    case isTrue htwo =>
      have hlead : lead (0xc0 + n / 0x40).toUInt8 = .sequence ⟨1, n / 0x40, 0x80, 0xbf⟩ := by
        rw [lead_toUInt8 (by omega), if_neg (by omega), if_pos (by omega)]
        simp only [Lead.sequence.injEq, Pending.mk.injEq, and_true, true_and]
        omega
      rw [List.cons_append, decodeFrom_sequence hlead, List.cons_append, List.nil_append,
        decodeFrom_tail (Nat.mod_lt _ (by decide)), if_pos rfl, Nat.div_add_mod']
    case isFalse htwo =>
      split
      case isTrue hthree =>
        have hlead : lead (0xe0 + n / 0x1000).toUInt8 = .sequence ⟨2, n / 0x1000,
            if n / 0x1000 = 0 then 0xa0 else 0x80, if n / 0x1000 = 0xd then 0x9f else 0xbf⟩ := by
          have hlow : (0xe0 + n / 0x1000) % 0x10 = n / 0x1000 := by omega
          have hfirst : 0xe0 + n / 0x1000 = 0xe0 ↔ n / 0x1000 = 0 := by omega
          have hlast : 0xe0 + n / 0x1000 = 0xed ↔ n / 0x1000 = 0xd := by omega
          rw [lead_toUInt8 (by omega), if_neg (by omega), if_neg (by omega), if_pos (by omega)]
          simp only [hlow, hfirst, hlast]
        -- shorter sequences and surrogates are excluded by the range of the second byte
        have hlower : (if n / 0x1000 = 0 then 0xa0 else 0x80 : UInt8).toNat ≤
            0x80 + n / 0x40 % 0x40 := by
          split
          · change 0xa0 ≤ _
            omega
          · exact Nat.le_add_right ..
        have hupper : 0x80 + n / 0x40 % 0x40 ≤
            (if n / 0x1000 = 0xd then 0x9f else 0xbf : UInt8).toNat := by
          rcases h with h | h
          all_goals
            split
            · change _ ≤ 0x9f
              omega
            · change _ ≤ 0xbf
              omega
        have hnumber : (n / 0x1000 * 0x40 + n / 0x40 % 0x40) * 0x40 + n % 0x40 = n := by omega
        simp only [List.cons_append, List.nil_append]
        rw [decodeFrom_sequence hlead, decodeFrom_next (Nat.mod_lt _ (by decide)) hlower hupper,
          if_neg (show ¬ 2 = 1 by decide), decodeFrom_tail (Nat.mod_lt _ (by decide)), if_pos rfl,
          hnumber]
      case isFalse hthree =>
        have hn : n < 0x110000 := by
          rcases h with h | h
          · omega
          · exact h.2
        have hlead : lead (0xf0 + n / 0x40000).toUInt8 = .sequence ⟨3, n / 0x40000,
            if n / 0x40000 = 0 then 0x90 else 0x80, if n / 0x40000 = 4 then 0x8f else 0xbf⟩ := by
          have hlow : (0xf0 + n / 0x40000) % 0x8 = n / 0x40000 := by omega
          have hfirst : 0xf0 + n / 0x40000 = 0xf0 ↔ n / 0x40000 = 0 := by omega
          have hlast : 0xf0 + n / 0x40000 = 0xf4 ↔ n / 0x40000 = 4 := by omega
          rw [lead_toUInt8 (by omega), if_neg (by omega), if_neg (by omega), if_neg (by omega),
            if_pos (by omega)]
          simp only [hlow, hfirst, hlast]
        have hlower : (if n / 0x40000 = 0 then 0x90 else 0x80 : UInt8).toNat ≤
            0x80 + n / 0x1000 % 0x40 := by
          split
          · change 0x90 ≤ _
            omega
          · exact Nat.le_add_right ..
        have hupper : 0x80 + n / 0x1000 % 0x40 ≤
            (if n / 0x40000 = 4 then 0x8f else 0xbf : UInt8).toNat := by
          split
          · change _ ≤ 0x8f
            omega
          · change _ ≤ 0xbf
            omega
        have hnumber : ((n / 0x40000 * 0x40 + n / 0x1000 % 0x40) * 0x40 + n / 0x40 % 0x40) * 0x40 +
            n % 0x40 = n := by omega
        simp only [List.cons_append, List.nil_append]
        rw [decodeFrom_sequence hlead, decodeFrom_next (Nat.mod_lt _ (by decide)) hlower hupper,
          if_neg (show ¬ 3 = 1 by decide), decodeFrom_tail (Nat.mod_lt _ (by decide)),
          if_neg (show ¬ 3 - 1 = 1 by decide), decodeFrom_tail (Nat.mod_lt _ (by decide)),
          if_pos rfl, hnumber]

/-- Scalar values come back from their bytes. -/
theorem decodeFrom_flatMap {ns : List Nat} (h : ∀ n ∈ ns, IsScalar n) :
    decodeFrom none (ns.flatMap utf8Bytes) = ns := by
  induction ns with
  | nil => rfl
  | cons n ns ih =>
      obtain ⟨hn, hns⟩ := List.forall_mem_cons.mp h
      rw [List.flatMap_cons, decodeFrom_utf8Bytes hn, ih hns]

theorem decodeFrom_utf8Encode (s : JsString) : decodeFrom none (utf8Encode s) = codePoints s :=
  decodeFrom_flatMap isScalar_codePoints

/-! ## Strings -/

theorem fromCodePoint_unit {c : UInt16} : fromCodePoint c.toNat = [c] := by
  have hc := c.toNat_lt
  rw [fromCodePoint, if_pos (by omega)]
  simp

/-- A surrogate pair comes back from its code point. -/
theorem fromCodePoint_pair {c d : UInt16}
    (h : 0xd800 ≤ c ∧ c ≤ 0xdbff ∧ 0xdc00 ≤ d ∧ d ≤ 0xdfff) :
    fromCodePoint (pairPoint c d) = [c, d] := by
  have hge := (isScalar_pairPoint h).2
  simp only [UInt16.le_iff_toNat_le] at h
  have h1 : (0xd800 : UInt16).toNat = 0xd800 := rfl
  have h2 : (0xdbff : UInt16).toNat = 0xdbff := rfl
  have h3 : (0xdc00 : UInt16).toNat = 0xdc00 := rfl
  have h4 : (0xdfff : UInt16).toNat = 0xdfff := rfl
  have hhigh : 0xd800 + (pairPoint c d - 0x10000) / 0x400 = c.toNat := by
    unfold pairPoint
    omega
  have hlow : 0xdc00 + (pairPoint c d - 0x10000) % 0x400 = d.toNat := by
    unfold pairPoint
    omega
  rw [fromCodePoint, if_neg (by omega), hhigh, hlow]
  simp

/-- A code unit, or U+FFFD in place of a surrogate. -/
def unitOrReplacement (c : UInt16) : UInt16 := if 0xd800 ≤ c ∧ c ≤ 0xdfff then 0xfffd else c

theorem fromCodePoint_unitPoint (c : UInt16) :
    fromCodePoint (unitPoint c) = [unitOrReplacement c] := by
  unfold unitPoint unitOrReplacement
  split
  · decide
  · exact fromCodePoint_unit

theorem toWellFormed_single (c : UInt16) : toWellFormed [c] = [unitOrReplacement c] := by
  have hpoints : codePoints [c] = [unitPoint c] := rfl
  rw [toWellFormed, hpoints, List.flatMap_cons, List.flatMap_nil, fromCodePoint_unitPoint]
  rfl

theorem toWellFormed_pair {c d : UInt16}
    (h : 0xd800 ≤ c ∧ c ≤ 0xdbff ∧ 0xdc00 ≤ d ∧ d ≤ 0xdfff) :
    toWellFormed (c :: d :: s) = c :: d :: toWellFormed s := by
  have hpoints : codePoints (c :: d :: s) = pairPoint c d :: codePoints s := by
    rw [codePoints, if_pos h]
    rfl
  rw [toWellFormed, hpoints, List.flatMap_cons, fromCodePoint_pair h]
  rfl

theorem toWellFormed_unit {c d : UInt16}
    (h : ¬ (0xd800 ≤ c ∧ c ≤ 0xdbff ∧ 0xdc00 ≤ d ∧ d ≤ 0xdfff)) :
    toWellFormed (c :: d :: s) = unitOrReplacement c :: toWellFormed (d :: s) := by
  have hpoints : codePoints (c :: d :: s) = unitPoint c :: codePoints (d :: s) := by
    rw [codePoints, if_neg h]
    rfl
  rw [toWellFormed, hpoints, List.flatMap_cons, fromCodePoint_unitPoint]
  rfl

@[simp] theorem length_toWellFormed : (toWellFormed s).length = s.length := by
  fun_induction codePoints s with
  | case1 => rfl
  | case2 c => rw [toWellFormed_single, List.length_singleton, List.length_singleton]
  | case3 c d s hpair ih => simp [toWellFormed_pair hpair, ih]
  | case4 c d s hpair ih => simpa [toWellFormed_unit hpair] using ih

/-- Only surrogates are replaced. -/
theorem unitOrReplacement_eq_self_iff {c : UInt16} :
    unitOrReplacement c = c ↔ ¬ (0xd800 ≤ c ∧ c ≤ 0xdfff) := by
  unfold unitOrReplacement
  split
  case isTrue h =>
    refine iff_of_false (fun heq => ?_) (not_not.mpr h)
    obtain rfl := heq
    exact absurd h (by decide)
  case isFalse h => exact iff_of_true rfl h

/-- The strings that are well formed are those that nothing is replaced in. -/
theorem toWellFormed_eq_self_iff : toWellFormed s = s ↔ isWellFormed s = true := by
  fun_induction isWellFormed s with
  | case1 => exact iff_of_true rfl rfl
  | case2 c => simp [toWellFormed_single, unitOrReplacement_eq_self_iff, imp_iff_not_or]
  | case3 c d s hpair ih => simp [toWellFormed_pair hpair, ih]
  | case4 c d s hpair ih =>
      rw [toWellFormed_unit hpair, List.cons.injEq, ih, unitOrReplacement_eq_self_iff]
      simp [imp_iff_not_or]

/-! ## Lengths -/

theorem length_utf8Bytes_unitPoint (c : UInt16) :
    (utf8Bytes (unitPoint c)).length = if c < 0x80 then 1 else if c < 0x800 then 2 else 3 := by
  have hc := c.toNat_lt
  have h1 : (0x80 : UInt16).toNat = 0x80 := rfl
  have h2 : (0x800 : UInt16).toNat = 0x800 := rfl
  have h3 : (0xd800 : UInt16).toNat = 0xd800 := rfl
  have h4 : (0xdfff : UInt16).toNat = 0xdfff := rfl
  simp only [unitPoint, replacement, utf8Bytes, UInt16.le_iff_toNat_le, UInt16.lt_iff_toNat_lt, h1,
    h2, h3, h4]
  split_ifs <;> first | rfl | omega

theorem length_utf8Bytes_pairPoint {c d : UInt16}
    (h : 0xd800 ≤ c ∧ c ≤ 0xdbff ∧ 0xdc00 ≤ d ∧ d ≤ 0xdfff) :
    (utf8Bytes (pairPoint c d)).length = 4 := by
  have hge := (isScalar_pairPoint h).2
  rw [utf8Bytes, if_neg (by omega), if_neg (by omega), if_neg (by omega)]
  rfl

/-- **The length of the encoding.** -/
theorem length_utf8Encode (s : JsString) : (utf8Encode s).length = utf8Length s := by
  unfold utf8Encode
  fun_induction codePoints s with
  | case1 => rfl
  | case2 c =>
      rw [List.flatMap_singleton, utf8Length]
      exact length_utf8Bytes_unitPoint c
  | case3 c d s hpair ih =>
      have hhigh : ¬ c < 0x80 ∧ ¬ c < 0x800 := by
        have h1 := hpair.1
        simp only [UInt16.le_iff_toNat_le, UInt16.lt_iff_toNat_lt] at h1 ⊢
        have h2 : (0x80 : UInt16).toNat = 0x80 := rfl
        have h3 : (0x800 : UInt16).toNat = 0x800 := rfl
        have h4 : (0xd800 : UInt16).toNat = 0xd800 := rfl
        omega
      have hpoint : (utf8Bytes (pairPoint c d)).length = 4 := length_utf8Bytes_pairPoint hpair
      rw [List.flatMap_cons, List.length_append, ih, utf8Length, if_neg hhigh.1, if_neg hhigh.2,
        if_pos hpair]
      exact congrArg (· + utf8Length s) hpoint
  | case4 c d s hpair ih =>
      have hpoint : (utf8Bytes (unitPoint c)).length =
          if c < 0x80 then 1 else if c < 0x800 then 2 else 3 := length_utf8Bytes_unitPoint c
      rw [List.flatMap_cons, List.length_append, ih, utf8Length, if_neg hpair]
      refine (congrArg (· + utf8Length (d :: s)) hpoint).trans ?_
      split_ifs <;> rfl

/-! ## The byte order mark -/

/-- The byte order mark is a code point of its own. -/
theorem codePoints_mark (s : JsString) :
    codePoints (byteOrderMark :: s) = 0xfeff :: codePoints s := by
  cases s with
  | nil => rfl
  | cons d s =>
      have hpair : ¬ (0xd800 ≤ byteOrderMark ∧ byteOrderMark ≤ 0xdbff ∧ 0xdc00 ≤ d ∧ d ≤ 0xdfff) :=
        fun h => absurd h.2.1 (by decide)
      rw [codePoints, if_neg hpair]
      rfl

theorem eq_mark_of_unitPoint {c : UInt16} (h : unitPoint c = 0xfeff) : c = byteOrderMark := by
  unfold unitPoint at h
  split at h
  · exact absurd h (by decide)
  · exact UInt16.toNat_inj.mp h

/-- Only the mark itself is the code point of the mark. -/
theorem head_of_codePoints {ns : List Nat} (h : codePoints s = 0xfeff :: ns) :
    s.head? = some byteOrderMark := by
  cases s with
  | nil => cases h
  | cons c s =>
      cases s with
      | nil =>
          have hunit : unitPoint c = 0xfeff := (List.cons.inj h).1
          exact congrArg some (eq_mark_of_unitPoint hunit)
      | cons d s =>
          rw [codePoints] at h
          split at h
          case isTrue hpair =>
            have hpoint : pairPoint c d = 0xfeff := (List.cons.inj h).1
            have hge := (isScalar_pairPoint hpair).2
            omega
          case isFalse =>
            have hunit : unitPoint c = 0xfeff := (List.cons.inj h).1
            exact congrArg some (eq_mark_of_unitPoint hunit)

/-- Only a string that begins with the mark is encoded with it at the start. -/
theorem isPrefixOf_utf8Encode (s : JsString) :
    [0xef, 0xbb, 0xbf].isPrefixOf (utf8Encode s) = true ↔ s.head? = some byteOrderMark := by
  have hmark : utf8Bytes 0xfeff = [0xef, 0xbb, 0xbf] := by decide
  have hscalar : IsScalar 0xfeff := Or.inr ⟨by decide, by decide⟩
  rw [List.isPrefixOf_iff_prefix]
  constructor
  · rintro ⟨bs, hbs⟩
    have hpoints := decodeFrom_utf8Encode s
    rw [← hbs, ← hmark, decodeFrom_utf8Bytes hscalar] at hpoints
    exact head_of_codePoints hpoints.symm
  · intro h
    obtain ⟨s, rfl⟩ := List.head?_eq_some_iff.mp h
    rw [utf8Encode, codePoints_mark, List.flatMap_cons, hmark]
    exact List.prefix_append ..

/-- **Decoding after encoding.** -/
theorem utf8Decode_utf8Encode (s : JsString) : utf8Decode (utf8Encode s) =
    toWellFormed (if s.head? = some byteOrderMark then s.tail else s) := by
  have hmark : utf8Bytes 0xfeff = [0xef, 0xbb, 0xbf] := by decide
  unfold utf8Decode
  by_cases h : s.head? = some byteOrderMark
  · obtain ⟨s, rfl⟩ := List.head?_eq_some_iff.mp h
    rw [if_pos ((isPrefixOf_utf8Encode _).mpr h), if_pos h, List.tail_cons, utf8Encode,
      codePoints_mark, List.flatMap_cons, hmark]
    exact congrArg (List.flatMap fromCodePoint) (decodeFrom_utf8Encode s)
  · rw [if_neg (mt (isPrefixOf_utf8Encode _).mp h), if_neg h]
    exact congrArg (List.flatMap fromCodePoint) (decodeFrom_utf8Encode s)

/-- A string comes back as it was exactly if no surrogate stands alone in it and it does not begin
with a byte order mark. -/
theorem utf8Decode_utf8Encode_eq_self_iff :
    utf8Decode (utf8Encode s) = s ↔ isWellFormed s = true ∧ s.head? ≠ some byteOrderMark := by
  rw [utf8Decode_utf8Encode, ← toWellFormed_eq_self_iff]
  split
  case isTrue hmark =>
    refine iff_of_false (fun heq => ?_) fun h => h.2 hmark
    have hlength := congrArg List.length heq
    cases s with
    | nil => cases hmark
    | cons c s =>
        rw [length_toWellFormed, List.tail_cons, List.length_cons] at hlength
        omega
  case isFalse hmark => exact (and_iff_left hmark).symm

/-! ## With its mark -/

/-- The string of the bytes, with its byte order mark. -/
def utf8DecodeMarked (bytes : List UInt8) : JsString :=
  (decodeFrom none bytes).flatMap fromCodePoint

/-- A string comes back as it was exactly if no surrogate stands alone in it. -/
theorem utf8DecodeMarked_eq_self_iff :
    utf8DecodeMarked (utf8Encode s) = s ↔ isWellFormed s = true := by
  rw [← toWellFormed_eq_self_iff, utf8DecodeMarked, decodeFrom_utf8Encode]
  rfl

end JsString
