import Mathlib.Data.List.Infix
/-!
# FitzTs.Lib.JsString

**JavaScript strings** as their UTF-16 code units, with the operations that look at single
code units, and the length of their encoding in UTF-8.
-/

/-- A string, as its code units. -/
abbrev JsString := List UInt16

namespace JsString

/-- The code units of a character. -/
def codeUnits (c : Char) : List UInt16 :=
  let n := c.toNat
  if n < 0x10000 then [n.toUInt16]
  else [(0xd800 + (n - 0x10000) / 0x400).toUInt16, (0xdc00 + (n - 0x10000) % 0x400).toUInt16]

/-- A string literal. -/
def js (s : String) : JsString := s.toList.flatMap codeUnits

/-- `indexOf(needle)`, where `none` is `-1`. -/
def indexOf (needle : JsString) : JsString → Option Nat
  | [] => if needle = [] then some 0 else none
  | c :: s => if needle.isPrefixOf (c :: s) then some 0 else (indexOf needle s).map (· + 1)

/-- `split` by a single code unit. -/
def split (s : JsString) (separator : UInt16) : List JsString := s.splitOn separator

/-- The bytes of the UTF-8 encoding; a surrogate that is alone is encoded as U+FFFD. -/
def utf8Length : JsString → Nat
  | [] => 0
  | [c] => if c < 0x80 then 1 else if c < 0x800 then 2 else 3
  | c :: d :: s =>
    if c < 0x80 then 1 + utf8Length (d :: s)
    else if c < 0x800 then 2 + utf8Length (d :: s)
    else if 0xd800 ≤ c ∧ c ≤ 0xdbff ∧ 0xdc00 ≤ d ∧ d ≤ 0xdfff then 4 + utf8Length s
    else 3 + utf8Length (d :: s)

/-- Joining segments and splitting them again. -/
theorem split_intercalate {separator : UInt16} {segments : List JsString}
    (hsegments : ∀ s ∈ segments, separator ∉ s) (hne : segments ≠ []) :
    split ([separator].intercalate segments) separator = segments :=
  List.splitOn_intercalate _ hsegments hne

theorem intercalate_split (s : JsString) (separator : UInt16) :
    [separator].intercalate (split s separator) = s :=
  List.intercalate_splitOn _

theorem split_ne_nil (s : JsString) (separator : UInt16) : split s separator ≠ [] :=
  List.splitOn_ne_nil _ _

/-- No segment contains the separator. -/
theorem not_mem_of_mem_split {s segment : JsString} {separator : UInt16}
    (h : segment ∈ split s separator) : separator ∉ segment := by
  unfold split at h
  rw [List.splitOn_eq_splitOnP] at h
  induction s generalizing segment with
  | nil =>
      obtain rfl : segment = [] := by simpa using h
      simp
  | cons c s ih =>
      rw [List.splitOnP_cons_eq_if_modifyHead] at h
      split at h
      · rcases List.mem_cons.mp h with rfl | h
        · simp
        · exact ih h
      · rename_i hc
        cases hsplit : s.splitOnP (· == separator) with
        | nil => exact absurd hsplit (List.splitOnP_ne_nil _ _)
        | cons first rest =>
            rw [hsplit] at h ih
            rcases List.mem_cons.mp h with rfl | h
            · have hfirst := ih (List.mem_cons_self ..)
              have hc : c ≠ separator := by simpa using hc
              simp [hfirst, Ne.symm hc]
            · exact ih (List.mem_cons_of_mem _ h)

end JsString
