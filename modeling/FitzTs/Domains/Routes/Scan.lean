import FitzTs.Domains.Routes.Matching
import FitzTs.Lib.Utf8.RoundTrip
/-!
# FitzTs.Domains.Routes.Scan

**The scans of `domains/_routes.ts` by index.** `wireSizeIsValid` counts bytes code unit by code
unit; `scanConcrete` and `isRegistrationPatternShape` walk a route once and look at a segment when
they reach the slash behind it. Each is a loop here, and each returns what its definition in
`FitzTs.Domains.Routes` says about the segments of the route.
-/

namespace FitzTs.Routes

open JsString

/-! ## The size on the wire -/

/-- The variables of the loop of `wireSizeIsValid`. -/
structure WireSizeState where
  index : Nat
  bytes : Nat
  deriving DecidableEq, Repr

/-- The code unit at `index` is the second half of a surrogate pair. -/
def isLowSurrogateAt (route : JsString) (index : Nat) : Bool :=
  route[index]?.any fun code => 0xdc00 ≤ code ∧ code ≤ 0xdfff

/-- One round of the loop. -/
def wireSizeRound (route : JsString) (s : WireSizeState) : WireSizeState ⊕ Bool :=
  match route[s.index]? with
  | none => .inr true
  | some code =>
    if code < 0x80 then .inl { s with index := s.index + 1 }
    else
      let next : WireSizeState :=
        if code < 0x800 then ⟨s.index, s.bytes + 1⟩
        else if 0xd800 ≤ code ∧ code ≤ 0xdbff ∧ isLowSurrogateAt route (s.index + 1) then
          ⟨s.index + 1, s.bytes + 2⟩
        else ⟨s.index, s.bytes + 2⟩
      if next.bytes > maxWireBytes then .inr false
      else .inl { next with index := next.index + 1 }

/-- `wireSizeIsValid(route)`, if it returns within so many rounds. -/
def wireSizeIsValidWithin (rounds : Nat) (route : JsString) : Option Bool :=
  if route.length > maxWireBytes then some false
  else Loop.run (wireSizeRound route) rounds ⟨0, route.length⟩

section

variable {route s : JsString} {c d : UInt16}

/-- A surrogate pair takes four bytes. -/
theorem utf8Length_pair (h : 0xd800 ≤ c ∧ c ≤ 0xdbff ∧ 0xdc00 ≤ d ∧ d ≤ 0xdfff) :
    utf8Length (c :: d :: s) = 4 + utf8Length s := by
  have hhigh : ¬ c < 0x80 ∧ ¬ c < 0x800 := by
    have h1 := h.1
    simp only [UInt16.le_iff_toNat_le, UInt16.lt_iff_toNat_lt] at h1 ⊢
    have h2 : (0x80 : UInt16).toNat = 0x80 := rfl
    have h3 : (0x800 : UInt16).toNat = 0x800 := rfl
    have h4 : (0xd800 : UInt16).toNat = 0xd800 := rfl
    omega
  rw [utf8Length, if_neg hhigh.1, if_neg hhigh.2, if_pos h]

/-- A unit on its own takes one to three bytes. -/
theorem utf8Length_unit
    (h : ∀ d ∈ s.head?, ¬ (0xd800 ≤ c ∧ c ≤ 0xdbff ∧ 0xdc00 ≤ d ∧ d ≤ 0xdfff)) :
    utf8Length (c :: s) =
      (if c < 0x80 then 1 else if c < 0x800 then 2 else 3) + utf8Length s := by
  cases s with
  | nil => rfl
  | cons d s =>
      rw [utf8Length, if_neg (h d rfl)]
      split_ifs <;> rfl

/-- No unit takes less than a byte. -/
theorem length_le_utf8Length (s : JsString) : s.length ≤ utf8Length s := by
  fun_induction utf8Length s
  all_goals
    simp only [List.length_cons, List.length_nil] at *
    omega

/-- The bytes counted so far, and those that are still counted as one for each code unit. -/
structure CountsBytes (route : JsString) (s : WireSizeState) : Prop where
  index_le : s.index ≤ route.length
  bytes_le : s.bytes ≤ maxWireBytes
  total : s.bytes + utf8Length (route.drop s.index) =
    utf8Length route + (route.length - s.index)

theorem isLowSurrogateAt_iff {n : Nat} : isLowSurrogateAt route n = true ↔
    ∃ d, route[n]? = some d ∧ 0xdc00 ≤ d ∧ d ≤ 0xdfff := by
  simp [isLowSurrogateAt, Option.any_eq_true]

/-- A code unit that is not the first half of a pair. -/
theorem utf8Length_drop {n : Nat} (h : route[n]? = some c)
    (hpair : ¬ (0xd800 ≤ c ∧ c ≤ 0xdbff ∧ isLowSurrogateAt route (n + 1) = true)) :
    utf8Length (route.drop n) =
      (if c < 0x80 then 1 else if c < 0x800 then 2 else 3) + utf8Length (route.drop (n + 1)) := by
  rw [(drop_eq_cons h).2]
  refine utf8Length_unit fun d hd hall => hpair ⟨hall.1, hall.2.1, ?_⟩
  rw [List.head?_drop] at hd
  exact isLowSurrogateAt_iff.mpr ⟨d, hd, hall.2.2⟩

theorem utf8Length_drop_pair {n : Nat} (h : route[n]? = some c)
    (hpair : 0xd800 ≤ c ∧ c ≤ 0xdbff ∧ isLowSurrogateAt route (n + 1) = true) :
    n + 1 < route.length ∧ utf8Length (route.drop n) = 4 + utf8Length (route.drop (n + 2)) := by
  obtain ⟨d, hd, hlow⟩ := isLowSurrogateAt_iff.mp hpair.2.2
  obtain ⟨hlt, hdrop⟩ := drop_eq_cons hd
  rw [(drop_eq_cons h).2, hdrop]
  exact ⟨hlt, utf8Length_pair ⟨hpair.1, hpair.2.1, hlow⟩⟩

/-- The code units below U+0800 are no surrogates. -/
theorem not_surrogate_of_lt (h : c < 0x800) : ¬ 0xd800 ≤ c := by
  simp only [UInt16.le_iff_toNat_le, UInt16.lt_iff_toNat_lt] at h ⊢
  have h1 : (0x800 : UInt16).toNat = 0x800 := rfl
  have h2 : (0xd800 : UInt16).toNat = 0xd800 := rfl
  omega

theorem lt_of_ascii (h : c < 0x80) : c < 0x800 := by
  simp only [UInt16.lt_iff_toNat_lt] at h ⊢
  exact Nat.lt_trans h (by decide)

/-- What the loop goes on with at a code unit, and what it has counted then. -/
theorem wireSizeRound_step {state : WireSizeState} (h : route[state.index]? = some c)
    (htotal : state.bytes + utf8Length (route.drop state.index) =
      utf8Length route + (route.length - state.index)) :
    ∃ next : WireSizeState, state.index < next.index ∧ next.index ≤ route.length ∧
      next.bytes + utf8Length (route.drop next.index) =
        utf8Length route + (route.length - next.index) ∧
      (next.bytes = state.bytes ∧ wireSizeRound route state = .inl next ∨
        wireSizeRound route state =
          if next.bytes > maxWireBytes then .inr false else .inl next) := by
  obtain ⟨hlt, -⟩ := drop_eq_cons h
  by_cases hascii : c < 0x80
  · have hlength := utf8Length_drop h fun hp => not_surrogate_of_lt (lt_of_ascii hascii) hp.1
    rw [if_pos hascii] at hlength
    refine ⟨⟨state.index + 1, state.bytes⟩, Nat.lt_succ_self _, hlt, ?_, Or.inl ⟨rfl, ?_⟩⟩
    · dsimp only
      omega
    · simp only [wireSizeRound, h, if_pos hascii]
  · by_cases htwo : c < 0x800
    · have hlength := utf8Length_drop h fun hp => not_surrogate_of_lt htwo hp.1
      rw [if_neg hascii, if_pos htwo] at hlength
      refine ⟨⟨state.index + 1, state.bytes + 1⟩, Nat.lt_succ_self _, hlt, ?_, Or.inr ?_⟩
      · dsimp only
        omega
      · simp only [wireSizeRound, h, if_neg hascii, if_pos htwo]
    · by_cases hpair : 0xd800 ≤ c ∧ c ≤ 0xdbff ∧ isLowSurrogateAt route (state.index + 1) = true
      · obtain ⟨hlt', hlength⟩ := utf8Length_drop_pair h hpair
        refine ⟨⟨state.index + 2, state.bytes + 2⟩, ?_, hlt', ?_, Or.inr ?_⟩
        · dsimp only
          omega
        · dsimp only
          omega
        · simp only [wireSizeRound, h, if_neg hascii, if_neg htwo, if_pos hpair]
      · have hlength := utf8Length_drop h hpair
        rw [if_neg hascii, if_neg htwo] at hlength
        refine ⟨⟨state.index + 1, state.bytes + 2⟩, Nat.lt_succ_self _, hlt, ?_, Or.inr ?_⟩
        · dsimp only
          omega
        · simp only [wireSizeRound, h, if_neg hascii, if_neg htwo, if_neg hpair]

variable {state state' : WireSizeState}

/-- **One round** counts what it passes. -/
theorem CountsBytes.next (h : CountsBytes route state)
    (hround : wireSizeRound route state = .inl state') :
    CountsBytes route state' ∧ route.length - state'.index < route.length - state.index := by
  cases hcode : route[state.index]? with
  | none =>
      rw [wireSizeRound, hcode] at hround
      cases hround
  | some c =>
      obtain ⟨next, hlt, hle, htotal, hcases⟩ := wireSizeRound_step hcode h.total
      have hbytes : next = state' ∧ next.bytes ≤ maxWireBytes := by
        rcases hcases with ⟨hsame, heq⟩ | heq
        · exact ⟨Sum.inl.inj (heq.symm.trans hround), hsame ▸ h.bytes_le⟩
        · rw [heq] at hround
          split at hround
          · cases hround
          · exact ⟨Sum.inl.inj hround, by omega⟩
      obtain ⟨rfl, hbytes⟩ := hbytes
      exact ⟨⟨hle, hbytes, htotal⟩, by omega⟩

/-- The loop returns at the end of the route, or when the bytes are too many. -/
theorem CountsBytes.return (h : CountsBytes route state) {b : Bool}
    (hround : wireSizeRound route state = .inr b) :
    b = decide (utf8Length route ≤ maxWireBytes) := by
  cases hcode : route[state.index]? with
  | none =>
      rw [wireSizeRound, hcode] at hround
      obtain rfl := Sum.inr.inj hround
      have hend : state.index = route.length :=
        Nat.le_antisymm h.index_le (List.getElem?_eq_none_iff.mp hcode)
      have htotal := h.total
      rw [hend, List.drop_length, utf8Length] at htotal
      have hbytes := h.bytes_le
      exact (decide_eq_true (by omega)).symm
  | some c =>
      obtain ⟨next, -, hle, htotal, hcases⟩ := wireSizeRound_step hcode h.total
      rcases hcases with ⟨-, heq⟩ | heq
      · rw [heq] at hround
        cases hround
      · rw [heq] at hround
        split at hround
        case isFalse => cases hround
        case isTrue hover =>
          obtain rfl := Sum.inr.inj hround
          have hrest := length_le_utf8Length (route.drop next.index)
          rw [List.length_drop] at hrest
          exact (decide_eq_false (by omega)).symm

end

/-- **The size check** returns what it is defined to be. -/
theorem wireSizeIsValidWithin_returns (route : JsString) :
    ∃ n, ∀ rounds ≥ n, wireSizeIsValidWithin rounds route = some (wireSizeIsValid route) := by
  by_cases hlong : route.length > maxWireBytes
  · refine ⟨0, fun _ _ => ?_⟩
    rw [wireSizeIsValidWithin, if_pos hlong, wireSizeIsValid, decide_eq_false (by omega)]
    rfl
  · obtain ⟨b, ⟨n, hn⟩, rfl⟩ : ∃ b, Loop.Returns (wireSizeRound route) ⟨0, route.length⟩ b ∧
        b = decide (utf8Length route ≤ maxWireBytes) :=
      Loop.total_of_measure (I := CountsBytes route) (fun s => route.length - s.index)
        (fun _ _ h hround => h.next hround) (fun _ _ h hround => h.return hround)
        ⟨Nat.zero_le _, Nat.le_of_not_lt hlong, by simp [Nat.add_comm]⟩
    refine ⟨n, fun rounds hrounds => ?_⟩
    rw [wireSizeIsValidWithin, if_neg hlong, Loop.run_mono hn hrounds, wireSizeIsValid,
      decide_eq_true (Nat.le_of_not_lt hlong), Bool.true_and]

/-! ## Walking the segments -/

/-- The variables of a walk; `found` is what it has made of the segments before `segmentStart`. -/
structure ScanState (τ : Type) where
  index : Nat
  segmentStart : Nat
  found : τ
  deriving DecidableEq, Repr

/-- One round of a walk: to the next code unit, or, at a slash and at the end, over the segment
that ends here. `segment` is `none` where the scan returns `false`. -/
def scanRound {τ : Type} (route : JsString) (segment : Nat → Nat → τ → Option τ) (s : ScanState τ) :
    ScanState τ ⊕ Option τ :=
  if s.index ≤ route.length then
    if s.index ≠ route.length ∧ route[s.index]? ≠ some slash then
      .inl { s with index := s.index + 1 }
    else
      match segment s.segmentStart s.index s.found with
      | none => .inr none
      | some found => .inl ⟨s.index + 1, s.index + 1, found⟩
  else .inr (some s.found)

/-- The code units from `start` to before `stop`. -/
def segmentAt (route : JsString) (start stop : Nat) : JsString := (route.take stop).drop start

/-- `containsAsterisk(route, start, end)`. -/
def containsAsteriskAt (route : JsString) (start stop : Nat) : Bool :=
  containsAsterisk (segmentAt route start stop)

section

variable {route : JsString} {start stop : Nat}

theorem drop_eq_segmentAt (hle : start ≤ stop) :
    route.drop start = segmentAt route start stop ++ route.drop stop := by
  have hsplit := List.take_append_drop (stop - start) (route.drop start)
  rw [List.drop_drop, Nat.add_sub_cancel' hle] at hsplit
  rw [segmentAt, List.drop_take, hsplit]

theorem split_at_slash (hle : start ≤ stop) (hno : slash ∉ segmentAt route start stop)
    (hslash : route[stop]? = some slash) : split (route.drop start) slash =
      segmentAt route start stop :: split (route.drop (stop + 1)) slash := by
  rw [drop_eq_segmentAt hle, (drop_eq_cons hslash).2]
  exact List.splitOn_append_cons_self_of_not_mem hno _

theorem split_at_end (hno : slash ∉ segmentAt route start route.length) :
    split (route.drop start) slash = [segmentAt route start route.length] := by
  have hdrop : segmentAt route start route.length = route.drop start := by
    rw [segmentAt, List.take_length]
  rw [hdrop] at hno ⊢
  exact List.splitOn_eq_singleton hno

theorem segmentAt_succ {c : UInt16} (hle : start ≤ stop) (hc : route[stop]? = some c) :
    segmentAt route start (stop + 1) = segmentAt route start stop ++ [c] := by
  have htake : (route.take (stop + 1)) = route.take stop ++ [c] := by
    rw [List.take_add_one, hc]
    rfl
  have hlt := (drop_eq_cons hc).1
  rw [segmentAt, htake, List.drop_append_of_le_length (by rw [List.length_take]; omega), segmentAt]

theorem length_segmentAt (start : Nat) (hstop : stop ≤ route.length) :
    (segmentAt route start stop).length = stop - start := by
  rw [segmentAt, List.length_drop, List.length_take, Nat.min_eq_left hstop]

theorem getElem?_segmentAt {i : Nat} (hi : start + i < stop) :
    (segmentAt route start stop)[i]? = route[start + i]? := by
  rw [segmentAt, List.getElem?_drop, List.getElem?_take_of_lt hi]

end

section

variable {τ : Type} {route : JsString} {segment : Nat → Nat → τ → Option τ}
  {visit : τ → JsString → Option τ} {result : Option τ} {s s' : ScanState τ}

/-- The walk makes of the rest of the route what `visit` makes of its segments, one after the
other. -/
inductive Walks (route : JsString) (visit : τ → JsString → Option τ) (result : Option τ)
    (s : ScanState τ) : Prop
  | inside (hstart : s.segmentStart ≤ s.index) (hindex : s.index ≤ route.length)
      (hno : slash ∉ segmentAt route s.segmentStart s.index)
      (hrest : (split (route.drop s.segmentStart) slash).foldlM visit s.found = result)
  | finished (hindex : s.index = route.length + 1) (hrest : some s.found = result)

/-- **One round** of a walk whose test is `visit` of the segment. -/
theorem Walks.next (h : Walks route visit result s)
    (hsegment : ∀ start stop found, start ≤ stop → stop ≤ route.length →
      segment start stop found = visit found (segmentAt route start stop))
    (hround : scanRound route segment s = .inl s') :
    Walks route visit result s' ∧ route.length + 1 - s'.index < route.length + 1 - s.index := by
  unfold scanRound at hround
  split at hround
  case isFalse => cases hround
  case isTrue hle =>
    obtain ⟨hstart, hindex, hno, hrest⟩ | ⟨hindex, -⟩ := h
    case finished => omega
    split at hround
    case isTrue hunit =>
      obtain rfl := Sum.inl.inj hround
      obtain ⟨c, hc⟩ : ∃ c, route[s.index]? = some c :=
        ⟨_, List.getElem?_eq_getElem (Nat.lt_of_le_of_ne hindex hunit.1)⟩
      have hlt := (drop_eq_cons hc).1
      refine ⟨.inside (Nat.le_succ_of_le hstart) hlt ?_ hrest, by dsimp only; omega⟩
      rw [segmentAt_succ hstart hc, List.mem_append, List.mem_singleton, not_or]
      exact ⟨hno, fun heq => hunit.2 (heq ▸ hc)⟩
    case isFalse hend =>
      rw [hsegment _ _ _ hstart hindex] at hround
      cases hvisit : visit s.found (segmentAt route s.segmentStart s.index) with
      | none =>
          rw [hvisit] at hround
          cases hround
      | some found =>
          rw [hvisit] at hround
          obtain rfl := Sum.inl.inj hround
          refine ⟨?_, by dsimp only; omega⟩
          by_cases hslash : route[s.index]? = some slash
          · rw [split_at_slash hstart hno hslash, List.foldlM_cons, hvisit] at hrest
            refine .inside (Nat.le_refl _) (drop_eq_cons hslash).1 ?_ hrest
            simp [segmentAt]
          · have hlast : s.index = route.length := by
              by_contra hne
              exact hend ⟨hne, hslash⟩
            rw [hlast] at hno hvisit ⊢
            rw [split_at_end hno, List.foldlM_cons, hvisit] at hrest
            exact .finished rfl hrest

/-- The walk has returned: it visited every segment, or one stopped it. -/
theorem Walks.return (h : Walks route visit result s)
    (hsegment : ∀ start stop found, start ≤ stop → stop ≤ route.length →
      segment start stop found = visit found (segmentAt route start stop))
    {found : Option τ} (hround : scanRound route segment s = .inr found) : found = result := by
  unfold scanRound at hround
  split at hround
  case isFalse hend =>
    obtain ⟨-, hindex, -, -⟩ | ⟨-, hrest⟩ := h
    case inside => exact absurd hindex hend
    exact (Sum.inr.inj hround).symm.trans hrest
  case isTrue hle =>
    obtain ⟨hstart, hindex, hno, hrest⟩ | ⟨hindex, -⟩ := h
    case finished => omega
    split at hround
    case isTrue => cases hround
    case isFalse hend =>
      rw [hsegment _ _ _ hstart hindex] at hround
      cases hvisit : visit s.found (segmentAt route s.segmentStart s.index) with
      | some found =>
          rw [hvisit] at hround
          cases hround
      | none =>
          rw [hvisit] at hround
          obtain rfl := Sum.inr.inj hround
          by_cases hslash : route[s.index]? = some slash
          · rw [split_at_slash hstart hno hslash, List.foldlM_cons, hvisit] at hrest
            exact hrest
          · have hlast : s.index = route.length := by
              by_contra hne
              exact hend ⟨hne, hslash⟩
            rw [hlast] at hno hvisit
            rw [split_at_end hno, List.foldlM_cons, hvisit] at hrest
            exact hrest

/-- **A walk visits the segments** one after the other. -/
theorem scanRound_returns (hsegment : ∀ start stop found, start ≤ stop → stop ≤ route.length →
      segment start stop found = visit found (segmentAt route start stop))
    {start : Nat} (hstart : start ≤ route.length) (found : τ) :
    Loop.Returns (scanRound route segment) ⟨start, start, found⟩
      ((split (route.drop start) slash).foldlM visit found) := by
  obtain ⟨b, hb, rfl⟩ : ∃ b, Loop.Returns (scanRound route segment) ⟨start, start, found⟩ b ∧
      b = (split (route.drop start) slash).foldlM visit found :=
    Loop.total_of_measure
      (I := Walks route visit ((split (route.drop start) slash).foldlM visit found))
      (fun s => route.length + 1 - s.index) (fun _ _ h hround => h.next hsegment hround)
      (fun _ _ h hround => h.return hsegment hround)
      (.inside (Nat.le_refl _) hstart (by simp [segmentAt]) rfl)
  exact hb

end

/-! ## The scans -/

/-- The body of `scanConcrete` at the end of a segment. -/
def concreteSegment (route : JsString) (start stop count : Nat) : Option Nat :=
  if stop = start ∨ containsAsteriskAt route start stop then none else some (count + 1)

/-- `scanConcrete(route, start, expectedSegments)`, if it returns within so many rounds. -/
def scanConcreteWithin (rounds : Nat) (route : JsString) (start expectedSegments : Nat) :
    Option Bool :=
  (Loop.run (scanRound route (concreteSegment route)) rounds ⟨start, start, 0⟩).map fun found =>
    found.any fun count => count > 0 && (expectedSegments = 0 || count = expectedSegments)

/-- `isRouteShape(route, scheme, segmentCount, allowBareRoute)`, if it returns within so many
rounds. -/
def isRouteShapeWithin (rounds : Nat) (route scheme : JsString) (segmentCount : Nat)
    (allowBareRoute : Bool) : Option Bool :=
  match pathStart route scheme allowBareRoute with
  | none => some false
  | some start => scanConcreteWithin rounds route start segmentCount

/-- The variables of `isRegistrationPatternShape`, but for the two positions. -/
structure PatternCounts where
  segmentCount : Nat := 0
  doubleWildcardCount : Nat := 0
  previousWasDouble : Bool := false
  deriving DecidableEq, Repr

/-- The body of `isRegistrationPatternShape` at the end of a segment. -/
def patternSegment (route : JsString) (start stop : Nat) (found : PatternCounts) :
    Option PatternCounts :=
  let length := stop - start
  if length = 0 then none
  else
    let single := length = 1 ∧ route[start]? = some asterisk
    let double := length = 2 ∧ route[start]? = some asterisk ∧ route[start + 1]? = some asterisk
    if ¬ single ∧ ¬ double ∧ containsAsteriskAt route start stop then none
    else if double ∧ found.previousWasDouble then none
    else some
      { segmentCount := found.segmentCount + 1
        doubleWildcardCount := found.doubleWildcardCount + if double then 1 else 0
        previousWasDouble := double }

/-- `isRegistrationPatternShape(route, scheme, requiredSegments)`, if it returns within so many
rounds. -/
def isRegistrationPatternShapeWithin (rounds : Nat) (route scheme : JsString)
    (requiredSegments : Nat) : Option Bool :=
  match pathStart route scheme false with
  | none => some false
  | some start =>
    (Loop.run (scanRound route (patternSegment route)) rounds ⟨start, start, {}⟩).map fun found =>
      found.any fun found =>
        if requiredSegments = 0 then true
        else if found.doubleWildcardCount = 0 then found.segmentCount = requiredSegments
        else found.segmentCount - found.doubleWildcardCount ≤ requiredSegments

section

variable {route scheme : JsString} {start stop : Nat}

theorem concreteSegment_eq {count : Nat} (hle : start ≤ stop) (hstop : stop ≤ route.length) :
    concreteSegment route start stop count =
      if segmentAt route start stop = [] ∨ containsAsterisk (segmentAt route start stop) then none
      else some (count + 1) := by
  have hempty : stop = start ↔ segmentAt route start stop = [] := by
    rw [← List.length_eq_zero_iff, length_segmentAt start hstop]
    omega
  simp only [concreteSegment, containsAsteriskAt, hempty]

/-- A route is concrete if each of its segments is. -/
theorem foldlM_concrete {segments : List JsString} {count : Nat} :
    segments.foldlM (fun count segment =>
      if segment = [] ∨ containsAsterisk segment then none else some (count + 1)) count =
        if segments.all (fun segment => segment ≠ [] && !containsAsterisk segment) then
          some (count + segments.length)
        else none := by
  induction segments generalizing count with
  | nil => rfl
  | cons segment segments ih =>
      rw [List.foldlM_cons, List.all_cons]
      by_cases hbad : segment = [] ∨ containsAsterisk segment = true
      · have hfalse : (segment ≠ [] && !containsAsterisk segment : Bool) = false := by
          rcases hbad with rfl | hbad <;> simp [*]
        rw [if_pos hbad, hfalse]
        rfl
      · have htrue : (segment ≠ [] && !containsAsterisk segment : Bool) = true := by
          rw [not_or] at hbad
          simp [hbad]
        rw [if_neg hbad, htrue, Bool.true_and, Option.bind_eq_bind, Option.bind_some, ih,
          List.length_cons, Nat.add_right_comm, Nat.add_assoc]

/-- **`scanConcrete`** returns what it is defined to be. -/
theorem scanConcreteWithin_returns (hstart : start ≤ route.length) (expectedSegments : Nat) :
    ∃ n, ∀ rounds ≥ n, scanConcreteWithin rounds route start expectedSegments =
      some (scanConcrete (split (route.drop start) slash) expectedSegments) := by
  obtain ⟨n, hn⟩ : Loop.Returns (scanRound route (concreteSegment route)) ⟨start, start, 0⟩
      ((split (route.drop start) slash).foldlM (fun count segment =>
        if segment = [] ∨ containsAsterisk segment then none else some (count + 1)) 0) :=
    scanRound_returns (fun _ _ _ hle hstop => concreteSegment_eq hle hstop) hstart 0
  refine ⟨n, fun rounds hrounds => ?_⟩
  rw [scanConcreteWithin, Loop.run_mono hn hrounds, foldlM_concrete, Option.map_some, scanConcrete]
  split
  case isTrue hall => rw [hall, Option.any_some, Nat.zero_add, Bool.true_and]
  case isFalse hall =>
    rw [Bool.eq_false_of_not_eq_true hall]
    rfl

/-- What one segment of a pattern is to the scan. -/
def visitPattern (found : PatternCounts) (segment : JsString) : Option PatternCounts :=
  if segment = [] then none
  else if segment ≠ singleWildcard ∧ segment ≠ doubleWildcard ∧ containsAsterisk segment then none
  else if segment = doubleWildcard ∧ found.previousWasDouble then none
  else some
    { segmentCount := found.segmentCount + 1
      doubleWildcardCount := found.doubleWildcardCount + if segment = doubleWildcard then 1 else 0
      previousWasDouble := segment = doubleWildcard }

/-- `segmentEquals` compares unit by unit. -/
theorem segmentAt_eq_iff (hstop : stop ≤ route.length) (segment : JsString) :
    segmentAt route start stop = segment ↔
      stop - start = segment.length ∧ ∀ i < segment.length, route[start + i]? = segment[i]? := by
  constructor
  · rintro rfl
    refine ⟨(length_segmentAt start hstop).symm, fun i hi => ?_⟩
    rw [length_segmentAt start hstop] at hi
    exact (getElem?_segmentAt (by omega)).symm
  · rintro ⟨hlength, hunits⟩
    refine List.ext_getElem? fun i => ?_
    by_cases hi : i < segment.length
    · rw [getElem?_segmentAt (by omega), hunits i hi]
    · have hlength' := length_segmentAt start hstop
      rw [List.getElem?_eq_none (Nat.le_of_not_lt hi), List.getElem?_eq_none (by omega)]

/-- The visit of a segment, read off the route or off the segment. -/
theorem patternSegment_eq (found : PatternCounts) (hstop : stop ≤ route.length) :
    patternSegment route start stop found = visitPattern found (segmentAt route start stop) := by
  have hempty : stop - start = 0 ↔ segmentAt route start stop = [] := by
    rw [← List.length_eq_zero_iff, length_segmentAt start hstop]
  have hsingle : stop - start = 1 ∧ route[start]? = some asterisk ↔
      segmentAt route start stop = singleWildcard := by
    rw [segmentAt_eq_iff hstop]
    simp [singleWildcard]
  have hdouble : stop - start = 2 ∧ route[start]? = some asterisk ∧
      route[start + 1]? = some asterisk ↔ segmentAt route start stop = doubleWildcard := by
    have hunits : (∀ i < doubleWildcard.length, route[start + i]? = doubleWildcard[i]?) ↔
        route[start]? = some asterisk ∧ route[start + 1]? = some asterisk := by
      refine ⟨fun h => ⟨h 0 (by decide), h 1 (by decide)⟩, fun h i hi => ?_⟩
      have hlt : i < 2 := hi
      obtain rfl | rfl : i = 0 ∨ i = 1 := by omega
      · exact h.1
      · exact h.2
    rw [segmentAt_eq_iff hstop, hunits]
    rfl
  simp only [patternSegment, visitPattern, containsAsteriskAt, hempty, hsingle, hdouble]

theorem foldlM_pattern (segments : List JsString) (found : PatternCounts) :
    (segments.foldlM visitPattern found).map
        (fun found => (found.segmentCount, found.doubleWildcardCount)) =
      scanPattern found.previousWasDouble found.segmentCount found.doubleWildcardCount
        segments := by
  induction segments generalizing found with
  | nil => rfl
  | cons segment segments ih =>
      rw [List.foldlM_cons, scanPattern, visitPattern]
      by_cases hempty : segment = []
      · rw [if_pos hempty, if_pos hempty]
        rfl
      · rw [if_neg hempty, if_neg hempty]
        by_cases hbad : ¬ segment = singleWildcard ∧ ¬ segment = doubleWildcard ∧
            containsAsterisk segment = true
        · simp only [ne_eq, if_pos hbad]
          rfl
        · simp only [ne_eq, if_neg hbad]
          by_cases hdouble : segment = doubleWildcard
          · cases hprevious : found.previousWasDouble with
            | true =>
                simp only [hdouble, true_and, if_true]
                rfl
            | false =>
                simp only [hdouble, Bool.false_eq_true, and_false, if_false, if_true, decide_true,
                  Option.bind_eq_bind, Option.bind_some, ih]
          · simp only [hdouble, false_and, if_false, decide_false, Option.bind_eq_bind,
              Option.bind_some, ih, Nat.add_zero]

theorem pathStart_le {allowBare : Bool} (h : pathStart route scheme allowBare = some start) :
    start ≤ route.length := by
  unfold pathStart at h
  split_ifs at h with hsize hscheme hbare
  · obtain rfl := Option.some.inj h
    simp only [Bool.and_eq_true, decide_eq_true_eq] at hscheme
    omega
  · obtain rfl := Option.some.inj h
    exact Nat.zero_le _

/-- **`isRouteShape`** returns what it is defined to be. -/
theorem isRouteShapeWithin_returns (route scheme : JsString) (segmentCount : Nat)
    (allowBareRoute : Bool) :
    ∃ n, ∀ rounds ≥ n, isRouteShapeWithin rounds route scheme segmentCount allowBareRoute =
      some (isRouteShape route scheme segmentCount allowBareRoute) := by
  unfold isRouteShapeWithin isRouteShape
  cases hstart : pathStart route scheme allowBareRoute with
  | none => exact ⟨0, fun _ _ => rfl⟩
  | some start => exact scanConcreteWithin_returns (pathStart_le hstart) segmentCount

/-- **`isRegistrationPatternShape`** returns what it is defined to be. -/
theorem isRegistrationPatternShapeWithin_returns (route scheme : JsString)
    (requiredSegments : Nat) :
    ∃ n, ∀ rounds ≥ n, isRegistrationPatternShapeWithin rounds route scheme requiredSegments =
      some (isRegistrationPatternShape route scheme requiredSegments) := by
  cases hstart : pathStart route scheme false with
  | none =>
      refine ⟨0, fun _ _ => ?_⟩
      simp only [isRegistrationPatternShapeWithin, isRegistrationPatternShape, hstart]
  | some start =>
      obtain ⟨n, hn⟩ : Loop.Returns (scanRound route (patternSegment route)) ⟨start, start, {}⟩
          ((split (route.drop start) slash).foldlM visitPattern {}) :=
        scanRound_returns (fun _ _ found _ hstop => patternSegment_eq found hstop)
          (pathStart_le hstart) {}
      refine ⟨n, fun rounds hrounds => ?_⟩
      have hscan := foldlM_pattern (split (route.drop start) slash) {}
      simp only [isRegistrationPatternShapeWithin, isRegistrationPatternShape, hstart,
        Loop.run_mono hn hrounds, Option.map_some, Option.some.injEq]
      rw [← hscan]
      cases (split (route.drop start) slash).foldlM visitPattern {} with
      | none => rfl
      | some found =>
          simp only [Option.any_some, Option.map_some]

end

end FitzTs.Routes
