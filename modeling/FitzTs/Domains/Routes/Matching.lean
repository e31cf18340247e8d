import FitzTs.Domains.Routes
import FitzTs.Lib.Loop
/-!
# FitzTs.Domains.Routes.Matching

**The matcher decides the language of a pattern.** `routeMatchesPattern` of `domains/_routes.ts`
with its two indices, as a loop. The variant is lexicographic: the loop goes back to the last `**`
only to let it take one segment more, and between two such rounds the pattern gets shorter.

## Main result

* `routeMatchesPattern_decides` — the loop returns, and returns `true` exactly if the schemes are
  equal and the pattern matches the segments of the route.
-/

namespace FitzTs.Routes

open JsString Glob

/-! ## Routes and patterns as values -/

/-- What stands before the first `://`. -/
structure Scheme where
  text : JsString
  text_ne : text ≠ []
  no_marker : indexOf (js "://") text = none

/-- Segments behind a scheme. -/
def Scheme.route (scheme : Scheme) (segments : List JsString) : JsString :=
  scheme.text ++ (js "://" ++ [slash].intercalate segments)

structure ConcreteRoute where
  scheme : Scheme
  segments : List JsString
  segments_ne : segments ≠ []
  concrete : ∀ segment ∈ segments, IsConcreteSegment segment

def ConcreteRoute.text (route : ConcreteRoute) : JsString := route.scheme.route route.segments

/-- A pattern of any segments; those that are neither `*` nor `**` stand for themselves. -/
structure Pattern where
  scheme : Scheme
  segments : List JsString
  segments_ne : segments ≠ []
  no_slash : ∀ segment ∈ segments, slash ∉ segment

def Pattern.text (pattern : Pattern) : JsString := pattern.scheme.route pattern.segments

/-- The language of a pattern. -/
def Pattern.Takes (pattern : Pattern) (segments : List JsString) : Prop :=
  Matches (pattern.segments.map token) segments

/-- The marker behind a text without one is the first. -/
theorem indexOf_marker {text path : JsString} (h : indexOf (js "://") text = none) :
    indexOf (js "://") (text ++ (js "://" ++ path)) = some text.length := by
  have hmarker : js "://" = [58, 47, 47] := by decide
  rw [hmarker] at h ⊢
  induction text with
  | nil => simp [indexOf]
  | cons c text ih =>
      have hsplit : ([58, 47, 47].isPrefixOf (c :: text)) = false ∧
          indexOf [58, 47, 47] text = none := by
        unfold indexOf at h
        split at h
        · cases h
        · rename_i hstart
          exact ⟨Bool.not_eq_true _ ▸ hstart, Option.map_eq_none_iff.mp h⟩
      obtain ⟨hstart, hrest⟩ := hsplit
      have hhere : ([58, 47, 47].isPrefixOf (c :: (text ++ ([58, 47, 47] ++ path)))) = false := by
        match text with
        | [] => simp [List.isPrefixOf]
        | [d] => simp [List.isPrefixOf]
        | d :: e :: text => simpa [List.isPrefixOf] using hstart
      rw [List.cons_append, indexOf, hhere, ih hrest]
      rfl

section

variable (scheme : Scheme) {segments : List JsString}

theorem Scheme.indexOf_route (segments : List JsString) :
    indexOf (js "://") (scheme.route segments) = some scheme.text.length :=
  indexOf_marker scheme.no_marker

theorem Scheme.take_route (segments : List JsString) :
    (scheme.route segments).take scheme.text.length = scheme.text :=
  List.take_left

theorem Scheme.exists_length : ∃ n, scheme.text.length = n + 1 :=
  Nat.exists_eq_succ_of_ne_zero (List.length_pos_iff.mpr scheme.text_ne).ne'

/-- Where the path starts. -/
theorem Scheme.drop_route (segments : List JsString) :
    (scheme.route segments).drop (scheme.text.length + 3) = [slash].intercalate segments := by
  have hmarker : (js "://").length = 3 := by decide
  rw [← hmarker, Scheme.route, ← List.append_assoc]
  exact List.drop_left' (List.length_append ..)

theorem Scheme.routeSegmentsOf_route (hne : segments ≠ [])
    (hslash : ∀ segment ∈ segments, slash ∉ segment) :
    routeSegmentsOf (scheme.route segments) = some segments := by
  obtain ⟨n, hn⟩ := scheme.exists_length
  have hdrop : (scheme.route segments).drop (n + 1 + 3) = [slash].intercalate segments :=
    hn ▸ scheme.drop_route segments
  unfold routeSegmentsOf
  rw [scheme.indexOf_route, hn]
  simp only [hdrop, split_intercalate hslash hne]

end

/-! ## The loop -/

/-- The variables of the loop of `routeMatchesPattern`. -/
structure MatchState where
  routeIndex : Nat := 0
  patternIndex : Nat := 0
  /-- `none` is `-1`. -/
  lastDoubleWildcard : Option Nat := none
  lastDoubleMatch : Nat := 0
  deriving DecidableEq, Repr

/-- `while (patternSegments[patternIndex] === "**") patternIndex++`, and the comparison after it. -/
def endsInDoubles (patternSegments : List JsString) (patternIndex : Nat) : Bool :=
  patternIndex + ((patternSegments.drop patternIndex).takeWhile (· = doubleWildcard)).length =
    patternSegments.length

/-- One round of the loop. -/
def matchRound (routeSegments patternSegments : List JsString) (s : MatchState) :
    MatchState ⊕ Bool :=
  if s.routeIndex < routeSegments.length then
    let segment := patternSegments[s.patternIndex]?
    if segment = some singleWildcard ∨ segment = routeSegments[s.routeIndex]? then
      .inl { s with routeIndex := s.routeIndex + 1, patternIndex := s.patternIndex + 1 }
    else if segment = some doubleWildcard then
      .inl { s with
        patternIndex := s.patternIndex + 1
        lastDoubleWildcard := some s.patternIndex
        lastDoubleMatch := s.routeIndex }
    else
      match s.lastDoubleWildcard with
      | none => .inr false
      | some lastDoubleWildcard =>
        .inl { s with
          routeIndex := s.lastDoubleMatch + 1
          patternIndex := lastDoubleWildcard + 1
          lastDoubleMatch := s.lastDoubleMatch + 1 }
  else .inr (endsInDoubles patternSegments s.patternIndex)

/-- `routeMatchesPattern(route, pattern)`, if it returns within so many rounds. -/
def routeMatchesPatternWithin (rounds : Nat) (route pattern : JsString) : Option Bool :=
  match indexOf (js "://") route, indexOf (js "://") pattern with
  | some (routeMarker + 1), some (patternMarker + 1) =>
    if route.take (routeMarker + 1) ≠ pattern.take (patternMarker + 1) then some false
    else
      match routeSegmentsOf route, routeSegmentsOf pattern with
      | some routeSegments, some patternSegments =>
        Loop.run (matchRound routeSegments patternSegments) rounds {}
      | _, _ => some false
  | _, _ => some false

/-! ## Its invariant -/

variable {route pattern : List JsString} {s s' : MatchState}

/-- What follows the last `**` in the pattern, and what of the route was left when it came. -/
def MatchState.lastDouble (s : MatchState) (route pattern : List JsString) :
    Option (List JsString × List JsString) :=
  s.lastDoubleWildcard.map fun w => (pattern.drop (w + 1), route.drop s.lastDoubleMatch)

/-- The pattern matches the route exactly if what is left of both does, or what follows the last
`**` matches further to the right. -/
structure Tracks (route pattern : List JsString) (s : MatchState) : Prop where
  patternIndex_le : s.patternIndex ≤ pattern.length
  lastDouble_le : ∀ w ∈ s.lastDoubleWildcard,
    s.lastDoubleMatch ≤ s.routeIndex ∧ w < pattern.length
  since : ∀ x ∈ s.lastDouble route pattern,
    SinceDouble (route.drop s.routeIndex) (pattern.drop s.patternIndex) x
  matches_iff : Matches (pattern.map token) route ↔
    Matches ((pattern.drop s.patternIndex).map token) (route.drop s.routeIndex) ∨
      ∃ x ∈ s.lastDouble route pattern, Later x

/-- What the last `**` may still leave to its right, and what is left of the pattern. -/
def matchVariant (route pattern : List JsString) (s : MatchState) : Nat × Nat :=
  (match s.lastDoubleWildcard with
    | none => route.length + 1
    | some _ => route.length - s.lastDoubleMatch,
    pattern.length - s.patternIndex)

theorem tracks_start (route pattern : List JsString) : Tracks route pattern {} :=
  ⟨Nat.zero_le _, fun _ h => (nomatch h), fun _ h => (nomatch h), by simp [MatchState.lastDouble]⟩

/-- Both indices move on. -/
theorem Tracks.take (h : Tracks route pattern s) {p segment : JsString}
    (hroute : route.drop s.routeIndex = segment :: route.drop (s.routeIndex + 1))
    (hpattern : pattern.drop s.patternIndex = p :: pattern.drop (s.patternIndex + 1))
    (hlt : s.patternIndex < pattern.length) (hconcrete : IsConcreteSegment segment)
    (htakes : p = singleWildcard ∨ p = segment) :
    Tracks route pattern
      { s with routeIndex := s.routeIndex + 1, patternIndex := s.patternIndex + 1 } := by
  have hnotDouble : p ≠ doubleWildcard := by
    rcases htakes with rfl | rfl
    · exact Ne.symm double_ne_single
    · exact hconcrete.ne_double
  refine ⟨hlt, fun w hw => ?_, fun x hx => ?_, ?_⟩
  · obtain ⟨hle, hw⟩ := h.lastDouble_le w hw
    exact ⟨Nat.le_succ_of_le hle, hw⟩
  · obtain ⟨consumed, read, hrest, hleft, hlength, hsimple⟩ := h.since x hx
    refine ⟨consumed ++ [p], read ++ [segment], ?_, ?_, by simp [hlength], ?_⟩
    · rw [hrest, hpattern, List.append_assoc]
      rfl
    · rw [hleft, hroute, List.append_assoc]
      rfl
    · simp [hsimple, Ne.symm hnotDouble]
  · rw [h.matches_iff, hroute, hpattern, List.map_cons]
    have hhead : Matches (token p :: (pattern.drop (s.patternIndex + 1)).map token)
        (segment :: route.drop (s.routeIndex + 1)) ↔
        Matches ((pattern.drop (s.patternIndex + 1)).map token)
          (route.drop (s.routeIndex + 1)) := by
      rcases htakes with rfl | rfl
      · simp
      · simp [token_literal hconcrete.ne_single hconcrete.ne_double]
    rw [hhead]
    rfl

/-- A `**` has come. -/
theorem Tracks.double (h : Tracks route pattern s)
    (hpattern : pattern.drop s.patternIndex = doubleWildcard :: pattern.drop (s.patternIndex + 1))
    (hlt : s.patternIndex < pattern.length) :
    Tracks route pattern { s with
      patternIndex := s.patternIndex + 1
      lastDoubleWildcard := some s.patternIndex
      lastDoubleMatch := s.routeIndex } := by
  refine ⟨hlt, ?_, ?_, ?_⟩
  · rintro w ⟨⟩
    exact ⟨Nat.le_refl _, hlt⟩
  · rintro x ⟨⟩
    exact ⟨[], [], rfl, rfl, rfl, by simp⟩
  · rw [h.matches_iff, hpattern, List.map_cons, token_double, matches_many]
    simp only [MatchState.lastDouble, Option.map_some, Option.mem_def, Option.some.injEq,
      exists_eq_left']
    constructor
    · rintro (⟨t, ht, hmatch⟩ | ⟨x, hx, hlater⟩)
      · by_cases heq : t = route.drop s.routeIndex
        · exact Or.inl (heq ▸ hmatch)
        · exact Or.inr ⟨t, ht, heq, hmatch⟩
      · exact (hlater.of_double (hpattern ▸ h.since x hx)).symm
    · rintro (hmatch | ⟨t, ht, -, hmatch⟩)
      · exact Or.inl ⟨_, List.suffix_rfl, hmatch⟩
      · exact Or.inl ⟨t, ht, hmatch⟩

/-- The last `**` takes one segment more. -/
theorem Tracks.back (h : Tracks route pattern s) {w : Nat} (hw : s.lastDoubleWildcard = some w)
    (hlt : s.routeIndex < route.length)
    (hstuck : ¬ Matches ((pattern.drop s.patternIndex).map token) (route.drop s.routeIndex)) :
    Tracks route pattern { s with
      routeIndex := s.lastDoubleMatch + 1
      patternIndex := w + 1
      lastDoubleWildcard := some w
      lastDoubleMatch := s.lastDoubleMatch + 1 } := by
  obtain ⟨hle, hw'⟩ := h.lastDouble_le w hw
  have hlast : s.lastDouble route pattern =
      some (pattern.drop (w + 1), route.drop s.lastDoubleMatch) := by
    rw [MatchState.lastDouble, hw]
    rfl
  obtain ⟨consumed, read, hrest, -, -, -⟩ := h.since _ hlast
  have hne : route.drop s.lastDoubleMatch ≠ [] := by
    rw [Ne, List.drop_eq_nil_iff]
    omega
  refine ⟨hw', ?_, ?_, ?_⟩
  · rintro w ⟨⟩
    exact ⟨Nat.le_refl _, hw'⟩
  · rintro x ⟨⟩
    exact ⟨[], [], rfl, rfl, rfl, by simp⟩
  · rw [h.matches_iff, hlast]
    simp only [MatchState.lastDouble, Option.map_some, Option.mem_def, Option.some.injEq,
      exists_eq_left', hstuck, false_or]
    rw [Later.step hne, List.tail_drop]

/-- At the end of the route, what follows the last `**` has nowhere to go. -/
theorem Tracks.not_later (h : Tracks route pattern s) (hend : route.drop s.routeIndex = []) :
    ¬ ∃ x ∈ s.lastDouble route pattern, Later x := by
  rintro ⟨x, hx, t, ht, hproper, hmatch⟩
  obtain ⟨consumed, read, hrest, hleft, hlength, hsimple⟩ := h.since x hx
  rw [hrest] at hmatch
  obtain ⟨read', t', rfl, hlength', -⟩ := matches_append hsimple hmatch
  refine hproper (ht.eq_of_length_le ?_)
  rw [hleft, hend]
  simp only [List.length_append, List.length_nil]
  omega

theorem endsInDoubles_iff {n : Nat} (hle : n ≤ pattern.length) :
    endsInDoubles pattern n = true ↔ Matches ((pattern.drop n).map token) [] := by
  rw [← dropWhile_iff, endsInDoubles, decide_eq_true_eq]
  have hsplit := congrArg List.length
    (List.takeWhile_append_dropWhile (p := (· = doubleWildcard)) (l := pattern.drop n))
  rw [List.length_append, List.length_drop] at hsplit
  rw [← List.length_eq_zero_iff]
  omega

theorem drop_eq_cons {α : Type} {l : List α} {n : Nat} {a : α} (h : l[n]? = some a) :
    n < l.length ∧ l.drop n = a :: l.drop (n + 1) := by
  obtain ⟨hlt, rfl⟩ := List.getElem?_eq_some_iff.mp h
  exact ⟨hlt, List.drop_eq_getElem_cons hlt⟩

/-- A round that is stuck: the pattern is at its end, or at another literal. -/
theorem not_matches_of_stuck {segment : JsString} {rest : List JsString}
    (hroute : route.drop s.routeIndex = segment :: rest)
    (htakes : ¬ (pattern[s.patternIndex]? = some singleWildcard ∨
      pattern[s.patternIndex]? = some segment))
    (hdouble : pattern[s.patternIndex]? ≠ some doubleWildcard) :
    ¬ Matches ((pattern.drop s.patternIndex).map token) (route.drop s.routeIndex) := by
  rw [hroute]
  cases hp : pattern[s.patternIndex]? with
  | none =>
      rw [List.drop_eq_nil_of_le (List.getElem?_eq_none_iff.mp hp)]
      simp
  | some p =>
      rw [hp, Option.some.injEq, Option.some.injEq, not_or] at htakes
      rw [hp, Ne, Option.some.injEq] at hdouble
      rw [(drop_eq_cons hp).2, List.map_cons, token_literal htakes.1 hdouble]
      simpa using fun heq : segment = p => absurd heq.symm htakes.2

/-- **One round** keeps the invariant and makes the variant smaller. -/
theorem Tracks.next (h : Tracks route pattern s) (hconcrete : ∀ a ∈ route, IsConcreteSegment a)
    (hround : matchRound route pattern s = .inl s') :
    Tracks route pattern s' ∧
      Prod.Lex (· < ·) (· < ·) (matchVariant route pattern s') (matchVariant route pattern s) := by
  unfold matchRound at hround
  split at hround
  case isFalse => cases hround
  case isTrue hlt =>
    obtain ⟨-, hroute⟩ := drop_eq_cons (List.getElem?_eq_getElem hlt)
    have hsegment := hconcrete _ (List.getElem_mem hlt)
    rw [List.getElem?_eq_getElem hlt] at hround
    dsimp only at hround
    split at hround
    -- both indices advance, and less of the route is left
    case isTrue htakes =>
      obtain rfl := Sum.inl.inj hround
      obtain ⟨p, hp, hcases⟩ : ∃ p, pattern[s.patternIndex]? = some p ∧
          (p = singleWildcard ∨ p = route[s.routeIndex]) := by
        rcases htakes with hp | hp
        · exact ⟨_, hp, Or.inl rfl⟩
        · exact ⟨_, hp, Or.inr rfl⟩
      obtain ⟨hlt', hpattern⟩ := drop_eq_cons hp
      refine ⟨h.take hroute hpattern hlt' hsegment hcases, Prod.Lex.right _ ?_⟩
      dsimp only
      omega
    case isFalse htakes =>
      split at hround
      -- a new place to come back to: fewer double wildcards are ahead
      case isTrue hdouble =>
        obtain rfl := Sum.inl.inj hround
        obtain ⟨hlt', hpattern⟩ := drop_eq_cons hdouble
        refine ⟨h.double hpattern hlt', ?_⟩
        rw [Prod.lex_def]
        cases hw : s.lastDoubleWildcard with
        | none =>
            left
            simp only [matchVariant, hw]
            omega
        | some w =>
            have hle := (h.lastDouble_le w hw).1
            simp only [matchVariant, hw]
            omega
      -- back to the last double wildcard, which takes one segment more
      case isFalse hdouble =>
        cases hw : s.lastDoubleWildcard with
        | none =>
            rw [hw] at hround
            cases hround
        | some w =>
            rw [hw] at hround
            obtain rfl := Sum.inl.inj hround
            have hle := (h.lastDouble_le w hw).1
            refine ⟨h.back hw hlt (not_matches_of_stuck hroute htakes hdouble), ?_⟩
            rw [Prod.lex_def]
            left
            simp only [matchVariant, hw]
            omega

theorem Tracks.return (h : Tracks route pattern s)
    {b : Bool} (hround : matchRound route pattern s = .inr b) :
    b = true ↔ Matches (pattern.map token) route := by
  rw [h.matches_iff]
  unfold matchRound at hround
  split at hround
  case isTrue hlt =>
    obtain ⟨-, hroute⟩ := drop_eq_cons (List.getElem?_eq_getElem hlt)
    rw [List.getElem?_eq_getElem hlt] at hround
    dsimp only at hround
    split at hround
    case isTrue => cases hround
    case isFalse htakes =>
      split at hround
      case isTrue => cases hround
      case isFalse hdouble =>
        cases hw : s.lastDoubleWildcard with
        | some w =>
            rw [hw] at hround
            cases hround
        | none =>
            rw [hw] at hround
            obtain rfl := Sum.inr.inj hround
            refine iff_of_false Bool.false_ne_true
              (not_or.mpr ⟨not_matches_of_stuck hroute htakes hdouble, ?_⟩)
            simp [MatchState.lastDouble, hw]
  case isFalse hge =>
    have hend : route.drop s.routeIndex = [] := List.drop_eq_nil_of_le (Nat.le_of_not_lt hge)
    obtain rfl := Sum.inr.inj hround
    rw [endsInDoubles_iff h.patternIndex_le, hend]
    exact (or_iff_left (h.not_later hend)).symm

/-- The loop returns, and decides. -/
theorem matchRound_returns (hconcrete : ∀ a ∈ route, IsConcreteSegment a)
    (pattern : List JsString) :
    ∃ b, Loop.Returns (matchRound route pattern) {} b ∧
      (b = true ↔ Matches (pattern.map token) route) :=
  Loop.total (InvImage.wf (matchVariant route pattern)
      (Prod.lex Nat.lt_wfRel Nat.lt_wfRel).wf)
    (fun _ _ h hround => h.next hconcrete hround) (fun _ _ h hround => h.return hround)
    (tracks_start route pattern)

/-! ## Main result -/

section

variable (route : ConcreteRoute) (pattern : Pattern)

theorem ConcreteRoute.routeSegmentsOf_text : routeSegmentsOf route.text = some route.segments :=
  route.scheme.routeSegmentsOf_route route.segments_ne fun s hs => (route.concrete s hs).2.2

theorem Pattern.routeSegmentsOf_text : routeSegmentsOf pattern.text = some pattern.segments :=
  pattern.scheme.routeSegmentsOf_route pattern.segments_ne pattern.no_slash

/-- What comes before the loops compares the schemes. -/
theorem markers_eq : ∃ n m, indexOf (js "://") route.text = some (n + 1) ∧
    indexOf (js "://") pattern.text = some (m + 1) ∧
    route.text.take (n + 1) = route.scheme.text ∧
    pattern.text.take (m + 1) = pattern.scheme.text := by
  obtain ⟨n, hn⟩ := route.scheme.exists_length
  obtain ⟨m, hm⟩ := pattern.scheme.exists_length
  exact ⟨n, m, (route.scheme.indexOf_route _).trans (congrArg some hn),
    (pattern.scheme.indexOf_route _).trans (congrArg some hm), hn ▸ route.scheme.take_route _,
    hm ▸ pattern.scheme.take_route _⟩

theorem routeMatchesPattern_iff : routeMatchesPattern route.text pattern.text = true ↔
    route.scheme.text = pattern.scheme.text ∧ pattern.Takes route.segments := by
  obtain ⟨n, m, hindex, hindex', htake, htake'⟩ := markers_eq route pattern
  by_cases hscheme : route.scheme.text = pattern.scheme.text
  · simp only [routeMatchesPattern, hindex, hindex', htake, htake', route.routeSegmentsOf_text,
      pattern.routeSegmentsOf_text, hscheme, ne_eq, not_true_eq_false, if_false, true_and]
    exact matchLoop_start_iff route.concrete
  · simp only [routeMatchesPattern, hindex, hindex', htake, htake', ne_eq, hscheme,
      not_false_eq_true, if_true, Bool.false_eq_true, false_and]

/-- The matcher terminates and decides; it is the function that the rest of the client calls. -/
theorem routeMatchesPattern_decides (route : ConcreteRoute) (pattern : Pattern) :
    ∃ b, (∃ n, ∀ rounds ≥ n,
        routeMatchesPatternWithin rounds route.text pattern.text = some b) ∧
      routeMatchesPattern route.text pattern.text = b ∧
      (b = true ↔ route.scheme.text = pattern.scheme.text ∧ pattern.Takes route.segments) := by
  obtain ⟨n, m, hindex, hindex', htake, htake'⟩ := markers_eq route pattern
  have hiff := routeMatchesPattern_iff route pattern
  by_cases hscheme : route.scheme.text = pattern.scheme.text
  · obtain ⟨b, ⟨rounds, hrun⟩, hb⟩ := matchRound_returns route.concrete pattern.segments
    have hsame : routeMatchesPattern route.text pattern.text = b := by
      rw [Bool.eq_iff_iff, hiff, hb]
      exact and_iff_right hscheme
    refine ⟨b, ⟨rounds, fun more hmore => ?_⟩, hsame, hsame ▸ hiff⟩
    simp only [routeMatchesPatternWithin, hindex, hindex', htake, htake',
      route.routeSegmentsOf_text, pattern.routeSegmentsOf_text, hscheme, ne_eq,
      not_true_eq_false, if_false]
    exact Loop.run_mono hrun hmore
  · have hfalse : routeMatchesPattern route.text pattern.text = false :=
      Bool.eq_false_of_not_eq_true fun h => hscheme (hiff.mp h).1
    refine ⟨false, ⟨0, fun rounds _ => ?_⟩, hfalse, hfalse ▸ hiff⟩
    simp only [routeMatchesPatternWithin, hindex, hindex', htake, htake', ne_eq, hscheme,
      not_false_eq_true, if_true]

end

example : routeMatchesPatternWithin 9 (js "rpc://acme/orders/create") (js "rpc://acme/**/**") =
    some true := by decide +kernel

end FitzTs.Routes
