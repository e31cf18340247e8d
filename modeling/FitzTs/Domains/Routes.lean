import FitzTs.Lib.JsString
import FitzTs.Lib.Glob
/-!
# FitzTs.Domains.Routes

Routes and patterns (`domains/_routes.ts`).

The source scans a route by index; here the scans run over the segments between the
slashes. `routeMatchesPattern` goes back to the last `**` when it is stuck, and moves the
start of what follows it by one segment.

## Main result

* `matchLoop_start_iff` — on a concrete route the loop decides whether the pattern matches as a
  glob over segments.
-/

namespace FitzTs.Routes

open JsString Glob

/-! ## Shapes of routes -/

def asterisk : UInt16 := 42

def slash : UInt16 := 47

/-- `"*"`. -/
def singleWildcard : JsString := [asterisk]

/-- `"**"`. -/
def doubleWildcard : JsString := [asterisk, asterisk]

def maxWireBytes : Nat := 65535

def wireSizeIsValid (route : JsString) : Bool :=
  route.length ≤ maxWireBytes && utf8Length route ≤ maxWireBytes

/-- Where the path of the route starts. -/
def pathStart (route scheme : JsString) (allowBare : Bool) : Option Nat :=
  if !wireSizeIsValid route then none
  else if (scheme ++ js "://").isPrefixOf route && route.length > scheme.length + 3 then
    some (scheme.length + 3)
  else if allowBare && indexOf (js "://") route = none && route.length > 0 then some 0
  else none

def containsAsterisk (segment : JsString) : Bool := segment.contains asterisk

/-- `scanConcrete`, over the segments of the path. -/
def scanConcrete (segments : List JsString) (expectedSegments : Nat) : Bool :=
  segments.all (fun segment => segment ≠ [] && !containsAsterisk segment) &&
    segments.length > 0 && (expectedSegments = 0 || segments.length = expectedSegments)

def isRouteShape (route scheme : JsString) (segmentCount : Nat) (allowBareRoute : Bool) : Bool :=
  match pathStart route scheme allowBareRoute with
  | some start => scanConcrete (split (route.drop start) slash) segmentCount
  | none => false

def isConcreteRouteShape (route scheme : JsString) : Bool :=
  match pathStart route scheme false with
  | some start => scanConcrete (split (route.drop start) slash) 0
  | none => false

/-- The loop of `isRegistrationPatternShape`: the numbers of segments and of double
wildcards. -/
def scanPattern (previousWasDouble : Bool) (segmentCount doubleWildcardCount : Nat) :
    List JsString → Option (Nat × Nat)
  | [] => some (segmentCount, doubleWildcardCount)
  | segment :: segments =>
    if segment = [] then none
    else
      let single := segment = singleWildcard
      let double := segment = doubleWildcard
      if ¬ single ∧ ¬ double ∧ containsAsterisk segment then none
      else if double then
        if previousWasDouble then none
        else scanPattern true (segmentCount + 1) (doubleWildcardCount + 1) segments
      else scanPattern false (segmentCount + 1) doubleWildcardCount segments

def isRegistrationPatternShape (route scheme : JsString) (requiredSegments : Nat) : Bool :=
  match pathStart route scheme false with
  | none => false
  | some start =>
    match scanPattern false 0 0 (split (route.drop start) slash) with
    | none => false
    | some (segmentCount, doubleWildcardCount) =>
      if requiredSegments = 0 then true
      else if doubleWildcardCount = 0 then segmentCount = requiredSegments
      else segmentCount - doubleWildcardCount ≤ requiredSegments

/-- The axis on which the offsets of a stream selector count. -/
inductive StreamSelectorScope
  | resource
  | area
  | realm
  | global
  deriving DecidableEq, Repr

/-- `classifyStreamSelectorScope(route)`. -/
def classifyStreamSelectorScope (route : JsString) : Option StreamSelectorScope :=
  match pathStart route (js "stream") false with
  | none => none
  | some start =>
    if utf8Length route > 4096 then none
    else if route = js "stream://**" then some .global
    else
      let literal (s : JsString) : Bool := !containsAsterisk s
      let wild (s : JsString) : Bool := s = singleWildcard
      match split (route.drop start) slash with
      | [realm, rest] =>
        if rest = doubleWildcard && literal realm then some .realm else none
      | [realm, area, resource] =>
        if [realm, area, resource].any (· = []) then none
        else if !([realm, area, resource].all fun s => literal s || wild s) then none
        else if realm = singleWildcard then some .global
        else if area = singleWildcard then some .realm
        else if resource = singleWildcard then some .area
        else some .resource
      | _ => none

def isStreamSelectorShape (route : JsString) : Bool := (classifyStreamSelectorScope route).isSome

/-! ## Matching -/

/-- `routeSegmentsOf(route)`. -/
def routeSegmentsOf (route : JsString) : Option (List JsString) :=
  match indexOf (js "://") route with
  | some (marker + 1) => some (split (route.drop (marker + 1 + 3)) slash)
  | _ => none

/-- The loop of `routeMatchesPattern`: what is left of the route and of the pattern, and, for
the last `**`, what follows it in the pattern and what of the route was left when it came. -/
def matchLoop : Nat → List JsString → List JsString → Option (List JsString × List JsString) → Bool
  | 0, _, _, _ => false
  | _ + 1, [], pattern, _ => pattern.dropWhile (· = doubleWildcard) = []
  | fuel + 1, segment :: route, pattern, lastDouble =>
    let stuck : Bool := lastDouble.elim false fun (rest, left) =>
      matchLoop fuel left.tail rest (some (rest, left.tail))
    match pattern with
    | [] => stuck
    | p :: pattern =>
      if p = singleWildcard ∨ p = segment then matchLoop fuel route pattern lastDouble
      else if p = doubleWildcard then
        matchLoop fuel (segment :: route) pattern (some (pattern, segment :: route))
      else stuck

/-- Rounds the loop can need. -/
def matchFuel (route pattern : List JsString) : Nat :=
  (route.length + 2) * (pattern.length + 1)

/-- `routeMatchesPattern(route, pattern)`. -/
def routeMatchesPattern (route pattern : JsString) : Bool :=
  match indexOf (js "://") route, indexOf (js "://") pattern with
  | some (routeMarker + 1), some (patternMarker + 1) =>
    if route.take (routeMarker + 1) ≠ pattern.take (patternMarker + 1) then false
    else
      match routeSegmentsOf route, routeSegmentsOf pattern with
      | some routeSegments, some patternSegments =>
        matchLoop (matchFuel routeSegments patternSegments) routeSegments patternSegments none
      | _, _ => false
  | _, _ => false

/-! ### The loop decides -/

/-- A segment of a pattern, as a token. -/
def token (segment : JsString) : Token JsString :=
  if segment = singleWildcard then .one
  else if segment = doubleWildcard then .many
  else .literal segment

/-- A segment of a concrete route. -/
def IsConcreteSegment (segment : JsString) : Prop :=
  segment ≠ [] ∧ asterisk ∉ segment ∧ slash ∉ segment

instance (segment : JsString) : Decidable (IsConcreteSegment segment) := by
  unfold IsConcreteSegment
  infer_instance

theorem IsConcreteSegment.ne_single {segment : JsString} (h : IsConcreteSegment segment) :
    segment ≠ singleWildcard := fun heq => h.2.1 (by simp [heq, singleWildcard])

theorem IsConcreteSegment.ne_double {segment : JsString} (h : IsConcreteSegment segment) :
    segment ≠ doubleWildcard := fun heq => h.2.1 (by simp [heq, doubleWildcard])

theorem double_ne_single : doubleWildcard ≠ singleWildcard := by decide

@[simp] theorem token_single : token singleWildcard = .one := if_pos rfl

@[simp] theorem token_double : token doubleWildcard = .many := by
  simp [token, double_ne_single]

theorem token_literal {segment : JsString} (hsingle : segment ≠ singleWildcard)
    (hdouble : segment ≠ doubleWildcard) : token segment = .literal segment := by
  simp [token, hsingle, hdouble]

/-- Literal tokens only. -/
theorem eq_of_map_token {l s : List JsString} (h : l.map token = s.map .literal) : l = s := by
  induction l generalizing s with
  | nil =>
      cases s with
      | nil => rfl
      | cons => cases h
  | cons p l ih =>
      cases s with
      | nil => cases h
      | cons a s =>
          rw [List.map_cons, List.map_cons, List.cons.injEq] at h
          have hliteral : p = a := by
            have htoken := h.1
            unfold token at htoken
            split at htoken
            · cases htoken
            · split at htoken
              · cases htoken
              · exact Token.literal.inj htoken
          rw [hliteral, ih h.2]

/-- Only double wildcards match nothing. -/
theorem dropWhile_iff {pattern : List JsString} :
    pattern.dropWhile (· = doubleWildcard) = [] ↔ Matches (pattern.map token) [] := by
  induction pattern with
  | nil => simp
  | cons p pattern ih =>
      by_cases hdouble : p = doubleWildcard
      · rw [List.dropWhile_cons_of_pos (by simpa using hdouble), ih]
        simp [hdouble]
      · rw [List.dropWhile_cons_of_neg (by simpa using hdouble)]
        by_cases hsingle : p = singleWildcard
        · simp [hsingle]
        · simp [token_literal hsingle hdouble]

/-- What the loop knows about the last `**`: since then the pattern and the route have been
consumed segment by segment. -/
def SinceDouble (route pattern : List JsString) (lastDouble : List JsString × List JsString) :
    Prop :=
  ∃ consumed read, lastDouble.1 = consumed ++ pattern ∧ lastDouble.2 = read ++ route ∧
    consumed.length = read.length ∧ doubleWildcard ∉ consumed

/-- A match of what follows the last `**`, further to the right. -/
def Later (lastDouble : List JsString × List JsString) : Prop :=
  ∃ s, s <:+ lastDouble.2 ∧ s ≠ lastDouble.2 ∧ Matches (lastDouble.1.map token) s

/-- A pattern without `**` takes as many segments as it has. -/
theorem matches_append {consumed pattern : List JsString} (hsimple : doubleWildcard ∉ consumed)
    {s : List JsString} (h : Matches ((consumed ++ pattern).map token) s) :
    ∃ read t, s = read ++ t ∧ read.length = consumed.length ∧ Matches (pattern.map token) t := by
  induction consumed generalizing s with
  | nil => exact ⟨[], s, rfl, rfl, h⟩
  | cons p consumed ih =>
      rw [List.mem_cons, not_or] at hsimple
      have hcons : ∃ b s', s = b :: s' ∧ Matches ((consumed ++ pattern).map token) s' := by
        rw [List.cons_append, List.map_cons] at h
        by_cases hsingle : p = singleWildcard
        · rw [hsingle, token_single] at h
          exact matches_one.mp h
        · rw [token_literal hsingle (Ne.symm hsimple.1)] at h
          obtain ⟨t, rfl, ht⟩ := matches_literal.mp h
          exact ⟨_, t, rfl, ht⟩
      obtain ⟨b, s', rfl, hs'⟩ := hcons
      obtain ⟨read, t, rfl, hlength, ht⟩ := ih hsimple.2 hs'
      exact ⟨b :: read, t, rfl, by simp [hlength], ht⟩

/-- A new `**` makes the last one superfluous. -/
theorem Later.of_double {route pattern : List JsString} {lastDouble : List JsString × List JsString}
    (hsince : SinceDouble route (doubleWildcard :: pattern) lastDouble) (h : Later lastDouble) :
    Later (pattern, route) ∨ Matches (pattern.map token) route := by
  obtain ⟨rest, left⟩ := lastDouble
  obtain ⟨consumed, read, rfl, rfl, hlength, hsimple⟩ := hsince
  obtain ⟨s, ⟨skipped, hskipped⟩, -, hs⟩ := h
  obtain ⟨read', t, rfl, hlength', ht⟩ := matches_append hsimple hs
  rw [List.map_cons, token_double, matches_many] at ht
  obtain ⟨t', ht't, ht'⟩ := ht
  have hle : t.length ≤ route.length := by
    have hlengths := congrArg List.length hskipped
    simp only [List.length_append] at hlengths
    omega
  have hsuffix : t <:+ route := by
    have ht : t <:+ read ++ route := ⟨skipped ++ read', by simpa using hskipped⟩
    exact List.suffix_of_suffix_length_le ht (List.suffix_append ..) hle
  by_cases heq : t' = route
  · exact Or.inr (heq ▸ ht')
  · exact Or.inl ⟨t', ht't.trans hsuffix, heq, ht'⟩

/-- Going back to the last `**`. -/
theorem Later.step {rest left : List JsString} (hne : left ≠ []) :
    Later (rest, left) ↔ Matches (rest.map token) left.tail ∨ Later (rest, left.tail) := by
  obtain ⟨b, left, rfl⟩ := List.exists_cons_of_ne_nil hne
  constructor
  · rintro ⟨s, hs, hproper, h⟩
    have hs : s <:+ left := (List.suffix_cons_iff.mp hs).resolve_left hproper
    by_cases heq : s = left
    · exact Or.inl (heq ▸ h)
    · exact Or.inr ⟨s, hs, heq, h⟩
  · rintro (h | ⟨s, hs, -, h⟩)
    · exact ⟨left, List.suffix_cons .., by simp, h⟩
    · have hs : s <:+ left := hs
      refine ⟨s, hs.trans (List.suffix_cons ..), fun heq => ?_, h⟩
      have hlength := congrArg List.length heq
      have hle := hs.length_le
      simp only [List.length_cons] at hlength
      omega

/-- The rounds that are left. -/
def matchRounds (bound : Nat) (route pattern : List JsString)
    (lastDouble : Option (List JsString × List JsString)) : Nat :=
  (match lastDouble with
    | some (_, left) => left.length
    | none => route.length + 1) * (bound + 1) + pattern.length

/-- What holds before each round, for patterns of up to `bound` segments. -/
structure MatchInvariant (bound : Nat) (route pattern : List JsString)
    (lastDouble : Option (List JsString × List JsString)) : Prop where
  concrete : ∀ s ∈ route, IsConcreteSegment s
  concreteLeft : ∀ x ∈ lastDouble, ∀ s ∈ x.2, IsConcreteSegment s
  pattern_le : pattern.length ≤ bound
  rest_le : ∀ x ∈ lastDouble, x.1.length ≤ bound
  since : ∀ x ∈ lastDouble, SinceDouble route pattern x

section

variable {bound fuel : Nat} {segment p : JsString} {route pattern : List JsString}
  {lastDouble : Option (List JsString × List JsString)}

/-! #### The end of the route -/

/-- What follows the last `**` takes at least as many segments as it has so far. -/
theorem MatchInvariant.not_later (h : MatchInvariant bound [] pattern lastDouble)
    {x : List JsString × List JsString} (hx : x ∈ lastDouble) : ¬ Later x := by
  rintro ⟨s, hs, hproper, hmatches⟩
  obtain ⟨consumed, read, hrest, hleft, hlength, hsimple⟩ := h.since x hx
  rw [hrest] at hmatches
  obtain ⟨read', t, rfl, hlength', -⟩ := matches_append hsimple hmatches
  refine hproper (hs.eq_of_length_le ?_)
  rw [hleft]
  simp only [List.length_append, List.length_nil]
  omega

/-! #### A segment that is taken -/

theorem ne_double_of_takes (hsegment : IsConcreteSegment segment)
    (htakes : p = singleWildcard ∨ p = segment) : p ≠ doubleWildcard := by
  rcases htakes with rfl | rfl
  · exact Ne.symm double_ne_single
  · exact hsegment.ne_double

theorem matches_of_takes (hsegment : IsConcreteSegment segment)
    (htakes : p = singleWildcard ∨ p = segment) :
    Matches ((p :: pattern).map token) (segment :: route) ↔ Matches (pattern.map token) route := by
  rw [List.map_cons]
  rcases htakes with rfl | rfl
  · simp
  · simp [token_literal hsegment.ne_single hsegment.ne_double]

theorem MatchInvariant.take (h : MatchInvariant bound (segment :: route) (p :: pattern) lastDouble)
    (hp : p ≠ doubleWildcard) : MatchInvariant bound route pattern lastDouble where
  concrete := fun s hs => h.concrete s (List.mem_cons_of_mem _ hs)
  concreteLeft := h.concreteLeft
  pattern_le := Nat.le_of_succ_le h.pattern_le
  rest_le := h.rest_le
  since := fun x hx => by
    obtain ⟨consumed, read, hrest, hleft, hlength, hsimple⟩ := h.since x hx
    refine ⟨consumed ++ [p], read ++ [segment], by simp [hrest], by simp [hleft],
      by simp [hlength], ?_⟩
    simp [hsimple, Ne.symm hp]

theorem matchRounds_take :
    matchRounds bound route pattern lastDouble <
      matchRounds bound (segment :: route) (p :: pattern) lastDouble := by
  unfold matchRounds
  cases lastDouble with
  | none =>
      simp only [List.length_cons]
      rw [Nat.add_mul (route.length + 1)]
      omega
  | some x =>
      simp only [List.length_cons]
      omega

/-! #### A new `**` -/

theorem matches_double : Matches ((doubleWildcard :: pattern).map token) route ↔
    Matches (pattern.map token) route ∨ Later (pattern, route) := by
  rw [List.map_cons, token_double, matches_many]
  constructor
  · rintro ⟨t, ht, h⟩
    by_cases heq : t = route
    · exact Or.inl (heq ▸ h)
    · exact Or.inr ⟨t, ht, heq, h⟩
  · rintro (h | ⟨t, ht, -, h⟩)
    · exact ⟨_, List.suffix_rfl, h⟩
    · exact ⟨t, ht, h⟩

theorem MatchInvariant.double
    (h : MatchInvariant bound route (doubleWildcard :: pattern) lastDouble) :
    MatchInvariant bound route pattern (some (pattern, route)) where
  concrete := h.concrete
  concreteLeft := by
    rintro x ⟨⟩
    exact h.concrete
  pattern_le := Nat.le_of_succ_le h.pattern_le
  rest_le := by
    rintro x ⟨⟩
    exact Nat.le_of_succ_le h.pattern_le
  since := by
    rintro x ⟨⟩
    exact ⟨[], [], rfl, rfl, rfl, by simp⟩

theorem MatchInvariant.matchRounds_double
    (h : MatchInvariant bound route (doubleWildcard :: pattern) lastDouble) :
    matchRounds bound route pattern (some (pattern, route)) <
      matchRounds bound route (doubleWildcard :: pattern) lastDouble := by
  unfold matchRounds
  cases lastDouble with
  | none =>
      simp only [List.length_cons]
      rw [Nat.add_mul route.length]
      omega
  | some x =>
      obtain ⟨consumed, read, -, hleft, -, -⟩ := h.since x rfl
      have hle : route.length ≤ x.2.length := by
        rw [hleft, List.length_append]
        omega
      have hmul := Nat.mul_le_mul_right (bound + 1) hle
      simp only [List.length_cons]
      omega

/-! #### Going back -/

theorem MatchInvariant.back {rest left : List JsString}
    (h : MatchInvariant bound route pattern (some (rest, left))) :
    MatchInvariant bound left.tail rest (some (rest, left.tail)) where
  concrete := fun s hs => h.concreteLeft _ rfl s (List.mem_of_mem_tail hs)
  concreteLeft := by
    rintro x ⟨⟩
    exact fun s hs => h.concreteLeft _ rfl s (List.mem_of_mem_tail hs)
  pattern_le := h.rest_le _ rfl
  rest_le := by
    rintro x ⟨⟩
    exact h.rest_le (rest, left) rfl
  since := by
    rintro x ⟨⟩
    exact ⟨[], [], rfl, rfl, rfl, by simp⟩

theorem MatchInvariant.left_ne {rest left : List JsString}
    (h : MatchInvariant bound (segment :: route) pattern (some (rest, left))) : left ≠ [] := by
  obtain ⟨consumed, read, -, hleft, -, -⟩ := h.since _ rfl
  have hleft : left = read ++ segment :: route := hleft
  simp [hleft]

theorem MatchInvariant.matchRounds_back {rest left : List JsString}
    (h : MatchInvariant bound (segment :: route) pattern (some (rest, left))) :
    matchRounds bound left.tail rest (some (rest, left.tail)) <
      matchRounds bound (segment :: route) pattern (some (rest, left)) := by
  have hlength : left.tail.length + 1 = left.length := by
    rw [List.length_tail]
    have hpos := List.length_pos_iff.mpr h.left_ne
    omega
  have hrest : rest.length ≤ bound := h.rest_le _ rfl
  unfold matchRounds
  dsimp only
  rw [← hlength, Nat.add_mul]
  omega

/-- **The loop decides** whether what is left matches, or what follows the last `**` matches
further to the right. -/
theorem matchLoop_iff (h : MatchInvariant bound route pattern lastDouble)
    (hfuel : matchRounds bound route pattern lastDouble < fuel) :
    matchLoop fuel route pattern lastDouble = true ↔
      Matches (pattern.map token) route ∨ ∃ x ∈ lastDouble, Later x := by
  induction fuel generalizing route pattern lastDouble with
  | zero => exact absurd hfuel (Nat.not_lt_zero _)
  | succ fuel ih =>
      cases route with
      | nil =>
          simp only [matchLoop, decide_eq_true_eq, dropWhile_iff]
          have hnone : ¬ ∃ x ∈ lastDouble, Later x := by
            rintro ⟨x, hx, hlater⟩
            exact h.not_later hx hlater
          rw [or_iff_left hnone]
      | cons segment route =>
          have hsegment := h.concrete segment (List.mem_cons_self ..)
          -- without a segment to take the loop goes back
          have hstuck : ¬ Matches (pattern.map token) (segment :: route) →
              (lastDouble.elim false (fun (rest, left) =>
                matchLoop fuel left.tail rest (some (rest, left.tail))) = true ↔
                  Matches (pattern.map token) (segment :: route) ∨ ∃ x ∈ lastDouble, Later x) := by
            intro hnot
            cases lastDouble with
            | none => simp [hnot]
            | some x =>
                obtain ⟨rest, left⟩ := x
                rw [Option.elim_some,
                  ih h.back (h.matchRounds_back.trans_le (Nat.le_of_lt_succ hfuel))]
                simp only [Option.mem_def, Option.some.injEq, exists_eq_left', hnot, false_or]
                exact (Later.step h.left_ne).symm
          cases pattern with
          | nil => exact hstuck (by simp)
          | cons p pattern =>
              simp only [matchLoop]
              split
              case isTrue htakes =>
                rw [matches_of_takes hsegment htakes]
                exact ih (h.take (ne_double_of_takes hsegment htakes))
                  (matchRounds_take.trans_le (Nat.le_of_lt_succ hfuel))
              case isFalse htakes =>
                rw [not_or] at htakes
                split
                case isTrue hdouble =>
                  subst hdouble
                  rw [ih h.double (h.matchRounds_double.trans_le (Nat.le_of_lt_succ hfuel)),
                    matches_double]
                  simp only [Option.mem_def, Option.some.injEq, exists_eq_left']
                  constructor
                  · exact Or.inl
                  · rintro (hnew | ⟨x, hx, hlater⟩)
                    · exact hnew
                    · exact (hlater.of_double (h.since x hx)).symm
                case isFalse hdouble =>
                  refine hstuck ?_
                  rw [List.map_cons, token_literal htakes.1 hdouble]
                  simpa using fun heq : segment = p => absurd heq.symm htakes.2

end

theorem matchLoop_start_iff {route pattern : List JsString}
    (hconcrete : ∀ s ∈ route, IsConcreteSegment s) :
    matchLoop (matchFuel route pattern) route pattern none = true ↔
      Matches (pattern.map token) route := by
  have hstart : MatchInvariant pattern.length route pattern none :=
    ⟨hconcrete, by simp, Nat.le_refl _, by simp, by simp⟩
  rw [matchLoop_iff hstart ?_]
  · simp
  · unfold matchRounds matchFuel
    dsimp only
    rw [Nat.add_mul (route.length) 2, Nat.add_mul route.length 1]
    omega

end FitzTs.Routes
