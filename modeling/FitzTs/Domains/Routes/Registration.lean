import FitzTs.Domains.Routes.Scan
/-!
# FitzTs.Domains.Routes.Registration

**Which patterns can be registered.** `isRegistrationPatternShape` counts segments and double
wildcards. What it decides is whether a pattern of admissible segments can match a route of the
required depth: `*` and literals take one segment each, and a `**` takes what is left.

## Main results

* `isRegistrationPatternShape_iff` — the scan returns, and returns `true` exactly for the patterns
  of the scheme that fit on the wire, have admissible segments, and match some concrete route with
  as many segments as are required.
* `isRouteShape_decides` — so does the loop of `isRouteShape`, for the routes of a depth.
-/

namespace FitzTs.Routes

open JsString Glob

/-! ## The size and the scheme -/

variable {route : JsString} {scheme : Scheme}

theorem wireSizeIsValid_iff :
    wireSizeIsValid route = true ↔ (utf8Encode route).length ≤ maxWireBytes := by
  have hle := length_le_utf8Length route
  rw [length_utf8Encode, wireSizeIsValid, Bool.and_eq_true, decide_eq_true_eq, decide_eq_true_eq]
  omega

/-- **The size check** counts the bytes of the encoding: on every string, however its surrogates
stand, the loop returns, and it returns `true` exactly when the encoder makes at most 65535 bytes
of the string. -/
theorem wireSizeIsValidWithin_eq_encodedSize (route : JsString) :
    ∃ n, ∀ rounds ≥ n, wireSizeIsValidWithin rounds route =
      some (decide ((utf8Encode route).length ≤ 65535)) := by
  obtain ⟨n, hn⟩ := wireSizeIsValidWithin_returns route
  have hvalid : wireSizeIsValid route = decide ((utf8Encode route).length ≤ 65535) := by
    rw [Bool.eq_iff_iff, decide_eq_true_eq]
    exact wireSizeIsValid_iff
  refine ⟨n, ?_⟩
  intro rounds hrounds
  rw [hn rounds hrounds, hvalid]

theorem pathStart_eq_some_iff {scheme : JsString} {start : Nat} :
    pathStart route scheme false = some start ↔ wireSizeIsValid route = true ∧
      ∃ path, path ≠ [] ∧ route = scheme ++ (js "://" ++ path) ∧ start = scheme.length + 3 := by
  have hmarker : (js "://").length = 3 := by decide
  unfold pathStart
  constructor
  · intro h
    split_ifs at h with hsize hscheme
    · rw [Bool.and_eq_true, decide_eq_true_eq] at hscheme
      obtain ⟨path, hpath⟩ := List.isPrefixOf_iff_prefix.mp hscheme.1
      refine ⟨by simpa using hsize, path, ?_, by rw [← hpath, List.append_assoc],
        (Option.some.inj h).symm⟩
      rintro rfl
      have hlength := congrArg List.length hpath
      simp only [List.length_append, hmarker, List.length_nil] at hlength
      omega
    · simp at *
  · rintro ⟨hsize, path, hne, rfl, rfl⟩
    have hpos := List.length_pos_iff.mpr hne
    have hscheme : ((scheme ++ js "://").isPrefixOf (scheme ++ (js "://" ++ path)) &&
        decide ((scheme ++ (js "://" ++ path)).length > scheme.length + 3)) = true := by
      rw [Bool.and_eq_true, decide_eq_true_eq, List.isPrefixOf_iff_prefix, ← List.append_assoc]
      refine ⟨List.prefix_append .., ?_⟩
      simp only [List.length_append, hmarker]
      omega
    rw [hsize, Bool.not_true, if_neg Bool.false_ne_true, if_pos hscheme]

/-! ## Admissible segments -/

/-- A segment that a pattern may have: a literal without an asterisk, `*` or `**`. -/
def IsAdmissible (segment : JsString) : Prop :=
  segment ≠ [] ∧ (asterisk ∉ segment ∨ segment = singleWildcard ∨ segment = doubleWildcard)

/-- No two `**` stand next to each other. -/
def DoublesApart (segments : List JsString) : Prop :=
  segments.IsChain fun a b => ¬ (a = doubleWildcard ∧ b = doubleWildcard)

/-- Admissible segments, and no two `**` next to each other. -/
structure Pattern.Admissible (pattern : Pattern) : Prop where
  segments : ∀ segment ∈ pattern.segments, IsAdmissible segment
  apart : DoublesApart pattern.segments

theorem not_admissible_iff {segment : JsString} (hne : segment ≠ []) : ¬ IsAdmissible segment ↔
    ¬ segment = singleWildcard ∧ ¬ segment = doubleWildcard ∧ containsAsterisk segment = true := by
  rw [containsAsterisk, List.contains_iff_mem]
  unfold IsAdmissible
  tauto

theorem doublesApart_cons {segment : JsString} {segments : List JsString} :
    DoublesApart (segment :: segments) ↔
      (segment = doubleWildcard → segments.head? ≠ some doubleWildcard) ∧
        DoublesApart segments := by
  cases segments <;> simp [DoublesApart]

/-- What the scan returns, for a scan in the middle of the pattern. -/
theorem scanPattern_eq_some_iff {segments : List JsString} {previous : Bool} {n m n' m' : Nat} :
    scanPattern previous n m segments = some (n', m') ↔
      (∀ segment ∈ segments, IsAdmissible segment) ∧
      (previous = true → segments.head? ≠ some doubleWildcard) ∧ DoublesApart segments ∧
      n' = n + segments.length ∧ m' = m + segments.count doubleWildcard := by
  induction segments generalizing previous n m with
  | nil => simp [scanPattern, DoublesApart, eq_comm]
  | cons segment segments ih =>
      rw [scanPattern, List.forall_mem_cons, doublesApart_cons, List.head?_cons, List.length_cons]
      by_cases hempty : segment = []
      · rw [if_pos hempty]
        exact iff_of_false (by simp) fun h => h.1.1.1 hempty
      rw [if_neg hempty]
      by_cases hok : IsAdmissible segment
      · have hgood := mt (not_admissible_iff hempty).mpr (not_not.mpr hok)
        simp only [if_neg hgood]
        by_cases hdouble : segment = doubleWildcard
        · cases previous with
          | true => simp [hdouble]
          | false =>
              simp only [if_pos hdouble, Bool.false_eq_true, if_false, ih]
              rw [hdouble, List.count_cons_self]
              constructor
              · rintro ⟨hsegments, hhead, hapart, rfl, rfl⟩
                exact ⟨⟨hdouble ▸ hok, hsegments⟩, fun h => (by cases h),
                  ⟨fun _ => hhead trivial, hapart⟩, by omega, by omega⟩
              · rintro ⟨⟨-, hsegments⟩, -, ⟨hhead, hapart⟩, rfl, rfl⟩
                exact ⟨hsegments, fun _ => hhead rfl, hapart, by omega, by omega⟩
        · simp only [if_neg hdouble, ih]
          rw [List.count_cons_of_ne hdouble]
          constructor
          · rintro ⟨hsegments, -, hapart, rfl, rfl⟩
            exact ⟨⟨hok, hsegments⟩, fun _ h => hdouble (Option.some.inj h),
              ⟨fun h => absurd h hdouble, hapart⟩, by omega, rfl⟩
          · rintro ⟨⟨-, hsegments⟩, -, ⟨-, hapart⟩, rfl, rfl⟩
            exact ⟨hsegments, fun h => (by cases h), hapart, by omega, rfl⟩
      · simp only [if_pos ((not_admissible_iff hempty).mp hok)]
        exact iff_of_false (by simp) fun h => hok h.1.1

/-! ## The routes a pattern can match -/

/-- A route of one letter for each segment. -/
theorem isConcreteSegment_a : IsConcreteSegment (js "a") := by decide

theorem many_mem_iff {segments : List JsString} :
    Token.many ∈ segments.map token ↔ doubleWildcard ∈ segments := by
  rw [List.mem_map]
  constructor
  · rintro ⟨segment, hsegment, htoken⟩
    by_cases hsingle : segment = singleWildcard
    · rw [hsingle, token_single] at htoken
      cases htoken
    · by_cases hdouble : segment = doubleWildcard
      · exact hdouble ▸ hsegment
      · rw [token_literal hsingle hdouble] at htoken
        cases htoken
  · exact fun h => ⟨_, h, token_double⟩

/-- Literals and `*` are the segments that are no `**`. -/
theorem length_token {segments : List JsString} :
    (literals (segments.map token)).length + ones (segments.map token) +
      segments.count doubleWildcard = segments.length := by
  induction segments with
  | nil => rfl
  | cons segment segments ih =>
      rw [List.map_cons, List.length_cons]
      by_cases hsingle : segment = singleWildcard
      · rw [hsingle, token_single, List.count_cons_of_ne (Ne.symm double_ne_single)]
        simp only [literals, ones]
        omega
      · by_cases hdouble : segment = doubleWildcard
        · rw [hdouble, token_double, List.count_cons_self]
          simp only [literals, ones]
          omega
        · rw [token_literal hsingle hdouble, List.count_cons_of_ne hdouble]
          simp only [literals, ones, List.length_cons]
          omega

/-- The literals of admissible segments are concrete. -/
theorem literals_concrete {segments : List JsString} (hslash : ∀ s ∈ segments, slash ∉ s)
    (hok : ∀ s ∈ segments, IsAdmissible s) :
    ∀ a ∈ literals (segments.map token), IsConcreteSegment a := by
  induction segments with
  | nil => simp [literals]
  | cons segment segments ih =>
      rw [List.forall_mem_cons] at hslash hok
      have hrest := ih hslash.2 hok.2
      rw [List.map_cons]
      by_cases hsingle : segment = singleWildcard
      · rwa [hsingle, token_single]
      · by_cases hdouble : segment = doubleWildcard
        · rwa [hdouble, token_double]
        · rw [token_literal hsingle hdouble, literals, List.forall_mem_cons]
          have hliteral := hok.1.2.resolve_right fun h => h.elim hsingle hdouble
          exact ⟨⟨hok.1.1, hliteral, hslash.1⟩, hrest⟩

/-- A pattern of admissible segments matches a route of `n` segments if it does not ask for more,
and for exactly as many if it has no `**`. -/
theorem Pattern.exists_route_iff {pattern : Pattern} (hok : pattern.Admissible) {n : Nat}
    (hn : n ≠ 0) :
    (∃ route : ConcreteRoute, route.scheme = pattern.scheme ∧ route.segments.length = n ∧
        routeMatchesPattern route.text pattern.text = true) ↔
      if pattern.segments.count doubleWildcard = 0 then pattern.segments.length = n
      else pattern.segments.length - pattern.segments.count doubleWildcard ≤ n := by
  have hlength := @length_token pattern.segments
  have hcount : pattern.segments.count doubleWildcard = 0 ↔
      Token.many ∉ pattern.segments.map token := by
    rw [many_mem_iff, List.count_eq_zero]
  have hexists := exists_matches_iff (n := n) isConcreteSegment_a
    (literals_concrete pattern.no_slash hok.segments)
  trans ∃ s : List JsString, s.length = n ∧ (∀ b ∈ s, IsConcreteSegment b) ∧
    Matches (pattern.segments.map token) s
  · constructor
    · rintro ⟨route, -, hroute, hmatch⟩
      exact ⟨route.segments, hroute, route.concrete,
        ((routeMatchesPattern_iff route pattern).mp hmatch).2⟩
    · rintro ⟨s, hs, hconcrete, hmatch⟩
      have hne : s ≠ [] := by
        rintro rfl
        exact hn hs.symm
      let route : ConcreteRoute := ⟨pattern.scheme, s, hne, hconcrete⟩
      exact ⟨route, rfl, hs, (routeMatchesPattern_iff route pattern).mpr ⟨rfl, hmatch⟩⟩
  · rw [hexists]
    by_cases hzero : pattern.segments.count doubleWildcard = 0
    · rw [if_pos hzero, or_iff_right (hcount.mp hzero)]
      omega
    · rw [if_neg hzero, iff_true_intro (Or.inl (not_not.mp (mt hcount.mpr hzero))), and_true]
      omega

/-! ## Main result -/

/-- The scan, as a test of the segments behind the scheme. -/
theorem isRegistrationPatternShape_iff_scan {p : JsString} {n : Nat} :
    isRegistrationPatternShape p scheme.text (n + 1) = true ↔
      ∃ pattern : Pattern, pattern.scheme = scheme ∧ pattern.text = p ∧
        wireSizeIsValid p = true ∧ pattern.Admissible ∧
        if pattern.segments.count doubleWildcard = 0 then pattern.segments.length = n + 1
        else pattern.segments.length - pattern.segments.count doubleWildcard ≤ n + 1 := by
  have hmarker : (js "://").length = 3 := by decide
  constructor
  · intro h
    unfold isRegistrationPatternShape at h
    split at h
    case h_1 => cases h
    case h_2 start hstart =>
      obtain ⟨hsize, path, hne, rfl, rfl⟩ := pathStart_eq_some_iff.mp hstart
      have hdrop : (scheme.text ++ (js "://" ++ path)).drop (scheme.text.length + 3) = path := by
        rw [← hmarker, ← List.append_assoc]
        exact List.drop_left' (List.length_append ..)
      rw [hdrop] at h
      split at h
      case h_1 => cases h
      case h_2 counts segmentCount doubleWildcardCount hscan =>
        obtain ⟨hok, -, hapart, rfl, rfl⟩ := scanPattern_eq_some_iff.mp hscan
        refine ⟨⟨scheme, split path slash, split_ne_nil _ _, fun s hs => ?_⟩, rfl, ?_, hsize,
          ⟨hok, hapart⟩, ?_⟩
        · exact not_mem_of_mem_split hs
        · rw [Pattern.text, Scheme.route, intercalate_split]
        · rw [if_neg (Nat.succ_ne_zero n), Nat.zero_add, Nat.zero_add] at h
          split_ifs at h ⊢ <;> simpa using h
  · rintro ⟨pattern, rfl, rfl, hsize, hok, hcount⟩
    have hsplit : split ([slash].intercalate pattern.segments) slash = pattern.segments :=
      split_intercalate pattern.no_slash pattern.segments_ne
    have hne : [slash].intercalate pattern.segments ≠ [] := by
      intro hempty
      have hmem : [] ∈ pattern.segments := by
        rw [← hsplit, hempty]
        simp [split]
      exact (hok.segments _ hmem).1 rfl
    have hstart : pathStart pattern.text pattern.scheme.text false =
        some (pattern.scheme.text.length + 3) :=
      pathStart_eq_some_iff.mpr ⟨hsize, _, hne, rfl, rfl⟩
    have hdrop : pattern.text.drop (pattern.scheme.text.length + 3) =
        [slash].intercalate pattern.segments := pattern.scheme.drop_route _
    have hscan : scanPattern false 0 0 pattern.segments =
        some (pattern.segments.length, pattern.segments.count doubleWildcard) :=
      scanPattern_eq_some_iff.mpr ⟨hok.segments, fun h => (by cases h), hok.apart,
        (Nat.zero_add _).symm, (Nat.zero_add _).symm⟩
    simp only [isRegistrationPatternShape, hstart, hdrop, hsplit, hscan,
      if_neg (Nat.succ_ne_zero n)]
    split_ifs at hcount ⊢ <;> simpa using hcount

/-- A route of a given depth. -/
theorem isRouteShape_iff {r : JsString} {scheme : Scheme} {n : Nat} :
    isRouteShape r scheme.text (n + 1) false = true ↔ wireSizeIsValid r = true ∧
      ∃ route : ConcreteRoute, route.scheme = scheme ∧ route.segments.length = n + 1 ∧
        route.text = r := by
  have hscan : ∀ segments : List JsString, scanConcrete segments (n + 1) = true ↔
      segments.length = n + 1 ∧ ∀ s ∈ segments, s ≠ [] ∧ asterisk ∉ s := by
    intro segments
    simp only [scanConcrete, containsAsterisk, Nat.add_one_ne_zero, decide_false, Bool.false_or,
      Bool.and_eq_true, List.all_eq_true, decide_eq_true_eq, Bool.not_eq_true',
      List.contains_eq_mem, decide_eq_false_iff_not]
    constructor
    · rintro ⟨⟨hall, -⟩, hlength⟩
      exact ⟨hlength, hall⟩
    · rintro ⟨hlength, hall⟩
      exact ⟨⟨hall, by omega⟩, hlength⟩
  constructor
  · intro h
    unfold isRouteShape at h
    split at h
    case h_1 start hstart =>
      obtain ⟨hsize, path, -, rfl, rfl⟩ := pathStart_eq_some_iff.mp hstart
      have hdrop := scheme.drop_route (split path slash)
      rw [Scheme.route, intercalate_split] at hdrop
      rw [hdrop, hscan] at h
      refine ⟨hsize, ⟨scheme, split path slash, split_ne_nil _ _, fun s hs =>
        ⟨(h.2 s hs).1, (h.2 s hs).2, not_mem_of_mem_split hs⟩⟩, rfl, h.1, ?_⟩
      rw [ConcreteRoute.text, Scheme.route, intercalate_split]
    case h_2 => cases h
  · rintro ⟨hsize, route, rfl, hlength, rfl⟩
    have hsplit : split ([slash].intercalate route.segments) slash = route.segments :=
      split_intercalate (fun s hs => (route.concrete s hs).2.2) route.segments_ne
    have hpath : [slash].intercalate route.segments ≠ [] := by
      intro hnil
      have hmem : [] ∈ route.segments := by
        rw [← hsplit, hnil]
        simp [split]
      exact (route.concrete _ hmem).1 rfl
    have hstart : pathStart route.text route.scheme.text false =
        some (route.scheme.text.length + 3) :=
      pathStart_eq_some_iff.mpr ⟨hsize, _, hpath, rfl, rfl⟩
    have hdrop : route.text.drop (route.scheme.text.length + 3) =
        [slash].intercalate route.segments := route.scheme.drop_route _
    rw [isRouteShape, hstart]
    dsimp only
    rw [hdrop, hsplit, hscan]
    exact ⟨hlength, fun s hs => ⟨(route.concrete s hs).1, (route.concrete s hs).2.1⟩⟩

/-- **The loop of `isRouteShape`** always returns, and accepts the routes of that depth. -/
theorem isRouteShape_decides (r : JsString) (scheme : Scheme) (n : Nat) :
    ∃ accepted, (∃ k, ∀ rounds ≥ k,
        isRouteShapeWithin rounds r scheme.text (n + 1) false = some accepted) ∧
      (accepted = true ↔ (utf8Encode r).length ≤ 65535 ∧
        ∃ route : ConcreteRoute, route.scheme = scheme ∧ route.segments.length = n + 1 ∧
          route.text = r) := by
  refine ⟨_, isRouteShapeWithin_returns r scheme.text (n + 1) false, ?_⟩
  rw [isRouteShape_iff, wireSizeIsValid_iff]
  exact Iff.rfl

/-- A route as a pattern. -/
def ConcreteRoute.pattern (route : ConcreteRoute) : Pattern :=
  ⟨route.scheme, route.segments, route.segments_ne, fun s hs => (route.concrete s hs).2.2⟩

/-- A concrete route matches itself. -/
theorem ConcreteRoute.matches_self (route : ConcreteRoute) :
    routeMatchesPattern route.text route.text = true := by
  refine (routeMatchesPattern_iff route route.pattern).mpr ⟨rfl, ?_⟩
  have hmatches : ∀ segments : List JsString, (∀ s ∈ segments, IsConcreteSegment s) →
      Glob.Matches (segments.map token) segments := by
    intro segments hsegments
    induction segments with
    | nil => simp
    | cons s segments ih =>
        obtain ⟨hs, hrest⟩ := List.forall_mem_cons.mp hsegments
        rw [List.map_cons, token_literal hs.ne_single hs.ne_double, matches_literal]
        exact ⟨segments, rfl, ih hrest⟩
  exact hmatches _ route.concrete

/-- An exact route of three segments that the selector matches. -/
structure IsMatchedRoute (scheme : Scheme) (selector route : JsString) : Prop where
  exact : ∃ r : ConcreteRoute, r.scheme = scheme ∧ r.segments.length = 3 ∧ r.text = route
  matched : routeMatchesPattern route selector = true

/-- **Which patterns can be registered** for a domain whose routes have `n + 1` segments. -/
theorem isRegistrationPatternShape_iff (p : JsString) (scheme : Scheme) (n : Nat) :
    (∃ k, ∀ rounds ≥ k, isRegistrationPatternShapeWithin rounds p scheme.text (n + 1) =
        some (isRegistrationPatternShape p scheme.text (n + 1))) ∧
      (isRegistrationPatternShape p scheme.text (n + 1) = true ↔
        ∃ pattern : Pattern, pattern.scheme = scheme ∧ pattern.text = p ∧
          (utf8Encode p).length ≤ 65535 ∧ pattern.Admissible ∧
          ∃ route : ConcreteRoute, route.scheme = scheme ∧ route.segments.length = n + 1 ∧
            routeMatchesPattern route.text p = true) := by
  refine ⟨isRegistrationPatternShapeWithin_returns _ _ _, ?_⟩
  rw [isRegistrationPatternShape_iff_scan]
  refine exists_congr fun pattern => ?_
  constructor
  · rintro ⟨rfl, rfl, hsize, hok, hcount⟩
    exact ⟨rfl, rfl, wireSizeIsValid_iff.mp hsize, hok,
      (Pattern.exists_route_iff hok (Nat.succ_ne_zero n)).mpr hcount⟩
  · rintro ⟨rfl, rfl, hsize, hok, hroute⟩
    exact ⟨rfl, rfl, wireSizeIsValid_iff.mpr hsize, hok,
      (Pattern.exists_route_iff hok (Nat.succ_ne_zero n)).mp hroute⟩

end FitzTs.Routes
