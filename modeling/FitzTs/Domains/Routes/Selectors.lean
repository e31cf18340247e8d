import FitzTs.Domains.Routes.Registration
/-!
# FitzTs.Domains.Routes.Selectors

**The scope of a stream selector.** `classifyStreamSelectorScope` reads the scope off the shape of
the selector. The scope is the narrowest level whose fixed segments all the routes share that the
selector matches (`shapeScope_narrowest`): a `*` or `**` lets two routes differ where it stands.

One string is let through that is no selector: with three segments the source asks for none to be
empty, with `realm/**` it does not.

## Main result

* `selectorSound_iff` — the classification is sound for every string but `stream:///**`.
-/

namespace FitzTs.Routes

open JsString Glob

/-! ## What the classification is to say -/

def streamScheme : Scheme := ⟨js "stream", by decide, by decide⟩

/-- A segment of a selector of fixed depth: a literal without an asterisk, or `*`. -/
def IsSelectorSegment (segment : JsString) : Prop :=
  segment ≠ [] ∧ (asterisk ∉ segment ∨ segment = singleWildcard)

/-- The shapes of a selector. -/
inductive IsSelectorShape : List JsString → Prop
  | all : IsSelectorShape [doubleWildcard]
  | realm {realm : JsString} (hne : realm ≠ []) (hliteral : asterisk ∉ realm) :
      IsSelectorShape [realm, doubleWildcard]
  | fixed {realm area resource : JsString} (hrealm : IsSelectorSegment realm)
      (harea : IsSelectorSegment area) (hresource : IsSelectorSegment resource) :
      IsSelectorShape [realm, area, resource]

def IsStreamSelector (r : JsString) : Prop :=
  (utf8Encode r).length ≤ 4096 ∧
    ∃ pattern : Pattern, pattern.scheme = streamScheme ∧ pattern.text = r ∧
      IsSelectorShape pattern.segments

/-- The number of leading segments that a level fixes. -/
def StreamSelectorScope.fixed : StreamSelectorScope → Nat
  | .resource => 3
  | .area => 2
  | .realm => 1
  | .global => 0

/-- Every concrete route that the selector matches begins with the same `n` segments. -/
def Contains (r : JsString) (n : Nat) : Prop :=
  ∃ leading : List JsString, leading.length = n ∧ ∀ route : ConcreteRoute,
    routeMatchesPattern route.text r = true → leading <+: route.segments

/-- The scope contains what the selector matches, and no narrower one does. -/
def IsNarrowest (scope : StreamSelectorScope) (r : JsString) : Prop :=
  Contains r scope.fixed ∧ ∀ narrower : StreamSelectorScope, scope.fixed < narrower.fixed →
    ¬ Contains r narrower.fixed

/-- The scope is defined for the selectors and for no other string, and it is the narrowest. -/
structure SelectorSound (r : JsString) : Prop where
  defined_iff : (classifyStreamSelectorScope r).isSome = true ↔ IsStreamSelector r
  narrowest : ∀ scope, classifyStreamSelectorScope r = some scope → IsNarrowest scope r

/-! ## The shape decides -/

/-- The scope of the segments of a selector that fits on the wire. -/
def shapeScope : List JsString → Option StreamSelectorScope
  | [segment] => if segment = doubleWildcard then some .global else none
  | [realm, rest] => if rest = doubleWildcard && !containsAsterisk realm then some .realm else none
  | [realm, area, resource] =>
    if [realm, area, resource].any (· = []) then none
    else if !([realm, area, resource].all fun s =>
        !containsAsterisk s || s = singleWildcard) then none
    else if realm = singleWildcard then some .global
    else if area = singleWildcard then some .realm
    else if resource = singleWildcard then some .area
    else some .resource
  | _ => none

variable {pattern : Pattern} {r : JsString} {scope : StreamSelectorScope}

theorem split_path (pattern : Pattern) :
    split ([slash].intercalate pattern.segments) slash = pattern.segments :=
  split_intercalate pattern.no_slash pattern.segments_ne

/-- A text is that of one list of segments. -/
theorem Pattern.segments_unique {pattern' : Pattern} (hscheme : pattern.scheme = pattern'.scheme)
    (htext : pattern.text = pattern'.text) : pattern.segments = pattern'.segments := by
  have hpath := congrArg (List.drop (pattern.scheme.text.length + 3)) htext
  rw [Pattern.text, Pattern.text, pattern.scheme.drop_route, hscheme,
    pattern'.scheme.drop_route] at hpath
  rw [← split_path pattern, hpath, split_path pattern']

/-- `stream://**`. -/
def allStreams : Pattern := ⟨streamScheme, [doubleWildcard], by decide, by decide⟩

theorem text_eq_all_iff (hscheme : pattern.scheme = streamScheme) :
    pattern.text = js "stream://**" ↔ pattern.segments = [doubleWildcard] := by
  have hall : allStreams.text = js "stream://**" := by decide
  rw [← hall]
  constructor
  · exact Pattern.segments_unique hscheme
  · intro h
    rw [Pattern.text, h, hscheme]
    rfl

/-- **The classification** of a text with the scheme of streams. -/
theorem classify_text (hscheme : pattern.scheme = streamScheme) :
    classifyStreamSelectorScope pattern.text =
      if utf8Length pattern.text > 4096 then none else shapeScope pattern.segments := by
  have hdrop : pattern.text.drop (6 + 3) = [slash].intercalate pattern.segments := by
    have hpath := pattern.scheme.drop_route pattern.segments
    rw [hscheme] at hpath
    rw [Pattern.text, hscheme]
    exact hpath
  unfold classifyStreamSelectorScope
  split
  case h_1 hstart =>
    split
    case isTrue => rfl
    case isFalse hsize =>
      -- only an empty path has no start
      have hvalid : wireSizeIsValid pattern.text = true := by
        rw [wireSizeIsValid_iff, length_utf8Encode, maxWireBytes]
        omega
      have hempty : [slash].intercalate pattern.segments = [] := by
        by_contra hne
        have hstart' : pathStart pattern.text (js "stream") false = some (6 + 3) :=
          pathStart_eq_some_iff.mpr ⟨hvalid, _, hne, by rw [Pattern.text, hscheme]; rfl, rfl⟩
        rw [hstart] at hstart'
        cases hstart'
      rw [← split_path pattern, hempty]
      decide
  case h_2 start hstart =>
    obtain ⟨-, -, -, -, rfl⟩ := pathStart_eq_some_iff.mp hstart
    split
    case isTrue => rfl
    case isFalse =>
      rw [show (js "stream").length = 6 by decide, hdrop, split_path]
      by_cases hall : pattern.text = js "stream://**"
      · rw [if_pos hall, (text_eq_all_iff hscheme).mp hall]
        decide
      · rw [if_neg hall]
        rw [text_eq_all_iff hscheme] at hall
        rcases hsegments : pattern.segments with
          _ | ⟨segment, _ | ⟨rest, _ | ⟨resource, _ | ⟨_, _⟩⟩⟩⟩
        · rfl
        · have hsegment : segment ≠ doubleWildcard := fun heq => hall (by rw [hsegments, heq])
          simp [shapeScope, hsegment]
        · rfl
        · rfl
        · rfl

/-- Other strings have no scope. -/
theorem exists_pattern (h : classifyStreamSelectorScope r = some scope) :
    ∃ pattern : Pattern, pattern.scheme = streamScheme ∧ pattern.text = r := by
  unfold classifyStreamSelectorScope at h
  split at h
  case h_1 => cases h
  case h_2 start hstart =>
    obtain ⟨-, path, -, rfl, -⟩ := pathStart_eq_some_iff.mp hstart
    refine ⟨⟨streamScheme, split path slash, split_ne_nil _ _, fun s hs => not_mem_of_mem_split hs⟩,
      rfl, ?_⟩
    rw [Pattern.text, Scheme.route, intercalate_split]
    rfl

theorem not_selectorSegment_iff {segment : JsString} (hne : segment ≠ []) :
    ¬ IsSelectorSegment segment ↔
      (!containsAsterisk segment || (segment = singleWildcard : Bool)) = false := by
  rw [Bool.or_eq_false_iff, Bool.not_eq_false', containsAsterisk, List.contains_iff_mem,
    decide_eq_false_iff_not]
  unfold IsSelectorSegment
  tauto

/-- A selector of fixed depth passes both checks. -/
theorem shape_guards {realm area resource : JsString} (hrealm : IsSelectorSegment realm)
    (harea : IsSelectorSegment area) (hresource : IsSelectorSegment resource) :
    [realm, area, resource].any (· = []) = false ∧
      ([realm, area, resource].all fun s =>
        !containsAsterisk s || (s = singleWildcard : Bool)) = true := by
  refine ⟨by simp [hrealm.1, harea.1, hresource.1], ?_⟩
  rw [List.all_eq_true]
  intro s hs
  have hs : IsSelectorSegment s := by
    simp only [List.mem_cons, List.not_mem_nil, or_false] at hs
    rcases hs with rfl | rfl | rfl <;> assumption
  by_contra hfalse
  exact (not_selectorSegment_iff hs.1).mpr (Bool.eq_false_of_not_eq_true hfalse) hs

/-- **Which shapes have a scope**: those of the selectors, and one more. -/
theorem shapeScope_isSome_iff {segments : List JsString} :
    (shapeScope segments).isSome = true ↔
      IsSelectorShape segments ∨ segments = [[], doubleWildcard] := by
  match segments with
  | [] =>
      refine iff_of_false (by simp [shapeScope]) ?_
      rintro (h | h) <;> cases h
  | [segment] =>
      by_cases hdouble : segment = doubleWildcard
      · exact iff_of_true (by simp [shapeScope, hdouble]) (Or.inl (hdouble ▸ .all))
      · refine iff_of_false (by simp [shapeScope, hdouble]) ?_
        rintro (h | h) <;> cases h
        exact hdouble rfl
  -- the empty realm is not looked for here
  | [realm, rest] =>
      by_cases hrest : rest = doubleWildcard ∧ asterisk ∉ realm
      · obtain ⟨rfl, hliteral⟩ := hrest
        refine iff_of_true (by simp [shapeScope, containsAsterisk, hliteral]) ?_
        by_cases hne : realm = []
        · exact Or.inr (by rw [hne])
        · exact Or.inl (.realm hne hliteral)
      · refine iff_of_false (fun h => hrest ?_) ?_
        · simpa [shapeScope, containsAsterisk] using h
        · rintro (h | h)
          · cases h with
            | realm _ hliteral => exact hrest ⟨rfl, hliteral⟩
          · cases h
            exact hrest ⟨rfl, by decide⟩
  -- three segments, none of them empty and each a wildcard or a literal
  | [realm, area, resource] =>
      by_cases hok : IsSelectorSegment realm ∧ IsSelectorSegment area ∧ IsSelectorSegment resource
      · obtain ⟨hrealm, harea, hresource⟩ := hok
        refine iff_of_true ?_ (Or.inl (.fixed hrealm harea hresource))
        rw [shapeScope, (shape_guards hrealm harea hresource).1,
          (shape_guards hrealm harea hresource).2]
        simp only [Bool.false_eq_true, if_false, Bool.not_true]
        split_ifs <;> rfl
      · refine iff_of_false (fun h => hok ?_) ?_
        · rw [shapeScope] at h
          split at h
          case isTrue => cases h
          case isFalse hempty =>
            split at h
            case isTrue => cases h
            case isFalse hall =>
              rw [Bool.not_eq_true, Bool.not_eq_false', List.all_eq_true] at hall
              have hsegment : ∀ s ∈ [realm, area, resource], IsSelectorSegment s := by
                intro s hs
                have hne : s ≠ [] := by
                  rintro rfl
                  exact hempty (List.any_eq_true.mpr ⟨[], hs, by simp⟩)
                by_contra hbad
                have hfalse := (not_selectorSegment_iff hne).mp hbad
                rw [hall s hs] at hfalse
                cases hfalse
              exact ⟨hsegment _ (by simp), hsegment _ (by simp), hsegment _ (by simp)⟩
        · rintro (h | h)
          · cases h with
            | fixed hrealm harea hresource => exact hok ⟨hrealm, harea, hresource⟩
          · cases h
  | _ :: _ :: _ :: _ :: _ =>
      refine iff_of_false (by simp [shapeScope]) ?_
      rintro (h | h) <;> cases h

/-! ## The narrowest scope -/

theorem not_contains {route route' : ConcreteRoute} (h : routeMatchesPattern route.text r = true)
    (h' : routeMatchesPattern route'.text r = true) {n m : Nat}
    (hdiffer : route.segments[n]? ≠ route'.segments[n]?) (hlt : n < m) : ¬ Contains r m := by
  rintro ⟨leading, rfl, hleading⟩
  obtain ⟨rest, hrest⟩ := hleading route h
  obtain ⟨rest', hrest'⟩ := hleading route' h'
  apply hdiffer
  rw [← hrest, ← hrest', List.getElem?_append_left hlt, List.getElem?_append_left hlt]

/-- Two routes that differ behind the fixed segments. -/
theorem isNarrowest_of_differ (hcontains : Contains r scope.fixed) (route route' : ConcreteRoute)
    (h : routeMatchesPattern route.text r = true) (h' : routeMatchesPattern route'.text r = true)
    (hdiffer : route.segments[scope.fixed]? ≠ route'.segments[scope.fixed]?) :
    IsNarrowest scope r :=
  ⟨hcontains, fun _ hlt => not_contains h h' hdiffer hlt⟩

/-- A route of the scheme of streams. -/
def streamRoute (segments : List JsString) (hne : segments ≠ [])
    (hconcrete : ∀ segment ∈ segments, IsConcreteSegment segment) : ConcreteRoute :=
  ⟨streamScheme, segments, hne, hconcrete⟩

theorem matches_streamRoute (hscheme : pattern.scheme = streamScheme) {segments : List JsString}
    {hne : segments ≠ []} {hconcrete : ∀ segment ∈ segments, IsConcreteSegment segment}
    (h : pattern.Takes segments) :
    routeMatchesPattern (streamRoute segments hne hconcrete).text pattern.text = true :=
  (routeMatchesPattern_iff (streamRoute segments hne hconcrete) pattern).mpr
    ⟨congrArg Scheme.text hscheme.symm, h⟩

/-- What a segment of fixed depth takes. -/
theorem matches_selectorSegment {p : JsString} (hp : IsSelectorSegment p)
    {rest : List (Token JsString)} {s : List JsString} :
    Matches (token p :: rest) s ↔
      ∃ x t, s = x :: t ∧ (p = singleWildcard ∨ p = x) ∧ Matches rest t := by
  by_cases hsingle : p = singleWildcard
  · rw [hsingle, token_single, matches_one]
    simp
  · have hdouble : p ≠ doubleWildcard := by
      rintro rfl
      exact (hp.2.resolve_right hsingle) (by decide)
    rw [token_literal hsingle hdouble, matches_literal]
    constructor
    · rintro ⟨t, rfl, ht⟩
      exact ⟨p, t, rfl, Or.inr rfl, ht⟩
    · rintro ⟨x, t, rfl, hx, ht⟩
      obtain rfl := hx.resolve_left hsingle
      exact ⟨t, rfl, ht⟩

/-- A segment that `p` takes: itself, or `f` for a `*`. -/
def fillSegment (p f : JsString) : JsString := if p = singleWildcard then f else p

theorem fillSegment_takes (p f : JsString) : p = singleWildcard ∨ p = fillSegment p f := by
  unfold fillSegment
  split
  · exact Or.inl ‹_›
  · exact Or.inr rfl

theorem fillSegment_concrete {p f : JsString} (hp : IsSelectorSegment p) (hslash : slash ∉ p)
    (hf : IsConcreteSegment f) : IsConcreteSegment (fillSegment p f) := by
  unfold fillSegment
  split
  · exact hf
  · rename_i hsingle
    exact ⟨hp.1, hp.2.resolve_right hsingle, hslash⟩

theorem isConcreteSegment_b : IsConcreteSegment (js "b") := by decide

/-- A selector of fixed depth. -/
theorem takes_fixed {realm area resource : JsString} (hrealm : IsSelectorSegment realm)
    (harea : IsSelectorSegment area) (hresource : IsSelectorSegment resource)
    (hsegments : pattern.segments = [realm, area, resource]) {s : List JsString} :
    pattern.Takes s ↔ ∃ x y z, s = [x, y, z] ∧ (realm = singleWildcard ∨ realm = x) ∧
      (area = singleWildcard ∨ area = y) ∧ (resource = singleWildcard ∨ resource = z) := by
  rw [Pattern.Takes, hsegments, List.map_cons, List.map_cons, List.map_cons, List.map_nil,
    matches_selectorSegment hrealm]
  simp only [matches_selectorSegment harea, matches_selectorSegment hresource, matches_nil]
  constructor
  · rintro ⟨x, _, rfl, hx, y, _, rfl, hy, z, _, rfl, hz, rfl⟩
    exact ⟨x, y, z, rfl, hx, hy, hz⟩
  · rintro ⟨x, y, z, rfl, hx, hy, hz⟩
    exact ⟨x, _, rfl, hx, y, _, rfl, hy, z, _, rfl, hz, rfl⟩

/-- The routes that a selector of fixed depth matches, with a letter in place of each `*`. -/
theorem exists_filled (hscheme : pattern.scheme = streamScheme) {realm area resource : JsString}
    (hrealm : IsSelectorSegment realm) (harea : IsSelectorSegment area)
    (hresource : IsSelectorSegment resource)
    (hsegments : pattern.segments = [realm, area, resource]) {f : JsString}
    (hf : IsConcreteSegment f) :
    ∃ route : ConcreteRoute, routeMatchesPattern route.text pattern.text = true ∧
      route.segments = [fillSegment realm f, fillSegment area f, fillSegment resource f] := by
  have hslash : slash ∉ realm ∧ slash ∉ area ∧ slash ∉ resource := by
    have hall := pattern.no_slash
    rw [hsegments] at hall
    simpa using hall
  have hconcrete : ∀ s ∈ [fillSegment realm f, fillSegment area f, fillSegment resource f],
      IsConcreteSegment s := by
    simp only [List.forall_mem_cons]
    exact ⟨fillSegment_concrete hrealm hslash.1 hf, fillSegment_concrete harea hslash.2.1 hf,
      fillSegment_concrete hresource hslash.2.2 hf, by simp⟩
  refine ⟨streamRoute _ (by simp) hconcrete, matches_streamRoute hscheme ?_, rfl⟩
  exact (takes_fixed hrealm harea hresource hsegments).mpr ⟨_, _, _, rfl, fillSegment_takes _ _,
    fillSegment_takes _ _, fillSegment_takes _ _⟩

theorem contains_of_takes (leading : List JsString)
    (h : ∀ s, pattern.Takes s → leading <+: s) : Contains pattern.text leading.length :=
  ⟨leading, rfl, fun route hroute => h _ ((routeMatchesPattern_iff route pattern).mp hroute).2⟩

/-- **The scope of a selector is the narrowest.** -/
theorem shapeScope_narrowest (hscheme : pattern.scheme = streamScheme)
    (hshape : IsSelectorShape pattern.segments) (h : shapeScope pattern.segments = some scope) :
    IsNarrowest scope pattern.text := by
  generalize hsegments : pattern.segments = segments at hshape h
  cases hshape with
  | all =>
      obtain rfl : StreamSelectorScope.global = scope := by
        simpa [shapeScope] using h
      have htakes : ∀ s, pattern.Takes s := fun s => by
        rw [Pattern.Takes, hsegments]
        simp
      exact isNarrowest_of_differ (contains_of_takes [] fun s _ => List.nil_prefix)
        (streamRoute [js "a"] (by simp) (by simpa using isConcreteSegment_a))
        (streamRoute [js "b"] (by simp) (by simpa using isConcreteSegment_b))
        (matches_streamRoute hscheme (htakes _)) (matches_streamRoute hscheme (htakes _))
        (by decide)
  | @realm realm hne hliteral =>
      obtain rfl : StreamSelectorScope.realm = scope := by
        simpa [shapeScope, containsAsterisk, hliteral] using h
      have hrealm : IsConcreteSegment realm := by
        have hslash := pattern.no_slash
        rw [hsegments, List.forall_mem_cons] at hslash
        exact ⟨hne, hliteral, hslash.1⟩
      have htakes : ∀ s, pattern.Takes s ↔ ∃ t, s = realm :: t := fun s => by
        rw [Pattern.Takes, hsegments, List.map_cons,
          token_literal hrealm.ne_single hrealm.ne_double, matches_literal]
        simp
      exact isNarrowest_of_differ
        (contains_of_takes [realm] fun s hs => by
          obtain ⟨t, rfl⟩ := (htakes s).mp hs
          exact ⟨t, rfl⟩)
        (streamRoute [realm, js "a"] (by simp)
          (by simpa using ⟨hrealm, isConcreteSegment_a⟩))
        (streamRoute [realm, js "b"] (by simp)
          (by simpa using ⟨hrealm, isConcreteSegment_b⟩))
        (matches_streamRoute hscheme ((htakes _).mpr ⟨_, rfl⟩))
        (matches_streamRoute hscheme ((htakes _).mpr ⟨_, rfl⟩))
        (by
          change some (js "a") ≠ some (js "b")
          decide)
  | @fixed realm area resource hrealm harea hresource =>
      have htakes := fun s => takes_fixed hrealm harea hresource hsegments (s := s)
      obtain ⟨route, hroute, hsegments₁⟩ :=
        exists_filled hscheme hrealm harea hresource hsegments isConcreteSegment_a
      obtain ⟨route', hroute', hsegments₂⟩ :=
        exists_filled hscheme hrealm harea hresource hsegments isConcreteSegment_b
      have hfilled : some (fillSegment singleWildcard (js "a")) ≠
          some (fillSegment singleWildcard (js "b")) := by decide
      rw [shapeScope, shape_guards hrealm harea hresource |>.1,
        shape_guards hrealm harea hresource |>.2] at h
      simp only [Bool.false_eq_true, if_false, Bool.not_true] at h
      -- the first `*` is where the routes begin to differ
      split_ifs at h with hrealm₀ harea₀ hresource₀ <;> obtain rfl := Option.some.inj h
      · refine isNarrowest_of_differ (contains_of_takes [] fun s _ => List.nil_prefix)
          route route' hroute hroute' ?_
        rw [hsegments₁, hsegments₂, hrealm₀]
        exact hfilled
      · refine isNarrowest_of_differ (contains_of_takes [realm] fun s hs => ?_)
          route route' hroute hroute' ?_
        · obtain ⟨x, y, z, rfl, hx, -, -⟩ := (htakes s).mp hs
          exact ⟨[y, z], by rw [hx.resolve_left hrealm₀]; rfl⟩
        · rw [hsegments₁, hsegments₂, harea₀]
          exact hfilled
      · refine isNarrowest_of_differ (contains_of_takes [realm, area] fun s hs => ?_)
          route route' hroute hroute' ?_
        · obtain ⟨x, y, z, rfl, hx, hy, -⟩ := (htakes s).mp hs
          exact ⟨[z], by rw [hx.resolve_left hrealm₀, hy.resolve_left harea₀]; rfl⟩
        · rw [hsegments₁, hsegments₂, hresource₀]
          exact hfilled
      · -- nothing is narrower than the resource
        refine ⟨contains_of_takes [realm, area, resource] fun s hs => ?_, ?_⟩
        · obtain ⟨x, y, z, rfl, hx, hy, hz⟩ := (htakes s).mp hs
          rw [hx.resolve_left hrealm₀, hy.resolve_left harea₀, hz.resolve_left hresource₀]
        · intro narrower hlt
          cases narrower <;> simp [StreamSelectorScope.fixed] at hlt

/-! ## Main result -/

/-- `stream:///**`. -/
def emptyRealm : Pattern := ⟨streamScheme, [[], doubleWildcard], by decide, by decide⟩

theorem emptyRealm_text : emptyRealm.text = js "stream:///**" := by decide

theorem isStreamSelector_iff (hscheme : pattern.scheme = streamScheme) :
    IsStreamSelector pattern.text ↔
      ¬ utf8Length pattern.text > 4096 ∧ IsSelectorShape pattern.segments := by
  unfold IsStreamSelector
  rw [length_utf8Encode, Nat.not_lt]
  refine and_congr_right fun _ => ⟨?_, fun h => ⟨pattern, hscheme, rfl, h⟩⟩
  rintro ⟨pattern', hscheme', htext, hshape⟩
  rwa [Pattern.segments_unique (hscheme'.trans hscheme.symm) htext] at hshape

/-- The scope of `stream:///**` is not sound: it is no selector. -/
theorem not_selectorSound_emptyRealm : ¬ SelectorSound (js "stream:///**") := by
  intro h
  have hdefined : (classifyStreamSelectorScope (js "stream:///**")).isSome = true := by decide
  have hselector := h.defined_iff.mp hdefined
  rw [← emptyRealm_text, isStreamSelector_iff rfl] at hselector
  cases hselector.2 with
  | realm hne _ => exact hne rfl

theorem selectorSound_of_ne (hne : r ≠ js "stream:///**") : SelectorSound r := by
  by_cases hpattern : ∃ pattern : Pattern, pattern.scheme = streamScheme ∧ pattern.text = r
  case neg =>
    have hnone : classifyStreamSelectorScope r = none := by
      rw [Option.eq_none_iff_forall_not_mem]
      exact fun scope hscope => hpattern (exists_pattern hscope)
    refine ⟨iff_of_false (by simp [hnone]) ?_, by simp [hnone]⟩
    rintro ⟨-, pattern, hscheme, htext, -⟩
    exact hpattern ⟨pattern, hscheme, htext⟩
  case pos =>
    obtain ⟨pattern, hscheme, rfl⟩ := hpattern
    have hsegments : pattern.segments ≠ [[], doubleWildcard] := by
      intro heq
      apply hne
      rw [← emptyRealm_text, Pattern.text, Pattern.text, hscheme, heq]
      rfl
    have hshape : (shapeScope pattern.segments).isSome = true ↔
        IsSelectorShape pattern.segments := by
      rw [shapeScope_isSome_iff]
      exact or_iff_left hsegments
    constructor
    · rw [classify_text hscheme, isStreamSelector_iff hscheme, ← hshape]
      split <;> simp_all
    · intro scope hscope
      rw [classify_text hscheme] at hscope
      split at hscope
      case isTrue => cases hscope
      case isFalse =>
        exact shapeScope_narrowest hscheme (hshape.mp (by rw [hscope]; rfl)) hscope

/-- **Soundness of the classification.** One string is taken for a selector that is none: its realm
is empty. -/
theorem selectorSound_iff (r : JsString) : SelectorSound r ↔ r ≠ js "stream:///**" := by
  constructor
  · rintro h rfl
    exact not_selectorSound_emptyRealm h
  · exact selectorSound_of_ne

/-- So not every string is classified soundly. -/
theorem not_forall_selectorSound : ¬ ∀ r, SelectorSound r :=
  fun h => not_selectorSound_emptyRealm (h _)

end FitzTs.Routes
