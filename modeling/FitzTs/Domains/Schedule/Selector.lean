import FitzTs.Domains.Routes.Selectors
import FitzTs.Domains.Schedule.Entries
/-!
# FitzTs.Domains.Schedule.Selector

The selectors of `domains/schedule/client.ts`: `isScheduleSelector`, `routeMatchesSchedule`, which
splits routes by itself, and `entries`, which filters the pages of LIST with it.

A selector of fewer than four segments stands for the pattern that is completed with `*`.

## Main result

* `scheduleSelector_agrees` — on concrete routes the filter is `routeMatchesPattern` with the
  completed selector, and `entries` yields what it takes of every page.
-/

namespace FitzTs.Schedule

open JsString Glob Routes

/-- The pieces between so many of the separators. -/
def splitStringWithin (separator : JsString) : Nat → JsString → List JsString
  | 0, s => [s]
  | rounds + 1, s =>
    match indexOf separator s with
    | none => [s]
    | some n => s.take n :: splitStringWithin separator rounds (s.drop (n + separator.length))

/-- `split` by a string that is not empty. Each round leaves less. -/
def splitString (s separator : JsString) : List JsString :=
  splitStringWithin separator s.length s

/-- `route.split("://")[1]?.split("/") ?? []`. -/
def partsOf (route : JsString) : List JsString :=
  match (splitString route (js "://"))[1]? with
  | some path => split path slash
  | none => []

/-- `selectorParts.every((part, i) => part === "*" || part === routeParts[i])`. -/
def everyPart (selectorParts routeParts : List JsString) : Bool :=
  selectorParts.zipIdx.all fun (part, i) => part = singleWildcard || some part = routeParts[i]?

def routeMatchesSchedule (route selector : JsString) : Bool :=
  let routeParts := partsOf route
  let selectorParts := partsOf selector
  if selectorParts.length = 2 ∧ selectorParts[1]? = some doubleWildcard then
    routeParts.length = 4 && routeParts[0]? = selectorParts[0]?
  else if selectorParts.length = 3 then
    routeParts.length = 4 && everyPart selectorParts routeParts
  else routeParts.length = selectorParts.length && everyPart selectorParts routeParts

def isScheduleSelector (selector : JsString) : Bool :=
  if !(js "schedule://").isPrefixOf selector then false
  else
    let literal (part : JsString) : Bool := !containsAsterisk part
    let wild (part : JsString) : Bool := part = singleWildcard
    match split (selector.drop (js "schedule://").length) slash with
    | [realm, rest] => rest = doubleWildcard && realm ≠ [] && literal realm
    | [realm, area, resource] =>
      [realm, area, resource].all (·.length > 0) &&
        (literal realm && (wild area || literal area) && (wild resource || literal resource))
    | [realm, area, resource, operation] =>
      if [realm, area, resource, operation].any (·.length = 0) then false
      else
        literal realm && literal area && literal resource && literal operation ||
          literal realm && literal area && literal resource && wild operation ||
          literal realm && wild area && wild resource && wild operation
    | _ => false

/-! ## The generator -/

/-- How `entries` has ended, if it has. -/
inductive EntriesEnd
  /-- It waits for the next page. -/
  | pending
  | returned
  | invalidRoute
  | invalidResponse
  /-- The request has failed. -/
  | failed
  deriving DecidableEq, Repr

structure EntriesRun where
  /-- The cursors of the requests. -/
  cursors : List (Option JsString) := []
  yields : List (List ScheduleEntry) := []
  ended : EntriesEnd
  deriving DecidableEq, Repr

/-- The loop of `entries`, over the answers to LIST; `none` where the request fails. -/
def entriesLoop (selector : JsString) (cursor : Option JsString) :
    List (Option ScheduleCursorPage) → EntriesRun
  | [] => { cursors := [cursor], ended := .pending }
  | none :: _ => { cursors := [cursor], ended := .failed }
  | some page :: answers =>
    let chunk := page.entries.filter (routeMatchesSchedule ·.route selector)
    if !page.hasMore then { cursors := [cursor], yields := [chunk], ended := .returned }
    else
      match page.continuation with
      | none => { cursors := [cursor], yields := [chunk], ended := .invalidResponse }
      | some continuation =>
        let later := entriesLoop selector (some continuation) answers
        { later with cursors := cursor :: later.cursors, yields := chunk :: later.yields }

/-- `entries`. -/
def entries (selector : JsString) (answers : List (Option ScheduleCursorPage)) : EntriesRun :=
  if !isScheduleSelector selector then { ended := .invalidRoute }
  else entriesLoop selector none answers

/-! ## Selectors as patterns -/

def scheduleScheme : Scheme := ⟨js "schedule", by decide, by decide⟩

/-- The selector with a `*` for every segment that it leaves out. -/
def completed (selector : JsString) : JsString :=
  match split (selector.drop (js "schedule://").length) slash with
  | [realm, _] =>
    scheduleScheme.route [realm, singleWildcard, singleWildcard, singleWildcard]
  | [realm, area, resource] => scheduleScheme.route [realm, area, resource, singleWildcard]
  | _ => selector

/-- The shapes of a selector. -/
inductive IsScheduleShape : List JsString → Prop
  | realm {realm : JsString} (hne : realm ≠ []) (hliteral : asterisk ∉ realm) :
      IsScheduleShape [realm, doubleWildcard]
  | three {realm area resource : JsString} (hrealm : IsSelectorSegment realm)
      (harea : IsSelectorSegment area) (hresource : IsSelectorSegment resource) :
      IsScheduleShape [realm, area, resource]
  | four {realm area resource operation : JsString} (hrealm : IsSelectorSegment realm)
      (harea : IsSelectorSegment area) (hresource : IsSelectorSegment resource)
      (hoperation : IsSelectorSegment operation) :
      IsScheduleShape [realm, area, resource, operation]

theorem isSelectorSegment_of {part : JsString} (hne : part ≠ [])
    (h : (part = singleWildcard : Bool) = true ∨ (!containsAsterisk part) = true) :
    IsSelectorSegment part := by
  refine ⟨hne, ?_⟩
  rcases h with h | h
  · exact Or.inr (of_decide_eq_true h)
  · refine Or.inl fun hmem => ?_
    rw [containsAsterisk, List.contains_iff_mem.mpr hmem] at h
    cases h

/-- An accepted selector is made of segments in one of the shapes. -/
theorem shape_of_selector {selector : JsString} (h : isScheduleSelector selector = true) :
    ∃ segments, selector = scheduleScheme.route segments ∧ IsScheduleShape segments ∧
      split (selector.drop (js "schedule://").length) slash = segments ∧
        ∀ segment ∈ segments, slash ∉ segment := by
  unfold isScheduleSelector at h
  split at h
  case isTrue => cases h
  case isFalse hprefix =>
    simp only [Bool.not_eq_true', Bool.not_eq_false] at hprefix
    obtain ⟨path, rfl⟩ := List.isPrefixOf_iff_prefix.mp hprefix
    have hdrop : (js "schedule://" ++ path).drop (js "schedule://").length = path := List.drop_left
    rw [hdrop] at h ⊢
    refine ⟨split path slash, ?_, ?_, rfl, fun segment hmem => not_mem_of_mem_split hmem⟩
    · have hmarker : js "schedule://" = js "schedule" ++ js "://" := by decide
      rw [Scheme.route, intercalate_split, hmarker, List.append_assoc]
      rfl
    · generalize split path slash = parts at h
      split at h
      · simp only [Bool.and_eq_true, decide_eq_true_eq] at h
        obtain ⟨⟨rfl, hne⟩, hliteral⟩ := h
        refine .realm hne fun hmem => ?_
        rw [containsAsterisk, List.contains_iff_mem.mpr hmem] at hliteral
        cases hliteral
      · rename_i realm area resource
        simp only [List.all_cons, List.all_nil, Bool.and_true, Bool.and_eq_true, decide_eq_true_eq,
          List.length_pos_iff, Bool.or_eq_true] at h
        obtain ⟨⟨hrealm, harea, hresource⟩, ⟨hliteral, harea'⟩, hresource'⟩ := h
        exact .three (isSelectorSegment_of hrealm (Or.inr hliteral))
          (isSelectorSegment_of harea (by simpa using harea'))
          (isSelectorSegment_of hresource (by simpa using hresource'))
      · rename_i realm area resource operation
        split at h
        case isTrue => cases h
        case isFalse hne =>
          simp only [List.any_cons, List.any_nil, Bool.or_false, Bool.or_eq_true,
            decide_eq_true_eq, List.length_eq_zero_iff, not_or] at hne
          obtain ⟨hrealm, harea, hresource, hoperation⟩ := hne
          simp only [Bool.or_eq_true, Bool.and_eq_true] at h
          rcases h with (⟨⟨⟨h₁, h₂⟩, h₃⟩, h₄⟩ | ⟨⟨⟨h₁, h₂⟩, h₃⟩, h₄⟩) | ⟨⟨⟨h₁, h₂⟩, h₃⟩, h₄⟩
          · exact .four (isSelectorSegment_of hrealm (Or.inr h₁))
              (isSelectorSegment_of harea (Or.inr h₂)) (isSelectorSegment_of hresource (Or.inr h₃))
              (isSelectorSegment_of hoperation (Or.inr h₄))
          · exact .four (isSelectorSegment_of hrealm (Or.inr h₁))
              (isSelectorSegment_of harea (Or.inr h₂)) (isSelectorSegment_of hresource (Or.inr h₃))
              (isSelectorSegment_of hoperation (Or.inl h₄))
          · exact .four (isSelectorSegment_of hrealm (Or.inr h₁))
              (isSelectorSegment_of harea (Or.inl h₂)) (isSelectorSegment_of hresource (Or.inl h₃))
              (isSelectorSegment_of hoperation (Or.inl h₄))
      · cases h

/-! ## Splitting -/

/-- Behind a marker in a path stands an empty segment. -/
theorem nil_mem_split_of_indexOf {path : JsString} {n : Nat}
    (h : indexOf (js "://") path = some n) : [] ∈ split path slash := by
  have hmarker : js "://" = [58, slash, slash] := by decide
  rw [hmarker] at h
  obtain ⟨before, after, rfl⟩ : ∃ before after, path = before ++ ([58, slash, slash] ++ after) := by
    induction path generalizing n with
    | nil => cases h
    | cons c path ih =>
        unfold indexOf at h
        split at h
        · rename_i hprefix
          obtain ⟨after, hafter⟩ := List.isPrefixOf_iff_prefix.mp hprefix
          exact ⟨[], after, hafter.symm⟩
        · obtain ⟨m, hm, -⟩ := Option.map_eq_some_iff.mp h
          obtain ⟨before, after, rfl⟩ := ih hm
          exact ⟨c :: before, after, rfl⟩
  have hsplit : before ++ ([58, slash, slash] ++ after) =
      (before ++ [58]) ++ slash :: ([] ++ slash :: after) := by simp
  rw [hsplit, split, List.splitOn_append_cons_self, List.splitOn_append_cons_self]
  exact List.mem_append_right _ (List.mem_append_left _ (by simp))

/-- The source's own splitting finds the segments. -/
theorem partsOf_route {segments : List JsString} (hne : segments ≠ [])
    (hslash : ∀ segment ∈ segments, slash ∉ segment) (hnil : [] ∉ segments) :
    partsOf (scheduleScheme.route segments) = segments := by
  have hindex : indexOf (js "://") (scheduleScheme.route segments) = some 8 :=
    scheduleScheme.indexOf_route segments
  have hdrop : (scheduleScheme.route segments).drop (8 + (js "://").length) =
      [slash].intercalate segments := scheduleScheme.drop_route segments
  have hpath : indexOf (js "://") ([slash].intercalate segments) = none := by
    refine Option.eq_none_iff_forall_ne_some.mpr fun n hn => hnil ?_
    have hmem := nil_mem_split_of_indexOf hn
    rwa [split_intercalate hslash hne] at hmem
  have hlength : ∃ rounds, (scheduleScheme.route segments).length = rounds + 1 + 1 := by
    refine ⟨(scheduleScheme.route segments).length - 2, ?_⟩
    have hle : (js "schedule").length ≤ (scheduleScheme.route segments).length :=
      (List.prefix_append _ _).length_le
    have height : (js "schedule").length = 8 := by decide
    omega
  obtain ⟨rounds, hrounds⟩ := hlength
  have hpieces : splitString (scheduleScheme.route segments) (js "://") =
      [(scheduleScheme.route segments).take 8, [slash].intercalate segments] := by
    rw [splitString, hrounds, splitStringWithin, hindex]
    dsimp only
    rw [hdrop, splitStringWithin, hpath]
  rw [partsOf, hpieces]
  exact split_intercalate hslash hne

/-! ## The two matchers -/

variable {realm area resource operation x y z w : JsString}

theorem IsScheduleShape.ne_nil {segments : List JsString} (h : IsScheduleShape segments) :
    segments ≠ [] := by
  cases h <;> exact List.cons_ne_nil _ _

theorem IsScheduleShape.nil_not_mem {segments : List JsString} (h : IsScheduleShape segments) :
    [] ∉ segments := by
  cases h with
  | realm hne hliteral => simp [Ne.symm hne, doubleWildcard]
  | three hrealm harea hresource => simp [Ne.symm hrealm.1, Ne.symm harea.1, Ne.symm hresource.1]
  | four hrealm harea hresource hoperation =>
      simp [Ne.symm hrealm.1, Ne.symm harea.1, Ne.symm hresource.1, Ne.symm hoperation.1]

theorem isSelectorSegment_single : IsSelectorSegment singleWildcard := ⟨by decide, Or.inr rfl⟩

/-- A pattern of four selector segments, on a route of four. -/
theorem takes_four (hrealm : IsSelectorSegment realm) (harea : IsSelectorSegment area)
    (hresource : IsSelectorSegment resource) (hoperation : IsSelectorSegment operation) :
    Matches ([realm, area, resource, operation].map token) [x, y, z, w] ↔
      (realm = singleWildcard ∨ realm = x) ∧ (area = singleWildcard ∨ area = y) ∧
        (resource = singleWildcard ∨ resource = z) ∧
          (operation = singleWildcard ∨ operation = w) := by
  simp only [List.map_cons, List.map_nil, matches_selectorSegment hrealm,
    matches_selectorSegment harea, matches_selectorSegment hresource,
    matches_selectorSegment hoperation, matches_nil]
  constructor
  · rintro ⟨_, _, ⟨⟩, h₁, _, _, ⟨⟩, h₂, _, _, ⟨⟩, h₃, _, _, ⟨⟩, h₄, -⟩
    exact ⟨h₁, h₂, h₃, h₄⟩
  · rintro ⟨h₁, h₂, h₃, h₄⟩
    exact ⟨x, _, rfl, h₁, y, _, rfl, h₂, z, _, rfl, h₃, w, _, rfl, h₄, rfl⟩

/-- The segments of the completed selector. -/
def completedSegments : List JsString → List JsString
  | [realm, _] => [realm, singleWildcard, singleWildcard, singleWildcard]
  | [realm, area, resource] => [realm, area, resource, singleWildcard]
  | segments => segments

theorem completed_eq {segments : List JsString} (h : IsScheduleShape segments)
    {selector : JsString} (hselector : selector = scheduleScheme.route segments)
    (hsplit : split (selector.drop (js "schedule://").length) slash = segments) :
    completed selector = scheduleScheme.route (completedSegments segments) := by
  unfold completed
  rw [hsplit]
  cases h with
  | realm | three => rfl
  | four => exact hselector

/-- The completed segments are four, each a literal or `*`. -/
theorem completedSegments_eq {segments : List JsString} (h : IsScheduleShape segments)
    (hslash : ∀ segment ∈ segments, slash ∉ segment) :
    ∃ realm area resource operation,
      completedSegments segments = [realm, area, resource, operation] ∧
        IsSelectorSegment realm ∧ IsSelectorSegment area ∧ IsSelectorSegment resource ∧
          IsSelectorSegment operation ∧
            ∀ segment ∈ [realm, area, resource, operation], slash ∉ segment := by
  have hsingle : slash ∉ singleWildcard := by decide
  cases h with
  | realm hne hliteral =>
      refine ⟨_, _, _, _, rfl, ⟨hne, Or.inl hliteral⟩, isSelectorSegment_single,
        isSelectorSegment_single, isSelectorSegment_single, ?_⟩
      simpa [hsingle] using hslash _ (List.mem_cons_self ..)
  | three hrealm harea hresource =>
      refine ⟨_, _, _, _, rfl, hrealm, harea, hresource, isSelectorSegment_single, ?_⟩
      simpa [hsingle] using hslash
  | four hrealm harea hresource hoperation =>
      exact ⟨_, _, _, _, rfl, hrealm, harea, hresource, hoperation, hslash⟩

/-- The three branches of the filter say what the completed segments take. -/
theorem routeMatchesSchedule_iff {segments : List JsString} (h : IsScheduleShape segments)
    {route selector : JsString} (hselector : partsOf selector = segments)
    (hroute : partsOf route = [x, y, z, w]) :
    routeMatchesSchedule route selector = true ↔
      Matches ((completedSegments segments).map token) [x, y, z, w] := by
  unfold routeMatchesSchedule
  rw [hselector, hroute]
  cases h with
  | @realm realm hne hliteral =>
      have hrealm : realm ≠ singleWildcard := by
        rintro rfl
        exact hliteral (by decide)
      rw [completedSegments, takes_four ⟨hne, Or.inl hliteral⟩ isSelectorSegment_single
        isSelectorSegment_single isSelectorSegment_single]
      simp [hrealm, eq_comm]
  | three hrealm harea hresource =>
      rw [completedSegments, takes_four hrealm harea hresource isSelectorSegment_single]
      simp [everyPart]
  | four hrealm harea hresource hoperation =>
      rw [completedSegments, takes_four hrealm harea hresource hoperation]
      · simp [everyPart]
      · simp
      · simp

/-- A route that LIST can name. -/
def IsScheduleRoute (text : JsString) : Prop :=
  ∃ route : ConcreteRoute, route.scheme = scheduleScheme ∧ route.segments.length = 4 ∧
    route.text = text

/-- **The filter is the shared matcher** with the completed selector. -/
theorem routeMatchesSchedule_eq {selector text : JsString}
    (hselector : isScheduleSelector selector = true) (htext : IsScheduleRoute text) :
    routeMatchesSchedule text selector = routeMatchesPattern text (completed selector) := by
  obtain ⟨segments, hroute, hshape, hsplit, hslash⟩ := shape_of_selector hselector
  obtain ⟨route, hscheme, hlength, rfl⟩ := htext
  obtain ⟨x, y, z, w, hsegments⟩ : ∃ x y z w, route.segments = [x, y, z, w] :=
    List.length_eq_four.mp hlength
  obtain ⟨realm, area, resource, operation, hcompleted, -, -, -, -, hslash'⟩ :=
    completedSegments_eq hshape hslash
  have hnil : [] ∉ route.segments := fun hmem => (route.concrete _ hmem).1 rfl
  have hparts : partsOf route.text = [x, y, z, w] := by
    rw [ConcreteRoute.text, hscheme, partsOf_route route.segments_ne
      (fun s hs => (route.concrete s hs).2.2) hnil, hsegments]
  have hpartsSelector : partsOf selector = segments := by
    rw [hroute]
    exact partsOf_route hshape.ne_nil hslash hshape.nil_not_mem
  -- the completed selector as a pattern
  let pattern : Pattern := ⟨scheduleScheme, [realm, area, resource, operation],
    List.cons_ne_nil _ _, hslash'⟩
  have hpattern : completed selector = pattern.text := by
    rw [completed_eq hshape hroute hsplit, hcompleted]
    rfl
  rw [hpattern, Bool.eq_iff_iff, routeMatchesSchedule_iff hshape hpartsSelector hparts,
    routeMatchesPattern_iff route pattern, hcompleted, Pattern.Takes, hsegments, hscheme]
  exact (and_iff_right rfl).symm

/-! ## What `entries` yields -/

variable {selector : JsString}

/-- The server goes on after the page. -/
def ScheduleCursorPage.GoesOn (page : ScheduleCursorPage) : Prop :=
  page.hasMore = true ∧ page.continuation ≠ none

instance (page : ScheduleCursorPage) : Decidable page.GoesOn := inferInstanceAs (Decidable (_ ∧ _))

/-- What `entries` makes of a page. -/
def ScheduleCursorPage.chunk (page : ScheduleCursorPage) (selector : JsString) :
    List ScheduleEntry :=
  page.entries.filter (routeMatchesSchedule ·.route selector)

theorem chunk_eq (hselector : isScheduleSelector selector = true)
    {page : ScheduleCursorPage} (hroutes : ∀ entry ∈ page.entries, IsScheduleRoute entry.route) :
    page.chunk selector =
      page.entries.filter fun entry => routeMatchesPattern entry.route (completed selector) :=
  List.filter_congr fun entry hentry =>
    routeMatchesSchedule_eq hselector (hroutes entry hentry)

/-- Pages that go on, and then `answers`, from which one request more makes `yields`. -/
theorem entriesLoop_goesOn {answers : List (Option ScheduleCursorPage)}
    {yields : List (List ScheduleEntry)} {ended : EntriesEnd}
    (hend : ∀ cursor, entriesLoop selector cursor answers = { cursors := [cursor], yields, ended })
    {pages : List ScheduleCursorPage} (hgoesOn : ∀ page ∈ pages, page.GoesOn)
    (cursor : Option JsString) :
    entriesLoop selector cursor (pages.map some ++ answers) =
      { cursors := cursor :: pages.map (·.continuation)
        yields := pages.map (·.chunk selector) ++ yields
        ended } := by
  induction pages generalizing cursor with
  | nil => exact hend cursor
  | cons page pages ih =>
      obtain ⟨⟨hmore, hcontinuation⟩, hrest⟩ := List.forall_mem_cons.mp hgoesOn
      obtain ⟨continuation, hcontinuation⟩ := Option.ne_none_iff_exists'.mp hcontinuation
      rw [List.map_cons, List.cons_append, entriesLoop]
      simp only [hmore, Bool.not_true, Bool.false_eq_true, if_false, hcontinuation]
      rw [ih hrest]
      simp only [List.map_cons, List.cons_append, hcontinuation, ScheduleCursorPage.chunk]

/-- **The filter agrees with the shared matcher**: on concrete routes it is `routeMatchesPattern`
with the completed selector. `entries` asks for page after page and yields of each what the filter
takes, in order, until a page is the last. -/
theorem scheduleSelector_agrees (hselector : isScheduleSelector selector = true) :
    (∀ text, IsScheduleRoute text →
      routeMatchesSchedule text selector = routeMatchesPattern text (completed selector)) ∧
    (∀ page : ScheduleCursorPage, (∀ entry ∈ page.entries, IsScheduleRoute entry.route) →
      page.chunk selector = page.entries.filter fun entry =>
        routeMatchesPattern entry.route (completed selector)) ∧
    ∀ pages : List ScheduleCursorPage, (∀ page ∈ pages, page.GoesOn) →
      entries selector (pages.map some) =
        { cursors := none :: pages.map (·.continuation)
          yields := pages.map (·.chunk selector)
          ended := .pending } ∧
      ∀ (last : ScheduleCursorPage) (answers : List (Option ScheduleCursorPage)),
        last.hasMore = false → entries selector (pages.map some ++ some last :: answers) =
          { cursors := none :: pages.map (·.continuation)
            yields := (pages ++ [last]).map (·.chunk selector)
            ended := .returned } := by
  refine ⟨fun text => routeMatchesSchedule_eq hselector, fun page => chunk_eq hselector,
    fun pages hgoesOn => ⟨?_, fun last answers hlast => ?_⟩⟩
  · have hloop := @entriesLoop_goesOn selector [] _ _ (fun _ => rfl) pages hgoesOn none
    rw [List.append_nil, List.append_nil] at hloop
    rwa [entries, hselector]
  · have hend : ∀ cursor, entriesLoop selector cursor (some last :: answers) =
        { cursors := [cursor], yields := [last.chunk selector], ended := .returned } := by
      intro cursor
      simp only [entriesLoop, hlast, Bool.not_false, if_true, ScheduleCursorPage.chunk]
    rw [entries, hselector, List.map_append]
    exact entriesLoop_goesOn hend hgoesOn none

/-- Two pages of a realm: of the second nothing is left. -/
theorem scheduleSelector_agrees_realm :
    (entries (js "schedule://r/**") [some ⟨[⟨js "schedule://r/a:/b/c", [], .single, []⟩], true,
      some []⟩, some ⟨[⟨js "schedule://s/a/b/c", [], .single, []⟩], false, none⟩]).yields =
      [[⟨js "schedule://r/a:/b/c", [], .single, []⟩], []] := by
  have hselector : isScheduleSelector (js "schedule://r/**") = true := by decide
  have hyields := ((scheduleSelector_agrees hselector).2.2
    [⟨[⟨js "schedule://r/a:/b/c", [], .single, []⟩], true, some []⟩] (by decide)).2
    ⟨[⟨js "schedule://s/a/b/c", [], .single, []⟩], false, none⟩ [] rfl
  exact (congrArg EntriesRun.yields hyields).trans (by decide)

end FitzTs.Schedule
