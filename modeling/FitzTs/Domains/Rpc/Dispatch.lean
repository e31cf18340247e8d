import FitzTs.Lib.OrderedMap
import FitzTs.Domains.Routes
/-!
# FitzTs.Domains.Rpc.Dispatch

Which worker an inbound request goes to (`handleRpcRequest` of `domains/rpc/client.ts`).

A pattern is scored by the numbers of its literal, single and double segments; positions do
not count. Inclusion of patterns depends on positions, and a pattern may have several double
wildcards in one gap, which adds to its score and nothing to what it matches.

## Main result

* `dispatch_iff` — an exact registration always wins, and no matching registration has a smaller
  set of routes than the selected one exactly if none has its literals, its single wildcards gap
  by gap, and double wildcards in fewer gaps.
-/

namespace FitzTs.Rpc

open JsString Glob Routes

/-! ## The score -/

/-- `RpcPatternSpecificity`. -/
structure RpcPatternSpecificity where
  literalSegments : Nat
  singleWildcards : Nat
  doubleWildcards : Nat
  segmentCount : Nat
  deriving DecidableEq, Repr

/-- `pattern.slice(pattern.indexOf("://") + 3).split("/")`. -/
def patternSegments (pattern : JsString) : List JsString :=
  let start :=
    match indexOf (js "://") pattern with
    | some marker => marker + 3
    | none => 2
  split (pattern.drop start) slash

def rpcPatternSpecificity (pattern : JsString) : RpcPatternSpecificity :=
  let segments := patternSegments pattern
  { literalSegments := segments.countP fun s => s ≠ singleWildcard ∧ s ≠ doubleWildcard
    singleWildcards := segments.countP fun s => s = singleWildcard
    doubleWildcards := segments.countP fun s => s = doubleWildcard
    segmentCount := segments.length }

/-- The candidate's score and name come before those of the current pattern. -/
def isMoreSpecificRpcPattern (candidate current : JsString) : Bool :=
  let candidateScore := rpcPatternSpecificity candidate
  let currentScore := rpcPatternSpecificity current
  if candidateScore.literalSegments ≠ currentScore.literalSegments then
    candidateScore.literalSegments > currentScore.literalSegments
  else if candidateScore.singleWildcards ≠ currentScore.singleWildcards then
    candidateScore.singleWildcards > currentScore.singleWildcards
  else if candidateScore.doubleWildcards ≠ currentScore.doubleWildcards then
    candidateScore.doubleWildcards < currentScore.doubleWildcards
  else if candidateScore.segmentCount ≠ currentScore.segmentCount then
    candidateScore.segmentCount > currentScore.segmentCount
  else candidate < current

/-! ## The selection -/

/-- One round of the loop over `workers`. -/
def considerWorker {ρ : Type*} (route : JsString) (selected : Option (JsString × ρ))
    (worker : JsString × ρ) : Option (JsString × ρ) :=
  if routeMatchesPattern route worker.1 &&
      selected.all fun current => isMoreSpecificRpcPattern worker.1 current.1 then some worker
  else selected

/-- The registration an inbound request goes to, with its pattern. -/
def selectWorker {ρ : Type*} (workers : OrderedMap JsString ρ) (route : JsString) :
    Option (JsString × ρ) :=
  match workers.get? route with
  | some registration => some (route, registration)
  | none => workers.entries.foldl (considerWorker route) none

/-! ### The score is an order -/

theorem ite_ne_eq_true_iff {m n : Nat} {first : Prop} [Decidable first] {rest : Bool} :
    (if m ≠ n then decide first else rest) = true ↔ m ≠ n ∧ first ∨ m = n ∧ rest = true := by
  by_cases hmn : m = n
  · simp [hmn]
  · simp [hmn]

/-- One component of a lexicographic order. -/
theorem lex_trans {R : Nat → Nat → Prop} (hR : ∀ {x y z}, R x y → R y z → R x z) {m n k : Nat}
    {p q r : Prop} (hrest : p → q → r) (hmn : R m n ∨ m = n ∧ p) (hnk : R n k ∨ n = k ∧ q) :
    R m k ∨ m = k ∧ r := by
  rcases hmn with hmn | ⟨rfl, hp⟩
  · rcases hnk with hnk | ⟨rfl, -⟩
    · exact Or.inl (hR hmn hnk)
    · exact Or.inl hmn
  · exact hnk.imp_right fun hq => ⟨hq.1, hrest hp hq.2⟩

theorem lex_total {R : Nat → Nat → Prop} (hR : ∀ {x y}, x ≠ y → ¬ R x y → R y x) {m n : Nat}
    {p q : Prop} (hrest : ¬ p → q) (hmn : ¬ (R m n ∨ m = n ∧ p)) : R n m ∨ n = m ∧ q := by
  by_cases heq : m = n
  · exact Or.inr ⟨heq.symm, hrest fun hp => hmn (Or.inr ⟨heq, hp⟩)⟩
  · exact Or.inl (hR heq fun hr => hmn (Or.inl hr))

/-- The scores are compared component by component, and then the names. -/
theorem isMoreSpecific_iff {a b : JsString} : isMoreSpecificRpcPattern a b = true ↔
    (rpcPatternSpecificity a).literalSegments > (rpcPatternSpecificity b).literalSegments ∨
    (rpcPatternSpecificity a).literalSegments = (rpcPatternSpecificity b).literalSegments ∧
      ((rpcPatternSpecificity a).singleWildcards > (rpcPatternSpecificity b).singleWildcards ∨
      (rpcPatternSpecificity a).singleWildcards = (rpcPatternSpecificity b).singleWildcards ∧
        ((rpcPatternSpecificity a).doubleWildcards < (rpcPatternSpecificity b).doubleWildcards ∨
        (rpcPatternSpecificity a).doubleWildcards = (rpcPatternSpecificity b).doubleWildcards ∧
          ((rpcPatternSpecificity a).segmentCount > (rpcPatternSpecificity b).segmentCount ∨
          (rpcPatternSpecificity a).segmentCount = (rpcPatternSpecificity b).segmentCount ∧
            a < b))) := by
  have hgt : ∀ m n : Nat, m ≠ n ∧ m > n ↔ m > n := fun m n => ⟨And.right, fun h => ⟨h.ne', h⟩⟩
  have hlt : ∀ m n : Nat, m ≠ n ∧ m < n ↔ m < n := fun m n => ⟨And.right, fun h => ⟨h.ne, h⟩⟩
  unfold isMoreSpecificRpcPattern
  simp only [ite_ne_eq_true_iff, hgt, hlt, decide_eq_true_eq]

theorem isMoreSpecific_trans {a b c : JsString} (hab : isMoreSpecificRpcPattern a b = true)
    (hbc : isMoreSpecificRpcPattern b c = true) : isMoreSpecificRpcPattern a c = true := by
  have hnames : a < b → b < c → a < c := List.lt_trans
  have hgt : ∀ {x y z : Nat}, x > y → y > z → x > z := fun hxy hyz => Nat.lt_trans hyz hxy
  rw [isMoreSpecific_iff] at hab hbc ⊢
  refine lex_trans (R := (· > ·)) hgt ?_ hab hbc
  refine lex_trans (R := (· > ·)) hgt ?_
  refine lex_trans (R := (· < ·)) Nat.lt_trans ?_
  exact lex_trans (R := (· > ·)) hgt hnames

theorem isMoreSpecific_total {a b : JsString} (hne : a ≠ b)
    (h : ¬ isMoreSpecificRpcPattern a b = true) : isMoreSpecificRpcPattern b a = true := by
  have hnames : ¬ a < b → b < a := fun hlt => by
    by_contra hgt
    exact hne (List.le_antisymm (List.not_lt.mp hgt) (List.not_lt.mp hlt))
  have hgt : ∀ {x y : Nat}, x ≠ y → ¬ x > y → y > x := fun hxy hle =>
    Nat.lt_of_le_of_ne (Nat.le_of_not_lt hle) hxy
  have hlt : ∀ {x y : Nat}, x ≠ y → ¬ x < y → y < x := fun hxy hle =>
    Nat.lt_of_le_of_ne (Nat.le_of_not_lt hle) (Ne.symm hxy)
  rw [isMoreSpecific_iff] at h ⊢
  refine lex_total (R := (· > ·)) hgt (fun h => ?_) h
  refine lex_total (R := (· > ·)) hgt (fun h => ?_) h
  refine lex_total (R := (· < ·)) hlt (fun h => ?_) h
  exact lex_total (R := (· > ·)) hgt hnames h

theorem isMoreSpecific_asymm {a b : JsString} (h : isMoreSpecificRpcPattern a b = true) :
    ¬ isMoreSpecificRpcPattern b a = true := by
  intro h'
  have hself := isMoreSpecific_trans h h'
  unfold isMoreSpecificRpcPattern at hself
  simp only [ne_eq, not_true_eq_false, if_false, decide_eq_true_eq] at hself
  exact List.lt_irrefl a hself

theorem foldl_considerWorker_ne_none {ρ : Type*} {route : JsString} {l : List (JsString × ρ)}
    {worker : JsString × ρ} (hmem : worker ∈ l)
    (hmatches : routeMatchesPattern route worker.1 = true) (selected : Option (JsString × ρ)) :
    l.foldl (considerWorker route) selected ≠ none := by
  induction l using List.reverseRecOn with
  | nil => exact absurd hmem List.not_mem_nil
  | append_singleton l last ih =>
      rw [List.foldl_append, List.foldl_cons, List.foldl_nil, considerWorker]
      split
      · exact nofun
      · rename_i hnot
        rcases List.mem_append.mp hmem with hmem | hmem
        · exact ih hmem
        · obtain rfl := List.mem_singleton.mp hmem
          intro hnone
          rw [hnone] at hnot
          simp [hmatches] at hnot

/-- **The loop** selects the matching registration that is more specific than every other. -/
theorem foldl_considerWorker {ρ : Type*} {route : JsString} {l : List (JsString × ρ)}
    (hnodup : (l.map Prod.fst).Nodup) {selected : JsString × ρ}
    (h : l.foldl (considerWorker route) none = some selected) :
    selected ∈ l ∧ routeMatchesPattern route selected.1 = true ∧
      ∀ worker ∈ l, routeMatchesPattern route worker.1 = true → worker.1 ≠ selected.1 →
        isMoreSpecificRpcPattern selected.1 worker.1 = true := by
  induction l using List.reverseRecOn generalizing selected with
  | nil => cases h
  | append_singleton l worker ih =>
      rw [List.map_append, List.nodup_append] at hnodup
      obtain ⟨hnodup, -, hnew⟩ := hnodup
      rw [List.foldl_append, List.foldl_cons, List.foldl_nil] at h
      rw [considerWorker] at h
      split at h
      · rename_i hbetter
        obtain rfl := Option.some.inj h
        simp only [Bool.and_eq_true, Option.all_eq_true] at hbetter
        refine ⟨by simp, hbetter.1, fun other hother hmatch hne => ?_⟩
        have hother := (List.mem_append.mp hother).resolve_right fun hmem =>
          hne (congrArg Prod.fst (List.mem_singleton.mp hmem))
        cases hbefore : l.foldl (considerWorker route) none with
        | none =>
            exact absurd hbefore (foldl_considerWorker_ne_none hother hmatch none)
        | some before =>
            obtain ⟨-, -, hall⟩ := ih hnodup hbefore
            have hover := hbetter.2 before hbefore
            by_cases heq : other.1 = before.1
            · exact heq ▸ hover
            · exact isMoreSpecific_trans hover (hall other hother hmatch heq)
      · rename_i hworse
        obtain ⟨hmem, hselected, hall⟩ := ih hnodup h
        refine ⟨List.mem_append_left _ hmem, hselected, fun other hother hmatch hne => ?_⟩
        rcases List.mem_append.mp hother with hother | hother
        · exact hall other hother hmatch hne
        · obtain rfl := List.mem_singleton.mp hother
          rw [h] at hworse
          simp only [hmatch, Option.all_some, Bool.true_and] at hworse
          exact isMoreSpecific_total hne hworse

/-! ### Routes and patterns of the scheme -/

/-- The concrete route with the given segments. -/
def concreteRoute (segments : List JsString) : JsString :=
  js "rpc://" ++ [slash].intercalate segments

/-- A concrete route of the `rpc` scheme. -/
def IsConcreteRoute (route : JsString) : Prop :=
  ∃ segments, segments ≠ [] ∧ (∀ s ∈ segments, IsConcreteSegment s) ∧ route = concreteRoute segments

/-- The concrete routes a pattern matches. -/
def matching (pattern : JsString) : Set JsString :=
  { route | IsConcreteRoute route ∧ routeMatchesPattern route pattern = true }

/-- The tokens of a pattern. -/
def patternTokens (pattern : JsString) : List (Token JsString) :=
  (patternSegments pattern).map token

theorem js_scheme : js "rpc://" = [114, 112, 99, 58, 47, 47] := by decide +kernel

theorem js_name : js "rpc" = [114, 112, 99] := by decide +kernel

theorem js_marker : js "://" = [58, 47, 47] := by decide +kernel

theorem length_scheme : (js "rpc://").length = 6 := by
  rw [js_scheme]
  rfl

theorem length_name : (js "rpc").length = 3 := by
  rw [js_name]
  rfl

theorem js_name_marker : js "rpc" ++ js "://" = js "rpc://" := by
  rw [js_name, js_marker, js_scheme]
  rfl

theorem indexOf_scheme (path : JsString) : indexOf (js "://") (js "rpc://" ++ path) = some 3 := by
  rw [js_scheme, js_marker]
  simp [indexOf]

theorem drop_scheme (path : JsString) : (js "rpc://" ++ path).drop 6 = path := by
  rw [js_scheme]
  rfl

theorem patternSegments_scheme (path : JsString) :
    patternSegments (js "rpc://" ++ path) = split path slash := by
  simp only [patternSegments, indexOf_scheme]
  rw [drop_scheme]

theorem routeSegmentsOf_scheme (path : JsString) :
    routeSegmentsOf (js "rpc://" ++ path) = some (split path slash) := by
  simp only [routeSegmentsOf, indexOf_scheme]
  rw [drop_scheme]

theorem patternSegments_concreteRoute {segments : List JsString} (hne : segments ≠ [])
    (hconcrete : ∀ s ∈ segments, IsConcreteSegment s) :
    patternSegments (concreteRoute segments) = segments := by
  unfold concreteRoute
  rw [patternSegments_scheme, split_intercalate (fun s hs => (hconcrete s hs).2.2) hne]

/-- **Matching a concrete route** is matching its segments. -/
theorem routeMatchesPattern_iff {segments : List JsString} (hne : segments ≠ [])
    (hconcrete : ∀ s ∈ segments, IsConcreteSegment s) (path : JsString) :
    routeMatchesPattern (concreteRoute segments) (js "rpc://" ++ path) = true ↔
      Matches (patternTokens (js "rpc://" ++ path)) segments := by
  have htake : ∀ path : JsString, (js "rpc://" ++ path).take (2 + 1) = js "rpc" := by
    intro path
    rw [js_scheme, js_name]
    rfl
  unfold routeMatchesPattern concreteRoute
  simp only [indexOf_scheme, routeSegmentsOf_scheme, htake]
  rw [split_intercalate (fun s hs => (hconcrete s hs).2.2) hne]
  simp only [ne_eq, not_true_eq_false, if_false]
  rw [matchLoop_start_iff hconcrete, patternTokens, patternSegments_scheme]

/-- A route that starts with the scheme starts its path after it. -/
theorem pathStart_scheme {path : JsString} (hwire : wireSizeIsValid (js "rpc://" ++ path) = true)
    (hne : path ≠ []) : pathStart (js "rpc://" ++ path) (js "rpc") false = some 6 := by
  have hpos := List.length_pos_iff.mpr hne
  unfold pathStart
  rw [js_name_marker, length_name, hwire]
  have hstart : (js "rpc://").isPrefixOf (js "rpc://" ++ path) = true :=
    List.isPrefixOf_iff_prefix.mpr (List.prefix_append ..)
  simp [hstart, length_scheme, hpos]

/-- What starts a path is the scheme. -/
theorem of_pathStart {route : JsString} {start : Nat}
    (h : pathStart route (js "rpc") false = some start) : wireSizeIsValid route = true ∧
      ∃ path, route = js "rpc://" ++ path ∧ route.drop start = path := by
  unfold pathStart at h
  split at h
  · cases h
  · rename_i hwire
    split at h
    · rename_i hstart
      simp only [Bool.and_eq_true, List.isPrefixOf_iff_prefix] at hstart
      obtain ⟨path, hpath⟩ := hstart.1
      rw [js_name_marker] at hpath
      refine ⟨by simpa using hwire, path, hpath.symm, ?_⟩
      rw [← Option.some.inj h, length_name, ← hpath, drop_scheme]
    · simp at h

/-- **The routes that `call` accepts** are the concrete ones that fit into a frame. -/
theorem isConcreteRouteShape_iff {route : JsString} :
    isConcreteRouteShape route (js "rpc") = true ↔
      IsConcreteRoute route ∧ wireSizeIsValid route = true := by
  have hscan : ∀ segments : List JsString, scanConcrete segments 0 = true ↔
      segments ≠ [] ∧ ∀ s ∈ segments, s ≠ [] ∧ asterisk ∉ s := by
    intro segments
    simp [scanConcrete, containsAsterisk, and_comm, List.length_pos_iff]
  unfold isConcreteRouteShape
  constructor
  · intro h
    split at h
    · rename_i start hstart
      obtain ⟨hwire, path, rfl, hpath⟩ := of_pathStart hstart
      rw [hpath, hscan] at h
      refine ⟨⟨split path slash, h.1, fun s hs => ?_, ?_⟩, hwire⟩
      · exact ⟨(h.2 s hs).1, (h.2 s hs).2, not_mem_of_mem_split hs⟩
      · rw [concreteRoute, intercalate_split]
    · cases h
  · rintro ⟨⟨segments, hne, hconcrete, rfl⟩, hwire⟩
    have hsplit : split ([slash].intercalate segments) slash = segments :=
      split_intercalate (fun s hs => (hconcrete s hs).2.2) hne
    have hpath : [slash].intercalate segments ≠ [] := by
      intro hnil
      rw [hnil] at hsplit
      obtain rfl : segments = [[]] := hsplit.symm
      exact (hconcrete [] (by simp)).1 rfl
    unfold concreteRoute at hwire ⊢
    rw [pathStart_scheme hwire hpath]
    dsimp only
    rw [drop_scheme, hsplit, hscan]
    exact ⟨hne, fun s hs => ⟨(hconcrete s hs).1, (hconcrete s hs).2.1⟩⟩

/-! ### Accepted patterns -/

/-- A pattern that `registerWorker` accepts. -/
def IsRegistrationPattern (pattern : JsString) : Prop :=
  isRegistrationPatternShape pattern (js "rpc") 0 = true

instance (pattern : JsString) : Decidable (IsRegistrationPattern pattern) := by
  unfold IsRegistrationPattern
  infer_instance

theorem scanPattern_segments {segments : List JsString} {previousWasDouble : Bool} {n m : Nat}
    {r : Nat × Nat} (h : scanPattern previousWasDouble n m segments = some r) :
    ∀ s ∈ segments, s ≠ [] ∧ (s = singleWildcard ∨ s = doubleWildcard ∨ asterisk ∉ s) := by
  induction segments generalizing previousWasDouble n m with
  | nil => exact nofun
  | cons segment segments ih =>
      unfold scanPattern at h
      split at h
      · cases h
      · rename_i hne
        dsimp only at h
        split at h
        · cases h
        · rename_i hwild
          have hself : segment ≠ [] ∧
              (segment = singleWildcard ∨ segment = doubleWildcard ∨ asterisk ∉ segment) := by
            refine ⟨hne, ?_⟩
            by_contra hnot
            rw [not_or, not_or, not_not] at hnot
            exact hwild ⟨by simpa using hnot.1, by simpa using hnot.2.1,
              by simpa [containsAsterisk] using hnot.2.2⟩
          have hrest : ∀ s ∈ segments,
              s ≠ [] ∧ (s = singleWildcard ∨ s = doubleWildcard ∨ asterisk ∉ s) := by
            split at h
            · split at h
              · cases h
              · exact ih h
            · exact ih h
          intro s hs
          rcases List.mem_cons.mp hs with rfl | hs
          · exact hself
          · exact hrest s hs

/-- What an accepted pattern looks like. -/
theorem IsRegistrationPattern.path {pattern : JsString} (h : IsRegistrationPattern pattern) :
    ∃ path, pattern = js "rpc://" ++ path ∧ ∀ s ∈ split path slash,
      s ≠ [] ∧ (s = singleWildcard ∨ s = doubleWildcard ∨ asterisk ∉ s) := by
  unfold IsRegistrationPattern isRegistrationPatternShape at h
  split at h
  · cases h
  · rename_i start hstart
    obtain ⟨-, path, rfl, hpath⟩ := of_pathStart hstart
    refine ⟨path, rfl, ?_⟩
    rw [hpath] at h
    split at h
    · cases h
    · rename_i hscan
      exact scanPattern_segments hscan

section Pattern

variable {pattern : JsString}

/-- The literal segments of an accepted pattern are segments of concrete routes. -/
theorem IsRegistrationPattern.literals_concrete (h : IsRegistrationPattern pattern) :
    ∀ s ∈ literals (patternTokens pattern), IsConcreteSegment s := by
  obtain ⟨path, rfl, hpath⟩ := h.path
  rw [patternTokens, patternSegments_scheme]
  have hslash : ∀ s ∈ split path slash, slash ∉ s := fun s hs => not_mem_of_mem_split hs
  revert hpath hslash
  generalize split path slash = segments
  intro hpath hslash
  induction segments with
  | nil => simp [literals]
  | cons segment segments ih =>
      have hrest := ih (fun s hs => hpath s (List.mem_cons_of_mem _ hs))
        (fun s hs => hslash s (List.mem_cons_of_mem _ hs))
      rw [List.map_cons]
      by_cases hsingle : segment = singleWildcard
      · rw [hsingle, token_single]
        exact hrest
      · by_cases hdouble : segment = doubleWildcard
        · rw [hdouble, token_double]
          exact hrest
        · rw [token_literal hsingle hdouble]
          intro s hs
          rcases List.mem_cons.mp hs with rfl | hs
          · obtain ⟨hne, hor⟩ := hpath s (List.mem_cons_self ..)
            exact ⟨hne, (hor.resolve_left hsingle).resolve_left hdouble,
              hslash s (List.mem_cons_self ..)⟩
          · exact hrest s hs

theorem IsRegistrationPattern.tokens_ne_nil (h : IsRegistrationPattern pattern) :
    patternTokens pattern ≠ [] := by
  obtain ⟨path, rfl, -⟩ := h.path
  rw [patternTokens, patternSegments_scheme]
  simpa using split_ne_nil path slash

theorem literalSegments_eq :
    (rpcPatternSpecificity pattern).literalSegments =
      (literals (patternTokens pattern)).length := by
  unfold rpcPatternSpecificity patternTokens
  dsimp only
  induction patternSegments pattern with
  | nil => rfl
  | cons s segments ih =>
      rw [List.countP_cons, List.map_cons, ih]
      by_cases hsingle : s = singleWildcard
      · simp [hsingle, literals]
      · by_cases hdouble : s = doubleWildcard
        · simp [hdouble, literals]
        · simp [token_literal hsingle hdouble, hsingle, hdouble, literals]

theorem singleWildcards_eq :
    (rpcPatternSpecificity pattern).singleWildcards = ones (patternTokens pattern) := by
  unfold rpcPatternSpecificity patternTokens
  dsimp only
  induction patternSegments pattern with
  | nil => rfl
  | cons s segments ih =>
      rw [List.countP_cons, List.map_cons, ih]
      by_cases hsingle : s = singleWildcard
      · simp [hsingle, ones]
      · by_cases hdouble : s = doubleWildcard
        · simp [hdouble, double_ne_single, ones]
        · simp [token_literal hsingle hdouble, hsingle, ones]

end Pattern

/-! ### Inclusion and score -/

/-- A segment that two patterns do not name. -/
theorem exists_fresh (l : List JsString) : ∃ f, IsConcreteSegment f ∧ f ∉ l := by
  refine ⟨List.replicate (l.flatten.length + 1) 120, ?_, fun hmem => ?_⟩
  · refine ⟨by simp, fun h => ?_, fun h => ?_⟩
    · exact absurd (List.eq_of_mem_replicate h) (by decide)
    · exact absurd (List.eq_of_mem_replicate h) (by decide)
  · have hle := (List.sublist_flatten_of_mem hmem).length_le
    rw [List.length_replicate] at hle
    omega

theorem matching_subset_iff {p q : JsString} (hp : IsRegistrationPattern p)
    (hq : IsRegistrationPattern q) : matching q ⊆ matching p ↔
      language IsConcreteSegment (patternTokens q) ⊆
        language IsConcreteSegment (patternTokens p) := by
  obtain ⟨path, rfl, -⟩ := hp.path
  obtain ⟨path', rfl, -⟩ := hq.path
  constructor
  · rintro hsub s ⟨hne, hconcrete, hmatches⟩
    have hmem : concreteRoute s ∈ matching (js "rpc://" ++ path') :=
      ⟨⟨s, hne, hconcrete, rfl⟩, (routeMatchesPattern_iff hne hconcrete path').mpr hmatches⟩
    exact ⟨hne, hconcrete, (routeMatchesPattern_iff hne hconcrete path).mp (hsub hmem).2⟩
  · rintro hsub _ ⟨⟨s, hne, hconcrete, rfl⟩, hmatches⟩
    have hmem : s ∈ language IsConcreteSegment (patternTokens (js "rpc://" ++ path')) :=
      ⟨hne, hconcrete, (routeMatchesPattern_iff hne hconcrete path').mp hmatches⟩
    exact ⟨⟨s, hne, hconcrete, rfl⟩,
      (routeMatchesPattern_iff hne hconcrete path).mpr (hsub hmem).2.2⟩

/-- The other pattern has the same literals, the same single wildcards gap by gap, and double
wildcards in fewer gaps. -/
def Narrower (q p : JsString) : Prop :=
  ShapeBelow (shape (patternTokens q)) (shape (patternTokens p)) ∧
    shape (patternTokens q) ≠ shape (patternTokens p)

/-- **A pattern with a lower score** matches strictly less only by double wildcards in fewer
gaps. -/
theorem matching_ssubset_iff {p q : JsString} (hp : IsRegistrationPattern p)
    (hq : IsRegistrationPattern q) (hmore : isMoreSpecificRpcPattern p q = true) :
    matching q ⊂ matching p ↔ Narrower q p := by
  have hrank : (literals (patternTokens q)).length < (literals (patternTokens p)).length ∨
      (literals (patternTokens q)).length = (literals (patternTokens p)).length ∧
        ones (patternTokens q) ≤ ones (patternTokens p) := by
    simp only [← literalSegments_eq, ← singleWildcards_eq]
    unfold isMoreSpecificRpcPattern at hmore
    dsimp only at hmore
    split at hmore
    · exact Or.inl (by simpa using hmore)
    · rename_i hliterals
      refine Or.inr ⟨by omega, ?_⟩
      split at hmore
      · exact Nat.le_of_lt (by simpa using hmore)
      · omega
  obtain ⟨f, hf, hnot⟩ := exists_fresh (literals (patternTokens q) ++ literals (patternTokens p))
  rw [List.mem_append, not_or] at hnot
  have hlanguage := language_ssubset_iff hf hnot.1 hnot.2 hq.literals_concrete hp.literals_concrete
    hq.tokens_ne_nil hp.tokens_ne_nil hrank
  rw [Narrower, ← hlanguage, Set.ssubset_def, Set.ssubset_def, matching_subset_iff hp hq,
    matching_subset_iff hq hp]

/-- A pattern that names as many segments as a route has, and is not the route, has a double
wildcard. -/
theorem doubleWildcards_pos {segments : List JsString} {path : JsString}
    (hmatches : Matches (patternTokens (js "rpc://" ++ path)) segments)
    (hlength : (rpcPatternSpecificity (js "rpc://" ++ path)).literalSegments = segments.length)
    (hother : js "rpc://" ++ path ≠ concreteRoute segments) :
    0 < (rpcPatternSpecificity (js "rpc://" ++ path)).doubleWildcards := by
  by_contra hzero
  have hzero : (rpcPatternSpecificity (js "rpc://" ++ path)).doubleWildcards = 0 := by omega
  unfold rpcPatternSpecificity at hzero
  dsimp only at hzero
  rw [List.countP_eq_zero] at hzero
  have hnone : Token.many ∉ patternTokens (js "rpc://" ++ path) := by
    intro hmem
    obtain ⟨s, hs, htoken⟩ := List.mem_map.mp hmem
    unfold token at htoken
    split at htoken
    · cases htoken
    · split at htoken
      · rename_i hdouble
        exact hzero s hs (by simpa using hdouble)
      · cases htoken
  rw [literalSegments_eq] at hlength
  have htokens := hmatches.eq_map_literal hlength hnone
  rw [patternTokens, patternSegments_scheme] at htokens
  refine hother ?_
  rw [concreteRoute, ← eq_of_map_token htokens, intercalate_split]

/-- **An exact registration** is more specific than every other pattern that matches. -/
theorem exact_isMoreSpecific {segments : List JsString} (hne : segments ≠ [])
    (hconcrete : ∀ s ∈ segments, IsConcreteSegment s) {q : JsString} (hq : IsRegistrationPattern q)
    (hmatches : routeMatchesPattern (concreteRoute segments) q = true)
    (hother : q ≠ concreteRoute segments) :
    isMoreSpecificRpcPattern (concreteRoute segments) q = true := by
  obtain ⟨path, rfl, -⟩ := hq.path
  rw [routeMatchesPattern_iff hne hconcrete] at hmatches
  have hsegments : patternTokens (concreteRoute segments) = segments.map .literal := by
    rw [patternTokens, patternSegments_concreteRoute hne hconcrete]
    exact List.map_congr_left fun s hs =>
      token_literal (hconcrete s hs).ne_single (hconcrete s hs).ne_double
  have hliterals : (rpcPatternSpecificity (concreteRoute segments)).literalSegments =
      segments.length := by
    rw [literalSegments_eq, hsegments, literals_map_literal]
  have hones : (rpcPatternSpecificity (concreteRoute segments)).singleWildcards = 0 := by
    rw [singleWildcards_eq, hsegments, ones_map_literal]
  have hdoubles : (rpcPatternSpecificity (concreteRoute segments)).doubleWildcards = 0 := by
    unfold rpcPatternSpecificity
    dsimp only
    rw [patternSegments_concreteRoute hne hconcrete, List.countP_eq_zero]
    exact fun s hs => by simpa using (hconcrete s hs).ne_double
  have hle := hmatches.length_le
  rw [← literalSegments_eq, ← singleWildcards_eq] at hle
  have hmany : (rpcPatternSpecificity (js "rpc://" ++ path)).literalSegments = segments.length →
      0 < (rpcPatternSpecificity (js "rpc://" ++ path)).doubleWildcards :=
    fun hlength => doubleWildcards_pos hmatches hlength hother
  unfold isMoreSpecificRpcPattern
  dsimp only
  rw [hliterals, hones, hdoubles]
  split_ifs with hl hs hd
  · simpa using (by omega : (rpcPatternSpecificity (js "rpc://" ++ path)).literalSegments <
      segments.length)
  · omega
  · simpa using hmany (by omega)
  · have := hmany (by omega)
    omega
  · have := hmany (by omega)
    omega

/-! ### Dispatch -/

section Dispatch

variable {ρ : Type*} {workers : OrderedMap JsString ρ} {route : JsString}

/-- The pattern is registered, and matches the route. -/
def Candidate (workers : OrderedMap JsString ρ) (route pattern : JsString) : Prop :=
  pattern ∈ workers.entries.map Prod.fst ∧ routeMatchesPattern route pattern = true

/-- The candidate with the best score and name. -/
def RanksFirst (workers : OrderedMap JsString ρ) (route pattern : JsString) : Prop :=
  Candidate workers route pattern ∧ ∀ other, Candidate workers route other → other ≠ pattern →
    isMoreSpecificRpcPattern pattern other = true

/-- **The selected registration** is the candidate that ranks first. -/
theorem selectWorker_iff (hpatterns : ∀ p ∈ workers.entries.map Prod.fst, IsRegistrationPattern p)
    (hroute : IsConcreteRoute route) {p : JsString} :
    (∃ registration, selectWorker workers route = some (p, registration)) ↔
      RanksFirst workers route p := by
  obtain ⟨segments, hne, hconcrete, rfl⟩ := hroute
  have hunique : ∀ {q}, RanksFirst workers (concreteRoute segments) p →
      RanksFirst workers (concreteRoute segments) q → p = q := by
    intro q hp hq
    by_contra hpq
    exact isMoreSpecific_asymm (hp.2 q hq.1 (Ne.symm hpq)) (hq.2 p hp.1 hpq)
  -- the selected one ranks first
  have hfirst : ∀ {worker}, selectWorker workers (concreteRoute segments) = some worker →
      RanksFirst workers (concreteRoute segments) worker.1 := by
    intro worker h
    unfold selectWorker at h
    split at h
    · rename_i registration hget
      obtain rfl := Option.some.inj h
      have hmem : concreteRoute segments ∈ workers.entries.map Prod.fst :=
        List.mem_map_of_mem (OrderedMap.get?_eq_some.mp hget)
      obtain ⟨path, hpath, -⟩ := (hpatterns _ hmem).path
      refine ⟨⟨hmem, ?_⟩, fun other hother hne' =>
        exact_isMoreSpecific hne hconcrete (hpatterns other hother.1) hother.2 hne'⟩
      have htokens := routeMatchesPattern_iff hne hconcrete path
      rw [← hpath] at htokens
      rw [htokens]
      rw [patternTokens, patternSegments_concreteRoute hne hconcrete,
        List.map_congr_left fun s hs => token_literal (hconcrete s hs).ne_single
          (hconcrete s hs).ne_double]
      exact matches_map_literal segments
    · obtain ⟨hmem, hmatches, hall⟩ := foldl_considerWorker workers.nodup h
      refine ⟨⟨List.mem_map_of_mem hmem, hmatches⟩, fun other hother hne' => ?_⟩
      obtain ⟨entry, hentry, rfl⟩ := List.mem_map.mp hother.1
      exact hall entry hentry hother.2 hne'
  constructor
  · rintro ⟨registration, h⟩
    exact hfirst h
  · intro hp
    cases h : selectWorker workers (concreteRoute segments) with
    | none =>
        exfalso
        unfold selectWorker at h
        split at h
        · cases h
        · obtain ⟨entry, hentry, rfl⟩ := List.mem_map.mp hp.1.1
          exact foldl_considerWorker_ne_none hentry hp.1.2 none h
    | some worker =>
        obtain rfl := hunique hp (hfirst h)
        exact ⟨worker.2, rfl⟩

/-- **Dispatch and inclusion.** An exact registration is selected; and no candidate matches
strictly fewer routes than the selected one exactly if none is narrower than the one that ranks
first. -/
theorem dispatch_iff (hpatterns : ∀ p ∈ workers.entries.map Prod.fst, IsRegistrationPattern p)
    (hroute : IsConcreteRoute route) :
    (∀ registration, workers.get? route = some registration →
      selectWorker workers route = some (route, registration)) ∧
    ((∀ p registration, selectWorker workers route = some (p, registration) →
        ∀ q, Candidate workers route q → ¬ matching q ⊂ matching p) ↔
      ∀ p, RanksFirst workers route p → ∀ q, Candidate workers route q → ¬ Narrower q p) := by
  refine ⟨fun registration hget => by simp [selectWorker, hget], ?_⟩
  have key : ∀ {p}, RanksFirst workers route p → ∀ {q}, Candidate workers route q →
      (matching q ⊂ matching p ↔ Narrower q p) := by
    intro p hp q hq
    by_cases hqp : q = p
    · subst hqp
      exact iff_of_false (fun h => h.2 h.1) fun h => h.2 rfl
    · exact matching_ssubset_iff (hpatterns p hp.1.1) (hpatterns q hq.1) (hp.2 q hq hqp)
  constructor
  · intro h p hp q hq hnarrower
    obtain ⟨registration, hselected⟩ := (selectWorker_iff hpatterns hroute).mpr hp
    exact h p registration hselected q hq ((key hp hq).mpr hnarrower)
  · intro h p registration hselected q hq hsub
    have hp := (selectWorker_iff hpatterns hroute).mp ⟨registration, hselected⟩
    exact h p hp q hq ((key hp hq).mp hsub)

end Dispatch

instance (q p : JsString) : Decidable (Narrower q p) := by
  unfold Narrower ShapeBelow
  infer_instance

/-- One wildcard pattern is a special case of the other. -/
def ordersWorkers : OrderedMap JsString Nat :=
  (OrderedMap.set ∅ (js "rpc://realm/**") 0).set (js "rpc://realm/orders/*") 1

/-- The worker for the orders is selected, not the one for the whole realm. -/
theorem dispatch_ordersWorkers :
    selectWorker ordersWorkers (js "rpc://realm/orders/created") =
        some (js "rpc://realm/orders/*", 1) ∧
      ∀ q, Candidate ordersWorkers (js "rpc://realm/orders/created") q →
        ¬ matching q ⊂ matching (js "rpc://realm/orders/*") := by
  have hselected : selectWorker ordersWorkers (js "rpc://realm/orders/created") =
      some (js "rpc://realm/orders/*", 1) := by decide +kernel
  have hpatterns : ∀ p ∈ ordersWorkers.entries.map Prod.fst, IsRegistrationPattern p := by
    decide +kernel
  have hroute : IsConcreteRoute (js "rpc://realm/orders/created") :=
    ⟨[js "realm", js "orders", js "created"], by decide +kernel, by decide +kernel,
      by decide +kernel⟩
  have hnone : ∀ p ∈ ordersWorkers.entries.map Prod.fst,
      ∀ q ∈ ordersWorkers.entries.map Prod.fst, ¬ Narrower q p := by decide +kernel
  exact ⟨hselected, (dispatch_iff hpatterns hroute).2.mpr
    (fun p hp q hq => hnone p hp.1.1 q hq.1) _ _ hselected⟩

/-- The second pattern wants its literal at the end, and repeats `**` before it. -/
def repeatedWildcards : OrderedMap JsString Nat :=
  (OrderedMap.set ∅ (js "rpc://**/*/*/x/**") 0).set (js "rpc://**/*/**/*/**/x") 1

/-- The wider pattern gets the request. -/
theorem not_forall_dispatch : ∃ p registration q,
    (∀ p ∈ repeatedWildcards.entries.map Prod.fst, IsRegistrationPattern p) ∧
      IsConcreteRoute (js "rpc://a/b/x") ∧
        selectWorker repeatedWildcards (js "rpc://a/b/x") = some (p, registration) ∧
          Candidate repeatedWildcards (js "rpc://a/b/x") q ∧ matching q ⊂ matching p := by
  have hpatterns : ∀ p ∈ repeatedWildcards.entries.map Prod.fst, IsRegistrationPattern p := by
    decide +kernel
  refine ⟨js "rpc://**/*/*/x/**", 0, js "rpc://**/*/**/*/**/x", hpatterns,
    ⟨[js "a", js "b", js "x"], by decide +kernel, by decide +kernel, by decide +kernel⟩,
    by decide +kernel, ⟨by decide +kernel, by decide +kernel⟩, ?_⟩
  rw [matching_ssubset_iff (hpatterns _ (by decide +kernel)) (hpatterns _ (by decide +kernel))
    (by decide +kernel)]
  decide +kernel

end FitzTs.Rpc
