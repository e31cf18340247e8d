import Mathlib.Order.RelClasses
import FitzTs.Domains.Rpc.Dispatch
/-!
# FitzTs.Domains.Rpc.Selection

The `workers` map is enumerated in the order of registration, which a restore may change. The scan
of `handleRpcRequest` does not depend on it: `isMoreSpecificRpcPattern` is a strict total order,
and what the scan returns is the greatest of the patterns that match (`scan_eq_some_iff`).

## Main result

* `selection_independent` — the same registrations, in whatever order, select the same one.
-/

namespace FitzTs.Rpc

open JsString Routes

variable {ρ : Type*} {route : JsString}

theorem isMoreSpecific_irrefl (pattern : JsString) :
    ¬ isMoreSpecificRpcPattern pattern pattern = true :=
  fun h => isMoreSpecific_asymm h h

instance isStrictTotalOrder_isMoreSpecific :
    IsStrictTotalOrder JsString fun a b => isMoreSpecificRpcPattern a b = true where
  irrefl := isMoreSpecific_irrefl
  trans := fun _ _ _ => isMoreSpecific_trans
  trichotomous := fun _ _ hab hba => by
    by_contra hne
    exact hba (isMoreSpecific_total hne hab)

/-- It matches, and it is more specific than every other that does. -/
structure IsGreatest (workers : List (JsString × ρ)) (route : JsString) (worker : JsString × ρ) :
    Prop where
  mem : worker ∈ workers
  route_matches : routeMatchesPattern route worker.1 = true
  greatest : ∀ other ∈ workers, routeMatchesPattern route other.1 = true → other.1 ≠ worker.1 →
    isMoreSpecificRpcPattern worker.1 other.1 = true

/-- There is only one. -/
theorem IsGreatest.unique {workers : List (JsString × ρ)} {worker worker' : JsString × ρ}
    (hnodup : (workers.map Prod.fst).Nodup) (h : IsGreatest workers route worker)
    (h' : IsGreatest workers route worker') : worker = worker' := by
  have hpattern : worker.1 = worker'.1 := by
    by_contra hne
    have hmore := h.greatest worker' h'.mem h'.route_matches (Ne.symm hne)
    exact isMoreSpecific_asymm hmore (h'.greatest worker h.mem h.route_matches hne)
  exact List.inj_on_of_nodup_map hnodup h.mem h'.mem hpattern

/-- Only the entries matter, and not their order. -/
theorem IsGreatest.congr {workers workers' : List (JsString × ρ)} {worker : JsString × ρ}
    (h : IsGreatest workers route worker) (hmem : ∀ worker, worker ∈ workers ↔ worker ∈ workers') :
    IsGreatest workers' route worker where
  mem := (hmem worker).mp h.mem
  route_matches := h.route_matches
  greatest := fun other hother => h.greatest other ((hmem other).mpr hother)

/-- **The scan** returns the greatest. -/
theorem scan_eq_some_iff {workers : List (JsString × ρ)} (hnodup : (workers.map Prod.fst).Nodup)
    {worker : JsString × ρ} :
    workers.foldl (considerWorker route) none = some worker ↔ IsGreatest workers route worker := by
  have hscan : ∀ {worker}, workers.foldl (considerWorker route) none = some worker →
      IsGreatest workers route worker := by
    intro worker h
    obtain ⟨hmem, hmatches, hgreatest⟩ := foldl_considerWorker hnodup h
    exact ⟨hmem, hmatches, hgreatest⟩
  refine ⟨hscan, fun h => ?_⟩
  cases hselected : workers.foldl (considerWorker route) none with
  | none => exact absurd hselected (foldl_considerWorker_ne_none h.mem h.route_matches none)
  | some selected => exact congrArg some ((hscan hselected).unique hnodup h)

/-- What is selected: the exact registration, and without one the greatest that matches. -/
theorem selectWorker_eq_some_iff {workers : OrderedMap JsString ρ} {worker : JsString × ρ} :
    selectWorker workers route = some worker ↔
      workers.get? route = some worker.2 ∧ worker.1 = route ∨
        workers.get? route = none ∧ IsGreatest workers.entries route worker := by
  unfold selectWorker
  cases workers.get? route with
  | some registration =>
      simp only [Option.some.injEq, reduceCtorEq, false_and, or_false]
      constructor
      · rintro rfl
        exact ⟨rfl, rfl⟩
      · rintro ⟨rfl, rfl⟩
        rfl
  | none => simp [scan_eq_some_iff workers.nodup]

/-- **The selection does not depend on the history.** -/
theorem selection_independent {workers workers' : OrderedMap JsString ρ}
    (hsame : ∀ pattern, workers.get? pattern = workers'.get? pattern) (route : JsString) :
    selectWorker workers route = selectWorker workers' route ∧
      IsStrictTotalOrder JsString (fun a b => isMoreSpecificRpcPattern a b = true) ∧
      (∀ worker, workers.entries.foldl (considerWorker route) none = some worker ↔
        IsGreatest workers.entries route worker) ∧
      ∀ worker, selectWorker workers route = some worker ↔
        workers.get? route = some worker.2 ∧ worker.1 = route ∨
          workers.get? route = none ∧ IsGreatest workers.entries route worker := by
  refine ⟨?_, isStrictTotalOrder_isMoreSpecific, fun worker => scan_eq_some_iff workers.nodup,
    fun worker => selectWorker_eq_some_iff⟩
  have hmem : ∀ worker, worker ∈ workers.entries ↔ worker ∈ workers'.entries := by
    rintro ⟨pattern, registration⟩
    rw [← OrderedMap.get?_eq_some, hsame, OrderedMap.get?_eq_some]
  -- both select the exact registration, or the greatest of the same entries
  refine Option.ext fun worker => ?_
  simp only [selectWorker_eq_some_iff, hsame]
  have hgreatest : IsGreatest workers.entries route worker ↔
      IsGreatest workers'.entries route worker :=
    ⟨fun h => h.congr hmem, fun h => h.congr fun worker => (hmem worker).symm⟩
  rw [hgreatest]

/-- Two workers, registered in both orders. -/
theorem selection_independent_orders :
    selectWorker ordersWorkers (js "rpc://realm/orders/created") =
      selectWorker ((OrderedMap.set ∅ (js "rpc://realm/orders/*") 1).set (js "rpc://realm/**") 0)
        (js "rpc://realm/orders/created") := by
  refine (selection_independent (fun pattern => ?_) _).1
  have hne : js "rpc://realm/**" ≠ js "rpc://realm/orders/*" := by decide +kernel
  by_cases hwide : pattern = js "rpc://realm/**"
  · subst hwide
    simp [ordersWorkers, OrderedMap.get?_set, hne]
  · simp [ordersWorkers, OrderedMap.get?_set, hwide]

end FitzTs.Rpc
