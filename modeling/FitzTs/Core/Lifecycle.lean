import Mathlib.Data.List.ReduceOption
import FitzTs.Core.TaskGroup
import FitzTs.Lib.Machine
import FitzTs.Lib.WaitGraph
/-!
# FitzTs.Core.Lifecycle

Scopes and subscription groups (`core/lifecycle.ts`).

Both are containers of resources that dispose of them in a loop, one `await` after another. The
loops are cut at their `await`s: `iterate` runs the loop up to the next one, `settle` and `resume`
are what comes back from it. A resource is a function, a subscription or a disposable of the
caller's, whose disposal ends when and how the environment says, or it is a container, which is
disposed of by one more call to it.

A call of `dispose` or `unsubscribe` has a role: it runs the loop, waits for the completion of the
scope, or returns because the group is closed. What a call returns follows from its role.

Nothing keeps a scope from being added to itself, or to a container that it contains. The loop of
such a container comes to a scope that waits for that loop: both wait for ever, and what is left of
their snapshots is never disposed of (`NeverCircles`).

The abort signal of a scope is left out: nothing here reads it.
-/

namespace FitzTs.Core

namespace Lifecycle

inductive Kind
  | scope
  | group
  deriving DecidableEq, Repr

/-- What can be added. `disposeResource` calls a function, calls `unsubscribe` of a subscription and
`dispose` of a disposable; the container is a child scope or a subscription group. -/
inductive Resource
  | function (identity : Nat)
  | subscription (identity : Nat)
  | disposable (identity : Nat)
  | container (c : Nat)
  deriving DecidableEq, Repr

/-- Of a scope, `disposing` and `disposed`; a group is `closed` once it is not live. -/
inductive Phase
  | live
  | disposing
  | disposed
  deriving DecidableEq, Repr

/-- What a call of `dispose` or `unsubscribe` has come upon. -/
inductive Role
  /-- It runs the loop. -/
  | runs
  /-- It returns the promise of `ensureCompletion`. -/
  | waits
  /-- It returns at once. -/
  | returns
  deriving DecidableEq, Repr

/-- What the loop waits for. -/
inductive Awaited
  | external
  | call (c : Nat) (role : Role)
  deriving DecidableEq, Repr

structure Container where
  kind : Kind := .scope
  name : String := ""
  /-- `resources`, or `subscriptions` of a group. -/
  resources : List Resource := []
  phase : Phase := .live
  /-- What is left of `snapshot`. -/
  snapshot : List Resource := []
  awaiting : Option Awaited := none
  errors : List Thrown := []
  completion : Completion := .pending
  /-- Everything `add` has taken. -/
  added : List Resource := []
  /-- The disposals begun, in this order. -/
  started : List Resource := []
  /-- How they ended: with an error or without. -/
  results : List (Option Thrown) := []
  calls : List Role := []
  deriving DecidableEq

namespace Container

/-- `add`. -/
def add (k : Container) (r : Resource) : Except String Container :=
  if k.phase ≠ .live then
    .error (match k.kind with
      | .scope => s!"Cannot add resource to disposed scope {k.name}"
      | .group => s!"Cannot add subscription to closed group {k.name}")
  else .ok { k with resources := k.resources ++ [r], added := k.added ++ [r] }

/-- What a call of `dispose` or `unsubscribe` will do. -/
def roleOfCall (k : Container) : Role :=
  match k.phase, k.kind with
  | .live, _ => .runs
  | _, .scope => .waits
  | _, .group => .returns

/-- A call of `dispose` or `unsubscribe`, up to the loop. -/
def dispose (k : Container) : Container :=
  let k' := { k with calls := k.calls ++ [k.roleOfCall] }
  if k.phase = .live then
    { k' with phase := .disposing, snapshot := k.resources.reverse, resources := [] }
  else k'

/-- The first of the errors, if there is one. -/
def firstError : List Thrown → Completion
  | [] => .resolved
  | error :: _ => .rejected error

/-- Behind the loop. -/
def finish (k : Container) : Container :=
  match k.kind with
  | .scope => { k with phase := .disposed, completion := firstError k.errors }
  | .group => { k with phase := .disposed }

/-- What a call returns. -/
def outcome (k : Container) : Role → Completion
  | .runs =>
    if k.phase = .disposed then
      match k.kind with
      -- `dispose` rejects the completion, and returns
      | .scope => .resolved
      | .group => firstError k.errors
    else .pending
  | .waits => k.completion
  | .returns => .resolved

/-- The loop waits for the disposal of its next resource. -/
def start (k : Container) (r : Resource) (rest : List Resource) (awaited : Awaited) : Container :=
  { k with snapshot := rest, awaiting := some awaited, started := k.started ++ [r] }

/-- The disposal that the loop waits for has ended. -/
def record (k : Container) (result : Option Thrown) : Container :=
  { k with
    awaiting := none
    errors := k.errors ++ result.toList
    results := k.results ++ [result] }

end Container

end Lifecycle

open Lifecycle

/-- Scopes and groups, by number. -/
structure Lifecycle where
  containers : Nat → Container := fun _ => {}
  created : Nat := 0

namespace Lifecycle

def update (s : Lifecycle) (c : Nat) (k : Container) : Lifecycle :=
  { s with containers := Function.update s.containers c k }

@[simp] theorem update_self (s : Lifecycle) (c : Nat) (k : Container) :
    (s.update c k).containers c = k := Function.update_self ..

theorem update_of_ne (s : Lifecycle) {c d : Nat} (k : Container) (hd : d ≠ c) :
    (s.update c k).containers d = s.containers d := Function.update_of_ne hd ..

/-- A container can only be added once it is made. -/
def isMade (s : Lifecycle) : Resource → Bool
  | .container d => d < s.created
  | _ => true

/-- A new container. -/
def create (s : Lifecycle) (k : Container) : Lifecycle :=
  { s.update s.created k with created := s.created + 1 }

/-- A call of `dispose` or `unsubscribe` of a container. -/
def callDispose (s : Lifecycle) (c : Nat) : Lifecycle := s.update c (s.containers c).dispose

/-- A container that is added to a scope when it is made; if `add` throws, nothing comes of it. -/
def createIn (s : Lifecycle) (k : Container) (parent : Nat) : Option Lifecycle :=
  if parent < s.created ∧ (s.containers parent).kind = .scope then
    match (s.containers parent).add (.container s.created) with
    | .ok parent' => some ((s.update parent parent').create k)
    | .error _ => some s
  else none

/-- The loop of a container, up to its next `await`. -/
def iterate (s : Lifecycle) (c : Nat) : Lifecycle :=
  match (s.containers c).snapshot with
  | [] => s.update c (s.containers c).finish
  | .container d :: rest =>
    let awaited := .call d (s.containers d).roleOfCall
    let s := s.callDispose d
    s.update c ((s.containers c).start (.container d) rest awaited)
  | r :: rest => s.update c ((s.containers c).start r rest .external)

inductive Event
  /-- `createScope`. -/
  | createScope (name : String) (parent : Option Nat)
  | createSubscriptionGroup (name : String) (scope : Nat)
  | add (c : Nat) (r : Resource)
  /-- Somebody calls `dispose`, or `unsubscribe` of a group. -/
  | dispose (c : Nat)
  | iterate (c : Nat)
  /-- The disposal of a function, subscription or disposable ends. -/
  | settle (c : Nat) (result : Option Thrown)
  /-- The call to a container that the loop waits for has returned. -/
  | resume (c : Nat)
  deriving DecidableEq

/-- `none` is an event that cannot happen; an `add` that throws changes nothing. -/
def step (s : Lifecycle) : Event → Option Lifecycle
  | .createScope name none => some (s.create { kind := .scope, name })
  | .createScope name (some parent) => s.createIn { kind := .scope, name } parent
  | .createSubscriptionGroup name scope => s.createIn { kind := .group, name } scope
  | .add c r =>
    if c < s.created ∧ s.isMade r then
      match (s.containers c).add r with
      | .ok k => some (s.update c k)
      | .error _ => some s
    else none
  | .dispose c => if c < s.created then some (s.callDispose c) else none
  | .iterate c =>
    if (s.containers c).phase = .disposing ∧ (s.containers c).awaiting = none then
      some (s.iterate c)
    else none
  | .settle c result =>
    if (s.containers c).awaiting = some .external then
      some (s.update c ((s.containers c).record result))
    else none
  | .resume c =>
    match (s.containers c).awaiting with
    | some (.call d role) =>
      match (s.containers d).outcome role with
      | .pending => none
      | .resolved => some (s.update c ((s.containers c).record none))
      | .rejected error => some (s.update c ((s.containers c).record (some error)))
    | _ => none

def machine : Machine Lifecycle Event := ⟨{}, step⟩

/-! ### What is to hold of a container -/

namespace Container

variable {k : Container} {r : Resource}

/-- What all calls are to see once the disposals have ended like this. -/
def firstFailure (results : List (Option Thrown)) : Completion := firstError results.reduceOption

/-- The resources are disposed of once, in reverse order, and one by one. -/
structure DisposesInOrder (k : Container) : Prop where
  untouched : k.calls = [] → k.started = []
  order : k.calls ≠ [] → k.started <+: k.added.reverse
  /-- Every disposal but the last has ended. -/
  oneByOne : k.results.length ≤ k.started.length ∧ k.started.length ≤ k.results.length + 1
  /-- Until all are, one is being disposed of or is the next. -/
  goesOn : k.calls ≠ [] → k.phase ≠ .disposed →
    (k.awaiting.isSome ∧ k.started.length = k.results.length + 1) ∨
      (k.phase = .disposing ∧ k.awaiting = none)
  all : k.phase = .disposed →
    k.started = k.added.reverse ∧ k.results.length = k.started.length
  rejects : k.calls ≠ [] → ∀ r, ∃ error, k.add r = .error error

/-- Every call returns the first failure, once the scope is disposed. -/
def SameOutcome (k : Container) : Prop :=
  ∀ role ∈ k.calls, k.outcome role =
    if k.phase = .disposed then firstFailure k.results else .pending

end Container

/-- The container whose call, still pending, the loop of `c` waits for. -/
def waitsFor (s : Lifecycle) (c : Nat) : Option Nat :=
  match (s.containers c).awaiting with
  | some (.call d role) => if (s.containers d).outcome role = .pending then some d else none
  | _ => none

/-- The loop of `c` can go on, or waits for a disposal outside. -/
def CanGoOn (s : Lifecycle) (c : Nat) : Prop :=
  (s.step (.iterate c)).isSome ∨ (s.step (.settle c none)).isSome ∨ (s.step (.resume c)).isSome

/-- What is to hold of the containers. -/
structure Disposes (s : Lifecycle) : Prop where
  inOrder : ∀ c, (s.containers c).DisposesInOrder
  sameOutcome : ∀ c, (s.containers c).kind = .scope → (s.containers c).SameOutcome
  /-- What is being disposed of waits, itself or through others, for one that can go on. -/
  noDeadlock : ∀ c, (s.containers c).phase = .disposing →
    ∃ d, WaitGraph.Waits s.waitsFor c d ∧ s.CanGoOn d

/-- A scope that comes to the end of its loop has disposed of every resource without a failure. -/
def FailsNone (s : Lifecycle) : Event → Prop
  | .iterate c =>
    (s.containers c).kind = .scope → (s.containers c).snapshot = [] →
      ∀ result ∈ (s.containers c).results, result = none
  | _ => True

/-- No loop comes to a scope that waits for it, itself or through others. -/
def NeverCircles (s : Lifecycle) : Event → Prop
  | .iterate c => ∀ d rest, (s.containers c).snapshot = .container d :: rest →
      (s.containers d).kind = .scope → ¬ WaitGraph.Waits s.waitsFor d c
  | _ => True

/-- Both. -/
def EndsWell (s : Lifecycle) (e : Event) : Prop := s.FailsNone e ∧ s.NeverCircles e

/-! ### The invariant of a container -/

namespace Container

variable {k : Container} {r : Resource}

/-- What holds of every container of a run in which no scope has failed. -/
structure Lawful (k : Container) : Prop where
  live : k.phase = .live → k.calls = [] ∧ k.started = [] ∧ k.results = [] ∧ k.awaiting = none ∧
    k.resources = k.added
  begun : k.phase ≠ .live → .runs ∈ k.calls ∧ k.started ++ k.snapshot = k.added.reverse
  disposed : k.phase = .disposed → k.snapshot = [] ∧ k.awaiting = none
  paired : k.started.length = k.results.length + if k.awaiting.isSome then 1 else 0
  errors : k.errors = k.results.reduceOption
  roles : k.kind = .scope → ∀ role ∈ k.calls, role ≠ .returns
  completion : k.kind = .scope →
    k.completion = if k.phase = .disposed then firstError k.errors else .pending
  clean : k.kind = .scope → k.phase = .disposed → k.errors = []

theorem Lawful.errors_eq_nil_iff (h : k.Lawful) :
    k.errors = [] ↔ ∀ result ∈ k.results, result = none := by
  rw [h.errors, List.eq_nil_iff_forall_not_mem]
  constructor
  · intro hnone result hmem
    cases result with
    | none => rfl
    | some error => exact absurd (List.reduceOption_mem_iff.mpr hmem) (hnone error)
  · intro hnone error hmem
    cases hnone _ (List.reduceOption_mem_iff.mp hmem)

theorem Lawful.live_of_calls (h : k.Lawful) (hcalls : k.calls ≠ []) : k.phase ≠ .live :=
  fun hlive => hcalls (h.live hlive).1

theorem Lawful.disposesInOrder (h : k.Lawful) : k.DisposesInOrder where
  untouched := by
    intro hcalls
    have hlive : k.phase = .live := by
      by_contra hbegun
      have hruns := (h.begun hbegun).1
      rw [hcalls] at hruns
      cases hruns
    exact (h.live hlive).2.1
  order := fun hcalls => ⟨k.snapshot, (h.begun (h.live_of_calls hcalls)).2⟩
  oneByOne := by
    have hpaired := h.paired
    split at hpaired <;> omega
  goesOn := by
    intro hcalls hnot
    have hpaired := h.paired
    cases hawaiting : k.awaiting with
    | none =>
        refine Or.inr ⟨?_, rfl⟩
        cases hphase : k.phase with
        | live => exact absurd hphase (h.live_of_calls hcalls)
        | disposing => rfl
        | disposed => exact absurd hphase hnot
    | some awaited =>
        rw [hawaiting] at hpaired
        exact Or.inl ⟨rfl, hpaired⟩
  all := by
    intro hover
    obtain ⟨hsnapshot, hawaiting⟩ := h.disposed hover
    have hpaired := h.paired
    have horder := (h.begun (by rw [hover]; decide)).2
    rw [hsnapshot, List.append_nil] at horder
    rw [hawaiting] at hpaired
    exact ⟨horder, hpaired.symm⟩
  rejects := by
    intro hcalls r
    exact ⟨_, if_pos (h.live_of_calls hcalls)⟩

theorem Lawful.sameOutcome (h : k.Lawful) (hscope : k.kind = .scope) : k.SameOutcome := by
  intro role hrole
  rw [firstFailure, ← h.errors]
  cases role with
  | runs =>
      rw [outcome, hscope]
      by_cases hover : k.phase = .disposed
      · rw [if_pos hover, if_pos hover, h.clean hscope hover]
        rfl
      · rw [if_neg hover, if_neg hover]
  | waits => exact h.completion hscope
  | returns => exact absurd rfl (h.roles hscope _ hrole)

theorem lawful_new (kind : Kind) (name : String) : Lawful { kind, name } where
  live _ := ⟨rfl, rfl, rfl, rfl, rfl⟩
  begun h := absurd rfl h
  disposed h := by cases h
  paired := rfl
  errors := rfl
  roles _ _ h := by cases h
  completion _ := rfl
  clean _ h := by cases h

theorem Lawful.add {k' : Container} (h : k.Lawful) (hadd : k.add r = .ok k') : k'.Lawful := by
  unfold Container.add at hadd
  by_cases hlive : k.phase = .live
  · rw [if_neg (not_not.mpr hlive)] at hadd
    obtain rfl := Except.ok.inj hadd
    obtain ⟨hcalls, hstarted, hresults, hawaiting, hresources⟩ := h.live hlive
    refine ⟨fun _ => ⟨hcalls, hstarted, hresults, hawaiting, ?_⟩, fun hbegun => absurd hlive hbegun,
      h.disposed, h.paired, h.errors, h.roles, h.completion, h.clean⟩
    show k.resources ++ [r] = k.added ++ [r]
    rw [hresources]
  · rw [if_pos hlive] at hadd
    cases hadd

/-- A later call changes nothing but the list of calls. -/
theorem dispose_of_begun (hbegun : k.phase ≠ .live) :
    k.dispose = { k with calls := k.calls ++ [k.roleOfCall] } := if_neg hbegun

theorem Lawful.dispose (h : k.Lawful) : k.dispose.Lawful := by
  unfold Container.dispose
  dsimp only
  by_cases hlive : k.phase = .live
  · rw [if_pos hlive]
    obtain ⟨hcalls, hstarted, hresults, hawaiting, hresources⟩ := h.live hlive
    have hruns : k.roleOfCall = .runs := by rw [roleOfCall, hlive]
    have hcompletion : k.kind = .scope → k.completion = .pending := by
      intro hscope
      rw [h.completion hscope, if_neg (by rw [hlive]; decide)]
    refine ⟨fun hl => (by cases hl), fun _ => ⟨?_, ?_⟩, fun hover => (by cases hover), h.paired,
      h.errors, ?_, hcompletion, fun _ hover => (by cases hover)⟩
    · rw [hruns]
      exact List.mem_append_right _ (List.mem_singleton_self _)
    · show k.started ++ k.resources.reverse = k.added.reverse
      rw [hstarted, hresources, List.nil_append]
    · intro _ role hrole
      rw [hcalls, hruns] at hrole
      obtain rfl := List.mem_singleton.mp hrole
      decide
  · rw [if_neg hlive]
    refine ⟨fun hl => absurd hl hlive, fun _ => ?_, h.disposed, h.paired, h.errors, ?_,
      h.completion, h.clean⟩
    · exact ⟨List.mem_append_left _ (h.begun hlive).1, (h.begun hlive).2⟩
    · intro hscope role hrole
      rcases List.mem_append.mp hrole with hrole | hrole
      · exact h.roles hscope role hrole
      · obtain rfl := List.mem_singleton.mp hrole
        unfold roleOfCall
        rw [hscope]
        cases hphase : k.phase with
        | live => exact absurd hphase hlive
        | disposing => simp
        | disposed => simp

theorem Lawful.start {rest : List Resource} (h : k.Lawful) (hphase : k.phase = .disposing)
    (hawaiting : k.awaiting = none) (hsnapshot : k.snapshot = r :: rest) (awaited : Awaited) :
    (k.start r rest awaited).Lawful := by
  have hnotlive : k.phase ≠ .live := by rw [hphase]; decide
  have hpaired := h.paired
  obtain ⟨hruns, horder⟩ := h.begun hnotlive
  refine ⟨fun hl => absurd hl hnotlive, fun _ => ⟨hruns, ?_⟩, ?_, ?_, h.errors, h.roles,
    h.completion, h.clean⟩
  · show (k.started ++ [r]) ++ rest = k.added.reverse
    rw [List.append_assoc, ← horder, hsnapshot]
    rfl
  · intro hover
    rw [show k.phase = .disposed from hover] at hphase
    cases hphase
  · show (k.started ++ [r]).length = k.results.length + 1
    rw [hawaiting] at hpaired
    rw [List.length_append, hpaired]
    rfl

theorem Lawful.finish (h : k.Lawful) (hphase : k.phase = .disposing)
    (hawaiting : k.awaiting = none) (hsnapshot : k.snapshot = [])
    (hclean : k.kind = .scope → k.errors = []) : k.finish.Lawful := by
  have hnotlive : k.phase ≠ .live := by rw [hphase]; decide
  obtain ⟨hruns, horder⟩ := h.begun hnotlive
  unfold Container.finish
  cases hkind : k.kind with
  | scope =>
      exact ⟨fun hl => (by cases hl), fun _ => ⟨hruns, horder⟩, fun _ => ⟨hsnapshot, hawaiting⟩,
        h.paired, h.errors, fun _ => h.roles hkind, fun _ => rfl, fun _ _ => hclean hkind⟩
  | group =>
      exact ⟨fun hl => (by cases hl), fun _ => ⟨hruns, horder⟩, fun _ => ⟨hsnapshot, hawaiting⟩,
        h.paired, h.errors, fun hs => (by cases hs), fun hs => (by cases hs),
        fun hs => (by cases hs)⟩

theorem Lawful.record {awaited : Awaited} (h : k.Lawful) (hawaiting : k.awaiting = some awaited)
    (result : Option Thrown) : (k.record result).Lawful := by
  have hnotlive : k.phase ≠ .live := by
    intro hlive
    rw [(h.live hlive).2.2.2.1] at hawaiting
    cases hawaiting
  have hnotover : k.phase ≠ .disposed := by
    intro hover
    rw [(h.disposed hover).2] at hawaiting
    cases hawaiting
  have hpaired := h.paired
  refine ⟨fun hl => absurd hl hnotlive, h.begun, fun hover => absurd hover hnotover, ?_, ?_,
    h.roles, ?_, fun _ hover => absurd hover hnotover⟩
  · show k.started.length = (k.results ++ [result]).length
    rw [hawaiting] at hpaired
    rw [hpaired, List.length_append]
    rfl
  · show k.errors ++ result.toList = (k.results ++ [result]).reduceOption
    rw [h.errors, List.reduceOption_append, List.reduceOption_singleton]
  · intro hscope
    show k.completion = _
    have hnotover' : (k.record result).phase ≠ .disposed := hnotover
    rw [h.completion hscope, if_neg hnotover, if_neg hnotover']

end Container

/-! ### Every run -/

variable {s s' : Lifecycle}

/-- Every container is lawful. -/
def AllLawful (s : Lifecycle) : Prop := ∀ c, (s.containers c).Lawful

theorem AllLawful.update (h : s.AllLawful) {c : Nat} {k : Container} (hk : k.Lawful) :
    (s.update c k).AllLawful := by
  intro d
  by_cases hd : d = c
  · subst hd
    rw [update_self]
    exact hk
  · rw [update_of_ne _ _ hd]
    exact h d

theorem AllLawful.create (h : s.AllLawful) {k : Container} (hk : k.Lawful) :
    (s.create k).AllLawful := h.update hk

theorem AllLawful.createIn (h : s.AllLawful) {k : Container} {parent : Nat} (hk : k.Lawful)
    (hs : s.createIn k parent = some s') : s'.AllLawful := by
  obtain ⟨-, heq⟩ := Option.ite_none_right_eq_some.mp hs
  cases hadd : (s.containers parent).add (.container s.created) with
  | error error =>
      rw [hadd] at heq
      exact Option.some.inj heq ▸ h
  | ok parent' =>
      rw [hadd] at heq
      exact Option.some.inj heq ▸ (h.update ((h parent).add hadd)).create hk

/-- The call may be one of the container itself, whose loop goes on all the same. -/
theorem callDispose_disposing {c : Nat} (d : Nat) (hphase : (s.containers c).phase = .disposing) :
    ((s.callDispose d).containers c).phase = .disposing ∧
      ((s.callDispose d).containers c).awaiting = (s.containers c).awaiting ∧
      ((s.callDispose d).containers c).resources = (s.containers c).resources ∧
      ((s.callDispose d).containers c).snapshot = (s.containers c).snapshot := by
  unfold callDispose
  by_cases hc : c = d
  · subst hc
    rw [update_self, Container.dispose_of_begun (by rw [hphase]; decide)]
    exact ⟨hphase, rfl, rfl, rfl⟩
  · rw [update_of_ne _ _ hc]
    exact ⟨hphase, rfl, rfl, rfl⟩

theorem AllLawful.iterate (h : s.AllLawful) {c : Nat} (hphase : (s.containers c).phase = .disposing)
    (hawaiting : (s.containers c).awaiting = none) (hclean : s.FailsNone (.iterate c)) :
    (s.iterate c).AllLawful := by
  unfold Lifecycle.iterate
  cases hsnapshot : (s.containers c).snapshot with
  | nil =>
      exact h.update ((h c).finish hphase hawaiting hsnapshot
        fun hscope => (h c).errors_eq_nil_iff.mpr (hclean hscope hsnapshot))
  | cons r rest =>
      cases r with
      | container d =>
          obtain ⟨hphase', hawaiting', -, hsnapshot'⟩ := callDispose_disposing d hphase
          have hcalled : (s.callDispose d).AllLawful := h.update (h d).dispose
          exact hcalled.update ((hcalled c).start hphase' (hawaiting'.trans hawaiting)
            (hsnapshot'.trans hsnapshot) _)
      | _ => exact h.update ((h c).start hphase hawaiting hsnapshot _)

theorem AllLawful.step (h : s.AllLawful) {e : Event} (hclean : s.FailsNone e)
    (hs : machine.step s e = some s') : s'.AllLawful := by
  cases e with
  | createScope name parent =>
      cases parent with
      | none => exact Option.some.inj hs ▸ h.create (Container.lawful_new .scope name)
      | some parent => exact h.createIn (Container.lawful_new .scope name) hs
  | createSubscriptionGroup name scope => exact h.createIn (Container.lawful_new .group name) hs
  | add c r =>
      obtain ⟨-, heq⟩ := Option.ite_none_right_eq_some.mp hs
      cases hadd : (s.containers c).add r with
      | error error =>
          rw [hadd] at heq
          exact Option.some.inj heq ▸ h
      | ok k =>
          rw [hadd] at heq
          exact Option.some.inj heq ▸ h.update ((h c).add hadd)
  | dispose c =>
      obtain ⟨-, heq⟩ := Option.ite_none_right_eq_some.mp hs
      exact Option.some.inj heq ▸ h.update (h c).dispose
  | iterate c =>
      obtain ⟨⟨hphase, hawaiting⟩, heq⟩ := Option.ite_none_right_eq_some.mp hs
      exact Option.some.inj heq ▸ h.iterate hphase hawaiting hclean
  | settle c result =>
      obtain ⟨hawaiting, heq⟩ := Option.ite_none_right_eq_some.mp hs
      exact Option.some.inj heq ▸ h.update ((h c).record hawaiting result)
  | resume c =>
      simp only [machine, Lifecycle.step] at hs
      cases hawaiting : (s.containers c).awaiting with
      | none => rw [hawaiting] at hs; cases hs
      | some awaited =>
          cases awaited with
          | external => rw [hawaiting] at hs; cases hs
          | call d role =>
              rw [hawaiting] at hs
              dsimp only at hs
              cases houtcome : (s.containers d).outcome role with
              | pending => rw [houtcome] at hs; cases hs
              | resolved =>
                  rw [houtcome] at hs
                  exact Option.some.inj hs ▸ h.update ((h c).record hawaiting none)
              | rejected error =>
                  rw [houtcome] at hs
                  exact Option.some.inj hs ▸ h.update ((h c).record hawaiting (some error))

theorem allLawful_init : machine.init.AllLawful := fun _ => Container.lawful_new .scope ""

end Lifecycle

end FitzTs.Core
