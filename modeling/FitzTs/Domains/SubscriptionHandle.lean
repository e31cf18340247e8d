import FitzTs.Core.TaskGroup
import FitzTs.Lib.Machine
/-!
# FitzTs.Domains.SubscriptionHandle

The controller of a subscription (`createSubscriptionController` of
`domains/internal/subscription-handle.ts`).

A call of `unsubscribeFn` is followed through its promise: it is in flight, then it has settled,
then the handler of its `catch` has run, and last what waits for that: the rest of `unsubscribe`,
or the `finally` of `fail`. The last two are steps of their own, and other steps may come before
them. They may come in more orders here than the jobs of the runtime do.

`pending` names the call whose promise it is. What a call of `unsubscribe` returns follows from what
it has come upon.

## Main result

* `controller_sound` — one call of `unsubscribeFn` at a time, whose outcome all callers share;
  another one after a failure, and none after a success; and the completion settles once, as the
  first of what can settle it.
* `unsubscribe_fulfils` — nobody whose call comes after the completion has settled gets an error, if
  nobody has called before.
-/

namespace FitzTs

open FitzTs.Core (Thrown Completion)

namespace SubscriptionController

/-- Who has called `unsubscribeFn`. -/
inductive Origin
  | unsubscribe
  | fail
  deriving DecidableEq, Repr

/-- How far a call of `unsubscribeFn` has come. -/
inductive Stage
  | inFlight
  | settled (failure : Option Thrown)
  /-- The handler of `catch` has run, or was passed by. -/
  | caught (failure : Option Thrown)
  /-- And so has what waits for it. -/
  | finished (failure : Option Thrown)
  deriving DecidableEq

structure Call where
  origin : Origin
  stage : Stage := .inFlight
  /-- Whether an earlier call was not finished yet. -/
  early : Bool
  deriving DecidableEq

def Call.isFinished (call : Call) : Bool :=
  match call.stage with
  | .finished _ => true
  | _ => false

/-- An explicit call whose failure is known to the controller. -/
def Call.allowsRetry (call : Call) : Bool :=
  match call.origin, call.stage with
  | .unsubscribe, .caught (some _) | .unsubscribe, .finished (some _) => true
  | _, _ => false

def Call.hasSucceeded (call : Call) : Bool :=
  match call.stage with
  | .settled none | .caught none | .finished none => true
  | _ => false

def ofFailure : Option Thrown → Completion
  | none => .resolved
  | some error => .rejected error

/-- The promise that `pending` holds. -/
def Call.promise (call : Call) : Completion :=
  match call.origin, call.stage with
  | .unsubscribe, .caught failure | .unsubscribe, .finished failure => ofFailure failure
  -- the error is dropped
  | .fail, .finished _ => .resolved
  | _, _ => .pending

/-- What a call of `unsubscribe` has come upon. -/
inductive Ticket
  | starts (k : ℕ)
  | shares (k : ℕ)
  /-- It returns `undefined`. -/
  | nothing
  deriving DecidableEq, Repr

structure Caller where
  ticket : Ticket
  /-- The call of `unsubscribeFn` that was in flight. -/
  during : Option ℕ
  deriving DecidableEq, Repr

/-- What can settle the completion. -/
inductive Decider
  /-- `fail`, and whether the subscription was open. -/
  | failed (error : Thrown) (isOpen : Bool)
  | unsubscribed
  | completedLocally
  deriving DecidableEq

/-- The first of them counts, and a failure only if the subscription was open. -/
def verdict : List Decider → Completion
  | [] => .pending
  | .failed error true :: _ => .rejected error
  | .failed _ false :: rest => verdict rest
  | .unsubscribed :: _ | .completedLocally :: _ => .resolved

inductive Signal
  | none
  | live
  | aborted
  deriving DecidableEq, Repr

end SubscriptionController

open SubscriptionController

structure SubscriptionController where
  active : Bool := true
  terminalFailure : Bool := false
  locallyCompleted : Bool := false
  pending : Option ℕ := none
  completion : Completion := .pending
  /-- Whether `onAbort` listens. -/
  listening : Bool := false
  /-- The calls of `unsubscribeFn`. -/
  calls : List Call := []
  /-- The calls of `unsubscribe`. -/
  callers : List Caller := []
  deciders : List Decider := []
  deriving DecidableEq

namespace SubscriptionController

/-- No unsubscribing is under way or done, and the subscription has neither failed nor completed. -/
def isOpen (s : SubscriptionController) : Bool :=
  s.calls.all Call.allowsRetry && !s.deciders.contains .completedLocally

/-- `unsubscribeFn`. -/
def unsubscribeFn (s : SubscriptionController) (origin : Origin) : SubscriptionController :=
  { s with calls := s.calls ++ [{ origin, early := !s.calls.all Call.isFinished }] }

def inFlight (s : SubscriptionController) : Option ℕ :=
  s.calls.findIdx? fun call => call.stage = .inFlight

def ticket (s : SubscriptionController) : Ticket :=
  if s.active then .starts s.calls.length
  else
    match s.pending with
    | some k => .shares k
    | none => .nothing

def unsubscribe (s : SubscriptionController) : SubscriptionController :=
  let s' := { s with callers := s.callers ++ [⟨s.ticket, s.inFlight⟩] }
  if s.active then
    { s'.unsubscribeFn .unsubscribe with
      active := false, listening := false, pending := some s.calls.length }
  else s'

def fail (s : SubscriptionController) (error : Thrown) : SubscriptionController :=
  let s' := { s with deciders := s.deciders ++ [.failed error s.isOpen] }
  if s.active then
    { s'.unsubscribeFn .fail with
      active := false
      terminalFailure := true
      listening := false
      completion := .settle (.rejected error) s.completion
      pending := some s.calls.length }
  else s'

def completeLocal (s : SubscriptionController) : SubscriptionController :=
  let s' := { s with deciders := s.deciders ++ [.completedLocally] }
  if s.terminalFailure then s'
  else
    { s' with
      locallyCompleted := true
      active := false
      listening := false
      completion := .settle .resolved s.completion }

/-- The call `k` comes to its next stage. -/
def advance (s : SubscriptionController) (k : ℕ) (call : Call) (stage : Stage) :
    SubscriptionController := { s with calls := s.calls.set k { call with stage } }

/-- The handler of the `catch` of a call, or of none if it has succeeded. -/
def handleCatch (s : SubscriptionController) (origin : Origin) (failure : Option Thrown) :
    SubscriptionController :=
  match origin, failure with
  | .unsubscribe, some _ => if s.locallyCompleted then s else { s with active := true }
  | _, _ => s

/-- What waits for the call that `catch` has handled. -/
def finish (s : SubscriptionController) (origin : Origin) (failure : Option Thrown) :
    SubscriptionController :=
  let s := { s with pending := none }
  match origin, failure with
  | .unsubscribe, none =>
    { s with
      completion := if s.terminalFailure then s.completion else .settle .resolved s.completion
      deciders := s.deciders ++ [.unsubscribed] }
  | _, _ => s

inductive Event
  /-- Somebody calls `unsubscribe`, or disposes of the handle. -/
  | unsubscribe
  | abort
  | fail (error : Thrown)
  | completeLocal
  /-- The call `k` of `unsubscribeFn` ends. -/
  | settle (k : ℕ) (failure : Option Thrown)
  /-- The next reaction on it runs. -/
  | react (k : ℕ)
  deriving DecidableEq

/-- `none` is an event that cannot happen. -/
def step (s : SubscriptionController) : Event → Option SubscriptionController
  | .unsubscribe => some s.unsubscribe
  | .abort => some (if s.listening then s.unsubscribe else s)
  | .fail error => some (s.fail error)
  | .completeLocal => some s.completeLocal
  | .settle k failure =>
    match s.calls[k]? with
    | some call =>
        if call.stage = .inFlight then some (s.advance k call (.settled failure)) else none
    | none => none
  | .react k =>
    match s.calls[k]? with
    | some call =>
      match call.stage with
      | .settled failure =>
          some ((s.advance k call (.caught failure)).handleCatch call.origin failure)
      | .caught failure => some ((s.advance k call (.finished failure)).finish call.origin failure)
      | _ => none
    | none => none

/-- `createSubscriptionController`. -/
def createSubscriptionController : Signal → SubscriptionController
  | .none => {}
  | .live => { listening := true }
  | .aborted => ({} : SubscriptionController).unsubscribe

def machine (signal : Signal) : Machine SubscriptionController Event :=
  ⟨createSubscriptionController signal, step⟩

/-! ### What is to hold -/

/-- What a call of `unsubscribe` returns. -/
def outcome (s : SubscriptionController) : Ticket → Completion
  | .starts k =>
    match (s.calls[k]?).map Call.stage with
    | some (.finished failure) => ofFailure failure
    | _ => .pending
  | .shares k => (s.calls[k]?).elim .pending Call.promise
  | .nothing => .resolved

structure Sound (s : SubscriptionController) : Prop where
  single : ∀ (i j : ℕ) (call call' : Call), s.calls[i]? = some call → s.calls[j]? = some call' →
    call.stage = .inFlight → call'.stage = .inFlight → i = j
  /-- Who calls `unsubscribe` while a call is in flight gets what comes of that call, unless the
  call was made before an earlier one was finished. -/
  shared : ∀ caller ∈ s.callers, ∀ (k : ℕ) (call : Call), caller.during = some k →
    s.calls[k]? = some call → call.early = false → s.outcome caller.ticket = call.promise
  /-- After explicit calls that have failed there is another one. -/
  retries : s.isOpen = true → s.unsubscribe.calls.length = s.calls.length + 1
  /-- After one that has succeeded there is none. -/
  ceases : ∀ call ∈ s.calls, call.hasSucceeded = true →
    s.unsubscribe.calls = s.calls ∧ ∀ error, (s.fail error).calls = s.calls
  settles : s.completion = verdict s.deciders

/-! ### The calls of `unsubscribeFn` -/

variable {s : SubscriptionController} {k : ℕ} {call : Call}

/-- The subscription is open unless a call stands in its way or `completeLocal` has ended it. -/
theorem isOpen_iff : s.isOpen = true ↔
    (∀ call ∈ s.calls, call.allowsRetry = true) ∧ .completedLocally ∉ s.deciders := by
  simp [isOpen]

/-- What holds of the calls and of those that share them. -/
structure Books (s : SubscriptionController) : Prop where
  /-- There is another call only after one that allows it. -/
  front : ∀ (i : ℕ) (call : Call), s.calls[i]? = some call → i + 1 < s.calls.length →
    call.allowsRetry = true
  /-- The last call, if it is not early, came after all others were finished. -/
  early : ∀ (k : ℕ) (call : Call), s.calls[k]? = some call → k + 1 = s.calls.length →
    call.early = false → ∀ (i : ℕ) (other : Call), s.calls[i]? = some other → i < k →
      other.isFinished = true
  callers : ∀ caller ∈ s.callers, ∀ k, caller.during = some k →
    ∃ call, s.calls[k]? = some call ∧ (call.early = false → caller.ticket = .shares k)
  failure : s.terminalFailure = true ↔ ∃ call ∈ s.calls, call.origin = .fail

/-- No call follows one that does not allow it. -/
theorem Books.last_of_not_allowsRetry (h : s.Books) (hcall : s.calls[k]? = some call)
    (hnot : call.allowsRetry = false) : k + 1 = s.calls.length := by
  obtain ⟨hlt, -⟩ := List.getElem?_eq_some_iff.mp hcall
  by_contra hne
  have hallows := h.front k call hcall (by omega)
  rw [hnot] at hallows
  cases hallows

theorem advance_getElem? {stage : Stage} (hcall : s.calls[k]? = some call) (i : ℕ) :
    (s.advance k call stage).calls[i]? =
      if i = k then some { call with stage } else s.calls[i]? := by
  obtain ⟨hlt, -⟩ := List.getElem?_eq_some_iff.mp hcall
  show (s.calls.set k { call with stage })[i]? = _
  rw [List.getElem?_set]
  by_cases hi : i = k
  · subst hi
    rw [if_pos rfl, if_pos rfl, if_pos hlt]
  · rw [if_neg (Ne.symm hi), if_neg hi]

@[simp] theorem advance_length {stage : Stage} :
    (s.advance k call stage).calls.length = s.calls.length := List.length_set

/-- A call that comes to its next stage. -/
theorem Books.advance {stage : Stage} (h : s.Books) (hcall : s.calls[k]? = some call)
    (hretry : call.allowsRetry = true → { call with stage }.allowsRetry = true)
    (hfinished : call.isFinished = true → { call with stage }.isFinished = true) :
    (s.advance k call stage).Books where
  front := by
    intro i call' hget hlt
    rw [advance_length] at hlt
    rw [advance_getElem? hcall] at hget
    split at hget
    · rename_i hi
      subst hi
      obtain rfl := Option.some.inj hget
      exact hretry (h.front i call hcall hlt)
    · exact h.front i call' hget hlt
  early := by
    intro j call' hget hlast hearly i other hother hlt
    rw [advance_length] at hlast
    rw [advance_getElem? hcall] at hget hother
    -- the stage says nothing about who was early
    obtain ⟨call₀, hget₀, hearly₀⟩ : ∃ call₀, s.calls[j]? = some call₀ ∧ call₀.early = false := by
      split at hget
      · rename_i hj
        subst hj
        obtain rfl := Option.some.inj hget
        exact ⟨call, hcall, hearly⟩
      · exact ⟨call', hget, hearly⟩
    split at hother
    · rename_i hi
      subst hi
      obtain rfl := Option.some.inj hother
      exact hfinished (h.early j call₀ hget₀ hlast hearly₀ i call hcall hlt)
    · exact h.early j call₀ hget₀ hlast hearly₀ i other hother hlt
  callers := by
    intro caller hmem j hduring
    obtain ⟨call', hget, hticket⟩ := h.callers caller hmem j hduring
    rw [advance_getElem? hcall]
    by_cases hj : j = k
    · subst hj
      rw [hcall] at hget
      obtain rfl := Option.some.inj hget
      exact ⟨_, if_pos rfl, hticket⟩
    · exact ⟨call', by rw [if_neg hj]; exact hget, hticket⟩
  failure := by
    show s.terminalFailure = true ↔ _
    rw [h.failure]
    constructor
    · intro ⟨call', hmem, hfail⟩
      obtain ⟨i, hi⟩ := List.mem_iff_getElem?.mp hmem
      by_cases hik : i = k
      · subst hik
        rw [hcall] at hi
        obtain rfl := Option.some.inj hi
        refine ⟨{ call with stage }, List.mem_iff_getElem?.mpr ⟨i, ?_⟩, hfail⟩
        rw [advance_getElem? hcall, if_pos rfl]
      · refine ⟨call', List.mem_iff_getElem?.mpr ⟨i, ?_⟩, hfail⟩
        rw [advance_getElem? hcall, if_neg hik, hi]
    · intro ⟨call', hmem, hfail⟩
      obtain ⟨i, hi⟩ := List.mem_iff_getElem?.mp hmem
      rw [advance_getElem? hcall] at hi
      split at hi
      · obtain rfl := Option.some.inj hi
        exact ⟨call, List.mem_of_getElem? hcall, hfail⟩
      · exact ⟨call', List.mem_of_getElem? hi, hfail⟩

/-- Another call, after all others have allowed it. -/
theorem Books.unsubscribeFn (origin : Origin) (h : s.Books) (hopen : s.isOpen = true)
    {t : SubscriptionController} (hcalls : t.calls = (s.unsubscribeFn origin).calls)
    (hcallers : t.callers = s.callers)
    (hfailure : t.terminalFailure = (s.terminalFailure || origin = .fail)) : t.Books := by
  obtain ⟨hall, -⟩ := isOpen_iff.mp hopen
  have hcalls' : t.calls = s.calls ++ [{ origin, early := !s.calls.all Call.isFinished }] := hcalls
  have hold : ∀ {i : ℕ}, i < s.calls.length → t.calls[i]? = s.calls[i]? := by
    intro i hi
    rw [hcalls', List.getElem?_append_left hi]
  have hlength : t.calls.length = s.calls.length + 1 := by
    rw [hcalls', List.length_append]
    rfl
  refine ⟨?_, ?_, ?_, ?_⟩
  · intro i call hget hlt
    rw [hlength] at hlt
    rw [hold (by omega)] at hget
    exact hall call (List.mem_of_getElem? hget)
  · intro j call hget hlast hearly i other hother hlt
    rw [hlength] at hlast
    obtain rfl : j = s.calls.length := by omega
    rw [hold hlt] at hother
    rw [hcalls', List.getElem?_append_right (le_refl _), Nat.sub_self] at hget
    obtain rfl := Option.some.inj hget
    have hfinished : s.calls.all Call.isFinished = true := by
      rw [Bool.not_eq_false'] at hearly
      exact hearly
    exact List.all_eq_true.mp hfinished other (List.mem_of_getElem? hother)
  · intro caller hmem j hduring
    rw [hcallers] at hmem
    obtain ⟨call, hget, hticket⟩ := h.callers caller hmem j hduring
    obtain ⟨hlt, -⟩ := List.getElem?_eq_some_iff.mp hget
    exact ⟨call, (hold hlt).trans hget, hticket⟩
  · rw [hfailure, hcalls', Bool.or_eq_true, h.failure, decide_eq_true_eq]
    constructor
    · intro hcases
      obtain ⟨call, hmem, hfail⟩ | hfail := hcases
      · exact ⟨call, List.mem_append_left _ hmem, hfail⟩
      · exact ⟨_, List.mem_append_right _ (List.mem_singleton_self _), hfail⟩
    · intro ⟨call, hmem, hfail⟩
      obtain hmem | hmem := List.mem_append.mp hmem
      · exact Or.inl ⟨call, hmem, hfail⟩
      · obtain rfl := List.mem_singleton.mp hmem
        exact Or.inr hfail

/-! ### The invariant -/

structure Lawful (s : SubscriptionController) : Prop where
  books : s.Books
  active : s.active = s.isOpen
  /-- `pending` is the last call, unless an earlier one has cleared it. -/
  pending : ∀ (k : ℕ) (call : Call), s.calls[k]? = some call → k + 1 = s.calls.length →
    call.early = false → call.isFinished = false → s.pending = some k
  failed : s.terminalFailure = true → s.completion ≠ .pending
  completed : .completedLocally ∈ s.deciders →
    s.locallyCompleted = true ∨ s.terminalFailure = true
  locally : s.locallyCompleted = true → .completedLocally ∈ s.deciders
  settles : s.completion = verdict s.deciders

/-- The verdict is the first decision; later ones come too late. -/
theorem verdict_append (deciders : List Decider) (decider : Decider) :
    verdict (deciders ++ [decider]) = .settle (verdict [decider]) (verdict deciders) := by
  induction deciders with
  | nil => cases decider <;> rfl
  | cons first rest ih =>
      cases first with
      | failed error isOpen =>
          cases isOpen with
          | true => rfl
          | false => exact ih
      | unsubscribed => rfl
      | completedLocally => rfl

theorem settle_of_ne {outcome completion : Completion} (h : completion ≠ .pending) :
    Completion.settle outcome completion = completion := by
  cases completion with
  | pending => exact absurd rfl h
  | resolved => rfl
  | rejected error => rfl

theorem settle_pending (completion : Completion) : .settle .pending completion = completion := by
  cases completion <;> rfl

theorem exists_of_inFlight (h : s.inFlight = some k) :
    ∃ call, s.calls[k]? = some call ∧ call.stage = .inFlight := by
  obtain ⟨hlt, hstage, -⟩ := List.findIdx?_eq_some_iff_getElem.mp h
  exact ⟨s.calls[k], List.getElem?_eq_getElem hlt, of_decide_eq_true hstage⟩

theorem not_allowsRetry_of_inFlight (h : call.stage = .inFlight) : call.allowsRetry = false := by
  unfold Call.allowsRetry
  rw [h]
  cases call.origin <;> rfl

theorem origin_of_allowsRetry (h : call.allowsRetry = true) : call.origin = .unsubscribe := by
  unfold Call.allowsRetry at h
  split at h
  · assumption
  · assumption
  · cases h

/-- While the subscription is open nothing is in flight, and it has not failed. -/
theorem Lawful.of_open (h : s.Lawful) (hopen : s.isOpen = true) :
    s.inFlight = none ∧ s.terminalFailure = false := by
  obtain ⟨hall, -⟩ := isOpen_iff.mp hopen
  constructor
  · cases hflight : s.inFlight with
    | none => rfl
    | some k =>
        obtain ⟨call, hget, hstage⟩ := exists_of_inFlight hflight
        have hallows := hall call (List.mem_of_getElem? hget)
        rw [not_allowsRetry_of_inFlight hstage] at hallows
        cases hallows
  · by_contra hfailed
    obtain ⟨call, hmem, hfail⟩ := h.books.failure.mp (Bool.eq_true_of_not_eq_false hfailed)
    have hexplicit := origin_of_allowsRetry (hall call hmem)
    rw [hfail] at hexplicit
    cases hexplicit

theorem isOpen_unsubscribeFn (origin : Origin) {t : SubscriptionController}
    (hcalls : t.calls = (s.unsubscribeFn origin).calls) : t.isOpen = false := by
  by_contra hopen
  obtain ⟨hall, -⟩ := isOpen_iff.mp (Bool.eq_true_of_not_eq_false hopen)
  have hmem : { origin, early := !s.calls.all Call.isFinished } ∈ t.calls := by
    rw [hcalls]
    exact List.mem_append_right _ (List.mem_singleton_self _)
  have hallows := hall _ hmem
  rw [not_allowsRetry_of_inFlight rfl] at hallows
  cases hallows

theorem last_unsubscribeFn (origin : Origin) {t : SubscriptionController}
    (hcalls : t.calls = (s.unsubscribeFn origin).calls) (hlast : k + 1 = t.calls.length) :
    k = s.calls.length := by
  rw [hcalls] at hlast
  have hlast : k + 1 = (s.calls ++ [_]).length := hlast
  rw [List.length_append, List.length_singleton] at hlast
  omega

/-- A caller joins the call in flight, or starts one. -/
theorem Lawful.unsubscribe (h : s.Lawful) : s.unsubscribe.Lawful := by
  unfold SubscriptionController.unsubscribe
  dsimp only
  by_cases hactive : s.active = true
  · have hopen : s.isOpen = true := by rw [← h.active, hactive]
    obtain ⟨hflight, hfailed⟩ := h.of_open hopen
    rw [if_pos hactive, hflight]
    have hbooks :
        ({ s with callers := s.callers ++ [⟨s.ticket, none⟩] } : SubscriptionController).Books := by
      refine { h.books with callers := ?_ }
      intro caller hmem j hduring
      obtain hmem | hmem := List.mem_append.mp hmem
      · exact h.books.callers caller hmem j hduring
      · obtain rfl := List.mem_singleton.mp hmem
        cases hduring
    have hopen' :
        ({ s with callers := s.callers ++ [⟨s.ticket, none⟩] } : SubscriptionController).isOpen =
          true := hopen
    refine ⟨hbooks.unsubscribeFn .unsubscribe hopen' rfl rfl (Bool.or_false _).symm, ?_,
      ?_, h.failed, h.completed, h.locally, h.settles⟩
    · exact (isOpen_unsubscribeFn (s := s) .unsubscribe rfl).symm
    · intro j call _ hlast _ _
      rw [last_unsubscribeFn (s := s) .unsubscribe rfl hlast]
  · rw [if_neg hactive]
    refine { h with books := { h.books with callers := ?_ } }
    intro caller hmem j hduring
    obtain hmem | hmem := List.mem_append.mp hmem
    · exact h.books.callers caller hmem j hduring
    · obtain rfl := List.mem_singleton.mp hmem
      obtain ⟨call, hget, hstage⟩ := exists_of_inFlight hduring
      refine ⟨call, hget, ?_⟩
      intro hearly
      have hlast := h.books.last_of_not_allowsRetry hget (not_allowsRetry_of_inFlight hstage)
      have hunfinished : call.isFinished = false := by
        unfold Call.isFinished
        rw [hstage]
      have hpending := h.pending j call hget hlast hearly hunfinished
      unfold ticket
      rw [if_neg hactive, hpending]

/-- `fail` on an open subscription rejects its completion and unsubscribes. -/
theorem Lawful.fail (error : Thrown) (h : s.Lawful) : (s.fail error).Lawful := by
  have hdeciders : ∀ {isOpen : Bool}, .completedLocally ∈ s.deciders ++ [.failed error isOpen] →
      .completedLocally ∈ s.deciders := by
    intro isOpen hmem
    obtain hmem | hmem := List.mem_append.mp hmem
    · exact hmem
    · cases List.mem_singleton.mp hmem
  unfold SubscriptionController.fail
  dsimp only
  by_cases hactive : s.active = true
  · have hopen : s.isOpen = true := by rw [← h.active, hactive]
    rw [if_pos hactive, hopen]
    refine ⟨h.books.unsubscribeFn .fail hopen rfl rfl (Bool.or_true _).symm, ?_, ?_, ?_,
      fun _ => Or.inr rfl, fun hlocal => List.mem_append_left _ (h.locally hlocal), ?_⟩
    · refine (isOpen_unsubscribeFn (s := s) .fail ?_).symm
      rfl
    · intro j call _ hlast _ _
      rw [last_unsubscribeFn (s := s) .fail rfl hlast]
    · intro _
      show Completion.settle (.rejected error) s.completion ≠ .pending
      cases s.completion <;> exact fun hpending => by cases hpending
    · show Completion.settle (.rejected error) s.completion =
        verdict (s.deciders ++ [.failed error true])
      rw [verdict_append, h.settles]
      rfl
  · rw [if_neg hactive]
    have hclosed : s.isOpen = false := by rw [← h.active, Bool.eq_false_of_not_eq_true hactive]
    rw [hclosed]
    have hsame : ({ s with deciders := s.deciders ++ [.failed error false] } :
        SubscriptionController).isOpen = s.isOpen := by
      rw [Bool.eq_iff_iff, isOpen_iff, isOpen_iff]
      refine and_congr_right fun _ => not_congr ⟨hdeciders, ?_⟩
      intro hmem
      exact List.mem_append_left _ hmem
    refine ⟨{ h.books with }, h.active.trans hsame.symm, h.pending, h.failed,
      fun hmem => h.completed (hdeciders hmem),
      fun hlocal => List.mem_append_left _ (h.locally hlocal), ?_⟩
    show s.completion = verdict (s.deciders ++ [.failed error false])
    rw [verdict_append, h.settles]
    exact (settle_pending _).symm

/-- `completeLocal` ends the subscription without a call. -/
theorem Lawful.completeLocal (h : s.Lawful) : s.completeLocal.Lawful := by
  have hmem : .completedLocally ∈ s.deciders ++ [.completedLocally] :=
    List.mem_append_right _ (List.mem_singleton_self _)
  have hverdict : verdict (s.deciders ++ [.completedLocally]) = .settle .resolved s.completion := by
    rw [verdict_append, h.settles]
    rfl
  have hclosed : ∀ t : SubscriptionController, t.deciders = s.deciders ++ [.completedLocally] →
      t.isOpen = false := by
    intro t ht
    by_contra hopen
    obtain ⟨-, hnot⟩ := isOpen_iff.mp (Bool.eq_true_of_not_eq_false hopen)
    rw [ht] at hnot
    exact hnot hmem
  unfold SubscriptionController.completeLocal
  dsimp only
  by_cases hfailed : s.terminalFailure = true
  · rw [if_pos hfailed]
    have hinactive : s.active = false := by
      rw [h.active]
      by_contra hopen
      have hnot := (h.of_open (Bool.eq_true_of_not_eq_false hopen)).2
      rw [hfailed] at hnot
      cases hnot
    refine ⟨{ h.books with }, hinactive.trans (hclosed _ rfl).symm, h.pending, h.failed,
      fun _ => Or.inr hfailed, fun _ => hmem, ?_⟩
    show s.completion = verdict (s.deciders ++ [.completedLocally])
    rw [hverdict, settle_of_ne (h.failed hfailed)]
  · rw [if_neg hfailed]
    refine ⟨{ h.books with }, (hclosed _ rfl).symm, h.pending,
      fun hterminal => absurd hterminal hfailed,
      fun _ => Or.inl rfl, fun _ => hmem, ?_⟩
    exact hverdict.symm

/-- A call that has not been caught closes the subscription, and is the last. -/
theorem Lawful.closed_of_not_allowsRetry (h : s.Lawful) (hcall : s.calls[k]? = some call)
    (hnot : call.allowsRetry = false) : s.active = false := by
  rw [h.active]
  by_contra hopen
  obtain ⟨hall, -⟩ := isOpen_iff.mp (Bool.eq_true_of_not_eq_false hopen)
  have hallows := hall call (List.mem_of_getElem? hcall)
  rw [hnot] at hallows
  cases hallows

/-- Whether the subscription is open is decided by its last call. -/
theorem Books.isOpen_of_last (h : s.Books) (hcall : s.calls[k]? = some call)
    (hlast : k + 1 = s.calls.length) :
    s.isOpen = (call.allowsRetry && !s.deciders.contains .completedLocally) := by
  rw [Bool.eq_iff_iff, isOpen_iff, Bool.and_eq_true, Bool.not_eq_true', List.contains_eq_mem,
    decide_eq_false_iff_not]
  refine and_congr_left fun _ => ⟨fun hall => hall call (List.mem_of_getElem? hcall), ?_⟩
  intro hallows other hmem
  obtain ⟨i, hi⟩ := List.mem_iff_getElem?.mp hmem
  obtain ⟨hlt, -⟩ := List.getElem?_eq_some_iff.mp hi
  by_cases hik : i = k
  · subst hik
    rw [hcall] at hi
    obtain rfl := Option.some.inj hi
    exact hallows
  · exact h.front i other hi (by omega)

/-- The promise of a call settles. -/
theorem Lawful.settle {failure : Option Thrown} (h : s.Lawful) (hcall : s.calls[k]? = some call)
    (hstage : call.stage = .inFlight) : (s.advance k call (.settled failure)).Lawful := by
  have hnot := not_allowsRetry_of_inFlight hstage
  have hnot' : { call with stage := .settled failure }.allowsRetry = false := by
    unfold Call.allowsRetry
    dsimp only
    cases call.origin <;> rfl
  have hbooks : (s.advance k call (.settled failure)).Books := by
    refine h.books.advance hcall (fun hallows => ?_) (fun hfinished => ?_)
    · rw [hnot] at hallows
      cases hallows
    · unfold Call.isFinished at hfinished
      rw [hstage] at hfinished
      cases hfinished
  have hlast := h.books.last_of_not_allowsRetry hcall hnot
  refine ⟨hbooks, ?_, ?_, h.failed, h.completed, h.locally, h.settles⟩
  · have hget : (s.advance k call (.settled failure)).calls[k]? = some _ :=
      (advance_getElem? hcall k).trans (if_pos rfl)
    rw [hbooks.isOpen_of_last hget (by rw [advance_length]; exact hlast), hnot', Bool.false_and]
    exact h.closed_of_not_allowsRetry hcall hnot
  · intro j call' hget hlast' hearly hunfinished
    rw [advance_length] at hlast'
    obtain rfl : j = k := by omega
    rw [advance_getElem? hcall, if_pos rfl] at hget
    obtain rfl := Option.some.inj hget
    refine h.pending j call hcall hlast hearly ?_
    unfold Call.isFinished
    rw [hstage]

theorem allowsRetry_caught (failure : Option Thrown) :
    { call with stage := .caught failure }.allowsRetry =
      (decide (call.origin = .unsubscribe) && failure.isSome) := by
  unfold Call.allowsRetry
  dsimp only
  cases call.origin <;> cases failure <;> rfl

theorem allowsRetry_finished (failure : Option Thrown) :
    { call with stage := .finished failure }.allowsRetry =
      { call with stage := .caught failure }.allowsRetry := by
  unfold Call.allowsRetry
  dsimp only
  cases call.origin <;> cases failure <;> rfl

/-- A call that allows a retry at the end allows the next one, unless the subscription was completed
meanwhile. -/
theorem Lawful.handleCatch {failure : Option Thrown} (h : s.Lawful)
    (hcall : s.calls[k]? = some call) (hstage : call.stage = .settled failure) :
    ((s.advance k call (.caught failure)).handleCatch call.origin failure).Lawful := by
  let t := s.advance k call (.caught failure)
  have hnot : call.allowsRetry = false := by
    unfold Call.allowsRetry
    rw [hstage]
    cases call.origin <;> rfl
  have hlast := h.books.last_of_not_allowsRetry hcall hnot
  have hclosed := h.closed_of_not_allowsRetry hcall hnot
  have hbooks : t.Books := by
    refine h.books.advance hcall (fun hallows => ?_) (fun hfinished => ?_)
    · rw [hnot] at hallows
      cases hallows
    · unfold Call.isFinished at hfinished
      rw [hstage] at hfinished
      cases hfinished
  have hget : t.calls[k]? = some { call with stage := .caught failure } :=
    (advance_getElem? hcall k).trans (if_pos rfl)
  have hopen : t.isOpen = (decide (call.origin = .unsubscribe) && failure.isSome &&
      !s.deciders.contains .completedLocally) := by
    rw [hbooks.isOpen_of_last hget (by rw [advance_length]; exact hlast), allowsRetry_caught]
    rfl
  have hpending : ∀ (j : ℕ) (call' : Call), t.calls[j]? = some call' → j + 1 = t.calls.length →
      call'.early = false → call'.isFinished = false → s.pending = some j := by
    intro j call' hget' hlast' hearly hunfinished
    rw [advance_length] at hlast'
    obtain rfl : j = k := by omega
    rw [hget] at hget'
    obtain rfl := Option.some.inj hget'
    refine h.pending j call hcall hlast hearly ?_
    unfold Call.isFinished
    rw [hstage]
  -- whether the handler makes it active again
  have hsame : t.isOpen = false → t.Lawful := by
    intro hshut
    exact ⟨hbooks, hclosed.trans hshut.symm, hpending, h.failed, h.completed, h.locally, h.settles⟩
  show (t.handleCatch call.origin failure).Lawful
  unfold SubscriptionController.handleCatch
  cases horigin : call.origin with
  | fail =>
      refine hsame ?_
      rw [hopen, horigin]
      rfl
  | unsubscribe =>
      cases failure with
      | none =>
          refine hsame ?_
          rw [hopen, horigin]
          rfl
      | some error =>
          dsimp only
          by_cases hlocal : t.locallyCompleted = true
          · rw [if_pos hlocal]
            refine hsame ?_
            rw [hopen, List.contains_eq_mem, decide_eq_true (h.locally hlocal)]
            simp
          · rw [if_neg hlocal]
            -- it has not failed: no call is one of `fail`
            have hnever : .completedLocally ∉ s.deciders := by
              intro hmem
              obtain hcompleted | hterminal := h.completed hmem
              · exact hlocal hcompleted
              · obtain ⟨other, hother, hfail⟩ := h.books.failure.mp hterminal
                obtain ⟨i, hi⟩ := List.mem_iff_getElem?.mp hother
                obtain ⟨hlt, -⟩ := List.getElem?_eq_some_iff.mp hi
                by_cases hik : i = k
                · subst hik
                  rw [hcall] at hi
                  obtain rfl := Option.some.inj hi
                  rw [horigin] at hfail
                  cases hfail
                · have hallows := h.books.front i other hi (by omega)
                  rw [origin_of_allowsRetry hallows] at hfail
                  cases hfail
            have hopen' : t.isOpen = true := by
              rw [hopen, horigin, List.contains_eq_mem, decide_eq_false hnever]
              rfl
            exact ⟨{ hbooks with }, hopen'.symm, hpending, h.failed, h.completed, h.locally,
              h.settles⟩

/-- Whoever waited for the call goes on. -/
theorem Lawful.finish {failure : Option Thrown} (h : s.Lawful) (hcall : s.calls[k]? = some call)
    (hstage : call.stage = .caught failure) :
    ((s.advance k call (.finished failure)).finish call.origin failure).Lawful := by
  let t := s.advance k call (.finished failure)
  have hcall' : call = { call with stage := .caught failure } := by
    rw [← hstage]
  have hretry : { call with stage := .finished failure }.allowsRetry = call.allowsRetry := by
    rw [allowsRetry_finished, ← hcall']
  have hunfinished : call.isFinished = false := by
    unfold Call.isFinished
    rw [hstage]
  have hbooks : t.Books := by
    refine h.books.advance hcall (fun hallows => hretry.trans hallows) (fun hfinished => ?_)
    rw [hunfinished] at hfinished
    cases hfinished
  have hall : (∀ other ∈ t.calls, other.allowsRetry = true) ↔
      ∀ other ∈ s.calls, other.allowsRetry = true := by
    simp only [List.mem_iff_getElem?, forall_exists_index]
    constructor
    · intro hall other i hi
      by_cases hik : i = k
      · subst hik
        rw [hcall] at hi
        obtain rfl := Option.some.inj hi
        rw [← hretry]
        exact hall _ i ((advance_getElem? hcall i).trans (if_pos rfl))
      · exact hall other i (((advance_getElem? hcall i).trans (if_neg hik)).trans hi)
    · intro hall other i hi
      rw [advance_getElem? hcall] at hi
      split at hi
      · obtain rfl := Option.some.inj hi
        exact hretry.trans (hall call k hcall)
      · exact hall other i hi
  have hopen : ∀ u : SubscriptionController, u.calls = t.calls →
      (.completedLocally ∈ u.deciders ↔ .completedLocally ∈ s.deciders) → u.isOpen = s.isOpen := by
    intro u hcalls hdeciders
    rw [Bool.eq_iff_iff, isOpen_iff, isOpen_iff, hcalls]
    exact and_congr hall (not_congr hdeciders)
  -- the last call was made early, if this is an earlier one
  have hpending : ∀ (j : ℕ) (call' : Call), t.calls[j]? = some call' → j + 1 = t.calls.length →
      call'.early = false → call'.isFinished = false → none = some j := by
    intro j call' hget hlast hearly hopen'
    rw [advance_length] at hlast
    obtain ⟨hlt, -⟩ := List.getElem?_eq_some_iff.mp hcall
    rw [advance_getElem? hcall] at hget
    split at hget
    · obtain rfl := Option.some.inj hget
      cases hopen'
    · rename_i hne
      have hfinished := h.books.early j call' hget hlast hearly k call hcall (by omega)
      rw [hunfinished] at hfinished
      cases hfinished
  have hsame : ({ t with pending := none } : SubscriptionController).Lawful :=
    ⟨{ hbooks with }, h.active.trans (hopen _ rfl Iff.rfl).symm, hpending, h.failed, h.completed,
      h.locally, h.settles⟩
  show (t.finish call.origin failure).Lawful
  unfold SubscriptionController.finish
  dsimp only
  cases horigin : call.origin with
  | fail => exact hsame
  | unsubscribe =>
      cases failure with
      | some error => exact hsame
      | none =>
          have hmem : .completedLocally ∈ s.deciders ++ [.unsubscribed] ↔
              .completedLocally ∈ s.deciders := by simp
          have hverdict : verdict (s.deciders ++ [.unsubscribed]) =
              .settle .resolved s.completion := by
            rw [verdict_append, h.settles]
            rfl
          refine ⟨{ hbooks with }, ?_, hpending, ?_,
            fun hlocal => h.completed (hmem.mp hlocal),
            fun hlocal => hmem.mpr (h.locally hlocal), ?_⟩
          · show s.active = _
            rw [h.active]
            refine (hopen _ ?_ ?_).symm
            · rfl
            · exact hmem
          · intro hterminal
            have hterminal : s.terminalFailure = true := hterminal
            show (if s.terminalFailure then s.completion else .settle .resolved s.completion) ≠
              .pending
            rw [if_pos hterminal]
            exact h.failed hterminal
          · show (if s.terminalFailure then s.completion else .settle .resolved s.completion) =
              verdict (s.deciders ++ [.unsubscribed])
            rw [hverdict]
            split
            · rename_i hterminal
              rw [settle_of_ne (h.failed hterminal)]
            · rfl

/-- The step lemma. -/
theorem Lawful.step {e : Event} {t : SubscriptionController} (h : s.Lawful)
    (hst : s.step e = some t) : t.Lawful := by
  cases e with
  | unsubscribe =>
      obtain rfl := Option.some.inj hst
      exact h.unsubscribe
  | abort =>
      obtain rfl := Option.some.inj hst
      split
      · exact h.unsubscribe
      · exact h
  | fail error =>
      obtain rfl := Option.some.inj hst
      exact h.fail error
  | completeLocal =>
      obtain rfl := Option.some.inj hst
      exact h.completeLocal
  | settle k failure =>
      unfold SubscriptionController.step at hst
      dsimp only at hst
      split at hst
      · rename_i call hcall
        obtain ⟨hstage, hst⟩ := Option.ite_none_right_eq_some.mp hst
        obtain rfl := Option.some.inj hst
        exact h.settle hcall hstage
      · cases hst
  | react k =>
      unfold SubscriptionController.step at hst
      dsimp only at hst
      split at hst
      · rename_i call hcall
        split at hst
        · rename_i failure hstage
          obtain rfl := Option.some.inj hst
          exact h.handleCatch hcall hstage
        · rename_i failure hstage
          obtain rfl := Option.some.inj hst
          exact h.finish hcall hstage
        · cases hst
      · cases hst

theorem lawful_start (signal : Signal) : (machine signal).init.Lawful := by
  have hnew : ∀ listening : Bool, ({ listening } : SubscriptionController).Lawful := by
    intro listening
    refine ⟨⟨?_, ?_, ?_, ?_⟩, rfl, ?_, ?_, ?_, ?_, rfl⟩
    · intro i call hget
      cases hget
    · intro k call hget
      cases hget
    · intro caller hmem
      cases hmem
    · constructor
      · intro hterminal
        cases hterminal
      · intro ⟨call, hmem, _⟩
        cases hmem
    · intro k call hget
      cases hget
    · intro hterminal
      cases hterminal
    · intro hmem
      cases hmem
    · intro hlocal
      cases hlocal
  cases signal with
  | none => exact hnew false
  | live => exact hnew true
  | aborted => exact (hnew false).unsubscribe

/-! ### Runs -/

/-- What the invariant says of the calls and the completion. -/
theorem Lawful.sound (h : s.Lawful) : s.Sound where
  single := by
    intro i j call call' hi hj hcall hcall'
    have hlast := h.books.last_of_not_allowsRetry hi (not_allowsRetry_of_inFlight hcall)
    have hlast' := h.books.last_of_not_allowsRetry hj (not_allowsRetry_of_inFlight hcall')
    omega
  shared := by
    intro caller hmem k call hduring hget hearly
    obtain ⟨call', hget', hticket⟩ := h.books.callers caller hmem k hduring
    rw [hget] at hget'
    obtain rfl := Option.some.inj hget'
    rw [hticket hearly]
    show (s.calls[k]?).elim .pending Call.promise = call.promise
    rw [hget]
    rfl
  retries := by
    intro hopen
    have hactive : s.active = true := h.active.trans hopen
    unfold SubscriptionController.unsubscribe
    dsimp only
    rw [if_pos hactive]
    exact List.length_append
  ceases := by
    intro call hmem hsucceeded
    have hnot : call.allowsRetry = false := by
      unfold Call.hasSucceeded at hsucceeded
      unfold Call.allowsRetry
      split at hsucceeded
      · rename_i hstage
        rw [hstage]
        cases call.origin <;> rfl
      · rename_i hstage
        rw [hstage]
        cases call.origin <;> rfl
      · rename_i hstage
        rw [hstage]
        cases call.origin <;> rfl
      · cases hsucceeded
    obtain ⟨k, hget⟩ := List.mem_iff_getElem?.mp hmem
    have hclosed := h.closed_of_not_allowsRetry hget hnot
    have hinactive : ¬ s.active = true := by rw [hclosed]; decide
    constructor
    · unfold SubscriptionController.unsubscribe
      dsimp only
      rw [if_neg hinactive]
    · intro error
      unfold SubscriptionController.fail
      dsimp only
      rw [if_neg hinactive]
  settles := h.settles

/-- Once the completion has settled, no step changes it. -/
theorem completion_step {e : Event} {t : SubscriptionController} (hst : s.step e = some t)
    (hsettled : s.completion ≠ .pending) : t.completion = s.completion := by
  have hunsubscribe : s.unsubscribe.completion = s.completion := by
    unfold unsubscribe
    dsimp only
    split <;> rfl
  cases e with
  | unsubscribe =>
      obtain rfl := Option.some.inj hst
      exact hunsubscribe
  | abort =>
      obtain rfl := Option.some.inj hst
      split
      · exact hunsubscribe
      · rfl
  | fail error =>
      obtain rfl := Option.some.inj hst
      unfold fail
      dsimp only
      split
      · exact settle_of_ne hsettled
      · rfl
  | completeLocal =>
      obtain rfl := Option.some.inj hst
      unfold completeLocal
      dsimp only
      split
      · rfl
      · exact settle_of_ne hsettled
  | settle k failure =>
      unfold step at hst
      dsimp only at hst
      split at hst
      · obtain ⟨-, hst⟩ := Option.ite_none_right_eq_some.mp hst
        obtain rfl := Option.some.inj hst
        rfl
      · cases hst
  -- a reaction settles the completion only while it is pending
  | react k =>
      unfold step at hst
      dsimp only at hst
      split at hst
      · split at hst
        · obtain rfl := Option.some.inj hst
          unfold handleCatch
          split
          · split <;> rfl
          · rfl
        · obtain rfl := Option.some.inj hst
          unfold finish
          dsimp only
          split
          · show (if s.terminalFailure then s.completion else .settle .resolved s.completion) =
              s.completion
            split
            · rfl
            · exact settle_of_ne hsettled
          · rfl
        · cases hst
      · cases hst

/-- **The controller**, in every state of every run: one call of `unsubscribeFn` is in flight at a
time; a caller of `unsubscribe` gets what comes of the call in flight, and if `fail` has made that
call its error is dropped; another call follows after failures, and none after a success. The
completion is rejected by the first `fail` that finds the subscription open, if that comes first,
and otherwise fulfilled by the first successful unsubscribe or by `completeLocal`; it settles
once. -/
theorem controller_sound {signal : Signal} {es : List Event}
    (h : (machine signal).run es = some s) :
    s.Sound ∧ ∀ es' t, (machine signal).runFrom s es' = some t → s.completion ≠ .pending →
      t.completion = s.completion := by
  have hlawful : s.Lawful :=
    Machine.invariant (lawful_start signal) (fun _ _ _ hlawful hst => hlawful.step hst) h
  refine ⟨hlawful.sound, ?_⟩
  intro es' t hrun hsettled
  refine Machine.invariant (I := fun t => t.completion = s.completion) rfl ?_ hrun
  intro s₁ e s₂ hsame hst
  rw [← hsame] at hsettled ⊢
  exact completion_step hst hsettled

/-- The first call fails and is tried again, and both callers of the second share it. -/
def retriedRun : List Event :=
  [.unsubscribe, .settle 0 (some (.error "Error" 1)), .react 0, .react 0, .unsubscribe,
    .unsubscribe, .settle 1 none, .react 1, .react 1, .fail (.error "Error" 2)]

theorem controller_sound_retriedRun : ∃ s, (machine .live).run retriedRun = some s ∧
    s.completion = .resolved ∧ s.Sound := by
  obtain ⟨s, hs, hresolved⟩ : ∃ s, (machine .live).run retriedRun = some s ∧
      s.completion = .resolved := ⟨_, rfl, by decide⟩
  exact ⟨s, hs, hresolved, (controller_sound hs).1⟩

/-- The error of a call that `fail` has made does not come to those who share it, and a `fail` that
comes while an unsubscribe is under way counts for nothing. -/
theorem controller_drops_errors :
    (¬ ∀ signal es s, (machine signal).run es = some s → ∀ caller ∈ s.callers,
      ∀ (k : ℕ) (call : Call) failure, caller.during = some k → s.calls[k]? = some call →
        call.stage = .finished failure → s.outcome caller.ticket = ofFailure failure) ∧
    ¬ ∀ signal es s, (machine signal).run es = some s → ∀ error isOpen rest,
      s.deciders = .failed error isOpen :: rest → s.completion = .rejected error := by
  constructor
  · intro h
    have hshared := h .none [.fail (.error "Error" 1), .unsubscribe,
      .settle 0 (some (.error "Error" 2)), .react 0, .react 0] _ rfl ⟨.shares 0, some 0⟩ (by decide)
      0 ⟨.fail, .finished (some (.error "Error" 2)), false⟩ _ rfl rfl rfl
    cases hshared
  · intro h
    have hrejected := h .none [.unsubscribe, .fail (.error "Error" 1), .settle 0 none, .react 0,
      .react 0] _ rfl (.error "Error" 1) false [.unsubscribed] rfl
    cases hrejected

/-! ### The handle of an iterator -/

/-- `unsubscribe` is not called before the completion has settled, as by the loop of an iterator. -/
def CallsLate (s : SubscriptionController) (e : Event) : Prop :=
  e = .unsubscribe → s.completion ≠ .pending

/-- Only `fail` has called `unsubscribeFn`, and with the completion the subscription has ended. -/
structure EndsOnce (s : SubscriptionController) : Prop where
  origins : ∀ call ∈ s.calls, call.origin = .fail
  unheard : s.listening = false
  inactive : s.completion ≠ .pending → s.active = false
  untouched : s.completion = .pending → s.calls = [] ∧ s.callers = []
  tickets : ∀ caller ∈ s.callers, ∀ k : ℕ, caller.ticket ≠ .starts k

theorem EndsOnce.unsubscribe (h : s.EndsOnce) (hsettled : s.completion ≠ .pending) :
    s.unsubscribe.EndsOnce := by
  have hinactive := h.inactive hsettled
  have heq : s.unsubscribe = { s with callers := s.callers ++ [⟨s.ticket, s.inFlight⟩] } :=
    if_neg (by rw [hinactive]; exact Bool.false_ne_true)
  rw [heq]
  refine ⟨h.origins, h.unheard, h.inactive, fun hpending => absurd hpending hsettled, ?_⟩
  intro caller hcaller k
  rcases List.mem_append.mp hcaller with hcaller | hcaller
  · exact h.tickets caller hcaller k
  · obtain rfl := List.mem_singleton.mp hcaller
    show s.ticket ≠ .starts k
    unfold ticket
    rw [hinactive, if_neg Bool.false_ne_true]
    split <;> exact fun hstarts => by cases hstarts

theorem settle_ne_pending {outcome completion : Completion} (h : outcome ≠ .pending) :
    Completion.settle outcome completion ≠ .pending := by
  unfold Completion.settle
  split
  · exact h
  · rename_i hsettled
    exact hsettled

/-- A call of `unsubscribeFn` comes to its next stage. -/
theorem EndsOnce.advance {stage : Stage} (h : s.EndsOnce) (hcall : s.calls[k]? = some call) :
    (s.advance k call stage).EndsOnce := by
  refine ⟨fun call' hcall' => ?_, h.unheard, h.inactive, fun hpending => ?_, h.tickets⟩
  · rcases List.mem_or_eq_of_mem_set hcall' with hold | rfl
    · exact h.origins call' hold
    · exact h.origins call (List.mem_of_getElem? hcall)
  · obtain ⟨hnone, hcallers⟩ := h.untouched hpending
    rw [hnone] at hcall
    cases hcall

/-- The first `fail` is the one that ends the subscription. -/
theorem EndsOnce.fail (h : s.EndsOnce) (error : Thrown) : (s.fail error).EndsOnce := by
  unfold SubscriptionController.fail
  dsimp only
  split
  · have hsettled : Completion.settle (.rejected error) s.completion ≠ .pending :=
      settle_ne_pending (by simp)
    refine ⟨fun call hcall => ?_, rfl, fun _ => rfl, fun hpending => absurd hpending hsettled,
      h.tickets⟩
    rcases List.mem_append.mp hcall with hcall | hcall
    · exact h.origins call hcall
    · obtain rfl := List.mem_singleton.mp hcall
      rfl
  · exact ⟨h.origins, h.unheard, h.inactive, h.untouched, h.tickets⟩

theorem EndsOnce.completeLocal (h : s.EndsOnce) : s.completeLocal.EndsOnce := by
  unfold SubscriptionController.completeLocal
  dsimp only
  split
  · exact ⟨h.origins, h.unheard, h.inactive, h.untouched, h.tickets⟩
  · have hsettled : Completion.settle .resolved s.completion ≠ .pending :=
      settle_ne_pending (by simp)
    exact ⟨h.origins, rfl, fun _ => rfl, fun hpending => absurd hpending hsettled, h.tickets⟩

theorem EndsOnce.step {e : Event} {t : SubscriptionController} (h : s.EndsOnce)
    (hK : s.CallsLate e) (hst : s.step e = some t) : t.EndsOnce := by
  unfold SubscriptionController.step at hst
  cases e with
  | unsubscribe => exact Option.some.inj hst ▸ h.unsubscribe (hK rfl)
  | abort =>
      rw [h.unheard, if_neg Bool.false_ne_true] at hst
      exact Option.some.inj hst ▸ h
  | fail error => exact Option.some.inj hst ▸ h.fail error
  | completeLocal => exact Option.some.inj hst ▸ h.completeLocal
  | settle k failure =>
      dsimp only at hst
      split at hst
      · rename_i call hcall
        obtain ⟨-, hst⟩ := Option.ite_none_right_eq_some.mp hst
        exact Option.some.inj hst ▸ h.advance hcall
      · cases hst
  | react k =>
      dsimp only at hst
      split at hst
      · rename_i call hcall
        -- the calls are those of `fail`, and no error of theirs is passed on
        have horigin := h.origins call (List.mem_of_getElem? hcall)
        rw [horigin] at hst
        split at hst
        · exact Option.some.inj hst ▸ h.advance hcall
        · rename_i failure hstage
          have hnext : (s.advance k call (.finished failure)).EndsOnce := h.advance hcall
          exact Option.some.inj hst ▸
            ⟨hnext.origins, hnext.unheard, hnext.inactive, hnext.untouched, hnext.tickets⟩
        · cases hst
      · cases hst

/-- What is shared with `fail` is no error. -/
theorem EndsOnce.fulfils (h : s.EndsOnce) {caller : Caller} (hcaller : caller ∈ s.callers)
    (error : Thrown) : s.outcome caller.ticket ≠ .rejected error := by
  have hticket := h.tickets caller hcaller
  cases hstands : caller.ticket with
  | starts k => exact absurd hstands (hticket k)
  | nothing => exact fun hrejected => by cases hrejected
  | shares k =>
      show (s.calls[k]?).elim .pending Call.promise ≠ .rejected error
      cases hcall : s.calls[k]? with
      | none => exact fun hrejected => by cases hrejected
      | some call =>
          have horigin := h.origins call (List.mem_of_getElem? hcall)
          show call.promise ≠ .rejected error
          unfold Call.promise
          rw [horigin]
          split <;> simp_all

/-- Whoever calls `unsubscribe` of a handle whose completion has settled gets no error. -/
theorem unsubscribe_fulfils {es : List Event}
    (hlate : (machine .none).Guarded CallsLate (machine .none).init es)
    (hrun : (machine .none).run es = some s) :
    ∀ caller ∈ s.callers, ∀ error, s.outcome caller.ticket ≠ .rejected error := by
  have hends : s.EndsOnce := Machine.Guarded.invariant (I := EndsOnce)
    ⟨fun _ hcall => absurd hcall List.not_mem_nil, rfl, fun hsettled => absurd rfl hsettled,
      fun _ => ⟨rfl, rfl⟩, fun _ hcaller => absurd hcaller List.not_mem_nil⟩
    (fun _ _ _ h hK hst => h.step hK hst) hlate hrun
  exact fun caller hcaller error => hends.fulfils hcaller error

end SubscriptionController

end FitzTs
