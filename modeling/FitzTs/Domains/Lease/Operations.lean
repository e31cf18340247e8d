import Mathlib.Data.List.Basic
import FitzTs.Lib.Machine
import FitzTs.Domains.Lease.Handle
/-!
# FitzTs.Domains.Lease.Operations

The `operation` chain of a lease handle (`createLease` of `domains/lease/types.ts`).

Every call of `extend` and `release` waits for the one before it, whatever has become of that. When
its turn comes the handle is asked, which may have been closed meanwhile. A frame is sent when its
request is handed to the connection; what comes of the request is the environment's choice.

The calls are kept in the order in which they were made. At any time those that are settled come
first, then at most one whose request is outstanding, then those that are queued.

## Main result

* `lease_serialised` — one request of a handle at a time, in call order, each with the token of the
  last extension, and none once the handle has been closed.
-/

namespace FitzTs.Lease

/-- A call of a method of the handle. -/
inductive Operation
  /-- `extend({ ttlSeconds })`; `none` is no safe non-negative integer. -/
  | extend (ttlSeconds : Option Nat)
  | release
  deriving DecidableEq, Repr

/-- Where the promise of a call stands. -/
inductive OperationPhase
  | queued
  /-- In `connection.request`. -/
  | outstanding
  | extended (token : Nat)
  | released
  | rejected (error : JsError)
  deriving DecidableEq, Repr

structure OperationCall where
  operation : Operation
  phase : OperationPhase
  deriving DecidableEq, Repr

/-- The error of `writeU64BENumberAt`. -/
def ttlError : JsError := ⟨"RangeError", "Invalid u64 number", 2⟩

/-- A handle, and the calls made on it. -/
structure LeaseOperations where
  lease : LeaseHandle
  /-- Oldest first. -/
  calls : List OperationCall := []
  /-- The requests handed to the connection, with the place of their call. -/
  sent : List (Nat × LeaseRequest) := []
  deriving DecidableEq

inductive OperationEvent
  | call (operation : Operation)
  /-- `operation.then(fn, fn)` continues: the function of the call runs. -/
  | turn (i : Nat)
  /-- The request of the call settles, its response decoded. -/
  | settle (i : Nat) (result : Except JsError Nat)
  /-- The handle's disconnect listener runs. -/
  | disconnect

namespace OperationCall

def isQueued (call : OperationCall) : Bool := call.phase = .queued

def isSettled (call : OperationCall) : Bool := call.phase ≠ .queued ∧ call.phase ≠ .outstanding

/-- The token that it has returned. -/
def token? (call : OperationCall) : Option Nat :=
  match call.phase with
  | .extended token => some token
  | _ => none

/-- It is a release, or an extension that has failed. -/
def closes (call : OperationCall) : Bool :=
  match call.operation, call.phase with
  | .release, _ => true
  | .extend _, .rejected _ => true
  | .extend _, _ => false

/-- It has not been served, and will not be. -/
def isRefused (call : OperationCall) : Bool :=
  match call.phase with
  | .queued | .rejected _ => true
  | _ => false

end OperationCall

/-- The request of an operation. -/
def Operation.request (route : String) (token : Nat) : Operation → Option LeaseRequest
  | extend ttlSeconds => ttlSeconds.map (.renew route token)
  | release => some (.release route token)

/-- The token returned by the last extension among `calls`. -/
def latestToken (acquired : Nat) (calls : List OperationCall) : Nat :=
  (calls.filterMap OperationCall.token?).getLast?.getD acquired

namespace LeaseOperations

/-- `createLease(token, expiresAt, route, connection)`. -/
def create (route : String) (token : Nat) : LeaseOperations where
  lease := ⟨route, token, false⟩

/-- The call settles, or goes on. -/
def setPhase (s : LeaseOperations) (i : Nat) (phase : OperationPhase) : LeaseOperations :=
  { s with calls := s.calls.modify i fun call => { call with phase } }

/-- The operation before the call has settled. -/
def isNext (s : LeaseOperations) : Nat → Bool
  | 0 => true
  | i + 1 => s.calls[i]?.any OperationCall.isSettled

/-- The function given to `serialize`, up to its request. -/
def turn (s : LeaseOperations) (i : Nat) : Operation → LeaseOperations
  | .extend ttlSeconds =>
    match s.lease.ensureOpen with
    | .error error => s.setPhase i (.rejected error)
    | .ok () =>
      match ttlSeconds with
      | none =>
        { s with lease := s.lease.extended (.error ttlError) }.setPhase i (.rejected ttlError)
      | some ttlSeconds =>
        match s.lease.extend ttlSeconds with
        | .error error =>
          { s with lease := s.lease.extended (.error error) }.setPhase i (.rejected error)
        | .ok request => { s with sent := s.sent ++ [(i, request)] }.setPhase i .outstanding
  | .release =>
    match s.lease.release with
    | .error error => s.setPhase i (.rejected error)
    | .ok (lease, request) =>
      { s with lease, sent := s.sent ++ [(i, request)] }.setPhase i .outstanding

/-- The rest of it. -/
def settle (s : LeaseOperations) (i : Nat) (result : Except JsError Nat) :
    Operation → LeaseOperations
  | .extend _ =>
    let s := { s with lease := s.lease.extended result }
    match result with
    | .ok token => s.setPhase i (.extended token)
    | .error error => s.setPhase i (.rejected error)
  | .release =>
    match result with
    | .ok _ => s.setPhase i .released
    | .error error => s.setPhase i (.rejected error)

def step (s : LeaseOperations) : OperationEvent → Option LeaseOperations
  | .call operation => some { s with calls := s.calls ++ [⟨operation, .queued⟩] }
  | .turn i =>
    match s.calls[i]? with
    | some call => if call.isQueued ∧ s.isNext i then some (s.turn i call.operation) else none
    | none => none
  | .settle i result =>
    match s.calls[i]? with
    | some call =>
        if call.phase = .outstanding then some (s.settle i result call.operation) else none
    | none => none
  | .disconnect => some { s with lease := s.lease.disconnected }

def machine (route : String) (token : Nat) : Machine LeaseOperations OperationEvent where
  init := create route token
  step := step

/-- What a handle keeps to. -/
structure Serialised (route : String) (acquired : Nat) (s : LeaseOperations) : Prop where
  /-- One request at a time. -/
  alone : ∀ (i j : Nat) (before after : OperationCall), s.calls[i]? = some before →
    s.calls[j]? = some after →
    before.phase = .outstanding → after.phase = .outstanding → i = j
  /-- An outstanding call has sent its request. -/
  outstanding : ∀ (i : Nat) (call : OperationCall), s.calls[i]? = some call →
    call.phase = .outstanding →
    ∃ request, (i, request) ∈ s.sent
  ordered : s.sent.Pairwise fun before after => before.1 < after.1
  /-- A request carries the token of the last extension before it. -/
  carries : ∀ i request, (i, request) ∈ s.sent → ∃ call, s.calls[i]? = some call ∧
    call.operation.request route (latestToken acquired (s.calls.take i)) = some request
  /-- After a failed extension or a release, nothing is sent and every call is refused. -/
  refused : ∀ (i j : Nat) (before after : OperationCall), i < j → s.calls[i]? = some before →
    s.calls[j]? = some after →
    before.closes = true → after.isRefused = true ∧ ∀ request, (j, request) ∉ s.sent
  /-- As long as a call is queued, the first such call can have its turn or another is
  outstanding. -/
  served : (∃ call ∈ s.calls, call.isQueued = true) →
    (∃ call ∈ s.calls, call.phase = .outstanding) ∨ ∃ i s', s.step (.turn i) = some s'

/-- Nothing happens to a handle that has been closed, but that calls are refused. -/
structure Stays (s t : LeaseOperations) : Prop where
  sent : t.sent = s.sent
  refused : ∀ (i : Nat) (call : OperationCall), t.calls[i]? = some call →
    (∀ earlier : OperationCall, s.calls[i]? = some earlier → earlier.isQueued = true) →
      call.isRefused = true

/-! ## The chain -/

/-- Only a call whose predecessor has settled leaves the queue. -/
def Chained (calls : List OperationCall) : Prop :=
  ∀ (i : Nat) (before after : OperationCall), calls[i]? = some before →
    calls[i + 1]? = some after → after.isQueued = false → before.isSettled = true

variable {calls : List OperationCall} {i : Nat} {call : OperationCall}

theorem isSettled_of_lt (h : Chained calls) {j : Nat} {later : OperationCall} (hlt : i < j)
    (hcall : calls[i]? = some call) (hlater : calls[j]? = some later)
    (hqueued : later.isQueued = false) : call.isSettled = true := by
  induction j generalizing later with
  | zero => exact absurd hlt (Nat.not_lt_zero i)
  | succ j ih =>
      have hj : j < calls.length :=
        Nat.lt_of_succ_lt (List.getElem?_eq_some_iff.mp hlater).1
      have hbefore : calls[j]? = some calls[j] := List.getElem?_eq_getElem hj
      have hsettled := h j _ later hbefore hlater hqueued
      rcases Nat.lt_succ_iff_lt_or_eq.mp hlt with hlt | rfl
      · refine ih hlt hbefore ?_
        unfold OperationCall.isSettled at hsettled
        unfold OperationCall.isQueued
        simp only [ne_eq, Bool.decide_and, Bool.and_eq_true, decide_eq_true_eq] at hsettled
        simp [hsettled.1]
      · exact Option.some.inj (hcall.symm.trans hbefore) ▸ hsettled

/-- Behind a call that is still open, all are queued. -/
theorem isQueued_of_lt (h : Chained calls) {j : Nat} {later : OperationCall} (hlt : i < j)
    (hcall : calls[i]? = some call) (hopen : call.isSettled = false)
    (hlater : calls[j]? = some later) : later.isQueued = true := by
  cases hqueued : later.isQueued with
  | true => rfl
  | false => exact absurd (isSettled_of_lt h hlt hcall hlater hqueued) (by simp [hopen])

theorem isSettled_of_isQueued (h : call.isQueued = true) : call.isSettled = false := by
  unfold OperationCall.isQueued at h
  simp [OperationCall.isSettled, decide_eq_true_eq.mp h]

theorem isSettled_of_outstanding (h : call.phase = .outstanding) : call.isSettled = false := by
  simp [OperationCall.isSettled, h]

theorem token?_of_isSettled (h : call.isSettled = false) : call.token? = none := by
  unfold OperationCall.isSettled at h
  unfold OperationCall.token?
  cases hphase : call.phase <;> simp_all

theorem Chained.append (h : Chained calls) (operation : Operation) :
    Chained (calls ++ [⟨operation, .queued⟩]) := by
  intro i before after hbefore hafter hqueued
  have hlt : i + 1 < calls.length := by
    refine Nat.lt_of_le_of_ne ?_ ?_
    · have hlength := (List.getElem?_eq_some_iff.mp hafter).1
      simp only [List.length_append, List.length_singleton] at hlength
      omega
    · intro heq
      rw [heq, List.getElem?_concat_length] at hafter
      rw [← Option.some.inj hafter] at hqueued
      exact absurd hqueued (by simp [OperationCall.isQueued])
  rw [List.getElem?_append_left hlt] at hafter
  rw [List.getElem?_append_left (Nat.lt_of_succ_lt hlt)] at hbefore
  exact h i before after hbefore hafter hqueued

theorem getElem?_modify_phase (phase : OperationPhase) (j : Nat) :
    (calls.modify i fun call => { call with phase })[j]? =
      if i = j then calls[j]?.map fun call => { call with phase } else calls[j]? := by
  rw [List.getElem?_modify]
  split
  · rfl
  · simp

/-- An open call goes on. -/
theorem Chained.modify (h : Chained calls) (hcall : calls[i]? = some call)
    (hopen : call.isSettled = false)
    (hnext : ∀ (j : Nat) (before : OperationCall), i = j + 1 → calls[j]? = some before →
      before.isSettled = true) (phase : OperationPhase) :
    Chained (calls.modify i fun call => { call with phase }) := by
  intro j before after hbefore hafter hqueued
  rw [getElem?_modify_phase] at hbefore hafter
  by_cases hj : i = j
  · subst hj
    rw [if_neg (Nat.ne_of_lt (Nat.lt_succ_self i))] at hafter
    have := isQueued_of_lt h (Nat.lt_succ_self i) hcall hopen hafter
    exact absurd hqueued (by simp [this])
  · rw [if_neg hj] at hbefore
    by_cases hj' : i = j + 1
    · exact hnext j before hj' hbefore
    · rw [if_neg hj'] at hafter
      exact h j before after hbefore hafter hqueued

/-! ## Tokens -/

theorem filterMap_token?_of_isQueued {calls : List OperationCall}
    (h : ∀ call ∈ calls, call.isQueued = true) : calls.filterMap OperationCall.token? = [] := by
  refine List.filterMap_eq_nil_iff.mpr fun call hmem => ?_
  exact token?_of_isSettled (isSettled_of_isQueued (h call hmem))

theorem isQueued_of_mem_drop (h : Chained calls) (hcall : calls[i]? = some call)
    (hopen : call.isSettled = false) : ∀ later ∈ calls.drop (i + 1), later.isQueued = true := by
  intro later hmem
  obtain ⟨j, hj⟩ := List.getElem?_of_mem hmem
  rw [List.getElem?_drop] at hj
  exact isQueued_of_lt h (by omega) hcall hopen hj

/-- What is open or queued has returned no token. -/
theorem latestToken_take (h : Chained calls) (hcall : calls[i]? = some call)
    (hopen : call.isSettled = false) (acquired : Nat) :
    latestToken acquired (calls.take i) = latestToken acquired calls := by
  obtain ⟨hlt, rfl⟩ := List.getElem?_eq_some_iff.mp hcall
  have hsplit : calls = calls.take i ++ calls[i] :: calls.drop (i + 1) := by
    rw [← List.drop_eq_getElem_cons hlt, List.take_append_drop]
  have htokens : calls.filterMap OperationCall.token? =
      (calls.take i).filterMap OperationCall.token? := by
    conv_lhs => rw [hsplit]
    rw [List.filterMap_append, List.filterMap_cons_none (token?_of_isSettled hopen),
      filterMap_token?_of_isQueued (isQueued_of_mem_drop h hcall hopen), List.append_nil]
  unfold latestToken
  rw [htokens]

/-- The token of a call that goes on is the latest. -/
theorem latestToken_modify (h : Chained calls) (hcall : calls[i]? = some call)
    (hopen : call.isSettled = false) (acquired : Nat) (phase : OperationPhase) :
    latestToken acquired (calls.modify i fun call => { call with phase }) =
      (OperationCall.token? ⟨call.operation, phase⟩).getD (latestToken acquired calls) := by
  rw [← latestToken_take h hcall hopen acquired]
  obtain ⟨hlt, rfl⟩ := List.getElem?_eq_some_iff.mp hcall
  unfold latestToken
  rw [List.modify_eq_take_cons_drop hlt, List.filterMap_append, List.filterMap_cons,
    filterMap_token?_of_isQueued (isQueued_of_mem_drop h hcall hopen)]
  cases htoken : OperationCall.token? ⟨calls[i].operation, phase⟩ with
  | none => simp
  | some token => simp

/-! ## Steps -/

structure Sound (route : String) (acquired : Nat) (s : LeaseOperations) : Prop where
  chained : Chained s.calls
  route_eq : s.lease.route = route
  token : s.lease.currentToken = latestToken acquired s.calls
  closed : ∀ call ∈ s.calls, call.closes = true → call.isQueued = false → s.lease.closed = true
  outstanding : ∀ (i : Nat) (call : OperationCall), s.calls[i]? = some call →
    call.phase = .outstanding → ∃ request, (i, request) ∈ s.sent
  ordered : s.sent.Pairwise fun before after => before.1 < after.1
  carries : ∀ i request, (i, request) ∈ s.sent → ∃ call, s.calls[i]? = some call ∧
    call.isQueued = false ∧
    call.operation.request route (latestToken acquired (s.calls.take i)) = some request
  refused : ∀ (i j : Nat) (before after : OperationCall), i < j → s.calls[i]? = some before →
    s.calls[j]? = some after → before.closes = true → before.isQueued = false →
      after.isRefused = true ∧ ∀ request, (j, request) ∉ s.sent

variable {s : LeaseOperations} {route : String} {acquired : Nat}

theorem create_sound (route : String) (acquired : Nat) :
    (create route acquired).Sound route acquired := by
  refine ⟨?_, rfl, rfl, ?_, ?_, List.Pairwise.nil, ?_, ?_⟩ <;> simp [create, Chained]

/-- What has been sent belongs to a call before any that is queued. -/
theorem Sound.sent_lt (h : s.Sound route acquired) {request : LeaseRequest} {j : Nat}
    (hsent : (j, request) ∈ s.sent) (hcall : s.calls[i]? = some call)
    (hopen : call.isSettled = false) : j ≤ i := by
  obtain ⟨later, hlater, hqueued, -⟩ := h.carries j request hsent
  by_contra hlt
  have := isQueued_of_lt h.chained (Nat.lt_of_not_le hlt) hcall hopen hlater
  exact absurd hqueued (by simp [this])

theorem Sound.enqueue (h : s.Sound route acquired) (operation : Operation) :
    ({ s with calls := s.calls ++ [⟨operation, .queued⟩] } : LeaseOperations).Sound route
      acquired := by
  have hold : ∀ (j : Nat) (other : OperationCall),
      (s.calls ++ [⟨operation, .queued⟩])[j]? = some other → other.isQueued = false →
        s.calls[j]? = some other := by
    intro j other hother hqueued
    rw [List.getElem?_append] at hother
    split at hother
    · exact hother
    · rw [List.getElem?_singleton] at hother
      split at hother
      · rw [← Option.some.inj hother] at hqueued
        exact absurd hqueued (by simp [OperationCall.isQueued])
      · simp at hother
  have hlength : ∀ (j : Nat) request, (j, request) ∈ s.sent → j < s.calls.length := by
    intro j request hsent
    obtain ⟨other, hother, -⟩ := h.carries j request hsent
    exact (List.getElem?_eq_some_iff.mp hother).1
  refine ⟨h.chained.append operation, h.route_eq, ?_, ?_, ?_, h.ordered, ?_, ?_⟩
  · rw [h.token]
    simp [latestToken, OperationCall.token?]
  · intro other hmem hcloses hqueued
    rcases List.mem_append.mp hmem with hmem | hmem
    · exact h.closed other hmem hcloses hqueued
    · rw [List.mem_singleton.mp hmem] at hqueued
      exact absurd hqueued (by simp [OperationCall.isQueued])
  · intro j other hother hphase
    exact h.outstanding j other
      (hold j other hother (by simp [OperationCall.isQueued, hphase])) hphase
  · intro j request hsent
    obtain ⟨other, hother, hqueued, hrequest⟩ := h.carries j request hsent
    have hlt := hlength j request hsent
    refine ⟨other, (List.getElem?_append_left hlt).trans hother, hqueued, ?_⟩
    rwa [List.take_append_of_le_length (Nat.le_of_lt hlt)]
  · intro j k before after hlt hbefore hafter hcloses hqueued
    have hbefore' := hold j before hbefore hqueued
    cases hafterQueued : after.isQueued with
    | false =>
        have hafter' := hold k after hafter hafterQueued
        exact h.refused j k before after hlt hbefore' hafter' hcloses hqueued
    | true =>
        refine ⟨?_, fun request hsent => ?_⟩
        · unfold OperationCall.isQueued at hafterQueued
          simp [OperationCall.isRefused, decide_eq_true_eq.mp hafterQueued]
        · obtain ⟨other, hother, hotherQueued, -⟩ := h.carries k request hsent
          rw [List.getElem?_append_left (hlength k request hsent), hother] at hafter
          rw [Option.some.inj hafter, hafterQueued] at hotherQueued
          exact absurd hotherQueued (by simp)

/-- A call that is open goes on, with what that does to the handle. -/
theorem Sound.advance (h : s.Sound route acquired) (hcall : s.calls[i]? = some call)
    (hopen : call.isSettled = false) (hnext : s.isNext i = true ∨ call.isQueued = false)
    {phase : OperationPhase} (hphase : phase ≠ .queued) {lease : LeaseHandle}
    {sent : List (Nat × LeaseRequest)} (hroute : lease.route = s.lease.route)
    (htoken : lease.currentToken =
      (OperationCall.token? ⟨call.operation, phase⟩).getD s.lease.currentToken)
    (hclosed : s.lease.closed = true → lease.closed = true)
    (hcloses : OperationCall.closes ⟨call.operation, phase⟩ = true → lease.closed = true)
    (hsent : phase ≠ .outstanding ∧ sent = s.sent ∨
      call.isQueued = true ∧ s.lease.closed = false ∧ ∃ request, sent = s.sent ++ [(i, request)] ∧
        call.operation.request s.lease.route s.lease.currentToken = some request)
    (hrefused : s.lease.closed = true → call.isQueued = true → ∃ error, phase = .rejected error) :
    (setPhase { s with lease, sent } i phase).Sound route acquired := by
  have hphaseQueued : OperationCall.isQueued ⟨call.operation, phase⟩ = false := by
    simp [OperationCall.isQueued, hphase]
  have hlookup : ∀ (j : Nat) (other : OperationCall),
      (setPhase { s with lease, sent } i phase).calls[j]? = some other →
        i = j ∧ other = ⟨call.operation, phase⟩ ∨ i ≠ j ∧ s.calls[j]? = some other := by
    intro j other hother
    simp only [setPhase, getElem?_modify_phase] at hother
    split at hother
    case isTrue hij =>
      subst hij
      rw [hcall, Option.map_some] at hother
      exact Or.inl ⟨rfl, (Option.some.inj hother).symm⟩
    case isFalse hij => exact Or.inr ⟨hij, hother⟩
  have hself : (setPhase { s with lease, sent } i phase).calls[i]? =
      some ⟨call.operation, phase⟩ := by
    simp [setPhase, hcall]
  have htake : ∀ j, j ≤ i → (setPhase { s with lease, sent } i phase).calls.take j =
      s.calls.take j := by
    intro j hj
    refine List.ext_getElem? fun k => ?_
    simp only [setPhase, List.getElem?_take, getElem?_modify_phase]
    split
    case isTrue hk => rw [if_neg (by omega)]
    case isFalse => rfl
  have hmem : ∀ (j : Nat) (request : LeaseRequest), (j, request) ∈ sent →
      (j, request) ∈ s.sent ∨ j = i ∧ call.isQueued = true ∧ s.lease.closed = false ∧
        call.operation.request s.lease.route s.lease.currentToken = some request := by
    intro j request hj
    rcases hsent with ⟨-, rfl⟩ | ⟨hqueued, hfree, request', rfl, hrequest⟩
    · exact Or.inl hj
    · rcases List.mem_append.mp hj with hj | hj
      · exact Or.inl hj
      · obtain ⟨rfl, rfl⟩ := Prod.mk.inj (List.mem_singleton.mp hj)
        exact Or.inr ⟨rfl, hqueued, hfree, hrequest⟩
  have hsub : ∀ x ∈ s.sent, x ∈ sent := by
    intro x hx
    rcases hsent with ⟨-, rfl⟩ | ⟨-, -, request, rfl, -⟩
    · exact hx
    · exact List.mem_append_left _ hx
  refine ⟨?_, hroute.trans h.route_eq, ?_, ?_, ?_, ?_, ?_, ?_⟩
  · refine h.chained.modify hcall hopen ?_ phase
    rintro j before rfl hbefore
    rcases hnext with hnext | hqueued
    · simpa [isNext, hbefore] using hnext
    · exact h.chained j before call hbefore hcall hqueued
  · change lease.currentToken = _
    rw [htoken, h.token]
    exact (latestToken_modify h.chained hcall hopen acquired phase).symm
  · intro other hother hotherCloses hqueued
    obtain ⟨j, hj⟩ := List.getElem?_of_mem hother
    rcases hlookup j other hj with ⟨-, rfl⟩ | ⟨-, hold⟩
    · exact hcloses hotherCloses
    · exact hclosed (h.closed other (List.mem_of_getElem? hold) hotherCloses hqueued)
  · intro j other hother hotherPhase
    rcases hlookup j other hother with ⟨rfl, rfl⟩ | ⟨-, hold⟩
    · rcases hsent with ⟨hnot, -⟩ | ⟨-, -, request, rfl, -⟩
      · exact absurd hotherPhase hnot
      · exact ⟨request, by simp [setPhase]⟩
    · obtain ⟨request, hrequest⟩ := h.outstanding j other hold hotherPhase
      exact ⟨request, hsub _ hrequest⟩
  · rcases hsent with ⟨-, rfl⟩ | ⟨hqueued, -, request, rfl, -⟩
    · exact h.ordered
    · refine List.pairwise_append.mpr ⟨h.ordered, List.pairwise_singleton .., ?_⟩
      intro x hx y hy
      rw [List.mem_singleton.mp hy]
      have hpair : (x.1, x.2) ∈ s.sent := hx
      have hle := h.sent_lt hpair hcall hopen
      refine Nat.lt_of_le_of_ne hle ?_
      rintro heq
      obtain ⟨other, hother, hotherQueued, -⟩ := h.carries x.1 x.2 hx
      rw [heq, hcall] at hother
      rw [← Option.some.inj hother, hqueued] at hotherQueued
      exact absurd hotherQueued (by simp)
  · intro j request hj
    rcases hmem j request hj with hj | ⟨rfl, hqueued, -, hrequest⟩
    · obtain ⟨other, hother, hotherQueued, hrequest⟩ := h.carries j request hj
      have hle := h.sent_lt hj hcall hopen
      rw [htake j hle]
      by_cases hij : i = j
      · subst hij
        obtain rfl := Option.some.inj (hcall.symm.trans hother)
        exact ⟨_, hself, hphaseQueued, hrequest⟩
      · refine ⟨other, ?_, hotherQueued, hrequest⟩
        simpa [setPhase, getElem?_modify_phase, hij] using hother
    · refine ⟨_, hself, hphaseQueued, ?_⟩
      rw [htake j (Nat.le_refl j), latestToken_take h.chained hcall hopen, ← h.token, ← h.route_eq]
      exact hrequest
  · intro j k before after hlt hbefore hafter hbeforeCloses hbeforeQueued
    rcases hlookup j before hbefore with ⟨rfl, rfl⟩ | ⟨-, hbeforeOld⟩
    · -- what comes after a call that was open is queued
      rcases hlookup k after hafter with ⟨rfl, -⟩ | ⟨-, hafterOld⟩
      · exact absurd hlt (Nat.lt_irrefl _)
      · have hafterQueued := isQueued_of_lt h.chained hlt hcall hopen hafterOld
        refine ⟨?_, fun request hk => ?_⟩
        · unfold OperationCall.isQueued at hafterQueued
          simp [OperationCall.isRefused, decide_eq_true_eq.mp hafterQueued]
        · rcases hmem k request hk with hk | ⟨rfl, -⟩
          · exact absurd (h.sent_lt hk hcall hopen) (Nat.not_le_of_lt hlt)
          · exact absurd hlt (Nat.lt_irrefl _)
    · rcases hlookup k after hafter with ⟨rfl, rfl⟩ | ⟨hik, hafterOld⟩
      · have hleaseClosed :=
          h.closed before (List.mem_of_getElem? hbeforeOld) hbeforeCloses hbeforeQueued
        obtain ⟨hcallRefused, hcallSent⟩ :=
          h.refused j i before call hlt hbeforeOld hcall hbeforeCloses hbeforeQueued
        have hcallQueued : call.isQueued = true := by
          unfold OperationCall.isSettled at hopen
          unfold OperationCall.isRefused at hcallRefused
          unfold OperationCall.isQueued
          cases hcallPhase : call.phase <;> simp [hcallPhase] at hopen hcallRefused ⊢
        obtain ⟨error, rfl⟩ := hrefused hleaseClosed hcallQueued
        refine ⟨rfl, fun request hk => ?_⟩
        rcases hmem i request hk with hk | ⟨-, -, hfree, -⟩
        · exact hcallSent request hk
        · exact absurd hleaseClosed (by simp [hfree])
      · obtain ⟨hafterRefused, hafterSent⟩ :=
          h.refused j k before after hlt hbeforeOld hafterOld hbeforeCloses hbeforeQueued
        refine ⟨hafterRefused, fun request hk => ?_⟩
        rcases hmem k request hk with hk | ⟨rfl, -⟩
        · exact hafterSent request hk
        · exact hik rfl

theorem ensureOpen_eq (lease : LeaseHandle) :
    lease.ensureOpen = if lease.closed then .error closedError else .ok () := rfl

/-- A queued call has its turn. -/
theorem Sound.turn (h : s.Sound route acquired) (hcall : s.calls[i]? = some call)
    (hqueued : call.isQueued = true) (hnext : s.isNext i = true) :
    (s.turn i call.operation).Sound route acquired := by
  have hopen := isSettled_of_isQueued hqueued
  have hreject : ∀ (lease : LeaseHandle) (error : JsError), lease.route = s.lease.route →
      lease.currentToken = s.lease.currentToken → (s.lease.closed = true → lease.closed = true) →
      lease.closed = true →
      (setPhase { s with lease } i (.rejected error)).Sound route acquired := by
    intro lease error hroute htoken hclosed hnow
    exact h.advance hcall hopen (Or.inl hnext) (by simp) hroute htoken hclosed (fun _ => hnow)
      (Or.inl ⟨by simp, rfl⟩) fun _ _ => ⟨error, rfl⟩
  cases hoperation : call.operation with
  | extend ttlSeconds =>
      unfold LeaseOperations.turn
      rw [ensureOpen_eq]
      cases hclosed : s.lease.closed with
      | true =>
          exact hreject s.lease closedError rfl rfl id hclosed
      | false =>
          simp only [Bool.false_eq_true, if_false]
          cases ttlSeconds with
          | none => exact hreject _ ttlError rfl rfl (fun _ => rfl) rfl
          | some ttlSeconds =>
              simp only [LeaseHandle.extend_eq, hclosed, Bool.false_eq_true, if_false]
              refine h.advance hcall hopen (Or.inl hnext) (by simp) rfl rfl id ?_ (Or.inr ?_) ?_
              · simp [OperationCall.closes, hoperation]
              · refine ⟨hqueued, hclosed, _, rfl, ?_⟩
                simp [hoperation, Operation.request]
              · intro hyes
                exact absurd hyes (by simp [hclosed])
  | release =>
      unfold LeaseOperations.turn
      rw [LeaseHandle.release_eq]
      cases hclosed : s.lease.closed with
      | true => exact hreject s.lease closedError rfl rfl id hclosed
      | false =>
          simp only [Bool.false_eq_true, if_false]
          refine h.advance hcall hopen (Or.inl hnext) (by simp) rfl rfl (fun _ => rfl)
            (fun _ => rfl) (Or.inr ?_) ?_
          · refine ⟨hqueued, hclosed, _, rfl, ?_⟩
            simp [hoperation, Operation.request]
          · intro hyes
            exact absurd hyes (by simp [hclosed])

/-- The request of a call settles. -/
theorem Sound.settle (h : s.Sound route acquired) (hcall : s.calls[i]? = some call)
    (hphase : call.phase = .outstanding) (result : Except JsError Nat) :
    (s.settle i result call.operation).Sound route acquired := by
  have hopen := isSettled_of_outstanding hphase
  have hqueued : call.isQueued = false := by simp [OperationCall.isQueued, hphase]
  have hsettle : ∀ {phase : OperationPhase} {lease : LeaseHandle}, phase ≠ .queued →
      phase ≠ .outstanding → lease.route = s.lease.route →
      lease.currentToken =
        (OperationCall.token? ⟨call.operation, phase⟩).getD s.lease.currentToken →
      (s.lease.closed = true → lease.closed = true) →
      (OperationCall.closes ⟨call.operation, phase⟩ = true → lease.closed = true) →
      (setPhase { s with lease } i phase).Sound route acquired := by
    intro phase lease hne hne' hroute htoken hclosed hcloses
    exact h.advance hcall hopen (Or.inr hqueued) hne hroute htoken hclosed hcloses
      (Or.inl ⟨hne', rfl⟩) fun _ hyes => absurd hyes (by simp [hqueued])
  cases hoperation : call.operation with
  | extend ttlSeconds =>
      cases result with
      | ok token =>
          refine hsettle (by simp) (by simp) rfl rfl id ?_
          simp [OperationCall.closes, hoperation]
      | error error =>
          exact hsettle (by simp) (by simp) rfl rfl (fun _ => rfl) fun _ => rfl
  | release =>
      -- the handle has been closed at its turn
      have hclosed : s.lease.closed = true := by
        refine h.closed call (List.mem_of_getElem? hcall) ?_ hqueued
        simp [OperationCall.closes, hoperation]
      cases result with
      | ok token => exact hsettle (by simp) (by simp) rfl rfl id fun _ => hclosed
      | error error => exact hsettle (by simp) (by simp) rfl rfl id fun _ => hclosed

/-- One step. -/
theorem Sound.step (h : s.Sound route acquired) {s' : LeaseOperations} {e : OperationEvent}
    (hs : s.step e = some s') : s'.Sound route acquired := by
  cases e with
  | call operation => exact Option.some.inj hs ▸ h.enqueue operation
  | turn i =>
      simp only [LeaseOperations.step] at hs
      split at hs
      case h_1 call hcall =>
        obtain ⟨⟨hqueued, hnext⟩, heq⟩ := Option.ite_none_right_eq_some.mp hs
        exact Option.some.inj heq ▸ h.turn hcall hqueued hnext
      case h_2 => exact absurd hs (by simp)
  | settle i result =>
      simp only [LeaseOperations.step] at hs
      split at hs
      case h_1 call hcall =>
        obtain ⟨hphase, heq⟩ := Option.ite_none_right_eq_some.mp hs
        exact Option.some.inj heq ▸ h.settle hcall hphase result
      case h_2 => exact absurd hs (by simp)
  | disconnect => exact Option.some.inj hs ▸ { h with closed := fun _ _ _ _ => rfl }

theorem step_turn_eq (hcall : s.calls[i]? = some call) (hqueued : call.isQueued = true)
    (hnext : s.isNext i = true) : s.step (.turn i) = some (s.turn i call.operation) := by
  simp [step, hcall, hqueued, hnext]

theorem exists_turn (hcall : s.calls[i]? = some call) (hqueued : call.isQueued = true) :
    (∃ call ∈ s.calls, call.phase = .outstanding) ∨ ∃ i s', s.step (.turn i) = some s' := by
  induction i generalizing call with
  | zero => exact Or.inr ⟨0, _, step_turn_eq hcall hqueued rfl⟩
  | succ j ih =>
      have hj : j < s.calls.length := Nat.lt_of_succ_lt (List.getElem?_eq_some_iff.mp hcall).1
      have hbefore : s.calls[j]? = some s.calls[j] := List.getElem?_eq_getElem hj
      by_cases hbeforeQueued : s.calls[j].isQueued = true
      · exact ih hbefore hbeforeQueued
      · by_cases hbeforePhase : s.calls[j].phase = .outstanding
        · exact Or.inl ⟨_, List.getElem_mem hj, hbeforePhase⟩
        · refine Or.inr ⟨j + 1, _, step_turn_eq hcall hqueued ?_⟩
          simp only [OperationCall.isQueued, decide_eq_true_eq] at hbeforeQueued
          simp [isNext, hbefore, OperationCall.isSettled, hbeforeQueued, hbeforePhase]

theorem isRefused_of_isQueued (h : call.isQueued = true) : call.isRefused = true := by
  unfold OperationCall.isQueued at h
  simp [OperationCall.isRefused, decide_eq_true_eq.mp h]

theorem Sound.serialised (h : s.Sound route acquired) : s.Serialised route acquired where
  alone := by
    have hnot : ∀ {i j : Nat} {before after : OperationCall}, s.calls[i]? = some before →
        s.calls[j]? = some after → before.phase = .outstanding → after.phase = .outstanding →
        ¬ i < j := by
      intro i j before after hbefore hafter hbeforePhase hafterPhase hlt
      have hafterQueued : after.isQueued = false := by simp [OperationCall.isQueued, hafterPhase]
      have hsettled := isSettled_of_lt h.chained hlt hbefore hafter hafterQueued
      exact absurd hsettled (by simp [isSettled_of_outstanding hbeforePhase])
    intro i j before after hbefore hafter hbeforePhase hafterPhase
    rcases Nat.lt_trichotomy i j with hlt | heq | hlt
    · exact absurd hlt (hnot hbefore hafter hbeforePhase hafterPhase)
    · exact heq
    · exact absurd hlt (hnot hafter hbefore hafterPhase hbeforePhase)
  outstanding := h.outstanding
  ordered := h.ordered
  carries := by
    intro i request hsent
    obtain ⟨call, hcall, -, hrequest⟩ := h.carries i request hsent
    exact ⟨call, hcall, hrequest⟩
  refused := by
    intro i j before after hlt hbefore hafter hcloses
    cases hqueued : before.isQueued with
    | false => exact h.refused i j before after hlt hbefore hafter hcloses hqueued
    | true =>
        -- a release that has not had its turn holds up what comes after it
        have hopen := isSettled_of_isQueued hqueued
        refine ⟨isRefused_of_isQueued (isQueued_of_lt h.chained hlt hbefore hopen hafter), ?_⟩
        intro request hsent
        exact absurd (h.sent_lt hsent hbefore hopen) (Nat.not_le_of_lt hlt)
  served := by
    rintro ⟨call, hmem, hqueued⟩
    obtain ⟨i, hcall⟩ := List.getElem?_of_mem hmem
    exact exists_turn hcall hqueued

/-! ## A closed handle -/

theorem turn_of_closed (hclosed : s.lease.closed = true) (i : Nat) (operation : Operation) :
    s.turn i operation = s.setPhase i (.rejected closedError) := by
  cases operation with
  | extend ttlSeconds => simp [turn, ensureOpen_eq, hclosed]
  | release => simp [turn, LeaseHandle.release_eq, hclosed]

/-- What a call may become in a closed handle. -/
theorem Stays.setPhase {s₀ : LeaseOperations} (h : Stays s₀ s) {phase : OperationPhase}
    {lease : LeaseHandle}
    (hrefused : (∃ error, phase = .rejected error) ∨ ∀ call, s.calls[i]? = some call →
      call.isRefused = false) : Stays s₀ (setPhase { s with lease } i phase) := by
  refine ⟨h.sent, fun j call hcall hearlier => ?_⟩
  simp only [LeaseOperations.setPhase, getElem?_modify_phase] at hcall
  split at hcall
  case isTrue hij =>
    subst hij
    obtain ⟨before, hbefore, rfl⟩ := Option.map_eq_some_iff.mp hcall
    rcases hrefused with ⟨error, rfl⟩ | hnot
    · rfl
    · exact absurd (h.refused i before hbefore hearlier) (by simp [hnot before hbefore])
  case isFalse => exact h.refused j call hcall hearlier

theorem Stays.step {s₀ s' : LeaseOperations} {e : OperationEvent} (h : Stays s₀ s)
    (hclosed : s.lease.closed = true) (hs : s.step e = some s') :
    s'.lease.closed = true ∧ Stays s₀ s' := by
  cases e with
  | call operation =>
      obtain rfl := Option.some.inj hs
      refine ⟨hclosed, h.sent, fun i call hcall hearlier => ?_⟩
      rw [List.getElem?_append] at hcall
      split at hcall
      · exact h.refused i call hcall hearlier
      · rw [List.getElem?_singleton] at hcall
        split at hcall
        · exact Option.some.inj hcall ▸ rfl
        · simp at hcall
  | turn i =>
      simp only [LeaseOperations.step] at hs
      split at hs
      case h_1 call hcall =>
        obtain ⟨-, heq⟩ := Option.ite_none_right_eq_some.mp hs
        rw [turn_of_closed hclosed] at heq
        exact Option.some.inj heq ▸ ⟨hclosed, h.setPhase (Or.inl ⟨_, rfl⟩)⟩
      case h_2 => exact absurd hs (by simp)
  | settle i result =>
      simp only [LeaseOperations.step] at hs
      split at hs
      case h_1 call hcall =>
        obtain ⟨hphase, heq⟩ := Option.ite_none_right_eq_some.mp hs
        have hnot : ∀ other, s.calls[i]? = some other → other.isRefused = false := by
          intro other hother
          obtain rfl := Option.some.inj (hcall.symm.trans hother)
          simp [OperationCall.isRefused, hphase]
        have hextended : (s.lease.extended result).closed = true := by
          cases result with
          | ok token => exact hclosed
          | error error => rfl
        obtain rfl := Option.some.inj heq
        unfold LeaseOperations.settle
        split <;> split <;> exact ⟨by assumption, h.setPhase (Or.inr hnot)⟩
      case h_2 => exact absurd hs (by simp)
  | disconnect => exact Option.some.inj hs ▸ ⟨rfl, h.sent, h.refused⟩

/-- Once a handle is closed it sends no more. -/
theorem stays_of_closed {s₀ : LeaseOperations} {events : List OperationEvent}
    (hclosed : s₀.lease.closed = true)
    (hrun : (machine route acquired).runFrom s₀ events = some s) :
    Stays s₀ s := by
  have hstays : Stays s₀ s₀ :=
    ⟨rfl, fun i call hcall hearlier => isRefused_of_isQueued (hearlier call hcall)⟩
  have hinv : s.lease.closed = true ∧ Stays s₀ s := by
    refine Machine.invariant (I := fun s => s.lease.closed = true ∧ Stays s₀ s) ⟨hclosed, hstays⟩ ?_
      hrun
    intro s₁ e s₂ hI hs
    exact hI.2.step hI.1 hs
  exact hinv.2

end LeaseOperations

open LeaseOperations in
/-- A handle has one request outstanding at a time; its requests are made in call order, each with
the token of the last extension before it. After a failed extension, a release or a disconnect it
sends nothing, and all calls that have not been served are refused.

`sent` is what has been handed to `connection.request`, which may still keep it behind its own
gate. A call that is queued when the handle closes counts as refused from then on; its promise
rejects when its turn comes. -/
theorem lease_serialised {route : String} {token : Nat} {events : List OperationEvent}
    {s : LeaseOperations} (hrun : (machine route token).run events = some s) :
    s.Serialised route token ∧
      ∀ before after s₀, events = before ++ .disconnect :: after →
        (machine route token).run before = some s₀ → s₀.Stays s := by
  have hsound : s.Sound route token :=
    Machine.invariant (create_sound route token) (fun _ _ _ h hs => h.step hs) hrun
  refine ⟨hsound.serialised, ?_⟩
  rintro before after s₀ rfl hbefore
  obtain ⟨s₁, hs₁, hrest⟩ := Machine.runFrom_append.mp hrun
  obtain rfl := Option.some.inj (hbefore.symm.trans hs₁)
  obtain ⟨s₂, hdisconnect, hrest⟩ := Machine.runFrom_cons.mp hrest
  obtain rfl := Option.some.inj hdisconnect
  have hstays := stays_of_closed (LeaseHandle.disconnected_closed s₀.lease) hrest
  exact ⟨hstays.sent, hstays.refused⟩

open LeaseOperations in
/-- Two extensions, a release, and an extension that comes too late. -/
theorem lease_serialised_twice :
    ∃ s, (machine "lease://realm/area/resource" 1).run
        [.call (.extend (some 30)), .call (.extend (some 30)), .call .release,
          .call (.extend (some 30)), .turn 0, .settle 0 (.ok 5), .turn 1,
          .settle 1 (.ok 7), .turn 2,
          .settle 2 (.ok 0), .turn 3] = some s ∧
      s.Serialised "lease://realm/area/resource" 1 ∧
      s.sent = [(0, .renew "lease://realm/area/resource" 1 30),
        (1, .renew "lease://realm/area/resource" 5 30),
        (2, .release "lease://realm/area/resource" 7)] := by
  have hrun : ∃ s, (machine "lease://realm/area/resource" 1).run
        [.call (.extend (some 30)), .call (.extend (some 30)), .call .release,
          .call (.extend (some 30)), .turn 0, .settle 0 (.ok 5), .turn 1,
          .settle 1 (.ok 7), .turn 2,
          .settle 2 (.ok 0), .turn 3] = some s ∧
      s.sent = [(0, .renew "lease://realm/area/resource" 1 30),
        (1, .renew "lease://realm/area/resource" 5 30),
        (2, .release "lease://realm/area/resource" 7)] := ⟨_, rfl, rfl⟩
  obtain ⟨s, hrun, hsent⟩ := hrun
  exact ⟨s, hrun, (lease_serialised hrun).1, hsent⟩

end FitzTs.Lease
