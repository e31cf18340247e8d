import Mathlib.Data.List.Infix
import Mathlib.Data.List.Nodup
import FitzTs.Lib.Machine
import FitzTs.Domains.Rpc.Iterator
/-!
# FitzTs.Domains.Rpc.NextCalls

`createRpcIterator` of `domains/rpc/iterator.ts` once more, with the promise of each `next` and the
promise of the cancellation. `RpcIterator` shows what one reader sees; here any number of calls may
overlap, `fail` may be given anything, and the abort of the signal comes apart from its listener.

Calls of `next` are numbered. `received` and `termination` only record what has happened: the frames
that were pushed while the iterator was live, and what has ended it.

## Main results

* `Sound.step` — what every step keeps: no call settles twice, frames go to later and later calls in
  the order in which they were pushed, and the promise of the cancellation settles once.
* `view_run` — with one reader in mind, this is `RpcIterator`.
-/

namespace FitzTs.Rpc

/-- What may be given to `fail`. -/
inductive Reason
  | undefined
  | error (error : CallError)
  /-- Anything else that is no `Error`. -/
  | other (identity : Nat)
  deriving DecidableEq, Repr

/-- `reason instanceof Error && reason.name === "AbortError"`. -/
def Reason.isAbort : Reason → Bool
  | .error e => e.isAbort
  | _ => false

/-- How a promise of `next` settles. -/
inductive NextResult
  | value (frame : ResponseFrame)
  | done
  | thrown (reason : Reason)
  deriving DecidableEq, Repr

/-- The reason, if it is an `Error`. -/
def Reason.toError : Reason → Option CallError
  | .error e => some e
  | _ => none

/-- The result for a reader of `RpcIterator`, to whom only an `Error` is thrown. -/
def NextResult.view : NextResult → IteratorResult
  | .value frame => .value frame
  | .done => .done
  | .thrown reason => reason.toError.elim .done .thrown

inductive RpcCancellationOutcome
  | notRequested
  | requestNotSent
  | unsupported
  | queuedRemoved
  | forwarded
  | workerUnsupported
  | alreadyTerminal
  | unknownOrUnauthorized
  | forwardingFailed
  | unconfirmed
  | connectionClosed
  deriving DecidableEq, Repr

/-- What has terminated an iterator. -/
inductive Termination
  | ended
  | failed (reason : Reason)
  /-- By the signal, by `return` or by the deadline. -/
  | cancelled (reason : Reason)
  deriving DecidableEq, Repr

/-- What `next` gives after the last frame. -/
def Termination.result : Termination → NextResult
  | ended => .done
  | failed reason | cancelled reason => .thrown reason

structure NextCalls where
  buffer : List ResponseFrame := []
  done : Bool := false
  failureReason : Reason := .undefined
  /-- The call that `resolveNext` and `rejectNext` belong to. -/
  waiter : Option Nat := none
  /-- The call whose rejection `fail` has put off. -/
  rejecting : Option (Nat × Reason) := none
  cancellationRequested : Bool := false
  cancellationSettled : Bool := false
  /-- `signal.aborted`; `none` without a signal. -/
  signal : Option Bool := none
  /-- The promise of `abandon` is pending. -/
  abandoning : Bool := false
  /-- What `resolveCancellation` has been called with. -/
  cancellations : List RpcCancellationOutcome := []
  /-- How many calls of `next` there have been. -/
  calls : Nat := 0
  /-- The calls that have settled, in that order. -/
  settled : List (Nat × NextResult) := []
  /-- The frames that were pushed before the iterator terminated. -/
  received : List ResponseFrame := []
  termination : Option Termination := none
  deriving DecidableEq

inductive NextEvent
  | push (frame : ResponseFrame)
  | end'
  | fail (reason : Reason)
  /-- `rejectWithCurrentSignalState` runs. -/
  | reject
  /-- The timer fires. -/
  | deadline
  /-- The signal aborts. -/
  | abort
  /-- `handleAbort` runs. -/
  | handleAbort
  | next
  | return'
  /-- The promise of `abandon` settles; `none` if it rejects. -/
  | abandoned (outcome : Option RpcCancellationOutcome)
  deriving DecidableEq

namespace NextCalls

def settle (s : NextCalls) (call : Nat) (result : NextResult) : NextCalls :=
  { s with settled := s.settled ++ [(call, result)] }

/-- `resolveNext` or `rejectNext`, if it is set; `clearPendingWait`. -/
def settleWait (s : NextCalls) (result : NextResult) : NextCalls :=
  match s.waiter with
  | some call => { s with waiter := none }.settle call result
  | none => s

/-- `settleCancellation(outcome)`. -/
def settleCancellation (s : NextCalls) (outcome : RpcCancellationOutcome) : NextCalls :=
  if s.cancellationSettled then s
  else { s with cancellationSettled := true, cancellations := s.cancellations ++ [outcome] }

/-- `cancel(reason, error)`. -/
def cancel (s : NextCalls) (error : Reason) : NextCalls :=
  if s.done || s.cancellationRequested then s
  else
    { s with
      cancellationRequested := true
      done := true
      buffer := []
      failureReason := error
      abandoning := true
      termination := some (.cancelled error) }.settleWait (.thrown error)

/-- `abortError()`. -/
def abortError : Reason := .error aborted

def push (s : NextCalls) (frame : ResponseFrame) : NextCalls :=
  if s.done then s
  else
    let s := { s with received := s.received ++ [frame] }
    match s.waiter with
    | some _ => s.settleWait (.value frame)
    | none => { s with buffer := s.buffer ++ [frame] }

def end' (s : NextCalls) : NextCalls :=
  let s := if s.cancellationRequested then s else s.settleCancellation .notRequested
  { s with done := true, termination := s.termination.or (some .ended) }.settleWait .done

def fail (s : NextCalls) (reason : Reason) : NextCalls :=
  if s.done then s
  else
    let s := { s with
      done := true
      failureReason := reason
      termination := some (.failed reason) }.settleCancellation .notRequested
    { s with waiter := none, rejecting := s.waiter.map fun call => (call, reason) }

/-- `rejectWithCurrentSignalState()`. -/
def reject (s : NextCalls) : Option NextCalls :=
  s.rejecting.map fun (call, reason) =>
    { s with rejecting := none }.settle call
      (.thrown (if s.signal = some true then abortError else reason))

def next (s : NextCalls) : NextCalls :=
  let call := s.calls
  let s := { s with calls := s.calls + 1 }
  if !s.done && s.signal = some true then
    let s := s.cancel abortError
    s.settle call (.thrown s.failureReason)
  else if s.failureReason.isAbort then s.settle call (.thrown s.failureReason)
  else
    match s.buffer with
    | value :: buffer => { s with buffer }.settle call (.value value)
    | [] =>
      if s.failureReason ≠ .undefined then s.settle call (.thrown s.failureReason)
      else if s.done then s.settle call .done
      else { s with waiter := some call }

def return' (s : NextCalls) : NextCalls := if s.done then s else s.cancel abortError

/-- `createRpcIterator`. -/
def create (signal : Option Bool) : NextCalls :=
  if signal = some true then ({ signal } : NextCalls).cancel abortError else { signal }

/-- The outcome of a cancellation is never `not_requested`: no path of `abandon` gives that. -/
def step (s : NextCalls) : NextEvent → Option NextCalls
  | .push frame => some (s.push frame)
  | .end' => some s.end'
  | .fail reason => some (s.fail reason)
  | .reject => s.reject
  | .deadline => some (s.cancel (.error timedOut))
  | .abort => if s.signal.isSome then some { s with signal := some true } else none
  | .handleAbort => if s.signal = some true then some (s.cancel abortError) else none
  | .next => some s.next
  | .return' => some s.return'
  | .abandoned outcome =>
    if s.abandoning ∧ outcome ≠ some .notRequested then
      some ({ s with abandoning := false }.settleCancellation (outcome.getD .unconfirmed))
    else none

def machine (signal : Option Bool) : Machine NextCalls NextEvent where
  init := create signal
  step := step

/-! ## What is promised -/

/-- The frames delivered, with their calls. -/
def deliveries (s : NextCalls) : List (Nat × ResponseFrame) :=
  s.settled.filterMap fun (call, result) =>
    match result with
    | .value frame => some (call, frame)
    | _ => none

/-- What holds in any case. -/
structure Keeps (s : NextCalls) : Prop where
  /-- No call settles twice. -/
  once : (s.settled.map Prod.fst).Nodup ∧ ∀ x ∈ s.settled, x.1 < s.calls
  /-- Later frames go to later calls. -/
  ordered : s.deliveries.Pairwise fun before after => before.1 < after.1
  /-- What is delivered was pushed before the end, in that order. -/
  delivered : s.deliveries.map Prod.snd <+: s.received
  cancellations_le : s.cancellations.length ≤ 1
  notRequested : ∀ outcome ∈ s.cancellations,
    outcome = .notRequested ↔ s.cancellationRequested = false
  /-- A call that was not cancelled says so in the end. -/
  finished : s.done = true → s.cancellationRequested = false → s.cancellations = [.notRequested]

/-! ## What is in order in any case -/

structure Sound (s : NextCalls) : Prop where
  /-- Nothing has happened yet to an iterator that is not done. -/
  live : s.done = false → s.failureReason = .undefined ∧ s.rejecting = none ∧
    s.cancellationRequested = false ∧ s.cancellationSettled = false ∧ s.termination = none
  terminated : s.done = true → s.termination.isSome = true
  waiter : ∀ call, s.waiter = some call → s.done = false ∧ s.buffer = [] ∧ call + 1 = s.calls
  rejecting : ∀ call reason, s.rejecting = some (call, reason) → call < s.calls
  settled_lt : ∀ x ∈ s.settled, x.1 < s.calls
  /-- Who waits has not settled. -/
  open' : ∀ x ∈ s.settled, s.waiter ≠ some x.1 ∧ ∀ reason, s.rejecting ≠ some (x.1, reason)
  nodup : (s.settled.map Prod.fst).Nodup
  ordered : s.deliveries.Pairwise fun before after => before.1 < after.1
  received : s.cancellationRequested = false → s.received = s.deliveries.map Prod.snd ++ s.buffer
  discarded : s.cancellationRequested = true →
    s.buffer = [] ∧ s.done = true ∧ s.deliveries.map Prod.snd <+: s.received
  cancellations : s.cancellations.length = if s.cancellationSettled then 1 else 0
  notRequested : ∀ outcome ∈ s.cancellations,
    outcome = .notRequested ↔ s.cancellationRequested = false
  finished : s.done = true → s.cancellationRequested = false → s.cancellationSettled = true
  abandoning : s.abandoning = true → s.cancellationRequested = true

variable {s : NextCalls}

/-- Only a frame is a delivery. -/
theorem deliveries_settle (call : Nat) (result : NextResult) :
    (s.settle call result).deliveries = s.deliveries ++
      match result with
      | .value frame => [(call, frame)]
      | _ => [] := by
  cases result <;> simp [deliveries, settle, List.filterMap_append]

theorem mem_deliveries {x : Nat × ResponseFrame} (h : x ∈ s.deliveries) :
    (x.1, .value x.2) ∈ s.settled := by
  obtain ⟨⟨call, result⟩, hmem, heq⟩ := List.mem_filterMap.mp h
  cases result with
  | value frame =>
      obtain rfl := Option.some.inj heq
      exact hmem
  | done | thrown reason => simp at heq

/-- An iterator that is cancelled is done. -/
theorem cancellations_of_live (h : s.Sound) (hdone : s.done = false) : s.cancellations = [] := by
  have hlength := h.cancellations
  rw [(h.live hdone).2.2.2.1] at hlength
  simpa using hlength

theorem create_sound (signal : Option Bool) : (create signal).Sound := by
  unfold create
  split
  case isTrue =>
    refine ⟨?_, ?_, ?_, ?_, ?_, ?_, ?_, ?_, ?_, ?_, ?_, ?_, ?_, ?_⟩ <;>
      simp [cancel, settleWait, deliveries]
  case isFalse =>
    refine ⟨?_, ?_, ?_, ?_, ?_, ?_, ?_, ?_, ?_, ?_, ?_, ?_, ?_, ?_⟩ <;> simp [deliveries]

/-- Nobody waits any more. -/
theorem Sound.unwait (h : s.Sound) : ({ s with waiter := none } : NextCalls).Sound :=
  { h with
    waiter := fun _ hwaiter => (nomatch hwaiter)
    open' := fun x hmem => ⟨fun hwaiter => (nomatch hwaiter), (h.open' x hmem).2⟩ }

/-- One more call, while no other waits. -/
theorem Sound.count (h : s.Sound) (hwaiter : s.waiter = none) :
    ({ s with calls := s.calls + 1 } : NextCalls).Sound :=
  { h with
    waiter := fun call hcall => absurd (hwaiter.symm.trans hcall) (by simp)
    rejecting := fun call reason hcall => Nat.lt_succ_of_lt (h.rejecting call reason hcall)
    settled_lt := fun x hmem => Nat.lt_succ_of_lt (h.settled_lt x hmem) }

/-- A promise that has not been settled yet settles for the first time. -/
theorem nodup_settle {call : Nat} {result : NextResult} (h : (s.settled.map Prod.fst).Nodup)
    (hnew : ∀ x ∈ s.settled, x.1 ≠ call) :
    ((s.settle call result).settled.map Prod.fst).Nodup := by
  have hnodup : (s.settled.map Prod.fst ++ [call]).Nodup := by
    refine List.nodup_append.mpr ⟨h, List.nodup_singleton _, ?_⟩
    intro other hother last hlast
    obtain ⟨x, hx, rfl⟩ := List.mem_map.mp hother
    exact List.mem_singleton.mp hlast ▸ hnew x hx
  simpa [settle] using hnodup

/-- A call settles, with no frame. -/
theorem Sound.settle (h : s.Sound) {call : Nat} {result : NextResult} (hlt : call < s.calls)
    (hnew : ∀ x ∈ s.settled, x.1 ≠ call) (hwaiter : s.waiter ≠ some call)
    (hrejecting : ∀ reason, s.rejecting ≠ some (call, reason))
    (hresult : ∀ frame, result ≠ .value frame) : (s.settle call result).Sound := by
  have hdeliveries : (s.settle call result).deliveries = s.deliveries := by
    rw [deliveries_settle]
    cases result with
    | value frame => exact absurd rfl (hresult frame)
    | done | thrown reason => exact List.append_nil _
  refine { h with
    settled_lt := ?_, open' := ?_, nodup := ?_, ordered := ?_, received := ?_, discarded := ?_ }
  · intro x hmem
    rcases List.mem_append.mp hmem with hmem | hmem
    · exact h.settled_lt x hmem
    · exact List.mem_singleton.mp hmem ▸ hlt
  · intro x hmem
    rcases List.mem_append.mp hmem with hmem | hmem
    · exact h.open' x hmem
    · exact List.mem_singleton.mp hmem ▸ ⟨hwaiter, hrejecting⟩
  · exact nodup_settle h.nodup hnew
  · rw [hdeliveries]
    exact h.ordered
  · rw [hdeliveries]
    exact h.received
  · rw [hdeliveries]
    exact h.discarded

/-- The last call is given the oldest frame that has not been delivered. -/
theorem Sound.deliver (h : s.Sound) {call : Nat} {frame : ResponseFrame}
    {received buffer : List ResponseFrame} (hlast : call + 1 = s.calls)
    (hnew : ∀ x ∈ s.settled, x.1 ≠ call) (hwaiter : s.waiter = none)
    (hrejecting : ∀ reason, s.rejecting ≠ some (call, reason))
    (hcancelled : s.cancellationRequested = false)
    (hreceived : received = s.deliveries.map Prod.snd ++ frame :: buffer) :
    (NextCalls.settle { s with received, buffer } call (.value frame)).Sound := by
  have hdeliveries : (NextCalls.settle { s with received, buffer } call (.value frame)).deliveries =
      s.deliveries ++ [(call, frame)] := deliveries_settle call _
  refine { h with
    waiter := ?_, settled_lt := ?_, open' := ?_, nodup := ?_, ordered := ?_, received := ?_,
    discarded := ?_ }
  · intro other hother
    exact absurd (hwaiter.symm.trans hother) (by simp)
  · intro x hmem
    rcases List.mem_append.mp hmem with hmem | hmem
    · exact h.settled_lt x hmem
    · exact List.mem_singleton.mp hmem ▸ hlast ▸ Nat.lt_succ_self call
  · intro x hmem
    rcases List.mem_append.mp hmem with hmem | hmem
    · exact h.open' x hmem
    · refine List.mem_singleton.mp hmem ▸ ⟨fun hcall => ?_, hrejecting⟩
      exact absurd (hwaiter.symm.trans hcall) (by simp)
  · exact nodup_settle h.nodup hnew
  · rw [hdeliveries]
    refine List.pairwise_append.mpr ⟨h.ordered, List.pairwise_singleton .., ?_⟩
    intro x hx y hy
    rw [List.mem_singleton.mp hy]
    have hsettled := mem_deliveries hx
    have hlt : x.1 < s.calls := h.settled_lt _ hsettled
    have hne : x.1 ≠ call := hnew _ hsettled
    simp only
    omega
  · intro _
    rw [hdeliveries]
    simp only [NextCalls.settle, List.map_append, List.map_cons, List.map_nil, List.append_assoc,
      List.singleton_append]
    exact hreceived
  · intro hyes
    exact absurd hyes (by simp [NextCalls.settle, hcancelled])

/-- The call that waits settles, with no frame. -/
theorem Sound.settleWait (h : s.Sound) {result : NextResult} (hdone : s.done = true)
    {waiter : Option Nat} (hnew : ∀ call, waiter = some call → call < s.calls ∧
      (∀ x ∈ s.settled, x.1 ≠ call) ∧ ∀ reason, s.rejecting ≠ some (call, reason))
    (hresult : ∀ frame, result ≠ .value frame) :
    (NextCalls.settleWait { s with waiter } result).Sound := by
  have hwaiter : s.waiter = none := by
    cases hwaiter : s.waiter with
    | none => rfl
    | some call => exact absurd (h.waiter call hwaiter).1 (by simp [hdone])
  have hsame : { s with waiter := none } = s := by rw [← hwaiter]
  cases waiter with
  | none =>
      change ({ s with waiter := none } : NextCalls).Sound
      rwa [hsame]
  | some call =>
      obtain ⟨hlt, hfresh, hrejecting⟩ := hnew call rfl
      change (NextCalls.settle { s with waiter := none } call result).Sound
      rw [hsame]
      exact h.settle hlt hfresh (by simp [hwaiter]) hrejecting hresult

/-- Who waits is the last call, and has not settled. -/
theorem Sound.waits (h : s.Sound) {call : Nat} (hwaiter : s.waiter = some call) :
    call < s.calls ∧ (∀ x ∈ s.settled, x.1 ≠ call) ∧
      ∀ reason, s.rejecting ≠ some (call, reason) := by
  obtain ⟨hdone, -, hlast⟩ := h.waiter call hwaiter
  refine ⟨Nat.lt_of_succ_le hlast.le, fun x hmem heq => ?_, ?_⟩
  · exact (h.open' x hmem).1 (heq ▸ hwaiter)
  · simp [(h.live hdone).2.1]

/-- Nobody waits at an iterator that is done. -/
theorem Sound.waiter_eq_none (h : s.Sound) (hdone : s.done = true) : s.waiter = none := by
  cases hwaiter : s.waiter with
  | none => rfl
  | some call => exact absurd (h.waiter call hwaiter).1 (by simp [hdone])

/-- A call waits on an empty buffer. -/
theorem Sound.waiter_eq_none_of_buffer (h : s.Sound) {value : ResponseFrame}
    {buffer : List ResponseFrame} (hbuffer : s.buffer = value :: buffer) : s.waiter = none := by
  cases hwaiter : s.waiter with
  | none => rfl
  | some call => exact absurd (hbuffer.symm.trans (h.waiter call hwaiter).2.1) (by simp)

/-- A failure ends the iterator. -/
theorem Sound.done_of_reason (h : s.Sound) (hreason : s.failureReason ≠ .undefined) :
    s.done = true := by
  cases hdone : s.done with
  | true => rfl
  | false => exact absurd (h.live hdone).1 hreason

theorem settleWait_of_none (hwaiter : s.waiter = none) (result : NextResult) :
    s.settleWait result = s := by
  simp [settleWait, hwaiter]

/-- `cancel` as one update: the buffer goes, and whoever waits is told. -/
theorem Sound.cancel_eq (h : s.Sound) (error : Reason) : s.cancel error =
    if s.done then s
    else
      { s with
        cancellationRequested := true
        done := true
        buffer := []
        failureReason := error
        abandoning := true
        termination := some (.cancelled error) }.settleWait (.thrown error) := by
  unfold NextCalls.cancel
  cases hdone : s.done with
  | true => simp
  | false => simp [(h.live hdone).2.2.1]

theorem Sound.cancel (h : s.Sound) (error : Reason) : (s.cancel error).Sound := by
  rw [h.cancel_eq]
  split
  case isTrue => exact h
  case isFalse hnot =>
    have hdone : s.done = false := Bool.not_eq_true _ ▸ hnot
    obtain ⟨-, hrejecting, hrequested, -, -⟩ := h.live hdone
    have hcancelled : Sound { s with
        cancellationRequested := true
        done := true
        buffer := []
        failureReason := error
        abandoning := true
        waiter := none
        termination := some (.cancelled error) } :=
      { h.unwait with
        live := fun hlive => (nomatch hlive)
        terminated := fun _ => rfl
        waiter := fun _ hwaiter => (nomatch hwaiter)
        received := fun hnone => (nomatch hnone)
        discarded := fun _ => ⟨rfl, rfl, by
          rw [h.received hrequested]
          exact List.prefix_append _ _⟩
        notRequested := by simp [cancellations_of_live h hdone]
        finished := fun _ hnone => (nomatch hnone)
        abandoning := fun _ => rfl }
    exact hcancelled.settleWait rfl (fun call hwaiter => h.waits hwaiter) (by simp)

/-- A frame goes to whoever waits, and to the buffer if nobody does. -/
theorem Sound.push (h : s.Sound) (frame : ResponseFrame) : (s.push frame).Sound := by
  unfold NextCalls.push
  split
  case isTrue => exact h
  case isFalse hnot =>
    have hdone : s.done = false := Bool.not_eq_true _ ▸ hnot
    obtain ⟨-, -, hrequested, -, -⟩ := h.live hdone
    have hreceived := h.received hrequested
    cases hwaiter : s.waiter with
    -- the frame goes past the empty buffer
    | some call =>
        obtain ⟨-, hbuffer, hlast⟩ := h.waiter call hwaiter
        obtain ⟨-, hfresh, hrejecting⟩ := h.waits hwaiter
        have hdelivered : (NextCalls.settle { s with
            waiter := none
            received := s.deliveries.map Prod.snd ++ frame :: s.buffer } call
            (.value frame)).Sound :=
          h.unwait.deliver hlast hfresh rfl hrejecting hrequested rfl
        have heq : s.received ++ [frame] = s.deliveries.map Prod.snd ++ frame :: s.buffer := by
          rw [hreceived, hbuffer, List.append_nil]
        simp only [heq]
        exact hdelivered
    | none =>
        change Sound { s with
          received := s.received ++ [frame], waiter := none, buffer := s.buffer ++ [frame] }
        refine { h.unwait with waiter := ?_, received := ?_, discarded := ?_ }
        · exact fun _ hcall => (nomatch hcall)
        · intro _
          change s.received ++ [frame] = s.deliveries.map Prod.snd ++ (s.buffer ++ [frame])
          rw [hreceived, List.append_assoc]
        · intro hyes
          exact absurd hyes (by simp [hrequested])

/-- `end` as one update. -/
theorem Sound.end'_eq (h : s.Sound) : s.end' =
    if s.done then s
    else
      { s with
        cancellationSettled := true
        cancellations := [.notRequested]
        done := true
        termination := some .ended }.settleWait .done := by
  unfold NextCalls.end'
  cases hdone : s.done with
  | true =>
      have hsettled : (if s.cancellationRequested then s
          else s.settleCancellation .notRequested) = s := by
        split
        case isTrue => rfl
        case isFalse hnot =>
          simp [settleCancellation, h.finished hdone (Bool.not_eq_true _ ▸ hnot)]
      obtain ⟨termination, htermination⟩ := Option.isSome_iff_exists.mp (h.terminated hdone)
      simp only [hsettled, htermination, Option.some_or, if_true]
      rw [← hdone, ← htermination]
      exact settleWait_of_none (h.waiter_eq_none hdone) _
  | false =>
      obtain ⟨-, -, hrequested, hsettled, htermination⟩ := h.live hdone
      simp [hrequested, settleCancellation, hsettled, htermination, cancellations_of_live h hdone]

/-- Whoever waits when the stream ends gets no frame. -/
theorem Sound.end' (h : s.Sound) : s.end'.Sound := by
  rw [h.end'_eq]
  split
  case isTrue => exact h
  case isFalse hnot =>
    have hdone : s.done = false := Bool.not_eq_true _ ▸ hnot
    obtain ⟨-, -, hrequested, -, -⟩ := h.live hdone
    have hended : Sound { s with
        cancellationSettled := true
        cancellations := [.notRequested]
        done := true
        waiter := none
        termination := some .ended } :=
      { h.unwait with
        live := fun hlive => (nomatch hlive)
        terminated := fun _ => rfl
        waiter := fun _ hwaiter => (nomatch hwaiter)
        discarded := fun hyes => absurd hyes (by simp [hrequested])
        cancellations := rfl
        notRequested := by simp [hrequested]
        finished := fun _ _ => rfl }
    exact hended.settleWait rfl (fun call hwaiter => h.waits hwaiter) (by simp)

/-- `fail` as one update: what is in the buffer stays there. -/
theorem Sound.fail_eq (h : s.Sound) (reason : Reason) : s.fail reason =
    if s.done then s
    else
      { s with
        cancellationSettled := true
        cancellations := [.notRequested]
        done := true
        failureReason := reason
        waiter := none
        rejecting := s.waiter.map fun call => (call, reason)
        termination := some (.failed reason) } := by
  unfold NextCalls.fail
  cases hdone : s.done with
  | true => simp
  | false =>
      obtain ⟨-, -, -, hsettled, -⟩ := h.live hdone
      simp [settleCancellation, hsettled, cancellations_of_live h hdone]

theorem Sound.fail (h : s.Sound) (reason : Reason) : (s.fail reason).Sound := by
  rw [h.fail_eq]
  split
  case isTrue => exact h
  case isFalse hnot =>
    have hdone : s.done = false := Bool.not_eq_true _ ▸ hnot
    obtain ⟨-, -, hrequested, -, -⟩ := h.live hdone
    have hrejecting : ∀ call other, (s.waiter.map fun call => (call, reason)) = some (call, other) →
        s.waiter = some call := by
      intro call other heq
      obtain ⟨waiter, hwaiter, hpair⟩ := Option.map_eq_some_iff.mp heq
      exact (Prod.mk.inj hpair).1 ▸ hwaiter
    exact
      { h.unwait with
        live := fun hlive => (nomatch hlive)
        terminated := fun _ => rfl
        waiter := fun _ hwaiter => (nomatch hwaiter)
        rejecting := fun call other heq => (h.waits (hrejecting call other heq)).1
        open' := fun x hmem => ⟨fun hwaiter => (nomatch hwaiter), fun other heq =>
          (h.open' x hmem).1 (hrejecting x.1 other heq)⟩
        discarded := fun hyes => absurd hyes (by simp [hrequested])
        cancellations := rfl
        notRequested := by simp [hrequested]
        finished := fun _ _ => rfl }

theorem Sound.reject (h : s.Sound) {s' : NextCalls} (hs : s.reject = some s') : s'.Sound := by
  obtain ⟨⟨call, reason⟩, hrejecting, rfl⟩ := Option.map_eq_some_iff.mp hs
  have hdone : s.done = true := by
    cases hdone : s.done with
    | true => rfl
    | false => exact absurd hrejecting (by simp [(h.live hdone).2.1])
  have hsame : Sound { s with rejecting := none } :=
    { h with
      live := fun hlive => absurd hlive (by simp [hdone])
      rejecting := fun _ _ hnone => (nomatch hnone)
      open' := fun x hmem => ⟨(h.open' x hmem).1, fun _ hnone => (nomatch hnone)⟩ }
  refine hsame.settle (h.rejecting call reason hrejecting) ?_ ?_ (fun _ hnone => (nomatch hnone))
    (by simp)
  · intro x hmem heq
    exact (h.open' x hmem).2 reason (heq ▸ hrejecting)
  · simp [h.waiter_eq_none hdone]

theorem cancel_calls (error : Reason) (calls : Nat) :
    ({ s with calls } : NextCalls).cancel error = { s.cancel error with calls } := by
  unfold NextCalls.cancel
  cases hover : s.done || s.cancellationRequested with
  | true => simp
  | false => cases hwaiter : s.waiter <;> simp [settleWait, NextCalls.settle]

theorem Sound.cancel_done (h : s.Sound) (error : Reason) : (s.cancel error).done = true := by
  rw [h.cancel_eq]
  split
  case isTrue hdone => exact hdone
  case isFalse =>
    unfold NextCalls.settleWait
    split <;> rfl

theorem Sound.cancel_calls_eq (h : s.Sound) (error : Reason) :
    (s.cancel error).calls = s.calls := by
  rw [h.cancel_eq]
  split
  case isTrue => rfl
  case isFalse =>
    unfold NextCalls.settleWait
    split <;> rfl

/-- A new call on an iterator that is done is answered at once. -/
theorem Sound.answer (h : s.Sound) (hdone : s.done = true) {result : NextResult}
    (hresult : ∀ frame, result ≠ .value frame) :
    (NextCalls.settle { s with calls := s.calls + 1 } s.calls result).Sound := by
  have hwaiter := h.waiter_eq_none hdone
  refine (h.count hwaiter).settle (Nat.lt_succ_self _) ?_ (by simp [hwaiter]) ?_ hresult
  · exact fun x hmem => Nat.ne_of_lt (h.settled_lt x hmem)
  · exact fun reason heq => Nat.lt_irrefl _ (h.rejecting _ _ heq)

/-- `next` gives the end, the oldest frame, or a promise to wait with. -/
theorem Sound.next (h : s.Sound) : s.next.Sound := by
  have hfresh : ∀ x ∈ s.settled, x.1 ≠ s.calls :=
    fun x hmem => Nat.ne_of_lt (h.settled_lt x hmem)
  unfold NextCalls.next
  dsimp only
  split
  -- the signal has been aborted in the meantime
  case isTrue =>
    rw [cancel_calls]
    have hcalls := h.cancel_calls_eq abortError
    have hcancelled : (NextCalls.settle
        { s.cancel abortError with calls := (s.cancel abortError).calls + 1 }
        (s.cancel abortError).calls (.thrown (s.cancel abortError).failureReason)).Sound :=
      (h.cancel abortError).answer (h.cancel_done abortError) (by simp)
    rwa [hcalls] at hcancelled
  case isFalse =>
    split
    case isTrue habort =>
      refine h.answer (h.done_of_reason fun hundefined => ?_) (by simp)
      rw [hundefined] at habort
      exact absurd habort (by simp [Reason.isAbort])
    case isFalse =>
      split
      -- the oldest frame is delivered at once
      case h_1 value buffer hbuffer =>
        have hwaiter := h.waiter_eq_none_of_buffer hbuffer
        have hrequested : s.cancellationRequested = false := by
          cases hrequested : s.cancellationRequested with
          | false => rfl
          | true => exact absurd (hbuffer.symm.trans (h.discarded hrequested).1) (by simp)
        refine (h.count hwaiter).deliver rfl hfresh hwaiter ?_ hrequested ?_
        · exact fun reason heq => Nat.lt_irrefl _ (h.rejecting _ _ heq)
        · have hreceived := h.received hrequested
          rwa [hbuffer] at hreceived
      case h_2 hbuffer =>
        split
        -- a failure is thrown behind the last frame
        case isTrue hreason => exact h.answer (h.done_of_reason hreason) (by simp)
        case isFalse =>
          split
          case isTrue hdone => exact h.answer hdone (by simp)
          case isFalse hnot =>
            -- the call that waited, if there is one, is forgotten
            have hdone : s.done = false := Bool.not_eq_true _ ▸ hnot
            have hrejecting := (h.live hdone).2.1
            exact
              { h.unwait with
                waiter := fun call hcall =>
                  ⟨hdone, hbuffer, congrArg (· + 1) (Option.some.inj hcall).symm⟩
                rejecting := fun call reason heq => absurd (hrejecting.symm.trans heq) (by simp)
                settled_lt := fun x hmem => Nat.lt_succ_of_lt (h.settled_lt x hmem)
                open' := fun x hmem => ⟨fun hcall => hfresh x hmem (Option.some.inj hcall).symm,
                  (h.open' x hmem).2⟩ }

theorem Sound.abandoned (h : s.Sound) (habandoning : s.abandoning = true)
    {outcome : RpcCancellationOutcome} (houtcome : outcome ≠ .notRequested) :
    (({ s with abandoning := false } : NextCalls).settleCancellation outcome).Sound := by
  have hrequested := h.abandoning habandoning
  have hsame : Sound { s with abandoning := false } :=
    { h with abandoning := fun hnone => (nomatch hnone) }
  unfold settleCancellation
  split
  case isTrue => exact hsame
  case isFalse hnot =>
    have hunsettled : s.cancellationSettled = false := Bool.not_eq_true _ ▸ hnot
    have hdone : s.done = true := (h.discarded hrequested).2.1
    have hnone : s.cancellations = [] := by
      have hlength := h.cancellations
      simpa [hunsettled] using hlength
    exact
      { hsame with
        live := fun hlive => absurd (hdone.symm.trans hlive) (by simp)
        cancellations := by simp [hnone]
        notRequested := by simp [hnone, hrequested, houtcome]
        finished := fun _ _ => rfl }

/-- One step. -/
theorem Sound.step (h : s.Sound) {s' : NextCalls} {e : NextEvent} (hs : s.step e = some s') :
    s'.Sound := by
  cases e with
  | push frame => exact Option.some.inj hs ▸ h.push frame
  | end' => exact Option.some.inj hs ▸ h.end'
  | fail reason => exact Option.some.inj hs ▸ h.fail reason
  | reject => exact h.reject hs
  | deadline => exact Option.some.inj hs ▸ h.cancel _
  | abort =>
      obtain ⟨-, heq⟩ := Option.ite_none_right_eq_some.mp hs
      exact Option.some.inj heq ▸ { h with abandoning := h.abandoning }
  | handleAbort =>
      obtain ⟨-, heq⟩ := Option.ite_none_right_eq_some.mp hs
      exact Option.some.inj heq ▸ h.cancel _
  | next => exact Option.some.inj hs ▸ h.next
  | return' =>
      refine Option.some.inj hs ▸ ?_
      unfold NextCalls.return'
      split
      · exact h
      · exact h.cancel _
  | abandoned outcome =>
      obtain ⟨⟨habandoning, houtcome⟩, heq⟩ := Option.ite_none_right_eq_some.mp hs
      refine Option.some.inj heq ▸ h.abandoned habandoning ?_
      cases outcome with
      | none => simp
      | some outcome => exact fun heq => houtcome (congrArg some heq)

/-- What the invariant says of the promises. -/
theorem Sound.keeps (h : s.Sound) : s.Keeps where
  once := ⟨h.nodup, h.settled_lt⟩
  ordered := h.ordered
  delivered := by
    cases hrequested : s.cancellationRequested with
    | false => exact h.received hrequested ▸ List.prefix_append _ _
    | true => exact (h.discarded hrequested).2.2
  cancellations_le := by
    rw [h.cancellations]
    split <;> simp
  notRequested := h.notRequested
  finished := by
    intro hdone hrequested
    have hlength := h.cancellations
    rw [h.finished hdone hrequested, if_pos rfl] at hlength
    obtain ⟨outcome, hcancellations⟩ := List.length_eq_one_iff.mp hlength
    have hmem : outcome ∈ s.cancellations := by simp [hcancellations]
    rw [hcancellations, (h.notRequested outcome hmem).mpr hrequested]

/-! ## One reader -/

/-- The iterator, without regard to which call is given what. -/
def view (s : NextCalls) : RpcIterator where
  buffer := s.buffer
  done := s.done
  failureReason := s.failureReason.toError
  waiting := s.waiter.isSome
  rejecting := s.rejecting.bind fun x => x.2.toError
  cancellationRequested := s.cancellationRequested
  signal := s.signal
  results := s.settled.map fun x => x.2.view

/-- What an event does to the iterator of one reader. -/
def handle (it : RpcIterator) : NextEvent → RpcIterator
  | .push frame => it.push frame
  | .end' => it.end'
  | .fail reason => reason.toError.elim it it.fail
  | .reject => it.rejects.getD it
  | .deadline => it.timerFires
  | .abort => { it with signal := some true }
  | .handleAbort => it.cancel aborted
  | .next => it.next
  | .return' => it.return'
  | .abandoned _ => it

/-- Only errors have been thrown. -/
structure Errors (s : NextCalls) : Prop where
  failureReason : s.failureReason = .undefined ∨ ∃ e, s.failureReason = .error e
  rejecting : ∀ x, s.rejecting = some x → ∃ e, x.2 = .error e

/-- The event gives an error, if any. -/
def IsError : NextEvent → Prop
  | .fail reason => ∃ e, reason = .error e
  | _ => True

theorem view_settle (call : Nat) (result : NextResult) :
    (s.settle call result).view = s.view.settle result.view := by
  simp [view, settle, RpcIterator.settle]

theorem view_cancel (e : CallError) : (s.cancel (.error e)).view = s.view.cancel e := by
  unfold cancel RpcIterator.cancel
  cases hover : s.done || s.cancellationRequested with
  | true => simp [view, hover]
  | false =>
      cases hwaiter : s.waiter <;>
        simp [view, hover, hwaiter, settleWait, settle, RpcIterator.settle, Reason.toError,
          NextResult.view]

theorem view_push (frame : ResponseFrame) : (s.push frame).view = s.view.push frame := by
  unfold push RpcIterator.push
  cases hdone : s.done <;> cases hwaiter : s.waiter <;>
    simp [view, hdone, hwaiter, settleWait, settle, RpcIterator.settle, NextResult.view]

theorem view_end' : s.end'.view = s.view.end' := by
  unfold end' RpcIterator.end' settleCancellation
  cases hrequested : s.cancellationRequested <;> cases hsettled : s.cancellationSettled <;>
    cases hwaiter : s.waiter <;>
    simp [view, hrequested, hwaiter, hsettled, settleWait, settle, RpcIterator.settle,
      NextResult.view]

theorem view_fail (e : CallError) : (s.fail (.error e)).view = s.view.fail e := by
  unfold fail RpcIterator.fail settleCancellation
  cases hdone : s.done <;> cases hsettled : s.cancellationSettled <;> cases hwaiter : s.waiter <;>
    simp [view, hdone, hwaiter, Reason.toError]

theorem view_reject {s' : NextCalls} (h : s.Errors) (hs : s.reject = some s') :
    s.view.rejects = some s'.view := by
  obtain ⟨⟨call, reason⟩, hrejecting, rfl⟩ := Option.map_eq_some_iff.mp hs
  obtain ⟨e, rfl⟩ := h.rejecting _ hrejecting
  cases hsignal : decide (s.signal = some true) <;>
    simp_all [RpcIterator.rejects, view, settle, RpcIterator.settle, Reason.toError,
      NextResult.view, abortError]

/-- `next` does to the iterator of one reader what it does there. -/
theorem view_next (hsound : s.Sound) (h : s.Errors) : s.next.view = s.view.next := by
  unfold next RpcIterator.next
  dsimp only
  split
  case isTrue habort =>
    have hlive : s.done = false := by
      simpa using (Bool.and_eq_true_iff.mp habort).1
    have hreason : (({ s with calls := s.calls + 1 } : NextCalls).cancel abortError).failureReason =
        abortError := by
      rw [cancel_calls, hsound.cancel_eq, if_neg (by simp [hlive])]
      unfold settleWait
      split <;> rfl
    rw [if_pos (show (!s.view.done && decide (s.view.signal = some true)) = true from habort),
      hreason,
      view_settle]
    exact congrArg (RpcIterator.settle · _) (view_cancel aborted)
  case isFalse hsignal =>
    rw [if_neg (show ¬ (!s.view.done && decide (s.view.signal = some true)) = true from hsignal)]
    rcases h.failureReason with hreason | ⟨e, hreason⟩
    · cases hbuffer : s.buffer <;> cases hdone : s.done <;>
        simp [view, hreason, hbuffer, hdone, Reason.isAbort, Reason.toError, settle,
          RpcIterator.settle, NextResult.view]
    · cases hbuffer : s.buffer <;> cases habort : e.isAbort <;>
        simp [view, hreason, hbuffer, habort, Reason.isAbort, Reason.toError, settle,
          RpcIterator.settle, NextResult.view]

theorem create_view (signal : Option Bool) : (create signal).view = RpcIterator.create signal := by
  unfold create RpcIterator.create
  split
  · exact view_cancel aborted
  · rfl

theorem Errors.settleWait (h : s.Errors) (result : NextResult) : (s.settleWait result).Errors := by
  unfold NextCalls.settleWait
  split <;> exact ⟨h.failureReason, h.rejecting⟩

theorem Errors.cancel (h : s.Errors) (e : CallError) : (s.cancel (.error e)).Errors := by
  unfold NextCalls.cancel
  split
  · exact h
  · refine Errors.settleWait ?_ _
    exact ⟨Or.inr ⟨e, rfl⟩, h.rejecting⟩

/-- If only errors are given, only errors are thrown. -/
theorem Errors.step (h : s.Errors) {s' : NextCalls} {e : NextEvent} (herror : IsError e)
    (hs : s.step e = some s') : s'.Errors := by
  cases e with
  | push frame =>
      obtain rfl := Option.some.inj hs
      unfold NextCalls.push
      split
      · exact h
      · dsimp only
        split
        · refine Errors.settleWait ?_ _
          exact ⟨h.failureReason, h.rejecting⟩
        · exact ⟨h.failureReason, h.rejecting⟩
  | end' =>
      obtain rfl := Option.some.inj hs
      refine Errors.settleWait ?_ _
      unfold settleCancellation
      split
      · exact ⟨h.failureReason, h.rejecting⟩
      · split <;> exact ⟨h.failureReason, h.rejecting⟩
  -- the reason is kept for later calls and rejects the one that waits
  | fail reason =>
      obtain ⟨e, rfl⟩ := herror
      obtain rfl := Option.some.inj hs
      unfold NextCalls.fail
      split
      · exact h
      · refine ⟨?_, fun x hx => ?_⟩
        · unfold settleCancellation
          split <;> exact Or.inr ⟨e, rfl⟩
        · obtain ⟨call, -, rfl⟩ := Option.map_eq_some_iff.mp hx
          exact ⟨e, rfl⟩
  -- the rejection is delivered, the reason stays
  | reject =>
      obtain ⟨⟨call, reason⟩, -, rfl⟩ := Option.map_eq_some_iff.mp hs
      exact ⟨h.failureReason, fun _ hnone => (nomatch hnone)⟩
  | deadline => exact Option.some.inj hs ▸ h.cancel timedOut
  | abort =>
      obtain ⟨-, heq⟩ := Option.ite_none_right_eq_some.mp hs
      exact Option.some.inj heq ▸ ⟨h.failureReason, h.rejecting⟩
  | handleAbort =>
      obtain ⟨-, heq⟩ := Option.ite_none_right_eq_some.mp hs
      exact Option.some.inj heq ▸ h.cancel aborted
  -- a call throws the reason kept, or cancels because of its signal
  | next =>
      obtain rfl := Option.some.inj hs
      have hcalls : ({ s with calls := s.calls + 1 } : NextCalls).Errors :=
        ⟨h.failureReason, h.rejecting⟩
      have hcancel := hcalls.cancel aborted
      unfold NextCalls.next
      dsimp only
      split
      · exact ⟨hcancel.failureReason, hcancel.rejecting⟩
      · split
        · exact ⟨h.failureReason, h.rejecting⟩
        · split
          · exact ⟨h.failureReason, h.rejecting⟩
          · split
            · exact ⟨h.failureReason, h.rejecting⟩
            · split <;> exact ⟨h.failureReason, h.rejecting⟩
  | return' =>
      obtain rfl := Option.some.inj hs
      unfold NextCalls.return'
      split
      · exact h
      · exact h.cancel aborted
  | abandoned outcome =>
      obtain ⟨-, heq⟩ := Option.ite_none_right_eq_some.mp hs
      obtain rfl := Option.some.inj heq
      unfold settleCancellation
      split <;> exact ⟨h.failureReason, h.rejecting⟩

/-- One step, for one reader. -/
theorem view_step (hsound : s.Sound) (h : s.Errors) {s' : NextCalls} {e : NextEvent}
    (herror : IsError e) (hs : s.step e = some s') : s'.view = handle s.view e := by
  cases e with
  | push frame => exact Option.some.inj hs ▸ view_push frame
  | end' => exact Option.some.inj hs ▸ view_end'
  | fail reason =>
      obtain ⟨e, rfl⟩ := herror
      exact Option.some.inj hs ▸ view_fail e
  | reject => simp [handle, view_reject h hs]
  | deadline => exact Option.some.inj hs ▸ view_cancel timedOut
  | abort =>
      obtain ⟨-, heq⟩ := Option.ite_none_right_eq_some.mp hs
      exact Option.some.inj heq ▸ rfl
  | handleAbort =>
      obtain ⟨-, heq⟩ := Option.ite_none_right_eq_some.mp hs
      exact Option.some.inj heq ▸ view_cancel aborted
  | next => exact Option.some.inj hs ▸ view_next hsound h
  | return' =>
      obtain rfl := Option.some.inj hs
      unfold return'
      split
      case isTrue hdone => simp [handle, RpcIterator.return', RpcIterator.cancel, view, hdone]
      case isFalse => exact view_cancel aborted
  | abandoned outcome =>
      obtain ⟨-, heq⟩ := Option.ite_none_right_eq_some.mp hs
      obtain rfl := Option.some.inj heq
      unfold settleCancellation
      split <;> rfl

theorem create_errors (signal : Option Bool) : (create signal).Errors := by
  unfold create
  split
  · refine Errors.cancel ?_ aborted
    exact ⟨Or.inl rfl, fun _ hnone => (nomatch hnone)⟩
  · exact ⟨Or.inl rfl, fun _ hnone => (nomatch hnone)⟩

/-- As long as only errors are thrown, one reader sees the iterator of `RpcIterator`. -/
theorem view_run {signal : Option Bool} {events : List NextEvent} (herror : ∀ e ∈ events, IsError e)
    (hrun : (machine signal).run events = some s) :
    s.view = events.foldl handle (RpcIterator.create signal) := by
  have hview : (∀ e ∈ events, IsError e) →
      s.Sound ∧ s.Errors ∧ s.view = events.foldl handle (RpcIterator.create signal) := by
    refine Machine.runFrom_induction
      (motive := fun events s => (∀ e ∈ events, IsError e) →
        s.Sound ∧ s.Errors ∧ s.view = events.foldl handle (RpcIterator.create signal)) ?_ ?_ hrun
    · exact fun _ => ⟨create_sound signal, create_errors signal, create_view signal⟩
    · intro before s₁ e s₂ _ ih hs hall
      obtain ⟨hsound, herrors, hview⟩ := ih fun e he => hall e (List.mem_append_left _ he)
      have he : IsError e := hall e (List.mem_append_right _ (List.mem_singleton_self e))
      refine ⟨hsound.step hs, herrors.step he hs, ?_⟩
      rw [view_step hsound herrors he hs, hview, List.foldl_append, List.foldl_cons, List.foldl_nil]
  exact (hview herror).2.2

end NextCalls

end FitzTs.Rpc
