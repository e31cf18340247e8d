import FitzTs.Core.Types
import FitzTs.Domains.Rpc.Codec
/-!
# FitzTs.Domains.Rpc.Iterator

`createRpcIterator` of `domains/rpc/iterator.ts`: the frames of one call, for its caller.

`results` is what the promises of `next` have settled with, in the order in which they did. The
outcome of a cancellation, which the iterator reports besides, is left out: no frame depends on it.

An iterator is `Open` while the call is live, and `Ended` with a result for good; each of its
functions is described by what it does to these.
-/

namespace FitzTs.Rpc

open JsString Buffer

/-- What an iterator yields. -/
structure ResponseFrame where
  body : Bytes
  sequence : Nat
  deriving DecidableEq, Repr

/-- An `RpcError`, with the disposition that `attachErrorDisposition` gave it. -/
structure RpcError where
  message : JsString
  code : String
  domainCode : Nat
  errorClass : Option Nat
  effect : Option Nat
  deriving DecidableEq, Repr

inductive CallError
  | rpc (error : RpcError)
  | client (error : ClientError)
  deriving DecidableEq, Repr

/-- `error.name === "AbortError"`. -/
def CallError.isAbort : CallError → Bool
  | .rpc _ => false
  | .client error => isAbortError error

/-- How a promise of `next` settles. -/
inductive IteratorResult
  | value (frame : ResponseFrame)
  | done
  | thrown (error : CallError)
  deriving DecidableEq, Repr

def aborted : CallError := .client abortError

def timedOut : CallError :=
  .rpc ⟨js "RPC call timeout", "TIMEOUT", ErrCodeRpcTimeout, none, none⟩

/-- The variables of `createRpcIterator`. -/
structure RpcIterator where
  buffer : List ResponseFrame := []
  done : Bool := false
  failureReason : Option CallError := none
  /-- `resolveNext` and `rejectNext` are set. -/
  waiting : Bool := false
  /-- The rejection of a wait that `fail` has put off. -/
  rejecting : Option CallError := none
  cancellationRequested : Bool := false
  /-- `signal.aborted`; `none` without a signal. -/
  signal : Option Bool := none
  results : List IteratorResult := []
  deriving DecidableEq, Repr

namespace RpcIterator

def settle (it : RpcIterator) (result : IteratorResult) : RpcIterator :=
  { it with results := it.results ++ [result] }

def cancel (it : RpcIterator) (error : CallError) : RpcIterator :=
  if it.done || it.cancellationRequested then it
  else
    let cancelled : RpcIterator :=
      { it with
        cancellationRequested := true
        done := true
        buffer := []
        failureReason := some error
        waiting := false }
    if it.waiting then cancelled.settle (.thrown error) else cancelled

/-- `createRpcIterator`. -/
def create (signal : Option Bool) : RpcIterator :=
  let it : RpcIterator := { signal := signal }
  if signal = some true then it.cancel aborted else it

/-- The signal aborts; a listener that `done` has taken away would not do anything. -/
def abort (it : RpcIterator) : RpcIterator := { it with signal := some true }.cancel aborted

/-- The timer, which is cleared where `done` is set. -/
def timerFires (it : RpcIterator) : RpcIterator := it.cancel timedOut

def push (it : RpcIterator) (frame : ResponseFrame) : RpcIterator :=
  if it.done then it
  else if it.waiting then { it with waiting := false }.settle (.value frame)
  else { it with buffer := it.buffer ++ [frame] }

def end' (it : RpcIterator) : RpcIterator :=
  let ended : RpcIterator := { it with done := true }
  if it.waiting then { ended with waiting := false }.settle .done else ended

/-- `fail`, but for `finish`. -/
def fail (it : RpcIterator) (reason : CallError) : RpcIterator :=
  if it.done then it
  else
    { it with
      done := true
      failureReason := some reason
      waiting := false
      rejecting := if it.waiting then some reason else none }

/-- `rejectWithCurrentSignalState`, which `fail` has put off. -/
def rejects (it : RpcIterator) : Option RpcIterator :=
  it.rejecting.map fun reason =>
    { it with rejecting := none }.settle
      (.thrown (if it.signal = some true then aborted else reason))

/-- `next`. A promise of an earlier call that still waits is forgotten, and never settles. -/
def next (it : RpcIterator) : RpcIterator :=
  if !it.done && it.signal = some true then
    (it.cancel aborted).settle (.thrown aborted)
  else if it.failureReason.any CallError.isAbort then
    it.settle (.thrown (it.failureReason.getD aborted))
  else
    match it.buffer with
    | value :: buffer => { it with buffer := buffer }.settle (.value value)
    | [] =>
      match it.failureReason with
      | some failureReason => it.settle (.thrown failureReason)
      | none => if it.done then it.settle .done else { it with waiting := true }

/-- `return`. -/
def return' (it : RpcIterator) : RpcIterator := it.cancel aborted

/-! ## What has been received -/

variable {it : RpcIterator} {frames : List ResponseFrame} {frame : ResponseFrame}

/-- The frames that were received and have not been thrown away: yielded, or buffered. -/
def yields (it : RpcIterator) : List IteratorResult :=
  it.results ++ it.buffer.map .value

/-- The call is live, and these frames have been received. -/
structure Open (it : RpcIterator) (frames : List ResponseFrame) : Prop where
  done : it.done = false
  failureReason : it.failureReason = none
  rejecting : it.rejecting = none
  signal : it.signal ≠ some true
  cancellationRequested : it.cancellationRequested = false
  buffer : it.waiting = true → it.buffer = []
  yields : it.yields = frames.map .value

/-- What a `next` on an empty buffer gives once the stream is over. -/
def lastResult (it : RpcIterator) : IteratorResult :=
  match it.failureReason with
  | some reason => .thrown reason
  | none => .done

/-- The stream is over: these frames, and after them that result for each further `next`. -/
structure Ended (it : RpcIterator) (frames : List ResponseFrame) (result : IteratorResult) :
    Prop where
  done : it.done = true
  waiting : it.waiting = false
  failureReason : it.failureReason.any CallError.isAbort = false
  lastResult : it.lastResult = result
  rejecting : ∀ reason ∈ it.rejecting, it.buffer = [] ∧ .thrown reason = result
  yields : ∃ n, it.yields = frames.map .value ++ List.replicate n result ∧ (0 < n → it.buffer = [])

theorem open_create {signal : Option Bool} (h : signal ≠ some true) : (create signal).Open [] := by
  unfold create
  rw [if_neg h]
  exact ⟨rfl, rfl, rfl, h, rfl, fun _ => rfl, rfl⟩

/-- A frame is kept for the reader, or goes to whoever waits. -/
theorem Open.push (h : it.Open frames) (frame : ResponseFrame) :
    (it.push frame).Open (frames ++ [frame]) := by
  unfold RpcIterator.push
  rw [if_neg (by simp [h.done])]
  have hyields := h.yields
  split
  case isTrue hwaiting =>
    -- the frame goes to the wait, and the buffer is empty
    refine ⟨h.done, h.failureReason, h.rejecting, h.signal, h.cancellationRequested,
      fun hwaits => (nomatch hwaits), ?_⟩
    simp only [RpcIterator.yields, h.buffer hwaiting, List.map_nil, List.append_nil, settle,
      List.map_append, List.map_cons] at hyields ⊢
    rw [hyields]
  case isFalse hwaiting =>
    refine ⟨h.done, h.failureReason, h.rejecting, h.signal, h.cancellationRequested,
      fun hwaits => absurd hwaits hwaiting, ?_⟩
    simp only [RpcIterator.yields, List.map_append, ← hyields, List.append_assoc]

/-- The end comes behind the frames that are left. -/
theorem Open.end' (h : it.Open frames) : it.end'.Ended frames .done := by
  unfold RpcIterator.end'
  have hyields := h.yields
  split
  case isTrue hwaiting =>
    refine ⟨rfl, rfl, by simp [settle, h.failureReason], by
      simp [RpcIterator.lastResult, settle, h.failureReason], by simp [settle, h.rejecting], 1, ?_,
      fun _ => h.buffer hwaiting⟩
    simp only [RpcIterator.yields, h.buffer hwaiting, List.map_nil, List.append_nil, settle,
      List.replicate_one] at hyields ⊢
    rw [hyields]
  case isFalse hwaiting =>
    refine ⟨rfl, Bool.not_eq_true _ ▸ hwaiting, by simp [h.failureReason], by
      simp [RpcIterator.lastResult, h.failureReason], by simp [h.rejecting], 0, ?_, by simp⟩
    simpa [RpcIterator.yields] using hyields

/-- A failure comes behind the frames that are left. -/
theorem Open.fail {reason : CallError} (h : it.Open frames) (hreason : reason.isAbort = false) :
    (it.fail reason).Ended frames (.thrown reason) := by
  unfold RpcIterator.fail
  rw [if_neg (by simp [h.done])]
  refine ⟨rfl, rfl, by simp [hreason], rfl, ?_, 0, ?_, by simp⟩
  · intro reason' hmem
    obtain ⟨hwaiting, ⟨⟩⟩ := Option.ite_none_right_eq_some.mp (Option.mem_def.mp hmem)
    exact ⟨h.buffer hwaiting, rfl⟩
  · simpa [RpcIterator.yields] using h.yields

/-- To read takes nothing from what has come. -/
theorem Open.next (h : it.Open frames) : it.next.Open frames := by
  unfold RpcIterator.next
  rw [if_neg (by simp [h.signal]), if_neg (by simp [h.failureReason])]
  cases hbuffer : it.buffer with
  | cons value buffer =>
      refine ⟨h.done, h.failureReason, h.rejecting, h.signal, h.cancellationRequested,
        fun hwaits => ?_, ?_⟩
      · have hempty := h.buffer hwaits
        simp [hbuffer] at hempty
      · have hyields := h.yields
        simpa [RpcIterator.yields, hbuffer, settle] using hyields
  | nil =>
      simp only [h.failureReason, h.done, Bool.false_eq_true, if_false]
      refine ⟨rfl, rfl, h.rejecting, h.signal, h.cancellationRequested, fun _ => rfl, ?_⟩
      have hyields := h.yields
      simpa [RpcIterator.yields, hbuffer] using hyields

section Ended

variable {result : IteratorResult}

/-- What has ended is not cancelled. -/
theorem Ended.cancel {error : CallError} (h : it.Ended frames result) : it.cancel error = it := by
  unfold RpcIterator.cancel
  rw [if_pos (by simp [h.done])]

theorem Ended.abort (h : it.Ended frames result) : it.abort.Ended frames result := by
  have hsame : { it with signal := some true }.Ended frames result :=
    ⟨h.done, h.waiting, h.failureReason, h.lastResult, h.rejecting, h.yields⟩
  unfold RpcIterator.abort
  rw [hsame.cancel]
  exact hsame

theorem Ended.push (h : it.Ended frames result) (frame : ResponseFrame) : it.push frame = it :=
  if_pos h.done

theorem Ended.fail {reason : CallError} (h : it.Ended frames result) : it.fail reason = it :=
  if_pos h.done

/-- One more of the last result, on an empty buffer. -/
theorem Ended.settle (h : it.Ended frames result) (hbuffer : it.buffer = []) :
    (it.settle result).Ended frames result := by
  obtain ⟨n, hyields, -⟩ := h.yields
  refine ⟨h.done, h.waiting, h.failureReason, h.lastResult, h.rejecting, n + 1, ?_,
    fun _ => hbuffer⟩
  simp only [RpcIterator.yields, hbuffer, RpcIterator.settle, List.map_nil, List.append_nil,
    List.replicate_succ'] at hyields ⊢
  rw [hyields, List.append_assoc]

/-- The wait that `fail` has ended is rejected, unless the caller has aborted in between. -/
theorem Ended.rejects {it' : RpcIterator} (h : it.Ended frames result)
    (hsignal : it.signal ≠ some true) (hst : it.rejects = some it') : it'.Ended frames result := by
  obtain ⟨reason, hrejecting, rfl⟩ := Option.map_eq_some_iff.mp hst
  obtain ⟨hbuffer, hresult⟩ := h.rejecting reason hrejecting
  rw [if_neg hsignal, hresult]
  have hsame : { it with rejecting := none }.Ended frames result :=
    ⟨h.done, h.waiting, h.failureReason, h.lastResult, fun _ hmem => (nomatch hmem), h.yields⟩
  exact hsame.settle hbuffer

/-- Each `next` is answered at once. -/
theorem Ended.next (h : it.Ended frames result) :
    it.next.Ended frames result ∧ it.next.results.length = it.results.length + 1 ∧
      it.next.rejecting = it.rejecting := by
  unfold RpcIterator.next
  rw [if_neg (by simp [h.done]), if_neg (by simp [h.failureReason])]
  cases hbuffer : it.buffer with
  | cons value buffer =>
      obtain ⟨n, hyields, hempty⟩ := h.yields
      obtain rfl : n = 0 := by
        by_contra hn
        simp [hempty (Nat.pos_of_ne_zero hn)] at hbuffer
      refine ⟨⟨h.done, h.waiting, h.failureReason, h.lastResult, fun reason hmem => ?_, 0, ?_, by
        simp⟩, List.length_append, rfl⟩
      · have hnone := (h.rejecting reason hmem).1
        simp [hbuffer] at hnone
      · simpa [RpcIterator.yields, hbuffer, RpcIterator.settle] using hyields
  | nil =>
      have hlast := h.lastResult
      cases hreason : it.failureReason with
      | some reason =>
          rw [RpcIterator.lastResult, hreason] at hlast
          simp only [hlast]
          exact ⟨h.settle hbuffer, List.length_append, rfl⟩
      | none =>
          rw [RpcIterator.lastResult, hreason] at hlast
          simp only [hlast, h.done, if_true]
          exact ⟨h.settle hbuffer, List.length_append, rfl⟩

/-- The results so far begin the frames and the last result forever. -/
theorem Ended.results_eq (h : it.Ended frames result) :
    it.results = (frames.map IteratorResult.value ++
      List.replicate it.results.length result).take it.results.length := by
  obtain ⟨n, hyields, hempty⟩ := h.yields
  by_cases hn : n = 0
  · subst hn
    rw [List.replicate_zero, List.append_nil] at hyields
    rw [← hyields, RpcIterator.yields, List.append_assoc, List.take_left]
  · rw [RpcIterator.yields, hempty (Nat.pos_of_ne_zero hn), List.map_nil, List.append_nil]
      at hyields
    have hle : n ≤ it.results.length := by simp [hyields]
    obtain ⟨k, hk⟩ := Nat.exists_eq_add_of_le hle
    rw [hk, List.replicate_add, ← List.append_assoc, ← hyields, ← hk, List.take_left]

end Ended

/-! ### What does not come from the worker -/

/-- What leaves the frames received as they are: a live call stays live or dies, and one that is
over stays so. -/
structure Progress (it it' : RpcIterator) : Prop where
  live : ∀ frames, it.Open frames → it'.Open frames ∨ it'.done = true
  ended : ∀ frames result, it.Ended frames result → it'.Ended frames result
  dead : it.done = true → it'.done = true

theorem Progress.refl : Progress it it := ⟨fun _ h => Or.inl h, fun _ _ h => h, id⟩

theorem cancel_done {error : CallError} (h : it.cancellationRequested = true → it.done = true) :
    (it.cancel error).done = true := by
  unfold cancel
  split
  case isTrue hover => exact (Bool.or_eq_true_iff.mp hover).elim id h
  case isFalse =>
    dsimp only
    split <;> rfl

/-- `cancel` ends the iterator. -/
theorem cancel_progress {error : CallError} : Progress it (it.cancel error) where
  live := fun _ h => Or.inr (cancel_done fun hrequested => by
    simp [h.cancellationRequested] at hrequested)
  ended := fun _ _ h => h.cancel.symm ▸ h
  dead := fun h => cancel_done fun _ => h

theorem abort_progress : Progress it it.abort where
  live := fun _ h => Or.inr (cancel_done fun hrequested => by
    simp [h.cancellationRequested] at hrequested)
  ended := fun _ _ h => h.abort
  dead := fun h => cancel_done fun _ => h

theorem fail_done {reason : CallError} : (it.fail reason).done = true := by
  unfold fail
  split
  case isTrue h => exact h
  case isFalse => rfl

theorem fail_progress {reason : CallError} : Progress it (it.fail reason) where
  live := fun _ _ => Or.inr fail_done
  ended := fun _ _ h => h.fail.symm ▸ h
  dead := fun _ => fail_done

/-- To read does not open an iterator that is done. -/
theorem next_done (h : it.done = true) : it.next.done = true := by
  unfold RpcIterator.next
  rw [if_neg (by simp [h])]
  split
  · exact h
  · split
    · exact h
    · split
      · exact h
      · exact h

theorem next_progress : Progress it it.next where
  live := fun _ h => Or.inl h.next
  ended := fun _ _ h => h.next.1
  dead := next_done

theorem rejects_progress {it' : RpcIterator} (hsignal : it.signal ≠ some true)
    (hst : it.rejects = some it') : Progress it it' where
  live := fun _ h => by
    obtain ⟨reason, hrejecting, -⟩ := Option.map_eq_some_iff.mp hst
    simp [h.rejecting] at hrejecting
  ended := fun _ _ h => h.rejects hsignal hst
  dead := fun h => by
    obtain ⟨reason, -, rfl⟩ := Option.map_eq_some_iff.mp hst
    exact h

end RpcIterator

end FitzTs.Rpc
