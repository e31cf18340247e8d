import Mathlib.Logic.Function.Basic
/-!
# FitzTs.Client.Multiplexer.TimeoutHeap

The deadline heap of `client/multiplexer.ts`: `timeoutEntries` together with the
`timeoutIndex` field of every request. The field is kept in a table beside the
array, so that a heap operation visibly touches nothing else of a request.

Loops run on fuel: `heapifyUp` at least halves its index, and `heapifyDown`
descends to a child inside the array, so the index and the length are enough.
-/

namespace FitzTs.Client

/-- The identity of a `PendingRequest` object: requests are numbered in the
order in which they are issued. -/
abbrev RequestId := Nat

/-- `timeoutEntries`, and `timeoutIndex` of each request. -/
structure TimeoutHeap where
  timeoutEntries : List RequestId := []
  timeoutIndex : RequestId → Int := fun _ => -1

namespace TimeoutHeap

/-- `swapTimeoutEntries`. -/
def swapTimeoutEntries (h : TimeoutHeap) (leftIndex rightIndex : Nat) : TimeoutHeap :=
  match h.timeoutEntries[leftIndex]?, h.timeoutEntries[rightIndex]? with
  | some left, some right =>
    { timeoutEntries := (h.timeoutEntries.set leftIndex right).set rightIndex left
      timeoutIndex :=
        Function.update (Function.update h.timeoutIndex left rightIndex) right leftIndex }
  | _, _ => h

/-- `timeoutEntries[index]!.deadline`. -/
def deadlineAt (deadline : RequestId → Int) (h : TimeoutHeap) (index : Nat) : Int :=
  deadline (h.timeoutEntries.getD index 0)

/-- The loop of `heapifyUp`. -/
def heapifyUpLoop (deadline : RequestId → Int) : Nat → Nat → TimeoutHeap → TimeoutHeap
  | 0, _, h => h
  | fuel + 1, index, h =>
    if index > 0 then
      let parentIndex := (index - 1) / 2
      if h.deadlineAt deadline index ≥ h.deadlineAt deadline parentIndex then h
      else heapifyUpLoop deadline fuel parentIndex (h.swapTimeoutEntries index parentIndex)
    else h

/-- `heapifyUp`. -/
def heapifyUp (deadline : RequestId → Int) (h : TimeoutHeap) (index : Nat) : TimeoutHeap :=
  heapifyUpLoop deadline index index h

/-- The loop of `heapifyDown`. -/
def heapifyDownLoop (deadline : RequestId → Int) : Nat → Nat → TimeoutHeap → TimeoutHeap
  | 0, _, h => h
  | fuel + 1, index, h =>
    let length := h.timeoutEntries.length
    let leftIndex := index * 2 + 1
    let rightIndex := index * 2 + 2
    let smallest :=
      if leftIndex < length ∧ h.deadlineAt deadline leftIndex < h.deadlineAt deadline index
      then leftIndex else index
    let smallest :=
      if rightIndex < length ∧ h.deadlineAt deadline rightIndex < h.deadlineAt deadline smallest
      then rightIndex else smallest
    if smallest = index then h
    else heapifyDownLoop deadline fuel smallest (h.swapTimeoutEntries index smallest)

/-- `heapifyDown`. -/
def heapifyDown (deadline : RequestId → Int) (h : TimeoutHeap) (index : Nat) : TimeoutHeap :=
  heapifyDownLoop deadline h.timeoutEntries.length index h

/-- `removeTimeoutEntry`. -/
def removeTimeoutEntry (deadline : RequestId → Int) (h : TimeoutHeap) (request : RequestId) :
    TimeoutHeap :=
  let index := h.timeoutIndex request
  if index < 0 ∨ index ≥ h.timeoutEntries.length then h
  else
    -- `timeoutEntries.pop()`
    let rest := h.timeoutEntries.dropLast
    match h.timeoutEntries.getLast? with
    | none => { h with timeoutIndex := Function.update h.timeoutIndex request (-1) }
    | some last =>
      if index = rest.length then
        { timeoutEntries := rest
          timeoutIndex := Function.update h.timeoutIndex request (-1) }
      else
        let moved : TimeoutHeap :=
          { timeoutEntries := rest.set index.toNat last
            timeoutIndex :=
              Function.update (Function.update h.timeoutIndex last index) request (-1) }
        (moved.heapifyDown deadline index.toNat).heapifyUp deadline index.toNat

/-- `timeoutEntries.push(requestEntry)` and `heapifyUp`, as `issueRequest` does. -/
def push (deadline : RequestId → Int) (h : TimeoutHeap) (request : RequestId) : TimeoutHeap :=
  let index := h.timeoutEntries.length
  heapifyUp deadline
    { timeoutEntries := h.timeoutEntries ++ [request]
      timeoutIndex := Function.update h.timeoutIndex request index } index

/-- `getNextTimeoutDeadline`; `none` is `Infinity`. -/
def getNextTimeoutDeadline (deadline : RequestId → Int) (h : TimeoutHeap) : Option Int :=
  h.timeoutEntries.head?.map deadline

end TimeoutHeap

end FitzTs.Client
