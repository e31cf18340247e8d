import FitzTs.Client.Multiplexer.TimeoutHeap
/-!
# FitzTs.Client.Multiplexer.PendingQueue

The ring buffer of uncorrelated requests of one message type
(`PendingQueue` in `client/multiplexer.ts`). A request removed from the middle
leaves a hole (`undefined`) behind; `size` counts the requests, not the span.

`queueIndex`, a field of every request in the source, is a table threaded through
the operations that write it.
-/

namespace FitzTs.Client

/-- `PendingQueue`: `none` in `queue` is `undefined`. -/
structure PendingQueue where
  queue : List (Option RequestId)
  head : Nat
  tail : Nat
  size : Nat
  deriving DecidableEq, Repr

namespace PendingQueue

/-- The queue that `getOrCreatePendingQueue` creates. -/
def create : PendingQueue := ⟨List.replicate 128 none, 0, 0, 0⟩

/-- `queue[index]`. -/
def slot (q : PendingQueue) (index : Nat) : Option RequestId := q.queue.getD index none

/-- The index, in the ring, of the `i`-th place after `head`. -/
def fromHead (q : PendingQueue) (i : Nat) : Nat := (q.head + i) % q.queue.length

/-- `growPendingQueue`. -/
def growPendingQueue (q : PendingQueue) (queueIndex : RequestId → Int) :
    PendingQueue × (RequestId → Int) :=
  let newCapacity := max (q.queue.length * 2) 16
  let newQueue := (List.range newCapacity).map fun i =>
    if i < q.size then q.slot (q.fromHead i) else none
  let queueIndex := (List.range q.size).foldl (fun index i =>
    match q.slot (q.fromHead i) with
    | some entry => Function.update index entry i
    | none => index) queueIndex
  (⟨newQueue, 0, q.size, q.size⟩, queueIndex)

/-- `enqueuePendingRequest`. -/
def enqueuePendingRequest (q : PendingQueue) (queueIndex : RequestId → Int)
    (request : RequestId) : PendingQueue × (RequestId → Int) :=
  let (q, queueIndex) :=
    if q.size ≥ q.queue.length then q.growPendingQueue queueIndex else (q, queueIndex)
  ({ queue := q.queue.set q.tail (some request)
     head := q.head
     tail := (q.tail + 1) % q.queue.length
     size := q.size + 1 },
   Function.update queueIndex request q.tail)

/-- The loop of `dequeuePendingRequest`. It passes over holes without counting
them, so once every slot has been visited it cannot find a request any more:
without fuel the source does not return. -/
def dequeueLoop : Nat → PendingQueue → Option (RequestId × PendingQueue)
  | 0, _ => none
  | fuel + 1, q =>
    let next : PendingQueue :=
      { q with queue := q.queue.set q.head none, head := (q.head + 1) % q.queue.length }
    match q.slot q.head with
    | some request => some (request, { next with size := q.size - 1 })
    | none => dequeueLoop fuel next

/-- `dequeuePendingRequest`, called with `size > 0`. -/
def dequeuePendingRequest (q : PendingQueue) : Option (RequestId × PendingQueue) :=
  dequeueLoop q.queue.length q

/-- The `while` of `unregisterRequest` that moves `head` past holes. The caller
has checked that a request remains; a full turn without meeting one (the source
would spin) leaves `head` where it was. -/
def skipHoles : Nat → PendingQueue → PendingQueue
  | 0, q => q
  | fuel + 1, q =>
    if q.slot q.head = none then
      skipHoles fuel { q with head := (q.head + 1) % q.queue.length }
    else q

/-- What `unregisterRequest` does to the queue of the request: `none` where it
returns early because the slot at `queueIndex` does not hold this request. -/
def unregister (q : PendingQueue) (queueIndex : RequestId → Int) (request : RequestId) :
    Option PendingQueue :=
  let index := queueIndex request
  if index < 0 ∨ index ≥ q.queue.length then none
  else if q.slot index.toNat ≠ some request then none
  else
    let q' := { q with queue := q.queue.set index.toNat none, size := q.size - 1 }
    if index = q.head then
      some (if q'.size > 0 then skipHoles q'.queue.length q' else q')
    else
      let expectedTailIndex := if q'.tail = 0 then q'.queue.length - 1 else q'.tail - 1
      some (if index = expectedTailIndex then { q' with tail := index.toNat } else q')

end PendingQueue

end FitzTs.Client
