import Mathlib.Data.Finset.Insert
import Mathlib.Data.Finset.Erase
import Mathlib.Data.List.Nodup
import FitzTs.Lib.Machine
import FitzTs.Lib.OrderedMap
/-!
# FitzTs.Domains.Rpc.CorrelationPool

The buffers of correlation ids: `acquirePooledCorrelationId` and `releasePooledCorrelationId` of
`domains/rpc/codec.ts`, and what `domains/rpc/client.ts` does with them.

Buffers are objects, numbered as they are made; their sixteen bytes are the number that
`correlationIdToKey` reads. The pool belongs to the module, so any number of clients share it. Of an
iterator only `done` and `cancellationRequested` are kept, and of what is encoded the id.

A call holds its buffer as long as its iterator is live, and for good once it is cancelled: its key
stays among the abandoned ones as long as it is in `pendingRpcs`, so that it is never released.

## Main result

* `correlationPool_sound` — the calls that hold their buffers hold different ones, with their own
  ids, and none of these is in the pool.
-/

namespace FitzTs.Rpc

/-- The tables of a client. -/
structure RpcTables where
  /-- The call under each key. -/
  pendingRpcs : OrderedMap Nat Nat := ∅
  /-- The buffer that is kept with each cancellation. -/
  pendingCancellations : OrderedMap Nat Nat := ∅
  abandonedCorrelationIds : Finset Nat := ∅

structure PooledCall where
  client : Nat
  correlationKey : Nat
  /-- Its buffer. -/
  correlationId : Nat
  supportsCancellation : Bool
  /-- `encodeCallRequest` has not thrown. -/
  encoded : Bool
  /-- The iterator is over. -/
  done : Bool := false
  cancellationRequested : Bool := false
  /-- What `settleRequestSent` has been called with. -/
  requestSent : Option Bool := none
  /-- `abandon` waits for that. -/
  abandoning : Bool := false
  deriving DecidableEq

structure CorrelationPool where
  /-- The last one is taken first. -/
  correlationIdPool : List Nat := []
  /-- What is written in each buffer. -/
  contents : Nat → Nat := fun _ => 0
  /-- How many buffers there are. -/
  buffers : Nat := 0
  clients : Nat → RpcTables := fun _ => {}
  calls : List PooledCall := []
  /-- The ids in the frames encoded so far, with their calls. -/
  encoded : List (Nat × Nat) := []

/-- What a response frame does to its iterator. -/
inductive ResponseKind
  | push
  /-- `streamEnd`. -/
  | terminal
  /-- `streamEnd` with an error body. -/
  | error
  deriving DecidableEq, Repr

inductive PoolEvent
  /-- `call`, with the random bytes it draws, `options.signal.aborted` and whether the request can
  be encoded. -/
  | call (client random : Nat) (aborted supportsCancellation encoded : Bool)
  /-- The deadline, the signal or `return`. -/
  | cancel (i : Nat)
  /-- The promise of `sendRpcFrame` settles for the request. -/
  | sent (i : Nat) (ok : Bool)
  /-- `abandon` goes on. -/
  | abandon (i : Nat)
  | response (client correlationKey : Nat) (kind : ResponseKind)
  /-- The result of a cancellation, its timer, or a failure to send it. -/
  | cancellationResult (client correlationKey : Nat)
  /-- The client's disconnect listener runs. -/
  | disconnect (client : Nat)
  deriving DecidableEq

def maxCorrelationIdPoolSize : Nat := 64

namespace CorrelationPool

/-- `acquirePooledCorrelationId()`. -/
def acquirePooledCorrelationId (s : CorrelationPool) (random : Nat) : Nat × CorrelationPool :=
  match s.correlationIdPool.getLast? with
  | some correlationId =>
    (correlationId, { s with
      correlationIdPool := s.correlationIdPool.dropLast
      contents := Function.update s.contents correlationId random })
  | none =>
    (s.buffers, { s with
      buffers := s.buffers + 1
      contents := Function.update s.contents s.buffers random })

/-- `releasePooledCorrelationId(correlationId)`. -/
def releasePooledCorrelationId (s : CorrelationPool) (correlationId : Nat) : CorrelationPool :=
  if s.correlationIdPool.length ≥ maxCorrelationIdPoolSize then s
  else { s with correlationIdPool := s.correlationIdPool ++ [correlationId] }

def setTables (s : CorrelationPool) (client : Nat) (tables : RpcTables) : CorrelationPool :=
  { s with clients := Function.update s.clients client tables }

def modifyCall (s : CorrelationPool) (i : Nat) (f : PooledCall → PooledCall) : CorrelationPool :=
  { s with calls := s.calls.modify i f }

/-- `cleanupPendingRpc(correlationKey, correlationId)`. -/
def cleanupPendingRpc (s : CorrelationPool) (client correlationKey correlationId : Nat) :
    CorrelationPool :=
  let tables := s.clients client
  if (tables.pendingRpcs.get? correlationKey).isNone then s
  else
    let tables := { tables with pendingRpcs := tables.pendingRpcs.delete correlationKey }
    if correlationKey ∈ tables.abandonedCorrelationIds then
      s.setTables client { tables with
        abandonedCorrelationIds := tables.abandonedCorrelationIds.erase correlationKey }
    else (s.setTables client tables).releasePooledCorrelationId correlationId

/-- A frame with the id in the call's buffer is encoded. -/
def encode (s : CorrelationPool) (i : Nat) (call : PooledCall) : CorrelationPool :=
  { s with encoded := s.encoded ++ [(i, s.contents call.correlationId)] }

/-- `cancel` of the iterator, with `abandon` up to its `await`. -/
def cancel (s : CorrelationPool) (i : Nat) (call : PooledCall) : CorrelationPool :=
  if call.done then s
  else
    let tables := s.clients call.client
    (s.modifyCall i fun call =>
      { call with done := true, cancellationRequested := true, abandoning := true }).setTables
      call.client { tables with
        abandonedCorrelationIds := insert call.correlationKey tables.abandonedCorrelationIds }

/-- `fail` of the iterator, with `finish`. -/
def fail (s : CorrelationPool) (i : Nat) (call : PooledCall) : CorrelationPool :=
  if call.done then s
  else
    (s.modifyCall i fun call => { call with done := true }).cleanupPendingRpc call.client
      call.correlationKey call.correlationId

/-- `settleRequestSent(sent)`. -/
def settleRequestSent (s : CorrelationPool) (i : Nat) (sent : Bool) : CorrelationPool :=
  s.modifyCall i fun call => { call with requestSent := call.requestSent.or (some sent) }

def call (s : CorrelationPool) (client random : Nat)
    (aborted supportsCancellation encoded : Bool) : CorrelationPool :=
  let (correlationId, s) := s.acquirePooledCorrelationId random
  let i := s.calls.length
  let call : PooledCall :=
    { client, correlationKey := random, correlationId, supportsCancellation, encoded }
  let s := { s with calls := s.calls ++ [call] }
  let s := if aborted then s.cancel i call else s
  let tables := s.clients client
  let s := s.setTables client { tables with pendingRpcs := tables.pendingRpcs.set random i }
  if !encoded then s
  else
    let s := s.encode i call
    if aborted then s.settleRequestSent i false else s

/-- What follows `await requestSent` in `abandon`, and `sendCancellationRequest`. -/
def abandon (s : CorrelationPool) (i : Nat) (call : PooledCall) (sent : Bool) : CorrelationPool :=
  let s := s.modifyCall i fun call => { call with abandoning := false }
  if !sent then s.cleanupPendingRpc call.client call.correlationKey call.correlationId
  else if !call.supportsCancellation then
    s.cleanupPendingRpc call.client call.correlationKey call.correlationId
  else
    let tables := s.clients call.client
    (s.setTables call.client { tables with
      pendingCancellations :=
        tables.pendingCancellations.set call.correlationKey call.correlationId }).encode i call

/-- `handleRpcResponse`. -/
def response (s : CorrelationPool) (client correlationKey : Nat) (kind : ResponseKind) :
    CorrelationPool :=
  match (s.clients client).pendingRpcs.get? correlationKey with
  | none => s
  | some i =>
    match s.calls[i]? with
    | none => s
    | some call =>
      match kind with
      | .push => s
      | .terminal =>
        (s.cleanupPendingRpc client correlationKey call.correlationId).modifyCall i fun call =>
          { call with done := true }
      | .error => s.fail i call

/-- `settleCancellationResult(correlationKey, result)`. -/
def cancellationResult (s : CorrelationPool) (client correlationKey : Nat) : CorrelationPool :=
  let tables := s.clients client
  match tables.pendingCancellations.get? correlationKey with
  | none => s
  | some correlationId =>
    (s.setTables client { tables with
      pendingCancellations := tables.pendingCancellations.delete correlationKey }).cleanupPendingRpc
      client correlationKey correlationId

/-- `fail` for the call with that number. -/
def failCall (s : CorrelationPool) (i : Nat) : CorrelationPool :=
  match s.calls[i]? with
  | none => s
  | some call => s.fail i call

/-- The disconnect listener. -/
def disconnect (s : CorrelationPool) (client : Nat) : CorrelationPool :=
  ((s.clients client).pendingRpcs.values.foldl failCall s).setTables client {}

def step (s : CorrelationPool) : PoolEvent → Option CorrelationPool
  | .call client random aborted supportsCancellation encoded =>
    some (s.call client random aborted supportsCancellation encoded)
  | .cancel i => s.calls[i]?.map (s.cancel i)
  | .sent i ok =>
    match s.calls[i]? with
    | none => none
    | some call =>
      if !call.encoded || call.requestSent.isSome then none
      else if ok then some (s.settleRequestSent i true)
      else some ((s.settleRequestSent i false).failCall i)
  | .abandon i =>
    match s.calls[i]? with
    | none => none
    | some call =>
      if call.abandoning then call.requestSent.map (s.abandon i call) else none
  | .response client correlationKey kind => some (s.response client correlationKey kind)
  | .cancellationResult client correlationKey => some (s.cancellationResult client correlationKey)
  | .disconnect client => some (s.disconnect client)

def machine : Machine CorrelationPool PoolEvent where
  init := {}
  step := step

/-- The random bytes are those of no call before. -/
def Fresh (s : CorrelationPool) : PoolEvent → Prop
  | .call _ random _ _ _ => ∀ call ∈ s.calls, call.correlationKey ≠ random
  | _ => True

instance (s : CorrelationPool) : (e : PoolEvent) → Decidable (s.Fresh e)
  | .call _ random _ _ _ =>
    inferInstanceAs (Decidable (∀ call ∈ s.calls, call.correlationKey ≠ random))
  | .cancel _ | .sent _ _ | .abandon _ | .response _ _ _ | .cancellationResult _ _
  | .disconnect _ => isTrue trivial

/-- The call is pending, or has been cancelled and not been settled. -/
def Owns (s : CorrelationPool) (i : Nat) (call : PooledCall) : Prop :=
  (s.clients call.client).pendingRpcs.get? call.correlationKey = some i ∨
    call.correlationKey ∈ (s.clients call.client).abandonedCorrelationIds ∨
    ((s.clients call.client).pendingCancellations.get? call.correlationKey).isSome = true ∨
    call.abandoning = true

/-- The call may still encode a frame. -/
def MayEncode (call : PooledCall) : Prop := call.done = false ∨ call.abandoning = true

/-- What is kept up for the buffers. -/
structure Separate (s : CorrelationPool) : Prop where
  distinct : ∀ (i j : Nat) (call other : PooledCall), s.calls[i]? = some call →
    s.calls[j]? = some other → s.Owns i call → s.Owns j other → i ≠ j →
      call.correlationId ≠ other.correlationId
  not_pooled : ∀ (i : Nat) (call : PooledCall), s.calls[i]? = some call → s.Owns i call →
    call.correlationId ∉ s.correlationIdPool
  nodup : s.correlationIdPool.Nodup
  length_le : s.correlationIdPool.length ≤ maxCorrelationIdPoolSize
  /-- Nobody writes to the buffer of a call before its last frame has been encoded. -/
  contents : ∀ (i : Nat) (call : PooledCall), s.calls[i]? = some call → MayEncode call →
    s.contents call.correlationId = call.correlationKey
  encoded : ∀ (i id : Nat), (i, id) ∈ s.encoded → ∃ call, s.calls[i]? = some call ∧
    id = call.correlationKey

/-! ## Who holds a buffer -/

/-- The call has not given its buffer back, and if it was cancelled never will. -/
def Holds (call : PooledCall) : Prop := call.done = false ∨ call.cancellationRequested = true

/-- One call, in its tables. -/
structure SoundCall (s : CorrelationPool) (i : Nat) (call : PooledCall) : Prop where
  buffer_lt : call.correlationId < s.buffers
  not_pooled : Holds call → call.correlationId ∉ s.correlationIdPool
  contents : Holds call → s.contents call.correlationId = call.correlationKey
  live : call.done = false →
    (s.clients call.client).pendingRpcs.get? call.correlationKey = some i ∧
      call.correlationKey ∉ (s.clients call.client).abandonedCorrelationIds
  cancelled : call.cancellationRequested = true → call.done = true ∧
    ((s.clients call.client).pendingRpcs.get? call.correlationKey = some i →
      call.correlationKey ∈ (s.clients call.client).abandonedCorrelationIds)
  abandoning : call.abandoning = true → call.cancellationRequested = true

/-- The call that a table means by a key. -/
def Means (s : CorrelationPool) (client key : Nat) (P : Nat → PooledCall → Prop) : Prop :=
  ∃ i call, s.calls[i]? = some call ∧ call.client = client ∧ call.correlationKey = key ∧ P i call

structure Sound (s : CorrelationPool) : Prop where
  nodup : s.correlationIdPool.Nodup
  length_le : s.correlationIdPool.length ≤ maxCorrelationIdPoolSize
  pool_lt : ∀ buffer ∈ s.correlationIdPool, buffer < s.buffers
  call : ∀ (i : Nat) (call : PooledCall), s.calls[i]? = some call → s.SoundCall i call
  keys : ∀ (i j : Nat) (call other : PooledCall), s.calls[i]? = some call →
    s.calls[j]? = some other → call.correlationKey = other.correlationKey → i = j
  distinct : ∀ (i j : Nat) (call other : PooledCall), s.calls[i]? = some call →
    s.calls[j]? = some other → Holds call → Holds other → i ≠ j →
      call.correlationId ≠ other.correlationId
  pending : ∀ client key j, (s.clients client).pendingRpcs.get? key = some j →
    s.Means client key fun i call => i = j ∧ Holds call
  abandoned : ∀ client key, key ∈ (s.clients client).abandonedCorrelationIds →
    s.Means client key fun _ call => call.cancellationRequested = true
  cancellations : ∀ client key buffer,
    (s.clients client).pendingCancellations.get? key = some buffer →
      s.Means client key fun _ call =>
        call.cancellationRequested = true ∧ call.correlationId = buffer
  encoded : ∀ (i id : Nat), (i, id) ∈ s.encoded → ∃ call, s.calls[i]? = some call ∧
    id = call.correlationKey

variable {s : CorrelationPool} {i : Nat} {call : PooledCall}

theorem sound_init : Sound {} := by
  refine ⟨?_, ?_, ?_, ?_, ?_, ?_, ?_, ?_, ?_, ?_⟩ <;> simp [maxCorrelationIdPoolSize]

/-- Under the key of a call the tables mean that call. -/
theorem Sound.of_means (h : s.Sound) (hcall : s.calls[i]? = some call)
    {P : Nat → PooledCall → Prop} (hmeans : s.Means call.client call.correlationKey P) :
    P i call := by
  obtain ⟨j, other, hother, -, hkey, hP⟩ := hmeans
  obtain rfl := h.keys j i other call hother hcall hkey
  exact Option.some.inj (hother.symm.trans hcall) ▸ hP

/-- Whoever owns a buffer holds it. -/
theorem Sound.holds_of_owns (h : s.Sound) (hcall : s.calls[i]? = some call)
    (howns : s.Owns i call) :
    Holds call := by
  rcases howns with hpending | habandoned | hcancelling | habandoning
  · exact (h.of_means hcall (h.pending _ _ _ hpending)).2
  · exact Or.inr (h.of_means hcall (h.abandoned _ _ habandoned))
  · obtain ⟨buffer, hbuffer⟩ := Option.isSome_iff_exists.mp hcancelling
    exact Or.inr (h.of_means hcall (h.cancellations _ _ _ hbuffer)).1
  · exact Or.inr ((h.call i call hcall).abandoning habandoning)

/-- The tables keep apart what the calls keep apart. -/
theorem Sound.separate (h : s.Sound) : s.Separate where
  distinct := fun i j call other hcall hother howns howns' hne =>
    h.distinct i j call other hcall hother (h.holds_of_owns hcall howns)
      (h.holds_of_owns hother howns') hne
  not_pooled := fun i call hcall howns =>
    (h.call i call hcall).not_pooled (h.holds_of_owns hcall howns)
  nodup := h.nodup
  length_le := h.length_le
  contents := fun i call hcall hmay => by
    have hsound := h.call i call hcall
    refine hsound.contents ?_
    rcases hmay with hlive | habandoning
    · exact Or.inl hlive
    · exact Or.inr (hsound.abandoning habandoning)
  encoded := h.encoded

/-! ## What a step does to one call -/

/-- The tables agree on all keys but one. -/
def SameBut (tables tables' : RpcTables) (key : Nat) : Prop :=
  ∀ other, other ≠ key →
    tables'.pendingRpcs.get? other = tables.pendingRpcs.get? other ∧
    (other ∈ tables'.abandonedCorrelationIds ↔ other ∈ tables.abandonedCorrelationIds) ∧
    tables'.pendingCancellations.get? other = tables.pendingCancellations.get? other

/-- `s'` differs from `s` in what concerns the call `i` only, which is `call'` there. -/
structure Concerns (s s' : CorrelationPool) (i : Nat) (call call' : PooledCall) : Prop where
  calls : ∀ j, s'.calls[j]? = if j = i then some call' else s.calls[j]?
  client : call'.client = call.client
  correlationKey : call'.correlationKey = call.correlationKey
  correlationId : call'.correlationId = call.correlationId
  buffers : s'.buffers = s.buffers
  contents : s'.contents = s.contents
  clients : ∀ client, client ≠ call.client → s'.clients client = s.clients client
  tables : SameBut (s.clients call.client) (s'.clients call.client) call.correlationKey
  encoded : ∀ j id, (j, id) ∈ s'.encoded → (j, id) ∈ s.encoded ∨ j = i ∧ id = call.correlationKey
  /-- The buffer may go back to the pool when the call lets go of it. -/
  pool : s'.correlationIdPool = s.correlationIdPool ∨
    Holds call ∧ ¬ Holds call' ∧ s.correlationIdPool.length < maxCorrelationIdPoolSize ∧
      s'.correlationIdPool = s.correlationIdPool ++ [call.correlationId]
  holds : Holds call' → Holds call
  live : call'.done = false →
    (s'.clients call.client).pendingRpcs.get? call.correlationKey = some i ∧
      call.correlationKey ∉ (s'.clients call.client).abandonedCorrelationIds
  cancelled : call'.cancellationRequested = true → call'.done = true ∧
    ((s'.clients call.client).pendingRpcs.get? call.correlationKey = some i →
      call.correlationKey ∈ (s'.clients call.client).abandonedCorrelationIds)
  abandoning : call'.abandoning = true → call'.cancellationRequested = true
  pending : ∀ j, (s'.clients call.client).pendingRpcs.get? call.correlationKey = some j →
    i = j ∧ Holds call'
  abandoned : call.correlationKey ∈ (s'.clients call.client).abandonedCorrelationIds →
    call'.cancellationRequested = true
  cancellations : ∀ buffer,
    (s'.clients call.client).pendingCancellations.get? call.correlationKey = some buffer →
      call'.cancellationRequested = true ∧ call.correlationId = buffer

section Concerns

variable {s' : CorrelationPool} {call' : PooledCall}

theorem Concerns.self (hc : s.Concerns s' i call call') : s'.calls[i]? = some call' := by
  rw [hc.calls, if_pos rfl]

theorem Concerns.other (hc : s.Concerns s' i call call') {j : Nat} (hne : j ≠ i) :
    s'.calls[j]? = s.calls[j]? := by
  rw [hc.calls, if_neg hne]

/-- The calls of `s'` were calls before, with the same buffer. -/
theorem Concerns.was (hc : s.Concerns s' i call call') (hcall : s.calls[i]? = some call) {j : Nat}
    {other' : PooledCall} (hother : s'.calls[j]? = some other') :
    ∃ other, s.calls[j]? = some other ∧ other'.client = other.client ∧
      other'.correlationKey = other.correlationKey ∧ other'.correlationId = other.correlationId ∧
        (Holds other' → Holds other) := by
  by_cases hij : j = i
  · subst hij
    obtain rfl := Option.some.inj (hc.self.symm.trans hother)
    exact ⟨call, hcall, hc.client, hc.correlationKey, hc.correlationId, hc.holds⟩
  · rw [hc.other hij] at hother
    exact ⟨other', hother, rfl, rfl, rfl, id⟩

/-- A buffer in the pool was there, or is the one that the call gives back. -/
theorem Concerns.mem_pool (hc : s.Concerns s' i call call') {buffer : Nat}
    (hbuffer : buffer ∈ s'.correlationIdPool) :
    buffer ∈ s.correlationIdPool ∨
      buffer = call.correlationId ∧ Holds call ∧ ¬ Holds call' := by
  rcases hc.pool with hpool | ⟨hheld, hnot, -, hpool⟩
  · exact Or.inl (hpool ▸ hbuffer)
  · rw [hpool, List.mem_append, List.mem_singleton] at hbuffer
    exact hbuffer.imp_right fun heq => ⟨heq, hheld, hnot⟩

/-- Elsewhere the tables mean what they meant. -/
theorem Concerns.means (hc : s.Concerns s' i call call') (hcall : s.calls[i]? = some call)
    {client key : Nat} {P : Nat → PooledCall → Prop}
    (hne : client ≠ call.client ∨ key ≠ call.correlationKey) (hmeans : s.Means client key P) :
    s'.Means client key P := by
  obtain ⟨j, other, hother, hclient, hkey, hP⟩ := hmeans
  refine ⟨j, other, ?_, hclient, hkey, hP⟩
  rw [hc.other, hother]
  intro hji
  subst hji
  obtain rfl := Option.some.inj (hcall.symm.trans hother)
  rcases hne with hne | hne
  · exact hne hclient.symm
  · exact hne hkey.symm

/-- The entries of other keys are as they were. -/
theorem Concerns.elsewhere (hc : s.Concerns s' i call call') (client : Nat) {key : Nat}
    (hne : client ≠ call.client ∨ key ≠ call.correlationKey) :
    (s'.clients client).pendingRpcs.get? key = (s.clients client).pendingRpcs.get? key ∧
      (key ∈ (s'.clients client).abandonedCorrelationIds ↔
        key ∈ (s.clients client).abandonedCorrelationIds) ∧
      (s'.clients client).pendingCancellations.get? key =
        (s.clients client).pendingCancellations.get? key := by
  by_cases hclient : client = call.client
  · subst hclient
    exact hc.tables key (hne.resolve_left (by simp))
  · rw [hc.clients client hclient]
    simp

/-- The call itself after the change. -/
theorem Concerns.soundCall_self (hc : s.Concerns s' i call call') (hold : s.SoundCall i call) :
    s'.SoundCall i call' where
  buffer_lt := by
    rw [hc.correlationId, hc.buffers]
    exact hold.buffer_lt
  not_pooled := by
    intro hholds hmem
    rw [hc.correlationId] at hmem
    rcases hc.mem_pool hmem with hmem | ⟨-, -, hnot⟩
    · exact hold.not_pooled (hc.holds hholds) hmem
    · exact hnot hholds
  contents := by
    intro hholds
    rw [hc.correlationId, hc.correlationKey, hc.contents]
    exact hold.contents (hc.holds hholds)
  live := by
    rw [hc.client, hc.correlationKey]
    exact hc.live
  cancelled := by
    rw [hc.client, hc.correlationKey]
    exact hc.cancelled
  abandoning := hc.abandoning

/-- What another call has in the tables stays. -/
theorem Concerns.soundCall_other (hc : s.Concerns s' i call call') (h : s.Sound)
    (hcall : s.calls[i]? = some call) {j : Nat} {other : PooledCall} (hne : j ≠ i)
    (hother : s.calls[j]? = some other) : s'.SoundCall j other := by
  have hsound := h.call j other hother
  have hkey : other.correlationKey ≠ call.correlationKey := fun hkey =>
    hne (h.keys j i other call hother hcall hkey)
  obtain ⟨hpending, habandoned, -⟩ := hc.elsewhere other.client (Or.inr hkey)
  refine ⟨?_, ?_, ?_, ?_, ?_, hsound.abandoning⟩
  · rw [hc.buffers]
    exact hsound.buffer_lt
  · -- The buffer that goes back to the pool is another one.
    intro hholds hmem
    rcases hc.mem_pool hmem with hmem | ⟨heq, hheld, -⟩
    · exact hsound.not_pooled hholds hmem
    · exact h.distinct j i other call hother hcall hholds hheld hne heq
  · rw [hc.contents]
    exact hsound.contents
  · rw [hpending, habandoned]
    exact hsound.live
  · rw [hpending, habandoned]
    exact hsound.cancelled

theorem Concerns.length_le (hc : s.Concerns s' i call call') (h : s.Sound) :
    s'.correlationIdPool.length ≤ maxCorrelationIdPoolSize := by
  rcases hc.pool with hpool | ⟨-, -, hlt, hpool⟩ <;> rw [hpool]
  · exact h.length_le
  · rw [List.length_append, List.length_singleton]
    exact hlt

theorem Concerns.nodup (hc : s.Concerns s' i call call') (h : s.Sound)
    (hcall : s.calls[i]? = some call) : s'.correlationIdPool.Nodup := by
  rcases hc.pool with hpool | ⟨hheld, -, -, hpool⟩ <;> rw [hpool]
  · exact h.nodup
  · have hnot : call.correlationId ∉ s.correlationIdPool := (h.call i call hcall).not_pooled hheld
    rw [← List.concat_eq_append]
    exact List.Nodup.concat hnot h.nodup

/-- A step that concerns one call only keeps everything sound. -/
theorem Sound.of_concerns (h : s.Sound) (hcall : s.calls[i]? = some call) (call' : PooledCall)
    (hc : s.Concerns s' i call call') : s'.Sound where
  nodup := hc.nodup h hcall
  length_le := hc.length_le h
  pool_lt := by
    intro buffer hbuffer
    rw [hc.buffers]
    rcases hc.mem_pool hbuffer with hmem | ⟨rfl, -⟩
    · exact h.pool_lt buffer hmem
    · exact (h.call i call hcall).buffer_lt
  call := by
    intro j other hother
    -- the call of the step, or another one
    by_cases hij : j = i
    · subst hij
      obtain rfl := Option.some.inj (hc.self.symm.trans hother)
      exact hc.soundCall_self (h.call j call hcall)
    · exact hc.soundCall_other h hcall hij ((hc.other hij).symm.trans hother)
  keys := by
    intro j k other another hother hanother hkey
    obtain ⟨other₀, hother₀, -, hkey₁, -⟩ := hc.was hcall hother
    obtain ⟨another₀, hanother₀, -, hkey₂, -⟩ := hc.was hcall hanother
    exact h.keys j k other₀ another₀ hother₀ hanother₀ (by rw [← hkey₁, ← hkey₂, hkey])
  distinct := by
    intro j k other another hother hanother hholds hholds' hne
    obtain ⟨other₀, hother₀, -, -, hid₁, hheld₁⟩ := hc.was hcall hother
    obtain ⟨another₀, hanother₀, -, -, hid₂, hheld₂⟩ := hc.was hcall hanother
    rw [hid₁, hid₂]
    exact h.distinct j k other₀ another₀ hother₀ hanother₀ (hheld₁ hholds) (hheld₂ hholds') hne
  pending := by
    intro client key j hget
    -- the key of the call, or another key of some client
    by_cases hhere : client = call.client ∧ key = call.correlationKey
    · obtain ⟨rfl, rfl⟩ := hhere
      exact ⟨i, call', hc.self, hc.client, hc.correlationKey, hc.pending j hget⟩
    · have hne := not_and_or.mp hhere
      rw [(hc.elsewhere client hne).1] at hget
      exact hc.means hcall hne (h.pending client key j hget)
  abandoned := by
    intro client key hmem
    by_cases hhere : client = call.client ∧ key = call.correlationKey
    · obtain ⟨rfl, rfl⟩ := hhere
      exact ⟨i, call', hc.self, hc.client, hc.correlationKey, hc.abandoned hmem⟩
    · have hne := not_and_or.mp hhere
      rw [(hc.elsewhere client hne).2.1] at hmem
      exact hc.means hcall hne (h.abandoned client key hmem)
  cancellations := by
    intro client key buffer hget
    by_cases hhere : client = call.client ∧ key = call.correlationKey
    · obtain ⟨rfl, rfl⟩ := hhere
      obtain ⟨hcancelled, hid⟩ := hc.cancellations buffer hget
      exact ⟨i, call', hc.self, hc.client, hc.correlationKey, hcancelled,
        hc.correlationId.trans hid⟩
    · have hne := not_and_or.mp hhere
      rw [(hc.elsewhere client hne).2.2] at hget
      exact hc.means hcall hne (h.cancellations client key buffer hget)
  encoded := by
    intro j id hmem
    rcases hc.encoded j id hmem with hmem | ⟨rfl, rfl⟩
    · obtain ⟨other, hother, hid⟩ := h.encoded j id hmem
      by_cases hij : j = i
      · subst hij
        obtain rfl := Option.some.inj (hcall.symm.trans hother)
        exact ⟨call', hc.self, hid.trans hc.correlationKey.symm⟩
      · exact ⟨other, (hc.other hij).trans hother, hid⟩
    · exact ⟨call', hc.self, hc.correlationKey.symm⟩

end Concerns

/-! ## The steps that concern one call -/

theorem getElem?_modifyCall {f : PooledCall → PooledCall} (hcall : s.calls[i]? = some call)
    (j : Nat) : (s.modifyCall i f).calls[j]? = if j = i then some (f call) else s.calls[j]? := by
  rw [modifyCall, List.getElem?_modify]
  split
  · rename_i hij
    subst hij
    simp [hcall]
  · rename_i hij
    rw [if_neg fun heq => hij heq.symm]
    simp

/-- What changes of the call is neither whether it is over nor its buffer. -/
theorem Sound.modifyCall (h : s.Sound) (hcall : s.calls[i]? = some call)
    {f : PooledCall → PooledCall} (hclient : (f call).client = call.client)
    (hkey : (f call).correlationKey = call.correlationKey)
    (hid : (f call).correlationId = call.correlationId) (hdone : (f call).done = call.done)
    (hcancelled : (f call).cancellationRequested = call.cancellationRequested)
    (habandoning : (f call).abandoning = true → call.abandoning = true) :
    (s.modifyCall i f).Sound := by
  have hold := h.call i call hcall
  have hholds : Holds (f call) ↔ Holds call := by rw [Holds, Holds, hdone, hcancelled]
  refine h.of_concerns hcall (f call) ?_
  refine ⟨getElem?_modifyCall hcall, hclient, hkey, hid, rfl, rfl, fun _ _ => rfl, ?_,
    fun _ _ => Or.inl, Or.inl rfl, hholds.mp, ?_, ?_, ?_, ?_, ?_, ?_⟩
  · intro other _
    exact ⟨rfl, Iff.rfl, rfl⟩
  · rw [hdone]
    exact hold.live
  · rw [hdone, hcancelled]
    exact hold.cancelled
  · rw [hcancelled]
    exact fun habandon => hold.abandoning (habandoning habandon)
  · intro j hget
    rw [hholds]
    exact h.of_means hcall (h.pending _ _ j hget)
  · intro hmem
    rw [hcancelled]
    exact h.of_means hcall (h.abandoned _ _ hmem)
  · intro buffer hget
    rw [hcancelled]
    exact h.of_means hcall (h.cancellations _ _ buffer hget)

theorem Sound.settleRequestSent (h : s.Sound) (hcall : s.calls[i]? = some call) (sent : Bool) :
    (s.settleRequestSent i sent).Sound :=
  h.modifyCall hcall rfl rfl rfl rfl rfl id

/-- The buffer of a call that is over goes to the pool, or to nobody. -/
theorem releasePooledCorrelationId_eq (buffer : Nat) :
    s.releasePooledCorrelationId buffer = s ∨
      s.correlationIdPool.length < maxCorrelationIdPoolSize ∧
        s.releasePooledCorrelationId buffer =
          { s with correlationIdPool := s.correlationIdPool ++ [buffer] } := by
  unfold releasePooledCorrelationId
  split
  · exact Or.inl rfl
  · rename_i hlt
    exact Or.inr ⟨Nat.not_le.mp hlt, rfl⟩

theorem releasePooledCorrelationId_modifyCall (i : Nat) (f : PooledCall → PooledCall)
    (buffer : Nat) : (s.modifyCall i f).releasePooledCorrelationId buffer =
      (s.releasePooledCorrelationId buffer).modifyCall i f := by
  by_cases hfull : s.correlationIdPool.length ≥ maxCorrelationIdPoolSize <;>
    simp [releasePooledCorrelationId, modifyCall, hfull]

section Cleanup

variable {client key : Nat}

theorem cleanupPendingRpc_of_none (hget : (s.clients client).pendingRpcs.get? key = none)
    (buffer : Nat) : s.cleanupPendingRpc client key buffer = s := by
  simp [cleanupPendingRpc, hget]

/-- The buffer of an abandoned call is not given back. -/
theorem cleanupPendingRpc_of_abandoned (hget : (s.clients client).pendingRpcs.get? key = some i)
    (hmem : key ∈ (s.clients client).abandonedCorrelationIds) (buffer : Nat) :
    s.cleanupPendingRpc client key buffer = s.setTables client { s.clients client with
      pendingRpcs := (s.clients client).pendingRpcs.delete key
      abandonedCorrelationIds := (s.clients client).abandonedCorrelationIds.erase key } := by
  simp [cleanupPendingRpc, hget, hmem]

theorem cleanupPendingRpc_of_live (hget : (s.clients client).pendingRpcs.get? key = some i)
    (hnot : key ∉ (s.clients client).abandonedCorrelationIds) (buffer : Nat) :
    s.cleanupPendingRpc client key buffer = (s.setTables client { s.clients client with
      pendingRpcs := (s.clients client).pendingRpcs.delete key }).releasePooledCorrelationId
        buffer := by
  simp [cleanupPendingRpc, hget, hnot]

end Cleanup

/-- Whether the iterator is over plays no part in the clean-up. -/
theorem cleanupPendingRpc_modifyCall (i : Nat) (f : PooledCall → PooledCall)
    (client key buffer : Nat) :
    (s.modifyCall i f).cleanupPendingRpc client key buffer =
      (s.cleanupPendingRpc client key buffer).modifyCall i f := by
  cases hget : (s.clients client).pendingRpcs.get? key with
  | none =>
    rw [cleanupPendingRpc_of_none hget, cleanupPendingRpc_of_none (s := s.modifyCall i f) hget]
  | some j =>
    by_cases hmem : key ∈ (s.clients client).abandonedCorrelationIds
    · rw [cleanupPendingRpc_of_abandoned hget hmem,
        cleanupPendingRpc_of_abandoned (s := s.modifyCall i f) hget hmem]
      rfl
    · rw [cleanupPendingRpc_of_live hget hmem,
        cleanupPendingRpc_of_live (s := s.modifyCall i f) hget hmem]
      exact releasePooledCorrelationId_modifyCall (s := s.setTables client _) i f buffer

/-- What changes are the entries of the call. -/
theorem Sound.setTables (h : s.Sound) (hcall : s.calls[i]? = some call) {tables : RpcTables}
    (hsame : SameBut (s.clients call.client) tables call.correlationKey)
    (hlive : call.done = false → tables.pendingRpcs.get? call.correlationKey = some i ∧
      call.correlationKey ∉ tables.abandonedCorrelationIds)
    (hcancelled : call.cancellationRequested = true →
      tables.pendingRpcs.get? call.correlationKey = some i →
        call.correlationKey ∈ tables.abandonedCorrelationIds)
    (hpending : ∀ j, tables.pendingRpcs.get? call.correlationKey = some j → i = j ∧ Holds call)
    (habandoned : call.correlationKey ∈ tables.abandonedCorrelationIds →
      call.cancellationRequested = true)
    (hcancellations : ∀ buffer,
      tables.pendingCancellations.get? call.correlationKey = some buffer →
        call.cancellationRequested = true ∧ call.correlationId = buffer) :
    (s.setTables call.client tables).Sound := by
  have hold := h.call i call hcall
  have htables : (s.setTables call.client tables).clients call.client = tables := by
    simp [CorrelationPool.setTables]
  refine h.of_concerns hcall call ?_
  refine ⟨?_, rfl, rfl, rfl, rfl, rfl, ?_, by rwa [htables], fun _ _ => Or.inl, Or.inl rfl, id,
    by rwa [htables], ?_, hold.abandoning, by rwa [htables], by rwa [htables], by rwa [htables]⟩
  · intro j
    split
    · rename_i hij
      exact hij ▸ hcall
    · rfl
  · intro client hne
    simp [CorrelationPool.setTables, hne]
  · intro hrequested
    rw [htables]
    exact ⟨(hold.cancelled hrequested).1, hcancelled hrequested⟩

/-- A frame is encoded from a buffer that the call holds. -/
theorem Sound.encode (h : s.Sound) (hcall : s.calls[i]? = some call) (hholds : Holds call) :
    (s.encode i call).Sound := by
  have hold := h.call i call hcall
  refine h.of_concerns hcall call ?_
  refine ⟨?_, rfl, rfl, rfl, rfl, rfl, fun _ _ => rfl, fun _ _ => ⟨rfl, Iff.rfl, rfl⟩, ?_,
    Or.inl rfl, id, hold.live, hold.cancelled, hold.abandoning, ?_, ?_, ?_⟩
  · intro j
    split
    · rename_i hij
      exact hij ▸ hcall
    · rfl
  · intro j id hmem
    rw [CorrelationPool.encode, List.mem_append, List.mem_singleton] at hmem
    refine hmem.imp_right fun heq => ?_
    obtain ⟨rfl, rfl⟩ := Prod.mk.inj heq
    exact ⟨rfl, hold.contents hholds⟩
  · exact fun j hget => h.of_means hcall (h.pending _ _ j hget)
  · exact fun hmem => h.of_means hcall (h.abandoned _ _ hmem)
  · exact fun buffer hget => h.of_means hcall (h.cancellations _ _ buffer hget)

/-- The buffer of a cancelled call is not released. -/
theorem Sound.cleanupPendingRpc (h : s.Sound) (hcall : s.calls[i]? = some call)
    (hcancelled : call.cancellationRequested = true) (buffer : Nat) :
    (s.cleanupPendingRpc call.client call.correlationKey buffer).Sound := by
  have hold := h.call i call hcall
  cases hget : (s.clients call.client).pendingRpcs.get? call.correlationKey with
  | none => rwa [cleanupPendingRpc_of_none hget]
  | some j =>
    obtain ⟨rfl, -⟩ := h.of_means hcall (h.pending _ _ j hget)
    rw [cleanupPendingRpc_of_abandoned hget ((hold.cancelled hcancelled).2 hget)]
    refine h.setTables hcall ?_ ?_ ?_ ?_ ?_ ?_
    · intro other hne
      simp [OrderedMap.get?_delete_of_ne, hne]
    · rw [(hold.cancelled hcancelled).1]
      simp
    · simp
    · simp
    · simp
    · exact fun buffer hget => h.of_means hcall (h.cancellations _ _ buffer hget)

/-- The buffer that a call gives back is held by no other. -/
theorem Concerns.release {s' : CorrelationPool} {call' : PooledCall}
    (hc : s.Concerns s' i call call') (hpool : s'.correlationIdPool = s.correlationIdPool)
    (hheld : Holds call) (hnot : ¬ Holds call') :
    s.Concerns (s'.releasePooledCorrelationId call.correlationId) i call call' := by
  rcases releasePooledCorrelationId_eq (s := s') call.correlationId with heq | ⟨hlt, heq⟩ <;>
    rw [heq]
  · exact hc
  · rw [hpool] at hlt
    exact { hc with pool := Or.inr ⟨hheld, hnot, hlt, by rw [hpool]⟩ }

/-- A live call is over without having been cancelled. -/
theorem Sound.retire (h : s.Sound) (hcall : s.calls[i]? = some call) (hlive : call.done = false) :
    ((s.modifyCall i fun call => { call with done := true }).cleanupPendingRpc call.client
      call.correlationKey call.correlationId).Sound := by
  have hold := h.call i call hcall
  obtain ⟨hget, hnot⟩ := hold.live hlive
  have hcancelled : call.cancellationRequested = false := by
    cases hrequested : call.cancellationRequested with
    | false => rfl
    | true => exact absurd ((hold.cancelled hrequested).1.symm.trans hlive) (by decide)
  rw [cleanupPendingRpc_of_live (s := s.modifyCall i _) hget hnot]
  have hnotHolds : ¬ Holds { call with done := true } := by simp [Holds, hcancelled]
  refine h.of_concerns hcall _ (Concerns.release ?_ rfl (Or.inl hlive) hnotHolds)
  refine ⟨getElem?_modifyCall hcall, rfl, rfl, rfl, rfl, rfl, ?_, ?_, fun _ _ => Or.inl,
    Or.inl rfl, fun _ => Or.inl hlive, ?_, ?_, hold.abandoning, ?_, ?_, ?_⟩
  · intro client hne
    simp [CorrelationPool.setTables, CorrelationPool.modifyCall, hne]
  · intro other hne
    simp [CorrelationPool.setTables, CorrelationPool.modifyCall, OrderedMap.get?_delete_of_ne, hne]
  · simp
  · simp [CorrelationPool.setTables]
  · simp [CorrelationPool.setTables]
  · simp [CorrelationPool.setTables, CorrelationPool.modifyCall, hnot]
  · intro buffer hget
    simp only [CorrelationPool.setTables, Function.update_self] at hget
    exact h.of_means hcall (h.cancellations _ _ buffer hget)

theorem Sound.fail (h : s.Sound) (hcall : s.calls[i]? = some call) : (s.fail i call).Sound := by
  unfold CorrelationPool.fail
  split
  · exact h
  · rename_i hlive
    exact h.retire hcall (Bool.not_eq_true _ ▸ hlive)

theorem Sound.failCall (h : s.Sound) (i : Nat) : (s.failCall i).Sound := by
  unfold CorrelationPool.failCall
  split
  · exact h
  · rename_i call hcall
    exact h.fail hcall

theorem calls_cancel (hcall : s.calls[i]? = some call) :
    ∃ call', (s.cancel i call).calls[i]? = some call' := by
  unfold cancel
  split
  · exact ⟨call, hcall⟩
  · exact ⟨_, (getElem?_modifyCall hcall i).trans (if_pos rfl)⟩

/-- A call that is cancelled keeps its buffer for good. -/
theorem Sound.cancel (h : s.Sound) (hcall : s.calls[i]? = some call) :
    (s.cancel i call).Sound := by
  have hold := h.call i call hcall
  unfold CorrelationPool.cancel
  split
  · exact h
  · rename_i hdone
    have hlive : call.done = false := Bool.not_eq_true _ ▸ hdone
    obtain ⟨hget, -⟩ := hold.live hlive
    refine h.of_concerns hcall
      { call with done := true, cancellationRequested := true, abandoning := true } ?_
    refine ⟨getElem?_modifyCall hcall, rfl, rfl, rfl, rfl, rfl, ?_, ?_, fun _ _ => Or.inl,
      Or.inl rfl, fun _ => Or.inl hlive, ?_, ?_, fun _ => rfl, ?_, ?_, ?_⟩
    · intro client hne
      simp [CorrelationPool.setTables, CorrelationPool.modifyCall, hne]
    · intro other hne
      simp [CorrelationPool.setTables, hne]
    · simp
    · simp [CorrelationPool.setTables]
    · intro j hgetj
      simp only [CorrelationPool.setTables, Function.update_self] at hgetj
      exact ⟨Option.some.inj (hget.symm.trans hgetj), Or.inr rfl⟩
    · simp
    · intro buffer hgetb
      simp only [CorrelationPool.setTables, Function.update_self] at hgetb
      exact ⟨rfl, (h.of_means hcall (h.cancellations _ _ buffer hgetb)).2⟩

theorem Sound.sendCancellationRequest (h : s.Sound) (hcall : s.calls[i]? = some call)
    (hcancelled : call.cancellationRequested = true) :
    ((s.setTables call.client { s.clients call.client with
      pendingCancellations := (s.clients call.client).pendingCancellations.set
        call.correlationKey call.correlationId }).encode i call).Sound := by
  have hold := h.call i call hcall
  refine Sound.encode (h.setTables hcall ?_ hold.live (fun _ => (hold.cancelled hcancelled).2)
    ?_ (fun _ => hcancelled) ?_) hcall (Or.inr hcancelled)
  · intro other hne
    simp [OrderedMap.get?_set_of_ne, hne]
  · exact fun j hget => h.of_means hcall (h.pending _ _ j hget)
  · intro buffer hget
    rw [OrderedMap.get?_set_self] at hget
    exact ⟨hcancelled, Option.some.inj hget⟩

/-- After `requestSent` an abandoned call encodes its id at most once more. -/
theorem Sound.abandon (h : s.Sound) (hcall : s.calls[i]? = some call)
    (habandoning : call.abandoning = true) (sent : Bool) : (s.abandon i call sent).Sound := by
  have hcancelled := (h.call i call hcall).abandoning habandoning
  have hmodified : (s.modifyCall i fun call => { call with abandoning := false }).Sound :=
    h.modifyCall hcall rfl rfl rfl rfl rfl (by simp)
  have hself : (s.modifyCall i fun call => { call with abandoning := false }).calls[i]? =
      some { call with abandoning := false } := by
    rw [getElem?_modifyCall hcall, if_pos rfl]
  unfold CorrelationPool.abandon
  dsimp only
  split
  · exact hmodified.cleanupPendingRpc hself hcancelled _
  · split
    · exact hmodified.cleanupPendingRpc hself hcancelled _
    · have hsent := hmodified.sendCancellationRequest hself hcancelled
      exact hsent

/-- A response goes to the call that its key means. -/
theorem Sound.response (h : s.Sound) (client correlationKey : Nat) (kind : ResponseKind) :
    (s.response client correlationKey kind).Sound := by
  unfold CorrelationPool.response
  cases hget : (s.clients client).pendingRpcs.get? correlationKey with
  | none => exact h
  | some i =>
    obtain ⟨j, call, hcall, rfl, rfl, hji, hholds⟩ := h.pending client correlationKey i hget
    subst hji
    simp only [hcall]
    cases kind with
    | push => exact h
    | error => exact h.fail hcall
    -- the iterator ends, and the call leaves the tables
    | terminal =>
      simp only [← cleanupPendingRpc_modifyCall]
      rcases hholds with hlive | hcancelled
      · exact h.retire hcall hlive
      · -- The iterator was over already.
        have hdone := ((h.call j call hcall).cancelled hcancelled).1
        have hmodified : (s.modifyCall j fun call => { call with done := true }).Sound :=
          h.modifyCall hcall rfl rfl rfl hdone.symm rfl id
        have hself : (s.modifyCall j fun call => { call with done := true }).calls[j]? =
            some { call with done := true } := by
          rw [getElem?_modifyCall hcall, if_pos rfl]
        have hcleaned := hmodified.cleanupPendingRpc hself hcancelled call.correlationId
        exact hcleaned

/-- The answer to a cancellation request takes the call out of the tables. -/
theorem Sound.cancellationResult (h : s.Sound) (client correlationKey : Nat) :
    (s.cancellationResult client correlationKey).Sound := by
  unfold CorrelationPool.cancellationResult
  dsimp only
  split
  · exact h
  · rename_i buffer hget
    obtain ⟨i, call, hcall, rfl, rfl, hcancelled, rfl⟩ := h.cancellations _ _ buffer hget
    have hold := h.call i call hcall
    have hset : (s.setTables call.client { s.clients call.client with
        pendingCancellations := (s.clients call.client).pendingCancellations.delete
          call.correlationKey }).Sound := by
      refine h.setTables hcall ?_ hold.live (fun _ => (hold.cancelled hcancelled).2) ?_
        (fun _ => hcancelled) ?_
      · intro other hne
        simp [OrderedMap.get?_delete_of_ne, hne]
      · exact fun j hget => h.of_means hcall (h.pending _ _ j hget)
      · simp
    exact hset.cleanupPendingRpc hcall hcancelled _

/-! ## The disconnect listener -/

@[simp] theorem calls_releasePooledCorrelationId (buffer : Nat) :
    (s.releasePooledCorrelationId buffer).calls = s.calls := by
  unfold releasePooledCorrelationId
  split <;> rfl

@[simp] theorem calls_cleanupPendingRpc (client key buffer : Nat) :
    (s.cleanupPendingRpc client key buffer).calls = s.calls := by
  simp only [cleanupPendingRpc, apply_ite CorrelationPool.calls, setTables,
    calls_releasePooledCorrelationId, ite_self]

theorem calls_failCall (k j : Nat) :
    (s.failCall k).calls[j]? =
      if j = k then s.calls[k]?.map fun call => { call with done := true } else s.calls[j]? := by
  unfold failCall
  split
  · rename_i hnone
    split
    · rename_i hjk
      rw [hjk, hnone, Option.map_none]
    · rfl
  · rename_i call hcall
    unfold fail
    split
    · rename_i hdone
      split
      · rename_i hjk
        rw [hjk, hcall, Option.map_some, ← hdone]
      · rfl
    · rw [calls_cleanupPendingRpc, getElem?_modifyCall hcall, hcall, Option.map_some]

theorem Sound.foldl_failCall (l : List Nat) (h : s.Sound) :
    (l.foldl CorrelationPool.failCall s).Sound := by
  induction l generalizing s with
  | nil => exact h
  | cons k l ih => exact ih (h.failCall k)

/-- What is live after some calls have been failed was live, and is none of them. -/
theorem live_of_foldl_failCall (l : List Nat) {j : Nat} {call : PooledCall}
    (hcall : (l.foldl failCall s).calls[j]? = some call) (hlive : call.done = false) :
    s.calls[j]? = some call ∧ j ∉ l := by
  induction l generalizing s with
  | nil => exact ⟨hcall, List.not_mem_nil⟩
  | cons k l ih =>
    obtain ⟨hcall₁, hnot⟩ := ih hcall
    rw [calls_failCall] at hcall₁
    split at hcall₁
    · obtain ⟨call₀, -, rfl⟩ := Option.map_eq_some_iff.mp hcall₁
      cases hlive
    · rename_i hne
      exact ⟨hcall₁, by simp [hne, hnot]⟩

/-- The tables of a client without live calls are cleared. -/
theorem Sound.clear (h : s.Sound) {client : Nat}
    (hdone : ∀ (i : Nat) (call : PooledCall), s.calls[i]? = some call → call.client = client →
      call.done = true) : (s.setTables client {}).Sound := by
  have htables : ∀ other, (s.setTables client {}).clients other =
      if other = client then {} else s.clients other := by
    intro other
    simp [CorrelationPool.setTables, Function.update_apply]
  refine ⟨h.nodup, h.length_le, h.pool_lt, ?_, h.keys, h.distinct, ?_, ?_, ?_, h.encoded⟩
  · intro i call hcall
    have hold := h.call i call hcall
    refine ⟨hold.buffer_lt, hold.not_pooled, hold.contents, ?_, ?_, hold.abandoning⟩
    · intro hlive
      have hne : call.client ≠ client := fun heq => by
        rw [hdone i call hcall heq] at hlive
        cases hlive
      rw [htables, if_neg hne]
      exact hold.live hlive
    · intro hcancelled
      refine ⟨(hold.cancelled hcancelled).1, ?_⟩
      rw [htables]
      split
      · simp
      · exact (hold.cancelled hcancelled).2
  · intro other key j hget
    rw [htables] at hget
    split at hget
    · simp at hget
    · exact h.pending other key j hget
  · intro other key hmem
    rw [htables] at hmem
    split at hmem
    · simp at hmem
    · exact h.abandoned other key hmem
  · intro other key buffer hget
    rw [htables] at hget
    split at hget
    · simp at hget
    · exact h.cancellations other key buffer hget

/-- The disconnect listener fails the pending calls of its client and clears its tables. -/
theorem Sound.disconnect (h : s.Sound) (client : Nat) : (s.disconnect client).Sound := by
  refine Sound.clear (h.foldl_failCall _) ?_
  intro i call hcall hclient
  cases hdone : call.done with
  | true => rfl
  | false =>
    -- A live call was pending, and so has been failed.
    obtain ⟨hwas, hnot⟩ := live_of_foldl_failCall _ hcall hdone
    obtain ⟨hget, -⟩ := (h.call i call hwas).live hdone
    rw [hclient] at hget
    exact absurd (OrderedMap.mem_values.mpr ⟨_, hget⟩) hnot

/-! ## A new call -/

/-- The buffer of a new call is nobody else's. -/
theorem acquirePooledCorrelationId_eq (h : s.Sound) (random : Nat) :
    ∃ correlationId pool buffers, s.acquirePooledCorrelationId random =
        (correlationId, { s with
          correlationIdPool := pool
          contents := Function.update s.contents correlationId random
          buffers := buffers }) ∧
      pool.Sublist s.correlationIdPool ∧ correlationId ∉ pool ∧ correlationId < buffers ∧
        s.buffers ≤ buffers ∧
          (correlationId ∈ s.correlationIdPool ∨ s.buffers ≤ correlationId) := by
  unfold acquirePooledCorrelationId
  cases hlast : s.correlationIdPool.getLast? with
  | none =>
    refine ⟨s.buffers, s.correlationIdPool, s.buffers + 1, rfl, List.Sublist.refl _, ?_,
      Nat.lt_succ_self _, Nat.le_succ _, Or.inr le_rfl⟩
    rw [List.getLast?_eq_none_iff.mp hlast]
    exact List.not_mem_nil
  | some correlationId =>
    obtain ⟨pool, hpool⟩ := List.getLast?_eq_some_iff.mp hlast
    have hnodup := h.nodup
    have hlt := h.pool_lt correlationId
    rw [hpool] at hnodup hlt
    refine ⟨correlationId, s.correlationIdPool.dropLast, s.buffers, rfl,
      List.dropLast_sublist _, ?_, hlt (by simp), le_rfl, Or.inl (by simp [hpool])⟩
    rw [hpool, List.dropLast_concat]
    exact fun hmem => (List.nodup_append.mp hnodup).2.2 _ hmem _ (by simp) rfl

/-- What `acquirePooledCorrelationId` has done, for a call that is now pending and sent. -/
structure Starts (s s' : CorrelationPool) (call : PooledCall) : Prop where
  calls : s'.calls = s.calls ++ [call]
  live : call.done = false
  not_cancelled : call.cancellationRequested = false
  not_abandoning : call.abandoning = false
  fresh : ∀ other ∈ s.calls, other.correlationKey ≠ call.correlationKey
  pool : s'.correlationIdPool.Sublist s.correlationIdPool
  not_pooled : call.correlationId ∉ s'.correlationIdPool
  buffers : call.correlationId < s'.buffers ∧ s.buffers ≤ s'.buffers
  unheld : call.correlationId ∈ s.correlationIdPool ∨ s.buffers ≤ call.correlationId
  contents : s'.contents =
    Function.update s.contents call.correlationId call.correlationKey
  clients : s'.clients = Function.update s.clients call.client { s.clients call.client with
    pendingRpcs := (s.clients call.client).pendingRpcs.set call.correlationKey s.calls.length }
  encoded : ∀ j id, (j, id) ∈ s'.encoded →
    (j, id) ∈ s.encoded ∨ j = s.calls.length ∧ id = call.correlationKey

section Starts

variable {s' : CorrelationPool}

theorem Starts.self (hn : s.Starts s' call) : s'.calls[s.calls.length]? = some call := by
  rw [hn.calls, List.getElem?_concat_length]

theorem Starts.other (hn : s.Starts s' call) {j : Nat} {other : PooledCall}
    (hother : s.calls[j]? = some other) : s'.calls[j]? = some other := by
  obtain ⟨hlt, -⟩ := List.getElem?_eq_some_iff.mp hother
  rw [hn.calls, List.getElem?_append_left hlt, hother]

/-- A call was there, or is the new one. -/
theorem Starts.was (hn : s.Starts s' call) {j : Nat} {other : PooledCall}
    (hother : s'.calls[j]? = some other) :
    s.calls[j]? = some other ∨ j = s.calls.length ∧ other = call := by
  rw [hn.calls, List.getElem?_append] at hother
  split at hother
  · exact Or.inl hother
  · rename_i hge
    rw [List.getElem?_singleton] at hother
    split at hother
    · exact Or.inr ⟨by omega, (Option.some.inj hother).symm⟩
    · cases hother

theorem Starts.fresh_of (hn : s.Starts s' call) {j : Nat} {other : PooledCall}
    (hother : s.calls[j]? = some other) : other.correlationKey ≠ call.correlationKey :=
  hn.fresh other (List.mem_of_getElem? hother)

/-- The acquired buffer is held by no call. -/
theorem Starts.ne_of_holds (hn : s.Starts s' call) (h : s.Sound) {j : Nat} {other : PooledCall}
    (hother : s.calls[j]? = some other) (hholds : Holds other) :
    other.correlationId ≠ call.correlationId := by
  intro heq
  have hold := h.call j other hother
  rcases hn.unheld with hmem | hge
  · exact hold.not_pooled hholds (heq ▸ hmem)
  · exact absurd hold.buffer_lt (by omega)

/-- The entries of other keys are as they were. -/
theorem Starts.elsewhere (hn : s.Starts s' call) (client : Nat) {key : Nat}
    (hne : key ≠ call.correlationKey) :
    (s'.clients client).pendingRpcs.get? key = (s.clients client).pendingRpcs.get? key := by
  rw [hn.clients, Function.update_apply]
  split
  · rename_i hclient
    rw [hclient]
    exact OrderedMap.get?_set_of_ne _ _ hne
  · rfl

theorem Starts.abandoned (hn : s.Starts s' call) (client : Nat) :
    (s'.clients client).abandonedCorrelationIds = (s.clients client).abandonedCorrelationIds := by
  rw [hn.clients, Function.update_apply]
  split
  · rename_i hclient
    rw [hclient]
  · rfl

theorem Starts.cancellations (hn : s.Starts s' call) (client : Nat) :
    (s'.clients client).pendingCancellations = (s.clients client).pendingCancellations := by
  rw [hn.clients, Function.update_apply]
  split
  · rename_i hclient
    rw [hclient]
  · rfl

theorem Starts.means (hn : s.Starts s' call) {client key : Nat} {P : Nat → PooledCall → Prop}
    (hmeans : s.Means client key P) : s'.Means client key P := by
  obtain ⟨j, other, hother, hrest⟩ := hmeans
  exact ⟨j, other, hn.other hother, hrest⟩

/-- The buffer of a new call was free, so no other call holds it. -/
theorem Starts.soundCall_other (hn : s.Starts s' call) (h : s.Sound) {j : Nat}
    {other : PooledCall} (hother : s.calls[j]? = some other) : s'.SoundCall j other := by
  have hold := h.call j other hother
  have hpending := hn.elsewhere other.client (hn.fresh_of hother)
  refine ⟨lt_of_lt_of_le hold.buffer_lt hn.buffers.2, ?_, ?_, ?_, ?_, hold.abandoning⟩
  · exact fun hholds hmem => hold.not_pooled hholds (hn.pool.subset hmem)
  · intro hholds
    rw [hn.contents, Function.update_of_ne (hn.ne_of_holds h hother hholds)]
    exact hold.contents hholds
  · rw [hpending, hn.abandoned]
    exact hold.live
  · rw [hpending, hn.abandoned]
    exact hold.cancelled

theorem Starts.soundCall_self (hn : s.Starts s' call) (h : s.Sound) :
    s'.SoundCall s.calls.length call where
  buffer_lt := hn.buffers.1
  not_pooled := fun _ => hn.not_pooled
  contents := fun _ => by rw [hn.contents, Function.update_self]
  live := by
    intro _
    constructor
    · rw [hn.clients, Function.update_self]
      exact OrderedMap.get?_set_self _ _ _
    · -- An abandoned key is the key of a call.
      rw [hn.abandoned]
      intro hmem
      obtain ⟨j, other, hother, -, hkey, -⟩ := h.abandoned _ _ hmem
      exact hn.fresh_of hother hkey
  cancelled := fun hcancelled => by simp [hn.not_cancelled] at hcancelled
  abandoning := fun habandoning => by simp [hn.not_abandoning] at habandoning

/-- A new call has an id of its own in each table. -/
theorem Sound.of_starts (h : s.Sound) (hn : s.Starts s' call) : s'.Sound where
  nodup := h.nodup.sublist hn.pool
  length_le := hn.pool.length_le.trans h.length_le
  pool_lt := fun buffer hmem =>
    lt_of_lt_of_le (h.pool_lt buffer (hn.pool.subset hmem)) hn.buffers.2
  call := by
    intro j other hother
    rcases hn.was hother with hother | ⟨rfl, rfl⟩
    · exact hn.soundCall_other h hother
    · exact hn.soundCall_self h
  keys := by
    intro j k other another hother hanother hkey
    -- two calls of before, or the new one and another
    rcases hn.was hother with hother | ⟨rfl, rfl⟩ <;>
      rcases hn.was hanother with hanother | ⟨rfl, rfl⟩
    · exact h.keys j k other another hother hanother hkey
    · exact absurd hkey (hn.fresh_of hother)
    · exact absurd hkey.symm (hn.fresh_of hanother)
    · rfl
  distinct := by
    intro j k other another hother hanother hholds hholds' hne
    rcases hn.was hother with hother | ⟨rfl, rfl⟩ <;>
      rcases hn.was hanother with hanother | ⟨rfl, rfl⟩
    · exact h.distinct j k other another hother hanother hholds hholds' hne
    · exact hn.ne_of_holds h hother hholds
    · exact (hn.ne_of_holds h hanother hholds').symm
    · exact absurd rfl hne
  pending := by
    intro client key j hget
    -- the key of the new call leads to it, every other key where it led before
    by_cases hhere : client = call.client ∧ key = call.correlationKey
    · obtain ⟨rfl, rfl⟩ := hhere
      rw [hn.clients, Function.update_self, OrderedMap.get?_set_self] at hget
      exact ⟨_, call, hn.self, rfl, rfl, Option.some.inj hget, Or.inl hn.live⟩
    · refine hn.means (h.pending client key j ?_)
      rw [hn.clients, Function.update_apply] at hget
      split at hget
      · rename_i hclient
        subst hclient
        rwa [OrderedMap.get?_set_of_ne _ _ fun hkey => hhere ⟨rfl, hkey⟩] at hget
      · exact hget
  abandoned := by
    intro client key hmem
    rw [hn.abandoned] at hmem
    exact hn.means (h.abandoned client key hmem)
  cancellations := by
    intro client key buffer hget
    rw [hn.cancellations] at hget
    exact hn.means (h.cancellations client key buffer hget)
  encoded := by
    intro j id hmem
    rcases hn.encoded j id hmem with hmem | ⟨rfl, rfl⟩
    · obtain ⟨other, hother, hid⟩ := h.encoded j id hmem
      exact ⟨other, hn.other hother, hid⟩
    · exact ⟨call, hn.self, rfl⟩

end Starts

theorem calls_acquirePooledCorrelationId (random : Nat) :
    (s.acquirePooledCorrelationId random).2.calls = s.calls := by
  unfold acquirePooledCorrelationId
  split <;> rfl

/-- A call whose signal is aborted is cancelled as soon as it is made. -/
theorem call_of_aborted (client random : Nat) (supportsCancellation encoded : Bool) :
    s.call client random true supportsCancellation encoded =
      let cancelled := (s.call client random false supportsCancellation encoded).cancel
        s.calls.length
        { client, correlationKey := random, supportsCancellation, encoded
          correlationId := (s.acquirePooledCorrelationId random).1 }
      if encoded then cancelled.settleRequestSent s.calls.length false else cancelled := by
  have hcalls := calls_acquirePooledCorrelationId (s := s) random
  unfold call
  generalize s.acquirePooledCorrelationId random = acquired at hcalls
  obtain ⟨correlationId, s₁⟩ := acquired
  dsimp only at hcalls
  cases encoded <;> simp [cancel, encode, settleRequestSent, modifyCall, setTables, hcalls]

theorem Sound.starts (h : s.Sound) (client : Nat) {random : Nat}
    (supportsCancellation encoded : Bool)
    (hfresh : ∀ call ∈ s.calls, call.correlationKey ≠ random) :
    s.Starts (s.call client random false supportsCancellation encoded)
      { client, correlationKey := random, supportsCancellation, encoded
        correlationId := (s.acquirePooledCorrelationId random).1 } := by
  obtain ⟨correlationId, pool, buffers, heq, hsub, hnot, hlt, hle, hunheld⟩ :=
    acquirePooledCorrelationId_eq h random
  unfold CorrelationPool.call
  simp only [heq]
  cases encoded with
  | false =>
    exact ⟨rfl, rfl, rfl, rfl, hfresh, hsub, hnot, ⟨hlt, hle⟩, hunheld, rfl, rfl,
      fun _ _ => Or.inl⟩
  | true =>
    refine ⟨rfl, rfl, rfl, rfl, hfresh, hsub, hnot, ⟨hlt, hle⟩, hunheld, rfl, rfl, ?_⟩
    simp [CorrelationPool.encode, CorrelationPool.setTables]

theorem Sound.newCall (h : s.Sound) {client random : Nat}
    (aborted supportsCancellation encoded : Bool)
    (hfresh : ∀ call ∈ s.calls, call.correlationKey ≠ random) :
    (s.call client random aborted supportsCancellation encoded).Sound := by
  have hstarts := h.starts client supportsCancellation encoded hfresh
  cases aborted with
  | false => exact h.of_starts hstarts
  | true =>
    rw [call_of_aborted]
    have hcancel := (h.of_starts hstarts).cancel hstarts.self
    obtain ⟨call', hself⟩ := calls_cancel hstarts.self
    cases encoded with
    | false => exact hcancel
    | true => exact hcancel.settleRequestSent hself false

/-! ## Every run -/

/-- The step lemma: each event concerns one call, or makes one. -/
theorem Sound.step {e : PoolEvent} {s' : CorrelationPool} (h : s.Sound) (hfresh : s.Fresh e)
    (hs : s.step e = some s') : s'.Sound := by
  cases e with
  | call client random aborted supportsCancellation encoded =>
    exact Option.some.inj hs ▸ h.newCall aborted supportsCancellation encoded hfresh
  | cancel i =>
    obtain ⟨call, hcall, rfl⟩ := Option.map_eq_some_iff.mp hs
    exact h.cancel hcall
  | sent i ok =>
    simp only [CorrelationPool.step] at hs
    split at hs
    · cases hs
    · rename_i call hcall
      split at hs
      · cases hs
      · split at hs
        · exact Option.some.inj hs ▸ h.settleRequestSent hcall true
        · exact Option.some.inj hs ▸ (h.settleRequestSent hcall false).failCall i
  | abandon i =>
    simp only [CorrelationPool.step] at hs
    split at hs
    · cases hs
    · rename_i call hcall
      obtain ⟨habandoning, heq⟩ := Option.ite_none_right_eq_some.mp hs
      obtain ⟨sent, -, rfl⟩ := Option.map_eq_some_iff.mp heq
      exact h.abandon hcall habandoning sent
  | response client correlationKey kind =>
    exact Option.some.inj hs ▸ h.response client correlationKey kind
  | cancellationResult client correlationKey =>
    exact Option.some.inj hs ▸ h.cancellationResult client correlationKey
  | disconnect client => exact Option.some.inj hs ▸ h.disconnect client

/-- In every run whose random ids are new, the calls that are pending or abandoned have different
buffers, none of which is in the pool; no buffer is in the pool twice, and no more than 64 are; and
until its last frame has been encoded the buffer of a call keeps its id. -/
theorem correlationPool_sound {events : List PoolEvent} {s : CorrelationPool}
    (hfresh : machine.Guarded Fresh machine.init events) (hrun : machine.run events = some s) :
    s.Separate := by
  have hsound : s.Sound :=
    hfresh.invariant (I := Sound) sound_init (fun _ _ _ h hfresh hs => h.step hfresh hs) hrun
  exact hsound.separate

/-- One call is answered, one is cancelled, and one is made with an aborted signal. -/
def threeCalls : List PoolEvent :=
  [.call 0 7 false true true, .sent 0 true, .response 0 7 .terminal, .call 1 8 false true true,
    .sent 1 true, .cancel 1, .abandon 1, .call 0 9 true false true, .cancellationResult 1 8]

/-- The second call has the buffer of the first, which was answered, and the third another one. -/
theorem correlationPool_sound_threeCalls :
    ∃ s, machine.run threeCalls = some s ∧ s.calls.map (·.correlationId) = [0, 0, 1] ∧
      s.correlationIdPool = [] ∧ s.encoded = [(0, 7), (1, 8), (1, 8), (2, 9)] ∧ s.Separate := by
  have hfresh : machine.Guarded Fresh machine.init threeCalls := by decide
  exact ⟨_, rfl, rfl, rfl, rfl, correlationPool_sound hfresh rfl⟩

end CorrelationPool

end FitzTs.Rpc
