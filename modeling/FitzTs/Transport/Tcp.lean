import FitzTs.Lib.ArrayBuffer
import FitzTs.Lib.Framing
import FitzTs.Lib.Machine
import Mathlib.Data.List.Nodup
/-!
# FitzTs.Transport.Tcp

`createTcpTransport` of `transport/tcp.ts`, from the time its socket is connected.

`handleData` cuts the chunks of the socket into messages: it fills `lengthBuffer`, then a buffer of
that length. `receive` takes a message from the queue, or leaves a receiver that the next message
goes to. The timer of a `receive` sets the variable `receiver` to null, also where a later call has
put its own there.

`enqueued`, `allocated`, `resolved` and `rejected` record what has happened; no function reads them.
-/

namespace FitzTs.Tcp

open BigEndian ArrayBuffer Framing

abbrev Bytes := List UInt8

/-- The identity of a call of `receive`. -/
abbrev ReceiveId := Nat

inductive TransportError
  | transport (message : String)
  | timeout (message : String)
  deriving DecidableEq, Repr

structure TransportOptions where
  /-- In milliseconds. -/
  timeout : Nat := 30000
  maxFrameSize : Nat := 1024 * 1024
  receiveTimeout : Bool := true
  deriving DecidableEq, Repr

/-- The variables of `handleData`. -/
structure Deframer where
  lengthBuffer : Bytes := List.replicate 4 0
  lengthOffset : Nat := 0
  currentMessageLength : Option Nat := none
  messageBuffer : Option Bytes := none
  messageOffset : Nat := 0
  /-- `socket.destroy` has been called. -/
  destroyed : Bool := false
  /-- The lengths of the message buffers made so far, latest first. -/
  allocated : List Nat := []

/-- The variables of `receive`. -/
structure Inbox where
  connected : Bool := true
  receiveQueue : List Bytes := []
  receiver : Option ReceiveId := none
  terminalError : Option TransportError := none
  /-- The number of calls of `receive`, and the next identity. -/
  receives : ReceiveId := 0
  /-- The calls whose timer is armed. -/
  timers : List ReceiveId := []
  /-- The arguments of `enqueueMessage`, first come first. -/
  enqueued : List Bytes := []
  /-- The messages that calls of `receive` have returned, first come first. -/
  resolved : List (ReceiveId × Bytes) := []
  /-- The calls that have thrown. -/
  rejected : List (ReceiveId × TransportError) := []

/-- A connected transport. -/
structure TcpTransport extends Deframer, Inbox where
  options : TransportOptions

namespace Inbox

def enqueueMessage (b : Inbox) (data : Bytes) : Inbox :=
  let b := { b with enqueued := b.enqueued ++ [data] }
  match b.receiver with
  | some i =>
    { b with
      receiver := none
      timers := b.timers.filter (· ≠ i)
      resolved := b.resolved ++ [(i, data)] }
  | none => { b with receiveQueue := b.receiveQueue ++ [data] }

def failReceive (b : Inbox) (error : TransportError) : Inbox :=
  let b := { b with terminalError := some (b.terminalError.getD error) }
  match b.receiver with
  | some i =>
    { b with
      receiver := none
      timers := b.timers.filter (· ≠ i)
      rejected := (i, error) :: b.rejected }
  | none => b

def closedError : TransportError := .transport "Connection closed"

/-- A call of `receive`; its timer is armed if `receiveTimeoutEnabled`. -/
def receive (b : Inbox) (receiveTimeoutEnabled : Bool) : Inbox :=
  let i := b.receives
  let b := { b with receives := i + 1 }
  match b.receiveQueue with
  | message :: receiveQueue => { b with receiveQueue, resolved := b.resolved ++ [(i, message)] }
  | [] =>
    match b.terminalError with
    | some error => { b with rejected := (i, error) :: b.rejected }
    | none =>
      if b.connected then
        { b with
          receiver := some i
          timers := if receiveTimeoutEnabled then i :: b.timers else b.timers }
      else { b with rejected := (i, closedError) :: b.rejected }

/-- The timer of call `i` fires. -/
def receiveTimedOut (b : Inbox) (i : ReceiveId) (error : TransportError) : Inbox :=
  { b with
    receiver := none
    timers := b.timers.filter (· ≠ i)
    rejected := (i, error) :: b.rejected }

/-! ### The calls and their messages -/

/-- A message is in the queue, or one call of `receive` has returned it. -/
structure Sound (b : Inbox) : Prop where
  delivered : b.resolved.map (·.2) ++ b.receiveQueue = b.enqueued
  waits : ∀ i, b.receiver = some i → b.receiveQueue = []
  once : (b.resolved.map (·.1)).Nodup
  called : ∀ i ∈ b.resolved.map (·.1), i < b.receives
  receiver : ∀ i, b.receiver = some i → i < b.receives ∧ i ∉ b.resolved.map (·.1)

variable {b b' : Inbox}

theorem sound_create : Sound {} :=
  ⟨rfl, fun _ h => (nomatch h), List.nodup_nil, fun _ h => (nomatch h), fun _ h => (nomatch h)⟩

theorem Sound.enqueueMessage (h : b.Sound) (data : Bytes) : (b.enqueueMessage data).Sound := by
  unfold Inbox.enqueueMessage
  dsimp only
  split
  · rename_i i hi
    obtain ⟨hlt, hnew⟩ := h.receiver i hi
    have hqueue := h.waits i hi
    refine ⟨?_, fun _ h => (nomatch h), ?_, fun j hj => ?_, fun _ h => (nomatch h)⟩
    · simp [← h.delivered, hqueue]
    · rw [List.map_append]
      exact List.Nodup.append h.once (List.nodup_singleton i)
        (List.disjoint_singleton.mpr hnew)
    · rw [List.map_append] at hj
      rcases List.mem_append.mp hj with hj | hj
      · exact h.called j hj
      · obtain rfl := List.mem_singleton.mp hj
        exact hlt
  · rename_i hnone
    refine ⟨?_, fun i hi => ?_, h.once, h.called, fun i hi => ?_⟩
    · rw [← List.append_assoc, h.delivered]
    · rw [hnone] at hi
      cases hi
    · rw [hnone] at hi
      cases hi

theorem Sound.foldl (h : b.Sound) (ms : List Bytes) :
    (ms.foldl Inbox.enqueueMessage b).Sound := by
  induction ms generalizing b with
  | nil => exact h
  | cons m ms ih => exact ih (h.enqueueMessage m)

theorem foldl_enqueued (b : Inbox) (ms : List Bytes) :
    (ms.foldl Inbox.enqueueMessage b).enqueued = b.enqueued ++ ms := by
  induction ms generalizing b with
  | nil => exact (List.append_nil _).symm
  | cons m ms ih =>
      have hfirst : (b.enqueueMessage m).enqueued = b.enqueued ++ [m] := by
        unfold Inbox.enqueueMessage
        dsimp only
        split <;> rfl
      rw [List.foldl_cons, ih, hfirst, List.append_assoc]
      rfl

/-- Nobody waits, and the rest is as it was. -/
theorem Sound.unset (h : b.Sound) (hreceiver : b'.receiver = none)
    (hqueue : b'.receiveQueue = b.receiveQueue) (hresolved : b'.resolved = b.resolved)
    (hreceives : b'.receives = b.receives) (henqueued : b'.enqueued = b.enqueued) : b'.Sound := by
  refine ⟨?_, fun i hi => ?_, ?_, fun i hi => ?_, fun i hi => ?_⟩
  · rw [hresolved, hqueue, henqueued, h.delivered]
  · rw [hreceiver] at hi
    cases hi
  · rw [hresolved]
    exact h.once
  · rw [hreceives]
    exact h.called i (hresolved ▸ hi)
  · rw [hreceiver] at hi
    cases hi

theorem Sound.disconnected (h : b.Sound) : Sound { b with connected := false } :=
  ⟨h.delivered, h.waits, h.once, h.called, h.receiver⟩

theorem Sound.failReceive (h : b.Sound) (error : TransportError) :
    (failReceive { b with connected := false } error).Sound := by
  unfold Inbox.failReceive
  dsimp only
  split
  · exact h.unset rfl rfl rfl rfl rfl
  · exact ⟨h.delivered, h.waits, h.once, h.called, h.receiver⟩

theorem failReceive_enqueued (b : Inbox) (error : TransportError) :
    (failReceive { b with connected := false } error).enqueued = b.enqueued := by
  unfold failReceive
  dsimp only
  split <;> rfl

/-- A new call returns the first message of the queue, waits, or throws. -/
theorem Sound.receive (h : b.Sound) (receiveTimeoutEnabled : Bool) :
    (b.receive receiveTimeoutEnabled).Sound := by
  have hnew : b.receives ∉ b.resolved.map (·.1) := fun hi => absurd (h.called _ hi) (lt_irrefl _)
  have hcalled : ∀ i ∈ b.resolved.map (·.1), i < b.receives + 1 := fun i hi =>
    Nat.lt_succ_of_lt (h.called i hi)
  have hreceiver : ∀ i, b.receiver = some i →
      i < b.receives + 1 ∧ i ∉ b.resolved.map (·.1) := fun i hi =>
    ⟨Nat.lt_succ_of_lt (h.receiver i hi).1, (h.receiver i hi).2⟩
  unfold Inbox.receive
  dsimp only
  split
  · rename_i message queue hqueue
    have hnone : ∀ i, b.receiver ≠ some i := by
      intro i hi
      have hempty := h.waits i hi
      rw [hqueue] at hempty
      cases hempty
    refine ⟨?_, fun i hi => absurd hi (hnone i), ?_, fun i hi => ?_,
      fun i hi => absurd hi (hnone i)⟩
    · simp [← h.delivered, hqueue]
    · rw [List.map_append]
      exact List.Nodup.append h.once (List.nodup_singleton _)
        (List.disjoint_singleton.mpr hnew)
    · rw [List.map_append] at hi
      rcases List.mem_append.mp hi with hi | hi
      · exact hcalled i hi
      · obtain rfl := List.mem_singleton.mp hi
        exact Nat.lt_succ_self _
  · rename_i hqueue
    split
    · exact ⟨h.delivered, h.waits, h.once, hcalled, hreceiver⟩
    · split
      · refine ⟨h.delivered, fun _ _ => hqueue, h.once, hcalled, fun i hi => ?_⟩
        obtain rfl := Option.some.inj hi
        exact ⟨Nat.lt_succ_self _, hnew⟩
      · exact ⟨h.delivered, h.waits, h.once, hcalled, hreceiver⟩

theorem receive_enqueued (b : Inbox) (receiveTimeoutEnabled : Bool) :
    (b.receive receiveTimeoutEnabled).enqueued = b.enqueued := by
  unfold receive
  dsimp only
  split
  · rfl
  · split
    · rfl
    · split <;> rfl

end Inbox

namespace TcpTransport

def create (options : TransportOptions) : TcpTransport := { options }

/-! ### Messages out of chunks -/

/-- The part of the loop that reads the length, and what is left of the chunk; `none` is the
`return`. -/
def readLength (t : TcpTransport) (chunk : Bytes) : TcpTransport × Option Bytes :=
  match t.currentMessageLength with
  | some _ => (t, some chunk)
  | none =>
    let toCopy := min (4 - t.lengthOffset) chunk.length
    let t := { t with
      lengthBuffer := overwrite t.lengthBuffer t.lengthOffset (chunk.take toCopy)
      lengthOffset := t.lengthOffset + toCopy }
    if t.lengthOffset = 4 then
      let length := getUint t.lengthBuffer 0 4
      if length > t.options.maxFrameSize then
        ({ t with destroyed := true, currentMessageLength := none, lengthOffset := 0 }, none)
      else
        ({ t with
            currentMessageLength := some length
            messageBuffer := some (List.replicate length 0)
            messageOffset := 0
            allocated := length :: t.allocated },
          some (chunk.drop toCopy))
    else (t, some (chunk.drop toCopy))

/-- The part of the loop that reads the message, and what is left of the chunk. -/
def readMessage (t : TcpTransport) (chunk : Bytes) : TcpTransport × Bytes :=
  match t.currentMessageLength, t.messageBuffer with
  | some length, some buffer =>
    let toCopy := min (length - t.messageOffset) chunk.length
    let buffer := overwrite buffer t.messageOffset (chunk.take toCopy)
    let messageOffset := t.messageOffset + toCopy
    if messageOffset = length then
      ({ t with
          toInbox := t.toInbox.enqueueMessage buffer
          currentMessageLength := none
          lengthOffset := 0
          messageBuffer := none
          messageOffset := 0 },
        chunk.drop toCopy)
    else ({ t with messageBuffer := some buffer, messageOffset }, chunk.drop toCopy)
  | _, _ => (t, chunk)

/-- The loop of `handleData` over what is left of the chunk; `none` when it takes more turns
than `turns`. -/
def handleDataLoop : Nat → TcpTransport → Bytes → Option TcpTransport
  | _, t, [] => some t
  | 0, _, _ :: _ => none
  | turns + 1, t, byte :: chunk =>
    match t.readLength (byte :: chunk) with
    | (t, none) => some t
    | (t, some rest) =>
      let (t, rest) := t.readMessage rest
      handleDataLoop turns t rest

def handleData (t : TcpTransport) (chunk : Bytes) : Option TcpTransport :=
  handleDataLoop chunk.length t chunk

/-! ### The transport -/

def receiveTimeoutError (t : TcpTransport) : TransportError :=
  .timeout s!"TCP receive timeout after {t.options.timeout}ms"

def failReceive (t : TcpTransport) (error : TransportError) : TcpTransport :=
  { t with toInbox := { t.toInbox with connected := false }.failReceive error }

/-- What can happen to a connected transport. -/
inductive Event
  /-- The socket emits "data"; it does not after it has been destroyed. -/
  | data (chunk : Bytes)
  | receive
  | receiveTimeout (i : ReceiveId)
  | socketError (message : String)
  | socketClose
  | socketTimeout

/-- One step; `none` is an event that cannot happen. -/
def step (t : TcpTransport) : Event → Option TcpTransport
  | .data chunk => if t.destroyed then none else t.handleData chunk
  | .receive => some { t with toInbox := t.toInbox.receive t.options.receiveTimeout }
  | .receiveTimeout i =>
    if i ∈ t.timers then
      some { t with toInbox := t.toInbox.receiveTimedOut i t.receiveTimeoutError }
    else none
  | .socketError message =>
    some (t.failReceive
      (.transport ("TCP error: " ++ if message = "" then "unknown error" else message)))
  | .socketClose =>
    some (if t.terminalError.isSome then { t with connected := false }
      else t.failReceive Inbox.closedError)
  | .socketTimeout =>
    some (if t.options.receiveTimeout then
      { t.failReceive t.receiveTimeoutError with destroyed := true } else t)

def machine (options : TransportOptions) : Machine TcpTransport Event := ⟨create options, step⟩

/-- What `send` writes to the socket. -/
def sent (data : Bytes) : Bytes := frame data

/-- The bytes the socket emits in an event. -/
def emitted : Event → Bytes
  | .data chunk => chunk
  | _ => []

/-- The bytes the socket has emitted in a run. -/
def received (es : List Event) : Bytes := es.flatMap emitted

/-! ### The deframer -/

variable {t t' : TcpTransport} {p chunk rest body : Bytes} {n : Nat}

/-- `p` is the beginning of a length. -/
structure AwaitsLength (t : TcpTransport) (p : Bytes) : Prop where
  lengthBuffer : t.lengthBuffer.length = 4
  current : t.currentMessageLength = none
  offset : t.lengthOffset = p.length
  short : p.length < 4
  bytes : t.lengthBuffer.take p.length = p

/-- A message of `n` bytes begins with `body`. -/
structure AwaitsMessage (t : TcpTransport) (n : Nat) (body : Bytes) : Prop where
  lengthBuffer : t.lengthBuffer.length = 4
  current : t.currentMessageLength = some n
  limit : n ≤ t.options.maxFrameSize
  width : n < 2 ^ 32
  offset : t.messageOffset = body.length
  within : body.length ≤ n
  buffer : ∃ buffer, t.messageBuffer = some buffer ∧ buffer.length = n ∧
    buffer.take body.length = body

/-- `p` is what has been received of the current message, its length included. -/
def Pending (t : TcpTransport) (p : Bytes) : Prop :=
  t.AwaitsLength p ∨ ∃ n body, t.AwaitsMessage n body ∧ body.length < n ∧ p = toBytes 4 n ++ body

theorem Pending.incomplete (h : t.Pending p) : Incomplete t.options.maxFrameSize p := by
  rcases h with h | ⟨n, body, h, hmore, rfl⟩
  · exact Or.inl h.short
  · exact Or.inr ⟨n, body, h.limit, h.width, hmore, rfl⟩

/-- The bytes that are written over a buffer behind its valid part. -/
theorem overwrite_take {l : Bytes} (src : Bytes) (hp : l.take p.length = p) :
    (overwrite l p.length src).take (p.length + src.length) = p ++ src := by
  rw [overwrite, hp, List.take_left' (by simp)]

/-- The length is read, or a part of it. -/
theorem AwaitsLength.readLength (h : t.AwaitsLength p) (hchunk : chunk ≠ []) :
    (∃ t', t.readLength chunk = (t', none) ∧ t'.toInbox = t.toInbox ∧ t'.options = t.options ∧
        t'.destroyed = true ∧ t'.allocated = t.allocated ∧
        Overlong t.options.maxFrameSize (p ++ chunk)) ∨
      ∃ t' rest, t.readLength chunk = (t', some rest) ∧ t'.toInbox = t.toInbox ∧
        t'.options = t.options ∧ t'.destroyed = t.destroyed ∧ rest.length < chunk.length ∧
        (t'.AwaitsLength (p ++ chunk) ∧ rest = [] ∧ t'.allocated = t.allocated ∨
          ∃ n, t'.AwaitsMessage n [] ∧ p ++ chunk = toBytes 4 n ++ rest ∧
            t'.allocated = n :: t.allocated) := by
  have hpos := List.length_pos_iff.mpr hchunk
  have hshort := h.short
  have hbuffer := h.lengthBuffer
  unfold TcpTransport.readLength
  rw [h.current, h.offset]
  dsimp only
  have hcopied : (chunk.take (min (4 - p.length) chunk.length)).length =
      min (4 - p.length) chunk.length := by
    rw [List.length_take]
    omega
  have hwritten := overwrite_take (chunk.take (min (4 - p.length) chunk.length)) h.bytes
  have hsplit := List.take_append_drop (min (4 - p.length) chunk.length) chunk
  have hrest : (chunk.drop (min (4 - p.length) chunk.length)).length < chunk.length := by
    rw [List.length_drop]
    omega
  have hlength := length_overwrite t.lengthBuffer (chunk.take (min (4 - p.length) chunk.length))
    p.length (by rw [hcopied]; omega)
  rw [hcopied] at hwritten
  rw [hbuffer] at hlength
  generalize hbytes : chunk.take (min (4 - p.length) chunk.length) = copied at *
  generalize hfield : overwrite t.lengthBuffer p.length copied = field at *
  split
  · rename_i hfull
    -- the four bytes are there
    have hnumber : toBytes 4 (getUint field 0 4) = p ++ copied := by
      rw [toBytes_getUint (by omega), ← hwritten, hfull]
      rfl
    have hparts : p ++ chunk = toBytes 4 (getUint field 0 4) ++
        chunk.drop (min (4 - p.length) chunk.length) := by
      rw [hnumber, List.append_assoc, hsplit]
    split
    · rename_i hover
      exact Or.inl ⟨_, rfl, rfl, rfl, rfl, rfl, _, _, hover, getUint_lt _ _ _, hparts⟩
    · rename_i hwithin
      refine Or.inr ⟨_, _, rfl, rfl, rfl, rfl, hrest, Or.inr ⟨_, ?_, hparts, rfl⟩⟩
      exact ⟨hlength, rfl, Nat.le_of_not_lt hwithin, getUint_lt _ _ _, rfl, Nat.zero_le _,
        _, rfl, List.length_replicate, rfl⟩
  · -- the chunk ends inside the length
    rename_i hpart
    have hall : min (4 - p.length) chunk.length = chunk.length := by omega
    rw [hall, List.take_length] at hbytes
    subst hbytes
    refine Or.inr ⟨_, _, rfl, rfl, rfl, rfl, hrest, Or.inl ⟨⟨hlength, rfl, ?_, ?_, ?_⟩, ?_, rfl⟩⟩
    · rw [List.length_append, hall]
    · rw [List.length_append]
      omega
    · rw [List.length_append, ← hwritten, hall]
    · rw [hall, List.drop_length]

/-- A part of the message is read, or all of it. -/
theorem AwaitsMessage.readMessage (h : t.AwaitsMessage n body) (chunk : Bytes) :
    ∃ t' rest, t.readMessage chunk = (t', rest) ∧ t'.options = t.options ∧
      t'.destroyed = t.destroyed ∧ t'.allocated = t.allocated ∧ rest.length ≤ chunk.length ∧
      (body.length < n → chunk ≠ [] → rest.length < chunk.length) ∧
      ((∃ message, t'.toInbox = t.toInbox.enqueueMessage message ∧ message.length = n ∧
          t'.AwaitsLength [] ∧ body ++ chunk = message ++ rest) ∨
        t'.toInbox = t.toInbox ∧ rest = [] ∧ t'.AwaitsMessage n (body ++ chunk) ∧
          (body ++ chunk).length < n) := by
  obtain ⟨buffer, hbuffer, hlength, hbody⟩ := h.buffer
  have hwithin := h.within
  unfold TcpTransport.readMessage
  rw [h.current, hbuffer, h.offset]
  dsimp only
  have hcopied : (chunk.take (min (n - body.length) chunk.length)).length =
      min (n - body.length) chunk.length := by
    rw [List.length_take]
    omega
  have hwritten := overwrite_take (chunk.take (min (n - body.length) chunk.length)) hbody
  have hsplit := List.take_append_drop (min (n - body.length) chunk.length) chunk
  have hrest : (chunk.drop (min (n - body.length) chunk.length)).length =
      chunk.length - min (n - body.length) chunk.length := List.length_drop ..
  have hlength' := length_overwrite buffer (chunk.take (min (n - body.length) chunk.length))
    body.length (by rw [hcopied]; omega)
  rw [hcopied] at hwritten
  rw [hlength] at hlength'
  have progress : body.length < n → chunk ≠ [] →
      (chunk.drop (min (n - body.length) chunk.length)).length < chunk.length := by
    intro hmore hchunk
    have hpos := List.length_pos_iff.mpr hchunk
    omega
  split
  · -- the message is complete
    rename_i hfull
    rw [hfull, List.take_of_length_le hlength'.le] at hwritten
    refine ⟨_, _, rfl, rfl, rfl, rfl, by omega, progress,
      Or.inl ⟨_, rfl, hlength', ⟨h.lengthBuffer, rfl, rfl, by decide, rfl⟩, ?_⟩⟩
    rw [hwritten, List.append_assoc, hsplit]
  · -- the chunk ends inside the message
    rename_i hpart
    have hall : min (n - body.length) chunk.length = chunk.length := by omega
    rw [hall, List.take_length] at hwritten
    refine ⟨_, _, rfl, rfl, rfl, rfl, by omega, progress,
      Or.inr ⟨rfl, by rw [hall, List.drop_length], ⟨h.lengthBuffer, rfl, h.limit, h.width,
        ?_, ?_, _, rfl, hlength', ?_⟩, ?_⟩⟩
    · dsimp only
      rw [List.length_append, hall]
    · rw [List.length_append]
      omega
    · rw [List.length_append, ← hwritten, hall, List.take_length]
    · rw [List.length_append]
      omega

/-- While no length is known, the loop reads no message. -/
theorem AwaitsLength.readMessage (h : t.AwaitsLength p) (chunk : Bytes) :
    t.readMessage chunk = (t, chunk) := by
  unfold TcpTransport.readMessage
  rw [h.current]

/-- What `handleData` makes of a chunk: it hands over the messages `ms`, in this order. -/
structure HandsOver (t : TcpTransport) (p chunk : Bytes) (ms : List Bytes) (t' : TcpTransport) :
    Prop where
  options : t'.options = t.options
  toInbox : t'.toInbox = ms.foldl Inbox.enqueueMessage t.toInbox
  fits : ∀ m ∈ ms, Fits t.options.maxFrameSize m
  allocated : ∀ n ∈ t'.allocated, n ∈ t.allocated ∨ n ≤ t.options.maxFrameSize
  rest : ∃ p', p ++ chunk = frames ms ++ p' ∧
    (t'.destroyed = t.destroyed ∧ t'.Pending p' ∨
      t'.destroyed = true ∧ Overlong t.options.maxFrameSize p')

/-- The same from `t`, where `t₁` has the same inbox and has taken some of the chunk. -/
theorem HandsOver.congr {t₁ : TcpTransport} {p₁ : Bytes} {ms : List Bytes}
    (h : t₁.HandsOver p₁ rest ms t') (hinbox : t₁.toInbox = t.toInbox)
    (hoptions : t₁.options = t.options) (hdestroyed : t₁.destroyed = t.destroyed)
    (hallocated : ∀ n ∈ t₁.allocated, n ∈ t.allocated ∨ n ≤ t.options.maxFrameSize)
    (hparts : p ++ chunk = p₁ ++ rest) : t.HandsOver p chunk ms t' := by
  obtain ⟨p', hp', hend⟩ := h.rest
  refine ⟨h.options.trans hoptions, h.toInbox.trans (by rw [hinbox]),
    fun m hm => hoptions ▸ h.fits m hm, fun n hn => ?_, p', hparts.trans hp', ?_⟩
  · rcases h.allocated n hn with hold | hle
    · exact hallocated n hold
    · exact Or.inr (hoptions ▸ hle)
  · rw [← hdestroyed, ← hoptions]
    exact hend

/-- Nothing is left of the chunk. -/
theorem Pending.handsOver (h : t.Pending p) : t.HandsOver p [] [] t :=
  ⟨rfl, rfl, fun _ h => (nomatch h), fun _ hn => Or.inl hn, p, List.append_nil p, Or.inl ⟨rfl, h⟩⟩

/-- The rest of a chunk that begins inside a message. -/
theorem AwaitsMessage.handsOver {turns : Nat} (h : t.AwaitsMessage n body)
    (ih : ∀ t₁ p₁ rest, t₁.Pending p₁ →
      (rest.length ≤ chunk.length ∧ (body.length < n → chunk ≠ [] → rest.length < chunk.length)) →
      ∃ t' ms, handleDataLoop turns t₁ rest = some t' ∧ t₁.HandsOver p₁ rest ms t') :
    ∃ t' ms, handleDataLoop turns (t.readMessage chunk).1 (t.readMessage chunk).2 = some t' ∧
      t.HandsOver (toBytes 4 n ++ body) chunk ms t' := by
  obtain ⟨t₁, rest, heq, hoptions, hdestroyed, hallocated, hle, hlt,
    ⟨message, hinbox, hlength, hawaits, hparts⟩ | ⟨hinbox, rfl, hawaits, hmore⟩⟩ :=
    h.readMessage chunk
  · obtain ⟨t', ms, hloop, hover⟩ := ih t₁ [] rest (Or.inl hawaits) ⟨hle, hlt⟩
    obtain ⟨p', hp', hend⟩ := hover.rest
    rw [heq]
    refine ⟨t', message :: ms, hloop, hover.options.trans hoptions, ?_, fun m hm => ?_,
      fun k hk => ?_, p', ?_, ?_⟩
    · rw [hover.toInbox, hinbox]
      rfl
    · rcases List.mem_cons.mp hm with rfl | hm
      · exact ⟨hlength ▸ h.limit, hlength ▸ h.width⟩
      · exact hoptions ▸ hover.fits m hm
    · rw [← hallocated, ← hoptions]
      exact hover.allocated k hk
    · rw [List.append_assoc, hparts, frames_cons, frame, hlength, List.append_assoc,
        List.append_assoc, ← hp', List.nil_append]
    · rw [← hdestroyed, ← hoptions]
      exact hend
  · rw [heq]
    obtain ⟨t', ms, hloop, hover⟩ := ih t₁ (toBytes 4 n ++ (body ++ chunk)) []
      (Or.inr ⟨n, _, hawaits, hmore, rfl⟩) ⟨hle, hlt⟩
    refine ⟨t', ms, hloop, hover.congr hinbox hoptions hdestroyed (fun k hk => ?_) ?_⟩
    · exact Or.inl (hallocated ▸ hk)
    · rw [List.append_nil, List.append_assoc]

/-- The loop ends, and hands over the messages that are complete. -/
theorem handleDataLoop_handsOver {turns : Nat} (h : t.Pending p) (hturns : chunk.length ≤ turns) :
    ∃ t' ms, handleDataLoop turns t chunk = some t' ∧ t.HandsOver p chunk ms t' := by
  -- a turn takes at least one byte of the chunk, so its length is enough
  induction turns generalizing t p chunk with
  | zero =>
      obtain rfl := List.eq_nil_of_length_eq_zero (Nat.le_zero.mp hturns)
      exact ⟨t, [], rfl, h.handsOver⟩
  | succ turns ih =>
      cases chunk with
      | nil =>
          exact ⟨t, [], rfl, h.handsOver⟩
      | cons byte chunk =>
          rw [List.length_cons, Nat.succ_le_succ_iff] at hturns
          unfold handleDataLoop
          rcases h with h | ⟨n, body, h, hmore, rfl⟩
          · rcases h.readLength (List.cons_ne_nil byte chunk) with
              ⟨t', heq, hinbox, hoptions, hdestroyed, hallocated, hover⟩ |
              ⟨t₁, rest, heq, hinbox, hoptions, hdestroyed, hlt, hread⟩
            · rw [heq]
              exact ⟨t', [], rfl, hoptions, hinbox, fun _ h => (nomatch h),
                fun _ hn => Or.inl (hallocated ▸ hn), _, rfl, Or.inr ⟨hdestroyed, hover⟩⟩
            · rw [List.length_cons] at hlt
              rw [heq]
              rcases hread with ⟨hawaits, rfl, hallocated⟩ | ⟨n, hawaits, hparts, hallocated⟩
              · dsimp only
                rw [hawaits.readMessage]
                obtain ⟨t', ms, hloop, hover⟩ := ih (Or.inl hawaits)
                  (show ([] : Bytes).length ≤ turns from Nat.zero_le turns)
                exact ⟨t', ms, hloop, hover.congr hinbox hoptions hdestroyed
                  (fun k hk => Or.inl (hallocated ▸ hk)) (List.append_nil _).symm⟩
              · obtain ⟨t', ms, hloop, hover⟩ :
                    ∃ t' ms, handleDataLoop turns (t₁.readMessage rest).1 (t₁.readMessage rest).2 =
                      some t' ∧ t₁.HandsOver (toBytes 4 n ++ []) rest ms t' :=
                  hawaits.handsOver fun t₂ p₂ rest' hpending hle => ih hpending (by omega)
                refine ⟨t', ms, hloop, hover.congr hinbox hoptions hdestroyed (fun k hk => ?_) ?_⟩
                · rw [hallocated] at hk
                  rcases List.mem_cons.mp hk with rfl | hk
                  · exact Or.inr (hoptions ▸ hawaits.limit)
                  · exact Or.inl hk
                · rw [hparts, List.append_nil]
          · have heq : t.readLength (byte :: chunk) = (t, some (byte :: chunk)) := by
              unfold TcpTransport.readLength
              rw [h.current]
            rw [heq]
            exact h.handsOver fun t₂ p₂ rest hpending hle =>
              ih hpending ((Nat.le_of_lt_succ (hle.2 hmore (List.cons_ne_nil _ _))).trans hturns)

/-! ### The run -/

/-- The deframer is where it was. -/
theorem Pending.of_deframer (h : t.Pending p) (hdeframer : t'.toDeframer = t.toDeframer)
    (hoptions : t'.options = t.options) : t'.Pending p := by
  rcases h with h | ⟨n, body, h, hmore, rfl⟩
  · refine Or.inl ⟨?_, ?_, ?_, h.short, ?_⟩
    · rw [hdeframer, h.lengthBuffer]
    · rw [hdeframer, h.current]
    · rw [hdeframer, h.offset]
    · rw [hdeframer, h.bytes]
  · refine Or.inr ⟨n, body, ⟨?_, ?_, ?_, h.width, ?_, h.within, ?_⟩, hmore, rfl⟩
    · rw [hdeframer, h.lengthBuffer]
    · rw [hdeframer, h.current]
    · rw [hoptions]
      exact h.limit
    · rw [hdeframer, h.offset]
    · rw [hdeframer]
      exact h.buffer

/-- What has been received is the messages handed over, and what is pending of the next or
is not going to be read. -/
structure Deframes (options : TransportOptions) (es : List Event) (t : TcpTransport) : Prop where
  sameOptions : t.options = options
  inbox : t.toInbox.Sound
  fits : ∀ m ∈ t.enqueued, Fits options.maxFrameSize m
  allocated : ∀ n ∈ t.allocated, n ≤ options.maxFrameSize
  stream : ∃ p, received es = frames t.enqueued ++ p ∧
    (t.destroyed = false ∧ t.Pending p ∨ t.destroyed = true ∧
      (Incomplete options.maxFrameSize p ∨ Overlong options.maxFrameSize p))

variable {options : TransportOptions} {es : List Event}

theorem deframes_create (options : TransportOptions) : Deframes options [] (create options) where
  sameOptions := rfl
  inbox := Inbox.sound_create
  fits := fun _ h => (nomatch h)
  allocated := fun _ h => (nomatch h)
  stream := ⟨[], rfl, Or.inl ⟨rfl, Or.inl ⟨rfl, rfl, rfl, by decide, rfl⟩⟩⟩

theorem received_snoc (es : List Event) (e : Event) :
    received (es ++ [e]) = received es ++ emitted e := by
  simp [received]

/-- A step that does not concern the socket's data. -/
theorem Deframes.of_inbox (h : Deframes options es t) {e : Event} (hemitted : emitted e = [])
    (hdeframer : t'.toDeframer = t.toDeframer) (hoptions : t'.options = t.options)
    (hinbox : t'.toInbox.Sound) (henqueued : t'.enqueued = t.enqueued) :
    Deframes options (es ++ [e]) t' := by
  obtain ⟨p, hp, hend⟩ := h.stream
  refine
    ⟨hoptions.trans h.sameOptions, hinbox, fun m hm => h.fits m (henqueued ▸ hm), ?_, p, ?_, ?_⟩
  · rw [hdeframer]
    exact h.allocated
  · rw [received_snoc, hemitted, List.append_nil, henqueued, hp]
  · rw [hdeframer]
    exact hend.imp_left fun ⟨hd, hpending⟩ => ⟨hd, hpending.of_deframer hdeframer hoptions⟩

/-- A chunk is taken, and its messages are handed over. -/
theorem Deframes.data (h : Deframes options es t) (hopen : t.destroyed = false) (chunk : Bytes) :
    ∃ t', t.handleData chunk = some t' ∧ Deframes options (es ++ [.data chunk]) t' := by
  obtain ⟨p, hp, hend⟩ := h.stream
  have hpending : t.Pending p := by
    rcases hend with ⟨-, hpending⟩ | ⟨hd, -⟩
    · exact hpending
    · rw [hopen] at hd
      cases hd
  obtain ⟨t', ms, hloop, hover⟩ : ∃ t' ms, t.handleData chunk = some t' ∧
      t.HandsOver p chunk ms t' := handleDataLoop_handsOver hpending le_rfl
  obtain ⟨p', hp', hend'⟩ := hover.rest
  have henqueued : t'.enqueued = t.enqueued ++ ms := by
    rw [hover.toInbox, Inbox.foldl_enqueued]
  refine ⟨t', hloop, hover.options.trans h.sameOptions, ?_, fun m hm => ?_, fun n hn => ?_,
    p', ?_, ?_⟩
  · rw [hover.toInbox]
    exact h.inbox.foldl ms
  · rw [henqueued] at hm
    rcases List.mem_append.mp hm with hm | hm
    · exact h.fits m hm
    · exact h.sameOptions ▸ hover.fits m hm
  · rcases hover.allocated n hn with hold | hle
    · exact h.allocated n hold
    · exact h.sameOptions ▸ hle
  · rw [received_snoc, hp, henqueued, frames_append, List.append_assoc, List.append_assoc, ← hp']
    rfl
  · rcases hend' with ⟨hd, hpending'⟩ | ⟨hd, hlong⟩
    · exact Or.inl ⟨hd.trans hopen, hpending'⟩
    · exact Or.inr ⟨hd, Or.inr (h.sameOptions ▸ hlong)⟩

theorem Deframes.step (h : Deframes options es t) {e : Event} (hst : t.step e = some t') :
    Deframes options (es ++ [e]) t' := by
  cases e with
  | data chunk =>
      simp only [TcpTransport.step] at hst
      split at hst
      · cases hst
      · rename_i hopen
        obtain ⟨t₁, heq, h₁⟩ := h.data (Bool.not_eq_true _ ▸ hopen) chunk
        obtain rfl := Option.some.inj (heq.symm.trans hst)
        exact h₁
  | receive =>
      cases hst
      exact h.of_inbox rfl rfl rfl (h.inbox.receive _) (Inbox.receive_enqueued _ _)
  | receiveTimeout i =>
      simp only [TcpTransport.step] at hst
      split at hst
      · cases hst
        exact h.of_inbox rfl rfl rfl (h.inbox.unset rfl rfl rfl rfl rfl) rfl
      · cases hst
  | socketError message =>
      cases hst
      exact h.of_inbox rfl rfl rfl (h.inbox.failReceive _) (Inbox.failReceive_enqueued _ _)
  | socketClose =>
      cases hst
      split
      · exact h.of_inbox rfl rfl rfl h.inbox.disconnected rfl
      · exact h.of_inbox rfl rfl rfl (h.inbox.failReceive _) (Inbox.failReceive_enqueued _ _)
  | socketTimeout =>
      cases hst
      split
      · obtain ⟨p, hp, hend⟩ := h.stream
        have henqueued := Inbox.failReceive_enqueued t.toInbox t.receiveTimeoutError
        refine ⟨h.sameOptions, h.inbox.failReceive _, fun m hm => h.fits m (henqueued ▸ hm),
          h.allocated, p, ?_, Or.inr ⟨rfl, ?_⟩⟩
        · rw [received_snoc]
          exact (List.append_nil _).trans (hp.trans (by rw [← henqueued]; rfl))
        · rcases hend with ⟨-, hpending⟩ | ⟨-, hend⟩
          · exact Or.inl (h.sameOptions ▸ hpending.incomplete)
          · exact hend
      · exact h.of_inbox rfl rfl rfl h.inbox rfl

theorem deframes_run (hrun : (machine options).run es = some t) : Deframes options es t :=
  Machine.runFrom_induction (M := machine options) (motive := Deframes options)
    (deframes_create options) (fun _ _ _ _ _ h hst => h.step hst) hrun

/-- However a stream of messages is cut into chunks, and whatever calls of `receive` come
between them, these messages are handed over in their order, each to one call. Of a stream
with a length over the limit, it is the messages before it. -/
theorem deframing_run (hrun : (machine options).run es = some t) :
    (∀ ms, (∀ m ∈ ms, m.length ≤ options.maxFrameSize ∧ m.length < 2 ^ 32) →
      received es = ms.flatMap sent → t.enqueued = ms) ∧
    (∀ ms n rest, (∀ m ∈ ms, m.length ≤ options.maxFrameSize ∧ m.length < 2 ^ 32) →
      options.maxFrameSize < n → n < 2 ^ 32 →
      received es = ms.flatMap sent ++ (toBytes 4 n ++ rest) →
        t.enqueued = ms ∧ t.destroyed = true) ∧
    (∀ n ∈ t.allocated, n ≤ options.maxFrameSize) ∧
    t.resolved.map (·.2) ++ t.receiveQueue = t.enqueued ∧ (t.resolved.map (·.1)).Nodup ∧
    (t.destroyed = false → ∀ chunk, (t.step (.data chunk)).isSome) := by
  have h := deframes_run hrun
  -- what has been received is the messages handed over and a part that is no frame
  obtain ⟨p, hp, hend⟩ := h.stream
  have hends : Incomplete options.maxFrameSize p ∨ Overlong options.maxFrameSize p := by
    rcases hend with ⟨-, hpending⟩ | ⟨-, hend⟩
    · exact Or.inl (h.sameOptions ▸ hpending.incomplete)
    · exact hend
  refine ⟨fun ms hms hreceived => ?_, fun ms n rest hms hlong hn hreceived => ?_, h.allocated,
    h.inbox.delivered, h.inbox.once, fun hopen chunk => ?_⟩
  · refine (frames_unique h.fits (fun m hm => ⟨(hms m hm).1, (hms m hm).2⟩) hends
      (Or.inl incomplete_nil) ?_).1
    rw [← hp, hreceived, List.append_nil]
    rfl
  · have hover : Overlong options.maxFrameSize (toBytes 4 n ++ rest) := ⟨n, rest, hlong, hn, rfl⟩
    obtain ⟨henqueued, rfl⟩ := frames_unique h.fits (fun m hm => ⟨(hms m hm).1, (hms m hm).2⟩)
      hends (Or.inr hover) (hp.symm.trans hreceived)
    refine ⟨henqueued, ?_⟩
    rcases hend with ⟨-, hpending⟩ | ⟨hd, -⟩
    · exact absurd (h.sameOptions ▸ hpending.incomplete) (not_incomplete_of_overlong hover)
    · exact hd
  · obtain ⟨t', heq, -⟩ := h.data hopen chunk
    simp only [TcpTransport.step]
    rw [if_neg (by rw [hopen]; decide), heq]
    rfl

/-- Two messages, one of them empty, and a length over the limit behind them. The chunks cut the
lengths and the messages; one call of `receive` waits, its timer fires, and two calls return. -/
def splitRun : List Event :=
  [.receive, .data [0, 0], .receiveTimeout 0, .receive, .data [0, 3, 7],
    .data [8, 9, 0, 0, 0, 0, 0],
    .receive, .data [0, 0, 6, 1, 2]]

theorem deframing_run_split : ∃ t, (machine { maxFrameSize := 5 }).run splitRun = some t ∧
    t.enqueued = [[7, 8, 9], []] ∧ t.destroyed = true ∧
    t.resolved = [(1, [7, 8, 9]), (2, [])] := by
  obtain ⟨t, hrun, hresolved⟩ : ∃ t, (machine { maxFrameSize := 5 }).run splitRun = some t ∧
      t.resolved = [(1, [7, 8, 9]), (2, [])] := ⟨_, rfl, by decide +kernel⟩
  obtain ⟨-, hlong, -⟩ := deframing_run hrun
  obtain ⟨henqueued, hdestroyed⟩ := hlong [[7, 8, 9], []] 6 [1, 2] (by simp) (by decide) (by decide)
    (by decide +kernel)
  exact ⟨t, hrun, henqueued, hdestroyed, hresolved⟩

/-- A message whose length takes more than four bytes is not what is handed over. -/
theorem long_message_lost {m : Bytes} (hlong : 2 ^ 32 ≤ m.length) :
    ∃ t, (machine options).run [.data (sent m)] = some t ∧ t.enqueued ≠ [m] := by
  obtain ⟨t, heq, h⟩ := (deframes_create options).data rfl (sent m)
  have hstep : (create options).step (.data (sent m)) = some t := by
    simp only [TcpTransport.step]
    rw [if_neg (by simp [create]), heq]
  refine ⟨t, ?_, fun henqueued => ?_⟩
  · exact Machine.runFrom_cons.mpr ⟨t, hstep, rfl⟩
  · have hfits := h.fits m (henqueued ▸ List.mem_singleton_self m)
    exact absurd hfits.width (Nat.not_lt.mpr hlong)

/-- The length of `2 ^ 32` zeros is written as four zeros. -/
theorem deframing_run_fails : ¬ ∀ options es t ms, (machine options).run es = some t →
    (∀ m ∈ ms, m.length ≤ options.maxFrameSize) → received es = ms.flatMap sent →
      t.enqueued = ms := by
  intro h
  have zeros : ∀ n, ∃ m : Bytes, m.length = n :=
    fun n => ⟨List.replicate n 0, List.length_replicate⟩
  obtain ⟨m, hm⟩ := zeros (2 ^ 32)
  obtain ⟨t, hrun, hlost⟩ := @long_message_lost { maxFrameSize := 2 ^ 32 } m hm.ge
  refine hlost (h { maxFrameSize := 2 ^ 32 } _ t [m] hrun (fun m' hm' => ?_) rfl)
  obtain rfl := List.mem_singleton.mp hm'
  exact hm.le

end TcpTransport

end FitzTs.Tcp
