import FitzTs.Client.Resilience
import FitzTs.Lib.Machine
import FitzTs.Domains.Routes
import Mathlib.Data.Int.Order.Basic
/-!
# FitzTs.Domains.Stream.Read

`read` of `domains/stream/client.ts`: the generator that reads a stream page by page.

Each page is one READ request, repeated by `executeWithRetry` while it fails for a transient
reason. The next page starts at one past the offset that the page's cursor reports on the axis
of the selector. Two things stand in for a missing report: an answer without a body gets a
cursor that reports the start offset on the resource axis, and a cursor without an offset on the
selector's axis leaves the offset as it is.
-/

namespace FitzTs.Stream

open JsString Routes
open FitzTs.Client (RetryOptions)

/-! ## Pages -/

inductive StreamFilteredReason
  | serverFilter
  | permission
  | projection
  deriving DecidableEq, Repr

/-- `StreamReadItem`, with records of type `ρ`. -/
inductive StreamReadItem (ρ : Type*)
  | event (route : JsString) (record : ρ)
  | filtered (route : JsString) (offset : ℤ) (reason : Option StreamFilteredReason)
  | filteredRange (route : JsString) (fromOffset toOffset : ℤ)
      (reason : Option StreamFilteredReason)
  deriving DecidableEq, Repr

def StreamReadItem.route {ρ : Type*} : StreamReadItem ρ → JsString
  | .event route _ | .filtered route _ _ | .filteredRange route _ _ _ => route

structure StreamReadCursor where
  lastResourceOffset : ℤ
  lastAreaOffset : Option ℤ
  lastRealmOffset : Option ℤ
  lastGlobalOffset : Option ℤ
  cursorFingerprint : Option ℤ
  capturedWatermark : Option ℤ
  hasMore : Bool
  deriving DecidableEq, Repr

/-- What `decodeReadResponse` makes of a successful answer; without a body there is no cursor. -/
structure DecodedRead (ρ : Type*) where
  items : List (StreamReadItem ρ)
  cursor : Option StreamReadCursor
  deriving DecidableEq, Repr

structure StreamReadPage (ρ : Type*) where
  items : List (StreamReadItem ρ)
  cursor : StreamReadCursor
  deriving DecidableEq, Repr

/-- The end of `readPage`. -/
def DecodedRead.page {ρ : Type*} (decoded : DecodedRead ρ) (startOffset : ℤ) :
    StreamReadPage ρ where
  items := decoded.items
  cursor := decoded.cursor.getD
    { lastResourceOffset := startOffset
      lastAreaOffset := none
      lastRealmOffset := none
      lastGlobalOffset := none
      cursorFingerprint := none
      capturedWatermark := none
      hasMore := false }

/-- `streamNextOffset(route, currentOffset, cursor)`. -/
def streamNextOffset (route : JsString) (currentOffset : ℤ) (cursor : StreamReadCursor) : ℤ :=
  match classifyStreamSelectorScope route with
  | some .global => cursor.lastGlobalOffset.elim currentOffset (· + 1)
  | some .realm => cursor.lastRealmOffset.elim currentOffset (· + 1)
  | some .area => cursor.lastAreaOffset.elim currentOffset (· + 1)
  | _ => cursor.lastResourceOffset + 1

/-- `flattenStreamReadItems`. -/
def flattenStreamReadItems {ρ : Type*} (items : List (StreamReadItem ρ)) : List ρ :=
  items.flatMap fun
    | .event _ record => [record]
    | _ => []

structure StreamReadBatch (ρ : Type*) where
  items : List (StreamReadItem ρ)
  records : List ρ
  fromOffset : ℤ
  nextOffset : ℤ
  caughtUp : Bool
  deriving DecidableEq, Repr

/-! ## The generator -/

inductive StreamReadMode
  | replay
  | follow
  deriving DecidableEq, Repr

/-- `StreamReadOptions`, with filters of type `φ`. -/
structure StreamReadOptions (φ : Type*) where
  fromOffset : ℤ
  mode : StreamReadMode
  batchSize : Option Nat
  maxBytes : Option Nat
  filter : Option φ

/-- A READ request. -/
structure ReadRequest (φ : Type*) where
  route : JsString
  startOffset : ℤ
  limit : Nat
  maxBytes : Option Nat
  filter : Option φ
  cursorFingerprint : Option ℤ
  capturedWatermark : Option ℤ

inductive ReadError
  /-- The selector is not accepted. -/
  | invalidRoute
  /-- `StreamReadStalledError`. -/
  | stalled (route : JsString) (fromOffset : ℤ)
  /-- An `AbortError`. -/
  | aborted
  /-- Any other error; `isTransientRetryError` may hold of it. -/
  | failure (isTransient : Bool) (identity : Nat)
  deriving DecidableEq, Repr

inductive ReadPhase
  | created
  /-- `await subscribe(..)`. -/
  | subscribing
  /-- `await readPage(..)`, with its attempt under way. -/
  | requesting (attempt : Nat)
  /-- Between two attempts. -/
  | backingOff (attempt : Nat)
  /-- At the `yield` of a page. -/
  | yielded (hasMore : Bool)
  /-- `await wakeGate.waitAfter(observed)`. -/
  | waiting
  | returned
  /-- The consumer has closed the generator. -/
  | closed
  | threw (error : ReadError)
  deriving DecidableEq, Repr

/-- The variables of `read`, with the requests it has made and the batches it has yielded, each
with the cursor of the answer it came from. -/
structure Read (φ ρ : Type*) where
  route : JsString
  options : StreamReadOptions φ
  retry : RetryOptions
  phase : ReadPhase
  offset : ℤ
  cursorFingerprint : Option ℤ
  capturedWatermark : Option ℤ
  stalledPages : Nat
  /-- The version of the wake gate, and the one observed before the page. -/
  wakeVersion : Nat
  observed : Nat
  requests : List (ReadRequest φ)
  batches : List (StreamReadBatch ρ × Option StreamReadCursor)

inductive ReadEvent (ρ : Type*)
  /-- The consumer asks for the next batch. -/
  | next
  /-- The consumer leaves the loop. -/
  | close
  | subscribed
  | subscribeFailed (error : ReadError)
  /-- READ succeeds. -/
  | answered (decoded : DecodedRead ρ)
  /-- An attempt fails. -/
  | failed (error : ReadError)
  /-- The delay before the next attempt is over. -/
  | retryDue
  /-- A notification or a reconnect wakes the gate. -/
  | wake
  /-- `waitAfter` resolves. -/
  | woken
  /-- The signal is aborted during a delay or a wait. -/
  | aborted

namespace Read

variable {φ ρ : Type*}

def create (route : JsString) (options : StreamReadOptions φ) (retry : RetryOptions) :
    Read φ ρ where
  route := route
  options := options
  retry := retry
  phase := .created
  offset := options.fromOffset
  cursorFingerprint := none
  capturedWatermark := none
  stalledPages := 0
  wakeVersion := 0
  observed := 0
  requests := []
  batches := []

/-- An attempt to read the page at the current offset. -/
def request (c : Read φ ρ) (attempt : Nat) : Read φ ρ :=
  { c with
    phase := .requesting attempt
    requests := c.requests ++ [
      { route := c.route
        startOffset := c.offset
        limit := c.options.batchSize.getD 100
        maxBytes := c.options.maxBytes
        filter := c.options.filter
        cursorFingerprint := c.cursorFingerprint
        capturedWatermark := c.capturedWatermark }] }

/-- The head of the loop. -/
def readPage (c : Read φ ρ) : Read φ ρ := { c with observed := c.wakeVersion }.request 1

/-- `read` up to its first `await`. -/
def start (c : Read φ ρ) : Read φ ρ :=
  if !isStreamSelectorShape c.route then { c with phase := .threw .invalidRoute }
  else
    match c.options.mode with
    | .follow => { c with phase := .subscribing }
    | .replay => c.readPage

/-- The loop with a page that has come. -/
def pageRead (c : Read φ ρ) (decoded : DecodedRead ρ) : Read φ ρ :=
  let page := decoded.page c.offset
  let fromOffset := c.offset
  let nextOffset := streamNextOffset c.route fromOffset page.cursor
  let c := { c with
    cursorFingerprint := page.cursor.cursorFingerprint
    capturedWatermark := page.cursor.capturedWatermark }
  let stalled := page.cursor.hasMore ∧ nextOffset ≤ fromOffset
  let c := { c with stalledPages := if stalled then c.stalledPages + 1 else 0 }
  if stalled ∧ c.stalledPages ≥ 2 then { c with phase := .threw (.stalled c.route fromOffset) }
  else
    { c with
      offset := nextOffset
      phase := .yielded page.cursor.hasMore
      batches := c.batches ++ [
        ({ items := page.items
           records := flattenStreamReadItems page.items
           fromOffset := fromOffset
           nextOffset := nextOffset
           caughtUp := !page.cursor.hasMore }, decoded.cursor)] }

/-- The loop after a `yield`. -/
def afterYield (c : Read φ ρ) (hasMore : Bool) : Read φ ρ :=
  if hasMore then c.readPage
  else
    match c.options.mode with
    | .replay => { c with phase := .returned }
    | .follow => { c with phase := .waiting }

/-- The `catch` of `executeWithRetry`. -/
def attemptFails (c : Read φ ρ) (attempt : Nat) (error : ReadError) : Read φ ρ :=
  match error with
  | .failure true _ =>
    if c.retry.enabled && c.retry.allows attempt then { c with phase := .backingOff attempt }
    else { c with phase := .threw error }
  | _ => { c with phase := .threw error }

def step (c : Read φ ρ) (e : ReadEvent ρ) : Option (Read φ ρ) :=
  match e, c.phase with
  | .wake, _ => some { c with wakeVersion := c.wakeVersion + 1 }
  | .next, .created => some c.start
  | .next, .yielded hasMore => some (c.afterYield hasMore)
  | .close, .created => some { c with phase := .closed }
  | .close, .yielded _ => some { c with phase := .closed }
  | .subscribed, .subscribing => some c.readPage
  | .subscribeFailed error, .subscribing => some { c with phase := .threw error }
  | .answered decoded, .requesting _ => some (c.pageRead decoded)
  | .failed error, .requesting attempt => some (c.attemptFails attempt error)
  | .retryDue, .backingOff attempt => some (c.request (attempt + 1))
  | .woken, .waiting => if c.wakeVersion > c.observed then some c.readPage else none
  | .aborted, .backingOff _ => some { c with phase := .threw .aborted }
  | .aborted, .waiting => some { c with phase := .threw .aborted }
  | _, _ => none

/-- `read(route, options)`. -/
def machine (route : JsString) (options : StreamReadOptions φ) (retry : RetryOptions) :
    Machine (Read φ ρ) (ReadEvent ρ) := ⟨create route options retry, step⟩

end Read

end FitzTs.Stream
