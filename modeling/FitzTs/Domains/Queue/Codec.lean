import FitzTs.Core.BufferFormats
import FitzTs.Domains.Routes.Registration
import FitzTs.Protocol.Response
/-!
# FitzTs.Domains.Queue.Codec

The RESERVE response and the notification, of `domains/queue/codec.ts`.

A batch is encoded as

`[u8 status=0][u32 count]([route][u64 message_id][u64 lease_token][u32 length][body])*`

where the route stands in an item only if the selector has an asterisk, and a notification as

`[u64 sub_id][string route][u64 ready][u64 delayed][u64 inflight]`.

## Main result

* `decodeReserveResponse_eq_items_iff` — which batches are accepted, and what is made of them.
-/

namespace FitzTs.Queue

open Buffer JsString Routes Reading

structure QueueReservedItem where
  route : JsString
  id : Nat
  token : Nat
  body : Bytes
  deriving DecidableEq, Repr

/-- What `decodeReserveResponse` returns: items, or the error of the broker. -/
inductive QueueReserveResponse
  | items (items : List QueueReservedItem)
  | failure (error : ResponseError)
  deriving DecidableEq, Repr

/-- `selector?.includes("*") === true`. -/
def isWildcard (selector : Option JsString) : Bool := selector.any containsAsterisk

/-- The route of an item, with the checks on it. -/
def readReservedRoute (selector : Option JsString) : Reader JsString := do
  -- an absent selector and an empty route are refused alike
  let route ← if isWildcard selector then readString else pure (selector.getD [])
  guard (route ≠ [])
  guard (isRouteShape route (js "queue") 3 false = true)
  guard ¬ (isWildcard selector = true ∧ selector.any (routeMatchesPattern route) = false)
  return route

/-- The body of the loop of `decodeReserveResponse`. -/
def readReservedItem (selector : Option JsString) : Reader QueueReservedItem := do
  let route ← readReservedRoute selector
  let id ← readU64BE
  let token ← readU64BE
  let body ← readBytes (← readU32BE)
  return { route, id, token, body }

/-- The count and the items. -/
def readBatch (selector : Option JsString) : Reader (List QueueReservedItem) := do
  let leaseCount ← readU32BE
  let items ← many (readReservedItem selector) leaseCount
  let eof ← isEOF
  guard (eof = true)
  return items

/-- `decodeReserveResponse(payload, selector)`; `none` where it throws. -/
def decodeReserveResponse (payload : Bytes) (selector : Option JsString) :
    Option QueueReserveResponse :=
  match parseStandardResponse payload with
  | none => none
  | some (.failure error) => some (.failure error)
  | some (.success data) =>
    if data.isEmpty || data.length < 4 then some (.items [])
    else (Reader.read (readBatch selector) data).map .items

/-! ## Items as they are encoded -/

def queueScheme : Scheme := ⟨js "queue", by decide, by decide⟩

/-- The route of an item: behind its length, or that of the selector. -/
structure ReservedRoute (selector : Option JsString) where
  bytes : Bytes
  text : JsString
  wireSize : wireSizeIsValid text = true
  matched : ∃ s ∈ selector, IsMatchedRoute queueScheme s text ∧
    if containsAsterisk s then ∃ data : Prefixed, bytes = data.bytes ∧ data.text = text
    else bytes = [] ∧ text = s

structure EncodedItem (selector : Option JsString) where
  route : ReservedRoute selector
  id : Unsigned 8
  token : Unsigned 8
  body : Prefixed

section

variable {selector : Option JsString} {payload data : Bytes} {items : List QueueReservedItem}

def EncodedItem.bytes (item : EncodedItem selector) : Bytes :=
  item.route.bytes ++ item.id.bytes ++ item.token.bytes ++ item.body.bytes

def EncodedItem.item (item : EncodedItem selector) : QueueReservedItem where
  route := item.route.text
  id := item.id.val
  token := item.token.val
  body := item.body.val

/-- The whole of a batch. -/
def IsBatch (selector : Option JsString) (payload : Bytes) (items : List QueueReservedItem) :
    Prop :=
  ∃ encoded : List (EncodedItem selector), encoded.length < 2 ^ 32 ∧
    payload = 0 :: (writeU32BE encoded.length ++ encoded.flatMap EncodedItem.bytes) ∧
    items = encoded.map EncodedItem.item

/-- The checks on a route of an item. -/
theorem isQueueRoute_iff {route : JsString} :
    isRouteShape route (js "queue") 3 false = true ↔ wireSizeIsValid route = true ∧
      ∃ r : ConcreteRoute, r.scheme = queueScheme ∧ r.segments.length = 3 ∧ r.text = route :=
  @isRouteShape_iff route queueScheme 2

theorem ne_nil_of_isQueueRoute {route : JsString}
    (h : isRouteShape route (js "queue") 3 false = true) : route ≠ [] := by
  rintro rfl
  revert h
  decide

/-! ## What is accepted -/

theorem readReservedRoute_reads :
    Reads anything (readReservedRoute selector) ReservedRoute.bytes
      (fun route : ReservedRoute selector => route.text) := by
  unfold readReservedRoute
  by_cases hwild : isWildcard selector = true
  · obtain ⟨s, rfl, hs⟩ : ∃ s, selector = some s ∧ containsAsterisk s = true := by
      cases selector with
      | none => cases hwild
      | some s => exact ⟨s, rfl, hwild⟩
    simp only [hwild, if_true]
    refine Reads.congr (readString_reads.bind fun data => (Reads.check _).bind fun _ =>
      (Reads.check _).bind fun _ => (Reads.check _).bind fun _ => Reads.pure data.text) ?_ ?_
    · rintro ⟨data, ⟨-⟩, ⟨hshape⟩, ⟨hmatched⟩, -⟩
      obtain ⟨hsize, hexact⟩ := isQueueRoute_iff.mp hshape
      have hmatched : routeMatchesPattern data.text s = true := by simpa using hmatched
      refine ⟨⟨data.bytes, data.text, hsize, s, rfl, ⟨hexact, hmatched⟩, ?_⟩, by simp, rfl⟩
      rw [if_pos hs]
      exact ⟨data, rfl, rfl⟩
    · rintro ⟨bytes, text, hsize, s', ⟨⟩, ⟨hexact, hmatched⟩, hlayout⟩
      rw [if_pos hs] at hlayout
      obtain ⟨data, rfl, rfl⟩ := hlayout
      have hshape := isQueueRoute_iff.mpr ⟨hsize, hexact⟩
      exact ⟨⟨data, ⟨ne_nil_of_isQueueRoute hshape⟩, ⟨hshape⟩, ⟨by simpa using hmatched⟩, ()⟩,
        by simp, rfl⟩
  · simp only [hwild, Bool.false_eq_true, if_false]
    refine Reads.congr ((Reads.pure (selector.getD [])).bind fun _ => (Reads.check _).bind fun _ =>
      (Reads.check _).bind fun _ => (Reads.check _).bind fun _ =>
        Reads.pure (selector.getD [])) ?_ ?_
    · rintro ⟨-, ⟨hne⟩, ⟨hshape⟩, -, -⟩
      obtain ⟨hsize, route, hscheme, hlength, htext⟩ := isQueueRoute_iff.mp hshape
      cases selector with
      | none => exact absurd rfl hne
      | some s =>
          have htext : route.text = s := htext
          have hlit : ¬ containsAsterisk s = true := by simpa [isWildcard] using hwild
          refine ⟨⟨[], s, hsize, s, rfl, ⟨⟨route, hscheme, hlength, htext⟩, ?_⟩, ?_⟩, rfl, rfl⟩
          · rw [← htext]
            exact route.matches_self
          · rw [if_neg hlit]
            exact ⟨rfl, rfl⟩
    · rintro ⟨bytes, text, hsize, s, rfl, ⟨hexact, -⟩, hlayout⟩
      have hlit : ¬ containsAsterisk s = true := by simpa [isWildcard] using hwild
      rw [if_neg hlit] at hlayout
      obtain ⟨rfl, rfl⟩ := hlayout
      have hshape := isQueueRoute_iff.mpr ⟨hsize, hexact⟩
      exact ⟨⟨(), ⟨ne_nil_of_isQueueRoute hshape⟩, ⟨hshape⟩, ⟨fun h => h.1.elim⟩, ()⟩,
        rfl, rfl⟩

theorem readReservedItem_reads :
    Reads anything (readReservedItem selector) (fun item : EncodedItem selector => item.bytes)
      EncodedItem.item := by
  unfold readReservedItem
  refine Reads.congr (readReservedRoute_reads.bind fun route => (readUBE_reads 8).bind fun id =>
    (readUBE_reads 8).bind fun token => readPrefixed_reads fun body =>
      Reads.pure (⟨route.text, id.val, token.val, body.val⟩ : QueueReservedItem)) ?_ ?_
  · rintro ⟨route, id, token, body, -⟩
    exact ⟨⟨route, id, token, body⟩, by simp [EncodedItem.bytes], rfl⟩
  · rintro ⟨route, id, token, body⟩
    exact ⟨⟨route, id, token, body, ()⟩, by simp [EncodedItem.bytes], rfl⟩

theorem readBatch_reads :
    Reads nothing (readBatch selector)
      (fun encoded : {encoded : List (EncodedItem selector) // encoded.length < 2 ^ 32} =>
        writeU32BE encoded.val.length ++ encoded.val.flatMap EncodedItem.bytes)
      (fun encoded => encoded.val.map EncodedItem.item) := by
  unfold readBatch
  refine Reads.congr (readMany_reads readReservedItem_reads fun encoded => Reads.finish _) ?_ ?_
  · rintro ⟨encoded, -⟩
    exact ⟨encoded, by simp, rfl⟩
  · intro encoded
    exact ⟨⟨encoded, ()⟩, by simp, rfl⟩

/-- **The batches that are accepted**, when there is room for their length. -/
theorem decodeReserveResponse_eq_items_iff (hlength : 4 ≤ data.length) :
    decodeReserveResponse (0 :: data) selector = some (.items items) ↔
      IsBatch selector (0 :: data) items := by
  have hempty : ¬ (data.isEmpty || decide (data.length < 4)) = true := by
    cases data with
    | nil => cases hlength
    | cons byte data => simpa using hlength
  unfold decodeReserveResponse IsBatch
  rw [parseStandardResponse_eq_success_iff.mpr rfl]
  dsimp only
  rw [if_neg hempty, Option.map_eq_some_iff]
  constructor
  · rintro ⟨items, hread, ⟨⟩⟩
    obtain ⟨⟨encoded, hcount⟩, rfl, rfl⟩ := readBatch_reads.read_eq_some_iff.mp hread
    exact ⟨encoded, hcount, rfl, rfl⟩
  · rintro ⟨encoded, hcount, hdata, rfl⟩
    obtain ⟨-, rfl⟩ := List.cons.inj hdata
    exact ⟨_, readBatch_reads.read_eq_some_iff.mpr ⟨⟨encoded, hcount⟩, rfl, rfl⟩, rfl⟩

/-- Items come with a status of success. -/
theorem exists_data_of_items (h : decodeReserveResponse payload selector = some (.items items)) :
    ∃ data, payload = 0 :: data := by
  unfold decodeReserveResponse at h
  split at h
  case h_1 => cases h
  case h_2 => cases h
  case h_3 data hdata => exact ⟨data, parseStandardResponse_eq_success_iff.mp hdata⟩

/-- An error is that of the broker. -/
theorem isErrorResponse_of_failure {error : ResponseError}
    (h : decodeReserveResponse payload selector = some (.failure error)) :
    ∃ message, IsErrorResponse payload error message := by
  unfold decodeReserveResponse at h
  split at h
  case h_1 => cases h
  case h_2 _ hfailure =>
    obtain ⟨⟩ := h
    exact parseStandardResponse_eq_failure_iff.mp hfailure
  case h_3 =>
    split at h
    case isTrue => cases h
    case isFalse =>
      obtain ⟨_, -, ⟨⟩⟩ := Option.map_eq_some_iff.mp h

/-- The shortcut: a batch of no items without a count. -/
theorem decodeReserveResponse_short (hlength : data.length < 4) :
    decodeReserveResponse (0 :: data) selector = some (.items []) := by
  unfold decodeReserveResponse
  rw [parseStandardResponse_eq_success_iff.mpr rfl]
  simp [hlength]

theorem not_isBatch_short (hlength : data.length < 4) : ¬ IsBatch selector (0 :: data) items := by
  rintro ⟨encoded, -, hdata, -⟩
  obtain ⟨-, rfl⟩ := List.cons.inj hdata
  simp at hlength

/-! ## Notifications -/

structure QueueNotification where
  subId : Nat
  route : JsString
  readyMessages : Nat
  delayedMessages : Nat
  inflightMessages : Nat
  deriving DecidableEq, Repr

/-- `decodeNotification`; `none` where it throws. -/
def decodeNotification (payload : Bytes) : Option QueueNotification :=
  Reader.read (do
    let subId ← readU64BE
    let route ← readString
    let readyMessages ← readU64BE
    let delayedMessages ← readU64BE
    let inflightMessages ← readU64BE
    let eof ← isEOF
    guard (eof = true)
    return { subId, route, readyMessages, delayedMessages, inflightMessages }) payload

/-- `[u64 sub_id][string route][u64 ready][u64 delayed][u64 inflight]`. -/
def IsNotification (payload : Bytes) (notification : QueueNotification) : Prop :=
  ∃ (subId : Unsigned 8) (route : Prefixed) (ready delayed inflight : Unsigned 8),
    payload = subId.bytes ++ route.bytes ++ ready.bytes ++ delayed.bytes ++ inflight.bytes ∧
      notification = ⟨subId.val, route.text, ready.val, delayed.val, inflight.val⟩

theorem isNotification {notification : QueueNotification}
    (h : decodeNotification payload = some notification) : IsNotification payload notification := by
  have hreads : Reads nothing (do
      let subId ← readU64BE
      let route ← readString
      let readyMessages ← readU64BE
      let delayedMessages ← readU64BE
      let inflightMessages ← readU64BE
      let eof ← isEOF
      guard (eof = true)
      return (⟨subId, route, readyMessages, delayedMessages, inflightMessages⟩ :
        QueueNotification)) _ _ :=
    (readUBE_reads 8).bind fun subId => readString_reads.bind fun route =>
      (readUBE_reads 8).bind fun ready => (readUBE_reads 8).bind fun delayed =>
        (readUBE_reads 8).bind fun inflight => Reads.finish _
  obtain ⟨⟨subId, route, ready, delayed, inflight, ⟨⟩⟩, rfl, rfl⟩ := hreads.read_eq_some_iff.mp h
  exact ⟨subId, route, ready, delayed, inflight, by simp, rfl⟩

end

end FitzTs.Queue
