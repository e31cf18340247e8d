import FitzTs.Domains.Queue.Codec
import FitzTs.Domains.Stream.Codec
/-!
# FitzTs.Domains.FailClosed

**Do batches fail closed?** A reservation and a page of a stream are to be decoded as a whole or not
at all, and each item is to carry an exact route that the selector matches.

A reservation fails closed but for its shortcut: without room for a count it is taken for an empty
one. The page of a stream has such a shortcut too, and besides does not look whether a route is one
of the selector's, nor whether the flag of an optional value is 0 or 1.

## Main result

* `batches_failClosed_iff` — the payloads on which the decoders fail closed.
-/

namespace FitzTs

open Buffer JsString Routes

/-- The reservation is refused, is an error of the broker, or is a whole one whose items carry exact
routes that the selector matches. -/
def Queue.ReserveFailsClosed (selector : Option JsString) (payload : Bytes) : Prop :=
  match decodeReserveResponse payload selector with
  | none => True
  | some (.failure error) => ∃ message, IsErrorResponse payload error message
  | some (.items items) => IsBatch selector payload items ∧
      ∀ item ∈ items, ∃ s ∈ selector, IsMatchedRoute queueScheme s item.route

/-- The same of a page of a stream. -/
def Stream.ReadFailsClosed (selector : JsString) (payload : Bytes) : Prop :=
  match decodeReadResponse payload selector with
  | none => True
  | some (.failure error) => ∃ message, IsErrorResponse payload error message
  | some (.read decoded) =>
      (∃ read : EncodedRead (isGlobalSelector selector), read.Plain ∧ payload = read.payload ∧
        decoded = read.page.decoded) ∧
      ∀ item ∈ decoded.items, IsMatchedRoute streamScheme selector item.route

/-! ## Reservations -/

theorem Queue.reserveFailsClosed_iff (selector : Option JsString) (payload : Bytes) :
    ReserveFailsClosed selector payload ↔ ¬ ∃ data, payload = 0 :: data ∧ data.length < 4 := by
  unfold ReserveFailsClosed
  constructor
  · rintro h ⟨data, rfl, hlength⟩
    rw [decodeReserveResponse_short hlength] at h
    exact not_isBatch_short hlength h.1
  · intro hlong
    split
    case h_1 => trivial
    case h_2 error hfailure => exact isErrorResponse_of_failure hfailure
    case h_3 items hitems =>
      obtain ⟨data, rfl⟩ := exists_data_of_items hitems
      have hlength : 4 ≤ data.length := not_lt.mp fun h => hlong ⟨data, rfl, h⟩
      have hbatch := (decodeReserveResponse_eq_items_iff hlength).mp hitems
      refine ⟨hbatch, ?_⟩
      obtain ⟨encoded, -, -, rfl⟩ := hbatch
      intro item hitem
      obtain ⟨raw, -, rfl⟩ := List.mem_map.mp hitem
      obtain ⟨s, hs, hmatched, -⟩ := raw.route.matched
      exact ⟨s, hs, hmatched⟩

/-! ## Pages of a stream -/

namespace Stream

variable {selector : JsString} {payload : Bytes}

theorem EncodedAnswer.route_item {extended : Bool} (route : JsString)
    (answer : EncodedAnswer extended) : (answer.item route).route = route := by
  cases answer <;> rfl

/-- The routes of a page, exact as they are. -/
theorem matched_iff {extended : Bool} (page : EncodedPage extended) :
    (∀ item ∈ page.decoded.items, IsMatchedRoute streamScheme selector item.route) ↔
      ∀ item ∈ page.items, routeMatchesPattern item.route.val.text selector = true := by
  have hexact : ∀ route : EncodedRoute, ∃ r : ConcreteRoute, r.scheme = streamScheme ∧
      r.segments.length = 3 ∧ r.text = route.val.text := fun route =>
    (isRouteShape_iff.mp (show isRouteShape _ streamScheme.text (2 + 1) false = true from
      route.2)).2
  simp only [EncodedPage.decoded, List.forall_mem_map, EncodedItem.item,
    EncodedAnswer.route_item]
  exact forall₂_congr fun item _ => ⟨fun h => h.matched, fun h => ⟨hexact item.route, h⟩⟩

/-- The payload is not the shortcut, and if it can be read as a page, then with plain flags and
routes of the selector. -/
def IsSound (selector : JsString) (payload : Bytes) : Prop :=
  payload ≠ [0] ∧ ∀ read : EncodedRead (isGlobalSelector selector), payload = read.payload →
    read.Plain ∧ ∀ item ∈ read.page.items, routeMatchesPattern item.route.val.text selector = true

theorem readFailsClosed_iff (hselector : isStreamSelectorShape selector = true) :
    ReadFailsClosed selector payload ↔ IsSound selector payload := by
  unfold ReadFailsClosed
  constructor
  · intro h
    constructor
    · rintro rfl
      rw [(decodeReadResponse_eq_read_iff hselector).mpr (.inl ⟨rfl, rfl⟩)] at h
      obtain ⟨⟨read, -, hpayload, -⟩, -⟩ := h
      cases hpayload
    · rintro read rfl
      rw [(decodeReadResponse_eq_read_iff hselector).mpr (.inr ⟨read, rfl, rfl⟩)] at h
      obtain ⟨⟨read', hplain, hpayload, -⟩, hmatched⟩ := h
      obtain rfl := EncodedRead.payload_injective hpayload
      exact ⟨hplain, (matched_iff _).mp hmatched⟩
  · rintro ⟨hne, hsound⟩
    split
    case h_1 => trivial
    case h_2 error hfailure => exact isErrorResponse_of_failure hfailure
    case h_3 decoded hdecoded =>
      obtain ⟨rfl, -⟩ | ⟨read, rfl, rfl⟩ := (decodeReadResponse_eq_read_iff hselector).mp hdecoded
      · exact absurd rfl hne
      · obtain ⟨hplain, hmatched⟩ := hsound read rfl
        exact ⟨⟨read, hplain, rfl, rfl⟩, (matched_iff _).mpr hmatched⟩

end Stream

/-! ## Main result -/

/-- **The payloads on which the decoders fail closed.** -/
theorem batches_failClosed_iff (reserved : Option JsString) {selector : JsString}
    (hselector : isStreamSelectorShape selector = true) (payload : Bytes) :
    (Queue.ReserveFailsClosed reserved payload ↔
      ¬ ∃ data, payload = 0 :: data ∧ data.length < 4) ∧
      (Stream.ReadFailsClosed selector payload ↔ Stream.IsSound selector payload) :=
  ⟨Queue.reserveFailsClosed_iff reserved payload, Stream.readFailsClosed_iff hselector⟩

/-- One item for `queue://a/b/c`. -/
def reservation : Bytes :=
  [0, 0, 0, 0, 1] ++ [0, 0, 0, 0, 0, 0, 0, 5] ++ [0, 0, 0, 0, 0, 0, 0, 9] ++ [0, 0, 0, 1, 65]

theorem batches_failClosed_reservation :
    Queue.decodeReserveResponse reservation (some (js "queue://a/b/c")) =
        some (.items [⟨js "queue://a/b/c", 5, 9, [65]⟩]) ∧
      isStreamSelectorShape (js "stream://a/b/c") = true ∧
      Queue.ReserveFailsClosed (some (js "queue://a/b/c")) reservation := by
  have hselector : isStreamSelectorShape (js "stream://a/b/c") = true := by decide
  refine ⟨by decide +kernel, hselector,
    (batches_failClosed_iff (some (js "queue://a/b/c")) hselector reservation).1.mpr ?_⟩
  rintro ⟨data, h, hlength⟩
  obtain ⟨-, rfl⟩ := List.cons.inj h
  revert hlength
  decide

/-- A page of `stream://a/b/c` with a marker for `stream://x/y/z`. -/
def strayPage : Bytes :=
  [0, 0, 0, 0, 0, 43, 0, 0, 0, 1] ++ writeString (js "stream://x/y/z") ++
    [1, 0, 0, 0, 0, 0, 0, 0, 7, 0] ++ [0, 0, 0, 0, 0, 0, 0, 7, 0, 0, 0]

/-- A truncated reservation is taken for an empty one, and so is a truncated page; and a page may
tell of another stream. -/
theorem not_batches_failClosed :
    isRegistrationPatternShape (js "queue://a/b/c") (js "queue") 3 = true ∧
      ¬ Queue.ReserveFailsClosed (some (js "queue://a/b/c")) [0, 0, 0] ∧
      isStreamSelectorShape (js "stream://a/b/c") = true ∧
      ¬ Stream.ReadFailsClosed (js "stream://a/b/c") [0] ∧
      ¬ Stream.ReadFailsClosed (js "stream://a/b/c") strayPage := by
  have hselector : isStreamSelectorShape (js "stream://a/b/c") = true := by decide
  refine ⟨by decide, fun h => ?_, hselector, fun h => ?_, fun h => ?_⟩
  · exact (Queue.reserveFailsClosed_iff _ _).mp h ⟨[0, 0], rfl, by decide⟩
  · exact ((Stream.readFailsClosed_iff hselector).mp h).1 rfl
  · have hdecode : Stream.decodeReadResponse strayPage (js "stream://a/b/c") =
        some (.read ⟨[.filtered (js "stream://x/y/z") 7 none],
          some ⟨7, none, none, none, none, none, false⟩⟩) := by decide +kernel
    rw [Stream.ReadFailsClosed, hdecode] at h
    have hmatched := (h.2 _ (List.mem_singleton_self _)).matched
    revert hmatched
    decide

end FitzTs
