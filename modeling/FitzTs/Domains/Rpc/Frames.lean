import FitzTs.Core.BufferReader
import FitzTs.Domains.Rpc.Codec
import FitzTs.Domains.Rpc.Dispatch
import FitzTs.Domains.Routes.Registration
import FitzTs.Frame.Codec
import FitzTs.Lib.Utf8.RoundTrip
/-!
# FitzTs.Domains.Rpc.Frames

**The classifiers of RPC frames agree with the decoders.** A request is

`[uuid16 correlation_id][string route][u32 length][bytes body][u8 has_budget][u32 budget_ms]?`

and a response is as in `FitzTs.Domains.Rpc.Codec`. The classifiers and the decoders walk the
payload each on their own. Here every walk is reduced to the same three steps
(`decodeInboundRequest_eq`, `decodeResponse_eq`): the end of what stands behind a length, the
end of what stands behind the next one, and what is left.

## Main results

* `classifiers_agree` — the classifiers accept what the decoders accept, the two decoders of
  responses return the same, and what is encoded is decoded.
* `decodeResponseKey_words` — the key and the sequence are the words of 32 bits shifted together.
-/

namespace FitzTs.Rpc

open BigEndian JsString Buffer Routes
open FrameCodec (JsNumber)

/-! ## Requests -/

def MAX_RPC_BUDGET_MS : Nat := 86400000

/-- `validateRemainingBudget`: the budget, where it is absent or in range. -/
def validateRemainingBudget : Option JsNumber → Option (Option Nat)
  | none => some none
  | some remainingBudgetMs => (remainingBudgetMs.upTo MAX_RPC_BUDGET_MS).map some

def encodeRequest (correlationId : Bytes) (route : JsString) (body : Bytes)
    (remainingBudgetMs : Option JsNumber) : Option Bytes :=
  if correlationId.length ≠ CORRELATION_ID_LENGTH then none
  else do
    let budget ← validateRemainingBudget remainingBudgetMs
    return correlationId ++ writeRoute route ++ writeLengthAndBytes body ++
      match budget with
      | none => writeU8 0
      | some ms => writeU8 1 ++ writeU32BE ms

/-- What `readRemainingBudgetExtension` returns. -/
structure BudgetExtension where
  remainingBudgetMs : Option Nat := none
  nextOffset : Nat
  deriving DecidableEq, Repr

def readRemainingBudgetExtension (payload : Bytes) (offset : Nat) : Option BudgetExtension :=
  if offset + 1 > payload.length then none
  else
    let hasBudget := payload.getD offset 0
    if hasBudget = 0 ∧ offset + 1 = payload.length then some { nextOffset := payload.length }
    else if hasBudget ≠ 1 ∨ offset + 5 ≠ payload.length then none
    else
      let remainingBudgetMs := readAt 4 payload (offset + 1)
      if remainingBudgetMs > MAX_RPC_BUDGET_MS then none
      else some { remainingBudgetMs := some remainingBudgetMs, nextOffset := payload.length }

/-- `isInboundRequestPayload`, the classifier of requests. -/
def isInboundRequestPayload (payload : Bytes) : Bool :=
  if payload.length < CORRELATION_ID_LENGTH then false
  else
    match readLengthPrefixedEnd payload CORRELATION_ID_LENGTH with
    | none => false
    | some routeEnd =>
      match readLengthPrefixedEnd payload routeEnd with
      | none => false
      | some bodyEnd => (readRemainingBudgetExtension payload bodyEnd).isSome

/-- The string at the offset, and the offset behind it. -/
def readStringFromPayload (payload : Bytes) (offset : Nat) : Option (JsString × Nat) :=
  if offset + 4 > payload.length then none
  else
    let length := readAt 4 payload offset
    let offset := offset + 4
    if length = 0 then some ([], offset)
    else if offset + length > payload.length then none
    else some (utf8Decode ((payload.drop offset).take length), offset + length)

/-- What `decodeInboundRequest` returns. -/
structure InboundRequest where
  correlationId : Bytes
  route : JsString
  body : Bytes
  remainingBudgetMs : Option Nat
  deriving DecidableEq, Repr

def decodeInboundRequest (payload : Bytes) : Option InboundRequest :=
  if CORRELATION_ID_LENGTH > payload.length then none
  else do
    let (route, offset) ← readStringFromPayload payload CORRELATION_ID_LENGTH
    if offset + 4 > payload.length then none
    else
      let bodyLen := readAt 4 payload offset
      let offset := offset + 4
      if offset + bodyLen > payload.length then none
      else do
        let extension ← readRemainingBudgetExtension payload (offset + bodyLen)
        if extension.nextOffset ≠ payload.length then none
        else return {
          correlationId := payload.take CORRELATION_ID_LENGTH
          route
          body := (payload.drop offset).take bodyLen
          remainingBudgetMs := extension.remainingBudgetMs }

/-! ## Responses -/

def decodeResponse (payload : Bytes) : Option RpcResponse :=
  if payload.length < CORRELATION_ID_LENGTH + 8 + 1 + 4 then none
  else
    let flags := payload.getD (CORRELATION_ID_LENGTH + 8) 0
    if flags &&& ~~~RPC_RESPONSE_FLAGS_SUPPORTED ≠ 0 then none
    else
      let offset := CORRELATION_ID_LENGTH + 8 + 1 + 4
      let bodyLen := readAt 4 payload (CORRELATION_ID_LENGTH + 8 + 1)
      if offset + bodyLen > payload.length then none
      else if offset + bodyLen ≠ payload.length then none
      else some
        { correlationId := payload.take CORRELATION_ID_LENGTH
          sequence := readAt 8 payload CORRELATION_ID_LENGTH
          body := (payload.drop offset).take bodyLen
          streamEnd := flags &&& RPC_RESPONSE_FLAG_STREAM_END ≠ 0 }

/-- The same response with the number of its correlation id. -/
def RpcResponse.toKey (r : RpcResponse) : ResponseKey :=
  { correlationKey := ofBytes r.correlationId
    sequence := r.sequence
    body := r.body
    streamEnd := r.streamEnd }

/-- **The two decoders of responses** return the same. -/
theorem decodeResponseKey_eq (payload : Bytes) :
    decodeResponseKey payload = (decodeResponse payload).map RpcResponse.toKey := by
  unfold decodeResponseKey decodeResponse
  dsimp only
  split_ifs <;> rfl

/-- The numbers of 64 and of 128 bits, as the source puts them together. -/
def readU64At (payload : Bytes) (offset : Nat) : Nat :=
  readAt 4 payload offset <<< 32 ||| readAt 4 payload (offset + 4)

def readU128BEAt (payload : Bytes) (offset : Nat) : Nat :=
  readAt 4 payload offset <<< 96 ||| readAt 4 payload (offset + 4) <<< 64 |||
    readAt 4 payload (offset + 8) <<< 32 ||| readAt 4 payload (offset + 12)

section

variable {payload : Bytes} {offset : Nat}

theorem readAt_add (j k : Nat) (h : offset + j + k ≤ payload.length) :
    readAt (j + k) payload offset =
      readAt j payload offset * 256 ^ k + readAt k payload (offset + j) := by
  have hlength : ((payload.drop (offset + j)).take k).length = k := by
    rw [List.length_take, List.length_drop]
    omega
  rw [readAt, List.take_add, ofBytes_append, List.drop_drop, hlength, readAt, readAt]

theorem readAt_lt (k : Nat) (payload : Bytes) (offset : Nat) :
    readAt k payload offset < 256 ^ k :=
  (ofBytes_lt _).trans_le (Nat.pow_le_pow_right (by decide) (List.length_take_le _ _))

theorem readU64At_eq (h : offset + 8 ≤ payload.length) :
    readU64At payload offset = readAt 8 payload offset := by
  have hlow : readAt 4 payload (offset + 4) < 2 ^ 32 := readAt_lt 4 payload _
  rw [readU64At, Nat.shiftLeft_eq,
    BufferReader.or_eq_add (Nat.dvd_mul_left (2 ^ 32) (readAt 4 payload offset)) hlow]
  exact (readAt_add 4 4 h).symm

theorem readU128BEAt_eq (h : offset + 16 ≤ payload.length) :
    readU128BEAt payload offset = readCorrelationKey payload offset := by
  have h₁ : readAt 4 payload (offset + 4) < 2 ^ 32 := readAt_lt 4 payload _
  have h₂ : readAt 4 payload (offset + 8) < 2 ^ 32 := readAt_lt 4 payload _
  have h₃ : readAt 4 payload (offset + 12) < 2 ^ 32 := readAt_lt 4 payload _
  have hor₁ := BufferReader.or_eq_add (n := 96) (a := readAt 4 payload offset * 2 ^ 96)
    (b := readAt 4 payload (offset + 4) * 2 ^ 64) (by omega) (by omega)
  have hor₂ := BufferReader.or_eq_add (n := 64) (b := readAt 4 payload (offset + 8) * 2 ^ 32)
    (a := readAt 4 payload offset * 2 ^ 96 + readAt 4 payload (offset + 4) * 2 ^ 64)
    (by omega) (by omega)
  have hor₃ := BufferReader.or_eq_add (n := 32) (b := readAt 4 payload (offset + 12))
    (a := readAt 4 payload offset * 2 ^ 96 + readAt 4 payload (offset + 4) * 2 ^ 64 +
      readAt 4 payload (offset + 8) * 2 ^ 32) (by omega) (by omega)
  have hread : readCorrelationKey payload offset =
      ((readAt 4 payload offset * 256 ^ 4 + readAt 4 payload (offset + 4)) * 256 ^ 4 +
        readAt 4 payload (offset + 8)) * 256 ^ 4 + readAt 4 payload (offset + 12) := by
    rw [readCorrelationKey, readAt_add 12 4 (by omega),
      readAt_add 8 4 (by omega), readAt_add 4 4 (by omega)]
  simp only [readU128BEAt, Nat.shiftLeft_eq]
  rw [hor₁, hor₂, hor₃, hread]
  omega

end

/-- **The numbers of a response** are those that the source puts together of words. -/
theorem decodeResponseKey_words {payload : Bytes} {key : ResponseKey}
    (h : decodeResponseKey payload = some key) :
    key.correlationKey = readU128BEAt payload 0 ∧
      key.sequence = readU64At payload CORRELATION_ID_LENGTH := by
  have hlength : ¬ payload.length < CORRELATION_ID_LENGTH + 8 + 1 + 4 := by
    intro hshort
    rw [decodeResponseKey, if_pos hshort] at h
    cases h
  rw [readU128BEAt_eq (by simp only [CORRELATION_ID_LENGTH] at hlength; omega),
    readU64At_eq (by omega)]
  simp only [decodeResponseKey, if_neg hlength, Option.ite_none_left_eq_some] at h
  obtain ⟨-, -, -, heq⟩ := h
  obtain rfl := Option.some.inj heq
  exact ⟨rfl, rfl⟩

section

variable {payload : Bytes} {offset : Nat}

/-! ## The steps of a walk -/

theorem readStringFromPayload_eq :
    readStringFromPayload payload offset = (readLengthPrefixedEnd payload offset).map fun stop =>
      (utf8Decode ((payload.drop (offset + 4)).take (readAt 4 payload offset)), stop) := by
  unfold readStringFromPayload readLengthPrefixedEnd
  dsimp only
  split
  case isTrue => rfl
  case isFalse hroom =>
    split
    case isTrue hzero =>
      rw [if_neg (by omega), hzero, List.take_zero]
      rfl
    case isFalse => split <;> rfl

theorem readRemainingBudgetExtension_nextOffset {extension : BudgetExtension}
    (h : readRemainingBudgetExtension payload offset = some extension) :
    extension.nextOffset = payload.length := by
  unfold readRemainingBudgetExtension at h
  dsimp only at h
  split_ifs at h <;> cases h <;> rfl

/-- **The walk of the decoder of requests.** -/
theorem decodeInboundRequest_eq (payload : Bytes) :
    decodeInboundRequest payload = if payload.length < CORRELATION_ID_LENGTH then none
      else (readLengthPrefixedEnd payload CORRELATION_ID_LENGTH).bind fun routeEnd =>
        (readLengthPrefixedEnd payload routeEnd).bind fun bodyEnd =>
          (readRemainingBudgetExtension payload bodyEnd).map fun extension =>
            { correlationId := payload.take CORRELATION_ID_LENGTH
              route := utf8Decode ((payload.drop (CORRELATION_ID_LENGTH + 4)).take
                (readAt 4 payload CORRELATION_ID_LENGTH))
              body := (payload.drop (routeEnd + 4)).take (readAt 4 payload routeEnd)
              remainingBudgetMs := extension.remainingBudgetMs } := by
  unfold decodeInboundRequest
  refine ite_congr rfl (fun _ => rfl) fun _ => ?_
  rw [readStringFromPayload_eq]
  cases readLengthPrefixedEnd payload CORRELATION_ID_LENGTH with
  | none => rfl
  | some routeEnd =>
      rw [Option.map_some, Option.bind_eq_bind, Option.bind_some, Option.bind_some]
      dsimp only
      rw [readLengthPrefixedEnd]
      dsimp only
      split
      case isTrue => rfl
      case isFalse =>
        split
        case isTrue => rfl
        case isFalse =>
          rw [Option.bind_some]
          cases hextension : readRemainingBudgetExtension payload
              (routeEnd + 4 + readAt 4 payload routeEnd) with
          | none => rfl
          | some extension =>
              rw [Option.bind_eq_bind, Option.bind_some,
                if_neg (not_not.mpr (readRemainingBudgetExtension_nextOffset hextension))]
              rfl

theorem isInboundRequestPayload_eq (payload : Bytes) :
    isInboundRequestPayload payload = (decodeInboundRequest payload).isSome := by
  rw [decodeInboundRequest_eq, isInboundRequestPayload]
  split
  case isTrue => rfl
  case isFalse =>
    cases readLengthPrefixedEnd payload CORRELATION_ID_LENGTH with
    | none => rfl
    | some routeEnd =>
        dsimp only
        rw [Option.bind_some]
        cases readLengthPrefixedEnd payload routeEnd with
        | none => rfl
        | some bodyEnd => rw [Option.bind_some, Option.isSome_map]

theorem isStreamResponsePayload_eq (payload : Bytes) :
    isStreamResponsePayload payload = (decodeResponse payload).isSome := by
  unfold isStreamResponsePayload decodeResponse readLengthPrefixedEnd
  dsimp only
  by_cases hflags : payload.getD (CORRELATION_ID_LENGTH + 8) 0 &&&
      ~~~RPC_RESPONSE_FLAGS_SUPPORTED ≠ 0
  · rw [if_pos hflags, if_pos hflags, ite_self, ite_self]
    rfl
  · rw [if_neg hflags, if_neg hflags]
    by_cases hlong : payload.length < CORRELATION_ID_LENGTH + 8 + 1 + 4
    · rw [if_pos hlong, if_pos (show CORRELATION_ID_LENGTH + 8 + 1 + 4 > payload.length from hlong)]
      split <;> rfl
    · rw [if_neg hlong, if_neg (by omega), if_neg hlong]
      by_cases hover : CORRELATION_ID_LENGTH + 8 + 1 + 4 +
          readAt 4 payload (CORRELATION_ID_LENGTH + 8 + 1) > payload.length
      · rw [if_pos hover, if_pos hover]
        rfl
      · rw [if_neg hover, if_neg hover]
        by_cases hexact : CORRELATION_ID_LENGTH + 8 + 1 + 4 +
            readAt 4 payload (CORRELATION_ID_LENGTH + 8 + 1) = payload.length
        · rw [if_neg (not_not.mpr hexact), decide_eq_true (by rw [hexact])]
          rfl
        · rw [if_pos hexact, decide_eq_false (by simpa using hexact)]
          rfl

end

/-! ## What is encoded is decoded -/

section

variable {before data rest : Bytes}

theorem readAt_append {n k : Nat} (hn : n < 256 ^ k) :
    readAt k (before ++ (toBytes k n ++ rest)) before.length = n := by
  rw [readAt, List.drop_left' rfl, List.take_left' length_toBytes, ofBytes_toBytes hn]

/-- A step over bytes behind their length, and these bytes. -/
theorem readLengthPrefixedEnd_append (before rest : Bytes) (h : data.length < 2 ^ 32) :
    let payload := before ++ (writeLengthAndBytes data ++ rest)
    readLengthPrefixedEnd payload before.length = some (before ++ writeLengthAndBytes data).length ∧
      (payload.drop (before.length + 4)).take (readAt 4 payload before.length) = data := by
  have hread : readAt 4 (before ++ (writeLengthAndBytes data ++ rest)) before.length =
      data.length := by
    rw [writeLengthAndBytes, List.append_assoc]
    exact readAt_append h
  dsimp only
  rw [readLengthPrefixedEnd, hread]
  constructor
  · simp only [writeLengthAndBytes, List.length_append, length_writeU32BE]
    rw [if_neg (by omega), if_neg (by omega), Nat.add_assoc]
  · rw [← List.drop_drop, List.drop_left' rfl, writeLengthAndBytes, List.append_assoc,
      List.drop_left' length_writeU32BE, List.take_left' rfl]

theorem getD_append {byte : UInt8} : (before ++ byte :: rest).getD before.length 0 = byte := by
  rw [List.getD_eq_getElem?_getD, List.getElem?_append_right (Nat.le_refl _), Nat.sub_self]
  rfl

/-- The budget at the end. -/
def budgetBytes : Option Nat → Bytes
  | none => writeU8 0
  | some ms => writeU8 1 ++ writeU32BE ms

theorem readRemainingBudgetExtension_append (before : Bytes) {budget : Option Nat}
    (h : ∀ ms ∈ budget, ms ≤ MAX_RPC_BUDGET_MS) :
    readRemainingBudgetExtension (before ++ budgetBytes budget) before.length =
      some ⟨budget, (before ++ budgetBytes budget).length⟩ := by
  cases budget with
  | none =>
      have hbyte : (before ++ budgetBytes none).getD before.length 0 = 0 := getD_append
      have hlength : (before ++ budgetBytes none).length = before.length + 1 := by
        simp [budgetBytes]
      rw [readRemainingBudgetExtension, hbyte, hlength, if_neg (by omega), if_pos ⟨rfl, rfl⟩]
  | some ms =>
      have hms := h ms rfl
      have hbyte : (before ++ budgetBytes (some ms)).getD before.length 0 = 1 := getD_append
      have hlength : (before ++ budgetBytes (some ms)).length = before.length + 5 := by
        simp [budgetBytes]
      have hread : readAt 4 (before ++ budgetBytes (some ms)) (before.length + 1) = ms := by
        have happend : before ++ budgetBytes (some ms) =
            (before ++ writeU8 1) ++ (toBytes 4 ms ++ []) := by
          simp [budgetBytes, writeU32BE]
        have hoffset : before.length + 1 = (before ++ writeU8 1).length := by simp
        rw [happend, hoffset]
        exact readAt_append (lt_of_le_of_lt hms (by decide))
      rw [readRemainingBudgetExtension, hbyte, hlength, hread, if_neg (by omega),
        if_neg (by simp), if_neg (by simp)]
      dsimp only
      rw [if_neg (Nat.not_lt.mpr hms)]

theorem validateRemainingBudget_some {budget : Option Nat}
    (h : ∀ ms ∈ budget, ms ≤ MAX_RPC_BUDGET_MS) :
    validateRemainingBudget (budget.map fun ms : Nat => .integer ms) = some budget := by
  cases budget with
  | none => rfl
  | some ms =>
      have hms := h ms rfl
      rw [Option.map_some, validateRemainingBudget, JsNumber.upTo, if_pos (by omega)]
      rfl

/-- **A request** is decoded as it was, where its route comes back from UTF-8. -/
theorem decodeInboundRequest_encodeRequest {correlationId body : Bytes} {route : JsString}
    {budget : Option Nat} (hid : correlationId.length = 16)
    (hroute : utf8Decode (utf8Encode route) = route)
    (hlength : (utf8Encode route).length < 2 ^ 32) (hbody : body.length < 2 ^ 32)
    (hbudget : ∀ ms ∈ budget, ms ≤ MAX_RPC_BUDGET_MS) :
    ∃ payload, encodeRequest correlationId route body (budget.map fun ms : Nat => .integer ms) =
        some payload ∧
          decodeInboundRequest payload = some ⟨correlationId, route, body, budget⟩ := by
  have hencode : encodeRequest correlationId route body (budget.map fun ms : Nat => .integer ms) =
      some (correlationId ++ (writeLengthAndBytes (utf8Encode route) ++
        (writeLengthAndBytes body ++ budgetBytes budget))) := by
    rw [encodeRequest, if_neg (by simpa [CORRELATION_ID_LENGTH] using hid),
      validateRemainingBudget_some hbudget]
    cases budget <;> simp [budgetBytes, writeRoute, writeString]
  refine ⟨_, hencode, ?_⟩
  generalize hpayload : correlationId ++ (writeLengthAndBytes (utf8Encode route) ++
    (writeLengthAndBytes body ++ budgetBytes budget)) = payload
  -- the three steps
  have hfirst := readLengthPrefixedEnd_append correlationId
    (writeLengthAndBytes body ++ budgetBytes budget) hlength
  dsimp only at hfirst
  rw [hpayload, hid] at hfirst
  have hsecond := readLengthPrefixedEnd_append
    (correlationId ++ writeLengthAndBytes (utf8Encode route)) (budgetBytes budget) hbody
  dsimp only at hsecond
  rw [List.append_assoc, hpayload] at hsecond
  have hthird := readRemainingBudgetExtension_append (correlationId ++
    writeLengthAndBytes (utf8Encode route) ++ writeLengthAndBytes body) hbudget
  rw [List.append_assoc, List.append_assoc, List.append_assoc, hpayload] at hthird
  have hlong : ¬ payload.length < CORRELATION_ID_LENGTH := by
    rw [← hpayload, List.length_append, hid, CORRELATION_ID_LENGTH]
    omega
  have hstart : payload.take 16 = correlationId := by
    rw [← hpayload, List.take_left' hid]
  rw [decodeInboundRequest_eq, if_neg hlong, CORRELATION_ID_LENGTH, hfirst.1, Option.bind_some,
    hsecond.1, Option.bind_some, List.append_assoc, hthird, Option.map_some, hstart, hfirst.2,
    hsecond.2, hroute]

/-- **A response** is decoded as it was. -/
theorem decodeResponse_encodeResponse {r : RpcResponse} (hid : r.correlationId.length = 16)
    (hsequence : r.sequence < 2 ^ 64) (hbody : r.body.length < 2 ^ 32) :
    ∃ payload, encodeResponse r = some payload ∧ decodeResponse payload = some r := by
  have hencode : ∃ payload, encodeResponse r = some payload :=
    ⟨_, if_neg (by simpa [CORRELATION_ID_LENGTH] using hid)⟩
  obtain ⟨payload, hpayload⟩ := hencode
  obtain ⟨-, hlength, hkey, hnumber, hflag, hbodyLen, hrest⟩ := encodeResponse_parts hpayload
  have hread : readAt 4 payload 25 = r.body.length := by
    rw [readAt, hbodyLen]
    exact ofBytes_toBytes hbody
  have hsequence : readAt 8 payload 16 = r.sequence := by
    rw [readAt, hnumber]
    exact ofBytes_toBytes hsequence
  refine ⟨payload, hpayload, ?_⟩
  simp only [decodeResponse, CORRELATION_ID_LENGTH, Nat.reduceAdd, hflag, flag_supported,
    flag_streamEnd, hread, hkey, hsequence, hrest, hlength, ne_eq, not_true, if_false,
    List.take_length]
  rw [if_neg (by omega), if_neg (by omega)]

end

/-- The routes that `call` accepts come back from UTF-8 if no surrogate stands alone. -/
theorem utf8Decode_utf8Encode_route {route : JsString}
    (hroute : isConcreteRouteShape route (js "rpc") = true) (hformed : isWellFormed route = true) :
    utf8Decode (utf8Encode route) = route ∧ (utf8Encode route).length < 2 ^ 32 := by
  obtain ⟨⟨segments, -, -, rfl⟩, hwire⟩ := isConcreteRouteShape_iff.mp hroute
  have hsize := (wireSizeIsValid_iff.mp hwire)
  refine ⟨utf8Decode_utf8Encode_eq_self_iff.mpr ⟨hformed, ?_⟩, lt_of_le_of_lt hsize (by decide)⟩
  have hhead : (concreteRoute segments).head? = some 114 := rfl
  rw [hhead]
  decide

/-- **The classifiers agree with the decoders**, the two decoders of responses with each other, and
both with the encoders. -/
theorem classifiers_agree :
    (∀ p : Bytes, isInboundRequestPayload p = true ↔ ∃ r, decodeInboundRequest p = some r) ∧
    (∀ p : Bytes, isStreamResponsePayload p = true ↔ ∃ r, decodeResponse p = some r) ∧
    (∀ p : Bytes, (∃ r, decodeResponse p = some r) ↔ ∃ key, decodeResponseKey p = some key) ∧
    (∀ (p : Bytes) (r : RpcResponse), decodeResponse p = some r → decodeResponseKey p =
      some ⟨ofBytes r.correlationId, r.sequence, r.body, r.streamEnd⟩) ∧
    (∀ (correlationId : Bytes) (route : JsString) (body : Bytes) (budget : Option Nat),
      correlationId.length = 16 → isConcreteRouteShape route (js "rpc") = true →
      isWellFormed route = true → body.length < 2 ^ 32 →
      (∀ ms ∈ budget, ms ≤ MAX_RPC_BUDGET_MS) →
      ∃ p,
        encodeRequest correlationId route body (budget.map fun ms : Nat => .integer ms) = some p ∧
        decodeInboundRequest p = some ⟨correlationId, route, body, budget⟩) ∧
    ∀ r : RpcResponse, r.correlationId.length = 16 → r.sequence < 2 ^ 64 →
      r.body.length < 2 ^ 32 →
      ∃ p, encodeResponse r = some p ∧ decodeResponse p = some r := by
  refine ⟨fun p => ?_, fun p => ?_, fun p => ?_, fun p r hr => ?_, ?_, ?_⟩
  · rw [isInboundRequestPayload_eq, Option.isSome_iff_exists]
  · rw [isStreamResponsePayload_eq, Option.isSome_iff_exists]
  · rw [decodeResponseKey_eq, ← Option.isSome_iff_exists, ← Option.isSome_iff_exists,
      Option.isSome_map]
  · rw [decodeResponseKey_eq, hr]
    rfl
  · intro correlationId route body budget hid hroute hformed hbody hbudget
    obtain ⟨hdecode, hlength⟩ := utf8Decode_utf8Encode_route hroute hformed
    exact decodeInboundRequest_encodeRequest hid hdecode hlength hbody hbudget
  · exact fun r => decodeResponse_encodeResponse

/-- A request with a budget, and the last response to it. -/
theorem classifiers_agree_roundTrip :
    (∃ p, encodeRequest (List.replicate 16 7) (js "rpc://a/b") [1, 2] (some (.integer 250)) =
        some p ∧
      decodeInboundRequest p = some ⟨List.replicate 16 7, js "rpc://a/b", [1, 2], some 250⟩) ∧
    ∃ p, encodeResponse ⟨List.replicate 16 7, 3, [9], true⟩ = some p ∧
      decodeResponse p = some ⟨List.replicate 16 7, 3, [9], true⟩ ∧
      decodeResponseKey p = some ⟨ofBytes (List.replicate 16 7), 3, [9], true⟩ := by
  refine ⟨classifiers_agree.2.2.2.2.1 _ _ _ (some 250) (by decide) (by decide +kernel)
    (by decide) (by decide) (by decide), ?_⟩
  obtain ⟨p, hencode, hdecode⟩ := classifiers_agree.2.2.2.2.2
    ⟨List.replicate 16 7, 3, [9], true⟩ (by decide) (by decide) (by decide)
  exact ⟨p, hencode, hdecode, classifiers_agree.2.2.2.1 p _ hdecode⟩

end FitzTs.Rpc
