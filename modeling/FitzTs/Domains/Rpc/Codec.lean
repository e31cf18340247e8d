import FitzTs.Core.Buffer
/-!
# FitzTs.Domains.Rpc.Codec

The response frames of `domains/rpc/codec.ts`, and the error bodies that a terminal frame can carry.

A response is encoded as

`[uuid16 correlation_id][u64 sequence][u8 flags][u32 length][bytes body]`

and an error body as

`[u8 status=1][u16 code][u8 class][u8 effect][string message]`.
-/

namespace FitzTs.Rpc

open BigEndian JsString Buffer

/-! ## Response frames -/

/-- What a response frame carries. -/
structure RpcResponse where
  correlationId : Bytes
  sequence : Nat
  body : Bytes
  streamEnd : Bool
  deriving DecidableEq, Repr

def CORRELATION_ID_LENGTH : Nat := 16
def RPC_RESPONSE_FLAG_STREAM_END : UInt8 := 0x01
def RPC_RESPONSE_FLAGS_SUPPORTED : UInt8 := RPC_RESPONSE_FLAG_STREAM_END

/-- `encodeResponse(correlationId, sequence, body, streamEnd)`. -/
def encodeResponse (r : RpcResponse) : Option Bytes :=
  if r.correlationId.length ≠ CORRELATION_ID_LENGTH then none
  else some (r.correlationId ++ writeU64BE r.sequence ++
    (if r.streamEnd then RPC_RESPONSE_FLAG_STREAM_END else 0) ::
      writeLengthAndBytes r.body)

/-- The `k`-byte number at an offset within the payload. -/
def readAt (k : Nat) (payload : Bytes) (offset : Nat) : Nat :=
  ofBytes ((payload.drop offset).take k)

/-- `readU128BEAt`. -/
def readCorrelationKey (payload : Bytes) (offset : Nat) : Nat := readAt 16 payload offset

def correlationIdToKey (correlationId : Bytes) : Nat := readCorrelationKey correlationId 0

def readLengthPrefixedEnd (payload : Bytes) (offset : Nat) : Option Nat :=
  if offset + 4 > payload.length then none
  else
    let stop := offset + 4 + readAt 4 payload offset
    if stop > payload.length then none else some stop

/-- `isStreamResponsePayload`, the classifier of pushed frames. -/
def isStreamResponsePayload (payload : Bytes) : Bool :=
  let offset := CORRELATION_ID_LENGTH + 8
  if payload.length < offset + 1 then false
  else if payload.getD offset 0 &&& ~~~RPC_RESPONSE_FLAGS_SUPPORTED ≠ 0 then false
  else readLengthPrefixedEnd payload (offset + 1) = some payload.length

/-- What `decodeResponseKey` returns. -/
structure ResponseKey where
  correlationKey : Nat
  sequence : Nat
  body : Bytes
  streamEnd : Bool
  deriving DecidableEq, Repr

def decodeResponseKey (payload : Bytes) : Option ResponseKey :=
  if payload.length < CORRELATION_ID_LENGTH + 8 + 1 + 4 then none
  else
    let flags := payload.getD (CORRELATION_ID_LENGTH + 8) 0
    if flags &&& ~~~RPC_RESPONSE_FLAGS_SUPPORTED ≠ 0 then none
    else
      let offset := CORRELATION_ID_LENGTH + 8 + 1 + 4
      let bodyLen := readAt 4 payload (CORRELATION_ID_LENGTH + 8 + 1)
      if offset + bodyLen > payload.length then none
      else if offset + bodyLen ≠ payload.length then none
      else some
        { correlationKey := readCorrelationKey payload 0
          sequence := readAt 8 payload CORRELATION_ID_LENGTH
          body := (payload.drop offset).take bodyLen
          streamEnd := flags &&& RPC_RESPONSE_FLAG_STREAM_END ≠ 0 }

/-! ## Error bodies -/

def RPC_ERROR_CODE_MIN : Nat := 6001
def RPC_ERROR_CODE_MAX : Nat := 6055

def ErrCodeRpcUnauthorized : Nat := 6001
def ErrCodeRpcBackpressure : Nat := 6005
def ErrCodeRpcBackendError : Nat := 6006
def ErrCodeRpcTimeout : Nat := 6007
def ErrCodeRpcWorkerNotFound : Nat := 6050
def ErrCodeRpcRouteNotRegistered : Nat := 6051
def ErrCodeRpcCorrelationNotFound : Nat := 6052
def ErrCodeRpcWrongWorker : Nat := 6055

/-- What `tryDecodeTerminalErrorBody` returns. -/
structure RpcErrorBody where
  code : Nat
  errorClass : Nat
  effect : Nat
  message : JsString
  deriving DecidableEq, Repr

/-- The class and the effect of a code. -/
def rpcErrorMetadata (code : Nat) : Nat × Nat :=
  if code = ErrCodeRpcBackpressure then (5, 0)
  else if code = ErrCodeRpcTimeout then (7, 1)
  else if code = ErrCodeRpcBackendError then (6, 1)
  else if code = ErrCodeRpcUnauthorized ∨ code = ErrCodeRpcWrongWorker then (1, 0)
  else if code = ErrCodeRpcWorkerNotFound then (9, 1)
  else if code = ErrCodeRpcRouteNotRegistered ∨ code = ErrCodeRpcCorrelationNotFound then (9, 0)
  else (8, 0)

def encodeRpcErrorBody (code : Nat) (message : JsString) : Bytes :=
  let (errorClass, effect) := rpcErrorMetadata code
  writeU8 1 ++ writeU16BE code ++ writeU8 errorClass ++ writeU8 effect ++ writeString message

/-- `tryDecodeTerminalErrorBody`; a `CodecError` is caught. -/
def tryDecodeTerminalErrorBody (payload : Bytes) : Option RpcErrorBody :=
  if payload.length < 9 then none
  else Reader.read (do
    let status ← readU8
    guard (status = 1)
    let code ← readU16BE
    let errorClass ← readU8
    let effect ← readU8
    guard ¬(code < RPC_ERROR_CODE_MIN ∨ code > RPC_ERROR_CODE_MAX)
    guard ¬(errorClass > 10 ∨ effect > 2)
    let message ← readString
    let eof ← isEOF
    guard (eof = true)
    return { code, errorClass, effect, message }) payload

example : tryDecodeTerminalErrorBody (encodeRpcErrorBody ErrCodeRpcTimeout (js "late")) =
    some ⟨6007, 7, 1, js "late"⟩ := by decide +kernel

/-! ## Decoding what was encoded -/

variable {r : RpcResponse} {payload : Bytes}

/-- The parts of an encoded response, by their offsets. -/
theorem encodeResponse_parts (h : encodeResponse r = some payload) :
    r.correlationId.length = 16 ∧ payload.length = 29 + r.body.length ∧
      payload.take 16 = r.correlationId ∧ (payload.drop 16).take 8 = writeU64BE r.sequence ∧
      payload.getD 24 0 = (if r.streamEnd then 1 else 0) ∧
      (payload.drop 25).take 4 = writeU32BE r.body.length ∧ payload.drop 29 = r.body := by
  obtain ⟨hlength, heq⟩ := Option.ite_none_left_eq_some.mp h
  have hid : r.correlationId.length = 16 := by simpa [CORRELATION_ID_LENGTH] using hlength
  obtain rfl := Option.some.inj heq
  refine ⟨hid, ?_, ?_, ?_, ?_, ?_, ?_⟩
  · simp [hid, writeLengthAndBytes]
    omega
  · simp [hid]
  · simp [hid]
  · rw [List.getD_eq_getElem?_getD, List.getElem?_append_right (by simp [hid])]
    simp [hid, RPC_RESPONSE_FLAG_STREAM_END]
  · simp [List.drop_append, hid, List.drop_of_length_le, writeLengthAndBytes]
  · simp [List.drop_append, hid, List.drop_of_length_le, writeLengthAndBytes]

/-- The flag byte that `encodeResponse` writes is supported, and read back. -/
theorem flag_supported {streamEnd : Bool} :
    (if streamEnd = true then (1 : UInt8) else 0) &&& ~~~RPC_RESPONSE_FLAGS_SUPPORTED = 0 := by
  cases streamEnd <;> decide

theorem flag_streamEnd {streamEnd : Bool} :
    decide ((if streamEnd = true then (1 : UInt8) else 0) &&& RPC_RESPONSE_FLAG_STREAM_END ≠ 0) =
      streamEnd := by
  cases streamEnd <;> decide

/-- An encoded response is a pushed frame to the classifier. -/
theorem isStreamResponsePayload_encodeResponse (h : encodeResponse r = some payload)
    (hbody : r.body.length < 2 ^ 32) : isStreamResponsePayload payload = true := by
  obtain ⟨-, hlength, -, -, hflag, hbodyLen, -⟩ := encodeResponse_parts h
  have hread : readAt 4 payload 25 = r.body.length := by
    rw [readAt, hbodyLen]
    exact ofBytes_toBytes hbody
  have hstop : readLengthPrefixedEnd payload 25 = some payload.length := by
    simp only [readLengthPrefixedEnd, hread, hlength]
    rw [if_neg (by omega), if_neg (by omega)]
  have hlong : ¬ payload.length < 25 := by omega
  simp only [isStreamResponsePayload, CORRELATION_ID_LENGTH, Nat.reduceAdd, hflag, flag_supported,
    hstop, if_neg hlong, ne_eq, not_true, if_false, decide_true]

/-- Decoding an encoded response; the sequence is that of its low 64 bits. -/
theorem decodeResponseKey_encodeResponse (h : encodeResponse r = some payload)
    (hbody : r.body.length < 2 ^ 32) : decodeResponseKey payload = some
      { correlationKey := correlationIdToKey r.correlationId
        sequence := r.sequence % 2 ^ 64
        body := r.body
        streamEnd := r.streamEnd } := by
  obtain ⟨hid, hlength, hkey, hsequence, hflag, hbodyLen, hrest⟩ := encodeResponse_parts h
  have hread : readAt 4 payload 25 = r.body.length := by
    rw [readAt, hbodyLen]
    exact ofBytes_toBytes hbody
  have hkeys : readCorrelationKey payload 0 = correlationIdToKey r.correlationId := by
    simp only [correlationIdToKey, readCorrelationKey, readAt, List.drop_zero]
    rw [hkey, List.take_of_length_le hid.le]
  have hnumber : readAt 8 payload 16 = r.sequence % 2 ^ 64 := by
    rw [readAt, hsequence]
    exact ofBytes_toBytes_mod
  simp only [decodeResponseKey, CORRELATION_ID_LENGTH, Nat.reduceAdd, hflag, flag_supported,
    flag_streamEnd, hread, hkeys, hnumber, hrest, hlength, ne_eq, not_true, if_false,
    List.take_length]
  rw [if_neg (by omega), if_neg (by omega)]

/-! ## Error envelopes -/

/-- `[u8 status=1][u16 code][u8 class][u8 effect][string message]`. -/
def errorEnvelope (code errorClass effect : Nat) (message : Bytes) : Bytes :=
  writeU8 1 ++ writeU16BE code ++ writeU8 errorClass ++ writeU8 effect ++
    writeLengthAndBytes message

/-- The body is a well-formed error envelope with these parts. -/
structure IsErrorEnvelope (body : Bytes) (code errorClass effect : Nat) (message : Bytes) :
    Prop where
  code_mem : RPC_ERROR_CODE_MIN ≤ code ∧ code ≤ RPC_ERROR_CODE_MAX
  errorClass_le : errorClass ≤ 10
  effect_le : effect ≤ 2
  length_lt : message.length < 2 ^ 32
  body_eq : body = errorEnvelope code errorClass effect message

/-- **A terminal body is decoded as an error** exactly if it is a well-formed error envelope. -/
theorem tryDecodeTerminalErrorBody_eq_some_iff {e : RpcErrorBody} :
    tryDecodeTerminalErrorBody payload = some e ↔
      ∃ message, IsErrorEnvelope payload e.code e.errorClass e.effect message ∧
        e.message = utf8Decode message := by
  constructor
  · intro h
    obtain ⟨-, hread⟩ := Option.ite_none_left_eq_some.mp h
    obtain ⟨⟨e', rest⟩, hparts, rfl⟩ := Option.map_eq_some_iff.mp hread
    obtain ⟨status, bytes, hstatus, hparts⟩ := bind_eq_some.mp hparts
    rw [guard_bind] at hparts
    obtain ⟨rfl, hparts⟩ := Option.ite_none_right_eq_some.mp hparts
    obtain ⟨code, bytes, hcode, hparts⟩ := bind_eq_some.mp hparts
    obtain ⟨errorClass, bytes, hclass, hparts⟩ := bind_eq_some.mp hparts
    obtain ⟨effect, bytes, heffect, hparts⟩ := bind_eq_some.mp hparts
    rw [guard_bind] at hparts
    obtain ⟨hrange, hparts⟩ := Option.ite_none_right_eq_some.mp hparts
    rw [guard_bind] at hparts
    obtain ⟨hbounds, hparts⟩ := Option.ite_none_right_eq_some.mp hparts
    obtain ⟨message, bytes, hmessage, hparts⟩ := bind_eq_some.mp hparts
    obtain ⟨eof, bytes, heof, hparts⟩ := bind_eq_some.mp hparts
    rw [guard_bind] at hparts
    obtain ⟨rfl, hparts⟩ := Option.ite_none_right_eq_some.mp hparts
    obtain ⟨rfl, rfl⟩ := Prod.mk.inj (Option.some.inj hparts)
    -- nothing is left after the message
    obtain ⟨hempty, rfl⟩ := Prod.mk.inj (Option.some.inj heof)
    obtain rfl := List.isEmpty_iff.mp hempty
    obtain ⟨data, rfl, hdata, rfl⟩ := readString_eq_some hmessage
    obtain ⟨rfl, -⟩ := readUBE_eq_some.mp heffect
    obtain ⟨rfl, -⟩ := readUBE_eq_some.mp hclass
    obtain ⟨rfl, -⟩ := readUBE_eq_some.mp hcode
    obtain ⟨rfl, -⟩ := readUBE_eq_some.mp hstatus
    obtain ⟨hmin, hmax⟩ := not_or.mp hrange
    obtain ⟨hclass, heffect⟩ := not_or.mp hbounds
    exact ⟨data, ⟨⟨not_lt.mp hmin, not_lt.mp hmax⟩, not_lt.mp hclass, not_lt.mp heffect, hdata,
      by simp [errorEnvelope, writeU8, writeU16BE]⟩, rfl⟩
  · rintro ⟨message, ⟨⟨hmin, hmax⟩, hclass, heffect, hlength, rfl⟩, hmessage⟩
    have hshort : ¬ (errorEnvelope e.code e.errorClass e.effect message).length < 9 := by
      simp [errorEnvelope, writeLengthAndBytes]
      omega
    have hcode : e.code < 2 ^ 16 := lt_of_le_of_lt hmax (by decide)
    refine (if_neg hshort).trans (Option.map_eq_some_iff.mpr ⟨(e, []), ?_, rfl⟩)
    simp only [errorEnvelope, List.append_assoc]
    rw [bind_eq (readU8_append (by decide)), guard_bind, if_pos rfl,
      bind_eq (readU16BE_append hcode), bind_eq (readU8_append (lt_of_le_of_lt hclass (by decide))),
      bind_eq (readU8_append (lt_of_le_of_lt heffect (by decide))), guard_bind,
      if_pos (not_or.mpr ⟨not_lt.mpr hmin, not_lt.mpr hmax⟩), guard_bind,
      if_pos (not_or.mpr ⟨not_lt.mpr hclass, not_lt.mpr heffect⟩),
      ← List.append_nil (writeLengthAndBytes message), bind_eq (readString_append hlength)]
    rw [← hmessage]
    rfl

end FitzTs.Rpc
