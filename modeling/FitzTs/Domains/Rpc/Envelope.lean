import FitzTs.Domains.Rpc.Codec
import FitzTs.Lib.Utf8.RoundTrip
import FitzTs.Protocol.Response
/-!
# FitzTs.Domains.Rpc.Envelope

**One envelope, two parsers and an encoder.** `parseStandardResponse` and the RPC decoder
`tryDecodeTerminalErrorBody` accept the same error envelopes where the code is one of RPC's, and
`encodeRpcErrorBody` writes such an envelope.

The message comes back as UTF-8 has it: a surrogate that stands alone is a U+FFFD afterwards.

## Main result

* `responseEnvelope` — the grammar of responses, and the agreement of the three.
-/

namespace FitzTs.Rpc

open JsString Buffer

/-- The code is one of RPC's. -/
def IsRpcErrorCode (code : Nat) : Prop := RPC_ERROR_CODE_MIN ≤ code ∧ code ≤ RPC_ERROR_CODE_MAX

instance (code : Nat) : Decidable (IsRpcErrorCode code) :=
  inferInstanceAs (Decidable (RPC_ERROR_CODE_MIN ≤ code ∧ code ≤ RPC_ERROR_CODE_MAX))

/-- What `parseStandardResponse` returns for an error. -/
def RpcErrorBody.response (e : RpcErrorBody) : ResponseError :=
  { errorCode := e.code, errorClass := e.errorClass, effect := e.effect, error := e.message }

theorem RpcErrorBody.isErrorResponse_iff {payload : Bytes} {e : RpcErrorBody}
    (hcode : IsRpcErrorCode e.code) {message : Bytes} :
    IsErrorResponse payload e.response message ↔
      IsErrorEnvelope payload e.code e.errorClass e.effect message ∧
        e.message = utf8Decode message := by
  constructor
  · rintro ⟨-, hclass, heffect, hlength, hmessage, hpayload⟩
    exact ⟨⟨hcode, hclass, heffect, hlength, hpayload⟩, hmessage⟩
  · rintro ⟨⟨-, hclass, heffect, hlength, hpayload⟩, hmessage⟩
    exact ⟨lt_of_le_of_lt hcode.2 (by decide), hclass, heffect, hlength, hmessage, hpayload⟩

/-- **The two parsers agree** on the codes of RPC. -/
theorem tryDecodeTerminalErrorBody_iff_parseStandardResponse {payload : Bytes} {e : RpcErrorBody}
    (hcode : IsRpcErrorCode e.code) :
    tryDecodeTerminalErrorBody payload = some e ↔
      parseStandardResponse payload = some (.failure e.response) := by
  rw [tryDecodeTerminalErrorBody_eq_some_iff, parseStandardResponse_eq_failure_iff]
  exact exists_congr fun message => (RpcErrorBody.isErrorResponse_iff hcode).symm

theorem rpcErrorMetadata_le (code : Nat) :
    (rpcErrorMetadata code).1 ≤ 10 ∧ (rpcErrorMetadata code).2 ≤ 2 := by
  unfold rpcErrorMetadata
  split_ifs <;> decide

/-- The error that is encoded, with the message as it is decoded. -/
def encodedError (code : Nat) (message : JsString) : RpcErrorBody :=
  { code
    errorClass := (rpcErrorMetadata code).1
    effect := (rpcErrorMetadata code).2
    message }

theorem tryDecodeTerminalErrorBody_encodeRpcErrorBody {code : Nat} (hcode : IsRpcErrorCode code)
    {message : JsString} (hlength : (utf8Encode message).length < 2 ^ 32) :
    tryDecodeTerminalErrorBody (encodeRpcErrorBody code message) =
      some (encodedError code (utf8Decode (utf8Encode message))) := by
  rw [tryDecodeTerminalErrorBody_eq_some_iff]
  obtain ⟨hclass, heffect⟩ := rpcErrorMetadata_le code
  exact ⟨utf8Encode message, ⟨hcode, hclass, heffect, hlength, rfl⟩, rfl⟩

/-- **The envelope of responses.** Messages come back with U+FFFD for each lone surrogate. -/
theorem responseEnvelope :
    (∀ p d : Bytes, parseStandardResponse p = some (.success d) ↔ p = 0 :: d) ∧
    (∀ (p : Bytes) (e : ResponseError), parseStandardResponse p = some (.failure e) ↔
      ∃ message, IsErrorResponse p e message) ∧
    (∀ p : Bytes, parseStandardResponse p = none ↔
      (∀ d, p ≠ 0 :: d) ∧ ∀ e message, ¬ IsErrorResponse p e message) ∧
    (∀ (p : Bytes) (e : RpcErrorBody), IsRpcErrorCode e.code →
      (tryDecodeTerminalErrorBody p = some e ↔
        parseStandardResponse p = some (.failure e.response))) ∧
    ∀ (code : Nat) (message : JsString), IsRpcErrorCode code →
      message.head? ≠ some byteOrderMark → (utf8Encode message).length < 2 ^ 32 →
      tryDecodeTerminalErrorBody (encodeRpcErrorBody code message) =
          some (encodedError code (toWellFormed message)) ∧
        parseStandardResponse (encodeRpcErrorBody code message) =
          some (.failure (encodedError code (toWellFormed message)).response) := by
  refine ⟨fun _ _ => parseStandardResponse_eq_success_iff,
    fun _ _ => parseStandardResponse_eq_failure_iff, fun p => ?_,
    fun _ _ => tryDecodeTerminalErrorBody_iff_parseStandardResponse, ?_⟩
  · constructor
    · intro hnone
      refine ⟨fun d hd => ?_, fun e message he => ?_⟩
      · rw [parseStandardResponse_eq_success_iff.mpr hd] at hnone
        cases hnone
      · rw [parseStandardResponse_eq_failure_iff.mpr ⟨message, he⟩] at hnone
        cases hnone
    · rintro ⟨hsuccess, hfailure⟩
      cases hparsed : parseStandardResponse p with
      | none => rfl
      | some parsed =>
          cases parsed with
          | success d => exact absurd (parseStandardResponse_eq_success_iff.mp hparsed) (hsuccess d)
          | failure e =>
              obtain ⟨message, he⟩ := parseStandardResponse_eq_failure_iff.mp hparsed
              exact absurd he (hfailure e message)
  · intro code message hcode hmark hlength
    have hdecode := tryDecodeTerminalErrorBody_encodeRpcErrorBody hcode hlength
    rw [utf8Decode_utf8Encode, if_neg hmark] at hdecode
    exact ⟨hdecode, (tryDecodeTerminalErrorBody_iff_parseStandardResponse hcode).mp hdecode⟩

/-- The two decoders on the body of a timeout. -/
theorem responseEnvelope_timeout :
    tryDecodeTerminalErrorBody (encodeRpcErrorBody ErrCodeRpcTimeout (js "late")) =
        some (encodedError ErrCodeRpcTimeout (js "late")) ∧
      parseStandardResponse (encodeRpcErrorBody ErrCodeRpcTimeout (js "late")) =
        some (.failure (encodedError ErrCodeRpcTimeout (js "late")).response) := by
  have hcode : IsRpcErrorCode (encodedError ErrCodeRpcTimeout (js "late")).code := by decide
  obtain ⟨hdecode, -⟩ := responseEnvelope.2.2.2.2 ErrCodeRpcTimeout (js "late") (by decide)
    (by decide) (by decide)
  have hsame : toWellFormed (js "late") = js "late" := by decide
  rw [hsame] at hdecode
  exact ⟨hdecode, (responseEnvelope.2.2.2.1 _ _ hcode).mp hdecode⟩

/-- A lone surrogate does not come back. -/
theorem not_forall_message_returned : ¬ ∀ (code : Nat) (message : JsString),
    IsRpcErrorCode code → ∃ errorClass effect,
      tryDecodeTerminalErrorBody (encodeRpcErrorBody code message) =
        some ⟨code, errorClass, effect, message⟩ := by
  intro h
  obtain ⟨errorClass, effect, heq⟩ := h ErrCodeRpcTimeout [0xd800] (by decide)
  rw [tryDecodeTerminalErrorBody_encodeRpcErrorBody (by decide) (by decide)] at heq
  have hmessage : utf8Decode (utf8Encode [0xd800]) = [0xd800] :=
    congrArg RpcErrorBody.message (Option.some.inj heq)
  exact absurd hmessage (by decide)

end FitzTs.Rpc
