import FitzTs.Client.Retry
import FitzTs.Frame.Codec
import FitzTs.Protocol.Response
/-!
# FitzTs.Domains.Queue.Enqueue

`enqueue` of `domains/queue/client.ts`: the operation it runs through `executeWithRetry`.
-/

namespace FitzTs.Queue

open FitzTs.Client JsString

def MSG_QUEUE_ENQUEUE : MessageType := 200
def CAP_QUEUE_MESSAGE_TTL : Nat := 1

/-- `new QueueError(message, code, domainCode)`. -/
def queueError (message code : JsString) (domainCode : Option Nat := none) : DomainError :=
  { message, code := js "QUEUE_" ++ code, domainCode }

/-! ### The request -/

/-- The frame with a TTL: the payload becomes the core of `encodeExtensions`, whose one field
has four bytes. -/
def extendedFrameLength (payloadLength : Nat) : Except Thrown Nat :=
  let size := 4 + payloadLength + (6 + 4)
  if size + 15 > 1024 * 1024 then
    .error ⟨.client ⟨.other, "Extensions exceed message size limit"⟩, none⟩
  else .ok (FrameCodec.headerLength + size)

/-- The task up to its request. `encoded` is what `encodeEnqueue` comes to: the length of the
payload, or the error it throws. -/
def prepareEnqueue (encoded : Except ClientError Nat) (ttlHours : Option FrameCodec.JsNumber)
    (capabilityIds : List Nat) : Except Thrown Nat :=
  match encoded with
  | .error error => .error ⟨.client error, none⟩
  | .ok payloadLength =>
    match ttlHours with
    | none => .ok (FrameCodec.headerLength + payloadLength)
    | some ttlHours =>
      match ttlHours.upTo 0xffffffff with
      | none | some 0 =>
        .error ⟨.domain (queueError (js "ttlHours must be a positive u32 number of hours")
          (js "INVALID_TTL")), none⟩
      | some _ =>
        if CAP_QUEUE_MESSAGE_TTL ∈ capabilityIds then extendedFrameLength payloadLength
        else
          .error ⟨.domain (queueError (js "Queue TTL capability was not negotiated")
            (js "UNSUPPORTED_CAPABILITY")), none⟩

/-! ### The response -/

/-- `statusNames`, and `formatStatusName`. -/
def statusName : Nat → JsString
  | 1 => js "QueueNotFound"
  | 2 => js "MessageNotFound"
  | 3 => js "InvalidToken"
  | 4 => js "QueueFull"
  | 5 => js "InvalidDelay"
  | 4001 => js "InvalidToken"
  | 4002 => js "LeaseExpired"
  | 4003 => js "MessageNotFound"
  | 4004 => js "QueueNotFound"
  | 4005 => js "QueueFull"
  | 4009 => js "Unauthorized"
  | status => js s!"Unknown({status})"

/-- `checkStatus`, of a response whose status is not `Ok`. -/
def statusError (response : ResponseError) (operation : JsString) : Thrown :=
  let statusName := statusName response.errorCode
  attachResilienceMeta
    (.domain { queueError (operation ++ js " failed: " ++ response.error) statusName
        (some response.errorCode) with
      errorClass := some response.errorClass
      effect := some response.effect })
    { boundary := .postSend, failureKind := .domain, explicitNegative := true }

/-- The error of a response that cannot be parsed. -/
def malformedResponseError : Thrown := ⟨.client ⟨.protocol none, "Malformed response"⟩, none⟩

/-- The task from its response on: `decodeEnqueueResponse` and `checkStatus`. -/
def enqueueAnswered (payload : Payload) : Option Thrown :=
  match parseStandardResponse payload with
  | none => some malformedResponseError
  | some (.failure response) => some (statusError response (js "ENQUEUE"))
  -- The message id is read where there are eight bytes for it.
  | some (.success _) => none

/-- The operation of `enqueue`. -/
def enqueue (encoded : Except ClientError Nat) (ttlHours : Option FrameCodec.JsNumber) :
    Retry.RetryOperation where
  retryClass := .confirmedNegativeRetry
  task :=
    { messageType := MSG_QUEUE_ENQUEUE
      prepare := prepareEnqueue encoded ttlHours
      decode := enqueueAnswered }

/-! ### When it is run again -/

/-- The broker declines the request: it says that it had no effect, and may be sent again. -/
def Declined (payload : Payload) : Prop :=
  ∃ response, parseStandardResponse payload = some (.failure response) ∧
    response.effect = 0 ∧ response.errorClass = 5

/-- The code of a `QueueError` begins with `QUEUE_`. -/
theorem codePrefix_queueError (code : JsString) :
    codePrefix (js "QUEUE_" ++ code) = js "QUEUE" := by
  have hcode : js "QUEUE_" ++ code = js "QUEUE" ++ 0x5f :: code := by
    have hjs : js "QUEUE_" = js "QUEUE" ++ [0x5f] := by decide
    rw [hjs, List.append_assoc]
    rfl
  unfold codePrefix split
  rw [hcode, List.splitOn_append_cons_self_of_not_mem (by decide)]
  rfl

/-- No number makes a `QueueError` retryable; its disposition does. -/
theorem statusError_retryable {response : ResponseError} {operation : JsString}
    (h : isRetryable (statusError response operation).failure = true) :
    response.effect = 0 ∧ response.errorClass = 5 := by
  have hprefix : ∀ key ∈ retryableErrorCodes, key.1 ≠ js "QUEUE" := by decide
  obtain ⟨heffect, hclass⟩ := isRetryable_domain (fun key hkey => by
    change key.1 ≠ codePrefix (js "QUEUE_" ++ statusName response.errorCode)
    rw [codePrefix_queueError]
    exact hprefix key hkey) h
  exact ⟨Option.some.inj heffect, Option.some.inj hclass⟩

/-- An enqueue is run again after an answer that declines it, and after nothing else. -/
theorem declined_of_retry {payload : Payload} {thrown : Thrown}
    (hthrown : enqueueAnswered payload = some thrown)
    (hretry : shouldRetryOperation .confirmedNegativeRetry thrown = true) : Declined payload := by
  obtain ⟨resilience, hresilience, -, hretryable⟩ := shouldRetry_confirmedNegative hretry
  unfold enqueueAnswered at hthrown
  split at hthrown
  · obtain rfl := Option.some.inj hthrown
    cases hresilience
  · rename_i response hparsed
    obtain rfl := Option.some.inj hthrown
    exact ⟨response, hparsed, statusError_retryable hretryable⟩
  · cases hthrown

/-- What is thrown before the request carries no metadata. -/
theorem prepareEnqueue_resilience {encoded : Except ClientError Nat}
    {ttlHours : Option FrameCodec.JsNumber} {capabilityIds : List Nat} {thrown : Thrown}
    (h : prepareEnqueue encoded ttlHours capabilityIds = .error thrown) :
    thrown.resilience = none := by
  unfold prepareEnqueue extendedFrameLength at h
  grind

end FitzTs.Queue
