import FitzTs.Client.Connection.State
import FitzTs.Domains.Rpc.WorkerResponses
import FitzTs.Domains.Rpc.Caller
/-!
# FitzTs.Domains.Rpc.Streaming

A response from the worker's `write` and `end` to the caller's `next`.

The frames are written by a worker (`responseFrames`) and delivered to the caller's client, in their
order and while the call is live. Its iterator then yields the bodies with their numbers and ends as
the terminal body says (`Ending`), whatever else goes on at the connection and with the other calls
(`responses_yield`). An error without a text is reported with one of the client's.
-/

namespace FitzTs.Rpc

open JsString Buffer Client

/-! ## The frames of a response -/

/-- The calls of `write` and `end`, by body and terminal flag. -/
def responseCalls (bodies : List Bytes) (last : Bytes) : List (Bytes × Bool) :=
  bodies.map (·, false) ++ [(last, true)]

/-- The frames of a worker that writes some bodies and ends with a last one. -/
def responseFrames (correlationId : Bytes) (bodies : List Bytes) (last : Bytes) :
    List RpcResponse :=
  (responseCalls bodies last).mapIdx fun i call => ⟨correlationId, i, call.1, call.2⟩

/-- The length of a frame's header; `encodeFrame` throws if it and the payload are too long. -/
def HEADER_LENGTH : Nat := 15

/-- What the caller gets of a frame. -/
def RpcResponse.responseFrame (r : RpcResponse) : ResponseFrame := ⟨r.body, r.sequence % 2 ^ 64⟩

/-- What a terminal frame makes of the stream; `shown` is the text of an error by its message. -/
inductive Ending (shown : JsString → JsString) (sequence : Nat) (body : Bytes) :
    List ResponseFrame → IteratorResult → Prop
  | error {code errorClass effect : Nat} {message : Bytes}
      (h : IsErrorEnvelope body code errorClass effect message) :
      Ending shown sequence body [] (.thrown (.rpc
        ⟨shown (utf8Decode message), rpcErrorCodeName code, code, some errorClass, some effect⟩))
  | empty (h : body = []) : Ending shown sequence body [] .done
  | body (hne : body ≠ [])
      (h : ∀ code errorClass effect message,
        ¬ IsErrorEnvelope body code errorClass effect message) :
      Ending shown sequence body [⟨body, sequence % 2 ^ 64⟩] .done

/-- `terminalError.message || "RPC error"`. -/
def shownMessage (message : JsString) : JsString :=
  if message = [] then js "RPC error" else message

/-- All calls written in their order: the frames are those of the response. -/
theorem ResponseWriter.Books.wire_eq {w : ResponseWriter} {id : Bytes} {bodies : List Bytes}
    {last : Bytes} (h : w.Books id) (hwritten : w.wire = w.sends.map Send.frame)
    (hcalls : w.sends.map (fun s => (s.frame.body, s.frame.streamEnd)) =
      responseCalls bodies last) : w.wire = responseFrames id bodies last := by
  rw [hwritten, responseFrames, ← hcalls]
  refine List.ext_getElem? fun i => ?_
  rw [List.getElem?_mapIdx, List.getElem?_map, List.getElem?_map, Option.map_map]
  cases hs : w.sends[i]? with
  | none => rfl
  | some s =>
      have hid := h.addressed s (List.mem_of_getElem? hs)
      have hnumber : s.frame.sequence = i := by
        have hnth := congrArg (·[i]?) h.numbered
        obtain ⟨hi, rfl⟩ := List.getElem?_eq_some_iff.mp hs
        simpa [hi] using hnth
      simp [← hid, ← hnumber]

/-! ## The pending calls -/

namespace RpcCaller

variable {c c' : RpcCaller} {i j key k : Nat}

/-- The table holds calls under their own keys, which differ, and responses reach the client. -/
structure Sound (c : RpcCaller) : Prop where
  entry : ∀ key j, c.pendingRpcs.get? key = some j → j < c.issued ∧ (c.calls j).correlationKey = key
  distinct : ∀ i j, i < c.issued → j < c.issued →
    (c.calls i).correlationKey = (c.calls j).correlationKey → i = j
  initialized : 0 < c.issued → c.initialized = true
  handled : c.initialized = true → c.multiplexer.Handled MSG_RPC_RESPONSE isStreamResponsePayload

theorem sound_init : Sound {} :=
  ⟨fun _ _ h => (nomatch h), fun _ _ h => absurd h (Nat.not_lt_zero _),
    fun h => absurd h (lt_irrefl 0), fun h => (nomatch h)⟩

/-- A move of one iterator, or the end of its call. -/
theorem Sound.moves {it : RpcIterator} (h : c.Sound) (hm : Moves c j it c') : c'.Sound where
  entry := fun key j' hget => by
    have hold : c.pendingRpcs.get? key = some j' := by
      rcases hm.entries key with hsame | ⟨-, hnone⟩
      · exact hsame ▸ hget
      · rw [hnone] at hget
        cases hget
    rw [hm.issued, hm.correlationKey]
    exact h.entry key j' hold
  distinct := by
    simp only [hm.issued, hm.correlationKey]
    exact h.distinct
  initialized := by
    rw [hm.issued, hm.initialized]
    exact h.initialized
  handled := by
    rw [hm.initialized, hm.multiplexer]
    exact h.handled

/-- One call makes progress that does not come from a worker; it stays in the table if it is
live. -/
structure Touches (c : RpcCaller) (j : Nat) (it : RpcIterator) (c' : RpcCaller) : Prop
    extends Moves c j it c' where
  progress : RpcIterator.Progress (c.calls j).iterator it
  kept : (c.calls j).iterator.cancellationRequested = false → it.done = false →
    c'.pendingRpcs = c.pendingRpcs

theorem fail_touches {reason : CallError} :
    Touches c j ((c.calls j).iterator.fail reason) (c.fail j reason) where
  toMoves := fail_moves
  progress := RpcIterator.fail_progress
  kept := fun _ hlive => by
    rw [RpcIterator.fail_done] at hlive
    cases hlive

theorem modifyIterator_touches {f : RpcIterator → RpcIterator}
    (h : RpcIterator.Progress (c.calls j).iterator (f (c.calls j).iterator)) :
    Touches c j (f (c.calls j).iterator) (c.modifyIterator j f) :=
  ⟨modifyIterator_moves, h, fun _ _ => rfl⟩

theorem requestSettled_touches {sent : Bool} :
    Touches c j (c.calls j).iterator (c.requestSettled j sent) :=
  ⟨@setCall_moves c j { c.calls j with requestSent := some sent } rfl, .refl, fun _ _ => rfl⟩

/-- The frames of a response that the client has handled so far, for the `i`-th call. -/
inductive Receives (shown : JsString → JsString) (i key : Nat) (writes : List RpcResponse)
    (terminal : RpcResponse) (c : RpcCaller) : Nat → Prop
  | absent (h : c.issued ≤ i) : Receives shown i key writes terminal c 0
  | other {k : Nat} (hi : i < c.issued) (hkey : (c.calls i).correlationKey ≠ key) :
      Receives shown i key writes terminal c k
  | live {k : Nat} (hi : i < c.issued) (hkey : (c.calls i).correlationKey = key)
      (hk : k ≤ writes.length) (hentry : c.pendingRpcs.get? key = some i)
      (hopen : (c.calls i).iterator.Open ((writes.take k).map RpcResponse.responseFrame)) :
      Receives shown i key writes terminal c k
  | ended {frames : List ResponseFrame} {result : IteratorResult} (hi : i < c.issued)
      (hkey : (c.calls i).correlationKey = key)
      (hending : Ending shown terminal.sequence terminal.body frames
        result)
      (hended : (c.calls i).iterator.Ended
        (writes.map RpcResponse.responseFrame ++ frames) result) :
      Receives shown i key writes terminal c (writes.length + 1)
  /-- The call has been given up before. -/
  | dead {k : Nat} (hi : i < c.issued) (hkey : (c.calls i).correlationKey = key)
      (hk : k ≤ writes.length) (hdone : (c.calls i).iterator.done = true) :
      Receives shown i key writes terminal c k

variable {shown : JsString → JsString} {writes : List RpcResponse} {terminal : RpcResponse}

/-- The call itself is as it was. -/
theorem Receives.frame (h : Receives shown i key writes terminal c k)
    (hissued : c'.issued = c.issued)
    (hcall : i < c.issued → c'.calls i = c.calls i)
    (hentry : i < c.issued → (c.calls i).correlationKey = key →
      c'.pendingRpcs.get? key = c.pendingRpcs.get? key) :
    Receives shown i key writes terminal c' k := by
  cases h with
  | absent h => exact .absent (hissued ▸ h)
  | other hi hkey => exact .other (hissued ▸ hi) (hcall hi ▸ hkey)
  | live hi hkey hk hget hopen =>
      exact .live (hissued ▸ hi) (hcall hi ▸ hkey) hk ((hentry hi hkey).trans hget)
        (hcall hi ▸ hopen)
  | ended hi hkey hending hended =>
      exact .ended (hissued ▸ hi) (hcall hi ▸ hkey) hending (hcall hi ▸ hended)
  | dead hi hkey hk hdone => exact .dead (hissued ▸ hi) (hcall hi ▸ hkey) hk (hcall hi ▸ hdone)

/-- What another call does leaves this one alone. -/
theorem Receives.others {it : RpcIterator} (h : Receives shown i key writes terminal c k)
    (hsound : c.Sound) (hm : Moves c j it c') (hj : j < c.issued) (hne : i ≠ j) :
    Receives shown i key writes terminal c' k := by
  refine h.frame hm.issued (fun _ => hm.others i hne) fun hi hkey => ?_
  rcases hm.entries key with hsame | ⟨hkey', -⟩
  · exact hsame
  · exact absurd (hsound.distinct i j hi hj (hkey.trans hkey')) hne

/-- Progress that does not come from a worker. -/
theorem Receives.touches {it : RpcIterator} (h : Receives shown i key writes terminal c k)
    (hsound : c.Sound) (ht : Touches c j it c') (hj : j < c.issued) :
    Receives shown i key writes terminal c' k := by
  by_cases hne : i = j
  · subst hne
    have hkey' := ht.correlationKey i
    have hi' : i < c'.issued := ht.issued ▸ hj
    cases h with
    | absent h => exact absurd hj (not_lt.mpr h)
    | other hi hkey => exact .other hi' (hkey' ▸ hkey)
    | live hi hkey hk hget hopen =>
        rcases ht.progress.live _ hopen with hopen' | hdone
        · have hkept := ht.kept hopen.cancellationRequested hopen'.done
          exact .live hi' (hkey' ▸ hkey) hk (hkept ▸ hget) (ht.iterator.symm ▸ hopen')
        · exact .dead hi' (hkey' ▸ hkey) hk (ht.iterator.symm ▸ hdone)
    | ended hi hkey hending hended =>
        exact .ended hi' (hkey' ▸ hkey) hending (ht.iterator.symm ▸ ht.progress.ended _ _ hended)
    | dead hi hkey hk hdone =>
        exact .dead hi' (hkey' ▸ hkey) hk (ht.iterator.symm ▸ ht.progress.dead hdone)
  · exact h.others hsound ht.toMoves hj hne

/-! ### Responses -/

theorem handleRpcResponse_moves {response : ResponseKey}
    (hget : c.pendingRpcs.get? response.correlationKey = some j) :
    ∃ it, Moves c j it (c.handleRpcResponse response) := by
  unfold handleRpcResponse
  simp only [hget]
  split
  · exact ⟨_, fail_moves⟩
  · split
    · split
      · exact ⟨_, (modifyIterator_moves.trans cleanupPendingRpc_moves).trans modifyIterator_moves⟩
      · exact ⟨_, cleanupPendingRpc_moves.trans modifyIterator_moves⟩
    · exact ⟨_, modifyIterator_moves⟩

/-- A response to no call is dropped. -/
theorem handleRpcResponse_of_none {response : ResponseKey}
    (hget : c.pendingRpcs.get? response.correlationKey = none) :
    c.handleRpcResponse response = c := by
  unfold handleRpcResponse
  rw [hget]

theorem Sound.handleRpcResponse {response : ResponseKey} (h : c.Sound) :
    (c.handleRpcResponse response).Sound := by
  cases hget : c.pendingRpcs.get? response.correlationKey with
  | none => exact (handleRpcResponse_of_none hget).symm ▸ h
  | some j =>
      obtain ⟨it, hm⟩ := handleRpcResponse_moves hget
      exact h.moves hm

/-- A call with another key keeps it. -/
theorem other_handleRpcResponse {response : ResponseKey} (hi : i < c.issued)
    (hkey : (c.calls i).correlationKey ≠ key) :
    Receives shown i key writes terminal (c.handleRpcResponse response) k := by
  cases hget : c.pendingRpcs.get? response.correlationKey with
  | none => exact (handleRpcResponse_of_none hget).symm ▸ .other hi hkey
  | some j =>
      obtain ⟨it, hm⟩ := handleRpcResponse_moves hget
      exact .other (hm.issued ▸ hi) (hm.correlationKey i ▸ hkey)

/-- The response to another call. -/
theorem Receives.handleOther {response : ResponseKey} (h : Receives shown i key writes terminal c k)
    (hsound : c.Sound) (hne : response.correlationKey ≠ key) :
    Receives shown i key writes terminal (c.handleRpcResponse response) k := by
  cases hget : c.pendingRpcs.get? response.correlationKey with
  | none => exact (handleRpcResponse_of_none hget).symm ▸ h
  | some j =>
      obtain ⟨hj, hkey⟩ := hsound.entry _ _ hget
      obtain ⟨it, hm⟩ := handleRpcResponse_moves hget
      by_cases hij : i = j
      · -- the `i`-th call has another key
        subst hij
        cases h with
        | absent h => exact absurd hj (not_lt.mpr h)
        | other hi hkey' => exact other_handleRpcResponse hi hkey'
        | live hi hkey' | ended hi hkey' | dead hi hkey' => exact absurd (hkey.symm.trans hkey') hne
      · exact h.others hsound hm hj hij

/-- The next frame of the response to a live call: a write. -/
theorem Receives.handleWrite {r : RpcResponse} (h : Receives shown i key writes terminal c k)
    (hlive : (c.calls i).iterator.done = false) (hi : i < c.issued) (hr : writes[k]? = some r) :
    Receives shown i key writes terminal
      (c.handleRpcResponse ⟨key, r.sequence % 2 ^ 64, r.body, false⟩) (k + 1) := by
  obtain ⟨hlt, rfl⟩ := List.getElem?_eq_some_iff.mp hr
  cases h with
  | absent h => exact absurd hi (not_lt.mpr h)
  | other hi hkey => exact other_handleRpcResponse hi hkey
  | live hi hkey hk hget hopen =>
      have heq : c.handleRpcResponse ⟨key, writes[k].sequence % 2 ^ 64, writes[k].body, false⟩ =
          c.modifyIterator i fun it => it.push writes[k].responseFrame := by
        unfold handleRpcResponse
        simp only [hget, Bool.false_eq_true, if_false]
        rfl
      rw [heq]
      refine .live hi ?_ hlt hget ?_
      · exact (modifyIterator_moves.correlationKey i).trans hkey
      · rw [modifyIterator_moves.iterator, List.take_succ_eq_append_getElem hlt, List.map_append]
        exact hopen.push _
  | ended => omega
  | dead hi hkey hk hdone =>
      rw [hlive] at hdone
      cases hdone

/-- What the terminal frame says, as the client reads it. -/
theorem ending_of_decode (sequence : Nat) (body : Bytes) :
    (∃ e, tryDecodeTerminalErrorBody body = some e ∧
      Ending shownMessage sequence body [] (.thrown (.rpc (responseError e)))) ∨
    tryDecodeTerminalErrorBody body = none ∧
      Ending shownMessage sequence body
        (if body.length > 0 then [⟨body, sequence % 2 ^ 64⟩] else []) .done := by
  cases hdecode : tryDecodeTerminalErrorBody body with
  | some e =>
      obtain ⟨message, henvelope, hmessage⟩ := tryDecodeTerminalErrorBody_eq_some_iff.mp hdecode
      refine Or.inl ⟨e, rfl, ?_⟩
      have hending := @Ending.error shownMessage sequence _ _ _ _ _ henvelope
      rw [← hmessage] at hending
      exact hending
  | none =>
      refine Or.inr ⟨rfl, ?_⟩
      cases body with
      | nil => exact .empty rfl
      | cons b body =>
          refine .body (List.cons_ne_nil _ _) fun code errorClass effect message henvelope => ?_
          have hsome := tryDecodeTerminalErrorBody_eq_some_iff.mpr
            ⟨message, henvelope, (rfl : RpcErrorBody.message
              ⟨code, errorClass, effect, utf8Decode message⟩ = _)⟩
          rw [hdecode] at hsome
          cases hsome

/-- The terminal frame of the response to a live call. -/
theorem Receives.handleEnd (h : Receives shownMessage i key writes terminal c k)
    (hk : k = writes.length) (hlive : (c.calls i).iterator.done = false) (hi : i < c.issued) :
    Receives shownMessage i key writes terminal
      (c.handleRpcResponse ⟨key, terminal.sequence % 2 ^ 64, terminal.body, true⟩) (k + 1) := by
  cases h with
  | absent h => exact absurd hi (not_lt.mpr h)
  | other hi hkey => exact other_handleRpcResponse hi hkey
  | live hi hkey hle hget hopen =>
      subst hk
      rw [List.take_length] at hopen
      unfold handleRpcResponse
      simp only [hget, if_true]
      rcases ending_of_decode terminal.sequence terminal.body with
        ⟨e, hdecode, hending⟩ | ⟨hdecode, hending⟩
      · simp only [hdecode]
        refine .ended (fail_moves.issued.symm ▸ hi) ((fail_moves.correlationKey i).trans hkey)
          hending ?_
        rw [fail_moves.iterator, List.append_nil]
        exact hopen.fail rfl
      · simp only [hdecode]
        split
        case isTrue hbody =>
          rw [if_pos hbody] at hending
          refine .ended hi ?_ hending ?_
          · rw [modifyIterator_moves.correlationKey, cleanupPendingRpc_moves.correlationKey,
              modifyIterator_moves.correlationKey, hkey]
          · rw [modifyIterator_moves.iterator, cleanupPendingRpc_moves.iterator,
              modifyIterator_moves.iterator]
            exact (hopen.push _).end'
        case isFalse hbody =>
          rw [if_neg hbody] at hending
          refine .ended hi ?_ hending ?_
          · rw [modifyIterator_moves.correlationKey, cleanupPendingRpc_moves.correlationKey, hkey]
          · rw [modifyIterator_moves.iterator, cleanupPendingRpc_moves.iterator, List.append_nil]
            exact hopen.end'
  | ended => omega
  | dead hi hkey hle hdone =>
      rw [hlive] at hdone
      cases hdone

/-! ### Events -/

/-- The payload of a response frame with the key. -/
def ownPayload (key : Nat) : RpcCallerEvent → Option Bytes
  | .receive messageType payload none _ =>
    if messageType = MSG_RPC_RESPONSE ∧
        (decodeResponseKey payload).map ResponseKey.correlationKey = some key then some payload
    else none
  | _ => none

/-- The frames of the call with the key that are delivered to the client. -/
def delivered (key : Nat) (es : List RpcCallerEvent) : List Bytes := es.filterMap (ownPayload key)

/-- The frames of the call are delivered while it is live, and its signal has not aborted when a
rejection that was put off is due. No two calls draw the same correlation id, and nobody else takes
over the response frames of the connection. -/
def Live (i key : Nat) (c : RpcCaller) : RpcCallerEvent → Prop
  | .call correlationId _ =>
    ∀ j < c.issued, (c.calls j).correlationKey ≠ correlationIdToKey correlationId
  | .receive messageType payload correlationId final =>
    (ownPayload key (.receive messageType payload correlationId final)).isSome = true →
      i < c.issued ∧ (c.calls i).iterator.done = false
  | .rejects j => j = i → (c.calls i).iterator.signal ≠ some true
  | .connection e => Multiplexer.KeepsHandler MSG_RPC_RESPONSE e
  | _ => True

instance : ∀ {e : RpcCallerEvent}, Decidable (Live i key c e)
  | .call .. => inferInstanceAs (Decidable (∀ j < _, _))
  | .receive .. => inferInstanceAs (Decidable (_ = true → _ ∧ _))
  | .rejects _ => inferInstanceAs (Decidable (_ → _))
  | .connection _ => inferInstanceAs (Decidable (Multiplexer.KeepsHandler _ _))
  | .sent _ | .sendFailed .. | .next _ | .returns _ | .aborts _ | .timerFires _ | .cleanedUp _
  | .disconnected => isTrue trivial

theorem sound_multiplexer {m : Multiplexer} (h : c.Sound)
    (hm : c.initialized = true → m.Handled MSG_RPC_RESPONSE isStreamResponsePayload) :
    Sound { c with multiplexer := m } :=
  ⟨h.entry, h.distinct, h.initialized, hm⟩

theorem receives_multiplexer {m : Multiplexer} (h : Receives shown i key writes terminal c k) :
    Receives shown i key writes terminal { c with multiplexer := m } k :=
  h.frame rfl (fun _ => rfl) fun _ _ => rfl

/-- A frame is dropped or changes the multiplexer, and may be given to the handler. -/
theorem receive_cases {messageType : MessageType} {payload : Payload}
    {correlationId : Option CorrelationId} {final : Bool} :
    c.receive messageType payload correlationId final = c ∨
      ∃ m, Multiplexer.Hands c.multiplexer messageType payload m ∧
        (c.receive messageType payload correlationId final = { c with multiplexer := m } ∨
          correlationId = none ∧ c.receive messageType payload correlationId final =
            notified { c with multiplexer := m } (messageType, payload)) := by
  unfold receive
  cases hdispatch : c.multiplexer.dispatch messageType payload correlationId final with
  | error => exact Or.inl rfl
  | ok m =>
      have hhands := Multiplexer.dispatch_hands hdispatch
      refine Or.inr ⟨m, hhands, ?_⟩
      rcases hhands.2.2 with hcalls | hcalls
      · left
        simp [hcalls]
      · right
        constructor
        · cases correlationId with
          | none => rfl
          | some correlationId =>
              have hsurface := Multiplexer.dispatchCorrelated_surface hdispatch
              have hsame : m.handlerCalls = c.multiplexer.handlerCalls :=
                congrArg (fun surface => surface.2.2) hsurface
              rw [hsame] at hcalls
              exact absurd hcalls (List.cons_ne_self _ _).symm
        · simp [hcalls]

theorem Sound.notified {handlerCall : MessageType × Payload} (h : c.Sound) :
    (c.notified handlerCall).Sound := by
  unfold RpcCaller.notified
  split
  · split
    · exact h.handleRpcResponse
    · exact h
  · exact h

theorem Sound.receive {messageType : MessageType} {payload : Payload}
    {correlationId : Option CorrelationId} {final : Bool} (h : c.Sound) :
    (c.receive messageType payload correlationId final).Sound := by
  rcases receive_cases (c := c)
    with heq | ⟨m, hhands, heq | ⟨-, heq⟩⟩
  · exact heq.symm ▸ h
  · exact heq.symm ▸ sound_multiplexer h fun hinit => (h.handled hinit).of_hands hhands
  · exact heq.symm ▸ (sound_multiplexer h fun hinit => (h.handled hinit).of_hands hhands).notified

/-- A frame that is not one of the call. -/
theorem Receives.receiveOther {messageType : MessageType} {payload : Payload}
    {correlationId : Option CorrelationId} {final : Bool}
    (h : Receives shown i key writes terminal c k) (hsound : c.Sound)
    (hother : ownPayload key (.receive messageType payload correlationId final) = none) :
    Receives shown i key writes terminal (c.receive messageType payload correlationId final) k := by
  rcases receive_cases (c := c)
    with heq | ⟨m, hhands, heq | ⟨hnone, heq⟩⟩
  · exact heq.symm ▸ h
  · exact heq.symm ▸ receives_multiplexer h
  · subst hnone
    have hsound' := sound_multiplexer hsound fun hinit => (hsound.handled hinit).of_hands hhands
    rw [heq]
    unfold notified
    split
    case isFalse => exact receives_multiplexer h
    case isTrue htype =>
      cases hdecode : decodeResponseKey payload with
      | none => exact receives_multiplexer h
      | some response =>
          refine (receives_multiplexer h).handleOther hsound' fun hkey => ?_
          have hown : ownPayload key (.receive messageType payload none final) = some payload :=
            if_pos ⟨htype, by rw [hdecode, Option.map_some, hkey]⟩
          rw [hown] at hother
          cases hother

/-- A response frame goes through the multiplexer to its handler. -/
theorem receive_encoded {r : RpcResponse} {payload : Bytes} {final : Bool} (h : c.Sound)
    (hi : i < c.issued) (hencode : encodeResponse r = some payload)
    (hsize : r.body.length < 2 ^ 32) :
    ∃ m, c.receive MSG_RPC_RESPONSE payload none final =
      handleRpcResponse { c with multiplexer := m } ⟨correlationIdToKey r.correlationId,
        r.sequence % 2 ^ 64, r.body, r.streamEnd⟩ := by
  have hhandled := h.handled (h.initialized (by omega))
  have hdispatch := Multiplexer.dispatch_push final hhandled
    (isStreamResponsePayload_encodeResponse hencode hsize)
  refine ⟨{ c.multiplexer with
    handlerCalls := (MSG_RPC_RESPONSE, payload) :: c.multiplexer.handlerCalls }, ?_⟩
  unfold receive
  rw [hdispatch]
  simp [notified, decodeResponseKey_encodeResponse hencode hsize]

/-- The next frame of the response is delivered while the call is live. -/
theorem Receives.receiveOwn {r : RpcResponse} {payload : Bytes} {final : Bool}
    (h : Receives shownMessage i key writes terminal c k) (hsound : c.Sound) (hi : i < c.issued)
    (hlive : (c.calls i).iterator.done = false) (hencode : encodeResponse r = some payload)
    (hkey : correlationIdToKey r.correlationId = key) (hsize : r.body.length < 2 ^ 32)
    (hr : (writes ++ [terminal])[k]? = some r) (hwrites : ∀ r ∈ writes, r.streamEnd = false)
    (hterminal : terminal.streamEnd = true) :
    Receives shownMessage i key writes terminal (c.receive MSG_RPC_RESPONSE payload none final)
      (k + 1) := by
  obtain ⟨m, heq⟩ := receive_encoded hsound hi hencode hsize
  rw [heq, hkey]
  rcases Nat.lt_or_ge k writes.length with hlt | hge
  · rw [List.getElem?_append_left hlt] at hr
    rw [hwrites r (List.mem_of_getElem? hr)]
    exact (receives_multiplexer h).handleWrite hlive hi hr
  · rw [List.getElem?_append_right hge, List.getElem?_singleton] at hr
    obtain ⟨hlast, ⟨⟩⟩ := Option.ite_none_right_eq_some.mp hr
    obtain rfl : k = writes.length := by omega
    rw [hterminal]
    exact (receives_multiplexer h).handleEnd rfl hlive hi

/-! ### Calls and disconnects -/

theorem initRpcHandler_cases :
    c.initialized = true ∧ c.initRpcHandler = c ∨ ∃ m : Multiplexer,
      m.Handled MSG_RPC_RESPONSE isStreamResponsePayload ∧
        c.initRpcHandler = { c with initialized := true, multiplexer := m } := by
  unfold initRpcHandler
  split
  case isTrue h => exact Or.inl ⟨h, rfl⟩
  case isFalse =>
    exact Or.inr ⟨_, ⟨List.mem_cons_self .., OrderedMap.get?_set_self ..⟩, rfl⟩

theorem Sound.initRpcHandler (h : c.Sound) :
    c.initRpcHandler.Sound ∧ c.initRpcHandler.initialized = true ∧
      c.initRpcHandler.issued = c.issued ∧ c.initRpcHandler.calls = c.calls ∧
      c.initRpcHandler.pendingRpcs = c.pendingRpcs := by
  rcases initRpcHandler_cases (c := c) with ⟨hinit, heq⟩ | ⟨m, hm, heq⟩
  · exact heq.symm ▸ ⟨h, hinit, rfl, rfl, rfl⟩
  · exact heq.symm ▸ ⟨⟨h.entry, h.distinct, fun _ => rfl, fun _ => hm⟩, rfl, rfl, rfl, rfl⟩

theorem enter_calls_self {call : Call} : (c.enter call).calls c.issued = call :=
  Function.update_self ..

theorem enter_calls_of_lt {call : Call} (h : j < c.issued) : (c.enter call).calls j = c.calls j :=
  Function.update_of_ne h.ne ..

/-- A call of its own key enters the table. -/
theorem Sound.enter {call : Call} (h : c.Sound) (hinit : c.initialized = true)
    (hfresh : ∀ j < c.issued, (c.calls j).correlationKey ≠ call.correlationKey) :
    (c.enter call).Sound where
  entry := fun key j hget => by
    change (c.pendingRpcs.set call.correlationKey c.issued).get? key = some j at hget
    rw [OrderedMap.get?_set] at hget
    split at hget
    case isTrue hkey =>
      obtain rfl := Option.some.inj hget
      exact ⟨Nat.lt_succ_self _, enter_calls_self ▸ hkey.symm⟩
    case isFalse =>
      obtain ⟨hj, hkey⟩ := h.entry key j hget
      exact ⟨Nat.lt_succ_of_lt hj, (enter_calls_of_lt hj).symm ▸ hkey⟩
  distinct := fun i j hi hj hkey => by
    rcases Nat.lt_succ_iff_lt_or_eq.mp hi with hi | rfl <;>
      rcases Nat.lt_succ_iff_lt_or_eq.mp hj with hj | rfl
    · rw [enter_calls_of_lt hi, enter_calls_of_lt hj] at hkey
      exact h.distinct i j hi hj hkey
    · rw [enter_calls_of_lt hi, enter_calls_self] at hkey
      exact absurd hkey (hfresh i hi)
    · rw [enter_calls_of_lt hj, enter_calls_self] at hkey
      exact absurd hkey.symm (hfresh j hj)
    · rfl
  initialized := fun _ => hinit
  handled := h.handled

/-- A call begins: the `i`-th one, or another one under another key. -/
theorem Receives.enter {call : Call} (h : Receives shown i key writes terminal c k)
    (hfresh : ∀ j < c.issued, (c.calls j).correlationKey ≠ call.correlationKey)
    (hcall : call.iterator.Open [] ∨ call.iterator.done = true) :
    Receives shown i key writes terminal (c.enter call) k := by
  rcases Nat.lt_trichotomy i c.issued with hi | rfl | hi
  · have hi' : i < (c.enter call).issued := Nat.lt_succ_of_lt hi
    have hsame : (c.enter call).calls i = c.calls i := enter_calls_of_lt hi
    cases h with
    | absent h => exact absurd hi (not_lt.mpr h)
    | other hi hkey => exact .other hi' (hsame.symm ▸ hkey)
    | live hi hkey hk hget hopen =>
        refine .live hi' (hsame.symm ▸ hkey) hk ?_ (hsame.symm ▸ hopen)
        exact (OrderedMap.get?_set_of_ne _ _ (hkey ▸ hfresh i hi)).trans hget
    | ended hi hkey hending hended =>
        exact .ended hi' (hsame.symm ▸ hkey) hending (hsame.symm ▸ hended)
    | dead hi hkey hk hdone => exact .dead hi' (hsame.symm ▸ hkey) hk (hsame.symm ▸ hdone)
  · have hi' : c.issued < (c.enter call).issued := Nat.lt_succ_self _
    cases h with
    | absent =>
        by_cases hkey : call.correlationKey = key
        · have hkey' : ((c.enter call).calls c.issued).correlationKey = key :=
            enter_calls_self.symm ▸ hkey
          rcases hcall with hopen | hdone
          · refine .live hi' hkey' (Nat.zero_le _) ?_ (enter_calls_self.symm ▸ hopen)
            exact hkey ▸ OrderedMap.get?_set_self ..
          · exact .dead hi' hkey' (Nat.zero_le _) (enter_calls_self.symm ▸ hdone)
        · exact .other hi' (enter_calls_self.symm ▸ hkey)
    | other hi | live hi | ended hi | dead hi => exact absurd hi (lt_irrefl _)
  · cases h with
    | absent => exact .absent hi
    | other h | live h | ended h | dead h => exact absurd h (not_lt.mpr hi.le)

theorem Sound.fails (reason : CallError) {l : List Nat} (h : c.Sound) :
    (l.foldl (fun c j => c.fail j reason) c).Sound := by
  induction l generalizing c with
  | nil => exact h
  | cons j l ih => exact ih (h.moves fail_moves)

/-- Entries are only taken out. -/
theorem Moves.entry {it : RpcIterator} (hm : Moves c j it c')
    (h : c'.pendingRpcs.get? key = some i) : c.pendingRpcs.get? key = some i := by
  rcases hm.entries key with hsame | ⟨-, hnone⟩
  · exact hsame ▸ h
  · rw [hnone] at h
    cases h

theorem fails_entry {reason : CallError} {l : List Nat}
    (h : (l.foldl (fun c j => c.fail j reason) c).pendingRpcs.get? key = some i) :
    c.pendingRpcs.get? key = some i := by
  induction l generalizing c with
  | nil => exact h
  | cons j l ih => exact fail_moves.entry (ih h)

/-- All calls of the list fail. -/
theorem Receives.fails (reason : CallError) {l : List Nat}
    (h : Receives shown i key writes terminal c k) (hsound : c.Sound) (hl : ∀ j ∈ l, j < c.issued) :
    Receives shown i key writes terminal (l.foldl (fun c j => c.fail j reason) c) k := by
  induction l generalizing c with
  | nil => exact h
  | cons j l ih =>
      have hj := hl j (List.mem_cons_self ..)
      refine ih (h.touches hsound fail_touches hj) (hsound.moves fail_moves) fun j' hj' => ?_
      rw [fail_moves.issued]
      exact hl j' (List.mem_cons_of_mem _ hj')

/-- All calls of the list have failed, and others stay done. -/
theorem fails_done (reason : CallError) {l : List Nat}
    (h : i ∈ l ∨ (c.calls i).iterator.done = true) :
    ((l.foldl (fun c j => c.fail j reason) c).calls i).iterator.done = true := by
  induction l generalizing c with
  | nil => exact h.resolve_left List.not_mem_nil
  | cons j l ih =>
      refine ih ?_
      by_cases hij : i = j
      · subst hij
        right
        rw [fail_moves.iterator, RpcIterator.fail_done]
      · rw [fail_moves.others i hij]
        exact h.imp_left fun hmem => (List.mem_cons.mp hmem).resolve_left hij

/-- The connection is lost: a call that was live is not any more. -/
theorem Receives.disconnect (h : Receives shown i key writes terminal c k) (hsound : c.Sound) :
    Receives shown i key writes terminal c.disconnect k := by
  have hvalues : ∀ j ∈ c.pendingRpcs.values, j < c.issued := fun j hj => by
    obtain ⟨key', hget⟩ := OrderedMap.mem_values.mp hj
    exact (hsound.entry key' j hget).1
  have hfails := h.fails connectionClosed hsound hvalues
  unfold RpcCaller.disconnect
  cases hfails with
  | absent hissued => exact .absent hissued
  | other hi hkey => exact .other hi hkey
  | live hi hkey hk hget hopen =>
      have hmem := OrderedMap.mem_values.mpr ⟨key, fails_entry hget⟩
      have hdone := fails_done (c := c) connectionClosed (Or.inl hmem)
      rw [hopen.done] at hdone
      cases hdone
  | ended hi hkey hending hended => exact .ended hi hkey hending hended
  | dead hi hkey hk hdone => exact .dead hi hkey hk hdone

theorem Sound.disconnect (h : c.Sound) : c.disconnect.Sound :=
  have hfails := h.fails connectionClosed (l := c.pendingRpcs.values)
  ⟨fun _ _ hget => (nomatch hget), hfails.distinct, hfails.initialized, hfails.handled⟩

/-! ### Runs -/

/-- What an event does to the client. -/
inductive Outcome (c : RpcCaller) : RpcCallerEvent → RpcCaller → Prop
  | called (correlationId : Bytes) (signal : Option Bool) :
      Outcome c (.call correlationId signal) (c.call correlationId signal)
  | received (messageType : MessageType) (payload : Payload) (correlationId : Option CorrelationId)
      (final : Bool) : Outcome c (.receive messageType payload correlationId final)
        (c.receive messageType payload correlationId final)
  | connection {e : Multiplexer.Event} {m : Multiplexer} (h : c.multiplexer.step e = some m) :
      Outcome c (.connection e) { c with multiplexer := m }
  | rejected {j : Nat} {it : RpcIterator} (hj : j < c.issued)
      (h : (c.calls j).iterator.rejects = some it) :
      Outcome c (.rejects j) (c.setIterator j it)
  | touched {e : RpcCallerEvent} {j : Nat} {it : RpcIterator} {c' : RpcCaller}
      (hown : ∀ key, ownPayload key e = none) (hj : j < c.issued) (ht : Touches c j it c') :
      Outcome c e c'
  | disconnected : Outcome c .disconnected c.disconnect

/-- Something that leaves the iterator alone, and then progress. -/
theorem Touches.trans {it : RpcIterator} {c'' : RpcCaller}
    (h : Touches c j (c.calls j).iterator c') (h' : Touches c' j it c'') : Touches c j it c'' := by
  have hprogress := h'.progress
  have hkept := h'.kept
  rw [h.iterator] at hprogress hkept
  refine ⟨h.toMoves.trans h'.toMoves, hprogress, fun hrequested hlive => ?_⟩
  have hlive' : (c.calls j).iterator.done = false := by
    by_contra hdone
    rw [hprogress.dead (Bool.not_eq_false _ ▸ hdone)] at hlive
    cases hlive
  exact (hkept hrequested hlive).trans (h.kept hrequested hlive')

/-- Every event is one of these outcomes. -/
theorem step_outcome {e : RpcCallerEvent} (hst : c.step e = some c') : Outcome c e c' := by
  cases e with
  | call correlationId signal => exact Option.some.inj hst ▸ .called ..
  | sent j =>
      obtain ⟨⟨hj, -⟩, ⟨⟩⟩ := Option.ite_none_right_eq_some.mp hst
      exact .touched (fun _ => rfl) hj requestSettled_touches
  | sendFailed j error =>
      obtain ⟨⟨hj, -⟩, ⟨⟩⟩ := Option.ite_none_right_eq_some.mp hst
      exact .touched (fun _ => rfl) hj (requestSettled_touches.trans fail_touches)
  | receive => exact Option.some.inj hst ▸ .received ..
  | connection e =>
      obtain ⟨-, hst⟩ := Option.ite_none_left_eq_some.mp hst
      obtain ⟨m, hm, rfl⟩ := Option.map_eq_some_iff.mp hst
      exact .connection hm
  | next j =>
      obtain ⟨hj, ⟨⟩⟩ := Option.ite_none_right_eq_some.mp hst
      exact .touched (fun _ => rfl) hj (modifyIterator_touches RpcIterator.next_progress)
  | returns j =>
      obtain ⟨hj, ⟨⟩⟩ := Option.ite_none_right_eq_some.mp hst
      exact .touched (fun _ => rfl) hj (modifyIterator_touches RpcIterator.cancel_progress)
  | aborts j =>
      obtain ⟨⟨hj, -⟩, ⟨⟩⟩ := Option.ite_none_right_eq_some.mp hst
      exact .touched (fun _ => rfl) hj (modifyIterator_touches RpcIterator.abort_progress)
  | timerFires j =>
      obtain ⟨hj, ⟨⟩⟩ := Option.ite_none_right_eq_some.mp hst
      exact .touched (fun _ => rfl) hj (modifyIterator_touches RpcIterator.cancel_progress)
  | rejects j =>
      obtain ⟨hj, hst⟩ := Option.ite_none_right_eq_some.mp hst
      obtain ⟨it, hit, rfl⟩ := Option.map_eq_some_iff.mp hst
      exact .rejected hj hit
  | cleanedUp j =>
      obtain ⟨⟨hj, hrequested⟩, ⟨⟩⟩ := Option.ite_none_right_eq_some.mp hst
      refine .touched (fun _ => rfl) hj ⟨cleanupPendingRpc_moves, .refl, fun hnot => ?_⟩
      rw [hrequested] at hnot
      cases hnot
  | disconnected => exact Option.some.inj hst ▸ .disconnected

/-- The invariant of a run: the delivered frames of the call have been handled. -/
theorem receives_step {e : RpcCallerEvent} {wire : List RpcResponse} {payloads : List Bytes}
    (h : Receives shownMessage i key writes terminal c k) (hsound : c.Sound)
    (hwire : wire = writes ++ [terminal]) (hencoded : wire.map encodeResponse = payloads.map some)
    (haddressed : ∀ r ∈ wire, correlationIdToKey r.correlationId = key)
    (hsize : ∀ r ∈ wire, r.body.length < 2 ^ 32) (hwrites : ∀ r ∈ writes, r.streamEnd = false)
    (hterminal : terminal.streamEnd = true) (hlive : Live i key c e)
    (hnext : ∀ payload ∈ ownPayload key e, payloads[k]? = some payload)
    (hst : c.step e = some c') :
    c'.Sound ∧ Receives shownMessage i key writes terminal c'
      (k + (ownPayload key e).toList.length) := by
  cases step_outcome hst with
  | called correlationId signal =>
      have hfresh : ∀ j < c.issued, _ := hlive
      obtain ⟨hsound', hinit, hissued, hcalls, hpending⟩ := hsound.initRpcHandler
      have hfresh' : ∀ j < c.initRpcHandler.issued,
          (c.initRpcHandler.calls j).correlationKey ≠ correlationIdToKey correlationId := by
        rw [hissued, hcalls]
        exact hfresh
      refine ⟨hsound'.enter hinit hfresh', Receives.enter (h.frame hissued (fun _ => by rw [hcalls])
        fun _ _ => by rw [hpending]) hfresh' ?_⟩
      by_cases hsignal : signal = some true
      · right
        subst hsignal
        rfl
      · exact Or.inl (RpcIterator.open_create hsignal)
  | received messageType payload correlationId final =>
      refine ⟨hsound.receive, ?_⟩
      cases hown : ownPayload key (.receive messageType payload correlationId final) with
      | none => exact h.receiveOther hsound hown
      | some payload' =>
          obtain ⟨hi, hdone⟩ := hlive (hown ▸ rfl)
          have hpayload := hnext payload' hown
          obtain ⟨rfl, ⟨rfl, -⟩, rfl⟩ : correlationId = none ∧ (messageType = MSG_RPC_RESPONSE ∧
              (decodeResponseKey payload).map ResponseKey.correlationKey = some key) ∧
              payload = payload' := by
            cases correlationId with
            | none =>
                obtain ⟨hboth, heq⟩ := Option.ite_none_right_eq_some.mp hown
                exact ⟨rfl, hboth, Option.some.inj heq⟩
            | some correlationId => cases hown
          -- the frame is the next one of the wire
          have hnth : (wire.map encodeResponse)[k]? = some (some payload) := by
            rw [hencoded, List.getElem?_map, hpayload, Option.map_some]
          rw [List.getElem?_map] at hnth
          obtain ⟨r, hr, hencode⟩ := Option.map_eq_some_iff.mp hnth
          have hmem := List.mem_of_getElem? hr
          exact h.receiveOwn hsound hi hdone hencode (haddressed r hmem) (hsize r hmem)
            (hwire ▸ hr) hwrites hterminal
  | connection hm =>
      exact ⟨sound_multiplexer hsound fun hinit =>
        (hsound.handled hinit).step hlive hm, receives_multiplexer h⟩
  | rejected hj hit =>
      rename_i j it
      have hmoves : Moves c j it (c.setIterator j it) :=
        @setCall_moves c j { c.calls j with iterator := it } rfl
      refine ⟨hsound.moves hmoves, ?_⟩
      by_cases hij : i = j
      · subst hij
        exact h.touches hsound ⟨hmoves, RpcIterator.rejects_progress (hlive rfl) hit,
          fun _ _ => rfl⟩ hj
      · exact h.others hsound hmoves hj hij
  | touched hown hj ht =>
      rw [hown key]
      exact ⟨hsound.moves ht.toMoves, h.touches hsound ht hj⟩
  | disconnected => exact ⟨hsound.disconnect, h.disconnect hsound⟩

/-- The iterator of the call yields these frames and then gives the result for good: no read waits,
a rejection that has been put off is that result, and so on for any number of reads. -/
structure Yields (c : RpcCaller) (i : Nat) (frames : List ResponseFrame) (result : IteratorResult) :
    Prop where
  waiting : (c.calls i).iterator.waiting = false
  rejecting : ∀ reason ∈ (c.calls i).iterator.rejecting, .thrown reason = result
  reads : ∀ n, ∃ c', machine.runFrom c (List.replicate n (.next i)) = some c' ∧
    (c'.calls i).iterator.results = (frames.map IteratorResult.value ++
      List.replicate ((c.calls i).iterator.results.length + n) result).take
        ((c.calls i).iterator.results.length + n)

/-- Calls of `next` go on giving what is left, and then the end. -/
theorem reads_of_ended {frames : List ResponseFrame} {result : IteratorResult} {n : Nat}
    (hi : i < c.issued) (h : (c.calls i).iterator.Ended frames result) :
    ∃ c', machine.runFrom c (List.replicate n (.next i)) = some c' ∧
      (c'.calls i).iterator.Ended frames result ∧
      (c'.calls i).iterator.results.length = (c.calls i).iterator.results.length + n := by
  induction n generalizing c with
  | zero => exact ⟨c, rfl, h, rfl⟩
  | succ n ih =>
      have hm := modifyIterator_moves (c := c) (i := i) (f := RpcIterator.next)
      obtain ⟨hnext, hlength, -⟩ := h.next
      obtain ⟨c', hrun, hended, hlength'⟩ := ih (c := c.modifyIterator i .next)
        (hm.issued.symm ▸ hi) (hm.iterator.symm ▸ hnext)
      refine ⟨c', ?_, hended, ?_⟩
      · rw [List.replicate_succ, Machine.runFrom_cons]
        exact ⟨_, if_pos hi, hrun⟩
      · rw [hlength', hm.iterator, hlength]
        omega

theorem yields_of_ended {frames : List ResponseFrame} {result : IteratorResult}
    (hi : i < c.issued) (h : (c.calls i).iterator.Ended frames result) :
    c.Yields i frames result where
  waiting := h.waiting
  rejecting := fun reason hmem => (h.rejecting reason hmem).2
  reads := fun n => by
    obtain ⟨c', hrun, hended, hlength⟩ := reads_of_ended (n := n) hi h
    exact ⟨c', hrun, hlength ▸ hended.results_eq⟩

end RpcCaller

theorem responseFrames_eq {correlationId : Bytes} {bodies : List Bytes} {last : Bytes} :
    responseFrames correlationId bodies last =
      bodies.mapIdx (fun i body => ⟨correlationId, i, body, false⟩) ++
        [⟨correlationId, bodies.length, last, true⟩] := by
  have hwrites : (bodies.map (·, false)).mapIdx
      (fun i call => (⟨correlationId, i, call.1, call.2⟩ : RpcResponse)) =
        bodies.mapIdx fun i body => ⟨correlationId, i, body, false⟩ := by
    refine List.ext_getElem? fun i => ?_
    rw [List.getElem?_mapIdx, List.getElem?_mapIdx, List.getElem?_map, Option.map_map]
    rfl
  rw [responseFrames, responseCalls, List.mapIdx_concat, hwrites, List.length_map]

theorem map_responseFrame {correlationId : Bytes} {bodies : List Bytes} :
    (bodies.mapIdx fun i body => (⟨correlationId, i, body, false⟩ : RpcResponse)).map
      RpcResponse.responseFrame = bodies.mapIdx fun n body => ⟨body, n % 2 ^ 64⟩ := by
  refine List.ext_getElem? fun i => ?_
  rw [List.getElem?_map, List.getElem?_mapIdx, List.getElem?_mapIdx, Option.map_map]
  rfl

/-- A worker, in some run of its task, has called `write` with the bodies and `end` with the last
one; all of it was written in the order of the calls, as these payloads. -/
structure Responds (correlationId : Bytes) (bodies : List Bytes) (last : Bytes)
    (payloads : List Bytes) : Prop where
  worker : ∃ supportsCancellation accepted ws w,
    (Invocation.machine correlationId supportsCancellation accepted).run ws = some w ∧
      w.writer.sends.map (fun s => (s.frame.body, s.frame.streamEnd)) = responseCalls bodies last ∧
      w.writer.wire = w.writer.sends.map Send.frame ∧
      w.writer.wire.map encodeResponse = payloads.map some
  /-- Otherwise `encodeFrame` throws. -/
  size : ∀ payload ∈ payloads, payload.length + HEADER_LENGTH ≤ defaultMaxMessageBytes

open RpcCaller in
/-- A run of the client in which the payloads are delivered to its `i`-th call, in their order and
while the call is live. -/
structure Delivered (correlationId : Bytes) (payloads : List Bytes) (i : Nat)
    (es : List RpcCallerEvent) (c : RpcCaller) : Prop where
  run : machine.run es = some c
  issued : i < c.issued
  correlationKey : (c.calls i).correlationKey = correlationIdToKey correlationId
  delivered : delivered (correlationIdToKey correlationId) es = payloads
  live : machine.Guarded (Live i (correlationIdToKey correlationId)) machine.init es

open RpcCaller in
/-- **A response from end to end**: what a worker writes is what the caller of a live call reads. -/
theorem responses_yield {correlationId : Bytes} {bodies : List Bytes} {last : Bytes}
    {payloads : List Bytes} {i : Nat} {es : List RpcCallerEvent} {c : RpcCaller}
    (hresponds : Responds correlationId bodies last payloads)
    (hdelivers : Delivered correlationId payloads i es c) :
    ∃ frames result, Ending shownMessage bodies.length last frames result ∧
      c.Yields i (bodies.mapIdx (fun n body => ⟨body, n % 2 ^ 64⟩) ++ frames) result := by
  obtain ⟨⟨supportsCancellation, accepted, ws, w, hworker, hcalls, hwritten, hencoded⟩, hsent⟩ :=
    hresponds
  obtain ⟨hrun, hi, hkey, hdelivered, hlive⟩ := hdelivers
  have hbooks := Invocation.books_of_run hworker
  have hwire := (hbooks.wire_eq hwritten hcalls).trans responseFrames_eq
  have hlength : payloads.length = bodies.length + 1 := by
    have hcount := congrArg List.length hencoded
    simpa [hwire] using hcount.symm
  -- every frame carries the worker's correlation id, and its body has a 32-bit length
  have haddressed : ∀ r ∈ w.writer.wire,
      correlationIdToKey r.correlationId = correlationIdToKey correlationId := fun r hr => by
    rw [hwritten] at hr
    obtain ⟨s, hs, rfl⟩ := List.mem_map.mp hr
    rw [hbooks.addressed s hs]
  have hsize : ∀ r ∈ w.writer.wire, r.body.length < 2 ^ 32 := fun r hr => by
    have hmem : encodeResponse r ∈ payloads.map some := hencoded ▸ List.mem_map_of_mem hr
    obtain ⟨payload, hpayload, hencode⟩ := List.mem_map.mp hmem
    have hparts := (encodeResponse_parts hencode.symm).2.1
    have hfits := hsent payload hpayload
    simp only [defaultMaxMessageBytes] at hfits
    omega
  have hinv := hlive.runFrom_induction (motive := fun es c =>
    delivered (correlationIdToKey correlationId) es <+: payloads → c.Sound ∧
      Receives shownMessage i (correlationIdToKey correlationId)
        (bodies.mapIdx fun i body => ⟨correlationId, i, body, false⟩)
        ⟨correlationId, bodies.length, last, true⟩ c
        (delivered (correlationIdToKey correlationId) es).length)
    (fun _ => ⟨sound_init, .absent (Nat.zero_le _)⟩)
    (fun es c e c' _ ih hlive hst hprefix => ?_) hrun
  · obtain ⟨hsound, hreceives⟩ := hinv (hdelivered ▸ List.prefix_rfl)
    rw [hdelivered, hlength] at hreceives
    have hcount : (bodies.mapIdx fun i body =>
        (⟨correlationId, i, body, false⟩ : RpcResponse)).length = bodies.length :=
      List.length_mapIdx
    -- all frames have been handled, so the stream is over
    generalize hk : bodies.length + 1 = k at hreceives
    cases hreceives with
    | absent => omega
    | other _ hne => exact absurd hkey hne
    | live _ _ hle => omega
    | ended _ _ hending hended =>
        rw [map_responseFrame] at hended
        exact ⟨_, _, hending, yields_of_ended hi hended⟩
    | dead _ _ hle => omega
  · have happend : delivered (correlationIdToKey correlationId) (es ++ [e]) =
        delivered (correlationIdToKey correlationId) es ++
          (ownPayload (correlationIdToKey correlationId) e).toList := by
      unfold delivered
      rw [List.filterMap_append]
      cases hown : ownPayload (correlationIdToKey correlationId) e <;> simp [hown]
    rw [happend] at hprefix
    rw [happend, List.length_append]
    obtain ⟨hsound, hreceives⟩ := ih ((List.prefix_append ..).trans hprefix)
    refine receives_step hreceives hsound hwire hencoded haddressed hsize (fun r hr => ?_) rfl
      hlive (fun payload hown => ?_) hst
    · obtain ⟨j, hj, rfl⟩ := List.mem_mapIdx.mp hr
      rfl
    · rw [Option.mem_def.mp hown] at hprefix
      obtain ⟨rest, rfl⟩ := hprefix
      simp

/-- What the worker of `writesRun` has written. -/
def writesPayloads : List Bytes :=
  (responseFrames (List.replicate 16 7) [[1]] [2]).filterMap encodeResponse

theorem responds_writesRun : Responds (List.replicate 16 7) [[1]] [2] writesPayloads where
  worker := by
    have h : ((Invocation.machine (List.replicate 16 7) true true).run
        Invocation.writesRun).any (fun w =>
          w.writer.sends.map (fun s => (s.frame.body, s.frame.streamEnd)) =
              responseCalls [[1]] [2] ∧
            w.writer.wire = w.writer.sends.map Send.frame ∧
            w.writer.wire.map encodeResponse = writesPayloads.map some) = true := by
      decide +kernel
    obtain ⟨w, hrun, hw⟩ := (Option.any_eq_true ..).mp h
    exact ⟨true, true, _, w, hrun, of_decide_eq_true hw⟩
  size := by decide +kernel

/-- A caller that reads three times, the first time before anything has arrived. -/
def readsRun : List RpcCallerEvent :=
  [.call (List.replicate 16 7) (some false), .next 0, .sent 0] ++
    writesPayloads.map (.receive MSG_RPC_RESPONSE · none true) ++ [.next 0, .next 0]

open RpcCaller in
theorem delivered_readsRun : ∃ c, Delivered (List.replicate 16 7) writesPayloads 0 readsRun c := by
  have h : (machine.run readsRun).any (fun c => 0 < c.issued ∧
      (c.calls 0).correlationKey = correlationIdToKey (List.replicate 16 7)) = true := by
    decide +kernel
  have hdelivered : delivered (correlationIdToKey (List.replicate 16 7)) readsRun =
      writesPayloads := by decide +kernel
  have hlive : machine.Guarded (Live 0 (correlationIdToKey (List.replicate 16 7))) machine.init
      readsRun := by decide +kernel
  obtain ⟨c, hrun, hc⟩ := (Option.any_eq_true ..).mp h
  obtain ⟨hissued, hkey⟩ := of_decide_eq_true hc
  exact ⟨c, hrun, hissued, hkey, hdelivered, hlive⟩

/-- One frame is read before the response of the worker ends. -/
theorem responses_yield_readsRun : ∃ c,
    Delivered (List.replicate 16 7) writesPayloads 0 readsRun c ∧
      ∃ frames result, Ending shownMessage 1 [2] frames result ∧
        c.Yields 0 ([⟨[1], 0⟩] ++ frames) result := by
  obtain ⟨c, hdelivers⟩ := delivered_readsRun
  exact ⟨c, hdelivers, responses_yield responds_writesRun hdelivers⟩

/-- A worker that ends with an error without a text, and a caller that waits for it. -/
def silentError : Bytes := encodeRpcErrorBody ErrCodeRpcTimeout []

def silentPayloads : List Bytes :=
  (responseFrames (List.replicate 16 7) [] silentError).filterMap encodeResponse

def silentRun : List RpcCallerEvent :=
  [.call (List.replicate 16 7) none, .sent 0, .next 0] ++
    silentPayloads.map (.receive MSG_RPC_RESPONSE · none true) ++ [.rejects 0]

theorem responds_silentRun : Responds (List.replicate 16 7) [] silentError silentPayloads where
  worker := by
    have h : ((Invocation.machine (List.replicate 16 7) true true).run
        [.begins false, .call silentError true, .passed 0, .wrote 0, .succeeded 0,
          .returns]).any (fun w =>
          w.writer.sends.map (fun s => (s.frame.body, s.frame.streamEnd)) =
              responseCalls [] silentError ∧
            w.writer.wire = w.writer.sends.map Send.frame ∧
            w.writer.wire.map encodeResponse = silentPayloads.map some) = true := by
      decide +kernel
    obtain ⟨w, hrun, hw⟩ := (Option.any_eq_true ..).mp h
    exact ⟨true, true, _, w, hrun, of_decide_eq_true hw⟩
  size := by decide +kernel

open RpcCaller in
theorem delivered_silentRun : ∃ c,
    Delivered (List.replicate 16 7) silentPayloads 0 silentRun c ∧
      (c.calls 0).iterator.results = [.thrown (.rpc
        ⟨js "RPC error", "TIMEOUT", ErrCodeRpcTimeout, some 7, some 1⟩)] := by
  have h : (machine.run silentRun).any (fun c => (0 < c.issued ∧
      (c.calls 0).correlationKey = correlationIdToKey (List.replicate 16 7)) ∧
      (c.calls 0).iterator.results = [.thrown (.rpc
        ⟨js "RPC error", "TIMEOUT", ErrCodeRpcTimeout, some 7, some 1⟩)]) = true := by
    decide +kernel
  have hdelivered : delivered (correlationIdToKey (List.replicate 16 7)) silentRun =
      silentPayloads := by decide +kernel
  have hlive : machine.Guarded (Live 0 (correlationIdToKey (List.replicate 16 7))) machine.init
      silentRun := by decide +kernel
  obtain ⟨c, hrun, hc⟩ := (Option.any_eq_true ..).mp h
  obtain ⟨⟨hissued, hkey⟩, hresults⟩ := of_decide_eq_true hc
  exact ⟨c, ⟨hrun, hissued, hkey, hdelivered, hlive⟩, hresults⟩

/-- The message of an error is not always the one of the envelope. -/
theorem not_forall_yield :
    ¬ ∀ (correlationId : Bytes) (bodies : List Bytes) (last : Bytes) (payloads : List Bytes)
      (i : Nat) (es : List RpcCallerEvent) (c : RpcCaller),
      Responds correlationId bodies last payloads → Delivered correlationId payloads i es c →
        ∃ frames result, Ending id bodies.length last frames result ∧
          c.Yields i (bodies.mapIdx (fun n body => ⟨body, n % 2 ^ 64⟩) ++ frames) result := by
  intro h
  obtain ⟨c, hdelivers, hresults⟩ := delivered_silentRun
  obtain ⟨frames, result, hending, hyields⟩ := h _ _ _ _ _ _ c responds_silentRun hdelivers
  obtain ⟨c', hrun, hreads⟩ := hyields.reads 0
  obtain rfl := Option.some.inj hrun
  simp only [hresults] at hreads
  cases hending with
  | error henvelope =>
      rename_i message
      have hlength := congrArg List.length henvelope.body_eq
      -- nothing is left for a message
      have hmessage : message.length = 0 := by
        have hnine : silentError.length = 9 := by decide
        simp only [hnine, errorEnvelope, writeLengthAndBytes, List.length_append, length_writeU8,
          length_writeU16BE, length_writeU32BE] at hlength
        omega
      obtain rfl := List.eq_nil_of_length_eq_zero hmessage
      have hdecode : utf8Decode [] = [] := rfl
      simp [hdecode] at hreads
      exact absurd hreads.1 (by decide)
  | empty hempty => exact absurd hempty (by decide)
  | body hne hnot => simp at hreads

end FitzTs.Rpc
