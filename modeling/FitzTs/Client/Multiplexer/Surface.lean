import FitzTs.Client.Multiplexer
/-!
# FitzTs.Client.Multiplexer.Surface

What the domain clients see of the multiplexer: the handlers and classifiers they have registered,
and the calls made to the handlers. Only a registration changes the former, and only a frame without
a correlation adds to the latter.
-/

namespace FitzTs.Client.Multiplexer

variable {m m' : Multiplexer} {r : RequestId}

def surface (m : Multiplexer) :
    List MessageType × OrderedMap MessageType (Payload → Bool) × List (MessageType × Payload) :=
  (m.notificationHandlers, m.pushClassifiers, m.handlerCalls)

/-- The arrival of a frame. -/
def Event.isDispatch : Event → Bool
  | .dispatch .. => true
  | _ => false

/-- Frames of the type that the classifier takes for pushes go to a handler. -/
def Handled (m : Multiplexer) (messageType : MessageType) (classifier : Payload → Bool) : Prop :=
  messageType ∈ m.notificationHandlers ∧ m.pushClassifiers.get? messageType = some classifier

/-- The events that leave the handler of a type and its classifier alone. -/
def KeepsHandler (messageType : MessageType) : Event → Prop
  | .unregisterNotificationHandler t | .registerPushFrameClassifier t _ => t ≠ messageType
  | _ => True

instance {messageType : MessageType} : ∀ {e : Event}, Decidable (KeepsHandler messageType e)
  | .unregisterNotificationHandler _ | .registerPushFrameClassifier .. =>
    inferInstanceAs (Decidable (_ ≠ _))
  | .issue .. | .sendResolved _ | .sendRejected .. | .dispatch .. | .timer _ | .abort _
  | .setConnected | .setDisconnected | .setCapabilities .. | .allocate | .expectOptionalResponse _
  | .forgetOptionalResponse _ | .registerNotificationHandler _ => isTrue trivial

@[simp] theorem modifyRequest_surface (f : PendingRequest → PendingRequest) :
    (m.modifyRequest r f).surface = m.surface := rfl

@[simp] theorem settle_surface (s : Settlement) : (m.settle r s).surface = m.surface := rfl

@[simp] theorem recordRequestFinished_surface : m.recordRequestFinished.surface = m.surface := rfl

@[simp] theorem removeTimeoutEntry_surface : (m.removeTimeoutEntry r).surface = m.surface := rfl

@[simp] theorem tombstone_surface : (m.tombstone r).surface = m.surface := rfl

/-- A tombstone is no part of the surface. -/
theorem finalize_surface (h : m.finalize r = some m') : m'.surface = m.surface := by
  obtain ⟨-, ⟨⟩⟩ := Option.ite_none_left_eq_some.mp h
  rfl

@[simp] theorem failRequest_surface (error : ClientError) :
    (m.failRequest r error).surface = m.surface := by
  unfold failRequest
  split
  · rfl
  · rename_i hfinalize
    simpa using finalize_surface hfinalize

/-- A request that is withdrawn leaves the maps of the requests. -/
@[simp] theorem unregisterRequest_surface : (m.unregisterRequest r).surface = m.surface := by
  unfold unregisterRequest
  split
  · rfl
  · dsimp only
    split
    · rfl
    · split
      · rfl
      · split <;> rfl

/-- A request is rejected without a handler being called. -/
@[simp] theorem rejectRequest_surface (error : ClientError) (retainQueueSlot : Bool) :
    (m.rejectRequest r error retainQueueSlot).surface = m.surface := by
  unfold rejectRequest
  cases hfinalize : m.finalize r with
  | none => rfl
  | some m' =>
      have hsame := finalize_surface hfinalize
      cases retainQueueSlot <;> simpa using hsame

@[simp] theorem onComplete_surface : (m.onComplete r).surface = m.surface := by
  unfold onComplete
  cases hfinalize : m.finalize r with
  | none => rfl
  | some m' => exact finalize_surface hfinalize

/-! ### Sessions and timers -/

/-- What each step leaves alone, a loop leaves alone. -/
theorem foldl_surface {α : Type} {f : Multiplexer → α → Multiplexer}
    (h : ∀ m a, (f m a).surface = m.surface) (l : List α) : (l.foldl f m).surface = m.surface := by
  induction l generalizing m with
  | nil => rfl
  | cons a l ih => rw [List.foldl_cons, ih, h]

@[simp] theorem cancelAll_surface : m.cancelAll.surface = m.surface :=
  foldl_surface (m := { m with timeoutHandle := none, pendingByCorrelation := ∅ })
    (fun _ _ => rejectRequest_surface _ _) m.requestsToCancel

/-- An identifier is drawn from a counter. -/
theorem allocateCorrelationId_surface {c : CorrelationId}
    (h : m.allocateCorrelationId = .ok (c, m')) : m'.surface = m.surface := by
  unfold allocateCorrelationId at h
  split at h
  · cases h
  · obtain ⟨-, rfl⟩ := Prod.mk.inj (Except.ok.inj h)
    rfl

@[simp] theorem scheduleTimeout_surface (d : Int) : (m.scheduleTimeout d).surface = m.surface := by
  unfold scheduleTimeout
  split <;> rfl

@[simp] theorem expire_surface (nowMs : Nat) : (m.expire r nowMs).surface = m.surface :=
  rejectRequest_surface _ _

/-- Each round of the loop rejects one request. -/
theorem handleTimeoutsLoop_surface {nowMs fuel : Nat}
    (h : handleTimeoutsLoop nowMs fuel m = some m') : m'.surface = m.surface := by
  induction fuel generalizing m with
  | zero => cases h
  | succ fuel ih =>
      unfold handleTimeoutsLoop at h
      split at h
      · split at h
        · exact (ih h).trans (expire_surface nowMs)
        · exact congrArg surface (Option.some.inj h).symm
      · exact congrArg surface (Option.some.inj h).symm

theorem handleTimeouts_surface {nowMs : Nat} (h : m.handleTimeouts nowMs = some m') :
    m'.surface = m.surface := by
  obtain ⟨m₁, hloop, rfl⟩ := Option.map_eq_some_iff.mp h
  exact (handleTimeoutsLoop_surface hloop).trans rfl

/-! ### Requests -/

@[simp] theorem register_surface : (m.register r).surface = m.surface := by
  unfold register
  split <;> rfl

theorem enter_surface {messageType : MessageType} {c : Option CorrelationId} {nowMs timeoutMs : Nat}
    {hasSignal : Bool} :
    (m.enter messageType c nowMs timeoutMs hasSignal).surface = m.surface := by
  unfold enter
  exact register_surface.trans (scheduleTimeout_surface _)

/-- A request draws its identifier if correlation is on. -/
theorem requestCorrelationId_surface {c : Option CorrelationId}
    (h : m.requestCorrelationId = .ok (c, m')) : m'.surface = m.surface := by
  unfold requestCorrelationId at h
  split at h
  · split at h
    · rename_i hallocate
      obtain ⟨-, rfl⟩ := Prod.mk.inj (Except.ok.inj h)
      exact allocateCorrelationId_surface hallocate
    · cases h
  · obtain ⟨-, rfl⟩ := Prod.mk.inj (Except.ok.inj h)
    rfl

/-- A request is issued whether or not its send throws. -/
theorem issueRequest_surface {messageType : MessageType} {nowMs timeoutMs : Nat}
    {signal : Option Bool} {sendThrows : Option ClientError}
    (h : m.issueRequest messageType nowMs timeoutMs signal sendThrows = .ok m') :
    m'.surface = m.surface := by
  unfold issueRequest at h
  split at h
  · cases h
  · split at h
    · cases h
    · rename_i hid
      have hsame := requestCorrelationId_surface hid
      split at h
      · exact Except.ok.inj h ▸ enter_surface.trans hsame
      · exact Except.ok.inj h ▸ (failRequest_surface _).trans (enter_surface.trans hsame)

theorem sendResolved_surface : (m.sendResolved r).surface = m.surface := by
  unfold sendResolved
  dsimp only
  split
  · rfl
  · exact failRequest_surface _

theorem sendRejected_surface (error : ClientError) :
    (m.sendRejected r error).surface = m.surface := by
  unfold sendRejected
  dsimp only
  split
  · rfl
  · rename_i hfinalize
    simpa using finalize_surface hfinalize

/-! ### Frames -/

@[simp] theorem complete_surface (payload : Payload) :
    (m.complete r payload).surface = m.surface := by
  unfold complete
  exact onComplete_surface

/-- The handlers stay, and the frame is given to its handler or not. -/
def Hands (m : Multiplexer) (messageType : MessageType) (payload : Payload) (m' : Multiplexer) :
    Prop :=
  m'.notificationHandlers = m.notificationHandlers ∧ m'.pushClassifiers = m.pushClassifiers ∧
    (m'.handlerCalls = m.handlerCalls ∨ m'.handlerCalls = (messageType, payload) :: m.handlerCalls)

/-- With the same surface no handler has been called. -/
theorem hands_of_surface {messageType : MessageType} {payload : Payload}
    (h : m'.surface = m.surface) : Hands m messageType payload m' := by
  obtain ⟨hhandlers, hrest⟩ := Prod.mk.inj h
  obtain ⟨hclassifiers, hcalls⟩ := Prod.mk.inj hrest
  exact ⟨hhandlers, hclassifiers, Or.inl hcalls⟩

/-- What no request takes goes to the handlers of its type. -/
theorem dispatchUnclaimed_hands {messageType : MessageType} {payload : Payload} :
    Hands m messageType payload (m.dispatchUnclaimed messageType payload) := by
  unfold dispatchUnclaimed
  split
  · exact ⟨rfl, rfl, Or.inr rfl⟩
  · dsimp only
    split
    · exact hands_of_surface rfl
    · split <;> exact hands_of_surface rfl

/-- A response with a correlation is no frame for a handler. -/
theorem dispatchCorrelated_surface {payload : Payload} {c : CorrelationId} {final : Bool}
    (h : m.dispatchCorrelated payload c final = .ok m') : m'.surface = m.surface := by
  unfold dispatchCorrelated at h
  split at h
  · cases h
  · dsimp only at h
    split at h
    · obtain rfl := Except.ok.inj h
      split <;> rfl
    · split at h
      · exact Except.ok.inj h ▸ complete_surface payload
      · exact Except.ok.inj h ▸ rfl

/-- A message is an answer to a request, or goes to the handlers. -/
theorem dispatch_hands {messageType : MessageType} {payload : Payload} {c : Option CorrelationId}
    {final : Bool} (h : m.dispatch messageType payload c final = .ok m') :
    Hands m messageType payload m' := by
  cases c with
  | some c => exact hands_of_surface (dispatchCorrelated_surface h)
  | none =>
      simp only [dispatch] at h
      unfold dispatchUncorrelated at h
      extract_lets isPush at h
      split at h
      · exact Except.ok.inj h ▸ ⟨rfl, rfl, Or.inr rfl⟩
      · split at h
        · exact Except.ok.inj h ▸ dispatchUnclaimed_hands
        · split at h
          · exact Except.ok.inj h ▸ dispatchUnclaimed_hands
          · split at h
            · cases h
            · dsimp only at h
              split at h
              · exact Except.ok.inj h ▸ hands_of_surface rfl
              · exact Except.ok.inj h ▸ hands_of_surface (complete_surface payload)

/-- A frame that its classifier takes for a push goes to its handler. -/
theorem dispatch_push {messageType : MessageType} {payload : Payload}
    {classifier : Payload → Bool} (final : Bool) (h : m.Handled messageType classifier)
    (hpush : classifier payload = true) :
    m.dispatch messageType payload none final =
      .ok { m with handlerCalls := (messageType, payload) :: m.handlerCalls } := by
  simp only [dispatch, dispatchUncorrelated, h.2]
  exact if_pos ⟨h.1, hpush⟩

/-- The handlers are part of the surface. -/
theorem Handled.of_surface {messageType : MessageType} {classifier : Payload → Bool}
    (h : m.Handled messageType classifier) (hsame : m'.surface = m.surface) :
    m'.Handled messageType classifier := by
  obtain ⟨hhandlers, hrest⟩ := Prod.mk.inj hsame
  obtain ⟨hclassifiers, -⟩ := Prod.mk.inj hrest
  unfold Handled
  rw [hhandlers, hclassifiers]
  exact h

theorem Handled.of_hands {messageType t : MessageType} {classifier : Payload → Bool}
    {payload : Payload} (h : m.Handled messageType classifier) (hhands : Hands m t payload m') :
    m'.Handled messageType classifier := by
  unfold Handled
  rw [hhands.1, hhands.2.1]
  exact h

/-- A handler stays registered until it is taken off. -/
theorem Handled.step {messageType : MessageType} {classifier : Payload → Bool} {e : Event}
    (h : m.Handled messageType classifier) (hkeeps : KeepsHandler messageType e)
    (hst : m.step e = some m') : m'.Handled messageType classifier := by
  cases e with
  | issue t nowMs timeoutMs signal sendThrows =>
      simp only [Multiplexer.step] at hst
      split at hst
      · rename_i hissue
        exact Option.some.inj hst ▸ h.of_surface (issueRequest_surface hissue)
      · exact Option.some.inj hst ▸ h
  | sendResolved r =>
      obtain ⟨-, ⟨⟩⟩ := Option.ite_none_right_eq_some.mp hst
      exact h.of_surface sendResolved_surface
  | sendRejected r error =>
      obtain ⟨-, ⟨⟩⟩ := Option.ite_none_right_eq_some.mp hst
      exact h.of_surface (sendRejected_surface error)
  | dispatch t payload c final =>
      simp only [Multiplexer.step] at hst
      split at hst
      · rename_i hdispatch
        exact Option.some.inj hst ▸ h.of_hands (dispatch_hands hdispatch)
      · exact Option.some.inj hst ▸ h
      · cases hst
  | timer nowMs =>
      obtain ⟨-, htimeouts⟩ := Option.ite_none_right_eq_some.mp hst
      exact h.of_surface (handleTimeouts_surface htimeouts)
  | abort r =>
      obtain ⟨-, ⟨⟩⟩ := Option.ite_none_right_eq_some.mp hst
      exact h.of_surface (failRequest_surface _)
  | setConnected | setCapabilities | expectOptionalResponse | forgetOptionalResponse =>
      exact Option.some.inj hst ▸ h
  | setDisconnected => exact Option.some.inj hst ▸ h.of_surface cancelAll_surface
  | allocate =>
      simp only [Multiplexer.step] at hst
      split at hst
      · rename_i hallocate
        exact Option.some.inj hst ▸ h.of_surface (allocateCorrelationId_surface hallocate)
      · exact Option.some.inj hst ▸ h
  | registerNotificationHandler t =>
      exact Option.some.inj hst ▸ ⟨List.mem_cons_of_mem _ h.1, h.2⟩
  | unregisterNotificationHandler t =>
      refine Option.some.inj hst ▸ ⟨List.mem_filter.mpr ⟨h.1, ?_⟩, h.2⟩
      exact decide_eq_true (Ne.symm hkeeps)
  | registerPushFrameClassifier t f =>
      refine Option.some.inj hst ▸ ⟨h.1, ?_⟩
      exact (OrderedMap.get?_set_of_ne _ _ (Ne.symm hkeeps)).trans h.2

end FitzTs.Client.Multiplexer
