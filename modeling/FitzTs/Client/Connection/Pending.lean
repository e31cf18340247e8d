import FitzTs.Client.Connection.Outbox
/-!
# FitzTs.Client.Connection.Pending

The requests of the calls, as the multiplexer holds them.

A step of the connection is at most one event of its multiplexer (`Drives`), and this
event settles the request of another call, or it is an answer, the timer, or the loss
of the connection. What a call makes of the outcome of its `send` comes after its frame
has been written. So a request whose frame still waits stays open until its signal or
its timer fires, an answer to it is received, or the connection is lost.
-/

namespace FitzTs.Client.Connection

variable {c c' : Connection} {i j : CallId} {t : TransportId} {e : Event} {r : RequestId}

/-! ### The events of the multiplexer -/

/-- The event of the multiplexer a step of the connection is, if it is one. -/
inductive Drives (c c' : Connection) : Event → Multiplexer.Event → Prop
  | issues {i : CallId} {nowMs timeoutMs : Nat} {messageType : MessageType} {signal : Option Bool} :
      Drives c c' (.slotContinues i nowMs) (.issue messageType nowMs timeoutMs signal none)
  | allocates {i : CallId} {request : CallRequest} {messageType : MessageType} {frameLength : Nat}
      {signal : Option Bool} :
      Drives c c' (.call i request messageType frameLength signal) .allocate
  | sent {i : CallId} {r : RequestId} (request : (c.calls i).request = some r)
      (outcome : (c.calls i).sendOutcome ≠ .pending) :
      Drives c c' (.sendSettles i) (.sendResolved r)
  | unsent {i : CallId} {r : RequestId} {error : ClientError}
      (request : (c.calls i).request = some r) (outcome : (c.calls i).sendOutcome ≠ .pending) :
      Drives c c' (.sendSettles i) (.sendRejected r error)
  | aborts {i : CallId} {r : RequestId} (request : (c.calls i).request = some r) :
      Drives c c' (.abortCall i) (.abort r)
  | expires {nowMs : Nat} : Drives c c' (.multiplexerTimer nowMs) (.timer nowMs)
  | dispatches {t : TransportId} {outcome : Received} {messageType : MessageType}
      {payload : Payload} {correlation : CorrelationId} {responseFinal : Bool}
      (frame : .message messageType payload correlation responseFinal ∈
        framesOf (.receive t outcome)) :
      Drives c c' (.receive t outcome) (.dispatch messageType payload
        (if correlation = 0 then none else some correlation) responseFinal)
  | configures {t : TransportId} {outcome : Received} {protocolVersion capabilities : Nat} :
      Drives c c' (.receive t outcome) (.setCapabilities protocolVersion capabilities)
  | connects (e : Event) : Drives c c' e .setConnected
  | disconnects (e : Event) (lost : c.disconnects < c'.disconnects) : Drives c c' e .setDisconnected
  | registers {e : Multiplexer.Event} (registration : isRegistration e = true) :
      Drives c c' (.register e) e

/-- A step is one event of the multiplexer at most. -/
def Driven (c : Connection) (e : Event) (c' : Connection) : Prop :=
  c'.multiplexer = c.multiplexer ∨
    ∃ e', Drives c c' e e' ∧ c.multiplexer.step e' = some c'.multiplexer

/-- The connection is lost, or its multiplexer is left alone. -/
def LostOrKept (c c' : Connection) : Prop :=
  c'.multiplexer = c.multiplexer ∨
    c.disconnects < c'.disconnects ∧ c'.multiplexer = c.multiplexer.setDisconnected

theorem LostOrKept.driven (h : LostOrKept c c') : Driven c e c' := by
  rcases h with hkept | ⟨hlost, hmultiplexer⟩
  · exact Or.inl hkept
  · exact Or.inr ⟨_, .disconnects e hlost, hmultiplexer ▸ rfl⟩

/-- Only other variables have changed before. -/
theorem LostOrKept.of_fields {c₁ : Connection} (h : LostOrKept c₁ c')
    (hmultiplexer : c₁.multiplexer = c.multiplexer)
    (hdisconnects : c₁.disconnects = c.disconnects) :
    LostOrKept c c' := by
  unfold LostOrKept
  rw [← hmultiplexer, ← hdisconnects]
  exact h

/-- A report loses the connection, or changes nothing of the multiplexer. -/
theorem ReportOutcome.lostOrKept (ho : ReportOutcome c t c') : LostOrKept c c' := by
  cases ho with
  | swallowed => exact Or.inl rfl
  | late => exact Or.inl rfl
  | @lost c₁ _ _ hl =>
      have hdisconnects : c₁.disconnects = c.disconnects + 1 :=
        congrArg Control.disconnects hl.control
      exact Or.inr ⟨hdisconnects ▸ Nat.lt_succ_self _, hl.multiplexer⟩

theorem handleConnectionLoss_lostOrKept (c : Connection) (error : ClientError) (t : TransportId) :
    LostOrKept c (c.handleConnectionLoss error t) :=
  (handleConnectionLoss_outcome c error t).lostOrKept

theorem receiveFailed_lostOrKept (c : Connection) (t : TransportId) (error : ClientError) :
    LostOrKept c (c.receiveFailed t error) := by
  unfold receiveFailed
  split
  · exact Or.inl rfl
  · exact handleConnectionLoss_lostOrKept c error t

/-- A frame that fails leaves the multiplexer alone, and another one is one event. -/
theorem handleFrame_driven {frame : InboundFrame} {error : Option ClientError}
    (hf : c.handleFrame frame = some (c', error)) : c'.multiplexer = c.multiplexer ∨
      error = none ∧ ∃ e', c.multiplexer.step e' = some c'.multiplexer ∧
        ((∃ protocolVersion capabilities, e' = .setCapabilities protocolVersion capabilities) ∨
          ∃ messageType payload correlation responseFinal,
            frame = .message messageType payload correlation responseFinal ∧
              e' = .dispatch messageType payload
                (if correlation = 0 then none else some correlation) responseFinal) := by
  have idle : ∀ {error'}, some (c, error') = some (c', error) → c'.multiplexer = c.multiplexer := by
    intro error' he
    obtain ⟨rfl, -⟩ := Prod.mk.inj (Option.some.inj he)
    rfl
  cases frame with
  | badExtensions => exact Or.inl (idle hf)
  | hello correlation flags body =>
      unfold handleFrame at hf
      dsimp only at hf
      split at hf
      · rename_i hello _
        obtain ⟨rfl, rfl⟩ := Prod.mk.inj (Option.some.inj hf)
        -- an accepted HELLO tells the multiplexer the capabilities of the broker
        refine Or.inr ⟨rfl, .setCapabilities hello.version hello.brokerCapabilities, ?_,
          Or.inl ⟨_, _, rfl⟩⟩
        unfold acceptHello
        rw [settleAuth_multiplexer]
        rfl
      · exact Or.inl (idle hf)
  | connectRejected correlation body =>
      unfold handleFrame at hf
      dsimp only at hf
      split at hf
      · exact Or.inl (idle hf)
      · split at hf
        · obtain ⟨rfl, -⟩ := Prod.mk.inj (Option.some.inj hf)
          unfold connectRejected
          exact Or.inl (settleAuth_multiplexer ..)
        · exact Or.inl (idle hf)
  | goAway correlation body =>
      unfold handleFrame at hf
      dsimp only at hf
      split at hf
      · exact Or.inl (idle hf)
      · split at hf <;> exact Or.inl (idle hf)
  | message messageType payload correlation responseFinal =>
      unfold handleFrame at hf
      dsimp only at hf
      split at hf
      · rename_i m hdispatch
        obtain ⟨rfl, rfl⟩ := Prod.mk.inj (Option.some.inj hf)
        refine Or.inr ⟨rfl, _, ?_, Or.inr ⟨_, _, _, _, rfl, rfl⟩⟩
        simp [Multiplexer.step, hdispatch]
      · exact Or.inl (idle hf)
      · cases hf

/-- A chunk holds at most one frame, so it is at most one step of the multiplexer. -/
theorem chunkReceived_driven (h : c.multiplexer.WellFormed) {frames : List InboundFrame}
    {pending : Bool} (hone : frames.length ≤ 1) (hs : c.chunkReceived t frames pending = some c') :
    Driven c (.receive t (.ok (.ok (frames, pending)))) c' := by
  have hbegin : (c.beginChunk t frames pending).multiplexer = c.multiplexer := by
    unfold beginChunk confirmSession
    dsimp only
    split
    · rfl
    · split <;> rfl
  have hcontinue : ∀ c₁ : Connection, (c₁.continueReceiveLoop t).multiplexer = c₁.multiplexer := by
    intro c₁
    unfold continueReceiveLoop
    split <;> rfl
  unfold chunkReceived at hs
  cases frames with
  | nil =>
      cases hs
      exact Or.inl ((hcontinue _).trans hbegin)
  | cons frame rest =>
      -- `parseFrames` gives one frame at most
      obtain rfl : rest = [] := List.length_eq_zero_iff.mp (by simpa using hone)
      split at hs
      · rename_i c₁ hframes
        cases hs
        unfold Driven
        rw [hcontinue]
        have hframe : (c.beginChunk t [frame] pending).handleFrame frame = some (c₁, none) := by
          unfold handleFrames at hframes
          split at hframes
          · rename_i hframe
            cases hframes
            exact hframe
          · exact hframes
        rcases handleFrame_driven hframe with hkept | ⟨-, e', hstep, hevent⟩
        · exact Or.inl (hkept.trans hbegin)
        · rw [hbegin] at hstep
          refine Or.inr ⟨e', ?_, hstep⟩
          rcases hevent with ⟨_, _, rfl⟩ | ⟨_, _, _, _, rfl, rfl⟩
          · exact .configures
          · exact .dispatches List.mem_cons_self
      · rename_i c₁ error hframes
        cases hs
        have hframe :
            (c.beginChunk t [frame] pending).handleFrame frame = some (c₁, some error) := by
          unfold handleFrames at hframes
          split at hframes
          · cases hframes
          · exact hframes
        -- the frame has failed, and the connection is lost with it
        have hcontrol := (chunk_handles h hframes).control
        rcases handleFrame_driven hframe with hkept | ⟨hnone, -⟩
        · exact ((receiveFailed_lostOrKept c₁ t error).of_fields (hkept.trans hbegin)
            (by rw [hcontrol])).driven
        · cases hnone
      · cases hs

theorem receive_driven (h : c.multiplexer.WellFormed) {outcome : Received}
    (hs : c.receiveStep (.receive t outcome) = some c') : Driven c (.receive t outcome) c' := by
  simp only [receiveStep] at hs
  split at hs
  · rename_i hone
    cases outcome with
    | error error =>
        cases hs
        exact (receiveFailed_lostOrKept c t error).driven
    | ok parsed =>
        simp only [received] at hs
        split at hs
        · cases hs
          exact Or.inl rfl
        · cases parsed with
          | error error =>
              cases hs
              exact (receiveFailed_lostOrKept c t error).driven
          | ok chunk => exact chunkReceived_driven h (of_decide_eq_true hone.2) hs
  · cases hs

/-! ### The calls -/

theorem call_driven (request : CallRequest) (messageType : MessageType) (frameLength : Nat)
    (signal : Option Bool) : Driven c (.call i request messageType frameLength signal)
      (c.call i request messageType frameLength signal) := by
  have waits : ∀ (c₁ : Connection) aborted,
      (c₁.acquireSlotAndWait i aborted).multiplexer = c₁.multiplexer := by
    intro c₁ aborted
    obtain ⟨-, -, -, -, hmultiplexer, -⟩ := acquireSlotAndWait_fields c₁ i aborted
    exact hmultiplexer
  cases request with
  | waitUntilReady => exact Or.inl rfl
  | request allowReconnectRestore =>
      unfold call
      dsimp only
      split
      · exact Or.inl rfl
      · exact Or.inl (waits _ _)
  | sendFireAndForget => exact Or.inl (waits _ _)
  | sendCorrelated =>
      unfold call
      dsimp only
      unfold sendCorrelated
      split
      · exact Or.inl rfl
      · rename_i correlation m hallocate
        refine Or.inr ⟨.allocate, .allocates, ?_⟩
        rw [waits]
        simp [Multiplexer.step, hallocate, startCall, modifyCall]

/-- To find the connection ready is nothing to the multiplexer. -/
theorem readyContinues_multiplexer (hs : c.readyContinues i = some c') :
    c'.multiplexer = c.multiplexer := by
  have returned : ∀ slot failure, (c.waitReturned i slot failure).multiplexer = c.multiplexer := by
    intro slot failure
    unfold waitReturned
    extract_lets c₁
    have hrelease : c₁.multiplexer = c.multiplexer := by
      change (c.releaseReadyWaitSlot slot).multiplexer = _
      cases slot <;> rfl
    split
    · exact hrelease
    · split
      · exact hrelease
      · exact hrelease
      · split <;> exact hrelease
      · split <;> exact hrelease
  unfold readyContinues at hs
  split at hs
  · cases hs
    rfl
  · split at hs
    · cases hs
      exact returned _ _
    · cases hs
      exact returned _ _
    · cases hs
    · cases hs
  · cases hs

/-- A request that is given a slot is issued. -/
theorem slotContinues_driven {nowMs : Nat} (hs : c.slotContinues i nowMs = some c') :
    Driven c (.slotContinues i nowMs) c' := by
  unfold slotContinues at hs
  split at hs
  · split at hs
    · cases hs
      unfold slotGranted
      split
      · exact Or.inl rfl
      · split
        · exact Or.inl rfl
        · split
          · exact Or.inl rfl
          · unfold multiplexerRequest
            extract_lets call r
            split
            · exact Or.inl rfl
            · rename_i m hissue
              have hstep : c.multiplexer.step (.issue call.messageType nowMs c.options.timeout
                  call.signal none) = some m := by
                simp only [Multiplexer.step, hissue]
              exact Or.inr ⟨_, .issues, hstep⟩
    · cases hs
      exact Or.inl rfl
    · cases hs
    · cases hs
  · cases hs

/-- The multiplexer is told once how a send has ended. -/
theorem sendSettles_driven (hs : c.sendSettles i = some c') : Driven c (.sendSettles i) c' := by
  unfold sendSettles at hs
  split at hs
  · rename_i r hrequest
    split at hs
    · rename_i hpending
      split at hs
      · rename_i houtcome
        cases hs
        exact Or.inr ⟨.sendResolved r, .sent hrequest (by simp [houtcome]), if_pos hpending⟩
      · rename_i error houtcome
        cases hs
        exact Or.inr ⟨.sendRejected r error, .unsent hrequest (by simp [houtcome]), if_pos hpending⟩
      · cases hs
    · cases hs
  · cases hs

theorem abortCall_driven (hs : c.abortCall i = some c') : Driven c (.abortCall i) c' := by
  unfold abortCall at hs
  split at hs
  · dsimp only at hs
    split at hs
    · cases hs
      exact Or.inl rfl
    · cases hs
      exact Or.inl rfl
    · rename_i r _ hrequest
      have hrequest : (c.calls i).request = some r := by
        simpa [modifyCall] using hrequest
      cases hs
      cases hstep : c.multiplexer.step (.abort r) with
      | none =>
          refine Or.inl ?_
          change (c.multiplexer.step (.abort r)).getD c.multiplexer = _
          rw [hstep]
          rfl
      | some m =>
          refine Or.inr ⟨.abort r, .aborts hrequest, ?_⟩
          change _ = some ((c.multiplexer.step (.abort r)).getD c.multiplexer)
          rw [hstep]
          rfl
    · cases hs
      exact Or.inl rfl
  · cases hs

/-- The steps of the calls. -/
theorem callStep_driven (hs : c.callStep e = some c') : Driven c e c' := by
  cases e with
  | call i request messageType frameLength signal =>
      simp only [callStep] at hs
      split at hs
      · cases hs
        exact call_driven request messageType frameLength signal
      · cases hs
  | readyContinues => exact Or.inl (readyContinues_multiplexer hs)
  | slotContinues => exact slotContinues_driven hs
  | sendSettles => exact sendSettles_driven hs
  | abortCall => exact abortCall_driven hs
  | waitTimeout i =>
      simp only [callStep] at hs
      split at hs
      · cases hs
        exact Or.inl rfl
      · cases hs
  | writeBegins =>
      simp only [callStep, writeBegins] at hs
      split at hs
      · cases hs
        exact Or.inl rfl
      · cases hs
  | writeEnds failure =>
      simp only [callStep, writeEnds] at hs
      split at hs
      · cases hs
      · split at hs <;> cases hs <;> exact Or.inl rfl
  | multiplexerTimer nowMs =>
      obtain ⟨m, hm, rfl⟩ := Option.map_eq_some_iff.mp hs
      exact Or.inr ⟨_, .expires, hm⟩
  | register e =>
      simp only [callStep] at hs
      split at hs
      · rename_i hregistration
        obtain ⟨m, hm, rfl⟩ := Option.map_eq_some_iff.mp hs
        exact Or.inr ⟨_, .registers hregistration, hm⟩
      · cases hs
  | _ => cases hs

theorem callSettles_lostOrKept (hs : c.callSettles i = some c') : LostOrKept c c' := by
  unfold callSettles at hs
  split at hs
  · cases hs
    exact Or.inl rfl
  · cases hs
    unfold callFailed handlePossibleTransportFailure
    split
    · exact Or.inl rfl
    · split
      · exact handleConnectionLoss_lostOrKept c _ _
      · exact Or.inl rfl
  · cases hs

/-! ### The attempts, the losses and the close -/

theorem connect_multiplexer (c : Connection) (i : CallId) (signal : Option Bool) :
    (c.connect i signal).2.multiplexer = c.multiplexer := by
  unfold connect
  split
  · rfl
  · split
    · rfl
    · split
      · rfl
      · split
        · rfl
        · split <;> rfl

theorem close_lostOrKept (c : Connection) : LostOrKept c c.close := by
  unfold close
  split
  · exact Or.inl rfl
  · dsimp only
    split
    · exact Or.inl rfl
    · obtain ⟨hcontrol, -, hmultiplexer, -⟩ := tearDown_fields { c with closePromise := true }
      refine Or.inr ⟨?_, hmultiplexer⟩
      rw [hcontrol]
      exact Nat.lt_succ_self _

/-- The steps of the attempts: a session connects the multiplexer. -/
theorem attemptStep_driven (hs : c.attemptStep t e = some c') : Driven c e c' := by
  -- a first connection connects the multiplexer when it is authenticated, a reconnect before
  -- its restore
  have connects : ∀ {c₁ : Connection}, c₁.multiplexer = c.multiplexer →
      Driven c e (c₁.authenticated t) := by
    intro c₁ hmultiplexer
    unfold Driven
    rw [authenticated_multiplexer, hmultiplexer]
    split
    · exact Or.inl rfl
    · exact Or.inr ⟨_, .connects e, rfl⟩
  have hello : Driven c e (c.helloReceived t) := by
    generalize hoption : c.helloReceived t = c₁
    have houtcome := hoption ▸ helloReceived_outcome c t
    cases houtcome with
    | failed => exact Or.inl rfl
    | restoring =>
        refine Or.inr ⟨_, .connects _, ?_⟩
        rw [beginRestore_multiplexer, finishAuth_multiplexer]
        rfl
    | authenticated => exact connects (finishAuth_multiplexer ..)
  have connected : Driven c e (c.transportConnected t) := by
    generalize hoption : c.transportConnected t = c₁
    have houtcome := hoption ▸ transportConnected_outcome c t
    cases houtcome with
    | failed => exact Or.inl rfl
    | rejected _ _ hmultiplexer => exact Or.inl hmultiplexer
    | negotiating _ _ hmultiplexer => exact Or.inl hmultiplexer
  unfold attemptStep at hs
  split at hs
  · split at hs
    · cases hs
      unfold settled
      split
      · exact connected
      · exact Or.inl rfl
    · cases hs
  · split at hs
    · cases hs
      exact hello
    · cases hs
      exact Or.inl rfl
    · cases hs
  · split at hs
    · cases hs
      unfold restored
      dsimp only
      split
      · exact Or.inl rfl
      · exact connects rfl
    · cases hs
  · split at hs
    · cases hs
      cases (rethrowFailure_rethrows c t _ _ _).outcome with
      | handled _ hmultiplexer => exact Or.inl hmultiplexer
      | closing _ _ hmultiplexer => exact Or.inl hmultiplexer
      | failed _ _ hmultiplexer hcontrol =>
          refine LostOrKept.driven (Or.inr ⟨?_, hmultiplexer⟩)
          rw [hcontrol]
          exact Nat.lt_succ_self _
    · cases hs
  · cases hs

theorem reconnectStep_multiplexer (hs : c.reconnectStep e = some c') :
    c'.multiplexer = c.multiplexer := by
  unfold reconnectStep at hs
  split at hs
  · split at hs
    · cases hs
      unfold reconnectWake
      split <;> rfl
    · cases hs
  · split at hs
    · split at hs
      · cases hs
        exact (reconnectAttempted_outcome c _ _).2.1
      · cases hs
    · cases hs
  · split at hs
    · rename_i result _
      cases hs
      cases result <;> rfl
    · cases hs
  · split at hs
    · cases hs
      rfl
    · cases hs
  · cases hs

theorem receiveStep_driven (h : c.multiplexer.WellFormed) (hs : c.receiveStep e = some c') :
    Driven c e c' := by
  cases e with
  | receive t outcome => exact receive_driven h hs
  | partialFrameTimer =>
      obtain ⟨t, -, rfl⟩ := Option.map_eq_some_iff.mp hs
      exact Or.inl partialFrameTimer_multiplexer
  | partialFrameClosed t =>
      simp only [receiveStep] at hs
      split at hs
      · cases hs
        exact LostOrKept.driven (handleConnectionLoss_lostOrKept (c.modifyAttempt t _) _ t)
      · cases hs
  | heartbeatTick =>
      obtain ⟨t, -, rfl⟩ := Option.map_eq_some_iff.mp hs
      unfold heartbeatTick
      split <;> exact Or.inl rfl
  | heartbeatSettled t active =>
      simp only [receiveStep] at hs
      split at hs
      · cases hs
      · cases hs
        unfold heartbeatSettled
        dsimp only
        split
        · exact Or.inl rfl
        · split
          · split
            · exact Or.inl rfl
            · exact LostOrKept.driven
                (LostOrKept.of_fields (handleConnectionLoss_lostOrKept _ _ t) rfl rfl)
          · exact Or.inl rfl
  | connectionLossSettled =>
      simp only [receiveStep] at hs
      split at hs
      · cases hs
        exact Or.inl rfl
      · cases hs
  | _ => cases hs

/-- Every step of a connection is one event of its multiplexer at most. -/
theorem step_driven (h : c.multiplexer.WellFormed) (hs : c.step e = some c') : Driven c e c' := by
  cases e with
  | connect i signal =>
      simp only [step] at hs
      split at hs
      · cases hs
        exact Or.inl (connect_multiplexer c i signal)
      · cases hs
  | connectSettled t =>
      simp only [step] at hs
      split at hs
      · cases hs
        unfold connectSettled
        split <;> exact Or.inl rfl
      · cases hs
  | close =>
      cases hs
      exact (close_lostOrKept c).driven
  | callSettles i => exact (callSettles_lostOrKept hs).driven
  | transportConnect | helloSettled | restored | attemptClosed => exact attemptStep_driven hs
  | token | connectSent | helloTimeout | abortAttempt =>
      simp only [step] at hs
      exact Or.inl (handshakeStep_multiplexer hs)
  | reconnectWake | reconnectAttempted | reconnectReturned | reconnectSettled =>
      simp only [step] at hs
      exact Or.inl (reconnectStep_multiplexer hs)
  | receive | partialFrameTimer | partialFrameClosed | heartbeatTick | heartbeatSettled
  | connectionLossSettled => exact receiveStep_driven h hs
  | call | readyContinues | slotContinues | sendSettles | abortCall | waitTimeout | writeBegins
  | writeEnds | multiplexerTimer | register => exact callStep_driven hs

/-! ### The requests of the calls -/

/-- A step writes what it takes the write lock for, and settles no other promise. -/
theorem Posts.flushed (hp : Posts c e c') (h : c.Flushed) : c'.Flushed := by
  cases hp with
  | still _ hs => exact hs.flushed h
  | begins hcalm | resumes hcalm => exact hcalm.flushed h
  | opens _ hcalls _ hwritten _ _ _ _ hwriting =>
      exact h.of_fields hcalls hwritten (Or.inl hwriting)
  | beats honly _ _ hwritten _ hwriting =>
      exact h.of_fields honly.calls hwritten (Or.inl hwriting)
  | connects honly _ _ _ hwritten _ hwriting =>
      exact h.of_written (fun w hw => hwritten ▸ List.mem_cons_of_mem _ hw)
        (fun hw => Or.inl (hwriting ▸ hw)) fun hi => honly.calls ▸ hi
  | @draws _ j _ _ _ _ _ _ _ _ _ _ hothers _ hwritten _ _ hwriting houtcome =>
      refine h.of_written (fun w hw => hwritten ▸ hw) (fun hw => Or.inl (hwriting ▸ hw))
        fun {i} hi => ?_
      by_cases hij : i = j
      · exact absurd (hij ▸ houtcome) hi
      · rwa [hothers i hij] at hi
  | @binds j _ _ _ _ _ _ _ _ _ _ _ _ hothers _ hwritten _ _ _ _ hwriting houtcome =>
      refine h.of_written (fun w hw => hwritten ▸ hw) (fun hw => Or.inl (hwriting ▸ hw))
        fun {i} hi => ?_
      by_cases hij : i = j
      · subst hij
        rwa [houtcome] at hi
      · rwa [hothers i hij] at hi
  | writes honly _ _ hwritten _ hwriting =>
      refine h.of_written (fun w hw => hwritten ▸ List.mem_cons_of_mem _ hw) (fun {w} hw => ?_)
        fun hi => honly.calls ▸ hi
      rw [hwriting] at hw
      obtain rfl := Option.some.inj hw
      exact Or.inr (hwritten ▸ List.mem_cons_self)

/-- A call keeps its request, has none, or is given the next one. -/
theorem Posts.request (hp : Posts c e c') (i : CallId) :
    (c'.calls i).request = (c.calls i).request ∨ (c'.calls i).request = none ∨
      (c'.calls i).request = some c.multiplexer.issued ∧
        c'.multiplexer.issued = c.multiplexer.issued + 1 ∧ ∀ j, j ≠ i → c'.calls j = c.calls j := by
  have stays : (c.calls i).Stays (c'.calls i) → (c'.calls i).request = (c.calls i).request ∨
      (c'.calls i).request = none := fun hstays => hstays.request.imp_right And.right
  cases hp with
  | still _ hs => exact (stays (hs.calls i)).imp_right Or.inl
  | begins hcalm | resumes hcalm => exact (stays (hcalm.calls i)).imp_right Or.inl
  | opens _ hcalls => exact Or.inl (by rw [hcalls])
  | connects honly | beats honly | writes honly => exact Or.inl (by rw [honly.calls])
  | @draws _ j _ _ _ _ _ _ _ _ _ _ hothers _ _ _ _ _ _ hrequest =>
      by_cases hij : i = j
      · exact Or.inr (Or.inl (hij ▸ hrequest))
      · exact Or.inl (by rw [hothers i hij])
  | @binds j _ _ _ _ _ _ _ _ _ _ _ _ hothers _ _ _ _ _ _ _ _ hrequest =>
      by_cases hij : i = j
      · subst hij
        exact hrequest.imp_right fun hnew => Or.inr ⟨hnew.1, hnew.2, hothers⟩
      · exact Or.inl (by rw [hothers i hij])

/-- A call that has its transport keeps its request. -/
theorem Posts.request_kept (hp : Posts c e c') (hbound : (c.calls i).unbound = false) :
    (c'.calls i).request = (c.calls i).request := by
  have hcalled : (c.calls i).phase ≠ .notCalled := by
    intro hphase
    rw [Call.unbound, hphase] at hbound
    cases hbound
  have stays : (c.calls i).Stays (c'.calls i) → (c'.calls i).request = (c.calls i).request :=
    fun hstays => hstays.request.resolve_right fun hnone => hcalled hnone.1
  cases hp with
  | still _ hs => exact stays (hs.calls i)
  | begins hcalm | resumes hcalm => exact stays (hcalm.calls i)
  | opens _ hcalls => rw [hcalls]
  | connects honly | beats honly | writes honly => rw [honly.calls]
  | @draws _ j _ _ hphase _ _ _ _ _ _ _ hothers =>
      rw [hothers i fun hij => hcalled (hij ▸ hphase)]
  | @binds j _ _ _ _ hunbound _ _ _ _ _ _ _ hothers =>
      rw [hothers i ?_]
      rintro rfl
      rw [hbound] at hunbound
      cases hunbound

/-- The requests of the calls have been issued, each for one call. -/
structure Tracked (c : Connection) : Prop extends Flushed c where
  issued : ∀ {i r}, (c.calls i).request = some r → r < c.multiplexer.issued
  owner : ∀ {i j r}, (c.calls i).request = some r → (c.calls j).request = some r → i = j

theorem tracked_create (options : ConnectionOptions) : (create options).Tracked where
  toFlushed := flushed_create options
  issued := fun h => by cases h
  owner := fun h => by cases h

theorem Driven.issued (hd : Driven c e c') (h : c.multiplexer.WellFormed) :
    c.multiplexer.issued ≤ c'.multiplexer.issued := by
  rcases hd with hkept | ⟨e', -, hstep⟩
  · rw [hkept]
  · exact Multiplexer.step_issued h hstep

/-- The step lemma. -/
theorem Tracked.step (h : c.Tracked) (hm : c.multiplexer.WellFormed) (hs : c.step e = some c') :
    c'.Tracked := by
  have hposts := step_posts hm hs
  have hissued := (step_driven hm hs).issued hm
  refine ⟨hposts.flushed h.toFlushed, fun {i r} hr => ?_, fun {i j r} hi hj => ?_⟩
  · rcases hposts.request i with hsame | hnone | ⟨hnew, hnext, -⟩
    · exact (h.issued (hsame ▸ hr)).trans_le hissued
    · rw [hnone] at hr
      cases hr
    · obtain rfl := Option.some.inj (hnew.symm.trans hr)
      rw [hnext]
      exact Nat.lt_succ_self _
  · have old : ∀ {j}, (c'.calls j).request = (c.calls j).request → (c'.calls j).request = some r →
        r < c.multiplexer.issued := fun hsame hr => h.issued (hsame ▸ hr)
    rcases hposts.request i with hsame | hnone | ⟨hnew, -, hothers⟩
    · rcases hposts.request j with hsame' | hnone' | ⟨hnew', -, -⟩
      · exact h.owner (hsame ▸ hi) (hsame' ▸ hj)
      · rw [hnone'] at hj
        cases hj
      · obtain rfl := Option.some.inj (hnew'.symm.trans hj)
        exact absurd (old hsame hi) (lt_irrefl _)
    · rw [hnone] at hi
      cases hi
    · obtain rfl := Option.some.inj (hnew.symm.trans hi)
      by_contra hij
      rw [hothers j (Ne.symm hij)] at hj
      exact absurd (h.issued hj) (lt_irrefl _)

/-! ### A request that waits -/

/-- The request of call `i` is open. -/
def Awaits (c : Connection) (i : CallId) : Prop :=
  ∃ r, (c.calls i).request = some r ∧ (c.multiplexer.requests r).settled = false

/-- The frame is an answer to request `r`. -/
def answers (m : Multiplexer) (r : RequestId) : InboundFrame → Prop
  | .message messageType _ correlation _ =>
    m.FoundBy r messageType (if correlation = 0 then none else some correlation)
  | _ => False

instance (m : Multiplexer) (r : RequestId) : ∀ frame, Decidable (answers m r frame)
  | .message .. => inferInstanceAs (Decidable (Multiplexer.FoundBy ..))
  | .badExtensions _ | .hello .. | .connectRejected .. | .goAway .. => isFalse id

/-- No signal, no timer and no answer settles the request of call `i` in the step. -/
def Undisturbed (c : Connection) (i : CallId) : Event → Prop
  | .abortCall j => j ≠ i
  | .multiplexerTimer nowMs =>
    ∀ r ∈ (c.calls i).request, nowMs < (c.multiplexer.requests r).deadline
  | .receive t outcome => ∀ r ∈ (c.calls i).request, ∀ frame ∈ framesOf (.receive t outcome),
    ¬ answers c.multiplexer r frame
  | _ => True

instance (c : Connection) (i : CallId) (e : Event) : Decidable (c.Undisturbed i e) := by
  induction e using Event.casesOn <;> dsimp only [Undisturbed] <;> infer_instance

/-- A request that is not disturbed stays open until its frame is written. -/
theorem Awaits.step (h : c.Awaits i) (ht : c.Tracked) (hm : c.multiplexer.WellFormed)
    (hbound : (c.calls i).unbound = false) (hunwritten : c.wrote i = false)
    (hundisturbed : c.Undisturbed i e) (hs : c.step e = some c')
    (hd : c'.disconnects = c.disconnects) : c'.Awaits i := by
  obtain ⟨r, hr, hopen⟩ := h
  refine ⟨r, ((step_posts hm hs).request_kept hbound).trans hr, ?_⟩
  have hpending : (c.calls i).sendOutcome = .pending := by
    by_contra houtcome
    rw [ht.outcome houtcome] at hunwritten
    cases hunwritten
  have hsettles : ∀ {j q}, (c.calls j).request = some q → (c.calls j).sendOutcome ≠ .pending →
      q ≠ r := by
    rintro j q hq houtcome rfl
    exact houtcome (ht.owner hq hr ▸ hpending)
  rcases step_driven hm hs with hkept | ⟨e', hdrives, hstep⟩
  · rw [hkept]
    exact hopen
  · refine Multiplexer.step_unreached hm hstep (ht.issued hr) hopen ?_
    cases hdrives with
    | issues | allocates | configures | connects => exact id
    | sent hq houtcome | unsent hq houtcome => exact hsettles hq houtcome
    | aborts hq =>
        rintro rfl
        exact hundisturbed (ht.owner hq hr)
    | expires => exact not_le.mpr (hundisturbed r hr)
    | dispatches hframe => exact hundisturbed r hr _ hframe
    | disconnects _ hlost => exact absurd hd hlost.ne'
    | registers hregistration => cases e' <;> first | exact id | cases hregistration

end FitzTs.Client.Connection
