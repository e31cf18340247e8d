import FitzTs.Client.Connection.Moves
/-!
# FitzTs.Client.Connection.Steps

The inversion of one step.

Every step of a connection is quiet, or it is one of the moves of `Effect`: an
attempt opens, moves on or ends, a chunk is received, a loss is reported, the
reconnect loop moves on, or the client closes. What follows about the connection
is read off from this list.
-/

namespace FitzTs.Client.Connection

variable {c c' c₀ c₁ : Connection} {i : CallId} {t : TransportId}

/-- What `receive()` settles with. -/
abbrev Received := Except ClientError (Except ClientError (List InboundFrame × Bool))

/-- The error that ends the receive loop of `t`, if one does. -/
def receiveError (c : Connection) (t : TransportId) : Received → Option ClientError
  | .error error => some error
  | .ok parsed =>
    if c.transport = some t then
      match parsed with
      | .error error => some error
      | .ok (frames, pending) =>
        match (c.beginChunk t frames pending).handleFrames frames with
        | some (_, error) => error
        | none => none
    else none

/-- The transport for which a step reports a loss. -/
def reportsLoss (c : Connection) : Event → Option TransportId
  | .receive t outcome =>
    if (c.receiveError t outcome).isSome ∧ ¬ c.receiveLoopAbort ∧ ¬ c.closeRequested then some t
    else none
  | .partialFrameClosed t => some t
  | .heartbeatSettled t active =>
    match c.heartbeats t with
    | .rejected _ => if c.heartbeatTransport = some t ∧ ¬ active then some t else none
    | _ => none
  | .callSettles i =>
    match c.callOutcome i with
    | some (_, t, some error) =>
      if ¬ c.closeRequested ∧ c.state = .authenticated ∧ isConnectionFailure error then some t
      else none
    | _ => none
  | _ => none

/-- The attempt whose continuation a step is: of its `openAndAuthenticate` and its
handshake, of its receive loop, of its timers, or of a call that failed on its
transport; or of the loop that awaits it. -/
def continues (c : Connection) : Event → Option TransportId
  | .transportConnect t _ | .token t _ | .connectSent t _ | .helloTimeout t | .abortAttempt t
  | .helloSettled t | .restored t | .attemptClosed t | .receive t _ | .partialFrameClosed t
  | .heartbeatSettled t _ => some t
  | .partialFrameTimer => c.partialFrameTimeout
  | .heartbeatTick => c.heartbeatTransport
  | .callSettles i => (c.callOutcome i).map (·.2.1)
  | .reconnectAttempted =>
    match c.reconnectPromise with
    | .opening _ t => some t
    | _ => none
  | _ => none

/-- The frames a step hands to the loop over frames. -/
def framesOf : Event → List InboundFrame
  | .receive _ (.ok (.ok (frames, _))) => frames
  | _ => []

/-- The frame is a HELLO. -/
def isHello : InboundFrame → Bool
  | .hello .. => true
  | _ => false

/-- Among `frames`, as far as they are handled, a HELLO is accepted. -/
def helloAccepted (c : Connection) : List InboundFrame → Bool
  | [] => false
  | frame :: frames =>
    match c.handleFrame frame with
    | some (c', none) => isHello frame || c'.helloAccepted frames
    | _ => false

/-- A step accepts a HELLO. -/
def acceptsHello (c : Connection) : Event → Bool
  | .receive t (.ok (.ok (frames, pending))) => (c.beginChunk t frames pending).helloAccepted frames
  | _ => false

/-- Only an accepted HELLO resolves the outcome of an attempt. -/
def ResolvesByHello (c c' : Connection) (accepted : Bool) : Prop :=
  ∀ t, (c'.attempts t).authOutcome = .resolved →
    (c.attempts t).authOutcome = .resolved ∨ accepted = true

theorem resolvesByHello_refl (c : Connection) (accepted : Bool) : ResolvesByHello c c accepted :=
  fun _ => Or.inl

/-- No frame but a HELLO that is accepted resolves an authentication. -/
theorem handleFrame_resolves {frame : InboundFrame} {error : Option ClientError}
    (hf : c.handleFrame frame = some (c', error)) (hhello : isHello frame = false ∨ error ≠ none)
    (h : (c'.attempts t).authOutcome = .resolved) : (c.attempts t).authOutcome = .resolved := by
  have idle : ∀ {error'}, some (c, error') = some (c', error) →
      (c.attempts t).authOutcome = .resolved := by
    intro error' he
    obtain ⟨rfl, -⟩ := Prod.mk.inj (Option.some.inj he)
    exact h
  cases frame with
  | badExtensions => exact idle hf
  | hello correlation flags body =>
      unfold handleFrame at hf
      dsimp only at hf
      split at hf
      · -- the HELLO has been accepted, which `hhello` rules out
        obtain ⟨-, rfl⟩ := Prod.mk.inj (Option.some.inj hf)
        simp [isHello] at hhello
      · exact idle hf
  | connectRejected correlation body =>
      unfold handleFrame at hf
      dsimp only at hf
      split at hf
      · exact idle hf
      · split at hf
        · rename_i code message
          obtain ⟨rfl, -⟩ := Prod.mk.inj (Option.some.inj hf)
          exact settleAuth_rejected (c := { c with authRejected := code = 1 || c.authRejected }) _ h
        · exact idle hf
  | goAway correlation body =>
      unfold handleFrame at hf
      dsimp only at hf
      split at hf
      · exact idle hf
      · split at hf <;> exact idle hf
  | message messageType payload correlation responseFinal =>
      unfold handleFrame at hf
      dsimp only at hf
      split at hf
      · obtain ⟨rfl, -⟩ := Prod.mk.inj (Option.some.inj hf)
        exact h
      · exact idle hf
      · cases hf

/-- The frames of a chunk, one after the other. -/
theorem handleFrames_resolves {frames : List InboundFrame} {error : Option ClientError}
    (hf : c.handleFrames frames = some (c', error)) :
    ResolvesByHello c c' (c.helloAccepted frames) := by
  induction frames generalizing c with
  | nil =>
      obtain ⟨rfl, -⟩ := Prod.mk.inj (Option.some.inj hf)
      exact resolvesByHello_refl _ _
  | cons frame frames ih =>
      intro t h
      unfold handleFrames at hf
      split at hf
      · rename_i c₁ hframe
        have haccepted : c.helloAccepted (frame :: frames) =
            (isHello frame || c₁.helloAccepted frames) := by
          conv_lhs => unfold helloAccepted
          rw [hframe]
        rw [haccepted]
        cases hhello : isHello frame with
        | true => exact Or.inr rfl
        | false =>
            rcases ih hf t h with hres | hacc
            · exact Or.inl (handleFrame_resolves hframe (Or.inl hhello) hres)
            · exact Or.inr (by simp [hacc])
      · rename_i hend
        have hfails : error ≠ none := by
          rintro rfl
          exact hend c' hf
        exact Or.inl (handleFrame_resolves hf (Or.inr hfails) h)

theorem chunk_resolves {frames : List InboundFrame} {pending : Bool} {error : Option ClientError}
    (hf : (c.beginChunk t frames pending).handleFrames frames = some (c', error)) :
    ResolvesByHello c c' (c.acceptsHello (.receive t (.ok (.ok (frames, pending))))) := by
  have hattempts : (c.beginChunk t frames pending).attempts = c.attempts := by
    unfold beginChunk confirmSession
    dsimp only
    split
    · rfl
    · split <;> rfl
  intro t' h
  rw [← hattempts]
  exact handleFrames_resolves hf t' h

/-- The one frame of a chunk that fails was no HELLO that is accepted. -/
theorem failedChunk_resolves {frames : List InboundFrame} {pending : Bool} {error : ClientError}
    (hone : atMostOneFrame (.ok (.ok (frames, pending))) = true)
    (hf : (c.beginChunk t frames pending).handleFrames frames = some (c', some error)) :
    ResolvesByHello c c' false := by
  intro t' h
  rcases chunk_resolves hf t' h with hold | haccepted
  · exact Or.inl hold
  · exfalso
    have hlength : frames.length ≤ 1 := by simpa [atMostOneFrame] using hone
    unfold acceptsHello at haccepted
    cases frames with
    | nil => cases haccepted
    | cons frame rest =>
        obtain rfl : rest = [] := List.length_eq_zero_iff.mp (by simpa using hlength)
        unfold handleFrames at hf
        dsimp only at haccepted
        unfold helloAccepted at haccepted
        split at haccepted
        · rename_i c₁ hframe
          rw [hframe] at hf
          simp [handleFrames] at hf
        · cases haccepted

theorem modifyAttempt_resolves {f : Attempt → Attempt} {accepted : Bool}
    (hattempts : c₁.attempts = c.attempts)
    (hf : (f (c.attempts t)).authOutcome = (c.attempts t).authOutcome) :
    ResolvesByHello c (c₁.modifyAttempt t f) accepted := by
  intro t' h
  rw [modifyAttempt_attempts, hattempts] at h
  by_cases ht : t' = t
  · subst ht
    rw [Function.update_self, hf] at h
    exact Or.inl h
  · rw [Function.update_of_ne ht] at h
    exact Or.inl h

/-- A report that follows a chunk follows one of the current transport. -/
theorem current_of_reportsLoss {frames : List InboundFrame} {pending : Bool} {t' : TransportId}
    (h : c.reportsLoss (.receive t (.ok (.ok (frames, pending)))) = some t') :
    c.transport = some t := by
  by_contra hstale
  simp [reportsLoss, receiveError, hstale] at h

/-- What follows the report of a loss in its step. -/
structure WindsUp (t : TransportId) (c c' : Connection) : Prop where
  control : c'.toControl = c.toControl
  multiplexer : c'.multiplexer = c.multiplexer
  readiness : c'.readiness = c.readiness
  attempts : ∀ t', c'.attempts t' = c.attempts t' ∨
    t' = t ∧ c'.attempts t = { c.attempts t with receiveLoop := .ended }

theorem WindsUp.refl (t : TransportId) (c : Connection) : WindsUp t c c :=
  ⟨rfl, rfl, rfl, fun _ => Or.inl rfl⟩

theorem endReceiveLoop_windsUp (t : TransportId) (c : Connection) :
    WindsUp t c (c.endReceiveLoop t) := by
  refine ⟨rfl, rfl, rfl, fun t' => ?_⟩
  unfold endReceiveLoop
  rw [modifyAttempt_attempts]
  by_cases ht : t' = t
  · subst ht
    exact Or.inr ⟨rfl, Function.update_self ..⟩
  · exact Or.inl (Function.update_of_ne ht ..)

/-- What one step can do. -/
inductive Effect (c : Connection) : Event → Connection → Prop
  | quiet (e : Event) {c' : Connection} (quiet : Quiet c c')
      (multiplexer : c.continues e = none ∨ c'.multiplexer = c.multiplexer) : Effect c e c'
  | opens {i : CallId} {signal : Option Bool} (closeRequested : c.closeRequested = false)
      (permanentlyClosed : c.permanentlyClosed = false) (state : c.state ≠ .authenticated)
      (connectPromise : c.connectPromise = none) (mustWait : c.connectMustWait = false) :
      Effect c (.connect i signal)
        { { c with authRejected := false, reconnectExhausted := false }.openAndAuthenticate
            false signal with connectPromise := some c.opened }
  | forgets {t : TransportId} {failure : Option ClientError}
      (phase : (c.attempts t).phase = .finished failure) (shared : c.connectPromise = some t) :
      Effect c (.connectSettled t) { c with connectPromise := none }
  /-- `close` of a client that is closed already: nothing but the memo. -/
  | closesIdle (closePromise : c.closePromise = false) (state : c.state = .closed)
      (transport : c.transport = none) : Effect c .close { c with closePromise := true }
  | closes (closePromise : c.closePromise = false)
      (busy : ¬ (c.state = .closed ∧ c.transport = none)) :
      Effect c .close { c with closePromise := true }.tearDown
  | connected {t : TransportId} {c' : Connection} (phase : (c.attempts t).phase = .connecting)
      (outcome : ConnectedOutcome c t c') : Effect c (.transportConnect t none) c'
  /-- Its transport does not connect, or HELLO does not come. -/
  | fails {e : Event} {t : TransportId} (error : ClientError) (continues : c.continues e = some t)
      (phase : (c.attempts t).phase = .connecting ∨ (c.attempts t).phase = .negotiating) :
      Effect c e (c.catchFailure t error)
  | negotiated {t : TransportId} {c' : Connection} (phase : (c.attempts t).phase = .negotiating)
      (hello : (c.attempts t).hello = .resolved) (outcome : HelloOutcome c t c') :
      Effect c (.helloSettled t) c'
  | restoreFails {t : TransportId} (phase : (c.attempts t).phase = .restoring)
      (closeRequested : c.closeRequested = true) :
      Effect c (.restored t)
        ({ c with reconnectRestoreActive := false }.catchFailure t connectionClosedError)
  | restores {t : TransportId} (phase : (c.attempts t).phase = .restoring)
      (closeRequested : c.closeRequested = false) :
      Effect c (.restored t) ({ c with reconnectRestoreActive := false }.authenticated t)
  | rethrows {t : TransportId} {error : ClientError} {unconfirmed wasRestore : Bool}
      {c' : Connection} (phase : (c.attempts t).phase = .closing error unconfirmed wasRestore)
      (rethrows : Rethrows c t
        ((c.catchFailureError error unconfirmed wasRestore).cls = .authentication) c') :
      Effect c (.attemptClosed t) c'
  | receives {t : TransportId} {frames : List InboundFrame} {pending : Bool} {c' : Connection}
      (current : c.transport = some t) (handles : Handles frames c c') :
      Effect c (.receive t (.ok (.ok (frames, pending)))) c'
  /-- The receive loop finds that it is not wanted any more. -/
  | receivesLast {t : TransportId} {outcome : Received} {c₁ : Connection}
      (handles : Handles (framesOf (.receive t outcome)) c c₁)
      (current : c₁ = c ∨ c.transport = some t)
      (unwanted : c.transport ≠ some t ∨ c.receiveLoopAbort = true ∨ c.closeRequested = true) :
      Effect c (.receive t outcome) (c₁.endReceiveLoop t)
  | loses {e : Event} {t : TransportId} {c₀ c₁ c' : Connection}
      (reports : c.reportsLoss e = some t) (continues : c.continues e = some t)
      (before : Handles (framesOf e) c c₀)
      (current : c₀.multiplexer = c.multiplexer ∨ c.transport = some t)
      (resolves : ResolvesByHello c c₀ false)
      (outcome : ReportOutcome c₀ t c₁) (after : WindsUp t c₁ c') : Effect c e c'
  | settlesLoss : Effect c .connectionLossSettled { c with connectionLossPromise := false }
  | wakesClosed {n : Nat} (sleeping : c.reconnectPromise = .sleeping n)
      (closeRequested : c.closeRequested = true) :
      Effect c .reconnectWake { c with reconnectPromise := .returned .closed }
  | wakes {n : Nat} (sleeping : c.reconnectPromise = .sleeping n)
      (closeRequested : c.closeRequested = false) :
      Effect c .reconnectWake
        { c.openAndAuthenticate true none with reconnectPromise := .opening n c.opened }
  | attempted {n : Nat} {t : TransportId} {failure : Option ClientError} {c' : Connection}
      (opening : c.reconnectPromise = .opening n t)
      (phase : (c.attempts t).phase = .finished failure) (outcome : LoopOutcome c failure c')
      (multiplexer : c'.multiplexer = c.multiplexer) (attempts : c'.attempts = c.attempts) :
      Effect c .reconnectAttempted c'
  | returns {result : ReconnectLoopResult} (returned : c.reconnectPromise = .returned result) :
      Effect c .reconnectReturned (c.reconnectReturned result)
  | settlesLoop (finished : c.reconnectPromise = .finished) :
      Effect c .reconnectSettled { c with reconnectPromise := .idle }

/-! ### The calls of the client -/

/-- `connect` opens a transport, or is quiet. -/
theorem connect_effect (h : c.multiplexer.WellFormed) (i : CallId) (signal : Option Bool) :
    Effect c (.connect i signal) (c.connect i signal).2 := by
  have idle : Effect c (.connect i signal) c :=
    .quiet _ (quiet_of_traffic h rfl rfl rfl rfl) (Or.inl rfl)
  unfold connect
  split
  · exact idle
  · rename_i hclosed
    split
    · exact idle
    · split
      · exact idle
      · rename_i hstate
        split
        · exact idle
        · rename_i hnone
          split
          · have hstored : Quiet c
                (c.modifyCall i fun _ =>
                  { kind := .connect, signal, phase := .waitingReady false }) :=
              modifyCall_quiet h i _
            exact .quiet _ (hstored.andThen fun hm => waitForReady_quiet hm i false) (Or.inl rfl)
          · rename_i hwait
            have hopen := not_or.mp hclosed
            exact .opens (Bool.not_eq_true _ ▸ hopen.2) (Bool.not_eq_true _ ▸ hopen.1) hstate hnone
              (Bool.not_eq_true _ ▸ hwait)

/-- `close` takes everything down, once. -/
theorem close_effect (h : c.multiplexer.WellFormed) : Effect c .close c.close := by
  unfold close
  split
  · exact .quiet _ (quiet_of_traffic h rfl rfl rfl rfl) (Or.inl rfl)
  · rename_i hpromise
    have hfirst : c.closePromise = false := Bool.not_eq_true _ ▸ hpromise
    dsimp only
    split
    · rename_i hidle
      exact .closesIdle hfirst hidle.1 hidle.2
    · rename_i hbusy
      exact .closes hfirst hbusy

/-- A call that has failed may report its transport. -/
theorem callSettles_effect (h : c.multiplexer.WellFormed) (hs : c.callSettles i = some c') :
    Effect c (.callSettles i) c' := by
  unfold callSettles at hs
  split at hs
  · cases hs
    exact .quiet _ (releaseAndFinish_quiet h i _ _) (Or.inr rfl)
  · rename_i gate t error houtcome
    cases hs
    unfold callFailed handlePossibleTransportFailure
    split
    · exact .quiet _ (releaseAndFinish_quiet h i _ _) (Or.inr rfl)
    · rename_i husable
      obtain ⟨hclose, hstate⟩ := not_or.mp husable
      split
      · rename_i hfailure
        have hreports : c.reportsLoss (.callSettles i) = some t := by
          simp only [reportsLoss, houtcome]
          exact if_pos ⟨hclose, not_not.mp hstate, hfailure⟩
        have hcontinues : c.continues (.callSettles i) = some t := by
          simp only [continues, houtcome]
          rfl
        exact .loses hreports hcontinues (.refl h _) (Or.inl rfl) (resolvesByHello_refl _ _)
          (handleConnectionLoss_outcome c error t)
          ⟨rfl, rfl, rfl, fun _ => Or.inl rfl⟩
      · exact .quiet _ (releaseAndFinish_quiet h i _ _) (Or.inr rfl)
  · cases hs

/-! ### The attempts -/

/-- The steps of an attempt. -/
theorem attemptStep_effect {e : Event} (hs : c.attemptStep t e = some c')
    (he : e = .transportConnect t none ∨ (∃ error, e = .transportConnect t (some error)) ∨
      e = .helloSettled t ∨ e = .restored t ∨ e = .attemptClosed t) : Effect c e c' := by
  rcases he with rfl | ⟨error, rfl⟩ | rfl | rfl | rfl
  · unfold attemptStep at hs
    dsimp only at hs
    split at hs
    · rename_i hphase
      cases hs
      exact .connected hphase (transportConnected_outcome c t)
    · cases hs
  · unfold attemptStep at hs
    dsimp only at hs
    split at hs
    · rename_i hphase
      cases hs
      exact .fails error rfl (Or.inl hphase)
    · cases hs
  · unfold attemptStep at hs
    dsimp only at hs
    split at hs
    · rename_i hphase hhello
      cases hs
      exact .negotiated hphase hhello (helloReceived_outcome c t)
    · rename_i error hphase hhello
      cases hs
      exact .fails error rfl (Or.inr hphase)
    · cases hs
  · unfold attemptStep at hs
    dsimp only at hs
    split at hs
    · rename_i hphase
      cases hs
      unfold restored
      dsimp only
      split
      · rename_i hclose
        exact .restoreFails hphase hclose
      · rename_i hclose
        exact .restores hphase (Bool.not_eq_true _ ▸ hclose)
    · cases hs
  · unfold attemptStep at hs
    dsimp only at hs
    split at hs
    · rename_i hphase
      cases hs
      exact .rethrows hphase (rethrowFailure_rethrows c t _ _ _)
    · cases hs

/-! ### The reconnect loop -/

/-- The steps of the reconnect loop. -/
theorem reconnectStep_effect {e : Event} (hs : c.reconnectStep e = some c') : Effect c e c' := by
  unfold reconnectStep at hs
  split at hs
  · split at hs
    · rename_i n hsleeping
      cases hs
      unfold reconnectWake
      split
      · rename_i hclose
        exact .wakesClosed hsleeping hclose
      · rename_i hclose
        exact .wakes hsleeping (Bool.not_eq_true _ ▸ hclose)
    · cases hs
  · split at hs
    · rename_i n t hopening
      split at hs
      · rename_i failure hphase
        cases hs
        obtain ⟨houtcome, hmultiplexer, hattempts⟩ := reconnectAttempted_outcome c n failure
        exact .attempted hopening hphase houtcome hmultiplexer hattempts
      · cases hs
    · cases hs
  · split at hs
    · rename_i result hreturned
      cases hs
      exact .returns hreturned
    · cases hs
  · split at hs
    · rename_i hfinished
      cases hs
      exact .settlesLoop hfinished
    · cases hs
  · cases hs

/-! ### The receive loop -/

theorem receiveFailed_effect {outcome : Received} {error : ClientError}
    (hreceive : c.receiveError t outcome = some error)
    (before : Handles (framesOf (.receive t outcome)) c c₀)
    (hcurrent : c₀ = c ∨ c.transport = some t)
    (hresolves : ResolvesByHello c c₀ false) :
    Effect c (.receive t outcome) (c₀.receiveFailed t error) := by
  have habort : c₀.receiveLoopAbort = c.receiveLoopAbort := by rw [before.control]
  have hclose : c₀.closeRequested = c.closeRequested := by rw [before.control]
  unfold receiveFailed
  split
  · rename_i hstop
    rw [habort, hclose] at hstop
    exact .receivesLast before hcurrent (Or.inr hstop)
  · rename_i hgo
    rw [habort, hclose] at hgo
    have hreports : c.reportsLoss (.receive t outcome) = some t := by
      simp only [reportsLoss, hreceive]
      exact if_pos ⟨rfl, not_or.mp hgo⟩
    have hmultiplexer : c₀.multiplexer = c.multiplexer ∨ c.transport = some t :=
      hcurrent.imp_left fun h => by rw [h]
    exact .loses hreports rfl before hmultiplexer hresolves
      (handleConnectionLoss_outcome c₀ error t)
      (endReceiveLoop_windsUp t _)

/-- A chunk is handled, or its failure loses the connection. -/
theorem received_effect (h : c.multiplexer.WellFormed) {outcome : Received}
    (hs : c.receiveStep (.receive t outcome) = some c') : Effect c (.receive t outcome) c' := by
  simp only [receiveStep] at hs
  split at hs
  · rename_i hone
    cases outcome with
    | error error =>
        cases hs
        exact receiveFailed_effect rfl (.refl h _) (Or.inl rfl) (resolvesByHello_refl _ _)
    | ok parsed =>
        simp only [received] at hs
        split at hs
        · -- the chunk of a transport that has been replaced
          rename_i hstale
          cases hs
          exact .receivesLast (.refl h _) (Or.inl rfl) (Or.inl hstale)
        · rename_i hcurrent
          have hcurrent : c.transport = some t := not_not.mp hcurrent
          cases parsed with
          | error error =>
              cases hs
              exact receiveFailed_effect (by simp [receiveError, hcurrent]) (.refl h _)
                (Or.inl rfl) (resolvesByHello_refl _ _)
          | ok chunk =>
              obtain ⟨frames, pending⟩ := chunk
              simp only [chunkReceived] at hs
              split at hs
              · rename_i c₁ hframes
                cases hs
                have hhandles := chunk_handles h hframes
                rcases continueReceiveLoop_cases c₁ t with ⟨heq, -⟩ | ⟨heq, hstop⟩
                · rw [heq]
                  exact .receives hcurrent hhandles
                · rw [heq]
                  rw [hhandles.control] at hstop
                  exact .receivesLast hhandles (Or.inr hcurrent) hstop
              · rename_i c₁ error hframes
                cases hs
                exact receiveFailed_effect (by simp [receiveError, hcurrent, hframes])
                  (chunk_handles h hframes) (Or.inr hcurrent) (failedChunk_resolves hone.2 hframes)
              · cases hs
  · cases hs

/-- A change of the traffic and of one attempt in which it stays in its place. -/
theorem modifyAttempt_handles (h : c.multiplexer.WellFormed) {frames : List InboundFrame}
    (hcontrol : c₁.toControl = c.toControl) (hmultiplexer : c₁.multiplexer = c.multiplexer)
    (hreadiness : c₁.readiness = c.readiness) (hattempts : c₁.attempts = c.attempts)
    {f : Attempt → Attempt} (hf : (c.attempts t).SamePlace (f (c.attempts t))) :
    Handles frames c (c₁.modifyAttempt t f) := by
  refine ⟨?_, ?_, Or.inl ⟨?_, ?_⟩, ?_, hreadiness, fun t' => ?_⟩
  · rw [modifyAttempt_control, hcontrol]
  · rw [modifyAttempt_control, hcontrol]
    exact Or.inl rfl
  · rw [modifyAttempt_control, hcontrol]
  · rw [modifyAttempt_control, hcontrol]
  · rw [modifyAttempt_multiplexer, hmultiplexer]
    exact .refl h
  · rw [modifyAttempt_attempts, hattempts]
    by_cases ht : t' = t
    · subst ht
      simpa using hf
    · simpa [Function.update_of_ne ht] using Attempt.SamePlace.refl _

/-- A heartbeat that has failed loses the connection. -/
theorem heartbeatSettled_effect (h : c.multiplexer.WellFormed) {active : Bool} :
    Effect c (.heartbeatSettled t active) (c.heartbeatSettled t active) := by
  have idle : ∀ {c'}, c'.toControl = c.toControl → c'.multiplexer = c.multiplexer →
      c'.readiness.waiters = c.readiness.waiters → c'.attempts = c.attempts →
      Effect c (.heartbeatSettled t active) c' :=
    fun h₁ h₂ h₃ h₄ => .quiet _ (quiet_of_traffic h h₁ h₂ h₃ h₄) (Or.inr h₂)
  unfold heartbeatSettled
  dsimp only
  split
  · exact idle rfl rfl rfl rfl
  · rename_i hcurrent
    split
    · rename_i error houtcome
      split
      · exact idle rfl rfl rfl rfl
      · rename_i hactive
        have hreports : c.reportsLoss (.heartbeatSettled t active) = some t := by
          simp only [reportsLoss, houtcome]
          exact if_pos ⟨not_not.mp hcurrent, hactive⟩
        refine .loses hreports rfl ?_ ?_ ?_ (handleConnectionLoss_outcome _ _ t) (.refl t _)
        · unfold callClose
          refine modifyAttempt_handles h ?_ ?_ ?_ ?_ ?_
          · rfl
          · rfl
          · rfl
          · rfl
          · exact ⟨rfl, rfl, rfl, rfl, fun _ => rfl, fun _ => rfl, id⟩
        · exact Or.inl rfl
        · exact modifyAttempt_resolves rfl rfl
    · exact idle rfl rfl rfl rfl

theorem partialFrameTimer_multiplexer : (c.partialFrameTimer t).multiplexer = c.multiplexer := by
  unfold partialFrameTimer
  dsimp only
  split <;> rfl

theorem partialFrameTimer_quiet (h : c.multiplexer.WellFormed) :
    Quiet c (c.partialFrameTimer t) := by
  unfold partialFrameTimer
  dsimp only
  split
  · exact quiet_of_traffic h rfl rfl rfl rfl
  · have hclear : Quiet c c.clearPartialFrameTimeout := quiet_of_traffic h rfl rfl rfl rfl
    have hclose := hclear.andThen fun hm =>
      quiet_modifyAttempt (t := t) (f := fun a => { a with closeCalled := true }) hm
        ⟨rfl, rfl, rfl, rfl, rfl, fun _ => rfl, Or.inl⟩
    exact hclose.andThen fun hm =>
      quiet_modifyAttempt hm ⟨rfl, rfl, rfl, rfl, rfl, id, Or.inl⟩

theorem heartbeatTick_quiet (h : c.multiplexer.WellFormed) : Quiet c (c.heartbeatTick t) := by
  unfold heartbeatTick
  split <;> exact quiet_of_traffic h rfl rfl rfl rfl

theorem receiveStep_effect (h : c.multiplexer.WellFormed) {e : Event}
    (hs : c.receiveStep e = some c') : Effect c e c' := by
  cases e with
  | receive t outcome => exact received_effect h hs
  | partialFrameTimer =>
      obtain ⟨t, -, rfl⟩ := Option.map_eq_some_iff.mp hs
      exact .quiet _ (partialFrameTimer_quiet h) (Or.inr partialFrameTimer_multiplexer)
  | partialFrameClosed t =>
      simp only [receiveStep] at hs
      split at hs
      · cases hs
        have hbefore : Handles (framesOf (.partialFrameClosed t)) c
            (c.modifyAttempt t fun a => { a with failingPartialFrame := false }) :=
          modifyAttempt_handles h rfl rfl rfl rfl ⟨rfl, rfl, rfl, rfl, id, fun _ => rfl, id⟩
        exact .loses rfl rfl hbefore (Or.inl rfl) (modifyAttempt_resolves rfl rfl)
          (handleConnectionLoss_outcome _ _ t) (.refl t _)
      · cases hs
  | heartbeatTick =>
      obtain ⟨t, -, rfl⟩ := Option.map_eq_some_iff.mp hs
      refine .quiet _ (heartbeatTick_quiet h) (Or.inr ?_)
      unfold heartbeatTick
      split <;> rfl
  | heartbeatSettled t active =>
      simp only [receiveStep] at hs
      split at hs
      · cases hs
      · cases hs
        exact heartbeatSettled_effect h
  | connectionLossSettled =>
      simp only [receiveStep] at hs
      split at hs
      · cases hs
        exact .settlesLoss
      · cases hs
  | _ => cases hs

/-! ### Any step -/

/-- Every step of a connection is one of the listed. -/
theorem step_effect (h : c.multiplexer.WellFormed) {e : Event} (hs : c.step e = some c') :
    Effect c e c' := by
  cases e with
  | connect i signal =>
      simp only [step] at hs
      split at hs
      · cases hs
        exact connect_effect h i signal
      · cases hs
  | connectSettled t =>
      simp only [step] at hs
      split at hs
      · rename_i failure hphase
        cases hs
        unfold connectSettled
        split
        · rename_i hshared
          exact .forgets hphase hshared
        · exact .quiet _ (quiet_of_traffic h rfl rfl rfl rfl) (Or.inl rfl)
      · cases hs
  | close =>
      cases hs
      exact close_effect h
  | callSettles i => exact callSettles_effect h hs
  | transportConnect t failure =>
      cases failure with
      | none => exact attemptStep_effect hs (Or.inl rfl)
      | some error => exact attemptStep_effect hs (Or.inr (Or.inl ⟨error, rfl⟩))
  | helloSettled t => exact attemptStep_effect hs (Or.inr (Or.inr (Or.inl rfl)))
  | restored t => exact attemptStep_effect hs (Or.inr (Or.inr (Or.inr (Or.inl rfl))))
  | attemptClosed t => exact attemptStep_effect hs (Or.inr (Or.inr (Or.inr (Or.inr rfl))))
  | token | connectSent | helloTimeout | abortAttempt =>
      simp only [step] at hs
      exact .quiet _ (handshakeStep_quiet h hs) (Or.inr (handshakeStep_multiplexer hs))
  | reconnectWake | reconnectAttempted | reconnectReturned | reconnectSettled =>
      exact reconnectStep_effect hs
  | receive | partialFrameTimer | partialFrameClosed | heartbeatTick | heartbeatSettled
  | connectionLossSettled => exact receiveStep_effect h hs
  | call | readyContinues | slotContinues | sendSettles | abortCall | waitTimeout | writeBegins
  | writeEnds | multiplexerTimer | register =>
      simp only [step] at hs
      exact .quiet _ (callStep_quiet h hs) (Or.inl rfl)

end FitzTs.Client.Connection
