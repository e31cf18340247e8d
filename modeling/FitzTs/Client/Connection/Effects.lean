import FitzTs.Client.Connection.Quiet
/-!
# FitzTs.Client.Connection.Effects

What each function of the connection does to the control variables, the
multiplexer and the attempts, said once.

A function without a branch gets equations; one with branches gets a lemma that
lists them. The frames of a chunk are summed up in `Handles`, a connection loss
in `Loses`.
-/

namespace FitzTs.Client

variable {a a' a'' : Attempt} {c c' c'' : Connection} {i : CallId} {t t' : TransportId}

/-- The attempt is where it was; only the outcome of its authentication may have
been settled. -/
structure Attempt.SamePlace (a a' : Attempt) : Prop where
  phase : a'.phase = a.phase
  isReconnect : a'.isReconnect = a.isReconnect
  receiveLoop : a'.receiveLoop = a.receiveLoop
  lossReported : a'.lossReported = a.lossReported
  closeCalled : a.closeCalled = true → a'.closeCalled = true
  /-- A deferred that has been settled stays so. -/
  authOutcome : a.authOutcome ≠ .pending → a'.authOutcome = a.authOutcome
  hello : (a.hello = .resolved → a.authOutcome = .resolved) →
    a'.hello = .resolved → a'.authOutcome = .resolved

namespace Attempt

theorem SamePlace.refl (a : Attempt) : SamePlace a a := ⟨rfl, rfl, rfl, rfl, id, fun _ => rfl, id⟩

/-- An attempt that has twice stayed at its place. -/
theorem SamePlace.trans (h : SamePlace a a') (h' : SamePlace a' a'') : SamePlace a a'' where
  phase := h'.phase.trans h.phase
  isReconnect := h'.isReconnect.trans h.isReconnect
  receiveLoop := h'.receiveLoop.trans h.receiveLoop
  lossReported := h'.lossReported.trans h.lossReported
  closeCalled := fun hc => h'.closeCalled (h.closeCalled hc)
  authOutcome := fun hp => by
    have ha := h.authOutcome hp
    rw [h'.authOutcome (ha ▸ hp), ha]
  hello := fun hr => h'.hello (h.hello hr)

/-- An attempt that keeps its role keeps its place. -/
theorem SameRole.samePlace (h : SameRole a a') : SamePlace a a' where
  phase := h.phase
  isReconnect := h.isReconnect
  receiveLoop := h.receiveLoop
  lossReported := h.lossReported
  closeCalled := h.closeCalled
  authOutcome := fun _ => h.authOutcome
  hello := fun hr hr' => by
    rw [h.authOutcome]
    exact (h.hello hr').elim hr id

/-- Settling the deferred of an attempt, and what follows for its wait. -/
theorem settle_samePlace (a : Attempt) (outcome : Deferred) :
    SamePlace a (settleHello { a with authOutcome := a.authOutcome.settle outcome }) := by
  refine ⟨rfl, rfl, rfl, rfl, id, fun hp => if_neg hp, fun hr hr' => ?_⟩
  rcases (settleHello_sameRole _).hello hr' with hr' | hr'
  · have ha : a.authOutcome = .resolved := hr hr'
    simp [settleHello, Deferred.settle, ha]
  · exact hr'

end Attempt

namespace Connection

/-! ### Equations -/

section

variable (c) (s : ConnectionState) (f : Attempt → Attempt)

@[simp] theorem setState_control : (c.setState s).toControl = { c.toControl with state := s } := rfl
@[simp] theorem setState_multiplexer : (c.setState s).multiplexer = c.multiplexer := rfl
@[simp] theorem setState_attempts : (c.setState s).attempts = c.attempts := rfl

@[simp] theorem modifyAttempt_control (t : TransportId) :
    (c.modifyAttempt t f).toControl = c.toControl := rfl
@[simp] theorem modifyAttempt_multiplexer (t : TransportId) :
    (c.modifyAttempt t f).multiplexer = c.multiplexer := rfl
@[simp] theorem modifyAttempt_readiness (t : TransportId) :
    (c.modifyAttempt t f).readiness = c.readiness := rfl
@[simp] theorem modifyAttempt_attempts (t : TransportId) :
    (c.modifyAttempt t f).attempts = Function.update c.attempts t (f (c.attempts t)) := rfl

@[simp] theorem settleAuth_control (d : Deferred) : (c.settleAuth d).toControl = c.toControl := by
  unfold settleAuth
  split <;> rfl

@[simp] theorem settleAuth_multiplexer (d : Deferred) :
    (c.settleAuth d).multiplexer = c.multiplexer := by
  unfold settleAuth
  split <;> rfl

@[simp] theorem settleAuth_readiness (d : Deferred) : (c.settleAuth d).readiness = c.readiness := by
  unfold settleAuth
  split <;> rfl

/-- The outcome of an authentication moves no attempt. -/
theorem settleAuth_attempts (d : Deferred) (t : TransportId) :
    (c.attempts t).SamePlace ((c.settleAuth d).attempts t) := by
  unfold settleAuth
  split
  · exact .refl _
  · rename_i t' _
    rw [modifyAttempt_attempts]
    by_cases ht : t = t'
    · subst ht
      simpa using Attempt.settle_samePlace _ d
    · simpa [Function.update_of_ne ht] using Attempt.SamePlace.refl _

/-- Nor does it close a transport. -/
theorem settleAuth_closeCalled (d : Deferred) (t : TransportId) :
    ((c.settleAuth d).attempts t).closeCalled = (c.attempts t).closeCalled := by
  unfold settleAuth
  split
  · rfl
  · rename_i t' _
    rw [modifyAttempt_attempts]
    by_cases ht : t = t'
    · subst ht
      simp [Attempt.settleHello]
    · rw [Function.update_of_ne ht]

end

/-! ### The waiters -/

/-- Whoever is parked may be: the connection is neither ready nor beyond it. -/
def Notified (c : Connection) : Prop :=
  ∀ i, c.readiness.waiters i = .parked → c.readyFailure = none ∧ c.state ≠ .authenticated

/-- After a notification only those are parked who may be. -/
theorem notifyReadyListeners_notified (c : Connection) : c.notifyReadyListeners.Notified := by
  intro i hi
  change (if c.readiness.waiters i = .parked
    then ReadinessWaiter.onStateChange c.state c.readyFailure else c.readiness.waiters i) = _ at hi
  split at hi
  · exact onStateChange_parked hi
  · contradiction

/-- Each change of the state tells the waiters. -/
theorem setState_notified (c : Connection) (s : ConnectionState) : (c.setState s).Notified :=
  notifyReadyListeners_notified _

/-- Who waits, and for what, is all that is asked. -/
theorem Notified.congr (h : c.Notified) (hwaiters : c'.readiness.waiters = c.readiness.waiters)
    (hfailure : c'.readyFailure = c.readyFailure) (hstate : c'.state = c.state) : c'.Notified := by
  intro i hi
  rw [hwaiters] at hi
  rw [hfailure, hstate]
  exact h i hi

/-- A quiet step parks only those who may be. -/
theorem Quiet.notified (h : Quiet c c') (hc : c.Notified) : c'.Notified := by
  intro i hi
  rw [h.control]
  exact (h.waiters i hi).elim (hc i) id

/-! ### The frames of a chunk -/

/-- The frame of a broker that rejects the credentials. -/
def rejectsCredentials : InboundFrame → Bool
  | .connectRejected 0 (.ok (1, _)) => true
  | _ => false

/-- What `frames` may do: settle the outcome of the handshake, confirm the
session, and reach the multiplexer. -/
structure Handles (frames : List InboundFrame) (c c' : Connection) : Prop where
  control : c'.toControl = { c.toControl with
    authRejected := c'.authRejected
    sessionConfirmed := c'.sessionConfirmed
    hasEstablishedSession := c'.hasEstablishedSession }
  authRejected : c'.authRejected = c.authRejected ∨
    c'.authRejected = true ∧ ∃ frame ∈ frames, rejectsCredentials frame = true
  sessionConfirmed : c'.sessionConfirmed = c.sessionConfirmed ∧
      c'.hasEstablishedSession = c.hasEstablishedSession ∨
    c.sessionConfirmed = false ∧ c'.hasEstablishedSession = true ∧ frames ≠ []
  multiplexer : c.multiplexer.Keeps c'.multiplexer
  readiness : c'.readiness = c.readiness
  attempts : ∀ t, (c.attempts t).SamePlace (c'.attempts t)

theorem Handles.refl (h : c.multiplexer.WellFormed) (frames : List InboundFrame) :
    Handles frames c c :=
  ⟨rfl, Or.inl rfl, Or.inl ⟨rfl, rfl⟩, .refl h, rfl, fun _ => .refl _⟩

/-- The frames of a chunk are handled one after the other. -/
theorem Handles.trans {frames frames' : List InboundFrame} (h : Handles frames c c')
    (h' : Handles frames' c' c'') : Handles (frames ++ frames') c c'' where
  control := by rw [h'.control, h.control]
  authRejected := by
    rcases h'.authRejected with heq | ⟨htrue, frame, hmem, hframe⟩
    · rcases h.authRejected with heq' | ⟨htrue, frame, hmem, hframe⟩
      · exact Or.inl (heq.trans heq')
      · exact Or.inr ⟨heq.trans htrue, frame, List.mem_append_left _ hmem, hframe⟩
    · exact Or.inr ⟨htrue, frame, List.mem_append_right _ hmem, hframe⟩
  sessionConfirmed := by
    rcases h.sessionConfirmed with ⟨hsc, hes⟩ | ⟨hsc, hes, hne⟩
    · rcases h'.sessionConfirmed with ⟨hsc', hes'⟩ | ⟨hsc', hes', hne'⟩
      · exact Or.inl ⟨hsc'.trans hsc, hes'.trans hes⟩
      · exact Or.inr ⟨hsc.symm.trans hsc', hes', fun he => hne' (List.append_eq_nil_iff.mp he).2⟩
    · refine Or.inr ⟨hsc, ?_, fun he => hne (List.append_eq_nil_iff.mp he).1⟩
      rcases h'.sessionConfirmed with ⟨-, hes'⟩ | ⟨-, hes', -⟩
      · exact hes'.trans hes
      · exact hes'
  multiplexer := h.multiplexer.trans h'.multiplexer
  readiness := h'.readiness.trans h.readiness
  attempts := fun t => (h.attempts t).trans (h'.attempts t)

/-- A HELLO resolves the authentication and sets up the session. -/
theorem acceptHello_handles (h : c.multiplexer.WellFormed) {hello : Hello} {frame : InboundFrame}
    (hversion : hello.version = 3) : Handles [frame] c (c.acceptHello hello) := by
  have hkeeps : c.multiplexer.Keeps
      (c.multiplexer.setCapabilities hello.version hello.brokerCapabilities) :=
    Multiplexer.step_keeps (e := .setCapabilities hello.version hello.brokerCapabilities) h rfl
      (show 2 ≤ hello.version by rw [hversion]; decide)
  unfold acceptHello
  extract_lets maxMessageBytes c₁ c₂ c₃
  refine ⟨?_, Or.inl ?_, Or.inl ⟨?_, ?_⟩, ?_, ?_, fun t => settleAuth_attempts c₃ .resolved t⟩
  · rw [settleAuth_control]
    rfl
  · rw [settleAuth_control]
    rfl
  · rw [settleAuth_control]
    rfl
  · rw [settleAuth_control]
    rfl
  · rw [settleAuth_multiplexer]
    exact hkeeps
  · rw [settleAuth_readiness]
    rfl

/-- CONNECT_REJECTED rejects the authentication. -/
theorem connectRejected_handles (h : c.multiplexer.WellFormed) (code : Nat) (message : String) :
    Handles [.connectRejected 0 (.ok (code, message))] c (c.connectRejected code message) := by
  unfold connectRejected
  refine ⟨?_, ?_, Or.inl ⟨?_, ?_⟩, ?_, ?_, fun t => settleAuth_attempts { c with
    authRejected := code = 1 || c.authRejected } _ t⟩
  · rw [settleAuth_control]
  · rw [settleAuth_control]
    by_cases hcode : code = 1
    · subst hcode
      exact Or.inr ⟨rfl, _, List.mem_singleton_self _, rfl⟩
    · exact Or.inl (by simp [hcode])
  · rw [settleAuth_control]
  · rw [settleAuth_control]
  · rw [settleAuth_multiplexer]
    exact .refl h
  · rw [settleAuth_readiness]

/-- A HELLO that is accepted has version 3. -/
theorem helloError_ok {correlation : CorrelationId} {flags : Nat}
    {body : Except ClientError Hello} {hello : Hello}
    (h : c.helloError correlation flags body = .ok hello) : hello.version = 3 := by
  unfold helloError at h
  split at h
  · cases h
  · split at h
    · cases h
    · split at h
      · cases h
      · split at h
        · cases h
        · rename_i hversion
          split at h
          · cases h
          · cases h
            exact not_not.mp fun hne => hversion (Or.inl hne)

/-- A frame does what `Handles` allows, whether it is handled or fails. -/
theorem handleFrame_handles (h : c.multiplexer.WellFormed) {frame : InboundFrame}
    {error : Option ClientError} (hf : c.handleFrame frame = some (c', error)) :
    Handles [frame] c c' := by
  have idle : ∀ {error'}, some (c, error') = some (c', error) → Handles [frame] c c' := by
    intro error' he
    obtain ⟨rfl, -⟩ := Prod.mk.inj (Option.some.inj he)
    exact .refl h _
  cases frame with
  | badExtensions error' => exact idle hf
  | hello correlation flags body =>
      unfold handleFrame at hf
      dsimp only at hf
      split at hf
      · rename_i hello hok
        obtain ⟨rfl, -⟩ := Prod.mk.inj (Option.some.inj hf)
        exact acceptHello_handles h (helloError_ok hok)
      · exact idle hf
  | connectRejected correlation body =>
      unfold handleFrame at hf
      dsimp only at hf
      split at hf
      · exact idle hf
      · rename_i hzero
        split at hf
        · obtain ⟨rfl, -⟩ := Prod.mk.inj (Option.some.inj hf)
          obtain rfl : correlation = 0 := not_not.mp hzero
          exact connectRejected_handles h _ _
        · exact idle hf
  | goAway correlation body =>
      unfold handleFrame at hf
      dsimp only at hf
      split at hf
      · exact idle hf
      · split at hf <;> exact idle hf
  | message messageType payload correlation responseFinal =>
      unfold handleFrame at hf
      dsimp only at hf
      split at hf
      · rename_i m hdispatch
        obtain ⟨rfl, -⟩ := Prod.mk.inj (Option.some.inj hf)
        have hstep : c.multiplexer.step (.dispatch messageType payload
            (if correlation = 0 then none else some correlation) responseFinal) = some m := by
          simp [Multiplexer.step, hdispatch]
        exact ⟨rfl, Or.inl rfl, Or.inl ⟨rfl, rfl⟩, Multiplexer.step_keeps h hstep trivial, rfl,
          fun _ => .refl _⟩
      · exact idle hf
      · cases hf

/-- Frames that precede a failing one are handled; those behind it are not. -/
theorem handleFrames_handles (h : c.multiplexer.WellFormed) {frames : List InboundFrame}
    {error : Option ClientError} (hf : c.handleFrames frames = some (c', error)) :
    Handles frames c c' := by
  induction frames generalizing c with
  | nil =>
      obtain ⟨rfl, -⟩ := Prod.mk.inj (Option.some.inj hf)
      exact .refl h _
  | cons frame frames ih =>
      unfold handleFrames at hf
      split at hf
      · rename_i c₁ hframe
        have hhead := handleFrame_handles h hframe
        exact hhead.trans (ih hhead.multiplexer.wellFormed hf)
      · have hhead := handleFrame_handles h hf
        exact hhead.trans (.refl hhead.multiplexer.wellFormed frames)

/-- The chunk as a whole: its session is confirmed before its frames are handled. -/
theorem chunk_handles (h : c.multiplexer.WellFormed) {frames : List InboundFrame} {pending : Bool}
    {error : Option ClientError}
    (hf : (c.beginChunk t frames pending).handleFrames frames = some (c', error)) :
    Handles frames c c' := by
  unfold beginChunk at hf
  by_cases hne : frames = []
  · subst hne
    rw [if_pos rfl] at hf
    obtain ⟨rfl, -⟩ := Prod.mk.inj (Option.some.inj hf)
    exact ⟨rfl, Or.inl rfl, Or.inl ⟨rfl, rfl⟩, .refl h, rfl, fun _ => .refl _⟩
  · rw [if_neg hne] at hf
    have hconfirm : Handles frames c (c.updatePartialFrameTimeout t pending).confirmSession := by
      unfold confirmSession
      cases hsc : (c.updatePartialFrameTimeout t pending).sessionConfirmed with
      | true =>
          exact ⟨rfl, Or.inl rfl, Or.inl ⟨rfl, rfl⟩, .refl h, rfl, fun _ => .refl _⟩
      | false =>
          exact ⟨rfl, Or.inl rfl, Or.inr ⟨hsc, rfl, hne⟩, .refl h, rfl, fun _ => .refl _⟩
    have hall := hconfirm.trans (handleFrames_handles hconfirm.multiplexer.wellFormed hf)
    refine ⟨hall.control, ?_, ?_, hall.multiplexer, hall.readiness, hall.attempts⟩
    · simpa using hall.authRejected
    · simpa using hall.sessionConfirmed

end Connection

end FitzTs.Client
