import FitzTs.Client.Connection.Sound
/-!
# FitzTs.Client.Connection.Outbox

What a step writes.

Frames reach a transport in two ways: CONNECT directly, everything else through
the write chain. All but a few steps leave both alone (`Still`); `Posts` lists the
others: a transport is opened, a session begins, CONNECT is written, a heartbeat or
a call is bound to a transport, an identifier is drawn, a write begins.
-/

namespace FitzTs.Client

variable {a a' a'' : Attempt} {c c' c'' c₁ : Connection} {i : CallId} {t : TransportId}

/-! ### Attempts and calls -/

namespace Attempt

/-- `waitForHello` fulfils only after CONNECT was sent and HELLO accepted, and
`sendConnect` is called only once the transport is connected. -/
structure Coherent (a : Attempt) : Prop where
  hello : a.hello = .resolved → a.sendConnect = .sent ∧ a.authOutcome = .resolved
  connecting : a.phase = .connecting → a.sendConnect = .notCalled

/-- `sendConnect` has written CONNECT. -/
def ConnectWritten (a : Attempt) : Prop := a.sendConnect = .sending ∨ a.sendConnect = .sent

/-- `sendConnect` will write no CONNECT any more. -/
def PastToken (a : Attempt) : Prop := a.sendConnect ≠ .notCalled ∧ a.sendConnect ≠ .token

/-- The handshake of the attempt is where it was, or has gone on without writing. -/
structure Follows (a a' : Attempt) : Prop where
  coherent : a.Coherent → a'.Coherent
  connectWritten : a'.ConnectWritten → a.ConnectWritten
  authOutcome : a.authOutcome = .resolved → a'.authOutcome = .resolved
  pastToken : a.Coherent → a.PastToken → a'.PastToken

theorem Follows.refl (a : Attempt) : Follows a a := ⟨id, id, id, fun _ => id⟩

theorem Follows.trans (h : Follows a a') (h' : Follows a' a'') : Follows a a'' :=
  ⟨fun hc => h'.coherent (h.coherent hc), fun hw => h.connectWritten (h'.connectWritten hw),
    fun hr => h'.authOutcome (h.authOutcome hr),
    fun hc hp => h'.pastToken (h.coherent hc) (h.pastToken hc hp)⟩

theorem follows_of_fields (hhello : a'.hello = a.hello) (hconnect : a'.sendConnect = a.sendConnect)
    (hauth : a'.authOutcome = a.authOutcome)
    (hphase : a'.phase = .connecting → a.phase = .connecting) : Follows a a' := by
  refine ⟨fun hc => ⟨fun hr => ?_, fun hp => ?_⟩, fun hw => ?_, fun hr => hauth.trans hr,
    fun _ hp => ?_⟩
  · rw [hconnect, hauth]
    exact hc.hello (hhello.symm.trans hr)
  · exact hconnect.trans (hc.connecting (hphase hp))
  · unfold ConnectWritten at hw ⊢
    rw [hconnect] at hw
    exact hw
  · unfold PastToken at hp ⊢
    rw [hconnect]
    exact hp

/-- A deferred settles once. -/
theorem settle_resolved {d outcome : Deferred} (h : d = .resolved) :
    d.settle outcome = .resolved := by
  unfold Deferred.settle
  rw [h]
  rfl

/-- The wait for HELLO looks at its conditions again. -/
theorem settleHello_coherent (h : a.Coherent) : a.settleHello.Coherent := by
  refine ⟨fun hr => ?_, h.connecting⟩
  change a.sendConnect = .sent ∧ a.authOutcome = .resolved
  rcases settle_eq_resolved hr with hr | hr
  · exact h.hello hr
  · cases hs : a.sendConnect <;> cases ha : a.authOutcome <;> simp [hs, ha] at hr ⊢

/-- The outcome of the authentication settles, and with it perhaps `waitForHello`. -/
theorem settle_follows (a : Attempt) (outcome : Deferred) :
    Follows a (settleHello { a with authOutcome := a.authOutcome.settle outcome }) := by
  refine ⟨fun hc => settleHello_coherent ⟨fun hr => ?_, hc.connecting⟩, id,
    fun hr => settle_resolved hr, fun _ => id⟩
  obtain ⟨hs, ha⟩ := hc.hello hr
  exact ⟨hs, settle_resolved ha⟩

/-- `sendConnect` moves on, and writes nothing. -/
theorem setSendConnect_follows {s : SendConnect}
    (hs : a.sendConnect = .token ∨ a.sendConnect = .sending)
    (hwritten : s = .sending ∨ s = .sent → a.ConnectWritten)
    (hpast : s ≠ .notCalled ∧ s ≠ .token) :
    Follows a (settleHello { a with sendConnect := s }) := by
  refine ⟨fun hc => settleHello_coherent ⟨fun hr => ?_, fun hp => ?_⟩, hwritten, id,
    fun _ _ => hpast⟩
  · have hsent := (hc.hello hr).1
    rcases hs with h | h <;> rw [h] at hsent <;> cases hsent
  · have hnot := hc.connecting hp
    rcases hs with h | h <;> rw [h] at hnot <;> cases hnot

theorem rejectHello_follows (a : Attempt) (error : ClientError) :
    Follows a { a with hello := a.hello.settle (.rejected error) } := by
  refine ⟨fun hc => ⟨fun hr => ?_, hc.connecting⟩, id, id, fun _ => id⟩
  rcases settle_eq_resolved hr with hr | hr
  · exact hc.hello hr
  · cases hr

end Attempt

namespace Call

/-- The identifier `sendCorrelated` drew for the call. -/
def drawn (call : Call) : Option CorrelationId :=
  match call.kind with
  | .send correlation => if correlation = 0 then none else some correlation
  | _ => none

/-- The frame of the call carries an identifier of its own. -/
def correlated (call : Call) : Bool := call.kind ≠ .send 0

/-- The call has not been given a transport yet. -/
def unbound (call : Call) : Bool :=
  match call.phase with
  | .notCalled | .waitingReady _ | .readyForRestore | .waitingSlot _ => true
  | .requesting _ _ | .sending _ _ | .finished _ => false

/-- The call draws no identifier, and is not called a second time. -/
structure Stays (call call' : Call) : Prop where
  drawn : call'.drawn = none ∨ call'.drawn = call.drawn ∧ call'.calledIn = call.calledIn
  correlated : call.phase ≠ .notCalled → call'.correlated = call.correlated
  called : call.phase ≠ .notCalled → call'.phase ≠ .notCalled
  unbound : call'.unbound = true → call.unbound = true
  kind : call.phase ≠ .notCalled → call'.kind = call.kind
  signal : call.phase ≠ .notCalled →
    call'.signal = call.signal ∨ call.signal = some false ∧ call'.signal = some true
  request : call'.request = call.request ∨ call.phase = .notCalled ∧ call'.request = none

theorem Stays.refl (call : Call) : Stays call call :=
  ⟨Or.inr ⟨rfl, rfl⟩, fun _ => rfl, id, id, fun _ => rfl, fun _ => Or.inl rfl, Or.inl rfl⟩

theorem Stays.trans {call call' call'' : Call} (h : Stays call call') (h' : Stays call' call'') :
    Stays call call'' where
  drawn := by
    rcases h'.drawn with hnone | ⟨hd, hin⟩
    · exact Or.inl hnone
    · rw [hd, hin]
      exact h.drawn
  correlated := fun hp => (h'.correlated (h.called hp)).trans (h.correlated hp)
  called := fun hp => h'.called (h.called hp)
  unbound := fun hu => h.unbound (h'.unbound hu)
  kind := fun hp => (h'.kind (h.called hp)).trans (h.kind hp)
  signal := fun hp => by
    rcases h.signal hp with hsame | ⟨hlive, hfired⟩
    · exact hsame ▸ h'.signal (h.called hp)
    · refine Or.inr ⟨hlive, ?_⟩
      rcases h'.signal (h.called hp) with hsame | ⟨hlive', -⟩
      · exact hsame.trans hfired
      · rw [hfired] at hlive'
        cases hlive'
  request := by
    rcases h'.request with hsame | ⟨hphase, hnone⟩
    · exact hsame ▸ h.request
    · by_cases hp : call.phase = .notCalled
      · exact Or.inr ⟨hp, hnone⟩
      · exact absurd hphase (h.called hp)

/-- A call that moves on. -/
theorem stays_of_phase {call call' : Call} (hkind : call'.kind = call.kind)
    (hin : call'.calledIn = call.calledIn) (hsignal : call'.signal = call.signal)
    (hcalled : call'.phase ≠ .notCalled) (hunbound : call'.unbound = true → call.unbound = true)
    (hrequest : call'.request = call.request) : Stays call call' := by
  refine ⟨Or.inr ⟨?_, hin⟩, fun _ => ?_, fun _ => hcalled, hunbound, fun _ => hkind,
    fun _ => Or.inl hsignal, Or.inl hrequest⟩
  · unfold Call.drawn
    rw [hkind]
  · unfold Call.correlated
    rw [hkind]

end Call

namespace Connection

/-! ### What has been written -/

/-- The frame of call `i` has been handed to a transport. -/
def wrote (c : Connection) (i : CallId) : Bool :=
  c.written.any fun w =>
    match w.frame with
    | .message j _ => j = i
    | _ => false

/-- What `wrote` searches for. -/
theorem any_message_iff {ws : List Write} {i : CallId} :
    (ws.any fun w => match w.frame with | .message j _ => j = i | _ => false) = true ↔
      ∃ w ∈ ws, ∃ id, w.frame = .message i id := by
  rw [List.any_eq_true]
  refine exists_congr fun w => and_congr_right fun _ => ?_
  split
  · rename_i j id hframe
    rw [hframe]
    constructor
    · intro hj
      obtain rfl := of_decide_eq_true hj
      exact ⟨id, rfl⟩
    · rintro ⟨id', heq⟩
      exact decide_eq_true (OutboundFrame.message.inj heq).1
  · rename_i hframe
    constructor
    · intro h
      cases h
    · rintro ⟨id, heq⟩
      exact absurd heq (hframe i id)

theorem wrote_iff : c.wrote i = true ↔ ∃ w ∈ c.written, ∃ id, w.frame = .message i id :=
  any_message_iff

/-- The frame that holds the write lock has been handed to its transport, and so has each
frame whose promise has settled. -/
structure Flushed (c : Connection) : Prop where
  writing : ∀ {w}, c.writing = some w → w ∈ c.written
  outcome : ∀ {i}, (c.calls i).sendOutcome ≠ .pending → c.wrote i = true

theorem flushed_create (options : ConnectionOptions) : (create options).Flushed :=
  ⟨fun h => (nomatch h), fun h => absurd rfl h⟩

/-- More has been written, and no promise of a call has settled. -/
theorem Flushed.of_written (h : c.Flushed) (hwritten : ∀ w ∈ c.written, w ∈ c'.written)
    (hwriting : ∀ {w}, c'.writing = some w → c.writing = some w ∨ w ∈ c'.written)
    (hcalls : ∀ {i}, (c'.calls i).sendOutcome ≠ .pending → (c.calls i).sendOutcome ≠ .pending) :
    c'.Flushed := by
  refine ⟨fun {w} hw => ?_, fun {i} hi => ?_⟩
  · exact (hwriting hw).elim (fun hold => hwritten _ (h.writing hold)) id
  · obtain ⟨w, hw, hframe⟩ := wrote_iff.mp (h.outcome (hcalls hi))
    exact wrote_iff.mpr ⟨w, hwritten w hw, hframe⟩

/-- The calls and the frames are the same, and the write lock is kept or given up. -/
theorem Flushed.of_fields (h : c.Flushed) (hcalls : c'.calls = c.calls)
    (hwritten : c'.written = c.written) (hwriting : c'.writing = c.writing ∨ c'.writing = none) :
    c'.Flushed := by
  refine h.of_written (fun w hw => hwritten ▸ hw) (fun {w} hw => ?_) fun hi => hcalls ▸ hi
  rcases hwriting with heq | heq
  · exact Or.inl (heq ▸ hw)
  · rw [heq] at hw
    cases hw

/-! ### Steps that write nothing -/

/-- Nothing is written, and nothing is put on the write chain. -/
structure Calm (c c' : Connection) : Prop where
  calls : ∀ i, (c.calls i).Stays (c'.calls i)
  writeChain : c'.writeChain = c.writeChain
  written : c'.written = c.written
  attempts : ∀ t, (c.attempts t).Follows (c'.attempts t)
  flushed : c.Flushed → c'.Flushed

/-- Moreover no identifier is drawn, and no session and no heartbeat begins. -/
structure Still (c c' : Connection) : Prop extends Calm c c' where
  nextCorrelationId : c'.multiplexer.nextCorrelationId = c.multiplexer.nextCorrelationId
  sessions : c'.sessions = c.sessions
  heartbeatTransport : ∀ {t}, c'.heartbeatTransport = some t → c.heartbeatTransport = some t

theorem Calm.refl (c : Connection) : Calm c c := ⟨fun _ => .refl _, rfl, rfl, fun _ => .refl _, id⟩

theorem Calm.trans (h : Calm c c') (h' : Calm c' c'') : Calm c c'' :=
  ⟨fun i => (h.calls i).trans (h'.calls i), h'.writeChain.trans h.writeChain,
    h'.written.trans h.written, fun t => (h.attempts t).trans (h'.attempts t),
    fun hf => h'.flushed (h.flushed hf)⟩

theorem Still.refl (c : Connection) : Still c c := ⟨.refl c, rfl, rfl, id⟩

theorem Still.trans (h : Still c c') (h' : Still c' c'') : Still c c'' :=
  ⟨h.toCalm.trans h'.toCalm, h'.nextCorrelationId.trans h.nextCorrelationId,
    h'.sessions.trans h.sessions, fun ht => h.heartbeatTransport (h'.heartbeatTransport ht)⟩

/-- Only other variables and the attempts change. -/
theorem still_of_attempts (hcalls : c'.calls = c.calls) (hchain : c'.writeChain = c.writeChain)
    (hwritten : c'.written = c.written)
    (hnext : c'.multiplexer.nextCorrelationId = c.multiplexer.nextCorrelationId)
    (hsessions : c'.sessions = c.sessions)
    (hheartbeat : c'.heartbeatTransport = c.heartbeatTransport ∨ c'.heartbeatTransport = none)
    (hattempts : ∀ t, (c.attempts t).Follows (c'.attempts t))
    (hwriting : c'.writing = c.writing) : Still c c' := by
  refine ⟨⟨fun i => ?_, hchain, hwritten, hattempts,
    fun hf => hf.of_fields hcalls hwritten (Or.inl hwriting)⟩, hnext, hsessions, fun {t} ht => ?_⟩
  · rw [hcalls]
    exact .refl _
  · rcases hheartbeat with heq | heq
    · exact heq ▸ ht
    · rw [heq] at ht
      cases ht

/-- Only other variables change. -/
theorem still_of_fields (hcalls : c'.calls = c.calls) (hchain : c'.writeChain = c.writeChain)
    (hwritten : c'.written = c.written)
    (hnext : c'.multiplexer.nextCorrelationId = c.multiplexer.nextCorrelationId)
    (hsessions : c'.sessions = c.sessions)
    (hheartbeat : c'.heartbeatTransport = c.heartbeatTransport ∨ c'.heartbeatTransport = none)
    (hattempts : c'.attempts = c.attempts) (hwriting : c'.writing = c.writing) : Still c c' := by
  refine still_of_attempts hcalls hchain hwritten hnext hsessions hheartbeat (fun t => ?_) hwriting
  rw [hattempts]
  exact .refl _

/-- An attempt in a table that is updated. -/
theorem follows_update {f : TransportId → Attempt} (h : (f t).Follows a) (t' : TransportId) :
    (f t').Follows (Function.update f t a t') := by
  by_cases ht : t' = t
  · subst ht
    rw [Function.update_self]
    exact h
  · rw [Function.update_of_ne ht]
    exact .refl _

/-- One attempt changes, and writes nothing by it. -/
theorem still_modifyAttempt {f : Attempt → Attempt}
    (hf : (c.attempts t).Follows (f (c.attempts t))) : Still c (c.modifyAttempt t f) :=
  still_of_attempts rfl rfl rfl rfl rfl (Or.inl rfl) (follows_update hf) rfl

/-- A call is changed. What it sends has not been answered for, unless it was before or its
frame is written. -/
theorem still_modifyCall {f : Call → Call} (hf : (c.calls i).Stays (f (c.calls i)))
    (hsent : c.Flushed → (f (c.calls i)).sendOutcome ≠ .pending → c.wrote i = true) :
    Still c (c.modifyCall i f) := by
  have cases : ∀ j, (c.modifyCall i f).calls j = c.calls j ∨
      j = i ∧ (c.modifyCall i f).calls j = f (c.calls i) := by
    intro j
    by_cases hj : j = i
    · subst hj
      exact Or.inr ⟨rfl, Function.update_self ..⟩
    · exact Or.inl (Function.update_of_ne hj ..)
  refine ⟨⟨fun j => ?_, rfl, rfl, fun _ => .refl _,
      fun hflushed => ⟨hflushed.writing, fun {j} hj => ?_⟩⟩,
    rfl, rfl, id⟩
  · rcases cases j with heq | ⟨rfl, heq⟩
    · rw [heq]
      exact .refl _
    · rw [heq]
      exact hf
  · rcases cases j with heq | ⟨rfl, heq⟩
    · exact hflushed.outcome (heq ▸ hj)
    · exact hsent hflushed (heq ▸ hj)

/-- The multiplexer takes a step that draws nothing. -/
theorem still_of_multiplexer {m : Multiplexer} (h : c.multiplexer.WellFormed)
    {e : Multiplexer.Event} (hs : c.multiplexer.step e = some m)
    (hd : Multiplexer.DrawsNothing e) : Still c { c with multiplexer := m } :=
  still_of_fields rfl rfl rfl (Multiplexer.step_nextCorrelationId h hs hd) rfl (Or.inl rfl) rfl rfl

/-! ### The attempts -/

theorem setState_still (c : Connection) (s : ConnectionState) : Still c (c.setState s) :=
  still_of_fields rfl rfl rfl rfl rfl (Or.inl rfl) rfl rfl

theorem settleAuth_still (c : Connection) (d : Deferred) : Still c (c.settleAuth d) := by
  unfold settleAuth
  split
  · exact .refl c
  · exact still_modifyAttempt (Attempt.settle_follows _ d)

theorem finishAuth_still (c : Connection) (d : Deferred) : Still c (c.finishAuth d) :=
  (settleAuth_still c d).trans (still_of_fields rfl rfl rfl rfl rfl (Or.inl rfl) rfl rfl)

theorem disconnectMultiplexer_still (c : Connection) : Still c c.disconnectMultiplexer :=
  still_of_fields rfl rfl rfl (Multiplexer.setDisconnected_disconnects _).nextCorrelationId rfl
    (Or.inl rfl) rfl rfl

theorem catchFailure_still (c : Connection) (t : TransportId) (error : ClientError) :
    Still c (c.catchFailure t error) := by
  refine still_of_attempts rfl rfl rfl rfl rfl (Or.inr rfl) (fun t' => ?_) rfl
  rw [catchFailure_attempts]
  refine follows_update ?_ t'
  exact Attempt.follows_of_fields rfl rfl rfl (by simp)

theorem settleFailure_still (c : Connection) (rejectedAuth : Bool) :
    Still c (c.settleFailure rejectedAuth) := by
  unfold settleFailure
  dsimp only
  split
  · exact .refl c
  · split
    · exact setState_still c _
    · have hemit : Still c.disconnectMultiplexer c.disconnectMultiplexer.emitDisconnect :=
        still_of_fields rfl rfl rfl rfl rfl (Or.inl rfl) rfl rfl
      exact ((disconnectMultiplexer_still c).trans hemit).trans (setState_still _ _)

/-- An attempt that fails writes nothing on its way out. -/
theorem rethrowFailure_still (c : Connection) (t : TransportId) (error : ClientError)
    (unconfirmed wasRestore : Bool) :
    Still c (c.rethrowFailure t error unconfirmed wasRestore) := by
  unfold rethrowFailure
  extract_lets failure rejectedAuth c₁
  have hvars : Still c c₁ := still_of_fields rfl rfl rfl rfl rfl (Or.inl rfl) rfl rfl
  refine (hvars.trans (settleFailure_still c₁ rejectedAuth)).trans (still_modifyAttempt ?_)
  exact Attempt.follows_of_fields rfl rfl rfl (by simp)

/-- The attempt begins to wait for HELLO; CONNECT has not been written. -/
theorem transportConnected_still (hphase : (c.attempts t).phase = .connecting) :
    Still c (c.transportConnected t) := by
  unfold transportConnected
  split
  · exact catchFailure_still c t _
  · split
    · exact catchFailure_still c t _
    · extract_lets c₁ c₂
      have hauth : Still c c₂ := by
        refine still_of_attempts rfl rfl rfl rfl rfl (Or.inl rfl) (fun t' => ?_) rfl
        change (c.attempts t').Follows (Function.update c.attempts t _ t')
        refine follows_update ?_ t'
        exact Attempt.follows_of_fields rfl rfl rfl id
      split
      · exact hauth.trans (catchFailure_still c₂ t _)
      · refine hauth.trans (still_modifyAttempt ?_)
        have hphase₂ : (c₂.attempts t).phase = .connecting := by
          change (Function.update c.attempts t _ t).phase = _
          rw [Function.update_self]
          exact hphase
        refine ⟨fun hc => ⟨fun hr => ?_, fun hp => by cases hp⟩, fun hw => ?_, id, fun hc hp => ?_⟩
        · have hsent := (hc.hello hr).1
          rw [hc.connecting hphase₂] at hsent
          cases hsent
        · rcases hw with hw | hw <;> cases hw
        · exact absurd (hc.connecting hphase₂) hp.1

/-- `handleConnectionLoss` and what it starts. -/
theorem runLoopHead_still (c : Connection) (n : Nat) : Still c (c.runLoopHead n) := by
  unfold runLoopHead
  split
  · exact still_of_fields rfl rfl rfl rfl rfl (Or.inl rfl) rfl rfl
  · split <;> exact still_of_fields rfl rfl rfl rfl rfl (Or.inl rfl) rfl rfl

theorem reconnectAttempted_still (c : Connection) (n : Nat) (failure : Option ClientError) :
    Still c (c.reconnectAttempted n failure) := by
  have loop : ∀ p, Still c { c with reconnectPromise := p } := fun _ =>
    still_of_fields rfl rfl rfl rfl rfl (Or.inl rfl) rfl rfl
  cases failure with
  | none => exact loop _
  | some error =>
      change Still c (c.reconnectFailed n error)
      unfold reconnectFailed
      split
      · exact loop _
      · split
        · exact still_of_fields rfl rfl rfl rfl rfl (Or.inl rfl) rfl rfl
        · split
          · exact still_of_fields rfl rfl rfl rfl rfl (Or.inl rfl) rfl rfl
          · exact runLoopHead_still c n

theorem afterLoss_still (c : Connection) : Still c c.afterLoss := by
  unfold afterLoss
  split
  · exact setState_still c _
  · extract_lets c₁
    have hstate : Still c c₁ := still_of_fields rfl rfl rfl rfl rfl (Or.inl rfl) rfl rfl
    split
    · exact hstate.trans (runLoopHead_still c₁ 0)
    · exact hstate

/-- A lost connection writes nothing; its session stays in the list. -/
theorem loseConnection_still (c : Connection) (error : ClientError) :
    Still c (c.loseConnection error) := by
  unfold loseConnection
  extract_lets c₁ inferredAuthFailure c₂ c₃ failure
  have hvars : Still c c₃ := still_of_fields rfl rfl rfl
    (Multiplexer.setDisconnected_disconnects _).nextCorrelationId rfl (Or.inr rfl) rfl rfl
  have hfail : Still c₃ (c₃.failHandshake failure) := by
    unfold failHandshake
    split
    · exact settleAuth_still c₃ _
    · exact .refl c₃
  exact (hvars.trans hfail).trans (afterLoss_still _)

theorem handleConnectionLoss_still (c : Connection) (error : ClientError) (t : TransportId) :
    Still c (c.handleConnectionLoss error t) := by
  unfold handleConnectionLoss
  extract_lets c₁
  have hmark : Still c c₁ := still_modifyAttempt (Attempt.follows_of_fields rfl rfl rfl id)
  split
  · exact hmark
  · refine (hmark.trans ?_).trans (still_of_fields (c := c₁.handleConnectionLossOnce error t)
      rfl rfl rfl rfl rfl (Or.inl rfl) rfl rfl)
    unfold handleConnectionLossOnce
    split
    · exact loseConnection_still c₁ error
    · exact .refl c₁

/-- `close` writes nothing. -/
theorem tearDown_still (c : Connection) : Still c c.tearDown := by
  unfold tearDown
  extract_lets c₁ c₂ c₃
  have hclosed : Still c c₂ := still_of_fields rfl rfl rfl rfl rfl (Or.inr rfl) rfl rfl
  have hdown : Still c₂ c₃ := by
    have hemit : Still (c₂.finishAuth (.rejected closedDuringConnectError)).disconnectMultiplexer
        c₃ := still_of_fields rfl rfl rfl rfl rfl (Or.inl rfl) rfl rfl
    exact ((finishAuth_still c₂ _).trans (disconnectMultiplexer_still _)).trans hemit
  split
  · exact hclosed.trans hdown
  · have hnone : Still c₃ { c₃ with transport := none } :=
      still_of_fields rfl rfl rfl rfl rfl (Or.inl rfl) rfl rfl
    exact ((hclosed.trans hdown).trans hnone).trans
      (still_modifyAttempt (Attempt.follows_of_fields rfl rfl rfl id))

theorem close_still (c : Connection) : Still c c.close := by
  unfold close
  split
  · exact .refl c
  · extract_lets c₁
    have hmemo : Still c c₁ := still_of_fields rfl rfl rfl rfl rfl (Or.inl rfl) rfl rfl
    split
    · exact hmemo
    · exact hmemo.trans (tearDown_still c₁)

/-! ### The receive loop -/

/-- An inbound frame is handled without a write: what it settles goes on in later steps. -/
theorem handleFrame_still (h : c.multiplexer.WellFormed) {frame : InboundFrame}
    {error : Option ClientError} (hf : c.handleFrame frame = some (c', error)) : Still c c' := by
  have idle : ∀ {error'}, some (c, error') = some (c', error) → Still c c' := by
    intro error' he
    obtain ⟨rfl, -⟩ := Prod.mk.inj (Option.some.inj he)
    exact .refl c
  cases frame with
  | badExtensions => exact idle hf
  | hello correlation flags body =>
      unfold handleFrame at hf
      dsimp only at hf
      split at hf
      · obtain ⟨rfl, -⟩ := Prod.mk.inj (Option.some.inj hf)
        unfold acceptHello
        extract_lets maxMessageBytes c₁ c₂ c₃
        have hvars : Still c c₃ := still_of_fields rfl rfl rfl rfl rfl (Or.inl rfl) rfl rfl
        exact hvars.trans (settleAuth_still c₃ _)
      · exact idle hf
  | connectRejected correlation body =>
      unfold handleFrame at hf
      dsimp only at hf
      split at hf
      · exact idle hf
      · split at hf
        · rename_i code message
          obtain ⟨rfl, -⟩ := Prod.mk.inj (Option.some.inj hf)
          have hvars : Still c { c with authRejected := code = 1 || c.authRejected } :=
            still_of_fields rfl rfl rfl rfl rfl (Or.inl rfl) rfl rfl
          exact hvars.trans (settleAuth_still _ _)
        · exact idle hf
  | goAway correlation body =>
      unfold handleFrame at hf
      dsimp only at hf
      split at hf
      · exact idle hf
      · split at hf <;> exact idle hf
  -- the multiplexer settles the request or hands the frame to its handlers
  | message messageType payload correlation responseFinal =>
      unfold handleFrame at hf
      dsimp only at hf
      split at hf
      · rename_i m hdispatch
        obtain ⟨rfl, -⟩ := Prod.mk.inj (Option.some.inj hf)
        have hstep : c.multiplexer.step (.dispatch messageType payload
            (if correlation = 0 then none else some correlation) responseFinal) = some m := by
          simp [Multiplexer.step, hdispatch]
        exact still_of_multiplexer h hstep trivial
      · exact idle hf
      · cases hf

/-- The frames of a chunk are handled one after the other, until one of them fails. -/
theorem handleFrames_still (h : c.multiplexer.WellFormed) {frames : List InboundFrame}
    {error : Option ClientError} (hf : c.handleFrames frames = some (c', error)) : Still c c' := by
  induction frames generalizing c with
  | nil =>
      obtain ⟨rfl, -⟩ := Prod.mk.inj (Option.some.inj hf)
      exact .refl c
  | cons frame frames ih =>
      unfold handleFrames at hf
      split at hf
      · rename_i c₁ hframe
        exact (handleFrame_still h hframe).trans
          (ih (handleFrame_handles h hframe).multiplexer.wellFormed hf)
      · exact handleFrame_still h hf

theorem endReceiveLoop_still (c : Connection) (t : TransportId) : Still c (c.endReceiveLoop t) :=
  still_modifyAttempt (Attempt.follows_of_fields rfl rfl rfl id)

theorem receiveFailed_still (c : Connection) (t : TransportId) (error : ClientError) :
    Still c (c.receiveFailed t error) := by
  unfold receiveFailed
  split
  · exact endReceiveLoop_still c t
  · exact (handleConnectionLoss_still c error t).trans (endReceiveLoop_still _ t)

theorem received_still (h : c.multiplexer.WellFormed)
    {parsed : Except ClientError (List InboundFrame × Bool)}
    (hs : c.received t parsed = some c') : Still c c' := by
  unfold received at hs
  split at hs
  · cases hs
    exact endReceiveLoop_still c t
  · split at hs
    · rename_i frames pending
      have hbegin : Still c (c.beginChunk t frames pending) := by
        unfold beginChunk confirmSession
        dsimp only
        split
        · exact still_of_fields rfl rfl rfl rfl rfl (Or.inl rfl) rfl rfl
        · split <;> exact still_of_fields rfl rfl rfl rfl rfl (Or.inl rfl) rfl rfl
      have hm : (c.beginChunk t frames pending).multiplexer.WellFormed := by
        unfold beginChunk confirmSession
        dsimp only
        split
        · exact h
        · split <;> exact h
      unfold chunkReceived at hs
      split at hs
      · rename_i c₁ hframes
        cases hs
        refine (hbegin.trans (handleFrames_still hm hframes)).trans ?_
        unfold continueReceiveLoop
        split
        · exact .refl c₁
        · exact endReceiveLoop_still c₁ t
      · rename_i c₁ error hframes
        cases hs
        exact (hbegin.trans (handleFrames_still hm hframes)).trans (receiveFailed_still c₁ t error)
      · cases hs
    · cases hs
      exact receiveFailed_still c t _

/-- The send of a heartbeat has settled; if it has failed, the connection is lost. -/
theorem heartbeatSettled_still (c : Connection) (t : TransportId) (active : Bool) :
    Still c (c.heartbeatSettled t active) := by
  have vars : ∀ {c' : Connection}, c'.calls = c.calls → c'.writeChain = c.writeChain →
      c'.written = c.written → c'.multiplexer = c.multiplexer → c'.sessions = c.sessions →
      c'.heartbeatTransport = c.heartbeatTransport → c'.attempts = c.attempts →
      c'.writing = c.writing → Still c c' :=
    fun h₁ h₂ h₃ h₄ h₅ h₆ h₇ h₈ =>
      still_of_fields h₁ h₂ h₃ (by rw [h₄]) h₅ (Or.inl h₆) h₇ h₈
  unfold heartbeatSettled
  dsimp only
  split
  · exact vars rfl rfl rfl rfl rfl rfl rfl rfl
  · split
    · split
      · exact vars rfl rfl rfl rfl rfl rfl rfl rfl
      · -- a failed heartbeat closes its transport before the loss is handled
        refine Still.trans ?_ (handleConnectionLoss_still _ _ _)
        unfold callClose
        refine Still.trans ?_ (still_modifyAttempt (Attempt.follows_of_fields rfl rfl rfl id))
        exact vars rfl rfl rfl rfl rfl rfl rfl rfl
    · exact vars rfl rfl rfl rfl rfl rfl rfl rfl

/-- Of the steps of the receive side only the tick of the heartbeat queues a frame. -/
theorem receiveStep_still (h : c.multiplexer.WellFormed) {e : Event} (he : e ≠ .heartbeatTick)
    (hs : c.receiveStep e = some c') : Still c c' := by
  cases e with
  | receive t outcome =>
      simp only [receiveStep] at hs
      split at hs
      · cases outcome with
        | error error =>
            cases hs
            exact receiveFailed_still c t error
        | ok parsed => exact received_still h hs
      · cases hs
  | partialFrameTimer =>
      obtain ⟨t, -, rfl⟩ := Option.map_eq_some_iff.mp hs
      unfold partialFrameTimer
      extract_lets c₁
      have hclear : Still c c₁ := still_of_fields rfl rfl rfl rfl rfl (Or.inl rfl) rfl rfl
      split
      · exact hclear
      · have hclose : Still c₁ (c₁.callClose t) :=
          still_modifyAttempt (Attempt.follows_of_fields rfl rfl rfl id)
        exact (hclear.trans hclose).trans
          (still_modifyAttempt (Attempt.follows_of_fields rfl rfl rfl id))
  | partialFrameClosed t =>
      simp only [receiveStep] at hs
      split at hs
      · cases hs
        have hclear :
            Still c (c.modifyAttempt t fun a => { a with failingPartialFrame := false }) :=
          still_modifyAttempt (Attempt.follows_of_fields rfl rfl rfl id)
        exact hclear.trans (handleConnectionLoss_still _ _ t)
      · cases hs
  | heartbeatTick => exact absurd rfl he
  | heartbeatSettled t active =>
      simp only [receiveStep] at hs
      split at hs
      · cases hs
      · cases hs
        exact heartbeatSettled_still c t active
  | connectionLossSettled =>
      simp only [receiveStep] at hs
      split at hs
      · cases hs
        exact still_of_fields rfl rfl rfl rfl rfl (Or.inl rfl) rfl rfl
      · cases hs
  | _ => cases hs

/-! ### The calls -/

/-- A call moves on, and nothing else. -/
theorem still_phase {f : Call → Call} (hkind : (f (c.calls i)).kind = (c.calls i).kind)
    (hin : (f (c.calls i)).calledIn = (c.calls i).calledIn)
    (hsignal : (f (c.calls i)).signal = (c.calls i).signal)
    (hcalled : (f (c.calls i)).phase ≠ .notCalled)
    (hunbound : (f (c.calls i)).unbound = true → (c.calls i).unbound = true)
    (hrequest : (f (c.calls i)).request = (c.calls i).request)
    (houtcome : (f (c.calls i)).sendOutcome = (c.calls i).sendOutcome) :
    Still c (c.modifyCall i f) :=
  still_modifyCall (Call.stays_of_phase hkind hin hsignal hcalled hunbound hrequest)
    fun hflushed hsent => hflushed.outcome (houtcome ▸ hsent)

theorem finishCall_still (c : Connection) (i : CallId) (failure : Option ClientError) :
    Still c (c.finishCall i failure) :=
  still_phase rfl rfl rfl (by simp) (by simp [Call.unbound]) rfl rfl

/-- A call is made that draws no identifier. -/
theorem startCall_still (hphase : (c.calls i).phase = .notCalled) {kind : CallKind}
    (hkind : ∀ id, kind = .send id → id = 0) (messageType : MessageType) (frameLength : Nat)
    (signal : Option Bool) : Still c (c.startCall i kind messageType frameLength signal) := by
  refine still_modifyCall ⟨Or.inl ?_, fun hp => absurd hphase hp, fun hp => absurd hphase hp,
    fun _ => by simp [Call.unbound, hphase], fun hp => absurd hphase hp,
    fun hp => absurd hphase hp, Or.inr ⟨hphase, rfl⟩⟩ fun _ hsent => absurd rfl hsent
  unfold Call.drawn
  cases kind with
  | send id => simp [hkind id rfl]
  | _ => rfl

theorem acquireSlotAndWait_still (hunbound : (c.calls i).unbound = true) (aborted : Bool) :
    Still c (c.acquireSlotAndWait i aborted) := by
  unfold acquireSlotAndWait
  split
  · exact finishCall_still c i _
  · rename_i slot w _
    have hwait : Still c ({ c with readiness := w }.waitForReady i aborted) :=
      still_of_fields rfl rfl rfl rfl rfl (Or.inl rfl) rfl rfl
    exact hwait.trans (still_phase rfl rfl rfl (by simp) (fun _ => hunbound) rfl rfl)

/-- A call that asks for a slot has no transport yet. -/
theorem acquireRequestSlot_still (hunbound : (c.calls i).unbound = true) :
    Still c (c.acquireRequestSlot i) := by
  unfold acquireRequestSlot
  have hgate : Still c (c.modifyGate c.requestGate
      fun g => g.acquire i ((c.calls i).signal = some true)) :=
    still_of_fields rfl rfl rfl rfl rfl (Or.inl rfl) rfl rfl
  exact hgate.trans (still_phase rfl rfl rfl (by simp) (fun _ => hunbound) rfl rfl)

/-- A call that has found the connection ready goes on to the request gate. -/
theorem readyContinues_still (hs : c.readyContinues i = some c') : Still c c' := by
  have returned : ∀ slot failure, (c.calls i).phase = .waitingReady slot →
      Still c (c.waitReturned i slot failure) := by
    intro slot failure hphase
    -- the slot for the wait is given back before the request gate is asked
    have hunbound : (c.calls i).unbound = true := by simp [Call.unbound, hphase]
    unfold waitReturned
    extract_lets c₁
    have hcalls : c₁.calls = c.calls := by
      change (c.releaseReadyWaitSlot slot).calls = _
      cases slot <;> rfl
    have hrelease : Still c c₁ := by
      change Still c (c.releaseReadyWaitSlot slot)
      cases slot
      · exact .refl c
      · exact still_of_fields rfl rfl rfl rfl rfl (Or.inl rfl) rfl rfl
    have hacquire : Still c (c₁.acquireRequestSlot i) :=
      hrelease.trans (acquireRequestSlot_still (by rw [hcalls]; exact hunbound))
    have hfinish : ∀ failure, Still c (c₁.finishCall i failure) := fun failure =>
      hrelease.trans (finishCall_still c₁ i failure)
    split
    · exact hfinish _
    · split
      · exact hfinish _
      · exact hfinish _
      · split
        · exact hfinish _
        · exact hacquire
      · split
        · exact hfinish _
        · exact hacquire
  unfold readyContinues at hs
  split at hs
  · rename_i hphase
    cases hs
    exact acquireRequestSlot_still (by simp [Call.unbound, hphase])
  · rename_i slot hphase
    split at hs
    · cases hs
      exact returned slot _ hphase
    · cases hs
      exact returned slot _ hphase
    · cases hs
    · cases hs
  · cases hs

theorem releaseAndFinish_still (c : Connection) (i : CallId) (gate : GateId)
    (failure : Option ClientError) : Still c (c.releaseAndFinish i gate failure) := by
  have hgate : Still c (c.modifyGate gate .release) :=
    still_of_fields rfl rfl rfl rfl rfl (Or.inl rfl) rfl rfl
  exact hgate.trans (finishCall_still _ i failure)

theorem callSettles_still (hs : c.callSettles i = some c') : Still c c' := by
  unfold callSettles at hs
  split at hs
  · cases hs
    exact releaseAndFinish_still c i _ _
  · cases hs
    unfold callFailed
    refine Still.trans ?_ (releaseAndFinish_still _ i _ _)
    unfold handlePossibleTransportFailure
    split
    · exact .refl c
    · split
      · exact handleConnectionLoss_still c _ _
      · exact .refl c
  · cases hs

/-- The multiplexer is told how the send ended; it has drawn its identifier before. -/
theorem sendSettles_still (h : c.multiplexer.WellFormed) (hs : c.sendSettles i = some c') :
    Still c c' := by
  unfold sendSettles at hs
  split at hs
  · rename_i r _
    split at hs
    · rename_i hpending
      split at hs
      · cases hs
        exact still_of_multiplexer h (e := .sendResolved r) (if_pos hpending) trivial
      · rename_i error _
        cases hs
        exact still_of_multiplexer h (e := .sendRejected r error) (if_pos hpending) trivial
      · cases hs
    · cases hs
  · cases hs

/-- A signal takes its call out of the gate, the waiters or the multiplexer. -/
theorem abortCall_still (h : c.multiplexer.WellFormed) (hs : c.abortCall i = some c') :
    Still c c' := by
  unfold abortCall at hs
  split at hs
  · rename_i hlive
    have hfires : (c.calls i).Stays { c.calls i with signal := some true } :=
      ⟨Or.inr ⟨rfl, rfl⟩, fun _ => rfl, id, id, fun _ => rfl, fun _ => Or.inr ⟨hlive, rfl⟩,
        Or.inl rfl⟩
    have hmark : Still c (c.modifyCall i fun call => { call with signal := some true }) :=
      still_modifyCall hfires fun hflushed hsent => hflushed.outcome hsent
    dsimp only at hs
    split at hs
    · cases hs
      exact hmark.trans (still_of_fields rfl rfl rfl rfl rfl (Or.inl rfl) rfl rfl)
    · cases hs
      exact hmark.trans (still_of_fields rfl rfl rfl rfl rfl (Or.inl rfl) rfl rfl)
    · rename_i r _ _
      cases hs
      refine hmark.trans (still_of_fields rfl rfl rfl ?_ rfl (Or.inl rfl) rfl rfl)
      change ((c.multiplexer.step (.abort r)).getD c.multiplexer).nextCorrelationId = _
      cases hstep : c.multiplexer.step (.abort r) with
      | none => rfl
      | some m => exact Multiplexer.step_nextCorrelationId h hstep trivial
    · cases hs
      exact hmark
  · cases hs

/-- The frame that held the write lock has been written when it began. -/
theorem writeEnds_still {failure : Option ClientError} (hs : c.writeEnds failure = some c') :
    Still c c' := by
  have frees : ∀ c₁ : Connection, Still c₁ { c₁ with writing := none } := fun _ =>
    ⟨⟨fun _ => .refl _, rfl, rfl, fun _ => .refl _, fun hf => hf.of_fields rfl rfl (Or.inr rfl)⟩,
      rfl, rfl, id⟩
  unfold writeEnds at hs
  split at hs
  · cases hs
  · rename_i w hwriting
    dsimp only at hs
    split at hs
    · rename_i i id hframe
      cases hs
      have hcall : ∀ outcome, (c.calls i).Stays
          { c.calls i with sendOutcome := (c.calls i).sendOutcome.settle outcome } := fun _ =>
        ⟨Or.inr ⟨rfl, rfl⟩, fun _ => rfl, fun h => h, fun h => h, fun _ => rfl, fun _ => Or.inl rfl,
          Or.inl rfl⟩
      -- the promise of a send settles once its frame is written
      have hsettles : ∀ outcome, Still c (c.modifyCall i fun call =>
          { call with sendOutcome := call.sendOutcome.settle outcome }) := fun outcome =>
        still_modifyCall (hcall outcome) fun hflushed _ =>
          wrote_iff.mpr ⟨w, hflushed.writing hwriting, id, hframe⟩
      exact (hsettles _).trans (frees _)
    · cases hs
      exact (frees c).trans (still_of_fields rfl rfl rfl rfl rfl (Or.inl rfl) rfl rfl)
    · cases hs
      exact frees c

/-- A registration draws nothing. -/
theorem drawsNothing_of_isRegistration {e : Multiplexer.Event} (h : isRegistration e = true) :
    Multiplexer.DrawsNothing e := by
  cases e <;> simp [isRegistration] at h <;> trivial

/-! ### Steps that write -/

/-- The frames and the identifiers apart, what a step that writes leaves alone. -/
structure OnlyWrites (c c' : Connection) : Prop where
  control : c'.toControl = c.toControl
  multiplexer : c'.multiplexer = c.multiplexer
  calls : c'.calls = c.calls
  heartbeatTransport : c'.heartbeatTransport = c.heartbeatTransport

/-- What a step does to the frames. -/
inductive Posts (c : Connection) : Event → Connection → Prop
  | still (e : Event) {c' : Connection} (still : Still c c') : Posts c e c'
  /-- A transport is opened: the handshake of its attempt is at its beginning. -/
  | opens (e : Event) {c' : Connection} (calls : c'.calls = c.calls)
      (writeChain : c'.writeChain = c.writeChain) (written : c'.written = c.written)
      (nextCorrelationId : c'.multiplexer.nextCorrelationId = c.multiplexer.nextCorrelationId)
      (sessions : c'.sessions = c.sessions) (heartbeatTransport : c'.heartbeatTransport = none)
      (attempts : ∃ isReconnect signal, c'.attempts =
        Function.update c.attempts c.opened { phase := .connecting, isReconnect, signal })
      (writing : c'.writing = c.writing) : Posts c e c'
  /-- HELLO has come: the session of `t` begins, and perhaps its heartbeat. -/
  | begins {t : TransportId} {c' : Connection} (calm : Calm c c')
      (phase : (c.attempts t).phase = .negotiating) (hello : (c.attempts t).hello = .resolved)
      (nextCorrelationId : c'.multiplexer.nextCorrelationId = 1)
      (sessions : c'.sessions = t :: c.sessions)
      (heartbeatTransport : ∀ {t'}, c'.heartbeatTransport = some t' →
        t' = t ∨ c.heartbeatTransport = some t') : Posts c (.helloSettled t) c'
  /-- The restore is over: the heartbeat of `t` begins. -/
  | resumes {t : TransportId} {c' : Connection} (calm : Calm c c')
      (phase : (c.attempts t).phase = .restoring)
      (session : (c.attempts t).isReconnect = true →
        c'.multiplexer.nextCorrelationId = c.multiplexer.nextCorrelationId ∧
          c'.sessions = c.sessions)
      (heartbeatTransport : ∀ {t'}, c'.heartbeatTransport = some t' →
        t' = t ∨ c.heartbeatTransport = some t') : Posts c (.restored t) c'
  | connects {t : TransportId} {c' : Connection} (onlyWrites : OnlyWrites c c')
      (current : c.transport = some t) (sendConnect : (c.attempts t).sendConnect = .token)
      (writeChain : c'.writeChain = c.writeChain)
      (written : c'.written = ⟨t, .connect⟩ :: c.written)
      (attempts : c'.attempts = Function.update c.attempts t
        (Attempt.settleHello { c.attempts t with sendConnect := .sending }))
      (writing : c'.writing = c.writing) : Posts c (.token t none) c'
  | beats {t : TransportId} {c' : Connection} (onlyWrites : OnlyWrites c c')
      (current : c.heartbeatTransport = some t)
      (writeChain : c'.writeChain = c.writeChain ++ [⟨t, .heartbeat⟩])
      (written : c'.written = c.written) (attempts : c'.attempts = c.attempts)
      (writing : c'.writing = c.writing) : Posts c .heartbeatTick c'
  /-- `sendCorrelated` draws its identifier. -/
  | draws (e : Event) {i : CallId} {id : CorrelationId} {c' : Connection}
      (phase : (c.calls i).phase = .notCalled) (control : c'.toControl = c.toControl)
      (nonzero : id ≠ 0) (next : id = c.multiplexer.nextCorrelationId)
      (nextCorrelationId : c'.multiplexer.nextCorrelationId = 0 ∨
        c'.multiplexer.nextCorrelationId = id + 1)
      (drawn : (c'.calls i).drawn = some id) (calledIn : (c'.calls i).calledIn = c.sessions.length)
      (called : (c'.calls i).phase ≠ .notCalled) (others : ∀ j, j ≠ i → c'.calls j = c.calls j)
      (writeChain : c'.writeChain = c.writeChain) (written : c'.written = c.written)
      (attempts : c'.attempts = c.attempts)
      (heartbeatTransport : c'.heartbeatTransport = c.heartbeatTransport)
      (writing : c'.writing = c.writing) (sendOutcome : (c'.calls i).sendOutcome = .pending)
      (request : (c'.calls i).request = none) : Posts c e c'
  /-- A call is given the installed transport. -/
  | binds {i : CallId} {nowMs : Nat} {t : TransportId} {id : CorrelationId} {c' : Connection}
      (unbound : (c.calls i).unbound = true) (called : (c.calls i).phase ≠ .notCalled)
      (current : c.transport = some t) (control : c'.toControl = c.toControl)
      (identifier : (∃ correlation, (c.calls i).kind = .send correlation ∧ id = correlation) ∧
          c'.multiplexer.nextCorrelationId = c.multiplexer.nextCorrelationId ∨
        (∀ correlation, (c.calls i).kind ≠ .send correlation) ∧
          (c.multiplexer.correlationEnabled = true →
            id ≠ 0 ∧ id = c.multiplexer.nextCorrelationId ∧
              (c'.multiplexer.nextCorrelationId = 0 ∨
                c'.multiplexer.nextCorrelationId = id + 1)))
      (bound : (c'.calls i).unbound = false) (kind : (c'.calls i).kind = (c.calls i).kind)
      (calledIn : (c'.calls i).calledIn = (c.calls i).calledIn)
      (others : ∀ j, j ≠ i → c'.calls j = c.calls j)
      (writeChain : c'.writeChain = c.writeChain ++ [⟨t, .message i id⟩])
      (written : c'.written = c.written) (attempts : c'.attempts = c.attempts)
      (heartbeatTransport : c'.heartbeatTransport = c.heartbeatTransport)
      (signal : (c'.calls i).signal = (c.calls i).signal)
      (willing : (∀ correlation, (c.calls i).kind ≠ .send correlation) →
        (c.calls i).signal ≠ some true)
      (writing : c'.writing = c.writing)
      (sendOutcome : (c'.calls i).sendOutcome = (c.calls i).sendOutcome)
      (request : (c'.calls i).request = (c.calls i).request ∨
        (c'.calls i).request = some c.multiplexer.issued ∧
          c'.multiplexer.issued = c.multiplexer.issued + 1) :
      Posts c (.slotContinues i nowMs) c'
  | writes {w : Write} {rest : List Write} {c' : Connection} (onlyWrites : OnlyWrites c c')
      (next : c.writeChain = w :: rest) (writeChain : c'.writeChain = rest)
      (written : c'.written = w :: c.written) (attempts : c'.attempts = c.attempts)
      (writing : c'.writing = some w) : Posts c .writeBegins c'

/-! ### Any step -/

/-- `connect` opens a transport, or waits for what others are doing. -/
theorem connect_posts (hphase : (c.calls i).phase = .notCalled) (signal : Option Bool) :
    Posts c (.connect i signal) (c.connect i signal).2 := by
  unfold connect
  split
  · exact .still _ (.refl c)
  · split
    · exact .still _ (.refl c)
    · split
      · exact .still _ (.refl c)
      · split
        · exact .still _ (.refl c)
        · split
          · -- an attempt or the reconnect loop is at work, and the call waits for it
            have hparks : Still c
                (c.modifyCall i fun _ =>
                  { kind := .connect, signal, phase := .waitingReady false }) :=
              still_modifyCall ⟨Or.inl rfl, fun hp => absurd hphase hp, fun hp => absurd hphase hp,
                fun _ => by simp [Call.unbound, hphase], fun hp => absurd hphase hp,
                fun hp => absurd hphase hp, Or.inr ⟨hphase, rfl⟩⟩ fun _ hsent => absurd rfl hsent
            exact .still _ (hparks.trans
              (still_of_fields rfl rfl rfl rfl rfl (Or.inl rfl) rfl rfl))
          · exact .opens _ rfl rfl rfl rfl rfl rfl ⟨false, signal, rfl⟩ rfl

/-- `authenticated` is calm; only a first session begins with it. -/
theorem authenticated_calm (c : Connection) (t : TransportId) :
    Calm c (c.authenticated t) ∧
      (∀ {t'}, (c.authenticated t).heartbeatTransport = some t' →
        t' = t ∨ c.heartbeatTransport = some t') ∧
      ((c.attempts t).isReconnect = true →
        (c.authenticated t).multiplexer.nextCorrelationId = c.multiplexer.nextCorrelationId) ∧
      ((c.attempts t).isReconnect = false →
        (c.authenticated t).multiplexer.nextCorrelationId = 1) := by
  have hattempts := authenticated_attempts c t
  have hfields : (c.authenticated t).calls = c.calls ∧
      (c.authenticated t).writeChain = c.writeChain ∧ (c.authenticated t).written = c.written ∧
      ((c.authenticated t).heartbeatTransport = some t ∨
        (c.authenticated t).heartbeatTransport = c.heartbeatTransport) ∧
      (c.authenticated t).writing = c.writing := by
    unfold authenticated startHeartbeat connectMultiplexer
    cases hr : (c.attempts t).isReconnect <;> cases hh : c.options.heartbeatEnabled <;>
      simp [hr, hh, setState, notifyReadyListeners, modifyAttempt]
  obtain ⟨hcalls, hchain, hwritten, hheartbeat, hwriting⟩ := hfields
  refine ⟨⟨fun j => ?_, hchain, hwritten, fun t' => ?_,
    fun hf => hf.of_fields hcalls hwritten (Or.inl hwriting)⟩, fun {t'} ht => ?_, fun hr => ?_,
    fun hr => ?_⟩
  · rw [hcalls]
    exact .refl _
  · rw [hattempts]
    refine follows_update ?_ t'
    exact Attempt.follows_of_fields rfl rfl rfl (by simp)
  · rcases hheartbeat with heq | heq
    · exact Or.inl (Option.some.inj (ht.symm.trans heq))
    · exact Or.inr (heq ▸ ht)
  · rw [authenticated_multiplexer, if_pos hr]
  · rw [authenticated_multiplexer, if_neg (by simp [hr])]
    rfl

/-- A session begins with the HELLO, before its restore. -/
theorem HelloOutcome.posts (ho : HelloOutcome c t c') (hphase : (c.attempts t).phase = .negotiating)
    (hhello : (c.attempts t).hello = .resolved) : Posts c (.helloSettled t) c' := by
  have hfinish := finishAuth_still c .resolved
  cases ho with
  | failed error => exact .still _ (catchFailure_still c t error)
  -- a reconnect: the heartbeat waits until the entries are restored
  | restoring =>
      have hbegin : Calm (c.finishAuth .resolved) ((c.finishAuth .resolved).beginRestore t) := by
        refine ⟨fun _ => .refl _, rfl, rfl, fun t' => ?_,
          fun hf => hf.of_fields rfl rfl (Or.inl rfl)⟩
        rw [beginRestore_attempts]
        refine follows_update ?_ t'
        exact Attempt.follows_of_fields rfl rfl rfl (by simp)
      refine .begins (hfinish.toCalm.trans hbegin) hphase hhello rfl ?_ fun ht =>
        Or.inr (hfinish.heartbeatTransport ht)
      rw [beginRestore_control, finishAuth_control]
  | authenticated _ hr =>
      obtain ⟨hcalm, hheartbeat, -, hnext⟩ := authenticated_calm (c.finishAuth .resolved) t
      have hr' : ((c.finishAuth .resolved).attempts t).isReconnect = false :=
        (finishAuth_attempts c .resolved t).isReconnect.trans hr
      refine .begins (hfinish.toCalm.trans hcalm) hphase hhello (hnext hr') ?_ fun ht =>
        (hheartbeat ht).imp_right hfinish.heartbeatTransport
      rw [authenticated_control, if_neg (by simp [hr']), finishAuth_control]

/-- After the restore the heartbeat of the session begins. -/
theorem restored_posts (hphase : (c.attempts t).phase = .restoring) :
    Posts c (.restored t) (c.restored t) := by
  unfold restored
  extract_lets c₁
  have hvars : Still c c₁ := still_of_fields rfl rfl rfl rfl rfl (Or.inl rfl) rfl rfl
  split
  · exact .still _ (hvars.trans (catchFailure_still c₁ t _))
  · obtain ⟨hcalm, hheartbeat, hnext, -⟩ := authenticated_calm c₁ t
    refine .resumes (hvars.toCalm.trans hcalm) hphase (fun hr => ⟨hnext hr, ?_⟩) fun ht =>
      (hheartbeat ht).imp_right hvars.heartbeatTransport
    rw [authenticated_control]
    exact if_pos hr

theorem attemptStep_posts {e : Event} (hs : c.attemptStep t e = some c')
    (he : e = .transportConnect t none ∨ (∃ error, e = .transportConnect t (some error)) ∨
      e = .helloSettled t ∨ e = .restored t ∨ e = .attemptClosed t) : Posts c e c' := by
  rcases he with rfl | ⟨error, rfl⟩ | rfl | rfl | rfl
  · unfold attemptStep at hs
    dsimp only at hs
    split at hs
    · rename_i hphase
      cases hs
      exact .still _ (transportConnected_still hphase)
    · cases hs
  · unfold attemptStep at hs
    dsimp only at hs
    split at hs
    · cases hs
      exact .still _ (catchFailure_still c t error)
    · cases hs
  · unfold attemptStep at hs
    dsimp only at hs
    split at hs
    · rename_i hphase hhello
      cases hs
      exact (helloReceived_outcome c t).posts hphase hhello
    · cases hs
      exact .still _ (catchFailure_still c t _)
    · cases hs
  · unfold attemptStep at hs
    dsimp only at hs
    split at hs
    · rename_i hphase
      cases hs
      exact restored_posts hphase
    · cases hs
  · unfold attemptStep at hs
    dsimp only at hs
    split at hs
    · cases hs
      exact .still _ (rethrowFailure_still c t _ _ _)
    · cases hs

/-- CONNECT is written when its token has come, if the transport is still the current one. -/
theorem handshakeStep_posts {e : Event} (hs : c.handshakeStep t e = some c')
    (he : (∃ failure, e = .token t failure) ∨ (∃ failure, e = .connectSent t failure) ∨
      e = .helloTimeout t ∨ e = .abortAttempt t) : Posts c e c' := by
  have rejects : ∀ {c₁ : Connection} {error}, Still c₁ (c₁.rejectHello t error) := fun {_ error} =>
    still_modifyAttempt (Attempt.rejectHello_follows _ error)
  rcases he with ⟨failure, rfl⟩ | ⟨failure, rfl⟩ | rfl | rfl
  · unfold handshakeStep at hs
    dsimp only at hs
    split at hs
    · rename_i htoken
      cases hs
      have fails : ∀ error, Still c (c.setSendConnect t (.failed error)) := fun error =>
        still_modifyAttempt (Attempt.setSendConnect_follows (Or.inl htoken) (by simp) (by simp))
      cases failure with
      | some error => exact .still _ (fails error)
      | none =>
          change Posts c _ (c.tokenProvided t)
          unfold tokenProvided
          split
          · rename_i hcurrent
            exact .connects ⟨rfl, rfl, rfl, rfl⟩ hcurrent htoken rfl rfl rfl rfl
          · exact .still _ (fails _)
    · cases hs
  · unfold handshakeStep at hs
    dsimp only at hs
    -- the token may come when its attempt has been overtaken
    split at hs
    · rename_i hsending
      cases hs
      have moves : ∀ s, s ≠ .notCalled ∧ s ≠ .token → Still c (c.setSendConnect t s) := fun s hs =>
        still_modifyAttempt
          (Attempt.setSendConnect_follows (Or.inr hsending) (fun _ => Or.inl hsending) hs)
      cases failure <;> exact .still _ (moves _ (by simp))
    · cases hs
  · unfold handshakeStep at hs
    dsimp only at hs
    split at hs
    · cases hs
      exact .still _ rejects
    · cases hs
  · unfold handshakeStep at hs
    dsimp only at hs
    split at hs
    · cases hs
      have hmark : Still c (c.modifyAttempt t fun a => { a with signal := some true }) :=
        still_modifyAttempt (Attempt.follows_of_fields rfl rfl rfl id)
      split
      · exact .still _ (hmark.trans rejects)
      · exact .still _ hmark
    · cases hs

/-- The reconnect loop opens a transport when it wakes. -/
theorem reconnectStep_posts {e : Event} (hs : c.reconnectStep e = some c') : Posts c e c' := by
  have loop : ∀ {e p}, Posts c e { c with reconnectPromise := p } := fun {_ _} =>
    .still _ (still_of_fields rfl rfl rfl rfl rfl (Or.inl rfl) rfl rfl)
  unfold reconnectStep at hs
  split at hs
  · split at hs
    · cases hs
      unfold reconnectWake
      split
      · exact loop
      · exact .opens _ rfl rfl rfl rfl rfl rfl ⟨true, none, rfl⟩ rfl
    · cases hs
  · split at hs
    · split at hs
      · cases hs
        exact .still _ (reconnectAttempted_still c _ _)
      · cases hs
    · cases hs
  · split at hs
    · cases hs
      exact .still _ (still_of_fields rfl rfl rfl rfl rfl (Or.inl rfl) rfl rfl)
    · cases hs
  · split at hs
    · cases hs
      exact loop
    · cases hs
  · cases hs

/-- `acquireReadyWaitSlot` and `waitForReady` change where the call is. -/
theorem acquireSlotAndWait_fields (c : Connection) (i : CallId) (aborted : Bool) :
    ∃ phase, phase ≠ .notCalled ∧
      (c.acquireSlotAndWait i aborted).calls =
        Function.update c.calls i { c.calls i with phase } ∧
      (c.acquireSlotAndWait i aborted).toControl = c.toControl ∧
      (c.acquireSlotAndWait i aborted).multiplexer = c.multiplexer ∧
      (c.acquireSlotAndWait i aborted).writeChain = c.writeChain ∧
      (c.acquireSlotAndWait i aborted).written = c.written ∧
      (c.acquireSlotAndWait i aborted).attempts = c.attempts ∧
      (c.acquireSlotAndWait i aborted).heartbeatTransport = c.heartbeatTransport ∧
      (c.acquireSlotAndWait i aborted).writing = c.writing := by
  unfold acquireSlotAndWait
  split
  · exact ⟨_, by simp, rfl, rfl, rfl, rfl, rfl, rfl, rfl, rfl⟩
  · exact ⟨_, by simp, rfl, rfl, rfl, rfl, rfl, rfl, rfl, rfl⟩

/-- `sendCorrelated` draws its identifier. -/
theorem sendCorrelated_posts (hphase : (c.calls i).phase = .notCalled) (messageType : MessageType)
    (frameLength : Nat) (signal : Option Bool) {e : Event} :
    Posts c e (c.sendCorrelated i messageType frameLength signal) := by
  unfold sendCorrelated
  split
  · exact .still _ ((startCall_still hphase (by simp) messageType frameLength signal).trans
      (finishCall_still _ i _))
  · rename_i id m hallocate
    unfold Multiplexer.allocateCorrelationId at hallocate
    split at hallocate
    · cases hallocate
    · rename_i hnonzero
      obtain ⟨rfl, rfl⟩ := Prod.mk.inj (Except.ok.inj hallocate)
      -- the identifier is drawn before the call waits for anything
      generalize hc₁ : Connection.startCall _ _ _ _ _ _ = c₁
      obtain ⟨phase, hcalled, hcalls, hcontrol, hm, hchain, hwritten, hattempts, hheartbeat,
        hwriting⟩ := acquireSlotAndWait_fields c₁ i (signal = some true)
      subst hc₁
      have hself := congrFun hcalls i
      rw [Function.update_self] at hself
      refine .draws e hphase (hcontrol.trans rfl) hnonzero rfl ?_ ?_ ?_ ?_ (fun j hj => ?_)
        (hchain.trans rfl) (hwritten.trans rfl) (hattempts.trans rfl) (hheartbeat.trans rfl)
        (hwriting.trans rfl) ?_ ?_
      · rw [hm]
        change (if _ then _ else _) = 0 ∨ (if _ then _ else _) = _
        split
        · exact Or.inl rfl
        · exact Or.inr rfl
      · rw [hself]
        simp [Call.drawn, startCall, modifyCall, hnonzero]
      · rw [hself]
        simp [startCall, modifyCall]
      · rw [hself]
        exact hcalled
      · rw [congrFun hcalls j, Function.update_of_ne hj]
        simp [startCall, modifyCall, Function.update_of_ne hj]
      · rw [hself]
        simp [startCall, modifyCall]
      · rw [hself]
        simp [startCall, modifyCall]

theorem call_posts (hphase : (c.calls i).phase = .notCalled) (request : CallRequest)
    (messageType : MessageType) (frameLength : Nat) (signal : Option Bool) :
    Posts c (.call i request messageType frameLength signal)
      (c.call i request messageType frameLength signal) := by
  have start : ∀ {kind : CallKind}, (∀ id, kind = .send id → id = 0) →
      Still c (c.startCall i kind messageType frameLength signal) := fun hkind =>
    startCall_still hphase hkind messageType frameLength signal
  have hunbound : ∀ kind,
      ((c.startCall i kind messageType frameLength signal).calls i).unbound = true := by
    intro kind
    simp [startCall, modifyCall, Call.unbound]
  cases request with
  | waitUntilReady =>
      have hwait :
          Still c ((c.startCall i .waitUntilReady messageType frameLength signal).waitForReady
            i (signal = some true)) :=
        (start (by simp)).trans (still_of_fields rfl rfl rfl rfl rfl (Or.inl rfl) rfl rfl)
      have hphased :
          Still ((c.startCall i .waitUntilReady messageType frameLength signal).waitForReady
            i (signal = some true)) (c.call i .waitUntilReady messageType frameLength signal) := by
        unfold call
        exact still_phase rfl rfl rfl (by simp) (fun _ => hunbound _) rfl rfl
      exact .still _ (hwait.trans hphased)
  | request allowReconnectRestore =>
      unfold call
      dsimp only
      split
      · exact .still _ ((start (by simp)).trans
          (still_phase rfl rfl rfl (by simp) (fun _ => hunbound _) rfl rfl))
      · exact .still _ ((start (by simp)).trans (acquireSlotAndWait_still (hunbound _) _))
  | sendFireAndForget =>
      exact .still _ ((start (by simp)).trans (acquireSlotAndWait_still (hunbound _) _))
  | sendCorrelated => exact sendCorrelated_posts hphase messageType frameLength signal

/-- A request draws its identifier when it gets a slot, and is queued for the installed
transport. -/
theorem multiplexerRequest_posts {gate : GateId} {nowMs : Nat}
    (hphase : (c.calls i).phase = .waitingSlot gate) (hcurrent : c.transport = some t)
    (hkind : ∀ correlation, (c.calls i).kind ≠ .send correlation)
    (h : c.multiplexer.WellFormed) :
    Posts c (.slotContinues i nowMs) (c.multiplexerRequest i gate t nowMs) := by
  unfold multiplexerRequest
  extract_lets call r
  split
  · exact .still _ (releaseAndFinish_still c i gate _)
  · rename_i m hissue
    obtain ⟨e, henters⟩ := Multiplexer.issueRequest_enters h hissue
    have hrequest : m.requests r = e := by
      rw [henters.requests, Function.update_self]
    refine .binds (by simp [Call.unbound, hphase]) (by simp [hphase]) hcurrent rfl
      (Or.inr ⟨hkind, fun henabled => ?_⟩) ?_ ?_ ?_ (fun j hj => Function.update_of_ne hj ..)
      rfl rfl rfl rfl ?_ (fun _ => Multiplexer.issueRequest_signal hissue) rfl ?_
      (Or.inr ⟨?_, henters.issued⟩)
    · have hnext := henters.nextCorrelationId
      have hid := henters.correlationId
      rw [if_pos henabled] at hnext hid
      rw [hrequest, hid]
      exact ⟨hnext.1, rfl, hnext.2⟩
    · simp [modifyCall, sendSerialized, Call.unbound]
    · simp [modifyCall, sendSerialized]
    · simp [modifyCall, sendSerialized]
    · simp [modifyCall, sendSerialized]
    · simp [modifyCall, sendSerialized]
    · simp [modifyCall, sendSerialized, r]

/-- A call that is given a slot takes the transport installed then, if there is one. -/
theorem slotContinues_posts (h : c.multiplexer.WellFormed) {nowMs : Nat}
    (hs : c.slotContinues i nowMs = some c') : Posts c (.slotContinues i nowMs) c' := by
  unfold slotContinues at hs
  split at hs
  · rename_i gate hphase
    split at hs
    · cases hs
      unfold slotGranted
      split
      · exact .still _ (releaseAndFinish_still c i gate _)
      · rename_i t hcurrent
        split
        · exact .still _ (releaseAndFinish_still c i gate _)
        · split
          · -- a frame whose identifier was drawn by the caller
            rename_i correlation hkind
            refine .binds (by simp [Call.unbound, hphase]) (by simp [hphase]) hcurrent rfl
              (Or.inl ⟨⟨correlation, hkind, rfl⟩, rfl⟩) ?_ ?_ ?_
              (fun j hj => Function.update_of_ne hj ..) rfl rfl rfl rfl ?_
              (fun hnot => absurd hkind (hnot correlation)) rfl ?_ (Or.inl ?_)
            · simp [modifyCall, sendSerialized, Call.unbound]
            · simp [modifyCall, sendSerialized]
            · simp [modifyCall, sendSerialized]
            · simp [modifyCall, sendSerialized]
            · simp [modifyCall, sendSerialized]
            · simp [modifyCall, sendSerialized]
          · rename_i hkind
            exact multiplexerRequest_posts hphase hcurrent hkind h
    · cases hs
      exact .still _ (finishCall_still c i _)
    · cases hs
    · cases hs
  · cases hs

theorem callStep_posts (h : c.multiplexer.WellFormed) {e : Event} (hs : c.callStep e = some c') :
    Posts c e c' := by
  unfold callStep at hs
  split at hs
  · split at hs
    · rename_i hphase
      cases hs
      exact call_posts hphase _ _ _ _
    · cases hs
  · exact .still _ (readyContinues_still hs)
  · exact slotContinues_posts h hs
  · exact .still _ (sendSettles_still h hs)
  · exact .still _ (abortCall_still h hs)
  · split at hs
    · cases hs
      exact .still _ (still_of_fields rfl rfl rfl rfl rfl (Or.inl rfl) rfl rfl)
    · cases hs
  · unfold writeBegins at hs
    split at hs
    · rename_i w rest _ hchain
      cases hs
      exact .writes ⟨rfl, rfl, rfl, rfl⟩ hchain rfl rfl rfl rfl
    · cases hs
  · exact .still _ (writeEnds_still hs)
  · obtain ⟨m, hstep, rfl⟩ := Option.map_eq_some_iff.mp hs
    exact .still _ (still_of_multiplexer h hstep trivial)
  · split at hs
    · rename_i hregister
      obtain ⟨m, hstep, rfl⟩ := Option.map_eq_some_iff.mp hs
      exact .still _ (still_of_multiplexer h hstep (drawsNothing_of_isRegistration hregister))
    · cases hs
  · cases hs

/-- Every step of a connection does one of the listed things to the frames. -/
theorem step_posts (h : c.multiplexer.WellFormed) {e : Event} (hs : c.step e = some c') :
    Posts c e c' := by
  cases e with
  | connect i signal =>
      simp only [step] at hs
      split at hs
      · rename_i hphase
        cases hs
        exact connect_posts hphase signal
      · cases hs
  | connectSettled t =>
      simp only [step] at hs
      split at hs
      · cases hs
        unfold connectSettled
        split
        · exact .still _ (still_of_fields rfl rfl rfl rfl rfl (Or.inl rfl) rfl rfl)
        · exact .still _ (.refl c)
      · cases hs
  | close =>
      cases hs
      exact .still _ (close_still c)
  | callSettles i => exact .still _ (callSettles_still hs)
  | transportConnect t failure =>
      cases failure with
      | none => exact attemptStep_posts hs (Or.inl rfl)
      | some error => exact attemptStep_posts hs (Or.inr (Or.inl ⟨error, rfl⟩))
  | helloSettled t => exact attemptStep_posts hs (Or.inr (Or.inr (Or.inl rfl)))
  | restored t => exact attemptStep_posts hs (Or.inr (Or.inr (Or.inr (Or.inl rfl))))
  | attemptClosed t => exact attemptStep_posts hs (Or.inr (Or.inr (Or.inr (Or.inr rfl))))
  | token t failure => exact handshakeStep_posts hs (Or.inl ⟨failure, rfl⟩)
  | connectSent t failure => exact handshakeStep_posts hs (Or.inr (Or.inl ⟨failure, rfl⟩))
  | helloTimeout t => exact handshakeStep_posts hs (Or.inr (Or.inr (Or.inl rfl)))
  | abortAttempt t => exact handshakeStep_posts hs (Or.inr (Or.inr (Or.inr rfl)))
  | reconnectWake | reconnectAttempted | reconnectReturned | reconnectSettled =>
      exact reconnectStep_posts hs
  | heartbeatTick =>
      obtain ⟨t, ht, rfl⟩ := Option.map_eq_some_iff.mp hs
      unfold heartbeatTick
      split
      · exact .still _ (.refl c)
      · exact .beats ⟨rfl, rfl, rfl, rfl⟩ ht rfl rfl rfl rfl
  | receive t outcome => exact .still _ (receiveStep_still (e := .receive t outcome) h (by simp) hs)
  | partialFrameTimer => exact .still _ (receiveStep_still (e := .partialFrameTimer) h (by simp) hs)
  | partialFrameClosed t =>
      exact .still _ (receiveStep_still (e := .partialFrameClosed t) h (by simp) hs)
  | heartbeatSettled t active =>
      exact .still _ (receiveStep_still (e := .heartbeatSettled t active) h (by simp) hs)
  | connectionLossSettled =>
      exact .still _ (receiveStep_still (e := .connectionLossSettled) h (by simp) hs)
  | call | readyContinues | slotContinues | sendSettles | abortCall | waitTimeout | writeBegins
  | writeEnds | multiplexerTimer | register => exact callStep_posts h hs

end Connection

end FitzTs.Client
