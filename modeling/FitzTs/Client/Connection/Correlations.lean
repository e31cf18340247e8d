import FitzTs.Client.Connection.Handshake
/-!
# FitzTs.Client.Connection.Correlations

The identifiers on the wire.

The counter of the multiplexer starts again with each session, and a session belongs
to one transport. `request` draws its identifier when it sends; `sendCorrelated` draws
it when it is called, before it waits. So an identifier can be older than the session
it is sent in, and the counter of a session can be read before the session of the
transport has begun.
-/

namespace FitzTs.Client

variable {c c' c₁ : Connection} {t t' : TransportId} {e : Event} {i j : CallId} {id : CorrelationId}

/-- The session of the attempt has begun, or will not. -/
def Attempt.begun (a : Attempt) : Bool :=
  match a.phase with
  | .restoring | .closing _ _ _ | .finished _ => true
  | .unused | .connecting | .negotiating => false

namespace Connection

/-! ### The condition -/

/-- Call `i` sends on the transport of the current session, and if its identifier was
drawn before, then in this session. -/
def DrawnInSession (c : Connection) (i : CallId) (t : TransportId) : Prop :=
  (c.calls i).correlated = true →
    c.sessions.head? = some t ∧
      ((c.calls i).drawn.isSome → (c.calls i).calledIn = c.sessions.length)

instance (c : Connection) (i : CallId) (t : TransportId) : Decidable (c.DrawnInSession i t) :=
  inferInstanceAs (Decidable (_ → _))

/-- A call that gets its transport sends an identifier of the session of that transport. -/
def KeepsCorrelations (c : Connection) (e : Event) : Prop :=
  match e with
  | .slotContinues i nowMs => ∀ t ∈ c.bindsTo (.slotContinues i nowMs), c.DrawnInSession i t
  | _ => True

instance (c : Connection) (e : Event) : Decidable (c.KeepsCorrelations e) := by
  unfold KeepsCorrelations
  split <;> infer_instance

/-! ### Correlated frames -/

/-- The frames bound to a transport: those that wait and those that are written. -/
def frames (c : Connection) : List Write := c.writeChain ++ c.written

/-- The identifier of a frame on `t`, if its call uses one. -/
def correlationOn (c : Connection) (t : TransportId) (w : Write) : Option CorrelationId :=
  match w.frame with
  | .message i id => if w.transport = t ∧ (c.calls i).correlated then some id else none
  | _ => none

/-- The identifiers of the frames `ws` on `t`. -/
def correlationsOn (c : Connection) (t : TransportId) (ws : List Write) : List CorrelationId :=
  ws.filterMap (c.correlationOn t)

/-- Call `i` has a frame on `t`, with an identifier. -/
def CorrelatedFrame (c : Connection) (t : TransportId) (i : CallId) (id : CorrelationId) : Prop :=
  ⟨t, .message i id⟩ ∈ c.frames ∧ (c.calls i).correlated = true

theorem mem_correlationsOn {ws : List Write} : id ∈ c.correlationsOn t ws ↔
    ∃ i, ⟨t, .message i id⟩ ∈ ws ∧ (c.calls i).correlated = true := by
  unfold correlationsOn
  rw [List.mem_filterMap]
  constructor
  · rintro ⟨w, hw, hid⟩
    unfold correlationOn at hid
    split at hid
    · rename_i i id' hframe
      split at hid
      · rename_i hcond
        obtain ⟨rfl, hcorrelated⟩ := hcond
        obtain rfl := Option.some.inj hid
        exact ⟨i, hframe ▸ hw, hcorrelated⟩
      · cases hid
    · cases hid
  · rintro ⟨i, hw, hcorrelated⟩
    exact ⟨_, hw, by simp [correlationOn, hcorrelated]⟩

/-- In the current session call `i` has the identifier: it has drawn it, or has sent it. -/
def Holds (c : Connection) (i : CallId) (id : CorrelationId) : Prop :=
  (c.calls i).drawn = some id ∧ (c.calls i).calledIn = c.sessions.length ∨
    ∃ t, c.sessions.head? = some t ∧ c.CorrelatedFrame t i id

/-- The identifiers of a session are distinct, and the counter is beyond them. -/
structure Correlations (c : Connection) : Prop where
  enabled : c.multiplexer.correlationEnabled = true
  bound : ∀ {t i id}, ⟨t, .message i id⟩ ∈ c.frames → (c.calls i).unbound = false
  inSession : ∀ {t i id}, c.CorrelatedFrame t i id → t ∈ c.sessions
  nonzero : ∀ {t i id}, c.CorrelatedFrame t i id → id ≠ 0
  distinct : ∀ t, (c.correlationsOn t c.frames).Nodup
  calledIn : ∀ {i id}, (c.calls i).drawn = some id → (c.calls i).calledIn ≤ c.sessions.length
  below : ∀ {i id}, c.Holds i id → c.multiplexer.nextCorrelationId ≠ 0 →
    id < c.multiplexer.nextCorrelationId
  owner : ∀ {i j id}, c.Holds i id → c.Holds j id → i = j

/-! ### Sessions and attempts -/

/-- A session has begun with its attempt, and begins once. -/
structure SessionsBegun (c : Connection) : Prop where
  used : ∀ {t}, (c.attempts t).phase ≠ .unused → t < c.opened
  begun : ∀ t ∈ c.sessions, (c.attempts t).begun = true
  restoring : ∀ {t}, (c.attempts t).phase = .restoring → (c.attempts t).isReconnect = true

theorem SessionsBegun.lt (h : c.SessionsBegun) (ht : t ∈ c.sessions) : t < c.opened := by
  refine h.used fun hphase => ?_
  have hbegun := h.begun t ht
  rw [Attempt.begun, hphase] at hbegun
  cases hbegun

/-- The attempts are where they were. -/
theorem SessionsBegun.of_fields (h : c.SessionsBegun) (hopened : c'.opened = c.opened)
    (hsessions : c'.sessions = c.sessions)
    (hattempts : ∀ t, (c'.attempts t).phase = (c.attempts t).phase ∧
      (c'.attempts t).isReconnect = (c.attempts t).isReconnect) : c'.SessionsBegun where
  used := fun {t} hphase => by
    rw [hopened]
    exact h.used ((hattempts t).1 ▸ hphase)
  begun := fun t ht => by
    rw [hsessions] at ht
    rw [Attempt.begun, (hattempts t).1]
    exact h.begun t ht
  restoring := fun {t} hphase => by
    rw [(hattempts t).2]
    exact h.restoring ((hattempts t).1 ▸ hphase)

theorem SessionsBegun.of_samePlace (h : c.SessionsBegun) (hopened : c'.opened = c.opened)
    (hsessions : c'.sessions = c.sessions)
    (hplace : ∀ t, (c.attempts t).SamePlace (c'.attempts t)) : c'.SessionsBegun :=
  h.of_fields hopened hsessions fun t => ⟨(hplace t).phase, (hplace t).isReconnect⟩

/-- One attempt moves on, and its session may begin. -/
theorem SessionsBegun.of_update (h : c.SessionsBegun) (hopened : c'.opened = c.opened) {a : Attempt}
    (hattempts : c'.attempts = Function.update c.attempts t a)
    (hused : (c.attempts t).phase ≠ .unused)
    (hbegun : a.begun = true ∨ c'.sessions = c.sessions ∧ t ∉ c.sessions)
    (hsessions : c'.sessions = c.sessions ∨ c'.sessions = t :: c.sessions)
    (hrestoring : a.phase = .restoring → a.isReconnect = true) : c'.SessionsBegun := by
  refine ⟨fun {t'} hphase => ?_, fun t' ht' => ?_, fun {t'} hphase => ?_⟩
  · rw [hopened]
    by_cases ht : t' = t
    · exact ht ▸ h.used hused
    · rw [hattempts, Function.update_of_ne ht] at hphase
      exact h.used hphase
  · by_cases ht : t' = t
    · subst ht
      rw [hattempts, Function.update_self]
      refine hbegun.resolve_right fun ⟨hsame, hnot⟩ => hnot (hsame ▸ ht')
    · rw [hattempts, Function.update_of_ne ht]
      refine h.begun t' ?_
      rcases hsessions with hsame | hcons
      · exact hsame ▸ ht'
      · rw [hcons] at ht'
        exact (List.mem_cons.mp ht').resolve_left ht
  · by_cases ht : t' = t
    · subst ht
      rw [hattempts, Function.update_self] at hphase ⊢
      exact hrestoring hphase
    · rw [hattempts, Function.update_of_ne ht] at hphase ⊢
      exact h.restoring hphase

theorem SessionsBegun.of_opens (h : c.SessionsBegun) (isReconnect : Bool) (signal : Option Bool) :
    (c.openAndAuthenticate isReconnect signal).SessionsBegun := by
  have hattempts := openAndAuthenticate_attempts c isReconnect signal
  have hopened : (c.openAndAuthenticate isReconnect signal).opened = c.opened + 1 := rfl
  refine ⟨fun {t'} hphase => ?_, fun t' ht' => ?_, fun {t'} hphase => ?_⟩
  · rw [hopened]
    by_cases ht : t' = c.opened
    · rw [ht]
      exact Nat.lt_succ_self _
    · rw [hattempts, Function.update_of_ne ht] at hphase
      exact Nat.lt_succ_of_lt (h.used hphase)
  · have hlt : t' < c.opened := h.lt ht'
    rw [hattempts, Function.update_of_ne hlt.ne]
    exact h.begun t' ht'
  · by_cases ht : t' = c.opened
    · subst ht
      rw [hattempts, Function.update_self] at hphase
      cases hphase
    · rw [hattempts, Function.update_of_ne ht] at hphase ⊢
      exact h.restoring hphase

theorem SessionsBegun.of_catchFailure (h : c.SessionsBegun) (error : ClientError)
    (hused : (c.attempts t).phase ≠ .unused) : (c.catchFailure t error).SessionsBegun :=
  h.of_update rfl (catchFailure_attempts c t error) hused (Or.inl rfl) (Or.inl rfl) (by simp)

/-- The phases of an attempt that has not begun its session. -/
theorem not_begun (h : c.SessionsBegun) (hphase : (c.attempts t).begun = false) :
    t ∉ c.sessions := by
  intro ht
  rw [h.begun t ht] at hphase
  cases hphase

theorem ReportOutcome.sessionsBegun (ho : ReportOutcome c t c') (h : c.SessionsBegun) :
    c'.SessionsBegun := by
  have hreport : (c.reportLoss t).SessionsBegun := by
    refine h.of_fields rfl rfl fun t' => ?_
    unfold reportLoss
    rw [modifyAttempt_attempts]
    by_cases ht : t' = t
    · subst ht
      rw [Function.update_self]
      exact ⟨rfl, rfl⟩
    · rw [Function.update_of_ne ht]
      exact ⟨rfl, rfl⟩
  cases ho with
  | swallowed => exact hreport
  | late => exact hreport.of_fields rfl rfl fun _ => ⟨rfl, rfl⟩
  | @lost c₁ _ _ hl =>
      have hlost : c₁.SessionsBegun :=
        hreport.of_samePlace (by rw [hl.control]) (by rw [hl.control]) hl.attempts
      exact hlost.of_fields rfl rfl fun _ => ⟨rfl, rfl⟩

theorem WindsUp.sessionsBegun (hw : WindsUp t c c') (h : c.SessionsBegun) : c'.SessionsBegun := by
  refine h.of_fields (by rw [hw.control]) (by rw [hw.control]) fun t' => ?_
  rcases hw.attempts t' with heq | ⟨rfl, heq⟩ <;> rw [heq] <;> exact ⟨rfl, rfl⟩

theorem HelloOutcome.sessionsBegun (ho : HelloOutcome c t c') (h : c.SessionsBegun)
    (hphase : (c.attempts t).phase = .negotiating) : c'.SessionsBegun := by
  have hplace := finishAuth_attempts c .resolved
  have hfinish : (c.finishAuth .resolved).SessionsBegun :=
    h.of_samePlace (by rw [finishAuth_control]) (by rw [finishAuth_control]) hplace
  have hused : ((c.finishAuth .resolved).attempts t).phase ≠ .unused := by
    rw [(hplace t).phase, hphase]
    simp
  cases ho with
  | failed error => exact h.of_catchFailure error (by simp [hphase])
  | restoring _ hr =>
      exact hfinish.of_update rfl (beginRestore_attempts _ t) hused (Or.inl rfl) (Or.inr rfl)
        fun _ => (hplace t).isReconnect.trans hr
  | authenticated =>
      refine hfinish.of_update ?_ (authenticated_attempts _ t) hused (Or.inl rfl) ?_ (by simp)
      · rw [authenticated_control]
      · rw [authenticated_control]
        split
        · exact Or.inl rfl
        · exact Or.inr rfl

theorem Effect.sessionsBegun (he : Effect c e c') (h : c.SessionsBegun) : c'.SessionsBegun := by
  have kept : ∀ {c₁ : Connection}, c₁.opened = c.opened → c₁.sessions = c.sessions →
      c₁.attempts = c.attempts → c₁.SessionsBegun := fun ho hs ha =>
    h.of_fields ho hs fun t => by rw [ha]; exact ⟨rfl, rfl⟩
  cases he with
  | quiet _ hq =>
      exact h.of_samePlace (by rw [hq.control]) (by rw [hq.control])
        fun t => (hq.attempts t).samePlace
  | @opens _ signal =>
      have hbefore : SessionsBegun { c with authRejected := false, reconnectExhausted := false } :=
        kept rfl rfl rfl
      exact (hbefore.of_opens false signal).of_fields rfl rfl fun _ => ⟨rfl, rfl⟩
  | wakes => exact (h.of_opens true none).of_fields rfl rfl fun _ => ⟨rfl, rfl⟩
  | forgets | closesIdle | settlesLoss | wakesClosed | returns | settlesLoop =>
      exact kept rfl rfl rfl
  | closes =>
      obtain ⟨hcontrol, -, -, hplace, -⟩ := tearDown_fields { c with closePromise := true }
      have hbefore : SessionsBegun { c with closePromise := true } := kept rfl rfl rfl
      exact hbefore.of_samePlace (by rw [hcontrol]) (by rw [hcontrol]) hplace
  -- a transport that is connecting has no session yet
  | @connected t _ hphase ho =>
      have hused : (c.attempts t).phase ≠ .unused := by simp [hphase]
      have hnot : t ∉ c.sessions := not_begun h (by simp [Attempt.begun, hphase])
      cases ho with
      | failed error => exact h.of_catchFailure error hused
      | @rejected c₁ _ hcontrol _ _ hattempts error =>
          obtain ⟨loop, hloop⟩ := hattempts
          have hmid : c₁.SessionsBegun := h.of_update (by rw [hcontrol]) hloop hused
            (Or.inr ⟨by rw [hcontrol], hnot⟩) (Or.inl (by rw [hcontrol]))
            (by simp [hphase])
          refine hmid.of_catchFailure error ?_
          rw [hloop, Function.update_self]
          exact hused
      | negotiating _ hcontrol _ _ hattempts =>
          exact h.of_update (by rw [hcontrol]) hattempts hused (Or.inr ⟨by rw [hcontrol], hnot⟩)
            (Or.inl (by rw [hcontrol])) (by simp)
  | fails error _ hphase =>
      refine h.of_catchFailure error ?_
      rcases hphase with hphase | hphase <;> simp [hphase]
  | negotiated hphase _ ho => exact ho.sessionsBegun h hphase
  | @restoreFails t hphase =>
      have hbefore : SessionsBegun { c with reconnectRestoreActive := false } := kept rfl rfl rfl
      refine hbefore.of_catchFailure _ ?_
      change (c.attempts t).phase ≠ .unused
      simp [hphase]
  -- the session of a reconnect has been noted before its restore
  | @restores t hphase =>
      have hbefore : SessionsBegun { c with reconnectRestoreActive := false } := kept rfl rfl rfl
      refine hbefore.of_update ?_ (authenticated_attempts _ t) ?_ (Or.inl rfl) ?_ (by simp)
      · rw [authenticated_control]
      · change (c.attempts t).phase ≠ .unused
        simp [hphase]
      · rw [authenticated_control]
        split
        · exact Or.inl rfl
        · exact Or.inr rfl
  | @rethrows t _ _ _ _ hphase hr =>
      obtain ⟨thrown, hattempts⟩ := hr.attempts
      have hcontrol : c'.opened = c.opened ∧ c'.sessions = c.sessions := by
        cases hr.outcome with
        | handled _ _ hcontrol | closing _ _ _ hcontrol | failed _ _ _ hcontrol =>
            rw [hcontrol]
            exact ⟨rfl, rfl⟩
      exact h.of_update hcontrol.1 hattempts (by simp [hphase]) (Or.inl rfl) (Or.inl hcontrol.2)
        (by simp)
  | receives _ hh =>
      exact h.of_samePlace (by rw [hh.control]) (by rw [hh.control]) hh.attempts
  | @receivesLast t _ c₁ hh =>
      have hbefore : c₁.SessionsBegun :=
        h.of_samePlace (by rw [hh.control]) (by rw [hh.control]) hh.attempts
      exact (endReceiveLoop_windsUp t c₁).sessionsBegun hbefore
  | @loses _ t c₀ _ _ _ _ hh _ _ ho hw =>
      have hbefore : c₀.SessionsBegun :=
        h.of_samePlace (by rw [hh.control]) (by rw [hh.control]) hh.attempts
      exact hw.sessionsBegun (ho.sessionsBegun hbefore)
  | attempted _ _ ho _ hattempts =>
      cases ho with
      | ended _ _ _ hcontrol | rejected _ hcontrol | exhausted _ hcontrol | retries _ _ hcontrol =>
          exact kept (by rw [hcontrol]) (by rw [hcontrol]) hattempts

/-! ### Correlation mode -/

/-- Correlations are never turned off: HELLO has version 3. -/
theorem Effect.correlationEnabled (he : Effect c e c')
    (h : c.multiplexer.correlationEnabled = true) : c'.multiplexer.correlationEnabled = true := by
  have connects : ∀ {m : Multiplexer}, m.correlationEnabled = true →
      m.setConnected.correlationEnabled = true := id
  have disconnects : ∀ m : Multiplexer, m.setDisconnected.correlationEnabled = true := fun m =>
    (Multiplexer.setDisconnected_disconnects m).correlationEnabled
  have authenticates : ∀ {c₁ : Connection} (t : TransportId),
      c₁.multiplexer.correlationEnabled = true →
      (c₁.authenticated t).multiplexer.correlationEnabled = true := by
    intro c₁ t h₁
    rw [authenticated_multiplexer]
    split
    · exact h₁
    · exact connects h₁
  cases he with
  | quiet _ hq => exact hq.multiplexer.correlationEnabled h
  | opens | wakes | forgets | closesIdle | settlesLoss | wakesClosed | returns | settlesLoop
  | fails | restoreFails => exact h
  | closes =>
      obtain ⟨-, -, hclosed, -⟩ := tearDown_fields { c with closePromise := true }
      exact hclosed ▸ disconnects _
  | connected _ ho =>
      cases ho with
      | failed => exact h
      | rejected _ _ hsame | negotiating _ _ hsame => exact hsame ▸ h
  | negotiated _ _ ho =>
      have hfinish : (c.finishAuth .resolved).multiplexer.correlationEnabled = true := by
        rw [finishAuth_multiplexer]
        exact h
      cases ho with
      | failed => exact h
      | restoring => exact connects hfinish
      | authenticated => exact authenticates _ hfinish
  | restores => exact @authenticates { c with reconnectRestoreActive := false } _ h
  | rethrows _ hr =>
      cases hr.outcome with
      | handled _ hsame | closing _ _ hsame => exact hsame ▸ h
      | failed _ _ hsame => exact hsame ▸ disconnects _
  | receives _ hh => exact hh.multiplexer.correlationEnabled h
  | receivesLast hh => exact hh.multiplexer.correlationEnabled h
  | loses _ _ hh _ _ ho hw =>
      rw [hw.multiplexer]
      cases ho with
      | swallowed | late => exact hh.multiplexer.correlationEnabled h
      | lost _ _ hl =>
          have hlost := hl.multiplexer
          exact hlost ▸ disconnects _
  | attempted _ _ _ hsame => exact hsame ▸ h

/-! ### What a step does to the identifiers -/

/-- As far as identifiers are concerned the frames are the same ones. -/
structure Resembles (c c' : Connection) : Prop where
  correlations : ∀ t, (c'.correlationsOn t c'.frames).Perm (c.correlationsOn t c.frames)
  frame : ∀ {t i id}, c'.CorrelatedFrame t i id → c.CorrelatedFrame t i id
  bound : ∀ {t i id}, ⟨t, .message i id⟩ ∈ c'.frames → (c'.calls i).unbound = false
  drawn : ∀ i, (c'.calls i).drawn = none ∨
    (c'.calls i).drawn = (c.calls i).drawn ∧ (c'.calls i).calledIn = (c.calls i).calledIn

/-- A call that has a frame has been made. -/
theorem called_of_bound {call : Call} (h : call.unbound = false) : call.phase ≠ .notCalled := by
  intro hphase
  simp [Call.unbound, hphase] at h

/-- Frames of calls that use an identifier as they did. -/
theorem correlationsOn_congr {ws : List Write}
    (h : ∀ {t i id}, ⟨t, .message i id⟩ ∈ ws → (c'.calls i).correlated = (c.calls i).correlated)
    (t : TransportId) : c'.correlationsOn t ws = c.correlationsOn t ws := by
  refine List.filterMap_congr fun w hw => ?_
  obtain ⟨t', frame⟩ := w
  cases frame with
  | message i id => simp only [correlationOn, h hw]
  | connect | heartbeat => rfl

theorem Calm.resembles (hc : Calm c c') (h : c.Correlations) : Resembles c c' := by
  have hframes : c'.frames = c.frames := by
    unfold frames
    rw [hc.writeChain, hc.written]
  have hsame : ∀ {t i id}, ⟨t, .message i id⟩ ∈ c.frames →
      (c'.calls i).correlated = (c.calls i).correlated := fun hmem =>
    (hc.calls _).correlated (called_of_bound (h.bound hmem))
  refine ⟨fun t => ?_, fun {t i id} hf => ?_, fun {t i id} hmem => ?_, fun i => (hc.calls i).drawn⟩
  · rw [hframes, correlationsOn_congr hsame]
  · obtain ⟨hmem, hcorrelated⟩ := hf
    rw [hframes] at hmem
    exact ⟨hmem, hsame hmem ▸ hcorrelated⟩
  · rw [hframes] at hmem
    refine Bool.not_eq_true _ ▸ fun hu => ?_
    have hold := (hc.calls i).unbound hu
    rw [h.bound hmem] at hold
    cases hold

/-- The calls are the same; frames that carry no identifier may have joined, and a frame
may have gone from the chain. -/
theorem resembles_of_frames (h : c.Correlations) (hcalls : c'.calls = c.calls)
    (hperm : ∀ t, (c.correlationsOn t c'.frames).Perm (c.correlationsOn t c.frames))
    (hmem : ∀ {t i id}, ⟨t, .message i id⟩ ∈ c'.frames → ⟨t, .message i id⟩ ∈ c.frames) :
    Resembles c c' := by
  refine ⟨fun t => ?_, fun {t i id} hf => ?_, fun {t i id} hf => ?_, fun i => Or.inr ?_⟩
  · have hsame : c'.correlationsOn t c'.frames = c.correlationsOn t c'.frames :=
      correlationsOn_congr (fun _ => by rw [hcalls]) t
    exact hsame ▸ hperm t
  · exact ⟨hmem hf.1, hcalls ▸ hf.2⟩
  · rw [hcalls]
    exact h.bound (hmem hf)
  · rw [hcalls]
    exact ⟨rfl, rfl⟩

theorem Resembles.holds (hr : Resembles c c') (hsessions : c'.sessions = c.sessions)
    (hh : c'.Holds i id) : c.Holds i id := by
  rcases hh with ⟨hdrawn, hin⟩ | ⟨t, hhead, hframe⟩
  · rcases hr.drawn i with hnone | ⟨hd, hc⟩
    · rw [hnone] at hdrawn
      cases hdrawn
    · exact Or.inl ⟨hd ▸ hdrawn, by rw [← hc, hin, hsessions]⟩
  · exact Or.inr ⟨t, hsessions ▸ hhead, hr.frame hframe⟩

/-- Within a session, where nothing is drawn. -/
theorem Resembles.correlations_same (hr : Resembles c c') (h : c.Correlations)
    (henabled : c'.multiplexer.correlationEnabled = true) (hsessions : c'.sessions = c.sessions)
    (hnext : c'.multiplexer.nextCorrelationId = c.multiplexer.nextCorrelationId) :
    c'.Correlations where
  enabled := henabled
  bound := hr.bound
  inSession := fun hf => hsessions ▸ h.inSession (hr.frame hf)
  nonzero := fun hf => h.nonzero (hr.frame hf)
  distinct := fun t => (hr.correlations t).nodup_iff.mpr (h.distinct t)
  calledIn := fun {i id} hd => by
    rcases hr.drawn i with hnone | ⟨hd', hc⟩
    · rw [hnone] at hd
      cases hd
    · rw [hc, hsessions]
      exact h.calledIn (hd' ▸ hd)
  below := fun hh hne => by
    rw [hnext] at hne ⊢
    exact h.below (hr.holds hsessions hh) hne
  owner := fun hi hj => h.owner (hr.holds hsessions hi) (hr.holds hsessions hj)

/-- A session begins: what was drawn and sent before is not of this session. -/
theorem Resembles.correlations_begins (hr : Resembles c c') (h : c.Correlations)
    (henabled : c'.multiplexer.correlationEnabled = true)
    (hsessions : c'.sessions = t :: c.sessions)
    (hfirst : t ∉ c.sessions) : c'.Correlations := by
  have drawnBefore : ∀ {i id}, (c'.calls i).drawn = some id →
      (c'.calls i).calledIn ≤ c.sessions.length := by
    intro i id hd
    rcases hr.drawn i with hnone | ⟨hd', hc⟩
    · rw [hnone] at hd
      cases hd
    · rw [hc]
      exact h.calledIn (hd' ▸ hd)
  have nobody : ∀ {i id}, ¬ c'.Holds i id := by
    rintro i id (⟨hdrawn, hin⟩ | ⟨t', hhead, hframe⟩)
    · have hle := drawnBefore hdrawn
      rw [hin, hsessions, List.length_cons] at hle
      omega
    · rw [hsessions] at hhead
      obtain rfl := Option.some.inj hhead
      exact hfirst (h.inSession (hr.frame hframe))
  refine ⟨henabled, hr.bound, fun hf => ?_, fun hf => h.nonzero (hr.frame hf),
    fun t => (hr.correlations t).nodup_iff.mpr (h.distinct t), fun hd => ?_,
    fun hh => absurd hh nobody, fun hh => absurd hh nobody⟩
  · rw [hsessions]
    exact List.mem_cons_of_mem _ (h.inSession (hr.frame hf))
  · rw [hsessions, List.length_cons]
    exact Nat.le_succ_of_le (drawnBefore hd)

/-- `sendCorrelated` draws the next identifier. -/
theorem Correlations.of_draws (h : c.Correlations) (hphase : (c.calls i).phase = .notCalled)
    (hsessions : c'.sessions = c.sessions)
    (henabled : c'.multiplexer.correlationEnabled = true) (hnonzero : id ≠ 0)
    (hid : id = c.multiplexer.nextCorrelationId)
    (hnext : c'.multiplexer.nextCorrelationId = 0 ∨ c'.multiplexer.nextCorrelationId = id + 1)
    (hdrawn : (c'.calls i).drawn = some id) (hin : (c'.calls i).calledIn = c.sessions.length)
    (hothers : ∀ j, j ≠ i → c'.calls j = c.calls j) (hframes : c'.frames = c.frames) :
    c'.Correlations := by
  -- a call that has not been made has no frame
  have silent : ∀ {t id}, ⟨t, .message i id⟩ ∉ c.frames := fun hmem =>
    called_of_bound (h.bound hmem) hphase
  have other : ∀ {t j id}, ⟨t, .message j id⟩ ∈ c.frames → j ≠ i := by
    rintro t j id hmem rfl
    exact silent hmem
  have frame : ∀ {t j id}, c'.CorrelatedFrame t j id → c.CorrelatedFrame t j id := by
    intro t j id hf
    have hmem := hframes ▸ hf.1
    exact ⟨hmem, hothers j (other hmem) ▸ hf.2⟩
  -- who holds an identifier has held it before, or is the new call
  have holds : ∀ {j id'}, c'.Holds j id' → c.Holds j id' ∧ j ≠ i ∨ j = i ∧ id' = id := by
    rintro j id' (⟨hd, hc⟩ | ⟨t, hhead, hf⟩)
    · by_cases hj : j = i
      · subst hj
        exact Or.inr ⟨rfl, Option.some.inj (hd.symm.trans hdrawn)⟩
      · rw [hothers j hj] at hd hc
        exact Or.inl ⟨Or.inl ⟨hd, hsessions ▸ hc⟩, hj⟩
    · have hf' := frame hf
      exact Or.inl ⟨Or.inr ⟨t, hsessions ▸ hhead, hf'⟩, other hf'.1⟩
  -- the new identifier is above all that are held
  have held_lt : ∀ {j id'}, c.Holds j id' → id' < id := fun hh =>
    hid ▸ h.below hh (hid ▸ hnonzero)
  refine ⟨henabled, fun hmem => ?_, fun hf => hsessions ▸ h.inSession (frame hf),
    fun hf => h.nonzero (frame hf), fun t => ?_, fun {j id'} hd => ?_, fun hh hne => ?_,
    fun {j k id'} hj hk => ?_⟩
  · rw [hframes] at hmem
    rw [hothers _ (other hmem)]
    exact h.bound hmem
  · have hsame : c'.correlationsOn t c.frames = c.correlationsOn t c.frames :=
      correlationsOn_congr (fun hmem => by rw [hothers _ (other hmem)]) t
    rw [hframes, hsame]
    exact h.distinct t
  · rw [hsessions]
    by_cases hj : j = i
    · rw [hj, hin]
    · rw [hothers j hj] at hd ⊢
      exact h.calledIn hd
  · rcases hnext with hzero | hsucc
    · exact absurd hzero hne
    · rw [hsucc]
      rcases holds hh with ⟨hold, -⟩ | ⟨-, rfl⟩
      · exact Nat.lt_succ_of_lt (held_lt hold)
      · exact Nat.lt_succ_self _
  · rcases holds hj with ⟨hj, -⟩ | ⟨rfl, rfl⟩ <;> rcases holds hk with ⟨hk, -⟩ | ⟨rfl, hid'⟩
    · exact h.owner hj hk
    · exact absurd (hid' ▸ held_lt hj) (lt_irrefl _)
    · exact absurd (held_lt hk) (lt_irrefl _)
    · rfl

/-- Call `i` is given the installed transport `t`, and its frame with `id` waits to be written. -/
structure GivenTransport (c c' : Connection) (i : CallId) (t : TransportId) (id : CorrelationId) :
    Prop where
  unbound : (c.calls i).unbound = true
  sessions : c'.sessions = c.sessions
  session : c.DrawnInSession i t
  /-- The call has drawn its identifier, needs none, or is given the next one. -/
  identifier : (c.calls i).drawn = some id ∧
        c'.multiplexer.nextCorrelationId = c.multiplexer.nextCorrelationId ∨
      (c.calls i).correlated = false ∧
        c'.multiplexer.nextCorrelationId = c.multiplexer.nextCorrelationId ∨
      (c.calls i).drawn = none ∧ id ≠ 0 ∧ id = c.multiplexer.nextCorrelationId ∧
        (c'.multiplexer.nextCorrelationId = 0 ∨ c'.multiplexer.nextCorrelationId = id + 1)
  bound : (c'.calls i).unbound = false
  kind : (c'.calls i).kind = (c.calls i).kind
  calledIn : (c'.calls i).calledIn = (c.calls i).calledIn
  others : ∀ j, j ≠ i → c'.calls j = c.calls j
  writeChain : c'.writeChain = c.writeChain ++ [⟨t, .message i id⟩]
  written : c'.written = c.written

namespace GivenTransport

theorem drawn (hg : GivenTransport c c' i t id) (j : CallId) :
    (c'.calls j).drawn = (c.calls j).drawn := by
  by_cases hj : j = i
  · subst hj
    simp only [Call.drawn, hg.kind]
  · rw [hg.others j hj]

theorem inSession (hg : GivenTransport c c' i t id) (j : CallId) :
    (c'.calls j).calledIn = (c.calls j).calledIn := by
  by_cases hj : j = i
  · subst hj
    exact hg.calledIn
  · rw [hg.others j hj]

theorem correlated (hg : GivenTransport c c' i t id) (j : CallId) :
    (c'.calls j).correlated = (c.calls j).correlated := by
  by_cases hj : j = i
  · subst hj
    simp only [Call.correlated, hg.kind]
  · rw [hg.others j hj]

theorem perm (hg : GivenTransport c c' i t id) :
    c'.frames.Perm (⟨t, .message i id⟩ :: c.frames) := by
  unfold frames
  rw [hg.writeChain, hg.written, List.append_assoc]
  exact List.perm_middle

/-- The call has no frame before. -/
theorem silent (hg : GivenTransport c c' i t id) (h : c.Correlations) {id' : CorrelationId} :
    ⟨t', .message i id'⟩ ∉ c.frames := by
  intro hmem
  have hbound := h.bound hmem
  rw [hg.unbound] at hbound
  cases hbound

theorem frame (hg : GivenTransport c c' i t id) {id' : CorrelationId}
    (hframe : c'.CorrelatedFrame t' j id') : c.CorrelatedFrame t' j id' ∨
      t' = t ∧ j = i ∧ id' = id ∧ (c.calls i).correlated = true := by
  obtain ⟨hmem, hcorrelated⟩ := hframe
  rw [hg.correlated] at hcorrelated
  rcases List.mem_cons.mp (hg.perm.mem_iff.mp hmem) with heq | hmem
  · cases heq
    exact Or.inr ⟨rfl, rfl, rfl, hcorrelated⟩
  · exact Or.inl ⟨hmem, hcorrelated⟩

theorem holds (hg : GivenTransport c c' i t id) {id' : CorrelationId} (hh : c'.Holds j id') :
    c.Holds j id' ∨ j = i ∧ id' = id ∧ (c.calls i).correlated = true := by
  rcases hh with ⟨hd, hc⟩ | ⟨t', hhead, hf⟩
  · rw [hg.drawn] at hd
    rw [hg.inSession, hg.sessions] at hc
    exact Or.inl (Or.inl ⟨hd, hc⟩)
  · rcases hg.frame hf with hf | ⟨-, rfl, rfl, hcorrelated⟩
    · exact Or.inl (Or.inr ⟨t', hg.sessions ▸ hhead, hf⟩)
    · exact Or.inr ⟨rfl, rfl, hcorrelated⟩

/-- The identifier of the frame was held by the call already, or is the next one. -/
theorem source (hg : GivenTransport c c' i t id) (hcorrelated : (c.calls i).correlated = true) :
    c.Holds i id ∧ c'.multiplexer.nextCorrelationId = c.multiplexer.nextCorrelationId ∨
      id ≠ 0 ∧ id = c.multiplexer.nextCorrelationId ∧
        (c'.multiplexer.nextCorrelationId = 0 ∨ c'.multiplexer.nextCorrelationId = id + 1) := by
  rcases hg.identifier with ⟨hd, hsame⟩ | ⟨hno, -⟩ | ⟨-, hfresh⟩
  · exact Or.inl ⟨Or.inl ⟨hd, (hg.session hcorrelated).2 (by simp [hd])⟩, hsame⟩
  · rw [hno] at hcorrelated
    cases hcorrelated
  · exact Or.inr hfresh

theorem nonzero (hg : GivenTransport c c' i t id) (hcorrelated : (c.calls i).correlated = true) :
    id ≠ 0 := by
  rcases hg.identifier with ⟨hd, -⟩ | ⟨hno, -⟩ | ⟨-, hne, -⟩
  · rintro rfl
    unfold Call.drawn at hd
    split at hd
    · split at hd
      · cases hd
      · rename_i hne
        exact hne (Option.some.inj hd)
    · cases hd
  · rw [hno] at hcorrelated
    cases hcorrelated
  · exact hne

/-- Nobody else holds it. -/
theorem mine (hg : GivenTransport c c' i t id) (h : c.Correlations) (hj : c.Holds j id)
    (hcorrelated : (c.calls i).correlated = true) : j = i := by
  rcases hg.source hcorrelated with ⟨hi, -⟩ | ⟨hne, hnext, -⟩
  · exact h.owner hj hi
  · have hlt := h.below hj (hnext ▸ hne)
    rw [← hnext] at hlt
    exact absurd hlt (lt_irrefl _)

theorem bound_of_mem (hg : GivenTransport c c' i t id) (h : c.Correlations) {id' : CorrelationId}
    (hmem : ⟨t', .message j id'⟩ ∈ c'.frames) : (c'.calls j).unbound = false := by
  rcases List.mem_cons.mp (hg.perm.mem_iff.mp hmem) with heq | hmem
  · cases heq
    exact hg.bound
  · have hj : j ≠ i := by
      rintro rfl
      exact hg.silent h hmem
    rw [hg.others j hj]
    exact h.bound hmem

theorem distinct (hg : GivenTransport c c' i t id) (h : c.Correlations) (t' : TransportId) :
    (c'.correlationsOn t' c'.frames).Nodup := by
  have hsame : c'.correlationsOn t' c'.frames = c.correlationsOn t' c'.frames :=
    correlationsOn_congr (fun _ => hg.correlated _) t'
  rw [hsame]
  refine ((hg.perm.filterMap (c.correlationOn t')).nodup_iff).mpr ?_
  rw [List.filterMap_cons]
  split
  · exact h.distinct t'
  · rename_i id' hid'
    refine List.nodup_cons.mpr ⟨fun hmem => ?_, h.distinct t'⟩
    -- the new identifier is on the transport already: then its call holds it
    obtain ⟨j, hframe⟩ := mem_correlationsOn.mp hmem
    unfold correlationOn at hid'
    dsimp only at hid'
    obtain ⟨⟨rfl, hcorrelated⟩, heq⟩ := Option.ite_none_right_eq_some.mp hid'
    obtain rfl := Option.some.inj heq
    have hj : c.Holds j id := Or.inr ⟨t, (hg.session hcorrelated).1, hframe⟩
    obtain rfl := hg.mine h hj hcorrelated
    exact hg.silent h hframe.1

theorem below (hg : GivenTransport c c' i t id) (h : c.Correlations) {id' : CorrelationId}
    (hh : c'.Holds j id') (hne : c'.multiplexer.nextCorrelationId ≠ 0) :
    id' < c'.multiplexer.nextCorrelationId := by
  rcases hg.holds hh with hold | ⟨rfl, rfl, hcorrelated⟩
  · rcases hg.identifier with ⟨-, hsame⟩ | ⟨-, hsame⟩ | ⟨-, hnz, hid, hnext⟩
    · rw [hsame] at hne ⊢
      exact h.below hold hne
    · rw [hsame] at hne ⊢
      exact h.below hold hne
    · rw [hnext.resolve_left hne]
      exact Nat.lt_succ_of_lt (hid ▸ h.below hold (hid ▸ hnz))
  · rcases hg.source hcorrelated with ⟨hi, hsame⟩ | ⟨-, -, hnext⟩
    · rw [hsame] at hne ⊢
      exact h.below hi hne
    · rw [hnext.resolve_left hne]
      exact Nat.lt_succ_self _

theorem owner (hg : GivenTransport c c' i t id) (h : c.Correlations) {k : CallId}
    {id' : CorrelationId} (hj : c'.Holds j id') (hk : c'.Holds k id') : j = k := by
  rcases hg.holds hj with hj | ⟨rfl, rfl, hcorrelated⟩
  · rcases hg.holds hk with hk | ⟨rfl, rfl, hcorrelated⟩
    · exact h.owner hj hk
    · exact hg.mine h hj hcorrelated
  · rcases hg.holds hk with hk | ⟨rfl, -, -⟩
    · exact (hg.mine h hk hcorrelated).symm
    · rfl

end GivenTransport

/-- A call is given the installed transport. -/
theorem Correlations.of_binds (h : c.Correlations) (hg : GivenTransport c c' i t id)
    (henabled : c'.multiplexer.correlationEnabled = true) : c'.Correlations where
  enabled := henabled
  bound := hg.bound_of_mem h
  inSession := fun hf => by
    rw [hg.sessions]
    rcases hg.frame hf with hf | ⟨rfl, rfl, rfl, hcorrelated⟩
    · exact h.inSession hf
    · exact List.mem_of_mem_head? (hg.session hcorrelated).1
  nonzero := fun hf => by
    rcases hg.frame hf with hf | ⟨rfl, rfl, rfl, hcorrelated⟩
    · exact h.nonzero hf
    · exact hg.nonzero hcorrelated
  distinct := hg.distinct h
  calledIn := fun {j id'} hd => by
    rw [hg.drawn] at hd
    rw [hg.inSession, hg.sessions]
    exact h.calledIn hd
  below := hg.below h
  owner := hg.owner h

/-- A request draws nothing before it sends; a message has an identifier or none. -/
theorem Call.drawn_of_not_send {call : Call} (h : ∀ correlation, call.kind ≠ .send correlation) :
    call.drawn = none := by
  unfold Call.drawn
  split
  · rename_i correlation hkind
    exact absurd hkind (h correlation)
  · rfl

theorem Correlations.step (h : c.Correlations) (hb : c.SessionsBegun)
    (hm : c.multiplexer.WellFormed)
    (hs : c.step e = some c') (hK : c.KeepsCorrelations e) : c'.Correlations := by
  have he := step_effect hm hs
  have henabled := he.correlationEnabled h.enabled
  have same : ∀ {c₁ : Connection}, OnlyWrites c c₁ → c₁.sessions = c.sessions ∧
      c₁.multiplexer.nextCorrelationId = c.multiplexer.nextCorrelationId := fun honly =>
    ⟨by rw [honly.control], by rw [honly.multiplexer]⟩
  cases step_posts hm hs with
  | still _ hstill =>
      exact (hstill.resembles h).correlations_same h henabled hstill.sessions
        hstill.nextCorrelationId
  | opens _ hcalls hchain hwritten hnext hsessions =>
      have hframes : c'.frames = c.frames := by
        unfold frames
        rw [hchain, hwritten]
      refine (resembles_of_frames h hcalls (fun t => ?_) fun hmem => ?_).correlations_same
        h henabled
        hsessions hnext
      · rw [hframes]
      · exact hframes ▸ hmem
  -- a new session draws its identifiers anew
  | begins hcalm hphase _ _ hsessions =>
      exact (hcalm.resembles h).correlations_begins h henabled hsessions
        (not_begun hb (by simp [Attempt.begun, hphase]))
  | resumes hcalm hphase hsession =>
      obtain ⟨hnext, hsessions⟩ := hsession (hb.restoring hphase)
      exact (hcalm.resembles h).correlations_same h henabled hsessions hnext
  | connects honly _ _ hchain hwritten =>
      refine (resembles_of_frames h honly.calls (fun t' => ?_) fun {t' i id} hmem => ?_)
        |>.correlations_same h henabled (same honly).1 (same honly).2
      · unfold frames correlationsOn
        rw [hchain, hwritten, List.filterMap_append, List.filterMap_append, List.filterMap_cons]
        exact .refl _
      · unfold frames at hmem ⊢
        rw [hchain, hwritten] at hmem
        simpa using hmem
  | beats honly _ hchain hwritten =>
      refine (resembles_of_frames h honly.calls (fun t' => ?_) fun {t' i id} hmem => ?_)
        |>.correlations_same h henabled (same honly).1 (same honly).2
      · unfold frames correlationsOn
        rw [hchain, hwritten, List.filterMap_append, List.filterMap_append, List.filterMap_append,
          List.append_assoc]
        exact .refl _
      · unfold frames at hmem ⊢
        rw [hchain, hwritten] at hmem
        simpa using hmem
  -- the identifier drawn is above those drawn before
  | draws _ hphase hcontrol hnonzero hid hnext hdrawn hin _ hothers hchain hwritten =>
      refine h.of_draws hphase (by rw [hcontrol]) henabled hnonzero hid hnext hdrawn hin hothers ?_
      unfold frames
      rw [hchain, hwritten]
  -- a call that draws late draws when it is bound, any other has drawn before
  | @binds i nowMs t id _ hunbound _ _ hcontrol hidentifier hbound hkind hin hothers hchain
      hwritten =>
      have hsession : c.DrawnInSession i t := hK t (Handshakes.slotContinues_bindsTo hs hchain)
      refine h.of_binds
        ⟨hunbound, by rw [hcontrol], hsession, ?_, hbound, hkind, hin, hothers, hchain,
        hwritten⟩ henabled
      rcases hidentifier with ⟨⟨correlation, hk, rfl⟩, hnext⟩ | ⟨hk, hfresh⟩
      · by_cases hzero : id = 0
        · exact Or.inr (Or.inl ⟨by simp [Call.correlated, hk, hzero], hnext⟩)
        · exact Or.inl ⟨by simp [Call.drawn, hk, hzero], hnext⟩
      · exact Or.inr (Or.inr ⟨Call.drawn_of_not_send hk, hfresh h.enabled⟩)
  -- a frame goes from the chain to what is written
  | @writes w rest _ honly hnext hchain hwritten =>
      have hperm : c'.frames.Perm c.frames := by
        unfold frames
        rw [hchain, hwritten, hnext]
        exact List.perm_middle
      refine (resembles_of_frames h honly.calls (fun t => ?_) fun hmem => ?_).correlations_same h
        henabled (same honly).1 (same honly).2
      · exact hperm.filterMap _
      · exact hperm.mem_iff.mp hmem

/-! ### Runs -/

theorem correlations_create (options : ConnectionOptions) : (create options).Correlations where
  enabled := rfl
  bound := fun h => by cases h
  inSession := fun h => by cases h.1
  nonzero := fun h => by cases h.1
  distinct := fun _ => List.nodup_nil
  calledIn := fun h => by cases h
  below := fun h => by rcases h with ⟨h, -⟩ | ⟨_, h, -⟩ <;> cases h
  owner := fun h => by rcases h with ⟨h, -⟩ | ⟨_, h, -⟩ <;> cases h

theorem sessionsBegun_create (options : ConnectionOptions) : (create options).SessionsBegun :=
  ⟨fun h => absurd rfl h, fun _ h => (nomatch h), fun h => (nomatch h)⟩

theorem correlations_run {options : ConnectionOptions} {es : List Event} {c : Connection}
    (hguard : (machine options).Guarded KeepsCorrelations (create options) es)
    (hrun : (machine options).run es = some c) : c.Correlations := by
  have hall : c.multiplexer.WellFormed ∧ c.SessionsBegun ∧ c.Correlations :=
    Machine.Guarded.invariant (M := machine options)
      (I := fun c => c.multiplexer.WellFormed ∧ c.SessionsBegun ∧ c.Correlations)
      ⟨(sound_create options).multiplexer, sessionsBegun_create options,
        correlations_create options⟩
      (fun _ _ _ ⟨hm, hb, hc⟩ hK hst =>
        have he := step_effect hm hst
        ⟨he.wellFormed hm, he.sessionsBegun hb, hc.step hb hm hst hK⟩) hguard hrun
  exact hall.2.2

/-- The identifiers of the frames written to one transport are distinct, and none is zero. -/
def UniqueCorrelations (c : Connection) : Prop :=
  ∀ t, (c.correlationsOn t c.written).Nodup ∧ 0 ∉ c.correlationsOn t c.written

/-- In a run that keeps to the condition identifiers are unique on each transport. -/
theorem uniqueCorrelations_run {options : ConnectionOptions} {es : List Event} {c : Connection}
    (hguard : (machine options).Guarded KeepsCorrelations (create options) es)
    (hrun : (machine options).run es = some c) : c.UniqueCorrelations := by
  have h := correlations_run hguard hrun
  intro t
  constructor
  · have hall := h.distinct t
    unfold correlationsOn frames at hall
    rw [List.filterMap_append] at hall
    exact hall.of_append_right
  · intro hzero
    obtain ⟨i, hmem, hcorrelated⟩ := mem_correlationsOn.mp hzero
    exact h.nonzero ⟨List.mem_append_right _ hmem, hcorrelated⟩ rfl

/-- A request and a correlated message in one session, and the same in the next. -/
def numberedRun : List Event :=
  [.connect 0 none, .transportConnect 0 none, .token 0 none, .connectSent 0 none,
    .receive 0 helloChunk, .helloSettled 0, .connectSettled 0,
    .call 1 .sendCorrelated 7 20 none, .readyContinues 1, .call 2 (.request false) 7 20 none,
    .readyContinues 2, .slotContinues 2 0, .slotContinues 1 0, .writeBegins, .writeEnds none,
    .writeBegins, .writeEnds none, .receive 0 (.error ⟨.transport, "reset"⟩),
    .connectionLossSettled, .reconnectWake, .transportConnect 1 none, .token 1 none,
    .connectSent 1 none, .receive 1 helloChunk, .helloSettled 1,
    .call 3 (.request true) 7 20 none, .readyContinues 3, .slotContinues 3 0, .restored 1,
    .call 4 .sendCorrelated 7 20 none, .readyContinues 4, .slotContinues 4 0, .writeBegins,
    .writeEnds none, .writeBegins]

/-- Both transports carry the identifiers 1 and 2. -/
theorem uniqueCorrelations_run_numbered : ∃ c : Connection,
    (machine { reconnectEnabled := true }).run numberedRun = some c ∧
      c.correlationsOn 0 c.written = [1, 2] ∧ c.correlationsOn 1 c.written = [2, 1] ∧
      c.UniqueCorrelations := by
  have hguard : (machine { reconnectEnabled := true }).Guarded KeepsCorrelations
      (create { reconnectEnabled := true }) numberedRun := by decide +kernel
  exact ⟨_, rfl, by decide +kernel, by decide +kernel, uniqueCorrelations_run hguard rfl⟩

/-- `sendCorrelated` is called while the client reconnects, and draws identifier 1 of the
lost session. The new session starts again at 1, with a request. -/
theorem uniqueCorrelations_run_fails :
    ¬ ∀ es c, (machine { reconnectEnabled := true }).run es = some c → c.UniqueCorrelations := by
  intro h
  obtain ⟨c, hc, hids⟩ : ∃ c : Connection,
      (machine { reconnectEnabled := true }).run
        [.connect 0 none, .transportConnect 0 none, .token 0 none, .connectSent 0 none,
          .receive 0 helloChunk, .helloSettled 0, .connectSettled 0,
          .receive 0 (.error ⟨.transport, "reset"⟩), .connectionLossSettled,
          .call 1 .sendCorrelated 7 20 none, .reconnectWake, .transportConnect 1 none,
          .token 1 none, .connectSent 1 none, .receive 1 helloChunk, .helloSettled 1, .restored 1,
          .call 2 (.request false) 7 20 none, .readyContinues 2, .slotContinues 2 0, .writeBegins,
          .writeEnds none, .readyContinues 1, .slotContinues 1 0, .writeBegins] = some c ∧
        c.correlationsOn 1 c.written = [1, 1] := ⟨_, rfl, by decide +kernel⟩
  have hunique := (h _ c hc 1).1
  rw [hids] at hunique
  exact absurd hunique (by decide)

end Connection

end FitzTs.Client
