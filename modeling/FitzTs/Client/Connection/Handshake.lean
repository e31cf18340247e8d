import FitzTs.Client.Connection.Bystanders
import FitzTs.Client.Connection.Ownership
import FitzTs.Client.Connection.Outbox
/-!
# FitzTs.Client.Connection.Handshake

What precedes a frame on its transport.

CONNECT is written by the attempt of a transport, and only while that transport is
installed. Every other frame is bound to a transport before it is written: a
heartbeat to one whose attempt has got its HELLO, a call to the one it finds
installed when its slot is granted. A call was found ready before it asked for the
slot, and then a transport was installed whose handshake was done (`Handshakes.ready`);
nothing asks again when it gets the slot, so the transport it finds may be a newer one.
-/

namespace FitzTs.Client.Connection

variable {c c' c₁ : Connection} {i : CallId} {t t' : TransportId} {e : Event}

/-! ### HELLO -/

/-- The transport on which a step receives a valid HELLO. -/
def receivesHello (c : Connection) : Event → Option TransportId
  | .receive t outcome =>
    if c.transport = some t ∧ c.acceptsHello (.receive t outcome) then some t else none
  | _ => none

/-- In the run a valid HELLO has been received on `t`. -/
def HelloReceived (options : ConnectionOptions) (es : List Event) (t : TransportId) : Prop :=
  (machine options).Occurs (fun c e => c.receivesHello e = some t) es

/-- CONNECT has been written to `t`, and its attempt has been told of a HELLO. -/
def HandshakeDone (c : Connection) (t : TransportId) : Prop :=
  ⟨t, .connect⟩ ∈ c.written ∧ (c.attempts t).authOutcome = .resolved

instance (c : Connection) (t : TransportId) : Decidable (c.HandshakeDone t) :=
  inferInstanceAs (Decidable (_ ∧ _))

/-! ### The condition -/

/-- The transport to which a step gives the frame of a call. -/
def bindsTo (c : Connection) : Event → Option TransportId
  | .slotContinues i nowMs =>
    match (c.calls i).phase with
    | .waitingSlot gate =>
      if (c.gates gate).outcomes i = .granted ∧ (c.calls i).frameLength ≤ c.maxMessageBytes then
        match (c.calls i).kind with
        | .send _ => c.transport
        | _ =>
          match c.multiplexer.issueRequest (c.calls i).messageType nowMs c.options.timeout
            (c.calls i).signal none with
          | .ok _ => c.transport
          | .error _ => none
      else none
    | _ => none
  | _ => none

/-- The transport that was installed when the call a step gives a slot was found ready. -/
def foundReady (c : Connection) : Event → Option TransportId
  | .slotContinues i _ => (c.calls i).readyOn
  | _ => none

/-- The transport a call was found ready on has not been replaced when the call is given one,
and the reconnect loop wakes alone. -/
def KeepsHandshake (c : Connection) (e : Event) : Prop :=
  c.WakesAlone e ∧ ∀ t ∈ c.bindsTo e, c.foundReady e = some t

instance (c : Connection) (e : Event) : Decidable (c.KeepsHandshake e) :=
  inferInstanceAs (Decidable (_ ∧ _))

/-! ### Who resolves an authentication -/

/-- The attempt that goes on after HELLO in a step, and resolves `authOutcome`. -/
def finishesAuth (c : Connection) : Event → Option TransportId
  | .helloSettled t =>
    if (c.attempts t).phase = .negotiating ∧ (c.attempts t).hello = .resolved ∧
        ¬ c.closeRequested ∧ ¬ c.signalAborted t ∧ ¬ (¬ (c.attempts t).isReconnect ∧ c.authRejected)
    then some t
    else none
  | _ => none

/-- Only the attempt whose deferred the variable holds may come to be authenticated,
and only if `allowed`. -/
def ResolvesOwn (c c' : Connection) (allowed : Prop) : Prop :=
  ∀ t, (c'.attempts t).authOutcome = .resolved →
    (c.attempts t).authOutcome = .resolved ∨
      allowed ∧ c.authOutcome = some t ∧ (c.attempts t).authOutcome = .pending

/-- The deferreds are the same. -/
theorem resolvesOwn_of_eq {allowed : Prop}
    (h : ∀ t, (c'.attempts t).authOutcome = (c.attempts t).authOutcome) :
    ResolvesOwn c c' allowed := fun t hr => Or.inl (h t ▸ hr)

/-- One attempt is changed, its deferred apart. -/
theorem resolvesOwn_of_update {allowed : Prop} {a : Attempt}
    (hattempts : c'.attempts = Function.update c.attempts t a)
    (ha : a.authOutcome = (c.attempts t).authOutcome) : ResolvesOwn c c' allowed := by
  refine resolvesOwn_of_eq fun t' => ?_
  rw [hattempts]
  by_cases ht : t' = t
  · subst ht
    rw [Function.update_self]
    exact ha
  · rw [Function.update_of_ne ht]

/-- An attempt is made. -/
theorem resolvesOwn_of_opens {allowed : Prop} {isReconnect : Bool} {signal : Option Bool}
    (hattempts : c'.attempts =
      Function.update c.attempts t { phase := .connecting, isReconnect, signal }) :
    ResolvesOwn c c' allowed := by
  intro t' hr
  rw [hattempts] at hr
  by_cases ht : t' = t
  · subst ht
    rw [Function.update_self] at hr
    cases hr
  · rw [Function.update_of_ne ht] at hr
    exact Or.inl hr

theorem settleAuth_resolvesOwn (c : Connection) (d : Deferred) :
    ResolvesOwn c (c.settleAuth d) True := by
  intro t hr
  unfold settleAuth at hr
  split at hr
  · exact Or.inl hr
  · rename_i t' hvar
    rw [modifyAttempt_attempts] at hr
    by_cases ht : t = t'
    · subst ht
      rw [Function.update_self] at hr
      by_cases hp : (c.attempts t).authOutcome = .pending
      · exact Or.inr ⟨trivial, hvar, hp⟩
      · left
        have hsame : (c.attempts t).authOutcome.settle d = (c.attempts t).authOutcome := if_neg hp
        exact hsame ▸ hr
    · rw [Function.update_of_ne ht] at hr
      exact Or.inl hr

theorem handleFrame_resolvesOwn {frame : InboundFrame} {error : Option ClientError}
    (hf : c.handleFrame frame = some (c', error)) : ResolvesOwn c c' True := by
  have idle : ∀ {error'}, some (c, error') = some (c', error) → ResolvesOwn c c' True := by
    intro error' he
    obtain ⟨rfl, -⟩ := Prod.mk.inj (Option.some.inj he)
    exact fun _ => Or.inl
  cases frame with
  | badExtensions => exact idle hf
  | hello correlation flags body =>
      unfold handleFrame at hf
      dsimp only at hf
      split at hf
      · obtain ⟨rfl, -⟩ := Prod.mk.inj (Option.some.inj hf)
        unfold acceptHello
        extract_lets maxMessageBytes c₁ c₂ c₃
        exact settleAuth_resolvesOwn c₃ .resolved
      · exact idle hf
  | connectRejected correlation body =>
      unfold handleFrame at hf
      dsimp only at hf
      split at hf
      · exact idle hf
      · split at hf
        · rename_i code message
          obtain ⟨rfl, -⟩ := Prod.mk.inj (Option.some.inj hf)
          exact settleAuth_resolvesOwn { c with authRejected := code = 1 || c.authRejected } _
        · exact idle hf
  | goAway correlation body =>
      unfold handleFrame at hf
      dsimp only at hf
      split at hf
      · exact idle hf
      · split at hf <;> exact idle hf
  | message messageType payload correlation responseFinal =>
      unfold handleFrame at hf
      dsimp only at hf
      split at hf
      · obtain ⟨rfl, -⟩ := Prod.mk.inj (Option.some.inj hf)
        exact fun _ => Or.inl
      · exact idle hf
      · cases hf

theorem handleFrames_resolvesOwn (h : c.multiplexer.WellFormed) {frames : List InboundFrame}
    {error : Option ClientError} (hf : c.handleFrames frames = some (c', error)) :
    ResolvesOwn c c' True := by
  induction frames generalizing c with
  | nil =>
      obtain ⟨rfl, -⟩ := Prod.mk.inj (Option.some.inj hf)
      exact fun _ => Or.inl
  | cons frame frames ih =>
      unfold handleFrames at hf
      split at hf
      · rename_i c₁ hframe
        have hhandles := handleFrame_handles h hframe
        intro t hr
        rcases ih hhandles.multiplexer.wellFormed hf t hr with hr₁ | ⟨-, hvar, hp⟩
        · exact handleFrame_resolvesOwn hframe t hr₁
        · -- the frames leave the variable alone, and what is pending was so before
          have hvar₁ : c.authOutcome = some t := by
            rw [hhandles.control] at hvar
            exact hvar
          have hp₁ : (c.attempts t).authOutcome = .pending := by
            by_contra hno
            exact hno ((hhandles.attempts t).authOutcome hno ▸ hp)
          exact Or.inr ⟨trivial, hvar₁, hp₁⟩
      · exact handleFrame_resolvesOwn hf

/-- A chunk resolves the outcome the variable holds, if a HELLO is among its frames. -/
theorem chunk_resolvesOwn (h : c.multiplexer.WellFormed) {frames : List InboundFrame}
    {pending : Bool} {error : Option ClientError}
    (hf : (c.beginChunk t frames pending).handleFrames frames = some (c', error)) :
    ResolvesOwn c c' (c.acceptsHello (.receive t (.ok (.ok (frames, pending)))) = true) := by
  have hbegin : (c.beginChunk t frames pending).attempts = c.attempts ∧
      (c.beginChunk t frames pending).authOutcome = c.authOutcome ∧
      (c.beginChunk t frames pending).multiplexer = c.multiplexer := by
    unfold beginChunk confirmSession
    dsimp only
    split
    · exact ⟨rfl, rfl, rfl⟩
    · split <;> exact ⟨rfl, rfl, rfl⟩
  obtain ⟨hattempts, hvar, hm⟩ := hbegin
  intro t' hr
  rcases handleFrames_resolvesOwn (hm ▸ h) hf t' hr with hr₁ | ⟨-, hown, hp⟩
  · exact Or.inl (hattempts ▸ hr₁)
  · rcases chunk_resolves hf t' hr with hr₁ | haccepts
    · exact Or.inl hr₁
    · exact Or.inr ⟨haccepts, hvar ▸ hown, hattempts ▸ hp⟩

theorem ReportOutcome.resolved (ho : ReportOutcome c t c')
    (h : (c'.attempts t').authOutcome = .resolved) : (c.attempts t').authOutcome = .resolved := by
  have hreport : ((c.reportLoss t).attempts t').authOutcome = (c.attempts t').authOutcome := by
    unfold reportLoss
    rw [modifyAttempt_attempts]
    by_cases ht : t' = t
    · subst ht
      rw [Function.update_self]
    · rw [Function.update_of_ne ht]
  cases ho with
  | swallowed => exact hreport ▸ h
  | late => exact hreport ▸ h
  | lost _ _ hl => exact hreport ▸ hl.resolved h

theorem WindsUp.authOutcome (hw : WindsUp t c c') (t' : TransportId) :
    (c'.attempts t').authOutcome = (c.attempts t').authOutcome := by
  rcases hw.attempts t' with heq | ⟨rfl, heq⟩ <;> rw [heq]

theorem receiveFailed_resolved {error : ClientError}
    (h : ((c.receiveFailed t error).attempts t').authOutcome = .resolved) :
    (c.attempts t').authOutcome = .resolved := by
  unfold receiveFailed at h
  split at h
  · exact (endReceiveLoop_windsUp t c).authOutcome t' ▸ h
  · exact (handleConnectionLoss_outcome c error t).resolved
      ((endReceiveLoop_windsUp t _).authOutcome t' ▸ h)

/-- A step of a receive loop. -/
theorem receive_resolvesOwn (h : c.multiplexer.WellFormed) {outcome : Received}
    (hs : c.step (.receive t outcome) = some c') :
    ResolvesOwn c c' (c.receivesHello (.receive t outcome) = some t ∧
      (c.attempts t).receiveLoop = .running) := by
  change c.receiveStep (.receive t outcome) = some c' at hs
  simp only [receiveStep] at hs
  split at hs
  · rename_i hreceives
    obtain ⟨hrunning, -⟩ := hreceives
    cases outcome with
    | error error =>
        cases hs
        exact fun _ hr => Or.inl (receiveFailed_resolved hr)
    | ok parsed =>
        dsimp only at hs
        unfold received at hs
        split at hs
        · cases hs
          exact fun t' hr => Or.inl ((endReceiveLoop_windsUp t c).authOutcome t' ▸ hr)
        · rename_i hcurrent
          have hcurrent : c.transport = some t := not_not.mp hcurrent
          split at hs
          · rename_i frames pending
            have chunk : ∀ {c₁ error}, (c.beginChunk t frames pending).handleFrames frames =
                some (c₁, error) → ResolvesOwn c c₁ (c.receivesHello
                  (.receive t (.ok (.ok (frames, pending)))) = some t ∧
                  (c.attempts t).receiveLoop = .running) := by
              intro c₁ error hframes t' hr
              refine (chunk_resolvesOwn h hframes t' hr).imp_right ?_
              rintro ⟨haccepts, hown⟩
              exact ⟨⟨if_pos ⟨hcurrent, haccepts⟩, hrunning⟩, hown⟩
            unfold chunkReceived at hs
            split at hs
            · rename_i c₁ hframes
              cases hs
              intro t' hr
              refine chunk hframes t' ?_
              rcases continueReceiveLoop_cases c₁ t with ⟨heq, -⟩ | ⟨heq, -⟩
              · exact heq ▸ hr
              · rw [heq] at hr
                exact (endReceiveLoop_windsUp t c₁).authOutcome t' ▸ hr
            · rename_i c₁ error hframes
              cases hs
              exact fun t' hr => chunk hframes t' (receiveFailed_resolved hr)
            · cases hs
          · cases hs
            exact fun _ hr => Or.inl (receiveFailed_resolved hr)
  · cases hs

theorem tearDown_resolved (h : (c.tearDown.attempts t).authOutcome = .resolved) :
    (c.attempts t).authOutcome = .resolved := by
  unfold tearDown at h
  extract_lets c₁ c₂ c₃ at h
  have hfinish : (c₃.attempts t).authOutcome = .resolved → (c.attempts t).authOutcome = .resolved :=
    fun hr => settleAuth_rejected (c := c₂) closedDuringConnectError hr
  split at h
  · exact hfinish h
  · rename_i t₀ _
    refine hfinish ?_
    unfold callClose at h
    rw [modifyAttempt_attempts] at h
    by_cases ht : t = t₀
    · subst ht
      rw [Function.update_self] at h
      exact h
    · rw [Function.update_of_ne ht] at h
      exact h

theorem helloSettled_resolvesOwn (hs : c.step (.helloSettled t) = some c') :
    ResolvesOwn c c' (c.finishesAuth (.helloSettled t) = some t) := by
  have fails : ∀ error, ResolvesOwn c (c.catchFailure t error)
      (c.finishesAuth (.helloSettled t) = some t) := fun error =>
    resolvesOwn_of_update (catchFailure_attempts c t error) rfl
  change c.attemptStep t (.helloSettled t) = some c' at hs
  unfold attemptStep at hs
  dsimp only at hs
  split at hs
  · rename_i hphase hhello
    cases hs
    unfold helloReceived
    split
    · exact fails _
    · rename_i hclose
      split
      · exact fails _
      · rename_i hsignal
        split
        · exact fails _
        · rename_i hrejected
          have hfinishes : c.finishesAuth (.helloSettled t) = some t :=
            if_pos ⟨hphase, hhello, hclose, hsignal, hrejected⟩
          have hfinish : ResolvesOwn c (c.finishAuth .resolved) True :=
            settleAuth_resolvesOwn c .resolved
          have hlater : ∀ t', (((c.finishAuth .resolved).beginRestore t).attempts t').authOutcome =
                ((c.finishAuth .resolved).attempts t').authOutcome ∧
              (((c.finishAuth .resolved).authenticated t).attempts t').authOutcome =
                ((c.finishAuth .resolved).attempts t').authOutcome := by
            intro t'
            rw [beginRestore_attempts, authenticated_attempts]
            by_cases ht : t' = t
            · subst ht
              exact ⟨by rw [Function.update_self], by rw [Function.update_self]⟩
            · exact ⟨by rw [Function.update_of_ne ht], by rw [Function.update_of_ne ht]⟩
          intro t' hr
          dsimp only at hr
          refine (hfinish t' ?_).imp_right fun ⟨_, hown⟩ => ⟨hfinishes, hown⟩
          split at hr
          · exact (hlater t').1 ▸ hr
          · exact (hlater t').2 ▸ hr
  · cases hs
    exact fails _
  · cases hs

/-- What lets a step resolve the outcome of an authentication. -/
def ResolvesAuth (c : Connection) (e : Event) : Prop :=
  ∃ t, c.receivesHello e = some t ∧ (c.attempts t).receiveLoop = .running ∨
    c.finishesAuth e = some t

theorem step_resolvesOwn (h : c.multiplexer.WellFormed) (hs : c.step e = some c') :
    ResolvesOwn c c' (c.ResolvesAuth e) := by
  by_cases hreceive : ∃ t outcome, e = .receive t outcome
  · obtain ⟨t, outcome, rfl⟩ := hreceive
    intro t' hr
    exact (receive_resolvesOwn h hs t' hr).imp_right fun ⟨hhello, hown⟩ =>
      ⟨⟨t, Or.inl hhello⟩, hown⟩
  · cases step_effect h hs with
    | quiet _ hq => exact resolvesOwn_of_eq fun t => (hq.attempts t).authOutcome
    | opens | wakes => exact resolvesOwn_of_opens (openAndAuthenticate_attempts c _ _)
    | forgets | closesIdle | settlesLoss | wakesClosed | returns | settlesLoop =>
        exact fun _ => Or.inl
    | closes =>
        exact fun _ hr => Or.inl (tearDown_resolved (c := { c with closePromise := true }) hr)
    | connected _ ho =>
        cases ho with
        | failed error => exact resolvesOwn_of_update (catchFailure_attempts c _ error) rfl
        | @rejected c₁ _ _ _ _ hattempts error =>
            obtain ⟨loop, hloop⟩ := hattempts
            intro t' hr
            refine Or.inl ?_
            have hr₁ := (resolvesOwn_of_update
              (catchFailure_attempts c₁ _ error) rfl t' hr).resolve_right (fun h => h.1)
            exact (resolvesOwn_of_update hloop rfl t' hr₁).resolve_right
              fun h => h.1
        | negotiating _ _ _ _ hattempts => exact resolvesOwn_of_update hattempts rfl
    | fails error => exact resolvesOwn_of_update (catchFailure_attempts c _ error) rfl
    | negotiated =>
        intro t' hr
        exact (helloSettled_resolvesOwn hs t' hr).imp_right fun ⟨hf, hown⟩ => ⟨⟨_, Or.inr hf⟩, hown⟩
    | restoreFails =>
        exact resolvesOwn_of_update
          (catchFailure_attempts { c with reconnectRestoreActive := false } _ _) rfl
    | restores =>
        exact resolvesOwn_of_update
          (authenticated_attempts { c with reconnectRestoreActive := false } _) rfl
    | rethrows _ hr =>
        obtain ⟨thrown, hattempts⟩ := hr.attempts
        exact resolvesOwn_of_update hattempts rfl
    | receives | receivesLast => exact absurd ⟨_, _, rfl⟩ hreceive
    | loses _ _ _ _ hresolves ho hw =>
        intro t' hr
        exact Or.inl ((hresolves t' (ho.resolved (hw.authOutcome t' ▸ hr))).resolve_right (by simp))
    | attempted _ _ _ _ hattempts => exact resolvesOwn_of_eq fun _ => by rw [hattempts]

/-! ### How an attempt advances -/

/-- Where an attempt enters the variable `authOutcome`, starts its receive loop, and
begins to restore. -/
structure Advances (c : Connection) (e : Event) (c' : Connection) : Prop where
  authOutcome : ∀ {t}, c'.authOutcome = some t → c.authOutcome = some t ∨
    e = .transportConnect t none ∧ (c'.attempts t).sendConnect = .token
  receiveLoop : ∀ {t}, (c'.attempts t).receiveLoop = .running →
    (c.attempts t).receiveLoop = .running ∨
      e = .transportConnect t none ∧ ∀ {t'}, c'.authOutcome = some t' → t' = t
  restoring : ∀ {t}, (c'.attempts t).phase = .restoring →
    (c.attempts t).phase = .restoring ∨ (c.attempts t).hello = .resolved

/-- The variable is kept or cleared, and attempts are where they were. -/
theorem advances_of_fields (hvar : c'.authOutcome = c.authOutcome ∨ c'.authOutcome = none)
    (hloop : ∀ t, (c'.attempts t).receiveLoop = .running → (c.attempts t).receiveLoop = .running)
    (hphase : ∀ t, (c'.attempts t).phase = .restoring → (c.attempts t).phase = .restoring) :
    Advances c e c' := by
  refine ⟨fun ht => Or.inl ?_, fun hr => Or.inl (hloop _ hr), fun hr => Or.inl (hphase _ hr)⟩
  rcases hvar with heq | heq
  · exact heq ▸ ht
  · rw [heq] at ht
    cases ht

/-- So for one attempt that is changed. -/
theorem advances_of_update (hvar : c'.authOutcome = c.authOutcome ∨ c'.authOutcome = none)
    {a : Attempt} (hattempts : c'.attempts = Function.update c.attempts t a)
    (hloop : a.receiveLoop = .running → (c.attempts t).receiveLoop = .running)
    (hphase : a.phase ≠ .restoring) : Advances c e c' := by
  refine advances_of_fields hvar (fun t' hr => ?_) fun t' hr => ?_
  all_goals
    rw [hattempts] at hr
    by_cases ht : t' = t
    · subst ht
      rw [Function.update_self] at hr
      first
      | exact hloop hr
      | exact absurd hr hphase
    · rw [Function.update_of_ne ht] at hr
      exact hr

theorem advances_of_samePlace (hvar : c'.authOutcome = c.authOutcome ∨ c'.authOutcome = none)
    (hplace : ∀ t, (c.attempts t).SamePlace (c'.attempts t)) : Advances c e c' :=
  advances_of_fields hvar (fun t hr => (hplace t).receiveLoop ▸ hr)
    fun t hr => (hplace t).phase ▸ hr

/-- A loss leaves the variable alone, and attempts where they were. -/
theorem ReportOutcome.kept (ho : ReportOutcome c t c') : c'.authOutcome = c.authOutcome ∧
    ∀ t', (c'.attempts t').receiveLoop = (c.attempts t').receiveLoop ∧
      (c'.attempts t').phase = (c.attempts t').phase := by
  have hreport : ∀ t', ((c.reportLoss t).attempts t').receiveLoop = (c.attempts t').receiveLoop ∧
      ((c.reportLoss t).attempts t').phase = (c.attempts t').phase := by
    intro t'
    unfold reportLoss
    rw [modifyAttempt_attempts]
    by_cases ht : t' = t
    · subst ht
      rw [Function.update_self]
      exact ⟨rfl, rfl⟩
    · rw [Function.update_of_ne ht]
      exact ⟨rfl, rfl⟩
  cases ho with
  | swallowed => exact ⟨rfl, hreport⟩
  | late => exact ⟨rfl, hreport⟩
  | @lost c₁ _ _ hl =>
      refine ⟨?_, fun t' => ⟨(hl.attempts t').receiveLoop.trans (hreport t').1,
        (hl.attempts t').phase.trans (hreport t').2⟩⟩
      change c₁.authOutcome = _
      rw [hl.control]
      rfl

theorem WindsUp.kept (hw : WindsUp t c c') : c'.authOutcome = c.authOutcome ∧
    ∀ t', ((c'.attempts t').receiveLoop = .running → (c.attempts t').receiveLoop = .running) ∧
      (c'.attempts t').phase = (c.attempts t').phase := by
  refine ⟨by rw [hw.control], fun t' => ?_⟩
  rcases hw.attempts t' with heq | ⟨rfl, heq⟩
  · rw [heq]
    exact ⟨id, rfl⟩
  · rw [heq]
    exact ⟨fun hr => (nomatch hr), rfl⟩

theorem ConnectedOutcome.advances (ho : ConnectedOutcome c t c') :
    Advances c (.transportConnect t none) c' := by
  cases ho with
  | failed error =>
      exact advances_of_update (Or.inr rfl) (catchFailure_attempts c t error) id (by simp)
  | @rejected c₁ _ _ _ _ hattempts error =>
      obtain ⟨loop, hloop⟩ := hattempts
      have hafter := catchFailure_attempts c₁ t error
      refine ⟨fun ht => (by cases ht), fun {t'} hr => ?_, fun {t'} hp => ?_⟩
      · by_cases ht : t' = t
        · exact Or.inr ⟨by rw [ht], fun h => by cases h⟩
        · rw [hafter, Function.update_of_ne ht, hloop, Function.update_of_ne ht] at hr
          exact Or.inl hr
      · by_cases ht : t' = t
        · subst ht
          rw [hafter, Function.update_self] at hp
          cases hp
        · rw [hafter, Function.update_of_ne ht, hloop, Function.update_of_ne ht] at hp
          exact Or.inl hp
  | negotiating _ hcontrol _ _ hattempts =>
      have hvar : c'.authOutcome = some t := by rw [hcontrol]
      refine ⟨fun ht => Or.inr ?_, fun {t'} hr => ?_, fun {t'} hp => ?_⟩
      · obtain rfl := Option.some.inj (hvar.symm.trans ht)
        exact ⟨rfl, by rw [hattempts, Function.update_self]⟩
      · by_cases ht : t' = t
        · exact Or.inr ⟨by rw [ht], fun h => ht ▸ Option.some.inj (h.symm.trans hvar)⟩
        · rw [hattempts, Function.update_of_ne ht] at hr
          exact Or.inl hr
      · by_cases ht : t' = t
        · subst ht
          rw [hattempts, Function.update_self] at hp
          cases hp
        · rw [hattempts, Function.update_of_ne ht] at hp
          exact Or.inl hp

theorem HelloOutcome.advances (ho : HelloOutcome c t c')
    (hhello : (c.attempts t).hello = .resolved) :
    Advances c e c' := by
  have hplace := finishAuth_attempts c .resolved
  -- both ways to go on change the attempt itself only in its phase
  have later : ∀ {c₁ : Connection} {phase}, c₁.authOutcome = none →
      c₁.attempts = Function.update (c.finishAuth .resolved).attempts t
        { (c.finishAuth .resolved).attempts t with phase } → Advances c e c₁ := by
    intro c₁ phase hvar hattempts
    refine ⟨fun ht => ?_, fun {t'} hr => Or.inl ?_, fun {t'} hp => ?_⟩
    · rw [hvar] at ht
      cases ht
    · rw [hattempts] at hr
      by_cases ht : t' = t
      · subst ht
        rw [Function.update_self] at hr
        exact (hplace t').receiveLoop ▸ hr
      · rw [Function.update_of_ne ht] at hr
        exact (hplace t').receiveLoop ▸ hr
    · rw [hattempts] at hp
      by_cases ht : t' = t
      · subst ht
        exact Or.inr hhello
      · rw [Function.update_of_ne ht] at hp
        exact Or.inl ((hplace t').phase ▸ hp)
  cases ho with
  | failed error =>
      exact advances_of_update (Or.inr rfl) (catchFailure_attempts c t error) id (by simp)
  | restoring =>
      refine later ?_ (beginRestore_attempts _ t)
      rw [beginRestore_control, finishAuth_control]
  | authenticated =>
      refine later ?_ (authenticated_attempts _ t)
      rw [authenticated_control, finishAuth_control]

theorem Effect.advances (he : Effect c e c') : Advances c e c' := by
  cases he with
  | quiet _ hq =>
      exact advances_of_samePlace (Or.inl (by rw [hq.control])) fun t => (hq.attempts t).samePlace
  | opens | wakes =>
      exact advances_of_update (Or.inl rfl) (openAndAuthenticate_attempts c _ _) (by simp) (by simp)
  | forgets | closesIdle | settlesLoss | wakesClosed | returns | settlesLoop =>
      exact advances_of_fields (Or.inl rfl) (fun _ => id) fun _ => id
  | closes =>
      obtain ⟨hcontrol, -, -, hplace, -⟩ := tearDown_fields { c with closePromise := true }
      exact advances_of_samePlace (Or.inr (by rw [hcontrol])) hplace
  | connected _ ho => exact ho.advances
  | fails error =>
      exact advances_of_update (Or.inr rfl) (catchFailure_attempts c _ error) id (by simp)
  | negotiated _ hhello ho => exact ho.advances hhello
  | restoreFails =>
      exact advances_of_update (Or.inr rfl)
        (catchFailure_attempts { c with reconnectRestoreActive := false } _ _) id (by simp)
  | restores =>
      refine advances_of_update (Or.inl ?_)
        (authenticated_attempts { c with reconnectRestoreActive := false } _) id (by simp)
      rw [authenticated_control]
  | rethrows _ hr =>
      obtain ⟨thrown, hattempts⟩ := hr.attempts
      refine advances_of_update (Or.inl ?_) hattempts id (by simp)
      cases hr.outcome with
      | handled _ _ hcontrol | closing _ _ _ hcontrol | failed _ _ _ hcontrol =>
          rw [hcontrol]
          rfl
  | receives _ hh => exact advances_of_samePlace (Or.inl (by rw [hh.control])) hh.attempts
  | @receivesLast t _ c₁ hh =>
      have hw := (endReceiveLoop_windsUp t c₁).kept
      refine advances_of_fields (Or.inl (hw.1.trans (by rw [hh.control])))
        (fun t' hr => (hh.attempts t').receiveLoop ▸ (hw.2 t').1 hr)
        fun t' hp => (hh.attempts t').phase ▸ (hw.2 t').2 ▸ hp
  | @loses _ t c₀ c₁ _ _ _ hh _ _ ho hw =>
      have hr := ho.kept
      have hw := hw.kept
      refine advances_of_fields (Or.inl (hw.1.trans (hr.1.trans (by rw [hh.control]))))
        (fun t' h => ?_) fun t' h => ?_
      · exact (hh.attempts t').receiveLoop ▸ (hr.2 t').1 ▸ (hw.2 t').1 h
      · exact (hh.attempts t').phase ▸ (hr.2 t').2 ▸ (hw.2 t').2 ▸ h
  | attempted _ _ ho _ hattempts =>
      refine advances_of_fields (Or.inl ?_) (fun _ h => hattempts ▸ h) fun _ h => hattempts ▸ h
      cases ho with
      | ended _ _ _ hcontrol | rejected _ hcontrol | exhausted _ hcontrol | retries _ _ hcontrol =>
          rw [hcontrol]

/-! ### Whose the variables are -/

/-- The deferred in the variable is of an attempt that waits for HELLO, and while
`reconnectRestoreActive` is set an attempt restores. -/
structure Attended (c : Connection) : Prop where
  authOutcome : ∀ {t}, c.authOutcome = some t → (c.attempts t).phase = .negotiating
  restoring : c.reconnectRestoreActive = true → ∃ t, (c.attempts t).phase = .restoring

theorem attended_create (options : ConnectionOptions) : (create options).Attended :=
  ⟨fun h => (by cases h), fun h => (by cases h)⟩

/-- The variables are cleared. -/
theorem attended_of_cleared (hvar : c'.authOutcome = none)
    (hrestore : c'.reconnectRestoreActive = false) : c'.Attended := by
  refine ⟨fun ht => ?_, fun hr => ?_⟩
  · rw [hvar] at ht
    cases ht
  · rw [hrestore] at hr
    cases hr

theorem catchFailure_attended (c : Connection) (t : TransportId) (error : ClientError) :
    (c.catchFailure t error).Attended := attended_of_cleared rfl rfl

namespace Attended

/-- The variables are kept, and so are the phases they speak of. -/
theorem of_phases (h : c.Attended) (hvar : c'.authOutcome = c.authOutcome)
    (hrestore : c'.reconnectRestoreActive = c.reconnectRestoreActive)
    (hphase : ∀ t, (c.attempts t).phase = .negotiating ∨ (c.attempts t).phase = .restoring →
      (c'.attempts t).phase = (c.attempts t).phase) : c'.Attended := by
  refine ⟨fun {t} ht => ?_, fun hr => ?_⟩
  · have hnegotiating := h.authOutcome (hvar ▸ ht)
    rw [hphase t (Or.inl hnegotiating), hnegotiating]
  · obtain ⟨t, hrestoring⟩ := h.restoring (hrestore ▸ hr)
    exact ⟨t, by rw [hphase t (Or.inr hrestoring), hrestoring]⟩

theorem of_samePlace (h : c.Attended) (hvar : c'.authOutcome = c.authOutcome)
    (hrestore : c'.reconnectRestoreActive = c.reconnectRestoreActive)
    (hplace : ∀ t, (c.attempts t).SamePlace (c'.attempts t)) : c'.Attended :=
  h.of_phases hvar hrestore fun t _ => (hplace t).phase

theorem of_handles (h : c.Attended) {frames : List InboundFrame} (hh : Handles frames c c') :
    c'.Attended := h.of_samePlace (by rw [hh.control]) (by rw [hh.control]) hh.attempts

/-- An attempt that neither waits for HELLO nor restores moves on. -/
theorem of_update (h : c.Attended) (hvar : c'.authOutcome = c.authOutcome)
    (hrestore : c'.reconnectRestoreActive = c.reconnectRestoreActive) {a : Attempt}
    (hattempts : c'.attempts = Function.update c.attempts t a)
    (hphase : (c.attempts t).phase ≠ .negotiating ∧ (c.attempts t).phase ≠ .restoring) :
    c'.Attended := by
  refine h.of_phases hvar hrestore fun t' hp => ?_
  have hne : t' ≠ t := by
    rintro rfl
    exact hp.elim hphase.1 hphase.2
  rw [hattempts, Function.update_of_ne hne]

/-- A transport is opened: its attempt is a new one. -/
theorem of_opens (h : c.Attended) (hn : c.Newest) (hvar : c'.authOutcome = c.authOutcome)
    (hrestore : c'.reconnectRestoreActive = c.reconnectRestoreActive) {a : Attempt}
    (hattempts : c'.attempts = Function.update c.attempts c.opened a) : c'.Attended := by
  have fresh : ∀ {phase}, (c.attempts c.opened).phase = phase →
      (c.attempts c.opened).inProgress = true → False := fun _ hp =>
    absurd (hn.inProgress hp) (Nat.succ_ne_self _)
  refine h.of_update hvar hrestore hattempts ⟨fun hp => ?_, fun hp => ?_⟩
  · exact fresh hp (by simp [Attempt.inProgress, hp])
  · exact fresh hp (by simp [Attempt.inProgress, hp])

theorem of_connected (h : c.Attended) (hn : c.Newest) (hphase : (c.attempts t).phase = .connecting)
    (ho : ConnectedOutcome c t c') : c'.Attended := by
  cases ho with
  | failed error => exact catchFailure_attended c t error
  | @rejected c₁ _ _ _ _ _ error => exact catchFailure_attended c₁ t error
  | negotiating _ hcontrol _ _ hattempts =>
      refine ⟨fun {t'} ht => ?_, fun hr => ?_⟩
      · rw [hcontrol] at ht
        obtain rfl := Option.some.inj ht
        rw [hattempts, Function.update_self]
      · -- the attempt that restores would be the newest, and so the one that connects
        rw [hcontrol] at hr
        obtain ⟨t', hrestoring⟩ := h.restoring hr
        have hnew : (c.attempts t').inProgress := by simp [Attempt.inProgress, hrestoring]
        have hconnects : (c.attempts t).inProgress := by simp [Attempt.inProgress, hphase]
        obtain rfl := hn.unique hnew hconnects
        rw [hphase] at hrestoring
        cases hrestoring

theorem of_hello (h : c.Attended) (hphase : (c.attempts t).phase = .negotiating)
    (ho : HelloOutcome c t c') : c'.Attended := by
  cases ho with
  | failed error => exact catchFailure_attended c t error
  | restoring =>
      refine ⟨fun ht => ?_, fun _ => ⟨t, ?_⟩⟩
      · rw [beginRestore_control, finishAuth_control] at ht
        cases ht
      · rw [beginRestore_attempts, Function.update_self]
  | authenticated =>
      refine ⟨fun ht => ?_, fun hr => ?_⟩
      · rw [authenticated_control, finishAuth_control] at ht
        cases ht
      · rw [authenticated_control, finishAuth_control] at hr
        obtain ⟨t', hrestoring⟩ := h.restoring hr
        have hne : t' ≠ t := by
          rintro rfl
          rw [hphase] at hrestoring
          cases hrestoring
        refine ⟨t', ?_⟩
        rw [authenticated_attempts, Function.update_of_ne hne]
        exact (finishAuth_attempts c .resolved t').phase.trans hrestoring

/-- The restore of an attempt is over. -/
theorem of_restored (h : c.Attended) (hphase : (c.attempts t).phase = .restoring) :
    ({ c with reconnectRestoreActive := false }.authenticated t).Attended := by
  refine ⟨fun {t'} ht => ?_, fun hr => ?_⟩
  · rw [authenticated_control] at ht
    have hnegotiating := h.authOutcome ht
    have hne : t' ≠ t := by
      rintro rfl
      rw [hphase] at hnegotiating
      cases hnegotiating
    rw [authenticated_attempts, Function.update_of_ne hne]
    exact hnegotiating
  · rw [authenticated_control] at hr
    cases hr

theorem of_report (h : c.Attended) (ho : ReportOutcome c t c') : c'.Attended := by
  have hkept := ho.kept
  refine h.of_phases hkept.1 ?_ fun t' _ => (hkept.2 t').2
  cases ho with
  | swallowed => rfl
  | late => rfl
  | @lost c₁ _ _ hl =>
      change c₁.reconnectRestoreActive = _
      rw [hl.control]
      rfl

end Attended

/-- Whose the variables are stays clear while there is one attempt at a time. -/
theorem Effect.attended (he : Effect c e c') (h : c.Attended) (hn : c.Newest) : c'.Attended := by
  cases he with
  | quiet _ hq =>
      exact h.of_samePlace (by rw [hq.control]) (by rw [hq.control])
        fun t => (hq.attempts t).samePlace
  | opens | wakes => exact h.of_opens hn rfl rfl (openAndAuthenticate_attempts c _ _)
  | forgets | closesIdle | settlesLoss | wakesClosed | returns | settlesLoop =>
      exact ⟨h.authOutcome, h.restoring⟩
  | closes =>
      obtain ⟨hcontrol, -, -, hplace, -⟩ := tearDown_fields { c with closePromise := true }
      refine ⟨fun ht => ?_, fun hr => ?_⟩
      · rw [hcontrol] at ht
        cases ht
      · rw [hcontrol] at hr
        obtain ⟨t, hrestoring⟩ := h.restoring hr
        exact ⟨t, (hplace t).phase.trans hrestoring⟩
  | connected hphase ho => exact h.of_connected hn hphase ho
  | fails error => exact catchFailure_attended c _ error
  | negotiated hphase _ ho => exact h.of_hello hphase ho
  | restoreFails =>
      exact catchFailure_attended { c with reconnectRestoreActive := false } _ _
  | restores hphase => exact h.of_restored hphase
  | rethrows hphase hr =>
      obtain ⟨thrown, hattempts⟩ := hr.attempts
      have hleft : ∀ {phase}, phase = AttemptPhase.negotiating ∨ phase = .restoring →
          (c.attempts _).phase ≠ phase := fun hp => by
        rw [hphase]
        rcases hp with rfl | rfl <;> simp
      have hmoved := hleft (Or.inl rfl)
      have hmoved' := hleft (Or.inr rfl)
      cases hr.outcome with
      | handled _ _ hcontrol | closing _ _ _ hcontrol | failed _ _ _ hcontrol =>
          exact h.of_update (by rw [hcontrol]; rfl) (by rw [hcontrol]; rfl) hattempts
            ⟨hmoved, hmoved'⟩
  | receives _ hh => exact h.of_handles hh
  | @receivesLast t _ c₁ hh =>
      have hw := endReceiveLoop_windsUp t c₁
      exact (h.of_handles hh).of_phases (by rw [hw.control])
        (by rw [hw.control]) fun t' _ => (hw.kept.2 t').2
  | loses _ _ hh _ _ ho hw =>
      exact ((h.of_handles hh).of_report ho).of_phases (by rw [hw.control])
        (by rw [hw.control]) fun t' _ => (hw.kept.2 t').2
  | attempted _ _ ho _ hattempts =>
      refine h.of_phases ?_ ?_ fun t _ => by rw [hattempts]
      all_goals
        cases ho with
        | ended _ _ _ hcontrol | rejected _ hcontrol | exhausted _ hcontrol
        | retries _ _ hcontrol =>
            rw [hcontrol]

/-! ### Where a call is found ready -/

theorem call_readyOn {request : CallRequest} {messageType : MessageType} {frameLength : Nat}
    {signal : Option Bool}
    (h : ((c.call i request messageType frameLength signal).calls i).readyOn = some t) :
    c.transport = some t ∧ c.reconnectRestoreActive = true := by
  -- a call that has to wait is not ready yet
  have waits : ∀ {c₁ : Connection} {kind aborted},
      (((c₁.startCall i kind messageType frameLength signal).acquireSlotAndWait i aborted).calls
        i).readyOn ≠ some t := by
    intro c₁ kind aborted
    unfold acquireSlotAndWait
    split <;> simp [finishCall, modifyCall, startCall, waitForReady]
  unfold call at h
  split at h
  · simp [modifyCall, startCall, waitForReady] at h
  · dsimp only at h
    split at h
    · rename_i hrestores
      simp only [restoreShortcut, startCall, modifyCall, Bool.and_eq_true] at hrestores
      simp only [modifyCall, startCall, Function.update_self] at h
      exact ⟨h, hrestores.1.1.1.1.2⟩
    · exact absurd h waits
  · exact absurd h waits
  · unfold sendCorrelated at h
    split at h
    · simp [finishCall, modifyCall, startCall] at h
    · exact absurd h waits

theorem readyContinues_readyOn (hs : c.readyContinues i = some c')
    (h : (c'.calls i).readyOn = some t) :
    (c.calls i).readyOn = some t ∨ c.transport = some t ∧ c.state = .authenticated := by
  have returned : ∀ {slot failure}, (c.calls i).phase = .waitingReady slot →
      ((c.waitReturned i slot failure).calls i).readyOn = some t →
        (c.calls i).readyOn = some t ∨ c.transport = some t ∧ c.state = .authenticated := by
    intro slot failure hphase hready
    unfold waitReturned at hready
    extract_lets c₁ at hready
    have hcontrol : c₁.toControl = c.toControl := by
      change (c.releaseReadyWaitSlot slot).toControl = _
      cases slot <;> rfl
    have hcalls : c₁.calls = c.calls := by
      change (c.releaseReadyWaitSlot slot).calls = _
      cases slot <;> rfl
    have finished : ∀ {failure}, ((c₁.finishCall i failure).calls i).readyOn = some t →
        (c.calls i).readyOn = some t := fun hf => by
      simpa [finishCall, modifyCall, hcalls] using hf
    -- the slot is asked for only behind the check that the client is authenticated
    have acquired : c₁.ensureAuthenticated = none →
        ((c₁.acquireRequestSlot i).calls i).readyOn = some t →
          c.transport = some t ∧ c.state = .authenticated := by
      intro hauthenticated ha
      unfold Control.ensureAuthenticated at hauthenticated
      rw [hcontrol] at hauthenticated
      split at hauthenticated
      · cases hauthenticated
      · rename_i hstate
        have htransport : c₁.transport = some t := by
          simpa [acquireRequestSlot, modifyCall, modifyGate, hcalls, hphase] using ha
        rw [hcontrol] at htransport
        exact ⟨htransport, not_not.mp (not_or.mp hstate).2⟩
    split at hready
    · exact Or.inl (finished hready)
    · split at hready
      · exact Or.inl (finished hready)
      · exact Or.inl (finished hready)
      · split at hready
        · exact Or.inl (finished hready)
        · exact Or.inr (acquired ‹_› hready)
      · split at hready
        · exact Or.inl (finished hready)
        · exact Or.inr (acquired ‹_› hready)
  unfold readyContinues at hs
  split at hs
  · rename_i hphase
    cases hs
    exact Or.inl (by simpa [acquireRequestSlot, modifyCall, modifyGate, hphase] using h)
  · rename_i slot hphase
    split at hs
    · cases hs
      exact returned hphase h
    · cases hs
      exact returned hphase h
    · cases hs
    · cases hs
  · cases hs

theorem releaseAndFinish_readyOn {gate : GateId} {failure : Option ClientError} :
    ((c.releaseAndFinish i gate failure).calls i).readyOn = (c.calls i).readyOn := by
  simp [releaseAndFinish, finishCall, modifyCall, modifyGate]

theorem slotContinues_readyOn {nowMs : Nat} (hs : c.slotContinues i nowMs = some c') :
    (c'.calls i).readyOn = (c.calls i).readyOn := by
  unfold slotContinues at hs
  split at hs
  · split at hs
    · cases hs
      unfold slotGranted
      split
      · exact releaseAndFinish_readyOn
      · split
        · exact releaseAndFinish_readyOn
        · split
          · simp [sendSerialized, modifyCall]
          · unfold multiplexerRequest
            extract_lets call r
            split
            · exact releaseAndFinish_readyOn
            · simp [sendSerialized, modifyCall]
    · cases hs
      simp [finishCall, modifyCall]
    · cases hs
    · cases hs
  · cases hs

theorem callSettles_readyOn (hs : c.callSettles i = some c') :
    (c'.calls i).readyOn = (c.calls i).readyOn := by
  unfold callSettles at hs
  split at hs
  · cases hs
    exact releaseAndFinish_readyOn
  · rename_i gate t error _
    cases hs
    have hloss : Spares (fun _ => False) True c (c.handlePossibleTransportFailure error t) :=
      handlePossibleTransportFailure_spares c error t
    exact releaseAndFinish_readyOn.trans (hloss.calls i id).2.2
  · cases hs

theorem connect_readyOn {signal : Option Bool}
    (h : ((c.connect i signal).2.calls i).readyOn = some t) : (c.calls i).readyOn = some t := by
  unfold connect at h
  split at h
  · exact h
  · split at h
    · exact h
    · split at h
      · exact h
      · split at h
        · exact h
        · split at h
          · simp [modifyCall, waitForReady] at h
          · exact h

/-- A call is found ready on the transport that is installed, by an authenticated connection
or during a restore. -/
theorem step_readyOn (hs : c.step e = some c') (h : (c'.calls i).readyOn = some t) :
    (c.calls i).readyOn = some t ∨
      c.transport = some t ∧ (c.state = .authenticated ∨ c.reconnectRestoreActive = true) := by
  by_cases hmover : mover e = some i
  · cases e with
    | connect =>
        obtain rfl := Option.some.inj hmover
        simp only [Connection.step] at hs
        split at hs
        · cases hs
          exact Or.inl (connect_readyOn h)
        · cases hs
    | call =>
        obtain rfl := Option.some.inj hmover
        simp only [Connection.step, callStep] at hs
        split at hs
        · cases hs
          exact Or.inr ((call_readyOn h).imp_right Or.inr)
        · cases hs
    | readyContinues =>
        obtain rfl := Option.some.inj hmover
        exact (readyContinues_readyOn hs h).imp_right (And.imp_right Or.inl)
    | slotContinues =>
        obtain rfl := Option.some.inj hmover
        exact Or.inl (slotContinues_readyOn hs ▸ h)
    | callSettles =>
        obtain rfl := Option.some.inj hmover
        exact Or.inl (callSettles_readyOn hs ▸ h)
    | _ => cases hmover
  · exact Or.inl (((step_spares hs).calls i hmover).2.2 ▸ h)

/-! ### The invariant -/

/-- How the attempts stand to the frames. `received` says on which transports a valid
HELLO has been received. -/
structure Handshakes (received : TransportId → Prop) (c : Connection) : Prop where
  coherent : ∀ t, (c.attempts t).Coherent
  connectWritten : ∀ t, (c.attempts t).ConnectWritten → ⟨t, .connect⟩ ∈ c.written
  pastToken : ∀ t, ⟨t, .connect⟩ ∈ c.written → (c.attempts t).PastToken
  /-- An attempt may have been told of the HELLO of a newer one, but then it has not
  written CONNECT, and will not. -/
  received : ∀ t, (c.attempts t).authOutcome = .resolved →
    received t ∨ c.transport ≠ some t ∧ ⟨t, .connect⟩ ∉ c.written
  /-- A receive loop that listens would resolve the deferred of its own attempt. -/
  listening : ∀ {t t'}, c.authOutcome = some t → ⟨t, .connect⟩ ∈ c.written →
    c.transport = some t' → (c.attempts t').receiveLoop = .running → t' = t
  transport : ∀ {t}, c.transport = some t → t < c.opened
  written : ∀ w ∈ c.written, w.transport < c.opened
  writeChain : ∀ w ∈ c.writeChain, w.frame ≠ .connect
  restoring : ∀ t, (c.attempts t).phase = .restoring → c.HandshakeDone t
  heartbeat : ∀ {t}, c.heartbeatTransport = some t → c.HandshakeDone t
  authenticated : ∀ {t}, c.state = .authenticated → c.transport = some t → c.HandshakeDone t
  ready : ∀ {i t}, (c.calls i).readyOn = some t → c.HandshakeDone t
  frames : ∀ w ∈ c.writeChain ++ c.written, w.frame ≠ .connect → c.HandshakeDone w.transport
  first : ∀ t w, (c.written.filter (·.transport = t)).getLast? = some w → w.frame = .connect

namespace Handshakes

variable {received received' : TransportId → Prop}

/-- An attempt that has got its HELLO has its handshake done. -/
theorem done (h : Handshakes received c) (hhello : (c.attempts t).hello = .resolved) :
    c.HandshakeDone t := by
  obtain ⟨hsent, hauth⟩ := (h.coherent t).hello hhello
  exact ⟨h.connectWritten t (Or.inr hsent), hauth⟩

theorem done_lt (h : Handshakes received c) (hdone : c.HandshakeDone t) : t < c.opened :=
  h.written _ hdone.1

theorem writeChain_lt (h : Handshakes received c) {w : Write} (hw : w ∈ c.writeChain) :
    w.transport < c.opened :=
  h.done_lt (h.frames w (List.mem_append_left _ hw) (h.writeChain w hw))

end Handshakes

/-! ### What a step does to the frames -/

/-- What is written stays written. -/
theorem Posts.written_mono (hp : Posts c e c') {w : Write} (hw : w ∈ c.written) :
    w ∈ c'.written := by
  cases hp with
  | still _ hs => exact hs.written ▸ hw
  | opens _ _ _ hwritten | draws _ _ _ _ _ _ _ _ _ _ _ hwritten
  | binds _ _ _ _ _ _ _ _ _ _ hwritten | beats _ _ _ hwritten =>
      rw [hwritten]
      exact hw
  | begins hcalm | resumes hcalm => exact hcalm.written ▸ hw
  | connects _ _ _ _ hwritten | writes _ _ _ hwritten =>
      rw [hwritten]
      exact List.mem_cons_of_mem _ hw

/-- What is written is CONNECT on the installed transport, or the head of the chain. -/
theorem Posts.written_new (hp : Posts c e c') {w : Write} (hw : w ∈ c'.written) :
    w ∈ c.written ∨ w ∈ c.writeChain ∨ w.frame = .connect ∧ c.transport = some w.transport := by
  cases hp with
  | still _ hs => exact Or.inl (hs.written ▸ hw)
  | opens _ _ _ hwritten | draws _ _ _ _ _ _ _ _ _ _ _ hwritten
  | binds _ _ _ _ _ _ _ _ _ _ hwritten | beats _ _ _ hwritten =>
      rw [hwritten] at hw
      exact Or.inl hw
  | begins hcalm | resumes hcalm => exact Or.inl (hcalm.written ▸ hw)
  | connects _ hcurrent _ _ hwritten =>
      rw [hwritten] at hw
      rcases List.mem_cons.mp hw with rfl | hw
      · exact Or.inr (Or.inr ⟨rfl, hcurrent⟩)
      · exact Or.inl hw
  | writes _ hnext _ hwritten =>
      rw [hwritten] at hw
      rcases List.mem_cons.mp hw with rfl | hw
      · exact Or.inr (Or.inl (hnext ▸ List.mem_cons_self ..))
      · exact Or.inl hw

/-- What joins the chain is a heartbeat of its transport or a frame of a call that was
given the installed one. -/
theorem Posts.writeChain_new (hp : Posts c e c') {w : Write} (hw : w ∈ c'.writeChain) :
    w ∈ c.writeChain ∨ w.frame = .heartbeat ∧ c.heartbeatTransport = some w.transport ∨
      (∃ i id, w.frame = .message i id) ∧ c'.writeChain = c.writeChain ++ [w] ∧
        (∃ i nowMs, e = .slotContinues i nowMs) := by
  cases hp with
  | still _ hs => exact Or.inl (hs.writeChain ▸ hw)
  | opens _ _ hchain | draws _ _ _ _ _ _ _ _ _ _ hchain | connects _ _ _ hchain =>
      rw [hchain] at hw
      exact Or.inl hw
  | begins hcalm | resumes hcalm => exact Or.inl (hcalm.writeChain ▸ hw)
  | beats _ hcurrent hchain =>
      rw [hchain] at hw
      rcases List.mem_append.mp hw with hw | hw
      · exact Or.inl hw
      · obtain rfl := List.mem_singleton.mp hw
        exact Or.inr (Or.inl ⟨rfl, hcurrent⟩)
  | binds _ _ _ _ _ _ _ _ _ hchain =>
      have hw' := hw
      rw [hchain] at hw'
      rcases List.mem_append.mp hw' with hw' | hw'
      · exact Or.inl hw'
      · obtain rfl := List.mem_singleton.mp hw'
        exact Or.inr (Or.inr ⟨⟨_, _, rfl⟩, hchain, _, _, rfl⟩)
  | writes _ hnext hchain =>
      rw [hchain] at hw
      exact Or.inl (hnext ▸ List.mem_cons_of_mem _ hw)

theorem Posts.coherent (hp : Posts c e c') (h : ∀ t, (c.attempts t).Coherent) (t : TransportId) :
    (c'.attempts t).Coherent := by
  cases hp with
  | still _ hs => exact (hs.attempts t).coherent (h t)
  | begins hcalm | resumes hcalm => exact (hcalm.attempts t).coherent (h t)
  | opens _ _ _ _ _ _ _ hattempts =>
      obtain ⟨isReconnect, signal, hattempts⟩ := hattempts
      rw [hattempts]
      by_cases ht : t = c.opened
      · subst ht
        rw [Function.update_self]
        exact ⟨fun hr => (nomatch hr), fun _ => rfl⟩
      · rw [Function.update_of_ne ht]
        exact h t
  | @connects t₀ _ _ _ htoken _ _ hattempts =>
      rw [hattempts]
      by_cases ht : t = t₀
      · subst ht
        rw [Function.update_self]
        refine Attempt.settleHello_coherent ⟨fun hr => ?_, fun hp => ?_⟩
        · have hsent := ((h t).hello hr).1
          rw [htoken] at hsent
          cases hsent
        · have hnot := (h t).connecting hp
          rw [htoken] at hnot
          cases hnot
      · rw [Function.update_of_ne ht]
        exact h t
  | beats _ _ _ _ hattempts | draws _ _ _ _ _ _ _ _ _ _ _ _ hattempts
  | binds _ _ _ _ _ _ _ _ _ _ _ hattempts | writes _ _ _ _ hattempts =>
      rw [hattempts]
      exact h t

theorem Posts.connectWritten (hp : Posts c e c')
    (h : ∀ t, (c.attempts t).ConnectWritten → ⟨t, .connect⟩ ∈ c.written) (t : TransportId)
    (hw : (c'.attempts t).ConnectWritten) : ⟨t, .connect⟩ ∈ c'.written := by
  have hmono := hp.written_mono (w := ⟨t, .connect⟩)
  cases hp with
  | still _ hs => exact hmono (h t ((hs.attempts t).connectWritten hw))
  | begins hcalm | resumes hcalm => exact hmono (h t ((hcalm.attempts t).connectWritten hw))
  | opens _ _ _ _ _ _ _ hattempts =>
      obtain ⟨isReconnect, signal, hattempts⟩ := hattempts
      rw [hattempts] at hw
      by_cases ht : t = c.opened
      · subst ht
        rw [Function.update_self] at hw
        rcases hw with hw | hw <;> cases hw
      · rw [Function.update_of_ne ht] at hw
        exact hmono (h t hw)
  | @connects t₀ _ _ _ _ _ hwritten hattempts =>
      by_cases ht : t = t₀
      · rw [hwritten, ht]
        exact List.mem_cons_self ..
      · rw [hattempts, Function.update_of_ne ht] at hw
        exact hmono (h t hw)
  | beats _ _ _ _ hattempts | draws _ _ _ _ _ _ _ _ _ _ _ _ hattempts
  | binds _ _ _ _ _ _ _ _ _ _ _ hattempts | writes _ _ _ _ hattempts =>
      rw [hattempts] at hw
      exact hmono (h t hw)

namespace Handshakes

variable {received received' : TransportId → Prop}

theorem pastToken_step (h : Handshakes received c) (hp : Posts c e c') (t : TransportId)
    (hw : ⟨t, .connect⟩ ∈ c'.written) : (c'.attempts t).PastToken := by
  have hold : ⟨t, .connect⟩ ∈ c.written ∨ c.transport = some t ∧ ⟨t, .connect⟩ ∉ c.written := by
    by_cases hmem : ⟨t, .connect⟩ ∈ c.written
    · exact Or.inl hmem
    · rcases hp.written_new hw with hw | hw | ⟨-, hcurrent⟩
      · exact Or.inl hw
      · exact absurd rfl (h.writeChain _ hw)
      · exact Or.inr ⟨hcurrent, hmem⟩
  cases hp with
  | still _ hs =>
      exact (hs.attempts t).pastToken (h.coherent t) (h.pastToken t (hs.written ▸ hw))
  | begins hcalm | resumes hcalm =>
      exact (hcalm.attempts t).pastToken (h.coherent t) (h.pastToken t (hcalm.written ▸ hw))
  | opens _ _ _ hwritten _ _ _ hattempts =>
      obtain ⟨isReconnect, signal, hattempts⟩ := hattempts
      rw [hwritten] at hw
      have hne : t ≠ c.opened := Nat.ne_of_lt (h.written _ hw)
      rw [hattempts, Function.update_of_ne hne]
      exact h.pastToken t hw
  | @connects t₀ _ _ _ _ _ hwritten hattempts =>
      rw [hattempts]
      by_cases ht : t = t₀
      · subst ht
        rw [Function.update_self]
        exact ⟨fun hr => (nomatch hr), fun hr => (nomatch hr)⟩
      · rw [Function.update_of_ne ht]
        rw [hwritten] at hw
        rcases List.mem_cons.mp hw with heq | hw
        · cases heq
          exact absurd rfl ht
        · exact h.pastToken t hw
  | beats _ _ _ hwritten hattempts | draws _ _ _ _ _ _ _ _ _ _ _ hwritten hattempts
  | binds _ _ _ _ _ _ _ _ _ _ hwritten hattempts =>
      rw [hattempts]
      exact h.pastToken t (hwritten ▸ hw)
  | writes _ hnext _ hwritten hattempts =>
      rw [hattempts]
      rw [hwritten] at hw
      rcases List.mem_cons.mp hw with heq | hw
      · have hchain : ⟨t, .connect⟩ ∈ c.writeChain := by
          rw [hnext, heq]
          exact List.mem_cons_self ..
        exact absurd rfl (h.writeChain _ hchain)
      · exact h.pastToken t hw

/-- A handshake that is done stays so. -/
theorem done_step (h : Handshakes received c) (hp : Posts c e c') (hdone : c.HandshakeDone t) :
    c'.HandshakeDone t := by
  refine ⟨hp.written_mono hdone.1, ?_⟩
  cases hp with
  | still _ hs => exact (hs.attempts t).authOutcome hdone.2
  | begins hcalm | resumes hcalm => exact (hcalm.attempts t).authOutcome hdone.2
  | opens _ _ _ _ _ _ _ hattempts =>
      obtain ⟨isReconnect, signal, hattempts⟩ := hattempts
      rw [hattempts, Function.update_of_ne (Nat.ne_of_lt (h.done_lt hdone))]
      exact hdone.2
  | @connects t₀ _ _ _ _ _ _ hattempts =>
      rw [hattempts]
      by_cases ht : t = t₀
      · subst ht
        rw [Function.update_self]
        exact hdone.2
      · rw [Function.update_of_ne ht]
        exact hdone.2
  | beats _ _ _ _ hattempts | draws _ _ _ _ _ _ _ _ _ _ _ _ hattempts
  | binds _ _ _ _ _ _ _ _ _ _ _ hattempts | writes _ _ _ _ hattempts =>
      rw [hattempts]
      exact hdone.2

/-- A transport that is installed was so before, or is the next one, whose attempt has
just been made. -/
theorem installed (he : Effect c e c') (h : c'.transport = some t) :
    c.transport = some t ∨ t = c.opened ∧ c'.opened = c.opened + 1 ∧
      (c'.attempts t).authOutcome = .pending ∧ (c'.attempts t).receiveLoop = .notStarted := by
  rcases he.recedes_or_installs with hr | hi
  · exact Or.inl (hr.transport h)
  · obtain ⟨isReconnect, signal, hattempts⟩ := hi.attempts
    obtain rfl := Option.some.inj (hi.transport.symm.trans h)
    refine Or.inr ⟨rfl, hi.opened, ?_, ?_⟩ <;> rw [hattempts, Function.update_self]

theorem opened_mono (he : Effect c e c') : c.opened ≤ c'.opened := by
  rcases he.recedes_or_installs with hr | hi
  · exact hr.opened.ge
  · rw [hi.opened]
    exact Nat.le_succ _

/-- A HELLO reaches the attempt of its transport, or one that is past. -/
theorem received_step (h : Handshakes received c) (hm : c.multiplexer.WellFormed)
    (hn : c.Newest) (ha : c.Attended) (hs : c.step e = some c')
    (hmono : ∀ t, received t → received' t)
    (hhello : ∀ t, c.receivesHello e = some t → received' t) (t : TransportId)
    (hr : (c'.attempts t).authOutcome = .resolved) :
    received' t ∨ c'.transport ≠ some t ∧ ⟨t, .connect⟩ ∉ c'.written := by
  have hp := step_posts hm hs
  have he := step_effect hm hs
  have stays : c.transport ≠ some t ∧ ⟨t, .connect⟩ ∉ c.written →
      c'.transport ≠ some t ∧ ⟨t, .connect⟩ ∉ c'.written := by
    rintro ⟨hstale, hunwritten⟩
    refine ⟨fun hcurrent => ?_, fun hw => ?_⟩
    · rcases installed he hcurrent with hcurrent | ⟨-, -, hpending, -⟩
      · exact hstale hcurrent
      · rw [hpending] at hr
        cases hr
    · rcases hp.written_new hw with hw | hw | ⟨-, hcurrent⟩
      · exact hunwritten hw
      · exact h.writeChain _ hw rfl
      · exact hstale hcurrent
  rcases step_resolvesOwn hm hs t hr with hold | ⟨⟨t₀, hresolves⟩, hvar, hpending⟩
  · exact (h.received t hold).imp (hmono t) stays
  · rcases hresolves with ⟨hello, hrunning⟩ | hfinishes
    · have hcurrent : c.transport = some t₀ := by
        unfold receivesHello at hello
        split at hello
        · split at hello
          · rename_i hcond
            exact Option.some.inj hello ▸ hcond.1
          · cases hello
        · cases hello
      by_cases ht : t₀ = t
      · exact Or.inl (hhello t (ht ▸ hello))
      · refine Or.inr
          (stays ⟨fun hc => ht (Option.some.inj (hcurrent.symm.trans hc)), fun hw => ?_⟩)
        exact ht (h.listening hvar hw hcurrent hrunning)
    · unfold finishesAuth at hfinishes
      split at hfinishes
      · rename_i t₁
        split at hfinishes
        · rename_i hcond
          -- the variable holds the deferred of the attempt that goes on: there is no other
          obtain rfl : t = t₁ := hn.unique (by simp [Attempt.inProgress, ha.authOutcome hvar])
            (by simp [Attempt.inProgress, hcond.1])
          have hauth := ((h.coherent _).hello hcond.2.1).2
          rw [hpending] at hauth
          cases hauth
        · cases hfinishes
      · cases hfinishes

theorem listening_step (h : Handshakes received c) (hp : Posts c e c') (he : Effect c e c')
    (hvar : c'.authOutcome = some t) (hw : ⟨t, .connect⟩ ∈ c'.written)
    (hcurrent : c'.transport = some t') (hrunning : (c'.attempts t').receiveLoop = .running) :
    t' = t := by
  have hcurrent₀ : c.transport = some t' := by
    rcases installed he hcurrent with hc | ⟨-, -, -, hidle⟩
    · exact hc
    · rw [hrunning] at hidle
      cases hidle
  rcases he.advances.authOutcome hvar with hvar₀ | ⟨-, htoken⟩
  · rcases hp.written_new hw with hw₀ | hw₀ | ⟨-, hcurrent₁⟩
    · rcases he.advances.receiveLoop hrunning with hrunning₀ | ⟨-, howner⟩
      · exact h.listening hvar₀ hw₀ hcurrent₀ hrunning₀
      · exact (howner hvar).symm
    · exact absurd rfl (h.writeChain _ hw₀)
    · exact Option.some.inj (hcurrent₀.symm.trans hcurrent₁)
  · exact absurd htoken (h.pastToken_step hp t hw).2

/-- A heartbeat begins with a session, or goes on. -/
theorem heartbeat_step (h : Handshakes received c) (hp : Posts c e c')
    (hheartbeat : c'.heartbeatTransport = some t) : c'.HandshakeDone t := by
  have hdone := fun {t} => h.done_step (t := t) hp
  cases hp with
  | still _ hs => exact hdone (h.heartbeat (hs.heartbeatTransport hheartbeat))
  | opens _ _ _ _ _ _ hnone =>
      rw [hnone] at hheartbeat
      cases hheartbeat
  | begins _ _ hhello _ _ hsource =>
      rcases hsource hheartbeat with rfl | hold
      · exact hdone (h.done hhello)
      · exact hdone (h.heartbeat hold)
  | resumes _ hphase _ hsource =>
      rcases hsource hheartbeat with rfl | hold
      · exact hdone (h.restoring _ hphase)
      · exact hdone (h.heartbeat hold)
  | connects honly | beats honly | writes honly =>
      exact hdone (h.heartbeat (honly.heartbeatTransport ▸ hheartbeat))
  | draws _ _ _ _ _ _ _ _ _ _ _ _ _ hsame | binds _ _ _ _ _ _ _ _ _ _ _ _ hsame =>
      exact hdone (h.heartbeat (hsame ▸ hheartbeat))

/-- The frame of a call goes to the transport the condition speaks of. -/
theorem slotContinues_bindsTo {i : CallId} {nowMs : Nat} {w : Write}
    (hs : c.slotContinues i nowMs = some c') (hchain : c'.writeChain = c.writeChain ++ [w]) :
    c.bindsTo (.slotContinues i nowMs) = some w.transport := by
  have joins : c'.writeChain ≠ c.writeChain := by
    rw [hchain]
    simp
  -- the frame that has been appended is `w`
  have ends : ∀ {t id}, c'.writeChain = c.writeChain ++ [⟨t, .message i id⟩] → t = w.transport := by
    intro t id hends
    have heq := List.append_cancel_left (hends.symm.trans hchain)
    rw [List.singleton_inj] at heq
    rw [← heq]
  unfold slotContinues at hs
  cases hphase : (c.calls i).phase with
  | waitingSlot gate =>
      rw [hphase] at hs
      dsimp only at hs
      cases hgranted : (c.gates gate).outcomes i with
      -- only a granted slot lets a frame join the chain
      | granted =>
          rw [hgranted] at hs
          cases hs
          unfold slotGranted at joins ends
          cases hcurrent : c.transport with
          | none =>
              rw [hcurrent] at joins
              exact absurd rfl joins
          | some t =>
              rw [hcurrent] at joins ends
              dsimp only at joins ends
              by_cases hlength : (c.calls i).frameLength > c.maxMessageBytes
              · rw [if_pos hlength] at joins
                exact absurd rfl joins
              · rw [if_neg hlength] at joins ends
                simp only [bindsTo, hphase, hgranted, true_and, not_lt.mp hlength, if_true,
                  hcurrent]
                cases hkind : (c.calls i).kind with
                | send id =>
                    rw [hkind] at ends
                    exact congrArg some (ends rfl)
                | connect | waitUntilReady | request =>
                    rw [hkind] at joins ends
                    dsimp only at joins ends ⊢
                    unfold multiplexerRequest at joins ends
                    extract_lets at joins ends
                    cases hissue : c.multiplexer.issueRequest (c.calls i).messageType nowMs
                        c.options.timeout (c.calls i).signal none with
                    | error error =>
                        rw [hissue] at joins
                        exact absurd rfl joins
                    | ok m =>
                        rw [hissue] at ends
                        exact congrArg some (ends rfl)
      | rejected error =>
          rw [hgranted] at hs
          cases hs
          exact absurd rfl joins
      | none | queued =>
          rw [hgranted] at hs
          cases hs
  | _ =>
      rw [hphase] at hs
      cases hs

/-- The transport of an authenticated connection is the one of the attempt that authenticated
it. -/
theorem authenticated_step (h : Handshakes received c) (hp : Posts c e c') (he : Effect c e c')
    (hn' : c'.Newest) (hn : c.Newest) (hstate : c'.state = .authenticated)
    (hcurrent : c'.transport = some t) : c'.HandshakeDone t := by
  obtain ⟨hopened, hwas | ⟨t₀, hprogress, hhello, -⟩⟩ := he.authenticates hstate
  · have hcurrent₀ : c.transport = some t := by
      rcases installed he hcurrent with hc | ⟨-, hopens, -⟩
      · exact hc
      · rw [hopened] at hopens
        exact absurd hopens.symm (Nat.succ_ne_self _)
    exact h.done_step hp (h.authenticated hwas hcurrent₀)
  · have hsame : t + 1 = t₀ + 1 :=
      ((hn'.transport hcurrent).trans hopened).trans (hn.inProgress hprogress).symm
    obtain rfl := Nat.succ_injective hsame
    refine h.done_step hp ?_
    rcases hhello with hhello | hrestoring
    · exact h.done hhello
    · exact h.restoring _ hrestoring

/-- Whoever is found ready finds a transport whose handshake is done. -/
theorem ready_step (h : Handshakes received c) (hp : Posts c e c') (hn : c.Newest)
    (ha : c.Attended) (hs : c.step e = some c') (hready : (c'.calls i).readyOn = some t) :
    c'.HandshakeDone t := by
  refine h.done_step hp ?_
  rcases step_readyOn hs hready with hold | ⟨hcurrent, hstate | hrestores⟩
  · exact h.ready hold
  · exact h.authenticated hstate hcurrent
  · -- the attempt that restores is the newest, and its transport is installed
    obtain ⟨t₀, hrestoring⟩ := ha.restoring hrestores
    have hsame : t + 1 = t₀ + 1 := (hn.transport hcurrent).trans
      (hn.inProgress (by simp [Attempt.inProgress, hrestoring])).symm
    obtain rfl := Nat.succ_injective hsame
    exact h.restoring _ hrestoring

theorem frames_step (h : Handshakes received c) (hp : Posts c e c') (hs : c.step e = some c')
    (hK : c.KeepsHandshake e) {w : Write} (hw : w ∈ c'.writeChain ++ c'.written)
    (hframe : w.frame ≠ .connect) : c'.HandshakeDone w.transport := by
  have old : w ∈ c.writeChain ++ c.written → c'.HandshakeDone w.transport := fun hmem =>
    h.done_step hp (h.frames w hmem hframe)
  rcases List.mem_append.mp hw with hw | hw
  · rcases hp.writeChain_new hw with hw | ⟨-, hcurrent⟩ | ⟨-, hchain, i, nowMs, rfl⟩
    · exact old (List.mem_append_left _ hw)
    · exact h.done_step hp (h.heartbeat hcurrent)
    · exact h.done_step hp (h.ready (hK.2 _ (slotContinues_bindsTo hs hchain)))
  · rcases hp.written_new hw with hw | hw | ⟨hconnect, -⟩
    · exact old (List.mem_append_right _ hw)
    · exact old (List.mem_append_left _ hw)
    · exact absurd hconnect hframe

/-- The first frame of a transport stays the first, or is CONNECT. -/
theorem first_step (h : Handshakes received c) (hp : Posts c e c') (t : TransportId) (w : Write)
    (hw : (c'.written.filter (·.transport = t)).getLast? = some w) : w.frame = .connect := by
  -- a frame put in front of the others is the first only if there is no other
  have cons : ∀ {w'}, c'.written = w' :: c.written →
      (w'.transport = t → c.written.filter (·.transport = t) = [] → w'.frame = .connect) →
      w.frame = .connect := by
    intro w' hwritten halone
    rw [hwritten, List.filter_cons] at hw
    split at hw
    · rename_i hdest
      cases hrest : c.written.filter (·.transport = t) with
      | nil =>
          rw [hrest] at hw
          obtain rfl := Option.some.inj hw
          exact halone (by simpa using hdest) hrest
      | cons x xs =>
          rw [hrest, List.getLast?_cons_cons, ← hrest] at hw
          exact h.first t w hw
    · exact h.first t w hw
  cases hp with
  | still _ hs => exact h.first t w (hs.written ▸ hw)
  | begins hcalm | resumes hcalm => exact h.first t w (hcalm.written ▸ hw)
  | opens _ _ _ hwritten | draws _ _ _ _ _ _ _ _ _ _ _ hwritten
  | binds _ _ _ _ _ _ _ _ _ _ hwritten | beats _ _ _ hwritten =>
      exact h.first t w (hwritten ▸ hw)
  | connects _ _ _ _ hwritten => exact cons hwritten fun _ _ => rfl
  | @writes w' _ _ _ hnext _ hwritten =>
      refine cons hwritten fun hdest hnone => ?_
      -- the head of the chain goes to a transport that has got its CONNECT
      have hchain : w' ∈ c.writeChain := hnext ▸ List.mem_cons_self ..
      have hdone := h.frames w' (List.mem_append_left _ hchain) (h.writeChain w' hchain)
      have hmem : ⟨t, .connect⟩ ∈ c.written.filter (·.transport = t) :=
        List.mem_filter.mpr ⟨hdest ▸ hdone.1, by simp⟩
      rw [hnone] at hmem
      cases hmem

theorem step (h : Handshakes received c) (hm : c.multiplexer.WellFormed) (hn : c.Newest)
    (hn' : c'.Newest) (ha : c.Attended) (hs : c.step e = some c') (hK : c.KeepsHandshake e)
    (hmono : ∀ t, received t → received' t)
    (hhello : ∀ t, c.receivesHello e = some t → received' t) : Handshakes received' c' := by
  have hp := step_posts hm hs
  have he := step_effect hm hs
  refine ⟨hp.coherent h.coherent, hp.connectWritten h.connectWritten, h.pastToken_step hp,
    h.received_step hm hn ha hs hmono hhello, h.listening_step hp he, fun hc => ?_, fun w hw => ?_,
    fun w hw => ?_, fun t hr => ?_, h.heartbeat_step hp, h.authenticated_step hp he hn' hn,
    h.ready_step hp hn ha hs, fun w => h.frames_step hp hs hK, h.first_step hp⟩
  · rcases installed he hc with hc | ⟨rfl, hopened, -⟩
    · exact Nat.lt_of_lt_of_le (h.transport hc) (opened_mono he)
    · rw [hopened]
      exact Nat.lt_succ_self _
  · refine Nat.lt_of_lt_of_le ?_ (opened_mono he)
    rcases hp.written_new hw with hw | hw | ⟨-, hc⟩
    · exact h.written w hw
    · exact h.writeChain_lt hw
    · exact h.transport hc
  · rcases hp.writeChain_new hw with hw | ⟨hframe, -⟩ | ⟨⟨i, id, hframe⟩, -⟩
    · exact h.writeChain w hw
    · rw [hframe]
      simp
    · rw [hframe]
      simp
  · rcases he.advances.restoring hr with hr | hr
    · exact h.done_step hp (h.restoring t hr)
    · exact h.done_step hp (h.done hr)

end Handshakes

theorem handshakes_create (options : ConnectionOptions) (received : TransportId → Prop) :
    Handshakes received (create options) where
  coherent := fun _ => ⟨fun h => (nomatch h), fun _ => rfl⟩
  connectWritten := fun _ h => by rcases h with h | h <;> cases h
  pastToken := fun _ h => by cases h
  received := fun _ h => by cases h
  listening := fun h => by cases h
  transport := fun h => by cases h
  written := fun _ h => by cases h
  writeChain := fun _ h => by cases h
  restoring := fun _ h => by cases h
  heartbeat := fun h => by cases h
  authenticated := fun h => by cases h
  ready := fun h => by cases h
  frames := fun _ h => by cases h
  first := fun _ _ h => by cases h

theorem handshakes_run {options : ConnectionOptions} {es : List Event} {c : Connection}
    (hguard : (machine options).Guarded KeepsHandshake (create options) es)
    (hrun : (machine options).run es = some c) : Handshakes (HelloReceived options es) c := by
  have hall : (c.Sound ∧ c.Newest ∧ c.Attended) ∧ Handshakes (HelloReceived options es) c :=
    Machine.Guarded.runFrom_induction (M := machine options)
      (motive := fun es c => (c.Sound ∧ c.Newest ∧ c.Attended) ∧
        Handshakes (HelloReceived options es) c)
      ⟨⟨sound_create options, newest_create options, attended_create options⟩,
        handshakes_create options _⟩
      (fun es₁ c₁ e c₂ hrun₁ ⟨⟨hsound, hn, ha⟩, hh⟩ hK hst =>
        have he := step_effect hsound.multiplexer hst
        have hn' := he.newest hsound.owned hn hK.1
        ⟨⟨hsound.step hst, hn', he.attended ha hn⟩,
          hh.step hsound.multiplexer hn hn' ha hst hK (fun _ hr => hr.append [e])
            fun _ hello => Machine.occurs_last hrun₁ hello⟩) hguard hrun
  exact hall.2

/-! ### Handshake first -/

/-- CONNECT is the first frame of each transport, and no other frame has been written to
one on which no valid HELLO has been received. -/
structure HandshakeFirst (options : ConnectionOptions) (es : List Event) (c : Connection) :
    Prop where
  connect : ∀ t w, (c.written.filter (·.transport = t)).getLast? = some w → w.frame = .connect
  hello : ∀ w ∈ c.written, w.frame ≠ .connect → HelloReceived options es w.transport

/-- In a run that keeps to the condition the handshake comes first on each transport. -/
theorem handshakeFirst_run {options : ConnectionOptions} {es : List Event} {c : Connection}
    (hguard : (machine options).Guarded KeepsHandshake (create options) es)
    (hrun : (machine options).run es = some c) : HandshakeFirst options es c := by
  have h := handshakes_run hguard hrun
  refine ⟨h.first, fun w hw hframe => ?_⟩
  obtain ⟨hconnect, hauth⟩ := h.frames w (List.mem_append_right _ hw) hframe
  exact (h.received w.transport hauth).resolve_right fun hno => hno.2 hconnect

/-- The chunk that holds a valid HELLO. -/
def helloChunk : Received := .ok (.ok ([.hello 0 4 (.ok ⟨3, 0, 1000000, 10⟩)], false))

/-- A request before a loss, and after the reconnect one of the restore, a frame and a
heartbeat. -/
def twoSessionsRun : List Event :=
  [.connect 0 none, .transportConnect 0 none, .token 0 none, .connectSent 0 none,
    .receive 0 helloChunk, .helloSettled 0, .connectSettled 0,
    .call 1 (.request false) 7 20 none, .readyContinues 1, .slotContinues 1 0, .writeBegins,
    .writeEnds none, .receive 0 (.error ⟨.transport, "reset"⟩), .connectionLossSettled,
    .reconnectWake, .transportConnect 1 none, .token 1 none, .connectSent 1 none,
    .receive 1 helloChunk, .helloSettled 1, .call 3 (.request true) 7 20 none, .readyContinues 3,
    .slotContinues 3 0, .writeBegins, .writeEnds none, .restored 1,
    .call 2 .sendFireAndForget 7 20 none,
    .readyContinues 2, .slotContinues 2 0, .heartbeatTick, .writeBegins, .writeEnds none,
    .writeBegins]

/-- Six frames are written, the handshakes first. -/
theorem handshakeFirst_run_twoSessions : ∃ c : Connection,
    (machine { reconnectEnabled := true }).run twoSessionsRun = some c ∧
      c.written.reverse = [⟨0, .connect⟩, ⟨0, .message 1 1⟩, ⟨1, .connect⟩, ⟨1, .message 3 1⟩,
        ⟨1, .message 2 0⟩, ⟨1, .heartbeat⟩] ∧
      HandshakeFirst { reconnectEnabled := true } twoSessionsRun c := by
  have hguard : (machine { reconnectEnabled := true }).Guarded KeepsHandshake
      (create { reconnectEnabled := true }) twoSessionsRun := by decide +kernel
  exact ⟨_, rfl, by decide +kernel, handshakeFirst_run hguard rfl⟩

/-- A frame waits for the write lock while the connection is lost and connected again.
Call 1 had its slot before; it finds the new transport, and its frame is written there
while the token for CONNECT is still awaited. -/
theorem handshakeFirst_run_fails :
    ¬ ∀ es c, (machine {}).run es = some c → HandshakeFirst {} es c := by
  intro h
  obtain ⟨c, hc, hfirst⟩ : ∃ c : Connection,
      (machine {}).run
        [.connect 0 none, .transportConnect 0 none, .token 0 none, .connectSent 0 none,
          .receive 0 helloChunk, .helloSettled 0, .connectSettled 0,
          .call 2 .sendFireAndForget 7 20 none, .readyContinues 2, .slotContinues 2 0, .writeBegins,
          .call 1 .sendFireAndForget 7 20 none, .readyContinues 1,
          .receive 0 (.error ⟨.transport, "reset"⟩), .connect 3 none, .slotContinues 1 0,
          .transportConnect 1 none, .writeEnds (some ⟨.transport, "reset"⟩), .writeBegins] =
            some c ∧
        (c.written.filter (·.transport = 1)).getLast? = some ⟨1, .message 1 0⟩ :=
    ⟨_, rfl, by decide +kernel⟩
  exact absurd ((h _ c hc).connect 1 _ hfirst) (by decide)

end FitzTs.Client.Connection
