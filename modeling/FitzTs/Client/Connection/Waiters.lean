import FitzTs.Client.Connection.Sound
/-!
# FitzTs.Client.Connection.Waiters

No caller of `waitForReady` is left parked.

`setState` notifies the waiters, and whatever else `readyFailure` depends on is
set before a `setState` of the same turn, on every path but two: the end of the
reconnect loop sets `reconnectExhausted` after its last notification, and a
CONNECT_REJECTED sets `authRejected` and leaves the notification to the attempt.
-/

namespace FitzTs.Client.Connection

variable {c c' c₁ : Connection} {t : TransportId}

/-- Nobody waits for readiness. -/
def NoneParked (c : Connection) : Prop := ∀ i, c.readiness.waiters i ≠ .parked

/-- What the notifications leave out concerns nobody: when the loop gives up
while the connection is DISCONNECTED, or the broker rejects the credentials, nobody
is parked. -/
def SparesWaiters (c : Connection) : Event → Prop
  | .reconnectReturned =>
    c.reconnectPromise = .returned .exhausted → c.state = .disconnected → c.NoneParked
  | .receive t (.ok (.ok (frames, _))) =>
    c.transport = some t → frames.any rejectsCredentials = true → c.NoneParked
  | _ => True

/-- The readiness of a connection that has been established does not fail where it
did not fail before. -/
theorem readyFailure_mono {k k' : Control} (hstate : k'.state = k.state)
    (hrejected : k'.authRejected = k.authRejected) (hclose : k'.closeRequested = k.closeRequested)
    (hwait : k.state = .disconnected → k.canWaitForReconnect = true →
      k'.canWaitForReconnect = true)
    (h : k.readyFailure = none) : k'.readyFailure = none := by
  unfold Control.readyFailure at h ⊢
  rw [hstate, hrejected, hclose]
  split
  · rfl
  · rename_i hready
    rw [if_neg hready] at h
    split
    · rename_i hrej
      rw [if_pos hrej] at h
      cases h
    · rename_i hrej
      rw [if_neg hrej] at h
      split
      · rename_i hend
        rw [if_pos hend] at h
        cases h
      · rename_i hend
        rw [if_neg hend] at h
        cases hs : k.state <;> simp_all

theorem Handles.notified {frames : List InboundFrame} (hh : Handles frames c c')
    (hn : c.Notified) (hspares : frames.any rejectsCredentials = true → c.NoneParked) :
    c'.Notified := by
  intro i hi
  rw [hh.readiness] at hi
  obtain ⟨hfailure, hstate⟩ := hn i hi
  have hrejected : c'.authRejected = c.authRejected := by
    rcases hh.authRejected with heq | ⟨-, frame, hmem, hframe⟩
    · exact heq
    · exact absurd hi (hspares (List.any_eq_true.mpr ⟨frame, hmem, hframe⟩) i)
  have hcontrol := hh.control
  refine ⟨readyFailure_mono ?_ hrejected ?_ (fun _ hwait => ?_) hfailure, ?_⟩
  · rw [hcontrol]
  · rw [hcontrol]
  · simp only [Control.canWaitForReconnect, Bool.and_eq_true] at hwait ⊢
    rcases hh.sessionConfirmed with ⟨-, hest⟩ | ⟨-, hest, -⟩
    · rw [hrejected, hest, hcontrol]
      exact hwait
    · rw [hrejected, hest, hcontrol]
      exact ⟨⟨⟨hwait.1.1.1, rfl⟩, hwait.1.2⟩, hwait.2⟩
  · rw [hcontrol]
    exact hstate

theorem WindsUp.notified (hw : WindsUp t c c') (hn : c.Notified) : c'.Notified :=
  hn.congr (by rw [hw.readiness]) (by rw [hw.control]) (by rw [hw.control])

theorem catchFailure_notified (hn : c.Notified) (t : TransportId) (error : ClientError) :
    (c.catchFailure t error).Notified := hn.congr rfl rfl rfl

theorem ReportOutcome.notified (ho : ReportOutcome c t c') (hn : c.Notified) : c'.Notified := by
  cases ho with
  | swallowed => exact hn.congr rfl rfl rfl
  | late => exact hn.congr rfl rfl rfl
  | lost _ _ hl => exact hl.notified.congr rfl rfl rfl

theorem finishAuth_notified (hn : c.Notified) (d : Deferred) : (c.finishAuth d).Notified := by
  refine hn.congr ?_ ?_ ?_
  · rw [finishAuth_readiness]
  · rw [finishAuth_control]
    rfl
  · rw [finishAuth_control]

/-- What a step hands to the loop over frames spares the waiters. -/
theorem SparesWaiters.frames {e : Event} (hK : c.SparesWaiters e)
    (hcurrent : ∀ t frames pending, e = .receive t (.ok (.ok (frames, pending))) →
      c.transport = some t) : (framesOf e).any rejectsCredentials = true → c.NoneParked := by
  intro hany
  unfold framesOf at hany
  split at hany
  · exact hK (hcurrent _ _ _ rfl) hany
  · cases hany

/-- The reconnect loop moves on. -/
theorem LoopOutcome.notified {failure : Option ClientError} (ho : LoopOutcome c failure c')
    (hn : c.Notified) : c'.Notified := by
  cases ho with
  | ended _ _ _ hcontrol hreadiness =>
      exact hn.congr (by rw [hreadiness]) (by rw [hcontrol]; rfl) (by rw [hcontrol])
  | rejected _ _ hn' => exact hn'
  | exhausted _ _ hn' => exact hn'
  | retries _ _ _ hn' => exact hn'

/-- The loop gives up. -/
theorem reconnectReturned_notified {result : ReconnectLoopResult} (hn : c.Notified)
    (hspares : result = .exhausted → c.state = .disconnected → c.NoneParked) :
    (c.reconnectReturned result).Notified := by
  intro i hi
  have hparked : c.readiness.waiters i = .parked := hi
  obtain ⟨hfailure, hstate⟩ := hn i hparked
  refine ⟨?_, hstate⟩
  by_cases hend : result = .exhausted
  · exact readyFailure_mono (k := c.toControl) rfl rfl rfl
      (fun hd => absurd hparked (hspares hend hd i)) hfailure
  · have hsame : (c.reconnectReturned result).toControl =
        { c.toControl with reconnectPromise := .finished } := by simp [reconnectReturned, hend]
    rw [hsame]
    exact hfailure

theorem Effect.notified {e : Event} (he : Effect c e c') (hn : c.Notified)
    (hK : c.SparesWaiters e) : c'.Notified := by
  cases he with
  | quiet _ hq => exact hq.notified hn
  | opens => exact (openAndAuthenticate_notified _ false _).congr rfl rfl rfl
  | forgets => exact hn.congr rfl rfl rfl
  | closesIdle => exact hn.congr rfl rfl rfl
  | closes => exact (tearDown_fields { c with closePromise := true }).2.1
  | connected _ ho =>
      cases ho with
      | failed error => exact catchFailure_notified hn _ error
      | rejected _ _ _ hnotified _ error => exact catchFailure_notified hnotified _ error
      | negotiating _ _ _ hnotified => exact hnotified
  | fails error => exact catchFailure_notified hn _ error
  | negotiated _ _ ho =>
      cases ho with
      | failed error => exact catchFailure_notified hn _ error
      | restoring => exact (finishAuth_notified hn .resolved).congr rfl rfl rfl
      | authenticated => exact authenticated_notified _ _
  | @restoreFails t =>
      have hbefore : Notified { c with reconnectRestoreActive := false } := hn.congr rfl rfl rfl
      exact catchFailure_notified hbefore t _
  | restores => exact authenticated_notified _ _
  | rethrows _ hr => exact hr.notified hn
  | receives hcurrent hh => exact hh.notified hn (hK hcurrent)
  | @receivesLast t _ c₁ hh hcurrent =>
      have hbefore : c₁.Notified := by
        rcases hcurrent with rfl | hcurrent
        · exact hn
        · exact hh.notified hn (hK.frames fun t' _ _ he => by cases he; exact hcurrent)
      exact (endReceiveLoop_windsUp t c₁).notified hbefore
  | loses hreports _ hh _ _ ho hw =>
      have hbefore := hh.notified hn (hK.frames fun t' frames pending he =>
        current_of_reportsLoss (he ▸ hreports))
      exact hw.notified (ho.notified hbefore)
  | settlesLoss => exact hn.congr rfl rfl rfl
  | wakesClosed => exact hn.congr rfl rfl rfl
  | wakes => exact (openAndAuthenticate_notified _ true _).congr rfl rfl rfl
  | attempted _ _ ho => exact ho.notified hn
  | returns hreturned =>
      exact reconnectReturned_notified hn fun hend => hK (hend ▸ hreturned)
  | settlesLoop => exact hn.congr rfl rfl rfl

theorem notified_create (options : ConnectionOptions) : (create options).Notified := by
  intro i hi
  cases hi

/-- In a run whose steps spare the waiters, nobody is left parked whose wait is over:
who is parked is so while the connection is neither ready nor beyond it. -/
theorem waiters_notified {options : ConnectionOptions} {es : List Event} {c : Connection}
    (hguard : (machine options).Guarded SparesWaiters (create options) es)
    (hrun : (machine options).run es = some c)
    (hover : c.state = .authenticated ∨ c.readyFailure ≠ none) : c.NoneParked := by
  have hall : c.Sound ∧ c.Notified :=
    Machine.Guarded.invariant (M := machine options) (I := fun c => c.Sound ∧ c.Notified)
      ⟨sound_create options, notified_create options⟩
      (fun _ _ _ hI hK hst => ⟨hI.1.step hst,
        (step_effect hI.1.multiplexer hst).notified hI.2 hK⟩) hguard hrun
  intro i hi
  obtain ⟨hfailure, hstate⟩ := hall.2 i hi
  rcases hover with hready | hfails
  · exact hstate hready
  · exact hfails hfailure

/-- A caller waits for the first connection, which is established. -/
def waitingRun : List Event :=
  [.connect 0 none, .call 1 .waitUntilReady 0 0 none, .transportConnect 0 none, .token 0 none,
    .connectSent 0 none, .receive 0 (.ok (.ok ([.hello 0 4 (.ok ⟨3, 0, 1000000, 10⟩)], false))),
    .helloSettled 0]

/-- It is not parked any more. -/
theorem waiters_notified_authenticated : ∃ c : Connection,
    (machine {}).run waitingRun = some c ∧ c.NoneParked := by
  have hguard : (machine {}).Guarded SparesWaiters (create {}) waitingRun :=
    Machine.guarded_of_forall (by simp [waitingRun, SparesWaiters, rejectsCredentials])
  exact ⟨_, rfl, waiters_notified hguard rfl (Or.inl rfl)⟩

/-- The loop has one attempt, and a caller waits for it. The attempt fails: the
state is DISCONNECTED, and only then is the reconnect exhausted. -/
theorem waiters_notified_fails :
    ¬ ∀ es c,
      (machine { reconnectEnabled := true, reconnectMaxAttempts := some 1 }).run es = some c →
      c.state = .authenticated ∨ c.readyFailure ≠ none → c.NoneParked := by
  intro h
  obtain ⟨c, hc, hfails, hparked⟩ : ∃ c : Connection,
      (machine { reconnectEnabled := true, reconnectMaxAttempts := some 1 }).run
        [.connect 0 none, .transportConnect 0 none, .token 0 none, .connectSent 0 none,
          .receive 0 (.ok (.ok ([.hello 0 4 (.ok ⟨3, 0, 1000000, 10⟩)], false))), .helloSettled 0,
          .connectSettled 0, .receive 0 (.error ⟨.transport, "reset"⟩),
          .call 1 .waitUntilReady 0 0 none, .reconnectWake,
          .transportConnect 1 (some ⟨.transport, "refused"⟩), .attemptClosed 1,
          .reconnectAttempted, .reconnectReturned] = some c ∧
        c.readyFailure ≠ none ∧ c.readiness.waiters 1 = .parked :=
    ⟨_, rfl, by decide +kernel, by decide +kernel⟩
  exact h _ c hc (Or.inr hfails) 1 hparked

end FitzTs.Client.Connection
