import FitzTs.Domains.Lease.WithLease
/-!
# FitzTs.Domains.Lease.WithLeaseOutcome

How a call of `withLease` settles, read off the events of its run.

The code remembers what went wrong in variables that are `undefined` where
nothing did. `Traces` says what each variable is worth: which events of the run
it stands for. Only one of them is ambiguous, `callbackFailure`, which a callback
that rejects with `undefined` leaves as it was.
-/

namespace FitzTs.Lease.WithLease

variable {T : Type*}

/-! ### What happened in a run -/

/-- The callback fulfilled with `v`. -/
def CallbackFulfilled (es : List (Event T)) (v : T) : Prop :=
  .callbackSettles (.fulfilled v) ∈ es

/-- The callback rejected, or threw. -/
def CallbackRejected (es : List (Event T)) (error : JsValue) : Prop :=
  .callbackSettles (.rejected error) ∈ es

/-- The broker confirmed the release. -/
def ReleaseConfirmed (es : List (Event T)) : Prop := .releaseSettles (.ok ()) ∈ es

/-- The caller's signal is aborted. -/
def Aborted (g : Grant) (es : List (Event T)) : Prop :=
  g.aborted.isSome ∨ ∃ reason, .abort reason ∈ es

/-- The event tells `withLease` that the lease is lost: a renewal fails, or the
connection goes while the callback runs. -/
def DetectsLoss (c : WithLease T) : Event T → Prop
  | .extendSettles (.error _) => True
  | .renewalWakes => c.lease.closed = true
  | .disconnected => c.callbackDone = false
  | _ => False

def LossDetected (g : Grant) (es : List (Event T)) : Prop :=
  (machine T g).Occurs DetectsLoss es

/-- The event ends the lease before its release: a renewal fails, or the
connection goes. -/
def EndsLease (c : WithLease T) : Event T → Prop
  | .extendSettles (.error _) => True
  | .disconnected => c.phase = .running ∨ c.phase = .awaitingRenewal
  | _ => False

/-- The lease was known to be lost, to `withLease` or to its handle, before a
release was due. -/
def KnownLost (g : Grant) (es : List (Event T)) : Prop :=
  g.closed = true ∨ (machine T g).Occurs EndsLease es

/-- Everything went well, and the callback fulfilled with `v`. -/
def Succeeded (g : Grant) (es : List (Event T)) (v : T) : Prop :=
  CallbackFulfilled es v ∧ ¬ LossDetected g es ∧ ¬ Aborted g es ∧ ReleaseConfirmed es

/-- **The promise.** The call fulfils with `v` exactly if everything went well and
the callback fulfilled with `v`; otherwise it rejects; and RELEASE is sent once
if the lease was not known to be lost, never if it was, and never afterwards. -/
structure Lawful (g : Grant) (es : List (Event T)) (c : WithLease T) (outcome : Outcome T) :
    Prop where
  fulfils : ∀ v, outcome = .fulfilled (some v) ↔ Succeeded g es v
  rejects : (¬ ∃ v, Succeeded g es v) → outcome.isRejected = true
  releasedOnce : ¬ KnownLost g es → c.releases = 1
  notReleased : KnownLost g es → c.releases = 0
  neverAfterLoss : ∀ before e after b b', es = before ++ e :: after →
    (machine T g).run before = some b → b.step e = some b' →
    b'.releases ≠ b.releases → ¬ KnownLost g before

/-- The callback rejected with `undefined`, and nothing else went wrong. -/
def RejectedWithUndefined (g : Grant) (es : List (Event T)) : Prop :=
  CallbackRejected es .undefined ∧ ¬ LossDetected g es ∧ ¬ Aborted g es ∧ ReleaseConfirmed es

/-! ### One step -/

section Step

variable {g : Grant} {es : List (Event T)} {c c' : WithLease T} {e : Event T}

/-- What has been detected, with one event more. -/
theorem lossDetected_snoc (hrun : (machine T g).run es = some c) :
    LossDetected g (es ++ [e]) ↔ LossDetected g es ∨ DetectsLoss c e :=
  Machine.occurs_snoc hrun

theorem knownLost_snoc (hrun : (machine T g).run es = some c) :
    KnownLost g (es ++ [e]) ↔ KnownLost g es ∨ EndsLease c e := by
  rw [KnownLost, Machine.occurs_snoc hrun, ← or_assoc]
  rfl

theorem callbackFulfilled_snoc {v : T} : CallbackFulfilled (es ++ [e]) v ↔
    CallbackFulfilled es v ∨ .callbackSettles (.fulfilled v) = e := by
  simp [CallbackFulfilled]

theorem callbackRejected_snoc {error : JsValue} : CallbackRejected (es ++ [e]) error ↔
    CallbackRejected es error ∨ .callbackSettles (.rejected error) = e := by
  simp [CallbackRejected]

theorem releaseConfirmed_snoc : ReleaseConfirmed (es ++ [e]) ↔
    ReleaseConfirmed es ∨ .releaseSettles (.ok ()) = e := by
  simp [ReleaseConfirmed]

theorem aborted_snoc : Aborted g (es ++ [e]) ↔
    Aborted g es ∨ ∃ reason, .abort reason = e := by
  simp only [Aborted, List.mem_append, List.mem_singleton, exists_or, or_assoc]

/-- A step, by its event, with the guard under which it happens. -/
inductive Steps (c : WithLease T) : Event T → WithLease T → Prop
  | callbackSettles (hphase : c.phase = .running) (callback : Callback T) :
      Steps c (.callbackSettles callback) (c.callbackSettled callback)
  | renewalWakes (hrenewal : c.renewal = .delaying) : Steps c .renewalWakes c.startRenewal
  | extendSettles (hrenewal : c.renewal = .extending) (result : Except JsError Nat) :
      Steps c (.extendSettles result) (c.extendSettled result)
  | disconnected : Steps c .disconnected { c with lease := c.lease.disconnected }.connectionLost
  | abort (hsignal : c.signal = none) (reason : JsValue) :
      Steps c (.abort reason) (c.parentAborts reason)
  | renewalAwaited (hphase : c.phase = .awaitingRenewal) (hrenewal : c.renewal = .ended) :
      Steps c .renewalAwaited c.renewalAwaited
  | releaseSettles (hphase : c.phase = .releasing) (result : Except JsError Unit) :
      Steps c (.releaseSettles result) (c.settle (releaseFailure result))

theorem step_cases (hs : c.step e = some c') :
    (∀ outcome, c.phase ≠ .settled outcome) ∧ Steps c e c' := by
  unfold step at hs
  split at hs
  · cases hs
  · rename_i hphase
    obtain rfl := Option.some.inj hs
    exact ⟨by simp [hphase], .callbackSettles hphase _⟩
  · rename_i hphase
    obtain ⟨hrenewal, ⟨⟩⟩ := Option.ite_none_right_eq_some.mp hs
    exact ⟨by simp [hphase], .renewalAwaited hphase hrenewal⟩
  · rename_i hphase
    obtain rfl := Option.some.inj hs
    exact ⟨by simp [hphase], .releaseSettles hphase _⟩
  · rename_i hphase
    obtain ⟨hrenewal, ⟨⟩⟩ := Option.ite_none_right_eq_some.mp hs
    exact ⟨hphase, .renewalWakes hrenewal⟩
  · rename_i hphase
    obtain ⟨hrenewal, ⟨⟩⟩ := Option.ite_none_right_eq_some.mp hs
    exact ⟨hphase, .extendSettles hrenewal _⟩
  · rename_i hphase
    obtain rfl := Option.some.inj hs
    exact ⟨hphase, .disconnected⟩
  · rename_i hphase
    obtain ⟨hsignal, ⟨⟩⟩ := Option.ite_none_right_eq_some.mp hs
    exact ⟨hphase, .abort hsignal _⟩
  · cases hs

/-! ### Who writes which variable -/

/-- The callback's variables are left as they were. -/
structure KeepsCallback (c c' : WithLease T) : Prop where
  callbackDone : c'.callbackDone = c.callbackDone
  callbackValue : c'.callbackValue = c.callbackValue
  callbackFailure : c'.callbackFailure = c.callbackFailure
  running : c'.phase = .running ↔ c.phase = .running

@[simp] theorem renewalFails_leaseLoss (error : JsError) :
    (c.renewalFails error).leaseLoss = error.value := rfl

@[simp] theorem renewalFails_renewal (error : JsError) :
    (c.renewalFails error).renewal = .ended := by
  simp [renewalFails, renewLoop, abortLifecycle]

/-- A renewal starts with `extend`, which a closed lease refuses. -/
theorem startRenewal_eq : c.startRenewal = if c.lease.closed then c.renewalFails closedError
    else { c with
      renewal := .extending
      requests := c.requests ++ [.renew c.lease.route c.lease.currentToken c.ttlSeconds] } := by
  unfold startRenewal
  rw [LeaseHandle.extend_eq]
  cases c.lease.closed <;> rfl

/-- A loss is thrown before the release. -/
theorem renewalAwaited_eq : c.renewalAwaited =
    if c.leaseLoss ≠ .undefined then c.settle .undefined
    else if c.lease.closed then c.settle closedError.value
    else { c with
      lease := { c.lease with closed := true }
      phase := .releasing
      requests := c.requests ++ [.release c.lease.route c.lease.currentToken] } := by
  unfold renewalAwaited
  rw [LeaseHandle.release_eq]
  cases c.lease.closed <;> by_cases hloss : c.leaseLoss = .undefined <;> simp [hloss]

/-- Only its own event settles the callback. -/
theorem Steps.keepsCallback (h : Steps c e c') (he : ∀ callback, e ≠ .callbackSettles callback) :
    KeepsCallback c c' := by
  cases h with
  | callbackSettles _ callback => exact absurd rfl (he callback)
  | renewalWakes =>
      rw [startRenewal_eq]
      split <;> exact ⟨rfl, rfl, rfl, .rfl⟩
  | extendSettles _ result => cases result <;> exact ⟨rfl, rfl, rfl, .rfl⟩
  | disconnected =>
      unfold connectionLost
      split <;> exact ⟨rfl, rfl, rfl, .rfl⟩
  | abort => exact ⟨rfl, rfl, rfl, .rfl⟩
  | renewalAwaited hphase =>
      rw [renewalAwaited_eq]
      split
      · exact ⟨rfl, rfl, rfl, by simp [settle, hphase]⟩
      · split <;> exact ⟨rfl, rfl, rfl, by simp [settle, hphase]⟩
  | releaseSettles hphase => exact ⟨rfl, rfl, rfl, by simp [settle, hphase]⟩

/-- Only the caller aborts its signal. -/
theorem Steps.signal (h : Steps c e c') (he : ∀ reason, e ≠ .abort reason) :
    c'.signal = c.signal := by
  cases h with
  | callbackSettles _ callback => cases callback <;> rfl
  | renewalWakes =>
      rw [startRenewal_eq]
      split <;> rfl
  | extendSettles _ result => cases result <;> rfl
  | disconnected =>
      unfold connectionLost
      split <;> rfl
  | abort _ reason => exact absurd rfl (he reason)
  | renewalAwaited =>
      rw [renewalAwaited_eq]
      split
      · rfl
      · split <;> rfl
  | releaseSettles => rfl

/-! ### The callback's variables -/

/-- What the callback's variables stand for. -/
structure CallbackTraces (es : List (Event T)) (c : WithLease T) : Prop where
  running : c.phase = .running ↔ c.callbackDone = false
  fulfilled : ∀ v, CallbackFulfilled es v ↔ c.callbackValue = some v
  rejected : ∀ error, CallbackRejected es error ↔
    c.callbackDone = true ∧ c.callbackValue = none ∧ c.callbackFailure = error
  fulfils : c.callbackValue ≠ none → c.callbackDone = true ∧ c.callbackFailure = .undefined
  pending : c.callbackDone = false → c.callbackFailure = .undefined

theorem callbackTraces_create (g : Grant) : CallbackTraces [] (create g : WithLease T) where
  running := by simp [create]
  fulfilled := by simp [CallbackFulfilled, create]
  rejected := by simp [CallbackRejected, create]
  fulfils := fun h => absurd rfl h
  pending := fun _ => rfl

theorem CallbackTraces.keep (h : CallbackTraces es c)
    (he : ∀ callback, e ≠ .callbackSettles callback)
    (hkeep : KeepsCallback c c') : CallbackTraces (es ++ [e]) c' where
  running := by rw [hkeep.running, hkeep.callbackDone, h.running]
  fulfilled := fun v => by
    rw [callbackFulfilled_snoc, hkeep.callbackValue, ← h.fulfilled v]
    exact or_iff_left fun heq => he _ heq.symm
  rejected := fun error => by
    rw [callbackRejected_snoc, hkeep.callbackDone, hkeep.callbackValue, hkeep.callbackFailure,
      ← h.rejected error]
    exact or_iff_left fun heq => he _ heq.symm
  fulfils := by
    rw [hkeep.callbackValue, hkeep.callbackDone, hkeep.callbackFailure]
    exact h.fulfils
  pending := by
    rw [hkeep.callbackDone, hkeep.callbackFailure]
    exact h.pending

theorem CallbackTraces.settles (h : CallbackTraces es c) (hphase : c.phase = .running)
    (callback : Callback T) :
    CallbackTraces (es ++ [.callbackSettles callback]) (c.callbackSettled callback) := by
  have hdone : c.callbackDone = false := h.running.mp hphase
  have hvalue : c.callbackValue = none := by
    by_contra hvalue
    exact absurd (h.fulfils hvalue).1 (by simp [hdone])
  have hfulfilled : ∀ v, ¬ CallbackFulfilled es v := fun v => by simp [h.fulfilled, hvalue]
  have hrejected : ∀ error, ¬ CallbackRejected es error := fun error => by
    simp [h.rejected, hdone]
  cases callback with
  | fulfilled value =>
      constructor <;> simp [callbackSettled, stopRenewing, abortLifecycle, callbackFulfilled_snoc,
        callbackRejected_snoc, hfulfilled, hrejected, h.pending hdone, eq_comm]
  | rejected error =>
      constructor <;> simp [callbackSettled, stopRenewing, abortLifecycle, callbackFulfilled_snoc,
        callbackRejected_snoc, hfulfilled, hrejected, hvalue, eq_comm]

/-- The step lemma for the callback. -/
theorem CallbackTraces.step (h : CallbackTraces es c) (hs : Steps c e c') :
    CallbackTraces (es ++ [e]) c' := by
  by_cases he : ∃ callback, e = .callbackSettles callback
  · obtain ⟨callback, rfl⟩ := he
    cases hs with
    | callbackSettles hphase => exact h.settles hphase callback
  · have he' := not_exists.mp he
    exact h.keep he' (hs.keepsCallback he')

/-- The signal has fired exactly if an event says so. -/
theorem aborted_step (h : Aborted g es ↔ c.signal.isSome) (hs : Steps c e c') :
    Aborted g (es ++ [e]) ↔ c'.signal.isSome := by
  rw [aborted_snoc]
  by_cases he : ∃ reason, e = .abort reason
  · obtain ⟨reason, rfl⟩ := he
    cases hs with
    | abort => simp [parentAborts, abortLifecycle]
  · rw [hs.signal (not_exists.mp he), ← h]
    exact or_iff_left fun ⟨reason, heq⟩ => he ⟨reason, heq.symm⟩

/-! ### The loss of the lease -/

/-- What `leaseLoss` stands for, and how it relates to the handle: until the
release, a lease that is known to be lost is a closed handle. -/
structure LossTraces (g : Grant) (es : List (Event T)) (c : WithLease T) : Prop where
  detected : LossDetected g es ↔ c.leaseLoss ≠ .undefined
  known : c.leaseLoss ≠ .undefined → KnownLost g es
  closed : c.phase = .running ∨ c.phase = .awaitingRenewal →
    (KnownLost g es ↔ c.lease.closed = true)
  stopped : c.callbackDone = true → c.renewal ≠ .delaying
  ended : c.phase ≠ .running → c.phase ≠ .awaitingRenewal → c.renewal = .ended

theorem lossTraces_create (g : Grant) : LossTraces g [] (create g : WithLease T) where
  detected := by simp [LossDetected, Machine.not_occurs_nil, create]
  known := fun h => absurd rfl h
  closed := fun _ => by simp [KnownLost, Machine.not_occurs_nil, create]
  stopped := fun h => (nomatch h)
  ended := fun h => absurd rfl h

/-- Events that neither detect a loss nor end the lease. -/
theorem LossTraces.keep (h : LossTraces g es c) (hrun : (machine T g).run es = some c)
    (hdetects : ¬ DetectsLoss c e) (hends : ¬ EndsLease c e)
    (hloss : c'.leaseLoss = c.leaseLoss)
    (hclosed : c'.phase = .running ∨ c'.phase = .awaitingRenewal →
      (c.phase = .running ∨ c.phase = .awaitingRenewal) ∧ c'.lease.closed = c.lease.closed)
    (hstopped : c'.callbackDone = true → c'.renewal ≠ .delaying)
    (hended : c'.phase ≠ .running → c'.phase ≠ .awaitingRenewal → c'.renewal = .ended) :
    LossTraces g (es ++ [e]) c' where
  detected := by
    rw [lossDetected_snoc hrun, hloss, ← h.detected]
    exact or_iff_left hdetects
  known := fun hne => (knownLost_snoc hrun).mpr (Or.inl (h.known (hloss ▸ hne)))
  closed := fun hphase => by
    obtain ⟨hphase, heq⟩ := hclosed hphase
    rw [knownLost_snoc hrun, heq, ← h.closed hphase]
    exact or_iff_left hends
  stopped := hstopped
  ended := hended

/-- The step lemma for the loss of the lease. -/
theorem LossTraces.step (h : LossTraces g es c) (hcallback : CallbackTraces es c)
    (hrun : (machine T g).run es = some c) (hs : Steps c e c') : LossTraces g (es ++ [e]) c' := by
  cases hs with
  -- the callback ends the loop; what is known of a loss stays
  | callbackSettles hphase callback =>
      have hstopped : (if c.renewal = .delaying then Renewal.ended else c.renewal) ≠ .delaying := by
        split <;> simp_all
      cases callback <;>
        exact h.keep hrun nofun nofun rfl (fun _ => ⟨Or.inl hphase, rfl⟩) (fun _ => hstopped)
          fun _ hne => absurd rfl hne
  -- the loop runs only beside the callback, so a closed handle is a loss
  | renewalWakes hrenewal =>
      have hdone : c.callbackDone = false := by
        by_contra hdone
        exact h.stopped (by simpa using hdone) hrenewal
      have hphase : c.phase = .running := hcallback.running.mpr hdone
      have hknown := h.closed (Or.inl hphase)
      rw [startRenewal_eq]
      split
      · rename_i hclosed
        refine ⟨?_, fun _ => ?_, fun _ => ?_, fun _ => ?_, fun hne => absurd hphase hne⟩
        · rw [lossDetected_snoc hrun]
          exact ⟨fun _ => JsError.value_ne_undefined _, fun _ => Or.inr hclosed⟩
        · exact (knownLost_snoc hrun).mpr (Or.inl (hknown.mpr hclosed))
        · rw [knownLost_snoc hrun, hknown]
          exact or_iff_left nofun
        · rw [renewalFails_renewal]
          exact nofun
      · rename_i hopen
        exact h.keep hrun hopen nofun rfl (fun _ => ⟨Or.inl hphase, rfl⟩) (fun _ => nofun)
          fun hne => absurd hphase hne
  | extendSettles hrenewal result =>
      have hphase : c.phase = .running ∨ c.phase = .awaitingRenewal := by
        by_contra hphase
        rw [not_or] at hphase
        exact absurd (h.ended hphase.1 hphase.2) (by simp [hrenewal])
      cases result with
      | ok token =>
          refine h.keep hrun nofun nofun rfl (fun _ => ⟨hphase, rfl⟩) (fun hdone => ?_)
            fun hrunning hawaiting => absurd hphase (not_or.mpr ⟨hrunning, hawaiting⟩)
          have hdone : c.callbackDone = true := hdone
          simp [extendSettled, renewLoop, hdone]
      -- an extend that fails is a loss, closed handle or not
      | error error =>
          have hlost : KnownLost g (es ++ [.extendSettles (.error error)]) :=
            (knownLost_snoc hrun).mpr (Or.inr trivial)
          refine ⟨?_, fun _ => hlost, fun _ => iff_of_true hlost rfl, fun _ => ?_, ?_⟩
          · rw [lossDetected_snoc hrun]
            exact iff_of_true (Or.inr trivial) (JsError.value_ne_undefined _)
          · unfold extendSettled
            rw [renewalFails_renewal]
            exact nofun
          · exact fun hrunning hawaiting => absurd hphase (not_or.mpr ⟨hrunning, hawaiting⟩)
  | disconnected =>
      have hends : c.phase = .running ∨ c.phase = .awaitingRenewal →
          KnownLost g (es ++ [.disconnected]) := fun hphase =>
        (knownLost_snoc hrun).mpr (Or.inr hphase)
      unfold connectionLost
      split
      · -- the listener has been taken off, or had been called before
        rename_i hignored
        refine ⟨?_, fun hne => (knownLost_snoc hrun).mpr (Or.inl (h.known hne)),
          fun hphase => iff_of_true (hends hphase) rfl, h.stopped, h.ended⟩
        rw [lossDetected_snoc hrun, h.detected]
        refine or_iff_left_of_imp fun hpending => ?_
        have hpending : c.callbackDone = false := hpending
        exact hignored.resolve_left (by simp [hpending])
      · rename_i hnoticed
        obtain ⟨hpending, -⟩ := not_or.mp hnoticed
        have hpending : c.callbackDone = false := by simpa using hpending
        have hrunning : c.phase = .running := hcallback.running.mpr hpending
        refine ⟨?_, fun _ => hends (Or.inl hrunning),
          fun hphase => iff_of_true (hends hphase) rfl, h.stopped, h.ended⟩
        rw [lossDetected_snoc hrun]
        exact iff_of_true (Or.inr hpending) (JsError.value_ne_undefined _)
  | abort => 
      exact h.keep hrun nofun nofun rfl (fun hphase => ⟨hphase, rfl⟩) h.stopped h.ended
  | renewalAwaited hphase hrenewal =>
      rw [renewalAwaited_eq]
      split
      · exact h.keep hrun nofun nofun rfl nofun h.stopped fun _ _ => hrenewal
      · split
        · exact h.keep hrun nofun nofun rfl nofun h.stopped fun _ _ => hrenewal
        · exact h.keep hrun nofun nofun rfl nofun h.stopped fun _ _ => hrenewal
  | releaseSettles hphase =>
      exact h.keep hrun nofun nofun rfl nofun h.stopped fun _ _ => h.ended (by simp [hphase])
        (by simp [hphase])

/-! ### The release -/

/-- How often RELEASE was sent, and what came of it. -/
structure ReleaseTraces (g : Grant) (es : List (Event T)) (c : WithLease T) : Prop where
  early : c.phase = .running ∨ c.phase = .awaitingRenewal →
    c.releases = 0 ∧ ¬ ReleaseConfirmed es
  releasing : c.phase = .releasing →
    c.releases = 1 ∧ ¬ ReleaseConfirmed es ∧ ¬ KnownLost g es ∧ c.leaseLoss = .undefined
  settled : ∀ outcome, c.phase = .settled outcome → ∃ failure, outcome = c.outcome failure ∧
    (failure = .undefined ∧ c.leaseLoss = .undefined ↔ ReleaseConfirmed es) ∧
    (KnownLost g es → c.releases = 0) ∧ (¬ KnownLost g es → c.releases = 1)

theorem releaseTraces_create (g : Grant) : ReleaseTraces g [] (create g : WithLease T) where
  early := fun _ => ⟨rfl, fun h => (nomatch h)⟩
  releasing := fun h => (nomatch h)
  settled := fun _ h => (nomatch h)

/-- Events that leave `withLease` in its phase and send no RELEASE. -/
theorem ReleaseTraces.keep (h : ReleaseTraces g es c) (hrun : (machine T g).run es = some c)
    (he : Event.releaseSettles (.ok ()) ≠ e)
    (hreleases : c'.releases = c.releases)
    (hearly : c'.phase = .running ∨ c'.phase = .awaitingRenewal →
      c.phase = .running ∨ c.phase = .awaitingRenewal)
    (hreleasing : c'.phase = .releasing →
      c.phase = .releasing ∧ ¬ EndsLease c e ∧ c'.leaseLoss = c.leaseLoss)
    (hsettled : ∀ outcome, c'.phase ≠ .settled outcome) : ReleaseTraces g (es ++ [e]) c' where
  early := fun hphase => by
    obtain ⟨hzero, hconfirmed⟩ := h.early (hearly hphase)
    rw [hreleases, releaseConfirmed_snoc]
    exact ⟨hzero, not_or.mpr ⟨hconfirmed, he⟩⟩
  releasing := fun hphase => by
    obtain ⟨hphase, hends, hloss⟩ := hreleasing hphase
    obtain ⟨hone, hconfirmed, hknown, hundefined⟩ := h.releasing hphase
    rw [hreleases, releaseConfirmed_snoc, knownLost_snoc hrun, hloss]
    exact ⟨hone, not_or.mpr ⟨hconfirmed, he⟩, not_or.mpr ⟨hknown, hends⟩, hundefined⟩
  settled := fun outcome hphase => absurd hphase (hsettled outcome)

/-- The step lemma for the release. -/
theorem ReleaseTraces.step (h : ReleaseTraces g es c) (hloss : LossTraces g es c)
    (hcallback : CallbackTraces es c) (hrun : (machine T g).run es = some c)
    (hnot : ∀ outcome, c.phase ≠ .settled outcome) (hs : Steps c e c') :
    ReleaseTraces g (es ++ [e]) c' := by
  cases hs with
  | callbackSettles hphase callback =>
      cases callback <;>
        exact h.keep hrun nofun rfl (fun _ => Or.inl hphase) nofun fun _ => nofun
  | renewalWakes hrenewal =>
      have hearly : c.phase ≠ .releasing := fun hphase =>
        absurd (hloss.ended (by simp [hphase]) (by simp [hphase])) (by simp [hrenewal])
      rw [startRenewal_eq]
      split
      · exact h.keep hrun nofun rfl id (fun hphase => absurd hphase hearly) hnot
      · refine h.keep hrun nofun ?_ id (fun hphase => absurd hphase hearly) hnot
        simp [releases, LeaseRequest.isRelease]
  | extendSettles hrenewal result =>
      have hearly : c.phase ≠ .releasing := fun hphase =>
        absurd (hloss.ended (by simp [hphase]) (by simp [hphase])) (by simp [hrenewal])
      cases result <;>
        exact h.keep hrun nofun rfl id (fun hphase => absurd hphase hearly) hnot
  | disconnected =>
      -- once the callback has settled, `withLease` does not notice
      have hends : c.phase = .releasing → ¬ EndsLease c .disconnected := fun hphase hends => by
        rcases hends with hends | hends <;> simp [hphase] at hends
      unfold connectionLost
      split
      · exact h.keep hrun nofun rfl id (fun hphase => ⟨hphase, hends hphase, rfl⟩) hnot
      · rename_i hnoticed
        obtain ⟨hpending, -⟩ := not_or.mp hnoticed
        have hrunning : c.phase = .running := hcallback.running.mpr (by simpa using hpending)
        refine h.keep hrun nofun rfl id (fun hphase => ?_) hnot
        have hphase : c.phase = .releasing := hphase
        simp [hrunning] at hphase
  | abort => exact h.keep hrun nofun rfl id (fun hphase => ⟨hphase, nofun, rfl⟩) hnot
  | renewalAwaited hphase hrenewal =>
      obtain ⟨hzero, hconfirmed⟩ := h.early (Or.inr hphase)
      have hknown : KnownLost g (es ++ [.renewalAwaited]) ↔ c.lease.closed = true := by
        rw [knownLost_snoc hrun, ← hloss.closed (Or.inr hphase)]
        exact or_iff_left nofun
      have hconfirmed : ¬ ReleaseConfirmed (es ++ [Event.renewalAwaited (T := T)]) := by
        rw [releaseConfirmed_snoc]
        exact not_or.mpr ⟨hconfirmed, nofun⟩
      rw [renewalAwaited_eq]
      split
      · rename_i hne
        have hclosed : c.lease.closed = true := (hloss.closed (Or.inr hphase)).mp (hloss.known hne)
        refine ⟨nofun, nofun, fun outcome heq => ⟨.undefined, (Phase.settled.inj heq).symm, ?_,
          fun _ => hzero, fun hopen => absurd (hknown.mpr hclosed) hopen⟩⟩
        exact iff_of_false (fun hboth => hne hboth.2) hconfirmed
      · split
        · rename_i hclosed
          refine ⟨nofun, nofun, fun outcome heq => ⟨_, (Phase.settled.inj heq).symm, ?_,
            fun _ => hzero, fun hopen => absurd (hknown.mpr hclosed) hopen⟩⟩
          exact iff_of_false (fun hboth => JsError.value_ne_undefined _ hboth.1) hconfirmed
        · rename_i hlost hopen
          refine ⟨nofun, fun _ => ⟨?_, hconfirmed, fun hk => hopen (hknown.mp hk),
            not_not.mp hlost⟩, nofun⟩
          unfold releases at hzero ⊢
          rw [List.countP_append, hzero]
          rfl
  | releaseSettles hphase result =>
      obtain ⟨hone, hconfirmed, hknown, hundefined⟩ := h.releasing hphase
      have hknown : ¬ KnownLost g (es ++ [.releaseSettles result]) := by
        rw [knownLost_snoc hrun]
        exact not_or.mpr ⟨hknown, nofun⟩
      refine ⟨nofun, nofun, fun outcome heq => ⟨_, (Phase.settled.inj heq).symm, ?_,
        fun hk => absurd hk hknown, fun _ => hone⟩⟩
      rw [releaseConfirmed_snoc]
      cases result with
      | ok => exact iff_of_true ⟨rfl, hundefined⟩ (Or.inr rfl)
      | error error =>
          exact iff_of_false (fun hboth => JsError.value_ne_undefined _ hboth.1)
            (not_or.mpr ⟨hconfirmed, nofun⟩)

end Step

/-! ### Runs -/

section Runs

variable {g : Grant} {es : List (Event T)} {c : WithLease T}

/-- What the variables stand for after a run. -/
structure Traces (g : Grant) (es : List (Event T)) (c : WithLease T) : Prop where
  callback : CallbackTraces es c
  loss : LossTraces g es c
  release : ReleaseTraces g es c
  aborted : Aborted g es ↔ c.signal.isSome

/-- The traces are right in every run. -/
theorem traces_run (hrun : (machine T g).run es = some c) : Traces g es c := by
  refine Machine.runFrom_induction (M := machine T g) (motive := Traces g) ?_ ?_ hrun
  · exact ⟨callbackTraces_create g, lossTraces_create g, releaseTraces_create g,
      by simp [Aborted, machine, create]⟩
  · intro es c e c' hrun h hs
    obtain ⟨hnot, hs⟩ := step_cases hs
    exact ⟨h.callback.step hs, h.loss.step h.callback hrun hs,
      h.release.step h.loss h.callback hrun hnot hs, aborted_step h.aborted hs⟩

/-- Without an abort of the caller, no failure is listed only if no variable holds one:
a callback's failure is taken for a cancellation only if the lease was lost. -/
theorem failures_eq_nil_iff {failure : JsValue} (hsignal : c.signal = none) :
    c.failures failure = [] ↔
      c.leaseLoss = .undefined ∧ failure = .undefined ∧ c.callbackFailure = .undefined := by
  by_cases hloss : c.leaseLoss = .undefined
  · by_cases hfailure : failure = .undefined <;>
      by_cases hcallback : c.callbackFailure = .undefined <;>
      simp [failures, isManagedCancellation, hloss, hfailure, hsignal, hcallback]
  · simp [failures, hloss]

/-- The call fulfils exactly if no variable holds a failure. -/
theorem outcome_fulfilled_iff {failure : JsValue} {value : Option T} :
    c.outcome failure = .fulfilled value ↔ c.signal = none ∧ c.callbackValue = value ∧
      c.leaseLoss = .undefined ∧ failure = .undefined ∧ c.callbackFailure = .undefined := by
  cases hsignal : c.signal with
  | none =>
      rw [← failures_eq_nil_iff hsignal]
      unfold outcome
      split <;> simp_all
  | some reason =>
      unfold outcome
      split <;> simp [hsignal]

/-- When the call has settled: it fulfils exactly if everything went well and the
callback did not reject with anything but `undefined`. -/
theorem Traces.fulfilled_iff (h : Traces g es c) {outcome : Outcome T}
    (hsettled : c.phase = .settled outcome) {value : Option T} :
    outcome = .fulfilled value ↔ (¬ LossDetected g es ∧ ¬ Aborted g es ∧ ReleaseConfirmed es) ∧
      c.callbackFailure = .undefined ∧ c.callbackValue = value := by
  obtain ⟨failure, rfl, hconfirmed, -, -⟩ := h.release.settled outcome hsettled
  rw [outcome_fulfilled_iff, ← hconfirmed, h.loss.detected, h.aborted, not_not]
  rw [Option.not_isSome_iff_eq_none]
  tauto

/-- A callback that has settled has fulfilled, or rejected. -/
theorem Traces.callbackDone (h : Traces g es c) {outcome : Outcome T}
    (hsettled : c.phase = .settled outcome) : c.callbackDone = true := by
  by_contra hdone
  have hrunning := h.callback.running.mpr (by simpa using hdone)
  rw [hrunning] at hsettled
  cases hsettled

/-- `withLease` gives the value of its callback exactly in the runs that succeed. -/
theorem Traces.succeeded_iff (h : Traces g es c) {outcome : Outcome T}
    (hsettled : c.phase = .settled outcome) (v : T) :
    outcome = .fulfilled (some v) ↔ Succeeded g es v := by
  rw [h.fulfilled_iff hsettled, Succeeded, h.callback.fulfilled v]
  constructor
  · rintro ⟨hwell, -, hvalue⟩
    exact ⟨hvalue, hwell⟩
  · rintro ⟨hvalue, hwell⟩
    exact ⟨hwell, (h.callback.fulfils (by simp [hvalue])).2, hvalue⟩

theorem Traces.rejectedWithUndefined_iff (h : Traces g es c) {outcome : Outcome T}
    (hsettled : c.phase = .settled outcome) :
    outcome = .fulfilled none ↔ RejectedWithUndefined g es := by
  rw [h.fulfilled_iff hsettled, RejectedWithUndefined, h.callback.rejected]
  have hdone := h.callbackDone hsettled
  tauto

/-- RELEASE is sent at most once, and only while the lease is not known to be lost. -/
theorem Traces.release_step (h : Traces g es c) {e : Event T} {c' : WithLease T}
    (hs : c.step e = some c') (hne : c'.releases ≠ c.releases) : ¬ KnownLost g es := by
  obtain ⟨-, hs⟩ := step_cases hs
  cases hs with
  | callbackSettles _ callback => cases callback <;> exact absurd rfl hne
  | renewalWakes =>
      rw [startRenewal_eq] at hne
      split at hne
      · exact absurd rfl hne
      · exact absurd (by simp [releases, LeaseRequest.isRelease]) hne
  | extendSettles _ result => cases result <;> exact absurd rfl hne
  | disconnected =>
      unfold connectionLost at hne
      split at hne <;> exact absurd rfl hne
  | abort => exact absurd rfl hne
  | renewalAwaited hphase =>
      rw [renewalAwaited_eq] at hne
      split at hne
      · exact absurd rfl hne
      · split at hne
        · exact absurd rfl hne
        · rename_i hopen
          rwa [h.loss.closed (Or.inr hphase)]
  | releaseSettles => exact absurd rfl hne

/-- **The outcome of `withLease`.** A settled call keeps the promise exactly when it
is not the case that the callback rejected with `undefined` while nothing else
went wrong. -/
theorem withLease_outcome_iff (g : Grant) {es : List (Event T)} {c : WithLease T}
    {outcome : Outcome T} (hrun : (machine T g).run es = some c)
    (hsettled : c.phase = .settled outcome) :
    Lawful g es c outcome ↔ ¬ RejectedWithUndefined g es := by
  have h := traces_run hrun
  obtain ⟨failure, -, -, hzero, hone⟩ := h.release.settled outcome hsettled
  constructor
  · intro hlawful hrejected
    have hnone := (h.rejectedWithUndefined_iff hsettled).mpr hrejected
    have hno : ¬ ∃ v, Succeeded g es v := by
      rintro ⟨v, hv⟩
      rw [← h.succeeded_iff hsettled v, hnone] at hv
      cases hv
    have := hlawful.rejects hno
    rw [hnone] at this
    cases this
  · intro hnot
    refine ⟨h.succeeded_iff hsettled, fun hno => ?_, hone, hzero, ?_⟩
    · match houtcome : outcome with
      | .fulfilled none => exact absurd ((h.rejectedWithUndefined_iff hsettled).mp rfl) hnot
      | .fulfilled (some v) => exact absurd ⟨v, (h.succeeded_iff hsettled v).mp rfl⟩ hno
      | .rejected _ => rfl
      | .lifecycleError _ => rfl
    · intro before e after b b' _ hb hs hne
      exact (traces_run hb).release_step hs hne

/-! ### A callback that rejects with `undefined` -/

/-- A lease of a minute, held by an open handle; the caller has not aborted. -/
def minuteGrant : Grant := ⟨60, "lease://acme/jobs/nightly", 7, false, none⟩

/-- The callback rejects with `undefined`; the lease is held throughout, and its
release is confirmed. -/
def rejectsUndefinedRun : List (Event Nat) :=
  [.callbackSettles (.rejected .undefined), .renewalAwaited, .releaseSettles (.ok ())]

theorem not_forall_withLease_outcome : ∃ c outcome,
    (machine Nat minuteGrant).run rejectsUndefinedRun = some c ∧ c.phase = .settled outcome ∧
      outcome = .fulfilled none ∧ ¬ Lawful minuteGrant rejectsUndefinedRun c outcome := by
  refine ⟨_, _, rfl, rfl, by decide +kernel, fun hlawful => ?_⟩
  have hrejected := hlawful.rejects
  refine absurd (hrejected ?_) (by decide +kernel)
  rintro ⟨v, hv, -⟩
  simp [CallbackFulfilled, rejectsUndefinedRun] at hv

/-- A renewal, then the callback fulfils with `5` and the release is confirmed. -/
def fulfilsRun : List (Event Nat) :=
  [.renewalWakes, .extendSettles (.ok 8), .callbackSettles (.fulfilled 5), .renewalAwaited,
    .releaseSettles (.ok ())]

theorem withLease_outcome_fulfils : ∃ c, (machine Nat minuteGrant).run fulfilsRun = some c ∧
    c.phase = .settled (.fulfilled (some 5)) ∧
      (Lawful minuteGrant fulfilsRun c (.fulfilled (some 5)) ↔
        ¬ RejectedWithUndefined minuteGrant fulfilsRun) :=
  ⟨_, rfl, rfl, withLease_outcome_iff minuteGrant rfl rfl⟩

end Runs

end FitzTs.Lease.WithLease
