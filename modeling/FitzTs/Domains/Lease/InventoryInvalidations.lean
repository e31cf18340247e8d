import FitzTs.Domains.Lease.Inventory
/-!
# FitzTs.Domains.Lease.InventoryInvalidations

**Whether the observer loses an invalidation.** The request flag is cleared before
a pass runs, so while a pass runs it is the pass itself that answers for what had
arrived before it began. A pass that fails answers for nothing any more: unless the
flag is set again, what it was started for is forgotten, and the observer stays
ready with a view that is known to be stale. The same holds of a reconnect before
the reconnect listener is installed.

`keepsWork_run`: in a run that avoids these two, everything that has arrived since
the pass of the current view began is answered for. `keepsWork_run_fails`: a LIST
that fails after a notification is one run that does not.
-/

namespace FitzTs.Lease.Inventory

namespace Observer

/-! ### What is answered for -/

/-- Every invalidation that arrived after the pass of the current view began is
answered for: the observer is not ready, or a reconcile is requested and a pass or a
recovery runs that takes it up, or a pass runs that began after it. -/
def Answers (s : Observer) : Prop :=
  s.closed = false → s.aborted = false → ∀ n, s.viewStartedAt < n → n ≤ s.invalidations →
    s.ready = false ∨
    (s.reconcileRequested = true ∧ (s.activeReconcile.isSome ∨ s.activeRecovery.isSome)) ∨
    ∃ p, s.activeReconcile = some p ∧ p.isRunning = true ∧ n ≤ p.startedAt

/-- As things stand, the view of the pass will be installed if its pages come. -/
def mayInstall (s : Observer) (p : Reconcile) : Bool :=
  !s.closed && !s.reconcileRequested && s.subscriptionReady &&
    s.subscriptionGeneration = p.passSubscriptionGeneration &&
    (p.phase = .collected || (p.phase = .fetching && !s.aborted))

/-- The step keeps what is asked of the observer in sight: a pass that has failed is
not the only one to answer for an invalidation, and no reconnect goes unheard by an
observer whose view or whose pass it concerns. -/
def KeepsWork (s : Observer) : Event → Prop
  | .passContinues => ∀ p, s.activeReconcile = some p → p.phase = .failed →
      s.ready = false ∨ s.reconcileRequested = true ∨ s.closed = true ∨ s.aborted = true ∨
        s.viewStartedAt = s.invalidations
  | .reconnected => s.listening = true ∨ s.closed = true ∨
      ((s.ready = false ∨ s.aborted = true) ∧
        ∀ p, s.activeReconcile = some p → s.mayInstall p = false)
  | _ => True

instance (s : Observer) (e : Event) : Decidable (s.KeepsWork e) := by
  cases e <;> dsimp only [KeepsWork] <;> infer_instance

/-! ### What is only about the subscription or the connection -/

/-- The two states agree on the view, the passes and what is asked of them. -/
structure SamePasses (s s' : Observer) : Prop where
  installs : s'.installs = s.installs
  ready : s'.ready = s.ready
  subscriptionReady : s'.subscriptionReady = s.subscriptionReady
  generation : s'.subscriptionGeneration = s.subscriptionGeneration
  requested : s'.reconcileRequested = s.reconcileRequested
  active : s'.activeReconcile = s.activeReconcile
  closed : s'.closed = s.closed
  aborted : s'.aborted = s.aborted
  invalidations : s'.invalidations = s.invalidations

/-- The observer is still at work. -/
def isOpen (s : Observer) : Bool := !s.closed && !s.aborted && decide (s.stage ≠ .threw)

/-- Nor do they differ in where the observer and its connection stand. -/
structure SameWork (s s' : Observer) : Prop extends SamePasses s s' where
  link : s'.link = s.link
  session : s'.session = s.session
  isOpen : s'.isOpen = s.isOpen

theorem SameWork.rfl {s : Observer} : SameWork s s := by repeat' constructor

variable {s s' : Observer}

theorem SameWork.trans {s'' : Observer} (h : SameWork s s') (h' : SameWork s' s'') :
    SameWork s s'' where
  installs := h'.installs.trans h.installs
  ready := h'.ready.trans h.ready
  subscriptionReady := h'.subscriptionReady.trans h.subscriptionReady
  generation := h'.generation.trans h.generation
  requested := h'.requested.trans h.requested
  active := h'.active.trans h.active
  closed := h'.closed.trans h.closed
  aborted := h'.aborted.trans h.aborted
  invalidations := h'.invalidations.trans h.invalidations
  link := h'.link.trans h.link
  session := h'.session.trans h.session
  isOpen := h'.isOpen.trans h.isOpen

/-- To unsubscribe is no work of the passes. -/
theorem sameWork_unsubscribe (handlerId : Nat) : SameWork s (s.unsubscribe handlerId) := by
  unfold unsubscribe
  split
  · exact .rfl
  · split
    · exact .rfl
    · split <;> repeat' constructor

theorem sameWork_unsubscribeHandle : SameWork s s.unsubscribeHandle := by
  unfold unsubscribeHandle
  split
  · have hsame : SameWork s { s with
        subscription := { s.subscription with active := false } } := by repeat' constructor
    exact hsame.trans (sameWork_unsubscribe _)
  · exact .rfl

/-- A failed subscription is dealt with in a later step. -/
theorem sameWork_fail : SameWork s s.fail := by
  unfold fail
  split
  · have hsame : SameWork s { s with
        subscription := { s.subscription with
          active := false, terminalFailure := true, rejected := true } } := by repeat' constructor
    exact hsame.trans (sameWork_unsubscribe _)
  · exact .rfl

theorem sameWork_subscribe : SameWork s s.subscribe := by
  unfold subscribe
  split
  · repeat' constructor
  · split <;> repeat' constructor

/-- A restore of the entry is not seen by the passes. -/
theorem sameWork_restores (ok : Bool) : SameWork s (s.restores ok) := by
  unfold restores
  split
  · exact .rfl
  · split
    · repeat' constructor
    · exact .rfl

theorem sameWork_unsubscribeSettles {entry : Entry} {handlerId : Nat} {ok processed : Bool} :
    SameWork s (s.unsubscribeSettles entry handlerId ok processed) := by
  unfold unsubscribeSettles
  split <;> repeat' constructor

/-! ### The invariant -/

/-- What the passes of the observer answer for. -/
structure Accounted (s : Observer) : Prop where
  /-- Nothing has arrived since a pass began that will be installed. -/
  raced : ∀ p, s.activeReconcile = some p → s.mayInstall p = true → s.invalidations = p.startedAt
  sleeping : ∀ p, s.activeReconcile = some p → p.phase = .sleeping → s.reconcileRequested = true
  subscribed : s.ready = true → s.subscriptionReady = true
  answered : s.ready = true → s.closed = true ∨ s.aborted = true ∨
    s.viewStartedAt = s.invalidations ∨
    (s.reconcileRequested = true ∧ s.activeReconcile.isSome = true) ∨
    ∃ p, s.activeReconcile = some p ∧ p.isRunning = true ∧ p.startedAt = s.invalidations

theorem viewStartedAt_congr (h : s'.installs = s.installs) :
    s'.viewStartedAt = s.viewStartedAt := by
  rw [viewStartedAt, viewStartedAt, h]

/-- Whether a view will be installed depends on the passes alone. -/
theorem SamePasses.mayInstall (h : SamePasses s s') (p : Reconcile) :
    s'.mayInstall p = s.mayInstall p := by
  rw [Observer.mayInstall, Observer.mayInstall, h.closed, h.requested, h.subscriptionReady,
    h.generation, h.aborted]

/-- What is requested anew will not be installed. -/
theorem mayInstall_of_requested {p : Reconcile} (h : s.reconcileRequested = true) :
    s.mayInstall p = false := by
  simp [mayInstall, h]

/-- A closed observer installs nothing. -/
theorem mayInstall_of_closed {p : Reconcile} (h : s.closed = true) : s.mayInstall p = false := by
  simp [mayInstall, h]

/-- Only a pass that waits for pages, or has them all, may be installed. -/
theorem mayInstall_phase {p : Reconcile} (h : s.mayInstall p = true) :
    p.phase = .collected ∨ p.phase = .fetching := by
  simp only [mayInstall, Bool.and_eq_true, Bool.or_eq_true, decide_eq_true_eq] at h
  exact h.2.imp_right And.left

/-- An observer that is asked to reconcile owes nothing to the pass under way. -/
theorem raced_of_requested (h : s.reconcileRequested = true) :
    ∀ p, s.activeReconcile = some p → s.mayInstall p = true → s.invalidations = p.startedAt := by
  intro p _ hmay
  rw [mayInstall_of_requested h] at hmay
  cases hmay

theorem raced_of_closed (h : s.closed = true) :
    ∀ p, s.activeReconcile = some p → s.mayInstall p = true → s.invalidations = p.startedAt := by
  intro p _ hmay
  rw [mayInstall_of_closed h] at hmay
  cases hmay

/-- The invariant reads what `SamePasses` compares. -/
theorem Accounted.congr (h : s.Accounted) (hs : SamePasses s s') : s'.Accounted where
  raced := by
    intro p hp hmay
    rw [hs.active] at hp
    rw [hs.mayInstall] at hmay
    rw [hs.invalidations]
    exact h.raced p hp hmay
  sleeping := by rw [hs.active, hs.requested]; exact h.sleeping
  subscribed := by rw [hs.ready, hs.subscriptionReady]; exact h.subscribed
  answered := by
    rw [hs.ready, hs.closed, hs.aborted, viewStartedAt_congr hs.installs, hs.invalidations,
      hs.requested, hs.active]
    exact h.answered

/-- An observer that is not ready and whose passes are asked to go on answers for all. -/
theorem accounted_of_requested (hready : s.ready = false) (hreq : s.reconcileRequested = true) :
    s.Accounted where
  raced := raced_of_requested hreq
  sleeping _ _ _ := hreq
  subscribed hr := by rw [hready] at hr; cases hr
  answered hr := by rw [hready] at hr; cases hr

/-- Without `ready` there is no view to answer for. -/
theorem Accounted.unready (h : s.Accounted) (subscriptionReady : Bool) :
    { s with
      ready := false
      subscriptionReady := s.subscriptionReady && subscriptionReady }.Accounted
    where
  raced p hp hmay := by
    refine h.raced p hp ?_
    simp only [mayInstall, Bool.and_eq_true] at hmay ⊢
    exact ⟨⟨⟨hmay.1.1.1, hmay.1.1.2.1⟩, hmay.1.2⟩, hmay.2⟩
  sleeping := h.sleeping
  subscribed hr := by cases hr
  answered hr := by cases hr

/-- The next pass begins after every invalidation so far, so it answers for all of them. -/
theorem loop_accounted {p : Reconcile} (hreq : s.reconcileRequested = true)
    (hsub : s.ready = true → s.subscriptionReady = true) : (s.loop p).Accounted := by
  unfold loop
  split
  · -- the new pass began after all that has arrived
    refine ⟨?_, ?_, hsub, ?_⟩
    · rintro q ⟨⟩ -
      rfl
    · rintro q ⟨⟩ hq
      cases hq
    · intro _
      exact Or.inr (Or.inr (Or.inr (Or.inr ⟨_, rfl, rfl, rfl⟩)))
  · -- the loop is left, so nobody asks or the observer is closed or aborted
    rename_i hloop
    refine ⟨?_, ?_, hsub, ?_⟩
    · rintro q ⟨⟩ hmay
      rcases mayInstall_phase hmay with hq | hq <;> cases hq
    · rintro q ⟨⟩ hq
      cases hq
    · intro hr
      have hsr := hsub hr
      simp only [hreq, hsr, Bool.true_and, Bool.and_true, Bool.and_eq_true, Bool.not_eq_true',
        not_and, Bool.not_eq_false] at hloop
      by_cases hc : s.closed = true
      · exact Or.inl hc
      · exact Or.inr (Or.inl (hloop (by simpa using hc)))

@[simp] theorem request_installs {g : Bool} : (s.request g).installs = s.installs := rfl
@[simp] theorem request_activeReconcile {g : Bool} :
    (s.request g).activeReconcile = s.activeReconcile := rfl

/-- A request makes no observer ready. -/
theorem request_ready {g : Bool} (h : (s.request g).ready = true) : s.ready = true := by
  simp only [request, Bool.and_eq_true] at h
  exact h.1

/-- Whatever was asked before, after `requestReconcile` all is answered for. -/
theorem requestReconcile_accounted {g : Bool} (hsub : s.ready = true → s.subscriptionReady = true) :
    (s.requestReconcile g).1.Accounted := by
  have hsub' : (s.request g).ready = true → (s.request g).subscriptionReady = true :=
    fun hr => hsub (request_ready hr)
  unfold requestReconcile
  split
  · exact accounted_of_requested rfl rfl
  · split
    · rename_i hready
      refine ⟨raced_of_requested rfl, fun _ _ _ => rfl, hsub', fun hr => ?_⟩
      have hsr := hsub (request_ready hr)
      have hc : s.closed = true := by simpa [hsr] using hready
      exact Or.inl hc
    · split
      · rename_i hactive
        exact ⟨raced_of_requested rfl, fun _ _ _ => rfl, hsub',
          fun _ => Or.inr (Or.inr (Or.inr (Or.inl ⟨rfl, hactive⟩)))⟩
      · exact loop_accounted rfl hsub'

theorem invalidate_accounted (h : s.Accounted) : s.invalidate.Accounted :=
  requestReconcile_accounted h.subscribed

/-- Only the loop's own state changes. -/
theorem Accounted.ended (h : s.Accounted) {p : Reconcile} {threw : Bool}
    (hdone : s.ready = true → s.closed = true ∨ s.aborted = true ∨
      s.viewStartedAt = s.invalidations ∨ s.reconcileRequested = true) :
    { s with activeReconcile := some { p with phase := .ended threw } }.Accounted where
  raced := by
    rintro q ⟨⟩ hmay
    rcases mayInstall_phase hmay with hq | hq <;> cases hq
  sleeping := by
    rintro q ⟨⟩ hq
    cases hq
  subscribed := h.subscribed
  answered hr := by
    rcases hdone hr with hc | ha | hv | hreq
    · exact Or.inl hc
    · exact Or.inr (Or.inl ha)
    · exact Or.inr (Or.inr (Or.inl hv))
    · exact Or.inr (Or.inr (Or.inr (Or.inl ⟨hreq, rfl⟩)))

/-- A pass that has ended installs its view if nothing has raced it; one that has failed leaves
its request standing. -/
theorem passContinues_accounted (h : s.Accounted) (hK : s.KeepsWork .passContinues)
    {p : Reconcile} (hp : s.activeReconcile = some p) (hs : s.passContinues p = some s') :
    s'.Accounted := by
  unfold passContinues at hs
  split at hs
  · -- the pass has failed
    rename_i hphase
    cases hs
    refine h.ended fun hr => ?_
    rcases hK p hp hphase with hn | hreq | hc | ha | hv
    · rw [hr] at hn; cases hn
    · exact Or.inr (Or.inr (Or.inr hreq))
    · exact Or.inl hc
    · exact Or.inr (Or.inl ha)
    · exact Or.inr (Or.inr (Or.inl hv))
  · rename_i hphase
    split at hs
    · -- a closed observer drops the candidate
      rename_i hc
      cases hs
      exact h.ended fun _ => Or.inl hc
    · rename_i hopen
      split at hs
      · -- another subscription: the candidate is dropped and asked for again
        cases hs
        have hreq : ({ s with reconcileRequested := true } : Observer).Accounted :=
          ⟨raced_of_requested rfl, fun _ _ _ => rfl, h.subscribed, fun _ =>
            Or.inr (Or.inr (Or.inr (Or.inl ⟨rfl, by simp [hp]⟩)))⟩
        exact hreq.ended fun _ => Or.inr (Or.inr (Or.inr rfl))
      · rename_i hsame
        split at hs
        · -- a notification has arrived meanwhile: another pass follows
          rename_i hreq
          cases hs
          refine ⟨raced_of_requested hreq, fun _ _ _ => hreq, h.subscribed, fun _ => ?_⟩
          exact Or.inr (Or.inr (Or.inr (Or.inl ⟨hreq, rfl⟩)))
        · rename_i hreq
          cases hs
          -- nothing has arrived since the pass began
          simp only [Bool.or_eq_true, Bool.not_eq_true', bne_iff_ne, ne_eq, not_or,
            Bool.not_eq_false, not_not] at hsame
          have hmay : s.mayInstall p = true := by
            simp [mayInstall, hphase, hsame.1, hsame.2, hopen, hreq]
          have hnow : s.invalidations = p.startedAt := h.raced p hp hmay
          refine ⟨?_, ?_, fun _ => hsame.1, fun _ => ?_⟩
          · rintro q ⟨⟩ hmay'
            rcases mayInstall_phase hmay' with hq | hq <;> cases hq
          · rintro q ⟨⟩ hq
            cases hq
          · exact Or.inr (Or.inr (Or.inl hnow.symm))
  all_goals cases hs

/-- What was asked for during the last pass is taken up by another. -/
theorem passFinally_accounted (h : s.Accounted) {p : Reconcile} {threw : Bool}
    (hp : s.activeReconcile = some p) (hphase : p.phase = .ended threw) :
    (s.passFinally threw).Accounted := by
  unfold passFinally
  dsimp only
  split
  · exact requestReconcile_accounted h.subscribed
  · rename_i hdone
    refine ⟨fun _ hq => (nomatch hq), fun _ hq => (nomatch hq), h.subscribed, fun hr => ?_⟩
    have hsr : s.subscriptionReady = true := h.subscribed hr
    rcases h.answered hr with hc | ha | hv | ⟨hreq, -⟩ | ⟨q, hq, hrun, -⟩
    · exact Or.inl hc
    · exact Or.inr (Or.inl ha)
    · exact Or.inr (Or.inr (Or.inl hv))
    · have hopen : ¬ (s.reconcileRequested && s.subscriptionReady && !s.closed) = true := hdone
      have hc : s.closed = true := by simpa [hreq, hsr] using hopen
      exact Or.inl hc
    · obtain rfl : p = q := Option.some.inj (hp.symm.trans hq)
      rw [Reconcile.isRunning, hphase] at hrun
      cases hrun

/-- What was asked for stays asked for, whatever the recovery does next. -/
theorem recoveryLoop_accounted (h : s.Accounted) : s.recoveryLoop.Accounted := by
  unfold recoveryLoop
  split
  · exact h.congr (by constructor <;> rfl)
  · split
    · exact (requestReconcile_accounted (g := true) h.subscribed).congr (by constructor <;> rfl)
    · have hsame : SamePasses s { s with activeRecovery := some .subscribing } := by
        constructor <;> rfl
      exact (h.congr hsame).congr sameWork_subscribe.toSamePasses

theorem recoverSubscription_accounted (h : s.Accounted) (replace : Bool) :
    (s.recoverSubscription replace).Accounted := by
  unfold recoverSubscription
  split
  · exact h
  · exact recoveryLoop_accounted (h.unready _)

theorem completionRejected_accounted (h : s.Accounted) : s.completionRejected.Accounted := by
  unfold completionRejected
  dsimp only
  split
  · exact h.congr (by constructor <;> rfl)
  · exact recoverSubscription_accounted (accounted_of_requested rfl rfl) true

/-- A pass that waits for a page takes note of the subscription. -/
theorem note_accounted (h : s.Accounted) : s.note.Accounted := by
  unfold note
  split
  · rename_i p hp
    split
    · rename_i hphase
      refine ⟨?_, ?_, h.subscribed, fun hr => ?_⟩
      · rintro q ⟨⟩ hmay
        exact h.raced p hp hmay
      · rintro q ⟨⟩ hq
        rw [hphase] at hq
        cases hq
      · -- only the note of the pass is new
        rcases h.answered hr with hc | ha | hv | ⟨hreq, -⟩ | ⟨q, hq, hrun, hstart⟩
        · exact Or.inl hc
        · exact Or.inr (Or.inl ha)
        · exact Or.inr (Or.inr (Or.inl hv))
        · exact Or.inr (Or.inr (Or.inr (Or.inl ⟨hreq, rfl⟩)))
        · obtain rfl : p = q := Option.some.inj (hp.symm.trans hq)
          exact Or.inr (Or.inr (Or.inr (Or.inr ⟨_, rfl, hrun, hstart⟩)))
    · exact h
  · exact h

/-- A page of the pass has come. -/
theorem answer_accounted (h : s.Accounted) {p : Reconcile} {page : LeaseListPage}
    (hp : s.activeReconcile = some p) (hphase : p.phase = .fetching)
    (haborted : s.aborted = false) :
    (s.answer p page).Accounted := by
  refine ⟨?_, ?_, h.subscribed, fun hr => ?_⟩
  · rintro q ⟨⟩ hmay
    refine h.raced p hp ?_
    simp only [mayInstall, Bool.and_eq_true] at hmay ⊢
    exact ⟨hmay.1, by simp [hphase, haborted]⟩
  · rintro q ⟨⟩ hq
    dsimp only at hq
    split at hq <;> cases hq
  · rcases h.answered hr with hc | ha | hv | ⟨hreq, -⟩ | ⟨q, hq, -, hstart⟩
    · exact Or.inl hc
    · exact Or.inr (Or.inl ha)
    · exact Or.inr (Or.inr (Or.inl hv))
    · exact Or.inr (Or.inr (Or.inr (Or.inl ⟨hreq, rfl⟩)))
    · obtain rfl : p = q := Option.some.inj (hp.symm.trans hq)
      refine Or.inr (Or.inr (Or.inr (Or.inr ⟨_, rfl, ?_, hstart⟩)))
      by_cases hmore : page.nextCursor.isSome = true <;> simp [Reconcile.isRunning, hmore]

/-- A pass that has failed installs nothing. -/
theorem pageFails_accounted (h : s.Accounted) {p : Reconcile} (hp : s.activeReconcile = some p) :
    { s with activeReconcile := some { p with phase := .failed } }.Accounted := by
  refine ⟨?_, ?_, h.subscribed, fun hr => ?_⟩
  · rintro q ⟨⟩ hmay
    rcases mayInstall_phase hmay with hq | hq <;> cases hq
  · rintro q ⟨⟩ hq
    cases hq
  · rcases h.answered hr with hc | ha | hv | ⟨hreq, -⟩ | ⟨q, hq, -, hstart⟩
    · exact Or.inl hc
    · exact Or.inr (Or.inl ha)
    · exact Or.inr (Or.inr (Or.inl hv))
    · exact Or.inr (Or.inr (Or.inr (Or.inl ⟨hreq, rfl⟩)))
    · obtain rfl : p = q := Option.some.inj (hp.symm.trans hq)
      exact Or.inr (Or.inr (Or.inr (Or.inr ⟨_, rfl, rfl, hstart⟩)))

/-- A reconnect that the observer hears of asks for a pass. -/
theorem reconnected_accounted (h : s.Accounted) (hK : s.KeepsWork .reconnected) :
    s.reconnected.Accounted := by
  unfold reconnected
  split
  · exact (requestReconcile_accounted (g := true) h.subscribed).congr (by constructor <;> rfl)
  · rename_i hdeaf
    rcases hK with hl | hc | ⟨hready, hquiet⟩
    · have hc : s.closed = true := by simpa [hl] using hdeaf
      exact ⟨raced_of_closed hc, h.sleeping, h.subscribed, fun _ => Or.inl hc⟩
    · exact ⟨raced_of_closed hc, h.sleeping, h.subscribed, fun _ => Or.inl hc⟩
    · refine ⟨fun p hp hmay => ?_, h.sleeping, h.subscribed, fun hr => ?_⟩
      · have hmay' : s.mayInstall p = true := hmay
        rw [hquiet p hp] at hmay'
        cases hmay'
      · rcases hready with hready | haborted
        · have hr' : s.ready = true := hr
          rw [hready] at hr'
          cases hr'
        · exact Or.inr (Or.inl haborted)

theorem abort_accounted (h : s.Accounted) : s.abort.Accounted := by
  have hsame : SamePasses { s with aborted := true } { s with aborted := true }.unsubscribeHandle :=
    sameWork_unsubscribeHandle.toSamePasses
  have haborted : ({ s with aborted := true } : Observer).Accounted := by
    refine ⟨fun p hp hmay => h.raced p hp ?_, h.sleeping, h.subscribed,
      fun _ => Or.inr (Or.inl rfl)⟩
    simp only [mayInstall, Bool.and_eq_true, Bool.or_eq_true] at hmay ⊢
    exact ⟨hmay.1, hmay.2.imp_right fun hfetch => (nomatch hfetch.2)⟩
  unfold abort
  dsimp only
  split
  · exact ((haborted.congr hsame).unready true).congr (by constructor <;> simp)
  · exact haborted.congr hsame

theorem recoverySubscribed_accounted (h : s.Accounted) (failed : Bool) :
    (s.recoverySubscribed failed).Accounted := by
  unfold recoverySubscribed
  split
  · exact h.congr (by constructor <;> rfl)
  · split
    · have hsame : SamePasses s { s with subscribing := none, activeRecovery := some .ended } := by
        constructor <;> rfl
      exact (h.congr hsame).congr sameWork_unsubscribeHandle.toSamePasses
    · exact (requestReconcile_accounted (s := s.adopt) (g := true) fun _ => rfl).congr
        (by constructor <;> rfl)

theorem bootstrapSubscribed_accounted (h : s.Accounted) (failed : Bool) :
    (s.bootstrapSubscribed failed).Accounted := by
  unfold bootstrapSubscribed
  split
  · exact h.congr (by constructor <;> rfl)
  · exact (requestReconcile_accounted (s := s.adopt) (g := true) fun _ => rfl).congr
      (by constructor <;> rfl)

/-- The lemma of one event, along its outcomes. -/
theorem act_accounted (h : s.Accounted) {e : Event} (hK : s.KeepsWork e) (hs : s.act e = some s') :
    s'.Accounted := by
  cases acts_of_act hs with
  | disconnects | sessionBegins | authenticated | connects | subscribed | subscribeFails
  | subscribeAdds | listenerReturns | recoveryFinally | timerStops | timerContinues
  | bootstrapReturns | staleUnsubscribeSettles =>
      exact h.congr (by constructor <;> rfl)
  | unheard => exact h
  | restores => exact (h.congr (sameWork_restores _).toSamePasses).congr (by constructor <;> rfl)
  | reconnected =>
      have hsame : SamePasses s { s with link := .reconnected } := by constructor <;> rfl
      exact reconnected_accounted (h.congr hsame) hK
  | refused => exact (invalidate_accounted h).congr sameWork_fail.toSamePasses
  | notified => exact invalidate_accounted h
  | completionRejected => exact completionRejected_accounted h
  | subscribeResumes => exact h.congr sameWork_subscribe.toSamePasses
  | bootstrapSubscribed => exact bootstrapSubscribed_accounted h _
  | recoverySubscribed => exact recoverySubscribed_accounted h _
  | pageAnswered hp hphase _ haborted => exact answer_accounted h hp hphase haborted
  | pageFails hp => exact pageFails_accounted h hp
  | passContinues hp hs => exact passContinues_accounted h hK hp hs
  | passWakes hp hphase => exact loop_accounted (h.sleeping _ hp hphase) h.subscribed
  | passFinally hp hphase => exact passFinally_accounted h hp hphase
  | bootstrapThrows =>
      have hsame : SamePasses s { s with stage := .threw } := by constructor <;> rfl
      exact (h.congr hsame).congr sameWork_unsubscribeHandle.toSamePasses
  | listenerThrows =>
      have hsame : SamePasses s { s with listener := none } := by constructor <;> rfl
      exact recoverSubscription_accounted (h.congr hsame) false
  | recoveryContinues =>
      unfold recoveryContinues
      split <;> exact h.congr (by constructor <;> rfl)
  | recoveryWakes => exact recoveryLoop_accounted h
  | timerFires =>
      exact (requestReconcile_accounted (g := false) h.subscribed).congr (by constructor <;> rfl)
  | unsubscribeSettles => exact h.congr sameWork_unsubscribeSettles.toSamePasses
  | abort => exact abort_accounted h
  | close => exact ⟨raced_of_closed rfl, h.sleeping, h.subscribed, fun _ => Or.inl rfl⟩
  | closeContinues => exact h.congr sameWork_unsubscribeHandle.toSamePasses

theorem step_eq {e : Event} (hs : s.step e = some s') : ∃ s₁, s.act e = some s₁ ∧ s' = s₁.note := by
  unfold step at hs
  split at hs
  · cases hs
  · obtain ⟨s₁, h₁, h₂⟩ := Option.map_eq_some_iff.mp hs
    exact ⟨s₁, h₁, h₂.symm⟩

/-- Nothing has been invalidated yet. -/
theorem accounted_create : create.Accounted where
  raced _ hp := (nomatch hp)
  sleeping _ hp := (nomatch hp)
  subscribed hr := (nomatch hr)
  answered hr := (nomatch hr)

/-- What the invariant says of the invalidations. -/
theorem Accounted.answers (h : s.Accounted) : s.Answers := by
  intro hc ha n hn hle
  by_cases hr : s.ready = true
  · refine Or.inr ?_
    rcases h.answered hr with hc' | ha' | hv | ⟨hreq, hp⟩ | ⟨p, hp, hrun, hstart⟩
    · rw [hc] at hc'; cases hc'
    · rw [ha] at ha'; cases ha'
    · exact absurd hn (by omega)
    · exact Or.inl ⟨hreq, Or.inl hp⟩
    · exact Or.inr ⟨p, hp, hrun, by omega⟩
  · exact Or.inl (by simpa using hr)

/-- **No invalidation is lost** in a run that keeps the work in sight: whatever has
arrived since the pass of the current view began, the observer is not ready, or what
is requested will be taken up, or a later pass runs. -/
theorem keepsWork_run {es : List Event} (hK : machine.Guarded KeepsWork machine.init es) :
    machine.Throughout Answers machine.init es := by
  refine Machine.Guarded.throughout (I := Accounted) ?_ (fun _ => Accounted.answers)
    accounted_create hK
  intro s e s' h hK hs
  obtain ⟨s₁, h₁, rfl⟩ := step_eq hs
  exact note_accounted (act_accounted h hK h₁)

/-- The observer is established with one empty page, then a notification arrives. -/
def notifiedRun : List Event :=
  [.connects, .subscribed, .subscribeAdds, .subscribeContinues, .pageAnswered ⟨[], none⟩,
    .passContinues, .passFinally, .bootstrapContinues, .notify false]

/-- The LIST the notification asked for succeeds. -/
theorem keepsWork_run_relisted :
    (machine.run (notifiedRun ++ [.pageAnswered ⟨[], none⟩, .passContinues, .passFinally])).isSome ∧
      machine.Throughout Answers machine.init
        (notifiedRun ++ [.pageAnswered ⟨[], none⟩, .passContinues, .passFinally]) :=
  ⟨by decide +kernel, keepsWork_run (by decide +kernel)⟩

/-- The LIST the notification asked for fails: the observer stays ready, with the view
from before the notification, and nothing is requested or runs. -/
theorem keepsWork_run_fails :
    ∃ s, machine.run (notifiedRun ++ [.pageFails, .passContinues, .passFinally]) = some s ∧
      ¬ s.Answers := by
  refine ⟨_, rfl, fun h => ?_⟩
  rcases h rfl rfl 2 (by decide) (by decide) with hready | ⟨hreq, -⟩ | ⟨p, hp, -⟩
  · cases hready
  · cases hreq
  · cases hp

end Observer

end FitzTs.Lease.Inventory
