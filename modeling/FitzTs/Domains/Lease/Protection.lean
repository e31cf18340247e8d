import FitzTs.Domains.Lease.WithLeaseOutcome
/-!
# FitzTs.Domains.Lease.Protection

Whether the callback of `withLease` is told when it has lost its protection.

The call is followed from its ACQUIRE request. Between the answer that grants the lease and the
listeners of `withLease` lie two awaits: that of `runAcquire`, after which the handle listens for a
disconnect, and that of `withLease` itself. Neither is followed by a second look at the caller's
signal or at the connection.

## Main result

* `protected_iff_undisturbed` — the callback's signal is aborted whenever it has to be exactly if no
  callback is started after an abort or a loss of the session that came between those awaits.
-/

namespace FitzTs.Lease

/-- Where a call of `withLease` stands. -/
inductive Stage (T : Type*)
  /-- The ACQUIRE request, or the place in the queue, has no answer yet. -/
  | acquiring
  /-- An answer with a token has settled the promise that `runAcquire` awaits. -/
  | granted (token : Nat)
  /-- `createLease` has run, and `withLease` awaits the handle. -/
  | acquired (token : Nat) (closed : Bool)
  /-- The listeners are there, and the callback has been called. -/
  | started (call : WithLease T)
  /-- Rejected without a lease. -/
  | rejected
  deriving DecidableEq

/-- A call of `withLease`, with what has happened around it. -/
structure Execution (T : Type*) where
  ttlSeconds : Nat
  route : String
  /-- The reason of `options.signal`, once it is aborted. -/
  signal : Option JsValue
  /-- The session in which the lease was granted has been lost. -/
  sessionLost : Bool
  stage : Stage T
  deriving DecidableEq

inductive ExecutionEvent (T : Type*)
  | granted (token : Nat)
  /-- The request or the wait fails. -/
  | acquireFails
  /-- `runAcquire` goes on with the answer. -/
  | acquireReturns
  /-- `withLease` goes on after `await acquireWithAuthority(..)`. -/
  | acquireAwaited
  /-- The caller, the connection, the callback, the renewal or the release. -/
  | call (event : Event T)

namespace Execution

variable {T : Type*}

/-- `withLease(route, callback, { ttlSeconds, signal })`; a signal that is aborted already makes it
throw. -/
def create (ttlSeconds : Nat) (route : String) (signal : Option JsValue) : Execution T where
  ttlSeconds := ttlSeconds
  route := route
  signal := signal
  sessionLost := false
  stage := if signal.isSome then .rejected else .acquiring

def isDisconnected : Event T → Bool
  | .disconnected => true
  | _ => false

/-- A disconnect before `withLease` listens for it. -/
def lose (x : Execution T) : Execution T :=
  match x.stage with
  | .granted _ => { x with sessionLost := true }
  | .acquired token _ => { x with sessionLost := true, stage := .acquired token true }
  | _ => x

/-- What comes before `withLease` listens. -/
def hears (x : Execution T) : Event T → Option (Execution T)
  | .abort reason =>
    if x.signal = none then some { x with signal := some (abortReason reason) } else none
  | .disconnected => some x.lose
  | _ => none

/-- One step. An abort rejects the request or the wait that has no answer yet. -/
def step (x : Execution T) (e : ExecutionEvent T) : Option (Execution T) :=
  match x.stage, e with
  | .acquiring, .granted token =>
    if x.signal = none then some { x with stage := .granted token } else none
  | .acquiring, .acquireFails => some { x with stage := .rejected }
  | .granted token, .acquireReturns => some { x with stage := .acquired token false }
  | .acquired token closed, .acquireAwaited =>
    some { x with
      stage := .started (.create ⟨x.ttlSeconds, x.route, token, closed, x.signal⟩) }
  | .started call, .call event =>
    (call.step event).map fun call =>
      { x with
        signal := call.signal
        sessionLost := x.sessionLost || isDisconnected event
        stage := .started call }
  | _, .call event => x.hears event
  | _, _ => none

def machine (T : Type*) (ttlSeconds : Nat) (route : String) (signal : Option JsValue) :
    Machine (Execution T) (ExecutionEvent T) := ⟨create ttlSeconds route signal, step⟩

/-- While the callback runs after an abort by the caller or the loss of the session of the grant,
its signal is aborted. -/
def Protected (x : Execution T) : Prop :=
  ∀ call, x.stage = .started call → call.phase = .running →
    x.signal.isSome ∨ x.sessionLost = true → call.lifecycle.isSome

/-- The callback is not started after an abort or a loss of the session since the grant. -/
def Undisturbed (x : Execution T) : ExecutionEvent T → Prop
  | .acquireAwaited => x.signal = none ∧ x.sessionLost = false
  | _ => True

instance {x : Execution T} : ∀ {e : ExecutionEvent T}, Decidable (x.Undisturbed e)
  | .acquireAwaited => inferInstanceAs (Decidable (_ ∧ _))
  | .granted _ | .acquireFails | .acquireReturns | .call _ => isTrue trivial

end Execution

/-! ### The listeners of `withLease` -/

namespace WithLease

variable {T : Type*} {c c' : WithLease T} {e : Event T}

@[simp] theorem abortLifecycle_lifecycle (reason : JsValue) :
    (c.abortLifecycle reason).lifecycle.isSome = true := by
  cases h : c.lifecycle <;> simp [abortLifecycle, h]

/-- A loss that has been noticed has aborted the callback's signal. -/
structure Alert (c : WithLease T) : Prop where
  running : c.phase = .running ↔ c.callbackDone = false
  loss : c.leaseLoss ≠ .undefined → c.lifecycle.isSome

theorem alert_create (g : Grant) : Alert (create g : WithLease T) :=
  ⟨by simp [create], fun h => absurd rfl h⟩

theorem connectionLost_lifecycle (h : c.Alert) (hrunning : c.phase = .running) :
    c.connectionLost.lifecycle.isSome = true := by
  unfold connectionLost
  split
  case isTrue hdone =>
    rcases hdone with hdone | hloss
    · exact absurd hdone (by simp [h.running.mp hrunning])
    · exact h.loss hloss
  case isFalse => simp

/-- The signal of the callback stays aborted. -/
theorem Steps.lifecycle (hs : Steps c e c') (h : c.lifecycle.isSome) : c'.lifecycle.isSome := by
  cases hs with
  | callbackSettles _ callback => cases callback <;> simp [callbackSettled, stopRenewing]
  | renewalWakes =>
      rw [startRenewal_eq]
      split
      · simp [renewalFails, renewLoop]
      · exact h
  | extendSettles _ result =>
      cases result with
      | ok => exact h
      | error => simp [extendSettled, renewalFails, renewLoop]
  | disconnected =>
      unfold connectionLost
      split
      · exact h
      · simp
  | abort => simp [parentAborts]
  | renewalAwaited =>
      rw [renewalAwaited_eq]
      split
      · exact h
      · split <;> exact h
  | releaseSettles => exact h

/-- A step that writes the loss aborts the signal as well. -/
theorem Steps.leaseLoss (hs : Steps c e c') :
    c'.leaseLoss = c.leaseLoss ∨ c'.lifecycle.isSome = true := by
  cases hs with
  | callbackSettles _ callback => exact Or.inl (by cases callback <;> rfl)
  | renewalWakes =>
      rw [startRenewal_eq]
      split
      · exact Or.inr (by simp [renewalFails, renewLoop])
      · exact Or.inl rfl
  | extendSettles _ result =>
      cases result with
      | ok => exact Or.inl rfl
      | error => exact Or.inr (by simp [extendSettled, renewalFails, renewLoop])
  | disconnected =>
      unfold connectionLost
      split
      · exact Or.inl rfl
      · exact Or.inr (by simp)
  | abort => exact Or.inl rfl
  | renewalAwaited =>
      rw [renewalAwaited_eq]
      split
      · exact Or.inl rfl
      · split <;> exact Or.inl rfl
  | releaseSettles => exact Or.inl rfl

theorem Steps.alert (h : c.Alert) (hs : Steps c e c') : c'.Alert := by
  constructor
  · by_cases he : ∃ callback, e = .callbackSettles callback
    · obtain ⟨callback, rfl⟩ := he
      cases hs with
      | callbackSettles =>
          cases callback <;> simp [callbackSettled, stopRenewing, abortLifecycle]
    · obtain ⟨hdone, -, -, hrunning⟩ := hs.keepsCallback (not_exists.mp he)
      rw [hrunning, hdone]
      exact h.running
  · intro hloss
    rcases hs.leaseLoss with hsame | haborted
    · exact hs.lifecycle (h.loss (hsame ▸ hloss))
    · exact haborted

/-- An abort by the caller or a disconnect aborts the signal of a running callback. -/
theorem Steps.warns (h : c.Alert) (hs : Steps c e c') (hrunning : c'.phase = .running)
    (he : (∃ reason, e = .abort reason) ∨ e = .disconnected) : c'.lifecycle.isSome = true := by
  rcases he with ⟨reason, rfl⟩ | rfl
  · cases hs with
    | abort => simp [parentAborts]
  · have hkeeps := hs.keepsCallback (fun _ h => by cases h)
    cases hs with
    | disconnected =>
        exact connectionLost_lifecycle (c := { c with lease := c.lease.disconnected })
          ⟨h.running, h.loss⟩ (hkeeps.running.mp hrunning)

end WithLease

namespace Execution

variable {T : Type*} {x x' : Execution T} {e : ExecutionEvent T}

/-- The call shares the caller's signal with what is around it. -/
def Synced (x : Execution T) : Prop :=
  ∀ call, x.stage = .started call → call.signal = x.signal ∧ call.Alert

theorem step_call {call : WithLease T} {event : Event T} (hstage : x.stage = .started call)
    (hst : x.step (.call event) = some x') : ∃ call', WithLease.Steps call event call' ∧
      x' = { x with
        signal := call'.signal
        sessionLost := x.sessionLost || isDisconnected event
        stage := .started call' } := by
  simp only [step, hstage, Option.map_eq_some_iff] at hst
  obtain ⟨call', hcall, rfl⟩ := hst
  exact ⟨call', (WithLease.step_cases hcall).2, rfl⟩

theorem hears_stage {event : Event T} (hstarted : ∀ call, x.stage ≠ .started call)
    (hst : x.hears event = some x') : ∀ call, x'.stage ≠ .started call := by
  cases event with
  | abort reason =>
      simp only [hears, Option.ite_none_right_eq_some, Option.some.injEq] at hst
      obtain ⟨-, rfl⟩ := hst
      exact hstarted
  | disconnected =>
      obtain rfl := Option.some.inj hst
      unfold lose
      split
      · assumption
      · simp
      · assumption
  | _ => cases hst

/-- Until the callback is started there is nothing to protect, and it is started without a second
look at what has come. -/
theorem step_cases (hst : x.step e = some x') :
    (∀ call, x'.stage ≠ .started call) ∧ e ≠ .acquireAwaited ∨
      (∃ token closed, x.stage = .acquired token closed ∧ e = .acquireAwaited ∧ x' = { x with
        stage := .started (.create ⟨x.ttlSeconds, x.route, token, closed, x.signal⟩) }) ∨
      ∃ call event, x.stage = .started call ∧ e = .call event := by
  cases e with
  | granted token =>
      cases hstage : x.stage <;> simp only [step, hstage, reduceCtorEq] at hst
      obtain ⟨-, ⟨⟩⟩ := Option.ite_none_right_eq_some.mp hst
      exact Or.inl (by simp)
  | acquireFails =>
      cases hstage : x.stage <;> simp only [step, hstage, reduceCtorEq] at hst
      obtain rfl := Option.some.inj hst
      exact Or.inl (by simp)
  | acquireReturns =>
      cases hstage : x.stage <;> simp only [step, hstage, reduceCtorEq] at hst
      obtain rfl := Option.some.inj hst
      exact Or.inl (by simp)
  | acquireAwaited =>
      cases hstage : x.stage <;> simp only [step, hstage, reduceCtorEq] at hst
      exact Or.inr (Or.inl ⟨_, _, rfl, rfl, (Option.some.inj hst).symm⟩)
  | call event =>
      by_cases hstarted : ∃ call, x.stage = .started call
      · obtain ⟨call, hstage⟩ := hstarted
        exact Or.inr (Or.inr ⟨call, event, hstage, rfl⟩)
      · refine Or.inl ⟨?_, nofun⟩
        have hheard : x.hears event = some x' := by
          cases hstage : x.stage <;> simp only [step, hstage] at hst
          case started call => exact absurd ⟨call, hstage⟩ hstarted
          all_goals exact hst
        exact hears_stage (not_exists.mp hstarted) hheard

theorem Synced.step (h : x.Synced) (hst : x.step e = some x') : x'.Synced := by
  rcases step_cases hst with ⟨hnone, -⟩ | ⟨token, closed, -, -, rfl⟩ | ⟨call, event, hstage, rfl⟩
  · exact fun call hstage => absurd hstage (hnone call)
  · intro call hstage
    obtain rfl := Stage.started.inj hstage
    exact ⟨rfl, WithLease.alert_create _⟩
  · obtain ⟨call', hs, rfl⟩ := step_call hstage hst
    intro call hcall
    obtain rfl := Stage.started.inj hcall
    exact ⟨rfl, hs.alert (h _ hstage).2⟩

theorem protected_step_iff (h : x.Synced) (hprotected : x.Protected) (hst : x.step e = some x') :
    x'.Protected ↔ x.Undisturbed e := by
  rcases step_cases hst with ⟨hnone, he⟩ | ⟨token, closed, -, rfl, rfl⟩ |
    ⟨call, event, hstage, rfl⟩
  · refine iff_of_true (fun call hstage => absurd hstage (hnone call)) ?_
    cases e with
    | acquireAwaited => exact absurd rfl he
    | _ => trivial
  · -- the callback starts, and its signal is not aborted
    constructor
    · intro hstarted
      by_contra hdisturbed
      have hlifecycle := hstarted _ rfl rfl (by
        rcases not_and_or.mp hdisturbed with hsignal | hlost
        · exact Or.inl (Option.isSome_iff_ne_none.mpr hsignal)
        · exact Or.inr (by simpa using hlost))
      cases hlifecycle
    · rintro ⟨hsignal, hlost⟩ call hstage - (haborted | hsession)
      · simp [hsignal] at haborted
      · simp [hlost] at hsession
  · refine iff_of_true ?_ trivial
    obtain ⟨call', hs, rfl⟩ := step_call hstage hst
    obtain ⟨hsignal, halert⟩ := h call hstage
    intro running hcall hrunning hdisturbed
    obtain rfl := Stage.started.inj hcall
    by_cases he : (∃ reason, event = .abort reason) ∨ event = .disconnected
    · exact hs.warns halert hrunning he
    · -- nothing new: the signal was aborted before, while the callback was running already
      obtain ⟨habort, hdisconnect⟩ := not_or.mp he
      have hquiet : isDisconnected event = false := by
        cases event <;> first | rfl | exact absurd rfl hdisconnect
      have hbefore : x.signal.isSome ∨ x.sessionLost = true := by
        rcases hdisturbed with haborted | hlost
        · exact Or.inl (hsignal ▸ hs.signal (not_exists.mp habort) ▸ haborted)
        · exact Or.inr (by simpa [hquiet] using hlost)
      have hcallback : ∀ callback, event ≠ .callbackSettles callback := by
        rintro callback rfl
        cases hs with
        | callbackSettles =>
            cases callback <;> simp [WithLease.callbackSettled, WithLease.stopRenewing,
              WithLease.abortLifecycle] at hrunning
      have hran := (hs.keepsCallback hcallback).running.mp hrunning
      exact hs.lifecycle (hprotected call hstage hran hbefore)

/-- **The callback is protected throughout** exactly if it is never started after an abort by the
caller or a loss of the session that followed the grant. -/
theorem protected_iff_undisturbed {ttlSeconds : Nat} {route : String} {signal : Option JsValue}
    {es : List (ExecutionEvent T)} {x : Execution T}
    (hrun : (machine T ttlSeconds route signal).run es = some x) :
    (machine T ttlSeconds route signal).Throughout Protected (create ttlSeconds route signal) es ↔
      (machine T ttlSeconds route signal).Guarded Undisturbed (create ttlSeconds route signal)
        es := by
  have hstage : ∀ call, (create ttlSeconds route signal : Execution T).stage ≠ .started call := by
    intro call
    unfold create
    dsimp only
    split <;> simp
  exact Machine.throughout_iff_guarded (I := Synced) (P := Protected) (K := Undisturbed)
    (fun _ _ _ h hst => h.step hst)
    (fun _ _ _ h hprotected hst => protected_step_iff h hprotected hst)
    (fun call hcall => absurd hcall (hstage call)) (fun call hcall => absurd hcall (hstage call))
    hrun

/-- The session is lost while the callback runs. -/
def lostRun : List (ExecutionEvent Nat) :=
  [.granted 7, .acquireReturns, .acquireAwaited, .call .disconnected,
    .call (.callbackSettles (.fulfilled 1))]

theorem protected_lostRun : (machine Nat 60 "lease://acme/jobs/nightly" none).Throughout Protected
    (create 60 "lease://acme/jobs/nightly" none) lostRun := by
  have hguarded : (machine Nat 60 "lease://acme/jobs/nightly" none).Guarded Undisturbed
      (create 60 "lease://acme/jobs/nightly" none) lostRun := by decide +kernel
  obtain ⟨x, hrun⟩ : ∃ x, (machine Nat 60 "lease://acme/jobs/nightly" none).run lostRun = some x :=
    ⟨_, rfl⟩
  exact (protected_iff_undisturbed hrun).mpr hguarded

/-- The caller aborts between the grant and the callback. -/
theorem not_forall_protected :
    ¬ ∀ (ttlSeconds : Nat) (route : String) (signal : Option JsValue)
      (es : List (ExecutionEvent Nat)) (x : Execution Nat),
      (machine Nat ttlSeconds route signal).run es = some x → x.Protected := by
  intro h
  obtain ⟨x, hrun, call, hstage, hphase, haborted, hlifecycle⟩ :
      ∃ x, (machine Nat 60 "lease://acme/jobs/nightly" none).run
          [.granted 7, .acquireReturns, .call (.abort .undefined), .acquireAwaited] = some x ∧
        ∃ call, x.stage = .started call ∧ call.phase = .running ∧ x.signal.isSome = true ∧
          call.lifecycle.isSome = false := ⟨_, rfl, _, rfl, rfl, rfl, rfl⟩
  have hprotected := h _ _ _ _ x hrun call hstage hphase (Or.inl haborted)
  rw [hlifecycle] at hprotected
  cases hprotected

end Execution

end FitzTs.Lease
