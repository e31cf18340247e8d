import FitzTs.Core.WakeGate
import FitzTs.Domains.WakeLoop
/-!
# FitzTs.Domains.WakeLoop.Gate

**The gate of a generator is a `WakeGate`.**

A `Loop` has the version of its gate and, in its phase, what has become of the one wait it can have
there. `gateEvents` says what a step of the loop is to the gate: the handler and the listeners call
`wake`, the loop calls `waitAfter` with the version it sampled and with `options.signal`, and the
listener of a waiter runs when that signal aborts. Given these, the gate of `core/wake-gate.ts` has
the loop's version in every run, and nobody waits there but the parked generator.

## Main results

* `atGate_run` — every run of a `Loop` is one of a `WakeGate`.
* `not_exceeded_of_parked` — what `WakeGate` says of its waits holds of the loop: a parked generator
  waits for a version that the gate has not had.
-/

namespace FitzTs.WakeLoop

open FitzTs.Core (WakeGate WakeEvent)

namespace Loop

/-- `options.signal`. Without one it never aborts. -/
def signal : Core.SignalId := 0

/-- `wakeGate.waitAfter(observed, { signal })`. -/
def waitEvent (s : Loop) : WakeEvent := .waitAfter (.finite s.observed) (some signal)

/-- The listener of the loop, if it is installed. -/
def listenEvents (s : Loop) : List WakeEvent := if s.listening then [.wake] else []

/-- What an event of the loop is to its gate, whose waits are numbered up to `count`. -/
def gateEvents (count : Nat) (s : Loop) : Event → List WakeEvent
  | .next => if s.phase = .yielded false then [s.waitEvent] else []
  | .continues => if s.phase = .answered (.items 0) then [s.waitEvent] else []
  | .taskCalled =>
    match s.dispatcher.starting with
    | .wake _ :: _ => [.wake]
    | _ => []
  | .lost | .attemptFails | .closes =>
    if s.helper.wakesOnDisconnect then s.listenEvents else []
  | .reconnected => s.listenEvents
  | .abort => .abort signal :: if s.phase = .parked then [.listener (count - 1)] else []
  | _ => []

/-- The last wait at the gate. -/
def lastWait (g : WakeGate) : Option Core.Wait := g.waits (g.count - 1)

/-- `g` is the gate of the loop. -/
structure AtGate (g : WakeGate) (s : Loop) : Prop where
  version : g.currentVersion = s.version
  aborted : g.aborted signal = s.aborted
  waiters : g.waiters = if s.phase = .parked then [g.count - 1] else []
  parked : s.phase = .parked → ∃ version,
    lastWait g = some ⟨.finite s.observed, some signal, version, .waiting⟩
  resumed : s.phase = .resumed → ∃ version fulfilled,
    lastWait g = some ⟨.finite s.observed, some signal, version, .fulfilled fulfilled⟩

variable {g : WakeGate} {s s' : Loop}

/-- The step leaves the gate alone, and does not move the loop to it. -/
structure Apart (s s' : Loop) : Prop where
  version : s'.version = s.version
  aborted : s'.aborted = s.aborted
  phase : s'.phase = s.phase ∧ s'.observed = s.observed ∨
    s.phase ≠ .parked ∧ s'.phase ≠ .parked ∧ s'.phase ≠ .resumed

theorem AtGate.apart (h : AtGate g s) (hapart : Apart s s') : AtGate g s' := by
  rcases hapart.phase with ⟨hphase, hobserved⟩ | ⟨hleft, hparked, hresumed⟩
  · exact ⟨h.version.trans hapart.version.symm, h.aborted.trans hapart.aborted.symm,
      by rw [hphase]; exact h.waiters, by rw [hphase, hobserved]; exact h.parked,
      by rw [hphase, hobserved]; exact h.resumed⟩
  · refine ⟨h.version.trans hapart.version.symm, h.aborted.trans hapart.aborted.symm, ?_,
      fun hp => absurd hp hparked, fun hp => absurd hp hresumed⟩
    rw [h.waiters, if_neg hleft, if_neg hparked]

/-! ### The calls of the gate -/

theorem AtGate.wake (h : AtGate g s) : AtGate g.wake s.wake := by
  rw [WakeGate.wake_eq]
  by_cases hparked : s.phase = .parked
  · have hphase : s.wake.phase = .resumed := if_pos hparked
    obtain ⟨version, hlast⟩ := h.parked hparked
    refine ⟨congrArg (· + 1) h.version, h.aborted, by simp [hphase],
      fun hp => by simp [hphase] at hp, fun _ => ⟨version, g.currentVersion + 1, ?_⟩⟩
    have hwaiters : g.waiters = [g.count - 1] := by rw [h.waiters, if_pos hparked]
    unfold lastWait at hlast ⊢
    dsimp only
    rw [if_pos (by simp [hwaiters]), hlast]
    rfl
  · have hphase : s.wake.phase = s.phase := if_neg hparked
    have hwaiters : g.waiters = [] := by rw [h.waiters, if_neg hparked]
    refine ⟨congrArg (· + 1) h.version, h.aborted, by rw [hphase, if_neg hparked],
      fun hp => absurd (hphase.symm.trans hp) hparked, fun hp => ?_⟩
    obtain ⟨version, fulfilled, hlast⟩ := h.resumed (hphase.symm.trans hp)
    refine ⟨version, fulfilled, ?_⟩
    unfold lastWait at hlast ⊢
    dsimp only
    rw [hwaiters, if_neg List.not_mem_nil]
    exact hlast

theorem exceededBy_finite {observed version : Nat} :
    (Core.ObservedVersion.finite observed).exceededBy version = decide (observed < version) :=
  decide_eq_decide.mpr Nat.cast_lt

theorem AtGate.waitAfter (h : AtGate g s) (hparked : s.phase ≠ .parked) :
    AtGate (g.waitAfter (.finite s.observed) (some signal)) s.waitAfter := by
  have hwaiters : g.waiters = [] := by rw [h.waiters, if_neg hparked]
  have hlast : ∀ phase waiters,
      lastWait { g.call (.finite s.observed) (some signal) phase with waiters } =
        some ⟨.finite s.observed, some signal, g.currentVersion, phase⟩ := fun phase waiters => by
    simp [lastWait, WakeGate.call]
  unfold WakeGate.waitAfter Loop.waitAfter
  rw [exceededBy_finite, h.version, Option.any_some, h.aborted]
  by_cases hpast : s.observed < s.version
  · rw [if_pos (by simpa using hpast), if_pos hpast]
    exact ⟨h.version, h.aborted, hwaiters, (fun hp => by cases hp),
      fun _ => ⟨_, _, hlast _ g.waiters⟩⟩
  · rw [if_neg (by simpa using hpast), if_neg hpast]
    by_cases haborted : s.aborted = true
    · rw [if_pos haborted, if_pos haborted]
      exact ⟨h.version, h.aborted, hwaiters, (fun hp => by cases hp), fun hp => by cases hp⟩
    · rw [if_neg haborted, if_neg haborted]
      refine ⟨h.version, h.aborted, ?_, fun _ => ⟨_, hlast _ _⟩, fun hp => by cases hp⟩
      simp [WakeGate.call, hwaiters]

/-- The signal aborts, and the listener of the waiter runs. -/
theorem AtGate.abort (h : AtGate g s) :
    ∃ g', WakeGate.machine.runFrom g (gateEvents g.count s .abort) = some g' ∧
      AtGate g' s.abort := by
  have hset : ({ g with aborted := Function.update g.aborted signal true } : WakeGate).aborted
      signal = true := Function.update_self signal true g.aborted
  unfold gateEvents Loop.abort
  by_cases hparked : s.phase = .parked
  · have hwaiters : g.waiters = [g.count - 1] := by rw [h.waiters, if_pos hparked]
    obtain ⟨version, hlast⟩ := h.parked hparked
    rw [if_pos hparked]
    have hwait : g.waits (g.count - 1) = some _ := hlast
    have hrun : WakeGate.step { g with aborted := Function.update g.aborted signal true }
        (.listener (g.count - 1)) = some (WakeGate.settle _ (g.count - 1) .rejected) :=
      if_pos ⟨by simp [hwaiters], by simp [hwait, WakeGate.isAborted]⟩
    refine ⟨_, Machine.runFrom_cons.mpr ⟨_, rfl, Machine.runFrom_cons.mpr ⟨_, hrun, rfl⟩⟩, ?_⟩
    dsimp only
    rw [if_pos hparked]
    exact ⟨h.version, hset, by simp [WakeGate.settle, hwaiters, Loop.finish],
      (fun hp => by cases hp), fun hp => by cases hp⟩
  · rw [if_neg hparked]
    refine ⟨_, Machine.runFrom_cons.mpr ⟨_, rfl, rfl⟩, ?_⟩
    dsimp only
    rw [if_neg hparked]
    exact ⟨h.version, hset, h.waiters, h.parked, h.resumed⟩

/-! ### The rest of the loop -/

/-- The dispatcher, the connection and the subscription are nothing to the gate. -/
theorem apart_of_eq (hversion : s'.version = s.version) (haborted : s'.aborted = s.aborted)
    (hphase : s'.phase = s.phase) (hobserved : s'.observed = s.observed) : Apart s s' :=
  ⟨hversion, haborted, Or.inl ⟨hphase, hobserved⟩⟩

theorem Apart.refl (s : Loop) : Apart s s := apart_of_eq rfl rfl rfl rfl

theorem Apart.trans {t : Loop} (h : Apart s s') (h' : Apart s' t) : Apart s t where
  version := h'.version.trans h.version
  aborted := h'.aborted.trans h.aborted
  phase := by
    rcases h.phase with ⟨hphase, hobserved⟩ | ⟨hleft, hparked, hresumed⟩
    · rw [← hphase, ← hobserved]
      exact h'.phase
    · refine Or.inr ⟨hleft, ?_⟩
      rcases h'.phase with ⟨hphase, -⟩ | ⟨-, hparked', hresumed'⟩
      · exact ⟨hphase ▸ hparked, hphase ▸ hresumed⟩
      · exact ⟨hparked', hresumed'⟩

/-- The loop goes on elsewhere. -/
theorem apart_of_phase (hleft : s.phase ≠ .parked) (hversion : s'.version = s.version)
    (haborted : s'.aborted = s.aborted) (hparked : s'.phase ≠ .parked)
    (hresumed : s'.phase ≠ .resumed) : Apart s s' :=
  ⟨hversion, haborted, Or.inr ⟨hleft, hparked, hresumed⟩⟩

theorem apart_deliver (n : Nat) : Apart s (s.deliver n) := by
  unfold deliver
  split
  · exact apart_of_eq rfl rfl rfl rfl
  · exact .refl s

theorem apart_foldl_deliver (ns : List Nat) : Apart s (ns.foldl deliver s) := by
  induction ns generalizing s with
  | nil => exact .refl s
  | cons n ns ih => exact (apart_deliver n).trans ih

theorem apart_flush (subId : Nat) : Apart s (s.flush subId) :=
  have hbuffer : Apart s
      { s with pendingNotifications := s.pendingNotifications.filter (·.1 ≠ subId) } :=
    apart_of_eq rfl rfl rfl rfl
  hbuffer.trans (apart_foldl_deliver _)

theorem apart_notify (subId : Nat) : Apart s (s.notify subId) := by
  have hreceived : Apart s
      { s with arrivals := s.arrivals + 1, since := s.since ++ [s.arrivals] } :=
    apart_of_eq rfl rfl rfl rfl
  unfold notify
  dsimp only
  split
  · exact hreceived.trans (apart_deliver _)
  · exact apart_of_eq rfl rfl rfl rfl

theorem apart_subscribes {subId : Nat} (hleft : s.phase ≠ .parked) :
    Apart s (s.subscribes subId) := by
  have hentry : Apart s { s with
      entry := some subId
      attached := !(s.aborted && s.helper.subscribesWithSignal) } := apart_of_eq rfl rfl rfl rfl
  have hadded : Apart s (s.addLocalSubscription subId) := hentry.trans (apart_flush subId)
  exact apart_of_phase hleft hadded.version hadded.aborted (by simp [subscribes, head])
    (by simp [subscribes, head])

theorem apart_commits (subId : Nat) : Apart s (s.commits subId) := by
  have hentry : Apart s { s with entry := some subId } := apart_of_eq rfl rfl rfl rfl
  have hflush := hentry.trans (apart_flush subId)
  exact ⟨hflush.version, hflush.aborted, hflush.phase⟩

/-! ### One step, and every run -/

/-- A listener wakes the gate while it is installed. -/
theorem AtGate.listen (h : AtGate g s) :
    ∃ g', WakeGate.machine.runFrom g s.listenEvents = some g' ∧ AtGate g' s.listen := by
  unfold listenEvents Loop.listen
  split
  · exact ⟨_, Machine.runFrom_cons.mpr ⟨_, rfl, rfl⟩, h.wake⟩
  · exact ⟨g, rfl, h⟩

theorem AtGate.emitDisconnect (h : AtGate g s) :
    ∃ g', WakeGate.machine.runFrom g
        (if s.helper.wakesOnDisconnect then s.listenEvents else []) = some g' ∧
      AtGate g' s.emitDisconnect := by
  unfold Loop.emitDisconnect
  split
  · exact h.listen
  · exact ⟨g, rfl, h⟩

/-- `waitAfter` from where the loop is not parked. -/
theorem AtGate.waits (h : AtGate g s) (hparked : s.phase ≠ .parked) :
    ∃ g', WakeGate.machine.runFrom g [s.waitEvent] = some g' ∧ AtGate g' s.waitAfter :=
  ⟨_, Machine.runFrom_cons.mpr ⟨_, rfl, rfl⟩, h.waitAfter hparked⟩

/-- The loop after its answer: without items it waits, and otherwise it is elsewhere. -/
theorem AtGate.answered (h : AtGate g s) {answer : Answer} (hphase : s.phase = .answered answer) :
    ∃ g', WakeGate.machine.runFrom g (gateEvents g.count s .continues) = some g' ∧
      AtGate g' (s.answered answer) := by
  have hleft : s.phase ≠ .parked := by simp [hphase]
  unfold gateEvents Loop.answered
  cases answer with
  | items count =>
      dsimp only
      by_cases hcount : 0 < count
      · rw [if_pos hcount, if_neg (by simp [hphase]; omega)]
        exact ⟨g, rfl, h.apart (apart_of_phase hleft rfl rfl (by simp) (by simp))⟩
      · rw [if_neg hcount, if_pos (by simp [hphase]; omega)]
        exact h.waits hleft
  | page hasMore stalled =>
      dsimp only
      rw [if_neg (by simp [hphase])]
      refine ⟨g, rfl, h.apart ?_⟩
      split
      · exact apart_of_phase hleft rfl rfl (by simp [finish]) (by simp [finish])
      · exact apart_of_phase hleft rfl rfl (by simp) (by simp)

/-- **One step** of the loop, and what it is to the gate. -/
theorem AtGate.step (h : AtGate g s) {e : Event} (hs : s.step e = some s') :
    ∃ g', WakeGate.machine.runFrom g (gateEvents g.count s e) = some g' ∧ AtGate g' s' := by
  have happart : gateEvents g.count s e = [] → Apart s s' →
      ∃ g', WakeGate.machine.runFrom g (gateEvents g.count s e) = some g' ∧ AtGate g' s' :=
    fun hnone hapart => ⟨g, by rw [hnone]; rfl, h.apart hapart⟩
  cases steps_of_step hs with
  | starts hphase =>
      exact happart (by simp [gateEvents, hphase])
        (apart_of_phase (by simp [hphase]) rfl rfl (by simp) (by simp))
  | goesOn hphase | resumes hphase =>
      exact happart (by simp [gateEvents, hphase])
        (apart_of_phase (by simp [hphase]) rfl rfl (by simp [head]) (by simp [head]))
  | waits hphase =>
      simp only [gateEvents, hphase, if_true]
      exact h.waits (by simp [hphase])
  | neverStarts hphase | subscribed hphase | subscribeFails hphase | answered hphase =>
      exact happart rfl (apart_of_phase (by simp [hphase]) rfl rfl (by simp) (by simp))
  | leaves hphase | requestFails hphase =>
      exact happart rfl
        (apart_of_phase (by simp [hphase]) rfl rfl (by simp [finish]) (by simp [finish]))
  | subscribes hphase =>
      exact happart (by simp [gateEvents, hphase]) (apart_subscribes (by simp [hphase]))
  | handsOut hphase => exact h.answered hphase
  | abort => exact h.abort
  | notify => exact happart rfl (apart_notify _)
  | wakes hstarting =>
      have hcalled : AtGate g { s with dispatcher := s.dispatcher.call } :=
        h.apart (apart_of_eq rfl rfl rfl rfl)
      simp only [gateEvents, hstarting]
      exact ⟨_, Machine.runFrom_cons.mpr ⟨_, rfl, rfl⟩, hcalled.wake⟩
  | calls hstarting =>
      exact happart (by simp [gateEvents, hstarting]) (apart_of_eq rfl rfl rfl rfl)
  | lost =>
      exact AtGate.emitDisconnect (s := { s with link := .disconnected, registered := none })
        (h.apart (apart_of_eq rfl rfl rfl rfl))
  | attemptFails => exact h.emitDisconnect
  | closes =>
      exact AtGate.emitDisconnect
        (s := { s with dispatcher := s.dispatcher.close, link := .down, registered := none })
        (h.apart (apart_of_eq rfl rfl rfl rfl))
  | dispatchOther | taskSettles | givesUp | sessionBegins | resubscribed | restoreEnds
  | authenticated | unsubscribed =>
      exact happart rfl (apart_of_eq rfl rfl rfl rfl)
  | commits => exact happart rfl (apart_commits _)
  | reconnected =>
      exact AtGate.listen (s := { s with link := .reconnected })
        (h.apart (apart_of_eq rfl rfl rfl rfl))

theorem atGate_create (helper : Helper) (maxConcurrency queueCapacity : Option Nat) :
    AtGate {} (create helper maxConcurrency queueCapacity) :=
  ⟨rfl, rfl, rfl, (fun hp => by cases hp), fun hp => by cases hp⟩

/-- **Every run of a generator is a run of its gate.** -/
theorem atGate_run {helper : Helper} {maxConcurrency queueCapacity : Option Nat} {es : List Event}
    (hrun : (machine helper maxConcurrency queueCapacity).run es = some s) :
    ∃ gs g, WakeGate.machine.run gs = some g ∧ AtGate g s := by
  refine Machine.invariant (I := fun s => ∃ gs g, WakeGate.machine.run gs = some g ∧ AtGate g s)
    ⟨[], {}, rfl, atGate_create helper maxConcurrency queueCapacity⟩ (fun s e s' h hs => ?_) hrun
  obtain ⟨gs, g, hgs, hat⟩ := h
  obtain ⟨g', hg', hat'⟩ := hat.step hs
  exact ⟨gs ++ gateEvents g.count s e, g', Machine.runFrom_append.mpr ⟨g, hgs, hg'⟩, hat'⟩

/-- **A parked generator has missed no version:** the gate has had none that exceeds its sample. -/
theorem not_exceeded_of_parked {helper : Helper} {maxConcurrency queueCapacity : Option Nat}
    {es : List Event} (hrun : (machine helper maxConcurrency queueCapacity).run es = some s)
    (hparked : s.phase = .parked) : s.version ≤ s.observed := by
  obtain ⟨gs, g, hgs, hat⟩ := atGate_run hrun
  have hsound : g.Sound :=
    Machine.invariant WakeGate.sound_init (fun _ _ _ h hs => h.step hs) hgs
  obtain ⟨version, hlast⟩ := hat.parked hparked
  obtain ⟨hcalled, hnot⟩ := (hsound.waits _ _ hlast).waiting rfl
  dsimp only at hcalled hnot
  rw [exceededBy_finite, hcalled, hat.version] at hnot
  exact Nat.le_of_not_lt (of_decide_eq_false hnot)

end Loop

end FitzTs.WakeLoop
