import Mathlib.Algebra.Order.Ring.Rat
import Mathlib.Data.Nat.Cast.Order.Ring
import Mathlib.Logic.Function.Basic
import FitzTs.Lib.Machine
/-!
# FitzTs.Core.WakeGate

`createWakeGate` of `core/wake-gate.ts`: a version, and the promises that wait until it has grown.

A wait is a number; what has become of its promise is kept in a table. A signal that aborts sets its
flag first, and its listeners run one after the other, so other calls may come in between.

`wake` resolves whatever waits, without a look at the version that was given. What waits was not
exceeded by the version at its call, and the first wake after that resolves it: nothing is missed,
but a version that was ahead of the gate is not reached.

## Main result

* `wakeGate_sound` — a wait is fulfilled with a greater version exactly if its own was not ahead.
-/

namespace FitzTs.Core

abbrev SignalId := Nat

/-- The number given to `waitAfter`. -/
inductive ObservedVersion
  | finite (value : ℚ)
  | infinity
  | negInfinity
  | nan
  deriving DecidableEq

/-- `version > observedVersion`. -/
def ObservedVersion.exceededBy (version : Nat) : ObservedVersion → Bool
  | finite value => value < version
  | negInfinity => true
  | infinity | nan => false

/-- What has become of the promise of `waitAfter`. -/
inductive WaitPhase
  | waiting
  | fulfilled (version : Nat)
  /-- With an `AbortError`. -/
  | rejected
  deriving DecidableEq, Repr

structure Wait where
  observedVersion : ObservedVersion
  signal : Option SignalId
  /-- The version of the gate at the call. -/
  calledAt : Nat
  phase : WaitPhase
  deriving DecidableEq

structure WakeGate where
  currentVersion : Nat := 0
  /-- The waiters, oldest first. -/
  waiters : List Nat := []
  waits : Nat → Option Wait := fun _ => none
  /-- How many waits there have been. -/
  count : Nat := 0
  aborted : SignalId → Bool := fun _ => false
  /-- What `wake` has returned. -/
  returned : List Nat := []

inductive WakeEvent
  | wake
  | waitAfter (observedVersion : ObservedVersion) (signal : Option SignalId)
  | wait (signal : Option SignalId)
  /-- The signal aborts. -/
  | abort (signal : SignalId)
  /-- The listener of a waiter runs. -/
  | listener (i : Nat)
  deriving DecidableEq

namespace WakeGate

/-- `cleanup(waiter)`, and its promise settles. -/
def settle (g : WakeGate) (i : Nat) (phase : WaitPhase) : WakeGate :=
  { g with
    waiters := g.waiters.filter (· ≠ i)
    waits := Function.update g.waits i ((g.waits i).map fun wait => { wait with phase }) }

/-- `wake`. -/
def wake (g : WakeGate) : WakeGate :=
  let version := g.currentVersion + 1
  let g := { g with currentVersion := version }
  let g := g.waiters.foldl (fun g i => g.settle i (.fulfilled version)) g
  { g with returned := g.returned ++ [version] }

def call (g : WakeGate) (observedVersion : ObservedVersion) (signal : Option SignalId)
    (phase : WaitPhase) : WakeGate :=
  { g with
    waits := Function.update g.waits g.count
      (some ⟨observedVersion, signal, g.currentVersion, phase⟩)
    count := g.count + 1 }

/-- `waitAfter`. The version cannot have changed at its second look. -/
def waitAfter (g : WakeGate) (observedVersion : ObservedVersion) (signal : Option SignalId) :
    WakeGate :=
  if observedVersion.exceededBy g.currentVersion then
    g.call observedVersion signal (.fulfilled g.currentVersion)
  else if signal.any g.aborted then g.call observedVersion signal .rejected
  else { g.call observedVersion signal .waiting with waiters := g.waiters ++ [g.count] }

/-- `wait`. -/
def wait (g : WakeGate) (signal : Option SignalId) : WakeGate :=
  g.waitAfter (.finite g.currentVersion) signal

/-- The signal has aborted. -/
def isAborted (g : WakeGate) (wait : Wait) : Bool := wait.signal.any g.aborted

def step (g : WakeGate) : WakeEvent → Option WakeGate
  | .wake => some g.wake
  | .waitAfter observedVersion signal => some (g.waitAfter observedVersion signal)
  | .wait signal => some (g.wait signal)
  | .abort signal => some { g with aborted := Function.update g.aborted signal true }
  | .listener i =>
    if i ∈ g.waiters ∧ (g.waits i).any g.isAborted then some (g.settle i .rejected) else none

/-- `createWakeGate`. -/
def machine : Machine WakeGate WakeEvent where
  init := {}
  step := step

/-- A wait is only given a version that the next wake exceeds. -/
def NotAhead (g : WakeGate) : WakeEvent → Prop
  | .waitAfter observedVersion _ => observedVersion.exceededBy (g.currentVersion + 1) = true
  | _ => True

instance (g : WakeGate) : (e : WakeEvent) → Decidable (g.NotAhead e)
  | .waitAfter .. => inferInstanceAs (Decidable (_ = _))
  | .wake | .wait _ | .abort _ | .listener _ => isTrue trivial

/-- What the gate keeps to, whatever it is given. -/
structure Wakes (g : WakeGate) : Prop where
  /-- A wait is over as soon as the version exceeds its own. -/
  prompt : ∀ i wait, g.waits i = some wait → wait.phase = .waiting →
    wait.observedVersion.exceededBy g.currentVersion = false
  increasing : g.returned.Pairwise (· < ·)
  /-- Only what has been given an aborted signal is rejected. -/
  rejected : ∀ i wait, g.waits i = some wait → wait.phase = .rejected → g.isAborted wait = true

/-! ## Each wait -/

/-- A wait that was not aborted is resolved by the first version that it could see. -/
structure SoundWait (g : WakeGate) (i : Nat) (wait : Wait) : Prop where
  lt_count : i < g.count
  waiting_iff : wait.phase = .waiting ↔ i ∈ g.waiters
  waiting : wait.phase = .waiting → wait.calledAt = g.currentVersion ∧
    wait.observedVersion.exceededBy wait.calledAt = false
  fulfilled : ∀ version, wait.phase = .fulfilled version →
    version = wait.calledAt ∧ wait.observedVersion.exceededBy wait.calledAt = true ∨
      version = wait.calledAt + 1 ∧ wait.observedVersion.exceededBy wait.calledAt = false
  rejected : wait.phase = .rejected → g.isAborted wait = true

structure Sound (g : WakeGate) : Prop where
  waits : ∀ i wait, g.waits i = some wait → g.SoundWait i wait
  waiters : ∀ i ∈ g.waiters, i < g.count
  returned : ∀ version ∈ g.returned, version ≤ g.currentVersion
  increasing : g.returned.Pairwise (· < ·)

variable {g : WakeGate}

theorem foldl_settle (l : List Nat) (phase : WaitPhase) :
    l.foldl (fun g i => g.settle i phase) g =
      { g with
        waiters := g.waiters.filter (· ∉ l)
        waits := fun i =>
          if i ∈ l then (g.waits i).map fun wait => { wait with phase } else g.waits i } := by
  induction l generalizing g with
  | nil =>
      have hkept : g.waiters.filter (· ∉ []) = g.waiters := List.filter_eq_self.mpr (by simp)
      rw [hkept]
      rfl
  | cons j l ih =>
      rw [List.foldl_cons, ih]
      unfold settle
      congr 1
      · simp only [List.filter_filter]
        refine List.filter_congr fun i _ => ?_
        by_cases hi : i = j <;> by_cases hl : i ∈ l <;> simp [hi, hl]
      · funext i
        by_cases hi : i = j
        · subst hi
          by_cases hl : i ∈ l <;> simp [hl, Function.comp_def]
        · simp [hi]

/-- A wake resolves all that waits. -/
theorem wake_eq : g.wake =
    { g with
      currentVersion := g.currentVersion + 1
      waiters := []
      waits := fun i => if i ∈ g.waiters then
        (g.waits i).map fun wait => { wait with phase := .fulfilled (g.currentVersion + 1) }
        else g.waits i
      returned := g.returned ++ [g.currentVersion + 1] } := by
  unfold wake
  dsimp only
  rw [foldl_settle]
  simp

theorem sound_init : ({} : WakeGate).Sound :=
  ⟨by simp, by simp, by simp, List.Pairwise.nil⟩

/-- A wait that is over stays as it is. -/
theorem SoundWait.keep {g' : WakeGate} {i : Nat} {wait : Wait} (h : g.SoundWait i wait)
    (hcount : g.count ≤ g'.count)
    (hwaiting : wait.phase = .waiting → g'.currentVersion = g.currentVersion)
    (hwaiters : i ∈ g'.waiters ↔ i ∈ g.waiters)
    (haborted : ∀ signal, g.aborted signal = true → g'.aborted signal = true) :
    g'.SoundWait i wait where
  lt_count := h.lt_count.trans_le hcount
  waiting_iff := h.waiting_iff.trans hwaiters.symm
  waiting := fun hphase => by
    rw [hwaiting hphase]
    exact h.waiting hphase
  fulfilled := h.fulfilled
  rejected := fun hphase => by
    have hsignal := h.rejected hphase
    unfold isAborted at hsignal ⊢
    rw [Option.any_eq_true] at hsignal ⊢
    obtain ⟨signal, hmem, hset⟩ := hsignal
    exact ⟨signal, hmem, haborted signal hset⟩

theorem Sound.wake (h : g.Sound) : g.wake.Sound := by
  rw [wake_eq]
  refine ⟨fun i wait hwait => ?_, by simp, fun version hmem => ?_, ?_⟩
  · dsimp only at hwait
    split at hwait
    case isTrue hi =>
      -- it has waited since a call at the version before
      obtain ⟨before, hbefore, rfl⟩ := Option.map_eq_some_iff.mp hwait
      have hsound := h.waits i before hbefore
      obtain ⟨hcalled, hnot⟩ := hsound.waiting (hsound.waiting_iff.mpr hi)
      refine ⟨hsound.lt_count, by simp, by simp, fun version hversion => Or.inr ⟨?_, hnot⟩, by simp⟩
      rw [hcalled]
      exact (WaitPhase.fulfilled.inj hversion).symm
    case isFalse hi =>
      have hsound := h.waits i wait hwait
      have hover : wait.phase ≠ .waiting := fun hphase => hi (hsound.waiting_iff.mp hphase)
      exact hsound.keep (Nat.le_refl _) (fun hphase => absurd hphase hover) (by simp [hi])
        fun _ => id
  · simp only [List.mem_append, List.mem_singleton] at hmem
    rcases hmem with hmem | rfl
    · exact (h.returned version hmem).trans (Nat.le_succ _)
    · exact Nat.le_refl _
  · simp only [List.pairwise_append, List.pairwise_singleton, List.mem_singleton, true_and]
    refine ⟨h.increasing, fun version hmem next hnext => ?_⟩
    subst hnext
    exact Nat.lt_succ_of_le (h.returned version hmem)

/-- A call adds one wait. -/
theorem Sound.call (h : g.Sound) {observedVersion : ObservedVersion} {signal : Option SignalId}
    {phase : WaitPhase} (waiters : List Nat)
    (hwaiters : waiters = if phase = .waiting then g.waiters ++ [g.count] else g.waiters)
    (hnew : ({ g.call observedVersion signal phase with waiters } : WakeGate).SoundWait g.count
      ⟨observedVersion, signal, g.currentVersion, phase⟩) :
    ({ g.call observedVersion signal phase with waiters } : WakeGate).Sound := by
  have hmem : ∀ i, i ≠ g.count → (i ∈ waiters ↔ i ∈ g.waiters) := by
    intro i hi
    rw [hwaiters]
    split <;> simp [hi]
  refine ⟨fun i wait hwait => ?_, fun i hi => ?_, h.returned, h.increasing⟩
  · by_cases hi : i = g.count
    · subst hi
      simp only [WakeGate.call, Function.update_self, Option.some.injEq] at hwait
      exact hwait ▸ hnew
    · simp only [WakeGate.call, Function.update_of_ne hi] at hwait
      exact (h.waits i wait hwait).keep (Nat.le_succ _) (fun _ => rfl) (hmem i hi) fun _ => id
  · change i < g.count + 1
    by_cases hi' : i = g.count
    · omega
    · exact Nat.lt_succ_of_lt (h.waiters i ((hmem i hi').mp hi))

theorem Sound.waitAfter (h : g.Sound) (observedVersion : ObservedVersion)
    (signal : Option SignalId) : (g.waitAfter observedVersion signal).Sound := by
  have hnew : g.count ∉ g.waiters := fun hmem => Nat.lt_irrefl _ (h.waiters _ hmem)
  unfold WakeGate.waitAfter
  split
  case isTrue hexceeded =>
    refine h.call g.waiters rfl ⟨Nat.lt_succ_self _, by simp [hnew], by simp, ?_, by simp⟩
    intro version hversion
    exact Or.inl ⟨(WaitPhase.fulfilled.inj hversion).symm, hexceeded⟩
  case isFalse hnot =>
    split
    case isTrue haborted =>
      exact h.call g.waiters rfl
        ⟨Nat.lt_succ_self _, by simp [hnew], by simp, by simp, fun _ => haborted⟩
    case isFalse =>
      exact h.call _ (by simp) ⟨Nat.lt_succ_self _, by simp, fun _ => ⟨rfl, by simpa using hnot⟩,
        by simp, by simp⟩

theorem Sound.abort (h : g.Sound) (signal : SignalId) :
    ({ g with aborted := Function.update g.aborted signal true } : WakeGate).Sound := by
  refine ⟨fun i wait hwait => ?_, h.waiters, h.returned, h.increasing⟩
  refine (h.waits i wait hwait).keep (Nat.le_refl _) (fun _ => rfl) Iff.rfl fun other hset => ?_
  by_cases hother : other = signal
  · simp [hother]
  · simpa [hother] using hset

theorem Sound.reject (h : g.Sound) {i : Nat} (haborted : (g.waits i).any g.isAborted = true) :
    (g.settle i .rejected).Sound := by
  refine ⟨fun j wait hwait => ?_, fun j hj => ?_, h.returned, h.increasing⟩
  · by_cases hj : j = i
    · subst hj
      simp only [settle, Function.update_self] at hwait
      obtain ⟨before, hbefore, rfl⟩ := Option.map_eq_some_iff.mp hwait
      rw [hbefore, Option.any_some] at haborted
      exact ⟨(h.waits j before hbefore).lt_count, by simp [settle], by simp, by simp,
        fun _ => haborted⟩
    · simp only [settle, Function.update_of_ne hj] at hwait
      exact (h.waits j wait hwait).keep (Nat.le_refl _) (fun _ => rfl) (by simp [settle, hj])
        fun _ => id
  · exact h.waiters j (List.mem_filter.mp hj).1

theorem Sound.step {g' : WakeGate} {e : WakeEvent} (h : g.Sound) (hs : g.step e = some g') :
    g'.Sound := by
  cases e with
  | wake => exact Option.some.inj hs ▸ h.wake
  | waitAfter observedVersion signal =>
      exact Option.some.inj hs ▸ h.waitAfter observedVersion signal
  | wait signal => exact Option.some.inj hs ▸ h.waitAfter _ signal
  | abort signal => exact Option.some.inj hs ▸ h.abort signal
  | listener i =>
      obtain ⟨⟨-, haborted⟩, heq⟩ := Option.ite_none_right_eq_some.mp hs
      exact Option.some.inj heq ▸ h.reject haborted

theorem Sound.wakes (h : g.Sound) : g.Wakes where
  prompt := fun i wait hwait hphase => by
    obtain ⟨hcalled, hnot⟩ := (h.waits i wait hwait).waiting hphase
    exact hcalled ▸ hnot
  increasing := h.increasing
  rejected := fun i wait hwait => (h.waits i wait hwait).rejected

/-! ## Versions ahead of the gate -/

theorem exceededBy_mono {observedVersion : ObservedVersion} {version version' : Nat}
    (hle : version ≤ version') (h : observedVersion.exceededBy version = true) :
    observedVersion.exceededBy version' = true := by
  cases observedVersion with
  | finite value =>
      simp only [ObservedVersion.exceededBy, decide_eq_true_eq] at h ⊢
      exact h.trans_le (Nat.cast_le.mpr hle)
  | negInfinity => rfl
  | infinity | nan => simp [ObservedVersion.exceededBy] at h

/-- What a wait is given exceeds its version if the next version did at the call. -/
theorem SoundWait.fulfilled_iff {i : Nat} {wait : Wait} (h : g.SoundWait i wait) {version : Nat}
    (hphase : wait.phase = .fulfilled version) :
    wait.observedVersion.exceededBy version = true ↔
      wait.observedVersion.exceededBy (wait.calledAt + 1) = true := by
  rcases h.fulfilled version hphase with ⟨rfl, hexceeded⟩ | ⟨rfl, -⟩
  · exact iff_of_true hexceeded (exceededBy_mono (Nat.le_succ _) hexceeded)
  · exact Iff.rfl

/-- No wait was ahead of the gate at its call. -/
def NoneAhead (g : WakeGate) : Prop :=
  ∀ i wait, g.waits i = some wait →
    wait.observedVersion.exceededBy (wait.calledAt + 1) = true

/-- What settles keeps the version and the call of its wait. -/
theorem NoneAhead.of_map {g' : WakeGate} (h : g.NoneAhead)
    (hwaits : ∀ i wait, g'.waits i = some wait → ∃ before, g.waits i = some before ∧
      wait.observedVersion = before.observedVersion ∧ wait.calledAt = before.calledAt) :
    g'.NoneAhead := by
  intro i wait hwait
  obtain ⟨before, hbefore, hversion, hcalled⟩ := hwaits i wait hwait
  rw [hversion, hcalled]
  exact h i before hbefore

theorem NoneAhead.call (h : g.NoneAhead) {observedVersion : ObservedVersion}
    (hnext : observedVersion.exceededBy (g.currentVersion + 1) = true) (signal : Option SignalId)
    (phase : WaitPhase) : (g.call observedVersion signal phase).NoneAhead := by
  intro i wait hwait
  by_cases hi : i = g.count
  · subst hi
    simp only [WakeGate.call, Function.update_self, Option.some.injEq] at hwait
    exact hwait ▸ hnext
  · simp only [WakeGate.call, Function.update_of_ne hi] at hwait
    exact h i wait hwait

theorem NoneAhead.waitAfter (h : g.NoneAhead) {observedVersion : ObservedVersion}
    (hnext : observedVersion.exceededBy (g.currentVersion + 1) = true)
    (signal : Option SignalId) : (g.waitAfter observedVersion signal).NoneAhead := by
  unfold WakeGate.waitAfter
  split
  · exact h.call hnext signal _
  · split
    · exact h.call hnext signal _
    · exact h.call hnext signal .waiting

theorem NoneAhead.step {g' : WakeGate} {e : WakeEvent} (h : g.NoneAhead) (hnext : g.NotAhead e)
    (hs : g.step e = some g') : g'.NoneAhead := by
  cases e with
  | wake =>
      obtain rfl := Option.some.inj hs
      rw [wake_eq]
      refine h.of_map fun i wait hwait => ?_
      dsimp only at hwait
      split at hwait
      · obtain ⟨before, hbefore, rfl⟩ := Option.map_eq_some_iff.mp hwait
        exact ⟨before, hbefore, rfl, rfl⟩
      · exact ⟨wait, hwait, rfl, rfl⟩
  | waitAfter observedVersion signal => exact Option.some.inj hs ▸ h.waitAfter hnext signal
  | wait signal =>
      have hcurrent : (ObservedVersion.finite g.currentVersion).exceededBy
          (g.currentVersion + 1) = true := by
        simp only [ObservedVersion.exceededBy, decide_eq_true_eq]
        exact Nat.cast_lt.mpr (Nat.lt_succ_self _)
      exact Option.some.inj hs ▸ h.waitAfter hcurrent signal
  | abort signal => exact Option.some.inj hs ▸ h
  | listener i =>
      obtain ⟨-, heq⟩ := Option.ite_none_right_eq_some.mp hs
      refine Option.some.inj heq ▸ h.of_map fun j wait hwait => ?_
      by_cases hj : j = i
      · subst hj
        simp only [settle, Function.update_self] at hwait
        obtain ⟨before, hbefore, rfl⟩ := Option.map_eq_some_iff.mp hwait
        exact ⟨before, hbefore, rfl, rfl⟩
      · simp only [settle, Function.update_of_ne hj] at hwait
        exact ⟨wait, hwait, rfl, rfl⟩

end WakeGate

open WakeGate in
/-- Every wait is resolved as soon as the version exceeds its own, and no wait but one that was
ahead of the gate at its call is resolved before. -/
theorem wakeGate_sound {es : List WakeEvent} {g : WakeGate} (hrun : machine.run es = some g) :
    g.Wakes ∧
      (∀ i wait version, g.waits i = some wait → wait.phase = .fulfilled version →
        (wait.observedVersion.exceededBy version = true ↔
          wait.observedVersion.exceededBy (wait.calledAt + 1) = true)) ∧
      (machine.Guarded NotAhead machine.init es →
        ∀ i wait version, g.waits i = some wait → wait.phase = .fulfilled version →
          wait.observedVersion.exceededBy version = true) := by
  have hsound : g.Sound := Machine.invariant sound_init (fun _ _ _ h hs => h.step hs) hrun
  refine ⟨hsound.wakes, fun i wait version hwait hphase =>
    (hsound.waits i wait hwait).fulfilled_iff hphase,
    fun hguarded i wait version hwait hphase => ?_⟩
  have hnone : g.NoneAhead :=
    hguarded.invariant (by simp [NoneAhead, machine]) (fun _ _ _ h hnext hs => h.step hnext hs) hrun
  exact ((hsound.waits i wait hwait).fulfilled_iff hphase).mpr (hnone i wait hwait)

open WakeGate in
theorem wakeGate_sound_wakes :
    ∃ g, machine.run [.wake, .waitAfter (.finite 0) none, .wait none, .wake] = some g ∧
      g.Wakes ∧ g.returned = [1, 2] := by
  have hrun : ∃ g, machine.run [.wake, .waitAfter (.finite 0) none, .wait none, .wake] = some g ∧
      g.returned = [1, 2] := ⟨_, rfl, rfl⟩
  obtain ⟨g, hrun, hreturned⟩ := hrun
  exact ⟨g, hrun, (wakeGate_sound hrun).1, hreturned⟩

open WakeGate in
/-- A wait for more than five is resolved with the first version. -/
theorem not_wakeGate_sound :
    ∃ g wait, machine.run [.waitAfter (.finite 5) none, .wake] = some g ∧
      g.waits 0 = some wait ∧ wait.phase = .fulfilled 1 ∧
      wait.observedVersion.exceededBy 1 = false :=
  ⟨_, ⟨.finite 5, none, 0, .fulfilled 1⟩, rfl, rfl, rfl, by decide⟩

end FitzTs.Core
