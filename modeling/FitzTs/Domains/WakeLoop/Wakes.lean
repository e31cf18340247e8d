import FitzTs.Domains.WakeLoop
/-!
# FitzTs.Domains.WakeLoop.Wakes

**Whether a wake is lost.** A parked generator relies on two things: each
notification received since its last round trip began is still on its way to the wake
gate through the dispatcher, and its handler is still there for the next one. A
notification that the dispatcher refuses breaks both. It never reaches the handler,
and it fails the subscription, which nobody replaces: neither helper looks at
`completion`. What is behind a subscription id the client does not know yet is on its
way, but not in the dispatcher; and a dispatcher that closes drops what is queued.

`keepsWakes_run`: in a run that avoids these no wake is lost.
`keepsWakes_run_fails`: with one handler at a time and no room in the queue, the second
of two notifications is.
-/

namespace FitzTs.WakeLoop

open Client (AsyncHandlerDispatcher)

namespace Loop

/-- The notifications that wait for an entry under their id. -/
def buffered (s : Loop) : List Nat := s.pendingNotifications.map Prod.snd

/-- While the generator is parked, what has arrived since its last round trip began is
on its way to wake it, and its handler is there for what comes next. -/
def Armed (s : Loop) : Prop :=
  s.phase = .parked →
    (∀ n ∈ s.since, s.dispatcher.Holds (.wake n)) ∧ s.attached = true ∧ s.entry.isSome = true

/-- The generator is about to wait at a gate nobody has woken since it looked. -/
def parks (s : Loop) : Bool :=
  s.observed = s.version && !s.aborted &&
    (s.phase = .yielded false || s.phase = .answered (.items 0))

/-- The tasks for the notifications buffered under an id. -/
def flushed (s : Loop) (subId : Nat) : List Task :=
  ((s.pendingNotifications.filter (·.1 = subId)).map Prod.snd).map Task.wake

/-- The step drops no wake: the dispatcher takes each notification of the handler,
nothing is or stays behind an unknown id where the generator parks, and a
close that does not wake the generator finds none of its wakes queued. -/
def KeepsWakes (s : Loop) : Event → Prop
  | .notify => s.attached = false ∨
      if s.entry = s.registered then s.dispatcher.accepts = true else s.phase ≠ .parked
  | .next => s.parks = true → ∀ n ∈ s.since, n ∉ s.buffered
  | .continues =>
    match s.phase with
    | .subscribed subId => s.dispatcher.acceptsAll (s.flushed subId) = true
    | _ => s.parks = true → ∀ n ∈ s.since, n ∉ s.buffered
  | .commits => s.attached = false ∨
      ∀ subId, s.registered = some subId → s.dispatcher.acceptsAll (s.flushed subId) = true
  | .closes => s.attached = false ∨ s.helper.wakesOnDisconnect = true ∨
      ∀ n ∈ s.since, Task.wake n ∉ s.dispatcher.queue
  | _ => True

instance (s : Loop) (e : Event) : Decidable (s.KeepsWakes e) := by
  induction e using Event.casesOn with
  | continues =>
      dsimp only [KeepsWakes]
      generalize s.phase = phase
      induction phase using Phase.casesOn <;> dsimp only <;> infer_instance
  | _ => dsimp only [KeepsWakes]; infer_instance

variable {s s' : Loop}

/-! ### Delivery -/

theorem deliver_detached {n : Nat} (h : s.attached = false) : s.deliver n = s := by
  rw [deliver, if_neg (by simp [h])]

theorem deliver_attached {n : Nat} (h : s.attached = true) (ha : s.dispatcher.accepts = true) :
    s.deliver n = { s with dispatcher := (s.dispatcher.dispatch (.wake n)).1 } := by
  rw [deliver, if_pos h, AsyncHandlerDispatcher.dispatch_accepted, ha, ← h]

/-- Nobody hears the notifications of a subscription without a handler. -/
theorem foldl_deliver_detached {ns : List Nat} (h : s.attached = false) :
    ns.foldl deliver s = s := by
  induction ns with
  | nil => rfl
  | cons n ns ih => rw [List.foldl_cons, deliver_detached h, ih]

theorem foldl_deliver_attached {ns : List Nat} (h : s.attached = true)
    (ha : s.dispatcher.acceptsAll (ns.map Task.wake) = true) :
    ns.foldl deliver s = { s with dispatcher := s.dispatcher.dispatchAll (ns.map Task.wake) } := by
  induction ns generalizing s with
  | nil => rfl
  | cons n ns ih =>
      simp only [List.map_cons, AsyncHandlerDispatcher.acceptsAll, Bool.and_eq_true] at ha
      rw [List.foldl_cons, deliver_attached h ha.1,
        ih (s := { s with dispatcher := (s.dispatcher.dispatch (.wake n)).1 }) h ha.2]
      rfl

/-- What was buffered is in the dispatcher, or still buffered. -/
theorem flush_attached {subId : Nat} (h : s.attached = true)
    (ha : s.dispatcher.acceptsAll (s.flushed subId) = true) :
    s.flush subId = { s with
      pendingNotifications := s.pendingNotifications.filter (·.1 ≠ subId)
      dispatcher := s.dispatcher.dispatchAll (s.flushed subId) } :=
  foldl_deliver_attached (s := { s with
    pendingNotifications := s.pendingNotifications.filter (·.1 ≠ subId) }) h ha

theorem flush_detached {subId : Nat} (h : s.attached = false) :
    s.flush subId =
      { s with pendingNotifications := s.pendingNotifications.filter (·.1 ≠ subId) } :=
  foldl_deliver_detached (s := { s with
    pendingNotifications := s.pendingNotifications.filter (·.1 ≠ subId) }) h

/-- What is buffered is flushed with its subscription, or stays. -/
theorem mem_buffered_flush {subId n : Nat} (h : n ∈ s.buffered) :
    Task.wake n ∈ s.flushed subId ∨
      n ∈ (s.pendingNotifications.filter (·.1 ≠ subId)).map Prod.snd := by
  obtain ⟨⟨id, n⟩, hmem, rfl⟩ := List.mem_map.mp h
  by_cases hid : id = subId
  · refine Or.inl (List.mem_map_of_mem (List.mem_map.mpr ⟨(id, n), ?_, rfl⟩))
    exact List.mem_filter.mpr ⟨hmem, by simpa using hid⟩
  · refine Or.inr (List.mem_map.mpr ⟨(id, n), ?_, rfl⟩)
    exact List.mem_filter.mpr ⟨hmem, by simpa using hid⟩

/-! ### The invariant -/

structure Wakeful (s : Loop) : Prop where
  observed : s.observed ≤ s.version
  parked : s.phase = .parked → s.version = s.observed ∧ s.aborted = false ∧
    ∀ n ∈ s.since, s.dispatcher.Holds (.wake n)
  held : s.attached = true → s.phase.inLoop = true → s.version = s.observed →
    ∀ n ∈ s.since, s.dispatcher.Holds (.wake n) ∨ n ∈ s.buffered
  attached : s.phase.inLoop = true →
    (s.aborted = true ∧ s.helper.subscribesWithSignal = true) ∨
      (s.attached = true ∧ s.entry.isSome = true)
  listening : s.phase.inLoop = true → s.listening = true

/-- What the invariant says of a loop that is parked. -/
theorem Wakeful.armed (h : s.Wakeful) : s.Armed := by
  intro hparked
  obtain ⟨-, haborted, hheld⟩ := h.parked hparked
  refine ⟨hheld, ?_⟩
  rcases h.attached (by rw [hparked]; rfl) with ⟨ha, -⟩ | hattached
  · rw [haborted] at ha
    cases ha
  · exact hattached

theorem wakeful_create (helper : Helper) (maxConcurrency queueCapacity : Option Nat) :
    (create helper maxConcurrency queueCapacity).Wakeful where
  observed := Nat.le_refl 0
  parked hp := (nomatch hp)
  held ha := (nomatch ha)
  attached hl := (nomatch hl)
  listening hl := (nomatch hl)

/-- Outside the loop there is nothing to wake. -/
theorem wakeful_of_not_inLoop (hobserved : s.observed ≤ s.version) (h : s.phase.inLoop = false) :
    s.Wakeful where
  observed := hobserved
  parked hp := by rw [hp] at h; cases h
  held _ hl := by rw [h] at hl; cases hl
  attached hl := by rw [h] at hl; cases hl
  listening hl := by rw [h] at hl; cases hl

/-- Only the connection has moved. -/
theorem Wakeful.moved (h : s.Wakeful) (link : Link) (registered : Option Nat) :
    { s with link := link, registered := registered }.Wakeful :=
  ⟨h.observed, h.parked, h.held, h.attached, h.listening⟩

/-- The dispatcher has not let go of a wake. -/
theorem Wakeful.dispatched (h : s.Wakeful) {d : AsyncHandlerDispatcher Task}
    (hd : ∀ n, s.dispatcher.Holds (.wake n) → d.Holds (.wake n)) :
    { s with dispatcher := d }.Wakeful :=
  ⟨h.observed,
    fun hp => ⟨(h.parked hp).1, (h.parked hp).2.1, fun n hn => hd n ((h.parked hp).2.2 n hn)⟩,
    fun ha hl hv n hn => (h.held ha hl hv n hn).imp_left (hd n), h.attached, h.listening⟩

/-- After a wake nothing is owed to the sample. -/
theorem wake_wakeful (hobserved : s.observed ≤ s.version)
    (hattached : s.phase.inLoop = true → (s.aborted = true ∧ s.helper.subscribesWithSignal = true) ∨
      (s.attached = true ∧ s.entry.isSome = true))
    (hlistening : s.phase.inLoop = true → s.listening = true) : s.wake.Wakeful := by
  have hinLoop : s.wake.phase.inLoop = true → s.phase.inLoop = true := by
    unfold wake
    dsimp only
    split
    · rename_i hparked
      rw [hparked]
      exact id
    · exact id
  have hversion : s.wake.version ≠ s.wake.observed := by
    have hv : s.wake.version = s.version + 1 := rfl
    have ho : s.wake.observed = s.observed := rfl
    omega
  refine ⟨?_, fun hp => ?_, fun _ _ hv => absurd hv hversion, fun hl => hattached (hinLoop hl),
    fun hl => hlistening (hinLoop hl)⟩
  · exact Nat.le_succ_of_le hobserved
  · unfold wake at hp
    dsimp only at hp
    split at hp
    · cases hp
    · contradiction

theorem Wakeful.wake (h : s.Wakeful) : s.wake.Wakeful :=
  wake_wakeful h.observed h.attached h.listening

theorem Wakeful.listen (h : s.Wakeful) : s.listen.Wakeful := by
  unfold Loop.listen
  split
  · exact h.wake
  · exact h

theorem Wakeful.emitDisconnect (h : s.Wakeful) : s.emitDisconnect.Wakeful := by
  unfold Loop.emitDisconnect
  split
  · exact h.listen
  · exact h

theorem Wakeful.finish (h : s.Wakeful) {phase : Phase} (hphase : phase.inLoop = false) :
    (s.finish phase).Wakeful := wakeful_of_not_inLoop h.observed hphase

theorem Wakeful.head (h : s.Wakeful) (hl : s.phase.inLoop = true) : s.head.Wakeful where
  observed := Nat.le_refl _
  parked hp := (nomatch hp)
  held _ _ _ _ hn := (nomatch hn)
  attached _ := h.attached hl
  listening _ := h.listening hl

/-- The loop parks only behind an empty buffer. -/
theorem Wakeful.waitAfter (h : s.Wakeful) (hl : s.phase.inLoop = true)
    (hK : s.observed = s.version → s.aborted = false → ∀ n ∈ s.since, n ∉ s.buffered) :
    s.waitAfter.Wakeful := by
  unfold Loop.waitAfter
  split
  · exact ⟨h.observed, fun hp => (nomatch hp), fun ha _ => h.held ha hl, fun _ => h.attached hl,
      fun _ => h.listening hl⟩
  · rename_i hlt
    have hv : s.version = s.observed := by have := h.observed; omega
    split
    · exact h.finish rfl
    · rename_i haborted
      have haborted : s.aborted = false := by simpa using haborted
      refine ⟨h.observed, fun _ => ⟨hv, haborted, fun n hn => ?_⟩, fun ha _ => h.held ha hl,
        fun _ => h.attached hl, fun _ => h.listening hl⟩
      -- what has arrived is in the dispatcher, since nothing of it is buffered
      rcases h.attached hl with ⟨ha, -⟩ | ⟨hattached, -⟩
      · rw [haborted] at ha
        cases ha
      · exact (h.held hattached hl hv n hn).resolve_right (hK hv.symm haborted n hn)

theorem Wakeful.phase (h : s.Wakeful) (hl : s.phase.inLoop = true) {phase : Phase}
    (hphase : phase ≠ .parked) : { s with phase := phase }.Wakeful :=
  ⟨h.observed, fun hp => absurd hp hphase, fun ha _ => h.held ha hl, fun _ => h.attached hl,
    fun _ => h.listening hl⟩

theorem Wakeful.deliver (h : s.Wakeful) {n : Nat}
    (hK : s.attached = false ∨ s.dispatcher.accepts = true) : (s.deliver n).Wakeful := by
  by_cases ha : s.attached = true
  · rw [deliver_attached ha (hK.resolve_left (by simp [ha]))]
    exact h.dispatched fun n hn => hn.dispatch
  · rw [deliver_detached (by simpa using ha)]
    exact h

/-- A notification reaches the loop if there is room for it. -/
theorem Wakeful.notify (h : s.Wakeful) {subId : Nat} (hregistered : s.registered = some subId)
    (hK : s.KeepsWakes .notify) : (s.notify subId).Wakeful := by
  have hK' : s.attached = false ∨
      if s.entry = s.registered then s.dispatcher.accepts = true else s.phase ≠ .parked := hK
  rw [hregistered] at hK'
  have hattached : s.phase = .parked → s.attached = true := fun hp => (h.armed hp).2.1
  unfold Loop.notify
  dsimp only
  split
  · -- known to the table: the dispatcher gets it, if it accepts
    rename_i hentry
    rw [if_pos hentry] at hK'
    by_cases ha : s.attached = true
    · have hacc := hK'.resolve_left (by simp [ha])
      rw [deliver_attached (s := { s with
        arrivals := s.arrivals + 1, since := s.since ++ [s.arrivals] }) ha hacc]
      refine ⟨h.observed, fun hp => ⟨(h.parked hp).1, (h.parked hp).2.1, fun n hn => ?_⟩,
        fun _ hl hv n hn => ?_, h.attached, h.listening⟩
      · rcases List.mem_append.mp hn with hn | hn
        · exact ((h.parked hp).2.2 n hn).dispatch
        · rw [List.mem_singleton.mp hn]
          exact AsyncHandlerDispatcher.holds_dispatch_self hacc
      · rcases List.mem_append.mp hn with hn | hn
        · exact (h.held ha hl hv n hn).imp_left fun hd => hd.dispatch
        · rw [List.mem_singleton.mp hn]
          exact Or.inl (AsyncHandlerDispatcher.holds_dispatch_self hacc)
    · rw [deliver_detached (s := { s with
        arrivals := s.arrivals + 1, since := s.since ++ [s.arrivals] }) (by simpa using ha)]
      exact ⟨h.observed, fun hp => absurd (hattached hp) ha, fun ha' => absurd ha' ha, h.attached,
        h.listening⟩
  · -- not known yet: it is kept for the registration
    rename_i hentry
    rw [if_neg hentry] at hK'
    refine ⟨h.observed, fun hp => ?_, fun ha hl hv n hn => ?_, h.attached, h.listening⟩
    · rcases hK' with ha | hne
      · rw [hattached hp] at ha
        cases ha
      · exact absurd hp hne
    · have hbuffered : ({ s with
          pendingNotifications :=
            s.pendingNotifications ++ [(subId, s.arrivals)] } : Loop).buffered =
            s.buffered ++ [s.arrivals] := by
        simp [buffered]
      rcases List.mem_append.mp hn with hn | hn
      · refine (h.held ha hl hv n hn).imp_right fun hb => ?_
        exact hbuffered ▸ List.mem_append_left _ hb
      · refine Or.inr ?_
        exact hbuffered ▸ List.mem_append_right _ hn

/-- A flush moves notifications from the buffer to the dispatcher. -/
theorem Wakeful.flush (h : s.Wakeful) {subId : Nat}
    (hK : s.attached = false ∨ s.dispatcher.acceptsAll (s.flushed subId) = true) :
    (s.flush subId).Wakeful := by
  by_cases ha : s.attached = true
  · have hacc := hK.resolve_left (by simp [ha])
    rw [flush_attached ha hacc]
    refine ⟨h.observed, fun hp => ⟨(h.parked hp).1, (h.parked hp).2.1, fun n hn => ?_⟩,
      fun _ hl hv n hn => ?_, h.attached, h.listening⟩
    · exact ((h.parked hp).2.2 n hn).dispatchAll
    · rcases h.held ha hl hv n hn with hd | hb
      · exact Or.inl hd.dispatchAll
      · rcases mem_buffered_flush hb with hf | hb
        · exact Or.inl (AsyncHandlerDispatcher.holds_dispatchAll_self hacc hf)
        · exact Or.inr hb
  · have ha' : s.attached = false := by simpa using ha
    rw [flush_detached ha']
    exact ⟨h.observed, h.parked, fun ha'' => absurd ha'' ha, h.attached, h.listening⟩

/-- The handle is active unless its signal was aborted before. -/
theorem addLocalSubscription_attached {subId : Nat}
    (hK : s.dispatcher.acceptsAll (s.flushed subId) = true) :
    ((s.addLocalSubscription subId).aborted = true ∧
        (s.addLocalSubscription subId).helper.subscribesWithSignal = true) ∨
      ((s.addLocalSubscription subId).attached = true ∧
        (s.addLocalSubscription subId).entry.isSome = true) := by
  unfold addLocalSubscription
  by_cases hsignal : (s.aborted && s.helper.subscribesWithSignal) = true
  · have hdetached : ({ s with
        entry := some subId
        attached := !(s.aborted && s.helper.subscribesWithSignal) } : Loop).attached = false := by
      simp [hsignal]
    rw [flush_detached hdetached]
    simp only [Bool.and_eq_true] at hsignal
    exact Or.inl hsignal
  · have hattached : ({ s with
        entry := some subId
        attached := !(s.aborted && s.helper.subscribesWithSignal) } : Loop).attached = true := by
      simp [hsignal]
    rw [flush_attached hattached hK]
    exact Or.inr ⟨hattached, rfl⟩

theorem Wakeful.subscribes {subId : Nat} (hK : s.dispatcher.acceptsAll (s.flushed subId) = true) :
    (s.subscribes subId).Wakeful where
  observed := Nat.le_refl _
  parked hp := (nomatch hp)
  held _ _ _ _ hn := (nomatch hn)
  attached _ := addLocalSubscription_attached hK
  listening _ := rfl

/-- An aborted loop waits for nothing. -/
theorem Wakeful.abort (h : s.Wakeful) : s.abort.Wakeful := by
  unfold Loop.abort
  dsimp only
  split
  · exact wakeful_of_not_inLoop h.observed rfl
  · rename_i hparked
    refine ⟨h.observed, fun hp => absurd hp hparked, fun ha hl hv => ?_, fun hl => ?_, h.listening⟩
    · have ha' : s.attached = true := by
        simp only [Bool.and_eq_true] at ha
        exact ha.1
      exact h.held ha' hl hv
    · by_cases hsignal : s.helper.subscribesWithSignal = true
      · exact Or.inl ⟨rfl, hsignal⟩
      · rcases h.attached hl with ⟨-, hs⟩ | ⟨ha, he⟩
        · exact absurd hs hsignal
        · exact Or.inr ⟨by simp [ha, hsignal], he⟩

theorem Wakeful.loses (h : s.Wakeful) (link : Link) : (s.loses link).Wakeful :=
  (h.moved link none).emitDisconnect

/-- A close that wakes the generator may drop what is queued. -/
theorem Wakeful.closes (h : s.Wakeful) (hK : s.KeepsWakes .closes) : s.closes.Wakeful := by
  rcases hK with hdetached | hwakes | hqueue
  · have hclosed : ({ s with dispatcher := s.dispatcher.close } : Loop).Wakeful :=
      ⟨h.observed, fun hp => absurd (h.armed hp).2.1 (by simp [hdetached]),
        fun ha => absurd ha (by simp [hdetached]), h.attached, h.listening⟩
    exact hclosed.loses .down
  · by_cases hl : s.phase.inLoop = true
    · have hwoken : s.closes = ({ s with
          dispatcher := s.dispatcher.close, link := .down, registered := none } : Loop).wake := by
        simp [Loop.closes, Loop.loses, Loop.emitDisconnect, hwakes, Loop.listen, h.listening hl]
      rw [hwoken]
      exact wake_wakeful h.observed h.attached h.listening
    · have hclosed : ({ s with dispatcher := s.dispatcher.close } : Loop).Wakeful :=
        wakeful_of_not_inLoop h.observed (by simpa using hl)
      exact hclosed.loses .down
  · have hkept : ∀ n ∈ s.since, s.dispatcher.Holds (.wake n) → s.dispatcher.close.Holds (.wake n) :=
      fun n hn hd => AsyncHandlerDispatcher.holds_close.mpr (hd.resolve_right (hqueue n hn))
    have hclosed : ({ s with dispatcher := s.dispatcher.close } : Loop).Wakeful :=
      ⟨h.observed, fun hp => ⟨(h.parked hp).1, (h.parked hp).2.1,
          fun n hn => hkept n hn ((h.parked hp).2.2 n hn)⟩,
        fun ha hl hv n hn => (h.held ha hl hv n hn).imp_left (hkept n hn), h.attached, h.listening⟩
    exact hclosed.loses .down

theorem Wakeful.answered (h : s.Wakeful) {answer : Answer} (hphase : s.phase = .answered answer)
    (hK : s.parks = true → ∀ n ∈ s.since, n ∉ s.buffered) : (s.answered answer).Wakeful := by
  have hl : s.phase.inLoop = true := by rw [hphase]; rfl
  unfold Loop.answered
  split
  · split
    · exact h.phase hl (fun hp => nomatch hp)
    · rename_i count hcount
      have hzero : count = 0 := by omega
      refine h.waitAfter hl fun hv ha => hK ?_
      simp [parks, hv, ha, hphase, hzero]
  · split
    · exact h.finish rfl
    · exact h.phase hl (fun hp => nomatch hp)

theorem Wakeful.commits (h : s.Wakeful) {subId : Nat}
    (hK : s.attached = false ∨ s.dispatcher.acceptsAll (s.flushed subId) = true) :
    (s.commits subId).Wakeful := by
  have hplaced : ({ s with entry := some subId } : Loop).Wakeful :=
    ⟨h.observed, h.parked, h.held, fun hl => (h.attached hl).imp_right fun ha => ⟨ha.1, rfl⟩,
      h.listening⟩
  exact (hplaced.flush hK).moved .restored _

/-- The entry is removed only when the handle is inactive. -/
theorem Wakeful.unsubscribed (h : s.Wakeful) (hdetached : s.attached = false) :
    { s with entry := none, registered := none }.Wakeful := by
  refine ⟨h.observed, h.parked, h.held, fun hl => ?_, h.listening⟩
  rcases h.attached hl with hsignal | ⟨ha, -⟩
  · exact Or.inl hsignal
  · rw [hdetached] at ha
    cases ha

/-- **One step.** -/
theorem Wakeful.step (h : s.Wakeful) {e : Event} (hK : s.KeepsWakes e) (hs : s.step e = some s') :
    s'.Wakeful := by
  cases steps_of_step hs with
  | starts | neverStarts | subscribed | subscribeFails => exact wakeful_of_not_inLoop h.observed rfl
  | goesOn hphase => exact h.head (by rw [hphase]; rfl)
  | waits hphase =>
      refine h.waitAfter (by rw [hphase]; rfl) fun hv ha => hK ?_
      simp [parks, hv, ha, hphase]
  | leaves | requestFails => exact h.finish rfl
  | answered hphase => exact h.phase (by rw [hphase]; rfl) (fun hp => nomatch hp)
  | subscribes hphase =>
      simp only [KeepsWakes, hphase] at hK
      exact Wakeful.subscribes hK
  | handsOut hphase =>
      simp only [KeepsWakes, hphase] at hK
      exact h.answered hphase hK
  | resumes hphase => exact h.head (by rw [hphase]; rfl)
  | abort => exact h.abort
  | notify hregistered => exact h.notify hregistered hK
  | dispatchOther => exact h.dispatched fun n hn => hn.dispatch
  | wakes => exact wake_wakeful h.observed h.attached h.listening
  | calls hstarting => exact h.dispatched fun n hn => hn.call (by simp [hstarting])
  | taskSettles => exact h.dispatched fun n hn => hn.settle
  | lost => exact h.loses .disconnected
  | attemptFails => exact h.emitDisconnect
  | closes => exact h.closes hK
  | givesUp | sessionBegins | resubscribed | restoreEnds | authenticated => exact h.moved _ _
  | @commits subId _ hregistered =>
      exact h.commits (hK.imp_right fun hall => hall subId hregistered)
  | reconnected => exact (h.moved .reconnected s.registered).listen
  | unsubscribed hdetached => exact h.unsubscribed hdetached

/-! ### Runs -/

variable {helper : Helper} {maxConcurrency queueCapacity : Option Nat}

/-- **No wake is lost** in a run whose steps drop none: whenever the generator is
parked, each notification received since its last round trip began is still on its
way to it, and its handler is there for the next. -/
theorem keepsWakes_run {es : List Event}
    (hK : (machine helper maxConcurrency queueCapacity).Guarded KeepsWakes
      (create helper maxConcurrency queueCapacity) es) :
    (machine helper maxConcurrency queueCapacity).Throughout Armed
      (create helper maxConcurrency queueCapacity) es :=
  Machine.Guarded.throughout (I := Wakeful) (fun _ _ _ h hK hs => h.step hK hs)
    (fun _ h => h.armed) (wakeful_create helper maxConcurrency queueCapacity) hK

/-- A queue consumer is parked after an empty RESERVE. -/
def parkedRun : List Event :=
  [.next, .subscribed 5, .continues, .answered (.items 0), .continues]

/-- With room for it, a notification that comes behind another handler waits its turn. -/
theorem keepsWakes_run_queued :
    ((machine .reserveWhenAvailable (some 1) (some 1)).run
        (parkedRun ++ [.dispatchOther, .notify])).isSome ∧
      (machine .reserveWhenAvailable (some 1) (some 1)).Throughout Armed
        (create .reserveWhenAvailable (some 1) (some 1)) (parkedRun ++ [.dispatchOther, .notify]) :=
  ⟨by decide +kernel, keepsWakes_run (by decide +kernel)⟩

/-- Without room it is refused: the subscription fails, and the generator stays parked. -/
theorem keepsWakes_run_fails :
    ∃ s, (machine .reserveWhenAvailable (some 1) (some 0)).run
        (parkedRun ++ [.dispatchOther, .notify]) = some s ∧
      s.phase = .parked ∧ s.attached = false ∧ ¬ s.Armed := by
  refine ⟨_, rfl, by decide +kernel, by decide +kernel, fun h => ?_⟩
  exact absurd (h (by decide +kernel)).2.1 (by decide +kernel)

end Loop

end FitzTs.WakeLoop
