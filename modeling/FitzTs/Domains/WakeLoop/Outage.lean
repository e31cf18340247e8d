import FitzTs.Domains.WakeLoop
/-!
# FitzTs.Domains.WakeLoop.Outage

**Whether a parked generator outlives its connection.** When the connection becomes
unusable for good, no notification comes any more and no reconnect does: what is left
to wake the generator is the disconnect itself. `reserveWhenAvailable` listens to it,
so a generator parked when the session goes makes another request, which the
connection rejects. `read` does not listen, and waits for ever, unless a wake is still
on its way to it.

`wakesParked_run`: in a run in which `read` has such a wake whenever it is parked on a
connection that is down, and in every run of `reserveWhenAvailable`, no generator is
left waiting. `wakesParked_run_fails`: a reader that has caught up is, when the session
is lost and the client does not reconnect.
-/

namespace FitzTs.WakeLoop

open Client (AsyncHandlerDispatcher)

/-! ### What is left to happen -/

/-- The task calls the generator's handler. -/
def Task.isWake : Task → Bool
  | .wake _ => true
  | .other => false

/-- What settles by itself once the connection is down: the generator's requests fail,
it continues, and the dispatcher goes through its tasks. -/
def Event.isPending : Event → Bool
  | .subscribeFails | .requestFails | .continues | .taskCalled | .taskSettles _ => true
  | _ => false

/-- No call of `next()` is pending: it is the consumer's turn. -/
def Phase.isConsumersTurn : Phase → Bool
  | .created | .yielded _ | .returned => true
  | _ => false

namespace Loop

/-- All pending events have been processed. -/
def Quiet (s : Loop) : Prop := ∀ e : Event, e.isPending = true → s.step e = none

/-- Once the connection is down for good and nothing is pending, the generator is not
parked: it has thrown, or the consumer has not asked it for more. -/
def Surfaced (s : Loop) : Prop :=
  s.link = .down → s.Quiet →
    s.phase ≠ .parked ∧ (s.phase = .threw ∨ s.phase.isConsumersTurn = true)

/-- A wake of the generator is on its way through the dispatcher. -/
def holdsWake (s : Loop) : Bool :=
  s.dispatcher.starting.any Task.isWake || s.dispatcher.queue.any Task.isWake

/-- The generator waits at a gate nobody has woken since it looked. -/
def waits (s : Loop) : Bool := s.phase = .yielded false && s.observed = s.version && !s.aborted

/-- The step leaves nobody parked on a connection that is down, unless a wake is on
its way that is not dropped. -/
def WakesParked (s : Loop) (e : Event) : Prop :=
  s.helper.wakesOnDisconnect = true ∨
    match e with
    | .givesUp => s.phase = .parked → s.holdsWake = true
    | .closes => s.phase = .parked → s.dispatcher.starting.any Task.isWake = true
    | .next => s.link = .down → s.waits = true → s.holdsWake = true
    | _ => True

instance (s : Loop) (e : Event) : Decidable (s.WakesParked e) := by
  unfold WakesParked
  cases e <;> infer_instance

variable {s s' : Loop}

/-! ### The invariant -/

/-- A wake is held by the queue, by a slot or by a handler that starts. -/
theorem holdsWake_iff : s.holdsWake = true ↔ ∃ n, s.dispatcher.Holds (.wake n) := by
  have hwake : ∀ {tasks : List Task}, tasks.any Task.isWake = true ↔ ∃ n, Task.wake n ∈ tasks := by
    intro tasks
    rw [List.any_eq_true]
    constructor
    · rintro ⟨task, hmem, hw⟩
      cases task with
      | wake n => exact ⟨n, hmem⟩
      | other => cases hw
    · rintro ⟨n, hmem⟩
      exact ⟨_, hmem, rfl⟩
  simp only [holdsWake, Bool.or_eq_true, hwake, AsyncHandlerDispatcher.Holds, exists_or]

/-- Nobody is left parked. -/
structure Tended (s : Loop) : Prop where
  observed : s.observed ≤ s.version
  listening : s.phase.inLoop = true → s.listening = true
  answers : ∀ answer, s.phase = .answered answer → s.helper.requests answer = true
  yields : s.helper.wakesOnDisconnect = true → s.phase ≠ .yielded false
  /-- A generator that listens to disconnects waits on a session that is up. -/
  ready : s.helper.wakesOnDisconnect = true →
    (s.phase = .parked ∨ (∃ answer, s.phase = .answered answer)) → s.version = s.observed →
      s.link = .ready
  parked : s.phase = .parked → s.version = s.observed
  down : s.link = .down → s.phase = .parked → ∃ n, s.dispatcher.Holds (.wake n)
  busy : s.dispatcher.Busy

theorem tended_create (helper : Helper) (maxConcurrency queueCapacity : Option Nat) :
    (create helper maxConcurrency queueCapacity).Tended where
  observed := Nat.le_refl 0
  listening hl := (nomatch hl)
  answers _ hp := (nomatch hp)
  yields _ hp := (nomatch hp)
  ready _ hp := by rcases hp with hp | ⟨_, hp⟩ <;> cases hp
  parked hp := (nomatch hp)
  down hl := (nomatch hl)
  busy := AsyncHandlerDispatcher.busy_create maxConcurrency queueCapacity

/-- The generator has moved on to something other than a wait, an answer or a yield. -/
theorem Tended.phase (h : s.Tended) (phase : Phase)
    (hl : phase.inLoop = true → s.phase.inLoop = true)
    (hphase : phase = .requesting ∨ phase = .resumed ∨ phase.inLoop = false) :
    { s with phase := phase }.Tended := by
  have hparked : phase ≠ .parked := by
    rintro rfl
    rcases hphase with hp | hp | hp <;> cases hp
  have hanswered : ∀ answer, phase ≠ .answered answer := by
    rintro answer rfl
    rcases hphase with hp | hp | hp <;> cases hp
  have hyielded : phase ≠ .yielded false := by
    rintro rfl
    rcases hphase with hp | hp | hp <;> cases hp
  exact ⟨h.observed, fun hi => h.listening (hl hi), fun answer hp => absurd hp (hanswered answer),
    fun _ => hyielded, fun _ hp => hp.elim (fun hp => absurd hp hparked)
      (fun ⟨answer, hp⟩ => absurd hp (hanswered answer)), fun hp => absurd hp hparked,
    fun _ hp => absurd hp hparked, h.busy⟩

theorem Tended.finish (h : s.Tended) {phase : Phase} (hphase : phase.inLoop = false) :
    (s.finish phase).Tended := by
  have hmoved := h.phase phase (fun hi => by rw [hphase] at hi; cases hi)
    (Or.inr (Or.inr hphase))
  refine ⟨hmoved.observed, fun hi => ?_, hmoved.answers, hmoved.yields, hmoved.ready,
    hmoved.parked, hmoved.down, hmoved.busy⟩
  have hi' : phase.inLoop = true := hi
  rw [hphase] at hi'
  cases hi'

theorem Tended.head (h : s.Tended) (hl : s.phase.inLoop = true) : s.head.Tended :=
  have hmoved := h.phase .requesting (fun _ => hl) (Or.inl rfl)
  ⟨Nat.le_refl _, hmoved.listening, hmoved.answers, hmoved.yields,
    fun _ hp => hp.elim (fun hp => (nomatch hp)) fun ⟨_, hp⟩ => (nomatch hp),
    fun hp => (nomatch hp),
    fun _ hp => (nomatch hp), h.busy⟩

/-- The connection moves; where it was or goes, nobody waits on it. -/
theorem Tended.moved (h : s.Tended) {link : Link} {registered : Option Nat}
    (hready : s.link = .ready → link = .ready)
    (hdown : link = .down → s.phase = .parked → ∃ n, s.dispatcher.Holds (.wake n)) :
    { s with link := link, registered := registered }.Tended :=
  ⟨h.observed, h.listening, h.answers, h.yields, fun hw hp hv => hready (h.ready hw hp hv),
    h.parked,
    hdown, h.busy⟩

/-- After a wake nobody is parked. -/
theorem wake_tended (hobserved : s.observed ≤ s.version)
    (hlistening : s.phase.inLoop = true → s.listening = true)
    (hanswers : ∀ answer, s.phase = .answered answer → s.helper.requests answer = true)
    (hyields : s.helper.wakesOnDisconnect = true → s.phase ≠ .yielded false)
    (hbusy : s.dispatcher.Busy) : s.wake.Tended := by
  have hparked : s.wake.phase ≠ .parked := by
    unfold wake
    dsimp only
    split
    · exact fun hp => nomatch hp
    · assumption
  have hphase : s.wake.phase = .resumed ∧ s.phase = .parked ∨ s.wake.phase = s.phase := by
    unfold wake
    dsimp only
    split
    · rename_i hp
      exact Or.inl ⟨rfl, hp⟩
    · exact Or.inr rfl
  have hversion : s.wake.version ≠ s.wake.observed := by
    have hv : s.wake.version = s.version + 1 := rfl
    have ho : s.wake.observed = s.observed := rfl
    omega
  refine ⟨Nat.le_succ_of_le hobserved, fun hl => ?_, fun answer hp => ?_, fun hw hp => ?_,
    fun _ _ hv => absurd hv hversion, fun hp => absurd hp hparked, fun _ hp => absurd hp hparked,
    hbusy⟩
  · rcases hphase with ⟨-, hp⟩ | hsame
    · exact hlistening (by rw [hp]; rfl)
    · exact hlistening (hsame ▸ hl)
  · rcases hphase with ⟨hr, -⟩ | hsame
    · rw [hr] at hp
      cases hp
    · exact hanswers answer (hsame ▸ hp)
  · rcases hphase with ⟨hr, -⟩ | hsame
    · rw [hr] at hp
      cases hp
    · exact hyields hw (hsame ▸ hp)

theorem Tended.listen (h : s.Tended) : s.listen.Tended := by
  unfold Loop.listen
  split
  · exact wake_tended h.observed h.listening h.answers h.yields h.busy
  · exact h

theorem Tended.emitDisconnect (h : s.Tended) : s.emitDisconnect.Tended := by
  unfold Loop.emitDisconnect
  split
  · exact h.listen
  · exact h

/-- The session goes: a generator that listens is woken, any other must not need it. -/
theorem Tended.loses (h : s.Tended) {link : Link} {d : AsyncHandlerDispatcher Task} (hbusy : d.Busy)
    (hdown : s.helper.wakesOnDisconnect = false → link = .down → s.phase = .parked →
      ∃ n, d.Holds (.wake n)) :
    ({ s with dispatcher := d }.loses link).Tended := by
  by_cases hw : s.helper.wakesOnDisconnect = true
  · by_cases hl : s.phase.inLoop = true
    · have hwoken : { s with dispatcher := d }.loses link =
          ({ s with dispatcher := d, link := link, registered := none } : Loop).wake := by
        simp [Loop.loses, Loop.emitDisconnect, hw, Loop.listen, h.listening hl]
      rw [hwoken]
      exact wake_tended h.observed h.listening h.answers h.yields hbusy
    · have hparked : s.phase ≠ .parked := fun hp => hl (by rw [hp]; rfl)
      have hanswered : ∀ answer, s.phase ≠ .answered answer := fun answer hp => hl (by rw [hp]; rfl)
      refine Tended.emitDisconnect ⟨h.observed, h.listening, h.answers, h.yields, fun _ hp => ?_,
        h.parked, fun _ hp => absurd hp hparked, hbusy⟩
      rcases hp with hp | ⟨answer, hp⟩
      · exact absurd hp hparked
      · exact absurd hp (hanswered answer)
  · have hw' : s.helper.wakesOnDisconnect = false := by simpa using hw
    exact Tended.emitDisconnect ⟨h.observed, h.listening, h.answers, h.yields,
      fun hw'' => absurd hw'' hw, h.parked, hdown hw', hbusy⟩

/-- The dispatcher may take on more. -/
theorem Tended.dispatched (h : s.Tended) {d : AsyncHandlerDispatcher Task} (hbusy : d.Busy)
    (hd : ∀ n, s.dispatcher.Holds (.wake n) → d.Holds (.wake n)) :
    { s with dispatcher := d }.Tended :=
  ⟨h.observed, h.listening, h.answers, h.yields, h.ready, h.parked,
    fun hl hp => (h.down hl hp).imp hd, hbusy⟩

theorem Tended.deliver (h : s.Tended) (n : Nat) : (s.deliver n).Tended := by
  unfold Loop.deliver
  split
  · have hbusy : (s.dispatcher.dispatch (.wake n)).1.Busy := h.busy.dispatch
    have hdispatched := h.dispatched hbusy fun _ hd => hd.dispatch
    exact ⟨hdispatched.observed, hdispatched.listening, hdispatched.answers, hdispatched.yields,
      hdispatched.ready, hdispatched.parked, hdispatched.down, hdispatched.busy⟩
  · exact h

theorem Tended.flush (h : s.Tended) (subId : Nat) : (s.flush subId).Tended := by
  have hall : ∀ {ns : List Nat} {t : Loop}, t.Tended → (ns.foldl Loop.deliver t).Tended := by
    intro ns
    induction ns with
    | nil => exact id
    | cons n ns ih => exact fun ht => ih (ht.deliver n)
  exact hall ⟨h.observed, h.listening, h.answers, h.yields, h.ready, h.parked, h.down, h.busy⟩

theorem flush_link (subId : Nat) : (s.flush subId).link = s.link := by
  have hall : ∀ {ns : List Nat} {t : Loop}, (ns.foldl Loop.deliver t).link = t.link := by
    intro ns
    induction ns with
    | nil => exact rfl
    | cons n ns ih =>
        intro t
        rw [List.foldl_cons, ih, Loop.deliver]
        split <;> rfl
  exact hall

/-- A notification gives the loop a wake or leaves it as it is. -/
theorem Tended.notify (h : s.Tended) (subId : Nat) : (s.notify subId).Tended := by
  have hreceived : ({ s with
      arrivals := s.arrivals + 1, since := s.since ++ [s.arrivals] } : Loop).Tended :=
    ⟨h.observed, h.listening, h.answers, h.yields, h.ready, h.parked, h.down, h.busy⟩
  unfold Loop.notify
  dsimp only
  split
  · exact hreceived.deliver _
  · exact ⟨h.observed, h.listening, h.answers, h.yields, h.ready, h.parked, h.down, h.busy⟩

theorem Tended.subscribes (h : s.Tended) (subId : Nat) : (s.subscribes subId).Tended := by
  have hplaced : ({ s with
      entry := some subId
      attached := !(s.aborted && s.helper.subscribesWithSignal) } : Loop).Tended :=
    ⟨h.observed, h.listening, h.answers, h.yields, h.ready, h.parked, h.down, h.busy⟩
  have hadded := hplaced.flush subId
  exact ⟨Nat.le_refl _, fun _ => rfl, fun _ hp => (nomatch hp), fun _ hp => (nomatch hp),
    fun _ hp => hp.elim (fun hp => (nomatch hp)) fun ⟨_, hp⟩ => (nomatch hp),
    fun hp => (nomatch hp),
    fun _ hp => (nomatch hp), hadded.busy⟩

/-- The loop parks only while the connection is up or a wake is on its way. -/
theorem Tended.waitAfter (h : s.Tended) (hl : s.phase.inLoop = true)
    (hready : s.helper.wakesOnDisconnect = true → s.version = s.observed → s.link = .ready)
    (hdown : s.version = s.observed → s.aborted = false → s.link = .down →
      ∃ n, s.dispatcher.Holds (.wake n)) : s.waitAfter.Tended := by
  unfold Loop.waitAfter
  split
  · exact h.phase _ (fun _ => hl) (Or.inr (Or.inl rfl))
  · rename_i hlt
    have hv : s.version = s.observed := by have := h.observed; omega
    split
    · exact h.finish rfl
    · rename_i haborted
      refine ⟨h.observed, fun _ => h.listening hl, fun _ hp => (nomatch hp),
        fun _ hp => (nomatch hp), fun hw _ => hready hw, fun _ => hv, fun hd _ => ?_, h.busy⟩
      exact hdown hv (by simpa using haborted) hd

/-- An answer in time parks the loop, or is yielded. -/
theorem Tended.answered (h : s.Tended) {answer : Answer} (hphase : s.phase = .answered answer) :
    (s.answered answer).Tended := by
  have hl : s.phase.inLoop = true := by rw [hphase]; rfl
  have hrequests := h.answers answer hphase
  have hyielded : ∀ on, (s.helper.wakesOnDisconnect = true → on = true) →
      ({ s with phase := .yielded on } : Loop).Tended := by
    intro on hon
    refine ⟨h.observed, fun _ => h.listening hl, fun _ hp => (nomatch hp), fun hw hp => ?_,
      fun _ hp => hp.elim (fun hp => (nomatch hp)) fun ⟨_, hp⟩ => (nomatch hp),
      fun hp => (nomatch hp),
      fun _ hp => (nomatch hp), h.busy⟩
    rw [hon hw] at hp
    cases hp
  cases answer with
  | items count =>
      unfold Loop.answered
      dsimp only
      have hreserve : s.helper.wakesOnDisconnect = true := by
        cases hh : s.helper with
        | reserveWhenAvailable => rfl
        | read => rw [hh] at hrequests; cases hrequests
      split
      · exact hyielded true fun _ => rfl
      · refine h.waitAfter hl (fun hw hv => h.ready hw (Or.inr ⟨_, hphase⟩) hv) fun hv _ hd => ?_
        have hready := h.ready hreserve (Or.inr ⟨_, hphase⟩) hv
        rw [hd] at hready
        cases hready
  | page hasMore stalled =>
      unfold Loop.answered
      dsimp only
      split
      · exact h.finish rfl
      · refine hyielded hasMore fun hw => ?_
        cases hh : s.helper with
        | reserveWhenAvailable => rw [hh] at hrequests; cases hrequests
        | read => rw [hh] at hw; cases hw

/-- A generator that listens to disconnects is parked on an authenticated connection. -/
theorem Tended.ready_of_parked (h : s.Tended) (hw : s.helper.wakesOnDisconnect = true)
    (hp : s.phase = .parked) : s.link = .ready := h.ready hw (Or.inl hp) (h.parked hp)

theorem Tended.next (h : s.Tended) (hK : s.WakesParked .next) (hphase : s.phase = .yielded false) :
    s.waitAfter.Tended := by
  refine h.waitAfter (by rw [hphase]; rfl) (fun hw => absurd hphase (h.yields hw))
    fun hv haborted hd => ?_
  rcases hK with hw | hK
  · exact absurd hphase (h.yields hw)
  · refine holdsWake_iff.mp (hK hd ?_)
    simp [waits, hphase, hv, haborted]

/-- A round trip is answered on a connection that is ready. -/
theorem Tended.requested (h : s.Tended) {answer : Answer} (hphase : s.phase = .requesting)
    (hlink : s.link = .ready) (hrequests : s.helper.requests answer = true) :
    { s with phase := .answered answer }.Tended := by
  refine ⟨h.observed, fun _ => h.listening (by rw [hphase]; rfl), fun answer' hp => ?_,
    fun _ hp => (nomatch hp), fun _ _ _ => hlink, fun hp => (nomatch hp), fun _ hp => (nomatch hp),
    h.busy⟩
  cases hp
  exact hrequests

theorem Tended.abort (h : s.Tended) : s.abort.Tended := by
  have haborted : ({ s with
      aborted := true
      attached := s.attached && !s.helper.subscribesWithSignal } : Loop).Tended :=
    ⟨h.observed, h.listening, h.answers, h.yields, h.ready, h.parked, h.down, h.busy⟩
  unfold Loop.abort
  dsimp only
  split
  · exact haborted.finish rfl
  · exact haborted

/-- No further attempt is made: who is parked has a wake on its way. -/
theorem Tended.givesUp (h : s.Tended) (hK : s.WakesParked .givesUp)
    (hlink : s.link = .disconnected) : { s with link := .down }.Tended := by
  refine h.moved (fun hr => ?_) fun _ hp => ?_
  · rw [hlink] at hr
    cases hr
  · rcases hK with hw | hK
    · have hready := h.ready_of_parked hw hp
      rw [hlink] at hready
      cases hready
    · exact holdsWake_iff.mp (hK hp)

/-- The close drops what is queued, and not what is about to be called. -/
theorem Tended.closes (h : s.Tended) (hK : s.WakesParked .closes) : s.closes.Tended := by
  refine h.loses h.busy.close fun hw _ hp => ?_
  rcases hK with hw' | hK
  · rw [hw] at hw'
    cases hw'
  · obtain ⟨task, hmem, htask⟩ := List.any_eq_true.mp (hK hp)
    cases task with
    | wake n => exact ⟨n, AsyncHandlerDispatcher.holds_close.mpr hmem⟩
    | other => cases htask

theorem Tended.commits (h : s.Tended) (subId : Nat) (hlink : s.link = .resubscribed) :
    (s.commits subId).Tended := by
  have hplaced : ({ s with entry := some subId } : Loop).Tended :=
    ⟨h.observed, h.listening, h.answers, h.yields, h.ready, h.parked, h.down, h.busy⟩
  refine (hplaced.flush subId).moved (fun hr => ?_) fun hd => (nomatch hd)
  rw [flush_link] at hr
  exact absurd (hlink.symm.trans hr) (by decide)

/-- The connection moves on before it is ready. -/
theorem Tended.moves (h : s.Tended) {link : Link} {registered : Option Nat}
    (hready : s.link ≠ .ready) (hdown : link ≠ .down) :
    { s with link := link, registered := registered }.Tended :=
  h.moved (fun hr => absurd hr hready) fun hd => absurd hd hdown

/-- **One step.** -/
theorem Tended.step (h : s.Tended) {e : Event} (hK : s.WakesParked e) (hs : s.step e = some s') :
    s'.Tended := by
  cases steps_of_step hs with
  | starts | neverStarts | subscribeFails =>
      exact h.phase _ (fun hl => nomatch hl) (Or.inr (Or.inr rfl))
  | goesOn hphase => exact h.head (by rw [hphase]; rfl)
  | waits hphase => exact h.next hK hphase
  | leaves | requestFails => exact h.finish rfl
  | @subscribed subId =>
      have hmoved := h.phase (.subscribed subId) (fun hl => nomatch hl) (Or.inr (Or.inr rfl))
      exact hmoved.moved id hmoved.down
  | answered hphase hlink hrequests => exact h.requested hphase hlink hrequests
  | subscribes => exact h.subscribes _
  | handsOut hphase => exact h.answered hphase
  | resumes hphase => exact h.head (by rw [hphase]; rfl)
  | abort => exact h.abort
  | notify => exact h.notify _
  | dispatchOther => exact h.dispatched h.busy.dispatch fun n hn => hn.dispatch
  | wakes => exact wake_tended h.observed h.listening h.answers h.yields h.busy.call
  | calls hstarting => exact h.dispatched h.busy.call fun n hn => hn.call (by simp [hstarting])
  | taskSettles => exact h.dispatched h.busy.settle fun n hn => hn.settle
  | lost => exact h.loses h.busy fun _ hd => (nomatch hd)
  | attemptFails => exact h.emitDisconnect
  | givesUp hlink => exact h.givesUp hK hlink
  | closes => exact h.closes hK
  | sessionBegins hlink | resubscribed hlink => exact h.moves (by simp [hlink]) (by simp)
  | commits hlink => exact h.commits _ hlink
  | restoreEnds hlink =>
      exact h.moves (by rcases hlink with hlink | hlink <;> simp [hlink]) (by simp)
  | reconnected hlink =>
      have hmoved : ({ s with link := .reconnected } : Loop).Tended :=
        h.moves (by simp [hlink]) (by simp)
      exact hmoved.listen
  | authenticated => exact h.moved (fun _ => rfl) fun hd => (nomatch hd)
  | unsubscribed =>
      exact ⟨h.observed, h.listening, h.answers, h.yields, h.ready, h.parked, h.down, h.busy⟩

/-! ### When nothing is left to happen -/

/-- A quiet dispatcher is empty. -/
theorem not_holds_of_quiet (h : s.Tended) (hquiet : s.Quiet) (n : Nat) :
    ¬ s.dispatcher.Holds (.wake n) := by
  have hstarting : s.dispatcher.starting = [] := by
    have hnone := hquiet .taskCalled rfl
    simp only [Loop.step] at hnone
    split at hnone
    · assumption
    · cases hnone
    · cases hnone
  rintro (hmem | hmem)
  · rw [hstarting] at hmem
    cases hmem
  · -- what is queued waits for a running task, which has yet to settle
    have hactive := h.busy.active (List.ne_nil_of_mem hmem)
    have hrunning : 0 < s.dispatcher.running.length := by
      simpa [AsyncHandlerDispatcher.activeCount, hstarting] using hactive
    have hnone := hquiet (.taskSettles 0) rfl
    simp [Loop.step, hrunning] at hnone

/-- Nothing is pending for a parked generator beside an idle dispatcher. -/
theorem quiet_of_parked (hparked : s.phase = .parked) (hstarting : s.dispatcher.starting = [])
    (hrunning : s.dispatcher.running = []) : s.Quiet := by
  intro e he
  cases e with
  | subscribeFails | requestFails | continues => simp [Loop.step, hparked]
  | taskCalled => simp [Loop.step, hstarting]
  | taskSettles i => simp [Loop.step, hrunning]
  | _ => cases he

theorem Tended.surfaced (h : s.Tended) : s.Surfaced := by
  intro hdown hquiet
  have hparked : s.phase ≠ .parked := by
    intro hp
    obtain ⟨n, hn⟩ := h.down hdown hp
    exact not_holds_of_quiet h hquiet n hn
  refine ⟨hparked, ?_⟩
  cases hphase : s.phase with
  | created | yielded | returned => exact Or.inr rfl
  | threw => exact Or.inl rfl
  | parked => exact absurd hphase hparked
  | subscribing =>
      have hnone := hquiet .subscribeFails rfl
      simp [Loop.step, hphase] at hnone
  | requesting =>
      have hnone := hquiet .requestFails rfl
      simp [Loop.step, hphase] at hnone
  | subscribed | answered | resumed =>
      have hnone := hquiet .continues rfl
      simp [Loop.step, hphase] at hnone

/-! ### Runs -/

variable {helper : Helper} {maxConcurrency queueCapacity : Option Nat}

/-- **No generator is left waiting** in a run in which `read` is parked on a connection
that is down only with a wake on its way: once the connection is unusable for good
and nothing is pending, the generator has thrown or the consumer has not asked it. -/
theorem wakesParked_run {es : List Event}
    (hK : (machine helper maxConcurrency queueCapacity).Guarded WakesParked
      (create helper maxConcurrency queueCapacity) es) :
    (machine helper maxConcurrency queueCapacity).Throughout Surfaced
      (create helper maxConcurrency queueCapacity) es :=
  Machine.Guarded.throughout (I := Tended) (fun _ _ _ h hK hs => h.step hK hs)
    (fun _ h => h.surfaced) (tended_create helper maxConcurrency queueCapacity) hK

/-- A queue consumer is parked after an empty RESERVE when the session is lost and the
client does not reconnect: it makes another request, which fails. -/
theorem wakesParked_run_reserve :
    (∃ s, (reserveWhenAvailable none none).run
        [.next, .subscribed 5, .continues, .answered (.items 0), .continues, .lost, .givesUp,
          .continues, .requestFails] = some s ∧ s.phase = .threw) ∧
      (reserveWhenAvailable none none).Throughout Surfaced
        (create .reserveWhenAvailable none none)
        [.next, .subscribed 5, .continues, .answered (.items 0), .continues, .lost, .givesUp,
          .continues, .requestFails] :=
  ⟨⟨_, rfl, by decide +kernel⟩, wakesParked_run (by decide +kernel)⟩

/-- A stream reader that has caught up is parked when the session is lost and the client
does not reconnect: nothing is pending, and it stays parked. -/
theorem wakesParked_run_fails :
    ∃ s, (read none none).run
        [.next, .subscribed 5, .continues, .answered (.page false false), .continues, .next,
          .lost, .givesUp] = some s ∧
      s.phase = .parked ∧ ¬ s.Surfaced := by
  refine ⟨_, rfl, by decide +kernel, fun h => ?_⟩
  exact (h (by decide +kernel) (quiet_of_parked (by decide +kernel) rfl rfl)).1 (by decide +kernel)

end Loop

end FitzTs.WakeLoop
