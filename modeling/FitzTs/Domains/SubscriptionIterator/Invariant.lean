import FitzTs.Domains.SubscriptionIterator
/-!
# FitzTs.Domains.SubscriptionIterator.Invariant

Where an undisturbed iterator can stand, and what each event makes of that.

Nothing is lost because of the order of the jobs: a notification wakes the body before the reaction
of a completion that settles later. If the reaction runs first, the completion had settled before
the notification came, and nothing was promised.
-/

namespace FitzTs

open FitzTs.Core (Thrown Completion)

namespace SubscriptionIterator

variable {α : Type*} {s : SubscriptionIterator α} {held : List α}

/-- The reaction of the completion, as long as it has not run. -/
def due (s : SubscriptionIterator α) : List Job :=
  if s.listening = true ∧ s.completion ≠ .pending ∧ s.observed = false then [.observe] else []

/-- What the flags say of the completion once its reaction has run. -/
def Sees (s : SubscriptionIterator α) : Prop :=
  s.completion = .resolved ∧ s.completionFailure = .undefined ∧ s.completionSettled = true ∨
    s.completion = .rejected s.completionFailure ∧ s.completionSettled = false

/-- The books of an iterator that is not over; `held` is on its way to the consumer. -/
structure Ledger (s : SubscriptionIterator α) (held : List α) : Prop where
  conserved : s.yielded ++ held ++ s.values = s.delivered
  promised : s.promised <+: s.delivered
  pending : s.completion = .pending → s.promised = s.delivered
  unseen : s.observed = false → s.completionFailure = .undefined ∧ s.completionSettled = false
  seen : s.observed = true → s.listening = true ∧ s.Sees
  answers : s.answers = s.yielded.map Answer.value
  nexts : ∀ request ∈ s.requests, request = .next

/-- The ways of a body that waits to be woken. -/
inductive Parked (s : SubscriptionIterator α) : Prop
  | quiet (jobs : s.jobs = s.due) (values : s.values = []) (observed : s.observed = false)
  /-- The body goes on before the reaction of the completion runs, or after that has woken it. -/
  | woken (jobs : s.jobs = .resume none :: s.due) (values : s.values = [] → s.observed = true)
      (promised : s.observed = true → s.promised <+: s.yielded)
  /-- The reaction will run first: what has woken the body came after the completion settled. -/
  | late (jobs : s.jobs = [.observe, .resume none]) (values : s.values ≠ [])
      (promised : s.promised <+: s.yielded) (observed : s.observed = false)
      (settled : s.completion ≠ .pending)

/-- The loop was left for good. -/
structure Left (s : SubscriptionIterator α) (exit : Exit) : Prop where
  observed : s.observed = true
  promised : s.promised <+: s.yielded
  ends : endOf s.completion = some (exit.answer : Answer α)

structure Over (s : SubscriptionIterator α) : Prop where
  requests : s.requests = []
  jobs : s.jobs = []
  inOrder : s.yielded <+: s.delivered
  promised : s.promised <+: s.yielded
  ends : ∃ last n, endOf s.completion = some last ∧
    s.answers = s.yielded.map Answer.value ++ last :: List.replicate n .done

/-- What holds of an undisturbed iterator, by where its body stands. -/
def Stands (s : SubscriptionIterator α) : Prop :=
  match s.phase with
  | .created => s.Ledger [] ∧ s.requests = [] ∧ s.jobs = [] ∧ s.listening = false
  | .subscribing => s.Ledger [] ∧ s.requests ≠ [] ∧ s.listening = false ∧
      (s.jobs = [] ∨ ∃ failure, s.jobs = [.resume failure])
  | .parked => s.Ledger [] ∧ s.requests ≠ [] ∧ s.listening = true ∧ s.Parked
  | .yielding item => s.Ledger [item] ∧ s.requests ≠ [] ∧ s.listening = true ∧
      (s.jobs = .resume none :: s.due ∨ s.jobs = s.due ++ [.resume none])
  | .yielded => s.Ledger [] ∧ s.requests = [] ∧ s.listening = true ∧ s.jobs = s.due
  | .returning => False
  | .unsubscribing exit => s.Ledger [] ∧ s.requests ≠ [] ∧ s.Left exit ∧
      (s.jobs = [] ∨ ∃ failure, s.jobs = [.resume failure])
  | .observing exit => s.Ledger [] ∧ s.requests ≠ [] ∧ s.Left exit ∧ s.jobs = [.resume none]
  | .completed => s.Over

/-- A body that is parked stands as it should, in whichever way it is. -/
theorem Parked.stands (h : s.Parked) (hphase : s.phase = .parked) (hledger : s.Ledger [])
    (hrequests : s.requests ≠ []) (hlistening : s.listening = true) : s.Stands := by
  unfold Stands
  rw [hphase]
  exact ⟨hledger, hrequests, hlistening, h⟩

/-- The reaction of the completion runs once. -/
theorem due_of_observed (h : s.observed = true) : s.due = [] :=
  if_neg fun hdue => by rw [hdue.2.2] at h; cases h

theorem due_of_pending (h : s.completion = .pending) : s.due = [] := if_neg fun hdue => hdue.2.1 h

theorem due_eq_cons_iff {job : Job} {rest : List Job} :
    s.due = job :: rest ↔ (s.listening = true ∧ s.completion ≠ .pending ∧ s.observed = false) ∧
      job = .observe ∧ rest = [] := by
  unfold due
  split
  · rename_i hdue
    simp [hdue, eq_comm]
  · rename_i hdue
    simp [hdue]

/-- What was promised has been yielded when the buffer is empty. -/
theorem Ledger.prefix_of_drained (h : s.Ledger []) (hvalues : s.values = []) :
    s.promised <+: s.yielded := by
  have hconserved := h.conserved
  rw [hvalues, List.append_nil, List.append_nil] at hconserved
  rw [hconserved]
  exact h.promised

/-- A check that leaves the loop has seen the completion, and leaves as it has ended. -/
theorem Ledger.ends_of_check (h : s.Ledger held) {exit : Exit} (hcheck : s.check = some exit) :
    s.observed = true ∧ endOf s.completion = some (exit.answer : Answer α) := by
  unfold check at hcheck
  cases hobserved : s.observed with
  | false =>
      obtain ⟨hfailure, hsettled⟩ := h.unseen hobserved
      rw [hfailure, hsettled] at hcheck
      cases hcheck
  | true =>
      refine ⟨rfl, ?_⟩
      cases (h.seen hobserved).2 with
      | inl hresolved =>
          obtain ⟨hcompletion, hfailure, hsettled⟩ := hresolved
          rw [hfailure, hsettled] at hcheck
          obtain rfl := Option.some.inj hcheck
          rw [hcompletion]
          rfl
      | inr hrejected =>
          obtain ⟨hcompletion, hsettled⟩ := hrejected
          rw [hsettled] at hcheck
          split at hcheck
          · obtain rfl := Option.some.inj hcheck
            rw [hcompletion]
            rfl
          · cases hcheck

/-- A check that does not leave the loop has seen nothing, or takes what it has seen for nothing. -/
theorem Ledger.unseen_of_check (h : s.Ledger held) (hcheck : s.check = none)
    (hvisible : s.observed = true → s.completion ≠ .rejected .undefined) : s.observed = false := by
  unfold check at hcheck
  by_contra hobserved
  have hobserved := Bool.eq_true_of_not_eq_false hobserved
  split at hcheck
  · cases hcheck
  · rename_i hfailure
    cases (h.seen hobserved).2 with
    | inl hresolved =>
        rw [hresolved.2.2] at hcheck
        cases hcheck
    | inr hrejected => exact hvisible hobserved (by rw [hrejected.1, not_not.mp hfailure])

theorem Ledger.settled_of_observed (h : s.Ledger held) (hobserved : s.observed = true) :
    s.completion ≠ .pending := by
  intro hpending
  cases (h.seen hobserved).2 with
  | inl hresolved => rw [hpending] at hresolved; cases hresolved.1
  | inr hrejected => rw [hpending] at hrejected; cases hrejected.1

theorem Ledger.unobserved (h : s.Ledger held) (hpending : s.completion = .pending) :
    s.observed = false := by
  by_contra hobserved
  exact h.settled_of_observed (Bool.eq_true_of_not_eq_false hobserved) hpending

/-- The body leaves its loop when the end is in sight. -/
theorem Ledger.leave {exit : Exit} (h : s.Ledger []) (hrequests : s.requests ≠ [])
    (hjobs : s.jobs = s.due) (hcheck : s.check = some exit)
    (hpromised : s.observed = true → s.promised <+: s.yielded) : (s.leave exit).Stands := by
  obtain ⟨hobserved, hends⟩ := h.ends_of_check hcheck
  refine ⟨{ h with }, hrequests, ⟨hobserved, hpromised hobserved, hends⟩, Or.inl ?_⟩
  show s.jobs = []
  rw [hjobs, due_of_observed hobserved]

/-- The body yields the oldest value. -/
theorem Ledger.yieldItem {item : α} {rest : List α} (h : s.Ledger [])
    (hvalues : s.values = item :: rest) (hrequests : s.requests ≠ [])
    (hlistening : s.listening = true)
    (hjobs : s.jobs = s.due) : (s.yieldItem item rest).Stands := by
  refine ⟨{ h with conserved := ?_ }, hrequests, hlistening, Or.inr ?_⟩
  · show s.yielded ++ [item] ++ rest = s.delivered
    rw [← h.conserved, hvalues]
    simp
  · show s.jobs ++ [Job.resume none] = s.due ++ [Job.resume none]
    rw [hjobs]

/-- The inner loop, and behind it the outer one. -/
theorem Ledger.drain (h : s.Ledger []) (haborted : s.aborted = false) (hrequests : s.requests ≠ [])
    (hlistening : s.listening = true) (hjobs : s.jobs = s.due)
    (hvisible : s.values = [] → s.observed = true → s.completion ≠ .rejected .undefined) :
    s.drain.Stands := by
  unfold SubscriptionIterator.drain
  cases hvalues : s.values with
  | cons item rest => exact h.yieldItem hvalues hrequests hlistening hjobs
  | nil =>
      dsimp only
      unfold loop
      rw [haborted, if_neg Bool.false_ne_true]
      cases hcheck : s.check with
      | some exit =>
          exact h.leave hrequests hjobs hcheck fun _ => h.prefix_of_drained hvalues
      | none =>
          have hobserved := h.unseen_of_check hcheck (hvisible hvalues)
          rw [hvalues]
          exact ⟨{ h with }, hrequests, hlistening, .quiet hjobs hvalues hobserved⟩

/-- The head of the loop yields as long as nothing ends it. -/
theorem loop_eq_drain (haborted : s.aborted = false) (hcheck : s.check = none) :
    s.loop = s.drain := by
  unfold drain loop
  rw [haborted, hcheck, if_neg Bool.false_ne_true]
  cases s.values <;> rfl

@[simp] theorem yielded_finish (exit : Exit) : (s.finish exit).yielded = s.yielded := by
  have hend : (exit.answer : Answer α).item? = none := by cases exit <;> rfl
  have hrest :
      (s.requests.tail.map fun _ => (Answer.done : Answer α)).filterMap Answer.item? = [] := by
    rw [List.filterMap_eq_nil_iff]
    intro answer hanswer
    obtain ⟨request, -, rfl⟩ := List.mem_map.mp hanswer
    rfl
  show (s.answers ++ exit.answer :: s.requests.tail.map fun _ => Answer.done).filterMap
    Answer.item? = s.yielded
  rw [List.filterMap_append, List.filterMap_cons_none hend, hrest, List.append_nil]
  rfl

/-- The iterator ends as the completion does, after everything that it has promised. -/
theorem Ledger.finish {exit : Exit} (h : s.Ledger []) (hjobs : s.jobs = [])
    (hpromised : s.promised <+: s.yielded)
    (hends : endOf s.completion = some (exit.answer : Answer α)) :
    (s.finish exit).Stands := by
  refine ⟨rfl, hjobs, ?_, ?_, exit.answer, s.requests.tail.length, hends, ?_⟩
  · rw [yielded_finish]
    show s.yielded <+: s.delivered
    rw [← h.conserved, List.append_assoc]
    exact List.prefix_append ..
  · rw [yielded_finish]
    exact hpromised
  · rw [yielded_finish, ← h.answers]
    show s.answers ++ exit.answer :: s.requests.tail.map (fun _ => Answer.done) = _
    rw [List.map_const']

/-- The first `await` is over: no check can see anything yet. -/
theorem Ledger.listen (h : s.Ledger []) (haborted : s.aborted = false) (hrequests : s.requests ≠ [])
    (hlistening : s.listening = false) (hjobs : s.jobs = []) : s.listen.loop.Stands := by
  have hobserved : s.observed = false := by
    by_contra hobserved
    have hlistens := (h.seen (Bool.eq_true_of_not_eq_false hobserved)).1
    rw [hlistening] at hlistens
    cases hlistens
  have hledger : s.listen.Ledger [] :=
    { h with seen := fun hseen => absurd hseen (by show s.observed ≠ true; rw [hobserved]; decide) }
  have hcheck : s.listen.check = none := by
    obtain ⟨hfailure, hsettled⟩ := h.unseen hobserved
    show (if s.completionFailure ≠ .undefined then some (Exit.threw s.completionFailure)
      else if s.completionSettled then some .returned else none) = none
    rw [hfailure, hsettled]
    rfl
  have haborted' : s.listen.aborted = false := haborted
  rw [loop_eq_drain haborted' hcheck]
  refine hledger.drain haborted hrequests rfl ?_ fun _ hseen => ?_
  · show (if s.completion = .pending then s.jobs else s.jobs ++ [Job.observe]) =
      if true = true ∧ s.completion ≠ .pending ∧ s.observed = false then [Job.observe] else []
    rw [hjobs, hobserved]
    by_cases hpending : s.completion = .pending <;> simp [hpending]
  · have hobserved' : s.listen.observed = false := hobserved
    rw [hobserved'] at hseen
    cases hseen

/-- The body that waited is woken. -/
theorem Ledger.afterWait (h : s.Ledger []) (haborted : s.aborted = false)
    (hrequests : s.requests ≠ []) (hlistening : s.listening = true) (hjobs : s.jobs = s.due)
    (hpromised : s.observed = true → s.promised <+: s.yielded)
    (hvisible : s.values = [] → s.observed = true → s.completion ≠ .rejected .undefined) :
    s.afterWait.Stands := by
  unfold SubscriptionIterator.afterWait
  cases hcheck : s.check with
  | some exit => exact h.leave hrequests hjobs hcheck hpromised
  | none => exact h.drain haborted hrequests hlistening hjobs hvisible

theorem answer_of_last (item : α) (hlast : s.requests.tail = []) : s.answer item =
    { s with phase := .yielded, requests := s.requests.tail,
             answers := s.answers ++ [Answer.value item] } := by
  unfold SubscriptionIterator.answer
  dsimp only
  rw [hlast]

/-- An answered request lets the body go on with the next. -/
theorem answer_of_more {request : Request} {rest : List Request} (item : α)
    (hmore : s.requests.tail = request :: rest) : s.answer item =
      resumeWith { s with phase := .yielded, requests := s.requests.tail,
                          answers := s.answers ++ [Answer.value item] } request := by
  unfold SubscriptionIterator.answer
  dsimp only
  rw [hmore]

/-- The consumer gets the value, and may have asked for the next one already. -/
theorem Ledger.answer {item : α} (h : s.Ledger [item]) (haborted : s.aborted = false)
    (hrequests : s.requests ≠ []) (hlistening : s.listening = true) (hjobs : s.jobs = s.due)
    (hvisible : 1 < s.requests.length → s.values = [] → s.observed = true →
      s.completion ≠ .rejected .undefined) : (s.answer item).Stands := by
  obtain ⟨request, rest, hcons⟩ := List.exists_cons_of_ne_nil hrequests
  let t := { s with
    phase := .yielded, requests := s.requests.tail, answers := s.answers ++ [Answer.value item] }
  have htail : t.requests = rest := by
    show s.requests.tail = rest
    rw [hcons]
    rfl
  have hyielded : t.yielded = s.yielded ++ [item] := by
    show (s.answers ++ [Answer.value item]).filterMap Answer.item? = s.yielded ++ [item]
    rw [List.filterMap_append]
    rfl
  have hledger : t.Ledger [] := by
    refine { h with conserved := ?_, answers := ?_, nexts := ?_ }
    · rw [hyielded, List.append_nil]
      exact h.conserved
    · rw [hyielded, List.map_append, ← h.answers]
      rfl
    · intro request hrequest
      exact h.nexts request (List.mem_of_mem_tail hrequest)
  cases rest with
  | nil =>
      rw [answer_of_last item htail]
      exact ⟨hledger, htail, hlistening, hjobs⟩
  | cons request' rest =>
      rw [answer_of_more item htail]
      have hnext := hledger.nexts request' (by rw [htail]; exact List.mem_cons_self ..)
      subst hnext
      have hrequests' : t.requests ≠ [] := by
        rw [htail]
        exact List.cons_ne_nil _ _
      refine hledger.drain haborted hrequests' hlistening hjobs (hvisible ?_)
      rw [hcons]
      simp

/-! ### What each event keeps -/

/-- The continuation of the body runs. -/
theorem Stands.resume {failure : Option Thrown} {rest : List Job} (h : s.Stands)
    (hs : s.Undisturbed) (hjobs : s.jobs = .resume failure :: rest)
    (hvisible : s.EndsVisibly .run) :
    ({ s with jobs := rest }.resume failure).Undisturbed →
      ({ s with jobs := rest }.resume failure).Stands := by
  intro hundisturbed
  obtain ⟨hloop, hunsubscribe⟩ := hvisible hs
  unfold Stands at h
  unfold returnsToLoop at hloop
  unfold failedUnsubscribe at hunsubscribe
  unfold SubscriptionIterator.resume at hundisturbed ⊢
  dsimp only at hundisturbed ⊢
  cases hphase : s.phase with
  | created =>
      rw [hphase] at h
      rw [h.2.2.1] at hjobs
      cases hjobs
  -- SUBSCRIBE has settled: the loop begins, or the failure ends the iteration
  | subscribing =>
      rw [hphase] at h hundisturbed
      obtain ⟨hledger, hrequests, hlistening, hnone | ⟨failure', hone⟩⟩ := h
      · rw [hnone] at hjobs
        cases hjobs
      · rw [hone] at hjobs
        cases hjobs
        cases failure with
        | none =>
            exact Ledger.listen (s := { s with jobs := [] }) { hledger with } hs.1 hrequests
              hlistening rfl
        | some error => cases hundisturbed.2.2
  | parked =>
      rw [hphase] at h
      obtain ⟨hledger, hrequests, hlistening, hparked⟩ := h
      cases hparked with
      | quiet hquiet =>
          rw [hquiet, due_eq_cons_iff] at hjobs
          cases hjobs.2.1
      | late hlate =>
          rw [hlate] at hjobs
          cases hjobs
      -- the promise of the wait has settled, and the loop looks at the queue again
      | woken hwoken hvalues hpromised =>
          rw [hwoken] at hjobs
          cases hjobs
          refine Ledger.afterWait (s := { s with jobs := s.due }) { hledger with } hs.1 hrequests
            hlistening rfl hpromised (hloop ?_)
          rw [hwoken, hphase]
  -- `return` was called while the value was handed out, or the loop goes on
  | yielding item =>
      rw [hphase] at h
      obtain ⟨hledger, hrequests, hlistening, hcases⟩ := h
      have hdue : rest = s.due := by
        cases hcases with
        | inl hfirst =>
            rw [hfirst] at hjobs
            cases hjobs
            rfl
        | inr hlast =>
            rw [hlast] at hjobs
            cases hdue : s.due with
            | nil =>
                rw [hdue] at hjobs
                cases hjobs
                rfl
            | cons job jobs =>
                obtain ⟨-, rfl, -⟩ := due_eq_cons_iff.mp hdue
                rw [hdue] at hjobs
                cases hjobs
      refine Ledger.answer (s := { s with jobs := rest }) { hledger with } hs.1 hrequests
        hlistening hdue ?_
      intro hmore
      refine hloop ?_
      rw [hjobs, hphase]
      exact decide_eq_true hmore
  | yielded =>
      rw [hphase] at h
      rw [h.2.2.2, due_eq_cons_iff] at hjobs
      cases hjobs.2.1
  | returning =>
      rw [hphase] at h
      exact h.elim
  -- the `finally` block: after UNSUBSCRIBE it awaits the completion
  | unsubscribing exit =>
      rw [hphase] at h
      obtain ⟨hledger, hrequests, hleft, hnone | ⟨failure', hone⟩⟩ := h
      · rw [hnone] at hjobs
        cases hjobs
      · rw [hjobs, hphase] at hunsubscribe
        rw [hone] at hjobs
        cases hjobs
        cases failure with
        | none =>
            refine ⟨{ hledger with }, hrequests, { hleft with }, ?_⟩
            show (if s.observed = true then [] ++ [Job.resume none] else []) = [Job.resume none]
            rw [if_pos hleft.observed]
            rfl
        | some error =>
            refine Ledger.finish (s := { s with jobs := [] }) { hledger with } rfl hleft.promised ?_
            show endOf s.completion = some (Answer.threw error)
            rw [hunsubscribe error rfl]
            rfl
  -- the last await of the `finally` block
  | observing exit =>
      rw [hphase] at h
      obtain ⟨hledger, hrequests, hleft, hone⟩ := h
      rw [hone] at hjobs
      cases hjobs
      exact Ledger.finish (s := { s with jobs := [] }) { hledger with } rfl hleft.promised
        hleft.ends
  | completed =>
      rw [hphase] at h
      rw [h.jobs] at hjobs
      cases hjobs

theorem Ledger.note (h : s.Ledger held) (hlistening : s.listening = true)
    (hsettled : s.completion ≠ .pending) (hobserved : s.observed = false) : s.note.Ledger held := by
  obtain ⟨hfailure, hflag⟩ := h.unseen hobserved
  refine { h with unseen := fun hunseen => (by cases hunseen), seen := fun _ => ⟨hlistening, ?_⟩ }
  unfold Sees SubscriptionIterator.note
  dsimp only
  cases hcompletion : s.completion with
  | pending => exact absurd hcompletion hsettled
  | resolved => exact Or.inl ⟨rfl, hfailure, rfl⟩
  | rejected error => exact Or.inr ⟨rfl, hflag⟩

theorem wake_of_not_resumed (hphase : s.phase = .parked) (hjobs : s.isResumed = false) :
    s.wake = s.enqueue (.resume none) := by
  unfold wake
  rw [hphase, hjobs]
  rfl

theorem wake_of_ne {phase : Phase α} (hphase : s.phase = phase) (hne : phase ≠ .parked) :
    s.wake = s := by
  unfold wake
  subst hphase
  split
  · rename_i hparked
    exact absurd hparked hne
  · rfl

theorem wake_of_resumed (hjobs : s.isResumed = true) : s.wake = s := by
  unfold wake
  cases s.phase with
  | parked => exact if_pos hjobs
  | _ => rfl

theorem observe_eq_wake (hphase : ∀ exit, s.phase ≠ .observing exit) :
    s.observe = s.note.wake := by
  unfold observe
  split
  · rename_i exit hobserving
    exact absurd hobserving (hphase exit)
  · rfl

/-- The reaction of the completion runs. -/
theorem Stands.observe {rest : List Job} (h : s.Stands) (hjobs : s.jobs = .observe :: rest) :
    ({ s with jobs := rest }.observe).Stands := by
  let t : SubscriptionIterator α := { s with jobs := rest }
  unfold Stands at h
  have hwakes : (∀ exit, s.phase ≠ .observing exit) → t.note.wake.Stands → t.observe.Stands :=
    fun hphase hstands => (observe_eq_wake (s := t) hphase).symm ▸ hstands
  show t.observe.Stands
  cases hphase : s.phase with
  | created =>
      rw [hphase] at h
      rw [h.2.2.1] at hjobs
      cases hjobs
  | subscribing =>
      rw [hphase] at h
      obtain ⟨-, -, -, hnone | ⟨failure, hone⟩⟩ := h
      · rw [hnone] at hjobs
        cases hjobs
      · rw [hone] at hjobs
        cases hjobs
  | parked =>
      rw [hphase] at h
      obtain ⟨hledger, hrequests, hlistening, hparked⟩ := h
      have hparks : t.note.phase = .parked := hphase
      cases hparked with
      -- the completion wakes the wait
      | quiet hquiet hvalues hobserved =>
          rw [hquiet, due_eq_cons_iff] at hjobs
          obtain ⟨⟨-, hsettled, -⟩, -, rfl⟩ := hjobs
          have hnote : t.note.Ledger [] :=
            Ledger.note (s := t) { hledger with } hlistening hsettled hobserved
          refine hwakes (fun _ h => by cases hphase.symm.trans h) ?_
          rw [wake_of_not_resumed hparks rfl]
          refine Parked.stands ?_ hphase { hnote with } hrequests hlistening
          refine .woken ?_ (fun _ => rfl) fun _ => hledger.prefix_of_drained hvalues
          rw [due_of_observed rfl]
          rfl
      | woken hwoken =>
          rw [hwoken] at hjobs
          cases hjobs
      -- a value or an abort has woken it before
      | late hlate hvalues hpromised hobserved hsettled =>
          rw [hlate] at hjobs
          cases hjobs
          have hnote : t.note.Ledger [] :=
            Ledger.note (s := t) { hledger with } hlistening hsettled hobserved
          refine hwakes (fun _ h => by cases hphase.symm.trans h) ?_
          rw [wake_of_resumed rfl]
          refine Parked.stands ?_ hphase hnote hrequests hlistening
          refine .woken ?_ (fun hempty => absurd hempty hvalues) fun _ => hpromised
          rw [due_of_observed rfl]
          rfl
  | yielding item =>
      rw [hphase] at h
      obtain ⟨hledger, hrequests, hlistening, hfirst | hlast⟩ := h
      · rw [hfirst] at hjobs
        cases hjobs
      · cases hdue : s.due with
        | nil =>
            rw [hlast, hdue] at hjobs
            cases hjobs
        | cons job jobs =>
            obtain ⟨⟨-, hsettled, hobserved⟩, rfl, rfl⟩ := due_eq_cons_iff.mp hdue
            rw [hlast, hdue] at hjobs
            cases hjobs
            have hnote : t.note.Ledger [item] :=
              Ledger.note (s := t) { hledger with } hlistening hsettled hobserved
            refine hwakes (fun _ h => by cases hphase.symm.trans h) ?_
            rw [wake_of_resumed rfl]
            unfold Stands
            rw [show t.note.phase = .yielding item from hphase]
            exact ⟨hnote, hrequests, hlistening, Or.inl (by rw [due_of_observed rfl]; rfl)⟩
  -- nobody waits; the next round of the loop finds what was noted
  | yielded =>
      rw [hphase] at h
      obtain ⟨hledger, hrequests, hlistening, hdue⟩ := h
      rw [hdue, due_eq_cons_iff] at hjobs
      obtain ⟨⟨-, hsettled, hobserved⟩, -, rfl⟩ := hjobs
      have hnote : t.note.Ledger [] :=
        Ledger.note (s := t) { hledger with } hlistening hsettled hobserved
      have hyields : t.note.phase = .yielded := hphase
      refine hwakes (fun _ h => by cases hphase.symm.trans h) ?_
      rw [wake_of_ne hyields (fun hparks => by cases hparks)]
      unfold Stands
      rw [hyields]
      exact ⟨hnote, hrequests, hlistening, by rw [due_of_observed rfl]; rfl⟩
  | returning =>
      rw [hphase] at h
      exact h.elim
  | unsubscribing exit =>
      rw [hphase] at h
      obtain ⟨-, -, -, hnone | ⟨failure, hone⟩⟩ := h
      · rw [hnone] at hjobs
        cases hjobs
      · rw [hone] at hjobs
        cases hjobs
  | observing exit =>
      rw [hphase] at h
      rw [h.2.2.2] at hjobs
      cases hjobs
  | completed =>
      rw [hphase] at h
      rw [h.jobs] at hjobs
      cases hjobs

theorem wake_eq (s : SubscriptionIterator α) : ∃ jobs, s.wake = { s with jobs } := by
  unfold wake
  split
  · split
    · exact ⟨s.jobs, rfl⟩
    · exact ⟨s.jobs ++ [Job.resume none], rfl⟩
  · exact ⟨s.jobs, rfl⟩

theorem push_promised (item : α) (hsettled : s.completion ≠ .pending) :
    (s.push item).promised = s.promised := if_neg hsettled

theorem push_values_ne_nil (item : α) : (s.push item).values ≠ [] :=
  List.append_ne_nil_of_right_ne_nil _ (List.cons_ne_nil _ _)

/-- A notification comes. -/
theorem Ledger.push (h : s.Ledger held) (item : α) : (s.push item).Ledger held := by
  refine { h with conserved := ?_, promised := ?_, pending := ?_ }
  · show s.yielded ++ held ++ (s.values ++ [item]) = s.delivered ++ [item]
    rw [← h.conserved, List.append_assoc]
    simp
  · show (s.push item).promised <+: s.delivered ++ [item]
    by_cases hpending : s.completion = .pending
    · have hpushed : (s.push item).promised = s.promised ++ [item] := if_pos hpending
      exact ⟨[], by rw [List.append_nil, hpushed, h.pending hpending]⟩
    · rw [push_promised item hpending]
      exact h.promised.trans (List.prefix_append ..)
  · intro hpending
    have hpending : s.completion = .pending := hpending
    show (if s.completion = .pending then s.promised ++ [item] else s.promised) =
      s.delivered ++ [item]
    rw [if_pos hpending, h.pending hpending]

/-- A notification for a body that waits to be woken. -/
theorem Parked.handler (item : α) (h : s.Parked) (hledger : s.Ledger [])
    (hphase : s.phase = .parked) : (s.handler item).Parked := by
  show (s.push item).wake.Parked
  cases h with
  | quiet hquiet hvalues hobserved =>
      have hresumed : (s.push item).isResumed = false := by
        show s.jobs.any Job.isResume = false
        rw [hquiet]
        unfold due
        split <;> rfl
      have hparks : (s.push item).phase = .parked := hphase
      rw [wake_of_not_resumed hparks hresumed]
      cases hdue : s.due with
      | nil =>
          refine .woken ?_ (fun hempty => absurd hempty (push_values_ne_nil item)) ?_
          · show s.jobs ++ [Job.resume none] = Job.resume none :: s.due
            rw [hquiet, hdue]
            rfl
          · intro hseen
            have hseen : s.observed = true := hseen
            rw [hobserved] at hseen
            cases hseen
      | cons job jobs =>
          -- the completion has settled and its reaction comes first: nothing new is promised
          obtain ⟨⟨-, hsettled, -⟩, rfl, rfl⟩ := due_eq_cons_iff.mp hdue
          refine .late ?_ (push_values_ne_nil item) ?_ hobserved hsettled
          · show s.jobs ++ [Job.resume none] = [Job.observe, Job.resume none]
            rw [hquiet, hdue]
            rfl
          · show (s.push item).promised <+: s.yielded
            rw [push_promised item hsettled]
            exact hledger.prefix_of_drained hvalues
  | woken hwoken hvalues hpromised =>
      have hresumed : (s.push item).isResumed = true := by
        show s.jobs.any Job.isResume = true
        rw [hwoken]
        rfl
      rw [wake_of_resumed hresumed]
      refine .woken hwoken (fun hempty => absurd hempty (push_values_ne_nil item)) ?_
      intro hobserved
      rw [push_promised item (hledger.settled_of_observed hobserved)]
      exact hpromised hobserved
  | late hlate hvalues hpromised hobserved hsettled =>
      have hresumed : (s.push item).isResumed = true := by
        show s.jobs.any Job.isResume = true
        rw [hlate]
        rfl
      rw [wake_of_resumed hresumed]
      refine .late hlate (push_values_ne_nil item) ?_ hobserved hsettled
      rw [push_promised item hsettled]
      exact hpromised

theorem Left.push {exit : Exit} (item : α) (h : s.Left exit) (hsettled : s.completion ≠ .pending) :
    (s.push item).Left exit where
  observed := h.observed
  promised := by
    rw [push_promised item hsettled]
    exact h.promised
  ends := h.ends

theorem settled_of_ends {completion : Completion} {answer : Answer α}
    (h : endOf completion = some answer) : completion ≠ .pending := by
  intro hpending
  rw [hpending] at h
  cases h

/-- A notification is buffered, and wakes the body. -/
theorem Stands.handler (item : α) (h : s.Stands) (hcreated : s.phase ≠ .created) :
    (s.handler item).Stands := by
  unfold Stands at h
  by_cases hparked : s.phase = .parked
  · rw [hparked] at h
    obtain ⟨hledger, hrequests, hlistening, hwaits⟩ := h
    have hwaits := hwaits.handler item hledger hparked
    obtain ⟨jobs, hwake⟩ := wake_eq (s.push item)
    unfold SubscriptionIterator.handler at hwaits ⊢
    rw [hwake] at hwaits ⊢
    exact hwaits.stands hparked { hledger.push item with } hrequests hlistening
  · have hwake : s.handler item = s.push item := wake_of_ne rfl hparked
    rw [hwake]
    unfold Stands
    rw [show (s.push item).phase = s.phase from rfl]
    cases hphase : s.phase with
    | created => exact absurd hphase hcreated
    | parked => exact absurd hphase hparked
    | subscribing | yielding _ | yielded =>
        rw [hphase] at h
        exact ⟨h.1.push item, h.2⟩
    | returning =>
        rw [hphase] at h
        exact h.elim
    | unsubscribing exit | observing exit =>
        rw [hphase] at h
        obtain ⟨hledger, hrequests, hleft, hjobs⟩ := h
        exact ⟨hledger.push item, hrequests, hleft.push item (settled_of_ends hleft.ends), hjobs⟩
    | completed =>
        rw [hphase] at h
        obtain ⟨last, n, hlast, hanswers⟩ := h.ends
        refine ⟨h.requests, h.jobs, h.inOrder.trans (List.prefix_append ..), ?_, last, n, hlast,
          hanswers⟩
        rw [push_promised item (settled_of_ends hlast)]
        exact h.promised

/-- The completion settles. -/
theorem Ledger.settle {completion : Completion} (h : s.Ledger held)
    (hpending : s.completion = .pending)
    (hsettles : completion ≠ .pending) : (s.settle completion).Ledger held :=
  { h with
    pending := fun hstill => absurd hstill hsettles
    seen := fun hobserved => absurd hpending (h.settled_of_observed hobserved) }

/-- A completion that settles behind a listening body queues its reaction. -/
theorem Ledger.queues_reaction {completion : Completion} (h : s.Ledger held)
    (hlistening : s.listening = true) (hpending : s.completion = .pending)
    (hsettles : completion ≠ .pending) : (s.settle completion).due = [Job.observe] ∧
      (s.settle completion).jobs = s.jobs ++ [Job.observe] :=
  ⟨if_pos ⟨hlistening, hsettles, h.unobserved hpending⟩, if_pos hlistening⟩

/-- The completion settles, and its reaction is due. -/
theorem Stands.settle {completion : Completion} (h : s.Stands) (hcreated : s.phase ≠ .created)
    (hpending : s.completion = .pending) (hsettles : completion ≠ .pending) :
    (s.settle completion).Stands := by
  have hnone := due_of_pending hpending
  unfold Stands at h ⊢
  rw [show (s.settle completion).phase = s.phase from rfl]
  cases hphase : s.phase with
  | created => exact absurd hphase hcreated
  | subscribing =>
      rw [hphase] at h
      obtain ⟨hledger, hrequests, hlistening, hjobs⟩ := h
      refine ⟨hledger.settle hpending hsettles, hrequests, hlistening, ?_⟩
      have hsame : (s.settle completion).jobs = s.jobs := if_neg (by rw [hlistening]; decide)
      rw [hsame]
      exact hjobs
  | parked =>
      rw [hphase] at h
      obtain ⟨hledger, hrequests, hlistening, hparked⟩ := h
      refine ⟨hledger.settle hpending hsettles, hrequests, hlistening, ?_⟩
      obtain ⟨hdue, hjobs⟩ := hledger.queues_reaction hlistening hpending hsettles
      cases hparked with
      | quiet hquiet hvalues =>
          refine .quiet ?_ hvalues (hledger.unobserved hpending)
          rw [hjobs, hquiet, hnone, hdue]
          rfl
      -- the wait is over already; the reaction comes after it
      | woken hwoken hvalues hpromised =>
          refine .woken ?_ hvalues hpromised
          rw [hjobs, hwoken, hnone, hdue]
          rfl
      | late _ _ _ _ hsettled => exact absurd hpending hsettled
  | yielding item =>
      rw [hphase] at h
      obtain ⟨hledger, hrequests, hlistening, hcases⟩ := h
      obtain ⟨hdue, hjobs⟩ := hledger.queues_reaction hlistening hpending hsettles
      refine ⟨hledger.settle hpending hsettles, hrequests, hlistening, Or.inl ?_⟩
      rw [hnone] at hcases
      rw [hjobs, hdue]
      obtain hcases | hcases := hcases <;> rw [hcases] <;> rfl
  | yielded =>
      rw [hphase] at h
      obtain ⟨hledger, hrequests, hlistening, hjobs'⟩ := h
      obtain ⟨hdue, hjobs⟩ := hledger.queues_reaction hlistening hpending hsettles
      refine ⟨hledger.settle hpending hsettles, hrequests, hlistening, ?_⟩
      rw [hjobs, hdue, hjobs', hnone]
      rfl
  | returning =>
      rw [hphase] at h
      exact h.elim
  -- the loop is left only after the completion
  | unsubscribing exit | observing exit =>
      rw [hphase] at h
      exact absurd hpending (settled_of_ends h.2.2.1.ends)
  | completed =>
      rw [hphase] at h
      obtain ⟨last, n, hlast, -⟩ := h.ends
      exact absurd hpending (settled_of_ends hlast)

/-- `subscribe` or `unsubscribe` returns. -/
theorem Stands.enqueue {failure : Option Thrown} (h : s.Stands) (hresumed : s.isResumed = false)
    (hphase : s.phase = .subscribing ∨ ∃ exit, s.phase = .unsubscribing exit) :
    (s.enqueue (.resume failure)).Stands := by
  have hjobs : (s.jobs = [] ∨ ∃ failure, s.jobs = [Job.resume failure]) → s.jobs = [] := by
    intro hcases
    obtain hnone | ⟨failure', hone⟩ := hcases
    · exact hnone
    · unfold isResumed at hresumed
      rw [hone] at hresumed
      cases hresumed
  have hone : s.jobs = [] → (s.enqueue (.resume failure)).jobs = [Job.resume failure] := by
    intro hnone
    show s.jobs ++ [Job.resume failure] = [Job.resume failure]
    rw [hnone]
    rfl
  unfold Stands at h ⊢
  rw [show (s.enqueue (.resume failure)).phase = s.phase from rfl]
  obtain hphase | ⟨exit, hphase⟩ := hphase
  · rw [hphase] at h ⊢
    obtain ⟨hledger, hrequests, hlistening, hcases⟩ := h
    exact ⟨{ hledger with }, hrequests, hlistening, Or.inr ⟨failure, hone (hjobs hcases)⟩⟩
  · rw [hphase] at h ⊢
    obtain ⟨hledger, hrequests, hleft, hcases⟩ := h
    exact ⟨{ hledger with }, hrequests, { hleft with }, Or.inr ⟨failure, hone (hjobs hcases)⟩⟩

theorem Ledger.queue (h : s.Ledger held) : (s.queue .next).Ledger held := by
  refine { h with nexts := ?_ }
  intro request hrequest
  obtain hrequest | hrequest := List.mem_append.mp hrequest
  · exact h.nexts request hrequest
  · exact List.mem_singleton.mp hrequest

theorem queue_ne_nil (request : Request) : (s.queue request).requests ≠ [] :=
  List.append_ne_nil_of_right_ne_nil _ (List.cons_ne_nil _ _)

/-- The consumer calls `next`. -/
theorem Stands.ask (h : s.Stands) (haborted : s.aborted = false)
    (hvisible : s.returnsToLoop (.request .next) = true → s.values = [] → s.observed = true →
      s.completion ≠ .rejected .undefined) : (s.ask .next).Stands := by
  unfold Stands at h
  unfold SubscriptionIterator.ask
  unfold returnsToLoop at hvisible
  cases hphase : s.phase with
  | created =>
      rw [hphase] at h
      obtain ⟨hledger, hrequests, hjobs, hlistening⟩ := h
      exact ⟨{ hledger.queue with }, queue_ne_nil .next, hlistening, Or.inl hjobs⟩
  | subscribing | yielding _ =>
      rw [hphase] at h
      obtain ⟨hledger, hrequests, hlistening, hjobs⟩ := h
      unfold Stands
      dsimp only
      rw [show (s.queue .next).phase = _ from hphase]
      exact ⟨hledger.queue, queue_ne_nil .next, hlistening, hjobs⟩
  | parked =>
      rw [hphase] at h
      obtain ⟨hledger, hrequests, hlistening, hparked⟩ := h
      refine Parked.stands ?_ hphase hledger.queue (queue_ne_nil .next) hlistening
      cases hparked with
      | quiet hquiet hvalues hobserved => exact .quiet hquiet hvalues hobserved
      | woken hwoken hvalues hpromised => exact .woken hwoken hvalues hpromised
      | late hlate hvalues hpromised hobserved hsettled =>
          exact .late hlate hvalues hpromised hobserved hsettled
  -- the loop goes on where it has yielded
  | yielded =>
      rw [hphase] at h hvisible
      obtain ⟨hledger, hrequests, hlistening, hjobs⟩ := h
      exact hledger.queue.drain haborted (queue_ne_nil .next) hlistening hjobs (hvisible rfl)
  | returning =>
      rw [hphase] at h
      exact h.elim
  | unsubscribing exit | observing exit =>
      rw [hphase] at h
      obtain ⟨hledger, hrequests, hleft, hjobs⟩ := h
      unfold Stands
      dsimp only
      rw [show (s.queue .next).phase = _ from hphase]
      exact ⟨hledger.queue, queue_ne_nil .next, { hleft with }, hjobs⟩
  -- a completed iterator answers at once
  | completed =>
      rw [hphase] at h
      obtain ⟨last, n, hlast, hanswers⟩ := h.ends
      refine ⟨rfl, h.jobs, ?_, ?_, last, n + 1, hlast, ?_⟩
      · rw [yielded_finish]
        exact h.inOrder
      · rw [yielded_finish]
        exact h.promised
      · rw [yielded_finish]
        show s.answers ++ Answer.done ::
          (s.requests ++ [Request.next]).tail.map (fun _ => Answer.done) =
            s.yielded.map Answer.value ++ last :: List.replicate (n + 1) .done
        rw [hanswers, h.requests, List.append_assoc, List.replicate_succ']
        rfl

end SubscriptionIterator

end FitzTs
