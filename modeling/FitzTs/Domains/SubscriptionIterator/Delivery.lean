import FitzTs.Domains.SubscriptionIterator.Invariant
/-!
# FitzTs.Domains.SubscriptionIterator.Delivery

The runs of a subscription iterator.

The iterator is used inside the library only. Its subscriptions are handles of
`createSubscriptionController`: their completion is rejected with an `AsyncHandlerOverflowError`
or a `NoticeError`, and their `unsubscribe` does not fail once it has settled
(`unsubscribe_fulfils`). That is what `Promises` asks of them.

## Main results

* `losesNothing_throughout` — every notification that comes before the completion settles is yielded
  before the iterator ends, and it ends as the completion does.
* `losesNothing_throughout_iff` — of any subscription: exactly when the body never comes to wait
  after the completion has been rejected with `undefined`, and unsubscribing, once the completion
  has settled, does not fail.
-/

namespace FitzTs

open FitzTs.Core (Thrown Completion)

namespace SubscriptionIterator

variable {α : Type*} {s : SubscriptionIterator α} {held : List α}

/-! ### Disturbances -/

/-- Whether the iterator was aborted, returned early or refused. -/
def disturbances (s : SubscriptionIterator α) : Bool × Bool × Bool :=
  (s.aborted, s.returned, s.refused)

/-- Three flags disturb an iterator. -/
theorem undisturbed_iff : s.Undisturbed ↔ s.disturbances = (false, false, false) := by
  unfold Undisturbed disturbances
  simp only [Prod.mk.injEq]

@[simp] theorem wake_disturbances : s.wake.disturbances = s.disturbances := by
  obtain ⟨jobs, hwake⟩ := wake_eq s
  rw [hwake]
  rfl

@[simp] theorem loop_disturbances : s.loop.disturbances = s.disturbances := by
  unfold loop
  split
  · rfl
  · split
    · rfl
    · split <;> rfl

@[simp] theorem drain_disturbances : s.drain.disturbances = s.disturbances := by
  unfold drain
  split
  · exact loop_disturbances
  · rfl

@[simp] theorem afterWait_disturbances : s.afterWait.disturbances = s.disturbances := by
  unfold afterWait
  split
  · rfl
  · exact drain_disturbances

@[simp] theorem resumeWith_disturbances (request : Request) :
    (s.resumeWith request).disturbances = s.disturbances := by
  cases request with
  | next => exact drain_disturbances
  | «return» => rfl

@[simp] theorem answer_disturbances (item : α) : (s.answer item).disturbances = s.disturbances := by
  unfold answer
  dsimp only
  split
  · rfl
  · rw [resumeWith_disturbances]
    rfl

theorem Undisturbed.of_eq {t : SubscriptionIterator α} (ht : t.Undisturbed)
    (heq : t.disturbances = s.disturbances) : s.Undisturbed := by
  rw [undisturbed_iff] at ht ⊢
  rw [← heq]
  exact ht

/-- An iterator that is undisturbed after the body has gone on was so before. -/
theorem Undisturbed.of_resume {failure : Option Thrown}
    (h : (s.resume failure).Undisturbed) : s.Undisturbed := by
  unfold resume at h
  split at h
  · exact h.of_eq loop_disturbances
  · cases h.2.2
  · exact h.of_eq afterWait_disturbances
  · exact h.of_eq (answer_disturbances _)
  all_goals exact h

/-- An iterator that is undisturbed after a call was so before. -/
theorem Undisturbed.of_ask {request : Request} (h : (s.ask request).Undisturbed) :
    s.Undisturbed := by
  unfold ask at h
  split at h
  · exact h
  · exact h
  · exact h
  · exact h.of_eq (resumeWith_disturbances _)
  · exact h

theorem observe_disturbances : s.observe.disturbances = s.disturbances := by
  unfold observe
  split
  · rfl
  · rw [wake_disturbances]
    rfl

/-- A disturbance lasts. -/
theorem Undisturbed.of_step {e : Event α} {t : SubscriptionIterator α} (h : s.step e = some t)
    (ht : t.Undisturbed) : s.Undisturbed := by
  unfold step at h
  cases e with
  | request request =>
      cases request with
      | next =>
          obtain rfl := Option.some.inj h
          exact ht.of_ask
      | «return» =>
          obtain rfl := Option.some.inj h
          cases ht.2.1
  | notify item =>
      dsimp only at h
      split at h
      · cases h
      · obtain rfl := Option.some.inj h
        exact ht.of_eq wake_disturbances
  | complete failure =>
      dsimp only at h
      split at h
      · cases h
      · obtain rfl := Option.some.inj h
        exact ht
      · cases h
  | abort =>
      obtain ⟨-, h⟩ := Option.ite_none_left_eq_some.mp h
      obtain rfl := Option.some.inj h
      have habort := ht.of_eq wake_disturbances
      cases habort.1
  | subscribed failure | unsubscribed failure =>
      dsimp only at h
      split at h
      · obtain ⟨-, h⟩ := Option.ite_none_left_eq_some.mp h
        obtain rfl := Option.some.inj h
        exact ht
      · cases h
  | run =>
      dsimp only at h
      split at h
      · cases h
      · obtain rfl := Option.some.inj h
        exact ht.of_resume
      · obtain rfl := Option.some.inj h
        exact ht.of_eq observe_disturbances

/-! ### Runs -/

/-- What the invariant says of an undisturbed iterator is enough. -/
theorem Stands.faithful (h : s.Stands) : s.Faithful := by
  -- nothing is lost, and nothing overtakes
  have hledger : ∀ held, s.Ledger held → s.yielded <+: s.delivered := by
    intro held hledger
    rw [← hledger.conserved, List.append_assoc]
    exact List.prefix_append ..
  unfold Stands at h
  cases hphase : s.phase with
  | created | yielded =>
      rw [hphase] at h
      exact ⟨hledger _ h.1, Or.inl h.1.answers, fun _ hsome => absurd h.2.1 hsome⟩
  | subscribing =>
      rw [hphase] at h
      exact ⟨hledger _ h.1, Or.inl h.1.answers, fun _ _ => Or.inl hphase⟩
  | parked =>
      rw [hphase] at h
      obtain ⟨hbooks, -, hlistening, hparked⟩ := h
      refine ⟨hledger _ hbooks, Or.inl hbooks.answers, ?_⟩
      intro hjobs _
      cases hparked with
      | quiet hquiet hvalues hobserved =>
          refine Or.inr (Or.inr ⟨hphase, hvalues, ?_⟩)
          -- a completion that has settled would have its reaction due
          by_contra hsettled
          have hdue : s.due = [.observe] := if_pos ⟨hlistening, hsettled, hobserved⟩
          rw [hquiet, hdue] at hjobs
          cases hjobs
      | woken hwoken =>
          rw [hwoken] at hjobs
          cases hjobs
      | late hlate =>
          rw [hlate] at hjobs
          cases hjobs
  | yielding item =>
      rw [hphase] at h
      obtain ⟨hbooks, -, -, hcases⟩ := h
      refine ⟨hledger _ hbooks, Or.inl hbooks.answers, ?_⟩
      intro hjobs
      rw [hjobs] at hcases
      obtain hcases | hcases := hcases
      · cases hcases
      · exact absurd hcases.symm (List.append_ne_nil_of_right_ne_nil _ (List.cons_ne_nil _ _))
  | returning =>
      rw [hphase] at h
      exact h.elim
  | unsubscribing exit =>
      rw [hphase] at h
      exact ⟨hledger _ h.1, Or.inl h.1.answers, fun _ _ => Or.inr (Or.inl ⟨exit, hphase⟩)⟩
  | observing exit =>
      rw [hphase] at h
      obtain ⟨hbooks, -, -, hone⟩ := h
      refine ⟨hledger _ hbooks, Or.inl hbooks.answers, ?_⟩
      intro hjobs
      rw [hone] at hjobs
      cases hjobs
  | completed =>
      rw [hphase] at h
      exact ⟨h.inOrder, Or.inr ⟨h.promised, h.ends⟩, fun _ hsome => absurd h.requests hsome⟩

/-- The invariant of the runs in which the iterator ends visibly. -/
def Keeps (s : SubscriptionIterator α) : Prop := s.Undisturbed → s.Stands

theorem keeps_init : (machine (α := α)).init.Keeps := by
  intro _
  refine ⟨⟨rfl, List.prefix_rfl, fun _ => rfl, fun _ => ⟨rfl, rfl⟩, fun h => (by cases h), rfl, ?_⟩,
    rfl, rfl, rfl⟩
  intro request hrequest
  cases hrequest

/-- The step lemma: where the iterator ends visibly it stands as it should. -/
theorem Keeps.step {e : Event α} {t : SubscriptionIterator α} (h : s.Keeps) (hK : s.EndsVisibly e)
    (hst : s.step e = some t) : t.Keeps := by
  intro ht
  have hs := ht.of_step hst
  have hstands := h hs
  unfold SubscriptionIterator.step at hst
  cases e with
  | request request =>
      cases request with
      | next =>
          obtain rfl := Option.some.inj hst
          exact hstands.ask hs.1 (hK hs).1
      | «return» =>
          -- `return` disturbs the iterator
          obtain rfl := Option.some.inj hst
          cases ht.2.1
  | notify item =>
      dsimp only at hst
      split at hst
      · cases hst
      · rename_i hcreated
        obtain rfl := Option.some.inj hst
        exact hstands.handler item hcreated
  | complete failure =>
      dsimp only at hst
      split at hst
      · cases hst
      · rename_i hpending hcreated
        obtain rfl := Option.some.inj hst
        refine hstands.settle hcreated hpending ?_
        cases failure with
        | none => exact fun hstill => by cases hstill
        | some error => exact fun hstill => by cases hstill
      · cases hst
  | abort =>
      obtain ⟨-, hst⟩ := Option.ite_none_left_eq_some.mp hst
      obtain rfl := Option.some.inj hst
      have habort := ht.of_eq wake_disturbances
      cases habort.1
  | subscribed failure =>
      dsimp only at hst
      split at hst
      · rename_i hphase
        obtain ⟨hresumed, hst⟩ := Option.ite_none_left_eq_some.mp hst
        obtain rfl := Option.some.inj hst
        exact hstands.enqueue (Bool.eq_false_of_not_eq_true hresumed) (Or.inl hphase)
      · cases hst
  | unsubscribed failure =>
      dsimp only at hst
      split at hst
      · rename_i exit hphase
        obtain ⟨hresumed, hst⟩ := Option.ite_none_left_eq_some.mp hst
        obtain rfl := Option.some.inj hst
        exact hstands.enqueue (Bool.eq_false_of_not_eq_true hresumed) (Or.inr ⟨exit, hphase⟩)
      · cases hst
  | run =>
      dsimp only at hst
      split at hst
      · cases hst
      · rename_i failure rest hjobs
        obtain rfl := Option.some.inj hst
        exact hstands.resume hs hjobs hK ht
      · rename_i rest hjobs
        obtain rfl := Option.some.inj hst
        exact hstands.observe hjobs

/-! ### What goes wrong otherwise -/

/-- A completion rejected with `undefined` looks like one that has not settled. -/
theorem Ledger.check_eq_none (h : s.Ledger held) (hobserved : s.observed = true)
    (hrejected : s.completion = .rejected .undefined) : s.check = none := by
  unfold check
  cases (h.seen hobserved).2 with
  | inl hresolved =>
      rw [hrejected] at hresolved
      cases hresolved.1
  | inr hseen =>
      rw [hrejected] at hseen
      rw [← Completion.rejected.inj hseen.1, hseen.2]
      rfl

/-- With nothing to yield and no end in sight the body waits. -/
theorem drain_eq_park (haborted : s.aborted = false) (hvalues : s.values = [])
    (hcheck : s.check = none) : s.drain = s.park := by
  unfold drain
  rw [hvalues]
  dsimp only
  unfold loop
  rw [haborted, hcheck, hvalues, if_neg Bool.false_ne_true]

/-- The body answers with an item and waits, if more has been asked for. -/
theorem answer_eq_park (item : α) (haborted : s.aborted = false)
    (hmore : 1 < s.requests.length) (hnexts : ∀ request ∈ s.requests, request = .next)
    (hvalues : s.values = []) (hcheck : s.check = none) : ∃ s' : SubscriptionIterator α,
      s.answer item = s'.park ∧ s'.requests ≠ [] ∧ s'.jobs = s.jobs ∧
        s'.completion = s.completion ∧ s'.disturbances = s.disturbances := by
  let t : SubscriptionIterator α := { s with
    phase := .yielded, requests := s.requests.tail, answers := s.answers ++ [Answer.value item] }
  cases hrequests : t.requests with
  | nil =>
      have hlength := congrArg List.length hrequests
      rw [List.length_tail, List.length_nil] at hlength
      omega
  | cons request rest =>
      have hnext : request = .next := by
        refine hnexts request (List.mem_of_mem_tail ?_)
        show request ∈ t.requests
        rw [hrequests]
        exact List.mem_cons_self ..
      subst hnext
      refine ⟨t, ?_, by rw [hrequests]; exact List.cons_ne_nil _ _, rfl, rfl, rfl⟩
      rw [answer_of_more item hrequests]
      exact drain_eq_park (s := t) haborted hvalues hcheck

/-- A body that waits after the completion was rejected with `undefined` waits for ever. -/
theorem not_faithful_park (hrequests : s.requests ≠ []) (hjobs : s.jobs = [])
    (hrejected : s.completion = .rejected .undefined) : ¬ s.park.Faithful := by
  intro h
  obtain hphase | ⟨exit, hphase⟩ | ⟨-, -, hpending⟩ := h.goesOn hjobs hrequests
  · cases hphase
  · cases hphase
  · have hpending : s.completion = .pending := hpending
    rw [hrejected] at hpending
    cases hpending

theorem resume_of_parked {failure : Option Thrown} (hphase : s.phase = .parked) :
    s.resume failure = s.afterWait := by
  unfold resume
  rw [hphase]

theorem resume_of_yielding {failure : Option Thrown} {item : α}
    (hphase : s.phase = .yielding item) : s.resume failure = s.answer item := by
  unfold resume
  rw [hphase]

/-- Once the body comes back to its loop with nothing but such a rejection, it waits. -/
theorem Stands.park_of_step {e : Event α} {t : SubscriptionIterator α} (h : s.Stands)
    (hs : s.Undisturbed) (hst : s.step e = some t) (hloop : s.returnsToLoop e = true)
    (hvalues : s.values = []) (hobserved : s.observed = true)
    (hrejected : s.completion = .rejected .undefined) :
    ∃ s' : SubscriptionIterator α, t = s'.park ∧ s'.requests ≠ [] ∧ s'.jobs = [] ∧
      s'.completion = .rejected .undefined ∧ s'.disturbances = s.disturbances := by
  have hdue := due_of_observed hobserved
  unfold Stands at h
  unfold returnsToLoop at hloop
  unfold step at hst
  split at hloop
  · -- `next` asks for a value after one has been yielded
    split at hloop
    · rename_i hphase
      rw [hphase] at h
      obtain ⟨hledger, -, -, hjobs⟩ := h
      obtain rfl := Option.some.inj hst
      refine ⟨s.queue .next, ?_, queue_ne_nil .next, hjobs.trans hdue, hrejected, rfl⟩
      unfold SubscriptionIterator.ask
      rw [hphase]
      exact drain_eq_park (s := s.queue .next) hs.1 hvalues
        (hledger.check_eq_none hobserved hrejected)
    · cases hloop
  · split at hloop
    · rename_i failure rest hjobs hphase
      rw [hphase] at h
      rw [hjobs] at hst
      obtain ⟨hledger, hrequests, -, hparked⟩ := h
      obtain rfl := Option.some.inj hst
      have hcheck := hledger.check_eq_none hobserved hrejected
      cases hparked with
      | quiet _ _ hunseen | late _ _ _ hunseen =>
          rw [hobserved] at hunseen
          cases hunseen
      -- the wait is over, but nothing has come
      | woken hwoken =>
          rw [hwoken, hdue] at hjobs
          cases hjobs
          let s' : SubscriptionIterator α := { s with jobs := [] }
          refine ⟨s', ?_, hrequests, rfl, hrejected, rfl⟩
          rw [resume_of_parked (s := s') hphase]
          unfold SubscriptionIterator.afterWait
          rw [show s'.check = none from hcheck]
          exact drain_eq_park (s := s') hs.1 hvalues hcheck
    · rename_i failure rest item hjobs hphase
      rw [hphase] at h
      rw [hjobs] at hst
      obtain ⟨hledger, -, -, hcases⟩ := h
      obtain rfl := Option.some.inj hst
      -- the reaction of the completion has run, so no job is left
      have hrest : rest = [] := by
        rw [hdue] at hcases
        obtain hcases | hcases := hcases <;>
        · rw [hcases] at hjobs
          cases hjobs
          rfl
      let s' : SubscriptionIterator α := { s with jobs := rest }
      obtain ⟨t, hanswer, hrequests, hjobs', hcompletion, hsame⟩ := answer_eq_park (s := s')
        item hs.1 (of_decide_eq_true hloop) hledger.nexts hvalues
        (hledger.check_eq_none hobserved hrejected)
      refine ⟨t, ?_, hrequests, hjobs'.trans hrest, hcompletion.trans hrejected, hsame⟩
      rw [resume_of_yielding (s := s') hphase]
      exact hanswer
    · cases hloop
  · cases hloop

/-- An error of `unsubscribe` that is not the one of the completion ends the iterator wrongly. -/
theorem Stands.not_faithful_of_failedUnsubscribe {e : Event α} {t : SubscriptionIterator α}
    {error : Thrown} (h : s.Stands) (hst : s.step e = some t)
    (hfailed : s.failedUnsubscribe e = some error) (hother : s.completion ≠ .rejected error) :
    ¬ t.Faithful ∧ t.disturbances = s.disturbances := by
  unfold Stands at h
  unfold failedUnsubscribe at hfailed
  unfold step at hst
  split at hfailed
  · split at hfailed
    · rename_i failure rest exit hjobs hphase
      rw [hphase] at h
      rw [hjobs] at hst
      subst hfailed
      obtain rfl := Option.some.inj hst
      let s' : SubscriptionIterator α := { s with jobs := rest }
      have hresume : s'.resume (some error) = s'.finish (.threw error) := by
        unfold SubscriptionIterator.resume
        rw [show s'.phase = .unsubscribing exit from hphase]
      show ¬ (s'.resume (some error)).Faithful ∧ _
      rw [show ({ s with jobs := rest } : SubscriptionIterator α) = s' from rfl, hresume]
      refine ⟨?_, rfl⟩
      intro hfaithful
      have hends := hfaithful.ends
      rw [yielded_finish] at hends
      have hanswers : (s'.finish (.threw error)).answers =
          s.yielded.map Answer.value ++
            Answer.threw error :: s.requests.tail.map fun _ => Answer.done := by
        show s.answers ++ _ = _
        rw [h.1.answers]
        rfl
      rw [hanswers] at hends
      obtain hnone | ⟨-, last, n, hlast, hrest⟩ := hends
      · have hlength := congrArg List.length hnone
        rw [List.length_append, List.length_cons] at hlength
        have hsame : s'.yielded = s.yielded := rfl
        rw [hsame] at hlength
        omega
      · obtain rfl := (List.cons.inj (List.append_cancel_left hrest)).1
        cases hcompletion : s.completion with
        | pending =>
            rw [show (s'.finish (.threw error)).completion = .pending from hcompletion] at hlast
            cases hlast
        | resolved =>
            rw [show (s'.finish (.threw error)).completion = .resolved from hcompletion] at hlast
            cases hlast
        | rejected error' =>
            rw [show (s'.finish (.threw error)).completion = .rejected error' from hcompletion]
              at hlast
            cases hlast
            exact hother hcompletion
    · cases hfailed
  · cases hfailed

/-- The converse: a step that ends the iterator invisibly loses something. -/
theorem Keeps.breaks {e : Event α} {t : SubscriptionIterator α} (h : s.Keeps)
    (hK : ¬ s.EndsVisibly e) (hst : s.step e = some t) : ¬ t.LosesNothing := by
  unfold EndsVisibly at hK
  obtain ⟨hs, hK⟩ := Classical.not_imp.mp hK
  intro hlose
  by_cases hloop : s.returnsToLoop e = true → s.values = [] → s.observed = true →
      s.completion ≠ .rejected .undefined
  · -- a failed `unsubscribe` hides the reason of the completion
    have hfails : ∃ error ∈ s.failedUnsubscribe e, s.completion ≠ .rejected error := by
      by_contra hnone
      refine hK ⟨hloop, ?_⟩
      intro error herror
      by_contra hother
      exact hnone ⟨error, herror, hother⟩
    obtain ⟨error, herror, hother⟩ := hfails
    obtain ⟨hnot, hsame⟩ := (h hs).not_faithful_of_failedUnsubscribe hst herror hother
    refine hnot (hlose ?_)
    rw [undisturbed_iff] at hs ⊢
    exact hsame.trans hs
  · -- the body waits, and nothing will wake it
    simp only [Classical.not_imp, not_not] at hloop
    obtain ⟨hloop, hvalues, hobserved, hrejected⟩ := hloop
    obtain ⟨s', rfl, hrequests, hjobs, hcompletion, hsame⟩ :=
      (h hs).park_of_step hs hst hloop hvalues hobserved hrejected
    refine not_faithful_park hrequests hjobs hcompletion (hlose ?_)
    rw [undisturbed_iff] at hs ⊢
    exact hsame.trans hs

/-- **The iterator** yields every notification that comes before the completion settles, in order
and once, and then ends as the completion does, in every state of a run in which it is not aborted
and not returned early: exactly when the body never comes back to its loop with nothing to yield
once the completion has been rejected with `undefined`, and `unsubscribe` of the `finally` block
does not fail in another way than the completion. -/
theorem losesNothing_throughout_iff {es : List (Event α)} {t : SubscriptionIterator α}
    (h : machine.run es = some t) :
    machine.Throughout LosesNothing machine.init es ↔
      machine.Guarded EndsVisibly machine.init es := by
  refine Machine.throughout_iff_guarded_of_invariant (I := Keeps) ?_ ?_ ?_ keeps_init h
  · intro s hkeeps hs
    exact (hkeeps hs).faithful
  · intro s₁ e s₂ hkeeps hK hst
    exact hkeeps.step hK hst
  · intro s₁ e s₂ hkeeps hK hst
    exact hkeeps.breaks hK hst

instance (s : SubscriptionIterator α) : Decidable s.Undisturbed :=
  inferInstanceAs (Decidable (_ ∧ _))

/-- The completion is rejected with `undefined` while the consumer waits: it waits for ever. -/
theorem losesNothing_fails :
    ¬ ∀ (es : List (Event ℕ)) s, machine.run es = some s → s.LosesNothing := by
  intro h
  let es : List (Event ℕ) :=
    [.request .next, .subscribed none, .run, .complete (some .undefined), .run, .run]
  obtain ⟨s, hs, hundisturbed, hphase, hjobs, hrequests, hcompletion⟩ :
      ∃ s, machine.run es = some s ∧ s.Undisturbed ∧ s.phase = .parked ∧ s.jobs = [] ∧
        s.requests ≠ [] ∧ s.completion = .rejected .undefined :=
    ⟨_, rfl, by decide, rfl, by decide, by decide, by decide⟩
  obtain hother | ⟨exit, hother⟩ | ⟨-, -, hpending⟩ :=
    (h es s hs hundisturbed).goesOn hjobs hrequests
  · rw [hphase] at hother
    cases hother
  · rw [hphase] at hother
    cases hother
  · rw [hcompletion] at hpending
    cases hpending

/-! ### What the subscriptions promise -/

/-- The completion is not rejected with `undefined`, and once it has settled the `unsubscribe` that
ends the loop does not fail. -/
def Promises (s : SubscriptionIterator α) : Event α → Prop
  | .complete (some error) => error ≠ .undefined
  | .unsubscribed (some _) => s.Undisturbed → s.completion = .pending
  | _ => True

def Job.failure? : Job → Option Thrown
  | resume failure => failure
  | observe => none

/-- The errors on their way to the body, and the completion. -/
def pledges (s : SubscriptionIterator α) : List Thrown × Completion :=
  (s.jobs.filterMap Job.failure?, s.completion)

theorem enqueue_pledges {job : Job} (hjob : job.failure? = none) :
    (s.enqueue job).pledges = s.pledges := by
  unfold pledges enqueue
  rw [List.filterMap_append, List.filterMap_cons_none hjob, List.filterMap_nil, List.append_nil]

@[simp] theorem wake_pledges : s.wake.pledges = s.pledges := by
  unfold wake
  split
  · split
    · rfl
    · exact enqueue_pledges rfl
  · rfl

@[simp] theorem yieldItem_pledges (item : α) (rest : List α) :
    (s.yieldItem item rest).pledges = s.pledges := enqueue_pledges (s := s) rfl

@[simp] theorem loop_pledges : s.loop.pledges = s.pledges := by
  unfold loop
  split
  · rfl
  · split
    · rfl
    · split
      · rfl
      · exact yieldItem_pledges _ _

@[simp] theorem drain_pledges : s.drain.pledges = s.pledges := by
  unfold drain
  split
  · exact loop_pledges
  · exact yieldItem_pledges _ _

@[simp] theorem afterWait_pledges : s.afterWait.pledges = s.pledges := by
  unfold afterWait
  split
  · rfl
  · exact drain_pledges

@[simp] theorem resumeWith_pledges (request : Request) :
    (s.resumeWith request).pledges = s.pledges := by
  cases request with
  | next => exact drain_pledges
  | «return» => exact enqueue_pledges (s := s) rfl

@[simp] theorem answer_pledges (item : α) : (s.answer item).pledges = s.pledges := by
  unfold answer
  dsimp only
  split
  · rfl
  · rw [resumeWith_pledges]
    rfl

theorem listen_pledges : s.listen.pledges = s.pledges := by
  unfold listen
  split
  · rfl
  · exact enqueue_pledges (s := s) rfl

/-- The body adds no error to the jobs. -/
theorem resume_pledges (failure : Option Thrown) : (s.resume failure).pledges = s.pledges := by
  unfold resume
  split
  · rw [loop_pledges, listen_pledges]
  · rfl
  · exact afterWait_pledges
  · exact answer_pledges _
  · rfl
  · split
    · exact enqueue_pledges (s := s) rfl
    · rfl
  all_goals rfl

/-- The reaction of the completion puts no error on its way to the body. -/
theorem observe_pledges : s.observe.pledges = s.pledges := by
  unfold observe
  split
  · exact enqueue_pledges (s := s.note) rfl
  · rw [wake_pledges]
    rfl

theorem ask_pledges (request : Request) : (s.ask request).pledges = s.pledges := by
  unfold ask
  split
  · rfl
  · rfl
  · rfl
  · rw [resumeWith_pledges]
    rfl
  · rfl

/-- No error but one of `subscribe` is on its way to the body, and the completion is visible. -/
structure Pledged (s : SubscriptionIterator α) : Prop where
  failures : s.Undisturbed → s.phase ≠ .subscribing → s.pledges.1 = []
  completion : s.completion ≠ .rejected .undefined

theorem pledged_init : (machine (α := α)).init.Pledged :=
  ⟨fun _ _ => rfl, by intro h; cases h⟩

/-- A step that adds no error, and after which the body waits for `subscribe` if it did. -/
theorem Pledged.of_pledges {t : SubscriptionIterator α} (h : s.Pledged)
    (hs : t.Undisturbed → s.Undisturbed) (hsame : t.pledges = s.pledges)
    (hphase : s.phase = .subscribing → t.phase = .subscribing) : t.Pledged where
  failures := fun ht hne => by
    rw [hsame]
    exact h.failures (hs ht) fun hsub => hne (hphase hsub)
  completion := by
    have hcompletion : t.completion = s.completion := congrArg Prod.snd hsame
    rw [hcompletion]
    exact h.completion

theorem wake_phase : s.wake.phase = s.phase := by
  obtain ⟨jobs, hwake⟩ := wake_eq s
  rw [hwake]

/-- One of the jobs has run. -/
theorem Pledged.of_run {t : SubscriptionIterator α} {job : Job} {rest : List Job} (h : s.Pledged)
    (hkeeps : s.Keeps) (hs : t.Undisturbed → s.Undisturbed) (hjobs : s.jobs = job :: rest)
    (hsame : t.pledges = ({ s with jobs := rest } : SubscriptionIterator α).pledges) :
    t.Pledged where
  failures := fun ht _ => by
    have hrest : t.pledges.1 = rest.filterMap Job.failure? := congrArg Prod.fst hsame
    rw [hrest]
    by_cases hphase : s.phase = .subscribing
    · -- there is one job at most while the body waits for `subscribe`
      have hstands := hkeeps (hs ht)
      unfold Stands at hstands
      rw [hphase] at hstands
      obtain ⟨-, -, -, hnone | ⟨failure, hone⟩⟩ := hstands
      · rw [hnone] at hjobs
        cases hjobs
      · rw [hone] at hjobs
        cases hjobs
        rfl
    · have hnone : s.jobs.filterMap Job.failure? = [] := h.failures (hs ht) hphase
      rw [List.filterMap_eq_nil_iff] at hnone ⊢
      intro other hother
      exact hnone other (by rw [hjobs]; exact List.mem_cons_of_mem _ hother)
  completion := by
    have hcompletion : t.completion = s.completion := congrArg Prod.snd hsame
    rw [hcompletion]
    exact h.completion

/-- When an undisturbed body unsubscribes, the completion has settled. -/
theorem Keeps.settled_of_unsubscribing {exit : Exit} (h : s.Keeps) (hs : s.Undisturbed)
    (hphase : s.phase = .unsubscribing exit) : s.completion ≠ .pending := by
  have hstands := h hs
  unfold Stands at hstands
  rw [hphase] at hstands
  exact hstands.1.settled_of_observed hstands.2.2.1.observed

/-- The step lemma: what `Promises` rules out is not on its way. -/
theorem Pledged.step {e : Event α} {t : SubscriptionIterator α} (h : s.Pledged) (hkeeps : s.Keeps)
    (hP : s.Promises e) (hst : s.step e = some t) : t.Pledged := by
  have hs : t.Undisturbed → s.Undisturbed := fun ht => ht.of_step hst
  unfold SubscriptionIterator.step at hst
  cases e with
  | request request =>
      have hasked : ∀ request, s.phase = .subscribing → (s.ask request).phase = .subscribing := by
        intro request hphase
        unfold SubscriptionIterator.ask
        rw [hphase]
        exact hphase
      cases request with
      | next =>
          obtain rfl := Option.some.inj hst
          exact h.of_pledges hs (ask_pledges _) (hasked _)
      | «return» =>
          obtain rfl := Option.some.inj hst
          exact h.of_pledges hs (ask_pledges .return) (hasked _)
  | notify item =>
      dsimp only at hst
      split at hst
      · cases hst
      · obtain rfl := Option.some.inj hst
        refine h.of_pledges hs wake_pledges fun hphase => ?_
        exact wake_phase.trans hphase
  | complete failure =>
      dsimp only at hst
      split at hst
      · cases hst
      · obtain rfl := Option.some.inj hst
        refine ⟨fun ht hne => ?_, ?_⟩
        · have hjobs := h.failures (hs ht) hne
          unfold settle pledges
          dsimp only
          split
          · -- the reaction to the completion resumes nothing by itself
            rw [List.filterMap_append]
            exact (List.append_nil _).trans hjobs
          · exact hjobs
        · -- an error that the completion may not reject with is excluded by `Promises`
          unfold settle
          cases failure with
          | none => exact fun hrejected => by cases hrejected
          | some error => exact fun hrejected => hP (Completion.rejected.inj hrejected)
      · cases hst
  | abort =>
      obtain ⟨-, hst⟩ := Option.ite_none_left_eq_some.mp hst
      obtain rfl := Option.some.inj hst
      exact h.of_pledges hs wake_pledges fun hphase => wake_phase.trans hphase
  | subscribed failure =>
      dsimp only at hst
      split at hst
      · rename_i hphase
        obtain ⟨-, hst⟩ := Option.ite_none_left_eq_some.mp hst
        obtain rfl := Option.some.inj hst
        exact ⟨fun _ hne => absurd hphase hne, h.completion⟩
      · cases hst
  | unsubscribed failure =>
      dsimp only at hst
      split at hst
      · rename_i exit hphase
        obtain ⟨-, hst⟩ := Option.ite_none_left_eq_some.mp hst
        obtain rfl := Option.some.inj hst
        cases failure with
        | none =>
            refine h.of_pledges hs (enqueue_pledges rfl) fun hsub => ?_
            exact hsub
        | some error =>
            refine ⟨fun ht _ => ?_, h.completion⟩
            -- UNSUBSCRIBE does not fail after the completion has settled
            exact absurd (hP (hs ht)) (hkeeps.settled_of_unsubscribing (hs ht) hphase)
      · cases hst
  | run =>
      dsimp only at hst
      split at hst
      · cases hst
      · rename_i failure rest hjobs
        obtain rfl := Option.some.inj hst
        exact h.of_run hkeeps hs hjobs (resume_pledges failure)
      · rename_i rest hjobs
        obtain rfl := Option.some.inj hst
        exact h.of_run hkeeps hs hjobs observe_pledges

/-- What is promised is enough for the iterator to end visibly. -/
theorem Pledged.endsVisibly {e : Event α} (h : s.Pledged) : s.EndsVisibly e := by
  intro hs
  refine ⟨fun _ _ _ => h.completion, ?_⟩
  intro error hfailed
  exfalso
  unfold failedUnsubscribe at hfailed
  split at hfailed
  · split at hfailed
    · rename_i failure rest exit hjobs hphase
      have hnone : s.jobs.filterMap Job.failure? = [] :=
        h.failures hs (by rw [hphase]; intro hsub; cases hsub)
      rw [List.filterMap_eq_nil_iff] at hnone
      have hfailure := hnone (.resume failure) (by rw [hjobs]; exact List.mem_cons_self ..)
      rw [show failure = none from hfailure] at hfailed
      cases hfailed
    · cases hfailed
  · cases hfailed

/-- **The iterator loses nothing**: in every state of a run in which it is neither aborted nor
returned early, it has yielded what was delivered in order and once, ends only after everything that
came before the completion settled, and then as the completion does. -/
theorem losesNothing_throughout {es : List (Event α)}
    (hpromises : machine.Guarded Promises machine.init es) :
    machine.Throughout LosesNothing machine.init es := by
  refine Machine.Guarded.throughout (K := Promises) (I := fun s => s.Keeps ∧ s.Pledged) ?_ ?_
    ⟨keeps_init, pledged_init⟩ hpromises
  · intro s₁ e s₂ hI hP hst
    exact ⟨hI.1.step hI.2.endsVisibly hst, hI.2.step hI.1 hP hst⟩
  · intro s hI hs
    exact (hI.1 hs).faithful

instance (s : SubscriptionIterator α) (e : Event α) : Decidable (s.Promises e) :=
  match e with
  | .complete (some error) => inferInstanceAs (Decidable (error ≠ .undefined))
  | .unsubscribed (some _) => inferInstanceAs (Decidable (_ → s.completion = .pending))
  | .complete none | .unsubscribed none | .request _ | .notify _ | .abort | .subscribed _ | .run =>
    inferInstanceAs (Decidable True)

/-- The completion settles when the consumer has got one of two notifications. -/
def drainingRun : List (Event ℕ) :=
  [.request .next, .subscribed none, .run, .notify 1, .notify 2, .complete none, .run, .run, .run,
    .request .next, .run, .request .next, .unsubscribed none, .run, .run]

theorem losesNothing_throughout_drainingRun :
    (machine.run drainingRun).map yielded = some [1, 2] ∧
      machine.Throughout LosesNothing machine.init drainingRun :=
  ⟨by decide, losesNothing_throughout (by decide)⟩

end SubscriptionIterator

end FitzTs
