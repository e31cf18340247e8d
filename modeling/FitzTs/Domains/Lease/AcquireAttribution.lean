import FitzTs.Domains.Lease.Acquire
/-!
# FitzTs.Domains.Lease.AcquireAttribution

Which tokens the calls of `acquire` return.

A completion carries no request id, and the handler gives it to the first waiter.
Calls run one at a time, so there is one waiter at most; but it need not be the
waiter of the request that is completed, because a call that gave up leaves its
request queued at the broker.

## Main result

* `acquire_attribution_iff` — after a run, every call has returned tokens of its
  own request and every completion was handed to its own call, exactly if the
  broker completed no request of a call that was over while another one waited.
-/

namespace FitzTs.Lease

/-! ### The tokens a call has seen -/

/-- Where the tokens that reach a call come from: its own request (`own`) or a
completion handed to its waiter (`taken`). -/
structure Acquire.Tokens (own taken : Nat → Prop) (a : Acquire) : Prop where
  request : ∀ {response token}, a.request = .resolved response → response.token = some token →
    own token
  queued : ∀ {q response token}, a.queued = some q → q.response = .resolved response →
    response.token = some token → taken token
  returned : ∀ {lease}, a.phase = .returned lease →
    lease.route = a.route ∧ (own lease.currentToken ∨ taken lease.currentToken)

namespace Acquire

variable {own taken : Nat → Prop} {a a' : Acquire}

/-- More tokens may be known. -/
theorem Tokens.mono (h : a.Tokens own taken) {own' taken' : Nat → Prop}
    (hown : ∀ token, own token → own' token) (htaken : ∀ token, taken token → taken' token) :
    a.Tokens own' taken' where
  request := fun hr ht => hown _ (h.request hr ht)
  queued := fun hq hr ht => htaken _ (h.queued hq hr ht)
  returned := fun hp => ⟨(h.returned hp).1, (h.returned hp).2.imp (hown _) (htaken _)⟩

/-- A call that returns nothing new, whose request and waiter hold no new response. -/
theorem Tokens.of_same (h : a.Tokens own taken) (hroute : a'.route = a.route)
    (hrequest : ∀ {response}, a'.request = .resolved response → a.request = .resolved response)
    (hqueued : ∀ {q' response}, a'.queued = some q' → q'.response = .resolved response →
      ∃ q, a.queued = some q ∧ q.response = .resolved response)
    (hreturned : ∀ {lease}, a'.phase = .returned lease → a.phase = .returned lease ∨
      ∃ token, lease = ⟨a.route, token, false⟩ ∧ (own token ∨ taken token)) :
    a'.Tokens own taken where
  request := fun hr ht => h.request (hrequest hr) ht
  queued := fun hq hr ht => by
    obtain ⟨q, hq, hr⟩ := hqueued hq hr
    exact h.queued hq hr ht
  returned := fun hp => by
    rw [hroute]
    rcases hreturned hp with hp | ⟨token, rfl, htoken⟩
    · exact h.returned hp
    · exact ⟨rfl, htoken⟩

/-- A call that ends with a lease has a token for it. -/
theorem Tokens.finish (h : a.Tokens own taken) {phase : AcquirePhase}
    (hreturned : ∀ {lease}, phase = .returned lease →
      ∃ token, lease = ⟨a.route, token, false⟩ ∧ (own token ∨ taken token)) :
    (a.finish phase).Tokens own taken := by
  refine h.of_same rfl id (fun {q' response} hq hr => ?_) fun hp => Or.inr (hreturned hp)
  obtain ⟨q, hq', rfl⟩ := Option.map_eq_some_iff.mp hq
  exact ⟨q, hq', hr⟩

theorem Tokens.finish_threw (h : a.Tokens own taken) (error : AcquireError) :
    (a.finish (.threw error)).Tokens own taken := h.finish nofun

/-- A call that is granted has just got its token. -/
theorem Tokens.finish_grant (h : a.Tokens own taken) {token : Nat} (ht : own token ∨ taken token) :
    (a.finish (a.grant token)).Tokens own taken :=
  h.finish fun heq => ⟨token, (AcquirePhase.returned.inj heq).symm, ht⟩

theorem Tokens.rejectQueued (h : a.Tokens own taken) (error : AcquireError) :
    (a.rejectQueued error).Tokens own taken := by
  refine h.of_same rfl id (fun {q' response} hq hr => ?_) Or.inl
  obtain ⟨q, hq', rfl⟩ := Option.map_eq_some_iff.mp hq
  split at hr
  · exact ⟨q, hq', hr⟩
  · rcases Promise.settle_resolved hr with hr | ⟨-, hr⟩
    · exact ⟨q, hq', hr⟩
    · cases hr

theorem Tokens.connectionLost (h : a.Tokens own taken) (error : JsError) :
    (a.connectionLost error).Tokens own taken := by
  refine h.of_same rfl (fun {response} hr => ?_) (fun hq hr => ⟨_, hq, hr⟩) Or.inl
  unfold Acquire.connectionLost at hr
  dsimp only at hr
  split at hr
  · rcases Promise.settle_resolved hr with hr | ⟨-, hr⟩
    · exact hr
    · cases hr
  · exact hr

/-- The answer to the request ends the call or leaves it queued. -/
theorem Tokens.requestContinues (h : a.Tokens own taken)
    (hs : a.requestContinues a.request = some a') : a'.Tokens own taken ∧ a'.wire = a.wire ∧
      (a'.phase.isDone ∨ a'.phase = .awaitingQueued ∧ a'.queued = a.queued) := by
  unfold Acquire.requestContinues at hs
  split at hs
  · cases hs
  · cases hs
    exact ⟨h.finish_threw _, rfl, Or.inl rfl⟩
  · rename_i response hresponse
    cases response with
    | acquired token =>
        cases hs
        exact ⟨h.finish_grant (Or.inl (h.request hresponse rfl)), rfl, Or.inl rfl⟩
    | alreadyHeld token =>
        cases hs
        exact ⟨h.finish_grant (Or.inl (h.request hresponse rfl)), rfl, Or.inl rfl⟩
    | queued =>
        dsimp only at hs
        split at hs
        · cases hs
          exact ⟨h.finish_threw _, rfl, Or.inl rfl⟩
        · cases hs
          exact ⟨h.of_same rfl id (fun hq hr => ⟨_, hq, hr⟩) nofun, rfl, Or.inr ⟨rfl, rfl⟩⟩
    | alreadyQueued =>
        cases hs
        exact ⟨h.finish_threw _, rfl, Or.inl rfl⟩
    | failed error =>
        cases hs
        exact ⟨h.finish_threw _, rfl, Or.inl rfl⟩

/-- The completion of a queued call ends it. -/
theorem Tokens.queuedContinues (h : a.Tokens own taken) {q : QueuedAcquisition}
    (hq : a.queued = some q) (hs : a.queuedContinues q.response = some a') :
    a'.Tokens own taken ∧ a'.wire = a.wire ∧ a'.phase.isDone := by
  unfold Acquire.queuedContinues at hs
  split at hs
  · cases hs
  · cases hs
    exact ⟨h.finish_threw _, rfl, rfl⟩
  · rename_i response hresponse
    cases response with
    | acquired token =>
        cases hs
        exact ⟨h.finish_grant (Or.inr (h.queued hq hresponse rfl)), rfl, rfl⟩
    | alreadyHeld token =>
        cases hs
        exact ⟨h.finish_grant (Or.inr (h.queued hq hresponse rfl)), rfl, rfl⟩
    | queued =>
        cases hs
        exact ⟨h.finish_threw _, rfl, rfl⟩
    | alreadyQueued =>
        cases hs
        exact ⟨h.finish_threw _, rfl, rfl⟩
    | failed error =>
        cases hs
        exact ⟨h.finish_threw _, rfl, rfl⟩

/-- What a continuation leaves behind: the call is over, or it now waits for its
completion. -/
theorem Tokens.continues (h : a.Tokens own taken) (hs : a.continues = some a') :
    a'.Tokens own taken ∧ a'.wire = a.wire ∧ a.phase.isRunning ∧
      (a'.phase.isDone ∨ a'.phase = .awaitingQueued ∧ a'.queued = a.queued) := by
  unfold Acquire.continues at hs
  split at hs
  · rename_i hphase
    obtain ⟨htokens, hwire, hend⟩ := h.requestContinues hs
    exact ⟨htokens, hwire, by simp [hphase, AcquirePhase.isRunning], hend⟩
  · rename_i hphase hq
    obtain ⟨htokens, hwire, hend⟩ := h.queuedContinues hq hs
    exact ⟨htokens, hwire, by simp [hphase, AcquirePhase.isRunning], Or.inl hend⟩
  · cases hs

end Acquire

/-! ### The client -/

namespace AcquireClient

/-- The token was granted to the request of call `i`. -/
def Own (c : AcquireClient) (i token : Nat) : Prop := (i, token) ∈ c.granted

/-- The token was granted to a request whose completion was handed to call `i`. -/
def Taken (c : AcquireClient) (i token : Nat) : Prop :=
  ∃ owner, (owner, i) ∈ c.handed ∧ (owner, token) ∈ c.granted

/-- What holds after every run. -/
structure WellFormed (c : AcquireClient) : Prop where
  fresh : ∀ i, c.count ≤ i → (c.acquires i).phase = .uncalled
  /-- The calls run one at a time. -/
  serial : ∀ i, (c.acquires i).phase.isRunning → ∀ j < i, (c.acquires j).phase.isDone
  begun : ∀ i, (c.acquires i).wire ≠ .unsent →
    (c.acquires i).phase.isRunning ∨ (c.acquires i).phase.isDone
  /-- There is one waiter at most, of a call that runs. -/
  waiter : c.queuedAcquisitions = [] ∨ ∃ i, c.queuedAcquisitions = [i] ∧
    (c.acquires i).phase.isRunning ∧ (c.acquires i).waits ∧ c.acquireHandlerInitialized
  owed : ∀ i ∈ c.owed, (c.acquires i).wire ≠ .unsent
  tokens : ∀ i, (c.acquires i).Tokens (c.Own i) (c.Taken i)

theorem wellFormed_create : create.WellFormed where
  fresh := fun _ _ => rfl
  serial := fun _ h => (nomatch h)
  begun := fun _ h => absurd rfl h
  waiter := Or.inl rfl
  owed := fun _ h => (nomatch h)
  tokens := fun _ => ⟨nofun, nofun, nofun⟩

section Step

variable {c c' : AcquireClient} {e : AcquireEvent} {i : Nat} {a : Acquire}

@[simp] theorem set_acquires_self : (c.set i a).acquires i = a := Function.update_self ..

theorem set_acquires_of_ne {j : Nat} (hne : j ≠ i) : (c.set i a).acquires j = c.acquires j :=
  Function.update_of_ne hne ..

/-- Two calls do not run at once. -/
theorem WellFormed.running_unique (h : c.WellFormed) {j : Nat}
    (hi : (c.acquires i).phase.isRunning) (hj : (c.acquires j).phase.isRunning) : i = j := by
  have key : ∀ {i j}, (c.acquires i).phase.isRunning → (c.acquires j).phase.isRunning →
      ¬ i < j := by
    intro i j hi hj hlt
    have hdone := h.serial j hj i hlt
    cases hp : (c.acquires i).phase <;> simp_all [AcquirePhase.isRunning, AcquirePhase.isDone]
  exact Nat.le_antisymm (Nat.not_lt.mp (key hj hi)) (Nat.not_lt.mp (key hi hj))

/-- A step of one call, which stays in the queue only while it waits. -/
theorem WellFormed.set (h : c.WellFormed) (hi : i < c.count)
    (hdone : (c.acquires i).phase.isDone → a.phase.isDone)
    (hserial : a.phase.isRunning → ∀ j < i, (c.acquires j).phase.isDone)
    (hbegun : a.wire ≠ .unsent → a.phase.isRunning ∨ a.phase.isDone)
    (hwaiter : i ∈ c.queuedAcquisitions → a.phase.isRunning ∧ a.waits)
    (howed : i ∈ c.owed → a.wire ≠ .unsent) (htokens : a.Tokens (c.Own i) (c.Taken i)) :
    (c.set i a).WellFormed where
  fresh := fun j hj => by
    rw [set_acquires_of_ne (Nat.ne_of_gt (Nat.lt_of_lt_of_le hi hj))]
    exact h.fresh j hj
  serial := fun j hj k hk => by
    -- the calls before a running one are done, whichever has changed
    have hall : ∀ k < j, (c.acquires k).phase.isDone := by
      by_cases hji : j = i
      · subst hji
        rw [set_acquires_self] at hj
        exact hserial hj
      · rw [set_acquires_of_ne hji] at hj
        exact h.serial j hj
    by_cases hki : k = i
    · subst hki
      rw [set_acquires_self]
      exact hdone (hall k hk)
    · rw [set_acquires_of_ne hki]
      exact hall k hk
  begun := fun j => by
    by_cases hji : j = i
    · subst hji
      rw [set_acquires_self]
      exact hbegun
    · rw [set_acquires_of_ne hji]
      exact h.begun j
  waiter := by
    rcases h.waiter with hnil | ⟨k, hk, hrunning, hwaits, hinit⟩
    · exact Or.inl hnil
    · refine Or.inr ⟨k, hk, ?_⟩
      by_cases hki : k = i
      · subst hki
        rw [set_acquires_self]
        obtain ⟨hr, hw⟩ := hwaiter (hk ▸ List.mem_singleton_self k)
        exact ⟨hr, hw, hinit⟩
      · rw [set_acquires_of_ne hki]
        exact ⟨hrunning, hwaits, hinit⟩
  owed := fun j hj => by
    by_cases hji : j = i
    · subst hji
      rw [set_acquires_self]
      exact howed hj
    · rw [set_acquires_of_ne hji]
      exact h.owed j hj
  tokens := fun j => by
    by_cases hji : j = i
    · subst hji
      rw [set_acquires_self]
      exact htokens
    · rw [set_acquires_of_ne hji]
      exact h.tokens j

/-- A waiter leaves the queue. -/
theorem WellFormed.remove (h : c.WellFormed) (i : Nat) :
    { c with queuedAcquisitions := c.queuedAcquisitions.erase i }.WellFormed ∧
      i ∉ c.queuedAcquisitions.erase i := by
  rcases h.waiter with hnil | ⟨k, hk, hrest⟩
  · rw [hnil]
    exact ⟨⟨h.fresh, h.serial, h.begun, Or.inl rfl, h.owed, h.tokens⟩, List.not_mem_nil⟩
  · rw [hk]
    by_cases hki : k = i
    · subst hki
      rw [List.erase_cons_head]
      exact ⟨⟨h.fresh, h.serial, h.begun, Or.inl rfl, h.owed, h.tokens⟩, List.not_mem_nil⟩
    · rw [List.erase_cons_tail (by simpa using hki), List.erase_nil]
      exact ⟨⟨h.fresh, h.serial, h.begun, Or.inr ⟨k, rfl, hrest⟩, h.owed, h.tokens⟩,
        by simpa using Ne.symm hki⟩

theorem WellFormed.setRemoved (h : c.WellFormed) (hi : i < c.count)
    (hdone : (c.acquires i).phase.isDone → a.phase.isDone)
    (hserial : a.phase.isRunning → ∀ j < i, (c.acquires j).phase.isDone)
    (hbegun : a.wire ≠ .unsent → a.phase.isRunning ∨ a.phase.isDone)
    (howed : i ∈ c.owed → a.wire ≠ .unsent) (htokens : a.Tokens (c.Own i) (c.Taken i)) :
    (c.setRemoved i a).WellFormed := by
  obtain ⟨hwf, hnot⟩ := h.remove i
  exact hwf.set hi hdone hserial hbegun (fun hmem => absurd hmem hnot) howed htokens

/-- A call that has left the state of an uncalled one is numbered. -/
theorem WellFormed.lt_count (h : c.WellFormed) (hphase : (c.acquires i).phase ≠ .uncalled) :
    i < c.count :=
  Nat.lt_of_not_le fun hle => hphase (h.fresh i hle)

/-- The broker's books and the handler's only grow. -/
theorem WellFormed.grants (h : c.WellFormed) (i : Nat) (response : AcquireResponse) :
    (c.grants i response).WellFormed := by
  unfold AcquireClient.grants
  split
  · refine ⟨h.fresh, h.serial, h.begun, h.waiter, h.owed, fun j => (h.tokens j).mono ?_ ?_⟩
    · exact fun token hown => List.mem_append_left _ hown
    · rintro token ⟨owner, hhanded, hgranted⟩
      exact ⟨owner, hhanded, List.mem_append_left _ hgranted⟩
  · exact h

/-- A response with a token grants it. -/
theorem grants_granted {response : AcquireResponse} {token : Nat}
    (ht : response.token = some token) : (i, token) ∈ (c.grants i response).granted := by
  unfold AcquireClient.grants
  rw [ht]
  exact List.mem_append_right _ (List.mem_singleton_self _)

@[simp] theorem grants_acquires (response : AcquireResponse) :
    (c.grants i response).acquires = c.acquires := by
  unfold AcquireClient.grants
  split <;> rfl

@[simp] theorem grants_count (response : AcquireResponse) :
    (c.grants i response).count = c.count := by
  unfold AcquireClient.grants
  split <;> rfl

@[simp] theorem grants_queuedAcquisitions (response : AcquireResponse) :
    (c.grants i response).queuedAcquisitions = c.queuedAcquisitions := by
  unfold AcquireClient.grants
  split <;> rfl

@[simp] theorem grants_handed (response : AcquireResponse) :
    (c.grants i response).handed = c.handed := by
  unfold AcquireClient.grants
  split <;> rfl

theorem WellFormed.call (h : c.WellFormed) (route : String) (waitSeconds : Nat)
    (refused : Option JsError) (aborted : Option JsValue) :
    { c.set c.count { Acquire.uncalled with
      route := route, waitSeconds := waitSeconds, refused := refused, aborted := aborted
      phase := .waitingTurn } with count := c.count + 1 }.WellFormed := by
  have hgrown : { c with count := c.count + 1 }.WellFormed :=
    ⟨fun i hi => h.fresh i (Nat.le_of_succ_le hi), h.serial, h.begun, h.waiter, h.owed, h.tokens⟩
  have hfresh : (c.acquires c.count).phase = .uncalled := h.fresh _ (Nat.le_refl _)
  have hwire : (c.acquires c.count).wire = .unsent := by
    by_contra hne
    rcases h.begun _ hne with hr | hd
    · simp [hfresh, AcquirePhase.isRunning] at hr
    · simp [hfresh, AcquirePhase.isDone] at hd
  refine hgrown.set (Nat.lt_succ_self _) (fun hd => ?_) nofun (fun hne => absurd rfl hne)
    (fun hmem => ?_) (fun hmem => absurd hwire (h.owed _ hmem)) ⟨nofun, nofun, nofun⟩
  · simp [hfresh, AcquirePhase.isDone] at hd
  · rcases h.waiter with hnil | ⟨k, hk, hrunning, -⟩
    · rw [hnil] at hmem
      cases hmem
    · rw [hk, List.mem_singleton] at hmem
      rw [← hmem, hfresh] at hrunning
      cases hrunning

/-- A call begins when all earlier calls have ended. -/
theorem WellFormed.begin (h : c.WellFormed) (hphase : (c.acquires i).phase = .waitingTurn)
    (hturn : ∀ j < i, (c.acquires j).phase.isDone) : (c.begin i).WellFormed := by
  have hi : i < c.count := h.lt_count (by simp [hphase])
  have hnotDone : ¬ (c.acquires i).phase.isDone := by simp [hphase, AcquirePhase.isDone]
  have hnotRunning : ¬ (c.acquires i).phase.isRunning := by simp [hphase, AcquirePhase.isRunning]
  have hwire : (c.acquires i).wire = .unsent := by
    by_contra hne
    exact (h.begun i hne).elim hnotRunning hnotDone
  have howed : i ∉ c.owed := fun hmem => h.owed i hmem hwire
  -- it is this call's turn, so no other call waits
  have hempty : c.queuedAcquisitions = [] := by
    refine h.waiter.resolve_right ?_
    rintro ⟨k, -, hrunning, -⟩
    rcases Nat.lt_trichotomy k i with hlt | rfl | hlt
    · have hdone := hturn k hlt
      cases hp : (c.acquires k).phase <;> simp_all [AcquirePhase.isRunning, AcquirePhase.isDone]
    · exact hnotRunning hrunning
    · exact hnotDone (h.serial k hrunning i hlt)
  have hover : ∀ error, (c.set i ((c.acquires i).finish (.threw error))).WellFormed := fun error =>
    h.set hi (fun _ => rfl) nofun (fun hne => absurd hwire hne) (by simp [hempty])
      (fun hmem => absurd hmem howed) ((h.tokens i).finish_threw _)
  unfold AcquireClient.begin
  dsimp only
  split
  · exact hover _
  · exact hover _
  · split
    · -- a call that may wait is queued before its request is sent
      have hset := h.set (a := { c.acquires i with
          phase := .requesting, queued := some ⟨false, .pending⟩ }) hi
        (fun hd => absurd hd hnotDone) (fun _ => hturn) (fun _ => Or.inl rfl) (by simp [hempty])
        (fun hmem => absurd hmem howed) ⟨(h.tokens i).request, ?_, nofun⟩
      · refine ⟨hset.fresh, hset.serial, hset.begun, Or.inr ⟨i, ?_, ?_⟩, hset.owed, hset.tokens⟩
        · simp [hempty]
        · simp [AcquirePhase.isRunning, Acquire.waits]
      · intro q response token hq hr
        cases hq
        cases hr
    · exact h.set hi (fun hd => absurd hd hnotDone) (fun _ => hturn) (fun _ => Or.inl rfl)
        (by simp [hempty]) (fun hmem => absurd hmem howed)
        ⟨(h.tokens i).request, (h.tokens i).queued, nofun⟩

/-- A signal takes a call that runs out of the queue, and is noted for any other. -/
theorem WellFormed.abort (h : c.WellFormed) (hi : i < c.count) (reason : JsValue) :
    (c.abort i reason).WellFormed := by
  have hflag : ({ c.acquires i with aborted := some (abortReason reason) } : Acquire).Tokens
      (c.Own i) (c.Taken i) :=
    (h.tokens i).of_same rfl id (fun hq hr => ⟨_, hq, hr⟩) Or.inl
  unfold AcquireClient.abort
  dsimp only
  split
  · refine h.setRemoved hi id (h.serial i) (h.begun i) (h.owed i) ?_
    refine (hflag.rejectQueued _).of_same rfl (fun hr => ?_) (fun hq hr => ⟨_, hq, hr⟩) Or.inl
    rcases Promise.settle_resolved hr with hr | ⟨-, hr⟩
    · exact hr
    · cases hr
  · rename_i hnot
    refine h.set hi id (h.serial i) (h.begun i) (fun hmem => ?_) (h.owed i) hflag
    rcases h.waiter with hnil | ⟨k, hk, hrunning, -⟩
    · rw [hnil] at hmem
      cases hmem
    · rw [hk, List.mem_singleton] at hmem
      exact absurd (hmem ▸ hrunning) hnot

/-- Something happens to the frame or the promise of a request: its call stays where it is. -/
theorem WellFormed.setRequest (h : c.WellFormed) (wire : Wire)
    (request : Promise JsError AcquireResponse)
    (hbegun : (c.acquires i).phase.isRunning ∨ (c.acquires i).phase.isDone)
    (hwire : wire ≠ .unsent ∨ wire = (c.acquires i).wire)
    (hrequest : ∀ {response token}, request = .resolved response → response.token = some token →
      c.Own i token) :
    (c.set i { c.acquires i with wire := wire, request := request }).WellFormed := by
  have hi : i < c.count := h.lt_count fun hphase => by
    simp [hphase, AcquirePhase.isRunning, AcquirePhase.isDone] at hbegun
  refine h.set hi id (h.serial i) (fun _ => hbegun) (fun hmem => ?_) (fun hmem => ?_)
    ⟨hrequest, (h.tokens i).queued, (h.tokens i).returned⟩
  · rcases h.waiter with hnil | ⟨k, hk, hrunning, hwaits, -⟩
    · rw [hnil] at hmem
      cases hmem
    · rw [hk, List.mem_singleton] at hmem
      exact hmem ▸ ⟨hrunning, hwaits⟩
  · rcases hwire with hne | rfl
    · exact hne
    · exact h.owed i hmem

/-- The broker answers the request that is on the wire. -/
theorem WellFormed.answer (h : c.WellFormed) (hwire : (c.acquires i).wire = .sent)
    (response : AcquireResponse) : (c.answer i response).WellFormed := by
  have hg := h.grants i response
  have hset := hg.setRequest (i := i) .answered
    ((c.acquires i).request.settle (.resolved response))
    (by rw [grants_acquires]; exact h.begun i (by simp [hwire])) (Or.inl nofun) ?_
  · rw [grants_acquires] at hset
    unfold AcquireClient.answer
    dsimp only
    split
    · refine ⟨hset.fresh, hset.serial, hset.begun, hset.waiter, fun j hj => ?_, hset.tokens⟩
      rcases List.mem_append.mp hj with hj | hj
      · exact hset.owed j hj
      · rw [List.mem_singleton.mp hj]
        simp
    · exact hset
  · intro r token hr ht
    rcases Promise.settle_resolved hr with hr | ⟨-, hr⟩
    · exact (hg.tokens i).request (by rw [grants_acquires]; exact hr) ht
    · cases hr
      exact grants_granted ht

theorem WellFormed.continues (h : c.WellFormed) (hs : (c.acquires i).continues = some a) :
    (if a.phase.isDone then c.setRemoved i a else c.set i a).WellFormed := by
  obtain ⟨htokens, hwire, hrunning, hend⟩ := (h.tokens i).continues hs
  have hi : i < c.count := h.lt_count fun hphase => by
    simp [hphase, AcquirePhase.isRunning] at hrunning
  have hnotDone : ¬ (c.acquires i).phase.isDone := by
    cases hp : (c.acquires i).phase <;> simp_all [AcquirePhase.isRunning, AcquirePhase.isDone]
  split
  · rename_i hdone
    exact h.setRemoved hi (fun _ => hdone) (fun _ => h.serial i hrunning) (fun _ => Or.inr hdone)
      (fun hmem => hwire ▸ h.owed i hmem) htokens
  · rename_i hnot
    obtain ⟨hphase, hqueued⟩ := hend.resolve_left hnot
    have hstill : a.phase.isRunning := by simp [hphase, AcquirePhase.isRunning]
    -- the call stays queued, and it is still the only one
    refine h.set hi (fun hd => absurd hd hnotDone) (fun _ => h.serial i hrunning)
      (fun _ => Or.inl hstill) (fun hmem => ⟨hstill, ?_⟩)
        (fun hmem => hwire ▸ h.owed i hmem) htokens
    rcases h.waiter with hnil | ⟨k, hk, -, hwaits, -⟩
    · rw [hnil] at hmem
      cases hmem
    · rw [hk, List.mem_singleton] at hmem
      unfold Acquire.waits at hwaits ⊢
      rw [hqueued, hmem]
      exact hwaits

/-- The handler gives the completion to the one waiter there is, if there is one. -/
theorem WellFormed.handle_cases (h : c.WellFormed) (owner : Nat) (response : AcquireResponse) :
    c.queuedAcquisitions = [] ∧ c.handle owner response = c ∨
      ∃ i, c.queuedAcquisitions = [i] ∧ (c.acquires i).phase.isRunning ∧ (c.acquires i).waits ∧
        c.handle owner response = { c.set i ((c.acquires i).resolveQueued response) with
          queuedAcquisitions := [], handed := c.handed ++ [(owner, i)] } := by
  unfold AcquireClient.handle
  rcases h.waiter with hnil | ⟨i, hk, hrunning, hwaits, -⟩
  · refine Or.inl ⟨hnil, ?_⟩
    simp only [hnil, List.dropWhile_nil]
    rw [← hnil]
  · refine Or.inr ⟨i, hk, hrunning, hwaits, ?_⟩
    rw [hk, List.dropWhile_cons_of_neg (by simp [hwaits])]

/-- A completion goes to whoever is queued for its route. -/
theorem WellFormed.handle (h : c.WellFormed) (owner : Nat) {response : AcquireResponse}
    (hgranted : ∀ {token}, response.token = some token → (owner, token) ∈ c.granted) :
    (c.handle owner response).WellFormed := by
  rcases h.handle_cases owner response with ⟨-, heq⟩ | ⟨i, -, hrunning, -, heq⟩
  · rw [heq]
    exact h
  · rw [heq]
    -- first the books: the completion is handed to call `i`
    have hhanded : { c with
        queuedAcquisitions := [], handed := c.handed ++ [(owner, i)] }.WellFormed := by
      refine ⟨h.fresh, h.serial, h.begun, Or.inl rfl, h.owed, fun j =>
        (h.tokens j).mono (fun _ hown => hown) ?_⟩
      rintro token ⟨k, hmem, hk⟩
      exact ⟨k, List.mem_append_left _ hmem, hk⟩
    have hi : i < c.count := h.lt_count fun hphase => by
      simp [hphase, AcquirePhase.isRunning] at hrunning
    refine hhanded.set hi id (h.serial i) (h.begun i) nofun (h.owed i) ?_
    refine ⟨(hhanded.tokens i).request, ?_, (hhanded.tokens i).returned⟩
    intro q r token hq hr ht
    obtain ⟨q, hq', rfl⟩ := Option.map_eq_some_iff.mp hq
    rcases Promise.settle_resolved hr with hr | ⟨-, hr⟩
    · exact (hhanded.tokens i).queued hq' hr ht
    · cases hr
      exact ⟨owner, List.mem_append_right _ (List.mem_singleton_self _), hgranted ht⟩

theorem WellFormed.complete (h : c.WellFormed) (owner : Nat) (response : AcquireResponse) :
    (c.complete owner response).WellFormed := by
  have htail : { c with owed := c.owed.tail }.WellFormed :=
    ⟨h.fresh, h.serial, h.begun, h.waiter, fun j hj => h.owed j (List.mem_of_mem_tail hj), h.tokens⟩
  have hg := htail.grants owner response
  unfold AcquireClient.complete
  dsimp only
  split
  · exact hg.handle owner fun ht => grants_granted ht
  · exact hg

/-- The disconnect listener rejects what is queued. -/
theorem WellFormed.disconnect (h : c.WellFormed) (error : JsError) :
    (c.disconnect error).WellFormed := by
  -- the calls that are rejected go on in steps of their own
  have hphase : ∀ i, ((c.disconnect error).acquires i).phase = (c.acquires i).phase := fun i => by
    unfold AcquireClient.disconnect
    dsimp only
    split <;> rfl
  have hwire : ∀ i, ((c.disconnect error).acquires i).wire ≠ .unsent →
      (c.acquires i).wire ≠ .unsent := fun i hne hunsent => by
    refine hne ?_
    unfold AcquireClient.disconnect
    dsimp only
    split <;> simp [Acquire.rejectQueued, Acquire.connectionLost, hunsent]
  refine ⟨fun i hi => ?_, fun i hi j hj => ?_, fun i hne => ?_, Or.inl rfl, nofun, fun i => ?_⟩
  · rw [hphase]
    exact h.fresh i hi
  · rw [hphase] at hi ⊢
    exact h.serial i hi j hj
  · rw [hphase]
    exact h.begun i (hwire i hne)
  · have hlost := (h.tokens i).connectionLost error
    unfold AcquireClient.disconnect
    dsimp only
    split
    · exact hlost.rejectQueued _
    · exact hlost

/-- The step lemma. -/
theorem WellFormed.step (h : c.WellFormed) (hs : c.step e = some c') : c'.WellFormed := by
  cases e with
  | call => cases hs; exact h.call ..
  | begins i =>
      obtain ⟨⟨hphase, hturn⟩, ⟨⟩⟩ := Option.ite_none_right_eq_some.mp hs
      exact h.begin hphase hturn
  | abort i reason =>
      obtain ⟨⟨hi, -⟩, ⟨⟩⟩ := Option.ite_none_right_eq_some.mp hs
      exact h.abort hi reason
  | sent i =>
      obtain ⟨⟨hphase, -, -⟩, ⟨⟩⟩ := Option.ite_none_right_eq_some.mp hs
      exact h.setRequest .sent _ (Or.inl (by simp [hphase, AcquirePhase.isRunning]))
        (Or.inl nofun) (h.tokens i).request
  | answered i response =>
      obtain ⟨hwire, ⟨⟩⟩ := Option.ite_none_right_eq_some.mp hs
      exact h.answer hwire response
  | requestFails i error =>
      obtain ⟨⟨hphase, -⟩, ⟨⟩⟩ := Option.ite_none_right_eq_some.mp hs
      exact h.setRequest _ _ (Or.inl (by simp [hphase, AcquirePhase.isRunning])) (Or.inr rfl) nofun
  | completed response =>
      unfold AcquireClient.step at hs
      dsimp only at hs
      split at hs
      · cases hs
        exact h.complete ..
      · cases hs
  | continues i =>
      unfold AcquireClient.step at hs
      dsimp only at hs
      split at hs
      · cases hs
        exact h.continues ‹_›
      · cases hs
  | disconnected error => cases hs; exact h.disconnect error

end Step

/-! ### Which completions are handed to whom -/

/-- **Attribution.** A returned lease is for the route of its call and carries a
token the broker granted to that call's own request, and every completion was
handed to the call whose request it completes. -/
structure Attributed (c : AcquireClient) : Prop where
  returned : ∀ i lease, (c.acquires i).phase = .returned lease →
    lease.route = (c.acquires i).route ∧ (i, lease.currentToken) ∈ c.granted
  handed : ∀ completion ∈ c.handed, completion.1 = completion.2

/-- The broker completes no request of a call that is over while another one waits. -/
def CompletesRunning (c : AcquireClient) : AcquireEvent → Prop
  | .completed _ => ∀ owner ∈ c.owed.head?, (c.acquires owner).phase.isDone →
      ∀ i ∈ c.queuedAcquisitions, ¬ (c.acquires i).waits
  | _ => True

instance (c : AcquireClient) (e : AcquireEvent) : Decidable (c.CompletesRunning e) := by
  cases e <;> unfold CompletesRunning <;> infer_instance

/-- Only the handler hands completions. -/
theorem step_handed {c c' : AcquireClient} {e : AcquireEvent} (hs : c.step e = some c')
    (he : ∀ response, e ≠ .completed response) : c'.handed = c.handed := by
  cases e with
  | completed response => exact absurd rfl (he response)
  | call => cases hs; rfl
  | begins i =>
      obtain ⟨-, ⟨⟩⟩ := Option.ite_none_right_eq_some.mp hs
      unfold AcquireClient.begin
      dsimp only
      split
      · rfl
      · rfl
      · split <;> rfl
  | abort i reason =>
      obtain ⟨-, ⟨⟩⟩ := Option.ite_none_right_eq_some.mp hs
      unfold AcquireClient.abort
      dsimp only
      split <;> rfl
  | sent =>
      obtain ⟨-, ⟨⟩⟩ := Option.ite_none_right_eq_some.mp hs
      rfl
  | answered i response =>
      obtain ⟨-, ⟨⟩⟩ := Option.ite_none_right_eq_some.mp hs
      unfold AcquireClient.answer
      dsimp only
      split <;> exact grants_handed response
  | requestFails =>
      obtain ⟨-, ⟨⟩⟩ := Option.ite_none_right_eq_some.mp hs
      rfl
  | continues i =>
      unfold AcquireClient.step at hs
      dsimp only at hs
      split at hs
      · cases hs
        split <;> rfl
      · cases hs
  | disconnected => cases hs; rfl

/-- The waiter that takes a completion is of the completed request's call exactly
if that call is not over. -/
theorem WellFormed.completed_iff {c : AcquireClient} (h : c.WellFormed) {owner : Nat}
    (howed : owner ∈ c.owed) (response : AcquireResponse) :
    (∀ completion ∈ (c.complete owner response).handed, completion.1 = completion.2) ↔
      (∀ completion ∈ c.handed, completion.1 = completion.2) ∧
        ((c.acquires owner).phase.isDone →
          ∀ i ∈ c.queuedAcquisitions, ¬ (c.acquires i).waits) := by
  have hg := (show { c with owed := c.owed.tail }.WellFormed from
    ⟨h.fresh, h.serial, h.begun, h.waiter, fun j hj => h.owed j (List.mem_of_mem_tail hj),
      h.tokens⟩).grants owner response
  have hinit : (({ c with owed := c.owed.tail } : AcquireClient).grants owner
      response).acquireHandlerInitialized = c.acquireHandlerInitialized := by
    unfold AcquireClient.grants
    split <;> rfl
  unfold AcquireClient.complete
  dsimp only
  rw [hinit]
  split
  · rcases hg.handle_cases owner response with ⟨hnil, heq⟩ | ⟨i, hi, hrunning, hwaits, heq⟩
    · rw [heq, grants_handed]
      rw [grants_queuedAcquisitions] at hnil
      have hnil : c.queuedAcquisitions = [] := hnil
      simp [hnil]
    · rw [heq]
      rw [grants_queuedAcquisitions] at hi
      rw [grants_acquires] at hrunning hwaits
      have hi : c.queuedAcquisitions = [i] := hi
      have hrunning : (c.acquires i).phase.isRunning := hrunning
      have hwaits : (c.acquires i).waits := hwaits
      -- only one call runs, so the waiter is the owner unless that is over
      have hown : owner = i ↔ ¬ (c.acquires owner).phase.isDone := by
        constructor
        · rintro rfl
          cases hp : (c.acquires owner).phase <;>
            simp_all [AcquirePhase.isRunning, AcquirePhase.isDone]
        · intro hnot
          exact h.running_unique ((h.begun owner (h.owed owner howed)).resolve_right hnot) hrunning
      simp only [grants_handed, List.mem_append, List.mem_singleton, hi, forall_eq, hwaits,
        not_true_eq_false, imp_false, ← hown]
      constructor
      · exact fun hall => ⟨fun p hp => hall p (Or.inl hp), hall (owner, i) (Or.inr rfl)⟩
      · rintro ⟨hall, heq⟩ p (hp | rfl)
        · exact hall p hp
        · exact heq
  · rename_i hnot
    rw [grants_handed]
    have hnil : c.queuedAcquisitions = [] :=
      h.waiter.resolve_right fun ⟨_, _, _, _, hinit⟩ => hnot hinit
    simp [hnil]

theorem wellFormed_run {es : List AcquireEvent} {c : AcquireClient}
    (hrun : machine.run es = some c) : c.WellFormed :=
  Machine.invariant (M := machine) wellFormed_create (fun _ _ _ h hs => h.step hs) hrun

/-- Tokens are attributed exactly if each completion was handed to its owner. -/
theorem WellFormed.attributed_iff {c : AcquireClient} (h : c.WellFormed) :
    c.Attributed ↔ ∀ completion ∈ c.handed, completion.1 = completion.2 := by
  refine ⟨Attributed.handed, fun hhanded => ⟨fun i lease hphase => ?_, hhanded⟩⟩
  obtain ⟨hroute, htoken⟩ := (h.tokens i).returned hphase
  refine ⟨hroute, ?_⟩
  rcases htoken with hown | ⟨owner, hmem, hgranted⟩
  · exact hown
  · have heq : owner = i := hhanded (owner, i) hmem
    exact heq ▸ hgranted

/-- **Attribution of acquired leases.** -/
theorem acquire_attribution_iff {es : List AcquireEvent} {c : AcquireClient}
    (hrun : machine.run es = some c) :
    c.Attributed ↔ machine.Guarded CompletesRunning create es := by
  rw [(wellFormed_run hrun).attributed_iff]
  have key := Machine.runFrom_iff_guarded (M := machine) (K := CompletesRunning) (I := WellFormed)
    (P := fun c => ∀ completion ∈ c.handed, completion.1 = completion.2) (J := fun _ => True)
    (fun _ _ _ h _ hs => h.step hs) ?_ wellFormed_create (fun _ _ => trivial) hrun
  · simpa [create] using key
  · intro c e c' h _ hs
    by_cases he : ∃ response, e = .completed response
    · obtain ⟨response, rfl⟩ := he
      change c.step (.completed response) = some c' at hs
      unfold AcquireClient.step at hs
      dsimp only at hs
      split at hs
      · rename_i owner rest howed
        cases hs
        rw [h.completed_iff (by rw [howed]; exact List.mem_cons_self ..)]
        simp [CompletesRunning, howed]
      · cases hs
    · have hK : c.CompletesRunning e := by
        cases e <;> first | exact absurd ⟨_, rfl⟩ he | trivial
      rw [step_handed hs (not_exists.mp he)]
      exact (and_iff_left hK).symm

/-- A call waits for `lease://acme/jobs/a` and is granted it by a completion. -/
def grantedLaterRun : List AcquireEvent :=
  [.call "lease://acme/jobs/a" 30 none none, .begins 0, .sent 0, .answered 0 .queued, .continues 0,
    .completed (.acquired 7), .continues 0]

theorem acquire_attribution_grantedLater : ∃ c, machine.run grantedLaterRun = some c ∧
    (c.acquires 0).phase = .returned ⟨"lease://acme/jobs/a", 7, false⟩ ∧ c.Attributed := by
  have hguard : machine.Guarded CompletesRunning create grantedLaterRun := by decide +kernel
  obtain ⟨c, hrun, hphase⟩ : ∃ c, machine.run grantedLaterRun = some c ∧
      (c.acquires 0).phase = .returned ⟨"lease://acme/jobs/a", 7, false⟩ :=
    ⟨_, rfl, by decide +kernel⟩
  exact ⟨c, hrun, hphase, (acquire_attribution_iff hrun).mpr hguard⟩

/-- The first call is queued and then aborted; the second call, for another route,
waits when the broker completes the first one's request. -/
def abortedWhileQueuedRun : List AcquireEvent :=
  [.call "lease://acme/jobs/a" 30 none none, .begins 0, .sent 0, .answered 0 .queued, .continues 0,
    .abort 0 (.other 9), .continues 0,
    .call "lease://acme/jobs/b" 30 none none, .begins 1, .sent 1, .answered 1 .queued, .continues 1,
    .completed (.acquired 7), .continues 1]

theorem not_forall_acquire_attribution : ∃ c, machine.run abortedWhileQueuedRun = some c ∧
    (c.acquires 1).phase = .returned ⟨"lease://acme/jobs/b", 7, false⟩ ∧ c.granted = [(0, 7)] ∧
      c.handed = [(0, 1)] ∧ ¬ c.Attributed := by
  obtain ⟨c, hrun, hphase, hgranted, hhanded⟩ : ∃ c, machine.run abortedWhileQueuedRun = some c ∧
      (c.acquires 1).phase = .returned ⟨"lease://acme/jobs/b", 7, false⟩ ∧
        c.granted = [(0, 7)] ∧ c.handed = [(0, 1)] :=
    ⟨_, rfl, by decide +kernel, by decide +kernel, by decide +kernel⟩
  refine ⟨c, hrun, hphase, hgranted, hhanded, fun h => ?_⟩
  exact absurd (h.handed (0, 1) (by simp [hhanded])) (by decide)

end AcquireClient

end FitzTs.Lease
