import FitzTs.Domains.Lease.InventoryInvalidations
/-!
# FitzTs.Domains.Lease.InventorySubscription

**What keeps the observer's subscription in place.** The observer counts on the
pattern's entry and on the broker holding its registration. A failed subscription is
replaced before the observer counts on anything again; what goes unnoticed is a restore
that failed, a `connect()` that restores nothing, and an UNSUBSCRIBE the broker has
processed although its request failed or a restore has replaced its entry.

`InPlace.act`: in steps that avoid these, an entry the observer counts on is registered.
-/

namespace FitzTs.Lease.Inventory

/-! ### What the observer relies on -/

/-- Ordinary requests are sent, or will be once the listeners have returned. -/
def Link.isUp : Link → Bool
  | .reconnected | .ready => true
  | .disconnected | .restoring | .restored => false

/-- The entry, if there is one, has been restored. -/
def Link.isRestored : Link → Bool
  | .restored | .reconnected | .ready => true
  | .disconnected | .restoring => false

namespace Observer

/-- The step leaves the subscription in place: no reconnect goes unheard while a pass
runs that may be installed, a restore brings the entry back and finds no UNSUBSCRIBE
outstanding, a session without restores finds no entry, and an UNSUBSCRIBE that fails
was not processed. -/
def KeepsWatch (s : Observer) : Event → Prop
  | .reconnected => s.listening = true ∨
      ∀ p, s.activeReconcile = some p → s.mayInstall p = false
  | .restores ok => s.closed = true ∨ s.aborted = true ∨
      ∀ entry, s.entry = some entry → ok = true ∧ entry.pendingUnsubscribe = none
  | .connects => s.closed = true ∨ s.aborted = true ∨ s.entry = none
  | .unsubscribeSettles ok processed => s.closed = true ∨ s.aborted = true ∨
      ok = true ∨ processed = false ∨ s.registered = false
  | _ => True

instance (s : Observer) (e : Event) : Decidable (s.KeepsWatch e) := by
  induction e using Event.casesOn <;> dsimp only [KeepsWatch] <;> infer_instance

/-! ### The subscription -/

/-- The observer counts on the pattern's entry. -/
def counts (s : Observer) : Bool := s.subscriptionReady || s.subscribing = some .added

/-- The entry the observer counts on is there, and registered. -/
structure InPlace (s : Observer) : Prop where
  entry : s.isOpen = true → s.counts = true → s.entry.isSome = true
  /-- Only a rejection that is yet to be handled leaves an UNSUBSCRIBE unknown. -/
  pending : s.isOpen = true → s.counts = true → ∀ entry, s.entry = some entry →
    entry.pendingUnsubscribe.isSome = true → s.subscription.rejected = true
  registered : s.isOpen = true → s.entry.isSome = true → s.link.isRestored = true →
    s.registered = true
  requested : s.subscribing = some .requested ∨ s.subscribing = some .answered → s.entry = none
  answered : s.isOpen = true → s.subscribing = some .answered → s.link.isRestored = true →
    s.registered = true
  last : ∀ entry, s.entry = some entry → ∀ handlerId, entry.pendingUnsubscribe = some handlerId →
    entry.handlers = [handlerId]
  stale : s.isOpen = true → s.staleUnsubscribes = 0

/-- The two states agree on the subscription and the connection. -/
structure SameSubscription (s s' : Observer) : Prop where
  isOpen : s'.isOpen = s.isOpen
  subscriptionReady : s'.subscriptionReady = s.subscriptionReady
  subscribing : s'.subscribing = s.subscribing
  entry : s'.entry = s.entry
  subscription : s'.subscription = s.subscription
  link : s'.link = s.link
  session : s'.session = s.session
  registered : s'.registered = s.registered
  stale : s'.staleUnsubscribes = s.staleUnsubscribes

variable {s s' : Observer}

theorem SameSubscription.rfl {s : Observer} : SameSubscription s s := by
  constructor <;> exact Eq.refl _

/-- The invariant reads the fields of the subscription alone. -/
theorem InPlace.congr (h : s.InPlace) (hs : SameSubscription s s') : s'.InPlace where
  entry := by
    rw [counts, hs.isOpen, hs.subscriptionReady, hs.subscribing, hs.entry]
    exact h.entry
  pending := by
    rw [counts, hs.isOpen, hs.subscriptionReady, hs.subscribing, hs.entry, hs.subscription]
    exact h.pending
  registered := by
    rw [hs.isOpen, hs.entry, hs.link, hs.registered]
    exact h.registered
  requested := by
    rw [hs.subscribing, hs.entry]
    exact h.requested
  answered := by
    rw [hs.isOpen, hs.subscribing, hs.link, hs.registered]
    exact h.answered
  last := by
    rw [hs.entry]
    exact h.last
  stale := by
    rw [hs.isOpen, hs.stale]
    exact h.stale

/-- The loop of the passes leaves the subscription alone. -/
theorem sameSubscription_loop {p : Reconcile} : SameSubscription s (s.loop p) := by
  unfold loop
  split <;> constructor <;> exact Eq.refl _

/-- A request for a pass is a flag. -/
theorem sameSubscription_request {g : Bool} : SameSubscription s (s.request g) := by
  constructor <;> exact Eq.refl _

theorem SameSubscription.trans {s'' : Observer} (h : SameSubscription s s')
    (h' : SameSubscription s' s'') : SameSubscription s s'' where
  isOpen := h'.isOpen.trans h.isOpen
  subscriptionReady := h'.subscriptionReady.trans h.subscriptionReady
  subscribing := h'.subscribing.trans h.subscribing
  entry := h'.entry.trans h.entry
  subscription := h'.subscription.trans h.subscription
  link := h'.link.trans h.link
  session := h'.session.trans h.session
  registered := h'.registered.trans h.registered
  stale := h'.stale.trans h.stale

/-- To ask for a pass leaves the subscription alone, whether one is running or not. -/
theorem sameSubscription_requestReconcile {g : Bool} :
    SameSubscription s (s.requestReconcile g).1 := by
  unfold requestReconcile
  split
  · constructor <;> exact Eq.refl _
  · split
    · exact sameSubscription_request
    · split
      · exact sameSubscription_request
      · exact sameSubscription_request.trans sameSubscription_loop

/-- A pass that is asked for does not move the bootstrap on. -/
theorem requestReconcile_stage {g : Bool} : (s.requestReconcile g).1.stage = s.stage := by
  unfold requestReconcile loop
  repeat' split
  all_goals rfl

/-- The end of a pass leaves the subscription alone. -/
theorem sameSubscription_settle (threw : Bool) : SameSubscription s (s.settle threw) := by
  constructor
  · unfold isOpen settle
    dsimp only
    split
    · rename_i hstage
      simp [hstage]
    · exact Eq.refl _
  all_goals exact Eq.refl _

/-- What a waiting pass keeps track of is its own. -/
theorem sameSubscription_note : SameSubscription s s.note := by
  unfold note
  split
  · split
    · constructor <;> exact Eq.refl _
    · exact .rfl
  · exact .rfl

/-- When `fullRelist` has returned or thrown, the view may change, but not the subscription. -/
theorem sameSubscription_passContinues {p : Reconcile} (hs : s.passContinues p = some s') :
    SameSubscription s s' := by
  unfold passContinues at hs
  split at hs
  · cases hs
    constructor <;> exact Eq.refl _
  · repeat' split at hs
    all_goals cases hs
    all_goals constructor <;> exact Eq.refl _
  all_goals cases hs

theorem sameSubscription_passFinally {threw : Bool} : SameSubscription s (s.passFinally threw) := by
  have hended : SameSubscription s { s with activeReconcile := none } := by
    constructor <;> exact Eq.refl _
  have hsettled := hended.trans (sameSubscription_settle threw)
  unfold passFinally
  dsimp only
  split
  · exact hsettled.trans sameSubscription_requestReconcile
  · exact hsettled

/-! ### The subscription stays in place -/

/-- The observer is open until it is closed or aborted or its bootstrap has thrown. -/
theorem isOpen_iff : s.isOpen = true ↔ s.closed = false ∧ s.aborted = false ∧ s.stage ≠ .threw := by
  simp [isOpen, and_assoc]

/-- An observer that is no longer at work counts on nothing. -/
theorem inPlace_of_not_open (hopen : s.isOpen = false)
    (hrequested : s.subscribing = some .requested ∨ s.subscribing = some .answered → s.entry = none)
    (hlast : ∀ entry, s.entry = some entry → ∀ handlerId,
      entry.pendingUnsubscribe = some handlerId → entry.handlers = [handlerId]) : s.InPlace where
  entry ho := by rw [hopen] at ho; cases ho
  pending ho := by rw [hopen] at ho; cases ho
  registered ho := by rw [hopen] at ho; cases ho
  requested := hrequested
  answered ho := by rw [hopen] at ho; cases ho
  last := hlast
  stale ho := by rw [hopen] at ho; cases ho

/-- A handle of the subscription unsubscribes: the entry stays for the broker until it confirms,
or others still use it. -/
theorem InPlace.unsubscribe (h : s.InPlace) {handlerId : Nat}
    (hunknown : s.isOpen = true → s.counts = true → s.subscription.rejected = true) :
    (s.unsubscribe handlerId).InPlace := by
  unfold Observer.unsubscribe
  split
  · exact h
  · rename_i entry hentry
    -- the entry stays, with one handler less or with an UNSUBSCRIBE outstanding
    have hsome : s.entry.isSome = true := by rw [hentry]; rfl
    have hnone : ¬ (s.subscribing = some .requested ∨ s.subscribing = some .answered) := by
      intro hr
      rw [h.requested hr] at hentry
      cases hentry
    split
    · exact h
    · rename_i hmem
      split
      · rename_i hmore
        refine ⟨fun _ _ => rfl, fun ho hc e he hp => ?_, fun ho _ => h.registered ho hsome,
          fun hr => absurd hr hnone, h.answered, fun e he id hid => ?_, h.stale⟩
        · cases he
          exact h.pending ho hc entry hentry hp
        · cases he
          rw [h.last entry hentry id hid] at hmore
          simp at hmore
      · rename_i hsingle
        refine ⟨fun _ _ => rfl, fun ho hc _ _ _ => hunknown ho hc,
          fun ho _ => h.registered ho hsome,
          fun hr => absurd hr hnone, h.answered, fun e he id hid => ?_, h.stale⟩
        cases he
        cases hid
        -- the handler is the only one
        obtain ⟨only, honly⟩ : ∃ only, entry.handlers = [only] := by
          refine List.length_eq_one_iff.mp ?_
          have hpos := List.length_pos_of_mem (not_not.mp hmem)
          omega
        have hid : handlerId = only := by simpa [honly] using not_not.mp hmem
        rw [hid]
        exact honly

/-- A failed subscription counts no more. -/
theorem InPlace.fail (h : s.InPlace) : s.fail.InPlace := by
  unfold Observer.fail
  split
  · have hrejected : ({ s with
        subscription := { s.subscription with
          active := false, terminalFailure := true, rejected := true } } : Observer).InPlace :=
      ⟨h.entry, fun _ _ _ _ _ => rfl, h.registered, h.requested, h.answered, h.last, h.stale⟩
    exact hrejected.unsubscribe fun _ _ => rfl
  · exact h

/-- The observer unsubscribes when it closes, so it need not be in place. -/
theorem InPlace.unsubscribeHandle (h : s.InPlace) (hopen : s.isOpen = false) :
    s.unsubscribeHandle.InPlace := by
  unfold Observer.unsubscribeHandle
  split
  · have hinactive : ({ s with
        subscription := { s.subscription with active := false } } : Observer).InPlace :=
      ⟨h.entry, h.pending, h.registered, h.requested, h.answered, h.last, h.stale⟩
    refine hinactive.unsubscribe fun ho => ?_
    have ho' : s.isOpen = true := ho
    rw [hopen] at ho'
    cases ho'
  · exact h

/-- A handle joins the entry; a session that has been restored has it registered. -/
theorem InPlace.addLocalSubscription (h : s.InPlace)
    (hfree : ∀ entry, s.entry = some entry → entry.pendingUnsubscribe = none)
    (hregistered : s.isOpen = true → s.link.isRestored = true → s.registered = true) :
    s.addLocalSubscription.InPlace := by
  have hpending : ∀ e, s.addLocalSubscription.entry = some e → e.pendingUnsubscribe = none := by
    intro e he
    unfold Observer.addLocalSubscription at he
    dsimp only at he
    split at he <;> cases he
    · rfl
    · rename_i entry hentry
      exact hfree entry hentry
  refine ⟨fun _ _ => ?_, fun _ _ e he hp => ?_, fun ho _ hl => hregistered ho hl, fun hr => ?_,
    fun _ hr => ?_, fun e he id hid => ?_, h.stale⟩
  · unfold Observer.addLocalSubscription
    dsimp only
    split <;> rfl
  · rw [hpending e he] at hp
    cases hp
  · rcases hr with hr | hr <;> cases hr
  · cases hr
  · rw [hpending e he] at hid
    cases hid

/-- `subscribe` joins the entry there is, waits for its UNSUBSCRIBE, or sends a SUBSCRIBE. -/
theorem InPlace.subscribe (h : s.InPlace) : s.subscribe.InPlace := by
  have hready : s.subscriptionReady = true → s.counts = true := by
    intro hr
    simp [counts, hr]
  unfold Observer.subscribe
  split
  · rename_i hentry
    refine ⟨fun ho hc => ?_, fun _ _ e he => ?_, h.registered, fun _ => hentry, fun _ hr => ?_,
      h.last, h.stale⟩
    · have hr : s.subscriptionReady = true := by simpa [counts] using hc
      exact h.entry ho (hready hr)
    · have he' : s.entry = some e := he
      rw [hentry] at he'
      cases he'
    · cases hr
  · rename_i entry hentry
    split
    · refine ⟨fun ho hc => ?_, fun ho hc => ?_, h.registered, fun hr => ?_, fun _ hr => ?_,
        h.last, h.stale⟩
      · have hr : s.subscriptionReady = true := by simpa [counts] using hc
        exact h.entry ho (hready hr)
      · have hr : s.subscriptionReady = true := by simpa [counts] using hc
        exact h.pending ho (hready hr)
      · rcases hr with hr | hr <;> cases hr
      · cases hr
    · rename_i hpending
      -- the entry is joined
      refine h.addLocalSubscription (fun e he => ?_) fun ho hl => ?_
      · rw [hentry] at he
        cases he
        simpa using hpending
      · exact h.registered ho (by rw [hentry]; rfl) hl

/-- The observer counts on less. -/
theorem InPlace.unready (h : s.InPlace) (subscriptionReady : Bool) :
    { s with ready := false, subscriptionReady := s.subscriptionReady && subscriptionReady }.InPlace
    := by
  have hcounts : ({ s with
      ready := false
      subscriptionReady := s.subscriptionReady && subscriptionReady } : Observer).counts = true →
        s.counts = true := by
    simp only [counts, Bool.or_eq_true, Bool.and_eq_true]
    exact Or.imp_left And.left
  exact ⟨fun ho hc => h.entry ho (hcounts hc), fun ho hc => h.pending ho (hcounts hc),
    h.registered, h.requested, h.answered, h.last, h.stale⟩

/-- At its head the loop of a recovery ends, asks for a pass, or subscribes again. -/
theorem InPlace.recoveryLoop (h : s.InPlace) : s.recoveryLoop.InPlace := by
  unfold Observer.recoveryLoop
  split
  · exact h.congr (by constructor <;> exact Eq.refl _)
  · split
    · exact (h.congr (sameSubscription_requestReconcile (g := true))).congr
        (by constructor <;> exact Eq.refl _)
    · have hsame : SameSubscription s { s with activeRecovery := some .subscribing } := by
        constructor <;> exact Eq.refl _
      exact (h.congr hsame).subscribe

/-- A recovery begins, unless one is running or the observer is closed. -/
theorem InPlace.recoverSubscription (h : s.InPlace) (replace : Bool) :
    (s.recoverSubscription replace).InPlace := by
  unfold Observer.recoverSubscription
  split
  · exact h
  · exact (h.unready _).recoveryLoop

/-- The completion of the subscription is rejected: a recovery follows. -/
theorem InPlace.completionRejected (h : s.InPlace) (hadded : s.subscribing ≠ some .added) :
    s.completionRejected.InPlace := by
  unfold Observer.completionRejected
  dsimp only
  split
  · rename_i hclosed
    exact inPlace_of_not_open (by simp [isOpen, hclosed]) h.requested h.last
  · refine InPlace.recoverSubscription ?_ true
    refine ⟨fun _ hc => ?_, fun _ hc => ?_, h.registered, h.requested, h.answered, h.last, h.stale⟩
    all_goals simp [counts, hadded] at hc

/-- The subscription just added is the one to count on. -/
theorem InPlace.adopt (h : s.InPlace) (hadded : s.subscribing = some .added) : s.adopt.InPlace := by
  have hcounts : s.counts = true := by simp [counts, hadded]
  refine ⟨fun ho _ => h.entry ho hcounts, fun ho _ => h.pending ho hcounts, h.registered,
    fun hr => ?_, fun _ hr => ?_, h.last, h.stale⟩
  · rcases hr with hr | hr <;> cases hr
  · cases hr

/-- The subscription of a recovery has been answered. -/
theorem InPlace.recoverySubscribed (h : s.InPlace)
    (hsub : s.subscribing = some .added ∨ s.subscribing = some .failed) :
    (s.recoverySubscribed (s.subscribing = some .failed)).InPlace := by
  unfold Observer.recoverySubscribed
  have hnone : ({ s with subscribing := none } : Observer).InPlace := by
    have hready : ({ s with subscribing := none } : Observer).counts = true → s.counts = true := by
      simp only [counts, Bool.or_eq_true]
      exact fun hc => Or.inl (by simpa using hc)
    refine ⟨fun ho hc => h.entry ho (hready hc), fun ho hc => h.pending ho (hready hc),
      h.registered,
      fun hr => ?_, fun _ hr => ?_, h.last, h.stale⟩
    · rcases hr with hr | hr <;> cases hr
    · cases hr
  split
  · exact hnone.congr (by constructor <;> exact Eq.refl _)
  · rename_i hfailed
    have hadded : s.subscribing = some .added := by
      rcases hsub with hsub | hsub
      · exact hsub
      · exact absurd (by simpa using hsub) hfailed
    split
    · -- the observer was closed or aborted while the answer was on its way
      rename_i hdone
      have hopen : s.isOpen = false := by
        simp only [Bool.or_eq_true] at hdone
        rcases hdone with hc | ha
        · simp [isOpen, hc]
        · simp [isOpen, ha]
      have hended :
          ({ s with subscribing := none, activeRecovery := some .ended } : Observer).InPlace :=
        hnone.congr (by constructor <;> exact Eq.refl _)
      exact hended.unsubscribeHandle hopen
    · exact ((h.adopt hadded).congr (sameSubscription_requestReconcile (g := true))).congr
        (by constructor <;> exact Eq.refl _)

/-- The subscription of the bootstrap has been answered; if it failed, `inventory` throws. -/
theorem InPlace.bootstrapSubscribed (h : s.InPlace) (hstage : s.stage = .subscribing)
    (hsub : s.subscribing = some .added ∨ s.subscribing = some .failed) :
    (s.bootstrapSubscribed (s.subscribing = some .failed)).InPlace := by
  unfold Observer.bootstrapSubscribed
  split
  · refine inPlace_of_not_open (by simp [isOpen]) (fun hr => ?_) h.last
    rcases hr with hr | hr <;> cases hr
  · rename_i hfailed
    have hadded : s.subscribing = some .added := by
      rcases hsub with hsub | hsub
      · exact hsub
      · exact absurd (by simpa using hsub) hfailed
    have hstage' : (s.adopt.requestReconcile true).1.stage = .subscribing :=
      requestReconcile_stage.trans hstage
    refine ((h.adopt hadded).congr (sameSubscription_requestReconcile (g := true))).congr ?_
    constructor
    · simp [isOpen, hstage']
    all_goals exact Eq.refl _

/-- The UNSUBSCRIBE of an entry has been answered. A confirmed one takes the entry away, for its
handler was the last; after a refused one the registration is still there (`KeepsWatch`). -/
theorem InPlace.unsubscribeSettles (h : s.InPlace) {entry : Entry} {handlerId : Nat}
    {ok processed : Bool} (hentry : s.entry = some entry)
    (hpending : entry.pendingUnsubscribe = some handlerId) (hsettled : s.isSettled = true)
    (hK : s.KeepsWatch (.unsubscribeSettles ok processed)) :
    (s.unsubscribeSettles entry handlerId ok processed).InPlace := by
  have hsettled' := hsettled
  simp only [isSettled, Bool.and_eq_true, Bool.not_eq_true', bne_iff_ne, ne_eq] at hsettled'
  obtain ⟨⟨hrejected, hanswered⟩, hadded⟩ := hsettled'
  -- nobody counts on an entry whose UNSUBSCRIBE is outstanding
  have hready : s.isOpen = true → s.subscriptionReady = false := by
    intro ho
    by_contra hr
    have hc : s.counts = true := by
      simp only [Bool.not_eq_false] at hr
      simp [counts, hr]
    have hr := h.pending ho hc entry hentry (by rw [hpending]; rfl)
    rw [hrejected] at hr
    cases hr
  have hsome : s.entry.isSome = true := by rw [hentry]; rfl
  have hnone : ¬ (s.subscribing = some .requested ∨ s.subscribing = some .answered) := by
    intro hr
    rw [h.requested hr] at hentry
    cases hentry
  have huncounted : s.isOpen = true → s.counts = true → False := by
    intro ho hc
    have hr : s.subscriptionReady = true := by simpa [counts, hadded] using hc
    rw [hready ho] at hr
    cases hr
  unfold Observer.unsubscribeSettles
  split
  · rw [h.last entry hentry handlerId hpending]
    simp only [List.erase_cons_head, if_true]
    refine ⟨fun ho hc => (huncounted ho hc).elim, fun _ _ e he => ?_, fun _ he => ?_,
      fun hr => absurd hr hnone, fun _ hr => absurd hr hanswered, fun e he => ?_, h.stale⟩
    · cases he
    · cases he
    · cases he
  · rename_i hok
    refine ⟨fun ho hc => (huncounted ho hc).elim, fun ho hc => (huncounted ho hc).elim,
      fun ho _ hl => ?_, fun hr => absurd hr hnone, fun _ hr => absurd hr hanswered,
      fun e he id hid => ?_, h.stale⟩
    · -- what an open observer has is registered, and the broker keeps it
      have hreg : s.registered = true := h.registered ho hsome hl
      obtain ⟨hc, ha, -⟩ := isOpen_iff.mp ho
      rcases hK with hc' | ha' | hok' | hp | hr
      · exact absurd (hc.symm.trans hc') Bool.false_ne_true
      · exact absurd (ha.symm.trans ha') Bool.false_ne_true
      · exact absurd hok' hok
      · simp [hreg, hp]
      · exact absurd (hr.symm.trans hreg) Bool.false_ne_true
    · cases he
      cases hid

/-- The listener restores the entries in the new session. -/
theorem InPlace.restores (h : s.InPlace) {ok : Bool} (hK : s.KeepsWatch (.restores ok))
    (hsettled : s.isSettled = true) :
    { s.restores ok with link := .restored }.InPlace := by
  simp only [isSettled, Bool.and_eq_true, Bool.not_eq_true', bne_iff_ne, ne_eq] at hsettled
  obtain ⟨⟨-, hanswered⟩, -⟩ := hsettled
  unfold Observer.restores
  split
  · rename_i hentry
    refine ⟨h.entry, h.pending, fun _ he => ?_, h.requested, fun _ hr => absurd hr hanswered,
      h.last, h.stale⟩
    have he' : s.entry.isSome = true := he
    rw [hentry] at he'
    cases he'
  · rename_i entry hentry
    have hsome : s.entry.isSome = true := by rw [hentry]; rfl
    -- the entry of an open observer is restored, and it is not about to go
    have hfree : s.isOpen = true → ok = true ∧ entry.pendingUnsubscribe = none := by
      intro ho
      obtain ⟨hc, ha, -⟩ := isOpen_iff.mp ho
      rcases hK with hc' | ha' | hK
      · exact absurd (hc.symm.trans hc') Bool.false_ne_true
      · exact absurd (ha.symm.trans ha') Bool.false_ne_true
      · exact hK entry hentry
    split
    · refine ⟨fun _ _ => rfl, fun ho hc e he hp => ?_, fun _ _ _ => rfl, fun hr => ?_,
        fun _ _ _ => rfl,
        fun e he id hid => ?_, fun ho => ?_⟩
      · cases he
        cases hp
      · have hn := h.requested hr
        rw [hentry] at hn
        cases hn
      · cases he
        cases hid
      · have hstale : s.staleUnsubscribes = 0 := h.stale ho
        simp [hstale, (hfree ho).2]
    · rename_i hok
      refine ⟨h.entry, h.pending, fun ho _ _ => ?_, h.requested, fun _ hr => absurd hr hanswered,
        h.last, h.stale⟩
      exact absurd (hfree ho).1 hok

/-- An observer that is aborted is open no more. -/
theorem InPlace.abort (h : s.InPlace) : s.abort.InPlace := by
  have hin : ({ s with aborted := true } : Observer).InPlace :=
    inPlace_of_not_open (by simp [isOpen]) h.requested h.last
  have hin' := hin.unsubscribeHandle (by simp [isOpen])
  unfold Observer.abort
  dsimp only
  split
  · exact hin'.congr (by constructor <;> exact Eq.refl _)
  · exact hin'

/-- The reconnect listener of the observer asks for a pass. -/
theorem InPlace.reconnected (h : s.InPlace) : s.reconnected.InPlace := by
  unfold Observer.reconnected
  split
  · exact (h.congr (sameSubscription_requestReconcile (g := true))).congr
      (by constructor <;> exact Eq.refl _)
  · exact h.congr (by constructor <;> exact Eq.refl _)

/-- A session that restores nothing finds no entry. -/
theorem InPlace.connects (h : s.InPlace) (hK : s.KeepsWatch .connects)
    (hsettled : s.isSettled = true) :
    { s with link := .ready, session := s.session + 1, registered := false }.InPlace := by
  simp only [isSettled, Bool.and_eq_true, bne_iff_ne, ne_eq] at hsettled
  refine ⟨h.entry, h.pending, fun ho he _ => ?_, h.requested, fun _ ha => absurd ha hsettled.1.2,
    h.last, h.stale⟩
  obtain ⟨hc, ha, -⟩ := isOpen_iff.mp ho
  rcases hK with hc' | ha' | hnone
  · exact absurd (Eq.trans (Eq.symm hc) hc') Bool.false_ne_true
  · exact absurd (Eq.trans (Eq.symm ha) ha') Bool.false_ne_true
  · have he' : s.entry.isSome = true := he
    rw [hnone] at he'
    cases he'

/-- The listeners are called, or have returned, after the restore. -/
theorem InPlace.relinked (h : s.InPlace) (hrestored : s.link.isRestored = true) (link : Link) :
    { s with link := link }.InPlace :=
  ⟨h.entry, h.pending, fun ho he _ => h.registered ho he hrestored, h.requested,
    fun ho ha _ => h.answered ho ha hrestored, h.last, h.stale⟩

/-- A notification for the observer. -/
theorem InPlace.invalidate (h : s.InPlace) : s.invalidate.InPlace := by
  have hsame : SameSubscription s { s with invalidations := s.invalidations + 1 } := by
    constructor <;> exact Eq.refl _
  exact h.congr (hsame.trans sameSubscription_requestReconcile)

/-- SUBSCRIBE is answered: the broker has registered the pattern, and nobody else has an entry. -/
theorem InPlace.subscribed (h : s.InPlace) (hrequested : s.subscribing = some .requested) :
    { s with subscribing := some .answered, registered := true }.InPlace := by
  have hentry := h.requested (Or.inl hrequested)
  have hready : ({ s with subscribing := some .answered, registered := true } :
      Observer).counts = true → s.counts = true := by
    intro hc
    have hr : s.subscriptionReady = true := by simpa [counts] using hc
    simp [counts, hr]
  exact ⟨fun ho hc => h.entry ho (hready hc), fun ho hc => h.pending ho (hready hc),
    fun _ _ _ => rfl, fun _ => hentry, fun _ _ _ => rfl, h.last, h.stale⟩

/-- A subscription that fails leaves no entry of its own. -/
theorem InPlace.subscribeFails (h : s.InPlace) :
    { s with subscribing := some .failed }.InPlace := by
  have hready : ({ s with subscribing := some .failed } : Observer).counts = true →
      s.counts = true := by
    intro hc
    have hr : s.subscriptionReady = true := by simpa [counts] using hc
    simp [counts, hr]
  refine ⟨fun ho hc => h.entry ho (hready hc), fun ho hc => h.pending ho (hready hc),
    h.registered, fun hr => ?_, fun _ hr => ?_, h.last, h.stale⟩
  · rcases hr with hr | hr <;> cases hr
  · cases hr

/-- The handler of an answered SUBSCRIBE is added to a new entry. -/
theorem InPlace.subscribeAdds (h : s.InPlace) (hanswered : s.subscribing = some .answered) :
    s.addLocalSubscription.InPlace := by
  have hentry := h.requested (Or.inr hanswered)
  refine h.addLocalSubscription (fun e he => ?_) fun ho hl => h.answered ho hanswered hl
  rw [hentry] at he
  cases he

/-- An UNSUBSCRIBE whose entry is gone: only an observer that is not at work has one. -/
theorem InPlace.staleUnsubscribeSettles (h : s.InPlace) (hstale : 0 < s.staleUnsubscribes)
    (processed : Bool) :
    { s with
      staleUnsubscribes := s.staleUnsubscribes - 1
      registered := s.registered && !processed }.InPlace := by
  have hopen : s.isOpen = false := by
    by_contra ho
    have hnone := h.stale (by simpa using ho)
    omega
  exact inPlace_of_not_open hopen h.requested h.last

/-- **One event.** -/
theorem InPlace.act (h : s.InPlace) {e : Event} (hK : s.KeepsWatch e) (hs : s.act e = some s') :
    s'.InPlace := by
  cases acts_of_act hs with
  | disconnects | sessionBegins =>
      -- nothing is restored yet
      exact ⟨h.entry, h.pending, fun _ _ hl => (by cases hl), h.requested,
        fun _ _ hl => (by cases hl),
        h.last, h.stale⟩
  | restores hsettled => exact h.restores hK hsettled
  | reconnected hlink => exact (h.relinked (by rw [hlink]; rfl) .reconnected).reconnected
  | authenticated hlink => exact h.relinked (by rw [hlink]; rfl) .ready
  | connects hsettled => exact h.connects hK hsettled
  | unheard => exact h
  | refused => exact h.invalidate.fail
  | notified => exact h.invalidate
  | completionRejected hadded => exact h.completionRejected hadded
  | subscribed hrequested => exact h.subscribed hrequested
  | subscribeFails => exact h.subscribeFails
  | subscribeResumes => exact h.subscribe
  | subscribeAdds hanswered => exact h.subscribeAdds hanswered
  | bootstrapSubscribed hsub hstage => exact h.bootstrapSubscribed hstage hsub
  | recoverySubscribed hsub => exact h.recoverySubscribed hsub
  | pageAnswered | pageFails | listenerReturns | recoveryFinally | timerStops | timerContinues =>
      exact h.congr (by constructor <;> exact Eq.refl _)
  | passWakes => exact h.congr sameSubscription_loop
  | passContinues _ hs => exact h.congr (sameSubscription_passContinues hs)
  | passFinally => exact h.congr sameSubscription_passFinally
  | bootstrapReturns hstage =>
      refine h.congr ⟨?_, ?_, ?_, ?_, ?_, ?_, ?_, ?_, ?_⟩ <;> try exact Eq.refl _
      simp [isOpen, hstage]
  | bootstrapThrows =>
      have hin : ({ s with stage := .threw } : Observer).InPlace :=
        inPlace_of_not_open (by simp [isOpen]) h.requested h.last
      exact hin.unsubscribeHandle (by simp [isOpen])
  | listenerThrows =>
      have hin : ({ s with listener := none } : Observer).InPlace :=
        h.congr (by constructor <;> exact Eq.refl _)
      exact hin.recoverSubscription false
  | recoveryContinues =>
      unfold Observer.recoveryContinues
      split <;> exact h.congr (by constructor <;> exact Eq.refl _)
  | recoveryWakes => exact h.recoveryLoop
  | timerFires =>
      exact (h.congr (sameSubscription_requestReconcile (g := false))).congr
        (by constructor <;> exact Eq.refl _)
  | unsubscribeSettles hentry hpending hsettled =>
      exact h.unsubscribeSettles hentry hpending hsettled hK
  | staleUnsubscribeSettles hstale => exact h.staleUnsubscribeSettles hstale _
  | abort => exact h.abort
  | close => exact inPlace_of_not_open (by simp [isOpen, Observer.close]) h.requested h.last
  | closeContinues hclosed => exact h.unsubscribeHandle (by simp [isOpen, hclosed])

end Observer

end FitzTs.Lease.Inventory
