import FitzTs.Domains.Lease.InventorySubscription
/-!
# FitzTs.Domains.Lease.InventorySnapshots

**Whether an installed view is a snapshot.** A pass reads its pages one by one, and
a page may be answered in a later session than the one before it. After the bootstrap
the reconnect listener asks for another pass, so what spans a reconnect is dropped;
before, nobody listens. And the observer takes it for granted that its subscription
is in place: a restore that failed, a `connect()` that restores nothing or an
UNSUBSCRIBE the broker has processed although its request failed goes unnoticed.

`keepsWatch_run`: in a run that avoids these, every view installed comes from one
complete pass of one session that held the subscription, and nothing arrived during
it. `keepsWatch_run_fails`: a bootstrap whose pages span a reconnect does not.
-/

namespace FitzTs.Lease.Inventory

/-! ### Snapshots -/

/-- The pages of one scan, read to its end. -/
def Complete (pages : List LeaseListPage) : Prop :=
  ∃ earlier last, pages = earlier ++ [last] ∧ last.nextCursor = none ∧
    ∀ page ∈ earlier, page.nextCursor.isSome = true

/-- The view is that of one complete pass, all in one session that held the
subscription throughout, and no invalidation arrived from its beginning until it was
installed. -/
structure Install.RaceFree (install : Install) : Prop where
  view : install.view = fullRelist install.pass.pages
  complete : Complete install.pass.pages
  oneSession : ∀ a ∈ install.pass.answers, a.session = install.pass.session
  registered : install.pass.registered = true
  quiet : install.arrived = install.pass.startedAt

namespace Observer

/-- Every view installed is a snapshot. -/
def Snapshots (s : Observer) : Prop := ∀ install ∈ s.installs, install.RaceFree

variable {s s' : Observer}

/-! ### The passes -/

/-- What holds of the passes whatever is asked of the observer. -/
structure Paged (s : Observer) : Prop where
  installs : s.Snapshots
  generation : ∀ p, s.activeReconcile = some p →
    p.passSubscriptionGeneration ≤ s.subscriptionGeneration
  paged : ∀ p, s.activeReconcile = some p → p.phase = .fetching →
    ∀ page ∈ p.pages, page.nextCursor.isSome = true
  complete : ∀ p, s.activeReconcile = some p → p.phase = .collected → Complete p.pages

/-- A pass that will be installed has read its pages in one session that holds the
subscription. -/
structure Fetched (s : Observer) : Prop extends Paged s where
  raced : ∀ p, s.activeReconcile = some p → s.mayInstall p = true → s.invalidations = p.startedAt
  current : ∀ p, s.activeReconcile = some p → s.isOpen = true → s.mayInstall p = true →
    p.phase = .fetching → s.link.isUp = true →
    p.registered = true ∧ p.session = s.session ∧ ∀ a ∈ p.answers, a.session = p.session
  collected : ∀ p, s.activeReconcile = some p → s.mayInstall p = true → p.phase = .collected →
    p.registered = true ∧ ∀ a ∈ p.answers, a.session = p.session

theorem Paged.congr (h : s.Paged) (hs : SamePasses s s') : s'.Paged where
  installs := by
    rw [Snapshots, hs.installs]
    exact h.installs
  generation := by
    rw [hs.active, hs.generation]
    exact h.generation
  paged := by
    rw [hs.active]
    exact h.paged
  complete := by
    rw [hs.active]
    exact h.complete

/-- The invariant reads what `SameWork` compares. -/
theorem Fetched.congr (h : s.Fetched) (hs : SameWork s s') : s'.Fetched where
  toPaged := h.toPaged.congr hs.toSamePasses
  raced p hp hmay := by
    rw [hs.active] at hp
    rw [hs.mayInstall] at hmay
    rw [hs.invalidations]
    exact h.raced p hp hmay
  current p hp ho hmay hphase hl := by
    rw [hs.active] at hp
    rw [hs.isOpen] at ho
    rw [hs.mayInstall] at hmay
    rw [hs.link] at hl
    rw [hs.session]
    exact h.current p hp ho hmay hphase hl
  collected p hp hmay := by
    rw [hs.active] at hp
    rw [hs.mayInstall] at hmay
    exact h.collected p hp hmay

/-- While no pass will be installed there is nothing more to say of it. -/
theorem Paged.fetched (h : s.Paged) (hno : ∀ p, s.activeReconcile = some p →
    s.mayInstall p = false) : s.Fetched where
  toPaged := h
  raced p hp hmay := by rw [hno p hp] at hmay; cases hmay
  current p hp _ hmay := by rw [hno p hp] at hmay; cases hmay
  collected p hp hmay := by rw [hno p hp] at hmay; cases hmay

/-- The loop is left. -/
theorem Paged.ended (h : s.Paged) {p : Reconcile} (threw : Bool)
    (hp : p.passSubscriptionGeneration ≤ s.subscriptionGeneration) :
    { s with activeReconcile := some { p with phase := .ended threw } }.Paged where
  installs := h.installs
  generation := by
    rintro q ⟨⟩
    exact hp
  paged := by
    rintro q ⟨⟩ hq
    cases hq
  complete := by
    rintro q ⟨⟩ hq
    cases hq

theorem mayInstall_ended {p : Reconcile} {threw : Bool} :
    s.mayInstall { p with phase := .ended threw } = false := by
  simp [mayInstall]

theorem Link.isRestored_of_isUp {link : Link} (h : link.isUp = true) : link.isRestored = true := by
  cases link <;> first | rfl | cases h

/-- The next pass begins with no page. -/
theorem Paged.loop (h : s.Paged) (hin : s.InPlace) {p : Reconcile}
    (hp : p.passSubscriptionGeneration ≤ s.subscriptionGeneration) : (s.loop p).Fetched := by
  unfold Observer.loop
  split
  · rename_i hloop
    simp only [Bool.and_eq_true] at hloop
    refine ⟨⟨h.installs, ?_, ?_, ?_⟩, ?_, ?_, ?_⟩
    · rintro q ⟨⟩
      exact Nat.le_refl _
    · rintro q ⟨⟩ - page hpage
      cases hpage
    · rintro q ⟨⟩ hq
      cases hq
    · rintro q ⟨⟩ -
      rfl
    · rintro q ⟨⟩ ho - - hl
      -- the pass begins with its subscription in place
      have hcounts : s.counts = true := by simp [counts, hloop.1.2]
      refine ⟨hin.registered ho (hin.entry ho hcounts) (Link.isRestored_of_isUp hl), rfl, ?_⟩
      intro a ha
      cases ha
    · rintro q ⟨⟩ - hq
      cases hq
  · refine (h.ended _ hp).fetched ?_
    rintro q ⟨⟩
    exact mayInstall_ended

theorem Paged.request (h : s.Paged) {g : Bool} : (s.request g).Paged :=
  ⟨h.installs, h.generation, h.paged, h.complete⟩

/-- A pass that is asked for begins at once if none is running. -/
theorem Paged.requestReconcile (h : s.Paged) (hin : s.InPlace) {g : Bool} :
    (s.requestReconcile g).1.Fetched := by
  unfold Observer.requestReconcile
  split
  · refine Paged.fetched ⟨h.installs, h.generation, h.paged, h.complete⟩ fun p _ => ?_
    exact mayInstall_of_requested rfl
  · split
    · exact h.request.fetched fun p _ => mayInstall_of_requested rfl
    · split
      · exact h.request.fetched fun p _ => mayInstall_of_requested rfl
      · exact h.request.loop (hin.congr sameSubscription_request) (Nat.zero_le _)

theorem Fetched.recoveryLoop (h : s.Fetched) (hin : s.InPlace) : s.recoveryLoop.Fetched := by
  unfold Observer.recoveryLoop
  split
  · exact h.congr (by repeat' constructor)
  · split
    · exact (h.toPaged.requestReconcile hin).congr (by repeat' constructor)
    · have hsame : SameWork s { s with activeRecovery := some .subscribing } := by
        repeat' constructor
      exact (h.congr hsame).congr sameWork_subscribe

theorem mayInstall_unready {p : Reconcile} {subscriptionReady : Bool}
    (h : { s with
        ready := false
        subscriptionReady := s.subscriptionReady && subscriptionReady }.mayInstall
      p = true) : s.mayInstall p = true := by
  simp only [mayInstall, Bool.and_eq_true] at h ⊢
  exact ⟨⟨⟨h.1.1.1, h.1.1.2.1⟩, h.1.2⟩, h.2⟩

theorem Fetched.unready (h : s.Fetched) (subscriptionReady : Bool) :
    { s with ready := false, subscriptionReady := s.subscriptionReady && subscriptionReady }.Fetched
    where
  toPaged := ⟨h.installs, h.generation, h.paged, h.complete⟩
  raced p hp hmay := h.raced p hp (mayInstall_unready hmay)
  current p hp ho hmay := h.current p hp ho (mayInstall_unready hmay)
  collected p hp hmay := h.collected p hp (mayInstall_unready hmay)

theorem Fetched.recoverSubscription (h : s.Fetched) (hin : s.InPlace) (replace : Bool) :
    (s.recoverSubscription replace).Fetched := by
  unfold Observer.recoverSubscription
  split
  · exact h
  · exact (h.unready _).recoveryLoop (hin.unready _)

/-- The passes before the rejection are not installed. -/
theorem Fetched.completionRejected (h : s.Fetched) (hin : s.InPlace)
    (hadded : s.subscribing ≠ some .added) : s.completionRejected.Fetched := by
  unfold Observer.completionRejected
  dsimp only
  split
  · exact h.congr (by repeat' constructor)
  · refine Fetched.recoverSubscription ?_ ?_ true
    · refine Paged.fetched ⟨h.installs, fun p hp => ?_, h.paged, h.complete⟩ fun p _ => ?_
      · exact Nat.le_trans (h.generation p hp) (Nat.le_succ _)
      · exact mayInstall_of_requested rfl
    · refine ⟨fun _ hc => ?_, fun _ hc => ?_, hin.registered, hin.requested, hin.answered,
        hin.last, hin.stale⟩
      all_goals simp [counts, hadded] at hc

theorem Paged.adopt (h : s.Paged) : s.adopt.Paged where
  installs := h.installs
  generation p hp := Nat.le_trans (h.generation p hp) (Nat.le_succ _)
  paged := h.paged
  complete := h.complete

/-- A new subscription counts as another generation. -/
theorem Fetched.recoverySubscribed (h : s.Fetched) (hin : s.InPlace)
    (hsub : s.subscribing = some .added ∨ s.subscribing = some .failed) :
    (s.recoverySubscribed (s.subscribing = some .failed)).Fetched := by
  unfold Observer.recoverySubscribed
  split
  · exact h.congr (by repeat' constructor)
  · rename_i hfailed
    have hadded : s.subscribing = some .added := by
      rcases hsub with hsub | hsub
      · exact hsub
      · exact absurd (by simpa using hsub) hfailed
    split
    · have hsame : SameWork s { s with subscribing := none, activeRecovery := some .ended } := by
        repeat' constructor
      exact (h.congr hsame).congr sameWork_unsubscribeHandle
    · exact (h.toPaged.adopt.requestReconcile (hin.adopt hadded)).congr (by repeat' constructor)

theorem Fetched.bootstrapSubscribed (h : s.Fetched) (hin : s.InPlace)
    (hstage : s.stage = .subscribing)
    (hsub : s.subscribing = some .added ∨ s.subscribing = some .failed) :
    (s.bootstrapSubscribed (s.subscribing = some .failed)).Fetched := by
  unfold Observer.bootstrapSubscribed
  split
  · refine ⟨⟨h.installs, h.generation, h.paged, h.complete⟩, h.raced, fun p _ ho => ?_, h.collected⟩
    simp [isOpen] at ho
  · rename_i hfailed
    have hadded : s.subscribing = some .added := by
      rcases hsub with hsub | hsub
      · exact hsub
      · exact absurd (by simpa using hsub) hfailed
    have hstage' : (s.adopt.requestReconcile true).1.stage = .subscribing :=
      requestReconcile_stage.trans hstage
    refine (h.toPaged.adopt.requestReconcile (g := true) (hin.adopt hadded)).congr ?_
    refine ⟨by constructor <;> rfl, rfl, rfl, ?_⟩
    simp [isOpen, hstage']

theorem Paged.sleeping (h : s.Paged) {p : Reconcile} (hp : s.activeReconcile = some p) :
    { s with activeReconcile := some { p with phase := .sleeping } }.Paged where
  installs := h.installs
  generation := by
    rintro q ⟨⟩
    exact h.generation p hp
  paged := by
    rintro q ⟨⟩ hq
    cases hq
  complete := by
    rintro q ⟨⟩ hq
    cases hq

/-- A pass that is complete installs the map of its pages. -/
theorem Fetched.passContinues (h : s.Fetched) {p : Reconcile} (hp : s.activeReconcile = some p)
    (hs : s.passContinues p = some s') : s'.Fetched := by
  have hgen := h.generation p hp
  have hended : ∀ threw, ∀ q, ({ s with
      activeReconcile := some { p with phase := .ended threw } } : Observer).activeReconcile = some
      q →
        ({ s with activeReconcile := some { p with phase := .ended threw } } : Observer).mayInstall
          q =
          false := by
    rintro threw q ⟨⟩
    exact mayInstall_ended
  unfold Observer.passContinues at hs
  split at hs
  · cases hs
    exact (h.toPaged.ended _ hgen).fetched (hended true)
  · rename_i hphase
    split at hs
    · cases hs
      exact (h.toPaged.ended _ hgen).fetched (hended false)
    · rename_i hopen
      split at hs
      · cases hs
        have hreq : ({ s with reconcileRequested := true } : Observer).Paged :=
          ⟨h.installs, h.generation, h.paged, h.complete⟩
        exact (hreq.ended _ hgen).fetched fun q _ => mayInstall_of_requested rfl
      · rename_i hsame
        split at hs
        · rename_i hreq
          cases hs
          exact (h.toPaged.sleeping hp).fetched fun q _ => mayInstall_of_requested hreq
        · rename_i hreq
          cases hs
          simp only [Bool.or_eq_true, Bool.not_eq_true', bne_iff_ne, ne_eq, not_or,
            Bool.not_eq_false, not_not] at hsame
          have hmay : s.mayInstall p = true := by
            simp [mayInstall, hphase, hsame.1, hsame.2, hopen, hreq]
          obtain ⟨hregistered, hsession⟩ := h.collected p hp hmay hphase
          have hinstalls : (s.install p).Snapshots := by
            intro i hi
            rcases List.mem_cons.mp hi with rfl | hi
            · exact ⟨rfl, h.complete p hp hphase, hsession, hregistered, h.raced p hp hmay⟩
            · exact h.installs i hi
          have hpaged := h.toPaged.ended (p := p) false hgen
          refine Paged.fetched ⟨hinstalls, hpaged.generation, hpaged.paged, hpaged.complete⟩ ?_
          rintro q ⟨⟩
          exact mayInstall_ended
  all_goals cases hs

theorem Fetched.passFinally (h : s.Fetched) (hin : s.InPlace) {threw : Bool} :
    (s.passFinally threw).Fetched := by
  have hnone : (({ s with activeReconcile := none } : Observer).settle threw).Paged :=
    ⟨h.installs, fun _ hp => (nomatch hp), fun _ hp => (nomatch hp), fun _ hp => (nomatch hp)⟩
  have hended : SameSubscription s { s with activeReconcile := none } := by
    constructor <;> exact Eq.refl _
  unfold Observer.passFinally
  dsimp only
  split
  · exact hnone.requestReconcile ((hin.congr hended).congr (sameSubscription_settle _))
  · exact hnone.fetched fun _ hp => (nomatch hp)

/-- A page of the current snapshot follows those the pass has read. -/
theorem Fetched.answer (h : s.Fetched) {p : Reconcile} {page : LeaseListPage}
    (hp : s.activeReconcile = some p) (hphase : p.phase = .fetching) (hlink : s.link = .ready)
    (haborted : s.aborted = false) (hstage : s.stage ≠ .threw) : (s.answer p page).Fetched := by
  have hpages : ∀ q, (s.answer p page).activeReconcile = some q → q.pages = p.pages ++ [page] := by
    rintro q ⟨⟩
    simp [Reconcile.pages]
  -- what may be installed after the answer could be installed before
  have hmay : ∀ q, (s.answer p page).activeReconcile = some q →
      (s.answer p page).mayInstall q = true → s.mayInstall p = true := by
    rintro q ⟨⟩ hmay
    simp only [mayInstall, Bool.and_eq_true] at hmay ⊢
    exact ⟨hmay.1, by simp [hphase, haborted]⟩
  have hnow : s.mayInstall p = true → p.registered = true ∧ p.session = s.session ∧
      ∀ a ∈ p.answers, a.session = p.session := by
    intro hm
    have hclosed : s.closed = false := by
      by_contra hc
      rw [mayInstall_of_closed (by simpa using hc)] at hm
      cases hm
    exact h.current p hp (isOpen_iff.mpr ⟨hclosed, haborted, hstage⟩) hm hphase (by rw [hlink]; rfl)
  have hanswers : s.mayInstall p = true →
      ∀ a ∈ p.answers ++ [⟨page, s.session⟩], a.session = p.session := by
    intro hm a ha
    obtain ⟨-, hsession, hall⟩ := hnow hm
    rcases List.mem_append.mp ha with ha | ha
    · exact hall a ha
    · rw [List.mem_singleton.mp ha]
      exact hsession.symm
  refine ⟨⟨h.installs, ?_, fun q hq hfetch => ?_, fun q hq hcollect => ?_⟩, fun q hq hm => ?_,
    fun q hq _ hm _ _ => ?_, fun q hq hm _ => ?_⟩
  · rintro q ⟨⟩
    exact h.generation p hp
  · rw [hpages q hq]
    -- a page with a cursor is followed by another
    have hmore : page.nextCursor.isSome = true := by
      by_contra hlast
      cases hq
      simp [hlast] at hfetch
    intro x hx
    rcases List.mem_append.mp hx with hx | hx
    · exact h.paged p hp hphase x hx
    · rw [List.mem_singleton.mp hx]
      exact hmore
  · rw [hpages q hq]
    -- the last page has none
    have hlast : page.nextCursor = none := by
      by_contra hmore
      cases hq
      simp [Option.isSome_iff_ne_none.mpr hmore] at hcollect
    exact ⟨p.pages, page, rfl, hlast, h.paged p hp hphase⟩
  · have hm' := hmay q hq hm
    cases hq
    exact h.raced p hp hm'
  · have hm' := hmay q hq hm
    cases hq
    exact ⟨(hnow hm').1, (hnow hm').2.1, hanswers hm'⟩
  · have hm' := hmay q hq hm
    cases hq
    exact ⟨(hnow hm').1, hanswers hm'⟩

/-- A pass that waits keeps track of whether the subscription is in place. -/
theorem Fetched.note (h : s.Fetched) (hin : s.InPlace) : s.note.Fetched := by
  unfold Observer.note
  split
  · rename_i p hp
    split
    · rename_i hphase
      refine ⟨⟨h.installs, ?_, ?_, ?_⟩, ?_, ?_, ?_⟩
      · rintro q ⟨⟩
        exact h.generation p hp
      · rintro q ⟨⟩ -
        exact h.paged p hp hphase
      · rintro q ⟨⟩ hq
        rw [hphase] at hq
        cases hq
      · rintro q ⟨⟩ hmay
        exact h.raced p hp hmay
      · rintro q ⟨⟩ ho hmay - hl
        have hmay' : s.mayInstall p = true := hmay
        obtain ⟨hregistered, hsession, hall⟩ := h.current p hp ho hmay' hphase hl
        have hready : s.counts = true := by
          simp only [mayInstall, Bool.and_eq_true] at hmay'
          simp [counts, hmay'.1.1.2]
        have hreg : s.registered = true :=
          hin.registered ho (hin.entry ho hready) (Link.isRestored_of_isUp hl)
        exact ⟨by simp [hregistered, hreg, hsession], hsession, hall⟩
      · rintro q ⟨⟩ - hq
        rw [hphase] at hq
        cases hq
    · exact h
  · exact h

theorem Fetched.pageFails (h : s.Fetched) {p : Reconcile} (hp : s.activeReconcile = some p) :
    { s with activeReconcile := some { p with phase := .failed } }.Fetched := by
  refine Paged.fetched ⟨h.installs, ?_, ?_, ?_⟩ ?_
  · rintro q ⟨⟩
    exact h.generation p hp
  · rintro q ⟨⟩ hq
    cases hq
  · rintro q ⟨⟩ hq
    cases hq
  · rintro q ⟨⟩
    simp [mayInstall]

/-- After a reconnect no pass that runs is installed. -/
theorem Fetched.reconnected (h : s.Paged) (hin : s.InPlace)
    (hK : s.KeepsWatch .reconnected) : s.reconnected.Fetched := by
  unfold Observer.reconnected
  split
  · exact (h.requestReconcile hin).congr (by repeat' constructor)
  · rename_i hdeaf
    refine Paged.fetched ⟨h.installs, h.generation, h.paged, h.complete⟩ fun p hp => ?_
    rcases hK with hl | hno
    · have hc : s.closed = true := by simpa [hl] using hdeaf
      exact mayInstall_of_closed hc
    · exact hno p hp

theorem Fetched.abort (h : s.Fetched) : s.abort.Fetched := by
  have haborted : ({ s with aborted := true } : Observer).Fetched := by
    have hmay : ∀ p, ({ s with aborted := true } : Observer).mayInstall p = true →
        s.mayInstall p = true := by
      intro p hmay
      simp only [mayInstall, Bool.and_eq_true, Bool.or_eq_true] at hmay ⊢
      exact ⟨hmay.1, hmay.2.imp_right fun hfetch => absurd hfetch.2 Bool.false_ne_true⟩
    refine ⟨⟨h.installs, h.generation, h.paged, h.complete⟩,
      fun p hp hm => h.raced p hp (hmay p hm),
      fun p _ ho => ?_, fun p hp hm => h.collected p hp (hmay p hm)⟩
    simp [isOpen] at ho
  have hsame := sameWork_unsubscribeHandle (s := { s with aborted := true })
  unfold Observer.abort
  dsimp only
  split
  · exact ((haborted.congr hsame).unready true).congr ⟨by constructor <;> simp, rfl, rfl, rfl⟩
  · exact haborted.congr hsame

/-- A session that restores nothing: no pass is under way without an entry. -/
theorem Fetched.connects (h : s.Fetched) (hin : s.InPlace) (hK : s.KeepsWatch .connects) :
    { s with link := .ready, session := s.session + 1, registered := false }.Fetched := by
  refine ⟨⟨h.installs, h.generation, h.paged, h.complete⟩, h.raced, fun p hp ho hm _ _ => ?_,
    h.collected⟩
  obtain ⟨hc, ha, -⟩ := isOpen_iff.mp ho
  rcases hK with hc' | ha' | hnone
  · exact absurd (Eq.trans (Eq.symm hc) hc') Bool.false_ne_true
  · exact absurd (Eq.trans (Eq.symm ha) ha') Bool.false_ne_true
  · have hready : s.counts = true := by
      have hm' : s.mayInstall p = true := hm
      simp only [mayInstall, Bool.and_eq_true] at hm'
      simp [counts, hm'.1.1.2]
    have he := hin.entry ho hready
    rw [hnone] at he
    cases he

theorem Fetched.invalidate (h : s.Fetched) (hin : s.InPlace) : s.invalidate.Fetched := by
  have hsame : SameSubscription s { s with invalidations := s.invalidations + 1 } := by
    constructor <;> exact Eq.refl _
  have hpaged : ({ s with invalidations := s.invalidations + 1 } : Observer).Paged :=
    ⟨h.installs, h.generation, h.paged, h.complete⟩
  exact hpaged.requestReconcile (hin.congr hsame)

/-- **One event.** -/
theorem Fetched.act (h : s.Fetched) (hin : s.InPlace) (hstage : s.stage ≠ .threw) {e : Event}
    (hK : s.KeepsWatch e) (hs : s.act e = some s') : s'.Fetched := by
  have hpaged := h.toPaged
  cases acts_of_act hs with
  | disconnects | sessionBegins =>
      exact ⟨⟨h.installs, h.generation, h.paged, h.complete⟩, h.raced,
        fun _ _ _ _ _ hl => (by cases hl), h.collected⟩
  | @restores ok =>
      have hrestored := h.congr (sameWork_restores ok)
      exact ⟨⟨hrestored.installs, hrestored.generation, hrestored.paged, hrestored.complete⟩,
        hrestored.raced, fun _ _ _ _ _ hl => (by cases hl), hrestored.collected⟩
  -- no pass that runs now is installed
  | reconnected hlink =>
      exact Fetched.reconnected ⟨h.installs, h.generation, h.paged, h.complete⟩
        (hin.relinked (by rw [hlink]; rfl) .reconnected) hK
  | authenticated hlink =>
      exact ⟨⟨h.installs, h.generation, h.paged, h.complete⟩, h.raced,
        fun p hp ho hm hf _ => h.current p hp ho hm hf (by rw [hlink]; rfl), h.collected⟩
  | connects => exact h.connects hin hK
  | unheard => exact h
  | refused => exact (h.invalidate hin).congr sameWork_fail
  | notified => exact h.invalidate hin
  | completionRejected hadded => exact h.completionRejected hin hadded
  | subscribed | subscribeFails | subscribeAdds | recoveryFinally | staleUnsubscribeSettles
  | listenerReturns | timerStops | timerContinues =>
      exact h.congr (by repeat' constructor)
  | subscribeResumes => exact h.congr sameWork_subscribe
  | bootstrapSubscribed hsub hboot => exact h.bootstrapSubscribed hin hboot hsub
  | recoverySubscribed hsub => exact h.recoverySubscribed hin hsub
  -- the answer is of the session the pass has asked in
  | pageAnswered hp hphase hlink haborted => exact h.answer hp hphase hlink haborted hstage
  | pageFails hp => exact h.pageFails hp
  | passContinues hp hs => exact h.passContinues hp hs
  | passWakes hp => exact hpaged.loop hin (h.generation _ hp)
  | passFinally => exact h.passFinally hin
  | bootstrapReturns hboot =>
      refine h.congr ⟨by constructor <;> rfl, rfl, rfl, ?_⟩
      simp [isOpen, hboot]
  -- nothing is installed after a failed bootstrap
  | bootstrapThrows =>
      have hthrew : ({ s with stage := .threw } : Observer).Fetched :=
        ⟨⟨h.installs, h.generation, h.paged, h.complete⟩, h.raced,
          fun p _ ho => by simp [isOpen] at ho, h.collected⟩
      exact hthrew.congr sameWork_unsubscribeHandle
  | listenerThrows =>
      have hnone : ({ s with listener := none } : Observer).Fetched :=
        h.congr (by repeat' constructor)
      have hin' : ({ s with listener := none } : Observer).InPlace :=
        hin.congr (by constructor <;> exact Eq.refl _)
      exact hnone.recoverSubscription hin' false
  | recoveryContinues =>
      unfold Observer.recoveryContinues
      split <;> exact h.congr (by repeat' constructor)
  | recoveryWakes => exact h.recoveryLoop hin
  | timerFires => exact (hpaged.requestReconcile (g := false) hin).congr (by repeat' constructor)
  | unsubscribeSettles => exact h.congr sameWork_unsubscribeSettles
  | abort => exact h.abort
  | close =>
      exact Paged.fetched ⟨h.installs, h.generation, h.paged, h.complete⟩
        fun p _ => mayInstall_of_closed rfl
  | closeContinues => exact h.congr sameWork_unsubscribeHandle

/-! ### Runs -/

/-- The observer's subscription and passes. -/
structure Watched (s : Observer) : Prop where
  inPlace : s.InPlace
  fetched : s.Fetched

theorem watched_create : create.Watched where
  inPlace := by
    refine ⟨fun _ hc => ?_, fun _ hc => ?_, fun _ he => ?_, fun _ => rfl, fun _ hr => ?_,
      fun _ he => ?_, fun _ => rfl⟩
    · exact absurd hc (by decide)
    · exact absurd hc (by decide)
    · cases he
    · cases hr
    · cases he
  fetched :=
    Paged.fetched ⟨fun _ hi => (nomatch hi), fun _ hp => (nomatch hp), fun _ hp => (nomatch hp),
      fun _ hp => (nomatch hp)⟩ fun _ hp => (nomatch hp)

/-- The step lemma. -/
theorem Watched.step (h : s.Watched) {e : Event} (hK : s.KeepsWatch e) (hs : s.step e = some s') :
    s'.Watched := by
  have hstage : s.stage ≠ .threw := by
    intro hthrew
    rw [Observer.step, if_pos hthrew] at hs
    cases hs
  obtain ⟨s₁, h₁, rfl⟩ := step_eq hs
  have hin := h.inPlace.act hK h₁
  exact ⟨hin.congr sameSubscription_note, (h.fetched.act h.inPlace hstage hK h₁).note hin⟩

/-- **Views are snapshots** in a run that keeps the subscription in place: every view
installed was collected by one complete pass, all in one session that held the
subscription throughout, and nothing arrived during it. -/
theorem keepsWatch_run {es : List Event} (hK : machine.Guarded KeepsWatch machine.init es) :
    machine.Throughout Snapshots machine.init es :=
  Machine.Guarded.throughout (I := Watched) (fun _ _ _ h hK hs => h.step hK hs)
    (fun _ h => h.fetched.installs) watched_create hK

/-- The bootstrap's pass has read its first page. -/
def bootstrapRun : List Event :=
  [.connects, .subscribed, .subscribeAdds, .subscribeContinues, .pageAnswered ⟨[], some ⟨7, 100⟩⟩]

/-- The second page comes in the same session. -/
theorem keepsWatch_run_paged :
    (machine.run (bootstrapRun ++ [.pageAnswered ⟨[], none⟩, .passContinues])).isSome ∧
      machine.Throughout Snapshots machine.init
        (bootstrapRun ++ [.pageAnswered ⟨[], none⟩, .passContinues]) :=
  ⟨by decide +kernel, keepsWatch_run (by decide +kernel)⟩

/-- The connection is lost between the two pages: the second is answered in the next
session, no listener hears of the reconnect, and the view is installed. -/
theorem keepsWatch_run_fails :
    ∃ s, machine.run (bootstrapRun ++ [.disconnects, .sessionBegins, .restores true, .reconnected,
        .authenticated, .pageAnswered ⟨[], none⟩, .passContinues]) = some s ∧
      s.ready = true ∧ ¬ s.Snapshots := by
  refine ⟨_, rfl, by decide +kernel, fun h => ?_⟩
  have hsession := (h _ (List.mem_cons_self ..)).oneSession ⟨⟨[], none⟩, 2⟩
  exact absurd (hsession (by decide +kernel)) (by decide +kernel)

end Observer

end FitzTs.Lease.Inventory
