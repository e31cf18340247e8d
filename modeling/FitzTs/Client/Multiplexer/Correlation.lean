import FitzTs.Client.Multiplexer.Outcome
/-!
# FitzTs.Client.Multiplexer.Correlation

Correlation safety: a request is settled once, by the final answer to its own
identifier if it is fulfilled, and what ends one request leaves the entries of
the others alone.

The first two hold of every run. The third fails in one way: a send that rejects
deletes the entry under its identifier even when, after a reconnect has started
the identifiers again, that entry is another request's (`Owned`).
-/

namespace FitzTs.Client.Multiplexer

variable {m m' : Multiplexer} {r q : RequestId}

/-! ### Leaving the others alone -/

/-- The entry of request `q` is where it was, if it had one. -/
structure EntryKept (m m' : Multiplexer) (q : RequestId) : Prop where
  correlated : ∀ c, m.pendingByCorrelation.get? c = some q →
    m'.pendingByCorrelation.get? c = some q
  uncorrelated : ∀ t ring, m.pending.get? t = some ring → ring.Stores q →
    ∃ ring', m'.pending.get? t = some ring' ∧ ring'.Stores q

/-- What a request causes (its late or failed send, its abort, its timeout) neither
moves nor settles the entry of another. -/
def Spares (m : Multiplexer) (e : Event) (m' : Multiplexer) : Prop :=
  match e with
  | .sendResolved r | .sendRejected r _ | .abort r =>
    ∀ q, q ≠ r → EntryKept m m' q ∧ (m'.requests q).settled = (m.requests q).settled
  | .timer nowMs =>
    ∀ q, EntryKept m m' q ∧
      ((m.requests q).deadline ≤ nowMs ∨ (m'.requests q).settled = (m.requests q).settled)
  | _ => True

/-- The steps that delete no entry of another request: a send rejects for a
settled or an uncorrelated request, or nothing but its own entry is stored under
its identifier. -/
def Owned (m : Multiplexer) : Event → Prop
  | .sendRejected r _ =>
    (m.requests r).settled = true ∨
      ∀ c q, (m.requests r).correlationId = some c → m.pendingByCorrelation.get? c = some q → q = r
  | _ => True

theorem SameEntries.entryKept (h : SameEntries m m') (q : RequestId) : EntryKept m m' q :=
  ⟨fun _ hc => h.pendingByCorrelation ▸ hc, fun _ ring hring hq => ⟨ring, h.pending ▸ hring, hq⟩⟩

theorem Takes.entryKept {t : MessageType} (h : Takes m r t m' none) (hm : m.Filed)
    (hq : q ≠ r) : EntryKept m m' q := by
  cases h with
  | @uncorrelated ring ring' stored without hby hpending =>
      refine ⟨fun _ hc => hby ▸ hc, fun t' ring₂ hring hst => ?_⟩
      rw [hpending]
      by_cases ht : t' = t
      · subst ht
        obtain rfl := Option.some.inj (stored.symm.trans hring)
        have hst' := (without.stores_iff hq).mpr hst
        have hpos := (without.indexed (hm.ring stored)).size_pos hst'
        rw [if_neg (Nat.pos_iff_ne_zero.mp hpos)]
        exact ⟨ring', OrderedMap.get?_set_self .., hst'⟩
      · refine ⟨ring₂, ?_, hst⟩
        split
        · rw [OrderedMap.get?_delete_of_ne _ ht]
          exact hring
        · rw [OrderedMap.get?_set_of_ne _ _ ht]
          exact hring

theorem Quiet.spares (h : Quiet m m') (q : RequestId) :
    EntryKept m m' q ∧ (m'.requests q).settled = (m.requests q).settled :=
  ⟨h.toSameEntries.entryKept q, (h.requests q).settled⟩

/-- Failing a request in place spares the others. -/
theorem Tombstones.spares {m₁ : Multiplexer} {s : Settlement} (ht : Tombstones m₁ r s m')
    (hq : Quiet m m₁) (hne : q ≠ r) :
    EntryKept m m' q ∧ (m'.requests q).settled = (m.requests q).settled := by
  refine ⟨(hq.toSameEntries.trans ht.toSameEntries).entryKept q, ?_⟩
  rw [ht.others q hne]
  exact (hq.requests q).settled

/-- A timer leaves every entry where it is, and settles what is due. -/
theorem handleTimeouts_spares (h : m.WellFormed) {nowMs : Nat}
    (ht : m.handleTimeouts nowMs = some m') (q : RequestId) :
    EntryKept m m' q ∧
      ((m.requests q).deadline ≤ nowMs ∨ (m'.requests q).settled = (m.requests q).settled) := by
  obtain ⟨-, hsame, hdue⟩ := handleTimeouts_induction h
    (P := fun m₁ => SameEntries m m₁ ∧
      ∀ q, (m.requests q).deadline ≤ nowMs ∨ m₁.requests q = m.requests q)
    (fun _ _ hP hq _ hreq => ⟨hP.1.trans hq.toSameEntries, fun q => by rw [hreq]; exact hP.2 q⟩)
    (fun m₁ r m₂ _ hP he => by
      refine ⟨?_, fun q => ?_⟩
      · rcases he.result with ⟨hq, -⟩ | ⟨m₃, error, hq, -, ht⟩
        · exact hP.1.trans hq.toSameEntries
        · exact hP.1.trans (hq.toSameEntries.trans ht.toSameEntries)
      · by_cases hqr : q = r
        · subst hqr
          refine Or.inl ((hP.2 q).elim id fun heq => ?_)
          have hd := he.due
          rw [heq] at hd
          exact hd
        · rw [he.others q hqr]
          exact hP.2 q) ⟨.refl m, fun _ => Or.inr rfl⟩ ht
  exact ⟨hsame.entryKept q, (hdue q).imp_right fun heq => by rw [heq]⟩

/-- A step spares the other requests exactly when it is `Owned`. -/
theorem Outcome.spares_iff (h : m.WellFormed) {e : Event} (ho : Outcome m e m') :
    Spares m e m' ↔ m.Owned e := by
  have hquiet : ∀ {e}, m.Idle e → Quiet m m' → (Spares m e m' ↔ m.Owned e) := by
    intro e hidle hq
    cases e with
    | sendResolved r => exact iff_of_true (fun q _ => hq.spares q) trivial
    | sendRejected r error => exact iff_of_true (fun q _ => hq.spares q) (Or.inl hidle)
    | abort r => exact iff_of_true (fun q _ => hq.spares q) trivial
    | timer nowMs =>
        exact iff_of_true (fun q => ⟨(hq.spares q).1, Or.inr (hq.spares q).2⟩) trivial
    | _ => exact Iff.rfl
  cases ho with
  | refused _ hi => exact hquiet hi (.refl m)
  | quiet _ hi hq => exact hquiet hi hq
  | entered => exact Iff.rfl
  | enteredFailed => exact Iff.rfl
  | resolvedLate _ hq _ ht => exact iff_of_true (fun q hne => ht.spares hq hne) trivial
  | aborted _ hq _ ht => exact iff_of_true (fun q hne => ht.spares hq hne) trivial
  | @withdrawn r _ error error' hr hclose hw =>
      have hsettled : ∀ q, q ≠ r → (m'.requests q).settled = (m.requests q).settled :=
        fun q hq => by rw [hclose.others q hq]
      cases hw with
      -- the entry of the identifier is deleted, whoever it belongs to
      | @correlated c hcid hby hpending _ =>
          constructor
          · intro hsp
            refine Or.inr fun c' q hcid' hget => ?_
            obtain rfl := Option.some.inj (hcid.symm.trans hcid')
            by_contra hne
            have hkept := (hsp q hne).1.correlated c hget
            rw [hby, OrderedMap.get?_delete_self] at hkept
            cases hkept
          · intro hown
            have hown' := hown.resolve_left (by rw [hclose.wasOpen]; exact Bool.false_ne_true)
            refine fun q hne => ⟨⟨fun c' hget => ?_, fun t ring hring hst => ?_⟩, hsettled q hne⟩
            · have hc : c' ≠ c := fun he => hne (hown' c q hcid (he ▸ hget))
              rw [hby, OrderedMap.get?_delete_of_ne _ hc]
              exact hget
            · exact ⟨ring, hpending ▸ hring, hst⟩
      | uncorrelated hcid htakes _ =>
          refine iff_of_true (fun q hne => ⟨htakes.entryKept h.toFiled hne, hsettled q hne⟩) ?_
          exact Or.inr fun c q hcid' _ => by rw [hcid] at hcid'; cases hcid'
      | unstored hcid _ hsame _ =>
          refine iff_of_true (fun q hne => ⟨hsame.entryKept q, hsettled q hne⟩) ?_
          exact Or.inr fun c q hcid' _ => by rw [hcid] at hcid'; cases hcid'
  | delivered => exact Iff.rfl
  | expired ht => exact iff_of_true (handleTimeouts_spares h ht) trivial
  | connected => exact Iff.rfl
  | disconnected => exact Iff.rfl
  | configured => exact Iff.rfl
  | allocated => exact Iff.rfl

/-! ### Where an answer comes from -/

/-- What a step does to a request that exists: its identifier stays, it is stored
only if it was, and it is fulfilled only by the answer to its identifier. -/
structure Inherits (m : Multiplexer) (e : Event) (m' : Multiplexer) (r : RequestId) : Prop where
  correlationId : (m'.requests r).correlationId = (m.requests r).correlationId
  stored : m'.Stored r → m.Stored r
  fulfilled : ∀ p, .fulfilled p ∈ (m'.requests r).settlements →
    .fulfilled p ∈ (m.requests r).settlements ∨
      m.Stored r ∧ ∃ t final, e = .dispatch t p (m.requests r).correlationId final ∧
        ((m.requests r).correlationId.isSome → final = true)

theorem Inherits.refl (m : Multiplexer) (e : Event) (r : RequestId) : Inherits m e m r :=
  ⟨rfl, id, fun _ => Or.inl⟩

theorem Inherits.trans_quiet {e : Event} {m₁ : Multiplexer} (h : Inherits m e m₁ r)
    (hq : Quiet m₁ m') : Inherits m e m' r where
  correlationId := (hq.requests r).correlationId.trans h.correlationId
  stored hs := h.stored (hq.toSameEntries.stored_iff.mp hs)
  fulfilled p hp := h.fulfilled p ((hq.requests r).settlements ▸ hp)

theorem Closes.inherits {e : Event} {error : ClientError} (h : Closes m q (.rejected error) m')
    (hsub : m'.Stored r → m.Stored r) : Inherits m e m' r := by
  by_cases hr : r = q
  · subst hr
    refine ⟨h.correlationId, hsub, fun p hp => Or.inl ?_⟩
    rw [h.settlements, List.mem_append] at hp
    refine hp.resolve_right fun hp => ?_
    rw [List.mem_singleton] at hp
    cases hp
  · exact ⟨by rw [h.others r hr], hsub, fun p hp => Or.inl (h.others r hr ▸ hp)⟩

theorem Inherits.trans_tombstones {e : Event} {m₁ : Multiplexer} {error : ClientError}
    (h : Inherits m e m₁ r) (ht : Tombstones m₁ q (.rejected error) m') : Inherits m e m' r := by
  have ht' : Inherits m₁ e m' r := ht.toCloses.inherits ht.toSameEntries.stored_iff.mp
  refine ⟨ht'.correlationId.trans h.correlationId, fun hs => h.stored (ht'.stored hs),
    fun p hp => ?_⟩
  by_cases hr : r = q
  · subst hr
    rw [ht.settlements, List.mem_append] at hp
    refine h.fulfilled p (hp.resolve_right fun hp => ?_)
    rw [List.mem_singleton] at hp
    cases hp
  · exact h.fulfilled p (ht.others r hr ▸ hp)

theorem Enters.inherits {e : Event} {entry : PendingRequest} (h : Enters m entry m')
    (hr : r < m.issued) : Inherits m e m' r := by
  have hne : r ≠ m.issued := hr.ne
  have hreq : m'.requests r = m.requests r := by rw [h.requests, Function.update_of_ne hne]
  refine ⟨by rw [hreq], fun hs => ?_, fun p hp => Or.inl (hreq ▸ hp)⟩
  exact (h.stored hs).resolve_left hne

/-- One step, for a request that exists before it. -/
theorem Outcome.inherits (h : m.WellFormed) {e : Event} (ho : Outcome m e m') (hr : r < m.issued) :
    Inherits m e m' r := by
  cases ho with
  | refused => exact .refl m _ r
  | quiet _ _ hq => exact (Inherits.refl m _ r).trans_quiet hq
  | entered henters => exact henters.inherits hr
  | enteredFailed henters hq _ ht =>
      exact ((henters.inherits hr).trans_quiet hq).trans_tombstones ht
  | resolvedLate _ hq _ ht => exact ((Inherits.refl m _ r).trans_quiet hq).trans_tombstones ht
  | aborted _ hq _ ht => exact ((Inherits.refl m _ r).trans_quiet hq).trans_tombstones ht
  | withdrawn _ hclose hw => exact hclose.inherits hw.sub.stored
  -- the answer settles the request it has been taken for, and no other
  | @delivered t payload cid final q _ hfinal hdel =>
      rcases hdel.result with ⟨-, hreq, -⟩ | ⟨-, hclose, -⟩
      · exact ⟨by rw [hreq], hdel.takes.sub.stored, fun p hp => Or.inl (hreq ▸ hp)⟩
      · by_cases hrq : r = q
        · subst hrq
          refine ⟨hclose.correlationId, hdel.takes.sub.stored, fun p hp => ?_⟩
          rw [hclose.settlements, List.mem_append, List.mem_singleton] at hp
          refine hp.imp_right fun hp => ⟨hdel.takes.stored, t, final, ?_, ?_⟩
          · obtain rfl := Settlement.fulfilled.inj hp
            rw [hdel.takes.correlationId h.toFiled]
          · rw [hdel.takes.correlationId h.toFiled]
            exact hfinal
        · exact ⟨by rw [hclose.others r hrq], hdel.takes.sub.stored,
            fun p hp => Or.inl (hclose.others r hrq ▸ hp)⟩
  | expired ht =>
      exact (handleTimeouts_induction h (P := fun m₁ => Inherits m _ m₁ r)
        (fun _ _ hP hq _ _ => hP.trans_quiet hq)
        (fun _ _ _ _ hP he => by
          rcases he.result with ⟨hq, -⟩ | ⟨_, _, hq, -, ht⟩
          · exact hP.trans_quiet hq
          · exact (hP.trans_quiet hq).trans_tombstones ht) (.refl m _ r) ht).2
  | connected =>
      exact (Inherits.refl m _ r).trans_quiet (quiet_of_fields rfl rfl rfl rfl ⟨rfl, rfl⟩ rfl)
  | configured =>
      exact (Inherits.refl m _ r).trans_quiet (quiet_of_fields rfl rfl rfl rfl ⟨rfl, rfl⟩ rfl)
  | allocated =>
      exact (Inherits.refl m _ r).trans_quiet (quiet_of_fields rfl rfl rfl rfl ⟨rfl, rfl⟩ rfl)
  -- the disconnect empties the maps and rejects what was open
  | disconnected hd =>
      by_cases hs : m.Stored r
      · cases hset : (m.requests r).settled with
        | true => exact ⟨by rw [hd.others r (Or.inr hset)], fun hs' => absurd hs' hd.not_stored,
            fun p hp => Or.inl (hd.others r (Or.inr hset) ▸ hp)⟩
        | false =>
            obtain ⟨-, hlog, hcid⟩ := hd.closed r hs hset
            refine ⟨hcid, fun hs' => absurd hs' hd.not_stored, fun p hp => Or.inl ?_⟩
            rw [hlog, List.mem_append] at hp
            refine hp.resolve_right fun hp => ?_
            rw [List.mem_singleton] at hp
            cases hp
      · exact ⟨by rw [hd.others r (Or.inl hs)], fun hs' => absurd hs' hd.not_stored,
          fun p hp => Or.inl (hd.others r (Or.inl hs) ▸ hp)⟩

/-- A request that has just been issued is not fulfilled, and has an identifier
in the correlated mode. -/
structure Fresh (m : Multiplexer) (m' : Multiplexer) : Prop where
  issued : m'.issued = m.issued + 1
  notFulfilled : ∀ p, .fulfilled p ∉ (m'.requests m.issued).settlements
  correlationId : m.correlationEnabled = true → (m'.requests m.issued).correlationId.isSome

theorem Enters.fresh {e : PendingRequest} (h : Enters m e m') : Fresh m m' := by
  have hreq : m'.requests m.issued = e := by rw [h.requests, Function.update_self]
  refine ⟨h.issued, fun p hp => ?_, fun henabled => ?_⟩
  · rw [hreq, h.settlements] at hp
    cases hp
  · rw [hreq, h.correlationId, if_pos henabled]
    rfl

theorem Outcome.issued (h : m.WellFormed) {e : Event} (ho : Outcome m e m') :
    m'.issued = m.issued ∨ Fresh m m' := by
  cases ho with
  | refused => exact Or.inl rfl
  | quiet _ _ hq => exact Or.inl hq.issued
  | entered henters => exact Or.inr henters.fresh
  | enteredFailed henters hq _ ht =>
      have hfresh := henters.fresh
      refine Or.inr ⟨?_, fun p hp => ?_, fun henabled => ?_⟩
      · rw [ht.issued, hq.issued]
        exact hfresh.issued
      · rw [ht.settlements, (hq.requests _).settlements, List.mem_append] at hp
        refine hfresh.notFulfilled p (hp.resolve_right fun hp => ?_)
        rw [List.mem_singleton] at hp
        cases hp
      · rw [ht.correlationId, (hq.requests _).correlationId]
        exact hfresh.correlationId henabled
  | resolvedLate _ hq _ ht => exact Or.inl (ht.issued.trans hq.issued)
  | aborted _ hq _ ht => exact Or.inl (ht.issued.trans hq.issued)
  | withdrawn _ hclose _ => exact Or.inl hclose.issued
  | delivered _ hdel =>
      rcases hdel.result with ⟨-, -, hframe, -⟩ | ⟨-, hclose, -⟩
      · exact Or.inl hframe.issued
      · exact Or.inl hclose.issued
  | expired ht =>
      exact Or.inl (handleTimeouts_induction h (P := fun m₁ => m₁.issued = m.issued)
        (fun _ _ hP hq _ _ => hq.issued.trans hP)
        (fun _ _ _ _ hP he => by
          rcases he.result with ⟨hq, -⟩ | ⟨_, _, hq, -, ht⟩
          · exact hq.issued.trans hP
          · exact (ht.issued.trans hq.issued).trans hP) rfl ht).2
  | connected => exact Or.inl rfl
  | disconnected hd => exact Or.inl hd.issued
  | configured => exact Or.inl rfl
  | allocated => exact Or.inl rfl

theorem Outcome.not_stored (ho : Outcome m .setDisconnected m') : ¬ m'.Stored r := by
  cases ho with
  | refused _ hi => exact hi.elim
  | quiet _ hi => exact hi.elim
  | disconnected hd => exact hd.not_stored

/-- Event `e`, after the events `pre`, registers request `r`. -/
def Registers (pre : List Event) (e : Event) (r : RequestId) : Prop :=
  ∃ m m', machine.run pre = some m ∧ step m e = some m' ∧ m.issued = r ∧ m'.issued = r + 1

/-- What the run `es` has to say about request `r`, in its last state `m`: it was
registered by one of the events, with no disconnect since if it is stored, and
if it is fulfilled, then by the final answer to its identifier before any
disconnect. -/
def Accounted (es : List Event) (m : Multiplexer) (r : RequestId) : Prop :=
  ∃ pre e mid, es = pre ++ e :: mid ∧ Registers pre e r ∧
    (m.Stored r → .setDisconnected ∉ mid) ∧
    ∀ p c, (m.requests r).correlationId = some c → .fulfilled p ∈ (m.requests r).settlements →
      ∃ mid₁ t mid₂, mid = mid₁ ++ .dispatch t p (some c) true :: mid₂ ∧ .setDisconnected ∉ mid₁

theorem Accounted.step {es : List Event} {e : Event} (h : Accounted es m r) (hm : m.WellFormed)
    (hr : r < m.issued) (hst : step m e = some m') : Accounted (es ++ [e]) m' r := by
  have ho := step_outcome hm hst
  have hin := ho.inherits hm hr
  obtain ⟨pre, reg, mid, rfl, hreg, hstored, hanswer⟩ := h
  refine ⟨pre, reg, mid ++ [e], by simp, hreg, fun hs => ?_, fun p c hcid hp => ?_⟩
  · rw [List.mem_append, List.mem_singleton, not_or]
    refine ⟨hstored (hin.stored hs), fun he => ?_⟩
    subst he
    exact ho.not_stored hs
  · rw [hin.correlationId] at hcid
    rcases hin.fulfilled p hp with hp | ⟨hs, t, final, rfl, hfinal⟩
    · obtain ⟨mid₁, t, mid₂, rfl, hno⟩ := hanswer p c hcid hp
      exact ⟨mid₁, t, mid₂ ++ [e], by simp, hno⟩
    · rw [hcid] at hfinal ⊢
      obtain rfl := hfinal rfl
      exact ⟨mid, t, [], rfl, hstored hs⟩

theorem accounted_run {es : List Event} (h : machine.run es = some m) :
    ∀ r < m.issued, Accounted es m r := by
  refine (Machine.runFrom_induction
    (motive := fun es m => machine.run es = some m ∧ ∀ r < m.issued, Accounted es m r)
    ⟨rfl, fun r hr => absurd hr (Nat.not_lt_zero r)⟩ ?_ h).2
  intro es m e m' _ ⟨hrun, hacc⟩ hst
  have hm := wellFormed_run hrun
  have ho := step_outcome hm hst
  refine ⟨Machine.runFrom_snoc.mpr ⟨m, hrun, hst⟩, fun r hr => ?_⟩
  by_cases hold : r < m.issued
  · exact (hacc r hold).step hm hold hst
  · rcases ho.issued hm with hsame | hfresh
    · exact absurd (hsame ▸ hr) hold
    · -- the request this event has registered
      rw [hfresh.issued] at hr
      obtain rfl : r = m.issued := le_antisymm (Nat.le_of_lt_succ hr) (not_lt.mp hold)
      refine ⟨es, e, [], rfl, ⟨m, m', hrun, hst, rfl, hfresh.issued⟩, fun _ => List.not_mem_nil, ?_⟩
      exact fun p c _ hp => absurd hp (hfresh.notFulfilled p)

/-- The events of the correlated mode: no broker is too old for it. -/
def CorrelatedMode (es : List Event) : Prop :=
  ∀ protocolVersion capabilities,
    .setCapabilities protocolVersion capabilities ∈ es → 2 ≤ protocolVersion

theorem Outcome.correlationEnabled (h : m.WellFormed) {e : Event} (ho : Outcome m e m')
    (he : CorrelatedMode [e]) (henabled : m.correlationEnabled = true) :
    m'.correlationEnabled = true := by
  cases ho with
  | refused => exact henabled
  | quiet _ _ _ hs => exact hs.correlationEnabled.trans henabled
  | entered henters => exact henters.correlationEnabled.trans henabled
  | enteredFailed henters _ hs ht =>
      exact ht.correlationEnabled.trans (hs.correlationEnabled.trans
        (henters.correlationEnabled.trans henabled))
  | resolvedLate _ _ hs ht =>
      exact ht.correlationEnabled.trans (hs.correlationEnabled.trans henabled)
  | aborted _ _ hs ht => exact ht.correlationEnabled.trans (hs.correlationEnabled.trans henabled)
  | withdrawn _ hclose _ => exact hclose.correlationEnabled.trans henabled
  | delivered _ hdel =>
      rcases hdel.result with ⟨-, -, -, hs, -⟩ | ⟨-, hclose, -⟩
      · exact hs.correlationEnabled.trans henabled
      · exact hclose.correlationEnabled.trans henabled
  | expired ht =>
      exact (handleTimeouts_induction h (P := fun m₁ => m₁.correlationEnabled = true)
        (fun _ _ hP _ hs _ => hs.correlationEnabled.trans hP)
        (fun _ _ _ _ hP he => by
          rcases he.result with ⟨-, hs⟩ | ⟨_, _, -, hs, ht⟩
          · exact hs.correlationEnabled.trans hP
          · exact ht.correlationEnabled.trans (hs.correlationEnabled.trans hP)) henabled ht).2
  | connected => exact henabled
  | disconnected hd => exact hd.correlationEnabled
  | configured protocolVersion capabilities =>
      exact decide_eq_true (he protocolVersion capabilities (List.mem_singleton_self _))
  | allocated => exact henabled

/-- In the correlated mode every request has an identifier. -/
theorem correlated_run {es : List Event} (h : machine.run es = some m)
    (hmode : CorrelatedMode es) : ∀ r < m.issued, (m.requests r).correlationId.isSome := by
  have hall := Machine.runFrom_induction
    (motive := fun es m => machine.run es = some m ∧ (CorrelatedMode es →
      m.correlationEnabled = true ∧ ∀ r < m.issued, (m.requests r).correlationId.isSome))
    ⟨rfl, fun _ => ⟨rfl, fun r hr => absurd hr (Nat.not_lt_zero r)⟩⟩ ?_ h
  · exact (hall.2 hmode).2
  intro es m e m' _ ⟨hrun, hcor⟩ hst
  refine ⟨Machine.runFrom_snoc.mpr ⟨m, hrun, hst⟩, fun hmode => ?_⟩
  have hm := wellFormed_run hrun
  have ho := step_outcome hm hst
  obtain ⟨henabled, hids⟩ := hcor fun v c hv => hmode v c (List.mem_append_left _ hv)
  refine ⟨ho.correlationEnabled hm (fun v c hv => hmode v c (List.mem_append_right _ hv)) henabled,
    fun r hr => ?_⟩
  by_cases hold : r < m.issued
  · rw [(ho.inherits hm hold).correlationId]
    exact hids r hold
  · rcases ho.issued hm with hsame | hfresh
    · exact absurd (hsame ▸ hr) hold
    · rw [hfresh.issued] at hr
      obtain rfl : r = m.issued := le_antisymm (Nat.le_of_lt_succ hr) (not_lt.mp hold)
      exact hfresh.correlationId henabled

/-! ### The three guarantees of a run -/

/-- In the run `es`, request `r` gets registered, and before the next disconnect
the final answer to identifier `c`, with payload `p`, is dispatched. -/
def AnsweredBy (es : List Event) (r : RequestId) (c : CorrelationId) (p : Payload) : Prop :=
  ∃ pre e mid t post, es = pre ++ e :: (mid ++ .dispatch t p (some c) true :: post) ∧
    Registers pre e r ∧ .setDisconnected ∉ mid

/-- Correlation safety of the run `es`, which ends in `m`. -/
structure CorrelationSafe (es : List Event) (m : Multiplexer) : Prop where
  settledOnce : ∀ r, (m.requests r).settlements.length ≤ 1
  ownAnswer : ∀ r p, .fulfilled p ∈ (m.requests r).settlements →
    ∃ c, (m.requests r).correlationId = some c ∧ AnsweredBy es r c p
  spares : machine.EachStep Spares machine.init es

/-- A run in the correlated mode is safe exactly when no send rejects over the
entry of another request. -/
theorem correlationSafe_iff (es : List Event) (m : Multiplexer) (hrun : machine.run es = some m)
    (hmode : CorrelatedMode es) :
    CorrelationSafe es m ↔ machine.Guarded Owned machine.init es := by
  have hm := wellFormed_run hrun
  have hexact := Machine.eachStep_iff_guarded (M := machine) (R := Spares) (K := Owned)
    (I := WellFormed) (fun _ _ _ hI hst => wellFormed_step hI hst)
    (fun _ _ _ hI hst => (step_outcome hI hst).spares_iff hI) wellFormed_init hrun
  refine ⟨fun h => hexact.mp h.spares, fun h => ⟨fun r => ?_, fun r p hp => ?_, hexact.mpr h⟩⟩
  · rw [hm.once r]
    split <;> omega
  · have hr : r < m.issued := hm.lt_of_ne fun he => by rw [he] at hp; cases hp
    obtain ⟨c, hc⟩ := Option.isSome_iff_exists.mp (correlated_run hrun hmode r hr)
    obtain ⟨pre, e, mid, rfl, hreg, -, hanswer⟩ := accounted_run hrun r hr
    obtain ⟨mid₁, t, mid₂, rfl, hno⟩ := hanswer p c hc hp
    exact ⟨c, hc, pre, e, mid₁, t, mid₂, rfl, hreg, hno⟩

/-- A request is answered, another times out and is answered late, and its send
rejects after that. -/
private def interleavedRun : List Event :=
  [.setConnected, .issue 7 0 5000 none none, .issue 7 0 1000 none none,
    .dispatch 7 [1] (some 1) true,
    .timer 2000, .dispatch 7 [2] (some 2) true, .sendRejected 1 ⟨.transport, "write failed"⟩]

theorem correlationSafe_iff_interleavedRun :
    ∃ m, machine.run interleavedRun = some m ∧ (CorrelationSafe interleavedRun m ↔
      machine.Guarded Owned machine.init interleavedRun) := by
  refine ⟨_, rfl, correlationSafe_iff interleavedRun _ rfl ?_⟩
  intro v c hv
  simp [interleavedRun] at hv

/-- A request issued while disconnected and one of the next session share an
identifier; the failing send of the first deletes the entry of the second. -/
theorem correlationSafe_fails :
    ¬ ∀ es m, machine.run es = some m → CorrelatedMode es → CorrelationSafe es m := by
  intro h
  let es : List Event := [.issue 7 0 1000 none none, .setConnected, .issue 7 0 1000 none none,
    .sendRejected 0 ⟨.transport, "write failed"⟩]
  obtain ⟨m, hm⟩ : ∃ m, machine.run es = some m := ⟨_, rfl⟩
  have hsafe := h es m hm fun v c hv => by simp [es] at hv
  have hguard := (Machine.eachStep_iff_guarded (M := machine) (R := Spares) (K := Owned)
    (I := WellFormed) (fun _ _ _ hI hst => wellFormed_step hI hst)
    (fun _ _ _ hI hst => (step_outcome hI hst).spares_iff hI) wellFormed_init hm).mp hsafe.spares
  -- the last step finds request 1 under the identifier of request 0
  obtain ⟨-, hguard⟩ := hguard
  obtain ⟨-, hguard⟩ := hguard _ rfl
  obtain ⟨-, hguard⟩ := hguard _ rfl
  obtain ⟨howned, -⟩ := hguard _ rfl
  have hother := (howned.resolve_left (by decide)) 1 1 rfl rfl
  exact absurd hother (by decide)

end FitzTs.Client.Multiplexer
