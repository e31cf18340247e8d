import FitzTs.Domains.Subscriptions.Answers
import FitzTs.Domains.Subscriptions.Moves
import FitzTs.Domains.Subscriptions.Objects
/-!
# FitzTs.Domains.Subscriptions.Registrations

Whether the broker has a registration behind an entry.

`isCurrentEmptyState` and `pendingUnsubscribe` keep an entry and its registration together as long
as the entry has the object that the UNSUBSCRIBE was requested for. A restore gives the entry a new
object, which knows nothing of a request that is still to go out.

## Main result

* `registrations_run` — in a run in which the broker drops a registration only while the entry
  awaits this very UNSUBSCRIBE, and no other slip of `KeepsRegistrations` happens, every entry is
  backed by a registration of the session once all is settled, and every handle that is returned
  is.
-/

namespace FitzTs.Subscriptions.Client

variable {v : Variant} {c c' : Client} {e : Event}

/-- The session is up, and the table is its own. -/
def Fresh (c : Client) : Prop :=
  c.link ≠ .disconnected ∧ c.restore.isUnderWay = false ∧ c.restoreFailed = false

instance (c : Client) : Decidable c.Fresh := by
  unfold Fresh
  infer_instance

/-- The broker has a registration for the pattern. -/
def Registered (c : Client) (pattern : String) : Prop :=
  pattern ∈ c.registrations.map Prod.fst

instance (c : Client) (pattern : String) : Decidable (c.Registered pattern) := by
  unfold Registered
  infer_instance

/-- A handler joins an entry of the table that awaits no UNSUBSCRIBE, with a signal that is not
aborted; an answer is put into a table of the session in the session that gave it; a handle is not
unsubscribed while the entry awaits the UNSUBSCRIBE of another; and an UNSUBSCRIBE is confirmed only
if the entry awaits it and no SUBSCRIBE of the pattern has been answered that has yet to be put into
the table. -/
def KeepsRegistrations (v : Variant) (c : Client) (e : Event) : Prop :=
  (∀ j ∈ c.joining v e, j.aborted = false ∧ (c.registering v e = none →
    c.entry? j.pattern = some j.state ∧ (c.store.states j.state).pendingUnsubscribe = none)) ∧
  (∀ x ∈ c.registering v e, c.Fresh → (c.requests x.2.2).sentIn = c.session) ∧
  (∀ h ∈ c.leaving e, ∀ s ∈ c.entry? (c.handles h).pattern,
    (c.store.states s).pendingUnsubscribe = none) ∧
  match e with
  | .unsubscribed r =>
    match (c.requests r).frame with
    | .unsubscribe pattern _ => (c.requests r).restoring ∨
        (∀ s ∈ c.entry? pattern, (c.store.states s).pendingUnsubscribe = some r) ∧
          ∀ k < c.requestCount, ¬ c.AnswerHeld pattern k
    | .subscribe _ => True
  | _ => True

instance (v : Variant) (c : Client) (e : Event) : Decidable (c.KeepsRegistrations v e) := by
  unfold KeepsRegistrations
  have : Decidable (match e with
      | .unsubscribed r =>
        match (c.requests r).frame with
        | .unsubscribe pattern _ => (c.requests r).restoring ∨
            (∀ s ∈ c.entry? pattern, (c.store.states s).pendingUnsubscribe = some r) ∧
              ∀ k < c.requestCount, ¬ c.AnswerHeld pattern k
        | .subscribe _ => True
      | _ => True) := by
    split
    · split <;> infer_instance
    · infer_instance
  infer_instance

/-- The UNSUBSCRIBE that state `s` awaits has been confirmed; its continuation clears the entry. -/
def Leaving (c : Client) (s : Nat) : Prop :=
  (c.store.states s).handlers = [] ∧ ∃ h r, (c.handles h).pending = some (s, r) ∧
    (c.store.states s).pendingUnsubscribe = some r ∧ (c.requests r).phase = .unsubscribed

/-- What holds in a run whose steps meet `KeepsRegistrations`. -/
structure Backed (c : Client) : Prop where
  ready : c.link = .authenticated → c.restore = .idle
  sentBy : ∀ r, (c.requests r).phase = .sent → (c.requests r).restoring = false →
    c.link = .authenticated
  unmade : ∀ h, c.nextHandlerId ≤ h → (c.handles h).active = false ∧ (c.handles h).pending = none
  inactive : ∀ h x, (c.handles h).pending = some x → (c.handles h).active = false
  handles : ∀ h s r, (c.handles h).pending = some (s, r) →
    c.Made ((c.handles h).pattern, s) ∧ r < c.requestCount
  leaving : ∀ s r, (c.store.states s).pendingUnsubscribe = some r →
    (c.store.states s).handlers = [] ∧ ∃ h, (c.handles h).pending = some (s, r)
  entries : c.Fresh → ∀ pattern s, c.entry? pattern = some s → c.Registered pattern ∨ c.Leaving s
  /-- The session answers only once it is restored. -/
  early : c.link = .restoring → ∀ pattern r, ¬ c.AnswerHeld pattern r
  held : c.Fresh → ∀ pattern r, c.AnswerHeld pattern r → c.Registered pattern
  restored : c.link ≠ .disconnected → ∀ todo restored r,
    c.restore = .resubscribing todo restored r → (∀ x ∈ restored, c.Registered x.1) ∧
      ∀ pattern subId, (c.requests r).frame = .subscribe pattern →
        (c.requests r).phase = .subscribed subId → c.Registered pattern

section Local

/-- What a call or a continuation has to keep; the connection, the broker and the listener do not
take part. -/
theorem Backed.of_local (h : c.Backed) (hobjects : c.Objects) (hplaces : Places c c')
    (hext : Extends c c') (hcontrol : c'.control = c.control)
    (hunmade : ∀ k, c'.nextHandlerId ≤ k →
      (c'.handles k).active = false ∧ (c'.handles k).pending = none)
    (hinactive : ∀ k x, (c'.handles k).pending = some x → (c'.handles k).active = false)
    (hhandles : ∀ k s r, (c'.handles k).pending = some (s, r) →
      c'.Made ((c'.handles k).pattern, s) ∧ r < c'.requestCount)
    (hleaving : ∀ s r, (c'.store.states s).pendingUnsubscribe = some r →
      (c'.store.states s).handlers = [] ∧ ∃ k, (c'.handles k).pending = some (s, r))
    (hentries : c.Fresh → ∀ pattern s, c'.entry? pattern = some s →
      c.Registered pattern ∨ c'.Leaving s) : c'.Backed := by
  have hrestore : c'.restore = c.restore := congrArg Control.restore hcontrol
  have hlink : c'.link = c.link := congrArg Control.link hcontrol
  have hfailed : c'.restoreFailed = c.restoreFailed := congrArg Control.restoreFailed hcontrol
  have hregistrations : c'.registrations = c.registrations :=
    congrArg Control.registrations hcontrol
  have hregistered : ∀ pattern, c'.Registered pattern ↔ c.Registered pattern := fun pattern => by
    unfold Registered
    rw [hregistrations]
  have hsession : c'.session = c.session := congrArg Control.session hcontrol
  refine ⟨?_, fun r hsent hown => ?_, hunmade, hinactive, hhandles, hleaving,
    fun hfresh pattern s hs => ?_, fun hup pattern r hheld => ?_, fun hfresh pattern r hheld => ?_,
    fun hup todo restored r hr => ?_⟩
  · rw [hlink, hrestore]
    exact h.ready
  · rw [hlink]
    have key : Kept (c.requests r) (c'.requests r) → c.link = .authenticated := fun hkept =>
      h.sentBy r (hkept.phase ▸ hsent) (hkept.restoring ▸ hown)
    by_cases hr : r = c.requestCount
    · subst hr
      rcases hext.new with hkept | ⟨-, hunsent, -⟩
      · exact key hkept
      · rw [hunsent] at hsent
        cases hsent
    · exact key (hext.old r hr)
  · rw [hregistered]
    unfold Fresh at hfresh
    rw [hlink, hrestore, hfailed] at hfresh
    exact hentries hfresh pattern s hs
  · rw [hlink] at hup
    exact h.early hup pattern r (hheld.of_extends hplaces hext hsession)
  · rw [hregistered]
    unfold Fresh at hfresh
    rw [hlink, hrestore, hfailed] at hfresh
    exact h.held hfresh pattern r (hheld.of_extends hplaces hext hsession)
  · rw [hrestore] at hr
    rw [hlink] at hup
    obtain ⟨hall, hanswered⟩ := h.restored hup todo restored r hr
    have hlt := (hobjects.current r (by rw [hr]; rfl)).1
    have hkept := hext.old r (Nat.ne_of_lt hlt)
    simp only [hregistered, hkept.frame, hkept.phase]
    exact ⟨hall, hanswered⟩

/-- An awaited UNSUBSCRIBE has been confirmed as before. -/
theorem Leaving.of_kept {s : Nat} (h : c.Leaving s) (hbacked : c.Backed) (hext : Extends c c')
    (hhandlers : (c'.store.states s).handlers = (c.store.states s).handlers)
    (hpending : (c'.store.states s).pendingUnsubscribe = (c.store.states s).pendingUnsubscribe)
    (hhandles : ∀ k x, (c.handles k).pending = some x →
      (c.store.states x.1).pendingUnsubscribe = some x.2 → (c.requests x.2).phase = .unsubscribed →
        x.1 = s → (c'.handles k).pending = some x) : c'.Leaving s := by
  obtain ⟨hnil, k, r, hk, hr, hphase⟩ := h
  refine ⟨hhandlers.trans hnil, k, r, hhandles k (s, r) hk hr hphase rfl, hpending.trans hr, ?_⟩
  have hlt := (hbacked.handles k s r hk).2
  exact (hext.old r (Nat.ne_of_lt hlt)).phase.trans hphase

/-- A handler joins an object that awaits no UNSUBSCRIBE. -/
theorem Backed.join (h : c.Backed) (hobjects : c.Objects) (hplaces : Places c c')
    (hext : Extends c c')
    (hcontrol : c'.control = c.control) (hmade : ∀ x, c.Made x → c'.Made x) {q : String} {k : Nat}
    (hnone : (c.store.states k).pendingUnsubscribe = none) (hseats : c'.seats = c.seats.join q k) :
    c'.Backed := by
  have hstore : c'.store = c.store.addHandler k c.nextHandlerId := congrArg Seats.store hseats
  have hnext : c'.nextHandlerId = c.nextHandlerId + 1 := congrArg Seats.nextHandlerId hseats
  have hnew : c'.handles c.nextHandlerId = ⟨q, true, true, false, none⟩ := by
    rw [show c'.handles = _ from congrArg Seats.handles hseats]
    exact Function.update_self ..
  have hold : ∀ h', h' ≠ c.nextHandlerId → c'.handles h' = c.handles h' := fun h' hne => by
    rw [show c'.handles = _ from congrArg Seats.handles hseats]
    exact Function.update_of_ne hne ..
  have hentries : c'.entry? = c.entry? := by
    unfold entry?
    rw [hstore]
    rfl
  -- the new handle waits for nothing
  have hhas : ∀ h' x, (c'.handles h').pending = some x → h' ≠ c.nextHandlerId := by
    rintro h' x hx rfl
    rw [hnew] at hx
    cases hx
  have hhad : ∀ h' x, (c.handles h').pending = some x → c'.handles h' = c.handles h' := by
    intro h' x hx
    refine hold h' fun heq => ?_
    rw [heq, (h.unmade _ (Nat.le_refl _)).2] at hx
    cases hx
  -- the object of an UNSUBSCRIBE under way gets no handler
  have hother : ∀ s r, (c.store.states s).pendingUnsubscribe = some r →
      (c'.store.states s).handlers = (c.store.states s).handlers := by
    intro s r hr
    have hne : s ≠ k := fun heq => by
      rw [heq, hnone] at hr
      cases hr
    rw [hstore, Store.states_addHandler, if_neg hne]
  refine h.of_local hobjects hplaces hext hcontrol (fun h' hle => ?_) (fun h' x hx => ?_)
    (fun h' s r hx => ?_) (fun s r hr => ?_) fun hfresh pattern s hs => ?_
  · rw [hnext] at hle
    rw [hold h' (Nat.ne_of_gt hle)]
    exact h.unmade h' (Nat.le_of_succ_le hle)
  · have hsame := hold h' (hhas h' x hx)
    rw [hsame] at hx ⊢
    exact h.inactive h' x hx
  · have hsame := hold h' (hhas h' _ hx)
    rw [hsame] at hx ⊢
    obtain ⟨hm, hlt⟩ := h.handles h' s r hx
    exact ⟨hmade _ hm, Nat.lt_of_lt_of_le hlt hext.count⟩
  · rw [hstore, Store.pendingUnsubscribe_addHandler] at hr
    obtain ⟨hnil, h', hx⟩ := h.leaving s r hr
    exact ⟨(hother s r hr).trans hnil, h', by rw [hhad h' _ hx]; exact hx⟩
  · rw [hentries] at hs
    refine (h.entries hfresh pattern s hs).imp id fun hleaving => ?_
    have ⟨_, _, r, _, hr, _⟩ := hleaving
    refine hleaving.of_kept h hext (hother s r hr) ?_ fun h' x hx _ _ _ => ?_
    · rw [hstore, Store.pendingUnsubscribe_addHandler]
    · rw [hhad h' x hx]
      exact hx

/-- A new entry, for a pattern that is registered if the table is the session's own. -/
theorem Backed.register (h : c.Backed) (hobjects : c.Objects) {pattern : String} {subId : Nat}
    (hregistered : c.Fresh → c.Registered pattern) :
    (c.setStore (c.store.register pattern subId)).Backed := by
  have hget : ∀ q, Client.entry? (c.setStore (c.store.register pattern subId)) q =
      if q = pattern then some c.store.stateCount else c.entry? q := by
    intro q
    simp only [ entry?, setStore, Store.register, OrderedMap.get?_set]
  have hplaces : Places c (c.setStore (c.store.register pattern subId)) := .of_traffic rfl
  have hext : Extends c (c.setStore (c.store.register pattern subId)) :=
    .of_requests rfl fun _ => .refl
  have hstates : ∀ k, (c.setStore (c.store.register pattern subId)).store.states k =
      if k = c.store.stateCount then ⟨pattern, subId, [], none⟩ else c.store.states k :=
    fun k => Store.states_register ..
  refine h.of_local hobjects hplaces hext rfl h.unmade h.inactive (fun k s r hx => ?_)
    (fun s r hr => ?_)
    fun hfresh q s hs => ?_
  · obtain ⟨hm, hlt⟩ := h.handles k s r hx
    exact ⟨hm.register pattern subId, hlt⟩
  · rw [hstates] at hr ⊢
    split at hr
    · cases hr
    · rename_i hne
      rw [if_neg hne]
      exact h.leaving s r hr
  · rw [hget] at hs
    split at hs
    · rename_i hq
      exact Or.inl (hq ▸ hregistered hfresh)
    · have hne : s ≠ c.store.stateCount := Nat.ne_of_lt (hobjects.entries q s hs).1
      refine (h.entries hfresh q s hs).imp id fun hleaving => ?_
      refine hleaving.of_kept h hext ?_ ?_ fun _ _ hx _ _ _ => hx
      · rw [hstates, if_neg hne]
      · rw [hstates, if_neg hne]

/-- A handle stops being active, and its entry, which awaited no UNSUBSCRIBE, may come to await
its own. -/
theorem Backed.deactivate (h : c.Backed) (hobjects : c.Objects) (hplaces : Places c c')
    (hext : Extends c c') (hcontrol : c'.control = c.control) (hmade : ∀ x, c.Made x → c'.Made x)
    {h₀ : Nat}
    (hactive : (c.handles h₀).active = true)
    (hnone : ∀ s, c.entry? (c.handles h₀).pattern = some s →
      (c.store.states s).pendingUnsubscribe = none)
    {handle : Handle} (hhandles : c'.handles = Function.update c.handles h₀ handle)
    (hnext : c'.nextHandlerId = c.nextHandlerId) (hoff : handle.active = false)
    (hasks : ∀ s r, handle.pending = some (s, r) →
      c'.Made (handle.pattern, s) ∧ r < c'.requestCount)
    (hentries : c'.entry? = c.entry?)
    (hothers : ∀ s, c.entry? (c.handles h₀).pattern ≠ some s → c'.store.states s = c.store.states s)
    (hown : ∀ s r, c.entry? (c.handles h₀).pattern = some s →
      (c'.store.states s).pendingUnsubscribe = some r →
        (c'.store.states s).handlers = [] ∧ handle.pending = some (s, r)) : c'.Backed := by
  have hself : c'.handles h₀ = handle := by rw [hhandles, Function.update_self]
  have hold : ∀ k, k ≠ h₀ → c'.handles k = c.handles k := fun k hk => by
    rw [hhandles, Function.update_of_ne hk]
  -- a handle that waits for its UNSUBSCRIBE is not the one that leaves
  have hfree : ∀ k x, (c.handles k).pending = some x → c'.handles k = c.handles k := by
    intro k x hx
    refine hold k fun heq => ?_
    have hinactive := h.inactive k x hx
    rw [heq, hactive] at hinactive
    cases hinactive
  -- and so an object that awaits one is not touched
  have hsame : ∀ s r, (c.store.states s).pendingUnsubscribe = some r →
      c'.store.states s = c.store.states s := by
    intro s r hr
    refine hothers s fun hentry => ?_
    rw [hnone s hentry] at hr
    cases hr
  refine h.of_local hobjects hplaces hext hcontrol (fun k hk => ?_) (fun k x hx => ?_)
    (fun k s r hx => ?_)
    (fun s r hr => ?_) fun hfresh pattern s hs => ?_
  · rw [hnext] at hk
    have hunmade := h.unmade k hk
    rw [hold k fun heq => by rw [heq, hactive] at hunmade; cases hunmade.1]
    exact hunmade
  · by_cases hk : k = h₀
    · rw [hk, hself, hoff]
    · rw [hold k hk] at hx ⊢
      exact h.inactive k x hx
  · by_cases hk : k = h₀
    · rw [hk, hself] at hx ⊢
      exact hasks s r hx
    · rw [hold k hk] at hx ⊢
      obtain ⟨hm, hlt⟩ := h.handles k s r hx
      exact ⟨hmade _ hm, Nat.lt_of_lt_of_le hlt hext.count⟩
  · by_cases hentry : c.entry? (c.handles h₀).pattern = some s
    · obtain ⟨hnil, hpending⟩ := hown s r hentry hr
      exact ⟨hnil, h₀, hself ▸ hpending⟩
    · rw [hothers s hentry] at hr ⊢
      obtain ⟨hnil, k, hx⟩ := h.leaving s r hr
      exact ⟨hnil, k, by rw [hfree k _ hx]; exact hx⟩
  · rw [hentries] at hs
    refine (h.entries hfresh pattern s hs).imp id fun hleaving => ?_
    have ⟨_, _, r, _, hr, _⟩ := hleaving
    have hstate := hsame s r hr
    refine hleaving.of_kept h hext (by rw [hstate]) (by rw [hstate]) fun k x hx _ _ _ => ?_
    rw [hfree k x hx]
    exact hx

/-- An `unsubscribe` up to its first `await`. -/
theorem Backed.leave (h : c.Backed) (hobjects : c.Objects) (hplaces : Places c c')
    (hext : Extends c c') (hcontrol : c'.control = c.control) (hmade : ∀ x, c.Made x → c'.Made x)
    {h₀ : Nat}
    (hactive : (c.handles h₀).active = true)
    (hnone : ∀ s, c.entry? (c.handles h₀).pattern = some s →
      (c.store.states s).pendingUnsubscribe = none)
    (hmove : Leaves c h₀ c') : c'.Backed := by
  cases hmove with
  | gone hentry hseats _ =>
      have hstore : c'.store = c.store := congrArg Seats.store hseats
      refine h.deactivate hobjects hplaces hext hcontrol hmade hactive hnone
        (congrArg Seats.handles hseats)
        (congrArg Seats.nextHandlerId hseats) rfl nofun ?_ (fun s _ => ?_) fun s r hs => ?_
      · unfold entry?
        rw [hstore]
      · rw [hstore]
      · rw [hentry] at hs
        cases hs
  | others k hentry hleft hseats _ =>
      have hstore : c'.store = c.store.deleteHandler k h₀ := congrArg Seats.store hseats
      refine h.deactivate hobjects hplaces hext hcontrol hmade hactive hnone
        (congrArg Seats.handles hseats)
        (congrArg Seats.nextHandlerId hseats) rfl nofun ?_ (fun s hs => ?_) fun s r hs hr => ?_
      · unfold entry?
        rw [hstore]
        rfl
      · have hne : s ≠ k := fun heq => hs (heq ▸ hentry)
        rw [hstore, Store.states_deleteHandler, if_neg hne]
      · rw [hstore, Store.pendingUnsubscribe_deleteHandler, hnone s hs] at hr
        cases hr
  | last k hentry hleft hseats _ hcount =>
      have hstore : c'.store = (c.store.deleteHandler k h₀).setPending k (some c.requestCount) :=
        congrArg Seats.store hseats
      refine h.deactivate hobjects hplaces hext hcontrol hmade hactive hnone
        (congrArg Seats.handles hseats)
        (congrArg Seats.nextHandlerId hseats) rfl (fun s r hx => ?_) ?_ (fun s hs => ?_)
        fun s r hs hr => ?_
      · obtain ⟨rfl, rfl⟩ := Prod.mk.inj (Option.some.inj hx)
        exact ⟨hmade _ (hobjects.entries _ _ hentry), hcount ▸ Nat.lt_succ_self _⟩
      · unfold entry?
        rw [hstore]
        rfl
      · have hne : s ≠ k := fun heq => hs (heq ▸ hentry)
        rw [hstore, Store.states_setPending, if_neg hne, Store.states_deleteHandler, if_neg hne]
      · obtain rfl : k = s := Option.some.inj (hentry.symm.trans hs)
        rw [hstore, Store.states_setPending, if_pos rfl] at hr
        obtain rfl := Option.some.inj hr
        refine ⟨?_, rfl⟩
        rw [hstore, Store.handlers_setPending, Store.states_deleteHandler, if_pos rfl]
        exact hleft

/-- The continuation of an `unsubscribe`: the UNSUBSCRIBE is no longer awaited, and where it was
confirmed the entry goes. -/
theorem Backed.unsubscribeContinues (h : c.Backed) (hobjects : c.Objects)
    (hplaces : Places c c') (hext : Extends c c') (hcontrol : c'.control = c.control)
    (hmade : ∀ x, c.Made x → c'.Made x) {h₀ s₀ r₀ : Nat}
    (hpending : (c.handles h₀).pending = some (s₀, r₀)) {handle : Handle}
    (hhandles : c'.handles = Function.update c.handles h₀ handle)
    (hnext : c'.nextHandlerId = c.nextHandlerId) (hdone : handle.pending = none)
    (hstates : c'.store.states = (c.store.clearPending s₀ r₀).states)
    (hentries : ∀ pattern s, c'.entry? pattern = some s → c.entry? pattern = some s ∧
      ¬ ((c.requests r₀).phase = .unsubscribed ∧ s = s₀ ∧ (c.store.states s).handlers = [])) :
    c'.Backed := by
  have hself : (c'.handles h₀).pending = none := by rw [hhandles, Function.update_self, hdone]
  have hold : ∀ k, k ≠ h₀ → c'.handles k = c.handles k := fun k hk => by
    rw [hhandles, Function.update_of_ne hk]
  have hhas : ∀ k x, (c'.handles k).pending = some x → k ≠ h₀ := by
    rintro k x hx rfl
    rw [hself] at hx
    cases hx
  refine h.of_local hobjects hplaces hext hcontrol (fun k hk => ?_) (fun k x hx => ?_)
    (fun k s r hx => ?_)
    (fun s r hr => ?_) fun hfresh pattern s hs => ?_
  · rw [hnext] at hk
    have hunmade := h.unmade k hk
    rw [hold k fun heq => by rw [heq, hpending] at hunmade; cases hunmade.2]
    exact hunmade
  · have hsame := hold k (hhas k x hx)
    rw [hsame] at hx ⊢
    exact h.inactive k x hx
  · have hsame := hold k (hhas k _ hx)
    rw [hsame] at hx ⊢
    obtain ⟨hm, hlt⟩ := h.handles k s r hx
    exact ⟨hmade _ hm, Nat.lt_of_lt_of_le hlt hext.count⟩
  · rw [hstates, Store.pendingUnsubscribe_clearPending] at hr
    split at hr
    · cases hr
    · rename_i hnot
      obtain ⟨hnil, k, hx⟩ := h.leaving s r hr
      refine ⟨by rw [hstates, Store.handlers_clearPending]; exact hnil, k, ?_⟩
      rw [hold k fun heq => ?_]
      · exact hx
      · rw [heq, hpending] at hx
        obtain ⟨rfl, rfl⟩ := Prod.mk.inj (Option.some.inj hx)
        exact hnot ⟨rfl, hr⟩
  · obtain ⟨hwas, hkept⟩ := hentries pattern s hs
    refine (h.entries hfresh pattern s hwas).imp id fun hleaving => ?_
    have ⟨hnil, _, r, _, hr, hphase⟩ := hleaving
    -- the entry that has been confirmed is not the one that goes on
    have hother : ∀ r', s = s₀ → r' = r₀ → (c.requests r').phase ≠ .unsubscribed :=
      fun r' hs₀ hr₀ hconfirmed => hkept ⟨hr₀ ▸ hconfirmed, hs₀, hnil⟩
    refine hleaving.of_kept h hext (by rw [hstates, Store.handlers_clearPending]) ?_
      fun k x hx _ hconfirmed hxs => ?_
    · rw [hstates, Store.pendingUnsubscribe_clearPending, if_neg]
      rintro ⟨hs₀, hr₀⟩
      rw [← hs₀, hr] at hr₀
      exact hother r hs₀ (Option.some.inj hr₀) hphase
    · rw [hold k fun heq => ?_]
      · exact hx
      · rw [heq, hpending] at hx
        obtain rfl := Option.some.inj hx
        exact hother r₀ hxs.symm rfl hconfirmed

/-- The same objects and handles. -/
theorem Backed.of_seats (h : c.Backed) (hobjects : c.Objects) (hplaces : Places c c')
    (hext : Extends c c') (hcontrol : c'.control = c.control) (hmade : ∀ x, c.Made x → c'.Made x)
    (hseats : c'.seats = c.seats) : c'.Backed := by
  have hstore : c'.store = c.store := congrArg Seats.store hseats
  have hhandles : c'.handles = c.handles := congrArg Seats.handles hseats
  have hnext : c'.nextHandlerId = c.nextHandlerId := congrArg Seats.nextHandlerId hseats
  refine h.of_local hobjects hplaces hext hcontrol ?_ ?_ (fun k s r hx => ?_) ?_
    fun hfresh pattern s hs => ?_
  · rw [hnext, hhandles]
    exact h.unmade
  · rw [hhandles]
    exact h.inactive
  · rw [hhandles] at hx ⊢
    obtain ⟨hm, hlt⟩ := h.handles k s r hx
    exact ⟨hmade _ hm, Nat.lt_of_lt_of_le hlt hext.count⟩
  · rw [hstore, hhandles]
    exact h.leaving
  · unfold entry? at hs
    rw [hstore] at hs
    refine (h.entries hfresh pattern s hs).imp id fun hleaving => ?_
    exact hleaving.of_kept h hext (by rw [hstore]) (by rw [hstore]) fun k x hx _ _ _ =>
      hhandles ▸ hx

/-- Where an UNSUBSCRIBE is confirmed and nothing is cleared, the entry has handlers. -/
theorem unregistering_none {h s r : Nat} (hv : v.keepsLastHandler = false)
    (hnone : c.unregistering v (.unsubscribeContinues h) = none)
    (hpending : (c.handles h).pending = some (s, r)) (hphase : (c.requests r).phase = .unsubscribed)
    (hentry : c.entry? (c.handles h).pattern = some s) : (c.store.states s).handlers ≠ [] := by
  intro hnil
  simp [unregistering, hpending, hphase, hentry, handlersLeft, hv, hnil] at hnone

theorem Backed.local (hv : v.keepsLastHandler = false) (h : c.Backed) (hobjects : c.Objects)
    (hflights : c.Flights) (hK : c.KeepsRegistrations v e) (he : e.isLocal)
    (hs : c.step v e = some c') : c'.Backed := by
  have hlocal := step_local he hs
  have hext := step_extends he hs
  have hplaces := step_places hflights hs
  have hcontrol := hlocal.control
  have hmade : ∀ x, c.Made x → c'.Made x := fun x hx => hx.local hlocal
  -- the entry of a state that a handle holds on to is that of the handle's pattern
  have howner : ∀ {k s r q}, (c.handles k).pending = some (s, r) → c.entry? q = some s →
      q = (c.handles k).pattern := fun hx hq =>
    (hobjects.entries _ _ hq).2.symm.trans (h.handles _ _ _ hx).1.2
  have hregisters : ∀ pattern subId r, c.registering v e = some (pattern, subId, r) →
      (c.setStore (c.store.register pattern subId)).Backed ∧
        (c.setStore (c.store.register pattern subId)).Objects :=
    fun pattern subId r hregister => by
      obtain ⟨hphase, hframe⟩ := registering_answered hflights hregister
      have hanswered : (c.requests r).phase.isSubscribed = true := by rw [hphase]; rfl
      refine ⟨h.register hobjects fun hfresh => h.held hfresh pattern r
        ⟨registering_unplaced hflights hs hregister, hframe, hanswered,
          hK.2.1 _ hregister hfresh⟩, ?_⟩
      exact hobjects.local (.of_requests rfl fun _ => .refl)
        (.registers pattern subId r hregister .refl)
  cases step_move hv he (fun j hj => (hK.1 j hj).1) hs with
  | still _ _ _ _ hseats => exact h.of_seats hobjects hplaces hext hcontrol hmade hseats
  | registers pattern subId r _ _ hregister hseats =>
      obtain ⟨hbacked, hobjects'⟩ := hregisters _ _ _ hregister
      refine hbacked.of_seats hobjects' hplaces ⟨hext.count, hext.old, hext.new⟩ hcontrol
        (fun x hx => ?_) hseats
      have hstore : c'.store = c.store.register pattern subId := congrArg Seats.store hseats
      exact hx.of_table (congrArg Store.table hstore)
  | joins pattern s hjoin hregister hseats =>
      obtain ⟨-, hentry⟩ := hK.1 _ hjoin
      exact h.join hobjects hplaces hext hcontrol hmade (hentry hregister).2 hseats
  | enters pattern subId r _ hregister hseats =>
      obtain ⟨hbacked, hobjects'⟩ := hregisters _ _ _ hregister
      refine hbacked.join hobjects' hplaces ⟨hext.count, hext.old, hext.new⟩ hcontrol
        (fun x hx => ?_) ?_ hseats
      · have hstore : c'.store = (c.store.register pattern subId).addHandler c.store.stateCount
            c.nextHandlerId := congrArg Seats.store hseats
        exact hx.of_table ((congrArg Store.table hstore).trans (Store.table_addHandler _))
      · simp [setStore, Store.states_register]
  | leaves h₀ _ _ hleave hmove =>
      exact h.leave hobjects hplaces hext hcontrol hmade (leaving_active hleave)
        (hK.2.2.1 h₀ hleave) hmove
  | clears h₀ s₀ r₀ _ hpending hphase _ hseats =>
      have hstore : c'.store = (c.store.clearPending s₀ r₀).unregister (c.handles h₀).pattern s₀ :=
        congrArg Seats.store hseats
      have htable := congrArg Table.subscriptionsByPattern
        (Store.table_clearPending (t := c.store) (s := s₀) r₀)
      refine h.unsubscribeContinues hobjects hplaces hext hcontrol hmade hpending
        (congrArg Seats.handles hseats) (congrArg Seats.nextHandlerId hseats) rfl
        (by rw [hstore, Store.states_unregister]) fun q s hq => ?_
      unfold entry? at hq
      rw [hstore] at hq
      simp only [Store.unregister, OrderedMap.get?_delete] at hq
      rw [show (c.store.clearPending s₀ r₀).subscriptionsByPattern = _ from htable] at hq
      split at hq
      · cases hq
      · rename_i hne
        refine ⟨hq, ?_⟩
        rintro ⟨-, rfl, -⟩
        exact hne (howner hpending hq)
  | keeps h₀ s₀ r₀ hevent hpending hphase hunregister hseats =>
      subst hevent
      have hstore : c'.store = c.store.clearPending s₀ r₀ := congrArg Seats.store hseats
      have htable := congrArg Table.subscriptionsByPattern
        (Store.table_clearPending (t := c.store) (s := s₀) r₀)
      refine h.unsubscribeContinues hobjects hplaces hext hcontrol hmade hpending
        (congrArg Seats.handles hseats) (congrArg Seats.nextHandlerId hseats) rfl (by rw [hstore])
        fun q s hq => ?_
      unfold entry? at hq
      rw [hstore, show (c.store.clearPending s₀ r₀).subscriptionsByPattern = _ from htable] at hq
      refine ⟨hq, ?_⟩
      rintro ⟨-, rfl, hnil⟩
      have hq' : c.entry? (c.handles h₀).pattern = some s := howner hpending hq ▸ hq
      exact unregistering_none hv hunregister hpending hphase hq' hnil
  | refused h₀ s₀ r₀ _ hpending _ hphase _ hseats =>
      have hstore : c'.store = c.store.clearPending s₀ r₀ := congrArg Seats.store hseats
      have htable := congrArg Table.subscriptionsByPattern
        (Store.table_clearPending (t := c.store) (s := s₀) r₀)
      refine h.unsubscribeContinues hobjects hplaces hext hcontrol hmade hpending
        (congrArg Seats.handles hseats) (congrArg Seats.nextHandlerId hseats) rfl (by rw [hstore])
        fun q s hq => ?_
      unfold entry? at hq
      rw [hstore, show (c.store.clearPending s₀ r₀).subscriptionsByPattern = _ from htable] at hq
      exact ⟨hq, fun hconfirmed => hphase hconfirmed.1⟩

end Local

/-! ### The connection and the broker -/

section Remote

/-- A confirmed UNSUBSCRIBE stays confirmed. -/
theorem Leaving.of_advances {s : Nat} (h : c.Leaving s) (hstore : c'.store = c.store)
    (hhandles : c'.handles = c.handles) (hrequests : ∀ r, Advances (c.requests r) (c'.requests r)) :
    c'.Leaving s := by
  obtain ⟨hnil, k, r, hk, hr, hphase⟩ := h
  refine ⟨by rw [hstore]; exact hnil, k, r, by rw [hhandles]; exact hk, by rw [hstore]; exact hr,
    ?_⟩
  rw [((hrequests r).settled (by rw [hphase]; rfl)).1, hphase]

/-- The store, the handles and the listener stay. -/
theorem Backed.of_advances (h : c.Backed) (hstore : c'.store = c.store)
    (hhandles : SameHandles c c') (hrestore : c'.restore = c.restore)
    (hcount : c'.requestCount = c.requestCount)
    (hready : c'.link = .authenticated → c.restore = .idle)
    (hsentBy : ∀ r, (c'.requests r).phase = .sent → (c'.requests r).restoring = false →
      c'.link = .authenticated)
    (hentries : c'.Fresh → ∀ pattern s, c.entry? pattern = some s →
      c'.Registered pattern ∨ c'.Leaving s)
    (hearly : c'.link = .restoring → ∀ pattern r, ¬ c'.AnswerHeld pattern r)
    (hheld : c'.Fresh → ∀ pattern r, c'.AnswerHeld pattern r → c'.Registered pattern)
    (hrestored : c'.link ≠ .disconnected → ∀ todo restored r,
      c.restore = .resubscribing todo restored r → (∀ x ∈ restored, c'.Registered x.1) ∧
        ∀ pattern subId, (c'.requests r).frame = .subscribe pattern →
          (c'.requests r).phase = .subscribed subId → c'.Registered pattern) : c'.Backed := by
  refine ⟨?_, hsentBy, ?_, ?_, fun k s r hx => ?_, ?_, fun hfresh pattern s hs => ?_, hearly,
    hheld, ?_⟩
  · rw [hrestore]
    exact hready
  · rw [hhandles.nextHandlerId, hhandles.handles]
    exact h.unmade
  · rw [hhandles.handles]
    exact h.inactive
  · rw [hhandles.handles] at hx ⊢
    obtain ⟨hm, hlt⟩ := h.handles k s r hx
    exact ⟨hm.of_table (congrArg Store.table hstore), hcount ▸ hlt⟩
  · rw [hstore, hhandles.handles]
    exact h.leaving
  · unfold entry? at hs
    rw [hstore] at hs
    exact hentries hfresh pattern s hs
  · rw [hrestore]
    exact hrestored

/-- An answer that was there before is held as before. -/
theorem AnswerHeld.of_advances {pattern : String} {r : Nat} (h : c'.AnswerHeld pattern r)
    (hplaces : Places c c') (hadvances : Advances (c.requests r) (c'.requests r))
    (hsession : c'.session = c.session) (hwas : (c.requests r).phase.isSettled = true) :
    c.AnswerHeld pattern r :=
  h.of_places hplaces hadvances.frame (hadvances.settled hwas).1 (hadvances.settled hwas).2 hsession

/-- A request of the client advances, and the broker drops no registration. -/
theorem Backed.advances (h : c.Backed) (hplaces : Places c c') (hstore : c'.store = c.store)
    (hhandles : SameHandles c c') (hsession : c'.session = c.session)
    (hrestore : c'.restore = c.restore) (hfailed : c'.restoreFailed = c.restoreFailed)
    (hlink : c'.link = c.link) (hcount : c'.requestCount = c.requestCount)
    (hrequests : ∀ r, Advances (c.requests r) (c'.requests r))
    (hsent : ∀ r, (c'.requests r).phase = .sent → (c.requests r).phase = .sent ∨
      (c'.requests r).restoring = true ∨ c.link = .authenticated)
    (hregistered : ∀ pattern, c.Registered pattern → c'.Registered pattern)
    (hanswered : ∀ r pattern subId, (c'.requests r).frame = .subscribe pattern →
      (c'.requests r).phase = .subscribed subId → (c.requests r).phase = .subscribed subId ∨
        (c.requests r).phase = .sent ∧ c'.Registered pattern) : c'.Backed := by
  -- an answer in hand was so before, or the broker has just given it
  have hanswers : ∀ pattern r, c'.AnswerHeld pattern r → c.AnswerHeld pattern r ∨
      c.link = .authenticated ∧ c'.Registered pattern := by
    intro pattern r hheld
    have ⟨⟨hown, _⟩, hframe, hphase, _⟩ := hheld
    obtain ⟨subId, hphase⟩ := RequestPhase.isSubscribed_iff.mp hphase
    rcases hanswered r pattern subId hframe hphase with hwas | ⟨hwas, hnow⟩
    · exact Or.inl (hheld.of_advances hplaces (hrequests r) hsession (by rw [hwas]; rfl))
    · exact Or.inr ⟨h.sentBy r hwas ((hrequests r).restoring ▸ hown), hnow⟩
  refine h.of_advances hstore hhandles hrestore hcount ?_ (fun r hs hown => ?_)
    (fun hfresh pattern s hs => ?_) (fun hup pattern r hheld => ?_)
    (fun hfresh pattern r hheld => ?_) fun hup todo restored r hr => ?_
  · rw [hlink]
    exact h.ready
  · rw [hlink]
    rcases hsent r hs with hwas | hlistener | hlink
    · exact h.sentBy r hwas ((hrequests r).restoring ▸ hown)
    · rw [hlistener] at hown
      cases hown
    · exact hlink
  · unfold Fresh at hfresh
    rw [hlink, hrestore, hfailed] at hfresh
    exact (h.entries hfresh pattern s hs).imp (hregistered pattern)
      fun hleaving => hleaving.of_advances hstore hhandles.handles hrequests
  · rw [hlink] at hup
    rcases hanswers pattern r hheld with hwas | ⟨hready, -⟩
    · exact h.early hup pattern r hwas
    · rw [hready] at hup
      cases hup
  · unfold Fresh at hfresh
    rw [hlink, hrestore, hfailed] at hfresh
    rcases hanswers pattern r hheld with hwas | ⟨-, hnow⟩
    · exact hregistered pattern (h.held hfresh pattern r hwas)
    · exact hnow
  · rw [hlink] at hup
    obtain ⟨hall, hthis⟩ := h.restored hup todo restored r hr
    refine ⟨fun x hx => hregistered _ (hall x hx), fun pattern subId hframe hphase => ?_⟩
    rcases hanswered r pattern subId hframe hphase with hwas | hnow
    · exact hregistered _ (hthis pattern subId ((hrequests r).frame ▸ hframe) hwas)
    · exact hnow.2

/-- The broker drops a registration: the entry awaits this very UNSUBSCRIBE. -/
theorem Backed.brokerUnsubscribes (hv : v.unsubscribesById = false) (h : c.Backed)
    (hobjects : c.Objects) (hflights : c.Flights) {r subId : Nat} {pattern : String}
    (hK : c.KeepsRegistrations v (.unsubscribed r))
    (hframe : (c.requests r).frame = .unsubscribe pattern subId)
    (hsent : (c.requests r).phase = .sent)
    (hplaces : Places c (c.brokerUnsubscribes v r subId pattern))
    (hrequests : ∀ k, Advances (c.requests k)
      ((c.brokerUnsubscribes v r subId pattern).requests k)) :
    (c.brokerUnsubscribes v r subId pattern).Backed := by
  have hothers : ∀ k, k ≠ r →
      (c.brokerUnsubscribes v r subId pattern).requests k = c.requests k := fun k hk => by
    simp [Client.brokerUnsubscribes, setRequest, Function.update_of_ne hk]
  have hself : ((c.brokerUnsubscribes v r subId pattern).requests r).phase = .unsubscribed := by
    simp [Client.brokerUnsubscribes, setRequest]
  have hregistered : ∀ q, q ≠ pattern → c.Registered q →
      (c.brokerUnsubscribes v r subId pattern).Registered q := by
    intro q hq hreg
    obtain ⟨x, hx, rfl⟩ := List.mem_map.mp hreg
    refine List.mem_map.mpr ⟨x, List.mem_filter.mpr ⟨hx, ?_⟩, rfl⟩
    simpa [hv] using hq
  have hK := hK.2.2.2
  simp only [hframe] at hK
  -- the request of a listener that is rolling back, or one of an authenticated client
  have hwhich : c.restore.isUnderWay = true ∧ (∀ todo restored k,
        c.restore ≠ .resubscribing todo restored k) ∨
      c.restore = .idle ∧
        (∀ s ∈ c.entry? pattern, (c.store.states s).pendingUnsubscribe = some r) ∧
          ∀ k < c.requestCount, ¬ c.AnswerHeld pattern k := by
    cases hown : (c.requests r).restoring with
    | true =>
        have hwaiting := hobjects.waiting r hown (by rw [hsent]; rfl)
        refine Or.inl ⟨?_, fun todo restored k hk => ?_⟩
        · cases hrestore : c.restore <;> simp [hrestore, Restore.request?] at hwaiting <;> rfl
        · obtain rfl : k = r := by simpa [hk, Restore.request?] using hwaiting
          obtain ⟨-, -, x, rest, -, hsubscribe⟩ := hobjects.resubscribing todo restored k hk
          rw [hframe] at hsubscribe
          cases hsubscribe
    | false => exact Or.inr ⟨h.ready (h.sentBy r hsent hown), hK.resolve_left (by simp [hown])⟩
  -- the answers that are held are those that were
  have hheld : ∀ q k, (c.brokerUnsubscribes v r subId pattern).AnswerHeld q k →
      c.AnswerHeld q k := by
    intro q k hk
    have hkr : k ≠ r := by
      rintro rfl
      have hanswered := hk.2.2.1
      rw [hself] at hanswered
      cases hanswered
    have hsame := hothers k hkr
    exact hk.of_places hplaces (by rw [hsame]) (by rw [hsame]) (by rw [hsame]) rfl
  refine h.of_advances rfl ⟨rfl, rfl, rfl⟩ rfl rfl h.ready (fun k hs hown => ?_)
    (fun hfresh q s hs => ?_) (fun hup q k hk => h.early hup q k (hheld q k hk))
    (fun hfresh q k hk => ?_) fun hup todo restored k hk => ?_
  · by_cases hk : k = r
    · rw [hk, hself] at hs
      cases hs
    · rw [hothers k hk] at hs hown
      exact h.sentBy k hs hown
  · rcases hwhich with ⟨hunder, -⟩ | ⟨-, hawaits, -⟩
    · have hnot : c.restore.isUnderWay = false := hfresh.2.1
      rw [hunder] at hnot
      cases hnot
    · rcases h.entries hfresh q s hs with hreg | hleaving
      · by_cases hq : q = pattern
        · subst hq
          have hpending := hawaits s hs
          obtain ⟨hnil, k, hx⟩ := h.leaving s r hpending
          exact Or.inr ⟨hnil, k, r, hx, hpending, hself⟩
        · exact Or.inl (hregistered q hq hreg)
      · exact Or.inr (hleaving.of_advances rfl rfl hrequests)
  · rcases hwhich with ⟨hunder, -⟩ | ⟨-, -, hplaced⟩
    · have hnot : c.restore.isUnderWay = false := hfresh.2.1
      rw [hunder] at hnot
      cases hnot
    · have hwas := hheld q k hk
      by_cases hq : q = pattern
      · subst hq
        refine absurd hwas (hplaced k (hflights.lt_requestCount fun hunsent => ?_))
        have hanswered := hwas.2.2.1
        rw [hunsent] at hanswered
        cases hanswered
      · exact hregistered q hq (h.held hfresh q k hwas)
  · rcases hwhich with ⟨-, hno⟩ | ⟨hidle, -⟩
    · exact absurd hk (hno _ _ _)
    · rw [hidle] at hk
      cases hk

/-- Only the request that is replaced has the new phase. -/
theorem setRequest_phase_eq {r k : Nat} {request : Request} {phase : RequestPhase}
    (hne : request.phase ≠ phase) (hk : ((c.setRequest r request).requests k).phase = phase) :
    (c.requests k).phase = phase := by
  by_cases hkr : k = r
  · subst hkr
    simp only [setRequest, Function.update_self] at hk
    exact absurd hk hne
  · simpa [setRequest, Function.update_of_ne hkr] using hk

/-- A request is written, by its listener or on an authenticated connection. -/
theorem Backed.sent (h : c.Backed) {r : Nat} (hsend : c.mayBeSent r = true)
    (hplaces : Places c (c.send r)) (hhandles : SameHandles c (c.send r))
    (hrequests : ∀ k, Advances (c.requests k) ((c.send r).requests k)) : (c.send r).Backed := by
  have hby : (c.requests r).restoring = true ∨ c.link = .authenticated := by
    unfold mayBeSent at hsend
    cases hown : (c.requests r).restoring with
    | true => exact Or.inl rfl
    | false => simpa [hown] using And.right (by simpa [hown] using hsend)
  have hget : (c.send r).requests = (c.setRequest r
      { c.requests r with phase := .sent, sentIn := c.session }).requests := by
    unfold send
    dsimp only
    split <;> rfl
  obtain ⟨hstore, hsession, hrestore, hfailed, hlink, hcount, hreg⟩ :
      (c.send r).store = c.store ∧ (c.send r).session = c.session ∧
      (c.send r).restore = c.restore ∧ (c.send r).restoreFailed = c.restoreFailed ∧
      (c.send r).link = c.link ∧ (c.send r).requestCount = c.requestCount ∧
      (c.send r).registrations = c.registrations := by
    unfold send
    dsimp only
    split <;> exact ⟨rfl, rfl, rfl, rfl, rfl, rfl, rfl⟩
  refine h.advances hplaces hstore hhandles hsession hrestore hfailed hlink hcount hrequests
    (fun k hk => ?_) (fun q hq => ?_) fun k q subId _ hk => ?_
  · by_cases hkr : k = r
    · subst hkr
      rw [(hrequests k).restoring]
      exact Or.inr hby
    · rw [hget] at hk
      simp only [setRequest, Function.update_of_ne hkr] at hk
      exact Or.inl hk
  · unfold Registered
    rw [hreg]
    exact hq
  · rw [hget] at hk
    exact Or.inl (setRequest_phase_eq (by simp) hk)

/-- The broker makes a registration, and drops none. -/
theorem Backed.brokerSubscribes (h : c.Backed) {r subId : Nat} {pattern : String}
    (hframe : (c.requests r).frame = .subscribe pattern) (hsent : (c.requests r).phase = .sent)
    (hplaces : Places c (c.brokerSubscribes r subId pattern))
    (hhandles : SameHandles c (c.brokerSubscribes r subId pattern))
    (hrequests : ∀ k, Advances (c.requests k) ((c.brokerSubscribes r subId pattern).requests k)) :
    (c.brokerSubscribes r subId pattern).Backed := by
  have hnew : (c.brokerSubscribes r subId pattern).Registered pattern := by
    simp [Registered, Client.brokerSubscribes, setRequest]
  refine h.advances hplaces rfl hhandles rfl rfl rfl rfl rfl hrequests
    (fun k hk => Or.inl (setRequest_phase_eq (by simp) hk)) (fun q hq => ?_) fun k q id hq hk => ?_
  · obtain ⟨x, hx, heq⟩ := List.mem_map.mp hq
    exact List.mem_map.mpr ⟨x, List.mem_append_left _ hx, heq⟩
  · by_cases hkr : k = r
    · subst hkr
      rw [(hrequests k).frame, hframe] at hq
      exact Or.inr ⟨hsent, (Frame.subscribe.inj hq) ▸ hnew⟩
    · simp only [Client.brokerSubscribes, setRequest, Function.update_of_ne hkr] at hk
      exact Or.inl hk

/-- A notification is delivered, or kept back. -/
theorem Backed.notify (h : c.Backed) {subId : Nat} (hplaces : Places c (c.notify v subId))
    (hhandles : SameHandles c (c.notify v subId))
    (hrequests : ∀ k, Advances (c.requests k) ((c.notify v subId).requests k)) :
    (c.notify v subId).Backed := by
  obtain ⟨htraffic, hcontrol⟩ := notify_frame (v := v) (c := c) subId
  have hsame : (c.notify v subId).requests = c.requests := congrArg Traffic.requests htraffic
  have hreg : (c.notify v subId).registrations = c.registrations :=
    congrArg Control.registrations hcontrol
  refine h.advances hplaces (notify_store subId) hhandles (congrArg Control.session hcontrol)
    (congrArg Control.restore hcontrol) (congrArg Control.restoreFailed hcontrol)
    (congrArg Control.link hcontrol) (congrArg Traffic.requestCount htraffic) hrequests
    (fun k hk => ?_) (fun q hq => ?_) fun k q id _ hk => ?_
  · rw [hsame] at hk
    exact Or.inl hk
  · unfold Registered
    rw [hreg]
    exact hq
  · rw [hsame] at hk
    exact Or.inl hk

/-- The session goes, and every request that was sent with it. -/
theorem Backed.loseConnection (h : c.Backed) (hhandles : SameHandles c c.loseConnection) :
    c.loseConnection.Backed := by
  refine h.of_advances rfl hhandles rfl rfl nofun (fun r hsent _ => ?_)
    (fun hfresh => absurd rfl hfresh.1) (fun hup => (by cases hup))
    (fun hfresh => absurd rfl hfresh.1) fun hup => absurd rfl hup
  unfold Client.loseConnection at hsent
  dsimp only at hsent
  split at hsent
  · cases hsent
  · rename_i hnot
    exact absurd hsent hnot

theorem Backed.remote (hv : v.unsubscribesById = false) (h : c.Backed) (hobjects : c.Objects)
    (hflights : c.Flights) (hK : c.KeepsRegistrations v e) (he : e.isLocal = false)
    (hbegins : e ≠ .restoreBegins) (hcontinues : e ≠ .restoreContinues)
    (hs : c.step v e = some c') : c'.Backed := by
  obtain ⟨-, hrequests⟩ := step_advances he hbegins hcontinues hs
  have hhandles := step_handles he hs
  have hplaces := step_places hflights hs
  cases e with
  | sent r =>
      obtain ⟨hsend, ⟨⟩⟩ := Option.ite_none_right_eq_some.mp hs
      exact h.sent hsend hplaces hhandles hrequests
  | subscribed r subId =>
      unfold step at hs
      dsimp only at hs
      split at hs
      · rename_i pattern hframe
        obtain ⟨hsent, ⟨⟩⟩ := Option.ite_none_right_eq_some.mp hs
        exact h.brokerSubscribes hframe hsent hplaces hhandles hrequests
      · cases hs
  | unsubscribed r =>
      unfold step at hs
      dsimp only at hs
      split at hs
      · rename_i pattern subId hframe
        obtain ⟨hsent, ⟨⟩⟩ := Option.ite_none_right_eq_some.mp hs
        exact h.brokerUnsubscribes hv hobjects hflights hK hframe hsent hplaces hrequests
      · cases hs
  | rejected r =>
      obtain ⟨-, ⟨⟩⟩ := Option.ite_none_right_eq_some.mp hs
      exact h.advances hplaces rfl hhandles rfl rfl rfl rfl rfl hrequests
        (fun k hk => Or.inl (setRequest_phase_eq (by simp) hk)) (fun _ hq => hq)
        fun k q id _ hk => Or.inl (setRequest_phase_eq (by simp) hk)
  | notify subId =>
      obtain ⟨-, ⟨⟩⟩ := Option.ite_none_right_eq_some.mp hs
      exact h.notify hplaces hhandles hrequests
  | lost =>
      obtain ⟨-, ⟨⟩⟩ := Option.ite_none_right_eq_some.mp hs
      exact h.loseConnection hhandles
  | connected =>
      obtain ⟨⟨hdown, -⟩, ⟨⟩⟩ := Option.ite_none_right_eq_some.mp hs
      refine ⟨fun hlink => (by cases hlink), fun r hsent hown => ?_, h.unmade, h.inactive,
        h.handles, h.leaving, fun hfresh => Bool.noConfusion hfresh.2.1,
        fun _ pattern r hheld => ?_, fun hfresh => Bool.noConfusion hfresh.2.1,
        fun _ _ _ _ hr => (by cases hr)⟩
      · have hup := h.sentBy r hsent hown
        rw [hdown] at hup
        cases hup
      · -- what was sent before was sent in an older session
        have hnow : (c.requests r).sentIn = c.session + 1 := hheld.2.2.2
        have hpast := hflights.past r
        omega
  | restored =>
      obtain ⟨⟨hlink, hidle⟩, ⟨⟩⟩ := Option.ite_none_right_eq_some.mp hs
      refine ⟨fun _ => hidle, fun _ _ _ => rfl, h.unmade, h.inactive, h.handles, h.leaving,
        fun hfresh => h.entries ⟨by simp [hlink], hfresh.2⟩, fun hup => (by cases hup),
        fun hfresh => h.held ⟨by simp [hlink], hfresh.2⟩, fun _ todo restored r hr => ?_⟩
      have hr : c.restore = .resubscribing todo restored r := hr
      rw [hidle] at hr
      cases hr
  | restoreBegins => exact absurd rfl hbegins
  | restoreContinues => exact absurd rfl hcontinues
  | subscribe | callContinues | abort | unsubscribe | unsubscribeContinues | flightSettles =>
      cases he

end Remote

/-! ### The reconnect listener -/

section Restore

variable {todo restored : List (String × Nat)}

theorem link_restoring (hup : c.link ≠ .disconnected) (hbusy : c.link ≠ .authenticated) :
    c.link = .restoring := by
  cases hlink : c.link with
  | disconnected => exact absurd hlink hup
  | restoring => rfl
  | authenticated => exact absurd hlink hbusy

/-- While the listener is at work, the client is not authenticated. -/
theorem Backed.not_authenticated (h : c.Backed) (hbusy : c.restore ≠ .idle) :
    c.link ≠ .authenticated := fun hlink => hbusy (h.ready hlink)

/-- The next resubscribe, or the commit. -/
theorem Backed.resubscribeNext (h : c.Backed) (hbusy : c.link ≠ .authenticated)
    (hrestored : c.link ≠ .disconnected → ∀ x ∈ restored, c.Registered x.1) :
    (c.resubscribeNext todo restored).Backed := by
  unfold Client.resubscribeNext
  split
  · rename_i pattern s todo
    have hget : ∀ r, r ≠ c.requestCount →
        (c.request (.subscribe pattern) true).requests r = c.requests r := fun r hr => by
      simp [Client.request, Function.update_of_ne hr]
    have hnew : ((c.request (.subscribe pattern) true).requests c.requestCount).phase =
        .unsent := by
      simp [Client.request]
    refine ⟨fun hlink => absurd hlink hbusy, fun r hsent hown => ?_, h.unmade, h.inactive,
      fun k s r hx => ?_, h.leaving, fun hfresh => Bool.noConfusion hfresh.2.1,
      fun hup q r hheld => h.early hup q r (AnswerHeld.of_request (.subscribe pattern) hheld),
      fun hfresh => Bool.noConfusion hfresh.2.1, ?_⟩
    · by_cases hr : r = c.requestCount
      · have hsent : ((c.request (.subscribe pattern) true).requests r).phase = .sent := hsent
        rw [hr, hnew] at hsent
        cases hsent
      · have hsame := hget r hr
        exact h.sentBy r (hsame ▸ hsent) (hsame ▸ hown)
    · obtain ⟨hm, hlt⟩ := h.handles k s r hx
      exact ⟨hm, Nat.lt_succ_of_lt hlt⟩
    · rintro hup todo' restored' r hr
      cases hr
      refine ⟨hrestored hup, fun q subId _ hphase => ?_⟩
      have hphase : ((c.request (.subscribe pattern) true).requests c.requestCount).phase =
          .subscribed subId := hphase
      rw [hnew] at hphase
      cases hphase
  · refine ⟨fun hlink => absurd hlink hbusy, h.sentBy, h.unmade, h.inactive, h.handles, h.leaving,
      fun hfresh q s hs => ?_, h.early, fun hfresh q r hheld => ?_, fun _ _ _ _ h => by cases h⟩
    swap
    · exact absurd hheld (h.early (link_restoring hfresh.1 hbusy) q r)
    have hmem : (q, s) ∈ restored := (OrderedMap.of_get?_foldl_set hs).resolve_right (by simp)
    exact Or.inl (hrestored hfresh.1 (q, s) hmem)

/-- A rollback goes on, or ends with an error. -/
theorem Backed.rollbackNext (h : c.Backed) (hbusy : c.link ≠ .authenticated) :
    (c.rollbackNext v todo).Backed := by
  -- the index plays no part
  have key : ∀ (c₁ : Client) (frame : Frame) (x : String × Nat) (todo : List (String × Nat)),
      c₁.Backed → c₁.link ≠ .authenticated →
        Backed { c₁.request frame true with
          restore := .rollingBack (x :: todo) c₁.requestCount } := by
    intro c₁ frame x todo h hbusy
    refine ⟨fun hlink => absurd hlink hbusy, fun r hsent hown => ?_, h.unmade, h.inactive,
      fun k s r hx => ?_, h.leaving, fun hfresh => Bool.noConfusion hfresh.2.1,
      fun hup q r hheld => h.early hup q r (AnswerHeld.of_request (c := c₁) _ hheld),
      fun hfresh => Bool.noConfusion hfresh.2.1, fun _ _ _ _ h => by cases h⟩
    · by_cases hr : r = c₁.requestCount
      · subst hr
        simp [Client.request] at hsent
      · simp only [Client.request, Function.update_of_ne hr] at hsent hown
        exact h.sentBy r hsent hown
    · obtain ⟨hm, hlt⟩ := h.handles k s r hx
      exact ⟨hm, Nat.lt_succ_of_lt hlt⟩
  have hindex : ∀ m, (c.setStore { c.store with patternsBySubId := m }).Backed := fun m =>
    ⟨h.ready, h.sentBy, h.unmade, h.inactive, h.handles, h.leaving, h.entries, h.early, h.held,
      h.restored⟩
  unfold Client.rollbackNext
  split
  · dsimp only
    split
    · exact key _ _ _ _ (hindex _) hbusy
    · exact key _ _ _ _ h hbusy
  · exact ⟨fun hlink => absurd hlink hbusy, h.sentBy, h.unmade, h.inactive, h.handles, h.leaving,
      fun hfresh => Bool.noConfusion hfresh.2.2, h.early,
      fun hfresh => Bool.noConfusion hfresh.2.2, fun _ _ _ _ h => by cases h⟩

/-- The object of a restored entry awaits nothing. -/
theorem Backed.restoreEntry (h : c.Backed) (hunder : c.restore.isUnderWay = true)
    (pattern : String) (s subId : Nat) : (c.restoreEntry v pattern s subId).Backed := by
  have hstates : (c.restoreEntry v pattern s subId).store.states = Function.update c.store.states
      c.store.stateCount ⟨pattern, subId, (c.store.states s).handlers, none⟩ := by
    unfold Client.restoreEntry
    split <;> rfl
  have hnot : ¬ (c.restoreEntry v pattern s subId).Fresh := by
    intro hfresh
    have hdone : c.restore.isUnderWay = false := hfresh.2.1
    rw [hunder] at hdone
    cases hdone
  refine ⟨h.ready, h.sentBy, h.unmade, h.inactive, fun k s' r hx => ?_, fun s' r hr => ?_,
    fun hfresh => absurd hfresh hnot, h.early, fun hfresh => absurd hfresh hnot, h.restored⟩
  · obtain ⟨hm, hlt⟩ := h.handles k s' r hx
    exact ⟨hm.restoreEntry pattern s subId, hlt⟩
  · rw [hstates] at hr ⊢
    by_cases hs : s' = c.store.stateCount
    · subst hs
      simp at hr
    · rw [Function.update_of_ne hs] at hr ⊢
      exact h.leaving s' r hr

theorem Backed.restoreBegins (h : c.Backed) (hpending : c.restore = .pending) :
    (c.restoreBegins v).Backed := by
  have hbusy : c.link ≠ .authenticated := h.not_authenticated (by simp [hpending])
  have hnothing : ∀ m, c.store.subscriptionsByPattern.entries = [] → Backed
      { c.setStore { c.store with patternsBySubId := m } with restore := .idle } := by
    refine fun m hnil =>
      ⟨fun hlink => absurd hlink hbusy, h.sentBy, h.unmade, h.inactive, h.handles,
      h.leaving, fun _ q s hs => ?_, h.early, fun hfresh q r hheld => ?_,
      fun _ _ _ _ h => by cases h⟩
    · have hmem := OrderedMap.get?_eq_some.mp hs
      simp [setStore, hnil] at hmem
    · exact absurd hheld (h.early (link_restoring hfresh.1 hbusy) q r)
  unfold Client.restoreBegins
  split
  · rename_i hnil
    dsimp only
    split
    · exact hnothing _ hnil
    · exact hnothing c.store.patternsBySubId hnil
  · exact h.resubscribeNext hbusy fun _ _ h => by cases h

theorem Backed.restoreContinues (h : c.Backed) (hobjects : c.Objects)
    (hs : c.restoreContinues v = some c') : c'.Backed := by
  unfold Client.restoreContinues at hs
  split at hs
  · rename_i pattern s todo restored r hrestore
    have hbusy : c.link ≠ .authenticated := h.not_authenticated (by simp [hrestore])
    split at hs
    · -- the answer is for the entry that comes next
      rename_i subId hphase
      cases hs
      have hunder : c.restore.isUnderWay = true := by simp [hrestore, Restore.isUnderWay]
      refine (h.restoreEntry hunder pattern s subId).resubscribeNext hbusy fun hup x hx => ?_
      obtain ⟨hall, hanswered⟩ := h.restored hup _ _ r hrestore
      rcases List.mem_append.mp hx with hx | hx
      · exact hall x hx
      · obtain ⟨-, -, y, rest, htodo, hframe⟩ := hobjects.resubscribing _ _ r hrestore
        obtain ⟨rfl, -⟩ := List.cons.inj htodo
        rw [List.mem_singleton.mp hx]
        exact hanswered pattern subId hframe hphase
    · cases hs
    · cases hs
    · cases hs
      exact h.rollbackNext hbusy
  · rename_i hrestore
    have hbusy : c.link ≠ .authenticated := h.not_authenticated (by simp [hrestore])
    obtain ⟨-, ⟨⟩⟩ := Option.ite_none_right_eq_some.mp hs
    exact h.rollbackNext hbusy
  · rename_i hrestore
    cases hs
    -- the map is filled again: the entries are the same, in another order
    obtain ⟨htraffic, hcontrol⟩ := reindex_frame (v := v) (c := c)
    have hstore := reindex_store (v := v) (c := c)
    have hhandles := reindex_handles (v := v) (c := c)
    have hbusy : c.link ≠ .authenticated := h.not_authenticated (by simp [hrestore])
    have hlink : (c.reindex v).link = c.link := congrArg Control.link hcontrol
    have hidle : (c.reindex v).restore = .idle := congrArg Control.restore hcontrol
    have hfailed : (c.reindex v).restoreFailed = c.restoreFailed :=
      congrArg Control.restoreFailed hcontrol
    have hreg : (c.reindex v).registrations = c.registrations :=
      congrArg Control.registrations hcontrol
    have hrequests : (c.reindex v).requests = c.requests := congrArg Traffic.requests htraffic
    have hcount : (c.reindex v).requestCount = c.requestCount :=
      congrArg Traffic.requestCount htraffic
    have hheld : ∀ q r, (c.reindex v).AnswerHeld q r → c.AnswerHeld q r := fun q r h =>
      h.of_traffic htraffic (congrArg Control.session hcontrol)
    refine ⟨fun hup => absurd (hlink ▸ hup) hbusy, ?_, ?_, ?_, ?_, ?_, fun hfresh q s hs => ?_,
      fun hup q r hq => h.early (hlink ▸ hup) q r (hheld q r hq), fun hfresh q r hq => ?_, ?_⟩
    · rw [hrequests, hlink]
      exact h.sentBy
    · rw [hhandles.nextHandlerId, hhandles.handles]
      exact h.unmade
    · rw [hhandles.handles]
      exact h.inactive
    · unfold Made
      rw [hhandles.handles, hcount, hstore]
      exact h.handles
    · rw [hhandles.handles, hstore]
      exact h.leaving
    · unfold entry? at hs
      unfold Fresh at hfresh
      rw [hstore] at hs
      rw [hlink, hfailed] at hfresh
      unfold Registered Leaving
      rw [hreg, hstore, hhandles.handles, hrequests]
      exact h.entries ⟨hfresh.1, by simp [hrestore, Restore.isUnderWay], hfresh.2.2⟩ q s hs
    · exact absurd (hheld q r hq) (h.early (link_restoring (hlink ▸ hfresh.1) hbusy) q r)
    · rw [hidle]
      exact nofun
  · cases hs

end Restore

section Runs

theorem Backed.step (hlast : v.keepsLastHandler = false) (hid : v.unsubscribesById = false)
    (h : c.Backed) (hobjects : c.Objects) (hflights : c.Flights) (hK : c.KeepsRegistrations v e)
    (hs : c.step v e = some c') : c'.Backed := by
  by_cases he : e.isLocal = true
  · exact h.local hlast hobjects hflights hK he hs
  · by_cases hbegins : e = .restoreBegins
    · subst hbegins
      obtain ⟨hpending, ⟨⟩⟩ := Option.ite_none_right_eq_some.mp hs
      exact h.restoreBegins hpending
    · by_cases hcontinues : e = .restoreContinues
      · subst hcontinues
        exact h.restoreContinues hobjects hs
      · exact h.remote hid hobjects hflights hK (by simpa using he) hbegins hcontinues hs

/-- No `unsubscribe` is under way, and the restore of this session has not failed. -/
def Settled (c : Client) : Prop :=
  c.link = .authenticated ∧ c.restoreFailed = false ∧ ∀ h, (c.handles h).pending = none

theorem Backed.settled (h : c.Backed) (hsettled : c.Settled) {pattern : String} {s : Nat}
    (hs : c.entry? pattern = some s) : c.Registered pattern := by
  obtain ⟨hlink, hfailed, hnone⟩ := hsettled
  have hfresh : c.Fresh := ⟨by simp [hlink], by simp [h.ready hlink, Restore.isUnderWay], hfailed⟩
  rcases h.entries hfresh pattern s hs with hreg | ⟨-, k, r, hx, -⟩
  · exact hreg
  · rw [hnone k] at hx
    cases hx

end Runs

end FitzTs.Subscriptions.Client
