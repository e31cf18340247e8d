import FitzTs.Domains.Subscriptions.Moves
import FitzTs.Domains.Subscriptions.Objects
/-!
# FitzTs.Domains.Subscriptions.Handlers

Which handlers a reconnect restore keeps.

The restore copies the handlers of an entry when its answer comes, and puts the copies into the
table at the end. What happens to the handlers of a pattern in between happens to the old object
only: a handler that joins is lost, and one that leaves is in the copy.

## Main result

* `handlers_run` — in a run in which no handler joins or leaves a pattern that the running restore
  has copied, and no other slip of `KeepsHandlers` happens, a pattern's entry has exactly the
  handlers whose handles are active.
-/

namespace FitzTs.Subscriptions

/-- The patterns whose handlers the running restore has copied. -/
def Restore.copied : Restore → List String
  | .resubscribing _ restored _ => restored.map Prod.fst
  | _ => []

/-- A restore is resubscribing. -/
def Restore.isResubscribing : Restore → Bool
  | .resubscribing .. => true
  | _ => false

namespace Client

/-- No handler joins or leaves a pattern that the running restore has copied. A handler joins the
entry of its pattern, with a signal that is not aborted; no entry is made while a restore
resubscribes, or in the place of another; an UNSUBSCRIBE of the last handler does not fail. -/
def KeepsHandlers (v : Variant) (c : Client) (e : Event) : Prop :=
  (∀ j ∈ c.joining v e, j.aborted = false ∧ j.pattern ∉ c.restore.copied ∧
    (c.registering v e = none → c.entry? j.pattern = some j.state)) ∧
  (∀ x ∈ c.registering v e, c.restore.isResubscribing = false ∧ c.entry? x.1 = none) ∧
  (∀ h ∈ c.leaving e, (c.handles h).pattern ∉ c.restore.copied) ∧
  match e with
  | .unsubscribeContinues h => ∀ x ∈ (c.handles h).pending, (c.requests x.2).phase = .unsubscribed
  | _ => True

instance (v : Variant) (c : Client) (e : Event) : Decidable (c.KeepsHandlers v e) := by
  unfold KeepsHandlers
  have : Decidable (match e with
      | .unsubscribeContinues h =>
        ∀ x ∈ (c.handles h).pending, (c.requests x.2).phase = .unsubscribed
      | _ => True) := by
    split <;> infer_instance
  infer_instance

/-- State `s` has exactly the handlers of the pattern whose handles are active. -/
structure Seated (t : Seats) (pattern : String) (s : Nat) : Prop where
  nodup : (t.store.states s).handlers.Nodup
  active : ∀ h, h ∈ (t.store.states s).handlers ↔
    (t.handles h).active = true ∧ (t.handles h).pattern = pattern

/-- What holds in a run whose steps meet `KeepsHandlers`. -/
structure Handlers (c : Client) : Prop where
  unmade : ∀ h, c.nextHandlerId ≤ h → (c.handles h).active = false
  entries : ∀ pattern s, c.entry? pattern = some s → Seated c.seats pattern s
  active : ∀ h, (c.handles h).active = true → ∃ s, c.entry? (c.handles h).pattern = some s
  copies : ∀ todo restored r, c.restore = .resubscribing todo restored r →
    (∀ x ∈ restored ++ todo, Seated c.seats x.1 x.2) ∧
      ∀ pattern s, c.entry? pattern = some s → pattern ∉ restored.map Prod.fst →
        (pattern, s) ∈ todo

theorem handlers_create : create.Handlers where
  unmade := fun _ _ => rfl
  entries := fun _ _ h => by simp [create, entry?, Store.empty] at h
  active := fun _ h => by cases h
  copies := fun _ _ _ h => by cases h

variable {v : Variant} {c c' : Client} {e : Event}

/-! ### One object -/

section Seated

variable {t : Seats} {pattern : String} {s : Nat}

/-- The handlers and the handles of the pattern stay. -/
theorem Seated.of_same {t' : Seats} (h : Seated t pattern s)
    (hhandlers : (t'.store.states s).handlers = (t.store.states s).handlers)
    (hhandles : ∀ k, (t'.handles k).active = true ∧ (t'.handles k).pattern = pattern ↔
      (t.handles k).active = true ∧ (t.handles k).pattern = pattern) : Seated t' pattern s := by
  refine ⟨?_, fun k => ?_⟩
  · rw [hhandlers]
    exact h.nodup
  · rw [hhandlers, hhandles]
    exact h.active k

/-- A handler joins the object of another pattern, or this one. -/
theorem Seated.join (h : Seated t pattern s) (hunmade : (t.handles t.nextHandlerId).active = false)
    {q : String} {k : Nat} (hsame : q = pattern ↔ k = s) : Seated (t.join q k) pattern s := by
  have hnew : t.nextHandlerId ∉ (t.store.states s).handlers := fun hmem => by
    rw [((h.active _).mp hmem).1] at hunmade
    cases hunmade
  by_cases hk : k = s
  · obtain rfl := hsame.mpr hk
    subst hk
    have hhandlers : ((t.join q k).store.states k).handlers =
        (t.store.states k).handlers ++ [t.nextHandlerId] := by
      simp [Seats.join, Store.states_addHandler]
    refine ⟨?_, fun h' => ?_⟩
    · rw [hhandlers]
      exact List.nodup_append.mpr ⟨h.nodup, List.nodup_singleton _, fun a ha b hb => by
        rw [List.mem_singleton.mp hb]
        exact fun heq => hnew (heq ▸ ha)⟩
    · rw [hhandlers, List.mem_append, List.mem_singleton, h.active]
      by_cases hh : h' = t.nextHandlerId
      · simp [hh, Seats.join]
      · simp [hh, Seats.join]
  · have hq : q ≠ pattern := fun heq => hk (hsame.mp heq)
    refine h.of_same ?_ fun h' => ?_
    · simp [Seats.join, Store.states_addHandler, Ne.symm hk]
    · by_cases hh : h' = t.nextHandlerId
      · simp [hh, Seats.join, hq, hunmade]
      · simp [hh, Seats.join]

/-- A handle of another object's pattern, or of this one's, leaves. -/
theorem Seated.leave (h : Seated t pattern s) {t' : Seats} {h₀ k : Nat}
    (hsame : (t.handles h₀).pattern = pattern ↔ k = s)
    (hhandlers : ∀ s', (t'.store.states s').handlers =
      if s' = k then (t.store.states k).handlers.erase h₀ else (t.store.states s').handlers)
    {handle : Handle} (hhandles : t'.handles = Function.update t.handles h₀ handle)
    (hactive : handle.active = false) : Seated t' pattern s := by
  have hothers : ∀ h', h' ≠ h₀ → t'.handles h' = t.handles h' := fun h' hh => by
    rw [hhandles, Function.update_of_ne hh]
  have hself : (t'.handles h₀).active = false := by rw [hhandles, Function.update_self, hactive]
  by_cases hk : k = s
  · subst hk
    have herase : (t'.store.states k).handlers = (t.store.states k).handlers.erase h₀ := by
      rw [hhandlers, if_pos rfl]
    refine ⟨?_, fun h' => ?_⟩
    · rw [herase]
      exact h.nodup.erase h₀
    · rw [herase, h.nodup.mem_erase_iff, h.active]
      by_cases hh : h' = h₀
      · simp [hh, hself]
      · simp [hh, hothers h' hh]
  · have hpattern : (t.handles h₀).pattern ≠ pattern := fun heq => hk (hsame.mp heq)
    refine h.of_same (by rw [hhandlers, if_neg (Ne.symm hk)]) fun h' => ?_
    by_cases hh : h' = h₀
    · simp [hh, hself, hpattern]
    · rw [hothers h' hh]

end Seated

/-! ### The objects that matter -/

/-- The objects that are, or may come to be, in the table. -/
def Relevant (c : Client) (pattern : String) (s : Nat) : Prop :=
  c.entry? pattern = some s ∨ ∃ todo restored r, c.restore = .resubscribing todo restored r ∧
    (pattern, s) ∈ restored ++ todo

theorem Relevant.made {pattern : String} {s : Nat} (hobjects : c.Objects)
    (h : c.Relevant pattern s) : c.Made (pattern, s) := by
  rcases h with hs | ⟨todo, restored, r, hrestore, hmem⟩
  · exact hobjects.entries pattern s hs
  · exact (hobjects.resubscribing todo restored r hrestore).1 _ hmem

theorem Handlers.seated {pattern : String} {s : Nat} (h : c.Handlers) (hr : c.Relevant pattern s) :
    Seated c.seats pattern s := by
  rcases hr with hs | ⟨todo, restored, r, hrestore, hmem⟩
  · exact h.entries pattern s hs
  · exact (h.copies todo restored r hrestore).1 _ hmem

/-- The entry of a pattern that has not been copied is the one object of the pattern that
matters. -/
theorem Handlers.entry_unique (h : c.Handlers) (hobjects : c.Objects) {q : String} {k : Nat}
    (hcopied : q ∉ c.restore.copied) (hentry : c.entry? q = some k) {pattern : String} {s : Nat}
    (hr : c.Relevant pattern s) : q = pattern ↔ k = s := by
  have hpattern : (c.store.states k).pattern = q := (hobjects.entries q k hentry).2
  constructor
  · rintro rfl
    rcases hr with hs | ⟨todo, restored, r, hrestore, hmem⟩
    · exact Option.some.inj (hentry.symm.trans hs)
    · obtain ⟨-, hnodup, -⟩ := hobjects.resubscribing todo restored r hrestore
      have hnot : q ∉ restored.map Prod.fst := by simpa [hrestore, Restore.copied] using hcopied
      have hleft := (h.copies todo restored r hrestore).2 q k hentry hnot
      have hget : ∀ {s' : Nat}, (q, s') ∈ restored ++ todo →
          OrderedMap.get? ⟨restored ++ todo, hnodup⟩ q = some s' := fun hmem =>
        (OrderedMap.get?_eq_some (m := ⟨restored ++ todo, hnodup⟩)).mpr hmem
      exact Option.some.inj ((hget (List.mem_append_right _ hleft)).symm.trans (hget hmem))
  · rintro rfl
    exact hpattern.symm.trans (hr.made hobjects).2

/-! ### Calls and continuations -/

section Local

/-- Handlers move, and no entry is made. -/
theorem Handlers.of_seats (h : c.Handlers) (hrestore : c'.restore = c.restore)
    (hunmade : ∀ k, c'.nextHandlerId ≤ k → (c'.handles k).active = false)
    (hentries : ∀ pattern s, c'.entry? pattern = some s → c.entry? pattern = some s)
    (hseated : ∀ pattern s, c.Relevant pattern s → Seated c'.seats pattern s)
    (hactive : ∀ k, (c'.handles k).active = true →
      ∃ s, c'.entry? (c'.handles k).pattern = some s) : c'.Handlers := by
  refine ⟨hunmade, fun pattern s hs => hseated pattern s (Or.inl (hentries pattern s hs)), hactive,
    fun todo restored r hr => ?_⟩
  rw [hrestore] at hr
  exact ⟨fun x hx => hseated x.1 x.2 (Or.inr ⟨todo, restored, r, hr, hx⟩),
    fun pattern s hs => (h.copies todo restored r hr).2 pattern s (hentries pattern s hs)⟩

theorem Handlers.join (h : c.Handlers) (hobjects : c.Objects) (hrestore : c'.restore = c.restore)
    {q : String} {k : Nat} (hcopied : q ∉ c.restore.copied) (hentry : c.entry? q = some k)
    (hseats : c'.seats = c.seats.join q k) : c'.Handlers := by
  have hentries : c'.entry? = c.entry? := by
    unfold entry?
    rw [show c'.store = _ from congrArg Seats.store hseats]
    rfl
  have hhandles :
      c'.handles = Function.update c.handles c.nextHandlerId ⟨q, true, true, false, none⟩ :=
    congrArg Seats.handles hseats
  have hnext : c'.nextHandlerId = c.nextHandlerId + 1 := congrArg Seats.nextHandlerId hseats
  refine h.of_seats hrestore (fun k' hk' => ?_) (fun _ _ hs => hentries ▸ hs)
    (fun pattern s hr => ?_) fun k' hk' => ?_
  · rw [hnext] at hk'
    rw [hhandles, Function.update_of_ne (Nat.ne_of_gt hk')]
    exact h.unmade k' (Nat.le_of_succ_le hk')
  · rw [hseats]
    exact (h.seated hr).join (h.unmade _ (Nat.le_refl _))
      (h.entry_unique hobjects hcopied hentry hr)
  · rw [hentries, hhandles]
    rw [hhandles] at hk'
    by_cases heq : k' = c.nextHandlerId
    · subst heq
      simp only [Function.update_self]
      exact ⟨k, hentry⟩
    · rw [Function.update_of_ne heq] at hk' ⊢
      exact h.active k' hk'

theorem Handlers.leave (h : c.Handlers) (hobjects : c.Objects) (hrestore : c'.restore = c.restore)
    {h₀ k : Nat} (hcopied : (c.handles h₀).pattern ∉ c.restore.copied)
    (hentry : c.entry? (c.handles h₀).pattern = some k)
    (hentries : c'.entry? = c.entry?)
    (hhandlers : ∀ s', (c'.store.states s').handlers =
      if s' = k then (c.store.states k).handlers.erase h₀ else (c.store.states s').handlers)
    {handle : Handle} (hhandles : c'.handles = Function.update c.handles h₀ handle)
    (hnext : c'.nextHandlerId = c.nextHandlerId) (hactive : handle.active = false) :
    c'.Handlers := by
  have hothers : ∀ k', (c'.handles k').active = true → c'.handles k' = c.handles k' := by
    intro k' hk'
    rw [hhandles] at hk' ⊢
    by_cases heq : k' = h₀
    · rw [heq, Function.update_self, hactive] at hk'
      cases hk'
    · rw [Function.update_of_ne heq]
  refine h.of_seats hrestore (fun k' hk' => ?_) (fun _ _ hs => hentries ▸ hs)
    (fun pattern s hr => ?_) fun k' hk' => ?_
  · rw [hnext] at hk'
    rw [hhandles]
    by_cases heq : k' = h₀
    · rw [heq, Function.update_self, hactive]
    · rw [Function.update_of_ne heq]
      exact h.unmade k' hk'
  · exact (h.seated hr).leave (h.entry_unique hobjects hcopied hentry hr) hhandlers hhandles hactive
  · have hsame := hothers k' hk'
    rw [hsame] at hk' ⊢
    rw [hentries]
    exact h.active k' hk'

/-- A new entry, outside a restore's requests: it has no handlers, and its pattern none that are
active. -/
theorem Handlers.register (h : c.Handlers) (hobjects : c.Objects) {pattern : String} (subId : Nat)
    (hidle : c.restore.isResubscribing = false) (hnone : c.entry? pattern = none) :
    (c.setStore (c.store.register pattern subId)).Handlers := by
  have hget : ∀ q, Client.entry? (c.setStore (c.store.register pattern subId)) q =
      if q = pattern then some c.store.stateCount else c.entry? q := by
    intro q
    simp only [ entry?, setStore, Store.register, OrderedMap.get?_set]
  refine ⟨h.unmade, fun q s hs => ?_, fun k hk => ?_, fun todo restored r hr => ?_⟩
  · rw [hget] at hs
    split at hs
    · rename_i hq
      cases hs
      have hnil : ((c.setStore (c.store.register pattern subId)).store.states
          c.store.stateCount).handlers = [] := by
        simp [setStore, Store.states_register]
      refine ⟨by simp [seats, hnil], fun k => ?_⟩
      simp only [seats, hnil, List.not_mem_nil, false_iff]
      rintro ⟨hactive, hpattern⟩
      obtain ⟨s, hs⟩ := h.active k hactive
      have hpattern : (c.handles k).pattern = q := hpattern
      rw [hpattern, hq, hnone] at hs
      cases hs
    · have hlt : s < c.store.stateCount := (hobjects.entries q s hs).1
      refine (h.entries q s hs).of_same ?_ fun _ => .rfl
      simp [seats, setStore, Store.states_register, Nat.ne_of_lt hlt]
  · obtain ⟨s, hs⟩ := h.active k hk
    rw [hget]
    split
    · exact ⟨_, rfl⟩
    · exact ⟨s, hs⟩
  · have hr : c.restore = .resubscribing todo restored r := hr
    rw [hr] at hidle
    cases hidle

/-- An `unsubscribe` that has been confirmed ends; its entry may have gone. -/
theorem Handlers.complete (h : c.Handlers) (hrestore : c'.restore = c.restore) {h₀ : Nat}
    (hentries : ∀ q s, c'.entry? q = some s → c.entry? q = some s)
    (hgone : ∀ q s, c.entry? q = some s → c'.entry? q = none → (c.store.states s).handlers = [])
    (hhandlers : ∀ s, (c'.store.states s).handlers = (c.store.states s).handlers)
    (hhandles : c'.handles = Function.update c.handles h₀
      { c.handles h₀ with completed := true, pending := none })
    (hnext : c'.nextHandlerId = c.nextHandlerId) : c'.Handlers := by
  have hsame : ∀ k, (c'.handles k).active = (c.handles k).active ∧
      (c'.handles k).pattern = (c.handles k).pattern := by
    intro k
    rw [hhandles]
    by_cases heq : k = h₀
    · subst heq
      simp
    · simp [Function.update_of_ne heq]
  refine h.of_seats hrestore (fun k hk => ?_) hentries (fun pattern s hr => ?_) fun k hk => ?_
  · rw [(hsame k).1]
    exact h.unmade k (hnext ▸ hk)
  · refine (h.seated hr).of_same (hhandlers s) fun k => ?_
    simp only [seats, hsame]
  · rw [(hsame k).1] at hk
    rw [(hsame k).2]
    obtain ⟨s, hs⟩ := h.active k hk
    cases hnow : c'.entry? (c.handles k).pattern with
    | some s' => exact ⟨s', rfl⟩
    | none =>
        have hnil := hgone _ s hs hnow
        have hmem : k ∈ (c.store.states s).handlers := ((h.entries _ s hs).active k).mpr ⟨hk, rfl⟩
        rw [hnil] at hmem
        cases hmem

theorem Handlers.local (hv : v.keepsLastHandler = false) (h : c.Handlers) (hobjects : c.Objects)
    (hK : c.KeepsHandlers v e) (he : e.isLocal) (hs : c.step v e = some c') : c'.Handlers := by
  have hlocal := step_local he hs
  have hrestore : c'.restore = c.restore := congrArg Control.restore hlocal.control
  cases step_move hv he (fun j hj => (hK.1 j hj).1) hs with
  -- what changed is neither the table nor the handles
  | still _ _ _ _ hseats =>
      have hstore : c'.store = c.store := congrArg Seats.store hseats
      have hhandles : c'.handles = c.handles := congrArg Seats.handles hseats
      have hnext : c'.nextHandlerId = c.nextHandlerId := congrArg Seats.nextHandlerId hseats
      have hentries : c'.entry? = c.entry? := by unfold entry?; rw [hstore]
      refine h.of_seats hrestore ?_ (fun _ _ hs => hentries ▸ hs) (fun _ _ hr => ?_) ?_
      · rw [hnext, hhandles]
        exact h.unmade
      · rw [hseats]
        exact h.seated hr
      · rw [hhandles, hentries]
        exact h.active
  | registers pattern subId r _ _ hregister hseats =>
      obtain ⟨hidle, hnone⟩ := hK.2.1 _ hregister
      have hafter := h.register hobjects subId hidle hnone
      have hstore : c'.store = c.store.register pattern subId := congrArg Seats.store hseats
      have hhandles : c'.handles = c.handles := congrArg Seats.handles hseats
      have hnext : c'.nextHandlerId = c.nextHandlerId := congrArg Seats.nextHandlerId hseats
      have hentries : c'.entry? = Client.entry? (c.setStore (c.store.register pattern subId)) := by
        unfold entry?
        rw [hstore]
        rfl
      refine hafter.of_seats hrestore ?_ (fun _ _ hs => hentries ▸ hs) (fun _ _ hr => ?_) ?_
      · rw [hnext, hhandles]
        exact h.unmade
      · rw [hseats]
        exact hafter.seated hr
      · rw [hhandles, hentries]
        exact hafter.active
  | joins pattern s hjoin hregister hseats =>
      obtain ⟨-, hcopied, hentry⟩ := hK.1 _ hjoin
      exact h.join hobjects hrestore hcopied (hentry hregister) hseats
  -- the new entry is put into the table first, then the handle joins it
  | enters pattern subId r hjoin hregister hseats =>
      obtain ⟨-, hcopied, -⟩ := hK.1 _ hjoin
      obtain ⟨hidle, hnone⟩ := hK.2.1 _ hregister
      have hafter := h.register hobjects subId hidle hnone
      have hext : Extends c (c.setStore (c.store.register pattern subId)) :=
        .of_requests rfl fun _ => .refl
      have hobjects' := hobjects.local hext (.registers pattern subId r hregister .refl)
      refine hafter.join hobjects' hrestore hcopied ?_ hseats
      simp [ entry?, setStore, Store.register]
  -- a handle leaves its entry while no restore holds a copy of the handlers
  | leaves h₀ _ _ hleave hmove =>
      have hcopied := hK.2.2.1 h₀ hleave
      cases hmove with
      | gone hentry hseats _ =>
          have hactive : (c.handles h₀).active = true := leaving_active hleave
          obtain ⟨s, hs⟩ := h.active h₀ hactive
          rw [hentry] at hs
          cases hs
      | others s hentry _ hseats _ =>
          refine h.leave hobjects hrestore hcopied hentry ?_ (fun s' => ?_)
            (congrArg Seats.handles hseats) (congrArg Seats.nextHandlerId hseats) rfl
          · unfold entry?
            rw [show c'.store = _ from congrArg Seats.store hseats]
            rfl
          · rw [show c'.store = _ from congrArg Seats.store hseats, Store.states_deleteHandler]
            split <;> rfl
      | last s hentry _ hseats _ _ =>
          refine h.leave hobjects hrestore hcopied hentry ?_ (fun s' => ?_)
            (congrArg Seats.handles hseats) (congrArg Seats.nextHandlerId hseats) rfl
          · unfold entry?
            rw [show c'.store = _ from congrArg Seats.store hseats]
            rfl
          · rw [show c'.store = _ from congrArg Seats.store hseats, Store.handlers_setPending,
              Store.states_deleteHandler]
            split <;> rfl
  -- the confirmed UNSUBSCRIBE takes an entry without handlers out of the table
  | clears h₀ s r _ _ _ hunregister hseats =>
      have hempty := unregistering_empty hv hunregister
      have hentry := unregistering_some hunregister
      have hstore : c'.store = (c.store.clearPending s r).unregister (c.handles h₀).pattern s :=
        congrArg Seats.store hseats
      have htable := congrArg Table.subscriptionsByPattern
        (Store.table_clearPending (t := c.store) (s := s) r)
      have hget : ∀ q, c'.entry? q = if q = (c.handles h₀).pattern then none else c.entry? q := by
        intro q
        unfold entry?
        rw [hstore]
        simp only [Store.unregister, OrderedMap.get?_delete]
        rw [show (c.store.clearPending s r).subscriptionsByPattern = _ from htable]
        rfl
      refine h.complete hrestore (fun q k hq => ?_) (fun q k hq hnone => ?_) (fun k => ?_)
        (congrArg Seats.handles hseats) (congrArg Seats.nextHandlerId hseats)
      · rw [hget] at hq
        split at hq
        · cases hq
        · exact hq
      · rw [hget] at hnone
        split at hnone
        · rename_i heq
          rw [heq, hentry] at hq
          exact (Option.some.inj hq) ▸ hempty
        · rw [hq] at hnone
          cases hnone
      · rw [hstore, Store.states_unregister, Store.handlers_clearPending]
  -- a pattern that has got another entry meanwhile: the table is not touched
  | keeps h₀ s r _ _ _ _ hseats =>
      have hstore : c'.store = c.store.clearPending s r := congrArg Seats.store hseats
      have htable := congrArg Table.subscriptionsByPattern
        (Store.table_clearPending (t := c.store) (s := s) r)
      have hentries : c'.entry? = c.entry? := by
        unfold entry?
        rw [hstore, show (c.store.clearPending s r).subscriptionsByPattern = _ from htable]
        rfl
      refine h.complete hrestore (fun _ _ hq => hentries ▸ hq) (fun q k hq hnone => ?_)
        (fun k => ?_)
        (congrArg Seats.handles hseats) (congrArg Seats.nextHandlerId hseats)
      · rw [hentries, hq] at hnone
        cases hnone
      · rw [hstore, Store.handlers_clearPending]
  -- an UNSUBSCRIBE that is refused is excluded by the condition
  | refused h₀ s r hevent hpending _ hphase _ _ =>
      have hconfirmed := hK.2.2.2
      rw [hevent] at hconfirmed
      exact absurd (hconfirmed _ hpending) hphase

end Local

/-! ### The reconnect listener -/

section Restore

variable {todo restored : List (String × Nat)}

/-- The listener leaves the handles and the table as they are. -/
theorem Handlers.of_table (h : c.Handlers) (hhandles : SameHandles c c')
    (hstates : c'.store.states = c.store.states) (hentries : c'.entry? = c.entry?)
    (hcopies : ∀ todo restored r, c'.restore = .resubscribing todo restored r →
      c.restore = .resubscribing todo restored r) : c'.Handlers := by
  have hseated : ∀ {pattern s}, Seated c.seats pattern s → Seated c'.seats pattern s := by
    intro pattern s hs
    refine hs.of_same ?_ fun k => ?_
    · simp only [seats, hstates]
    · simp only [seats, hhandles.handles]
  refine ⟨?_, fun pattern s hs => ?_, ?_, fun todo restored r hr => ?_⟩
  · rw [hhandles.handles, hhandles.nextHandlerId]
    exact h.unmade
  · rw [hentries] at hs
    exact hseated (h.entries pattern s hs)
  · rw [hhandles.handles, hentries]
    exact h.active
  · obtain ⟨hall, hcovered⟩ := h.copies todo restored r (hcopies _ _ _ hr)
    rw [hentries]
    exact ⟨fun x hx => hseated (hall x hx), hcovered⟩

/-- The next resubscribe, or the commit, which puts the copies into the table. -/
theorem Handlers.resubscribeNext (h : c.Handlers)
    (hall : ∀ x ∈ restored ++ todo, Seated c.seats x.1 x.2)
    (hcovered : ∀ pattern s, c.entry? pattern = some s → pattern ∉ restored.map Prod.fst →
      (pattern, s) ∈ todo)
    (hnodup : (restored.map Prod.fst).Nodup) : (c.resubscribeNext todo restored).Handlers := by
  unfold Client.resubscribeNext
  split
  · rename_i pattern s todo
    refine ⟨h.unmade, h.entries, h.active, ?_⟩
    rintro todo' restored' r hr
    cases hr
    exact ⟨hall, hcovered⟩
  · have hget : ∀ q k,
      (restored.foldl (fun m e => m.set e.1 e.2) ∅ : OrderedMap String Nat).get? q =
        some k ↔ (q, k) ∈ restored := fun q k => OrderedMap.get?_foldl_set_empty hnodup
    refine ⟨h.unmade, fun q k hq => ?_, fun k hk => ?_, nofun⟩
    · exact (hall (q, k) (List.mem_append_left _ ((hget q k).mp hq))).of_same rfl fun _ => .rfl
    · obtain ⟨s, hs⟩ := h.active k hk
      by_contra hnone
      refine List.not_mem_nil (hcovered _ s hs fun hmem => hnone ?_)
      obtain ⟨x, hx, hpattern⟩ := List.mem_map.mp hmem
      exact ⟨x.2, (hget _ _).mpr (hpattern ▸ hx)⟩

/-- The handlers of an entry are copied. -/
theorem Handlers.restoreEntry (h : c.Handlers) (hobjects : c.Objects) (pattern : String)
    (s subId : Nat) : (c.restoreEntry v pattern s subId).Handlers ∧
      (∀ q k, c.Relevant q k → Seated (c.restoreEntry v pattern s subId).seats q k) ∧
        (Seated c.seats pattern s →
          Seated (c.restoreEntry v pattern s subId).seats pattern c.store.stateCount) := by
  have hstates : (c.restoreEntry v pattern s subId).store.states = Function.update c.store.states
      c.store.stateCount ⟨pattern, subId, (c.store.states s).handlers, none⟩ := by
    unfold Client.restoreEntry
    split <;> rfl
  have hold : ∀ q k, c.Relevant q k → Seated (c.restoreEntry v pattern s subId).seats q k := by
    intro q k hr
    refine (h.seated hr).of_same ?_ fun _ => .rfl
    simp only [seats, hstates, Function.update_of_ne (Nat.ne_of_lt (hr.made hobjects).1)]
  have hentries : Client.entry? (c.restoreEntry v pattern s subId) = c.entry? :=
    restoreEntry_entry? ..
  refine ⟨⟨h.unmade, fun q k hq => ?_, fun k hk => ?_, fun todo restored r hr => ?_⟩, hold,
    fun hs => ?_⟩
  · rw [hentries] at hq
    exact hold q k (Or.inl hq)
  · rw [hentries]
    exact h.active k hk
  · have hr : c.restore = .resubscribing todo restored r := hr
    rw [hentries]
    exact ⟨fun x hx => hold x.1 x.2 (Or.inr ⟨todo, restored, r, hr, hx⟩),
      (h.copies todo restored r hr).2⟩
  · have hcopy : ((c.restoreEntry v pattern s subId).store.states c.store.stateCount).handlers =
        (c.store.states s).handlers := by rw [hstates, Function.update_self]
    refine ⟨?_, fun k => ?_⟩
    · simp only [seats, hcopy]
      exact hs.nodup
    · simp only [seats, hcopy]
      exact hs.active k

theorem Handlers.rollbackNext (h : c.Handlers) (todo : List (String × Nat)) :
    (c.rollbackNext v todo).Handlers := by
  refine h.of_table (rollbackNext_handles todo) ?_ ?_ fun todo' restored r hr => ?_
  · unfold Client.rollbackNext
    split
    · dsimp only
      split <;> rfl
    · rfl
  · unfold Client.rollbackNext
    split
    · dsimp only
      split <;> rfl
    · rfl
  · unfold Client.rollbackNext at hr
    split at hr <;> cases hr

theorem Handlers.restoreBegins (h : c.Handlers) : (c.restoreBegins v).Handlers := by
  unfold Client.restoreBegins
  split
  · dsimp only
    split
    · exact h.of_table ⟨rfl, rfl, rfl⟩ rfl rfl nofun
    · exact h.of_table ⟨rfl, rfl, rfl⟩ rfl rfl nofun
  · refine h.resubscribeNext (fun x hx => ?_) (fun pattern s hs _ => ?_) List.nodup_nil
    · exact h.entries x.1 x.2 (OrderedMap.get?_eq_some.mpr (by simpa using hx))
    · exact OrderedMap.get?_eq_some.mp hs

theorem Handlers.restoreContinues (h : c.Handlers) (hobjects : c.Objects)
    (hs : c.restoreContinues v = some c') : c'.Handlers := by
  unfold Client.restoreContinues at hs
  split at hs
  · rename_i pattern s todo restored r hrestore
    obtain ⟨-, hnodup, -⟩ := hobjects.resubscribing _ _ r hrestore
    split at hs
    · rename_i subId _
      cases hs
      obtain ⟨hafter, hold, hcopy⟩ := h.restoreEntry (v := v) hobjects pattern s subId
      obtain ⟨hall, hcovered⟩ := h.copies _ _ r hrestore
      have hrelevant : ∀ x ∈ restored ++ (pattern, s) :: todo, c.Relevant x.1 x.2 := fun x hx =>
        Or.inr ⟨_, _, r, hrestore, hx⟩
      refine hafter.resubscribeNext (fun x hx => ?_) (fun q k hq hnot => ?_) ?_
      · rcases List.mem_append.mp hx with hx | hx
        · rcases List.mem_append.mp hx with hx | hx
          · exact hold _ _ (hrelevant x (List.mem_append_left _ hx))
          · rw [List.mem_singleton.mp hx]
            exact hcopy (hall (pattern, s) (by simp))
        · exact hold _ _ (hrelevant x (List.mem_append_right _ (List.mem_cons_of_mem _ hx)))
      · rw [ restoreEntry_entry?] at hq
        simp only [List.map_append, List.map_cons, List.map_nil, List.mem_append,
          List.mem_singleton, not_or] at hnot
        rcases List.mem_cons.mp (hcovered q k hq hnot.1) with heq | hmem
        · exact absurd (congrArg Prod.fst heq) hnot.2
        · exact hmem
      · refine hnodup.sublist ?_
        simp
    · cases hs
    · cases hs
    · cases hs
      exact h.rollbackNext _
  · obtain ⟨-, ⟨⟩⟩ := Option.ite_none_right_eq_some.mp hs
    exact h.rollbackNext _
  · rename_i hrestore
    cases hs
    have hstore := reindex_store (v := v) (c := c)
    refine h.of_table reindex_handles ?_ ?_ fun todo restored r hr => ?_
    · rw [hstore]
    · unfold entry?
      rw [hstore]
    · rw [show (c.reindex v).restore = .idle from congrArg Control.restore reindex_frame.2] at hr
      cases hr
  · cases hs

end Restore

section Runs

theorem Handlers.step (hv : v.keepsLastHandler = false) (h : c.Handlers) (hobjects : c.Objects)
    (hK : c.KeepsHandlers v e) (hs : c.step v e = some c') : c'.Handlers := by
  by_cases he : e.isLocal = true
  · exact h.local hv hobjects hK he hs
  · by_cases hbegins : e = .restoreBegins
    · subst hbegins
      obtain ⟨-, ⟨⟩⟩ := Option.ite_none_right_eq_some.mp hs
      exact h.restoreBegins
    · by_cases hcontinues : e = .restoreContinues
      · subst hcontinues
        exact h.restoreContinues hobjects hs
      · have he : e.isLocal = false := by simpa using he
        obtain ⟨hstore, hrestore⟩ := step_remote he hbegins hcontinues hs
        refine h.of_table (step_handles he hs) (by rw [hstore]) (by unfold entry?; rw [hstore])
          fun todo restored r hr => ?_
        rcases hrestore with hsame | ⟨hpending, -⟩
        · exact hsame ▸ hr
        · rw [hpending] at hr
          cases hr

/-- **The handlers of a pattern**, for the kv, stream, queue and schedule clients: its entry has
exactly those whose handles are active, in particular when a restore has completed. -/
theorem handlers_run (hv : v ∈ [kv, stream, queue, schedule]) {es : List Event} {c : Client}
    (hguard : (machine v).Guarded (KeepsHandlers v) create es)
    (hrun : (machine v).run es = some c) (pattern : String) (h : Nat) :
    (∃ s, c.entry? pattern = some s ∧ h ∈ (c.store.states s).handlers) ↔
      (c.handles h).active = true ∧ (c.handles h).pattern = pattern := by
  have hv : v.keepsLastHandler = false :=
    (by decide : ∀ v ∈ [kv, stream, queue, schedule], v.keepsLastHandler = false) v hv
  have key : c.Objects ∧ c.Handlers := Machine.Guarded.invariant (M := machine v)
    (I := fun c => c.Objects ∧ c.Handlers) ⟨objects_create, handlers_create⟩
    (fun _ _ _ h hK hs => ⟨h.1.step hs, h.2.step hv h.1 hK hs⟩) hguard hrun
  constructor
  · rintro ⟨s, hs, hmem⟩
    exact ((key.2.entries pattern s hs).active h).mp hmem
  · rintro ⟨hactive, rfl⟩
    obtain ⟨s, hs⟩ := key.2.active h hactive
    exact ⟨s, hs, ((key.2.entries _ s hs).active h).mpr ⟨hactive, rfl⟩⟩

/-- Two patterns are restored; a handler joins the second one, and one leaves it, before its answer
comes. -/
def localDuringRestore : List Event :=
  [.subscribe "stream://r/a/x" false, .sent 0, .subscribed 0 1, .flightSettles 0, .callContinues 0,
    .subscribe "stream://r/a/y" false, .sent 1, .subscribed 1 2, .flightSettles 1, .callContinues 1,
    .lost, .connected, .restoreBegins, .sent 2, .subscribed 2 3, .restoreContinues,
    .subscribe "stream://r/a/y" false, .unsubscribe 2, .sent 3, .subscribed 3 4, .restoreContinues,
    .restoreContinues, .restored]

theorem handlers_localDuringRestore : ∃ c, (machine stream).run localDuringRestore = some c ∧
    c.link = .authenticated ∧ ((∃ s, c.entry? "stream://r/a/y" = some s ∧
      3 ∈ (c.store.states s).handlers) ↔
        (c.handles 3).active = true ∧ (c.handles 3).pattern = "stream://r/a/y") := by
  have hguard : (machine stream).Guarded (KeepsHandlers stream) create localDuringRestore := by
    decide +kernel
  obtain ⟨c, hrun, hlink⟩ : ∃ c, (machine stream).run localDuringRestore = some c ∧
      c.link = .authenticated := ⟨_, rfl, rfl⟩
  exact ⟨c, hrun, hlink, handlers_run (by decide) hguard hrun "stream://r/a/y" 3⟩

/-- The first pattern has two handlers; one of them leaves after the first answer. -/
def leavesCopiedPattern : List Event :=
  [.subscribe "stream://r/a/x" false, .sent 0, .subscribed 0 1, .flightSettles 0, .callContinues 0,
    .subscribe "stream://r/a/x" false, .subscribe "stream://r/a/y" false, .sent 1, .subscribed 1 2,
    .flightSettles 1, .callContinues 2, .lost, .connected, .restoreBegins, .sent 2, .subscribed 2 3,
    .restoreContinues, .unsubscribe 1, .sent 3, .subscribed 3 4, .restoreContinues,
    .restoreContinues, .restored]

/-- The handler is back when the restore has completed. -/
theorem not_forall_handlers : ∃ c, (machine stream).run leavesCopiedPattern = some c ∧
    c.link = .authenticated ∧ ¬ ∀ pattern h,
      ((∃ s, c.entry? pattern = some s ∧ h ∈ (c.store.states s).handlers) ↔
        (c.handles h).active = true ∧ (c.handles h).pattern = pattern) := by
  obtain ⟨c, hrun, hlink, hs, hmem, hactive⟩ : ∃ c,
      (machine stream).run leavesCopiedPattern = some c ∧ c.link = .authenticated ∧
        c.entry? "stream://r/a/x" = some 2 ∧ 1 ∈ (c.store.states 2).handlers ∧
          (c.handles 1).active = false :=
    ⟨_, rfl, rfl, by decide +kernel, by decide +kernel, by decide +kernel⟩
  refine ⟨c, hrun, hlink, fun hall => ?_⟩
  have hthis := ((hall "stream://r/a/x" 1).mp ⟨2, hs, hmem⟩).1
  rw [hactive] at hthis
  cases hthis

end Runs

end Client

end FitzTs.Subscriptions
