import FitzTs.Domains.Subscriptions.Requests
/-!
# FitzTs.Domains.Subscriptions.Objects

The state objects that the table and the reconnect listener hold, and the request that
the listener awaits.

All of it holds after every run of every client.
-/

namespace FitzTs.Subscriptions

/-- The request the reconnect listener awaits. -/
def Restore.request? : Restore → Option Nat
  | .resubscribing _ _ r => some r
  | .rollingBack _ r => some r
  | _ => none

namespace Client

variable {v : Variant} {c c' : Client} {e : Event}

/-! ### What the connection and the broker make of a request -/

/-- What a request asks for stays, and so does its outcome. -/
structure Advances (a b : Request) : Prop extends SameRequest a b where
  settled : a.phase.isSettled = true → b.phase = a.phase ∧ b.sentIn = a.sentIn

theorem Advances.refl {a : Request} : Advances a a := ⟨.refl, fun _ => ⟨rfl, rfl⟩⟩

theorem Advances.setRequest {r : Nat} {request : Request} (h : Advances (c.requests r) request)
    (k : Nat) : Advances (c.requests k) ((c.setRequest r request).requests k) := by
  by_cases hk : k = r
  · subst hk
    simpa [Client.setRequest] using h
  · simp only [Client.setRequest, Function.update_of_ne hk]
    exact .refl

/-- What the connection and the broker do takes requests on, and makes none. -/
theorem step_advances (he : e.isLocal = false) (hbegins : e ≠ .restoreBegins)
    (hcontinues : e ≠ .restoreContinues) (hs : c.step v e = some c') :
    c'.requestCount = c.requestCount ∧ ∀ r, Advances (c.requests r) (c'.requests r) := by
  -- a settled request does not change any more
  have open' : ∀ {phase : RequestPhase} {b : Request} {r : Nat}, (c.requests r).phase = phase →
      phase.isSettled = false → SameRequest (c.requests r) b → Advances (c.requests r) b :=
    fun hphase hopen hsame => ⟨hsame, fun hsettled => by simp [hphase, hopen] at hsettled⟩
  cases e with
  | sent r =>
      obtain ⟨hsend, ⟨⟩⟩ := Option.ite_none_right_eq_some.mp hs
      have hunsent : (c.requests r).phase = .unsent := by
        unfold mayBeSent at hsend
        simp only [Bool.and_eq_true, decide_eq_true_eq] at hsend
        exact hsend.1.2
      have hset : ∀ k, Advances (c.requests k) ((c.setRequest r
          { c.requests r with phase := .sent, sentIn := c.session }).requests k) :=
        Advances.setRequest (open' hunsent rfl ⟨rfl, rfl, rfl, rfl⟩)
      unfold send
      dsimp only
      split
      · exact ⟨rfl, hset⟩
      · exact ⟨rfl, hset⟩
  | subscribed r subId =>
      unfold step at hs
      dsimp only at hs
      split at hs
      · obtain ⟨hsent, ⟨⟩⟩ := Option.ite_none_right_eq_some.mp hs
        exact ⟨rfl, Advances.setRequest (open' hsent rfl ⟨rfl, rfl, rfl, rfl⟩)⟩
      · cases hs
  | unsubscribed r =>
      unfold step at hs
      dsimp only at hs
      split at hs
      · obtain ⟨hsent, ⟨⟩⟩ := Option.ite_none_right_eq_some.mp hs
        exact ⟨rfl, Advances.setRequest (open' hsent rfl ⟨rfl, rfl, rfl, rfl⟩)⟩
      · cases hs
  | rejected r =>
      obtain ⟨⟨-, hopen⟩, ⟨⟩⟩ := Option.ite_none_right_eq_some.mp hs
      exact ⟨rfl, Advances.setRequest (open' rfl (by simpa using hopen) ⟨rfl, rfl, rfl, rfl⟩)⟩
  | notify subId =>
      obtain ⟨-, ⟨⟩⟩ := Option.ite_none_right_eq_some.mp hs
      obtain ⟨htraffic, -⟩ := notify_frame (v := v) (c := c) subId
      have hrequests : (c.notify v subId).requests = c.requests :=
        congrArg Traffic.requests htraffic
      exact ⟨congrArg Traffic.requestCount htraffic, fun r => hrequests ▸ .refl⟩
  -- only what was sent is rejected by the loss
  | lost =>
      obtain ⟨-, ⟨⟩⟩ := Option.ite_none_right_eq_some.mp hs
      refine ⟨rfl, fun r => ?_⟩
      unfold loseConnection
      dsimp only
      split
      · rename_i hsent
        exact open' hsent rfl ⟨rfl, rfl, rfl, rfl⟩
      · exact .refl
  | connected =>
      obtain ⟨-, ⟨⟩⟩ := Option.ite_none_right_eq_some.mp hs
      exact ⟨rfl, fun _ => .refl⟩
  | restored =>
      obtain ⟨-, ⟨⟩⟩ := Option.ite_none_right_eq_some.mp hs
      exact ⟨rfl, fun _ => .refl⟩
  | restoreBegins => exact absurd rfl hbegins
  | restoreContinues => exact absurd rfl hcontinues
  | subscribe | callContinues | abort | unsubscribe | unsubscribeContinues | flightSettles =>
      cases he

/-! ### The objects -/

/-- The object has been made, for this pattern. -/
def Made (c : Client) (x : String × Nat) : Prop :=
  x.2 < c.store.stateCount ∧ (c.store.states x.2).pattern = x.1

structure Objects (c : Client) : Prop where
  entries : ∀ pattern s, c.entry? pattern = some s → c.Made (pattern, s)
  resubscribing : ∀ todo restored r, c.restore = .resubscribing todo restored r →
    (∀ x ∈ restored ++ todo, c.Made x) ∧ ((restored ++ todo).map Prod.fst).Nodup ∧
      ∃ x rest, todo = x :: rest ∧ (c.requests r).frame = .subscribe x.1
  rollingBack : ∀ todo r, c.restore = .rollingBack todo r → ∀ x ∈ todo, c.Made x
  current : ∀ r, c.restore.request? = some r → r < c.requestCount ∧ (c.requests r).restoring = true
  /-- The listener awaits the one request of its own that is open. -/
  waiting : ∀ r, (c.requests r).restoring = true → (c.requests r).phase.isSettled = false →
    c.restore.request? = some r

/-- There are no objects yet. -/
theorem objects_create : create.Objects where
  entries := fun _ _ h => by simp [create, entry?, Store.empty] at h
  resubscribing := fun _ _ _ h => by cases h
  rollingBack := fun _ _ h => by cases h
  current := fun _ h => by cases h
  waiting := fun _ h => by cases h

/-- An object is what the table says. -/
theorem Made.of_table {x : String × Nat} (h : c.Made x) (htable : c'.store.table = c.store.table) :
    c'.Made x := by
  have hcount : c'.store.stateCount = c.store.stateCount := congrArg Table.stateCount htable
  have hpattern : (c'.store.states x.2).pattern = (c.store.states x.2).pattern :=
    congrFun (congrArg Table.pattern htable) x.2
  exact ⟨hcount ▸ h.1, hpattern ▸ h.2⟩

theorem Made.register {x : String × Nat} (h : c.Made x) (pattern : String) (subId : Nat) :
    (c.setStore (c.store.register pattern subId)).Made x := by
  refine ⟨Nat.lt_succ_of_lt h.1, ?_⟩
  simpa [setStore, Store.register, Store.make, Function.update_of_ne (Nat.ne_of_lt h.1)] using h.2

theorem Made.restoreEntry {x : String × Nat} (h : c.Made x) (pattern : String) (s subId : Nat) :
    (c.restoreEntry v pattern s subId).Made x := by
  unfold Client.restoreEntry
  split
  all_goals
    refine ⟨Nat.lt_succ_of_lt h.1, ?_⟩
    simpa [setStore, Store.make, Function.update_of_ne (Nat.ne_of_lt h.1)] using h.2

/-- The restore makes a new object for the entry. -/
theorem restoreEntry_made (pattern : String) (s subId : Nat) :
    (c.restoreEntry v pattern s subId).Made (pattern, c.store.stateCount) := by
  unfold Client.restoreEntry
  split
  all_goals
    refine ⟨Nat.lt_succ_self _, ?_⟩
    simp [setStore, Store.make]

theorem restoreEntry_entry? (pattern : String) (s subId : Nat) :
    Client.entry? (c.restoreEntry v pattern s subId) = c.entry? := by
  unfold Client.restoreEntry
  split <;> rfl

section Step

/-- A call or a continuation, whatever it did to the table. -/
theorem Objects.of_extends (h : c.Objects) (hext : Extends c c') (hrestore : c'.restore = c.restore)
    (hold : ∀ x, c.Made x → c'.Made x)
    (hentries : ∀ pattern s, c'.entry? pattern = some s → c'.Made (pattern, s)) : c'.Objects := by
  refine ⟨hentries, fun todo restored r hr => ?_, fun todo r hr x hx => ?_, fun r hr => ?_,
    fun r hown hopen => ?_⟩
  · rw [hrestore] at hr
    obtain ⟨hmade, hnodup, x, rest, htodo, hframe⟩ := h.resubscribing todo restored r hr
    have hlt := (h.current r (by rw [hr]; rfl)).1
    exact ⟨fun x hx => hold x (hmade x hx), hnodup, x, rest, htodo,
      (hext.old r (Nat.ne_of_lt hlt)).frame.trans hframe⟩
  · rw [hrestore] at hr
    exact hold x (h.rollingBack todo r hr x hx)
  · rw [hrestore] at hr
    obtain ⟨hlt, hown⟩ := h.current r hr
    exact ⟨Nat.lt_of_lt_of_le hlt hext.count,
      (hext.old r (Nat.ne_of_lt hlt)).restoring.trans hown⟩
  · rw [hrestore]
    have key : Kept (c.requests r) (c'.requests r) → c.restore.request? = some r := fun hkept =>
      h.waiting r (hkept.restoring ▸ hown) (hkept.phase ▸ hopen)
    by_cases hr : r = c.requestCount
    · subst hr
      rcases hext.new with hkept | ⟨hlocal, -⟩
      · exact key hkept
      · rw [hlocal] at hown
        cases hown
    · exact key (hext.old r hr)

/-- Calls make objects only with an entry. -/
theorem Objects.local (h : c.Objects) (hext : Extends c c') (hmove : Local v c e c') :
    c'.Objects := by
  cases hmove with
  | same _ _ hsame =>
      refine h.of_extends hext (congrArg Control.restore hsame.control)
        (fun x hx => hx.of_table hsame.table) fun pattern s hs => ?_
      rw [ hsame.entry?] at hs
      exact (h.entries pattern s hs).of_table hsame.table
  | registers pattern subId r _ hsame =>
      refine h.of_extends hext (congrArg Control.restore hsame.control)
        (fun x hx => (hx.register pattern subId).of_table hsame.table) fun q s hs => ?_
      rw [ hsame.entry?] at hs
      simp only [ entry?, setStore, Store.register, OrderedMap.get?_set] at hs
      split at hs
      · rename_i hq
        cases hs
        refine Made.of_table ⟨Nat.lt_succ_self _, ?_⟩ hsame.table
        simp [setStore, Store.register, Store.make, hq]
      · exact ((h.entries q s hs).register pattern subId).of_table hsame.table
  | unregisters pattern s _ hsame =>
      have hold : ∀ x, c.Made x → c'.Made x := fun x hx =>
        Made.of_table (c := c.setStore (c.store.unregister pattern s)) hx hsame.table
      refine h.of_extends hext (congrArg Control.restore hsame.control) hold fun q s' hs => ?_
      rw [ hsame.entry?] at hs
      simp only [ entry?, setStore, Store.unregister, OrderedMap.get?_delete] at hs
      split at hs
      · cases hs
      · exact hold _ (h.entries q s' hs)

/-- What comes from outside makes no objects. -/
theorem Objects.of_advances (h : c.Objects) (hstore : c'.store = c.store)
    (hrestore : c'.restore = c.restore ∨ c'.restore = .pending ∧ c.restore = .idle)
    (hcount : c'.requestCount = c.requestCount)
    (hrequests : ∀ r, Advances (c.requests r) (c'.requests r)) : c'.Objects := by
  have hmade : ∀ x, c.Made x → c'.Made x := fun x hx => hx.of_table (congrArg Store.table hstore)
  have hopen : ∀ r, (c'.requests r).phase.isSettled = false →
      (c.requests r).phase.isSettled = false :=
    fun r hr => by
      cases hsettled : (c.requests r).phase.isSettled with
      | false => rfl
      | true => rw [((hrequests r).settled hsettled).1, hsettled] at hr; cases hr
  have hentries : ∀ pattern s, c'.entry? pattern = some s → c'.Made (pattern, s) :=
    fun pattern s hs => by
      unfold entry? at hs
      rw [hstore] at hs
      exact hmade _ (h.entries pattern s hs)
  rcases hrestore with hrestore | ⟨hpending, hidle⟩
  · refine ⟨hentries, fun todo restored r hr => ?_, fun todo r hr x hx => ?_, fun r hr => ?_,
      fun r hown hnot => ?_⟩
    · rw [hrestore] at hr
      obtain ⟨hall, hnodup, x, rest, htodo, hframe⟩ := h.resubscribing todo restored r hr
      exact ⟨fun x hx => hmade x (hall x hx), hnodup, x, rest, htodo,
        (hrequests r).frame.trans hframe⟩
    · rw [hrestore] at hr
      exact hmade x (h.rollingBack todo r hr x hx)
    · rw [hrestore] at hr
      obtain ⟨hlt, hown⟩ := h.current r hr
      exact ⟨hcount ▸ hlt, (hrequests r).restoring.trans hown⟩
    · rw [hrestore]
      exact h.waiting r ((hrequests r).restoring ▸ hown) (hopen r hnot)
  · refine ⟨hentries, ?_, ?_, ?_, fun r hown hnot => ?_⟩
    · rw [hpending]
      exact nofun
    · rw [hpending]
      exact nofun
    · rw [hpending]
      exact nofun
    · have hwaiting := h.waiting r ((hrequests r).restoring ▸ hown) (hopen r hnot)
      rw [hidle] at hwaiting
      cases hwaiting

end Step

section Restore

variable {todo restored : List (String × Nat)}

/-- The listener's next request is the one it awaits. -/
theorem request_waiting (frame : Frame)
    (hdone : ∀ r, (c.requests r).restoring = true → (c.requests r).phase.isSettled = true) (r : Nat)
    (hown : ((c.request frame true).requests r).restoring = true)
    (hopen : ((c.request frame true).requests r).phase.isSettled = false) : r = c.requestCount := by
  by_contra hr
  simp only [Client.request, Function.update_of_ne hr] at hown hopen
  cases (hdone r hown).symm.trans hopen

/-- The listener has made an object for each entry it has restored. -/
theorem Objects.resubscribeNext
    (hentries : ∀ pattern s, c.entry? pattern = some s → c.Made (pattern, s))
    (hmade : ∀ x ∈ restored ++ todo, c.Made x) (hnodup : ((restored ++ todo).map Prod.fst).Nodup)
    (hdone : ∀ r, (c.requests r).restoring = true → (c.requests r).phase.isSettled = true) :
    (c.resubscribeNext todo restored).Objects := by
  unfold Client.resubscribeNext
  split
  · rename_i pattern s todo
    refine ⟨hentries, ?_, fun _ _ h => (by cases h), ?_, fun r hown hopen => ?_⟩
    · rintro todo' restored' r hr
      cases hr
      exact ⟨hmade, hnodup, (pattern, s), todo, rfl, by simp [Client.request]⟩
    · rintro r hr
      cases hr
      exact ⟨Nat.lt_succ_self _, by simp [Client.request]⟩
    · rw [request_waiting _ hdone r hown hopen]
      rfl
  · have hget : ∀ q k, (restored.foldl (fun m e => m.set e.1 e.2) ∅ :
        OrderedMap String Nat).get? q = some k → (q, k) ∈ restored := fun q k hq =>
      (OrderedMap.of_get?_foldl_set hq).resolve_right (by simp)
    refine ⟨fun q k hq => hmade (q, k) (List.mem_append_left _ (hget q k hq)),
      fun _ _ _ h => (by cases h), fun _ _ h => (by cases h), fun _ h => (by cases h),
      fun r hown hopen => ?_⟩
    cases (hdone r hown).symm.trans hopen

/-- What is rolled back has been made. -/
theorem Objects.rollbackNext
    (hentries : ∀ pattern s, c.entry? pattern = some s → c.Made (pattern, s))
    (hmade : ∀ x ∈ todo, c.Made x)
    (hdone : ∀ r, (c.requests r).restoring = true → (c.requests r).phase.isSettled = true) :
    (c.rollbackNext v todo).Objects := by
  -- the index plays no part
  have key : ∀ (c₁ : Client) (pattern : String) (s subId : Nat) (todo : List (String × Nat)),
      (∀ pattern s, c₁.entry? pattern = some s → c₁.Made (pattern, s)) →
      (∀ x ∈ (pattern, s) :: todo, c₁.Made x) →
      (∀ r, (c₁.requests r).restoring = true → (c₁.requests r).phase.isSettled = true) →
      Objects { c₁.request (.unsubscribe pattern subId) true with
        restore := .rollingBack ((pattern, s) :: todo) c₁.requestCount } := by
    intro c₁ pattern s subId todo hentries hmade hdone
    refine ⟨hentries, fun _ _ _ h => (by cases h), ?_, ?_, fun r hown hopen => ?_⟩
    · rintro todo' r hr
      cases hr
      exact hmade
    · rintro r hr
      cases hr
      exact ⟨Nat.lt_succ_self _, by simp [Client.request]⟩
    · rw [request_waiting _ hdone r hown hopen]
      rfl
  unfold Client.rollbackNext
  split
  · dsimp only
    split
    · exact key _ _ _ _ _ hentries hmade hdone
    · exact key _ _ _ _ _ hentries hmade hdone
  · refine ⟨hentries, fun _ _ _ h => (by cases h), fun _ _ h => (by cases h),
      fun _ h => (by cases h),
      fun r hown hopen => ?_⟩
    cases (hdone r hown).symm.trans hopen

/-- When the request it awaits has settled, the listener has none that is open. -/
theorem Objects.done (h : c.Objects)
    (hsettled : ∀ r, c.restore.request? = some r → (c.requests r).phase.isSettled = true) :
    ∀ r, (c.requests r).restoring = true → (c.requests r).phase.isSettled = true := by
  intro r hown
  by_contra hopen
  have hopen : (c.requests r).phase.isSettled = false := by simpa using hopen
  rw [hsettled r (h.waiting r hown hopen)] at hopen
  cases hopen

theorem Objects.restoreBegins (h : c.Objects) (hpending : c.restore = .pending) :
    (c.restoreBegins v).Objects := by
  have hdone := h.done (fun r hr => by rw [hpending] at hr; cases hr)
  have hidle : ∀ c₁ : Client, (∀ pattern s, c₁.entry? pattern = some s → c₁.Made (pattern, s)) →
      (∀ r, (c₁.requests r).restoring = true → (c₁.requests r).phase.isSettled = true) →
        Objects { c₁ with restore := .idle } := by
    refine fun c₁ hentries hdone => ⟨hentries, nofun, nofun, nofun, fun r hown hopen => ?_⟩
    cases (hdone r hown).symm.trans hopen
  unfold Client.restoreBegins
  split
  · dsimp only
    split
    · exact hidle _ h.entries hdone
    · exact hidle _ h.entries hdone
  · refine .resubscribeNext h.entries (fun x hx => ?_) ?_ hdone
    · exact h.entries x.1 x.2 (OrderedMap.get?_eq_some.mpr (by simpa using hx))
    · simpa using c.store.subscriptionsByPattern.nodup

theorem Objects.reindex (h : c.Objects) (hcommitted : c.restore = .committed) :
    (c.reindex v).Objects := by
  obtain ⟨htraffic, hcontrol⟩ := reindex_frame (v := v) (c := c)
  have hstore := reindex_store (v := v) (c := c)
  have hdone := h.done (fun r hr => by rw [hcommitted] at hr; cases hr)
  have hrestore : (c.reindex v).restore = .idle := congrArg Control.restore hcontrol
  have hrequests : (c.reindex v).requests = c.requests := congrArg Traffic.requests htraffic
  refine ⟨fun pattern s hs => ?_, ?_, ?_, ?_, fun r hown hopen => ?_⟩
  · unfold entry? Made at *
    rw [hstore] at hs ⊢
    exact h.entries pattern s hs
  · rw [hrestore]
    exact nofun
  · rw [hrestore]
    exact nofun
  · rw [hrestore]
    exact nofun
  · rw [hrequests] at hown hopen
    cases (hdone r hown).symm.trans hopen

theorem Objects.restoreContinues (h : c.Objects) (hs : c.restoreContinues v = some c') :
    c'.Objects := by
  unfold Client.restoreContinues at hs
  split at hs
  · rename_i pattern s todo restored r hrestore
    obtain ⟨hmade, hnodup, -⟩ := h.resubscribing _ _ r hrestore
    have hrequest : c.restore.request? = some r := by rw [hrestore]; rfl
    have hdone : (c.requests r).phase.isSettled = true →
        ∀ k, (c.requests k).restoring = true → (c.requests k).phase.isSettled = true :=
      fun hsettled => h.done fun k hk => by
        rw [hrequest] at hk
        exact (Option.some.inj hk) ▸ hsettled
    split at hs
    · rename_i subId hphase
      cases hs
      refine .resubscribeNext (fun q k hq => ?_) (fun x hx => ?_) ?_
        (hdone (by simp [hphase, RequestPhase.isSettled]))
      · rw [ restoreEntry_entry?] at hq
        exact (h.entries q k hq).restoreEntry pattern s subId
      · rcases List.mem_append.mp hx with hx | hx
        · rcases List.mem_append.mp hx with hx | hx
          · exact (hmade x (List.mem_append_left _ hx)).restoreEntry pattern s subId
          · rw [List.mem_singleton.mp hx]
            exact restoreEntry_made pattern s subId
        · exact (hmade x (List.mem_append_right _ (List.mem_cons_of_mem _ hx))).restoreEntry
            pattern s subId
      · simpa using hnodup
    · cases hs
    · cases hs
    · rename_i hsubscribed hunsent hsent
      cases hs
      refine .rollbackNext h.entries (fun x hx => ?_) (hdone ?_)
      · exact hmade x (List.mem_append_left _ (List.mem_reverse.mp hx))
      · cases hphase : (c.requests r).phase with
        | unsent => exact absurd hphase hunsent
        | sent => exact absurd hphase hsent
        | subscribed id => rfl
        | unsubscribed => rfl
        | rejected => rfl
  · rename_i x todo r hrestore
    obtain ⟨hsettled, ⟨⟩⟩ := Option.ite_none_right_eq_some.mp hs
    refine .rollbackNext h.entries (fun x hx => ?_) (h.done fun k hk => ?_)
    · exact h.rollingBack _ r hrestore x (List.mem_cons_of_mem _ hx)
    · rw [hrestore] at hk
      exact (Option.some.inj hk) ▸ hsettled
  · rename_i hrestore
    cases hs
    exact h.reindex hrestore
  · cases hs

end Restore

/-- The step lemma. -/
theorem Objects.step (h : c.Objects) (hs : c.step v e = some c') : c'.Objects := by
  by_cases he : e.isLocal = true
  · exact h.local (step_extends he hs) (step_local he hs)
  · by_cases hbegins : e = .restoreBegins
    · subst hbegins
      obtain ⟨hpending, ⟨⟩⟩ := Option.ite_none_right_eq_some.mp hs
      exact h.restoreBegins hpending
    · by_cases hcontinues : e = .restoreContinues
      · subst hcontinues
        exact h.restoreContinues hs
      · obtain ⟨hstore, hrestore⟩ := step_remote (by simpa using he) hbegins hcontinues hs
        obtain ⟨hcount, hrequests⟩ := step_advances (by simpa using he) hbegins hcontinues hs
        exact h.of_advances hstore hrestore hcount hrequests

/-! ### What has been made stays -/

theorem Made.resubscribeNext {x : String × Nat} (h : c.Made x)
    (todo restored : List (String × Nat)) :
    (c.resubscribeNext todo restored).Made x := by
  unfold Client.resubscribeNext
  split <;> exact h

theorem Made.rollbackNext {x : String × Nat} (h : c.Made x) (todo : List (String × Nat)) :
    (c.rollbackNext v todo).Made x := by
  unfold Client.rollbackNext
  split
  · dsimp only
    split <;> exact h
  · exact h

theorem Made.local {x : String × Nat} (h : c.Made x) (hmove : Local v c e c') : c'.Made x := by
  cases hmove with
  | same _ _ hsame => exact h.of_table hsame.table
  | registers pattern subId r _ hsame => exact (h.register pattern subId).of_table hsame.table
  | unregisters pattern s _ hsame =>
      have hmade : (c.setStore (c.store.unregister pattern s)).Made x := h
      exact hmade.of_table hsame.table

/-- An object is never unmade. -/
theorem Made.step {x : String × Nat} (h : c.Made x) (hs : c.step v e = some c') : c'.Made x := by
  by_cases he : e.isLocal = true
  · exact h.local (step_local he hs)
  · by_cases hbegins : e = .restoreBegins
    · subst hbegins
      obtain ⟨-, ⟨⟩⟩ := Option.ite_none_right_eq_some.mp hs
      unfold Client.restoreBegins
      split
      · dsimp only
        split <;> exact h
      · exact h.resubscribeNext _ _
    · by_cases hcontinues : e = .restoreContinues
      · subst hcontinues
        unfold Client.step Client.restoreContinues at hs
        dsimp only at hs
        split at hs
        · split at hs
          · cases hs
            exact (h.restoreEntry _ _ _).resubscribeNext _ _
          · cases hs
          · cases hs
          · cases hs
            exact h.rollbackNext _
        · obtain ⟨-, ⟨⟩⟩ := Option.ite_none_right_eq_some.mp hs
          exact h.rollbackNext _
        · cases hs
          unfold Made
          rw [reindex_store]
          exact h
        · cases hs
      · obtain ⟨hstore, -⟩ := step_remote (by simpa using he) hbegins hcontinues hs
        exact h.of_table (congrArg Store.table hstore)

theorem objects_run {es : List Event} (hrun : (machine v).run es = some c) : c.Objects :=
  Machine.invariant (M := machine v) objects_create (fun _ _ _ h hs => h.step hs) hrun

end Client

end FitzTs.Subscriptions
