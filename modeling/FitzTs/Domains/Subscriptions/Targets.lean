import FitzTs.Domains.Subscriptions.Index
import FitzTs.Domains.Subscriptions.Answers
/-!
# FitzTs.Domains.Subscriptions.Targets

The registrations that the UNSUBSCRIBE frames of the notice client name.

The frame is encoded from the id that the entry has when the request is made, and
the request may go out later. Its id is one that the session assigned if the entry
was one of this session, and if the session has not changed since.

## Main result

* `targets_run` — in a run in which no UNSUBSCRIBE request is held over a new session or
  made from an entry of an older one, every UNSUBSCRIBE frame names an id that the
  session it is written in assigned to the pattern.
-/

namespace FitzTs.Subscriptions.Client

/-- An answer is put into the table in the session that gave it. An UNSUBSCRIBE goes out
in the session in which it was made; an ordinary one was not made while a restore was
under way, and the restore of the session has not failed. -/
def KeepsTargets (c : Client) (e : Event) : Prop :=
  (∀ x ∈ c.registering notice e, (c.requests x.2.2).sentIn = c.session) ∧
  match e with
  | .sent r =>
    match (c.requests r).frame with
    | .unsubscribe _ _ => (c.requests r).madeIn = c.session ∧
        ((c.requests r).restoring ∨ (c.requests r).duringRestore = false ∧ c.restoreFailed = false)
    | .subscribe _ => True
  | _ => True

instance (c : Client) (e : Event) : Decidable (c.KeepsTargets e) := by
  have : Decidable (match e with
      | .sent r =>
        match (c.requests r).frame with
        | .unsubscribe _ _ => (c.requests r).madeIn = c.session ∧
            ((c.requests r).restoring ∨
              (c.requests r).duringRestore = false ∧ c.restoreFailed = false)
        | .subscribe _ => True
      | _ => True) := by
    induction e using Event.casesOn with
    | sent r =>
        dsimp only
        generalize (c.requests r).frame = frame
        induction frame using Frame.casesOn <;> dsimp only <;> infer_instance
    | _ => exact instDecidableTrue
  exact inferInstanceAs (Decidable (_ ∧ _))

/-- The id of state `s` is one that this session assigned to the pattern. -/
def AssignedNow (c : Client) (pattern : String) (s : Nat) : Prop :=
  (c.session, (c.store.states s).subId, pattern) ∈ c.assigned

/-- What holds in a run whose steps meet `KeepsTargets`. -/
structure Targets (c : Client) : Prop where
  made : c.store.table.Made
  /-- Unless a restore is under way, the entries are those of this session. -/
  entries : c.restore.isUnderWay = false → c.restoreFailed = false →
    ∀ pattern s, c.entry? pattern = some s → c.AssignedNow pattern s
  resubscribing : ∀ todo restored r, c.restore = .resubscribing todo restored r →
    (∀ x ∈ restored, x.2 < c.store.stateCount ∧ c.AssignedNow x.1 x.2) ∧
      r < c.requestCount ∧ (c.requests r).madeIn = c.session ∧
        ∀ x ∈ todo.head?, (c.requests r).frame = .subscribe x.1
  rollingBack : ∀ todo r, c.restore = .rollingBack todo r →
    ∀ x ∈ todo, x.2 < c.store.stateCount ∧ c.AssignedNow x.1 x.2
  /-- What the requests name. -/
  asked : ∀ r pattern subId, (c.requests r).frame = .unsubscribe pattern subId →
    (c.requests r).madeIn = c.session →
    (c.requests r).restoring ∨ (c.requests r).duringRestore = false ∧ c.restoreFailed = false →
      (c.session, subId, pattern) ∈ c.assigned
  written : ∀ x ∈ c.unsubscribed, x ∈ c.assigned

theorem targets_create : create.Targets where
  made := fun _ _ h => by simp [create, Store.empty, Store.table] at h
  entries := fun _ _ _ _ h => by simp [create, entry?, Store.empty] at h
  resubscribing := fun _ _ _ h => by cases h
  rollingBack := fun _ _ h => by cases h
  asked := fun _ _ _ h => by cases h
  written := fun _ h => by cases h

variable {c c' : Client} {e : Event}

section Step

/-- Everything that the invariant reads stays, and more may be assigned. -/
theorem Targets.of_frames (h : c.Targets) (htable : c'.store.table = c.store.table)
    (hrestore : c'.restore = c.restore) (hfailed : c'.restoreFailed = c.restoreFailed)
    (hsession : c'.session = c.session) (hassigned : ∀ x ∈ c.assigned, x ∈ c'.assigned)
    (hcount : c'.requestCount = c.requestCount)
    (hrequests : ∀ r, SameRequest (c.requests r) (c'.requests r))
    (hwritten : ∀ x ∈ c'.unsubscribed, x ∈ c'.assigned) : c'.Targets := by
  have hmade : c'.store.stateCount = c.store.stateCount := congrArg Table.stateCount htable
  have hentry : c'.entry? = c.entry? :=
    congrArg (fun t => OrderedMap.get? (Table.subscriptionsByPattern t)) htable
  have hnow : ∀ pattern s, c.AssignedNow pattern s → c'.AssignedNow pattern s := by
    intro pattern s hs
    have hid : (c'.store.states s).subId = (c.store.states s).subId :=
      congrFun (congrArg Table.subId htable) s
    unfold AssignedNow
    rw [hid, hsession]
    exact hassigned _ hs
  refine ⟨htable ▸ h.made, fun hnot hok pattern s hs => ?_, fun todo restored r hr => ?_,
    fun todo r hr x hx => ?_, fun r pattern subId hframe hmadeIn hby => ?_, hwritten⟩
  · rw [hrestore] at hnot
    rw [hfailed] at hok
    rw [hentry] at hs
    exact hnow _ _ (h.entries hnot hok pattern s hs)
  · rw [hrestore] at hr
    obtain ⟨hrestored, hlt, hmadeIn, hframe⟩ := h.resubscribing todo restored r hr
    refine ⟨fun x hx => ⟨hmade ▸ (hrestored x hx).1, hnow _ _ (hrestored x hx).2⟩,
      hcount ▸ hlt, ?_, fun x hx => ?_⟩
    · rw [(hrequests r).madeIn, hsession]
      exact hmadeIn
    · rw [(hrequests r).frame]
      exact hframe x hx
  · rw [hrestore] at hr
    obtain ⟨hlt, hnow'⟩ := h.rollingBack todo r hr x hx
    exact ⟨hmade ▸ hlt, hnow _ _ hnow'⟩
  · rw [(hrequests r).frame] at hframe
    rw [(hrequests r).madeIn, hsession] at hmadeIn
    rw [(hrequests r).restoring, (hrequests r).duringRestore, hfailed] at hby
    rw [hsession]
    exact hassigned _ (h.asked r pattern subId hframe hmadeIn hby)

/-- A call or a continuation, whatever it did to the table, if the entries are still
those of this session. -/
theorem Targets.of_extends (h : c.Targets) (hext : Extends c c')
    (hcontrol : c'.control = c.control) (hmade : c'.store.table.Made)
    (hcount : c.store.stateCount ≤ c'.store.stateCount)
    (hold : ∀ s < c.store.stateCount, (c'.store.states s).subId = (c.store.states s).subId)
    (hentries : c.restore.isUnderWay = false → c.restoreFailed = false →
      ∀ pattern s, c'.entry? pattern = some s → c'.AssignedNow pattern s) : c'.Targets := by
  have hrestore : c'.restore = c.restore := congrArg Control.restore hcontrol
  have hfailed : c'.restoreFailed = c.restoreFailed := congrArg Control.restoreFailed hcontrol
  have hsession : c'.session = c.session := congrArg Control.session hcontrol
  have hassigned : c'.assigned = c.assigned := congrArg Control.assigned hcontrol
  have hunsubscribed : c'.unsubscribed = c.unsubscribed := congrArg Control.unsubscribed hcontrol
  have hnow : ∀ x : String × Nat, x.2 < c.store.stateCount ∧ c.AssignedNow x.1 x.2 →
      x.2 < c'.store.stateCount ∧ c'.AssignedNow x.1 x.2 := by
    rintro x ⟨hlt, hx⟩
    refine ⟨Nat.lt_of_lt_of_le hlt hcount, ?_⟩
    unfold AssignedNow
    rw [hold _ hlt, hsession, hassigned]
    exact hx
  refine ⟨hmade, fun hnot hok => ?_, fun todo restored r hr => ?_, fun todo r hr x hx => ?_,
    fun r pattern subId hframe hmadeIn hby => ?_, fun x hx => ?_⟩
  · rw [hrestore] at hnot
    rw [hfailed] at hok
    exact hentries hnot hok
  · rw [hrestore] at hr
    obtain ⟨hrestored, hlt, hmadeIn, hframe⟩ := h.resubscribing todo restored r hr
    have hsame := (hext.old r (Nat.ne_of_lt hlt)).toSameRequest
    refine ⟨fun x hx => hnow x (hrestored x hx), Nat.lt_of_lt_of_le hlt hext.count, ?_,
      fun x hx => ?_⟩
    · rw [hsame.madeIn, hsession]
      exact hmadeIn
    · rw [hsame.frame]
      exact hframe x hx
  · rw [hrestore] at hr
    exact hnow x (h.rollingBack todo r hr x hx)
  · rw [hassigned, hsession]
    rw [hsession] at hmadeIn
    rw [hfailed] at hby
    have key : SameRequest (c.requests r) (c'.requests r) →
        (c.session, subId, pattern) ∈ c.assigned := by
      intro hsame
      rw [hsame.frame] at hframe
      rw [hsame.madeIn] at hmadeIn
      rw [hsame.restoring, hsame.duringRestore] at hby
      exact h.asked r pattern subId hframe hmadeIn hby
    by_cases hr : r = c.requestCount
    · subst hr
      rcases hext.new with hsame | ⟨hlocal, -, -, hduring, hentry⟩
      · exact key hsame.toSameRequest
      · -- the new request names an entry
        obtain ⟨hnot, hok⟩ := hby.resolve_left (by simp [hlocal])
        obtain ⟨s, hs, hid⟩ := hentry pattern subId hframe
        have hthis := hentries (hduring ▸ hnot) hok pattern s hs
        unfold AssignedNow at hthis
        rw [hid, hsession, hassigned] at hthis
        exact hthis
    · exact key (hext.old r hr).toSameRequest
  · rw [hassigned]
    rw [hunsubscribed] at hx
    exact h.written x hx

theorem Targets.local (h : c.Targets) (hflights : c.Flights) (hK : c.KeepsTargets e)
    (hext : Extends c c') (hmove : Local notice c e c') : c'.Targets := by
  cases hmove with
  | same _ _ hsame =>
      have hid : ∀ s, (c'.store.states s).subId = (c.store.states s).subId :=
        fun s => congrFun (congrArg Table.subId hsame.table) s
      refine h.of_extends hext hsame.control (hsame.table ▸ h.made)
        (Nat.le_of_eq (congrArg Table.stateCount hsame.table).symm) (fun s _ => hid s)
        fun hnot hok pattern s hs => ?_
      rw [ hsame.entry?] at hs
      have hnow := h.entries hnot hok pattern s hs
      unfold AssignedNow at hnow ⊢
      have hsession : c'.session = c.session := congrArg Control.session hsame.control
      have hassignedIn : c'.assigned = c.assigned := congrArg Control.assigned hsame.control
      rw [hid, hsession, hassignedIn]
      exact hnow
  -- the id comes from an answer of the current session
  | registers pattern subId r hregister hsame =>
      have hsent : (c.requests r).sentIn = c.session := hK.1 _ hregister
      obtain ⟨hphase, hframe⟩ := registering_answered hflights hregister
      obtain ⟨q, hq, hassigned⟩ := hflights.answered r subId hphase
      obtain rfl : pattern = q := Frame.subscribe.inj (hframe.symm.trans hq)
      rw [hsent] at hassigned
      have hid : ∀ s, (c'.store.states s).subId =
          ((c.store.register pattern subId).states s).subId :=
        fun s => congrFun (congrArg Table.subId hsame.table) s
      have hsession : c'.session = c.session := congrArg Control.session hsame.control
      have hassignedIn : c'.assigned = c.assigned := congrArg Control.assigned hsame.control
      refine h.of_extends hext hsame.control (hsame.table ▸ h.made.register)
        (Nat.le_of_lt (Nat.lt_of_lt_of_eq (Nat.lt_succ_self _)
          (congrArg Table.stateCount hsame.table).symm))
        (fun s hs => ?_) fun hnot hok p s hs => ?_
      · rw [hid]
        simp [Store.register, Store.make, Function.update_of_ne (Nat.ne_of_lt hs)]
      · rw [ hsame.entry?] at hs
        unfold AssignedNow
        rw [hid, hsession, hassignedIn]
        simp only [ entry?, setStore, Store.register, OrderedMap.get?_set] at hs
        split at hs
        · rename_i hp
          cases hs
          subst hp
          simpa [Store.register, Store.make] using hassigned
        · -- any other entry has been made before
          have hne : s ≠ c.store.stateCount := Nat.ne_of_lt (h.made p s hs)
          have hnow := h.entries hnot hok p s hs
          unfold AssignedNow at hnow
          simpa [Store.register, Store.make, Function.update_of_ne hne] using hnow
  -- what remains has been in the table
  | unregisters pattern s hunregister hsame =>
      have hid : ∀ s', (c'.store.states s').subId = (c.store.states s').subId :=
        fun s' => congrFun (congrArg Table.subId hsame.table) s'
      refine h.of_extends hext hsame.control (hsame.table ▸ h.made.unregister)
        (Nat.le_of_eq (congrArg Table.stateCount hsame.table).symm) (fun s' _ => hid s')
        fun hnot hok p s' hs => ?_
      rw [ hsame.entry?] at hs
      simp only [ entry?, setStore, Store.unregister, OrderedMap.get?_delete] at hs
      split at hs
      · cases hs
      · have hnow := h.entries hnot hok p s' hs
        unfold AssignedNow at hnow ⊢
        have hsession : c'.session = c.session := congrArg Control.session hsame.control
        have hassignedIn : c'.assigned = c.assigned := congrArg Control.assigned hsame.control
        rw [hid, hsession, hassignedIn]
        exact hnow

/-- Writing a request that keeps what it asks for. -/
theorem Targets.setRequest (h : c.Targets) (r : Nat) (request : Request)
    (hrequest : SameRequest (c.requests r) request) : (c.setRequest r request).Targets := by
  refine h.of_frames rfl rfl rfl rfl (fun _ hx => hx) rfl (fun k => ?_) h.written
  by_cases hk : k = r
  · subst hk
    simpa [Client.setRequest] using hrequest
  · simp only [Client.setRequest, Function.update_of_ne hk]
    exact .refl

theorem Targets.send (h : c.Targets) {r : Nat} (hK : c.KeepsTargets (.sent r)) :
    (c.send r).Targets := by
  have hset := h.setRequest r { c.requests r with phase := .sent, sentIn := c.session }
    ⟨rfl, rfl, rfl, rfl⟩
  unfold Client.send
  dsimp only
  split
  · rename_i pattern subId hframe
    have hK := hK.2
    simp only [hframe] at hK
    refine hset.of_frames rfl rfl rfl rfl (fun _ hx => hx) rfl (fun _ => .refl) fun x hx => ?_
    rcases List.mem_append.mp hx with hx | hx
    · exact h.written x hx
    · rw [List.mem_singleton.mp hx]
      exact h.asked r pattern subId hframe hK.1 hK.2
  · exact hset

theorem Targets.brokerSubscribes (h : c.Targets) (r subId : Nat) (pattern : String) :
    (c.brokerSubscribes r subId pattern).Targets := by
  have hset := h.setRequest r { c.requests r with phase := .subscribed subId }
    ⟨rfl, rfl, rfl, rfl⟩
  exact hset.of_frames rfl rfl rfl rfl (fun _ hx => List.mem_append_left _ hx) rfl
    (fun _ => .refl) fun x hx => List.mem_append_left _ (h.written x hx)

theorem Targets.loseConnection (h : c.Targets) : c.loseConnection.Targets := by
  refine h.of_frames rfl rfl rfl rfl (fun _ hx => hx) rfl (fun r => ?_) h.written
  unfold Client.loseConnection
  dsimp only
  split
  · exact ⟨rfl, rfl, rfl, rfl⟩
  · exact .refl

/-- A new session: no entry is its own yet, and it has assigned nothing. -/
theorem Targets.connected (h : c.Targets) (hflights : c.Flights) : Targets { c with
    link := .restoring, session := c.session + 1, restore := .pending,
    restoreFailed := false } where
  made := h.made
  entries := nofun
  resubscribing := nofun
  rollingBack := nofun
  asked := fun r _ _ _ hmadeIn _ => by
    have hmade : (c.requests r).madeIn ≤ c.session := hflights.made r
    exact absurd (hmadeIn ▸ hmade) (Nat.not_succ_le_self _)
  written := h.written

end Step

section Restore

variable {todo restored : List (String × Nat)}

/-- A new object, while a restore is under way. -/
theorem Targets.restoreEntry (h : c.Targets) (hunder : c.restore.isUnderWay = true)
    (pattern : String) (s subId : Nat) : (c.restoreEntry notice pattern s subId).Targets := by
  have hnow : ∀ x : String × Nat, x.2 < c.store.stateCount ∧ c.AssignedNow x.1 x.2 →
      x.2 < (c.restoreEntry notice pattern s subId).store.stateCount ∧
        (c.restoreEntry notice pattern s subId).AssignedNow x.1 x.2 := by
    rintro x ⟨hlt, hx⟩
    refine ⟨Nat.lt_succ_of_lt hlt, ?_⟩
    unfold AssignedNow at hx ⊢
    simpa [Client.restoreEntry, setStore, Store.make, notice,
      Function.update_of_ne (Nat.ne_of_lt hlt)] using hx
  refine ⟨fun q k hq => Nat.lt_succ_of_lt (h.made q k hq), fun hnot => ?_,
    fun todo restored r hr => ?_, fun todo r hr x hx => hnow x (h.rollingBack todo r hr x hx),
    h.asked, h.written⟩
  · have hnot : c.restore.isUnderWay = false := hnot
    rw [hunder] at hnot
    cases hnot
  · obtain ⟨hrestored, hrest⟩ := h.resubscribing todo restored r hr
    exact ⟨fun x hx => hnow x (hrestored x hx), hrest⟩

/-- The next resubscribe, or the commit. -/
theorem Targets.resubscribeNext (h : c.Targets)
    (hrestored : ∀ x ∈ restored, x.2 < c.store.stateCount ∧ c.AssignedNow x.1 x.2) :
    (c.resubscribeNext todo restored).Targets := by
  unfold Client.resubscribeNext
  split
  · rename_i pattern s todo
    refine ⟨h.made, fun h => (by cases h), ?_, fun _ _ h => (by cases h),
      fun r q subId hframe hmadeIn hby => ?_, h.written⟩
    · rintro todo' restored' r hr
      cases hr
      refine ⟨hrestored, Nat.lt_succ_self _, by simp [Client.request], fun x hx => ?_⟩
      obtain rfl : (pattern, s) = x := by simpa using hx
      simp [Client.request]
    · by_cases hr : r = c.requestCount
      · subst hr
        simp [Client.request] at hframe
      · simp only [Client.request, Function.update_of_ne hr] at hframe hmadeIn hby
        exact h.asked r q subId hframe hmadeIn hby
  · have hget : ∀ q k, (restored.foldl (fun m e => m.set e.1 e.2) ∅ :
        OrderedMap String Nat).get? q = some k → (q, k) ∈ restored := fun q k hq =>
      (OrderedMap.of_get?_foldl_set hq).resolve_right (by simp)
    exact ⟨fun q k hq => (hrestored (q, k) (hget q k hq)).1,
      fun _ _ q k hq => (hrestored (q, k) (hget q k hq)).2, fun _ _ _ h => (by cases h),
      fun _ _ h => (by cases h), h.asked, h.written⟩

/-- The next UNSUBSCRIBE of a rollback, or its end. -/
theorem Targets.rollbackNext (h : c.Targets)
    (htodo : ∀ x ∈ todo, x.2 < c.store.stateCount ∧ c.AssignedNow x.1 x.2) :
    (c.rollbackNext notice todo).Targets := by
  unfold Client.rollbackNext
  split
  · rename_i pattern s todo
    simp only [notice, Bool.false_eq_true, if_false]
    refine ⟨h.made, fun h => (by cases h), fun _ _ _ h => (by cases h), ?_,
      fun r q subId hframe hmadeIn hby => ?_, h.written⟩
    · rintro todo' r hr
      cases hr
      exact htodo
    · by_cases hr : r = c.requestCount
      · subst hr
        obtain ⟨rfl, rfl⟩ : pattern = q ∧ (c.store.states s).subId = subId := by
          simpa [Client.request] using hframe
        exact (htodo (pattern, s) (List.mem_cons_self ..)).2
      · simp only [Client.request, Function.update_of_ne hr] at hframe hmadeIn hby
        exact h.asked r q subId hframe hmadeIn hby
  · refine ⟨h.made, fun _ h => (by cases h), fun _ _ _ h => (by cases h), fun _ _ h => (by cases h),
      fun r q subId hframe hmadeIn hby => ?_, h.written⟩
    have hrestoring := hby.resolve_right (by simp)
    exact h.asked r q subId hframe hmadeIn (Or.inl hrestoring)

theorem Targets.reindex (h : c.Targets) (hcommitted : c.restore = .committed) :
    (c.reindex notice).Targets := by
  obtain ⟨htraffic, hcontrol⟩ := reindex_frame (v := notice) (c := c)
  have hstore := reindex_store (v := notice) (c := c)
  have hrestore : (c.reindex notice).restore = .idle := congrArg Control.restore hcontrol
  have hfailed : (c.reindex notice).restoreFailed = c.restoreFailed :=
    congrArg Control.restoreFailed hcontrol
  have hsession : (c.reindex notice).session = c.session := congrArg Control.session hcontrol
  have hassigned : (c.reindex notice).assigned = c.assigned := congrArg Control.assigned hcontrol
  have hunsubscribed : (c.reindex notice).unsubscribed = c.unsubscribed :=
    congrArg Control.unsubscribed hcontrol
  have hrequests : (c.reindex notice).requests = c.requests := congrArg Traffic.requests htraffic
  refine ⟨?_, fun _ hok pattern s hs => ?_, ?_, ?_, ?_, ?_⟩
  · rw [hstore]
    exact h.made
  · unfold entry? AssignedNow at *
    rw [hstore] at hs ⊢
    rw [hsession, hassigned]
    exact h.entries (by simp [hcommitted, Restore.isUnderWay]) (hfailed ▸ hok) pattern s hs
  · rw [hrestore]
    exact nofun
  · rw [hrestore]
    exact nofun
  · rw [hrequests, hsession, hassigned, hfailed]
    exact h.asked
  · rw [hunsubscribed, hassigned]
    exact h.written

theorem Targets.restoreBegins (h : c.Targets) : (c.restoreBegins notice).Targets := by
  unfold Client.restoreBegins
  split
  · rename_i hnone
    refine ⟨h.made, fun _ _ pattern s hs => ?_, nofun, nofun, h.asked, h.written⟩
    have hmem := OrderedMap.get?_eq_some.mp hs
    simp [notice, hnone] at hmem
  · exact h.resubscribeNext nofun

theorem Targets.restoreContinues (h : c.Targets) (hflights : c.Flights)
    (hs : c.restoreContinues notice = some c') : c'.Targets := by
  unfold Client.restoreContinues at hs
  split at hs
  · rename_i pattern s todo restored r hrestore
    obtain ⟨hrestored, -, hmadeIn, hframe⟩ := h.resubscribing _ _ r hrestore
    split at hs
    · rename_i subId hphase
      cases hs
      -- the answer came in this session
      have hsent : (c.requests r).sentIn = c.session :=
        Nat.le_antisymm (hflights.past r)
          (hmadeIn ▸ hflights.order r (by simp [hphase]) (by simp [hphase]))
      obtain ⟨q, hq, hassigned⟩ := hflights.answered r subId hphase
      obtain rfl : pattern = q :=
        Frame.subscribe.inj ((hframe (pattern, s) (by simp)).symm.trans hq)
      rw [hsent] at hassigned
      have hunder : c.restore.isUnderWay = true := by simp [hrestore, Restore.isUnderWay]
      have hentry := h.restoreEntry hunder pattern s subId
      refine hentry.resubscribeNext fun x hx => ?_
      rcases List.mem_append.mp hx with hx | hx
      · exact (hentry.resubscribing _ _ r hrestore).1 x hx
      · rw [List.mem_singleton.mp hx]
        refine ⟨Nat.lt_succ_self _, ?_⟩
        simpa [AssignedNow, Client.restoreEntry, setStore, Store.make, notice] using hassigned
    · cases hs
    · cases hs
    · cases hs
      exact h.rollbackNext fun x hx => hrestored x (List.mem_reverse.mp hx)
  · rename_i r hrestore
    obtain ⟨-, ⟨⟩⟩ := Option.ite_none_right_eq_some.mp hs
    exact h.rollbackNext fun x hx => h.rollingBack _ r hrestore x (List.mem_cons_of_mem _ hx)
  · rename_i hrestore
    cases hs
    exact h.reindex hrestore
  · cases hs

end Restore

section Runs

theorem Targets.step (h : c.Targets) (hflights : c.Flights) (hK : c.KeepsTargets e)
    (hs : c.step notice e = some c') : c'.Targets := by
  by_cases he : e.isLocal = true
  · exact h.local hflights hK (step_extends he hs) (step_local he hs)
  · cases e with
    | sent r =>
        obtain ⟨-, ⟨⟩⟩ := Option.ite_none_right_eq_some.mp hs
        exact h.send hK
    -- the broker remembers what it has assigned
    | subscribed r subId =>
        unfold Client.step at hs
        dsimp only at hs
        split at hs
        · obtain ⟨-, ⟨⟩⟩ := Option.ite_none_right_eq_some.mp hs
          exact h.brokerSubscribes r subId _
        · cases hs
    | unsubscribed r =>
        unfold Client.step at hs
        dsimp only at hs
        split at hs
        · obtain ⟨-, ⟨⟩⟩ := Option.ite_none_right_eq_some.mp hs
          have hset := h.setRequest r { c.requests r with phase := .unsubscribed }
            ⟨rfl, rfl, rfl, rfl⟩
          exact hset.of_frames rfl rfl rfl rfl (fun _ hx => hx) rfl (fun _ => .refl) hset.written
        · cases hs
    | rejected r =>
        obtain ⟨-, ⟨⟩⟩ := Option.ite_none_right_eq_some.mp hs
        exact h.setRequest r _ ⟨rfl, rfl, rfl, rfl⟩
    | notify subId =>
        obtain ⟨-, ⟨⟩⟩ := Option.ite_none_right_eq_some.mp hs
        obtain ⟨htraffic, hcontrol⟩ := notify_frame (v := notice) (c := c) subId
        have hrequests : (c.notify notice subId).requests = c.requests :=
          congrArg Traffic.requests htraffic
        have hassigned : (c.notify notice subId).assigned = c.assigned :=
          congrArg Control.assigned hcontrol
        refine h.of_frames (congrArg Store.table (notify_store subId))
          (congrArg Control.restore hcontrol) (congrArg Control.restoreFailed hcontrol)
          (congrArg Control.session hcontrol) (fun x hx => hassigned ▸ hx)
          (congrArg Traffic.requestCount htraffic) (fun r => hrequests ▸ .refl) fun x hx => ?_
        have hunsubscribed : (c.notify notice subId).unsubscribed = c.unsubscribed :=
          congrArg Control.unsubscribed hcontrol
        rw [hassigned]
        rw [hunsubscribed] at hx
        exact h.written x hx
    | lost =>
        obtain ⟨-, ⟨⟩⟩ := Option.ite_none_right_eq_some.mp hs
        exact h.loseConnection
    -- a new session has not restored anything yet
    | connected =>
        obtain ⟨-, ⟨⟩⟩ := Option.ite_none_right_eq_some.mp hs
        exact h.connected hflights
    | restoreBegins =>
        obtain ⟨-, ⟨⟩⟩ := Option.ite_none_right_eq_some.mp hs
        exact h.restoreBegins
    | restoreContinues => exact h.restoreContinues hflights hs
    | restored =>
        obtain ⟨-, ⟨⟩⟩ := Option.ite_none_right_eq_some.mp hs
        exact h.of_frames rfl rfl rfl rfl (fun _ hx => hx) rfl (fun _ => .refl) h.written
    | subscribe | callContinues | abort | unsubscribe | unsubscribeContinues | flightSettles =>
        exact absurd rfl he

/-- **The notice client's UNSUBSCRIBE frames.** -/
theorem targets_run {es : List Event} {c : Client}
    (hguard : (machine notice).Guarded KeepsTargets create es)
    (hrun : (machine notice).run es = some c) : ∀ x ∈ c.unsubscribed, x ∈ c.assigned := by
  have key : c.Flights ∧ c.Targets := Machine.Guarded.invariant (M := machine notice)
    (I := fun c => c.Flights ∧ c.Targets) ⟨flights_create, targets_create⟩
    (fun _ _ _ h hK hs => ⟨h.1.step hs, h.2.step h.1 hK hs⟩) hguard hrun
  exact key.2.written

/-- The handle of a pattern is unsubscribed after a reconnect. -/
def unsubscribeAfterReconnect : List Event :=
  [.subscribe "notice://a" false, .callContinues 0, .sent 0, .subscribed 0 1, .flightSettles 0,
    .callContinues 0, .lost, .connected, .restoreBegins, .sent 1, .subscribed 1 2,
    .restoreContinues, .restoreContinues, .restored, .unsubscribe 1, .sent 2]

theorem targets_unsubscribeAfterReconnect : ∃ c,
    (machine notice).run unsubscribeAfterReconnect = some c ∧
      c.unsubscribed = [(1, 2, "notice://a")] ∧ ∀ x ∈ c.unsubscribed, x ∈ c.assigned := by
  have hguard : (machine notice).Guarded KeepsTargets create unsubscribeAfterReconnect := by
    decide +kernel
  obtain ⟨c, hrun, hwritten⟩ : ∃ c, (machine notice).run unsubscribeAfterReconnect = some c ∧
      c.unsubscribed = [(1, 2, "notice://a")] := ⟨_, rfl, by decide +kernel⟩
  exact ⟨c, hrun, hwritten, targets_run hguard hrun⟩

/-- The UNSUBSCRIBE of the first pattern, whose id is 1, is made when the connection is
gone. The next session gives the second pattern that id. -/
def unsubscribeOverReconnect : List Event :=
  [.subscribe "notice://a" false, .callContinues 0, .sent 0, .subscribed 0 1, .flightSettles 0,
    .callContinues 0, .subscribe "notice://b" false, .callContinues 1, .sent 1, .subscribed 1 2,
    .flightSettles 1, .callContinues 1, .lost, .unsubscribe 1, .connected, .restoreBegins, .sent 3,
    .subscribed 3 5, .restoreContinues, .sent 4, .subscribed 4 1, .restoreContinues,
    .restoreContinues, .restored, .sent 2]

theorem not_forall_targets : ∃ c, (machine notice).run unsubscribeOverReconnect = some c ∧
    (1, 1, "notice://b") ∈ c.assigned ∧ ¬ ∀ x ∈ c.unsubscribed, x ∈ c.assigned := by
  obtain ⟨c, hrun, hother, hwritten, hnot⟩ : ∃ c,
      (machine notice).run unsubscribeOverReconnect = some c ∧
        (1, 1, "notice://b") ∈ c.assigned ∧ (1, 1, "notice://a") ∈ c.unsubscribed ∧
          (1, 1, "notice://a") ∉ c.assigned :=
    ⟨_, rfl, by decide +kernel, by decide +kernel, by decide +kernel⟩
  exact ⟨c, hrun, hother, fun hall => hnot (hall _ hwritten)⟩

end Runs

end FitzTs.Subscriptions.Client
