import FitzTs.Domains.Subscriptions.Frame
/-!
# FitzTs.Domains.Subscriptions.Index

The two maps of the lease client.

Outside a restore every entry of one map has its counterpart in the other. The
restore moves the index entries one by one: each answer deletes the old id of its
route and stores the new one. The deletion looks at the id alone, so it takes out
the fresh entry of an earlier route whose new id is the old id of this one.

## Main result

* `inverse_run` — in a run in which no restore assigns a route an id that the index
  holds for another route, the maps are inverse of each other whenever no restore
  is under way.
-/

namespace FitzTs.Subscriptions

namespace Table

/-- **The maps are inverse of each other**: an id leads to a pattern exactly if the
pattern's entry has this id. -/
def Inverse (t : Table) : Prop :=
  ∀ id pattern, t.patternsBySubId.get? id = some pattern ↔
    ∃ s, t.subscriptionsByPattern.get? pattern = some s ∧ t.subId s = id

/-- Every entry leads to an object that has been made. -/
def Made (t : Table) : Prop :=
  ∀ pattern s, t.subscriptionsByPattern.get? pattern = some s → s < t.stateCount

end Table

namespace Client

/-- The restore has begun to resubscribe, and has neither committed nor given up. -/
def midRestore (c : Client) : Bool :=
  match c.restore with
  | .resubscribing .. => true
  | .rollingBack .. => true
  | _ => false

/-- The maps during a restore: the routes restored so far are found under their new
ids, the others under their old ones. -/
structure Partway (t : Table) (todo restored : List (String × Nat)) : Prop where
  nodup : ((restored ++ todo).map Prod.fst).Nodup
  made : ∀ e ∈ restored ++ todo, e.2 < t.stateCount
  index : ∀ id pattern, t.patternsBySubId.get? id = some pattern ↔
    ∃ s, (pattern, s) ∈ restored ++ todo ∧ t.subId s = id

/-- What holds in a run of the lease client whose restores assign ids as
`KeepsIndex` demands. -/
structure Indexed (c : Client) : Prop where
  made : c.store.table.Made
  inverse : c.midRestore = false → c.store.table.Inverse
  partway : ∀ todo restored r, c.restore = .resubscribing todo restored r →
    Partway c.store.table todo restored
  forward : ∀ todo r, c.restore ≠ .rollingBack todo r

/-- The index does not hold `id` for a pattern other than `pattern`. -/
def FreeFor (c : Client) (id : Nat) (pattern : String) : Prop :=
  ∀ other ∈ c.store.patternsBySubId.get? id, other = pattern

instance (c : Client) (id : Nat) (pattern : String) : Decidable (c.FreeFor id pattern) := by
  unfold FreeFor
  infer_instance

/-- An id is assigned only if the index does not hold it for another route; no route
is entered or removed in the middle of a restore; no resubscribe fails. -/
def KeepsIndex (c : Client) (e : Event) : Prop :=
  (∀ x ∈ c.registering lease e, c.midRestore = false ∧ c.FreeFor x.2.1 x.1) ∧
  (∀ x ∈ c.unregistering lease e, c.midRestore = false) ∧
  match e, c.restore with
  | .restoreContinues, .resubscribing ((pattern, _) :: _) _ r =>
    match (c.requests r).phase with
    | .subscribed id => c.FreeFor id pattern
    | phase => phase.isSettled = false
  | _, _ => True

instance (c : Client) (e : Event) : Decidable (c.KeepsIndex e) := by
  unfold KeepsIndex
  have : Decidable (match e, c.restore with
      | .restoreContinues, .resubscribing ((pattern, _) :: _) _ r =>
        match (c.requests r).phase with
        | .subscribed id => c.FreeFor id pattern
        | phase => phase.isSettled = false
      | _, _ => True) := by
    split
    · split <;> infer_instance
    · infer_instance
  infer_instance

theorem indexed_create : create.Indexed where
  made := fun _ _ h => by simp [create, Store.empty, Store.table] at h
  inverse := fun _ => by
    intro id pattern
    simp [create, Store.empty, Store.table]
  partway := fun _ _ _ h => by cases h
  forward := fun _ _ h => by cases h

section Step

variable {c c' : Client} {e : Event}

/-- Nothing that the maps depend on changes. -/
theorem Indexed.of_same (h : c.Indexed) (hsame : Same c c') : c'.Indexed := by
  obtain ⟨hcontrol, htable⟩ := hsame
  have hrestore : c'.restore = c.restore := congrArg Control.restore hcontrol
  have hmid : c'.midRestore = c.midRestore := by simp only [midRestore, hrestore]
  refine ⟨?_, ?_, ?_, ?_⟩
  · rw [htable]
    exact h.made
  · rw [htable, hmid]
    exact h.inverse
  · rw [htable, hrestore]
    exact h.partway
  · rw [hrestore]
    exact h.forward

end Step

end Client

namespace Table

variable {t : Store} {pattern : String} {id s : Nat}

theorem Made.register (h : t.table.Made) : (t.register pattern id).table.Made := by
  intro q k hq
  simp only [Store.table, Store.register, Store.make, OrderedMap.get?_set] at hq
  split at hq
  · cases hq
    exact Nat.lt_succ_self _
  · exact Nat.lt_succ_of_lt (h q k hq)

theorem Made.unregister (h : t.table.Made) : (t.unregister pattern s).table.Made := by
  intro q k hq
  simp only [Store.table, Store.unregister, OrderedMap.get?_delete] at hq
  split at hq
  · cases hq
  · exact h q k hq

/-- A new entry under an id that no other pattern has. -/
theorem Inverse.register (h : t.table.Inverse) (hmade : t.table.Made)
    (hnone : t.subscriptionsByPattern.get? pattern = none)
    (hfree : ∀ other, t.patternsBySubId.get? id = some other → other = pattern) :
    (t.register pattern id).table.Inverse := by
  intro k q
  simp only [Store.table, Store.register, Store.make, OrderedMap.get?_set]
  have hunused : t.patternsBySubId.get? id = none := by
    cases hget : t.patternsBySubId.get? id with
    | none => rfl
    | some other =>
        obtain rfl := hfree other hget
        obtain ⟨s, hs, -⟩ := (h id other).mp hget
        exact absurd hs (by simp [Store.table, hnone])
  by_cases hq : q = pattern
  · subst hq
    have hother : t.patternsBySubId.get? k ≠ some q := fun hget => by
      obtain ⟨s, hs, -⟩ := (h k q).mp hget
      exact absurd hs (by simp [Store.table, hnone])
    by_cases hk : k = id
    · simp [hk]
    · simp only [hk, if_false, if_true, Option.some.injEq, exists_eq_left', Function.update_self]
      exact iff_of_false hother fun heq => hk heq.symm
  · have hold : ∀ s', t.subscriptionsByPattern.get? q = some s' →
        Function.update t.states t.stateCount ⟨pattern, id, [], none⟩ s' = t.states s' :=
      fun s' hs' =>
      Function.update_of_ne (Nat.ne_of_lt (hmade q s' hs')) ..
    have hiff := h k q
    simp only [Store.table] at hiff
    simp only [hq, if_false]
    by_cases hk : k = id
    · subst hk
      simp only [if_true, Option.some.injEq]
      rw [hunused] at hiff
      refine iff_of_false (Ne.symm hq) ?_
      rintro ⟨s', hs', hid⟩
      rw [hold s' hs'] at hid
      cases hiff.mpr ⟨s', hs', hid⟩
    · simp only [hk, if_false]
      rw [hiff]
      constructor
      · rintro ⟨s', hs', hid⟩
        exact ⟨s', hs', by rw [hold s' hs']; exact hid⟩
      · rintro ⟨s', hs', hid⟩
        exact ⟨s', hs', by rw [hold s' hs'] at hid; exact hid⟩

/-- An entry leaves both maps. -/
theorem Inverse.unregister (h : t.table.Inverse)
    (hs : t.subscriptionsByPattern.get? pattern = some s) :
    (t.unregister pattern s).table.Inverse := by
  intro k q
  have hpattern := (h (t.states s).subId pattern).mpr ⟨s, hs, rfl⟩
  have hiff := h k q
  simp only [Store.table] at hiff hpattern
  simp only [Store.table, Store.unregister, OrderedMap.get?_delete]
  by_cases hq : q = pattern
  · subst hq
    by_cases hk : k = (t.states s).subId
    · simp [hk]
    · simp only [hk, if_false, if_true]
      refine iff_of_false (fun hget => ?_) fun hex => ?_
      · obtain ⟨s', hs', hid⟩ := hiff.mp hget
        rw [hs] at hs'
        exact hk ((Option.some.inj hs') ▸ hid.symm)
      · obtain ⟨s', hnone, -⟩ := hex
        cases hnone
  · simp only [hq, if_false]
    by_cases hk : k = (t.states s).subId
    · subst hk
      simp only [if_true]
      rw [hpattern] at hiff
      refine iff_of_false (fun hnone => by cases hnone) fun hex => hq ?_
      exact (Option.some.inj (hiff.mpr hex)).symm
    · simp only [hk, if_false]
      exact hiff

end Table

namespace Client

section Restore

variable {c c' : Client} {todo restored : List (String × Nat)} {pattern : String} {s id : Nat}

/-- Before the first answer every route is found under its old id. -/
theorem Partway.begin {t : Table} (hinverse : t.Inverse) (hmade : t.Made) :
    Partway t t.subscriptionsByPattern.entries [] where
  nodup := t.subscriptionsByPattern.nodup
  made := fun e he => hmade e.1 e.2 (OrderedMap.get?_eq_some.mpr he)
  index := fun k q => by
    rw [hinverse k q]
    simp only [OrderedMap.get?_eq_some, List.nil_append]

/-- A pattern occurs once among the entries of a restore. -/
theorem Partway.unique {t : Table} (h : Partway t todo restored) {s₁ s₂ : Nat}
    (h₁ : (pattern, s₁) ∈ restored ++ todo) (h₂ : (pattern, s₂) ∈ restored ++ todo) : s₁ = s₂ := by
  have hmap : OrderedMap.get? ⟨restored ++ todo, h.nodup⟩ pattern = some s₁ :=
    OrderedMap.get?_eq_some.mpr h₁
  rw [OrderedMap.get?_eq_some.mpr h₂] at hmap
  exact (Option.some.inj hmap).symm

/-- **One answer.** The route leaves its old id and is found under its new one, which
no other route has. -/
theorem Partway.restoreEntry (h : Partway c.store.table ((pattern, s) :: todo) restored)
    (hfree : c.FreeFor id pattern) :
    Partway (c.restoreEntry lease pattern s id).store.table todo
      (restored ++ [(pattern, c.store.stateCount)]) := by
  have hcount : (c.restoreEntry lease pattern s id).store.table.stateCount =
      c.store.stateCount + 1 := rfl
  have hold : ∀ e ∈ restored ++ (pattern, s) :: todo,
      (c.restoreEntry lease pattern s id).store.table.subId e.2 = c.store.table.subId e.2 :=
    fun e he => by
      have hne : e.2 ≠ c.store.stateCount := Nat.ne_of_lt (h.made e he)
      simp [Client.restoreEntry, setStore, Store.table, Store.make, lease,
        Function.update_of_ne hne]
  have hnew : (c.restoreEntry lease pattern s id).store.table.subId c.store.stateCount = id := by
    simp [Client.restoreEntry, setStore, Store.table, Store.make, lease]
  -- the second map has lost the old id and got the new one
  have hget : ∀ k, (c.restoreEntry lease pattern s id).store.table.patternsBySubId.get? k =
      if k = id then some pattern
      else if k = (c.store.states s).subId then none else c.store.patternsBySubId.get? k := by
    intro k
    simp [Client.restoreEntry, setStore, Store.table, Store.make, lease, OrderedMap.get?_set,
      OrderedMap.get?_delete]
  have hkeys : (restored ++ [(pattern, c.store.stateCount)] ++ todo).map Prod.fst =
      (restored ++ (pattern, s) :: todo).map Prod.fst := by simp
  have hmem : ∀ {q k}, q ≠ pattern → ((q, k) ∈ restored ++ [(pattern, c.store.stateCount)] ++ todo ↔
      (q, k) ∈ restored ++ (pattern, s) :: todo) := by
    intro q k hq
    simp [hq]
  have hnodup : ((restored ++ [(pattern, c.store.stateCount)] ++ todo).map Prod.fst).Nodup :=
    hkeys ▸ h.nodup
  have hown : ∀ {k}, (pattern, k) ∈ restored ++ [(pattern, c.store.stateCount)] ++ todo ↔
      k = c.store.stateCount := by
    intro k
    have hhere : (pattern, c.store.stateCount) ∈
        restored ++ [(pattern, c.store.stateCount)] ++ todo := by simp
    constructor
    · intro hk
      have hmap : OrderedMap.get? ⟨_, hnodup⟩ pattern = some k := OrderedMap.get?_eq_some.mpr hk
      rw [OrderedMap.get?_eq_some.mpr hhere] at hmap
      exact (Option.some.inj hmap).symm
    · rintro rfl
      exact hhere
  have hthis : (pattern, s) ∈ restored ++ (pattern, s) :: todo := by simp
  have hindex := h.index
  refine ⟨hnodup, fun e he => ?_, fun k q => ?_⟩
  · rw [hcount]
    by_cases hq : e.1 = pattern
    · have : (pattern, e.2) ∈ restored ++ [(pattern, c.store.stateCount)] ++ todo := hq ▸ he
      rw [hown.mp this]
      exact Nat.lt_succ_self _
    · exact Nat.lt_succ_of_lt (h.made e ((hmem hq).mp he))
  · rw [hget]
    by_cases hq : q = pattern
    · -- the entry that has been restored: found under its new id, and no other
      subst hq
      simp only [hown, exists_eq_left, hnew]
      by_cases hk : k = id
      · simp [hk]
      · simp only [hk, if_false]
        refine iff_of_false (fun hsome => ?_) fun heq => hk heq.symm
        split at hsome
        · cases hsome
        · rename_i hne
          obtain ⟨s', hs', hid⟩ := (hindex k q).mp hsome
          rw [h.unique hs' hthis] at hid
          exact hne hid.symm
    · -- any other entry: neither the old nor the new id is its
      simp only [hmem hq]
      have hstates : (∃ k', (q, k') ∈ restored ++ (pattern, s) :: todo ∧
          (c.restoreEntry lease pattern s id).store.table.subId k' = k) ↔
            c.store.patternsBySubId.get? k = some q := by
        rw [show c.store.patternsBySubId.get? k = some q ↔ _ from hindex k q]
        constructor
        · rintro ⟨k', hk', hid⟩
          exact ⟨k', hk', by rw [← hold _ hk']; exact hid⟩
        · rintro ⟨k', hk', hid⟩
          exact ⟨k', hk', by rw [hold _ hk']; exact hid⟩
      rw [hstates]
      by_cases hk : k = id
      · subst hk
        simp only [if_true, Option.some.injEq]
        exact iff_of_false (Ne.symm hq) fun hsome => hq (hfree q hsome)
      · simp only [hk, if_false]
        split
        · rename_i hold'
          refine iff_of_false (fun hnone => by cases hnone) fun hsome => hq ?_
          have hpattern := (hindex (c.store.states s).subId pattern).mpr ⟨s, hthis, rfl⟩
          rw [hold', show c.store.patternsBySubId.get? _ = _ from hpattern] at hsome
          exact (Option.some.inj hsome).symm
        · exact .rfl

/-- The next resubscribe, or the commit. -/
theorem Partway.next (h : Partway c.store.table todo restored) (hmade : c.store.table.Made) :
    (c.resubscribeNext todo restored).Indexed := by
  unfold resubscribeNext
  split
  · refine ⟨hmade, nofun, ?_, nofun⟩
    rintro todo' restored' r heq
    cases heq
    exact h
  · have hnodup : (restored.map Prod.fst).Nodup := by simpa using h.nodup
    have hget : ∀ q k,
        (restored.foldl (fun m e => m.set e.1 e.2) ∅ : OrderedMap String Nat).get? q =
        some k ↔ (q, k) ∈ restored := fun q k => OrderedMap.get?_foldl_set_empty hnodup
    refine ⟨fun q k hq => ?_, fun _ k q => ?_, nofun, nofun⟩
    · exact h.made (q, k) (by simpa using (hget q k).mp hq)
    · have hindex := h.index k q
      simp only [List.append_nil] at hindex
      refine hindex.trans (exists_congr fun k' => and_congr_left fun _ => ?_)
      exact (hget q k').symm

theorem Indexed.restoreBegins (h : c.Indexed) (hpending : c.restore = .pending) :
    (c.restoreBegins lease).Indexed := by
  have hinverse := h.inverse (by simp [midRestore, hpending])
  unfold Client.restoreBegins
  split
  · exact ⟨h.made, fun _ => hinverse, nofun, nofun⟩
  · exact (Partway.begin hinverse h.made).next h.made

theorem Indexed.restoreContinues (h : c.Indexed) (hK : c.KeepsIndex .restoreContinues)
    (hs : c.restoreContinues lease = some c') : c'.Indexed := by
  have hK := hK.2.2
  unfold Client.restoreContinues at hs
  split at hs
  · rename_i pattern s todo restored r hrestore
    have hpart := h.partway _ _ _ hrestore
    simp only [hrestore] at hK
    split at hs
    · rename_i id hphase
      simp only [hphase] at hK
      cases hs
      exact (hpart.restoreEntry hK).next fun q k hq => Nat.lt_succ_of_lt (h.made q k hq)
    · cases hs
    · cases hs
    · rename_i hsubscribed hunsent hsent
      cases hphase : (c.requests r).phase with
      | unsent => exact absurd hphase hunsent
      | sent => exact absurd hphase hsent
      | subscribed id => exact absurd hphase (hsubscribed id)
      | unsubscribed => simp [hphase, RequestPhase.isSettled] at hK
      | rejected => simp [hphase, RequestPhase.isSettled] at hK
  · rename_i todo r hrestore
    exact absurd hrestore (h.forward _ _)
  · rename_i hrestore
    cases hs
    have hinverse := h.inverse (by simp [midRestore, hrestore])
    exact ⟨h.made, fun _ => hinverse, nofun, nofun⟩
  · cases hs

end Restore

section Runs

variable {c c' : Client} {e : Event}

/-- Both maps change outside a restore, and stay inverse. -/
theorem Indexed.setStore (h : c.Indexed) (hmid : c.midRestore = false) {t : Store}
    (hmade : t.table.Made) (hinverse : t.table.Inverse) : (c.setStore t).Indexed := by
  refine ⟨hmade, fun _ => hinverse, ?_, h.forward⟩
  intro todo restored r hrestore
  have hrestore : c.restore = .resubscribing todo restored r := hrestore
  simp [midRestore, hrestore] at hmid

theorem Indexed.local (h : c.Indexed) (hK : c.KeepsIndex e) (hmove : Local lease c e c') :
    c'.Indexed := by
  cases hmove with
  | same _ _ hsame => exact h.of_same hsame
  | registers pattern subId r hregister hsame =>
      obtain ⟨hmid, hfree⟩ := hK.1 _ hregister
      have hinverse := (h.inverse hmid).register h.made (registering_none rfl hregister) hfree
      exact (h.setStore hmid h.made.register hinverse).of_same hsame
  | unregisters pattern s hunregister hsame =>
      have hmid := hK.2.1 _ hunregister
      have hinverse := (h.inverse hmid).unregister (unregistering_some hunregister)
      exact (h.setStore hmid h.made.unregister hinverse).of_same hsame

/-- What the connection and the broker do leaves the table and the listener alone,
until a new session calls the listener. -/
theorem Indexed.of_store (h : c.Indexed) (hstore : c'.store = c.store)
    (hrestore : c'.restore = c.restore ∨ c'.restore = .pending ∧ c.restore = .idle) :
    c'.Indexed := by
  rcases hrestore with hrestore | ⟨hpending, hidle⟩
  · have hmid : c'.midRestore = c.midRestore := by simp only [midRestore, hrestore]
    refine ⟨?_, ?_, ?_, ?_⟩
    · rw [hstore]
      exact h.made
    · rw [hstore, hmid]
      exact h.inverse
    · rw [hstore, hrestore]
      exact h.partway
    · rw [hrestore]
      exact h.forward
  · refine ⟨?_, fun _ => ?_, ?_, ?_⟩
    · rw [hstore]
      exact h.made
    · rw [hstore]
      exact h.inverse (by simp [midRestore, hidle])
    · rw [hpending]
      exact nofun
    · rw [hpending]
      exact nofun

theorem Indexed.step (h : c.Indexed) (hK : c.KeepsIndex e) (hs : c.step lease e = some c') :
    c'.Indexed := by
  by_cases he : e.isLocal = true
  · exact h.local hK (step_local he hs)
  · by_cases hbegins : e = .restoreBegins
    · subst hbegins
      obtain ⟨hpending, ⟨⟩⟩ := Option.ite_none_right_eq_some.mp hs
      exact h.restoreBegins hpending
    · by_cases hcontinues : e = .restoreContinues
      · subst hcontinues
        exact h.restoreContinues hK hs
      · obtain ⟨hstore, hrestore⟩ :=
          step_remote (by simpa using he) hbegins hcontinues hs
        exact h.of_store hstore hrestore

/-- **The index of the lease client.** -/
theorem inverse_run {es : List Event} {c : Client}
    (hguard : (machine lease).Guarded KeepsIndex create es)
    (hrun : (machine lease).run es = some c) (hmid : c.midRestore = false) :
    c.store.table.Inverse := by
  have hindexed : c.Indexed := Machine.Guarded.invariant (M := machine lease) indexed_create
    (fun _ _ _ h hK hs => h.step hK hs) hguard hrun
  exact hindexed.inverse hmid

/-- Two routes with the ids 1 and 2 are restored, in that order, under `first` and `second`. -/
def twoRoutesRun (first second : Nat) : List Event :=
  [.subscribe "lease://acme/jobs/a" false, .sent 0, .subscribed 0 1, .flightSettles 0,
    .callContinues 0, .subscribe "lease://acme/jobs/b" false, .sent 1, .subscribed 1 2,
    .flightSettles 1, .callContinues 1, .lost, .connected, .restoreBegins, .sent 2,
    .subscribed 2 first, .restoreContinues, .sent 3, .subscribed 3 second, .restoreContinues,
    .restoreContinues, .restored]

theorem inverse_twoRoutes : ∃ c, (machine lease).run (twoRoutesRun 1 3) = some c ∧
    c.midRestore = false ∧ c.store.table.Inverse := by
  have hguard : (machine lease).Guarded KeepsIndex create (twoRoutesRun 1 3) := by decide +kernel
  obtain ⟨c, hrun, hmid⟩ : ∃ c, (machine lease).run (twoRoutesRun 1 3) = some c ∧
      c.midRestore = false := ⟨_, rfl, by decide +kernel⟩
  exact ⟨c, hrun, hmid, inverse_run hguard hrun hmid⟩

/-- The new session gives the first route the id 2, which the second one had, and the
second route the id 1. -/
theorem not_forall_inverse : ∃ c, (machine lease).run (twoRoutesRun 2 1) = some c ∧
    c.midRestore = false ∧ ¬ c.store.table.Inverse := by
  obtain ⟨c, hrun, hmid, hindex, s, hs, hid⟩ :
      ∃ c, (machine lease).run (twoRoutesRun 2 1) = some c ∧
      c.midRestore = false ∧ c.store.table.patternsBySubId.get? 2 = none ∧
        ∃ s, c.store.table.subscriptionsByPattern.get? "lease://acme/jobs/a" = some s ∧
          c.store.table.subId s = 2 :=
    ⟨_, rfl, by decide +kernel, by decide +kernel, 2, by decide +kernel, by decide +kernel⟩
  refine ⟨c, hrun, hmid, fun hinverse => ?_⟩
  rw [(hinverse 2 "lease://acme/jobs/a").mpr ⟨s, hs, hid⟩] at hindex
  cases hindex

end Runs

end Client

end FitzTs.Subscriptions
