import FitzTs.Domains.Subscriptions.Objects
/-!
# FitzTs.Domains.Subscriptions.BestEffort

What a restore leaves, for every outcome of its resubscribe requests.

`restoreMapEntriesAtomically` goes through the entries in order and commits at the end.
The first request that fails ends it: the registrations made so far are taken back, the
entries after it are not asked for, and the table keeps every entry under its old id.

## Main results

* `restores_atomically` — a restore puts every entry under its new id, or, if one request fails,
  leaves the table as it was and takes back what it had registered.
* `bestEffort_iff` — after a restore every entry is what the outcome of its own request makes
  it, exactly if all requests succeed, with ids that do not undo one another.
-/

namespace FitzTs.Subscriptions

/-! ### The events of a restore -/

section Events

variable (outcome : String → Option Nat) (confirmed : Nat → Bool)

/-- The rollback of `n` entries, with requests from number `r` on. -/
def rollbackEvents : Nat → Nat → List Event
  | 0, _ => []
  | n + 1, r =>
    [.sent r, if confirmed r then .unsubscribed r else .rejected r, .restoreContinues] ++
      rollbackEvents n (r + 1)

/-- The resubscribe requests of the patterns that are left, from number `r` on, when `restored`
ones have succeeded. `outcome` gives the id the session assigns, if the request succeeds. -/
def resubscribeEvents : List String → Nat → Nat → List Event
  | [], _, _ => [.restoreContinues]
  | pattern :: todo, restored, r =>
    match outcome pattern with
    | some subId =>
      [.sent r, .subscribed r subId, .restoreContinues] ++
        resubscribeEvents todo (restored + 1) (r + 1)
    | none =>
      [.sent r, .rejected r, .restoreContinues] ++ rollbackEvents confirmed restored (r + 1)

end Events

namespace Client

variable (v : Variant) (outcome : String → Option Nat)

/-- The reconnect listener, from its call to its end. -/
def restoreEvents (confirmed : Nat → Bool) (c : Client) : List Event :=
  match c.store.subscriptionsByPattern.keys with
  | [] => [.restoreBegins]
  | patterns => .restoreBegins :: resubscribeEvents outcome confirmed patterns 0 c.requestCount

/-- **Best effort**: an entry whose request succeeded is active with the id the session assigned
and receives the notifications under it, with the handlers it had; an entry whose request failed
is dropped, and the failure is reported. -/
def BestEffort (c c' : Client) : Prop :=
  ∀ pattern s, c.entry? pattern = some s →
    match outcome pattern with
    | some subId => ∃ s', c'.entry? pattern = some s' ∧ (c'.store.states s').subId = subId ∧
        (c'.store.states s').handlers = (c.store.states s).handlers ∧
        c'.store.resolve subId = some s'
    | none => c'.entry? pattern = none ∧ c'.restoreFailed = true

/-- Every resubscribe succeeds, each with an id of its own; where the index is rewritten entry by
entry, the id of an entry is not the old id of a later one. -/
def Restorable (c : Client) : Prop :=
  (∀ x ∈ c.store.subscriptionsByPattern.entries, (outcome x.1).isSome) ∧
    c.store.subscriptionsByPattern.entries.Pairwise fun x y => outcome x.1 ≠ outcome y.1 ∧
      (v.indexesEachEntry = true → outcome x.1 ≠ some (c.store.states y.2).subId)

instance (c : Client) : Decidable (c.Restorable v outcome) := by
  unfold Restorable
  infer_instance

/-- The registration that the session makes of an entry, if its request succeeds. -/
def registrationOf (c : Client) (x : String × Nat) : Nat × Nat × String :=
  (c.session, (outcome x.1).getD 0, x.1)

/-- The entries before the first whose request fails. -/
def restoredFirst (c : Client) : List (String × Nat) :=
  c.store.subscriptionsByPattern.entries.takeWhile fun x => (outcome x.1).isSome

/-- **All**: each entry has a new object, with the id the session assigned and the handlers it had.
-/
structure AllRestored (c c' : Client) : Prop where
  patterns : c'.store.subscriptionsByPattern.keys = c.store.subscriptionsByPattern.keys
  entries : ∀ pattern s, c.entry? pattern = some s → ∃ subId s', outcome pattern = some subId ∧
    c'.entry? pattern = some s' ∧ (c'.store.states s').subId = subId ∧
      (c'.store.states s').handlers = (c.store.states s).handlers
  /-- Under ids that do not undo one another, notifications find their entries. -/
  receives : c.Restorable v outcome → ∀ pattern s', c'.entry? pattern = some s' →
    c'.store.resolve (c'.store.states s').subId = some s'
  reported : c'.restoreFailed = c.restoreFailed
  requestCount :
    c'.requestCount = c.requestCount + c.store.subscriptionsByPattern.entries.length
  assigned : c'.assigned =
    c.assigned ++ c.store.subscriptionsByPattern.entries.map (c.registrationOf outcome)
  unsubscribed : c'.unsubscribed = c.unsubscribed

/-- **Nothing**: the table and its objects are as they were, the failure is reported, no entry
after the one that failed was asked for, and UNSUBSCRIBE went out, in reverse order, for each
registration made. -/
structure RolledBack (c c' : Client) : Prop where
  table : c'.store.subscriptionsByPattern = c.store.subscriptionsByPattern
  objects : ∀ s < c.store.stateCount, c'.store.states s = c.store.states s
  index : v.indexesEachEntry = false → c'.store.patternsBySubId = c.store.patternsBySubId
  reported : c'.restoreFailed = true
  requestCount : c'.requestCount = c.requestCount + (2 * (c.restoredFirst outcome).length + 1)
  assigned : c'.assigned =
    c.assigned ++ (c.restoredFirst outcome).map (c.registrationOf outcome)
  unsubscribed : c'.unsubscribed =
    c.unsubscribed ++ (c.restoredFirst outcome).reverse.map (c.registrationOf outcome)

variable {v outcome} {c c' c₀ : Client} {confirmed : Nat → Bool}

/-! ### One round trip -/

/-- What a round trip leaves as it is. -/
structure RoundTrip (c c' : Client) : Prop where
  store : c'.store = c.store
  link : c'.link = c.link
  requestCount : c'.requestCount = c.requestCount
  session : c'.session = c.session
  restoreFailed : c'.restoreFailed = c.restoreFailed

theorem RoundTrip.trans {c₁ c₂ c₃ : Client} (h₁ : RoundTrip c₁ c₂) (h₂ : RoundTrip c₂ c₃) :
    RoundTrip c₁ c₃ :=
  ⟨h₂.store.trans h₁.store, h₂.link.trans h₁.link, h₂.requestCount.trans h₁.requestCount,
    h₂.session.trans h₁.session, h₂.restoreFailed.trans h₁.restoreFailed⟩

/-- What is recorded when a frame goes out. -/
def withdrawals (session : Nat) : Frame → List (Nat × Nat × String)
  | .subscribe _ => []
  | .unsubscribe pattern subId => [(session, subId, pattern)]

/-- A request of the listener goes out. -/
theorem step_sent_restoring {r : Nat} (hlink : c.link = .restoring) (hlt : r < c.requestCount)
    (hown : (c.requests r).restoring = true) (hunsent : (c.requests r).phase = .unsent) :
    ∃ c₁, c.step v (.sent r) = some c₁ ∧ RoundTrip c c₁ ∧ c₁.restore = c.restore ∧
      (c₁.requests r).frame = (c.requests r).frame ∧ (c₁.requests r).phase = .sent ∧
      c₁.assigned = c.assigned ∧
      c₁.unsubscribed = c.unsubscribed ++ withdrawals c.session (c.requests r).frame := by
  have hsend : c.mayBeSent r = true := by simp [mayBeSent, hlt, hunsent, hown, hlink]
  refine ⟨c.send r, if_pos hsend, ?_⟩
  unfold send
  dsimp only
  split
  · rename_i pattern subId hframe
    refine ⟨⟨rfl, rfl, rfl, rfl, rfl⟩, rfl, by simp [setRequest], by simp [setRequest], rfl, ?_⟩
    rw [hframe]
    rfl
  · rename_i pattern hframe
    refine ⟨⟨rfl, rfl, rfl, rfl, rfl⟩, rfl, by simp [setRequest], by simp [setRequest], rfl, ?_⟩
    rw [hframe]
    exact (List.append_nil _).symm

section RoundTrips

variable {pattern : String} {s r : Nat} {todo restored : List (String × Nat)}

theorem run_subscribed (subId : Nat) (hlink : c.link = .restoring) (hlt : r < c.requestCount)
    (hown : (c.requests r).restoring = true) (hunsent : (c.requests r).phase = .unsent)
    (hframe : (c.requests r).frame = .subscribe pattern)
    (hrestore : c.restore = .resubscribing ((pattern, s) :: todo) restored r) :
    ∃ c₂, RoundTrip c c₂ ∧ c₂.assigned = c.assigned ++ [(c.session, subId, pattern)] ∧
      c₂.unsubscribed = c.unsubscribed ∧
      (machine v).runFrom c [.sent r, .subscribed r subId, .restoreContinues] =
        some ((c₂.restoreEntry v pattern s subId).resubscribeNext todo
          (restored ++ [(pattern, c.store.stateCount)])) := by
  obtain ⟨c₁, hsent, hround, hrestore₁, hframe₁, hphase₁, hassigned₁, hunsubscribed₁⟩ :=
    step_sent_restoring (v := v) hlink hlt hown hunsent
  rw [hframe] at hframe₁ hunsubscribed₁
  rw [hrestore] at hrestore₁
  have hsubscribed :
      c₁.step v (.subscribed r subId) = some (c₁.brokerSubscribes r subId pattern) := by
    simp [Client.step, hframe₁, hphase₁]
  have hcontinues : (c₁.brokerSubscribes r subId pattern).step v .restoreContinues =
      some (((c₁.brokerSubscribes r subId pattern).restoreEntry v pattern s subId).resubscribeNext
        todo (restored ++ [(pattern, c.store.stateCount)])) := by
    simp [Client.step, restoreContinues, brokerSubscribes, setRequest, hrestore₁, hround.store]
  refine ⟨c₁.brokerSubscribes r subId pattern, hround.trans ⟨rfl, rfl, rfl, rfl, rfl⟩, ?_,
    hunsubscribed₁.trans (List.append_nil _), ?_⟩
  · rw [← hround.session, ← hassigned₁]
    rfl
  · exact Machine.runFrom_cons.mpr ⟨_, hsent, Machine.runFrom_cons.mpr ⟨_, hsubscribed,
      Machine.runFrom_cons.mpr ⟨_, hcontinues, rfl⟩⟩⟩

/-- An open request fails. -/
theorem step_rejected (hlt : r < c.requestCount) (hopen : (c.requests r).phase.isSettled = false) :
    c.step v (.rejected r) = some (c.setRequest r { c.requests r with phase := .rejected }) :=
  if_pos ⟨hlt, by simp [hopen]⟩

theorem run_refused (hlink : c.link = .restoring) (hlt : r < c.requestCount)
    (hown : (c.requests r).restoring = true) (hunsent : (c.requests r).phase = .unsent)
    (hframe : (c.requests r).frame = .subscribe pattern)
    (hrestore : c.restore = .resubscribing ((pattern, s) :: todo) restored r) :
    ∃ c₂, RoundTrip c c₂ ∧ c₂.assigned = c.assigned ∧ c₂.unsubscribed = c.unsubscribed ∧
      (machine v).runFrom c [.sent r, .rejected r, .restoreContinues] =
        some (c₂.rollbackNext v restored.reverse) := by
  obtain ⟨c₁, hsent, hround, hrestore₁, -, hphase₁, hassigned₁, hunsubscribed₁⟩ :=
    step_sent_restoring (v := v) hlink hlt hown hunsent
  rw [hframe] at hunsubscribed₁
  rw [hrestore] at hrestore₁
  have hrejected := step_rejected (v := v) (c := c₁) (hround.requestCount ▸ hlt)
    (by simp [hphase₁, RequestPhase.isSettled])
  have hcontinues : (c₁.setRequest r { c₁.requests r with phase := .rejected }).step v
      .restoreContinues = some ((c₁.setRequest r { c₁.requests r with
        phase := .rejected }).rollbackNext v restored.reverse) := by
    simp [Client.step, restoreContinues, setRequest, hrestore₁]
  refine ⟨c₁.setRequest r { c₁.requests r with phase := .rejected },
    hround.trans ⟨rfl, rfl, rfl, rfl, rfl⟩, hassigned₁,
    hunsubscribed₁.trans (List.append_nil _), ?_⟩
  exact Machine.runFrom_cons.mpr ⟨_, hsent, Machine.runFrom_cons.mpr ⟨_, hrejected,
    Machine.runFrom_cons.mpr ⟨_, hcontinues, rfl⟩⟩⟩

/-- A round trip of the rollback, whatever comes of it. -/
theorem run_rollbackRound {x : String × Nat} {subId : Nat} (hlink : c.link = .restoring)
    (hlt : r < c.requestCount) (hown : (c.requests r).restoring = true)
    (hunsent : (c.requests r).phase = .unsent)
    (hframe : (c.requests r).frame = .unsubscribe pattern subId)
    (hrestore : c.restore = .rollingBack (x :: todo) r) (confirmed : Bool) :
    ∃ c₂, RoundTrip c c₂ ∧ c₂.assigned = c.assigned ∧
      c₂.unsubscribed = c.unsubscribed ++ [(c.session, subId, pattern)] ∧
      (machine v).runFrom c
        [.sent r, if confirmed then .unsubscribed r else .rejected r, .restoreContinues] =
          some (c₂.rollbackNext v todo) := by
  obtain ⟨c₁, hsent, hround, hrestore₁, hframe₁, hphase₁, hassigned₁, hunsubscribed₁⟩ :=
    step_sent_restoring (v := v) hlink hlt hown hunsent
  rw [hframe] at hframe₁ hunsubscribed₁
  rw [hrestore] at hrestore₁
  obtain ⟨c₂, hsettles, hround₂, hrestore₂, hsettled, hassigned₂, hunsubscribed₂⟩ : ∃ c₂, c₁.step v
      (if confirmed then .unsubscribed r else .rejected r) = some c₂ ∧ RoundTrip c₁ c₂ ∧
        c₂.restore = c₁.restore ∧ (c₂.requests r).phase.isSettled = true ∧
        c₂.assigned = c₁.assigned ∧ c₂.unsubscribed = c₁.unsubscribed := by
    -- the rollback does not look at the answer
    cases confirmed with
    | true =>
        refine ⟨c₁.brokerUnsubscribes v r subId pattern, ?_, ⟨rfl, rfl, rfl, rfl, rfl⟩, rfl, ?_,
          rfl, rfl⟩
        · simp [Client.step, hframe₁, hphase₁]
        · simp [brokerUnsubscribes, setRequest, RequestPhase.isSettled]
    | false =>
        refine ⟨_, step_rejected (hround.requestCount ▸ hlt)
          (by simp [hphase₁, RequestPhase.isSettled]), ⟨rfl, rfl, rfl, rfl, rfl⟩, rfl, ?_, rfl, rfl⟩
        simp [setRequest, RequestPhase.isSettled]
  rw [hrestore₁] at hrestore₂
  have hcontinues : c₂.step v .restoreContinues = some (c₂.rollbackNext v todo) := by
    simp [Client.step, restoreContinues, hrestore₂, hsettled]
  refine ⟨c₂, hround.trans hround₂, hassigned₂.trans hassigned₁,
    hunsubscribed₂.trans hunsubscribed₁, ?_⟩
  exact Machine.runFrom_cons.mpr ⟨_, hsent, Machine.runFrom_cons.mpr ⟨_, hsettles,
    Machine.runFrom_cons.mpr ⟨_, hcontinues, rfl⟩⟩⟩

end RoundTrips

/-! ### The rollback -/

/-- The registration that the rollback takes back for a restored entry. -/
def registered (c : Client) (y : String × Nat) : Nat × Nat × String :=
  (c.session, (c.store.states y.2).subId, y.1)

/-- The rollback of the restored entries `todo` has come to its end. -/
structure TakenBack (v : Variant) (todo : List (String × Nat)) (c c' : Client) : Prop where
  idle : c'.restore = .idle
  reported : c'.restoreFailed = true
  table : c'.store.subscriptionsByPattern = c.store.subscriptionsByPattern
  states : c'.store.states = c.store.states
  index : v.indexesEachEntry = false → c'.store.patternsBySubId = c.store.patternsBySubId
  requestCount : c'.requestCount = c.requestCount + todo.length
  assigned : c'.assigned = c.assigned
  unsubscribed : c'.unsubscribed = c.unsubscribed ++ todo.map c.registered

/-- The index of the lease client forgets the id of an entry that is taken back. -/
def forgetId (v : Variant) (c : Client) (subId : Nat) : Client :=
  if v.indexesEachEntry then c.setStore { c.store with
    patternsBySubId := c.store.patternsBySubId.delete subId } else c

/-- Nothing else changes. -/
structure Forgets (v : Variant) (c c' : Client) : Prop where
  control : c'.control = c.control
  table : c'.store.subscriptionsByPattern = c.store.subscriptionsByPattern
  states : c'.store.states = c.store.states
  index : v.indexesEachEntry = false → c'.store.patternsBySubId = c.store.patternsBySubId
  requestCount : c'.requestCount = c.requestCount

theorem forgets_forgetId (subId : Nat) : Forgets v c (c.forgetId v subId) := by
  unfold forgetId
  split
  · rename_i hv
    exact ⟨rfl, rfl, rfl, fun hv' => absurd hv (by simp [hv']), rfl⟩
  · exact ⟨rfl, rfl, rfl, fun _ => rfl, rfl⟩

/-- A rollback comes to its end, reports the error and leaves the entries. -/
theorem run_rollback (confirmed : Nat → Bool) (todo : List (String × Nat))
    (hlink : c.link = .restoring) :
    ∃ c', (machine v).runFrom (c.rollbackNext v todo)
        (rollbackEvents confirmed todo.length c.requestCount) = some c' ∧
      TakenBack v todo c c' := by
  induction todo generalizing c with
  | nil => exact ⟨_, rfl, rfl, rfl, rfl, rfl, fun _ => rfl, rfl, rfl, (List.append_nil _).symm⟩
  | cons x todo ih =>
      obtain ⟨pattern, s⟩ := x
      -- the id goes first, then its UNSUBSCRIBE is asked for
      obtain ⟨c₁, hc₁, hcontrol, htable, hstates, hindex, hcount⟩ :
          ∃ c₁, c.forgetId v (c.store.states s).subId = c₁ ∧ Forgets v c c₁ :=
        ⟨_, rfl, forgets_forgetId _⟩
      let asked : Client := { c₁.request (.unsubscribe pattern (c.store.states s).subId) true with
        restore := .rollingBack ((pattern, s) :: todo) c₁.requestCount }
      have hasked : c.rollbackNext v ((pattern, s) :: todo) = asked := by
        simp only [asked, ← hc₁]
        rfl
      have hsession : asked.session = c.session := congrArg Control.session hcontrol
      have hlink₁ : asked.link = .restoring := (congrArg Control.link hcontrol).trans hlink
      have hlt : c.requestCount < asked.requestCount := hcount ▸ Nat.lt_succ_self _
      have hnew : asked.requests c.requestCount = ⟨.unsubscribe pattern (c.store.states s).subId,
          true, .unsent, c₁.session, c₁.restore.isUnderWay, 0, false, none⟩ := by
        simp [asked, Client.request, ← hcount]
      have hrestore : asked.restore = .rollingBack ((pattern, s) :: todo) c.requestCount := by
        simp [asked, hcount]
      obtain ⟨c₂, hround, hassigned, hunsubscribed, hrun⟩ := run_rollbackRound (v := v) (c := asked)
        hlink₁ hlt (by rw [hnew]) (by rw [hnew]) (congrArg Request.frame hnew) hrestore
        (confirmed c.requestCount)
      have hcount₂ : c₂.requestCount = c.requestCount + 1 :=
        hround.requestCount.trans (congrArg (· + 1) hcount)
      have hstates₂ : c₂.store.states = c.store.states :=
        (congrArg Store.states hround.store).trans hstates
      have hregistered : c₂.registered = c.registered := by
        funext y
        unfold registered
        rw [hround.session, hsession, hstates₂]
      -- the rest is rolled back from where this round trip ends
      obtain ⟨c', hrest, htaken⟩ := ih (c := c₂) (hround.link.trans hlink₁)
      rw [hcount₂] at hrest
      refine ⟨c', ?_, htaken.idle, htaken.reported, ?_, htaken.states.trans hstates₂,
        fun hv => ?_, ?_, ?_, ?_⟩
      · rw [hasked]
        exact Machine.runFrom_append.mpr ⟨_, hrun, hrest⟩
      · rw [htaken.table, hround.store]
        exact htable
      · rw [htaken.index hv, hround.store]
        exact hindex hv
      · rw [htaken.requestCount, hcount₂, List.length_cons]
        omega
      · rw [htaken.assigned, hassigned]
        exact congrArg Control.assigned hcontrol
      · rw [htaken.unsubscribed, hunsubscribed, hregistered, hsession,
          show asked.unsubscribed = c.unsubscribed from congrArg Control.unsubscribed hcontrol,
          List.append_assoc]
        rfl

/-! ### The loop over the entries -/

section Loop

/-- The entry `y` of the restored table is what the restore makes of the entry `x`. -/
structure Resubscribed (outcome : String → Option Nat) (c₀ c : Client) (x y : String × Nat) :
    Prop where
  pattern : y.1 = x.1
  made : c.Made y
  subId : outcome x.1 = some (c.store.states y.2).subId
  handlers : (c.store.states y.2).handlers = (c₀.store.states x.2).handlers

/-- The id that is deleted from the index before the new id of an entry is set. -/
def oldId? (v : Variant) (c₀ : Client) (x : String × Nat) : Option Nat :=
  if v.indexesEachEntry then some (c₀.store.states x.2).subId else none

/-- The index after the entries `done` have moved to their new ids. -/
def movedIndex (v : Variant) (outcome : String → Option Nat) (c₀ : Client)
    (done : List (String × Nat)) : OrderedMap Nat String :=
  done.foldl (fun m x => m.move (oldId? v c₀ x) ((outcome x.1).getD 0) x.1)
    (if v.indexesEachEntry then c₀.store.patternsBySubId else ∅)

/-- The restore of client `c₀` has come past the entries `done`, which are now `restored`. -/
structure Progress (v : Variant) (outcome : String → Option Nat) (c₀ : Client)
    (done restored : List (String × Nat)) (c : Client) : Prop where
  link : c.link = .restoring
  table : c.store.subscriptionsByPattern = c₀.store.subscriptionsByPattern
  objects : ∀ s < c₀.store.stateCount, c.store.states s = c₀.store.states s
  count : c₀.store.stateCount ≤ c.store.stateCount
  restored : List.Forall₂ (Resubscribed outcome c₀ c) done restored
  index : v.indexesEachEntry = true →
    c.store.patternsBySubId = movedIndex v outcome c₀ done
  oldIndex : v.indexesEachEntry = false → c.store.patternsBySubId = c₀.store.patternsBySubId

/-- The frames it has sent, and what the session has made of them. -/
structure Asked (outcome : String → Option Nat) (c₀ : Client) (done : List (String × Nat))
    (c : Client) : Prop where
  session : c.session = c₀.session
  restoreFailed : c.restoreFailed = c₀.restoreFailed
  requestCount : c.requestCount = c₀.requestCount + done.length
  assigned : c.assigned = c₀.assigned ++ done.map (c₀.registrationOf outcome)
  unsubscribed : c.unsubscribed = c₀.unsubscribed

/-- What a restore leaves in which every resubscribe has succeeded. -/
structure Restored (v : Variant) (outcome : String → Option Nat) (c₀ c' : Client) : Prop where
  patterns : c'.store.subscriptionsByPattern.keys = c₀.store.subscriptionsByPattern.keys
  asked : Asked outcome c₀ c₀.store.subscriptionsByPattern.entries c'
  entries : ∀ x ∈ c₀.store.subscriptionsByPattern.entries, ∃ y,
    c'.entry? x.1 = some y ∧ Resubscribed outcome c₀ c' x (x.1, y)
  pattern : ∀ q s, c'.entry? q = some s → (c'.store.states s).pattern = q
  index : c'.store.patternsBySubId =
    movedIndex v outcome c₀ c₀.store.subscriptionsByPattern.entries

variable {done todo restored : List (String × Nat)}

/-- The restored entries as they are in a client with more objects. -/
theorem Resubscribed.restoreEntry {x y : String × Nat} (h : Resubscribed outcome c₀ c x y)
    (pattern : String) (s subId : Nat) :
    Resubscribed outcome c₀ (c.restoreEntry v pattern s subId) x y := by
  have hstate : (c.restoreEntry v pattern s subId).store.states y.2 = c.store.states y.2 := by
    unfold Client.restoreEntry
    split <;> simp [setStore, Store.make, Function.update_of_ne (Nat.ne_of_lt h.made.1)]
  exact ⟨h.pattern, h.made.restoreEntry pattern s subId, hstate ▸ h.subId, hstate ▸ h.handlers⟩

/-- A round trip does not touch what has been restored. -/
theorem Progress.of_store (h : Progress v outcome c₀ done restored c) (hstore : c'.store = c.store)
    (hlink : c'.link = c.link) : Progress v outcome c₀ done restored c' := by
  refine ⟨hlink.trans h.link, ?_, ?_, ?_, h.restored.imp fun x y hxy => ?_, ?_, ?_⟩
  · rw [hstore]
    exact h.table
  · rw [hstore]
    exact h.objects
  · rw [hstore]
    exact h.count
  · obtain ⟨hpattern, hmade, hsubId, hhandlers⟩ := hxy
    exact ⟨hpattern, hmade.of_table (congrArg Store.table hstore), hstore ▸ hsubId,
      hstore ▸ hhandlers⟩
  · rw [hstore]
    exact h.index
  · rw [hstore]
    exact h.oldIndex

/-- One entry is restored. -/
theorem Progress.restoreEntry (h : Progress v outcome c₀ done restored c) {x : String × Nat}
    {subId : Nat} (hx : x.2 < c₀.store.stateCount) (hsome : outcome x.1 = some subId) :
    Progress v outcome c₀ (done ++ [x]) (restored ++ [(x.1, c.store.stateCount)])
      (c.restoreEntry v x.1 x.2 subId) := by
  have hstate : (c.restoreEntry v x.1 x.2 subId).store.states c.store.stateCount =
      ⟨x.1, subId, (c.store.states x.2).handlers, none⟩ := by
    unfold Client.restoreEntry
    split <;> simp [setStore, Store.make]
  have hcount : (c.restoreEntry v x.1 x.2 subId).store.stateCount = c.store.stateCount + 1 := by
    unfold Client.restoreEntry
    split <;> rfl
  have hlink : (c.restoreEntry v x.1 x.2 subId).link = c.link := rfl
  refine ⟨hlink.trans h.link, ?_, fun s hs => ?_, ?_, ?_, fun hv => ?_, fun hv => ?_⟩
  · rw [← h.table]
    unfold Client.restoreEntry
    split <;> rfl
  · -- the old objects stay beside the new one
    rw [← h.objects s hs]
    have hne : s ≠ c.store.stateCount := Nat.ne_of_lt (Nat.lt_of_lt_of_le hs h.count)
    unfold Client.restoreEntry
    split <;> simp [setStore, Store.make, Function.update_of_ne hne]
  · rw [hcount]
    exact Nat.le_succ_of_le h.count
  · refine List.rel_append (h.restored.imp fun a b hab => hab.restoreEntry _ _ _) ?_
    refine List.Forall₂.cons ⟨rfl, restoreEntry_made .., ?_, ?_⟩ List.Forall₂.nil
    · rw [hstate, hsome]
    · rw [hstate, h.objects x.2 hx]
  · rw [movedIndex, List.foldl_append, List.foldl_cons, List.foldl_nil, ← movedIndex, ← h.index hv]
    unfold Client.restoreEntry
    simp only [hv, if_true, setStore, Store.make, oldId?, OrderedMap.move, hsome, Option.getD_some,
      h.objects x.2 hx]
  · rw [← h.oldIndex hv]
    unfold Client.restoreEntry
    simp [hv, setStore, Store.make]

/-- A request has succeeded. -/
theorem Asked.restoreEntry (h : Asked outcome c₀ done c) {x : String × Nat} {subId : Nat}
    (hsome : outcome x.1 = some subId) (hsession : c'.session = c.session)
    (hfailed : c'.restoreFailed = c.restoreFailed) (hcount : c'.requestCount = c.requestCount + 1)
    (hassigned : c'.assigned = c.assigned ++ [(c.session, subId, x.1)])
    (hunsubscribed : c'.unsubscribed = c.unsubscribed) :
    Asked outcome c₀ (done ++ [x]) (c'.restoreEntry v x.1 x.2 subId) := by
  refine ⟨hsession.trans h.session, hfailed.trans h.restoreFailed, ?_, ?_,
    hunsubscribed.trans h.unsubscribed⟩
  · show c'.requestCount = c₀.requestCount + (done ++ [x]).length
    rw [hcount, h.requestCount, List.length_append]
    rfl
  · show c'.assigned = c₀.assigned ++ (done ++ [x]).map (c₀.registrationOf outcome)
    rw [hassigned, h.assigned, h.session, List.map_append, List.append_assoc]
    simp [registrationOf, hsome]

theorem restored_keys (h : List.Forall₂ (Resubscribed outcome c₀ c) done restored) :
    restored.map Prod.fst = done.map Prod.fst := by
  induction h with
  | nil => rfl
  | cons hxy _ ih => rw [List.map_cons, List.map_cons, hxy.pattern, ih]

theorem exists_restored (h : List.Forall₂ (Resubscribed outcome c₀ c) done restored)
    {x : String × Nat} (hx : x ∈ done) : ∃ y ∈ restored, Resubscribed outcome c₀ c x y := by
  induction h with
  | nil => cases hx
  | cons hxy _ ih =>
      rcases List.mem_cons.mp hx with rfl | hx
      · exact ⟨_, List.mem_cons_self .., hxy⟩
      · obtain ⟨y, hy, hxy⟩ := ih hx
        exact ⟨y, List.mem_cons_of_mem _ hy, hxy⟩

theorem restored_made (h : List.Forall₂ (Resubscribed outcome c₀ c) done restored)
    {y : String × Nat} (hy : y ∈ restored) : c.Made y := by
  induction h with
  | nil => cases hy
  | cons hxy _ ih =>
      rcases List.mem_cons.mp hy with rfl | hy
      · exact hxy.made
      · exact ih hy

/-- What the rollback takes back is what has been registered. -/
theorem registered_restored (h : List.Forall₂ (Resubscribed outcome c₀ c) done restored)
    (hsession : c.session = c₀.session) :
    restored.map c.registered = done.map (c₀.registrationOf outcome) := by
  induction h with
  | nil => rfl
  | cons hxy _ ih =>
      rw [List.map_cons, List.map_cons, ih]
      simp [registered, registrationOf, hsession, hxy.subId, hxy.pattern]

theorem isSome_of_restored (h : List.Forall₂ (Resubscribed outcome c₀ c) done restored)
    {x : String × Nat} (hx : x ∈ done) : (outcome x.1).isSome = true := by
  obtain ⟨y, -, hxy⟩ := exists_restored h hx
  rw [hxy.subId]
  rfl

/-- The ids of the restored entries, set one after the other. -/
theorem indexEntries_restored (h : List.Forall₂ (Resubscribed outcome c₀ c) done restored)
    (hv : v.indexesEachEntry = false) (m : OrderedMap Nat String) :
    indexEntries c.store restored m =
      done.foldl (fun m x => m.move (oldId? v c₀ x) ((outcome x.1).getD 0) x.1) m := by
  unfold indexEntries
  induction h generalizing m with
  | nil => rfl
  | cons hxy _ ih =>
      rw [List.foldl_cons, List.foldl_cons, ih]
      simp [oldId?, hv, OrderedMap.move, hxy.subId, hxy.pattern]

/-- The commit and the new index. -/
theorem Progress.commit (h : Progress v outcome c₀ done restored c)
    (hasked : Asked outcome c₀ done c) (hdone : c₀.store.subscriptionsByPattern.entries = done) :
    ∃ c', (machine v).runFrom (c.resubscribeNext [] restored) [.restoreContinues] = some c' ∧
      c'.restore = .idle ∧ Restored v outcome c₀ c' := by
  -- the keys of the table are those of the entries, so none is restored twice
  have hnodup : (restored.map Prod.fst).Nodup := by
    rw [restored_keys h.restored, ← hdone]
    exact c₀.store.subscriptionsByPattern.nodup
  have hentries : (c.resubscribeNext [] restored).store.subscriptionsByPattern.entries =
      restored := by
    simpa [Client.resubscribeNext, setStore] using
      OrderedMap.entries_foldl_set (m := (∅ : OrderedMap String Nat)) (l := restored) (by simpa)
  have hstore := reindex_store (v := v) (c := c.resubscribeNext [] restored)
  have hentry : ∀ q s, Client.entry? ((c.resubscribeNext [] restored).reindex v) q = some s ↔
      (q, s) ∈ restored := by
    intro q s
    unfold entry?
    rw [hstore, OrderedMap.get?_eq_some]
    dsimp only
    rw [hentries]
  have hstates : ((c.resubscribeNext [] restored).reindex v).store.states = c.store.states := by
    rw [hstore]
    rfl
  have hcount : ((c.resubscribeNext [] restored).reindex v).store.stateCount =
      c.store.stateCount := by
    rw [hstore]
    rfl
  obtain ⟨htraffic, hcontrol⟩ := reindex_frame (v := v) (c := c.resubscribeNext [] restored)
  have hkept : Asked outcome c₀ done ((c.resubscribeNext [] restored).reindex v) :=
    ⟨(congrArg Control.session hcontrol).trans hasked.session,
      (congrArg Control.restoreFailed hcontrol).trans hasked.restoreFailed,
      (congrArg Traffic.requestCount htraffic).trans hasked.requestCount,
      (congrArg Control.assigned hcontrol).trans hasked.assigned,
      (congrArg Control.unsubscribed hcontrol).trans hasked.unsubscribed⟩
  refine ⟨(c.resubscribeNext [] restored).reindex v, rfl, congrArg Control.restore hcontrol, ?_,
    hdone ▸ hkept, fun x hx => ?_, fun q s hs => ?_, ?_⟩
  · rw [hstore]
    unfold OrderedMap.keys
    rw [hdone, ← restored_keys h.restored]
    exact congrArg (List.map Prod.fst) hentries
  · obtain ⟨⟨q, y⟩, hy, hpattern, ⟨hlt, hmade⟩, hsubId, hhandlers⟩ :=
      exists_restored h.restored (hdone ▸ hx)
    obtain rfl : q = x.1 := hpattern
    refine ⟨y, (hentry x.1 y).mpr hy, rfl, ⟨hcount ▸ hlt, ?_⟩, ?_, ?_⟩
    · rw [hstates]
      exact hmade
    · rw [hstates]
      exact hsubId
    · rw [hstates]
      exact hhandlers
  · rw [hstates]
    exact (restored_made h.restored ((hentry q s).mp hs)).2
  · rw [hstore, hdone]
    dsimp only
    unfold newIndex
    split
    · rename_i hv
      exact h.index hv
    · rename_i hv
      rw [hentries]
      have hindex := indexEntries_restored (v := v) h.restored (by simpa using hv) ∅
      unfold movedIndex
      rw [if_neg hv]
      exact hindex

/-- The first request that fails: the restored entries are rolled back. -/
theorem Progress.rollback {x : String × Nat} (h : Progress v outcome c₀ done restored c)
    (hasked : Asked outcome c₀ done c)
    (hentries : c₀.store.subscriptionsByPattern.entries = done ++ x :: todo)
    (hnone : outcome x.1 = none) {c₂ : Client} (hstore : c₂.store = c.store)
    (hsession : c₂.session = c.session) (hcount : c₂.requestCount = c.requestCount + 1)
    (hassigned : c₂.assigned = c.assigned) (hunsubscribed : c₂.unsubscribed = c.unsubscribed)
    (htaken : TakenBack v restored.reverse c₂ c') : RolledBack v outcome c₀ c' := by
  have hfirst : c₀.restoredFirst outcome = done := by
    unfold restoredFirst
    rw [hentries, List.takeWhile_append_of_pos fun y hy => isSome_of_restored h.restored hy,
      List.takeWhile_cons, hnone]
    exact List.append_nil _
  have hregistered : c₂.registered = c.registered := by
    funext y
    unfold registered
    rw [hsession, hstore]
  refine ⟨?_, fun s hs => ?_, fun hv => ?_, htaken.reported, ?_, ?_, ?_⟩
  · rw [htaken.table, hstore, h.table]
  · rw [htaken.states, hstore, h.objects s hs]
  · rw [htaken.index hv, hstore, h.oldIndex hv]
  · rw [htaken.requestCount, hcount, hasked.requestCount, hfirst, List.length_reverse,
      ← h.restored.length_eq]
    omega
  · rw [htaken.assigned, hassigned, hasked.assigned, hfirst]
  · rw [htaken.unsubscribed, hunsubscribed, hasked.unsubscribed, hfirst, hregistered,
      List.map_reverse, List.map_reverse, registered_restored h.restored hasked.session]

/-- **The loop.** It restores every entry, or leaves the table as it was. -/
theorem run_resubscribe (confirmed : Nat → Bool) (h : Progress v outcome c₀ done restored c)
    (hasked : Asked outcome c₀ done c)
    (hentries : c₀.store.subscriptionsByPattern.entries = done ++ todo)
    (hmade : ∀ x ∈ todo, x.2 < c₀.store.stateCount) :
    ∃ c', (machine v).runFrom (c.resubscribeNext todo restored)
        (resubscribeEvents outcome confirmed (todo.map Prod.fst) restored.length c.requestCount) =
          some c' ∧
      c'.restore = .idle ∧
      ((∀ x ∈ todo, (outcome x.1).isSome) → Restored v outcome c₀ c') ∧
      ((∃ x ∈ todo, outcome x.1 = none) → RolledBack v outcome c₀ c') := by
  induction todo generalizing done restored c with
  | nil =>
      obtain ⟨c', hrun, hidle, hrestored⟩ := h.commit hasked (by simpa using hentries)
      exact ⟨c', hrun, hidle, fun _ => hrestored, by simp⟩
  | cons x todo ih =>
      obtain ⟨pattern, s⟩ := x
      let asked : Client := { c.request (.subscribe pattern) true with
        restore := .resubscribing ((pattern, s) :: todo) restored c.requestCount }
      have hlt : c.requestCount < asked.requestCount := Nat.lt_succ_self _
      have hnew : asked.requests c.requestCount = ⟨.subscribe pattern, true, .unsent, c.session,
          c.restore.isUnderWay, 0, false, none⟩ := by simp [asked, Client.request]
      have hframe := congrArg Request.frame hnew
      cases hsome : outcome pattern with
      -- the broker has registered the pattern again
      | some subId =>
          obtain ⟨c₂, hround, hassigned, hunsubscribed, hrun⟩ := run_subscribed (v := v)
            (c := asked) subId h.link hlt (by rw [hnew]) (by rw [hnew]) hframe rfl
          have hprogress := (h.of_store hround.store hround.link).restoreEntry
            (hmade (pattern, s) (List.mem_cons_self ..)) hsome
          have hasked' := hasked.restoreEntry (v := v) (x := (pattern, s)) hsome hround.session
            hround.restoreFailed hround.requestCount hassigned hunsubscribed
          obtain ⟨c', hrest, hidle, hall, hsome'⟩ := ih hprogress hasked' (by simpa using hentries)
            fun x hx => hmade x (List.mem_cons_of_mem _ hx)
          refine ⟨c', ?_, hidle, fun h => hall fun x hx => h x (List.mem_cons_of_mem _ hx),
            fun hex => ?_⟩
          · have hcount : (c₂.restoreEntry v pattern s subId).requestCount = c.requestCount + 1 :=
              hround.requestCount
            rw [hcount, List.length_append, hround.store] at hrest
            rw [List.map_cons, resubscribeEvents, hsome]
            exact Machine.runFrom_append.mpr ⟨_, hrun, hrest⟩
          · obtain ⟨x, hx, hnone⟩ := hex
            rcases List.mem_cons.mp hx with rfl | hx
            · rw [hsome] at hnone
              cases hnone
            · exact hsome' ⟨x, hx, hnone⟩
      | none =>
          -- the first refusal rolls back what has been restored, the last entry first
          obtain ⟨c₂, hround, hassigned, hunsubscribed, hrun⟩ := run_refused (v := v) (c := asked)
            h.link hlt (by rw [hnew]) (by rw [hnew]) hframe rfl
          obtain ⟨c', hrest, htaken⟩ := run_rollback (v := v) confirmed
            restored.reverse (hround.link.trans h.link)
          refine ⟨c', ?_, htaken.idle, fun hall => ?_, fun _ => ?_⟩
          · rw [hround.requestCount, List.length_reverse] at hrest
            rw [List.map_cons, resubscribeEvents, hsome]
            exact Machine.runFrom_append.mpr ⟨_, hrun, hrest⟩
          · have hthis := hall (pattern, s) (List.mem_cons_self ..)
            rw [show outcome (pattern, s).1 = none from hsome] at hthis
            cases hthis
          · exact h.rollback hasked hentries hsome hround.store hround.session hround.requestCount
              hassigned hunsubscribed htaken

end Loop

/-! ### The outcome -/

/-- When every resubscribe has succeeded, what is left to ask is where the ids lead. -/
theorem Restored.bestEffort (h : Restored v outcome c₀ c')
    (hall : ∀ x ∈ c₀.store.subscriptionsByPattern.entries, (outcome x.1).isSome) :
    BestEffort outcome c₀ c' ↔ ∀ x ∈ c₀.store.subscriptionsByPattern.entries,
      c'.store.patternsBySubId.get? ((outcome x.1).getD 0) = some x.1 := by
  constructor
  · rintro hbest ⟨pattern, s⟩ hx
    obtain ⟨subId, hsome⟩ := Option.isSome_iff_exists.mp (hall (pattern, s) hx)
    have hthis := hbest pattern s (OrderedMap.get?_eq_some.mpr hx)
    simp only [hsome] at hthis
    obtain ⟨s', hs', -, -, hresolve⟩ := hthis
    obtain ⟨q, hq, hqs⟩ := Option.bind_eq_some_iff.mp hresolve
    obtain rfl : q = pattern := (h.pattern q s' hqs).symm.trans (h.pattern pattern s' hs')
    rw [hsome]
    exact hq
  · intro hindex pattern s hs
    have hx := OrderedMap.get?_eq_some.mp hs
    obtain ⟨y, hy, -, -, hsubId, hhandlers⟩ := h.entries (pattern, s) hx
    have hsubId : outcome pattern = some (c'.store.states y).subId := hsubId
    have hget := hindex (pattern, s) hx
    simp only [hsubId, Option.getD_some] at hget ⊢
    refine ⟨y, hy, rfl, hhandlers, ?_⟩
    unfold Store.resolve
    rw [hget]
    exact hy

/-- The ids lead to their patterns exactly if no move to a new id undoes an earlier one. -/
theorem movedIndex_iff (hall : ∀ x ∈ c₀.store.subscriptionsByPattern.entries,
      (outcome x.1).isSome) :
    (∀ x ∈ c₀.store.subscriptionsByPattern.entries, (movedIndex v outcome c₀
      c₀.store.subscriptionsByPattern.entries).get? ((outcome x.1).getD 0) = some x.1) ↔
        c₀.Restorable v outcome := by
  unfold movedIndex Restorable
  rw [OrderedMap.forall_get?_foldl_move _ _ _ c₀.store.subscriptionsByPattern.nodup]
  refine Iff.trans (List.Pairwise.iff_of_mem fun {x y} hx hy => ?_)
    (iff_and_self.mpr fun _ => hall)
  obtain ⟨a, ha⟩ := Option.isSome_iff_exists.mp (hall x hx)
  obtain ⟨b, hb⟩ := Option.isSome_iff_exists.mp (hall y hy)
  unfold oldId?
  rw [ha, hb]
  refine and_congr (by simp) ?_
  cases v.indexesEachEntry with
  | true => simp [eq_comm]
  | false => simp

/-- The restore comes to an end, and restores every entry or leaves the table as it was. -/
theorem run_restore (outcome : String → Option Nat) (confirmed : Nat → Bool) (h : c.Objects)
    (hlink : c.link = .restoring) (hpending : c.restore = .pending)
    (hsome : c.store.subscriptionsByPattern.entries ≠ []) :
    ∃ c', (machine v).runFrom c (c.restoreEvents outcome confirmed) = some c' ∧
      c'.restore = .idle ∧
      ((∀ x ∈ c.store.subscriptionsByPattern.entries, (outcome x.1).isSome) →
        Restored v outcome c c') ∧
      ((∃ x ∈ c.store.subscriptionsByPattern.entries, outcome x.1 = none) →
        RolledBack v outcome c c') := by
  have hbegins : c.step v .restoreBegins =
      some (c.resubscribeNext c.store.subscriptionsByPattern.entries []) := by
    simp only [Client.step, hpending, if_true, Client.restoreBegins]
  have hstart : Progress v outcome c [] [] c := by
    refine ⟨hlink, rfl, fun _ _ => rfl, Nat.le_refl _, .nil, fun hv => ?_, fun _ => rfl⟩
    simp [movedIndex, hv]
  have hasked : Asked outcome c [] c := ⟨rfl, rfl, rfl, (List.append_nil _).symm, rfl⟩
  obtain ⟨c', hrun, hrest⟩ := run_resubscribe confirmed hstart hasked (by simp)
    fun x hx => (h.entries x.1 x.2 (OrderedMap.get?_eq_some.mpr hx)).1
  refine ⟨c', ?_, hrest⟩
  have hevents : c.restoreEvents outcome confirmed = .restoreBegins :: resubscribeEvents outcome
      confirmed c.store.subscriptionsByPattern.keys 0 c.requestCount := by
    unfold restoreEvents
    split
    · rename_i hnone
      exact absurd (List.map_eq_nil_iff.mp hnone) hsome
    · rfl
  rw [hevents]
  exact Machine.runFrom_cons.mpr ⟨_, hbegins, hrun⟩

/-- When every resubscribe has succeeded, every entry is restored. -/
theorem Restored.allRestored (h : Restored v outcome c₀ c')
    (hall : ∀ x ∈ c₀.store.subscriptionsByPattern.entries, (outcome x.1).isSome) :
    AllRestored v outcome c₀ c' := by
  refine ⟨h.patterns, fun pattern s hs => ?_, fun hrestorable pattern s' hs' => ?_,
    h.asked.restoreFailed, h.asked.requestCount, h.asked.assigned, h.asked.unsubscribed⟩
  · obtain ⟨y, hy, -, -, hsubId, hhandlers⟩ :=
      h.entries (pattern, s) (OrderedMap.get?_eq_some.mp hs)
    exact ⟨_, y, hsubId, hy, rfl, hhandlers⟩
  · -- the pattern has been there before
    have hkey : pattern ∈ c₀.store.subscriptionsByPattern.keys := by
      rw [← h.patterns]
      exact List.mem_map_of_mem (f := Prod.fst) (OrderedMap.get?_eq_some.mp hs')
    obtain ⟨⟨q, s⟩, hx, hq⟩ := List.mem_map.mp hkey
    obtain rfl : q = pattern := hq
    have hbest := (h.bestEffort hall).mpr (h.index ▸ (movedIndex_iff hall).mpr hrestorable)
    obtain ⟨subId, hsome⟩ := Option.isSome_iff_exists.mp (hall (q, s) hx)
    have hthis := hbest q s (OrderedMap.get?_eq_some.mpr hx)
    simp only [hsome] at hthis
    obtain ⟨s'', hs'', hid, -, hresolve⟩ := hthis
    obtain rfl := Option.some.inj (hs''.symm.trans hs')
    rw [hid]
    exact hresolve

/-- With an empty table there is nothing to restore. -/
theorem run_restore_nil (outcome : String → Option Nat) (confirmed : Nat → Bool)
    (hpending : c.restore = .pending) (hnone : c.store.subscriptionsByPattern.entries = []) :
    ∃ c', (machine v).runFrom c (c.restoreEvents outcome confirmed) = some c' ∧
      c'.restore = .idle ∧ AllRestored v outcome c c' := by
  have hnothing : ∀ pattern, c.entry? pattern = none := by
    intro pattern
    cases hs : c.entry? pattern with
    | none => rfl
    | some s =>
        have hmem := OrderedMap.get?_eq_some.mp hs
        rw [hnone] at hmem
        cases hmem
  obtain ⟨c', hstep, hidle, htable, hfailed, hcount, hassigned, hunsubscribed⟩ : ∃ c',
      c.step v .restoreBegins = some c' ∧ c'.restore = .idle ∧
        c'.store.subscriptionsByPattern = c.store.subscriptionsByPattern ∧
        c'.restoreFailed = c.restoreFailed ∧ c'.requestCount = c.requestCount ∧
        c'.assigned = c.assigned ∧ c'.unsubscribed = c.unsubscribed := by
    simp only [Client.step, hpending, if_true, Client.restoreBegins, hnone]
    refine ⟨_, rfl, rfl, ?_⟩
    dsimp only
    split <;> exact ⟨rfl, rfl, rfl, rfl, rfl⟩
  have hevents : c.restoreEvents outcome confirmed = [.restoreBegins] := by
    simp [restoreEvents, OrderedMap.keys, hnone]
  refine ⟨c', ?_, hidle, by rw [htable], fun pattern s hs => ?_, fun _ pattern s' hs' => ?_,
    hfailed, ?_, ?_, hunsubscribed⟩
  · rw [hevents]
    exact Machine.runFrom_cons.mpr ⟨c', hstep, rfl⟩
  · rw [hnothing] at hs
    cases hs
  · have hs' : c.entry? pattern = some s' := by
      unfold entry? at hs' ⊢
      rw [← htable]
      exact hs'
    rw [hnothing] at hs'
    cases hs'
  · rw [hcount, hnone]
    rfl
  · rw [hassigned, hnone]
    exact (List.append_nil _).symm

/-- **A restore is all or nothing**, for every outcome of its resubscribe requests and of the
UNSUBSCRIBE requests of its rollback. -/
theorem restores_atomically {es : List Event} (hrun : (machine v).run es = some c)
    (hlink : c.link = .restoring) (hpending : c.restore = .pending)
    (outcome : String → Option Nat) (confirmed : Nat → Bool) :
    ∃ c', (machine v).runFrom c (c.restoreEvents outcome confirmed) = some c' ∧
      c'.restore = .idle ∧
      ((∀ x ∈ c.store.subscriptionsByPattern.entries, (outcome x.1).isSome) →
        AllRestored v outcome c c') ∧
      ((∃ x ∈ c.store.subscriptionsByPattern.entries, outcome x.1 = none) →
        RolledBack v outcome c c') := by
  by_cases hnone : c.store.subscriptionsByPattern.entries = []
  · obtain ⟨c', hruns, hidle, hall⟩ := run_restore_nil (v := v) outcome confirmed hpending hnone
    refine ⟨c', hruns, hidle, fun _ => hall, fun hfails => ?_⟩
    obtain ⟨x, hx, -⟩ := hfails
    rw [hnone] at hx
    cases hx
  · obtain ⟨c', hruns, hidle, hall, hrefused⟩ :=
      run_restore (v := v) outcome confirmed (objects_run hrun) hlink hpending hnone
    exact ⟨c', hruns, hidle, fun hsome => (hall hsome).allRestored hsome, hrefused⟩

/-- **What a restore makes of the entries**, for every outcome of its resubscribe requests
(and of the UNSUBSCRIBE requests of its rollback). -/
theorem bestEffort_iff {es : List Event} (hrun : (machine v).run es = some c)
    (hlink : c.link = .restoring) (hpending : c.restore = .pending)
    (outcome : String → Option Nat) (confirmed : Nat → Bool) :
    ∃ c', (machine v).runFrom c (c.restoreEvents outcome confirmed) = some c' ∧
      c'.restore = .idle ∧ (BestEffort outcome c c' ↔ c.Restorable v outcome) := by
  have hobjects := objects_run hrun
  by_cases hnone : c.store.subscriptionsByPattern.entries = []
  · obtain ⟨c', hruns, hidle, -⟩ := run_restore_nil (v := v) outcome confirmed hpending hnone
    refine ⟨c', hruns, hidle, iff_of_true (fun pattern s hs => ?_) ?_⟩
    · have hmem := OrderedMap.get?_eq_some.mp hs
      simp [hnone] at hmem
    · simp [Restorable, hnone]
  · obtain ⟨c', hruns, hidle, hall, hrefused⟩ :=
      run_restore (v := v) outcome confirmed hobjects hlink hpending hnone
    refine ⟨c', hruns, hidle, ?_⟩
    by_cases hsome : ∀ x ∈ c.store.subscriptionsByPattern.entries, (outcome x.1).isSome
    · have hrestored := hall hsome
      rw [hrestored.bestEffort hsome, hrestored.index, movedIndex_iff hsome]
    · -- an entry whose request failed is still there
      refine iff_of_false (fun hbest => ?_) fun h => hsome h.1
      simp only [not_forall] at hsome
      obtain ⟨⟨pattern, s⟩, hx, hfailed⟩ := hsome
      have hfailed : outcome pattern = none := by simpa using hfailed
      have hentry : c'.entry? = c.entry? := by
        unfold entry?
        rw [(hrefused ⟨(pattern, s), hx, hfailed⟩).table]
      have hs : c.entry? pattern = some s := OrderedMap.get?_eq_some.mpr hx
      have hthis := hbest pattern s hs
      simp only [hfailed] at hthis
      rw [hentry, hs] at hthis
      cases hthis.1

/-- Two patterns are subscribed with the ids 1 and 2, and the connection is lost and replaced. -/
def twoPatternsReconnect : List Event :=
  [.subscribe "stream://r/a/x" false, .sent 0, .subscribed 0 1, .flightSettles 0, .callContinues 0,
    .subscribe "stream://r/a/y" false, .sent 1, .subscribed 1 2, .flightSettles 1, .callContinues 1,
    .lost, .connected]

/-- The session gives the first pattern the id 3, and the second pattern the given answer. -/
def twoPatternsOutcome (second : Option Nat) (pattern : String) : Option Nat :=
  if pattern = "stream://r/a/x" then some 3 else second

theorem restores_twoPatterns : ∃ c c', (machine stream).run twoPatternsReconnect = some c ∧
    (machine stream).runFrom c (c.restoreEvents (twoPatternsOutcome none) fun _ => true) =
      some c' ∧ RolledBack stream (twoPatternsOutcome none) c c' := by
  obtain ⟨c, hrun, hlink, hpending, hfails⟩ : ∃ c,
      (machine stream).run twoPatternsReconnect = some c ∧ c.link = .restoring ∧
        c.restore = .pending ∧
        ∃ x ∈ c.store.subscriptionsByPattern.entries, twoPatternsOutcome none x.1 = none :=
    ⟨_, rfl, rfl, rfl, by decide +kernel⟩
  obtain ⟨c', hruns, -, -, hrolled⟩ :=
    restores_atomically hrun hlink hpending (twoPatternsOutcome none) fun _ => true
  exact ⟨c, c', hrun, hruns, hrolled hfails⟩

/-- The second request fails: the first pattern is left with its old id, although its own request
succeeded. -/
theorem not_forall_bestEffort : ∃ c c', (machine stream).run twoPatternsReconnect = some c ∧
    (machine stream).runFrom c (c.restoreEvents (twoPatternsOutcome none) fun _ => true) =
      some c' ∧ c'.restore = .idle ∧ ¬ BestEffort (twoPatternsOutcome none) c c' := by
  obtain ⟨c, c', hrun, hruns, hidle, hs, hs', hold⟩ : ∃ c c',
      (machine stream).run twoPatternsReconnect = some c ∧
      (machine stream).runFrom c (c.restoreEvents (twoPatternsOutcome none) fun _ => true) =
        some c' ∧ c'.restore = .idle ∧ c.entry? "stream://r/a/x" = some 0 ∧
      c'.entry? "stream://r/a/x" = some 0 ∧ (c'.store.states 0).subId = 1 :=
    ⟨_, _, rfl, rfl, rfl, by decide +kernel, by decide +kernel, by decide +kernel⟩
  refine ⟨c, c', hrun, hruns, hidle, fun hbest => ?_⟩
  obtain ⟨s', hthis, hid, -⟩ : ∃ s', c'.entry? "stream://r/a/x" = some s' ∧
      (c'.store.states s').subId = 3 ∧ _ := hbest "stream://r/a/x" 0 hs
  rw [hs'] at hthis
  obtain rfl := Option.some.inj hthis
  rw [hold] at hid
  cases hid

end Client

end FitzTs.Subscriptions
