import FitzTs.Client.Connection.Sound
/-!
# FitzTs.Client.Connection.Bystanders

What a step does to the calls whose step it is not.

A call moves on when it continues after an `await` (`mover`). Any other step leaves
it in its phase; at most the gate it is queued at gives it a slot, or refuses it.
The gate itself is replaced only where `resetsGate` says so, and when the
connection is lost every caller that is queued at it is refused.
-/

namespace FitzTs.Client

/-! ### The gate -/

namespace RequestGate

variable {g : RequestGate} {i j : CallId}

/-- Whoever is queued is in the queue, and nobody is queued at a closed gate. -/
structure Queues (g : RequestGate) : Prop where
  queued : ∀ i, g.outcomes i = .queued → i ∈ g.queue
  closed : g.closed = true → g.queue = []

theorem queues_create (maxConcurrency maxQueueSize : Nat) :
    (create maxConcurrency maxQueueSize).Queues :=
  ⟨fun _ h => (nomatch h), fun _ => rfl⟩

@[simp] theorem setOutcome_outcomes (g : RequestGate) (j : CallId) (outcome : SlotOutcome) :
    (g.setOutcome j outcome).outcomes = Function.update g.outcomes j outcome := rfl

/-- Settling the promise of a caller does not queue it. -/
theorem setOutcome_queued {outcome : SlotOutcome} (houtcome : outcome ≠ .queued)
    (h : (g.setOutcome j outcome).outcomes i = .queued) : g.outcomes i = .queued ∧ i ≠ j := by
  rw [setOutcome_outcomes] at h
  by_cases hi : i = j
  · subst hi
    rw [Function.update_self] at h
    exact absurd h houtcome
  · rw [Function.update_of_ne hi] at h
    exact ⟨h, hi⟩

/-- An outcome that is noted puts nobody into the queue. -/
theorem Queues.setOutcome (hg : g.Queues) {outcome : SlotOutcome} (houtcome : outcome ≠ .queued) :
    (g.setOutcome j outcome).Queues :=
  ⟨fun i h => hg.queued i (setOutcome_queued houtcome h).1, hg.closed⟩

/-- `acquire` queues nobody but its caller. -/
theorem acquire_queued {aborted : Bool} (hi : i ≠ j)
    (h : (g.acquire j aborted).outcomes i = .queued) : g.outcomes i = .queued := by
  have settled : ∀ {outcome}, (g.setOutcome j outcome).outcomes i = .queued →
      g.outcomes i = .queued := fun hs => by
    rwa [setOutcome_outcomes, Function.update_of_ne hi] at hs
  unfold acquire at h
  split at h
  · exact settled h
  · split at h
    · exact settled h
    · split at h
      · exact settled h
      · split at h <;> exact settled h

/-- Whoever asks for a slot gets it, is refused, or joins the queue. -/
theorem Queues.acquire (hg : g.Queues) (j : CallId) (aborted : Bool) :
    (g.acquire j aborted).Queues := by
  unfold RequestGate.acquire
  split
  · exact hg.setOutcome (by simp)
  · split
    · exact hg.setOutcome (by simp)
    · rename_i hopen
      split
      · have hgranted : (g.setOutcome j .granted).Queues := hg.setOutcome (by simp)
        exact ⟨hgranted.queued, hgranted.closed⟩
      · split
        · exact hg.setOutcome (by simp)
        · refine ⟨fun i h => List.mem_append.mpr ?_, fun hclosed => absurd hclosed hopen⟩
          by_cases hi : i = j
          · exact Or.inr (hi ▸ List.mem_singleton_self i)
          · change Function.update g.outcomes j _ i = _ at h
            rw [Function.update_of_ne hi] at h
            exact Or.inl (hg.queued i h)

/-- An abort queues nobody. -/
theorem abort_queued (h : (g.abort j).outcomes i = .queued) : g.outcomes i = .queued := by
  unfold abort at h
  split at h
  · exact (setOutcome_queued (by simp) h).1
  · exact h

/-- The aborted caller is no longer queued, although it keeps its place until a release. -/
theorem Queues.abort (hg : g.Queues) (j : CallId) : (g.abort j).Queues := by
  unfold RequestGate.abort
  split
  · refine ⟨fun i h => ?_, fun hclosed => ?_⟩
    · obtain ⟨hq, hi⟩ := setOutcome_queued (by simp) h
      exact List.mem_filter.mpr ⟨hg.queued i hq, by simpa using hi⟩
    · change g.queue.filter _ = []
      rw [hg.closed hclosed]
      rfl
  · exact hg

/-- A closed gate has refused whoever was queued. -/
theorem close_not_queued (hg : g.Queues) (i : CallId) : g.close.outcomes i ≠ .queued := by
  intro h
  unfold close at h
  split at h
  · rename_i hclosed
    have hmem := hg.queued i h
    rw [hg.closed hclosed] at hmem
    cases hmem
  · dsimp only at h
    split at h
    · cases h
    · rename_i hmem
      exact hmem (hg.queued i h)

/-- A gate that closes queues nobody. -/
theorem close_queued (h : g.close.outcomes i = .queued) : g.outcomes i = .queued := by
  unfold close at h
  split at h
  · exact h
  · dsimp only at h
    split at h
    · cases h
    · exact h

theorem Queues.close (hg : g.Queues) : g.close.Queues := by
  refine ⟨fun i h => absurd h (close_not_queued hg i), fun _ => ?_⟩
  unfold RequestGate.close
  split
  · rename_i hclosed
    exact hg.closed hclosed
  · rfl

/-- A release queues nobody. -/
theorem release_queued (h : g.release.outcomes i = .queued) : g.outcomes i = .queued := by
  unfold release at h
  dsimp only at h
  split at h
  · split at h
    · exact h
    · exact (setOutcome_queued (by simp) h).1
  · exact h

/-- A release goes to the first who still waits. -/
theorem Queues.release (hg : g.Queues) : g.release.Queues := by
  unfold RequestGate.release
  dsimp only
  split
  · rename_i hfree
    split
    · exact ⟨hg.queued, hg.closed⟩
    · rename_i j rest hqueue
      refine ⟨fun i h => ?_, fun hclosed => ?_⟩
      · obtain ⟨hq, hi⟩ := setOutcome_queued (by simp) h
        have hmem := hg.queued i hq
        rw [hqueue] at hmem
        exact (List.mem_cons.mp hmem).resolve_left hi
      · exact absurd hclosed (by simpa [RequestGate.setOutcome] using hfree.1)
  · exact ⟨hg.queued, hg.closed⟩

end RequestGate

namespace Connection

variable {c c' c'' c₁ : Connection} {i j : CallId} {t : TransportId} {S : CallId → Prop}
  {anew : Prop}

/-! ### What is spared -/

/-- From `c` to `c'` only calls in `S` move on, and nobody else joins a queue. Unless the
gate is set up `anew`, it stays in place, and refuses those queued at it when the
connection is lost. -/
structure Spares (S : CallId → Prop) (anew : Prop) (c c' : Connection) : Prop where
  calls : ∀ i, ¬ S i → (c'.calls i).phase = (c.calls i).phase ∧
    (c'.calls i).kind = (c.calls i).kind ∧ (c'.calls i).readyOn = (c.calls i).readyOn
  queued : ∀ gate i, ¬ S i → (c'.gates gate).outcomes i = .queued →
    (c.gates gate).outcomes i = .queued
  queues : ∀ gate, (c.gates gate).Queues → (c'.gates gate).Queues
  requestGate : ¬ anew → c'.requestGate = c.requestGate
  disconnects : c.disconnects ≤ c'.disconnects
  refuses : ¬ anew → c'.disconnects ≠ c.disconnects → (c.gates c.requestGate).Queues →
    ∀ i, ¬ S i → (c'.gates c.requestGate).outcomes i ≠ .queued

theorem Spares.refl (c : Connection) : Spares S anew c c :=
  ⟨fun _ _ => ⟨rfl, rfl, rfl⟩, fun _ _ _ => id, fun _ => id, fun _ => rfl, le_rfl,
    fun _ h => absurd rfl h⟩

/-- What two operations in a row spare. -/
theorem Spares.trans {d e : Connection} (h : Spares S anew c d) (h' : Spares S anew d e) :
    Spares S anew c e where
  calls := fun i hi => by
    obtain ⟨hphase, hkind, hready⟩ := h.calls i hi
    obtain ⟨hphase', hkind', hready'⟩ := h'.calls i hi
    exact ⟨hphase'.trans hphase, hkind'.trans hkind, hready'.trans hready⟩
  queued := fun gate i hi hq => h.queued gate i hi (h'.queued gate i hi hq)
  queues := fun gate hg => h'.queues gate (h.queues gate hg)
  requestGate := fun ha => (h'.requestGate ha).trans (h.requestGate ha)
  disconnects := h.disconnects.trans h'.disconnects
  refuses := fun ha hne hg i hi hq => by
    by_cases heq : d.disconnects = c.disconnects
    · have hgate := h.requestGate ha
      have hrefused := h'.refuses ha (heq ▸ hne) (hgate ▸ h.queues _ hg) i hi
      rw [hgate] at hrefused
      exact hrefused hq
    · exact h.refuses ha heq hg i hi (h'.queued _ i hi hq)

/-- More calls may move on, and the gate may be set up for another reason. -/
theorem Spares.mono {S' : CallId → Prop} {p q : Prop} (h : Spares S p c c')
    (hS : ∀ i, S i → S' i) (ha : p → q) : Spares S' q c c' where
  calls := fun i hi => h.calls i fun hs => hi (hS i hs)
  queued := fun gate i hi => h.queued gate i fun hs => hi (hS i hs)
  queues := h.queues
  requestGate := fun hn => h.requestGate fun hs => hn (ha hs)
  disconnects := h.disconnects
  refuses := fun hn hne hg i hi => h.refuses (fun hs => hn (ha hs)) hne hg i fun hs => hi (hS i hs)

/-- Only other variables change. -/
theorem spares_of_fields (hcalls : c'.calls = c.calls) (hgates : c'.gates = c.gates)
    (hgate : c'.requestGate = c.requestGate) (hdisconnects : c'.disconnects = c.disconnects) :
    Spares S anew c c' := by
  refine ⟨fun i _ => ?_, fun gate i _ hq => ?_, fun gate hg => ?_, fun _ => hgate,
    hdisconnects.ge, fun _ h => absurd hdisconnects h⟩
  · rw [hcalls]
    exact ⟨rfl, rfl, rfl⟩
  · rwa [hgates] at hq
  · rwa [hgates]

/-- A call is changed, and one in `S` may move on. -/
theorem modifyCall_spares {f : Call → Call}
    (hf : S i ∨ (f (c.calls i)).phase = (c.calls i).phase ∧
      (f (c.calls i)).kind = (c.calls i).kind ∧ (f (c.calls i)).readyOn = (c.calls i).readyOn) :
    Spares S anew c (c.modifyCall i f) := by
  refine ⟨fun j hj => ?_, fun _ _ _ => id, fun _ => id, fun _ => rfl, le_rfl,
    fun _ h => absurd rfl h⟩
  change (Function.update c.calls i (f (c.calls i)) j).phase = _ ∧
    (Function.update c.calls i (f (c.calls i)) j).kind = _ ∧
    (Function.update c.calls i (f (c.calls i)) j).readyOn = _
  by_cases hij : j = i
  · subst hij
    rw [Function.update_self]
    exact hf.resolve_left hj
  · rw [Function.update_of_ne hij]
    exact ⟨rfl, rfl, rfl⟩

/-- A gate is used. -/
theorem modifyGate_spares {gate : GateId} {f : RequestGate → RequestGate}
    (hqueued : ∀ i, ¬ S i → (f (c.gates gate)).outcomes i = .queued →
      (c.gates gate).outcomes i = .queued)
    (hqueues : (c.gates gate).Queues → (f (c.gates gate)).Queues) :
    Spares S anew c (c.modifyGate gate f) := by
  have cases : ∀ gate', (c.modifyGate gate f).gates gate' = c.gates gate' ∨
      gate' = gate ∧ (c.modifyGate gate f).gates gate' = f (c.gates gate) := by
    intro gate'
    by_cases hgate : gate' = gate
    · subst hgate
      exact Or.inr ⟨rfl, Function.update_self ..⟩
    · exact Or.inl (Function.update_of_ne hgate ..)
  refine ⟨fun _ _ => ⟨rfl, rfl, rfl⟩, fun gate' i hi hq => ?_, fun gate' hg => ?_,
    fun _ => rfl, le_rfl,
    fun _ h => absurd rfl h⟩
  · rcases cases gate' with heq | ⟨rfl, heq⟩
    · rwa [heq] at hq
    · rw [heq] at hq
      exact hqueued i hi hq
  · rcases cases gate' with heq | ⟨rfl, heq⟩
    · rwa [heq]
    · rw [heq]
      exact hqueues hg

/-- A gate is made. -/
theorem replaceRequestGate_spares (maxConcurrency : Nat) :
    Spares S True c (c.replaceRequestGate maxConcurrency) := by
  have cases : ∀ gate, (c.replaceRequestGate maxConcurrency).gates gate = c.gates gate ∨
      (c.replaceRequestGate maxConcurrency).gates gate =
        .create maxConcurrency c.options.maxRequestQueueSize := by
    intro gate
    by_cases hgate : gate = c.gatesCreated
    · subst hgate
      exact Or.inr (Function.update_self ..)
    · exact Or.inl (Function.update_of_ne hgate ..)
  refine ⟨fun _ _ => ⟨rfl, rfl, rfl⟩, fun gate i _ hq => ?_, fun gate hg => ?_,
    fun h => absurd trivial h, le_rfl, fun h => absurd trivial h⟩
  · rcases cases gate with heq | heq
    · rwa [heq] at hq
    · rw [heq] at hq
      cases hq
  · rcases cases gate with heq | heq
    · rwa [heq]
    · rw [heq]
      exact RequestGate.queues_create _ _

/-- The gate is closed, and the listeners of the disconnect are called. -/
theorem refusal_spares (hcalls : c'.calls = c.calls)
    (hgates : c'.gates = Function.update c.gates c.requestGate (c.gates c.requestGate).close)
    (hgate : c'.requestGate = c.requestGate) (hdisconnects : c.disconnects ≤ c'.disconnects) :
    Spares S anew c c' := by
  have hcloses : Spares S anew c c.closeRequestGate :=
    modifyGate_spares (fun _ _ => RequestGate.close_queued) RequestGate.Queues.close
  have heq : c'.gates = c.closeRequestGate.gates := hgates
  refine ⟨fun i _ => ?_, fun gate i hi hq => ?_, fun gate hg => ?_, fun _ => hgate, hdisconnects,
    fun _ _ hg i _ => ?_⟩
  · rw [hcalls]
    exact ⟨rfl, rfl, rfl⟩
  · rw [heq] at hq
    exact hcloses.queued gate i hi hq
  · rw [heq]
    exact hcloses.queues gate hg
  · rw [hgates, Function.update_self]
    exact RequestGate.close_not_queued hg i

/-! ### The loss of the connection -/

/-- The outcome of an authentication is no traffic. -/
theorem settleAuth_traffic (c : Connection) (d : Deferred) :
    (c.settleAuth d).toTraffic = c.toTraffic := by
  unfold settleAuth
  split <;> rfl

/-- Nothing of the traffic changes. -/
theorem spares_of_traffic (htraffic : c'.toTraffic = c.toTraffic)
    (hdisconnects : c'.disconnects = c.disconnects) : Spares S anew c c' :=
  spares_of_fields (by rw [htraffic]) (by rw [htraffic]) (by rw [htraffic]) hdisconnects

theorem settleAuth_spares (c : Connection) (d : Deferred) : Spares S anew c (c.settleAuth d) :=
  spares_of_traffic (settleAuth_traffic c d) (by rw [settleAuth_control])

/-- After a loss the reconnect loop begins or the calls that wait are told. -/
theorem afterLoss_spares (c : Connection) : Spares S anew c c.afterLoss := by
  unfold afterLoss
  split
  · exact spares_of_fields rfl rfl rfl rfl
  · dsimp only
    split
    · unfold runLoopHead
      split
      · exact spares_of_fields rfl rfl rfl rfl
      · split <;> exact spares_of_fields rfl rfl rfl rfl
    · exact spares_of_fields rfl rfl rfl rfl

/-- A lost connection closes the gate. -/
theorem loseConnection_spares (c : Connection) (error : ClientError) :
    Spares S anew c (c.loseConnection error) := by
  unfold loseConnection
  extract_lets c₁ inferredAuthFailure c₂ c₃ failure
  have hcloses : Spares S anew c c₃ := refusal_spares rfl rfl rfl (Nat.le_succ _)
  have hhandshake : Spares S anew c₃ (c₃.failHandshake failure) := by
    unfold failHandshake
    split
    · exact settleAuth_spares c₃ _
    · exact .refl c₃
  exact (hcloses.trans hhandshake).trans (afterLoss_spares _)

theorem handleConnectionLoss_spares (c : Connection) (error : ClientError) (t : TransportId) :
    Spares S anew c (c.handleConnectionLoss error t) := by
  unfold handleConnectionLoss
  extract_lets c₁
  have hmark : Spares S anew c c₁ := spares_of_fields rfl rfl rfl rfl
  split
  · exact hmark
  · refine hmark.trans (Spares.trans (d := c₁.handleConnectionLossOnce error t) ?_
      (spares_of_fields rfl rfl rfl rfl))
    unfold handleConnectionLossOnce
    split
    · exact loseConnection_spares c₁ error
    · exact .refl c₁

/-- `close` closes the gate. -/
theorem tearDown_spares (c : Connection) : Spares S anew c c.tearDown := by
  unfold tearDown
  extract_lets c₁ c₂ c₃
  have htraffic : c₃.toTraffic = c₂.toTraffic := settleAuth_traffic c₂ _
  have hcontrol : c₃.disconnects = c.disconnects + 1 := by
    change (c₂.settleAuth _).disconnects + 1 = _
    rw [settleAuth_control]
    rfl
  have hcloses : Spares S anew c c₃ :=
    refusal_spares (by rw [htraffic]; rfl) (by rw [htraffic]; rfl) (by rw [htraffic]; rfl)
      (hcontrol ▸ Nat.le_succ _)
  split
  · exact hcloses
  · exact hcloses.trans (spares_of_fields rfl rfl rfl rfl)

theorem close_spares (c : Connection) : Spares S anew c c.close := by
  unfold close
  split
  · exact .refl c
  · dsimp only
    split
    · exact spares_of_fields rfl rfl rfl rfl
    · exact Spares.trans (d := { c with closePromise := true })
        (spares_of_fields rfl rfl rfl rfl) (tearDown_spares _)

/-! ### The attempts -/

/-- A new transport has a gate of its own. -/
theorem openAndAuthenticate_spares (c : Connection) (isReconnect : Bool) (signal : Option Bool) :
    Spares S True c (c.openAndAuthenticate isReconnect signal) :=
  (replaceRequestGate_spares _).trans
    (spares_of_fields (c := c.replaceRequestGate c.options.maxInFlightRequests) rfl rfl rfl rfl)

theorem catchFailure_spares (c : Connection) (t : TransportId) (error : ClientError) :
    Spares S anew c (c.catchFailure t error) := spares_of_fields rfl rfl rfl rfl

theorem transportConnected_spares (c : Connection) (t : TransportId) :
    Spares S anew c (c.transportConnected t) := by
  unfold transportConnected
  split
  · exact catchFailure_spares c t _
  · split
    · exact catchFailure_spares c t _
    · dsimp only
      split <;> exact spares_of_fields rfl rfl rfl rfl

theorem authenticated_spares (c : Connection) (t : TransportId) :
    Spares S anew c (c.authenticated t) := by
  unfold authenticated startHeartbeat connectMultiplexer
  dsimp only
  split <;> split <;> exact spares_of_fields rfl rfl rfl rfl

/-- A HELLO that is refused leaves the gate as it is. -/
theorem helloReceived_spares (c : Connection) (t : TransportId) :
    Spares S anew c (c.helloReceived t) := by
  unfold helloReceived
  split
  · exact catchFailure_spares c t _
  · split
    · exact catchFailure_spares c t _
    · split
      · exact catchFailure_spares c t _
      · dsimp only
        have hfinish : Spares S anew c (c.finishAuth .resolved) :=
          (settleAuth_spares c _).trans (spares_of_fields rfl rfl rfl rfl)
        split
        · exact hfinish.trans (spares_of_fields rfl rfl rfl rfl)
        · exact hfinish.trans (authenticated_spares _ t)

theorem restored_spares (c : Connection) (t : TransportId) : Spares S anew c (c.restored t) := by
  unfold restored
  extract_lets c₁
  have hvars : Spares S anew c c₁ := spares_of_fields rfl rfl rfl rfl
  split
  · exact hvars.trans (catchFailure_spares c₁ t _)
  · exact hvars.trans (authenticated_spares c₁ t)

/-- A failed attempt gives the connection up; its gate it leaves alone. -/
theorem rethrowFailure_spares (c : Connection) (t : TransportId) (error : ClientError)
    (unconfirmed wasRestore : Bool) :
    Spares S True c (c.rethrowFailure t error unconfirmed wasRestore) := by
  have fields : ∀ {c' : Connection}, c'.calls = c.calls → c'.gates = c.gates →
      c.disconnects ≤ c'.disconnects → Spares S True c c' := by
    intro c' hcalls hgates hdisconnects
    refine ⟨fun i _ => ?_, fun gate i _ hq => ?_, fun gate hg => ?_, fun h => absurd trivial h,
      hdisconnects, fun h => absurd trivial h⟩
    · rw [hcalls]
      exact ⟨rfl, rfl, rfl⟩
    · rwa [hgates] at hq
    · rwa [hgates]
  unfold rethrowFailure settleFailure
  dsimp only
  split
  · exact fields rfl rfl le_rfl
  · split
    · exact fields rfl rfl le_rfl
    · exact fields rfl rfl (Nat.le_succ _)

/-! ### The frames -/

/-- Only an accepted HELLO sets up the gate, with the limits it carries. -/
theorem handleFrame_spares {frame : InboundFrame} {error : Option ClientError}
    (hf : c.handleFrame frame = some (c', error)) :
    Spares S (isHello frame = true ∧ error = none) c c' := by
  have idle : ∀ {error'}, some (c, error') = some (c', error) →
      Spares S (isHello frame = true ∧ error = none) c c' := by
    intro error' he
    obtain ⟨rfl, -⟩ := Prod.mk.inj (Option.some.inj he)
    exact .refl c
  cases frame with
  | badExtensions => exact idle hf
  | hello correlation flags body =>
      unfold handleFrame at hf
      dsimp only at hf
      split at hf
      · obtain ⟨rfl, rfl⟩ := Prod.mk.inj (Option.some.inj hf)
        unfold acceptHello
        extract_lets maxMessageBytes c₁ c₂ c₃
        have hmade : Spares S True c₁ c₂ := replaceRequestGate_spares _
        have hvars : Spares S True c c₁ := spares_of_fields rfl rfl rfl rfl
        have hcapable : Spares S True c₂ c₃ := spares_of_fields rfl rfl rfl rfl
        exact (((hvars.trans hmade).trans hcapable).trans (settleAuth_spares c₃ _)).mono
          (fun _ => id) fun _ => ⟨rfl, rfl⟩
      · exact idle hf
  | connectRejected correlation body =>
      unfold handleFrame at hf
      dsimp only at hf
      split at hf
      · exact idle hf
      · split at hf
        · rename_i code message
          obtain ⟨rfl, -⟩ := Prod.mk.inj (Option.some.inj hf)
          exact Spares.trans (d := { c with authRejected := code = 1 || c.authRejected })
            (spares_of_fields rfl rfl rfl rfl) (settleAuth_spares _ _)
        · exact idle hf
  | goAway correlation body =>
      unfold handleFrame at hf
      dsimp only at hf
      split at hf
      · exact idle hf
      · split at hf <;> exact idle hf
  | message messageType payload correlation responseFinal =>
      unfold handleFrame at hf
      dsimp only at hf
      split at hf
      · obtain ⟨rfl, -⟩ := Prod.mk.inj (Option.some.inj hf)
        exact spares_of_fields rfl rfl rfl rfl
      · exact idle hf
      · cases hf

/-- One HELLO among the frames of a chunk is enough. -/
theorem handleFrames_spares {frames : List InboundFrame} {error : Option ClientError}
    (hf : c.handleFrames frames = some (c', error)) :
    Spares S (c.helloAccepted frames = true) c c' := by
  induction frames generalizing c with
  | nil =>
      obtain ⟨rfl, -⟩ := Prod.mk.inj (Option.some.inj hf)
      exact .refl c
  | cons frame frames ih =>
      unfold handleFrames at hf
      split at hf
      · rename_i c₁ hframe
        have haccepted : c.helloAccepted (frame :: frames) =
            (isHello frame || c₁.helloAccepted frames) := by
          conv_lhs => unfold helloAccepted
          rw [hframe]
        rw [haccepted, Bool.or_eq_true]
        exact ((handleFrame_spares hframe).mono (fun _ => id) fun h => Or.inl h.1).trans
          ((ih hf).mono (fun _ => id) Or.inr)
      · rename_i hend
        refine (handleFrame_spares hf).mono (fun _ => id) fun h => ?_
        obtain ⟨-, rfl⟩ := h
        exact absurd hf (hend c')

theorem endReceiveLoop_spares (c : Connection) (t : TransportId) :
    Spares S anew c (c.endReceiveLoop t) := spares_of_fields rfl rfl rfl rfl

theorem receiveFailed_spares (c : Connection) (t : TransportId) (error : ClientError) :
    Spares S anew c (c.receiveFailed t error) := by
  unfold receiveFailed
  split
  · exact endReceiveLoop_spares c t
  · exact (handleConnectionLoss_spares c error t).trans (endReceiveLoop_spares _ t)

theorem beginChunk_spares (c : Connection) (t : TransportId) (frames : List InboundFrame)
    (pending : Bool) : Spares S anew c (c.beginChunk t frames pending) := by
  unfold beginChunk confirmSession
  dsimp only
  split
  · exact spares_of_fields rfl rfl rfl rfl
  · split <;> exact spares_of_fields rfl rfl rfl rfl

/-- A chunk moves no call on: what it answers goes on in later steps. -/
theorem received_spares {parsed : Except ClientError (List InboundFrame × Bool)}
    (hs : c.received t parsed = some c') :
    Spares S (c.acceptsHello (.receive t (.ok parsed)) = true) c c' := by
  unfold received at hs
  split at hs
  · cases hs
    exact endReceiveLoop_spares c t
  · split at hs
    · rename_i frames pending
      unfold chunkReceived at hs
      have hbegin : Spares S (c.acceptsHello (.receive t (.ok (.ok (frames, pending)))) = true) c
          (c.beginChunk t frames pending) := beginChunk_spares ..
      split at hs
      · rename_i c₁ hframes
        cases hs
        refine (hbegin.trans (handleFrames_spares hframes)).trans ?_
        unfold continueReceiveLoop
        split
        · exact .refl c₁
        · exact endReceiveLoop_spares c₁ t
      · rename_i c₁ error hframes
        cases hs
        exact (hbegin.trans (handleFrames_spares hframes)).trans (receiveFailed_spares c₁ t error)
      · cases hs
    · cases hs
      exact receiveFailed_spares c t _

theorem heartbeatSettled_spares (c : Connection) (t : TransportId) (active : Bool) :
    Spares S anew c (c.heartbeatSettled t active) := by
  unfold heartbeatSettled
  dsimp only
  split
  · exact spares_of_fields rfl rfl rfl rfl
  · split
    · split
      · exact spares_of_fields rfl rfl rfl rfl
      · refine Spares.trans ?_ (handleConnectionLoss_spares _ _ _)
        exact spares_of_fields rfl rfl rfl rfl
    · exact spares_of_fields rfl rfl rfl rfl

/-! ### The calls -/

/-- The call that asks for a slot is the one that moves. -/
theorem acquireSlotAndWait_spares (c : Connection) (aborted : Bool) (hi : S i) :
    Spares S anew c (c.acquireSlotAndWait i aborted) := by
  unfold acquireSlotAndWait
  split
  · exact modifyCall_spares (Or.inl hi)
  · rename_i slot readiness _
    exact Spares.trans (d := { c with readiness }.waitForReady i aborted)
      (spares_of_fields rfl rfl rfl rfl) (modifyCall_spares (Or.inl hi))

theorem call_spares (c : Connection) (request : CallRequest) (messageType : MessageType)
    (frameLength : Nat) (signal : Option Bool) (hi : S i) :
    Spares S anew c (c.call i request messageType frameLength signal) := by
  have start : ∀ (c₁ : Connection) kind,
      Spares S anew c₁ (c₁.startCall i kind messageType frameLength signal) :=
    fun _ _ => modifyCall_spares (Or.inl hi)
  unfold call
  split
  · refine (start c .waitUntilReady).trans (Spares.trans (d :=
      (c.startCall i .waitUntilReady messageType frameLength signal).waitForReady i
        (signal = some true)) ?_ (modifyCall_spares (Or.inl hi)))
    exact spares_of_fields rfl rfl rfl rfl
  · dsimp only
    split
    · exact (start c _).trans (modifyCall_spares (Or.inl hi))
    · exact (start c _).trans (acquireSlotAndWait_spares _ _ hi)
  · exact (start c _).trans (acquireSlotAndWait_spares _ _ hi)
  · unfold sendCorrelated
    split
    · exact (start c _).trans (modifyCall_spares (Or.inl hi))
    · rename_i correlation m _
      exact Spares.trans (d := { c with multiplexer := m }) (spares_of_fields rfl rfl rfl rfl)
        ((start _ _).trans (acquireSlotAndWait_spares _ _ hi))

theorem acquireRequestSlot_spares (c : Connection) (hi : S i) :
    Spares S anew c (c.acquireRequestSlot i) := by
  refine Spares.trans (modifyGate_spares (fun j hj => ?_) fun hg => hg.acquire i _)
    (modifyCall_spares (Or.inl hi))
  exact RequestGate.acquire_queued fun hij => hj (hij ▸ hi)

/-- The call gives back its slot for the wait, and asks for one of the request gate or ends. -/
theorem waitReturned_spares (c : Connection) (slot : Bool) (failure : Option ClientError)
    (hi : S i) : Spares S anew c (c.waitReturned i slot failure) := by
  unfold waitReturned
  extract_lets c₁
  have hrelease : Spares S anew c c₁ := by
    change Spares S anew c (c.releaseReadyWaitSlot slot)
    unfold releaseReadyWaitSlot
    split
    · exact spares_of_fields rfl rfl rfl rfl
    · exact .refl c
  have finish : ∀ failure, Spares S anew c₁ (c₁.finishCall i failure) :=
    fun _ => modifyCall_spares (Or.inl hi)
  refine hrelease.trans ?_
  split
  · exact finish _
  · split
    · exact finish _
    · exact finish _
    · split
      · exact finish _
      · exact acquireRequestSlot_spares c₁ hi
    · split
      · exact finish _
      · exact acquireRequestSlot_spares c₁ hi

theorem readyContinues_spares (hi : S i) (hs : c.readyContinues i = some c') :
    Spares S anew c c' := by
  unfold readyContinues at hs
  split at hs
  · cases hs
    exact acquireRequestSlot_spares c hi
  · split at hs
    · cases hs
      exact waitReturned_spares c _ _ hi
    · cases hs
      exact waitReturned_spares c _ _ hi
    · cases hs
    · cases hs
  · cases hs

theorem releaseAndFinish_spares (c : Connection) (gate : GateId) (failure : Option ClientError)
    (hi : S i) : Spares S anew c (c.releaseAndFinish i gate failure) := by
  have hrelease : Spares S anew c (c.modifyGate gate .release) :=
    modifyGate_spares (fun _ _ => RequestGate.release_queued) RequestGate.Queues.release
  unfold releaseAndFinish finishCall
  exact hrelease.trans (modifyCall_spares (Or.inl hi))

/-- The call that has been given a slot moves; what it leaves in the gate is for the queue. -/
theorem slotContinues_spares (hi : S i) {nowMs : Nat} (hs : c.slotContinues i nowMs = some c') :
    Spares S anew c c' := by
  unfold slotContinues at hs
  split at hs
  · split at hs
    · cases hs
      unfold slotGranted
      split
      · exact releaseAndFinish_spares c _ _ hi
      · split
        · exact releaseAndFinish_spares c _ _ hi
        · split
          · exact Spares.trans (d := c.sendSerialized i _ _)
              (spares_of_fields rfl rfl rfl rfl) (modifyCall_spares (Or.inl hi))
          · unfold multiplexerRequest
            extract_lets call r
            split
            · exact releaseAndFinish_spares c _ _ hi
            · refine Spares.trans ?_ (modifyCall_spares (Or.inl hi))
              exact spares_of_fields rfl rfl rfl rfl
    · cases hs
      exact modifyCall_spares (Or.inl hi)
    · cases hs
    · cases hs
  · cases hs

theorem sendSettles_spares (hs : c.sendSettles i = some c') : Spares S anew c c' := by
  unfold sendSettles at hs
  split at hs
  · split at hs
    · split at hs
      · cases hs
        exact spares_of_fields rfl rfl rfl rfl
      · cases hs
        exact spares_of_fields rfl rfl rfl rfl
      · cases hs
    · cases hs
  · cases hs

theorem handlePossibleTransportFailure_spares (c : Connection) (error : ClientError)
    (t : TransportId) : Spares S anew c (c.handlePossibleTransportFailure error t) := by
  unfold handlePossibleTransportFailure
  split
  · exact .refl c
  · split
    · exact handleConnectionLoss_spares c error t
    · exact .refl c

theorem callSettles_spares (hi : S i) (hs : c.callSettles i = some c') : Spares S anew c c' := by
  unfold callSettles at hs
  split at hs
  · cases hs
    exact releaseAndFinish_spares c _ _ hi
  · rename_i gate t error _
    cases hs
    exact (handlePossibleTransportFailure_spares c error t).trans
      (releaseAndFinish_spares _ _ _ hi)
  · cases hs

/-- A signal is noted for its call, which goes on in a later step. -/
theorem abortCall_spares (hs : c.abortCall i = some c') : Spares S anew c c' := by
  unfold abortCall at hs
  split at hs
  · extract_lets c₁ at hs
    have hmark : Spares S anew c c₁ := modifyCall_spares (Or.inr ⟨rfl, rfl, rfl⟩)
    split at hs
    · cases hs
      exact hmark.trans (spares_of_fields rfl rfl rfl rfl)
    · cases hs
      exact hmark.trans (modifyGate_spares (fun _ _ => RequestGate.abort_queued)
        fun hg => hg.abort i)
    · cases hs
      exact hmark.trans (spares_of_fields rfl rfl rfl rfl)
    · exact Option.some.inj hs ▸ hmark
  · cases hs

theorem writeEnds_spares {failure : Option ClientError} (hs : c.writeEnds failure = some c') :
    Spares S anew c c' := by
  unfold writeEnds at hs
  split at hs
  · cases hs
  · dsimp only at hs
    split at hs
    · cases hs
      exact Spares.trans (d := { c with writing := none }) (spares_of_fields rfl rfl rfl rfl)
        (modifyCall_spares (Or.inr ⟨rfl, rfl, rfl⟩))
    · cases hs
      exact spares_of_fields rfl rfl rfl rfl
    · cases hs
      exact spares_of_fields rfl rfl rfl rfl

/-! ### Any step -/

/-- The call a step belongs to. -/
def mover : Event → Option CallId
  | .connect i _ | .call i _ _ _ _ | .readyContinues i | .slotContinues i _ | .callSettles i =>
    some i
  | _ => none

/-- A step that opens a transport, or gives one up without closing the gate, or accepts a
HELLO: the gate may be another one afterwards. -/
def resetsGate (c : Connection) : Event → Prop
  | .connect _ _ => c.state ≠ .authenticated
  | .reconnectWake => c.closeRequested = false
  | .attemptClosed _ => True
  | e => c.acceptsHello e = true

/-- `connect` opens a transport unless the client is authenticated. -/
theorem connect_spares (c : Connection) {signal : Option Bool} (hi : S i) :
    Spares S (c.state ≠ .authenticated) c (c.connect i signal).2 := by
  unfold connect
  split
  · exact .refl c
  · split
    · exact .refl c
    · split
      · exact .refl c
      · rename_i hstate
        split
        · exact .refl c
        · split
          · dsimp only
            refine (modifyCall_spares
              (f := fun _ => { kind := .connect, signal, phase := .waitingReady false })
              (Or.inl hi)).trans ?_
            exact spares_of_fields rfl rfl rfl rfl
          · refine Spares.mono (S := S) (p := True) ?_ (fun _ => id) fun _ => hstate
            exact Spares.trans (d := { c with authRejected := false, reconnectExhausted := false })
              (spares_of_fields rfl rfl rfl rfl) ((openAndAuthenticate_spares _ false signal).trans
                (spares_of_fields rfl rfl rfl rfl))

theorem attemptStep_spares {e : Event} (hs : c.attemptStep t e = some c') :
    Spares S (c.resetsGate e) c c' := by
  unfold attemptStep at hs
  split at hs
  · rename_i failure
    split at hs
    · cases hs
      cases failure
      · exact transportConnected_spares c t
      · exact catchFailure_spares c t _
    · cases hs
  · split at hs
    · cases hs
      exact helloReceived_spares c t
    · cases hs
      exact catchFailure_spares c t _
    · cases hs
  · split at hs
    · cases hs
      exact restored_spares c t
    · cases hs
  · split at hs
    · cases hs
      exact (rethrowFailure_spares c t _ _ _).mono (fun _ => id) id
    · cases hs
  · cases hs

theorem handshakeStep_spares {e : Event} (hs : c.handshakeStep t e = some c') :
    Spares S anew c c' := by
  unfold handshakeStep at hs
  split at hs
  · rename_i failure
    split at hs
    · cases hs
      cases failure
      · change Spares S anew c (c.tokenProvided t)
        unfold tokenProvided
        split <;> exact spares_of_fields rfl rfl rfl rfl
      · exact spares_of_fields rfl rfl rfl rfl
    · cases hs
  · rename_i failure
    split at hs
    · cases hs
      cases failure <;> exact spares_of_fields rfl rfl rfl rfl
    · cases hs
  · split at hs
    · cases hs
      exact spares_of_fields rfl rfl rfl rfl
    · cases hs
  · split at hs
    · cases hs
      split <;> exact spares_of_fields rfl rfl rfl rfl
    · cases hs
  · cases hs

/-- The loop opens a transport when it wakes. -/
theorem reconnectStep_spares {e : Event} (hs : c.reconnectStep e = some c') :
    Spares S (c.resetsGate e) c c' := by
  unfold reconnectStep at hs
  split at hs
  · split at hs
    · cases hs
      unfold reconnectWake
      split
      · exact spares_of_fields rfl rfl rfl rfl
      · rename_i hclose
        refine Spares.mono (S := S) (p := True) ?_ (fun _ => id)
          fun _ => Bool.eq_false_iff.mpr hclose
        exact (openAndAuthenticate_spares c true none).trans (spares_of_fields rfl rfl rfl rfl)
    · cases hs
  · split at hs
    · split at hs
      · cases hs
        rename_i failure _
        cases failure
        · exact spares_of_fields rfl rfl rfl rfl
        · change Spares S _ c (c.reconnectFailed _ _)
          unfold reconnectFailed runLoopHead
          split
          · exact spares_of_fields rfl rfl rfl rfl
          · split
            · exact spares_of_fields rfl rfl rfl rfl
            · split
              · exact spares_of_fields rfl rfl rfl rfl
              · split
                · exact spares_of_fields rfl rfl rfl rfl
                · split <;> exact spares_of_fields rfl rfl rfl rfl
      · cases hs
    · cases hs
  · split at hs
    · cases hs
      exact spares_of_fields rfl rfl rfl rfl
    · cases hs
  · split at hs
    · cases hs
      exact spares_of_fields rfl rfl rfl rfl
    · cases hs
  · cases hs

theorem receiveStep_spares {e : Event} (hs : c.receiveStep e = some c') :
    Spares S (c.acceptsHello e = true) c c' := by
  unfold receiveStep at hs
  split at hs
  · rename_i outcome
    split at hs
    · cases outcome with
      | error error =>
          cases hs
          exact receiveFailed_spares c _ error
      | ok parsed => exact received_spares hs
    · cases hs
  · obtain ⟨t, -, rfl⟩ := Option.map_eq_some_iff.mp hs
    unfold partialFrameTimer
    dsimp only
    split <;> exact spares_of_fields rfl rfl rfl rfl
  · split at hs
    · cases hs
      unfold failPartialFrame
      refine Spares.trans ?_ (handleConnectionLoss_spares _ _ _)
      exact spares_of_fields rfl rfl rfl rfl
    · cases hs
  · obtain ⟨t, -, rfl⟩ := Option.map_eq_some_iff.mp hs
    unfold heartbeatTick
    split <;> exact spares_of_fields rfl rfl rfl rfl
  · split at hs
    · cases hs
    · cases hs
      exact heartbeatSettled_spares c _ _
  · split at hs
    · cases hs
      exact spares_of_fields rfl rfl rfl rfl
    · cases hs
  · cases hs

/-- The steps of the calls: each moves its own. -/
theorem callStep_spares {e : Event} (hS : ∀ i, mover e = some i → S i)
    (hs : c.callStep e = some c') : Spares S anew c c' := by
  unfold callStep at hs
  split at hs
  · split at hs
    · cases hs
      exact call_spares c _ _ _ _ (hS _ rfl)
    · cases hs
  · exact readyContinues_spares (hS _ rfl) hs
  · exact slotContinues_spares (hS _ rfl) hs
  · exact sendSettles_spares hs
  · exact abortCall_spares hs
  · split at hs
    · cases hs
      exact spares_of_fields rfl rfl rfl rfl
    · cases hs
  · unfold writeBegins at hs
    split at hs
    · cases hs
      exact spares_of_fields rfl rfl rfl rfl
    · cases hs
  · exact writeEnds_spares hs
  · obtain ⟨m, -, rfl⟩ := Option.map_eq_some_iff.mp hs
    exact spares_of_fields rfl rfl rfl rfl
  · split at hs
    · obtain ⟨m, -, rfl⟩ := Option.map_eq_some_iff.mp hs
      exact spares_of_fields rfl rfl rfl rfl
    · cases hs
  · cases hs

/-- Every step spares the calls whose step it is not. -/
theorem step_spares {e : Event} (hs : c.step e = some c') :
    Spares (fun i => mover e = some i) (c.resetsGate e) c c' := by
  cases e with
  | connect i signal =>
      simp only [step] at hs
      split at hs
      · cases hs
        exact connect_spares c rfl
      · cases hs
  | connectSettled t =>
      simp only [step] at hs
      split at hs
      · cases hs
        unfold connectSettled
        split
        · exact spares_of_fields rfl rfl rfl rfl
        · exact .refl c
      · cases hs
  | close =>
      cases hs
      exact close_spares c
  | callSettles i => exact callSettles_spares rfl hs
  | transportConnect | helloSettled | restored | attemptClosed => exact attemptStep_spares hs
  | token | connectSent | helloTimeout | abortAttempt =>
      simp only [step] at hs
      exact handshakeStep_spares hs
  | reconnectWake | reconnectAttempted | reconnectReturned | reconnectSettled =>
      exact reconnectStep_spares hs
  | receive | partialFrameTimer | partialFrameClosed | heartbeatTick | heartbeatSettled
  | connectionLossSettled => exact receiveStep_spares hs
  | call | readyContinues | slotContinues | sendSettles | abortCall | waitTimeout | writeBegins
  | writeEnds | multiplexerTimer | register => exact callStep_spares (fun _ => id) hs

end Connection

end FitzTs.Client
