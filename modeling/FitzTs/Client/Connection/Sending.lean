import FitzTs.Client.Connection.Pending
import FitzTs.Client.Connection.Serving
/-!
# FitzTs.Client.Connection.Sending

A request on its way to the transport.

`requestInternal` can fail before its frame is handed to the transport: no wait slot is
free, the connection is not ready when it continues, the gate refuses it, the frame is
too long, its signal has been aborted, or the identifiers are used up. And while the
frame waits for the write lock the request can be settled, by its signal, its timer, an
answer that comes early, or the loss of the connection. `Passes` excludes each of these
but the last. The frame of a request that passes every step, on a connection that is not
lost, is written before the request ends.
-/

namespace FitzTs.Client.Connection

variable {c c' : Connection} {i : CallId} {e : Event} {w : Write}

/-- The frame of call `i` waits for the write lock, or has been handed to a transport. -/
def SendsCall (c : Connection) (i : CallId) : Prop := ∃ w id, c.Sends w ∧ w.frame = .message i id

/-- A caller that has to wait for readiness may do so. -/
def hasWaitSlot (c : Connection) : Bool :=
  (c.readiness.acquireWaitSlot c.state c.readyFailure).isOk

/-- The gate of call `i` has given it a slot. -/
def slotGrantedTo (c : Connection) (i : CallId) : Bool :=
  match (c.calls i).phase with
  | .waitingSlot gate => (c.gates gate).outcomes i = .granted
  | _ => false

/-- Call `i` goes on with a slot, a transport and an identifier. Its frame is not too long,
and its signal has not been aborted. -/
def admits (c : Connection) (i : CallId) : Bool :=
  c.slotGrantedTo i && c.transport.isSome && (c.calls i).frameLength ≤ c.maxMessageBytes &&
    (c.calls i).signal ≠ some true && c.multiplexer.requestCorrelationId.isOk

/-- The frame of call `i` waits for the write lock. -/
def queuesFrame (c : Connection) (i : CallId) : Bool :=
  c.writeChain.any fun w =>
    match w.frame with
    | .message j _ => j = i
    | _ => false

/-- Call `i` waits: for readiness, for a slot or for the write lock. -/
def waits (c : Connection) (i : CallId) : Bool :=
  match (c.calls i).phase with
  | .waitingReady _ | .waitingSlot _ => true
  | _ => c.queuesFrame i

/-- Call `i` is not turned away in the step: it finds the connection ready, it has a slot and
keeps to the limits, and while its frame waits nothing settles its request. -/
def Passes (c : Connection) (i : CallId) : Event → Prop
  | .readyContinues j => j = i → c.readiness.waiters i = .resolved ∧ c.ensureAuthenticated = none
  | .slotContinues j _ => j = i → c.admits i = true
  | e => c.queuesFrame i = true → c.Undisturbed i e

instance (c : Connection) (i : CallId) (e : Event) : Decidable (c.Passes i e) := by
  induction e using Event.casesOn <;> dsimp only [Passes] <;> infer_instance

/-- The request of call `i` has not been turned away. -/
structure OnItsWay (c : Connection) (i : CallId) : Prop where
  kind : (c.calls i).kind = .request false
  phase : match (c.calls i).phase with
    | .waitingReady _ | .waitingSlot _ => True
    | .requesting _ _ => c.SendsCall i ∧ (c.wrote i = false → c.Awaits i)
    | .finished _ => c.wrote i = true
    | .notCalled | .readyForRestore | .sending _ _ => False

/-! ### The frames -/

theorem queuesFrame_iff :
    c.queuesFrame i = true ↔ ∃ w ∈ c.writeChain, ∃ id, w.frame = .message i id :=
  any_message_iff

/-- A frame that has not been written waits for the write lock. -/
theorem SendsCall.queuesFrame (h : c.SendsCall i) (hunwritten : c.wrote i = false) :
    c.queuesFrame i = true := by
  obtain ⟨w, id, hw | hw, hframe⟩ := h
  · exact queuesFrame_iff.mpr ⟨w, hw, id, hframe⟩
  · rw [wrote_iff.mpr ⟨w, hw, id, hframe⟩] at hunwritten
    cases hunwritten

theorem Passes.undisturbed (h : c.Passes i e) (hqueues : c.queuesFrame i = true) :
    c.Undisturbed i e := by
  cases e with
  | readyContinues | slotContinues => trivial
  | _ => exact h hqueues

theorem Posts.wrote_mono (hp : Posts c e c') (h : c.wrote i = true) : c'.wrote i = true := by
  obtain ⟨w, hw, hframe⟩ := wrote_iff.mp h
  exact wrote_iff.mpr ⟨w, hp.written_mono hw, hframe⟩

/-- A frame that waits for the write lock waits on, or is written. -/
theorem Posts.sends_mono (hp : Posts c e c') (hw : c.Sends w) : c'.Sends w := by
  rcases hw with hw | hw
  · cases hp with
    | still _ hs => exact Or.inl (hs.writeChain ▸ hw)
    | opens _ _ hchain | draws _ _ _ _ _ _ _ _ _ _ hchain | connects _ _ _ hchain =>
        exact Or.inl (hchain ▸ hw)
    | begins hcalm | resumes hcalm => exact Or.inl (hcalm.writeChain ▸ hw)
    | beats _ _ hchain | binds _ _ _ _ _ _ _ _ _ hchain =>
        exact Or.inl (hchain ▸ List.mem_append_left _ hw)
    | writes _ hnext hchain hwritten =>
        rw [hnext] at hw
        rcases List.mem_cons.mp hw with rfl | hw
        · exact Or.inr (hwritten ▸ List.mem_cons_self)
        · exact Or.inl (hchain ▸ hw)
  · exact Or.inr (hp.written_mono hw)

theorem Posts.sendsCall_mono (hp : Posts c e c') (h : c.SendsCall i) : c'.SendsCall i := by
  obtain ⟨w, id, hw, hframe⟩ := h
  exact ⟨w, id, hp.sends_mono hw, hframe⟩

/-! ### The steps of a request -/

/-- A request for which there is a wait slot waits for readiness. -/
theorem onItsWay_call (messageType : MessageType) (frameLength : Nat) (signal : Option Bool)
    (hslot : c.hasWaitSlot = true) :
    (c.call i (.request false) messageType frameLength signal).OnItsWay i := by
  obtain ⟨hkind, -⟩ := call_request_fields c i messageType frameLength signal
  refine ⟨hkind, ?_⟩
  have hphase : ∃ slot, ((c.call i (.request false) messageType frameLength signal).calls i).phase =
      .waitingReady slot := by
    unfold call
    dsimp only
    rw [if_neg (by simp [restoreShortcut])]
    unfold acquireSlotAndWait
    split
    · rename_i error hfull
      have hfull : c.readiness.acquireWaitSlot c.state c.readyFailure = .error error := hfull
      unfold hasWaitSlot at hslot
      rw [hfull] at hslot
      cases hslot
    · rename_i slot readiness _
      exact ⟨slot, by simp [modifyCall]⟩
  obtain ⟨slot, hphase⟩ := hphase
  rw [hphase]
  trivial

/-- A request that finds the connection ready asks its gate. -/
theorem OnItsWay.readyContinues (h : c.OnItsWay i) (hresolved : c.readiness.waiters i = .resolved)
    (hready : c.ensureAuthenticated = none) (hs : c.readyContinues i = some c') :
    (c'.calls i).kind = .request false ∧ ∃ gate, (c'.calls i).phase = .waitingSlot gate := by
  have hphase := h.phase
  unfold Connection.readyContinues at hs
  split at hs
  · rename_i hrestore
    rw [hrestore] at hphase
    exact hphase.elim
  · rename_i slot _
    rw [hresolved] at hs
    obtain rfl := Option.some.inj hs
    unfold waitReturned
    extract_lets c₁
    have hcontrol : c₁.toControl = c.toControl := by
      change (c.releaseReadyWaitSlot slot).toControl = _
      unfold releaseReadyWaitSlot
      split <;> rfl
    have hcalls : c₁.calls = c.calls := by
      change (c.releaseReadyWaitSlot slot).calls = _
      unfold releaseReadyWaitSlot
      split <;> rfl
    rw [hcalls, h.kind, hcontrol, hready]
    exact ⟨by simp [acquireRequestSlot, modifyCall, modifyGate, hcalls, h.kind], _,
      by simp [acquireRequestSlot, modifyCall, modifyGate]; rfl⟩
  · cases hs

/-- A request that is admitted puts its frame behind those that wait for the write lock. -/
theorem OnItsWay.slotContinues (h : c.OnItsWay i) (hm : c.multiplexer.WellFormed)
    (hadmits : c.admits i = true) {nowMs : Nat} (hs : c.slotContinues i nowMs = some c') :
    (c'.calls i).kind = .request false ∧
      (∃ gate t, (c'.calls i).phase = .requesting gate t) ∧ c'.SendsCall i ∧ c'.Awaits i := by
  unfold admits slotGrantedTo at hadmits
  simp only [Bool.and_eq_true, decide_eq_true_eq] at hadmits
  obtain ⟨⟨⟨⟨hgranted, htransport⟩, hlength⟩, hsignal⟩, hidentifier⟩ := hadmits
  unfold Connection.slotContinues at hs
  split at hs
  · rename_i gate hphase
    rw [hphase] at hgranted
    have hgranted := of_decide_eq_true hgranted
    rw [hgranted] at hs
    obtain rfl := Option.some.inj hs
    obtain ⟨t, ht⟩ := Option.isSome_iff_exists.mp htransport
    unfold slotGranted
    rw [ht]
    dsimp only
    rw [if_neg (Nat.not_lt.mpr hlength), h.kind]
    dsimp only
    unfold multiplexerRequest
    extract_lets call r
    split
    · rename_i error hissue
      unfold Multiplexer.issueRequest at hissue
      rw [if_neg hsignal] at hissue
      split at hissue
      · rename_i hexhausted
        rw [hexhausted] at hidentifier
        cases hidentifier
      · cases hissue
    · rename_i m hissue
      obtain ⟨entry, henters⟩ := Multiplexer.issueRequest_enters hm hissue
      have hopen : (m.requests r).settled = false := by
        rw [henters.requests, Function.update_self]
        exact henters.settled
      refine ⟨by simp [modifyCall, sendSerialized, h.kind], ⟨gate, t, by simp [modifyCall]⟩,
        ⟨⟨t, .message i ((m.requests r).correlationId.getD 0)⟩, _, Or.inl ?_, rfl⟩, r, ?_, hopen⟩
      · exact List.mem_append_right _ (List.mem_singleton_self _)
      · simp [modifyCall]
  · cases hs

/-- A request that is settled has been written. -/
theorem OnItsWay.wrote_of_callSettles (h : c.OnItsWay i) (hm : c.multiplexer.WellFormed)
    (hs : c.callSettles i = some c') : c.wrote i = true := by
  have hphase := h.phase
  by_contra hunwritten
  have houtcome : c.callOutcome i = none := by
    unfold callOutcome
    split
    · rename_i gate t r hp hrequest
      rw [hp] at hphase
      obtain ⟨r', hr', hopen⟩ := hphase.2 (Bool.not_eq_true _ ▸ hunwritten)
      obtain rfl := Option.some.inj (hrequest.symm.trans hr')
      -- an open request has no settlement
      have honce := hm.once r
      rw [hopen] at honce
      rw [List.length_eq_zero_iff.mp honce]
      rfl
    · rename_i hp
      rw [hp] at hphase
      exact hphase.elim
    · rfl
  unfold Connection.callSettles at hs
  rw [houtcome] at hs
  cases hs

/-- A request that passes the step is on its way after it, if the connection is not lost. -/
theorem OnItsWay.step (h : c.OnItsWay i) (ht : c.Tracked) (hm : c.multiplexer.WellFormed)
    (hpasses : c.Passes i e) (hs : c.step e = some c') (hd : c'.disconnects = c.disconnects) :
    c'.OnItsWay i := by
  have hposts := step_posts hm hs
  have hphase := h.phase
  have hcalled : (c.calls i).phase ≠ .notCalled := by
    intro hp
    rw [hp] at hphase
    exact hphase
  by_cases hmover : mover e = some i
  · cases e with
    | connect =>
        obtain rfl := Option.some.inj hmover
        simp only [Connection.step] at hs
        rw [if_neg hcalled] at hs
        cases hs
    | call =>
        obtain rfl := Option.some.inj hmover
        simp only [Connection.step, callStep] at hs
        rw [if_neg hcalled] at hs
        cases hs
    | readyContinues =>
        obtain rfl := Option.some.inj hmover
        obtain ⟨hresolved, hready⟩ := hpasses rfl
        obtain ⟨hkind, gate, hslot⟩ := h.readyContinues hresolved hready hs
        exact ⟨hkind, by rw [hslot]; trivial⟩
    | slotContinues =>
        obtain rfl := Option.some.inj hmover
        obtain ⟨hkind, ⟨gate, t, hrequesting⟩, hsends, hawaits⟩ :=
          h.slotContinues hm (hpasses rfl) hs
        exact ⟨hkind, by rw [hrequesting]; exact ⟨hsends, fun _ => hawaits⟩⟩
    | callSettles =>
        obtain rfl := Option.some.inj hmover
        obtain ⟨hkind, failure, hfinished⟩ := callSettles_request h.kind hs
        have hwrote := h.wrote_of_callSettles hm hs
        exact ⟨hkind, by rw [hfinished]; exact hposts.wrote_mono hwrote⟩
    | _ => cases hmover
  · obtain ⟨hsame, hkind, -⟩ := (step_spares hs).calls i hmover
    refine ⟨hkind.trans h.kind, ?_⟩
    rw [hsame]
    cases hp : (c.calls i).phase <;> rw [hp] at hphase
    case waitingReady | waitingSlot => trivial
    case requesting =>
      refine ⟨hposts.sendsCall_mono hphase.1, fun hunwritten' => ?_⟩
      have hunwritten : c.wrote i = false := by
        by_contra hwrote
        rw [hposts.wrote_mono (Bool.not_eq_false _ ▸ hwrote)] at hunwritten'
        cases hunwritten'
      have hundisturbed := hpasses.undisturbed (hphase.1.queuesFrame hunwritten)
      exact (hphase.2 hunwritten).step ht hm (by simp [Call.unbound, hp]) hunwritten
        hundisturbed hs hd
    case finished => exact hposts.wrote_mono hphase
    all_goals exact hphase.elim

/-- A request on its way that waits no more has been written. -/
theorem OnItsWay.wrote (h : c.OnItsWay i) (hwaits : c.waits i = false) : c.wrote i = true := by
  have hphase := h.phase
  unfold waits at hwaits
  cases hp : (c.calls i).phase <;> rw [hp] at hphase hwaits
  case waitingReady | waitingSlot => cases hwaits
  case requesting =>
    by_contra hunwritten
    rw [hphase.1.queuesFrame (Bool.not_eq_true _ ▸ hunwritten)] at hwaits
    cases hwaits
  case finished => exact hphase
  all_goals exact hphase.elim

/-! ### One frame a call -/

/-- The frames of the calls in `S` that have been handed to a transport, or wait for the write
lock. -/
def framesFor (c : Connection) (S : CallId → Bool) : Nat :=
  (c.writeChain ++ c.written).countP fun w =>
    match w.frame with
    | .message i _ => S i
    | _ => false

/-- A call has one frame at most, and none until it is bound to a transport. -/
def Single (c : Connection) : Prop :=
  ∀ i, c.framesFor (· = i) ≤ if (c.calls i).unbound then 0 else 1

theorem single_create (options : ConnectionOptions) : (create options).Single :=
  fun _ => Nat.zero_le _

/-- The frames are the same, and no call has become unbound. -/
theorem Single.of_frames (h : c.Single) (hframes : ∀ S, c'.framesFor S = c.framesFor S)
    (hunbound : ∀ i, (c'.calls i).unbound = true → (c.calls i).unbound = true) : c'.Single := by
  intro i
  rw [hframes]
  refine (h i).trans ?_
  by_cases hu : (c'.calls i).unbound = true
  · rw [if_pos hu, if_pos (hunbound i hu)]
  · rw [if_neg hu]
    split
    · exact Nat.zero_le 1
    · exact le_rfl

theorem framesFor_congr (hchain : c'.writeChain = c.writeChain) (hwritten : c'.written = c.written)
    (S : CallId → Bool) : c'.framesFor S = c.framesFor S := by
  unfold framesFor
  rw [hchain, hwritten]

theorem Single.of_posts (h : c.Single) (hp : Posts c e c') : c'.Single := by
  cases hp with
  | still _ hs =>
      exact h.of_frames (framesFor_congr hs.writeChain hs.written) fun i => (hs.calls i).unbound
  | begins hcalm | resumes hcalm =>
      exact h.of_frames (framesFor_congr hcalm.writeChain hcalm.written)
        fun i => (hcalm.calls i).unbound
  | opens _ hcalls hchain hwritten =>
      exact h.of_frames (framesFor_congr hchain hwritten) fun i => by rw [hcalls]; exact id
  | connects honly _ _ hchain hwritten =>
      refine h.of_frames (fun S => ?_) fun i => by rw [honly.calls]; exact id
      unfold framesFor
      rw [hchain, hwritten, List.countP_append, List.countP_append,
        List.countP_cons_of_neg (by simp)]
  | beats honly _ hchain hwritten =>
      refine h.of_frames (fun S => ?_) fun i => by rw [honly.calls]; exact id
      unfold framesFor
      rw [hchain, hwritten, List.countP_append, List.countP_append, List.countP_append,
        List.countP_singleton, if_neg (by simp), Nat.add_zero]
  | @draws _ j _ _ hphase _ _ _ _ _ _ _ hothers hchain hwritten =>
      refine h.of_frames (framesFor_congr hchain hwritten) fun i hu => ?_
      by_cases hij : i = j
      · subst hij
        simp [Call.unbound, hphase]
      · rwa [hothers i hij] at hu
  -- the call has had no frame, and gets one
  | @binds j _ t id _ hunbound _ _ _ _ hbound _ _ hothers hchain hwritten =>
      have hframes : ∀ S, c'.framesFor S = c.framesFor S + if S j then 1 else 0 := by
        intro S
        unfold framesFor
        rw [hchain, hwritten, List.countP_append, List.countP_append, List.countP_append,
          List.countP_singleton]
        dsimp only
        omega
      intro i
      rw [hframes]
      by_cases hij : i = j
      · subst hij
        have hnone := h i
        rw [if_pos hunbound] at hnone
        rw [hbound]
        simpa using hnone
      · rw [if_neg (by simpa using Ne.symm hij), hothers i hij]
        exact h i
  -- the frame moves from the chain to what is written
  | writes honly hnext hchain hwritten =>
      refine h.of_frames (fun S => ?_) fun i => by rw [honly.calls]; exact id
      unfold framesFor
      rw [hchain, hwritten, hnext, List.countP_append, List.countP_append]
      rw [List.countP_cons, List.countP_cons]
      omega

end FitzTs.Client.Connection
