import FitzTs.Client.Connection.Serving
import FitzTs.Domains.Handles
/-!
# FitzTs.Domains.Handles.Sessions

Whether a handle keeps to the session that granted its id.

It does if its object is built before the connection is lost, so that its listener
hears of the loss, and if `executeWithRetry` makes no further attempt after the loss:
an open handle then stands for a connection that is still authenticated on the
transport of the grant, and a request made there goes to this transport or nowhere.
-/

namespace FitzTs.Handles

open FitzTs.Client

variable {s s' : Client} {c : Connection} {h : HandleId} {handle : Handle} {r : Request}

namespace Client

/-- What a handle sends goes to the transport of the session that granted its id. -/
def KeepsSession (s : Client) : Prop :=
  ∀ r ∈ s.requests, ∀ handle, s.handles r.handle = some handle →
    ∀ w ∈ s.connection.written, ∀ id, w.frame = .message r.call id → w.transport = handle.session

/-- There has been no disconnect since the id was granted. -/
def alive (s : Client) (handle : Handle) : Bool := s.connection.disconnects = handle.grantedAt

/-- The object of a handle is built, and `executeWithRetry` makes its next attempt, before
the connection is lost. The connection takes up its sessions one at a time, and opens no
transport while a request of a handle is about to continue. -/
def KeepsHandles (s : Client) : Event → Prop
  | .connection e => s.connection.KeepsSessions e ∧
      (s.connection.opensTransport e = true → ∀ r ∈ s.requests, s.connection.Due r.call = false)
  | .builds h => (s.handles h).all s.alive = true
  | .retries i _ _ => ∀ r ∈ s.requests, r.call = i → (s.handles r.handle).all s.alive = true
  | _ => True

instance (s : Client) : ∀ e, Decidable (s.KeepsHandles e)
  | .connection _ => inferInstanceAs (Decidable (_ ∧ (_ → _)))
  | .builds _ => inferInstanceAs (Decidable (_ = true))
  | .retries _ _ _ => inferInstanceAs (Decidable (∀ r ∈ s.requests, _ → _))
  | .grants .. | .operates .. | .disposes .. | .continues .. => isTrue trivial

/-- A handle that can be used stands for the session its id was granted in, and so do the
requests made by it. -/
structure Sound (s : Client) : Prop where
  orderly : s.connection.Orderly
  granted : ∀ {h handle}, s.handles h = some handle → handle.grantedAt ≤ s.connection.disconnects
  serves : ∀ {h handle}, s.handles h = some handle → s.alive handle = true →
    s.connection.state = .authenticated ∧ s.connection.transport = some handle.session
  usable : ∀ {h handle}, s.handles h = some handle → handle.built = true →
    handle.closed = false → s.alive handle = true
  confined : ∀ r ∈ s.requests, ∃ handle, s.handles r.handle = some handle ∧
    s.connection.Confined r.call handle.session

theorem sound_create (options : ConnectionOptions) : Sound { connection := .create options } where
  orderly := Connection.orderly_create options
  granted := fun h => (nomatch h)
  serves := fun h => (nomatch h)
  usable := fun h => (nomatch h)
  confined := fun _ h => (nomatch h)

theorem Sound.keepsSession (hs : s.Sound) : s.KeepsSession := by
  intro r hr handle hhandle w hw id hframe
  obtain ⟨handle', hhandle', hconfined⟩ := hs.confined r hr
  obtain rfl := Option.some.inj (hhandle.symm.trans hhandle')
  exact hconfined.frames (Or.inr hw) hframe

/-! ### The handles -/

/-- The handles stand for the same sessions, and none has become usable. -/
theorem Sound.of_handles (hs : s.Sound) (hconnection : s'.connection = s.connection)
    (hrequests : s'.requests = s.requests)
    (hback : ∀ {h handle'}, s'.handles h = some handle' → ∃ handle, s.handles h = some handle ∧
      handle'.session = handle.session ∧ handle'.grantedAt = handle.grantedAt ∧
      (handle'.built = true → handle'.closed = false → s.alive handle = true))
    (hforth : ∀ {h handle}, s.handles h = some handle → ∃ handle', s'.handles h = some handle' ∧
      handle'.session = handle.session) : s'.Sound := by
  refine ⟨hconnection ▸ hs.orderly, fun {h handle'} hh => ?_, fun {h handle'} hh halive => ?_,
    fun {h handle'} hh hbuilt hclosed => ?_, fun r hr => ?_⟩
  · obtain ⟨handle, hh₀, -, hgranted, -⟩ := hback hh
    rw [hconnection, hgranted]
    exact hs.granted hh₀
  · obtain ⟨handle, hh₀, hsession, hgranted, -⟩ := hback hh
    unfold alive at halive
    rw [hconnection, hgranted] at halive
    rw [hconnection, hsession]
    exact hs.serves hh₀ halive
  · obtain ⟨handle, -, -, hgranted, husable⟩ := hback hh
    unfold alive
    rw [hconnection, hgranted]
    exact husable hbuilt hclosed
  · obtain ⟨handle, hh, hconfined⟩ := hs.confined r (hrequests ▸ hr)
    obtain ⟨handle', hh', hsession⟩ := hforth hh
    exact ⟨handle', hh', by rw [hconnection, hsession]; exact hconfined⟩

theorem modifyHandle_handles (s : Client) (h h' : HandleId) (f : Handle → Handle) :
    (s.modifyHandle h f).handles h' = if h' = h then (s.handles h').map f else s.handles h' := by
  unfold modifyHandle
  by_cases hh : h' = h
  · subst hh
    simp
  · simp [hh]

/-- One handle is changed, and is usable only if it was. -/
theorem Sound.modifyHandle (hs : s.Sound) {f : Handle → Handle}
    (hsession : ∀ handle, (f handle).session = handle.session)
    (hgranted : ∀ handle, (f handle).grantedAt = handle.grantedAt)
    (husable : ∀ handle, s.handles h = some handle → (f handle).built = true →
      (f handle).closed = false → s.alive handle = true) : (s.modifyHandle h f).Sound := by
  refine hs.of_handles rfl rfl (fun {h' handle'} hh => ?_) fun {h' handle} hh => ?_
  · rw [modifyHandle_handles] at hh
    split at hh
    · rename_i heq
      obtain ⟨handle, hh₀, rfl⟩ := Option.map_eq_some_iff.mp hh
      exact ⟨handle, hh₀, hsession handle, hgranted handle, husable handle (heq ▸ hh₀)⟩
    · exact ⟨handle', hh, rfl, rfl, hs.usable hh⟩
  · rw [modifyHandle_handles]
    split
    · exact ⟨f handle, by rw [hh]; rfl, hsession handle⟩
    · exact ⟨handle, hh, rfl⟩

/-! ### The connection -/

theorem follow_handles (s : Client) (c : Connection) (h : HandleId) : (s.follow c).handles h =
    if c.disconnects = s.connection.disconnects then s.handles h
    else (s.handles h).map Handle.disconnected := rfl

@[simp] theorem disconnected_session (handle : Handle) :
    handle.disconnected.session = handle.session := by
  unfold Handle.disconnected
  split <;> rfl

@[simp] theorem disconnected_kind (handle : Handle) : handle.disconnected.kind = handle.kind := by
  unfold Handle.disconnected
  split <;> rfl

@[simp] theorem disconnected_grantedAt (handle : Handle) :
    handle.disconnected.grantedAt = handle.grantedAt := by
  unfold Handle.disconnected
  split <;> rfl

/-- The listener closes the handles that are built. -/
theorem disconnected_usable (hbuilt : handle.disconnected.built = true) :
    handle.disconnected.closed = true := by
  unfold Handle.disconnected at hbuilt ⊢
  split
  · rfl
  · rename_i hunbuilt
    rw [if_neg hunbuilt] at hbuilt
    exact absurd hbuilt hunbuilt

/-- A step of the connection: who is disconnected is closed. -/
theorem Sound.connection_step (hs : s.Sound) {e : Connection.Event}
    (hK : s.KeepsHandles (.connection e)) (hst : s.connection.step e = some c) :
    (s.follow c).Sound := by
  obtain ⟨hK, hdue⟩ := hK
  have hmono := (Connection.step_spares hst).disconnects
  have back : ∀ {h handle'}, (s.follow c).handles h = some handle' → ∃ handle,
      s.handles h = some handle ∧ handle'.session = handle.session ∧
      handle'.grantedAt = handle.grantedAt ∧
      (c.disconnects = s.connection.disconnects ∧ handle' = handle ∨
        handle' = handle.disconnected) := by
    intro h handle' hh
    rw [follow_handles] at hh
    split at hh
    · rename_i hsame
      exact ⟨handle', hh, rfl, rfl, Or.inl ⟨hsame, rfl⟩⟩
    · obtain ⟨handle, hh₀, rfl⟩ := Option.map_eq_some_iff.mp hh
      exact ⟨handle, hh₀, disconnected_session handle, disconnected_grantedAt handle, Or.inr rfl⟩
  -- a handle that is alive afterwards was so before, and nothing was lost
  have same : ∀ {h handle}, s.handles h = some handle → c.disconnects = handle.grantedAt →
      c.disconnects = s.connection.disconnects ∧ s.alive handle = true := by
    intro h handle hh heq
    have hle := hs.granted hh
    have hd : c.disconnects = s.connection.disconnects := le_antisymm (heq ▸ hle) hmono
    exact ⟨hd, decide_eq_true (hd.symm.trans heq)⟩
  refine ⟨hs.orderly.step hK hst, fun {h handle'} hh => ?_, fun {h handle'} hh halive => ?_,
    fun {h handle'} hh hbuilt hclosed => ?_, fun r hr => ?_⟩
  · obtain ⟨handle, hh₀, -, hgranted, -⟩ := back hh
    exact hgranted ▸ (hs.granted hh₀).trans hmono
  · obtain ⟨handle, hh₀, hsession, hgranted, -⟩ := back hh
    obtain ⟨hd, halive₀⟩ := same hh₀ ((of_decide_eq_true halive).trans hgranted)
    obtain ⟨hauth, htransport⟩ := hs.serves hh₀ halive₀
    obtain ⟨hauth', htransport', -⟩ := hs.orderly.stays hK hst hauth hd
    exact ⟨hauth', (htransport'.trans htransport).trans (hsession ▸ rfl)⟩
  · obtain ⟨handle, hh₀, -, -, ⟨hd, rfl⟩ | rfl⟩ := back hh
    · have halive := of_decide_eq_true (hs.usable hh₀ hbuilt hclosed)
      exact decide_eq_true (hd.trans halive)
    · rw [disconnected_usable hbuilt] at hclosed
      cases hclosed
  · obtain ⟨handle, hh, hconfined⟩ := hs.confined r hr
    have hstep : c.Confined r.call handle.session := by
      refine hconfined.step hs.orderly hK (fun hd => ?_) hst
      -- a transport is opened only when no request of a handle waits
      by_contra hopened
      have hopens : s.connection.opensTransport e = true := by
        unfold Connection.opensTransport
        rw [hst]
        simpa using hopened
      rw [hdue hopens r hr] at hd
      cases hd
    rw [follow_handles]
    split
    · exact ⟨handle, hh, hstep⟩
    · exact ⟨handle.disconnected, by rw [hh]; rfl, by rw [disconnected_session]; exact hstep⟩

/-- A handle after a grant is the new one, or was there before. -/
theorem grant_handles {h' : HandleId} {handle' : Handle}
    (hh : (s.grant h handle).handles h' = some handle') :
    h' = h ∧ handle' = handle ∨ h' ≠ h ∧ s.handles h' = some handle' := by
  unfold Client.grant at hh
  dsimp only at hh
  by_cases heq : h' = h
  · subst heq
    rw [Function.update_self] at hh
    exact Or.inl ⟨rfl, (Option.some.inj hh).symm⟩
  · rw [Function.update_of_ne heq] at hh
    exact Or.inr ⟨heq, hh⟩

/-- An id is granted on an authenticated connection. -/
theorem Sound.grant (hs : s.Sound) {t : TransportId} (hnew : s.handles h = none)
    (htransport : s.connection.transport = some t) (hauth : s.connection.state = .authenticated)
    (kind : HandleKind) :
    (s.grant h { kind, session := t, grantedAt := s.connection.disconnects }).Sound := by
  refine ⟨hs.orderly, fun {h' handle'} hh => ?_, fun {h' handle'} hh halive => ?_,
    fun {h' handle'} hh hbuilt hclosed => ?_, fun r hr => ?_⟩
  · rcases grant_handles hh with ⟨-, rfl⟩ | ⟨-, hh⟩
    · exact le_rfl
    · exact hs.granted hh
  · rcases grant_handles hh with ⟨-, rfl⟩ | ⟨-, hh⟩
    · exact ⟨hauth, htransport⟩
    · exact hs.serves hh halive
  · rcases grant_handles hh with ⟨-, rfl⟩ | ⟨-, hh⟩
    · cases hbuilt
    · exact hs.usable hh hbuilt hclosed
  · obtain ⟨handle, hh, hconfined⟩ := hs.confined r hr
    refine ⟨handle, ?_, hconfined⟩
    have hne : r.handle ≠ h := by
      intro heq
      rw [heq, hnew] at hh
      cases hh
    exact (Function.update_of_ne hne ..).trans hh

/-! ### The requests -/

/-- A request of a handle that is alive. -/
theorem Sound.request (hs : s.Sound) (hh : s.handles r.handle = some handle)
    (halive : s.alive handle = true) (hphase : (s.connection.calls r.call).phase = .notCalled)
    (frameLength : Nat) (signal : Option Bool) : (s.request r frameLength signal).Sound := by
  obtain ⟨hauth, htransport⟩ := hs.serves hh halive
  have hst : s.connection.step (.call r.call (.request false) r.operation.messageType frameLength
      signal) = some (s.request r frameLength signal).connection := if_pos hphase
  have hK : s.connection.KeepsSessions (.call r.call (.request false) r.operation.messageType
      frameLength signal) := ⟨trivial, by simp [Connection.disturbs, Connection.acceptsHello]⟩
  obtain ⟨-, -, hcontrol, -⟩ := Connection.call_request_fields s.connection r.call
    r.operation.messageType frameLength signal
  have hcontrol : (s.request r frameLength signal).connection.toControl = s.connection.toControl :=
    hcontrol
  refine ⟨hs.orderly.step hK hst, fun {h handle'} hh' => ?_, fun {h handle'} hh' ha => ?_,
    fun {h handle'} hh' hbuilt hclosed => ?_, fun r' hr' => ?_⟩
  · rw [hcontrol]
    exact hs.granted hh'
  · unfold alive at ha
    rw [hcontrol] at ha ⊢
    exact hs.serves hh' ha
  · unfold alive
    rw [hcontrol]
    exact hs.usable hh' hbuilt hclosed
  · rcases List.mem_cons.mp hr' with rfl | hr'
    · exact ⟨handle, hh, Connection.confined_call htransport
        (fun hw hframe => hs.orderly.called hw hframe hphase) _ _ _⟩
    · obtain ⟨handle', hh', hconfined⟩ := hs.confined r' hr'
      exact ⟨handle', hh', hconfined.step hs.orderly hK (fun _ => by rw [hcontrol]) hst⟩

/-- An operation of a handle that is alive. -/
theorem Sound.start (hs : s.Sound) (hh : s.handles r.handle = some handle)
    (halive : s.alive handle = true) (hphase : (s.connection.calls r.call).phase = .notCalled)
    (frameLength : Nat) (signal : Option Bool) : (s.start r frameLength signal).Sound := by
  have hmodified : (s.modifyHandle r.handle (Handle.started r.operation)).Sound := by
    refine hs.modifyHandle (fun _ => rfl) (fun _ => rfl) fun handle' hh' _ _ => ?_
    obtain rfl := Option.some.inj (hh.symm.trans hh')
    exact halive
  have hh' : (s.modifyHandle r.handle (Handle.started r.operation)).handles r.handle =
      some (handle.started r.operation) := by
    rw [modifyHandle_handles, if_pos rfl, hh]
    rfl
  exact hmodified.request hh' halive hphase frameLength signal

theorem ended_mem {i : CallId} {failure : Option ClientError} (h : s.ended i = some (r, failure)) :
    r ∈ s.requests ∧ r.call = i := by
  unfold ended at h
  split at h
  · cases h
  · split at h
    · obtain ⟨r', hfind, heq⟩ := Option.map_eq_some_iff.mp h
      obtain ⟨rfl, -⟩ := Prod.mk.inj heq
      exact ⟨List.mem_of_find?_eq_some hfind, by simpa using List.find?_some hfind⟩
    · cases h

theorem object_handles (hh : s.object h = some handle) :
    s.handles h = some handle ∧ handle.built = true :=
  Option.filter_eq_some_iff.mp hh

/-! ### Any step -/

theorem Sound.step (hs : s.Sound) {retry : RetryOptions} {e : Event} (hK : s.KeepsHandles e)
    (hst : s.step retry e = some s') : s'.Sound := by
  cases e with
  | connection e =>
      obtain ⟨c, hc, rfl⟩ := Option.map_eq_some_iff.mp hst
      exact hs.connection_step hK hc
  -- the handle is of the session that has granted it
  | grants h kind =>
      simp only [Client.step] at hst
      split at hst
      · rename_i t hnew htransport
        split at hst
        · rename_i hauth
          cases hst
          exact hs.grant hnew htransport hauth kind
        · cases hst
      · cases hst
  -- only now does the handle listen for the loss
  | builds h =>
      simp only [Client.step] at hst
      split at hst
      · rename_i handle hh
        split at hst
        · cases hst
        · cases hst
          refine hs.modifyHandle (fun _ => rfl) (fun _ => rfl) fun handle' hh' _ _ => ?_
          have hK : (s.handles h).all s.alive = true := hK
          rw [hh'] at hK
          exact hK
      · cases hst
  -- the handle is open, so its session is the current one
  | operates h i operation frameLength signal =>
      simp only [Client.step] at hst
      split at hst
      · rename_i handle hobject
        split at hst
        · rename_i hready
          cases hst
          obtain ⟨hh, hbuilt⟩ := object_handles hobject
          exact hs.start (r := { call := i, handle := h, operation }) hh
            (hs.usable hh hbuilt hready.2.1) hready.2.2.2 frameLength signal
        · cases hst
      · cases hst
  | disposes h i frameLength =>
      simp only [Client.step] at hst
      split at hst
      · rename_i handle hobject
        obtain ⟨hh, hbuilt⟩ := object_handles hobject
        split at hst
        · rename_i rollback _
          split at hst
          · cases hst
            exact ⟨hs.orderly, hs.granted, hs.serves, hs.usable, hs.confined⟩
          · rename_i hopen
            split at hst
            · rename_i hphase
              cases hst
              exact hs.start
                (r := { call := i, handle := h, operation := rollback, disposal := true })
                hh (hs.usable hh hbuilt (Bool.not_eq_true _ ▸ hopen)) hphase frameLength none
            · cases hst
        · cases hst
      · cases hst
  | retries i j retryableAnswer =>
      simp only [Client.step] at hst
      split at hst
      · rename_i r failure hended
        split at hst
        · rename_i hready
          cases hst
          obtain ⟨hr, rfl⟩ := ended_mem hended
          obtain ⟨handle, hh, -⟩ := hs.confined r hr
          have halive := hK r hr rfl
          -- no handle was closed between the attempts
          rw [hh] at halive
          have hcontinued : Sound { s with continued := r.call :: s.continued } :=
            ⟨hs.orderly, hs.granted, hs.serves, hs.usable, hs.confined⟩
          exact hcontinued.request (r := { r with call := j, attempt := r.attempt + 1 }) hh halive
            hready.2 _ _
        · cases hst
      · cases hst
  | continues i ok =>
      simp only [Client.step] at hst
      split at hst
      · rename_i r failure hended
        cases hst
        have hcontinued : Sound { s with
            continued := i :: s.continued
            disposed := if r.disposal then r.handle :: s.disposed else s.disposed } :=
          ⟨hs.orderly, hs.granted, hs.serves, hs.usable, hs.confined⟩
        refine hcontinued.modifyHandle (fun _ => rfl) (fun _ => rfl)
          fun handle hh hbuilt hclosed => ?_
        exact hs.usable hh hbuilt (Bool.or_eq_false_iff.mp hclosed).1
      · cases hst

end Client

/-- While the handles are built and retried within their sessions, no frame of a handle is
written to another session. -/
theorem keepsSession_run {options : ConnectionOptions} {retry : RetryOptions} {es : List Event}
    {s : Client}
    (hguard : (machine options retry).Guarded Client.KeepsHandles (machine options retry).init es)
    (hrun : (machine options retry).run es = some s) : s.KeepsSession :=
  (hguard.invariant (Client.sound_create options)
    (fun _ _ _ hs hK hst => hs.step hK hst) hrun).keepsSession

/-- The connection is authenticated on transport 0. -/
def firstSession : List Event :=
  [.connect 0 none, .transportConnect 0 none, .token 0 none, .connectSent 0 none,
    .receive 0 Connection.helloChunk, .helloSettled 0, .connectSettled 0].map .connection

/-- Transport 0 is reset, and the listeners of `onDisconnect` are called. -/
def sessionLost : List Event :=
  [.receive 0 (.error ⟨.transport, "reset"⟩), .connectionLossSettled].map .connection

/-- The reconnect loop authenticates the connection on transport 1. -/
def secondSession : List Event :=
  [.reconnectWake, .transportConnect 1 none, .token 1 none, .connectSent 1 none,
    .receive 1 Connection.helloChunk, .helloSettled 1, .restored 1].map .connection

/-- The request of call `i` is taken up, and its frame is written. -/
def sent (i : CallId) : List Event :=
  [.readyContinues i, .slotContinues i 0, .writeBegins, .writeEnds none].map .connection

/-- A transaction in each of two sessions, each used in its own. -/
def twoTransactionsRun : List Event :=
  firstSession ++ [.grants 0 .kvTransaction, .builds 0, .operates 0 1 KvTransaction.put 20 none] ++
    sent 1 ++ sessionLost ++ secondSession ++
    [.grants 1 .kvTransaction, .builds 1, .operates 1 2 KvTransaction.put 20 none] ++ sent 2

/-- Each `put` is written to the transport of its own session. -/
theorem keepsSession_run_twoTransactions :
    ∃ s, (machine { reconnectEnabled := true } {}).run twoTransactionsRun = some s ∧
      s.connection.written.reverse =
        [⟨0, .connect⟩, ⟨0, .message 1 1⟩, ⟨1, .connect⟩, ⟨1, .message 2 1⟩] ∧
      s.KeepsSession := by
  have hguard : (machine { reconnectEnabled := true } {}).Guarded Client.KeepsHandles
      (machine { reconnectEnabled := true } {}).init twoTransactionsRun := by decide +kernel
  exact ⟨_, rfl, by decide +kernel, keepsSession_run hguard rfl⟩

/-- The connection is lost between the answer and the object it grants. The listener is
registered when the loss has been reported, so the handle stays open, and its `put` goes
to the next session. -/
def lateRun : List Event :=
  firstSession ++ [.grants 0 .kvTransaction] ++ sessionLost ++ [.builds 0] ++ secondSession ++
    [.operates 0 1 KvTransaction.put 20 none] ++ sent 1

/-- The connection is lost while a `get` awaits its answer. `executeWithRetry` runs its
request again, and it waits for the next session. -/
def retriedRun : List Event :=
  firstSession ++ [.grants 0 .kvTransaction, .builds 0, .operates 0 1 KvTransaction.get 20 none] ++
    sent 1 ++ [.connection (.sendSettles 1)] ++ sessionLost ++
    [.connection (.callSettles 1), .retries 1 2 false] ++ secondSession ++ sent 2

/-- A transaction of session 0 writes to session 1. -/
theorem keepsSession_run_fails :
    (¬ ∀ s, (machine { reconnectEnabled := true } {}).run lateRun = some s → s.KeepsSession) ∧
      ¬ ∀ s, (machine { reconnectEnabled := true } {}).run retriedRun = some s →
        s.KeepsSession := by
  constructor
  · intro h
    obtain ⟨s, hs, hrequests, hsession, hwritten⟩ : ∃ s : Client,
        (machine { reconnectEnabled := true } {}).run lateRun = some s ∧
          { call := 1, handle := 0, operation := KvTransaction.put } ∈ s.requests ∧
          (s.handles 0).map (·.session) = some 0 ∧
          ⟨1, .message 1 1⟩ ∈ s.connection.written :=
      ⟨_, rfl, by decide +kernel, by decide +kernel, by decide +kernel⟩
    obtain ⟨handle, hh, hsession⟩ := Option.map_eq_some_iff.mp hsession
    have hkept := h s hs _ hrequests handle hh _ hwritten 1 rfl
    rw [hsession] at hkept
    exact absurd hkept (by decide)
  · intro h
    obtain ⟨s, hs, hrequests, hsession, hwritten⟩ : ∃ s : Client,
        (machine { reconnectEnabled := true } {}).run retriedRun = some s ∧
          { call := 2, handle := 0, operation := KvTransaction.get, attempt := 2 } ∈ s.requests ∧
          (s.handles 0).map (·.session) = some 0 ∧
          ⟨1, .message 2 1⟩ ∈ s.connection.written :=
      ⟨_, rfl, by decide +kernel, by decide +kernel, by decide +kernel⟩
    obtain ⟨handle, hh, hsession⟩ := Option.map_eq_some_iff.mp hsession
    have hkept := h s hs _ hrequests handle hh _ hwritten 1 rfl
    rw [hsession] at hkept
    exact absurd hkept (by decide)

end FitzTs.Handles
