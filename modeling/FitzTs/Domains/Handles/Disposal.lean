import FitzTs.Client.Connection.Sending
import FitzTs.Domains.Handles.Sessions
/-!
# FitzTs.Domains.Handles.Disposal

Whether the broker learns of the end of a disposed transaction.

`commit` and `rollback` set `closed` and make their request afterwards, and the
disposal of a closed transaction does nothing. So it relies on the request that
closed the transaction: one that is turned away before its frame is sent leaves the
transaction open at the broker, and nobody sends another.
-/

namespace FitzTs.Handles

open FitzTs.Client

variable {s s' : Client} {c : Connection} {h : HandleId} {handle : Handle} {r : Request}

/-- The request is a COMMIT or a ROLLBACK of a transaction. -/
def Request.concludes (r : Request) : Bool :=
  r.operation ∈ [KvTransaction.commit, KvTransaction.rollback]

namespace Client

/-- `h` is a transaction, and the session that granted its id is alive. -/
def liveTransaction (s : Client) (h : HandleId) : Bool :=
  (s.handles h).any fun handle => handle.kind = .kvTransaction && s.alive handle

/-- A COMMIT or a ROLLBACK of each transaction has been handed to the transport by the time
its disposal completes, if its session is alive then. -/
def NotAbandoned (s : Client) : Prop :=
  ∀ h ∈ s.disposed, s.liveTransaction h = true →
    ∃ r ∈ s.requests, r.handle = h ∧ r.concludes = true ∧ s.connection.wrote r.call = true

/-- While the session of a transaction is alive, its COMMIT or ROLLBACK is not turned away,
and if the transaction is closed already, its disposal begins when the request that closes it
waits no more. -/
def KeepsTransactions (s : Client) : Event → Prop
  | .connection e => ∀ r ∈ s.requests, r.concludes = true → s.liveTransaction r.handle = true →
      s.connection.Passes r.call e
  | .operates h _ operation _ _ => operation ∈ [KvTransaction.commit, KvTransaction.rollback] →
      s.liveTransaction h = true → s.connection.hasWaitSlot = true
  | .disposes h _ _ => s.liveTransaction h = true → ∀ handle ∈ s.object h,
      if handle.closed then
        ∀ r ∈ s.requests, r.handle = h → r.concludes = true → s.connection.waits r.call = false
      else s.connection.hasWaitSlot = true
  | _ => True

instance (s : Client) (e : Event) : Decidable (s.KeepsTransactions e) := by
  unfold KeepsTransactions
  split <;> infer_instance

/-- A transaction that is closed while its session is alive has made a request that
concludes it, and this request has not been turned away. -/
structure Concluding (s : Client) : Prop where
  sound : s.connection.Sound
  tracked : s.connection.Tracked
  granted : ∀ {h handle}, s.handles h = some handle → handle.grantedAt ≤ s.connection.disconnects
  operations : ∀ r ∈ s.requests, ∃ handle, s.handles r.handle = some handle ∧
    r.operation ∈ handle.kind.operations ∧
    (r.disposal = true → handle.kind.disposal = some r.operation)
  closed : ∀ {h handle}, s.handles h = some handle → s.liveTransaction h = true →
    handle.closed = true → ∃ r ∈ s.requests, r.handle = h ∧ r.concludes = true
  onItsWay : ∀ r ∈ s.requests, r.concludes = true → s.liveTransaction r.handle = true →
    s.connection.OnItsWay r.call
  known : ∀ h ∈ s.disposed, (s.handles h).isSome
  disposed : s.NotAbandoned

theorem concluding_create (options : ConnectionOptions) :
    Concluding { connection := .create options } where
  sound := Connection.sound_create options
  tracked := Connection.tracked_create options
  granted := fun h => (nomatch h)
  operations := fun _ h => (nomatch h)
  closed := fun h => (nomatch h)
  onItsWay := fun _ h => (nomatch h)
  known := fun _ h => (nomatch h)
  disposed := fun _ h => (nomatch h)

theorem liveTransaction_iff : s.liveTransaction h = true ↔
    ∃ handle, s.handles h = some handle ∧ handle.kind = .kvTransaction ∧ s.alive handle = true := by
  unfold liveTransaction
  rw [Option.any_eq_true_iff_get]
  constructor
  · rintro ⟨hsome, hlive⟩
    rw [Bool.and_eq_true, decide_eq_true_eq] at hlive
    exact ⟨_, (Option.some_get hsome).symm, hlive⟩
  · rintro ⟨handle, hh, hkind, halive⟩
    refine ⟨by rw [hh]; rfl, ?_⟩
    simp [hh, hkind, halive]

/-! ### The handles and their requests -/

/-- One handle is changed, and what closes it is a request that concludes it. -/
theorem Concluding.modifyHandle (hs : s.Concluding) {f : Handle → Handle}
    (hkind : ∀ handle, (f handle).kind = handle.kind)
    (hgranted : ∀ handle, (f handle).grantedAt = handle.grantedAt)
    (hclosed : ∀ handle, s.handles h = some handle → handle.kind = .kvTransaction →
      (f handle).closed = true →
        handle.closed = true ∨ ∃ r ∈ s.requests, r.handle = h ∧ r.concludes = true) :
    (s.modifyHandle h f).Concluding := by
  have back : ∀ {h' handle'}, (s.modifyHandle h f).handles h' = some handle' → ∃ handle,
      s.handles h' = some handle ∧ handle'.kind = handle.kind ∧
      handle'.grantedAt = handle.grantedAt ∧ (handle' = handle ∨ h' = h ∧ handle' = f handle) := by
    intro h' handle' hh
    rw [modifyHandle_handles] at hh
    split at hh
    · rename_i heq
      obtain ⟨handle, hh₀, rfl⟩ := Option.map_eq_some_iff.mp hh
      exact ⟨handle, hh₀, hkind handle, hgranted handle, Or.inr ⟨heq, rfl⟩⟩
    · exact ⟨handle', hh, rfl, rfl, Or.inl rfl⟩
  have forth : ∀ {h' handle}, s.handles h' = some handle → ∃ handle',
      (s.modifyHandle h f).handles h' = some handle' ∧ handle'.kind = handle.kind := by
    intro h' handle hh
    rw [modifyHandle_handles]
    split
    · exact ⟨f handle, by rw [hh]; rfl, hkind handle⟩
    · exact ⟨handle, hh, rfl⟩
  have live : ∀ {h'}, (s.modifyHandle h f).liveTransaction h' = true →
      s.liveTransaction h' = true := by
    intro h' hlive
    obtain ⟨handle', hh, hkv, halive⟩ := liveTransaction_iff.mp hlive
    obtain ⟨handle, hh₀, hk, hg, -⟩ := back hh
    unfold alive at halive
    rw [hg] at halive
    exact liveTransaction_iff.mpr ⟨handle, hh₀, hk.symm.trans hkv, halive⟩
  refine ⟨hs.sound, hs.tracked, fun {h' handle'} hh => ?_, fun r hr => ?_,
    fun {h' handle'} hh hlive hc => ?_,
    fun r hr hconcludes hlive => hs.onItsWay r hr hconcludes (live hlive), fun h' hd => ?_,
    fun h' hd hlive => hs.disposed h' hd (live hlive)⟩
  · obtain ⟨handle, hh₀, -, hg, -⟩ := back hh
    rw [hg]
    exact hs.granted hh₀
  · obtain ⟨handle, hh, hoperation, hdisposal⟩ := hs.operations r hr
    obtain ⟨handle', hh', hk⟩ := forth hh
    exact ⟨handle', hh', hk ▸ hoperation, hk ▸ hdisposal⟩
  · obtain ⟨handle, hh₀, hk, -, rfl | ⟨rfl, rfl⟩⟩ := back hh
    · exact hs.closed hh₀ (live hlive) hc
    · obtain ⟨handle', hh', hkv, -⟩ := liveTransaction_iff.mp (live hlive)
      obtain rfl := Option.some.inj (hh₀.symm.trans hh')
      rcases hclosed handle hh₀ hkv hc with hwas | hrequest
      · exact hs.closed hh₀ (live hlive) hwas
      · exact hrequest
  · obtain ⟨handle, hh⟩ := Option.isSome_iff_exists.mp (hs.known h' hd)
    obtain ⟨handle', hh', -⟩ := forth hh
    rw [hh']
    rfl

/-- A request of a handle; if it concludes a transaction, it has a wait slot. -/
theorem Concluding.request (hs : s.Concluding) (hh : s.handles r.handle = some handle)
    (hoperation : r.operation ∈ handle.kind.operations)
    (hdisposal : r.disposal = true → handle.kind.disposal = some r.operation)
    (hphase : (s.connection.calls r.call).phase = .notCalled) (frameLength : Nat)
    (signal : Option Bool)
    (hslot : r.concludes = true → s.liveTransaction r.handle = true →
      s.connection.hasWaitSlot = true) :
    (s.request r frameLength signal).Concluding := by
  have hst : s.connection.step (.call r.call (.request false) r.operation.messageType frameLength
      signal) = some (s.request r frameLength signal).connection := if_pos hphase
  have hposts := Connection.step_posts hs.sound.multiplexer hst
  obtain ⟨-, -, hcontrol, -⟩ := Connection.call_request_fields s.connection r.call
    r.operation.messageType frameLength signal
  have hcontrol : (s.request r frameLength signal).connection.toControl = s.connection.toControl :=
    hcontrol
  have live : ∀ {h'}, (s.request r frameLength signal).liveTransaction h' = true →
      s.liveTransaction h' = true := by
    intro h' hlive
    unfold liveTransaction alive at hlive ⊢
    rwa [hcontrol] at hlive
  refine ⟨hs.sound.step hst, hs.tracked.step hs.sound.multiplexer hst, fun {h' handle'} hh' => ?_,
    fun r' hr' => ?_,
    fun {h' handle'} hh' hlive hc => ?_, fun r' hr' hconcludes hlive => ?_, hs.known,
    fun h' hd hlive => ?_⟩
  · rw [hcontrol]
    exact hs.granted hh'
  · rcases List.mem_cons.mp hr' with rfl | hr'
    · exact ⟨handle, hh, hoperation, hdisposal⟩
    · exact hs.operations r' hr'
  · obtain ⟨r', hr', hrest⟩ := hs.closed hh' (live hlive) hc
    exact ⟨r', List.mem_cons_of_mem _ hr', hrest⟩
  · rcases List.mem_cons.mp hr' with rfl | hr'
    · exact Connection.onItsWay_call _ _ _ (hslot hconcludes (live hlive))
    · have hpasses : s.connection.Passes r'.call (.call r.call (.request false)
          r.operation.messageType frameLength signal) := fun _ => trivial
      exact (hs.onItsWay r' hr' hconcludes (live hlive)).step hs.tracked hs.sound.multiplexer
        hpasses hst (by rw [hcontrol])
  · obtain ⟨r', hr', hhandle, hconcludes, hwrote⟩ := hs.disposed h' hd (live hlive)
    exact ⟨r', List.mem_cons_of_mem _ hr', hhandle, hconcludes, hposts.wrote_mono hwrote⟩

/-- Only COMMIT and ROLLBACK close a transaction at once. -/
theorem concludes_of_first (hoperation : r.operation ∈ HandleKind.kvTransaction.operations)
    (hclosing : r.operation.closing = .first) : r.concludes = true := by
  have every : ∀ operation ∈ HandleKind.kvTransaction.operations, operation.closing = .first →
      operation ∈ [KvTransaction.commit, KvTransaction.rollback] := by decide
  exact decide_eq_true (every _ hoperation hclosing)

/-- No operation of a transaction closes it by how it ends. -/
theorem settled_closed (hkind : handle.kind = .kvTransaction)
    (hoperation : r.operation ∈ handle.kind.operations) (failure : Option ClientError) (ok : Bool) :
    (handle.settled r.operation failure ok).closed = handle.closed := by
  have every : ∀ operation ∈ HandleKind.kvTransaction.operations,
      operation.closing = .never ∨ operation.closing = .first := by decide
  rw [hkind] at hoperation
  unfold Handle.settled
  rcases every _ hoperation with hclosing | hclosing <;> simp [hclosing]

/-- An operation: its request concludes the transaction if it closes it. -/
theorem Concluding.start (hs : s.Concluding) (hh : s.handles r.handle = some handle)
    (hoperation : r.operation ∈ handle.kind.operations)
    (hdisposal : r.disposal = true → handle.kind.disposal = some r.operation)
    (hphase : (s.connection.calls r.call).phase = .notCalled) (frameLength : Nat)
    (signal : Option Bool)
    (hslot : r.concludes = true → s.liveTransaction r.handle = true →
      s.connection.hasWaitSlot = true) :
    (s.start r frameLength signal).Concluding := by
  have hrequest := hs.request hh hoperation hdisposal hphase frameLength signal hslot
  change ((s.request r frameLength signal).modifyHandle r.handle
    (Handle.started r.operation)).Concluding
  refine hrequest.modifyHandle (fun _ => rfl) (fun _ => rfl) fun handle' hh' hkind hclosed => ?_
  obtain rfl := Option.some.inj (hh.symm.trans hh')
  rcases Bool.or_eq_true_iff.mp hclosed with hwas | hfirst
  · exact Or.inl hwas
  · rw [hkind] at hoperation
    exact Or.inr ⟨r, List.mem_cons_self, rfl,
      concludes_of_first hoperation (of_decide_eq_true hfirst)⟩

/-- A step of the connection turns no COMMIT and no ROLLBACK away. -/
theorem Concluding.connection_step (hs : s.Concluding) {e : Connection.Event}
    (hK : s.KeepsTransactions (.connection e)) (hst : s.connection.step e = some c) :
    (s.follow c).Concluding := by
  have hmono := (Connection.step_spares hst).disconnects
  have hposts := Connection.step_posts hs.sound.multiplexer hst
  -- a handle afterwards was one before, and is the same unless the connection was lost
  have back : ∀ {h handle'}, (s.follow c).handles h = some handle' → ∃ handle,
      s.handles h = some handle ∧ handle'.kind = handle.kind ∧
      handle'.grantedAt = handle.grantedAt ∧
      (c.disconnects = s.connection.disconnects → handle' = handle) := by
    intro h handle' hh
    rw [follow_handles] at hh
    split at hh
    · exact ⟨handle', hh, rfl, rfl, fun _ => rfl⟩
    · rename_i hne
      obtain ⟨handle, hh₀, rfl⟩ := Option.map_eq_some_iff.mp hh
      exact ⟨handle, hh₀, disconnected_kind handle, disconnected_grantedAt handle,
        fun heq => absurd heq hne⟩
  have forth : ∀ {h handle}, s.handles h = some handle → ∃ handle',
      (s.follow c).handles h = some handle' ∧ handle'.kind = handle.kind := by
    intro h handle hh
    rw [follow_handles]
    split
    · exact ⟨handle, hh, rfl⟩
    · exact ⟨handle.disconnected, by rw [hh]; rfl, disconnected_kind handle⟩
  -- a transaction that is alive has not seen a loss
  have live : ∀ {h}, (s.follow c).liveTransaction h = true →
      s.liveTransaction h = true ∧ c.disconnects = s.connection.disconnects := by
    intro h hlive
    obtain ⟨handle', hh, hkv, halive⟩ := liveTransaction_iff.mp hlive
    obtain ⟨handle, hh₀, hk, hg, -⟩ := back hh
    have heq : c.disconnects = handle.grantedAt := hg ▸ of_decide_eq_true halive
    have hd : c.disconnects = s.connection.disconnects :=
      le_antisymm (heq ▸ hs.granted hh₀) hmono
    exact ⟨liveTransaction_iff.mpr ⟨handle, hh₀, hk.symm.trans hkv,
      decide_eq_true (hd.symm.trans heq)⟩, hd⟩
  refine ⟨hs.sound.step hst, hs.tracked.step hs.sound.multiplexer hst, fun {h handle'} hh => ?_,
    fun r hr => ?_,
    fun {h handle'} hh hlive hc => ?_, fun r hr hconcludes hlive => ?_, fun h hd => ?_,
    fun h hd hlive => ?_⟩
  · obtain ⟨handle, hh₀, -, hg, -⟩ := back hh
    exact hg ▸ (hs.granted hh₀).trans hmono
  · obtain ⟨handle, hh, hoperation, hdisposal⟩ := hs.operations r hr
    obtain ⟨handle', hh', hk⟩ := forth hh
    exact ⟨handle', hh', hk ▸ hoperation, hk ▸ hdisposal⟩
  · obtain ⟨handle, hh₀, -, -, hsame⟩ := back hh
    obtain ⟨hlive₀, hd⟩ := live hlive
    obtain rfl := hsame hd
    exact hs.closed hh₀ hlive₀ hc
  · obtain ⟨hlive₀, hd⟩ := live hlive
    exact (hs.onItsWay r hr hconcludes hlive₀).step hs.tracked hs.sound.multiplexer
      (hK r hr hconcludes hlive₀) hst hd
  · obtain ⟨handle, hh⟩ := Option.isSome_iff_exists.mp (hs.known h hd)
    obtain ⟨handle', hh', -⟩ := forth hh
    rw [hh']
    rfl
  · obtain ⟨r, hr, hhandle, hconcludes, hwrote⟩ := hs.disposed h hd (live hlive).1
    exact ⟨r, hr, hhandle, hconcludes, hposts.wrote_mono hwrote⟩

/-- An id is granted. -/
theorem Concluding.grant (hs : s.Concluding) (hnew : s.handles h = none) (kind : HandleKind)
    (session : TransportId) :
    (s.grant h { kind, session, grantedAt := s.connection.disconnects }).Concluding := by
  have old : ∀ {h'}, h' ≠ h →
      (s.grant h { kind, session, grantedAt := s.connection.disconnects }).handles h' =
        s.handles h' := fun hne => Function.update_of_ne hne ..
  have live : ∀ {h'}, h' ≠ h →
      (s.grant h { kind, session, grantedAt := s.connection.disconnects }).liveTransaction h' =
        s.liveTransaction h' := by
    intro h' hne
    unfold liveTransaction
    rw [old hne]
    rfl
  have hrequests : ∀ r ∈ s.requests, r.handle ≠ h := by
    intro r hr heq
    obtain ⟨handle, hh, -⟩ := hs.operations r hr
    rw [heq, hnew] at hh
    cases hh
  have hdisposed : ∀ h' ∈ s.disposed, h' ≠ h := by
    rintro h' hd rfl
    have hknown := hs.known h' hd
    rw [hnew] at hknown
    cases hknown
  refine ⟨hs.sound, hs.tracked, fun {h' handle'} hh => ?_, fun r hr => ?_,
    fun {h' handle'} hh hlive hc => ?_,
    fun r hr hconcludes hlive => ?_, fun h' hd => ?_, fun h' hd hlive => ?_⟩
  · rcases grant_handles hh with ⟨-, rfl⟩ | ⟨-, hh⟩
    · exact le_rfl
    · exact hs.granted hh
  · obtain ⟨handle, hh, hrest⟩ := hs.operations r hr
    exact ⟨handle, (old (hrequests r hr)).trans hh, hrest⟩
  · rcases grant_handles hh with ⟨-, rfl⟩ | ⟨hne, hh⟩
    · cases hc
    · exact hs.closed hh (live hne ▸ hlive) hc
  · exact hs.onItsWay r hr hconcludes (live (hrequests r hr) ▸ hlive)
  · rw [old (hdisposed h' hd)]
    exact hs.known h' hd
  · exact hs.disposed h' hd (live (hdisposed h' hd) ▸ hlive)

theorem ended_finished {i : CallId} {failure : Option ClientError}
    (h : s.ended i = some (r, failure)) :
    ∃ failure, (s.connection.calls i).phase = .finished failure := by
  unfold ended at h
  split at h
  · cases h
  · split at h
    · rename_i failure' hphase
      exact ⟨failure', hphase⟩
    · cases h

/-- A request that has ended without being turned away has been written. -/
theorem Concluding.wrote_ended (hs : s.Concluding) {i : CallId} {failure : Option ClientError}
    (hended : s.ended i = some (r, failure)) (hconcludes : r.concludes = true)
    (hlive : s.liveTransaction r.handle = true) : s.connection.wrote r.call = true := by
  obtain ⟨hr, rfl⟩ := ended_mem hended
  have hphase := (hs.onItsWay r hr hconcludes hlive).phase
  obtain ⟨failure', hfinished⟩ := ended_finished hended
  rw [hfinished] at hphase
  exact hphase

/-! ### Any step -/

/-- A disposal completes. -/
theorem Concluding.disposes (hs : s.Concluding) (hknown : (s.handles h).isSome)
    (hwrote : s.liveTransaction h = true →
      ∃ r ∈ s.requests, r.handle = h ∧ r.concludes = true ∧ s.connection.wrote r.call = true) :
    Concluding { s with disposed := h :: s.disposed } := by
  refine ⟨hs.sound, hs.tracked, hs.granted, hs.operations, hs.closed, hs.onItsWay, fun h' hd => ?_,
    fun h' hd hlive => ?_⟩
  · rcases List.mem_cons.mp hd with rfl | hd
    · exact hknown
    · exact hs.known h' hd
  · rcases List.mem_cons.mp hd with rfl | hd
    · exact hwrote hlive
    · exact hs.disposed h' hd hlive

theorem Concluding.continued (hs : s.Concluding) (continued : List CallId) :
    Concluding { s with continued } :=
  ⟨hs.sound, hs.tracked, hs.granted, hs.operations, hs.closed, hs.onItsWay, hs.known, hs.disposed⟩

/-- Disposing of a closed transaction: what has concluded it is on its way, and nobody waits. -/
theorem Concluding.disposesClosed (hs : s.Concluding) {i : CallId} {frameLength : Nat}
    (hK : s.KeepsTransactions (.disposes h i frameLength)) (hobject : s.object h = some handle)
    (hclosed : handle.closed = true) : Concluding { s with disposed := h :: s.disposed } := by
  have hh := (object_handles hobject).1
  refine hs.disposes (by rw [hh]; rfl) fun hlive => ?_
  obtain ⟨r, hr, hhandle, hconcludes⟩ := hs.closed hh hlive hclosed
  have hK := hK hlive handle hobject
  rw [if_pos hclosed] at hK
  have honItsWay := hs.onItsWay r hr hconcludes (hhandle ▸ hlive)
  exact ⟨r, hr, hhandle, hconcludes, honItsWay.wrote (hK r hr hhandle hconcludes)⟩

/-- Disposing of an open one sends its ROLLBACK. -/
theorem Concluding.disposesOpen (hs : s.Concluding) {i : CallId} {frameLength : Nat}
    {rollback : Operation} (hK : s.KeepsTransactions (.disposes h i frameLength))
    (hobject : s.object h = some handle) (hrollback : handle.kind.disposal = some rollback)
    (hopen : ¬ handle.closed = true) (hphase : (s.connection.calls i).phase = .notCalled) :
    (s.start { call := i, handle := h, operation := rollback, disposal := true }
      frameLength none).Concluding := by
  have hoperation : rollback ∈ handle.kind.operations := by
    cases hkind : handle.kind <;> rw [hkind] at hrollback <;> cases hrollback <;> decide
  refine hs.start (r := { call := i, handle := h, operation := rollback, disposal := true })
    (object_handles hobject).1 hoperation (fun _ => hrollback) hphase frameLength none
    fun _ hlive => ?_
  have hK := hK hlive handle hobject
  rwa [if_neg hopen] at hK

/-- COMMIT and ROLLBACK are not retried. -/
theorem not_retriesAfter_of_concludes {retry : RetryOptions} {failure : Option ClientError}
    {retryableAnswer : Bool} (hconcludes : r.concludes = true) :
    ¬ r.retriesAfter retry failure retryableAnswer = true := by
  have every : ∀ operation ∈ [KvTransaction.commit, KvTransaction.rollback],
      operation.retried = false := by decide
  have hretried := every _ (of_decide_eq_true hconcludes)
  unfold Request.retriesAfter
  simp [hretried]

/-- The request of a disposal has concluded its transaction. -/
theorem concludes_of_disposal {r : Request} {handle : Handle}
    (hh : s.handles r.handle = some handle)
    (hdisposal : handle.kind.disposal = some r.operation)
    (hlive : s.liveTransaction r.handle = true) : r.concludes = true := by
  obtain ⟨handle', hh', hkind, -⟩ := liveTransaction_iff.mp hlive
  obtain rfl := Option.some.inj (hh.symm.trans hh')
  rw [hkind] at hdisposal
  obtain hrollback := Option.some.inj hdisposal
  unfold Request.concludes
  rw [← hrollback]
  decide

/-- A request is over. -/
theorem Concluding.continues (hs : s.Concluding) {i : CallId} {failure : Option ClientError}
    (hended : s.ended i = some (r, failure)) (ok : Bool) :
    (Client.modifyHandle { s with
      continued := i :: s.continued
      disposed := if r.disposal then r.handle :: s.disposed else s.disposed } r.handle
        (Handle.settled r.operation failure ok)).Concluding := by
  obtain ⟨hr, -⟩ := ended_mem hended
  obtain ⟨handle, hh, hoperation, hdisposal⟩ := hs.operations r hr
  have hcompleted : Concluding { s with
      continued := i :: s.continued
      disposed := if r.disposal then r.handle :: s.disposed else s.disposed } := by
    split
    · rename_i hdisposes
      refine (hs.continued (i :: s.continued)).disposes (by rw [hh]; rfl) fun hlive => ?_
      have hconcludes := concludes_of_disposal hh (hdisposal hdisposes) hlive
      exact ⟨r, hr, rfl, hconcludes, hs.wrote_ended hended hconcludes hlive⟩
    · exact hs.continued _
  refine hcompleted.modifyHandle (fun _ => rfl) (fun _ => rfl) fun handle' hh' hkind hclosed => ?_
  obtain rfl := Option.some.inj (hh.symm.trans hh')
  exact Or.inl (settled_closed hkind hoperation failure ok ▸ hclosed)

/-- **One step.** -/
theorem Concluding.step (hs : s.Concluding) {retry : RetryOptions} {e : Event}
    (hK : s.KeepsTransactions e) (hst : s.step retry e = some s') : s'.Concluding := by
  cases e with
  | connection e =>
      obtain ⟨c, hc, rfl⟩ := Option.map_eq_some_iff.mp hst
      exact hs.connection_step hK hc
  | grants h kind =>
      simp only [Client.step] at hst
      split at hst
      · rename_i t hnew _
        split at hst
        · cases hst
          exact hs.grant hnew kind t
        · cases hst
      · cases hst
  | builds h =>
      simp only [Client.step] at hst
      split at hst
      · split at hst
        · cases hst
        · cases hst
          exact hs.modifyHandle (fun _ => rfl) (fun _ => rfl) fun _ _ _ hclosed => Or.inl hclosed
      · cases hst
  -- what concludes the transaction closes it and has its request on the way
  | operates h i operation frameLength signal =>
      simp only [Client.step] at hst
      split at hst
      · rename_i handle hobject
        obtain ⟨hready, heq⟩ := Option.ite_none_right_eq_some.mp hst
        obtain rfl := Option.some.inj heq
        exact hs.start (r := { call := i, handle := h, operation }) (object_handles hobject).1
          hready.1 (fun hdisposal => by cases hdisposal) hready.2.2.2 frameLength signal
          fun hconcludes => hK (of_decide_eq_true hconcludes)
      · cases hst
  | disposes h i frameLength =>
      simp only [Client.step] at hst
      split at hst
      · rename_i handle hobject
        split at hst
        · rename_i rollback hrollback
          split at hst
          · -- nothing is sent: the concluding request is to be on its way
            rename_i hclosed
            exact Option.some.inj hst ▸ hs.disposesClosed hK hobject hclosed
          · rename_i hopen
            obtain ⟨hphase, heq⟩ := Option.ite_none_right_eq_some.mp hst
            exact Option.some.inj heq ▸ hs.disposesOpen hK hobject hrollback hopen hphase
        · cases hst
      · cases hst
  | retries i j retryableAnswer =>
      simp only [Client.step] at hst
      split at hst
      · rename_i r failure hended
        obtain ⟨hready, heq⟩ := Option.ite_none_right_eq_some.mp hst
        obtain rfl := Option.some.inj heq
        obtain ⟨handle, hh, hoperation, hdisposal⟩ := hs.operations r (ended_mem hended).1
        refine (hs.continued (i :: s.continued)).request
          (r := { r with call := j, attempt := r.attempt + 1 }) hh hoperation hdisposal hready.2 _ _
          fun hconcludes _ => ?_
        -- COMMIT and ROLLBACK are not tried again
        exact absurd hready.1 (not_retriesAfter_of_concludes (r := r) hconcludes)
      · cases hst
  | continues i ok =>
      simp only [Client.step] at hst
      split at hst
      · rename_i r failure hended
        exact Option.some.inj hst ▸ hs.continues hended ok
      · cases hst

end Client

/-- While no COMMIT and no ROLLBACK is turned away, a disposed transaction whose session is
alive has sent one. -/
theorem notAbandoned_run {options : ConnectionOptions} {retry : RetryOptions} {es : List Event}
    {s : Client}
    (hguard : (machine options retry).Guarded Client.KeepsTransactions
      (machine options retry).init es)
    (hrun : (machine options retry).run es = some s) : s.NotAbandoned :=
  (hguard.invariant (Client.concluding_create options)
    (fun _ _ _ hs hK hst => hs.step hK hst) hrun).disposed

/-- A transaction that is committed before it is disposed of, and one that is not. -/
def disposedRun : List Event :=
  firstSession ++
    [.grants 0 .kvTransaction, .builds 0, .operates 0 1 KvTransaction.commit 20 none] ++
    sent 1 ++ [.disposes 0 9 20, .grants 1 .kvTransaction, .builds 1, .disposes 1 2 20] ++ sent 2 ++
    [.connection (.sendSettles 2),
      .connection (.receive 0 (.ok (.ok ([.message 102 [0] 2 true], false)))),
      .connection (.callSettles 2), .continues 2 true]

/-- Both disposals complete, one after a COMMIT and one after a ROLLBACK. -/
theorem notAbandoned_run_disposed :
    ∃ s, (machine {} {}).run disposedRun = some s ∧ s.disposed = [1, 0] ∧
      s.liveTransaction 0 = true ∧ s.liveTransaction 1 = true ∧ s.NotAbandoned := by
  have hguard :
      (machine {} {}).Guarded Client.KeepsTransactions (machine {} {}).init disposedRun := by
    decide +kernel
  exact ⟨_, rfl, by decide +kernel, by decide +kernel, by decide +kernel,
    notAbandoned_run hguard rfl⟩

/-- The signal of a `commit` fires before its request has a slot. The transaction is closed
by then, and its disposal does nothing. -/
def abortedCommitRun : List Event :=
  firstSession ++ [.grants 0 .kvTransaction, .builds 0,
    .operates 0 1 KvTransaction.commit 20 (some false), .connection (.abortCall 1),
    .connection (.readyContinues 1), .connection (.slotContinues 1 0), .continues 1 false,
    .disposes 0 2 20]

/-- The disposal completes, the session is alive, and nothing has been sent. -/
theorem notAbandoned_run_fails :
    ¬ ∀ s, (machine {} {}).run abortedCommitRun = some s → s.NotAbandoned := by
  intro h
  obtain ⟨s, hs, hdisposed, hlive, hwritten⟩ : ∃ s : Client,
      (machine {} {}).run abortedCommitRun = some s ∧ 0 ∈ s.disposed ∧
        s.liveTransaction 0 = true ∧ s.connection.written = [⟨0, .connect⟩] :=
    ⟨_, rfl, by decide +kernel, by decide +kernel, by decide +kernel⟩
  obtain ⟨r, -, -, -, hwrote⟩ := h s hs 0 hdisposed hlive
  unfold Connection.wrote at hwrote
  rw [hwritten] at hwrote
  exact absurd hwrote (by simp)

end FitzTs.Handles
