import FitzTs.Client.Multiplexer.Removing
import FitzTs.Client.Multiplexer.Issuing
import FitzTs.Client.Multiplexer.Disconnecting
/-!
# FitzTs.Client.Multiplexer.Outcome

What one event can do to the multiplexer (`Outcome`), with every guard that
matters later, and that each outcome keeps the invariant.

Each outcome is a chain of the relations of the modules below; the properties of
whole runs are proved by cases on it, and unfold none of the functions again.
-/

namespace FitzTs.Client.Multiplexer

variable {m m' m₁ m₂ : Multiplexer} {r : RequestId}

/-! ### The timer -/

/-- `m'` is `m` after one request whose deadline has passed at `nowMs` was
rejected, if it was still open. -/
structure Expires (m : Multiplexer) (nowMs : Nat) (r : RequestId) (m' : Multiplexer) : Prop where
  issued : r < m.issued
  due : (m.requests r).deadline ≤ nowMs
  others : ∀ q, q ≠ r → m'.requests q = m.requests q
  result : Quiet m m' ∧ SameSession m m' ∨
    ∃ m₁ error, Quiet m m₁ ∧ SameSession m m₁ ∧ Tombstones m₁ r (.rejected error) m'

theorem expire_expires (h : m.WellFormed) {nowMs : Nat}
    (hhead : m.timeouts.timeoutEntries.head? = some r) (hdue : m.deadline r ≤ nowMs) :
    Expires m nowMs r (m.expire r nowMs) ∧
      (m.expire r nowMs).timeouts.timeoutEntries.length < m.timeouts.timeoutEntries.length := by
  have hmem : r ∈ m.timeouts.timeoutEntries := List.mem_of_mem_head? hhead
  have hr : r < m.issued := h.heapIssued hmem
  unfold expire
  extract_lets m₁
  have hshort : m₁.timeouts.timeoutEntries.length < m.timeouts.timeoutEntries.length :=
    (TimeoutHeap.removeTimeoutEntry_removes h.heap).shorter hmem
  have hframe : Frame m m₁ := (removeTimeoutEntry_frame m r).trans (.of_timeouts rfl rfl rfl)
  have hothers : ∀ q, q ≠ r → m₁.requests q = m.requests q := fun q hq =>
    Function.update_of_ne hq _ _
  have hcore : SameCore (m.requests r) (m₁.requests r) := by
    have hself : m₁.requests r = { m.requests r with deadline := -1 } := Function.update_self ..
    rw [hself]
    exact ⟨rfl, rfl, rfl, rfl, rfl⟩
  have hquiet : Quiet m m₁ := by
    refine ⟨hframe, ⟨rfl, rfl⟩, fun q => ?_, fun q hq => hothers q (lt_of_lt_of_le hr hq).ne', rfl⟩
    by_cases hq : q = r
    · rw [hq]
      exact hcore
    · rw [hothers q hq]
      exact .refl _
  have hsession : SameSession m m₁ := ⟨rfl, rfl, rfl⟩
  generalize m₁.timeoutError r nowMs = error
  cases hset : (m₁.requests r).settled with
  | true =>
      rw [rejectRequest_of_settled error true hset]
      exact ⟨⟨hr, hdue, hothers, Or.inl ⟨hquiet, hsession⟩⟩, hshort⟩
  | false =>
      have ht := rejectRequest_retain_of_open error hset
      refine ⟨⟨hr, hdue, fun q hq => (ht.others q hq).trans (hothers q hq),
        Or.inr ⟨m₁, error, hquiet, hsession, ht⟩⟩, ?_⟩
      exact lt_of_le_of_lt (ht.heap (hframe.heap h.heap).indexed).length_le hshort

theorem WellFormed.of_expires (h : m.WellFormed) {nowMs : Nat} (he : Expires m nowMs r m') :
    m'.WellFormed := by
  rcases he.result with ⟨hquiet, -⟩ | ⟨m₁, error, hquiet, -, ht⟩
  · exact h.of_quiet hquiet
  · refine (h.of_quiet hquiet).of_tombstones ht ?_
    rw [hquiet.issued]
    exact he.issued

/-- What every expiry keeps holds after the loop of `handleTimeouts`. -/
theorem handleTimeoutsLoop_induction {nowMs : Nat} {P : Multiplexer → Prop}
    (expires : ∀ m r m', m.WellFormed → P m → Expires m nowMs r m' → P m') :
    ∀ {fuel : Nat} {m m' : Multiplexer}, m.WellFormed → P m →
      handleTimeoutsLoop nowMs fuel m = some m' → m'.WellFormed ∧ P m' := by
  intro fuel
  induction fuel with
  | zero => intro m m' _ _ hl; cases hl
  | succ fuel ih =>
      intro m m' h hP hl
      rw [handleTimeoutsLoop] at hl
      cases hhead : m.timeouts.timeoutEntries.head? with
      | none =>
          rw [hhead] at hl
          obtain rfl := Option.some.inj hl
          exact ⟨h, hP⟩
      | some r =>
          rw [hhead] at hl
          dsimp only at hl
          by_cases hdue : m.deadline r ≤ nowMs
          · rw [if_pos hdue] at hl
            have he := (expire_expires h hhead hdue).1
            exact ih (h.of_expires he) (expires m r _ h hP he) hl
          · rw [if_neg hdue] at hl
            obtain rfl := Option.some.inj hl
            exact ⟨h, hP⟩

/-- The loop of `handleTimeouts` ends: each turn takes an entry out of the heap. -/
theorem handleTimeoutsLoop_isSome {nowMs : Nat} :
    ∀ {fuel : Nat} {m : Multiplexer}, m.WellFormed → m.timeouts.timeoutEntries.length < fuel →
      (handleTimeoutsLoop nowMs fuel m).isSome := by
  intro fuel
  induction fuel with
  | zero => intro m _ hlt; exact absurd hlt (Nat.not_lt_zero _)
  | succ fuel ih =>
      intro m h hlt
      rw [handleTimeoutsLoop]
      cases hhead : m.timeouts.timeoutEntries.head? with
      | none => rfl
      | some r =>
          dsimp only
          by_cases hdue : m.deadline r ≤ nowMs
          · rw [if_pos hdue]
            obtain ⟨he, hshort⟩ := expire_expires h hhead hdue
            exact ih (h.of_expires he) (by omega)
          · rw [if_neg hdue]
            rfl

/-- Forgetting the armed timer leaves everything else as it is. -/
theorem wellFormed_rearm (m : Multiplexer) (handle next : Option Int) :
    Quiet m { m with timeoutHandle := handle, nextTimeoutDeadline := next } ∧
      SameSession m { m with timeoutHandle := handle, nextTimeoutDeadline := next } :=
  ⟨⟨.of_timeouts rfl rfl rfl, ⟨rfl, rfl⟩, fun _ => .refl _, fun _ _ => rfl, rfl⟩, ⟨rfl, rfl, rfl⟩⟩

/-- A timer that fires always returns. -/
theorem handleTimeouts_isSome (h : m.WellFormed) (nowMs : Nat) :
    (m.handleTimeouts nowMs).isSome := by
  unfold handleTimeouts
  rw [Option.isSome_map]
  exact handleTimeoutsLoop_isSome (h.of_quiet (wellFormed_rearm m none none).1) (Nat.lt_succ_self _)

/-- What quiet changes and expiries keep, a timer keeps. -/
theorem handleTimeouts_induction (h : m.WellFormed) {nowMs : Nat} {P : Multiplexer → Prop}
    (quiet : ∀ m m' : Multiplexer, P m → Quiet m m' → SameSession m m' → m'.requests = m.requests →
      P m')
    (expires : ∀ m r m', m.WellFormed → P m → Expires m nowMs r m' → P m') (hP : P m)
    (ht : m.handleTimeouts nowMs = some m') : m'.WellFormed ∧ P m' := by
  unfold handleTimeouts at ht
  obtain ⟨m₁, hloop, rfl⟩ := Option.map_eq_some_iff.mp ht
  obtain ⟨hq₀, hs₀⟩ := wellFormed_rearm m none none
  obtain ⟨h₁, hP₁⟩ := handleTimeoutsLoop_induction expires (h.of_quiet hq₀)
    (quiet _ _ hP hq₀ hs₀ rfl) hloop
  obtain ⟨hq₁, hs₁⟩ := wellFormed_rearm m₁ (m₁.timeouts.getNextTimeoutDeadline m₁.deadline)
    (m₁.timeouts.getNextTimeoutDeadline m₁.deadline)
  exact ⟨h₁.of_quiet hq₁, quiet _ _ hP₁ hq₁ hs₁ rfl⟩

/-! ### One event -/

/-- The events that may pass without settling or storing anything. -/
def Idle (m : Multiplexer) : Event → Prop
  | .sendRejected r _ => (m.requests r).settled = true
  | .setDisconnected => False
  | _ => True

/-- What event `e` can do to `m`. -/
inductive Outcome (m : Multiplexer) : Event → Multiplexer → Prop
  /-- A call that throws. -/
  | refused (e : Event) (idle : m.Idle e) : Outcome m e m
  | quiet (e : Event) {m' : Multiplexer} (idle : m.Idle e) (quiet : Quiet m m')
      (session : SameSession m m') : Outcome m e m'
  | entered {t : MessageType} {nowMs timeoutMs : Nat} {signal : Option Bool}
      {sendThrows : Option ClientError} {e : PendingRequest} {m' : Multiplexer}
      (enters : Enters m e m') : Outcome m (.issue t nowMs timeoutMs signal sendThrows) m'
  | enteredFailed {t : MessageType} {nowMs timeoutMs : Nat} {signal : Option Bool}
      {sendThrows : Option ClientError} {e : PendingRequest} {m₁ m₂ m' : Multiplexer}
      {error : ClientError} (enters : Enters m e m₁) (quiet : Quiet m₁ m₂)
      (session : SameSession m₁ m₂) (tombstones : Tombstones m₂ m.issued (.rejected error) m') :
      Outcome m (.issue t nowMs timeoutMs signal sendThrows) m'
  | resolvedLate {r : RequestId} {m₁ m' : Multiplexer} {error : ClientError} (issued : r < m.issued)
      (quiet : Quiet m m₁) (session : SameSession m m₁)
      (tombstones : Tombstones m₁ r (.rejected error) m') : Outcome m (.sendResolved r) m'
  | aborted {r : RequestId} {m₁ m' : Multiplexer} {error : ClientError} (issued : r < m.issued)
      (quiet : Quiet m m₁) (session : SameSession m m₁)
      (tombstones : Tombstones m₁ r (.rejected error) m') : Outcome m (.abort r) m'
  | withdrawn {r : RequestId} {m' : Multiplexer} {error error' : ClientError}
      (issued : r < m.issued)
      (closes : Closes m r (.rejected error') m') (withdraws : Withdraws m r m') :
      Outcome m (.sendRejected r error) m'
  | delivered {t : MessageType} {payload : Payload} {cid : Option CorrelationId} {final : Bool}
      {r : RequestId} {m' : Multiplexer} (isFinal : cid.isSome → final = true)
      (delivers : Delivers m t payload cid r m') : Outcome m (.dispatch t payload cid final) m'
  | expired {nowMs : Nat} {m' : Multiplexer} (timeouts : m.handleTimeouts nowMs = some m') :
      Outcome m (.timer nowMs) m'
  | connected : Outcome m .setConnected m.setConnected
  | disconnected {m' : Multiplexer} (disconnects : Disconnects m m') : Outcome m .setDisconnected m'
  | configured (protocolVersion capabilities : Nat) :
      Outcome m (.setCapabilities protocolVersion capabilities)
        (m.setCapabilities protocolVersion capabilities)
  | allocated {next : CorrelationId}
      (isNext : m.nextCorrelationId ≠ 0 ∧ (next = 0 ∨ next = m.nextCorrelationId + 1)) :
      Outcome m .allocate { m with nextCorrelationId := next }

/-- A request whose send promise is pending has been issued. -/
theorem WellFormed.lt_of_sendPending (h : m.WellFormed)
    (hr : (m.requests r).sendPending = true) : r < m.issued := by
  refine h.lt_of_ne fun he => ?_
  rw [he] at hr
  cases hr

theorem WellFormed.lt_of_hasSignal (h : m.WellFormed)
    (hr : (m.requests r).hasSignal = true) : r < m.issued := by
  refine h.lt_of_ne fun he => ?_
  rw [he] at hr
  cases hr

/-- `failRequest`, after a change to the other fields of the request. -/
theorem modified_failRequest (error : ClientError) (hr : r < m.issued)
    {f : PendingRequest → PendingRequest} (hf : SameCore (m.requests r) (f (m.requests r))) :
    (Quiet m ((m.modifyRequest r f).failRequest r error) ∧
        SameSession m ((m.modifyRequest r f).failRequest r error)) ∨
      ∃ m₁, Quiet m m₁ ∧ SameSession m m₁ ∧
        Tombstones m₁ r (.rejected error) ((m.modifyRequest r f).failRequest r error) := by
  have hq := modifyRequest_quiet m hr hf
  cases hset : ((m.modifyRequest r f).requests r).settled with
  | true =>
      rw [failRequest_of_settled error hset]
      exact Or.inl hq
  | false => exact Or.inr ⟨_, hq.1, hq.2, failRequest_of_open error hset⟩

theorem step_outcome (h : m.WellFormed) {e : Event} (hs : step m e = some m') : Outcome m e m' := by
  cases e with
  -- the request enters the maps; a send that throws, or a signal that fired, then ends it
  | issue t nowMs timeoutMs signal sendThrows =>
      rw [step] at hs
      cases hi : m.issueRequest t nowMs timeoutMs signal sendThrows with
      | error error =>
          rw [hi] at hs
          obtain rfl := Option.some.inj hs
          exact .refused _ trivial
      | ok m₁ =>
          rw [hi] at hs
          obtain rfl := Option.some.inj hs
          obtain ⟨e, m₂, -, henters, rfl | ⟨m₃, error, hquiet, hsession, ht⟩⟩ :=
            issueRequest_cases h hi
          · exact .entered henters
          · exact .enteredFailed henters hquiet hsession ht
  | sendResolved r =>
      rw [step] at hs
      split at hs
      · rename_i hp
        obtain rfl := Option.some.inj hs
        have hr := h.lt_of_sendPending hp
        unfold sendResolved
        extract_lets m₁
        obtain ⟨hq, hsession⟩ : Quiet m m₁ ∧ SameSession m m₁ :=
          modifyRequest_quiet m hr ⟨rfl, rfl, rfl, rfl, rfl⟩
        split
        · -- the request goes on waiting for its answer
          exact .quiet _ trivial hq hsession
        · -- the connection was lost during the send
          rcases modified_failRequest (connectionReset m₁.state) hr
            (f := fun e => { e with sendPending := false }) ⟨rfl, rfl, rfl, rfl, rfl⟩ with
            ⟨hq, hsession⟩ | ⟨m₂, hq, hsession, ht⟩
          · exact .quiet _ trivial hq hsession
          · exact .resolvedLate hr hq hsession ht
      · cases hs
  | sendRejected r error =>
      rw [step] at hs
      split at hs
      · rename_i hp
        obtain rfl := Option.some.inj hs
        have hr := h.lt_of_sendPending hp
        cases hset : (m.requests r).settled with
        -- settled meanwhile: the rejection changes nothing
        | true =>
            obtain ⟨hq, hsession⟩ := sendRejected_of_settled error hr hset
            exact .quiet _ hset hq hsession
        -- the request is taken out of the maps and rejected
        | false =>
            obtain ⟨error', hclose, hw⟩ := sendRejected_of_open h error hr hset
            exact .withdrawn hr hclose hw
      · cases hs
  | dispatch t payload cid final =>
      rw [step] at hs
      cases hd : m.dispatch t payload cid final with
      | error error =>
          rw [hd] at hs
          cases error with
          | unexpectedCorrelation c =>
              obtain rfl := Option.some.inj hs
              exact .refused _ trivial
          | spin => cases hs
      | ok m₁ =>
          rw [hd] at hs
          obtain rfl := Option.some.inj hs
          rcases dispatch_cases h hd with ⟨hq, hsession⟩ | ⟨hfinal, r, hdel⟩
          · exact .quiet _ trivial hq hsession
          · exact .delivered hfinal hdel
  | timer nowMs =>
      rw [step] at hs
      split at hs
      · exact .expired hs
      · cases hs
  | abort r =>
      rw [step] at hs
      split at hs
      · rename_i hp
        obtain rfl := Option.some.inj hs
        have hr := h.lt_of_hasSignal hp.1
        rcases modified_failRequest abortError hr (f := fun e => { e with aborted := true })
          ⟨rfl, rfl, rfl, rfl, rfl⟩ with ⟨hq, hsession⟩ | ⟨m₁, hq, hsession, ht⟩
        · exact .quiet _ trivial hq hsession
        · exact .aborted hr hq hsession ht
      · cases hs
  | setConnected =>
      obtain rfl := Option.some.inj hs
      exact .connected
  | setDisconnected =>
      obtain rfl := Option.some.inj hs
      exact .disconnected (setDisconnected_disconnects m)
  | setCapabilities protocolVersion capabilities =>
      obtain rfl := Option.some.inj hs
      exact .configured protocolVersion capabilities
  -- the counter stays at zero once the identifiers are used up
  | allocate =>
      rw [step, allocateCorrelationId] at hs
      by_cases hnext : m.nextCorrelationId = 0
      · rw [if_pos hnext] at hs
        obtain rfl := Option.some.inj hs
        exact .refused _ trivial
      · rw [if_neg hnext] at hs
        obtain rfl := Option.some.inj hs
        refine .allocated ⟨hnext, ?_⟩
        split
        · exact Or.inl rfl
        · exact Or.inr rfl
  | expectOptionalResponse t =>
      obtain rfl := Option.some.inj hs
      exact .quiet _ trivial (quiet_of_fields rfl rfl rfl rfl ⟨rfl, rfl⟩ rfl) ⟨rfl, rfl, rfl⟩
  | forgetOptionalResponse t =>
      obtain rfl := Option.some.inj hs
      exact .quiet _ trivial (quiet_of_fields rfl rfl rfl rfl ⟨rfl, rfl⟩ rfl) ⟨rfl, rfl, rfl⟩
  | registerNotificationHandler t =>
      obtain rfl := Option.some.inj hs
      exact .quiet _ trivial (quiet_of_fields rfl rfl rfl rfl ⟨rfl, rfl⟩ rfl) ⟨rfl, rfl, rfl⟩
  | unregisterNotificationHandler t =>
      obtain rfl := Option.some.inj hs
      exact .quiet _ trivial (quiet_of_fields rfl rfl rfl rfl ⟨rfl, rfl⟩ rfl) ⟨rfl, rfl, rfl⟩
  | registerPushFrameClassifier t classifier =>
      obtain rfl := Option.some.inj hs
      exact .quiet _ trivial (quiet_of_fields rfl rfl rfl rfl ⟨rfl, rfl⟩ rfl) ⟨rfl, rfl, rfl⟩

theorem WellFormed.of_outcome (h : m.WellFormed) {e : Event} (ho : Outcome m e m') :
    m'.WellFormed := by
  cases ho with
  | refused => exact h
  | quiet _ _ hq => exact h.of_quiet hq
  | entered henters => exact henters.wellFormed
  | enteredFailed henters hq _ ht =>
      refine (henters.wellFormed.of_quiet hq).of_tombstones ht ?_
      rw [hq.issued, henters.issued]
      exact Nat.lt_succ_self _
  | resolvedLate hr hq _ ht => exact (h.of_quiet hq).of_tombstones ht (hq.issued ▸ hr)
  | aborted hr hq _ ht => exact (h.of_quiet hq).of_tombstones ht (hq.issued ▸ hr)
  | withdrawn hr hclose hw =>
      exact h.of_closes hclose hr hw.sub fun hs => absurd hs (hw.not_stored h.toFiled)
  | delivered _ hdel => exact h.of_delivers hdel
  | expired ht =>
      exact (handleTimeouts_induction h (P := fun _ => True) (fun _ _ _ _ _ _ => trivial)
        (fun _ _ _ _ _ _ => trivial) trivial ht).1
  | connected => exact h.of_quiet (quiet_of_fields rfl rfl rfl rfl ⟨rfl, rfl⟩ rfl)
  | disconnected hd => exact h.of_disconnects hd
  | configured => exact h.of_quiet (quiet_of_fields rfl rfl rfl rfl ⟨rfl, rfl⟩ rfl)
  | allocated => exact h.of_quiet (quiet_of_fields rfl rfl rfl rfl ⟨rfl, rfl⟩ rfl)

/-- The invariant is kept by every step. -/
theorem wellFormed_step (h : m.WellFormed) {e : Event} (hs : step m e = some m') : m'.WellFormed :=
  h.of_outcome (step_outcome h hs)

theorem wellFormed_run {es : List Event} (h : machine.run es = some m) : m.WellFormed :=
  Machine.invariant wellFormed_init (fun _ _ _ hI hst => wellFormed_step hI hst) h

end FitzTs.Client.Multiplexer
