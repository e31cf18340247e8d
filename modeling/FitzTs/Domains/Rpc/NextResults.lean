import FitzTs.Domains.Rpc.NextCalls
/-!
# FitzTs.Domains.Rpc.NextResults

What the calls of `next` on the iterator of an RPC call are given.

There is room for one call that waits: a second takes its place, and the promise of the first never
settles. A reason that is an `AbortError` is thrown ahead of what is buffered, `undefined` is no
reason at all, and a rejection that `fail` has put off gives way to an abort.

## Main result

* `rpcIterator_sound` — every `next` settles exactly if none is made while another waits; all frames
  are delivered before the end if `fail` is given proper reasons.
-/

namespace FitzTs.Rpc

namespace NextCalls

/-- All frames are delivered, and then what has terminated the iterator. -/
def Delivers (s : NextCalls) : Prop :=
  match s.termination with
  | none => s.settled.map Prod.snd <+: s.received.map .value ∧
      (s.waiter.isSome = true → s.settled.map Prod.snd = s.received.map .value)
  | some (.cancelled _) => True
  | some termination => s.settled.map Prod.snd <+:
      s.received.map .value ++ List.replicate s.settled.length termination.result

/-- No `next` is made while another waits; a signal that has aborted rejects that one. -/
def Alone (s : NextCalls) : NextEvent → Prop
  | .next => s.waiter = none ∨ s.signal = some true
  | _ => True

instance (s : NextCalls) : (e : NextEvent) → Decidable (s.Alone e)
  | .next => inferInstanceAs (Decidable (_ ∨ _))
  | .push _ | .end' | .fail _ | .reject | .deadline | .abort | .handleAbort | .return' |
    .abandoned _ => isTrue trivial

/-- The iterator fails with a reason that does not pass for none or for an abort, and the signal
does not abort before that is thrown. -/
def Proper (s : NextCalls) : NextEvent → Prop
  | .fail reason => s.done = false →
      reason ≠ .undefined ∧ (reason.isAbort = true → s.buffer = [])
  | .reject => s.signal ≠ some true
  | _ => True

variable {s : NextCalls}

/-! ## Who has been answered -/

/-- The call has settled, or will be given the next frame, or a rejection that is put off. -/
def Accounts (s : NextCalls) (call : Nat) : Prop :=
  (∃ result, (call, result) ∈ s.settled) ∨ s.waiter = some call ∨
    ∃ reason, s.rejecting = some (call, reason)

def Accounted (s : NextCalls) : Prop := ∀ call < s.calls, s.Accounts call

theorem accounts_settle {call other : Nat} {result : NextResult} :
    (s.settle call result).Accounts other ↔ other = call ∨ s.Accounts other := by
  simp only [Accounts, settle, List.mem_append, List.mem_singleton, Prod.mk.injEq, exists_or,
    exists_and_left, exists_eq, and_true, or_assoc]
  tauto

theorem accounts_settleWait {call : Nat} {result : NextResult} :
    (s.settleWait result).Accounts call ↔ s.Accounts call := by
  unfold settleWait
  split
  case h_1 waiter hwaiter =>
    rw [accounts_settle]
    simp only [Accounts, hwaiter, reduceCtorEq, false_or, Option.some.injEq, eq_comm (a := waiter)]
    tauto
  case h_2 => rfl

theorem Sound.accounts_cancel (h : s.Sound) {error : Reason} {call : Nat} :
    (s.cancel error).Accounts call ↔ s.Accounts call := by
  rw [h.cancel_eq]
  split
  case isTrue => rfl
  case isFalse => exact accounts_settleWait

/-- Whatever is no `next` leaves nobody behind. -/
theorem Sound.accounts_step (h : s.Sound) {s' : NextCalls} {e : NextEvent}
    (hs : s.step e = some s') (hnext : e ≠ .next) :
    s'.calls = s.calls ∧ ∀ call, s'.Accounts call ↔ s.Accounts call := by
  cases e with
  | push frame =>
      obtain rfl := Option.some.inj hs
      unfold NextCalls.push
      split
      case isTrue => exact ⟨rfl, fun _ => Iff.rfl⟩
      case isFalse =>
        cases hwaiter : s.waiter with
        | some waiter =>
            refine ⟨rfl, fun call => accounts_settleWait.trans ?_⟩
            simp [Accounts, hwaiter]
        | none => exact ⟨rfl, fun call => by simp [Accounts, hwaiter]⟩
  | end' =>
      obtain rfl := Option.some.inj hs
      rw [h.end'_eq]
      split
      case isTrue => exact ⟨rfl, fun _ => Iff.rfl⟩
      case isFalse =>
        refine ⟨?_, fun call => accounts_settleWait⟩
        unfold NextCalls.settleWait
        split <;> rfl
  -- the one who waits is now the one to be rejected
  | fail reason =>
      obtain rfl := Option.some.inj hs
      rw [h.fail_eq]
      split
      case isTrue => exact ⟨rfl, fun _ => Iff.rfl⟩
      case isFalse hnot =>
        have hrejecting := (h.live (Bool.not_eq_true _ ▸ hnot)).2.1
        refine ⟨rfl, fun call => ?_⟩
        simp [Accounts, hrejecting]
  -- the rejection has come to the one it was for
  | reject =>
      obtain ⟨⟨waiter, reason⟩, hrejecting, rfl⟩ := Option.map_eq_some_iff.mp hs
      refine ⟨rfl, fun call => ?_⟩
      rw [accounts_settle]
      simp only [Accounts, hrejecting, reduceCtorEq, exists_false, or_false, Option.some.injEq,
        Prod.mk.injEq, exists_eq_right', eq_comm (a := waiter)]
      tauto
  | deadline =>
      obtain rfl := Option.some.inj hs
      exact ⟨h.cancel_calls_eq _, fun call => h.accounts_cancel⟩
  | abort =>
      obtain ⟨-, heq⟩ := Option.ite_none_right_eq_some.mp hs
      exact Option.some.inj heq ▸ ⟨rfl, fun call => Iff.rfl⟩
  | handleAbort =>
      obtain ⟨-, heq⟩ := Option.ite_none_right_eq_some.mp hs
      exact Option.some.inj heq ▸ ⟨h.cancel_calls_eq _, fun call => h.accounts_cancel⟩
  | next => exact absurd rfl hnext
  | return' =>
      obtain rfl := Option.some.inj hs
      unfold NextCalls.return'
      split
      · exact ⟨rfl, fun call => Iff.rfl⟩
      · exact ⟨h.cancel_calls_eq _, fun call => h.accounts_cancel⟩
  | abandoned outcome =>
      obtain ⟨-, heq⟩ := Option.ite_none_right_eq_some.mp hs
      refine Option.some.inj heq ▸ ?_
      unfold settleCancellation
      split <;> exact ⟨rfl, fun call => Iff.rfl⟩

/-- A call that is answered at once leaves the others as they are. -/
theorem accounted_answer {result : NextResult} {buffer : List ResponseFrame} :
    (NextCalls.settle { s with calls := s.calls + 1, buffer } s.calls result).Accounted ↔
      s.Accounted := by
  have hsame : ∀ call,
      ({ s with calls := s.calls + 1, buffer } : NextCalls).Accounts call ↔ s.Accounts call :=
    fun call => Iff.rfl
  simp only [Accounted, accounts_settle, hsame]
  constructor
  · intro h call hlt
    exact (h call (Nat.lt_succ_of_lt hlt)).resolve_left (Nat.ne_of_lt hlt)
  · intro h call hlt
    rcases Nat.lt_succ_iff_lt_or_eq.mp hlt with hlt | heq
    · exact Or.inr (h call hlt)
    · exact Or.inl heq

/-- A `next` leaves one behind exactly if another waits and is not rejected. -/
theorem Sound.accounted_next (h : s.Sound) :
    s.next.Accounted ↔ s.Accounted ∧ (s.waiter = none ∨ s.signal = some true) := by
  have hover : s.done = true → (s.waiter = none ∨ s.signal = some true) :=
    fun hdone => Or.inl (h.waiter_eq_none hdone)
  unfold NextCalls.next
  dsimp only
  split
  case isTrue habort =>
    rw [cancel_calls, ← h.cancel_calls_eq abortError]
    refine accounted_answer.trans ?_
    have hsignal : s.signal = some true := by
      simpa using (Bool.and_eq_true_iff.mp habort).2
    simp only [Accounted, h.cancel_calls_eq, h.accounts_cancel, hsignal, or_true, and_true]
  case isFalse hsignal =>
    split
    case isTrue habort =>
      have hdone := h.done_of_reason fun hundefined => by
        rw [hundefined] at habort
        exact absurd habort (by simp [Reason.isAbort])
      exact accounted_answer.trans (and_iff_left (hover hdone)).symm
    case isFalse =>
      split
      case h_1 value buffer hbuffer =>
        have hwaiter := h.waiter_eq_none_of_buffer hbuffer
        exact accounted_answer.trans (and_iff_left (Or.inl hwaiter)).symm
      case h_2 =>
        split
        case isTrue hreason =>
          exact accounted_answer.trans (and_iff_left (hover (h.done_of_reason hreason))).symm
        case isFalse =>
          split
          case isTrue hdone => exact accounted_answer.trans (and_iff_left (hover hdone)).symm
          case isFalse hnot =>
            have hdone : s.done = false := Bool.not_eq_true _ ▸ hnot
            have hlive : s.signal ≠ some true := by simpa [hdone] using hsignal
            have hrejecting := (h.live hdone).2.1
            simp only [Accounted, Accounts, hrejecting, hlive, reduceCtorEq, exists_false, or_false,
              Option.some.injEq]
            constructor
            · intro hall
              -- the new call takes the place of the waiter, which must be free
              have hwaiter : s.waiter = none := by
                cases hwaiter : s.waiter with
                | none => rfl
                | some waiter =>
                    obtain ⟨hlt, hfresh, -⟩ := h.waits hwaiter
                    rcases hall waiter (Nat.lt_succ_of_lt hlt) with ⟨result, hmem⟩ | heq
                    · exact absurd rfl (hfresh _ hmem)
                    · exact absurd heq (Nat.ne_of_gt hlt)
              refine ⟨fun call hlt => ?_, hwaiter⟩
              rcases hall call (Nat.lt_succ_of_lt hlt) with hsettled | heq
              · exact Or.inl hsettled
              · exact absurd heq (Nat.ne_of_gt hlt)
            · rintro ⟨hall, hwaiter⟩ call hlt
              rcases Nat.lt_succ_iff_lt_or_eq.mp hlt with hlt | heq
              · rcases hall call hlt with hsettled | hcall
                · exact Or.inl hsettled
                · exact absurd (hwaiter.symm.trans hcall) (by simp)
              · exact Or.inr heq.symm

theorem Sound.accounted_iff (h : s.Sound) {s' : NextCalls} {e : NextEvent}
    (hs : s.step e = some s') : s'.Accounted ↔ s.Accounted ∧ s.Alone e := by
  by_cases hnext : e = .next
  · subst hnext
    obtain rfl := Option.some.inj hs
    exact h.accounted_next
  · obtain ⟨hcalls, haccounts⟩ := h.accounts_step hs hnext
    have halone : s.Alone e := by
      cases e with
      | next => exact absurd rfl hnext
      | push | end' | fail | reject | deadline | abort | handleAbort | return' | abandoned =>
          trivial
    simp only [Accounted, hcalls, haccounts, halone, and_true]

/-- In the end, those who are accounted for have settled. -/
theorem Sound.accounted_of_done (h : s.Sound) (hdone : s.done = true)
    (hrejecting : s.rejecting = none) :
    s.Accounted ↔ ∀ call < s.calls, ∃ result, (call, result) ∈ s.settled := by
  simp [Accounted, Accounts, h.waiter_eq_none hdone, hrejecting]

/-! ## What is delivered -/

/-- All that was received is delivered or buffered, and then the result follows. -/
def Drained (s : NextCalls) (result : NextResult) : Prop :=
  ∃ n, s.settled.map Prod.snd ++ s.buffer.map .value =
    s.received.map .value ++ List.replicate n result ∧ (0 < n → s.buffer = [])

structure Draining (s : NextCalls) : Prop where
  live : s.done = false →
    s.settled.map Prod.snd ++ s.buffer.map .value = s.received.map .value
  ended : s.termination = some .ended → s.failureReason = .undefined ∧ s.Drained .done
  failed : ∀ reason, s.termination = some (.failed reason) → s.failureReason = reason ∧
    reason ≠ .undefined ∧ (reason.isAbort = true → s.buffer = []) ∧ s.Drained (.thrown reason)
  rejecting : ∀ call reason, s.rejecting = some (call, reason) →
    s.termination = some (.failed reason) ∧ s.buffer = []

theorem Drained.settle {result : NextResult} (h : s.Drained result) (hbuffer : s.buffer = [])
    (call : Nat) : (s.settle call result).Drained result := by
  obtain ⟨n, heq, -⟩ := h
  refine ⟨n + 1, ?_, fun _ => hbuffer⟩
  simp only [NextCalls.settle, hbuffer, List.map_append, List.map_cons, List.map_nil,
    List.append_nil, List.replicate_succ'] at heq ⊢
  rw [heq, List.append_assoc]

theorem Drained.begins {result : NextResult} (h : s.Drained result) : s.settled.map Prod.snd <+:
    s.received.map .value ++ List.replicate s.settled.length result := by
  obtain ⟨n, heq, hempty⟩ := h
  by_cases hn : n = 0
  · subst hn
    rw [List.replicate_zero, List.append_nil] at heq
    rw [← heq]
    exact (List.prefix_append _ _).trans (List.prefix_append _ _)
  · rw [hempty (Nat.pos_of_ne_zero hn), List.map_nil, List.append_nil] at heq
    have hle : n ≤ s.settled.length := by
      have hlength := congrArg List.length heq
      simp only [List.length_map, List.length_append, List.length_replicate] at hlength
      omega
    obtain ⟨m, hm⟩ := Nat.exists_eq_add_of_le hle
    rw [heq, hm, List.replicate_add, ← List.append_assoc]
    exact List.prefix_append _ _

theorem Draining.delivers (h : s.Draining) (hsound : s.Sound) : s.Delivers := by
  unfold Delivers
  split
  case h_1 htermination =>
    have hdone : s.done = false := by
      cases hdone : s.done with
      | false => rfl
      | true => exact absurd (hsound.terminated hdone) (by simp [htermination])
    have heq := h.live hdone
    refine ⟨heq ▸ List.prefix_append _ _, fun hwaits => ?_⟩
    obtain ⟨waiter, hwaiter⟩ := Option.isSome_iff_exists.mp hwaits
    rw [(hsound.waiter waiter hwaiter).2.1] at heq
    simpa using heq
  case h_2 => trivial
  case h_3 termination hnot htermination =>
    cases termination with
    | ended => exact (h.ended htermination).2.begins
    | failed reason => exact (h.failed reason htermination).2.2.2.begins
    | cancelled reason => exact absurd htermination (by simpa using hnot reason)

theorem create_draining (signal : Option Bool) : (create signal).Draining := by
  unfold create
  split
  case isTrue => refine ⟨?_, ?_, ?_, ?_⟩ <;> simp [cancel, settleWait]
  case isFalse => refine ⟨?_, ?_, ?_, ?_⟩ <;> simp

/-- A cancelled iterator promises nothing. -/
theorem Draining.of_cancelled {reason : Reason} (hdone : s.done = true)
    (htermination : s.termination = some (.cancelled reason)) (hrejecting : s.rejecting = none) :
    s.Draining where
  live := fun hlive => absurd (hdone.symm.trans hlive) (by simp)
  ended := fun hended => absurd (htermination.symm.trans hended) (by simp)
  failed := fun _ hfailed => absurd (htermination.symm.trans hfailed) (by simp)
  rejecting := fun _ _ hcall => absurd (hrejecting.symm.trans hcall) (by simp)

theorem Draining.cancel (h : s.Draining) (hsound : s.Sound) (error : Reason) :
    (s.cancel error).Draining := by
  rw [hsound.cancel_eq]
  split
  case isTrue => exact h
  case isFalse hnot =>
    have hrejecting := (hsound.live (Bool.not_eq_true _ ▸ hnot)).2.1
    unfold NextCalls.settleWait
    split
    · exact Draining.of_cancelled rfl rfl hrejecting
    · exact Draining.of_cancelled rfl rfl hrejecting

theorem Draining.push (h : s.Draining) (hsound : s.Sound) (frame : ResponseFrame) :
    (s.push frame).Draining := by
  unfold NextCalls.push
  split
  case isTrue => exact h
  case isFalse hnot =>
    have hdone : s.done = false := Bool.not_eq_true _ ▸ hnot
    obtain ⟨-, hrejecting, -, -, htermination⟩ := hsound.live hdone
    have heq := h.live hdone
    cases hwaiter : s.waiter with
    | some call =>
        have hbuffer := (hsound.waiter call hwaiter).2.1
        refine ⟨fun _ => ?_, by simp [htermination, settleWait, NextCalls.settle],
          by simp [htermination, settleWait, NextCalls.settle],
          by simp [hrejecting, settleWait, NextCalls.settle]⟩
        simp only [settleWait, NextCalls.settle, hbuffer, List.map_append, List.map_cons,
          List.map_nil, List.append_nil] at heq ⊢
        rw [heq]
    | none =>
        refine ⟨fun _ => ?_, by simp [htermination], by simp [htermination], by simp [hrejecting]⟩
        simp only [List.map_append, List.map_cons, List.map_nil]
        rw [← List.append_assoc, heq]

/-- The end of the frames: a call that waits is given it, or nobody. -/
theorem drained_settleWait (hsound : s.Sound) (hdone : s.done = false) (h : s.Draining)
    {t : NextCalls} {result : NextResult} (hsettled : t.settled = s.settled)
    (hbuffer : t.buffer = s.buffer) (hreceived : t.received = s.received)
    (hwaiter : t.waiter = s.waiter) : (t.settleWait result).Drained result := by
  have hdrained : t.Drained result := by
    refine ⟨0, ?_, fun hpos => absurd hpos (Nat.lt_irrefl 0)⟩
    rw [hsettled, hbuffer, hreceived, h.live hdone]
    simp
  cases hwaits : t.waiter with
  | none => rwa [settleWait_of_none hwaits]
  | some call =>
      have hempty := (hsound.waiter call (hwaiter.symm.trans hwaits)).2.1
      have hsettle :
          t.settleWait result = ({ t with waiter := none } : NextCalls).settle call result := by
        simp [settleWait, hwaits]
      rw [hsettle]
      obtain ⟨n, heq, hn⟩ := hdrained
      exact Drained.settle ⟨n, heq, hn⟩ (hbuffer.trans hempty) call

theorem Draining.end' (h : s.Draining) (hsound : s.Sound) : s.end'.Draining := by
  rw [hsound.end'_eq]
  split
  case isTrue => exact h
  case isFalse hnot =>
    have hdone : s.done = false := Bool.not_eq_true _ ▸ hnot
    obtain ⟨hreason, hrejecting, -, -, -⟩ := hsound.live hdone
    have hdrained : (NextCalls.settleWait { s with
        cancellationSettled := true
        cancellations := [.notRequested]
        done := true
        termination := some .ended } .done).Drained .done :=
      drained_settleWait hsound hdone h rfl rfl rfl rfl
    unfold NextCalls.settleWait at hdrained ⊢
    split at hdrained
    · exact ⟨fun hlive => (nomatch hlive), fun _ => ⟨hreason, hdrained⟩,
        fun _ hfailed => (nomatch hfailed),
        fun _ _ hcall => absurd (hrejecting.symm.trans hcall) (by simp)⟩
    · exact ⟨fun hlive => (nomatch hlive), fun _ => ⟨hreason, hdrained⟩,
        fun _ hfailed => (nomatch hfailed),
        fun _ _ hcall => absurd (hrejecting.symm.trans hcall) (by simp)⟩

theorem Draining.fail (h : s.Draining) (hsound : s.Sound) {reason : Reason}
    (hproper : s.Proper (.fail reason)) : (s.fail reason).Draining := by
  rw [hsound.fail_eq]
  split
  case isTrue => exact h
  case isFalse hnot =>
    have hdone : s.done = false := Bool.not_eq_true _ ▸ hnot
    obtain ⟨hne, habort⟩ := hproper hdone
    refine ⟨fun hlive => (nomatch hlive), fun hended => (nomatch hended), ?_, ?_⟩
    · intro other hother
      obtain rfl : reason = other := by simpa using hother
      refine ⟨rfl, hne, habort, 0, ?_, fun hpos => absurd hpos (Nat.lt_irrefl 0)⟩
      simpa using h.live hdone
    · intro call other heq
      obtain ⟨waiter, hwaiter, hpair⟩ := Option.map_eq_some_iff.mp heq
      exact ⟨by rw [(Prod.mk.inj hpair).2], (hsound.waiter waiter hwaiter).2.1⟩

theorem Draining.reject (h : s.Draining) {s' : NextCalls} (hproper : s.Proper .reject)
    (hsound : s.Sound) (hs : s.reject = some s') : s'.Draining := by
  obtain ⟨⟨call, reason⟩, hrejecting, rfl⟩ := Option.map_eq_some_iff.mp hs
  obtain ⟨htermination, hbuffer⟩ := h.rejecting call reason hrejecting
  obtain ⟨hreason, hne, habort, hdrained⟩ := h.failed reason htermination
  have hsignal : s.signal ≠ some true := hproper
  simp only [if_neg hsignal]
  have hdone := hsound.done_of_reason (hreason ▸ hne)
  refine ⟨fun hlive => absurd (hdone.symm.trans hlive) (by simp),
    fun hended => absurd (htermination.symm.trans hended) (by simp), ?_,
    fun _ _ hnone => (nomatch hnone)⟩
  intro other hother
  obtain rfl : reason = other := by simpa using htermination.symm.trans hother
  have hsame : ({ s with rejecting := none } : NextCalls).Drained (.thrown reason) := hdrained
  exact ⟨hreason, hne, habort, hsame.settle hbuffer call⟩

/-- A call on an empty buffer, after the end. -/
theorem Draining.answer (h : s.Draining) (hdone : s.done = true)
    {result : NextResult} (hbuffer : s.termination = some .ended → s.buffer = [])
    (hended : s.termination = some .ended → result = .done)
    (hfailed : ∀ reason, s.termination = some (.failed reason) →
      s.buffer = [] ∧ result = .thrown reason) :
    (NextCalls.settle { s with calls := s.calls + 1 } s.calls result).Draining := by
  refine ⟨fun hlive => absurd (hdone.symm.trans hlive) (by simp), fun htermination => ?_,
    fun reason htermination => ?_, h.rejecting⟩
  · obtain ⟨hreason, hdrained⟩ := h.ended htermination
    have hsame : ({ s with calls := s.calls + 1 } : NextCalls).Drained .done := hdrained
    rw [hended htermination]
    exact ⟨hreason, hsame.settle (hbuffer htermination) s.calls⟩
  · obtain ⟨hreason, hne, habort, hdrained⟩ := h.failed reason htermination
    obtain ⟨hempty, rfl⟩ := hfailed reason htermination
    have hsame : ({ s with calls := s.calls + 1 } : NextCalls).Drained (.thrown reason) := hdrained
    exact ⟨hreason, hne, habort, hsame.settle hempty s.calls⟩

/-- A call takes the oldest frame. -/
theorem Drained.take {result : NextResult} {value : ResponseFrame} {buffer : List ResponseFrame}
    (h : s.Drained result) (hbuffer : s.buffer = value :: buffer) (call : Nat) :
    (NextCalls.settle { s with calls := s.calls + 1, buffer } call (.value value)).Drained
      result := by
  obtain ⟨n, heq, hempty⟩ := h
  refine ⟨n, ?_, fun hn => absurd ((hempty hn).symm.trans hbuffer) (by simp)⟩
  rw [hbuffer] at heq
  simpa [NextCalls.settle] using heq

theorem Draining.next (h : s.Draining) (hsound : s.Sound) : s.next.Draining := by
  unfold NextCalls.next
  dsimp only
  split
  -- the aborted signal cancels, and the call throws
  case isTrue hsignal =>
    rw [cancel_calls]
    have hlive : s.done = false := by
      simpa using (Bool.and_eq_true_iff.mp hsignal).1
    have hcancelled := h.cancel hsound abortError
    have hdone := hsound.cancel_done abortError
    have htermination : (s.cancel abortError).termination = some (.cancelled abortError) := by
      rw [hsound.cancel_eq, if_neg (by simp [hlive])]
      unfold NextCalls.settleWait
      split <;> rfl
    have hrejecting : (s.cancel abortError).rejecting = none := by
      rw [hsound.cancel_eq, if_neg (by simp [hlive])]
      unfold NextCalls.settleWait
      split <;> exact (hsound.live hlive).2.1
    exact Draining.of_cancelled hdone htermination hrejecting
  case isFalse =>
    split
    -- an abort error is thrown before the buffer is looked at
    case isTrue habort =>
      have hdone := hsound.done_of_reason fun hundefined => by
        rw [hundefined] at habort
        exact absurd habort (by simp [Reason.isAbort])
      have hended : s.termination ≠ some .ended := by
        intro hended
        rw [(h.ended hended).1] at habort
        exact absurd habort (by simp [Reason.isAbort])
      refine h.answer hdone (fun htermination => absurd htermination hended)
        (fun htermination => absurd htermination hended) fun reason htermination => ?_
      obtain ⟨hreason, -, hempty, -⟩ := h.failed reason htermination
      exact ⟨hempty (hreason ▸ habort), by rw [hreason]⟩
    case isFalse =>
      split
      -- the first frame of the buffer is handed out
      case h_1 value buffer hbuffer =>
        refine ⟨fun hlive => ?_, fun hended => ?_, fun reason hfailed => ?_,
          fun call reason hcall => ?_⟩
        · have heq := h.live hlive
          rw [hbuffer] at heq
          simpa [NextCalls.settle] using heq
        · obtain ⟨hreason, hdrained⟩ := h.ended hended
          exact ⟨hreason, hdrained.take hbuffer _⟩
        · obtain ⟨hreason, hne, habort, hdrained⟩ := h.failed reason hfailed
          refine ⟨hreason, hne, fun hyes => ?_, hdrained.take hbuffer _⟩
          exact absurd ((habort hyes).symm.trans hbuffer) (by simp)
        · exact absurd ((h.rejecting call reason hcall).2.symm.trans hbuffer) (by simp)
      case h_2 hbuffer =>
        split
        -- nothing is left, so the failure comes out
        case isTrue hreason =>
          have hended : s.termination ≠ some .ended := fun hended => hreason (h.ended hended).1
          refine h.answer (hsound.done_of_reason hreason) (fun _ => hbuffer)
            (fun htermination => absurd htermination hended) fun reason htermination => ?_
          exact ⟨hbuffer, by rw [(h.failed reason htermination).1]⟩
        case isFalse hnone =>
          have hundefined : s.failureReason = .undefined := not_not.mp hnone
          split
          case isTrue hdone =>
            refine h.answer hdone (fun _ => hbuffer) (fun _ => rfl) fun reason htermination => ?_
            obtain ⟨hreason, hne, -⟩ := h.failed reason htermination
            exact absurd (hreason.symm.trans hundefined) hne
          case isFalse => exact ⟨h.live, h.ended, h.failed, h.rejecting⟩

/-- One step with a proper reason. -/
theorem Draining.step (h : s.Draining) (hsound : s.Sound) {s' : NextCalls} {e : NextEvent}
    (hproper : s.Proper e) (hs : s.step e = some s') : s'.Draining := by
  cases e with
  | push frame => exact Option.some.inj hs ▸ h.push hsound frame
  | end' => exact Option.some.inj hs ▸ h.end' hsound
  | fail reason => exact Option.some.inj hs ▸ h.fail hsound hproper
  | reject => exact h.reject hproper hsound hs
  | deadline => exact Option.some.inj hs ▸ h.cancel hsound _
  | abort =>
      obtain ⟨-, heq⟩ := Option.ite_none_right_eq_some.mp hs
      exact Option.some.inj heq ▸ ⟨h.live, h.ended, h.failed, h.rejecting⟩
  | handleAbort =>
      obtain ⟨-, heq⟩ := Option.ite_none_right_eq_some.mp hs
      exact Option.some.inj heq ▸ h.cancel hsound _
  | next => exact Option.some.inj hs ▸ h.next hsound
  | return' =>
      refine Option.some.inj hs ▸ ?_
      unfold NextCalls.return'
      split
      · exact h
      · exact h.cancel hsound _
  | abandoned outcome =>
      obtain ⟨-, heq⟩ := Option.ite_none_right_eq_some.mp hs
      refine Option.some.inj heq ▸ ?_
      unfold settleCancellation
      split <;> exact ⟨h.live, h.ended, h.failed, h.rejecting⟩

end NextCalls

open NextCalls in
/-- Frames are delivered in push order, once, and the cancellation settles once, in any case. Once
the iterator is done, every `next` has settled exactly if none was made while another waited. If
`fail` was only given proper reasons, all frames come before the end, unless the call was
cancelled. -/
theorem rpcIterator_sound {signal : Option Bool} {events : List NextEvent} {s : NextCalls}
    (hrun : (machine signal).run events = some s) :
    s.Keeps ∧
      (s.done = true → s.rejecting = none →
        ((∀ call < s.calls, ∃ result, (call, result) ∈ s.settled) ↔
          (machine signal).Guarded Alone (machine signal).init events)) ∧
      ((machine signal).Guarded Proper (machine signal).init events → s.Delivers) := by
  have hsound : s.Sound :=
    Machine.invariant (create_sound signal) (fun _ _ _ h hs => h.step hs) hrun
  refine ⟨hsound.keeps, fun hdone hrejecting => ?_, fun hproper => ?_⟩
  · have haccounted : s.Accounted ↔ (create signal).Accounted ∧
        (machine signal).Guarded Alone (create signal) events :=
      Machine.runFrom_iff_guarded (I := Sound) (J := fun _ => True)
        (fun _ _ _ h _ hs => h.step hs) (fun _ _ _ h _ hs => h.accounted_iff hs)
        (create_sound signal) (fun _ _ => trivial) hrun
    have hinit : (create signal).Accounted := by
      intro call hlt
      have hcalls : (create signal).calls = 0 := by
        unfold create
        split <;> rfl
      exact absurd hlt (by simp [hcalls])
    rw [← hsound.accounted_of_done hdone hrejecting, haccounted]
    exact and_iff_right hinit
  · have hboth : s.Sound ∧ s.Draining :=
      hproper.invariant (I := fun s => s.Sound ∧ s.Draining)
        ⟨create_sound signal, create_draining signal⟩
        (fun _ _ _ h hproper hs => ⟨h.1.step hs, h.2.step h.1 hproper hs⟩) hrun
    exact hboth.2.delivers hsound

open NextCalls in
theorem rpcIterator_sound_fails :
    ∃ s, (machine (some false)).run [.next, .push ⟨[1], 0⟩, .push ⟨[2], 1⟩,
        .fail (.error timedOut), .next, .next] = some s ∧
      s.Delivers ∧ s.settled =
        [(0, .value ⟨[1], 0⟩), (1, .value ⟨[2], 1⟩), (2, .thrown (.error timedOut))] := by
  have hrun : ∃ s, (machine (some false)).run [.next, .push ⟨[1], 0⟩, .push ⟨[2], 1⟩,
        .fail (.error timedOut), .next, .next] = some s ∧ s.settled =
        [(0, .value ⟨[1], 0⟩), (1, .value ⟨[2], 1⟩), (2, .thrown (.error timedOut))] :=
    ⟨_, rfl, rfl⟩
  obtain ⟨s, hrun, hsettled⟩ := hrun
  refine ⟨s, hrun, (rpcIterator_sound hrun).2.2 ?_, hsettled⟩
  refine Machine.guarded_of_forall fun e he s => ?_
  simp only [List.mem_cons, List.not_mem_nil, or_false] at he
  rcases he with rfl | rfl | rfl | rfl | rfl | rfl
  case inr.inr.inr.inl =>
    refine fun _ => ⟨by simp, fun habort => ?_⟩
    exact absurd habort (by simp [Reason.isAbort, timedOut, CallError.isAbort])
  all_goals trivial

open NextCalls in
/-- The first of two calls that overlap never settles; and a failure that is an `AbortError` takes
the place of a frame that was received before it. -/
theorem not_rpcIterator_sound :
    (∃ s, (machine none).run [.next, .next, .end'] = some s ∧ s.done = true ∧
      s.rejecting = none ∧ s.calls = 2 ∧ s.settled = [(1, .done)]) ∧
    ∃ s, (machine none).run [.push ⟨[1], 0⟩, .fail (.error aborted), .next] = some s ∧
      s.cancellationRequested = false ∧ s.received = [⟨[1], 0⟩] ∧
      s.settled = [(0, .thrown (.error aborted))] :=
  ⟨⟨_, rfl, rfl, rfl, rfl, rfl⟩, ⟨_, rfl, rfl, rfl, rfl⟩⟩

end FitzTs.Rpc
