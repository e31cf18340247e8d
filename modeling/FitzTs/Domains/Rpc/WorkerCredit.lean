import FitzTs.Domains.Rpc.Worker
/-!
# FitzTs.Domains.Rpc.WorkerCredit

The cleanup acknowledgements of one invocation.

The lifecycle handler sends one for a request that is cancelled before it has started, and takes it
out of `activeInvocations` so that its task sends none; the `finally` of the task, and that of the
overload path, send one for every other request. Three things are not covered by this: a request
whose deadline answer is being sent has not started, and yet its task is past the look into
`activeInvocations`; the `finally` does not ask whether the session of the request still lasts; and
the loss of the session rejects an acknowledgement at the request gate only, not one that still
waits for a ready connection or has been given its slot.
-/

namespace FitzTs.Rpc.Invocation

open JsString Buffer

variable {c c' : Invocation} {e : InvocationEvent}

/-- The session of the request lasts. -/
def InSession (c : Invocation) : Prop := c.connected = true ∧ c.session = 0

instance : Decidable c.InSession := inferInstanceAs (Decidable (_ ∧ _))

/-- The task, or the overload path, is still to come to its `finally`. -/
def Busy (c : Invocation) : Prop :=
  c.phase ≠ .finished ∧ (c.phase = .queued → c.registered = true)

/-- An acknowledgement belongs to the session of the request. -/
def Own (c : Invocation) : Ack → Prop
  | .parked | .queued | .granted => c.InSession
  | .sending session => session = 0
  | .written session => session = 0
  | .failed => ¬ c.InSession

def isWritten : Ack → Bool
  | .written _ => true
  | _ => false

/-- The acknowledgements of a request: never two, none in a later session, and one if the request
is done with, its session lasts and nothing is under way any more. -/
structure Credit (c : Invocation) : Prop where
  own : ∀ session, .written session ∈ c.acks → session = 0
  once : c.acks.countP isWritten ≤ 1
  settled : ¬ c.Busy → c.InSession → (∀ ack ∈ c.acks, ack = .failed ∨ isWritten ack = true) →
    c.acks.countP isWritten = 1

/-- A step that leaves the accounting right. -/
def KeepsCredit (c : Invocation) : InvocationEvent → Prop
  /- the task ends in the session of its request -/
  | .returns | .throws .. | .continues .. => c.InSession
  /- a cancellation does not find a task that is sending an answer for a handler not yet called -/
  | .cancelled => c.registered = true → c.started = false → c.phase = .queued
  /- the broker does not use a correlation id again while its request is active -/
  | .replaced => c.registered = false
  /- the acknowledgement is not lost while the session lasts -/
  | .ackFailed _ => ¬ c.InSession
  /- the session does not end under an acknowledgement that its end does not reject -/
  | .disconnected => ∀ ack ∈ c.acks, ack ≠ .parked ∧ ack ≠ .granted
  | _ => True

instance : ∀ {e : InvocationEvent}, Decidable (c.KeepsCredit e)
  | .returns | .throws .. | .continues .. => inferInstanceAs (Decidable c.InSession)
  | .cancelled => inferInstanceAs (Decidable (_ → _ → _))
  | .replaced => inferInstanceAs (Decidable (_ = _))
  | .ackFailed _ => inferInstanceAs (Decidable (¬ _))
  | .disconnected => inferInstanceAs (Decidable (∀ ack ∈ c.acks, ack ≠ .parked ∧ ack ≠ .granted))
  | .begins _ | .call .. | .passed _ | .wrote _ | .succeeded _ | .failed .. | .timerFires
  | .reconnected | .ackReady _ | .ackGranted _ | .ackSends _ | .ackWritten _ => isTrue trivial

/-- What holds while the accounting is right. -/
structure Credited (c : Invocation) : Prop where
  supports : c.supportsCancellation = true
  registered : c.registered = true → c.InSession ∧ c.phase ≠ .finished ∧
    ∀ i, c.phase ≠ .overloaded i
  busy : c.Busy → c.acks = []
  done : ¬ c.Busy → c.InSession → c.acks ≠ []
  atMost : c.acks.length ≤ 1
  own : ∀ ack ∈ c.acks, c.Own ack

theorem Credited.credit (h : c.Credited) : c.Credit := by
  refine ⟨fun session hmem => h.own _ hmem, List.countP_le_length.trans h.atMost, ?_⟩
  intro hdone hin hsettled
  obtain ⟨ack, hack⟩ : ∃ ack, c.acks = [ack] :=
    List.length_eq_one_iff.mp (le_antisymm h.atMost (List.length_pos_iff.mpr (h.done hdone hin)))
  have hmem : ack ∈ c.acks := by simp [hack]
  rcases hsettled ack hmem with rfl | hwritten
  · exact absurd hin (h.own _ hmem)
  · simp [hack, hwritten]

/-- The `finally` sends the one acknowledgement of a request. -/
theorem Credited.finish (h : c.Credited) (hbusy : c.Busy) (hin : c.InSession) :
    c.finish.Credited := by
  have hfinish : c.finish = { c with
      registered := false
      writer := c.writer.dispose
      phase := .finished
      acks := [.parked] } := by
    simp [Invocation.finish, sendAck, h.supports, h.busy hbusy]
  rw [hfinish]
  exact
    { supports := h.supports
      registered := nofun
      busy := fun hbusy => absurd rfl hbusy.1
      done := fun _ _ => by simp
      atMost := le_rfl
      own := fun ack hack => by
        obtain rfl := List.mem_singleton.mp hack
        exact hin }

theorem Credited.answer {phase : Nat → InvocationPhase} {code : Nat} {message : JsString}
    (h : c.Credited) (hbusy : c.Busy) (hin : c.InSession)
    (hphase : ∀ i, phase i ≠ .finished ∧ phase i ≠ .queued)
    (hregistered : c.registered = true → ∀ i j, phase i ≠ .overloaded j) :
    ((c.answer phase code message).getD c.finish).Credited := by
  unfold Invocation.answer
  cases c.writer.send (encodeRpcErrorBody code message) true with
  | none => exact h.finish hbusy hin
  | some writer =>
      have hstill : Busy { c with writer, phase := phase c.writer.sends.length } :=
        ⟨(hphase _).1, fun hqueued => absurd hqueued (hphase _).2⟩
      exact
        { supports := h.supports
          registered := fun hreg => ⟨hin, (hphase _).1, fun j => hregistered hreg _ j⟩
          busy := fun _ => h.busy hbusy
          done := fun hdone => absurd hstill hdone
          atMost := h.atMost
          own := h.own }

theorem Credited.catchError {benign : Bool} {message : JsString} (h : c.Credited) (hbusy : c.Busy)
    (hin : c.InSession) : (c.catchError benign message).Credited := by
  unfold Invocation.catchError
  split
  · exact h.finish hbusy hin
  · exact h.answer hbusy hin (fun i => ⟨by simp, by simp⟩) fun _ i j => by simp

theorem Credited.begin {expired : Bool} (h : c.Credited) (hqueued : c.phase = .queued) :
    (c.begin expired).Credited := by
  unfold Invocation.begin
  split_ifs with hunregistered
  · have hfalse : ¬ c.registered = true := by simpa using hunregistered
    have hnotBusy : ¬ c.Busy := fun hbusy => hfalse (hbusy.2 hqueued)
    exact
      { supports := h.supports
        registered := fun hregistered => absurd hregistered hfalse
        busy := fun hbusy => absurd rfl hbusy.1
        done := fun _ => h.done hnotBusy
        atMost := h.atMost
        own := h.own }
  all_goals
    have hregistered : c.registered = true := by simpa using hunregistered
    obtain ⟨hin, -, -⟩ := h.registered hregistered
    have hbusy : c.Busy := ⟨by simp [hqueued], fun _ => hregistered⟩
  · exact h.finish hbusy hin
  · have haborted : Credited { c with aborted := true } := ⟨h.1, h.2, h.3, h.4, h.5, h.6⟩
    exact haborted.answer hbusy hin (fun i => ⟨by simp, by simp⟩)
      fun _ i j => by simp
  · exact h.finish hbusy hin
  · exact
      { supports := h.supports
        registered := fun _ => ⟨hin, by simp, by simp⟩
        busy := fun _ => h.busy hbusy
        done := fun hdone => absurd ⟨by simp, by simp⟩ hdone
        atMost := h.atMost
        own := h.own }

/-- A cancellation before the task has begun sends the one acknowledgement of the request. -/
theorem Credited.cancel (h : c.Credited)
    (hkeeps : c.registered = true → c.started = false → c.phase = .queued) : c.cancel.Credited := by
  unfold Invocation.cancel
  split_ifs with hregistered
  · obtain ⟨hin, hphase, hoverloaded⟩ := h.registered hregistered
    dsimp only
    split_ifs with hstarted
    · exact ⟨h.1, h.2, h.3, h.4, h.5, h.6⟩
    · have hqueued := hkeeps hregistered (by simpa using hstarted)
      have hacks : c.acks = [] := h.busy ⟨hphase, fun _ => hregistered⟩
      simp only [sendAck, hacks, List.nil_append]
      exact
        { supports := h.supports
          registered := nofun
          busy := fun hbusy => absurd (hbusy.2 hqueued) (by simp)
          done := fun _ _ => by simp
          atMost := le_rfl
          own := fun ack hack => by
            obtain rfl := List.mem_singleton.mp hack
            exact hin }
  · exact h

/-- An acknowledgement moves on. -/
theorem Credited.setAck {i : Nat} {ack : Ack} (h : c.Credited) (hown : c.Own ack) :
    (c.setAck i ack).Credited where
  supports := h.supports
  registered := h.registered
  busy := fun hbusy => by simp [Invocation.setAck, h.busy hbusy]
  done := fun hdone hin => by simpa [Invocation.setAck] using h.done hdone hin
  atMost := by simpa [Invocation.setAck] using h.atMost
  own := fun a ha => by
    rcases List.mem_or_eq_of_mem_set ha with hmem | rfl
    · exact h.own a hmem
    · exact hown

/-- The loss of the session: what waits for a slot fails. -/
theorem Credited.disconnect (h : c.Credited)
    (hkeeps : ∀ ack ∈ c.acks, ack ≠ .parked ∧ ack ≠ .granted) : c.disconnect.Credited := by
  have hlost : ¬ c.disconnect.InSession := fun hin => Bool.false_ne_true hin.1
  refine
    { supports := h.supports
      registered := nofun
      busy := fun hbusy => ?_
      done := fun _ hin => absurd hin hlost
      atMost := by simpa [Invocation.disconnect] using h.atMost
      own := fun ack hack => ?_ }
  · have hbefore : c.Busy :=
      ⟨hbusy.1, fun hqueued => absurd (hbusy.2 hqueued) Bool.false_ne_true⟩
    simp [Invocation.disconnect, h.busy hbefore]
  · obtain ⟨before, hmem, rfl⟩ := List.mem_map.mp hack
    have hown := h.own before hmem
    cases before with
    | parked => exact absurd rfl (hkeeps _ hmem).1
    | granted => exact absurd rfl (hkeeps _ hmem).2
    | queued => exact hlost
    | sending session => exact hown
    | written session => exact hown
    | failed => exact hlost

theorem Credited.reconnect (h : c.Credited) (hlost : ¬ c.InSession) :
    Credited { c with connected := true, session := c.session + 1 } where
  supports := h.supports
  registered := fun hregistered => absurd (h.registered hregistered).1 hlost
  busy := h.busy
  done := fun _ hin => absurd hin.2 (Nat.succ_ne_zero _)
  atMost := h.atMost
  own := fun ack hack => by
    have hown := h.own ack hack
    cases ack with
    | parked | queued | granted => exact absurd hown hlost
    | sending session => exact hown
    | written session => exact hown
    | failed => exact fun hin => absurd hin.2 (Nat.succ_ne_zero _)

theorem Credited.step (h : c.Credited) (hkeeps : c.KeepsCredit e) (hst : c.step e = some c') :
    c'.Credited := by
  cases e with
  | begins expired =>
      obtain ⟨hqueued, ⟨⟩⟩ := Option.ite_none_right_eq_some.mp hst
      exact h.begin hqueued
  | returns =>
      obtain ⟨hphase, ⟨⟩⟩ := Option.ite_none_right_eq_some.mp hst
      exact h.finish ⟨by simp [hphase], by simp [hphase]⟩ hkeeps
  | throws benign message =>
      obtain ⟨hphase, ⟨⟩⟩ := Option.ite_none_right_eq_some.mp hst
      exact h.catchError ⟨by simp [hphase], by simp [hphase]⟩ hkeeps
  | continues benign message =>
      rcases continue_cases hst with ⟨hphase, rfl⟩ | ⟨⟨i, hphase⟩, rfl⟩
      · refine h.finish ?_ hkeeps
        rcases hphase with ⟨i, hphase⟩ | ⟨i, hphase⟩ | ⟨i, hphase⟩ <;>
          exact ⟨by simp [hphase], by simp [hphase]⟩
      · exact h.catchError ⟨by simp [hphase], by simp [hphase]⟩ hkeeps
  | cancelled =>
      obtain ⟨-, ⟨⟩⟩ := Option.ite_none_right_eq_some.mp hst
      exact h.cancel hkeeps
  | disconnected =>
      obtain ⟨-, ⟨⟩⟩ := Option.ite_none_right_eq_some.mp hst
      exact h.disconnect hkeeps
  | reconnected =>
      obtain ⟨hlost, ⟨⟩⟩ := Option.ite_none_left_eq_some.mp hst
      exact h.reconnect fun hin => hlost hin.1
  -- excluded while the worker is registered
  | replaced =>
      obtain ⟨-, ⟨⟩⟩ := Option.ite_none_right_eq_some.mp hst
      have hsame : { c with registered := false } = c := by
        have hunregistered : c.registered = false := hkeeps
        rw [← hunregistered]
      rw [hsame]
      exact h
  -- the session has not changed since the ack was parked
  | ackReady i =>
      obtain ⟨⟨hparked, -⟩, ⟨⟩⟩ := Option.ite_none_right_eq_some.mp hst
      have hin : c.Own .parked := h.own _ (List.mem_of_getElem? hparked)
      exact h.setAck hin
  | ackGranted i =>
      obtain ⟨hqueued, ⟨⟩⟩ := Option.ite_none_right_eq_some.mp hst
      have hin : c.Own .queued := h.own _ (List.mem_of_getElem? hqueued)
      exact h.setAck hin
  -- the frame is bound to the session of the invocation
  | ackSends i =>
      obtain ⟨hgranted, ⟨⟩⟩ := Option.ite_none_right_eq_some.mp hst
      have hin : c.Own .granted := h.own _ (List.mem_of_getElem? hgranted)
      have hsession : c.nextSession = 0 := by
        unfold nextSession
        rw [if_pos hin.1, hin.2]
      exact h.setAck hsession
  | ackWritten i =>
      simp only [Invocation.step] at hst
      split at hst
      case h_1 session hsending =>
        obtain rfl := Option.some.inj hst
        have hown : c.Own (.sending session) := h.own _ (List.mem_of_getElem? hsending)
        exact h.setAck hown
      case h_2 => cases hst
  | ackFailed i =>
      simp only [Invocation.step] at hst
      split at hst
      case h_5 => cases hst
      all_goals exact Option.some.inj hst ▸ h.setAck hkeeps
  | call | timerFires =>
      obtain ⟨-, ⟨⟩⟩ := Option.ite_none_right_eq_some.mp hst
      exact ⟨h.1, h.2, h.3, h.4, h.5, h.6⟩
  | passed | wrote | succeeded | failed =>
      obtain ⟨writer, -, rfl⟩ := Option.map_eq_some_iff.mp hst
      exact ⟨h.1, h.2, h.3, h.4, h.5, h.6⟩

theorem credited_create {correlationId : Bytes} {accepted : Bool} :
    (create correlationId true accepted).Credited := by
  have hacks : (create correlationId true accepted).acks = [] := by cases accepted <;> rfl
  have hbusy : (create correlationId true accepted).Busy := by
    cases accepted with
    | true => exact ⟨nofun, fun _ => rfl⟩
    | false => exact ⟨nofun, nofun⟩
  exact
    { supports := by cases accepted <;> rfl
      registered := by
        cases accepted with
        | true => exact fun _ => ⟨⟨rfl, rfl⟩, nofun, nofun⟩
        | false => exact fun hregistered => absurd hregistered Bool.false_ne_true
      busy := fun _ => hacks
      done := fun hdone => absurd hbusy hdone
      atMost := by simp [hacks]
      own := by simp [hacks] }

/-- **Credit.** In every run with cancellation support whose steps keep the accounting right, a
request has its one acknowledgement, in its own session. -/
theorem credit_of_keepsCredit {correlationId : Bytes} {accepted : Bool} {es : List InvocationEvent}
    (hrun : (machine correlationId true accepted).run es = some c)
    (hguarded : (machine correlationId true accepted).Guarded KeepsCredit
      (create correlationId true accepted) es) : c.Credit :=
  (Machine.Guarded.invariant (I := Credited) credited_create
    (fun _ _ _ h hkeeps hst => h.step hkeeps hst) hguarded hrun).credit

/-- The handler returns, and its acknowledgement is written. -/
def creditRun : List InvocationEvent :=
  [.begins false, .call [1] true, .passed 0, .wrote 0, .succeeded 0, .returns, .ackReady 0,
    .ackGranted 0, .ackSends 0, .ackWritten 0]

theorem credit_creditRun : ∃ c, (machine (List.replicate 16 7) true true).run creditRun = some c ∧
    c.acks = [.written 0] ∧ c.Credit := by
  have hguarded : (machine (List.replicate 16 7) true true).Guarded KeepsCredit
      (create (List.replicate 16 7) true true) creditRun := by decide +kernel
  have hacks : ((machine (List.replicate 16 7) true true).run creditRun).any
      (fun c => c.acks = [.written 0]) = true := by decide +kernel
  obtain ⟨c, hrun, hwritten⟩ := (Option.any_eq_true ..).mp hacks
  exact ⟨c, hrun, of_decide_eq_true hwritten, credit_of_keepsCredit hrun hguarded⟩

/-- A cancellation arrives while the answer to a request past its deadline is being sent: both the
lifecycle handler and the task acknowledge. -/
theorem not_forall_credit :
    ¬ ∀ (correlationId : Bytes) (accepted : Bool) (es : List InvocationEvent) (c : Invocation),
      (machine correlationId true accepted).run es = some c → c.Credit := by
  intro h
  have htwice : ((machine (List.replicate 16 7) true true).run
      [.begins true, .cancelled, .ackReady 0, .ackGranted 0, .ackSends 0, .ackWritten 0, .passed 0,
        .wrote 0, .succeeded 0, .continues false [], .ackReady 1, .ackGranted 1, .ackSends 1,
        .ackWritten 1]).any
      (fun c => c.acks = [.written 0, .written 0]) = true := by decide +kernel
  obtain ⟨c, hrun, hwritten⟩ := (Option.any_eq_true ..).mp htwice
  have honce := (h _ _ _ c hrun).once
  rw [of_decide_eq_true hwritten] at honce
  exact absurd honce (by decide)

end FitzTs.Rpc.Invocation
