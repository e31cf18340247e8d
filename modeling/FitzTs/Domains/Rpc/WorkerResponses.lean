import FitzTs.Domains.Rpc.Worker
/-!
# FitzTs.Domains.Rpc.WorkerResponses

The response frames that one invocation writes.

The writer numbers its sends when they are called. A send may fail before its frame is written,
and then its number is missing on the wire; the terminal send makes the writer unusable only once
it has settled, so more may be called before; and a send that waits for a ready connection can be
overtaken. Where none of this happens (`KeepsOrder`) a send stands to each later one as
`Send.Before` says, and the frames are written from 0 on and end with the terminal one. That holds
whatever the task and its error path do: they use the writer as the handler does.
-/

namespace FitzTs.Rpc

open JsString Buffer

namespace ResponseWriter

variable {w w' : ResponseWriter} {id : Bytes} {i : Nat} {s t : Send}

/-- The frames written are numbered in their order, and at most the last one ends the stream. -/
def InOrder (w : ResponseWriter) : Prop :=
  w.wire.map RpcResponse.sequence = List.range w.wire.length ∧
    ∀ frame ∈ w.wire.dropLast, frame.streamEnd = false

/-- What has been called are writes, and their frames have been written or are on their way. -/
def Clear (w : ResponseWriter) : Prop :=
  ∀ s ∈ w.sends, s.frame.streamEnd = false ∧ (s.waiting = true ∨ s.written = true)

instance : Decidable w.Clear := inferInstanceAs (Decidable (∀ s ∈ _, _ ∧ _))

/-! ### What a function does to the sends -/

/-- The flags apart, the writer is the same. -/
structure SameSends (w w' : ResponseWriter) : Prop where
  correlationId : w'.correlationId = w.correlationId
  sequence : w'.sequence = w.sequence
  sends : w'.sends = w.sends
  places : w'.places = w.places
  wire : w'.wire = w.wire

theorem SameSends.refl (w : ResponseWriter) : SameSends w w := ⟨rfl, rfl, rfl, rfl, rfl⟩

theorem dispose_sameSends (w : ResponseWriter) : SameSends w w.dispose := ⟨rfl, rfl, rfl, rfl, rfl⟩

theorem disconnected_sameSends (w : ResponseWriter) : SameSends w w.disconnected := by
  unfold disconnected
  split <;> exact ⟨rfl, rfl, rfl, rfl, rfl⟩

/-- A send takes the next number. -/
theorem send_eq {body : Bytes} {isEnd : Bool} (h : w.send body isEnd = some w') :
    w.stale = false ∧ w' = { w with
      sequence := w.sequence + 1
      sends := w.sends ++ [⟨⟨w.correlationId, w.sequence, body, isEnd⟩, .readiness, none⟩] } := by
  unfold send at h
  split at h
  · cases h
  · rename_i hstale
    exact ⟨by simpa using hstale, (Option.some.inj h).symm⟩

/-- A send that has found the connection ready takes its place behind the others. -/
theorem passed_eq (h : w.passed i = some w') : ∃ s, w.sends[i]? = some s ∧
    s.stage = .readiness ∧ s.outcome = none ∧
      w' = { w with
        sends := w.sends.set i { s with stage := .line w.places }
        places := w.places + 1 } := by
  unfold passed at h
  split at h
  case h_1 s hs =>
    obtain ⟨⟨hstage, houtcome⟩, ⟨⟩⟩ := Option.ite_none_right_eq_some.mp h
    exact ⟨s, hs, hstage, houtcome, rfl⟩
  case h_2 => cases h

/-- The frame of the first place is written. -/
theorem wrote_eq (h : w.wrote i = some w') : ∃ s place, w.sends[i]? = some s ∧
    s.stage = .line place ∧ s.outcome = none ∧ (∀ t ∈ w.sends, t.behind place = true) ∧
      w' = { w with
        sends := w.sends.set i { s with stage := .written }
        wire := w.wire ++ [s.frame] } := by
  unfold wrote at h
  split at h
  case h_1 s hs =>
    split at h
    · rename_i place hstage
      obtain ⟨⟨houtcome, hnext⟩, ⟨⟩⟩ := Option.ite_none_right_eq_some.mp h
      exact ⟨s, place, hs, hstage, houtcome, hnext, rfl⟩
    · cases h
  case h_2 => cases h

/-- A send fulfils after its frame was written. -/
theorem succeeded_eq (h : w.succeeded i = some w') : ∃ s, w.sends[i]? = some s ∧
    s.written = true ∧ s.outcome = none ∧
      SameSends { w with sends := w.sends.set i { s with outcome := some .fulfilled } } w' := by
  unfold succeeded at h
  split at h
  case h_1 s hs =>
    obtain ⟨⟨hwritten, houtcome⟩, ⟨⟩⟩ := Option.ite_none_right_eq_some.mp h
    refine ⟨s, hs, hwritten, houtcome, ?_⟩
    dsimp only
    split <;> exact ⟨rfl, rfl, rfl, rfl, rfl⟩
  case h_2 => cases h

/-- A send may fail before or after its frame was written. -/
theorem failed_eq {benign : Bool} (h : w.failed i benign = some w') : ∃ s outcome,
    w.sends[i]? = some s ∧ s.outcome = none ∧
      SameSends { w with sends := w.sends.set i { s with outcome := some outcome } } w' := by
  unfold failed at h
  split at h
  case h_1 s hs =>
    obtain ⟨houtcome, ⟨⟩⟩ := Option.ite_none_right_eq_some.mp h
    cases benign with
    | false => exact ⟨s, .rejected, hs, houtcome, ⟨rfl, rfl, rfl, rfl, rfl⟩⟩
    | true => exact ⟨s, .fulfilled, hs, houtcome, ⟨rfl, rfl, rfl, rfl, rfl⟩⟩
  case h_2 => cases h

/-! ### The numbers -/

/-- How the sends and their numbers belong together. -/
structure Books (w : ResponseWriter) (id : Bytes) : Prop where
  correlationId : w.correlationId = id
  addressed : ∀ s ∈ w.sends, s.frame.correlationId = id
  sequence : w.sequence = w.sends.length
  numbered : w.sends.map (·.frame.sequence) = List.range w.sends.length

theorem books_create : (create id).Books id :=
  ⟨rfl, fun _ hs => absurd hs List.not_mem_nil, rfl, rfl⟩

/-- The books are kept of the sends alone. -/
theorem Books.of_same (h : w.Books id) (hsame : SameSends w w') : w'.Books id where
  correlationId := hsame.correlationId.trans h.correlationId
  addressed := hsame.sends ▸ h.addressed
  sequence := by rw [hsame.sequence, hsame.sends, h.sequence]
  numbered := by rw [hsame.sends, h.numbered]

theorem Books.send {body : Bytes} {isEnd : Bool} (h : w.Books id)
    (hsend : w.send body isEnd = some w') : w'.Books id := by
  obtain ⟨-, rfl⟩ := send_eq hsend
  refine ⟨h.correlationId, ?_, ?_, ?_⟩
  · simpa [or_imp, forall_and, h.correlationId] using h.addressed
  · simp [h.sequence]
  · simp [h.numbered, h.sequence, List.range_succ]

/-- The `i`-th element between those before and after it. -/
theorem split_at {α : Type*} {l : List α} {a : α} (h : l[i]? = some a) :
    l = l.take i ++ a :: l.drop (i + 1) ∧
      ∀ b, l.set i b = l.take i ++ b :: l.drop (i + 1) := by
  obtain ⟨hi, rfl⟩ := List.getElem?_eq_some_iff.mp h
  exact ⟨by simp, fun b => List.set_eq_take_append_cons_drop .. ▸ by simp [hi]⟩

/-- A send moves on: its frame stays the same. -/
theorem Books.of_set (h : w.Books id) (hs : w.sends[i]? = some s) (hframe : t.frame = s.frame) :
    Books { w with sends := w.sends.set i t } id := by
  obtain ⟨hsends, hset⟩ := split_at hs
  obtain ⟨hid, haddressed, hsequence, hnumbered⟩ := h
  refine ⟨hid, ?_, by simpa using hsequence, ?_⟩
  · rw [hsends] at haddressed
    simpa [hset, or_imp, forall_and, hframe] using haddressed
  · have hmap : (w.sends.set i t).map (·.frame.sequence) = w.sends.map (·.frame.sequence) := by
      conv_rhs => rw [hsends]
      rw [hset, List.map_append, List.map_append, List.map_cons, List.map_cons, hframe]
    rw [hmap, hnumbered, List.length_set]

/-! ### The order -/

end ResponseWriter

/-- How a send stands to one that was called later, while the order is kept. -/
structure Send.Before (s t : Send) : Prop where
  ready : t.stage ≠ .readiness → s.stage = .readiness → s.outcome ≠ none
  place : ∀ p q, s.stage = .line p → t.stage = .line q → p < q
  written : t.written = true → s.waiting = false
  clear : t.waiting = true ∨ t.written = true →
    s.frame.streamEnd = false ∧ (s.waiting = true ∨ s.written = true)

namespace ResponseWriter

variable {w w' : ResponseWriter} {id : Bytes} {i : Nat} {s t : Send}

/-- The order is kept so far. -/
structure Orderly (w : ResponseWriter) : Prop where
  before : w.sends.Pairwise Send.Before
  places : ∀ s ∈ w.sends, ∀ p, s.stage = .line p → p < w.places
  wire : w.wire = (w.sends.filter Send.written).map Send.frame

theorem orderly_create : (create id).Orderly :=
  ⟨.nil, fun _ hs => absurd hs List.not_mem_nil, rfl⟩

/-- What has been written is the beginning of what has been called. -/
theorem filter_written {sends : List Send} (h : sends.Pairwise Send.Before) :
    sends.filter Send.written = sends.takeWhile Send.written := by
  induction sends with
  | nil => rfl
  | cons s rest ih =>
      obtain ⟨hs, hrest⟩ := List.pairwise_cons.mp h
      cases hwritten : s.written with
      | true => rw [List.filter_cons_of_pos hwritten, List.takeWhile_cons_of_pos hwritten, ih hrest]
      | false =>
          rw [List.filter_cons_of_neg (by simp [hwritten]),
            List.takeWhile_cons_of_neg (by simp [hwritten])]
          -- a later frame would have been written past one that waits
          refine List.filter_eq_nil_iff.mpr fun t ht hlater => ?_
          have hwaits := ((hs t ht).clear (Or.inr hlater)).2
          rw [(hs t ht).written hlater, hwritten] at hwaits
          simp at hwaits

/-- The frames of an orderly writer are numbered without a gap. -/
theorem Orderly.inOrder (h : w.Orderly) (hbooks : w.Books id) : w.InOrder := by
  have htaken : w.sends.takeWhile Send.written <+: w.sends := List.takeWhile_prefix _
  rw [InOrder, h.wire, filter_written h.before]
  constructor
  · rw [List.map_map, List.length_map]
    have htake := List.prefix_iff_eq_take.mp (htaken.map (·.frame.sequence))
    rw [hbooks.numbered, List.length_map] at htake
    refine htake.trans ?_
    rw [List.take_range, Nat.min_eq_left htaken.length_le]
  · intro frame hframe
    rw [← List.map_dropLast] at hframe
    obtain ⟨s, hs, rfl⟩ := List.mem_map.mp hframe
    have hne : w.sends.takeWhile Send.written ≠ [] := fun hnil => by
      rw [hnil] at hs
      cases hs
    have hpairs := h.before.sublist htaken.sublist
    rw [← List.dropLast_append_getLast hne, List.pairwise_append] at hpairs
    have hwritten : ∀ t ∈ w.sends.takeWhile Send.written, t.written = true := fun t ht => by
      rw [← filter_written h.before] at ht
      exact List.of_mem_filter ht
    have hlast := hwritten _ (List.getLast_mem hne)
    exact ((hpairs.2.2 s hs _ (List.mem_singleton_self _)).clear (Or.inr hlast)).1

theorem Orderly.of_same (h : w.Orderly) (hsame : SameSends w w') : w'.Orderly where
  before := hsame.sends ▸ h.before
  places := by
    rw [hsame.sends, hsame.places]
    exact h.places
  wire := by rw [hsame.wire, hsame.sends, h.wire]

/-- A send is called while the writer is clear. -/
theorem Orderly.send {body : Bytes} {isEnd : Bool} (h : w.Orderly) (hclear : w.Clear)
    (hsend : w.send body isEnd = some w') : w'.Orderly := by
  obtain ⟨-, rfl⟩ := send_eq hsend
  refine ⟨?_, fun s hs p hp => ?_, ?_⟩
  · refine List.pairwise_append.mpr ⟨h.before, List.pairwise_singleton .., fun s hs t ht => ?_⟩
    obtain rfl := List.mem_singleton.mp ht
    exact ⟨fun hstage => absurd rfl hstage, fun p q _ hq => (by cases hq),
      fun hwritten => (by cases hwritten), fun _ => hclear s hs⟩
  · rcases List.mem_append.mp hs with hs | hs
    · exact h.places s hs p hp
    · obtain rfl := List.mem_singleton.mp hs
      cases hp
  · rw [List.filter_append, h.wire]
    simp [Send.written]

/-- One send moves on. -/
theorem pairwise_set {α : Type*} {R : α → α → Prop} {l : List α} {a b : α} (h : l.Pairwise R)
    (ha : l[i]? = some a) (hbefore : ∀ x ∈ l.take i, R x a → R x b)
    (hafter : ∀ y, R a y → y ∈ l.drop (i + 1) → R b y) : (l.set i b).Pairwise R := by
  obtain ⟨hl, hset⟩ := split_at ha
  rw [hl] at h
  simp only [hset, List.pairwise_append, List.pairwise_cons, List.mem_cons, forall_eq_or_imp]
    at h ⊢
  obtain ⟨hhead, ⟨ha, htail⟩, hcross⟩ := h
  exact ⟨hhead, ⟨fun y hy => hafter y (ha y hy) hy, htail⟩,
    fun x hx => ⟨hbefore x hx (hcross x hx).1, (hcross x hx).2⟩⟩

/-- Neither its frame nor whether that is written has changed. -/
theorem wire_of_set (hs : w.sends[i]? = some s) (hframe : t.frame = s.frame)
    (hwritten : t.written = s.written) :
    ((w.sends.set i t).filter Send.written).map Send.frame =
      (w.sends.filter Send.written).map Send.frame := by
  obtain ⟨hsends, hset⟩ := split_at hs
  conv_rhs => rw [hsends]
  rw [hset, List.filter_append, List.filter_append, List.map_append, List.map_append,
    List.filter_cons, List.filter_cons, hwritten]
  split
  · rw [List.map_cons, List.map_cons, hframe]
  · rfl

theorem mem_of_set (h : s ∈ w.sends.set i t) : s ∈ w.sends ∨ s = t := List.mem_or_eq_of_mem_set h

/-- A send gets its place in the line, none before it still waiting for a ready connection. -/
theorem Orderly.passed (h : w.Orderly)
    (hfirst : ∀ s ∈ w.sends.take i, s.stage = .readiness → s.outcome ≠ none)
    (hst : w.passed i = some w') : w'.Orderly := by
  obtain ⟨s, hs, hstage, houtcome, rfl⟩ := passed_eq hst
  have hwaiting : s.waiting = true := by simp [Send.waiting, Send.written, hstage, houtcome]
  refine ⟨pairwise_set h.before hs (fun x hx hbefore => ?_) (fun y hbefore _ => ?_),
    fun x hx p hp => ?_,
    h.wire.trans (wire_of_set (t := { s with stage := .line w.places }) hs rfl ?_).symm⟩
  · refine ⟨fun _ => hfirst x hx, fun p q hp hq => ?_, fun hwritten => (by cases hwritten),
      fun _ => hbefore.clear (Or.inl hwaiting)⟩
    obtain rfl := SendStage.line.inj hq
    exact h.places x (List.mem_of_mem_take hx) p hp
  · -- a later send is not past its wait before this one
    have hlater : y.stage = .readiness := by
      by_contra hpast
      exact hbefore.ready hpast hstage houtcome
    refine ⟨fun hpast => absurd hlater hpast, fun p q _ hq => ?_, fun hwritten => ?_, fun hy => ?_⟩
    · rw [hlater] at hq
      cases hq
    · rw [Send.written, hlater] at hwritten
      cases hwritten
    · exact ⟨(hbefore.clear hy).1, Or.inl (by simp [Send.waiting, Send.written, houtcome])⟩
  · rcases mem_of_set hx with hx | rfl
    · exact Nat.lt_succ_of_lt (h.places x hx p hp)
    · obtain rfl := SendStage.line.inj hp
      exact Nat.lt_succ_self _
  · simp [Send.written, hstage]

/-- The sends before the next one in the line are writes that have been written. -/
theorem Orderly.of_next (h : w.Orderly) (hs : w.sends[i]? = some s) {place : Nat}
    (hplace : s.stage = .line place) (houtcome : s.outcome = none)
    (hnext : ∀ t ∈ w.sends, t.behind place = true) (ht : t ∈ w.sends.take i) :
    t.written = true ∧ t.frame.streamEnd = false := by
  have hbefore : t.Before s := by
    have hpairs := h.before
    rw [(split_at hs).1] at hpairs
    exact (List.pairwise_append.mp hpairs).2.2 t ht s (List.mem_cons_self ..)
  have hwaiting : s.waiting = true := by simp [Send.waiting, Send.written, hplace, houtcome]
  obtain ⟨hend, hstands⟩ := hbefore.clear (Or.inl hwaiting)
  refine ⟨hstands.resolve_left fun hwaits => ?_, hend⟩
  simp only [Send.waiting, Bool.and_eq_true, Option.isNone_iff_eq_none] at hwaits
  have hbehind := hnext t (List.mem_of_mem_take ht)
  cases hstage : t.stage with
  | readiness => exact hbefore.ready (by simp [hplace]) hstage hwaits.2
  | line p =>
      simp only [Send.behind, hstage, hwaits.2, Option.isSome_none, Bool.false_or,
        decide_eq_true_eq] at hbehind
      exact absurd (hbefore.place p place hstage hplace) (Nat.not_lt.mpr hbehind)
  | written => simp [Send.written, hstage] at hwaits

theorem Orderly.wrote (h : w.Orderly) (hst : w.wrote i = some w') : w'.Orderly := by
  obtain ⟨s, place, hs, hplace, houtcome, hnext, rfl⟩ := wrote_eq hst
  have hwaiting : s.waiting = true := by simp [Send.waiting, Send.written, hplace, houtcome]
  have hearlier := fun t => h.of_next (t := t) hs hplace houtcome hnext
  refine ⟨pairwise_set h.before hs (fun x hx hbefore => ?_) (fun y hbefore _ => ?_),
    fun x hx p hp => ?_, ?_⟩
  · obtain ⟨hwritten, hend⟩ := hearlier x hx
    refine ⟨fun _ hstage => ?_, fun p q _ hq => (by cases hq),
      fun _ => by simp [Send.waiting, hwritten],
      fun _ => ⟨hend, Or.inr hwritten⟩⟩
    rw [Send.written, hstage] at hwritten
    cases hwritten
  · exact ⟨fun _ hstage => (by cases hstage), fun p q hp _ => (by cases hp),
      fun _ => by simp [Send.waiting, Send.written],
      fun hy => ⟨(hbefore.clear hy).1, Or.inr rfl⟩⟩
  · rcases mem_of_set hx with hx | rfl
    · exact h.places x hx p hp
    · cases hp
  · obtain ⟨hsends, hset⟩ := split_at hs
    have hlater : (w.sends.drop (i + 1)).filter Send.written = [] := by
      refine List.filter_eq_nil_iff.mpr fun y hy hwritten => ?_
      have hpairs := h.before
      rw [hsends] at hpairs
      have hbefore := (List.pairwise_cons.mp (List.pairwise_append.mp hpairs).2.1).1 y hy
      rw [hbefore.written hwritten] at hwaiting
      cases hwaiting
    have hunwritten : s.written = false := by simp [Send.written, hplace]
    have hwire := h.wire
    rw [hsends] at hwire
    simp only [List.filter_append, List.filter_cons, hunwritten, hlater] at hwire
    dsimp only
    rw [hwire, hset]
    simp [List.filter_append, Send.written, hlater]

/-- A send settles; if its frame has not been written, no later one waits. -/
theorem Orderly.settle (h : w.Orderly) (hs : w.sends[i]? = some s) (houtcome : s.outcome = none)
    {outcome : SendOutcome}
    (hlast : s.written = false → ∀ t ∈ w.sends.drop (i + 1), t.waiting = false) :
    Orderly { w with sends := w.sends.set i { s with outcome := some outcome } } := by
  have hsettled : Send.waiting { s with outcome := some outcome } = false := by simp [Send.waiting]
  refine ⟨pairwise_set h.before hs (fun x _ hbefore => ?_) (fun y hbefore hy => ?_),
    fun x hx p hp => ?_,
    h.wire.trans (wire_of_set (t := { s with outcome := some outcome }) hs rfl rfl).symm⟩
  · refine ⟨hbefore.ready, hbefore.place, hbefore.written, fun hstands => ?_⟩
    rw [hsettled] at hstands
    exact hbefore.clear (Or.inr (hstands.resolve_left Bool.false_ne_true))
  · refine ⟨fun _ _ => by simp, hbefore.place, fun _ => hsettled, fun hstands => ?_⟩
    refine ⟨(hbefore.clear hstands).1, Or.inr ?_⟩
    change s.written = true
    by_contra hunwritten
    have hunwritten : s.written = false := by simpa using hunwritten
    rcases hstands with hwaits | hwritten
    · rw [hlast hunwritten y hy] at hwaits
      cases hwaits
    · have hdone := hbefore.written hwritten
      simp [Send.waiting, hunwritten, houtcome] at hdone
  · rcases mem_of_set hx with hx | rfl
    · exact h.places x hx p hp
    · exact h.places s (List.mem_of_getElem? hs) p hp

end ResponseWriter

/-! ### The task -/

namespace Invocation

variable {c c' : Invocation} {id : Bytes} {e : InvocationEvent}

/-- A call that the writer does not refuse finds it clear. -/
def CallsClear (c : Invocation) : Prop := c.writer.stale = false → c.writer.Clear

instance : Decidable c.CallsClear := inferInstanceAs (Decidable (_ → _))

/-- The deadline answer, which the task goes on from, has failed. -/
def answerFailed (c : Invocation) : Bool :=
  match c.phase with
  | .expired i => c.writer.sends[i]?.bind Send.outcome = some .rejected
  | _ => false

/-- A step that leaves the frames in order. -/
def KeepsOrder (c : Invocation) : InvocationEvent → Prop
  /- nothing is called after a terminal call that is not over, or one that has failed unwritten:
  by the handler, or by the task for its own answers -/
  | .call .. => c.CallsClear
  | .begins expired =>
    c.registered = true → c.cancellationRequested = false → expired = true → c.CallsClear
  | .throws benign _ => benign = false → c.CallsClear
  | .continues benign _ => c.answerFailed = true → benign = false → c.CallsClear
  /- a send that waits for a ready connection is not overtaken -/
  | .passed i => ∀ s ∈ c.writer.sends.take i, s.stage = .readiness → s.outcome ≠ none
  /- a send does not fail unwritten while a later one waits -/
  | .failed i _ => ∀ s ∈ c.writer.sends[i]?, s.written = false →
    ∀ t ∈ c.writer.sends.drop (i + 1), t.waiting = false
  | _ => True

instance : ∀ {e : InvocationEvent}, Decidable (c.KeepsOrder e)
  | .call .. => inferInstanceAs (Decidable c.CallsClear)
  | .begins _ => inferInstanceAs (Decidable (_ → _ → _ → c.CallsClear))
  | .throws .. => inferInstanceAs (Decidable (_ → c.CallsClear))
  | .continues .. => inferInstanceAs (Decidable (_ → _ → c.CallsClear))
  | .passed i => inferInstanceAs
      (Decidable (∀ s ∈ c.writer.sends.take i, s.stage = .readiness → s.outcome ≠ none))
  | .failed i _ => inferInstanceAs (Decidable (∀ s ∈ c.writer.sends[i]?, s.written = false →
      ∀ t ∈ c.writer.sends.drop (i + 1), t.waiting = false))
  | .returns | .wrote _ | .succeeded _ | .cancelled | .timerFires | .replaced | .disconnected
  | .reconnected | .ackReady _ | .ackGranted _ | .ackSends _ | .ackWritten _ | .ackFailed _ =>
    isTrue trivial

/-- What a step does to the writer. -/
inductive WriterStep (c : Invocation) : InvocationEvent → ResponseWriter → Prop
  | kept (e : InvocationEvent) {w : ResponseWriter} (same : ResponseWriter.SameSends c.writer w) :
      WriterStep c e w
  | sends (e : InvocationEvent) {body : Bytes} {isEnd : Bool} {w : ResponseWriter}
      (send : c.writer.send body isEnd = some w) (clear : c.KeepsOrder e → c.CallsClear) :
      WriterStep c e w
  | passes {i : Nat} {w : ResponseWriter} (passed : c.writer.passed i = some w) :
      WriterStep c (.passed i) w
  | writes {i : Nat} {w : ResponseWriter} (wrote : c.writer.wrote i = some w) :
      WriterStep c (.wrote i) w
  | succeeds {i : Nat} {w : ResponseWriter} (succeeded : c.writer.succeeded i = some w) :
      WriterStep c (.succeeded i) w
  | fails {i : Nat} {benign : Bool} {w : ResponseWriter}
      (failed : c.writer.failed i benign = some w) : WriterStep c (.failed i benign) w

theorem writerStep_same (h : c'.writer = c.writer) : WriterStep c e c'.writer :=
  .kept _ (h ▸ .refl _)

theorem writerStep_finish : WriterStep c e c.finish.writer := by
  have hwriter : c.finish.writer = c.writer.dispose := by
    unfold finish
    dsimp only
    split <;> rfl
  exact .kept _ (hwriter ▸ c.writer.dispose_sameSends)

/-- An answer for a handler that is not called is a call of the writer. -/
theorem writerStep_answer (phase : Nat → InvocationPhase) (code : Nat) (message : JsString)
    (hclear : c.KeepsOrder e → c.CallsClear) :
    WriterStep c e ((c.answer phase code message).getD c.finish).writer := by
  unfold answer
  cases hsend : c.writer.send (encodeRpcErrorBody code message) true with
  | none => exact writerStep_finish
  | some w => exact .sends _ hsend hclear

/-- The error path of the task sends through the writer, too. -/
theorem writerStep_catchError {benign : Bool} {message : JsString}
    (hclear : c.KeepsOrder e → benign = false → c.CallsClear) :
    WriterStep c e (c.catchError benign message).writer := by
  unfold catchError
  split
  · exact writerStep_finish
  · rename_i hbenign
    exact writerStep_answer _ _ _ fun hkeeps => hclear hkeeps (by simpa using hbenign)

theorem writerStep_begin {expired : Bool} :
    WriterStep c (.begins expired) (c.begin expired).writer := by
  unfold begin
  split_ifs with hregistered hcancelled hexpired
  · exact .kept _ c.writer.dispose_sameSends
  · exact writerStep_finish
  · -- the signal is aborted first, which the writer does not see
    have hanswer := writerStep_answer (c := { c with aborted := true }) (e := .begins expired)
      .expired ErrCodeRpcTimeout (js "RPC request deadline elapsed") fun hkeeps =>
        hkeeps (by simpa using hregistered) (by simpa using hcancelled) hexpired
    cases hanswer with
    | kept _ same => exact .kept _ same
    | sends _ send clear => exact .sends _ send clear
  · exact writerStep_finish
  · exact .kept _ (.refl _)

theorem writerStep_continue {benign : Bool} {message : JsString}
    (hst : c.continue' benign message = some c') :
    WriterStep c (.continues benign message) c'.writer := by
  unfold continue' at hst
  cases hphase : c.phase with
  | expired i =>
      simp only [hphase] at hst
      split at hst
      · exact Option.some.inj hst ▸ writerStep_finish
      · rename_i hrejected
        refine Option.some.inj hst ▸ writerStep_catchError fun hkeeps hbenign => ?_
        exact hkeeps (by simp [answerFailed, hphase, hrejected]) hbenign
      · cases hst
  | failing i | overloaded i =>
      simp only [hphase] at hst
      split at hst
      · exact Option.some.inj hst ▸ writerStep_finish
      · cases hst
  | queued | handling | finished => simp [hphase] at hst

theorem cancel_writer : c.cancel.writer = c.writer := by
  unfold cancel
  split
  · dsimp only
    split <;> rfl
  · rfl

/-- What the task does with its writer is a step of the writer, or none. -/
theorem step_writer (hst : c.step e = some c') : WriterStep c e c'.writer := by
  cases e with
  | passed i =>
      obtain ⟨w, hpassed, rfl⟩ := Option.map_eq_some_iff.mp hst
      exact .passes hpassed
  | wrote i =>
      obtain ⟨w, hwrote, rfl⟩ := Option.map_eq_some_iff.mp hst
      exact .writes hwrote
  | succeeded i =>
      obtain ⟨w, hsucceeded, rfl⟩ := Option.map_eq_some_iff.mp hst
      exact .succeeds hsucceeded
  | failed i benign =>
      obtain ⟨w, hfailed, rfl⟩ := Option.map_eq_some_iff.mp hst
      exact .fails hfailed
  | begins expired =>
      obtain ⟨-, ⟨⟩⟩ := Option.ite_none_right_eq_some.mp hst
      exact writerStep_begin
  | returns =>
      obtain ⟨-, ⟨⟩⟩ := Option.ite_none_right_eq_some.mp hst
      exact writerStep_finish
  | throws benign message =>
      obtain ⟨-, ⟨⟩⟩ := Option.ite_none_right_eq_some.mp hst
      exact writerStep_catchError fun hkeeps => hkeeps
  | continues benign message => exact writerStep_continue hst
  | call body isEnd =>
      obtain ⟨-, ⟨⟩⟩ := Option.ite_none_right_eq_some.mp hst
      dsimp only
      cases hsend : c.writer.send body isEnd with
      | none => exact .kept _ (.refl _)
      | some w => exact .sends _ hsend fun hkeeps => hkeeps
  | cancelled =>
      obtain ⟨-, ⟨⟩⟩ := Option.ite_none_right_eq_some.mp hst
      exact writerStep_same cancel_writer
  | disconnected =>
      obtain ⟨-, ⟨⟩⟩ := Option.ite_none_right_eq_some.mp hst
      exact .kept _ c.writer.disconnected_sameSends
  | reconnected =>
      obtain ⟨-, ⟨⟩⟩ := Option.ite_none_left_eq_some.mp hst
      exact .kept _ (.refl _)
  | timerFires | replaced | ackReady | ackGranted | ackSends =>
      obtain ⟨-, ⟨⟩⟩ := Option.ite_none_right_eq_some.mp hst
      exact .kept _ (.refl _)
  | ackWritten i =>
      simp only [step] at hst
      split at hst
      · exact Option.some.inj hst ▸ .kept _ (.refl _)
      · cases hst
  | ackFailed i =>
      simp only [step] at hst
      split at hst
      case h_5 => cases hst
      all_goals exact Option.some.inj hst ▸ .kept _ (.refl _)

theorem WriterStep.books {w : ResponseWriter} (hw : WriterStep c e w) (h : c.writer.Books id) :
    w.Books id := by
  cases hw with
  | kept _ same => exact h.of_same same
  | sends _ send => exact h.send send
  | passes passed =>
      obtain ⟨s, hs, -, -, rfl⟩ := ResponseWriter.passed_eq passed
      have hset := h.of_set (t := { s with stage := .line c.writer.places }) hs rfl
      exact ⟨hset.correlationId, hset.addressed, hset.sequence, hset.numbered⟩
  | writes wrote =>
      obtain ⟨s, place, hs, -, -, -, rfl⟩ := ResponseWriter.wrote_eq wrote
      have hset := h.of_set (t := { s with stage := .written }) hs rfl
      exact ⟨hset.correlationId, hset.addressed, hset.sequence, hset.numbered⟩
  | succeeds succeeded =>
      obtain ⟨s, hs, -, -, same⟩ := ResponseWriter.succeeded_eq succeeded
      exact (h.of_set (t := { s with outcome := some .fulfilled }) hs rfl).of_same same
  | fails failed =>
      obtain ⟨s, outcome, hs, -, same⟩ := ResponseWriter.failed_eq failed
      exact (h.of_set (t := { s with outcome := some outcome }) hs rfl).of_same same

/-- A writer stays orderly if the condition holds at each step. -/
theorem WriterStep.orderly {w : ResponseWriter} (hw : WriterStep c e w) (h : c.writer.Orderly)
    (hkeeps : c.KeepsOrder e) : w.Orderly := by
  cases hw with
  | kept _ same => exact h.of_same same
  | sends _ send clear => exact h.send (clear hkeeps (ResponseWriter.send_eq send).1) send
  | passes passed => exact h.passed hkeeps passed
  | writes wrote => exact h.wrote wrote
  | succeeds succeeded =>
      obtain ⟨s, hs, hwritten, houtcome, same⟩ := ResponseWriter.succeeded_eq succeeded
      refine (h.settle hs houtcome fun hunwritten => ?_).of_same same
      rw [hwritten] at hunwritten
      cases hunwritten
  | fails failed =>
      obtain ⟨s, outcome, hs, houtcome, same⟩ := ResponseWriter.failed_eq failed
      exact (h.settle hs houtcome (hkeeps s hs)).of_same same

theorem create_books {supportsCancellation accepted : Bool} :
    (create id supportsCancellation accepted).writer.Books id ∧
      (create id supportsCancellation accepted).writer.Orderly := by
  cases accepted with
  | true => exact ⟨ResponseWriter.books_create, ResponseWriter.orderly_create⟩
  | false =>
      have hanswer := writerStep_answer (e := .call [] false)
        (c := { create id supportsCancellation true with registered := false })
        .overloaded ErrCodeRpcBackpressure (js "Local RPC worker is overloaded")
        fun hkeeps => hkeeps
      exact ⟨hanswer.books ResponseWriter.books_create,
        hanswer.orderly ResponseWriter.orderly_create fun _ _ hs => absurd hs List.not_mem_nil⟩

/-- The books are right in every run. -/
theorem books_of_run {supportsCancellation accepted : Bool} {es : List InvocationEvent}
    (hrun : (machine id supportsCancellation accepted).run es = some c) : c.writer.Books id :=
  Machine.invariant (I := fun c => c.writer.Books id) create_books.1
    (fun _ _ _ h hst => (step_writer hst).books h) hrun

/-- **The frames written for a request are in order** in every run that keeps to the condition. -/
theorem inOrder_of_keepsOrder {correlationId : Bytes} {supportsCancellation accepted : Bool}
    {es : List InvocationEvent}
    (hrun : (machine correlationId supportsCancellation accepted).run es = some c)
    (hguarded : (machine correlationId supportsCancellation accepted).Guarded KeepsOrder
      (create correlationId supportsCancellation accepted) es) : c.writer.InOrder := by
  have horderly : c.writer.Orderly :=
    Machine.Guarded.invariant (I := fun c => c.writer.Orderly) create_books.2
      (fun _ _ _ h hkeeps hst => (step_writer hst).orderly h hkeeps) hguarded hrun
  exact horderly.inOrder (books_of_run hrun)

/-- A write that is not awaited, and the end; the writer refuses what is called after it. -/
def writesRun : List InvocationEvent :=
  [.begins false, .call [1] false, .call [2] true, .passed 0, .passed 1, .wrote 0, .wrote 1,
    .succeeded 0, .succeeded 1, .call [3] false, .returns]

theorem inOrder_writesRun : ∃ c, (machine (List.replicate 16 7) true true).run writesRun = some c ∧
    c.writer.wire.length = 2 ∧ c.writer.InOrder := by
  have hguarded : (machine (List.replicate 16 7) true true).Guarded KeepsOrder
      (create (List.replicate 16 7) true true) writesRun := by decide +kernel
  have hwire : ((machine (List.replicate 16 7) true true).run writesRun).any
      (fun c => c.writer.wire.length = 2) = true := by decide +kernel
  obtain ⟨c, hrun, hlength⟩ := (Option.any_eq_true ..).mp hwire
  exact ⟨c, hrun, of_decide_eq_true hlength, inOrder_of_keepsOrder hrun hguarded⟩

/-- A write whose own signal is aborted has used up the number 0. -/
theorem not_forall_inOrder :
    ¬ ∀ (correlationId : Bytes) (supportsCancellation accepted : Bool) (es : List InvocationEvent)
      (c : Invocation), (machine correlationId supportsCancellation accepted).run es = some c →
        c.writer.InOrder := by
  intro h
  have hgap : ((machine (List.replicate 16 7) true true).run
      [.begins false, .call [1] false, .failed 0 false, .call [2] false, .passed 1, .wrote 1]).any
      (fun c => c.writer.wire.map RpcResponse.sequence = [1]) = true := by decide +kernel
  obtain ⟨c, hrun, hsequence⟩ := (Option.any_eq_true ..).mp hgap
  have hwire := of_decide_eq_true hsequence
  have hnumbers := (h _ _ _ _ c hrun).1
  rw [← List.length_map RpcResponse.sequence, hwire] at hnumbers
  cases hnumbers

end Invocation

end FitzTs.Rpc
