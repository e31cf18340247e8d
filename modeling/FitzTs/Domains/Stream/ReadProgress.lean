import FitzTs.Domains.Stream.Read
import Mathlib.Tactic.Linarith
/-!
# FitzTs.Domains.Stream.ReadProgress

Which offsets a `read` leaves behind.

The batches of a read form a chain: each starts where the one before it ended, and so does every
request. Whether the chain moves forward, and only past offsets that the broker has reported,
depends on each page on its own (`Sound`). Two kinds of answer break it: a report that lies behind
the offset that was asked for, and an answer without a body to a selector of the resource axis,
whose start offset counts as reported.
-/

namespace FitzTs.Stream

open JsString Routes
open FitzTs.Client (RetryOptions)

/-- The offset that a cursor reports on the axis of the selector. -/
def ownOffset (route : JsString) (cursor : StreamReadCursor) : Option ℤ :=
  match classifyStreamSelectorScope route with
  | some .global => cursor.lastGlobalOffset
  | some .realm => cursor.lastRealmOffset
  | some .area => cursor.lastAreaOffset
  | _ => some cursor.lastResourceOffset

/-- The selector is read on the resource axis. -/
def OnResourceAxis (route : JsString) : Prop :=
  classifyStreamSelectorScope route ≠ some .global ∧
    classifyStreamSelectorScope route ≠ some .realm ∧
      classifyStreamSelectorScope route ≠ some .area

instance {route : JsString} : Decidable (OnResourceAxis route) :=
  inferInstanceAs (Decidable (_ ∧ _ ∧ _))

/-- The next offset is read off the axis of the selector, if the cursor has it. -/
theorem streamNextOffset_eq {route : JsString} {offset : ℤ} {cursor : StreamReadCursor} :
    streamNextOffset route offset cursor = (ownOffset route cursor).elim offset (· + 1) := by
  unfold streamNextOffset ownOffset
  cases classifyStreamSelectorScope route with
  | none => rfl
  | some scope => cases scope <;> rfl

/-- Without a cursor the offset moves on one step on the resource axis, and not at all on the
others. -/
theorem streamNextOffset_page_none {ρ : Type*} {route : JsString} {offset : ℤ}
    {items : List (StreamReadItem ρ)} :
    streamNextOffset route offset (DecodedRead.page ⟨items, none⟩ offset).cursor =
      if OnResourceAxis route then offset + 1 else offset := by
  unfold streamNextOffset
  split
  case h_1 hscope => exact (if_neg fun h => h.1 hscope).symm
  case h_2 hscope => exact (if_neg fun h => h.2.1 hscope).symm
  case h_3 hscope => exact (if_neg fun h => h.2.2 hscope).symm
  case h_4 hglobal hrealm harea => exact (if_pos ⟨hglobal, hrealm, harea⟩).symm

namespace Read

variable {φ ρ : Type*}

/-- A batch that starts at or before its end, and passes only offsets up to the one the broker
reported with it. -/
def Sound (route : JsString) (b : StreamReadBatch ρ × Option StreamReadCursor) : Prop :=
  b.1.fromOffset ≤ b.1.nextOffset ∧
    (b.1.fromOffset < b.1.nextOffset →
      ∃ cursor ∈ b.2, ∃ last ∈ ownOffset route cursor, b.1.nextOffset ≤ last + 1)

/-- Where the batches so far have come to. -/
def reached (c : Read φ ρ) : ℤ := (c.batches.map (·.1.nextOffset)).getLastD c.options.fromOffset

/-- Some cursor returned so far reports an offset from `offset` on. -/
def Covered (c : Read φ ρ) (offset : ℤ) : Prop :=
  ∃ b ∈ c.batches, ∃ cursor ∈ b.2, ∃ last ∈ ownOffset c.route cursor, offset ≤ last

/-- The read has skipped nothing. -/
structure NeverSkips (c : Read φ ρ) : Prop where
  /-- Every batch starts where the one before it ended. -/
  chained : c.batches.map (·.1.fromOffset) =
    (c.options.fromOffset :: c.batches.map (·.1.nextOffset)).dropLast
  /-- No batch moves backwards, or past what the broker reported with it. -/
  sound : ∀ b ∈ c.batches, Sound c.route b
  /-- A request under way starts where the batches have come to, and so at or before every offset
  that no cursor has covered. -/
  requested : ∀ attempt, c.phase = .requesting attempt →
    ∃ request, c.requests.getLast? = some request ∧ request.startOffset = c.reached ∧
      ∀ offset ≥ c.options.fromOffset, ¬ c.Covered offset → request.startOffset ≤ offset

/-- The answer reports an offset on the axis of the selector that is not behind the offset asked
for, or no offset on an axis other than that of the resource. A report that lies behind does no harm
where it ends the read. -/
def Reports (c : Read φ ρ) : ReadEvent ρ → Prop
  | .answered decoded =>
    match decoded.cursor with
    | some cursor => ∀ last ∈ ownOffset c.route cursor,
        c.offset ≤ last + 1 ∨ cursor.hasMore ∧ 1 ≤ c.stalledPages
    | none => ¬ OnResourceAxis c.route
  | _ => True

instance {c : Read φ ρ} : ∀ {e : ReadEvent ρ}, Decidable (c.Reports e)
  | .answered ⟨_, some cursor⟩ => inferInstanceAs (Decidable (∀ last ∈ ownOffset c.route cursor,
      c.offset ≤ last + 1 ∨ cursor.hasMore ∧ 1 ≤ c.stalledPages))
  | .answered ⟨_, none⟩ => inferInstanceAs (Decidable (¬ OnResourceAxis c.route))
  | .next | .close | .subscribed | .subscribeFailed _ | .failed _ | .retryDue | .wake | .woken
  | .aborted => isTrue trivial

/-! ### What a step does -/

/-- A page with which the read gives up. -/
def Stalls (c : Read φ ρ) (decoded : DecodedRead ρ) : Prop :=
  (decoded.page c.offset).cursor.hasMore ∧
    streamNextOffset c.route c.offset (decoded.page c.offset).cursor ≤ c.offset ∧
      1 ≤ c.stalledPages

/-- The batch made of a page. -/
def batch (c : Read φ ρ) (decoded : DecodedRead ρ) : StreamReadBatch ρ where
  items := decoded.items
  records := flattenStreamReadItems decoded.items
  fromOffset := c.offset
  nextOffset := streamNextOffset c.route c.offset (decoded.page c.offset).cursor
  caughtUp := !(decoded.page c.offset).cursor.hasMore

/-- A step that reads no page: the batches stay, and a request starts at the offset. -/
structure Keeps (c c' : Read φ ρ) : Prop where
  route : c'.route = c.route
  options : c'.options = c.options
  offset : c'.offset = c.offset
  batches : c'.batches = c.batches
  requests : ∀ attempt, c'.phase = .requesting attempt →
    c.phase = .requesting attempt ∧ c'.requests = c.requests ∨
      ∃ request, c'.requests = c.requests ++ [request] ∧ request.startOffset = c.offset

variable {c c' : Read φ ρ} {e : ReadEvent ρ} {decoded : DecodedRead ρ} {attempt : Nat}

theorem keeps_request : c.Keeps (c.request attempt) :=
  ⟨rfl, rfl, rfl, rfl, fun _ _ => Or.inr ⟨_, rfl, rfl⟩⟩

theorem keeps_readPage : c.Keeps c.readPage :=
  ⟨rfl, rfl, rfl, rfl, fun _ _ => Or.inr ⟨_, rfl, rfl⟩⟩

theorem keeps_phase {phase : ReadPhase} (h : ∀ attempt, phase ≠ .requesting attempt) :
    c.Keeps { c with phase } :=
  ⟨rfl, rfl, rfl, rfl, fun attempt hphase => absurd hphase (h attempt)⟩

theorem keeps_start : c.Keeps c.start := by
  unfold start
  split_ifs
  · exact keeps_phase nofun
  · cases c.options.mode with
    | follow => exact keeps_phase nofun
    | replay => exact keeps_readPage

/-- A yield asks for nothing that has been read. -/
theorem keeps_afterYield {hasMore : Bool} : c.Keeps (c.afterYield hasMore) := by
  unfold afterYield
  split_ifs
  · exact keeps_readPage
  · cases c.options.mode <;> exact keeps_phase nofun

/-- A request that fails has read nothing. -/
theorem keeps_attemptFails {error : ReadError} : c.Keeps (c.attemptFails attempt error) := by
  unfold attemptFails
  split
  · split_ifs <;> exact keeps_phase nofun
  · exact keeps_phase nofun

/-- What a step can do: read a page, or leave the batches as they are. -/
theorem step_cases (h : c.step e = some c') :
    (∃ decoded attempt, e = .answered decoded ∧ c.phase = .requesting attempt ∧
      c' = c.pageRead decoded) ∨ (∀ decoded, e ≠ .answered decoded) ∧ c.Keeps c' := by
  unfold step at h
  cases e with
  | wake =>
      refine Or.inr ⟨fun _ he => (by cases he), ?_⟩
      obtain rfl := Option.some.inj h
      exact ⟨rfl, rfl, rfl, rfl, fun _ hphase => Or.inl ⟨hphase, rfl⟩⟩
  | next =>
      refine Or.inr ⟨fun _ he => (by cases he), ?_⟩
      cases hphase : c.phase with
      | created =>
          rw [hphase] at h
          exact Option.some.inj h ▸ keeps_start
      | yielded hasMore =>
          rw [hphase] at h
          exact Option.some.inj h ▸ keeps_afterYield
      | _ => rw [hphase] at h; cases h
  | close =>
      refine Or.inr ⟨fun _ he => (by cases he), ?_⟩
      cases hphase : c.phase with
      | created | yielded =>
          rw [hphase] at h
          exact Option.some.inj h ▸ keeps_phase fun _ he => by cases he
      | _ => rw [hphase] at h; cases h
  | subscribed =>
      refine Or.inr ⟨fun _ he => (by cases he), ?_⟩
      cases hphase : c.phase with
      | subscribing =>
          rw [hphase] at h
          exact Option.some.inj h ▸ keeps_readPage
      | _ => rw [hphase] at h; cases h
  | subscribeFailed error =>
      refine Or.inr ⟨fun _ he => (by cases he), ?_⟩
      cases hphase : c.phase with
      | subscribing =>
          rw [hphase] at h
          exact Option.some.inj h ▸ keeps_phase fun _ he => by cases he
      | _ => rw [hphase] at h; cases h
  | answered decoded =>
      cases hphase : c.phase with
      | requesting attempt =>
          rw [hphase] at h
          exact Or.inl ⟨decoded, attempt, rfl, rfl, (Option.some.inj h).symm⟩
      | _ => rw [hphase] at h; cases h
  | failed error =>
      refine Or.inr ⟨fun _ he => (by cases he), ?_⟩
      cases hphase : c.phase with
      | requesting attempt =>
          rw [hphase] at h
          exact Option.some.inj h ▸ keeps_attemptFails
      | _ => rw [hphase] at h; cases h
  | retryDue =>
      refine Or.inr ⟨fun _ he => (by cases he), ?_⟩
      cases hphase : c.phase with
      | backingOff attempt =>
          rw [hphase] at h
          exact Option.some.inj h ▸ keeps_request
      | _ => rw [hphase] at h; cases h
  | woken =>
      refine Or.inr ⟨fun _ he => (by cases he), ?_⟩
      cases hphase : c.phase with
      | waiting =>
          rw [hphase] at h
          dsimp only at h
          split_ifs at h
          exact Option.some.inj h ▸ keeps_readPage
      | _ => rw [hphase] at h; cases h
  | aborted =>
      refine Or.inr ⟨fun _ he => (by cases he), ?_⟩
      cases hphase : c.phase with
      | backingOff | waiting =>
          rw [hphase] at h
          exact Option.some.inj h ▸ keeps_phase fun _ he => by cases he
      | _ => rw [hphase] at h; cases h

@[simp] theorem pageRead_route : (c.pageRead decoded).route = c.route := by
  unfold pageRead
  extract_lets
  split_ifs <;> rfl

@[simp] theorem pageRead_options : (c.pageRead decoded).options = c.options := by
  unfold pageRead
  extract_lets
  split_ifs <;> rfl

@[simp] theorem pageRead_retry : (c.pageRead decoded).retry = c.retry := by
  unfold pageRead
  extract_lets
  split_ifs <;> rfl

@[simp] theorem pageRead_requests : (c.pageRead decoded).requests = c.requests := by
  unfold pageRead
  extract_lets
  split_ifs <;> rfl

/-- A page with which the read gives up is not passed on. -/
theorem pageRead_of_stalls (h : c.Stalls decoded) :
    (c.pageRead decoded).offset = c.offset ∧ (c.pageRead decoded).batches = c.batches ∧
      (c.pageRead decoded).phase = .threw (.stalled c.route c.offset) := by
  obtain ⟨hmore, hnext, hpages⟩ := h
  have hcount : c.stalledPages + 1 ≥ 2 := by omega
  simp [pageRead, hmore, hnext, hcount]

/-- Any other page becomes a batch. -/
theorem pageRead_of_not_stalls (h : ¬ c.Stalls decoded) :
    (c.pageRead decoded).offset = (c.batch decoded).nextOffset ∧
      (c.pageRead decoded).batches = c.batches ++ [(c.batch decoded, decoded.cursor)] ∧
        (c.pageRead decoded).phase = .yielded (decoded.page c.offset).cursor.hasMore ∧
          (c.pageRead decoded).stalledPages =
            if (decoded.page c.offset).cursor.hasMore ∧ (c.batch decoded).nextOffset ≤ c.offset
              then c.stalledPages + 1 else 0 := by
  have hgo : ¬ (((decoded.page c.offset).cursor.hasMore ∧
      streamNextOffset c.route c.offset (decoded.page c.offset).cursor ≤ c.offset) ∧
      (if (decoded.page c.offset).cursor.hasMore ∧
        streamNextOffset c.route c.offset (decoded.page c.offset).cursor ≤ c.offset
        then c.stalledPages + 1 else 0) ≥ 2) := by
    rintro ⟨hstalled, hcount⟩
    rw [if_pos hstalled] at hcount
    exact h ⟨hstalled.1, hstalled.2, by omega⟩
  refine ⟨?_, ?_, ?_, ?_⟩ <;> simp only [pageRead, if_neg hgo] <;> rfl

/-! ### The chain of batches -/

/-- What holds of the batches whatever the broker answers. -/
structure Chain (c : Read φ ρ) : Prop where
  chained : c.batches.map (·.1.fromOffset) =
    (c.options.fromOffset :: c.batches.map (·.1.nextOffset)).dropLast
  offset : c.offset = c.reached
  requested : ∀ attempt, c.phase = .requesting attempt →
    ∃ request, c.requests.getLast? = some request ∧ request.startOffset = c.offset
  covered : (∀ b ∈ c.batches, Sound c.route b) →
    ∀ offset ≥ c.options.fromOffset, ¬ c.Covered offset → c.offset ≤ offset

/-- Nothing has been read yet. -/
theorem chain_create {route : JsString} {options : StreamReadOptions φ} {retry : RetryOptions} :
    (create route options retry : Read φ ρ).Chain where
  chained := rfl
  offset := rfl
  requested := nofun
  covered := fun _ _ hfrom _ => hfrom

theorem Keeps.chain (hkeeps : c.Keeps c') (h : c.Chain) : c'.Chain where
  chained := by rw [hkeeps.batches, hkeeps.options]; exact h.chained
  offset := by
    rw [hkeeps.offset, reached, hkeeps.batches, hkeeps.options]
    exact h.offset
  requested := fun attempt hphase => by
    rw [hkeeps.offset]
    rcases hkeeps.requests attempt hphase with ⟨hphase, hrequests⟩ | ⟨request, hrequests, hstart⟩
    · rw [hrequests]
      exact h.requested attempt hphase
    · exact ⟨request, by simp [hrequests], hstart⟩
  covered := by
    unfold Covered
    rw [hkeeps.batches, hkeeps.options, hkeeps.offset, hkeeps.route]
    exact h.covered

/-- A chain with one more batch at its end. -/
theorem Chain.pageRead (h : c.Chain) : (c.pageRead decoded).Chain := by
  by_cases hstalls : c.Stalls decoded
  · obtain ⟨hoffset, hbatches, hphase⟩ := pageRead_of_stalls hstalls
    exact Keeps.chain ⟨pageRead_route, pageRead_options, hoffset, hbatches, by simp [hphase]⟩ h
  obtain ⟨hoffset, hbatches, hphase, -⟩ := pageRead_of_not_stalls hstalls
  have hlast : (c.options.fromOffset :: c.batches.map (·.1.nextOffset)).getLast
      (List.cons_ne_nil _ _) = c.offset := by
    rw [h.offset, reached, List.getLast_eq_getLastD]
  refine ⟨?_, ?_, by simp [hphase], ?_⟩
  · rw [hbatches, pageRead_options, List.map_append, List.map_append, ← List.cons_append]
    rw [List.map_singleton, List.map_singleton, List.dropLast_concat, h.chained]
    rw [show (c.batch decoded).fromOffset = c.offset from rfl, ← hlast]
    exact List.dropLast_append_getLast (List.cons_ne_nil _ _)
  · rw [hoffset, reached, hbatches]
    simp
  · rw [hbatches, pageRead_options, hoffset, pageRead_route]
    intro hsound offset hfrom hcovered
    unfold Covered at hcovered
    rw [hbatches, pageRead_route] at hcovered
    simp only [List.mem_append, List.mem_singleton] at hsound hcovered
    have hbefore : c.offset ≤ offset := h.covered (fun b hb => hsound b (Or.inl hb)) offset hfrom
      fun ⟨b, hb, hcursor⟩ => hcovered ⟨b, Or.inl hb, hcursor⟩
    -- an offset that the batch passes is one that its cursor covers
    by_contra hpassed
    obtain ⟨cursor, hcursor, last, hown, hnext⟩ :=
      (hsound _ (Or.inr rfl)).2 (lt_of_le_of_lt hbefore (not_le.mp hpassed))
    exact hcovered ⟨_, Or.inr rfl, cursor, hcursor, last, hown, by
      have hlt := not_le.mp hpassed
      simp only at hnext
      omega⟩

theorem chain_step (h : c.Chain) (hst : c.step e = some c') : c'.Chain := by
  rcases step_cases hst with ⟨decoded, attempt, -, -, rfl⟩ | ⟨-, hkeeps⟩
  · exact h.pageRead
  · exact hkeeps.chain h

/-- Each request begins where the batch before ended, so only a batch can skip. -/
theorem Chain.neverSkips_iff (h : c.Chain) :
    c.NeverSkips ↔ ∀ b ∈ c.batches, Sound c.route b := by
  refine ⟨NeverSkips.sound, fun hsound => ⟨h.chained, hsound, fun attempt hphase => ?_⟩⟩
  obtain ⟨request, hrequest, hstart⟩ := h.requested attempt hphase
  refine ⟨request, hrequest, hstart.trans h.offset, fun offset hfrom hcovered => ?_⟩
  rw [hstart]
  exact h.covered hsound offset hfrom hcovered

/-! ### Sound pages -/

theorem reports_of_stalls (h : c.Stalls decoded) : c.Reports (.answered decoded) := by
  obtain ⟨hmore, -, hpages⟩ := h
  obtain ⟨items, cursor | cursor⟩ := decoded
  · exact absurd hmore Bool.false_ne_true
  · exact fun _ _ => Or.inr ⟨hmore, hpages⟩

/-- A batch skips nothing exactly if its answer reports the axis it is read on. -/
theorem sound_batch_iff (h : ¬ c.Stalls decoded) :
    Sound c.route (c.batch decoded, decoded.cursor) ↔ c.Reports (.answered decoded) := by
  obtain ⟨items, cursor | cursor⟩ := decoded
  · simp only [Sound, batch, Reports, streamNextOffset_page_none]
    by_cases hresource : OnResourceAxis c.route <;> simp [hresource]
  · simp only [Stalls, DecodedRead.page, Option.getD_some, streamNextOffset_eq] at h
    simp only [Sound, batch, Reports, DecodedRead.page, Option.getD_some, streamNextOffset_eq]
    cases hown : ownOffset c.route cursor with
    | none => simp
    | some last =>
        simp only [hown, Option.elim_some, not_and, not_le] at h
        simp only [Option.elim_some, Option.mem_def, Option.some.injEq, exists_eq_left',
          forall_eq', le_refl, implies_true, and_true, hown]
        constructor
        · exact Or.inl
        · rintro (hle | ⟨hmore, hpages⟩)
          · exact hle
          · by_contra hbehind
            have := h hmore (not_le.mp hbehind).le
            omega

/-- One batch more, or none. -/
theorem sound_step_iff (hst : c.step e = some c') :
    (∀ b ∈ c'.batches, Sound c'.route b) ↔ (∀ b ∈ c.batches, Sound c.route b) ∧ c.Reports e := by
  rcases step_cases hst with ⟨decoded, attempt, rfl, -, rfl⟩ | ⟨hanswer, hkeeps⟩
  · by_cases hstalls : c.Stalls decoded
    · obtain ⟨-, hbatches, -⟩ := pageRead_of_stalls hstalls
      rw [pageRead_route, hbatches]
      exact (and_iff_left (reports_of_stalls hstalls)).symm
    · obtain ⟨-, hbatches, -⟩ := pageRead_of_not_stalls hstalls
      rw [pageRead_route, hbatches, ← sound_batch_iff hstalls]
      simp [or_imp, forall_and]
  · rw [hkeeps.route, hkeeps.batches]
    refine (and_iff_left ?_).symm
    cases e with
    | answered decoded => exact absurd rfl (hanswer decoded)
    | _ => trivial

/-- A read skips nothing exactly if every answer to it reports an offset that is not behind the one
asked for, or lacks one on an axis other than that of the resource. -/
theorem neverSkips_iff_reports {route : JsString} {options : StreamReadOptions φ}
    {retry : RetryOptions} {es : List (ReadEvent ρ)} {c : Read φ ρ}
    (hrun : (machine route options retry).run es = some c) :
    c.NeverSkips ↔
      (machine route options retry).Guarded Reports (create route options retry) es := by
  have hchain : c.Chain := Machine.invariant chain_create
    (fun _ _ _ h hst => chain_step h hst) hrun
  rw [hchain.neverSkips_iff]
  have hiff := Machine.runFrom_iff_guarded (I := fun _ => True) (J := fun _ => True)
    (P := fun c => ∀ b ∈ c.batches, Sound c.route b) (K := Reports)
    (fun _ _ _ _ _ _ => trivial) (fun _ _ _ _ _ hst => sound_step_iff hst) trivial
    (fun _ _ => trivial) hrun
  have hnone : ∀ b ∈ (create route options retry : Read φ ρ).batches, Sound route b :=
    fun b hb => absurd hb List.not_mem_nil
  exact hiff.trans (and_iff_right hnone)

/-- A resource that is followed from offset 3. -/
def followMachine : Machine (Read Unit Unit) (ReadEvent Unit) :=
  machine (js "stream://r/a/s") ⟨3, .follow, none, none, none⟩ {}

/-- Two pages with a report, the second one after a failed attempt. -/
def followEvents : List (ReadEvent Unit) :=
  [.next, .subscribed, .answered ⟨[], some ⟨6, none, none, none, none, none, true⟩⟩, .next,
    .failed (.failure true 0), .retryDue,
    .answered ⟨[], some ⟨8, none, none, none, none, none, false⟩⟩]

theorem neverSkips_follow :
    ∃ c, followMachine.run followEvents = some c ∧ c.batches.length = 2 ∧ c.NeverSkips := by
  have hbatches : (followMachine.run followEvents).any (fun c => c.batches.length = 2) = true := by
    decide +kernel
  have hguarded : followMachine.Guarded Reports followMachine.init followEvents := by
    decide +kernel
  obtain ⟨c, hrun, hlength⟩ := (Option.any_eq_true ..).mp hbatches
  exact ⟨c, hrun, of_decide_eq_true hlength, (neverSkips_iff_reports hrun).mpr hguarded⟩

/-- An answer without a body moves the read on to an offset that no cursor has reported. -/
theorem not_forall_neverSkips :
    ¬ ∀ (route : JsString) (options : StreamReadOptions Unit) (retry : RetryOptions)
      (es : List (ReadEvent Unit)) (c : Read Unit Unit),
      (machine route options retry).run es = some c → c.NeverSkips := by
  intro h
  have hskips : (followMachine.run [.next, .subscribed, .answered ⟨[], none⟩]).any
      (fun c => c.batches.any fun b => b.2 = none ∧ b.1.fromOffset < b.1.nextOffset) = true := by
    decide +kernel
  obtain ⟨c, hrun, hbatch⟩ := (Option.any_eq_true ..).mp hskips
  obtain ⟨b, hb, hreported⟩ := List.any_eq_true.mp hbatch
  obtain ⟨hcursor, hpasses⟩ := of_decide_eq_true hreported
  obtain ⟨cursor, hmem, -⟩ := ((h _ _ _ _ c hrun).sound b hb).2 hpasses
  rw [hcursor] at hmem
  cases hmem

end Read

end FitzTs.Stream
