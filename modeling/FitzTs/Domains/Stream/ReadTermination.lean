import FitzTs.Domains.Stream.ReadProgress
/-!
# FitzTs.Domains.Stream.ReadTermination

How many requests a replay makes.

While no page that announces more goes back behind the offset that was asked for, every second page
at least moves the offset on, because two in a row that do not end the replay. With the offsets of
the cursors bounded this leaves a fixed number of pages (`pagesAfter`), and each page takes a
bounded number of attempts. `Within` counts both together through the phases of the read.

The counter of stalled pages does not notice a page that goes back: the next page may move the
offset on again over what has been read before, and that resets the counter.
-/

namespace FitzTs.Stream.Read

open JsString Routes
open FitzTs.Client (RetryOptions)

variable {φ ρ : Type*}

/-- The offsets reported on the axis of the selector stay at or below `W`. -/
def AtMost (W : ℤ) (route : JsString) : ReadEvent ρ → Prop
  | .answered decoded => ∀ cursor ∈ decoded.cursor, ∀ last ∈ ownOffset route cursor, last ≤ W
  | _ => True

/-- A page that announces more does not report an offset behind the one asked for, unless it follows
a stalled page. -/
def NeverBack (c : Read φ ρ) : ReadEvent ρ → Prop
  | .answered decoded => ∀ cursor ∈ decoded.cursor, cursor.hasMore →
      ∀ last ∈ ownOffset c.route cursor, c.offset ≤ last + 1 ∨ 1 ≤ c.stalledPages
  | _ => True

/-- How often a page is asked for at most, if there is a limit. -/
def attempts (c : Read φ ρ) : ℕ := c.retry.limit.getD 0

/-- How many pages can follow the next one. -/
def pagesAfter (W : ℤ) (c : Read φ ρ) : ℕ := 2 * (W + 1 - c.offset).toNat + 1 - c.stalledPages

/-- The requests made, with those that can still follow, are at most `bound`. -/
def Within (W : ℤ) (bound : ℕ) (c : Read φ ρ) : Prop :=
  match c.phase with
  | .created | .yielded true =>
    c.stalledPages ≤ 1 ∧ c.requests.length + c.attempts * (c.pagesAfter W + 1) ≤ bound
  | .requesting attempt =>
    c.stalledPages ≤ 1 ∧ attempt ≤ c.attempts ∧
      c.requests.length + (c.attempts - attempt) + c.attempts * c.pagesAfter W ≤ bound
  | .backingOff attempt =>
    c.stalledPages ≤ 1 ∧ attempt < c.attempts ∧
      c.requests.length + (c.attempts - attempt) + c.attempts * c.pagesAfter W ≤ bound
  | .subscribing | .waiting => False
  | .yielded false | .returned | .closed | .threw _ => c.requests.length ≤ bound

variable {W : ℤ} {bound : ℕ} {c c' : Read φ ρ} {e : ReadEvent ρ} {decoded : DecodedRead ρ}

/-! ### The steps of a replay -/

/-- The event ends the read with an error of its own. -/
def Throws (c : Read φ ρ) (e : ReadEvent ρ) (error : ReadError) : Prop :=
  c.phase = .created ∧ e = .next ∧ isStreamSelectorShape c.route = false ∧ error = .invalidRoute ∨
    (∃ attempt, c.phase = .requesting attempt) ∧ e = .failed error ∨
      (∃ attempt, c.phase = .backingOff attempt) ∧ e = .aborted ∧ error = .aborted

/-- What a step of a replay does. -/
inductive Turn (c : Read φ ρ) : ReadEvent ρ → Read φ ρ → Prop
  | wakes : Turn c .wake { c with wakeVersion := c.wakeVersion + 1 }
  | asks : c.phase = .created ∨ c.phase = .yielded true → Turn c .next c.readPage
  | reads (decoded : DecodedRead ρ) (attempt : ℕ) :
      c.phase = .requesting attempt → Turn c (.answered decoded) (c.pageRead decoded)
  | backsOff (attempt : ℕ) (error : ReadError) : c.phase = .requesting attempt →
      c.retry.enabled = true → c.retry.allows attempt = true →
      Turn c (.failed error) { c with phase := .backingOff attempt }
  | retries (attempt : ℕ) :
      c.phase = .backingOff attempt → Turn c .retryDue (c.request (attempt + 1))
  | returns : c.phase = .yielded false → Turn c .next { c with phase := .returned }
  | closes : (c.phase = .created ∨ ∃ hasMore, c.phase = .yielded hasMore) →
      Turn c .close { c with phase := .closed }
  | throws (e : ReadEvent ρ) (error : ReadError) :
      c.Throws e error → Turn c e { c with phase := .threw error }

/-- A replay does not wait for anything but its requests. -/
def Replays (c : Read φ ρ) : Prop :=
  c.options.mode = .replay ∧ c.phase ≠ .subscribing ∧ c.phase ≠ .waiting

/-- The retries of a request are limited. -/
def Limited (c : Read φ ρ) : Prop := c.retry.limit ≠ none

/-- A step of a replay is one of these turns. -/
theorem turn_of_step (h : c.Replays) (hst : c.step e = some c') : c.Turn e c' := by
  obtain ⟨hmode, hsubscribing, hwaiting⟩ := h
  unfold step at hst
  split at hst
  case h_1 => exact Option.some.inj hst ▸ .wakes
  case h_2 hphase =>
    obtain rfl := Option.some.inj hst
    unfold start
    split_ifs with hshape
    · exact .throws _ _ (Or.inl ⟨hphase, rfl, by simpa using hshape, rfl⟩)
    · simp only [hmode]
      exact .asks (Or.inl hphase)
  case h_3 hasMore hphase =>
    obtain rfl := Option.some.inj hst
    unfold afterYield
    cases hasMore with
    | true => exact .asks (Or.inr hphase)
    | false =>
        simp only [hmode]
        exact .returns hphase
  case h_4 hphase => exact Option.some.inj hst ▸ .closes (Or.inl hphase)
  case h_5 hphase => exact Option.some.inj hst ▸ .closes (Or.inr ⟨_, hphase⟩)
  case h_6 hphase => exact absurd hphase hsubscribing
  case h_7 hphase => exact absurd hphase hsubscribing
  case h_8 decoded attempt hphase => exact Option.some.inj hst ▸ .reads decoded attempt hphase
  case h_9 error attempt hphase =>
    obtain rfl := Option.some.inj hst
    have hthrows : c.Throws (.failed error) error := Or.inr (Or.inl ⟨⟨attempt, hphase⟩, rfl⟩)
    unfold attemptFails
    split
    · split_ifs with hagain
      · rw [Bool.and_eq_true] at hagain
        exact .backsOff attempt _ hphase hagain.1 hagain.2
      · exact .throws _ _ hthrows
    · exact .throws _ _ hthrows
  case h_10 attempt hphase => exact Option.some.inj hst ▸ .retries attempt hphase
  case h_11 hphase => exact absurd hphase hwaiting
  case h_12 attempt hphase =>
    exact Option.some.inj hst ▸ .throws _ _ (Or.inr (Or.inr ⟨⟨attempt, hphase⟩, rfl, rfl⟩))
  case h_13 hphase => exact absurd hphase hwaiting
  case h_14 => cases hst

theorem Turn.replays (h : c.Replays) (hturn : c.Turn e c') : c'.Replays := by
  obtain ⟨hmode, hsubscribing, hwaiting⟩ := h
  cases hturn with
  | wakes => exact ⟨hmode, hsubscribing, hwaiting⟩
  | reads decoded attempt hphase =>
      by_cases hstalls : c.Stalls decoded
      · obtain ⟨-, -, hthrew⟩ := pageRead_of_stalls hstalls
        exact ⟨by rwa [pageRead_options], by simp [hthrew], by simp [hthrew]⟩
      · obtain ⟨-, -, hyielded, -⟩ := pageRead_of_not_stalls hstalls
        exact ⟨by rwa [pageRead_options], by simp [hyielded], by simp [hyielded]⟩
  | _ => exact ⟨hmode, nofun, nofun⟩

/-! ### Counting the requests -/

theorem Within.length_le (h : c.Within W bound) : c.requests.length ≤ bound := by
  unfold Within at h
  split at h
  case h_3 | h_4 => exact le_trans (by omega) h.2.2
  case h_5 | h_6 => exact h.elim
  case h_1 | h_2 => exact le_trans (Nat.le_add_right ..) h.2
  all_goals exact h

/-- The limit as a number. -/
theorem Limited.limit_eq (h : c.Limited) : c.retry.limit = some c.attempts := by
  unfold attempts
  cases hlimit : c.retry.limit with
  | none => exact absurd hlimit h
  | some limit => rfl

theorem Turn.retry (hturn : c.Turn e c') : c'.retry = c.retry := by
  cases hturn with
  | reads decoded => exact pageRead_retry
  | _ => rfl

/-- Each page leaves room for the requests of the next. -/
theorem within_readPage (hlimited : c.Limited) (hstalled : c.stalledPages ≤ 1)
    (h : c.requests.length + c.attempts * (c.pagesAfter W + 1) ≤ bound) :
    c.readPage.Within W bound := by
  have hone : 1 ≤ c.attempts := RetryOptions.limit_pos hlimited.limit_eq
  refine ⟨hstalled, hone, ?_⟩
  rw [Nat.mul_add_one] at h
  change (c.requests ++ [_]).length + (c.attempts - 1) + c.attempts * c.pagesAfter W ≤ bound
  rw [List.length_append, List.length_singleton]
  omega

/-- A page that announces more leaves fewer pages to come. -/
theorem pagesAfter_pageRead (hmore : (decoded.page c.offset).cursor.hasMore = true)
    (hstalled : c.stalledPages ≤ 1) (hstalls : ¬ c.Stalls decoded)
    (hmost : AtMost W c.route (.answered decoded)) (hback : c.NeverBack (.answered decoded)) :
    (c.pageRead decoded).stalledPages ≤ 1 ∧
      (c.pageRead decoded).pagesAfter W + 1 ≤ c.pagesAfter W := by
  obtain ⟨hoffset, -, -, hpages⟩ := pageRead_of_not_stalls hstalls
  obtain ⟨items, cursor | cursor⟩ := decoded
  · exact absurd hmore Bool.false_ne_true
  have hnext : (c.batch ⟨items, some cursor⟩).nextOffset =
      (ownOffset c.route cursor).elim c.offset (· + 1) := streamNextOffset_eq
  have hgo : (c.batch ⟨items, some cursor⟩).nextOffset ≤ c.offset → c.stalledPages = 0 :=
    fun hle => by
      by_contra hne
      exact hstalls ⟨hmore, hle, Nat.one_le_iff_ne_zero.mpr hne⟩
  unfold pagesAfter
  rw [hpages, hoffset, if_congr (and_iff_right hmore) rfl rfl]
  specialize hmost cursor rfl
  specialize hback cursor rfl hmore
  cases hown : ownOffset c.route cursor with
  | none =>
      -- no report: the offset stays, and the page counts as stalled
      rw [hown, Option.elim_none] at hnext
      have hzero := hgo hnext.le
      rw [if_pos hnext.le, hnext]
      omega
  | some last =>
      rw [hown, Option.elim_some] at hnext
      have hlast := hmost last hown
      rcases lt_or_ge c.offset (last + 1) with hforward | hstays
      · rw [if_neg (by omega), hnext]
        omega
      · have hzero := hgo (hnext ▸ hstays)
        have hsame : c.offset = last + 1 := by
          rcases hback last hown with h | h <;> omega
        rw [if_pos (hnext ▸ hstays), hnext, ← hsame]
        omega

/-- A page that goes on brings the cursor nearer to the bound. -/
theorem Within.pageRead {attempt : ℕ} (hphase : c.phase = .requesting attempt)
    (h : c.Within W bound) (hmost : AtMost W c.route (.answered decoded))
    (hback : c.NeverBack (.answered decoded)) : (c.pageRead decoded).Within W bound := by
  have hlength := h.length_le
  by_cases hstalls : c.Stalls decoded
  · obtain ⟨-, -, hthrew⟩ := pageRead_of_stalls hstalls
    simpa only [Within, hthrew, pageRead_requests] using hlength
  obtain ⟨-, -, hyielded, -⟩ := pageRead_of_not_stalls hstalls
  cases hmore : (decoded.page c.offset).cursor.hasMore with
  | false => simpa only [Within, hyielded, hmore, pageRead_requests] using hlength
  | true =>
      simp only [Within, hphase] at h
      obtain ⟨hstalled, hattempt, hbudget⟩ := h
      obtain ⟨hstalled', hpages⟩ := pagesAfter_pageRead hmore hstalled hstalls hmost hback
      simp only [Within, hyielded, hmore, pageRead_requests]
      have hattempts : (c.pageRead decoded).attempts = c.attempts := by simp [attempts]
      have hmul := Nat.mul_le_mul_left c.attempts hpages
      rw [hattempts]
      exact ⟨hstalled', by omega⟩

/-- The measure does not grow. -/
theorem Turn.within (h : c.Within W bound) (hlimited : c.Limited) (hmost : AtMost W c.route e)
    (hback : c.NeverBack e) (hturn : c.Turn e c') : c'.Within W bound := by
  cases hturn with
  | wakes => exact h
  | asks hphase =>
      rcases hphase with hphase | hphase <;> simp only [Within, hphase] at h <;>
        exact within_readPage hlimited h.1 h.2
  | reads decoded attempt hphase => exact h.pageRead hphase hmost hback
  | backsOff attempt error hphase henabled hallows =>
      simp only [Within, hphase] at h
      exact ⟨h.1, RetryOptions.lt_limit hlimited.limit_eq henabled hallows, h.2.2⟩
  | retries attempt hphase =>
      simp only [Within, hphase] at h
      obtain ⟨hstalled, hattempt, hbudget⟩ := h
      refine ⟨hstalled, hattempt, ?_⟩
      change (c.requests ++ [_]).length + (c.attempts - (attempt + 1)) +
        c.attempts * c.pagesAfter W ≤ bound
      rw [List.length_append, List.length_singleton]
      omega
  | returns | closes | throws => exact h.length_le

/-! ### How a replay ends -/

/-- The last batch passed on is that of a page that announces more or not, as `hasMore` says. -/
def LastBatch (hasMore : Bool) (c : Read φ ρ) : Prop :=
  ∃ b, c.batches.getLast? = some b ∧ b.1.caughtUp = !hasMore

/-- At a `yield` and after the return the last batch tells whether there is more. -/
def Tells (c : Read φ ρ) : Prop :=
  (∀ hasMore, c.phase = .yielded hasMore → LastBatch hasMore c) ∧
    (c.phase = .returned → LastBatch false c)

theorem Turn.tells (h : c.Tells) (hturn : c.Turn e c') : c'.Tells := by
  cases hturn with
  | wakes => exact h
  | reads decoded attempt hphase =>
      by_cases hstalls : c.Stalls decoded
      · obtain ⟨-, -, hthrew⟩ := pageRead_of_stalls hstalls
        exact ⟨by simp [hthrew], by simp [hthrew]⟩
      · obtain ⟨-, hbatches, hyielded, -⟩ := pageRead_of_not_stalls hstalls
        refine ⟨fun hasMore hphase => ?_, by simp [hyielded]⟩
        obtain rfl := ReadPhase.yielded.inj (hyielded.symm.trans hphase)
        exact ⟨_, by rw [hbatches, List.getLast?_concat], rfl⟩
  | returns hphase => exact ⟨nofun, fun _ => h.1 false hphase⟩
  | _ => exact ⟨nofun, nofun⟩

/-- Why a replay throws: because it stalls, or for a reason from outside its loop. -/
def Reason (c : Read φ ρ) (es : List (ReadEvent ρ)) (error : ReadError) : Prop :=
  error = .stalled c.route c.offset ∨
    error = .invalidRoute ∧ isStreamSelectorShape c.route = false ∨
      .failed error ∈ es ∨ error = .aborted ∧ .aborted ∈ es

/-- What has been thrown has a reason among the events. -/
theorem Turn.reason {es : List (ReadEvent ρ)}
    (h : ∀ error, c.phase = .threw error → c.Reason es error)
    (hturn : c.Turn e c') : ∀ error, c'.phase = .threw error → c'.Reason (es ++ [e]) error := by
  intro error hthrew
  cases hturn with
  | wakes =>
      rcases h error hthrew with hstalled | hshape | hfailed | ⟨haborted, hmem⟩
      · exact Or.inl hstalled
      · exact Or.inr (Or.inl hshape)
      · exact Or.inr (Or.inr (Or.inl (List.mem_append_left _ hfailed)))
      · exact Or.inr (Or.inr (Or.inr ⟨haborted, List.mem_append_left _ hmem⟩))
  | reads decoded attempt hphase =>
      by_cases hstalls : c.Stalls decoded
      · obtain ⟨hoffset, -, hthrows⟩ := pageRead_of_stalls hstalls
        refine Or.inl ?_
        rw [pageRead_route, hoffset]
        exact ReadPhase.threw.inj (hthrew.symm.trans hthrows)
      · obtain ⟨-, -, hyielded, -⟩ := pageRead_of_not_stalls hstalls
        exact nomatch hyielded.symm.trans hthrew
  | throws e error' hthrows =>
      obtain rfl := ReadPhase.threw.inj hthrew
      rcases hthrows with ⟨-, -, hshape, herror⟩ | ⟨-, rfl⟩ | ⟨-, rfl, herror⟩
      · exact Or.inr (Or.inl ⟨herror, hshape⟩)
      · exact Or.inr (Or.inr (Or.inl (by simp)))
      · exact Or.inr (Or.inr (Or.inr ⟨herror, by simp⟩))
  | _ => exact nomatch hthrew

def isWake : ReadEvent ρ → Bool
  | .wake => true
  | _ => false

/-- `n` events have come, calls that wake the gate aside: each request takes the one that makes it
and the one that ends it. -/
def Paced (n : ℕ) (c : Read φ ρ) : Prop :=
  match c.phase with
  | .created => n = 2 * c.requests.length
  | .requesting _ => n + 1 = 2 * c.requests.length
  | .yielded _ | .backingOff _ => n = 2 * c.requests.length
  | .subscribing | .waiting | .returned | .closed | .threw _ => n ≤ 2 * c.requests.length + 1

theorem Paced.le {n : ℕ} (h : c.Paced n) : n ≤ 2 * c.requests.length + 1 := by
  unfold Paced at h
  split at h <;> omega

theorem paced_request {n attempt : ℕ} (h : n = 2 * c.requests.length) :
    (c.request attempt).Paced (n + 1) := by
  change n + 1 + 1 = 2 * (c.requests ++ [_]).length
  rw [List.length_append, List.length_singleton]
  omega

/-- Two steps for each request, and the wakes. -/
theorem Turn.paced {n : ℕ} (h : c.Paced n) (hturn : c.Turn e c') :
    c'.Paced (n + if isWake e then 0 else 1) := by
  cases hturn with
  | wakes => exact h
  | asks hphase =>
      rcases hphase with hphase | hphase <;> simp only [Paced, hphase] at h <;>
        exact paced_request (c := { c with observed := c.wakeVersion }) h
  | reads decoded attempt hphase =>
      simp only [Paced, hphase] at h
      have hended : n + 1 = 2 * (c.pageRead decoded).requests.length := by
        rwa [pageRead_requests]
      by_cases hstalls : c.Stalls decoded
      · obtain ⟨-, -, hthrew⟩ := pageRead_of_stalls hstalls
        simp only [Paced, hthrew]
        exact hended.le.trans (Nat.le_succ _)
      · obtain ⟨-, -, hyielded, -⟩ := pageRead_of_not_stalls hstalls
        simp only [Paced, hyielded]
        exact hended
  | backsOff attempt error hphase =>
      simp only [Paced, hphase] at h
      exact h
  | retries attempt hphase =>
      simp only [Paced, hphase] at h
      exact paced_request h
  | returns hphase =>
      simp only [Paced, hphase] at h
      exact (congrArg (· + 1) h).le
  | closes hphase =>
      rcases hphase with hphase | ⟨hasMore, hphase⟩ <;> simp only [Paced, hphase] at h <;>
        exact (congrArg (· + 1) h).le
  | throws e error hthrows =>
      have hwake : isWake e = false := by
        rcases hthrows with ⟨-, rfl, -⟩ | ⟨-, rfl⟩ | ⟨-, rfl, -⟩ <;> rfl
      have hle : n ≤ 2 * c.requests.length := by
        rcases hthrows with ⟨hphase, -⟩ | ⟨⟨attempt, hphase⟩, -⟩ | ⟨⟨attempt, hphase⟩, -⟩ <;>
          simp only [Paced, hphase] at h <;> omega
      rw [hwake]
      exact Nat.succ_le_succ hle

/-- What is known about a replay after the events `es`. -/
structure ReplayInvariant (es : List (ReadEvent ρ)) (c : Read φ ρ) : Prop where
  replays : c.Replays
  tells : c.Tells
  reason : ∀ error, c.phase = .threw error → c.Reason es error
  paced : c.Paced (es.countP (!isWake ·))

/-- The invariants of a replay, in every run. -/
theorem replayInvariant {route : JsString} {options : StreamReadOptions φ} {retry : RetryOptions}
    {es : List (ReadEvent ρ)} (hreplay : options.mode = .replay)
    (hrun : (machine route options retry).run es = some c) : c.ReplayInvariant es := by
  refine Machine.runFrom_induction (motive := fun es c => c.ReplayInvariant es) ?_ ?_ hrun
  · exact ⟨⟨hreplay, nofun, nofun⟩, ⟨nofun, nofun⟩, nofun, rfl⟩
  · intro es c e c' _ h hst
    have hturn := turn_of_step h.replays hst
    refine ⟨hturn.replays h.replays, hturn.tells h.tells, hturn.reason h.reason, ?_⟩
    have hcount : (es ++ [e]).countP (!isWake ·) =
        es.countP (!isWake ·) + if isWake e then 0 else 1 := by
      rw [List.countP_append, List.countP_singleton]
      cases isWake e <;> rfl
    rw [hcount]
    exact hturn.paced h.paced

/-- The offsets reported stay at or below `W`, and do not go back where there is more. -/
def Advances (W : ℤ) (c : Read φ ρ) (e : ReadEvent ρ) : Prop := AtMost W c.route e ∧ c.NeverBack e

instance : ∀ {e : ReadEvent ρ}, Decidable (Advances W c e)
  | .answered decoded => inferInstanceAs (Decidable
      ((∀ cursor ∈ decoded.cursor, ∀ last ∈ ownOffset c.route cursor, last ≤ W) ∧
        ∀ cursor ∈ decoded.cursor, cursor.hasMore →
          ∀ last ∈ ownOffset c.route cursor, c.offset ≤ last + 1 ∨ 1 ≤ c.stalledPages))
  | .next | .close | .subscribed | .subscribeFailed _ | .failed _ | .retryDue | .wake | .woken
  | .aborted => isTrue ⟨trivial, trivial⟩

theorem within_run {route : JsString} {options : StreamReadOptions φ} {retry : RetryOptions}
    {es : List (ReadEvent ρ)} (hreplay : options.mode = .replay)
    (hlimited : retry.limit ≠ none)
    (hstart : (create route options retry : Read φ ρ).Within W bound)
    (hrun : (machine route options retry).run es = some c)
    (hguarded : (machine route options retry).Guarded (Advances W)
      (create route options retry) es) :
    c.Within W bound := by
  have hall : c.Replays ∧ c.Limited ∧ c.Within W bound := by
    refine Machine.Guarded.invariant (I := fun c => c.Replays ∧ c.Limited ∧ c.Within W bound)
      ⟨⟨hreplay, nofun, nofun⟩, hlimited, hstart⟩ ?_ hguarded hrun
    rintro c e c' ⟨hreplays, hlimited, hwithin⟩ ⟨hmost, hback⟩ hst
    have hturn := turn_of_step hreplays hst
    exact ⟨hturn.replays hreplays, by rwa [Limited, hturn.retry],
      hturn.within hwithin hlimited hmost hback⟩
  exact hall.2.2

/-- **A replay ends**, if the cursors stay at or below an offset, no page that announces more goes
back, and a request is repeated a limited number of times. It makes boundedly many requests and
takes two steps for each; it has returned only after a page that announces no more, and thrown
only because it stalls or for a reason from outside. -/
theorem replay_ends {route : JsString} {options : StreamReadOptions φ}
    {retry : RetryOptions} {W : ℤ}
    {limit : ℕ} {es : List (ReadEvent ρ)} (hreplay : options.mode = .replay)
    (hlimit : retry.limit = some limit)
    (hrun : (machine route options retry).run es = some c)
    (hguarded : (machine route options retry).Guarded (Advances W)
      (create route options retry) es) :
    c.requests.length ≤ limit * (2 * (W + 1 - options.fromOffset).toNat + 2) ∧
      es.countP (!isWake ·) ≤ 2 * c.requests.length + 1 ∧
      (c.phase = .returned → LastBatch false c) ∧
      ∀ error, c.phase = .threw error → c.Reason es error := by
  have hinv := replayInvariant hreplay hrun
  have hbudget : retry.limit.getD 0 * (2 * (W + 1 - options.fromOffset).toNat + 2) =
      limit * (2 * (W + 1 - options.fromOffset).toNat + 2) := by
    rw [hlimit, Option.getD_some]
  have hlimited : retry.limit ≠ none := by
    rw [hlimit]
    exact Option.some_ne_none limit
  have hwithin := within_run hreplay hlimited
    ⟨Nat.zero_le 1, ((Nat.zero_add _).trans hbudget).le⟩ hrun hguarded
  exact ⟨hwithin.length_le, hinv.paced.le, hinv.tells.2, hinv.reason⟩

/-- A replay of a resource from its start. -/
def replayMachine : Machine (Read Unit Unit) (ReadEvent Unit) :=
  machine (js "stream://r/a/s") ⟨0, .replay, none, none, none⟩ {}

/-- Two pages, and the end after them. -/
def replayEvents : List (ReadEvent Unit) :=
  [.next, .answered ⟨[], some ⟨5, none, none, none, none, none, true⟩⟩, .next,
    .answered ⟨[], some ⟨9, none, none, none, none, none, false⟩⟩, .next]

theorem replay_ends_replayEvents : ∃ c, replayMachine.run replayEvents = some c ∧
    c.phase = .returned ∧ c.requests.length ≤ 66 ∧ LastBatch false c := by
  have hphase : (replayMachine.run replayEvents).any (fun c => c.phase = .returned) = true := by
    decide +kernel
  have hguarded : replayMachine.Guarded (Advances 9) replayMachine.init replayEvents := by
    decide +kernel
  obtain ⟨c, hrun, hreturned⟩ := (Option.any_eq_true ..).mp hphase
  obtain ⟨hle, -, hlast, -⟩ := replay_ends rfl rfl hrun hguarded
  exact ⟨c, hrun, of_decide_eq_true hreturned, hle, hlast (of_decide_eq_true hreturned)⟩

/-! ### A replay that goes round -/

/-- A page that announces more, of a resource read up to `last`. -/
def morePage (last : ℤ) : DecodedRead ρ := ⟨[], some ⟨last, none, none, none, none, none, true⟩⟩

theorem scope_resource : classifyStreamSelectorScope (js "stream://r/a/s") = some .resource := by
  decide +kernel

/-- The replay has been given a page that ends before `offset`. -/
structure At (offset : ℤ) (stalledPages requests : ℕ) (c : Read Unit Unit) : Prop where
  route : c.route = js "stream://r/a/s"
  phase : c.phase = .yielded true
  offset : c.offset = offset
  stalledPages : c.stalledPages = stalledPages
  requests : c.requests.length = requests

/-- One more page, which stalls the replay or moves it on. -/
theorem At.next {offset : ℤ} {stalledPages n : ℕ} {c : Read Unit Unit}
    (h : At offset stalledPages n c) (last : ℤ) (hgo : last + 1 ≤ offset → stalledPages = 0) :
    ∃ c', replayMachine.runFrom c [.next, .answered (morePage last)] = some c' ∧
      At (last + 1) (if last + 1 ≤ offset then stalledPages + 1 else 0) (n + 1) c' := by
  have hnext : streamNextOffset c.readPage.route c.readPage.offset
      ((morePage last : DecodedRead Unit).page c.readPage.offset).cursor = last + 1 := by
    rw [show c.readPage.route = js "stream://r/a/s" from h.route]
    simp [streamNextOffset, scope_resource, morePage, DecodedRead.page]
  have hstalls : ¬ c.readPage.Stalls (morePage last) := by
    rintro ⟨-, hle, hpages⟩
    rw [hnext] at hle
    have hzero := hgo (h.offset ▸ hle)
    have hstalled : c.readPage.stalledPages = stalledPages := h.stalledPages
    omega
  obtain ⟨hoffset, -, hyielded, hpages⟩ := pageRead_of_not_stalls hstalls
  refine ⟨c.readPage.pageRead (morePage last), ?_, ?_, hyielded, hoffset.trans hnext, ?_, ?_⟩
  · have hstep : c.step .next = some c.readPage := by
      simp only [step, h.phase]
      rfl
    exact Machine.runFrom_cons.mpr ⟨_, hstep, rfl⟩
  · rw [pageRead_route]
    exact h.route
  · have hmore : ((morePage last : DecodedRead Unit).page c.readPage.offset).cursor.hasMore := rfl
    rw [hpages, if_congr (and_iff_right hmore) rfl rfl]
    rw [show (c.readPage.batch (morePage last)).nextOffset = last + 1 from hnext]
    rw [show c.readPage.offset = offset from h.offset]
    rw [show c.readPage.stalledPages = stalledPages from h.stalledPages]
  · rw [pageRead_requests, ← h.requests]
    exact List.length_append

/-- The broker answers with 5 and 3 in turn. -/
def roundEvent (i : ℕ) : ReadEvent Unit :=
  match i % 4 with
  | 1 => .answered (morePage 5)
  | 3 => .answered (morePage 3)
  | _ => .next

theorem roundEvent_add (k j : ℕ) : roundEvent (4 * k + j) = roundEvent j := by
  simp only [roundEvent, Nat.mul_add_mod]

theorem map_range_add_two (n : ℕ) : (List.range (n + 2)).map roundEvent =
    (List.range n).map roundEvent ++ [roundEvent n, roundEvent (n + 1)] := by
  simp [List.range_succ]

/-- After each round the replay is where it was, with two more requests. -/
theorem run_rounds (k : ℕ) : ∃ c, replayMachine.run ((List.range (4 * k + 2)).map roundEvent) =
    some c ∧ At 6 0 (2 * k + 1) c := by
  induction k with
  | zero =>
      have hstart : (replayMachine.run [.next, .answered (morePage 5)]).any (fun c =>
          c.route = js "stream://r/a/s" ∧ c.phase = .yielded true ∧ c.offset = 6 ∧
            c.stalledPages = 0 ∧ c.requests.length = 1) = true := by decide +kernel
      obtain ⟨c, hrun, hc⟩ := (Option.any_eq_true ..).mp hstart
      obtain ⟨hroute, hphase, hoffset, hstalled, hrequests⟩ := of_decide_eq_true hc
      exact ⟨c, hrun, hroute, hphase, hoffset, hstalled, hrequests⟩
  | succ k ih =>
      obtain ⟨c, hrun, hc⟩ := ih
      obtain ⟨c₁, hrun₁, hc₁⟩ := hc.next 3 (fun _ => rfl)
      obtain ⟨c₂, hrun₂, hc₂⟩ := hc₁.next 5 (fun h => absurd h (by decide))
      refine ⟨c₂, ?_, hc₂⟩
      rw [show 4 * (k + 1) + 2 = 4 * k + 2 + 2 + 2 by omega, map_range_add_two, map_range_add_two,
        List.append_assoc]
      simp only [Nat.add_assoc, Nat.reduceAdd, roundEvent_add]
      exact Machine.runFrom_append.mpr
        ⟨c, hrun, Machine.runFrom_append.mpr ⟨c₁, hrun₁, hrun₂⟩⟩

/-- A broker whose cursors go back and forth between 3 and 5 keeps a replay reading for ever. -/
theorem not_forall_finite :
    ¬ ∀ (route : JsString) (options : StreamReadOptions Unit) (retry : RetryOptions) (W : ℤ)
      (events : ℕ → ReadEvent Unit), options.mode = .replay → (∀ i, AtMost W route (events i)) →
        ∃ bound, ∀ n c, (machine route options retry).run ((List.range n).map events) = some c →
          c.requests.length ≤ bound := by
  intro h
  have hmost : ∀ i, AtMost 5 (js "stream://r/a/s") (roundEvent i) := by
    intro i
    have hpage : ∀ last : ℤ, last ≤ 5 →
        AtMost 5 (js "stream://r/a/s") (.answered (morePage last : DecodedRead Unit)) := by
      intro last hle cursor hcursor offset hoffset
      obtain rfl := Option.some.inj hcursor
      simp only [ownOffset, scope_resource, Option.mem_def, Option.some.injEq] at hoffset
      exact hoffset ▸ hle
    unfold roundEvent
    split
    · exact hpage 5 (by decide)
    · exact hpage 3 (by decide)
    · trivial
  obtain ⟨bound, hbound⟩ := h (js "stream://r/a/s") ⟨0, .replay, none, none, none⟩ {} 5
    roundEvent rfl hmost
  obtain ⟨c, hrun, hc⟩ := run_rounds bound
  have hle := hbound _ c hrun
  rw [hc.requests] at hle
  omega

end FitzTs.Stream.Read
