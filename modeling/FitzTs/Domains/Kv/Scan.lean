import FitzTs.Client.Connection.State
import FitzTs.Lib.Keyset
import FitzTs.Lib.Machine
import FitzTs.Domains.Kv.Codec
/-!
# FitzTs.Domains.Kv.Scan

`scan` and `scanAll` of `domains/kv/transaction.ts`.

`scanAll` is a generator: it runs while its consumer waits for `next`, up to the next `yield`. A
response is that of the request's last attempt; a retry sends the same payload again.

The broker answers by keyset pagination over what the transaction sees (`Answers`), and splits the
result into pages as it likes. The consumer then gets the matching entries in scan order, each once
(`scanAll_complete`).
-/

namespace FitzTs.Kv

open Buffer JsString Client Keyset

/-! ## The generator -/

inductive ScanError
  /-- A `KvError`. -/
  | kv (message : JsString) (code : String) (domainCode : Option Nat)
  /-- The `CodecError` of `encodeScan`. -/
  | limit
  /-- The response cannot be decoded. -/
  | malformed
  /-- The request was rejected. -/
  | request
  deriving DecidableEq, Repr

def txClosed : ScanError := .kv (js "Transaction already closed") "TX_CLOSED" none

/-- The error of `checkStatus`. -/
def scanFailed (error : ResponseError) : ScanError :=
  .kv (js "SCAN failed: " ++ error.error) "SCAN" (some error.errorCode)

def scanTruncated : ScanError :=
  .kv (js "SCAN returned an empty page with more entries available") "SCAN_TRUNCATED" none

inductive ScanPhase
  /-- Before the first `next`. -/
  | created
  /-- `await scan(nextOptions)`, with the payload of its request. -/
  | requesting (payload : Bytes)
  /-- At the `yield`, with the entries of the page that are still to be yielded. -/
  | yielding (page : KvScanPage) (rest : List KvEntry)
  | finished
  | threw (error : ScanError)
  deriving DecidableEq, Repr

/-- The variables of `scanAll`, with what it has yielded. -/
structure ScanAll where
  txId : Nat
  route : JsString
  options : KvScanOptions
  nextOptions : KvScanOptions
  /-- `closed` of the transaction. -/
  closed : Bool
  phase : ScanPhase
  yielded : List KvEntry
  deriving DecidableEq, Repr

inductive ScanEvent
  /-- The consumer calls `next`. -/
  | next
  /-- The request is answered. -/
  | response (payload : Bytes)
  /-- The request is rejected. -/
  | fails
  /-- The transaction is committed or rolled back, or its connection is lost. -/
  | closes
  deriving DecidableEq, Repr

namespace ScanAll

def create (txId : Nat) (route : JsString) (options : KvScanOptions) : ScanAll where
  txId := txId
  route := route
  options := options
  nextOptions := options
  closed := false
  phase := .created
  yielded := []

/-- `scan(nextOptions)` up to its request. -/
def scan (c : ScanAll) : ScanAll :=
  if c.closed then { c with phase := .threw txClosed }
  else
    match encodeScan c.txId c.route c.nextOptions with
    | none => { c with phase := .threw .limit }
    | some payload => { c with phase := .requesting payload }

/-- The loop over the entries of a page, up to its next `yield`, and what comes after it. -/
def continue' (c : ScanAll) (page : KvScanPage) : List KvEntry → ScanAll
  | entry :: rest => { c with yielded := c.yielded ++ [entry], phase := .yielding page rest }
  | [] =>
    if page.hasMore then
      match page.entries.getLast? with
      | some last =>
        scan { c with nextOptions :=
          { c.options with startKey := some last.key, startExclusive := true } }
      | none => c
    else { c with phase := .finished }

/-- `scanAll` after `await scan(nextOptions)`. -/
def receive (c : ScanAll) (payload : Bytes) : ScanAll :=
  match decodeScanResponse payload with
  | none => { c with phase := .threw .malformed }
  | some (.failure error) =>
    -- the status of an error is its code, and its page is empty
    if error.errorCode ≠ 0 then { c with phase := .threw (scanFailed error) }
    else c.continue' ⟨[], false⟩ []
  | some (.page page) =>
    if page.hasMore && page.entries.isEmpty then { c with phase := .threw scanTruncated }
    else c.continue' page page.entries

def step (c : ScanAll) : ScanEvent → Option ScanAll
  | .next =>
    match c.phase with
    | .created => some c.scan
    | .yielding page rest => some (c.continue' page rest)
    | _ => none
  | .response payload =>
    match c.phase with
    | .requesting _ => some (c.receive payload)
    | _ => none
  | .fails =>
    match c.phase with
    | .requesting _ => some { c with phase := .threw .request }
    | _ => none
  | .closes => some { c with closed := true }

/-- `scanAll(options)`. -/
def machine (txId : Nat) (route : JsString) (options : KvScanOptions) :
    Machine ScanAll ScanEvent :=
  ⟨create txId route options, step⟩

end ScanAll

/-! ## The broker -/

/-- Scan order: the binary order of the keys, or its reverse. -/
def Before (reverse : Bool) (k k' : Bytes) : Prop := if reverse then k' < k else k < k'

instance {reverse : Bool} : DecidableRel (Before reverse) := fun k k' =>
  match reverse with
  | true => inferInstanceAs (Decidable (k' < k))
  | false => inferInstanceAs (Decidable (k < k'))

instance {reverse : Bool} : IsTrans Bytes (Before reverse) where
  trans _ _ _ h h' := by
    cases reverse with
    | true => exact List.lt_trans h' h
    | false => exact List.lt_trans h h'

instance {reverse : Bool} : Std.Irrefl (Before reverse) where
  irrefl k h := by cases reverse <;> exact List.lt_irrefl k h

def KvScanOptions.range (options : KvScanOptions) : Range Bytes :=
  ⟨options.startKey, options.startExclusive, options.endKey⟩

/-- What the transaction sees, in the order of its keys. -/
structure Store where
  entries : List KvEntry
  sorted : entries.Pairwise fun e e' => e.key < e'.key

/-- The entries in scan order. -/
def Store.directed (store : Store) (reverse : Bool) : List KvEntry :=
  if reverse then store.entries.reverse else store.entries

/-- The matching entries in scan order. -/
def Store.scan (store : Store) (options : KvScanOptions) : List KvEntry :=
  select (Before options.reverse) KvEntry.key (store.directed options.reverse) options.range

/-- The size up to which `encodeFrame` makes frames; the header has 15 bytes. -/
def Fits (payload : Bytes) : Prop := payload.length + 15 ≤ defaultMaxMessageBytes

instance {payload : Bytes} : Decidable (Fits payload) := inferInstanceAs (Decidable (_ ≤ _))

theorem Fits.lt {payload : Bytes} (h : Fits payload) : payload.length < 2 ^ 32 := by
  unfold Fits defaultMaxMessageBytes at h
  omega

/-- The broker answers a request with a page of what it asks for. -/
structure Answers (store : Store) (request response : Bytes) : Prop where
  fits : Fits request ∧ Fits response
  page : ∃ scan page, parseScan request = some scan ∧ response = encodePage page ∧
    IsPage (store.scan scan.options) page.entries page.hasMore

/-- A page is found by decoding the response. -/
def answers (store : Store) (request response : Bytes) : Bool :=
  match parseScan request, decodeScanResponse response with
  | some scan, some (.page page) =>
    response = encodePage page ∧ IsPage (store.scan scan.options) page.entries page.hasMore
  | _, _ => false

instance {store : Store} {request response : Bytes} : Decidable (Answers store request response) :=
  decidable_of_iff ((Fits request ∧ Fits response) ∧ answers store request response = true) <| by
    constructor
    · rintro ⟨hfits, hanswers⟩
      unfold answers at hanswers
      split at hanswers
      case h_1 scan page hparse _ =>
        obtain ⟨hresponse, hpage⟩ := of_decide_eq_true hanswers
        exact ⟨hfits, scan, page, hparse, hresponse, hpage⟩
      case h_2 => cases hanswers
    · rintro ⟨hfits, scan, page, hparse, rfl, hpage⟩
      refine ⟨hfits, ?_⟩
      simpa only [answers, hparse, decodeScanResponse_encodePage hfits.2.lt, true_and,
        decide_eq_true_eq] using hpage

/-- The transaction stays open, and the broker answers. -/
def Served (store : Store) (c : ScanAll) : ScanEvent → Prop
  | .next => True
  | .response payload => ∀ request, c.phase = .requesting request → Answers store request payload
  | .fails | .closes => False

instance {store : Store} {c : ScanAll} : ∀ {e : ScanEvent}, Decidable (Served store c e)
  | .next => isTrue trivial
  | .response payload =>
    match h : c.phase with
    | .requesting request => decidable_of_iff (Answers store request payload)
        ⟨fun hanswers request' heq => ScanPhase.requesting.inj (h.symm.trans heq) ▸ hanswers,
          fun hserved => hserved request h⟩
    | .created | .yielding .. | .finished | .threw _ =>
      isTrue fun _ heq => by rw [h] at heq; cases heq
  | .fails | .closes => isFalse id

theorem Store.directed_pairwise {store : Store} {reverse : Bool} :
    (store.directed reverse).Pairwise fun e e' => Before reverse e.key e'.key := by
  cases reverse with
  | true => exact List.pairwise_reverse.mpr store.sorted
  | false => exact store.sorted

/-- What is left after a page is what the next request asks for. -/
theorem Store.scan_after {store : Store} {options : KvScanOptions} {page rest : List KvEntry}
    {last : KvEntry} (h : store.scan options = page ++ last :: rest) :
    store.scan { options with startKey := some last.key, startExclusive := true } = rest :=
  select_after (r := options.range) store.directed_pairwise h

/-! ## The loop -/

namespace ScanAll

variable {store : Store} {txId : Nat} {route : JsString} {options : KvScanOptions} {c c' : ScanAll}

/-- Where the loop is, over the entries that have not been yielded (`left`). -/
inductive Progress (store : Store) (c : ScanAll) (left : List KvEntry) : Prop
  | created (h : c.phase = .created) (hleft : left = store.scan c.nextOptions)
  | requesting {payload : Bytes} (h : c.phase = .requesting payload)
      (hpayload : encodeScan c.txId c.route c.nextOptions = some payload)
      (hleft : left = store.scan c.nextOptions)
  | yielding {page : KvScanPage} {rest later : List KvEntry} (h : c.phase = .yielding page rest)
      (hpage : store.scan c.nextOptions = page.entries ++ later)
      (hmore : page.hasMore = true ↔ later ≠ []) (hnonempty : page.entries ≠ [])
      (hleft : left = rest ++ later)
  | finished (h : c.phase = .finished) (hleft : left = [])

/-- The matching entries are those yielded and those left, and the options of the next request
differ from the given ones by where they start. -/
structure Invariant (store : Store) (given : KvScanOptions) (c : ScanAll) (left : List KvEntry) :
    Prop where
  options : c.options = given
  closed : c.closed = false
  nextOptions : ∃ startKey startExclusive,
    c.nextOptions = { given with startKey := startKey, startExclusive := startExclusive }
  progress : Progress store c left
  split : store.scan given = c.yielded ++ left

/-- The steps that the loop can still take when these entries are left. -/
def fuel (c : ScanAll) (left : List KvEntry) : Nat :=
  2 * left.length +
    match c.phase with
    | .created | .yielding .. => 2
    | .requesting _ => 1
    | .finished | .threw _ => 0

/-- A valid limit stays so, and the next page is asked for. -/
theorem scan_invariant {left : List KvEntry} (hlimit : options.limit.any (· > 0xffffffff) = false)
    (hoptions : c.options = options) (hclosed : c.closed = false)
    (hnext : ∃ startKey startExclusive,
      c.nextOptions = { options with startKey := startKey, startExclusive := startExclusive })
    (hleft : left = store.scan c.nextOptions) (hsplit : store.scan options = c.yielded ++ left) :
    Invariant store options c.scan left ∧ c.scan.fuel left = 2 * left.length + 1 := by
  have hlimit' : ¬ c.nextOptions.limit.any (· > 0xffffffff) = true := by
    obtain ⟨startKey, startExclusive, heq⟩ := hnext
    rw [heq, Bool.not_eq_true]
    exact hlimit
  obtain ⟨payload, hpayload⟩ : ∃ payload, encodeScan c.txId c.route c.nextOptions = some payload :=
    ⟨_, if_neg hlimit'⟩
  have hscan : c.scan = { c with phase := .requesting payload } := by
    unfold ScanAll.scan
    rw [if_neg (by simp [hclosed]), hpayload]
  rw [hscan]
  exact ⟨⟨hoptions, hclosed, hnext, .requesting rfl hpayload hleft, hsplit⟩, rfl⟩

/-- The loop goes on to its next `yield`, to the next page or to its end. -/
theorem continue_invariant {page : KvScanPage} {rest later : List KvEntry}
    (hlimit : options.limit.any (· > 0xffffffff) = false) (hoptions : c.options = options)
    (hclosed : c.closed = false)
    (hnext : ∃ startKey startExclusive,
      c.nextOptions = { options with startKey := startKey, startExclusive := startExclusive })
    (hpage : store.scan c.nextOptions = page.entries ++ later)
    (hmore : page.hasMore = true ↔ later ≠ [])
    (hnonempty : page.entries = [] → page.hasMore = false ∧ rest = [])
    (hsplit : store.scan options = c.yielded ++ (rest ++ later)) :
    ∃ left, Invariant store options (c.continue' page rest) left ∧
      (c.continue' page rest).fuel left ≤ 2 * (rest ++ later).length +
        if rest = [] ∧ page.entries ≠ [] then 1 else 0 := by
  cases rest with
  | cons entry rest =>
      have hentries : page.entries ≠ [] := fun hempty => by
        have hrest := (hnonempty hempty).2
        cases hrest
      refine ⟨rest ++ later, ⟨hoptions, hclosed, hnext,
        .yielding rfl hpage hmore hentries rfl, ?_⟩, ?_⟩
      · simpa [continue'] using hsplit
      · simp [fuel, continue']
        omega
  | nil =>
      cases hhas : page.hasMore with
      | false =>
          have hlater : later = [] := by
            by_contra hne
            simp [hmore.mpr hne] at hhas
          subst hlater
          have hfinished : c.continue' page [] = { c with phase := .finished } := by
            unfold continue'
            rw [if_neg (by simp [hhas])]
          rw [hfinished]
          exact ⟨[], ⟨hoptions, hclosed, hnext, .finished rfl rfl, hsplit⟩, by simp [fuel]⟩
      | true =>
          have hentries : page.entries ≠ [] := fun hempty => by
            simp [(hnonempty hempty).1] at hhas
          obtain ⟨init, last, hinit⟩ := (List.eq_nil_or_concat page.entries).resolve_left hentries
          rw [List.concat_eq_append] at hinit
          have hpages : c.continue' page [] = scan { c with nextOptions :=
              { c.options with startKey := some last.key, startExclusive := true } } := by
            unfold continue'
            rw [if_pos hhas, hinit, List.getLast?_concat]
          -- the next options differ from those of this page by where they start
          have hsame : { c.options with startKey := some last.key, startExclusive := true } =
              { c.nextOptions with startKey := some last.key, startExclusive := true } := by
            obtain ⟨startKey, startExclusive, heq⟩ := hnext
            rw [heq, hoptions]
          have hlater := Store.scan_after
            (by rw [hpage, hinit, List.append_assoc]; rfl)
          rw [← hsame] at hlater
          obtain ⟨hinv, hfuel⟩ := scan_invariant
            (c := { c with nextOptions :=
              { c.options with startKey := some last.key, startExclusive := true } })
            hlimit hoptions hclosed ⟨_, _, by rw [hoptions]⟩ hlater.symm hsplit
          rw [hpages]
          refine ⟨later, hinv, hfuel.trans_le ?_⟩
          rw [if_pos ⟨rfl, hentries⟩]
          rfl

theorem receive_page {payload : Bytes} {page : KvScanPage}
    (hdecode : decodeScanResponse payload = some (.page page))
    (hnot : ¬ (page.hasMore && page.entries.isEmpty) = true) :
    c.receive payload = c.continue' page page.entries := by
  unfold receive
  simp only [hdecode]
  exact if_neg hnot

/-- A step of the loop keeps the invariant and uses some fuel. -/
theorem step_invariant {e : ScanEvent} {left : List KvEntry}
    (hlimit : options.limit.any (· > 0xffffffff) = false) (h : Invariant store options c left)
    (hserved : Served store c e) (hst : c.step e = some c') :
    ∃ left', Invariant store options c' left' ∧ c'.fuel left' < c.fuel left := by
  obtain ⟨hoptions, hclosed, hnext, hprogress, hsplit⟩ := h
  cases e with
  | fails | closes => exact hserved.elim
  | next =>
      cases hprogress with
      | created hphase hleft =>
          simp only [step, hphase] at hst
          obtain rfl := Option.some.inj hst
          obtain ⟨hinv, hfuel⟩ := scan_invariant hlimit hoptions hclosed hnext hleft hsplit
          refine ⟨left, hinv, ?_⟩
          simp only [hfuel]
          simp only [fuel, hphase]
          omega
      -- the next request starts after the last entry of the page
      | yielding hphase hpage hmore hnonempty hleft =>
          simp only [step, hphase] at hst
          obtain rfl := Option.some.inj hst
          rw [hleft] at hsplit
          obtain ⟨left', hinv, hfuel⟩ := continue_invariant hlimit hoptions hclosed hnext hpage
            hmore (fun hempty => absurd hempty hnonempty) hsplit
          refine ⟨left', hinv, lt_of_le_of_lt hfuel ?_⟩
          rw [fuel, hphase, hleft]
          split <;> simp
      | requesting hphase | finished hphase => simp [step, hphase] at hst
  | response payload =>
      cases hprogress with
      | requesting hphase hpayload hleft =>
          simp only [step, hphase] at hst
          obtain rfl := Option.some.inj hst
          obtain ⟨⟨hfits, hfits'⟩, scan, page, hparse, rfl, hpage⟩ := hserved _ hphase
          rw [parseScan_encodeScan hpayload hfits.lt] at hparse
          obtain rfl := Option.some.inj hparse
          obtain ⟨⟨later, hprefix⟩, hmore, hempty⟩ := hpage
          have hmore' : page.hasMore = true ↔ later ≠ [] := by
            rw [hmore, ← hprefix]
            simp
          -- a page that is empty is the last one
          have hlast : page.entries = [] → page.hasMore = false := fun hnil => by
            by_contra hhas
            exact hmore.mp (Bool.not_eq_false _ ▸ hhas) (hnil.trans (hempty hnil).symm)
          have hreceive : c.receive (encodePage page) = c.continue' page page.entries := by
            refine receive_page (decodeScanResponse_encodePage hfits'.lt) fun hboth => ?_
            obtain ⟨hhas, hnil⟩ := Bool.and_eq_true_iff.mp hboth
            rw [hlast (List.isEmpty_iff.mp hnil)] at hhas
            cases hhas
          rw [hleft, ← hprefix] at hsplit
          obtain ⟨left', hinv, hfuel⟩ := continue_invariant hlimit hoptions hclosed hnext
            hprefix.symm hmore' (fun hnil => ⟨hlast hnil, hnil⟩) hsplit
          rw [hreceive]
          refine ⟨left', hinv, lt_of_le_of_lt hfuel ?_⟩
          rw [if_neg fun hboth => hboth.2 hboth.1]
          simp only [fuel, hphase, hleft, ← hprefix]
          omega
      | created hphase | yielding hphase | finished hphase => simp [step, hphase] at hst

/-- The loop is as far as its progress says: it has not thrown, and waits for its consumer, for the
broker or for nothing any more. -/
theorem phase_of_progress {left : List KvEntry} (h : Progress store c left) :
    (∃ c', c.step .next = some c') ∨ (∃ request, c.phase = .requesting request) ∨
      c.phase = .finished ∧ left = [] := by
  cases h with
  | created h => exact Or.inl ⟨c.scan, by simp only [step, h]⟩
  | requesting h => exact Or.inr (Or.inl ⟨_, h⟩)
  | @yielding page rest _ h => exact Or.inl ⟨c.continue' page rest, by simp only [step, h]⟩
  | finished h hleft => exact Or.inr (Or.inr ⟨h, hleft⟩)

/-- **`scanAll` yields the matching entries in scan order**, whatever pages the broker makes of
them: what it has yielded is a beginning of them; it takes at most two steps for each of them; and
it can go on until the broker has answered for all of them and it has yielded them. -/
theorem scanAll_complete {es : List ScanEvent}
    (hlimit : options.limit.any (· > 0xffffffff) = false)
    (hrun : (machine txId route options).run es = some c)
    (hserved : (machine txId route options).Guarded (Served store) (create txId route options) es) :
    c.yielded <+: store.scan options ∧ es.length ≤ 2 * (store.scan options).length + 2 ∧
      ((∃ c', c.step .next = some c') ∨ (∃ request, c.phase = .requesting request) ∨
        c.phase = .finished ∧ c.yielded = store.scan options) := by
  have hinv := hserved.runFrom_induction (motive := fun es c => ∃ left,
      Invariant store options c left ∧
        es.length + c.fuel left ≤ 2 * (store.scan options).length + 2)
    ⟨store.scan options, ⟨rfl, rfl, ⟨options.startKey, options.startExclusive, rfl⟩,
      .created rfl rfl, rfl⟩, by simp [fuel, create]⟩
    (fun es c e c' _ ih hserved hst => by
      obtain ⟨left, hinv, hfuel⟩ := ih
      obtain ⟨left', hinv', hless⟩ := step_invariant hlimit hinv hserved hst
      refine ⟨left', hinv', ?_⟩
      rw [List.length_append, List.length_singleton]
      omega) hrun
  obtain ⟨left, hinv, hfuel⟩ := hinv
  refine ⟨⟨left, hinv.split.symm⟩, by omega, ?_⟩
  rcases phase_of_progress hinv.progress with hnext | hwaits | ⟨hfinished, rfl⟩
  · exact Or.inl hnext
  · exact Or.inr (Or.inl hwaits)
  · exact Or.inr (Or.inr ⟨hfinished, by rw [hinv.split, List.append_nil]⟩)

/-- Three keys read backwards, in pages of two and one. -/
def threeKeys : Store := ⟨[⟨[1], [10]⟩, ⟨[1, 0], [20]⟩, ⟨[2], []⟩], by decide⟩

def reverseRun : List ScanEvent :=
  [.next, .response (encodePage ⟨[⟨[2], []⟩, ⟨[1, 0], [20]⟩], true⟩), .next, .next,
    .response (encodePage ⟨[⟨[1], [10]⟩], false⟩), .next]

theorem scanAll_complete_reverseRun : ∃ c,
    (machine 7 (js "kv://a") { reverse := true }).run reverseRun = some c ∧
      (c.yielded <+: threeKeys.scan { reverse := true } ∧
        reverseRun.length ≤ 2 * (threeKeys.scan { reverse := true }).length + 2 ∧
          ((∃ c', c.step .next = some c') ∨ (∃ request, c.phase = .requesting request) ∨
            c.phase = .finished ∧ c.yielded = threeKeys.scan { reverse := true })) := by
  have hserved : (machine 7 (js "kv://a") { reverse := true }).Guarded (Served threeKeys)
      (create 7 (js "kv://a") { reverse := true }) reverseRun := by decide +kernel
  have hrun : ((machine 7 (js "kv://a") { reverse := true }).run reverseRun).isSome = true := by
    decide +kernel
  obtain ⟨c, hc⟩ := Option.isSome_iff_exists.mp hrun
  exact ⟨c, hc, scanAll_complete (by decide) hc hserved⟩

end ScanAll

end FitzTs.Kv
