import FitzTs.Core.BufferAt
import FitzTs.Core.BufferFormats
import FitzTs.Lib.Utf8.Truncation
/-!
# FitzTs.Domains.Schedule.Entries

The entries of `domains/schedule/codec.ts`, `[string route][string cron][u8 mode][u32 length]`
`[payload]`: `encodeCreate` and `encodeCreateBatch`, and the pages of `decodeListV2` and
`decodeListPage`, where a 1 stands before each entry and a 0 behind the last.

`writeU32BEAt` sends a length modulo 2 ^ 32 without an error, although `encodeCreateBatch` checks
the number of its entries.

## Main result

* `entries_recovered_iff` — the entries come back if four bytes hold their lengths, and what is not
  made of whole entries is rejected.
-/

namespace FitzTs.Schedule

open Buffer JsString Reading

inductive ScheduleDeliveryMode
  | broadcast
  | single
  deriving DecidableEq, Repr

structure ScheduleEntry where
  route : JsString
  cron : JsString
  deliveryMode : ScheduleDeliveryMode
  payload : Bytes
  deriving DecidableEq, Repr

structure ScheduleCursorPage where
  entries : List ScheduleEntry
  hasMore : Bool
  continuation : Option JsString
  deriving DecidableEq, Repr

structure ScheduleListPage where
  entries : List ScheduleEntry
  totalCount : Nat
  deriving DecidableEq, Repr

def encodeDeliveryMode : ScheduleDeliveryMode → UInt8
  | .broadcast => 0
  | .single => 1

/-! ## Encoding -/

/-- `encodeCreate`; `none` for a `RangeError`. -/
def encodeCreate (route cronExpr : JsString) (deliveryMode : ScheduleDeliveryMode)
    (payload : Bytes) : Option Bytes := do
  let routeBytes := writeRoute route
  let cronBytes := utf8Encode cronExpr
  let mode := encodeDeliveryMode deliveryMode
  let w := BufferWriter.create
    (routeBytes.length + 4 + cronBytes.length + 1 + 4 + payload.length)
  let w ← w.setBytes routeBytes
  let w ← w.setLengthAndBytes cronBytes
  let w := w.store [mode]
  let w ← w.setLengthAndBytes payload
  return w.buffer

def ScheduleEntry.encode (entry : ScheduleEntry) : Option Bytes :=
  encodeCreate entry.route entry.cron entry.deliveryMode entry.payload

/-- `encodeCreateBatch`; `none` where it throws. -/
def encodeCreateBatch (entries : List ScheduleEntry) : Option Bytes :=
  if entries.length > 0xffffffff then none
  else do
    let w := (BufferWriter.create 128).writeU32BE entries.length
    let w ← entries.foldlM (fun w entry => do return w.writeBytes (← entry.encode)) w
    return w.getBuffer

/-- A 1 and `encodeCreate` for every entry, and a 0. -/
def pageBody (entries : List ScheduleEntry) : Option Bytes := do
  let chunks ← entries.mapM ScheduleEntry.encode
  return chunks.flatMap (1 :: ·) ++ [0]

/-! ## Decoding -/

/-- `decodeDeliveryMode`. -/
def readDeliveryMode : Reader ScheduleDeliveryMode := do
  let value ← readU8
  if value = 0 then return .broadcast
  else
    guard (value = 1)
    return .single

/-- The entry in the loop of `decodeListV2` and of `decodeListPage`. -/
def readEntry : Reader ScheduleEntry := do
  let route ← readString
  let cron ← readString
  let deliveryMode ← readDeliveryMode
  let payloadLength ← readU32BE
  let payload ← readBytes payloadLength
  return { route, cron, deliveryMode, payload }

/-- A round of that loop; `none` at its end. -/
def readMarkedEntry : Reader (Option ScheduleEntry) := do
  let marker ← readU8
  if marker = 0 then return none
  else
    guard ¬ marker ≠ 1
    let entry ← readEntry
    return some entry

def readContinuation (cursorFlag : Nat) : Reader (Option JsString) :=
  if cursorFlag = 1 then do return some (← readString) else return none

def readListV2 : Reader ScheduleCursorPage := do
  let version ← readU8
  guard ¬ version ≠ 1
  let hasMoreByte ← readU8
  guard ¬ (hasMoreByte ≠ 0 ∧ hasMoreByte ≠ 1)
  let cursorFlag ← readU8
  guard ¬ (cursorFlag ≠ 0 ∧ cursorFlag ≠ 1)
  let continuation ← readContinuation cursorFlag
  guard ¬ (hasMoreByte = 1 ∧ continuation = none)
  let entries ← untilNone readMarkedEntry
  let eof ← isEOF
  guard (eof = true)
  return { entries, hasMore := hasMoreByte = 1, continuation }

/-- `decodeListV2`; `none` where it throws. -/
def decodeListV2 (data : Bytes) : Option ScheduleCursorPage := readListV2.read data

/-- `decodeListPage`; `none` where it throws. -/
def decodeListPage (data : Bytes) : Option ScheduleListPage :=
  Reader.read (do
    let totalCount ← readU64BE
    let entries ← untilNone readMarkedEntry
    let eof ← isEOF
    guard (eof = true)
    return { entries, totalCount }) data

/-! ## What is accepted -/

/-- The fields of an entry as they are read. -/
structure RawEntry where
  route : Prefixed
  cron : Prefixed
  deliveryMode : ScheduleDeliveryMode
  payload : Prefixed

def RawEntry.bytes (raw : RawEntry) : Bytes :=
  raw.route.bytes ++ raw.cron.bytes ++ [encodeDeliveryMode raw.deliveryMode] ++ raw.payload.bytes

def RawEntry.marked (raw : RawEntry) : Bytes := 1 :: raw.bytes

def RawEntry.entry (raw : RawEntry) : ScheduleEntry where
  route := raw.route.text
  cron := raw.cron.text
  deliveryMode := raw.deliveryMode
  payload := raw.payload.val

/-- What stands before the entries of `decodeListV2`. -/
structure CursorHeader where
  hasMore : Bool
  continuation : Option Prefixed
  continues : ¬ (hasMore = true ∧ continuation = none)

def CursorHeader.bytes (header : CursorHeader) : Bytes :=
  1 :: flagByte header.hasMore :: header.continuation.elim [0] (1 :: ·.bytes)

def CursorHeader.page (header : CursorHeader) (entries : List ScheduleEntry) :
    ScheduleCursorPage where
  entries := entries
  hasMore := header.hasMore
  continuation := header.continuation.map Prefixed.text

theorem readDeliveryMode_reads :
    Reads anything readDeliveryMode (fun mode => [encodeDeliveryMode mode]) id := by
  have hmode : ∀ flag : UInt8, Reads anything
      (if flag.toNat = 0 then pure .broadcast
        else guard (flag.toNat = 1) >>= fun _ => pure .single : Buffer.Reader ScheduleDeliveryMode)
      (fun _ : {mode : ScheduleDeliveryMode // encodeDeliveryMode mode = flag} => [])
      (·.val) := by
    intro flag
    by_cases hflag : flag = 0
    · subst hflag
      refine (Reads.pure _).congr (fun _ => ⟨⟨.broadcast, rfl⟩, rfl, rfl⟩) ?_
      rintro ⟨mode, hmode⟩
      cases mode with
      | broadcast => exact ⟨(), rfl, rfl⟩
      | single => cases hmode
    · have hne : ¬ flag.toNat = 0 := fun h => hflag (UInt8.toNat_inj.mp h)
      rw [if_neg hne]
      refine ((Reads.check _).bind fun _ => Reads.pure ScheduleDeliveryMode.single).congr ?_ ?_
      · rintro ⟨⟨hone⟩, -⟩
        exact ⟨⟨.single, (UInt8.toNat_inj.mp hone).symm⟩, rfl, rfl⟩
      · rintro ⟨mode, hmode⟩
        cases mode with
        | broadcast => exact absurd hmode.symm hflag
        | single => exact ⟨⟨⟨hmode ▸ rfl⟩, ()⟩, rfl, rfl⟩
  refine (readU8_reads.bind hmode).congr ?_ ?_
  · rintro ⟨flag, mode, hmode⟩
    exact ⟨mode, by rw [hmode, List.append_nil], rfl⟩
  · intro mode
    exact ⟨⟨encodeDeliveryMode mode, mode, rfl⟩, rfl, rfl⟩

theorem readEntry_reads : Reads anything readEntry RawEntry.bytes RawEntry.entry := by
  refine (readString_reads.bind fun route => readString_reads.bind fun cron =>
    readDeliveryMode_reads.bind fun mode => readPrefixed_reads fun payload =>
      Reads.pure (⟨route.text, cron.text, mode, payload.val⟩ : ScheduleEntry)).congr ?_ ?_
  · rintro ⟨route, cron, mode, payload, -⟩
    exact ⟨⟨route, cron, mode, payload⟩, by simp [RawEntry.bytes], rfl⟩
  · rintro ⟨route, cron, mode, payload⟩
    exact ⟨⟨route, cron, mode, payload, ()⟩, by simp [RawEntry.bytes], rfl⟩

theorem readMarkedEntry_reads : Reads anything readMarkedEntry
    (fun raw : Option RawEntry => raw.elim [0] RawEntry.marked) (·.map RawEntry.entry) := by
  have hround : ∀ marker : UInt8, Reads anything
      (if marker.toNat = 0 then pure none
        else guard (¬ marker.toNat ≠ 1) >>= fun _ => readEntry >>= fun entry => pure (some entry) :
        Buffer.Reader (Option ScheduleEntry))
      (fun raw : {raw : Option RawEntry // raw.elim 0 (fun _ => 1) = marker} =>
        raw.val.elim [] RawEntry.bytes) (·.val.map RawEntry.entry) := by
    intro marker
    by_cases hmarker : marker = 0
    · subst hmarker
      refine (Reads.pure none).congr (fun _ => ⟨⟨none, rfl⟩, rfl, rfl⟩) ?_
      rintro ⟨raw, hraw⟩
      cases raw with
      | none => exact ⟨(), rfl, rfl⟩
      | some raw => cases hraw
    · have hne : ¬ marker.toNat = 0 := fun h => hmarker (UInt8.toNat_inj.mp h)
      rw [if_neg hne]
      refine ((Reads.check _).bind fun _ => readEntry_reads.map some).congr ?_ ?_
      · rintro ⟨⟨hone⟩, raw⟩
        have hone : marker = 1 := UInt8.toNat_inj.mp (not_not.mp hone)
        exact ⟨⟨some raw, hone.symm⟩, rfl, rfl⟩
      · rintro ⟨raw, hraw⟩
        cases raw with
        | none => exact absurd hraw.symm hmarker
        | some raw => exact ⟨⟨⟨not_not.mpr (hraw ▸ rfl)⟩, raw⟩, rfl, rfl⟩
  refine (readU8_reads.bind hround).congr ?_ ?_
  · rintro ⟨marker, raw, hraw⟩
    subst hraw
    cases raw <;> exact ⟨_, rfl, rfl⟩
  · intro raw
    cases raw with
    | none => exact ⟨⟨0, none, rfl⟩, rfl, rfl⟩
    | some raw => exact ⟨⟨1, some raw, rfl⟩, rfl, rfl⟩

theorem readEntries_reads : Reads anything (untilNone readMarkedEntry)
    (fun raws : List RawEntry => raws.flatMap RawEntry.marked ++ [0]) (·.map RawEntry.entry) :=
  readMarkedEntry_reads.untilNone fun _ => Nat.succ_pos _

variable {data : Bytes}

/-- **What `decodeListV2` accepts.** -/
theorem decodeListV2_eq_some_iff {page : ScheduleCursorPage} : decodeListV2 data = some page ↔
    ∃ (header : CursorHeader) (raws : List RawEntry),
      data = header.bytes ++ (raws.flatMap RawEntry.marked ++ [0]) ∧
        page = header.page (raws.map RawEntry.entry) := by
  have hentries : ∀ (hasMore : Bool) (continuation : Option JsString), Reads nothing (do
      guard ¬ (hasMore.toNat = 1 ∧ continuation = none)
      let entries ← untilNone readMarkedEntry
      let eof ← isEOF
      guard (eof = true)
      return ({ entries, hasMore := hasMore.toNat = 1, continuation } : ScheduleCursorPage)) _ _ :=
    fun hasMore continuation => (Reads.check _).bind fun _ => readEntries_reads.bind fun raws =>
      Reads.finish _
  -- the cursor is read if its flag is set
  have hcontinuation : ∀ cursorFlag : Bool, Reads anything (readContinuation cursorFlag.toNat)
      (fun raw : {raw : Option Prefixed // raw.isSome = cursorFlag} =>
        raw.val.elim [] Prefixed.bytes) (·.val.map Prefixed.text) := by
    intro cursorFlag
    cases cursorFlag with
    | false =>
        refine (Reads.pure none).congr (fun _ => ⟨⟨none, rfl⟩, rfl, rfl⟩) ?_
        rintro ⟨raw, hraw⟩
        cases raw with
        | none => exact ⟨(), rfl, rfl⟩
        | some raw => cases hraw
    | true =>
        refine (readString_reads.map some).congr (fun raw => ⟨⟨some raw, rfl⟩, rfl, rfl⟩) ?_
        rintro ⟨raw, hraw⟩
        cases raw with
        | none => cases hraw
        | some raw => exact ⟨raw, rfl, rfl⟩
  -- the reader, field by field
  have hreads : Reads nothing readListV2 _ _ := readU8_reads.bind fun version =>
    (Reads.check _).bind fun _ => readFlag_reads fun hasMore => readFlag_reads fun cursorFlag =>
      (hcontinuation cursorFlag).bind fun continuation =>
        hentries hasMore (continuation.val.map Prefixed.text)
  refine hreads.read_eq_some_iff.trans ?_
  constructor
  · rintro ⟨⟨version, ⟨hversion⟩, hasMore, cursorFlag, ⟨continuation, hflag⟩, ⟨hcontinues⟩,
      raws, -⟩,
      rfl, rfl⟩
    obtain rfl : version = 1 := UInt8.toNat_inj.mp (not_not.mp hversion)
    refine ⟨⟨hasMore, continuation, fun ⟨hmore, hnone⟩ => hcontinues ⟨?_, ?_⟩⟩, raws, ?_, ?_⟩
    · rw [hmore]
      rfl
    · subst hnone
      rfl
    · subst hflag
      cases continuation <;> simp [CursorHeader.bytes, flagByte]
    · cases hasMore <;> rfl
  · rintro ⟨⟨hasMore, continuation, hcontinues⟩, raws, rfl, rfl⟩
    refine ⟨⟨1, ⟨by decide⟩, hasMore, continuation.isSome, ⟨continuation, rfl⟩, ⟨?_⟩, raws, ()⟩, ?_,
      ?_⟩
    · rintro ⟨hmore, hnone⟩
      refine hcontinues ⟨?_, Option.map_eq_none_iff.mp hnone⟩
      cases hasMore with
      | false => cases hmore
      | true => rfl
    · cases continuation <;> simp [CursorHeader.bytes, flagByte]
    · cases hasMore <;> rfl

/-- **What `decodeListPage` accepts.** -/
theorem decodeListPage_eq_some_iff {page : ScheduleListPage} : decodeListPage data = some page ↔
    ∃ (total : Unsigned 8) (raws : List RawEntry),
      data = total.bytes ++ (raws.flatMap RawEntry.marked ++ [0]) ∧
        page = { entries := raws.map RawEntry.entry, totalCount := total.val } := by
  have hreads : Reads nothing (do
      let totalCount ← readU64BE
      let entries ← untilNone readMarkedEntry
      let eof ← isEOF
      guard (eof = true)
      return ({ entries, totalCount } : ScheduleListPage)) _ _ :=
    (readUBE_reads 8).bind fun total => readEntries_reads.bind fun raws => Reads.finish _
  refine hreads.read_eq_some_iff.trans ?_
  constructor
  · rintro ⟨⟨total, raws, -⟩, rfl, rfl⟩
    exact ⟨total, raws, by simp, rfl⟩
  · rintro ⟨total, raws, rfl, rfl⟩
    exact ⟨⟨total, raws, ()⟩, by simp, rfl⟩

/-! ## Malformed bodies -/

theorem RawEntry.unambiguous : Unambiguous RawEntry.bytes := by
  rintro ⟨route, cron, mode, payload⟩ ⟨route', cron', mode', payload'⟩ rest rest' heq
  simp only [RawEntry.bytes, List.append_assoc] at heq
  obtain ⟨rfl, hcron⟩ := Prefixed.unambiguous heq
  obtain ⟨rfl, hrest⟩ := Prefixed.unambiguous hcron
  obtain ⟨hmode, hpayload⟩ := List.cons.inj hrest
  obtain ⟨rfl, rfl⟩ := Prefixed.unambiguous hpayload
  obtain rfl : mode = mode' := by
    cases mode <;> cases mode' <;> first | rfl | cases hmode
  exact ⟨rfl, rfl⟩

theorem CursorHeader.unambiguous : Unambiguous CursorHeader.bytes := by
  rintro ⟨hasMore, continuation, _⟩ ⟨hasMore', continuation', _⟩ rest rest' heq
  simp only [CursorHeader.bytes, List.cons_append, List.cons.injEq, true_and] at heq
  obtain ⟨hmore, heq⟩ := heq
  obtain rfl := flagByte_injective hmore
  cases continuation with
  | none =>
      cases continuation' with
      | none => exact ⟨rfl, (List.cons.inj heq).2⟩
      | some data => cases (List.cons.inj heq).1
  | some data =>
      cases continuation' with
      | none => cases (List.cons.inj heq).1
      | some data' =>
          obtain ⟨rfl, rfl⟩ := Prefixed.unambiguous (List.cons.inj heq).2
          exact ⟨rfl, rfl⟩

/-- What cannot stand behind whole entries. -/
inductive Malformed : Bytes → Prop
  /-- A byte other than 0 and 1 where an entry or the end should be. -/
  | marker {marker : UInt8} (rest : Bytes) : marker ≠ 0 → marker ≠ 1 → Malformed (marker :: rest)
  /-- There is no end. -/
  | ended : Malformed []
  /-- An entry that breaks off. -/
  | truncated (raw : RawEntry) {part missing : Bytes} :
    raw.bytes = part ++ missing → missing ≠ [] → Malformed (1 :: part)
  /-- The end is not the end. -/
  | trailing {rest : Bytes} : rest ≠ [] → Malformed (0 :: rest)

/-- A body that begins with whole entries goes on with whole entries. -/
theorem body_eq {raws raws' : List RawEntry} {rest : Bytes}
    (h : raws.flatMap RawEntry.marked ++ rest = raws'.flatMap RawEntry.marked ++ [0]) :
    ∃ later : List RawEntry, rest = later.flatMap RawEntry.marked ++ [0] := by
  induction raws generalizing raws' with
  | nil => exact ⟨raws', h⟩
  | cons raw raws ih =>
      rw [List.flatMap_cons, List.append_assoc] at h
      cases raws' with
      | nil => cases (List.cons.inj h).1
      | cons raw' raws' =>
          rw [List.flatMap_cons, List.append_assoc] at h
          obtain ⟨-, hrest⟩ := RawEntry.unambiguous (List.cons.inj h).2
          exact ih hrest

theorem Malformed.not_body {rest : Bytes} (h : Malformed rest) (raws : List RawEntry) :
    rest ≠ raws.flatMap RawEntry.marked ++ [0] := by
  intro heq
  cases raws with
  | nil =>
      rw [List.flatMap_nil, List.nil_append] at heq
      cases h with
      | marker rest hzero hone => exact hzero (List.cons.inj heq).1
      | ended => cases heq
      | truncated raw hpart hmissing => cases (List.cons.inj heq).1
      | trailing hrest => exact hrest (List.cons.inj heq).2
  | cons raw raws =>
      rw [List.flatMap_cons, List.append_assoc] at heq
      cases h with
      | marker rest hzero hone => exact hone (List.cons.inj heq).1
      | ended => cases heq
      | @truncated raw' part missing hpart hmissing =>
          -- the entry that breaks off would be whole
          have hbytes : raw'.bytes ++ [] =
              raw.bytes ++ (raws.flatMap RawEntry.marked ++ [0] ++ missing) := by
            rw [List.append_nil, hpart, (List.cons.inj heq).2]
            simp
          obtain ⟨-, hnil⟩ := RawEntry.unambiguous hbytes
          simp at hnil
      | trailing hrest => cases (List.cons.inj heq).1

theorem decodeListV2_malformed (header : CursorHeader) (raws : List RawEntry) {rest : Bytes}
    (h : Malformed rest) :
    decodeListV2 (header.bytes ++ (raws.flatMap RawEntry.marked ++ rest)) = none := by
  refine Option.eq_none_iff_forall_ne_some.mpr fun page hpage => ?_
  obtain ⟨header', raws', hdata, -⟩ := decodeListV2_eq_some_iff.mp hpage
  obtain ⟨-, hbody⟩ := CursorHeader.unambiguous hdata
  obtain ⟨later, hrest⟩ := body_eq hbody
  exact h.not_body later hrest

theorem decodeListPage_malformed (total : Unsigned 8) (raws : List RawEntry) {rest : Bytes}
    (h : Malformed rest) :
    decodeListPage (total.bytes ++ (raws.flatMap RawEntry.marked ++ rest)) = none := by
  refine Option.eq_none_iff_forall_ne_some.mpr fun page hpage => ?_
  obtain ⟨total', raws', hdata, -⟩ := decodeListPage_eq_some_iff.mp hpage
  obtain ⟨-, hbody⟩ := Unsigned.unambiguous hdata
  obtain ⟨later, hrest⟩ := body_eq hbody
  exact h.not_body later hrest

/-! ## The bytes of an entry -/

def ScheduleEntry.chunk (entry : ScheduleEntry) : Bytes :=
  writeRoute entry.route ++ writeString entry.cron ++ [encodeDeliveryMode entry.deliveryMode] ++
    writeLengthAndBytes entry.payload

theorem ScheduleEntry.encode_eq (entry : ScheduleEntry) : entry.encode = some entry.chunk := by
  obtain ⟨route, cron, mode, payload⟩ := entry
  have hsize : ∀ routeLength cronLength payloadLength : Nat,
      routeLength + 4 + cronLength + 1 + 4 + payloadLength =
        routeLength + (4 + cronLength + ([encodeDeliveryMode mode].length +
          (4 + payloadLength + 0))) := by
    intro routeLength cronLength payloadLength
    simp only [List.length_singleton]
    omega
  have hcreate := BufferWriter.fills_create ((writeRoute route).length +
    (4 + (utf8Encode cron).length + ([encodeDeliveryMode mode].length + (4 + payload.length + 0))))
  obtain ⟨withRoute, hroute, hfills⟩ := hcreate.setBytes
  obtain ⟨withCron, hcron, hfills⟩ := hfills.setLengthAndBytes
  obtain ⟨whole, hwhole, hfills⟩ := hfills.store.setLengthAndBytes
  have hencode : encodeCreate route cron mode payload = some whole.buffer := by
    unfold encodeCreate
    dsimp only
    rw [hsize]
    exact Option.bind_eq_some_iff.mpr ⟨withRoute, hroute, Option.bind_eq_some_iff.mpr
      ⟨withCron, hcron, Option.bind_eq_some_iff.mpr ⟨whole, hwhole, rfl⟩⟩⟩
  rw [encode, hencode, hfills.buffer]
  rfl

theorem mapM_encode (entries : List ScheduleEntry) :
    entries.mapM ScheduleEntry.encode = some (entries.map ScheduleEntry.chunk) := by
  induction entries with
  | nil => rfl
  | cons entry entries ih =>
      rw [List.mapM_cons, entry.encode_eq, ih]
      rfl

theorem pageBody_eq (entries : List ScheduleEntry) :
    pageBody entries = some (entries.flatMap (fun entry => 1 :: entry.chunk) ++ [0]) := by
  rw [pageBody, mapM_encode]
  refine congrArg some ?_
  rw [List.flatMap_map]

/-- **The bytes of a batch.** -/
theorem encodeCreateBatch_eq (entries : List ScheduleEntry) : encodeCreateBatch entries =
    if entries.length > 0xffffffff then none
    else some (writeU32BE entries.length ++ (entries.map ScheduleEntry.chunk).flatten) := by
  unfold encodeCreateBatch
  split
  · rfl
  · have hfold : ∀ (entries : List ScheduleEntry) {w : BufferWriter} {written : Bytes},
        w.Holds written → ∃ w', entries.foldlM (fun w entry => do
          return w.writeBytes (← entry.encode)) w = some w' ∧
            w'.Holds (written ++ (entries.map ScheduleEntry.chunk).flatten) := by
      intro entries
      induction entries with
      | nil => exact fun h => ⟨_, rfl, by simpa using h⟩
      | cons entry entries ih =>
          intro w written h
          obtain ⟨w', hw', hholds⟩ := ih (h.writeBytes entry.chunk)
          refine ⟨w', ?_, by simpa using hholds⟩
          rw [List.foldlM_cons, entry.encode_eq]
          exact hw'
    have hcount := (BufferWriter.holds_create 128).writeU32BE entries.length
    obtain ⟨w, hw, hholds⟩ := hfold entries hcount
    rw [List.nil_append] at hholds
    exact Option.bind_eq_some_iff.mpr ⟨w, hw, congrArg some hholds.getBuffer⟩

/-! ## Do the entries come back? -/

/-- A string without lone surrogates that does not begin with a byte order mark. -/
def PlainString (s : JsString) : Prop := isWellFormed s = true ∧ s.head? ≠ some byteOrderMark

instance (s : JsString) : Decidable (PlainString s) := inferInstanceAs (Decidable (_ ∧ _))

def ScheduleEntry.Plain (entry : ScheduleEntry) : Prop :=
  PlainString entry.route ∧ PlainString entry.cron

instance (entry : ScheduleEntry) : Decidable entry.Plain := inferInstanceAs (Decidable (_ ∧ _))

/-- Four bytes hold the lengths. -/
def ScheduleEntry.Fits (entry : ScheduleEntry) : Prop :=
  (utf8Encode entry.route).length < 2 ^ 32 ∧ (utf8Encode entry.cron).length < 2 ^ 32 ∧
    entry.payload.length < 2 ^ 32

instance (entry : ScheduleEntry) : Decidable entry.Fits := inferInstanceAs (Decidable (_ ∧ _))

/-- The page body behind each of the headers. -/
def Recovered (header : CursorHeader) (total : Unsigned 8) (entries : List ScheduleEntry) : Prop :=
  ∃ body, pageBody entries = some body ∧
    decodeListV2 (header.bytes ++ body) = some (header.page entries) ∧
      decodeListPage (total.bytes ++ body) = some { entries, totalCount := total.val }

/-- A batch is the number of its entries, and their encodings. -/
def BatchOfCreates (entries : List ScheduleEntry) : Prop :=
  ∃ chunks, entries.mapM ScheduleEntry.encode = some chunks ∧
    encodeCreateBatch entries = some (writeU32BE entries.length ++ chunks.flatten)

variable {rest rest' : Bytes}

/-- Bytes that are read behind a length that fits are those that were written. -/
theorem length_append_eq {data : Bytes} {raw : Prefixed}
    (h : writeLengthAndBytes data ++ rest = raw.bytes ++ rest') :
    raw.val = (data ++ rest).take raw.val.length ∧ raw.val.length = data.length % 2 ^ 32 := by
  simp only [Prefixed.bytes, writeLengthAndBytes, List.append_assoc] at h
  obtain ⟨hlength, hdata⟩ := List.append_inj h (by simp [writeU32BE])
  refine ⟨?_, ?_⟩
  · rw [hdata, List.take_left]
  · have hread := congrArg BigEndian.ofBytes hlength
    rw [writeU32BE, writeU32BE, BigEndian.ofBytes_toBytes_mod, BigEndian.ofBytes_toBytes raw.2]
      at hread
    exact hread.symm

theorem rest_eq {data : Bytes} {raw : Prefixed}
    (h : writeLengthAndBytes data ++ rest = raw.bytes ++ rest') (hlt : data.length < 2 ^ 32) :
    rest = rest' :=
  (@Prefixed.unambiguous ⟨data, hlt⟩ raw rest rest' h).2

/-- A string that comes back was not cut. -/
theorem length_lt_of_text {s : JsString} (hplain : PlainString s) {raw : Prefixed}
    (h : writeString s ++ rest = raw.bytes ++ rest') (htext : raw.text = s) :
    (utf8Encode s).length < 2 ^ 32 := by
  obtain ⟨htake, hmod⟩ := length_append_eq h
  by_contra hge
  have hlt := raw.2
  have hcut : utf8Decode ((utf8Encode s).take raw.val.length) = s := by
    rw [List.take_append_of_le_length (by omega)] at htake
    rw [← htake]
    exact htext
  have hle := length_le_of_utf8Decode_take (utf8Decode_utf8Encode_eq_self_iff.mpr hplain) hcut
  omega

theorem fits_of_entry {entry : ScheduleEntry} (hplain : entry.Plain) {raw : RawEntry}
    (h : entry.chunk ++ rest = raw.bytes ++ rest') (hentry : raw.entry = entry) :
    entry.Fits ∧ rest = rest' := by
  subst hentry
  simp only [ScheduleEntry.chunk, RawEntry.bytes, List.append_assoc] at h
  have hroute := length_lt_of_text hplain.1 h rfl
  have hcron := rest_eq h hroute
  have hcronFits := length_lt_of_text hplain.2 hcron rfl
  have hmode := (List.cons.inj (rest_eq hcron hcronFits)).2
  exact ⟨⟨hroute, hcronFits, raw.payload.2⟩, rest_eq hmode raw.payload.2⟩

/-- Entries that come back fit. -/
theorem fits_of_entries {entries : List ScheduleEntry} (hplain : ∀ entry ∈ entries, entry.Plain)
    {raws : List RawEntry}
    (h : entries.flatMap (fun entry => 1 :: entry.chunk) ++ rest =
      raws.flatMap RawEntry.marked ++ rest')
    (hentries : raws.map RawEntry.entry = entries) : ∀ entry ∈ entries, entry.Fits := by
  induction entries generalizing raws with
  | nil => simp
  | cons entry entries ih =>
      obtain ⟨hentry, hothers⟩ := List.forall_mem_cons.mp hplain
      cases raws with
      | nil => cases hentries
      | cons raw raws =>
          obtain ⟨hraw, hraws⟩ := List.cons.inj hentries
          rw [List.flatMap_cons, List.flatMap_cons, List.append_assoc, List.append_assoc] at h
          obtain ⟨hfits, hrest⟩ := fits_of_entry hentry (List.cons.inj h).2 hraw
          exact List.forall_mem_cons.mpr ⟨hfits, ih hothers hrest hraws⟩

/-- Entries that fit are whole entries. -/
theorem raws_of_fits {entries : List ScheduleEntry} (hplain : ∀ entry ∈ entries, entry.Plain)
    (hfits : ∀ entry ∈ entries, entry.Fits) : ∃ raws : List RawEntry,
      raws.map RawEntry.entry = entries ∧
        raws.flatMap RawEntry.marked = entries.flatMap fun entry => 1 :: entry.chunk := by
  induction entries with
  | nil => exact ⟨[], rfl, rfl⟩
  | cons entry entries ih =>
      obtain ⟨⟨hroute, hcron⟩, hplain⟩ := List.forall_mem_cons.mp hplain
      obtain ⟨⟨hrouteFits, hcronFits, hpayloadFits⟩, hfits⟩ := List.forall_mem_cons.mp hfits
      obtain ⟨raws, rfl, hraws⟩ := ih hplain hfits
      refine ⟨⟨⟨_, hrouteFits⟩, ⟨_, hcronFits⟩, entry.deliveryMode, ⟨_, hpayloadFits⟩⟩ :: raws,
        ?_, ?_⟩
      · rw [List.map_cons]
        refine congrArg (· :: _) ?_
        obtain ⟨route, cron, mode, payload⟩ := entry
        simp only [RawEntry.entry, Prefixed.text, ScheduleEntry.mk.injEq, and_true]
        exact ⟨utf8Decode_utf8Encode_eq_self_iff.mpr hroute,
          utf8Decode_utf8Encode_eq_self_iff.mpr hcron⟩
      · rw [List.flatMap_cons, List.flatMap_cons, hraws]
        rfl

theorem fits_of_recovered {header : CursorHeader} {total : Unsigned 8}
    {entries : List ScheduleEntry} (hplain : ∀ entry ∈ entries, entry.Plain)
    (h : Recovered header total entries) : ∀ entry ∈ entries, entry.Fits := by
  obtain ⟨body, hbody, -, hpage⟩ := h
  obtain rfl := Option.some.inj ((pageBody_eq entries).symm.trans hbody)
  obtain ⟨total', raws, hdata, heq⟩ := decodeListPage_eq_some_iff.mp hpage
  obtain ⟨-, hraws⟩ := Unsigned.unambiguous hdata
  exact fits_of_entries hplain hraws (ScheduleListPage.mk.inj heq).1.symm

theorem recovered_of_fits {header : CursorHeader} {total : Unsigned 8}
    {entries : List ScheduleEntry} (hplain : ∀ entry ∈ entries, entry.Plain)
    (hfits : ∀ entry ∈ entries, entry.Fits) : Recovered header total entries := by
  obtain ⟨raws, rfl, hraws⟩ := raws_of_fits hplain hfits
  refine ⟨_, pageBody_eq _, ?_, ?_⟩
  · exact decodeListV2_eq_some_iff.mpr ⟨header, raws, by rw [hraws], rfl⟩
  · exact decodeListPage_eq_some_iff.mpr ⟨total, raws, by rw [hraws], rfl⟩

/-- **Entries come back from their pages exactly if four bytes hold each of their lengths**, a batch
is made of their encodings unless there are too many, and a body that is not made of whole entries
is rejected. -/
theorem entries_recovered_iff {entries : List ScheduleEntry}
    (hplain : ∀ entry ∈ entries, entry.Plain) (header : CursorHeader) (total : Unsigned 8) :
    (Recovered header total entries ↔ ∀ entry ∈ entries, entry.Fits) ∧
      (BatchOfCreates entries ↔ entries.length < 2 ^ 32) ∧
      ∀ (raws : List RawEntry) (rest : Bytes), Malformed rest →
        decodeListV2 (header.bytes ++ (raws.flatMap RawEntry.marked ++ rest)) = none ∧
          decodeListPage (total.bytes ++ (raws.flatMap RawEntry.marked ++ rest)) = none := by
  refine ⟨⟨fits_of_recovered hplain, recovered_of_fits hplain⟩, ?_, fun raws rest h =>
    ⟨decodeListV2_malformed header raws h, decodeListPage_malformed total raws h⟩⟩
  constructor
  · rintro ⟨chunks, -, hbatch⟩
    rw [encodeCreateBatch_eq] at hbatch
    obtain ⟨hcount, -⟩ := Option.ite_none_left_eq_some.mp hbatch
    omega
  · intro hcount
    refine ⟨_, mapM_encode entries, ?_⟩
    rw [encodeCreateBatch_eq, if_neg (by omega)]

/-- Two entries behind a header with a cursor. -/
theorem entries_recovered_iff_two : Recovered ⟨true, some ⟨[], by decide⟩, by simp⟩ ⟨1, by decide⟩
    [⟨js "schedule://a/b/c/d", js "* * * * *", .single, [1, 0]⟩,
      ⟨js "schedule://a/b/c/e", [], .broadcast, []⟩] :=
  (entries_recovered_iff (by decide) _ _).1.mpr (by decide)

/-- A payload of four gigabytes. -/
theorem not_entries_recovered : ∃ entry : ScheduleEntry, entry.Plain ∧
    ¬ Recovered ⟨false, none, by simp⟩ ⟨1, by decide⟩ [entry] := by
  have hplain : PlainString [] := by decide
  refine ⟨⟨[], [], .broadcast, List.replicate (2 ^ 32) 0⟩, ⟨hplain, hplain⟩, fun h => ?_⟩
  have hfits := fits_of_recovered (List.forall_mem_singleton.mpr ⟨hplain, hplain⟩) h _
    (List.mem_singleton_self _)
  have hlength := hfits.2.2
  rw [List.length_replicate] at hlength
  exact Nat.lt_irrefl _ hlength

end FitzTs.Schedule
