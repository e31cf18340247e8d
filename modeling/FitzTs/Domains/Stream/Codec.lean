import FitzTs.Core.BufferFormats
import FitzTs.Domains.Routes.Selectors
import FitzTs.Domains.Stream.Read
import FitzTs.Protocol.Response
/-!
# FitzTs.Domains.Stream.Codec

The READ response, of `domains/stream/codec.ts`.

A page is encoded as

`[u8 status=0][u8 session_flag=0][u32 length][u32 count]([route][item])*[cursor]`

with the length that of all that follows. An item is an event, a filtered offset or a filtered range
of offsets, by its tag. Records and the cursor have one more offset when the selector is global, and
the cursor has a fingerprint and a watermark besides.

## Main results

* `decodeReadResponse_eq_read_iff` — which pages are accepted, and what is made of them.
* `EncodedRead.payload_injective` — a payload can be read as a page in one way only.
-/

namespace FitzTs.Stream

open Buffer JsString Routes Reading

structure StreamRecord where
  route : JsString
  offset : Nat
  timestamp : Nat
  body : Bytes
  areaOffset : Option Nat
  realmOffset : Option Nat
  globalOffset : Option Nat
  metadata : Option Bytes
  deriving DecidableEq, Repr

/-- What `decodeReadResponse` returns: a page, or the error of the broker. -/
inductive StreamReadResponse
  | read (decoded : DecodedRead StreamRecord)
  | failure (error : ResponseError)
  deriving DecidableEq, Repr

def isGlobalSelector (selector : JsString) : Bool :=
  classifyStreamSelectorScope selector = some .global

/-- `StreamCodec.readOptionalBytes`; any flag but 1 stands for no value. -/
def StreamCodec.readOptionalBytes : Reader (Option Bytes) := do
  let hasValue ← readU8
  if hasValue ≠ 1 then return none
  else return some (← do readBytes (← readU32BE))

/-- A number that is there when the selector is global. -/
def readGlobalU64 (extended : Bool) : Reader (Option Nat) :=
  if extended then readOptionalU64 else return none

def decodeStreamRecord (route : JsString) (extended : Bool) : Reader StreamRecord := do
  let offset ← readU64BE
  let areaOffset ← readOptionalU64
  let realmOffset ← readOptionalU64
  let globalOffset ← readGlobalU64 extended
  let body ← readBytes (← readU32BE)
  let metadata ← StreamCodec.readOptionalBytes
  let timestamp ← readU64BE
  return { route, offset, timestamp, body, areaOffset, realmOffset, globalOffset, metadata }

def decodeStreamFilteredReason : Reader (Option StreamFilteredReason) := do
  match ← readU8 with
  | 0 => return none
  | 1 => return some .serverFilter
  | 2 => return some .permission
  | 3 => return some .projection
  | _ => failure

def decodeStreamReadItem (route : JsString) (extended : Bool) :
    Reader (StreamReadItem StreamRecord) := do
  match ← readU8 with
  | 0 => return .event route (← decodeStreamRecord route extended)
  | 1 => return .filtered route (← readU64BE) (← decodeStreamFilteredReason)
  | 2 => return .filteredRange route (← readU64BE) (← readU64BE) (← decodeStreamFilteredReason)
  | _ => failure

/-- The body of the loop of `decodeReadResponse`. -/
def readPageItem (extended : Bool) : Reader (StreamReadItem StreamRecord) := do
  let concreteRoute ← readString
  guard (isRouteShape concreteRoute (js "stream") 3 false = true)
  decodeStreamReadItem concreteRoute extended

def readCursor (extended : Bool) : Reader StreamReadCursor := do
  let lastResourceOffset ← readU64BE
  let lastAreaOffset ← readOptionalU64
  let lastRealmOffset ← readOptionalU64
  let lastGlobalOffset ← readGlobalU64 extended
  let hasMoreFlag ← readU8
  guard ¬ (hasMoreFlag ≠ 0 ∧ hasMoreFlag ≠ 1)
  let cursorFingerprint ← readGlobalU64 extended
  let capturedWatermark ← readGlobalU64 extended
  return {
    lastResourceOffset
    lastAreaOffset := lastAreaOffset.map (↑)
    lastRealmOffset := lastRealmOffset.map (↑)
    lastGlobalOffset := lastGlobalOffset.map (↑)
    cursorFingerprint := cursorFingerprint.map (↑)
    capturedWatermark := capturedWatermark.map (↑)
    hasMore := hasMoreFlag = 1 }

/-- The envelope, up to the reader of its bytes. -/
def readEnvelope : Reader Bytes := do
  let sessionFlag ← readU8
  guard ¬ sessionFlag ≠ 0
  let dataLength ← readU32BE
  let bytes ← remaining
  guard ¬ dataLength ≠ bytes.length
  readBytes dataLength

/-- What is read of the bytes in the envelope. -/
def readPage (extended : Bool) : Reader (DecodedRead StreamRecord) := do
  let count ← readU32BE
  let items ← many (readPageItem extended) count
  let cursor ← readCursor extended
  let eof ← isEOF
  guard (eof = true)
  return { items, cursor := some cursor }

/-- `decodeReadResponse(payload, selector)`; `none` where it throws. -/
def decodeReadResponse (payload : Bytes) (selector : JsString) : Option StreamReadResponse :=
  match parseStandardResponse payload with
  | none => none
  | some (.failure error) => some (.failure error)
  | some (.success data) =>
    if ¬ isStreamSelectorShape selector then none
    else if data.length = 0 then some (.read { items := [], cursor := none })
    else do
      let bytes ← Reader.read readEnvelope data
      let decoded ← Reader.read (readPage (isGlobalSelector selector)) bytes
      return .read decoded

/-! ## Pages as they are encoded -/

/-- An optional number, if there is one. -/
abbrev GlobalNumber (extended : Bool) := {n : Option OptionalNumber // n.isSome = extended}

/-- What `StreamCodec.readOptionalBytes` takes. -/
abbrev OptionalBytes := Optional (· ≠ 1) Prefixed

/-- The route of an item. -/
abbrev EncodedRoute := {data : Prefixed // isRouteShape data.text (js "stream") 3 false = true}

structure EncodedRecord (extended : Bool) where
  offset : Unsigned 8
  areaOffset : OptionalNumber
  realmOffset : OptionalNumber
  globalOffset : GlobalNumber extended
  body : Prefixed
  metadata : OptionalBytes
  timestamp : Unsigned 8

/-- An item behind its route. -/
inductive EncodedAnswer (extended : Bool)
  | event (record : EncodedRecord extended)
  | filtered (offset : Unsigned 8) (reason : Option StreamFilteredReason)
  | filteredRange (fromOffset toOffset : Unsigned 8) (reason : Option StreamFilteredReason)

structure EncodedItem (extended : Bool) where
  route : EncodedRoute
  answer : EncodedAnswer extended

structure EncodedCursor (extended : Bool) where
  lastResourceOffset : Unsigned 8
  lastAreaOffset : OptionalNumber
  lastRealmOffset : OptionalNumber
  lastGlobalOffset : GlobalNumber extended
  hasMore : Bool
  cursorFingerprint : GlobalNumber extended
  capturedWatermark : GlobalNumber extended

/-- What stands in the envelope. -/
structure EncodedPage (extended : Bool) where
  items : List (EncodedItem extended)
  count_lt : items.length < 2 ^ 32
  cursor : EncodedCursor extended

section

variable {extended : Bool}

def GlobalNumber.bytes (n : GlobalNumber extended) : Bytes :=
  n.val.elim [] (Optional.bytes Unsigned.bytes)

def GlobalNumber.number (n : GlobalNumber extended) : Option Nat := n.val.bind OptionalNumber.number

def EncodedRecord.bytes (record : EncodedRecord extended) : Bytes :=
  record.offset.bytes ++ record.areaOffset.bytes Unsigned.bytes ++
    record.realmOffset.bytes Unsigned.bytes ++ GlobalNumber.bytes record.globalOffset ++
    record.body.bytes ++ record.metadata.bytes Prefixed.bytes ++ record.timestamp.bytes

def EncodedRecord.record (route : JsString) (record : EncodedRecord extended) : StreamRecord where
  route := route
  offset := record.offset.val
  timestamp := record.timestamp.val
  body := record.body.val
  areaOffset := record.areaOffset.number
  realmOffset := record.realmOffset.number
  globalOffset := GlobalNumber.number record.globalOffset
  metadata := record.metadata.value.map (·.val)

def reasonTag : Option StreamFilteredReason → UInt8
  | none => 0
  | some .serverFilter => 1
  | some .permission => 2
  | some .projection => 3

def EncodedAnswer.bytes : EncodedAnswer extended → Bytes
  | .event record => 0 :: record.bytes
  | .filtered offset reason => 1 :: (offset.bytes ++ [reasonTag reason])
  | .filteredRange fromOffset toOffset reason =>
    2 :: (fromOffset.bytes ++ toOffset.bytes ++ [reasonTag reason])

def EncodedAnswer.item (route : JsString) :
    EncodedAnswer extended → StreamReadItem StreamRecord
  | .event record => .event route (record.record route)
  | .filtered offset reason => .filtered route offset.val reason
  | .filteredRange fromOffset toOffset reason =>
    .filteredRange route fromOffset.val toOffset.val reason

def EncodedItem.bytes (item : EncodedItem extended) : Bytes :=
  item.route.val.bytes ++ item.answer.bytes

def EncodedItem.item (item : EncodedItem extended) : StreamReadItem StreamRecord :=
  item.answer.item item.route.val.text

def EncodedCursor.bytes (cursor : EncodedCursor extended) : Bytes :=
  cursor.lastResourceOffset.bytes ++ cursor.lastAreaOffset.bytes Unsigned.bytes ++
    cursor.lastRealmOffset.bytes Unsigned.bytes ++ GlobalNumber.bytes cursor.lastGlobalOffset ++
    [flagByte cursor.hasMore] ++ GlobalNumber.bytes cursor.cursorFingerprint ++
    GlobalNumber.bytes cursor.capturedWatermark

def EncodedCursor.cursor (cursor : EncodedCursor extended) : StreamReadCursor where
  lastResourceOffset := cursor.lastResourceOffset.val
  lastAreaOffset := cursor.lastAreaOffset.number.map (↑)
  lastRealmOffset := cursor.lastRealmOffset.number.map (↑)
  lastGlobalOffset := (GlobalNumber.number cursor.lastGlobalOffset).map (↑)
  cursorFingerprint := (GlobalNumber.number cursor.cursorFingerprint).map (↑)
  capturedWatermark := (GlobalNumber.number cursor.capturedWatermark).map (↑)
  hasMore := cursor.hasMore

def EncodedPage.bytes (page : EncodedPage extended) : Bytes :=
  writeU32BE page.items.length ++ page.items.flatMap EncodedItem.bytes ++ page.cursor.bytes

/-- A page that fits into its envelope. -/
structure EncodedRead (extended : Bool) where
  page : EncodedPage extended
  length_lt : page.bytes.length < 2 ^ 32

def EncodedRead.payload (read : EncodedRead extended) : Bytes :=
  0 :: 0 :: writeLengthAndBytes read.page.bytes

def EncodedPage.decoded (page : EncodedPage extended) : DecodedRead StreamRecord where
  items := page.items.map EncodedItem.item
  cursor := some page.cursor.cursor

/-! ## What is accepted -/

theorem readOptionalBytes_reads :
    Reads anything StreamCodec.readOptionalBytes
      (fun data : OptionalBytes => data.bytes Prefixed.bytes)
      fun data => data.value.map (·.val) := by
  have hvalue := readLengthAndBytes_reads.map some
  rw [bind_assoc] at hvalue
  exact optional_reads hvalue

theorem readGlobalU64_reads :
    Reads anything (readGlobalU64 extended) (fun n : GlobalNumber extended => n.bytes)
      GlobalNumber.number := by
  unfold readGlobalU64
  cases extended with
  | true =>
      refine readOptionalU64_reads.congr (fun n => ⟨⟨some n, rfl⟩, rfl, rfl⟩) ?_
      rintro ⟨n, hn⟩
      obtain ⟨n, rfl⟩ := Option.isSome_iff_exists.mp hn
      exact ⟨n, rfl, rfl⟩
  | false =>
      refine (Reads.pure none).congr (fun _ => ⟨⟨none, rfl⟩, rfl, rfl⟩) ?_
      rintro ⟨n, hn⟩
      obtain rfl := Option.isSome_eq_false_iff.mp hn |> Option.isNone_iff_eq_none.mp
      exact ⟨(), rfl, rfl⟩

theorem decodeStreamRecord_reads (route : JsString) :
    Reads anything (decodeStreamRecord route extended)
      (fun record : EncodedRecord extended => record.bytes) (EncodedRecord.record route) := by
  unfold decodeStreamRecord
  refine Reads.congr
    ((readUBE_reads 8).bind fun offset => readOptionalU64_reads.bind fun areaOffset =>
    readOptionalU64_reads.bind fun realmOffset => readGlobalU64_reads.bind fun globalOffset =>
    readPrefixed_reads fun body => readOptionalBytes_reads.bind fun metadata =>
    (readUBE_reads 8).bind fun timestamp => Reads.pure (EncodedRecord.record route
      ⟨offset, areaOffset, realmOffset, globalOffset, body, metadata, timestamp⟩)) ?_ ?_
  · rintro ⟨offset, areaOffset, realmOffset, globalOffset, body, metadata, timestamp, -⟩
    exact ⟨⟨offset, areaOffset, realmOffset, globalOffset, body, metadata, timestamp⟩,
      by simp [EncodedRecord.bytes], rfl⟩
  · rintro ⟨offset, areaOffset, realmOffset, globalOffset, body, metadata, timestamp⟩
    exact ⟨⟨offset, areaOffset, realmOffset, globalOffset, body, metadata, timestamp, ()⟩,
      by simp [EncodedRecord.bytes], rfl⟩

theorem decodeStreamFilteredReason_reads :
    Reads anything decodeStreamFilteredReason (fun reason => [reasonTag reason])
      fun reason => reason := by
  intro input reason rest
  unfold decodeStreamFilteredReason
  rw [readTag_eq_some]
  constructor
  · rintro ⟨tag, middle, -, rfl, h⟩
    split at h
    case h_5 => cases h
    all_goals
      obtain ⟨⟩ := h
      exact ⟨trivial, _, rfl, rfl⟩
  · rintro ⟨-, reason, rfl, rfl⟩
    match reason with
    | none => exact ⟨0, rest, by decide, rfl, rfl⟩
    | some .serverFilter => exact ⟨1, rest, by decide, rfl, rfl⟩
    | some .permission => exact ⟨2, rest, by decide, rfl, rfl⟩
    | some .projection => exact ⟨3, rest, by decide, rfl, rfl⟩

theorem decodeStreamReadItem_reads (route : JsString) :
    Reads anything (decodeStreamReadItem route extended)
      (fun answer : EncodedAnswer extended => answer.bytes) (EncodedAnswer.item route) := by
  have hevent : Reads anything
      (do return StreamReadItem.event route (← decodeStreamRecord route extended)) _ _ :=
    (decodeStreamRecord_reads route).map _
  have hfiltered : Reads anything (do
      return (StreamReadItem.filtered route (← readU64BE) (← decodeStreamFilteredReason) :
        StreamReadItem StreamRecord)) _ _ :=
    (readUBE_reads 8).bind fun offset => decodeStreamFilteredReason_reads.map _
  have hrange : Reads anything (do
      return (StreamReadItem.filteredRange route (← readU64BE) (← readU64BE)
        (← decodeStreamFilteredReason) : StreamReadItem StreamRecord)) _ _ :=
    (readUBE_reads 8).bind fun fromOffset => (readUBE_reads 8).bind fun toOffset =>
      decodeStreamFilteredReason_reads.map _
  intro input item rest
  unfold decodeStreamReadItem
  rw [readTag_eq_some]
  constructor
  · rintro ⟨tag, middle, -, rfl, h⟩
    split at h
    case h_1 =>
      obtain ⟨-, record, rfl, rfl⟩ := (hevent _ _ _).mp h
      exact ⟨trivial, .event record, rfl, rfl⟩
    case h_2 =>
      obtain ⟨-, ⟨offset, reason⟩, rfl, rfl⟩ := (hfiltered _ _ _).mp h
      exact ⟨trivial, .filtered offset reason, rfl, rfl⟩
    case h_3 =>
      obtain ⟨-, ⟨fromOffset, toOffset, reason⟩, rfl, rfl⟩ := (hrange _ _ _).mp h
      exact ⟨trivial, .filteredRange fromOffset toOffset reason,
        by simp [EncodedAnswer.bytes], rfl⟩
    case h_4 => cases h
  · rintro ⟨-, answer, rfl, rfl⟩
    match answer with
    | .event record =>
      exact ⟨0, _, by decide, rfl, (hevent _ _ _).mpr ⟨trivial, record, rfl, rfl⟩⟩
    | .filtered offset reason =>
      exact ⟨1, _, by decide, rfl, (hfiltered _ _ _).mpr ⟨trivial, ⟨offset, reason⟩, rfl, rfl⟩⟩
    | .filteredRange fromOffset toOffset reason =>
      exact ⟨2, _, by decide, rfl, (hrange _ _ _).mpr ⟨trivial, ⟨fromOffset, toOffset, reason⟩,
        by simp, rfl⟩⟩

theorem readPageItem_reads :
    Reads anything (readPageItem extended) (fun item : EncodedItem extended => item.bytes)
      EncodedItem.item := by
  unfold readPageItem
  refine Reads.congr (readString_reads.bind fun data => (Reads.check _).bind fun _ =>
    decodeStreamReadItem_reads data.text) ?_ ?_
  · rintro ⟨data, ⟨hshape⟩, answer⟩
    exact ⟨⟨⟨data, hshape⟩, answer⟩, rfl, rfl⟩
  · rintro ⟨⟨data, hshape⟩, answer⟩
    exact ⟨⟨data, ⟨hshape⟩, answer⟩, rfl, rfl⟩

theorem readCursor_reads :
    Reads anything (readCursor extended) (fun cursor : EncodedCursor extended => cursor.bytes)
      EncodedCursor.cursor := by
  unfold readCursor
  refine Reads.congr ((readUBE_reads 8).bind fun resource => readOptionalU64_reads.bind fun area =>
    readOptionalU64_reads.bind fun realm => readGlobalU64_reads.bind fun global =>
    readFlag_reads fun hasMore =>
    readGlobalU64_reads.bind fun fingerprint => readGlobalU64_reads.bind fun watermark =>
    Reads.pure (StreamReadCursor.mk resource.val (area.number.map (↑)) (realm.number.map (↑))
      ((GlobalNumber.number global).map (↑)) ((GlobalNumber.number fingerprint).map (↑))
      ((GlobalNumber.number watermark).map (↑)) (hasMore.toNat = 1))) ?_ ?_
  · rintro ⟨resource, area, realm, global, hasMore, fingerprint, watermark, -⟩
    refine ⟨⟨resource, area, realm, global, hasMore, fingerprint, watermark⟩,
      by simp [EncodedCursor.bytes], ?_⟩
    cases hasMore <;> rfl
  · rintro ⟨resource, area, realm, global, hasMore, fingerprint, watermark⟩
    refine ⟨⟨resource, area, realm, global, hasMore, fingerprint, watermark, ()⟩,
      by simp [EncodedCursor.bytes], ?_⟩
    cases hasMore <;> rfl

/-- The whole of the bytes in the envelope. -/
theorem readPage_reads :
    Reads nothing (readPage extended) (fun page : EncodedPage extended => page.bytes)
      EncodedPage.decoded := by
  unfold readPage
  refine Reads.congr
    (readMany_reads readPageItem_reads fun items => readCursor_reads.bind fun cursor =>
    Reads.finish (⟨items.val.map EncodedItem.item, some cursor.cursor⟩ : DecodedRead StreamRecord))
    ?_ ?_
  · rintro ⟨⟨items, hcount⟩, cursor, -⟩
    exact ⟨⟨items, hcount, cursor⟩, by simp [EncodedPage.bytes], rfl⟩
  · rintro ⟨items, hcount, cursor⟩
    exact ⟨⟨⟨items, hcount⟩, cursor, ()⟩, by simp [EncodedPage.bytes], rfl⟩

/-- The envelope is all of the data. -/
theorem read_readEnvelope_iff {data bytes : Bytes} :
    Reader.read readEnvelope data = some bytes ↔
      bytes.length < 2 ^ 32 ∧ data = 0 :: writeLengthAndBytes bytes := by
  constructor
  · intro h
    obtain ⟨⟨bytes, rest⟩, hread, rfl⟩ := Option.map_eq_some_iff.mp h
    simp only [readEnvelope, Buffer.bind_eq_some, guard_bind, Option.ite_none_right_eq_some]
      at hread
    obtain ⟨flag, _, hflag, hzero, length, data, hlength, _, _, hremaining, hguard, hbytes⟩ := hread
    obtain ⟨rfl, rfl⟩ := Prod.mk.inj (Option.some.inj hremaining)
    obtain ⟨rfl, hlt⟩ := readUBE_eq_some.mp hlength
    obtain ⟨rfl, -⟩ := readUBE_eq_some.mp hflag
    obtain rfl := not_not.mp hzero
    obtain ⟨rfl, hdata⟩ := readBytes_eq_some.mp hbytes
    have hrest : rest = [] := by
      rw [← hdata, not_not, List.length_append] at hguard
      exact List.length_eq_zero_iff.mp (by omega)
    rw [hrest, List.append_nil, hdata]
    exact ⟨hlt, by rw [writeLengthAndBytes, hdata]; rfl⟩
  · rintro ⟨hlt, rfl⟩
    refine Option.map_eq_some_iff.mpr ⟨(bytes, []), ?_, rfl⟩
    simp only [readEnvelope, Buffer.bind_eq_some, guard_bind, Option.ite_none_right_eq_some]
    exact ⟨0, _, readUBE_eq_some.mpr ⟨rfl, by decide⟩, not_not.mpr rfl, bytes.length, bytes,
      readUBE_eq_some.mpr ⟨rfl, hlt⟩, bytes, bytes, rfl, not_not.mpr rfl,
      readBytes_eq_some.mpr ⟨(List.append_nil _).symm, rfl⟩⟩

variable {payload : Bytes} {selector : JsString} {decoded : DecodedRead StreamRecord}

/-- **The pages that are accepted**, and the shortcut: no page at all. -/
theorem decodeReadResponse_eq_read_iff (hselector : isStreamSelectorShape selector = true) :
    decodeReadResponse payload selector = some (.read decoded) ↔
      payload = [0] ∧ decoded = ⟨[], none⟩ ∨
        ∃ read : EncodedRead (isGlobalSelector selector),
          payload = read.payload ∧ decoded = read.page.decoded := by
  unfold decodeReadResponse
  constructor
  · intro h
    split at h
    case h_1 => cases h
    case h_2 => cases h
    case h_3 data hdata =>
      obtain rfl := parseStandardResponse_eq_success_iff.mp hdata
      rw [if_neg (not_not.mpr hselector)] at h
      split at h
      case isTrue hempty =>
        obtain rfl := List.length_eq_zero_iff.mp hempty
        obtain ⟨⟩ := h
        exact .inl ⟨rfl, rfl⟩
      case isFalse =>
        obtain ⟨bytes, hbytes, hpage⟩ := Option.bind_eq_some_iff.mp h
        obtain ⟨_, hdecoded, ⟨⟩⟩ := Option.bind_eq_some_iff.mp hpage
        obtain ⟨hlt, rfl⟩ := read_readEnvelope_iff.mp hbytes
        obtain ⟨page, rfl, rfl⟩ := readPage_reads.read_eq_some_iff.mp hdecoded
        exact .inr ⟨⟨page, hlt⟩, rfl, rfl⟩
  · rintro (⟨rfl, rfl⟩ | ⟨⟨page, hlt⟩, rfl, rfl⟩)
    · rw [parseStandardResponse_eq_success_iff.mpr rfl]
      simp [hselector]
    · have hbytes := read_readEnvelope_iff.mpr ⟨hlt, rfl⟩
      have hdecoded : Reader.read (readPage (isGlobalSelector selector)) page.bytes =
          some page.decoded := readPage_reads.read_eq_some_iff.mpr ⟨page, rfl, rfl⟩
      have hparse : parseStandardResponse (EncodedRead.payload ⟨page, hlt⟩) =
          some (.success (0 :: writeLengthAndBytes page.bytes)) :=
        parseStandardResponse_eq_success_iff.mpr rfl
      have hne : ¬ (0 :: writeLengthAndBytes page.bytes).length = 0 := Nat.add_one_ne_zero _
      rw [hparse]
      dsimp only
      rw [if_neg (not_not.mpr hselector), if_neg hne, hbytes, Option.bind_eq_bind,
        Option.bind_some, hdecoded, Option.bind_eq_bind, Option.bind_some]
      rfl

/-- An error is that of the broker. -/
theorem isErrorResponse_of_failure {error : ResponseError}
    (h : decodeReadResponse payload selector = some (.failure error)) :
    ∃ message, IsErrorResponse payload error message := by
  unfold decodeReadResponse at h
  split at h
  case h_1 => cases h
  case h_2 _ hfailure =>
    obtain ⟨⟩ := h
    exact parseStandardResponse_eq_failure_iff.mp hfailure
  case h_3 =>
    split_ifs at h with hselector hempty
    · cases h
    · obtain ⟨_, -, hpage⟩ := Option.bind_eq_some_iff.mp h
      obtain ⟨_, -, ⟨⟩⟩ := Option.bind_eq_some_iff.mp hpage

/-! ## Payloads are read in one way -/

theorem GlobalNumber.unambiguous : Unambiguous (fun n : GlobalNumber extended => n.bytes) := by
  rintro ⟨n, hn⟩ ⟨n', hn'⟩ rest rest' h
  cases n with
  | none =>
      obtain rfl := Option.isNone_iff_eq_none.mp (Option.isSome_eq_false_iff.mp (hn'.trans hn.symm))
      exact ⟨rfl, h⟩
  | some n =>
      obtain ⟨n', rfl⟩ := Option.isSome_iff_exists.mp (hn'.trans hn.symm)
      obtain ⟨rfl, rfl⟩ := Optional.unambiguous Unsigned.unambiguous h
      exact ⟨rfl, rfl⟩

theorem EncodedRecord.unambiguous :
    Unambiguous (fun record : EncodedRecord extended => record.bytes) := by
  have hnumber : Unambiguous (fun n : OptionalNumber => n.bytes Unsigned.bytes) :=
    Optional.unambiguous Unsigned.unambiguous
  rintro ⟨offset, area, realm, global, body, metadata, timestamp⟩
    ⟨offset', area', realm', global', body', metadata', timestamp'⟩ rest rest' h
  simp only [EncodedRecord.bytes, List.append_assoc] at h
  obtain ⟨rfl, harea⟩ := Unsigned.unambiguous h
  obtain ⟨rfl, hrealm⟩ := hnumber harea
  obtain ⟨rfl, hglobal⟩ := hnumber hrealm
  obtain ⟨rfl, hbody⟩ := GlobalNumber.unambiguous hglobal
  obtain ⟨rfl, hmetadata⟩ := Prefixed.unambiguous hbody
  obtain ⟨rfl, htimestamp⟩ := Optional.unambiguous Prefixed.unambiguous hmetadata
  obtain ⟨rfl, rfl⟩ := Unsigned.unambiguous htimestamp
  exact ⟨rfl, rfl⟩

theorem EncodedAnswer.unambiguous :
    Unambiguous (fun answer : EncodedAnswer extended => answer.bytes) := by
  have hreason : Unambiguous fun reason => [reasonTag reason] :=
    decodeStreamFilteredReason_reads.unambiguous fun _ _ h => h
  intro answer answer' rest rest' h
  cases answer <;> cases answer' <;> obtain ⟨htag, h⟩ := List.cons.inj h <;> try cases htag
  case event.event =>
      obtain ⟨rfl, rfl⟩ := EncodedRecord.unambiguous h
      exact ⟨rfl, rfl⟩
  case filtered.filtered =>
      simp only [List.append_eq, List.append_assoc] at h
      obtain ⟨rfl, htail⟩ := Unsigned.unambiguous h
      obtain ⟨rfl, rfl⟩ := hreason htail
      exact ⟨rfl, rfl⟩
  case filteredRange.filteredRange =>
      simp only [List.append_eq, List.append_assoc] at h
      obtain ⟨rfl, hto⟩ := Unsigned.unambiguous h
      obtain ⟨rfl, htail⟩ := Unsigned.unambiguous hto
      obtain ⟨rfl, rfl⟩ := hreason htail
      exact ⟨rfl, rfl⟩

theorem EncodedItem.unambiguous :
    Unambiguous (fun item : EncodedItem extended => item.bytes) := by
  rintro ⟨route, answer⟩ ⟨route', answer'⟩ rest rest' h
  simp only [EncodedItem.bytes, List.append_assoc] at h
  obtain ⟨hroute, hanswer⟩ := Prefixed.unambiguous h
  obtain rfl := Subtype.ext hroute
  obtain ⟨rfl, rfl⟩ := EncodedAnswer.unambiguous hanswer
  exact ⟨rfl, rfl⟩

theorem EncodedCursor.unambiguous :
    Unambiguous (fun cursor : EncodedCursor extended => cursor.bytes) := by
  have hnumber : Unambiguous (fun n : OptionalNumber => n.bytes Unsigned.bytes) :=
    Optional.unambiguous Unsigned.unambiguous
  rintro ⟨resource, area, realm, global, hasMore, fingerprint, watermark⟩
    ⟨resource', area', realm', global', hasMore', fingerprint', watermark'⟩ rest rest' h
  simp only [EncodedCursor.bytes, List.append_assoc] at h
  obtain ⟨rfl, harea⟩ := Unsigned.unambiguous h
  obtain ⟨rfl, hrealm⟩ := hnumber harea
  obtain ⟨rfl, hglobal⟩ := hnumber hrealm
  obtain ⟨rfl, hmore⟩ := GlobalNumber.unambiguous hglobal
  obtain ⟨hflag, hfingerprint⟩ := List.cons.inj hmore
  obtain rfl := flagByte_injective hflag
  obtain ⟨rfl, hwatermark⟩ := GlobalNumber.unambiguous hfingerprint
  obtain ⟨rfl, rfl⟩ := GlobalNumber.unambiguous hwatermark
  exact ⟨rfl, rfl⟩

theorem EncodedPage.unambiguous : Unambiguous (fun page : EncodedPage extended => page.bytes) := by
  rintro ⟨items, hcount, cursor⟩ ⟨items', hcount', cursor'⟩ rest rest' h
  simp only [EncodedPage.bytes, List.append_assoc] at h
  obtain ⟨hlength, hitems⟩ := @Unsigned.unambiguous 4 ⟨_, hcount⟩ ⟨_, hcount'⟩ _ _ h
  obtain ⟨rfl, hcursor⟩ := EncodedItem.unambiguous.flatMap (congrArg Subtype.val hlength) hitems
  obtain ⟨rfl, rfl⟩ := EncodedCursor.unambiguous hcursor
  exact ⟨rfl, rfl⟩

/-- **A payload can be read as a page in one way only.** -/
theorem EncodedRead.payload_injective :
    (fun read : EncodedRead extended => read.payload).Injective := by
  rintro ⟨page, hlength⟩ ⟨page', hlength'⟩ h
  obtain ⟨-, h⟩ := List.cons.inj h
  obtain ⟨-, h⟩ := List.cons.inj h
  have hbytes := @Prefixed.unambiguous ⟨_, hlength⟩ ⟨_, hlength'⟩ [] []
    (congrArg (· ++ []) h)
  have hpage : page = page' := by
    refine (@EncodedPage.unambiguous extended page page' [] [] ?_).1
    simpa using congrArg Subtype.val hbytes.1
  subst hpage
  rfl

/-! ## Flags -/

def GlobalNumber.Plain (n : GlobalNumber extended) : Prop := ∀ m ∈ n.val, m.Plain

structure EncodedRecord.Plain (record : EncodedRecord extended) : Prop where
  areaOffset : record.areaOffset.Plain
  realmOffset : record.realmOffset.Plain
  globalOffset : GlobalNumber.Plain record.globalOffset
  metadata : record.metadata.Plain

def EncodedAnswer.Plain : EncodedAnswer extended → Prop
  | .event record => record.Plain
  | .filtered .. | .filteredRange .. => True

structure EncodedCursor.Plain (cursor : EncodedCursor extended) : Prop where
  lastAreaOffset : cursor.lastAreaOffset.Plain
  lastRealmOffset : cursor.lastRealmOffset.Plain
  lastGlobalOffset : GlobalNumber.Plain cursor.lastGlobalOffset
  cursorFingerprint : GlobalNumber.Plain cursor.cursorFingerprint
  capturedWatermark : GlobalNumber.Plain cursor.capturedWatermark

/-- All flags are 0 or 1. -/
structure EncodedRead.Plain (read : EncodedRead extended) : Prop where
  items : ∀ item ∈ read.page.items, item.answer.Plain
  cursor : read.page.cursor.Plain

end

end FitzTs.Stream
