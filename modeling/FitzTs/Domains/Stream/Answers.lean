import FitzTs.Core.BufferFormats
import FitzTs.Protocol.Response
/-!
# FitzTs.Domains.Stream.Answers

The answer to GET_METADATA and the notification, of `domains/stream/codec.ts`.

An answer is encoded as

`[u8 status=0][optional u64 first][optional u64 last][u64 record_count][u64 max_batch_events]`
`[u64 max_batch_bytes][optional u64 ttl][u64 area_watermark][u64 realm_watermark]`

and a notification as `[u64 sub_id][string route][u32 length][payload]`.
-/

namespace FitzTs.Stream

open Buffer JsString Reading

/-! ## Decoders -/

structure StreamMetadata where
  firstOffset : Nat
  lastOffset : Nat
  recordCount : Nat
  maxBatchEvents : Nat
  maxBatchBytes : Nat
  ttlSeconds : Option Nat
  areaWatermark : Nat
  realmWatermark : Nat
  deriving DecidableEq, Repr

/-- What `decodeMetadataResponse` returns: metadata, none at all, or the error of the broker. -/
inductive StreamMetadataResponse
  | success (metadata : Option StreamMetadata)
  | failure (error : ResponseError)
  deriving DecidableEq, Repr

def readMetadata : Reader StreamMetadata := do
  let firstResourceOffset ← readOptionalU64
  let lastResourceOffset ← readOptionalU64
  let recordCount ← readU64BE
  let maxBatchEvents ← readU64BE
  let maxBatchBytes ← readU64BE
  let ttlSeconds ← readOptionalU64
  let areaWatermark ← readU64BE
  let realmWatermark ← readU64BE
  return {
    firstOffset := firstResourceOffset.getD 0
    lastOffset := lastResourceOffset.getD 0
    recordCount
    maxBatchEvents
    maxBatchBytes
    ttlSeconds
    areaWatermark
    realmWatermark }

/-- `decodeMetadataResponse`; `none` where it throws. -/
def decodeMetadataResponse (payload : Bytes) : Option StreamMetadataResponse :=
  match parseStandardResponse payload with
  | none => none
  | some (.failure error) => some (.failure error)
  | some (.success data) =>
    if data.length = 0 then some (.success none)
    else (Reader.read readMetadata data).map fun metadata => .success (some metadata)

/-- A notification, whose parsed payload is a value of `τ`. -/
structure StreamNotification (τ : Type) where
  subId : Nat
  route : JsString
  rawPayload : Bytes
  parsedPayload : τ
  deriving DecidableEq, Repr

section

variable {τ : Type}

/-- The payload as JSON, or `{}`. -/
def parsedPayload (parse : JsString → Option τ) (empty : τ) (rawPayload : Bytes) : τ :=
  if rawPayload.length > 0 then (parse (utf8Decode rawPayload)).getD empty else empty

/-- `decodeNotification`, with `JSON.parse` for `parse` and `{}` for `empty`; `none` where it
throws. -/
def decodeNotification (parse : JsString → Option τ) (empty : τ) (payload : Bytes) :
    Option (StreamNotification τ) :=
  Reader.read (do
    let subId ← readU64BE
    let route ← readString
    let rawPayload ← do readBytes (← readU32BE)
    return { subId, route, rawPayload, parsedPayload := parsedPayload parse empty rawPayload })
    payload

end

variable {payload : Bytes}

/-! ## GET_METADATA -/

/-- Metadata as they are encoded, with the flags of their optional numbers. -/
structure EncodedMetadata where
  firstOffset : OptionalNumber
  lastOffset : OptionalNumber
  recordCount : Unsigned 8
  maxBatchEvents : Unsigned 8
  maxBatchBytes : Unsigned 8
  ttlSeconds : OptionalNumber
  areaWatermark : Unsigned 8
  realmWatermark : Unsigned 8

def EncodedMetadata.bytes (m : EncodedMetadata) : Bytes :=
  m.firstOffset.bytes Unsigned.bytes ++ m.lastOffset.bytes Unsigned.bytes ++ m.recordCount.bytes ++
    m.maxBatchEvents.bytes ++ m.maxBatchBytes.bytes ++ m.ttlSeconds.bytes Unsigned.bytes ++
    m.areaWatermark.bytes ++ m.realmWatermark.bytes

def EncodedMetadata.metadata (m : EncodedMetadata) : StreamMetadata where
  firstOffset := m.firstOffset.number.getD 0
  lastOffset := m.lastOffset.number.getD 0
  recordCount := m.recordCount.val
  maxBatchEvents := m.maxBatchEvents.val
  maxBatchBytes := m.maxBatchBytes.val
  ttlSeconds := m.ttlSeconds.number
  areaWatermark := m.areaWatermark.val
  realmWatermark := m.realmWatermark.val

/-- All flags are 0 or 1. -/
structure EncodedMetadata.Plain (m : EncodedMetadata) : Prop where
  firstOffset : m.firstOffset.Plain
  lastOffset : m.lastOffset.Plain
  ttlSeconds : m.ttlSeconds.Plain

theorem readMetadata_reads :
    Reads anything readMetadata EncodedMetadata.bytes EncodedMetadata.metadata := by
  unfold readMetadata
  refine Reads.congr (readOptionalU64_reads.bind fun first => readOptionalU64_reads.bind fun last =>
    (readUBE_reads 8).bind fun count => (readUBE_reads 8).bind fun events =>
    (readUBE_reads 8).bind fun bytes => readOptionalU64_reads.bind fun ttl =>
    (readUBE_reads 8).bind fun area => (readUBE_reads 8).bind fun realm => Reads.pure
      (EncodedMetadata.metadata ⟨first, last, count, events, bytes, ttl, area, realm⟩)) ?_ ?_
  · rintro ⟨first, last, count, events, bytes, ttl, area, realm, -⟩
    exact ⟨⟨first, last, count, events, bytes, ttl, area, realm⟩,
      by simp [EncodedMetadata.bytes], rfl⟩
  · rintro ⟨first, last, count, events, bytes, ttl, area, realm⟩
    exact ⟨⟨first, last, count, events, bytes, ttl, area, realm, ()⟩,
      by simp [EncodedMetadata.bytes], rfl⟩

theorem EncodedMetadata.unambiguous : Unambiguous EncodedMetadata.bytes := by
  have hnumber : Unambiguous (fun n : OptionalNumber => n.bytes Unsigned.bytes) :=
    Optional.unambiguous Unsigned.unambiguous
  rintro ⟨first, last, count, events, bytes, ttl, area, realm⟩
    ⟨first', last', count', events', bytes', ttl', area', realm'⟩ rest rest' h
  simp only [EncodedMetadata.bytes, List.append_assoc] at h
  obtain ⟨rfl, hlast⟩ := hnumber h
  obtain ⟨rfl, hcount⟩ := hnumber hlast
  obtain ⟨rfl, hevents⟩ := Unsigned.unambiguous hcount
  obtain ⟨rfl, hbytes⟩ := Unsigned.unambiguous hevents
  obtain ⟨rfl, httl⟩ := Unsigned.unambiguous hbytes
  obtain ⟨rfl, harea⟩ := hnumber httl
  obtain ⟨rfl, hrealm⟩ := Unsigned.unambiguous harea
  obtain ⟨rfl, rfl⟩ := Unsigned.unambiguous hrealm
  exact ⟨rfl, rfl⟩

/-- An answer in the layout of GET_METADATA. -/
def IsMetadataAnswer (payload : Bytes) : StreamMetadataResponse → Prop
  | .failure error => ∃ message, IsErrorResponse payload error message
  | .success metadata => ∃ m : EncodedMetadata, m.Plain ∧ payload = 0 :: m.bytes ∧
      metadata = some m.metadata

def MetadataStrict (payload : Bytes) : Prop :=
  ∀ response, decodeMetadataResponse payload = some response → IsMetadataAnswer payload response

/-- The payload does not end before the metadata, and metadata in it have plain flags and nothing
behind them. -/
def MetadataWhole (payload : Bytes) : Prop :=
  payload ≠ [0] ∧ ∀ (m : EncodedMetadata) rest, payload = 0 :: (m.bytes ++ rest) → m.Plain ∧
    rest = []

theorem decodeMetadataResponse_success {data : Bytes} (hne : data ≠ [])
    {response : StreamMetadataResponse} :
    decodeMetadataResponse (0 :: data) = some response ↔
      ∃ (m : EncodedMetadata) (rest : Bytes), data = m.bytes ++ rest ∧
        response = .success (some m.metadata) := by
  have hlength : ¬ data.length = 0 := fun h => hne (List.length_eq_zero_iff.mp h)
  rw [decodeMetadataResponse, parseStandardResponse_eq_success_iff.mpr rfl]
  dsimp only
  rw [if_neg hlength, Option.map_eq_some_iff]
  constructor
  · rintro ⟨metadata, hread, rfl⟩
    obtain ⟨m, rest, hdata, rfl⟩ := readMetadata_reads.read_eq_some_iff_prefix.mp hread
    exact ⟨m, rest, hdata, rfl⟩
  · rintro ⟨m, rest, hdata, rfl⟩
    exact ⟨m.metadata, readMetadata_reads.read_eq_some_iff_prefix.mpr ⟨m, rest, hdata, rfl⟩, rfl⟩

theorem metadataStrict_iff : MetadataStrict payload ↔ MetadataWhole payload := by
  constructor
  · intro h
    refine ⟨?_, fun m rest hpayload => ?_⟩
    · rintro rfl
      obtain ⟨m, -, -, ⟨⟩⟩ := h (.success none) rfl
    · subst hpayload
      have hne : m.bytes ++ rest ≠ [] := List.cons_ne_nil _ _
      obtain ⟨m', hplain, hwhole, -⟩ :=
        h _ ((decodeMetadataResponse_success hne).mpr ⟨m, rest, rfl, rfl⟩)
      have hbytes : m.bytes ++ rest = m'.bytes ++ [] := by simpa using hwhole
      obtain ⟨rfl, hrest⟩ := EncodedMetadata.unambiguous hbytes
      exact ⟨hplain, hrest⟩
  · rintro ⟨hne, hwhole⟩ response hdecode
    obtain hparse | ⟨e, message, he, hparse⟩ | ⟨data, rfl, hparse⟩ :=
        parseStandardResponse_cases payload
    · rw [decodeMetadataResponse, hparse] at hdecode
      cases hdecode
    · rw [decodeMetadataResponse, hparse] at hdecode
      obtain ⟨⟩ := hdecode
      exact ⟨message, he⟩
    · have hdata : data ≠ [] := by
        rintro rfl
        exact hne rfl
      obtain ⟨m, rest, rfl, rfl⟩ := (decodeMetadataResponse_success hdata).mp hdecode
      obtain ⟨hplain, rfl⟩ := hwhole m rest rfl
      exact ⟨m, hplain, by rw [List.append_nil], rfl⟩

/-! ## Notifications -/

section

variable {τ : Type} (parse : JsString → Option τ) (empty : τ)

/-- `[u64 sub_id][string route][u32 length][payload]`. -/
def IsNotification (payload : Bytes) (notification : StreamNotification τ) : Prop :=
  ∃ (subId : Unsigned 8) (route data : Prefixed),
    payload = subId.bytes ++ route.bytes ++ data.bytes ∧
      notification = ⟨subId.val, route.text, data.val, parsedPayload parse empty data.val⟩

def NotificationStrict (payload : Bytes) : Prop :=
  ∀ notification, decodeNotification parse empty payload = some notification →
    IsNotification parse empty payload notification

/-- Nothing stands behind a notification. -/
def NotificationEnds (payload : Bytes) : Prop :=
  ∀ (subId : Unsigned 8) (route data : Prefixed) rest,
    payload = subId.bytes ++ route.bytes ++ data.bytes ++ rest → rest = []

/-- A notification is looked for at the beginning. -/
theorem decodeNotification_eq_some_iff {notification : StreamNotification τ} :
    decodeNotification parse empty payload = some notification ↔
      ∃ (subId : Unsigned 8) (route data : Prefixed) (rest : Bytes),
        payload = subId.bytes ++ route.bytes ++ data.bytes ++ rest ∧
          notification = ⟨subId.val, route.text, data.val, parsedPayload parse empty data.val⟩ := by
  have hreads : Reads anything (do
      let subId ← readU64BE
      let route ← readString
      let rawPayload ← do readBytes (← readU32BE)
      return (⟨subId, route, rawPayload, parsedPayload parse empty rawPayload⟩ :
        StreamNotification τ)) _ _ :=
    (readUBE_reads 8).bind fun subId => readString_reads.bind fun route =>
      readPrefixed_reads fun data => Reads.pure _
  refine hreads.read_eq_some_iff_prefix.trans ?_
  constructor
  · rintro ⟨⟨subId, route, data, ⟨⟩⟩, rest, rfl, rfl⟩
    exact ⟨subId, route, data, rest, by simp, rfl⟩
  · rintro ⟨subId, route, data, rest, rfl, rfl⟩
    exact ⟨⟨subId, route, data, ()⟩, rest, by simp, rfl⟩

theorem notificationStrict_iff :
    NotificationStrict parse empty payload ↔ NotificationEnds payload := by
  constructor
  · rintro h subId route data rest rfl
    obtain ⟨subId', route', data', hwhole, -⟩ :=
      h _ ((decodeNotification_eq_some_iff parse empty).mpr ⟨subId, route, data, rest, rfl, rfl⟩)
    rw [← List.append_nil (_ ++ data'.bytes)] at hwhole
    simp only [List.append_assoc] at hwhole
    obtain ⟨-, hroute⟩ := Unsigned.unambiguous hwhole
    obtain ⟨-, hdata⟩ := Prefixed.unambiguous hroute
    exact (Prefixed.unambiguous hdata).2
  · intro h notification hdecode
    obtain ⟨subId, route, data, rest, rfl, rfl⟩ :=
      (decodeNotification_eq_some_iff parse empty).mp hdecode
    obtain rfl := h subId route data rest rfl
    exact ⟨subId, route, data, List.append_nil _, rfl⟩

end

end FitzTs.Stream
