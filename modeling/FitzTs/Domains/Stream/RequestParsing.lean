import FitzTs.Core.BufferFormats
import FitzTs.Domains.Stream.Requests
import FitzTs.Lib.Utf8.RoundTrip
/-!
# FitzTs.Domains.Stream.RequestParsing

**Can requests be told apart?** Parsers of the layouts of APPEND and READ, and when they give back
the arguments that were encoded.

They do unless a `bigint` does not fit into 64 bits: it is sent modulo 2 ^ 64, and nothing refuses
it. What the format has no bytes for does not come back either: a surrogate that stands alone, which
is U+FFFD in UTF-8, and a length that four bytes do not hold.

## Main result

* `requests_recovered_iff` — the arguments that the layout gives back.
-/

namespace FitzTs.Stream

open Buffer JsString Reading
open BufferWriter (sent)
open FrameCodec (JsNumber)

/-! ## Parsing -/

def readLengthAndBytes : Reader Bytes := do
  readBytes (← readU32BE)

def readBigint : Reader Int := do
  let n ← readU64BE
  return (n : Int)

/-- A number of values, and so many of them. -/
def readList {α : Type} (m : Reader α) : Reader (List α) := do
  let count ← readU32BE
  many m count

/-- A flag, 0 or 1, and the value if there is one. -/
def readOptional {α : Type} (m : Reader α) : Reader (Option α) := do
  match ← readU8 with
  | 0 => return none
  | 1 => return some (← m)
  | _ => failure

def parseAppendWire (payload : Bytes) : Option (AppendArguments Bytes) :=
  Reader.read (do
    let sessionId ← readBigint
    let expectedOffset ← readBigint
    let body ← readLengthAndBytes
    let metadata ← readOptional readLengthAndBytes
    let discriminator ← readOptional readLengthAndBytes
    let eof ← isEOF
    guard (eof = true)
    return { sessionId, expectedOffset, body, metadata, discriminator }) payload

def readFilterClause : Reader (StreamFilterClause Bytes) := do
  match ← readU8 with
  | 0 => return .equals (← readLengthAndBytes)
  | 1 => return .notEquals (← readLengthAndBytes)
  | 2 => return .startsWith (← readLengthAndBytes)
  | 3 => return .anyOf (← readList readLengthAndBytes)
  | _ => failure

def readFilterSet : Reader (List (StreamFilterClause Bytes)) := do
  let version ← readU8
  guard (version = 0)
  let marker ← readU8
  guard (marker = 0xf1)
  let clauses ← readList readFilterClause
  let eof ← isEOF
  guard (eof = true)
  return clauses

/-- A value, or the end. -/
def orFail {α : Type} : Option α → Reader α
  | none => failure
  | some a => return a

/-- The clauses of a filter, behind their length. -/
def readFilter : Reader (List (StreamFilterClause Bytes)) := do
  let bytes ← readLengthAndBytes
  orFail (Reader.read readFilterSet bytes)

def parseReadWire (payload : Bytes) : Option (ReadArguments Bytes) :=
  Reader.read (do
    let route ← readLengthAndBytes
    let startOffset ← readBigint
    let limit ← readU64BE
    let maxBytes ← readOptional readBigint
    let filter ← readOptional readFilter
    let cursorFingerprint ← readOptional readBigint
    let capturedWatermark ← readOptional readBigint
    let eof ← isEOF
    guard (eof = true)
    return {
      route
      startOffset
      limit := .integer limit
      maxBytes
      filter
      cursorFingerprint
      capturedWatermark }) payload

/-- The strings of the wire, if all of it is UTF-8. -/
def AppendArguments.decoded (w : AppendArguments Bytes) : Option (AppendArguments JsString) :=
  let a := w.map utf8DecodeMarked
  if a.map utf8Encode = w then some a else none

def ReadArguments.decoded (w : ReadArguments Bytes) : Option (ReadArguments JsString) :=
  let a := w.map utf8DecodeMarked
  if a.map utf8Encode = w then some a else none

/-- The arguments that the layout of APPEND gives. -/
def parseAppend (payload : Bytes) : Option (AppendArguments JsString) :=
  (parseAppendWire payload).bind AppendArguments.decoded

/-- The arguments that the layout of READ gives. -/
def parseRead (payload : Bytes) : Option (ReadArguments JsString) :=
  (parseReadWire payload).bind ReadArguments.decoded

/-! ## What the parsers accept -/

/-- It fits into a field of 64 bits. -/
def FitsU64 (n : Int) : Prop := 0 ≤ n ∧ n < 2 ^ 64

/-- Its length fits into four bytes. -/
def FitsLength (data : Bytes) : Prop := data.length < 2 ^ 32

def StreamFilterClause.Fits : StreamFilterClause Bytes → Prop
  | equals value | notEquals value | startsWith value => FitsLength value
  | anyOf values => values.length < 2 ^ 32 ∧ ∀ value ∈ values, FitsLength value

structure FilterFits (clauses : List (StreamFilterClause Bytes)) : Prop where
  count : clauses.length < 2 ^ 32
  clause : ∀ clause ∈ clauses, clause.Fits
  length : FitsLength (filterSetBytes clauses)

structure AppendArguments.Fits (a : AppendArguments Bytes) : Prop where
  sessionId : FitsU64 a.sessionId
  expectedOffset : FitsU64 a.expectedOffset
  body : FitsLength a.body
  metadata : ∀ data ∈ a.metadata, FitsLength data
  discriminator : ∀ data ∈ a.discriminator, FitsLength data

structure ReadArguments.Fits (a : ReadArguments Bytes) : Prop where
  route : FitsLength a.route
  startOffset : FitsU64 a.startOffset
  maxBytes : ∀ n ∈ a.maxBytes, FitsU64 n
  filter : ∀ clauses ∈ a.filter, FilterFits clauses
  cursorFingerprint : ∀ n ∈ a.cursorFingerprint, FitsU64 n
  capturedWatermark : ∀ n ∈ a.capturedWatermark, FitsU64 n

/-- The parser accepts the encodings of the values that fit. -/
def Parses {α : Type} (m : Reader α) (fits : α → Prop) (encode : α → Bytes) : Prop :=
  Reads anything m (fun a : {a // fits a} => encode a.val) (·.val)

theorem readLengthAndBytes_parses :
    Parses readLengthAndBytes FitsLength writeLengthAndBytes :=
  readLengthAndBytes_reads

theorem readBigint_parses : Parses readBigint FitsU64 fun n => writeU64BE (sent n) := by
  refine Reads.congr ((readUBE_reads 8).map fun n => (n : Int)) ?_ ?_
  · rintro ⟨n, hn⟩
    have hfits : FitsU64 n := ⟨by omega, by exact_mod_cast hn⟩
    refine ⟨⟨n, hfits⟩, ?_, rfl⟩
    have hsent : sent n = n := by
      rw [sent, Int.emod_eq_of_lt hfits.1 hfits.2, Int.toNat_natCast]
    simp only [hsent]
    rfl
  · rintro ⟨n, hn⟩
    have hsent : sent n = n.toNat := by rw [sent, Int.emod_eq_of_lt hn.1 hn.2]
    have hlt : n.toNat < 256 ^ 8 := (Int.toNat_lt hn.1).mpr (by simpa using hn.2)
    refine ⟨⟨n.toNat, hlt⟩, ?_, Int.toNat_of_nonneg hn.1⟩
    simp only [hsent]
    rfl

theorem readOptional_parses {α : Type} {m : Reader α} {fits : α → Prop} {encode : α → Bytes}
    (hm : Parses m fits encode) :
    Parses (readOptional m) (fun value => ∀ a ∈ value, fits a)
      (fun value => value.elim [0] (1 :: encode ·)) := by
  have hsome := hm.map some
  intro input value rest
  unfold readOptional
  rw [readTag_eq_some]
  constructor
  · rintro ⟨tag, middle, -, rfl, h⟩
    split at h
    case h_1 =>
      obtain ⟨⟩ := h
      exact ⟨trivial, ⟨none, by simp⟩, rfl, rfl⟩
    case h_2 =>
      obtain ⟨-, ⟨a, ha⟩, rfl, rfl⟩ := (hsome _ _ _).mp h
      exact ⟨trivial, ⟨some a, by simpa using ha⟩, rfl, rfl⟩
    case h_3 => cases h
  · rintro ⟨-, ⟨value, hvalue⟩, rfl, rfl⟩
    cases value with
    | none => exact ⟨0, rest, by decide, rfl, rfl⟩
    | some a =>
        exact ⟨1, _, by decide, rfl, (hsome _ _ _).mpr ⟨trivial, ⟨a, hvalue a rfl⟩, rfl, rfl⟩⟩

theorem readList_parses {α : Type} {m : Reader α} {fits : α → Prop} {encode : α → Bytes}
    (hm : Parses m fits encode) :
    Parses (readList m)
      (fun values => values.length < 2 ^ 32 ∧ ∀ a ∈ values, fits a)
      (fun values => writeU32BE values.length ++ values.flatMap encode) := by
  refine Reads.congr ((readUBE_reads 4).bind fun count => Reads.many hm count.val) ?_ ?_
  · rintro ⟨⟨count, hcount⟩, ⟨values, hlength⟩⟩
    have hlength : values.length = count := hlength
    refine ⟨⟨values.map (·.val), by simpa [hlength] using hcount, fun a ha => ?_⟩, ?_, rfl⟩
    · obtain ⟨value, -, rfl⟩ := List.mem_map.mp ha
      exact value.2
    · simp only [List.length_map, hlength, List.flatMap_map]
      rfl
  · rintro ⟨values, hcount, hvalues⟩
    obtain ⟨raws, rfl⟩ : ∃ raws : List {a // fits a}, raws.map (·.val) = values :=
      ⟨values.attachWith fits hvalues, List.attachWith_map_subtype_val ..⟩
    rw [List.length_map] at hcount
    refine ⟨⟨⟨raws.length, hcount⟩, ⟨raws, rfl⟩⟩, ?_, rfl⟩
    simp only [List.length_map, List.flatMap_map]
    rfl

theorem readFilterClause_parses :
    Parses readFilterClause StreamFilterClause.Fits StreamFilterClause.bytes := by
  have hvalue : ∀ clause : Bytes → StreamFilterClause Bytes,
      Reads anything (do return clause (← readLengthAndBytes)) _ _ := fun clause =>
    readLengthAndBytes_parses.map clause
  have hvalues : Reads anything (do
      return StreamFilterClause.anyOf (← readList readLengthAndBytes)) _ _ :=
    (readList_parses readLengthAndBytes_parses).map _
  intro input clause rest
  unfold readFilterClause
  rw [readTag_eq_some]
  constructor
  · rintro ⟨tag, middle, -, rfl, h⟩
    split at h
    case h_1 =>
      obtain ⟨-, ⟨value, hfits⟩, rfl, rfl⟩ := (hvalue .equals _ _ _).mp h
      exact ⟨trivial, ⟨.equals value, hfits⟩, rfl, rfl⟩
    case h_2 =>
      obtain ⟨-, ⟨value, hfits⟩, rfl, rfl⟩ := (hvalue .notEquals _ _ _).mp h
      exact ⟨trivial, ⟨.notEquals value, hfits⟩, rfl, rfl⟩
    case h_3 =>
      obtain ⟨-, ⟨value, hfits⟩, rfl, rfl⟩ := (hvalue .startsWith _ _ _).mp h
      exact ⟨trivial, ⟨.startsWith value, hfits⟩, rfl, rfl⟩
    case h_4 =>
      obtain ⟨-, ⟨values, hfits⟩, rfl, rfl⟩ := (hvalues _ _ _).mp h
      exact ⟨trivial, ⟨.anyOf values, hfits⟩, rfl, rfl⟩
    case h_5 => cases h
  · rintro ⟨-, ⟨clause, hfits⟩, rfl, rfl⟩
    match clause with
    | .equals value =>
      exact ⟨0, _, by decide, rfl, (hvalue _ _ _ _).mpr ⟨trivial, ⟨value, hfits⟩, rfl, rfl⟩⟩
    | .notEquals value =>
      exact ⟨1, _, by decide, rfl, (hvalue _ _ _ _).mpr ⟨trivial, ⟨value, hfits⟩, rfl, rfl⟩⟩
    | .startsWith value =>
      exact ⟨2, _, by decide, rfl, (hvalue _ _ _ _).mpr ⟨trivial, ⟨value, hfits⟩, rfl, rfl⟩⟩
    | .anyOf values =>
      exact ⟨3, _, by decide, rfl, (hvalues _ _ _).mpr ⟨trivial, ⟨values, hfits⟩, rfl, rfl⟩⟩

/-- The bytes of a filter are all of them. -/
theorem read_readFilterSet_iff {bytes : Bytes} {clauses : List (StreamFilterClause Bytes)} :
    Reader.read readFilterSet bytes = some clauses ↔
      (clauses.length < 2 ^ 32 ∧ ∀ clause ∈ clauses, clause.Fits) ∧
        bytes = filterSetBytes clauses := by
  have hreads : Reads nothing readFilterSet _ _ :=
    readU8_reads.bind fun version => (Reads.check _).bind fun _ =>
      readU8_reads.bind fun marker => (Reads.check _).bind fun _ =>
        (readList_parses readFilterClause_parses).bind fun clauses => Reads.finish clauses.val
  refine hreads.read_eq_some_iff.trans ?_
  constructor
  · rintro ⟨⟨version, ⟨hversion⟩, marker, ⟨hmarker⟩, ⟨clauses, hfits⟩, ⟨⟩⟩, rfl, rfl⟩
    obtain rfl : version = 0 := UInt8.toNat_inj.mp hversion
    obtain rfl : marker = 0xf1 := UInt8.toNat_inj.mp hmarker
    exact ⟨hfits, by simp [filterSetBytes]; rfl⟩
  · rintro ⟨hfits, rfl⟩
    exact ⟨⟨0, ⟨rfl⟩, 0xf1, ⟨rfl⟩, ⟨clauses, hfits⟩, ()⟩, by simp [filterSetBytes]; rfl, rfl⟩

theorem orFail_eq_some {α : Type} {value : Option α} {a : α} {input rest : Bytes} :
    orFail value input = some (a, rest) ↔ value = some a ∧ input = rest := by
  cases value with
  | none => exact iff_of_false (fun h => by cases h) fun h => by cases h.1
  | some b =>
      change some (b, input) = _ ↔ _
      rw [Option.some.injEq, Option.some.injEq, Prod.mk.injEq]

theorem readFilter_parses :
    Parses readFilter FilterFits (fun clauses => writeLengthAndBytes (filterSetBytes clauses)) := by
  intro input clauses rest
  unfold readFilter
  rw [Reading.bind_eq_some]
  constructor
  · rintro ⟨bytes, middle, hbytes, h⟩
    obtain ⟨-, ⟨bytes, hlength⟩, rfl, rfl⟩ := (readLengthAndBytes_parses _ _ _).mp hbytes
    obtain ⟨hset, rfl⟩ := orFail_eq_some.mp h
    obtain ⟨⟨hcount, hclauses⟩, rfl⟩ := read_readFilterSet_iff.mp hset
    exact ⟨trivial, ⟨clauses, hcount, hclauses, hlength⟩, rfl, rfl⟩
  · rintro ⟨-, ⟨clauses, hfits⟩, rfl, rfl⟩
    have hset := read_readFilterSet_iff.mpr ⟨⟨hfits.count, hfits.clause⟩, rfl⟩
    exact ⟨filterSetBytes clauses, rest, (readLengthAndBytes_parses _ _ _).mpr
      ⟨trivial, ⟨_, hfits.length⟩, rfl, rfl⟩, orFail_eq_some.mpr ⟨hset, rfl⟩⟩

theorem optionalBytes_eq (data : Option Bytes) :
    data.elim [0] (1 :: writeLengthAndBytes ·) = writeOptionalBytes data := by
  cases data <;> rfl

theorem optionalU64_eq (n : Option Int) :
    n.elim [0] (fun n => 1 :: writeU64BE (sent n)) = writeOptionalU64 (n.map sent) := by
  cases n <;> rfl

/-- **What the parser of APPEND accepts.** -/
theorem parseAppendWire_eq_some_iff {payload : Bytes} {a : AppendArguments Bytes} :
    parseAppendWire payload = some a ↔ a.Fits ∧ payload = a.bytes := by
  have hdata := readOptional_parses readLengthAndBytes_parses
  have hreads : Reads nothing (do
      let sessionId ← readBigint
      let expectedOffset ← readBigint
      let body ← readLengthAndBytes
      let metadata ← readOptional readLengthAndBytes
      let discriminator ← readOptional readLengthAndBytes
      let eof ← isEOF
      guard (eof = true)
      return ({ sessionId, expectedOffset, body, metadata, discriminator } :
        AppendArguments Bytes)) _ _ :=
    readBigint_parses.bind fun sessionId => readBigint_parses.bind fun expectedOffset =>
      readLengthAndBytes_parses.bind fun body => hdata.bind fun metadata =>
        hdata.bind fun discriminator => Reads.finish (AppendArguments.mk sessionId.val
          expectedOffset.val body.val metadata.val discriminator.val)
  refine hreads.read_eq_some_iff.trans ?_
  constructor
  · rintro ⟨⟨⟨_, hsession⟩, ⟨_, hoffset⟩, ⟨_, hbody⟩, ⟨_, hmetadata⟩, ⟨_, hdiscriminator⟩, ⟨⟩⟩, rfl,
      rfl⟩
    refine ⟨⟨hsession, hoffset, hbody, hmetadata, hdiscriminator⟩, ?_⟩
    simp [AppendArguments.bytes, optionalBytes_eq]
  · rintro ⟨⟨hsession, hoffset, hbody, hmetadata, hdiscriminator⟩, rfl⟩
    refine ⟨⟨⟨_, hsession⟩, ⟨_, hoffset⟩, ⟨_, hbody⟩, ⟨_, hmetadata⟩, ⟨_, hdiscriminator⟩, ()⟩, ?_,
      rfl⟩
    simp [AppendArguments.bytes, optionalBytes_eq]

/-- **What the parser of READ accepts.** -/
theorem parseReadWire_eq_some_iff {payload : Bytes} {a : ReadArguments Bytes} :
    parseReadWire payload = some a ↔
      a.Fits ∧ ∃ limit : Nat, limit < 2 ^ 64 ∧ a.limit = .integer limit ∧
        payload = a.bytes limit := by
  have hnumber := readOptional_parses readBigint_parses
  -- the parser, field by field
  have hreads : Reads nothing (do
      let route ← readLengthAndBytes
      let startOffset ← readBigint
      let limit ← readU64BE
      let maxBytes ← readOptional readBigint
      let filter ← readOptional readFilter
      let cursorFingerprint ← readOptional readBigint
      let capturedWatermark ← readOptional readBigint
      let eof ← isEOF
      guard (eof = true)
      return ({
        route
        startOffset
        limit := .integer limit
        maxBytes
        filter
        cursorFingerprint
        capturedWatermark } : ReadArguments Bytes)) _ _ :=
    readLengthAndBytes_parses.bind fun route => readBigint_parses.bind fun startOffset =>
      (readUBE_reads 8).bind fun limit => hnumber.bind fun maxBytes =>
        (readOptional_parses readFilter_parses).bind fun filter =>
          hnumber.bind fun cursorFingerprint => hnumber.bind fun capturedWatermark =>
            Reads.finish (ReadArguments.mk route.val startOffset.val (.integer limit.val)
              maxBytes.val filter.val cursorFingerprint.val capturedWatermark.val)
  have hfilter : ∀ filter : Option (List (StreamFilterClause Bytes)),
      filter.elim [0] (fun clauses => 1 :: writeLengthAndBytes (filterSetBytes clauses)) =
        writeOptionalBytes (filter.map filterSetBytes) := by
    intro filter
    cases filter <;> rfl
  refine hreads.read_eq_some_iff.trans ?_
  constructor
  · rintro ⟨⟨⟨_, hroute⟩, ⟨_, hstart⟩, ⟨limit, hlimit⟩, ⟨_, hmax⟩, ⟨_, hclauses⟩, ⟨_, hfingerprint⟩,
      ⟨_, hwatermark⟩, ⟨⟩⟩, rfl, rfl⟩
    refine ⟨⟨hroute, hstart, hmax, hclauses, hfingerprint, hwatermark⟩, limit, hlimit, rfl, ?_⟩
    simp [ReadArguments.bytes, hfilter, optionalU64_eq]
    rfl
  · obtain ⟨route, startOffset, limit, maxBytes, filter, fingerprint, watermark⟩ := a
    rintro ⟨⟨hroute, hstart, hmax, hclauses, hfingerprint, hwatermark⟩, limit, hlimit, hinteger,
      rfl⟩
    obtain rfl := hinteger
    refine ⟨⟨⟨_, hroute⟩, ⟨_, hstart⟩, ⟨limit, hlimit⟩, ⟨_, hmax⟩, ⟨_, hclauses⟩, ⟨_, hfingerprint⟩,
      ⟨_, hwatermark⟩, ()⟩, ?_, rfl⟩
    simp [ReadArguments.bytes, hfilter, optionalU64_eq]
    rfl

/-! ## The strings -/

section

variable {σ : Type} {f : σ → σ}

def StreamFilterClause.strings : StreamFilterClause σ → List σ
  | equals value | notEquals value | startsWith value => [value]
  | anyOf values => values

def AppendArguments.strings (a : AppendArguments σ) : List σ := a.discriminator.toList

def ReadArguments.strings (a : ReadArguments σ) : List σ :=
  a.route :: a.filter.elim [] (·.flatMap StreamFilterClause.strings)

theorem map_eq_self_iff {values : List σ} : values.map f = values ↔ ∀ s ∈ values, f s = s := by
  rw [← List.map_inj_left, List.map_id']

theorem StreamFilterClause.map_eq_self_iff {clause : StreamFilterClause σ} :
    clause.map f = clause ↔ ∀ s ∈ clause.strings, f s = s := by
  cases clause with
  | equals value | notEquals value | startsWith value => simp [map, strings]
  | anyOf values => rw [map, anyOf.injEq, Stream.map_eq_self_iff, strings]

theorem AppendArguments.map_eq_self_iff {a : AppendArguments σ} :
    a.map f = a ↔ ∀ s ∈ a.strings, f s = s := by
  obtain ⟨sessionId, expectedOffset, body, metadata, discriminator⟩ := a
  cases discriminator <;> simp [map, strings]

theorem ReadArguments.map_eq_self_iff {a : ReadArguments σ} :
    a.map f = a ↔ ∀ s ∈ a.strings, f s = s := by
  obtain ⟨route, startOffset, limit, maxBytes, filter, fingerprint, watermark⟩ := a
  cases filter with
  | none => simp [map, strings]
  | some clauses =>
      have hclauses : clauses.map (·.map f) = clauses ↔
          ∀ clause ∈ clauses, ∀ s ∈ clause.strings, f s = s := by
        rw [Stream.map_eq_self_iff]
        exact forall₂_congr fun _ _ => StreamFilterClause.map_eq_self_iff
      simp only [map, strings, mk.injEq, Option.map_some, Option.some.injEq, and_true, true_and,
        Option.elim_some, List.mem_cons, List.mem_flatMap, forall_eq_or_imp, hclauses]
      refine and_congr_right fun _ => ⟨fun h s hex => ?_,
        fun h clause hmem s hs => h s ⟨clause, hmem, hs⟩⟩
      obtain ⟨clause, hmem, hs⟩ := hex
      exact h clause hmem s hs

end

/-! ## The arguments of a request -/

/-- What is sent gives the arguments back; nothing is sent otherwise. -/
def AppendArguments.Recovered (a : AppendArguments JsString) : Prop :=
  ∀ payload, encodeAppend a = some payload → parseAppend payload = some a.normalized

def ReadArguments.Recovered (a : ReadArguments JsString) : Prop :=
  ∀ payload, encodeRead a = some payload → parseRead payload = some a.normalized

/-- Its numbers and lengths fit, and no surrogate stands alone in it. -/
structure AppendArguments.Representable (a : AppendArguments JsString) : Prop where
  fits : a.wire.Fits
  wellFormed : ∀ s ∈ a.normalized.strings, isWellFormed s = true

structure ReadArguments.Representable (a : ReadArguments JsString) : Prop where
  fits : a.wire.Fits
  wellFormed : ∀ s ∈ a.normalized.strings, isWellFormed s = true

theorem AppendArguments.map_map {σ τ υ : Type} (f : σ → τ) (g : τ → υ) (a : AppendArguments σ) :
    (a.map f).map g = a.map (g ∘ f) := by
  obtain ⟨sessionId, expectedOffset, body, metadata, discriminator⟩ := a
  cases discriminator <;> rfl

theorem ReadArguments.map_map {σ τ υ : Type} (f : σ → τ) (g : τ → υ) (a : ReadArguments σ) :
    (a.map f).map g = a.map (g ∘ f) := by
  have hclause : ∀ clause : StreamFilterClause σ, (clause.map f).map g = clause.map (g ∘ f) := by
    intro clause
    cases clause with
    | equals value | notEquals value | startsWith value => rfl
    | anyOf values => simp [StreamFilterClause.map]
  obtain ⟨route, startOffset, limit, maxBytes, filter, fingerprint, watermark⟩ := a
  cases filter with
  | none => rfl
  | some clauses => simp [map, hclause]

theorem AppendArguments.decoded_eq_some_iff {w : AppendArguments Bytes}
    {a : AppendArguments JsString} :
    w.decoded = some a ↔ w = a.map utf8Encode ∧ ∀ s ∈ a.strings, isWellFormed s = true := by
  have hstrings : (a.map utf8Encode).map utf8DecodeMarked = a ↔
      ∀ s ∈ a.strings, isWellFormed s = true := by
    rw [map_map, map_eq_self_iff]
    exact forall₂_congr fun _ _ => utf8DecodeMarked_eq_self_iff
  rw [decoded, Option.ite_none_right_eq_some, Option.some.injEq, ← hstrings]
  constructor
  · rintro ⟨hw, rfl⟩
    exact ⟨hw.symm, congrArg _ hw⟩
  · rintro ⟨rfl, ha⟩
    exact ⟨congrArg _ ha, ha⟩

theorem ReadArguments.decoded_eq_some_iff {w : ReadArguments Bytes} {a : ReadArguments JsString} :
    w.decoded = some a ↔ w = a.map utf8Encode ∧ ∀ s ∈ a.strings, isWellFormed s = true := by
  have hstrings : (a.map utf8Encode).map utf8DecodeMarked = a ↔
      ∀ s ∈ a.strings, isWellFormed s = true := by
    rw [map_map, map_eq_self_iff]
    exact forall₂_congr fun _ _ => utf8DecodeMarked_eq_self_iff
  rw [decoded, Option.ite_none_right_eq_some, Option.some.injEq, ← hstrings]
  constructor
  · rintro ⟨hw, rfl⟩
    exact ⟨hw.symm, congrArg _ hw⟩
  · rintro ⟨rfl, ha⟩
    exact ⟨congrArg _ ha, ha⟩

/-- APPEND is sent for all arguments. -/
theorem AppendArguments.recovered_iff (a : AppendArguments JsString) :
    a.Recovered ↔ a.Representable := by
  have hpayload : a.Recovered ↔ parseAppend a.wire.bytes = some a.normalized := by
    simp only [Recovered, encodeAppend_eq, Option.some.injEq, forall_eq']
  rw [hpayload, parseAppend, Option.bind_eq_some_iff]
  constructor
  · rintro ⟨w, hparse, hdecoded⟩
    obtain ⟨hfits, -⟩ := parseAppendWire_eq_some_iff.mp hparse
    obtain ⟨rfl, hstrings⟩ := decoded_eq_some_iff.mp hdecoded
    exact ⟨hfits, hstrings⟩
  · intro h
    exact ⟨a.wire, parseAppendWire_eq_some_iff.mpr ⟨h.fits, rfl⟩,
      decoded_eq_some_iff.mpr ⟨rfl, h.wellFormed⟩⟩

/-- READ is refused for a limit that is no safe integer. -/
theorem ReadArguments.recovered_iff (a : ReadArguments JsString) :
    a.Recovered ↔ a.limit.upTo BufferWriter.MAX_SAFE_INTEGER = none ∨ a.Representable := by
  cases hlimit : a.limit.upTo BufferWriter.MAX_SAFE_INTEGER with
  | none =>
      have hrefused : encodeRead a = none := by rw [encodeRead_eq, hlimit, Option.map_none]
      refine iff_of_true (fun payload hpayload => ?_) (.inl rfl)
      rw [hrefused] at hpayload
      cases hpayload
  | some limit =>
      obtain ⟨hinteger, hmax⟩ := JsNumber.upTo_eq_some.mp hlimit
      have hpayload : a.Recovered ↔ parseRead (a.wire.bytes limit) = some a.normalized := by
        simp only [Recovered, encodeRead_eq, hlimit, Option.map_some, Option.some.injEq, forall_eq']
      rw [hpayload, parseRead, Option.bind_eq_some_iff, or_iff_right (Option.some_ne_none _)]
      constructor
      · rintro ⟨w, hparse, hdecoded⟩
        obtain ⟨hfits, -⟩ := parseReadWire_eq_some_iff.mp hparse
        obtain ⟨rfl, hstrings⟩ := decoded_eq_some_iff.mp hdecoded
        exact ⟨hfits, hstrings⟩
      · intro h
        have hlt : limit < 2 ^ 64 := lt_of_le_of_lt hmax (by decide)
        exact ⟨a.wire, parseReadWire_eq_some_iff.mpr ⟨h.fits, limit, hlt, hinteger, rfl⟩,
          decoded_eq_some_iff.mpr ⟨rfl, h.wellFormed⟩⟩

theorem AppendArguments.Recovered.normalized_eq {a a' : AppendArguments JsString} {payload : Bytes}
    (h : a.Recovered) (h' : a'.Recovered) (hsent : encodeAppend a = some payload)
    (hsent' : encodeAppend a' = some payload) : a.normalized = a'.normalized :=
  Option.some.inj ((h payload hsent).symm.trans (h' payload hsent'))

theorem ReadArguments.Recovered.normalized_eq {a a' : ReadArguments JsString} {payload : Bytes}
    (h : a.Recovered) (h' : a'.Recovered) (hsent : encodeRead a = some payload)
    (hsent' : encodeRead a' = some payload) : a.normalized = a'.normalized :=
  Option.some.inj ((h payload hsent).symm.trans (h' payload hsent'))

/-- **The layout gives the arguments of a request back** exactly if its numbers and lengths fit
and no surrogate stands alone in it, or it is refused for its limit. Such requests are not sent as
the same bytes unless they ask for the same. -/
theorem requests_recovered_iff (a a' : AppendArguments JsString) (r r' : ReadArguments JsString)
    (payload : Bytes) :
    (a.Recovered ↔ a.Representable) ∧
      (r.Recovered ↔
        r.limit.upTo BufferWriter.MAX_SAFE_INTEGER = none ∨ r.Representable) ∧
      (a.Representable → a'.Representable → encodeAppend a = some payload →
        encodeAppend a' = some payload → a.normalized = a'.normalized) ∧
      (r.Representable → r'.Representable → encodeRead r = some payload →
        encodeRead r' = some payload → r.normalized = r'.normalized) := by
  refine ⟨a.recovered_iff, r.recovered_iff, fun h h' hsent hsent' => ?_,
    fun h h' hsent hsent' => ?_⟩
  · exact (a.recovered_iff.mpr h).normalized_eq (a'.recovered_iff.mpr h') hsent hsent'
  · exact (r.recovered_iff.mpr (.inr h)).normalized_eq (r'.recovered_iff.mpr (.inr h')) hsent hsent'

/-- An APPEND that expects the offset. -/
def expecting (expectedOffset : Int) : AppendArguments JsString :=
  { sessionId := 1, expectedOffset, body := [], metadata := none, discriminator := none }

/-- A READ of what equals the value. -/
def selecting (value : JsString) : ReadArguments JsString where
  route := []
  startOffset := 0
  limit := .integer 1
  maxBytes := none
  filter := some [.equals value]
  cursorFingerprint := none
  capturedWatermark := none

/-- To expect the offset -1 is sent as to expect the offset 2 ^ 64 - 1; a surrogate that stands
alone is sent as U+FFFD. -/
theorem not_requests_recovered :
    encodeAppend (expecting (-1)) = encodeAppend (expecting (2 ^ 64 - 1)) ∧
      (expecting (-1)).normalized ≠ (expecting (2 ^ 64 - 1)).normalized ∧
      ¬ (expecting (-1)).Recovered ∧
      encodeRead (selecting [0xd800]) = encodeRead (selecting [0xfffd]) ∧
      (selecting [0xd800]).normalized ≠ (selecting [0xfffd]).normalized ∧
      ¬ (selecting [0xd800]).Recovered := by
  have hoffset : encodeAppend (expecting (-1)) = encodeAppend (expecting (2 ^ 64 - 1)) := by
    decide +kernel
  have hvalue : encodeRead (selecting [0xd800]) = encodeRead (selecting [0xfffd]) := by
    decide +kernel
  refine ⟨hoffset, by decide, fun h => ?_, hvalue, by decide, fun h => ?_⟩
  · exact absurd ((AppendArguments.recovered_iff _).mp h).fits.expectedOffset.1 (by decide)
  · have hstrings := ((ReadArguments.recovered_iff _).mp h).resolve_left (by decide)
    exact absurd (hstrings.wellFormed [0xd800] (by decide)) (by decide)

end FitzTs.Stream
