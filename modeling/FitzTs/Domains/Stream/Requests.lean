import FitzTs.Core.BufferAt
import FitzTs.Core.BufferRoundTrip
/-!
# FitzTs.Domains.Stream.Requests

The requests of `domains/stream/codec.ts`: `encodeAppend`,

`[u64 session_id][u64 expected_offset][u32 length][body][optional metadata][optional discriminator]`

and `encodeRead`,

`[route][u64 start][u64 limit][optional u64 max_bytes][optional filter][optional u64 fingerprint]`
`[optional u64 watermark]`,

where a filter is `[u8 0][u8 0xf1][u32 count]` and the clauses behind its length.

The size of the buffer is computed before anything is written. It is always that of the layout
(`encodeAppend_eq`, `encodeRead_eq`): nothing is refused but a limit, and a `bigint` is sent modulo
2 ^ 64.
-/

namespace FitzTs.Stream

open Buffer JsString
open FrameCodec (JsNumber)

/-! ## Arguments -/

/-- A clause of a filter, with its strings of type `σ`. -/
inductive StreamFilterClause (σ : Type)
  | equals (value : σ)
  | notEquals (value : σ)
  | startsWith (value : σ)
  | anyOf (values : List σ)
  deriving DecidableEq, Repr

/-- The arguments of `encodeAppend`. -/
structure AppendArguments (σ : Type) where
  sessionId : Int
  expectedOffset : Int
  body : Bytes
  metadata : Option Bytes
  discriminator : Option σ
  deriving DecidableEq, Repr

/-- The arguments of `encodeRead`. -/
structure ReadArguments (σ : Type) where
  route : σ
  startOffset : Int
  limit : JsNumber
  maxBytes : Option Int
  filter : Option (List (StreamFilterClause σ))
  cursorFingerprint : Option Int
  capturedWatermark : Option Int
  deriving DecidableEq, Repr

section

variable {σ τ : Type}

def StreamFilterClause.map (f : σ → τ) : StreamFilterClause σ → StreamFilterClause τ
  | equals value => equals (f value)
  | notEquals value => notEquals (f value)
  | startsWith value => startsWith (f value)
  | anyOf values => anyOf (values.map f)

def AppendArguments.map (f : σ → τ) (a : AppendArguments σ) : AppendArguments τ where
  sessionId := a.sessionId
  expectedOffset := a.expectedOffset
  body := a.body
  metadata := a.metadata
  discriminator := a.discriminator.map f

def ReadArguments.map (f : σ → τ) (a : ReadArguments σ) : ReadArguments τ where
  route := f a.route
  startOffset := a.startOffset
  limit := a.limit
  maxBytes := a.maxBytes
  filter := a.filter.map (·.map (·.map f))
  cursorFingerprint := a.cursorFingerprint
  capturedWatermark := a.capturedWatermark

end

/-- Without an empty discriminator. -/
def AppendArguments.normalized (a : AppendArguments JsString) : AppendArguments JsString :=
  { a with discriminator := a.discriminator.filter (·.length > 0) }

/-- Without an empty filter. -/
def ReadArguments.normalized (a : ReadArguments JsString) : ReadArguments JsString :=
  { a with filter := a.filter.filter (·.length > 0) }

/-! ## Encoding -/

/-- `encodeStreamFilterClause(writer, clause)`. -/
def encodeStreamFilterClause (w : BufferWriter) : StreamFilterClause JsString → BufferWriter
  | .equals value => (w.writeU8 0).writeString value
  | .notEquals value => (w.writeU8 1).writeString value
  | .startsWith value => (w.writeU8 2).writeString value
  | .anyOf values =>
    values.foldl BufferWriter.writeString ((w.writeU8 3).writeU32BE values.length)

/-- `encodeStreamFilterSet(filter, writer)`. -/
def encodeStreamFilterSet (clauses : List (StreamFilterClause JsString)) (w : BufferWriter) :
    BufferWriter :=
  clauses.foldl encodeStreamFilterClause
    (((w.writeU8 0).writeU8 0xf1).writeU32BE clauses.length)

/-- `encodeAppend`; `none` for a `RangeError`. -/
def encodeAppend (a : AppendArguments JsString) : Option Bytes := do
  let discriminatorBytes := (a.discriminator.filter (·.length > 0)).map utf8Encode
  let w := BufferWriter.create (8 + 8 + 4 + a.body.length + 1 +
    a.metadata.elim 0 (4 + ·.length) + 1 + discriminatorBytes.elim 0 (4 + ·.length))
  let w := w.store (BufferWriter.writeU64BEAt a.sessionId)
  let w := w.store (BufferWriter.writeU64BEAt a.expectedOffset)
  let w ← w.setLengthAndBytes a.body
  let w ← w.setOptionalBytes a.metadata
  let w ← w.setOptionalBytes discriminatorBytes
  return w.buffer

/-- `encodeRead`; `none` for a `RangeError`. -/
def encodeRead (a : ReadArguments JsString) : Option Bytes := do
  let routeBytes := writeRoute a.route
  let filterBytes := (a.filter.filter (·.length > 0)).map fun clauses =>
    (encodeStreamFilterSet clauses (BufferWriter.create 64)).getBuffer
  let w := BufferWriter.create (routeBytes.length + 8 + 8 + 1 + a.maxBytes.elim 0 (fun _ => 8) + 1 +
    filterBytes.elim 0 (4 + ·.length) + 1 + a.cursorFingerprint.elim 0 (fun _ => 8) + 1 +
    a.capturedWatermark.elim 0 (fun _ => 8))
  let w ← w.setBytes routeBytes
  let w := w.store (BufferWriter.writeU64BEAt a.startOffset)
  let limit ← BufferWriter.writeU64BENumberAt a.limit
  let w := w.store limit
  let w := w.storeOptionalU64 a.maxBytes
  let w ← w.setOptionalBytes filterBytes
  let w := w.storeOptionalU64 a.cursorFingerprint
  let w := w.storeOptionalU64 a.capturedWatermark
  return w.buffer

/-! ## The bytes of a request -/

open BufferWriter (sent)

def StreamFilterClause.bytes : StreamFilterClause Bytes → Bytes
  | equals value => writeU8 0 ++ writeLengthAndBytes value
  | notEquals value => writeU8 1 ++ writeLengthAndBytes value
  | startsWith value => writeU8 2 ++ writeLengthAndBytes value
  | anyOf values => writeU8 3 ++ writeU32BE values.length ++ values.flatMap writeLengthAndBytes

def filterSetBytes (clauses : List (StreamFilterClause Bytes)) : Bytes :=
  writeU8 0 ++ writeU8 0xf1 ++ writeU32BE clauses.length ++
    clauses.flatMap StreamFilterClause.bytes

def AppendArguments.bytes (a : AppendArguments Bytes) : Bytes :=
  writeU64BE (sent a.sessionId) ++ writeU64BE (sent a.expectedOffset) ++
    writeLengthAndBytes a.body ++ writeOptionalBytes a.metadata ++
    writeOptionalBytes a.discriminator

def ReadArguments.bytes (a : ReadArguments Bytes) (limit : Nat) : Bytes :=
  writeLengthAndBytes a.route ++ writeU64BE (sent a.startOffset) ++ writeU64BE limit ++
    writeOptionalU64 (a.maxBytes.map sent) ++ writeOptionalBytes (a.filter.map filterSetBytes) ++
    writeOptionalU64 (a.cursorFingerprint.map sent) ++
    writeOptionalU64 (a.capturedWatermark.map sent)

/-- The arguments with the UTF-8 of their strings. -/
def AppendArguments.wire (a : AppendArguments JsString) : AppendArguments Bytes :=
  a.normalized.map utf8Encode

def ReadArguments.wire (a : ReadArguments JsString) : ReadArguments Bytes :=
  a.normalized.map utf8Encode

section

variable {w : BufferWriter} {written : Bytes}

theorem holds_clause (h : w.Holds written) (clause : StreamFilterClause JsString) :
    (encodeStreamFilterClause w clause).Holds (written ++ (clause.map utf8Encode).bytes) := by
  have hvalues : ∀ {w : BufferWriter} {written : Bytes}, w.Holds written →
      ∀ values : List JsString, (values.foldl BufferWriter.writeString w).Holds
        (written ++ (values.map utf8Encode).flatMap writeLengthAndBytes) := by
    intro w written h values
    induction values generalizing w written with
    | nil => simpa using h
    | cons value values ih =>
        rw [List.foldl_cons, List.map_cons, List.flatMap_cons, ← List.append_assoc]
        exact ih (h.writeString value)
  cases clause with
  | equals value =>
      rw [StreamFilterClause.map, StreamFilterClause.bytes, ← List.append_assoc]
      exact (h.writeU8 0).writeString value
  | notEquals value =>
      rw [StreamFilterClause.map, StreamFilterClause.bytes, ← List.append_assoc]
      exact (h.writeU8 1).writeString value
  | startsWith value =>
      rw [StreamFilterClause.map, StreamFilterClause.bytes, ← List.append_assoc]
      exact (h.writeU8 2).writeString value
  | anyOf values =>
      rw [StreamFilterClause.map, StreamFilterClause.bytes, List.length_map, ← List.append_assoc,
        ← List.append_assoc]
      exact hvalues ((h.writeU8 3).writeU32BE values.length) values

theorem getBuffer_filterSet (clauses : List (StreamFilterClause JsString)) (capacity : Nat) :
    (encodeStreamFilterSet clauses (BufferWriter.create capacity)).getBuffer =
      filterSetBytes (clauses.map (·.map utf8Encode)) := by
  have hclauses : ∀ {w : BufferWriter} {written : Bytes}, w.Holds written →
      ∀ clauses : List (StreamFilterClause JsString),
        (clauses.foldl encodeStreamFilterClause w).Holds
          (written ++ (clauses.map (·.map utf8Encode)).flatMap StreamFilterClause.bytes) := by
    intro w written h clauses
    induction clauses generalizing w written with
    | nil => simpa using h
    | cons clause clauses ih =>
        rw [List.foldl_cons, List.map_cons, List.flatMap_cons, ← List.append_assoc]
        exact ih (holds_clause h clause)
  have hheader := (((BufferWriter.holds_create capacity).writeU8 0).writeU8 0xf1).writeU32BE
    clauses.length
  have hset := (hclauses hheader clauses).getBuffer
  rw [filterSetBytes, List.length_map]
  exact hset

end

/-- **The bytes of APPEND**, whatever the arguments. -/
theorem encodeAppend_eq (a : AppendArguments JsString) : encodeAppend a = some a.wire.bytes := by
  have hsize : ∀ body metadata discriminator : Nat,
      8 + 8 + 4 + body + 1 + metadata + 1 + discriminator =
        8 + (8 + (4 + body + (1 + metadata + (1 + discriminator + 0)))) := by
    intros
    omega
  have hcreate := BufferWriter.fills_create (8 + (8 + (4 + a.body.length +
    (1 + a.metadata.elim 0 (4 + ·.length) +
      (1 + a.wire.discriminator.elim 0 (4 + ·.length) + 0)))))
  have hsession :
      ((BufferWriter.create _).store (BufferWriter.writeU64BEAt a.sessionId)).Fills _ _ :=
    hcreate.store
  have hoffset : (((BufferWriter.create _).store (BufferWriter.writeU64BEAt a.sessionId)).store
      (BufferWriter.writeU64BEAt a.expectedOffset)).Fills _ _ := hsession.store
  obtain ⟨withBody, hbody, hfills⟩ := hoffset.setLengthAndBytes
  obtain ⟨withMetadata, hmetadata, hfills⟩ := hfills.setOptionalBytes
  obtain ⟨whole, hwhole, hfills⟩ := hfills.setOptionalBytes
  have hencode : encodeAppend a = some whole.buffer := by
    unfold encodeAppend
    dsimp only
    rw [hsize]
    exact Option.bind_eq_some_iff.mpr ⟨withBody, hbody, Option.bind_eq_some_iff.mpr
      ⟨withMetadata, hmetadata, Option.bind_eq_some_iff.mpr ⟨whole, hwhole, rfl⟩⟩⟩
  rw [hencode, hfills.buffer, BufferWriter.writeU64BEAt_emod, BufferWriter.writeU64BEAt_emod]
  rfl

/-- **The bytes of READ**, whatever the arguments but the limit. -/
theorem encodeRead_eq (a : ReadArguments JsString) :
    encodeRead a = (a.limit.upTo BufferWriter.MAX_SAFE_INTEGER).map a.wire.bytes := by
  have hsize : ∀ route maxBytes filter fingerprint watermark : Nat,
      route + 8 + 8 + 1 + maxBytes + 1 + filter + 1 + fingerprint + 1 + watermark =
        route + (8 + (8 + (1 + maxBytes + (1 + filter + (1 + fingerprint +
          (1 + watermark + 0)))))) := by
    intros
    omega
  have hfilter : ((a.filter.filter (·.length > 0)).map fun clauses =>
      (encodeStreamFilterSet clauses (BufferWriter.create 64)).getBuffer) =
        a.wire.filter.map filterSetBytes := by
    simp only [getBuffer_filterSet, ReadArguments.wire, ReadArguments.map, Option.map_map]
    rfl
  have hcreate := BufferWriter.fills_create ((writeRoute a.route).length + (8 + (8 +
    (1 + a.maxBytes.elim 0 (fun _ => 8) +
      (1 + (a.wire.filter.map filterSetBytes).elim 0 (4 + ·.length) +
      (1 + a.cursorFingerprint.elim 0 (fun _ => 8) +
        (1 + a.capturedWatermark.elim 0 (fun _ => 8) + 0)))))))
  obtain ⟨withRoute, hroute, hfills⟩ := hcreate.setBytes
  have hstart : (withRoute.store (BufferWriter.writeU64BEAt a.startOffset)).Fills _ _ :=
    hfills.store
  cases hlimit : a.limit.upTo BufferWriter.MAX_SAFE_INTEGER with
  | none =>
      have hthrows : BufferWriter.writeU64BENumberAt a.limit = none := by
        rw [BufferWriter.writeU64BENumberAt_eq, hlimit]
        rfl
      unfold encodeRead
      dsimp only
      rw [hfilter, hsize, hthrows]
      exact Option.bind_eq_none_iff.mpr fun _ _ => rfl
  | some limit =>
      have hnumber : BufferWriter.writeU64BENumberAt a.limit = some (writeU64BE limit) := by
        rw [BufferWriter.writeU64BENumberAt_eq, hlimit]
        rfl
      have hlimited : ((withRoute.store (BufferWriter.writeU64BEAt a.startOffset)).store
          (writeU64BE limit)).Fills _ _ := hstart.store
      obtain ⟨withFilter, hset, hfills⟩ := hlimited.storeOptionalU64.setOptionalBytes
      have hencode : encodeRead a = some ((withFilter.storeOptionalU64
          a.cursorFingerprint).storeOptionalU64 a.capturedWatermark).buffer := by
        unfold encodeRead
        dsimp only
        rw [hfilter, hsize, hnumber]
        exact Option.bind_eq_some_iff.mpr ⟨withRoute, hroute, Option.bind_eq_some_iff.mpr
          ⟨writeU64BE limit, rfl, Option.bind_eq_some_iff.mpr ⟨withFilter, hset, rfl⟩⟩⟩
      rw [hencode, hfills.storeOptionalU64.storeOptionalU64.buffer, BufferWriter.writeU64BEAt_emod]
      rfl

end FitzTs.Stream
