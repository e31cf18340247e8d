import FitzTs.Protocol.Response
/-!
# FitzTs.Domains.Kv.Codec

The SCAN request and its response, of `domains/kv/codec.ts`.

A request is encoded as

`[u64 tx_id][string route][optional start_key][optional end_key][optional u32 limit][u8 flags]`

and a page as

`[u8 status=0][u32 count]([u32 length][key][u32 length][value])*[u8 has_more]`.

The broker's side is read off these layouts: `parseScan` takes the request apart, and `encodePage`
writes a page.
-/

namespace FitzTs.Kv

open Buffer JsString BigEndian

structure KvEntry where
  key : Bytes
  value : Bytes
  deriving DecidableEq, Repr

/-- `KvScanOptions`, but for its signal. A `limit` that is not a natural number is refused as one
that is too large. -/
structure KvScanOptions where
  startKey : Option Bytes := none
  endKey : Option Bytes := none
  limit : Option Nat := none
  reverse : Bool := false
  startExclusive : Bool := false
  deriving DecidableEq, Repr

structure KvScanPage where
  entries : List KvEntry
  hasMore : Bool
  deriving DecidableEq, Repr

/-! ## Requests -/

def writeOptionalU32 : Option Nat → Bytes
  | none => writeU8 0
  | some n => writeU8 1 ++ writeU32BE n

/-- `(options.reverse ? 1 : 0) | (options.startExclusive ? 2 : 0)`. -/
def scanFlags (reverse startExclusive : Bool) : Nat :=
  (if reverse then 1 else 0) ||| (if startExclusive then 2 else 0)

/-- `encodeScan`; `none` is its `CodecError`. -/
def encodeScan (txId : Nat) (route : JsString) (options : KvScanOptions) : Option Bytes :=
  if options.limit.any (· > 0xffffffff) then none
  else some (writeU64BE txId ++ writeRoute route ++ writeOptionalBytes options.startKey ++
    writeOptionalBytes options.endKey ++ writeOptionalU32 options.limit ++
      writeU8 (scanFlags options.reverse options.startExclusive))

def readOptionalU32 : Reader (Option Nat) := do
  let hasValue ← readU8
  if hasValue = 0 then return none
  else return some (← readU32BE)

/-- What the broker reads in a request. -/
structure ScanRequest where
  txId : Nat
  route : Bytes
  options : KvScanOptions
  deriving DecidableEq, Repr

def parseScan (payload : Bytes) : Option ScanRequest :=
  Reader.read (do
    let txId ← readU64BE
    let route ← readBytes (← readU32BE)
    let startKey ← readOptionalBytes
    let endKey ← readOptionalBytes
    let limit ← readOptionalU32
    let flags ← readU8
    let eof ← isEOF
    guard (eof = true)
    return { txId, route, options :=
      { startKey, endKey, limit, reverse := flags.testBit 0, startExclusive := flags.testBit 1 } })
    payload

/-! ## Pages -/

def writeEntry (entry : KvEntry) : Bytes :=
  writeLengthAndBytes entry.key ++ writeLengthAndBytes entry.value

/-- The page of a response, as the broker writes it. -/
def encodePage (page : KvScanPage) : Bytes :=
  writeU8 0 ++ writeU32BE page.entries.length ++ page.entries.flatMap writeEntry ++
    writeU8 (if page.hasMore then 1 else 0)

/-- The loop of `decodeScanResponse`. -/
def readEntries : Nat → Reader (List KvEntry)
  | 0 => return []
  | count + 1 => do
    let key ← readBytes (← readU32BE)
    let value ← readBytes (← readU32BE)
    let entries ← readEntries count
    return { key, value } :: entries

/-- What `decodeScanResponse` returns: a page, or the error of the broker. -/
inductive KvScanResponse
  | page (page : KvScanPage)
  | failure (error : ResponseError)
  deriving DecidableEq, Repr

/-- `decodeScanResponse`; `none` where it throws. -/
def decodeScanResponse (payload : Bytes) : Option KvScanResponse :=
  match parseStandardResponse payload with
  | none => none
  | some (.failure error) => some (.failure error)
  | some (.success data) =>
    Reader.read (do
      let count ← readU32BE
      let entries ← readEntries count
      let hasMoreFlag ← readU8
      guard ¬ (hasMoreFlag ≠ 0 ∧ hasMoreFlag ≠ 1)
      let eof ← isEOF
      guard (eof = true)
      return .page { entries, hasMore := hasMoreFlag = 1 }) data

/-! ## Decoding what was encoded -/

section

variable {rest : Bytes} {options : KvScanOptions}

/-- A number is read back up to its low bytes. -/
theorem readU64BE_append_mod {n : Nat} :
    readU64BE (writeU64BE n ++ rest) = some (n % 2 ^ 64, rest) := by
  unfold readU64BE readUBE writeU64BE
  rw [bind_eq (readBytes_append length_toBytes), ofBytes_toBytes_mod]
  rfl

theorem readOptionalU32_append {limit : Option Nat} (h : limit.any (· > 0xffffffff) = false) :
    readOptionalU32 (writeOptionalU32 limit ++ rest) = some (limit, rest) := by
  unfold readOptionalU32
  cases limit with
  | none => exact bind_eq (readU8_append (by decide))
  | some n =>
      have hn : n < 2 ^ 32 := by simpa [Nat.lt_succ_iff] using h
      unfold writeOptionalU32
      rw [List.append_assoc, bind_eq (readU8_append (by decide)), if_neg (by decide),
        bind_eq (readU32BE_append hn)]
      rfl

theorem scanFlags_bits {reverse startExclusive : Bool} :
    scanFlags reverse startExclusive < 2 ^ 8 ∧
      (scanFlags reverse startExclusive).testBit 0 = reverse ∧
        (scanFlags reverse startExclusive).testBit 1 = startExclusive := by
  cases reverse <;> cases startExclusive <;> decide

theorem length_le_writeOptionalBytes {data : Option Bytes} :
    ∀ d ∈ data, d.length ≤ (writeOptionalBytes data).length := by
  rintro d ⟨⟩
  simp [writeOptionalBytes, writeLengthAndBytes]
  omega

/-- **The broker reads what the client asked for.** -/
theorem parseScan_encodeScan {txId : Nat} {route : JsString} {payload : Bytes}
    (h : encodeScan txId route options = some payload) (hlength : payload.length < 2 ^ 32) :
    parseScan payload = some ⟨txId % 2 ^ 64, utf8Encode route, options⟩ := by
  obtain ⟨hlimit, heq⟩ := Option.ite_none_left_eq_some.mp h
  obtain rfl := Option.some.inj heq
  have hlimit : options.limit.any (· > 0xffffffff) = false := Bool.not_eq_true _ ▸ hlimit
  obtain ⟨hflags, hreverse, hexclusive⟩ :=
    @scanFlags_bits options.reverse options.startExclusive
  simp only [writeRoute, writeString, writeLengthAndBytes, List.length_append, length_writeU8,
    length_writeU32BE, length_writeU64BE] at hlength
  have hstart : ∀ d ∈ options.startKey, d.length < 2 ^ 32 := fun d hd => by
    have hle := length_le_writeOptionalBytes d hd
    omega
  have hend : ∀ d ∈ options.endKey, d.length < 2 ^ 32 := fun d hd => by
    have hle := length_le_writeOptionalBytes d hd
    omega
  unfold parseScan Reader.read
  simp only [writeRoute, writeString, writeLengthAndBytes, List.append_assoc]
  rw [bind_eq readU64BE_append_mod, bind_eq (readU32BE_append (by omega)),
    bind_eq (readBytes_append rfl), bind_eq (readOptionalBytes_append hstart),
    bind_eq (readOptionalBytes_append hend), bind_eq (readOptionalU32_append hlimit),
    ← List.append_nil (writeU8 _), bind_eq (readU8_append hflags), hreverse, hexclusive]
  rfl

theorem readEntries_append {entries : List KvEntry}
    (h : ∀ entry ∈ entries, entry.key.length < 2 ^ 32 ∧ entry.value.length < 2 ^ 32) :
    readEntries entries.length (entries.flatMap writeEntry ++ rest) = some (entries, rest) := by
  induction entries with
  | nil => rfl
  | cons entry entries ih =>
      obtain ⟨⟨hkey, hvalue⟩, htail⟩ := List.forall_mem_cons.mp h
      simp only [List.flatMap_cons, writeEntry, writeLengthAndBytes, List.append_assoc,
        List.length_cons, readEntries]
      rw [bind_eq (readU32BE_append hkey), bind_eq (readBytes_append rfl),
        bind_eq (readU32BE_append hvalue), bind_eq (readBytes_append rfl), bind_eq (ih htail)]
      rfl

/-- The lengths in a page are bounded by its own. -/
theorem entries_length {entries : List KvEntry} :
    entries.length ≤ (entries.flatMap writeEntry).length ∧ ∀ entry ∈ entries,
      entry.key.length ≤ (entries.flatMap writeEntry).length ∧
        entry.value.length ≤ (entries.flatMap writeEntry).length := by
  induction entries with
  | nil => simp
  | cons entry entries ih =>
      obtain ⟨hcount, hentries⟩ := ih
      simp only [List.flatMap_cons, writeEntry, writeLengthAndBytes, List.length_append,
        length_writeU32BE, List.length_cons, List.forall_mem_cons] at hcount hentries ⊢
      refine ⟨by omega, by omega, fun other hmem => ?_⟩
      obtain ⟨hkey, hvalue⟩ := hentries other hmem
      omega

/-- **The client reads the page that the broker wrote.** -/
theorem decodeScanResponse_encodePage {page : KvScanPage}
    (hlength : (encodePage page).length < 2 ^ 32) :
    decodeScanResponse (encodePage page) = some (.page page) := by
  simp only [encodePage, List.length_append, length_writeU8, length_writeU32BE] at hlength
  obtain ⟨hcount, hentries⟩ := entries_length
  have hsizes : ∀ entry ∈ page.entries,
      entry.key.length < 2 ^ 32 ∧ entry.value.length < 2 ^ 32 := fun entry hmem => by
    obtain ⟨hkey, hvalue⟩ := hentries entry hmem
    omega
  unfold decodeScanResponse encodePage
  simp only [List.append_assoc, parseStandardResponse_success]
  have hflag : (if page.hasMore = true then 1 else 0) < 2 ^ 8 := by split <;> decide
  unfold Reader.read
  rw [bind_eq (readU32BE_append (by omega)), bind_eq (readEntries_append hsizes),
    ← List.append_nil (writeU8 _), bind_eq (readU8_append hflag)]
  obtain ⟨entries, hasMore⟩ := page
  cases hasMore <;> rfl

end

end FitzTs.Kv
