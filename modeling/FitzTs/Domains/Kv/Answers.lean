import FitzTs.Core.BufferFormats
import FitzTs.Domains.Kv.Codec
/-!
# FitzTs.Domains.Kv.Answers

The other decoders of `domains/kv/codec.ts`, and what all of them accept.

An answer to BEGIN is encoded as `[u8 status=0][u64 tx_id]`, one to GET as
`[u8 status=0][u8 found=0]` or `[u8 status=0][u8 found=1][u32 length][value]`, and a notification as
`[u64 sub_id][string route][u64 mutation_count]`.

The status of a response is 0 for a success and the code of the error otherwise, so that an error
with the code 0 passes for a success.
-/

namespace FitzTs.Kv

open Buffer JsString Reading

/-! ## Decoders -/

structure KvBeginResponse where
  status : Nat
  txId : Option Nat := none
  errorClass : Option Nat := none
  effect : Option Nat := none
  deriving DecidableEq, Repr

def readTxId : Reader (Option Nat) := do
  if ← isEOF then return none
  else return some (← readU64BE)

/-- `decodeBeginResponse`; `none` where it throws. -/
def decodeBeginResponse (payload : Bytes) : Option KvBeginResponse :=
  match parseStandardResponse payload with
  | none => none
  | some (.failure error) =>
    some
      { status := error.errorCode, errorClass := some error.errorClass,
        effect := some error.effect }
  | some (.success data) =>
    Reader.read (do
      let txId ← readTxId
      let eof ← isEOF
      guard (eof = true)
      return { status := 0, txId }) data

structure KvGetResponse where
  status : Nat
  found : Bool
  value : Option Bytes := none
  errorMessage : Option JsString := none
  errorClass : Option Nat := none
  effect : Option Nat := none
  deriving DecidableEq, Repr

def readFound : Reader Bool := do
  if ← isEOF then return false
  else return (← readU8) = 1

/-- `decodeGetResponse`; `none` where it throws. -/
def decodeGetResponse (payload : Bytes) : Option KvGetResponse :=
  match parseStandardResponse payload with
  | none => none
  | some (.failure error) =>
    some {
      status := error.errorCode
      found := false
      errorMessage := some error.error
      errorClass := some error.errorClass
      effect := some error.effect }
  | some (.success data) =>
    Reader.read (do
      let found ← readFound
      let eof ← isEOF
      if !found || eof then return { status := 0, found := false }
      else
        let valueLen ← readU32BE
        let value ← readBytes valueLen
        return { status := 0, found := true, value := some value }) data

/-- The status of a SCAN response. -/
def KvScanResponse.status : KvScanResponse → Nat
  | .page _ => 0
  | .failure error => error.errorCode

structure KvNotification where
  subId : Nat
  route : JsString
  mutationCount : Nat
  deriving DecidableEq, Repr

/-- `decodeNotification`; `none` where it throws. -/
def decodeNotification (payload : Bytes) : Option KvNotification :=
  Reader.read (do
    let subId ← readU64BE
    let route ← readString
    let mutationCount ← readU64BE
    let eof ← isEOF
    guard (eof = true)
    return { subId, route, mutationCount }) payload

/-! ## BEGIN -/

variable {payload data : Bytes}

/-- `[u8 status=0][u64 tx_id]`. -/
def IsBeginAnswer (payload : Bytes) (response : KvBeginResponse) : Prop :=
  ∃ txId : Unsigned 8, payload = 0 :: txId.bytes ∧ response = { status := 0, txId := some txId.val }

def BeginStrict (payload : Bytes) : Prop :=
  ∀ response, decodeBeginResponse payload = some response → response.status = 0 →
    IsBeginAnswer payload response

/-- The status alone is accepted, and an error with the code 0. -/
theorem beginStrict_iff : BeginStrict payload ↔ payload ≠ [0] ∧ ¬ IsCodelessError payload := by
  constructor
  · intro h
    constructor
    · rintro rfl
      obtain ⟨txId, -, hresponse⟩ := h { status := 0 } rfl rfl
      cases hresponse
    · rintro ⟨e, message, he, hcode⟩
      have hdecode : decodeBeginResponse payload =
          some ⟨e.errorCode, none, some e.errorClass, some e.effect⟩ := by
        rw [decodeBeginResponse, parseStandardResponse_eq_failure_iff.mpr ⟨message, he⟩]
      obtain ⟨txId, hpayload, -⟩ := h _ hdecode hcode
      exact he.ne_success hpayload
  · rintro ⟨hne, hcode⟩ response hdecode hstatus
    unfold decodeBeginResponse at hdecode
    obtain hparse | ⟨e, message, he, hparse⟩ | ⟨data, rfl, hparse⟩ :=
        parseStandardResponse_cases payload <;> rw [hparse] at hdecode
    · cases hdecode
    · obtain ⟨⟩ := hdecode
      exact absurd ⟨e, message, he, hstatus⟩ hcode
    · have hreads : Reads nothing (do
          let txId ← (do return some (← readU64BE))
          let eof ← isEOF
          guard (eof = true)
          return ({ status := 0, txId } : KvBeginResponse)) _ _ :=
        ((readUBE_reads 8).map some).bind fun txId => Reads.finish _
      cases data with
      | nil => exact absurd rfl hne
      | cons byte data =>
          obtain ⟨⟨txId, ⟨⟩⟩, hdata, rfl⟩ := hreads.read_eq_some_iff.mp hdecode
          exact ⟨txId, by rw [hdata, List.append_nil], rfl⟩

/-! ## GET -/

/-- `[u8 status=0][u8 found=0]`, or `[u8 status=0][u8 found=1][u32 length][value]`. -/
def IsGetAnswer (payload : Bytes) (response : KvGetResponse) : Prop :=
  payload = [0, 0] ∧ response = { status := 0, found := false } ∨
    ∃ value : Prefixed, payload = 0 :: 1 :: value.bytes ∧
      response = { status := 0, found := true, value := some value.val }

def GetStrict (payload : Bytes) : Prop :=
  ∀ response, decodeGetResponse payload = some response → response.status = 0 →
    IsGetAnswer payload response

/-- What a payload must be like so that it is not taken for a missing key or for another value. -/
structure GetWhole (payload : Bytes) : Prop where
  has_flag : payload ≠ [0]
  /-- Any flag but 1 stands for a missing key. -/
  flag : ∀ flag rest, payload = 0 :: flag :: rest → flag ≠ 1 → flag = 0 ∧ rest = []
  has_value : payload ≠ [0, 1]
  ends : ∀ (value : Prefixed) rest, payload = 0 :: 1 :: (value.bytes ++ rest) → rest = []
  has_code : ¬ IsCodelessError payload

theorem readFound_cons (flag : UInt8) (rest : Bytes) :
    readFound (flag :: rest) = some (decide (flag = 1), rest) := by
  have hflag : (flag.toNat = 1) = (flag = 1) := by
    rw [← UInt8.toNat_inj]
    rfl
  change (readU8 >>= fun tag => pure (decide (tag = 1))) (flag :: rest) = _
  rw [bind_eq (readU8_cons flag rest)]
  simp only [hflag]
  rfl

/-- Any flag but 1 stands for a missing key, and so does a flag without a value. -/
theorem decodeGetResponse_missing {flag : UInt8} {rest : Bytes} (h : flag ≠ 1 ∨ rest = []) :
    decodeGetResponse (0 :: flag :: rest) = some { status := 0, found := false } := by
  have hmissing : (!decide (flag = 1) || rest.isEmpty) = true := by simpa using h
  rw [decodeGetResponse, parseStandardResponse_eq_success_iff.mpr rfl]
  dsimp only
  rw [Reader.read, bind_eq (readFound_cons flag rest), bind_eq (show isEOF rest = some _ from rfl),
    if_pos hmissing]
  rfl

/-- Behind the flag 1 stands a value, and whatever follows it. -/
theorem decodeGetResponse_found {rest : Bytes} (hne : rest ≠ []) {response : KvGetResponse} :
    decodeGetResponse (0 :: 1 :: rest) = some response ↔
      ∃ (value : Prefixed) (tail : Bytes), rest = value.bytes ++ tail ∧
        response = { status := 0, found := true, value := some value.val } := by
  have hvalue : ¬ (!decide ((1 : UInt8) = 1) || rest.isEmpty) = true := by simpa using hne
  have hreads := readLengthAndBytes_reads.map fun value =>
    ({ status := 0, found := true, value := some value } : KvGetResponse)
  rw [bind_assoc] at hreads
  rw [decodeGetResponse, parseStandardResponse_eq_success_iff.mpr rfl]
  dsimp only
  rw [Reader.read, bind_eq (readFound_cons 1 rest), bind_eq (show isEOF rest = some _ from rfl),
    if_neg hvalue]
  exact hreads.read_eq_some_iff_prefix

theorem getStrict_iff : GetStrict payload ↔ GetWhole payload := by
  constructor
  · intro h
    refine ⟨?_, fun flag rest hpayload hflag => ?_, ?_, fun value rest hpayload => ?_, ?_⟩
    · rintro rfl
      obtain ⟨⟨⟩, -⟩ | ⟨value, ⟨⟩, -⟩ := h { status := 0, found := false } rfl rfl
    · rw [hpayload] at h
      obtain ⟨hwhole, -⟩ | ⟨value, -, hresponse⟩ :=
        h _ (decodeGetResponse_missing (.inl hflag)) rfl
      · cases hwhole
        exact ⟨rfl, rfl⟩
      · cases hresponse
    · rintro rfl
      obtain ⟨⟨⟩, -⟩ | ⟨value, -, ⟨⟩⟩ := h _ (decodeGetResponse_missing (.inr rfl)) rfl
    · have hne : value.bytes ++ rest ≠ [] := by
        intro hnil
        have hlength := congrArg List.length hnil
        simp [Prefixed.bytes, writeLengthAndBytes] at hlength
      rw [hpayload] at h
      obtain ⟨⟨⟩, -⟩ | ⟨value', hwhole, -⟩ :=
        h _ ((decodeGetResponse_found hne).mpr ⟨value, rest, rfl, rfl⟩) rfl
      have hbytes : value.bytes ++ rest = value'.bytes ++ [] := by simpa using hwhole
      exact (Prefixed.unambiguous hbytes).2
    · rintro ⟨e, message, he, hcode⟩
      have hdecode : decodeGetResponse payload = some ⟨e.errorCode, false, none, some e.error,
          some e.errorClass, some e.effect⟩ := by
        rw [decodeGetResponse, parseStandardResponse_eq_failure_iff.mpr ⟨message, he⟩]
      obtain ⟨hpayload, -⟩ | ⟨value, hpayload, -⟩ := h _ hdecode hcode
      · exact he.ne_success hpayload
      · exact he.ne_success hpayload
  · intro h response hdecode hstatus
    obtain hparse | ⟨e, message, he, hparse⟩ | ⟨data, rfl, hparse⟩ :=
        parseStandardResponse_cases payload
    · rw [decodeGetResponse, hparse] at hdecode
      cases hdecode
    · rw [decodeGetResponse, hparse] at hdecode
      obtain ⟨⟩ := hdecode
      exact absurd ⟨e, message, he, hstatus⟩ h.has_code
    · cases data with
      | nil => exact absurd rfl h.has_flag
      | cons flag rest =>
        by_cases hflag : flag = 1
        · subst hflag
          have hne : rest ≠ [] := by
            rintro rfl
            exact h.has_value rfl
          obtain ⟨value, tail, rfl, rfl⟩ := (decodeGetResponse_found hne).mp hdecode
          obtain rfl := h.ends value tail rfl
          exact .inr ⟨value, by rw [List.append_nil], rfl⟩
        · obtain ⟨rfl, rfl⟩ := h.flag flag rest rfl hflag
          rw [decodeGetResponse_missing (.inl hflag)] at hdecode
          obtain ⟨⟩ := hdecode
          exact .inl ⟨rfl, rfl⟩

/-! ## SCAN -/

/-- The page of a response, as the broker writes it. -/
structure IsScanAnswer (payload : Bytes) (page : KvScanPage) : Prop where
  count_lt : page.entries.length < 2 ^ 32
  entries_lt : ∀ entry ∈ page.entries, entry.key.length < 2 ^ 32 ∧ entry.value.length < 2 ^ 32
  payload_eq : payload = encodePage page

def ScanStrict (payload : Bytes) : Prop :=
  ∀ response, decodeScanResponse payload = some response → response.status = 0 →
    ∃ page, response = .page page ∧ IsScanAnswer payload page

def readEntry : Reader KvEntry := do
  let key ← readBytes (← readU32BE)
  let value ← readBytes (← readU32BE)
  return { key, value }

theorem readEntries_eq_many (count : Nat) : readEntries count = many readEntry count := by
  induction count with
  | zero => rfl
  | succ count ih =>
      rw [readEntries, ih, many, readEntry]
      simp only [bind_assoc, pure_bind]

theorem readEntry_reads :
    Reads anything readEntry (fun entry : Prefixed × Prefixed => entry.1.bytes ++ entry.2.bytes)
      (fun entry => ⟨entry.1.val, entry.2.val⟩) := by
  unfold readEntry
  refine Reads.congr (readPrefixed_reads fun key => readPrefixed_reads fun value =>
    Reads.pure (⟨key.val, value.val⟩ : KvEntry)) ?_ ?_
  · rintro ⟨key, value, -⟩
    exact ⟨(key, value), by simp, rfl⟩
  · rintro ⟨key, value⟩
    exact ⟨⟨key, value, ()⟩, by simp, rfl⟩

/-- An error with the code 0 is an empty page. -/
theorem scanStrict_iff : ScanStrict payload ↔ ¬ IsCodelessError payload := by
  constructor
  · rintro h ⟨e, message, he, hcode⟩
    have hdecode : decodeScanResponse payload = some (.failure e) := by
      rw [decodeScanResponse, parseStandardResponse_eq_failure_iff.mpr ⟨message, he⟩]
    obtain ⟨page, ⟨⟩, -⟩ := h _ hdecode hcode
  · intro hcode response hdecode hstatus
    unfold decodeScanResponse at hdecode
    obtain hparse | ⟨e, message, he, hparse⟩ | ⟨data, rfl, hparse⟩ :=
        parseStandardResponse_cases payload <;> rw [hparse] at hdecode
    · cases hdecode
    · obtain ⟨⟩ := hdecode
      exact absurd ⟨e, message, he, hstatus⟩ hcode
    · simp only [readEntries_eq_many] at hdecode
      have hreads : Reads nothing (do
          let count ← readU32BE
          let entries ← many readEntry count
          let hasMoreFlag ← readU8
          guard ¬ (hasMoreFlag ≠ 0 ∧ hasMoreFlag ≠ 1)
          let eof ← isEOF
          guard (eof = true)
          return KvScanResponse.page { entries, hasMore := hasMoreFlag = 1 }) _ _ :=
        readMany_reads readEntry_reads fun entries => readFlag_reads fun hasMore => Reads.finish _
      obtain ⟨⟨⟨entries, hcount⟩, hasMore, ⟨⟩⟩, rfl, rfl⟩ := hreads.read_eq_some_iff.mp hdecode
      refine ⟨_, rfl, by simpa using hcount, ?_, ?_⟩
      · simp only [List.forall_mem_map]
        exact fun entry _ => ⟨entry.1.2, entry.2.2⟩
      · cases hasMore <;>
          simp [encodePage, List.flatMap_map, writeEntry, Prefixed.bytes, flagByte, writeU8,
            BigEndian.toBytes]

/-! ## Notifications -/

/-- `[u64 sub_id][string route][u64 mutation_count]`. -/
def IsNotification (payload : Bytes) (notification : KvNotification) : Prop :=
  ∃ (subId : Unsigned 8) (route : Prefixed) (mutationCount : Unsigned 8),
    payload = subId.bytes ++ route.bytes ++ mutationCount.bytes ∧
      notification = ⟨subId.val, route.text, mutationCount.val⟩

theorem decodeNotification_eq_some_iff {notification : KvNotification} :
    decodeNotification payload = some notification ↔ IsNotification payload notification := by
  have hreads : Reads nothing (do
      let subId ← readU64BE
      let route ← readString
      let mutationCount ← readU64BE
      let eof ← isEOF
      guard (eof = true)
      return ({ subId, route, mutationCount } : KvNotification)) _ _ :=
    (readUBE_reads 8).bind fun subId => readString_reads.bind fun route =>
      (readUBE_reads 8).bind fun mutationCount => Reads.finish _
  refine hreads.read_eq_some_iff.trans ?_
  constructor
  · rintro ⟨⟨subId, route, mutationCount, ⟨⟩⟩, rfl, rfl⟩
    exact ⟨subId, route, mutationCount, by simp, rfl⟩
  · rintro ⟨subId, route, mutationCount, rfl, rfl⟩
    exact ⟨⟨subId, route, mutationCount, ()⟩, by simp, rfl⟩

end FitzTs.Kv
