import FitzTs.Core.BufferFormats
import FitzTs.Protocol.Response
/-!
# FitzTs.Domains.Lease.Codec

The decoders of `domains/lease/codec.ts`.

An answer to ACQUIRE is `[u8 status=0][u8 response_type][u64 fencing_token]`, one to QUERY is
`[u8 status=0][u8 has_holder=0][u32 pending_waiters]` or
`[u8 status=0][u8 has_holder=1][string owner_id][u64 ttl_remaining_secs][u32 pending_waiters]`, and
a page of LIST is

`[u8 status=0][u32 item_count]([string route][string owner_id][u64 holder_incarnation]`
`[string acquired_at][u64 expires_in_secs][u32 renewals])*`
`[u8 has_next]([u64 snapshot_id][u32 offset])?`

A notification is `[u64 sub_id][string route][u32 0]`.
-/

namespace FitzTs.LeaseCodec

open Buffer JsString Reading

/-! ## Decoders -/

structure AcquireResponse where
  token : Nat
  responseType : Nat
  deriving DecidableEq, Repr

/-- `decodeAcquireResponse`; `none` where it throws, as it does for an error of the broker. -/
def decodeAcquireResponse (payload : Bytes) : Option AcquireResponse :=
  if payload.length = 0 then none
  else
    match parseStandardResponse payload with
    | none | some (.failure _) => none
    | some (.success data) =>
      Reader.read (do
        let bytes ← remaining
        guard ¬ bytes.length < 9
        let responseType ← readU8
        guard ¬ (responseType ≠ 0 ∧ responseType ≠ 1 ∧ responseType ≠ 2 ∧ responseType ≠ 3)
        let token ← readU64BE
        let eof ← isEOF
        guard (eof = true)
        return { token, responseType }) data

inductive QueryResponse
  | failure (error : ResponseError)
  | free (pendingWaiters : Nat)
  | held (owner : JsString) (ttlRemainingSecs pendingWaiters expiresAt : Nat)
  deriving DecidableEq, Repr

/-- The answer of a lease that is free. -/
def readFree : Reader QueryResponse := do
  let pendingWaiters ← readU32BE
  let eof ← isEOF
  guard (eof = true)
  return .free pendingWaiters

/-- The answer of a lease that is held. -/
def readHeld (now : Nat) : Reader QueryResponse := do
  let owner ← readString
  let ttlRemainingSecs ← readU64BE
  let pendingWaiters ← readU32BE
  let eof ← isEOF
  guard (eof = true)
  return .held owner ttlRemainingSecs pendingWaiters (now / 1000 + ttlRemainingSecs)

/-- `decodeQueryResponse` at the time `now`, in milliseconds; `none` where it throws. -/
def decodeQueryResponse (now : Nat) (payload : Bytes) : Option QueryResponse :=
  match parseStandardResponse payload with
  | none => none
  | some (.failure error) => some (.failure error)
  | some (.success data) =>
    Reader.read (do
      let hasHolder ← readU8
      if hasHolder = 0 then readFree else readHeld now) data

structure LeaseListCursor where
  snapshotId : Nat
  offset : Nat
  deriving DecidableEq, Repr

structure LeaseListItem where
  route : JsString
  ownerId : JsString
  holderIncarnation : Nat
  acquiredAt : JsString
  expiresInSecs : Nat
  renewals : Nat
  deriving DecidableEq, Repr

structure LeaseListPage where
  items : List LeaseListItem
  nextCursor : Option LeaseListCursor
  deriving DecidableEq, Repr

/-- The body of the loop of `decodeListResponse`. -/
def readListItem : Reader LeaseListItem := do
  let route ← readString
  let ownerId ← readString
  let holderIncarnation ← readU64BE
  let acquiredAt ← readString
  let expiresInSecs ← readU64BE
  let renewals ← readU32BE
  return { route, ownerId, holderIncarnation, acquiredAt, expiresInSecs, renewals }

def readNextCursor : Reader (Option LeaseListCursor) := do
  match ← readU8 with
  | 1 =>
    let snapshotId ← readU64BE
    let offset ← readU32BE
    return some { snapshotId, offset }
  | 0 => return none
  | _ => failure

/-- `decodeListResponse`; `none` where it throws, as it does for an error of the broker. -/
def decodeListResponse (payload : Bytes) : Option LeaseListPage :=
  match parseStandardResponse payload with
  | none | some (.failure _) => none
  | some (.success data) =>
    Reader.read (do
      let itemCount ← readU32BE
      let items ← many readListItem itemCount
      let nextCursor ← readNextCursor
      let eof ← isEOF
      guard (eof = true)
      return { items, nextCursor }) data

structure LeaseNotification where
  subId : Nat
  route : JsString
  deriving DecidableEq, Repr

/-- `decodeNotification`; `none` where it throws. -/
def decodeNotification (payload : Bytes) : Option LeaseNotification :=
  Reader.read (do
    let subId ← readU64BE
    let route ← readString
    let notificationPayload ← do readBytes (← readU32BE)
    guard ¬ notificationPayload.length ≠ 0
    let eof ← isEOF
    guard (eof = true)
    return { subId, route }) payload

variable {payload : Bytes}

/-! ## ACQUIRE -/

/-- `[u8 status=0][u8 response_type][u64 fencing_token]`. -/
def IsAcquireAnswer (payload : Bytes) (response : AcquireResponse) : Prop :=
  ∃ token : Unsigned 8, response.responseType ≤ 3 ∧ response.token = token.val ∧
    payload = 0 :: UInt8.ofNat response.responseType :: token.bytes

theorem isAcquireAnswer {response : AcquireResponse}
    (h : decodeAcquireResponse payload = some response) : IsAcquireAnswer payload response := by
  unfold decodeAcquireResponse at h
  split_ifs at h
  obtain hparse | ⟨e, message, he, hparse⟩ | ⟨data, rfl, hparse⟩ :=
      parseStandardResponse_cases payload <;> rw [hparse] at h
  · cases h
  · cases h
  · have hreads : Reads nothing (do
        let responseType ← readU8
        guard ¬ (responseType ≠ 0 ∧ responseType ≠ 1 ∧ responseType ≠ 2 ∧ responseType ≠ 3)
        let token ← readU64BE
        let eof ← isEOF
        guard (eof = true)
        return ({ token, responseType } : AcquireResponse)) _ _ :=
      readU8_reads.bind fun responseType => (Reads.check _).bind fun _ =>
        (readUBE_reads 8).bind fun token => Reads.finish _
    obtain ⟨⟨_, rest⟩, hread, rfl⟩ := Option.map_eq_some_iff.mp h
    obtain ⟨_, _, hremaining, hguarded⟩ := Buffer.bind_eq_some.mp hread
    obtain ⟨rfl, rfl⟩ := Prod.mk.inj (Option.some.inj hremaining)
    rw [guard_bind] at hguarded
    obtain ⟨-, hanswer⟩ := Option.ite_none_right_eq_some.mp hguarded
    obtain ⟨hrest, ⟨responseType, ⟨hcheck⟩, token, ⟨⟩⟩, rfl, rfl⟩ := (hreads _ _ _).mp hanswer
    obtain rfl := (show rest = [] from hrest)
    have hle : responseType.toNat ≤ 3 := by
      by_contra hgt
      exact hcheck (by omega)
    exact ⟨token, hle, rfl, by simp⟩

/-! ## QUERY -/

/-- An answer in one of the two layouts. -/
def IsQueryAnswer (now : Nat) (payload : Bytes) : QueryResponse → Prop
  | .failure error => ∃ message, IsErrorResponse payload error message
  | .free pendingWaiters => ∃ pending : Unsigned 4,
      payload = 0 :: 0 :: pending.bytes ∧ pendingWaiters = pending.val
  | .held owner ttlRemainingSecs pendingWaiters expiresAt =>
      ∃ (ownerId : Prefixed) (ttl : Unsigned 8) (pending : Unsigned 4),
        payload = 0 :: 1 :: (ownerId.bytes ++ ttl.bytes ++ pending.bytes) ∧
        owner = ownerId.text ∧ ttlRemainingSecs = ttl.val ∧ pendingWaiters = pending.val ∧
        expiresAt = now / 1000 + ttl.val

def QueryStrict (now : Nat) (payload : Bytes) : Prop :=
  ∀ response, decodeQueryResponse now payload = some response → IsQueryAnswer now payload response

/-- In front of a holder stands a flag. -/
def QueryPlain (payload : Bytes) : Prop :=
  ∀ (flag : UInt8) (ownerId : Prefixed) (ttl : Unsigned 8) (pending : Unsigned 4),
    payload = 0 :: flag :: (ownerId.bytes ++ ttl.bytes ++ pending.bytes) → IsFlag flag

theorem readFree_reads :
    Reads nothing readFree (fun pending : Unsigned 4 => pending.bytes)
      fun pending => .free pending.val := by
  refine Reads.congr ((readUBE_reads 4).bind fun pending =>
    Reads.finish (QueryResponse.free pending.val)) ?_ ?_
  · rintro ⟨pending, ⟨⟩⟩
    exact ⟨pending, by simp, rfl⟩
  · intro pending
    exact ⟨⟨pending, ()⟩, by simp, rfl⟩

theorem readHeld_reads (now : Nat) :
    Reads nothing (readHeld now) (fun holder : Prefixed × Unsigned 8 × Unsigned 4 =>
      holder.1.bytes ++ holder.2.1.bytes ++ holder.2.2.bytes)
      fun holder => .held holder.1.text holder.2.1.val holder.2.2.val
        (now / 1000 + holder.2.1.val) := by
  refine Reads.congr (readString_reads.bind fun owner => (readUBE_reads 8).bind fun ttl =>
    (readUBE_reads 4).bind fun pending => Reads.finish
      (QueryResponse.held owner.text ttl.val pending.val (now / 1000 + ttl.val))) ?_ ?_
  · rintro ⟨owner, ttl, pending, ⟨⟩⟩
    exact ⟨(owner, ttl, pending), by simp, rfl⟩
  · rintro ⟨owner, ttl, pending⟩
    exact ⟨⟨owner, ttl, pending, ()⟩, by simp, rfl⟩

/-- A success is a flag and what it announces; any flag but 0 announces a holder. -/
theorem decodeQueryResponse_success (now : Nat) (data : Bytes) :
    decodeQueryResponse now (0 :: data) =
      match data with
      | [] => none
      | flag :: rest => Reader.read (if flag = 0 then readFree else readHeld now) rest := by
  rw [decodeQueryResponse, parseStandardResponse_eq_success_iff.mpr rfl]
  cases data with
  | nil => rfl
  | cons flag rest =>
      have hflag : (flag.toNat = 0) = (flag = 0) := by
        rw [← UInt8.toNat_inj]
        rfl
      dsimp only
      rw [Reader.read, bind_eq (readU8_cons flag rest)]
      simp only [hflag]
      rfl

/-- Any flag but 0 announces a holder. -/
theorem queryStrict_iff (now : Nat) : QueryStrict now payload ↔ QueryPlain payload := by
  constructor
  · rintro h flag ownerId ttl pending rfl
    by_cases hzero : flag = 0
    · exact .inl hzero
    · have hdecode : decodeQueryResponse now
          (0 :: flag :: (ownerId.bytes ++ ttl.bytes ++ pending.bytes)) =
          some (.held ownerId.text ttl.val pending.val (now / 1000 + ttl.val)) := by
        rw [decodeQueryResponse_success]
        dsimp only
        rw [if_neg hzero]
        exact (readHeld_reads now).read_eq_some_iff.mpr ⟨(ownerId, ttl, pending), rfl, rfl⟩
      obtain ⟨_, _, _, hpayload, -⟩ := h _ hdecode
      exact .inr (List.cons.inj (List.cons.inj hpayload).2).1
  · intro h response hdecode
    obtain hparse | ⟨e, message, he, hparse⟩ | ⟨data, rfl, hparse⟩ :=
        parseStandardResponse_cases payload
    · rw [decodeQueryResponse, hparse] at hdecode
      cases hdecode
    · rw [decodeQueryResponse, hparse] at hdecode
      obtain ⟨⟩ := hdecode
      exact ⟨message, he⟩
    · rw [decodeQueryResponse_success] at hdecode
      match data with
      | [] => cases hdecode
      | flag :: rest =>
        dsimp only at hdecode
        split_ifs at hdecode with hzero
        · obtain ⟨pending, rfl, rfl⟩ := readFree_reads.read_eq_some_iff.mp hdecode
          exact ⟨pending, by rw [hzero], rfl⟩
        · obtain ⟨⟨owner, ttl, pending⟩, rfl, rfl⟩ :=
            (readHeld_reads now).read_eq_some_iff.mp hdecode
          obtain rfl := (h flag owner ttl pending rfl).resolve_left hzero
          exact ⟨owner, ttl, pending, rfl, rfl, rfl, rfl, rfl⟩

/-! ## LIST -/

structure EncodedListItem where
  route : Prefixed
  ownerId : Prefixed
  holderIncarnation : Unsigned 8
  acquiredAt : Prefixed
  expiresInSecs : Unsigned 8
  renewals : Unsigned 4

def EncodedListItem.bytes (item : EncodedListItem) : Bytes :=
  item.route.bytes ++ item.ownerId.bytes ++ item.holderIncarnation.bytes ++
    item.acquiredAt.bytes ++ item.expiresInSecs.bytes ++ item.renewals.bytes

def EncodedListItem.item (item : EncodedListItem) : LeaseListItem where
  route := item.route.text
  ownerId := item.ownerId.text
  holderIncarnation := item.holderIncarnation.val
  acquiredAt := item.acquiredAt.text
  expiresInSecs := item.expiresInSecs.val
  renewals := item.renewals.val

abbrev EncodedCursor := Unsigned 8 × Unsigned 4

/-- `[u8 has_next]`, and the cursor if there is one. -/
def nextBytes : Option EncodedCursor → Bytes
  | none => [0]
  | some (snapshotId, offset) => 1 :: (snapshotId.bytes ++ offset.bytes)

def nextCursor (next : Option EncodedCursor) : Option LeaseListCursor :=
  next.map fun cursor => ⟨cursor.1.val, cursor.2.val⟩

/-- A page in the layout of LIST. -/
def IsListAnswer (payload : Bytes) (page : LeaseListPage) : Prop :=
  ∃ (items : List EncodedListItem) (next : Option EncodedCursor), items.length < 2 ^ 32 ∧
    payload = 0 :: (writeU32BE items.length ++ items.flatMap EncodedListItem.bytes ++
      nextBytes next) ∧
    page = ⟨items.map EncodedListItem.item, nextCursor next⟩

theorem readListItem_reads :
    Reads anything readListItem (fun item : EncodedListItem => item.bytes)
      EncodedListItem.item := by
  unfold readListItem
  refine Reads.congr (readString_reads.bind fun route => readString_reads.bind fun ownerId =>
    (readUBE_reads 8).bind fun incarnation => readString_reads.bind fun acquiredAt =>
    (readUBE_reads 8).bind fun expires => (readUBE_reads 4).bind fun renewals => Reads.pure
      (EncodedListItem.item ⟨route, ownerId, incarnation, acquiredAt, expires, renewals⟩)) ?_ ?_
  · rintro ⟨route, ownerId, incarnation, acquiredAt, expires, renewals, -⟩
    exact ⟨⟨route, ownerId, incarnation, acquiredAt, expires, renewals⟩,
      by simp [EncodedListItem.bytes], rfl⟩
  · rintro ⟨route, ownerId, incarnation, acquiredAt, expires, renewals⟩
    exact ⟨⟨route, ownerId, incarnation, acquiredAt, expires, renewals, ()⟩,
      by simp [EncodedListItem.bytes], rfl⟩

theorem readNextCursor_reads : Reads anything readNextCursor nextBytes nextCursor := by
  have hcursor : Reads anything (do
      let snapshotId ← readU64BE
      let offset ← readU32BE
      return some ({ snapshotId, offset } : LeaseListCursor)) _ _ :=
    (readUBE_reads 8).bind fun snapshotId => (readUBE_reads 4).map _
  intro input cursor rest
  unfold readNextCursor
  rw [readTag_eq_some]
  constructor
  · rintro ⟨tag, middle, -, rfl, h⟩
    split at h
    case h_1 =>
      obtain ⟨-, ⟨snapshotId, offset⟩, rfl, rfl⟩ := (hcursor _ _ _).mp h
      exact ⟨trivial, some (snapshotId, offset), rfl, rfl⟩
    case h_2 =>
      obtain ⟨⟩ := h
      exact ⟨trivial, none, rfl, rfl⟩
    case h_3 => cases h
  · rintro ⟨-, next, rfl, rfl⟩
    match next with
    | none => exact ⟨0, rest, by decide, rfl, rfl⟩
    | some (snapshotId, offset) =>
      exact ⟨1, _, by decide, rfl, (hcursor _ _ _).mpr ⟨trivial, ⟨snapshotId, offset⟩, rfl, rfl⟩⟩

theorem isListAnswer {page : LeaseListPage} (h : decodeListResponse payload = some page) :
    IsListAnswer payload page := by
  unfold decodeListResponse at h
  obtain hparse | ⟨e, message, he, hparse⟩ | ⟨data, rfl, hparse⟩ :=
      parseStandardResponse_cases payload <;> rw [hparse] at h
  · cases h
  · cases h
  · have hreads : Reads nothing (do
        let itemCount ← readU32BE
        let items ← many readListItem itemCount
        let nextCursor ← readNextCursor
        let eof ← isEOF
        guard (eof = true)
        return ({ items, nextCursor } : LeaseListPage)) _ _ :=
      readMany_reads readListItem_reads fun items => readNextCursor_reads.bind fun next =>
        Reads.finish _
    obtain ⟨⟨⟨items, hcount⟩, next, ⟨⟩⟩, rfl, rfl⟩ := hreads.read_eq_some_iff.mp h
    exact ⟨items, next, hcount, by simp, rfl⟩

/-! ## Notifications -/

/-- `[u64 sub_id][string route][u32 0]`. -/
def IsNotification (payload : Bytes) (notification : LeaseNotification) : Prop :=
  ∃ (subId : Unsigned 8) (route : Prefixed),
    payload = subId.bytes ++ route.bytes ++ writeU32BE 0 ∧
      notification = ⟨subId.val, route.text⟩

theorem isNotification {notification : LeaseNotification}
    (h : decodeNotification payload = some notification) : IsNotification payload notification := by
  have hreads : Reads nothing (do
      let subId ← readU64BE
      let route ← readString
      let notificationPayload ← do readBytes (← readU32BE)
      guard ¬ notificationPayload.length ≠ 0
      let eof ← isEOF
      guard (eof = true)
      return ({ subId, route } : LeaseNotification)) _ _ :=
    (readUBE_reads 8).bind fun subId => readString_reads.bind fun route =>
      readPrefixed_reads fun data => (Reads.check _).bind fun _ => Reads.finish _
  obtain ⟨⟨subId, route, ⟨data, _⟩, ⟨hempty⟩, ⟨⟩⟩, rfl, rfl⟩ := hreads.read_eq_some_iff.mp h
  obtain rfl := List.length_eq_zero_iff.mp (not_not.mp hempty)
  exact ⟨subId, route, by simp [Prefixed.bytes, writeLengthAndBytes], rfl⟩

end FitzTs.LeaseCodec
