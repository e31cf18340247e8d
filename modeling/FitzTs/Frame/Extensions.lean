import FitzTs.Frame.Codec
/-!
# FitzTs.Frame.Extensions

`frame/extensions.ts`: the envelope of core bytes and extension fields.

The decoder walks the payload with a cursor and reads numbers through a `DataView`, which throws a
`RangeError` where it is asked for bytes outside the payload: `Thrown` keeps the two exceptions
apart, so that the bound checks of the source have something to prove.

`IsEnvelope` is the format, and `encodeExtensions_eq_ok_iff` says that the encoder writes it.
-/

namespace FitzTs.Extensions

open BigEndian ArrayBuffer FrameCodec

def flagExtensionsPresent : Nat := 4

/-! ## Encoding -/

/-- The integer `n` with `previous < n <= max`, if it is one. -/
def above (previous max : Nat) : JsNumber → Option Nat
  | .integer n => if n ≤ previous ∨ n > max then none else some n.toNat
  | .other _ => none

/-- The loop of `encodeCapabilities`. -/
def setCapabilities (result : Bytes) (index previous : Nat) :
    List JsNumber → Except CodecError Bytes
  | [] => .ok result
  | id :: ids =>
    match above previous 0xffffffff id with
    | none => .error ⟨"Capabilities must be nonzero ascending u32 IDs"⟩
    | some n => setCapabilities (overwrite result (2 + 4 * index) (toBytes 4 n)) (index + 1) n ids

def encodeCapabilities (ids : List JsNumber) : Except CodecError Bytes :=
  if ids.length > 0xffff then .error ⟨"Too many capabilities"⟩
  else
    let result := List.replicate (2 + 4 * ids.length) 0
    setCapabilities (overwrite result 0 (toBytes 2 ids.length)) 0 0 ids

/-- The loop of `encodeExtensions`. -/
def setFields (result : Bytes) (cursor previous : Nat) :
    List (JsNumber × Bytes) → Except CodecError Bytes
  | [] => .ok result
  | (id, value) :: fields =>
    match above previous 0xffff id with
    | none => .error ⟨"Extension IDs must be nonzero and ascending"⟩
    | some n =>
      let result := overwrite result cursor (toBytes 2 n)
      let result := overwrite result (cursor + 2) (toBytes 4 value.length)
      let result := overwrite result (cursor + 6) value
      setFields result (cursor + 6 + value.length) n fields

def encodeExtensions (core : Bytes) (fields : List (JsNumber × Bytes)) : Except CodecError Bytes :=
  if fields.length = 0 then .ok core
  else
    let size := 4 + core.length + (fields.map fun field => 6 + field.2.length).sum
    if size + 15 > 1024 * 1024 then .error ⟨"Extensions exceed message size limit"⟩
    else
      let result := overwrite (List.replicate size 0) 0 (toBytes 4 core.length)
      setFields (overwrite result 4 core) (4 + core.length) 0 fields

/-! ## Decoding -/

/-- What can be thrown: a `CodecError`, or the `RangeError` of a `DataView`. -/
inductive Thrown
  | codec (error : CodecError)
  | range
  deriving DecidableEq, Repr

def codecError {α : Type} (message : String) : Except Thrown α := .error (.codec ⟨message⟩)

/-- `view.getUint16(offset)` and `view.getUint32(offset)`, for `k` bytes. -/
def viewUint (payload : Bytes) (offset k : Nat) : Except Thrown Nat :=
  if offset + k ≤ payload.length then .ok (getUint payload offset k) else .error .range

/-- The inner loop: the capabilities from `index` on, of which there are `remaining`. -/
def decodeCapabilities (payload : Bytes) (cursor : Nat) :
    (remaining index previous : Nat) → Except Thrown (List Nat)
  | 0, _, _ => .ok []
  | remaining + 1, index, previous => do
    let value ← viewUint payload (cursor + 2 + index * 4) 4
    if value ≤ previous then codecError "Capabilities must be nonzero and ascending"
    else
      let values ← decodeCapabilities payload cursor remaining (index + 1) value
      return value :: values

/-- The value of a capability field. -/
def decodeCapabilityField (payload : Bytes) (cursor size : Nat)
    (capabilityIds : Option (List Nat)) :
    Except Thrown (List Nat) :=
  if capabilityIds.isSome ∨ size < 2 then codecError "Duplicate or truncated capabilities"
  else do
    let count ← viewUint payload cursor 2
    if size ≠ 2 + count * 4 then codecError "Capability length mismatch"
    else decodeCapabilities payload cursor count 0 0

/-- The variables of the outer loop. -/
structure DecodeState where
  cursor : Nat
  capabilityIds : Option (List Nat) := none
  deriving DecidableEq, Repr

/-- The body of the outer loop. -/
def decodeField (payload : Bytes) (handshake : Bool) (s : DecodeState) :
    Except Thrown DecodeState :=
  if payload.length - s.cursor < 6 then codecError "Truncated extension header"
  else do
    let id ← viewUint payload s.cursor 2
    let size ← viewUint payload (s.cursor + 2) 4
    let cursor := s.cursor + 6
    if id = 0 ∨ size > payload.length - cursor then codecError "Invalid extension ID or length"
    else if handshake ∧ id = 1 then do
      let capabilityIds ← decodeCapabilityField payload cursor size s.capabilityIds
      return ⟨cursor + size, some capabilityIds⟩
    else return ⟨cursor + size, s.capabilityIds⟩

section

variable {α β : Type} {x : Except Thrown α} {f : α → Except Thrown β}

theorem bind_eq_ok {b : β} : (x >>= f) = .ok b ↔ ∃ a, x = .ok a ∧ f a = .ok b := by
  cases x with
  | error e => exact iff_of_false (fun h => by cases h) (fun ⟨_, h, _⟩ => by cases h)
  | ok a => exact ⟨fun h => ⟨a, rfl, h⟩, fun ⟨_, ha, h⟩ => by cases ha; exact h⟩

theorem bind_ne_range (hx : x ≠ .error .range) (hf : ∀ a, x = .ok a → f a ≠ .error .range) :
    x >>= f ≠ .error .range := by
  cases x with
  | error e => exact fun h => hx (congrArg Except.error (Except.error.inj h))
  | ok a => exact hf a rfl

end

theorem decodeField_cursor {payload : Bytes} {handshake : Bool} {s s' : DecodeState}
    (h : decodeField payload handshake s = .ok s') : s.cursor < s'.cursor := by
  unfold decodeField at h
  split at h
  · cases h
  · obtain ⟨id, -, h⟩ := bind_eq_ok.mp h
    obtain ⟨size, -, h⟩ := bind_eq_ok.mp h
    dsimp only at h
    split_ifs at h
    · cases h
    · obtain ⟨ids, -, h⟩ := bind_eq_ok.mp h
      obtain rfl := Except.ok.inj h
      change s.cursor < s.cursor + 6 + size
      omega
    · obtain rfl := Except.ok.inj h
      change s.cursor < s.cursor + 6 + size
      omega

/-- The outer loop. -/
def decodeFields (payload : Bytes) (handshake : Bool) (s : DecodeState) :
    Except Thrown (Option (List Nat)) :=
  if s.cursor < payload.length then
    match h : decodeField payload handshake s with
    | .error e => .error e
    | .ok s' =>
      have := decodeField_cursor h
      decodeFields payload handshake s'
  else .ok s.capabilityIds
termination_by payload.length - s.cursor

structure DecodedExtensions where
  core : Bytes
  capabilityIds : List Nat
  deriving DecidableEq, Repr

def decodeExtensions (payload : Bytes) (messageType flags : Nat) :
    Except Thrown DecodedExtensions :=
  let handshake : Bool := messageType = 2
  if flags &&& flagExtensionsPresent = 0 then
    if handshake then codecError "HELLO requires capability extensions"
    else .ok { core := payload, capabilityIds := [] }
  else if payload.length < 4 then codecError "Truncated extension core length"
  else do
    let coreEnd := 4 + (← viewUint payload 0 4)
    if coreEnd ≥ payload.length then codecError "Core exceeds bounds or extensions are missing"
    else
      let capabilityIds ← decodeFields payload handshake { cursor := coreEnd }
      if handshake ∧ capabilityIds = none then codecError "HELLO capability list is missing"
      else return {
        core := (payload.take coreEnd).drop 4
        capabilityIds := capabilityIds.getD [] }

/-! ## The format -/

/-- Ascending numbers above `previous`, none above `max`. -/
structure Ascends (previous max : Nat) (ns : List Nat) : Prop where
  chain : (previous :: ns).IsChain (· < ·)
  le : ∀ n ∈ ns, n ≤ max

/-- An extension field. -/
structure Field where
  id : Nat
  value : Bytes
  deriving DecidableEq, Repr

def Field.bytes (field : Field) : Bytes :=
  toBytes 2 field.id ++ toBytes 4 field.value.length ++ field.value

/-- The field as the encoder takes it. -/
def Field.argument (field : Field) : JsNumber × Bytes := (.integer field.id, field.value)

structure Field.Valid (field : Field) : Prop where
  id_ne_zero : field.id ≠ 0
  id_lt : field.id < 2 ^ 16
  length_lt : field.value.length < 2 ^ 32

/-- Capabilities as the encoder takes them. -/
def capabilityArguments (ids : List Nat) : List JsNumber := ids.map fun id : Nat => .integer id

@[simp] theorem length_capabilityArguments (ids : List Nat) :
    (capabilityArguments ids).length = ids.length := List.length_map _

/-- The value of a capability field. -/
def capabilityBytes (ids : List Nat) : Bytes := toBytes 2 ids.length ++ ids.flatMap (toBytes 4)

structure ValidCapabilities (ids : List Nat) : Prop where
  length_lt : ids.length < 2 ^ 16
  ascends : Ascends 0 0xffffffff ids

/-- The envelope of the given core and fields. -/
def envelope (core : Bytes) (fields : List Field) : Bytes :=
  toBytes 4 core.length ++ core ++ fields.flatMap Field.bytes

/-- The core, and at least one field. A HELLO has one capability field, of the given ids. -/
structure IsEnvelope (handshake : Bool) (payload core : Bytes) (fields : List Field)
    (capabilityIds : List Nat) : Prop where
  payload_eq : payload = envelope core fields
  core_lt : core.length < 2 ^ 32
  fields_ne : fields ≠ []
  valid : ∀ field ∈ fields, field.Valid
  capabilities : if handshake then
    fields.filter (·.id = 1) = [⟨1, capabilityBytes capabilityIds⟩] ∧
      ValidCapabilities capabilityIds
    else capabilityIds = []

/-! ## What is encoded -/

section

variable {previous max n : Nat} {ns : List Nat}

theorem ascends_nil : Ascends previous max [] := ⟨by simp, by simp⟩

theorem ascends_cons :
    Ascends previous max (n :: ns) ↔ previous < n ∧ n ≤ max ∧ Ascends n max ns := by
  constructor
  · rintro ⟨hchain, hle⟩
    rw [List.isChain_cons_cons] at hchain
    exact ⟨hchain.1, hle n (List.mem_cons_self ..), hchain.2,
      fun m hm => hle m (List.mem_cons_of_mem _ hm)⟩
  · rintro ⟨hlt, hle, hchain, hle'⟩
    exact ⟨List.isChain_cons_cons.mpr ⟨hlt, hchain⟩, List.forall_mem_cons.mpr ⟨hle, hle'⟩⟩

theorem above_eq_some_iff {id : JsNumber} :
    above previous max id = some n ↔ id = .integer n ∧ previous < n ∧ n ≤ max := by
  cases id with
  | other text => simp [above]
  | integer i =>
      simp only [above, Option.ite_none_left_eq_some, Option.some.injEq, JsNumber.integer.injEq]
      omega

end

/-- **The inner encoder** writes ascending ids behind what has been written. -/
theorem setCapabilities_eq_ok_iff {written rest result : Bytes} {index previous : Nat}
    {ids : List JsNumber} (hindex : written.length = 2 + 4 * index) :
    setCapabilities (written ++ rest) index previous ids = .ok result ↔
      ∃ ns : List Nat, ids = capabilityArguments ns ∧ Ascends previous 0xffffffff ns ∧
        result = written ++ ns.flatMap (toBytes 4) ++ rest.drop (4 * ns.length) := by
  induction ids generalizing written rest index previous with
  | nil =>
      rw [setCapabilities]
      constructor
      · rintro ⟨⟩
        exact ⟨[], rfl, ascends_nil, by simp⟩
      · rintro ⟨ns, hns, -, rfl⟩
        obtain rfl := List.map_eq_nil_iff.mp hns.symm
        simp
  | cons id ids ih =>
      rw [setCapabilities]
      split
      case h_1 habove =>
        refine iff_of_false (fun h => by cases h) ?_
        rintro ⟨ns, hns, hascends, -⟩
        cases ns with
        | nil => cases hns
        | cons n ns =>
            obtain ⟨rfl, -⟩ := List.cons.inj hns
            obtain ⟨hlt, hle, -⟩ := ascends_cons.mp hascends
            rw [above_eq_some_iff.mpr ⟨rfl, hlt, hle⟩] at habove
            cases habove
      case h_2 n habove =>
        obtain ⟨rfl, hlt, hle⟩ := above_eq_some_iff.mp habove
        rw [overwrite_append hindex, length_toBytes, ih (by simp; omega)]
        constructor
        · rintro ⟨ns, rfl, hascends, rfl⟩
          refine ⟨n :: ns, rfl, ascends_cons.mpr ⟨hlt, hle, hascends⟩, ?_⟩
          simp [Nat.mul_add, Nat.add_comm]
        · rintro ⟨ns, hns, hascends, rfl⟩
          cases ns with
          | nil => cases hns
          | cons m ns =>
              obtain ⟨hm, rfl⟩ := List.cons.inj hns
              obtain rfl : n = m := by simpa using hm
              obtain ⟨-, -, hascends⟩ := ascends_cons.mp hascends
              exact ⟨ns, rfl, hascends, by simp [Nat.mul_add, Nat.add_comm]⟩

/-- **The capability encoder.** -/
theorem encodeCapabilities_eq_ok_iff {ids : List JsNumber} {value : Bytes} :
    encodeCapabilities ids = .ok value ↔ ∃ ns : List Nat, ids = capabilityArguments ns ∧
      ValidCapabilities ns ∧ value = capabilityBytes ns := by
  have hwritten : ∀ ns : List Nat, (toBytes 2 ids.length ++ ns.flatMap (toBytes 4) ++
      (List.replicate (4 * ids.length) 0).drop (4 * ids.length) : Bytes) =
        toBytes 2 ids.length ++ ns.flatMap (toBytes 4) := by simp
  have hset : ∀ result, setCapabilities (overwrite (List.replicate (2 + 4 * ids.length) 0) 0
      (toBytes 2 ids.length)) 0 0 ids = .ok result ↔ ∃ ns : List Nat, ids = capabilityArguments ns ∧
        Ascends 0 0xffffffff ns ∧ result = capabilityBytes ns := by
    intro result
    rw [overwrite_zero, length_toBytes, List.drop_replicate, Nat.add_sub_cancel_left,
      setCapabilities_eq_ok_iff (by simp)]
    refine exists_congr fun ns => and_congr_right fun hns => and_congr_right fun _ => ?_
    have hlength : ns.length = ids.length := by rw [hns, length_capabilityArguments]
    rw [hlength, hwritten, capabilityBytes, hlength]
  unfold encodeCapabilities
  split
  case isTrue hlong =>
    refine iff_of_false (fun h => by cases h) ?_
    rintro ⟨ns, rfl, hvalid, -⟩
    have hlt := hvalid.length_lt
    rw [length_capabilityArguments] at hlong
    omega
  case isFalse hshort =>
    rw [hset]
    refine exists_congr fun ns => and_congr_right fun hns => ?_
    have hlength : ns.length = ids.length := by rw [hns, length_capabilityArguments]
    exact ⟨fun ⟨hascends, h⟩ => ⟨⟨by omega, hascends⟩, h⟩, fun ⟨hvalid, h⟩ => ⟨hvalid.ascends, h⟩⟩

theorem setFields_eq_ok_iff {written rest result : Bytes} {cursor previous : Nat}
    {fields : List (JsNumber × Bytes)} (hcursor : written.length = cursor) :
    setFields (written ++ rest) cursor previous fields = .ok result ↔
      ∃ fs : List Field, fields = fs.map Field.argument ∧
        Ascends previous 0xffff (fs.map Field.id) ∧ result = written ++ fs.flatMap Field.bytes ++
          rest.drop (fs.flatMap Field.bytes).length := by
  induction fields generalizing written rest cursor previous with
  | nil =>
      rw [setFields]
      constructor
      · rintro ⟨⟩
        exact ⟨[], rfl, ascends_nil, by simp⟩
      · rintro ⟨fs, hfs, -, rfl⟩
        obtain rfl := List.map_eq_nil_iff.mp hfs.symm
        simp
  | cons field fields ih =>
      obtain ⟨id, value⟩ := field
      rw [setFields]
      split
      -- identifiers must ascend
      case h_1 habove =>
        refine iff_of_false (fun h => by cases h) ?_
        rintro ⟨fs, hfs, hascends, -⟩
        cases fs with
        | nil => cases hfs
        | cons f fs =>
            obtain ⟨hf, -⟩ := List.cons.inj hfs
            obtain ⟨rfl, -⟩ := Prod.mk.inj hf
            obtain ⟨hlt, hle, -⟩ := ascends_cons.mp hascends
            rw [above_eq_some_iff.mpr ⟨rfl, hlt, hle⟩] at habove
            cases habove
      case h_2 n habove =>
        obtain ⟨rfl, hlt, hle⟩ := above_eq_some_iff.mp habove
        -- the three writes of a field are the bytes of the field
        have hwritten : overwrite (overwrite (overwrite (written ++ rest) cursor (toBytes 2 n))
            (cursor + 2) (toBytes 4 value.length)) (cursor + 6) value =
              written ++ (Field.mk n value).bytes ++ rest.drop (6 + value.length) := by
          rw [overwrite_append hcursor, overwrite_append (by simp [hcursor]),
            overwrite_append (by simp [hcursor])]
          simp [Field.bytes]
        have hlength : (Field.mk n value).bytes.length = 6 + value.length := by
          simp [Field.bytes]
          omega
        simp only [hwritten]
        rw [ih (by rw [List.length_append, hlength, hcursor, Nat.add_assoc])]
        constructor
        · rintro ⟨fs, rfl, hascends, rfl⟩
          refine ⟨⟨n, value⟩ :: fs, rfl, ascends_cons.mpr ⟨hlt, hle, hascends⟩, ?_⟩
          simp [hlength, List.drop_drop]
        · rintro ⟨fs, hfs, hascends, rfl⟩
          cases fs with
          | nil => cases hfs
          | cons f fs =>
              obtain ⟨hf, rfl⟩ := List.cons.inj hfs
              obtain ⟨hid, rfl⟩ := Prod.mk.inj hf
              obtain rfl : n = f.id := by simpa using hid
              obtain ⟨-, -, hascends⟩ := ascends_cons.mp hascends
              exact ⟨fs, rfl, hascends, by simp [hlength, List.drop_drop]⟩

theorem Field.length_bytes (field : Field) : field.bytes.length = 6 + field.value.length := by
  simp only [Field.bytes, List.length_append, length_toBytes]

theorem length_envelope (core : Bytes) (fields : List Field) :
    (envelope core fields).length =
      4 + core.length + (fields.map fun field => 6 + field.value.length).sum := by
  simp only [envelope, List.length_append, length_toBytes, List.length_flatMap,
    Field.length_bytes]

/-- **The encoder** writes the envelopes that fit the size limit, of fields in ascending order. -/
theorem encodeExtensions_eq_ok_iff {core payload : Bytes} {fields : List (JsNumber × Bytes)}
    (hne : fields ≠ []) :
    encodeExtensions core fields = .ok payload ↔ ∃ fs : List Field,
      fields = fs.map Field.argument ∧ Ascends 0 0xffff (fs.map Field.id) ∧
        payload.length + 15 ≤ 1024 * 1024 ∧ payload = envelope core fs := by
  unfold encodeExtensions
  rw [if_neg (by simpa using hne)]
  have hsize : ∀ fs : List Field, fields = fs.map Field.argument →
      4 + core.length + (fields.map fun field => 6 + field.2.length).sum =
        (envelope core fs).length := by
    rintro fs rfl
    rw [length_envelope, List.map_map]
    rfl
  have hset : ∀ (size : Nat) (payload : Bytes), setFields (overwrite (overwrite
      (List.replicate size 0) 0 (toBytes 4 core.length)) 4 core) (4 + core.length) 0 fields =
        .ok payload ↔ ∃ fs : List Field, fields = fs.map Field.argument ∧
          Ascends 0 0xffff (fs.map Field.id) ∧
            payload = envelope core fs ++ List.replicate (size - (envelope core fs).length) 0 := by
    intro size payload
    rw [overwrite_zero, overwrite_append (by simp), setFields_eq_ok_iff (by simp)]
    refine exists_congr fun fs => and_congr_right fun _ => and_congr_right fun _ => ?_
    simp only [envelope, List.drop_replicate, List.length_append, length_toBytes, Nat.sub_sub,
      Nat.add_assoc]
  dsimp only
  split
  case isTrue hlong =>
    refine iff_of_false (fun h => by cases h) ?_
    rintro ⟨fs, hfs, -, hsmall, rfl⟩
    rw [hsize fs hfs] at hlong
    omega
  case isFalse hshort =>
    rw [hset]
    refine exists_congr fun fs => and_congr_right fun hfs => and_congr_right fun _ => ?_
    rw [hsize fs hfs] at hshort ⊢
    rw [Nat.sub_self, List.replicate_zero, List.append_nil]
    refine ⟨?_, And.right⟩
    rintro rfl
    exact ⟨Nat.le_of_not_lt hshort, rfl⟩

end FitzTs.Extensions
