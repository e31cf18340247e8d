import FitzTs.Lib.ArrayBuffer
/-!
# FitzTs.Frame.Codec

`encodeFrame`, `decodeFrame` and `withCorrelation` of `frame/codec.ts`.

A message is a header of 15 bytes (type, flags, correlation id and payload length, big-endian) and
its payload. The encoders make a new buffer and write to it; what they are given and what they
return are windows of buffers. `decodeFrame` only reads, so it is a function of the bytes of its
argument, and the payload it returns (`frame.subarray(15)`) is given by its bytes.

`Frame.bytes` is the format: `decodeFrame_eq_ok` says that the decoder accepts the messages of this
form and no others, and `encodeFrame_eq_ok` that the encoder writes them.
-/

namespace FitzTs.FrameCodec

open BigEndian ArrayBuffer

abbrev Bytes := List UInt8

def headerLength : Nat := 15
def defaultMaxMessageBytes : Nat := 1024 * 1024
def reservedFlags : Nat := 0xf8
def maxU64 : Nat := 0xffffffffffffffff

/-- A `CodecError`. -/
structure CodecError where
  message : String
  deriving DecidableEq, Repr

/-- A JavaScript number: an integer, or one that is not, with its text. -/
inductive JsNumber
  | integer (n : Int)
  | other (text : String)
  deriving DecidableEq, Repr

def JsNumber.text : JsNumber → String
  | .integer n => toString n
  | .other text => text

/-- The integer `n` with `0 <= n <= max`, if it is one. -/
def JsNumber.upTo (max : Nat) : JsNumber → Option Nat
  | .integer n => if 0 ≤ n ∧ n ≤ max then some n.toNat else none
  | .other _ => none

/-- A message. -/
structure Frame where
  messageType : Nat
  flags : Nat
  correlation : Nat
  payload : Bytes
  deriving DecidableEq, Repr

structure FrameOptions where
  flags : Option JsNumber := none
  correlation : Option Int := none

/-- `flags`, where none of the reserved ones is set. -/
def validFlags (flags : JsNumber) : Option Nat :=
  (flags.upTo 0xff).filter fun flags => flags &&& reservedFlags = 0

/-- The four writes of the header, through a `DataView` of the whole buffer. -/
def writeHeader (m : Memory) (buffer : BufferId)
    (messageType flags correlation payloadLength : Nat) : Memory :=
  let m := m.setBuffer buffer 0 (toBytes 2 messageType)
  let m := m.setBuffer buffer 2 (toBytes 1 flags)
  let m := m.setBuffer buffer 3 (toBytes 8 correlation)
  m.setBuffer buffer 11 (toBytes 4 payloadLength)

/-- The header, and the payload behind it. -/
def writeFrame (m : Memory) (messageType flags correlation : Nat) (payload : Uint8Array) :
    Memory × Uint8Array :=
  let (m, frame) := m.alloc (headerLength + payload.byteLength)
  let m := writeHeader m frame.buffer messageType flags correlation payload.byteLength
  (m.set frame headerLength (m.bytes payload), frame)

def encodeFrame (m : Memory) (messageType : JsNumber) (payload : Uint8Array)
    (options : FrameOptions) : Except CodecError (Memory × Uint8Array) :=
  match messageType.upTo 0xffff with
  | none => .error ⟨s!"Invalid message type: {messageType.text}"⟩
  | some type =>
    let flags := options.flags.getD (.integer 0)
    let correlation := options.correlation.getD 0
    match validFlags flags with
    | none => .error ⟨s!"Invalid message flags: {flags.text}"⟩
    | some bits =>
      if correlation < 0 ∨ correlation > maxU64 then
        .error ⟨s!"Invalid correlation id: {correlation}"⟩
      else if payload.byteLength + headerLength > defaultMaxMessageBytes then
        .error ⟨s!"Message exceeds {defaultMaxMessageBytes} bytes"⟩
      else .ok (writeFrame m type bits correlation.toNat payload)

def decodeFrame (frame : Bytes) (maxMessageBytes : Nat := defaultMaxMessageBytes) :
    Except CodecError Frame :=
  if frame.length < headerLength then
    .error ⟨s!"Message header is truncated: got {frame.length} bytes"⟩
  else
    let messageType := getUint frame 0 2
    let flags := getUint frame 2 1
    if flags &&& reservedFlags ≠ 0 then .error ⟨s!"Reserved message flags are set: {flags}"⟩
    else
      let correlation := getUint frame 3 8
      let payloadLength := getUint frame 11 4
      if payloadLength + headerLength > maxMessageBytes then
        .error ⟨s!"Message exceeds negotiated limit of {maxMessageBytes} bytes"⟩
      else
        let actualPayloadLength := frame.length - headerLength
        if actualPayloadLength ≠ payloadLength then
          .error
            ⟨s!"Message length mismatch: declared {payloadLength}, got {actualPayloadLength}"⟩
        else .ok { messageType, flags, correlation, payload := frame.drop headerLength }

def withCorrelation (m : Memory) (frame : Uint8Array) (correlation : Int) :
    Except CodecError (Memory × Uint8Array) :=
  if correlation ≤ 0 ∨ correlation > maxU64 then
    .error ⟨s!"Invalid request correlation: {correlation}"⟩
  else if frame.byteLength < headerLength then
    .error ⟨"Cannot label a truncated message"⟩
  else
    let (m, labelled) := m.slice frame
    .ok (m.setBuffer labelled.buffer 3 (toBytes 8 correlation.toNat), labelled)

/-! ### The format -/

/-- The fields fit the header, and no reserved flag is set. -/
structure Frame.Valid (f : Frame) : Prop where
  messageType : f.messageType < 2 ^ 16
  flags : f.flags < 8
  correlation : f.correlation < 2 ^ 64
  payload : f.payload.length < 2 ^ 32

/-- The message of a frame. -/
def Frame.bytes (f : Frame) : Bytes :=
  toBytes 2 f.messageType ++ (toBytes 1 f.flags ++ (toBytes 8 f.correlation ++
    (toBytes 4 f.payload.length ++ f.payload)))

variable {m : Memory} {f : Frame} {frame : Bytes} {maxMessageBytes : Nat}

theorem Frame.length_bytes (f : Frame) : f.bytes.length = headerLength + f.payload.length := by
  simp [Frame.bytes, headerLength]
  omega

/-- The flags that are not reserved are the three low bits. -/
theorem reserved_iff {flags : Nat} (h : flags < 256) : flags &&& reservedFlags = 0 ↔ flags < 8 := by
  have every : ∀ flags < 256, flags &&& reservedFlags = 0 ↔ flags < 8 := by
    decide +kernel
  exact every flags h

/-! ### Decoding -/

theorem Frame.Valid.getUint_length (h : f.Valid) : getUint f.bytes 11 4 = f.payload.length := by
  have hread : getUint ((toBytes 2 f.messageType ++ (toBytes 1 f.flags ++
      toBytes 8 f.correlation)) ++ (toBytes 4 f.payload.length ++ f.payload)) 11 4 =
        f.payload.length := getUint_append (by simp) (h.payload.trans_le (by decide))
  rwa [List.append_assoc, List.append_assoc] at hread

theorem Frame.Valid.decode (h : f.Valid)
    (hmax : headerLength + f.payload.length ≤ maxMessageBytes) :
    decodeFrame f.bytes maxMessageBytes = .ok f := by
  have htype : getUint f.bytes 0 2 = f.messageType :=
    getUint_append (l := []) rfl (h.messageType.trans_le (by decide))
  have hflags : getUint f.bytes 2 1 = f.flags :=
    getUint_append (l := toBytes 2 f.messageType) length_toBytes (h.flags.trans_le (by decide))
  have hcorrelation : getUint f.bytes 3 8 = f.correlation := by
    have hread : getUint ((toBytes 2 f.messageType ++ toBytes 1 f.flags) ++
        (toBytes 8 f.correlation ++ (toBytes 4 f.payload.length ++ f.payload))) 3 8 =
          f.correlation := getUint_append (by simp) (h.correlation.trans_le (by decide))
    rwa [List.append_assoc] at hread
  have hlength := h.getUint_length
  have hpayload : f.bytes.drop headerLength = f.payload := by
    have hsplit : f.bytes = (toBytes 2 f.messageType ++ (toBytes 1 f.flags ++
        (toBytes 8 f.correlation ++ toBytes 4 f.payload.length))) ++ f.payload := by
      simp [Frame.bytes]
    rw [hsplit]
    exact List.drop_left' (by simp [headerLength])
  have hflags' : f.flags &&& reservedFlags = 0 :=
    (reserved_iff (h.flags.trans (by decide))).mpr h.flags
  unfold decodeFrame
  dsimp only
  rw [htype, hflags, hcorrelation, hlength, hpayload, f.length_bytes, if_neg (by omega),
    if_neg (not_not.mpr hflags'), if_neg (by omega), if_neg (by omega)]

/-- A byte string of at least 15 bytes is the four fields of its header and the rest. -/
theorem header_append (h : headerLength ≤ frame.length) :
    toBytes 2 (getUint frame 0 2) ++ (toBytes 1 (getUint frame 2 1) ++
      (toBytes 8 (getUint frame 3 8) ++ (toBytes 4 (getUint frame 11 4) ++
        frame.drop headerLength))) = frame := by
  unfold headerLength at h ⊢
  rw [toBytes_getUint (by omega), toBytes_getUint (by omega), toBytes_getUint (by omega),
    toBytes_getUint (by omega)]
  have step : ∀ offset k, (frame.drop offset).take k ++ frame.drop (offset + k) =
      frame.drop offset := by
    intro offset k
    rw [← List.drop_drop, List.take_append_drop]
  rw [step 11 4, step 3 8, step 2 1, step 0 2, List.drop_zero]

/-- The decoder accepts the messages of valid frames within the limit. -/
theorem decodeFrame_eq_ok : decodeFrame frame maxMessageBytes = .ok f ↔
    f.Valid ∧ headerLength + f.payload.length ≤ maxMessageBytes ∧ frame = f.bytes := by
  constructor
  · intro h
    unfold decodeFrame at h
    split at h
    · cases h
    · rename_i hheader
      dsimp only at h
      split at h
      · cases h
      · rename_i hflags
        split at h
        · cases h
        · rename_i hlimit
          split at h
          · cases h
          · rename_i hlength
            obtain rfl := Except.ok.inj h
            have hpayload : (frame.drop headerLength).length = getUint frame 11 4 := by
              rw [List.length_drop]
              exact not_not.mp hlength
            refine ⟨⟨getUint_lt _ _ _, ?_, getUint_lt _ _ _, ?_⟩, ?_, ?_⟩
            · exact (reserved_iff (getUint_lt _ _ _)).mp (not_not.mp hflags)
            · exact hpayload ▸ getUint_lt _ _ _
            · change headerLength + (frame.drop headerLength).length ≤ maxMessageBytes
              omega
            · change frame = toBytes 2 (getUint frame 0 2) ++ (toBytes 1 (getUint frame 2 1) ++
                (toBytes 8 (getUint frame 3 8) ++
                  (toBytes 4 (frame.drop headerLength).length ++ frame.drop headerLength)))
              rw [hpayload, header_append (Nat.le_of_not_lt hheader)]
  · rintro ⟨hvalid, hmax, rfl⟩
    exact hvalid.decode hmax

/-! ### Encoding -/

/-- The arguments of `encodeFrame` are the fields of `f`. -/
structure Frame.Given (f : Frame) (messageType : JsNumber) (payload : Bytes)
    (options : FrameOptions) : Prop where
  messageType : messageType = .integer f.messageType
  flags : options.flags.getD (.integer 0) = .integer f.flags
  correlation : options.correlation.getD 0 = f.correlation
  payload : payload = f.payload

/-- A frame that `encodeFrame` takes. -/
structure Frame.Encodable (f : Frame) : Prop where
  messageType : f.messageType ≤ 0xffff
  flags : f.flags ≤ 7
  correlation : f.correlation < 2 ^ 64
  payload : f.payload.length + headerLength ≤ defaultMaxMessageBytes

theorem Frame.Encodable.valid (h : f.Encodable) : f.Valid where
  messageType := Nat.lt_succ_of_le h.messageType
  flags := Nat.lt_succ_of_le h.flags
  correlation := h.correlation
  payload := by
    have hlength := h.payload
    unfold headerLength defaultMaxMessageBytes at hlength
    omega

theorem Frame.encodable_iff :
    f.Encodable ↔ f.Valid ∧ headerLength + f.payload.length ≤ defaultMaxMessageBytes := by
  constructor
  · exact fun h => ⟨h.valid, (Nat.add_comm _ _).trans_le h.payload⟩
  · rintro ⟨h, hmax⟩
    exact ⟨Nat.le_of_lt_succ h.messageType, Nat.le_of_lt_succ h.flags, h.correlation,
      (Nat.add_comm _ _).trans_le hmax⟩

theorem JsNumber.upTo_eq_some {max n : Nat} {x : JsNumber} :
    x.upTo max = some n ↔ x = .integer n ∧ n ≤ max := by
  cases x with
  | integer i =>
      simp only [JsNumber.upTo, Option.ite_none_right_eq_some, Option.some.injEq,
        JsNumber.integer.injEq]
      omega
  | other => simp [JsNumber.upTo]

theorem validFlags_eq_some {x : JsNumber} {flags : Nat} :
    validFlags x = some flags ↔ x = .integer flags ∧ flags ≤ 7 := by
  rw [validFlags, Option.filter_eq_some_iff, JsNumber.upTo_eq_some, decide_eq_true_eq]
  constructor
  · rintro ⟨⟨rfl, hle⟩, hreserved⟩
    exact ⟨rfl, Nat.le_of_lt_succ ((reserved_iff (Nat.lt_succ_of_le hle)).mp hreserved)⟩
  · rintro ⟨rfl, hle⟩
    exact ⟨⟨rfl, hle.trans (by decide)⟩, (reserved_iff (by omega)).mpr (Nat.lt_succ_of_le hle)⟩

theorem writeHeader_grows {m' : Memory} (h : m.Grows m') {buffer : BufferId}
    (hb : m.allocated ≤ buffer) (messageType flags correlation payloadLength : Nat) :
    m.Grows (writeHeader m' buffer messageType flags correlation payloadLength) :=
  (((h.setBuffer hb _ _).setBuffer hb _ _).setBuffer hb _ _).setBuffer hb _ _

/-- The new buffer is filled from left to right. -/
theorem writeHeader_contents (m : Memory) (buffer : BufferId)
    (messageType flags correlation payloadLength : Nat) :
    (writeHeader m buffer messageType flags correlation payloadLength).contents buffer =
      (toBytes 2 messageType ++ toBytes 1 flags ++ toBytes 8 correlation ++
        toBytes 4 payloadLength) ++ (m.contents buffer).drop headerLength := by
  unfold writeHeader
  simp only [Memory.setBuffer_contents]
  rw [overwrite_zero, overwrite_append length_toBytes, overwrite_append (by simp),
    overwrite_append (by simp)]
  simp [headerLength]

theorem writeFrame_bytes {payload : Uint8Array} (h : m.Holds payload)
    (messageType flags correlation : Nat) :
    (writeFrame m messageType flags correlation payload).1.bytes
        (writeFrame m messageType flags correlation payload).2 =
      Frame.bytes { messageType, flags, correlation, payload := m.bytes payload } := by
  have hlength := h.length_bytes
  have hfresh : m.allocated ≤ (m.alloc (headerLength + payload.byteLength)).2.buffer := le_rfl
  have hgrows := writeHeader_grows (m.alloc_grows (headerLength + payload.byteLength)) hfresh
    messageType flags correlation payload.byteLength
  unfold writeFrame
  dsimp only
  -- The payload is read from a buffer that was there before.
  rw [hgrows.bytes h]
  generalize m.bytes payload = bs at hlength ⊢
  unfold Memory.bytes Memory.set
  rw [Memory.setBuffer_contents, writeHeader_contents, Memory.alloc_contents]
  dsimp only [Memory.alloc]
  have hrest : ((List.replicate (headerLength + payload.byteLength) (0 : UInt8)).drop
      headerLength).drop bs.length = [] := by
    rw [hlength]
    simp
  rw [Nat.zero_add, overwrite_append (by simp [headerLength]), hrest, List.append_nil,
    List.drop_zero, List.take_of_length_le (by simp [headerLength, hlength]; omega)]
  simp [Frame.bytes, hlength]

/-- What `encodeFrame` takes is an encodable frame, and it writes its message. -/
theorem encodeFrame_cases {payload : Uint8Array} (h : m.Holds payload) (messageType : JsNumber)
    (options : FrameOptions) :
    (∃ f : Frame, f.Given messageType (m.bytes payload) options ∧ f.Encodable ∧
        ∃ m' frame, encodeFrame m messageType payload options = .ok (m', frame) ∧
          m'.bytes frame = f.bytes) ∨
      (∃ e, encodeFrame m messageType payload options = .error e) ∧
        ¬ ∃ f : Frame, f.Given messageType (m.bytes payload) options ∧ f.Encodable := by
  have hlength := h.length_bytes
  unfold encodeFrame
  split
  · rename_i htype
    refine Or.inr ⟨⟨_, rfl⟩, ?_⟩
    rintro ⟨f, hgiven, hf⟩
    rw [JsNumber.upTo_eq_some.mpr ⟨hgiven.messageType, hf.messageType⟩] at htype
    cases htype
  · rename_i type htype
    obtain ⟨rfl, hmax⟩ := JsNumber.upTo_eq_some.mp htype
    dsimp only
    split
    · rename_i hflags
      refine Or.inr ⟨⟨_, rfl⟩, ?_⟩
      rintro ⟨f, hgiven, hf⟩
      rw [validFlags_eq_some.mpr ⟨hgiven.flags, hf.flags⟩] at hflags
      cases hflags
    · rename_i flags hflags
      obtain ⟨hgivenFlags, hflags⟩ := validFlags_eq_some.mp hflags
      split
      · rename_i hcorrelation
        refine Or.inr ⟨⟨_, rfl⟩, ?_⟩
        rintro ⟨f, hgiven, hf⟩
        have hle := hf.correlation
        rw [hgiven.correlation] at hcorrelation
        unfold maxU64 at hcorrelation
        omega
      · rename_i hcorrelation
        unfold maxU64 at hcorrelation
        split
        · rename_i hlong
          refine Or.inr ⟨⟨_, rfl⟩, ?_⟩
          rintro ⟨f, hgiven, hf⟩
          have hle := hf.payload
          rw [← hgiven.payload, hlength] at hle
          omega
        · rename_i hlong
          refine Or.inl ⟨⟨type, flags, (options.correlation.getD 0).toNat, m.bytes payload⟩,
            ⟨rfl, hgivenFlags, by dsimp only; omega, rfl⟩,
            ⟨hmax, hflags, by dsimp only; omega, by dsimp only; omega⟩, _, _, rfl,
            writeFrame_bytes h _ _ _⟩

/-! ### Relabelling -/

/-- The message of a frame with another correlation id. -/
theorem Frame.overwrite_bytes (f : Frame) (correlation : Nat) :
    overwrite f.bytes 3 (toBytes 8 correlation) = Frame.bytes { f with correlation } := by
  have hsplit : f.bytes = (toBytes 2 f.messageType ++ toBytes 1 f.flags) ++
      (toBytes 8 f.correlation ++ (toBytes 4 f.payload.length ++ f.payload)) := by
    simp [Frame.bytes]
  rw [hsplit, overwrite_append (by simp), List.drop_left' (by simp)]
  simp [Frame.bytes]

theorem withCorrelation_bytes {frame : Uint8Array} (h : m.Holds frame)
    (hf : m.bytes frame = f.bytes) {correlation : Nat} (hpos : 1 ≤ correlation)
    (hlt : correlation < 2 ^ 64) : ∃ m' labelled,
      withCorrelation m frame correlation = .ok (m', labelled) ∧
      m'.bytes labelled = Frame.bytes { f with correlation } ∧ m.Grows m' := by
  have hlength := h.length_bytes
  rw [hf, f.length_bytes] at hlength
  unfold withCorrelation maxU64
  rw [if_neg (by omega), if_neg (by omega)]
  refine ⟨_, _, rfl, ?_, (m.slice_grows frame).setBuffer le_rfl _ _⟩
  have hslice := m.slice_contents h
  unfold Memory.slice at hslice
  rw [Memory.bytes, Memory.setBuffer_contents, hslice, hf, Int.toNat_natCast, f.overwrite_bytes]
  have hwhole : (Frame.bytes { f with correlation }).length = (m.slice frame).2.byteLength := by
    rw [Frame.length_bytes]
    exact hlength
  exact List.take_of_length_le hwhole.le

/-! ### The bijection -/

/-- What is encoded is decoded to the four values it was made of. What is decoded is encoded
to the message it came from. `encodeFrame` rejects all other arguments. A message that is
relabelled is decoded to the same fields but for the correlation id, and is not changed itself. -/
theorem frameCodec_bijective :
    (∀ (m : Memory) (payload : Uint8Array) (f : Frame), m.Holds payload →
      m.bytes payload = f.payload → f.messageType ≤ 65535 → f.flags ≤ 7 →
      f.correlation < 2 ^ 64 → payload.byteLength + 15 ≤ 1024 * 1024 →
        ∃ m' frame, encodeFrame m (.integer f.messageType) payload
            { flags := some (.integer f.flags), correlation := some f.correlation } =
              .ok (m', frame) ∧
          decodeFrame (m'.bytes frame) = .ok f) ∧
    (∀ (m : Memory) (payload : Uint8Array) (frame : Bytes) (f : Frame),
      decodeFrame frame = .ok f → m.Holds payload → m.bytes payload = f.payload →
        ∃ m' frame', encodeFrame m (.integer f.messageType) payload
            { flags := some (.integer f.flags), correlation := some f.correlation } =
              .ok (m', frame') ∧
          m'.bytes frame' = frame) ∧
    (∀ (m : Memory) (messageType : JsNumber) (payload : Uint8Array) (options : FrameOptions),
      m.Holds payload →
      (¬ ∃ f : Frame, f.Given messageType (m.bytes payload) options ∧ f.messageType ≤ 65535 ∧
        f.flags ≤ 7 ∧ f.correlation < 2 ^ 64 ∧ f.payload.length + 15 ≤ 1024 * 1024) →
        ∃ e, encodeFrame m messageType payload options = .error e) ∧
    (∀ (m : Memory) (frame : Uint8Array) (f : Frame) (maxMessageBytes correlation : Nat),
      m.Holds frame → decodeFrame (m.bytes frame) maxMessageBytes = .ok f →
      1 ≤ correlation → correlation < 2 ^ 64 →
        ∃ m' labelled, withCorrelation m frame correlation = .ok (m', labelled) ∧
          decodeFrame (m'.bytes labelled) maxMessageBytes = .ok { f with correlation } ∧
          m'.bytes frame = m.bytes frame) := by
  -- values in range are encoded, to the bytes of the frame they make
  have encodes : ∀ {m : Memory} {payload : Uint8Array} {f : Frame}, m.Holds payload →
      m.bytes payload = f.payload → f.Encodable →
        ∃ m' frame, encodeFrame m (.integer f.messageType) payload
            { flags := some (.integer f.flags), correlation := some f.correlation } =
              .ok (m', frame) ∧ m'.bytes frame = f.bytes := by
    intro m payload f h hpayload hf
    rcases encodeFrame_cases h (.integer f.messageType)
      { flags := some (.integer f.flags), correlation := some f.correlation } with
      ⟨f', hgiven, -, m', frame, hencode, hbytes⟩ | ⟨-, hno⟩
    · obtain rfl : f' = f := by
        obtain ⟨htype, hflags, hcorrelation, hpayload'⟩ := hgiven
        cases f
        cases f'
        simp only [JsNumber.integer.injEq, Int.natCast_inj, Option.getD_some]
          at htype hflags hcorrelation
        simp_all
      exact ⟨m', frame, hencode, hbytes⟩
    · exact absurd ⟨f, ⟨rfl, rfl, rfl, hpayload⟩, hf⟩ hno
  refine ⟨fun m payload f h hpayload htype hflags hcorrelation hlength => ?_,
    fun m payload frame f hdecode h hpayload => ?_, fun m messageType payload options h hno => ?_,
    fun m frame f maxMessageBytes correlation h hdecode hpos hlt => ?_⟩
  · have hlength' := h.length_bytes
    have hf : f.Encodable := ⟨htype, hflags, hcorrelation, by
      rw [← hpayload, hlength']
      exact hlength⟩
    obtain ⟨m', frame, hencode, hbytes⟩ := encodes h hpayload hf
    obtain ⟨hvalid, hmax⟩ := Frame.encodable_iff.mp hf
    exact ⟨m', frame, hencode, hbytes ▸ hvalid.decode hmax⟩
  · obtain ⟨hvalid, hmax, rfl⟩ := decodeFrame_eq_ok.mp hdecode
    exact encodes h hpayload (Frame.encodable_iff.mpr ⟨hvalid, hmax⟩)
  · rcases encodeFrame_cases h messageType options with ⟨f, hgiven, hf, -⟩ | ⟨herror, -⟩
    · exact absurd ⟨f, hgiven, hf.messageType, hf.flags, hf.correlation, hf.payload⟩ hno
    · exact herror
  · obtain ⟨hvalid, hmax, hf⟩ := decodeFrame_eq_ok.mp hdecode
    obtain ⟨m', labelled, hlabel, hbytes, hgrows⟩ := withCorrelation_bytes h hf hpos hlt
    have hvalid' : Frame.Valid { f with correlation } :=
      ⟨hvalid.messageType, hvalid.flags, hlt, hvalid.payload⟩
    exact ⟨m', labelled, hlabel, hbytes ▸ hvalid'.decode hmax, hgrows.bytes h⟩

/-- A buffer of six bytes. -/
def sixBytes : Memory := { contents := fun _ => [1, 2, 3, 4, 5, 6], allocated := 1 }

/-- Three bytes in the middle of a buffer are sent with the largest identifier. -/
theorem frameCodec_bijective_window :
    (∃ m' frame, encodeFrame sixBytes (.integer 300) ⟨0, 2, 3⟩
        { flags := some (.integer 2), correlation := some (2 ^ 64 - 1) } = .ok (m', frame) ∧
      decodeFrame (m'.bytes frame) = .ok ⟨300, 2, 2 ^ 64 - 1, [3, 4, 5]⟩) ∧
    ∃ e, encodeFrame sixBytes (.other "1.5") ⟨0, 2, 3⟩ {} = .error e := by
  obtain ⟨hround, -, hrejects, -⟩ := frameCodec_bijective
  have hheld : sixBytes.Holds ⟨0, 2, 3⟩ := ⟨by decide, by decide⟩
  refine ⟨hround sixBytes ⟨0, 2, 3⟩ ⟨300, 2, 2 ^ 64 - 1, [3, 4, 5]⟩ hheld rfl (by decide)
    (by decide) (by decide) (by decide), hrejects sixBytes (.other "1.5") ⟨0, 2, 3⟩ {} hheld ?_⟩
  rintro ⟨f, hgiven, -⟩
  exact JsNumber.noConfusion hgiven.messageType

end FitzTs.FrameCodec
