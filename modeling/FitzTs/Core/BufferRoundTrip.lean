import FitzTs.Core.BufferReader
import FitzTs.Core.BufferWriter
/-!
# FitzTs.Core.BufferRoundTrip

**What is written is read back**, field by field, whatever the capacity of the writer. The writer
holds the encodings of the fields (`holds_writeAll`), and the reader, which refines the one over the
bytes left, takes each of them off again (`readAll_encode`).

The decoder of strings drops a byte order mark, so a string that begins with one comes back without
it.

## Main result

* `roundTrips_iff` — the fields come back exactly if no string begins with U+FEFF.
-/

namespace FitzTs

open BigEndian JsString Buffer

/-- A value that the writer has a method for. -/
inductive BufferField
  | u8 (value : Nat)
  | u16 (value : Nat)
  | u32 (value : Nat)
  | u64 (value : Nat)
  | bytes (data : Bytes)
  | string (str : JsString)
  | optionalU64 (value : Option Nat)
  | optionalString (value : Option JsString)
  | optionalBytes (value : Option Bytes)
  deriving DecidableEq, Repr

/-- What a reader has to know of a field. -/
inductive FieldKind
  | u8
  | u16
  | u32
  | u64
  | bytes (count : Nat)
  | string
  | optionalU64
  | optionalString
  | optionalBytes
  deriving DecidableEq, Repr

namespace BufferField

def kind : BufferField → FieldKind
  | u8 _ => .u8
  | u16 _ => .u16
  | u32 _ => .u32
  | u64 _ => .u64
  | bytes data => .bytes data.length
  | string _ => .string
  | optionalU64 _ => .optionalU64
  | optionalString _ => .optionalString
  | optionalBytes _ => .optionalBytes

/-- The call of the writer. -/
def write (w : BufferWriter) : BufferField → BufferWriter
  | u8 value => w.writeU8 value
  | u16 value => w.writeU16BE value
  | u32 value => w.writeU32BE value
  | u64 value => w.writeU64BE value
  | bytes data => w.writeBytes data
  | string str => w.writeString str
  | optionalU64 value => w.writeOptionalU64 (value.map (↑))
  | optionalString value => w.writeOptionalString value
  | optionalBytes value => w.writeOptionalBytes value

/-- The bytes that the call appends. -/
def encode : BufferField → Bytes
  | u8 value => writeU8 value
  | u16 value => writeU16BE value
  | u32 value => writeU32BE value
  | u64 value => writeU64BE value
  | bytes data => data
  | string str => writeString str
  | optionalU64 value => writeOptionalU64 value
  | optionalString value => writeOptionalString value
  | optionalBytes value => writeOptionalBytes value

/-- A string without lone surrogates whose length fits into four bytes. -/
structure StringInRange (str : JsString) : Prop where
  wellFormed : isWellFormed str = true
  length_lt : (utf8Encode str).length < 2 ^ 32

/-- The value fits its width; behind a length, so does the length. -/
def InRange : BufferField → Prop
  | u8 value => value < 2 ^ 8
  | u16 value => value < 2 ^ 16
  | u32 value => value < 2 ^ 32
  | u64 value => value < 2 ^ 64
  | bytes _ => True
  | string str => StringInRange str
  | optionalU64 value => ∀ n ∈ value, n < 2 ^ 64
  | optionalString value => ∀ str ∈ value, StringInRange str
  | optionalBytes value => ∀ data ∈ value, data.length < 2 ^ 32

/-- The string of a field that has one. -/
def text : BufferField → JsString
  | string str => str
  | optionalString (some str) => str
  | _ => []

/-- The field that is read. -/
def decoded : BufferField → BufferField
  | string str => string (utf8Decode (utf8Encode str))
  | optionalString value => optionalString (value.map fun str => utf8Decode (utf8Encode str))
  | field => field

end BufferField

namespace FieldKind

/-- The call of the reader. -/
def read (buffer : Bytes) : FieldKind → BufferReader.Method BufferField
  | u8 => do return .u8 (← BufferReader.readU8 buffer)
  | u16 => do return .u16 (← BufferReader.readU16BE buffer)
  | u32 => do return .u32 (← BufferReader.readU32BE buffer)
  | u64 => do return .u64 (← BufferReader.readU64BE buffer)
  | bytes count => do return .bytes (← BufferReader.readBytes buffer count)
  | string => do return .string (← BufferReader.readString buffer)
  | optionalU64 => do return .optionalU64 (← BufferReader.readOptionalU64 buffer)
  | optionalString => do return .optionalString (← BufferReader.readOptionalString buffer)
  | optionalBytes => do return .optionalBytes (← BufferReader.readOptionalBytes buffer)

/-- The same over the bytes that are left. -/
def reader : FieldKind → Reader BufferField
  | u8 => do return .u8 (← readU8)
  | u16 => do return .u16 (← readU16BE)
  | u32 => do return .u32 (← readU32BE)
  | u64 => do return .u64 (← readU64BE)
  | bytes count => do return .bytes (← readBytes count)
  | string => do return .string (← readString)
  | optionalU64 => do return .optionalU64 (← readOptionalU64)
  | optionalString => do return .optionalString (← readOptionalString)
  | optionalBytes => do return .optionalBytes (← readOptionalBytes)

open BufferReader in
theorem read_refines (kind : FieldKind) : Refines (read · kind) kind.reader := by
  cases kind with
  | u8 => exact readU8_refines.bind fun _ => Refines.pure _
  | u16 => exact readU16BE_refines.bind fun _ => Refines.pure _
  | u32 => exact readU32BE_refines.bind fun _ => Refines.pure _
  | u64 => exact readU64BE_refines.bind fun _ => Refines.pure _
  | bytes count => exact (readBytes_refines count).bind fun _ => Refines.pure _
  | string => exact readString_refines.bind fun _ => Refines.pure _
  | optionalU64 => exact readOptionalU64_refines.bind fun _ => Refines.pure _
  | optionalString => exact readOptionalString_refines.bind fun _ => Refines.pure _
  | optionalBytes => exact readOptionalBytes_refines.bind fun _ => Refines.pure _

end FieldKind

namespace BufferField

/-- The fields are written in order, and the bytes are taken. -/
def writeAll (capacity : Nat) (fields : List BufferField) : Bytes :=
  (fields.foldl write (BufferWriter.create capacity)).getBuffer

/-- The fields of the given kinds are read in order. -/
def readAll (buffer : Bytes) : List FieldKind → BufferReader.Method (List BufferField)
  | [] => return []
  | kind :: kinds => do
    let field ← kind.read buffer
    let fields ← readAll buffer kinds
    return field :: fields

/-- What is written is read back up to the end, and the capacity makes no difference. -/
structure RoundTrips (capacity : Nat) (fields : List BufferField) : Prop where
  read_back : ∃ offset,
    readAll (writeAll capacity fields) (fields.map kind) 0 = some (fields, offset) ∧
      BufferReader.isEOF (writeAll capacity fields) offset = true
  capacity_irrelevant : ∀ capacity', writeAll capacity' fields = writeAll capacity fields

/-! ## Writing -/

variable {field : BufferField} {fields : List BufferField}

theorem holds_write {w : BufferWriter} {written : Bytes} (h : w.Holds written) :
    (field.write w).Holds (written ++ field.encode) := by
  cases field with
  | u8 value => exact h.writeU8 value
  | u16 value => exact h.writeU16BE value
  | u32 value => exact h.writeU32BE value
  | u64 value => exact h.writeU64BE value
  | bytes data => exact h.writeBytes data
  | string str => exact h.writeString str
  | optionalU64 value => exact h.writeOptionalU64 value
  | optionalString value => exact h.writeOptionalString value
  | optionalBytes value => exact h.writeOptionalBytes value

theorem holds_writeAll {w : BufferWriter} {written : Bytes} (h : w.Holds written) :
    (fields.foldl write w).Holds (written ++ fields.flatMap encode) := by
  induction fields generalizing w written with
  | nil => simpa using h
  | cons field fields ih =>
      rw [List.foldl_cons, List.flatMap_cons, ← List.append_assoc]
      exact ih (holds_write h)

/-- **The bytes** are the encodings of the fields. -/
theorem writeAll_eq (capacity : Nat) (fields : List BufferField) :
    writeAll capacity fields = fields.flatMap encode :=
  (holds_writeAll (BufferWriter.holds_create capacity)).getBuffer

/-! ## Reading -/

theorem reader_encode {rest : Bytes} (hfield : field.InRange) :
    field.kind.reader (field.encode ++ rest) = some (field.decoded, rest) := by
  cases field with
  | u8 value => exact bind_eq (readU8_append hfield)
  | u16 value => exact bind_eq (readU16BE_append hfield)
  | u32 value => exact bind_eq (readU32BE_append hfield)
  | u64 value => exact bind_eq (readU64BE_append hfield)
  | bytes data => exact bind_eq (readBytes_append rfl)
  | string str => exact bind_eq (readString_append (StringInRange.length_lt hfield))
  | optionalU64 value => exact bind_eq (readOptionalU64_append hfield)
  | optionalString value =>
      exact bind_eq (readOptionalString_append fun str hstr => (hfield str hstr).length_lt)
  | optionalBytes value => exact bind_eq (readOptionalBytes_append hfield)

/-- **The reader** takes the encodings off one by one. -/
theorem readAll_encode (buffer before : Bytes)
    (hbuffer : buffer = before ++ fields.flatMap encode)
    (hfields : ∀ field ∈ fields, field.InRange) :
    readAll buffer (fields.map kind) before.length =
      some (fields.map decoded, buffer.length) := by
  induction fields generalizing before with
  | nil =>
      rw [List.flatMap_nil, List.append_nil] at hbuffer
      rw [hbuffer]
      rfl
  | cons field fields ih =>
      obtain ⟨hfield, hrest⟩ := List.forall_mem_cons.mp hfields
      have hle : before.length ≤ buffer.length := by
        rw [hbuffer, List.length_append]
        omega
      have hread := (field.kind.read_refines).result buffer before.length hle
      rw [hbuffer, List.drop_left' rfl, List.flatMap_cons, reader_encode hfield,
        ← List.flatMap_cons,
        ← hbuffer] at hread
      obtain ⟨⟨read, offset⟩, hmethod, heq⟩ := Option.map_eq_some_iff.mp hread
      obtain ⟨rfl, hdrop⟩ := Prod.mk.inj heq
      -- the offset behind the field is given by how much is left
      have hoffset : offset = (before ++ field.encode).length := by
        have hlength := congrArg List.length hdrop
        have hbound := (field.kind.read_refines).inBounds buffer before.length _ hle hmethod
        have htotal := congrArg List.length hbuffer
        rw [List.length_drop] at hlength
        rw [List.flatMap_cons, List.length_append, List.length_append] at htotal
        rw [List.length_append]
        dsimp only at hbound
        omega
      have hrest := ih (before ++ field.encode) (by
        rw [hbuffer, List.flatMap_cons, List.append_assoc]) hrest
      change (field.kind.read buffer before.length >>= fun p => _) = _
      rw [hmethod]
      change (readAll buffer (fields.map kind) offset >>= fun p => _) = _
      rw [hoffset, hrest]
      rfl

/-! ## Byte order marks -/

theorem utf8Decode_utf8Encode_iff {str : JsString} (h : StringInRange str) :
    utf8Decode (utf8Encode str) = str ↔ str.head? ≠ some byteOrderMark := by
  rw [utf8Decode_utf8Encode_eq_self_iff]
  exact and_iff_right h.wellFormed

theorem decoded_eq_self_iff (hfield : field.InRange) :
    field.decoded = field ↔ field.text.head? ≠ some byteOrderMark := by
  cases field with
  | string str =>
      rw [decoded, BufferField.string.injEq]
      exact utf8Decode_utf8Encode_iff hfield
  | optionalString value =>
      cases value with
      | none => exact iff_of_true rfl (by simp [text])
      | some str =>
          rw [decoded, BufferField.optionalString.injEq, Option.map_some, Option.some.injEq]
          exact utf8Decode_utf8Encode_iff (hfield str rfl)
  | _ => exact iff_of_true rfl (by simp [text])

/-- **The round trip.** The fields come back exactly if no string begins with a byte order mark. -/
theorem roundTrips_iff (capacity : Nat) (hfields : ∀ field ∈ fields, field.InRange) :
    RoundTrips capacity fields ↔
      ∀ field ∈ fields, field.text.head? ≠ some byteOrderMark := by
  have hread := readAll_encode (fields.flatMap encode) [] rfl hfields
  have hself : fields.map decoded = fields ↔
      ∀ field ∈ fields, field.text.head? ≠ some byteOrderMark := by
    rw [← forall₂_congr fun field hfield => decoded_eq_self_iff (hfields field hfield)]
    conv_lhs => rw [← List.map_id fields, List.map_map]
    exact List.map_inj_left
  rw [← hself]
  constructor
  · rintro ⟨⟨offset, hback, -⟩, -⟩
    rw [writeAll_eq capacity fields] at hback
    exact (Prod.mk.inj (Option.some.inj (hread.symm.trans hback))).1
  · intro heq
    refine ⟨⟨(fields.flatMap encode).length, ?_, ?_⟩, fun capacity' => ?_⟩
    · rw [writeAll_eq capacity fields]
      exact hread.trans (by rw [heq])
    · rw [writeAll_eq capacity fields, BufferReader.isEOF, decide_eq_true_iff]
    · rw [writeAll_eq capacity fields, writeAll_eq capacity' fields]

/-- A writer that has to grow for each of its fields. -/
theorem roundTrips_growing :
    RoundTrips 0 [.u16 7, .string (js "häß"), .optionalU64 (some 9), .optionalBytes none] :=
  (roundTrips_iff 0 (by
    simp only [List.forall_mem_cons, InRange]
    exact ⟨by decide, ⟨by decide, by decide⟩, by simp, by simp, by simp⟩)).mpr (by decide)

/-- `"\uFEFF"` comes back empty. -/
theorem not_forall_roundTrips : ¬ ∀ (capacity : Nat) (fields : List BufferField),
    (∀ field ∈ fields, field.InRange) → RoundTrips capacity fields := by
  intro h
  have hmark : ∀ field ∈ [BufferField.string [byteOrderMark]], field.InRange := by
    rw [List.forall_mem_singleton]
    exact ⟨by decide, by decide⟩
  obtain ⟨⟨offset, hback, -⟩, -⟩ := h 0 _ hmark
  rw [writeAll_eq 0 _] at hback
  have hread := readAll_encode _ [] rfl hmark
  have heq := (Prod.mk.inj (Option.some.inj (hread.symm.trans hback))).1
  exact absurd heq (by decide)

end BufferField

end FitzTs
