import FitzTs.Core.Buffer
import FitzTs.Lib.ArrayBuffer
import FitzTs.Lib.Utf8.RoundTrip
/-!
# FitzTs.Core.BufferWriter

`createBufferWriter`: the writer with its buffer.

`FitzTs.Core.Buffer` says what a method appends. Here are the methods as they are: bytes are cut out
of a number by shifts (of 32 bits with a sign, or of a `bigint`) and stored at an offset of a buffer
that is replaced by a larger one when it is full, and the length of a string is stored in front of
it once it is known. A method of a valid writer appends what it should, whatever the capacity
(`contents_writeU16BE` and the lemmas after it).
-/

namespace FitzTs

open BigEndian JsString ArrayBuffer Buffer

/-- The variables of a writer. -/
structure BufferWriter where
  buffer : Bytes
  offset : Nat := 0
  deriving DecidableEq, Repr

namespace BufferWriter

/-- `createBufferWriter(capacity)`. -/
def create (capacity : Nat := 4096) : BufferWriter := { buffer := List.replicate capacity 0 }

def ensureCapacity (w : BufferWriter) (needed : Nat) : BufferWriter :=
  if w.offset + needed > w.buffer.length then
    let newCapacity := max (w.buffer.length * 2) (w.offset + needed)
    { w with buffer := overwrite (List.replicate newCapacity 0) 0 w.buffer }
  else w

/-- `(value >> shift) & 0xff`, where the number becomes one of 32 bits with a sign. -/
def byteOfNumber (value : Int) (shift : Nat) : UInt8 :=
  ((BitVec.ofInt 32 value).sshiftRight shift &&& 0xff).toNat.toUInt8

/-- `Number((value >> shift) & 0xffn)`. -/
def byteOfBigint (value : Int) (shift : Nat) : UInt8 := ((value >>> shift) % 256).toNat.toUInt8

/-- `buffer[offset++] = byte` for each of the bytes. -/
def store (w : BufferWriter) (bytes : Bytes) : BufferWriter :=
  bytes.foldl (fun w byte => { buffer := w.buffer.set w.offset byte, offset := w.offset + 1 }) w

def writeU8 (w : BufferWriter) (value : Int) : BufferWriter :=
  (w.ensureCapacity 1).store [byteOfNumber value 0]

def writeU16BE (w : BufferWriter) (value : Int) : BufferWriter :=
  (w.ensureCapacity 2).store [byteOfNumber value 8, byteOfNumber value 0]

/-- `writeU32BEAt`. -/
def writeU32BEAt (value : Int) : Bytes :=
  [byteOfNumber value 24, byteOfNumber value 16, byteOfNumber value 8, byteOfNumber value 0]

def writeU32BE (w : BufferWriter) (value : Int) : BufferWriter :=
  (w.ensureCapacity 4).store (writeU32BEAt value)

/-- `writeU64BEAt`. -/
def writeU64BEAt (value : Int) : Bytes :=
  [56, 48, 40, 32, 24, 16, 8, 0].map (byteOfBigint value)

def writeU64BE (w : BufferWriter) (value : Int) : BufferWriter :=
  (w.ensureCapacity 8).store (writeU64BEAt value)

def writeBytes (w : BufferWriter) (data : Bytes) : BufferWriter :=
  let w := w.ensureCapacity data.length
  { buffer := overwrite w.buffer w.offset data, offset := w.offset + data.length }

/-- `encodeInto`: the code points that fit into so many bytes, up to the first that does not. -/
def encodeInto (size : Nat) : List Nat → Bytes
  | [] => []
  | codePoint :: codePoints =>
    if (utf8Bytes codePoint).length ≤ size then
      utf8Bytes codePoint ++ encodeInto (size - (utf8Bytes codePoint).length) codePoints
    else []

/-- `buffer[position + i] = bytes[i]` for each of the bytes. -/
def storeAt (buffer : Bytes) (position : Nat) (bytes : Bytes) : Bytes :=
  (store { buffer, offset := position } bytes).buffer

def writeString (w : BufferWriter) (str : JsString) : BufferWriter :=
  if str.length = 0 then w.writeU32BE 0
  else
    let maxBytes := str.length * 4
    let w := w.ensureCapacity (4 + maxBytes)
    let lengthOffset := w.offset
    let written := encodeInto maxBytes (codePoints str)
    let buffer := overwrite w.buffer (lengthOffset + 4) written
    { buffer := storeAt buffer lengthOffset (writeU32BEAt written.length)
      offset := lengthOffset + 4 + written.length }

def writeOptionalU64 (w : BufferWriter) : Option Int → BufferWriter
  | none => w.writeU8 0
  | some value => (w.writeU8 1).writeU64BE value

def writeOptionalString (w : BufferWriter) : Option JsString → BufferWriter
  | none => w.writeU8 0
  | some value => (w.writeU8 1).writeString value

def writeOptionalBytes (w : BufferWriter) : Option Bytes → BufferWriter
  | none => w.writeU8 0
  | some value => ((w.writeU8 1).writeU32BE value.length).writeBytes value

/-- `getBuffer()`. -/
def getBuffer (w : BufferWriter) : Bytes := w.buffer.take w.offset

/-! ## The bytes of a number -/

/-- The mask of a byte. -/
theorem testBit_0xff (i : Nat) : (0xff : BitVec 32).getLsbD i = decide (i < 8) := by
  rw [show (0xff : BitVec 32) = BitVec.ofNat 32 (2 ^ 8 - 1) from rfl, BitVec.getLsbD_ofNat,
    Nat.testBit_two_pow_sub_one]
  by_cases h : i < 8 <;> simp [h]
  omega

/-- The bits that are shifted in do not reach the byte. -/
theorem toNat_sshiftRight_and (x : BitVec 32) {shift : Nat} (h : shift ≤ 24) :
    (x.sshiftRight shift &&& 0xff).toNat = x.toNat / 2 ^ shift % 256 := by
  apply Nat.eq_of_testBit_eq
  intro i
  rw [show 256 = 2 ^ 8 by decide, Nat.testBit_mod_two_pow, Nat.testBit_div_two_pow,
    BitVec.testBit_toNat, BitVec.testBit_toNat, BitVec.getLsbD_and, testBit_0xff,
    BitVec.getLsbD_sshiftRight]
  by_cases hi : i < 8
  · simp [hi, show ¬ 32 ≤ i by omega, show shift + i < 32 by omega, Nat.add_comm i]
  · simp [hi]

/-- `(value >> shift) & 0xff` is a byte of the number. -/
theorem byteOfNumber_eq (value : Nat) {shift : Nat} (h : shift ≤ 24) :
    byteOfNumber value shift = UInt8.ofNat (value / 2 ^ shift) := by
  have hlow : value % 2 ^ 32 / 2 ^ shift % 2 ^ 8 = value / 2 ^ shift % 2 ^ 8 := by
    apply Nat.eq_of_testBit_eq
    intro i
    rw [Nat.testBit_mod_two_pow, Nat.testBit_mod_two_pow, Nat.testBit_div_two_pow,
      Nat.testBit_div_two_pow, Nat.testBit_mod_two_pow]
    by_cases hi : i < 8
    · simp [show i + shift < 32 by omega]
    · simp [hi]
  apply UInt8.toNat_inj.mp
  rw [byteOfNumber, toNat_sshiftRight_and _ h]
  simpa using hlow

/-- `Number((value >> shift) & 0xffn)` is a byte of the number. -/
theorem byteOfBigint_eq (value shift : Nat) :
    byteOfBigint value shift = UInt8.ofNat (value / 2 ^ shift) := by
  apply UInt8.toNat_inj.mp
  have hshift : ((value : Int) >>> shift) % 256 = ((value / 2 ^ shift % 256 : Nat) : Int) := by
    rw [Int.shiftRight_eq_div_pow]
    norm_cast
  rw [byteOfBigint, hshift, Int.toNat_natCast]
  simp

theorem writeU32BEAt_eq (value : Nat) : writeU32BEAt value = toBytes 4 value := by
  simp [writeU32BEAt, toBytes, byteOfNumber_eq]

theorem writeU64BEAt_eq (value : Nat) : writeU64BEAt value = toBytes 8 value := by
  simp [writeU64BEAt, toBytes, byteOfBigint_eq]

/-! ## What is written -/

/-- So far, `written` has been written. -/
def Holds (w : BufferWriter) (written : Bytes) : Prop :=
  ∃ rest, w = { buffer := written ++ rest, offset := written.length }

variable {w : BufferWriter} {written : Bytes}

/-- A new writer holds nothing. -/
theorem holds_create (capacity : Nat) : (create capacity).Holds [] :=
  ⟨List.replicate capacity 0, rfl⟩

/-- `getBuffer` gives what has been written. -/
theorem Holds.getBuffer (h : w.Holds written) : w.getBuffer = written := by
  obtain ⟨rest, rfl⟩ := h
  exact List.take_left' rfl

/-- There is room for so many bytes more. -/
theorem Holds.ensureCapacity (h : w.Holds written) (needed : Nat) :
    ∃ hole rest : Bytes, hole.length = needed ∧
      w.ensureCapacity needed =
        { buffer := written ++ (hole ++ rest), offset := written.length } := by
  have hsplit : ∀ rest : Bytes, needed ≤ rest.length → ∃ hole rest' : Bytes,
      hole.length = needed ∧ written ++ rest = written ++ (hole ++ rest') := fun rest hle =>
    ⟨rest.take needed, rest.drop needed, List.length_take_of_le hle,
      by rw [List.take_append_drop]⟩
  obtain ⟨rest, rfl⟩ := h
  unfold BufferWriter.ensureCapacity
  dsimp only
  split
  case isTrue hfull =>
    rw [overwrite_zero, List.append_assoc]
    obtain ⟨hole, rest', hlength, heq⟩ := hsplit (rest ++ List.drop (written ++ rest).length
      (List.replicate (max ((written ++ rest).length * 2) (written.length + needed)) 0)) (by
        simp only [List.length_append, List.length_drop, List.length_replicate]
        omega)
    exact ⟨hole, rest', hlength, by rw [heq]⟩
  case isFalse hroom =>
    obtain ⟨hole, rest', hlength, heq⟩ := hsplit rest (by
      rw [List.length_append] at hroom
      omega)
    exact ⟨hole, rest', hlength, by rw [heq]⟩

/-- A write fills the room that was made for it. -/
theorem store_eq {bytes hole rest : Bytes} (h : hole.length = bytes.length) :
    store { buffer := written ++ (hole ++ rest), offset := written.length } bytes =
      { buffer := written ++ (bytes ++ rest), offset := (written ++ bytes).length } := by
  induction bytes generalizing written hole with
  | nil =>
      obtain rfl := List.length_eq_zero_iff.mp h
      rw [List.append_nil]
      rfl
  | cons byte bytes ih =>
      cases hole with
      | nil => cases h
      | cons old hole =>
          have hset : (written ++ (old :: hole ++ rest)).set written.length byte =
              (written ++ [byte]) ++ (hole ++ rest) := by
            rw [List.set_append_right _ _ (Nat.le_refl _), Nat.sub_self]
            simp
          have hstore := @ih (written ++ [byte]) hole (by simpa using h)
          rw [store, List.foldl_cons, ← store]
          dsimp only
          rw [hset, show written.length + 1 = (written ++ [byte]).length by simp, hstore]
          simp

/-- Whatever is written goes behind what was written. -/
theorem Holds.store (h : w.Holds written) (bytes : Bytes) :
    ((w.ensureCapacity bytes.length).store bytes).Holds (written ++ bytes) := by
  obtain ⟨hole, rest, hlength, hw⟩ := h.ensureCapacity bytes.length
  exact ⟨rest, by rw [hw, store_eq hlength, List.append_assoc]⟩

theorem Holds.writeU8 (h : w.Holds written) (value : Nat) :
    (w.writeU8 value).Holds (written ++ Buffer.writeU8 value) := by
  have hbytes : [byteOfNumber value 0] = Buffer.writeU8 value := by
    rw [byteOfNumber_eq value (by omega)]
    rfl
  rw [← hbytes]
  exact h.store [byteOfNumber value 0]

theorem Holds.writeU16BE (h : w.Holds written) (value : Nat) :
    (w.writeU16BE value).Holds (written ++ Buffer.writeU16BE value) := by
  have hbytes : [byteOfNumber value 8, byteOfNumber value 0] = Buffer.writeU16BE value := by
    rw [byteOfNumber_eq value (by omega), byteOfNumber_eq value (by omega)]
    rfl
  rw [← hbytes]
  exact h.store [byteOfNumber value 8, byteOfNumber value 0]

theorem Holds.writeU32BE (h : w.Holds written) (value : Nat) :
    (w.writeU32BE value).Holds (written ++ Buffer.writeU32BE value) := by
  rw [Buffer.writeU32BE, ← writeU32BEAt_eq value]
  exact h.store (writeU32BEAt value)

theorem Holds.writeU64BE (h : w.Holds written) (value : Nat) :
    (w.writeU64BE value).Holds (written ++ Buffer.writeU64BE value) := by
  rw [Buffer.writeU64BE, ← writeU64BEAt_eq value]
  exact h.store (writeU64BEAt value)

theorem Holds.writeBytes (h : w.Holds written) (data : Bytes) :
    (w.writeBytes data).Holds (written ++ data) := by
  obtain ⟨hole, rest, hlength, hw⟩ := h.ensureCapacity data.length
  refine ⟨rest, ?_⟩
  rw [BufferWriter.writeBytes, hw]
  dsimp only
  rw [overwrite_append rfl, List.drop_left' hlength, List.length_append]

/-- Four bytes for a code unit are enough for all of them. -/
theorem encodeInto_eq {codePoints : List Nat} {size : Nat}
    (h : (codePoints.flatMap utf8Bytes).length ≤ size) :
    encodeInto size codePoints = codePoints.flatMap utf8Bytes := by
  induction codePoints generalizing size with
  | nil => rfl
  | cons codePoint codePoints ih =>
      rw [List.flatMap_cons, List.length_append] at h
      rw [encodeInto, if_pos (by omega), ih (by omega), List.flatMap_cons]

theorem utf8Length_le (str : JsString) : utf8Length str ≤ str.length * 4 := by
  induction str using utf8Length.induct <;> simp only [utf8Length, List.length_cons] <;>
    (try split_ifs) <;> simp_all <;> omega

theorem encodeInto_codePoints (str : JsString) :
    encodeInto (str.length * 4) (codePoints str) = utf8Encode str :=
  encodeInto_eq (by
    have hle := utf8Length_le str
    rw [← length_utf8Encode] at hle
    exact hle)

theorem Holds.writeString (h : w.Holds written) (str : JsString) :
    (w.writeString str).Holds (written ++ Buffer.writeString str) := by
  unfold BufferWriter.writeString
  split
  case isTrue hempty =>
    obtain rfl := List.length_eq_zero_iff.mp hempty
    exact h.writeU32BE 0
  case isFalse =>
    obtain ⟨hole, rest, hlength, hw⟩ := h.ensureCapacity (4 + str.length * 4)
    have hfour : (hole.take 4).length = (writeU32BEAt (utf8Encode str).length).length := by
      rw [List.length_take_of_le (by omega)]
      rfl
    dsimp only
    rw [hw, encodeInto_codePoints]
    have hsplit : written ++ (hole ++ rest) =
        (written ++ hole.take 4) ++ (hole.drop 4 ++ rest) := by
      rw [List.append_assoc, ← List.append_assoc (hole.take 4), List.take_append_drop]
    dsimp only
    rw [hsplit, overwrite_append (by rw [List.length_append, hfour]; rfl), List.append_assoc,
      List.append_assoc, storeAt, store_eq hfour, writeU32BEAt_eq]
    refine ⟨(hole.drop 4 ++ rest).drop (utf8Encode str).length, ?_⟩
    simp [Buffer.writeString, writeLengthAndBytes, Buffer.writeU32BE, Nat.add_assoc]

theorem Holds.writeOptionalU64 (h : w.Holds written) (value : Option Nat) :
    (w.writeOptionalU64 (value.map (↑))).Holds (written ++ Buffer.writeOptionalU64 value) := by
  cases value with
  | none => exact h.writeU8 0
  | some value =>
      rw [Buffer.writeOptionalU64, ← List.append_assoc]
      exact (h.writeU8 1).writeU64BE value

theorem Holds.writeOptionalString (h : w.Holds written) (value : Option JsString) :
    (w.writeOptionalString value).Holds (written ++ Buffer.writeOptionalString value) := by
  cases value with
  | none => exact h.writeU8 0
  | some value =>
      rw [Buffer.writeOptionalString, ← List.append_assoc]
      exact (h.writeU8 1).writeString value

theorem Holds.writeOptionalBytes (h : w.Holds written) (value : Option Bytes) :
    (w.writeOptionalBytes value).Holds (written ++ Buffer.writeOptionalBytes value) := by
  cases value with
  | none => exact h.writeU8 0
  | some value =>
      rw [Buffer.writeOptionalBytes, writeLengthAndBytes, ← List.append_assoc,
        ← List.append_assoc]
      exact ((h.writeU8 1).writeU32BE value.length).writeBytes value

end BufferWriter

end FitzTs
