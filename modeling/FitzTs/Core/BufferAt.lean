import FitzTs.Core.BufferWriter
import FitzTs.Frame.Codec
/-!
# FitzTs.Core.BufferAt

Writing into a buffer whose size has been computed before, with `writeU32BEAt` and its relatives.

An assignment behind the end of such a buffer is lost, and `set` throws there. A buffer that `Fills`
keeps account of what is left of it, so that what is written in the end is the whole of it
(`Fills.buffer`).
-/

namespace FitzTs.BufferWriter

open BigEndian ArrayBuffer Buffer
open FrameCodec (JsNumber)

/-- `buffer.set(data, offset)` and `offset += data.length`; `none` for its `RangeError`. -/
def setBytes (w : BufferWriter) (data : Bytes) : Option BufferWriter :=
  if w.offset + data.length > w.buffer.length then none
  else some { buffer := overwrite w.buffer w.offset data, offset := w.offset + data.length }

/-- The length of the data in four bytes, and the data. -/
def setLengthAndBytes (w : BufferWriter) (data : Bytes) : Option BufferWriter :=
  (w.store (writeU32BEAt data.length)).setBytes data

/-- A flag, and the data behind their length if there are any. -/
def setOptionalBytes (w : BufferWriter) : Option Bytes → Option BufferWriter
  | none => some (w.store [0])
  | some data => (w.store [1]).setLengthAndBytes data

/-- A flag, and the number if there is one. -/
def storeOptionalU64 (w : BufferWriter) : Option Int → BufferWriter
  | none => w.store [0]
  | some value => (w.store [1]).store (writeU64BEAt value)

def MAX_SAFE_INTEGER : Nat := 2 ^ 53 - 1

/-- The bytes of half of a number, `(value >>> shift) & 0xff`. -/
def halfBytes (value : Nat) : Bytes :=
  [24, 16, 8, 0].map fun shift => UInt8.ofNat (value >>> shift &&& 0xff)

/-- `writeU64BENumberAt`; `none` for its `RangeError`. -/
def writeU64BENumberAt (value : JsNumber) : Option Bytes :=
  (value.upTo MAX_SAFE_INTEGER).map fun value =>
    halfBytes (value / 0x100000000) ++ halfBytes (value % 2 ^ 32)

/-! ## The bytes of a number -/

/-- A `bigint` is sent modulo 2 ^ 64. -/
theorem writeU64BEAt_emod (value : Int) :
    writeU64BEAt value = Buffer.writeU64BE (value % 2 ^ 64).toNat := by
  have hcast : ((value % 2 ^ 64).toNat : Int) = value % 2 ^ 64 := Int.toNat_of_nonneg (by omega)
  rw [Buffer.writeU64BE, ← writeU64BEAt_eq, hcast, writeU64BEAt, writeU64BEAt]
  refine List.map_congr_left fun shift hshift => ?_
  have hbyte : value / (2 ^ shift : Nat) % 256 = value % 2 ^ 64 / (2 ^ shift : Nat) % 256 := by
    simp only [List.mem_cons, List.not_mem_nil, or_false] at hshift
    rcases hshift with rfl | rfl | rfl | rfl | rfl | rfl | rfl | rfl <;> norm_num <;> omega
  rw [byteOfBigint, byteOfBigint, Int.shiftRight_eq_div_pow, Int.shiftRight_eq_div_pow, hbyte]

theorem halfBytes_eq (value : Nat) : halfBytes value = toBytes 4 value := by
  have hbyte : ∀ n, UInt8.ofNat (n &&& 0xff) = UInt8.ofNat n := fun n => by
    rw [show 0xff = 2 ^ 8 - 1 by decide, Nat.and_two_pow_sub_one_eq_mod]
    exact UInt8.toNat_inj.mp (by simp)
  simp [halfBytes, toBytes, hbyte, Nat.shiftRight_eq_div_pow]

/-- A number that is accepted is sent as it is. -/
theorem writeU64BENumberAt_eq (value : JsNumber) :
    writeU64BENumberAt value = (value.upTo MAX_SAFE_INTEGER).map Buffer.writeU64BE := by
  refine Option.map_congr fun n _ => ?_
  rw [halfBytes_eq, halfBytes_eq, Buffer.writeU64BE]
  simp only [toBytes, List.cons_append, List.nil_append, List.cons.injEq, and_true]
  refine ⟨?_, ?_, ?_, ?_, ?_, ?_, ?_, ?_⟩ <;>
    exact UInt8.toNat_inj.mp (by simp only [UInt8.toNat_ofNat']; omega)

/-! ## What is written -/

/-- So far, `written` has been written, and so many bytes are left. -/
def Fills (w : BufferWriter) (written : Bytes) (left : Nat) : Prop :=
  ∃ rest, rest.length = left ∧ w = { buffer := written ++ rest, offset := written.length }

variable {w : BufferWriter} {written : Bytes} {left : Nat}

theorem fills_create (size : Nat) : (create size).Fills [] size :=
  ⟨List.replicate size 0, List.length_replicate, rfl⟩

theorem Fills.buffer (h : w.Fills written 0) : w.buffer = written := by
  obtain ⟨rest, hrest, rfl⟩ := h
  obtain rfl := List.length_eq_zero_iff.mp hrest
  exact List.append_nil _

theorem Fills.store {bytes : Bytes} (h : w.Fills written (bytes.length + left)) :
    (w.store bytes).Fills (written ++ bytes) left := by
  obtain ⟨rest, hrest, rfl⟩ := h
  have hhole : (rest.take bytes.length).length = bytes.length := List.length_take_of_le (by omega)
  refine ⟨rest.drop bytes.length, by rw [List.length_drop]; omega, ?_⟩
  rw [← List.take_append_drop bytes.length rest, store_eq hhole, List.append_assoc,
    List.drop_left' hhole]

theorem Fills.setBytes {data : Bytes} (h : w.Fills written (data.length + left)) :
    ∃ w', w.setBytes data = some w' ∧ w'.Fills (written ++ data) left := by
  obtain ⟨rest, hrest, rfl⟩ := h
  refine ⟨_, if_neg ?_, rest.drop data.length, by rw [List.length_drop]; omega, ?_⟩
  · dsimp only
    rw [List.length_append]
    omega
  · rw [overwrite_append rfl, List.length_append]

theorem Fills.setLengthAndBytes {data : Bytes} (h : w.Fills written (4 + data.length + left)) :
    ∃ w', w.setLengthAndBytes data = some w' ∧
      w'.Fills (written ++ writeLengthAndBytes data) left := by
  have hlength : (w.store (writeU32BEAt data.length)).Fills
      (written ++ Buffer.writeU32BE data.length) (data.length + left) := by
    rw [writeU32BEAt_eq]
    exact Fills.store (by rwa [length_toBytes, ← Nat.add_assoc])
  rw [writeLengthAndBytes, ← List.append_assoc]
  exact hlength.setBytes

theorem Fills.setOptionalBytes {data : Option Bytes}
    (h : w.Fills written (1 + data.elim 0 (4 + ·.length) + left)) :
    ∃ w', w.setOptionalBytes data = some w' ∧
      w'.Fills (written ++ Buffer.writeOptionalBytes data) left := by
  cases data with
  | none => exact ⟨_, rfl, h.store⟩
  | some data =>
      have hflag : (w.store [1]).Fills (written ++ [1]) (4 + data.length + left) :=
        Fills.store (by rwa [Nat.add_assoc] at h)
      have hdata := hflag.setLengthAndBytes
      rwa [List.append_assoc] at hdata

/-- The number of a `bigint` that is sent. -/
def sent (value : Int) : Nat := (value % 2 ^ 64).toNat

theorem Fills.storeOptionalU64 {value : Option Int}
    (h : w.Fills written (1 + value.elim 0 (fun _ => 8) + left)) :
    (w.storeOptionalU64 value).Fills
      (written ++ Buffer.writeOptionalU64 (value.map sent)) left := by
  cases value with
  | none => exact h.store
  | some value =>
      have hflag : (w.store [1]).Fills (written ++ [1])
          ((Buffer.writeU64BE (sent value)).length + left) :=
        Fills.store (by rwa [Nat.add_assoc] at h)
      have hvalue : ((w.store [1]).store (writeU64BEAt value)).Fills
          (written ++ [1] ++ Buffer.writeU64BE (sent value)) left := by
        rw [writeU64BEAt_emod]
        exact hflag.store
      rwa [List.append_assoc] at hvalue

end FitzTs.BufferWriter
