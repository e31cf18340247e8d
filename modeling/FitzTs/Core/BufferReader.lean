import FitzTs.Core.Buffer
import FitzTs.Lib.ArrayBuffer
/-!
# FitzTs.Core.BufferReader

`createBufferReader`: the reader with its offset.

The readers of `FitzTs.Core.Buffer` are over the bytes that are left. Here are the methods as they
are, over the whole buffer and an offset into it. `Refines` says that the one does what the other
does (`readU8_refines` and the lemmas after it).
-/

namespace FitzTs

open BigEndian JsString ArrayBuffer Buffer

namespace BufferReader

/-- A method of the reader of `internalBuffer`: its state is `offset`. -/
abbrev Method (α : Type) := StateT Nat Option α

variable (internalBuffer : Bytes)

def readU8 : Method Nat := fun offset =>
  if offset ≥ internalBuffer.length then none
  else some ((internalBuffer.getD offset 0).toNat, offset + 1)

def readU16BE : Method Nat := fun offset =>
  if offset + 2 > internalBuffer.length then none
  else
    let byte := fun i => (internalBuffer.getD (offset + i) 0).toNat
    some (byte 0 <<< 8 ||| byte 1, offset + 2)

/-- `getUint32` of a `DataView`. -/
def readU32BE : Method Nat := fun offset =>
  if offset + 4 > internalBuffer.length then none
  else some (getUint internalBuffer offset 4, offset + 4)

def readU64BE : Method Nat := fun offset =>
  if offset + 8 > internalBuffer.length then none
  else
    let byte := fun i => (internalBuffer.getD (offset + i) 0).toNat
    let high := (byte 0 <<< 24 ||| byte 1 <<< 16 ||| byte 2 <<< 8 ||| byte 3) &&& 0xffffffff
    let low := (byte 4 <<< 24 ||| byte 5 <<< 16 ||| byte 6 <<< 8 ||| byte 7) &&& 0xffffffff
    some (high <<< 32 ||| low, offset + 8)

def readBytes (count : Nat) : Method Bytes := fun offset =>
  if offset + count > internalBuffer.length then none
  else some ((internalBuffer.drop offset).take count, offset + count)

def readString : Method JsString := do
  let length ← readU32BE internalBuffer
  if length = 0 then return []
  else return utf8Decode (← readBytes internalBuffer length)

def readOptionalU64 : Method (Option Nat) := do
  let hasValue ← readU8 internalBuffer
  if hasValue = 0 then return none
  else return some (← readU64BE internalBuffer)

def readOptionalString : Method (Option JsString) := do
  let hasValue ← readU8 internalBuffer
  if hasValue = 0 then return none
  else return some (← readString internalBuffer)

def readOptionalBytes : Method (Option Bytes) := do
  let hasValue ← readU8 internalBuffer
  if hasValue = 0 then return none
  else
    let length ← readU32BE internalBuffer
    return some (← readBytes internalBuffer length)

def isEOF (offset : Nat) : Bool := offset ≥ internalBuffer.length

end BufferReader

/-! ## Refinement -/

/-- The method does on the buffer what the reader does on the bytes that are left of it. -/
structure BufferReader.Refines {α : Type} (method : Bytes → Method α) (reader : Reader α) :
    Prop where
  result : ∀ (buffer : Bytes) (offset : Nat), offset ≤ buffer.length →
    (method buffer offset).map (fun p => (p.1, buffer.drop p.2)) = reader (buffer.drop offset)
  inBounds : ∀ (buffer : Bytes) (offset : Nat) (p : α × Nat), offset ≤ buffer.length →
    method buffer offset = some p → p.2 ≤ buffer.length

namespace BufferReader

variable {α β : Type} {method : Bytes → Method α} {reader : Reader α}
  {next : Bytes → α → Method β} {f : α → Reader β}

theorem Refines.pure (a : α) : Refines (fun _ => Pure.pure a) (Pure.pure a) where
  result := fun _ _ _ => rfl
  inBounds := by
    rintro buffer offset p hle ⟨⟩
    exact hle

/-- One method after the other. -/
theorem Refines.bind (h : Refines method reader) (hnext : ∀ a, Refines (next · a) (f a)) :
    Refines (fun buffer => method buffer >>= next buffer) (reader >>= f) where
  result := by
    intro buffer offset hle
    change (method buffer offset >>= fun p => next buffer p.1 p.2).map _ =
      (reader (buffer.drop offset) >>= fun p => f p.1 p.2)
    rw [← h.result buffer offset hle]
    cases hmethod : method buffer offset with
    | none => rfl
    | some p => exact (hnext p.1).result buffer p.2 (h.inBounds buffer offset p hle hmethod)
  inBounds := by
    intro buffer offset p hle heq
    obtain ⟨q, hq, hp⟩ := Option.bind_eq_some_iff.mp heq
    exact (hnext q.1).inBounds buffer q.2 p (h.inBounds buffer offset q hle hq) hp

theorem Refines.ite (c : Prop) [Decidable c] {method' : Bytes → Method α} {reader' : Reader α}
    (h : Refines method reader) (h' : Refines method' reader') :
    Refines (fun buffer => if c then method buffer else method' buffer)
      (if c then reader else reader') := by
  split
  · exact h
  · exact h'

theorem readBytes_refines (count : Nat) : Refines (readBytes · count) (Buffer.readBytes count) where
  result := by
    intro buffer offset hle
    simp only [readBytes, Buffer.readBytes, List.length_drop]
    by_cases hroom : offset + count ≤ buffer.length
    · rw [if_neg (Nat.not_lt.mpr hroom), if_pos (by omega), Option.map_some, List.drop_drop]
    · rw [if_pos (Nat.not_le.mp hroom), if_neg (by omega), Option.map_none]
  inBounds := by
    intro buffer offset p _ heq
    unfold readBytes at heq
    split at heq
    · cases heq
    · obtain rfl := Option.some.inj heq
      exact Nat.le_of_not_lt (by assumption)

/-- A method that makes a number of the next `k` bytes. -/
theorem readUBE_refines {k : Nat} {method : Bytes → Method Nat}
    (h : ∀ buffer offset, method buffer offset = if offset + k > buffer.length then none
      else some (ofBytes ((buffer.drop offset).take k), offset + k)) :
    Refines method (readUBE k) := by
  have hmethod : method = fun buffer =>
      readBytes buffer k >>= fun data => Pure.pure (ofBytes data) := by
    funext buffer offset
    rw [h]
    change _ = ((readBytes buffer k offset) >>= fun p => some (ofBytes p.1, p.2))
    unfold readBytes
    split <;> rfl
  rw [hmethod]
  exact (readBytes_refines k).bind fun data => Refines.pure (ofBytes data)

/-! ### Numbers from bytes -/

theorem or_eq_add {a b n : Nat} (ha : 2 ^ n ∣ a) (hb : b < 2 ^ n) : a ||| b = a + b := by
  obtain ⟨c, rfl⟩ := ha
  rw [Nat.mul_comm, ← Nat.shiftLeft_eq, Nat.shiftLeft_add_eq_or_of_lt hb]

/-- Four bytes shifted into their places. -/
theorem word_eq (a b c d : UInt8) :
    (a.toNat <<< 24 ||| b.toNat <<< 16 ||| c.toNat <<< 8 ||| d.toNat) &&& 0xffffffff =
      ofBytes [a, b, c, d] := by
  have ha := a.toNat_lt
  have hb := b.toNat_lt
  have hc := c.toNat_lt
  have hd := d.toNat_lt
  have hab : a.toNat * 2 ^ 24 ||| b.toNat * 2 ^ 16 = a.toNat * 2 ^ 24 + b.toNat * 2 ^ 16 :=
    or_eq_add (n := 24) (by omega) (by omega)
  have habc := or_eq_add (a := a.toNat * 2 ^ 24 + b.toNat * 2 ^ 16) (b := c.toNat * 2 ^ 8)
    (n := 16) (by omega) (by omega)
  have habcd := or_eq_add (n := 8) (b := d.toNat)
    (a := a.toNat * 2 ^ 24 + b.toNat * 2 ^ 16 + c.toNat * 2 ^ 8) (by omega) (by omega)
  simp only [Nat.shiftLeft_eq]
  rw [hab, habc, habcd, show 0xffffffff = 2 ^ 32 - 1 by decide, Nat.and_two_pow_sub_one_eq_mod,
    Nat.mod_eq_of_lt (by omega)]
  simp only [ofBytes, List.length_cons, List.length_nil]
  omega

theorem getD_drop (buffer : Bytes) (offset i : Nat) :
    buffer.getD (offset + i) 0 = (buffer.drop offset).getD i 0 := by
  rw [List.getD_eq_getElem?_getD, List.getD_eq_getElem?_getD, List.getElem?_drop]

theorem readU8_refines : Refines readU8 Buffer.readU8 := by
  refine readUBE_refines fun buffer offset => ?_
  unfold readU8
  by_cases hroom : offset ≥ buffer.length
  · rw [if_pos hroom, if_pos (by omega)]
  · rw [if_neg hroom, if_neg (by omega)]
    have hlength : 0 < (buffer.drop offset).length := by
      rw [List.length_drop]
      omega
    have hbyte := getD_drop buffer offset 0
    rw [Nat.add_zero] at hbyte
    rw [hbyte]
    match buffer.drop offset, hlength with
    | byte :: _, _ => simp [ofBytes]

theorem readU16BE_refines : Refines readU16BE Buffer.readU16BE := by
  refine readUBE_refines fun buffer offset => ?_
  unfold readU16BE
  split
  case isTrue => rfl
  case isFalse hroom =>
    have hlength : 1 < (buffer.drop offset).length := by
      rw [List.length_drop]
      omega
    simp only [getD_drop]
    match buffer.drop offset, hlength with
    | a :: b :: _, _ =>
        have hb := b.toNat_lt
        simp only [List.getD_cons_zero, List.getD_cons_succ, Nat.shiftLeft_eq]
        rw [or_eq_add (n := 8) (by omega) (by omega)]
        simp [ofBytes]

theorem readU32BE_refines : Refines readU32BE Buffer.readU32BE :=
  readUBE_refines fun _ _ => rfl

theorem readU64BE_refines : Refines readU64BE Buffer.readU64BE := by
  refine readUBE_refines fun buffer offset => ?_
  unfold readU64BE
  split
  case isTrue => rfl
  case isFalse hroom =>
    have hlength : 7 < (buffer.drop offset).length := by
      rw [List.length_drop]
      omega
    simp only [getD_drop]
    match buffer.drop offset, hlength with
    | a :: b :: c :: d :: e :: f :: g :: h :: _, _ =>
        have hlow : ofBytes [e, f, g, h] < 2 ^ 32 :=
          (ofBytes_lt [e, f, g, h]).trans_eq (by simp)
        simp only [List.getD_cons_zero, List.getD_cons_succ]
        rw [word_eq, word_eq, Nat.shiftLeft_eq,
          or_eq_add (n := 32) (Nat.dvd_mul_left (2 ^ 32) (ofBytes [a, b, c, d])) hlow]
        have happend := ofBytes_append [a, b, c, d] [e, f, g, h]
        simp only [List.cons_append, List.nil_append, List.length_cons, List.length_nil] at happend
        simp only [List.take_succ_cons, List.take_zero, happend]
        rfl

theorem readString_refines : Refines readString Buffer.readString :=
  readU32BE_refines.bind fun length => (Refines.pure []).ite (length = 0)
    ((readBytes_refines length).bind fun data => Refines.pure (utf8Decode data))

theorem readOptionalU64_refines : Refines readOptionalU64 Buffer.readOptionalU64 :=
  readU8_refines.bind fun hasValue => (Refines.pure none).ite (hasValue = 0)
    (readU64BE_refines.bind fun value => Refines.pure (some value))

theorem readOptionalString_refines : Refines readOptionalString Buffer.readOptionalString :=
  readU8_refines.bind fun hasValue => (Refines.pure none).ite (hasValue = 0)
    (readString_refines.bind fun value => Refines.pure (some value))

theorem readOptionalBytes_refines : Refines readOptionalBytes Buffer.readOptionalBytes :=
  readU8_refines.bind fun hasValue => (Refines.pure none).ite (hasValue = 0)
    (readU32BE_refines.bind fun length => (readBytes_refines length).bind fun value =>
      Refines.pure (some value))

end BufferReader

end FitzTs
