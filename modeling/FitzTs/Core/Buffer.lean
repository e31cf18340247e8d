import FitzTs.Lib.BigEndian
import FitzTs.Lib.Utf8
/-!
# FitzTs.Core.Buffer

`core/buffer.ts`: big-endian encoding and decoding.

What a method of the writer appends is a byte string, and a sequence of calls is a concatenation.
The reader is a state monad over the bytes that are left; a `CodecError` is `none`. What was written
is read back by the method of the same name (`readUBE_append` and the lemmas after it).
-/

namespace FitzTs.Buffer

open BigEndian JsString

abbrev Bytes := List UInt8

/-! ## Writing -/

def writeU8 (value : Nat) : Bytes := toBytes 1 value
def writeU16BE (value : Nat) : Bytes := toBytes 2 value
def writeU32BE (value : Nat) : Bytes := toBytes 4 value
def writeU64BE (value : Nat) : Bytes := toBytes 8 value

/-- Bytes behind their length. -/
def writeLengthAndBytes (data : Bytes) : Bytes := writeU32BE data.length ++ data

def writeString (str : JsString) : Bytes := writeLengthAndBytes (utf8Encode str)

/-- `writeRoute`, that is `getRouteEncoding`. -/
def writeRoute (route : JsString) : Bytes := writeString route

def writeOptionalU64 : Option Nat → Bytes
  | none => writeU8 0
  | some value => writeU8 1 ++ writeU64BE value

def writeOptionalString : Option JsString → Bytes
  | none => writeU8 0
  | some str => writeU8 1 ++ writeString str

def writeOptionalBytes : Option Bytes → Bytes
  | none => writeU8 0
  | some data => writeU8 1 ++ writeLengthAndBytes data

/-! ## Reading -/

/-- A reader over the bytes left. -/
abbrev Reader := StateT Bytes Option

def readBytes (count : Nat) : Reader Bytes := fun bytes =>
  if count ≤ bytes.length then some (bytes.take count, bytes.drop count) else none

/-- The `k`-byte number at the offset. -/
def readUBE (k : Nat) : Reader Nat := do return ofBytes (← readBytes k)

def readU8 : Reader Nat := readUBE 1
def readU16BE : Reader Nat := readUBE 2
def readU32BE : Reader Nat := readUBE 4
def readU64BE : Reader Nat := readUBE 8

def readString : Reader JsString := do
  let length ← readU32BE
  if length = 0 then return []
  else return utf8Decode (← readBytes length)

def readOptionalU64 : Reader (Option Nat) := do
  let hasValue ← readU8
  if hasValue = 0 then return none
  else return some (← readU64BE)

def readOptionalString : Reader (Option JsString) := do
  let hasValue ← readU8
  if hasValue = 0 then return none
  else return some (← readString)

def readOptionalBytes : Reader (Option Bytes) := do
  let hasValue ← readU8
  if hasValue = 0 then return none
  else return some (← readBytes (← readU32BE))

def isEOF : Reader Bool := fun bytes => some (bytes.isEmpty, bytes)

/-- `remaining()`. -/
def remaining : Reader Bytes := fun bytes => some (bytes, bytes)

/-- What a reader makes of the whole of `payload`, or of its beginning. -/
def Reader.read {α : Type} (reader : Reader α) (payload : Bytes) : Option α :=
  (reader payload).map Prod.fst

/-! ## Reading what was written -/

section

variable {α β : Type} {reader : Reader α} {f : α → Reader β} {bytes rest : Bytes} {a : α}

/-- A reader goes on with what the first has left. -/
theorem bind_eq (h : reader bytes = some (a, rest)) : (reader >>= f) bytes = f a rest := by
  change (reader bytes >>= fun p => f p.1 p.2) = _
  rw [h]
  rfl

/-- What was written is read, and the rest is left. -/
theorem readBytes_append {count : Nat} (h : bytes.length = count) :
    readBytes count (bytes ++ rest) = some (bytes, rest) := by
  simp [readBytes, ← h]

/-- A number comes back from its bytes if they can hold it. -/
theorem readUBE_append {k n : Nat} (h : n < 256 ^ k) :
    readUBE k (toBytes k n ++ rest) = some (n, rest) := by
  unfold readUBE
  rw [bind_eq (readBytes_append length_toBytes), ofBytes_toBytes h]
  rfl

theorem readU8_append {n : Nat} (h : n < 2 ^ 8) : readU8 (writeU8 n ++ rest) = some (n, rest) :=
  readUBE_append h

theorem readU16BE_append {n : Nat} (h : n < 2 ^ 16) :
    readU16BE (writeU16BE n ++ rest) = some (n, rest) :=
  readUBE_append h

theorem readU32BE_append {n : Nat} (h : n < 2 ^ 32) :
    readU32BE (writeU32BE n ++ rest) = some (n, rest) :=
  readUBE_append h

theorem readU64BE_append {n : Nat} (h : n < 2 ^ 64) :
    readU64BE (writeU64BE n ++ rest) = some (n, rest) :=
  readUBE_append h

@[simp] theorem length_writeU8 {n : Nat} : (writeU8 n).length = 1 := length_toBytes
@[simp] theorem length_writeU16BE {n : Nat} : (writeU16BE n).length = 2 := length_toBytes
@[simp] theorem length_writeU32BE {n : Nat} : (writeU32BE n).length = 4 := length_toBytes
@[simp] theorem length_writeU64BE {n : Nat} : (writeU64BE n).length = 8 := length_toBytes

/-- A check reads nothing. -/
theorem guard_bind {p : Prop} [Decidable p] {g : Unit → Reader β} :
    (guard p >>= g) bytes = if p then g () bytes else none := by
  by_cases h : p
  · rw [if_pos h, guard, if_pos h]
    rfl
  · rw [if_neg h, guard, if_neg h]
    rfl

/-- Bytes behind a length are read back. -/
theorem readLengthAndBytes_append {f : Bytes → Reader β} {data : Bytes} (h : data.length < 2 ^ 32) :
    (do f (← readBytes (← readU32BE))) (writeLengthAndBytes data ++ rest) = f data rest := by
  rw [writeLengthAndBytes, List.append_assoc, bind_eq (readU32BE_append h),
    bind_eq (readBytes_append rfl)]

/-- The bytes of a string come back behind their length. -/
theorem readString_append {data : Bytes} (h : data.length < 2 ^ 32) :
    readString (writeLengthAndBytes data ++ rest) = some (utf8Decode data, rest) := by
  unfold readString
  rw [writeLengthAndBytes, List.append_assoc, bind_eq (readU32BE_append h)]
  cases data with
  | nil => rfl
  | cons b data =>
      rw [if_neg (by simp), bind_eq (readBytes_append rfl)]
      rfl

theorem readOptionalBytes_append {data : Option Bytes} (h : ∀ d ∈ data, d.length < 2 ^ 32) :
    readOptionalBytes (writeOptionalBytes data ++ rest) = some (data, rest) := by
  cases data with
  | none => exact bind_eq (readU8_append (by decide))
  | some data =>
      unfold readOptionalBytes writeOptionalBytes
      rw [List.append_assoc, bind_eq (readU8_append (by decide)), if_neg (by decide)]
      exact readLengthAndBytes_append (h data rfl)

theorem readOptionalU64_append {value : Option Nat} (h : ∀ n ∈ value, n < 2 ^ 64) :
    readOptionalU64 (writeOptionalU64 value ++ rest) = some (value, rest) := by
  cases value with
  | none => exact bind_eq (readU8_append (by decide))
  | some value =>
      unfold readOptionalU64 writeOptionalU64
      rw [List.append_assoc, bind_eq (readU8_append (by decide)), if_neg (by decide)]
      exact bind_eq (readU64BE_append (h value rfl))

theorem readOptionalString_append {value : Option JsString}
    (h : ∀ str ∈ value, (utf8Encode str).length < 2 ^ 32) :
    readOptionalString (writeOptionalString value ++ rest) =
      some (value.map fun str => utf8Decode (utf8Encode str), rest) := by
  cases value with
  | none => exact bind_eq (readU8_append (by decide))
  | some value =>
      unfold readOptionalString writeOptionalString
      rw [List.append_assoc, bind_eq (readU8_append (by decide)), if_neg (by decide)]
      exact bind_eq (readString_append (h value rfl))

/-! ### What has been read -/

/-- Two readers in a row. -/
theorem bind_eq_some {b : β} :
    (reader >>= f) bytes = some (b, rest) ↔
      ∃ a middle, reader bytes = some (a, middle) ∧ f a middle = some (b, rest) := by
  change (reader bytes >>= fun p => f p.1 p.2) = _ ↔ _
  cases reader bytes with
  | none => simp
  | some p =>
      constructor
      · exact fun h => ⟨p.1, p.2, rfl, h⟩
      · rintro ⟨a, middle, heq, h⟩
        obtain rfl := Option.some.inj heq
        exact h

/-- What is read was there, and nothing else. -/
theorem readBytes_eq_some {count : Nat} {data : Bytes} :
    readBytes count bytes = some (data, rest) ↔ bytes = data ++ rest ∧ data.length = count := by
  constructor
  · intro h
    obtain ⟨hle, heq⟩ := Option.ite_none_right_eq_some.mp h
    obtain ⟨rfl, rfl⟩ := Prod.mk.inj (Option.some.inj heq)
    exact ⟨(List.take_append_drop ..).symm, List.length_take_of_le hle⟩
  · rintro ⟨rfl, hlength⟩
    exact readBytes_append hlength

/-- A number has one spelling. -/
theorem readUBE_eq_some {k n : Nat} :
    readUBE k bytes = some (n, rest) ↔ bytes = toBytes k n ++ rest ∧ n < 256 ^ k := by
  constructor
  · intro h
    obtain ⟨data, middle, hdata, hpure⟩ := bind_eq_some.mp h
    obtain ⟨rfl, rfl⟩ := readBytes_eq_some.mp hdata
    obtain ⟨rfl, rfl⟩ := Prod.mk.inj (Option.some.inj hpure)
    exact ⟨by rw [toBytes_ofBytes], ofBytes_lt data⟩
  · rintro ⟨rfl, hn⟩
    exact readUBE_append hn

/-- A string that is read stood behind its length. -/
theorem readString_eq_some {str : JsString} (h : readString bytes = some (str, rest)) :
    ∃ data : Bytes, bytes = writeLengthAndBytes data ++ rest ∧ data.length < 2 ^ 32 ∧
      str = utf8Decode data := by
  obtain ⟨length, middle, hlength, hrest⟩ := bind_eq_some.mp h
  obtain ⟨rfl, hlt⟩ := readUBE_eq_some.mp hlength
  split at hrest
  case isTrue hzero =>
    obtain ⟨rfl, rfl⟩ := Prod.mk.inj (Option.some.inj hrest)
    exact ⟨[], by simp [writeLengthAndBytes, writeU32BE, hzero], by decide, rfl⟩
  case isFalse =>
    obtain ⟨data, last, hdata, hpure⟩ := bind_eq_some.mp hrest
    obtain ⟨rfl, rfl⟩ := readBytes_eq_some.mp hdata
    obtain ⟨rfl, rfl⟩ := Prod.mk.inj (Option.some.inj hpure)
    exact ⟨data, by simp [writeLengthAndBytes, writeU32BE], hlt, rfl⟩

end

end FitzTs.Buffer
