import FitzTs.Lib.BigEndian
import Mathlib.Logic.Function.Basic
/-!
# FitzTs.Lib.ArrayBuffer

**Byte arrays that share their buffers.** A `Uint8Array` is a window of a buffer that lives in a
`Memory`. `alloc` and `slice` make a window of a buffer of its own; `set` writes through a window.
What is written to a new buffer is seen through no window that was there before (`Grows.bytes`).

`overwrite` is `set` on the contents. A buffer that is filled from left to right holds what has been
written, and after it what was there (`overwrite_append`).
-/

namespace ArrayBuffer

open BigEndian

/-! ### Contents -/

/-- `src` is written over `l` from `offset` on. -/
def overwrite {α : Type*} (l : List α) (offset : Nat) (src : List α) : List α :=
  l.take offset ++ src ++ l.drop (offset + src.length)

theorem overwrite_append {α : Type*} {l src rest : List α} {offset : Nat} (h : l.length = offset) :
    overwrite (l ++ rest) offset src = l ++ src ++ rest.drop src.length := by
  subst h
  rw [overwrite, List.take_left', List.drop_append, List.drop_eq_nil_of_le (Nat.le_add_right _ _),
    Nat.add_sub_cancel_left, List.nil_append]
  rfl

theorem overwrite_zero {α : Type*} {l src : List α} :
    overwrite l 0 src = src ++ l.drop src.length := by
  rw [overwrite, List.take_zero, List.nil_append, Nat.zero_add]

theorem length_overwrite {α : Type*} (l src : List α) (offset : Nat)
    (h : offset + src.length ≤ l.length) : (overwrite l offset src).length = l.length := by
  simp only [overwrite, List.length_append, List.length_take, List.length_drop]
  omega

/-- The big-endian number of `k` bytes at `offset`. -/
def getUint (bytes : List UInt8) (offset k : Nat) : Nat := ofBytes ((bytes.drop offset).take k)

theorem getUint_append {l rest : List UInt8} {offset k n : Nat} (h : l.length = offset)
    (hn : n < 256 ^ k) : getUint (l ++ (toBytes k n ++ rest)) offset k = n := by
  rw [getUint, List.drop_left' h, List.take_left' length_toBytes, ofBytes_toBytes hn]

/-- What stands behind the number makes no difference to it. -/
theorem getUint_append_left {l rest : List UInt8} {offset k : Nat} (h : offset + k ≤ l.length) :
    getUint (l ++ rest) offset k = getUint l offset k := by
  rw [getUint, getUint, List.drop_append_of_le_length (by omega),
    List.take_append_of_le_length (by rw [List.length_drop]; omega)]

theorem getUint_lt (bytes : List UInt8) (offset k : Nat) : getUint bytes offset k < 256 ^ k :=
  (ofBytes_lt _).trans_le (Nat.pow_le_pow_right (by decide) (List.length_take_le _ _))

/-- The bytes of the number that is read. -/
theorem toBytes_getUint {bytes : List UInt8} {offset k : Nat} (h : offset + k ≤ bytes.length) :
    toBytes k (getUint bytes offset k) = (bytes.drop offset).take k := by
  have hlength : ((bytes.drop offset).take k).length = k := by
    rw [List.length_take, List.length_drop]
    omega
  have hround := toBytes_ofBytes ((bytes.drop offset).take k)
  rwa [hlength] at hround

end ArrayBuffer

/-! ### Memory -/

/-- The identity of a buffer. -/
abbrev BufferId := Nat

/-- The buffers there are, and their contents. -/
structure Memory where
  contents : BufferId → List UInt8 := fun _ => []
  allocated : BufferId := 0

/-- A window of a buffer. -/
structure Uint8Array where
  buffer : BufferId
  byteOffset : Nat
  byteLength : Nat
  deriving DecidableEq, Repr

namespace Memory

open ArrayBuffer

variable {m m' m'' : Memory} {a : Uint8Array}

/-- What is seen through the window. -/
def bytes (m : Memory) (a : Uint8Array) : List UInt8 :=
  ((m.contents a.buffer).drop a.byteOffset).take a.byteLength

/-- The window lies in a buffer of `m`. -/
structure Holds (m : Memory) (a : Uint8Array) : Prop where
  allocated : a.buffer < m.allocated
  inBounds : a.byteOffset + a.byteLength ≤ (m.contents a.buffer).length

/-- `new Uint8Array(length)`. -/
def alloc (m : Memory) (length : Nat) : Memory × Uint8Array :=
  ({ contents := Function.update m.contents m.allocated (List.replicate length 0)
     allocated := m.allocated + 1 },
    { buffer := m.allocated, byteOffset := 0, byteLength := length })

/-- Write `src` to a buffer. -/
def setBuffer (m : Memory) (buffer : BufferId) (offset : Nat) (src : List UInt8) : Memory :=
  { m with
    contents := Function.update m.contents buffer (overwrite (m.contents buffer) offset src) }

/-- `a.set(src, offset)`. -/
def set (m : Memory) (a : Uint8Array) (offset : Nat) (src : List UInt8) : Memory :=
  m.setBuffer a.buffer (a.byteOffset + offset) src

/-- `a.slice()`: a copy. -/
def slice (m : Memory) (a : Uint8Array) : Memory × Uint8Array :=
  let copy := (m.alloc a.byteLength).2
  ((m.alloc a.byteLength).1.set copy 0 (m.bytes a), copy)

theorem Holds.length_bytes (h : m.Holds a) : (m.bytes a).length = a.byteLength := by
  have hbounds := h.inBounds
  rw [bytes, List.length_take, List.length_drop]
  omega

/-- The buffers of `m` are in `m'` as they were. -/
structure Grows (m m' : Memory) : Prop where
  contents : ∀ buffer < m.allocated, m'.contents buffer = m.contents buffer
  allocated : m.allocated ≤ m'.allocated

theorem Grows.refl (m : Memory) : Grows m m := ⟨fun _ _ => rfl, le_rfl⟩

theorem Grows.trans (h : Grows m m') (h' : Grows m' m'') : Grows m m'' where
  contents := fun buffer hb =>
    (h'.contents buffer (hb.trans_le h.allocated)).trans (h.contents buffer hb)
  allocated := h.allocated.trans h'.allocated

theorem alloc_grows (m : Memory) (length : Nat) : Grows m (m.alloc length).1 where
  contents := fun _ hb => Function.update_of_ne hb.ne ..
  allocated := Nat.le_succ _

/-- A buffer that is not one of `m` is written to. -/
theorem Grows.setBuffer (h : Grows m m') {buffer : BufferId} (hb : m.allocated ≤ buffer)
    (offset : Nat) (src : List UInt8) : Grows m (m'.setBuffer buffer offset src) where
  contents := fun b hlt =>
    (Function.update_of_ne (hlt.trans_le hb).ne ..).trans (h.contents b hlt)
  allocated := h.allocated

/-- The windows of `m` show what they showed. -/
theorem Grows.bytes (h : Grows m m') (ha : m.Holds a) : m'.bytes a = m.bytes a := by
  rw [Memory.bytes, Memory.bytes, h.contents _ ha.allocated]

@[simp] theorem setBuffer_contents (m : Memory) (buffer : BufferId) (offset : Nat)
    (src : List UInt8) :
    (m.setBuffer buffer offset src).contents buffer = overwrite (m.contents buffer) offset src :=
  Function.update_self ..

@[simp] theorem alloc_contents (m : Memory) (length : Nat) :
    (m.alloc length).1.contents (m.alloc length).2.buffer = List.replicate length 0 :=
  Function.update_self ..

theorem slice_grows (m : Memory) (a : Uint8Array) : Grows m (m.slice a).1 :=
  (m.alloc_grows a.byteLength).setBuffer le_rfl _ _

theorem slice_contents (m : Memory) (h : m.Holds a) :
    (m.slice a).1.contents (m.slice a).2.buffer = m.bytes a := by
  unfold slice set
  dsimp only
  rw [setBuffer_contents, alloc_contents]
  dsimp only [alloc]
  rw [overwrite_zero, h.length_bytes, List.drop_replicate, Nat.sub_self, List.replicate_zero,
    List.append_nil]

end Memory
