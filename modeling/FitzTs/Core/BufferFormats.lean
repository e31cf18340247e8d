import FitzTs.Core.Buffer
import FitzTs.Lib.Reading
/-!
# FitzTs.Core.BufferFormats

**What the methods of the reader accept**, as rules for the decoders. A number is any of its width,
a string is any bytes behind their length, and an optional value is there for every flag but 0,
whatever the flag is. Whether a payload has only the flags 0 and 1 is for `IsFlag` to say.
-/

namespace FitzTs.Buffer

open BigEndian JsString Reading

/-- A number of `k` bytes. -/
abbrev Unsigned (k : Nat) := {n : Nat // n < 256 ^ k}

def Unsigned.bytes {k : Nat} (n : Unsigned k) : Bytes := toBytes k n.val

@[simp] theorem Unsigned.length_bytes {k : Nat} (n : Unsigned k) : n.bytes.length = k :=
  length_toBytes

/-- Bytes that stand behind their length. -/
abbrev Prefixed := {data : Bytes // data.length < 2 ^ 32}

def Prefixed.bytes (data : Prefixed) : Bytes := writeLengthAndBytes data.val

/-- The string that is read. -/
def Prefixed.text (data : Prefixed) : JsString := utf8Decode data.val

/-- A flag that stands for a truth value. -/
def IsFlag (flag : UInt8) : Prop := flag = 0 ∨ flag = 1

def flagByte (flag : Bool) : UInt8 := if flag then 1 else 0

theorem flagByte_injective : flagByte.Injective := by
  rintro (_ | _) (_ | _) h <;> first | rfl | cases h

/-- A flag, and a value unless the flag says that it is absent. -/
structure Optional (absent : Nat → Prop) (ρ : Type) where
  flag : UInt8
  value : Option ρ
  value_none : value = none ↔ absent flag.toNat

def Optional.bytes {absent : Nat → Prop} {ρ : Type} (encode : ρ → Bytes)
    (optional : Optional absent ρ) : Bytes :=
  optional.flag :: optional.value.elim [] encode

/-- Its flag is one that stands for a truth value. -/
def Optional.Plain {absent : Nat → Prop} {ρ : Type} (optional : Optional absent ρ) : Prop :=
  IsFlag optional.flag

/-- What `readOptionalU64` takes. -/
abbrev OptionalNumber := Optional (· = 0) (Unsigned 8)

def OptionalNumber.number (n : OptionalNumber) : Option Nat := n.value.map (·.val)

theorem readUBE_reads (k : Nat) :
    Reads anything (readUBE k) (fun n : Unsigned k => n.bytes) (·.val) := by
  intro input n rest
  rw [readUBE_eq_some]
  constructor
  · rintro ⟨rfl, hn⟩
    exact ⟨trivial, ⟨n, hn⟩, rfl, rfl⟩
  · rintro ⟨-, ⟨n, hn⟩, rfl, rfl⟩
    exact ⟨rfl, hn⟩

theorem readU8_reads : Reads anything readU8 (fun flag : UInt8 => [flag]) UInt8.toNat := by
  refine (readUBE_reads 1).congr ?_ ?_
  · rintro ⟨n, hn⟩
    have hbyte : (UInt8.ofNat n).toNat = n := Nat.mod_eq_of_lt hn
    exact ⟨UInt8.ofNat n, by simp [Unsigned.bytes, toBytes], hbyte⟩
  · intro flag
    exact ⟨⟨flag.toNat, flag.toNat_lt⟩, by simp [Unsigned.bytes, toBytes], rfl⟩

theorem readU8_cons (byte : UInt8) (rest : Bytes) :
    readU8 (byte :: rest) = some (byte.toNat, rest) :=
  (readU8_reads _ _ _).mpr ⟨trivial, byte, rfl, rfl⟩

/-- A byte that decides how to go on. -/
theorem readTag_eq_some {α : Type} {f : Nat → Reader α} {input rest : Bytes} {a : α} :
    (readU8 >>= f) input = some (a, rest) ↔
      ∃ tag middle, tag < 256 ∧ input = UInt8.ofNat tag :: middle ∧
        f tag middle = some (a, rest) := by
  rw [Reading.bind_eq_some]
  constructor
  · rintro ⟨n, middle, htag, h⟩
    obtain ⟨-, tag, rfl, rfl⟩ := (readU8_reads _ _ _).mp htag
    exact ⟨tag.toNat, middle, tag.toNat_lt, by rw [UInt8.ofNat_toNat]; rfl, h⟩
  · rintro ⟨tag, middle, hlt, rfl, h⟩
    exact ⟨tag, middle, (readU8_reads _ _ _).mpr
      ⟨trivial, UInt8.ofNat tag, rfl, (Nat.mod_eq_of_lt hlt).symm⟩, h⟩

/-- A flag that must be 0 or 1, and what follows. -/
theorem readFlag_reads {α : Type} {last : Bytes → Prop} {σ : Bool → Type} {f : Nat → Reader α}
    {encode : ∀ flag, σ flag → Bytes} {value : ∀ flag, σ flag → α}
    (h : ∀ flag : Bool, Reads last (f flag.toNat) (encode flag) (value flag)) :
    Reads last (readU8 >>= fun flag => guard (¬ (flag ≠ 0 ∧ flag ≠ 1)) >>= fun _ => f flag)
      (fun raw : Sigma σ => flagByte raw.1 :: encode raw.1 raw.2)
        (fun raw => value raw.1 raw.2) := by
  have hflag : Reads anything (readU8 >>= fun flag =>
      guard (¬ (flag ≠ 0 ∧ flag ≠ 1)) >>= fun _ => pure flag)
      (fun flag : Bool => [flagByte flag]) Bool.toNat := by
    refine Reads.congr (readU8_reads.bind fun flag => (Reads.check _).bind fun _ =>
      Reads.pure flag.toNat) ?_ ?_
    · rintro ⟨flag, ⟨hcheck⟩, -⟩
      have hflag : flag = 0 ∨ flag = 1 := by
        rw [← UInt8.toNat_inj, ← UInt8.toNat_inj]
        exact by_contra fun h => hcheck (not_or.mp h)
      obtain rfl | rfl := hflag
      · exact ⟨false, rfl, rfl⟩
      · exact ⟨true, rfl, rfl⟩
    · intro flag
      cases flag with
      | false => exact ⟨⟨0, ⟨by decide⟩, ()⟩, rfl, rfl⟩
      | true => exact ⟨⟨1, ⟨by decide⟩, ()⟩, rfl, rfl⟩
  have hbind := hflag.bind h
  simpa only [bind_assoc, pure_bind, List.singleton_append] using hbind

theorem readBytes_reads (count : Nat) :
    Reads anything (readBytes count) (fun data : {data : Bytes // data.length = count} => data.val)
      (·.val) := by
  intro input data rest
  rw [readBytes_eq_some]
  constructor
  · rintro ⟨rfl, hlength⟩
    exact ⟨trivial, ⟨data, hlength⟩, rfl, rfl⟩
  · rintro ⟨-, ⟨data, hlength⟩, rfl, rfl⟩
    exact ⟨rfl, hlength⟩

/-- A length, and so many bytes. -/
theorem readLengthAndBytes_reads :
    Reads anything (readU32BE >>= fun length => readBytes length)
      (fun data : Prefixed => data.bytes) (·.val) := by
  refine ((readUBE_reads 4).bind fun length => readBytes_reads length.val).congr ?_ ?_
  · rintro ⟨⟨length, hlt⟩, ⟨data, hdata⟩⟩
    have hdata : data.length = length := hdata
    refine ⟨⟨data, hdata ▸ hlt⟩, ?_, rfl⟩
    simp only [Prefixed.bytes, writeLengthAndBytes, writeU32BE, hdata, Unsigned.bytes]
  · rintro ⟨data, hlt⟩
    exact ⟨⟨⟨data.length, hlt⟩, ⟨data, rfl⟩⟩, rfl, rfl⟩

/-- A length, so many bytes, and what follows. -/
theorem readPrefixed_reads {α : Type} {last : Bytes → Prop} {σ : Prefixed → Type}
    {f : Bytes → Reader α} {encode : ∀ data, σ data → Bytes} {value : ∀ data, σ data → α}
    (h : ∀ data : Prefixed, Reads last (f data.val) (encode data) (value data)) :
    Reads last (readU32BE >>= fun length => readBytes length >>= f)
      (fun raw : Sigma σ => raw.1.bytes ++ encode raw.1 raw.2) (fun raw => value raw.1 raw.2) := by
  have hbind := readLengthAndBytes_reads.bind h
  rwa [bind_assoc] at hbind

theorem readString_reads :
    Reads anything readString (fun data : Prefixed => data.bytes) Prefixed.text := by
  intro input str rest
  constructor
  · intro h
    obtain ⟨data, rfl, hlt, rfl⟩ := readString_eq_some h
    exact ⟨trivial, ⟨data, hlt⟩, rfl, rfl⟩
  · rintro ⟨-, ⟨data, hlt⟩, rfl, rfl⟩
    exact readString_append hlt

/-- A flag, and a value unless it is absent. -/
theorem optional_reads {α ρ : Type} {absent : Nat → Prop} [DecidablePred absent]
    {m : Reader (Option α)} {encode : ρ → Bytes} {value : ρ → α}
    (hm : Reads anything m encode fun raw => some (value raw)) :
    Reads anything (do
      let flag ← readU8
      if absent flag then return none else m)
      (fun raw : Optional absent ρ => raw.bytes encode) (fun raw => raw.value.map value) := by
  have hvalue : ∀ flag : UInt8, Reads anything (if absent flag.toNat then pure none else m)
      (fun raw : {raw : Option ρ // raw = none ↔ absent flag.toNat} => raw.val.elim [] encode)
      (fun raw => raw.val.map value) := by
    intro flag
    by_cases habsent : absent flag.toNat
    · rw [if_pos habsent]
      refine (Reads.pure none).congr (fun _ => ⟨⟨none, by simp [habsent]⟩, rfl, rfl⟩) ?_
      rintro ⟨raw, hraw⟩
      obtain rfl := hraw.mpr habsent
      exact ⟨(), rfl, rfl⟩
    · rw [if_neg habsent]
      refine hm.congr (fun raw => ⟨⟨some raw, by simp [habsent]⟩, rfl, rfl⟩) ?_
      rintro ⟨raw, hraw⟩
      cases raw with
      | none => exact absurd (hraw.mp rfl) habsent
      | some raw => exact ⟨raw, rfl, rfl⟩
  refine (readU8_reads.bind hvalue).congr ?_ ?_
  · rintro ⟨flag, raw, hraw⟩
    exact ⟨⟨flag, raw, hraw⟩, rfl, rfl⟩
  · rintro ⟨flag, raw, hraw⟩
    exact ⟨⟨flag, raw, hraw⟩, rfl, rfl⟩

theorem readOptionalU64_reads :
    Reads anything readOptionalU64 (fun n : OptionalNumber => n.bytes Unsigned.bytes)
      OptionalNumber.number :=
  optional_reads ((readUBE_reads 8).map some)

/-- A length of a list, and so many values. -/
theorem readMany_reads {α β ρ : Type} {last : Bytes → Prop} {item : Reader α}
    {encode : ρ → Bytes} {value : ρ → α} (hitem : Reads anything item encode value)
    {σ : {raws : List ρ // raws.length < 2 ^ 32} → Type} {f : List α → Reader β}
    {encode' : ∀ raws, σ raws → Bytes} {value' : ∀ raws, σ raws → β}
    (h : ∀ raws, Reads last (f (raws.val.map value)) (encode' raws) (value' raws)) :
    Reads last (readU32BE >>= fun count => many item count >>= f)
      (fun raw : Sigma σ =>
        writeU32BE raw.1.val.length ++ raw.1.val.flatMap encode ++ encode' raw.1 raw.2)
      (fun raw => value' raw.1 raw.2) := by
  have hfirst : Reads anything (readU32BE >>= fun count => many item count)
      (fun raws : {raws : List ρ // raws.length < 2 ^ 32} =>
        writeU32BE raws.val.length ++ raws.val.flatMap encode)
        (fun raws => raws.val.map value) := by
    refine ((readUBE_reads 4).bind fun count => Reads.many hitem count.val).congr ?_ ?_
    · rintro ⟨⟨count, hlt⟩, ⟨raws, hraws⟩⟩
      have hraws : raws.length = count := hraws
      refine ⟨⟨raws, hraws ▸ hlt⟩, ?_, rfl⟩
      simp only [writeU32BE, hraws, Unsigned.bytes]
    · rintro ⟨raws, hlt⟩
      exact ⟨⟨⟨raws.length, hlt⟩, ⟨raws, rfl⟩⟩, rfl, rfl⟩
  have hbind := hfirst.bind h
  rwa [bind_assoc] at hbind

/-! ## Unambiguous formats -/

theorem Unsigned.unambiguous {k : Nat} : Unambiguous (fun n : Unsigned k => n.bytes) :=
  (readUBE_reads k).unambiguous Subtype.val_injective

theorem Prefixed.unambiguous : Unambiguous (fun data : Prefixed => data.bytes) := by
  intro data data' rest rest' h
  have hparts := h
  simp only [Prefixed.bytes, writeLengthAndBytes, List.append_assoc] at hparts
  obtain ⟨hlength, hrest⟩ := @Unsigned.unambiguous 4 ⟨_, data.2⟩ ⟨_, data'.2⟩ _ _ hparts
  obtain ⟨hdata, rfl⟩ := List.append_inj hrest (congrArg Subtype.val hlength)
  exact ⟨Subtype.ext hdata, rfl⟩

theorem Optional.unambiguous {absent : Nat → Prop} {ρ : Type} {encode : ρ → Bytes}
    (h : Unambiguous encode) :
    Unambiguous (fun optional : Optional absent ρ => optional.bytes encode) := by
  rintro ⟨flag, value, hvalue⟩ ⟨flag', value', hvalue'⟩ rest rest' heq
  obtain ⟨rfl, heq⟩ := List.cons.inj heq
  cases value with
  | none =>
      obtain rfl := hvalue'.mpr (hvalue.mp rfl)
      exact ⟨rfl, heq⟩
  | some raw =>
      cases value' with
      | none => exact absurd (hvalue.mpr (hvalue'.mp rfl)) (Option.some_ne_none raw)
      | some raw' =>
          obtain ⟨rfl, rfl⟩ := h heq
          exact ⟨rfl, rfl⟩

end FitzTs.Buffer
