import FitzTs.Lib.JsString
/-!
# FitzTs.Lib.Utf8

`TextEncoder` and `TextDecoder`: UTF-8 with replacement.

The encoder turns a surrogate that stands alone into U+FFFD. The decoder is the state machine of the
encoding standard: `Pending` is the sequence it is in the middle of, with the range in which the
next byte has to be. A byte outside that range ends the sequence with U+FFFD and is looked at again
as the first of a new one. A byte order mark at the start is dropped.
-/

namespace JsString

/-- U+FFFD. -/
def replacement : Nat := 0xfffd

/-- The code points of a string. -/
def codePoints : JsString → List Nat
  | [] => []
  | [c] => [if 0xd800 ≤ c ∧ c ≤ 0xdfff then replacement else c.toNat]
  | c :: d :: s =>
    if 0xd800 ≤ c ∧ c ≤ 0xdbff ∧ 0xdc00 ≤ d ∧ d ≤ 0xdfff then
      (0x10000 + (c.toNat - 0xd800) * 0x400 + (d.toNat - 0xdc00)) :: codePoints s
    else (if 0xd800 ≤ c ∧ c ≤ 0xdfff then replacement else c.toNat) :: codePoints (d :: s)

/-- The string with a given code point. -/
def fromCodePoint (n : Nat) : JsString :=
  if n < 0x10000 then [n.toUInt16]
  else [(0xd800 + (n - 0x10000) / 0x400).toUInt16, (0xdc00 + (n - 0x10000) % 0x400).toUInt16]

/-- The bytes of a code point. -/
def utf8Bytes (n : Nat) : List UInt8 :=
  if n < 0x80 then [n.toUInt8]
  else if n < 0x800 then [(0xc0 + n / 0x40).toUInt8, (0x80 + n % 0x40).toUInt8]
  else if n < 0x10000 then
    [(0xe0 + n / 0x1000).toUInt8, (0x80 + n / 0x40 % 0x40).toUInt8, (0x80 + n % 0x40).toUInt8]
  else
    [(0xf0 + n / 0x40000).toUInt8, (0x80 + n / 0x1000 % 0x40).toUInt8,
      (0x80 + n / 0x40 % 0x40).toUInt8, (0x80 + n % 0x40).toUInt8]

/-- `utf8Encoder.encode(s)`. -/
def utf8Encode (s : JsString) : List UInt8 := (codePoints s).flatMap utf8Bytes

/-- A sequence of which some bytes are still to come. -/
structure Pending where
  /-- The bytes still needed, at least one. -/
  needed : Nat
  codePoint : Nat
  lower : UInt8
  upper : UInt8
  deriving DecidableEq, Repr

/-- The first byte of a sequence. -/
inductive Lead
  | ascii (codePoint : Nat)
  | sequence (pending : Pending)
  | invalid
  deriving DecidableEq, Repr

def lead (b : UInt8) : Lead :=
  if b ≤ 0x7f then .ascii b.toNat
  else if 0xc2 ≤ b ∧ b ≤ 0xdf then .sequence ⟨1, b.toNat % 0x20, 0x80, 0xbf⟩
  else if 0xe0 ≤ b ∧ b ≤ 0xef then
    .sequence ⟨2, b.toNat % 0x10, if b = 0xe0 then 0xa0 else 0x80, if b = 0xed then 0x9f else 0xbf⟩
  else if 0xf0 ≤ b ∧ b ≤ 0xf4 then
    .sequence ⟨3, b.toNat % 0x8, if b = 0xf0 then 0x90 else 0x80, if b = 0xf4 then 0x8f else 0xbf⟩
  else .invalid

/-- The code points of the bytes that follow, in the middle of a sequence or not. -/
def decodeFrom : Option Pending → List UInt8 → List Nat
  | none, [] => []
  | some _, [] => [replacement]
  | pending, b :: bs =>
    let first := fun (before : List Nat) =>
      match lead b with
      | .ascii n => before ++ n :: decodeFrom none bs
      | .sequence pending => before ++ decodeFrom (some pending) bs
      | .invalid => before ++ replacement :: decodeFrom none bs
    match pending with
    | none => first []
    | some p =>
      if p.lower ≤ b ∧ b ≤ p.upper then
        let codePoint := p.codePoint * 0x40 + b.toNat % 0x40
        if p.needed = 1 then codePoint :: decodeFrom none bs
        else decodeFrom (some ⟨p.needed - 1, codePoint, 0x80, 0xbf⟩) bs
      else first [replacement]

/-- `utf8Decoder.decode(bytes)`. -/
def utf8Decode (bytes : List UInt8) : JsString :=
  let bytes := if [0xef, 0xbb, 0xbf].isPrefixOf bytes then bytes.drop 3 else bytes
  (decodeFrom none bytes).flatMap fromCodePoint

example : utf8Decode (utf8Encode (js "häß€😀")) = js "häß€😀" := by decide +kernel

end JsString
