import FitzTs.Core.Buffer
/-!
# FitzTs.Protocol.Response

`protocol/response.ts`: the envelope that the responses of all domains share.
-/

namespace FitzTs

open Buffer JsString

/-- The error envelope of a response. -/
structure ResponseError where
  errorCode : Nat
  errorClass : Nat
  effect : Nat
  error : JsString
  deriving DecidableEq, Repr

inductive ParsedResponse
  | success (data : Bytes)
  | failure (error : ResponseError)
  deriving DecidableEq, Repr

/-- `parseStandardResponse`; `none` where it throws. -/
def parseStandardResponse (payload : Bytes) : Option ParsedResponse :=
  Reader.read (do
    let status ← readU8
    if status = 0 then return .success (← remaining)
    else
      guard (status = 1)
      let errorCode ← readU16BE
      let errorClass ← readU8
      let effect ← readU8
      let error ← readString
      guard ¬ errorClass > 10
      guard ¬ effect > 2
      let eof ← isEOF
      guard (eof = true)
      return .failure { errorCode, errorClass, effect, error }) payload

theorem parseStandardResponse_success {data : Bytes} :
    parseStandardResponse (writeU8 0 ++ data) = some (.success data) := by
  unfold parseStandardResponse Reader.read
  rw [bind_eq (readU8_append (by decide)), if_pos rfl]
  rfl

/-- A success is a zero byte and the data. -/
theorem parseStandardResponse_eq_success_iff {payload data : Bytes} :
    parseStandardResponse payload = some (.success data) ↔ payload = 0 :: data := by
  constructor
  · intro h
    obtain ⟨⟨_, rest⟩, hread, rfl⟩ := Option.map_eq_some_iff.mp h
    obtain ⟨status, bytes, hstatus, hparts⟩ := bind_eq_some.mp hread
    clear h hread
    obtain ⟨rfl, -⟩ := readUBE_eq_some.mp hstatus
    split at hparts
    case isTrue hzero =>
      obtain ⟨hsuccess, rfl⟩ := Prod.mk.inj (Option.some.inj hparts)
      obtain rfl := ParsedResponse.success.inj hsuccess
      rw [hzero]
      rfl
    case isFalse =>
      rw [guard_bind] at hparts
      obtain ⟨-, hparts⟩ := Option.ite_none_right_eq_some.mp hparts
      -- what stands behind the other status ends in an error
      simp only [bind_eq_some, guard_bind, Option.ite_none_right_eq_some] at hparts
      obtain ⟨_, _, -, _, _, -, _, _, -, _, _, -, -, -, _, _, -, -, hpure⟩ := hparts
      cases hpure
  · rintro rfl
    exact parseStandardResponse_success

/-- `[u8 1][u16 code][u8 class][u8 effect][u32 length]` and the bytes of the message. -/
structure IsErrorResponse (payload : Bytes) (e : ResponseError) (message : Bytes) : Prop where
  errorCode_lt : e.errorCode < 2 ^ 16
  errorClass_le : e.errorClass ≤ 10
  effect_le : e.effect ≤ 2
  length_lt : message.length < 2 ^ 32
  error_eq : e.error = utf8Decode message
  payload_eq : payload = writeU8 1 ++ writeU16BE e.errorCode ++ writeU8 e.errorClass ++
    writeU8 e.effect ++ writeLengthAndBytes message

/-- An error is a whole envelope, with a class and an effect that are known. -/
theorem parseStandardResponse_eq_failure_iff {payload : Bytes} {e : ResponseError} :
    parseStandardResponse payload = some (.failure e) ↔
      ∃ message, IsErrorResponse payload e message := by
  constructor
  · intro h
    obtain ⟨⟨_, rest⟩, hread, rfl⟩ := Option.map_eq_some_iff.mp h
    obtain ⟨status, bytes, hstatus, hparts⟩ := bind_eq_some.mp hread
    clear h hread
    split at hparts
    case isTrue => cases hparts
    case isFalse =>
      simp only [bind_eq_some, guard_bind, Option.ite_none_right_eq_some] at hparts
      obtain ⟨rfl, code, _, hcode, errorClass, _, hclass, effect, _, heffect, error, _, herror,
        hclassLe, heffectLe, eof, _, heof, heofTrue, hpure⟩ := hparts
      obtain ⟨hfailure, rfl⟩ := Prod.mk.inj (Option.some.inj hpure)
      obtain rfl := ParsedResponse.failure.inj hfailure
      obtain ⟨rfl, rfl⟩ := Prod.mk.inj (Option.some.inj heof)
      obtain rfl := List.isEmpty_iff.mp heofTrue
      obtain ⟨message, rfl, hlength, rfl⟩ := readString_eq_some herror
      obtain ⟨rfl, -⟩ := readUBE_eq_some.mp heffect
      obtain ⟨rfl, -⟩ := readUBE_eq_some.mp hclass
      obtain ⟨rfl, hlt⟩ := readUBE_eq_some.mp hcode
      obtain ⟨rfl, -⟩ := readUBE_eq_some.mp hstatus
      exact ⟨message, hlt, not_lt.mp hclassLe, not_lt.mp heffectLe, hlength, rfl,
        by simp [writeU8, writeU16BE]⟩
  · rintro ⟨message, hcode, hclass, heffect, hlength, herror, rfl⟩
    refine Option.map_eq_some_iff.mpr ⟨(.failure e, []), ?_, rfl⟩
    simp only [List.append_assoc]
    rw [bind_eq (readU8_append (by decide)), if_neg (by decide), guard_bind, if_pos rfl,
      bind_eq (readU16BE_append hcode),
      bind_eq (readU8_append (lt_of_le_of_lt hclass (by decide))),
      bind_eq (readU8_append (lt_of_le_of_lt heffect (by decide))),
      ← List.append_nil (writeLengthAndBytes message), bind_eq (readString_append hlength),
      guard_bind, if_pos (not_lt.mpr hclass), guard_bind, if_pos (not_lt.mpr heffect), ← herror]
    rfl

/-- A response is refused, an error or a success. -/
theorem parseStandardResponse_cases (payload : Bytes) :
    parseStandardResponse payload = none ∨
      (∃ e message, IsErrorResponse payload e message ∧
        parseStandardResponse payload = some (.failure e)) ∨
      ∃ data, payload = 0 :: data ∧ parseStandardResponse payload = some (.success data) := by
  cases h : parseStandardResponse payload with
  | none => exact .inl rfl
  | some parsed =>
      cases parsed with
      | failure e =>
          obtain ⟨message, hmessage⟩ := parseStandardResponse_eq_failure_iff.mp h
          exact .inr (.inl ⟨e, message, hmessage, rfl⟩)
      | success data =>
          exact .inr (.inr ⟨data, parseStandardResponse_eq_success_iff.mp h, rfl⟩)

/-- An error whose code is that of a success. -/
def IsCodelessError (payload : Bytes) : Prop :=
  ∃ e message, IsErrorResponse payload e message ∧ e.errorCode = 0

theorem IsErrorResponse.ne_success {payload data : Bytes} {e : ResponseError} {message : Bytes}
    (h : IsErrorResponse payload e message) : payload ≠ 0 :: data := by
  rintro rfl
  exact absurd h.payload_eq (by simp [writeU8, BigEndian.toBytes])

end FitzTs
