import FitzTs.Core.BufferFormats
/-!
# FitzTs.Domains.Schedule.Codec

The notification of `domains/schedule/codec.ts`, `[u64 sub_id][string route][u32 length][payload]`.
-/

namespace FitzTs.Schedule

open Buffer JsString Reading

structure DecodedScheduleNotification where
  subId : Nat
  route : JsString
  payload : Bytes
  deriving DecidableEq, Repr

/-- `decodeNotification`; `none` where it throws. -/
def decodeNotification (payload : Bytes) : Option DecodedScheduleNotification :=
  if payload.length < 12 then none
  else
    Reader.read (do
      let subId ← readU64BE
      let route ← readString
      let payloadLength ← readU32BE
      let bytes ← remaining
      guard ¬ bytes.length < payloadLength
      let notificationPayload ← readBytes payloadLength
      let eof ← isEOF
      guard (eof = true)
      return { subId, route, payload := notificationPayload }) payload

/-- `[u64 sub_id][string route][u32 length][payload]`. -/
def IsNotification (payload : Bytes) (notification : DecodedScheduleNotification) : Prop :=
  ∃ (subId : Unsigned 8) (route : Prefixed) (data : Prefixed),
    payload = subId.bytes ++ route.bytes ++ data.bytes ∧
      notification = ⟨subId.val, route.text, data.val⟩

theorem isNotification {payload : Bytes} {notification : DecodedScheduleNotification}
    (h : decodeNotification payload = some notification) : IsNotification payload notification := by
  obtain ⟨-, hread⟩ := Option.ite_none_left_eq_some.mp h
  obtain ⟨⟨_, rest⟩, hparts, rfl⟩ := Option.map_eq_some_iff.mp hread
  clear h hread
  simp only [Buffer.bind_eq_some, guard_bind, Option.ite_none_right_eq_some] at hparts
  obtain ⟨subId, _, hsubId, route, _, hroute, length, middle, hlength, _, _, hremaining, -, data, _,
    hdata, eof, _, heof, heofTrue, hpure⟩ := hparts
  obtain ⟨rfl, rfl⟩ := Prod.mk.inj (Option.some.inj hpure)
  obtain ⟨rfl, rfl⟩ := Prod.mk.inj (Option.some.inj heof)
  obtain rfl := List.isEmpty_iff.mp heofTrue
  obtain ⟨rfl, rfl⟩ := Prod.mk.inj (Option.some.inj hremaining)
  obtain ⟨rfl, rfl⟩ := readBytes_eq_some.mp hdata
  obtain ⟨rfl, hlt⟩ := readUBE_eq_some.mp hlength
  obtain ⟨text, rfl, htext, rfl⟩ := readString_eq_some hroute
  obtain ⟨rfl, hid⟩ := readUBE_eq_some.mp hsubId
  exact ⟨⟨subId, hid⟩, ⟨text, htext⟩, ⟨data, hlt⟩,
    by simp [Unsigned.bytes, Prefixed.bytes, writeLengthAndBytes, writeU32BE], rfl⟩

end FitzTs.Schedule
