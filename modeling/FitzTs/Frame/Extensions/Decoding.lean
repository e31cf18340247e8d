import FitzTs.Frame.Extensions
import Mathlib.Algebra.Order.BigOperators.Group.List
import Mathlib.Data.List.Chain
/-!
# FitzTs.Frame.Extensions.Decoding

**What the decoder of extensions accepts**: the envelopes and nothing else
(`decodeExtensions_eq_ok_iff`). The cursor never leaves the payload, so that no read throws a
`RangeError` (`decodeExtensions_ne_range`): each check of the source stands before the read that it
protects, and each loop has a lemma of either kind.

## Main result

* `decodeExtensions_encodeExtensions` — what is encoded is decoded, and every payload that is not
  an envelope is refused with a `CodecError`.
-/

namespace FitzTs.Extensions

open BigEndian ArrayBuffer FrameCodec

/-! ## What is decoded -/

section

variable {payload : Bytes} {offset k n : Nat}

theorem viewUint_eq_ok_iff :
    viewUint payload offset k = .ok n ↔
      offset + k ≤ payload.length ∧ getUint payload offset k = n := by
  unfold viewUint
  split
  case isTrue hle => exact ⟨fun h => ⟨hle, Except.ok.inj h⟩, fun h => congrArg _ h.2⟩
  case isFalse hle => exact iff_of_false (fun h => by cases h) fun h => hle h.1

theorem viewUint_ne_range (h : offset + k ≤ payload.length) :
    viewUint payload offset k ≠ .error .range := by
  rw [viewUint, if_pos h]
  exact fun h => by cases h

theorem codecError_ne_range {α : Type} (message : String) :
    (codecError message : Except Thrown α) ≠ .error .range := fun h => by cases h

/-- The number that is read is the one whose bytes stand there. -/
theorem getUint_eq_iff (h : offset + k ≤ payload.length) (hn : n < 256 ^ k) :
    getUint payload offset k = n ↔ (payload.drop offset).take k = toBytes k n := by
  rw [← toBytes_getUint h]
  constructor
  · rintro rfl
    rfl
  · intro heq
    rw [← ofBytes_toBytes hn, ← heq, ofBytes_toBytes (getUint_lt _ _ _)]

variable {cursor remaining index previous size : Nat} {ids : List Nat}

theorem decodeCapabilities_ne_range (h : cursor + 2 + (index + remaining) * 4 ≤ payload.length) :
    decodeCapabilities payload cursor remaining index previous ≠ .error .range := by
  induction remaining generalizing index previous with
  | zero => exact fun h => by cases h
  | succ remaining ih =>
      refine bind_ne_range (viewUint_ne_range (by omega)) fun value _ => ?_
      split
      · exact codecError_ne_range _
      · exact bind_ne_range (ih (by omega)) fun _ _ h => by cases h

/-- **The inner loop** reads ascending numbers that stand one behind the other. -/
theorem decodeCapabilities_eq_ok_iff
    (h : cursor + 2 + (index + remaining) * 4 ≤ payload.length) :
    decodeCapabilities payload cursor remaining index previous = .ok ids ↔
      ids.length = remaining ∧ Ascends previous 0xffffffff ids ∧
        (payload.drop (cursor + 2 + index * 4)).take (remaining * 4) =
          ids.flatMap (toBytes 4) := by
  induction remaining generalizing index previous ids with
  | zero =>
      rw [decodeCapabilities, List.length_eq_zero_iff]
      constructor
      · rintro ⟨⟩
        exact ⟨rfl, ascends_nil, by simp⟩
      · rintro ⟨rfl, -⟩
        rfl
  | succ remaining ih =>
      have hbounds : cursor + 2 + index * 4 + 4 ≤ payload.length := by omega
      have hsplit : (payload.drop (cursor + 2 + index * 4)).take ((remaining + 1) * 4) =
          (payload.drop (cursor + 2 + index * 4)).take 4 ++
            (payload.drop (cursor + 2 + (index + 1) * 4)).take (remaining * 4) := by
        rw [show (remaining + 1) * 4 = 4 + remaining * 4 by omega, List.take_add, List.drop_drop,
          show cursor + 2 + index * 4 + 4 = cursor + 2 + (index + 1) * 4 by omega]
      have hlength : ((payload.drop (cursor + 2 + index * 4)).take 4).length = 4 := by
        rw [List.length_take, List.length_drop]
        omega
      rw [decodeCapabilities, bind_eq_ok, hsplit]
      constructor
      · rintro ⟨value, hvalue, hrest⟩
        obtain ⟨-, hvalue⟩ := viewUint_eq_ok_iff.mp hvalue
        have hlt : value < 256 ^ 4 := hvalue ▸ getUint_lt _ _ _
        split at hrest
        case isTrue => cases hrest
        case isFalse hprevious =>
          obtain ⟨values, hvalues, hpure⟩ := bind_eq_ok.mp hrest
          obtain rfl := Except.ok.inj hpure
          obtain ⟨hcount, hascends, hbytes⟩ := (ih (by omega)).mp hvalues
          refine ⟨by rw [List.length_cons, hcount],
            ascends_cons.mpr ⟨by omega, by omega, hascends⟩, ?_⟩
          rw [(getUint_eq_iff hbounds hlt).mp hvalue, hbytes, List.flatMap_cons]
      · rintro ⟨hcount, hascends, hbytes⟩
        cases ids with
        | nil => cases hcount
        | cons value values =>
            obtain ⟨hprevious, hle, hascends⟩ := ascends_cons.mp hascends
            obtain ⟨hhead, htail⟩ := List.append_inj hbytes (by rw [hlength, length_toBytes])
            refine ⟨value, viewUint_eq_ok_iff.mpr ⟨hbounds,
              (getUint_eq_iff hbounds (by omega)).mpr hhead⟩, ?_⟩
            rw [if_neg (by omega), bind_eq_ok]
            exact ⟨values, (ih (by omega)).mpr ⟨by simpa using hcount, hascends, htail⟩, rfl⟩

variable {capabilityIds : Option (List Nat)}

theorem decodeCapabilityField_ne_range (h : cursor + size ≤ payload.length) :
    decodeCapabilityField payload cursor size capabilityIds ≠ .error .range := by
  unfold decodeCapabilityField
  split
  · exact codecError_ne_range _
  · refine bind_ne_range (viewUint_ne_range (by omega)) fun count _ => ?_
    split
    · exact codecError_ne_range _
    · exact decodeCapabilities_ne_range (by omega)

theorem decodeCapabilityField_eq_ok_iff (h : cursor + size ≤ payload.length) :
    decodeCapabilityField payload cursor size capabilityIds = .ok ids ↔
      capabilityIds = none ∧ ValidCapabilities ids ∧
        (payload.drop cursor).take size = capabilityBytes ids := by
  have hsplit : 2 ≤ size → (payload.drop cursor).take size =
      (payload.drop cursor).take 2 ++ (payload.drop (cursor + 2)).take (size - 2) := by
    intro hsize
    rw [← List.drop_drop, ← List.take_add, Nat.add_sub_cancel' hsize]
  have hcapabilities : ∀ ids : List Nat, (capabilityBytes ids).length = 2 + ids.length * 4 := by
    intro ids
    simp [capabilityBytes, List.map_const']
  unfold decodeCapabilityField
  split
  case isTrue hbad =>
    refine iff_of_false (fun h => by cases h) ?_
    rintro ⟨rfl, -, hbytes⟩
    have hlength := congrArg List.length hbytes
    rw [List.length_take, List.length_drop, hcapabilities] at hlength
    have hsmall : size < 2 := by simpa using hbad
    omega
  case isFalse hok =>
    rw [not_or, Bool.not_eq_true, Option.isSome_eq_false_iff, Option.isNone_iff_eq_none] at hok
    obtain ⟨rfl, hsize⟩ := hok
    rw [bind_eq_ok, hsplit (Nat.le_of_not_lt hsize)]
    have hcount : ((payload.drop cursor).take 2).length = 2 := by
      rw [List.length_take, List.length_drop]
      omega
    constructor
    · rintro ⟨count, hview, hrest⟩
      obtain ⟨hbounds, hview⟩ := viewUint_eq_ok_iff.mp hview
      have hlt : count < 256 ^ 2 := hview ▸ getUint_lt _ _ _
      split at hrest
      case isTrue => cases hrest
      case isFalse heq =>
        have heq : size = 2 + count * 4 := not_not.mp heq
        obtain ⟨hlength, hascends, hbytes⟩ :=
          (decodeCapabilities_eq_ok_iff (by omega)).mp hrest
        refine ⟨rfl, ⟨by omega, hascends⟩, ?_⟩
        rw [(getUint_eq_iff hbounds hlt).mp hview, capabilityBytes, hlength, ← hbytes, heq,
          Nat.add_sub_cancel_left, Nat.zero_mul, Nat.add_zero]
    · rintro ⟨-, hvalid, hbytes⟩
      have hlength := congrArg List.length hbytes
      rw [List.length_append, hcount, List.length_take, List.length_drop, hcapabilities]
        at hlength
      have heq : size = 2 + ids.length * 4 := by omega
      obtain ⟨hhead, htail⟩ := List.append_inj hbytes (by rw [hcount, length_toBytes])
      have hlt := hvalid.length_lt
      refine ⟨ids.length, viewUint_eq_ok_iff.mpr ⟨by omega,
        (getUint_eq_iff (by omega) (by omega)).mpr hhead⟩, ?_⟩
      rw [if_neg (not_not.mpr heq), decodeCapabilities_eq_ok_iff (by omega)]
      refine ⟨rfl, hvalid.ascends, ?_⟩
      rw [Nat.zero_mul, Nat.add_zero, ← htail, heq, Nat.add_sub_cancel_left]

variable {handshake : Bool} {s s' : DecodeState} {fields : List Field}

theorem decodeField_ne_range (h : s.cursor ≤ payload.length) :
    decodeField payload handshake s ≠ .error .range := by
  unfold decodeField
  split
  · exact codecError_ne_range _
  · refine bind_ne_range (viewUint_ne_range (by omega)) fun id _ => ?_
    refine bind_ne_range (viewUint_ne_range (by omega)) fun size _ => ?_
    dsimp only
    split_ifs with hbad
    · exact codecError_ne_range _
    · exact bind_ne_range (decodeCapabilityField_ne_range (by omega)) fun _ _ h => by cases h
    · exact fun h => by cases h

/-- What a field does to the capabilities that have been found. -/
def Takes (handshake : Bool) (capabilityIds : Option (List Nat)) (field : Field)
    (capabilityIds' : Option (List Nat)) : Prop :=
  if handshake ∧ field.id = 1 then
    capabilityIds = none ∧ ∃ ids, capabilityIds' = some ids ∧ ValidCapabilities ids ∧
      field.value = capabilityBytes ids
  else capabilityIds' = capabilityIds

/-- **One round of the outer loop** reads one field. -/
theorem decodeField_eq_ok_iff (h : s.cursor ≤ payload.length) :
    decodeField payload handshake s = .ok s' ↔ ∃ field : Field, field.Valid ∧
      (payload.drop s.cursor).take field.bytes.length = field.bytes ∧
      s'.cursor = s.cursor + field.bytes.length ∧ s'.cursor ≤ payload.length ∧
      Takes handshake s.capabilityIds field s'.capabilityIds := by
  have hsplit : ∀ size, (payload.drop s.cursor).take (6 + size) =
      (payload.drop s.cursor).take 2 ++ (payload.drop (s.cursor + 2)).take 4 ++
        (payload.drop (s.cursor + 6)).take size := by
    intro size
    rw [show 6 + size = 2 + (4 + size) by omega, List.take_add, List.take_add, List.drop_drop,
      List.drop_drop, List.append_assoc]
  unfold decodeField
  split
  -- less than a field header is left
  case isTrue hshort =>
    refine iff_of_false (fun h => by cases h) ?_
    rintro ⟨field, -, -, hcursor, hle, -⟩
    rw [field.length_bytes] at hcursor
    omega
  case isFalse hroom =>
    rw [bind_eq_ok]
    constructor
    · -- what the round has read is a field
      rintro ⟨id, hid, hrest⟩
      obtain ⟨size, hsize, hrest⟩ := bind_eq_ok.mp hrest
      obtain ⟨hbounds, hid⟩ := viewUint_eq_ok_iff.mp hid
      obtain ⟨hbounds', hsize⟩ := viewUint_eq_ok_iff.mp hsize
      have hidlt : id < 256 ^ 2 := hid ▸ getUint_lt _ _ _
      have hsizelt : size < 256 ^ 4 := hsize ▸ getUint_lt _ _ _
      dsimp only at hrest
      by_cases hbad : id = 0 ∨ size > payload.length - (s.cursor + 6)
      · rw [if_pos hbad] at hrest
        cases hrest
      rw [if_neg hbad] at hrest
      rw [not_or, Nat.not_lt] at hbad
      have hvalue : ((payload.drop (s.cursor + 6)).take size).length = size := by
        rw [List.length_take, List.length_drop]
        omega
      have hfield : ∀ capabilityIds', Takes handshake s.capabilityIds
          ⟨id, (payload.drop (s.cursor + 6)).take size⟩ capabilityIds' →
            s' = ⟨s.cursor + 6 + size, capabilityIds'⟩ → ∃ field : Field, field.Valid ∧
              (payload.drop s.cursor).take field.bytes.length = field.bytes ∧
              s'.cursor = s.cursor + field.bytes.length ∧ s'.cursor ≤ payload.length ∧
              Takes handshake s.capabilityIds field s'.capabilityIds := by
        rintro capabilityIds' htakes rfl
        refine ⟨⟨id, (payload.drop (s.cursor + 6)).take size⟩, ⟨hbad.1, hidlt, ?_⟩, ?_, ?_, ?_,
          htakes⟩
        · rw [hvalue]
          exact hsizelt
        · rw [Field.length_bytes, hvalue, hsplit, Field.bytes, hvalue,
            (getUint_eq_iff hbounds hidlt).mp hid, (getUint_eq_iff hbounds' hsizelt).mp hsize]
        · rw [Field.length_bytes, hvalue, Nat.add_assoc]
        · change s.cursor + 6 + size ≤ payload.length
          omega
      split at hrest
      case isTrue hcapability =>
        obtain ⟨ids, hids, hpure⟩ := bind_eq_ok.mp hrest
        obtain ⟨hnone, hvalid, hbytes⟩ := (decodeCapabilityField_eq_ok_iff (by omega)).mp hids
        refine hfield (some ids) ?_ (Except.ok.inj hpure).symm
        rw [Takes, if_pos hcapability]
        exact ⟨hnone, ids, rfl, hvalid, hbytes⟩
      case isFalse hother =>
        refine hfield s.capabilityIds ?_ (Except.ok.inj hrest).symm
        rw [Takes, if_neg hother]
    · -- and a field is read back from its bytes: head, length and value in turn
      rintro ⟨⟨id, value⟩, hvalid, hbytes, hcursor, hle, htakes⟩
      rw [Field.length_bytes] at hbytes hcursor
      rw [hsplit, Field.bytes] at hbytes
      have hlength : ((payload.drop s.cursor).take 2 ++ (payload.drop (s.cursor + 2)).take 4).length
          = (toBytes 2 id ++ toBytes 4 value.length).length := by
        simp only [List.length_append, List.length_take, List.length_drop, length_toBytes]
        omega
      obtain ⟨hhead, hvalue⟩ := List.append_inj hbytes hlength
      obtain ⟨hid, hsize⟩ := List.append_inj hhead (by
        rw [List.length_take, List.length_drop, length_toBytes]
        omega)
      have hidlt : id < 2 ^ 16 := hvalid.id_lt
      have hsizelt : value.length < 2 ^ 32 := hvalid.length_lt
      dsimp only at hcursor
      refine ⟨id, viewUint_eq_ok_iff.mpr ⟨by omega, (getUint_eq_iff (by omega) hidlt).mpr hid⟩,
        bind_eq_ok.mpr ⟨value.length, viewUint_eq_ok_iff.mpr ⟨by omega,
          (getUint_eq_iff (by omega) hsizelt).mpr hsize⟩, ?_⟩⟩
      have hgood : ¬ (id = 0 ∨ value.length > payload.length - (s.cursor + 6)) := by
        rw [not_or]
        exact ⟨hvalid.id_ne_zero, by omega⟩
      dsimp only
      rw [if_neg hgood]
      obtain ⟨cursor', capabilityIds'⟩ := s'
      obtain rfl : cursor' = s.cursor + 6 + value.length := by
        rw [Nat.add_assoc]
        exact hcursor
      unfold Takes at htakes
      split at htakes
      case isTrue hcapability =>
        obtain ⟨hnone, ids, rfl, hids, hcontents⟩ := htakes
        rw [if_pos hcapability, bind_eq_ok]
        exact ⟨ids, (decodeCapabilityField_eq_ok_iff (by omega)).mpr
          ⟨hnone, hids, hvalue.trans hcontents⟩, rfl⟩
      case isFalse hother =>
        obtain rfl := htakes
        rw [if_neg hother]
        rfl

theorem decodeFields_error {e : Thrown} (hlt : s.cursor < payload.length)
    (he : decodeField payload handshake s = .error e) :
    decodeFields payload handshake s = .error e := by
  rw [decodeFields, if_pos hlt]
  split
  case h_1 e' he' => exact congrArg _ (Except.error.inj (he'.symm.trans he))
  case h_2 s' hs' =>
    rw [he] at hs'
    cases hs'

theorem decodeFields_next (hlt : s.cursor < payload.length)
    (hs' : decodeField payload handshake s = .ok s') :
    decodeFields payload handshake s = decodeFields payload handshake s' := by
  rw [decodeFields, if_pos hlt]
  split
  case h_1 e he =>
    rw [hs'] at he
    cases he
  case h_2 s'' hs'' => rw [Except.ok.inj (hs'.symm.trans hs'')]

theorem decodeFields_ne_range (h : s.cursor ≤ payload.length) :
    decodeFields payload handshake s ≠ .error .range := by
  induction s using decodeFields.induct payload handshake with
  | case1 s hlt e he =>
      rw [decodeFields_error hlt he]
      exact fun heq => decodeField_ne_range h (he.trans (congrArg _ (Except.error.inj heq)))
  | case2 s hlt s' hs' _ ih =>
      obtain ⟨-, -, -, -, hle, -⟩ := (decodeField_eq_ok_iff h).mp hs'
      rw [decodeFields_next hlt hs']
      exact ih hle
  | case3 s hge =>
      rw [decodeFields, if_neg hge]
      exact fun h => by cases h

/-- What the fields do to the capabilities, one after the other. -/
def TakesAll (handshake : Bool) :
    Option (List Nat) → List Field → Option (List Nat) → Prop
  | capabilityIds, [], capabilityIds' => capabilityIds' = capabilityIds
  | capabilityIds, field :: fields, capabilityIds' => ∃ middle,
    Takes handshake capabilityIds field middle ∧ TakesAll handshake middle fields capabilityIds'

/-- **The outer loop** reads fields up to the end of the payload. -/
theorem decodeFields_eq_ok_iff (h : s.cursor ≤ payload.length)
    {capabilityIds : Option (List Nat)} :
    decodeFields payload handshake s = .ok capabilityIds ↔ ∃ fields : List Field,
      payload.drop s.cursor = fields.flatMap Field.bytes ∧ (∀ field ∈ fields, field.Valid) ∧
        TakesAll handshake s.capabilityIds fields capabilityIds := by
  have hcons : ∀ {s : DecodeState} {field : Field} {fields : List Field},
      payload.drop s.cursor = (field :: fields).flatMap Field.bytes →
        (payload.drop s.cursor).take field.bytes.length = field.bytes ∧
          payload.drop (s.cursor + field.bytes.length) = fields.flatMap Field.bytes := by
    intro s field fields heq
    rw [← List.drop_drop, heq, List.flatMap_cons, List.take_left' rfl, List.drop_left' rfl]
    exact ⟨rfl, rfl⟩
  induction s using decodeFields.induct payload handshake with
  -- a round fails: a field that fits would have been read by it
  | case1 s hlt e he =>
      rw [decodeFields_error hlt he]
      refine iff_of_false (fun h => by cases h) ?_
      rintro ⟨fields, hfields, hvalid, htakes⟩
      cases fields with
      | nil =>
          have hlength := congrArg List.length hfields
          rw [List.length_drop, List.flatMap_nil, List.length_nil] at hlength
          omega
      | cons field fields =>
          obtain ⟨middle, htake, -⟩ := htakes
          obtain ⟨hbytes, hrest⟩ := hcons hfields
          have hle := congrArg List.length hbytes
          rw [List.length_take, List.length_drop] at hle
          have hpos := field.length_bytes
          have hok : decodeField payload handshake s =
              .ok ⟨s.cursor + field.bytes.length, middle⟩ :=
            (decodeField_eq_ok_iff h).mpr
              ⟨field, hvalid _ (List.mem_cons_self ..), hbytes, rfl, by dsimp only; omega, htake⟩
          rw [he] at hok
          cases hok
  -- a round succeeds: its field is the first, and the rest is the induction hypothesis
  | case2 s hlt s' hs' _ ih =>
      obtain ⟨field, hvalid, hbytes, hcursor, hle, htake⟩ := (decodeField_eq_ok_iff h).mp hs'
      rw [decodeFields_next hlt hs']
      refine (ih hle).trans ?_
      constructor
      · rintro ⟨fields, hfields, hvalids, htakes⟩
        refine ⟨field :: fields, ?_, List.forall_mem_cons.mpr ⟨hvalid, hvalids⟩, _, htake, htakes⟩
        have hsplit := List.take_append_drop field.bytes.length (payload.drop s.cursor)
        rw [hbytes, List.drop_drop] at hsplit
        rw [List.flatMap_cons, ← hfields, hcursor, hsplit]
      · rintro ⟨fields, hfields, hvalids, htakes⟩
        cases fields with
        | nil =>
            have hlength := congrArg List.length hfields
            rw [List.length_drop, List.flatMap_nil, List.length_nil] at hlength
            omega
        | cons field' fields =>
            obtain ⟨middle, htake', htakes⟩ := htakes
            obtain ⟨hbytes', hrest⟩ := hcons hfields
            have hle' := congrArg List.length hbytes'
            rw [List.length_take, List.length_drop] at hle'
            have hpos := field'.length_bytes
            have hok : decodeField payload handshake s =
                .ok ⟨s.cursor + field'.bytes.length, middle⟩ :=
              (decodeField_eq_ok_iff h).mpr ⟨field', hvalids _ (List.mem_cons_self ..), hbytes',
                rfl, by dsimp only; omega, htake'⟩
            -- the field that the round has read is the only one that is there
            obtain rfl := Except.ok.inj (hs'.symm.trans hok)
            exact ⟨fields, hrest, fun f hf => hvalids f (List.mem_cons_of_mem _ hf), htakes⟩
  -- the end of the payload
  | case3 s hge =>
      have hend : payload.drop s.cursor = [] := List.drop_eq_nil_of_le (Nat.le_of_not_lt hge)
      rw [decodeFields, if_neg hge, hend]
      constructor
      · rintro ⟨⟩
        exact ⟨[], rfl, by simp, rfl⟩
      · rintro ⟨fields, hfields, -, htakes⟩
        cases fields with
        | nil => exact congrArg _ htakes.symm
        | cons field fields =>
            have hlength := congrArg List.length hfields
            rw [List.flatMap_cons, List.length_append, field.length_bytes, List.length_nil]
              at hlength
            omega

/-! ### The capabilities of a HELLO -/

theorem takesAll_other {capabilityIds capabilityIds' : Option (List Nat)} :
    TakesAll false capabilityIds fields capabilityIds' ↔ capabilityIds' = capabilityIds := by
  induction fields generalizing capabilityIds with
  | nil => rfl
  | cons field fields ih => simp [TakesAll, Takes, ih]

theorem filter_eq_nil_iff :
    fields.filter (·.id = 1) = [] ↔ ∀ field ∈ fields, field.id ≠ 1 := by
  simp [List.filter_eq_nil_iff]

/-- Once the capabilities are known, no field may have their id. -/
theorem takesAll_known {capabilityIds' : Option (List Nat)} :
    TakesAll true (some ids) fields capabilityIds' ↔
      capabilityIds' = some ids ∧ fields.filter (·.id = 1) = [] := by
  induction fields with
  | nil => simp [TakesAll]
  | cons field fields ih =>
      by_cases hid : field.id = 1
      · simp [TakesAll, Takes, hid]
      · simp [TakesAll, Takes, hid, ih]

theorem takesAll_handshake :
    TakesAll true none fields (some ids) ↔
      fields.filter (·.id = 1) = [⟨1, capabilityBytes ids⟩] ∧ ValidCapabilities ids := by
  induction fields with
  | nil => simp [TakesAll]
  | cons field fields ih =>
      by_cases hid : field.id = 1
      · have htakes : ∀ middle, Takes true none field middle ↔ ∃ ids, middle = some ids ∧
            ValidCapabilities ids ∧ field.value = capabilityBytes ids := by
          intro middle
          simp [Takes, hid]
        rw [List.filter_cons_of_pos (by simpa using hid), List.cons.injEq, TakesAll]
        constructor
        · rintro ⟨middle, htake, hrest⟩
          obtain ⟨ids', rfl, hvalid, hvalue⟩ := (htakes middle).mp htake
          obtain ⟨hids, hnone⟩ := takesAll_known.mp hrest
          obtain rfl := Option.some.inj hids
          obtain ⟨id, value⟩ := field
          obtain rfl : id = 1 := hid
          obtain rfl : value = capabilityBytes ids := hvalue
          exact ⟨⟨rfl, hnone⟩, hvalid⟩
        · rintro ⟨⟨rfl, hnone⟩, hvalid⟩
          exact ⟨some ids, (htakes _).mpr ⟨ids, rfl, hvalid, rfl⟩, takesAll_known.mpr ⟨rfl, hnone⟩⟩
      · rw [List.filter_cons_of_neg (by simpa using hid), ← ih]
        simp [TakesAll, Takes, hid]

/-! ### The whole envelope -/

theorem decodeExtensions_ne_range (payload : Bytes) (messageType flags : Nat) :
    decodeExtensions payload messageType flags ≠ .error .range := by
  unfold decodeExtensions
  dsimp only
  split_ifs with hflag hhello hshort
  · exact codecError_ne_range _
  · exact fun h => by cases h
  · exact codecError_ne_range _
  · refine bind_ne_range (viewUint_ne_range (by omega)) fun core _ => ?_
    split
    · exact codecError_ne_range _
    · rename_i hroom
      refine bind_ne_range (decodeFields_ne_range (by dsimp only; omega)) fun _ _ => ?_
      split
      · exact codecError_ne_range _
      · exact fun h => by cases h

/-- The capabilities that are found make the envelope of a HELLO or of another message. -/
theorem takesAll_iff {decoded : Option (List Nat)} :
    (TakesAll handshake none fields decoded ∧ ¬ (handshake = true ∧ decoded = none) ∧
      decoded.getD [] = ids) ↔ (if handshake then
        fields.filter (·.id = 1) = [⟨1, capabilityBytes ids⟩] ∧ ValidCapabilities ids
        else ids = []) ∧ decoded = if handshake then some ids else none := by
  cases handshake with
  | false =>
      rw [takesAll_other]
      constructor
      · rintro ⟨rfl, -, rfl⟩
        exact ⟨rfl, rfl⟩
      · rintro ⟨hids, rfl⟩
        exact ⟨rfl, by simp, hids.symm⟩
  | true =>
      constructor
      · rintro ⟨htakes, hsome, rfl⟩
        cases decoded with
        | none => exact absurd ⟨rfl, rfl⟩ hsome
        | some ids => exact ⟨takesAll_handshake.mp htakes, rfl⟩
      · rintro ⟨hids, rfl⟩
        exact ⟨takesAll_handshake.mpr hids, by simp, rfl⟩

/-- **The decoder** accepts the envelopes, and returns what they hold. -/
theorem decodeExtensions_eq_ok_iff {messageType flags : Nat} {core : Bytes}
    (hflag : flags &&& flagExtensionsPresent ≠ 0) :
    decodeExtensions payload messageType flags = .ok ⟨core, ids⟩ ↔
      ∃ fields, IsEnvelope (messageType = 2) payload core fields ids := by
  have hhead : ∀ core fields, (envelope core fields).take 4 = toBytes 4 core.length ∧
      (envelope core fields).drop 4 = core ++ fields.flatMap Field.bytes := by
    intro core fields
    rw [envelope, List.append_assoc, List.take_left' length_toBytes, List.drop_left' length_toBytes]
    exact ⟨rfl, rfl⟩
  unfold decodeExtensions
  rw [if_neg hflag]
  dsimp only
  split
  -- no room for the length of the core
  case isTrue hshort =>
    refine iff_of_false (fun h => by cases h) ?_
    rintro ⟨fields, henvelope⟩
    rw [henvelope.payload_eq, length_envelope] at hshort
    omega
  case isFalse hlong =>
    rw [bind_eq_ok]
    constructor
    · rintro ⟨length, hlength, hrest⟩
      obtain ⟨hbounds, hlength⟩ := viewUint_eq_ok_iff.mp hlength
      have hlt : length < 256 ^ 4 := hlength ▸ getUint_lt _ _ _
      split at hrest
      case isTrue => cases hrest
      case isFalse hroom =>
        obtain ⟨decoded, hdecoded, hrest⟩ := bind_eq_ok.mp hrest
        split at hrest
        case isTrue => cases hrest
        case isFalse hfound =>
          obtain ⟨rfl, hids⟩ := DecodedExtensions.mk.inj (Except.ok.inj hrest)
          obtain ⟨fields, hfields, hvalid, htakes⟩ :=
            (decodeFields_eq_ok_iff (by dsimp only; omega)).mp hdecoded
          have hcore : ((payload.take (4 + length)).drop 4).length = length := by
            rw [List.length_drop, List.length_take]
            omega
          -- the flag promises at least one field
          rw [decide_eq_true_iff] at hfound
          refine ⟨fields, ?_, hcore.symm ▸ hlt, ?_, hvalid,
            (takesAll_iff.mp ⟨htakes, by simpa using hfound, hids⟩).1⟩
          · rw [envelope, hcore, ← hfields, ← (getUint_eq_iff hbounds hlt).mp hlength,
              List.drop_zero, List.take_add, List.drop_left' (by rw [List.length_take]; omega),
              ← List.take_add, List.take_append_drop]
          · rintro rfl
            have hend := congrArg List.length hfields
            rw [List.length_drop, List.flatMap_nil, List.length_nil] at hend
            dsimp only at hend
            omega
    · rintro ⟨fields, henvelope⟩
      obtain ⟨rfl, hcore, hne, hvalid, hcapabilities⟩ := henvelope
      have hlength := length_envelope core fields
      obtain ⟨htake, hdrop⟩ := hhead core fields
      have hfields : (envelope core fields).drop (4 + core.length) =
          fields.flatMap Field.bytes := by
        rw [← List.drop_drop, hdrop, List.drop_left' rfl]
      -- and so an envelope is longer than its core
      have hroom : 4 + core.length < (envelope core fields).length := by
        obtain ⟨field, fields, rfl⟩ := List.exists_cons_of_ne_nil hne
        rw [hlength, List.map_cons, List.sum_cons]
        omega
      obtain ⟨htakes, hfound, hids⟩ := takesAll_iff.mpr ⟨hcapabilities, rfl⟩
      refine ⟨core.length, viewUint_eq_ok_iff.mpr ⟨by omega,
        (getUint_eq_iff (by omega) hcore).mpr htake⟩, ?_⟩
      rw [if_neg (by omega), bind_eq_ok]
      refine ⟨_, (decodeFields_eq_ok_iff (by dsimp only; omega)).mpr
        ⟨fields, hfields, hvalid, htakes⟩, ?_⟩
      rw [if_neg hfound, hids, List.drop_take, hdrop, Nat.add_sub_cancel_left, List.take_left' rfl]
      rfl

theorem decodeExtensions_plain {messageType flags : Nat}
    (hflag : flags &&& flagExtensionsPresent = 0) {decoded : DecodedExtensions}
    (h : decodeExtensions payload messageType flags = .ok decoded) :
    messageType ≠ 2 ∧ decoded = ⟨payload, []⟩ := by
  unfold decodeExtensions at h
  rw [if_pos hflag] at h
  split at h
  case isTrue => cases h
  case isFalse hhello => exact ⟨by simpa using hhello, (Except.ok.inj h).symm⟩

/-! ## Main result -/

/-- What is encoded of valid fields is an envelope. -/
theorem isEnvelope_of_ascends {core : Bytes}
    (hne : fields ≠ []) (hascends : Ascends 0 0xffff (fields.map Field.id))
    (hsize : 4 + core.length + (fields.map fun field => 6 + field.value.length).sum + 15 ≤
      1024 * 1024) (hcapabilities : if handshake then
        fields.filter (·.id = 1) = [⟨1, capabilityBytes ids⟩] ∧ ValidCapabilities ids
        else ids = []) :
    IsEnvelope handshake (envelope core fields) core fields ids := by
  refine ⟨rfl, by omega, hne, fun field hfield => ?_, hcapabilities⟩
  have hpositive : 0 < field.id := by
    have hsorted := List.isChain_iff_pairwise.mp hascends.chain
    exact List.rel_of_pairwise_cons hsorted (List.mem_map_of_mem hfield)
  have hle := hascends.le _ (List.mem_map_of_mem hfield)
  have hsum : 6 + field.value.length ≤ (fields.map fun field => 6 + field.value.length).sum :=
    List.single_le_sum (by simp) _ (List.mem_map_of_mem hfield)
  exact ⟨Nat.ne_of_gt hpositive, by omega, by omega⟩

theorem capabilityArguments_injective : Function.Injective capabilityArguments :=
  List.map_injective_iff.mpr fun a b h => by simpa using h

/-- Fields with ascending ids have one field of each id. -/
theorem filter_eq_of_ascends {field : Field} (hfield : field ∈ fields)
    (hascends : Ascends previous n (fields.map Field.id)) :
    fields.filter (·.id = field.id) = [field] := by
  induction fields generalizing previous with
  | nil => cases hfield
  | cons f fields ih =>
      obtain ⟨-, -, htail⟩ := ascends_cons.mp hascends
      have hgreater : ∀ g ∈ fields, f.id < g.id := fun g hg =>
        List.rel_of_pairwise_cons (List.isChain_iff_pairwise.mp htail.chain)
          (List.mem_map_of_mem hg)
      rcases List.mem_cons.mp hfield with rfl | hmem
      · rw [List.filter_cons_of_pos (by simp), List.filter_eq_nil_iff.mpr]
        intro g hg
        simpa using Nat.ne_of_gt (hgreater g hg)
      · rw [List.filter_cons_of_neg (by simpa using Nat.ne_of_lt (hgreater field hmem)),
          ih hmem htail]

end

/-- **The extension envelope.** What is encoded is decoded, the capabilities of a HELLO included,
and every payload either is an envelope or is refused with a `CodecError`. -/
theorem decodeExtensions_encodeExtensions :
    (∀ (core : Bytes) (fields : List Field) (messageType flags : Nat), fields ≠ [] →
      Ascends 0 0xffff (fields.map Field.id) →
      4 + core.length + (fields.map fun field => 6 + field.value.length).sum + 15 ≤ 1024 * 1024 →
      flags &&& flagExtensionsPresent ≠ 0 →
      ∃ payload, encodeExtensions core (fields.map Field.argument) = .ok payload ∧
        (messageType ≠ 2 → decodeExtensions payload messageType flags = .ok ⟨core, []⟩) ∧
        ∀ (ids : List Nat) (value : Bytes), messageType = 2 → ⟨1, value⟩ ∈ fields →
          encodeCapabilities (capabilityArguments ids) = .ok value →
          decodeExtensions payload messageType flags = .ok ⟨core, ids⟩) ∧
    (∀ ids : List Nat, ids.length ≤ 0xffff → Ascends 0 0xffffffff ids →
      ∃ value, encodeCapabilities (capabilityArguments ids) = .ok value) ∧
    ∀ (payload : Bytes) (messageType flags : Nat),
      (∃ error, decodeExtensions payload messageType flags = .error (.codec error)) ∨
        ∃ core ids, decodeExtensions payload messageType flags = .ok ⟨core, ids⟩ ∧
          if flags &&& flagExtensionsPresent = 0 then
            messageType ≠ 2 ∧ core = payload ∧ ids = []
          else ∃ fields, IsEnvelope (messageType = 2) payload core fields ids := by
  refine ⟨?_, ?_, ?_⟩
  · intro core fields messageType flags hne hascends hsize hflag
    refine ⟨envelope core fields, ?_, ?_, ?_⟩
    · refine (encodeExtensions_eq_ok_iff (by simpa using hne)).mpr
        ⟨fields, rfl, hascends, ?_, rfl⟩
      rw [length_envelope]
      exact hsize
    · intro htype
      refine (decodeExtensions_eq_ok_iff hflag).mpr
        ⟨fields, isEnvelope_of_ascends hne hascends hsize ?_⟩
      rw [if_neg (by simpa using htype)]
    · rintro ids value rfl hfield hvalue
      obtain ⟨ns, hns, hvalid, rfl⟩ := encodeCapabilities_eq_ok_iff.mp hvalue
      obtain rfl := capabilityArguments_injective hns
      refine (decodeExtensions_eq_ok_iff hflag).mpr
        ⟨fields, isEnvelope_of_ascends hne hascends hsize ?_⟩
      exact ⟨filter_eq_of_ascends hfield hascends, hvalid⟩
  · intro ids hlength hascends
    exact ⟨_, encodeCapabilities_eq_ok_iff.mpr
      ⟨ids, rfl, ⟨Nat.lt_succ_of_le hlength, hascends⟩, rfl⟩⟩
  · intro payload messageType flags
    match hdecoded : decodeExtensions payload messageType flags with
    | .error .range => exact absurd hdecoded (decodeExtensions_ne_range _ _ _)
    | .error (.codec error) => exact Or.inl ⟨error, rfl⟩
    | .ok ⟨core, ids⟩ =>
        refine Or.inr ⟨core, ids, rfl, ?_⟩
        split
        case isTrue hflag =>
          obtain ⟨htype, hdecoded⟩ := decodeExtensions_plain hflag hdecoded
          exact ⟨htype, DecodedExtensions.mk.inj hdecoded⟩
        case isFalse hflag => exact (decodeExtensions_eq_ok_iff hflag).mp hdecoded

/-- A HELLO with two capabilities and one more field. -/
theorem decodeExtensions_encodeExtensions_hello :
    ∃ payload, encodeExtensions [1, 2] [(.integer 1, [0, 2, 0, 0, 0, 1, 0, 0, 0, 2]),
        (.integer 7, [9])] = .ok payload ∧
      decodeExtensions payload 2 4 = .ok ⟨[1, 2], [1, 2]⟩ := by
  obtain ⟨payload, hencode, -, hhello⟩ := decodeExtensions_encodeExtensions.1 [1, 2]
    [⟨1, [0, 2, 0, 0, 0, 1, 0, 0, 0, 2]⟩, ⟨7, [9]⟩] 2 4 (by decide)
    ⟨by decide, by decide⟩ (by decide) (by decide)
  exact ⟨payload, hencode, hhello [1, 2] _ rfl (List.mem_cons_self ..) (by decide)⟩

end FitzTs.Extensions
