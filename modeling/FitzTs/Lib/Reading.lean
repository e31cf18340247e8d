import Mathlib.Data.List.Basic
/-!
# FitzTs.Lib.Reading

**What a reader accepts.** A reader takes a value off the front of a list. `Reads last m encode
value` says exactly what it takes: the encodings `encode raw` of what the source of the rules calls
raw values, with anything behind that satisfies `last`; and it returns `value raw`. Raw values and
what is returned differ where several encodings stand for one value.

The rules follow the structure of a reader: `Reads.bind` for one after the other, `Reads.check` for
a condition, `Reads.many` for a counted loop, and `Reads.finish` for the check that nothing is left.
Encodings are `Unambiguous` if what they encode can be told from them, whatever follows.
-/

namespace Reading

variable {τ α β ρ : Type}

/-- A reader over the tokens that are left. -/
abbrev Reader (τ α : Type) := StateT (List τ) Option α

/-- What the reader accepts and returns. -/
def Reads (last : List τ → Prop) (m : Reader τ α) (encode : ρ → List τ) (value : ρ → α) : Prop :=
  ∀ input a rest, m input = some (a, rest) ↔
    last rest ∧ ∃ raw, input = encode raw ++ rest ∧ a = value raw

/-- Anything may follow. -/
def anything : List τ → Prop := fun _ => True

/-- Nothing may follow. -/
def nothing : List τ → Prop := fun rest => rest = []

/-- What `m` makes of the beginning of the input. -/
def read (m : Reader τ α) (input : List τ) : Option α := (m input).map Prod.fst

variable {last : List τ → Prop} {m : Reader τ α} {f : α → Reader τ β} {encode : ρ → List τ}
  {value : ρ → α} {input : List τ}

theorem bind_eq_some {b : β} {rest : List τ} :
    (m >>= f) input = some (b, rest) ↔
      ∃ a middle, m input = some (a, middle) ∧ f a middle = some (b, rest) := by
  change (m input >>= fun p => f p.1 p.2) = _ ↔ _
  rw [Option.bind_eq_bind, Option.bind_eq_some_iff, Prod.exists]

/-! ## Rules -/

theorem Reads.pure (a : α) :
    Reads anything (Pure.pure a : Reader τ α) (fun _ : Unit => []) (fun _ => a) := by
  intro input b rest
  constructor
  · rintro ⟨⟩
    exact ⟨trivial, (), rfl, rfl⟩
  · rintro ⟨-, -, rfl, rfl⟩
    rfl

/-- One reader after the other. The second may depend on what the first has read. -/
theorem Reads.bind {σ : ρ → Type} {encode' : ∀ raw, σ raw → List τ} {value' : ∀ raw, σ raw → β}
    (hm : Reads anything m encode value)
    (hf : ∀ raw, Reads last (f (value raw)) (encode' raw) (value' raw)) :
    Reads last (m >>= f) (fun raw : Sigma σ => encode raw.1 ++ encode' raw.1 raw.2)
      (fun raw => value' raw.1 raw.2) := by
  intro input b rest
  rw [bind_eq_some]
  constructor
  · rintro ⟨a, middle, ha, hb⟩
    obtain ⟨-, raw, rfl, rfl⟩ := (hm _ _ _).mp ha
    obtain ⟨hlast, raw', rfl, rfl⟩ := (hf raw _ _ _).mp hb
    exact ⟨hlast, ⟨raw, raw'⟩, (List.append_assoc ..).symm, rfl⟩
  · rintro ⟨hlast, ⟨raw, raw'⟩, rfl, rfl⟩
    exact ⟨value raw, encode' raw raw' ++ rest,
      (hm _ _ _).mpr ⟨trivial, raw, List.append_assoc .., rfl⟩,
      (hf raw _ _ _).mpr ⟨hlast, raw', rfl, rfl⟩⟩

/-- A reader whose value is passed on. -/
theorem Reads.map (hm : Reads anything m encode value) (g : α → β) :
    Reads anything (m >>= fun a => Pure.pure (g a)) encode (fun raw => g (value raw)) := by
  intro input b rest
  rw [bind_eq_some]
  constructor
  · rintro ⟨a, middle, ha, ⟨⟩⟩
    obtain ⟨-, raw, rfl, rfl⟩ := (hm _ _ _).mp ha
    exact ⟨trivial, raw, rfl, rfl⟩
  · rintro ⟨-, raw, rfl, rfl⟩
    exact ⟨value raw, rest, (hm _ _ _).mpr ⟨trivial, raw, rfl, rfl⟩, rfl⟩

/-- A condition takes nothing. -/
theorem Reads.check (p : Prop) [Decidable p] :
    Reads anything (guard p : Reader τ Unit) (fun _ : PLift p => []) (fun _ => ()) := by
  intro input a rest
  by_cases hp : p
  · rw [guard, if_pos hp]
    constructor
    · rintro ⟨⟩
      exact ⟨trivial, ⟨hp⟩, rfl, rfl⟩
    · rintro ⟨-, -, rfl, rfl⟩
      rfl
  · rw [guard, if_neg hp]
    exact iff_of_false (fun h => by cases h) fun ⟨_, ⟨h⟩, _⟩ => hp h

/-- Is there nothing left? -/
def isEnd : Reader τ Bool := fun input => some (input.isEmpty, input)

/-- The check that nothing is left, and the value. -/
theorem Reads.finish (a : α) :
    Reads nothing (do
      let finished ← isEnd
      guard (finished = true)
      return a : Reader τ α) (fun _ : Unit => []) (fun _ => a) := by
  intro input b rest
  change
    (if input.isEmpty = true then Pure.pure () else failure : Reader τ Unit) input >>= _ = _ ↔ _
  cases input with
  | nil =>
      constructor
      · rintro ⟨⟩
        exact ⟨rfl, (), rfl, rfl⟩
      · rintro ⟨rfl, -, -, rfl⟩
        rfl
  | cons t input =>
      refine iff_of_false (fun h => by cases h) ?_
      rintro ⟨hrest, _, h, _⟩
      rw [show rest = [] from hrest] at h
      cases h

/-- The same reader with other raw values. -/
theorem Reads.congr {σ : Type} (h : Reads last m encode value) {encode' : σ → List τ}
    {value' : σ → α} (hto : ∀ raw, ∃ raw', encode' raw' = encode raw ∧ value' raw' = value raw)
    (hfrom : ∀ raw', ∃ raw, encode raw = encode' raw' ∧ value raw = value' raw') :
    Reads last m encode' value' := by
  intro input a rest
  rw [h]
  refine and_congr_right fun _ => ⟨?_, ?_⟩
  · rintro ⟨raw, rfl, rfl⟩
    obtain ⟨raw', hencode, hvalue⟩ := hto raw
    exact ⟨raw', by rw [hencode], hvalue.symm⟩
  · rintro ⟨raw', rfl, rfl⟩
    obtain ⟨raw, hencode, hvalue⟩ := hfrom raw'
    exact ⟨raw, by rw [hencode], hvalue.symm⟩

/-- A loop that reads so many values. -/
def many (m : Reader τ α) : Nat → Reader τ (List α)
  | 0 => return []
  | count + 1 => do
    let a ← m
    let values ← many m count
    return a :: values

theorem Reads.many (h : Reads anything m encode value) (count : Nat) :
    Reads anything (many m count) (fun raws : {raws : List ρ // raws.length = count} =>
      raws.val.flatMap encode) (fun raws => raws.val.map value) := by
  induction count with
  | zero =>
      refine (Reads.pure []).congr (fun _ => ⟨⟨[], rfl⟩, rfl, rfl⟩) ?_
      rintro ⟨raws, hlength⟩
      obtain rfl := List.length_eq_zero_iff.mp hlength
      exact ⟨(), rfl, rfl⟩
  | succ count ih =>
      refine (h.bind fun raw => ih.bind fun raws => Reads.pure (value raw :: _)).congr ?_ ?_
      · rintro ⟨raw, ⟨raws, hlength⟩, -⟩
        exact ⟨⟨raw :: raws, by simp [hlength]⟩, by simp, rfl⟩
      · rintro ⟨raws, hlength⟩
        cases raws with
        | nil => cases hlength
        | cons raw raws =>
            exact ⟨⟨raw, ⟨raws, by simpa using hlength⟩, ()⟩, by simp, rfl⟩

/-- A loop that reads values until there is none, for so many rounds. -/
def untilNoneWithin (m : Reader τ (Option α)) : Nat → Reader τ (List α)
  | 0 => failure
  | rounds + 1 => do
    match ← m with
    | none => return []
    | some a => return a :: (← untilNoneWithin m rounds)

/-- A loop that reads values until there is none. Every value takes something, so there are no more
rounds than tokens. -/
def untilNone (m : Reader τ (Option α)) : Reader τ (List α) := fun input =>
  untilNoneWithin m (input.length + 1) input

theorem untilNoneWithin_eq_some {m : Reader τ (Option α)} {stop : List τ}
    (h : Reads anything m (fun raw : Option ρ => raw.elim stop encode) (·.map value)) (rounds : Nat)
    {values : List α} {rest : List τ} :
    untilNoneWithin m rounds input = some (values, rest) ↔
      ∃ raws : List ρ, raws.length < rounds ∧ input = raws.flatMap encode ++ (stop ++ rest) ∧
        values = raws.map value := by
  induction rounds generalizing input values with
  | zero => exact iff_of_false (fun h => by cases h) fun ⟨raws, hlt, _⟩ => Nat.not_lt_zero _ hlt
  | succ rounds ih =>
      rw [untilNoneWithin, bind_eq_some]
      constructor
      · rintro ⟨a, middle, ha, hrest⟩
        obtain ⟨-, raw, rfl, rfl⟩ := (h _ _ _).mp ha
        cases raw with
        | none =>
            obtain ⟨rfl, rfl⟩ := Prod.mk.inj (Option.some.inj hrest)
            exact ⟨[], Nat.succ_pos _, rfl, rfl⟩
        | some raw =>
            obtain ⟨tail, last, htail, hpure⟩ := bind_eq_some.mp hrest
            obtain ⟨rfl, rfl⟩ := Prod.mk.inj (Option.some.inj hpure)
            obtain ⟨raws, hlt, rfl, rfl⟩ := ih.mp htail
            exact ⟨raw :: raws, Nat.succ_lt_succ hlt, by simp, rfl⟩
      · rintro ⟨raws, hlt, rfl, rfl⟩
        cases raws with
        | nil => exact ⟨none, rest, (h _ _ _).mpr ⟨trivial, none, rfl, rfl⟩, rfl⟩
        | cons raw raws =>
            refine ⟨some (value raw), raws.flatMap encode ++ (stop ++ rest),
              (h _ _ _).mpr ⟨trivial, some raw, by simp, rfl⟩, bind_eq_some.mpr ⟨raws.map value,
                rest, ih.mpr ⟨raws, Nat.lt_of_succ_lt_succ hlt, rfl, rfl⟩, rfl⟩⟩

/-- A loop takes the values and the stop behind them. -/
theorem Reads.untilNone {m : Reader τ (Option α)} {stop : List τ}
    (h : Reads anything m (fun raw : Option ρ => raw.elim stop encode) (·.map value))
    (hpos : ∀ raw, 0 < (encode raw).length) :
    Reads anything (untilNone m) (fun raws : List ρ => raws.flatMap encode ++ stop)
      (fun raws => raws.map value) := by
  intro input values rest
  rw [Reading.untilNone, untilNoneWithin_eq_some h]
  constructor
  · rintro ⟨raws, -, rfl, rfl⟩
    exact ⟨trivial, raws, (List.append_assoc ..).symm, rfl⟩
  · rintro ⟨-, raws, rfl, rfl⟩
    have hlength : raws.length ≤ (raws.flatMap encode).length := by
      induction raws with
      | nil => exact Nat.le_refl _
      | cons raw raws ih =>
          have hraw := hpos raw
          simp only [List.flatMap_cons, List.length_append, List.length_cons]
          omega
    refine ⟨raws, ?_, List.append_assoc .., rfl⟩
    simp only [List.length_append]
    omega

/-! ## The whole input -/

/-- A reader that leaves nothing accepts the encodings. -/
theorem Reads.read_eq_some_iff (h : Reads nothing m encode value) {a : α} :
    read m input = some a ↔ ∃ raw, input = encode raw ∧ a = value raw := by
  rw [read, Option.map_eq_some_iff]
  constructor
  · rintro ⟨⟨b, rest⟩, heq, rfl⟩
    obtain ⟨hrest, raw, rfl, rfl⟩ := (h _ _ _).mp heq
    rw [show rest = [] from hrest]
    exact ⟨raw, List.append_nil _, rfl⟩
  · rintro ⟨raw, rfl, rfl⟩
    exact ⟨(value raw, []), (h _ _ _).mpr ⟨rfl, raw, (List.append_nil _).symm, rfl⟩, rfl⟩

/-- A reader that does not look at what is left accepts the inputs that begin with an encoding. -/
theorem Reads.read_eq_some_iff_prefix (h : Reads anything m encode value) {a : α} :
    read m input = some a ↔ ∃ raw rest, input = encode raw ++ rest ∧ a = value raw := by
  rw [read, Option.map_eq_some_iff]
  constructor
  · rintro ⟨⟨b, rest⟩, heq, rfl⟩
    obtain ⟨-, raw, rfl, rfl⟩ := (h _ _ _).mp heq
    exact ⟨raw, rest, rfl, rfl⟩
  · rintro ⟨raw, rest, rfl, rfl⟩
    exact ⟨(value raw, rest), (h _ _ _).mpr ⟨trivial, raw, rfl, rfl⟩, rfl⟩

/-! ## Unambiguous encodings -/

/-- No two raw values have the same encoding, whatever follows. -/
def Unambiguous (encode : ρ → List τ) : Prop :=
  ∀ {raw raw' rest rest'}, encode raw ++ rest = encode raw' ++ rest' → raw = raw' ∧ rest = rest'

/-- What a reader tells apart is unambiguous. -/
theorem Reads.unambiguous (h : Reads anything m encode value) (hvalue : value.Injective) :
    Unambiguous encode := by
  intro raw raw' rest rest' heq
  have hread := (h (encode raw ++ rest) (value raw) rest).mpr ⟨trivial, raw, rfl, rfl⟩
  rw [heq, (h _ _ _).mpr ⟨trivial, raw', rfl, rfl⟩, Option.some.injEq, Prod.mk.injEq] at hread
  exact ⟨hvalue hread.1.symm, hread.2.symm⟩

/-- Two lists of one length. -/
theorem Unambiguous.flatMap (h : Unambiguous encode) {raws raws' : List ρ}
    {rest rest' : List τ} (hlength : raws.length = raws'.length)
    (heq : raws.flatMap encode ++ rest = raws'.flatMap encode ++ rest') :
    raws = raws' ∧ rest = rest' := by
  induction raws generalizing raws' with
  | nil =>
      obtain rfl := List.length_eq_zero_iff.mp hlength.symm
      exact ⟨rfl, heq⟩
  | cons raw raws ih =>
      cases raws' with
      | nil => cases hlength
      | cons raw' raws' =>
          rw [List.flatMap_cons, List.flatMap_cons, List.append_assoc, List.append_assoc] at heq
          obtain ⟨rfl, hraws⟩ := h heq
          obtain ⟨rfl, hrest⟩ := ih (Nat.succ.inj hlength) hraws
          exact ⟨rfl, hrest⟩

end Reading
