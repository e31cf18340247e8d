import Mathlib.Algebra.Order.Group.Nat
import Mathlib.Tactic.Ring
/-!
# FitzTs.Lib.BigEndian

**Big-endian byte strings.** `toBytes k n` is the last `k` bytes of `n`, most significant first, and
`ofBytes` is the number that a byte string stands for. Each undoes the other where the number fits
(`ofBytes_toBytes`, `toBytes_ofBytes`).
-/

namespace BigEndian

/-- The `k` low bytes of `n`. -/
def toBytes : Nat → Nat → List UInt8
  | 0, _ => []
  | k + 1, n => UInt8.ofNat (n / 256 ^ k) :: toBytes k n

/-- The number with the given bytes. -/
def ofBytes : List UInt8 → Nat
  | [] => 0
  | b :: bs => b.toNat * 256 ^ bs.length + ofBytes bs

@[simp] theorem length_toBytes {k n : Nat} : (toBytes k n).length = k := by
  induction k with
  | zero => rfl
  | succ k ih => simp [toBytes, ih]

theorem ofBytes_toBytes_mod {k n : Nat} : ofBytes (toBytes k n) = n % 256 ^ k := by
  induction k with
  | zero => simp [toBytes, ofBytes, Nat.mod_one]
  | succ k ih =>
      have hsplit : n % 256 ^ (k + 1) = 256 ^ k * (n / 256 ^ k % 256) + n % 256 ^ k := by
        rw [pow_succ, Nat.mod_mul, Nat.add_comm]
      have hbyte : (UInt8.ofNat (n / 256 ^ k)).toNat = n / 256 ^ k % 256 := UInt8.toNat_ofNat'
      rw [toBytes, ofBytes, ih, length_toBytes, hbyte, hsplit, Nat.mul_comm]

/-- A number that fits is read back. -/
theorem ofBytes_toBytes {k n : Nat} (h : n < 256 ^ k) : ofBytes (toBytes k n) = n := by
  rw [ofBytes_toBytes_mod, Nat.mod_eq_of_lt h]

theorem ofBytes_lt (bs : List UInt8) : ofBytes bs < 256 ^ bs.length := by
  induction bs with
  | nil => simp [ofBytes]
  | cons b bs ih =>
      have hb : b.toNat + 1 ≤ 256 := b.toNat_lt
      have hmul := Nat.mul_le_mul_right (256 ^ bs.length) hb
      rw [ofBytes, List.length_cons, pow_succ]
      rw [Nat.add_mul, Nat.one_mul] at hmul
      omega

theorem ofBytes_append (bs cs : List UInt8) :
    ofBytes (bs ++ cs) = ofBytes bs * 256 ^ cs.length + ofBytes cs := by
  induction bs with
  | nil => simp [ofBytes]
  | cons b bs ih =>
      rw [List.cons_append, ofBytes, ih, ofBytes, List.length_append, pow_add]
      ring

theorem toBytes_mod {k m n : Nat} : toBytes k (m * 256 ^ k + n) = toBytes k n := by
  induction k generalizing m with
  | zero => rfl
  | succ k ih =>
      have hpow : m * 256 ^ (k + 1) + n = m * 256 * 256 ^ k + n := by rw [pow_succ]; ring
      have hdiv : (m * 256 * 256 ^ k + n) / 256 ^ k = n / 256 ^ k + 256 * m := by
        rw [Nat.add_comm, Nat.add_mul_div_right _ _ (Nat.pow_pos (by decide)), Nat.mul_comm m]
      have hbyte : UInt8.ofNat (n / 256 ^ k + 256 * m) = UInt8.ofNat (n / 256 ^ k) := by
        apply UInt8.toNat_inj.mp
        simp [UInt8.toNat_ofNat']
      rw [hpow, toBytes, toBytes, ih, hdiv, hbyte]

/-- The bytes of the number of a byte string are that string. -/
theorem toBytes_ofBytes (bs : List UInt8) : toBytes bs.length (ofBytes bs) = bs := by
  induction bs with
  | nil => rfl
  | cons b bs ih =>
      have hdiv : (b.toNat * 256 ^ bs.length + ofBytes bs) / 256 ^ bs.length = b.toNat := by
        rw [Nat.add_comm, Nat.add_mul_div_right _ _ (Nat.pow_pos (by decide)),
          Nat.div_eq_of_lt (ofBytes_lt bs), Nat.zero_add]
      rw [List.length_cons, toBytes, ofBytes, hdiv, toBytes_mod, ih, UInt8.ofNat_toNat]

end BigEndian
