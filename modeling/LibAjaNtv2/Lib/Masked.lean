import Mathlib.Tactic

/-!
Masks and shifts as quotients and remainders.

* `toNat_and_mask`: the bits under a mask;
* `toNat_or_of_lt`, `toNat_or_shiftLeft`: two numbers that do not overlap, put together.
-/

namespace LibAjaNtv2

namespace BitField

variable {w : ℕ}

/-- The bits under the mask of `len` bits from bit `k` on. -/
lemma toNat_and_mask (v mask : BitVec w) (k len : ℕ) (hmask : mask.toNat = (2 ^ len - 1) * 2 ^ k) :
    (v &&& mask).toNat = v.toNat / 2 ^ k % 2 ^ len * 2 ^ k := by
  rw [BitVec.toNat_and, hmask]
  refine Nat.eq_of_testBit_eq fun i => ?_
  rw [Nat.testBit_and, Nat.testBit_mul_two_pow, Nat.testBit_mul_two_pow,
    Nat.testBit_two_pow_sub_one, Nat.testBit_mod_two_pow, Nat.testBit_div_two_pow]
  rcases Nat.lt_or_ge i k with hlt | hge
  · simp [Nat.not_le.mpr hlt]
  · rw [Nat.sub_add_cancel hge]
    simp [hge, Bool.and_comm]

lemma toNat_or_of_lt {a b : BitVec w} (k x : ℕ) (ha : a.toNat = x * 2 ^ k) (hb : b.toNat < 2 ^ k) :
    (a ||| b).toNat = a.toNat + b.toNat := by
  rw [BitVec.toNat_or, ha, Nat.mul_comm, Nat.two_pow_add_eq_or_of_lt hb]

lemma toNat_and_low (v mask : BitVec w) (len : ℕ) (hmask : mask.toNat = 2 ^ len - 1) :
    (v &&& mask).toNat = v.toNat % 2 ^ len := by
  simpa using toNat_and_mask v mask 0 len (by simpa using hmask)

/-- A number with another one shifted above it. -/
lemma toNat_or_shiftLeft {a b : BitVec w} (k len : ℕ) (ha : a.toNat < 2 ^ k)
    (hb : b.toNat < 2 ^ len) (hfit : len + k ≤ w) :
    (a ||| b <<< k).toNat = a.toNat + b.toNat * 2 ^ k ∧
      (b <<< k ||| a).toNat = a.toNat + b.toNat * 2 ^ k := by
  have hlt : b.toNat * 2 ^ k < 2 ^ w := by
    calc b.toNat * 2 ^ k < 2 ^ len * 2 ^ k := Nat.mul_lt_mul_of_pos_right hb (Nat.two_pow_pos k)
      _ = 2 ^ (len + k) := (Nat.pow_add 2 len k).symm
      _ ≤ 2 ^ w := Nat.pow_le_pow_right (by omega) hfit
  have hshift : (b <<< k).toNat = b.toNat * 2 ^ k := by
    rw [BitVec.toNat_shiftLeft, Nat.shiftLeft_eq, Nat.mod_eq_of_lt hlt]
  have hor := toNat_or_of_lt k b.toNat hshift ha
  rw [hshift, Nat.add_comm] at hor
  exact ⟨by rw [BitVec.or_comm, hor], hor⟩

end BitField

end LibAjaNtv2
