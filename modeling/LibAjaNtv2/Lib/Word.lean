import Mathlib.Tactic

/-!
Fixed-width integers as the integers and naturals they denote:

* `toInt32`: the signed 32-bit value of an integer;
* `toUInt32`: the unsigned 32-bit value of an integer;
* `toUInt64`: the unsigned 64-bit value of an integer;
* `toInt32_eq_self`, `toUInt32_eq_self`: nothing changes inside the range;
* `toUInt32_of_eq`, `toUInt64_of_eq`: a computation inside the range does not wrap;
* `toInt32_toUInt32`: the two conversions compose.
-/

namespace LibAjaNtv2

/-- The signed 32-bit value of `x`: the representative in `[-2³¹, 2³¹)`. -/
def toInt32 (x : Int) : Int := (x + 2147483648) % 4294967296 - 2147483648

/-- The unsigned 32-bit value of `x`: the representative in `[0, 2³²)`. -/
def toUInt32 (x : Int) : ℕ := (x % 4294967296).toNat

/-- The unsigned 64-bit value of `x`: the representative in `[0, 2⁶⁴)`. -/
def toUInt64 (x : Int) : ℕ := (x % 18446744073709551616).toNat

/-- Membership of the signed 32-bit range. -/
def IsInt32 (x : Int) : Prop := -2147483648 ≤ x ∧ x < 2147483648

instance (x : Int) : Decidable (IsInt32 x) := inferInstanceAs (Decidable (_ ∧ _))

lemma isInt32_zero : IsInt32 0 := by decide

lemma isInt32_one : IsInt32 1 := by decide

lemma isInt32_nine : IsInt32 9 := by decide

lemma isInt32_ten : IsInt32 10 := by decide

lemma toInt32_eq_self {x : Int} (h : IsInt32 x) : toInt32 x = x := by
  unfold IsInt32 at h
  unfold toInt32
  omega

lemma toUInt32_eq_self {x : Int} (h₀ : 0 ≤ x) (h₁ : x < 4294967296) :
    (toUInt32 x : Int) = x := by
  unfold toUInt32
  omega

/-- A computation that stays a natural number below `2³²` does not wrap. -/
lemma toUInt32_of_eq {x : Int} {n : ℕ} (h : x = n) (hn : n < 4294967296) : toUInt32 x = n := by
  rw [toUInt32]
  omega

/-- A computation that stays a natural number below `2⁶⁴` does not wrap. -/
lemma toUInt64_of_eq {x : Int} {n : ℕ} (h : x = n) (hn : n < 18446744073709551616) :
    toUInt64 x = n := by
  rw [toUInt64]
  omega

lemma toUInt32_lt (x : Int) : toUInt32 x < 4294967296 := by
  unfold toUInt32
  omega

lemma toInt32_toUInt32 (x : Int) : toInt32 (toUInt32 x) = toInt32 x := by
  unfold toInt32 toUInt32
  omega

/-- On the naturals below `2³¹` both conversions are the inclusion. -/
lemma toInt32_natCast {n : ℕ} (h : n < 2147483648) : toInt32 n = n := by
  unfold toInt32
  omega

/-- A computation that stays a natural number below `2³¹` does not wrap. -/
lemma toInt32_of_eq {x : Int} {n : ℕ} (h : x = n) (hn : n < 2147483648) : toInt32 x = n := by
  rw [toInt32]
  omega

end LibAjaNtv2
