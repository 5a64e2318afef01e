import Mathlib.Tactic

/-!
Signed machine arithmetic whose overflow has no value, and divisions that truncate towards zero.

* `Checked.InRange`: the values with a number of bits beside the sign;
* `Checked.narrow`, `Checked.cdiv`, `Checked.cmod`: a result, a quotient and a remainder that
  are there where they do not overflow;
* `Checked.rescale`: a value times one number over another; `rescale_split`: **from the quotient
  and the remainder**; `rescale_mono`;
* `Checked.rescale_back`: **a finer unit and back**, where half of the coarser one is added;
* `Checked.nearest_iff`: **when a value that is rounded that way is the nearest one**.
-/

namespace LibAjaNtv2

namespace Checked

/-! ### Results that fit -/

/-- A value has `b` bits beside its sign. -/
def InRange (b : ℕ) (v : ℤ) : Prop := -2 ^ b ≤ v ∧ v < 2 ^ b

instance (b : ℕ) (v : ℤ) : Decidable (InRange b v) := inferInstanceAs (Decidable (_ ∧ _))

/-- A result, where it does not overflow. -/
def narrow (b : ℕ) (v : ℤ) : Option ℤ := if InRange b v then some v else none

/-- A quotient, truncated towards zero. -/
def cdiv (b : ℕ) (x y : ℤ) : Option ℤ := if y = 0 then none else narrow b (x.tdiv y)

/-- The remainder of that quotient. -/
def cmod (b : ℕ) (x y : ℤ) : Option ℤ := (cdiv b x y).map fun _ => x.tmod y

variable {b : ℕ} {v u x y : ℤ}

/-- A result is there exactly where it fits. -/
lemma narrow_eq_some_iff : narrow b v = some u ↔ InRange b v ∧ u = v := by
  rw [narrow]
  split
  · rename_i h
    rw [Option.some.injEq]
    exact ⟨fun heq => ⟨h, heq.symm⟩, fun heq => heq.2.symm⟩
  · rename_i h
    exact iff_of_false (fun heq => by cases heq) fun heq => h heq.1

lemma narrow_of_inRange (h : InRange b v) : narrow b v = some v := if_pos h

/-- Numbers nearer to zero fit, too. -/
lemma InRange.of_le {m k : ℕ} (h : InRange b m) (hle : k ≤ m) : InRange b k := by
  have hpow : (0 : ℤ) < 2 ^ b := by positivity
  obtain ⟨-, hhigh⟩ := h
  exact ⟨by omega, by omega⟩

lemma InRange.neg_of_le {m k : ℕ} (h : InRange b (-m)) (hle : k ≤ m) : InRange b (-k) := by
  have hpow : (0 : ℤ) < 2 ^ b := by positivity
  obtain ⟨hlow, -⟩ := h
  exact ⟨by omega, by omega⟩

lemma inRange_natCast {m : ℕ} (h : (m : ℤ) < 2 ^ b) : InRange b m ∧ InRange b (-m) := by
  have hm : (0 : ℤ) ≤ m := Int.natCast_nonneg m
  exact ⟨⟨by omega, h⟩, by omega, by omega⟩

/-- A quotient by a positive number fits where the value does. -/
lemma InRange.tdiv (h : InRange b x) (hy : 0 < y) : InRange b (x.tdiv y) := by
  lift y to ℕ using hy.le
  rcases Int.eq_nat_or_neg x with ⟨n, rfl | rfl⟩
  · exact h.of_le (Nat.div_le_self n y)
  · rw [Int.neg_tdiv]
    exact h.neg_of_le (Nat.div_le_self n y)

lemma cdiv_of_inRange (hy : 0 < y) (h : InRange b x) : cdiv b x y = some (x.tdiv y) := by
  rw [cdiv, if_neg hy.ne']
  exact narrow_of_inRange (h.tdiv hy)

lemma cmod_of_inRange (hy : 0 < y) (h : InRange b x) : cmod b x y = some (x.tmod y) := by
  rw [cmod, cdiv_of_inRange hy h]
  rfl

/-! ### A value in another unit -/

section Natural

variable {n a c : ℕ}

/-- A multiple over a number, from the quotient and the remainder. -/
lemma div_mul_add_mod_mul_div (ha : 0 < a) : n / a * c + n % a * c / a = n * c / a := by
  have hn : n * c = n % a * c + a * (n / a * c) := by
    conv_lhs => rw [← Nat.mod_add_div n a]
    ring
  rw [hn, Nat.add_mul_div_left _ _ ha, Nat.add_comm]

/-- Half of a unit is added: the quotient grows by one where the remainder and the half have
room for a whole unit. -/
lemma add_half_mul_div (ha : 0 < a) :
    (n + a / (2 * c)) * c / a =
      n * c / a + if n * c % a + a / (2 * c) * c < a then 0 else 1 := by
  have hhalf : a / (2 * c) * (2 * c) ≤ a := Nat.div_mul_le_self _ _
  have hr : n * c % a < a := Nat.mod_lt _ ha
  have hsum : (n + a / (2 * c)) * c = n * c % a + a / (2 * c) * c + a * (n * c / a) := by
    conv_lhs => rw [Nat.add_mul, ← Nat.mod_add_div (n * c) a]
    ring
  have htwice : 2 * (a / (2 * c) * c) ≤ a := by
    calc 2 * (a / (2 * c) * c) = a / (2 * c) * (2 * c) := by ring
      _ ≤ a := hhalf
  rw [hsum, Nat.add_mul_div_left _ _ ha, Nat.add_comm]
  congr 1
  split
  · rename_i hlt
    exact Nat.div_eq_of_lt hlt
  · rename_i hge
    rw [Nat.div_eq_iff ha]
    omega

/-- **A finer unit and back**: with half of the coarser unit added, what was cut off comes
back. -/
lemma add_half_mul_div_back (ha : 0 < a) (hfine : 2 * a ≤ c) :
    (n * c / a + c / (2 * a)) * a / c = n := by
  have hcut : n * c % a + a * (n * c / a) = n * c := Nat.mod_add_div _ _
  have he : n * c % a < a := Nat.mod_lt _ ha
  have hhalf : 1 ≤ c / (2 * a) := (Nat.one_le_div_iff (by omega)).2 hfine
  have hlow : a ≤ c / (2 * a) * a := by
    calc a = 1 * a := (Nat.one_mul a).symm
      _ ≤ c / (2 * a) * a := Nat.mul_le_mul_right a hhalf
  have hhigh : 2 * (c / (2 * a) * a) ≤ c := by
    calc 2 * (c / (2 * a) * a) = c / (2 * a) * (2 * a) := by ring
      _ ≤ c := Nat.div_mul_le_self _ _
  have hsum : (n * c / a + c / (2 * a)) * a =
      c / (2 * a) * a - n * c % a + c * n := by
    have hcomm : a * (n * c / a) = n * c / a * a := Nat.mul_comm _ _
    have hnc : n * c = c * n := Nat.mul_comm _ _
    rw [Nat.add_mul]
    omega
  rw [hsum, Nat.add_mul_div_left _ _ (by omega), Nat.div_eq_of_lt (by omega), Nat.zero_add]

end Natural

/-- A value times `c` over `a`, truncated towards zero. -/
def rescale (v a c : ℤ) : ℤ := (v * c).tdiv a

/-- A value with half of a unit of `c` over `a` added, away from zero. -/
def rounded (v a c : ℤ) : ℤ := if 0 < v then v + a.tdiv (c * 2) else v - a.tdiv (c * 2)

/-- The value of a rounding is at a distance of half at most. -/
def Nearest (out v a c : ℤ) : Prop := 2 * |out * a - v * c| ≤ a

instance (out v a c : ℤ) : Decidable (Nearest out v a c) := inferInstanceAs (Decidable (_ ≤ _))

lemma rescale_natCast (n a c : ℕ) : rescale n a c = (n * c / a : ℕ) := rfl

lemma rescale_neg (v a c : ℤ) : rescale (-v) a c = -rescale v a c := by
  rw [rescale, rescale, Int.neg_mul, Int.neg_tdiv]

/-- A value is a positive number, or a number below zero or zero. -/
lemma pos_or_neg (v : ℤ) : (∃ n : ℕ, 0 < n ∧ v = n) ∨ ∃ n : ℕ, v = -n := by
  rcases Int.eq_nat_or_neg v with ⟨n, rfl | rfl⟩
  · rcases Nat.eq_zero_or_pos n with rfl | hn
    · exact .inr ⟨0, rfl⟩
    · exact .inl ⟨n, hn, rfl⟩
  · exact .inr ⟨n, rfl⟩

lemma rounded_natCast {n a c : ℕ} (hn : 0 < n) :
    rounded n a c = (n + a / (2 * c) : ℕ) := by
  rw [rounded, if_pos (Int.natCast_pos.2 hn), Int.natCast_add, Nat.mul_comm]
  rfl

lemma rounded_neg_natCast {n a c : ℕ} : rounded (-n) a c = -(n + a / (2 * c) : ℕ) := by
  rw [rounded, if_neg (by omega), Int.natCast_add, neg_add', Nat.mul_comm]
  rfl

/-- **A value is rescaled** from its quotient and its remainder. -/
theorem rescale_split {a c : ℤ} (ha : 0 < a) (hc : 0 ≤ c) (v : ℤ) :
    v.tdiv a * c + (v.tmod a * c).tdiv a = rescale v a c := by
  lift a to ℕ using ha.le
  lift c to ℕ using hc
  have hnat : ∀ n : ℕ, (n : ℤ).tdiv a * c + ((n : ℤ).tmod a * c).tdiv a = rescale n a c := by
    intro n
    rw [rescale_natCast, ← div_mul_add_mod_mul_div (by exact_mod_cast ha)]
    rfl
  rcases Int.eq_nat_or_neg v with ⟨n, rfl | rfl⟩
  · exact hnat n
  · rw [rescale_neg, ← hnat n, Int.neg_tdiv, Int.neg_tmod, Int.neg_mul, Int.neg_mul,
      Int.neg_tdiv, Int.neg_add]

/-- The quotient part fits where the whole does. -/
lemma InRange.quotient_mul {a c : ℤ} (ha : 0 < a) (hc : 0 ≤ c) (h : InRange b (rescale v a c)) :
    InRange b (v.tdiv a * c) := by
  lift a to ℕ using ha.le
  lift c to ℕ using hc
  have hle : ∀ n : ℕ, n / a * c ≤ n * c / a := fun n =>
    (Nat.le_add_right _ _).trans_eq (div_mul_add_mod_mul_div (by exact_mod_cast ha))
  rcases Int.eq_nat_or_neg v with ⟨n, rfl | rfl⟩
  · exact h.of_le (hle n)
  · rw [rescale_neg, rescale_natCast] at h
    rw [Int.neg_tdiv, Int.neg_mul]
    exact h.neg_of_le (hle n)

/-- A value is rescaled to one that fits where the exact one does. -/
lemma inRange_rescale {a c : ℤ} (ha : 0 < a) (hc : 0 ≤ c) (h : |v| * c < 2 ^ b * a) :
    InRange b (rescale v a c) := by
  lift a to ℕ using ha.le
  lift c to ℕ using hc
  have hnat : ∀ n : ℕ, (n : ℤ) * c < 2 ^ b * a → ((n * c / a : ℕ) : ℤ) < 2 ^ b := by
    intro n hn
    have hlt : n * c < 2 ^ b * a := by exact_mod_cast hn
    exact_mod_cast (Nat.div_lt_iff_lt_mul (by exact_mod_cast ha)).2 hlt
  rcases Int.eq_nat_or_neg v with ⟨n, rfl | rfl⟩
  · rw [Nat.abs_cast] at h
    exact (inRange_natCast (hnat n h)).1
  · rw [abs_neg, Nat.abs_cast] at h
    rw [rescale_neg, rescale_natCast]
    exact (inRange_natCast (hnat n h)).2

/-- A remainder is multiplied to a value that fits where the divisor is. -/
lemma inRange_tmod_mul {a c : ℤ} (ha : 0 < a) (hc : 0 < c) (h : a * c ≤ 2 ^ b) :
    InRange b (v.tmod a * c) := by
  lift a to ℕ using ha.le
  lift c to ℕ using hc.le
  have hnat : ∀ n : ℕ, ((n % a * c : ℕ) : ℤ) < 2 ^ b := by
    intro n
    have hlt : n % a * c < a * c :=
      Nat.mul_lt_mul_of_pos_right (Nat.mod_lt _ (by exact_mod_cast ha)) (by exact_mod_cast hc)
    exact lt_of_lt_of_le (by exact_mod_cast hlt) h
  rcases Int.eq_nat_or_neg v with ⟨n, rfl | rfl⟩
  · exact (inRange_natCast (hnat n)).1
  · rw [Int.neg_tmod, Int.neg_mul]
    exact (inRange_natCast (hnat n)).2

lemma rounded_of_lt {a c : ℤ} (ha : 0 ≤ a) (h : a < c * 2) : rounded v a c = v := by
  have hzero : a.tdiv (c * 2) = 0 := Int.tdiv_eq_zero_of_lt ha h
  rw [rounded, hzero, Int.add_zero, Int.sub_zero, ite_self]

lemma rescale_mono {a c v u : ℤ} (ha : 0 < a) (hc : 0 ≤ c) (h : v ≤ u) :
    rescale v a c ≤ rescale u a c :=
  Int.tdiv_le_tdiv ha (mul_le_mul_of_nonneg_right h hc)

/-- **A finer unit and back** is the same. -/
theorem rescale_back {a c : ℤ} (ha : 0 < a) (hfine : 2 * a ≤ c) (v : ℤ) :
    rescale (rounded (rescale v a c) c a) c a = v := by
  lift a to ℕ using ha.le
  lift c to ℕ using by omega
  have ha' : 0 < a := by exact_mod_cast ha
  have hfine' : 2 * a ≤ c := by exact_mod_cast hfine
  rcases pos_or_neg v with ⟨n, hn, rfl⟩ | ⟨n, rfl⟩
  · have hpos : 0 < n * c / a := by
      refine Nat.div_pos ?_ ha'
      calc a ≤ 1 * c := by omega
        _ ≤ n * c := Nat.mul_le_mul_right c hn
    rw [rescale_natCast, rounded_natCast hpos, rescale_natCast,
      add_half_mul_div_back ha' hfine']
  · rw [rescale_neg, rescale_natCast, rounded_neg_natCast, rescale_neg, rescale_natCast,
      add_half_mul_div_back ha' hfine']

/-- When the half unit that is added on the way back fits. -/
lemma inRange_rounded_rescale_iff {a c : ℤ} (ha : 0 < a) (hfine : a ≤ c) :
    InRange b (rounded (rescale v a c) c a) ↔
      if 0 < v then v * c < (2 ^ b - c / (2 * a)) * a
      else -v * c < (2 ^ b - c / (2 * a) + 1) * a := by
  lift a to ℕ using ha.le
  lift c to ℕ using by omega
  have ha' : 0 < a := by exact_mod_cast ha
  have hfine' : a ≤ c := by exact_mod_cast hfine
  have hpow : (0 : ℤ) < 2 ^ b := by positivity
  have hdiv : ∀ (n : ℕ) (m : ℤ), ((n * c / a : ℕ) : ℤ) < m ↔ (n : ℤ) * c < m * a := by
    intro n m
    rw [Int.natCast_div, Int.natCast_mul]
    exact Int.ediv_lt_iff_lt_mul ha
  rcases pos_or_neg v with ⟨n, hn, rfl⟩ | ⟨n, rfl⟩
  · have hpos : 0 < n * c / a := by
      refine Nat.div_pos ?_ ha'
      calc a ≤ 1 * c := by omega
        _ ≤ n * c := Nat.mul_le_mul_right c hn
    rw [rescale_natCast, rounded_natCast hpos, if_pos (Int.natCast_pos.2 hn), ← hdiv]
    have hcast : (c : ℤ) / (2 * a) = (c / (2 * a) : ℕ) := by push_cast; rfl
    rw [hcast, InRange]
    generalize c / (2 * a) = half
    generalize n * c / a = q
    push_cast
    omega
  · rw [rescale_neg, rescale_natCast, rounded_neg_natCast, if_neg (by omega), Int.neg_neg, ← hdiv]
    have hcast : (c : ℤ) / (2 * a) = (c / (2 * a) : ℕ) := by push_cast; rfl
    rw [hcast, InRange]
    generalize c / (2 * a) = half
    generalize n * c / a = q
    push_cast
    omega

/-- A number that is rounded that way stays below a bound. -/
lemma add_half_mul_div_le {n a c m : ℕ} (ha : 0 < a) (h : n * c ≤ m * a) :
    (n + a / (2 * c)) * c / a ≤ m := by
  have hcut : n * c % a + a * (n * c / a) = n * c := Nat.mod_add_div _ _
  have htwice : 2 * (a / (2 * c) * c) ≤ a := by
    calc 2 * (a / (2 * c) * c) = a / (2 * c) * (2 * c) := by ring
      _ ≤ a := Nat.div_mul_le_self _ _
  rw [add_half_mul_div ha]
  have hq : n * c / a ≤ m := Nat.div_le_of_le_mul (h.trans_eq (Nat.mul_comm m a))
  split
  · exact hq
  · rename_i hwhole
    -- a whole unit needs a remainder, and the bound leaves none at the end
    have hr : 0 < n * c % a := by omega
    refine Nat.succ_le_of_lt (lt_of_le_of_ne hq fun heq => ?_)
    rw [heq, Nat.mul_comm a m] at hcut
    omega

/-- A rounded value fits where the exact one does. -/
lemma inRange_rescale_rounded {a c : ℤ} (ha : 0 < a) (hc : 0 < c) (hlow : -2 ^ b * a ≤ v * c)
    (hhigh : v * c ≤ (2 ^ b - 1) * a) : InRange b (rescale (rounded v a c) a c) := by
  lift a to ℕ using ha.le
  lift c to ℕ using hc.le
  have ha' : 0 < a := by exact_mod_cast ha
  have hpow : (0 : ℤ) < 2 ^ b := by positivity
  rcases pos_or_neg v with ⟨n, hn, rfl⟩ | ⟨n, rfl⟩
  · have hle : n * c ≤ (2 ^ b - 1) * a := by
      zify [Nat.one_le_two_pow]
      exact hhigh
    have hm := add_half_mul_div_le ha' hle
    rw [rounded_natCast hn, rescale_natCast]
    generalize (n + a / (2 * c)) * c / a = q at *
    have hq : (q : ℤ) ≤ 2 ^ b - 1 := by
      zify [Nat.one_le_two_pow] at hm
      exact hm
    exact ⟨by omega, by omega⟩
  · have hle : n * c ≤ 2 ^ b * a := by
      zify
      linarith
    have hm := add_half_mul_div_le ha' hle
    rw [rounded_neg_natCast, rescale_neg, rescale_natCast]
    generalize (n + a / (2 * c)) * c / a = q at *
    have hq : (q : ℤ) ≤ 2 ^ b := by exact_mod_cast hm
    exact ⟨by omega, by omega⟩

/-- Rounding a number with half of a unit added. -/
lemma nearest_natCast_iff {n a c : ℕ} (ha : 0 < a) :
    Nearest ((n + a / (2 * c)) * c / a : ℕ) n a c ↔
      ¬ (a < 2 * (n * c % a) ∧ n * c % a + a / (2 * c) * c < a) := by
  have hcut : n * c % a + a * (n * c / a) = n * c := Nat.mod_add_div _ _
  have hr : n * c % a < a := Nat.mod_lt _ ha
  have htwice : 2 * (a / (2 * c) * c) ≤ a := by
    calc 2 * (a / (2 * c) * c) = a / (2 * c) * (2 * c) := by ring
      _ ≤ a := Nat.div_mul_le_self _ _
  rw [add_half_mul_div ha, Nearest]
  generalize a / (2 * c) * c = half at *
  generalize hrem : n * c % a = r at *
  generalize n * c / a = q at *
  have hnc : (n : ℤ) * c = r + a * q := by exact_mod_cast hcut.symm
  split
  · rename_i hlt
    have hdist : ((q + 0 : ℕ) : ℤ) * a - n * c = -r := by
      rw [hnc]
      push_cast
      ring
    rw [hdist, abs_neg, abs_of_nonneg (Int.natCast_nonneg r)]
    omega
  · rename_i hge
    have hdist : ((q + 1 : ℕ) : ℤ) * a - n * c = a - r := by
      rw [hnc]
      push_cast
      ring
    rw [hdist, abs_of_nonneg (by omega)]
    omega

/-- **A value that is rounded that way** is the nearest one unless more than half was cut off, and
the half that was added is too small to come back. -/
theorem nearest_iff {a c : ℤ} (ha : 0 < a) (hc : 0 < c) (v : ℤ) :
    Nearest (rescale (rounded v a c) a c) v a c ↔
      ¬ (a < 2 * (|v| * c % a) ∧ |v| * c % a + a / (2 * c) * c < a) := by
  lift a to ℕ using ha.le
  lift c to ℕ using hc.le
  have ha' : 0 < a := by exact_mod_cast ha
  have hnat : ∀ n : ℕ, Nearest (rescale ((n + a / (2 * c) : ℕ) : ℤ) a c) n a c ↔
      ¬ ((a : ℤ) < 2 * (n * c % a) ∧ (n : ℤ) * c % a + a / (2 * c) * c < a) := by
    intro n
    rw [rescale_natCast, nearest_natCast_iff ha']
    norm_cast
  have hneg : ∀ out v : ℤ, Nearest (-out) (-v) a c ↔ Nearest out v a c := by
    intro out v
    rw [Nearest, Nearest, neg_mul, neg_mul, neg_sub_neg, abs_sub_comm]
  rcases pos_or_neg v with ⟨n, hn, rfl⟩ | ⟨n, rfl⟩
  · rw [Nat.abs_cast, rounded_natCast hn, hnat]
  · rw [abs_neg, Nat.abs_cast, rounded_neg_natCast, rescale_neg, hneg, hnat]

end Checked

end LibAjaNtv2
