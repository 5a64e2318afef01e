import Mathlib.Tactic

/-!
Mixed-radix counting in which the first unit of a block has a length of its own:

* `Radix.cut A B n`: the unit and the rest of `n`, for a first unit of length `A`
  and further units of length `B`;
* `Radix.start_add_cut`: the rest lies that far behind the start of its unit;
* `Radix.cut_snd_lt`, `Radix.cut_fst_le`: the digits are in range;
* `Radix.cut_start_add`: every unit and every rest that fits it are cut off somewhere;
* `Radix.cut_lt_cut`: cutting is strictly increasing, unit first;
* `Radix.divMod_lt_divMod`: the same for units of one length.
-/

namespace LibAjaNtv2

namespace Radix

/-- The unit that `n` falls in and the rest, a first unit of length `A` being followed by
units of length `B`. -/
def cut (A B n : ℕ) : ℕ × ℕ :=
  if n < A then (0, n) else (1 + (n - A) / B, (n - A) % B)

/-- The position at which unit `q` starts. -/
def start (A B : ℕ) : ℕ → ℕ
  | 0 => 0
  | q + 1 => A + B * q

/-- The length of unit `q`. -/
def unitLength (A B : ℕ) : ℕ → ℕ
  | 0 => A
  | _ + 1 => B

variable {A B n n' : ℕ}

lemma cut_of_lt (h : n < A) : cut A B n = (0, n) := by
  rw [cut, if_pos h]

lemma cut_of_le (h : A ≤ n) : cut A B n = ((n - A) / B + 1, (n - A) % B) := by
  rw [cut, if_neg (by omega), Nat.add_comm]

/-- The first unit ends at its length. -/
lemma cut_fst_eq_zero_iff : (cut A B n).1 = 0 ↔ n < A := by
  rcases Nat.lt_or_ge n A with h | h
  · rw [cut_of_lt h]
    simp [h]
  · rw [cut_of_le h]
    simp [h]

/-- The unit and the rest determine the position. -/
lemma start_add_cut (A B n : ℕ) : start A B (cut A B n).1 + (cut A B n).2 = n := by
  rcases Nat.lt_or_ge n A with h | h
  · rw [cut_of_lt h]
    simp [start]
  · rw [cut_of_le h]
    have hdm := Nat.div_add_mod (n - A) B
    simp only [start]
    omega

/-- The rest is shorter than its unit. -/
lemma cut_snd_lt (hB : 0 < B) (n : ℕ) : (cut A B n).2 < unitLength A B (cut A B n).1 := by
  rcases Nat.lt_or_ge n A with h | h
  · rw [cut_of_lt h]
    exact h
  · rw [cut_of_le h]
    exact Nat.mod_lt _ hB

/-- In a block of `k` units behind the first the unit is at most `k`. -/
lemma cut_fst_le {k : ℕ} (h : n < A + B * k) : (cut A B n).1 ≤ k := by
  rcases Nat.lt_or_ge n A with hn | hn
  · rw [cut_of_lt hn]
    exact Nat.zero_le k
  · rw [cut_of_le hn]
    exact Nat.div_lt_of_lt_mul (by omega)

/-- A unit and a rest that fits it are cut off behind the start of the unit. -/
lemma cut_start_add {q r : ℕ} (h : r < unitLength A B q) : cut A B (start A B q + r) = (q, r) := by
  cases q with
  | zero =>
      rw [start, Nat.zero_add]
      exact cut_of_lt h
  | succ q =>
      have hr : r < B := h
      have hpos : A + B * q + r - A = B * q + r := by omega
      rw [start, cut_of_le (by omega), hpos, Nat.mul_add_div (by omega), Nat.mul_add_mod,
        Nat.div_eq_of_lt hr, Nat.mod_eq_of_lt hr, Nat.add_zero]

/-- That place lies in the block. -/
lemma start_add_lt {q r k : ℕ} (hq : q ≤ k) (h : r < unitLength A B q) :
    start A B q + r < A + B * k := by
  cases q with
  | zero =>
      have hr : r < A := h
      rw [start]
      omega
  | succ q =>
      have hr : r < B := h
      have hmul : B * (q + 1) ≤ B * k := Nat.mul_le_mul_left B hq
      rw [start]
      rw [Nat.mul_succ] at hmul
      omega

/-- A later position has a later unit, or the same unit and a longer rest. -/
lemma divMod_lt_divMod (B : ℕ) (h : n < n') :
    n / B < n' / B ∨ n / B = n' / B ∧ n % B < n' % B := by
  rcases (Nat.div_le_div_right h.le : n / B ≤ n' / B).lt_or_eq with hlt | heq
  · exact .inl hlt
  · refine .inr ⟨heq, ?_⟩
    have h₁ := Nat.div_add_mod n B
    have h₂ := Nat.div_add_mod n' B
    rw [heq] at h₁
    omega

/-- Cutting is strictly increasing, the unit first. -/
lemma cut_lt_cut (A B : ℕ) (h : n < n') :
    (cut A B n).1 < (cut A B n').1 ∨
      (cut A B n).1 = (cut A B n').1 ∧ (cut A B n).2 < (cut A B n').2 := by
  rcases Nat.lt_or_ge n A with hn | hn
  · rcases Nat.lt_or_ge n' A with hn' | hn'
    · rw [cut_of_lt hn, cut_of_lt hn']
      exact .inr ⟨rfl, h⟩
    · rw [cut_of_lt hn, cut_of_le hn']
      exact .inl (Nat.succ_pos _)
  · rw [cut_of_le hn, cut_of_le (hn.trans h.le)]
    rcases divMod_lt_divMod B (show n - A < n' - A by omega) with hlt | ⟨heq, hlt⟩
    · exact .inl (Nat.succ_lt_succ hlt)
    · exact .inr ⟨by rw [heq], hlt⟩

/-- With a first unit as long as the others the cut is division with remainder. -/
lemma cut_self (hB : 0 < B) (n : ℕ) : cut B B n = (n / B, n % B) := by
  rcases Nat.lt_or_ge n B with h | h
  · rw [cut_of_lt h, Nat.div_eq_of_lt h, Nat.mod_eq_of_lt h]
  · rw [cut_of_le h, Nat.div_eq_sub_div hB h, Nat.mod_eq_sub_mod h]

end Radix

end LibAjaNtv2
