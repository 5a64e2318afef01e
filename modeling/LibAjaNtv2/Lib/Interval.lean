import Mathlib.Tactic
import Mathlib.Algebra.Order.Interval.Multiset

/-!
Intervals of positions as multisets, cut by consecutive blocks.

* `Interval.clip`: the positions of an interval inside a block;
* `Interval.clip_add_clip`: two adjacent blocks cut what their union cuts;
* `Interval.map_range_add`: an interval counted from its start.
-/

namespace LibAjaNtv2

namespace Interval

/-- The positions of `[x, y)` inside the block `[b, e)`. -/
def clip (x y b e : ℕ) : Multiset ℕ := Multiset.Ico (max x b) (min y e)

variable {x y b m e : ℕ}

lemma clip_of_end_le (h : y ≤ b) : clip x y b e = 0 := by
  rw [clip, Multiset.Ico_eq_zero_iff]
  omega

lemma clip_of_le_start (h : e ≤ x) : clip x y b e = 0 := by
  rw [clip, Multiset.Ico_eq_zero_iff]
  omega

lemma clip_of_empty (h : e ≤ b) : clip x y b e = 0 := by
  rw [clip, Multiset.Ico_eq_zero_iff]
  omega

lemma clip_of_subset (hx : b ≤ x) (hy : y ≤ e) : clip x y b e = Multiset.Ico x y := by
  rw [clip, max_eq_left hx, min_eq_left hy]

/-- **Adjacent blocks** cut together what their union cuts. -/
theorem clip_add_clip (hbm : b ≤ m) (hme : m ≤ e) :
    clip x y b m + clip x y m e = clip x y b e := by
  rcases Nat.lt_or_ge m y with hy | hy
  · rcases Nat.lt_or_ge m x with hx | hx
    · rw [clip_of_le_start hx.le, zero_add, clip, clip, max_eq_left hx.le,
        max_eq_left (hbm.trans hx.le)]
    · rw [clip, clip, clip, min_eq_right hy.le, max_eq_right hx]
      exact Multiset.Ico_add_Ico_eq_Ico (max_le hx hbm) (le_min hy.le hme)
  · rw [clip_of_end_le hy, add_zero, clip, clip, min_eq_left hy, min_eq_left (hy.trans hme)]

lemma mem_clip {o : ℕ} : o ∈ clip x y b e ↔ (x ≤ o ∧ b ≤ o) ∧ o < y ∧ o < e := by
  rw [clip, Multiset.mem_Ico, max_le_iff, lt_min_iff]

/-- An interval counted from its start. -/
lemma map_range_add (x n : ℕ) : (Multiset.range n).map (x + ·) = Multiset.Ico x (x + n) := by
  have hrange : Multiset.range n = Multiset.Ico 0 n := by
    rw [Multiset.Ico, ← Finset.range_eq_Ico]
    rfl
  rw [hrange, Multiset.map_add_left_Ico, Nat.add_zero]

end Interval

end LibAjaNtv2
