import Mathlib.Tactic
import Mathlib.Data.Fintype.EquivFin

/-!
Slots of a circular array, at their distance behind a base.

* `Cyclic.gap`: how many steps forward lead from one slot to another;
* `Cyclic.gap_succ`, `Cyclic.gap_succ_base`: what a step does to the distance, at either end;
* `Cyclic.gap_between`, `Cyclic.gap_lt_of_outside`, `Cyclic.gap_lt_of_between`: the order of slots
  as seen from two bases;
* `Cyclic.card_gap_lt`: so many slots are nearer than a distance.
-/

namespace LibAjaNtv2

namespace Cyclic

variable {n : ℕ} [NeZero n] {a x y : Fin n}

/-- The number of steps forward from `a` to `x`. -/
def gap (a x : Fin n) : ℕ := (x - a).val

omit [NeZero n] in
lemma gap_lt (a x : Fin n) : gap a x < n := (x - a).isLt

omit [NeZero n] in
/-- The distance as a difference, around the end of the array or not. -/
lemma gap_eq (a x : Fin n) :
    gap a x = if a.val ≤ x.val then x.val - a.val else n + x.val - a.val := by
  have ha := a.isLt
  have hx := x.isLt
  have hsub : gap a x = (n - a.val + x.val) % n := by
    rw [gap, Fin.sub_def]
  rw [hsub]
  split_ifs with h
  · rw [show n - a.val + x.val = x.val - a.val + n by omega, Nat.add_mod_right]
    exact Nat.mod_eq_of_lt (by omega)
  · rw [show n - a.val + x.val = n + x.val - a.val by omega]
    exact Nat.mod_eq_of_lt (by omega)

@[simp] lemma gap_self (a : Fin n) : gap a a = 0 := by
  rw [gap, sub_self]
  rfl

lemma gap_eq_zero : gap a x = 0 ↔ x = a := by
  rw [gap, Fin.val_eq_zero_iff, sub_eq_zero]

lemma gap_inj (h : gap a x = gap a y) : x = y := by
  have hsub : x - a = y - a := Fin.ext h
  exact sub_left_injective hsub

/-- The slot behind the last one is the first. -/
lemma val_succ (x : Fin n) : (x + 1).val = if x.val + 1 = n then 0 else x.val + 1 := by
  have hx := x.isLt
  have hmod : (x + 1).val = (x.val + 1) % n := by
    rw [Fin.val_add, Fin.val_one', Nat.add_mod_mod]
  rw [hmod]
  split_ifs with h
  · rw [h, Nat.mod_self]
  · exact Nat.mod_eq_of_lt (by omega)

/-- A step of the slot adds one, unless it comes round to the base. -/
lemma gap_succ (h : x + 1 ≠ a) : gap a (x + 1) = gap a x + 1 := by
  have hx := x.isLt
  have ha := a.isLt
  have hne : (x + 1).val ≠ a.val := fun he => h (Fin.ext he)
  have hsucc := val_succ x
  rw [gap_eq, gap_eq]
  split_ifs at hsucc ⊢ <;> omega

/-- A step of the base takes one off, except at the old base. -/
lemma gap_succ_base (h : x ≠ a) : gap (a + 1) x = gap a x - 1 := by
  have hx := x.isLt
  have ha := a.isLt
  have hne : x.val ≠ a.val := fun he => h (Fin.ext he)
  have hsucc := val_succ a
  rw [gap_eq, gap_eq]
  split_ifs at hsucc ⊢ <;> omega

/-- The old base becomes the last slot. -/
lemma gap_succ_base_self (a : Fin n) : gap (a + 1) a = n - 1 := by
  have ha := a.isLt
  have hsucc := val_succ a
  rw [gap_eq]
  split_ifs at hsucc ⊢ <;> omega

/-- Behind a slot and before the end, as seen from the base. -/
lemma gap_between {h j : Fin n} (hx : gap a x < gap a h) (hj : gap (x + 1) j < gap (x + 1) h) :
    gap a x < gap a j ∧ gap a j < gap a h := by
  have hsucc := val_succ x
  have hax := x.isLt
  have haa := a.isLt
  have hah := h.isLt
  have haj := j.isLt
  rw [gap_eq, gap_eq] at hx hj
  rw [gap_eq, gap_eq, gap_eq]
  split_ifs at hsucc hx hj ⊢ <;> omega

/-- From a slot outside, the slots of an interval stand in the same order as from its base. -/
lemma gap_lt_of_outside {h i j : Fin n} (hx : gap a h ≤ gap a x) (hij : gap a i < gap a j)
    (hj : gap a j < gap a h) : gap (x + 1) i < gap (x + 1) j := by
  have hsucc := val_succ x
  have hax := x.isLt
  have haa := a.isLt
  have hah := h.isLt
  have haj := j.isLt
  have hai := i.isLt
  rw [gap_eq, gap_eq] at hx hij hj
  rw [gap_eq, gap_eq]
  split_ifs at hsucc hx hij hj ⊢ <;> omega

/-- Between two slots, as seen from the first. -/
lemma gap_lt_of_between {i j : Fin n} (hx : gap a x < gap a i) (hij : gap a i < gap a j) :
    gap (x + 1) i < gap (x + 1) j := by
  have hsucc := val_succ x
  have hax := x.isLt
  have haa := a.isLt
  have haj := j.isLt
  have hai := i.isLt
  rw [gap_eq, gap_eq] at hx hij
  rw [gap_eq, gap_eq]
  split_ifs at hsucc hx hij ⊢ <;> omega

/-- **So many slots are nearer** than a distance. -/
lemma card_gap_lt (a : Fin n) {m : ℕ} (hm : m ≤ n) :
    (Finset.univ.filter fun x => gap a x < m).card = m := by
  have himage : (Finset.univ.filter fun x => gap a x < m).image (gap a) = Finset.range m := by
    ext k
    simp only [Finset.mem_image, Finset.mem_filter, Finset.mem_univ, true_and, Finset.mem_range]
    constructor
    · rintro ⟨x, hx, rfl⟩
      exact hx
    · intro hk
      refine ⟨a + ⟨k, by omega⟩, ?_, ?_⟩ <;> simp [gap, hk]
  have hinj : Function.Injective (gap a) := fun x y h => gap_inj h
  have hcard := Finset.card_image_of_injective (Finset.univ.filter fun x => gap a x < m) hinj
  rw [← hcard, himage, Finset.card_range]

end Cyclic

end LibAjaNtv2
