import Mathlib.Tactic

/-!
Permits that threads take from a counter and give back.

* `Accounted`: the counter and the permits in the threads' hands add up;
* `Accounted.change`: **they still do when one thread and the counter change in step**;
* `Accounted.eq_of_one`: one permit has one holder;
* `Accounted.exists_free`: **a thread with a permit, and none of the things that the permits are
  for, finds one that nobody has**.
-/

namespace LibAjaNtv2

variable {ι κ : Type*} [Fintype ι] {f g : ι → ℕ} {count count' total : ℕ} {i j : ι}

/-- The permits left and those that the threads have. -/
structure Accounted (count : ℕ) (f : ι → ℕ) (total : ℕ) : Prop where
  sum : count + ∑ i, f i = total

namespace Accounted

lemma split [DecidableEq ι] (f : ι → ℕ) (i : ι) :
    ∑ j, f j = f i + ∑ j ∈ Finset.univ.erase i, f j :=
  (Finset.add_sum_erase _ f (Finset.mem_univ i)).symm

/-- **A thread that takes or gives what the counter gives or takes keeps the account.** -/
theorem change [DecidableEq ι] {total' : ℕ} (h : Accounted count f total)
    (hoff : ∀ j ≠ i, g j = f j) (hloc : count' + g i + total = count + f i + total') :
    Accounted count' g total' := by
  have hrest : ∑ j ∈ Finset.univ.erase i, g j = ∑ j ∈ Finset.univ.erase i, f j :=
    Finset.sum_congr rfl fun j hj => hoff j (Finset.ne_of_mem_erase hj)
  have hsum := h.sum
  rw [split f i] at hsum
  refine ⟨?_⟩
  rw [split g i, hrest]
  omega

/-- What two threads have is at most all. -/
lemma add_le (h : Accounted count f total) (hij : i ≠ j) : f i + f j ≤ total := by
  classical
  have hle : f i + f j ≤ ∑ k, f k := by
    rw [split f i]
    exact Nat.add_le_add_left (Finset.single_le_sum (fun _ _ => Nat.zero_le _)
      (Finset.mem_erase.mpr ⟨hij.symm, Finset.mem_univ j⟩)) _
  have := h.sum
  omega

lemma eq_of_one (h : Accounted count f 1) (hi : 0 < f i) (hj : 0 < f j) : i = j := by
  by_contra hij
  have := h.add_le hij
  omega

lemma count_eq (h : Accounted count f total) (hf : ∀ i, f i = 0) : count = total := by
  have := h.sum
  simpa [hf] using this

/-- **There is one free for a thread with a permit.** -/
theorem exists_free [Fintype κ] {has : ι → κ → Prop} (h : Accounted count f (Fintype.card κ))
    (hone : ∀ i c c', has i c → has i c' → c = c') (hhas : ∀ i c, has i c → 0 < f i)
    (hi : 0 < f i) (hnone : ∀ c, ¬ has i c) : ∃ c, ∀ j, ¬ has j c := by
  classical
  by_contra hall
  push Not at hall
  choose user huser using hall
  have hinj : Function.Injective user := fun c c' hc =>
    hone (user c) c c' (huser c) (hc ▸ huser c')
  have hmem : ∀ c, user c ∈ Finset.univ.erase i := fun c =>
    Finset.mem_erase.mpr ⟨fun hc => hnone c (hc ▸ huser c), Finset.mem_univ _⟩
  have hcard : Fintype.card κ ≤ ∑ j ∈ Finset.univ.erase i, f j :=
    calc Fintype.card κ = ∑ c : κ, 1 := by simp
      _ ≤ ∑ c : κ, f (user c) := Finset.sum_le_sum fun c _ => hhas _ c (huser c)
      _ = ∑ j ∈ Finset.univ.image user, f j := (Finset.sum_image fun c _ c' _ hc => hinj hc).symm
      _ ≤ ∑ j ∈ Finset.univ.erase i, f j := by
          refine Finset.sum_le_sum_of_subset fun j hj => ?_
          obtain ⟨c, -, rfl⟩ := Finset.mem_image.mp hj
          exact hmem c
  have hsum := h.sum
  rw [split f i] at hsum
  omega

end Accounted

end LibAjaNtv2
