import Mathlib.Tactic

/-!
A range of bytes, cut where pages end.

* `PageCut`, `pageCuts`: the parts of a range, each in one page;
* `pageCuts_last`, `pageCuts_next`: the last part, and one with others behind it;
* `pageCuts_induct`: **from part to part**;
* `length_pageCuts`: **how many parts there are**;
* `bytes_pageCuts`: **their bytes are those of the range, once and in order**;
* `pageCuts_inside`: each has bytes, and ends with its page at the latest;
* `head_pageCuts`, `offset_tail_pageCuts`: the first starts where the range does, the others start
  with their pages.
-/

namespace LibAjaNtv2

/-- A part of a page: the number of the page, where the part starts in it, and its bytes. -/
structure PageCut where
  page : ℕ
  offset : ℕ
  length : ℕ
  deriving DecidableEq

/-- The bytes of a part: their pages and their places there. -/
def PageCut.bytes (cut : PageCut) : List (ℕ × ℕ) :=
  (List.range cut.length).map fun k => (cut.page, cut.offset + k)

/-- The parts of `n` bytes from address `a` on, for pages of `P` bytes. -/
def pageCuts (P a n : ℕ) : List PageCut :=
  if _hnone : P = 0 ∨ n = 0 then []
  else
    ⟨a / P, a % P, min n (P - a % P)⟩ ::
      pageCuts P (a + min n (P - a % P)) (n - min n (P - a % P))
  termination_by n
  decreasing_by
    have := Nat.mod_lt a (Nat.pos_of_ne_zero fun h => _hnone (.inl h))
    omega

variable {P a n : ℕ}

lemma pageCuts_zero : pageCuts P a 0 = [] := by
  rw [pageCuts, dif_pos (.inr rfl)]

lemma pageCuts_last (hn : 0 < n) (hlast : a % P + n ≤ P) :
    pageCuts P a n = [⟨a / P, a % P, n⟩] := by
  have hmin : min n (P - a % P) = n := by omega
  rw [pageCuts, dif_neg (by omega), hmin, Nat.sub_self, pageCuts_zero]

/-- A range that goes on behind its first page. -/
lemma pageCuts_next (hP : 0 < P) (hmore : P < a % P + n) :
    pageCuts P a n =
      ⟨a / P, a % P, P - a % P⟩ :: pageCuts P (P * (a / P + 1)) (n - (P - a % P)) := by
  have hmod := Nat.mod_lt a hP
  have hmin : min n (P - a % P) = P - a % P := by omega
  have hnext : a + (P - a % P) = P * (a / P + 1) := by
    have := Nat.div_add_mod a P
    rw [Nat.mul_succ]
    omega
  rw [pageCuts, dif_neg (by omega), hmin, hnext]

/-- **From part to part**: nothing, a range that ends in its first page, or one that goes on. -/
lemma pageCuts_induct {motive : ℕ → ℕ → Prop} (hP : 0 < P) (zero : ∀ a, motive a 0)
    (last : ∀ a n, 0 < n → a % P + n ≤ P → motive a n)
    (next : ∀ a n, P < a % P + n → motive (P * (a / P + 1)) (n - (P - a % P)) → motive a n)
    (a n : ℕ) : motive a n := by
  induction hm : n using Nat.strong_induction_on generalizing a n with
  | _ m ih =>
      subst hm
      have hmod := Nat.mod_lt a hP
      rcases Nat.eq_zero_or_pos n with rfl | hn
      · exact zero a
      by_cases hlast : a % P + n ≤ P
      · exact last a n hn hlast
      · exact next a n (by omega) (ih _ (by omega) _ _ rfl)

/-- An address in the page of another one. -/
lemma add_div_mod {k : ℕ} (hk : a % P + k < P) :
    (a + k) / P = a / P ∧ (a + k) % P = a % P + k := by
  have hP : 0 < P := by omega
  have hsum : a + k = (a % P + k) + P * (a / P) := by
    have := Nat.div_add_mod a P
    omega
  rw [hsum, Nat.add_mul_div_left _ _ hP, Nat.add_mul_mod_self_left, Nat.mod_eq_of_lt hk,
    Nat.div_eq_of_lt hk, Nat.zero_add]
  exact ⟨rfl, rfl⟩

/-- The bytes of a part of a page. -/
lemma bytes_part {m : ℕ} (hm : a % P + m ≤ P) :
    PageCut.bytes ⟨a / P, a % P, m⟩ = (List.range m).map fun k => ((a + k) / P, (a + k) % P) := by
  refine List.map_congr_left fun k hk => ?_
  have hk : k < m := List.mem_range.mp hk
  obtain ⟨hdiv, hmod⟩ := add_div_mod (P := P) (a := a) (k := k) (by omega)
  rw [hdiv, hmod]

/-- **The bytes of the parts** are those of the range, once and in order. -/
lemma bytes_pageCuts (hP : 0 < P) (a n : ℕ) :
    (pageCuts P a n).flatMap PageCut.bytes =
      (List.range n).map fun k => ((a + k) / P, (a + k) % P) := by
  induction a, n using pageCuts_induct hP with
  | zero a =>
      rw [pageCuts_zero]
      rfl
  | last a n hn hlast =>
      rw [pageCuts_last hn hlast, List.flatMap_singleton, bytes_part hlast]
  | next a n hmore ih =>
      have hmod := Nat.mod_lt a hP
      have hfirst : a + (P - a % P) = P * (a / P + 1) := by
        have := Nat.div_add_mod a P
        rw [Nat.mul_succ]
        omega
      have hsplit : n = (P - a % P) + (n - (P - a % P)) := by omega
      rw [pageCuts_next hP hmore, List.flatMap_cons, ih, bytes_part (by omega)]
      conv_rhs => rw [hsplit, List.range_add, List.map_append, List.map_map]
      refine congrArg _ (List.map_congr_left fun k _ => ?_)
      rw [← hfirst, Function.comp_apply, Nat.add_assoc]

/-- **A part has bytes**, and ends with its page at the latest. -/
lemma pageCuts_inside (hP : 0 < P) (a n : ℕ) :
    ∀ cut ∈ pageCuts P a n, 0 < cut.length ∧ cut.offset + cut.length ≤ P := by
  induction a, n using pageCuts_induct hP with
  | zero a =>
      rw [pageCuts_zero]
      exact List.forall_mem_nil _
  | last a n hn hlast =>
      rw [pageCuts_last hn hlast]
      exact List.forall_mem_singleton.mpr ⟨hn, hlast⟩
  | next a n hmore ih =>
      have hmod := Nat.mod_lt a hP
      rw [pageCuts_next hP hmore]
      exact List.forall_mem_cons.mpr
        ⟨⟨Nat.sub_pos_of_lt hmod, (Nat.add_sub_of_le hmod.le).le⟩, ih⟩

/-- The first part starts where the range does. -/
lemma head_pageCuts (hP : 0 < P) (hn : 0 < n) :
    (pageCuts P a n).head?.map PageCut.offset = some (a % P) := by
  by_cases hlast : a % P + n ≤ P
  · rw [pageCuts_last hn hlast]
    rfl
  · rw [pageCuts_next hP (not_le.mp hlast)]
    rfl

/-- The parts of a range that starts with a page start with theirs. -/
lemma offset_pageCuts (hP : 0 < P) (a n : ℕ) (ha : a % P = 0) :
    ∀ cut ∈ pageCuts P a n, cut.offset = 0 := by
  revert ha
  induction a, n using pageCuts_induct hP with
  | zero a =>
      intro _
      rw [pageCuts_zero]
      exact List.forall_mem_nil _
  | last a n hn hlast =>
      intro ha
      rw [pageCuts_last hn hlast]
      exact List.forall_mem_singleton.mpr ha
  | next a n hmore ih =>
      intro ha
      rw [pageCuts_next hP hmore]
      exact List.forall_mem_cons.mpr ⟨ha, ih (Nat.mul_mod_right _ _)⟩

/-- **The parts behind the first one** start with their pages. -/
lemma offset_tail_pageCuts (hP : 0 < P) :
    ∀ cut ∈ (pageCuts P a n).tail, cut.offset = 0 := by
  rcases Nat.eq_zero_or_pos n with rfl | hn
  · rw [pageCuts_zero]
    exact List.forall_mem_nil _
  by_cases hlast : a % P + n ≤ P
  · rw [pageCuts_last hn hlast]
    exact List.forall_mem_nil _
  · rw [pageCuts_next hP (not_le.mp hlast)]
    exact offset_pageCuts hP _ _ (Nat.mul_mod_right _ _)

/-- **How many parts there are.** -/
lemma length_pageCuts (hP : 0 < P) (a n : ℕ) (hn : 0 < n) :
    (pageCuts P a n).length = (a % P + n + (P - 1)) / P := by
  revert hn
  induction a, n using pageCuts_induct hP with
  | zero a => exact fun h => absurd h (lt_irrefl 0)
  | last a n hn hlast =>
      intro _
      have hone : (a % P + n + (P - 1)) / P = 1 := Nat.div_eq_of_lt_le (by omega) (by omega)
      rw [pageCuts_last hn hlast, hone, List.length_singleton]
  | next a n hmore ih =>
      intro _
      have hmod := Nat.mod_lt a hP
      have hsum : a % P + n + (P - 1) = (n - (P - a % P) + (P - 1)) + P := by omega
      rw [pageCuts_next hP hmore, List.length_cons, ih (by omega), Nat.mul_mod_right, Nat.zero_add,
        hsum, Nat.add_div_right _ hP]

end LibAjaNtv2
