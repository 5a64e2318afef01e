import Mathlib.Tactic

/-!
Sets of numbers as ranges.

* `NumberRange`: a range that is not empty;
* `RangesOf`: ranges in ascending order, with gaps between them, that make up a set;
* `RangesOf.single`, `RangesOf.extend`, `RangesOf.append`: **how they grow** by a number: a first
  one, the next one of the last range, or one behind a gap.
-/

namespace LibAjaNtv2

/-- A range of numbers that is not empty. -/
structure NumberRange where
  first : ℕ
  last : ℕ
  first_le : first ≤ last

/-- A number is in the range. -/
def NumberRange.Has (r : NumberRange) (n : ℕ) : Prop := r.first ≤ n ∧ n ≤ r.last

/-- The range of one number. -/
def NumberRange.single (n : ℕ) : NumberRange := ⟨n, n, le_rfl⟩

/-- The ranges make up a set, and are as long as they can be: there is a gap between two. -/
structure RangesOf (rs : List NumberRange) (s : Set ℕ) : Prop where
  apart : rs.Pairwise fun r t => r.last + 1 < t.first
  mem_iff : ∀ n, n ∈ s ↔ ∃ r ∈ rs, r.Has n

namespace RangesOf

variable {rs : List NumberRange} {r : NumberRange} {s : Set ℕ} {n : ℕ}

/-- A first number. -/
lemma single (n : ℕ) : RangesOf [NumberRange.single n] {n} := by
  refine ⟨List.pairwise_singleton _ _, fun m => ?_⟩
  rw [Set.mem_singleton_iff]
  constructor
  · rintro rfl
    exact ⟨_, List.mem_singleton_self _, le_rfl, le_rfl⟩
  · rintro ⟨t, ht, hfirst, hlast⟩
    obtain rfl := List.mem_singleton.mp ht
    exact le_antisymm hlast hfirst

/-- **The next number** of the last range. -/
lemma extend (h : RangesOf (rs ++ [r]) s) :
    RangesOf (rs ++ [⟨r.first, r.last + 1, r.first_le.trans (Nat.le_succ _)⟩])
      (insert (r.last + 1) s) := by
  obtain ⟨hrs, -, hgap⟩ := List.pairwise_append.mp h.apart
  refine ⟨List.pairwise_append.mpr ⟨hrs, List.pairwise_singleton _ _, fun t ht u hu => ?_⟩,
    fun n => ?_⟩
  · obtain rfl := List.mem_singleton.mp hu
    exact hgap t ht r (List.mem_singleton_self r)
  · rw [Set.mem_insert_iff, h.mem_iff]
    simp only [List.mem_append, List.mem_singleton, or_and_right, exists_or, exists_eq_left,
      NumberRange.Has]
    have := r.first_le
    constructor
    · rintro (rfl | hold | ⟨hfirst, hlast⟩)
      · exact .inr ⟨by omega, le_rfl⟩
      · exact .inl hold
      · exact .inr ⟨hfirst, by omega⟩
    · rintro (hold | ⟨hfirst, hlast⟩)
      · exact .inr (.inl hold)
      · by_cases hn : n = r.last + 1
        · exact .inl hn
        · exact .inr (.inr ⟨hfirst, by omega⟩)

/-- **A number behind a gap.** -/
lemma append (h : RangesOf (rs ++ [r]) s) (hn : r.last + 1 < n) :
    RangesOf (rs ++ [r] ++ [NumberRange.single n]) (insert n s) := by
  obtain ⟨-, -, hgap⟩ := List.pairwise_append.mp h.apart
  refine ⟨List.pairwise_append.mpr ⟨h.apart, List.pairwise_singleton _ _, fun t ht u hu => ?_⟩,
    fun m => ?_⟩
  · obtain rfl := List.mem_singleton.mp hu
    show t.last + 1 < n
    rcases List.mem_append.mp ht with ht | ht
    · have hlt := hgap t ht r (List.mem_singleton_self r)
      have := r.first_le
      omega
    · obtain rfl := List.mem_singleton.mp ht
      exact hn
  · rw [Set.mem_insert_iff, h.mem_iff]
    constructor
    · rintro (rfl | ⟨t, ht, hhas⟩)
      · exact ⟨_, List.mem_append_right _ (List.mem_singleton_self _), le_rfl, le_rfl⟩
      · exact ⟨t, List.mem_append_left _ ht, hhas⟩
    · rintro ⟨t, ht, hhas⟩
      rcases List.mem_append.mp ht with ht | ht
      · exact .inr ⟨t, ht, hhas⟩
      · obtain rfl := List.mem_singleton.mp ht
        exact .inl (le_antisymm hhas.2 hhas.1)

end RangesOf

end LibAjaNtv2
