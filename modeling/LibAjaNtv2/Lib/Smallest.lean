import Mathlib.Tactic

/-!
The smallest members of a finite set.

* `smallest`: the members with fewer than `k` members before them;
* `smallest_of_card_le`: a set of at most `k` members is kept whole;
* `smallest_union`: **what follows the first `k` members is left out**;
* `smallest_insert_eq_iff`: a greatest member counts while there is room for it.
-/

namespace LibAjaNtv2

variable {α : Type*} [LinearOrder α]

/-- The members of `s` with fewer than `k` members before them. -/
def smallest (k : ℕ) (s : Finset α) : Finset α := {a ∈ s | ({b ∈ s | b < a} : Finset α).card < k}

lemma mem_smallest {k : ℕ} {s : Finset α} {a : α} :
    a ∈ smallest k s ↔ a ∈ s ∧ ({b ∈ s | b < a} : Finset α).card < k := by
  rw [smallest, Finset.mem_filter]

/-- Fewer members than there are stand before one of them. -/
lemma card_before_lt {s : Finset α} {a : α} (ha : a ∈ s) :
    ({b ∈ s | b < a} : Finset α).card < s.card := by
  refine Finset.card_lt_card ⟨Finset.filter_subset _ _, fun h => ?_⟩
  have hlt := (Finset.mem_filter.mp (h ha)).2
  exact lt_irrefl a hlt

/-- A set of at most `k` members is kept whole. -/
lemma smallest_of_card_le {k : ℕ} {s : Finset α} (h : s.card ≤ k) : smallest k s = s := by
  rw [smallest, Finset.filter_eq_self]
  intro a ha
  exact (card_before_lt ha).trans_le h

/-- **What follows the first `k` members is left out.** -/
lemma smallest_union {k : ℕ} {s t : Finset α} (hcard : s.card = k) (h : ∀ a ∈ s, ∀ b ∈ t, a < b) :
    smallest k (s ∪ t) = s := by
  ext a
  rw [mem_smallest, Finset.mem_union]
  constructor
  · rintro ⟨ha | ha, hrank⟩
    · exact ha
    · have hsub : s ⊆ {b ∈ s ∪ t | b < a} := by
        intro b hb
        exact Finset.mem_filter.mpr ⟨Finset.mem_union_left t hb, h b hb a ha⟩
      have hle := Finset.card_le_card hsub
      omega
  · intro ha
    refine ⟨.inl ha, ?_⟩
    have hafter : {b ∈ t | b < a} = ∅ := by
      rw [Finset.filter_eq_empty_iff]
      intro b hb
      exact (h a ha b hb).le.not_gt
    have hbefore : {b ∈ s ∪ t | b < a} = {b ∈ s | b < a} := by
      rw [Finset.filter_union, hafter, Finset.union_empty]
    rw [hbefore, ← hcard]
    exact card_before_lt ha

/-- A greatest member counts while there is room for it. -/
lemma smallest_insert_eq_iff {k : ℕ} {s : Finset α} {a : α} (h : ∀ b ∈ s, b < a) :
    smallest k (insert a s) = smallest k s ↔ k ≤ s.card := by
  have hnot : a ∉ s := fun ha => lt_irrefl a (h a ha)
  have hbefore : {b ∈ insert a s | b < a} = s := by
    rw [Finset.filter_insert, if_neg (lt_irrefl a), Finset.filter_eq_self.mpr h]
  constructor
  · intro heq
    by_contra hroom
    have ha : a ∈ smallest k (insert a s) := by
      rw [mem_smallest, hbefore]
      exact ⟨Finset.mem_insert_self a s, by omega⟩
    rw [heq] at ha
    exact hnot (mem_smallest.mp ha).1
  · intro hfull
    ext c
    rw [mem_smallest, mem_smallest, Finset.mem_insert]
    constructor
    · rintro ⟨rfl | hc, hrank⟩
      · rw [hbefore] at hrank
        omega
      · refine ⟨hc, ?_⟩
        rwa [Finset.filter_insert, if_neg (h c hc).not_gt] at hrank
    · rintro ⟨hc, hrank⟩
      refine ⟨.inr hc, ?_⟩
      rwa [Finset.filter_insert, if_neg (h c hc).not_gt]

end LibAjaNtv2
