import Mathlib.Data.List.DropRight
import Mathlib.Tactic
import LibAjaNtv2.Lib.Runs

/-!
Patterns in lists: the first place of one, the replacement of all of them, and the trimming of a
list.

* `findSub`, `findSub_ne_none_iff`, `findSub_append`: **the first place of a pattern** is where it
  stands behind elements that it does not begin with;
* `replaceSub`, `replaceSub_append`, `replaceSub_singleton`: replacements start where the pattern
  can, and those of one element by nothing filter the list;
* `trim`, `trim_append`: a list without the elements with a property at its ends;
* `runs_filter_trim`: **trimming and deleting what is trimmed keep the runs**.
-/

namespace LibAjaNtv2

variable {α : Type*}

/-! ### The first place -/

section Find

variable [DecidableEq α] {pat pre suf l : List α} {x : α}

/-- The first place of a pattern. -/
def findSub (pat : List α) : List α → Option ℕ
  | [] => if pat = [] then some 0 else none
  | x :: l => if pat.isPrefixOf (x :: l) then some 0 else (findSub pat l).map (· + 1)

/-- A pattern is found where it is part of the list. -/
lemma findSub_ne_none_iff : findSub pat l ≠ none ↔ pat <:+: l := by
  induction l with
  | nil => simp [findSub]
  | cons x l ih =>
      rw [findSub, List.infix_cons_iff, ← ih]
      by_cases h : pat.isPrefixOf (x :: l) = true
      · simp [h, List.isPrefixOf_iff_prefix.mp h]
      · have hnot : ¬ pat <+: x :: l := fun hp => h (List.isPrefixOf_iff_prefix.mpr hp)
        simp [h, hnot]

lemma findSub_eq_none (hx : x ∈ pat) (hl : x ∉ l) : findSub pat l = none := by
  by_contra h
  exact hl ((findSub_ne_none_iff.mp h).mem hx)

/-- **A pattern is found** behind elements that it does not begin with. -/
lemma findSub_append (hx : x ∉ pre) : findSub (x :: pat) (pre ++ (x :: pat ++ suf)) =
    some pre.length := by
  induction pre with
  | nil => simp [findSub]
  | cons y pre ih =>
      obtain ⟨hy, hpre⟩ := not_or.mp (mt List.mem_cons.mpr hx)
      have hno : (x :: pat).isPrefixOf (y :: (pre ++ (x :: pat ++ suf))) = false := by
        simp [List.isPrefixOf, hy]
      rw [List.cons_append, findSub, hno, ih hpre]
      rfl

end Find

/-! ### Replacement -/

section Replace

variable [DecidableEq α] {pat new l rest : List α} {x : α}

/-- Replace a pattern from left to right; the number says how much of the pattern just replaced is
still to be passed over. -/
def replaceFrom (pat new : List α) : ℕ → List α → List α
  | _, [] => []
  | skip + 1, _ :: l => replaceFrom pat new skip l
  | 0, x :: l =>
      if pat.isPrefixOf (x :: l) then new ++ replaceFrom pat new (pat.length - 1) l
      else x :: replaceFrom pat new 0 l

/-- Replace a pattern wherever it stands. -/
def replaceSub (pat new l : List α) : List α := if pat = [] then l else replaceFrom pat new 0 l

/-- Nothing is replaced among elements that the pattern does not begin with. -/
lemma replaceSub_append (hl : x ∉ l) :
    replaceSub (x :: pat) new (l ++ rest) = l ++ replaceSub (x :: pat) new rest := by
  rw [replaceSub, replaceSub, if_neg (by simp), if_neg (by simp)]
  induction l with
  | nil => rfl
  | cons y l ih =>
      obtain ⟨hy, hl⟩ := not_or.mp (mt List.mem_cons.mpr hl)
      have hno : (x :: pat).isPrefixOf (y :: (l ++ rest)) = false := by
        simp [List.isPrefixOf, hy]
      rw [List.cons_append, replaceFrom, hno, ih hl]
      rfl

lemma replaceSub_of_notMem (hl : x ∉ l) : replaceSub (x :: pat) new l = l := by
  have h : replaceSub (x :: pat) new (l ++ []) = l ++ replaceSub (x :: pat) new [] :=
    replaceSub_append hl
  simpa [replaceSub, replaceFrom] using h

/-- One element replaced by nothing is filtered. -/
lemma replaceSub_singleton (x : α) (l : List α) : replaceSub [x] [] l = l.filter (· ≠ x) := by
  rw [replaceSub, if_neg (by simp)]
  induction l with
  | nil => rfl
  | cons y l ih =>
      rw [replaceFrom, List.filter_cons]
      by_cases h : y = x
      · simpa [h, List.isPrefixOf] using ih
      · simpa [h, Ne.symm h, List.isPrefixOf] using ih

end Replace

/-! ### Trimming -/

section Trim

variable {p : α → Bool} {l head rest : List α} {x y : α}

/-- The list without the elements with `p` at its ends. -/
def trim (p : α → Bool) (l : List α) : List α := (l.dropWhile p).rdropWhile p

/-- What is trimmed has the property. -/
lemma exists_trim (p : α → Bool) (l : List α) :
    ∃ pre suf, l = pre ++ trim p l ++ suf ∧ (∀ x ∈ pre, p x = true) ∧ ∀ x ∈ suf, p x = true := by
  refine ⟨l.takeWhile p, (l.dropWhile p).rtakeWhile p, ?_, ?_, ?_⟩
  · have hright : trim p l ++ (l.dropWhile p).rtakeWhile p = l.dropWhile p :=
      List.rdropWhile_append_rtakeWhile
    rw [List.append_assoc, hright, List.takeWhile_append_dropWhile]
  · exact fun x hx => List.mem_takeWhile_imp hx
  · exact fun x hx => List.mem_rtakeWhile_imp hx

/-- Without the property nothing is trimmed. -/
lemma trim_of_none (h : ∀ x ∈ l, p x = false) : trim p l = l := by
  have hleft : l.dropWhile p = l := by
    rw [List.dropWhile_eq_self_iff]
    exact fun hl => by simp [h _ (List.getElem_mem hl)]
  rw [trim, hleft, List.rdropWhile_eq_self_iff]
  exact fun hl => by simp [h _ (List.getLast_mem hl)]

/-- At the end nothing is trimmed beyond an element without the property. -/
lemma rdropWhile_append (hlast : ∀ x ∈ head.getLast?, p x = false) (rest : List α) :
    ∃ part, part <+: rest ∧ (head ++ rest).rdropWhile p = head ++ part := by
  induction rest using List.reverseRecOn with
  | nil =>
      refine ⟨[], List.prefix_refl [], ?_⟩
      rw [List.append_nil, List.rdropWhile_eq_self_iff]
      exact fun hl => by simp [hlast _ (List.getLast_mem_getLast? hl)]
  | append_singleton rest x ih =>
      obtain ⟨part, hpart, htrim⟩ := ih
      rw [← List.append_assoc]
      cases hx : p x with
      | true =>
          refine ⟨part, hpart.trans (List.prefix_append ..), ?_⟩
          rw [List.rdropWhile_concat_pos p _ x hx, htrim]
      | false =>
          refine ⟨rest ++ [x], List.prefix_refl _, ?_⟩
          rw [List.rdropWhile_concat_neg p _ x (by simp [hx]), List.append_assoc]

/-- A list without the property at its ends stays, and of what follows it the start. -/
lemma trim_append (hne : head ≠ []) (hfirst : ∀ x ∈ head.head?, p x = false)
    (hlast : ∀ x ∈ head.getLast?, p x = false) (rest : List α) :
    ∃ part, part <+: rest ∧ trim p (head ++ rest) = head ++ part := by
  have hleft : (head ++ rest).dropWhile p = head ++ rest := by
    cases head with
    | nil => exact absurd rfl hne
    | cons x head => simp [hfirst x rfl]
  rw [trim, hleft]
  exact rdropWhile_append hlast rest

/-- **Trimming and deleting what is trimmed keep the runs.** -/
lemma runs_filter_trim {keep q : α → Bool} (h : ∀ x, p x = true → keep x = true → q x = false) :
    runs q ((trim p l).filter keep) = runs q (l.filter keep) := by
  obtain ⟨pre, suf, hl, hpre, hsuf⟩ := exists_trim p l
  have hgap : ∀ xs : List α, (∀ x ∈ xs, p x = true) → ∀ x ∈ xs.filter keep, q x = false := by
    intro xs hxs x hx
    obtain ⟨hmem, hkeep⟩ := List.mem_filter.mp hx
    exact h x (hxs x hmem) hkeep
  calc runs q ((trim p l).filter keep)
      = runs q (pre.filter keep ++ (trim p l).filter keep ++ suf.filter keep) := by
        rw [runs_append_gap (hgap suf hsuf), runs_gap_append (hgap pre hpre)]
    _ = runs q (l.filter keep) := by
        rw [← List.filter_append, ← List.filter_append, ← hl]

end Trim

end LibAjaNtv2
