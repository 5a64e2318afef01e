import LibAjaNtv2.Lib.Substring

/-!
The pieces of a list between the places of a pattern.

* `findSub_eq_some_iff`: the first place of a pattern is one where it stands, behind others where it
  does not;
* `Pieces`: the list cut at the pattern, from left to right;
* `Pieces.intercalate`, `Pieces.not_infix`: **the pieces put together again are the list**, and none
  has the pattern in it;
* `exists_pieces`: every list has pieces; `Separable.pieces`: those of lists put together.
-/

namespace LibAjaNtv2

variable {α : Type*} {pat l piece rest : List α} {ps : List (List α)}

/-- **The first place of a pattern.** -/
lemma findSub_eq_some_iff [DecidableEq α] {i : ℕ} : findSub pat l = some i ↔
    i ≤ l.length ∧ pat <+: l.drop i ∧ ∀ j < i, ¬ pat <+: l.drop j := by
  induction l generalizing i with
  | nil =>
      rw [findSub]
      by_cases hpat : pat = []
      · subst hpat
        rw [if_pos rfl, Option.some.injEq, List.length_nil, Nat.le_zero]
        constructor
        · rintro rfl
          exact ⟨rfl, List.nil_prefix, fun j hj => absurd hj (Nat.not_lt_zero j)⟩
        · exact fun h => h.1.symm
      · rw [if_neg hpat]
        refine iff_of_false (by simp) fun h => hpat ?_
        have hnil := h.2.1
        rw [List.drop_nil] at hnil
        exact List.prefix_nil.mp hnil
  | cons x l ih =>
      rw [findSub]
      by_cases hhere : pat <+: x :: l
      · rw [if_pos (List.isPrefixOf_iff_prefix.mpr hhere), Option.some.injEq]
        constructor
        · rintro rfl
          exact ⟨Nat.zero_le _, hhere, fun j hj => absurd hj (Nat.not_lt_zero j)⟩
        · rintro ⟨-, -, hfirst⟩
          by_contra hne
          exact hfirst 0 (Nat.pos_of_ne_zero fun h => hne h.symm) hhere
      · rw [if_neg fun h => hhere (List.isPrefixOf_iff_prefix.mp h), Option.map_eq_some_iff]
        constructor
        · rintro ⟨k, hk, rfl⟩
          obtain ⟨hle, hpre, hfirst⟩ := ih.mp hk
          refine ⟨Nat.succ_le_succ hle, hpre, fun j hj => ?_⟩
          cases j with
          | zero => exact hhere
          | succ j => exact hfirst j (Nat.lt_of_succ_lt_succ hj)
        · rintro ⟨hle, hpre, hfirst⟩
          cases i with
          | zero => exact absurd hpre hhere
          | succ k =>
              exact ⟨k, ih.mpr ⟨Nat.le_of_succ_le_succ hle, hpre,
                fun j hj => hfirst (j + 1) (Nat.succ_lt_succ hj)⟩, rfl⟩

/-- A list cut at a pattern: each piece ends where the pattern stands for the first time. -/
inductive Pieces (pat : List α) : List α → List (List α) → Prop
  | last {l : List α} (h : ¬ pat <:+: l) : Pieces pat l [l]
  | cut {piece rest : List α} {ps : List (List α)}
      (h : ∀ j < piece.length, ¬ pat <+: (piece ++ pat ++ rest).drop j)
      (hrest : Pieces pat rest ps) : Pieces pat (piece ++ pat ++ rest) (piece :: ps)

namespace Pieces

lemma ne_nil (h : Pieces pat l ps) : ps ≠ [] := by
  cases h with
  | last => exact List.cons_ne_nil _ _
  | cut => exact List.cons_ne_nil _ _

/-- **The pieces put together again** are the list. -/
lemma intercalate (h : Pieces pat l ps) : pat.intercalate ps = l := by
  induction h with
  | last h => exact List.intercalate_singleton
  | @cut piece rest ps h hrest ih =>
      cases ps with
      | nil => exact absurd rfl hrest.ne_nil
      | cons q qs => rw [List.intercalate_cons_cons, ih]

/-- There are not more pieces than elements, and one. -/
lemma length_le (hpat : pat ≠ []) (h : Pieces pat l ps) : ps.length ≤ l.length + 1 := by
  have hpos := List.length_pos_iff.mpr hpat
  induction h with
  | last h => exact Nat.le_add_left _ _
  | cut h hrest ih =>
      rw [List.length_cons, List.length_append, List.length_append]
      omega

/-- A pattern in a piece stands before its end. -/
lemma exists_place (hpat : pat ≠ []) (h : pat <:+: piece) :
    ∃ j < piece.length, pat <+: piece.drop j := by
  obtain ⟨before, after, rfl⟩ := h
  have hpos := List.length_pos_iff.mpr hpat
  refine ⟨before.length, ?_, ?_⟩
  · rw [List.length_append, List.length_append]
    omega
  · rw [List.append_assoc, List.drop_left]
    exact List.prefix_append pat after

/-- **No piece has the pattern in it.** -/
lemma not_infix (hpat : pat ≠ []) (h : Pieces pat l ps) : ∀ p ∈ ps, ¬ pat <:+: p := by
  induction h with
  | last h => exact fun p hp => List.mem_singleton.mp hp ▸ h
  | @cut piece rest ps h hrest ih =>
      refine List.forall_mem_cons.mpr ⟨fun hin => ?_, ih⟩
      obtain ⟨j, hj, hpre⟩ := exists_place hpat hin
      refine h j hj ?_
      rw [List.append_assoc, List.drop_append_of_le_length hj.le]
      exact hpre.trans (List.prefix_append _ _)

end Pieces

/-- Every list has pieces. -/
lemma exists_pieces [DecidableEq α] (hpat : pat ≠ []) (l : List α) : ∃ ps, Pieces pat l ps := by
  induction hn : l.length using Nat.strong_induction_on generalizing l with
  | _ n ih =>
      cases hfind : findSub pat l with
      | none => exact ⟨[l], .last fun hin => findSub_ne_none_iff.mpr hin hfind⟩
      | some i =>
          obtain ⟨hle, ⟨rest, hrest⟩, hfirst⟩ := findSub_eq_some_iff.mp hfind
          have hsplit : l.take i ++ pat ++ rest = l := by
            rw [List.append_assoc, hrest, List.take_append_drop]
          have hlen : (l.take i).length = i := List.length_take_of_le hle
          have hpos := List.length_pos_iff.mpr hpat
          obtain ⟨ps, hps⟩ := ih rest.length (by
            have := congrArg List.length hsplit
            rw [List.length_append, List.length_append] at this
            omega) rest rfl
          have hcut : Pieces pat (l.take i ++ pat ++ rest) (l.take i :: ps) := by
            refine .cut (fun j hj => ?_) hps
            rw [hsplit]
            exact hfirst j (hlen ▸ hj)
          rw [hsplit] at hcut
          exact ⟨l.take i :: ps, hcut⟩

/-- Lists that can be told apart when they are put together with a pattern between them: none has it
in it, and none makes another place of it with the one that follows. -/
structure Separable (pat : List α) (ps : List (List α)) : Prop where
  not_infix : ∀ p ∈ ps, ¬ pat <:+: p
  not_across : ∀ p ∈ ps.dropLast, ∀ j < p.length, ¬ pat <+: (p ++ pat).drop j

/-- **The pieces of lists put together** are those lists. -/
lemma Separable.pieces (h : Separable pat ps) (hne : ps ≠ []) :
    Pieces pat (pat.intercalate ps) ps := by
  induction ps with
  | nil => exact absurd rfl hne
  | cons p ps ih =>
      cases ps with
      | nil =>
          rw [List.intercalate_singleton]
          exact .last (h.not_infix p List.mem_cons_self)
      | cons q qs =>
          rw [List.intercalate_cons_cons]
          have hrest : Separable pat (q :: qs) :=
            ⟨fun r hr => h.not_infix r (List.mem_cons_of_mem _ hr),
              fun r hr => h.not_across r (by
                rw [List.dropLast_cons_cons]
                exact List.mem_cons_of_mem _ hr)⟩
          refine .cut (fun j hj hpre => ?_) (ih hrest (List.cons_ne_nil _ _))
          -- the pattern that is found there ends before the next list
          refine h.not_across p (by rw [List.dropLast_cons_cons]; exact List.mem_cons_self) j hj ?_
          rw [List.drop_append_of_le_length (by rw [List.length_append]; omega)] at hpre
          refine List.prefix_of_prefix_length_le hpre (List.prefix_append _ _) ?_
          rw [List.length_drop, List.length_append]
          omega

end LibAjaNtv2
