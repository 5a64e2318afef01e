import Mathlib.Tactic

/-!
The runs of a list: its longest stretches of elements with a property.

* `runs`: the runs in order, none of them empty;
* `runs_append_cons`: an element without the property separates runs;
* `runs_append_run`, `runs_append_gap`: what a run or a gap at the end adds, and
  `runs_run_append`, `runs_gap_append` at the start;
* `exists_lastRun`: the last run of a list.
-/

namespace LibAjaNtv2

variable {α : Type*} {p : α → Bool} {l xs ys run gap pre : List α} {x : α}

/-- The longest stretches of elements with `p`. -/
def runs (p : α → Bool) (l : List α) : List (List α) :=
  (l.splitOnP (fun x => !p x)).filter (fun run => !run.isEmpty)

@[simp] lemma runs_nil : runs p [] = [] := by
  simp [runs, List.splitOnP_nil]

/-- An element without `p` separates. -/
lemma runs_append_cons (xs ys : List α) (h : p x = false) :
    runs p (xs ++ x :: ys) = runs p xs ++ runs p ys := by
  rw [runs, List.splitOnP_append_cons xs ys (by simp [h]), List.filter_append]
  rfl

/-- Elements with `p` are one run. -/
lemma runs_of_all (hne : run ≠ []) (h : ∀ x ∈ run, p x = true) : runs p run = [run] := by
  rw [runs, List.splitOnP_eq_singleton (by simpa using h)]
  simp [hne]

/-- Elements without `p` are none. -/
lemma runs_of_none (h : ∀ x ∈ gap, p x = false) : runs p gap = [] := by
  induction gap with
  | nil => exact runs_nil
  | cons x gap ih =>
      have hx := h x (List.mem_cons_self ..)
      have hsplit := runs_append_cons [] gap hx
      rw [List.nil_append, runs_nil, List.nil_append] at hsplit
      rw [hsplit]
      exact ih (fun y hy => h y (List.mem_cons_of_mem x hy))

/-- A gap at the end adds nothing. -/
lemma runs_append_gap (h : ∀ x ∈ gap, p x = false) : runs p (l ++ gap) = runs p l := by
  cases gap with
  | nil => rw [List.append_nil]
  | cons x gap =>
      have hgap : runs p gap = [] :=
        runs_of_none (fun y hy => h y (List.mem_cons_of_mem x hy))
      rw [runs_append_cons l gap (h x (List.mem_cons_self ..)), hgap, List.append_nil]

/-- Neither does one at the start. -/
lemma runs_gap_append (h : ∀ x ∈ gap, p x = false) : runs p (gap ++ l) = runs p l := by
  induction gap with
  | nil => rw [List.nil_append]
  | cons x gap ih =>
      have hsplit := runs_append_cons [] (gap ++ l) (h x (List.mem_cons_self ..))
      rw [List.nil_append, runs_nil, List.nil_append] at hsplit
      rw [List.cons_append, hsplit]
      exact ih (fun y hy => h y (List.mem_cons_of_mem x hy))

lemma runs_run_append (hne : run ≠ []) (h : ∀ x ∈ run, p x = true) (hx : p x = false) :
    runs p (run ++ x :: l) = run :: runs p l := by
  rw [runs_append_cons run l hx, runs_of_all hne h, List.singleton_append]

/-- A run behind a separator is the last one. -/
lemma runs_append_run (hne : run ≠ []) (h : ∀ x ∈ run, p x = true)
    (hpre : ∀ x ∈ pre.getLast?, p x = false) : runs p (pre ++ run) = runs p pre ++ [run] := by
  rcases List.eq_nil_or_concat pre with rfl | ⟨front, x, rfl⟩
  · rw [runs_nil, List.nil_append, List.nil_append, runs_of_all hne h]
  · have hx : p x = false := hpre x (by simp)
    have hfront : runs p (front ++ [x]) = runs p front :=
      runs_append_gap (by simpa using hx)
    rw [List.concat_eq_append, List.append_assoc, List.singleton_append,
      runs_append_cons front run hx, runs_of_all hne h, hfront]

/-- A list without a run at its end, or with its last run cut out. -/
structure LastRun (p : α → Bool) (l pre run gap : List α) : Prop where
  parts : l = pre ++ run ++ gap
  run_ne_nil : run ≠ []
  run_all : ∀ x ∈ run, p x = true
  gap_none : ∀ x ∈ gap, p x = false
  pre_last : ∀ x ∈ pre.getLast?, p x = false

lemma LastRun.runs_eq (h : LastRun p l pre run gap) : runs p l = runs p pre ++ [run] := by
  rw [h.parts, runs_append_gap h.gap_none, runs_append_run h.run_ne_nil h.run_all h.pre_last]

/-- **A list with any element of the property has a last run.** -/
theorem exists_lastRun (p : α → Bool) (l : List α) :
    (∀ x ∈ l, p x = false) ∨ ∃ pre run gap, LastRun p l pre run gap := by
  induction l using List.reverseRecOn with
  | nil => exact .inl (by simp)
  | append_singleton l x ih =>
      cases hx : p x with
      | false =>
          rcases ih with hnone | ⟨pre, run, gap, h⟩
          · refine .inl fun y hy => ?_
            rcases List.mem_append.mp hy with hy | hy
            · exact hnone y hy
            · rwa [List.mem_singleton.mp hy]
          · refine .inr ⟨pre, run, gap ++ [x], ?_, h.run_ne_nil, h.run_all, ?_, h.pre_last⟩
            · rw [h.parts, List.append_assoc]
            · intro y hy
              rcases List.mem_append.mp hy with hy | hy
              · exact h.gap_none y hy
              · rwa [List.mem_singleton.mp hy]
      | true =>
          have hone : ∀ y ∈ [x], p y = true := by simpa using hx
          rcases ih with hnone | ⟨pre, run, gap, h⟩
          · refine .inr ⟨l, [x], [], by simp, by simp, hone, by simp, ?_⟩
            exact fun y hy => hnone y (List.mem_of_getLast? hy)
          · rcases List.eq_nil_or_concat gap with rfl | ⟨front, y, rfl⟩
            · refine .inr ⟨pre, run ++ [x], [], ?_, by simp, ?_, by simp, h.pre_last⟩
              · rw [h.parts, List.append_nil, List.append_nil, List.append_assoc]
              · intro y hy
                rcases List.mem_append.mp hy with hy | hy
                · exact h.run_all y hy
                · exact hone y hy
            · refine .inr ⟨l, [x], [], by simp, by simp, hone, by simp, ?_⟩
              intro z hz
              rw [h.parts, List.concat_eq_append, ← List.append_assoc, List.getLast?_concat] at hz
              obtain rfl : y = z := by simpa using hz
              exact h.gap_none y (by simp)

end LibAjaNtv2
