import Mathlib.Tactic

/-!
Runs of a transition function in which every step meets a condition.

* `RunsTo`: the states a run can reach;
* `RunsTo.invariant`: **an invariant of every step holds along every run**;
* `RunsTo.trans`: runs compose;
* `RunsTo.foldl`: the run along a list of steps.
-/

namespace LibAjaNtv2

variable {σ α : Type*} {step : σ → α → σ} {ok : σ → α → Prop}

/-- `t` is reached from `s` by steps that each meet `ok` where they are taken. -/
inductive RunsTo (step : σ → α → σ) (ok : σ → α → Prop) (s : σ) : σ → Prop where
  | refl : RunsTo step ok s s
  | tail {t : σ} (a : α) : RunsTo step ok s t → ok t a → RunsTo step ok s (step t a)

/-- **An invariant of every step holds along every run.** -/
theorem RunsTo.invariant {I : σ → Prop} {s t : σ} (hrun : RunsTo step ok s t) (hs : I s)
    (hstep : ∀ u a, ok u a → I u → I (step u a)) : I t := by
  induction hrun with
  | refl => exact hs
  | tail a _ hok ih => exact hstep _ a hok ih

/-- Runs compose. -/
lemma RunsTo.trans {s t u : σ} (h₁ : RunsTo step ok s t) (h₂ : RunsTo step ok t u) :
    RunsTo step ok s u := by
  induction h₂ with
  | refl => exact h₁
  | tail a _ hok ih => exact ih.tail a hok

/-- Each step of the list meets the condition where it is taken. -/
def StepsOk (step : σ → α → σ) (ok : σ → α → Prop) : σ → List α → Prop
  | _, [] => True
  | s, a :: as => ok s a ∧ StepsOk step ok (step s a) as

instance decidableStepsOk [∀ s a, Decidable (ok s a)] :
    (s : σ) → (as : List α) → Decidable (StepsOk step ok s as)
  | _, [] => inferInstanceAs (Decidable True)
  | s, a :: as =>
      have := decidableStepsOk (step s a) as
      inferInstanceAs (Decidable (ok s a ∧ StepsOk step ok (step s a) as))

lemma StepsOk.of_forall (h : ∀ s a, ok s a) {s : σ} {as : List α} : StepsOk step ok s as := by
  induction as generalizing s with
  | nil => exact trivial
  | cons a as ih => exact ⟨h s a, ih⟩

/-- The run along a list of steps. -/
lemma RunsTo.foldl {s : σ} {as : List α} (h : StepsOk step ok s as) :
    RunsTo step ok s (as.foldl step s) := by
  induction as generalizing s with
  | nil => exact .refl
  | cons a as ih => exact (RunsTo.refl.tail a h.1).trans (ih h.2)

end LibAjaNtv2
