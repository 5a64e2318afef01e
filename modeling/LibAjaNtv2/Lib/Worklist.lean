import Mathlib.Tactic

/-!
A worklist that remembers nothing: each element that is taken puts its successors at the end, seen
before or not.

* `worklist`, `visited`: a round, and the elements of some rounds;
* `Reaches`, `Follows`: being reached in any number of steps, and being a successor;
* `mem_visited_iff`: **a worklist that ends has taken what its start reaches**;
* `Cost`, `ends_of_cost`: what an element and all it leads to cost;
* `ends_iff_acyclic`: over a finite type **it ends exactly when no cycle is reached**.
-/

namespace LibAjaNtv2

open Relation

variable {α : Type*} (next : α → List α)

/-- A round: the first element gives way to its successors, which come last. -/
def worklist : List α → List α
  | [] => []
  | x :: queue => queue ++ next x

/-- The elements that some rounds take. -/
def visited : ℕ → List α → List α
  | 0, _ => []
  | _ + 1, [] => []
  | rounds + 1, x :: queue => x :: visited rounds (queue ++ next x)

/-- `y` is a successor of `x`. -/
def Follows (x y : α) : Prop := y ∈ next x

/-- `y` is reached from `x`. -/
def Reaches : α → α → Prop := ReflTransGen (Follows next)

variable {next}

/-! ### What is taken -/

/-- Only what the queue reaches is taken. -/
lemma reaches_of_mem_visited {rounds : ℕ} {queue : List α} {y : α}
    (h : y ∈ visited next rounds queue) :
    ∃ x ∈ queue, Reaches next x y := by
  induction rounds generalizing queue with
  | zero => simp [visited] at h
  | succ rounds ih =>
      cases queue with
      | nil => simp [visited] at h
      | cons x queue =>
          rcases List.mem_cons.mp h with rfl | h
          · exact ⟨y, List.mem_cons_self .., .refl⟩
          · obtain ⟨z, hz, hreach⟩ := ih h
            rcases List.mem_append.mp hz with hz | hz
            · exact ⟨z, List.mem_cons_of_mem x hz, hreach⟩
            · exact ⟨x, List.mem_cons_self .., ReflTransGen.head hz hreach⟩

/-- A worklist that ends has taken its queue and the successors of what it has taken. -/
lemma visited_closed {rounds : ℕ} {queue : List α} (hend : (worklist next)^[rounds] queue = []) :
    (∀ x ∈ queue, x ∈ visited next rounds queue) ∧
      ∀ x ∈ visited next rounds queue, ∀ y ∈ next x, y ∈ visited next rounds queue := by
  induction rounds generalizing queue with
  | zero =>
      have hnil : queue = [] := hend
      subst hnil
      exact ⟨by simp, by simp [visited]⟩
  | succ rounds ih =>
      cases queue with
      | nil => exact ⟨by simp, by simp [visited]⟩
      | cons x queue =>
          obtain ⟨hqueue, hnext⟩ := @ih (queue ++ next x) hend
          refine ⟨fun y hy => ?_, fun y hy z hz => ?_⟩
          · rcases List.mem_cons.mp hy with rfl | hy
            · exact List.mem_cons_self ..
            · exact List.mem_cons_of_mem x (hqueue y (List.mem_append_left _ hy))
          · rcases List.mem_cons.mp hy with rfl | hy
            · exact List.mem_cons_of_mem y (hqueue z (List.mem_append_right _ hz))
            · exact List.mem_cons_of_mem x (hnext y hy z hz)

/-- **A worklist that ends has taken what its start reaches**, and nothing else. -/
theorem mem_visited_iff {rounds : ℕ} {x y : α} (hend : (worklist next)^[rounds] [x] = []) :
    y ∈ visited next rounds [x] ↔ Reaches next x y := by
  obtain ⟨hqueue, hnext⟩ := visited_closed hend
  constructor
  · intro h
    obtain ⟨z, hz, hreach⟩ := reaches_of_mem_visited h
    rwa [List.mem_singleton.mp hz] at hreach
  · intro h
    induction h with
    | refl => exact hqueue x (List.mem_singleton_self x)
    | tail _ hstep ih => exact hnext _ ih _ hstep

/-! ### When it ends -/

/-- Taking all of a queue, and all that it leads to, costs so many rounds. -/
inductive Cost (next : α → List α) : List α → ℕ → Prop
  | nil : Cost next [] 0
  | cons {x : α} {queue : List α} {m n : ℕ} :
      Cost next (next x) m → Cost next queue n → Cost next (x :: queue) (m + n + 1)

/-- Queues cost together what they cost apart. -/
lemma Cost.append {q₁ q₂ : List α} {m n : ℕ} (h₁ : Cost next q₁ m) (h₂ : Cost next q₂ n) :
    Cost next (q₁ ++ q₂) (m + n) := by
  induction h₁ with
  | nil => rwa [List.nil_append, Nat.zero_add]
  | @cons x queue k l hx _ _ ih =>
      have h := Cost.cons hx ih
      rwa [show k + (l + n) + 1 = k + l + 1 + n by omega] at h

/-- A queue that costs `n` rounds is empty after them. -/
lemma ends_of_cost {queue : List α} {n : ℕ} (h : Cost next queue n) :
    (worklist next)^[n] queue = [] := by
  induction n generalizing queue with
  | zero =>
      cases h with
      | nil => rfl
  | succ n ih =>
      cases h with
      | @cons x queue k l hx hqueue =>
          rw [Function.iterate_succ_apply]
          refine ih ?_
          have h := hqueue.append hx
          rwa [show l + k = k + l by omega] at h

/-- What leads to nothing endless costs something finite. -/
lemma exists_cost_of_acc {x : α} (h : Acc (fun y x => Follows next x y) x) :
    ∃ n, Cost next [x] n := by
  induction h with
  | intro x _ ih =>
      have hall : ∀ queue : List α, (∀ y ∈ queue, y ∈ next x) → ∃ n, Cost next queue n := by
        intro queue
        induction queue with
        | nil => exact fun _ => ⟨0, .nil⟩
        | cons y queue ihq =>
            intro hq
            obtain ⟨m, hm⟩ := ih y (hq y (List.mem_cons_self ..))
            obtain ⟨n, hn⟩ := ihq fun z hz => hq z (List.mem_cons_of_mem y hz)
            exact ⟨m + n, hm.append hn⟩
      obtain ⟨n, hn⟩ := hall (next x) fun y hy => hy
      exact ⟨n + 0 + 1, .cons hn .nil⟩

/-- No cycle is reached from `x`. -/
def Acyclic (next : α → List α) (x : α) : Prop :=
  ∀ y, Reaches next x y → ¬ TransGen (Follows next) y y

/-- In a finite type without a reached cycle nothing leads on forever. -/
lemma acc_of_acyclic [Finite α] {x : α} (h : Acyclic next x) :
    Acc (fun y x => Follows next x y) x := by
  -- the successors of what `x` reaches, in the order in which they follow
  let r : α → α → Prop := TransGen fun z y => Reaches next x y ∧ Follows next y z
  have htrans : IsTrans α r := ⟨fun _ _ _ => TransGen.trans⟩
  have hpath : ∀ {z y}, r z y → Reaches next x y ∧ TransGen (Follows next) y z := by
    intro z y hzy
    induction hzy with
    | single hstep => exact ⟨hstep.1, .single hstep.2⟩
    | tail _ hstep ih => exact ⟨hstep.1, .head hstep.2 ih.2⟩
  have hirrefl : Std.Irrefl r := ⟨fun y hy => h y (hpath hy).1 (hpath hy).2⟩
  have hwf : WellFounded r := Finite.wellFounded_of_trans_of_irrefl r
  have hacc : ∀ y, Reaches next x y → Acc (fun y x => Follows next x y) y := by
    intro y
    induction y using hwf.induction with
    | _ y ih =>
        intro hreach
        refine Acc.intro y fun z hz => ?_
        exact ih z (.single ⟨hreach, hz⟩) (hreach.tail hz)
  exact hacc x .refl

/-- A queue with an element that leads to a cycle never gets rid of one. -/
lemma leads_to_cycle {y : α} (hcycle : TransGen (Follows next) y y) {rounds : ℕ} {queue : List α}
    (h : ∃ x ∈ queue, Reaches next x y) :
    ∃ x ∈ (worklist next)^[rounds] queue, Reaches next x y := by
  induction rounds generalizing queue with
  | zero => exact h
  | succ rounds ih =>
      rw [Function.iterate_succ_apply]
      refine ih ?_
      obtain ⟨x, hx, hreach⟩ := h
      cases queue with
      | nil => cases hx
      | cons x' queue =>
          rcases List.mem_cons.mp hx with rfl | hx
          · -- the first element leads on, the long way around the cycle
            have hpath : TransGen (Follows next) x y := .trans_right hreach hcycle
            obtain ⟨z, hz, hzy⟩ := TransGen.head'_iff.mp hpath
            exact ⟨z, List.mem_append_right _ hz, hzy⟩
          · exact ⟨x, List.mem_append_left _ hx, hreach⟩

/-- Over a finite type **a worklist ends exactly when its start reaches no cycle**. -/
theorem ends_iff_acyclic [Finite α] (x : α) :
    (∃ rounds, (worklist next)^[rounds] [x] = []) ↔ Acyclic next x := by
  constructor
  · rintro ⟨rounds, hend⟩ y hreach hcycle
    have hleads : ∃ z ∈ (worklist next)^[rounds] [x], Reaches next z y :=
      leads_to_cycle hcycle ⟨x, List.mem_singleton_self x, hreach⟩
    obtain ⟨z, hz, -⟩ := hleads
    rw [hend] at hz
    cases hz
  · intro h
    obtain ⟨n, hn⟩ := exists_cost_of_acc (acc_of_acyclic h)
    exact ⟨n, ends_of_cost hn⟩

end LibAjaNtv2
