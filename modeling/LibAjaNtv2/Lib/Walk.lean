import Mathlib.Tactic

/-!
Walks over the slots of a table that change the slots they pass.

* `walk`: from a slot on, while a test holds and up to a last slot;
* `WalkPath`: the slots of the walk in their order, each once;
* `WalkEnd`: where the walk stops, and what it leaves;
* `WalkPath.walk_end`: **a walk changes the slots before the first one that fails the test**;
* `WalkPath.walk_fuel`: as many rounds as there are slots are enough;
* `WalkPath.walk_idem`: where a changed slot fails the test, a second walk changes nothing;
* `walkCount`: a count over the slots of a walk that meet a test;
* `walkCount_single`: the count where one slot alone can meet it.
-/

namespace LibAjaNtv2

variable {α β : Type*} [DecidableEq α] {next : α → α} {test : β → Bool} {change : β → β}
  {stop x : α} {path : ℕ → α} {n k m fuel : ℕ} {table : α → β}

/-- From a slot on, change the slots that meet the test, up to the first that does not, or the last
slot. -/
def walk (next : α → α) (test : β → Bool) (change : β → β) (stop : α) :
    ℕ → α → (α → β) → (α → β)
  | 0, _, table => table
  | fuel + 1, x, table =>
      if x ≠ stop ∧ test (table x) = true then
        walk next test change stop fuel (next x) (Function.update table x (change (table x)))
      else table

/-- The slots of a walk, from number one to the last. -/
structure WalkPath (next : α → α) (stop : α) (path : ℕ → α) (n : ℕ) : Prop where
  next_eq : ∀ k < n, next (path k) = path (k + 1)
  stop_eq : path n = stop
  inj : ∀ j k, 0 < j → j ≤ n → 0 < k → k ≤ n → path j = path k → j = k

/-- A walk from slot `k` stops at slot `m`: it has changed the slots before, which all meet the
test, and no others. -/
structure WalkEnd (test : β → Bool) (change : β → β) (path : ℕ → α) (n : ℕ) (table result : α → β)
    (k m : ℕ) : Prop where
  le : k ≤ m
  le_last : m ≤ n
  stops : m = n ∨ test (table (path m)) = false
  passes : ∀ j, k ≤ j → j < m → test (table (path j)) = true
  changed : ∀ j, k ≤ j → j < m → result (path j) = change (table (path j))
  same : ∀ x, (∀ j, k ≤ j → j < m → x ≠ path j) → result x = table x

namespace WalkPath

omit [DecidableEq α] in
/-- Slots before the last are not the last. -/
lemma ne_stop (h : WalkPath next stop path n) (hk : 0 < k) (hkn : k < n) : path k ≠ stop := by
  intro heq
  rw [← h.stop_eq] at heq
  have := h.inj k n hk hkn.le (by omega) le_rfl heq
  omega

variable (test change table) in
/-- **A walk changes the slots before the first one that fails the test.** -/
lemma walk_end (h : WalkPath next stop path n) (hk : 0 < k) (hkn : k ≤ n) (hfuel : n - k ≤ fuel) :
    ∃ m, WalkEnd test change path n table
      (walk next test change stop fuel (path k) table) k m := by
  induction fuel generalizing k table with
  | zero =>
      obtain rfl : k = n := by omega
      exact ⟨k, le_rfl, le_rfl, .inl rfl, fun j hj hjk => absurd hj (by omega),
        fun j hj hjk => absurd hj (by omega), fun _ _ => rfl⟩
  | succ fuel ih =>
      rw [walk]
      rcases eq_or_lt_of_le hkn with rfl | hlt
      · rw [if_neg (by rw [h.stop_eq]; simp)]
        exact ⟨k, le_rfl, le_rfl, .inl rfl, fun j hj hjk => absurd hj (by omega),
          fun j hj hjk => absurd hj (by omega), fun _ _ => rfl⟩
      cases htest : test (table (path k)) with
      | false =>
          rw [if_neg (by simp)]
          exact ⟨k, le_rfl, hkn, .inr htest, fun j hj hjk => absurd hj (by omega),
            fun j hj hjk => absurd hj (by omega), fun _ _ => rfl⟩
      | true =>
          rw [if_pos ⟨h.ne_stop hk hlt, rfl⟩, h.next_eq k hlt]
          obtain ⟨m, hm⟩ := @ih (k + 1)
            (Function.update table (path k) (change (table (path k))))
            (by omega) hlt (by omega)
          have hother : ∀ j, k + 1 ≤ j → j ≤ n →
              Function.update table (path k) (change (table (path k))) (path j) =
                table (path j) := by
            intro j hj hjn
            refine Function.update_of_ne (fun heq => ?_) _ _
            have := h.inj j k (by omega) hjn hk hkn heq
            omega
          have hlast := hm.le_last
          refine ⟨m, by have := hm.le; omega, hlast, ?_, fun j hj hjm => ?_, fun j hj hjm => ?_,
            fun x hx => ?_⟩
          · rcases hm.stops with hend | hend
            · exact .inl hend
            · rw [hother m hm.le hlast] at hend
              exact .inr hend
          · rcases eq_or_lt_of_le hj with rfl | hj
            · exact htest
            · rw [← hother j hj (by omega)]
              exact hm.passes j hj hjm
          · rcases eq_or_lt_of_le hj with rfl | hj
            · rw [hm.same _ fun i hi him heq => ?_, Function.update_self]
              have := h.inj k i hk hkn (by omega) (by omega) heq
              omega
            · rw [hm.changed j hj hjm, hother j hj (by omega)]
          · rw [hm.same x fun j hj hjm => hx j (by omega) hjm,
              Function.update_of_ne (hx k le_rfl (by have := hm.le; omega))]

/-- As many rounds as there are slots are enough. -/
lemma walk_fuel (h : WalkPath next stop path n) (hk : 0 < k) (hkn : k ≤ n) {fuel' : ℕ}
    (hfuel : n - k ≤ fuel) (hfuel' : n - k ≤ fuel') :
    walk next test change stop fuel (path k) table =
      walk next test change stop fuel' (path k) table := by
  have hstop : ∀ fuel, walk next test change stop fuel (path n) table = table := by
    intro fuel
    cases fuel with
    | zero => rfl
    | succ fuel => rw [walk, if_neg (by rw [h.stop_eq]; simp)]
  induction fuel generalizing k table fuel' with
  | zero =>
      obtain rfl : k = n := by omega
      rw [hstop, hstop]
  | succ fuel ih =>
      rcases eq_or_lt_of_le hkn with rfl | hlt
      · rw [hstop, hstop]
      cases fuel' with
      | zero => omega
      | succ fuel' =>
          rw [walk, walk]
          split
          · rw [h.next_eq k hlt]
            refine ih (by omega) hlt (by omega) (by omega) fun fuel => ?_
            cases fuel with
            | zero => rfl
            | succ fuel => rw [walk, if_neg (by rw [h.stop_eq]; simp)]
          · rfl

variable (test change table) in
/-- **A second walk changes nothing** where a changed slot fails the test. -/
lemma walk_idem (h : WalkPath next stop path n) (hn : 0 < n) (hfuel : n - 1 ≤ fuel)
    (hchange : ∀ y, test (change y) = false) :
    walk next test change stop fuel (path 1)
        (walk next test change stop fuel (path 1) table) =
      walk next test change stop fuel (path 1) table := by
  obtain ⟨m, hm⟩ := h.walk_end test change table one_pos hn hfuel
  generalize walk next test change stop fuel (path 1) table = result at hm ⊢
  cases fuel with
  | zero => rfl
  | succ fuel =>
      have hfail : ¬ (path 1 ≠ stop ∧ test (result (path 1)) = true) := by
        rintro ⟨hne, htest⟩
        rcases eq_or_lt_of_le hm.le with rfl | hlt
        · rw [hm.same _ fun j hj hjm => absurd hjm (by omega)] at htest
          rcases hm.stops with rfl | hend
          · exact hne h.stop_eq
          · rw [hend] at htest
            cases htest
        · rw [hm.changed 1 le_rfl hlt, hchange] at htest
          cases htest
      rw [walk, if_neg hfail]

end WalkPath

/-! ### Counting -/

/-- Count the slots after one that meet the test, up to the first that does not. -/
def walkCount (next : α → α) (test : α → Bool) (add : ℕ → α → ℕ) : ℕ → α → ℕ → ℕ
  | 0, _, level => level
  | n + 1, x, level =>
      if test (next x) = true then walkCount next test add n (next x) (add level (next x))
      else level

/-- The count where one slot alone can meet the test, and the walk does not come to it twice. -/
lemma walkCount_single {test : α → Bool} {add : ℕ → α → ℕ} {y : α} {level : ℕ}
    (htest : ∀ k, 0 < k → k ≤ n → next^[k] x ≠ y → test (next^[k] x) = false)
    (hne : 0 < n → next y ≠ y) :
    walkCount next test add n x level =
      if 0 < n ∧ next x = y ∧ test y = true then add level y else level := by
  cases n with
  | zero => simp [walkCount]
  | succ n =>
      rw [walkCount]
      by_cases hx : next x = y
      · cases hy : test y with
        | false => simp [hx, hy]
        | true =>
            rw [hx, if_pos hy, if_pos ⟨Nat.succ_pos n, rfl, rfl⟩]
            cases n with
            | zero => rfl
            | succ n =>
                have htwo := htest 2 two_pos (by omega)
                rw [Function.iterate_succ_apply, Function.iterate_one, hx] at htwo
                rw [walkCount, if_neg (by rw [htwo (hne (by omega))]; simp)]
      · have hone := htest 1 one_pos (by omega)
        rw [Function.iterate_one] at hone
        rw [hone hx, if_neg (by simp), if_neg (by tauto)]

end LibAjaNtv2
