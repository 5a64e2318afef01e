import Mathlib.Tactic
import LibAjaNtv2.Lib.Run

/-!
A log that several writers keep in a ring of slots.

A writer takes the next number, fills the slot of the number step by step and publishes the
number in the slot.

* `RingLog`, `RingLog.step`: the ring beside the record that each number stands for;
* `RingLog.Stamped`: a number in a slot is one of the slot's own, in every run;
* `RingLog.Current`: what holds as long as no writer falls a whole ring behind;
* `RingLog.Current.step`: **a step that leaves no writer so far behind keeps it**;
* `RingLog.Current.slot_of_published`: **a number found in its slot, and less than a ring old, is
  the number of a whole record**, which no later step changes.
-/

namespace LibAjaNtv2

/-- The ring: the last number given out, the slots, the number published last in each slot, the
number that each writer is at. `record k` is what the writer of number `k` has made of its slot:
it is not in the ring. -/
@[ext]
structure RingLog (ι M : Type*) where
  last : ℕ
  slot : ℕ → M
  published : ℕ → ℕ
  opened : ι → Option ℕ
  record : ℕ → M

/-- The values of a function after one of them is changed. -/
lemma update_eq_iff {ι α : Type*} [DecidableEq ι] {f : ι → α} {w v : ι} {x y : α} :
    Function.update f w x v = y ↔ v = w ∧ x = y ∨ v ≠ w ∧ f v = y := by
  rcases eq_or_ne v w with rfl | hv
  · simp
  · simp [hv]

/-- Two numbers of one slot less than a ring apart are the same. -/
lemma eq_of_mod_of_lt {k l N : ℕ} (h : k % N = l % N) (hle : k ≤ l) (hlt : l < k + N) : k = l := by
  have hdvd : N ∣ l - k := (Nat.modEq_iff_dvd' hle).mp h
  have := Nat.eq_zero_of_dvd_of_lt hdvd (by omega)
  omega

namespace RingLog

variable {ι M : Type*} [DecidableEq ι] {N : ℕ} {s t : RingLog ι M}

/-- What a writer does. -/
inductive Action (ι M : Type*) where
  | reserve (w : ι)
  | store (w : ι) (f : M → M)
  | publish (w : ι)

/-- The steps. A writer without a number does not store, and one with a number takes no other. -/
def step (N : ℕ) (s : RingLog ι M) : Action ι M → RingLog ι M
  | .reserve w =>
      match s.opened w with
      | none =>
          { s with
            last := s.last + 1
            opened := Function.update s.opened w (some (s.last + 1))
            record := Function.update s.record (s.last + 1) (s.slot ((s.last + 1) % N)) }
      | some _ => s
  | .store w f =>
      match s.opened w with
      | none => s
      | some k =>
          { s with
            slot := Function.update s.slot (k % N) (f (s.slot (k % N)))
            record := Function.update s.record k (f (s.record k)) }
  | .publish w =>
      match s.opened w with
      | none => s
      | some k =>
          { s with
            published := Function.update s.published (k % N) k
            opened := Function.update s.opened w none }

/-- What one step can do. -/
inductive Moves (N : ℕ) (s : RingLog ι M) : Action ι M → RingLog ι M → Prop where
  | idle {a : Action ι M} : Moves N s a s
  | reserve {w : ι} (hw : s.opened w = none) : Moves N s (.reserve w)
      { s with
        last := s.last + 1
        opened := Function.update s.opened w (some (s.last + 1))
        record := Function.update s.record (s.last + 1) (s.slot ((s.last + 1) % N)) }
  | store {w : ι} {f : M → M} {k : ℕ} (hw : s.opened w = some k) : Moves N s (.store w f)
      { s with
        slot := Function.update s.slot (k % N) (f (s.slot (k % N)))
        record := Function.update s.record k (f (s.record k)) }
  | publish {w : ι} {k : ℕ} (hw : s.opened w = some k) : Moves N s (.publish w)
      { s with
        published := Function.update s.published (k % N) k
        opened := Function.update s.opened w none }

/-- A step is one of the moves. -/
lemma step_moves (N : ℕ) (s : RingLog ι M) (a : Action ι M) : Moves N s a (s.step N a) := by
  cases a with
  | reserve w =>
      cases hw : s.opened w with
      | none =>
          simp only [step, hw]
          exact .reserve hw
      | some k =>
          simp only [step, hw]
          exact .idle
  | store w f =>
      cases hw : s.opened w with
      | none =>
          simp only [step, hw]
          exact .idle
      | some k =>
          simp only [step, hw]
          exact .store hw
  | publish w =>
      cases hw : s.opened w with
      | none =>
          simp only [step, hw]
          exact .idle
      | some k =>
          simp only [step, hw]
          exact .publish hw

/-! ### In every run -/

/-- The numbers in the slots and at the writers have been given out, each to one writer, and a
number in a slot is one of the slot's own. -/
structure Stamped (N : ℕ) (s : RingLog ι M) : Prop where
  opened : ∀ w k, s.opened w = some k → 0 < k ∧ k ≤ s.last
  distinct : ∀ w v k, s.opened w = some k → s.opened v = some k → w = v
  published : ∀ j, s.published j ≤ s.last
  home : ∀ j, s.published j = 0 ∨ s.published j % N = j

/-- Every step keeps the numbers in their slots. -/
lemma Stamped.step (h : Stamped N s) (a : Action ι M) : Stamped N (s.step N a) := by
  generalize ht : s.step N a = t
  have hm : Moves N s a t := ht ▸ step_moves N s a
  cases hm with
  | idle => exact h
  | @reserve w hw =>
      refine ⟨fun v k hk => ?_, fun v u k hv hu => ?_,
        fun j => (h.published j).trans (Nat.le_succ _), h.home⟩
      · rcases update_eq_iff.mp hk with ⟨-, hk⟩ | ⟨-, hk⟩
        · obtain rfl := Option.some.inj hk
          exact ⟨Nat.succ_pos _, le_rfl⟩
        · exact ⟨(h.opened v k hk).1, (h.opened v k hk).2.trans (Nat.le_succ _)⟩
      · rcases update_eq_iff.mp hv with ⟨hvw, hv'⟩ | ⟨-, hv'⟩ <;>
          rcases update_eq_iff.mp hu with ⟨huw, hu'⟩ | ⟨-, hu'⟩
        · rw [hvw, huw]
        · have := (h.opened u k hu').2
          have := Option.some.inj hv'
          omega
        · have := (h.opened v k hv').2
          have := Option.some.inj hu'
          omega
        · exact h.distinct v u k hv' hu'
  | store hw => exact ⟨h.opened, h.distinct, h.published, h.home⟩
  | @publish w k hw =>
      refine ⟨fun v l hl => ?_, fun v u l hv hu => ?_, fun j => ?_, fun j => ?_⟩
      · rcases update_eq_iff.mp hl with ⟨-, hl⟩ | ⟨-, hl⟩
        · cases hl
        · exact h.opened v l hl
      · rcases update_eq_iff.mp hv with ⟨-, hv⟩ | ⟨-, hv⟩
        · cases hv
        rcases update_eq_iff.mp hu with ⟨-, hu⟩ | ⟨-, hu⟩
        · cases hu
        exact h.distinct v u l hv hu
      · rcases eq_or_ne j (k % N) with rfl | hj
        · simpa using (h.opened w k hw).2
        · simpa [hj] using h.published j
      · rcases eq_or_ne j (k % N) with rfl | hj
        · simp
        · simpa [hj] using h.home j

/-! ### As long as no writer is overtaken -/

/-- No writer is a whole ring behind. -/
def Abreast (N : ℕ) (s : RingLog ι M) : Prop :=
  ∀ w k, s.opened w = some k → s.last < k + N

/-- The step leaves no writer a whole ring behind. -/
def KeepsAbreast (N : ℕ) (s : RingLog ι M) (a : Action ι M) : Prop :=
  Abreast N (s.step N a)

/-- The record of a number is still in the ring. -/
def Holds (N : ℕ) (s : RingLog ι M) (k : ℕ) : Prop :=
  0 < k ∧ k ≤ s.last ∧ s.last < k + N

/-- The slots hold the records of the last numbers, and such a number is published
in its slot exactly when its writer is done with it. -/
structure Current (N : ℕ) (s : RingLog ι M) : Prop where
  stamped : Stamped N s
  abreast : Abreast N s
  slot : ∀ k, Holds N s k → s.slot (k % N) = s.record k
  published : ∀ k, Holds N s k → (s.published (k % N) = k ↔ ∀ w, s.opened w ≠ some k)

omit [DecidableEq ι] in
/-- Two numbers in the ring have different slots. -/
lemma Holds.eq_of_mod {k l : ℕ} (hk : Holds N s k) (hl : Holds N s l) (h : k % N = l % N) :
    k = l := by
  obtain ⟨-, hk, hk'⟩ := hk
  obtain ⟨-, hl, hl'⟩ := hl
  rcases le_total k l with hle | hle
  · exact eq_of_mod_of_lt h hle (by omega)
  · exact (eq_of_mod_of_lt h.symm hle (by omega)).symm

omit [DecidableEq ι] in
lemma Current.holds (h : Current N s) {w : ι} {k : ℕ} (hw : s.opened w = some k) :
    Holds N s k :=
  ⟨(h.stamped.opened w k hw).1, (h.stamped.opened w k hw).2, h.abreast w k hw⟩

/-- **A step that leaves no writer a ring behind keeps the ring in order.** -/
theorem Current.step (h : Current N s) {a : Action ι M} (ha : KeepsAbreast N s a) :
    Current N (s.step N a) := by
  have hst : Stamped N (s.step N a) := h.stamped.step a
  unfold KeepsAbreast at ha
  generalize ht : s.step N a = t at ha hst
  have hm : Moves N s a t := ht ▸ step_moves N s a
  cases hm with
  | idle => exact h
  | @reserve w hw =>
      refine ⟨hst, ha, ?_, ?_⟩
      · rintro k ⟨hk, hle, hlt⟩
        dsimp only at hle hlt ⊢
        rcases eq_or_ne k (s.last + 1) with rfl | hne
        · simp
        · rw [Function.update_of_ne hne]
          exact h.slot k ⟨hk, by omega, by omega⟩
      · rintro k ⟨hk, hle, hlt⟩
        dsimp only at hle hlt ⊢
        rcases eq_or_ne k (s.last + 1) with rfl | hne
        · have hle := h.stamped.published ((s.last + 1) % N)
          exact ⟨fun h => by omega, fun h => absurd (Function.update_self ..) (h w)⟩
        · rw [h.published k ⟨hk, by omega, by omega⟩]
          refine ⟨fun hk v hv => ?_, fun hk v hv => ?_⟩
          · rcases update_eq_iff.mp hv with ⟨-, hv⟩ | ⟨-, hv⟩
            · exact hne (Option.some.inj hv).symm
            · exact hk v hv
          · refine hk v (update_eq_iff.mpr (.inr ⟨?_, hv⟩))
            rintro rfl
            simp [hw] at hv
  | @store w f k hw =>
      refine ⟨hst, ha, fun l hl => ?_, h.published⟩
      have hhk := h.holds hw
      rcases eq_or_ne l k with rfl | hne
      · simp [h.slot l hl]
      · have hmod : l % N ≠ k % N := fun hm => hne (Holds.eq_of_mod hl hhk hm)
        simpa [hne, hmod] using h.slot l hl
  | @publish w k hw =>
      have hhk := h.holds hw
      refine ⟨hst, ha, h.slot, fun l hl => ?_⟩
      dsimp only
      rcases eq_or_ne l k with rfl | hne
      · simp only [Function.update_self, true_iff]
        intro v hv
        rcases update_eq_iff.mp hv with ⟨-, hv⟩ | ⟨hvw, hv⟩
        · cases hv
        · exact hvw (h.stamped.distinct v w l hv hw)
      · have hmod : l % N ≠ k % N := fun hm => hne (Holds.eq_of_mod hl hhk hm)
        rw [Function.update_of_ne hmod, h.published l hl]
        refine forall_congr' fun v => ?_
        rcases eq_or_ne v w with rfl | hvw
        · simp [hw, hne.symm]
        · simp [hvw]

omit [DecidableEq ι] in
/-- **A number found in its slot, and less than a ring old, is that of a whole record.** -/
theorem Current.slot_of_published (h : Current N s) {k : ℕ} (hk : 0 < k)
    (hfound : s.published (k % N) = k) (hlt : s.last < k + N) :
    s.slot (k % N) = s.record k ∧ ∀ w, s.opened w ≠ some k := by
  have hle := h.stamped.published (k % N)
  have hh : Holds N s k := ⟨hk, by omega, hlt⟩
  exact ⟨h.slot k hh, (h.published k hh).mp hfound⟩

/-- A record that has no writer stays as it is. -/
lemma record_step {k : ℕ} (hk : k ≤ s.last) (hw : ∀ w, s.opened w ≠ some k) (a : Action ι M) :
    (s.step N a).record k = s.record k := by
  generalize ht : s.step N a = t
  have hm : Moves N s a t := ht ▸ step_moves N s a
  cases hm with
  | idle => rfl
  | reserve h => exact Function.update_of_ne (by omega) ..
  | store h => exact Function.update_of_ne (fun he => hw _ (he ▸ h)) ..
  | publish h => rfl

/-- A record that has no writer gets none. -/
lemma opened_step {k : ℕ} (hk : k ≤ s.last) (hw : ∀ w, s.opened w ≠ some k) (a : Action ι M) :
    ∀ w, (s.step N a).opened w ≠ some k := by
  generalize ht : s.step N a = t
  have hm : Moves N s a t := ht ▸ step_moves N s a
  intro v hv
  cases hm with
  | idle => exact hw v hv
  | @reserve w h =>
      rcases update_eq_iff.mp hv with ⟨-, hv⟩ | ⟨-, hv⟩
      · have := Option.some.inj hv
        omega
      · exact hw v hv
  | store h => exact hw v hv
  | @publish w l h =>
      rcases update_eq_iff.mp hv with ⟨-, hv⟩ | ⟨-, hv⟩
      · cases hv
      · exact hw v hv

/-- The last number does not go back. -/
lemma last_le_step (s : RingLog ι M) (a : Action ι M) : s.last ≤ (s.step N a).last := by
  generalize ht : s.step N a = t
  have hm : Moves N s a t := ht ▸ step_moves N s a
  cases hm with
  | reserve h => exact Nat.le_succ _
  | _ => exact le_rfl

/-- A step gives out one number at most. -/
lemma last_step_le (s : RingLog ι M) (a : Action ι M) : (s.step N a).last ≤ s.last + 1 := by
  generalize ht : s.step N a = t
  have hm : Moves N s a t := ht ▸ step_moves N s a
  cases hm with
  | reserve h => exact le_rfl
  | _ => exact Nat.le_succ _

end RingLog

end LibAjaNtv2
