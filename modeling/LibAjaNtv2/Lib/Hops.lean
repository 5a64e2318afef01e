import Mathlib.Tactic

/-!
Chains of blocks that begin with their own length.

* `Hops`: the positions that a walk from block to block comes to, over the blocks it may pass;
* `Hops.le`, `Hops.mono`, `Hops.linear`, `Hops.upto`: they grow, and one walk has one way;
* `hops`, `landing`: the blocks that it passes before an end, in their order, and where it stops;
* `mem_hops`: **the blocks passed are the positions that it comes to**;
* `pairwise_hops`: each is passed once;
* `findSome_flatMap`: where one part of a list alone counts, a place in the parts is one in the
  whole.
-/

namespace LibAjaNtv2

/-- From a position the walk comes to another one, over blocks that it may pass. -/
inductive Hops (len : ℕ → ℕ) (pass : ℕ → Prop) : ℕ → ℕ → Prop
  | refl (p : ℕ) : Hops len pass p p
  | hop {p q : ℕ} (hpass : pass p) (h : Hops len pass (p + len p + 1) q) : Hops len pass p q

namespace Hops

variable {len : ℕ → ℕ} {pass pass' : ℕ → Prop} {p q r : ℕ}

lemma le (h : Hops len pass p q) : p ≤ q := by
  induction h with
  | refl p => exact le_rfl
  | hop hpass h ih => omega

/-- The walk may pass more blocks. -/
lemma mono (h : Hops len pass p q) (hsub : ∀ x, p ≤ x → x < q → pass x → pass' x) :
    Hops len pass' p q := by
  induction h with
  | refl p => exact .refl p
  | @hop p q hpass h ih =>
      have := h.le
      exact .hop (hsub p le_rfl (by omega) hpass) (ih fun x hx => hsub x (by omega))

lemma eq_or_hop (h : Hops len pass p q) : p = q ∨ pass p ∧ Hops len pass (p + len p + 1) q := by
  cases h with
  | refl p => exact .inl rfl
  | hop hpass h => exact .inr ⟨hpass, h⟩

/-- The positions that the walk comes to, from the first block. -/
lemma iff_eq_or_hop : Hops len pass p q ↔ p = q ∨ pass p ∧ Hops len pass (p + len p + 1) q := by
  refine ⟨eq_or_hop, ?_⟩
  rintro (rfl | ⟨hpass, h⟩)
  · exact .refl p
  · exact .hop hpass h

/-- Of two positions that it comes to, the walk passes the first on its way to the second. -/
lemma linear (h : Hops len pass p q) (h' : Hops len pass' p r) (hqr : q ≤ r) :
    Hops len pass' q r := by
  induction h with
  | refl p => exact h'
  | @hop p q hpass h ih =>
      rcases h'.eq_or_hop with rfl | ⟨_, h'⟩
      · have := h.le
        omega
      · exact ih h' hqr

/-- Of two positions that it comes to, the walk comes to the first as it comes to the second. -/
lemma upto (h : Hops len pass p q) (h' : Hops len pass' p r) (hqr : q ≤ r) :
    Hops len pass' p q := by
  induction h with
  | refl p => exact .refl p
  | @hop p q hpass h ih =>
      rcases h'.eq_or_hop with rfl | ⟨hpass', h'⟩
      · have := h.le
        omega
      · exact .hop hpass' (ih h' hqr)

/-- The block at a position that the walk passes ends before the next one that it comes to. -/
lemma end_le (h : Hops len pass p q) (hne : p ≠ q) : p + len p + 1 ≤ q := by
  rcases h.eq_or_hop with rfl | ⟨_, h⟩
  · exact absurd rfl hne
  · exact h.le

lemma pass_of_lt (h : Hops len pass p q) (hlt : p < q) : pass p := by
  rcases h.eq_or_hop with rfl | ⟨hpass, _⟩
  · omega
  · exact hpass

end Hops

section List

variable (len : ℕ → ℕ) (pass : ℕ → Prop) [DecidablePred pass] (e : ℕ)

/-- The blocks that the walk passes before an end. -/
def hops (p : ℕ) : List ℕ :=
  if p < e ∧ pass p then p :: hops (p + len p + 1) else []
termination_by e - p

/-- Where the walk stops. -/
def landing (p : ℕ) : ℕ :=
  if p < e ∧ pass p then landing (p + len p + 1) else p
termination_by e - p

variable {len pass e} {p q : ℕ}

lemma hops_pass (he : p < e) (hpass : pass p) :
    hops len pass e p = p :: hops len pass e (p + len p + 1) := by
  rw [hops, if_pos ⟨he, hpass⟩]

lemma hops_stop (h : ¬ (p < e ∧ pass p)) : hops len pass e p = [] := by rw [hops, if_neg h]

lemma landing_pass (he : p < e) (hpass : pass p) :
    landing len pass e p = landing len pass e (p + len p + 1) := by
  rw [landing, if_pos ⟨he, hpass⟩]

lemma landing_stop (h : ¬ (p < e ∧ pass p)) : landing len pass e p = p := by
  rw [landing, if_neg h]

/-- **The blocks passed are the positions that the walk comes to**, before the end, and that it may
pass. -/
lemma mem_hops : q ∈ hops len pass e p ↔ Hops len pass p q ∧ q < e ∧ pass q := by
  induction p using hops.induct len pass e with
  | case1 p h ih =>
      rw [hops_pass h.1 h.2, List.mem_cons, ih]
      constructor
      · rintro (rfl | ⟨hway, hq⟩)
        · exact ⟨.refl _, h⟩
        · exact ⟨.hop h.2 hway, hq⟩
      · rintro ⟨hway, hq⟩
        rcases hway.eq_or_hop with rfl | ⟨_, hway⟩
        · exact .inl rfl
        · exact .inr ⟨hway, hq⟩
  | case2 p h =>
      rw [hops_stop h]
      refine iff_of_false List.not_mem_nil ?_
      rintro ⟨hway, hq, hpass⟩
      have hle := hway.le
      rcases hway.eq_or_hop with rfl | ⟨hp, _⟩
      · exact h ⟨hq, hpass⟩
      · exact h ⟨by omega, hp⟩

/-- Each block is passed once, in the order of the positions. -/
lemma pairwise_hops : (hops len pass e p).Pairwise (· < ·) := by
  induction p using hops.induct len pass e with
  | case1 p h ih =>
      rw [hops_pass h.1 h.2, List.pairwise_cons]
      refine ⟨fun q hq => ?_, ih⟩
      have := (mem_hops.mp hq).1.le
      omega
  | case2 p h =>
      rw [hops_stop h]
      exact List.Pairwise.nil

/-- The walk comes to where it stops. -/
lemma hops_landing : Hops len pass p (landing len pass e p) := by
  induction p using hops.induct len pass e with
  | case1 p h ih =>
      rw [landing_pass h.1 h.2]
      exact .hop h.2 ih
  | case2 p h =>
      rw [landing_stop h]
      exact .refl p

end List

/-! ### Parts of a list -/

section Parts

variable {α β : Type*} {f : α → List β} {l : List α}

/-- Parts without an element do not count in the whole. -/
lemma flatMap_filter_nonempty :
    (l.filter fun a => !(f a).isEmpty).flatMap f = l.flatMap f := by
  induction l with
  | nil => rfl
  | cons a l ih =>
      cases hfa : f a with
      | nil => rw [List.filter_cons_of_neg (by simp [hfa]), List.flatMap_cons, hfa, ih]; rfl
      | cons b bs =>
          rw [List.filter_cons_of_pos (by simp [hfa]), List.flatMap_cons, List.flatMap_cons, ih]

/-- Parts without an element have no place. -/
lemma findSome_filter_nonempty (k : ℕ) :
    (l.filter fun a => !(f a).isEmpty).findSome? (fun a => (f a)[k]?) =
      l.findSome? fun a => (f a)[k]? := by
  induction l with
  | nil => rfl
  | cons a l ih =>
      cases hfa : f a with
      | nil =>
          rw [List.filter_cons_of_neg (by simp [hfa]), List.findSome?_cons, hfa, ih]
          rfl
      | cons b bs =>
          rw [List.filter_cons_of_pos (by simp [hfa]), List.findSome?_cons, List.findSome?_cons, ih]

/-- A place in the parts is one in the whole, where one part alone has elements. -/
lemma findSome_flatMap (k : ℕ) (h : (l.filter fun a => !(f a).isEmpty).length ≤ 1) :
    l.findSome? (fun a => (f a)[k]?) = (l.flatMap f)[k]? := by
  rw [← findSome_filter_nonempty, ← flatMap_filter_nonempty]
  rcases hl : l.filter (fun a => !(f a).isEmpty) with _ | ⟨a, _ | ⟨b, rest⟩⟩
  · rfl
  · rw [List.findSome?_cons, List.flatMap_cons, List.flatMap_nil, List.append_nil,
      List.findSome?_nil]
    cases (f a)[k]? with
    | none => rfl
    | some x => rfl
  · rw [hl, List.length_cons, List.length_cons] at h
    omega

end Parts

end LibAjaNtv2
