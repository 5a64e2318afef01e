import Mathlib.Tactic

/-!
The longest prefix and the longest suffix of elements with a property.

* `LongestPrefix`, `LongestSuffix`: a part at an end of a list that no other one is longer than;
* `LongestPrefix.nil`, `LongestPrefix.cons`: they are found element by element;
* `longestPrefix_take_findIdx`: **the longest prefix** goes to the first element without the
  property;
* `longestSuffix_reverse_iff`: a suffix is a prefix of the reverse.
-/

namespace LibAjaNtv2

variable {α : Type*} {p : α → Prop} {l w : List α} {x : α}

/-- A prefix of elements with a property, and no longer one. -/
structure LongestPrefix (p : α → Prop) (w l : List α) : Prop where
  isPrefix : w <+: l
  all : ∀ x ∈ w, p x
  longest : ∀ v, v <+: l → (∀ x ∈ v, p x) → v.length ≤ w.length

/-- A suffix of elements with a property, and no longer one. -/
structure LongestSuffix (p : α → Prop) (w l : List α) : Prop where
  isSuffix : w <:+ l
  all : ∀ x ∈ w, p x
  longest : ∀ v, v <:+ l → (∀ x ∈ v, p x) → v.length ≤ w.length

/-- A list that begins without the property has no such prefix. -/
lemma LongestPrefix.nil (h : ∀ x ∈ l.head?, ¬ p x) : LongestPrefix p [] l := by
  refine ⟨List.nil_prefix, by simp, fun v hv hall => ?_⟩
  cases v with
  | nil => exact le_rfl
  | cons x v =>
      obtain ⟨rest, rfl⟩ := hv
      exact absurd (hall x List.mem_cons_self) (h x rfl)

/-- One more element with the property in front. -/
lemma LongestPrefix.cons (hx : p x) (h : LongestPrefix p w l) :
    LongestPrefix p (x :: w) (x :: l) := by
  refine ⟨List.cons_prefix_cons.mpr ⟨rfl, h.isPrefix⟩, List.forall_mem_cons.mpr ⟨hx, h.all⟩,
    fun v hv hall => ?_⟩
  cases v with
  | nil => exact Nat.zero_le _
  | cons y v =>
      have hle := h.longest v (List.cons_prefix_cons.mp hv).2 fun z hz =>
        hall z (List.mem_cons_of_mem _ hz)
      rw [List.length_cons, List.length_cons]
      omega

/-- **The longest prefix** goes to the first element without the property. -/
theorem longestPrefix_take_findIdx (p : α → Prop) [DecidablePred p] (l : List α) :
    LongestPrefix p (l.take (l.findIdx fun x => !decide (p x))) l := by
  induction l with
  | nil => exact LongestPrefix.nil (by simp)
  | cons x l ih =>
      rw [List.findIdx_cons]
      by_cases hx : p x
      · rw [decide_eq_true hx]
        exact ih.cons hx
      · rw [decide_eq_false hx]
        exact LongestPrefix.nil fun y hy => by
          rw [List.head?_cons, Option.mem_some_iff] at hy
          exact hy ▸ hx

/-- A suffix is a prefix of the reverse. -/
lemma longestSuffix_reverse_iff : LongestPrefix p w.reverse l.reverse ↔ LongestSuffix p w l := by
  constructor
  · rintro ⟨hpre, hall, hlongest⟩
    refine ⟨List.reverse_prefix.mp hpre, fun x hx => hall x (List.mem_reverse.mpr hx),
      fun v hv hp => ?_⟩
    have hle := hlongest v.reverse (List.reverse_prefix.mpr hv) fun x hx =>
      hp x (List.mem_reverse.mp hx)
    rwa [List.length_reverse, List.length_reverse] at hle
  · rintro ⟨hsuffix, hall, hlongest⟩
    refine ⟨List.reverse_prefix.mpr hsuffix, fun x hx => hall x (List.mem_reverse.mp hx),
      fun v hv hp => ?_⟩
    have hle := hlongest v.reverse (by rw [← List.reverse_prefix, List.reverse_reverse]; exact hv)
      fun x hx => hp x (List.mem_reverse.mp hx)
    rwa [List.length_reverse] at hle ⊢

/-- The longest suffix is behind the last element without the property. -/
lemma longestSuffix_drop (p : α → Prop) [DecidablePred p] (l : List α) :
    LongestSuffix p (l.drop (l.length - l.reverse.findIdx fun x => !decide (p x))) l := by
  rw [← longestSuffix_reverse_iff, List.reverse_drop]
  have hle : (l.reverse.findIdx fun x => !decide (p x)) ≤ l.length := by
    rw [← List.length_reverse]
    exact List.findIdx_le_length
  have hlen : l.length - (l.length - l.reverse.findIdx fun x => !decide (p x)) =
      l.reverse.findIdx fun x => !decide (p x) := by omega
  rw [hlen]
  exact longestPrefix_take_findIdx p l.reverse

end LibAjaNtv2
