import Mathlib.Tactic

/-!
Numbers side by side in one machine word.

* `Slot`: where a number starts in the word, and how many bits it has;
* `Slot.read`, `Slot.put`: the number read by a shift and a mask, and masked into place;
* `Slot.fill`: a word made of numbers by one bitwise or after the other;
* `Slot.read_fill`: **a number is read back** if no other one reaches into its slot;
* `Slot.fill_read`: **a word put together from its own numbers** is the word without the bits
  that no slot covers.
-/

namespace LibAjaNtv2

/-- A place in a word. -/
structure Slot where
  shift : ℕ
  len : ℕ
  deriving DecidableEq, Repr

namespace Slot

variable {w : ℕ}

/-- No bit is in both slots. -/
def Apart (s t : Slot) : Prop := s.shift + s.len ≤ t.shift ∨ t.shift + t.len ≤ s.shift

instance (s t : Slot) : Decidable (s.Apart t) := inferInstanceAs (Decidable (_ ∨ _))

/-- The bits of a number that fits the slot. -/
def mask (s : Slot) : BitVec w := BitVec.ofNat w (2 ^ s.len - 1)

/-- The number in the slot. -/
def read (s : Slot) (v : BitVec w) : BitVec w := (v >>> s.shift) &&& s.mask

/-- The number moved into the slot. -/
def put (s : Slot) (x : BitVec w) : BitVec w := (x &&& s.mask) <<< s.shift

/-- The word with each number in its slot, one bitwise or after the other. -/
def fill (fields : List (Slot × BitVec w)) : BitVec w :=
  fields.foldl (fun word f => word ||| f.1.put f.2) 0#w

/-! ### The bits -/

lemma getLsbD_mask (s : Slot) (i : ℕ) :
    (s.mask : BitVec w).getLsbD i = (decide (i < w) && decide (i < s.len)) := by
  rw [mask, BitVec.getLsbD_ofNat, Nat.testBit_two_pow_sub_one]

/-- A number read has the bits of its slot. -/
lemma getLsbD_read (s : Slot) (v : BitVec w) (i : ℕ) :
    (s.read v).getLsbD i = (v.getLsbD (s.shift + i) && decide (i < s.len)) := by
  rw [read, BitVec.getLsbD_and, BitVec.getLsbD_ushiftRight, getLsbD_mask]
  by_cases hi : i < w
  · simp [hi]
  · rw [BitVec.getLsbD_of_ge v (s.shift + i) (by omega), Bool.false_and, Bool.false_and]

/-- A number in its slot has no bit outside. -/
lemma getLsbD_put (s : Slot) (x : BitVec w) {i : ℕ} (hi : i < w) :
    (s.put x).getLsbD i =
      (decide (s.shift ≤ i) && (x.getLsbD (i - s.shift) && decide (i - s.shift < s.len))) := by
  have hsub : i - s.shift < w := by omega
  rw [put, BitVec.getLsbD_shiftLeft, BitVec.getLsbD_and, getLsbD_mask, decide_eq_true hi,
    decide_eq_true hsub, Bool.true_and, Bool.true_and]
  by_cases hle : i < s.shift
  · simp [hle]
  · simp [hle, Nat.not_lt.mp hle]

/-! ### Reading and putting -/

lemma read_or (s : Slot) (v v' : BitVec w) : s.read (v ||| v') = s.read v ||| s.read v' := by
  rw [read, read, read, BitVec.ushiftRight_or_distrib, BitVec.and_comm, BitVec.and_or_distrib_left,
    BitVec.and_comm, BitVec.and_comm s.mask]

@[simp] lemma read_zero (s : Slot) : s.read 0#w = 0#w := by
  simp [read]

/-- The slot of a number has the number in it. -/
lemma read_put_self {s : Slot} (hfit : s.shift + s.len ≤ w) (x : BitVec w) :
    s.read (s.put x) = x &&& s.mask := by
  refine BitVec.eq_of_getLsbD_eq fun i hi => ?_
  rw [getLsbD_read, BitVec.getLsbD_and, getLsbD_mask, decide_eq_true hi, Bool.true_and]
  by_cases hlen : i < s.len
  · rw [getLsbD_put s x (by omega), Nat.add_sub_cancel_left, decide_eq_true (Nat.le_add_right _ _),
      decide_eq_true hlen]
    simp
  · rw [decide_eq_false hlen, Bool.and_false, Bool.and_false]

/-- A slot apart stays empty. -/
lemma read_put {s t : Slot} (h : s.Apart t) (hfit : s.shift + s.len ≤ w) (x : BitVec w) :
    s.read (t.put x) = 0#w := by
  refine BitVec.eq_of_getLsbD_eq fun i hi => ?_
  rw [getLsbD_read, BitVec.getLsbD_zero]
  by_cases hlen : i < s.len
  · rw [getLsbD_put t x (by omega)]
    rcases h with h | h
    · rw [decide_eq_false (by omega : ¬ t.shift ≤ s.shift + i), Bool.false_and, Bool.false_and]
    · rw [decide_eq_false (by omega : ¬ s.shift + i - t.shift < t.len), Bool.and_false,
        Bool.and_false, Bool.false_and]
  · rw [decide_eq_false hlen, Bool.and_false]

/-! ### Words of several numbers -/

lemma foldl_put (fields : List (Slot × BitVec w)) (word : BitVec w) :
    fields.foldl (fun word f => word ||| f.1.put f.2) word = word ||| fill fields := by
  induction fields generalizing word with
  | nil => rw [fill, List.foldl_nil, List.foldl_nil, BitVec.or_zero]
  | cons f fields ih =>
      rw [fill, List.foldl_cons, List.foldl_cons, ih, ih (0#w ||| _), BitVec.zero_or,
        BitVec.or_assoc]

@[simp] lemma fill_nil : fill ([] : List (Slot × BitVec w)) = 0#w := rfl

@[simp] lemma fill_cons (f : Slot × BitVec w) (fields : List (Slot × BitVec w)) :
    fill (f :: fields) = f.1.put f.2 ||| fill fields := by
  rw [fill, List.foldl_cons, foldl_put, BitVec.zero_or]

lemma fill_append (fields fields' : List (Slot × BitVec w)) :
    fill (fields ++ fields') = fill fields ||| fill fields' := by
  rw [fill, List.foldl_append, foldl_put]
  rfl

/-- A slot that no number reaches stays empty. -/
lemma read_fill_apart {s : Slot} (hfit : s.shift + s.len ≤ w) {fields : List (Slot × BitVec w)}
    (h : ∀ f ∈ fields, s.Apart f.1) : s.read (fill fields) = 0#w := by
  induction fields with
  | nil => rw [fill_nil, read_zero]
  | cons f fields ih =>
      rw [fill_cons, read_or, read_put (h f List.mem_cons_self) hfit,
        ih fun g hg => h g (List.mem_cons_of_mem f hg), BitVec.or_zero]

/-- **A number is read back** from a word of numbers that stand apart. -/
theorem read_fill {fields : List (Slot × BitVec w)}
    (hapart : fields.Pairwise fun f g => f.1.Apart g.1) {s : Slot} {x : BitVec w}
    (hmem : (s, x) ∈ fields) (hfit : s.shift + s.len ≤ w) :
    s.read (fill fields) = x &&& s.mask := by
  induction fields with
  | nil => exact absurd hmem List.not_mem_nil
  | cons f fields ih =>
      obtain ⟨hf, hrest⟩ := List.pairwise_cons.mp hapart
      rw [fill_cons, read_or]
      rcases List.mem_cons.mp hmem with rfl | hmem
      · rw [read_put_self hfit, read_fill_apart hfit hf, BitVec.or_zero]
      · rw [read_put ((hf _ hmem).symm) hfit, ih hrest hmem, BitVec.zero_or]

/-- The bits that some slot covers. -/
def cover (slots : List Slot) : BitVec w := fill (slots.map fun s => (s, BitVec.allOnes w))

/-- A number put back where it was read. -/
lemma put_read (s : Slot) (v : BitVec w) : s.put (s.read v) = v &&& s.put (BitVec.allOnes w) := by
  refine BitVec.eq_of_getLsbD_eq fun i hi => ?_
  have hsub : i - s.shift < w := by omega
  rw [BitVec.getLsbD_and, getLsbD_put s _ hi, getLsbD_put s _ hi, getLsbD_read,
    BitVec.getLsbD_allOnes, decide_eq_true hsub, Bool.true_and]
  by_cases hle : s.shift ≤ i
  · rw [Nat.add_sub_cancel' hle, decide_eq_true hle]
    simp
  · rw [decide_eq_false hle, Bool.false_and, Bool.false_and, Bool.and_false]

/-- **A word put together from its own numbers** is the word where slots cover it. -/
theorem fill_read (slots : List Slot) (v : BitVec w) :
    fill (slots.map fun s => (s, s.read v)) = v &&& cover slots := by
  induction slots with
  | nil => rw [cover, List.map_nil, fill_nil, List.map_nil, fill_nil, BitVec.and_zero]
  | cons s slots ih =>
      rw [cover, List.map_cons, List.map_cons, fill_cons, fill_cons, ih, put_read,
        BitVec.and_or_distrib_left]
      rfl

end Slot

end LibAjaNtv2
