import Mathlib.Tactic

/-!
The shift register of the polynomial `x^w + 1`.

* `ShiftRegister.push`: a bit shifted in, added to the bit that falls out;
* `ShiftRegister.getLsbD_pushes`: the bits of a register after some bits;
* `ShiftRegister.pushes_word`: **a word shifted in is added to the register**;
* `ShiftRegister.pushes_self`, `ShiftRegister.pushes_xor`: what is left where the word is the
  register itself, or the register changed.
-/

namespace LibAjaNtv2

namespace ShiftRegister

variable {w : ℕ}

/-- A bit is shifted in at the bottom, added to the one that falls out at the top. -/
def push (r : BitVec w) (b : Bool) : BitVec w :=
  (r <<< 1) ||| (if r.getLsbD (w - 1) ^^ b then 1#w else 0#w)

/-- Bits are shifted in, the first one first. -/
def pushes (r : BitVec w) (bs : List Bool) : BitVec w := bs.foldl push r

@[simp] lemma pushes_nil (r : BitVec w) : pushes r [] = r := rfl

@[simp] lemma pushes_cons (r : BitVec w) (b : Bool) (bs : List Bool) :
    pushes r (b :: bs) = pushes (push r b) bs := rfl

lemma pushes_append (r : BitVec w) (bs bs' : List Bool) :
    pushes r (bs ++ bs') = pushes (pushes r bs) bs' := List.foldl_append

/-- The bits after one more. -/
lemma getLsbD_push (r : BitVec w) (b : Bool) {i : ℕ} (hi : i < w) :
    (push r b).getLsbD i = if i = 0 then r.getLsbD (w - 1) ^^ b else r.getLsbD (i - 1) := by
  have hone : (if r.getLsbD (w - 1) ^^ b then 1#w else 0#w).getLsbD i =
      (decide (i = 0) && (r.getLsbD (w - 1) ^^ b)) := by
    cases r.getLsbD (w - 1) ^^ b with
    | true => simp [hi]
    | false => simp
  rw [push, BitVec.getLsbD_or, BitVec.getLsbD_shiftLeft, hone]
  cases i with
  | zero => simp
  | succ i => simp [hi]

/-- The bits after some more: the last of them stand at the bottom, each added to the one that has
fallen out, the others move up. -/
lemma getLsbD_pushes (r : BitVec w) (bs : List Bool) (hlen : bs.length ≤ w) {i : ℕ} (hi : i < w) :
    (pushes r bs).getLsbD i =
      if i < bs.length then r.getLsbD (w + i - bs.length) ^^ bs.getD (bs.length - 1 - i) false
      else r.getLsbD (i - bs.length) := by
  induction bs generalizing r with
  | nil => simp
  | cons b bs ih =>
      rw [List.length_cons] at hlen
      rw [pushes_cons, ih _ (by omega), List.length_cons]
      rcases Nat.lt_trichotomy i bs.length with hlt | heq | hgt
      · rw [if_pos hlt, if_pos (by omega), getLsbD_push _ _ (by omega), if_neg (by omega),
          show bs.length + 1 - 1 - i = bs.length - 1 - i + 1 by omega, List.getD_cons_succ,
          show w + i - bs.length - 1 = w + i - (bs.length + 1) by omega]
      · rw [if_neg (by omega), if_pos (by omega), getLsbD_push _ _ (by omega), if_pos (by omega),
          show bs.length + 1 - 1 - i = 0 by omega, List.getD_cons_zero,
          show w - 1 = w + i - (bs.length + 1) by omega]
      · rw [if_neg (by omega), if_neg (by omega), getLsbD_push _ _ (by omega), if_neg (by omega),
          show i - bs.length - 1 = i - (bs.length + 1) by omega]

/-- The bits of a word, the highest first. -/
def msbFirst (v : BitVec w) : List Bool := (List.range w).map fun i => v.getLsbD (w - 1 - i)

/-- **A word shifted in**, the highest bit first, is added to the register. -/
theorem pushes_word (r v : BitVec w) : pushes r (msbFirst v) = r ^^^ v := by
  have hlen : (msbFirst v).length = w := by rw [msbFirst, List.length_map, List.length_range]
  refine BitVec.eq_of_getLsbD_eq fun i hi => ?_
  have hget : (msbFirst v).getD (w - 1 - i) false = v.getLsbD i := by
    rw [msbFirst, List.getD_eq_getElem?_getD, List.getElem?_map,
      List.getElem?_range (by omega : w - 1 - i < w), Option.map_some, Option.getD_some,
      show w - 1 - (w - 1 - i) = i by omega]
  rw [getLsbD_pushes r _ hlen.le hi, hlen, if_pos hi, hget, Nat.add_sub_cancel_left,
    BitVec.getLsbD_xor]

lemma pushes_self (r : BitVec w) : pushes r (msbFirst r) = 0#w := by
  rw [pushes_word, BitVec.xor_self]

lemma pushes_xor (r m : BitVec w) : pushes r (msbFirst (r ^^^ m)) = m := by
  rw [pushes_word, ← BitVec.xor_assoc, BitVec.xor_self, BitVec.zero_xor]

end ShiftRegister

end LibAjaNtv2
