import Mathlib.Tactic

/-!
Single bits and fields of a machine word.

* `BitField.set`: one bit set or cleared; `BitField.getLsbD_set`: what it leaves;
* `BitField.extract_set`, `BitField.extract_set_self`: the fields beside the bit, and the bit;
* `BitField.put`, `BitField.extract_put_self`, `BitField.extract_put`, `BitField.masked_read`: a
  number written under a mask, and read back under it;
* `BitField.extract_part`, `BitField.extract_above`, `BitField.extract_below`: the fields of a
  number shifted into place;
* `BitField.shifted_read`, `BitField.bit_ne_zero_iff`: a field read by a shift and a mask, and a
  single bit tested.
-/

namespace LibAjaNtv2

namespace BitField

variable {w : ℕ}

/-- The word with bit `k` set or cleared. -/
def set (v : BitVec w) (k : ℕ) (b : Bool) : BitVec w :=
  if b = true then v ||| (1#w <<< k) else v &&& ~~~(1#w <<< k)

/-- Only bit `k` changes. -/
lemma getLsbD_set (v : BitVec w) (k : ℕ) (b : Bool) (i : ℕ) (hi : i < w) :
    (set v k b).getLsbD i = if i = k then b else v.getLsbD i := by
  have hone : (1#w <<< k).getLsbD i = decide (i = k) := by
    rw [BitVec.getLsbD_shiftLeft, BitVec.getLsbD_one]
    by_cases h : i = k
    · subst h
      simp [hi, Nat.zero_lt_of_lt hi]
    · have hne : i < k ∨ ¬ i - k = 0 := by omega
      rcases hne with hlt | hne
      · simp [h, hlt]
      · simp [h, hne]
  cases b with
  | true =>
      rw [set, if_pos rfl, BitVec.getLsbD_or, hone]
      by_cases h : i = k <;> simp [h]
  | false =>
      rw [set, if_neg (by decide), BitVec.getLsbD_and, BitVec.getLsbD_not, hone]
      by_cases h : i = k <;> simp [h, hi]

/-- A field that the bit is outside of stays. -/
lemma extract_set (v : BitVec w) {k start len : ℕ} (b : Bool) (hfit : start + len ≤ w)
    (h : k < start ∨ start + len ≤ k) :
    (set v k b).extractLsb' start len = v.extractLsb' start len := by
  ext i hi
  rw [← BitVec.getLsbD_eq_getElem, ← BitVec.getLsbD_eq_getElem,
    BitVec.getLsbD_extractLsb', BitVec.getLsbD_extractLsb', getLsbD_set v k b _ (by omega),
    if_neg (by omega)]

/-- The bit itself reads back. -/
lemma extract_set_self (v : BitVec w) {k : ℕ} (b : Bool) (hk : k < w) :
    (set v k b).extractLsb' k 1 = BitVec.ofBool b := by
  ext i hi
  obtain rfl : i = 0 := by omega
  rw [← BitVec.getLsbD_eq_getElem, BitVec.getLsbD_extractLsb', Nat.add_zero,
    getLsbD_set v k b _ hk]
  simp

/-- The field of a number shifted into place is the number. -/
lemma extract_part (d : ℕ) {k len : ℕ} (hfit : k + len ≤ w) :
    (BitVec.ofNat w d <<< k).extractLsb' k len = BitVec.ofNat len d := by
  ext i hi
  have h₁ : k + i < w := by omega
  have h₂ : i < w := by omega
  simp [hi, h₁, h₂, BitVec.getElem_eq_testBit_toNat, Nat.testBit_mod_two_pow]

/-- A number leaves the fields above its own empty. -/
lemma extract_above {d k start len : ℕ} (h : d * 2 ^ k < 2 ^ start) :
    (BitVec.ofNat w d <<< k).extractLsb' start len = BitVec.ofNat len 0 := by
  ext i hi
  rw [← BitVec.getLsbD_eq_getElem, BitVec.getLsbD_extractLsb', BitVec.getLsbD_shiftLeft,
    BitVec.getLsbD_ofNat]
  rcases Nat.lt_or_ge (start + i) k with hk | hk
  · simp [hk]
  · have hd : d < 2 ^ (start + i - k) := by
      have hpow : 2 ^ (start + i - k) * 2 ^ k = 2 ^ (start + i) := by
        rw [← Nat.pow_add, Nat.sub_add_cancel hk]
      have hle : 2 ^ start ≤ 2 ^ (start + i) := Nat.pow_le_pow_right (by decide) (by omega)
      exact Nat.lt_of_mul_lt_mul_right (a := 2 ^ k) (by omega)
    simp [Nat.testBit_lt_two_pow hd]

/-- A number above its place leaves the fields below empty. -/
lemma extract_below (d : ℕ) {k start len : ℕ} (h : start + len ≤ k) :
    (BitVec.ofNat w d <<< k).extractLsb' start len = BitVec.ofNat len 0 := by
  ext i hi
  have hlt : start + i < k := by omega
  simp [hlt]

/-- A flag shifted into place reads back. -/
lemma extract_flag_self (p : Prop) [Decidable p] {k : ℕ} (hk : k < w) :
    ((if p then 1#w else 0#w) <<< k).extractLsb' k 1 = BitVec.ofBool (decide p) := by
  by_cases h : p
  · rw [if_pos h, extract_part 1 (by omega), decide_eq_true h]
    rfl
  · rw [if_neg h, extract_part 0 (by omega), decide_eq_false h]
    rfl

/-- A flag leaves the fields beside it empty. -/
lemma extract_flag (p : Prop) [Decidable p] {k start len : ℕ}
    (h : k < start ∨ start + len ≤ k) :
    ((if p then 1#w else 0#w) <<< k).extractLsb' start len = BitVec.ofNat len 0 := by
  have hsmall : ∀ d ≤ 1, (BitVec.ofNat w d <<< k).extractLsb' start len = BitVec.ofNat len 0 := by
    intro d hd
    rcases h with h | h
    · refine extract_above ?_
      calc d * 2 ^ k ≤ 1 * 2 ^ k := Nat.mul_le_mul_right _ hd
        _ < 2 ^ start := by
          rw [Nat.one_mul]
          exact Nat.pow_lt_pow_right (by decide) h
    · exact extract_below d h
  by_cases hp : p
  · rw [if_pos hp]
    exact hsmall 1 le_rfl
  · rw [if_neg hp]
    exact hsmall 0 (Nat.zero_le 1)

/-! ### Fields under a mask -/

/-- The mask of `len` bits from bit `k` on. -/
def IsMask (mask : BitVec w) (k len : ℕ) : Prop :=
  k + len ≤ w ∧ ∀ i < w, mask.getLsbD i = decide (k ≤ i ∧ i < k + len)

/-- The word with a number written under a mask. -/
def put (v d mask : BitVec w) (k : ℕ) : BitVec w := d <<< k ||| (v &&& ~~~mask)

variable {v d mask : BitVec w} {k len : ℕ}

/-- Only the bits under the mask change, and they are those of the number. -/
lemma getLsbD_put (hmask : IsMask mask k len) (hd : d.toNat < 2 ^ len) {i : ℕ} (hi : i < w) :
    (put v d mask k).getLsbD i =
      if k ≤ i ∧ i < k + len then d.getLsbD (i - k) else v.getLsbD i := by
  rw [put, BitVec.getLsbD_or, BitVec.getLsbD_and, BitVec.getLsbD_not, BitVec.getLsbD_shiftLeft,
    hmask.2 i hi]
  by_cases hfield : k ≤ i ∧ i < k + len
  · have hlow : ¬ i < k := by omega
    simp [hfield, hi, hlow]
  · have hzero : (decide (i < w) && !decide (i < k) && d.getLsbD (i - k)) = false := by
      rcases Nat.lt_or_ge i k with hlt | hge
      · simp [hlt]
      · have hpow : 2 ^ len ≤ 2 ^ (i - k) := Nat.pow_le_pow_right (by decide) (by omega)
        have hbit : d.getLsbD (i - k) = false := by
          rw [BitVec.getLsbD]
          exact Nat.testBit_lt_two_pow (by omega)
        rw [hbit, Bool.and_false]
    rw [hzero, if_neg hfield, decide_eq_false hfield]
    simp [hi]

/-- The field under the mask reads back. -/
lemma extract_put_self (hmask : IsMask mask k len) (hd : d.toNat < 2 ^ len) :
    (put v d mask k).extractLsb' k len = d.setWidth len := by
  have hfit := hmask.1
  ext i hi
  rw [← BitVec.getLsbD_eq_getElem, ← BitVec.getLsbD_eq_getElem, BitVec.getLsbD_extractLsb',
    getLsbD_put hmask hd (by omega), if_pos (by omega), BitVec.getLsbD_setWidth,
    Nat.add_sub_cancel_left]

/-- A field beside the mask stays. -/
lemma extract_put (hmask : IsMask mask k len) (hd : d.toNat < 2 ^ len) {start size : ℕ}
    (hsize : start + size ≤ w) (h : start + size ≤ k ∨ k + len ≤ start) :
    (put v d mask k).extractLsb' start size = v.extractLsb' start size := by
  ext i hi
  rw [← BitVec.getLsbD_eq_getElem, ← BitVec.getLsbD_eq_getElem, BitVec.getLsbD_extractLsb',
    BitVec.getLsbD_extractLsb', getLsbD_put hmask hd (by omega), if_neg (by omega)]

/-- Reading under the mask reads the field. -/
lemma masked_read (hmask : IsMask mask k len) :
    (v &&& mask) >>> k = (v.extractLsb' k len).setWidth w := by
  have hfit := hmask.1
  ext i hi
  rw [← BitVec.getLsbD_eq_getElem, ← BitVec.getLsbD_eq_getElem, BitVec.getLsbD_ushiftRight,
    BitVec.getLsbD_and, BitVec.getLsbD_setWidth, BitVec.getLsbD_extractLsb']
  rcases Nat.lt_or_ge i len with hlt | hge
  · rw [hmask.2 (k + i) (by omega)]
    simp [hlt, hi]
  · rcases Nat.lt_or_ge (k + i) w with hin | hout
    · rw [hmask.2 (k + i) hin, decide_eq_false (by omega)]
      simp [Nat.not_lt.mpr hge]
    · rw [BitVec.getLsbD_of_ge mask _ hout]
      simp [Nat.not_lt.mpr hge]

/-! ### Fields read by a shift -/

/-- Shifting down and masking reads the field. -/
lemma shifted_read (v : BitVec w) (k len : ℕ) (mask : BitVec w)
    (hmask : mask.toNat = 2 ^ len - 1) :
    ((v >>> k) &&& mask).toNat = (v.extractLsb' k len).toNat := by
  rw [BitVec.toNat_and, hmask, BitVec.toNat_ushiftRight, Nat.and_two_pow_sub_one_eq_mod,
    BitVec.extractLsb'_toNat]

/-- Testing one bit reads the field of that bit. -/
lemma bit_ne_zero_iff (v : BitVec w) {k : ℕ} (hk : k < w) :
    v &&& (1#w <<< k) ≠ 0 ↔ v.extractLsb' k 1 = BitVec.ofBool true := by
  have hbit : ∀ i < w, (v &&& (1#w <<< k)).getLsbD i = (decide (i = k) && v.getLsbD i) := by
    intro i hi
    rw [BitVec.getLsbD_and, BitVec.getLsbD_shiftLeft, BitVec.getLsbD_one]
    by_cases h : i = k
    · subst h
      simp [hi, Nat.zero_lt_of_lt hi]
    · have hne : i < k ∨ ¬ i - k = 0 := by omega
      rcases hne with hlt | hne
      · simp [h, hlt]
      · simp [h, hne]
  have hread : v.extractLsb' k 1 = BitVec.ofBool (v.getLsbD k) := by
    ext i hi
    obtain rfl : i = 0 := by omega
    rw [← BitVec.getLsbD_eq_getElem, BitVec.getLsbD_extractLsb', Nat.add_zero]
    simp
  rw [hread]
  constructor
  · intro hne
    have hk' : v.getLsbD k = true := by
      by_contra hclear
      refine hne (BitVec.eq_of_getLsbD_eq fun i hi => ?_)
      rw [hbit i hi]
      by_cases h : i = k
      · subst h
        simp [hclear]
      · simp [h]
    rw [hk']
  · intro heq hzero
    have hk' := hbit k hk
    rw [hzero] at hk'
    have hset : v.getLsbD k = true := by
      cases hv : v.getLsbD k with
      | true => rfl
      | false =>
          rw [hv] at heq
          exact absurd heq (by decide)
    simp [hset] at hk'

end BitField

end LibAjaNtv2
