import Mathlib.Tactic

/-!
Planes one after another, each of rows of the same size, and the rows of a region the other way
round.

* `Planes`, `Planes.start`, `Planes.total`: where the planes begin and where the last one ends;
* `Planes.Holds`: a row that holds a position; `existsUnique_holds`: **every position is in one row
  of one plane**;
* `swapAt`, `flipAt`: two chunks exchanged, and the rows of a region reversed, as maps of
  positions; `swapAt_flipAt`: **exchanging the outer rows and reversing the inner ones reverses
  them all**; `flipAt_flipAt`: twice is nothing;
* `composeUpTo`, `Planes.flip`: maps one after another, and the rows of one plane reversed from a
  row on; `composeUpTo_flip`: **all planes reversed, each in itself**.
-/

namespace LibAjaNtv2

/-- So many planes, with the rows of each and the size of a row. -/
structure Planes where
  count : ℕ
  rows : ℕ → ℕ
  pitch : ℕ → ℕ

namespace Planes

variable (P : Planes) {p q r b : ℕ}

/-- The size of a plane. -/
def size (p : ℕ) : ℕ := P.rows p * P.pitch p

/-- Where a plane begins. -/
def start (p : ℕ) : ℕ := ∑ q ∈ Finset.range p, P.size q

/-- Where the last one ends. -/
def total : ℕ := P.start P.count

variable {P}

@[simp] lemma start_zero : P.start 0 = 0 := rfl

lemma start_succ (p : ℕ) : P.start (p + 1) = P.start p + P.size p := Finset.sum_range_succ _ _

lemma start_mono (h : p ≤ q) : P.start p ≤ P.start q :=
  Finset.sum_le_sum_of_subset (Finset.range_mono h)

lemma start_succ_le (h : p < q) : P.start p + P.size p ≤ P.start q :=
  (start_succ p).symm.le.trans (start_mono h)

lemma end_le_total (h : p < P.count) : P.start p + P.size p ≤ P.total := start_succ_le h

/-- A row of a plane holds a position. -/
structure Holds (P : Planes) (p r b : ℕ) : Prop where
  plane : p < P.count
  row : r < P.rows p
  lower : P.start p + r * P.pitch p ≤ b
  upper : b < P.start p + (r + 1) * P.pitch p

namespace Holds

lemma start_le (h : P.Holds p r b) : P.start p ≤ b := (Nat.le_add_right _ _).trans h.lower

lemma lt_start_succ (h : P.Holds p r b) : b < P.start p + P.size p :=
  h.upper.trans_le (Nat.add_le_add_left (Nat.mul_le_mul_right _ h.row) _)

/-- The row is the number of whole rows before the position. -/
lemma div_eq (h : P.Holds p r b) : (b - P.start p) / P.pitch p = r := by
  have hlower := h.lower
  have hupper := h.upper
  rw [Nat.succ_mul] at hupper
  rw [show b - P.start p = b - P.start p - r * P.pitch p + P.pitch p * r by
    rw [Nat.mul_comm (P.pitch p)]; omega, Nat.add_mul_div_left _ _ (by omega),
    Nat.div_eq_of_lt (by omega), Nat.zero_add]

/-- The plane is the one between whose ends the position lies. -/
lemma plane_eq (h : P.Holds p r b) (hle : P.start q ≤ b) (hlt : b < P.start q + P.size q) :
    q = p := by
  rcases Nat.lt_trichotomy q p with hqp | heq | hpq
  · exact absurd (hlt.trans_le ((start_succ_le hqp).trans h.start_le)) (lt_irrefl b)
  · exact heq
  · exact absurd (h.lt_start_succ.trans_le ((start_succ_le hpq).trans hle)) (lt_irrefl b)

lemma unique (h : P.Holds p r b) {p' r' : ℕ} (h' : P.Holds p' r' b) : p' = p ∧ r' = r := by
  obtain rfl := h.plane_eq h'.start_le h'.lt_start_succ
  exact ⟨rfl, h'.div_eq.symm.trans h.div_eq⟩

end Holds

/-- A position between the ends of a plane is in one of its rows. -/
lemma holds_of_between (hp : p < P.count) (hle : P.start p ≤ b)
    (hlt : b < P.start p + P.size p) : P.Holds p ((b - P.start p) / P.pitch p) b := by
  have hsize : b - P.start p < P.rows p * P.pitch p := by
    have hlt' : b < P.start p + P.rows p * P.pitch p := hlt
    omega
  have hpos : 0 < P.pitch p := Nat.pos_of_ne_zero fun hzero => by
    rw [hzero, Nat.mul_zero] at hsize
    exact absurd hsize (Nat.not_lt_zero _)
  have hmod := Nat.div_add_mod (b - P.start p) (P.pitch p)
  have hrem := Nat.mod_lt (b - P.start p) hpos
  refine ⟨hp, (Nat.div_lt_iff_lt_mul hpos).mpr hsize, ?_, ?_⟩
  · rw [Nat.mul_comm]
    omega
  · rw [Nat.succ_mul, Nat.mul_comm]
    omega

/-- Before the end there is a plane for every position. -/
lemma exists_between {n : ℕ} (h : b < P.start n) :
    ∃ p < n, P.start p ≤ b ∧ b < P.start p + P.size p := by
  induction n with
  | zero => exact absurd h (Nat.not_lt_zero b)
  | succ n ih =>
      rcases Nat.lt_or_ge b (P.start n) with hlt | hle
      · obtain ⟨p, hp, hbetween⟩ := ih hlt
        exact ⟨p, hp.trans (Nat.lt_succ_self n), hbetween⟩
      · exact ⟨n, Nat.lt_succ_self n, hle, (start_succ n) ▸ h⟩

/-- **Every position is in one row of one plane.** -/
lemma existsUnique_holds (h : b < P.total) :
    ∃ p r, P.Holds p r b ∧ ∀ p' r', P.Holds p' r' b → p' = p ∧ r' = r := by
  obtain ⟨p, hp, hle, hlt⟩ := exists_between h
  exact ⟨p, _, holds_of_between hp hle hlt, fun _ _ h' => (holds_of_between hp hle hlt).unique h'⟩

end Planes

/-! ### Rows the other way round -/

/-- Two chunks of a size exchanged. -/
def swapAt (x y size i : ℕ) : ℕ :=
  if x ≤ i ∧ i < x + size then y + (i - x)
  else if y ≤ i ∧ i < y + size then x + (i - y) else i

/-- So many rows from a base on, the last one first. -/
def flipAt (base pitch n i : ℕ) : ℕ :=
  if base ≤ i ∧ i < base + n * pitch then
    base + (n - 1 - (i - base) / pitch) * pitch + (i - base) % pitch
  else i

section Flip

variable {base pitch n i r k : ℕ}

/-- A cell of a row. -/
lemma flipAt_row (hr : r < n) (hk : k < pitch) :
    flipAt base pitch n (base + r * pitch + k) = base + (n - 1 - r) * pitch + k := by
  have hend : r * pitch + pitch ≤ n * pitch := by
    rw [← Nat.succ_mul]
    exact Nat.mul_le_mul_right pitch hr
  rw [flipAt, if_pos ⟨by omega, by omega⟩,
    show base + r * pitch + k - base = k + pitch * r by rw [Nat.mul_comm pitch]; omega,
    Nat.add_mul_div_left _ _ (by omega), Nat.add_mul_mod_self_left, Nat.div_eq_of_lt hk,
    Nat.mod_eq_of_lt hk, Nat.zero_add]

lemma flipAt_of_not (h : ¬ (base ≤ i ∧ i < base + n * pitch)) : flipAt base pitch n i = i :=
  if_neg h

/-- Every cell of the region is one of a row. -/
lemma exists_row (h : base ≤ i ∧ i < base + n * pitch) :
    ∃ r < n, ∃ k < pitch, i = base + r * pitch + k := by
  have hpos : 0 < pitch := Nat.pos_of_ne_zero fun hzero => by
    rw [hzero, Nat.mul_zero] at h
    omega
  refine ⟨(i - base) / pitch, (Nat.div_lt_iff_lt_mul hpos).mpr (by omega), (i - base) % pitch,
    Nat.mod_lt _ hpos, ?_⟩
  have hmod := Nat.div_add_mod (i - base) pitch
  rw [Nat.mul_comm] at hmod
  omega

/-- Reversing twice is nothing. -/
@[simp] lemma flipAt_flipAt : flipAt base pitch n (flipAt base pitch n i) = i := by
  by_cases h : base ≤ i ∧ i < base + n * pitch
  · obtain ⟨r, hr, k, hk, rfl⟩ := exists_row h
    rw [flipAt_row hr hk, flipAt_row (by omega) hk, show n - 1 - (n - 1 - r) = r by omega]
  · rw [flipAt_of_not h, flipAt_of_not h]

/-- One row, or none, stays. -/
lemma flipAt_of_le_one (hn : n ≤ 1) : flipAt base pitch n i = i := by
  by_cases h : base ≤ i ∧ i < base + n * pitch
  · obtain ⟨r, hr, k, hk, rfl⟩ := exists_row h
    rw [flipAt_row hr hk, show n - 1 - r = r by omega]
  · exact flipAt_of_not h

/-- **The outer rows exchanged and the inner ones reversed** are all of them reversed. -/
lemma swapAt_flipAt (hn : 2 ≤ n) :
    swapAt base (base + (n - 1) * pitch) pitch (flipAt (base + pitch) pitch (n - 2) i) =
      flipAt base pitch n i := by
  obtain ⟨n, rfl⟩ : ∃ k, n = k + 2 := ⟨n - 2, by omega⟩
  rw [Nat.add_sub_cancel, show n + 2 - 1 = n + 1 by omega]
  have hlast : (n + 1) * pitch = n * pitch + pitch := Nat.succ_mul _ _
  have hall : (n + 2) * pitch = n * pitch + pitch + pitch := by rw [Nat.succ_mul, hlast]
  by_cases h : base ≤ i ∧ i < base + (n + 2) * pitch
  · obtain ⟨r, hr, k, hk, rfl⟩ := exists_row h
    rw [flipAt_row hr hk, show n + 2 - 1 - r = n + 1 - r by omega]
    rcases Nat.eq_zero_or_pos r with rfl | hpos
    · -- the first row
      rw [Nat.zero_mul, Nat.add_zero, flipAt_of_not (by omega), swapAt, if_pos (by omega),
        Nat.sub_zero]
      omega
    · obtain ⟨r, rfl⟩ : ∃ j, r = j + 1 := ⟨r - 1, by omega⟩
      have hrow : (r + 1) * pitch = r * pitch + pitch := Nat.succ_mul _ _
      rcases Nat.eq_or_lt_of_le (show r ≤ n by omega) with rfl | hlt
      · -- the last row
        rw [flipAt_of_not (by omega), swapAt, if_neg (by omega), if_pos (by omega),
          Nat.sub_self, Nat.zero_mul]
        omega
      · have hle : r * pitch + pitch ≤ n * pitch := by
          rw [← hrow]
          exact Nat.mul_le_mul_right pitch hlt
        have hle' : (n - 1 - r) * pitch + pitch ≤ n * pitch := by
          rw [← Nat.succ_mul]
          exact Nat.mul_le_mul_right pitch (by omega)
        have hback : (n + 1 - (r + 1)) * pitch = (n - 1 - r) * pitch + pitch := by
          rw [← Nat.succ_mul]
          congr 1
          omega
        rw [show base + (r + 1) * pitch + k = base + pitch + r * pitch + k by omega,
          flipAt_row hlt hk, swapAt, if_neg (by omega), if_neg (by omega), hback]
        omega
  · rw [flipAt_of_not h, flipAt_of_not (by omega), swapAt, if_neg (by omega), if_neg (by omega)]

lemma flipAt_injective : Function.Injective (flipAt base pitch n) :=
  Function.LeftInverse.injective fun _ => flipAt_flipAt

end Flip

/-! ### Planes the other way round -/

/-- Maps of positions one after another, the last one first. -/
def composeUpTo (f : ℕ → ℕ → ℕ) : ℕ → ℕ → ℕ
  | 0, i => i
  | n + 1, i => composeUpTo f n (f n i)

/-- Only the maps that are made matter. -/
lemma composeUpTo_congr {f g : ℕ → ℕ → ℕ} {n : ℕ} (h : ∀ p < n, ∀ i, f p i = g p i) (i : ℕ) :
    composeUpTo f n i = composeUpTo g n i := by
  induction n generalizing i with
  | zero => rfl
  | succ n ih =>
      rw [composeUpTo, composeUpTo, h n (Nat.lt_succ_self n)]
      exact ih (fun p hp => h p (hp.trans (Nat.lt_succ_self n))) _

namespace Planes

/-- The rows of a plane reversed, from a row on. -/
def flip (P : Planes) (lo : ℕ → ℕ) (p i : ℕ) : ℕ :=
  flipAt (P.start p + lo p * P.pitch p) (P.pitch p) (P.rows p - lo p) i

variable {P : Planes} {lo : ℕ → ℕ} {p q n i r k : ℕ}

/-- What lies outside of a plane stays. -/
lemma flip_of_not (h : ¬ (P.start p ≤ i ∧ i < P.start p + P.size p)) : P.flip lo p i = i := by
  rcases Nat.le_total (P.rows p) (lo p) with hle | hle
  · exact flipAt_of_le_one (by omega)
  · refine flipAt_of_not fun hbetween => h ?_
    have hsize : lo p * P.pitch p + (P.rows p - lo p) * P.pitch p = P.size p := by
      rw [← Nat.add_mul, Nat.add_sub_cancel' hle]
      rfl
    omega

@[simp] lemma flip_flip : P.flip lo p (P.flip lo p i) = i := flipAt_flipAt

/-- A plane stays in itself. -/
lemma flip_between (h : P.start p ≤ i ∧ i < P.start p + P.size p) :
    P.start p ≤ P.flip lo p i ∧ P.flip lo p i < P.start p + P.size p := by
  by_contra hnot
  have hfix := @flip_of_not P lo p _ hnot
  rw [flip_flip] at hfix
  exact hnot (hfix ▸ h)

/-- A row that is reversed. -/
lemma flip_row (hlo : lo p ≤ r) (hr : r < P.rows p) (hk : k < P.pitch p) :
    P.flip lo p (P.start p + r * P.pitch p + k) =
      P.start p + (lo p + P.rows p - 1 - r) * P.pitch p + k := by
  obtain ⟨j, rfl⟩ := Nat.exists_eq_add_of_le hlo
  have hback : lo p + P.rows p - 1 - (lo p + j) = lo p + (P.rows p - lo p - 1 - j) := by omega
  rw [Planes.flip, Nat.add_mul, ← Nat.add_assoc, flipAt_row (by omega) hk, hback, Nat.add_mul,
    ← Nat.add_assoc]

/-- A row before them. -/
lemma flip_of_lt (hr : r < lo p) (hk : k < P.pitch p) :
    P.flip lo p (P.start p + r * P.pitch p + k) = P.start p + r * P.pitch p + k := by
  have hle : r * P.pitch p + P.pitch p ≤ lo p * P.pitch p := by
    rw [← Nat.succ_mul]
    exact Nat.mul_le_mul_right _ hr
  exact flipAt_of_not (by omega)

/-- **All planes reversed**: a position of a plane goes where that plane's map takes it. -/
lemma composeUpTo_flip (h : P.start q ≤ i ∧ i < P.start q + P.size q) :
    composeUpTo (P.flip lo) n i = if q < n then P.flip lo q i else i := by
  induction n generalizing i with
  | zero => rfl
  | succ n ih =>
      rw [composeUpTo]
      rcases Nat.lt_trichotomy q n with hlt | rfl | hlt
      · have hnot : ¬ (P.start n ≤ i ∧ i < P.start n + P.size n) := by
          have hle := start_succ_le (P := P) hlt
          omega
        rw [flip_of_not hnot, ih h, if_pos hlt, if_pos (by omega)]
      · rw [ih (flip_between h), if_neg (lt_irrefl q), if_pos (Nat.lt_succ_self q)]
      · have hnot : ¬ (P.start n ≤ i ∧ i < P.start n + P.size n) := by
          have hle := start_succ_le (P := P) hlt
          omega
        rw [flip_of_not hnot, ih h, if_neg (by omega), if_neg (by omega)]

/-- What lies after the planes stays. -/
lemma composeUpTo_flip_of_le (h : P.start n ≤ i) : composeUpTo (P.flip lo) n i = i := by
  induction n with
  | zero => rfl
  | succ n ih =>
      rw [start_succ] at h
      rw [composeUpTo, flip_of_not (by omega), ih (by omega)]

/-- Reversing all planes twice is nothing. -/
lemma composeUpTo_flip_twice :
    composeUpTo (P.flip lo) n (composeUpTo (P.flip lo) n i) = i := by
  rcases Nat.lt_or_ge i (P.start n) with hlt | hle
  · obtain ⟨q, hq, hbetween⟩ := exists_between hlt
    rw [composeUpTo_flip hbetween, if_pos hq, composeUpTo_flip (flip_between hbetween), if_pos hq,
      flip_flip]
  · rw [composeUpTo_flip_of_le hle, composeUpTo_flip_of_le hle]

end Planes

end LibAjaNtv2
