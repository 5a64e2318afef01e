import Mathlib.Tactic
import LibAjaNtv2.Lib.MixedRadix
import LibAjaNtv2.Timecode.Hmsf

/-!
The clock that a timecode reads: seconds of `fps` frames, minutes of sixty seconds of which
nine in ten skip their first `drop` frame numbers.

* `DropClock`: the two numbers with the bounds that keep the arithmetic from wrapping;
* `DropClock.decode`, `DropClock.encode`: the digits of a frame and the frame of digits;
* `DropClock.Shows`: the digits the clock can show;
* `DropClock.encode_decode`, `DropClock.decode_shows`, `DropClock.decode_lt`: decoding is
  inverted by encoding, shows valid digits and is strictly increasing;
* `DropClock.decode_encode`, `DropClock.encode_lt_day`: it inverts encoding on the digits shown;
* `dropHmsf_eq_decode`, `nonDropHmsf_eq_decode`: the code decodes.
-/

namespace LibAjaNtv2

/-- A clock that drops frame numbers, with a day that fits a 32-bit word. -/
structure DropClock where
  fps : ℕ
  drop : ℕ
  drop_lt : drop < fps
  fits : fps * 86400 < 4294967296

namespace DropClock

variable (c : DropClock)

/-- The frames of a regular minute. -/
def minute : ℕ := c.fps * 60

/-- The frames of a drop minute. -/
def dropMinute : ℕ := c.fps * 60 - c.drop

/-- The frames of a block of ten minutes. -/
def tenMinutes : ℕ := c.minute + c.dropMinute * 9

/-- The frames of an hour. -/
def hour : ℕ := c.tenMinutes * 6

/-- The frames of a day. -/
def day : ℕ := c.hour * 24

/-- The frames of the first second of minute `m`. -/
def firstSecond (m : ℕ) : ℕ := if m % 10 = 0 then c.fps else c.fps - c.drop

/-- The minute inside a block of ten, and the frames left. -/
def unitCut (n : ℕ) : ℕ × ℕ := Radix.cut c.minute c.dropMinute (n % c.tenMinutes)

/-- The minute inside an hour. -/
def minuteOf (n : ℕ) : ℕ := 10 * (n / c.tenMinutes) + (c.unitCut n).1

/-- The second of frame `n` of an hour, and the frames left. -/
def secondCut (n : ℕ) : ℕ × ℕ :=
  Radix.cut (c.firstSecond (c.minuteOf n)) c.fps (c.unitCut n).2

/-- The digits of frame `n`. -/
def decode (n : ℕ) : Hmsf :=
  let k := n % c.hour
  let s := (c.secondCut k).1
  let f := (c.secondCut k).2
  { h := n / c.hour, m := c.minuteOf k, s := s,
    f := if s = 0 ∧ c.minuteOf k % 10 ≠ 0 then f + c.drop else f }

/-- The frame of the digits: the frame numbers up to it less the dropped ones. -/
def encode (x : Hmsf) : ℕ :=
  c.fps * (3600 * x.h + 60 * x.m + x.s) + x.f -
    c.drop * (60 * x.h + x.m - (60 * x.h + x.m) / 10)

/-- The digits that the clock shows: in range, and no dropped frame number. -/
structure Shows (x : Hmsf) : Prop where
  h_lt : x.h < 24
  m_lt : x.m < 60
  s_lt : x.s < 60
  f_lt : x.f < c.fps
  not_dropped : x.s = 0 → x.m % 10 ≠ 0 → c.drop ≤ x.f

end DropClock

/-- The order of the digits: hours first, frames last. -/
def Hmsf.Before (x y : Hmsf) : Prop :=
  x.h < y.h ∨ x.h = y.h ∧ (x.m < y.m ∨ x.m = y.m ∧ (x.s < y.s ∨ x.s = y.s ∧ x.f < y.f))

namespace DropClock

variable (c : DropClock)

/-! ### The radices -/

lemma fps_pos : 0 < c.fps := Nat.zero_lt_of_lt c.drop_lt

lemma minute_pos : 0 < c.minute := Nat.mul_pos c.fps_pos (by decide)

lemma dropMinute_add_drop : c.dropMinute + c.drop = c.minute := by
  have h := c.drop_lt
  rw [dropMinute, minute]
  omega

lemma dropMinute_pos : 0 < c.dropMinute := by
  have h := c.drop_lt
  rw [dropMinute]
  omega

lemma tenMinutes_pos : 0 < c.tenMinutes := by
  have h := c.minute_pos
  rw [tenMinutes]
  omega

lemma hour_pos : 0 < c.hour := Nat.mul_pos c.tenMinutes_pos (by decide)

lemma firstSecond_pos (m : ℕ) : 0 < c.firstSecond m := by
  have h := c.drop_lt
  rw [firstSecond]
  split <;> omega

/-! ### The digits are in range -/

lemma unitCut_fst_lt (n : ℕ) : (c.unitCut n).1 < 10 := by
  have h : n % c.tenMinutes < c.minute + c.dropMinute * 9 := Nat.mod_lt _ c.tenMinutes_pos
  exact Nat.lt_succ_of_le (Radix.cut_fst_le h)

lemma minuteOf_mod (n : ℕ) : c.minuteOf n % 10 = (c.unitCut n).1 := by
  have h := c.unitCut_fst_lt n
  rw [minuteOf]
  omega

lemma minuteOf_lt {n : ℕ} (h : n < c.hour) : c.minuteOf n < 60 := by
  have hT : n / c.tenMinutes < 6 := Nat.div_lt_of_lt_mul h
  have hu := c.unitCut_fst_lt n
  rw [minuteOf]
  omega

/-- The frames left behind the minute fit the minute. -/
lemma unitCut_snd_lt (n : ℕ) :
    (c.unitCut n).2 < c.firstSecond (c.minuteOf n) + c.fps * 59 := by
  have hlt := Radix.cut_snd_lt (A := c.minute) c.dropMinute_pos (n % c.tenMinutes)
  have hd := c.dropMinute_add_drop
  have hlt' := c.drop_lt
  rw [firstSecond, minuteOf_mod]
  rw [minute] at hd hlt
  change (c.unitCut n).2 < _ at hlt
  change _ < Radix.unitLength _ _ (c.unitCut n).1 at hlt
  cases hu : (c.unitCut n).1 with
  | zero =>
      rw [hu] at hlt
      simp only [Radix.unitLength] at hlt
      simp only [if_true]
      omega
  | succ u =>
      rw [hu] at hlt
      simp only [Radix.unitLength] at hlt
      rw [if_neg (Nat.succ_ne_zero u)]
      omega

lemma secondCut_fst_lt (n : ℕ) : (c.secondCut n).1 < 60 :=
  Nat.lt_succ_of_le (Radix.cut_fst_le (c.unitCut_snd_lt n))

/-- In a drop second the frames left and the dropped ones make less than a second. -/
lemma secondCut_snd_lt (n : ℕ) :
    (c.secondCut n).2 <
      if (c.secondCut n).1 = 0 then c.firstSecond (c.minuteOf n) else c.fps := by
  have hlt := Radix.cut_snd_lt (A := c.firstSecond (c.minuteOf n)) c.fps_pos (c.unitCut n).2
  change (c.secondCut n).2 < Radix.unitLength _ _ (c.secondCut n).1 at hlt
  cases hs : (c.secondCut n).1 with
  | zero =>
      rw [hs] at hlt
      simpa [Radix.unitLength] using hlt
  | succ s =>
      rw [hs] at hlt
      simpa [Radix.unitLength] using hlt

/-- **The clock shows what it decodes**: on one day every digit is in range and no dropped
frame number appears. -/
theorem decode_shows {n : ℕ} (h : n < c.day) : c.Shows (c.decode n) := by
  have hk : n % c.hour < c.hour := Nat.mod_lt _ c.hour_pos
  have hf := c.secondCut_snd_lt (n % c.hour)
  have hd := c.drop_lt
  refine ⟨?_, ?_, ?_, ?_, ?_⟩
  · exact Nat.div_lt_of_lt_mul h
  · exact c.minuteOf_lt hk
  · exact c.secondCut_fst_lt _
  · simp only [decode]
    simp only [firstSecond] at hf
    split_ifs at hf ⊢ <;> omega
  · intro hs hm
    simp only [decode] at hs hm ⊢
    rw [if_pos ⟨hs, hm⟩]
    omega

/-! ### Decoding is increasing -/

/-- Inside one minute the second and the frames left grow with the position. -/
lemma secondCut_lt {n n' : ℕ} (hm : c.minuteOf n = c.minuteOf n')
    (h : (c.unitCut n).2 < (c.unitCut n').2) :
    (c.secondCut n).1 < (c.secondCut n').1 ∨
      (c.secondCut n).1 = (c.secondCut n').1 ∧ (c.secondCut n).2 < (c.secondCut n').2 := by
  simp only [secondCut, hm]
  exact Radix.cut_lt_cut _ _ h

/-- **A later frame shows later digits.** -/
theorem decode_lt {n n' : ℕ} (h : n < n') : (c.decode n).Before (c.decode n') := by
  rcases Radix.divMod_lt_divMod c.hour h with hh | ⟨hh, hk⟩
  · exact .inl hh
  · refine .inr ⟨hh, ?_⟩
    simp only [decode]
    have hu := c.unitCut_fst_lt (n % c.hour)
    rcases Radix.divMod_lt_divMod c.tenMinutes hk with hT | ⟨hT, hT'⟩
    · refine .inl ?_
      simp only [minuteOf]
      omega
    · rcases Radix.cut_lt_cut c.minute c.dropMinute hT' with hm | ⟨hm, hm'⟩
      · refine .inl ?_
        simp only [minuteOf, unitCut]
        omega
      · have hmin : c.minuteOf (n % c.hour) = c.minuteOf (n' % c.hour) := by
          simp only [minuteOf, unitCut, hT, hm]
        refine .inr ⟨hmin, ?_⟩
        rcases c.secondCut_lt hmin hm' with hs | ⟨hs, hf⟩
        · exact .inl hs
        · refine .inr ⟨hs, ?_⟩
          by_cases hz : (c.secondCut (n' % c.hour)).1 = 0 ∧ c.minuteOf (n' % c.hour) % 10 ≠ 0
          · rw [if_pos hz, if_pos (by rwa [hs, hmin])]
            omega
          · rw [if_neg hz, if_neg (by rwa [hs, hmin])]
            exact hf

/-! ### A clock that drops nothing -/

lemma unitCut_snd_of_drop_zero {c : DropClock} (h₀ : c.drop = 0) (n : ℕ) :
    c.minuteOf n = n / c.minute ∧ (c.unitCut n).2 = n % c.minute := by
  have hdm : c.dropMinute = c.minute := by
    rw [dropMinute, minute, h₀, Nat.sub_zero]
  have hten : c.tenMinutes = c.minute * 10 := by
    rw [tenMinutes, hdm]
    ring
  have hcut : c.unitCut n = (n % (c.minute * 10) / c.minute, n % (c.minute * 10) % c.minute) := by
    rw [unitCut, hdm, hten, Radix.cut_self c.minute_pos]
  refine ⟨?_, ?_⟩
  · rw [minuteOf, hcut, hten, Nat.mod_mul_right_div_self, ← Nat.div_div_eq_div_mul]
    exact Nat.div_add_mod _ _
  · rw [hcut]
    exact Nat.mod_mul_right_mod n c.minute 10

/-- Without drops the digits are those of plain division. -/
lemma decode_of_drop_zero {c : DropClock} (h₀ : c.drop = 0) (n : ℕ) :
    c.decode n =
      { h := n / c.hour, m := n % c.hour / c.minute, s := n % c.hour % c.minute / c.fps,
        f := n % c.hour % c.minute % c.fps } := by
  obtain ⟨hm, hr⟩ := unitCut_snd_of_drop_zero h₀ (n % c.hour)
  have hfirst : c.firstSecond (c.minuteOf (n % c.hour)) = c.fps := by
    rw [firstSecond, h₀, Nat.sub_zero, ite_self]
  have hs : c.secondCut (n % c.hour) =
      (n % c.hour % c.minute / c.fps, n % c.hour % c.minute % c.fps) := by
    rw [secondCut, hfirst, hr, Radix.cut_self c.fps_pos]
  simp only [decode, hm, hs, h₀, Nat.add_zero, ite_self]

/-! ### Encoding inverts decoding -/

/-- The position inside the minute in terms of the digits. -/
lemma secondCut_position (n : ℕ) :
    c.fps * (c.secondCut n).1 + (if (c.secondCut n).1 = 0 ∧ c.minuteOf n % 10 ≠ 0 then
        (c.secondCut n).2 + c.drop else (c.secondCut n).2) =
      (c.unitCut n).2 + if c.minuteOf n % 10 = 0 then 0 else c.drop := by
  have hcut := Radix.start_add_cut (c.firstSecond (c.minuteOf n)) c.fps (c.unitCut n).2
  have hd := c.drop_lt
  change Radix.start _ _ (c.secondCut n).1 + (c.secondCut n).2 = _ at hcut
  cases hs : (c.secondCut n).1 with
  | zero =>
      rw [hs] at hcut
      simp only [Radix.start] at hcut
      split_ifs <;> omega
  | succ s =>
      rw [hs] at hcut
      simp only [Radix.start, firstSecond] at hcut
      rw [Nat.mul_succ, if_neg (by omega)]
      split_ifs at hcut ⊢ <;> omega

/-- The position inside a block of ten minutes. -/
lemma unitCut_position (n : ℕ) :
    c.minute * (c.unitCut n).1 + (c.unitCut n).2 +
        (if (c.unitCut n).1 = 0 then 0 else c.drop) =
      n % c.tenMinutes + c.drop * (c.unitCut n).1 := by
  have hcut := Radix.start_add_cut c.minute c.dropMinute (n % c.tenMinutes)
  have hd := c.dropMinute_add_drop
  change Radix.start _ _ (c.unitCut n).1 + (c.unitCut n).2 = _ at hcut
  cases hu : (c.unitCut n).1 with
  | zero =>
      rw [hu] at hcut
      simp only [Radix.start] at hcut
      simp
      omega
  | succ u =>
      rw [hu] at hcut
      simp only [Radix.start] at hcut
      rw [if_neg (Nat.succ_ne_zero u), ← hcut, ← hd]
      ring

/-- A block of ten minutes misses nine drops. -/
lemma tenMinutes_add_drops : c.tenMinutes + 9 * c.drop = c.fps * 600 := by
  have hd := c.dropMinute_add_drop
  have hm : c.minute = c.fps * 60 := rfl
  rw [tenMinutes]
  omega

/-- The numbers dropped before the minute of frame `k` of an hour. -/
lemma minuteOf_sub_div (h k : ℕ) :
    60 * h + c.minuteOf k - (60 * h + c.minuteOf k) / 10 =
      54 * h + 9 * (k / c.tenMinutes) + (c.unitCut k).1 := by
  have hu := c.unitCut_fst_lt k
  rw [minuteOf]
  omega

/-- The frame numbers up to a frame are the frames and the dropped numbers. -/
lemma number_decode (n : ℕ) :
    c.fps * (3600 * (c.decode n).h + 60 * (c.decode n).m + (c.decode n).s) + (c.decode n).f =
      n + c.drop * (60 * (c.decode n).h + (c.decode n).m -
        (60 * (c.decode n).h + (c.decode n).m) / 10) := by
  have hhour : c.tenMinutes * 6 * (n / c.hour) + n % c.hour = n := Nat.div_add_mod n c.hour
  simp only [decode]
  generalize n / c.hour = h at hhour ⊢
  generalize n % c.hour = k at hhour ⊢
  have hten := Nat.div_add_mod k c.tenMinutes
  have hs := c.secondCut_position k
  have hu := c.unitCut_position k
  have hdrops := c.tenMinutes_add_drops
  rw [minuteOf_sub_div]
  rw [← c.minuteOf_mod] at hu
  generalize hT : k / c.tenMinutes = T at hten ⊢
  generalize (if (c.secondCut k).1 = 0 ∧ c.minuteOf k % 10 ≠ 0 then
    (c.secondCut k).2 + c.drop else (c.secondCut k).2) = f at hs ⊢
  have hm : c.minuteOf k = 10 * T + (c.unitCut k).1 := by rw [minuteOf, hT]
  generalize (if c.minuteOf k % 10 = 0 then 0 else c.drop) = d at hs hu
  rw [c.minuteOf_mod] at hu
  rw [hm]
  calc c.fps * (3600 * h + 60 * (10 * T + (c.unitCut k).1) + (c.secondCut k).1) + f
      = c.fps * 600 * (6 * h + T) + c.minute * (c.unitCut k).1 +
          (c.fps * (c.secondCut k).1 + f) := by rw [minute]; ring
    _ = c.fps * 600 * (6 * h + T) + (c.minute * (c.unitCut k).1 + (c.unitCut k).2 + d) := by
        rw [hs]; ring
    _ = (c.tenMinutes + 9 * c.drop) * (6 * h + T) +
          (k % c.tenMinutes + c.drop * (c.unitCut k).1) := by rw [hu, hdrops]
    _ = c.tenMinutes * 6 * h + (c.tenMinutes * T + k % c.tenMinutes) +
          c.drop * (54 * h + 9 * T + (c.unitCut k).1) := by ring
    _ = n + c.drop * (54 * h + 9 * T + (c.unitCut k).1) := by rw [hten, hhour]

/-- **Encoding inverts decoding.** -/
theorem encode_decode (n : ℕ) : c.encode (c.decode n) = n := by
  rw [encode, number_decode, Nat.add_sub_cancel]

/-! ### The digits of a position -/

lemma unitCut_mod_hour (n : ℕ) : c.unitCut (n % c.hour) = c.unitCut n := by
  rw [unitCut, unitCut, hour, Nat.mod_mul_right_mod]

/-- The blocks of ten minutes are those of the hours and those in the hour. -/
lemma div_tenMinutes (n : ℕ) :
    n / c.tenMinutes = 6 * (n / c.hour) + n % c.hour / c.tenMinutes := by
  have hdm := Nat.div_add_mod n c.hour
  conv_lhs => rw [← hdm, hour, Nat.mul_assoc]
  rw [← hour, Nat.mul_add_div c.tenMinutes_pos]

/-- The drop minutes begun up to a frame. -/
lemma dropped_decode (n : ℕ) :
    60 * (c.decode n).h + (c.decode n).m - (60 * (c.decode n).h + (c.decode n).m) / 10 =
      9 * (n / c.tenMinutes) + (c.unitCut n).1 := by
  have hsub := c.minuteOf_sub_div (n / c.hour) (n % c.hour)
  rw [unitCut_mod_hour] at hsub
  rw [div_tenMinutes]
  change 60 * (n / c.hour) + c.minuteOf (n % c.hour) -
    (60 * (n / c.hour) + c.minuteOf (n % c.hour)) / 10 = _
  rw [hsub]
  ring

lemma decode_m_mod (n : ℕ) : (c.decode n).m % 10 = (c.unitCut n).1 := by
  rw [← c.unitCut_mod_hour n, ← minuteOf_mod]
  rfl

/-- The first second of a minute is that up to the first full one. -/
lemma decode_s_eq_zero_iff (n : ℕ) :
    (c.decode n).s = 0 ↔ (c.unitCut n).2 < c.firstSecond (c.unitCut n).1 := by
  have hm : (c.minuteOf (n % c.hour)) % 10 = (c.unitCut n).1 := c.decode_m_mod n
  have hlt := c.unitCut_fst_lt n
  have hfirst : c.firstSecond (c.minuteOf (n % c.hour)) = c.firstSecond (c.unitCut n).1 := by
    rw [firstSecond, firstSecond, hm, Nat.mod_eq_of_lt hlt]
  change (c.secondCut (n % c.hour)).1 = 0 ↔ _
  rw [secondCut, hfirst, unitCut_mod_hour]
  exact Radix.cut_fst_eq_zero_iff

/-- In the first second of a drop minute the number is that of the position and the drops. -/
lemma decode_f_of_firstSecond {n : ℕ} (hu : (c.unitCut n).1 ≠ 0)
    (hs : (c.unitCut n).2 < c.firstSecond (c.unitCut n).1) :
    (c.decode n).f = (c.unitCut n).2 + c.drop := by
  have hs' := (c.decode_s_eq_zero_iff n).mpr hs
  have hm : c.minuteOf (n % c.hour) % 10 = (c.unitCut n).1 := c.decode_m_mod n
  have hsec : (c.secondCut (n % c.hour)).1 = 0 := hs'
  have hcut := Radix.start_add_cut (c.firstSecond (c.minuteOf (n % c.hour))) c.fps
    (c.unitCut (n % c.hour)).2
  change Radix.start _ _ (c.secondCut (n % c.hour)).1 + (c.secondCut (n % c.hour)).2 = _ at hcut
  rw [hsec, Radix.start, Nat.zero_add, unitCut_mod_hour] at hcut
  rw [decode]
  simp only [hsec, hm, hcut]
  rw [if_pos ⟨trivial, hu⟩]

/-! ### Decoding inverts encoding -/

/-- The frames of the second before the frame with these digits. -/
def inSecond (x : Hmsf) : ℕ := if x.s = 0 ∧ x.m % 10 ≠ 0 then x.f - c.drop else x.f

/-- The frames of the minute before it. -/
def inMinute (x : Hmsf) : ℕ := Radix.start (c.firstSecond x.m) c.fps x.s + c.inSecond x

/-- The frames of the block of ten minutes before it. -/
def inTenMinutes (x : Hmsf) : ℕ :=
  Radix.start c.minute c.dropMinute (x.m % 10) + c.inMinute x

variable {c} {x : Hmsf}

lemma inSecond_lt (h : c.Shows x) :
    c.inSecond x < Radix.unitLength (c.firstSecond x.m) c.fps x.s := by
  have hf := h.f_lt
  have hnot := h.not_dropped
  have hd := c.drop_lt
  rw [inSecond]
  cases hs : x.s with
  | zero =>
      have hnot' := hnot hs
      rw [Radix.unitLength, firstSecond]
      by_cases hm : x.m % 10 = 0
      · rw [if_neg (fun h' => h'.2 hm), if_pos hm]
        exact hf
      · rw [if_pos ⟨rfl, hm⟩, if_neg hm]
        have hdrop := hnot' hm
        omega
  | succ s =>
      rw [Radix.unitLength, if_neg (by omega)]
      exact hf

lemma inMinute_lt (h : c.Shows x) :
    c.inMinute x < Radix.unitLength c.minute c.dropMinute (x.m % 10) := by
  have hs := h.s_lt
  have hd := c.drop_lt
  have hlt := Radix.start_add_lt (show x.s ≤ 59 by omega) (inSecond_lt h)
  change c.inMinute x < _ at hlt
  cases hu : x.m % 10 with
  | zero =>
      rw [firstSecond, if_pos hu] at hlt
      simp only [Radix.unitLength, minute]
      omega
  | succ u =>
      rw [firstSecond, if_neg (by omega)] at hlt
      simp only [Radix.unitLength, dropMinute]
      omega

lemma inTenMinutes_lt (h : c.Shows x) : c.inTenMinutes x < c.tenMinutes :=
  Radix.start_add_lt (show x.m % 10 ≤ 9 by omega) (inMinute_lt h)

/-- The digits behind whole hours and blocks of ten minutes. -/
lemma decode_position (h : c.Shows x) :
    c.decode (c.hour * x.h + (c.tenMinutes * (x.m / 10) + c.inTenMinutes x)) = x := by
  have hm := h.m_lt
  have hten := inTenMinutes_lt h
  have hhour : c.tenMinutes * (x.m / 10) + c.inTenMinutes x < c.hour := by
    have hmul : c.tenMinutes * (x.m / 10) ≤ c.tenMinutes * 5 :=
      Nat.mul_le_mul_left _ (by omega)
    rw [hour]
    omega
  have hdiv : (c.hour * x.h + (c.tenMinutes * (x.m / 10) + c.inTenMinutes x)) / c.hour = x.h := by
    rw [Nat.mul_add_div c.hour_pos, Nat.div_eq_of_lt hhour, Nat.add_zero]
  have hmod : (c.hour * x.h + (c.tenMinutes * (x.m / 10) + c.inTenMinutes x)) % c.hour =
      c.tenMinutes * (x.m / 10) + c.inTenMinutes x := by
    rw [Nat.mul_add_mod, Nat.mod_eq_of_lt hhour]
  have hunit : c.unitCut (c.tenMinutes * (x.m / 10) + c.inTenMinutes x) =
      (x.m % 10, c.inMinute x) := by
    rw [unitCut, Nat.mul_add_mod, Nat.mod_eq_of_lt hten]
    exact Radix.cut_start_add (inMinute_lt h)
  have hmin : c.minuteOf (c.tenMinutes * (x.m / 10) + c.inTenMinutes x) = x.m := by
    rw [minuteOf, hunit, Nat.mul_add_div c.tenMinutes_pos, Nat.div_eq_of_lt hten]
    omega
  have hsec : c.secondCut (c.tenMinutes * (x.m / 10) + c.inTenMinutes x) =
      (x.s, c.inSecond x) := by
    rw [secondCut, hmin, hunit]
    exact Radix.cut_start_add (inSecond_lt h)
  have hnot := h.not_dropped
  rw [decode, hdiv, hmod, hmin, hsec]
  simp only [inSecond]
  ext
  · rfl
  · rfl
  · rfl
  · simp only
    split_ifs with hz
    · have := hnot hz.1 hz.2
      omega
    · rfl

/-- **Decoding inverts encoding** on the digits that the clock shows. -/
theorem decode_encode (h : c.Shows x) : c.decode (c.encode x) = x := by
  have hdec := decode_position h
  have henc := c.encode_decode (c.hour * x.h + (c.tenMinutes * (x.m / 10) + c.inTenMinutes x))
  rw [hdec] at henc
  rw [henc, hdec]

/-- The frame of digits that the clock shows is one of the day. -/
theorem encode_lt_day (h : c.Shows x) : c.encode x < c.day := by
  have hdec := decode_position h
  have henc := c.encode_decode (c.hour * x.h + (c.tenMinutes * (x.m / 10) + c.inTenMinutes x))
  have hten := inTenMinutes_lt h
  have hm := h.m_lt
  have hh := h.h_lt
  have hmul : c.tenMinutes * (x.m / 10) ≤ c.tenMinutes * 5 := Nat.mul_le_mul_left _ (by omega)
  have hmul' : c.hour * x.h ≤ c.hour * 23 := Nat.mul_le_mul_left _ (by omega)
  rw [hdec] at henc
  rw [henc, day]
  rw [hour] at hmul' ⊢
  omega

end DropClock

/-! ### The code decodes -/

lemma dropMinutes_eq_cut (A B n : ℕ) : dropMinutes A B n = Radix.cut A B n := by
  rcases Nat.lt_or_ge n A with h | h
  · rw [dropMinutes, Radix.cut_of_lt h, if_neg (by omega)]
  · rw [dropMinutes, Radix.cut_of_le h, if_pos h, Nat.add_comm]

lemma dropSeconds_eq_cut (c : DropClock) (m n : ℕ) :
    dropSeconds c.fps (c.fps - c.drop) m n = Radix.cut (c.firstSecond m) c.fps n := by
  rw [dropSeconds, DropClock.firstSecond]
  split
  · exact (Radix.cut_self c.fps_pos n).symm
  · exact dropMinutes_eq_cut _ _ n

/-- The radices of a clock as the code computes them do not wrap. -/
lemma DropClock.words (c : DropClock) :
    toUInt32 (c.fps * 60) = c.minute ∧ toUInt32 ((c.fps : Int) - c.drop) = c.fps - c.drop ∧
      toUInt32 (59 * c.fps + (c.fps - c.drop : ℕ)) = c.dropMinute ∧
      toUInt32 (9 * c.dropMinute + c.minute) = c.tenMinutes ∧
      toUInt32 (c.tenMinutes * 6) = c.hour ∧ toUInt32 (c.hour * 24) = c.day := by
  have hfits := c.fits
  have hdl := c.drop_lt
  have hd := c.dropMinute_add_drop
  have hten := c.tenMinutes_add_drops
  rw [DropClock.minute] at hd
  refine ⟨?_, ?_, ?_, ?_, ?_, ?_⟩
  · refine toUInt32_of_eq (by simp [DropClock.minute]) ?_
    rw [DropClock.minute]
    omega
  · exact toUInt32_of_eq (by omega) (by omega)
  · exact toUInt32_of_eq (by omega) (by omega)
  · refine toUInt32_of_eq ?_ ?_
    · rw [DropClock.tenMinutes]
      push_cast
      ring
    · omega
  · refine toUInt32_of_eq (by simp [DropClock.hour]) ?_
    rw [DropClock.hour]
    omega
  · refine toUInt32_of_eq (by simp [DropClock.day]) ?_
    rw [DropClock.day, DropClock.hour]
    omega

/-- **The drop code decodes** the frame of the day. -/
theorem dropHmsf_eq_decode (c : DropClock) (n : ℕ) :
    dropHmsf c.fps c.drop n = c.decode (n % c.day) := by
  obtain ⟨hmin, hsec, hdrop, hten, hhr, hday⟩ := c.words
  simp only [dropHmsf, hmin, hsec, hdrop, hten, hhr, hday, dropMinutes_eq_cut,
    dropSeconds_eq_cut]
  rfl

/-- Without drops an hour has sixty equal minutes. -/
lemma DropClock.hour_of_drop_zero {c : DropClock} (h₀ : c.drop = 0) : c.hour = c.minute * 60 := by
  have hdm : c.dropMinute = c.minute := by
    rw [DropClock.dropMinute, DropClock.minute, h₀, Nat.sub_zero]
  rw [DropClock.hour, DropClock.tenMinutes, hdm]
  ring

/-- Without drops the hour as the code computes it does not wrap either. -/
lemma DropClock.hour_word {c : DropClock} (h₀ : c.drop = 0) : toUInt32 (c.minute * 60) = c.hour := by
  have hfits := c.fits
  have hhour := DropClock.hour_of_drop_zero h₀
  refine toUInt32_of_eq (by simp [hhour]) ?_
  rw [hhour, DropClock.minute]
  omega

/-- **The non-drop code decodes** on a clock that drops nothing. -/
theorem nonDropHmsf_eq_decode {c : DropClock} (h₀ : c.drop = 0) (n : ℕ) :
    nonDropHmsf c.fps n = c.decode (n % c.day) := by
  obtain ⟨hmin, -, -, -, -, hday⟩ := c.words
  simp only [nonDropHmsf, hmin, DropClock.hour_word h₀, hday]
  exact (DropClock.decode_of_drop_zero h₀ _).symm

end LibAjaNtv2
