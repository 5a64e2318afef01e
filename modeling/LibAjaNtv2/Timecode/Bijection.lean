import Mathlib.Tactic
import LibAjaNtv2.Timecode.DropClock

/-!
Frame counts and timecodes determine each other, up to the drop seconds of the lowest rates.

* `rateClock`: the clock of a rate, a drop flag and a counting mode;
* `AJATimeCode.framesPerDay`: the frames of 24 hours;
* `CalcHmsf_eq`: the digits are those of the clock, the remainder that of the division;
* `dropCount_decode_iff`: the drop count misses the first frame of a drop minute when one
  number is dropped, and no other frame;
* `countsBack_iff`, `isTimecode_iff`: when the two functions invert each other, with the
  order and the range of the digits.
-/

namespace LibAjaNtv2

open AJA_FrameRate

/-! ### The clock of a rate -/

/-- The time scale after the division for standard timecode. -/
def scaledRate (r : AJA_FrameRate) (bStdTcForHfr : Bool) : Int :=
  (AJATimeBase.ofRate r).mFrameTimeScale.tdiv (hfrDivisor r bStdTcForHfr)

/-- The clock of a rate: the rounded rate, and the dropped frame numbers if any are. -/
def rateClock (r : AJA_FrameRate) (bDropFrame bStdTcForHfr : Bool) : DropClock where
  fps := roundedRate (scaledRate r bStdTcForHfr) (AJATimeBase.ofRate r).mFrameDuration
  drop := if bDropFrame = true then
      droppedFrames (scaledRate r bStdTcForHfr) (AJATimeBase.ofRate r).mFrameDuration
    else 0
  drop_lt := by
    cases r <;> cases bStdTcForHfr <;> cases bDropFrame <;> decide +kernel
  fits := by
    cases r <;> cases bStdTcForHfr <;> decide +kernel

/-- One number at least is dropped, and exactly one at the rates below 23.98. -/
lemma rateClock_drop {r : AJA_FrameRate} (hr : r.Supported) (bStdTcForHfr : Bool) :
    1 ≤ (rateClock r true bStdTcForHfr).drop ∧
      ((rateClock r true bStdTcForHfr).drop = 1 ↔ ¬ AJA_FrameRate_2398 ≤ r) := by
  cases r with
  | AJA_FrameRate_Unknown => exact absurd rfl hr
  | _ => cases bStdTcForHfr <;> decide +kernel

/-- The rate of a supported rate is a proper one. -/
lemma scaledRate_proper (r : AJA_FrameRate) (bStdTcForHfr : Bool) :
    (AJATimeBase.ofRate r).mFrameTimeScale ≠ 0 ∧ (AJATimeBase.ofRate r).mFrameDuration ≠ 0 ∧
      scaledRate r bStdTcForHfr ≠ 0 ∧
      ¬ scaledRate r bStdTcForHfr < (AJATimeBase.ofRate r).mFrameDuration := by
  cases r <;> cases bStdTcForHfr <;> decide +kernel

lemma hfrDivisor_pos (r : AJA_FrameRate) (bStdTcForHfr : Bool) :
    0 < hfrDivisor r bStdTcForHfr := by
  rw [hfrDivisor]
  split_ifs <;> decide

lemma hfrDivisor_of_full (r : AJA_FrameRate) : hfrDivisor r false = 1 := by
  simp [hfrDivisor]

lemma day_mul_hfrDivisor_lt (r : AJA_FrameRate) (bDropFrame bStdTcForHfr : Bool) :
    (rateClock r bDropFrame bStdTcForHfr).day * hfrDivisor r bStdTcForHfr + 8 < 4294967296 := by
  cases r <;> cases bStdTcForHfr <;> cases bDropFrame <;> decide +kernel

/-- **The digits are those of the clock**, the remainder that of the division. -/
theorem CalcHmsf_eq {r : AJA_FrameRate} (hr : r.Supported) (bDropFrame bStdTcForHfr : Bool)
    (n : ℕ) :
    AJATimeCode.CalcHmsf n (.ofRate r) bDropFrame bStdTcForHfr =
      ((rateClock r bDropFrame bStdTcForHfr).decode
        (n / hfrDivisor r bStdTcForHfr % (rateClock r bDropFrame bStdTcForHfr).day),
        n % hfrDivisor r bStdTcForHfr) := by
  obtain ⟨-, hdur, hne, hlt⟩ := scaledRate_proper r bStdTcForHfr
  rw [scaledRate] at hne hlt
  simp only [AJATimeCode.CalcHmsf, GetAJAFrameRate_ofRate hr]
  rw [if_neg (by tauto)]
  cases bDropFrame with
  | false =>
      rw [if_pos rfl, ← nonDropHmsf_eq_decode (c := rateClock r false bStdTcForHfr) rfl]
      rfl
  | true =>
      rw [if_neg (by decide), ← dropHmsf_eq_decode (rateClock r true bStdTcForHfr)]
      rfl

namespace DropClock

/-! ### Counting the digits back -/

variable (c : DropClock)

/-- The first frame of a drop minute. -/
def FirstOfDropMinute (n : ℕ) : Prop :=
  c.minute ≤ n % c.tenMinutes ∧ (n % c.tenMinutes - c.minute) % c.dropMinute = 0

instance (n : ℕ) : Decidable (c.FirstOfDropMinute n) := inferInstanceAs (Decidable (_ ∧ _))

/-- The first frame of a drop minute is behind a first minute, with nothing left. -/
lemma firstOfDropMinute_iff (n : ℕ) :
    c.FirstOfDropMinute n ↔ (c.unitCut n).1 ≠ 0 ∧ (c.unitCut n).2 = 0 := by
  rw [FirstOfDropMinute, unitCut]
  rcases Nat.lt_or_ge (n % c.tenMinutes) c.minute with h | h
  · simp [Radix.cut_of_lt h]
    omega
  · simp [Radix.cut_of_le h, h]

lemma firstOfDropMinute_mod_hour (n : ℕ) :
    c.FirstOfDropMinute (n % c.hour) ↔ c.FirstOfDropMinute n := by
  rw [FirstOfDropMinute, FirstOfDropMinute, hour, Nat.mod_mul_right_mod]

/-- A minute starts with its second zero and nothing left. -/
lemma secondCut_eq_zero_iff (n : ℕ) :
    (c.secondCut n).1 = 0 ∧ (c.secondCut n).2 = 0 ↔ (c.unitCut n).2 = 0 := by
  have hcut := Radix.start_add_cut (c.firstSecond (c.minuteOf n)) c.fps (c.unitCut n).2
  constructor
  · rintro ⟨h₁, h₂⟩
    rw [secondCut] at h₁ h₂
    rw [← hcut, h₁, h₂]
    rfl
  · intro h
    rw [secondCut, h, Radix.cut_of_lt (c.firstSecond_pos _)]
    exact ⟨rfl, rfl⟩

/-- With one dropped number the first frame of a drop minute is the frame numbered one. -/
lemma firstOfDropMinute_iff_digits (h₁ : c.drop = 1) (n : ℕ) :
    c.FirstOfDropMinute n ↔
      (c.decode n).s = 0 ∧ (c.decode n).m % 10 ≠ 0 ∧ (c.decode n).f < 2 := by
  rw [← firstOfDropMinute_mod_hour, firstOfDropMinute_iff, ← secondCut_eq_zero_iff,
    ← minuteOf_mod]
  simp only [decode, h₁]
  constructor
  · rintro ⟨hm, hs, hf⟩
    refine ⟨hs, hm, ?_⟩
    rw [if_pos ⟨hs, hm⟩, hf]
    decide
  · rintro ⟨hs, hm, hf⟩
    rw [if_pos ⟨hs, hm⟩] at hf
    exact ⟨hm, hs, by omega⟩

/-- A day leaves room in a word. -/
lemma day_add_two_lt : c.day + 2 < 4294967296 := by
  have hd := c.tenMinutes_add_drops
  have hfits := c.fits
  rw [day, hour]
  omega

lemma hourFrames_eq : toUInt32 ((c.fps : Int) * 60 * 60) = c.fps * 3600 := by
  have hlt : c.fps * 3600 < 4294967296 :=
    (Nat.mul_le_mul_left c.fps (by norm_num)).trans_lt c.fits
  exact toUInt32_of_eq (by push_cast; ring) hlt

lemma minuteFrames_eq : toUInt32 ((c.fps : Int) * 60) = c.fps * 60 := by
  have hfits := c.fits
  exact toUInt32_of_eq (by push_cast; ring) (by omega)

/-- The drop count of the digits of a frame with another frame number: the frame moved by the
difference, a dropped number rounded up. -/
lemma dropCount_frames {n : ℕ} (hn : n < c.day) (f : ℕ) :
    dropCount c.fps c.drop (c.decode n).h (c.decode n).m (c.decode n).s f =
      toUInt32 (n + (if (c.decode n).s = 0 ∧ (c.decode n).m % 10 ≠ 0 ∧ f < 2 then 2 else f : ℕ) -
        (c.decode n).f) := by
  have hshow := c.decode_shows hn
  have hnum := c.number_decode n
  generalize c.decode n = x at hshow hnum ⊢
  have hh := hshow.h_lt
  have hm := hshow.m_lt
  have htot : toUInt32 (60 * x.h + x.m) = 60 * x.h + x.m :=
    toUInt32_of_eq (by push_cast; ring) (by omega)
  have hadj : (x.s = 0 ∧ x.m % 10 > 0 ∧ f - f % 2 = 0) ↔
      (x.s = 0 ∧ x.m % 10 ≠ 0 ∧ f < 2) := by omega
  -- the numbers up to the frame, in the integers the code computes with
  have hcount : ∀ f : ℕ, ((c.fps * 3600 : ℕ) * x.h + (c.fps * 60 : ℕ) * x.m + c.fps * x.s + f -
      c.drop * ((60 * x.h + x.m : ℕ) - (60 * x.h + x.m : ℕ) / 10) : Int) = n + f - x.f := by
    intro f
    have hsub : ((60 * x.h + x.m - (60 * x.h + x.m) / 10 : ℕ) : Int) =
        (60 * x.h + x.m : ℕ) - (60 * x.h + x.m : ℕ) / 10 := by omega
    have hnum' : (c.fps * (3600 * x.h + 60 * x.m + x.s) + x.f : Int) =
        n + c.drop * ((60 * x.h + x.m - (60 * x.h + x.m) / 10 : ℕ) : Int) := by
      exact_mod_cast hnum
    rw [hsub] at hnum'
    push_cast at hnum' ⊢
    linear_combination hnum'
  simp only [dropCount, c.hourFrames_eq, c.minuteFrames_eq, htot, hadj]
  exact congrArg toUInt32 (hcount _)

/-- The drop count of the digits of a frame: the frame, but for the rounding up. -/
lemma dropCount_decode {n : ℕ} (hn : n < c.day) :
    dropCount c.fps c.drop (c.decode n).h (c.decode n).m (c.decode n).s (c.decode n).f =
      if (c.decode n).s = 0 ∧ (c.decode n).m % 10 ≠ 0 ∧ (c.decode n).f < 2 then
        n + (2 - (c.decode n).f) else n := by
  have hday := c.day_add_two_lt
  rw [c.dropCount_frames hn]
  split_ifs with h
  · exact toUInt32_of_eq (by omega) (by omega)
  · exact toUInt32_of_eq (by omega) (by omega)

/-- **The drop count inverts the decoding** but for the first frame of a drop minute where one
number is dropped. -/
theorem dropCount_decode_iff (hdrop : 1 ≤ c.drop) {n : ℕ} (hn : n < c.day) :
    dropCount c.fps c.drop (c.decode n).h (c.decode n).m (c.decode n).s (c.decode n).f = n ↔
      ¬ (c.drop = 1 ∧ c.FirstOfDropMinute n) := by
  have hnot := (c.decode_shows hn).not_dropped
  rw [c.dropCount_decode hn]
  by_cases h₁ : c.drop = 1
  · rw [c.firstOfDropMinute_iff_digits h₁]
    split_ifs with h
    · have hf := h.2.2
      constructor
      · intro heq
        omega
      · intro hno
        exact absurd ⟨h₁, h⟩ hno
    · simp only [h₁, true_and, h, not_false_eq_true]
  · rw [if_neg (fun h => by have := hnot h.1 h.2.1; omega)]
    simp [h₁]

/-- The plain count of the digits of a frame with another frame number, on a clock that drops
nothing: the frame moved by the difference. -/
lemma nonDropCount_frames (h₀ : c.drop = 0) (n f : ℕ) :
    nonDropCount c.fps (c.decode n).h (c.decode n).m (c.decode n).s f =
      toUInt32 (n + f - (c.decode n).f) := by
  have hnum := c.number_decode n
  generalize c.decode n = x at hnum ⊢
  rw [h₀, Nat.zero_mul, Nat.add_zero] at hnum
  simp only [nonDropCount, c.hourFrames_eq, c.minuteFrames_eq]
  refine congrArg toUInt32 ?_
  rw [← hnum]
  push_cast
  ring

/-- The plain count inverts the decoding of a clock that drops nothing. -/
theorem nonDropCount_decode (h₀ : c.drop = 0) {n : ℕ} (hn : n < c.day) :
    nonDropCount c.fps (c.decode n).h (c.decode n).m (c.decode n).s (c.decode n).f = n := by
  have hday := c.day_add_two_lt
  rw [c.nonDropCount_frames h₀]
  exact toUInt32_of_eq (by omega) (by omega)

end DropClock

namespace AJATimeCode

/-- The frames of 24 hours. -/
def framesPerDay (r : AJA_FrameRate) (bDropFrame bStdTcForHfr : Bool) : ℕ :=
  (rateClock r bDropFrame bStdTcForHfr).day * hfrDivisor r bStdTcForHfr

/-- The order of timecodes with a remainder: the digits first. -/
def Before (x y : Hmsf × ℕ) : Prop := x.1.Before y.1 ∨ x.1 = y.1 ∧ x.2 < y.2

variable {r : AJA_FrameRate} {bDropFrame bStdTcForHfr : Bool} {n n' : ℕ}

lemma div_lt_day (hn : n < framesPerDay r bDropFrame bStdTcForHfr) :
    n / hfrDivisor r bStdTcForHfr < (rateClock r bDropFrame bStdTcForHfr).day :=
  Nat.div_lt_of_lt_mul (by rwa [framesPerDay, Nat.mul_comm] at hn)

/-- On one day the digits are those of the counted frames. -/
lemma CalcHmsf_eq_decode (hr : r.Supported)
    (hn : n < framesPerDay r bDropFrame bStdTcForHfr) :
    CalcHmsf n (.ofRate r) bDropFrame bStdTcForHfr =
      ((rateClock r bDropFrame bStdTcForHfr).decode (n / hfrDivisor r bStdTcForHfr),
        n % hfrDivisor r bStdTcForHfr) := by
  rw [CalcHmsf_eq hr, Nat.mod_eq_of_lt (div_lt_day hn)]

/-- **A later frame has a later timecode.** -/
theorem CalcHmsf_before (hr : r.Supported) (h : n < n')
    (hn' : n' < framesPerDay r bDropFrame bStdTcForHfr) :
    Before (CalcHmsf n (.ofRate r) bDropFrame bStdTcForHfr)
      (CalcHmsf n' (.ofRate r) bDropFrame bStdTcForHfr) := by
  rw [CalcHmsf_eq_decode hr (h.trans hn'), CalcHmsf_eq_decode hr hn']
  rcases Radix.divMod_lt_divMod (hfrDivisor r bStdTcForHfr) h with hlt | ⟨heq, hlt⟩
  · exact .inl (DropClock.decode_lt _ hlt)
  · exact .inr ⟨by rw [heq], hlt⟩

/-- **The digits of a frame of the day are in range**, and no dropped number is among them. -/
theorem CalcHmsf_shows (hr : r.Supported)
    (hn : n < framesPerDay r bDropFrame bStdTcForHfr) :
    (rateClock r bDropFrame bStdTcForHfr).Shows
      (CalcHmsf n (.ofRate r) bDropFrame bStdTcForHfr).1 := by
  rw [CalcHmsf_eq_decode hr hn]
  exact DropClock.decode_shows _ (div_lt_day hn)

/-- The count of the digits at the counted rate. -/
def countOf (r : AJA_FrameRate) (bDropFrame bStdTcForHfr : Bool) (x : Hmsf) : ℕ :=
  if bDropFrame = true then
    dropCount (rateClock r true bStdTcForHfr).fps (rateClock r true bStdTcForHfr).drop
      x.h x.m x.s x.f
  else nonDropCount (rateClock r false bStdTcForHfr).fps x.h x.m x.s x.f

/-- The frame count is the count of the digits times the divisor, plus the remainder. -/
lemma CalcFrame_eq (hr : r.Supported) (x : Hmsf) (addFrame : ℕ) :
    CalcFrame x.h x.m x.s x.f (.ofRate r) bDropFrame bStdTcForHfr addFrame =
      toUInt32 ((toUInt32 (countOf r bDropFrame bStdTcForHfr x * hfrDivisor r bStdTcForHfr) : Int) +
        if bStdTcForHfr = true then (addFrame : Int) else 0) := by
  obtain ⟨hscale, hdur, -, -⟩ := scaledRate_proper r bStdTcForHfr
  simp only [CalcFrame, GetAJAFrameRate_ofRate hr]
  rw [if_neg (by tauto)]
  rfl

/-- A count near the frame, times the divisor and with the remainder, does not wrap. -/
lemma CalcFrame_of_count (hr : r.Supported)
    (hn : n < framesPerDay r bDropFrame bStdTcForHfr) {x : Hmsf}
    (hle : countOf r bDropFrame bStdTcForHfr x ≤ n / hfrDivisor r bStdTcForHfr + 2) :
    CalcFrame x.h x.m x.s x.f (.ofRate r) bDropFrame bStdTcForHfr
        (n % hfrDivisor r bStdTcForHfr) =
      countOf r bDropFrame bStdTcForHfr x * hfrDivisor r bStdTcForHfr +
        n % hfrDivisor r bStdTcForHfr := by
  have hfit := day_mul_hfrDivisor_lt r bDropFrame bStdTcForHfr
  have hmod := Nat.mod_lt n (hfrDivisor_pos r bStdTcForHfr)
  have hdm := Nat.div_add_mod n (hfrDivisor r bStdTcForHfr)
  have hdiv : hfrDivisor r bStdTcForHfr ≤ 4 := by
    rw [hfrDivisor]
    split_ifs <;> decide
  rw [framesPerDay] at hn
  have hmul : countOf r bDropFrame bStdTcForHfr x * hfrDivisor r bStdTcForHfr ≤
      hfrDivisor r bStdTcForHfr * (n / hfrDivisor r bStdTcForHfr) +
        2 * hfrDivisor r bStdTcForHfr := by
    calc _ ≤ (n / hfrDivisor r bStdTcForHfr + 2) * hfrDivisor r bStdTcForHfr :=
          Nat.mul_le_mul_right _ hle
      _ = _ := by ring
  have hadd : (if bStdTcForHfr = true then ((n % hfrDivisor r bStdTcForHfr : ℕ) : Int) else 0) =
      (n % hfrDivisor r bStdTcForHfr : ℕ) := by
    cases bStdTcForHfr with
    | true => rfl
    | false => simp [hfrDivisor_of_full, Nat.mod_one]
  have hprod : toUInt32 ((countOf r bDropFrame bStdTcForHfr x : Int) *
      hfrDivisor r bStdTcForHfr) =
      countOf r bDropFrame bStdTcForHfr x * hfrDivisor r bStdTcForHfr :=
    toUInt32_of_eq (Nat.cast_mul _ _).symm (by omega)
  rw [CalcFrame_eq hr, hadd, hprod]
  exact toUInt32_of_eq (Nat.cast_add _ _).symm (by omega)

/-- The frame count of the digits and the remainder of a frame is that frame. -/
def CountsBack (r : AJA_FrameRate) (bDropFrame bStdTcForHfr : Bool) (n : ℕ) : Prop :=
  let x := CalcHmsf n (.ofRate r) bDropFrame bStdTcForHfr
  CalcFrame x.1.h x.1.m x.1.s x.1.f (.ofRate r) bDropFrame bStdTcForHfr x.2 = n

/-- What a timecode promises: over a day every frame counts back, later frames have later
timecodes, and only digits that exist appear. -/
structure IsTimecode (r : AJA_FrameRate) (bDropFrame bStdTcForHfr : Bool) : Prop where
  countsBack : ∀ n < framesPerDay r bDropFrame bStdTcForHfr,
    CountsBack r bDropFrame bStdTcForHfr n
  increasing : ∀ n n', n < n' → n' < framesPerDay r bDropFrame bStdTcForHfr →
    Before (CalcHmsf n (.ofRate r) bDropFrame bStdTcForHfr)
      (CalcHmsf n' (.ofRate r) bDropFrame bStdTcForHfr)
  inRange : ∀ n < framesPerDay r bDropFrame bStdTcForHfr,
    (rateClock r bDropFrame bStdTcForHfr).Shows
      (CalcHmsf n (.ofRate r) bDropFrame bStdTcForHfr).1

/-- The frames that count back wrong: at a drop-frame rate below 23.98 the first frame of
every drop minute. -/
def RoundedUp (r : AJA_FrameRate) (bDropFrame bStdTcForHfr : Bool) (n : ℕ) : Prop :=
  bDropFrame = true ∧ ¬ AJA_FrameRate_2398 ≤ r ∧
    (rateClock r bDropFrame bStdTcForHfr).FirstOfDropMinute n

instance : Decidable (RoundedUp r bDropFrame bStdTcForHfr n) :=
  inferInstanceAs (Decidable (_ ∧ _ ∧ _))

/-- Below 47.95 nothing is divided. -/
lemma hfrDivisor_of_low (h : ¬ AJA_FrameRate_2398 ≤ r) : hfrDivisor r bStdTcForHfr = 1 := by
  have hle : ¬ AJA_FrameRate_2398.ctorIdx ≤ r.ctorIdx := h
  have h₁ : ¬ AJA_FrameRate_10000 ≤ r := fun h' =>
    hle (Nat.le_trans (by decide) (show AJA_FrameRate_10000.ctorIdx ≤ r.ctorIdx from h'))
  have h₂ : ¬ AJA_FrameRate_4795 ≤ r := fun h' =>
    hle (Nat.le_trans (by decide) (show AJA_FrameRate_4795.ctorIdx ≤ r.ctorIdx from h'))
  rw [hfrDivisor, if_neg (fun h' => h₁ h'.1), if_neg (fun h' => h₂ h'.1)]

/-- The count of the digits of a frame is right or rounded up by at most two. -/
lemma countOf_decode (hr : r.Supported) {k : ℕ}
    (hk : k < (rateClock r bDropFrame bStdTcForHfr).day) :
    countOf r bDropFrame bStdTcForHfr ((rateClock r bDropFrame bStdTcForHfr).decode k) ≤ k + 2 ∧
      (countOf r bDropFrame bStdTcForHfr ((rateClock r bDropFrame bStdTcForHfr).decode k) = k ↔
        ¬ RoundedUp r bDropFrame bStdTcForHfr k) := by
  cases bDropFrame with
  | false =>
      have hcount := (rateClock r false bStdTcForHfr).nonDropCount_decode rfl hk
      rw [countOf, if_neg (by decide), hcount]
      exact ⟨by omega, by simp [RoundedUp]⟩
  | true =>
      obtain ⟨hdrop, hone⟩ := rateClock_drop hr bStdTcForHfr
      have hcount := (rateClock r true bStdTcForHfr).dropCount_decode hk
      have hiff := (rateClock r true bStdTcForHfr).dropCount_decode_iff hdrop hk
      rw [countOf, if_pos rfl]
      refine ⟨?_, ?_⟩
      · rw [hcount]
        split_ifs <;> omega
      · rw [hiff, hone, RoundedUp]
        simp

/-- The rounding up is one of counted frames. -/
lemma roundedUp_div (n : ℕ) :
    RoundedUp r bDropFrame bStdTcForHfr (n / hfrDivisor r bStdTcForHfr) ↔
      RoundedUp r bDropFrame bStdTcForHfr n := by
  by_cases hlow : AJA_FrameRate_2398 ≤ r
  · simp [RoundedUp, hlow]
  · rw [hfrDivisor_of_low hlow, Nat.div_one]

/-- **The frames that count back** are those that are not rounded up. -/
theorem countsBack_iff (hr : r.Supported)
    (hn : n < framesPerDay r bDropFrame bStdTcForHfr) :
    CountsBack r bDropFrame bStdTcForHfr n ↔ ¬ RoundedUp r bDropFrame bStdTcForHfr n := by
  obtain ⟨hle, hiff⟩ := countOf_decode hr (div_lt_day hn)
  have hdm := Nat.div_add_mod n (hfrDivisor r bStdTcForHfr)
  have hpos := hfrDivisor_pos r bStdTcForHfr
  rw [CountsBack, CalcHmsf_eq_decode hr hn]
  simp only
  rw [CalcFrame_of_count hr hn hle, ← roundedUp_div, ← hiff]
  constructor
  · intro h
    refine Nat.eq_of_mul_eq_mul_right hpos ?_
    rw [Nat.mul_comm (n / _)]
    omega
  · intro h
    rw [h, Nat.mul_comm]
    exact hdm

/-- A day starts with a block of ten minutes, so it has a drop minute. -/
lemma exists_roundedUp (h : ¬ AJA_FrameRate_2398 ≤ r) :
    ∃ n < framesPerDay r true bStdTcForHfr, RoundedUp r true bStdTcForHfr n := by
  have hten := (rateClock r true bStdTcForHfr).dropMinute_pos
  have hlt : (rateClock r true bStdTcForHfr).minute <
      (rateClock r true bStdTcForHfr).tenMinutes := by
    rw [DropClock.tenMinutes]
    omega
  refine ⟨(rateClock r true bStdTcForHfr).minute, ?_, rfl, h, ?_⟩
  · rw [framesPerDay, hfrDivisor_of_low h, DropClock.day, DropClock.hour]
    omega
  · rw [DropClock.FirstOfDropMinute, Nat.mod_eq_of_lt hlt, Nat.sub_self, Nat.zero_mod]
    exact ⟨le_rfl, rfl⟩

/-- **Frame counts and timecodes are in bijection** over a day exactly when no drop second of a
rate below 23.98 is among them: exactly the frames rounded up count back wrong, and the order
and the range of the digits hold throughout. -/
theorem isTimecode_iff (hr : r.Supported) :
    (∀ n < framesPerDay r bDropFrame bStdTcForHfr,
      (CountsBack r bDropFrame bStdTcForHfr n ↔ ¬ RoundedUp r bDropFrame bStdTcForHfr n)) ∧
    (∀ n n', n < n' → n' < framesPerDay r bDropFrame bStdTcForHfr →
      Before (CalcHmsf n (.ofRate r) bDropFrame bStdTcForHfr)
        (CalcHmsf n' (.ofRate r) bDropFrame bStdTcForHfr)) ∧
    (∀ n < framesPerDay r bDropFrame bStdTcForHfr,
      (rateClock r bDropFrame bStdTcForHfr).Shows
        (CalcHmsf n (.ofRate r) bDropFrame bStdTcForHfr).1) ∧
    (IsTimecode r bDropFrame bStdTcForHfr ↔
      (bDropFrame = true → AJA_FrameRate_2398 ≤ r)) := by
  have hincreasing : ∀ n n', n < n' → n' < framesPerDay r bDropFrame bStdTcForHfr →
      Before (CalcHmsf n (.ofRate r) bDropFrame bStdTcForHfr)
        (CalcHmsf n' (.ofRate r) bDropFrame bStdTcForHfr) :=
    fun n n' h hn' => CalcHmsf_before hr h hn'
  refine ⟨fun n hn => countsBack_iff hr hn, hincreasing, fun n hn => CalcHmsf_shows hr hn, ?_⟩
  constructor
  · intro h hdrop
    subst hdrop
    by_contra hlow
    obtain ⟨n, hn, hround⟩ := @exists_roundedUp r bStdTcForHfr hlow
    exact (countsBack_iff hr hn).mp (h.countsBack n hn) hround
  · intro h
    refine ⟨fun n hn => (countsBack_iff hr hn).mpr ?_, hincreasing,
      fun n hn => CalcHmsf_shows hr hn⟩
    rintro ⟨hdrop, hlow, -⟩
    exact hlow (h hdrop)

/-- At 29.97 with drops every frame of the day counts back. -/
theorem isTimecode_iff_2997 : IsTimecode AJA_FrameRate_2997 true true :=
  (@isTimecode_iff AJA_FrameRate_2997 true true (by decide)).2.2.2.mpr (fun _ => by decide)

/-- At 15 frames per second with drops frame 900, the first of the second minute, counts back
as 901. -/
theorem calcFrame_rounds_up :
    ¬ IsTimecode AJA_FrameRate_1500 true true := by
  intro h
  have h900 : CountsBack AJA_FrameRate_1500 true true 900 :=
    h.countsBack 900 (by decide +kernel)
  have h901 : ¬ CountsBack AJA_FrameRate_1500 true true 900 := by
    rw [CountsBack]
    decide +kernel
  exact h901 h900

end AJATimeCode

end LibAjaNtv2
