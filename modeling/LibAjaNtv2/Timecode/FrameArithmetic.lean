import Mathlib.Tactic
import LibAjaNtv2.Timecode.Agree
import LibAjaNtv2.Timecode.Rp188Read

/-!
Counting frames with a timecode object.

* `clockOf`: the clock by which an object converts counts in a format;
* `CRP188.ConvertFrameCount_eq_decode`, `CRP188.MaxFramesPerDay_eq`: it decodes, and its day is
  the code's;
* `CRP188.ConvertTimecode_decode`: what the count of the digits of a frame differs by;
* `CRP188.ConvertsBack`: the frames that it counts right;
* `CRP188.Valid`, `CRP188.SetRP188_frames_spec`: objects with digits of their format;
* `CRP188.frameArithmetic_iff`: **exactly when counts move and convert as they should**.
-/

namespace LibAjaNtv2

open TimecodeFormat

/-! ### The clock of an object and a format -/

/-- The number of frames that a format drops by its own name. -/
def dropsOf (format : TimecodeFormat) : ℕ := if format = kTCFormat60fpsDF then 4 else 2

/-- The format given, the object's own for an unknown one. -/
def resolve (tcFormat format : TimecodeFormat) : TimecodeFormat :=
  if format = kTCFormatUnknown then tcFormat else format

/-- The clock of a conversion: seconds of the format, drops of the object's own format. -/
def clockOf (tcFormat format : TimecodeFormat) : DropClock where
  fps := (resolve tcFormat format).fps
  drop := if (resolve tcFormat format).isDrop = true then dropsOf tcFormat else 0
  drop_lt := by cases tcFormat <;> cases format <;> decide
  fits := by cases tcFormat <;> cases format <;> decide

lemma clockOf_unknown (tcFormat : TimecodeFormat) :
    clockOf tcFormat kTCFormatUnknown = clockOf tcFormat tcFormat := by
  cases tcFormat <;> rfl

lemma resolve_resolve (tcFormat format : TimecodeFormat) :
    resolve tcFormat (resolve tcFormat format) = resolve tcFormat format := by
  cases tcFormat <;> cases format <;> rfl

namespace CRP188

variable (x : CRP188) (format : TimecodeFormat)

lemma FramesPerSecond_eq_fps : x.FramesPerSecond format = (resolve x.tcFormat format).fps := by
  have hor : x.formatOr format = resolve x.tcFormat format := rfl
  rw [FramesPerSecond, hor]
  cases resolve x.tcFormat format <;> rfl

lemma FormatIsDropFrame_eq : x.FormatIsDropFrame format = (resolve x.tcFormat format).isDrop := rfl

/-- **The digits of a frame count** are those of the clock. -/
lemma ConvertFrameCount_eq_decode (n : ℕ) :
    x.ConvertFrameCount n format =
      (clockOf x.tcFormat format).decode (n % (clockOf x.tcFormat format).day) := by
  rw [ConvertFrameCount, FormatIsDropFrame_eq, FramesPerSecond_eq_fps]
  cases hd : (resolve x.tcFormat format).isDrop with
  | false =>
      have h₀ : (clockOf x.tcFormat format).drop = 0 := if_neg (by rw [hd]; decide)
      rw [if_pos rfl, ← nonDropHmsf_eq_decode h₀]
      rfl
  | true =>
      have hdrop : (clockOf x.tcFormat format).drop = dropsOf x.tcFormat := if_pos hd
      rw [if_neg (by decide), ← dropHmsf_eq_decode, hdrop]
      rfl

/-- **The day of the clock.** -/
lemma MaxFramesPerDay_eq : x.MaxFramesPerDay format = (clockOf x.tcFormat format).day := by
  obtain ⟨hmin, -, -, hten, hhr, hday⟩ := (clockOf x.tcFormat format).words
  have hor : x.formatOr format = resolve x.tcFormat format := rfl
  have hfps : (resolve x.tcFormat format).fps = (clockOf x.tcFormat format).fps := rfl
  simp only [MaxFramesPerDay, hor, FramesPerSecond_eq_fps, FormatIsDropFrame_eq, resolve_resolve,
    hfps, hmin]
  cases hd : (resolve x.tcFormat format).isDrop with
  | false =>
      have h₀ : (clockOf x.tcFormat format).drop = 0 := if_neg (by rw [hd]; decide)
      rw [if_pos rfl, DropClock.hour_word h₀, hday]
  | true =>
      have hdrop : (clockOf x.tcFormat format).drop = dropsOf x.tcFormat := if_pos hd
      have hmin' : toUInt32 (((clockOf x.tcFormat format).minute : Int) -
          (if x.tcFormat = kTCFormat60fpsDF then 4 else 2 : ℕ)) =
          (clockOf x.tcFormat format).dropMinute := by
        have hadd := (clockOf x.tcFormat format).dropMinute_add_drop
        have hlt := (clockOf x.tcFormat format).fits
        rw [hdrop, dropsOf] at hadd
        refine toUInt32_of_eq (by omega) ?_
        rw [DropClock.dropMinute]
        omega
      rw [if_neg (by decide)]
      rw [hmin', hten, hhr, hday]

/-! ### The count of the digits of a frame -/

variable {x format} {n : ℕ}

lemma digits_word {h m s : ℕ} (hh : h < 24) (hm : m < 60) (hs : s < 60) :
    toInt32 (60 * h + m) = (60 * h + m : ℕ) ∧
      toInt32 (60 * (60 * h + m : ℕ) + s) = (60 * (60 * h + m) + s : ℕ) :=
  ⟨toInt32_of_eq (by omega) (by omega), toInt32_of_eq (by omega) (by omega)⟩

/-- In a format without drops the digits of a frame count it. -/
lemma ConvertTimecode_decode_nonDrop (hd : (resolve x.tcFormat format).isDrop = false)
    (hn : n < (clockOf x.tcFormat format).day) {t : Hmsf}
    (ht : t = (clockOf x.tcFormat format).decode n) :
    x.ConvertTimecode format t.h t.m t.s t.f = n := by
  have h₀ : (clockOf x.tcFormat format).drop = 0 := if_neg (by rw [hd]; decide)
  have hfps : (resolve x.tcFormat format).fps = (clockOf x.tcFormat format).fps := rfl
  have hshow := (clockOf x.tcFormat format).decode_shows hn
  have hnum := (clockOf x.tcFormat format).number_decode n
  have hday := (clockOf x.tcFormat format).day_add_two_lt
  rw [← ht, h₀, Nat.zero_mul, Nat.add_zero] at hnum
  rw [← ht] at hshow
  obtain ⟨hmins, hsecs⟩ := digits_word hshow.h_lt hshow.m_lt hshow.s_lt
  rw [ConvertTimecode, FormatIsDropFrame_eq, if_pos hd, FramesPerSecond_eq_fps, hfps]
  simp only [hmins, hsecs]
  refine toUInt32_of_eq ?_ (by omega)
  rw [← hnum]
  push_cast
  ring

/-- The clock by which a format counts digits: its own drops. -/
def countClock (tcFormat format : TimecodeFormat) : DropClock where
  fps := (resolve tcFormat format).fps
  drop := dropsOf format
  drop_lt := by cases tcFormat <;> cases format <;> decide
  fits := by cases tcFormat <;> cases format <;> decide

/-- What the count of digits adds to their frame number beside whole drop minutes: the first
minute of ten drops nothing, a stored drop minute makes the first second a drop second, and the
dropped numbers are left out of a first second. -/
def countCorrection (d : ℕ) (storedDrop : Bool) (t : Hmsf) : Int :=
  (if t.m % 10 ≠ 0 then (d : Int) else 0) -
    (if 0 < t.s ∧ storedDrop = true then (d : Int) else 0) -
    (if t.s = 0 ∧ t.m % 10 ≠ 0 then ((min t.f d : ℕ) : Int) else 0)

/-- The object's own minute is a drop minute. -/
def storedDrop (x : CRP188) : Bool := x.ulVal.m % 10 != 0

/-- The minutes of the digits in frames: the first one of ten is regular. -/
lemma minuteFrames_eq (c : DropClock) (u : ℕ) :
    (if 0 < u then (c.minute : Int) + ((u : Int) - 1) * c.dropMinute else 0) =
      c.fps * 60 * u - c.drop * u + if u ≠ 0 then (c.drop : Int) else 0 := by
  have hadd := c.dropMinute_add_drop
  have hmin : (c.minute : Int) = c.fps * 60 := by rw [DropClock.minute]; push_cast; rfl
  have hdm : (c.dropMinute : Int) = c.fps * 60 - c.drop := by omega
  cases u with
  | zero => simp
  | succ u =>
      rw [if_pos (Nat.succ_pos u), if_pos (Nat.succ_ne_zero u), hmin, hdm]
      push_cast
      ring

/-- The seconds in frames: in a stored drop minute the first one is short. -/
lemma secondFrames_eq (c : DropClock) (drop : Bool) {s : ℕ} (hs : s < 60) :
    (if 0 < toInt32 s then
        if drop = true then ((c.fps - c.drop : ℕ) : Int) + (toInt32 s - 1) * c.fps
        else toInt32 s * c.fps
      else 0) = c.fps * s - if 0 < s ∧ drop = true then (c.drop : Int) else 0 := by
  have hd := c.drop_lt
  have hsec : ((c.fps - c.drop : ℕ) : Int) = c.fps - c.drop := by omega
  rw [toInt32_natCast (by omega), hsec]
  cases s with
  | zero => simp
  | succ s =>
      rw [if_pos (by omega)]
      cases drop with
      | false =>
          simp
          ring
      | true =>
          simp
          ring

/-- The frames, less the dropped numbers in a first second. -/
lemma frames_eq (c : DropClock) (t : Hmsf) :
    (if t.s = 0 ∧ t.m % 10 ≠ 0 then
        if c.drop ≤ t.f then (t.f : Int) - c.drop else 0
      else (t.f : Int)) =
      t.f - if t.s = 0 ∧ t.m % 10 ≠ 0 then ((min t.f c.drop : ℕ) : Int) else 0 := by
  split_ifs <;> omega

/-- The whole count: the frame numbers up to the digits less the drops of the minutes begun, with
the correction. -/
lemma count_eq (c : DropClock) (drop : Bool) (t : Hmsf) :
    (t.h * c.hour + (t.m / 10 : ℕ) * c.tenMinutes +
        (c.fps * 60 * (t.m % 10 : ℕ) - c.drop * (t.m % 10 : ℕ) +
          if t.m % 10 ≠ 0 then (c.drop : Int) else 0) +
        (c.fps * t.s - if 0 < t.s ∧ drop = true then (c.drop : Int) else 0) +
        (t.f - if t.s = 0 ∧ t.m % 10 ≠ 0 then ((min t.f c.drop : ℕ) : Int) else 0) : Int) =
      c.fps * (3600 * t.h + 60 * t.m + t.s) + t.f -
        c.drop * (60 * t.h + t.m - (60 * t.h + t.m) / 10 : ℕ) + countCorrection c.drop drop t := by
  have hten : (c.tenMinutes : Int) = c.fps * 600 - 9 * c.drop := by
    have hadd := c.tenMinutes_add_drops
    omega
  have hhour : (c.hour : Int) = (c.fps * 600 - 9 * c.drop) * 6 := by
    rw [DropClock.hour, Nat.cast_mul, hten]
    rfl
  have hm : (t.m : Int) = 10 * (t.m / 10 : ℕ) + (t.m % 10 : ℕ) := by omega
  have hdropped : ((60 * t.h + t.m - (60 * t.h + t.m) / 10 : ℕ) : Int) =
      54 * t.h + 9 * (t.m / 10 : ℕ) + (t.m % 10 : ℕ) := by omega
  rw [countCorrection, hdropped, hten, hhour]
  generalize (if t.m % 10 ≠ 0 then (c.drop : Int) else 0) = a₁
  generalize (if 0 < t.s ∧ drop = true then (c.drop : Int) else 0) = a₂
  generalize (if t.s = 0 ∧ t.m % 10 ≠ 0 then ((min t.f c.drop : ℕ) : Int) else 0) = a₃
  linear_combination (-60 * (c.fps : Int)) * hm

/-- The count of digits in range is a word. -/
lemma count_word (c : DropClock) (hfps : c.fps ≤ 60) (drop : Bool) {t : Hmsf}
    (hh : t.h < 24) (hm : t.m < 60) (hs : t.s < 60) (hf : t.f < c.fps) :
    0 ≤ c.fps * (3600 * t.h + 60 * t.m + t.s) + t.f -
        c.drop * (60 * t.h + t.m - (60 * t.h + t.m) / 10 : ℕ) + countCorrection c.drop drop t ∧
      c.fps * (3600 * t.h + 60 * t.m + t.s) + t.f -
        c.drop * (60 * t.h + t.m - (60 * t.h + t.m) / 10 : ℕ) + countCorrection c.drop drop t <
        4294967296 := by
  have hd := c.drop_lt
  constructor
  · rw [← count_eq]
    have hminutes : 0 ≤ c.fps * 60 * (t.m % 10 : ℕ) - c.drop * (t.m % 10 : ℕ) +
        if t.m % 10 ≠ 0 then (c.drop : Int) else 0 := by
      have hmul : c.drop * (t.m % 10) ≤ c.fps * 60 * (t.m % 10) :=
        Nat.mul_le_mul_right _ (by omega)
      have hmul' : (c.drop * (t.m % 10 : ℕ) : Int) ≤ c.fps * 60 * (t.m % 10 : ℕ) := by
        exact_mod_cast hmul
      split_ifs <;> omega
    have hseconds : 0 ≤ c.fps * t.s - if 0 < t.s ∧ drop = true then (c.drop : Int) else 0 := by
      have hmul' : (c.fps * t.s : Int) = (c.fps * t.s : ℕ) := by push_cast; rfl
      rw [hmul']
      split_ifs with h
      · have hmul : c.fps * 1 ≤ c.fps * t.s := Nat.mul_le_mul_left _ h.1
        omega
      · omega
    have hframes : 0 ≤ t.f -
        if t.s = 0 ∧ t.m % 10 ≠ 0 then ((min t.f c.drop : ℕ) : Int) else 0 := by
      split_ifs <;> omega
    have hhours : (0 : Int) ≤ t.h * c.hour + (t.m / 10 : ℕ) * c.tenMinutes := by positivity
    linarith
  · have hcorr : countCorrection c.drop drop t ≤ c.drop := by
      rw [countCorrection]
      split_ifs <;> omega
    have hmul : c.fps * (3600 * t.h + 60 * t.m + t.s) ≤ 60 * 86399 :=
      Nat.mul_le_mul hfps (by omega)
    have hmul' : (c.fps * (3600 * t.h + 60 * t.m + t.s) : Int) ≤ 60 * 86399 := by
      exact_mod_cast hmul
    have hdropped : (0 : Int) ≤ c.drop * (60 * t.h + t.m - (60 * t.h + t.m) / 10 : ℕ) := by
      positivity
    have hf' : (t.f : Int) < 60 := by omega
    have hd' : (c.drop : Int) < 60 := by omega
    linarith

/-- **The count of the digits of a frame in a drop format**: the frame, moved by the difference
of the two drops for each drop minute begun, and by the correction. -/
lemma ConvertTimecode_decode (hd : (resolve x.tcFormat format).isDrop = true)
    (hn : n < (clockOf x.tcFormat format).day) {t : Hmsf}
    (ht : t = (clockOf x.tcFormat format).decode n) :
    (x.ConvertTimecode format t.h t.m t.s t.f : Int) =
      n + ((dropsOf x.tcFormat : Int) - dropsOf format) *
        (9 * (n / (clockOf x.tcFormat format).tenMinutes : ℕ) +
          ((clockOf x.tcFormat format).unitCut n).1) +
        countCorrection (dropsOf format) x.storedDrop t := by
  have hshow := (clockOf x.tcFormat format).decode_shows hn
  have hnum := (clockOf x.tcFormat format).number_decode n
  have hdropped := (clockOf x.tcFormat format).dropped_decode n
  have hown : (clockOf x.tcFormat format).drop = dropsOf x.tcFormat := if_pos hd
  have hfps' : (clockOf x.tcFormat format).fps = (countClock x.tcFormat format).fps := rfl
  rw [hdropped, hown, hfps', ← ht] at hnum
  rw [← ht] at hshow hdropped
  obtain ⟨hmin, hsec, hdrop, hten, hhr, -⟩ := (countClock x.tcFormat format).words
  have hfps : (resolve x.tcFormat format).fps = (countClock x.tcFormat format).fps := rfl
  have hdrops : (if format = kTCFormat60fpsDF then 4 else 2 : ℕ) =
      (countClock x.tcFormat format).drop := rfl
  have hstored : x.ulVal.m % 10 ≠ 0 ↔ x.storedDrop = true := by simp [storedDrop]
  rw [ConvertTimecode, FormatIsDropFrame_eq, if_neg (by rw [hd]; decide), FramesPerSecond_eq_fps,
    hfps]
  simp only [hdrops, hmin, hsec, hdrop, hten, hhr, hstored, minuteFrames_eq,
    secondFrames_eq _ _ hshow.s_lt, frames_eq, count_eq]
  have hsixty : (countClock x.tcFormat format).fps ≤ 60 := by
    have hall : ∀ own given, (countClock own given).fps ≤ 60 := by
      intro own given
      cases own <;> cases given <;> decide
    exact hall _ _
  obtain ⟨h₀, h₁⟩ := count_word _ hsixty x.storedDrop hshow.h_lt hshow.m_lt hshow.s_lt
    (hfps' ▸ hshow.f_lt)
  rw [toUInt32_eq_self h₀ h₁, hdropped]
  have hnum' : ((countClock x.tcFormat format).fps : Int) * (3600 * t.h + 60 * t.m + t.s) + t.f =
      n + dropsOf x.tcFormat * (9 * (n / (clockOf x.tcFormat format).tenMinutes : ℕ) +
        ((clockOf x.tcFormat format).unitCut n).1) := by
    exact_mod_cast hnum
  have hown' : (countClock x.tcFormat format).drop = dropsOf format := rfl
  rw [hown']
  push_cast
  push_cast at hnum'
  linear_combination hnum'

end CRP188

/-! ### The frames that convert back -/

namespace DropClock

variable (c : DropClock)

/-- Frame `n` is in the first second of its minute. -/
def InFirstSecond (n : ℕ) : Prop := (c.unitCut n).2 < c.firstSecond (c.unitCut n).1

instance (n : ℕ) : Decidable (c.InFirstSecond n) := inferInstanceAs (Decidable (_ < _))

/-- Frame `n` is in a drop minute. -/
def InDropMinute (n : ℕ) : Prop := (c.unitCut n).1 ≠ 0

instance (n : ℕ) : Decidable (c.InDropMinute n) := inferInstanceAs (Decidable (_ ≠ _))

/-- The drop minutes begun up to frame `n`. -/
def dropMinutesBegun (n : ℕ) : ℕ := 9 * (n / c.tenMinutes) + (c.unitCut n).1

/-- The first drop minute begins behind the first minute. -/
lemma eq_minute_iff (n : ℕ) :
    n = c.minute ↔ c.dropMinutesBegun n = 1 ∧ (c.unitCut n).2 = 0 := by
  have hten : c.minute < c.tenMinutes := by
    have hpos := c.dropMinute_pos
    rw [tenMinutes]
    omega
  constructor
  · rintro rfl
    have hcut : c.unitCut c.minute = (1, 0) := by
      rw [unitCut, Nat.mod_eq_of_lt hten, Radix.cut_of_le le_rfl]
      simp
    rw [dropMinutesBegun, hcut, Nat.div_eq_of_lt hten]
    exact ⟨rfl, rfl⟩
  · rintro ⟨hbegun, hpos⟩
    rw [dropMinutesBegun] at hbegun
    have hzero : n / c.tenMinutes = 0 := by omega
    have hlt : n < c.tenMinutes := (Nat.div_eq_zero_iff_lt c.tenMinutes_pos).mp hzero
    have hcut := Radix.start_add_cut c.minute c.dropMinute (n % c.tenMinutes)
    change Radix.start _ _ (c.unitCut n).1 + (c.unitCut n).2 = _ at hcut
    have hone : (c.unitCut n).1 = 1 := by omega
    rw [hone, hpos, Nat.mod_eq_of_lt hlt, Radix.start] at hcut
    omega

end DropClock

/-- A format drops two numbers or four. -/
lemma dropsOf_eq (format : TimecodeFormat) : dropsOf format = 2 ∨ dropsOf format = 4 := by
  rw [dropsOf]
  split_ifs
  · exact .inr rfl
  · exact .inl rfl

namespace CRP188

/-- The frames whose digits count back. A format without drops counts every frame back. Where
the object drops as many numbers as the format, its own minute has to be a drop minute when the
frame's is, but for first seconds. Where it drops more or less, only the time before the first
drop counts back, and by coincidence the first frame behind it or the second drop minute. -/
def ConvertsBack (x : CRP188) (format : TimecodeFormat) (n : ℕ) : Prop :=
  let c := clockOf x.tcFormat format
  (resolve x.tcFormat format).isDrop = false ∨
    (dropsOf x.tcFormat = dropsOf format ∧
      (c.InFirstSecond n ∨ (c.InDropMinute n ↔ x.storedDrop = true))) ∨
    dropsOf x.tcFormat ≠ dropsOf format ∧
      (c.dropMinutesBegun n = 0 ∧ (c.InFirstSecond n ∨ x.storedDrop = false) ∨
        dropsOf format = 4 ∧ (n = c.minute ∨
          c.dropMinutesBegun n = 2 ∧ ¬ c.InFirstSecond n ∧ x.storedDrop = false))

instance (x : CRP188) (format : TimecodeFormat) (n : ℕ) : Decidable (x.ConvertsBack format n) :=
  inferInstanceAs (Decidable (_ ∨ _))

variable {x : CRP188} {format : TimecodeFormat} {n : ℕ}

/-- The correction of the digits of a frame, by the place of the frame. -/
lemma countCorrection_decode (hd : (resolve x.tcFormat format).isDrop = true) (d : ℕ)
    (drop : Bool) {t : Hmsf} (ht : t = (clockOf x.tcFormat format).decode n) :
    countCorrection d drop t =
      (if (clockOf x.tcFormat format).InDropMinute n then (d : Int) else 0) -
        (if ¬ (clockOf x.tcFormat format).InFirstSecond n ∧ drop = true then (d : Int) else 0) -
        (if (clockOf x.tcFormat format).InFirstSecond n ∧
            (clockOf x.tcFormat format).InDropMinute n then
          ((min (((clockOf x.tcFormat format).unitCut n).2 + dropsOf x.tcFormat) d : ℕ) : Int)
        else 0) := by
  have hm := (clockOf x.tcFormat format).decode_m_mod n
  have hs := (clockOf x.tcFormat format).decode_s_eq_zero_iff n
  have hf := @DropClock.decode_f_of_firstSecond (clockOf x.tcFormat format) n
  have hown : (clockOf x.tcFormat format).drop = dropsOf x.tcFormat := if_pos hd
  rw [← ht] at hm hs hf
  rw [hown] at hf
  have hpos : 0 < t.s ↔ ¬ (clockOf x.tcFormat format).InFirstSecond n := by
    rw [DropClock.InFirstSecond, ← hs]
    omega
  have hlast : (if t.s = 0 ∧ t.m % 10 ≠ 0 then ((min t.f d : ℕ) : Int) else 0) =
      if (clockOf x.tcFormat format).InFirstSecond n ∧
          (clockOf x.tcFormat format).InDropMinute n then
        ((min (((clockOf x.tcFormat format).unitCut n).2 + dropsOf x.tcFormat) d : ℕ) : Int)
      else 0 := by
    by_cases h : (clockOf x.tcFormat format).InFirstSecond n ∧
        (clockOf x.tcFormat format).InDropMinute n
    · rw [if_pos ⟨hs.mpr h.1, by rw [hm]; exact h.2⟩, if_pos h, hf h.2 h.1]
    · rw [if_neg (fun h' => h ⟨hs.mp h'.1, by rw [hm] at h'; exact h'.2⟩), if_neg h]
  rw [countCorrection, hlast, hm]
  simp only [hpos]
  rfl

/-- When the moves of a count cancel: `own` and `arg` are the numbers dropped by the object and by
the format, `begun` the drop minutes begun, `unit` the minute in its block. -/
lemma moves_cancel_iff {own arg begun blocks unit pos : ℕ} (first : Prop) [Decidable first]
    (stored : Bool) (hown : own = 2 ∨ own = 4) (harg : arg = 2 ∨ arg = 4)
    (hbegun : begun = 9 * blocks + unit) (hpos : pos = 0 → first) :
    ((own : Int) - arg) * begun + ((if unit ≠ 0 then (arg : Int) else 0) -
        (if ¬ first ∧ stored = true then (arg : Int) else 0) -
        (if first ∧ unit ≠ 0 then ((min (pos + own) arg : ℕ) : Int) else 0)) = 0 ↔
      own = arg ∧ (first ∨ (unit ≠ 0 ↔ stored = true)) ∨
        own ≠ arg ∧ (begun = 0 ∧ (first ∨ stored = false) ∨
          arg = 4 ∧ ((begun = 1 ∧ pos = 0) ∨ begun = 2 ∧ ¬ first ∧ stored = false)) := by
  rcases hown with rfl | rfl <;> rcases harg with rfl | rfl
  -- the drops are numbers now, the places of the frame are decided one by one
  all_goals
    by_cases hunit : unit = 0 <;> by_cases hfirst : first <;> cases stored <;>
      simp [hunit, hfirst] at hpos hbegun ⊢ <;> omega

/-- **The digits of a frame count back** exactly for these frames. -/
theorem convertsBack_iff (hn : n < (clockOf x.tcFormat format).day) {t : Hmsf}
    (ht : t = (clockOf x.tcFormat format).decode n) :
    x.ConvertTimecode format t.h t.m t.s t.f = n ↔ x.ConvertsBack format n := by
  cases hd : (resolve x.tcFormat format).isDrop with
  | false =>
      rw [ConvertTimecode_decode_nonDrop hd hn ht]
      exact ⟨fun _ => .inl hd, fun _ => rfl⟩
  | true =>
      have hcount := ConvertTimecode_decode hd hn ht
      have hminute := (clockOf x.tcFormat format).eq_minute_iff n
      have hbegun : (clockOf x.tcFormat format).dropMinutesBegun n =
          9 * (n / (clockOf x.tcFormat format).tenMinutes) +
            ((clockOf x.tcFormat format).unitCut n).1 := rfl
      have hzero : ((clockOf x.tcFormat format).unitCut n).2 = 0 →
          (clockOf x.tcFormat format).InFirstSecond n := by
        intro h
        rw [DropClock.InFirstSecond, h]
        exact DropClock.firstSecond_pos _ _
      have hmoves := moves_cancel_iff ((clockOf x.tcFormat format).InFirstSecond n) x.storedDrop
        (dropsOf_eq x.tcFormat) (dropsOf_eq format) hbegun hzero
      have hcast : (9 * (n / (clockOf x.tcFormat format).tenMinutes : ℕ) +
          ((clockOf x.tcFormat format).unitCut n).1 : Int) =
          ((clockOf x.tcFormat format).dropMinutesBegun n : ℕ) := by
        rw [hbegun, Nat.cast_add, Nat.cast_mul]
        rfl
      rw [countCorrection_decode hd _ _ ht, hcast, add_assoc] at hcount
      rw [ConvertsBack, hd, hminute]
      have hsame : x.ConvertTimecode format t.h t.m t.s t.f = n ↔
          (x.ConvertTimecode format t.h t.m t.s t.f : Int) = n := Nat.cast_inj.symm
      rw [hsame, hcount, add_eq_left]
      exact hmoves.trans (by simp [DropClock.InDropMinute])

/-! ### Objects that hold a timecode -/

/-- Two objects with the same digits and the same format. -/
def SameTimecode (x y : CRP188) : Prop := x.ulVal = y.ulVal ∧ x.tcFormat = y.tcFormat

variable {y z : CRP188} {t : Hmsf}

lemma SameTimecode.trans (h : SameTimecode x y) (h' : SameTimecode y z) : SameTimecode x z :=
  ⟨h.1.trans h'.1, h.2.trans h'.2⟩

lemma same_SetVaricamFrameActive (x : CRP188) (b : Bool) (frame : ℕ) :
    SameTimecode (x.SetVaricamFrameActive b frame) x := by
  rw [SetVaricamFrameActive]
  split
  · exact ⟨rfl, rfl⟩
  · exact ⟨rfl, rfl⟩

lemma same_SetFieldID (x : CRP188) (fieldID : ℕ) : SameTimecode (x.SetFieldID fieldID) x := by
  rw [SetFieldID]
  split
  · exact ⟨rfl, rfl⟩
  · exact ⟨rfl, rfl⟩

lemma same_SetBFGBits (x : CRP188) (b₀ b₁ b₂ : Bool) :
    SameTimecode (x.SetBFGBits b₀ b₁ b₂) x := by
  rw [SetBFGBits]
  split
  · exact ⟨rfl, rfl⟩
  · exact ⟨rfl, rfl⟩

lemma same_ConvertTcStrToReg (x : CRP188) : SameTimecode x.ConvertTcStrToReg x := by
  rw [ConvertTcStrToReg, frameDigits]
  split
  · exact ⟨rfl, rfl⟩
  · exact same_SetFieldID _ _

lemma resolve_self (tcFormat : TimecodeFormat) : resolve tcFormat tcFormat = tcFormat := by
  rw [resolve, ite_self]

/-- The digits of the clock of a format are digits of the format. -/
lemma shows_format (ht : (clockOf x.tcFormat x.tcFormat).Shows t) : x.tcFormat.Shows t := by
  have hfps : (clockOf x.tcFormat x.tcFormat).fps = x.tcFormat.fps := by
    change (resolve x.tcFormat x.tcFormat).fps = _
    rw [resolve_self]
  refine ⟨ht.h_lt, ht.m_lt, ht.s_lt, hfps ▸ ht.f_lt, ?_⟩
  intro hd hs hm
  have hdrop : (clockOf x.tcFormat x.tcFormat).drop = dropsOf x.tcFormat := by
    refine if_pos ?_
    rwa [resolve_self]
  have hle := ht.not_dropped hs hm
  rwa [hdrop] at hle

lemma withFormat_self (x : CRP188) : x.withFormat x.tcFormat = x := by
  rw [withFormat]
  split <;> rfl

/-- **`SetRP188` of digits of the format stores them**; behind them it changes the words and the
flags only. -/
lemma same_SetRP188 (ht : (clockOf x.tcFormat x.tcFormat).Shows t) :
    SameTimecode (x.SetRP188 t.f t.s t.m t.h x.tcFormat) { x with ulVal := t } := by
  have hfps : x.FramesPerSecond x.tcFormat = (clockOf x.tcFormat x.tcFormat).fps :=
    FramesPerSecond_eq_fps x x.tcFormat
  have hcarry : carryDigits (x.FramesPerSecond x.tcFormat) t.f t.s t.m t.h = t := by
    rw [hfps]
    exact carryDigits_of_lt ht.f_lt ht.s_lt ht.m_lt ht.h_lt
  simp only [SetRP188, withFormat_self, hcarry, dropRoundUp_of_shows (shows_format ht)]
  refine (same_SetBFGBits _ _ _ _).trans ?_
  have hfield : ∀ y : CRP188, SameTimecode y { x with ulVal := t } → SameTimecode
      (if y.FormatIs60_50fps y.tcFormat = false then y.SetFieldID 0 else y)
        { x with ulVal := t } := by
    intro y hy
    split
    · exact (same_SetFieldID _ _).trans hy
    · exact hy
  refine hfield _ ?_
  have hflags : ∀ (y : CRP188) (b : Bool) (rate : NTV2FrameRate), SameTimecode
      (((y.SetDropFrame b).SetColorFrame false).SetVaricamRate rate) y := fun _ _ _ => ⟨rfl, rfl⟩
  refine (hflags _ _ _).trans ?_
  refine (same_SetVaricamFrameActive _ _ _).trans ((same_SetVaricamFrameActive _ _ _).trans ?_)
  exact same_ConvertTcStrToReg _

/-- An object holds a timecode when its digits are those of a frame of its format. -/
def Valid (x : CRP188) : Prop := (clockOf x.tcFormat x.tcFormat).Shows x.ulVal

/-- The frame of the digits that an object holds. -/
def heldFrame (x : CRP188) : ℕ := (clockOf x.tcFormat x.tcFormat).encode x.ulVal

/-- **Setting an object to a frame** of the day: it holds that frame. -/
lemma SetRP188_frames_spec (x : CRP188) (hn : n < (clockOf x.tcFormat x.tcFormat).day) :
    (x.SetRP188_frames n x.tcFormat).Valid ∧
      (x.SetRP188_frames n x.tcFormat).ulVal = (clockOf x.tcFormat x.tcFormat).decode n ∧
      (x.SetRP188_frames n x.tcFormat).tcFormat = x.tcFormat := by
  have hshow := (clockOf x.tcFormat x.tcFormat).decode_shows hn
  have hconvert := x.ConvertFrameCount_eq_decode x.tcFormat n
  rw [Nat.mod_eq_of_lt hn] at hconvert
  have hset := same_SetRP188 hshow
  have heq : x.SetRP188_frames n x.tcFormat = x.SetRP188
      ((clockOf x.tcFormat x.tcFormat).decode n).f ((clockOf x.tcFormat x.tcFormat).decode n).s
      ((clockOf x.tcFormat x.tcFormat).decode n).m ((clockOf x.tcFormat x.tcFormat).decode n).h
      x.tcFormat := by
    simp only [SetRP188_frames, withFormat_self, hconvert]
  rw [heq]
  refine ⟨?_, hset.1, hset.2⟩
  rw [Valid, hset.1, hset.2]
  exact hshow

/-- **The count of an object** that holds a timecode is its frame. -/
lemma GetFrameCount_eq (hx : x.Valid) : x.GetFrameCount = x.heldFrame := by
  have hlt := DropClock.encode_lt_day hx
  have hdec := DropClock.decode_encode hx
  have hback : x.ConvertsBack x.tcFormat x.heldFrame := by
    have hm := (clockOf x.tcFormat x.tcFormat).decode_m_mod x.heldFrame
    rw [heldFrame, hdec] at hm
    refine .inr (.inl ⟨rfl, .inr ?_⟩)
    rw [DropClock.InDropMinute, heldFrame, ← hm, storedDrop, bne_iff_ne]
  exact (convertsBack_iff hlt hdec.symm).mpr hback

/-! ### Moving an object -/

/-- The day of the object's own format. -/
abbrev ownDay (x : CRP188) : ℕ := (clockOf x.tcFormat x.tcFormat).day

lemma MaxFramesPerDay_own (x : CRP188) : x.MaxFramesPerDay kTCFormatUnknown = x.ownDay := by
  rw [MaxFramesPerDay_eq, clockOf_unknown]

lemma ownDay_pos (x : CRP188) : 0 < x.ownDay := Nat.mul_pos (DropClock.hour_pos _) (by decide)

/-- A moved object: it holds the new frame, in the old format. -/
structure MovedTo (x y : CRP188) (n : ℕ) : Prop where
  valid : y.Valid
  tcFormat_eq : y.tcFormat = x.tcFormat
  ulVal_eq : y.ulVal = (clockOf x.tcFormat x.tcFormat).decode n
  held : y.GetFrameCount = n

lemma movedTo_SetRP188_frames (x : CRP188) (hn : n < x.ownDay) :
    MovedTo x (x.SetRP188_frames n x.tcFormat) n := by
  obtain ⟨hvalid, hval, hformat⟩ := SetRP188_frames_spec x hn
  refine ⟨hvalid, hformat, hval, ?_⟩
  rw [GetFrameCount_eq hvalid, heldFrame, hval, hformat, DropClock.encode_decode]

/-- `AddFrames` moves to the 32-bit sum, around the day. -/
lemma movedTo_AddFrames (hx : x.Valid) (frameCount : ℕ) :
    MovedTo x (x.AddFrames frameCount).1 (toUInt32 (x.heldFrame + frameCount) % x.ownDay) := by
  have hadd : (x.AddFrames frameCount).1 =
      x.SetRP188_frames (toUInt32 (x.heldFrame + frameCount) % x.ownDay) x.tcFormat := by
    rw [AddFrames, GetFrameCount_eq hx, MaxFramesPerDay_own]
  rw [hadd]
  exact movedTo_SetRP188_frames x (Nat.mod_lt _ x.ownDay_pos)

/-- `SubtractFrames` moves back around the day. -/
lemma movedTo_SubtractFrames (hx : x.Valid) (frameCount : ℕ) :
    ∃ n < x.ownDay, MovedTo x (x.SubtractFrames frameCount).1 n ∧
      n + frameCount ≡ x.heldFrame [MOD x.ownDay] := by
  have hheld : x.heldFrame < x.ownDay := DropClock.encode_lt_day hx
  have hday := (clockOf x.tcFormat x.tcFormat).day_add_two_lt
  have hsub := Nat.mod_lt frameCount x.ownDay_pos
  have hmod := Nat.mod_modEq frameCount x.ownDay
  change x.ownDay + 2 < 4294967296 at hday
  -- what the two branches subtract and add
  obtain ⟨n, hn, hcount, hback⟩ : ∃ n < x.ownDay,
      (if frameCount % x.ownDay ≤ x.heldFrame then
          toUInt32 ((x.heldFrame : Int) - (frameCount % x.ownDay : ℕ))
        else toUInt32 ((x.ownDay : Int) -
          toUInt32 (((frameCount % x.ownDay : ℕ) : Int) - x.heldFrame))) = n ∧
      n + frameCount % x.ownDay ≡ x.heldFrame [MOD x.ownDay] := by
    generalize frameCount % x.ownDay = a at hsub
    by_cases hle : a ≤ x.heldFrame
    · refine ⟨x.heldFrame - a, by omega, ?_, ?_⟩
      · rw [if_pos hle]
        exact toUInt32_of_eq (by omega) (by omega)
      · rw [Nat.sub_add_cancel hle]
    · refine ⟨x.ownDay - (a - x.heldFrame), by omega, ?_, ?_⟩
      · have hinner : toUInt32 ((a : Int) - x.heldFrame) = a - x.heldFrame :=
          toUInt32_of_eq (by omega) (by omega)
        rw [if_neg hle, hinner]
        exact toUInt32_of_eq (by omega) (by omega)
      · have hsum : x.ownDay - (a - x.heldFrame) + a = x.heldFrame + x.ownDay := by omega
        rw [hsum]
        exact Nat.add_modEq_right
  have hmove : (x.SubtractFrames frameCount).1 = x.SetRP188_frames n x.tcFormat := by
    rw [SubtractFrames, GetFrameCount_eq hx, MaxFramesPerDay_own]
    simp only [hcount]
  rw [hmove]
  exact ⟨n, hn, movedTo_SetRP188_frames x hn, (hmod.symm.add_left n).trans hback⟩

/-- No day divides the words. -/
lemma not_ownDay_dvd (x : CRP188) : ¬ x.ownDay ∣ 4294967296 := by
  have hall : ∀ own, ¬ (clockOf own own).day ∣ 4294967296 := by
    intro own
    cases own <;> decide +kernel
  exact hall x.tcFormat

/-- The 32-bit sum is the sum around the day exactly when it does not wrap. -/
lemma sum_modEq_iff (hx : x.Valid) {frameCount : ℕ} (hk : frameCount < 4294967296) :
    toUInt32 (x.heldFrame + frameCount) ≡ x.heldFrame + frameCount [MOD x.ownDay] ↔
      x.heldFrame + frameCount < 4294967296 := by
  have hheld : x.heldFrame < x.ownDay := DropClock.encode_lt_day hx
  have hday := (clockOf x.tcFormat x.tcFormat).day_add_two_lt
  change x.ownDay + 2 < 4294967296 at hday
  rcases Nat.lt_or_ge (x.heldFrame + frameCount) 4294967296 with hlt | hge
  · have hsum : toUInt32 (x.heldFrame + frameCount) = x.heldFrame + frameCount :=
      toUInt32_of_eq (by omega) hlt
    rw [hsum]
    exact ⟨fun _ => hlt, fun _ => Nat.ModEq.refl _⟩
  · have hsum : toUInt32 (x.heldFrame + frameCount) = x.heldFrame + frameCount - 4294967296 := by
      rw [toUInt32]
      omega
    rw [hsum]
    constructor
    · intro h
      have hdvd := (Nat.modEq_iff_dvd' (Nat.sub_le _ _)).mp h
      have hdiff : x.heldFrame + frameCount - (x.heldFrame + frameCount - 4294967296) =
          4294967296 := by omega
      rw [hdiff] at hdvd
      exact absurd hdvd x.not_ownDay_dvd
    · intro h
      omega

/-! ### The arithmetic -/

/-- What the frame arithmetic promises of an object, a count to move by, a format and a frame of
its day: a timecode that the object holds moves by the count and back, and the digits of the
frame count it, whatever the object holds. -/
structure FrameArithmetic (x : CRP188) (frameCount : ℕ) (format : TimecodeFormat) (n : ℕ) :
    Prop where
  restores : x.Valid →
    ((x.AddFrames frameCount).1.SubtractFrames frameCount).1.ulVal = x.ulVal
  adds : x.Valid → (x.AddFrames frameCount).1.GetFrameCount ≡ x.GetFrameCount + frameCount
    [MOD x.MaxFramesPerDay kTCFormatUnknown]
  subtracts : x.Valid →
    (x.SubtractFrames frameCount).1.GetFrameCount + frameCount ≡ x.GetFrameCount
      [MOD x.MaxFramesPerDay kTCFormatUnknown]
  converts : let t := x.ConvertFrameCount n format
    x.ConvertTimecode format t.h t.m t.s t.f = n

/-- The count goes back from the sum to the held frame. -/
lemma restores_of_fits {frameCount : ℕ} (hx : x.Valid)
    (hadds : toUInt32 (x.heldFrame + frameCount) % x.ownDay ≡ x.heldFrame + frameCount
      [MOD x.ownDay]) :
    ((x.AddFrames frameCount).1.SubtractFrames frameCount).1.ulVal = x.ulVal := by
  have hheld : x.heldFrame < x.ownDay := DropClock.encode_lt_day hx
  have hadd := movedTo_AddFrames hx frameCount
  obtain ⟨n', hn', hmoved, hcount⟩ := movedTo_SubtractFrames hadd.valid frameCount
  have hown : (x.AddFrames frameCount).1.ownDay = x.ownDay := by
    rw [ownDay, hadd.tcFormat_eq]
  have hheld' : (x.AddFrames frameCount).1.heldFrame =
      toUInt32 (x.heldFrame + frameCount) % x.ownDay := by
    rw [← GetFrameCount_eq hadd.valid, hadd.held]
  rw [hown] at hn' hcount
  rw [hheld'] at hcount
  have hsame : n' = x.heldFrame :=
    Nat.ModEq.eq_of_lt_of_lt ((hcount.trans hadds).add_right_cancel' frameCount) hn' hheld
  rw [hmoved.ulVal_eq, hsame, hadd.tcFormat_eq]
  exact DropClock.decode_encode hx

/-- **Counts move and convert as they should** exactly when the sum of the held frame and the
count fits a word, and the frame is one whose digits count back. -/
theorem frameArithmetic_iff {frameCount : ℕ} (hk : frameCount < 4294967296)
    (hn : n < x.MaxFramesPerDay format) :
    x.FrameArithmetic frameCount format n ↔
      (x.Valid → x.heldFrame + frameCount < 4294967296) ∧ x.ConvertsBack format n := by
  have hmod := Nat.mod_modEq (toUInt32 (x.heldFrame + frameCount)) x.ownDay
  have hconvert := x.ConvertFrameCount_eq_decode format n
  rw [MaxFramesPerDay_eq] at hn
  rw [Nat.mod_eq_of_lt hn] at hconvert
  have hconverts := convertsBack_iff hn hconvert
  constructor
  · intro h
    refine ⟨fun hx => ?_, hconverts.mp h.converts⟩
    have hadds := h.adds hx
    rw [(movedTo_AddFrames hx frameCount).held, GetFrameCount_eq hx, MaxFramesPerDay_own] at hadds
    exact (sum_modEq_iff hx hk).mp (hmod.symm.trans hadds)
  · rintro ⟨hfits, hback⟩
    refine ⟨fun hx => ?_, fun hx => ?_, fun hx => ?_, hconverts.mpr hback⟩
    · exact restores_of_fits hx (hmod.trans ((sum_modEq_iff hx hk).mpr (hfits hx)))
    · rw [(movedTo_AddFrames hx frameCount).held, GetFrameCount_eq hx, MaxFramesPerDay_own]
      exact hmod.trans ((sum_modEq_iff hx hk).mpr (hfits hx))
    · obtain ⟨n', -, hmoved, hcount⟩ := movedTo_SubtractFrames hx frameCount
      rw [hmoved.held, GetFrameCount_eq hx, MaxFramesPerDay_own]
      exact hcount

/-- An object at `00:01:00;02` moves by a day and more and back, and in its own format converts
the next second. -/
theorem frameArithmetic_iff_2997DF :
    (Init.SetRP188_frames 1800 kTCFormat30fpsDF).FrameArithmetic 3000000 kTCFormat30fpsDF 1828 :=
  (frameArithmetic_iff (by decide) (by decide +kernel)).mpr
    ⟨fun _ => by decide +kernel, by decide +kernel⟩

/-- An object at `00:00:00;00` counts `00:01:01;00`, frame 1828, as frame 1830: it takes the
minute for a regular one. -/
theorem convertTimecode_reads_own_minute :
    ¬ (Init.SetRP188_frames 0 kTCFormat30fpsDF).FrameArithmetic 0 kTCFormat30fpsDF 1828 := by
  intro h
  exact absurd h.converts (by decide +kernel)

end CRP188

end LibAjaNtv2
