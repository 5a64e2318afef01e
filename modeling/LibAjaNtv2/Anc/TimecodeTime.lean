import Mathlib.Tactic
import LibAjaNtv2.Anc.Timecode
import LibAjaNtv2.Timecode.Rp188Read

/-!
The time in an ancillary timecode (`SetTime`, `GetTime`, `SetTimecode` and `GetTimecode` of
`ancillarydata_timecode.cpp`).

* `AJATimeCode`: a frame count and how it counts high frame rates, with `QueryHmsf`, `SetHmsf`;
* `SetTime`, `GetTime`: a high rate has the field ID as the lowest bit of the frame;
  `GetTime_SetTime`: **a time set is read back**;
* `SetTimecode`, `GetTimecode`;
* `DropClock.dropCount_digits`: the count of digits that another clock shows;
* `timecodeSetGet_iff`: **the frames that come back**, and what is promised of a rate without a
  place in the packet.
-/

namespace LibAjaNtv2

open AJA_FrameRate AJAStatus AJAAncillaryData_Timecode_Format

/-- `AJATimeCode`. -/
structure AJATimeCode where
  m_frame : ℕ
  m_stdTcForHfr : Bool
  deriving DecidableEq, Repr

namespace AJATimeCode

/-- `AJATimeCode::QueryHmsf`. -/
def QueryHmsf (t : AJATimeCode) (timeBase : AJATimeBase) (bDropFrame : Bool) : Hmsf :=
  (CalcHmsf t.m_frame timeBase bDropFrame t.m_stdTcForHfr).1

/-- `AJATimeCode::SetHmsf`. -/
def SetHmsf (t : AJATimeCode) (x : Hmsf) (timeBase : AJATimeBase) (bDropFrame : Bool) :
    AJATimeCode :=
  { t with m_frame := CalcFrame x.h x.m x.s x.f timeBase bDropFrame t.m_stdTcForHfr 0 }

end AJATimeCode

namespace AJAAncillaryData_Timecode_Format

/-- The frames of a second that a format takes, none if the format is unknown. -/
def framesPerSecond : AJAAncillaryData_Timecode_Format → ℕ
  | AJAAncillaryData_Timecode_Format_60fps => 60
  | AJAAncillaryData_Timecode_Format_50fps => 50
  | AJAAncillaryData_Timecode_Format_48fps => 48
  | AJAAncillaryData_Timecode_Format_30fps => 30
  | AJAAncillaryData_Timecode_Format_25fps => 25
  | AJAAncillaryData_Timecode_Format_24fps => 24
  | AJAAncillaryData_Timecode_Format_Unknown => 0

/-- The formats with the field ID as the lowest bit of the frame. -/
def IsHigh (tcFmt : AJAAncillaryData_Timecode_Format) : Prop :=
  tcFmt = AJAAncillaryData_Timecode_Format_60fps ∨
    tcFmt = AJAAncillaryData_Timecode_Format_50fps ∨ tcFmt = AJAAncillaryData_Timecode_Format_48fps

instance (tcFmt : AJAAncillaryData_Timecode_Format) : Decidable tcFmt.IsHigh :=
  inferInstanceAs (Decidable (_ ∨ _ ∨ _))

end AJAAncillaryData_Timecode_Format

/-- The digits of a time. -/
def timeDigitsOf (x : Hmsf) : TimeDigits where
  hourTens := BitVec.ofNat 8 (x.h / 10)
  hourUnits := BitVec.ofNat 8 (x.h % 10)
  minuteTens := BitVec.ofNat 8 (x.m / 10)
  minuteUnits := BitVec.ofNat 8 (x.m % 10)
  secondTens := BitVec.ofNat 8 (x.s / 10)
  secondUnits := BitVec.ofNat 8 (x.s % 10)
  frameTens := BitVec.ofNat 8 (x.f / 10)
  frameUnits := BitVec.ofNat 8 (x.f % 10)

/-- The time of digits. -/
def timeOfDigits (d : TimeDigits) : Hmsf where
  h := d.hourTens.toNat * 10 + d.hourUnits.toNat
  m := d.minuteTens.toNat * 10 + d.minuteUnits.toNat
  s := d.secondTens.toNat * 10 + d.secondUnits.toNat
  f := d.frameTens.toNat * 10 + d.frameUnits.toNat

namespace AJAAncillaryData_Timecode

/-- `AJAAncillaryData_Timecode::SetTime`. -/
def SetTime (tc : AJAAncillaryData_Timecode) (tcFmt : AJAAncillaryData_Timecode_Format)
    (x : Hmsf) : AJAStatus × AJAAncillaryData_Timecode :=
  if 24 ≤ x.h ∨ 60 ≤ x.m ∨ 60 ≤ x.s then (AJA_STATUS_RANGE, tc)
  else if tcFmt.framesPerSecond ≤ x.f then (AJA_STATUS_RANGE, tc)
  else if tcFmt.IsHigh then
    (AJA_STATUS_SUCCESS, (tc.SetFieldIdFlag tcFmt (decide (x.f % 2 = 1))).SetTimeDigits
      (timeDigitsOf { x with f := x.f / 2 }))
  else (AJA_STATUS_SUCCESS, tc.SetTimeDigits (timeDigitsOf x))

/-- `AJAAncillaryData_Timecode::GetTime`, which always answers `AJA_STATUS_SUCCESS`. -/
def GetTime (tc : AJAAncillaryData_Timecode) (tcFmt : AJAAncillaryData_Timecode_Format) : Hmsf :=
  let x := timeOfDigits tc.GetTimeDigits
  if tcFmt.IsHigh then { x with f := x.f * 2 + if tc.GetFieldIdFlag tcFmt then 1 else 0 } else x

/-- `AJAAncillaryData_Timecode::SetTimecode`: the status of `SetTime` is not looked at. -/
def SetTimecode (tc : AJAAncillaryData_Timecode) (inTimecode : AJATimeCode)
    (inTimeBase : AJATimeBase) (inIsDropFrame : Bool) : AJAStatus × AJAAncillaryData_Timecode :=
  let x := inTimecode.QueryHmsf inTimeBase inIsDropFrame
  let tcFmt := GetTimecodeFormatFromTimeBase inTimeBase
  let tc := (tc.SetTime tcFmt x).2
  (AJA_STATUS_SUCCESS, tc.SetDropFrameFlag tcFmt inIsDropFrame)

/-- `AJAAncillaryData_Timecode::GetTimecode`. -/
def GetTimecode (tc : AJAAncillaryData_Timecode) (outTimecode : AJATimeCode)
    (inTimeBase : AJATimeBase) : AJAStatus × AJATimeCode :=
  let tcFmt := GetTimecodeFormatFromTimeBase inTimeBase
  (AJA_STATUS_SUCCESS,
    outTimecode.SetHmsf (tc.GetTime tcFmt) inTimeBase (tc.GetDropFrameFlag tcFmt))

/-! ### A time is read back -/

variable (tc : AJAAncillaryData_Timecode) {tcFmt : AJAAncillaryData_Timecode_Format} {x : Hmsf}

/-- A digit set leaves the flags off its bits. -/
lemma getFlag_setTimeHex {place : Fin 8 × UByte} {k : Fin 8} {mask : UByte}
    (h : place.1 = k → mask &&& place.2 = 0) (v : UByte) :
    (tc.setTimeHex k v mask).getFlag place = tc.getFlag place := by
  have hand : ∀ digit : UByte, mask &&& place.2 = 0 →
      ((digit &&& ~~~mask) ||| (v &&& mask)) &&& place.2 = digit &&& place.2 := by
    intro digit hoff
    refine BitVec.eq_of_getLsbD_eq fun i hi => ?_
    have hbit := congrArg (·.getLsbD i) hoff
    simp only [BitVec.getLsbD_and] at hbit
    rw [BitVec.getLsbD_and, BitVec.getLsbD_or, BitVec.getLsbD_and, BitVec.getLsbD_and,
      BitVec.getLsbD_not, BitVec.getLsbD_and, decide_eq_true hi, Bool.true_and]
    cases hplace : place.2.getLsbD i with
    | false => rw [Bool.and_false, Bool.and_false]
    | true =>
        rw [hplace, Bool.and_true] at hbit
        rw [hbit]
        simp
  rw [getFlag, getFlag, setTimeHex, Fin.getElem_fin, Vector.getElem_set]
  by_cases hk : (k : ℕ) = place.1
  · have hk' : place.1 = k := Fin.ext hk.symm
    subst hk'
    rw [if_pos rfl, hand _ (h rfl)]
  · rw [if_neg hk]
    rfl

/-- The digits of a time leave the flags. -/
lemma getFlag_SetTimeDigits {place : Fin 8 × UByte} (h : OffDigits place) (d : TimeDigits) :
    (tc.SetTimeDigits d).getFlag place = tc.getFlag place := by
  have hoff : ∀ k, place.1 = k → timeMask k &&& place.2 = 0 := by
    rintro k rfl
    rw [BitVec.and_comm]
    exact h
  have hset : ∀ (tc : AJAAncillaryData_Timecode) k v,
      (tc.setTimeHex k v (timeMask k)).getFlag place = tc.getFlag place :=
    fun tc k v => tc.getFlag_setTimeHex (hoff k) v
  exact (hset _ kTcFrameUnits _).trans <| (hset _ kTcFrameTens _).trans <|
    (hset _ kTcSecondUnits _).trans <| (hset _ kTcSecondTens _).trans <|
    (hset _ kTcMinuteUnits _).trans <| (hset _ kTcMinuteTens _).trans <|
    (hset _ kTcHourUnits _).trans (hset _ kTcHourTens _)

/-- The digits of a time in range say that time. -/
lemma timeOfDigits_cut (hh : x.h < 24) (hm : x.m < 60) (hs : x.s < 60) (hf : x.f < 30) :
    timeOfDigits (timeDigitsOf x).cut = x := by
  have htwo : ∀ n < 3, ∀ m < 10, (BitVec.ofNat 8 n &&& 0x03).toNat * 10 +
      (BitVec.ofNat 8 m &&& 0x0F).toNat = n * 10 + m := by decide
  have hsix : ∀ n < 6, ∀ m < 10, (BitVec.ofNat 8 n &&& 0x07).toNat * 10 +
      (BitVec.ofNat 8 m &&& 0x0F).toNat = n * 10 + m := by decide
  refine Hmsf.ext ?_ ?_ ?_ ?_
  · exact (htwo (x.h / 10) (by omega) (x.h % 10) (by omega)).trans (by omega)
  · exact (hsix (x.m / 10) (by omega) (x.m % 10) (by omega)).trans (by omega)
  · exact (hsix (x.s / 10) (by omega) (x.s % 10) (by omega)).trans (by omega)
  · exact (htwo (x.f / 10) (by omega) (x.f % 10) (by omega)).trans (by omega)

/-- **A time set is read back**, also behind the drop frame flag. -/
theorem GetTime_SetTime (hh : x.h < 24) (hm : x.m < 60) (hs : x.s < 60)
    (hf : x.f < tcFmt.framesPerSecond) (bDropFrame : Bool) :
    (tc.SetTime tcFmt x).1 = AJA_STATUS_SUCCESS ∧
      (((tc.SetTime tcFmt x).2.SetDropFrameFlag tcFmt bDropFrame).GetTime tcFmt = x) := by
  obtain ⟨hplaces, hpairs⟩ := flagPlaces_apart tcFmt
  have hdropOff : OffDigits (dropFramePlace tcFmt) := (hplaces _ (by simp [flagPlaces])).1
  have hfieldOff : OffDigits (fieldIdPlace tcFmt) := (hplaces _ (by simp [flagPlaces])).1
  have hfieldNe : (fieldIdPlace tcFmt).2 ≠ 0 := (hplaces _ (by simp [flagPlaces])).2
  have hapart : PlacesApart (dropFramePlace tcFmt) (fieldIdPlace tcFmt) :=
    ((List.pairwise_cons.mp hpairs).1 (fieldIdPlace tcFmt) (by simp)).1
  rw [SetTime, if_neg (by omega), if_neg (by omega)]
  by_cases hhigh : tcFmt.IsHigh
  · have hf30 : x.f / 2 < 30 := by
      rcases hhigh with rfl | rfl | rfl <;> simp only [framesPerSecond] at hf <;> omega
    rw [if_pos hhigh, GetTime, if_pos hhigh, SetDropFrameFlag, GetFieldIdFlag,
      GetTimeDigits_setFlag _ hdropOff, GetTimeDigits_SetTimeDigits, getFlag_setFlag _ hapart,
      getFlag_SetTimeDigits _ hfieldOff, SetFieldIdFlag, getFlag_setFlag_self _ hfieldNe,
      @timeOfDigits_cut { x with f := x.f / 2 } hh hm hs hf30]
    refine ⟨rfl, Hmsf.ext rfl rfl rfl ?_⟩
    simp only [decide_eq_true_eq]
    split_ifs <;> omega
  · have hf30 : x.f < 30 := by
      cases tcFmt <;> first | exact absurd (by decide) hhigh | (simp only [framesPerSecond] at hf; omega)
    rw [if_neg hhigh, GetTime, if_neg hhigh, SetDropFrameFlag, GetTimeDigits_setFlag _ hdropOff,
      GetTimeDigits_SetTimeDigits, timeOfDigits_cut hh hm hs hf30]
    exact ⟨rfl, rfl⟩

end AJAAncillaryData_Timecode

/-! ### Digits counted by another clock -/

/-- The drop minutes before a minute of the digits. -/
def Hmsf.dropMinutesBefore (x : Hmsf) : ℕ := 60 * x.h + x.m - (60 * x.h + x.m) / 10

namespace DropClock

variable (c : DropClock) {x : Hmsf}

/-- The dropped numbers are fewer than the numbers. -/
lemma drop_mul_le (x : Hmsf) :
    c.drop * x.dropMinutesBefore ≤ c.fps * (3600 * x.h + 60 * x.m + x.s) := by
  refine Nat.mul_le_mul c.drop_lt.le ?_
  rw [Hmsf.dropMinutesBefore]
  omega

/-- **The count of digits** that no clock rounds up: the numbers before them less the dropped
ones. -/
lemma dropCount_digits (hh : x.h < 24) (hm : x.m < 60) (hs : x.s < 60)
    (hf : c.fps * 86400 + x.f < 4294967296) (hround : ¬ (x.s = 0 ∧ x.m % 10 ≠ 0 ∧ x.f < 2)) :
    dropCount c.fps c.drop x.h x.m x.s x.f =
      c.fps * (3600 * x.h + 60 * x.m + x.s) + x.f - c.drop * x.dropMinutesBefore := by
  have hle := c.drop_mul_le x
  have htot : toUInt32 (60 * x.h + x.m) = 60 * x.h + x.m :=
    toUInt32_of_eq (by push_cast; ring) (by omega)
  have hadj : ¬ (x.s = 0 ∧ x.m % 10 > 0 ∧ x.f - x.f % 2 = 0) := by omega
  have hnumbers : c.fps * (3600 * x.h + 60 * x.m + x.s) ≤ c.fps * 86400 :=
    Nat.mul_le_mul_left _ (by omega)
  simp only [dropCount, c.hourFrames_eq, c.minuteFrames_eq, htot, if_neg hadj]
  refine toUInt32_of_eq ?_ (by omega)
  have hsub : ((60 * x.h + x.m : ℕ) - ((60 * x.h + x.m) / 10 : ℕ) : Int) = x.dropMinutesBefore := by
    rw [Hmsf.dropMinutesBefore]
    omega
  rw [Nat.cast_sub (by omega)]
  push_cast at hsub ⊢
  rw [hsub]
  ring

/-- The plain count of digits. -/
lemma nonDropCount_digits (hh : x.h < 24) (hm : x.m < 60) (hs : x.s < 60)
    (hf : c.fps * 86400 + x.f < 4294967296) :
    nonDropCount c.fps x.h x.m x.s x.f = c.fps * (3600 * x.h + 60 * x.m + x.s) + x.f := by
  have hnumbers : c.fps * (3600 * x.h + 60 * x.m + x.s) ≤ c.fps * 86400 :=
    Nat.mul_le_mul_left _ (by omega)
  simp only [nonDropCount, c.hourFrames_eq, c.minuteFrames_eq]
  refine toUInt32_of_eq ?_ (by omega)
  push_cast
  ring

end DropClock

namespace AJATimeCode

variable {r : AJA_FrameRate} {bDropFrame bIn bOut : Bool} {n : ℕ}

/-- A rate has as many frames in a second, however they are counted. -/
lemma fps_mul_hfrDivisor (r : AJA_FrameRate) (bDropFrame bStdTcForHfr : Bool) :
    (rateClock r bDropFrame bStdTcForHfr).fps * hfrDivisor r bStdTcForHfr =
      (rateClock r false false).fps := by
  change (rateClock r false bStdTcForHfr).fps * _ = _
  cases r <;> cases bStdTcForHfr <;> decide +kernel

lemma two_le_drop (h : AJA_FrameRate_2398 ≤ r) (bStdTcForHfr : Bool) :
    2 ≤ (rateClock r true bStdTcForHfr).drop := by
  revert h
  cases r <;> cases bStdTcForHfr <;> decide +kernel

/-- Below 23.98 both ways of counting are one. -/
lemma rateClock_of_low (h : ¬ AJA_FrameRate_2398 ≤ r) (bDropFrame bIn bOut : Bool) :
    rateClock r bDropFrame bIn = rateClock r bDropFrame bOut := by
  have hscale : ∀ b, scaledRate r b = (AJATimeBase.ofRate r).mFrameTimeScale.tdiv 1 := fun b => by
    rw [scaledRate, @hfrDivisor_of_low r b h]
    rfl
  simp only [rateClock, hscale]

/-- What one way of counting says of a frame is the frame in the other way: the frames that the
digits leave out, and the numbers dropped so far, come to the same. -/
def CountsAlike (r : AJA_FrameRate) (bDropFrame bIn bOut : Bool) (n : ℕ) : Prop :=
  let x := (rateClock r bDropFrame bIn).decode (n / hfrDivisor r bIn)
  ((hfrDivisor r bIn : Int) - hfrDivisor r bOut) * x.f + (n % hfrDivisor r bIn : ℕ) =
    ((hfrDivisor r bIn : Int) * (rateClock r bDropFrame bIn).drop -
      hfrDivisor r bOut * (rateClock r bDropFrame bOut).drop) * x.dropMinutesBefore

instance : Decidable (CountsAlike r bDropFrame bIn bOut n) := inferInstanceAs (Decidable (_ = _))

lemma rateClock_fps_le_120 (r : AJA_FrameRate) (bDropFrame bStdTcForHfr : Bool) :
    (rateClock r bDropFrame bStdTcForHfr).fps ≤ 120 := by
  refine (rateClock_fps_le r bDropFrame bStdTcForHfr).trans ?_
  split_ifs <;> decide

/-- The count of digits that are not rounded up. -/
lemma countOf_digits {x : Hmsf} (hh : x.h < 24) (hm : x.m < 60) (hs : x.s < 60) (hf : x.f < 120)
    (hround : bDropFrame = true → ¬ (x.s = 0 ∧ x.m % 10 ≠ 0 ∧ x.f < 2)) :
    countOf r bDropFrame bOut x + (rateClock r bDropFrame bOut).drop * x.dropMinutesBefore =
      (rateClock r bDropFrame bOut).fps * (3600 * x.h + 60 * x.m + x.s) + x.f := by
  have hfps := rateClock_fps_le_120 r bDropFrame bOut
  cases bDropFrame with
  | false =>
      have hzero : (rateClock r false bOut).drop = 0 := rfl
      rw [countOf, if_neg (by decide), DropClock.nonDropCount_digits _ hh hm hs (by omega), hzero,
        Nat.zero_mul, Nat.add_zero]
  | true =>
      have hle := (rateClock r true bOut).drop_mul_le x
      rw [countOf, if_pos rfl, DropClock.dropCount_digits _ hh hm hs (by omega) (hround rfl)]
      omega

/-- The frame of digits that are not rounded up. -/
lemma CalcFrame_digits (hr : r.Supported) {x : Hmsf} (hh : x.h < 24) (hm : x.m < 60)
    (hs : x.s < 60) (hf : x.f < 120)
    (hround : bDropFrame = true → ¬ (x.s = 0 ∧ x.m % 10 ≠ 0 ∧ x.f < 2)) :
    CalcFrame x.h x.m x.s x.f (.ofRate r) bDropFrame bOut 0 =
      countOf r bDropFrame bOut x * hfrDivisor r bOut := by
  have hcount := @countOf_digits r bDropFrame bOut x hh hm hs hf hround
  have hfps := rateClock_fps_le_120 r bDropFrame bOut
  have hdiv : hfrDivisor r bOut ≤ 4 := by
    rw [hfrDivisor]
    split_ifs <;> decide
  have hnumbers : (rateClock r bDropFrame bOut).fps * (3600 * x.h + 60 * x.m + x.s) ≤
      120 * 86400 := Nat.mul_le_mul hfps (by omega)
  have hprod : countOf r bDropFrame bOut x * hfrDivisor r bOut ≤ (120 * 86400 + 120) * 4 :=
    Nat.mul_le_mul (by omega) hdiv
  have hzero : (if bOut = true then ((0 : ℕ) : Int) else 0) = 0 := by
    split_ifs <;> rfl
  rw [CalcFrame_eq hr, hzero, Int.add_zero]
  have hinner : toUInt32 ((countOf r bDropFrame bOut x : Int) * hfrDivisor r bOut) =
      countOf r bDropFrame bOut x * hfrDivisor r bOut :=
    toUInt32_of_eq (Nat.cast_mul _ _).symm (by omega)
  rw [hinner]
  exact toUInt32_of_eq rfl (by omega)

/-- **The frame of the digits of a frame** is that frame, but for the rounding up and for what the
two ways of counting differ in. -/
lemma CalcFrame_decode_iff (hr : r.Supported) (hn : n < framesPerDay r bDropFrame bIn) {x : Hmsf}
    (hx : x = (rateClock r bDropFrame bIn).decode (n / hfrDivisor r bIn)) :
    CalcFrame x.h x.m x.s x.f (.ofRate r) bDropFrame bOut 0 = n ↔
      ¬ RoundedUp r bDropFrame bIn n ∧ CountsAlike r bDropFrame bIn bOut n := by
  by_cases hlow : AJA_FrameRate_2398 ≤ r
  · have hshow := DropClock.decode_shows _ (div_lt_day hn)
    have hnum := (rateClock r bDropFrame bIn).number_decode (n / hfrDivisor r bIn)
    have hdiv := Nat.div_add_mod n (hfrDivisor r bIn)
    have hround : bDropFrame = true → ¬ (x.s = 0 ∧ x.m % 10 ≠ 0 ∧ x.f < 2) := by
      rintro rfl ⟨hs, hm, hf⟩
      have htwo := two_le_drop hlow bIn
      rw [hx] at hs hm hf
      have hnot := hshow.not_dropped hs hm
      omega
    have hnone : ¬ RoundedUp r bDropFrame bIn n := fun h => h.2.1 hlow
    rw [CountsAlike, ← hx]
    simp only [hnone, not_false_eq_true, true_and]
    rw [← hx] at hshow hnum
    have hf : x.f < 120 := hshow.f_lt.trans_le (rateClock_fps_le_120 r bDropFrame bIn)
    have hcount := @countOf_digits r bDropFrame bOut x hshow.h_lt hshow.m_lt hshow.s_lt hf hround
    have hboth : (rateClock r bDropFrame bIn).fps * hfrDivisor r bIn =
        (rateClock r bDropFrame bOut).fps * hfrDivisor r bOut :=
      (fps_mul_hfrDivisor r bDropFrame bIn).trans (fps_mul_hfrDivisor r bDropFrame bOut).symm
    rw [CalcFrame_digits hr hshow.h_lt hshow.m_lt hshow.s_lt hf hround]
    rw [← Hmsf.dropMinutesBefore] at hnum
    generalize countOf r bDropFrame bOut x = count at *
    generalize 3600 * x.h + 60 * x.m + x.s = seconds at *
    zify at hnum hdiv hcount hboth ⊢
    constructor
    · intro heq
      linear_combination (hfrDivisor r bIn : Int) * hnum + hdiv + (hfrDivisor r bOut : Int) * hcount -
        heq - (seconds : Int) * hboth
    · intro heq
      linear_combination (hfrDivisor r bIn : Int) * hnum + hdiv + (hfrDivisor r bOut : Int) * hcount -
        heq - (seconds : Int) * hboth
  · have hclock := rateClock_of_low hlow bDropFrame bIn bOut
    have hout := @hfrDivisor_of_low r bOut hlow
    have hin := @hfrDivisor_of_low r bIn hlow
    have hday : n < framesPerDay r bDropFrame bOut := by
      rwa [framesPerDay, ← hclock, hout, ← hin]
    have hback := countsBack_iff hr hday
    rw [CountsBack, CalcHmsf_eq_decode hr hday, ← hclock, hout, ← hin, ← hx] at hback
    have hmod : n % hfrDivisor r bIn = 0 := by rw [hin, Nat.mod_one]
    simp only [hmod] at hback
    rw [hback, RoundedUp, RoundedUp, hclock, CountsAlike, hclock, hout, hmod]
    simp [hin]

end AJATimeCode

/-! ### Timecodes come back -/

/-- The frames of a second, as a timecode counts them, have a place in the packet. -/
def PacketHolds (r : AJA_FrameRate) (bStdTcForHfr : Bool) : Prop :=
  (rateClock r false bStdTcForHfr).fps ≤
    (GetTimecodeFormatFromTimeBase (.ofRate r)).framesPerSecond

instance (r : AJA_FrameRate) (bStdTcForHfr : Bool) : Decidable (PacketHolds r bStdTcForHfr) :=
  inferInstanceAs (Decidable (_ ≤ _))

/-- Only the highest rates, counted in full, have no place in the packet. -/
lemma packetHolds_iff {r : AJA_FrameRate} (hr : r.Supported) (bStdTcForHfr : Bool) :
    PacketHolds r bStdTcForHfr ↔ ¬ (AJA_FrameRate_10000 ≤ r ∧ bStdTcForHfr = false) := by
  cases r with
  | AJA_FrameRate_Unknown => exact absurd rfl hr
  | _ => cases bStdTcForHfr <;> decide +kernel

namespace AJAAncillaryData_Timecode

/-- What a packet promises of a timecode: if it takes it, it gives it back, and it does not take
one of a rate that it has no place for. -/
structure TimecodeSetGet (tc : AJAAncillaryData_Timecode) (inTimecode outTimecode : AJATimeCode)
    (r : AJA_FrameRate) (inIsDropFrame : Bool) : Prop where
  returns : (tc.SetTimecode inTimecode (.ofRate r) inIsDropFrame).1 = AJA_STATUS_SUCCESS →
    (tc.SetTimecode inTimecode (.ofRate r) inIsDropFrame).2.GetTimecode outTimecode (.ofRate r) =
      (AJA_STATUS_SUCCESS, { outTimecode with m_frame := inTimecode.m_frame })
  refuses : ¬ PacketHolds r inTimecode.m_stdTcForHfr →
    (tc.SetTimecode inTimecode (.ofRate r) inIsDropFrame).1 ≠ AJA_STATUS_SUCCESS

/-- The drop frame flag set last is read back. -/
lemma GetDropFrameFlag_SetTimecode (tc : AJAAncillaryData_Timecode) (inTimecode : AJATimeCode)
    (inTimeBase : AJATimeBase) (inIsDropFrame : Bool) :
    (tc.SetTimecode inTimecode inTimeBase inIsDropFrame).2.GetDropFrameFlag
      (GetTimecodeFormatFromTimeBase inTimeBase) = inIsDropFrame := by
  have hplaces := (flagPlaces_apart (GetTimecodeFormatFromTimeBase inTimeBase)).1
  exact getFlag_setFlag_self _ (hplaces (dropFramePlace _) List.mem_cons_self).2 inIsDropFrame

variable (tc : AJAAncillaryData_Timecode) {inTimecode : AJATimeCode} {r : AJA_FrameRate}
  {inIsDropFrame : Bool}

/-- **The packet keeps timecodes** of the frames that fit it, where the digits lose nothing. -/
theorem timecodeSetGet_iff (outTimecode : AJATimeCode) (hr : r.Supported)
    (hn : inTimecode.m_frame <
      AJATimeCode.framesPerDay r inIsDropFrame inTimecode.m_stdTcForHfr) :
    TimecodeSetGet tc inTimecode outTimecode r inIsDropFrame ↔
      ¬ (AJA_FrameRate_10000 ≤ r ∧ inTimecode.m_stdTcForHfr = false) ∧
        ¬ AJATimeCode.RoundedUp r inIsDropFrame inTimecode.m_stdTcForHfr inTimecode.m_frame ∧
        AJATimeCode.CountsAlike r inIsDropFrame inTimecode.m_stdTcForHfr outTimecode.m_stdTcForHfr
          inTimecode.m_frame := by
  rw [← packetHolds_iff hr]
  by_cases hholds : PacketHolds r inTimecode.m_stdTcForHfr
  · have hquery : inTimecode.QueryHmsf (.ofRate r) inIsDropFrame =
        (rateClock r inIsDropFrame inTimecode.m_stdTcForHfr).decode
          (inTimecode.m_frame / hfrDivisor r inTimecode.m_stdTcForHfr) := by
      rw [AJATimeCode.QueryHmsf, AJATimeCode.CalcHmsf_eq_decode hr hn]
    have hshow := DropClock.decode_shows _ (AJATimeCode.div_lt_day hn)
    rw [← hquery] at hshow
    have hget := (tc.GetTime_SetTime hshow.h_lt hshow.m_lt hshow.s_lt
      (hshow.f_lt.trans_le hholds) inIsDropFrame).2
    have hframe := @AJATimeCode.CalcFrame_decode_iff r inIsDropFrame inTimecode.m_stdTcForHfr
      outTimecode.m_stdTcForHfr inTimecode.m_frame hr hn _ hquery
    have hdrop := tc.GetDropFrameFlag_SetTimecode inTimecode (.ofRate r) inIsDropFrame
    have hback : (tc.SetTimecode inTimecode (.ofRate r) inIsDropFrame).2.GetTimecode outTimecode
        (.ofRate r) = (AJA_STATUS_SUCCESS, outTimecode.SetHmsf
          (inTimecode.QueryHmsf (.ofRate r) inIsDropFrame) (.ofRate r) inIsDropFrame) := by
      rw [GetTimecode, hdrop]
      exact congrArg (fun x => (AJA_STATUS_SUCCESS, outTimecode.SetHmsf x (.ofRate r)
        inIsDropFrame)) hget
    have heq : (tc.SetTimecode inTimecode (.ofRate r) inIsDropFrame).2.GetTimecode outTimecode
        (.ofRate r) = (AJA_STATUS_SUCCESS, { outTimecode with m_frame := inTimecode.m_frame }) ↔
        ¬ AJATimeCode.RoundedUp r inIsDropFrame inTimecode.m_stdTcForHfr inTimecode.m_frame ∧
          AJATimeCode.CountsAlike r inIsDropFrame inTimecode.m_stdTcForHfr
            outTimecode.m_stdTcForHfr inTimecode.m_frame := by
      rw [hback, ← hframe, Prod.mk.injEq, AJATimeCode.SetHmsf, AJATimeCode.mk.injEq]
      simp only [true_and, and_true]
    constructor
    · exact fun h => ⟨hholds, heq.mp (h.returns rfl)⟩
    · exact fun h => ⟨fun _ => heq.mpr h.2, fun hnot => absurd hholds hnot⟩
  · constructor
    · exact fun h => absurd rfl (h.refuses hholds)
    · exact fun h => absurd h.1 hholds

/-- At 29.97 with drops a frame comes back. -/
theorem timecodeSetGet_iff_2997 : TimecodeSetGet Init ⟨107892, true⟩ ⟨0, true⟩
    AJA_FrameRate_2997 true :=
  (timecodeSetGet_iff Init ⟨0, true⟩ (by decide) (by decide +kernel)).mpr
    ⟨by decide, by decide +kernel, by decide +kernel⟩

/-- At 100 frames per second, counted in full, frame 60 is refused inside and comes back as
frame 0. -/
theorem not_timecodeSetGet_10000 :
    ¬ TimecodeSetGet Init ⟨60, false⟩ ⟨0, false⟩ AJA_FrameRate_10000 false := by
  rintro ⟨hreturns, -⟩
  have hback := congrArg (·.2.m_frame) (hreturns rfl)
  revert hback
  decide +kernel

end AJAAncillaryData_Timecode

end LibAjaNtv2
