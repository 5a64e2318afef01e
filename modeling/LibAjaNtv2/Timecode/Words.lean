import Mathlib.Tactic
import LibAjaNtv2.Timecode.Bijection
import LibAjaNtv2.Timecode.Rp188

/-!
What the RP188 words say.

* `Rp188Fields`, `fieldsOf`: the digits and the flags at their places in the words;
* `TimecodeFormat.timecodeFields`: the fields that digits have in a format;
* `Matching`: the formats and the rates of their time bases;
* `CRP188.fields_SetRP188`: `SetRP188` stores these fields;
* `AJATimeCode.fields_QueryRP188_mod`, `AJATimeCode.fields_QueryRP188`: `QueryRP188` produces
  them, at any rate up to the width of the frame digits.
-/

namespace LibAjaNtv2

open TimecodeFormat AJA_FrameRate

/-! ### What the words say -/

/-- The digits and the flags of the timecode words. -/
@[ext]
structure Rp188Fields where
  hours10 : BitVec 2
  hours1 : BitVec 4
  minutes10 : BitVec 3
  minutes1 : BitVec 4
  seconds10 : BitVec 3
  seconds1 : BitVec 4
  frames10 : BitVec 2
  frames1 : BitVec 4
  dropFrame : BitVec 1
  lowFieldID : BitVec 1
  highFieldID : BitVec 1
  deriving DecidableEq

/-- The fields at their places in the words. -/
def fieldsOf (Low High : BitVec 32) : Rp188Fields where
  hours10 := High.extractLsb' 24 2
  hours1 := High.extractLsb' 16 4
  minutes10 := High.extractLsb' 8 3
  minutes1 := High.extractLsb' 0 4
  seconds10 := Low.extractLsb' 24 3
  seconds1 := Low.extractLsb' 16 4
  frames10 := Low.extractLsb' 8 2
  frames1 := Low.extractLsb' 0 4
  dropFrame := Low.extractLsb' 10 1
  lowFieldID := Low.extractLsb' 27 1
  highFieldID := High.extractLsb' 27 1

/-- The fields of the registers. -/
def RP188_STRUCT.fields (r : RP188_STRUCT) : Rp188Fields := fieldsOf r.Low r.High

/-- The low word of seconds and two frame digits. -/
def lowDigits (s f : ℕ) : BitVec 32 :=
  BitVec.ofNat 32 (s / 10) <<< 24 ||| BitVec.ofNat 32 (s % 10) <<< 16 |||
    BitVec.ofNat 32 (f / 10) <<< 8 ||| BitVec.ofNat 32 (f % 10) <<< 0

/-- The high word of hours and minutes. -/
def highDigits (h m : ℕ) : BitVec 32 :=
  BitVec.ofNat 32 (h / 10) <<< 24 ||| BitVec.ofNat 32 (h % 10) <<< 16 |||
    BitVec.ofNat 32 (m / 10) <<< 8 ||| BitVec.ofNat 32 (m % 10) <<< 0

/-- The fields of digits and flags. -/
def digitFields (t : Hmsf) (frames : ℕ) (drop low high : Bool) : Rp188Fields where
  hours10 := BitVec.ofNat 2 (t.h / 10)
  hours1 := BitVec.ofNat 4 (t.h % 10)
  minutes10 := BitVec.ofNat 3 (t.m / 10)
  minutes1 := BitVec.ofNat 4 (t.m % 10)
  seconds10 := BitVec.ofNat 3 (t.s / 10)
  seconds1 := BitVec.ofNat 4 (t.s % 10)
  frames10 := BitVec.ofNat 2 (frames / 10)
  frames1 := BitVec.ofNat 4 (frames % 10)
  dropFrame := BitVec.ofBool drop
  lowFieldID := BitVec.ofBool low
  highFieldID := BitVec.ofBool high

/-- The digits in range, as many frames as two of their digits hold. -/
structure Hmsf.InRange (t : Hmsf) (frames : ℕ) : Prop where
  h_lt : t.h < 24
  m_lt : t.m < 60
  s_lt : t.s < 60
  frames_lt : frames < 40

/-- The words of digits hold the digits and no flag. -/
lemma fieldsOf_digits {t : Hmsf} {frames : ℕ} (ht : t.InRange frames) :
    fieldsOf (lowDigits t.s frames) (highDigits t.h t.m) =
      digitFields t frames false false false := by
  have hh := ht.h_lt
  have hm := ht.m_lt
  have hs := ht.s_lt
  have hf := ht.frames_lt
  simp (disch := omega) only [fieldsOf, digitFields, lowDigits, highDigits,
    BitVec.extractLsb'_or, BitField.extract_part, BitField.extract_above,
    BitField.extract_below, BitVec.or_zero, BitVec.zero_or]
  rfl

/-! ### What the setters change -/

/-- The bits of the low word beside the fields. -/
lemma fieldsOf_setLow (Low High : BitVec 32) {k : ℕ} (b : Bool)
    (hk : k = 4 ∨ k = 5 ∨ k = 11) :
    fieldsOf (BitField.set Low k b) High = fieldsOf Low High := by
  rcases hk with rfl | rfl | rfl <;>
    simp (disch := omega) only [fieldsOf, BitField.extract_set]

lemma fieldsOf_setHigh (Low High : BitVec 32) {k : ℕ} (b : Bool) (hk : k = 11 ∨ k = 26) :
    fieldsOf Low (BitField.set High k b) = fieldsOf Low High := by
  rcases hk with rfl | rfl <;>
    simp (disch := omega) only [fieldsOf, BitField.extract_set]

lemma fieldsOf_setLow_drop (Low High : BitVec 32) (b : Bool) :
    fieldsOf (BitField.set Low 10 b) High =
      { fieldsOf Low High with dropFrame := BitVec.ofBool b } := by
  simp (disch := omega) only [fieldsOf, BitField.extract_set, BitField.extract_set_self]

lemma fieldsOf_setLow_fieldID (Low High : BitVec 32) (b : Bool) :
    fieldsOf (BitField.set Low 27 b) High =
      { fieldsOf Low High with lowFieldID := BitVec.ofBool b } := by
  simp (disch := omega) only [fieldsOf, BitField.extract_set, BitField.extract_set_self]

lemma fieldsOf_setHigh_fieldID (Low High : BitVec 32) (b : Bool) :
    fieldsOf Low (BitField.set High 27 b) =
      { fieldsOf Low High with highFieldID := BitVec.ofBool b } := by
  simp (disch := omega) only [fieldsOf, BitField.extract_set, BitField.extract_set_self]

namespace CRP188

variable (x : CRP188)

/-- The object's own format is PAL. -/
def isPAL : Bool := x.tcFormat = kTCFormat25fps || x.tcFormat = kTCFormat50fps

lemma fields_SetVaricamFrameActive (b : Bool) (frame : ℕ) :
    (x.SetVaricamFrameActive b frame).rp188.fields = x.rp188.fields := by
  rw [SetVaricamFrameActive]
  split
  · exact fieldsOf_setLow _ _ b (.inr (.inl rfl))
  · exact fieldsOf_setLow _ _ b (.inl rfl)

lemma fields_SetColorFrame (b : Bool) :
    (x.SetColorFrame b).rp188.fields = x.rp188.fields :=
  fieldsOf_setLow _ _ b (.inr (.inr rfl))

lemma fields_SetDropFrame (b : Bool) :
    (x.SetDropFrame b).rp188.fields =
      { x.rp188.fields with dropFrame := BitVec.ofBool b } :=
  fieldsOf_setLow_drop _ _ b

/-- The binary groups 3 and 4 are beside the fields. -/
lemma extract_varicam (v rate : BitVec 32) {start len : ℕ}
    (h : start + len ≤ 20 ∨ 24 ≤ start ∧ start + len ≤ 28) :
    ((v &&& 0x0F0FFFFF#32) ||| ((rate &&& 0x0f#32) <<< 20) |||
      ((rate &&& 0xf0#32) <<< 24)).extractLsb' start len = v.extractLsb' start len := by
  have hmask : ∀ j < 28, j < 20 ∨ 24 ≤ j →
      (0x0F0FFFFF#32).getLsbD j = true ∧
        (j < 20 ∨ (0x0f#32).getLsbD (j - 20) = false) ∧
        (j < 24 ∨ (0xf0#32).getLsbD (j - 24) = false) := by decide
  ext i hi
  obtain ⟨hkeep, hlow, hhigh⟩ := hmask (start + i) (by omega) (by omega)
  rw [← BitVec.getLsbD_eq_getElem, ← BitVec.getLsbD_eq_getElem,
    BitVec.getLsbD_extractLsb', BitVec.getLsbD_extractLsb']
  simp only [BitVec.getLsbD_or, BitVec.getLsbD_and, BitVec.getLsbD_shiftLeft]
  rw [hkeep]
  rcases hlow with hlow | hlow <;> rcases hhigh with hhigh | hhigh <;>
    simp [hlow, hhigh]

lemma fields_SetVaricamRate (frameRate : NTV2FrameRate) :
    (x.SetVaricamRate frameRate).rp188.fields = x.rp188.fields := by
  simp (disch := omega) only [RP188_STRUCT.fields, fieldsOf, SetVaricamRate, extract_varicam]

/-- For PAL the field ID is bit 27 of the high word. -/
lemma SetFieldID_pal (fieldID : ℕ) (h : x.isPAL = true) :
    (x.SetFieldID fieldID).rp188 =
      { x.rp188 with High := BitField.set x.rp188.High 27 (fieldID != 0) } := by
  have hset : x.SetFieldID fieldID = { x with fieldID := fieldID }.setHigh 27 (fieldID != 0) :=
    if_pos h
  rw [hset]
  rfl

/-- For NTSC it is bit 27 of the low word. -/
lemma SetFieldID_ntsc (fieldID : ℕ) (h : x.isPAL = false) :
    (x.SetFieldID fieldID).rp188 =
      { x.rp188 with Low := BitField.set x.rp188.Low 27 (fieldID != 0) } := by
  have hset : x.SetFieldID fieldID = { x with fieldID := fieldID }.setLow 27 (fieldID != 0) :=
    if_neg (ne_true_of_eq_false h)
  rw [hset]
  rfl

lemma fields_SetFieldID_pal (fieldID : ℕ) (h : x.isPAL = true) :
    (x.SetFieldID fieldID).rp188.fields =
      { x.rp188.fields with highFieldID := BitVec.ofBool (fieldID != 0) } := by
  rw [SetFieldID_pal _ _ h]
  exact fieldsOf_setHigh_fieldID _ _ _

lemma fields_SetFieldID_ntsc (fieldID : ℕ) (h : x.isPAL = false) :
    (x.SetFieldID fieldID).rp188.fields =
      { x.rp188.fields with lowFieldID := BitVec.ofBool (fieldID != 0) } := by
  rw [SetFieldID_ntsc _ _ h]
  exact fieldsOf_setLow_fieldID _ _ _

lemma fields_SetBFGBits_pal (h : x.isPAL = true) :
    (x.SetBFGBits false false false).rp188.fields =
      { x.rp188.fields with lowFieldID := BitVec.ofBool false } := by
  have hset : x.SetBFGBits false false false =
      ((x.setHigh 26 false).setLow 27 false).setHigh 11 false := if_pos h
  rw [hset]
  simp only [RP188_STRUCT.fields, setHigh, setLow, fieldsOf_setHigh _ _ _ (.inl rfl),
    fieldsOf_setLow_fieldID, fieldsOf_setHigh _ _ _ (.inr rfl)]

lemma fields_SetBFGBits_ntsc (h : x.isPAL = false) :
    (x.SetBFGBits false false false).rp188.fields =
      { x.rp188.fields with highFieldID := BitVec.ofBool false } := by
  have hset : x.SetBFGBits false false false =
      ((x.setHigh 26 false).setHigh 11 false).setHigh 27 false :=
    if_neg (ne_true_of_eq_false h)
  rw [hset]
  simp only [RP188_STRUCT.fields, setHigh, fieldsOf_setHigh_fieldID,
    fieldsOf_setHigh _ _ _ (.inl rfl), fieldsOf_setHigh _ _ _ (.inr rfl)]

/-! ### The text -/

/-- A number below a hundred prints as two digits. -/
lemma print02d_eq {n : ℕ} (h : n < 100) :
    print02d n = [Char.ofNat (48 + n / 10), Char.ofNat (48 + n % 10)] := by
  have hall : ∀ n < 100, print02d n = [Char.ofNat (48 + n / 10), Char.ofNat (48 + n % 10)] := by
    decide +kernel
  exact hall n h

lemma digit_toNat {d : ℕ} (h : d < 10) : (Char.ofNat (48 + d)).toNat - 48 = d := by
  have hall : ∀ d < 10, (Char.ofNat (48 + d)).toNat - 48 = d := by decide
  exact hall d h

/-- **The text keeps the digits.** -/
lemma scanDigit_timeCodeString (b : Bool) {t : Hmsf} (hh : t.h < 100) (hm : t.m < 100)
    (hs : t.s < 100) (hf : t.f < 100) :
    scanDigit (timeCodeString b t) 0 = t.h / 10 ∧ scanDigit (timeCodeString b t) 1 = t.h % 10 ∧
    scanDigit (timeCodeString b t) 3 = t.m / 10 ∧ scanDigit (timeCodeString b t) 4 = t.m % 10 ∧
    scanDigit (timeCodeString b t) 6 = t.s / 10 ∧ scanDigit (timeCodeString b t) 7 = t.s % 10 ∧
    scanDigit (timeCodeString b t) 9 = t.f / 10 ∧ scanDigit (timeCodeString b t) 10 = t.f % 10 := by
  have hdig : ∀ n, n < 100 → (Char.ofNat (48 + n / 10)).toNat - 48 = n / 10 ∧
      (Char.ofNat (48 + n % 10)).toNat - 48 = n % 10 :=
    fun n hn => ⟨digit_toNat (by omega), digit_toNat (by omega)⟩
  simp only [timeCodeString, print02d_eq hh, print02d_eq hm, print02d_eq hs, print02d_eq hf,
    scanDigit]
  exact ⟨(hdig _ hh).1, (hdig _ hh).2, (hdig _ hm).1, (hdig _ hm).2, (hdig _ hs).1,
    (hdig _ hs).2, (hdig _ hf).1, (hdig _ hf).2⟩

/-! ### The words of the text -/

lemma and_mask {d mask : ℕ} (n : ℕ) (hm : mask = 2 ^ n - 1) (hd : d < 2 ^ n) :
    d &&& mask = d := by
  rw [hm, Nat.and_two_pow_sub_one_eq_mod, Nat.mod_eq_of_lt hd]

lemma and_three {d : ℕ} (hd : d < 4) : d &&& 0x3 = d := and_mask 2 rfl hd

lemma and_seven {d : ℕ} (hd : d < 8) : d &&& 0x7 = d := and_mask 3 rfl hd

lemma and_fifteen {d : ℕ} (hd : d < 16) : d &&& 0xF = d := and_mask 4 rfl hd

/-- The words of hours, minutes and seconds. -/
lemma place_digits {t : Hmsf} {frames : ℕ} (ht : t.InRange frames) :
    (place (t.h / 10) 0x3 24 ||| place (t.h % 10) 0xF 16 ||| place (t.m / 10) 0x7 8 |||
        place (t.m % 10) 0xF 0 = highDigits t.h t.m) ∧
      (place (t.s / 10) 0x7 24 ||| place (t.s % 10) 0xF 16 =
        BitVec.ofNat 32 (t.s / 10) <<< 24 ||| BitVec.ofNat 32 (t.s % 10) <<< 16) ∧
      place (frames / 10) 0x3 8 = BitVec.ofNat 32 (frames / 10) <<< 8 ∧
      place (frames % 10) 0xF 0 = BitVec.ofNat 32 (frames % 10) <<< 0 := by
  have hh := ht.h_lt
  have hm := ht.m_lt
  have hs := ht.s_lt
  have hf := ht.frames_lt
  refine ⟨?_, ?_, ?_, ?_⟩
  · simp (disch := omega) only [highDigits, place, and_three, and_seven, and_fifteen]
  · simp (disch := omega) only [place, and_seven, and_fifteen]
  · rw [place, and_three (by omega)]
  · rw [place, and_fifteen (by omega)]

/-- The words of the digits, the field ID bit in the low word before the frames. -/
lemma fieldsOf_digits_setLow {t : Hmsf} {frames : ℕ} (ht : t.InRange frames) (b : Bool) :
    fieldsOf (BitField.set (BitVec.ofNat 32 (t.s / 10) <<< 24 |||
        BitVec.ofNat 32 (t.s % 10) <<< 16) 27 b ||| BitVec.ofNat 32 (frames / 10) <<< 8 |||
        BitVec.ofNat 32 (frames % 10) <<< 0) (highDigits t.h t.m) =
      digitFields t frames false b false := by
  have hh := ht.h_lt
  have hm := ht.m_lt
  have hs := ht.s_lt
  have hf := ht.frames_lt
  simp (disch := omega) only [fieldsOf, digitFields, highDigits, BitVec.extractLsb'_or,
    BitField.extract_set, BitField.extract_set_self, BitField.extract_part,
    BitField.extract_above, BitField.extract_below, BitVec.or_zero, BitVec.zero_or]
  rfl

variable {x} {b : Bool} {t : Hmsf}

/-- Up to 39 frames per second the frames are two digits. -/
lemma frameDigits_single (h : x.FormatIs60_50fps kTCFormatUnknown = false) :
    (frameDigits x).rp188 = { x.rp188 with
      Low := x.rp188.Low ||| place (scanDigit x.sHMSF 9) 0x3 8 |||
        place (scanDigit x.sHMSF 10) 0xF 0 } := by
  rw [frameDigits, if_pos h]

/-- Above that the pairs of frames are two digits, and the field ID bit is set for the second
frame of a pair. -/
lemma frameDigits_pairs {f : ℕ} (h : x.FormatIs60_50fps kTCFormatUnknown = true)
    (hf : 10 * scanDigit x.sHMSF 9 + scanDigit x.sHMSF 10 = f)
    (hlt : f < x.FramesPerSecond kTCFormatUnknown) :
    (frameDigits x).rp188 = { (x.SetFieldID (f % 2)).rp188 with
      Low := (x.SetFieldID (f % 2)).rp188.Low ||| place (f / 2 / 10) 0x3 8 |||
        place (f / 2 % 10) 0xF 0 } := by
  rw [frameDigits, if_neg (ne_false_of_eq_true h)]
  simp only [hf, if_neg (Nat.not_le.mpr hlt)]

/-- **The words of the text**, a format of up to 39 frames per second. -/
lemma fields_ConvertTcStrToReg (htext : x.sHMSF = timeCodeString b t) (ht : t.InRange t.f)
    (hfps : x.FormatIs60_50fps kTCFormatUnknown = false) :
    x.ConvertTcStrToReg.rp188.fields = digitFields t t.f false false false := by
  have hh := ht.h_lt
  have hm := ht.m_lt
  have hs := ht.s_lt
  have hf := ht.frames_lt
  obtain ⟨hh1, hh0, hm1, hm0, hs1, hs0, hf1, hf0⟩ :=
    scanDigit_timeCodeString b (t := t) (by omega) (by omega) (by omega) (by omega)
  obtain ⟨hhigh, hlow, hf10, hf01⟩ := place_digits ht
  rw [← htext] at hh1 hh0 hm1 hm0 hs1 hs0 hf1 hf0
  rw [ConvertTcStrToReg, frameDigits_single]
  · simp only [hh1, hh0, hm1, hm0, hs1, hs0, hf1, hf0, hhigh, hlow, hf10, hf01]
    exact fieldsOf_digits ht
  · exact hfps

/-- The frame pairs added to the words of the other digits. -/
lemma fields_frameDigits_pairs (ht : t.InRange (t.f / 2))
    (hLow : x.rp188.Low = BitVec.ofNat 32 (t.s / 10) <<< 24 |||
      BitVec.ofNat 32 (t.s % 10) <<< 16)
    (hHigh : x.rp188.High = highDigits t.h t.m)
    (hfps : x.FormatIs60_50fps kTCFormatUnknown = true)
    (hf : 10 * scanDigit x.sHMSF 9 + scanDigit x.sHMSF 10 = t.f)
    (hlt : t.f < x.FramesPerSecond kTCFormatUnknown) :
    (frameDigits x).rp188.fields =
      digitFields t (t.f / 2) false (!x.isPAL && t.f % 2 != 0) (x.isPAL && t.f % 2 != 0) := by
  obtain ⟨-, -, hf10, hf01⟩ := place_digits ht
  rw [frameDigits_pairs hfps hf hlt, hf10, hf01]
  cases hp : x.isPAL with
  | true =>
      rw [SetFieldID_pal _ _ hp, RP188_STRUCT.fields, hLow, hHigh, fieldsOf_setHigh_fieldID]
      have hset := fieldsOf_digits ht
      rw [lowDigits] at hset
      rw [hset]
      rfl
  | false =>
      rw [SetFieldID_ntsc _ _ hp, RP188_STRUCT.fields, hLow, hHigh]
      exact fieldsOf_digits_setLow ht _

/-- **The words of the text**, a format above 39 frames per second: pairs of frames, and the
field ID bit for the second of a pair. -/
lemma fields_ConvertTcStrToReg_pairs (htext : x.sHMSF = timeCodeString b t)
    (ht : t.InRange (t.f / 2)) (hfps : x.FormatIs60_50fps kTCFormatUnknown = true)
    (hlt : t.f < x.FramesPerSecond kTCFormatUnknown) :
    x.ConvertTcStrToReg.rp188.fields =
      digitFields t (t.f / 2) false (!x.isPAL && t.f % 2 != 0) (x.isPAL && t.f % 2 != 0) := by
  have hh := ht.h_lt
  have hm := ht.m_lt
  have hs := ht.s_lt
  have hf := ht.frames_lt
  obtain ⟨hh1, hh0, hm1, hm0, hs1, hs0, hf1, hf0⟩ :=
    scanDigit_timeCodeString b (t := t) (by omega) (by omega) (by omega) (by omega)
  obtain ⟨hhigh, hlow, -, -⟩ := place_digits ht
  rw [← htext] at hh1 hh0 hm1 hm0 hs1 hs0 hf1 hf0
  rw [ConvertTcStrToReg, hh1, hh0, hm1, hm0, hs1, hs0, hhigh, hlow]
  refine fields_frameDigits_pairs ht rfl rfl hfps ?_ hlt
  change 10 * scanDigit x.sHMSF 9 + scanDigit x.sHMSF 10 = t.f
  omega

/-! ### The words of the digits -/

lemma carryDigits_of_lt {fps : ℕ} (hf : t.f < fps) (hs : t.s < 60) (hm : t.m < 60)
    (hh : t.h < 24) : carryDigits fps t.f t.s t.m t.h = t := by
  simp only [carryDigits, if_neg (Nat.not_le.mpr hf), if_neg (Nat.not_le.mpr hs),
    if_neg (Nat.not_le.mpr hm), if_neg (Nat.not_le.mpr hh)]

end CRP188

/-- The formats both implementations support. -/
def TimecodeFormat.Known (format : TimecodeFormat) : Prop := format ≠ kTCFormatUnknown

/-- The drop flag of a format. -/
def TimecodeFormat.isDrop (format : TimecodeFormat) : Bool :=
  format = kTCFormat30fpsDF || format = kTCFormat60fpsDF

/-- The whole frames of a second. -/
def TimecodeFormat.fps : TimecodeFormat → ℕ
  | kTCFormat24fps => 24
  | kTCFormat25fps => 25
  | kTCFormat48fps => 48
  | kTCFormat50fps => 50
  | kTCFormat60fps => 60
  | kTCFormat60fpsDF => 60
  | _ => 30

lemma FramesPerSecond_eq {format : TimecodeFormat} (h : format.Known) (x : CRP188) :
    x.FramesPerSecond format = format.fps := by
  cases format with
  | kTCFormatUnknown => exact absurd rfl h
  | _ => rfl

/-- The rates of a format's time base. -/
def TimecodeFormat.rates : TimecodeFormat → List AJA_FrameRate
  | kTCFormat24fps => [AJA_FrameRate_2398, AJA_FrameRate_2400]
  | kTCFormat25fps => [AJA_FrameRate_2500]
  | kTCFormat30fps => [AJA_FrameRate_2997, AJA_FrameRate_3000]
  | kTCFormat30fpsDF => [AJA_FrameRate_2997, AJA_FrameRate_3000]
  | kTCFormat48fps => [AJA_FrameRate_4795, AJA_FrameRate_4800]
  | kTCFormat50fps => [AJA_FrameRate_5000]
  | kTCFormat60fps => [AJA_FrameRate_5994, AJA_FrameRate_6000]
  | kTCFormat60fpsDF => [AJA_FrameRate_5994, AJA_FrameRate_6000]
  | kTCFormatUnknown => []

/-- A format and a rate of its time base. -/
structure Matching (format : TimecodeFormat) (r : AJA_FrameRate) : Prop where
  mem : r ∈ format.rates

namespace Matching

variable {format : TimecodeFormat} {r : AJA_FrameRate}

lemma known (h : Matching format r) : format.Known := by
  rintro rfl
  exact absurd h.mem (by simp [TimecodeFormat.rates])

lemma supported (h : Matching format r) : r.Supported := by
  rintro rfl
  have := h.mem
  cases format <;> simp [TimecodeFormat.rates] at this

/-- The clock of the time base has the whole frames of the format, and drops two or four. -/
lemma clock (h : Matching format r) :
    (rateClock r format.isDrop false).fps = format.fps ∧
      (format.isDrop = true → (rateClock r format.isDrop false).drop =
        if format = kTCFormat60fpsDF then 4 else 2) := by
  have hmem := h.mem
  cases format <;>
    simp only [TimecodeFormat.rates, List.mem_cons, List.not_mem_nil, or_false] at hmem <;>
    rcases hmem with rfl | rfl <;>
    exact ⟨by decide +kernel, by decide +kernel⟩

end Matching

/-- The formats above 39 frames per second. -/
def TimecodeFormat.isPairs (format : TimecodeFormat) : Bool :=
  format = kTCFormat60fps || format = kTCFormat60fpsDF || format = kTCFormat48fps ||
    format = kTCFormat50fps

/-- The PAL formats. -/
def TimecodeFormat.isPAL (format : TimecodeFormat) : Bool :=
  format = kTCFormat25fps || format = kTCFormat50fps

/-- The number that the two frame digits show: the frame, or its pair. -/
def TimecodeFormat.shownFrames (format : TimecodeFormat) (f : ℕ) : ℕ :=
  if format.isPairs = true then f / 2 else f

/-- The fields of digits in a format. -/
def TimecodeFormat.timecodeFields (format : TimecodeFormat) (t : Hmsf) : Rp188Fields :=
  digitFields t (format.shownFrames t.f) format.isDrop
    (format.isPairs && !format.isPAL && t.f % 2 != 0)
    (format.isPairs && format.isPAL && t.f % 2 != 0)

/-- The digits a format shows. -/
structure TimecodeFormat.Shows (format : TimecodeFormat) (t : Hmsf) : Prop where
  h_lt : t.h < 24
  m_lt : t.m < 60
  s_lt : t.s < 60
  f_lt : t.f < format.fps
  not_dropped : format.isDrop = true → t.s = 0 → t.m % 10 ≠ 0 →
    (if format = kTCFormat60fpsDF then 4 else 2) ≤ t.f

lemma TimecodeFormat.Shows.inRange {format : TimecodeFormat} {t : Hmsf} (h : format.Shows t)
    (hk : format.Known) : t.InRange (format.shownFrames t.f) := by
  refine ⟨h.h_lt, h.m_lt, h.s_lt, ?_⟩
  have hf := h.f_lt
  cases format with
  | kTCFormatUnknown => exact absurd rfl hk
  | _ =>
      simp only [TimecodeFormat.fps] at hf
      simp only [TimecodeFormat.shownFrames, TimecodeFormat.isPairs]
      simp
      omega

namespace CRP188

variable {format : TimecodeFormat} {t : Hmsf} (x : CRP188)

lemma tcFormat_SetFieldID (fieldID : ℕ) : (x.SetFieldID fieldID).tcFormat = x.tcFormat := by
  rw [SetFieldID]
  split <;> rfl

lemma tcFormat_ConvertTcStrToReg : x.ConvertTcStrToReg.tcFormat = x.tcFormat := by
  rw [ConvertTcStrToReg, frameDigits]
  split
  · rfl
  · exact tcFormat_SetFieldID _ _

lemma formatOr_own (x : CRP188) : x.formatOr x.tcFormat = x.tcFormat := by
  rw [formatOr]
  split <;> simp_all

lemma formatOr_unknown (x : CRP188) : x.formatOr kTCFormatUnknown = x.tcFormat := rfl

/-- Digits that the format shows are not rounded up. -/
lemma dropRoundUp_of_shows (h : format.Shows t) : dropRoundUp format t = t.f := by
  have hnot := h.not_dropped
  rw [dropRoundUp]
  split_ifs with h30 hz h60 hz
  · subst h30
    have := hnot rfl hz.1 hz.2.2
    simp at this
    omega
  · rfl
  · subst h60
    have := hnot rfl hz.1 hz.2.2
    simp at this
    omega
  · rfl
  · rfl

/-- The text of an object in a format, turned into words. -/
lemma fields_text (hx : x.tcFormat = format) (hk : format.Known) (ht : format.Shows t)
    {b : Bool} (htext : x.sHMSF = timeCodeString b t) :
    x.ConvertTcStrToReg.rp188.fields =
      { format.timecodeFields t with dropFrame := BitVec.ofBool false } := by
  have hin := ht.inRange hk
  have hpairs : x.FormatIs60_50fps kTCFormatUnknown = format.isPairs := by
    rw [FormatIs60_50fps, formatOr_unknown, hx]
    rfl
  have hpal : x.isPAL = format.isPAL := by
    rw [isPAL, hx]
    rfl
  have hfps : x.FramesPerSecond kTCFormatUnknown = format.fps := by
    rw [← FramesPerSecond_eq hk x, FramesPerSecond, FramesPerSecond, formatOr_unknown, ← hx,
      formatOr_own]
  rw [TimecodeFormat.timecodeFields]
  rw [TimecodeFormat.shownFrames] at hin ⊢
  cases hp : format.isPairs with
  | false =>
      rw [hp, if_neg (by decide)] at hin
      rw [fields_ConvertTcStrToReg htext hin (hpairs.trans hp)]
      rfl
  | true =>
      rw [hp, if_pos rfl] at hin
      rw [fields_ConvertTcStrToReg_pairs htext hin (hpairs.trans hp) (hfps ▸ ht.f_lt), hpal]
      rfl

/-- The user bits and the drop flag. -/
lemma fields_flags (b : Bool) (frameRate : NTV2FrameRate) :
    (((((x.SetVaricamFrameActive false 0).SetVaricamFrameActive false 1).SetDropFrame
      b).SetColorFrame false).SetVaricamRate frameRate).rp188.fields =
      { x.rp188.fields with dropFrame := BitVec.ofBool b } := by
  rw [fields_SetVaricamRate, fields_SetColorFrame, fields_SetDropFrame,
    fields_SetVaricamFrameActive, fields_SetVaricamFrameActive]

/-- The field ID and the binary group flags leave the words of a format as they are: a format
of single frames has no field ID, and the flag in its word of the other format is clear. -/
lemma fields_fieldBits (hx : x.tcFormat = format) (hf : x.rp188.fields = format.timecodeFields t) :
    (CRP188.SetBFGBits (if x.FormatIs60_50fps x.tcFormat = false then x.SetFieldID 0 else x)
      false false false).rp188.fields = format.timecodeFields t := by
  have hpairs : x.FormatIs60_50fps x.tcFormat = format.isPairs := by
    rw [FormatIs60_50fps, formatOr_own, hx]
    rfl
  have hpal : x.isPAL = format.isPAL := by
    rw [isPAL, hx]
    rfl
  have hpal' : (x.SetFieldID 0).isPAL = format.isPAL := by
    rw [isPAL, tcFormat_SetFieldID, hx]
    rfl
  rw [hpairs]
  cases hp : format.isPairs with
  | false =>
      rw [if_pos rfl]
      cases hl : format.isPAL with
      | true =>
          rw [fields_SetBFGBits_pal _ (hpal'.trans hl), fields_SetFieldID_pal _ _ (hpal.trans hl),
            hf, TimecodeFormat.timecodeFields, hp]
          rfl
      | false =>
          rw [fields_SetBFGBits_ntsc _ (hpal'.trans hl),
            fields_SetFieldID_ntsc _ _ (hpal.trans hl), hf, TimecodeFormat.timecodeFields, hp]
          rfl
  | true =>
      rw [if_neg (by decide)]
      cases hl : format.isPAL with
      | true =>
          rw [fields_SetBFGBits_pal _ (hpal.trans hl), hf, TimecodeFormat.timecodeFields, hp, hl]
          rfl
      | false =>
          rw [fields_SetBFGBits_ntsc _ (hpal.trans hl), hf, TimecodeFormat.timecodeFields, hp, hl]
          rfl

/-- **The words of digits**: `SetRP188` stores the digits with the flags of the format. -/
theorem fields_SetRP188 (hk : format.Known) (ht : format.Shows t) :
    (x.SetRP188 t.f t.s t.m t.h format).rp188.fields = format.timecodeFields t := by
  have hw : x.withFormat format = { x with tcFormat := format } := if_pos hk
  have hor : (CRP188.formatOr { x with tcFormat := format } format) = format := if_neg hk
  have hdrop : (CRP188.FormatIsDropFrame { x with tcFormat := format } format) =
      format.isDrop := by
    rw [FormatIsDropFrame, hor]
    rfl
  simp only [SetRP188, hw, FramesPerSecond_eq hk, hdrop,
    carryDigits_of_lt ht.f_lt ht.s_lt ht.m_lt ht.h_lt, dropRoundUp_of_shows ht]
  refine fields_fieldBits _ ?_ ?_
  · exact tcFormat_ConvertTcStrToReg _
  · rw [fields_flags]
    have htext := fields_text (b := format.isDrop)
      { x with tcFormat := format, ulVal := t, sHMSF := timeCodeString format.isDrop t }
      rfl hk ht rfl
    exact congrArg (fun f : Rp188Fields => { f with dropFrame := BitVec.ofBool format.isDrop })
      htext

end CRP188

namespace AJATimeCode

variable {format : TimecodeFormat} {r : AJA_FrameRate} {t : Hmsf}

/-- The rates whose frames come in pairs, and the PAL one of them. -/
lemma pairs_of_matching (h : Matching format r) :
    (format.isPairs = true ↔ AJA_FrameRate_4795 ≤ r) ∧
      (format.isPairs = true → (format.isPAL = true ↔
        r = AJA_FrameRate_5000 ∨ r = AJA_FrameRate_10000)) := by
  have hmem := h.mem
  cases format <;>
    simp only [TimecodeFormat.rates, List.mem_cons, List.not_mem_nil, or_false] at hmem <;>
    rcases hmem with rfl | rfl <;>
    decide

/-- The words with their flags. -/
lemma fieldsOf_query {frames : ℕ} (ht : t.InRange frames) (drop low high : Bool) :
    fieldsOf
      (lowDigits t.s frames ||| (if drop = true then 1#32 else 0#32) <<< 10 |||
        (if low = true then 1#32 else 0#32) <<< 27)
      (highDigits t.h t.m ||| (if high = true then 1#32 else 0#32) <<< 27) =
      digitFields t frames drop low high := by
  have hdigits := fieldsOf_digits ht
  simp only [fieldsOf, digitFields, Rp188Fields.mk.injEq] at hdigits
  obtain ⟨h1, h2, h3, h4, h5, h6, h7, h8, h9, h10, h11⟩ := hdigits
  simp (disch := omega) only [fieldsOf, digitFields, BitVec.extractLsb'_or,
    BitField.extract_flag_self, BitField.extract_flag, h1, h2, h3, h4, h5, h6, h7, h8, h9, h10,
    h11, BitVec.or_zero]
  simp

/-- The low word in the order of `QueryRP188`. -/
lemma lowDigits_query (s f : ℕ) (v : BitVec 32) :
    BitVec.ofNat 32 (s % 10) <<< 16 ||| BitVec.ofNat 32 (s / 10) <<< 24 ||| v |||
        BitVec.ofNat 32 (f % 10) ||| BitVec.ofNat 32 (f / 10) <<< 8 =
      lowDigits s f ||| v := by
  rw [lowDigits, BitVec.shiftLeft_zero]
  generalize BitVec.ofNat 32 (s % 10) <<< 16 = s0
  generalize BitVec.ofNat 32 (s / 10) <<< 24 = s1
  generalize BitVec.ofNat 32 (f % 10) = f0
  generalize BitVec.ofNat 32 (f / 10) <<< 8 = f1
  ac_rfl

/-- The high word in the order of `QueryRP188`. -/
lemma highDigits_query (h m : ℕ) :
    BitVec.ofNat 32 (m % 10) ||| BitVec.ofNat 32 (m / 10) <<< 8 |||
        BitVec.ofNat 32 (h % 10) <<< 16 ||| BitVec.ofNat 32 (h / 10) <<< 24 =
      highDigits h m := by
  rw [highDigits, BitVec.shiftLeft_zero]
  generalize BitVec.ofNat 32 (m % 10) = m0
  generalize BitVec.ofNat 32 (m / 10) <<< 8 = m1
  generalize BitVec.ofNat 32 (h % 10) <<< 16 = h0
  generalize BitVec.ofNat 32 (h / 10) <<< 24 = h1
  ac_rfl

lemma or_no_flag (v : BitVec 32) :
    v ||| (if false = true then 1#32 else 0#32) <<< 27 = v := by
  simp

lemma fieldID_eq (f : ℕ) :
    (if f &&& 1 ≠ 0 then 1#32 else 0#32) = if (f % 2 != 0) = true then 1#32 else 0#32 := by
  rw [Nat.and_one_is_mod]
  simp

/-- The rates and modes with two frames to a number. -/
def inPairs (r : AJA_FrameRate) (m_stdTcForHfr : Bool) : Bool :=
  m_stdTcForHfr = false ∧ AJA_FrameRate_4795 ≤ r

/-- The rates with the field ID in the high word. -/
def fieldIDHigh (r : AJA_FrameRate) : Bool := r = AJA_FrameRate_5000 ∨ r = AJA_FrameRate_10000

/-- The number behind the two frame digits: the frame, or its pair. -/
def shownFrames (r : AJA_FrameRate) (m_stdTcForHfr : Bool) (f : ℕ) : ℕ :=
  if inPairs r m_stdTcForHfr = true then f / 2 else f

/-- The field of the tens keeps two bits: the digits are those of the number below forty. -/
lemma tens_units_mod (a : ℕ) : a / 10 &&& 0x3 = a % 40 / 10 ∧ a % 10 = a % 40 % 10 := by
  have hmask : a / 10 &&& 0x3 = a / 10 % 4 := Nat.and_two_pow_sub_one_eq_mod (a / 10) 2
  rw [hmask]
  omega

/-- **The words of a frame** at any rate: the digits with their flags, the number of frames up
to a multiple of forty. -/
theorem fields_QueryRP188_mod (hr : r.Supported) (n : ℕ) (drop m_stdTcForHfr : Bool)
    (ht : t.InRange 0) (htc : (CalcHmsf n (.ofRate r) drop m_stdTcForHfr).1 = t) :
    (QueryRP188 n m_stdTcForHfr (.ofRate r) drop).fields =
      digitFields t (shownFrames r m_stdTcForHfr t.f % 40) drop
        (inPairs r m_stdTcForHfr && !fieldIDHigh r && t.f % 2 != 0)
        (inPairs r m_stdTcForHfr && fieldIDHigh r && t.f % 2 != 0) := by
  have hh := ht.h_lt
  have hm := ht.m_lt
  have hs := ht.s_lt
  have hin : ∀ a, t.InRange (a % 40) := fun a => ⟨hh, hm, hs, Nat.mod_lt _ (by decide)⟩
  simp only [QueryRP188, GetAJAFrameRate_ofRate hr, htc]
  rw [CRP188.and_seven (d := t.s / 10) (by omega), CRP188.and_seven (d := t.m / 10) (by omega),
    CRP188.and_three (d := t.h / 10) (by omega), queryFrames, highDigits_query]
  cases hp : inPairs r m_stdTcForHfr with
  | false =>
      have hlow : ¬ (m_stdTcForHfr = false ∧ AJA_FrameRate_4795 ≤ r) := of_decide_eq_false hp
      have hshown : shownFrames r m_stdTcForHfr t.f = t.f := by simp [shownFrames, hp]
      rw [if_neg hlow, hshown, (tens_units_mod t.f).1, (tens_units_mod t.f).2, lowDigits_query]
      have hq := fieldsOf_query (hin t.f) drop false false
      rw [or_no_flag, or_no_flag] at hq
      exact hq
  | true =>
      have hhigh : m_stdTcForHfr = false ∧ AJA_FrameRate_4795 ≤ r := of_decide_eq_true hp
      have hshown : shownFrames r m_stdTcForHfr t.f = t.f / 2 := by simp [shownFrames, hp]
      rw [if_pos hhigh, hshown, fieldID_eq]
      simp only
      rw [(tens_units_mod (t.f / 2)).1, (tens_units_mod (t.f / 2)).2, lowDigits_query]
      cases hl : fieldIDHigh r with
      | true =>
          rw [if_pos (of_decide_eq_true hl)]
          have hq := fieldsOf_query (hin (t.f / 2)) drop false (t.f % 2 != 0)
          rw [or_no_flag] at hq
          exact hq
      | false =>
          rw [if_neg (of_decide_eq_false hl)]
          have hq := fieldsOf_query (hin (t.f / 2)) drop (t.f % 2 != 0) false
          rw [or_no_flag (highDigits t.h t.m)] at hq
          exact hq

/-- **The words of a frame**: `QueryRP188` produces the digits with the flags of the format. -/
theorem fields_QueryRP188 (h : Matching format r) (n : ℕ)
    (ht : format.Shows (CalcHmsf n (.ofRate r) format.isDrop false).1) :
    (QueryRP188 n false (.ofRate r) format.isDrop).fields =
      format.timecodeFields (CalcHmsf n (.ofRate r) format.isDrop false).1 := by
  obtain ⟨hpairs, hpal⟩ := pairs_of_matching h
  have hin := ht.inRange h.known
  have hp : inPairs r false = format.isPairs := by
    rw [inPairs, Bool.eq_iff_iff, decide_eq_true_iff, hpairs]
    exact ⟨fun h' => h'.2, fun h' => ⟨rfl, h'⟩⟩
  have hshown : shownFrames r false = format.shownFrames := by
    funext f
    rw [shownFrames, hp, TimecodeFormat.shownFrames]
  rw [fields_QueryRP188_mod h.supported n format.isDrop false
    ⟨ht.h_lt, ht.m_lt, ht.s_lt, by decide⟩ rfl, hp, hshown, Nat.mod_eq_of_lt hin.frames_lt,
    TimecodeFormat.timecodeFields]
  cases hq : format.isPairs with
  | false => rfl
  | true =>
      have hl : fieldIDHigh r = format.isPAL := by
        rw [fieldIDHigh, Bool.eq_iff_iff, decide_eq_true_iff]
        exact (hpal hq).symm
      rw [hl]

end AJATimeCode

end LibAjaNtv2
