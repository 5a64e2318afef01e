import Mathlib.Tactic
import LibAjaNtv2.Anc.Types
import LibAjaNtv2.Lib.Layout
import LibAjaNtv2.Timecode.TimeBase

/-!
The timecode of an ancillary packet (`ancillarydata_timecode.cpp`).

* `AJAAncillaryData_Timecode_Format`: the formats, with `GetTimecodeFormatFromTimeBase`;
* `AJAAncillaryData_Timecode`: eight time digits and eight binary groups, with the flags in the
  spare bits of the digits;
* `SetTimeDigits`, `SetBinaryGroups`, `SetFieldIdFlag`, `SetDropFrameFlag`, `SetColorFrameFlag`,
  `SetBinaryGroupFlag`, and what reads each of them back;
* `AncTimecodeValues`: all that is read back from a packet in one format;
* `values_setValues`: **the setters of all values keep out of each other's bits.**
-/

namespace LibAjaNtv2

/-! ### Formats -/

/-- `AJAAncillaryData_Timecode_Format`. -/
inductive AJAAncillaryData_Timecode_Format
  | AJAAncillaryData_Timecode_Format_Unknown
  | AJAAncillaryData_Timecode_Format_60fps
  | AJAAncillaryData_Timecode_Format_50fps
  | AJAAncillaryData_Timecode_Format_48fps
  | AJAAncillaryData_Timecode_Format_30fps
  | AJAAncillaryData_Timecode_Format_25fps
  | AJAAncillaryData_Timecode_Format_24fps
  deriving DecidableEq, Repr

open AJAAncillaryData_Timecode_Format AJAStatus

/-- `AJAAncillaryData_Timecode::GetTimecodeFormatFromTimeBase`. -/
def GetTimecodeFormatFromTimeBase (timeBase : AJATimeBase) : AJAAncillaryData_Timecode_Format :=
  let rate := timeBase.mFrameTimeScale
  let duration := timeBase.mFrameDuration
  let frameRate := Double.div (Double.ofInt rate) (Double.ofInt duration)
  -- by zero the quotient is infinite or no number, and only the negative infinity is less
  if duration = 0 then
    if rate < 0 then AJAAncillaryData_Timecode_Format_24fps
    else AJAAncillaryData_Timecode_Format_60fps
  else if frameRate < 49 / 2 then AJAAncillaryData_Timecode_Format_24fps
  else if frameRate < 28 then AJAAncillaryData_Timecode_Format_25fps
  else if frameRate < 35 then AJAAncillaryData_Timecode_Format_30fps
  else if frameRate < 49 then AJAAncillaryData_Timecode_Format_48fps
  else if frameRate < 55 then AJAAncillaryData_Timecode_Format_50fps
  else AJAAncillaryData_Timecode_Format_60fps

/-! ### Digits and groups -/

/-- The time digits, the first one transmitted first. -/
def kTcFrameUnits : Fin 8 := 0
def kTcFrameTens : Fin 8 := 1
def kTcSecondUnits : Fin 8 := 2
def kTcSecondTens : Fin 8 := 3
def kTcMinuteUnits : Fin 8 := 4
def kTcMinuteTens : Fin 8 := 5
def kTcHourUnits : Fin 8 := 6
def kTcHourTens : Fin 8 := 7

/-- The binary groups, the first one transmitted first. -/
def kBg1 : Fin 8 := 0
def kBg2 : Fin 8 := 1
def kBg3 : Fin 8 := 2
def kBg4 : Fin 8 := 3
def kBg5 : Fin 8 := 4
def kBg6 : Fin 8 := 5
def kBg7 : Fin 8 := 6
def kBg8 : Fin 8 := 7

/-- `AJAAncillaryData_Timecode`: what it adds to a packet. -/
structure AJAAncillaryData_Timecode where
  m_timeDigits : Vector UByte 8
  m_binaryGroup : Vector UByte 8
  deriving DecidableEq, Repr

/-- The eight digits of a time. -/
@[ext]
structure TimeDigits where
  hourTens : UByte
  hourUnits : UByte
  minuteTens : UByte
  minuteUnits : UByte
  secondTens : UByte
  secondUnits : UByte
  frameTens : UByte
  frameUnits : UByte
  deriving DecidableEq, Repr

/-- The eight binary groups. -/
@[ext]
structure BinaryGroups where
  bg8 : UByte
  bg7 : UByte
  bg6 : UByte
  bg5 : UByte
  bg4 : UByte
  bg3 : UByte
  bg2 : UByte
  bg1 : UByte
  deriving DecidableEq, Repr

namespace AJAAncillaryData_Timecode

/-- `AJAAncillaryData_Timecode::Init`. -/
def Init : AJAAncillaryData_Timecode := ⟨Vector.replicate 8 0, Vector.replicate 8 0⟩

variable (tc : AJAAncillaryData_Timecode)

/-- A time digit under a mask, the other bits kept. -/
def setTimeHex (k : Fin 8) (inHexValue inMask : UByte) : AJAAncillaryData_Timecode :=
  let hexValue := (tc.m_timeDigits[k] &&& ~~~inMask) ||| (inHexValue &&& inMask)
  { tc with m_timeDigits := tc.m_timeDigits.set k hexValue }

/-- A time digit under a mask. -/
def getTimeHex (k : Fin 8) (inMask : UByte) : UByte := tc.m_timeDigits[k] &&& inMask

/-- `AJAAncillaryData_Timecode::SetTimeHexValue`. -/
def SetTimeHexValue (inDigitNum inHexValue inMask : UByte) :
    AJAStatus × AJAAncillaryData_Timecode :=
  if h : inDigitNum.toNat < 8 then
    (AJA_STATUS_SUCCESS, tc.setTimeHex ⟨inDigitNum.toNat, h⟩ inHexValue inMask)
  else (AJA_STATUS_RANGE, tc)

/-- `AJAAncillaryData_Timecode::SetTimeDigits`: each digit is cut to the bits it has. -/
def SetTimeDigits (d : TimeDigits) : AJAAncillaryData_Timecode :=
  (((((((tc.setTimeHex kTcHourTens d.hourTens 0x03
    ).setTimeHex kTcHourUnits d.hourUnits 0x0F
    ).setTimeHex kTcMinuteTens d.minuteTens 0x07
    ).setTimeHex kTcMinuteUnits d.minuteUnits 0x0F
    ).setTimeHex kTcSecondTens d.secondTens 0x07
    ).setTimeHex kTcSecondUnits d.secondUnits 0x0F
    ).setTimeHex kTcFrameTens d.frameTens 0x03
    ).setTimeHex kTcFrameUnits d.frameUnits 0x0F

/-- `AJAAncillaryData_Timecode::GetTimeDigits`. -/
def GetTimeDigits : TimeDigits where
  hourTens := tc.getTimeHex kTcHourTens 0x03
  hourUnits := tc.getTimeHex kTcHourUnits 0x0F
  minuteTens := tc.getTimeHex kTcMinuteTens 0x07
  minuteUnits := tc.getTimeHex kTcMinuteUnits 0x0F
  secondTens := tc.getTimeHex kTcSecondTens 0x07
  secondUnits := tc.getTimeHex kTcSecondUnits 0x0F
  frameTens := tc.getTimeHex kTcFrameTens 0x03
  frameUnits := tc.getTimeHex kTcFrameUnits 0x0F

/-- A binary group under a mask, the other bits kept. -/
def setGroupHex (k : Fin 8) (hexValue mask : UByte) : AJAAncillaryData_Timecode :=
  let group := (tc.m_binaryGroup[k] &&& ~~~mask) ||| (hexValue &&& mask)
  { tc with m_binaryGroup := tc.m_binaryGroup.set k group }

/-- A binary group under a mask. -/
def getGroupHex (k : Fin 8) (mask : UByte) : UByte := tc.m_binaryGroup[k] &&& mask

/-- `AJAAncillaryData_Timecode::SetBinaryGroupHexValue`. -/
def SetBinaryGroupHexValue (digitNum hexValue mask : UByte) :
    AJAStatus × AJAAncillaryData_Timecode :=
  if h : digitNum.toNat < 8 then
    (AJA_STATUS_SUCCESS, tc.setGroupHex ⟨digitNum.toNat, h⟩ hexValue mask)
  else (AJA_STATUS_RANGE, tc)

/-- `AJAAncillaryData_Timecode::SetBinaryGroups`. -/
def SetBinaryGroups (g : BinaryGroups) : AJAAncillaryData_Timecode :=
  (((((((tc.setGroupHex kBg1 g.bg1 0x0F).setGroupHex kBg2 g.bg2 0x0F
    ).setGroupHex kBg3 g.bg3 0x0F).setGroupHex kBg4 g.bg4 0x0F
    ).setGroupHex kBg5 g.bg5 0x0F).setGroupHex kBg6 g.bg6 0x0F
    ).setGroupHex kBg7 g.bg7 0x0F).setGroupHex kBg8 g.bg8 0x0F

/-- `AJAAncillaryData_Timecode::GetBinaryGroups`. -/
def GetBinaryGroups : BinaryGroups where
  bg8 := tc.getGroupHex kBg8 0x0F
  bg7 := tc.getGroupHex kBg7 0x0F
  bg6 := tc.getGroupHex kBg6 0x0F
  bg5 := tc.getGroupHex kBg5 0x0F
  bg4 := tc.getGroupHex kBg4 0x0F
  bg3 := tc.getGroupHex kBg3 0x0F
  bg2 := tc.getGroupHex kBg2 0x0F
  bg1 := tc.getGroupHex kBg1 0x0F

/-! ### Flags

Every format has a place for every flag, so the setters and getters of the flags always answer
`AJA_STATUS_SUCCESS`. -/

/-- A bit of a digit set or cleared. -/
def setFlag (place : Fin 8 × UByte) (bFlag : Bool) : AJAAncillaryData_Timecode :=
  let digit := tc.m_timeDigits[place.1]
  let digit := if bFlag then digit ||| place.2 else digit &&& ~~~place.2
  { tc with m_timeDigits := tc.m_timeDigits.set place.1 digit }

/-- A bit of a digit tested, which is also the bit shifted down to bit 0. -/
def getFlag (place : Fin 8 × UByte) : Bool := decide (tc.m_timeDigits[place.1] &&& place.2 ≠ 0)

end AJAAncillaryData_Timecode

/-- The place of the field ID flag. -/
def fieldIdPlace : AJAAncillaryData_Timecode_Format → Fin 8 × UByte
  | AJAAncillaryData_Timecode_Format_25fps => (kTcHourTens, 0x08)
  | AJAAncillaryData_Timecode_Format_50fps => (kTcHourTens, 0x08)
  | AJAAncillaryData_Timecode_Format_24fps => (kTcSecondTens, 0x08)
  | AJAAncillaryData_Timecode_Format_48fps => (kTcSecondTens, 0x08)
  | AJAAncillaryData_Timecode_Format_30fps => (kTcSecondTens, 0x08)
  | AJAAncillaryData_Timecode_Format_60fps => (kTcSecondTens, 0x08)
  | AJAAncillaryData_Timecode_Format_Unknown => (kTcSecondTens, 0x08)

/-- The place of the drop frame flag, the same in every format. -/
def dropFramePlace : AJAAncillaryData_Timecode_Format → Fin 8 × UByte
  | _ => (kTcFrameTens, 0x04)

/-- The place of the color frame flag, the same in every format. -/
def colorFramePlace : AJAAncillaryData_Timecode_Format → Fin 8 × UByte
  | _ => (kTcFrameTens, 0x08)

/-- The places of bits 2, 1 and 0 of the binary group flag. -/
def binaryGroupPlaces : AJAAncillaryData_Timecode_Format →
    (Fin 8 × UByte) × (Fin 8 × UByte) × (Fin 8 × UByte)
  | AJAAncillaryData_Timecode_Format_25fps =>
      ((kTcMinuteTens, 0x08), (kTcHourTens, 0x04), (kTcSecondTens, 0x08))
  | AJAAncillaryData_Timecode_Format_50fps =>
      ((kTcMinuteTens, 0x08), (kTcHourTens, 0x04), (kTcSecondTens, 0x08))
  | AJAAncillaryData_Timecode_Format_24fps =>
      ((kTcHourTens, 0x08), (kTcHourTens, 0x04), (kTcMinuteTens, 0x08))
  | AJAAncillaryData_Timecode_Format_48fps =>
      ((kTcHourTens, 0x08), (kTcHourTens, 0x04), (kTcMinuteTens, 0x08))
  | AJAAncillaryData_Timecode_Format_30fps =>
      ((kTcHourTens, 0x08), (kTcHourTens, 0x04), (kTcMinuteTens, 0x08))
  | AJAAncillaryData_Timecode_Format_60fps =>
      ((kTcHourTens, 0x08), (kTcHourTens, 0x04), (kTcMinuteTens, 0x08))
  | AJAAncillaryData_Timecode_Format_Unknown =>
      ((kTcHourTens, 0x08), (kTcHourTens, 0x04), (kTcMinuteTens, 0x08))

namespace AJAAncillaryData_Timecode

variable (tc : AJAAncillaryData_Timecode) (tcFmt : AJAAncillaryData_Timecode_Format)

/-- `AJAAncillaryData_Timecode::SetFieldIdFlag`. -/
def SetFieldIdFlag (bFlag : Bool) : AJAAncillaryData_Timecode :=
  tc.setFlag (fieldIdPlace tcFmt) bFlag

/-- `AJAAncillaryData_Timecode::GetFieldIdFlag`. -/
def GetFieldIdFlag : Bool := tc.getFlag (fieldIdPlace tcFmt)

/-- `AJAAncillaryData_Timecode::SetDropFrameFlag`. -/
def SetDropFrameFlag (bFlag : Bool) : AJAAncillaryData_Timecode :=
  tc.setFlag (dropFramePlace tcFmt) bFlag

/-- `AJAAncillaryData_Timecode::GetDropFrameFlag`. -/
def GetDropFrameFlag : Bool := tc.getFlag (dropFramePlace tcFmt)

/-- `AJAAncillaryData_Timecode::SetColorFrameFlag`. -/
def SetColorFrameFlag (bFlag : Bool) : AJAAncillaryData_Timecode :=
  tc.setFlag (colorFramePlace tcFmt) bFlag

/-- `AJAAncillaryData_Timecode::GetColorFrameFlag`. -/
def GetColorFrameFlag : Bool := tc.getFlag (colorFramePlace tcFmt)

/-- `AJAAncillaryData_Timecode::SetBinaryGroupFlag`. -/
def SetBinaryGroupFlag (bgFlag : UByte) : AJAAncillaryData_Timecode :=
  ((tc.setFlag (binaryGroupPlaces tcFmt).1 (decide (bgFlag &&& 0x04 ≠ 0))
    ).setFlag (binaryGroupPlaces tcFmt).2.1 (decide (bgFlag &&& 0x02 ≠ 0))
    ).setFlag (binaryGroupPlaces tcFmt).2.2 (decide (bgFlag &&& 0x01 ≠ 0))

/-- `AJAAncillaryData_Timecode::GetBinaryGroupFlag`. -/
def GetBinaryGroupFlag : UByte :=
  let bf2 : UByte := if tc.getFlag (binaryGroupPlaces tcFmt).1 then 1 else 0
  let bf1 : UByte := if tc.getFlag (binaryGroupPlaces tcFmt).2.1 then 1 else 0
  let bf0 : UByte := if tc.getFlag (binaryGroupPlaces tcFmt).2.2 then 1 else 0
  (bf2 <<< 2) + (bf1 <<< 1) + bf0

/-! ### What the setters leave -/

section Bits

variable {k k' : Fin 8} {place place' : Fin 8 × UByte} {mask : UByte}

@[simp] lemma getTimeHex_setTimeHex_self (v : UByte) :
    (tc.setTimeHex k v mask).getTimeHex k mask = v &&& mask := by
  rw [getTimeHex, setTimeHex, Fin.getElem_fin, Vector.getElem_set_self]
  ext i hi
  simp only [BitVec.getElem_and, BitVec.getElem_or, BitVec.getElem_not]
  cases mask[i] <;> simp

lemma getTimeHex_setTimeHex (h : k' ≠ k) (v mask' : UByte) :
    (tc.setTimeHex k' v mask').getTimeHex k mask = tc.getTimeHex k mask := by
  have hne : (k' : ℕ) ≠ k := fun heq => h (Fin.ext heq)
  rw [getTimeHex, setTimeHex, Fin.getElem_fin, Vector.getElem_set_ne _ _ hne]
  rfl

@[simp] lemma getGroupHex_setGroupHex_self (v : UByte) :
    (tc.setGroupHex k v mask).getGroupHex k mask = v &&& mask := by
  rw [getGroupHex, setGroupHex, Fin.getElem_fin, Vector.getElem_set_self]
  ext i hi
  simp only [BitVec.getElem_and, BitVec.getElem_or, BitVec.getElem_not]
  cases mask[i] <;> simp

lemma getGroupHex_setGroupHex (h : k' ≠ k) (v mask' : UByte) :
    (tc.setGroupHex k' v mask').getGroupHex k mask = tc.getGroupHex k mask := by
  have hne : (k' : ℕ) ≠ k := fun heq => h (Fin.ext heq)
  rw [getGroupHex, setGroupHex, Fin.getElem_fin, Vector.getElem_set_ne _ _ hne]
  rfl

/-- A flag leaves the bits beside it. -/
lemma and_mask_of_flag (digit flag : UByte) (h : flag &&& mask = 0) (bFlag : Bool) :
    (if bFlag then digit ||| flag else digit &&& ~~~flag) &&& mask = digit &&& mask := by
  have hbit : ∀ i, flag.getLsbD i = true → mask.getLsbD i = false := by
    intro i hi
    have hand : (flag &&& mask).getLsbD i = false := by rw [h]; exact BitVec.getLsbD_zero
    rwa [BitVec.getLsbD_and, hi, Bool.true_and] at hand
  refine BitVec.eq_of_getLsbD_eq fun i hi => ?_
  have hflag := hbit i
  cases bFlag with
  | true =>
      rw [if_pos rfl, BitVec.getLsbD_and, BitVec.getLsbD_and, BitVec.getLsbD_or]
      cases hf : flag.getLsbD i with
      | true => rw [hflag hf, Bool.and_false, Bool.and_false]
      | false => rw [Bool.or_false]
  | false =>
      rw [if_neg (by decide), BitVec.getLsbD_and, BitVec.getLsbD_and, BitVec.getLsbD_and,
        BitVec.getLsbD_not]
      cases hf : flag.getLsbD i with
      | true => rw [hflag hf, Bool.and_false, Bool.and_false]
      | false => simp [hi]

lemma getTimeHex_setFlag (h : place.1 = k → place.2 &&& mask = 0) (bFlag : Bool) :
    (tc.setFlag place bFlag).getTimeHex k mask = tc.getTimeHex k mask := by
  rw [getTimeHex, setFlag, Fin.getElem_fin]
  by_cases heq : place.1 = k
  · subst heq
    rw [Vector.getElem_set_self, and_mask_of_flag _ _ (h rfl)]
    rfl
  · have hne : (place.1 : ℕ) ≠ k := fun h' => heq (Fin.ext h')
    rw [Vector.getElem_set_ne _ _ hne]
    rfl

/-- A flag stays where another one is set. -/
lemma getFlag_setFlag (h : place'.1 = place.1 → place'.2 &&& place.2 = 0) (bFlag : Bool) :
    (tc.setFlag place' bFlag).getFlag place = tc.getFlag place := by
  have hread := tc.getTimeHex_setFlag h bFlag
  rw [getTimeHex, getTimeHex] at hread
  rw [getFlag, getFlag, hread]

/-- A flag reads back. -/
lemma getFlag_setFlag_self (h : place.2 ≠ 0) (bFlag : Bool) :
    (tc.setFlag place bFlag).getFlag place = bFlag := by
  rw [getFlag, setFlag, Fin.getElem_fin, Vector.getElem_set_self]
  cases bFlag with
  | true =>
      rw [if_pos rfl, decide_eq_true_eq]
      intro hzero
      have hself : (tc.m_timeDigits[place.1] ||| place.2) &&& place.2 = place.2 := by
        ext i hi
        simp only [BitVec.getElem_and, BitVec.getElem_or]
        cases place.2[i] <;> simp
      exact h (hself.symm.trans hzero)
  | false =>
      rw [if_neg (by decide), decide_eq_false_iff_not, not_not, BitVec.and_assoc]
      ext i hi
      simp only [BitVec.getElem_and, BitVec.getElem_not]
      cases place.2[i] <;> simp

end Bits

end AJAAncillaryData_Timecode

/-! ### All values -/

/-- The bits of each time digit that are no flags. -/
def timeMask : Fin 8 → UByte := ![0x0F, 0x03, 0x0F, 0x07, 0x0F, 0x07, 0x0F, 0x03]

/-- A place that is not among the bits of a time digit. -/
def OffDigits (place : Fin 8 × UByte) : Prop := place.2 &&& timeMask place.1 = 0

/-- Two places without a bit in common. -/
def PlacesApart (place place' : Fin 8 × UByte) : Prop :=
  place.1 = place'.1 → place.2 &&& place'.2 = 0

instance (place : Fin 8 × UByte) : Decidable (OffDigits place) :=
  inferInstanceAs (Decidable (_ = _))

instance (place place' : Fin 8 × UByte) : Decidable (PlacesApart place place') :=
  inferInstanceAs (Decidable (_ → _))

/-- The flags of a format, in the order in which the words set them. -/
def flagPlaces (tcFmt : AJAAncillaryData_Timecode_Format) : List (Fin 8 × UByte) :=
  [dropFramePlace tcFmt, colorFramePlace tcFmt, fieldIdPlace tcFmt, (binaryGroupPlaces tcFmt).1,
    (binaryGroupPlaces tcFmt).2.1, (binaryGroupPlaces tcFmt).2.2]

/-- **The flags of a format** keep off the digits and off each other. -/
lemma flagPlaces_apart (tcFmt : AJAAncillaryData_Timecode_Format) :
    (∀ place ∈ flagPlaces tcFmt, OffDigits place ∧ place.2 ≠ 0) ∧
      (flagPlaces tcFmt).Pairwise fun place place' =>
        PlacesApart place place' ∧ PlacesApart place' place := by
  cases tcFmt <;> decide +kernel

/-- The digits without the bits that are flags. -/
def TimeDigits.cut (d : TimeDigits) : TimeDigits where
  hourTens := d.hourTens &&& 0x03
  hourUnits := d.hourUnits &&& 0x0F
  minuteTens := d.minuteTens &&& 0x07
  minuteUnits := d.minuteUnits &&& 0x0F
  secondTens := d.secondTens &&& 0x07
  secondUnits := d.secondUnits &&& 0x0F
  frameTens := d.frameTens &&& 0x03
  frameUnits := d.frameUnits &&& 0x0F

/-- The groups cut to four bits. -/
def BinaryGroups.cut (g : BinaryGroups) : BinaryGroups where
  bg8 := g.bg8 &&& 0x0F
  bg7 := g.bg7 &&& 0x0F
  bg6 := g.bg6 &&& 0x0F
  bg5 := g.bg5 &&& 0x0F
  bg4 := g.bg4 &&& 0x0F
  bg3 := g.bg3 &&& 0x0F
  bg2 := g.bg2 &&& 0x0F
  bg1 := g.bg1 &&& 0x0F

/-- All that is read back from a packet in one format. -/
@[ext]
structure AncTimecodeValues where
  timeDigits : TimeDigits
  binaryGroups : BinaryGroups
  dropFrame : Bool
  colorFrame : Bool
  fieldId : Bool
  bgFlag : UByte
  deriving DecidableEq, Repr

/-- The values cut to the bits that they have. -/
def AncTimecodeValues.cut (v : AncTimecodeValues) : AncTimecodeValues :=
  { v with
    timeDigits := v.timeDigits.cut
    binaryGroups := v.binaryGroups.cut
    bgFlag := v.bgFlag &&& 0x07 }

namespace AJAAncillaryData_Timecode

variable (tc : AJAAncillaryData_Timecode) (tcFmt : AJAAncillaryData_Timecode_Format)

/-- What the getters answer. -/
def values : AncTimecodeValues where
  timeDigits := tc.GetTimeDigits
  binaryGroups := tc.GetBinaryGroups
  dropFrame := tc.GetDropFrameFlag tcFmt
  colorFrame := tc.GetColorFrameFlag tcFmt
  fieldId := tc.GetFieldIdFlag tcFmt
  bgFlag := tc.GetBinaryGroupFlag tcFmt

/-- The setters of all values, one after the other. -/
def setValues (v : AncTimecodeValues) : AJAAncillaryData_Timecode :=
  (((((tc.SetTimeDigits v.timeDigits).SetBinaryGroups v.binaryGroups
    ).SetDropFrameFlag tcFmt v.dropFrame).SetColorFrameFlag tcFmt v.colorFrame
    ).SetFieldIdFlag tcFmt v.fieldId).SetBinaryGroupFlag tcFmt v.bgFlag

/-- Flags set one after the other. -/
def setFlags (flags : List ((Fin 8 × UByte) × Bool)) : AJAAncillaryData_Timecode :=
  flags.foldl (fun tc f => tc.setFlag f.1 f.2) tc

/-- The flags that the setters of all values set. -/
def flagsOf (v : AncTimecodeValues) : List ((Fin 8 × UByte) × Bool) :=
  (flagPlaces tcFmt).zip [v.dropFrame, v.colorFrame, v.fieldId, decide (v.bgFlag &&& 0x04 ≠ 0),
    decide (v.bgFlag &&& 0x02 ≠ 0), decide (v.bgFlag &&& 0x01 ≠ 0)]

lemma setValues_eq (v : AncTimecodeValues) : tc.setValues tcFmt v =
    ((tc.SetTimeDigits v.timeDigits).SetBinaryGroups v.binaryGroups).setFlags
      (flagsOf tcFmt v) := rfl

lemma GetTimeDigits_SetTimeDigits (d : TimeDigits) : (tc.SetTimeDigits d).GetTimeDigits = d.cut := by
  simp (disch := decide) only [GetTimeDigits, SetTimeDigits, TimeDigits.cut,
    getTimeHex_setTimeHex_self, getTimeHex_setTimeHex]

lemma GetBinaryGroups_SetBinaryGroups (g : BinaryGroups) :
    (tc.SetBinaryGroups g).GetBinaryGroups = g.cut := by
  simp (disch := decide) only [GetBinaryGroups, SetBinaryGroups, BinaryGroups.cut,
    getGroupHex_setGroupHex_self, getGroupHex_setGroupHex]

/-- A flag off the digits leaves the time. -/
lemma GetTimeDigits_setFlag {place : Fin 8 × UByte} (h : OffDigits place) (bFlag : Bool) :
    (tc.setFlag place bFlag).GetTimeDigits = tc.GetTimeDigits := by
  have hoff : ∀ k, (tc.setFlag place bFlag).getTimeHex k (timeMask k) =
      tc.getTimeHex k (timeMask k) := fun k =>
    tc.getTimeHex_setFlag (fun heq => by rw [← heq]; exact h) bFlag
  exact TimeDigits.ext (hoff kTcHourTens) (hoff kTcHourUnits) (hoff kTcMinuteTens)
    (hoff kTcMinuteUnits) (hoff kTcSecondTens) (hoff kTcSecondUnits) (hoff kTcFrameTens)
    (hoff kTcFrameUnits)

/-- Flags off the digits leave the time. -/
lemma GetTimeDigits_setFlags {flags : List ((Fin 8 × UByte) × Bool)}
    (h : ∀ f ∈ flags, OffDigits f.1) : (tc.setFlags flags).GetTimeDigits = tc.GetTimeDigits := by
  induction flags generalizing tc with
  | nil => rfl
  | cons f flags ih =>
      rw [setFlags, List.foldl_cons]
      exact (ih _ fun g hg => h g (List.mem_cons_of_mem f hg)).trans
        (tc.GetTimeDigits_setFlag (h f List.mem_cons_self) f.2)

/-- Flags leave the binary groups. -/
lemma m_binaryGroup_setFlags (flags : List ((Fin 8 × UByte) × Bool)) :
    (tc.setFlags flags).m_binaryGroup = tc.m_binaryGroup := by
  induction flags generalizing tc with
  | nil => rfl
  | cons f flags ih =>
      rw [setFlags, List.foldl_cons]
      exact ih _

/-- Flags apart from a place leave the flag there. -/
lemma getFlag_setFlags_apart {place : Fin 8 × UByte} {flags : List ((Fin 8 × UByte) × Bool)}
    (h : ∀ f ∈ flags, PlacesApart f.1 place) :
    (tc.setFlags flags).getFlag place = tc.getFlag place := by
  induction flags generalizing tc with
  | nil => rfl
  | cons f flags ih =>
      rw [setFlags, List.foldl_cons]
      exact (ih _ fun g hg => h g (List.mem_cons_of_mem f hg)).trans
        (tc.getFlag_setFlag (h f List.mem_cons_self) f.2)

/-- **Flags that stand apart** read back. -/
lemma getFlag_setFlags {flags : List ((Fin 8 × UByte) × Bool)}
    (hapart : flags.Pairwise fun f g => PlacesApart g.1 f.1) (hne : ∀ f ∈ flags, f.1.2 ≠ 0)
    {f : (Fin 8 × UByte) × Bool} (hf : f ∈ flags) :
    (tc.setFlags flags).getFlag f.1 = f.2 := by
  induction flags generalizing tc with
  | nil => exact absurd hf List.not_mem_nil
  | cons g flags ih =>
      obtain ⟨hg, hrest⟩ := List.pairwise_cons.mp hapart
      have hne' : ∀ f ∈ flags, f.1.2 ≠ 0 := fun f hf => hne f (List.mem_cons_of_mem g hf)
      rw [setFlags, List.foldl_cons]
      rcases List.mem_cons.mp hf with rfl | hf
      · exact (getFlag_setFlags_apart _ hg).trans
          (tc.getFlag_setFlag_self (hne f List.mem_cons_self) f.2)
      · exact ih _ hrest hne' hf

/-- Three bits put together again. -/
lemma bgFlag_bits (b : UByte) :
    (if decide (b &&& 0x04 ≠ 0) then (1 : UByte) else 0) <<< 2 +
      (if decide (b &&& 0x02 ≠ 0) then (1 : UByte) else 0) <<< 1 +
      (if decide (b &&& 0x01 ≠ 0) then (1 : UByte) else 0) = b &&& 0x07 := by
  have hall : ∀ n < 256, (if decide (BitVec.ofNat 8 n &&& 0x04 ≠ 0) then (1 : UByte) else 0) <<< 2 +
      (if decide (BitVec.ofNat 8 n &&& 0x02 ≠ 0) then (1 : UByte) else 0) <<< 1 +
      (if decide (BitVec.ofNat 8 n &&& 0x01 ≠ 0) then (1 : UByte) else 0) =
        BitVec.ofNat 8 n &&& 0x07 := by
    decide +kernel
  have hb := hall b.toNat b.isLt
  rwa [BitVec.ofNat_toNat, BitVec.setWidth_eq] at hb

/-- **The values read back** are the values set, cut to their bits. -/
theorem values_setValues (v : AncTimecodeValues) :
    (tc.setValues tcFmt v).values tcFmt = v.cut := by
  obtain ⟨hplaces, hpairs⟩ := flagPlaces_apart tcFmt
  have hzip : (flagsOf tcFmt v).map Prod.fst = flagPlaces tcFmt := rfl
  have hmem : ∀ f ∈ flagsOf tcFmt v, f.1 ∈ flagPlaces tcFmt := fun f hf => by
    rw [← hzip]
    exact List.mem_map_of_mem hf
  have hapart : (flagsOf tcFmt v).Pairwise fun f g => PlacesApart g.1 f.1 := by
    rw [← hzip, List.pairwise_map] at hpairs
    exact hpairs.imp fun h => h.2
  have hread : ∀ f ∈ flagsOf tcFmt v, (tc.setValues tcFmt v).getFlag f.1 = f.2 := fun f hf => by
    rw [setValues_eq]
    exact getFlag_setFlags _ hapart (fun f hf => (hplaces _ (hmem f hf)).2) hf
  have htime : (tc.setValues tcFmt v).GetTimeDigits = v.timeDigits.cut := by
    rw [setValues_eq, GetTimeDigits_setFlags _ fun f hf => (hplaces _ (hmem f hf)).1]
    exact tc.GetTimeDigits_SetTimeDigits v.timeDigits
  have hgroups : (tc.setValues tcFmt v).GetBinaryGroups = v.binaryGroups.cut := by
    rw [← GetBinaryGroups_SetBinaryGroups (tc.SetTimeDigits v.timeDigits), setValues_eq]
    simp only [GetBinaryGroups, getGroupHex, m_binaryGroup_setFlags]
  have hbit2 := hread ((binaryGroupPlaces tcFmt).1, decide (v.bgFlag &&& 0x04 ≠ 0))
    (by simp [flagsOf, flagPlaces])
  have hbit1 := hread ((binaryGroupPlaces tcFmt).2.1, decide (v.bgFlag &&& 0x02 ≠ 0))
    (by simp [flagsOf, flagPlaces])
  have hbit0 := hread ((binaryGroupPlaces tcFmt).2.2, decide (v.bgFlag &&& 0x01 ≠ 0))
    (by simp [flagsOf, flagPlaces])
  refine AncTimecodeValues.ext htime hgroups ?_ ?_ ?_ ?_
  · exact hread (dropFramePlace tcFmt, v.dropFrame) (by simp [flagsOf, flagPlaces])
  · exact hread (colorFramePlace tcFmt, v.colorFrame) (by simp [flagsOf, flagPlaces])
  · exact hread (fieldIdPlace tcFmt, v.fieldId) (by simp [flagsOf, flagPlaces])
  · simp only [values, GetBinaryGroupFlag]
    rw [hbit2, hbit1, hbit0]
    exact bgFlag_bits v.bgFlag

end AJAAncillaryData_Timecode

end LibAjaNtv2
