import Mathlib.Tactic
import LibAjaNtv2.Anc.Timecode

/-!
The two words that carry an ancillary timecode (`SetRP188Words` and `GetRP188Words` of
`ancillarydata_timecode.cpp`).

* `kFrameUnits`, …, `kBinaryGroup8`: the slots of the two words;
* `wordsValues`, `loFields`, `hiFields`: the values that two words say, and the words of values;
* `SetRP188Words`, `GetRP188Words`;
* `GetRP188Words_SetRP188Words`: **words come back** but for the bits that nothing is kept in;
* `wordsRoundTrip_iff`: **values come back** unless the field ID shares its bit with a binary group
  flag that differs from it.
-/

namespace LibAjaNtv2

open AJA_FrameRate AJAStatus

/-! ### The slots -/

def kFrameUnits : Slot := ⟨0, 4⟩
def kBinaryGroup1 : Slot := ⟨4, 4⟩
def kFrameTens : Slot := ⟨8, 2⟩
def kDropFrame : Slot := ⟨10, 1⟩
def kColorFrame : Slot := ⟨11, 1⟩
def kBinaryGroup2 : Slot := ⟨12, 4⟩
def kSecondUnits : Slot := ⟨16, 4⟩
def kBinaryGroup3 : Slot := ⟨20, 4⟩
def kSecondTens : Slot := ⟨24, 3⟩
def kFieldIdLo : Slot := ⟨27, 1⟩
def kBinaryGroup4 : Slot := ⟨28, 4⟩

def kMinuteUnits : Slot := ⟨0, 4⟩
def kBinaryGroup5 : Slot := ⟨4, 4⟩
def kMinuteTens : Slot := ⟨8, 3⟩
def kBinaryGroup6 : Slot := ⟨12, 4⟩
def kHourUnits : Slot := ⟨16, 4⟩
def kBinaryGroup7 : Slot := ⟨20, 4⟩
def kHourTens : Slot := ⟨24, 2⟩
def kBinaryGroupFlag : Slot := ⟨26, 2⟩
def kBinaryGroup8 : Slot := ⟨28, 4⟩

/-- The rates whose field ID is in the high word. -/
def fieldIdInHiWord (rate : AJA_FrameRate) : Bool :=
  rate = AJA_FrameRate_2500 || rate = AJA_FrameRate_5000 || rate = AJA_FrameRate_10000

/-! ### The functions -/

/-- The number in a slot of a word. -/
def fieldByte (s : Slot) (word : ULWord) : UByte := (s.read word).setWidth 8

/-- The flag in a slot of a word. -/
def fieldFlag (s : Slot) (word : ULWord) : Bool := decide (s.read word ≠ 0)

/-- The values that two words say. -/
def wordsValues (inLoWord inHiWord : ULWord) (rate : AJA_FrameRate) : AncTimecodeValues where
  timeDigits :=
    { hourTens := fieldByte kHourTens inHiWord
      hourUnits := fieldByte kHourUnits inHiWord
      minuteTens := fieldByte kMinuteTens inHiWord
      minuteUnits := fieldByte kMinuteUnits inHiWord
      secondTens := fieldByte kSecondTens inLoWord
      secondUnits := fieldByte kSecondUnits inLoWord
      frameTens := fieldByte kFrameTens inLoWord
      frameUnits := fieldByte kFrameUnits inLoWord }
  binaryGroups :=
    { bg8 := fieldByte kBinaryGroup8 inHiWord
      bg7 := fieldByte kBinaryGroup7 inHiWord
      bg6 := fieldByte kBinaryGroup6 inHiWord
      bg5 := fieldByte kBinaryGroup5 inHiWord
      bg4 := fieldByte kBinaryGroup4 inLoWord
      bg3 := fieldByte kBinaryGroup3 inLoWord
      bg2 := fieldByte kBinaryGroup2 inLoWord
      bg1 := fieldByte kBinaryGroup1 inLoWord }
  dropFrame := fieldFlag kDropFrame inLoWord
  colorFrame := fieldFlag kColorFrame inLoWord
  fieldId :=
    if fieldIdInHiWord rate then fieldFlag kFieldIdLo inHiWord else fieldFlag kFieldIdLo inLoWord
  bgFlag := fieldByte kBinaryGroupFlag inHiWord

/-- A byte as a word. -/
def byteWord (b : UByte) : ULWord := b.setWidth 32

/-- A flag as a word. -/
def flagWord (b : Bool) : ULWord := if b then 1 else 0

/-- What goes into the low word, but for the field ID. -/
def loFields (v : AncTimecodeValues) : List (Slot × ULWord) :=
  [(kFrameUnits, byteWord v.timeDigits.frameUnits), (kBinaryGroup1, byteWord v.binaryGroups.bg1),
    (kFrameTens, byteWord v.timeDigits.frameTens), (kDropFrame, flagWord v.dropFrame),
    (kColorFrame, flagWord v.colorFrame), (kBinaryGroup2, byteWord v.binaryGroups.bg2),
    (kSecondUnits, byteWord v.timeDigits.secondUnits), (kBinaryGroup3, byteWord v.binaryGroups.bg3),
    (kSecondTens, byteWord v.timeDigits.secondTens), (kBinaryGroup4, byteWord v.binaryGroups.bg4)]

/-- What goes into the high word, but for the field ID. -/
def hiFields (v : AncTimecodeValues) : List (Slot × ULWord) :=
  [(kMinuteUnits, byteWord v.timeDigits.minuteUnits), (kBinaryGroup5, byteWord v.binaryGroups.bg5),
    (kMinuteTens, byteWord v.timeDigits.minuteTens), (kBinaryGroup6, byteWord v.binaryGroups.bg6),
    (kHourUnits, byteWord v.timeDigits.hourUnits), (kBinaryGroup7, byteWord v.binaryGroups.bg7),
    (kHourTens, byteWord v.timeDigits.hourTens), (kBinaryGroupFlag, byteWord v.bgFlag),
    (kBinaryGroup8, byteWord v.binaryGroups.bg8)]

/-- The field ID, which comes last, in the words that carry it. -/
def fieldIdFields (here : Bool) (v : AncTimecodeValues) : List (Slot × ULWord) :=
  if here then [(kFieldIdLo, flagWord v.fieldId)] else []

/-- The words of values. -/
def valuesWords (v : AncTimecodeValues) (rate : AJA_FrameRate) : ULWord × ULWord :=
  (Slot.fill (loFields v ++ fieldIdFields (!fieldIdInHiWord rate) v),
    Slot.fill (hiFields v ++ fieldIdFields (fieldIdInHiWord rate) v))

namespace AJAAncillaryData_Timecode

/-- `AJAAncillaryData_Timecode::SetRP188Words`. -/
def SetRP188Words (tc : AJAAncillaryData_Timecode) (inLoWord inHiWord : ULWord)
    (inTimeBase : AJATimeBase) : AJAStatus × AJAAncillaryData_Timecode :=
  (AJA_STATUS_SUCCESS, tc.setValues (GetTimecodeFormatFromTimeBase inTimeBase)
    (wordsValues inLoWord inHiWord inTimeBase.GetAJAFrameRate))

/-- `AJAAncillaryData_Timecode::GetRP188Words`. -/
def GetRP188Words (tc : AJAAncillaryData_Timecode) (inTimeBase : AJATimeBase) :
    AJAStatus × ULWord × ULWord :=
  (AJA_STATUS_SUCCESS, valuesWords (tc.values (GetTimecodeFormatFromTimeBase inTimeBase))
    inTimeBase.GetAJAFrameRate)

end AJAAncillaryData_Timecode

/-! ### Bytes and flags in slots -/

lemma getLsbD_fieldByte (s : Slot) (word : ULWord) {i : ℕ} (hi : i < 8) :
    (fieldByte s word).getLsbD i = (word.getLsbD (s.shift + i) && decide (i < s.len)) := by
  rw [fieldByte, BitVec.getLsbD_setWidth, Slot.getLsbD_read, decide_eq_true hi, Bool.true_and]

/-- A byte in a slot comes back. -/
lemma fieldByte_of_read {s : Slot} {word : ULWord} {b : UByte}
    (h : s.read word = byteWord b &&& s.mask) : fieldByte s word = b &&& s.mask := by
  refine BitVec.eq_of_getLsbD_eq fun i hi => ?_
  rw [fieldByte, h, byteWord, BitVec.getLsbD_setWidth, BitVec.getLsbD_and, BitVec.getLsbD_and,
    BitVec.getLsbD_setWidth, Slot.getLsbD_mask, Slot.getLsbD_mask, decide_eq_true hi,
    decide_eq_true (by omega : i < 32)]
  simp

lemma fieldFlag_of_read {s : Slot} (hs : s.len = 1) {word : ULWord} {b : Bool}
    (h : s.read word = flagWord b &&& s.mask) : fieldFlag s word = b := by
  rw [fieldFlag, h, flagWord, Slot.mask, hs]
  cases b <;> decide

/-- A byte has no bit beyond its slot. -/
lemma fieldByte_and {s : Slot} {mask : UByte} (h : s.mask &&& mask = s.mask) (word : ULWord) :
    fieldByte s word &&& mask = fieldByte s word := by
  refine BitVec.eq_of_getLsbD_eq fun i hi => ?_
  have hbit := congrArg (fun b : UByte => b.getLsbD i) h
  simp only [BitVec.getLsbD_and, Slot.getLsbD_mask, decide_eq_true hi, Bool.true_and] at hbit
  rw [BitVec.getLsbD_and, getLsbD_fieldByte s word hi, Bool.and_assoc, hbit]

/-- The number of a slot of at most eight bits is that of its byte. -/
lemma byteWord_fieldByte {s : Slot} (hs : s.len ≤ 8) (word : ULWord) :
    byteWord (fieldByte s word) = s.read word := by
  refine BitVec.eq_of_getLsbD_eq fun i hi => ?_
  rw [byteWord, BitVec.getLsbD_setWidth, decide_eq_true hi, Bool.true_and, Slot.getLsbD_read]
  rcases Nat.lt_or_ge i 8 with h8 | h8
  · rw [getLsbD_fieldByte s word h8]
  · rw [decide_eq_false (by omega : ¬ i < s.len), BitVec.getLsbD_of_ge _ i h8, Bool.and_false]

/-- The flag of a slot is its bit. -/
lemma fieldFlag_eq_getLsbD {s : Slot} (hs : s.len = 1) (word : ULWord) :
    s.read word = flagWord (word.getLsbD s.shift) ∧ fieldFlag s word = word.getLsbD s.shift := by
  have hread : s.read word = flagWord (word.getLsbD s.shift) := by
    refine BitVec.eq_of_getLsbD_eq fun i hi => ?_
    rw [Slot.getLsbD_read, hs, flagWord]
    cases hbit : word.getLsbD s.shift <;> rcases i with _ | i <;> simp [hbit]
  refine ⟨hread, ?_⟩
  rw [fieldFlag, hread, flagWord]
  cases word.getLsbD s.shift <;> decide

lemma flagWord_fieldFlag {s : Slot} (hs : s.len = 1) (word : ULWord) :
    flagWord (fieldFlag s word) = s.read word := by
  obtain ⟨hread, hflag⟩ := fieldFlag_eq_getLsbD hs word
  rw [hflag, hread]

lemma cut_wordsValues (lo hi : ULWord) (rate : AJA_FrameRate) :
    (wordsValues lo hi rate).cut = wordsValues lo hi rate := by
  simp (disch := decide) only [wordsValues, AncTimecodeValues.cut, TimeDigits.cut,
    BinaryGroups.cut, fieldByte_and]

/-! ### Words come back -/

/-- The slots of the low word, but for the field ID. -/
def loSlots : List Slot :=
  [kFrameUnits, kBinaryGroup1, kFrameTens, kDropFrame, kColorFrame, kBinaryGroup2, kSecondUnits,
    kBinaryGroup3, kSecondTens, kBinaryGroup4]

/-- The slots of the high word, but for the field ID. -/
def hiSlots : List Slot :=
  [kMinuteUnits, kBinaryGroup5, kMinuteTens, kBinaryGroup6, kHourUnits, kBinaryGroup7, kHourTens,
    kBinaryGroupFlag, kBinaryGroup8]

/-- The bits of the low word that something is kept in: bit 27 is the field ID, if it is here. -/
def loDefined (rate : AJA_FrameRate) : ULWord :=
  if fieldIdInHiWord rate then 0xF7FFFFFF else 0xFFFFFFFF

/-- The bits of the high word that something is kept in: all but bit 11. -/
def hiDefined : ULWord := 0xFFFFF7FF

section Words

variable (lo hi : ULWord) (rate : AJA_FrameRate)

lemma loFields_wordsValues :
    loFields (wordsValues lo hi rate) = loSlots.map fun s => (s, s.read lo) := by
  simp (disch := decide) only [loFields, wordsValues, byteWord_fieldByte, flagWord_fieldFlag]
  rfl

lemma hiFields_wordsValues :
    hiFields (wordsValues lo hi rate) = hiSlots.map fun s => (s, s.read hi) := by
  simp (disch := decide) only [hiFields, wordsValues, byteWord_fieldByte]
  rfl

/-- **Words come back** but for the bits that nothing is kept in. -/
lemma valuesWords_wordsValues :
    valuesWords (wordsValues lo hi rate) rate = (lo &&& loDefined rate, hi &&& hiDefined) := by
  have hlo : (Slot.cover loSlots : ULWord) = 0xF7FFFFFF := by decide
  have hloAll : (Slot.cover (loSlots ++ [kFieldIdLo]) : ULWord) = 0xFFFFFFFF := by decide
  have hhi : (Slot.cover hiSlots : ULWord) = 0xFFFFF7FF := by decide
  have hhiAll : (Slot.cover (hiSlots ++ [kFieldIdLo]) : ULWord) = 0xFFFFF7FF := by decide
  have hflag : ∀ word, flagWord (fieldFlag kFieldIdLo word) = kFieldIdLo.read word :=
    flagWord_fieldFlag rfl
  rw [valuesWords, loFields_wordsValues, hiFields_wordsValues, loDefined, hiDefined]
  cases hrate : fieldIdInHiWord rate with
  | true =>
      have hfield : fieldIdFields true (wordsValues lo hi rate) =
          [kFieldIdLo].map fun s => (s, s.read hi) := by
        simp only [fieldIdFields, wordsValues, hrate, if_true, hflag, List.map_cons, List.map_nil]
      have hnone : fieldIdFields (!true) (wordsValues lo hi rate) = [] := rfl
      rw [hfield, hnone, List.append_nil, ← List.map_append, Slot.fill_read, Slot.fill_read, hlo,
        hhiAll, if_pos rfl]
  | false =>
      have hfield : fieldIdFields (!false) (wordsValues lo hi rate) =
          [kFieldIdLo].map fun s => (s, s.read lo) := by
        simp only [fieldIdFields, wordsValues, hrate, Bool.not_false, if_true, hflag,
          List.map_cons, List.map_nil, Bool.false_eq_true, if_false]
      have hnone : fieldIdFields false (wordsValues lo hi rate) = [] := rfl
      rw [hfield, hnone, List.append_nil, ← List.map_append, Slot.fill_read, Slot.fill_read,
        hloAll, hhi, if_neg (by decide)]

end Words

/-! ### Values come back -/

section Values

variable (v : AncTimecodeValues) (here : Bool)

/-- Nothing in the low word overlaps. -/
lemma loFields_apart : (loFields v ++ fieldIdFields here v).Pairwise fun f g => f.1.Apart g.1 := by
  have hslots : ((loFields v ++ fieldIdFields here v).map Prod.fst) =
      loSlots ++ if here then [kFieldIdLo] else [] := by
    cases here <;> rfl
  refine List.pairwise_map.mp ?_
  rw [hslots]
  cases here <;> decide

/-- Nothing in the high word overlaps but the field ID. -/
lemma hiFields_apart : (hiFields v).Pairwise fun f g => f.1.Apart g.1 := by
  have hslots : (hiFields v).map Prod.fst = hiSlots := rfl
  refine List.pairwise_map.mp ?_
  rw [hslots]
  decide

lemma read_loWord {s : Slot} {x : ULWord} (h : (s, x) ∈ loFields v ++ fieldIdFields here v)
    (hfit : s.shift + s.len ≤ 32) :
    s.read (Slot.fill (loFields v ++ fieldIdFields here v)) = x &&& s.mask :=
  Slot.read_fill (loFields_apart v here) h hfit

/-- A number of the high word, if the field ID is not in its slot. -/
lemma read_hiWord {s : Slot} {x : ULWord} (h : (s, x) ∈ hiFields v)
    (hfit : s.shift + s.len ≤ 32) (hfield : here = true → s.Apart kFieldIdLo) :
    s.read (Slot.fill (hiFields v ++ fieldIdFields here v)) = x &&& s.mask := by
  rw [Slot.fill_append, Slot.read_or, Slot.read_fill (hiFields_apart v) h hfit]
  cases here with
  | true =>
      rw [fieldIdFields, if_pos rfl, Slot.fill_cons, Slot.fill_nil, Slot.read_or,
        Slot.read_put (hfield rfl) hfit, Slot.read_zero, BitVec.or_zero, BitVec.or_zero]
  | false => rw [fieldIdFields, if_neg (by decide), Slot.fill_nil, Slot.read_zero, BitVec.or_zero]

variable (rate : AJA_FrameRate)

/-- The time comes back from the words. -/
lemma timeDigits_wordsValues :
    (wordsValues (valuesWords v rate).1 (valuesWords v rate).2 rate).timeDigits =
      v.timeDigits.cut := by
  refine TimeDigits.ext ?_ ?_ ?_ ?_ ?_ ?_ ?_ ?_
  all_goals refine fieldByte_of_read ?_
  · exact read_hiWord v _ (by simp [hiFields]) (by decide) fun _ => by decide
  · exact read_hiWord v _ (by simp [hiFields]) (by decide) fun _ => by decide
  · exact read_hiWord v _ (by simp [hiFields]) (by decide) fun _ => by decide
  · exact read_hiWord v _ (by simp [hiFields]) (by decide) fun _ => by decide
  · exact read_loWord v _ (by simp [loFields]) (by decide)
  · exact read_loWord v _ (by simp [loFields]) (by decide)
  · exact read_loWord v _ (by simp [loFields]) (by decide)
  · exact read_loWord v _ (by simp [loFields]) (by decide)

/-- The binary groups come back from the words. -/
lemma binaryGroups_wordsValues :
    (wordsValues (valuesWords v rate).1 (valuesWords v rate).2 rate).binaryGroups =
      v.binaryGroups.cut := by
  refine BinaryGroups.ext ?_ ?_ ?_ ?_ ?_ ?_ ?_ ?_
  all_goals refine fieldByte_of_read ?_
  · exact read_hiWord v _ (by simp [hiFields]) (by decide) fun _ => by decide
  · exact read_hiWord v _ (by simp [hiFields]) (by decide) fun _ => by decide
  · exact read_hiWord v _ (by simp [hiFields]) (by decide) fun _ => by decide
  · exact read_hiWord v _ (by simp [hiFields]) (by decide) fun _ => by decide
  · exact read_loWord v _ (by simp [loFields]) (by decide)
  · exact read_loWord v _ (by simp [loFields]) (by decide)
  · exact read_loWord v _ (by simp [loFields]) (by decide)
  · exact read_loWord v _ (by simp [loFields]) (by decide)

/-- The drop and color frame flags come back from the words. -/
lemma flags_wordsValues :
    (wordsValues (valuesWords v rate).1 (valuesWords v rate).2 rate).dropFrame = v.dropFrame ∧
      (wordsValues (valuesWords v rate).1 (valuesWords v rate).2 rate).colorFrame =
        v.colorFrame :=
  ⟨fieldFlag_of_read rfl (read_loWord v _ (by simp [loFields]) (by decide)),
    fieldFlag_of_read rfl (read_loWord v _ (by simp [loFields]) (by decide))⟩

/-- The two bits of the binary group flag come back with the field ID on the upper one. -/
lemma bgFlag_wordsValues :
    (wordsValues (valuesWords v rate).1 (valuesWords v rate).2 rate).bgFlag =
      (v.bgFlag &&& 0x03) ||| if fieldIdInHiWord rate && v.fieldId then 0x02#8 else 0#8 := by
  have hmem : (kBinaryGroupFlag, byteWord v.bgFlag) ∈ hiFields v := by simp [hiFields]
  have hread := Slot.read_fill (hiFields_apart v) hmem (by decide)
  have hbyte : (kBinaryGroupFlag.read (Slot.fill (hiFields v))).setWidth 8 = v.bgFlag &&& 0x03 :=
    fieldByte_of_read hread
  have hflag : (wordsValues (valuesWords v rate).1 (valuesWords v rate).2 rate).bgFlag =
      fieldByte kBinaryGroupFlag
        (Slot.fill (hiFields v ++ fieldIdFields (fieldIdInHiWord rate) v)) := rfl
  rw [hflag, fieldByte, Slot.fill_append, Slot.read_or, BitVec.setWidth_or, hbyte]
  cases fieldIdInHiWord rate with
  | true => cases hid : v.fieldId <;> simp only [fieldIdFields, hid] <;> rfl
  | false =>
      have hnone : fieldIdFields false v = [] := rfl
      rw [hnone, Slot.fill_nil, Slot.read_zero]
      rfl

/-- The field ID comes back from the low word; in the high word it is the upper bit of the binary
group flag. -/
lemma fieldId_wordsValues :
    (wordsValues (valuesWords v rate).1 (valuesWords v rate).2 rate).fieldId =
      if fieldIdInHiWord rate then
        (wordsValues (valuesWords v rate).1 (valuesWords v rate).2 rate).bgFlag.getLsbD 1
      else v.fieldId := by
  cases hrate : fieldIdInHiWord rate with
  | true =>
      have hbit : ∀ word, fieldFlag kFieldIdLo word = (fieldByte kBinaryGroupFlag word).getLsbD 1 :=
        fun word => by
          rw [(fieldFlag_eq_getLsbD rfl word).2, getLsbD_fieldByte _ _ (by decide)]
          exact (Bool.and_true _).symm
      rw [if_pos rfl, wordsValues, hrate, if_pos rfl]
      exact hbit _
  | false =>
      rw [if_neg (by decide), wordsValues, hrate, if_neg (by decide), valuesWords, hrate]
      exact fieldFlag_of_read rfl (read_loWord v _ (by simp [fieldIdFields]) (by decide))

end Values

/-! ### Round trips -/

/-- The values with the two bits of the binary group flag that fit the words. -/
def AncTimecodeValues.fitting (v : AncTimecodeValues) : AncTimecodeValues :=
  { v with bgFlag := v.bgFlag &&& 0x03 }

/-- **The field ID and the binary group flag** come back from one bit if they agree. -/
lemma fitting_iff (v : AncTimecodeValues) (rate : AJA_FrameRate)
    (htime : v.timeDigits.cut = v.timeDigits) (hgroups : v.binaryGroups.cut = v.binaryGroups) :
    (wordsValues (valuesWords v rate).1 (valuesWords v rate).2 rate).fitting = v.fitting ↔
      fieldIdInHiWord rate = false ∨ v.fieldId = v.bgFlag.getLsbD 1 := by
  have hid := fieldId_wordsValues v rate
  have hbg := bgFlag_wordsValues v rate
  obtain ⟨hdrop, hcolor⟩ := flags_wordsValues v rate
  have hdigits := (timeDigits_wordsValues v rate).trans htime
  have hbgs := (binaryGroups_wordsValues v rate).trans hgroups
  generalize wordsValues (valuesWords v rate).1 (valuesWords v rate).2 rate = v' at *
  have hall : v'.fitting = v.fitting ↔
      v'.fieldId = v.fieldId ∧ v'.bgFlag &&& 0x03 = v.bgFlag &&& 0x03 := by
    rw [AncTimecodeValues.fitting, AncTimecodeValues.fitting, AncTimecodeValues.mk.injEq]
    tauto
  have hbits : ∀ b : UByte, (b &&& 0x03).getLsbD 1 = b.getLsbD 1 := fun b => by simp
  rw [hall]
  cases hrate : fieldIdInHiWord rate with
  | false =>
      rw [hrate, Bool.false_and, if_neg (by decide), BitVec.or_zero] at hbg
      rw [hrate, if_neg (by decide)] at hid
      simp [hid, hbg, BitVec.and_assoc]
  | true =>
      rw [hrate, Bool.true_and] at hbg
      rw [hrate, if_pos rfl] at hid
      constructor
      · rintro ⟨hsame, hflag⟩
        refine .inr ?_
        rw [← hsame, hid, ← hbits v'.bgFlag, hflag, hbits]
      · rintro (habs | hsame)
        · exact absurd habs (by decide)
        · have hover : v'.bgFlag = v.bgFlag &&& 0x03 := by
            rw [hbg, hsame]
            refine BitVec.eq_of_getLsbD_eq fun i hi => ?_
            cases hbit : v.bgFlag.getLsbD 1 with
            | false => simp
            | true =>
                rw [if_pos rfl, BitVec.getLsbD_or]
                by_cases hi1 : i = 1
                · subst hi1
                  rw [hbits, hbit, Bool.true_or]
                · have htwo : (0x02#8).getLsbD i = false := by
                    interval_cases i <;> first | rfl | exact absurd rfl hi1
                  rw [htwo, Bool.or_false]
          refine ⟨?_, ?_⟩
          · rw [hid, hover, hbits, hsame]
          · rw [hover, BitVec.and_assoc]
            rfl

namespace AJAAncillaryData_Timecode

/-- What is read from a packet fits its bits. -/
lemma cut_values (tc : AJAAncillaryData_Timecode) (tcFmt : AJAAncillaryData_Timecode_Format) :
    (tc.values tcFmt).timeDigits.cut = (tc.values tcFmt).timeDigits ∧
      (tc.values tcFmt).binaryGroups.cut = (tc.values tcFmt).binaryGroups := by
  constructor
  · simp only [values, GetTimeDigits, TimeDigits.cut, getTimeHex, BitVec.and_assoc,
      BitVec.and_self]
  · simp only [values, GetBinaryGroups, BinaryGroups.cut, getGroupHex, BitVec.and_assoc,
      BitVec.and_self]

/-- What the words of a timecode promise: they restore the values in a fresh packet, and any two
words come back from a packet but for the bits that nothing is kept in. -/
structure WordsRoundTrip (tc : AJAAncillaryData_Timecode) (inTimeBase : AJATimeBase) : Prop where
  restores : ∃ lo hi tc', tc.GetRP188Words inTimeBase = (AJA_STATUS_SUCCESS, lo, hi) ∧
    Init.SetRP188Words lo hi inTimeBase = (AJA_STATUS_SUCCESS, tc') ∧
    (tc'.values (GetTimecodeFormatFromTimeBase inTimeBase)).fitting =
      (tc.values (GetTimecodeFormatFromTimeBase inTimeBase)).fitting
  returns : ∀ lo hi, ∃ tc', tc.SetRP188Words lo hi inTimeBase = (AJA_STATUS_SUCCESS, tc') ∧
    tc'.GetRP188Words inTimeBase =
      (AJA_STATUS_SUCCESS, lo &&& loDefined inTimeBase.GetAJAFrameRate, hi &&& hiDefined)

/-- Words come back from a packet but for the bits that nothing is kept in. -/
lemma GetRP188Words_SetRP188Words (tc : AJAAncillaryData_Timecode) (inTimeBase : AJATimeBase)
    (lo hi : ULWord) : (tc.SetRP188Words lo hi inTimeBase).2.GetRP188Words inTimeBase =
      (AJA_STATUS_SUCCESS, lo &&& loDefined inTimeBase.GetAJAFrameRate, hi &&& hiDefined) := by
  rw [SetRP188Words, GetRP188Words, values_setValues, cut_wordsValues, valuesWords_wordsValues]

/-- **The words keep a timecode** exactly where the field ID is in the low word or equal to the
upper of the two binary group flags, whose bit it takes in the high word. -/
theorem wordsRoundTrip_iff (tc : AJAAncillaryData_Timecode) (inTimeBase : AJATimeBase) :
    WordsRoundTrip tc inTimeBase ↔
      fieldIdInHiWord inTimeBase.GetAJAFrameRate = false ∨
        tc.GetFieldIdFlag (GetTimecodeFormatFromTimeBase inTimeBase) =
          (tc.GetBinaryGroupFlag (GetTimecodeFormatFromTimeBase inTimeBase)).getLsbD 1 := by
  obtain ⟨htime, hgroups⟩ := tc.cut_values (GetTimecodeFormatFromTimeBase inTimeBase)
  have hfit := fitting_iff _ inTimeBase.GetAJAFrameRate htime hgroups
  have hset : ∀ lo hi, (Init.SetRP188Words lo hi inTimeBase).2.values
      (GetTimecodeFormatFromTimeBase inTimeBase) =
      wordsValues lo hi inTimeBase.GetAJAFrameRate := fun lo hi => by
    rw [SetRP188Words, values_setValues, cut_wordsValues]
  constructor
  · rintro ⟨⟨lo, hi, tc', hget, hset', hv⟩, -⟩
    have htc : tc' = (Init.SetRP188Words lo hi inTimeBase).2 := (congrArg Prod.snd hset').symm
    have hlo : lo = (tc.GetRP188Words inTimeBase).2.1 := (congrArg (·.2.1) hget).symm
    have hhi : hi = (tc.GetRP188Words inTimeBase).2.2 := (congrArg (·.2.2) hget).symm
    rw [htc, hset, hlo, hhi] at hv
    exact hfit.mp hv
  · intro h
    have hv := hfit.mpr h
    rw [← hset] at hv
    exact ⟨⟨_, _, _, rfl, rfl, hv⟩,
      fun lo hi => ⟨_, rfl, tc.GetRP188Words_SetRP188Words inTimeBase lo hi⟩⟩

/-- At 25 frames per second the second binary group flag comes back as a field ID too. -/
theorem not_wordsRoundTrip_pal :
    ¬ WordsRoundTrip
      (Init.SetBinaryGroupFlag .AJAAncillaryData_Timecode_Format_25fps 0x02)
      (.ofRate AJA_FrameRate_2500) := by
  rintro ⟨⟨lo, hi, tc', hget, hset, hv⟩, -⟩
  have hid := congrArg AncTimecodeValues.fieldId hv
  have hlo := (congrArg (·.2.1) hget).symm
  have hhi := (congrArg (·.2.2) hget).symm
  have htc := (congrArg Prod.snd hset).symm
  simp only at hlo hhi htc
  rw [htc, hlo, hhi] at hid
  revert hid
  decide +kernel

end AJAAncillaryData_Timecode

end LibAjaNtv2
