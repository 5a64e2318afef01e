import LibAjaNtv2.Anc.VitcBounds

/-!
A VITC line is read as it was drawn.

* `pairLevel`: what the pixels of a bit pair show; `frame`: the pixels of a group;
* `addToCRC_eq_push`: the CRC is a shift register;
* `VITCEncoder.group_eq`, `VITCEncoder.foldl_group`: what is drawn;
* `decodeGroup_frame`, `decodeGroups_frames`: **groups are read as they were drawn**;
* `findStart_line`: the first start bit;
* `encodeLine_eq`, `decodeLine_encodeLine`: whole lines;
* `payload_roundTrip`: **digits, groups and type come back**.
-/

namespace LibAjaNtv2

open AJAStatus AJAAncillaryData_Timecode_VITC_Type

/-! ### Bit pairs -/

/-- What the pixels of a bit pair show. -/
def pairLevel (bPrevBit bBit0 bBit1 : Bool) (j : ℕ) : Bool :=
  if j = 0 then bPrevBit else if j = 1 then bPrevBit || bBit0 else if j ≤ 8 then bBit0 else bBit1

@[simp] lemma length_DoVITCBitPair (bPrevBit bBit0 bBit1 : Bool) :
    (DoVITCBitPair bPrevBit bBit0 bBit1).length = 15 := by
  cases bPrevBit <;> cases bBit0 <;> cases bBit1 <;> rfl

/-- The pixels show the bits. -/
lemma getVITCLevel_pair (bPrevBit bBit0 bBit1 : Bool) : ∀ j < 15,
    getVITCLevel j (DoVITCBitPair bPrevBit bBit0 bBit1) =
      some (pairLevel bPrevBit bBit0 bBit1 j) := by
  revert bPrevBit bBit0 bBit1
  decide

variable {pLine rest : List UByte} {bPrevBit bBit0 bBit1 : Bool} {S c n m : ℕ} {CRC : UByte}

/-- A pixel of the first pair of a line. -/
lemma getVITCLevel_pair_append {j : ℕ} (hj : j < 15) :
    getVITCLevel j (DoVITCBitPair bPrevBit bBit0 bBit1 ++ rest) =
      some (pairLevel bPrevBit bBit0 bBit1 j) := by
  rw [← getVITCLevel_pair _ _ _ j hj, getVITCLevel, getVITCLevel,
    List.getElem?_append_left (by simpa using hj)]

lemma getVITCLevel_append_pair (n : ℕ) :
    getVITCLevel (15 + n) (DoVITCBitPair bPrevBit bBit0 bBit1 ++ rest) = getVITCLevel n rest := by
  rw [getVITCLevel, getVITCLevel, List.getElem?_append_right (by simp), length_DoVITCBitPair,
    Nat.add_sub_cancel_left]

lemma getVITCLevel_drop (S n : ℕ) (pLine : List UByte) :
    getVITCLevel (S + n) pLine = getVITCLevel n (pLine.drop S) := by
  rw [getVITCLevel, getVITCLevel, List.getElem?_drop]

/-! ### Groups -/

/-- The pixels of a group: two start bits, and eight data bits. -/
def frame (bPrevBit : Bool) (d : UByte) : List UByte :=
  DoVITCBitPair bPrevBit true false ++
    (DoVITCBitPair false (d.getLsbD 0) (d.getLsbD 1) ++
      (DoVITCBitPair (d.getLsbD 1) (d.getLsbD 2) (d.getLsbD 3) ++
        (DoVITCBitPair (d.getLsbD 3) (d.getLsbD 4) (d.getLsbD 5) ++
          DoVITCBitPair (d.getLsbD 5) (d.getLsbD 6) (d.getLsbD 7))))

/-- The pixels of groups in a row. -/
def frames : Bool → List UByte → List UByte
  | _, [] => []
  | bPrevBit, d :: ds => frame bPrevBit d ++ frames (d.getLsbD 7) ds

/-- The last bit of groups in a row. -/
def endBit (bPrevBit : Bool) (ds : List UByte) : Bool := ds.foldl (fun _ d => d.getLsbD 7) bPrevBit

@[simp] lemma length_frame (d : UByte) : (frame bPrevBit d).length = 75 := by simp [frame]

lemma frames_concat (ds : List UByte) (d : UByte) :
    frames bPrevBit (ds ++ [d]) = frames bPrevBit ds ++ frame (endBit bPrevBit ds) d := by
  induction ds generalizing bPrevBit with
  | nil => simp [frames, endBit]
  | cons e ds ih => rw [List.cons_append, frames, frames, ih, List.append_assoc]; rfl

lemma length_frames (ds : List UByte) : (frames bPrevBit ds).length = 75 * ds.length := by
  induction ds generalizing bPrevBit with
  | nil => rfl
  | cons d ds ih => rw [frames, List.length_append, length_frame, ih, List.length_cons]; omega

/-- The bits of a byte, the lowest first. -/
def lsbFirst (d : UByte) : List Bool :=
  [d.getLsbD 0, d.getLsbD 1, d.getLsbD 2, d.getLsbD 3, d.getLsbD 4, d.getLsbD 5, d.getLsbD 6,
    d.getLsbD 7]

/-- The bits of a group. -/
def frameBits (d : UByte) : List Bool := true :: false :: lsbFirst d

/-- **The CRC** is a shift register. -/
lemma addToCRC_eq_push : ∀ (CRC : UByte) (inBit : Bool),
    addToCRC inBit CRC = ShiftRegister.push CRC inBit := by
  decide +kernel

/-! ### What is drawn -/

namespace VITCEncoder

/-- The data bits that are drawn. -/
lemma dataBits_eq (d : UByte) (enc : VITCEncoder) :
    enc.dataBits 4 d =
      ⟨enc.pLine ++ (DoVITCBitPair enc.bPrevBit (d.getLsbD 0) (d.getLsbD 1) ++
          (DoVITCBitPair (d.getLsbD 1) (d.getLsbD 2) (d.getLsbD 3) ++
            (DoVITCBitPair (d.getLsbD 3) (d.getLsbD 4) (d.getLsbD 5) ++
              DoVITCBitPair (d.getLsbD 5) (d.getLsbD 6) (d.getLsbD 7)))),
        d.getLsbD 7, ShiftRegister.pushes enc.CRC (lsbFirst d)⟩ := by
  have hbits : ∀ d : UByte, decide (d &&& 0x01 ≠ 0) = d.getLsbD 0 ∧
      decide (d &&& 0x02 ≠ 0) = d.getLsbD 1 := by decide +kernel
  simp only [dataBits, (hbits _).1, (hbits _).2, BitVec.getLsbD_ushiftRight, addToCRC_eq_push,
    lsbFirst, ShiftRegister.pushes_cons, ShiftRegister.pushes_nil, List.append_assoc,
    Nat.reduceAdd]

/-- **A group that is drawn.** -/
lemma group_eq (enc : VITCEncoder) (d : UByte) :
    enc.group d = ⟨enc.pLine ++ frame enc.bPrevBit d, d.getLsbD 7,
      ShiftRegister.pushes enc.CRC (frameBits d)⟩ := by
  rw [group, dataBits_eq]
  simp only [startBits, frame, addToCRC_eq_push, frameBits, ShiftRegister.pushes_cons,
    List.append_assoc]

/-- Groups in a row. -/
lemma foldl_group (enc : VITCEncoder) (ds : List UByte) :
    ds.foldl group enc = ⟨enc.pLine ++ frames enc.bPrevBit ds, endBit enc.bPrevBit ds,
      ds.foldl (fun CRC d => ShiftRegister.pushes CRC (frameBits d)) enc.CRC⟩ := by
  induction ds generalizing enc with
  | nil => simp [frames, endBit]
  | cons d ds ih =>
      rw [List.foldl_cons, ih, group_eq, List.foldl_cons, frames, List.append_assoc]
      rfl

/-- The group of the CRC, the highest bit first. -/
lemma crcBits_eq (v : UByte) (enc : VITCEncoder) :
    (enc.startBits.crcBits 4 v).pLine = enc.pLine ++ frame enc.bPrevBit v.reverse := by
  have hbits : ∀ v : UByte, decide (v &&& 0x80 ≠ 0) = v.getLsbD 7 ∧
      decide (v &&& 0x40 ≠ 0) = v.getLsbD 6 := by decide +kernel
  have hshift : ∀ v : UByte, (v <<< 2).getLsbD 7 = v.getLsbD 5 ∧
      (v <<< 2).getLsbD 6 = v.getLsbD 4 ∧ (v <<< 2).getLsbD 5 = v.getLsbD 3 ∧
      (v <<< 2).getLsbD 4 = v.getLsbD 2 ∧ (v <<< 2).getLsbD 3 = v.getLsbD 1 ∧
      (v <<< 2).getLsbD 2 = v.getLsbD 0 := by simp
  have hreverse : ∀ i < 8, v.reverse.getLsbD i = v.getLsbD (7 - i) := by
    intro i hi
    rw [BitVec.getLsbD_reverse, BitVec.getMsbD_eq_getLsbD, decide_eq_true hi, Bool.true_and]
  simp only [crcBits, startBits, frame, (hbits _).1, (hbits _).2, hshift, List.append_assoc]
  simp (disch := decide) only [hreverse, Nat.reduceSub]

end VITCEncoder

/-! ### What is read -/

/-- A line shows a group from some pixel on. -/
structure ShowsGroup (pLine : List UByte) (S : ℕ) (bPrevBit : Bool) (d : UByte) : Prop where
  start : ∀ j < 15, getVITCLevel (S + j) pLine = some (pairLevel bPrevBit true false j)
  data01 : ∀ j < 15,
    getVITCLevel (S + (15 + j)) pLine = some (pairLevel false (d.getLsbD 0) (d.getLsbD 1) j)
  data23 : ∀ j < 15, getVITCLevel (S + (15 + (15 + j))) pLine =
    some (pairLevel (d.getLsbD 1) (d.getLsbD 2) (d.getLsbD 3) j)
  data45 : ∀ j < 15, getVITCLevel (S + (15 + (15 + (15 + j)))) pLine =
    some (pairLevel (d.getLsbD 3) (d.getLsbD 4) (d.getLsbD 5) j)
  data67 : ∀ j < 15, getVITCLevel (S + (15 + (15 + (15 + (15 + j))))) pLine =
    some (pairLevel (d.getLsbD 5) (d.getLsbD 6) (d.getLsbD 7) j)

/-- A group that has been drawn is shown. -/
lemma showsGroup {d : UByte} (h : pLine.drop S = frame bPrevBit d ++ rest) :
    ShowsGroup pLine S bPrevBit d := by
  simp only [frame, List.append_assoc] at h
  refine ⟨fun j hj => ?_, fun j hj => ?_, fun j hj => ?_, fun j hj => ?_, fun j hj => ?_⟩
  · rw [getVITCLevel_drop, h]
    exact getVITCLevel_pair_append hj
  · rw [getVITCLevel_drop, h, getVITCLevel_append_pair]
    exact getVITCLevel_pair_append hj
  · rw [getVITCLevel_drop, h, getVITCLevel_append_pair, getVITCLevel_append_pair]
    exact getVITCLevel_pair_append hj
  · rw [getVITCLevel_drop, h, getVITCLevel_append_pair, getVITCLevel_append_pair,
      getVITCLevel_append_pair]
    exact getVITCLevel_pair_append hj
  · rw [getVITCLevel_drop, h, getVITCLevel_append_pair, getVITCLevel_append_pair,
      getVITCLevel_append_pair, getVITCLevel_append_pair]
    exact getVITCLevel_pair_append hj

/-- The data bits of a group, at the pixels where they are looked for. -/
lemma decodeBits_eq {d : UByte}
    (h0 : getVITCLevel c pLine = some (d.getLsbD 0))
    (h1 : getVITCLevel (c + 7) pLine = some (d.getLsbD 1))
    (h2 : getVITCLevel (c + 15) pLine = some (d.getLsbD 2))
    (h3 : getVITCLevel (c + 22) pLine = some (d.getLsbD 3))
    (h4 : getVITCLevel (c + 30) pLine = some (d.getLsbD 4))
    (h5 : getVITCLevel (c + 37) pLine = some (d.getLsbD 5))
    (h6 : getVITCLevel (c + 45) pLine = some (d.getLsbD 6))
    (h7 : getVITCLevel (c + 52) pLine = some (d.getLsbD 7)) :
    decodeBits pLine 8 c CRC 0 =
      some (c + 60, ShiftRegister.pushes CRC (lsbFirst d), d) := by
  have hbyte : ∀ d : UByte, (lsbFirst d).foldl shiftIn 0 = d := by decide +kernel
  simp only [lsbFirst, List.foldl_cons, List.foldl_nil] at hbyte
  simp only [decodeBits, Option.bind_eq_bind, Option.bind_some, h0, h1, h2, h3, h4, h5, h6, h7,
    Nat.reduceAdd, Nat.reduceSub, Nat.reduceMod, Nat.add_assoc, ne_eq, not_true_eq_false,
    not_false_eq_true, if_true, if_false, addToCRC_eq_push, one_ne_zero, hbyte, lsbFirst,
    ShiftRegister.pushes_cons, ShiftRegister.pushes_nil]

/-- **A group is read** as it was drawn. -/
lemma decodeGroup_frame {d : UByte} (h : ShowsGroup pLine S bPrevBit d) (hc : c = S + 4 ∨ c = S + 5) :
    decodeGroup pLine c CRC =
      some (some (S + 75 + 5, ShiftRegister.pushes CRC (frameBits d), d)) := by
  obtain ⟨i, hi, hnear⟩ : ∃ i, c + i = S + 9 ∧ i < 8 := by
    rcases hc with rfl | rfl
    · exact ⟨5, rfl, by decide⟩
    · exact ⟨4, rfl, by decide⟩
  have htransition : Transition pLine c i := by
    refine ⟨⟨by omega, hnear⟩, fun j hj hji => ?_, ?_⟩
    · have hlevel := h.start (c + j - S) (by omega)
      have hhigh : pairLevel bPrevBit true false (c + j - S) = true := by
        rw [pairLevel, if_neg (by omega), if_neg (by omega), if_pos (by omega)]
      rwa [Nat.add_sub_cancel' (by omega), hhigh] at hlevel
    · rw [hi]
      exact h.start 9 (by decide)
  have hlen := lt_of_level (h.data01 0 (by decide))
  have hbits : decodeBits pLine 8 (S + 20) (addToCRC false (addToCRC true CRC)) 0 =
      some (S + 20 + 60, ShiftRegister.pushes (addToCRC false (addToCRC true CRC)) (lsbFirst d),
        d) :=
    decodeBits_eq (h.data01 5 (by decide)) (h.data01 12 (by decide)) (h.data23 5 (by decide))
      (h.data23 12 (by decide)) (h.data45 5 (by decide)) (h.data45 12 (by decide))
      (h.data67 5 (by decide)) (h.data67 12 (by decide))
  rw [decodeGroup, htransition.find (by omega), Option.bind_eq_bind, Option.bind_some,
    if_neg (by omega), hi]
  rw [show S + 9 + 11 = S + 20 by omega, hbits]
  simp only [addToCRC_eq_push, frameBits, ShiftRegister.pushes_cons, Option.map_some,
    Nat.add_assoc, Nat.reduceAdd]

/-- **Groups are read** as they were drawn. -/
theorem decodeGroups_frames (ds : List UByte) (hc : c = S + 4 ∨ c = S + 5)
    (h : pLine.drop S = frames bPrevBit ds ++ rest) :
    decodeGroups pLine ds.length c CRC =
      some (some (ds.foldl (fun CRC d => ShiftRegister.pushes CRC (frameBits d)) CRC, ds)) := by
  induction ds generalizing bPrevBit S c CRC with
  | nil => rfl
  | cons d ds ih =>
      rw [frames, List.append_assoc] at h
      have hnext : pLine.drop (S + 75) = frames (d.getLsbD 7) ds ++ rest := by
        rw [← List.drop_drop, h, List.drop_left' (length_frame d)]
      rw [List.length_cons, decodeGroups, decodeGroup_frame (showsGroup h) hc]
      simp only [Option.bind_eq_bind, Option.bind_some, ih (.inr rfl) hnext, Option.map_some,
        List.foldl_cons]

/-! ### The first start bit -/

/-- Black before the first pixel that is drawn. -/
lemma getVITCLevel_black {i : ℕ} (hi : i < n) :
    getVITCLevel i (List.replicate n VITC_YUV8_LO ++ rest) = some false := by
  rw [getVITCLevel, List.getElem?_append_left (by simpa using hi), List.getElem?_replicate,
    if_pos hi]
  rfl

/-- **The first start bit** is found where it has been drawn. -/
lemma findStart_line {d : UByte} (hlen : pLine.length = 720)
    (h : pLine = List.replicate 26 VITC_YUV8_LO ++ (frame false d ++ rest)) :
    findStart pLine = some (some 30) := by
  have hframe : ShowsGroup pLine 26 false d := by
    have hdrop : pLine.drop 26 = frame false d ++ rest := by rw [h, List.drop_left' (by simp)]
    exact showsGroup hdrop
  have hedge : FirstEdge pLine 27 := by
    refine ⟨by decide, fun i _ hi => ?_, fun i hi => ?_⟩
    · rcases Nat.lt_or_ge i 26 with hlt | hge
      · rw [h]
        exact getVITCLevel_black hlt
      · obtain rfl : i = 26 := by omega
        exact hframe.start 0 (by decide)
    · have hlevel : pairLevel false true false (1 + i) = true := by
        rw [pairLevel, if_neg (by omega)]
        split
        · rfl
        · rw [if_pos (by omega)]
      rw [show 27 + i = 26 + (1 + i) by omega, hframe.start (1 + i) (by omega), hlevel]
  rcases findStart_spec hlen with ⟨-, hno⟩ | ⟨e, hedge', hstart⟩
  · exact absurd hedge (hno 27)
  · rw [hstart, ← hedge.unique hedge']

/-! ### The CRC -/

/-- What is read where the CRC stands tells the type it has been sent for. -/
lemma typeOfCRC_sentCRC {ty : AJAAncillaryData_Timecode_VITC_Type}
    (hty : ty ≠ AJAAncillaryData_Timecode_VITC_Type_Unknown) (CRC : UByte) :
    typeOfCRC (ShiftRegister.pushes CRC (frameBits
      (sentCRC ty (ShiftRegister.pushes CRC [true, false])).reverse)) = ty := by
  have hbits : ∀ v : UByte, lsbFirst v.reverse = ShiftRegister.msbFirst v := by decide +kernel
  generalize hC : ShiftRegister.pushes CRC [true, false] = C
  have hpush : ∀ v : UByte, ShiftRegister.pushes CRC (frameBits v.reverse) =
      ShiftRegister.pushes C (ShiftRegister.msbFirst v) := by
    intro v
    rw [← hbits, ← hC, ← ShiftRegister.pushes_append]
    rfl
  rw [hpush]
  cases ty with
  | AJAAncillaryData_Timecode_VITC_Type_Unknown => exact absurd rfl hty
  | AJAAncillaryData_Timecode_VITC_Type_Timecode =>
      exact congrArg typeOfCRC (ShiftRegister.pushes_self C)
  | AJAAncillaryData_Timecode_VITC_Type_FilmData =>
      rw [sentCRC, ← BitVec.xor_allOnes, ShiftRegister.pushes_xor]
      rfl
  | AJAAncillaryData_Timecode_VITC_Type_ProdData =>
      rw [sentCRC, ShiftRegister.pushes_xor]
      rfl

/-! ### Whole lines -/

namespace AJAAncillaryData_Timecode_VITC

variable (vitc : AJAAncillaryData_Timecode_VITC)

/-- The data bytes of the groups. -/
def allData : List UByte := (List.finRange 8).map vitc.groupData

/-- The CRC behind the groups. -/
def dataCRC : UByte :=
  vitc.allData.foldl (fun CRC d => ShiftRegister.pushes CRC (frameBits d)) 0

/-- The group of the CRC. -/
def crcGroup : UByte :=
  (sentCRC vitc.m_vitcType (ShiftRegister.pushes vitc.dataCRC [true, false])).reverse

/-- **A line that is drawn**: black, nine groups, and black. -/
lemma encodeLine_eq : ∃ rest, vitc.EncodeLine =
    List.replicate 26 VITC_YUV8_LO ++ (frames false (vitc.allData ++ [vitc.crcGroup]) ++ rest) ∧
      rest.length = 4 + (vitc.toAJAAncillaryData.GetDC - 705) := by
  have hdata : vitc.allData.length = 8 := by simp [allData]
  generalize henc : vitc.allData.foldl VITCEncoder.group
    ⟨List.replicate 26 VITC_YUV8_LO, false, 0⟩ = enc
  have hgroups := henc.symm.trans (VITCEncoder.foldl_group _ _)
  generalize hlast : enc.startBits.crcBits 4 (sentCRC vitc.m_vitcType enc.startBits.CRC) = last
  have hline : last.pLine = List.replicate 26 VITC_YUV8_LO ++
      frames false (vitc.allData ++ [vitc.crcGroup]) := by
    have hcrc : enc.startBits.CRC = ShiftRegister.pushes vitc.dataCRC [true, false] := by
      rw [hgroups, VITCEncoder.startBits, addToCRC_eq_push, addToCRC_eq_push]
      rfl
    rw [← hlast, VITCEncoder.crcBits_eq, hcrc, hgroups, frames_concat, List.append_assoc]
    rfl
  have hlen : (last.pLine ++ DoNormalTransition last.bPrevBit false).length = 705 := by
    have htransition : (DoNormalTransition last.bPrevBit false).length = 4 := by
      cases last.bPrevBit <;> rfl
    rw [List.length_append, hline, List.length_append, List.length_replicate, length_frames,
      List.length_append, hdata, htransition]
    rfl
  refine ⟨DoNormalTransition last.bPrevBit false ++
    List.replicate (vitc.toAJAAncillaryData.GetDC - 705) VITC_YUV8_LO, ?_, ?_⟩
  · rw [EncodeLine]
    rw [allData] at henc
    simp only [henc, hlast, hlen]
    rw [hline, List.append_assoc, List.append_assoc]
  · rw [List.length_append, List.length_replicate]
    cases last.bPrevBit <;> rfl

/-- A line fills the payload. -/
lemma length_encodeLine (h : vitc.toAJAAncillaryData.GetDC = AJAAncillaryData_VITC_PayloadSize) :
    vitc.EncodeLine.length = AJAAncillaryData_VITC_PayloadSize := by
  have hdata : vitc.allData.length = 8 := by simp [allData]
  obtain ⟨rest, hline, hrest⟩ := vitc.encodeLine_eq
  rw [hline, List.length_append, List.length_append, hrest, h, List.length_replicate,
    length_frames, List.length_append, hdata]
  rfl

/-- **A line is read** as it was drawn. -/
lemma decodeLine_encodeLine (rx : AJAAncillaryData_Timecode_VITC)
    (hDC : vitc.toAJAAncillaryData.GetDC = AJAAncillaryData_VITC_PayloadSize)
    (hty : vitc.m_vitcType ≠ AJAAncillaryData_Timecode_VITC_Type_Unknown) :
    rx.DecodeLine vitc.EncodeLine = some (true,
      { rx with
        toAJAAncillaryData_Timecode := takeData rx.toAJAAncillaryData_Timecode
          (vitc.allData ++ [vitc.crcGroup])
        m_vitcType := vitc.m_vitcType }) := by
  have hlen : (vitc.allData ++ [vitc.crcGroup]).length = 9 := by simp [allData]
  obtain ⟨rest, hline, -⟩ := vitc.encodeLine_eq
  have hstart : findStart vitc.EncodeLine = some (some 30) := by
    obtain ⟨d, ds, hds⟩ : ∃ d ds, vitc.allData ++ [vitc.crcGroup] = d :: ds :=
      List.exists_cons_of_length_eq_add_one hlen
    rw [hds, frames, List.append_assoc] at hline
    exact findStart_line (vitc.length_encodeLine hDC) hline
  have hgroups : decodeGroups vitc.EncodeLine 9 30 0 = some (some
      (ShiftRegister.pushes vitc.dataCRC (frameBits vitc.crcGroup),
        vitc.allData ++ [vitc.crcGroup])) := by
    have hdrop : vitc.EncodeLine.drop 26 =
        frames false (vitc.allData ++ [vitc.crcGroup]) ++ rest := by
      rw [hline, List.drop_left' (by simp)]
    have hread : decodeGroups vitc.EncodeLine (vitc.allData ++ [vitc.crcGroup]).length 30 0 =
        some (some ((vitc.allData ++ [vitc.crcGroup]).foldl
          (fun CRC d => ShiftRegister.pushes CRC (frameBits d)) 0,
          vitc.allData ++ [vitc.crcGroup])) :=
      decodeGroups_frames _ (.inl rfl) hdrop
    rwa [hlen, List.foldl_append, List.foldl_cons, List.foldl_nil, ← dataCRC] at hread
  rw [DecodeLine, hstart]
  simp only [Option.bind_eq_bind, Option.bind_some, hgroups, crcGroup]
  rw [typeOfCRC_sentCRC hty, if_neg hty]

end AJAAncillaryData_Timecode_VITC

/-! ### Digits and groups -/

section Data

variable (tc : AJAAncillaryData_Timecode) (tcData : List UByte) (k : Fin 8)

open AJAAncillaryData_Timecode

/-- A digit behind a digit that is set. -/
lemma getTimeHex_setTimeHex_eq (k' : Fin 8) (v : UByte) :
    (tc.setTimeHex k' v 0x0F).getTimeHex k 0x0F =
      if k' = k then v &&& 0x0F else tc.getTimeHex k 0x0F := by
  split
  · rename_i heq
    rw [heq, getTimeHex_setTimeHex_self]
  · rename_i hne
    exact tc.getTimeHex_setTimeHex hne v _

/-- A group behind a group that is set. -/
lemma getGroupHex_setGroupHex_eq (k' : Fin 8) (v : UByte) :
    (tc.setGroupHex k' v 0x0F).getGroupHex k 0x0F =
      if k' = k then v &&& 0x0F else tc.getGroupHex k 0x0F := by
  split
  · rename_i heq
    rw [heq, getGroupHex_setGroupHex_self]
  · rename_i hne
    exact tc.getGroupHex_setGroupHex hne v _

lemma getTimeHex_setGroupHex (k' : Fin 8) (v mask mask' : UByte) :
    (tc.setGroupHex k' v mask').getTimeHex k mask = tc.getTimeHex k mask := rfl

/-- The digits taken are the lower halves of the data bytes. -/
lemma getTimeHex_takeData :
    (takeData tc tcData).getTimeHex k 0x0F = tcData.getD k 0 &&& 0x0F := by
  fin_cases k <;>
    simp (disch := decide) only [takeData, getTimeHex_setGroupHex, getTimeHex_setTimeHex_eq,
      if_neg] <;> rfl

/-- The binary groups taken are the upper halves of the data bytes. -/
lemma getGroupHex_takeData :
    (takeData tc tcData).getGroupHex k 0x0F = (tcData.getD k 0 >>> 4) &&& 0x0F := by
  fin_cases k <;>
    simp (disch := decide) only [takeData, getGroupHex_setGroupHex_eq, if_neg] <;> rfl

end Data

namespace AJAAncillaryData_Timecode_VITC

variable (vitc : AJAAncillaryData_Timecode_VITC) (k : Fin 8)

/-- The halves of a data byte. -/
lemma groupData_halves :
    vitc.groupData k &&& 0x0F = vitc.toAJAAncillaryData_Timecode.getTimeHex k 0x0F ∧
      (vitc.groupData k >>> 4) &&& 0x0F =
        vitc.toAJAAncillaryData_Timecode.getGroupHex k 0x0F := by
  have hhalves : ∀ digit group : UByte,
      (((group &&& 0x0F) <<< 4) + (digit &&& 0x0F)) &&& 0x0F = digit &&& 0x0F ∧
        ((((group &&& 0x0F) <<< 4) + (digit &&& 0x0F)) >>> 4) &&& 0x0F = group &&& 0x0F := by
    intro digit group
    have hdisjoint : ((group &&& 0x0F) <<< 4) &&& (digit &&& 0x0F) = 0 := by
      refine BitVec.eq_of_getLsbD_eq fun i hi => ?_
      interval_cases i <;> simp
    rw [BitVec.add_eq_or_of_and_eq_zero _ _ hdisjoint]
    constructor <;> refine BitVec.eq_of_getLsbD_eq fun i hi => ?_ <;> interval_cases i <;> simp
  exact hhalves _ _

/-- What a receiver gets of a packet: it is valid, and digits, groups and type are the same. -/
structure SameData (tx rx : AJAAncillaryData_Timecode_VITC) : Prop where
  valid : rx.m_rcvDataValid = true
  digits : ∀ k, rx.toAJAAncillaryData_Timecode.getTimeHex k 0x0F =
    tx.toAJAAncillaryData_Timecode.getTimeHex k 0x0F
  groups : ∀ k, rx.toAJAAncillaryData_Timecode.getGroupHex k 0x0F =
    tx.toAJAAncillaryData_Timecode.getGroupHex k 0x0F
  type : rx.m_vitcType = tx.m_vitcType

/-- **Digits, groups and type** come back from a payload, whatever the receiver had before. -/
theorem payload_roundTrip (tx rx : AJAAncillaryData_Timecode_VITC)
    (hty : tx.m_vitcType ≠ AJAAncillaryData_Timecode_VITC_Type_Unknown) :
    tx.GeneratePayloadData.1 = AJA_STATUS_SUCCESS ∧
    tx.GeneratePayloadData.2.m_payload.length = AJAAncillaryData_VITC_PayloadSize ∧
    ∃ rx' : AJAAncillaryData_Timecode_VITC,
      ParsePayloadData { rx with m_payload := tx.GeneratePayloadData.2.m_payload } =
        some (AJA_STATUS_SUCCESS, rx') ∧ SameData tx rx' := by
  have hlen : tx.GeneratePayloadData.2.m_payload.length = AJAAncillaryData_VITC_PayloadSize :=
    length_encodeLine _ (List.length_replicate ..)
  refine ⟨rfl, hlen, ?_⟩
  set sent : AJAAncillaryData_Timecode_VITC :=
    { tx with
      m_DID := AJAAncillaryData_VITC_DID
      m_SID := AJAAncillaryData_VITC_SID
      m_payload := List.replicate AJAAncillaryData_VITC_PayloadSize 0 } with hsent
  have hget : ∀ k : Fin 8, (sent.allData ++ [sent.crcGroup]).getD k 0 = tx.groupData k := by
    intro k
    fin_cases k <;> rfl
  refine ⟨{ rx with
    m_payload := tx.GeneratePayloadData.2.m_payload
    toAJAAncillaryData_Timecode := takeData rx.toAJAAncillaryData_Timecode
      (sent.allData ++ [sent.crcGroup])
    m_vitcType := tx.m_vitcType
    m_rcvDataValid := true }, ?_, rfl, fun k => ?_, fun k => ?_, rfl⟩
  · have hdecode := sent.decodeLine_encodeLine
      { rx with m_payload := tx.GeneratePayloadData.2.m_payload } (List.length_replicate ..) hty
    rw [ParsePayloadData, if_neg (by rw [AJAAncillaryData.GetDC, hlen]; exact lt_irrefl _)]
    exact congrArg _ hdecode
  · rw [getTimeHex_takeData, hget, (tx.groupData_halves k).1]
  · rw [getGroupHex_takeData, hget, (tx.groupData_halves k).2]

/-- Film data come back from a payload. -/
theorem payload_roundTrip_film :
    filmPacket.m_vitcType ≠ AJAAncillaryData_Timecode_VITC_Type_Unknown ∧
    ∃ rx' : AJAAncillaryData_Timecode_VITC,
      ParsePayloadData { filmPacket with
        m_payload := filmPacket.GeneratePayloadData.2.m_payload } =
          some (AJA_STATUS_SUCCESS, rx') ∧ SameData filmPacket rx' :=
  ⟨by decide, (payload_roundTrip filmPacket filmPacket (by decide)).2.2⟩

end AJAAncillaryData_Timecode_VITC

end LibAjaNtv2
