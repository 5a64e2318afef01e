import LibAjaNtv2.Buffer.Ranges

/-!
Segmented transfers between buffers (`ntv2publicinterface.cpp`, `ntv2publicinterface.h`).

* `NTV2SegmentedXferInfo`: the description of a transfer and its queries;
* `NTV2Buffer.copyFromSegments`: the transfer;
* `srcElement`, `dstElement`: where the segments begin, over the integers, and `Inside`: all of
  them lie inside the buffers;
* `copiesSegments_iff`: **what the transfer does is described** exactly when the checks in signed
  32-bit arithmetic see what they are for;
* `containsReads_iff`, `endsAtLast_iff`: the queries are right of transfers that do not go
  upwards, and of those whose segments do not move;
* `segmentedXfer_iff`: all of these together.
-/

namespace LibAjaNtv2

abbrev LWord := BitVec 32

/-! ### The description -/

/-- `NTV2SegmentedXferInfo`. -/
structure NTV2SegmentedXferInfo where
  mFlags : ULWord
  mNumSegments : ULWord
  mElementsPerSegment : ULWord
  mInitialSrcOffset : ULWord
  mInitialDstOffset : ULWord
  mSrcElementsPerRow : ULWord
  mDstElementsPerRow : ULWord
  deriving DecidableEq, Repr

namespace NTV2SegmentedXferInfo

variable (info : NTV2SegmentedXferInfo)

/-- `getSegmentCount`. -/
def getSegmentCount : ULWord := info.mNumSegments

/-- `getSegmentLength`. -/
def getSegmentLength : ULWord := info.mElementsPerSegment

/-- `getSourceOffset`. -/
def getSourceOffset : ULWord := info.mInitialSrcOffset

/-- `getDestOffset`. -/
def getDestOffset : ULWord := info.mInitialDstOffset

/-- `getSourcePitch`. -/
def getSourcePitch : ULWord := info.mSrcElementsPerRow

/-- `getDestPitch`. -/
def getDestPitch : ULWord := info.mDstElementsPerRow

/-- `isValid`. -/
def isValid : Bool := info.getSegmentCount ≠ 0 ∧ info.getSegmentLength ≠ 0

/-- `getElementLength`. -/
def getElementLength : ULWord := 1 <<< (info.mFlags &&& 3).toNat

/-- `isSourceBottomUp`. -/
def isSourceBottomUp : Bool := info.mFlags.getLsbD 8

/-- `isDestBottomUp`. -/
def isDestBottomUp : Bool := info.mFlags.getLsbD 9

/-- `getSourceEndOffset`. -/
def getSourceEndOffset : ULWord :=
  info.getSourceOffset + info.getSourcePitch * info.getSegmentCount + info.getSegmentLength

/-- The loop of `containsElementAtOffset`, from a segment on. -/
def containsLoop (inElementOffset : ULWord) : ℕ → ULWord → Bool
  | 0, _ => false
  | segs + 1, offset =>
      if inElementOffset < offset then false
      else if inElementOffset < offset + info.getSegmentLength then true
      else containsLoop inElementOffset segs (offset + info.getSourcePitch)

/-- `containsElementAtOffset`. -/
def containsElementAtOffset (inElementOffset : ULWord) : Bool :=
  if info.isValid = false then false
  else if info.getSegmentCount = 1 then
    if info.getSourceOffset ≤ inElementOffset then
      if inElementOffset < info.getSourceOffset + info.getSegmentLength then true else false
    else false
  else info.containsLoop inElementOffset info.getSegmentCount.toNat info.getSourceOffset

end NTV2SegmentedXferInfo

/-! ### The transfer -/

namespace NTV2Buffer

/-- The loop of `CopyFrom`, from a segment on. -/
def segmentsLoop (self inSrcBuffer : NTV2Buffer) (srcPitch dstPitch bytesPerSeg : LWord) :
    ℕ → LWord → LWord → Block Byte → Option (Bool × Block Byte)
  | 0, _, _, me => some (true, me)
  | segs + 1, srcOffset, dstOffset, me =>
      match inSrcBuffer.getHostAddress srcOffset, self.getHostAddress dstOffset with
      | some pSrc, some pDst =>
          if inSrcBuffer.fByteCount.toInt < (srcOffset + bytesPerSeg).toInt then some (false, me)
          else if self.fByteCount.toInt < (dstOffset + bytesPerSeg).toInt then some (false, me)
          else do
            -- a negative number of bytes is a huge `size_t`
            let me ← me.memcpy pDst.toNat inSrcBuffer.bytes pSrc.toNat
              (bytesPerSeg.signExtend 64).toNat
            segmentsLoop self inSrcBuffer srcPitch dstPitch bytesPerSeg segs
              (srcOffset + srcPitch) (dstOffset + dstPitch) me
      | _, _ => some (false, me)

/-- `CopyFrom`, of the segments that a description names. -/
def copyFromSegments (self inSrcBuffer : NTV2Buffer) (inXferInfo : NTV2SegmentedXferInfo) :
    Option (Bool × Block Byte) :=
  if !inXferInfo.isValid || inSrcBuffer.isNULL || self.isNULL then some (false, self.block)
  else
    let srcOffset : LWord := inXferInfo.getSourceOffset * inXferInfo.getElementLength
    let dstOffset : LWord := inXferInfo.getDestOffset * inXferInfo.getElementLength
    let srcPitch : LWord := inXferInfo.getSourcePitch * inXferInfo.getElementLength
    let dstPitch : LWord := inXferInfo.getDestPitch * inXferInfo.getElementLength
    let bytesPerSeg : LWord := inXferInfo.getSegmentLength * inXferInfo.getElementLength
    let srcPitch := if inXferInfo.isSourceBottomUp then 0 - srcPitch else srcPitch
    let dstPitch := if inXferInfo.isDestBottomUp then 0 - dstPitch else dstPitch
    segmentsLoop self inSrcBuffer srcPitch dstPitch bytesPerSeg
      inXferInfo.getSegmentCount.toNat srcOffset dstOffset self.block

end NTV2Buffer

/-! ### What the description says -/

namespace NTV2SegmentedXferInfo

variable (info : NTV2SegmentedXferInfo)

/-- How far a segment begins from the one before. -/
def step (bottomUp : Bool) (pitch : ULWord) : ℤ :=
  if bottomUp then -(pitch.toNat : ℤ) else pitch.toNat

/-- The element where a segment begins. -/
def elementOf (offset : ULWord) (bottomUp : Bool) (pitch : ULWord) (seg : ℕ) : ℤ :=
  offset.toNat + seg * step bottomUp pitch

/-- The element where a source segment begins. -/
def srcElement (seg : ℕ) : ℤ :=
  elementOf info.getSourceOffset info.isSourceBottomUp info.getSourcePitch seg

/-- The element where a destination segment begins. -/
def dstElement (seg : ℕ) : ℤ :=
  elementOf info.getDestOffset info.isDestBottomUp info.getDestPitch seg

/-- The byte where a source segment begins. -/
def srcByte (seg : ℕ) : ℤ := info.srcElement seg * info.getElementLength.toNat

/-- The byte where a destination segment begins. -/
def dstByte (seg : ℕ) : ℤ := info.dstElement seg * info.getElementLength.toNat

/-- The bytes of a segment. -/
def segmentBytes : ℕ := info.getSegmentLength.toNat * info.getElementLength.toNat

/-- A range of bytes lies in a buffer. -/
def RangeInside (start : ℤ) (count size : ℕ) : Prop := 0 ≤ start ∧ start + count ≤ size

instance (start : ℤ) (count size : ℕ) : Decidable (RangeInside start count size) :=
  inferInstanceAs (Decidable (_ ∧ _))

/-- The description is valid and all source segments lie in a buffer of this size. -/
def SourceInside (srcSize : ℕ) : Prop :=
  info.isValid = true ∧ ∀ seg < info.getSegmentCount.toNat,
    RangeInside (info.srcByte seg) info.segmentBytes srcSize

/-- So do all destination segments in theirs. -/
def Inside (srcSize dstSize : ℕ) : Prop :=
  info.SourceInside srcSize ∧ ∀ seg < info.getSegmentCount.toNat,
    RangeInside (info.dstByte seg) info.segmentBytes dstSize

/-- A destination segment has a byte. -/
def Covers (seg x : ℕ) : Prop :=
  info.dstByte seg ≤ x ∧ (x : ℤ) < info.dstByte seg + info.segmentBytes

/-- A source segment has an element. -/
def Reads (x : ℤ) : Prop :=
  ∃ seg < info.getSegmentCount.toNat,
    info.srcElement seg ≤ x ∧ x < info.srcElement seg + info.getSegmentLength.toNat

end NTV2SegmentedXferInfo

/-! ### One segment after the other -/

namespace NTV2Buffer

/-- The move of one segment. -/
def segmentMove (bytesPerSeg srcOffset dstOffset : LWord) : Move Byte :=
  .copy dstOffset.toNat srcOffset.toNat (bytesPerSeg.signExtend 64).toNat

/-- The checks of the loop accept a segment. -/
def SegmentAccepted (self inSrcBuffer : NTV2Buffer) (bytesPerSeg srcOffset dstOffset : LWord) :
    Prop :=
  srcOffset.toNat < inSrcBuffer.bytes.length ∧ dstOffset.toNat < self.bytes.length ∧
    (srcOffset + bytesPerSeg).toInt ≤ inSrcBuffer.fByteCount.toInt ∧
    (dstOffset + bytesPerSeg).toInt ≤ self.fByteCount.toInt

instance (self inSrcBuffer : NTV2Buffer) (bytesPerSeg srcOffset dstOffset : LWord) :
    Decidable (SegmentAccepted self inSrcBuffer bytesPerSeg srcOffset dstOffset) :=
  inferInstanceAs (Decidable (_ ∧ _))

/-- The bytes that a segment touches are bytes of the buffers. -/
def SegmentFits (self inSrcBuffer : NTV2Buffer) (bytesPerSeg srcOffset dstOffset : LWord) : Prop :=
  (segmentMove bytesPerSeg srcOffset dstOffset).Inside inSrcBuffer.bytes.length self.bytes.length

variable {self inSrcBuffer : NTV2Buffer} {srcPitch dstPitch bytesPerSeg : LWord}
  {me out : Block Byte} {n : ℕ}

lemma getHostAddress_eq (self : NTV2Buffer) (inByteOffset : ULWord) :
    self.getHostAddress inByteOffset =
      if inByteOffset.toNat < self.bytes.length then some inByteOffset else none := by
  rw [getHostAddress]
  by_cases hnull : self.isNULL = true
  · rw [if_pos hnull, if_neg]
    rw [isNULL_iff] at hnull
    omega
  · rw [if_neg hnull]
    by_cases hin : inByteOffset.toNat < self.bytes.length
    · rw [if_neg (by rw [BitVec.le_def, toNat_fByteCount]; omega), if_pos hin]
    · rw [if_pos (by rw [BitVec.le_def, toNat_fByteCount]; omega), if_neg hin]

/-- **One round of the loop.** -/
lemma segmentsLoop_succ (srcOffset dstOffset : LWord) :
    segmentsLoop self inSrcBuffer srcPitch dstPitch bytesPerSeg (n + 1) srcOffset dstOffset me =
      if SegmentAccepted self inSrcBuffer bytesPerSeg srcOffset dstOffset then
        (me.move inSrcBuffer.bytes (segmentMove bytesPerSeg srcOffset dstOffset)).bind
          (segmentsLoop self inSrcBuffer srcPitch dstPitch bytesPerSeg n (srcOffset + srcPitch)
            (dstOffset + dstPitch))
      else some (false, me) := by
  rw [segmentsLoop, getHostAddress_eq, getHostAddress_eq]
  by_cases haccepted : SegmentAccepted self inSrcBuffer bytesPerSeg srcOffset dstOffset
  · have ⟨hsrc, hdst, hsrcEnd, hdstEnd⟩ := haccepted
    rw [if_pos haccepted, if_pos hsrc, if_pos hdst]
    dsimp only
    rw [if_neg (not_lt.mpr hsrcEnd), if_neg (not_lt.mpr hdstEnd)]
    rfl
  · rw [if_neg haccepted]
    by_cases hsrc : srcOffset.toNat < inSrcBuffer.bytes.length
    · by_cases hdst : dstOffset.toNat < self.bytes.length
      · rw [if_pos hsrc, if_pos hdst]
        dsimp only
        by_cases hsrcEnd : (srcOffset + bytesPerSeg).toInt ≤ inSrcBuffer.fByteCount.toInt
        · by_cases hdstEnd : (dstOffset + bytesPerSeg).toInt ≤ self.fByteCount.toInt
          · exact absurd ⟨hsrc, hdst, hsrcEnd, hdstEnd⟩ haccepted
          · rw [if_neg (not_lt.mpr hsrcEnd), if_pos (not_le.mp hdstEnd)]
        · rw [if_pos (not_le.mp hsrcEnd)]
      · rw [if_pos hsrc, if_neg hdst]
    · rw [if_neg hsrc]

section Loop

variable {srcAt dstAt : ℕ → LWord}

/-- **The loop returns true** when it accepts every segment, and then it has run their moves. -/
lemma segmentsLoop_true_iff (hsrc : ∀ i, srcAt (i + 1) = srcAt i + srcPitch)
    (hdst : ∀ i, dstAt (i + 1) = dstAt i + dstPitch) :
    segmentsLoop self inSrcBuffer srcPitch dstPitch bytesPerSeg n (srcAt 0) (dstAt 0) me =
        some (true, out) ↔
      (∀ i < n, SegmentAccepted self inSrcBuffer bytesPerSeg (srcAt i) (dstAt i)) ∧
        Block.run inSrcBuffer.bytes
          ((List.range n).map fun i => segmentMove bytesPerSeg (srcAt i) (dstAt i)) me =
            some out := by
  induction n generalizing srcAt dstAt me with
  | zero => simp [segmentsLoop]
  | succ n ih =>
      have hrest : ∀ mid, _ := fun mid => @ih mid (fun i => srcAt (i + 1))
        (fun i => dstAt (i + 1)) (fun i => hsrc (i + 1)) fun i => hdst (i + 1)
      rw [segmentsLoop_succ, List.range_succ_eq_map, List.map_cons, List.map_map, Block.run,
        ← hsrc, ← hdst]
      by_cases haccepted : SegmentAccepted self inSrcBuffer bytesPerSeg (srcAt 0) (dstAt 0)
      · rw [if_pos haccepted]
        cases hmid : me.move inSrcBuffer.bytes (segmentMove bytesPerSeg (srcAt 0) (dstAt 0)) with
        | none => simp
        | some mid =>
            rw [Option.bind_some, Option.bind_some]
            refine (hrest mid).trans (and_congr_left fun _ => ⟨fun h i hi => ?_, fun h i hi =>
              h (i + 1) (by omega)⟩)
            cases i with
            | zero => exact haccepted
            | succ i => exact h i (by omega)
      · rw [if_neg haccepted]
        refine iff_of_false (fun h => ?_) fun h => haccepted (h.1 0 (Nat.zero_lt_succ n))
        cases h

/-- **The loop returns false** when it rejects a segment and the ones before fit the buffers. -/
lemma segmentsLoop_false_iff (hsrc : ∀ i, srcAt (i + 1) = srcAt i + srcPitch)
    (hdst : ∀ i, dstAt (i + 1) = dstAt i + dstPitch)
    (hlength : me.cells.length = self.bytes.length) :
    (∃ out, segmentsLoop self inSrcBuffer srcPitch dstPitch bytesPerSeg n (srcAt 0) (dstAt 0) me =
        some (false, out)) ↔
      ∃ r < n, ¬ SegmentAccepted self inSrcBuffer bytesPerSeg (srcAt r) (dstAt r) ∧
        ∀ i < r, SegmentAccepted self inSrcBuffer bytesPerSeg (srcAt i) (dstAt i) ∧
          SegmentFits self inSrcBuffer bytesPerSeg (srcAt i) (dstAt i) := by
  induction n generalizing srcAt dstAt me with
  | zero => simp [segmentsLoop]
  | succ n ih =>
      have hrest : ∀ mid, _ := fun mid => @ih mid (fun i => srcAt (i + 1))
        (fun i => dstAt (i + 1)) (fun i => hsrc (i + 1)) fun i => hdst (i + 1)
      rw [segmentsLoop_succ, ← hsrc, ← hdst]
      by_cases haccepted : SegmentAccepted self inSrcBuffer bytesPerSeg (srcAt 0) (dstAt 0)
      · rw [if_pos haccepted]
        by_cases hfits : SegmentFits self inSrcBuffer bytesPerSeg (srcAt 0) (dstAt 0)
        · have hmid := Block.move_eq_some_iff.mpr (And.intro (hlength.symm ▸ hfits) (Eq.refl
            (Block.mk (me.cells.take (segmentMove bytesPerSeg (srcAt 0) (dstAt 0)).dst ++
              (segmentMove bytesPerSeg (srcAt 0) (dstAt 0)).data inSrcBuffer.bytes ++
              me.cells.drop ((segmentMove bytesPerSeg (srcAt 0) (dstAt 0)).dst +
                (segmentMove bytesPerSeg (srcAt 0) (dstAt 0)).len))
              (((segmentMove bytesPerSeg (srcAt 0) (dstAt 0)).dst,
                (segmentMove bytesPerSeg (srcAt 0) (dstAt 0)).len) :: me.written))))
          rw [hmid, Option.bind_some]
          refine (hrest _ (by rw [Block.length_move hmid, hlength])).trans ⟨?_, ?_⟩
          · rintro ⟨r, hr, hrejected, hbefore⟩
            refine ⟨r + 1, by omega, hrejected, fun i hi => ?_⟩
            cases i with
            | zero => exact ⟨haccepted, hfits⟩
            | succ i => exact hbefore i (by omega)
          · rintro ⟨r, hr, hrejected, hbefore⟩
            cases r with
            | zero => exact absurd haccepted hrejected
            | succ r =>
                exact ⟨r, by omega, hrejected, fun i hi => hbefore (i + 1) (by omega)⟩
        · have hnone : me.move inSrcBuffer.bytes (segmentMove bytesPerSeg (srcAt 0) (dstAt 0)) =
              none := if_neg fun h => hfits (by rw [SegmentFits, ← hlength]; exact h)
          rw [hnone]
          refine iff_of_false (fun ⟨out, h⟩ => by cases h) ?_
          rintro ⟨r, hr, hrejected, hbefore⟩
          cases r with
          | zero => exact hrejected haccepted
          | succ r => exact hfits (hbefore 0 (Nat.zero_lt_succ r)).2
      · rw [if_neg haccepted]
        exact iff_of_true ⟨me, rfl⟩ ⟨0, Nat.zero_lt_succ n, haccepted, fun i hi =>
          absurd hi (Nat.not_lt_zero i)⟩

end Loop

/-! ### The offsets -/

section Offsets

open NTV2SegmentedXferInfo

/-- The first offset of the loop. -/
lemma ofInt_elementOf_zero (offset pitch elementLength : ULWord) (bottomUp : Bool) :
    BitVec.ofInt 32 (elementOf offset bottomUp pitch 0 * elementLength.toNat) =
      offset * elementLength := by
  have hzero : elementOf offset bottomUp pitch 0 * (elementLength.toNat : ℤ) =
      ((offset.toNat * elementLength.toNat : ℕ) : ℤ) := by
    rw [elementOf]
    push_cast
    ring
  rw [hzero, BitVec.ofInt_natCast, BitVec.ofNat_mul, BitVec.ofNat_toNat, BitVec.ofNat_toNat,
    BitVec.setWidth_eq, BitVec.setWidth_eq]

/-- The next offset of the loop. -/
lemma ofInt_elementOf_succ (offset pitch elementLength : ULWord) (bottomUp : Bool) (seg : ℕ) :
    BitVec.ofInt 32 (elementOf offset bottomUp pitch (seg + 1) * elementLength.toNat) =
      BitVec.ofInt 32 (elementOf offset bottomUp pitch seg * elementLength.toNat) +
        if bottomUp then 0 - pitch * elementLength else pitch * elementLength := by
  have hpitch : BitVec.ofInt 32 ((pitch.toNat * elementLength.toNat : ℕ) : ℤ) =
      pitch * elementLength := by
    rw [BitVec.ofInt_natCast, BitVec.ofNat_mul, BitVec.ofNat_toNat, BitVec.ofNat_toNat,
      BitVec.setWidth_eq, BitVec.setWidth_eq]
  cases bottomUp with
  | true =>
      have hnext : elementOf offset true pitch (seg + 1) * (elementLength.toNat : ℤ) =
          elementOf offset true pitch seg * elementLength.toNat +
            -((pitch.toNat * elementLength.toNat : ℕ) : ℤ) := by
        simp only [elementOf, step, if_true]
        push_cast
        ring
      have hneg : 0 - pitch * elementLength = -(pitch * elementLength) := BitVec.zero_sub _
      rw [hnext, BitVec.ofInt_add, BitVec.ofInt_neg, hpitch, if_pos rfl, hneg]
  | false =>
      have hnext : elementOf offset false pitch (seg + 1) * (elementLength.toNat : ℤ) =
          elementOf offset false pitch seg * elementLength.toNat +
            ((pitch.toNat * elementLength.toNat : ℕ) : ℤ) := by
        simp only [elementOf, step]
        push_cast
        ring
      rw [hnext, BitVec.ofInt_add, hpitch]
      rfl

/-- **One segment in one buffer**, where it lies inside: the checks accept it and its range fits,
exactly when its size is below 2 GiB and its end on the same side of 2 GiB as that of the buffer,
or past it. -/
lemma accepted_fits_iff {start : ℤ} {count : ℕ} {size bytesPerSeg : ULWord}
    (hinside : RangeInside start count size.toNat) (hpos : 0 < count)
    (hbytes : bytesPerSeg = BitVec.ofNat 32 count) :
    ((BitVec.ofInt 32 start).toNat < size.toNat ∧
        (BitVec.ofInt 32 start + bytesPerSeg).toInt ≤ size.toInt ∧
        (BitVec.ofInt 32 start).toNat + (bytesPerSeg.signExtend 64).toNat ≤ size.toNat) ↔
      count < 2 ^ 31 ∧ (size.toNat < 2 ^ 31 ∨ 2 ^ 31 ≤ start + count) := by
  obtain ⟨hlow, hhigh⟩ := hinside
  have hsize := size.isLt
  have hstart : (BitVec.ofInt 32 start).toNat = start.toNat := by
    rw [BitVec.toNat_ofInt]
    omega
  have hcount : bytesPerSeg.toNat = count := by
    rw [hbytes, BitVec.toNat_ofNat, Nat.mod_eq_of_lt (by omega)]
  have hend : (BitVec.ofInt 32 start + bytesPerSeg).toNat = start.toNat + count := by
    rw [BitVec.toNat_add, hstart, hcount, Nat.mod_eq_of_lt (by omega)]
  have hsigned : (bytesPerSeg.signExtend 64).toNat =
      if count < 2 ^ 31 then count else count + (2 ^ 64 - 2 ^ 32) := by
    rw [BitVec.toNat_signExtend, BitVec.toNat_setWidth, hcount, BitVec.msb_eq_decide, hcount,
      Nat.mod_eq_of_lt (by omega)]
    split_ifs with hneg hsmall hsmall
    · exact absurd hneg (by simp only [decide_eq_true_eq]; omega)
    · rfl
    · rfl
    · exact absurd (by simp only [decide_eq_true_eq]; omega) hneg
  rw [BitVec.toInt_eq_toNat_cond, BitVec.toInt_eq_toNat_cond, hstart, hend, hsigned]
  split_ifs <;> omega

end Offsets

/-! ### The transfer as a whole -/

section Transfer

variable (self inSrcBuffer) (info : NTV2SegmentedXferInfo)

/-- The checks of the loop accept a segment of the description. -/
def AcceptedAt (seg : ℕ) : Prop :=
  SegmentAccepted self inSrcBuffer (BitVec.ofNat 32 info.segmentBytes)
    (BitVec.ofInt 32 (info.srcByte seg)) (BitVec.ofInt 32 (info.dstByte seg))

/-- The bytes that the loop copies for a segment of the description are bytes of the buffers. -/
def FitsAt (seg : ℕ) : Prop :=
  SegmentFits self inSrcBuffer (BitVec.ofNat 32 info.segmentBytes)
    (BitVec.ofInt 32 (info.srcByte seg)) (BitVec.ofInt 32 (info.dstByte seg))

/-- `CopyFrom` touches only bytes of the buffers, returns true exactly when all segments lie inside
them, and has then copied each segment, a later one over an earlier one, and nothing else. -/
def CopiesSegments : Prop :=
  ∃ returned after, self.copyFromSegments inSrcBuffer info = some (returned, after) ∧
    (returned = true ↔ info.Inside inSrcBuffer.bytes.length self.bytes.length) ∧
    (returned = true →
      (∀ seg < info.getSegmentCount.toNat, ∀ x, info.Covers seg x →
        (∀ later, seg < later → later < info.getSegmentCount.toNat → ¬ info.Covers later x) →
          after.cells[x]? =
            inSrcBuffer.bytes[(info.srcByte seg).toNat + (x - (info.dstByte seg).toNat)]?) ∧
      ∀ x, (∀ seg < info.getSegmentCount.toNat, ¬ info.Covers seg x) →
        after.cells[x]? = self.bytes[x]?)

/-- What it takes for the signed 32-bit checks: where all segments lie inside the buffers, they are
smaller than 2 GiB and none of them ends before 2 GiB in a buffer of 2 GiB or more; and otherwise a
segment is rejected before one leaves the buffers. -/
def ChecksSee : Prop :=
  (info.Inside inSrcBuffer.bytes.length self.bytes.length → info.segmentBytes < 2 ^ 31 ∧
    ∀ seg < info.getSegmentCount.toNat,
      (inSrcBuffer.bytes.length < 2 ^ 31 ∨ 2 ^ 31 ≤ info.srcByte seg + info.segmentBytes) ∧
        (self.bytes.length < 2 ^ 31 ∨ 2 ^ 31 ≤ info.dstByte seg + info.segmentBytes)) ∧
  (info.isValid = true → ¬ info.Inside inSrcBuffer.bytes.length self.bytes.length →
    ∃ r < info.getSegmentCount.toNat, ¬ AcceptedAt self inSrcBuffer info r ∧
      ∀ seg < r, AcceptedAt self inSrcBuffer info seg ∧ FitsAt self inSrcBuffer info seg)

variable {self inSrcBuffer info}

/-- A valid transfer between buffers that are not empty is its loop. -/
lemma copyFromSegments_eq (hvalid : info.isValid = true) (hsrc : inSrcBuffer.isNULL = false)
    (hself : self.isNULL = false) :
    ∃ srcPitch dstPitch : LWord, self.copyFromSegments inSrcBuffer info =
        segmentsLoop self inSrcBuffer srcPitch dstPitch (BitVec.ofNat 32 info.segmentBytes)
          info.getSegmentCount.toNat (BitVec.ofInt 32 (info.srcByte 0))
          (BitVec.ofInt 32 (info.dstByte 0)) self.block ∧
      (∀ i, BitVec.ofInt 32 (info.srcByte (i + 1)) =
        BitVec.ofInt 32 (info.srcByte i) + srcPitch) ∧
      ∀ i, BitVec.ofInt 32 (info.dstByte (i + 1)) = BitVec.ofInt 32 (info.dstByte i) + dstPitch := by
  refine ⟨_, _, ?_, ofInt_elementOf_succ _ _ _ _, ofInt_elementOf_succ _ _ _ _⟩
  have hbytes : info.getSegmentLength * info.getElementLength =
      BitVec.ofNat 32 info.segmentBytes := by
    rw [NTV2SegmentedXferInfo.segmentBytes, BitVec.ofNat_mul, BitVec.ofNat_toNat,
      BitVec.ofNat_toNat, BitVec.setWidth_eq, BitVec.setWidth_eq]
  rw [copyFromSegments, if_neg (by simp [hvalid, hsrc, hself]), NTV2SegmentedXferInfo.srcByte,
    NTV2SegmentedXferInfo.dstByte, NTV2SegmentedXferInfo.srcElement,
    NTV2SegmentedXferInfo.dstElement, ofInt_elementOf_zero, ofInt_elementOf_zero, ← hbytes]

/-- A valid description has a segment, and it is not empty. -/
lemma segmentBytes_pos (hvalid : info.isValid = true) :
    0 < info.segmentBytes ∧ 0 < info.getSegmentCount.toNat := by
  have hpositive : ∀ x : ULWord, x ≠ 0 → 0 < x.toNat := fun x hx =>
    Nat.pos_of_ne_zero fun h => hx (BitVec.eq_of_toNat_eq h)
  simp only [NTV2SegmentedXferInfo.isValid, decide_eq_true_eq] at hvalid
  refine ⟨Nat.mul_pos (hpositive _ hvalid.2) ?_, hpositive _ hvalid.1⟩
  have hshift : ∀ k : ULWord, 0 < (1 <<< (k &&& 3).toNat : ULWord).toNat := by
    intro k
    have hk : (k &&& 3).toNat < 4 := by
      rw [show (3 : ULWord) = BitVec.ofNat 32 (2 ^ 2 - 1) from rfl, BitVec.toNat_and]
      exact lt_of_le_of_lt Nat.and_le_right (by decide)
    generalize (k &&& 3).toNat = e at hk
    interval_cases e <;> decide
  exact hshift info.mFlags

/-- No segment lies in an empty buffer. -/
lemma not_inside_of_isNULL (h : (inSrcBuffer.isNULL || self.isNULL) = true) :
    ¬ info.Inside inSrcBuffer.bytes.length self.bytes.length := by
  rintro ⟨⟨hvalid, hsrc⟩, hdst⟩
  obtain ⟨hbytes, hcount⟩ := segmentBytes_pos hvalid
  obtain ⟨hsrcLow, hsrcHigh⟩ := hsrc 0 hcount
  obtain ⟨hdstLow, hdstHigh⟩ := hdst 0 hcount
  rw [Bool.or_eq_true, isNULL_iff, isNULL_iff] at h
  omega

/-- The segments that lie inside are accepted, and fit, exactly when the sizes do not upset the
signed comparisons. -/
lemma accepted_fits_at_iff (h : info.Inside inSrcBuffer.bytes.length self.bytes.length) {seg : ℕ}
    (hseg : seg < info.getSegmentCount.toNat) :
    AcceptedAt self inSrcBuffer info seg ∧ FitsAt self inSrcBuffer info seg ↔
      info.segmentBytes < 2 ^ 31 ∧
      (inSrcBuffer.bytes.length < 2 ^ 31 ∨ 2 ^ 31 ≤ info.srcByte seg + info.segmentBytes) ∧
        (self.bytes.length < 2 ^ 31 ∨ 2 ^ 31 ≤ info.dstByte seg + info.segmentBytes) := by
  obtain ⟨⟨hvalid, hsrc⟩, hdst⟩ := h
  have hpos := (segmentBytes_pos hvalid).1
  have hsrcIff := @accepted_fits_iff _ _ inSrcBuffer.fByteCount _
    (by rw [toNat_fByteCount]; exact hsrc seg hseg) hpos rfl
  have hdstIff := @accepted_fits_iff _ _ self.fByteCount _
    (by rw [toNat_fByteCount]; exact hdst seg hseg) hpos rfl
  rw [toNat_fByteCount] at hsrcIff hdstIff
  have hsize := self.size_lt
  have hnonzero : ((BitVec.ofNat 32 info.segmentBytes).signExtend 64).toNat ≠ 0 := by
    have hlt : info.segmentBytes < 2 ^ 32 := by
      have hin := (hdst seg hseg).2
      have hlow := (hdst seg hseg).1
      omega
    rw [BitVec.toNat_signExtend, BitVec.toNat_setWidth, BitVec.toNat_ofNat, Nat.mod_eq_of_lt hlt,
      Nat.mod_eq_of_lt (by omega)]
    omega
  simp only [AcceptedAt, FitsAt, SegmentAccepted, SegmentFits, segmentMove, Move.Inside]
  constructor
  · rintro ⟨⟨hsrcStart, hdstStart, hsrcEnd, hdstEnd⟩, hfits⟩
    obtain ⟨hsrcFits, hdstFits⟩ := hfits.resolve_left hnonzero
    obtain ⟨hsmall, hsrcSize⟩ := hsrcIff.mp ⟨hsrcStart, hsrcEnd, hsrcFits⟩
    exact ⟨hsmall, hsrcSize, (hdstIff.mp ⟨hdstStart, hdstEnd, hdstFits⟩).2⟩
  · rintro ⟨hsmall, hsrcSize, hdstSize⟩
    obtain ⟨hsrcStart, hsrcEnd, hsrcFits⟩ := hsrcIff.mpr ⟨hsmall, hsrcSize⟩
    obtain ⟨hdstStart, hdstEnd, hdstFits⟩ := hdstIff.mpr ⟨hsmall, hdstSize⟩
    exact ⟨⟨hsrcStart, hdstStart, hsrcEnd, hdstEnd⟩, .inr ⟨hsrcFits, hdstFits⟩⟩

/-- The move of a segment that lies inside. -/
lemma segmentMove_eq (h : info.Inside inSrcBuffer.bytes.length self.bytes.length)
    (hsmall : info.segmentBytes < 2 ^ 31) {seg : ℕ} (hseg : seg < info.getSegmentCount.toNat) :
    segmentMove (BitVec.ofNat 32 info.segmentBytes) (BitVec.ofInt 32 (info.srcByte seg))
        (BitVec.ofInt 32 (info.dstByte seg)) =
      .copy (info.dstByte seg).toNat (info.srcByte seg).toNat info.segmentBytes := by
  obtain ⟨hsrcLow, hsrcHigh⟩ := h.1.2 seg hseg
  obtain ⟨hdstLow, hdstHigh⟩ := h.2 seg hseg
  have hsize := self.size_lt
  have hsrcSize := inSrcBuffer.size_lt
  have hoffset : ∀ z : ℤ, 0 ≤ z → z < 2 ^ 32 → (BitVec.ofInt 32 z).toNat = z.toNat := by
    intro z hlow hhigh
    rw [BitVec.toNat_ofInt]
    omega
  have hbytes : ((BitVec.ofNat 32 info.segmentBytes).signExtend 64).toNat = info.segmentBytes := by
    rw [BitVec.toNat_signExtend, BitVec.toNat_setWidth, BitVec.msb_eq_decide, BitVec.toNat_ofNat,
      Nat.mod_eq_of_lt (by omega : info.segmentBytes < 2 ^ 32), Nat.mod_eq_of_lt (by omega),
      if_neg (by simp only [decide_eq_true_eq]; omega), Nat.add_zero]
  rw [segmentMove, hoffset _ hsrcLow (by omega), hoffset _ hdstLow (by omega), hbytes]

/-- **What the moves of the segments leave** in the buffer, the last one over a byte. -/
lemma contents_of_run {out : Block Byte}
    (h : info.Inside inSrcBuffer.bytes.length self.bytes.length)
    (hsmall : info.segmentBytes < 2 ^ 31)
    (hrun : Block.run inSrcBuffer.bytes ((List.range info.getSegmentCount.toNat).map fun i =>
      segmentMove (BitVec.ofNat 32 info.segmentBytes) (BitVec.ofInt 32 (info.srcByte i))
        (BitVec.ofInt 32 (info.dstByte i))) self.block = some out) :
    (∀ seg < info.getSegmentCount.toNat, ∀ x, info.Covers seg x →
      (∀ later, seg < later → later < info.getSegmentCount.toNat → ¬ info.Covers later x) →
        out.cells[x]? =
          inSrcBuffer.bytes[(info.srcByte seg).toNat + (x - (info.dstByte seg).toNat)]?) ∧
    ∀ x, (∀ seg < info.getSegmentCount.toNat, ¬ info.Covers seg x) →
      out.cells[x]? = self.bytes[x]? := by
  have hcovers : ∀ seg < info.getSegmentCount.toNat, ∀ x, (segmentMove
      (BitVec.ofNat 32 info.segmentBytes) (BitVec.ofInt 32 (info.srcByte seg))
        (BitVec.ofInt 32 (info.dstByte seg))).Covers x ↔ info.Covers seg x := by
    intro seg hseg x
    have hlow := (h.2 seg hseg).1
    rw [segmentMove_eq h hsmall hseg]
    simp only [Move.Covers, Move.dst, Move.len, NTV2SegmentedXferInfo.Covers]
    omega
  refine ⟨fun seg hseg x hcov hlater => ?_, fun x hnone => ?_⟩
  · rw [Block.getElem?_run_last hrun hseg ((hcovers seg hseg x).mpr hcov) fun k hk hk' hcov' =>
      hlater k hk hk' ((hcovers k hk' x).mp hcov'), segmentMove_eq h hsmall hseg]
    rfl
  · refine Block.getElem?_run_of_untouched hrun fun m hm hcov => ?_
    obtain ⟨seg, hseg, rfl⟩ := List.mem_map.mp hm
    exact hnone seg (List.mem_range.mp hseg)
      ((hcovers seg (List.mem_range.mp hseg) x).mp hcov)

/-- **The transfer is as described** exactly when its signed 32-bit checks see what they should. -/
lemma copiesSegments_iff :
    CopiesSegments self inSrcBuffer info ↔ ChecksSee self inSrcBuffer info := by
  by_cases hvalid : info.isValid = true
  swap
  · have hnot : ¬ info.Inside inSrcBuffer.bytes.length self.bytes.length := fun h => hvalid h.1.1
    have hresult : self.copyFromSegments inSrcBuffer info = some (false, self.block) := by
      rw [copyFromSegments, if_pos (by simp [hvalid])]
    refine iff_of_true ⟨false, self.block, hresult, ?_, fun h => by cases h⟩
      ⟨fun h => absurd h hnot, fun h => absurd h hvalid⟩
    exact iff_of_false Bool.false_ne_true hnot
  by_cases hnull : (inSrcBuffer.isNULL || self.isNULL) = true
  · have hnot := @not_inside_of_isNULL _ _ info hnull
    have hresult : self.copyFromSegments inSrcBuffer info = some (false, self.block) := by
      rw [copyFromSegments, if_pos (by rw [Bool.or_assoc, hnull, Bool.or_true])]
    refine iff_of_true ⟨false, self.block, hresult, ?_, fun h => by cases h⟩
      ⟨fun h => absurd h hnot, fun _ _ => ⟨0, (segmentBytes_pos hvalid).2, ?_, fun seg hseg =>
        absurd hseg (Nat.not_lt_zero seg)⟩⟩
    · exact iff_of_false Bool.false_ne_true hnot
    · rintro ⟨hsrc, hdst, -⟩
      rw [Bool.or_eq_true, isNULL_iff, isNULL_iff] at hnull
      omega
  obtain ⟨hsrcNull, hselfNull⟩ := Bool.or_eq_false_iff.mp (Bool.eq_false_iff.mpr hnull)
  obtain ⟨srcPitch, dstPitch, hloop, hsrc, hdst⟩ := copyFromSegments_eq hvalid hsrcNull hselfNull
  have htrue := fun out => @segmentsLoop_true_iff self inSrcBuffer srcPitch dstPitch
    (BitVec.ofNat 32 info.segmentBytes) self.block out info.getSegmentCount.toNat
    (fun i => BitVec.ofInt 32 (info.srcByte i)) (fun i => BitVec.ofInt 32 (info.dstByte i))
    hsrc hdst
  have hfalse := @segmentsLoop_false_iff self inSrcBuffer srcPitch dstPitch
    (BitVec.ofNat 32 info.segmentBytes) self.block info.getSegmentCount.toNat
    (fun i => BitVec.ofInt 32 (info.srcByte i)) (fun i => BitVec.ofInt 32 (info.dstByte i))
    hsrc hdst rfl
  rw [← hloop] at htrue hfalse
  by_cases hinside : info.Inside inSrcBuffer.bytes.length self.bytes.length
  · have hsee : ChecksSee self inSrcBuffer info ↔ ∀ seg < info.getSegmentCount.toNat,
        AcceptedAt self inSrcBuffer info seg ∧ FitsAt self inSrcBuffer info seg := by
      constructor
      · rintro ⟨hsizes, -⟩ seg hseg
        obtain ⟨hsmall, hends⟩ := hsizes hinside
        exact (accepted_fits_at_iff hinside hseg).mpr ⟨hsmall, hends seg hseg⟩
      · intro hall
        have hfirst := (accepted_fits_at_iff hinside (segmentBytes_pos hvalid).2).mp
          (hall 0 (segmentBytes_pos hvalid).2)
        exact ⟨fun _ => ⟨hfirst.1, fun seg hseg =>
          ((accepted_fits_at_iff hinside hseg).mp (hall seg hseg)).2⟩,
          fun _ hnot => absurd hinside hnot⟩
    rw [hsee]
    constructor
    · rintro ⟨returned, after, hresult, hreturned, -⟩ seg hseg
      rw [hreturned.mpr hinside] at hresult
      obtain ⟨haccepted, hrun⟩ := (htrue after).mp hresult
      have hmem := List.mem_map_of_mem (f := fun i =>
        segmentMove (BitVec.ofNat 32 info.segmentBytes) (BitVec.ofInt 32 (info.srcByte i))
          (BitVec.ofInt 32 (info.dstByte i))) (List.mem_range.mpr hseg)
      exact ⟨haccepted seg hseg, Block.inside_of_run hrun _ hmem⟩
    · intro hall
      obtain ⟨out, hout⟩ := @Block.exists_run _ inSrcBuffer.bytes self.block
        ((List.range info.getSegmentCount.toNat).map fun i =>
          segmentMove (BitVec.ofNat 32 info.segmentBytes) (BitVec.ofInt 32 (info.srcByte i))
            (BitVec.ofInt 32 (info.dstByte i))) (by
          intro m hm
          obtain ⟨seg, hseg, rfl⟩ := List.mem_map.mp hm
          exact (hall seg (List.mem_range.mp hseg)).2)
      have hsmall := ((accepted_fits_at_iff hinside (segmentBytes_pos hvalid).2).mp
        (hall 0 (segmentBytes_pos hvalid).2)).1
      exact ⟨true, out, (htrue out).mpr ⟨fun seg hseg => (hall seg hseg).1, hout⟩,
        iff_of_true rfl hinside, fun _ => contents_of_run hinside hsmall hout⟩
  · have hsee : ChecksSee self inSrcBuffer info ↔ ∃ r < info.getSegmentCount.toNat,
        ¬ AcceptedAt self inSrcBuffer info r ∧
          ∀ seg < r, AcceptedAt self inSrcBuffer info seg ∧ FitsAt self inSrcBuffer info seg :=
      ⟨fun h => h.2 hvalid hinside, fun h => ⟨fun h' => absurd h' hinside, fun _ _ => h⟩⟩
    rw [hsee]
    refine Iff.trans ⟨?_, ?_⟩ hfalse
    · rintro ⟨returned, after, hresult, hreturned, -⟩
      have hreturnedFalse : returned = false :=
        Bool.eq_false_iff.mpr fun h => hinside (hreturned.mp h)
      exact ⟨after, hreturnedFalse ▸ hresult⟩
    · rintro ⟨out, hout⟩
      exact ⟨false, out, hout, iff_of_false Bool.false_ne_true hinside, fun h => by cases h⟩

end Transfer

end NTV2Buffer

/-! ### The queries -/

namespace NTV2SegmentedXferInfo

variable {info : NTV2SegmentedXferInfo} {srcSize : ℕ}

/-- `containsElementAtOffset` holds exactly of the elements that a transfer inside a source buffer
reads. -/
def ContainsReads (info : NTV2SegmentedXferInfo) (srcSize : ℕ) : Prop :=
  info.SourceInside srcSize → ∀ inElementOffset : ULWord,
    info.containsElementAtOffset inElementOffset = true ↔ info.Reads inElementOffset.toNat

/-- `getSourceEndOffset` is one past the largest of them. -/
def EndsAtLast (info : NTV2SegmentedXferInfo) (srcSize : ℕ) : Prop :=
  info.SourceInside srcSize →
    IsGreatest {x : ℤ | info.Reads x} ((info.getSourceEndOffset.toNat : ℤ) - 1)

/-- The elements of a segment inside a buffer are below 4 Gi. -/
lemma srcElement_inside (hsize : srcSize < 2 ^ 32) (h : info.SourceInside srcSize) {seg : ℕ}
    (hseg : seg < info.getSegmentCount.toNat) :
    0 ≤ info.srcElement seg ∧ info.srcElement seg + info.getSegmentLength.toNat < 2 ^ 32 := by
  obtain ⟨hlow, hhigh⟩ := h.2 seg hseg
  have hpos := (NTV2Buffer.segmentBytes_pos h.1).1
  rw [segmentBytes] at hpos
  have hlength : (1 : ℤ) ≤ info.getElementLength.toNat := by
    have hne := Nat.pos_of_mul_pos_left hpos
    omega
  rw [srcByte] at hlow hhigh
  rw [segmentBytes] at hhigh
  push_cast at hhigh
  have hnonneg : 0 ≤ info.srcElement seg := by
    by_contra hneg
    nlinarith
  refine ⟨hnonneg, ?_⟩
  nlinarith

/-- The loop of `containsElementAtOffset`, over segments that go down and do not wrap. -/
lemma containsLoop_iff {n : ℕ} {offset x : ULWord}
    (h : ∀ i < n, offset.toNat + i * info.getSourcePitch.toNat + info.getSegmentLength.toNat <
      2 ^ 32) :
    info.containsLoop x n offset = true ↔
      ∃ i < n, offset.toNat + i * info.getSourcePitch.toNat ≤ x.toNat ∧
        x.toNat < offset.toNat + i * info.getSourcePitch.toNat + info.getSegmentLength.toNat := by
  induction n generalizing offset with
  | zero => simp [containsLoop]
  | succ n ih =>
      have hfirst := h 0 (Nat.zero_lt_succ n)
      rw [Nat.zero_mul, Nat.add_zero] at hfirst
      have hend : (offset + info.getSegmentLength).toNat =
          offset.toNat + info.getSegmentLength.toNat := by
        rw [BitVec.toNat_add, Nat.mod_eq_of_lt hfirst]
      rw [containsLoop]
      simp only [BitVec.lt_def, hend]
      by_cases hbefore : x.toNat < offset.toNat
      · rw [if_pos hbefore]
        refine iff_of_false Bool.false_ne_true ?_
        rintro ⟨i, -, hlow, -⟩
        omega
      rw [if_neg hbefore]
      by_cases hin : x.toNat < offset.toNat + info.getSegmentLength.toNat
      · rw [if_pos hin]
        refine iff_of_true rfl ⟨0, Nat.zero_lt_succ n, ?_, ?_⟩ <;>
          rw [Nat.zero_mul, Nat.add_zero] <;> omega
      rw [if_neg hin]
      cases n with
      | zero =>
          rw [containsLoop]
          refine iff_of_false Bool.false_ne_true ?_
          rintro ⟨i, hi, -, hhigh⟩
          cases show i = 0 by omega
          rw [Nat.zero_mul, Nat.add_zero] at hhigh
          omega
      | succ n =>
          have hsecond := h 1 (by omega)
          rw [Nat.one_mul] at hsecond
          have hnext : (offset + info.getSourcePitch).toNat =
              offset.toNat + info.getSourcePitch.toNat := by
            rw [BitVec.toNat_add, Nat.mod_eq_of_lt (by omega)]
          have hshift : ∀ i, offset.toNat + info.getSourcePitch.toNat +
              i * info.getSourcePitch.toNat = offset.toNat + (i + 1) * info.getSourcePitch.toNat := by
            intro i
            ring
          rw [ih fun i hi => by rw [hnext, hshift]; exact h (i + 1) (by omega)]
          simp only [hnext, hshift]
          constructor
          · rintro ⟨i, hi, hcov⟩
            exact ⟨i + 1, by omega, hcov⟩
          · rintro ⟨i, hi, hcov⟩
            cases i with
            | zero =>
                rw [Nat.zero_mul, Nat.add_zero] at hcov
                omega
            | succ i => exact ⟨i, by omega, hcov⟩

/-- **What `containsElementAtOffset` holds of** is what the transfer reads exactly when the segments
do not move upwards. -/
lemma containsReads_iff (hsize : srcSize < 2 ^ 32) :
    info.ContainsReads srcSize ↔ (info.SourceInside srcSize →
      info.isSourceBottomUp = false ∨ info.getSegmentCount = 1 ∨ info.getSourcePitch = 0) := by
  refine imp_congr_right fun hinside => ?_
  obtain ⟨hbytes, hcount⟩ := NTV2Buffer.segmentBytes_pos hinside.1
  constructor
  · intro hcontains
    by_contra hup
    simp only [not_or, Bool.not_eq_false] at hup
    obtain ⟨hbottomUp, hone, hpitch⟩ := hup
    have hpitchPos : 0 < info.getSourcePitch.toNat :=
      Nat.pos_of_ne_zero fun h => hpitch (BitVec.eq_of_toNat_eq h)
    have htwo : 1 < info.getSegmentCount.toNat := by
      have hne : info.getSegmentCount.toNat ≠ 1 := fun h => hone (BitVec.eq_of_toNat_eq h)
      omega
    have hlength : 0 < info.getSegmentLength.toNat := Nat.pos_of_mul_pos_right hbytes
    obtain ⟨hlow, hhigh⟩ := srcElement_inside hsize hinside htwo
    have hsecond : info.srcElement 1 =
        (info.getSourceOffset.toNat : ℤ) - info.getSourcePitch.toNat := by
      rw [srcElement, elementOf, step, hbottomUp, if_pos rfl]
      push_cast
      ring
    -- the second segment begins before the first one
    have hreads : info.Reads (BitVec.ofNat 32 (info.srcElement 1).toNat : ULWord).toNat := by
      rw [BitVec.toNat_ofNat, Nat.mod_eq_of_lt (by omega)]
      exact ⟨1, htwo, by omega, by omega⟩
    have htrue := (hcontains _).mpr hreads
    obtain ⟨n, hn⟩ := Nat.exists_eq_succ_of_ne_zero (Nat.pos_iff_ne_zero.mp hcount)
    rw [containsElementAtOffset, if_neg (by simp [hinside.1]), if_neg hone, hn, containsLoop,
      if_pos] at htrue
    · exact Bool.false_ne_true htrue
    · rw [BitVec.lt_def, BitVec.toNat_ofNat, Nat.mod_eq_of_lt (by omega)]
      omega
  · intro hdown x
    have helement : ∀ i < info.getSegmentCount.toNat, info.srcElement i =
        ((info.getSourceOffset.toNat + i * info.getSourcePitch.toNat : ℕ) : ℤ) := by
      intro i hi
      rw [srcElement, elementOf, step]
      rcases hdown with hdown | hone | hpitch
      · rw [hdown, if_neg Bool.false_ne_true]
        push_cast
        rfl
      · rw [hone] at hi
        cases show i = 0 from Nat.lt_one_iff.mp hi
        simp
      · rw [hpitch]
        simp
    have hfits : ∀ i < info.getSegmentCount.toNat, info.getSourceOffset.toNat +
        i * info.getSourcePitch.toNat + info.getSegmentLength.toNat < 2 ^ 32 := by
      intro i hi
      have hhigh := (srcElement_inside hsize hinside hi).2
      rw [helement i hi] at hhigh
      exact_mod_cast hhigh
    have hreads : info.Reads x.toNat ↔ ∃ i < info.getSegmentCount.toNat,
        info.getSourceOffset.toNat + i * info.getSourcePitch.toNat ≤ x.toNat ∧
          x.toNat < info.getSourceOffset.toNat + i * info.getSourcePitch.toNat +
            info.getSegmentLength.toNat := by
      refine exists_congr fun i => and_congr_right fun hi => ?_
      rw [helement i hi]
      omega
    rw [hreads, ← containsLoop_iff hfits, containsElementAtOffset, if_neg (by simp [hinside.1])]
    by_cases hone : info.getSegmentCount = 1
    · have hcountOne : info.getSegmentCount.toNat = 1 := by rw [hone]; rfl
      rw [if_pos hone, hcountOne, containsLoop, containsLoop]
      by_cases hbefore : x < info.getSourceOffset
      · rw [if_pos hbefore, if_neg (BitVec.not_le.mpr hbefore)]
      · rw [if_neg hbefore, if_pos (BitVec.not_lt.mp hbefore)]
    · rw [if_neg hone]

/-- **Where `getSourceEndOffset` is one past the last element read**: it adds one pitch too many,
so the segments do not move, or go upwards by a multiple of 4 Gi together. -/
lemma endsAtLast_iff (hsize : srcSize < 2 ^ 32) :
    info.EndsAtLast srcSize ↔ (info.SourceInside srcSize → info.getSourcePitch = 0 ∨
      info.isSourceBottomUp = true ∧
        2 ^ 32 ∣ info.getSourcePitch.toNat * info.getSegmentCount.toNat) := by
  refine imp_congr_right fun hinside => ?_
  obtain ⟨hbytes, hcount⟩ := NTV2Buffer.segmentBytes_pos hinside.1
  have hlength : 0 < info.getSegmentLength.toNat := Nat.pos_of_mul_pos_right hbytes
  have hend : info.getSourceEndOffset.toNat = (info.getSourceOffset.toNat +
      info.getSourcePitch.toNat * info.getSegmentCount.toNat +
        info.getSegmentLength.toNat) % 2 ^ 32 := by
    rw [getSourceEndOffset, BitVec.toNat_add, BitVec.toNat_add, BitVec.toNat_mul]
    simp only [Nat.add_mod_mod, Nat.mod_add_mod]
  have hpitchZero : info.getSourcePitch = 0 ↔ info.getSourcePitch.toNat = 0 :=
    ⟨fun h => by rw [h]; rfl, fun h => BitVec.eq_of_toNat_eq h⟩
  have hpitch := info.getSourcePitch.isLt
  rw [hpitchZero]
  generalize hup : info.isSourceBottomUp = up
  -- the last element read, top-down and bottom-up
  obtain ⟨last, hlast, hlastEq⟩ : ∃ last : ℕ, last < 2 ^ 32 ∧
      IsGreatest {x : ℤ | info.Reads x} ((last : ℤ) - 1) ∧
      last = info.getSourceOffset.toNat + info.getSegmentLength.toNat +
        if up then 0 else (info.getSegmentCount.toNat - 1) * info.getSourcePitch.toNat := by
    cases up with
    | true =>
        have helement : ∀ i, info.srcElement i =
            (info.getSourceOffset.toNat : ℤ) - (i * info.getSourcePitch.toNat : ℕ) := by
          intro i
          rw [srcElement, elementOf, step, hup, if_pos rfl]
          push_cast
          ring
        have hfirst := (srcElement_inside hsize hinside hcount).2
        rw [helement] at hfirst
        refine ⟨_, ?_, ⟨⟨0, hcount, ?_, ?_⟩, ?_⟩, rfl⟩
        · simp only [if_true]
          omega
        · rw [helement]
          simp only [if_true]
          omega
        · rw [helement]
          simp only [if_true]
          omega
        · rintro x ⟨i, -, -, hhigh⟩
          rw [helement] at hhigh
          simp only [if_true]
          omega
    | false =>
        have helement : ∀ i, info.srcElement i =
            (info.getSourceOffset.toNat : ℤ) + (i * info.getSourcePitch.toNat : ℕ) := by
          intro i
          rw [srcElement, elementOf, step, hup, if_neg Bool.false_ne_true]
          push_cast
          rfl
        have hfinal := (srcElement_inside hsize hinside
          (show info.getSegmentCount.toNat - 1 < info.getSegmentCount.toNat by omega)).2
        rw [helement] at hfinal
        refine ⟨_, ?_, ⟨⟨info.getSegmentCount.toNat - 1, by omega, ?_, ?_⟩, ?_⟩, rfl⟩
        · rw [if_neg Bool.false_ne_true]
          omega
        · rw [helement, if_neg Bool.false_ne_true]
          omega
        · rw [helement, if_neg Bool.false_ne_true]
          omega
        · rintro x ⟨i, hi, -, hhigh⟩
          have hstep : i * info.getSourcePitch.toNat ≤
              (info.getSegmentCount.toNat - 1) * info.getSourcePitch.toNat :=
            Nat.mul_le_mul_right _ (by omega)
          rw [helement] at hhigh
          rw [if_neg Bool.false_ne_true]
          omega
  have hgreatest : IsGreatest {x : ℤ | info.Reads x} ((info.getSourceEndOffset.toNat : ℤ) - 1) ↔
      info.getSourceEndOffset.toNat = last := by
    constructor
    · intro h
      have hunique := h.unique hlastEq.1
      omega
    · rintro rfl
      exact hlastEq.1
  rw [hgreatest, hend]
  obtain ⟨-, hlastEq⟩ := hlastEq
  have hmoved : info.getSourcePitch.toNat * info.getSegmentCount.toNat =
      (info.getSegmentCount.toNat - 1) * info.getSourcePitch.toNat + info.getSourcePitch.toNat := by
    obtain ⟨n, hn⟩ : ∃ n, info.getSegmentCount.toNat = n + 1 :=
      ⟨info.getSegmentCount.toNat - 1, by omega⟩
    rw [hn, Nat.add_sub_cancel]
    ring
  cases up with
  | true =>
      rw [if_pos rfl] at hlastEq
      have hstill : info.getSourcePitch.toNat = 0 →
          2 ^ 32 ∣ info.getSourcePitch.toNat * info.getSegmentCount.toNat := fun h => by
        rw [h, Nat.zero_mul]
        exact dvd_zero _
      constructor
      · intro h
        exact .inr ⟨rfl, by omega⟩
      · intro h
        have hdvd := h.elim hstill And.right
        omega
  | false =>
      rw [if_neg Bool.false_ne_true] at hlastEq
      rw [hmoved]
      refine ⟨fun h => .inl (by omega), fun h => ?_⟩
      have hstill := h.resolve_right fun h' => Bool.false_ne_true h'.1
      omega

end NTV2SegmentedXferInfo

/-- **Segmented transfers** between two buffers: the copy, and the two queries about the elements
it reads, are as described exactly when the signed 32-bit checks see what they should, the source
segments do not move upwards, and they do not move at all. -/
theorem segmentedXfer_iff (self inSrcBuffer : NTV2Buffer) (info : NTV2SegmentedXferInfo) :
    (self.CopiesSegments inSrcBuffer info ↔ self.ChecksSee inSrcBuffer info) ∧
    (info.ContainsReads inSrcBuffer.bytes.length ↔
      (info.SourceInside inSrcBuffer.bytes.length →
        info.isSourceBottomUp = false ∨ info.getSegmentCount = 1 ∨ info.getSourcePitch = 0)) ∧
    (info.EndsAtLast inSrcBuffer.bytes.length ↔
      (info.SourceInside inSrcBuffer.bytes.length → info.getSourcePitch = 0 ∨
        info.isSourceBottomUp = true ∧
          2 ^ 32 ∣ info.getSourcePitch.toNat * info.getSegmentCount.toNat)) :=
  ⟨NTV2Buffer.copiesSegments_iff, NTV2SegmentedXferInfo.containsReads_iff inSrcBuffer.size_lt,
    NTV2SegmentedXferInfo.endsAtLast_iff inSrcBuffer.size_lt⟩

/-- Two segments of two bytes, four bytes apart: they end at 6, and not at 10. -/
theorem not_endsAtLast_two : ¬ (⟨0, 2, 2, 0, 0, 4, 2⟩ : NTV2SegmentedXferInfo).EndsAtLast 6 := by
  intro h
  have hinside : (⟨0, 2, 2, 0, 0, 4, 2⟩ : NTV2SegmentedXferInfo).SourceInside 6 := by
    refine ⟨by decide, fun seg hseg => ?_⟩
    have hseg' : seg < 2 := hseg
    interval_cases seg <;> decide
  obtain ⟨⟨seg, hseg, -, hhigh⟩, -⟩ := h hinside
  have hseg' : seg < 2 := hseg
  interval_cases seg
  · exact absurd hhigh (by decide)
  · exact absurd hhigh (by decide)

end LibAjaNtv2
