import LibAjaNtv2.Lib.Planes
import LibAjaNtv2.Raster.Format

/-!
Format descriptors with all their planes (`ntv2formatdescriptor.h`, `ntv2formatdescriptor.cpp`).

* `NTV2RasterDescriptor`: the descriptor with the planes past the first; `finalizePlanar`: how the
  planar ones are built;
* `byteOffsetToPlane`, `byteOffsetToRasterLine`, `isAtLineStart`: from a byte to its row;
* `rasterLineToByteOffset`, `getRowAddress`, `getRowBuffer`: from a row to its bytes;
* `geometry`: the planes that a descriptor describes;
* `Valid`: the descriptors that the library builds; `Valid.shape`: **their planes**;
* `toNat_planeOffset`: **the 32-bit offsets are where the planes begin**.
-/

namespace LibAjaNtv2

/-! ### Pixel formats with planes -/

namespace NTV2PixelFormat

/-- The formats of two planes. -/
def isTwoPlane : NTV2PixelFormat → Bool
  | NTV2_FBF_10BIT_YCBCR_420PL2 => true
  | NTV2_FBF_10BIT_YCBCR_422PL2 => true
  | NTV2_FBF_8BIT_YCBCR_420PL2 => true
  | NTV2_FBF_8BIT_YCBCR_422PL2 => true
  | _ => false

/-- The formats of three planes with a byte a sample. -/
def isThreePlane8 : NTV2PixelFormat → Bool
  | NTV2_FBF_8BIT_YCBCR_420PL3 => true
  | NTV2_FBF_8BIT_YCBCR_422PL3 => true
  | _ => false

/-- The formats of three planes with two bytes a sample. -/
def isThreePlane10 : NTV2PixelFormat → Bool
  | NTV2_FBF_10BIT_YCBCR_420PL3_LE => true
  | NTV2_FBF_10BIT_YCBCR_422PL3_LE => true
  | _ => false

/-- `NTV2_IS_FBF_PLANAR`. -/
def isPlanar (format : NTV2PixelFormat) : Bool :=
  format.isTwoPlane || format.isThreePlane8 || format.isThreePlane10

/-- The formats whose chroma planes have a row for every two lines. -/
def is420 : NTV2PixelFormat → Bool
  | NTV2_FBF_8BIT_YCBCR_420PL3 => true
  | NTV2_FBF_10BIT_YCBCR_420PL3_LE => true
  | NTV2_FBF_10BIT_YCBCR_420PL2 => true
  | NTV2_FBF_8BIT_YCBCR_420PL2 => true
  | _ => false

lemma isPlanar_of_is420 {format : NTV2PixelFormat} (h : format.is420 = true) :
    format.isPlanar = true := by
  cases format <;> first | rfl | exact absurd h (by decide)

end NTV2PixelFormat

/-! ### The descriptor -/

/-- `NTV2FormatDescriptor`, with the planes past the first. -/
structure NTV2RasterDescriptor extends NTV2FormatDescriptor where
  firstActiveLine : ULWord
  mLinePitch1 : ULWord
  mLinePitch2 : ULWord
  mLinePitch3 : ULWord
  deriving DecidableEq, Repr

namespace NTV2RasterDescriptor

/-- `MakeInvalid`. -/
def makeInvalid : NTV2RasterDescriptor :=
  { numLines := 0
    numPixels := 0
    linePitch := 0
    mPixelFormat := .NTV2_FBF_NUMFRAMEBUFFERFORMATS
    mLinePitch := 0
    mNumPlanes := 0
    mNumBitsLuma := 0
    mNumBitsChroma := 0
    firstActiveLine := 0
    mLinePitch1 := 0
    mLinePitch2 := 0
    mLinePitch3 := 0 }

variable (desc : NTV2RasterDescriptor)

/-- `FinalizePlanar`. -/
def finalizePlanar : NTV2RasterDescriptor :=
  if desc.mPixelFormat.isTwoPlane then
    { desc with
      mNumPlanes := 2
      mLinePitch := desc.linePitch * 4
      mLinePitch1 := desc.linePitch * 4 }
  else if desc.mPixelFormat.isThreePlane8 then
    let lumaRasterBytes := desc.numLines * desc.numPixels
    let chromaRasterBytes := lumaRasterBytes / 2
    if lumaRasterBytes % 4 ≠ 0 then makeInvalid
    else if chromaRasterBytes % desc.numLines ≠ 0 then makeInvalid
    else
      { desc with
        mNumPlanes := 3
        mLinePitch := desc.numPixels
        mLinePitch1 := chromaRasterBytes / desc.numLines
        mLinePitch2 := chromaRasterBytes / desc.numLines }
  else if desc.mPixelFormat.isThreePlane10 then
    let lumaRasterBytes := desc.numLines * (desc.numPixels * 2)
    let chromaRasterBytes := lumaRasterBytes / 2
    if chromaRasterBytes % desc.numLines ≠ 0 then makeInvalid
    else
      { desc with
        mNumPlanes := 3
        mLinePitch := desc.numPixels * 2
        mLinePitch1 := chromaRasterBytes / desc.numLines
        mLinePitch2 := chromaRasterBytes / desc.numLines }
  else makeInvalid

/-- `IsPlanar`. -/
def isPlanar : Bool := 1 < desc.mNumPlanes ∨ desc.mPixelFormat.isPlanar

/-- `mLinePitch[inPlaneIndex0]`. -/
def linePitchOf (inPlaneIndex0 : UWord) : ULWord :=
  match inPlaneIndex0.toNat with
  | 0 => desc.mLinePitch
  | 1 => desc.mLinePitch1
  | 2 => desc.mLinePitch2
  | 3 => desc.mLinePitch3
  | _ => 0

/-- `GetBytesPerRow`. -/
def getBytesPerRow (inPlaneIndex0 : UWord) : ULWord :=
  if inPlaneIndex0 < desc.mNumPlanes then desc.linePitchOf inPlaneIndex0 else 0

/-- `GetVerticalSampleRatio`. -/
def getVerticalSampleRatio (inPlaneIndex0 : UWord) : ULWord :=
  if desc.mNumPlanes ≤ inPlaneIndex0 then 0
  else if desc.mPixelFormat.is420 then if inPlaneIndex0 ≠ 0 then 2 else 1
  else 1

/-- `GetTotalRasterBytes`. -/
def getTotalRasterBytes (inPlaneIndex0 : UWord) : ULWord :=
  let vSamp := desc.getVerticalSampleRatio inPlaneIndex0
  if vSamp ≠ 0 then desc.numLines * desc.getBytesPerRow inPlaneIndex0 / vSamp else 0

/-- What `do … while (++plane < GetNumPlanes())` goes through. -/
def planes : List UWord := (List.range (max 1 desc.mNumPlanes.toNat)).map (BitVec.ofNat 16)

/-- `GetTotalBytes`. -/
def getTotalBytes : ULWord :=
  desc.planes.foldl (fun bytes plane => bytes + desc.getTotalRasterBytes plane) 0

/-- The loop of `ByteOffsetToPlane`. -/
def findPlane (inByteOffset : ULWord) : List UWord → ULWord → UWord
  | [], _ => 0xFFFF
  | plane :: planes, byteOffset =>
      let byteOffset := byteOffset + desc.getTotalRasterBytes plane
      if inByteOffset < byteOffset then plane else findPlane inByteOffset planes byteOffset

/-- `ByteOffsetToPlane`. -/
def byteOffsetToPlane (inByteOffset : ULWord) : UWord :=
  if desc.isPlanar then desc.findPlane inByteOffset desc.planes 0
  else if inByteOffset < desc.getTotalRasterBytes 0 then 0 else 0xFFFF

/-- The planes before one, from the last of them down. -/
def bytesBefore : ℕ → ULWord → ULWord
  | 0, byteOffset => byteOffset
  | plane + 1, byteOffset =>
      bytesBefore plane (byteOffset + desc.getTotalRasterBytes (BitVec.ofNat 16 plane))

/-- `ByteOffsetToRasterLine`. -/
def byteOffsetToRasterLine (inByteOffset : ULWord) : UWord :=
  let origPlane := desc.byteOffsetToPlane inByteOffset
  if origPlane = 0xFFFF then 0xFFFF
  else
    let byteOffsetToStartOfPlane := desc.bytesBefore origPlane.toNat 0
    ((inByteOffset - byteOffsetToStartOfPlane) / desc.getBytesPerRow origPlane).setWidth 16

/-- `IsAtLineStart`. -/
def isAtLineStart (inByteOffset : ULWord) : Bool :=
  if desc.isValid then
    let plane := desc.byteOffsetToPlane inByteOffset
    if desc.mNumPlanes ≤ plane then false
    else
      let inByteOffset :=
        if 0 < plane then inByteOffset - desc.getTotalRasterBytes 0 else inByteOffset
      let inByteOffset :=
        if 1 < plane then inByteOffset - desc.getTotalRasterBytes 1 else inByteOffset
      inByteOffset % desc.getBytesPerRow plane = 0
  else false

/-- Where a plane begins. -/
def planeOffset (inPlaneIndex0 : UWord) : ULWord :=
  (if 0 < inPlaneIndex0 then desc.getTotalRasterBytes 0 else 0) +
    (if 1 < inPlaneIndex0 then desc.getTotalRasterBytes 1 else 0) +
    (if 2 < inPlaneIndex0 then desc.getTotalRasterBytes 2 else 0)

/-- `RasterLineToByteOffset`. -/
def rasterLineToByteOffset (inRowIndex0 : ULWord) (inPlaneIndex0 : UWord) : ULWord :=
  if desc.numLines ≤ inRowIndex0 then 0xFFFFFFFF
  else if desc.mNumPlanes ≤ inPlaneIndex0 then 0xFFFFFFFF
  else desc.planeOffset inPlaneIndex0 + inRowIndex0 * desc.getBytesPerRow inPlaneIndex0

/-- `GetRowAddress`: a pointer that goes up by each plane in turn. -/
def getRowAddress (pInStartAddress : ℕ) (inRowIndex0 : ULWord) (inPlaneIndex0 : UWord) :
    Option ℕ :=
  if desc.numLines ≤ inRowIndex0 then none
  else if desc.mNumPlanes ≤ inPlaneIndex0 then none
  else if pInStartAddress = 0 then none
  else
    let pStart := pInStartAddress +
      (if 0 < inPlaneIndex0 then (desc.getTotalRasterBytes 0).toNat else 0) +
      (if 1 < inPlaneIndex0 then (desc.getTotalRasterBytes 1).toNat else 0) +
      (if 2 < inPlaneIndex0 then (desc.getTotalRasterBytes 2).toNat else 0)
    some (pStart + (inRowIndex0 * desc.getBytesPerRow inPlaneIndex0).toNat)

/-- `GetRowBuffer` of a frame buffer of so many bytes, which is null when it has none: where the
row buffer begins, if it is not null itself. -/
def getRowBuffer (inFrameBufferBytes : ULWord) (inRowIndex0 : ULWord) (inPlaneIndex0 : UWord) :
    Option (Option ULWord) :=
  if desc.numLines ≤ inRowIndex0 then none
  else if desc.mNumPlanes ≤ inPlaneIndex0 then none
  else if inFrameBufferBytes = 0 then none
  else
    let bytesPerRow := desc.getBytesPerRow inPlaneIndex0
    let byteOffset := desc.planeOffset inPlaneIndex0 + inRowIndex0 * bytesPerRow
    if inFrameBufferBytes < byteOffset + bytesPerRow then none
    -- `GetHostAddress` and `Set`: an address and a size, or neither
    else if byteOffset < inFrameBufferBytes then
      if bytesPerRow ≠ 0 then some (some byteOffset) else none
    else if bytesPerRow = 0 then some none else none

/-! ### The descriptors that there are -/

/-- The planes of a descriptor. -/
def geometry : Planes where
  count := desc.mNumPlanes.toNat
  rows p := desc.numLines.toNat / (desc.getVerticalSampleRatio (BitVec.ofNat 16 p)).toNat
  pitch p := (desc.getBytesPerRow (BitVec.ofNat 16 p)).toNat

/-- How the constructors make one: with one plane, or by `FinalizePlanar`. -/
inductive Built : NTV2RasterDescriptor → Prop
  | packed (desc : NTV2RasterDescriptor) (hplanes : desc.mNumPlanes = 1)
      (hformat : desc.mPixelFormat.isPlanar = false) : Built desc
  | planar (desc : NTV2RasterDescriptor) (hlines : desc.numLines ≠ 0) : Built desc.finalizePlanar

/-- A valid descriptor of an even number of lines, and of a size that 32 bits count. -/
structure Valid : Prop where
  isValid : desc.isValid = true
  built : desc.Built
  even : desc.numLines.toNat % 2 = 0
  size : desc.geometry.total < 2 ^ 32

/-- The planes of a valid descriptor: one, two of the same pitch, or three of which the last two
have the same. -/
structure Shape : Prop where
  count : desc.mNumPlanes = 1 ∧ desc.mPixelFormat.is420 = false ∨
    desc.mNumPlanes = 2 ∧ desc.mLinePitch1 = desc.mLinePitch ∧ desc.mLinePitch.toNat % 4 = 0 ∨
    desc.mNumPlanes = 3 ∧ desc.mLinePitch2 = desc.mLinePitch1
  planar : desc.mNumPlanes ≠ 1 → desc.isPlanar = true
  lines : 0 < desc.numLines.toNat
  luma : 0 < desc.mLinePitch.toNat
  chroma : desc.mNumPlanes ≠ 1 →
    0 < desc.mLinePitch1.toNat ∧ desc.mLinePitch1.toNat ≤ desc.mLinePitch.toNat

/-! ### Their planes -/

section Shape

variable {desc : NTV2RasterDescriptor} {p : ℕ}

/-- The first plane has a row for every line. -/
lemma geometry_zero (hplanes : desc.mNumPlanes ≠ 0) :
    desc.geometry.rows 0 = desc.numLines.toNat ∧
      desc.geometry.pitch 0 = desc.mLinePitch.toNat := by
  have hpos : ¬ desc.mNumPlanes ≤ 0#16 := by
    rw [BitVec.le_def]
    exact fun hle => hplanes (BitVec.eq_of_toNat_eq (Nat.le_zero.mp hle))
  have hlt : 0#16 < desc.mNumPlanes := BitVec.not_le.mp hpos
  constructor
  · simp [geometry, getVerticalSampleRatio, hpos]
  · simp [geometry, getBytesPerRow, hlt, linePitchOf]

/-- The first plane is counted by 32 bits. -/
lemma luma_lt (hplanes : desc.mNumPlanes ≠ 0) (hsize : desc.geometry.total < 2 ^ 32) :
    desc.numLines.toNat * desc.mLinePitch.toNat < 2 ^ 32 := by
  obtain ⟨hrows, hpitch⟩ := geometry_zero hplanes
  have hcount : 0 < desc.geometry.count :=
    Nat.pos_of_ne_zero fun hzero => hplanes (BitVec.eq_of_toNat_eq hzero)
  have hle := Planes.end_le_total hcount
  rw [Planes.start_zero, Nat.zero_add, Planes.size, hrows, hpitch] at hle
  exact hle.trans_lt hsize

/-- Half of the bytes of a plane, shared among its lines. -/
lemma chroma_pitch {lines pitch chroma : ULWord} (heven : lines.toNat % 2 = 0)
    (hlines : 0 < lines.toNat) (hpitch : 0 < pitch.toNat)
    (hfit : lines.toNat * pitch.toNat < 2 ^ 32)
    (hmod : lines * pitch / 2 % lines = 0) (hchroma : chroma = lines * pitch / 2 / lines) :
    0 < chroma.toNat ∧ chroma.toNat ≤ pitch.toNat := by
  have hhalf : (lines * pitch / 2).toNat = lines.toNat * pitch.toNat / 2 := by
    rw [BitVec.toNat_udiv, BitVec.toNat_mul, Nat.mod_eq_of_lt hfit]
    rfl
  have hrem : lines.toNat * pitch.toNat / 2 % lines.toNat = 0 := by
    rw [← hhalf, ← BitVec.toNat_umod, hmod]
    rfl
  have htwo : 2 ≤ lines.toNat * pitch.toNat :=
    (show 2 ≤ lines.toNat * 1 by omega).trans (Nat.mul_le_mul_left _ hpitch)
  rw [hchroma, BitVec.toNat_udiv, hhalf]
  constructor
  · rw [Nat.pos_iff_ne_zero]
    intro hzero
    rw [Nat.div_eq_zero_iff] at hzero
    rcases hzero with hzero | hlt
    · omega
    · rw [Nat.mod_eq_of_lt hlt] at hrem
      omega
  · refine Nat.div_le_of_le_mul ?_
    omega

lemma ne_zero_of_isValid (h : desc.isValid = true) :
    desc.numLines ≠ 0 ∧ desc.mNumPlanes ≠ 0 ∧ desc.mLinePitch ≠ 0 := by
  simp only [NTV2FormatDescriptor.isValid, decide_eq_true_eq] at h
  exact ⟨h.1, h.2.2.1, h.2.2.2.1⟩

lemma toNat_pos {w : ℕ} {v : BitVec w} (h : v ≠ 0) : 0 < v.toNat :=
  Nat.pos_of_ne_zero fun hzero => h (BitVec.eq_of_toNat_eq hzero)

lemma not_isValid_makeInvalid : ¬ makeInvalid.isValid = true := by decide

/-- The planes that `FinalizePlanar` makes, of a descriptor that is valid then. -/
lemma shape_finalizePlanar {base : NTV2RasterDescriptor} (hdesc : desc = base.finalizePlanar)
    (hvalid : desc.isValid = true) (heven : desc.numLines.toNat % 2 = 0)
    (hfit : desc.numLines.toNat * desc.mLinePitch.toNat < 2 ^ 32) : desc.Shape := by
  obtain ⟨hlines, -, hpitch⟩ := ne_zero_of_isValid hvalid
  have hlines := toNat_pos hlines
  have hpitch := toNat_pos hpitch
  simp only [finalizePlanar] at hdesc
  split_ifs at hdesc with htwo height hluma hchroma hten hchroma
  · subst hdesc
    refine ⟨Or.inr (Or.inl ⟨rfl, rfl, ?_⟩), fun _ => by simp [isPlanar], hlines, hpitch,
      fun _ => ⟨hpitch, le_rfl⟩⟩
    simp only [BitVec.toNat_mul]
    rw [show BitVec.toNat (4 : ULWord) = 4 from rfl]
    omega
  · exact absurd (hdesc ▸ hvalid) not_isValid_makeInvalid
  · exact absurd (hdesc ▸ hvalid) not_isValid_makeInvalid
  · subst hdesc
    exact ⟨Or.inr (Or.inr ⟨rfl, rfl⟩), fun _ => by simp [isPlanar], hlines, hpitch,
      fun _ => chroma_pitch heven hlines hpitch hfit (not_not.mp hchroma) rfl⟩
  · exact absurd (hdesc ▸ hvalid) not_isValid_makeInvalid
  · subst hdesc
    exact ⟨Or.inr (Or.inr ⟨rfl, rfl⟩), fun _ => by simp [isPlanar], hlines, hpitch,
      fun _ => chroma_pitch heven hlines hpitch hfit (not_not.mp hchroma) rfl⟩
  · exact absurd (hdesc ▸ hvalid) not_isValid_makeInvalid

/-- **The planes of a valid descriptor.** -/
lemma Valid.shape (h : desc.Valid) : desc.Shape := by
  obtain ⟨hlines, hplanes, hpitch⟩ := ne_zero_of_isValid h.isValid
  have hfit := luma_lt hplanes h.size
  cases h.built with
  | packed _ hone hformat =>
      have hnot : desc.mPixelFormat.is420 = false := by
        cases h420 : desc.mPixelFormat.is420 with
        | false => rfl
        | true =>
            rw [NTV2PixelFormat.isPlanar_of_is420 h420] at hformat
            exact absurd hformat (by decide)
      exact ⟨Or.inl ⟨hone, hnot⟩, fun hne => absurd hone hne, toNat_pos hlines,
        toNat_pos hpitch, fun hne => absurd hone hne⟩
  | planar base => exact shape_finalizePlanar rfl h.isValid h.even hfit

end Shape

/-! ### Where they are -/

section Offsets

variable {desc : NTV2RasterDescriptor} {p q r : ℕ}

@[simp] lemma geometry_count : desc.geometry.count = desc.mNumPlanes.toNat := rfl

lemma geometry_rows : desc.geometry.rows p =
    desc.numLines.toNat / (desc.getVerticalSampleRatio (BitVec.ofNat 16 p)).toNat := rfl

lemma geometry_pitch :
    desc.geometry.pitch p = (desc.getBytesPerRow (BitVec.ofNat 16 p)).toNat := rfl

lemma Shape.count_le (h : desc.Shape) : desc.geometry.count ≤ 3 := by
  rw [geometry_count]
  obtain ⟨hcount, -⟩ | ⟨hcount, -⟩ | ⟨hcount, -⟩ := h.count <;> rw [hcount] <;> decide

lemma toNat_plane (h : desc.Shape) (hp : p < desc.geometry.count) :
    (BitVec.ofNat 16 p).toNat = p := by
  have hcount := h.count_le
  rw [BitVec.toNat_ofNat, Nat.mod_eq_of_lt (by omega)]

lemma plane_lt (h : desc.Shape) (hp : p < desc.geometry.count) :
    BitVec.ofNat 16 p < desc.mNumPlanes := by
  rw [BitVec.lt_def, toNat_plane h hp]
  exact hp

/-- A chroma plane of 4:2:0 has a row for two lines, and every other plane one for each. -/
lemma ratio_eq (h : desc.Shape) (hp : p < desc.geometry.count) :
    desc.getVerticalSampleRatio (BitVec.ofNat 16 p) =
      if desc.mPixelFormat.is420 = true ∧ p ≠ 0 then 2 else 1 := by
  have hplane : BitVec.ofNat 16 p = 0#16 ↔ p = 0 := by
    rw [← BitVec.toNat_inj, toNat_plane h hp]
    rfl
  rw [getVerticalSampleRatio, if_neg (BitVec.not_le.mpr (plane_lt h hp))]
  by_cases h420 : desc.mPixelFormat.is420 = true <;> by_cases hzero : p = 0 <;>
    simp [h420, hzero, hplane]

lemma rows_eq (h : desc.Shape) (hp : p < desc.geometry.count) :
    desc.geometry.rows p =
      if desc.mPixelFormat.is420 = true ∧ p ≠ 0 then desc.numLines.toNat / 2
      else desc.numLines.toNat := by
  rw [geometry_rows, ratio_eq h hp]
  split_ifs
  · rfl
  · exact Nat.div_one _

/-- A row of a plane has bytes, and no more than one of the first. -/
lemma pitch_bounds (h : desc.Shape) (hp : p < desc.geometry.count) :
    0 < desc.geometry.pitch p ∧ desc.geometry.pitch p ≤ desc.mLinePitch.toNat := by
  have hle := h.count_le
  have hluma := h.luma
  have hpitch : desc.geometry.pitch p = (desc.linePitchOf (BitVec.ofNat 16 p)).toNat := by
    rw [geometry_pitch, getBytesPerRow, if_pos (plane_lt h hp)]
  rw [geometry_count] at hp hle
  rw [hpitch]
  obtain rfl | rfl | rfl : p = 0 ∨ p = 1 ∨ p = 2 := by omega
  · exact ⟨hluma, le_rfl⟩
  · refine h.chroma fun hone => ?_
    rw [hone] at hp
    exact absurd hp (by decide)
  · obtain ⟨hcount, -⟩ | ⟨hcount, -⟩ | ⟨hcount, hsame⟩ := h.count
    · rw [hcount] at hp
      exact absurd hp (by decide)
    · rw [hcount] at hp
      exact absurd hp (by decide)
    · have hchroma := h.chroma (by rw [hcount]; decide)
      rw [← hsame] at hchroma
      exact hchroma

lemma lines_pitch_lt (h : desc.Valid) (hp : p < desc.geometry.count) :
    desc.numLines.toNat * desc.geometry.pitch p < 2 ^ 32 :=
  (Nat.mul_le_mul_left _ (pitch_bounds h.shape hp).2).trans_lt
    (luma_lt (ne_zero_of_isValid h.isValid).2.1 h.size)

/-- **The size of a plane** is counted without wrapping. -/
lemma toNat_getTotalRasterBytes (h : desc.Valid) (hp : p < desc.geometry.count) :
    (desc.getTotalRasterBytes (BitVec.ofNat 16 p)).toNat = desc.geometry.size p := by
  have heven := h.even
  have hproduct : (desc.numLines * desc.getBytesPerRow (BitVec.ofNat 16 p)).toNat =
      desc.numLines.toNat * desc.geometry.pitch p := by
    rw [BitVec.toNat_mul]
    exact Nat.mod_eq_of_lt (lines_pitch_lt h hp)
  rw [getTotalRasterBytes, ratio_eq h.shape hp, Planes.size, rows_eq h.shape hp]
  by_cases h420 : desc.mPixelFormat.is420 = true ∧ p ≠ 0
  · simp only [if_pos h420]
    rw [if_pos (by decide), BitVec.toNat_udiv, hproduct]
    obtain ⟨m, hm⟩ : ∃ m, desc.numLines.toNat = 2 * m := ⟨desc.numLines.toNat / 2, by omega⟩
    rw [hm, Nat.mul_assoc]
    simp
  · simp only [if_neg h420]
    rw [if_pos (by decide), BitVec.toNat_udiv, hproduct]
    exact Nat.div_one _

lemma start_lt (h : desc.Valid) (hp : p ≤ desc.geometry.count) :
    desc.geometry.start p < 2 ^ 32 := (Planes.start_mono hp).trans_lt h.size

/-- **The offset of a plane** is where it begins. -/
lemma toNat_planeOffset (h : desc.Valid) (hp : p < desc.geometry.count) :
    (desc.planeOffset (BitVec.ofNat 16 p)).toNat = desc.geometry.start p := by
  have hle := h.shape.count_le
  have hsize : ∀ q < p, (desc.getTotalRasterBytes (BitVec.ofNat 16 q)).toNat =
      desc.geometry.size q := fun q hq => toNat_getTotalRasterBytes h (hq.trans hp)
  obtain rfl | rfl | rfl : p = 0 ∨ p = 1 ∨ p = 2 := by omega
  · rfl
  · have hzero := hsize 0 (by decide)
    simp only [planeOffset]
    rw [if_pos (by decide), if_neg (by decide), if_neg (by decide), Planes.start_succ,
      Planes.start_zero, Nat.zero_add]
    simp only [BitVec.ofNat_eq_ofNat, BitVec.add_zero]
    exact hzero
  · have hzero := hsize 0 (by decide)
    have hone := hsize 1 (by decide)
    have hfit := start_lt h hp.le
    rw [Planes.start_succ, Planes.start_succ, Planes.start_zero, Nat.zero_add] at hfit ⊢
    simp only [planeOffset]
    rw [if_pos (by decide), if_pos (by decide), if_neg (by decide)]
    simp only [BitVec.ofNat_eq_ofNat, BitVec.add_zero, BitVec.toNat_add]
    rw [← hzero, ← hone] at hfit ⊢
    exact Nat.mod_eq_of_lt hfit

/-- The planes before one, added up from the last down. -/
lemma toNat_bytesBefore (h : desc.Valid) (hp : p ≤ desc.geometry.count) {acc : ULWord}
    (hacc : acc.toNat + desc.geometry.start p < 2 ^ 32) :
    (desc.bytesBefore p acc).toNat = acc.toNat + desc.geometry.start p := by
  induction p generalizing acc with
  | zero => rfl
  | succ p ih =>
      rw [Planes.start_succ] at hacc ⊢
      have hsize := toNat_getTotalRasterBytes h hp
      have hnext : (acc + desc.getTotalRasterBytes (BitVec.ofNat 16 p)).toNat =
          acc.toNat + desc.geometry.size p := by
        rw [BitVec.toNat_add, hsize, Nat.mod_eq_of_lt (by omega)]
      rw [bytesBefore, ih (Nat.le_of_succ_le hp) (by omega), hnext]
      omega

/-- **The size of all planes**. -/
lemma toNat_getTotalBytes (h : desc.Valid) :
    desc.getTotalBytes.toNat = desc.geometry.total := by
  have hsum : ∀ n ≤ desc.geometry.count, (((List.range n).map (BitVec.ofNat 16)).foldl
      (fun bytes plane => bytes + desc.getTotalRasterBytes plane) 0#32).toNat =
        desc.geometry.start n := by
    intro n hn
    induction n with
    | zero => rfl
    | succ n ih =>
        have hfit := start_lt h hn
        rw [Planes.start_succ] at hfit ⊢
        rw [List.range_succ, List.map_append, List.foldl_append, List.map_singleton,
          List.foldl_cons, List.foldl_nil, BitVec.toNat_add, ih (Nat.le_of_succ_le hn),
          toNat_getTotalRasterBytes h hn, Nat.mod_eq_of_lt hfit]
  have hpos : 1 ≤ desc.mNumPlanes.toNat := toNat_pos (ne_zero_of_isValid h.isValid).2.1
  rw [getTotalBytes, planes, Nat.max_eq_right hpos]
  exact hsum _ le_rfl

end Offsets

/-- Four lines of eight pixels, in three planes. -/
def fourLines (format : NTV2PixelFormat) : NTV2RasterDescriptor :=
  finalizePlanar
    { numLines := 4
      numPixels := 8
      linePitch := 2
      mPixelFormat := format
      mLinePitch := 8
      mNumPlanes := 1
      mNumBitsLuma := 8
      mNumBitsChroma := 8
      firstActiveLine := 0
      mLinePitch1 := 0
      mLinePitch2 := 0
      mLinePitch3 := 0 }

end NTV2RasterDescriptor

end LibAjaNtv2
