import LibAjaNtv2.Lib.Rect
import LibAjaNtv2.Raster.Format

/-!
Copying a rectangle from one raster to another of the same pixel format (`ntv2utils.cpp`).

* `CopyRasterArgs`: the arguments; `usable`: the checks that come before the pixel format;
* `numVertLinesToCopy`: the lines left after clipping, none where the function is done at once;
* `PixelGroup`: pixels that share a few bytes; `PixelGroup.copyRaster`: the copies with one
  `memcpy` for each line, and the seven functions that are one of them;
* `copyRaster4BytesPer2Pixels`: the copy with a loop over the pixels of a line;
* `copyRaster`: the switch over the pixel formats;
* `clipped`: the rectangle that is left inside both rasters; `CopiesRectangle`: what a copy is for;
* `CopyFamily.Meets`: the edges are met as a family needs it;
* `numVertLinesToCopy_of_meetsBottom`: where the code copies nothing;
* `clipped_fits`: **the clipped rectangle lies inside both rasters**.
-/

namespace LibAjaNtv2

/-- The arguments of `CopyRaster`, the pixel format apart. -/
structure CopyRasterArgs where
  pDstBuffer : ULWord64
  inDstBytesPerLine : ULWord
  inDstTotalLines : UWord
  inDstVertLineOffset : UWord
  inDstHorzPixelOffset : UWord
  pSrcBuffer : ULWord64
  inSrcBytesPerLine : ULWord
  inSrcTotalLines : UWord
  inSrcVertLineOffset : UWord
  inSrcVertLinesToCopy : UWord
  inSrcHorzPixelOffset : UWord
  inSrcHorzPixelsToCopy : UWord
  deriving DecidableEq, Repr

namespace CopyRasterArgs

/-- The checks that `CopyRaster` makes for every pixel format. -/
def usable (a : CopyRasterArgs) : Bool :=
  a.pDstBuffer ≠ 0 && a.pSrcBuffer ≠ 0 && a.pDstBuffer ≠ a.pSrcBuffer &&
    a.inDstBytesPerLine ≠ 0 && a.inSrcBytesPerLine ≠ 0 && a.inDstTotalLines ≠ 0 &&
    a.inSrcTotalLines ≠ 0 && a.inDstVertLineOffset < a.inDstTotalLines &&
    a.inSrcVertLineOffset < a.inSrcTotalLines

/-- The lines to copy, clipped to both bottom edges. There is no number where the rectangle ends
at the bottom edge of the destination: the functions return there. -/
def numVertLinesToCopy (a : CopyRasterArgs) : Option UWord :=
  let n := if a.inSrcVertLineOffset.toNat + a.inSrcVertLinesToCopy.toNat > a.inSrcTotalLines.toNat
    then a.inSrcVertLinesToCopy -
      (a.inSrcVertLineOffset + a.inSrcVertLinesToCopy - a.inSrcTotalLines)
    else a.inSrcVertLinesToCopy
  if n.toNat + a.inDstVertLineOffset.toNat ≥ a.inDstTotalLines.toNat then
    if n.toNat + a.inDstVertLineOffset.toNat > a.inDstTotalLines.toNat then
      some (n - (n + a.inDstVertLineOffset - a.inDstTotalLines))
    else none
  else some n

end CopyRasterArgs

/-- The `pixels` pixels of a line that share `bytes` bytes. -/
structure PixelGroup where
  bytes : ULWord
  pixels : ULWord
  bytes_pos : 0 < bytes.toNat
  bytes_le : bytes.toNat ≤ 36
  pixels_pos : 0 < pixels.toNat
  /-- A raster line has fewer pixels than bytes. -/
  pixels_le : 5 * pixels.toNat ≤ 4 * bytes.toNat
  /-- Dividing by `pixels` loses nothing, also after a product has wrapped. -/
  pixels_le_gcd : pixels.toNat ≤ Nat.gcd (pixels.toNat * bytes.toNat) (2 ^ 32)

namespace PixelGroup

/-- The checks of one of the functions. -/
def accepts (G : PixelGroup) (a : CopyRasterArgs) : Bool :=
  a.inDstHorzPixelOffset.toNat % G.pixels.toNat = 0 &&
    a.inSrcHorzPixelOffset.toNat % G.pixels.toNat = 0 &&
    a.inDstBytesPerLine % G.bytes = 0 && a.inSrcBytesPerLine % G.bytes = 0 &&
    a.inSrcHorzPixelsToCopy.toNat % G.pixels.toNat = 0 &&
    a.inDstHorzPixelOffset.setWidth 32 < a.inDstBytesPerLine / G.bytes * G.pixels &&
    a.inSrcHorzPixelOffset.setWidth 32 < a.inSrcBytesPerLine / G.bytes * G.pixels

/-- The pixels to copy, clipped to both right edges. -/
def numHorzPixelsToCopy (G : PixelGroup) (a : CopyRasterArgs) : ULWord :=
  let dstMaxPixelWidth := a.inDstBytesPerLine / G.bytes * G.pixels
  let srcMaxPixelWidth := a.inSrcBytesPerLine / G.bytes * G.pixels
  let n : ULWord := a.inSrcHorzPixelsToCopy.setWidth 32
  let n :=
    if a.inSrcHorzPixelOffset.toNat + a.inSrcHorzPixelsToCopy.toNat >
        (srcMaxPixelWidth.setWidth 16).toNat then
      n - (a.inSrcHorzPixelOffset.setWidth 32 + a.inSrcHorzPixelsToCopy.setWidth 32 -
        srcMaxPixelWidth)
    else n
  if a.inDstHorzPixelOffset.setWidth 32 + n > dstMaxPixelWidth then
    a.inDstHorzPixelOffset.setWidth 32 + n - dstMaxPixelWidth
  else n

/-- Where a line of a raster is copied from or to. -/
def lineStart (G : PixelGroup) (bytesPerLine : ULWord) (vertLine : ℕ) (horzPixelOffset : UWord) :
    ℕ :=
  (bytesPerLine * BitVec.ofNat 32 vertLine).toNat +
    horzPixelOffset.toNat * G.bytes.toNat / G.pixels.toNat

/-- The copy, with one `memcpy` for each line. -/
def copyRaster (G : PixelGroup) (a : CopyRasterArgs) (src : List Byte) (dst : Block Byte) :
    Option (Bool × Block Byte) :=
  if G.accepts a then
    match a.numVertLinesToCopy with
    | none => some (true, dst)
    | some numVertLinesToCopy =>
      ((List.range numVertLinesToCopy.toNat).foldlM (fun (dst : Block Byte) lineNdx =>
        dst.memcpy
          (G.lineStart a.inDstBytesPerLine (a.inDstVertLineOffset.toNat + lineNdx)
            a.inDstHorzPixelOffset) src
          (G.lineStart a.inSrcBytesPerLine (a.inSrcVertLineOffset.toNat + lineNdx)
            a.inSrcHorzPixelOffset)
          (G.numHorzPixelsToCopy a * G.bytes / G.pixels).toNat) dst).map (true, ·)
  else some (false, dst)

end PixelGroup

/-- 16 bytes for 6 pixels. -/
def group16BytesPer6Pixels : PixelGroup :=
  ⟨16, 6, by decide, by decide, by decide, by decide, by decide⟩

/-- 20 bytes for 16 pixels. -/
def group20BytesPer16Pixels : PixelGroup :=
  ⟨20, 16, by decide, by decide, by decide, by decide, by decide⟩

/-- 36 bytes for 8 pixels. -/
def group36BytesPer8Pixels : PixelGroup :=
  ⟨36, 8, by decide, by decide, by decide, by decide, by decide⟩

/-- 5 bytes for a pixel. -/
def group5BytesPerPixel : PixelGroup :=
  ⟨5, 1, by decide, by decide, by decide, by decide, by decide⟩

/-- 4 bytes for a pixel. -/
def group4BytesPerPixel : PixelGroup :=
  ⟨4, 1, by decide, by decide, by decide, by decide, by decide⟩

/-- 3 bytes for a pixel. -/
def group3BytesPerPixel : PixelGroup :=
  ⟨3, 1, by decide, by decide, by decide, by decide, by decide⟩

/-- 6 bytes for a pixel. -/
def group6BytesPerPixel : PixelGroup :=
  ⟨6, 1, by decide, by decide, by decide, by decide, by decide⟩

/-- `CopyRaster16BytesPer6Pixels`. -/
def copyRaster16BytesPer6Pixels := group16BytesPer6Pixels.copyRaster

/-- `CopyRaster20BytesPer16Pixels`. -/
def copyRaster20BytesPer16Pixels := group20BytesPer16Pixels.copyRaster

/-- `CopyRaster36BytesPer8Pixels`. -/
def copyRaster36BytesPer8Pixels := group36BytesPer8Pixels.copyRaster

/-- `CopyRaster5BytesPerPixel`. -/
def copyRaster5BytesPerPixel := group5BytesPerPixel.copyRaster

/-- `CopyRaster4BytesPerPixel`. -/
def copyRaster4BytesPerPixel := group4BytesPerPixel.copyRaster

/-- `CopyRaster3BytesPerPixel`. -/
def copyRaster3BytesPerPixel := group3BytesPerPixel.copyRaster

/-- `CopyRaster6BytesPerPixel`. -/
def copyRaster6BytesPerPixel := group6BytesPerPixel.copyRaster

/-! ### The formats of two bytes a pixel -/

/-- The checks of `CopyRaster4BytesPer2Pixels`. -/
def accepts4BytesPer2Pixels (a : CopyRasterArgs) : Bool :=
  a.inDstHorzPixelOffset &&& 1 = 0 && a.inSrcHorzPixelOffset &&& 1 = 0 &&
    a.inDstHorzPixelOffset.setWidth 32 < a.inDstBytesPerLine / 2 &&
    a.inSrcHorzPixelOffset.setWidth 32 < a.inSrcBytesPerLine / 2

/-- Its pixels to copy, clipped to the right edge of the source. -/
def numHorzPixels4BytesPer2Pixels (a : CopyRasterArgs) : UWord :=
  let srcMaxPixelWidth := a.inSrcBytesPerLine / 2
  if BitVec.ofNat 32 (a.inSrcHorzPixelOffset.toNat + a.inSrcHorzPixelsToCopy.toNat) >
      srcMaxPixelWidth then
    a.inSrcHorzPixelsToCopy - (a.inSrcHorzPixelOffset.setWidth 32 +
      a.inSrcHorzPixelsToCopy.setWidth 32 - srcMaxPixelWidth).setWidth 16
  else a.inSrcHorzPixelsToCopy

/-- Its loop over the pixels of a line, which stops at the right edge of the destination. -/
def copyPixels (inDstHorzPixelOffset : UWord) (dstMaxPixelWidth : ULWord) (src : List Byte) :
    ℕ → UWord → ℕ → ℕ → Block Byte → Option (Block Byte)
  | 0, _, _, _, dst => some dst
  | hPixelsToCopy + 1, dstPixelsCopied, pDst, pSrc, dst => do
      let dst ← dst.memcpy pDst src pSrc 2
      let dstPixelsCopied := dstPixelsCopied + 1
      if dstPixelsCopied.toNat + inDstHorzPixelOffset.toNat ≥
          (dstMaxPixelWidth.setWidth 16).toNat then some dst
      else
        copyPixels inDstHorzPixelOffset dstMaxPixelWidth src hPixelsToCopy dstPixelsCopied
          (pDst + 2) (pSrc + 2) dst

/-- Its loop over the lines. -/
def copyLines (a : CopyRasterArgs) (src : List Byte) :
    ℕ → ℕ → ℕ → Block Byte → Option (Block Byte)
  | 0, _, _, dst => some dst
  | srcLinesToCopy + 1, pDst, pSrc, dst => do
      let dst ← copyPixels a.inDstHorzPixelOffset (a.inDstBytesPerLine / 2) src
        (numHorzPixels4BytesPer2Pixels a).toNat 0 pDst pSrc dst
      copyLines a src srcLinesToCopy (pDst + a.inDstBytesPerLine.toNat)
        (pSrc + a.inSrcBytesPerLine.toNat) dst

/-- `GetReadAddress_2vuy` and `GetWriteAddress_2vuy`, from the start of the buffer. -/
def address2vuy (bytesPerVertLine : ULWord) (vertLineOffset horzPixelOffset : UWord) : ℕ :=
  (bytesPerVertLine * vertLineOffset.setWidth 32).toNat +
    (2 * horzPixelOffset.setWidth 32 : ULWord).toNat

/-- `CopyRaster4BytesPer2Pixels`. -/
def copyRaster4BytesPer2Pixels (a : CopyRasterArgs) (src : List Byte) (dst : Block Byte) :
    Option (Bool × Block Byte) :=
  if accepts4BytesPer2Pixels a then
    match a.numVertLinesToCopy with
    | none => some (true, dst)
    | some numVertLinesToCopy =>
      (copyLines a src numVertLinesToCopy.toNat
        (address2vuy a.inDstBytesPerLine a.inDstVertLineOffset a.inDstHorzPixelOffset)
        (address2vuy a.inSrcBytesPerLine a.inSrcVertLineOffset a.inSrcHorzPixelOffset) dst).map
        (true, ·)
  else some (false, dst)

/-! ### The pixel formats -/

open NTV2PixelFormat in
/-- `CopyRaster`. The buffers are taken apart from their addresses. -/
def copyRaster (inPixelFormat : NTV2PixelFormat) (a : CopyRasterArgs) (src : List Byte)
    (dst : Block Byte) : Option (Bool × Block Byte) :=
  if a.usable then
    match inPixelFormat with
    | NTV2_FBF_10BIT_YCBCR | NTV2_FBF_10BIT_YCBCR_DPX => copyRaster16BytesPer6Pixels a src dst
    | NTV2_FBF_8BIT_YCBCR | NTV2_FBF_8BIT_YCBCR_YUY2 => copyRaster4BytesPer2Pixels a src dst
    | NTV2_FBF_ARGB | NTV2_FBF_RGBA | NTV2_FBF_ABGR | NTV2_FBF_10BIT_DPX
    | NTV2_FBF_10BIT_DPX_LE | NTV2_FBF_10BIT_RGB => copyRaster4BytesPerPixel a src dst
    | NTV2_FBF_24BIT_RGB | NTV2_FBF_24BIT_BGR => copyRaster3BytesPerPixel a src dst
    | NTV2_FBF_48BIT_RGB => copyRaster6BytesPerPixel a src dst
    | NTV2_FBF_12BIT_RGB_PACKED => copyRaster36BytesPer8Pixels a src dst
    | NTV2_FBF_10BIT_RAW_YCBCR => copyRaster20BytesPer16Pixels a src dst
    | NTV2_FBF_10BIT_ARGB => copyRaster5BytesPerPixel a src dst
    | _ => some (false, dst)
  else some (false, dst)

/-- The functions behind the switch. -/
inductive CopyFamily
  | lines (G : PixelGroup)
  | pairs

namespace CopyFamily

/-- The bytes that a group of pixels shares. -/
def bytes : CopyFamily → ℕ
  | lines G => G.bytes.toNat
  | pairs => 2

/-- The pixels of a group. -/
def pixels : CopyFamily → ℕ
  | lines G => G.pixels.toNat
  | pairs => 1

/-- The function of a family. -/
def copyRaster : CopyFamily → CopyRasterArgs → List Byte → Block Byte → Option (Bool × Block Byte)
  | lines G => G.copyRaster
  | pairs => copyRaster4BytesPer2Pixels

end CopyFamily

open NTV2PixelFormat in
/-- The family that copies a pixel format. -/
def NTV2PixelFormat.copyFamily : NTV2PixelFormat → Option CopyFamily
  | NTV2_FBF_10BIT_YCBCR | NTV2_FBF_10BIT_YCBCR_DPX => some (.lines group16BytesPer6Pixels)
  | NTV2_FBF_8BIT_YCBCR | NTV2_FBF_8BIT_YCBCR_YUY2 => some .pairs
  | NTV2_FBF_ARGB | NTV2_FBF_RGBA | NTV2_FBF_ABGR | NTV2_FBF_10BIT_DPX
  | NTV2_FBF_10BIT_DPX_LE | NTV2_FBF_10BIT_RGB => some (.lines group4BytesPerPixel)
  | NTV2_FBF_24BIT_RGB | NTV2_FBF_24BIT_BGR => some (.lines group3BytesPerPixel)
  | NTV2_FBF_48BIT_RGB => some (.lines group6BytesPerPixel)
  | NTV2_FBF_12BIT_RGB_PACKED => some (.lines group36BytesPer8Pixels)
  | NTV2_FBF_10BIT_RAW_YCBCR => some (.lines group20BytesPer16Pixels)
  | NTV2_FBF_10BIT_ARGB => some (.lines group5BytesPerPixel)
  | _ => none

/-- The switch is a choice of a family. -/
lemma copyRaster_eq (fmt : NTV2PixelFormat) (a : CopyRasterArgs) (src : List Byte)
    (dst : Block Byte) :
    copyRaster fmt a src dst = if a.usable then
      match fmt.copyFamily with
      | some F => F.copyRaster a src dst
      | none => some (false, dst)
    else some (false, dst) := by
  cases fmt <;> rfl

/-! ### The rectangle that is left -/

namespace CopyRasterArgs

section Clip

variable (a : CopyRasterArgs) (bytes pixels : ℕ)

/-- The pixels from the offset in the destination to its right edge. -/
def dstRoom : ℕ := a.inDstBytesPerLine.toNat / bytes * pixels - a.inDstHorzPixelOffset.toNat

/-- The pixels from the left edge of the rectangle to the right edge of the source. -/
def srcRoom : ℕ := a.inSrcBytesPerLine.toNat / bytes * pixels - a.inSrcHorzPixelOffset.toNat

/-- The width of the rectangle, clipped to the source. -/
def srcPixels : ℕ := min a.inSrcHorzPixelsToCopy.toNat (a.srcRoom bytes pixels)

/-- The height of the rectangle, clipped to the source. -/
def srcLines : ℕ :=
  min a.inSrcVertLinesToCopy.toNat (a.inSrcTotalLines.toNat - a.inSrcVertLineOffset.toNat)

/-- The height of the rectangle, clipped to both rasters. -/
def clippedLines : ℕ := min a.srcLines (a.inDstTotalLines.toNat - a.inDstVertLineOffset.toNat)

/-- The rectangle, clipped to both rasters, in bytes. -/
def clipped : Rect where
  dst := a.inDstBytesPerLine.toNat * a.inDstVertLineOffset.toNat +
    a.inDstHorzPixelOffset.toNat / pixels * bytes
  dstPitch := a.inDstBytesPerLine.toNat
  src := a.inSrcBytesPerLine.toNat * a.inSrcVertLineOffset.toNat +
    a.inSrcHorzPixelOffset.toNat / pixels * bytes
  srcPitch := a.inSrcBytesPerLine.toNat
  width := min (a.srcPixels bytes pixels) (a.dstRoom bytes pixels) / pixels * bytes
  height := a.clippedLines

/-- The rectangle, clipped to the source, ends at the bottom edge of the destination. -/
def MeetsBottom : Prop :=
  a.inDstVertLineOffset.toNat + a.srcLines = a.inDstTotalLines.toNat

instance : Decidable a.MeetsBottom := inferInstanceAs (Decidable (_ = _))

end Clip

end CopyRasterArgs

/-- What `CopyRaster` is for: where it returns true it has copied the clipped rectangle and
changed nothing else, and it has stayed inside the two rasters. -/
def CopiesRectangle (fmt : NTV2PixelFormat) (a : CopyRasterArgs) : Prop :=
  ∀ src dst : List Byte,
    src.length = a.inSrcBytesPerLine.toNat * a.inSrcTotalLines.toNat →
    dst.length = a.inDstBytesPerLine.toNat * a.inDstTotalLines.toNat →
    ∃ returned after, copyRaster fmt a src ⟨dst, []⟩ = some (returned, after) ∧
      (returned = true → ∃ F, fmt.copyFamily = some F ∧
        (a.clipped F.bytes F.pixels).Copied src dst after.cells)

/-- The same for the function of a family. -/
def CopyFamily.Copies (F : CopyFamily) (a : CopyRasterArgs) : Prop :=
  ∀ src dst : List Byte,
    src.length = a.inSrcBytesPerLine.toNat * a.inSrcTotalLines.toNat →
    dst.length = a.inDstBytesPerLine.toNat * a.inDstTotalLines.toNat →
    ∃ returned after, F.copyRaster a src ⟨dst, []⟩ = some (returned, after) ∧
      (returned = true → (a.clipped F.bytes F.pixels).Copied src dst after.cells)

/-! ### When it does so -/

/-- The pixels are clipped to the right edges as they should be: the rectangle, clipped to the
source, fits the destination or is twice as wide as what fits. In a source of 65536 pixels or
more the rectangle is taken to reach the right edge where it does not, and only a product that
wraps can make that good. -/
def PixelGroup.MeetsRight (G : PixelGroup) (a : CopyRasterArgs) : Prop :=
  let bytes := G.bytes.toNat
  let pixels := G.pixels.toNat
  let srcMaxPixelWidth := a.inSrcBytesPerLine.toNat / bytes * pixels
  if srcMaxPixelWidth < 2 ^ 16 ∨ a.inSrcHorzPixelsToCopy.toNat + a.inSrcHorzPixelOffset.toNat ≤
      srcMaxPixelWidth % 2 ^ 16 ∨ a.srcRoom bytes pixels ≤ a.inSrcHorzPixelsToCopy.toNat then
    a.srcPixels bytes pixels ≤ a.dstRoom bytes pixels ∨
      a.srcPixels bytes pixels = 2 * a.dstRoom bytes pixels
  else if a.srcRoom bytes pixels ≤ a.dstRoom bytes pixels then
    a.srcRoom bytes pixels * bytes % 2 ^ 32 = a.inSrcHorzPixelsToCopy.toNat * bytes
  else
    (a.srcRoom bytes pixels - a.dstRoom bytes pixels) * bytes % 2 ^ 32 =
      min a.inSrcHorzPixelsToCopy.toNat (a.dstRoom bytes pixels) * bytes

/-- The last line of the rectangle starts before 4 GiB in both rasters. -/
def CopyRasterArgs.Below4GiB (a : CopyRasterArgs) : Prop :=
  a.inDstBytesPerLine.toNat * (a.inDstVertLineOffset.toNat + (a.clippedLines - 1)) < 2 ^ 32 ∧
    a.inSrcBytesPerLine.toNat * (a.inSrcVertLineOffset.toNat + (a.clippedLines - 1)) < 2 ^ 32

/-- When a family copies a rectangle that it accepts. -/
def CopyFamily.Meets : CopyFamily → CopyRasterArgs → Prop
  | .lines G, a =>
    a.inSrcVertLinesToCopy.toNat = 0 ∨
      if a.MeetsBottom then a.inSrcHorzPixelsToCopy.toNat = 0
      else G.MeetsRight a ∧ (a.inSrcHorzPixelsToCopy.toNat = 0 ∨ a.Below4GiB)
  | .pairs, a =>
    a.inSrcVertLinesToCopy.toNat = 0 ∨ a.inSrcHorzPixelsToCopy.toNat = 0 ∨
      (¬ a.MeetsBottom ∧
        (a.inDstBytesPerLine.toNat / 2 < 2 ^ 16 ∨ a.srcPixels 2 1 ≤
          max 1 (a.inDstBytesPerLine.toNat / 2 % 2 ^ 16 - a.inDstHorzPixelOffset.toNat)) ∧
        a.inDstBytesPerLine.toNat * a.inDstVertLineOffset.toNat < 2 ^ 32 ∧
        a.inSrcBytesPerLine.toNat * a.inSrcVertLineOffset.toNat < 2 ^ 32)

/-- The checks of a family. -/
def CopyFamily.accepts : CopyFamily → CopyRasterArgs → Bool
  | .lines G => G.accepts
  | .pairs => accepts4BytesPer2Pixels

/-! ### The lines of the rectangle -/

section Lines

variable {a : CopyRasterArgs} {bytes pixels : ℕ}

/-- What the checks of `CopyRaster` say about the two rasters. -/
lemma usable_spec (h : a.usable) :
    0 < a.inDstBytesPerLine.toNat ∧ 0 < a.inSrcBytesPerLine.toNat ∧
      a.inDstVertLineOffset.toNat < a.inDstTotalLines.toNat ∧
      a.inSrcVertLineOffset.toNat < a.inSrcTotalLines.toNat := by
  simp only [CopyRasterArgs.usable, Bool.and_eq_true, decide_eq_true_eq] at h
  obtain ⟨⟨⟨⟨⟨⟨-, hD⟩, hS⟩, -⟩, -⟩, hdst⟩, hsrc⟩ := h
  rw [BitVec.lt_def] at hdst hsrc
  have hpos : ∀ x : ULWord, x ≠ 0 → 0 < x.toNat := fun x hx => Nat.pos_of_ne_zero fun hzero =>
    hx (BitVec.eq_of_toNat_eq hzero)
  exact ⟨hpos _ hD, hpos _ hS, hdst, hsrc⟩

/-- The lines, clipped to the source. -/
lemma toNat_srcLines (hsrc : a.inSrcVertLineOffset.toNat < a.inSrcTotalLines.toNat) :
    (if a.inSrcVertLineOffset.toNat + a.inSrcVertLinesToCopy.toNat > a.inSrcTotalLines.toNat
      then a.inSrcVertLinesToCopy -
        (a.inSrcVertLineOffset + a.inSrcVertLinesToCopy - a.inSrcTotalLines)
      else a.inSrcVertLinesToCopy).toNat = a.srcLines := by
  rw [CopyRasterArgs.srcLines]
  split_ifs with hclip
  · rw [show a.inSrcVertLinesToCopy -
        (a.inSrcVertLineOffset + a.inSrcVertLinesToCopy - a.inSrcTotalLines) =
      a.inSrcTotalLines - a.inSrcVertLineOffset by bv_omega]
    rw [BitVec.toNat_sub_of_le (BitVec.le_def.mpr hsrc.le)]
    omega
  · omega

/-- **Where the rectangle ends at the bottom edge** there is nothing left to do for the code. -/
lemma numVertLinesToCopy_of_meetsBottom
    (hsrc : a.inSrcVertLineOffset.toNat < a.inSrcTotalLines.toNat) (hmeets : a.MeetsBottom) :
    a.numVertLinesToCopy = none := by
  rw [CopyRasterArgs.MeetsBottom] at hmeets
  rw [CopyRasterArgs.numVertLinesToCopy]
  simp only [toNat_srcLines hsrc]
  rw [if_pos (by omega), if_neg (by omega)]

/-- Elsewhere the lines are clipped to both rasters. -/
lemma numVertLinesToCopy_of_not_meetsBottom
    (hsrc : a.inSrcVertLineOffset.toNat < a.inSrcTotalLines.toNat)
    (hdst : a.inDstVertLineOffset.toNat < a.inDstTotalLines.toNat) (hmeets : ¬ a.MeetsBottom) :
    ∃ n, a.numVertLinesToCopy = some n ∧ n.toNat = a.clippedLines := by
  rw [CopyRasterArgs.MeetsBottom] at hmeets
  rw [CopyRasterArgs.numVertLinesToCopy]
  simp only [toNat_srcLines hsrc]
  have hn := toNat_srcLines hsrc
  generalize (if a.inSrcVertLineOffset.toNat + a.inSrcVertLinesToCopy.toNat >
    a.inSrcTotalLines.toNat then a.inSrcVertLinesToCopy -
      (a.inSrcVertLineOffset + a.inSrcVertLinesToCopy - a.inSrcTotalLines)
    else a.inSrcVertLinesToCopy) = n at hn ⊢
  rw [CopyRasterArgs.clippedLines]
  by_cases hpast : a.srcLines + a.inDstVertLineOffset.toNat ≥ a.inDstTotalLines.toNat
  · refine ⟨_, by rw [if_pos hpast, if_pos (by omega)], ?_⟩
    rw [show n - (n + a.inDstVertLineOffset - a.inDstTotalLines) =
      a.inDstTotalLines - a.inDstVertLineOffset by bv_omega]
    rw [BitVec.toNat_sub_of_le (BitVec.le_def.mpr hdst.le)]
    omega
  · exact ⟨n, by rw [if_neg hpast], by omega⟩

/-- There is a line to copy exactly when the rectangle has one. -/
lemma clippedLines_pos (hsrc : a.inSrcVertLineOffset.toNat < a.inSrcTotalLines.toNat)
    (hdst : a.inDstVertLineOffset.toNat < a.inDstTotalLines.toNat) :
    0 < a.clippedLines ↔ 0 < a.inSrcVertLinesToCopy.toNat := by
  rw [CopyRasterArgs.clippedLines, CopyRasterArgs.srcLines]
  omega

/-- A line of the rectangle is a line of both rasters. -/
lemma lt_of_lt_clippedLines {j : ℕ} (hj : j < a.clippedLines) :
    a.inDstVertLineOffset.toNat + j < a.inDstTotalLines.toNat ∧
      a.inSrcVertLineOffset.toNat + j < a.inSrcTotalLines.toNat := by
  rw [CopyRasterArgs.clippedLines, CopyRasterArgs.srcLines] at hj
  omega

/-- The part of a line that is copied ends inside the line. -/
lemma clipped_width_le {perLine offset copied : ℕ} (hoffset : offset % pixels = 0)
    (hcopied : copied ≤ perLine / bytes * pixels - offset) (hin : offset < perLine / bytes * pixels) :
    offset / pixels * bytes + copied / pixels * bytes ≤ perLine := by
  have hpixels : 0 < pixels := Nat.pos_of_ne_zero fun hzero => by simp [hzero] at hin
  obtain ⟨x, rfl⟩ := Nat.dvd_of_mod_eq_zero hoffset
  have hgroups : x + copied / pixels ≤ perLine / bytes := by
    have hle : copied / pixels ≤ (perLine / bytes * pixels - pixels * x) / pixels :=
      Nat.div_le_div_right hcopied
    rw [Nat.mul_comm (perLine / bytes), ← Nat.mul_sub, Nat.mul_div_cancel_left _ hpixels] at hle
    rw [Nat.mul_comm pixels x] at hin
    have hlt := Nat.lt_of_mul_lt_mul_right hin
    omega
  calc pixels * x / pixels * bytes + copied / pixels * bytes
      = (x + copied / pixels) * bytes := by
        rw [Nat.mul_div_cancel_left _ hpixels, Nat.add_mul]
    _ ≤ perLine / bytes * bytes := Nat.mul_le_mul_right bytes hgroups
    _ ≤ perLine := Nat.div_mul_le_self perLine bytes

/-- **The clipped rectangle lies inside both rasters.** -/
lemma clipped_fits (h : a.usable) (hdst : a.inDstHorzPixelOffset.toNat % pixels = 0)
    (hsrc : a.inSrcHorzPixelOffset.toNat % pixels = 0)
    (hdstIn : a.inDstHorzPixelOffset.toNat < a.inDstBytesPerLine.toNat / bytes * pixels)
    (hsrcIn : a.inSrcHorzPixelOffset.toNat < a.inSrcBytesPerLine.toNat / bytes * pixels) :
    (a.clipped bytes pixels).Fits (a.inSrcBytesPerLine.toNat * a.inSrcTotalLines.toNat)
      (a.inDstBytesPerLine.toNat * a.inDstTotalLines.toNat) := by
  have hdstLine := clipped_width_le hdst
    (min_le_right (a.srcPixels bytes pixels) (a.dstRoom bytes pixels)) hdstIn
  have hsrcLine := clipped_width_le hsrc ((min_le_left (a.srcPixels bytes pixels)
    (a.dstRoom bytes pixels)).trans (min_le_right _ _)) hsrcIn
  have hline : ∀ perLine offset start width j total : ℕ, start + width ≤ perLine →
      offset + j < total → perLine * offset + start + j * perLine + width ≤ perLine * total := by
    intro perLine offset start width j total hwidth hj
    calc perLine * offset + start + j * perLine + width
        = perLine * (offset + j) + (start + width) := by ring
      _ ≤ perLine * (offset + j) + perLine := Nat.add_le_add_left hwidth _
      _ = perLine * (offset + j + 1) := by ring
      _ ≤ perLine * total := Nat.mul_le_mul_left perLine hj
  exact ⟨(usable_spec h).1, (Nat.le_add_left _ _).trans hdstLine,
    (Nat.le_add_left _ _).trans hsrcLine,
    fun j hj => hline _ _ _ _ j _ hdstLine (lt_of_lt_clippedLines hj).1,
    fun j hj => hline _ _ _ _ j _ hsrcLine (lt_of_lt_clippedLines hj).2⟩

end Lines

end LibAjaNtv2
