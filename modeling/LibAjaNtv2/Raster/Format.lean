import LibAjaNtv2.Rpc.Nub

/-!
Pixel formats and format descriptors (`ntv2enums.h`, `ntv2formatdescriptor.h`).

* `NTV2PixelFormat`, `NTV2Standard`;
* `NTV2FormatDescriptor`: the fields that say how a raster lies in memory;
* `argbDescriptor`: the descriptors that the table of the library holds for 10-bit ARGB;
  `argbDescriptor_overruns`: **each counts more words in a line than it has pixels**.
-/

namespace LibAjaNtv2

/-- The frame buffer formats. -/
inductive NTV2PixelFormat where
  | NTV2_FBF_10BIT_YCBCR
  | NTV2_FBF_8BIT_YCBCR
  | NTV2_FBF_ARGB
  | NTV2_FBF_RGBA
  | NTV2_FBF_10BIT_RGB
  | NTV2_FBF_8BIT_YCBCR_YUY2
  | NTV2_FBF_ABGR
  | NTV2_FBF_10BIT_DPX
  | NTV2_FBF_10BIT_YCBCR_DPX
  | NTV2_FBF_8BIT_DVCPRO
  | NTV2_FBF_8BIT_YCBCR_420PL3
  | NTV2_FBF_8BIT_HDV
  | NTV2_FBF_24BIT_RGB
  | NTV2_FBF_24BIT_BGR
  | NTV2_FBF_10BIT_YCBCRA
  | NTV2_FBF_10BIT_DPX_LE
  | NTV2_FBF_48BIT_RGB
  | NTV2_FBF_12BIT_RGB_PACKED
  | NTV2_FBF_PRORES_DVCPRO
  | NTV2_FBF_PRORES_HDV
  | NTV2_FBF_10BIT_RGB_PACKED
  | NTV2_FBF_10BIT_ARGB
  | NTV2_FBF_16BIT_ARGB
  | NTV2_FBF_8BIT_YCBCR_422PL3
  | NTV2_FBF_10BIT_RAW_RGB
  | NTV2_FBF_10BIT_RAW_YCBCR
  | NTV2_FBF_10BIT_YCBCR_420PL3_LE
  | NTV2_FBF_10BIT_YCBCR_422PL3_LE
  | NTV2_FBF_10BIT_YCBCR_420PL2
  | NTV2_FBF_10BIT_YCBCR_422PL2
  | NTV2_FBF_8BIT_YCBCR_420PL2
  | NTV2_FBF_8BIT_YCBCR_422PL2
  | NTV2_FBF_NUMFRAMEBUFFERFORMATS
  deriving DecidableEq, Repr

/-- The video standards. -/
inductive NTV2Standard where
  | NTV2_STANDARD_1080
  | NTV2_STANDARD_720
  | NTV2_STANDARD_525
  | NTV2_STANDARD_625
  | NTV2_STANDARD_1080p
  | NTV2_STANDARD_2K
  | NTV2_STANDARD_2Kx1080p
  | NTV2_STANDARD_2Kx1080i
  | NTV2_STANDARD_3840x2160p
  | NTV2_STANDARD_4096x2160p
  | NTV2_STANDARD_3840HFR
  | NTV2_STANDARD_4096HFR
  | NTV2_STANDARD_7680
  | NTV2_STANDARD_8192
  | NTV2_STANDARD_3840i
  | NTV2_STANDARD_4096i
  deriving DecidableEq, Repr

/-- `NTV2FormatDescriptor`, the geometry of the first plane. -/
structure NTV2FormatDescriptor where
  numLines : ULWord
  numPixels : ULWord
  /-- The 32-bit words of a line. -/
  linePitch : ULWord
  mPixelFormat : NTV2PixelFormat
  /-- The bytes of a line of the first plane. -/
  mLinePitch : ULWord
  mNumPlanes : UWord
  mNumBitsLuma : UByte
  mNumBitsChroma : UByte
  deriving DecidableEq, Repr

namespace NTV2FormatDescriptor

variable (desc : NTV2FormatDescriptor)

/-- `IsValid`. -/
def isValid : Bool :=
  desc.numLines ≠ 0 ∧ desc.numPixels ≠ 0 ∧ desc.mNumPlanes ≠ 0 ∧ desc.mLinePitch ≠ 0 ∧
    (desc.mNumBitsLuma ≠ 0 ∨ desc.mNumBitsChroma ≠ 0)

/-- `GetBytesPerRow`, of the first plane. -/
def getBytesPerRow : ULWord := if 0 < desc.mNumPlanes then desc.mLinePitch else 0

/-- `GetRasterWidth`. -/
def getRasterWidth : ULWord := desc.numPixels

end NTV2FormatDescriptor

/-! ### The descriptors of 10-bit ARGB -/

open NTV2Standard in
/-- The lines and pixels of `formatDescriptorTable` for `NTV2_FBF_10BIT_ARGB`. -/
def argbRaster : NTV2Standard → ULWord × ULWord
  | NTV2_STANDARD_1080 => (1080, 1920)
  | NTV2_STANDARD_720 => (720, 1280)
  | NTV2_STANDARD_525 => (486, 720)
  | NTV2_STANDARD_625 => (576, 720)
  | NTV2_STANDARD_1080p => (1080, 1920)
  | NTV2_STANDARD_2K => (1556, 2048)
  | NTV2_STANDARD_2Kx1080p => (1080, 2048)
  | NTV2_STANDARD_2Kx1080i => (1080, 2048)
  | NTV2_STANDARD_3840x2160p => (2160, 3840)
  | NTV2_STANDARD_4096x2160p => (2160, 4096)
  | NTV2_STANDARD_3840HFR => (2160, 3840)
  | NTV2_STANDARD_4096HFR => (2160, 4096)
  | NTV2_STANDARD_7680 => (4320, 7680)
  | NTV2_STANDARD_8192 => (4320, 8192)
  | NTV2_STANDARD_3840i => (2160, 3840)
  | NTV2_STANDARD_4096i => (2160, 4096)

/-- The descriptor that the library builds for a standard and 10-bit ARGB, without VANC: five
bytes a pixel make 5/4 words. -/
def argbDescriptor (inStandard : NTV2Standard) : NTV2FormatDescriptor :=
  let (numLines, numPixels) := argbRaster inStandard
  { numLines := numLines
    numPixels := numPixels
    linePitch := numPixels * 5 / 4
    mPixelFormat := .NTV2_FBF_10BIT_ARGB
    mLinePitch := numPixels * 5 / 4 * 4
    mNumPlanes := 1
    mNumBitsLuma := 0
    mNumBitsChroma := 10 }

/-- **Every such descriptor is valid and counts more words in a line than it has pixels.** -/
lemma argbDescriptor_overruns (inStandard : NTV2Standard) :
    (argbDescriptor inStandard).isValid = true ∧
      (argbDescriptor inStandard).numPixels < (argbDescriptor inStandard).linePitch := by
  cases inStandard <;> decide

end LibAjaNtv2
