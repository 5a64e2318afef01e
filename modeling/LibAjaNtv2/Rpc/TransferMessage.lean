import LibAjaNtv2.Rpc.Registers

/-!
The AutoCirculate transfer message (`ntv2publicinterface.cpp`) and what it nests.

* `FrameStamp`, `AutoCirculateTransferStatusMsg`, `NTV2SegmentedDMAInfo`,
  `NTV2ColorCorrectionData`, `AutoCircVidProcInfo`, `NTV2RP188`, `AutoCirculateTransferMsg`:
  the structures, `rpcEncode` and `rpcDecode` of each;
* `received`: a structure as it arrives, the sent one but for the native size in the headers
  and the flags of the receiver's memory; `carries_frameStamp` … `carries_transfer`: **each
  is read back as that**;
* `transfer_survives`: **a transfer message arrives as it was sent**.
-/

namespace LibAjaNtv2

/-! ### The structures without buffers -/

/-- `NTV2_RP188`. -/
structure NTV2RP188 where
  fDBB : ULWord
  fLo : ULWord
  fHi : ULWord
  deriving DecidableEq, Repr

/-- `NTV2_RP188::RPCEncode`. -/
def NTV2RP188.rpcEncode (host : Host) (self : NTV2RP188) : Encoder Bool := do
  pushU32 host self.fDBB
  pushU32 host self.fLo
  pushU32 host self.fHi
  return true

/-- `NTV2_RP188::RPCDecode`. -/
def NTV2RP188.rpcDecode (host : Host) : Decoder (Bool × NTV2RP188) := do
  let fDBB ← popU32 host
  let fLo ← popU32 host
  let fHi ← popU32 host
  return (true, ⟨fDBB, fLo, fHi⟩)

/-- `NTV2SegmentedDMAInfo`. -/
structure NTV2SegmentedDMAInfo where
  acNumSegments : ULWord
  acNumActiveBytesPerRow : ULWord
  acSegmentHostPitch : ULWord
  acSegmentDevicePitch : ULWord
  deriving DecidableEq, Repr

/-- `NTV2SegmentedDMAInfo::RPCEncode`. -/
def NTV2SegmentedDMAInfo.rpcEncode (host : Host) (self : NTV2SegmentedDMAInfo) :
    Encoder Bool := do
  pushU32 host self.acNumSegments
  pushU32 host self.acNumActiveBytesPerRow
  pushU32 host self.acSegmentHostPitch
  pushU32 host self.acSegmentDevicePitch
  return true

/-- `NTV2SegmentedDMAInfo::RPCDecode`. -/
def NTV2SegmentedDMAInfo.rpcDecode (host : Host) : Decoder (Bool × NTV2SegmentedDMAInfo) := do
  let acNumSegments ← popU32 host
  let acNumActiveBytesPerRow ← popU32 host
  let acSegmentHostPitch ← popU32 host
  let acSegmentDevicePitch ← popU32 host
  return (true,
    ⟨acNumSegments, acNumActiveBytesPerRow, acSegmentHostPitch, acSegmentDevicePitch⟩)

/-- `AutoCircVidProcInfo`. -/
structure AutoCircVidProcInfo where
  mode : ULWord
  foregroundVideoCrosspoint : ULWord
  backgroundVideoCrosspoint : ULWord
  foregroundKeyCrosspoint : ULWord
  backgroundKeyCrosspoint : ULWord
  transitionCoefficient : ULWord
  transitionSoftness : ULWord
  deriving DecidableEq, Repr

/-- `AutoCircVidProcInfo::RPCEncode`. -/
def AutoCircVidProcInfo.rpcEncode (host : Host) (self : AutoCircVidProcInfo) :
    Encoder Bool := do
  pushEnum host self.mode
  pushEnum host self.foregroundVideoCrosspoint
  pushEnum host self.backgroundVideoCrosspoint
  pushEnum host self.foregroundKeyCrosspoint
  pushEnum host self.backgroundKeyCrosspoint
  pushU32 host self.transitionCoefficient
  pushU32 host self.transitionSoftness
  return true

/-- `AutoCircVidProcInfo::RPCDecode`. -/
def AutoCircVidProcInfo.rpcDecode (host : Host) : Decoder (Bool × AutoCircVidProcInfo) := do
  let mode ← popEnum host
  let foregroundVideoCrosspoint ← popEnum host
  let backgroundVideoCrosspoint ← popEnum host
  let foregroundKeyCrosspoint ← popEnum host
  let backgroundKeyCrosspoint ← popEnum host
  let transitionCoefficient ← popU32 host
  let transitionSoftness ← popU32 host
  return (true,
    { mode := mode
      foregroundVideoCrosspoint := foregroundVideoCrosspoint
      backgroundVideoCrosspoint := backgroundVideoCrosspoint
      foregroundKeyCrosspoint := foregroundKeyCrosspoint
      backgroundKeyCrosspoint := backgroundKeyCrosspoint
      transitionCoefficient := transitionCoefficient
      transitionSoftness := transitionSoftness })

/-! ### The structures with buffers -/

/-- `NTV2ColorCorrectionData`. -/
structure NTV2ColorCorrectionData where
  ccMode : ULWord
  ccSaturationValue : ULWord
  ccLookupTables : NTV2Buffer

/-- `NTV2ColorCorrectionData::RPCEncode`. -/
def NTV2ColorCorrectionData.rpcEncode (host : Host) (self : NTV2ColorCorrectionData) :
    Encoder Bool := do
  pushEnum host self.ccMode
  pushU32 host self.ccSaturationValue
  self.ccLookupTables.rpcEncode host true

/-- `NTV2ColorCorrectionData::RPCDecode`. -/
def NTV2ColorCorrectionData.rpcDecode (host : Host) (heap : Heap)
    (self : NTV2ColorCorrectionData) : Decoder (Bool × NTV2ColorCorrectionData) := do
  let ccMode ← popEnum host
  let ccSaturationValue ← popU32 host
  let ccLookupTables ← self.ccLookupTables.rpcDecode host heap true
  return (ccLookupTables.1, ⟨ccMode, ccSaturationValue, ccLookupTables.2⟩)

/-- `FRAME_STAMP`. -/
structure FrameStamp where
  acHeader : NTV2Header
  acFrameTime : ULWord64
  acRequestedFrame : ULWord
  acAudioClockTimeStamp : ULWord64
  acAudioExpectedAddress : ULWord
  acAudioInStartAddress : ULWord
  acAudioInStopAddress : ULWord
  acAudioOutStopAddress : ULWord
  acAudioOutStartAddress : ULWord
  acTotalBytesTransferred : ULWord
  acStartSample : ULWord
  acTimeCodes : NTV2Buffer
  acCurrentTime : ULWord64
  acCurrentFrame : ULWord
  acCurrentFrameTime : ULWord64
  acAudioClockCurrentTime : ULWord64
  acCurrentAudioExpectedAddress : ULWord
  acCurrentAudioStartAddress : ULWord
  acCurrentFieldCount : ULWord
  acCurrentLineCount : ULWord
  acCurrentReps : ULWord
  acCurrentUserCookie : ULWord64
  acFrame : ULWord
  acRP188 : NTV2RP188
  acTrailer : NTV2Trailer

/-- `FRAME_STAMP::RPCEncode`. -/
def FrameStamp.rpcEncode (host : Host) (self : FrameStamp) : Encoder Bool := do
  let ok₁ ← self.acHeader.rpcEncode host
  pushU64 host self.acFrameTime
  pushU32 host self.acRequestedFrame
  pushU64 host self.acAudioClockTimeStamp
  pushU32 host self.acAudioExpectedAddress
  pushU32 host self.acAudioInStartAddress
  pushU32 host self.acAudioInStopAddress
  pushU32 host self.acAudioOutStopAddress
  pushU32 host self.acAudioOutStartAddress
  pushU32 host self.acTotalBytesTransferred
  pushU32 host self.acStartSample
  let ok₂ ← self.acTimeCodes.rpcEncode host true
  pushU64 host self.acCurrentTime
  pushU32 host self.acCurrentFrame
  pushU64 host self.acCurrentFrameTime
  pushU64 host self.acAudioClockCurrentTime
  pushU32 host self.acCurrentAudioExpectedAddress
  pushU32 host self.acCurrentAudioStartAddress
  pushU32 host self.acCurrentFieldCount
  pushU32 host self.acCurrentLineCount
  pushU32 host self.acCurrentReps
  pushU64 host self.acCurrentUserCookie
  pushU32 host self.acFrame
  pushU32 host self.acRP188.fDBB
  pushU32 host self.acRP188.fLo
  pushU32 host self.acRP188.fHi
  let ok₃ ← self.acTrailer.rpcEncode host
  return ok₁ && ok₂ && ok₃

/-- `FRAME_STAMP::RPCDecode`. -/
def FrameStamp.rpcDecode (host : Host) (heap : Heap) (self : FrameStamp) :
    Decoder (Bool × FrameStamp) := do
  let acHeader ← self.acHeader.rpcDecode host
  let acFrameTime ← popU64 host
  let acRequestedFrame ← popU32 host
  let acAudioClockTimeStamp ← popU64 host
  let acAudioExpectedAddress ← popU32 host
  let acAudioInStartAddress ← popU32 host
  let acAudioInStopAddress ← popU32 host
  let acAudioOutStopAddress ← popU32 host
  let acAudioOutStartAddress ← popU32 host
  let acTotalBytesTransferred ← popU32 host
  let acStartSample ← popU32 host
  let acTimeCodes ← self.acTimeCodes.rpcDecode host heap true
  let acCurrentTime ← popU64 host
  let acCurrentFrame ← popU32 host
  let acCurrentFrameTime ← popU64 host
  let acAudioClockCurrentTime ← popU64 host
  let acCurrentAudioExpectedAddress ← popU32 host
  let acCurrentAudioStartAddress ← popU32 host
  let acCurrentFieldCount ← popU32 host
  let acCurrentLineCount ← popU32 host
  let acCurrentReps ← popU32 host
  let acCurrentUserCookie ← popU64 host
  let acFrame ← popU32 host
  let fDBB ← popU32 host
  let fLo ← popU32 host
  let fHi ← popU32 host
  let acTrailer ← NTV2Trailer.rpcDecode host
  return (acHeader.1 && acTimeCodes.1 && acTrailer.1,
    { acHeader := acHeader.2
      acFrameTime := acFrameTime
      acRequestedFrame := acRequestedFrame
      acAudioClockTimeStamp := acAudioClockTimeStamp
      acAudioExpectedAddress := acAudioExpectedAddress
      acAudioInStartAddress := acAudioInStartAddress
      acAudioInStopAddress := acAudioInStopAddress
      acAudioOutStopAddress := acAudioOutStopAddress
      acAudioOutStartAddress := acAudioOutStartAddress
      acTotalBytesTransferred := acTotalBytesTransferred
      acStartSample := acStartSample
      acTimeCodes := acTimeCodes.2
      acCurrentTime := acCurrentTime
      acCurrentFrame := acCurrentFrame
      acCurrentFrameTime := acCurrentFrameTime
      acAudioClockCurrentTime := acAudioClockCurrentTime
      acCurrentAudioExpectedAddress := acCurrentAudioExpectedAddress
      acCurrentAudioStartAddress := acCurrentAudioStartAddress
      acCurrentFieldCount := acCurrentFieldCount
      acCurrentLineCount := acCurrentLineCount
      acCurrentReps := acCurrentReps
      acCurrentUserCookie := acCurrentUserCookie
      acFrame := acFrame
      acRP188 := ⟨fDBB, fLo, fHi⟩
      acTrailer := acTrailer.2 })

/-- `AUTOCIRCULATE_TRANSFER_STATUS`. -/
structure AutoCirculateTransferStatusMsg where
  acHeader : NTV2Header
  acState : ULWord
  acTransferFrame : ULWord
  acBufferLevel : ULWord
  acFramesProcessed : ULWord
  acFramesDropped : ULWord
  acFrameStamp : FrameStamp
  acAudioTransferSize : ULWord
  acAudioStartSample : ULWord
  acAncTransferSize : ULWord
  acAncField2TransferSize : ULWord
  acTrailer : NTV2Trailer

namespace AutoCirculateTransferStatusMsg

/-- `AUTOCIRCULATE_TRANSFER_STATUS::RPCEncode`. -/
def rpcEncode (host : Host) (self : AutoCirculateTransferStatusMsg) : Encoder Bool := do
  let ok₁ ← self.acHeader.rpcEncode host
  pushEnum host self.acState
  pushU32 host self.acTransferFrame
  pushU32 host self.acBufferLevel
  pushU32 host self.acFramesProcessed
  pushU32 host self.acFramesDropped
  let ok₂ ← self.acFrameStamp.rpcEncode host
  pushU32 host self.acAudioTransferSize
  pushU32 host self.acAudioStartSample
  pushU32 host self.acAncTransferSize
  pushU32 host self.acAncField2TransferSize
  let ok₃ ← self.acTrailer.rpcEncode host
  return ok₁ && ok₂ && ok₃

/-- `AUTOCIRCULATE_TRANSFER_STATUS::RPCDecode`. -/
def rpcDecode (host : Host) (heap : Heap) (self : AutoCirculateTransferStatusMsg) :
    Decoder (Bool × AutoCirculateTransferStatusMsg) := do
  let acHeader ← self.acHeader.rpcDecode host
  let acState ← popEnum host
  let acTransferFrame ← popU32 host
  let acBufferLevel ← popU32 host
  let acFramesProcessed ← popU32 host
  let acFramesDropped ← popU32 host
  let acFrameStamp ← self.acFrameStamp.rpcDecode host heap
  let acAudioTransferSize ← popU32 host
  let acAudioStartSample ← popU32 host
  let acAncTransferSize ← popU32 host
  let acAncField2TransferSize ← popU32 host
  let acTrailer ← NTV2Trailer.rpcDecode host
  return (acHeader.1 && acFrameStamp.1 && acTrailer.1,
    { acHeader := acHeader.2
      acState := acState
      acTransferFrame := acTransferFrame
      acBufferLevel := acBufferLevel
      acFramesProcessed := acFramesProcessed
      acFramesDropped := acFramesDropped
      acFrameStamp := acFrameStamp.2
      acAudioTransferSize := acAudioTransferSize
      acAudioStartSample := acAudioStartSample
      acAncTransferSize := acAncTransferSize
      acAncField2TransferSize := acAncField2TransferSize
      acTrailer := acTrailer.2 })

end AutoCirculateTransferStatusMsg

/-- `AUTOCIRCULATE_TRANSFER`. -/
structure AutoCirculateTransferMsg where
  acHeader : NTV2Header
  acVideoBuffer : NTV2Buffer
  acAudioBuffer : NTV2Buffer
  acANCBuffer : NTV2Buffer
  acANCField2Buffer : NTV2Buffer
  acOutputTimeCodes : NTV2Buffer
  acTransferStatus : AutoCirculateTransferStatusMsg
  acInUserCookie : ULWord64
  acInVideoDMAOffset : ULWord
  acInSegmentedDMAInfo : NTV2SegmentedDMAInfo
  acColorCorrection : NTV2ColorCorrectionData
  acFrameBufferFormat : ULWord
  acFrameBufferOrientation : ULWord
  acVidProcInfo : AutoCircVidProcInfo
  acVideoQuarterSizeExpand : ULWord
  acHDMIAuxData : NTV2Buffer
  acPeerToPeerFlags : ULWord
  acFrameRepeatCount : ULWord
  acDesiredFrame : ULWord
  acRP188 : NTV2RP188
  acCrosspoint : ULWord
  acTrailer : NTV2Trailer

namespace AutoCirculateTransferMsg

/-- `AUTOCIRCULATE_TRANSFER::RPCEncode`. -/
def rpcEncode (host : Host) (self : AutoCirculateTransferMsg) : Encoder Bool := do
  let ok₁ ← self.acHeader.rpcEncode host
  let ok₂ ← self.acVideoBuffer.rpcEncode host true
  let ok₃ ← self.acAudioBuffer.rpcEncode host true
  let ok₄ ← self.acANCBuffer.rpcEncode host true
  let ok₅ ← self.acANCField2Buffer.rpcEncode host true
  let ok₆ ← self.acOutputTimeCodes.rpcEncode host true
  let ok₇ ← self.acTransferStatus.rpcEncode host
  pushU64 host self.acInUserCookie
  pushU32 host self.acInVideoDMAOffset
  let ok₈ ← self.acInSegmentedDMAInfo.rpcEncode host
  let ok₉ ← self.acColorCorrection.rpcEncode host
  pushEnum host self.acFrameBufferFormat
  pushEnum host self.acFrameBufferOrientation
  let ok₁₀ ← self.acVidProcInfo.rpcEncode host
  pushEnum host self.acVideoQuarterSizeExpand
  let ok₁₁ ← self.acHDMIAuxData.rpcEncode host true
  pushU32 host self.acPeerToPeerFlags
  pushU32 host self.acFrameRepeatCount
  pushU32 host self.acDesiredFrame
  let ok₁₂ ← self.acRP188.rpcEncode host
  pushEnum host self.acCrosspoint
  let ok₁₃ ← self.acTrailer.rpcEncode host
  return ok₁ && ok₂ && ok₃ && ok₄ && ok₅ && ok₆ && ok₇ && ok₈ && ok₉ && ok₁₀ && ok₁₁ && ok₁₂ &&
    ok₁₃

/-- `AUTOCIRCULATE_TRANSFER::RPCDecode`. -/
def rpcDecode (host : Host) (heap : Heap) (self : AutoCirculateTransferMsg) :
    Decoder (Bool × AutoCirculateTransferMsg) := do
  let acHeader ← self.acHeader.rpcDecode host
  let acVideoBuffer ← self.acVideoBuffer.rpcDecode host heap true
  let acAudioBuffer ← self.acAudioBuffer.rpcDecode host heap true
  let acANCBuffer ← self.acANCBuffer.rpcDecode host heap true
  let acANCField2Buffer ← self.acANCField2Buffer.rpcDecode host heap true
  let acOutputTimeCodes ← self.acOutputTimeCodes.rpcDecode host heap true
  let acTransferStatus ← self.acTransferStatus.rpcDecode host heap
  let acInUserCookie ← popU64 host
  let acInVideoDMAOffset ← popU32 host
  let acInSegmentedDMAInfo ← NTV2SegmentedDMAInfo.rpcDecode host
  let acColorCorrection ← self.acColorCorrection.rpcDecode host heap
  let acFrameBufferFormat ← popEnum host
  let acFrameBufferOrientation ← popEnum host
  let acVidProcInfo ← AutoCircVidProcInfo.rpcDecode host
  let acVideoQuarterSizeExpand ← popEnum host
  let acHDMIAuxData ← self.acHDMIAuxData.rpcDecode host heap true
  let acPeerToPeerFlags ← popU32 host
  let acFrameRepeatCount ← popU32 host
  let acDesiredFrame ← popU32 host
  let acRP188 ← NTV2RP188.rpcDecode host
  let acCrosspoint ← popEnum host
  let acTrailer ← NTV2Trailer.rpcDecode host
  return (acHeader.1 && acVideoBuffer.1 && acAudioBuffer.1 && acANCBuffer.1 &&
      acANCField2Buffer.1 && acOutputTimeCodes.1 && acTransferStatus.1 && acInSegmentedDMAInfo.1 &&
      acColorCorrection.1 && acVidProcInfo.1 && acHDMIAuxData.1 && acRP188.1 && acTrailer.1,
    { acHeader := acHeader.2
      acVideoBuffer := acVideoBuffer.2
      acAudioBuffer := acAudioBuffer.2
      acANCBuffer := acANCBuffer.2
      acANCField2Buffer := acANCField2Buffer.2
      acOutputTimeCodes := acOutputTimeCodes.2
      acTransferStatus := acTransferStatus.2
      acInUserCookie := acInUserCookie
      acInVideoDMAOffset := acInVideoDMAOffset
      acInSegmentedDMAInfo := acInSegmentedDMAInfo.2
      acColorCorrection := acColorCorrection.2
      acFrameBufferFormat := acFrameBufferFormat
      acFrameBufferOrientation := acFrameBufferOrientation
      acVidProcInfo := acVidProcInfo.2
      acVideoQuarterSizeExpand := acVideoQuarterSizeExpand
      acHDMIAuxData := acHDMIAuxData.2
      acPeerToPeerFlags := acPeerToPeerFlags
      acFrameRepeatCount := acFrameRepeatCount
      acDesiredFrame := acDesiredFrame
      acRP188 := acRP188.2
      acCrosspoint := acCrosspoint
      acTrailer := acTrailer.2 })

end AutoCirculateTransferMsg

/-! ### What arrives -/

/-- The enumerations of the structure fit the 16 bits they travel in. -/
structure AutoCircVidProcInfo.EnumsFit (src : AutoCircVidProcInfo) : Prop where
  mode : src.mode.toNat < 65536
  foregroundVideo : src.foregroundVideoCrosspoint.toNat < 65536
  backgroundVideo : src.backgroundVideoCrosspoint.toNat < 65536
  foregroundKey : src.foregroundKeyCrosspoint.toNat < 65536
  backgroundKey : src.backgroundKeyCrosspoint.toNat < 65536

/-- The enumerations of the message fit the 16 bits they travel in. -/
structure AutoCirculateTransferMsg.EnumsFit (src : AutoCirculateTransferMsg) : Prop where
  acState : src.acTransferStatus.acState.toNat < 65536
  ccMode : src.acColorCorrection.ccMode.toNat < 65536
  acFrameBufferFormat : src.acFrameBufferFormat.toNat < 65536
  acFrameBufferOrientation : src.acFrameBufferOrientation.toNat < 65536
  acVidProcInfo : src.acVidProcInfo.EnumsFit
  acVideoQuarterSizeExpand : src.acVideoQuarterSizeExpand.toNat < 65536
  acCrosspoint : src.acCrosspoint.toNat < 65536

/-- The memory a message takes. -/
structure AutoCirculateTransferMsg.HeapHas (heap : Heap) (src : AutoCirculateTransferMsg) :
    Prop where
  acVideoBuffer : heap src.acVideoBuffer.bytes.length = true
  acAudioBuffer : heap src.acAudioBuffer.bytes.length = true
  acANCBuffer : heap src.acANCBuffer.bytes.length = true
  acANCField2Buffer : heap src.acANCField2Buffer.bytes.length = true
  acOutputTimeCodes : heap src.acOutputTimeCodes.bytes.length = true
  acTimeCodes : heap src.acTransferStatus.acFrameStamp.acTimeCodes.bytes.length = true
  ccLookupTables : heap src.acColorCorrection.ccLookupTables.bytes.length = true
  acHDMIAuxData : heap src.acHDMIAuxData.bytes.length = true

/-- The look-up tables as they arrive in place of `dst`. -/
def NTV2ColorCorrectionData.received (dst src : NTV2ColorCorrectionData) :
    NTV2ColorCorrectionData :=
  { src with ccLookupTables := dst.ccLookupTables.received src.ccLookupTables }

/-- The frame stamp as it arrives in place of `dst`. -/
def FrameStamp.received (dst src : FrameStamp) : FrameStamp :=
  { src with
    acHeader := dst.acHeader.received src.acHeader
    acTimeCodes := dst.acTimeCodes.received src.acTimeCodes }

/-- The transfer status as it arrives in place of `dst`. -/
def AutoCirculateTransferStatusMsg.received (dst src : AutoCirculateTransferStatusMsg) :
    AutoCirculateTransferStatusMsg :=
  { src with
    acHeader := dst.acHeader.received src.acHeader
    acFrameStamp := dst.acFrameStamp.received src.acFrameStamp }

/-- The message as it arrives in place of `dst`. -/
def AutoCirculateTransferMsg.received (dst src : AutoCirculateTransferMsg) :
    AutoCirculateTransferMsg :=
  { src with
    acHeader := dst.acHeader.received src.acHeader
    acVideoBuffer := dst.acVideoBuffer.received src.acVideoBuffer
    acAudioBuffer := dst.acAudioBuffer.received src.acAudioBuffer
    acANCBuffer := dst.acANCBuffer.received src.acANCBuffer
    acANCField2Buffer := dst.acANCField2Buffer.received src.acANCField2Buffer
    acOutputTimeCodes := dst.acOutputTimeCodes.received src.acOutputTimeCodes
    acTransferStatus := dst.acTransferStatus.received src.acTransferStatus
    acColorCorrection := dst.acColorCorrection.received src.acColorCorrection
    acHDMIAuxData := dst.acHDMIAuxData.received src.acHDMIAuxData }

section Arrives

variable (host : Host) {heap : Heap}

lemma carries_rp188 (src : NTV2RP188) :
    Carries (src.rpcEncode host) true (NTV2RP188.rpcDecode host) (true, src) := by
  rw [NTV2RP188.rpcEncode, NTV2RP188.rpcDecode]
  iterate 3 refine (carries_u32 host _).bind ?_
  exact Carries.pure true _

lemma carries_segmentedDMAInfo (src : NTV2SegmentedDMAInfo) :
    Carries (src.rpcEncode host) true (NTV2SegmentedDMAInfo.rpcDecode host) (true, src) := by
  rw [NTV2SegmentedDMAInfo.rpcEncode, NTV2SegmentedDMAInfo.rpcDecode]
  iterate 4 refine (carries_u32 host _).bind ?_
  exact Carries.pure true _

lemma carries_vidProcInfo {src : AutoCircVidProcInfo} (h : src.EnumsFit) :
    Carries (src.rpcEncode host) true (AutoCircVidProcInfo.rpcDecode host) (true, src) := by
  rw [AutoCircVidProcInfo.rpcEncode, AutoCircVidProcInfo.rpcDecode]
  refine (carries_enum host h.mode).bind ?_
  refine (carries_enum host h.foregroundVideo).bind ?_
  refine (carries_enum host h.backgroundVideo).bind ?_
  refine (carries_enum host h.foregroundKey).bind ?_
  refine (carries_enum host h.backgroundKey).bind ?_
  iterate 2 refine (carries_u32 host _).bind ?_
  exact Carries.pure true _

lemma carries_colorCorrection (dst : NTV2ColorCorrectionData) {src : NTV2ColorCorrectionData}
    (hmode : src.ccMode.toNat < 65536) (hheap : heap src.ccLookupTables.bytes.length = true) :
    Carries (src.rpcEncode host) true (dst.rpcDecode host heap) (true, dst.received src) := by
  rw [NTV2ColorCorrectionData.rpcEncode, NTV2ColorCorrectionData.rpcDecode]
  refine (carries_enum host hmode).bind ?_
  refine (carries_u32 host _).bind ?_
  exact (carries_buffer host _ _ hheap).map _

/-- A frame stamp is read back. -/
lemma carries_frameStamp (dst : FrameStamp) {src : FrameStamp}
    (hheap : heap src.acTimeCodes.bytes.length = true) :
    Carries (src.rpcEncode host) true (dst.rpcDecode host heap) (true, dst.received src) := by
  rw [FrameStamp.rpcEncode, FrameStamp.rpcDecode]
  refine (carries_header host _ _).bind ?_
  refine (carries_u64 host _).bind ?_
  refine (carries_u32 host _).bind ?_
  refine (carries_u64 host _).bind ?_
  iterate 7 refine (carries_u32 host _).bind ?_
  refine (carries_buffer host _ _ hheap).bind ?_
  refine (carries_u64 host _).bind ?_
  refine (carries_u32 host _).bind ?_
  iterate 2 refine (carries_u64 host _).bind ?_
  iterate 5 refine (carries_u32 host _).bind ?_
  refine (carries_u64 host _).bind ?_
  iterate 4 refine (carries_u32 host _).bind ?_
  refine (carries_trailer host _).bind ?_
  exact Carries.pure _ _

/-- A transfer status is read back. -/
lemma carries_transferStatus (dst : AutoCirculateTransferStatusMsg)
    {src : AutoCirculateTransferStatusMsg} (hstate : src.acState.toNat < 65536)
    (hheap : heap src.acFrameStamp.acTimeCodes.bytes.length = true) :
    Carries (src.rpcEncode host) true (dst.rpcDecode host heap) (true, dst.received src) := by
  rw [AutoCirculateTransferStatusMsg.rpcEncode, AutoCirculateTransferStatusMsg.rpcDecode]
  refine (carries_header host _ _).bind ?_
  refine (carries_enum host hstate).bind ?_
  iterate 4 refine (carries_u32 host _).bind ?_
  refine (carries_frameStamp host _ hheap).bind ?_
  iterate 4 refine (carries_u32 host _).bind ?_
  refine (carries_trailer host _).bind ?_
  exact Carries.pure _ _

/-- A transfer message is read back. -/
lemma carries_transfer (dst : AutoCirculateTransferMsg) {src : AutoCirculateTransferMsg}
    (henums : src.EnumsFit) (hheap : src.HeapHas heap) :
    Carries (src.rpcEncode host) true (dst.rpcDecode host heap) (true, dst.received src) := by
  rw [AutoCirculateTransferMsg.rpcEncode, AutoCirculateTransferMsg.rpcDecode]
  refine (carries_header host _ _).bind ?_
  refine (carries_buffer host _ _ hheap.acVideoBuffer).bind ?_
  refine (carries_buffer host _ _ hheap.acAudioBuffer).bind ?_
  refine (carries_buffer host _ _ hheap.acANCBuffer).bind ?_
  refine (carries_buffer host _ _ hheap.acANCField2Buffer).bind ?_
  refine (carries_buffer host _ _ hheap.acOutputTimeCodes).bind ?_
  refine (carries_transferStatus host _ henums.acState hheap.acTimeCodes).bind ?_
  refine (carries_u64 host _).bind ?_
  refine (carries_u32 host _).bind ?_
  refine (carries_segmentedDMAInfo host _).bind ?_
  refine (carries_colorCorrection host _ henums.ccMode hheap.ccLookupTables).bind ?_
  refine (carries_enum host henums.acFrameBufferFormat).bind ?_
  refine (carries_enum host henums.acFrameBufferOrientation).bind ?_
  refine (carries_vidProcInfo host henums.acVidProcInfo).bind ?_
  refine (carries_enum host henums.acVideoQuarterSizeExpand).bind ?_
  refine (carries_buffer host _ _ hheap.acHDMIAuxData).bind ?_
  iterate 3 refine (carries_u32 host _).bind ?_
  refine (carries_rp188 host _).bind ?_
  refine (carries_enum host henums.acCrosspoint).bind ?_
  refine (carries_trailer host _).bind ?_
  exact Carries.pure _ _

end Arrives

/-! ### The same message -/

/-- A header without the native size. -/
def NTV2Header.portable (h : NTV2Header) : NTV2Header := { h with fSizeInBytes := 0 }

/-- A buffer without the flags, which say who owns its memory. -/
def NTV2Buffer.portable (b : NTV2Buffer) : NTV2Buffer := { b with fFlags := 0 }

/-- A frame stamp without what belongs to the machine it is on. -/
def FrameStamp.portable (m : FrameStamp) : FrameStamp :=
  { m with acHeader := m.acHeader.portable, acTimeCodes := m.acTimeCodes.portable }

/-- A transfer status without what belongs to the machine it is on. -/
def AutoCirculateTransferStatusMsg.portable (m : AutoCirculateTransferStatusMsg) :
    AutoCirculateTransferStatusMsg :=
  { m with acHeader := m.acHeader.portable, acFrameStamp := m.acFrameStamp.portable }

/-- A transfer message without what belongs to the machine it is on. -/
def AutoCirculateTransferMsg.portable (m : AutoCirculateTransferMsg) :
    AutoCirculateTransferMsg :=
  { m with
    acHeader := m.acHeader.portable
    acVideoBuffer := m.acVideoBuffer.portable
    acAudioBuffer := m.acAudioBuffer.portable
    acANCBuffer := m.acANCBuffer.portable
    acANCField2Buffer := m.acANCField2Buffer.portable
    acOutputTimeCodes := m.acOutputTimeCodes.portable
    acTransferStatus := m.acTransferStatus.portable
    acColorCorrection :=
      { m.acColorCorrection with
        ccLookupTables := m.acColorCorrection.ccLookupTables.portable }
    acHDMIAuxData := m.acHDMIAuxData.portable }

lemma received_portable (dst src : AutoCirculateTransferMsg) :
    (dst.received src).portable = src.portable := rfl

/-- **A transfer message encoded after any prefix is decoded from there on with every field
but the native sizes in its headers, and the index ends right after it.** -/
theorem transfer_survives (host : Host) (heap : Heap) (dst src : AutoCirculateTransferMsg)
    (henums : src.EnumsFit) (hheap : src.HeapHas heap) (before after : List Byte) :
    (src.rpcEncode host before).1 = true ∧
      ∃ got : AutoCirculateTransferMsg,
        dst.rpcDecode host heap ((src.rpcEncode host before).2 ++ after) before.length =
          .ok ((true, got), (src.rpcEncode host before).2.length) ∧
        got.portable = src.portable := by
  obtain ⟨bs, he, hp⟩ := carries_transfer host dst henums hheap
  rw [he]
  refine ⟨rfl, dst.received src, ?_, received_portable dst src⟩
  rw [hp]
  simp

/-- A transfer message with the given video and audio, and nothing else in it. -/
def AutoCirculateTransferMsg.plain (acVideoBuffer acAudioBuffer : NTV2Buffer) :
    AutoCirculateTransferMsg where
  acHeader := .zero
  acVideoBuffer := acVideoBuffer
  acAudioBuffer := acAudioBuffer
  acANCBuffer := .null
  acANCField2Buffer := .null
  acOutputTimeCodes := .null
  acTransferStatus :=
    { acHeader := .zero, acState := 0, acTransferFrame := 0, acBufferLevel := 0
      acFramesProcessed := 0, acFramesDropped := 0
      acFrameStamp :=
        { acHeader := .zero, acFrameTime := 0, acRequestedFrame := 0, acAudioClockTimeStamp := 0
          acAudioExpectedAddress := 0, acAudioInStartAddress := 0, acAudioInStopAddress := 0
          acAudioOutStopAddress := 0, acAudioOutStartAddress := 0, acTotalBytesTransferred := 0
          acStartSample := 0, acTimeCodes := .null, acCurrentTime := 0, acCurrentFrame := 0
          acCurrentFrameTime := 0, acAudioClockCurrentTime := 0
          acCurrentAudioExpectedAddress := 0, acCurrentAudioStartAddress := 0
          acCurrentFieldCount := 0, acCurrentLineCount := 0, acCurrentReps := 0
          acCurrentUserCookie := 0, acFrame := 0, acRP188 := ⟨0, 0, 0⟩, acTrailer := .zero }
      acAudioTransferSize := 0, acAudioStartSample := 0, acAncTransferSize := 0
      acAncField2TransferSize := 0, acTrailer := .zero }
  acInUserCookie := 0
  acInVideoDMAOffset := 0
  acInSegmentedDMAInfo := ⟨0, 0, 0, 0⟩
  acColorCorrection := ⟨0, 0, .null⟩
  acFrameBufferFormat := 0
  acFrameBufferOrientation := 0
  acVidProcInfo := ⟨0, 0, 0, 0, 0, 0, 0⟩
  acVideoQuarterSizeExpand := 0
  acHDMIAuxData := .null
  acPeerToPeerFlags := 0
  acFrameRepeatCount := 0
  acDesiredFrame := 0
  acRP188 := ⟨0, 0, 0⟩
  acCrosspoint := 0
  acTrailer := .zero

/-- Three bytes of video and one of audio, after two bytes of something else. -/
theorem transfer_survives_plain :
    ∃ got : AutoCirculateTransferMsg,
      (AutoCirculateTransferMsg.plain .null .null).rpcDecode ⟨false⟩ (fun _ => true)
          (((AutoCirculateTransferMsg.plain ⟨[7, 8, 9], 0, by decide⟩
            ⟨[5], 0, by decide⟩).rpcEncode ⟨false⟩ [1, 2]).2 ++ [3]) 2 =
        .ok ((true, got), ((AutoCirculateTransferMsg.plain ⟨[7, 8, 9], 0, by decide⟩
          ⟨[5], 0, by decide⟩).rpcEncode ⟨false⟩ [1, 2]).2.length) ∧
      got.portable = (AutoCirculateTransferMsg.plain ⟨[7, 8, 9], 0, by decide⟩
        ⟨[5], 0, by decide⟩).portable :=
  (transfer_survives ⟨false⟩ (fun _ => true) (AutoCirculateTransferMsg.plain .null .null)
    (AutoCirculateTransferMsg.plain ⟨[7, 8, 9], 0, by decide⟩ ⟨[5], 0, by decide⟩)
    ⟨by decide, by decide, by decide, by decide,
      ⟨by decide, by decide, by decide, by decide, by decide⟩, by decide, by decide⟩
    ⟨rfl, rfl, rfl, rfl, rfl, rfl, rfl, rfl⟩ [1, 2] [3]).2

end LibAjaNtv2
