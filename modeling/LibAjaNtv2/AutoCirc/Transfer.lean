import LibAjaNtv2.AutoCirc.Control

/-!
The transfer functions of AutoCirculate (`driver/ntv2autocirc.c`).

* `AutoCirculateTransfer`, `AutoCirculateTransferStatus`: what a request carries
  and what it gets back;
* `beginAutoCircTransfer`, `completeAutoCircTransfer`: the two halves around the DMA;
* `autoCircDmaAudioSetup`: where the audio of a frame goes;
* `autoCircTransfer`: the whole request, with the frame stamps it indexes and the
  DMA transfers it starts.

What the driver asks the system for on the way (sizes, addresses, the answers of
the DMA engine) is a `TransferEnv`.
-/

namespace LibAjaNtv2

open NTV2AutoCirculateState

/-- `AUTOCIRCULATE_P2P_PREPARE`. -/
def autocirculateP2PPrepare : ℕ := 0x10000000
/-- `AUTOCIRCULATE_P2P_COMPLETE`. -/
def autocirculateP2PComplete : ℕ := 0x20000000
/-- `AUTOCIRCULATE_P2P_TARGET`. -/
def autocirculateP2PTarget : ℕ := 0x40000000
/-- `AUTOCIRCULATE_P2P_TRANSFER`. -/
def autocirculateP2PTransfer : ℕ := 0x80000000

/-- `(flags & flag) == flag`. -/
def hasFlag (flags flag : ℕ) : Bool := flags &&& flag == flag

/-- A user buffer: whether there is one, and `fByteCount`. -/
structure UserBuffer where
  fUserSpacePtr : Bool
  fByteCount : ℕ
  deriving DecidableEq, Repr

/-- `AUTOCIRCULATE_TRANSFER`, the fields the driver reads. -/
structure AutoCirculateTransfer where
  acCrosspoint : NTV2Crosspoint
  acDesiredFrame : Int
  acFrameRepeatCount : ℕ
  acInUserCookie : ℕ
  acPeerToPeerFlags : ℕ
  acInVideoDMAOffset : ℕ
  acNumSegments : ℕ
  acVideoBuffer : UserBuffer
  acAudioBuffer : UserBuffer
  acANCBuffer : UserBuffer
  acANCField2Buffer : UserBuffer
  deriving DecidableEq, Repr

/-- `AUTOCIRCULATE_TRANSFER_STATUS` with its frame stamp. -/
structure AutoCirculateTransferStatus where
  acState : NTV2AutoCirculateState
  acTransferFrame : ℕ
  acBufferLevel : ℕ
  acFramesProcessed : ℕ
  acFramesDropped : ℕ
  acAudioTransferSize : ℕ
  acAncTransferSize : ℕ
  acAncField2TransferSize : ℕ
  acFrame : ℕ
  acFrameTime : ℕ
  acCurrentReps : Int
  acCurrentUserCookie : ℕ
  acCurrentFrame : ℕ
  acCurrentFrameTime : ℕ
  deriving DecidableEq, Repr

/-- What the driver asks the system for during a transfer. -/
structure TransferEnv where
  /-- `GetFrameBufferSize` of the channel. -/
  frameBufferSize : ℕ
  /-- `GetFrameBufferSize` of the channel whose size the ANC offsets refer to. -/
  ancFrameBufferSize : ℕ
  ancField1Offset : ℕ
  ancField2Offset : ℕ
  /-- `kVRegAdvancedIndexing ≠ 0`. -/
  advancedIndexing : Bool
  /-- `AutoBoardCanDoP2P`. -/
  boardCanDoP2P : Bool
  /-- The answer of `AutoCircP2PCopy`. -/
  p2pCopy : Bool
  frameApertureAddress : ℕ
  frameApertureSize : ℕ
  messageAddress : ℕ
  audioWrapAddress : ℕ
  audioReadOffset : ℕ
  /-- `AutoCircCanDoFieldMode`. -/
  canDoFieldMode : Bool
  /-- The answer of `AutoDmaTransfer` to the `n`th transfer of the request. -/
  dmaStatus : ℕ → Ntv2Status

/-- A request for one frame, between device and host. -/
def AutoCirculateTransfer.plain (channelSpec : NTV2Crosspoint) (desiredFrame : Int)
    (frameRepeatCount : ℕ) : AutoCirculateTransfer where
  acCrosspoint := channelSpec
  acDesiredFrame := desiredFrame
  acFrameRepeatCount := frameRepeatCount
  acInUserCookie := 0
  acPeerToPeerFlags := 0
  acInVideoDMAOffset := 0
  acNumSegments := 0
  acVideoBuffer := ⟨true, 0x800000⟩
  acAudioBuffer := ⟨false, 0⟩
  acANCBuffer := ⟨false, 0⟩
  acANCField2Buffer := ⟨false, 0⟩

/-- A status that has not been filled in. -/
def AutoCirculateTransferStatus.zero : AutoCirculateTransferStatus where
  acState := disabled
  acTransferFrame := 0
  acBufferLevel := 0
  acFramesProcessed := 0
  acFramesDropped := 0
  acAudioTransferSize := 0
  acAncTransferSize := 0
  acAncField2TransferSize := 0
  acFrame := 0
  acFrameTime := 0
  acCurrentReps := 0
  acCurrentUserCookie := 0
  acCurrentFrame := 0
  acCurrentFrameTime := 0

/-- A device with frames of 8 MB, on which every DMA succeeds. -/
def TransferEnv.plain : TransferEnv where
  frameBufferSize := 0x800000
  ancFrameBufferSize := 0x800000
  ancField1Offset := 0
  ancField2Offset := 0
  advancedIndexing := false
  boardCanDoP2P := false
  p2pCopy := false
  frameApertureAddress := 0
  frameApertureSize := 0
  messageAddress := 0
  audioWrapAddress := 0
  audioReadOffset := 0
  canDoFieldMode := false
  dmaStatus := fun _ => .success

/-! ### Begin and complete -/

/-- `BeginAutoCircTransfer`. -/
def beginAutoCircTransfer (frameNumber : ℕ) (pTransfer : AutoCirculateTransfer)
    (env : TransferEnv) (pAuto : InternalAutoCirculate) : InternalAutoCirculate :=
  let withAnc := pAuto.circulateWithCustomAncData
  let pAuto := { pAuto with
    transferFrame := frameNumber
    audioTransferOffset := 0
    audioTransferSize := 0
    ancTransferOffset :=
      if withAnc then toUInt32 ((env.ancFrameBufferSize : Int) - env.ancField1Offset) else 0
    ancField2TransferOffset :=
      if withAnc then toUInt32 ((env.ancFrameBufferSize : Int) - env.ancField2Offset) else 0
    ancTransferSize := 0
    ancField2TransferSize := 0 }
  if pAuto.recording then
    if withAnc then
      { pAuto with
        ancTransferSize := pTransfer.acANCBuffer.fByteCount
        ancField2TransferSize := pTransfer.acANCField2Buffer.fByteCount }
    else pAuto
  else
    let audioSize :=
      if pAuto.circulateWithAudio && pTransfer.acAudioBuffer.fUserSpacePtr then
        pTransfer.acAudioBuffer.fByteCount else 0
    let ancSize :=
      if withAnc && pTransfer.acANCBuffer.fUserSpacePtr then
        pTransfer.acANCBuffer.fByteCount else 0
    let ancField2Size :=
      if withAnc && pTransfer.acANCField2Buffer.fUserSpacePtr then
        pTransfer.acANCField2Buffer.fByteCount else 0
    { pAuto with
      audioTransferSize := audioSize
      ancTransferSize := ancSize
      ancField2TransferSize := ancField2Size
      frameStamp := Function.update pAuto.frameStamp frameNumber
        { pAuto.frameStamp frameNumber with
          repeatCount := toInt32 pTransfer.acFrameRepeatCount
          hUser := pTransfer.acInUserCookie
          ancTransferSize := ancSize
          ancField2TransferSize := ancField2Size } }

/-- The frame number is one of the channel's, as `CompleteAutoCircTransfer` tests it. -/
def completeInRange (frameNumber : ℕ) (pAuto : InternalAutoCirculate) : Bool :=
  frameNumber ≥ toUInt32 pAuto.startFrame && frameNumber ≤ toUInt32 pAuto.endFrame

/-- What `CompleteAutoCircTransfer` does to the circulator. -/
def completeAuto (frameNumber : ℕ) (updateValid transferPending : Bool)
    (pAuto : InternalAutoCirculate) : InternalAutoCirculate :=
  let stamp := pAuto.frameStamp frameNumber
  if completeInRange frameNumber pAuto then
    if pAuto.recording then
      pAuto.setStamp frameNumber
        { stamp with validCount := if updateValid then 0 else stamp.validCount }
    else
      pAuto.setStamp frameNumber
        { stamp with
          videoTransferPending := transferPending
          validCount := if updateValid then stamp.repeatCount else stamp.validCount }
  else pAuto

/-- What `CompleteAutoCircTransfer` tells the caller, from the circulator it leaves. -/
def completeStatus (frameNumber : ℕ) (pAuto : InternalAutoCirculate)
    (out : AutoCirculateTransferStatus) : AutoCirculateTransferStatus :=
  let stamp := pAuto.frameStamp frameNumber
  let out :=
    if completeInRange frameNumber pAuto then
      let out := { out with
        acTransferFrame := frameNumber
        acCurrentUserCookie := stamp.hUser }
      if pAuto.recording then
        { out with
          acFrame := frameNumber
          acFrameTime := stamp.frameTime
          acCurrentReps := stamp.validCount
          acAudioTransferSize := pAuto.audioTransferSize
          acAncTransferSize := stamp.ancTransferSize
          acAncField2TransferSize := stamp.ancField2TransferSize }
      else { out with acCurrentReps := stamp.repeatCount }
    else { out with acTransferFrame := ntv2InvalidFrame }
  let ulCurrentFrame := toUInt32 pAuto.activeFrame
  let active := pAuto.frameStamp ulCurrentFrame
  let out := { out with
    acBufferLevel := autoCircGetBufferLevel pAuto
    acState := pAuto.state
    acFramesDropped := pAuto.droppedFrames
    acFramesProcessed := pAuto.framesProcessed
    acCurrentFrame := ulCurrentFrame
    acCurrentFrameTime := if completeInRange ulCurrentFrame pAuto then active.frameTime else 0 }
  if pAuto.recording then out
  else
    { out with
      acFrame := ulCurrentFrame
      acFrameTime := if completeInRange ulCurrentFrame pAuto then active.frameTime else 0 }

/-- `CompleteAutoCircTransfer`. -/
def completeAutoCircTransfer (frameNumber : ℕ) (out : AutoCirculateTransferStatus)
    (pAuto : InternalAutoCirculate) (updateValid transferPending : Bool) :
    AutoCirculateTransferStatus × InternalAutoCirculate :=
  let pAuto := completeAuto frameNumber updateValid transferPending pAuto
  (completeStatus frameNumber pAuto out, pAuto)

/-- `AutoCircDmaAudioSetup`. -/
def autoCircDmaAudioSetup (env : TransferEnv) (pAuto : InternalAutoCirculate) :
    Bool × InternalAutoCirculate :=
  let wrap : Int := env.audioWrapAddress
  if !pAuto.circulateWithAudio then (false, pAuto)
  else if pAuto.recording then
    let stamp := pAuto.frameStamp pAuto.transferFrame
    let ulAudioStart : Int := stamp.audioInStartAddress
    let ulAudioEnd : Int := stamp.audioInStopAddress
    let readOffset : Int := env.audioReadOffset
    let size :=
      if ulAudioEnd < ulAudioStart then
        (wrap - (ulAudioStart - readOffset)) + (ulAudioEnd - readOffset)
      else ulAudioEnd - ulAudioStart
    (true,
      { pAuto with
        audioTransferOffset := toUInt32 (ulAudioStart - readOffset)
        audioTransferSize := toUInt32 size })
  else
    -- a drop that is due restarts the audio at the beginning of its buffer
    let dropDue := pAuto.audioDropsRequired > pAuto.audioDropsCompleted
    let start := if dropDue then 0 else pAuto.nextAudioOutputAddress
    let bytes := pAuto.audioTransferSize
    let stamp := pAuto.frameStamp pAuto.transferFrame
    (true,
      { pAuto with
        audioDropsCompleted :=
          if dropDue then toUInt32 (pAuto.audioDropsCompleted + 1) else pAuto.audioDropsCompleted
        audioTransferOffset := start
        frameStamp := Function.update pAuto.frameStamp pAuto.transferFrame
          { stamp with audioExpectedAddress := start }
        nextAudioOutputAddress :=
          if (toUInt32 (start + bytes) : Int) < wrap then toUInt32 (start + bytes)
          else toUInt32 (bytes - (wrap - start)) })

/-- The circulator after `frameStamp[f].frameFlags = flags`. -/
def InternalAutoCirculate.setFrameFlags (pAuto : InternalAutoCirculate) (f : Int) (flags : ℕ) :
    InternalAutoCirculate :=
  pAuto.setStamp f { pAuto.frameStamp f with frameFlags := flags }

/-! ### The whole request -/

/-- One `AutoDmaTransfer`: the direction and the frames involved. -/
structure AutoDmaParams where
  toHost : Bool
  videoFrame : Option ℕ
  audio : Bool
  ancFrame : Option ℕ
  deriving DecidableEq, Repr

/-- A request in progress. -/
structure TransferState where
  sys : NTV2AutoCirc
  acTransferStatus : AutoCirculateTransferStatus
  acPeerToPeerFlags : ℕ
  /-- The frame stamps indexed so far. -/
  frames : List (NTV2Crosspoint × Int)
  /-- The DMA transfers started so far. -/
  dma : List AutoDmaParams

/-- The same request, having indexed more frame stamps. -/
def TransferState.touch (st : TransferState) (spec : NTV2Crosspoint) (fs : List Int) :
    TransferState :=
  { st with frames := st.frames ++ fs.map fun f => (spec, f) }

/-- The same request, with one circulator changed. -/
def TransferState.setAuto (st : TransferState) (spec : NTV2Crosspoint)
    (pAuto : InternalAutoCirculate) : TransferState :=
  { st with sys := st.sys.setAuto spec pAuto }

/-- `acTransferStatus.acTransferFrame = NTV2_INVALID_FRAME`. -/
def TransferState.noFrame (st : TransferState) : TransferState :=
  { st with acTransferStatus := { st.acTransferStatus with acTransferFrame := ntv2InvalidFrame } }

/-- `AutoDmaTransfer`: the engine's answer, and the request with one more transfer. -/
def autoDmaTransfer (env : TransferEnv) (p : AutoDmaParams) (st : TransferState) :
    Ntv2Status × TransferState :=
  (env.dmaStatus st.dma.length, { st with dma := st.dma ++ [p] })

/-- The frame stamps `autoCircFindNextAvailFrame` indexes. -/
def findNextAvailFrames (pAuto : InternalAutoCirculate) : List Int :=
  if pAuto.state = init then
    if pAuto.recording then []
    else ringVisited pAuto.startFrame pAuto.endFrame
      (fun f => (pAuto.frameStamp f).validCount = 0) pAuto.lRange.toNat
      (toInt32 (pAuto.startFrame - 1))
  else if pAuto.activeFrame < pAuto.startFrame ∨ pAuto.activeFrame > pAuto.endFrame then []
  else if pAuto.recording then
    if pAuto.state ≠ running then []
    else ringVisited pAuto.startFrame pAuto.endFrame
      (fun f => 0 < (pAuto.frameStamp f).validCount) pAuto.lRange.toNat pAuto.activeFrame
  else if pAuto.state = disabled then []
  else ringVisited pAuto.startFrame pAuto.endFrame
    (fun f => (pAuto.frameStamp f).validCount = 0) (pAuto.lRange - 1).toNat pAuto.activeFrame

/-- The frame stamps the loop of `bufferLevelRecord` indexes. -/
def levelRecordFrames (pAuto : InternalAutoCirculate) : ℕ → Int → List Int
  | 0, _ => []
  | n + 1, lCurFrame =>
    let lCurFrame := kautoPrevFrame lCurFrame pAuto
    lCurFrame :: if (pAuto.frameStamp lCurFrame).validCount = 0 then []
      else levelRecordFrames pAuto n lCurFrame

/-- The frame stamps `autoCircGetBufferLevel` indexes. -/
def bufferLevelFrames (pAuto : InternalAutoCirculate) : List Int :=
  let lCurFrame := if pAuto.state = init then pAuto.startFrame else pAuto.activeFrame
  if pAuto.state ≠ init ∧
      (pAuto.activeFrame < pAuto.startFrame ∨ pAuto.activeFrame > pAuto.endFrame) then []
  else if pAuto.recording then
    if pAuto.state ≠ running then []
    else lCurFrame :: levelRecordFrames pAuto (pAuto.lRange - 1).toNat lCurFrame
  else lCurFrame :: ringVisited pAuto.startFrame pAuto.endFrame
    (fun f => (pAuto.frameStamp f).validCount = 0) (pAuto.lRange - 1).toNat lCurFrame

/-- The frame stamps `beginAutoCircTransfer` indexes. -/
def beginFrames (frameNumber : ℕ) (pAuto : InternalAutoCirculate) : List Int :=
  if pAuto.recording then [] else [(frameNumber : Int)]

/-- The frame stamps `completeAutoCircTransfer` indexes. -/
def completeFrames (frameNumber : ℕ) (pAuto : InternalAutoCirculate) : List Int :=
  let ulCurrentFrame := toUInt32 pAuto.activeFrame
  (if completeInRange frameNumber pAuto then [(frameNumber : Int)] else []) ++
    bufferLevelFrames pAuto ++
    (if completeInRange ulCurrentFrame pAuto then [(ulCurrentFrame : Int)] else [])

/-- `BeginAutoCircTransfer` for one circulator of a request. -/
def beginAt (pTransfer : AutoCirculateTransfer) (env : TransferEnv) (frameNumber : ℕ)
    (spec : NTV2Crosspoint) (st : TransferState) : TransferState :=
  let pAuto := st.sys.autoCirculate spec
  (st.setAuto spec (beginAutoCircTransfer frameNumber pTransfer env pAuto)).touch spec
    (beginFrames frameNumber pAuto)

/-- `CompleteAutoCircTransfer` for one circulator of a request. -/
def completeAt (updateValid transferPending : Bool) (frameNumber : ℕ) (spec : NTV2Crosspoint)
    (st : TransferState) : TransferState :=
  let pAuto := st.sys.autoCirculate spec
  let r := completeAutoCircTransfer frameNumber st.acTransferStatus pAuto updateValid
    transferPending
  ({ st.setAuto spec r.2 with acTransferStatus := r.1 }).touch spec
    (completeFrames frameNumber r.2)

/-- `(stride * loopCount) + frameNumber`. -/
def gangFrame (stride frameNumber loopCount : ℕ) : ℕ := (stride * loopCount + frameNumber) % 2 ^ 32

/-- Where a branch of `AutoCircTransfer` ends: whether it returns at once, the status,
and what it has set for the rest of the function. -/
structure TransferBranch where
  returns : Bool
  status : Ntv2Status
  updateValid : Bool
  transferPending : Bool
  audioTransferDone : Bool
  ancTransferDone : Bool
  st : TransferState

/-- A branch that ends in `return status`. -/
def TransferBranch.ret (status : Ntv2Status) (st : TransferState) : TransferBranch :=
  ⟨true, status, false, false, false, false, st⟩

section Branches

variable (pTransfer : AutoCirculateTransfer) (env : TransferEnv) (frameNumber : ℕ)

/-- `AUTOCIRCULATE_P2P_PREPARE` and `AUTOCIRCULATE_P2P_TARGET`: hand out the address of
the frame, and leave its transfer pending. -/
def transferPrepare (st : TransferState) : TransferBranch :=
  let spec := pTransfer.acCrosspoint
  let pAuto := st.sys.autoCirculate spec
  if pAuto.channelCount ≠ 1 then .ret .badParameter st
  else
    let st := beginAt pTransfer env frameNumber spec st
    let videoOffset :=
      toUInt32 (frameNumber * env.frameBufferSize + pTransfer.acInVideoDMAOffset)
    let videoSize := toUInt32 ((env.frameBufferSize : Int) - pTransfer.acInVideoDMAOffset)
    let apertureOk : Bool := env.frameApertureAddress != 0 &&
      toUInt32 (videoOffset + videoSize) ≤ env.frameApertureSize
    let messageOk : Bool :=
      !hasFlag pTransfer.acPeerToPeerFlags autocirculateP2PTarget || env.messageAddress != 0
    let status : Ntv2Status :=
      if pAuto.recording || !env.boardCanDoP2P || !apertureOk || !messageOk || !env.p2pCopy then
        .badParameter else .success
    let pending := !pAuto.recording && env.boardCanDoP2P && env.p2pCopy
    ⟨false, status, true, pending, false, false, st⟩

/-- `AUTOCIRCULATE_P2P_COMPLETE`: the transfer is no longer pending. -/
def transferComplete (st : TransferState) : TransferBranch :=
  let spec := pTransfer.acCrosspoint
  let pAuto := st.sys.autoCirculate spec
  let status : Ntv2Status :=
    if pAuto.recording || !env.boardCanDoP2P then .badParameter else .success
  ⟨false, status, false, false, false, false, beginAt pTransfer env frameNumber spec st⟩

/-- `AUTOCIRCULATE_P2P_TRANSFER`: from this device to another one. -/
def transferTransfer (st : TransferState) : TransferBranch :=
  let spec := pTransfer.acCrosspoint
  let pAuto := st.sys.autoCirculate spec
  if pAuto.channelCount ≠ 1 then .ret .badParameter st
  else
    let st := beginAt pTransfer env frameNumber spec st
    if !pAuto.recording || !env.boardCanDoP2P || !env.p2pCopy then
      ⟨false, .badParameter, true, false, false, false, st⟩
    else
      let r := autoDmaTransfer env ⟨true, some frameNumber, false, none⟩ st
      ⟨false, r.1, true, false, false, false, r.2⟩

/-- `AutoCircDmaAudioSetup` for the channel of a request. -/
def audioSetupAt (spec : NTV2Crosspoint) (st : TransferState) : Bool × TransferState :=
  let pAuto := st.sys.autoCirculate spec
  let r := autoCircDmaAudioSetup env pAuto
  (r.1, (st.setAuto spec r.2).touch spec
    (if pAuto.circulateWithAudio then [(pAuto.transferFrame : Int)] else []))

/-- The frame stamps `AutoCircTransferFields` indexes: the field to transfer is noted
there, but only a whole frame on a format with fields asks for it. -/
def transferFieldsFrames : List Int :=
  if pTransfer.acInVideoDMAOffset != 0 || decide (pTransfer.acNumSegments > 1) ||
      !env.canDoFieldMode then []
  else [(frameNumber : Int)]

/-- The DMA of a frame: video, with the audio and the ANC of a channel that has them. -/
def frameParams (pAuto : InternalAutoCirculate) : AutoDmaParams where
  toHost := pAuto.recording
  videoFrame := some frameNumber
  audio := pAuto.circulateWithAudio
  ancFrame := if pAuto.circulateWithCustomAncData then some frameNumber else none

/-- The field data of a playout frame are those of the request. -/
def noteFields (spec : NTV2Crosspoint) (st : TransferState) : TransferState :=
  let pAuto := st.sys.autoCirculate spec
  if pAuto.recording then st
  else (st.setAuto spec (pAuto.setFrameFlags frameNumber pTransfer.acPeerToPeerFlags)).touch spec
    [(frameNumber : Int)]

/-- Video, audio and ANC by DMA, field by field: first the active field, then the one
that is only sent to be dropped. -/
def dmaFields (spec : NTV2Crosspoint) (st : TransferState) : Ntv2Status × TransferState :=
  let pAuto := st.sys.autoCirculate spec
  let st := (noteFields pTransfer frameNumber spec st).touch spec
    (transferFieldsFrames pTransfer env frameNumber)
  let r := autoDmaTransfer env (frameParams frameNumber pAuto) st
  if pAuto.recording && r.1 == .success then
    (r.1, ({ r.2 with
      acPeerToPeerFlags := (pAuto.frameStamp frameNumber).frameFlags }).touch spec
        [(frameNumber : Int)])
  else
    let st := r.2.touch spec (transferFieldsFrames pTransfer env frameNumber)
    (r.1, (autoDmaTransfer env ⟨pAuto.recording, some frameNumber, false, none⟩ st).2)

/-- Video, audio and ANC by DMA, a whole frame. -/
def dmaFrame (spec : NTV2Crosspoint) (st : TransferState) : Ntv2Status × TransferState :=
  autoDmaTransfer env (frameParams frameNumber (st.sys.autoCirculate spec)) st

/-- A transfer between the device and the host. -/
def transferHost (stride : ℕ) (st : TransferState) : TransferBranch :=
  let spec := pTransfer.acCrosspoint
  let pAuto := st.sys.autoCirculate spec
  let st := (gangLoop
    (fun k spec st => (.success, beginAt pTransfer env (gangFrame stride frameNumber k) spec st))
    (getIndexForNTV2Crosspoint spec) 0 pAuto.channelCount.toNat st).2
  let withAudio := pAuto.circulateWithAudio
  let setup := if withAudio then audioSetupAt env spec st else (true, st)
  if !setup.1 then .ret .fail setup.2
  else
    let r :=
      if pAuto.circulateWithFields then dmaFields pTransfer env frameNumber spec setup.2
      else dmaFrame env frameNumber spec setup.2
    ⟨false, r.1, true, false, withAudio, pAuto.circulateWithCustomAncData, r.2⟩

/-- The branch of `AutoCircTransfer` the request's flags select. -/
def transferBranch (stride : ℕ) (st : TransferState) : TransferBranch :=
  let flags := pTransfer.acPeerToPeerFlags
  if hasFlag flags autocirculateP2PPrepare || hasFlag flags autocirculateP2PTarget then
    transferPrepare pTransfer env frameNumber st
  else if hasFlag flags autocirculateP2PComplete then
    transferComplete pTransfer env frameNumber st
  else if hasFlag flags autocirculateP2PTransfer then
    transferTransfer pTransfer env frameNumber st
  else transferHost pTransfer env frameNumber stride st

/-- Audio by DMA, where the branch has not sent it along. -/
def transferAudio (b : TransferBranch) : Ntv2Status × TransferState :=
  let spec := pTransfer.acCrosspoint
  let pAuto := b.st.sys.autoCirculate spec
  if pAuto.circulateWithAudio && !b.audioTransferDone then
    let setup := audioSetupAt env spec b.st
    if !setup.1 then (.fail, setup.2)
    else autoDmaTransfer env ⟨pAuto.recording, none, true, none⟩ setup.2
  else (.success, b.st)

/-- ANC by DMA, where the branch has not sent it along. -/
def transferAnc (b : TransferBranch) (st : TransferState) : Ntv2Status × TransferState :=
  let pAuto := st.sys.autoCirculate pTransfer.acCrosspoint
  if pAuto.circulateWithCustomAncData && !b.ancTransferDone then
    autoDmaTransfer env ⟨pAuto.recording, none, false, some frameNumber⟩ st
  else (.success, st)

/-- `AutoCircTransfer` once the frame is settled. -/
def transferAtFrame (st : TransferState) : Ntv2Status × TransferState :=
  let spec := pTransfer.acCrosspoint
  let pAuto := st.sys.autoCirculate spec
  let stride := toUInt32 (pAuto.endFrame - pAuto.startFrame + 1)
  let b := transferBranch pTransfer env frameNumber stride st
  if b.returns || b.status != .success then (b.status, b.st)
  else
    let audio := transferAudio pTransfer env b
    if audio.1 ≠ .success then audio
    else
      let anc := transferAnc pTransfer env frameNumber b audio.2
      if anc.1 ≠ .success then anc
      else gangLoop
        (fun k spec st => (.success,
          completeAt b.updateValid b.transferPending (gangFrame stride frameNumber k) spec st))
        (getIndexForNTV2Crosspoint spec) 0 pAuto.channelCount.toNat anc.2

end Branches

/-- The channel has no frames to transfer in its state. -/
def transferNotReady (pAuto : InternalAutoCirculate) : Bool :=
  if pAuto.recording then pAuto.state != running && pAuto.state != starting
  else pAuto.state == disabled

/-- A partial frame that does not fit into the frame buffer. -/
def transferOffsetBad (pTransfer : AutoCirculateTransfer) (env : TransferEnv) : Bool :=
  pTransfer.acInVideoDMAOffset != 0 &&
    decide (toUInt32 (pTransfer.acInVideoDMAOffset + pTransfer.acVideoBuffer.fByteCount) ≥
      env.frameBufferSize) && !env.advancedIndexing

/-- The choice of the frame: the next available one, or the one the caller names; on a
capture channel with nothing to choose, the first frame. -/
def transferFrameNumber (pTransfer : AutoCirculateTransfer) (pAuto : InternalAutoCirculate) : ℕ :=
  let frameNumber :=
    if toUInt32 pTransfer.acDesiredFrame = ntv2InvalidFrame then
      match availFrame pAuto with
      | some f => toUInt32 f
      | none => ntv2InvalidFrame
    else toUInt32 pTransfer.acDesiredFrame
  if frameNumber = ntv2InvalidFrame ∧ pAuto.recording then toUInt32 pAuto.startFrame
  else frameNumber

/-- `AutoCircTransfer`: the status, and the request as it ends. -/
def autoCircTransfer (s : NTV2AutoCirc) (pTransfer : AutoCirculateTransfer) (env : TransferEnv)
    (out : AutoCirculateTransferStatus) : Ntv2Status × TransferState :=
  let spec := pTransfer.acCrosspoint
  let pAuto := s.autoCirculate spec
  let st : TransferState := ⟨s, out, pTransfer.acPeerToPeerFlags, [], []⟩
  if illegalChannelSpec spec then (.badParameter, st)
  else if transferNotReady pAuto then (.success, st.noFrame)
  else
    let frameNumber := transferFrameNumber pTransfer pAuto
    let st :=
      if toUInt32 pTransfer.acDesiredFrame = ntv2InvalidFrame then
        (st.setAuto spec (autoCircFindNextAvailFrame pAuto).2).touch spec
          (findNextAvailFrames pAuto)
      else st
    if transferOffsetBad pTransfer env then (.fail, st.noFrame)
    else if frameNumber = ntv2InvalidFrame then (.fail, st.noFrame)
    else transferAtFrame pTransfer env frameNumber st

end LibAjaNtv2
