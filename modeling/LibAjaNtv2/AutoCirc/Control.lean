import LibAjaNtv2.AutoCirc.Types

/-!
The control functions of AutoCirculate (`driver/ntv2autocirc.c`).

* `autoCircGetBufferLevel`, `autoCircFindNextAvailFrame`: the two queries;
* `autoCircInit`, `autoCircStart`, `autoCircStop`, `autoCircAbort`,
  `autoCircPause`, `autoCircFlush`, `autoCircPreroll`, `autoCircSetActiveFrame`:
  the commands, each a `gangLoop` over what it does to one member.

Audio, ancillary, timecode and routing hardware is programmed along the way and
does not come back into the database: those calls are left out.
-/

namespace LibAjaNtv2

open NTV2AutoCirculateState

/-! ### Queries -/

/-- The loop of `autoCircGetBufferLevel` on a capture channel. -/
def bufferLevelRecord (pAuto : InternalAutoCirculate) : ℕ → Int → ℕ → ℕ
  | 0, _, dwBufferLevel => dwBufferLevel
  | n + 1, lCurFrame, dwBufferLevel =>
    let lCurFrame := kautoPrevFrame lCurFrame pAuto
    if (pAuto.frameStamp lCurFrame).validCount = 0 then dwBufferLevel
    else bufferLevelRecord pAuto n lCurFrame (dwBufferLevel + 1)

/-- The loop of `autoCircGetBufferLevel` on a playout channel. -/
def bufferLevelPlay (pAuto : InternalAutoCirculate) : ℕ → Int → ℕ → ℕ
  | 0, _, dwBufferLevel => dwBufferLevel
  | n + 1, lCurFrame, dwBufferLevel =>
    let lCurFrame := kautoNextFrame lCurFrame pAuto
    if (pAuto.frameStamp lCurFrame).validCount = 0 then dwBufferLevel
    else bufferLevelPlay pAuto n lCurFrame
      (toUInt32 (dwBufferLevel + (pAuto.frameStamp lCurFrame).validCount))

/-- Number of frames of the ring, as the driver computes it. -/
def InternalAutoCirculate.lRange (pAuto : InternalAutoCirculate) : Int :=
  toInt32 (pAuto.endFrame - pAuto.startFrame + 1)

/-- `AutoCircGetBufferLevel`. -/
def autoCircGetBufferLevel (pAuto : InternalAutoCirculate) : ℕ :=
  let lCurFrame := if pAuto.state = init then pAuto.startFrame else pAuto.activeFrame
  if pAuto.state ≠ init ∧
      (pAuto.activeFrame < pAuto.startFrame ∨ pAuto.activeFrame > pAuto.endFrame) then 0
  else if pAuto.recording then
    if pAuto.state ≠ running then 0
    else bufferLevelRecord pAuto (pAuto.lRange - 1).toNat lCurFrame
      (if (pAuto.frameStamp lCurFrame).validCount ≠ 0 then 1 else 0)
  else bufferLevelPlay pAuto (pAuto.lRange - 1).toNat lCurFrame
    (toUInt32 (pAuto.frameStamp lCurFrame).validCount)

/-- The frame `AutoCircFindNextAvailFrame` settles on: the first ready one after
the active frame on a capture channel, the first free one on a playout channel. -/
def availFrame (pAuto : InternalAutoCirculate) : Option Int :=
  if pAuto.state = init then
    -- `activeFrame` is not valid yet: the walk starts before `startFrame`
    if pAuto.recording then none
    else ringScan pAuto.startFrame pAuto.endFrame
      (fun f => (pAuto.frameStamp f).validCount = 0) pAuto.lRange.toNat
      (toInt32 (pAuto.startFrame - 1))
  else if pAuto.activeFrame < pAuto.startFrame ∨ pAuto.activeFrame > pAuto.endFrame then none
  else if pAuto.recording then
    if pAuto.state ≠ running then none
    else ringScan pAuto.startFrame pAuto.endFrame
      (fun f => 0 < (pAuto.frameStamp f).validCount) pAuto.lRange.toNat pAuto.activeFrame
  else if pAuto.state = disabled then none
  else ringScan pAuto.startFrame pAuto.endFrame
    (fun f => (pAuto.frameStamp f).validCount = 0) (pAuto.lRange - 1).toNat pAuto.activeFrame

/-- `AutoCircFindNextAvailFrame`: the answer, and the circulator with
`nextTransferFrame` set. -/
def autoCircFindNextAvailFrame (pAuto : InternalAutoCirculate) : Bool × InternalAutoCirculate :=
  match availFrame pAuto with
  | some f => (true, pAuto.setNextTransfer f)
  | none => (false, pAuto)

/-! ### Init -/

/-- The arguments of `AutoCircInit`. -/
structure InitArgs where
  lChannelSpec : NTV2Crosspoint
  lStartFrameNum : Int
  lEndFrameNum : Int
  lAudioSystem : ℕ
  lChannelCount : Int
  bWithAudio : Bool
  bWithRP188 : Bool
  bFbfChange : Bool
  bFboChange : Bool
  bWithColorCorrection : Bool
  bWithVidProc : Bool
  bWithCustomAncData : Bool
  bWithLTC : Bool
  bWithFields : Bool
  bWithHDMIAux : Bool
  isInt32_start : IsInt32 lStartFrameNum
  isInt32_end : IsInt32 lEndFrameNum
  isInt32_count : IsInt32 lChannelCount

/-- A request without options. -/
def InitArgs.plain (channelSpec : NTV2Crosspoint) (startFrameNum endFrameNum channelCount : Int)
    (hstart : IsInt32 startFrameNum := by
      first | exact isInt32_zero | exact isInt32_ten | decide)
    (hend : IsInt32 endFrameNum := by first | exact isInt32_nine | decide)
    (hcount : IsInt32 channelCount := by first | exact isInt32_one | decide) : InitArgs where
  lChannelSpec := channelSpec
  lStartFrameNum := startFrameNum
  lEndFrameNum := endFrameNum
  lAudioSystem := 0
  lChannelCount := channelCount
  bWithAudio := false
  bWithRP188 := false
  bFbfChange := false
  bFboChange := false
  bWithColorCorrection := false
  bWithVidProc := false
  bWithCustomAncData := false
  bWithLTC := false
  bWithFields := false
  bWithHDMIAux := false
  isInt32_start := hstart
  isInt32_end := hend
  isInt32_count := hcount

/-- `channelRange`, an unsigned number. -/
def InitArgs.channelRange (args : InitArgs) : ℕ :=
  toUInt32 (args.lEndFrameNum - args.lStartFrameNum + 1)

/-- The circulator `AutoCircReset` leaves behind. -/
def resetAuto (channelSpec : NTV2Crosspoint) : InternalAutoCirculate :=
  { InternalAutoCirculate.zero with
    channelSpec := channelSpec
    recording := isInputCrosspoint channelSpec
    activeFrameRegister := frameRegisterOf channelSpec
    state := disabled }

/-- `gNTV2InputSourceToANCChannel`: SDI inputs 1 to 8 are entries 5 to 12. -/
def gNTV2InputSourceToANCChannel : ℕ → Option NTV2Channel
  | 5 => some .channel1 | 6 => some .channel2 | 7 => some .channel3 | 8 => some .channel4
  | 9 => some .channel5 | 10 => some .channel6 | 11 => some .channel7 | 12 => some .channel8
  | _ => none

/-- The ANC input `AutoCircInit` selects for a channel. -/
def ancInputFor (s : NTV2AutoCirc) (acChannel : NTV2Channel) : Option NTV2Channel :=
  if s.standardTasks then gNTV2InputSourceToANCChannel s.vRegCustomAncInputSelect
  else some acChannel

/-- The circulator of member `loopCount` of the gang, as `AutoCircInit` fills it in. -/
def initAuto (args : InitArgs) (s : NTV2AutoCirc) (loopCount : ℕ)
    (channelSpecAtIndex : NTV2Crosspoint) : InternalAutoCirculate :=
  let primary := loopCount == 0
  let withAnc := primary && args.bWithCustomAncData && s.canDoCustomAnc
  let withAux := primary && args.bWithHDMIAux
  -- capturing HDMI auxiliary data needs hardware the device may not have
  let noAux := withAnc && isInputCrosspoint channelSpecAtIndex &&
    (ancInputFor s (getNTV2ChannelForNTV2Crosspoint channelSpecAtIndex)).isSome &&
    withAux && !s.canDoCustomAux
  { resetAuto channelSpecAtIndex with
    startFrame := toInt32 (args.lStartFrameNum + loopCount * args.channelRange)
    endFrame := toInt32 (args.lEndFrameNum + loopCount * args.channelRange)
    channelCount := if primary then args.lChannelCount else 0
    currentFrame := toInt32 (args.lStartFrameNum + loopCount * args.channelRange)
    circulateWithAudio := primary && args.bWithAudio
    circulateWithRP188 := primary && args.bWithRP188
    enableFbfChange := primary && args.bFbfChange
    enableFboChange := primary && args.bFboChange
    circulateWithColorCorrection := primary && args.bWithColorCorrection
    circulateWithVidProc := primary && args.bWithVidProc
    circulateWithCustomAncData := withAnc && !noAux
    circulateWithLTC := primary && args.bWithLTC
    circulateWithFields := args.bWithFields
    circulateWithHDMIAux := withAux && !noAux
    audioSystem := args.lAudioSystem
    -- not a frame: the channel has none before it is started
    activeFrame := toInt32 ntv2InvalidFrame
    state := init }

/-- What `AutoCircInit` does for one member. -/
def initMember (args : InitArgs) (loopCount : ℕ) (channelSpecAtIndex : NTV2Crosspoint)
    (s : NTV2AutoCirc) : Ntv2Status × NTV2AutoCirc :=
  if (s.autoCirculate channelSpecAtIndex).state ≠ disabled then (.busy, s)
  else
    let acChannel := getNTV2ChannelForNTV2Crosspoint channelSpecAtIndex
    (.success,
      { s.setAuto channelSpecAtIndex (initAuto args s loopCount channelSpecAtIndex) with
        ancInputChannel :=
          Function.update s.ancInputChannel acChannel (ancInputFor s acChannel) })

/-- `AutoCircInit`. -/
def autoCircInit (s : NTV2AutoCirc) (args : InitArgs) : Ntv2Status × NTV2AutoCirc :=
  if illegalChannelSpec args.lChannelSpec then (.badParameter, s)
  else if args.lStartFrameNum ≥ maxFramebuffers then (.badParameter, s)
  else if args.lEndFrameNum ≥ maxFramebuffers then (.badParameter, s)
  else if args.channelRange ≥ maxFramebuffers then (.badParameter, s)
  else gangLoop (initMember args) (getIndexForNTV2Crosspoint args.lChannelSpec) 0
    args.lChannelCount.toNat (s.setMultiChannel (args.lChannelCount > 1))

/-! ### Commands -/

/-- The command `body` on every member of the gang whose first is `channelSpec`. -/
def forGang (s : NTV2AutoCirc) (channelSpec : NTV2Crosspoint)
    (body : ℕ → NTV2Crosspoint → NTV2AutoCirc → Ntv2Status × NTV2AutoCirc) :
    Ntv2Status × NTV2AutoCirc :=
  gangLoop body (getIndexForNTV2Crosspoint channelSpec) 0
    (s.autoCirculate channelSpec).channelCount.toNat s

/-- A circulator as `AutoCircStart` leaves it. -/
def startAuto (startTime : Int) (pAuto : InternalAutoCirculate) : InternalAutoCirculate :=
  { pAuto with
    activeFrame := pAuto.startFrame
    nextFrame := pAuto.startFrame
    startTime := (startTime % 18446744073709551616).toNat
    state := starting }

/-- What `AutoCircStart` does for one member. -/
def startMember (startTime : Int) (_loopCount : ℕ) (channelSpecAtIndex : NTV2Crosspoint)
    (s : NTV2AutoCirc) : Ntv2Status × NTV2AutoCirc :=
  let pAuto := s.autoCirculate channelSpecAtIndex
  (.success,
    (s.writeRegister (frameRegisterOf pAuto.channelSpec) (toUInt32 pAuto.startFrame)).setAuto
      channelSpecAtIndex (startAuto startTime pAuto))

/-- `AutoCircStart`. -/
def autoCircStart (s : NTV2AutoCirc) (channelSpec : NTV2Crosspoint) (startTime : Int) :
    Ntv2Status × NTV2AutoCirc :=
  if illegalChannelSpec channelSpec then (.badParameter, s)
  else if (s.autoCirculate channelSpec).state ≠ init then (.badParameter, s)
  else forGang s channelSpec (startMember startTime)

/-- A circulator as `AutoCircStop` leaves it. -/
def stopAuto (pAuto : InternalAutoCirculate) : InternalAutoCirculate :=
  match pAuto.state with
  | starting | init | paused | running => { pAuto with state := stopping }
  | _ => pAuto

/-- The command `f` on one circulator, as a member of a gang. -/
def onMember (f : InternalAutoCirculate → InternalAutoCirculate) (_loopCount : ℕ)
    (channelSpecAtIndex : NTV2Crosspoint) (s : NTV2AutoCirc) : Ntv2Status × NTV2AutoCirc :=
  (.success, s.setAuto channelSpecAtIndex (f (s.autoCirculate channelSpecAtIndex)))

/-- `AutoCircStop`. -/
def autoCircStop (s : NTV2AutoCirc) (channelSpec : NTV2Crosspoint) : Ntv2Status × NTV2AutoCirc :=
  if illegalChannelSpec channelSpec then (.badParameter, s)
  else forGang s channelSpec (onMember stopAuto)

/-- A circulator as `AutoCircAbort` leaves it. -/
def abortAuto (pAuto : InternalAutoCirculate) : InternalAutoCirculate :=
  if pAuto.state ≠ disabled then { pAuto with state := disabled } else pAuto

/-- `AutoCircAbort`. -/
def autoCircAbort (s : NTV2AutoCirc) (channelSpec : NTV2Crosspoint) :
    Ntv2Status × NTV2AutoCirc :=
  if illegalChannelSpec channelSpec then (.badParameter, s)
  else forGang s channelSpec (onMember abortAuto)

/-- A circulator as `AutoCircPause` leaves it. -/
def pauseAuto (bPlay bClearDF : Bool) (pAuto : InternalAutoCirculate) : InternalAutoCirculate :=
  if !bPlay && pAuto.state = running then
    -- play to pause
    { pAuto with state := paused }
  else if bPlay && pAuto.state = paused then
    -- pause to play
    { pAuto with
      state := running
      droppedFrames := if bClearDF then 0 else pAuto.droppedFrames }
  else pAuto

/-- `AutoCircPause`. -/
def autoCircPause (s : NTV2AutoCirc) (channelSpec : NTV2Crosspoint) (bPlay bClearDF : Bool) :
    Ntv2Status × NTV2AutoCirc :=
  if illegalChannelSpec channelSpec then (.badParameter, s)
  else forGang s channelSpec (onMember (pauseAuto bPlay bClearDF))

/-- The loop of `AutoCircFlush` on a capture channel: backward from the active
frame, until a frame that is not ready.  `fuel` bounds the rounds. -/
def flushRecord (lStartFrame : ℕ) : ℕ → ℕ → InternalAutoCirculate → InternalAutoCirculate
  | 0, _, pAuto => pAuto
  | fuel + 1, lCurFrame, pAuto =>
    if lCurFrame ≠ lStartFrame ∧ (pAuto.frameStamp lCurFrame).validCount ≠ 0 then
      flushRecord lStartFrame fuel (toUInt32 (kautoPrevFrame (toInt32 lCurFrame) pAuto))
        (pAuto.setStamp lCurFrame
          { pAuto.frameStamp lCurFrame with
            validCount := 0
            videoTransferPending := false })
    else pAuto

/-- The loop of `AutoCircFlush` on a playout channel: forward from the active
frame, all the way round.  `fuel` bounds the rounds. -/
def flushPlay (lStartFrame : ℕ) : ℕ → ℕ → InternalAutoCirculate → InternalAutoCirculate
  | 0, _, pAuto => pAuto
  | fuel + 1, lCurFrame, pAuto =>
    if lCurFrame ≠ lStartFrame then
      flushPlay lStartFrame fuel (toUInt32 (kautoNextFrame (toInt32 lCurFrame) pAuto))
        (pAuto.setStamp lCurFrame
          { pAuto.frameStamp lCurFrame with
            validCount := 0
            videoTransferPending := false
            audioExpectedAddress := 1 })
    else pAuto

/-- The frame `AutoCircFlush` takes as the active one: what the frame register says,
where that is a frame of the channel. -/
def flushStartFrame (pAuto : InternalAutoCirculate) (lCurFrame : ℕ) : ℕ :=
  if lCurFrame < toUInt32 pAuto.startFrame ∨ lCurFrame > toUInt32 pAuto.endFrame then
    toUInt32 pAuto.startFrame
  else lCurFrame

/-- The frames of a playout circulator that `AutoCircFlush` clears: the queued ones, and
the active one where the channel has not been started. -/
def flushPlayFrom (autoState : NTV2AutoCirculateState) (lStartFrame : ℕ)
    (pAuto : InternalAutoCirculate) : InternalAutoCirculate :=
  let pAuto := flushPlay lStartFrame maxFramebuffers
    (toUInt32 (kautoNextFrame (toInt32 lStartFrame) pAuto)) pAuto
  let pAuto := pAuto.setStamp lStartFrame
    { pAuto.frameStamp lStartFrame with audioExpectedAddress := 1 }
  -- clear all if init state
  if autoState = init then
    pAuto.setStamp lStartFrame
      { pAuto.frameStamp lStartFrame with
        validCount := 0
        videoTransferPending := false }
  else pAuto

/-- The frames of a capture circulator that `AutoCircFlush` clears. -/
def flushRecordFrom (lStartFrame : ℕ) (pAuto : InternalAutoCirculate) : InternalAutoCirculate :=
  flushRecord lStartFrame maxFramebuffers
    (toUInt32 (kautoPrevFrame (toInt32 lStartFrame) pAuto)) pAuto

/-- A circulator while `AutoCircFlush` works on it. -/
def flushPaused (bClearDF : Bool) (pAuto : InternalAutoCirculate) : InternalAutoCirculate :=
  { pAuto with
    state := paused
    droppedFrames := if bClearDF then 0 else pAuto.droppedFrames }

/-- The audio of a flushed playout circulator starts over. -/
def flushAudio (pAuto : InternalAutoCirculate) : InternalAutoCirculate :=
  { pAuto with
    nextAudioOutputAddress :=
      if pAuto.circulateWithAudio then 0 else pAuto.nextAudioOutputAddress }

/-- The frames of a circulator that `AutoCircFlush` clears. -/
def flushFrom (autoState : NTV2AutoCirculateState) (lStartFrame : ℕ)
    (pAuto : InternalAutoCirculate) : InternalAutoCirculate :=
  if pAuto.recording then flushRecordFrom lStartFrame pAuto
  else flushAudio (flushPlayFrom autoState lStartFrame pAuto)

/-- `AutoCircFlush` on one circulator, given the value of its frame register. -/
def flushAuto (bClearDF : Bool) (frameRegister : ℕ) (pAuto : InternalAutoCirculate) :
    InternalAutoCirculate :=
  (flushFrom pAuto.state (flushStartFrame pAuto frameRegister)
    (flushPaused bClearDF pAuto)).setState pAuto.state

/-- What `AutoCircFlush` does for one member. -/
def flushMember (bClearDF : Bool) (_loopCount : ℕ) (channelSpecAtIndex : NTV2Crosspoint)
    (s : NTV2AutoCirc) : Ntv2Status × NTV2AutoCirc :=
  let pAuto := s.autoCirculate channelSpecAtIndex
  (.success, s.setAuto channelSpecAtIndex
    (flushAuto bClearDF (s.register pAuto.activeFrameRegister) pAuto))

/-- `AutoCircFlush`. -/
def autoCircFlush (s : NTV2AutoCirc) (channelSpec : NTV2Crosspoint) (bClearDF : Bool) :
    Ntv2Status × NTV2AutoCirc :=
  if illegalChannelSpec channelSpec then (.badParameter, s)
  else match (s.autoCirculate channelSpec).state with
    | init | running | paused => forGang s channelSpec (flushMember bClearDF)
    | _ => (.success, s)

/-- The frame `AutoCircPreroll` adds to, once a free frame is found: the one queued
last, or the active frame when nothing is queued. -/
def prerollFrame (pAuto : InternalAutoCirculate) : ℕ :=
  if pAuto.nextTransferFrame ≠ toUInt32 pAuto.activeFrame then
    toUInt32 (kautoPrevFrame (toInt32 pAuto.nextTransferFrame) pAuto)
  else pAuto.nextTransferFrame

/-- `AutoCircPreroll` on one playout circulator, once a free frame is found. -/
def prerollAuto (lPrerollFrames : Int) (pAuto : InternalAutoCirculate) : InternalAutoCirculate :=
  let lCurFrame := prerollFrame pAuto
  let pAuto :=
    if lCurFrame = toUInt32 pAuto.activeFrame then
      { pAuto with state := starting, nextAudioOutputAddress := 0 }
    else pAuto
  -- signed arithmetic, to allow reduction of preroll as well as addition
  pAuto.setStamp lCurFrame
    { pAuto.frameStamp lCurFrame with
      validCount := toInt32 ((pAuto.frameStamp lCurFrame).validCount + lPrerollFrames) }

/-- What `AutoCircPreroll` does for one member. -/
def prerollMember (lPrerollFrames : Int) (_loopCount : ℕ) (channelSpecAtIndex : NTV2Crosspoint)
    (s : NTV2AutoCirc) : Ntv2Status × NTV2AutoCirc :=
  let pAuto := s.autoCirculate channelSpecAtIndex
  if pAuto.recording then (.success, s)
  else match autoCircFindNextAvailFrame pAuto with
    | (true, pAuto) =>
        (.success, s.setAuto channelSpecAtIndex (prerollAuto lPrerollFrames pAuto))
    | (false, _) => (.badParameter, s)

/-- `AutoCircPreroll`. -/
def autoCircPreroll (s : NTV2AutoCirc) (channelSpec : NTV2Crosspoint) (lPrerollFrames : Int) :
    Ntv2Status × NTV2AutoCirc :=
  if illegalChannelSpec channelSpec then (.badParameter, s)
  else
    let pAutoPrimary := s.autoCirculate channelSpec
    match pAutoPrimary.state with
    | running | starting | paused =>
        if pAutoPrimary.activeFrame < pAutoPrimary.startFrame ∨
            pAutoPrimary.activeFrame > pAutoPrimary.endFrame then (.badParameter, s)
        else forGang s channelSpec (prerollMember lPrerollFrames)
    | _ => (.success, s)

/-- What `AutoCircSetActiveFrame` does for member `loopCount`: its frame shadows the
primary's, `channelRange` further on. -/
def setActiveFrameMember (lActiveFrame : Int) (channelRange loopCount : ℕ)
    (channelSpecAtIndex : NTV2Crosspoint) (s : NTV2AutoCirc) : Ntv2Status × NTV2AutoCirc :=
  let pAuto := s.autoCirculate channelSpecAtIndex
  let activeFrame := toUInt32 (lActiveFrame + loopCount * channelRange)
  (.success,
    (s.setAuto channelSpecAtIndex { pAuto with activeFrame := toInt32 activeFrame }).writeRegister
      pAuto.activeFrameRegister activeFrame)

/-- `AutoCircSetActiveFrame`. -/
def autoCircSetActiveFrame (s : NTV2AutoCirc) (channelSpec : NTV2Crosspoint)
    (lActiveFrame : Int) : Ntv2Status × NTV2AutoCirc :=
  if illegalChannelSpec channelSpec then (.badParameter, s)
  else
    let pAutoPrimary := s.autoCirculate channelSpec
    match pAutoPrimary.state with
    | running | starting | paused =>
        if pAutoPrimary.activeFrame < pAutoPrimary.startFrame ∨
            pAutoPrimary.activeFrame > pAutoPrimary.endFrame then (.badParameter, s)
        else if lActiveFrame < pAutoPrimary.startFrame ∨
            lActiveFrame > pAutoPrimary.endFrame then (.badParameter, s)
        else gangLoop
          (setActiveFrameMember lActiveFrame
            (toUInt32 (pAutoPrimary.endFrame - pAutoPrimary.startFrame + 1)))
          (getIndexForNTV2Crosspoint channelSpec) 0 (toUInt32 pAutoPrimary.channelCount) s
    | _ => (.success, s)

end LibAjaNtv2
