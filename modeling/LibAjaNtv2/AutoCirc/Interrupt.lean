import LibAjaNtv2.AutoCirc.Transfer

/-!
The interrupt path of AutoCirculate (`driver/ntv2autocirc.c`).

* `autoCircDropSyncFrame`: whether a synchronised partner holds a channel back;
* `tickEntry`: what every interrupt does first, reading the frame register;
* `tickStartingRecord`, `tickStartingPlay`, `tickRunningRecord`,
  `tickRunningPlay`: the four cases that move a ring;
* `tickAuto`: one interrupt on one circulator, given the answers of a `Partner`;
* `autoCirculate`: one vertical interrupt of one channel of the system.

What the driver asks the hardware for during an interrupt is a `TickEnv`.
-/

namespace LibAjaNtv2

open NTV2AutoCirculateState

/-- `AUTOCIRCULATE_FRAME_FULL`. -/
def autocirculateFrameFull : ℕ := 0x100000
/-- `AUTOCIRCULATE_FRAME_FIELD0`. -/
def autocirculateFrameField0 : ℕ := 0x200000
/-- `AUTOCIRCULATE_FRAME_FIELD1`. -/
def autocirculateFrameField1 : ℕ := 0x400000

/-- What the driver asks the hardware for during an interrupt. -/
structure TickEnv where
  isrTimeStamp : ℕ
  /-- `IsProgressiveStandard` of the channel the interrupt is synchronised to. -/
  syncProgressive : Bool
  /-- `IsFieldID0`. -/
  fieldID0 : Bool
  /-- `AutoCircCanDoFieldMode`. -/
  canDoFieldMode : Bool
  framePeriod : Int
  /-- `GetSmpte372`. -/
  smpte372 : Bool
  /-- The audio captured with the frame, as the audio hardware reports it. -/
  audioInStartAddress : ℕ
  audioInStopAddress : ℕ
  /-- The ANC or auxiliary data captured with the frame, as the extractor reports them. -/
  ancField1Bytes : ℕ
  ancField2Bytes : ℕ
  /-- `IsAudioPlaybackStopped` as the frame is shown or dropped. A read before that decides only
  whether the hardware is started. -/
  audioPlaybackStopped : Bool
  /-- The audio played is further from the expected address than the tolerance. -/
  audioOutOfSync : Bool

/-- The interrupt of a progressive frame at the given time, without audio and ANC data. -/
def TickEnv.plain (isrTimeStamp : ℕ) : TickEnv where
  isrTimeStamp := isrTimeStamp
  syncProgressive := true
  fieldID0 := true
  canDoFieldMode := false
  framePeriod := 0
  smpte372 := false
  audioInStartAddress := 0
  audioInStopAddress := 0
  ancField1Bytes := 0
  ancField2Bytes := 0
  audioPlaybackStopped := true
  audioOutOfSync := false

/-- `syncField0`: the interrupt is the first one of a frame. -/
def TickEnv.syncField0 (env : TickEnv) : Bool := env.syncProgressive || env.fieldID0

/-- `fieldMode`: the channel circulates field by field. -/
def TickEnv.fieldMode (env : TickEnv) (pAuto : InternalAutoCirculate) : Bool :=
  !env.syncProgressive && pAuto.circulateWithFields && env.canDoFieldMode

/-- The frame flags of a frame captured now. -/
def captureFlags (fieldMode syncField0 : Bool) : ℕ :=
  if fieldMode then
    if syncField0 then autocirculateFrameField0 else autocirculateFrameField1
  else autocirculateFrameFull

/-- The half of `AutoCircDropSyncFrame` for one side of a pair: whether the channel
`own` has to wait for `other`. -/
def dropSyncSide (own other : InternalAutoCirculate) : Bool :=
  if own.droppedFrames < other.droppedFrames then true
  else if own.framesProcessed > other.framesProcessed then true
  else if own.framesProcessed = other.framesProcessed then
    (other.frameStamp (kautoNextFrame other.nextFrame other)).validCount == 0
  else false

/-- `AutoCircDropSyncFrame`. -/
def autoCircDropSyncFrame (s : NTV2AutoCirc) (channelSpec : NTV2Crosspoint) : Bool :=
  let pAuto := s.autoCirculate channelSpec
  let pAutoChannel1 := s.autoCirculate s.syncChannel1
  let pAutoChannel2 := s.autoCirculate s.syncChannel2
  if s.syncChannel1 = .fgkey ∨ s.syncChannel2 = .fgkey then false
  else if pAuto.channelSpec = s.syncChannel1 then dropSyncSide pAutoChannel1 pAutoChannel2
  else if pAuto.channelSpec = s.syncChannel2 then dropSyncSide pAutoChannel2 pAutoChannel1
  else false

/-- A count that goes up, as an unsigned 32-bit number. -/
def incr (n : ℕ) : ℕ := toUInt32 (n + 1)

/-! ### The cases -/

/-- The frame the frame register names, where that is a frame of the channel. -/
def registerFrame (frameRegister : ℕ) (pAuto : InternalAutoCirculate) : Int :=
  if toInt32 frameRegister < pAuto.startFrame ∨ toInt32 frameRegister > pAuto.endFrame then
    pAuto.startFrame
  else toInt32 frameRegister

/-- What every interrupt does first: note the time, and take over the frame the frame
register names as the active one. -/
def tickEntry (env : TickEnv) (frameRegister : ℕ) (pAuto : InternalAutoCirculate) :
    InternalAutoCirculate :=
  match pAuto.state with
  | running | paused | starting =>
      { pAuto with
        VBILastRDTSC := pAuto.VBIRDTSC
        VBIRDTSC := env.isrTimeStamp
        activeFrame := registerFrame frameRegister pAuto
        prevInterruptTime := pAuto.lastInterruptTime
        lastInterruptTime := env.isrTimeStamp }
  | init =>
      { pAuto with
        VBILastRDTSC := pAuto.VBIRDTSC
        VBIRDTSC := env.isrTimeStamp }
  | _ => pAuto

/-- What an interrupt asks about the other channel of a synchronised pair, and about the ANC input of
its own.  The circulator in question is the one in hand, as far as the interrupt has changed it. -/
structure Partner where
  /-- `kVRegSyncChannels ≠ 0`. -/
  syncChannels : Bool
  /-- `AutoCircDropSyncFrame`. -/
  dropSyncFrame : InternalAutoCirculate → Bool
  /-- The partner has dropped more frames, on a capture channel. -/
  moreDropped : InternalAutoCirculate → Bool
  /-- `ancInputChannel` is a channel. -/
  ancInput : Bool

/-- What an interrupt does: whether something changed, the circulator, and the frame
written to the frame register. -/
structure TickResult where
  changeEvent : Bool
  pAuto : InternalAutoCirculate
  frame : Option Int

/-- The next frame is not one to show now: it is empty, its transfer is pending, the
partner of a synchronised pair is behind, or it is the field just shown. -/
def tickDrops (partner : Partner) (fieldMode syncField0 : Bool) (nextFrame : Int)
    (pAuto : InternalAutoCirculate) : Bool :=
  let next := pAuto.frameStamp nextFrame
  let empty := next.validCount == 0 || next.videoTransferPending
  empty || (partner.syncChannels && partner.dropSyncFrame pAuto) ||
    (fieldMode && syncField0 == hasFlag next.frameFlags autocirculateFrameField0)

/-- The active frame of a capture channel that is about to start: not to be used. -/
def startingRecordAuto (env : TickEnv) (fieldMode syncField0 : Bool)
    (pAuto : InternalAutoCirculate) : InternalAutoCirculate :=
  let stamp := pAuto.frameStamp pAuto.activeFrame
  { pAuto.setStamp pAuto.activeFrame
      { stamp with
        validCount := 0
        frameTime := pAuto.VBIRDTSC
        audioInStartAddress := env.audioInStartAddress
        audioInStopAddress :=
          if pAuto.circulateWithAudio then env.audioInStopAddress else stamp.audioInStopAddress
        ancTransferSize := 0
        ancField2TransferSize := 0
        frameFlags := captureFlags fieldMode syncField0 } with
    startTimeStamp := pAuto.VBIRDTSC }

/-- `NTV2_AUTOCIRCULATE_STARTING` on a capture channel. -/
def tickStartingRecord (env : TickEnv) (fieldMode syncField0 : Bool)
    (pAuto : InternalAutoCirculate) : TickResult :=
  let nextFrame := kautoNextFrame pAuto.activeFrame pAuto
  let pAuto := startingRecordAuto env fieldMode syncField0 pAuto
  -- start capture on field 0
  if syncField0 then ⟨true, { pAuto with nextFrame := nextFrame, state := running }, some nextFrame⟩
  else ⟨true, pAuto, none⟩

/-- The active frame is ready when a playout channel starts. -/
def bValidFrame (pAuto : InternalAutoCirculate) : Bool :=
  decide ((pAuto.frameStamp pAuto.activeFrame).validCount > 0) &&
    !(pAuto.frameStamp pAuto.activeFrame).videoTransferPending

/-- The active frame of a playout channel that is about to start: shown once. -/
def startingPlayAuto (pAuto : InternalAutoCirculate) : InternalAutoCirculate :=
  let stamp := pAuto.frameStamp pAuto.activeFrame
  pAuto.setStamp pAuto.activeFrame
    { stamp with
      frameTime := pAuto.VBIRDTSC
      validCount := if bValidFrame pAuto then stamp.validCount - 1 else stamp.validCount }

/-- `NTV2_AUTOCIRCULATE_STARTING` on a playout channel. -/
def tickStartingPlay (partner : Partner) (fieldMode syncField0 : Bool)
    (pAuto : InternalAutoCirculate) : TickResult :=
  let nextFrame := kautoNextFrame pAuto.activeFrame pAuto
  let valid := bValidFrame pAuto
  let pAuto := startingPlayAuto pAuto
  if (pAuto.frameStamp pAuto.activeFrame).validCount ≠ 0 then ⟨true, pAuto, none⟩
  else if !tickDrops partner fieldMode syncField0 nextFrame pAuto then
    ⟨true,
      { pAuto.setStamp nextFrame { pAuto.frameStamp nextFrame with
          frameTime := pAuto.VBIRDTSC } with
        startTimeStamp := pAuto.VBIRDTSC
        nextFrame := nextFrame
        framesProcessed := incr pAuto.framesProcessed
        audioDropsRequired :=
          if pAuto.circulateWithAudio && !valid then 2 else pAuto.audioDropsRequired
        state := running },
      some nextFrame⟩
  else if partner.syncChannels then
    ⟨true, { pAuto with droppedFrames := incr pAuto.droppedFrames }, none⟩
  else ⟨true, pAuto, none⟩

/-- Bits of a frame's flags that tell its field. -/
def fieldBits (flags : ℕ) : ℕ := flags &&& (autocirculateFrameField0 ||| autocirculateFrameField1)

/-- The interrupt comes less than a fifth of a frame after the one before. -/
def tooFast (env : TickEnv) (fieldMode : Bool) (pAuto : InternalAutoCirculate) : Bool :=
  let timeDiff := Int.bmod ((pAuto.lastInterruptTime : Int) - pAuto.prevInterruptTime) (2 ^ 64)
  let framePeriod :=
    if env.smpte372 || fieldMode then env.framePeriod.tdiv 2 else env.framePeriod
  decide (timeDiff < framePeriod.tdiv 5)

/-- The frame just captured is done. -/
def capturedAuto (lastActiveFrame : Int) (pAuto : InternalAutoCirculate) : InternalAutoCirculate :=
  let last := pAuto.frameStamp lastActiveFrame
  pAuto.setStamp lastActiveFrame
    { last with validCount := if last.validCount = 0 then 1 else last.validCount }

/-- The frame being captured, with what is known about it now. -/
def capturingAuto (env : TickEnv) (fieldMode syncField0 : Bool) (pAuto : InternalAutoCirculate) :
    InternalAutoCirculate :=
  pAuto.setStamp pAuto.activeFrame
    { pAuto.frameStamp pAuto.activeFrame with
      audioInStartAddress := env.audioInStartAddress
      audioInStopAddress := env.audioInStopAddress
      frameTime := pAuto.VBIRDTSC
      frameFlags := captureFlags fieldMode syncField0 }

/-- The frame just captured, with the sizes of its ANC data. -/
def ancCapturedAuto (env : TickEnv) (partner : Partner) (lastActiveFrame : Int)
    (pAuto : InternalAutoCirculate) : InternalAutoCirculate :=
  let last := pAuto.frameStamp lastActiveFrame
  let size (stored extracted : ℕ) : ℕ :=
    if pAuto.circulateWithCustomAncData then if partner.ancInput then extracted else 0 else stored
  pAuto.setStamp lastActiveFrame
    { last with
      ancTransferSize := size last.ancTransferSize env.ancField1Bytes
      ancField2TransferSize := size last.ancField2TransferSize env.ancField2Bytes }

/-- A capture channel keeps its frame: its partner has dropped more, or the field is
the one captured before. -/
def recordDropSync (partner : Partner) (fieldMode : Bool) (pAuto : InternalAutoCirculate) : Bool :=
  let prevFrame := kautoPrevFrame pAuto.activeFrame pAuto
  (partner.syncChannels && partner.moreDropped pAuto) ||
    -- do not repeat the same field when dropping
    (fieldMode && fieldBits (pAuto.frameStamp prevFrame).frameFlags ==
      fieldBits (pAuto.frameStamp pAuto.activeFrame).frameFlags)

/-- The next frame of a capture channel is free, and nothing holds the channel back. -/
def recordAdvances (partner : Partner) (fieldMode : Bool) (pAuto : InternalAutoCirculate) : Bool :=
  (pAuto.frameStamp (kautoNextFrame pAuto.activeFrame pAuto)).validCount == 0 &&
    !recordDropSync partner fieldMode pAuto

/-- `NTV2_AUTOCIRCULATE_RUNNING` on a capture channel. -/
def tickRunningRecord (env : TickEnv) (partner : Partner) (fieldMode syncField0 : Bool)
    (lastActiveFrame : Int) (pAuto : InternalAutoCirculate) : TickResult :=
  let pAuto := capturedAuto lastActiveFrame pAuto
  if tooFast env fieldMode pAuto then ⟨false, pAuto, none⟩
  else
    let pAuto := capturingAuto env fieldMode syncField0 pAuto
    let nextFrame := kautoNextFrame pAuto.activeFrame pAuto
    let advances := recordAdvances partner fieldMode pAuto
    let pAuto := ancCapturedAuto env partner lastActiveFrame pAuto
    if advances then
      -- advance to next frame for capture
      ⟨true,
        { pAuto with
          nextFrame := nextFrame
          framesProcessed := incr pAuto.framesProcessed },
        some nextFrame⟩
    else
      -- the application is not reading frames fast enough
      let stamp := pAuto.frameStamp pAuto.activeFrame
      ⟨true,
        { pAuto.setStamp pAuto.activeFrame
            { stamp with validCount := toInt32 (stamp.validCount + 1) } with
          droppedFrames := incr pAuto.droppedFrames },
        none⟩

/-- The active frame of a running playout channel: shown once more. -/
def runningPlayAuto (pAuto : InternalAutoCirculate) : InternalAutoCirculate :=
  let stamp := pAuto.frameStamp pAuto.activeFrame
  if stamp.validCount > 0 then
    pAuto.setStamp pAuto.activeFrame
      { stamp with
        validCount := stamp.validCount - 1
        frameTime := pAuto.VBIRDTSC }
  else pAuto

/-- `NTV2_AUTOCIRCULATE_RUNNING` on a playout channel. -/
def tickRunningPlay (env : TickEnv) (partner : Partner) (fieldMode syncField0 : Bool)
    (pAuto : InternalAutoCirculate) : TickResult :=
  let pAuto := runningPlayAuto pAuto
  let stamp := pAuto.frameStamp pAuto.activeFrame
  let nextFrame := kautoNextFrame pAuto.activeFrame pAuto
  -- a frame that is not complete is repeated
  if stamp.validCount ≠ 0 then ⟨true, pAuto, none⟩
  else if !tickDrops partner fieldMode syncField0 nextFrame pAuto then
    ⟨true,
      { pAuto with
        nextFrame := nextFrame
        framesProcessed := incr pAuto.framesProcessed
        audioDropsRequired :=
          if pAuto.circulateWithAudio && !env.audioPlaybackStopped && env.audioOutOfSync then
            incr pAuto.audioDropsRequired
          else pAuto.audioDropsRequired },
      some nextFrame⟩
  else
    -- the application is not supplying frames fast enough
    ⟨true,
      { pAuto with
        droppedFrames := incr pAuto.droppedFrames
        audioDropsRequired :=
          if pAuto.circulateWithAudio && (!env.audioPlaybackStopped ||
              (stamp.audioExpectedAddress == 0 &&
                pAuto.audioDropsRequired == pAuto.audioDropsCompleted)) then
            incr pAuto.audioDropsRequired
          else pAuto.audioDropsRequired },
      none⟩

/-- `NTV2_AUTOCIRCULATE_STARTING`: wait for the start time, if there is one. -/
def tickStarting (env : TickEnv) (partner : Partner) (fieldMode : Bool)
    (pAuto : InternalAutoCirculate) : TickResult :=
  if pAuto.startTime > pAuto.VBIRDTSC then ⟨false, pAuto, none⟩
  else if pAuto.recording then tickStartingRecord env fieldMode env.syncField0 pAuto
  else tickStartingPlay partner fieldMode env.syncField0 pAuto

/-- One interrupt, by the state of the circulator. -/
def tickAuto (env : TickEnv) (partner : Partner) (frameRegister : ℕ)
    (pAuto : InternalAutoCirculate) : TickResult :=
  let fieldMode := env.fieldMode pAuto
  let lastActiveFrame := pAuto.activeFrame
  let pAuto := tickEntry env frameRegister pAuto
  match pAuto.state with
  | init => ⟨false, { pAuto with startTimeStamp := pAuto.VBIRDTSC }, none⟩
  | starting | startingAtTime => tickStarting env partner fieldMode pAuto
  | running =>
      if pAuto.recording then
        tickRunningRecord env partner fieldMode env.syncField0 lastActiveFrame pAuto
      else tickRunningPlay env partner fieldMode env.syncField0 pAuto
  | stopping => ⟨false, { pAuto with state := disabled }, none⟩
  | paused | disabled => ⟨false, pAuto, none⟩

/-- The partner of a channel has dropped more frames, as a capture channel compares. -/
def moreDropped (s : NTV2AutoCirc) (pAuto : InternalAutoCirculate) : Bool :=
  let dropped1 := (s.autoCirculate s.syncChannel1).droppedFrames
  let dropped2 := (s.autoCirculate s.syncChannel2).droppedFrames
  (pAuto.channelSpec == s.syncChannel1 && decide (dropped1 < dropped2)) ||
    (pAuto.channelSpec == s.syncChannel2 && decide (dropped2 < dropped1))

/-- What an interrupt of `channelSpec` finds out about the other channel. -/
def partnerOf (s : NTV2AutoCirc) (channelSpec : NTV2Crosspoint) : Partner where
  syncChannels := s.vRegSyncChannels
  dropSyncFrame pAuto := autoCircDropSyncFrame (s.setAuto channelSpec pAuto) pAuto.channelSpec
  moreDropped pAuto := moreDropped (s.setAuto channelSpec pAuto) pAuto
  ancInput := (s.ancInputChannel (getNTV2ChannelForNTV2Crosspoint channelSpec)).isSome

/-- The interrupt does nothing to the circulator: a second field, and no field mode. -/
def tickIdle (env : TickEnv) (pAuto : InternalAutoCirculate) : Bool :=
  !env.syncField0 && !env.fieldMode pAuto

/-- `AutoCirculate`, the vertical interrupt of one channel: whether something changed,
and the new state. -/
def autoCirculate (s : NTV2AutoCirc) (channelSpec : NTV2Crosspoint) (env : TickEnv) :
    Bool × NTV2AutoCirc :=
  let pAuto := s.autoCirculate channelSpec
  if illegalChannelSpec channelSpec || tickIdle env pAuto then (false, s)
  else
    let r := tickAuto env (partnerOf s channelSpec) (s.register pAuto.activeFrameRegister) pAuto
    let s :=
      match r.frame with
      | some nextFrame => s.writeRegister pAuto.activeFrameRegister (toUInt32 nextFrame)
      | none => s
    (r.changeEvent, s.setAuto channelSpec r.pAuto)

end LibAjaNtv2
