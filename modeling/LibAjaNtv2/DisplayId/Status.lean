import LibAjaNtv2.DisplayId.Registers

/-!
The status of a sink from its EDID (`ntv2displayid.c`).

* `getGlobalVideoStatus`: the flags of the extension, and the walk for 4:2:0;
* `Ntv2DisplayidVideo.setDeepColor`, ...: the fields of one byte of a vendor's block;
* `getHdmiVideoStatus`, `getHfVideoStatus`: the fields of the two vendors' blocks;
* `getIndexForAudioDescriptor`, `getAudioDescriptor`: the search for a short audio descriptor;
* `getVideoStatus`, `getAudioStatus`, `update`: the status as a whole.

A status routine fills in a status and may fail; what it has filled in by then stays.
-/

namespace LibAjaNtv2

/-! ### Audio formats -/

/-- The formats of short audio descriptors. -/
inductive Ntv2Cea861AudioFormat
  | reserved
  | lpcm
  | ac3
  | mpeg1
  | mp3
  | mpeg2
  | aaclc
  | dts
  | atrac
  | dsd
  | eac3
  | dtshd
  | mlp
  | dst
  | wmapro
  | extended
  deriving DecidableEq

namespace Ntv2Cea861AudioFormat

/-- The format that stands for all of them. -/
def wildcard : Ntv2Cea861AudioFormat := reserved

/-- The format of a descriptor's first byte: `(byte1 >> 3) & 0x0F`. -/
def ofByte (byte1 : Byte) : Ntv2Cea861AudioFormat :=
  match ((byte1 >>> 3) &&& 0x0F).toNat with
  | 0 => reserved
  | 1 => lpcm
  | 2 => ac3
  | 3 => mpeg1
  | 4 => mp3
  | 5 => mpeg2
  | 6 => aaclc
  | 7 => dts
  | 8 => atrac
  | 9 => dsd
  | 10 => eac3
  | 11 => dtshd
  | 12 => mlp
  | 13 => dst
  | 14 => wmapro
  | _ => extended

end Ntv2Cea861AudioFormat

/-- A short audio descriptor. -/
structure Ntv2DisplayidAudioFormat where
  audioFormat : Ntv2Cea861AudioFormat := .reserved
  numChannels : ℕ := 0
  b192khz : Bool := false
  b176khz : Bool := false
  b96khz : Bool := false
  b88khz : Bool := false
  b48khz : Bool := false
  b44khz : Bool := false
  b32khz : Bool := false
  lpcm24bit : Bool := false
  lpcm20bit : Bool := false
  lpcm16bit : Bool := false
  byte3 : Byte := 0

/-! ### Fields of a byte -/

namespace Ntv2DisplayidVideo

/-- The bits of byte 3 of the extension. -/
def setGlobal (regVal : Byte) (v : Ntv2DisplayidVideo) : Ntv2DisplayidVideo :=
  { v with
    underscan := regVal &&& 0x80 ≠ 0
    ycbcr444 := regVal &&& 0x20 ≠ 0
    ycbcr422 := regVal &&& 0x10 ≠ 0
    ycbcr420 := false }

/-- The sink takes 4:2:0. -/
def setYcbcr420 (v : Ntv2DisplayidVideo) : Ntv2DisplayidVideo := { v with ycbcr420 := true }

/-- The deep colour bits, of byte 6 of the HDMI block. -/
def setDeepColor (dcReg : Byte) (v : Ntv2DisplayidVideo) : Ntv2DisplayidVideo :=
  { v with
    dc48bit := dcReg &&& 0x40 ≠ 0
    dc36bit := dcReg &&& 0x20 ≠ 0
    dc30bit := dcReg &&& 0x10 ≠ 0
    dcY444 := dcReg &&& 0x08 ≠ 0 }

/-- The clock, of byte 7. -/
def setMaxClockFreq (dcReg : Byte) (v : Ntv2DisplayidVideo) : Ntv2DisplayidVideo :=
  { v with maxClockFreq := dcReg.toNat * 5 }

/-- The content bits, of byte 8. -/
def setContent (dcReg : Byte) (v : Ntv2DisplayidVideo) : Ntv2DisplayidVideo :=
  { v with
    game := dcReg &&& 0x08 ≠ 0
    cinema := dcReg &&& 0x04 ≠ 0
    photo := dcReg &&& 0x02 ≠ 0
    graphics := dcReg &&& 0x01 ≠ 0 }

/-- A video latency. -/
def setVideoLatency (dcReg : Byte) (v : Ntv2DisplayidVideo) : Ntv2DisplayidVideo :=
  if 0 < dcReg.toNat then { v with videoLatency := (dcReg.toNat - 1) * 2 } else v

/-- An audio latency. -/
def setAudioLatency (dcReg : Byte) (v : Ntv2DisplayidVideo) : Ntv2DisplayidVideo :=
  if 0 < dcReg.toNat then { v with audioLatency := (dcReg.toNat - 1) * 2 } else v

/-- A video latency of interlaced video. -/
def setIntVideoLatency (dcReg : Byte) (v : Ntv2DisplayidVideo) : Ntv2DisplayidVideo :=
  if 0 < dcReg.toNat then { v with intVideoLatency := (dcReg.toNat - 1) * 2 } else v

/-- An audio latency of interlaced video. -/
def setIntAudioLatency (dcReg : Byte) (v : Ntv2DisplayidVideo) : Ntv2DisplayidVideo :=
  if 0 < dcReg.toNat then { v with intAudioLatency := (dcReg.toNat - 1) * 2 } else v

/-- The latencies of interlaced video are the others, where the block has none for it. -/
def copyLatencies (v : Ntv2DisplayidVideo) : Ntv2DisplayidVideo :=
  { v with intVideoLatency := v.videoLatency, intAudioLatency := v.audioLatency }

/-- A format of the HDMI block's list. -/
def setVic (dcReg : Byte) (v : Ntv2DisplayidVideo) : Ntv2DisplayidVideo :=
  if dcReg = 1 then { v with quad30 := true }
  else if dcReg = 2 then { v with quad25 := true }
  else if dcReg = 3 then { v with quad24 := true }
  else if dcReg = 4 then { v with four24 := true }
  else v

/-- The character rate, of byte 5 of the HF block. -/
def setMaxTmdsCsc (dcReg : Byte) (v : Ntv2DisplayidVideo) : Ntv2DisplayidVideo :=
  { v with maxTmdsCsc := dcReg.toNat * 5 }

/-- The bits of byte 6 of the HF block. -/
def setHfFlags (dcReg : Byte) (v : Ntv2DisplayidVideo) : Ntv2DisplayidVideo :=
  { v with
    osdDisparity := dcReg &&& 0x01 ≠ 0
    dualView := dcReg &&& 0x02 ≠ 0
    indepView := dcReg &&& 0x04 ≠ 0
    lteScramble := dcReg &&& 0x08 ≠ 0
    rrCapable := dcReg &&& 0x40 ≠ 0
    scdcPresent := dcReg &&& 0x80 ≠ 0 }

/-- The deep colour bits for 4:2:0, of byte 7 of the HF block. -/
def setDeepColor420 (dcReg : Byte) (v : Ntv2DisplayidVideo) : Ntv2DisplayidVideo :=
  { v with
    dc30bit420 := dcReg &&& 0x01 ≠ 0
    dc36bit420 := dcReg &&& 0x02 ≠ 0
    dc48bit420 := dcReg &&& 0x04 ≠ 0 }

end Ntv2DisplayidVideo

/-- A routine that fills in the video status. -/
abbrev VideoRoutine := Attempt Ntv2DisplayidVideo Unit

/-- A routine that fills in the audio status. -/
abbrev AudioRoutine := Attempt Ntv2DisplayidAudio Unit

namespace Ntv2Displayid

open Ntv2DisplayidVideo

variable (did : Ntv2Displayid) (uninit : Uninitialised)

/-- A register, or the end of the routine. -/
def reg {σ : Type} (blockNum regNum : ℕ) : Attempt σ Unit Byte :=
  Attempt.option () (did.readEdidRegister blockNum regNum)

/-! ### Global video status -/

/-- What the walk of `get_global_video_status` does at a header that may have an extended tag. -/
def getGlobalExtendedTag (blockNum ndx : ℕ) (regVal : Byte) : VideoRoutine Unit :=
  if 7 <<< 5 = 0xe0 &&& regVal then do
    let extTag ← did.reg blockNum (ndx + 1)
    Attempt.modify fun v =>
      if extTag = extendedTagYcbcr420datablock ∨ extTag = extendedTagYcbcr420capmap then
        v.setYcbcr420
      else v
  else pure ()

/-- The loop of `get_global_video_status`. -/
def getGlobalVideoStatusFrom (blockNum ndx : ℕ) : VideoRoutine Unit :=
  if ndx < 128 then do
    let regVal ← did.reg blockNum ndx
    did.getGlobalExtendedTag blockNum ndx regVal
    let tagLength := (0x1F &&& regVal).toNat
    if tagLength = 0 then pure ()
    else getGlobalVideoStatusFrom blockNum (ndx + (tagLength + 1))
  else pure ()
termination_by 128 - ndx

/-- `get_global_video_status`. -/
def getGlobalVideoStatus (blockNum : ℕ) : VideoRoutine Unit := do
  Attempt.require (blockNum ≠ 0) ()
  let regVal ← did.reg blockNum 3
  Attempt.modify (setGlobal regVal)
  did.getGlobalVideoStatusFrom blockNum 4

/-! ### Vendor video status -/

/-- Sets a field where the block is long enough to have the byte at `index`. -/
def setWithin (blockLength dbIndex index : ℕ) (set : Ntv2DisplayidVideo → Ntv2DisplayidVideo) :
    VideoRoutine Unit :=
  Attempt.modify fun v => if index - dbIndex ≤ blockLength then set v else v

/-- The latencies of the HDMI block, and the index of the last one. -/
def getHdmiLatencies (blockNum dbIndex blockLength index : ℕ) (latPresent ilatPresent : Bool) :
    VideoRoutine ℕ :=
  if latPresent then do
    let dcReg ← did.reg blockNum (index + 1)
    setWithin blockLength dbIndex (index + 1) (setVideoLatency dcReg)
    let dcReg ← did.reg blockNum (index + 2)
    setWithin blockLength dbIndex (index + 2) (setAudioLatency dcReg)
    if ilatPresent then
      let dcReg ← did.reg blockNum (index + 3)
      setWithin blockLength dbIndex (index + 3) (setIntVideoLatency dcReg)
      let dcReg ← did.reg blockNum (index + 4)
      setWithin blockLength dbIndex (index + 4) (setIntAudioLatency dcReg)
      return index + 4
    else
      Attempt.modify copyLatencies
      return index + 2
  else return index

/-- The loop over the formats of the HDMI block. -/
def getHdmiVics (blockNum dbIndex blockLength : ℕ) : ℕ → ℕ → VideoRoutine Unit
  | 0, _ => pure ()
  | rounds + 1, index => do
      let dcReg ← did.reg blockNum (index + 1)
      setWithin blockLength dbIndex (index + 1) (setVic dcReg)
      getHdmiVics blockNum dbIndex blockLength rounds (index + 1)

/-- The formats of the HDMI block: a byte is skipped, and one has their number. -/
def getHdmiFormats (blockNum dbIndex blockLength index : ℕ) (hdmiPresent : Bool) :
    VideoRoutine Unit :=
  if hdmiPresent then do
    let dcReg ← did.reg blockNum (index + 2)
    if index + 2 - dbIndex ≤ blockLength then
      did.getHdmiVics blockNum dbIndex blockLength ((dcReg >>> 5) &&& 0x7).toNat (index + 2)
    else pure ()
  else pure ()

/-- The fields of the HDMI block at an index. -/
def getHdmiFields (blockNum dbIndex : ℕ) : VideoRoutine Unit := do
  let dcReg ← did.reg blockNum dbIndex
  let blockLength := (dcReg &&& 0x1f).toNat
  let index := dbIndex + 6
  let dcReg ← did.reg blockNum index
  setWithin blockLength dbIndex index (setDeepColor dcReg)
  let index := index + 1
  let dcReg ← did.reg blockNum index
  setWithin blockLength dbIndex index (setMaxClockFreq dcReg)
  let index := index + 1
  let dcReg ← did.reg blockNum index
  if index - dbIndex ≤ blockLength then
    Attempt.modify (setContent dcReg)
    let index ← did.getHdmiLatencies blockNum dbIndex blockLength index
      (dcReg &&& 0x80 ≠ 0) (dcReg &&& 0x40 ≠ 0)
    did.getHdmiFormats blockNum dbIndex blockLength index (dcReg &&& 0x20 ≠ 0)
  else pure ()

/-- `get_hdmi_video_status`. -/
def getHdmiVideoStatus (blockNum : ℕ) : VideoRoutine Unit := do
  Attempt.require (blockNum ≠ 0) ()
  let dbIndex ← Attempt.option () (did.getIndexForHdmiDatablock uninit.hdmiRegId blockNum)
  if dbIndex ≠ 0 then did.getHdmiFields blockNum dbIndex else pure ()

/-- The fields of the HF block at an index. -/
def getHfFields (blockNum dbIndex : ℕ) : VideoRoutine Unit := do
  let dcReg ← did.reg blockNum dbIndex
  let blockLength := (dcReg &&& 0x1f).toNat
  let index := dbIndex + 5
  let dcReg ← did.reg blockNum index
  setWithin blockLength dbIndex index (setMaxTmdsCsc dcReg)
  let index := index + 1
  let dcReg ← did.reg blockNum index
  setWithin blockLength dbIndex index (setHfFlags dcReg)
  let index := index + 1
  let dcReg ← did.reg blockNum index
  setWithin blockLength dbIndex index (setDeepColor420 dcReg)

/-- `get_hf_video_status`. -/
def getHfVideoStatus (blockNum : ℕ) : VideoRoutine Unit := do
  Attempt.require (blockNum ≠ 0) ()
  let dbIndex ← Attempt.option () (did.getIndexForHfDatablock uninit.hfRegId blockNum)
  if dbIndex ≠ 0 then did.getHfFields blockNum dbIndex else pure ()

/-- `get_video_status`. -/
def getVideoStatus : VideoRoutine Unit := do
  Attempt.modify fun _ => {}
  let protocol ← Attempt.option () did.getEdidSinkProtocol
  Attempt.modify fun v => { v with protocol := protocol }
  if protocol = .hdmi then
    let blockNum ← Attempt.option () (did.getBlockNumberForExtension extensionTagCea861Hdmi)
    if blockNum = 0 then pure ()
    else
      did.getGlobalVideoStatus blockNum
      did.getHdmiVideoStatus uninit blockNum
      did.getHfVideoStatus uninit blockNum
  else pure ()

/-! ### Audio status -/

/-- `get_global_audio_status`. -/
def getGlobalAudioStatus (blockNum : ℕ) : AudioRoutine Unit := do
  Attempt.require (blockNum ≠ 0) ()
  let regVal ← did.reg blockNum 3
  Attempt.modify fun a => { a with basicAudio := regVal &&& 0x40 ≠ 0 }

/-- The loop over the descriptors of one block in `get_index_for_audio_descriptor`: the index of the
one it looks for, or nothing in this block. -/
def findAudioDescriptor (blockNum : ℕ) (format : Ntv2Cea861AudioFormat) (inst : ℕ) :
    ℕ → ℕ → ℕ → Option (Option ℕ)
  | 0, _, _ => some none
  | rounds + 1, dsIndex, matchCount =>
      if format = .wildcard then
        if matchCount = inst then some (some dsIndex)
        else findAudioDescriptor blockNum format inst rounds (dsIndex + 3) (matchCount + 1)
      else
        match did.readEdidRegister blockNum dsIndex with
        | none => none
        | some byte1 =>
            if Ntv2Cea861AudioFormat.ofByte byte1 = format then
              if matchCount = inst then some (some dsIndex)
              else findAudioDescriptor blockNum format inst rounds (dsIndex + 3) (matchCount + 1)
            else findAudioDescriptor blockNum format inst rounds (dsIndex + 3) matchCount

/-- The loop over the audio blocks in `get_index_for_audio_descriptor`. -/
def getIndexForAudioDescriptorFrom (blockNum : ℕ) (format : Ntv2Cea861AudioFormat) (inst : ℕ) :
    ℕ → ℕ → Option ℕ
  | 0, _ => some 0
  | rounds + 1, dbInst =>
      match did.getIndexForDatablock blockNum .audio extendedTagReserved255 dbInst with
      | none => none
      | some (dbIndex, dbLength) =>
          if dbIndex = 0 then some 0
          else
            -- the matches are counted anew in each block
            match did.findAudioDescriptor blockNum format inst (dbLength / 3) (dbIndex + 1) 0 with
            | none => none
            | some (some index) => some index
            | some none => getIndexForAudioDescriptorFrom blockNum format inst rounds (dbInst + 1)

/-- `get_index_for_audio_descriptor`. -/
def getIndexForAudioDescriptor (blockNum : ℕ) (format : Ntv2Cea861AudioFormat) (inst : ℕ) :
    Option ℕ :=
  if blockNum = 0 ∨ blockNum = 255 then none
  else did.getIndexForAudioDescriptorFrom blockNum format inst 254 0

/-- `get_audio_descriptor`, with what its array holds before. -/
def getAudioDescriptor (bytes : ℕ → Byte) (blockNum : ℕ) (format : Ntv2Cea861AudioFormat)
    (inst : ℕ) (descriptor : Ntv2DisplayidAudioFormat) : Option Ntv2DisplayidAudioFormat :=
  if blockNum = 0 then none
  else do
    let dsIndex ← did.getIndexForAudioDescriptor blockNum format inst
    if dsIndex = 0 then return { descriptor with audioFormat := .reserved }
    let bytes ← did.readEdidRegisters blockNum dsIndex 3 bytes
    let audioFormat := Ntv2Cea861AudioFormat.ofByte (bytes 0)
    return {
      audioFormat := audioFormat
      numChannels := (bytes 0 &&& 0x07).toNat + 1
      b192khz := bytes 1 &&& 0x40 ≠ 0
      b176khz := bytes 1 &&& 0x20 ≠ 0
      b96khz := bytes 1 &&& 0x10 ≠ 0
      b88khz := bytes 1 &&& 0x08 ≠ 0
      b48khz := bytes 1 &&& 0x04 ≠ 0
      b44khz := bytes 1 &&& 0x02 ≠ 0
      b32khz := bytes 1 &&& 0x01 ≠ 0
      lpcm24bit := audioFormat = .lpcm ∧ bytes 2 &&& 0x04 ≠ 0
      lpcm20bit := audioFormat = .lpcm ∧ bytes 2 &&& 0x02 ≠ 0
      lpcm16bit := audioFormat = .lpcm ∧ bytes 2 &&& 0x01 ≠ 0
      byte3 := bytes 2 }

/-- The loop over the LPCM descriptors in `get_audio_status`. -/
def getAudioStatusFrom (blockNum : ℕ) : ℕ → ℕ → AudioRoutine Unit
  | 0, _ => pure ()
  | rounds + 1, inst => do
      let descriptor ← Attempt.option ()
        (did.getAudioDescriptor (uninit.bytes inst) blockNum .lpcm inst {})
      if descriptor.audioFormat ≠ .lpcm then pure ()
      else
        Attempt.modify fun a =>
          if a.numLpcmChannels < descriptor.numChannels then
            { a with numLpcmChannels := descriptor.numChannels }
          else a
        getAudioStatusFrom blockNum rounds (inst + 1)

/-- `get_audio_status`. -/
def getAudioStatus : AudioRoutine Unit := do
  Attempt.modify fun _ => {}
  let protocol ← Attempt.option () did.getEdidSinkProtocol
  Attempt.modify fun a => { a with protocol := protocol }
  if protocol = .hdmi then
    let blockNum ← Attempt.option () (did.getBlockNumberForExtension extensionTagCea861Hdmi)
    if blockNum = 0 then pure ()
    else
      did.getGlobalAudioStatus blockNum
      let audio ← Attempt.get
      if audio.basicAudio then
        Attempt.modify fun a => { a with numLpcmChannels := 2 }
        did.getAudioStatusFrom uninit blockNum 255 0
      else pure ()
  else pure ()

/-! ### The status as a whole -/

/-- `ntv2_displayid_update`: whether it has gone well, and what it leaves. -/
def update : Bool × Ntv2Displayid :=
  match did.getVideoStatus uninit did.video with
  | (.error (), video) => (false, { did with video := video })
  | (.ok (), video) =>
      match did.getAudioStatus uninit did.audio with
      | (.error (), audio) => (false, { did with video := video, audio := audio })
      | (.ok (), audio) => (true, { did with video := video, audio := audio })

end Ntv2Displayid

end LibAjaNtv2
