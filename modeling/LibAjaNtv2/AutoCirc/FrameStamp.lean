import LibAjaNtv2.AutoCirc.Types
import LibAjaNtv2.Timecode.Rp188

/-!
Frame-stamp queries (`driver/ntv2autocirc.c`).

* `FrameStampRest`: the fields of `INTERNAL_FRAME_STAMP_STRUCT` that only a query reads;
* `FrameStampStruct`: the reply, `StampReply`: the reply with the indices that were read;
* `autoCircGetFrameStamp`: the query;
* `Circulating`, `QueryInRange`: the states with a current frame, and the queries that stay in the
  range of their channel;
* `frameStampQuery_iff`: **when a query reads stamps of the channel only and reports other frames as
  invalid**.
-/

namespace LibAjaNtv2

open NTV2AutoCirculateState

/-! ### The query -/

/-- The fields of a frame stamp that only a query reads. -/
structure FrameStampRest where
  audioClockTimeStamp : ℕ
  audioOutStopAddress : ℕ
  audioOutStartAddress : ℕ
  rp188 : RP188_STRUCT

/-- `FRAME_STAMP_STRUCT`, from the fields that a query writes. -/
structure FrameStampStruct where
  frameTime : ℕ
  frame : ℕ
  audioClockTimeStamp : ℕ
  audioExpectedAddress : ℕ
  audioInStartAddress : ℕ
  audioInStopAddress : ℕ
  audioOutStopAddress : ℕ
  audioOutStartAddress : ℕ
  currentTime : ℕ
  currentFrame : ℕ
  currentRP188 : RP188_STRUCT
  currentFrameTime : ℕ
  audioClockCurrentTime : ℕ
  currentAudioExpectedAddress : ℕ
  currentAudioStartAddress : ℕ
  currentFieldCount : ℕ
  currentLineCount : ℕ
  currentReps : ℕ
  currenthUser : ℕ

/-- A reply after `memset (.., 0, ..)`. -/
def FrameStampStruct.zero : FrameStampStruct where
  frameTime := 0
  frame := 0
  audioClockTimeStamp := 0
  audioExpectedAddress := 0
  audioInStartAddress := 0
  audioInStopAddress := 0
  audioOutStopAddress := 0
  audioOutStartAddress := 0
  currentTime := 0
  currentFrame := 0
  currentRP188 := ⟨0, 0, 0⟩
  currentFrameTime := 0
  audioClockCurrentTime := 0
  currentAudioExpectedAddress := 0
  currentAudioStartAddress := 0
  currentFieldCount := 0
  currentLineCount := 0
  currentReps := 0
  currenthUser := 0

/-- The clocks and the registers that a query reads. -/
structure StampEnv where
  /-- `AutoGetAudioClock`. -/
  audioClock : ℕ
  /-- `ntv2Time100ns`. -/
  time100ns : ℕ
  /-- `kRegLineCount`. -/
  lineCount : ℕ
  /-- `IsFieldID0`. -/
  fieldID0 : Bool

/-- What a query answers, with the indices of the array `frameStamp` that it reads. -/
structure StampReply where
  status : Ntv2Status
  frameStamp : FrameStampStruct
  reads : List Int

/-- The states that have a current frame. -/
def Circulating (state : NTV2AutoCirculateState) : Prop :=
  state = running ∨ state = starting ∨ state = paused

instance (state : NTV2AutoCirculateState) : Decidable (Circulating state) :=
  inferInstanceAs (Decidable (_ ∨ _))

/-- The frame that is looked up: the range test of the source. -/
def requestedFrame (pAuto : InternalAutoCirculate) (ulFrameNum : Int) : Int :=
  if ulFrameNum < pAuto.startFrame ∧ ulFrameNum > pAuto.endFrame then toInt32 ntv2InvalidFrame
  else ulFrameNum

/-- The frame that is reported as the current one. -/
def reportedCurrentFrame (pAuto : InternalAutoCirculate) : Int :=
  if pAuto.activeFrame < pAuto.startFrame ∨ pAuto.activeFrame > pAuto.endFrame then
    pAuto.startFrame
  else pAuto.activeFrame

/-- The part of the reply about the requested frame, and the index that it reads. -/
def stampRequested (pAuto : InternalAutoCirculate) (rest : Int → FrameStampRest)
    (ulFrameNum : Int) (pFrameStamp : FrameStampStruct) : FrameStampStruct × List Int :=
  if toUInt32 ulFrameNum ≠ ntv2InvalidFrame then
    ({ pFrameStamp with
      frame := toUInt32 ulFrameNum
      frameTime := (pAuto.frameStamp ulFrameNum).frameTime
      audioClockTimeStamp := (rest ulFrameNum).audioClockTimeStamp
      audioExpectedAddress := (pAuto.frameStamp ulFrameNum).audioExpectedAddress
      audioInStartAddress := (pAuto.frameStamp ulFrameNum).audioInStartAddress
      audioInStopAddress := (pAuto.frameStamp ulFrameNum).audioInStopAddress
      audioOutStartAddress := (rest ulFrameNum).audioOutStartAddress
      audioOutStopAddress := (rest ulFrameNum).audioOutStopAddress }, [ulFrameNum])
  else
    ({ pFrameStamp with
      frame := ntv2InvalidFrame
      frameTime := 0
      audioClockTimeStamp := 0
      audioExpectedAddress := 0
      audioInStartAddress := 0
      audioInStopAddress := 0
      audioOutStartAddress := 0
      audioOutStopAddress := 0 }, [])

/-- The part of the reply about the current frame. -/
def stampCurrent (pAuto : InternalAutoCirculate) (rest : Int → FrameStampRest) (env : StampEnv)
    (lCurrentFrame : Int) (pFrameStamp : FrameStampStruct) : FrameStampStruct :=
  let stamp := pAuto.frameStamp lCurrentFrame
  { pFrameStamp with
    currentFrame := toUInt32 lCurrentFrame
    currentTime := env.time100ns
    currentRP188 := (rest lCurrentFrame).rp188
    currentFrameTime := if pAuto.recording then stamp.frameTime else pAuto.VBILastRDTSC
    currentFieldCount := if env.fieldID0 then 0 else 1
    currentAudioExpectedAddress :=
      if pAuto.recording then stamp.audioInStartAddress else stamp.audioExpectedAddress
    currentAudioStartAddress :=
      if pAuto.recording then stamp.audioInStartAddress
      else (rest lCurrentFrame).audioOutStartAddress
    audioClockCurrentTime := (rest lCurrentFrame).audioClockTimeStamp
    currentLineCount := env.lineCount
    currentReps := toUInt32 stamp.validCount
    currenthUser := toUInt32 stamp.hUser }

/-- `AutoCircGetFrameStamp`. -/
def autoCircGetFrameStamp (s : NTV2AutoCirc) (rest : NTV2Crosspoint → Int → FrameStampRest)
    (env : StampEnv) (channelSpec : NTV2Crosspoint) (ulFrameNum : Int)
    (pFrameStamp : FrameStampStruct) : StampReply :=
  if illegalChannelSpec channelSpec then ⟨.badParameter, pFrameStamp, []⟩
  else
    let pAuto := s.autoCirculate channelSpec
    if ¬ Circulating pAuto.state then
      ⟨.success, { FrameStampStruct.zero with
        currentFrame := ntv2InvalidFrame
        audioClockCurrentTime := env.audioClock
        currentTime := env.time100ns
        currentLineCount := env.lineCount
        currentFrameTime := pAuto.VBILastRDTSC }, []⟩
    else
      let (pFrameStamp, reads) := stampRequested pAuto (rest channelSpec)
        (requestedFrame pAuto ulFrameNum) pFrameStamp
      let lCurrentFrame := reportedCurrentFrame pAuto
      ⟨.success, stampCurrent pAuto (rest channelSpec) env lCurrentFrame pFrameStamp,
        reads ++ [lCurrentFrame]⟩

/-! ### The range -/

section Range

variable {s : NTV2AutoCirc} {rest : NTV2Crosspoint → Int → FrameStampRest} {env : StampEnv}
  {channelSpec : NTV2Crosspoint} {pAuto : InternalAutoCirculate} {f : Int}
  {pFrameStamp : FrameStampStruct}

/-- The requests that a circulating channel answers from its own stamps: there are frames, and the
requested one is among them or is the number that stands for none. -/
def RequestInRange (pAuto : InternalAutoCirculate) (f : Int) : Prop :=
  pAuto.startFrame ≤ pAuto.endFrame ∧ (f = -1 ∨ pAuto.Mem f)

lemma toUInt32_eq_invalid_iff (hf : IsInt32 f) : toUInt32 f = ntv2InvalidFrame ↔ f = -1 := by
  obtain ⟨hlo, hhi⟩ := hf
  unfold toUInt32 ntv2InvalidFrame
  omega

/-- The current frame is one of the channel where it has frames. -/
lemma mem_reportedCurrentFrame_iff :
    pAuto.Mem (reportedCurrentFrame pAuto) ↔ pAuto.startFrame ≤ pAuto.endFrame := by
  unfold reportedCurrentFrame InternalAutoCirculate.Mem InRing
  split_ifs <;> omega

lemma requestedFrame_of_le (h : pAuto.startFrame ≤ pAuto.endFrame) :
    requestedFrame pAuto f = f :=
  if_neg fun hout => by omega

lemma getFrameStamp_of_illegal (h : illegalChannelSpec channelSpec = true) :
    autoCircGetFrameStamp s rest env channelSpec f pFrameStamp = ⟨.badParameter, pFrameStamp, []⟩ :=
  if_pos h

variable (rest env f pFrameStamp) in
/-- A channel at rest reads nothing, and says so in the current frame. -/
lemma getFrameStamp_of_rest (h : illegalChannelSpec channelSpec = false)
    (hrest : ¬ Circulating (s.autoCirculate channelSpec).state) :
    (autoCircGetFrameStamp s rest env channelSpec f pFrameStamp).reads = [] ∧
      (autoCircGetFrameStamp s rest env channelSpec f pFrameStamp).frameStamp.frame = 0 ∧
      (autoCircGetFrameStamp s rest env channelSpec f pFrameStamp).frameStamp.currentFrame =
        ntv2InvalidFrame := by
  unfold autoCircGetFrameStamp
  rw [if_neg (Bool.eq_false_iff.mp h)]
  dsimp only
  rw [if_pos hrest]
  exact ⟨rfl, rfl, rfl⟩

/-- A circulating channel answers from the requested and the current frame. -/
lemma getFrameStamp_of_circulating (h : illegalChannelSpec channelSpec = false)
    (hcirc : Circulating (s.autoCirculate channelSpec).state) :
    (autoCircGetFrameStamp s rest env channelSpec f pFrameStamp).reads =
        (stampRequested (s.autoCirculate channelSpec) (rest channelSpec)
          (requestedFrame (s.autoCirculate channelSpec) f) pFrameStamp).2 ++
          [reportedCurrentFrame (s.autoCirculate channelSpec)] ∧
      (autoCircGetFrameStamp s rest env channelSpec f pFrameStamp).frameStamp.frame =
        (stampRequested (s.autoCirculate channelSpec) (rest channelSpec)
          (requestedFrame (s.autoCirculate channelSpec) f) pFrameStamp).1.frame := by
  unfold autoCircGetFrameStamp
  rw [if_neg (Bool.eq_false_iff.mp h)]
  dsimp only
  rw [if_neg (not_not.mpr hcirc)]
  exact ⟨rfl, rfl⟩

/-- The index that the requested frame is read at, and what is reported as it. -/
lemma stampRequested_spec (pAuto : InternalAutoCirculate) (pFrameStamp : FrameStampStruct)
    (rest : Int → FrameStampRest) (hf : IsInt32 f) :
    (f = -1 ∧ (stampRequested pAuto rest f pFrameStamp).2 = [] ∧
      (stampRequested pAuto rest f pFrameStamp).1.frame = ntv2InvalidFrame) ∨
    (f ≠ -1 ∧ (stampRequested pAuto rest f pFrameStamp).2 = [f]) := by
  rw [stampRequested]
  by_cases hinvalid : f = -1
  · rw [if_neg (not_not.mpr ((toUInt32_eq_invalid_iff hf).mpr hinvalid))]
    exact .inl ⟨hinvalid, rfl, rfl⟩
  · rw [if_pos (mt (toUInt32_eq_invalid_iff hf).mp hinvalid)]
    exact .inr ⟨hinvalid, rfl⟩

variable (rest env pFrameStamp) in
/-- A circulating channel reads its own stamps only, exactly for the requests in range. -/
lemma reads_mem_iff (h : illegalChannelSpec channelSpec = false)
    (hcirc : Circulating (s.autoCirculate channelSpec).state) (hf : IsInt32 f) :
    (∀ g ∈ (autoCircGetFrameStamp s rest env channelSpec f pFrameStamp).reads,
      (s.autoCirculate channelSpec).Mem g) ↔ RequestInRange (s.autoCirculate channelSpec) f := by
  rw [(getFrameStamp_of_circulating h hcirc).1, RequestInRange]
  generalize s.autoCirculate channelSpec = pAuto
  rw [List.forall_mem_append, List.forall_mem_singleton, mem_reportedCurrentFrame_iff, and_comm]
  refine and_congr_right fun hle => ?_
  rw [requestedFrame_of_le hle]
  rcases stampRequested_spec pAuto pFrameStamp (rest channelSpec) hf with
    ⟨hinvalid, hreads, -⟩ | ⟨hvalid, hreads⟩
  · rw [hreads]
    exact iff_of_true (by simp) (.inl hinvalid)
  · rw [hreads, List.forall_mem_singleton]
    exact ⟨.inr, fun hmem => hmem.resolve_left hvalid⟩

variable (rest env pFrameStamp) in
/-- A request in range of a frame that the channel does not have is reported as invalid. -/
lemma frame_of_requestInRange (h : illegalChannelSpec channelSpec = false)
    (hcirc : Circulating (s.autoCirculate channelSpec).state) (hf : IsInt32 f)
    (hrange : RequestInRange (s.autoCirculate channelSpec) f)
    (hout : ¬ (s.autoCirculate channelSpec).Mem f) :
    (autoCircGetFrameStamp s rest env channelSpec f pFrameStamp).frameStamp.frame =
      ntv2InvalidFrame := by
  rw [(getFrameStamp_of_circulating h hcirc).2, requestedFrame_of_le hrange.1]
  have hinvalid : f = -1 := hrange.2.resolve_right hout
  rcases stampRequested_spec (s.autoCirculate channelSpec) pFrameStamp (rest channelSpec) hf with
    ⟨-, -, hframe⟩ | ⟨hvalid, -⟩
  · exact hframe
  · exact absurd hinvalid hvalid

/-- **Frame-stamp queries**: a query reads stamps of its channel only and reports every other frame
as invalid exactly where the channel is illegal, is at rest and has the frame, or circulates and the
request is in range. Where the current frame of a channel at rest counts as such a report, it does
so at rest for all requests. -/
theorem frameStampQuery_iff (s : NTV2AutoCirc) (rest : NTV2Crosspoint → Int → FrameStampRest)
    (env : StampEnv) (channelSpec : NTV2Crosspoint) (pFrameStamp : FrameStampStruct)
    {f : Int} (hf : IsInt32 f) :
    let pAuto := s.autoCirculate channelSpec
    let reply := autoCircGetFrameStamp s rest env channelSpec f pFrameStamp
    ((∀ g ∈ reply.reads, pAuto.Mem g) ∧ (illegalChannelSpec channelSpec = false → ¬ pAuto.Mem f →
        reply.frameStamp.frame = ntv2InvalidFrame) ↔
      illegalChannelSpec channelSpec = true ∨ (¬ Circulating pAuto.state ∧ pAuto.Mem f) ∨
        (Circulating pAuto.state ∧ RequestInRange pAuto f)) ∧
    ((∀ g ∈ reply.reads, pAuto.Mem g) ∧ (illegalChannelSpec channelSpec = false → ¬ pAuto.Mem f →
        reply.frameStamp.frame = ntv2InvalidFrame ∨
          reply.frameStamp.currentFrame = ntv2InvalidFrame) ↔
      illegalChannelSpec channelSpec = true ∨ ¬ Circulating pAuto.state ∨
        RequestInRange pAuto f) := by
  dsimp only
  cases hspec : illegalChannelSpec channelSpec with
  | true => simp [getFrameStamp_of_illegal hspec]
  | false =>
      by_cases hcirc : Circulating (s.autoCirculate channelSpec).state
      · have hreads := reads_mem_iff rest env pFrameStamp hspec hcirc hf
        have hframe := frame_of_requestInRange rest env pFrameStamp hspec hcirc hf
        constructor
        · constructor
          · exact fun h => .inr (.inr ⟨hcirc, hreads.mp h.1⟩)
          · rintro (h | ⟨hrest, -⟩ | ⟨-, hrange⟩)
            · cases h
            · exact absurd hcirc hrest
            · exact ⟨hreads.mpr hrange, fun _ hout => hframe hrange hout⟩
        · constructor
          · exact fun h => .inr (.inr (hreads.mp h.1))
          · rintro (h | hrest | hrange)
            · cases h
            · exact absurd hcirc hrest
            · exact ⟨hreads.mpr hrange, fun _ hout => .inl (hframe hrange hout)⟩
      · obtain ⟨hreads, hframe, hcurrent⟩ :=
          getFrameStamp_of_rest rest env f pFrameStamp hspec hcirc
        rw [hreads, hframe, hcurrent]
        constructor
        · constructor
          · refine fun h => .inr (.inl ⟨hcirc, ?_⟩)
            by_contra hout
            exact absurd (h.2 rfl hout) (by decide)
          · rintro (h | ⟨-, hmem⟩ | ⟨h, -⟩)
            · cases h
            · exact ⟨by simp, fun _ hout => absurd hmem hout⟩
            · exact absurd h hcirc
        · exact ⟨fun _ => .inr (.inl hcirc), fun _ => ⟨by simp, fun _ _ => .inr rfl⟩⟩

end Range

/-! ### A frame beyond the channel -/

/-- A system whose first channel plays frames 0 to 6. -/
def playingSevenFrames : NTV2AutoCirc :=
  NTV2AutoCirc.idle.setAuto .channel1
    { InternalAutoCirculate.zero with
      state := running
      endFrame := 6
      activeFrame := 2 }

/-- Frame stamps without times. -/
def restZero : NTV2Crosspoint → Int → FrameStampRest := fun _ _ => ⟨0, 0, 0, ⟨0, 0, 0⟩⟩

/-- The channel's answer to a request for a frame of its own. -/
def replyFrame3 : StampReply :=
  autoCircGetFrameStamp playingSevenFrames restZero ⟨0, 0, 0, true⟩ .channel1 3
    FrameStampStruct.zero

/-- A request for a frame of the channel is answered from the stamps of the channel. -/
theorem frameStampQuery_iff_frame_3 :
    (∀ g ∈ replyFrame3.reads, (playingSevenFrames.autoCirculate .channel1).Mem g) ∧
      (illegalChannelSpec .channel1 = false →
        ¬ (playingSevenFrames.autoCirculate .channel1).Mem 3 →
          replyFrame3.frameStamp.frame = ntv2InvalidFrame) :=
  (frameStampQuery_iff playingSevenFrames restZero ⟨0, 0, 0, true⟩ .channel1 FrameStampStruct.zero
    (f := 3) (by decide)).1.mpr (.inr (.inr (by
      unfold RequestInRange
      decide)))

/-- A request for the frame behind the last one reads the stamp of that frame. -/
theorem not_frameStampQuery_frame_7 :
    ¬ ∀ (s : NTV2AutoCirc) rest env channelSpec pFrameStamp (f : Int), IsInt32 f →
      (∀ g ∈ (autoCircGetFrameStamp s rest env channelSpec f pFrameStamp).reads,
        (s.autoCirculate channelSpec).Mem g) ∧
      (illegalChannelSpec channelSpec = false → ¬ (s.autoCirculate channelSpec).Mem f →
        (autoCircGetFrameStamp s rest env channelSpec f pFrameStamp).frameStamp.frame =
          ntv2InvalidFrame) := by
  intro h
  exact absurd ((h playingSevenFrames restZero ⟨0, 0, 0, true⟩ .channel1 FrameStampStruct.zero 7
    (by decide)).1 7 (by decide)) (by decide)

end LibAjaNtv2
