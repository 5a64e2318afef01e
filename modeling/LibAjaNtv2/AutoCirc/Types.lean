import LibAjaNtv2.AutoCirc.Crosspoint
import LibAjaNtv2.Lib.Ring
import LibAjaNtv2.Lib.Word

/-!
The AutoCirculate database (`driver/ntv2autocirc.h`) and the access to it.

* `InternalFrameStamp`, `InternalAutoCirculate`, `NTV2AutoCirc`: the three
  structures, with the frame registers and the virtual registers the driver
  consults kept next to the circulators;
* `kautoNextFrame`, `kautoPrevFrame`: the walk around a channel's frames;
* `setAuto`, `writeRegister`: the two ways an operation changes the state;
* `gangLoop`: the loop over the channels of a gang;
* `gangLoop_invariant`: **what every member keeps, the loop keeps**.

`int32_t` fields are integers and `uint32_t` fields naturals, brought back into
range by `toInt32` and `toUInt32` where the source computes with them.  The
array `frameStamp` is a function of any integer index: an index outside
`[0, MAX_FRAMEBUFFERS)` is memory beyond the array.
-/

namespace LibAjaNtv2

/-- `NTV2AutoCirculateState`. -/
inductive NTV2AutoCirculateState where
  | disabled | init | starting | paused | stopping | running | startingAtTime
  deriving DecidableEq, Repr

/-- The codes `NTV2_STATUS_*`. -/
inductive Ntv2Status where
  | success | fail | noDevice | badState | badParameter | noMemory
  | busy | ioError | timeout | noResources
  deriving DecidableEq, Repr

/-- `MAX_FRAMEBUFFERS`. -/
def maxFramebuffers : ℕ := 512

/-- `NTV2_INVALID_FRAME`. -/
def ntv2InvalidFrame : ℕ := 0xFFFFFFFF

/-- `INTERNAL_FRAME_STAMP_STRUCT`. -/
structure InternalFrameStamp where
  frameTime : ℕ
  audioExpectedAddress : ℕ
  audioInStartAddress : ℕ
  audioInStopAddress : ℕ
  /-- `0` for a frame that is not ready, `n` for one to be shown `n` times. -/
  validCount : Int
  /-- What `validCount` becomes when the transfer completes. -/
  repeatCount : Int
  hUser : ℕ
  videoTransferPending : Bool
  frameFlags : ℕ
  ancTransferSize : ℕ
  ancField2TransferSize : ℕ
  deriving DecidableEq, Repr

/-- A frame stamp after `memset (.., 0, ..)`. -/
def InternalFrameStamp.zero : InternalFrameStamp where
  frameTime := 0
  audioExpectedAddress := 0
  audioInStartAddress := 0
  audioInStopAddress := 0
  validCount := 0
  repeatCount := 0
  hUser := 0
  videoTransferPending := false
  frameFlags := 0
  ancTransferSize := 0
  ancField2TransferSize := 0

/-- `INTERNAL_AUTOCIRCULATE_STRUCT`. -/
structure InternalAutoCirculate where
  state : NTV2AutoCirculateState
  channelSpec : NTV2Crosspoint
  recording : Bool
  currentFrame : Int
  startFrame : Int
  endFrame : Int
  activeFrame : Int
  activeFrameRegister : ℕ
  nextFrame : Int
  circulateWithAudio : Bool
  circulateWithRP188 : Bool
  circulateWithColorCorrection : Bool
  circulateWithVidProc : Bool
  circulateWithCustomAncData : Bool
  enableFbfChange : Bool
  enableFboChange : Bool
  startTimeStamp : ℕ
  framesProcessed : ℕ
  droppedFrames : ℕ
  nextTransferFrame : ℕ
  frameStamp : Int → InternalFrameStamp
  nextAudioOutputAddress : ℕ
  audioDropsRequired : ℕ
  audioDropsCompleted : ℕ
  lastInterruptTime : ℕ
  prevInterruptTime : ℕ
  startTime : ℕ
  circulateWithLTC : Bool
  audioSystem : ℕ
  channelCount : Int
  VBIRDTSC : ℕ
  VBILastRDTSC : ℕ
  transferFrame : ℕ
  audioTransferOffset : ℕ
  audioTransferSize : ℕ
  ancTransferOffset : ℕ
  ancField2TransferOffset : ℕ
  ancTransferSize : ℕ
  ancField2TransferSize : ℕ
  circulateWithHDMIAux : Bool
  circulateWithFields : Bool

/-- A circulator after `memset (.., 0, ..)`. -/
def InternalAutoCirculate.zero : InternalAutoCirculate where
  state := .disabled
  channelSpec := .channel1
  recording := false
  currentFrame := 0
  startFrame := 0
  endFrame := 0
  activeFrame := 0
  activeFrameRegister := 0
  nextFrame := 0
  circulateWithAudio := false
  circulateWithRP188 := false
  circulateWithColorCorrection := false
  circulateWithVidProc := false
  circulateWithCustomAncData := false
  enableFbfChange := false
  enableFboChange := false
  startTimeStamp := 0
  framesProcessed := 0
  droppedFrames := 0
  nextTransferFrame := 0
  frameStamp := fun _ => InternalFrameStamp.zero
  nextAudioOutputAddress := 0
  audioDropsRequired := 0
  audioDropsCompleted := 0
  lastInterruptTime := 0
  prevInterruptTime := 0
  startTime := 0
  circulateWithLTC := false
  audioSystem := 0
  channelCount := 0
  VBIRDTSC := 0
  VBILastRDTSC := 0
  transferFrame := 0
  audioTransferOffset := 0
  audioTransferSize := 0
  ancTransferOffset := 0
  ancField2TransferOffset := 0
  ancTransferSize := 0
  ancField2TransferSize := 0
  circulateWithHDMIAux := false
  circulateWithFields := false

/-- `NTV2AutoCirc`, with the registers behind its system context. -/
structure NTV2AutoCirc where
  autoCirculate : NTV2Crosspoint → InternalAutoCirculate
  /-- `none` is `NTV2_CHANNEL_INVALID`. -/
  ancInputChannel : NTV2Channel → Option NTV2Channel
  syncChannel1 : NTV2Crosspoint
  syncChannel2 : NTV2Crosspoint
  bMultiChannel : Bool
  /-- `NTV2DeviceCanDoCustomAnc (deviceID)`. -/
  canDoCustomAnc : Bool
  /-- `NTV2DeviceCanDoCustomAux (deviceID)`. -/
  canDoCustomAux : Bool
  /-- The hardware registers. -/
  register : ℕ → ℕ
  /-- `kVRegSyncChannels ≠ 0`. -/
  vRegSyncChannels : Bool
  /-- `kVRegEveryFrameTaskFilter = NTV2_STANDARD_TASKS`. -/
  standardTasks : Bool
  /-- `kVRegCustomAncInputSelect`. -/
  vRegCustomAncInputSelect : ℕ

/-- The system at rest: no channel has been used, no option is on. -/
def NTV2AutoCirc.idle : NTV2AutoCirc where
  autoCirculate := fun _ => InternalAutoCirculate.zero
  ancInputChannel := fun _ => none
  syncChannel1 := .fgkey
  syncChannel2 := .fgkey
  bMultiChannel := false
  canDoCustomAnc := false
  canDoCustomAux := false
  register := fun _ => 0
  vRegSyncChannels := false
  standardTasks := false
  vRegCustomAncInputSelect := 0

/-! ### Access -/

/-- The system after `autoCirculate[spec] = pAuto`. -/
def NTV2AutoCirc.setAuto (s : NTV2AutoCirc) (spec : NTV2Crosspoint)
    (pAuto : InternalAutoCirculate) : NTV2AutoCirc :=
  { s with autoCirculate := Function.update s.autoCirculate spec pAuto }

/-- The system after `ntv2WriteRegister (pSysCon, reg, value)`. -/
def NTV2AutoCirc.writeRegister (s : NTV2AutoCirc) (reg value : ℕ) : NTV2AutoCirc :=
  { s with register := Function.update s.register reg value }

/-- The system after `bMultiChannel = b`. -/
def NTV2AutoCirc.setMultiChannel (s : NTV2AutoCirc) (b : Bool) : NTV2AutoCirc :=
  { s with bMultiChannel := b }

/-- The circulator after `state = st`. -/
def InternalAutoCirculate.setState (pAuto : InternalAutoCirculate)
    (st : NTV2AutoCirculateState) : InternalAutoCirculate :=
  { pAuto with state := st }

/-- The circulator after `nextTransferFrame = f`. -/
def InternalAutoCirculate.setNextTransfer (pAuto : InternalAutoCirculate) (f : Int) :
    InternalAutoCirculate :=
  { pAuto with nextTransferFrame := toUInt32 f }

/-- The circulator after `frameStamp[f] = stamp`. -/
def InternalAutoCirculate.setStamp (pAuto : InternalAutoCirculate) (f : Int)
    (stamp : InternalFrameStamp) : InternalAutoCirculate :=
  { pAuto with frameStamp := Function.update pAuto.frameStamp f stamp }

section Access

variable (s : NTV2AutoCirc) (spec : NTV2Crosspoint) (a : InternalAutoCirculate) (r v : ℕ)

@[simp] lemma setAuto_same : (s.setAuto spec a).autoCirculate spec = a := by
  simp [NTV2AutoCirc.setAuto]

lemma setAuto_of_ne {spec' : NTV2Crosspoint} (h : spec' ≠ spec) :
    (s.setAuto spec a).autoCirculate spec' = s.autoCirculate spec' := by
  simp [NTV2AutoCirc.setAuto, h]

@[simp] lemma setMultiChannel_auto (b : Bool) :
    (s.setMultiChannel b).autoCirculate = s.autoCirculate := rfl
@[simp] lemma setAuto_register : (s.setAuto spec a).register = s.register := rfl
@[simp] lemma setAuto_sync1 : (s.setAuto spec a).syncChannel1 = s.syncChannel1 := rfl
@[simp] lemma setAuto_sync2 : (s.setAuto spec a).syncChannel2 = s.syncChannel2 := rfl

@[simp] lemma writeRegister_auto : (s.writeRegister r v).autoCirculate = s.autoCirculate := rfl
@[simp] lemma writeRegister_same : (s.writeRegister r v).register r = v := by
  simp [NTV2AutoCirc.writeRegister]

end Access

section Stamps

variable (a : InternalAutoCirculate) (f : Int) (stamp : InternalFrameStamp)

@[simp] lemma setStamp_same : (a.setStamp f stamp).frameStamp f = stamp := by
  simp [InternalAutoCirculate.setStamp]
lemma setStamp_of_ne {f' : Int} (h : f' ≠ f) :
    (a.setStamp f stamp).frameStamp f' = a.frameStamp f' := by
  simp [InternalAutoCirculate.setStamp, h]

end Stamps

/-! ### The walk around the frames -/

/-- `KAUTO_NEXTFRAME`. -/
def kautoNextFrame (curFrame : Int) (pAuto : InternalAutoCirculate) : Int :=
  if curFrame < pAuto.endFrame then curFrame + 1 else pAuto.startFrame

/-- `KAUTO_PREVFRAME`. -/
def kautoPrevFrame (curFrame : Int) (pAuto : InternalAutoCirculate) : Int :=
  if curFrame > pAuto.startFrame then curFrame - 1 else pAuto.endFrame

/-- The frames of a circulator: what `AutoCircInit` should establish. -/
def InternalAutoCirculate.RangeOk (pAuto : InternalAutoCirculate) : Prop :=
  0 ≤ pAuto.startFrame ∧ pAuto.startFrame ≤ pAuto.endFrame ∧
    pAuto.endFrame < maxFramebuffers

instance (pAuto : InternalAutoCirculate) : Decidable pAuto.RangeOk :=
  inferInstanceAs (Decidable (_ ∧ _ ∧ _))

/-- The frame lies on the circulator's ring. -/
def InternalAutoCirculate.Mem (pAuto : InternalAutoCirculate) (f : Int) : Prop :=
  InRing pAuto.startFrame pAuto.endFrame f

instance (pAuto : InternalAutoCirculate) (f : Int) : Decidable (pAuto.Mem f) :=
  inferInstanceAs (Decidable (InRing _ _ _))

/-! ### The loop over a gang -/

/-- `for (loopCount = k; loopCount < k + n; loopCount++)` over the channels from
place `csIndex` on; a status other than success is an early `return`. -/
def gangLoop {σ : Type} (body : ℕ → NTV2Crosspoint → σ → Ntv2Status × σ) (csIndex : ℕ) :
    ℕ → ℕ → σ → Ntv2Status × σ
  | _, 0, s => (.success, s)
  | k, n + 1, s =>
    let r := body k (getNTV2CrosspointForIndex (csIndex + k)) s
    if r.1 = .success then gangLoop body csIndex (k + 1) n r.2 else r

section Gang

variable {σ : Type} {body : ℕ → NTV2Crosspoint → σ → Ntv2Status × σ} {csIndex : ℕ}

/-- **What every member keeps, the loop keeps**, also when it returns early. -/
lemma gangLoop_invariant {I : σ → Prop} {k n : ℕ} {s : σ}
    (hbody : ∀ j s, k ≤ j → j < k + n → I s →
      I (body j (getNTV2CrosspointForIndex (csIndex + j)) s).2)
    (hs : I s) : I (gangLoop body csIndex k n s).2 := by
  induction n generalizing k s with
  | zero => exact hs
  | succ n ih =>
      have h := hbody k s le_rfl (by omega) hs
      rw [gangLoop]
      split
      · exact ih (fun j s hj hjn => hbody j s (by omega) (by omega)) h
      · exact h

/-- A condition holds each time the loop reaches a member. -/
def GangAll (cond : ℕ → NTV2Crosspoint → σ → Prop)
    (body : ℕ → NTV2Crosspoint → σ → Ntv2Status × σ) (csIndex : ℕ) : ℕ → ℕ → σ → Prop
  | _, 0, _ => True
  | k, n + 1, s =>
    cond k (getNTV2CrosspointForIndex (csIndex + k)) s ∧
      ((body k (getNTV2CrosspointForIndex (csIndex + k)) s).1 = .success →
        GangAll cond body csIndex (k + 1) n (body k (getNTV2CrosspointForIndex (csIndex + k)) s).2)

/-- What every member keeps under a condition, the loop keeps, where the condition
holds each time. -/
lemma gangLoop_invariant_of {I : σ → Prop} {cond : ℕ → NTV2Crosspoint → σ → Prop} {k n : ℕ} {s : σ}
    (hcond : GangAll cond body csIndex k n s)
    (hbody : ∀ j spec s, cond j spec s → I s → I (body j spec s).2) (hs : I s) :
    I (gangLoop body csIndex k n s).2 := by
  induction n generalizing k s with
  | zero => exact hs
  | succ n ih =>
      have h := hbody k _ s hcond.1 hs
      rw [gangLoop]
      split
      · next hok => exact ih (hcond.2 hok) h
      · exact h

/-- A gang of one is its first member. -/
lemma gangLoop_one (k : ℕ) (s : σ) :
    gangLoop body csIndex k 1 s = body k (getNTV2CrosspointForIndex (csIndex + k)) s := by
  have hz : ∀ k s, gangLoop body csIndex k 0 s = (.success, s) := fun _ _ => rfl
  rw [gangLoop]
  split
  · next h => rw [hz, ← h]
  · rfl

/-- A body that never fails makes a loop that never fails. -/
lemma gangLoop_success (hbody : ∀ k spec s, (body k spec s).1 = .success)
    (k n : ℕ) (s : σ) : (gangLoop body csIndex k n s).1 = .success := by
  induction n generalizing k s with
  | zero => rfl
  | succ n ih =>
      rw [gangLoop]
      simp only [hbody, if_true]
      exact ih _ _

end Gang

end LibAjaNtv2
