import LibAjaNtv2.AutoCirc.Interrupt

/-!
The ring of a circulator, and what no operation on a circulator changes.

* `InBounds`: the indices of the array `frameStamp`;
* `InternalAutoCirculate.RangeOk.mem_next` and its siblings: the walk around the
  frames stays on the ring;
* `SameRing`: the same frames, direction, register and audio option;
* `sameRing_tickAuto`: **no interrupt changes the ring of a circulator**;
* `Unmoved`: the same ring, and the same places on it, which is what every command
  but `AutoCircStart` and `AutoCircSetActiveFrame` and every transfer leaves;
* `availFrame_mem`: the frame a transfer gets is on the ring;
* `TickPlace`: where an interrupt leaves the places on the ring.
-/

namespace LibAjaNtv2

open NTV2AutoCirculateState

/-- The index is one of the array `frameStamp`. -/
def InBounds (f : Int) : Prop := 0 ≤ f ∧ f < maxFramebuffers

section Walk

variable {a : InternalAutoCirculate}

lemma InternalAutoCirculate.RangeOk.inBounds (h : a.RangeOk) {f : Int} (hf : a.Mem f) :
    InBounds f := by
  obtain ⟨h₀, -, h₂⟩ := h
  exact ⟨by have := hf.1; omega, by have := hf.2; omega⟩

lemma InternalAutoCirculate.RangeOk.mem_next (h : a.RangeOk) {f : Int} (hf : a.Mem f) :
    a.Mem (kautoNextFrame f a) :=
  inRing_next h.2.1 (by have := hf.1; omega)

lemma InternalAutoCirculate.RangeOk.mem_prev (h : a.RangeOk) {f : Int} (hf : a.Mem f) :
    a.Mem (kautoPrevFrame f a) :=
  inRing_prev h.2.1 (by have := hf.2; omega)

lemma InternalAutoCirculate.RangeOk.mem_start (h : a.RangeOk) : a.Mem a.startFrame :=
  ⟨le_rfl, h.2.1⟩

/-- A range inside the array has a positive number of frames, as the driver counts. -/
lemma InternalAutoCirculate.RangeOk.lRange_eq {a : InternalAutoCirculate} (h : a.RangeOk) :
    a.lRange = a.endFrame - a.startFrame + 1 := by
  obtain ⟨h₀, h₁, h₂⟩ := h
  unfold maxFramebuffers at h₂
  exact toInt32_eq_self ⟨by omega, by omega⟩

/-- The frame an interrupt takes over from the frame register is on the ring. -/
lemma InternalAutoCirculate.RangeOk.mem_registerFrame (h : a.RangeOk) (reg : ℕ) :
    a.Mem (registerFrame reg a) := by
  unfold registerFrame
  split
  · exact h.mem_start
  · exact ⟨by omega, by omega⟩

/-- A frame of the array survives the detour over 32-bit numbers. -/
lemma InBounds.natCast_toUInt32 {f : Int} (hf : InBounds f) : ((toUInt32 f : ℕ) : Int) = f := by
  obtain ⟨h₀, h₁⟩ := hf
  unfold maxFramebuffers at h₁
  exact toUInt32_eq_self h₀ (by omega)

lemma InBounds.toInt32 {f : ℕ} (hf : InBounds f) : LibAjaNtv2.toInt32 f = f := by
  obtain ⟨-, h₁⟩ := hf
  unfold maxFramebuffers at h₁
  exact toInt32_natCast (by omega)

/-- The test of `CompleteAutoCircTransfer` is the right one for frames inside the array. -/
lemma InternalAutoCirculate.RangeOk.completeInRange_iff (h : a.RangeOk) {f : ℕ} :
    completeInRange f a = true ↔ a.Mem f := by
  have hs := (h.inBounds h.mem_start).natCast_toUInt32
  have he := (h.inBounds ⟨h.2.1, le_rfl⟩).natCast_toUInt32
  unfold completeInRange InternalAutoCirculate.Mem InRing
  simp only [ge_iff_le, Bool.and_eq_true, decide_eq_true_eq]
  omega

/-- A frame of the ring that is written to the frame register is read back. -/
lemma InternalAutoCirculate.RangeOk.registerFrame_toUInt32 (h : a.RangeOk) {f : Int}
    (hf : a.Mem f) : registerFrame (toUInt32 f) a = f := by
  have hin := h.inBounds hf
  have hback : toInt32 (toUInt32 f) = f := by
    have hcast := hin.natCast_toUInt32
    rw [← hcast] at hin
    rw [hin.toInt32, hcast]
  unfold registerFrame
  rw [hback, if_neg (by have := hf.1; have := hf.2; omega)]

end Walk

/-! ### What a flush keeps -/

section Flush

variable {P : InternalAutoCirculate → Prop} {a : InternalAutoCirculate}

/-- A flush changes stamps one at a time: a count stays, or goes to `0`. -/
def StampCleared (old new : InternalFrameStamp) : Prop :=
  (new.validCount = 0 ∨ new.validCount = old.validCount) ∧ new.repeatCount = old.repeatCount

lemma flushRecord_invariant
    (hstamp : ∀ a f stamp, StampCleared (a.frameStamp f) stamp → P a → P (a.setStamp f stamp))
    (l fuel cur : ℕ) (ha : P a) : P (flushRecord l fuel cur a) := by
  induction fuel generalizing cur a with
  | zero => exact ha
  | succ fuel ih =>
      rw [flushRecord]
      split
      · exact ih _ (hstamp _ _ _ ⟨Or.inl rfl, rfl⟩ ha)
      · exact ha

lemma flushPlay_invariant
    (hstamp : ∀ a f stamp, StampCleared (a.frameStamp f) stamp → P a → P (a.setStamp f stamp))
    (l fuel cur : ℕ) (ha : P a) : P (flushPlay l fuel cur a) := by
  induction fuel generalizing cur a with
  | zero => exact ha
  | succ fuel ih =>
      rw [flushPlay]
      split
      · exact ih _ (hstamp _ _ _ ⟨Or.inl rfl, rfl⟩ ha)
      · exact ha

lemma flushPlayFrom_invariant
    (hstamp : ∀ a f stamp, StampCleared (a.frameStamp f) stamp → P a → P (a.setStamp f stamp))
    (autoState : NTV2AutoCirculateState) (l : ℕ) (ha : P a) : P (flushPlayFrom autoState l a) := by
  have hplay := flushPlay_invariant hstamp l maxFramebuffers
    (toUInt32 (kautoNextFrame (toInt32 l) a)) ha
  unfold flushPlayFrom
  dsimp only
  generalize flushPlay l maxFramebuffers (toUInt32 (kautoNextFrame (toInt32 l) a)) a = b at hplay ⊢
  have hone := hstamp b l { b.frameStamp l with audioExpectedAddress := 1 } ⟨Or.inr rfl, rfl⟩ hplay
  split
  · exact hstamp _ _ _ ⟨Or.inl rfl, rfl⟩ hone
  · exact hone

/-- What clearing one frame keeps, a flush keeps. -/
lemma flushAuto_invariant {bClearDF : Bool} {reg : ℕ}
    (hstamp : ∀ a f stamp, StampCleared (a.frameStamp f) stamp → P a → P (a.setStamp f stamp))
    (hpaused : ∀ a, P a → P (flushPaused bClearDF a)) (haudio : ∀ a, P a → P (flushAudio a))
    (hstate : ∀ b, P b → P (b.setState a.state)) (ha : P a) :
    P (flushAuto bClearDF reg a) := by
  refine hstate _ ?_
  unfold flushFrom
  split
  · unfold flushRecordFrom
    exact flushRecord_invariant hstamp _ _ _ (hpaused _ ha)
  · exact haudio _ (flushPlayFrom_invariant hstamp _ _ (hpaused _ ha))

end Flush

/-! ### What no operation changes -/

/-- Two circulators have the same ring. -/
structure SameRing (a b : InternalAutoCirculate) : Prop where
  startFrame : b.startFrame = a.startFrame
  endFrame : b.endFrame = a.endFrame
  channelCount : b.channelCount = a.channelCount
  recording : b.recording = a.recording
  channelSpec : b.channelSpec = a.channelSpec
  register : b.activeFrameRegister = a.activeFrameRegister
  withAudio : b.circulateWithAudio = a.circulateWithAudio

section SameRing

variable {a b c : InternalAutoCirculate}

lemma SameRing.refl (a : InternalAutoCirculate) : SameRing a a := ⟨rfl, rfl, rfl, rfl, rfl, rfl, rfl⟩

lemma SameRing.trans (h₁ : SameRing a b) (h₂ : SameRing b c) : SameRing a c where
  startFrame := h₂.startFrame.trans h₁.startFrame
  endFrame := h₂.endFrame.trans h₁.endFrame
  channelCount := h₂.channelCount.trans h₁.channelCount
  recording := h₂.recording.trans h₁.recording
  channelSpec := h₂.channelSpec.trans h₁.channelSpec
  register := h₂.register.trans h₁.register
  withAudio := h₂.withAudio.trans h₁.withAudio

lemma SameRing.rangeOk (h : SameRing a b) (ha : a.RangeOk) : b.RangeOk := by
  unfold InternalAutoCirculate.RangeOk at ha ⊢
  rw [h.startFrame, h.endFrame]
  exact ha

lemma SameRing.mem (h : SameRing a b) (f : Int) : b.Mem f ↔ a.Mem f := by
  unfold InternalAutoCirculate.Mem
  rw [h.startFrame, h.endFrame]

lemma SameRing.next (h : SameRing a b) (f : Int) : kautoNextFrame f b = kautoNextFrame f a := by
  unfold kautoNextFrame
  rw [h.startFrame, h.endFrame]

lemma SameRing.registerFrame (h : SameRing a b) (reg : ℕ) :
    registerFrame reg b = registerFrame reg a := by
  unfold LibAjaNtv2.registerFrame
  rw [h.startFrame, h.endFrame]

lemma SameRing.setStamp (h : SameRing a b) (f : Int) (stamp : InternalFrameStamp) :
    SameRing a (b.setStamp f stamp) := h.trans ⟨rfl, rfl, rfl, rfl, rfl, rfl, rfl⟩

lemma sameRing_startAuto (a : InternalAutoCirculate) (t : Int) : SameRing a (startAuto t a) :=
  ⟨rfl, rfl, rfl, rfl, rfl, rfl, rfl⟩

lemma sameRing_activeFrame (a : InternalAutoCirculate) (f : Int) :
    SameRing a { a with activeFrame := f } := ⟨rfl, rfl, rfl, rfl, rfl, rfl, rfl⟩

lemma sameRing_tickEntry (env : TickEnv) (reg : ℕ) (a : InternalAutoCirculate) :
    SameRing a (tickEntry env reg a) := by
  unfold tickEntry
  split <;> exact ⟨rfl, rfl, rfl, rfl, rfl, rfl, rfl⟩

lemma sameRing_runningPlayAuto (a : InternalAutoCirculate) : SameRing a (runningPlayAuto a) := by
  unfold runningPlayAuto
  dsimp only
  split <;> exact ⟨rfl, rfl, rfl, rfl, rfl, rfl, rfl⟩

/-- What is noted about the frame being captured leaves the counts alone. -/
lemma capturing_validCount (env : TickEnv) (fieldMode syncField0 : Bool) (a : InternalAutoCirculate)
    (f : Int) :
    ((capturingAuto env fieldMode syncField0 a).frameStamp f).validCount =
      (a.frameStamp f).validCount := by
  unfold capturingAuto
  by_cases hf : f = a.activeFrame
  · subst hf
    rw [setStamp_same]
  · rw [setStamp_of_ne _ _ _ hf]

/-- So do the sizes of the ANC data. -/
lemma ancCaptured_validCount (env : TickEnv) (partner : Partner) (last : Int)
    (a : InternalAutoCirculate) (f : Int) :
    ((ancCapturedAuto env partner last a).frameStamp f).validCount =
      (a.frameStamp f).validCount := by
  unfold ancCapturedAuto
  by_cases hf : f = last
  · subst hf
    rw [setStamp_same]
  · rw [setStamp_of_ne _ _ _ hf]

/-- What a running capture channel notes, it notes in the stamps of frames. -/
lemma recorded_stamps (env : TickEnv) (partner : Partner) (fieldMode syncField0 : Bool)
    (last : Int) (a : InternalAutoCirculate) :
    ∃ stamps, ancCapturedAuto env partner last
      (capturingAuto env fieldMode syncField0 (capturedAuto last a)) =
        { a with frameStamp := stamps } := by
  have hcaptured : ∃ stamps, capturedAuto last a = { a with frameStamp := stamps } := ⟨_, rfl⟩
  obtain ⟨stamps, hcaptured⟩ := hcaptured
  have hcapturing : ∃ stamps', capturingAuto env fieldMode syncField0
      { a with frameStamp := stamps } = { a with frameStamp := stamps' } := ⟨_, rfl⟩
  obtain ⟨stamps', hcapturing⟩ := hcapturing
  rw [hcaptured, hcapturing]
  exact ⟨_, rfl⟩

lemma sameRing_tickRunningRecord (env : TickEnv) (partner : Partner) (fieldMode syncField0 : Bool)
    (last : Int) (a : InternalAutoCirculate) :
    SameRing a (tickRunningRecord env partner fieldMode syncField0 last a).pAuto := by
  obtain ⟨stamps, hstamps⟩ := recorded_stamps env partner fieldMode syncField0 last a
  unfold tickRunningRecord
  dsimp only
  rw [hstamps]
  split_ifs <;> exact ⟨rfl, rfl, rfl, rfl, rfl, rfl, rfl⟩

lemma sameRing_tickRunningPlay (env : TickEnv) (partner : Partner) (fieldMode syncField0 : Bool)
    (a : InternalAutoCirculate) :
    SameRing a (tickRunningPlay env partner fieldMode syncField0 a).pAuto := by
  have h := sameRing_runningPlayAuto a
  unfold tickRunningPlay
  dsimp only
  split_ifs <;> exact h.trans ⟨rfl, rfl, rfl, rfl, rfl, rfl, rfl⟩

lemma sameRing_tickStarting (env : TickEnv) (partner : Partner) (fieldMode : Bool)
    (a : InternalAutoCirculate) : SameRing a (tickStarting env partner fieldMode a).pAuto := by
  unfold tickStarting tickStartingRecord tickStartingPlay
  dsimp only
  split_ifs <;> exact ⟨rfl, rfl, rfl, rfl, rfl, rfl, rfl⟩

/-- **No interrupt changes the ring of a circulator.** -/
lemma sameRing_tickAuto (env : TickEnv) (partner : Partner) (reg : ℕ)
    (a : InternalAutoCirculate) : SameRing a (tickAuto env partner reg a).pAuto := by
  have h := sameRing_tickEntry env reg a
  unfold tickAuto
  dsimp only
  split
  · exact h.trans ⟨rfl, rfl, rfl, rfl, rfl, rfl, rfl⟩
  · exact h.trans (sameRing_tickStarting _ _ _ _)
  · exact h.trans (sameRing_tickStarting _ _ _ _)
  · split
    · exact h.trans (sameRing_tickRunningRecord _ _ _ _ _ _)
    · exact h.trans (sameRing_tickRunningPlay _ _ _ _ _)
  · exact h.trans ⟨rfl, rfl, rfl, rfl, rfl, rfl, rfl⟩
  · exact h
  · exact h

end SameRing

/-! ### What leaves the places on the ring alone -/

/-- Two circulators have the same ring and the same places on it. -/
structure Unmoved (a b : InternalAutoCirculate) : Prop extends SameRing a b where
  activeFrame : b.activeFrame = a.activeFrame
  nextFrame : b.nextFrame = a.nextFrame

section Unmoved

variable {a b c : InternalAutoCirculate}

lemma Unmoved.refl (a : InternalAutoCirculate) : Unmoved a a := ⟨.refl a, rfl, rfl⟩

lemma Unmoved.trans (h₁ : Unmoved a b) (h₂ : Unmoved b c) : Unmoved a c where
  toSameRing := h₁.toSameRing.trans h₂.toSameRing
  activeFrame := h₂.activeFrame.trans h₁.activeFrame
  nextFrame := h₂.nextFrame.trans h₁.nextFrame

lemma Unmoved.setStamp (h : Unmoved a b) (f : Int) (stamp : InternalFrameStamp) :
    Unmoved a (b.setStamp f stamp) := h.trans ⟨.setStamp (.refl b) f stamp, rfl, rfl⟩

@[simp] lemma setNextTransfer_state (f : Int) : (a.setNextTransfer f).state = a.state := rfl
@[simp] lemma setNextTransfer_activeFrame (f : Int) :
    (a.setNextTransfer f).activeFrame = a.activeFrame := rfl

lemma unmoved_setNextTransfer (a : InternalAutoCirculate) (f : Int) :
    Unmoved a (a.setNextTransfer f) := ⟨⟨rfl, rfl, rfl, rfl, rfl, rfl, rfl⟩, rfl, rfl⟩

lemma unmoved_stopAuto (a : InternalAutoCirculate) : Unmoved a (stopAuto a) := by
  unfold stopAuto
  split <;> exact ⟨⟨rfl, rfl, rfl, rfl, rfl, rfl, rfl⟩, rfl, rfl⟩

lemma unmoved_abortAuto (a : InternalAutoCirculate) : Unmoved a (abortAuto a) := by
  unfold abortAuto
  split <;> exact ⟨⟨rfl, rfl, rfl, rfl, rfl, rfl, rfl⟩, rfl, rfl⟩

lemma unmoved_pauseAuto (bPlay bClearDF : Bool) (a : InternalAutoCirculate) :
    Unmoved a (pauseAuto bPlay bClearDF a) := by
  unfold pauseAuto
  split_ifs <;> exact ⟨⟨rfl, rfl, rfl, rfl, rfl, rfl, rfl⟩, rfl, rfl⟩

lemma unmoved_flushAuto (bClearDF : Bool) (reg : ℕ) (a : InternalAutoCirculate) :
    Unmoved a (flushAuto bClearDF reg a) :=
  flushAuto_invariant (fun _ _ _ _ h => h.setStamp _ _)
    (fun _ h => h.trans ⟨⟨rfl, rfl, rfl, rfl, rfl, rfl, rfl⟩, rfl, rfl⟩)
    (fun _ h => h.trans ⟨⟨rfl, rfl, rfl, rfl, rfl, rfl, rfl⟩, rfl, rfl⟩)
    (fun _ h => h.trans ⟨⟨rfl, rfl, rfl, rfl, rfl, rfl, rfl⟩, rfl, rfl⟩) (.refl a)

/-- A preroll of the active frame brings the channel back to its start. -/
lemma prerollAuto_state (n : Int) (a : InternalAutoCirculate) :
    (prerollAuto n a).state =
      if prerollFrame a = toUInt32 a.activeFrame then starting else a.state := by
  unfold prerollAuto
  dsimp only
  split <;> rfl

lemma unmoved_prerollAuto (n : Int) (a : InternalAutoCirculate) :
    Unmoved a (prerollAuto n a) := by
  unfold prerollAuto
  dsimp only
  split <;> exact ⟨⟨rfl, rfl, rfl, rfl, rfl, rfl, rfl⟩, rfl, rfl⟩

lemma unmoved_begin (f : ℕ) (p : AutoCirculateTransfer) (env : TransferEnv)
    (a : InternalAutoCirculate) : Unmoved a (beginAutoCircTransfer f p env a) := by
  unfold beginAutoCircTransfer
  dsimp only
  split
  · split <;> exact ⟨⟨rfl, rfl, rfl, rfl, rfl, rfl, rfl⟩, rfl, rfl⟩
  · exact ⟨⟨rfl, rfl, rfl, rfl, rfl, rfl, rfl⟩, rfl, rfl⟩

lemma unmoved_completeAuto (f : ℕ) (u p : Bool) (a : InternalAutoCirculate) :
    Unmoved a (completeAuto f u p a) := by
  unfold completeAuto
  dsimp only
  split_ifs <;> exact ⟨⟨rfl, rfl, rfl, rfl, rfl, rfl, rfl⟩, rfl, rfl⟩

lemma unmoved_audioSetup (env : TransferEnv) (a : InternalAutoCirculate) :
    Unmoved a (autoCircDmaAudioSetup env a).2 := by
  unfold autoCircDmaAudioSetup
  dsimp only
  split_ifs <;> exact ⟨⟨rfl, rfl, rfl, rfl, rfl, rfl, rfl⟩, rfl, rfl⟩

lemma unmoved_setFrameFlags (f : Int) (flags : ℕ) (a : InternalAutoCirculate) :
    Unmoved a (a.setFrameFlags f flags) := ⟨⟨rfl, rfl, rfl, rfl, rfl, rfl, rfl⟩, rfl, rfl⟩

/-! A transfer does not change the state of a channel. -/

lemma state_begin (f : ℕ) (p : AutoCirculateTransfer) (env : TransferEnv)
    (a : InternalAutoCirculate) : (beginAutoCircTransfer f p env a).state = a.state := by
  unfold beginAutoCircTransfer
  dsimp only
  split
  · split <;> rfl
  · rfl

lemma state_completeAuto (f : ℕ) (u p : Bool) (a : InternalAutoCirculate) :
    (completeAuto f u p a).state = a.state := by
  unfold completeAuto
  dsimp only
  split_ifs <;> rfl

lemma state_audioSetup (env : TransferEnv) (a : InternalAutoCirculate) :
    (autoCircDmaAudioSetup env a).2.state = a.state := by
  unfold autoCircDmaAudioSetup
  dsimp only
  split_ifs <;> rfl

end Unmoved

/-! ### The frame a transfer gets -/

section Avail

variable {a : InternalAutoCirculate} {f : Int}

/-- The walk of a channel that is not started begins one before the first frame. -/
lemma InternalAutoCirculate.RangeOk.before_start (h : a.RangeOk) :
    toInt32 (a.startFrame - 1) = a.startFrame - 1 := by
  obtain ⟨h₀, h₁, h₂⟩ := h
  unfold maxFramebuffers at h₂
  exact toInt32_eq_self ⟨by omega, by omega⟩

/-- Before it is started, a playout channel offers its first free frame. -/
lemma availFrame_init (h : a.RangeOk) (hs : a.state = init) (hrec : a.recording = false) :
    availFrame a = ringScan a.startFrame a.endFrame
      (fun f => (a.frameStamp f).validCount = 0) (a.endFrame - a.startFrame + 1).toNat
      (a.startFrame - 1) := by
  simp [availFrame, hs, hrec, h.before_start, h.lRange_eq]

/-- A playout channel that is started offers the first free frame after the active one. -/
lemma availFrame_play (h : a.RangeOk) (hact : a.Mem a.activeFrame) (hs : a.state ≠ init)
    (hdis : a.state ≠ disabled) (hrec : a.recording = false) :
    availFrame a = ringScan a.startFrame a.endFrame
      (fun f => (a.frameStamp f).validCount = 0) (a.endFrame - a.startFrame).toNat
      a.activeFrame := by
  obtain ⟨h₁, h₂⟩ := hact
  have hlen : a.endFrame - a.startFrame + 1 - 1 = a.endFrame - a.startFrame := by omega
  simp [availFrame, hs, hdis, hrec, h.lRange_eq, hlen, not_lt.mpr h₁, not_lt.mpr h₂]

/-- A running capture channel offers the first ready frame after the active one. -/
lemma availFrame_record (h : a.RangeOk) (hact : a.Mem a.activeFrame) (hs : a.state = running)
    (hrec : a.recording = true) :
    availFrame a = ringScan a.startFrame a.endFrame
      (fun f => 0 < (a.frameStamp f).validCount) (a.endFrame - a.startFrame + 1).toNat
      a.activeFrame := by
  obtain ⟨h₁, h₂⟩ := hact
  simp [availFrame, hs, hrec, h.lRange_eq, not_lt.mpr h₁, not_lt.mpr h₂]

/-- A started channel that offers a frame has an active one. -/
lemma mem_active_of_availFrame (hf : availFrame a = some f) (hs : a.state ≠ init) :
    a.Mem a.activeFrame := by
  unfold availFrame at hf
  rw [if_neg hs] at hf
  split at hf
  · simp at hf
  · exact ⟨by omega, by omega⟩

/-- The frame offered is on the ring. -/
lemma availFrame_mem (h : a.RangeOk) (hf : availFrame a = some f) : a.Mem f := by
  by_cases hs : a.state = init
  · cases hrec : a.recording with
    | true => simp [availFrame, hs, hrec] at hf
    | false =>
        rw [availFrame_init h hs hrec] at hf
        exact (ringScan_some h.2.1 (by omega) hf).2
  · have hact := mem_active_of_availFrame hf hs
    have hcur : a.startFrame - 1 ≤ a.activeFrame := by have := hact.1; omega
    unfold availFrame at hf
    split_ifs at hf <;> exact (ringScan_some h.2.1 hcur hf).2

end Avail

/-! ### Where an interrupt leaves the ring -/

/-- The circulator has its active frame from the frame register. -/
def InternalAutoCirculate.Live (pAuto : InternalAutoCirculate) : Prop :=
  pAuto.state = starting ∨ pAuto.state = running ∨ pAuto.state = paused

instance (pAuto : InternalAutoCirculate) : Decidable pAuto.Live :=
  inferInstanceAs (Decidable (_ ∨ _ ∨ _))

section Place

variable {a : InternalAutoCirculate} {env : TickEnv} {partner : Partner} {reg : ℕ}

@[simp] lemma tickEntry_state : (tickEntry env reg a).state = a.state := by
  unfold tickEntry
  split <;> simp_all

@[simp] lemma tickEntry_nextFrame : (tickEntry env reg a).nextFrame = a.nextFrame := by
  unfold tickEntry
  split <;> rfl

@[simp] lemma tickEntry_frameStamp : (tickEntry env reg a).frameStamp = a.frameStamp := by
  unfold tickEntry
  split <;> rfl

/-- A live channel takes its active frame from the register. -/
lemma tickEntry_active (env : TickEnv) (reg : ℕ) (h : a.Live) :
    (tickEntry env reg a).activeFrame = registerFrame reg a := by
  unfold tickEntry
  rcases h with h | h | h <;> rw [h]

/-- Any other channel keeps its active frame. -/
lemma tickEntry_active_of_not_live (env : TickEnv) (reg : ℕ) (h : ¬ a.Live) :
    (tickEntry env reg a).activeFrame = a.activeFrame := by
  unfold InternalAutoCirculate.Live at h
  unfold tickEntry
  split <;> simp_all

/-! One interrupt, state by state. -/

lemma tickAuto_init (hs : a.state = init) : tickAuto env partner reg a =
    ⟨false, { tickEntry env reg a with startTimeStamp := (tickEntry env reg a).VBIRDTSC },
      none⟩ := by
  unfold tickAuto
  dsimp only
  rw [tickEntry_state, hs]

lemma tickAuto_starting (hs : a.state = starting) : tickAuto env partner reg a =
    tickStarting env partner (env.fieldMode a) (tickEntry env reg a) := by
  unfold tickAuto
  dsimp only
  rw [tickEntry_state, hs]

lemma tickAuto_record (hs : a.state = running) (hrec : a.recording = true) :
    tickAuto env partner reg a = tickRunningRecord env partner (env.fieldMode a) env.syncField0
      a.activeFrame (tickEntry env reg a) := by
  unfold tickAuto
  dsimp only
  rw [tickEntry_state, hs]
  dsimp only
  rw [if_pos ((sameRing_tickEntry env reg a).recording.trans hrec)]

lemma tickAuto_play (hs : a.state = running) (hrec : a.recording = false) :
    tickAuto env partner reg a = tickRunningPlay env partner (env.fieldMode a) env.syncField0
      (tickEntry env reg a) := by
  unfold tickAuto
  dsimp only
  rw [tickEntry_state, hs]
  dsimp only
  rw [if_neg (by rw [(sameRing_tickEntry env reg a).recording, hrec]; decide)]

lemma tickAuto_stopping (hs : a.state = stopping) : tickAuto env partner reg a =
    ⟨false, { tickEntry env reg a with state := disabled }, none⟩ := by
  unfold tickAuto
  dsimp only
  rw [tickEntry_state, hs]

lemma tickAuto_still (hs : a.state = paused ∨ a.state = disabled) : tickAuto env partner reg a =
    ⟨false, tickEntry env reg a, none⟩ := by
  unfold tickAuto
  dsimp only
  rw [tickEntry_state]
  rcases hs with hs | hs <;> rw [hs]

/-- What an interrupt does to the places on the ring: the active frame is the one it
took over, and the next frame is the one it writes to the register, if it does. -/
structure TickPlace (e : InternalAutoCirculate) (r : TickResult) : Prop where
  active : r.pAuto.activeFrame = e.activeFrame
  next : r.frame = none ∧ r.pAuto.nextFrame = e.nextFrame ∨
    r.frame = some (kautoNextFrame e.activeFrame e) ∧
      r.pAuto.nextFrame = kautoNextFrame e.activeFrame e

lemma tickPlace_starting (env : TickEnv) (partner : Partner) (fieldMode : Bool)
    (e : InternalAutoCirculate) : TickPlace e (tickStarting env partner fieldMode e) := by
  unfold tickStarting tickStartingRecord tickStartingPlay
  dsimp only
  split_ifs <;> first | exact ⟨rfl, Or.inl ⟨rfl, rfl⟩⟩ | exact ⟨rfl, Or.inr ⟨rfl, rfl⟩⟩

lemma tickPlace_runningRecord (env : TickEnv) (partner : Partner) (fieldMode syncField0 : Bool)
    (last : Int) (e : InternalAutoCirculate) :
    TickPlace e (tickRunningRecord env partner fieldMode syncField0 last e) := by
  obtain ⟨stamps, hstamps⟩ := recorded_stamps env partner fieldMode syncField0 last e
  unfold tickRunningRecord
  dsimp only
  rw [hstamps]
  split_ifs <;> first | exact ⟨rfl, Or.inl ⟨rfl, rfl⟩⟩ | exact ⟨rfl, Or.inr ⟨rfl, rfl⟩⟩

lemma tickPlace_runningPlay (env : TickEnv) (partner : Partner) (fieldMode syncField0 : Bool)
    (e : InternalAutoCirculate) :
    TickPlace e (tickRunningPlay env partner fieldMode syncField0 e) := by
  have hact : (runningPlayAuto e).activeFrame = e.activeFrame := by
    unfold runningPlayAuto
    dsimp only
    split <;> rfl
  have hnext : (runningPlayAuto e).nextFrame = e.nextFrame := by
    unfold runningPlayAuto
    dsimp only
    split <;> rfl
  have hring : kautoNextFrame (runningPlayAuto e).activeFrame (runningPlayAuto e) =
      kautoNextFrame e.activeFrame e := by
    rw [(sameRing_runningPlayAuto e).next, hact]
  unfold tickRunningPlay
  dsimp only
  split
  · exact ⟨hact, Or.inl ⟨rfl, hnext⟩⟩
  · split
    · exact ⟨hact, Or.inr ⟨congrArg some hring, hring⟩⟩
    · exact ⟨hact, Or.inl ⟨rfl, hnext⟩⟩

/-- An interrupt leaves the places on the ring as `TickPlace` says. -/
lemma tickPlace_tickAuto (env : TickEnv) (partner : Partner) (reg : ℕ)
    (a : InternalAutoCirculate) :
    TickPlace (tickEntry env reg a) (tickAuto env partner reg a) := by
  unfold tickAuto
  dsimp only
  split
  · exact ⟨rfl, Or.inl ⟨rfl, rfl⟩⟩
  · exact tickPlace_starting _ _ _ _
  · exact tickPlace_starting _ _ _ _
  · split
    · exact tickPlace_runningRecord _ _ _ _ _ _
    · exact tickPlace_runningPlay _ _ _ _ _
  · exact ⟨rfl, Or.inl ⟨rfl, rfl⟩⟩
  · exact ⟨rfl, Or.inl ⟨rfl, rfl⟩⟩
  · exact ⟨rfl, Or.inl ⟨rfl, rfl⟩⟩

lemma state_tickStarting (env : TickEnv) (partner : Partner) (fieldMode : Bool)
    (e : InternalAutoCirculate) :
    (tickStarting env partner fieldMode e).pAuto.state = e.state ∨
      (tickStarting env partner fieldMode e).pAuto.state = running := by
  unfold tickStarting tickStartingRecord tickStartingPlay
  dsimp only
  split_ifs <;> first | exact Or.inl rfl | exact Or.inr rfl

lemma state_tickRunningRecord (env : TickEnv) (partner : Partner) (fieldMode syncField0 : Bool)
    (last : Int) (e : InternalAutoCirculate) :
    (tickRunningRecord env partner fieldMode syncField0 last e).pAuto.state = e.state := by
  obtain ⟨stamps, hstamps⟩ := recorded_stamps env partner fieldMode syncField0 last e
  unfold tickRunningRecord
  dsimp only
  rw [hstamps]
  split_ifs <;> rfl

lemma state_tickRunningPlay (env : TickEnv) (partner : Partner) (fieldMode syncField0 : Bool)
    (e : InternalAutoCirculate) :
    (tickRunningPlay env partner fieldMode syncField0 e).pAuto.state = e.state := by
  have hstate : (runningPlayAuto e).state = e.state := by
    unfold runningPlayAuto
    dsimp only
    split <;> rfl
  unfold tickRunningPlay
  dsimp only
  split_ifs <;> exact hstate

/-- An interrupt keeps the state, starts a starting channel, or disables a stopping one. -/
lemma state_tickAuto (env : TickEnv) (partner : Partner) (reg : ℕ) (a : InternalAutoCirculate) :
    (tickAuto env partner reg a).pAuto.state = a.state ∨
      (a.state = starting ∨ a.state = startingAtTime) ∧
        (tickAuto env partner reg a).pAuto.state = running ∨
      (tickAuto env partner reg a).pAuto.state = disabled := by
  unfold tickAuto
  dsimp only
  split
  · exact Or.inl tickEntry_state
  · next h =>
    rcases state_tickStarting env partner (env.fieldMode a) (tickEntry env reg a) with hs | hs
    · left; rw [hs, tickEntry_state]
    · right; left
      exact ⟨Or.inl (by rwa [tickEntry_state] at h), hs⟩
  · next h =>
    rcases state_tickStarting env partner (env.fieldMode a) (tickEntry env reg a) with hs | hs
    · left; rw [hs, tickEntry_state]
    · right; left
      exact ⟨Or.inr (by rwa [tickEntry_state] at h), hs⟩
  · left
    split
    · rw [state_tickRunningRecord, tickEntry_state]
    · rw [state_tickRunningPlay, tickEntry_state]
  · right; right; rfl
  · exact Or.inl tickEntry_state
  · exact Or.inl tickEntry_state

end Place

end LibAjaNtv2
