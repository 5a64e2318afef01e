import LibAjaNtv2.AutoCirc.Run

/-!
The repeat counts of the frames.

* `CountsOk`: no count of a circulator is negative;
* `CountsOk.tick`, `CountsOk.preroll` and their siblings: what each operation needs
  to keep it;
* `Call.CountsFit`: what a call may add to a count;
* `validCount_runningPlay`: a running playout interrupt takes one off the frame shown;
* `CountsKept`: what the counts are to be in every state;
* `validCount_nonneg_run`: **no count is ever negative**, as long as the calls fit.
-/

namespace LibAjaNtv2

open NTV2AutoCirculateState

/-- No count of the circulator is negative. -/
structure CountsOk (a : InternalAutoCirculate) : Prop where
  valid : ∀ f, 0 ≤ (a.frameStamp f).validCount
  repeats : ∀ f, 0 ≤ (a.frameStamp f).repeatCount

/-! ### One circulator -/

section Kept

variable {a b : InternalAutoCirculate}

/-- The stamps are all that matters. -/
lemma CountsOk.congr (h : CountsOk a) (hb : b.frameStamp = a.frameStamp) : CountsOk b := by
  constructor
  · intro f
    rw [hb]
    exact h.valid f
  · intro f
    rw [hb]
    exact h.repeats f

/-- One stamp may change to another with counts in order. -/
lemma CountsOk.update (h : CountsOk a) {f : Int} {stamp : InternalFrameStamp}
    (hb : b.frameStamp = Function.update a.frameStamp f stamp)
    (hv : 0 ≤ stamp.validCount) (hr : 0 ≤ stamp.repeatCount) : CountsOk b := by
  constructor <;> intro g <;> rw [hb]
  · by_cases hg : g = f
    · rw [hg, Function.update_self]
      exact hv
    · rw [Function.update_of_ne hg]
      exact h.valid g
  · by_cases hg : g = f
    · rw [hg, Function.update_self]
      exact hr
    · rw [Function.update_of_ne hg]
      exact h.repeats g

lemma CountsOk.setStamp (h : CountsOk a) (f : Int) {stamp : InternalFrameStamp}
    (hv : 0 ≤ stamp.validCount) (hr : 0 ≤ stamp.repeatCount) : CountsOk (a.setStamp f stamp) :=
  h.update rfl hv hr

lemma countsOk_zero : CountsOk InternalAutoCirculate.zero :=
  ⟨fun _ => le_rfl, fun _ => le_rfl⟩

lemma countsOk_initAuto (args : InitArgs) (s : NTV2AutoCirc) (k : ℕ) (spec : NTV2Crosspoint) :
    CountsOk (initAuto args s k spec) :=
  countsOk_zero.congr rfl

lemma CountsOk.stop (h : CountsOk a) : CountsOk (stopAuto a) := by
  unfold stopAuto
  split <;> exact h.congr rfl

lemma CountsOk.abort (h : CountsOk a) : CountsOk (abortAuto a) := by
  unfold abortAuto
  split <;> exact h.congr rfl

lemma CountsOk.pause (h : CountsOk a) (bPlay bClearDF : Bool) :
    CountsOk (pauseAuto bPlay bClearDF a) := by
  unfold pauseAuto
  split_ifs <;> exact h.congr rfl

/-- A flush only clears. -/
lemma CountsOk.flush (h : CountsOk a) (bClearDF : Bool) (reg : ℕ) :
    CountsOk (flushAuto bClearDF reg a) := by
  refine flushAuto_invariant (fun b f stamp hs hb => hb.setStamp f ?_ ?_)
    (fun _ hb => hb.congr rfl) (fun _ hb => hb.congr rfl) (fun _ hb => hb.congr rfl) h
  · rcases hs.1 with hv | hv
    · rw [hv]
    · rw [hv]
      exact hb.valid f
  · rw [hs.2]
    exact hb.repeats f

/-- What a preroll may add to the frame it adds to. -/
def PrerollFits (n : Int) (a : InternalAutoCirculate) : Prop :=
  0 ≤ (a.frameStamp (prerollFrame a)).validCount + n ∧
    (a.frameStamp (prerollFrame a)).validCount + n < 2 ^ 31

lemma CountsOk.preroll (h : CountsOk a) {n : Int} (hn : PrerollFits n a) :
    CountsOk (prerollAuto n a) := by
  obtain ⟨h₀, h₁⟩ := hn
  have hrestart : CountsOk
      (if prerollFrame a = toUInt32 a.activeFrame then
        { a with state := starting, nextAudioOutputAddress := 0 } else a) ∧
      (if prerollFrame a = toUInt32 a.activeFrame then
        { a with state := starting, nextAudioOutputAddress := 0 } else a).frameStamp =
        a.frameStamp := by
    split
    · exact ⟨h.congr rfl, rfl⟩
    · exact ⟨h, rfl⟩
  unfold prerollAuto
  dsimp only
  refine hrestart.1.setStamp _ ?_ ?_
  · rw [hrestart.2, toInt32_eq_self ⟨by omega, by omega⟩]
    exact h₀
  · exact hrestart.1.repeats _

/-- A transfer to a playout channel asks for a count that is one. -/
def RepeatFits (pTransfer : AutoCirculateTransfer) (a : InternalAutoCirculate) : Prop :=
  a.recording = true ∨ pTransfer.acFrameRepeatCount < 2 ^ 31

lemma CountsOk.begins (h : CountsOk a) {p : AutoCirculateTransfer} (hp : RepeatFits p a)
    (f : ℕ) (env : TransferEnv) : CountsOk (beginAutoCircTransfer f p env a) := by
  unfold beginAutoCircTransfer
  dsimp only
  split
  · split <;> exact h.congr rfl
  · next hrec =>
    have hcount := hp.resolve_left hrec
    refine h.update rfl (h.valid f) ?_
    show 0 ≤ toInt32 p.acFrameRepeatCount
    rw [toInt32_natCast (by omega)]
    omega

lemma CountsOk.completes (h : CountsOk a) (f : ℕ) (u p : Bool) :
    CountsOk (completeAuto f u p a) := by
  unfold completeAuto
  dsimp only
  split
  · split
    · refine h.setStamp _ ?_ (h.repeats _)
      dsimp only
      split
      · exact le_rfl
      · exact h.valid _
    · refine h.setStamp _ ?_ (h.repeats _)
      dsimp only
      split
      · exact h.repeats _
      · exact h.valid _
  · exact h

lemma CountsOk.audio (h : CountsOk a) (env : TransferEnv) :
    CountsOk (autoCircDmaAudioSetup env a).2 := by
  unfold autoCircDmaAudioSetup
  dsimp only
  split
  · exact h
  · split
    · exact h.congr rfl
    · exact h.update rfl (h.valid a.transferFrame) (h.repeats a.transferFrame)

lemma CountsOk.frameFlags (h : CountsOk a) (f : Int) (flags : ℕ) :
    CountsOk (a.setFrameFlags f flags) :=
  h.setStamp f (h.valid f) (h.repeats f)

end Kept

/-! ### The interrupt -/

/-- A running capture channel drops the frame: it keeps the frame it has, and counts it
once more. -/
def CaptureDrops (env : TickEnv) (partner : Partner) (reg : ℕ) (a : InternalAutoCirculate) :
    Prop :=
  let captured := capturedAuto a.activeFrame (tickEntry env reg a)
  a.state = running ∧ a.recording = true ∧ tooFast env (env.fieldMode a) captured = false ∧
    recordAdvances partner (env.fieldMode a)
      (capturingAuto env (env.fieldMode a) env.syncField0 captured) = false

section Tick

variable {a : InternalAutoCirculate}

lemma CountsOk.entry (h : CountsOk a) (env : TickEnv) (reg : ℕ) :
    CountsOk (tickEntry env reg a) :=
  h.congr tickEntry_frameStamp

lemma CountsOk.startingRecord (h : CountsOk a) (env : TickEnv) (fieldMode syncField0 : Bool) :
    CountsOk (tickStartingRecord env fieldMode syncField0 a).pAuto := by
  have hstart : CountsOk (startingRecordAuto env fieldMode syncField0 a) :=
    h.update rfl le_rfl (h.repeats a.activeFrame)
  unfold tickStartingRecord
  dsimp only
  split <;> exact hstart.congr rfl

/-- The count of a frame that is shown once goes down only where it can. -/
lemma CountsOk.shownFirst (h : CountsOk a) : CountsOk (startingPlayAuto a) := by
  refine h.setStamp _ ?_ (h.repeats _)
  dsimp only
  split
  · next hv =>
    unfold bValidFrame at hv
    simp only [Bool.and_eq_true, decide_eq_true_eq] at hv
    omega
  · exact h.valid _

lemma CountsOk.startingPlay (h : CountsOk a) (partner : Partner) (fieldMode syncField0 : Bool) :
    CountsOk (tickStartingPlay partner fieldMode syncField0 a).pAuto := by
  have hshown := h.shownFirst
  unfold tickStartingPlay
  dsimp only
  generalize startingPlayAuto a = b at hshown ⊢
  split
  · exact hshown
  · split
    · exact hshown.update rfl (hshown.valid (kautoNextFrame a.activeFrame a))
        (hshown.repeats (kautoNextFrame a.activeFrame a))
    · split <;> exact hshown.congr rfl

lemma CountsOk.starting (h : CountsOk a) (env : TickEnv) (partner : Partner) (fieldMode : Bool) :
    CountsOk (tickStarting env partner fieldMode a).pAuto := by
  unfold tickStarting
  split_ifs
  · exact h
  · exact h.startingRecord _ _ _
  · exact h.startingPlay _ _ _

lemma CountsOk.captured (h : CountsOk a) (last : Int) : CountsOk (capturedAuto last a) := by
  refine h.setStamp _ ?_ (h.repeats _)
  dsimp only
  split
  · exact zero_le_one
  · exact h.valid _

lemma CountsOk.capturing (h : CountsOk a) (env : TickEnv) (fieldMode syncField0 : Bool) :
    CountsOk (capturingAuto env fieldMode syncField0 a) :=
  h.setStamp _ (h.valid a.activeFrame) (h.repeats a.activeFrame)

lemma CountsOk.ancCaptured (h : CountsOk a) (env : TickEnv) (partner : Partner) (last : Int) :
    CountsOk (ancCapturedAuto env partner last a) :=
  h.setStamp _ (h.valid last) (h.repeats last)

/-- A running capture channel adds one to the count of the frame it keeps. -/
lemma CountsOk.runningRecord (h : CountsOk a) (env : TickEnv) (partner : Partner)
    (fieldMode syncField0 : Bool) (last : Int)
    (hdrop : tooFast env fieldMode (capturedAuto last a) = false →
      recordAdvances partner fieldMode
        (capturingAuto env fieldMode syncField0 (capturedAuto last a)) = false →
      ((capturedAuto last a).frameStamp a.activeFrame).validCount < 2 ^ 31 - 1) :
    CountsOk (tickRunningRecord env partner fieldMode syncField0 last a).pAuto := by
  have hcaptured := h.captured last
  have hcapturing := (hcaptured.capturing env fieldMode syncField0).ancCaptured env partner last
  unfold tickRunningRecord
  dsimp only
  split
  · exact hcaptured
  · next hfast =>
    rw [Bool.not_eq_true] at hfast
    split
    · exact hcapturing.congr rfl
    · next hadv =>
      rw [Bool.not_eq_true] at hadv
      have hlt := hdrop hfast hadv
      have hv := hcaptured.valid a.activeFrame
      refine CountsOk.congr (hcapturing.setStamp a.activeFrame ?_ ?_) rfl
      · show 0 ≤ toInt32 (((ancCapturedAuto env partner last (capturingAuto env fieldMode syncField0
          (capturedAuto last a))).frameStamp a.activeFrame).validCount + 1)
        rw [ancCaptured_validCount, capturing_validCount, toInt32_eq_self ⟨by omega, by omega⟩]
        omega
      · exact hcapturing.repeats _

/-- The frame a running playout channel has shown once more. -/
lemma CountsOk.shownAgain (h : CountsOk a) : CountsOk (runningPlayAuto a) := by
  unfold runningPlayAuto
  dsimp only
  split
  · exact h.setStamp _ (by dsimp only; omega) (h.repeats a.activeFrame)
  · exact h

lemma CountsOk.runningPlay (h : CountsOk a) (env : TickEnv) (partner : Partner)
    (fieldMode syncField0 : Bool) :
    CountsOk (tickRunningPlay env partner fieldMode syncField0 a).pAuto := by
  have hshown := h.shownAgain
  unfold tickRunningPlay
  dsimp only
  split_ifs <;> exact hshown.congr rfl

/-- An interrupt keeps the counts in order, unless it counts a dropped frame past the
largest number. -/
lemma CountsOk.tick (h : CountsOk a) (env : TickEnv) (partner : Partner) (reg : ℕ)
    (hdrop : CaptureDrops env partner reg a →
      ((capturedAuto a.activeFrame (tickEntry env reg a)).frameStamp
        (registerFrame reg a)).validCount < 2 ^ 31 - 1) :
    CountsOk (tickAuto env partner reg a).pAuto := by
  have hentry := h.entry env reg
  unfold tickAuto
  dsimp only
  split
  · exact hentry.congr rfl
  · exact hentry.starting _ _ _
  · exact hentry.starting _ _ _
  · next hs =>
    rw [tickEntry_state] at hs
    have hact := tickEntry_active env reg (Or.inr (Or.inl hs))
    split
    · next hrec =>
      rw [(sameRing_tickEntry env reg a).recording] at hrec
      refine hentry.runningRecord _ _ _ _ _ fun hfast hadv => ?_
      rw [hact]
      exact hdrop ⟨hs, hrec, hfast, hadv⟩
    · exact hentry.runningPlay _ _ _ _
  · exact hentry.congr rfl
  · exact hentry
  · exact hentry

end Tick

/-! ### Runs -/

/-- What a call may do to a count: a preroll leaves it in range, a transfer asks for one
that is in range, and a capture channel stops counting dropped frames at the largest. -/
def Call.CountsFit (s : NTV2AutoCirc) : Call → Prop
  | .preroll channelSpec n => PrerollReaches s channelSpec →
      GangAll (fun _ spec t => (t.autoCirculate spec).recording = false →
          ∀ f, availFrame (t.autoCirculate spec) = some f →
            PrerollFits n ((t.autoCirculate spec).setNextTransfer f))
        (prerollMember n) (getIndexForNTV2Crosspoint channelSpec) 0
        (s.autoCirculate channelSpec).channelCount.toNat s
  | .beginTransfer channelSpec _ p _ => RepeatFits p (s.autoCirculate channelSpec)
  | .transfer p env _ => TransferBegins s p env →
      ∀ spec, InGang s p.acCrosspoint spec → RepeatFits p (s.autoCirculate spec)
  | .tick channelSpec env =>
      let pAuto := s.autoCirculate channelSpec
      let reg := s.register pAuto.activeFrameRegister
      illegalChannelSpec channelSpec = false → tickIdle env pAuto = false →
        CaptureDrops env (partnerOf s channelSpec) reg pAuto →
          ((capturedAuto pAuto.activeFrame (tickEntry env reg pAuto)).frameStamp
            (registerFrame reg pAuto)).validCount < 2 ^ 31 - 1
  | _ => True

section Runs

variable {s : NTV2AutoCirc}

/-- A transfer keeps the counts in order, where it asks the playout channels of its gang
for one that is. -/
lemma transferKeeps_countsOk {p : AutoCirculateTransfer} (env : TransferEnv)
    (hp : ∀ spec, InGang s p.acCrosspoint spec → RepeatFits p (s.autoCirculate spec)) :
    TransferKeeps
      (fun spec a => CountsOk a ∧ a.recording = (s.autoCirculate spec).recording)
      (InGang s p.acCrosspoint) p env where
  find _ _ _ _ h := ⟨h.1.congr rfl, h.2⟩
  begins spec a f hspec h := by
    refine ⟨h.1.begins ?_ f env, (unmoved_begin f p env a).recording.trans h.2⟩
    unfold RepeatFits
    rw [h.2]
    exact hp spec hspec
  completes _ a f u q _ h :=
    ⟨h.1.completes f u q, (unmoved_completeAuto f u q a).recording.trans h.2⟩
  audio _ a _ h := ⟨h.1.audio env, (unmoved_audioSetup env a).recording.trans h.2⟩
  flags _ a f _ h := ⟨h.1.frameFlags f _, h.2⟩

/-- Every call that fits keeps the counts in order. -/
lemma countsOk_call {c : Call} (hc : c.CountsFit s) (hs : RecordsOk (fun _ => CountsOk) s) :
    RecordsOk (fun _ => CountsOk) (c.run s) := by
  cases c with
  | init args => exact autoCircInit_records (fun k _ _ => countsOk_initAuto args s k _) hs
  | start spec t => exact autoCircStart_records (fun _ _ h => h.congr rfl) hs
  | stop spec => exact autoCircStop_records (fun _ _ h => h.stop) hs
  | abort spec => exact autoCircAbort_records (fun _ _ h => h.abort) hs
  | pause spec bPlay bClearDF => exact autoCircPause_records (fun _ _ h => h.pause _ _) hs
  | flush spec bClearDF => exact autoCircFlush_records (fun _ reg _ h => h.flush _ reg) hs
  | preroll spec n =>
      show RecordsOk (fun _ => CountsOk) (autoCircPreroll s spec n).2
      rcases autoCircPreroll_cases s spec n with h | ⟨hreach, h⟩ <;> rw [h]
      · exact hs
      · refine gangLoop_invariant_of (hc hreach) (fun _ spec t ht hcounts => ?_) hs
        exact prerollMember_records
          (fun f hrec hf hok => (hok.congr (b := (t.autoCirculate spec).setNextTransfer f)
            rfl).preroll (ht hrec f hf)) hcounts
  | setActiveFrame spec f =>
      exact autoCircSetActiveFrame_records (fun _ _ _ _ _ _ h => h.congr rfl) hs
  | tick spec env =>
      show RecordsOk (fun _ => CountsOk) (autoCirculate s spec env).2
      unfold autoCirculate
      dsimp only
      split
      · exact hs
      · next hidle =>
        rw [Bool.or_eq_true, not_or, Bool.not_eq_true, Bool.not_eq_true] at hidle
        have htick := (hs spec).tick env (partnerOf s spec)
          (s.register (s.autoCirculate spec).activeFrameRegister) (hc hidle.1 hidle.2)
        split
        · exact hs.writeRegister.setAuto htick
        · exact hs.setAuto htick
  | beginTransfer spec f p env => exact hs.setAuto ((hs spec).begins hc f env)
  | completeTransfer spec f u p => exact hs.setAuto ((hs spec).completes f u p)
  | transfer p env out =>
      rcases autoCircTransfer_cases s p env out with ⟨-, haway⟩ | ⟨hbegins, -⟩
      · show RecordsOk (fun _ => CountsOk) (autoCircTransfer s p env out).2.sys
        rcases haway.sys with h | h <;> rw [h]
        · exact hs
        · refine hs.setAuto ?_
          unfold autoCircFindNextAvailFrame
          split
          · exact (hs _).congr rfl
          · exact hs _
      · have h := autoCircTransfer_records out
          (transferKeeps_countsOk env (hc hbegins)) (fun spec => ⟨hs spec, rfl⟩)
        exact fun spec => (h spec).1
  | writeRegister reg value => exact hs
  | syncChannels on sync1 sync2 => exact hs

/-- The interrupt is one that a running playout channel acts on. -/
structure ShowsFrame (s : NTV2AutoCirc) (spec : NTV2Crosspoint) (env : TickEnv) : Prop where
  legal : illegalChannelSpec spec = false
  acts : tickIdle env (s.autoCirculate spec) = false
  running : (s.autoCirculate spec).state = NTV2AutoCirculateState.running
  playout : (s.autoCirculate spec).recording = false

/-- The frame on show, as the frame register tells. -/
def shownFrame (s : NTV2AutoCirc) (spec : NTV2Crosspoint) : Int :=
  registerFrame (s.register (s.autoCirculate spec).activeFrameRegister) (s.autoCirculate spec)

/-- The active frame of a running playout channel has one repeat less to go. -/
lemma runningPlayAuto_validCount {a : InternalAutoCirculate}
    (hv : 0 < (a.frameStamp a.activeFrame).validCount) :
    ((runningPlayAuto a).frameStamp a.activeFrame).validCount =
      (a.frameStamp a.activeFrame).validCount - 1 := by
  unfold runningPlayAuto
  dsimp only
  rw [if_pos hv, setStamp_same]

/-- A running playout interrupt takes one off the count of the frame on show. -/
lemma validCount_runningPlay {spec : NTV2Crosspoint} {env : TickEnv} (h : ShowsFrame s spec env)
    (hv : 0 < ((s.autoCirculate spec).frameStamp (shownFrame s spec)).validCount) :
    (((autoCirculate s spec env).2.autoCirculate spec).frameStamp
        (shownFrame s spec)).validCount =
      ((s.autoCirculate spec).frameStamp (shownFrame s spec)).validCount - 1 := by
  have hact := tickEntry_active env (s.register (s.autoCirculate spec).activeFrameRegister)
    (Or.inr (Or.inl h.running))
  have hrun : ∀ reg partner, (tickAuto env partner reg (s.autoCirculate spec)).pAuto.frameStamp =
      (runningPlayAuto (tickEntry env reg (s.autoCirculate spec))).frameStamp := by
    intro reg partner
    unfold tickAuto
    dsimp only
    rw [tickEntry_state, h.running]
    dsimp only
    rw [if_neg (by rw [(sameRing_tickEntry _ _ _).recording, h.playout]; decide)]
    unfold tickRunningPlay
    dsimp only
    split_ifs <;> rfl
  have hstamp : ((autoCirculate s spec env).2.autoCirculate spec).frameStamp =
      (runningPlayAuto (tickEntry env (s.register (s.autoCirculate spec).activeFrameRegister)
        (s.autoCirculate spec))).frameStamp := by
    rw [← hrun _ (partnerOf s spec)]
    unfold autoCirculate
    dsimp only
    rw [if_neg (by simp [h.legal, h.acts]), setAuto_same]
  have hone := runningPlayAuto_validCount
    (a := tickEntry env (s.register (s.autoCirculate spec).activeFrameRegister)
      (s.autoCirculate spec))
  rw [hact, tickEntry_frameStamp] at hone
  rw [hstamp]
  exact hone hv

end Runs

/-- No count is negative, and a running playout interrupt brings a positive count one
closer to `0`. -/
structure CountsKept (t : NTV2AutoCirc) : Prop where
  nonneg : ∀ spec f, 0 ≤ ((t.autoCirculate spec).frameStamp f).validCount
  closer : ∀ spec env, ShowsFrame t spec env →
    0 < ((t.autoCirculate spec).frameStamp (shownFrame t spec)).validCount →
      (((autoCirculate t spec env).2.autoCirculate spec).frameStamp
          (shownFrame t spec)).validCount =
        ((t.autoCirculate spec).frameStamp (shownFrame t spec)).validCount - 1

/-- **No count is ever negative**, along every run whose calls fit: a preroll takes no
more off a frame than it has left, no transfer asks for `2³¹` repeats, and no capture
channel drops that many frames in a row. -/
theorem validCount_nonneg_run {s t : NTV2AutoCirc} (hrest : AtRest s)
    (hrun : RunsTo Call.run Call.CountsFit s t) : CountsKept t := by
  have hcounts : RecordsOk (fun _ => CountsOk) t :=
    hrun.invariant (fun spec => by rw [hrest spec]; exact countsOk_zero)
      fun _ _ hc hs => countsOk_call hc hs
  exact ⟨fun spec f => (hcounts spec).valid f, fun spec env h hv => validCount_runningPlay h hv⟩

/-- A playout channel with frames `0` to `9`, started. -/
def startedPlayout : NTV2AutoCirc :=
  Call.run (Call.run .idle (.init (.plain .channel1 0 9 1))) (.start .channel1 0)

/-- A preroll by `2` fits a channel that has just started. -/
lemma startedPlayout_fits : Call.CountsFit startedPlayout (.preroll .channel1 2) := by
  have hcount : (startedPlayout.autoCirculate .channel1).channelCount.toNat = 1 := by decide
  have hone : ∀ f, availFrame (startedPlayout.autoCirculate .channel1) = some f → f = 1 := by
    intro f hf
    have h : availFrame (startedPlayout.autoCirculate .channel1) = some 1 := by decide +kernel
    rw [h] at hf
    exact (Option.some.inj hf).symm
  intro _
  rw [hcount]
  refine ⟨fun _ f hf => ?_, fun _ => trivial⟩
  rw [show f = 1 from hone f hf]
  constructor <;> decide +kernel

lemma startedPlayout_run : RunsTo Call.run Call.CountsFit .idle startedPlayout :=
  (RunsTo.refl.tail (Call.init (.plain .channel1 0 9 1)) trivial).tail (Call.start .channel1 0)
    trivial

/-- `validCount_nonneg_run` for a channel that is initialised, started and prerolled. -/
theorem validCount_nonneg_prerolled :
    CountsKept (Call.run startedPlayout (.preroll .channel1 2)) :=
  validCount_nonneg_run (s := .idle) (fun _ => rfl)
    (startedPlayout_run.tail (Call.preroll .channel1 2) startedPlayout_fits)

/-- A started playout channel that is prerolled by `-1` has a negative count. -/
theorem validCount_negative : ¬ ∀ s t, AtRest s →
    RunsTo Call.run (fun _ _ => True) s t → CountsKept t := by
  intro h
  have hrun := ((RunsTo.refl : RunsTo Call.run (fun _ _ => True) .idle .idle).tail
    (.init (.plain .channel1 0 9 1)) trivial).tail (.start .channel1 0) trivial
  have hv := (h _ _ (fun _ => rfl) (hrun.tail (.preroll .channel1 (-1)) trivial)).nonneg .channel1 0
  revert hv
  decide +kernel

end LibAjaNtv2
