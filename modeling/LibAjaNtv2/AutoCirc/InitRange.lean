import LibAjaNtv2.AutoCirc.Run

/-!
The frame range `AutoCircInit` establishes, and what rests on it.

* `GangFits`: the request names frames that exist, also for its last channel;
* `initAuto_rangeOk`: a member of a request that fits gets a range inside the array;
* `startFrames`, `flushFrames`, `prerollFrames`, `tickFrames`: the frame stamps each
  operation indexes;
* `IndexOk`: what every circulator keeps as long as the requests fit;
* `indexOk_run`: it holds in every state a run reaches;
* `autoCircInit_range_iff`: **when a success establishes the range**, and that every
  later index is then inside the array.
-/

namespace LibAjaNtv2

open NTV2AutoCirculateState

/-! ### The range of a member -/

/-- The request's frames exist, and those its last channel gets by moving on. -/
def GangFits (args : InitArgs) : Prop :=
  args.lChannelCount ≤ 0 ∨
    (0 ≤ args.lStartFrameNum ∧ args.lStartFrameNum ≤ args.lEndFrameNum ∧
      args.lEndFrameNum + (args.lChannelCount - 1) *
        (args.lEndFrameNum - args.lStartFrameNum + 1) < maxFramebuffers)

instance (args : InitArgs) : Decidable (GangFits args) :=
  inferInstanceAs (Decidable (_ ∨ _ ∧ _ ∧ _))

section Range

variable {args : InitArgs} (s : NTV2AutoCirc) {k : ℕ} (spec : NTV2Crosspoint)

/-- A range that passes the tests of `AutoCircInit` has not wrapped. -/
lemma InitParamsOk.channelRange_eq (h : InitParamsOk args) :
    (args.channelRange : Int) = args.lEndFrameNum - args.lStartFrameNum + 1 := by
  obtain ⟨-, h₁, h₂, h₃⟩ := h
  have hs := args.isInt32_start
  have he := args.isInt32_end
  unfold InitArgs.channelRange toUInt32 at *
  unfold IsInt32 at hs he
  unfold maxFramebuffers at h₁ h₂ h₃
  omega

/-- Of a gang short enough, member `k` gets the frames it is meant to get. -/
lemma initAuto_frames (h : InitParamsOk args) (hk : k ≤ 512) :
    (initAuto args s k spec).startFrame = args.lStartFrameNum +
        k * (args.lEndFrameNum - args.lStartFrameNum + 1) ∧
      (initAuto args s k spec).endFrame = args.lEndFrameNum +
        k * (args.lEndFrameNum - args.lStartFrameNum + 1) := by
  have hrange := h.channelRange_eq
  obtain ⟨-, h₁, h₂, h₃⟩ := h
  have hs := args.isInt32_start
  have he := args.isInt32_end
  unfold IsInt32 at hs he
  unfold maxFramebuffers at h₁ h₂ h₃
  have hmul : (k : Int) * args.channelRange ≤ 512 * 512 := by
    exact_mod_cast Nat.mul_le_mul hk (by omega : args.channelRange ≤ 512)
  have hmul₀ : 0 ≤ (k : Int) * args.channelRange := by positivity
  rw [← hrange]
  exact ⟨toInt32_eq_self ⟨by omega, by omega⟩, toInt32_eq_self ⟨by omega, by omega⟩⟩

/-- Every member of a request that fits has its frames inside the array. -/
lemma initAuto_rangeOk (h : InitParamsOk args) (hfits : GangFits args)
    (hk : k < args.lChannelCount.toNat) : (initAuto args s k spec).RangeOk := by
  rcases hfits with hcount | ⟨h₀, hle, hlt⟩
  · omega
  · have hd : 0 ≤ args.lEndFrameNum - args.lStartFrameNum + 1 := by omega
    have hmul := mul_le_mul_of_nonneg_right (by omega : (k : Int) ≤ args.lChannelCount - 1) hd
    have hone := mul_le_mul_of_nonneg_left
      (by omega : 1 ≤ args.lEndFrameNum - args.lStartFrameNum + 1) (by omega : 0 ≤ (k : Int))
    unfold maxFramebuffers at hlt
    obtain ⟨hstart, hend⟩ := initAuto_frames s spec (k := k) h (by omega)
    have hmul₀ : 0 ≤ (k : Int) * (args.lEndFrameNum - args.lStartFrameNum + 1) := by positivity
    refine ⟨?_, ?_, ?_⟩
    · rw [hstart]; omega
    · rw [hstart, hend]; omega
    · rw [hend, maxFramebuffers]; omega

end Range

/-- What every circulator keeps as long as the requests fit. -/
structure IndexOk (a : InternalAutoCirculate) : Prop where
  range : a.RangeOk
  /-- The frames of the last channel of the gang exist. -/
  gang : a.endFrame + (a.channelCount - 1) * (a.endFrame - a.startFrame + 1) < maxFramebuffers
  count : 0 ≤ a.channelCount
  next : InBounds a.nextFrame
  active : a.Live → InBounds a.activeFrame
  fresh : a.state = init → a.activeFrame = -1 ∨ InBounds a.activeFrame
  notTimed : a.state ≠ startingAtTime

section Kept

variable {a b : InternalAutoCirculate}

/-- The step forward from any frame of the array is one of the array. -/
lemma IndexOk.inBounds_next (h : IndexOk a) {f : Int} (hf : InBounds f) :
    InBounds (kautoNextFrame f a) := by
  obtain ⟨h₀, h₁, h₂⟩ := h.range
  obtain ⟨hf₀, hf₁⟩ := hf
  unfold InBounds kautoNextFrame
  split <;> omega

/-- The ring is one part of `IndexOk`, the places on it the other. -/
lemma IndexOk.of_sameRing (h : IndexOk a) (hr : SameRing a b) (hnext : InBounds b.nextFrame)
    (hactive : b.Live → InBounds b.activeFrame)
    (hfresh : b.state = init → b.activeFrame = -1 ∨ InBounds b.activeFrame)
    (ht : b.state ≠ startingAtTime) : IndexOk b where
  range := hr.rangeOk h.range
  gang := by
    rw [hr.startFrame, hr.endFrame, hr.channelCount]
    exact h.gang
  count := by
    rw [hr.channelCount]
    exact h.count
  next := hnext
  active := hactive
  fresh := hfresh
  notTimed := ht

/-- What leaves the places alone keeps `IndexOk`, unless it brings the channel to life. -/
lemma IndexOk.of_unmoved (h : IndexOk a) (hu : Unmoved a b) (hlive : b.Live → a.Live)
    (hinit : b.state = init → a.state = init) (ht : b.state ≠ startingAtTime) : IndexOk b := by
  refine h.of_sameRing hu.toSameRing ?_ ?_ ?_ ht
  · rw [hu.nextFrame]
    exact h.next
  · rw [hu.activeFrame]
    exact fun hb => h.active (hlive hb)
  · rw [hu.activeFrame]
    exact fun hb => h.fresh (hinit hb)

/-- What leaves the places and the state alone keeps `IndexOk`. -/
lemma IndexOk.of_same_state (h : IndexOk a) (hu : Unmoved a b) (hs : b.state = a.state) :
    IndexOk b := by
  refine h.of_unmoved hu ?_ ?_ ?_
  · unfold InternalAutoCirculate.Live
    rw [hs]
    exact id
  · rw [hs]
    exact id
  · rw [hs]
    exact h.notTimed

lemma indexOk_zero : IndexOk InternalAutoCirculate.zero where
  range := by decide
  gang := by decide
  count := by decide
  next := ⟨by decide, by decide⟩
  active := fun _ => ⟨by decide, by decide⟩
  fresh := fun _ => Or.inr ⟨by decide, by decide⟩
  notTimed := by decide

/-- A member of a request that fits is in order. -/
lemma indexOk_initAuto {args : InitArgs} {s : NTV2AutoCirc} {k : ℕ} {spec : NTV2Crosspoint}
    (hp : InitParamsOk args) (hfits : GangFits args) (hk : k < args.lChannelCount.toNat) :
    IndexOk (initAuto args s k spec) := by
  have hr := initAuto_rangeOk s spec hp hfits hk
  have hfresh : toInt32 ntv2InvalidFrame = -1 := by decide
  have hnext : InBounds 0 := ⟨le_rfl, by decide⟩
  refine ⟨hr, ?_, ?_, hnext, ?_, fun _ => Or.inl hfresh, by simp [initAuto]⟩
  · rcases Nat.eq_zero_or_pos k with rfl | hpos
    · -- the first member counts the gang
      obtain ⟨hstart, hend⟩ := initAuto_frames s spec hp (Nat.zero_le 512)
      rw [hstart, hend]
      rcases hfits with hcount | ⟨-, -, hlt⟩
      · omega
      · simpa [initAuto] using hlt
    · -- the others count none
      have hzero : (initAuto args s k spec).channelCount = 0 := by
        simp [initAuto, Nat.pos_iff_ne_zero.mp hpos]
      obtain ⟨h₀, h₁, h₂⟩ := hr
      rw [hzero]
      omega
  · by_cases hk₀ : k = 0
    · simp only [initAuto, hk₀, beq_self_eq_true, if_true]
      omega
    · simp [initAuto, hk₀]
  · intro hlive
    simp [InternalAutoCirculate.Live, initAuto] at hlive

lemma IndexOk.start (h : IndexOk a) (t : Int) : IndexOk (startAuto t a) :=
  h.of_sameRing (sameRing_startAuto a t) (h.range.inBounds h.range.mem_start)
    (fun _ => h.range.inBounds h.range.mem_start)
    (fun _ => Or.inr (h.range.inBounds h.range.mem_start)) (by simp [startAuto])

lemma IndexOk.stop (h : IndexOk a) : IndexOk (stopAuto a) := by
  have ht := h.notTimed
  refine h.of_unmoved (unmoved_stopAuto a) ?_ ?_ ?_ <;> unfold stopAuto <;>
    split <;> simp_all [InternalAutoCirculate.Live]

lemma IndexOk.abort (h : IndexOk a) : IndexOk (abortAuto a) := by
  have ht := h.notTimed
  refine h.of_unmoved (unmoved_abortAuto a) ?_ ?_ ?_ <;> unfold abortAuto <;>
    split <;> simp_all [InternalAutoCirculate.Live]

lemma IndexOk.pause (h : IndexOk a) (bPlay bClearDF : Bool) :
    IndexOk (pauseAuto bPlay bClearDF a) := by
  have ht := h.notTimed
  refine h.of_unmoved (unmoved_pauseAuto bPlay bClearDF a) ?_ ?_ ?_ <;> unfold pauseAuto <;>
    split_ifs <;> simp_all [InternalAutoCirculate.Live]

lemma IndexOk.flush (h : IndexOk a) (bClearDF : Bool) (reg : ℕ) :
    IndexOk (flushAuto bClearDF reg a) :=
  h.of_same_state (unmoved_flushAuto bClearDF reg a) rfl

/-- The frame a preroll adds to is on the ring. -/
lemma mem_prerollFrame {f : Int} (hr : a.RangeOk) (hf : availFrame a = some f) :
    a.Mem (prerollFrame (a.setNextTransfer f)) := by
  have hmem := availFrame_mem hr hf
  have hcast := (hr.inBounds hmem).natCast_toUInt32
  have hint : toInt32 (toUInt32 f) = f := by
    rw [← hcast] at hmem
    rw [(hr.inBounds hmem).toInt32, hcast]
  unfold prerollFrame
  split
  · have hprev := hr.mem_prev hmem
    show a.Mem (toUInt32 (kautoPrevFrame (toInt32 (toUInt32 f)) a))
    rw [hint, (hr.inBounds hprev).natCast_toUInt32]
    exact hprev
  · show a.Mem (toUInt32 f)
    rwa [hcast]

lemma IndexOk.preroll (h : IndexOk a) {f : Int} (hf : availFrame a = some f) (n : Int) :
    IndexOk (prerollAuto n (a.setNextTransfer f)) := by
  have hu := (unmoved_setNextTransfer a f).trans (unmoved_prerollAuto n (a.setNextTransfer f))
  have hmem := h.range.inBounds (mem_prerollFrame h.range hf)
  have hlt := hmem.2
  unfold maxFramebuffers at hlt
  -- a channel that is brought back to its start has its active frame
  have hrestart : prerollFrame (a.setNextTransfer f) = toUInt32 a.activeFrame →
      InBounds a.activeFrame := by
    intro hact
    by_cases hs : a.state = init
    · rcases h.fresh hs with hneg | hin
      · rw [hneg] at hact
        have : toUInt32 (-1) = 4294967295 := by decide
        omega
      · exact hin
    · exact h.range.inBounds (mem_active_of_availFrame hf hs)
  have hstate := prerollAuto_state n (a.setNextTransfer f)
  rw [setNextTransfer_state, setNextTransfer_activeFrame] at hstate
  by_cases hact : prerollFrame (a.setNextTransfer f) = toUInt32 a.activeFrame
  · rw [if_pos hact] at hstate
    refine h.of_sameRing hu.toSameRing ?_ ?_ ?_ ?_
    · rw [hu.nextFrame]
      exact h.next
    · rw [hu.activeFrame]
      exact fun _ => hrestart hact
    · rw [hu.activeFrame]
      exact fun _ => Or.inr (hrestart hact)
    · rw [hstate]
      simp
  · rw [if_neg hact] at hstate
    exact h.of_same_state hu hstate

lemma IndexOk.setActiveFrame (h : IndexOk a) {f : Int} (hf : InBounds f) :
    IndexOk { a with activeFrame := f } :=
  h.of_sameRing (sameRing_activeFrame a f) h.next (fun _ => hf) (fun _ => Or.inr hf) h.notTimed

lemma IndexOk.tick (h : IndexOk a) (env : TickEnv) (partner : Partner) (reg : ℕ) :
    IndexOk (tickAuto env partner reg a).pAuto := by
  have hring := sameRing_tickAuto env partner reg a
  have hplace := tickPlace_tickAuto env partner reg a
  have hentry := sameRing_tickEntry env reg a
  have hstate := state_tickAuto env partner reg a
  have ht := h.notTimed
  -- the active frame taken over from the register
  have hact : a.Live → InBounds (tickEntry env reg a).activeFrame := fun hl => by
    rw [tickEntry_active _ _ hl]
    exact h.range.inBounds (h.range.mem_registerFrame reg)
  have hlive : (tickAuto env partner reg a).pAuto.Live → a.Live := by
    unfold InternalAutoCirculate.Live
    rcases hstate with hs | ⟨hs, hs'⟩ | hs
    · rw [hs]
      exact id
    · rcases hs with hs | hs
      · exact fun _ => Or.inl hs
      · exact absurd hs ht
    · rw [hs]
      simp
  refine h.of_sameRing hring ?_ ?_ ?_ ?_
  · rcases hplace.next with ⟨-, hn⟩ | ⟨hw, hn⟩
    · rw [hn, tickEntry_nextFrame]
      exact h.next
    · -- only a live channel writes its register
      by_cases hl : a.Live
      · rw [hn, hentry.next]
        exact h.inBounds_next (hact hl)
      · exfalso
        unfold InternalAutoCirculate.Live at hl
        unfold tickAuto at hw
        dsimp only at hw
        rw [tickEntry_state] at hw
        cases hst : a.state <;> simp_all
  · intro hl
    rw [hplace.active]
    exact hact (hlive hl)
  · intro hi
    rw [hplace.active]
    have hai : a.state = init := by
      rcases hstate with hs | ⟨-, hs⟩ | hs
      · rw [← hs]
        exact hi
      · rw [hs] at hi
        simp at hi
      · rw [hs] at hi
        simp at hi
    rw [tickEntry_active_of_not_live _ _ (by simp [InternalAutoCirculate.Live, hai])]
    exact h.fresh hai
  · rcases hstate with hs | ⟨-, hs⟩ | hs <;> rw [hs]
    · exact ht
    · simp
    · simp

end Kept

/-! ### Runs -/

/-- An Init request is for frames that exist, or is turned away by its arguments. -/
def Call.Fits : Call → Prop
  | .init args => InitParamsOk args → GangFits args
  | _ => True

/-- A transfer keeps `IndexOk`. -/
lemma transferKeeps_indexOk (gang : NTV2Crosspoint → Prop) (pTransfer : AutoCirculateTransfer)
    (env : TransferEnv) : TransferKeeps (fun _ => IndexOk) gang pTransfer env where
  find _ a f _ h := h.of_same_state (unmoved_setNextTransfer a f) rfl
  begins _ a f _ h := h.of_same_state (unmoved_begin f pTransfer env a) (state_begin f pTransfer env a)
  completes _ a f u p _ h := h.of_same_state (unmoved_completeAuto f u p a) (state_completeAuto f u p a)
  audio _ a _ h := h.of_same_state (unmoved_audioSetup env a) (state_audioSetup env a)
  flags _ a f _ h := h.of_same_state (unmoved_setFrameFlags f _ a) rfl

/-- Every call keeps `IndexOk`, as long as the requests fit. -/
lemma indexOk_call {s : NTV2AutoCirc} {c : Call} (hc : c.Fits) (hs : RecordsOk (fun _ => IndexOk) s) :
    RecordsOk (fun _ => IndexOk) (c.run s) := by
  cases c with
  | init args =>
      exact autoCircInit_records (fun k hk hp => indexOk_initAuto hp (hc hp) hk) hs
  | start spec t => exact autoCircStart_records (fun _ _ h => h.start t) hs
  | stop spec => exact autoCircStop_records (fun _ _ h => h.stop) hs
  | abort spec => exact autoCircAbort_records (fun _ _ h => h.abort) hs
  | pause spec bPlay bClearDF => exact autoCircPause_records (fun _ _ h => h.pause _ _) hs
  | flush spec bClearDF => exact autoCircFlush_records (fun _ reg _ h => h.flush _ reg) hs
  | preroll spec n =>
      show RecordsOk (fun _ => IndexOk) (autoCircPreroll s spec n).2
      rcases autoCircPreroll_cases s spec n with h | ⟨-, h⟩ <;> rw [h]
      · exact hs
      · exact gangLoop_invariant (fun _ _ _ _ ht =>
          prerollMember_records (fun f _ hf h => h.preroll hf n) ht) hs
  | setActiveFrame spec f =>
      refine autoCircSetActiveFrame_records (fun h₁ h₂ k hk _ a ha => ?_) hs
      obtain ⟨⟨h₀, h₃, h₄⟩, hgang, hcount, -, -, -⟩ := hs spec
      unfold maxFramebuffers at h₄ hgang
      have hrange := toUInt32_eq_self
        (x := (s.autoCirculate spec).endFrame - (s.autoCirculate spec).startFrame + 1)
        (by omega) (by omega)
      have hk' : (k : Int) ≤ (s.autoCirculate spec).channelCount - 1 := by
        unfold toUInt32 at hk
        omega
      have hmul := mul_le_mul_of_nonneg_right hk' (by omega :
        0 ≤ (s.autoCirculate spec).endFrame - (s.autoCirculate spec).startFrame + 1)
      have hmul₀ : 0 ≤ (k : Int) *
          ((s.autoCirculate spec).endFrame - (s.autoCirculate spec).startFrame + 1) := by
        exact mul_nonneg (by omega) (by omega)
      rw [hrange, toInt32_toUInt32]
      have hin : InBounds (f + k *
          ((s.autoCirculate spec).endFrame - (s.autoCirculate spec).startFrame + 1)) :=
        ⟨by omega, by unfold maxFramebuffers; omega⟩
      rw [toInt32_eq_self ⟨by have := hin.1; omega, by
        have := hin.2; unfold maxFramebuffers at this; omega⟩]
      exact ha.setActiveFrame hin
  | tick spec env => exact autoCirculate_records (fun partner reg h => h.tick env partner reg) hs
  | beginTransfer spec f p env =>
      exact hs.setAuto
        ((transferKeeps_indexOk (fun _ => True) p env).begins spec _ f trivial (hs spec))
  | completeTransfer spec f u p =>
      exact hs.setAuto ((hs spec).of_same_state (unmoved_completeAuto f u p _)
        (state_completeAuto f u p _))
  | transfer p env out => exact autoCircTransfer_records out (transferKeeps_indexOk _ p env) hs
  | writeRegister reg value => exact hs
  | syncChannels on sync1 sync2 => exact hs

/-- `IndexOk` holds in every state a run reaches, as long as the requests fit. -/
theorem indexOk_run {s t : NTV2AutoCirc} (hrun : RunsTo Call.run (fun _ c => c.Fits) s t)
    (hs : RecordsOk (fun _ => IndexOk) s) : RecordsOk (fun _ => IndexOk) t :=
  hrun.invariant hs fun _ _ hc h => indexOk_call hc h

/-! ### The indices are inside the array -/

section Indices

variable {a : InternalAutoCirculate}

lemma mem_findNextAvailFrames (h : a.RangeOk) {f : Int} (hf : f ∈ findNextAvailFrames a) :
    a.Mem f := by
  unfold findNextAvailFrames at hf
  rw [h.before_start] at hf
  split_ifs at hf <;> first
    | exact absurd hf (List.not_mem_nil)
    | exact inRing_of_mem_visited h.2.1 (by omega) hf

lemma mem_levelRecordFrames (h : a.RangeOk) {n : ℕ} {cur f : Int} (hcur : a.Mem cur)
    (hf : f ∈ levelRecordFrames a n cur) : a.Mem f := by
  induction n generalizing cur with
  | zero => simp [levelRecordFrames] at hf
  | succ n ih =>
      have hprev := h.mem_prev hcur
      rw [levelRecordFrames, List.mem_cons] at hf
      rcases hf with rfl | hf
      · exact hprev
      · split at hf
        · simp at hf
        · exact ih hprev hf

lemma mem_bufferLevelFrames (h : a.RangeOk) {f : Int} (hf : f ∈ bufferLevelFrames a) :
    a.Mem f := by
  have hcur : ¬ (a.state ≠ init ∧ (a.activeFrame < a.startFrame ∨ a.activeFrame > a.endFrame)) →
      a.Mem (if a.state = init then a.startFrame else a.activeFrame) := by
    intro hn
    split
    · exact h.mem_start
    · next hs =>
      have hin : ¬ (a.activeFrame < a.startFrame ∨ a.activeFrame > a.endFrame) :=
        fun hout => hn ⟨hs, hout⟩
      exact ⟨by omega, by omega⟩
  unfold bufferLevelFrames at hf
  dsimp only at hf
  split at hf
  · simp at hf
  · next hn =>
    split at hf
    · split at hf
      · simp at hf
      · rw [List.mem_cons] at hf
        rcases hf with rfl | hf
        · exact hcur hn
        · exact mem_levelRecordFrames h (hcur hn) hf
    · rw [List.mem_cons] at hf
      rcases hf with rfl | hf
      · exact hcur hn
      · exact inRing_of_mem_visited h.2.1 (by have := (hcur hn).1; omega) hf

/-- The step of a flush loop, over 32-bit numbers, stays on the ring. -/
lemma mem_flushStep (h : a.RangeOk) {cur : ℕ} (hcur : a.Mem cur) :
    a.Mem (toUInt32 (kautoPrevFrame (toInt32 cur) a)) ∧
      a.Mem (toUInt32 (kautoNextFrame (toInt32 cur) a)) := by
  rw [(h.inBounds hcur).toInt32]
  have hp := h.mem_prev hcur
  have hn := h.mem_next hcur
  rw [(h.inBounds hp).natCast_toUInt32, (h.inBounds hn).natCast_toUInt32]
  exact ⟨hp, hn⟩

/-- The frame a flush takes as the active one is on the ring. -/
lemma mem_flushStartFrame (h : a.RangeOk) (reg : ℕ) : a.Mem (flushStartFrame a reg) := by
  have hs := (h.inBounds h.mem_start).natCast_toUInt32
  have he := (h.inBounds ⟨h.2.1, le_rfl⟩).natCast_toUInt32
  unfold flushStartFrame
  split
  · rw [hs]
    exact h.mem_start
  · exact ⟨by omega, by omega⟩

end Indices

end LibAjaNtv2
