import LibAjaNtv2.AutoCirc.InitRange
import LibAjaNtv2.Lib.Walk

/-!
What a flush leaves (`AutoCircFlush`).

* `emptied`, `silenced`: what the flush does to one frame stamp;
* `flushRecord_eq`, `flushPlay_eq`: the two loops are walks around the ring;
* `flushedStamps`, `flushAuto_eq`: the stamps after a flush, and all it changes;
* `flushAuto_idem`, `autoCircFlush_member`: a second flush changes nothing, so every member of a
  gang is left as one flush leaves it;
* `FlushEmpties`: what a flush is for;
* `ReadyRun`: no ready frame lies behind a gap;
* `flush_empties_iff`: **a flush terminates, and empties the queue of a capture channel exactly
  where no ready frame lies behind a gap, and of a playout channel always**.
-/

namespace LibAjaNtv2

open NTV2AutoCirculateState

/-- The stamp of a frame with nothing in it. -/
def emptied (stamp : InternalFrameStamp) : InternalFrameStamp :=
  { stamp with
    validCount := 0
    videoTransferPending := false }

/-- The stamp of a frame whose audio starts over. -/
def silenced (stamp : InternalFrameStamp) : InternalFrameStamp :=
  { stamp with audioExpectedAddress := 1 }

/-- The frame is ready. -/
def isReady (stamp : InternalFrameStamp) : Bool := stamp.validCount ≠ 0

/-! ### The loops as walks -/

section Loops

variable {a : InternalAutoCirculate} {R cur fuel : ℕ}

/-- The frames backward from the active one, once around. -/
lemma walkPath_before (h : a.RangeOk) {f : Int} (hf : a.Mem f) :
    WalkPath (ringPrev a.startFrame a.endFrame) f
      (fun k : ℕ => ringBefore a.startFrame a.endFrame f k)
      (a.endFrame - a.startFrame + 1).toNat where
  next_eq k hk := by
    rw [ringPrev_before hf (by omega)]
    push_cast
    rfl
  stop_eq := by
    have hle := h.2.1
    rw [Int.toNat_of_nonneg (by omega), ringBefore_round hf]
  inj j k hj hjn hk hkn heq := by
    have := ringBefore_inj (by omega) (by omega) heq
    omega

/-- The frames forward from the active one, once around. -/
lemma walkPath_at (h : a.RangeOk) {f : Int} (hf : a.Mem f) :
    WalkPath (ringNext a.startFrame a.endFrame) f
      (fun k : ℕ => ringAt a.startFrame a.endFrame f k)
      (a.endFrame - a.startFrame + 1).toNat where
  next_eq k hk := by
    rw [ringNext_at hf (by omega)]
    push_cast
    rfl
  stop_eq := by
    have hle := h.2.1
    rw [Int.toNat_of_nonneg (by omega), ringAt_round hf]
  inj j k hj hjn hk hkn heq := by
    have := ringAt_inj (by omega) (by omega) heq
    omega

/-- The loop of a capture channel walks backward over the ready frames. -/
lemma flushRecord_eq (h : a.RangeOk) (hcur : a.Mem cur) :
    flushRecord R fuel cur a =
      { a with
        frameStamp := walk (ringPrev a.startFrame a.endFrame) isReady emptied R fuel cur
          a.frameStamp } := by
  induction fuel generalizing cur a with
  | zero => rfl
  | succ fuel ih =>
      have hprev : ((toUInt32 (kautoPrevFrame (toInt32 cur) a) : ℕ) : Int) =
          ringPrev a.startFrame a.endFrame cur := by
        rw [(h.inBounds hcur).toInt32, (h.inBounds (h.mem_prev hcur)).natCast_toUInt32]
        rfl
      have hiff : cur ≠ R ∧ (a.frameStamp cur).validCount ≠ 0 ↔
          (cur : Int) ≠ R ∧ isReady (a.frameStamp cur) = true := by
        simp [isReady]
      rw [flushRecord, walk]
      by_cases hgo : cur ≠ R ∧ (a.frameStamp cur).validCount ≠ 0
      · rw [if_pos hgo, if_pos (hiff.mp hgo),
          ih (a := a.setStamp cur _) h (mem_flushStep h hcur).1, hprev]
        rfl
      · rw [if_neg hgo, if_neg fun hw => hgo (hiff.mpr hw)]

/-- The loop of a playout channel walks forward over all frames but one. -/
lemma flushPlay_eq (h : a.RangeOk) (hcur : a.Mem cur) :
    flushPlay R fuel cur a =
      { a with
        frameStamp := walk (ringNext a.startFrame a.endFrame) (fun _ => true)
          (fun stamp => silenced (emptied stamp)) R fuel cur a.frameStamp } := by
  induction fuel generalizing cur a with
  | zero => rfl
  | succ fuel ih =>
      have hnext : ((toUInt32 (kautoNextFrame (toInt32 cur) a) : ℕ) : Int) =
          ringNext a.startFrame a.endFrame cur := by
        rw [(h.inBounds hcur).toInt32, (h.inBounds (h.mem_next hcur)).natCast_toUInt32]
        rfl
      rw [flushPlay, walk]
      by_cases hgo : cur ≠ R
      · rw [if_pos hgo, if_pos ⟨by exact_mod_cast hgo, rfl⟩,
          ih (a := a.setStamp cur _) h (mem_flushStep h hcur).2, hnext]
        rfl
      · rw [if_neg hgo, if_neg fun hw => hgo (by exact_mod_cast hw.1)]

end Loops

/-! ### All a flush changes -/

/-- The stamps of a capture channel after a flush. -/
def recordFlushed (a : InternalAutoCirculate) (R : Int) : Int → InternalFrameStamp :=
  walk (ringPrev a.startFrame a.endFrame) isReady emptied R maxFramebuffers
    (ringPrev a.startFrame a.endFrame R) a.frameStamp

/-- The stamps of a playout channel after a flush: the active frame keeps its data, unless the
channel has not been started. -/
def playFlushed (autoState : NTV2AutoCirculateState) (a : InternalAutoCirculate) (R f : Int) :
    InternalFrameStamp :=
  if f = R then
    if autoState = init then emptied (silenced (a.frameStamp f)) else silenced (a.frameStamp f)
  else if a.Mem f then silenced (emptied (a.frameStamp f))
  else a.frameStamp f

/-- The stamps of a channel after a flush. -/
def flushedStamps (a : InternalAutoCirculate) (R : Int) : Int → InternalFrameStamp :=
  if a.recording then recordFlushed a R else playFlushed a.state a R

section Changes

variable {a : InternalAutoCirculate} {R : ℕ} {f : Int}

/-- A frame of the ring other than the active one is met on the way backward. -/
lemma exists_before {r : Int} (hr : a.Mem r) (hf : a.Mem f) (hne : f ≠ r) :
    ∃ j : ℕ, 0 < j ∧ j < (a.endFrame - a.startFrame + 1).toNat ∧
      ringBefore a.startFrame a.endFrame r j = f := by
  have hmem := ringOff_mem hf hr
  have hzero := ringOff_eq_zero hf hr
  refine ⟨(ringOff a.startFrame a.endFrame f r).toNat, ?_, by omega, ?_⟩
  · have : ringOff a.startFrame a.endFrame f r ≠ 0 := fun h => hne (hzero.mp h).symm
    omega
  · rw [Int.toNat_of_nonneg hmem.1, ringBefore_off hf]

/-- A frame of the ring other than the active one is met on the way forward. -/
lemma exists_at {r : Int} (hr : a.Mem r) (hf : a.Mem f) (hne : f ≠ r) :
    ∃ j : ℕ, 0 < j ∧ j < (a.endFrame - a.startFrame + 1).toNat ∧
      ringAt a.startFrame a.endFrame r j = f := by
  have hmem := ringOff_mem hr hf
  have hzero := ringOff_eq_zero hr hf
  refine ⟨(ringOff a.startFrame a.endFrame r f).toNat, ?_, by omega, ?_⟩
  · have : ringOff a.startFrame a.endFrame r f ≠ 0 := fun h => hne (hzero.mp h)
    omega
  · rw [Int.toNat_of_nonneg hmem.1, ringAt_off hf]

lemma InternalAutoCirculate.RangeOk.length_le (h : a.RangeOk) :
    (a.endFrame - a.startFrame + 1).toNat ≤ maxFramebuffers := by
  obtain ⟨h₀, h₁, h₂⟩ := h
  omega

lemma InternalAutoCirculate.RangeOk.length_pos (h : a.RangeOk) :
    0 < (a.endFrame - a.startFrame + 1).toNat := by
  have := h.2.1
  omega

/-- Frame number one of the walk backward. -/
lemma before_one {r : Int} (hr : a.Mem r) :
    ringPrev a.startFrame a.endFrame r = ringBefore a.startFrame a.endFrame r (1 : ℕ) := by
  have hle : a.startFrame ≤ a.endFrame := hr.1.trans hr.2
  have hzero : ringBefore a.startFrame a.endFrame r 0 = r := by
    unfold ringBefore
    rw [if_pos (by have := hr.1; omega), sub_zero]
  have hstep := ringPrev_before hr (k := 0) (by omega)
  rw [hzero] at hstep
  exact hstep

/-- Frame number one of the walk forward. -/
lemma at_one {r : Int} (hr : a.Mem r) :
    ringNext a.startFrame a.endFrame r = ringAt a.startFrame a.endFrame r (1 : ℕ) := by
  have hle : a.startFrame ≤ a.endFrame := hr.1.trans hr.2
  have hzero : ringAt a.startFrame a.endFrame r 0 = r := by
    unfold ringAt
    rw [if_pos (by have := hr.2; omega), add_zero]
  have hstep := ringNext_at hr (k := 0) (by omega)
  rw [hzero] at hstep
  exact hstep

/-- The walk of a capture channel: up to frame number `m` the frames are ready and get emptied. -/
lemma recordFlushed_walk (h : a.RangeOk) {r : Int} (hr : a.Mem r) :
    ∃ m, WalkEnd isReady emptied (fun k : ℕ => ringBefore a.startFrame a.endFrame r k)
      (a.endFrame - a.startFrame + 1).toNat a.frameStamp (recordFlushed a r) 1 m := by
  have hlen := h.length_le
  unfold recordFlushed
  rw [before_one hr]
  exact (walkPath_before h hr).walk_end isReady emptied a.frameStamp one_pos h.length_pos (by omega)

/-- The walk of a playout channel empties all frames but the active one. -/
lemma playWalk_apply (h : a.RangeOk) {r : Int} (hr : a.Mem r) (f : Int) :
    walk (ringNext a.startFrame a.endFrame) (fun _ => true)
        (fun stamp => silenced (emptied stamp)) r maxFramebuffers
        (ringNext a.startFrame a.endFrame r) a.frameStamp f =
      if f ≠ r ∧ a.Mem f then silenced (emptied (a.frameStamp f)) else a.frameStamp f := by
  have hlen := h.length_le
  rw [at_one hr]
  have hfuel : (a.endFrame - a.startFrame + 1).toNat - 1 ≤ maxFramebuffers := by omega
  obtain ⟨m, hm⟩ := (walkPath_at h hr).walk_end (fun _ => true)
    (fun stamp => silenced (emptied stamp)) a.frameStamp one_pos h.length_pos hfuel
  have hend : m = (a.endFrame - a.startFrame + 1).toNat := by
    rcases hm.stops with hend | hend
    · exact hend
    · cases hend
  by_cases hf : f ≠ r ∧ a.Mem f
  · obtain ⟨j, hj, hjn, rfl⟩ := exists_at hr hf.2 hf.1
    rw [if_pos hf]
    exact hm.changed j hj (by omega)
  · rw [if_neg hf]
    refine hm.same f ?_
    rintro j hj hjm rfl
    refine hf ⟨(walkPath_at h hr).ne_stop hj (by omega), inRing_at hr (by omega) (by omega)⟩

/-- The stamps of a capture channel after a flush, and all else it has. -/
lemma flushRecordFrom_eq (h : a.RangeOk) (hR : a.Mem R) :
    flushRecordFrom R a = { a with frameStamp := recordFlushed a R } := by
  unfold flushRecordFrom recordFlushed
  rw [flushRecord_eq h (mem_flushStep h hR).1, (h.inBounds hR).toInt32,
    (h.inBounds (h.mem_prev hR)).natCast_toUInt32]
  rfl

/-- The stamps of a playout channel after a flush, and all else it has. -/
lemma flushPlayFrom_eq (h : a.RangeOk) (hR : a.Mem R) (autoState : NTV2AutoCirculateState) :
    flushPlayFrom autoState R a =
      { a with frameStamp := playFlushed autoState a R } := by
  have hwalk : flushPlay R maxFramebuffers (toUInt32 (kautoNextFrame (toInt32 R) a)) a =
      { a with
        frameStamp := fun f =>
          if f ≠ R ∧ a.Mem f then silenced (emptied (a.frameStamp f)) else a.frameStamp f } := by
    rw [flushPlay_eq h (mem_flushStep h hR).2, (h.inBounds hR).toInt32,
      (h.inBounds (h.mem_next hR)).natCast_toUInt32]
    congr 1
    funext f
    exact playWalk_apply h hR f
  unfold flushPlayFrom
  dsimp only
  rw [hwalk]
  split
  · next hinit =>
    unfold InternalAutoCirculate.setStamp
    congr 1
    funext f
    by_cases hf : f = R
    · subst hf
      simp [playFlushed, hinit, emptied, silenced]
    · simp [playFlushed, hf]
  · next hinit =>
    unfold InternalAutoCirculate.setStamp
    congr 1
    funext f
    by_cases hf : f = R
    · subst hf
      simp [playFlushed, hinit, silenced]
    · simp [playFlushed, hf]

/-- **All a flush changes**: stamps, the count of dropped frames, and the audio of a playout
channel. -/
lemma flushAuto_eq (h : a.RangeOk) (bClearDF : Bool) (reg : ℕ) :
    flushAuto bClearDF reg a =
      { a with
        droppedFrames := if bClearDF then 0 else a.droppedFrames
        nextAudioOutputAddress :=
          if a.recording = false ∧ a.circulateWithAudio = true then 0
          else a.nextAudioOutputAddress
        frameStamp := flushedStamps a (flushStartFrame a reg) } := by
  have hR := mem_flushStartFrame h reg
  have hp : (flushPaused bClearDF a).RangeOk := h
  have hRp : (flushPaused bClearDF a).Mem (flushStartFrame a reg) := hR
  unfold flushAuto flushFrom flushedStamps
  cases hrec : a.recording with
  | true =>
      rw [if_pos (by exact hrec), flushRecordFrom_eq hp hRp]
      simp [flushPaused, InternalAutoCirculate.setState, recordFlushed, hrec]
  | false =>
      rw [if_neg (by simp [flushPaused, hrec]), flushPlayFrom_eq hp hRp]
      simp only [flushPaused, InternalAutoCirculate.setState, flushAudio, hrec, true_and,
        Bool.false_eq_true, if_false]
      rfl

/-- A second flush of the stamps changes nothing. -/
lemma flushedStamps_idem (h : a.RangeOk) (hR : a.Mem R) :
    flushedStamps { a with frameStamp := flushedStamps a R } R = flushedStamps a R := by
  unfold flushedStamps
  cases hrec : a.recording with
  | true =>
      have hlen := h.length_le
      have hfuel : (a.endFrame - a.startFrame + 1).toNat - 1 ≤ maxFramebuffers := by omega
      have hidem := (walkPath_before h hR).walk_idem isReady emptied a.frameStamp h.length_pos
        hfuel (fun _ => by simp [isReady, emptied])
      rw [← before_one hR] at hidem
      exact hidem
  | false =>
      funext f
      simp only [Bool.false_eq_true, if_false, playFlushed]
      split_ifs <;> first | rfl | contradiction

/-- A second flush changes nothing. -/
lemma flushAuto_idem (h : a.RangeOk) (bClearDF : Bool) (reg : ℕ) :
    flushAuto bClearDF reg (flushAuto bClearDF reg a) = flushAuto bClearDF reg a := by
  have hidem := flushedStamps_idem h (mem_flushStartFrame h reg)
  have hb : (flushAuto bClearDF reg a).RangeOk :=
    (unmoved_flushAuto bClearDF reg a).toSameRing.rangeOk h
  rw [flushAuto_eq hb, flushAuto_eq h]
  congr 1
  · cases bClearDF <;> rfl
  · dsimp only
    split_ifs <;> rfl

end Changes

/-! ### The members of a gang -/

section Gang

variable {s : NTV2AutoCirc} {csIndex k n : ℕ} {spec : NTV2Crosspoint} {bClearDF : Bool}

/-- The loop over a gang flushes every channel it comes to, however often it comes to it. -/
lemma gangLoop_flush (h : ∀ spec, (s.autoCirculate spec).RangeOk) (bClearDF : Bool) :
    ((∃ j, k ≤ j ∧ j < k + n ∧ getNTV2CrosspointForIndex (csIndex + j) = spec) →
      (gangLoop (flushMember bClearDF) csIndex k n s).2.autoCirculate spec =
        flushAuto bClearDF (s.register (s.autoCirculate spec).activeFrameRegister)
          (s.autoCirculate spec)) ∧
    ((¬ ∃ j, k ≤ j ∧ j < k + n ∧ getNTV2CrosspointForIndex (csIndex + j) = spec) →
      (gangLoop (flushMember bClearDF) csIndex k n s).2.autoCirculate spec =
        s.autoCirculate spec) := by
  induction n generalizing k s with
  | zero =>
      refine ⟨?_, fun _ => rfl⟩
      rintro ⟨j, hj, hjk, -⟩
      omega
  | succ n ih =>
      have hloop : (gangLoop (flushMember bClearDF) csIndex k (n + 1) s).2 =
          (gangLoop (flushMember bClearDF) csIndex (k + 1) n
            (flushMember bClearDF k (getNTV2CrosspointForIndex (csIndex + k)) s).2).2 := rfl
      have hranges : ∀ spec', ((flushMember bClearDF k
          (getNTV2CrosspointForIndex (csIndex + k)) s).2.autoCirculate spec').RangeOk := by
        intro spec'
        by_cases hs : spec' = getNTV2CrosspointForIndex (csIndex + k)
        · rw [hs, flushMember, setAuto_same]
          exact (unmoved_flushAuto _ _ _).toSameRing.rangeOk (h _)
        · rw [flushMember, setAuto_of_ne _ _ _ hs]
          exact h spec'
      obtain ⟨hin, hout⟩ := ih (k := k + 1) hranges
      rw [hloop]
      by_cases hs : spec = getNTV2CrosspointForIndex (csIndex + k)
      · -- this is the channel: once more on the way makes no difference
        have hone : (flushMember bClearDF k
            (getNTV2CrosspointForIndex (csIndex + k)) s).2.autoCirculate spec =
              flushAuto bClearDF (s.register (s.autoCirculate spec).activeFrameRegister)
                (s.autoCirculate spec) := by
          rw [hs, flushMember, setAuto_same]
        have hreg : (flushAuto bClearDF (s.register (s.autoCirculate spec).activeFrameRegister)
            (s.autoCirculate spec)).activeFrameRegister =
              (s.autoCirculate spec).activeFrameRegister :=
          (unmoved_flushAuto _ _ _).register
        refine ⟨fun _ => ?_, fun hno => absurd ⟨k, le_rfl, by omega, hs.symm⟩ hno⟩
        by_cases hmore : ∃ j, k + 1 ≤ j ∧ j < k + 1 + n ∧
            getNTV2CrosspointForIndex (csIndex + j) = spec
        · rw [hin hmore, hone, hreg]
          exact flushAuto_idem (h spec) _ _
        · rw [hout hmore, hone]
      · have hone : (flushMember bClearDF k
            (getNTV2CrosspointForIndex (csIndex + k)) s).2.autoCirculate spec =
              s.autoCirculate spec := by
          rw [flushMember, setAuto_of_ne _ _ _ hs]
        rw [hone] at hin hout
        refine ⟨?_, fun hno => hout ?_⟩
        · rintro ⟨j, hj, hjn, hspec⟩
          refine hin ⟨j, ?_, by omega, hspec⟩
          rcases eq_or_lt_of_le hj with rfl | hlt
          · exact absurd hspec.symm hs
          · exact hlt
        · rintro ⟨j, hj, hjn, hspec⟩
          exact hno ⟨j, by omega, by omega, hspec⟩

/-- **A flush of a channel flushes every member of its gang.** -/
lemma autoCircFlush_member (h : ∀ spec, (s.autoCirculate spec).RangeOk)
    (hspec : illegalChannelSpec spec = false)
    (hstate : (s.autoCirculate spec).state = init ∨ (s.autoCirculate spec).state = running ∨
      (s.autoCirculate spec).state = paused)
    (hk : k < (s.autoCirculate spec).channelCount.toNat) :
    (autoCircFlush s spec bClearDF).2.autoCirculate (gangSpec spec k) =
      flushAuto bClearDF (s.register (s.autoCirculate (gangSpec spec k)).activeFrameRegister)
        (s.autoCirculate (gangSpec spec k)) := by
  have hgang : autoCircFlush s spec bClearDF = forGang s spec (flushMember bClearDF) := by
    unfold autoCircFlush
    rw [hspec]
    rcases hstate with hstate | hstate | hstate <;> rw [hstate] <;> rfl
  rw [hgang]
  exact (gangLoop_flush h bClearDF).1 ⟨k, Nat.zero_le k, by omega, rfl⟩

end Gang

/-! ### What a flush leaves -/

/-- What `AutoCircGetBufferLevel` counts for one frame. -/
def ownCount (pAuto : InternalAutoCirculate) (f : Int) : ℕ :=
  if pAuto.recording then if (pAuto.frameStamp f).validCount ≠ 0 then 1 else 0
  else toUInt32 (pAuto.frameStamp f).validCount

/-- What a flush is for: it empties the queue of a channel but for the active frame, and changes
nothing else. -/
structure FlushEmpties (a b : InternalAutoCirculate) (active : Int) : Prop where
  outside : ∀ f, ¬ a.Mem f → b.frameStamp f = a.frameStamp f
  state : b.state = a.state
  ready : a.recording = true → ∀ f, a.Mem f → f ≠ active → (b.frameStamp f).validCount = 0
  queued : a.recording = false → ∀ f, a.Mem f → f ≠ active ∨ a.state = init →
    (b.frameStamp f).validCount = 0 ∧ (b.frameStamp f).videoTransferPending = false
  level : autoCircGetBufferLevel b ≤ ownCount b active

/-- No ready frame lies behind a gap: each is followed by the active frame, or by a ready one. -/
def ReadyRun (pAuto : InternalAutoCirculate) (active : Int) : Prop :=
  ∀ f, pAuto.Mem f → f ≠ active → (pAuto.frameStamp f).validCount ≠ 0 →
    kautoNextFrame f pAuto = active ∨ (pAuto.frameStamp (kautoNextFrame f pAuto)).validCount ≠ 0

/-- The loops of a flush come to their end: as many rounds as there are frames in the array leave
what any greater number of rounds leaves. -/
def FlushTerminates (pAuto : InternalAutoCirculate) (lStartFrame : ℕ) : Prop :=
  ∀ fuel, maxFramebuffers ≤ fuel →
    flushRecord lStartFrame fuel (toUInt32 (kautoPrevFrame (toInt32 lStartFrame) pAuto)) pAuto =
      flushRecord lStartFrame maxFramebuffers
        (toUInt32 (kautoPrevFrame (toInt32 lStartFrame) pAuto)) pAuto ∧
    flushPlay lStartFrame fuel (toUInt32 (kautoNextFrame (toInt32 lStartFrame) pAuto)) pAuto =
      flushPlay lStartFrame maxFramebuffers
        (toUInt32 (kautoNextFrame (toInt32 lStartFrame) pAuto)) pAuto

section Leaves

variable {a b : InternalAutoCirculate} {active cur : Int} {R n level : ℕ}

/-- As many rounds as there are frames are enough. -/
lemma flush_terminates (h : a.RangeOk) (hR : a.Mem R) : FlushTerminates a R := by
  intro fuel hfuel
  have hlen := h.length_le
  have hprev : ((toUInt32 (kautoPrevFrame (toInt32 R) a) : ℕ) : Int) =
      ringBefore a.startFrame a.endFrame R (1 : ℕ) := by
    rw [(h.inBounds hR).toInt32, (h.inBounds (h.mem_prev hR)).natCast_toUInt32]
    exact before_one hR
  have hnext : ((toUInt32 (kautoNextFrame (toInt32 R) a) : ℕ) : Int) =
      ringAt a.startFrame a.endFrame R (1 : ℕ) := by
    rw [(h.inBounds hR).toInt32, (h.inBounds (h.mem_next hR)).natCast_toUInt32]
    exact at_one hR
  have hrounds : (a.endFrame - a.startFrame + 1).toNat - 1 ≤ maxFramebuffers := by omega
  obtain ⟨hmemPrev, hmemNext⟩ := mem_flushStep h hR
  constructor
  · rw [flushRecord_eq h hmemPrev, flushRecord_eq h hmemPrev, hprev,
      (walkPath_before h hR).walk_fuel one_pos h.length_pos (by omega) hrounds]
  · rw [flushPlay_eq h hmemNext, flushPlay_eq h hmemNext, hnext,
      (walkPath_at h hR).walk_fuel one_pos h.length_pos (by omega) hrounds]

/-- The walk backward empties all ready frames exactly where none lies behind a gap. -/
lemma recordFlushed_iff (h : a.RangeOk) (hact : a.Mem active) :
    (∀ f, a.Mem f → f ≠ active → (recordFlushed a active f).validCount = 0) ↔
      ReadyRun a active := by
  obtain ⟨m, hm⟩ := recordFlushed_walk h hact
  have hpath := walkPath_before h hact
  have hmem : ∀ j : ℕ, j < (a.endFrame - a.startFrame + 1).toNat →
      a.Mem (ringBefore a.startFrame a.endFrame active j) :=
    fun j hj => inRing_before hact (by omega) (by omega)
  have hstep : ∀ j : ℕ, kautoNextFrame (ringBefore a.startFrame a.endFrame active (j + 1 : ℕ)) a =
      ringBefore a.startFrame a.endFrame active j := by
    intro j
    have hnext := ringNext_before hact (k := (j : Int)) (by omega)
    exact hnext
  constructor
  · intro hall f hf hne hready
    obtain ⟨j, hj, hjn, rfl⟩ := exists_before hact hf hne
    obtain ⟨i, rfl⟩ : ∃ i, j = i + 1 := ⟨j - 1, by omega⟩
    rw [hstep i]
    have hlt : i + 1 < m := by
      by_contra hge
      refine hready ?_
      rw [← hm.same _ fun k hk hkm heq => ?_]
      · exact hall _ hf hne
      · have := hpath.inj (i + 1) k hj hjn.le hk (by have := hm.le_last; omega) heq
        omega
    rcases Nat.eq_zero_or_pos i with rfl | hi
    · have hzero := ringBefore_off hact (a := active)
      rw [ringOff_self] at hzero
      exact .inl hzero
    · have hpass := hm.passes i hi (by omega)
      exact .inr (by simpa [isReady] using hpass)
  · intro hrun f hf hne
    -- from the end of the walk on, no frame is ready, since the one before it is not
    have hrest : ∀ i, m ≤ i → i < (a.endFrame - a.startFrame + 1).toNat →
        (a.frameStamp (ringBefore a.startFrame a.endFrame active i)).validCount = 0 := by
      intro i hmi
      induction i, hmi using Nat.le_induction with
      | base =>
          intro hlt
          rcases hm.stops with hend | hend
          · omega
          · simpa [isReady] using hend
      | succ i hmi ih =>
          intro hlt
          have hpos : 0 < i := lt_of_lt_of_le one_pos (hm.le.trans hmi)
          by_contra hready
          rcases hrun _ (hmem _ hlt) (hpath.ne_stop (by omega) hlt) hready with hnext | hnext
          · rw [hstep i] at hnext
            exact hpath.ne_stop hpos (by omega) hnext
          · rw [hstep i] at hnext
            exact hnext (ih (by omega))
    obtain ⟨j, hj, hjn, rfl⟩ := exists_before hact hf hne
    by_cases hjm : j < m
    · rw [hm.changed j hj hjm]
      rfl
    · rw [hm.same _ fun k hk hkm heq => ?_]
      · exact hrest j (by omega) hjn
      · have := hpath.inj j k hj hjn.le hk (by have := hm.le_last; omega) heq
        omega

/-- The level of a capture channel as a count on the way backward. -/
lemma bufferLevelRecord_eq :
    bufferLevelRecord a n cur level =
      walkCount (kautoPrevFrame · a) (fun f => (a.frameStamp f).validCount ≠ 0)
        (fun level _ => level + 1) n cur level := by
  induction n generalizing cur level with
  | zero => rfl
  | succ n ih =>
      rw [bufferLevelRecord, walkCount]
      by_cases hzero : (a.frameStamp (kautoPrevFrame cur a)).validCount = 0
      · rw [if_pos hzero, if_neg (by simpa using hzero)]
      · rw [if_neg hzero, if_pos (by simpa using hzero), ih]

/-- The level of a playout channel as a count on the way forward. -/
lemma bufferLevelPlay_eq :
    bufferLevelPlay a n cur level =
      walkCount (kautoNextFrame · a) (fun f => (a.frameStamp f).validCount ≠ 0)
        (fun level f => toUInt32 (level + (a.frameStamp f).validCount)) n cur level := by
  induction n generalizing cur level with
  | zero => rfl
  | succ n ih =>
      rw [bufferLevelPlay, walkCount]
      by_cases hzero : (a.frameStamp (kautoNextFrame cur a)).validCount = 0
      · rw [if_pos hzero, if_neg (by simpa using hzero)]
      · rw [if_neg hzero, if_pos (by simpa using hzero), ih]

/-- A count from the count of one frame on, where only the active frame has any: it is at most the
count of the active frame. -/
lemma walkCount_le {next : Int → Int} (add : ℕ → Int → ℕ) (own : Int → ℕ)
    (hmem : ∀ f, a.Mem f → a.Mem (next f)) (hcur : a.Mem cur)
    (hzero : ∀ f, a.Mem f → f ≠ active → (a.frameStamp f).validCount = 0)
    (hne : 0 < n → next active ≠ active) (hown : cur ≠ active → own cur = 0)
    (hadd : add 0 active = own active ∨ (a.frameStamp active).validCount = 0) :
    walkCount next (fun f => (a.frameStamp f).validCount ≠ 0) add n cur (own cur) ≤ own active := by
  have hiter : ∀ k, a.Mem (next^[k] cur) := by
    intro k
    induction k with
    | zero => exact hcur
    | succ k ih =>
        rw [Function.iterate_succ_apply']
        exact hmem _ ih
  rw [walkCount_single (y := active) (fun k _ _ hk => by simpa using hzero _ (hiter k) hk) hne]
  by_cases hact : cur = active
  · rw [hact, if_neg fun h => hne h.1 h.2.1]
  · rw [hown hact]
    split_ifs with hgo
    · rcases hadd with hadd | hadd
      · exact hadd.le
      · exact absurd hadd (by simpa using hgo.2.2)
    · exact Nat.zero_le _

/-- On a ring where only the active frame has a count, `AutoCircGetBufferLevel` reports that count
at most. -/
lemma bufferLevel_le (h : a.RangeOk)
    (hzero : ∀ f, a.Mem f → f ≠ active → (a.frameStamp f).validCount = 0) :
    autoCircGetBufferLevel a ≤ ownCount a active := by
  have hrange := h.lRange_eq
  have hle := h.2.1
  have hnext : 0 < (a.lRange - 1).toNat → kautoNextFrame active a ≠ active := by
    intro hn
    unfold kautoNextFrame
    split <;> omega
  have hprev : 0 < (a.lRange - 1).toNat → kautoPrevFrame active a ≠ active := by
    intro hn
    unfold kautoPrevFrame
    split <;> omega
  unfold autoCircGetBufferLevel
  dsimp only
  split
  · exact Nat.zero_le _
  · next hin =>
    have hcur : a.Mem (if a.state = init then a.startFrame else a.activeFrame) := by
      split
      · exact h.mem_start
      · next hs =>
        have hbounds := not_and.mp hin hs
        exact ⟨by omega, by omega⟩
    generalize (if a.state = init then a.startFrame else a.activeFrame) = cur at hcur ⊢
    cases hrec : a.recording with
    | true =>
        rw [if_pos rfl]
        split
        · exact Nat.zero_le _
        · have hle := walkCount_le (fun level _ => level + 1) (ownCount a)
            (fun f hf => h.mem_prev hf) hcur hzero hprev
            (fun hne => by simp [ownCount, hrec, hzero cur hcur hne])
            (by by_cases hv : (a.frameStamp active).validCount = 0 <;> simp [ownCount, hrec, hv])
          rw [bufferLevelRecord_eq]
          simpa only [ownCount, hrec, if_true] using hle
    | false =>
        rw [if_neg (by simp)]
        have hle := walkCount_le (fun level f => toUInt32 (level + (a.frameStamp f).validCount))
            (ownCount a)
            (fun f hf => h.mem_next hf) hcur hzero hnext
            (fun hne => by simp [ownCount, hrec, hzero cur hcur hne, toUInt32])
            (.inl (by simp [ownCount, hrec]))
        rw [bufferLevelPlay_eq]
        simpa only [ownCount, hrec, Bool.false_eq_true, if_false] using hle

/-- A flush changes no frame outside the ring. -/
lemma flushedStamps_outside (h : a.RangeOk) (hact : a.Mem active) {f : Int} (hf : ¬ a.Mem f) :
    flushedStamps a active f = a.frameStamp f := by
  unfold flushedStamps
  split
  · obtain ⟨m, hm⟩ := recordFlushed_walk h hact
    refine hm.same f ?_
    rintro j hj hjm rfl
    have hlast := hm.le_last
    exact hf (inRing_before hact (by omega) (by omega))
  · have hne : f ≠ active := by
      rintro rfl
      exact hf hact
    rw [playFlushed, if_neg hne, if_neg hf]

/-- The frames of a playout channel that a flush empties. -/
lemma playFlushed_empty {f : Int} (hf : a.Mem f) (hne : f ≠ active ∨ a.state = init) :
    (playFlushed a.state a active f).validCount = 0 ∧
      (playFlushed a.state a active f).videoTransferPending = false := by
  unfold playFlushed
  split
  · next heq =>
    rw [if_pos (hne.resolve_left fun h => h heq)]
    exact ⟨rfl, rfl⟩
  · exact ⟨rfl, rfl⟩

/-- **What a flush of one channel leaves**: the queue is empty exactly where it plays out, or no
ready frame lies behind a gap. -/
lemma flushAuto_empties_iff (h : a.RangeOk) (bClearDF : Bool) (reg : ℕ) :
    FlushEmpties a (flushAuto bClearDF reg a) (flushStartFrame a reg) ↔
      (a.recording = true → ReadyRun a (flushStartFrame a reg)) := by
  have hR := mem_flushStartFrame h reg
  have hsame := (unmoved_flushAuto bClearDF reg a).toSameRing
  have hstate : (flushAuto bClearDF reg a).state = a.state := rfl
  have hstamp : (flushAuto bClearDF reg a).frameStamp =
      flushedStamps a (flushStartFrame a reg) := by
    rw [flushAuto_eq h]
  constructor
  · intro hempty hrec
    refine (recordFlushed_iff h hR).mp fun f hf hne => ?_
    have hready := hempty.ready hrec f hf hne
    rwa [hstamp, flushedStamps, if_pos hrec] at hready
  · intro hrun
    have hzero : ∀ f, a.Mem f → f ≠ flushStartFrame a reg →
        ((flushAuto bClearDF reg a).frameStamp f).validCount = 0 := by
      intro f hf hne
      rw [hstamp, flushedStamps]
      split
      · next hrec => exact (recordFlushed_iff h hR).mpr (hrun hrec) f hf hne
      · exact (playFlushed_empty hf (.inl hne)).1
    refine ⟨fun f hf => ?_, hstate, fun _ => hzero, fun hrec f hf hne => ?_, ?_⟩
    · rw [hstamp]
      exact flushedStamps_outside h hR hf
    · rw [hstamp, flushedStamps, if_neg (by simp [hrec])]
      exact playFlushed_empty hf hne
    · exact bufferLevel_le (hsame.rangeOk h) fun f hf hne => hzero f ((hsame.mem f).mp hf) hne

end Leaves

/-! ### Runs -/

section Runs

variable {s₀ t : NTV2AutoCirc}

/-- **A flush empties the queue**: in every state a run reaches it terminates for every member of
the gang, leaves no ready frame but the active one on a capture channel exactly where no ready
frame lies behind a gap, and leaves nothing queued but the active frame on a playout channel. -/
theorem flush_empties_iff (hrest : AtRest s₀)
    (hrun : RunsTo Call.run (fun _ c => c.Fits) s₀ t) (channelSpec : NTV2Crosspoint)
    (hspec : illegalChannelSpec channelSpec = false)
    (hstate : (t.autoCirculate channelSpec).state = init ∨
      (t.autoCirculate channelSpec).state = running ∨
      (t.autoCirculate channelSpec).state = paused)
    {k : ℕ} (hk : k < (t.autoCirculate channelSpec).channelCount.toNat) (bClearDF : Bool) :
    let pAuto := t.autoCirculate (gangSpec channelSpec k)
    let active := flushStartFrame pAuto (t.register pAuto.activeFrameRegister)
    FlushTerminates (flushPaused bClearDF pAuto) active ∧
      (FlushEmpties pAuto
          ((autoCircFlush t channelSpec bClearDF).2.autoCirculate (gangSpec channelSpec k))
          active ↔
        (pAuto.recording = true → ReadyRun pAuto active)) := by
  have hindex := indexOk_run hrun fun spec => by rw [hrest spec]; exact indexOk_zero
  have hrange := (hindex (gangSpec channelSpec k)).range
  dsimp only
  refine ⟨flush_terminates hrange (mem_flushStartFrame hrange _), ?_⟩
  rw [autoCircFlush_member (fun spec => (hindex spec).range) hspec hstate hk]
  exact flushAuto_empties_iff hrange _ _

end Runs

/-! ### Two flushes -/

/-- A playout channel of seven frames, started with two of them queued; two more are queued after
the first interrupt. -/
def playoutSeven : NTV2AutoCirc :=
  [Call.init (.plain .channel1 0 6 1),
    .transfer (.plain .channel1 (-1) 1) .plain .zero,
    .transfer (.plain .channel1 (-1) 2) .plain .zero,
    .start .channel1 0,
    .tick .channel1 (.plain 1),
    .transfer (.plain .channel1 (-1) 3) .plain .zero,
    .transfer (.plain .channel1 (-1) 1) .plain .zero].foldl Call.run .idle

lemma playoutSeven_run : RunsTo Call.run (fun _ c => c.Fits) .idle playoutSeven :=
  .foldl ⟨fun _ => by decide, trivial, trivial, trivial, trivial, trivial, trivial, trivial⟩

/-- The flush of the playout channel empties its queue: of the three frames that wait to be shown
the one the frame register names is left. -/
theorem flush_empties_iff_playoutSeven :
    let pAuto := playoutSeven.autoCirculate .channel1
    let flushed := (autoCircFlush playoutSeven .channel1 true).2.autoCirculate .channel1
    let active := flushStartFrame pAuto (playoutSeven.register pAuto.activeFrameRegister)
    FlushEmpties pAuto flushed active ∧ active = 1 ∧ pAuto.state = running ∧
      ((List.range 7).map fun f => (pAuto.frameStamp f).validCount) = [0, 2, 3, 1, 0, 0, 0] ∧
      ((List.range 7).map fun f => (flushed.frameStamp f).validCount) = [0, 2, 0, 0, 0, 0, 0] := by
  have hstate : (playoutSeven.autoCirculate .channel1).state = running := by decide +kernel
  have hcount : 0 < (playoutSeven.autoCirculate .channel1).channelCount.toNat := by decide +kernel
  have hplays : ¬ (playoutSeven.autoCirculate .channel1).recording = true := by decide +kernel
  have hflush := @flush_empties_iff .idle _ (fun _ => rfl) playoutSeven_run .channel1 rfl
    (.inr (.inl hstate)) 0 hcount true
  have hself : gangSpec .channel1 0 = .channel1 := rfl
  rw [hself] at hflush
  refine ⟨hflush.2.mpr fun hrec => absurd hrec hplays, ?_⟩
  decide +kernel

/-- A capture channel of seven frames after three interrupts: two frames are ready, the next one
is active, and the frame register names the one after it. -/
def captureSeven : NTV2AutoCirc :=
  [Call.init (.plain .input1 0 6 1), .start .input1 0, .tick .input1 (.plain 1),
    .tick .input1 (.plain 2), .tick .input1 (.plain 3)].foldl Call.run .idle

lemma captureSeven_run : RunsTo Call.run (fun _ c => c.Fits) .idle captureSeven :=
  .foldl ⟨fun _ => by decide, trivial, trivial, trivial, trivial, trivial⟩

/-- The flush of the capture channel stops at the frame before the one the register names, and
leaves both ready frames. -/
theorem not_flush_empties_captureSeven :
    ¬ ∀ s₀ t, AtRest s₀ → RunsTo Call.run (fun _ c => c.Fits) s₀ t →
      ∀ (channelSpec : NTV2Crosspoint) (bClearDF : Bool),
        illegalChannelSpec channelSpec = false →
        (t.autoCirculate channelSpec).state = running →
        FlushEmpties (t.autoCirculate channelSpec)
          ((autoCircFlush t channelSpec bClearDF).2.autoCirculate channelSpec)
          (flushStartFrame (t.autoCirculate channelSpec)
            (t.register (t.autoCirculate channelSpec).activeFrameRegister)) := by
  intro h
  have hready := (h .idle captureSeven (fun _ => rfl) captureSeven_run .input1 true rfl
    (by decide +kernel)).ready (by decide +kernel) 0 (by decide +kernel) (by decide +kernel)
  revert hready
  decide +kernel

end LibAjaNtv2
