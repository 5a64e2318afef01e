import LibAjaNtv2.AutoCirc.Run

/-!
A synchronised pair of channels.

* `SyncPair`: the pair the driver synchronises;
* `dropSync_pair`, `moreDropped_pair`: what an interrupt asks about the other channel;
* `SameCount`: what leaves the count of frames processed alone;
* `processed_tick`: an interrupt counts a frame only when the other channel has not
  dropped more, and, on playout, has not fallen behind;
* `sync_in_step`: **a playout pair stays in step, and no frame is counted while the other
  channel has dropped more**.
-/

namespace LibAjaNtv2

open NTV2AutoCirculateState

/-- The driver synchronises the channels `a` and `b`. -/
structure SyncPair (s : NTV2AutoCirc) (a b : NTV2Crosspoint) : Prop where
  on : s.vRegSyncChannels = true
  pair : s.syncChannel1 = a ∧ s.syncChannel2 = b ∨ s.syncChannel1 = b ∧ s.syncChannel2 = a
  distinct : a ≠ b
  real : a ≠ .fgkey ∧ b ≠ .fgkey
  named : (s.autoCirculate a).channelSpec = a ∧ (s.autoCirculate b).channelSpec = b

lemma SyncPair.symm {s : NTV2AutoCirc} {a b : NTV2Crosspoint} (h : SyncPair s a b) :
    SyncPair s b a :=
  ⟨h.on, h.pair.symm, h.distinct.symm, h.real.symm, h.named.symm⟩

/-! ### What an interrupt asks about the other channel -/

section Partner

variable {s : NTV2AutoCirc} {a b : NTV2Crosspoint} {own : InternalAutoCirculate}

/-- The interrupt of one channel of the pair compares it with the other one. -/
lemma dropSync_pair (h : SyncPair s a b) (hown : own.channelSpec = a) :
    (partnerOf s a).dropSyncFrame own = dropSyncSide own (s.autoCirculate b) := by
  show autoCircDropSyncFrame (s.setAuto a own) own.channelSpec = _
  have hfree : ¬ (s.syncChannel1 = .fgkey ∨ s.syncChannel2 = .fgkey) := by
    rcases h.pair with ⟨h₁, h₂⟩ | ⟨h₁, h₂⟩ <;> rw [h₁, h₂]
    · simp [h.real.1, h.real.2]
    · simp [h.real.1, h.real.2]
  have hne : b ≠ a := h.distinct.symm
  rw [hown, autoCircDropSyncFrame]
  simp only [setAuto_sync1, setAuto_sync2, setAuto_same, hfree, if_false, hown]
  rcases h.pair with ⟨h₁, h₂⟩ | ⟨h₁, h₂⟩
  · rw [h₁, h₂, if_pos rfl, setAuto_same, setAuto_of_ne _ _ _ hne]
  · rw [h₁, h₂, if_neg h.distinct, if_pos rfl, setAuto_same, setAuto_of_ne _ _ _ hne]

/-- The interrupt of one capture channel of the pair compares the frames dropped. -/
lemma moreDropped_pair (h : SyncPair s a b) (hown : own.channelSpec = a) :
    (partnerOf s a).moreDropped own =
      decide (own.droppedFrames < (s.autoCirculate b).droppedFrames) := by
  have hne : b ≠ a := h.distinct.symm
  show moreDropped (s.setAuto a own) own = _
  rw [moreDropped]
  simp only [setAuto_sync1, setAuto_sync2, hown]
  rcases h.pair with ⟨h₁, h₂⟩ | ⟨h₁, h₂⟩
  · simp [h₁, h₂, h.distinct, setAuto_of_ne _ _ _ hne]
  · simp [h₁, h₂, h.distinct, setAuto_of_ne _ _ _ hne]

/-- A channel that does not have to wait has dropped as many frames as the other one, and
has not processed more. -/
lemma dropSyncSide_false {own other : InternalAutoCirculate}
    (h : dropSyncSide own other = false) :
    other.droppedFrames ≤ own.droppedFrames ∧ own.framesProcessed ≤ other.framesProcessed := by
  rw [dropSyncSide] at h
  split at h
  · exact absurd h (by decide)
  · split at h
    · exact absurd h (by decide)
    · exact ⟨by omega, by omega⟩

end Partner

/-! ### What an interrupt counts -/

/-- Two circulators have the same ring and have processed as many frames. -/
structure SameCount (a b : InternalAutoCirculate) : Prop extends SameRing a b where
  framesProcessed : b.framesProcessed = a.framesProcessed

/-- What an interrupt counts: nothing, or one frame, where the circulator as it was then
has not been held back by its partner. -/
structure CountTick (partner : Partner) (a : InternalAutoCirculate) (r : TickResult) : Prop where
  count : r.pAuto.framesProcessed = a.framesProcessed ∨
    r.pAuto.framesProcessed = incr a.framesProcessed ∧ ∃ own : InternalAutoCirculate,
      own.channelSpec = a.channelSpec ∧ own.framesProcessed = a.framesProcessed ∧
      own.droppedFrames = a.droppedFrames ∧
      (partner.syncChannels = true →
        if a.recording then partner.moreDropped own = false
        else partner.dropSyncFrame own = false)

section Tick

variable {env : TickEnv} {partner : Partner} {fieldMode syncField0 : Bool}
  {a b : InternalAutoCirculate}

/-- A frame that is not dropped is not held back by the partner. -/
lemma dropSync_of_not_drops {f : Int} (h : (!tickDrops partner fieldMode syncField0 f a) = true)
    (hsync : partner.syncChannels = true) : partner.dropSyncFrame a = false := by
  simp only [tickDrops, Bool.not_eq_true', Bool.or_eq_false_iff, hsync, Bool.true_and] at h
  exact h.1.2

lemma countTick_startingPlay (hplay : a.recording = false) :
    CountTick partner a (tickStartingPlay partner fieldMode syncField0 a) := by
  refine ⟨?_⟩
  rw [tickStartingPlay]
  dsimp only
  split
  · exact Or.inl rfl
  · split
    · next hdrop =>
      refine Or.inr ⟨rfl, startingPlayAuto a, rfl, rfl, rfl, fun hsync => ?_⟩
      rw [hplay]
      exact dropSync_of_not_drops hdrop hsync
    · split
      · exact Or.inl rfl
      · exact Or.inl rfl

lemma countTick_runningPlay (hplay : a.recording = false) :
    CountTick partner a (tickRunningPlay env partner fieldMode syncField0 a) := by
  have hsame : (runningPlayAuto a).framesProcessed = a.framesProcessed ∧
      (runningPlayAuto a).droppedFrames = a.droppedFrames := by
    rw [runningPlayAuto]
    split <;> exact ⟨rfl, rfl⟩
  have hspec := (sameRing_runningPlayAuto a).channelSpec
  refine ⟨?_⟩
  rw [tickRunningPlay]
  split
  · exact Or.inl hsame.1
  · split
    · next hdrop =>
      refine Or.inr ⟨congrArg incr hsame.1, runningPlayAuto a, hspec, hsame.1, hsame.2,
        fun hsync => ?_⟩
      rw [hplay]
      exact dropSync_of_not_drops hdrop hsync
    · exact Or.inl hsame.1

lemma countTick_runningRecord {last : Int} (hrec : a.recording = true) :
    CountTick partner a (tickRunningRecord env partner fieldMode syncField0 last a) := by
  refine ⟨?_⟩
  rw [tickRunningRecord]
  split
  · exact Or.inl rfl
  · dsimp only
    split
    · next hadvance =>
      refine Or.inr ⟨rfl, capturingAuto env fieldMode syncField0 (capturedAuto last a), rfl, rfl,
        rfl, fun hsync => ?_⟩
      simp only [recordAdvances, recordDropSync, hsync, Bool.and_eq_true, Bool.not_eq_true',
        Bool.or_eq_false_iff, Bool.true_and] at hadvance
      exact hadvance.2.1
    · exact Or.inl rfl

lemma countTick_starting :
    CountTick partner a (tickStarting env partner fieldMode a) := by
  rw [tickStarting]
  split
  · exact ⟨Or.inl rfl⟩
  · cases hrec : a.recording with
    | true =>
        refine ⟨Or.inl ?_⟩
        rw [if_pos rfl, tickStartingRecord]
        split <;> rfl
    | false => exact countTick_startingPlay hrec

/-- Taking over the active frame counts nothing. -/
lemma countTick_entry (env : TickEnv) (reg : ℕ) {r : TickResult}
    (h : CountTick partner (tickEntry env reg a) r) : CountTick partner a r := by
  have hring := sameRing_tickEntry env reg a
  have hsame : (tickEntry env reg a).framesProcessed = a.framesProcessed ∧
      (tickEntry env reg a).droppedFrames = a.droppedFrames := by
    rw [tickEntry]
    split <;> exact ⟨rfl, rfl⟩
  obtain ⟨hcount⟩ := h
  rw [hring.channelSpec, hring.recording, hsame.1, hsame.2] at hcount
  exact ⟨hcount⟩

/-- What an interrupt counts. -/
lemma countTick_tickAuto (env : TickEnv) (partner : Partner) (reg : ℕ)
    (a : InternalAutoCirculate) : CountTick partner a (tickAuto env partner reg a) := by
  refine countTick_entry env reg ?_
  rw [tickAuto]
  split
  · exact ⟨Or.inl rfl⟩
  · exact countTick_starting
  · exact countTick_starting
  · cases hrec : (tickEntry env reg a).recording with
    | true => exact countTick_runningRecord hrec
    | false => exact countTick_runningPlay hrec
  · exact ⟨Or.inl rfl⟩
  · exact ⟨Or.inl rfl⟩
  · exact ⟨Or.inl rfl⟩

end Tick

/-! ### What leaves the counts alone -/

/-- No command and no transfer counts a frame. -/
lemma opsWithin_sameCount : OpsWithin SameCount where
  start a t := ⟨sameRing_startAuto a t, rfl⟩
  stop a := ⟨(unmoved_stopAuto a).toSameRing, by rw [stopAuto]; split <;> rfl⟩
  abort a := ⟨(unmoved_abortAuto a).toSameRing, by rw [abortAuto]; split <;> rfl⟩
  pause a bPlay bClearDF :=
    ⟨(unmoved_pauseAuto bPlay bClearDF a).toSameRing, by rw [pauseAuto]; split_ifs <;> rfl⟩
  flush a bClearDF reg :=
    ⟨(unmoved_flushAuto bClearDF reg a).toSameRing,
      flushAuto_invariant (P := fun b => b.framesProcessed = a.framesProcessed)
        (fun _ _ _ _ h => h) (fun _ h => h) (fun _ h => h) (fun _ h => h) rfl⟩
  preroll a n f :=
    ⟨((unmoved_setNextTransfer a f).trans (unmoved_prerollAuto n _)).toSameRing, by
      rw [prerollAuto]
      dsimp only
      split <;> rfl⟩
  active a f := ⟨sameRing_activeFrame a f, rfl⟩
  find a f := ⟨(unmoved_setNextTransfer a f).toSameRing, rfl⟩
  begins a f p env := ⟨(unmoved_begin f p env a).toSameRing, by
    rw [beginAutoCircTransfer]
    dsimp only
    split
    · split <;> rfl
    · rfl⟩
  completes a f u p := ⟨(unmoved_completeAuto f u p a).toSameRing, by
    rw [completeAuto]
    split_ifs <;> rfl⟩
  audio a env := ⟨(unmoved_audioSetup env a).toSameRing, by
    rw [autoCircDmaAudioSetup]
    split
    · rfl
    · split <;> rfl⟩
  flags a f flags := ⟨(unmoved_setFrameFlags f flags a).toSameRing, rfl⟩

/-! ### What leaves the pair alone -/

/-- A property of the driver that depends on no circulator, no register and no option of
the commands. -/
structure SysClosed (I : NTV2AutoCirc → Prop) : Prop where
  setAuto : ∀ s spec a, I s → I (s.setAuto spec a)
  writeRegister : ∀ s reg v, I s → I (s.writeRegister reg v)
  setMultiChannel : ∀ s b, I s → I (s.setMultiChannel b)
  ancInput : ∀ s inputs, I s → I { s with ancInputChannel := inputs }

section Closed

variable {I : NTV2AutoCirc → Prop} {s : NTV2AutoCirc} {spec : NTV2Crosspoint}
  {pTransfer : AutoCirculateTransfer} {env : TransferEnv} {st : TransferState}

lemma SysClosed.forGang (hI : SysClosed I) {f : InternalAutoCirculate → InternalAutoCirculate}
    (hs : I s) : I (forGang s spec (onMember f)).2 :=
  gangLoop_invariant (fun _ t _ _ ht => hI.setAuto t _ _ ht) hs

lemma SysClosed.init (hI : SysClosed I) {args : InitArgs} (hs : I s) :
    I (autoCircInit s args).2 := by
  rw [autoCircInit]
  split_ifs
  · exact hs
  · exact hs
  · exact hs
  · exact hs
  · refine gangLoop_invariant (fun _ t _ _ ht => ?_) (hI.setMultiChannel s _ hs)
    rw [initMember]
    split
    · exact ht
    · exact hI.ancInput _ _ (hI.setAuto t _ _ ht)

lemma SysClosed.dmaFields (hI : SysClosed I) {f : ℕ} (hst : I st.sys) :
    I (dmaFields pTransfer env f spec st).2.sys := by
  have hnote : I (noteFields pTransfer f spec st).sys := by
    rw [noteFields]
    split
    · exact hst
    · exact hI.setAuto _ _ _ hst
  rw [LibAjaNtv2.dmaFields]
  dsimp only
  split <;> exact hnote

lemma SysClosed.transferHost (hI : SysClosed I) {f stride : ℕ} (hst : I st.sys) :
    I (transferHost pTransfer env f stride st).st.sys := by
  have hbegun : I (gangLoop
      (fun k spec st => (Ntv2Status.success, beginAt pTransfer env (gangFrame stride f k) spec st))
      (getIndexForNTV2Crosspoint pTransfer.acCrosspoint) 0
      (st.sys.autoCirculate pTransfer.acCrosspoint).channelCount.toNat st).2.sys :=
    gangLoop_invariant (I := fun t : TransferState => I t.sys)
      (fun _ _ _ _ ht => hI.setAuto _ _ _ ht) hst
  have hsetup := fun st' (h : I (TransferState.sys st')) =>
    hI.setAuto st'.sys pTransfer.acCrosspoint
      (autoCircDmaAudioSetup env (st'.sys.autoCirculate pTransfer.acCrosspoint)).2 h
  unfold LibAjaNtv2.transferHost
  dsimp only [TransferBranch.ret, dmaFrame]
  split_ifs <;> first | exact hsetup _ hbegun | exact hbegun | exact hI.dmaFields (hsetup _ hbegun) |
    exact hI.dmaFields hbegun

lemma SysClosed.transferBranch (hI : SysClosed I) {f stride : ℕ} (hst : I st.sys) :
    I (transferBranch pTransfer env f stride st).st.sys := by
  have hbegin : I (beginAt pTransfer env f pTransfer.acCrosspoint st).sys := hI.setAuto _ _ _ hst
  rw [LibAjaNtv2.transferBranch]
  split_ifs
  · rw [transferPrepare]
    split
    · exact hst
    · exact hbegin
  · exact hbegin
  · rw [transferTransfer]
    split
    · exact hst
    · dsimp only
      split <;> exact hbegin
  · exact hI.transferHost hst

lemma SysClosed.transferAtFrame (hI : SysClosed I) {f : ℕ} (hst : I st.sys) :
    I (transferAtFrame pTransfer env f st).2.sys := by
  unfold LibAjaNtv2.transferAtFrame
  dsimp only
  generalize hb : LibAjaNtv2.transferBranch pTransfer env f _ st = b
  have hbranch : I b.st.sys := by
    rw [← hb]
    exact hI.transferBranch hst
  have haudio : I (transferAudio pTransfer env b).2.sys := by
    rw [transferAudio]
    split
    · dsimp only
      split <;> exact hI.setAuto _ _ _ hbranch
    · exact hbranch
  have hanc : I (transferAnc pTransfer env f b (transferAudio pTransfer env b).2).2.sys := by
    rw [transferAnc]
    split <;> exact haudio
  split_ifs
  · exact hbranch
  · exact haudio
  · exact hanc
  · exact gangLoop_invariant (I := fun t : TransferState => I t.sys)
      (fun _ _ _ _ ht => hI.setAuto _ _ _ ht) hanc

lemma SysClosed.transfer (hI : SysClosed I) {out : AutoCirculateTransferStatus} (hs : I s) :
    I (autoCircTransfer s pTransfer env out).2.sys := by
  have hfind : I (s.setAuto pTransfer.acCrosspoint
      (autoCircFindNextAvailFrame (s.autoCirculate pTransfer.acCrosspoint)).2) :=
    hI.setAuto _ _ _ hs
  rw [autoCircTransfer]
  dsimp only
  split_ifs <;> first | exact hs | exact hfind | exact hI.transferAtFrame hfind |
    exact hI.transferAtFrame hs

/-- The calls keep such a property, but for the choice of the pair. -/
lemma SysClosed.call (hI : SysClosed I) {c : Call} (hc : ∀ on x y, c ≠ .syncChannels on x y)
    (hs : I s) : I (c.run s) := by
  cases c with
  | init args => exact hI.init hs
  | start spec t =>
      show I (autoCircStart s spec t).2
      rw [autoCircStart]
      split_ifs
      · exact hs
      · exact hs
      · exact gangLoop_invariant
          (fun _ t _ _ ht => hI.setAuto _ _ _ (hI.writeRegister t _ _ ht)) hs
  | stop spec =>
      show I (autoCircStop s spec).2
      rw [autoCircStop]
      split
      · exact hs
      · exact hI.forGang hs
  | abort spec =>
      show I (autoCircAbort s spec).2
      rw [autoCircAbort]
      split
      · exact hs
      · exact hI.forGang hs
  | pause spec bPlay bClearDF =>
      show I (autoCircPause s spec bPlay bClearDF).2
      rw [autoCircPause]
      split
      · exact hs
      · exact hI.forGang hs
  | flush spec bClearDF =>
      have hgang : I (LibAjaNtv2.forGang s spec (flushMember bClearDF)).2 :=
        gangLoop_invariant (fun _ t _ _ ht => hI.setAuto t _ _ ht) hs
      show I (autoCircFlush s spec bClearDF).2
      rw [autoCircFlush]
      split
      · exact hs
      · split <;> first | exact hgang | exact hs
  | preroll spec n =>
      show I (autoCircPreroll s spec n).2
      rcases autoCircPreroll_cases s spec n with hp | ⟨-, hp⟩ <;> rw [hp]
      · exact hs
      · refine gangLoop_invariant (fun _ t _ _ ht => ?_) hs
        rw [prerollMember]
        split
        · exact ht
        · split
          · exact hI.setAuto t _ _ ht
          · exact ht
  | setActiveFrame spec f =>
      have hgang : ∀ n r, I (gangLoop (setActiveFrameMember f r)
          (getIndexForNTV2Crosspoint spec) 0 n s).2 := fun n r =>
        gangLoop_invariant (fun _ t _ _ ht => hI.writeRegister _ _ _ (hI.setAuto t _ _ ht)) hs
      show I (autoCircSetActiveFrame s spec f).2
      rw [autoCircSetActiveFrame]
      split
      · exact hs
      · dsimp only
        split <;> first | exact hs | (split_ifs <;> first | exact hs | exact hgang _ _)
  | tick spec env =>
      show I (autoCirculate s spec env).2
      rw [autoCirculate]
      dsimp only
      split
      · exact hs
      · split
        · exact hI.setAuto _ _ _ (hI.writeRegister s _ _ hs)
        · exact hI.setAuto s _ _ hs
  | beginTransfer spec f p env => exact hI.setAuto s _ _ hs
  | completeTransfer spec f u p => exact hI.setAuto s _ _ hs
  | transfer p env out => exact hI.transfer hs
  | writeRegister reg value => exact hI.writeRegister s _ _ hs
  | syncChannels on x y => exact absurd rfl (hc on x y)

end Closed

/-! ### Runs -/

/-- What may happen to a synchronised pair: `AutoCircInit` leaves its channels alone, they
stay the pair, and no count of a playout channel wraps. -/
def Call.SyncOk (a b : NTV2Crosspoint) (s : NTV2AutoCirc) : Call → Prop
  | .init args => (autoCircInit s args).2.autoCirculate a = s.autoCirculate a ∧
      (autoCircInit s args).2.autoCirculate b = s.autoCirculate b
  | .tick spec _ => spec = a ∨ spec = b → (s.autoCirculate spec).recording = false →
      (s.autoCirculate spec).framesProcessed + 1 < 2 ^ 32
  | .syncChannels on sync1 sync2 => on = true ∧ (sync1 = a ∧ sync2 = b ∨ sync1 = b ∧ sync2 = a)
  | _ => True

/-- The channels have processed as many frames, but for one. -/
def InStep (s : NTV2AutoCirc) (a b : NTV2Crosspoint) : Prop :=
  (s.autoCirculate a).framesProcessed ≤ (s.autoCirculate b).framesProcessed + 1 ∧
    (s.autoCirculate b).framesProcessed ≤ (s.autoCirculate a).framesProcessed + 1

instance (s : NTV2AutoCirc) (a b : NTV2Crosspoint) : Decidable (InStep s a b) :=
  inferInstanceAs (Decidable (_ ∧ _))

/-- Both channels play out. -/
def BothPlay (s : NTV2AutoCirc) (a b : NTV2Crosspoint) : Prop :=
  (s.autoCirculate a).recording = false ∧ (s.autoCirculate b).recording = false

section Runs

variable {s t : NTV2AutoCirc} {a b : NTV2Crosspoint}

lemma autoCirculate_of_ne {env : TickEnv} {spec : NTV2Crosspoint} (h : spec ≠ a) :
    (autoCirculate s a env).2.autoCirculate spec = s.autoCirculate spec := by
  rw [autoCirculate]
  split
  · rfl
  · dsimp only
    rw [setAuto_of_ne _ _ _ h]
    split <;> rfl

/-- What an interrupt of one channel of the pair counts. -/
lemma processed_tick (h : SyncPair s a b) (env : TickEnv) :
    ((autoCirculate s a env).2.autoCirculate a).framesProcessed =
        (s.autoCirculate a).framesProcessed ∨
      ((autoCirculate s a env).2.autoCirculate a).framesProcessed =
          incr (s.autoCirculate a).framesProcessed ∧
        (s.autoCirculate b).droppedFrames ≤ (s.autoCirculate a).droppedFrames ∧
        ((s.autoCirculate a).recording = false →
          (s.autoCirculate a).framesProcessed ≤ (s.autoCirculate b).framesProcessed) := by
  rw [autoCirculate]
  split
  · exact Or.inl rfl
  · dsimp only
    rw [setAuto_same]
    have hspec := countTick_tickAuto env (partnerOf s a)
      (s.register (s.autoCirculate a).activeFrameRegister) (s.autoCirculate a)
    rcases hspec.count with hsame | ⟨hincr, own, hname, hp, hd, hfree⟩
    · exact Or.inl hsame
    · refine Or.inr ⟨hincr, ?_⟩
      have hfree := hfree h.on
      have hown := hname.trans h.named.1
      cases hrec : (s.autoCirculate a).recording with
      | true =>
          rw [hrec, if_pos rfl, moreDropped_pair h hown, decide_eq_false_iff_not, hd] at hfree
          exact ⟨by omega, by simp⟩
      | false =>
          rw [hrec, if_neg (by decide), dropSync_pair h hown] at hfree
          obtain ⟨hdrop, hstep⟩ := dropSyncSide_false hfree
          rw [hd] at hdrop
          rw [hp] at hstep
          exact ⟨hdrop, fun _ => hstep⟩

/-- An interrupt of one channel of a playout pair keeps it in step. -/
lemma InStep.tick (h : SyncPair s a b) (hplay : BothPlay s a b) (hstep : InStep s a b)
    {env : TickEnv} (hwrap : (s.autoCirculate a).framesProcessed + 1 < 2 ^ 32) :
    InStep (autoCirculate s a env).2 a b := by
  obtain ⟨hlow, hhigh⟩ := hstep
  rw [InStep, autoCirculate_of_ne h.distinct.symm]
  rcases processed_tick h env with hsame | ⟨hincr, -, hle⟩
  · rw [hsame]
    exact ⟨hlow, hhigh⟩
  · have hle := hle hplay.1
    have hone : incr (s.autoCirculate a).framesProcessed =
        (s.autoCirculate a).framesProcessed + 1 := by
      rw [incr, toUInt32]
      omega
    rw [hincr, hone]
    exact ⟨by omega, by omega⟩

lemma InStep.symm (h : InStep s a b) : InStep s b a := ⟨h.2, h.1⟩

/-- The settings of the driver that make the pair. -/
def PairChosen (a b : NTV2Crosspoint) (s : NTV2AutoCirc) : Prop :=
  s.vRegSyncChannels = true ∧
    (s.syncChannel1 = a ∧ s.syncChannel2 = b ∨ s.syncChannel1 = b ∧ s.syncChannel2 = a)

lemma sysClosed_pairChosen (a b : NTV2Crosspoint) : SysClosed (PairChosen a b) where
  setAuto _ _ _ h := h
  writeRegister _ _ _ h := h
  setMultiChannel _ _ h := h
  ancInput _ _ h := h

/-- The pair goes on being chosen. -/
lemma pairChosen_call {c : Call} (hc : c.SyncOk a b s) (h : PairChosen a b s) :
    PairChosen a b (c.run s) := by
  cases c with
  | syncChannels on x y => exact hc
  | _ => exact (sysClosed_pairChosen a b).call (by simp) h

/-- What the commands and the transfers keep of a circulator, a call keeps of the pair. -/
lemma OpsWithin.pair {β : Type} {R : InternalAutoCirculate → InternalAutoCirculate → Prop}
    (hR : OpsWithin R) (part : InternalAutoCirculate → β)
    (hpart : ∀ x y, R x y → part y = part x) {c : Call} (hc : c.SyncOk a b s)
    (htick : ∀ spec env x, c = .tick spec env → x = a ∨ x = b →
      part ((autoCirculate s spec env).2.autoCirculate x) = part (s.autoCirculate x)) :
    ∀ x, x = a ∨ x = b → part ((c.run s).autoCirculate x) = part (s.autoCirculate x) := by
  refine hR.call (P := fun x v => x = a ∨ x = b → part v = part (s.autoCirculate x))
    (fun x u v huv hu hx => (hpart u v huv).trans (hu hx)) (fun args hargs => ?_)
    (fun spec env htk x => htick spec env x htk) (fun _ _ => rfl)
  subst hargs
  obtain ⟨ha, hb⟩ := hc
  rintro x (rfl | rfl)
  · rw [ha]
  · rw [hb]

/-- An interrupt leaves what depends on the ring of a circulator alone. -/
lemma ringPart_tick {β : Type} (part : InternalAutoCirculate → β)
    (hpart : ∀ x y, SameRing x y → part y = part x) (spec : NTV2Crosspoint) (env : TickEnv)
    (x : NTV2Crosspoint) :
    part ((autoCirculate s spec env).2.autoCirculate x) = part (s.autoCirculate x) :=
  autoCirculate_records (P := fun x v => part v = part (s.autoCirculate x))
    (fun partner reg _ => hpart _ _ (sameRing_tickAuto env partner reg _)) (fun _ => rfl) x

/-- The pair, and what its channels are, as `s` has them. -/
structure SyncKept (s t : NTV2AutoCirc) (a b : NTV2Crosspoint) : Prop where
  pair : SyncPair t a b
  recording : ∀ x, x = a ∨ x = b →
    (t.autoCirculate x).recording = (s.autoCirculate x).recording

/-- The pair stays what it is. -/
lemma SyncKept.call (h : SyncKept s t a b) {c : Call} (hc : c.SyncOk a b t) :
    SyncKept s (c.run t) a b := by
  obtain ⟨hpair, hrec⟩ := h
  obtain ⟨hon, hchosen⟩ := pairChosen_call hc ⟨hpair.on, hpair.pair⟩
  have hname := opsWithin_sameRing.pair (·.channelSpec) (fun _ _ hr => hr.channelSpec) hc
    fun spec env x _ _ => ringPart_tick (·.channelSpec) (fun _ _ hr => hr.channelSpec) spec env x
  have hmode := opsWithin_sameRing.pair (·.recording) (fun _ _ hr => hr.recording) hc
    fun spec env x _ _ => ringPart_tick (·.recording) (fun _ _ hr => hr.recording) spec env x
  refine ⟨⟨hon, hchosen, hpair.distinct, hpair.real, ?_, ?_⟩, fun x hx => ?_⟩
  · exact (hname a (Or.inl rfl)).trans hpair.named.1
  · exact (hname b (Or.inr rfl)).trans hpair.named.2
  · exact (hmode x hx).trans (hrec x hx)

/-- A playout pair stays in step. -/
lemma InStep.call (h : SyncPair s a b) (hplay : BothPlay s a b) (hstep : InStep s a b)
    {c : Call} (hc : c.SyncOk a b s) : InStep (c.run s) a b := by
  by_cases htick : ∃ spec env, c = .tick spec env
  · obtain ⟨spec, env, rfl⟩ := htick
    show InStep (autoCirculate s spec env).2 a b
    by_cases ha : spec = a
    · subst ha
      exact hstep.tick h hplay (hc (Or.inl rfl) hplay.1)
    · by_cases hb : spec = b
      · subst hb
        exact (hstep.symm.tick h.symm hplay.symm (hc (Or.inr rfl) hplay.2)).symm
      · rw [InStep, autoCirculate_of_ne (Ne.symm ha), autoCirculate_of_ne (Ne.symm hb)]
        exact hstep
  · have hcount := opsWithin_sameCount.pair (·.framesProcessed) (fun _ _ hr => hr.framesProcessed)
      hc fun spec env x he _ => absurd ⟨spec, env, he⟩ htick
    rw [InStep, hcount a (Or.inl rfl), hcount b (Or.inr rfl)]
    exact hstep

/-- The pair is in step: no interrupt counts a frame while the other channel has dropped
more, and the counts of a playout pair are within one of each other. -/
structure SyncSafe (s t : NTV2AutoCirc) (a b : NTV2Crosspoint) : Prop where
  drops : ∀ own other, own = a ∧ other = b ∨ own = b ∧ other = a → ∀ env,
    ((autoCirculate t own env).2.autoCirculate own).framesProcessed ≠
        (t.autoCirculate own).framesProcessed →
      (t.autoCirculate other).droppedFrames ≤ (t.autoCirculate own).droppedFrames
  inStep : BothPlay s a b → InStep s a b → InStep t a b

/-- **A playout pair stays in step, and no frame is counted while the other channel has
dropped more**, along every run that leaves the pair chosen and initialised. -/
theorem sync_in_step {s t : NTV2AutoCirc} {a b : NTV2Crosspoint} (hpair : SyncPair s a b)
    (hrun : RunsTo Call.run (Call.SyncOk a b) s t) : SyncSafe s t a b := by
  obtain ⟨hkept, hstep⟩ : SyncKept s t a b ∧
      (BothPlay s a b → InStep s a b → InStep t a b) := by
    refine hrun.invariant (I := fun u => SyncKept s u a b ∧
      (BothPlay s a b → InStep s a b → InStep u a b)) ⟨⟨hpair, fun _ _ => rfl⟩, fun _ h => h⟩ ?_
    rintro u c hc ⟨hk, hi⟩
    refine ⟨hk.call hc, fun hplay hs => ?_⟩
    have hplay' : BothPlay u a b :=
      ⟨(hk.recording a (Or.inl rfl)).trans hplay.1, (hk.recording b (Or.inr rfl)).trans hplay.2⟩
    exact (hi hplay hs).call hk.pair hplay' hc
  refine ⟨?_, hstep⟩
  rintro own other (⟨rfl, rfl⟩ | ⟨rfl, rfl⟩) env hne
  · exact ((processed_tick hkept.pair env).resolve_left hne).2.1
  · exact ((processed_tick hkept.pair.symm env).resolve_left hne).2.1

/-- Two channels with ten frames each, synchronised and started. -/
def startedPair (a b : NTV2Crosspoint) : NTV2AutoCirc :=
  [Call.init (.plain a 0 9 1), .init (.plain b 10 19 1), .syncChannels true a b, .start a 0,
    .start b 0].foldl Call.run .idle

/-- A transfer of the next free frame, with no interrupt in between. -/
def Call.sendNext (channelSpec : NTV2Crosspoint) : Call :=
  .transfer (.plain channelSpec (-1) 1) .plain .zero

lemma startedPair_synced : SyncPair (startedPair .channel1 .channel2) .channel1 .channel2 :=
  ⟨rfl, Or.inl ⟨rfl, rfl⟩, by decide, by decide, by decide +kernel⟩

/-- `sync_in_step` for two channels that are sent a frame each, and interrupted. -/
theorem sync_in_step_once :
    SyncSafe (startedPair .channel1 .channel2)
      ([Call.sendNext .channel1, .sendNext .channel2, .tick .channel1 (.plain 1),
        .tick .channel2 (.plain 1)].foldl Call.run (startedPair .channel1 .channel2))
      .channel1 .channel2 := by
  refine sync_in_step startedPair_synced (RunsTo.foldl ⟨trivial, trivial, fun _ _ => ?_,
    fun _ _ => ?_, trivial⟩)
  · decide +kernel
  · decide +kernel

/-- The interrupts and transfers of a synchronised pair. -/
def Call.OfPair : Call → Prop
  | .tick _ _ | .transfer _ _ _ | .beginTransfer _ _ _ _ | .completeTransfer _ _ _ _ => True
  | _ => False

/-- Two playout channels with two frames each, about to count frame `2³²`. -/
def wrappingPair : NTV2AutoCirc :=
  let s := [Call.sendNext .channel1, .sendNext .channel1, .sendNext .channel2,
    .sendNext .channel2].foldl Call.run (startedPair .channel1 .channel2)
  let full := fun spec => { s.autoCirculate spec with framesProcessed := 2 ^ 32 - 1 }
  (s.setAuto .channel1 (full .channel1)).setAuto .channel2 (full .channel2)

/-- What the driver does not synchronise: capture channels, of which one processes frames
while the other is not interrupted; and playout channels after a count has wrapped. -/
theorem sync_out_of_step :
    (¬ ∀ t, RunsTo Call.run (fun _ c => c.OfPair) (startedPair .input1 .input2) t →
      InStep t .input1 .input2) ∧
    ¬ ∀ t, RunsTo Call.run (fun _ c => c.OfPair) wrappingPair t →
      InStep t .channel1 .channel2 := by
  constructor
  · intro h
    have hrun : RunsTo Call.run (fun _ c => c.OfPair) (startedPair .input1 .input2)
        ([Call.tick .input1 (.plain 1), .tick .input1 (.plain 2), .tick .input1 (.plain 3),
          .tick .input1 (.plain 4)].foldl Call.run (startedPair .input1 .input2)) :=
      RunsTo.foldl ⟨trivial, trivial, trivial, trivial, trivial⟩
    have hstep := h _ hrun
    revert hstep
    decide +kernel
  · intro h
    have hrun : RunsTo Call.run (fun _ c => c.OfPair) wrappingPair
        ([Call.tick .channel1 (.plain 1), .tick .channel1 (.plain 2)].foldl Call.run
          wrappingPair) :=
      RunsTo.foldl ⟨trivial, trivial, trivial⟩
    have hstep := h _ hrun
    revert hstep
    decide +kernel

end Runs

end LibAjaNtv2
