import LibAjaNtv2.AutoCirc.InitGang
import LibAjaNtv2.Lib.Run

/-!
Runs of the driver: any calls on any channels, in any order.

* `RecordsOk`: a property of every circulator, which may depend on its channel;
* `InGang`: the circulators a transfer request reaches;
* `TransferBegins`: the tests a transfer request has to pass;
* `autoCircStart_records` and its siblings: **what an operation keeps of one
  circulator, the call keeps of all of them**;
* `Call`, `Call.run`: the calls, with the interrupts, the two halves of a
  transfer, and the writes of others to the registers;
* `OpsWithin.call`: **what the operations keep of a circulator, every call keeps**.
-/

namespace LibAjaNtv2

open NTV2AutoCirculateState

/-- Every circulator has the property its channel is to have. -/
def RecordsOk (P : NTV2Crosspoint → InternalAutoCirculate → Prop) (s : NTV2AutoCirc) : Prop :=
  ∀ spec, P spec (s.autoCirculate spec)

section Records

variable {P : NTV2Crosspoint → InternalAutoCirculate → Prop} {s : NTV2AutoCirc}
  {spec : NTV2Crosspoint}

/-- Changing one circulator within the property keeps it. -/
lemma RecordsOk.setAuto {a : InternalAutoCirculate} (hs : RecordsOk P s) (ha : P spec a) :
    RecordsOk P (s.setAuto spec a) := by
  intro spec'
  by_cases h : spec' = spec
  · subst h
    rwa [setAuto_same]
  · rw [setAuto_of_ne _ _ _ h]
    exact hs spec'

lemma RecordsOk.writeRegister {reg v : ℕ} (hs : RecordsOk P s) :
    RecordsOk P (s.writeRegister reg v) := hs

lemma forGang_records {f : InternalAutoCirculate → InternalAutoCirculate}
    (hf : ∀ spec a, P spec a → P spec (f a)) (hs : RecordsOk P s) :
    RecordsOk P (forGang s spec (onMember f)).2 :=
  gangLoop_invariant (fun _ _ _ _ ht => ht.setAuto (hf _ _ (ht _))) hs

lemma autoCircInit_records {args : InitArgs}
    (hf : ∀ k < args.lChannelCount.toNat, InitParamsOk args →
      P (gangSpec args.lChannelSpec k) (initAuto args s k (gangSpec args.lChannelSpec k)))
    (hs : RecordsOk P s) : RecordsOk P (autoCircInit s args).2 := by
  by_cases hp : InitParamsOk args
  · -- what a member becomes does not depend on how far the loop has come
    have hbegin : RecordsOk P (s.setMultiChannel (args.lChannelCount > 1)) ∧ ∀ k spec,
        initAuto args (s.setMultiChannel (args.lChannelCount > 1)) k spec =
          initAuto args s k spec := ⟨hs, fun _ _ => rfl⟩
    rw [autoCircInit_eq hp]
    refine (gangLoop_invariant (I := fun t : NTV2AutoCirc => RecordsOk P t ∧
      ∀ k spec, initAuto args t k spec = initAuto args s k spec) ?_ hbegin).1
    rintro j t - hj ⟨ht, hinit⟩
    refine ⟨?_, fun k spec => by rw [initAuto_initMember, hinit]⟩
    unfold initMember
    split
    · exact ht
    · have hmember : P (gangSpec args.lChannelSpec j)
          (initAuto args t j (gangSpec args.lChannelSpec j)) := by
        rw [hinit]
        exact hf j (by omega) hp
      exact fun spec' => (ht.setAuto hmember) spec'
  · rw [autoCircInit_rejected hp]
    exact hs

lemma autoCircStart_records {t : Int} (hf : ∀ spec a, P spec a → P spec (startAuto t a))
    (hs : RecordsOk P s) :
    RecordsOk P (autoCircStart s spec t).2 := by
  unfold autoCircStart
  split_ifs
  · exact hs
  · exact hs
  · exact gangLoop_invariant (fun _ _ _ _ ht => ht.writeRegister.setAuto (hf _ _ (ht _))) hs

lemma autoCircStop_records (hf : ∀ spec a, P spec a → P spec (stopAuto a)) (hs : RecordsOk P s) :
    RecordsOk P (autoCircStop s spec).2 := by
  unfold autoCircStop
  split
  · exact hs
  · exact forGang_records hf hs

lemma autoCircAbort_records (hf : ∀ spec a, P spec a → P spec (abortAuto a)) (hs : RecordsOk P s) :
    RecordsOk P (autoCircAbort s spec).2 := by
  unfold autoCircAbort
  split
  · exact hs
  · exact forGang_records hf hs

lemma autoCircPause_records {bPlay bClearDF : Bool}
    (hf : ∀ spec a, P spec a → P spec (pauseAuto bPlay bClearDF a)) (hs : RecordsOk P s) :
    RecordsOk P (autoCircPause s spec bPlay bClearDF).2 := by
  unfold autoCircPause
  split
  · exact hs
  · exact forGang_records hf hs

lemma autoCircFlush_records {bClearDF : Bool}
    (hf : ∀ spec reg a, P spec a → P spec (flushAuto bClearDF reg a)) (hs : RecordsOk P s) :
    RecordsOk P (autoCircFlush s spec bClearDF).2 := by
  have hgang : RecordsOk P (forGang s spec (flushMember bClearDF)).2 :=
    gangLoop_invariant (fun _ _ _ _ ht => ht.setAuto (hf _ _ _ (ht _))) hs
  unfold autoCircFlush
  split
  · exact hs
  · split
    · exact hgang
    · exact hgang
    · exact hgang
    · exact hs

/-- A playout channel with a free frame is prerolled. -/
lemma prerollMember_some {n : Int} {k : ℕ} {f : Int}
    (hrec : (s.autoCirculate spec).recording = false)
    (hf : availFrame (s.autoCirculate spec) = some f) :
    prerollMember n k spec s =
      (.success, s.setAuto spec (prerollAuto n ((s.autoCirculate spec).setNextTransfer f))) := by
  simp [prerollMember, autoCircFindNextAvailFrame, hrec, hf]

/-- A capture channel, and a playout channel without a free frame, are left alone. -/
lemma prerollMember_none {n : Int} {k : ℕ}
    (h : (s.autoCirculate spec).recording = true ∨ availFrame (s.autoCirculate spec) = none) :
    (prerollMember n k spec s).2 = s := by
  rcases h with h | h <;> simp [prerollMember, autoCircFindNextAvailFrame, h]
  split <;> rfl

lemma prerollMember_records {n : Int} {k : ℕ}
    (hf : ∀ f, (s.autoCirculate spec).recording = false →
      availFrame (s.autoCirculate spec) = some f → P spec (s.autoCirculate spec) →
      P spec (prerollAuto n ((s.autoCirculate spec).setNextTransfer f)))
    (hs : RecordsOk P s) : RecordsOk P (prerollMember n k spec s).2 := by
  cases hrec : (s.autoCirculate spec).recording with
  | true =>
      rw [prerollMember_none (Or.inl hrec)]
      exact hs
  | false =>
      cases hav : availFrame (s.autoCirculate spec) with
      | none =>
          rw [prerollMember_none (Or.inr hav)]
          exact hs
      | some f =>
          rw [prerollMember_some hrec hav]
          exact hs.setAuto (hf f hrec hav (hs spec))

/-- The tests of `AutoCircPreroll` on the channel it is called for. -/
def PrerollReaches (s : NTV2AutoCirc) (spec : NTV2Crosspoint) : Prop :=
  illegalChannelSpec spec = false ∧ (s.autoCirculate spec).Live ∧
    (s.autoCirculate spec).Mem (s.autoCirculate spec).activeFrame

/-- A preroll that passes its tests goes through the gang; any other changes nothing. -/
lemma autoCircPreroll_cases (s : NTV2AutoCirc) (spec : NTV2Crosspoint) (n : Int) :
    (autoCircPreroll s spec n).2 = s ∨ PrerollReaches s spec ∧
      (autoCircPreroll s spec n).2 = (forGang s spec (prerollMember n)).2 := by
  unfold autoCircPreroll
  dsimp only
  split
  · exact Or.inl rfl
  · next hlegal =>
    rw [Bool.not_eq_true] at hlegal
    split <;> first
      | exact Or.inl rfl
      | (next hs =>
          split
          · exact Or.inl rfl
          · exact Or.inr ⟨⟨hlegal, by simp [InternalAutoCirculate.Live, hs], by omega, by omega⟩, rfl⟩)

lemma autoCircSetActiveFrame_records {f : Int}
    (hf : (s.autoCirculate spec).startFrame ≤ f → f ≤ (s.autoCirculate spec).endFrame →
      ∀ k < toUInt32 (s.autoCirculate spec).channelCount, ∀ spec' a, P spec' a →
        P spec' { a with activeFrame := toInt32 (toUInt32 (f + k * toUInt32
          ((s.autoCirculate spec).endFrame - (s.autoCirculate spec).startFrame + 1))) })
    (hs : RecordsOk P s) : RecordsOk P (autoCircSetActiveFrame s spec f).2 := by
  have hgang : (s.autoCirculate spec).startFrame ≤ f → f ≤ (s.autoCirculate spec).endFrame →
      RecordsOk P (gangLoop (setActiveFrameMember f
        (toUInt32 ((s.autoCirculate spec).endFrame - (s.autoCirculate spec).startFrame + 1)))
        (getIndexForNTV2Crosspoint spec) 0 (toUInt32 (s.autoCirculate spec).channelCount) s).2 :=
    fun h₁ h₂ => gangLoop_invariant
      (fun k t _ hk ht => (ht.setAuto (hf h₁ h₂ k (by omega) _ _ (ht _))).writeRegister) hs
  unfold autoCircSetActiveFrame
  dsimp only
  split
  · exact hs
  · split <;> first | exact hs | (split_ifs <;> first | exact hs | exact hgang (by omega) (by omega))

lemma autoCirculate_records {env : TickEnv}
    (hf : ∀ partner reg, P spec (s.autoCirculate spec) →
      P spec (tickAuto env partner reg (s.autoCirculate spec)).pAuto) (hs : RecordsOk P s) :
    RecordsOk P (autoCirculate s spec env).2 := by
  unfold autoCirculate
  dsimp only
  split
  · exact hs
  · split
    · exact hs.writeRegister.setAuto (hf _ _ (hs spec))
    · exact hs.setAuto (hf _ _ (hs spec))

end Records

/-! ### Transfers -/

/-- The circulators a transfer request may change: the channel's own, and those of its
gang. -/
def InGang (s : NTV2AutoCirc) (spec spec' : NTV2Crosspoint) : Prop :=
  spec' = spec ∨ ∃ k < (s.autoCirculate spec).channelCount.toNat, spec' = gangSpec spec k

/-- A property of circulators that every step of a transfer keeps, on the channels in
`gang`. -/
structure TransferKeeps (P : NTV2Crosspoint → InternalAutoCirculate → Prop)
    (gang : NTV2Crosspoint → Prop) (pTransfer : AutoCirculateTransfer) (env : TransferEnv) :
    Prop where
  find : ∀ spec a f, gang spec → P spec a → P spec (a.setNextTransfer f)
  begins : ∀ spec a f, gang spec → P spec a →
    P spec (beginAutoCircTransfer f pTransfer env a)
  completes : ∀ spec a f u p, gang spec → P spec a → P spec (completeAuto f u p a)
  audio : ∀ spec a, gang spec → P spec a → P spec (autoCircDmaAudioSetup env a).2
  flags : ∀ spec a f, gang spec → P spec a →
    P spec (a.setFrameFlags f pTransfer.acPeerToPeerFlags)

section Transfers

variable {P : NTV2Crosspoint → InternalAutoCirculate → Prop} {gang : NTV2Crosspoint → Prop}
  {pTransfer : AutoCirculateTransfer} {env : TransferEnv} {st : TransferState}

lemma beginAt_records (h : TransferKeeps P gang pTransfer env) {f : ℕ} {spec : NTV2Crosspoint}
    (hspec : gang spec) (hst : RecordsOk P st.sys) :
    RecordsOk P (beginAt pTransfer env f spec st).sys :=
  hst.setAuto (h.begins _ _ f hspec (hst spec))

lemma completeAt_records (h : TransferKeeps P gang pTransfer env) {u p : Bool} {f : ℕ}
    {spec : NTV2Crosspoint} (hspec : gang spec) (hst : RecordsOk P st.sys) :
    RecordsOk P (completeAt u p f spec st).sys :=
  hst.setAuto (h.completes _ _ f u p hspec (hst spec))

lemma audioSetupAt_records (h : TransferKeeps P gang pTransfer env) {spec : NTV2Crosspoint}
    (hspec : gang spec) (hst : RecordsOk P st.sys) :
    RecordsOk P (audioSetupAt env spec st).2.sys :=
  hst.setAuto (h.audio _ _ hspec (hst spec))

lemma noteFields_records (h : TransferKeeps P gang pTransfer env) (f : ℕ) {spec : NTV2Crosspoint}
    (hspec : gang spec) (hst : RecordsOk P st.sys) :
    RecordsOk P (noteFields pTransfer f spec st).sys := by
  unfold noteFields
  dsimp only
  split
  · exact hst
  · exact hst.setAuto (h.flags _ _ _ hspec (hst spec))

lemma dmaFields_records (h : TransferKeeps P gang pTransfer env) {f : ℕ} {spec : NTV2Crosspoint}
    (hspec : gang spec) (hst : RecordsOk P st.sys) :
    RecordsOk P (dmaFields pTransfer env f spec st).2.sys := by
  have hnote := noteFields_records h f hspec hst
  unfold dmaFields
  dsimp only
  split <;> exact hnote

/-- The gang of the request, as a transfer in progress sees it. -/
def GangIn (gang : NTV2Crosspoint → Prop) (spec : NTV2Crosspoint) (st : TransferState) : Prop :=
  ∀ spec', InGang st.sys spec spec' → gang spec'

lemma GangIn.self {spec : NTV2Crosspoint} (h : GangIn gang spec st) : gang spec :=
  h spec (Or.inl rfl)

lemma GangIn.member {spec : NTV2Crosspoint} (h : GangIn gang spec st) {k : ℕ}
    (hk : k < (st.sys.autoCirculate spec).channelCount.toNat) : gang (gangSpec spec k) :=
  h _ (Or.inr ⟨k, hk, rfl⟩)

lemma transferHost_records (h : TransferKeeps P gang pTransfer env) {f stride : ℕ}
    (hgang : GangIn gang pTransfer.acCrosspoint st) (hst : RecordsOk P st.sys) :
    RecordsOk P (transferHost pTransfer env f stride st).st.sys := by
  have hbegun : RecordsOk P (gangLoop
      (fun k spec st => (Ntv2Status.success, beginAt pTransfer env (gangFrame stride f k) spec st))
      (getIndexForNTV2Crosspoint pTransfer.acCrosspoint) 0
      (st.sys.autoCirculate pTransfer.acCrosspoint).channelCount.toNat st).2.sys :=
    gangLoop_invariant (I := fun t : TransferState => RecordsOk P t.sys)
      (fun k _ _ hk ht => beginAt_records h (hgang.member (by omega)) ht) hst
  have hsetup := audioSetupAt_records h hgang.self hbegun
  unfold transferHost
  dsimp only [TransferBranch.ret, dmaFrame]
  split_ifs <;> first | exact hsetup | exact hbegun | exact dmaFields_records h hgang.self hsetup |
    exact dmaFields_records h hgang.self hbegun

lemma transferPrepare_records (h : TransferKeeps P gang pTransfer env) {f : ℕ}
    (hspec : gang pTransfer.acCrosspoint) (hst : RecordsOk P st.sys) :
    RecordsOk P (transferPrepare pTransfer env f st).st.sys := by
  unfold transferPrepare
  dsimp only
  split
  · exact hst
  · exact beginAt_records h hspec hst

lemma transferTransfer_records (h : TransferKeeps P gang pTransfer env) {f : ℕ}
    (hspec : gang pTransfer.acCrosspoint) (hst : RecordsOk P st.sys) :
    RecordsOk P (transferTransfer pTransfer env f st).st.sys := by
  unfold transferTransfer
  dsimp only
  split
  · exact hst
  · split <;> exact beginAt_records h hspec hst

lemma transferBranch_records (h : TransferKeeps P gang pTransfer env) {f stride : ℕ}
    (hgang : GangIn gang pTransfer.acCrosspoint st) (hst : RecordsOk P st.sys) :
    RecordsOk P (transferBranch pTransfer env f stride st).st.sys := by
  unfold transferBranch
  dsimp only
  split_ifs
  · exact transferPrepare_records h hgang.self hst
  · exact beginAt_records h hgang.self hst
  · exact transferTransfer_records h hgang.self hst
  · exact transferHost_records h hgang hst

lemma transferAudio_records (h : TransferKeeps P gang pTransfer env) {b : TransferBranch}
    (hspec : gang pTransfer.acCrosspoint) (hb : RecordsOk P b.st.sys) :
    RecordsOk P (transferAudio pTransfer env b).2.sys := by
  unfold transferAudio
  dsimp only
  split_ifs
  · exact audioSetupAt_records h hspec hb
  · exact audioSetupAt_records h hspec hb
  · exact hb

lemma transferAtFrame_records (h : TransferKeeps P gang pTransfer env) {f : ℕ}
    (hgang : GangIn gang pTransfer.acCrosspoint st) (hst : RecordsOk P st.sys) :
    RecordsOk P (transferAtFrame pTransfer env f st).2.sys := by
  unfold transferAtFrame
  dsimp only
  generalize hb : transferBranch pTransfer env f _ st = b
  have hbranch : RecordsOk P b.st.sys := by
    rw [← hb]
    exact transferBranch_records h hgang hst
  have haudio := transferAudio_records h hgang.self hbranch
  have hanc : RecordsOk P
      (transferAnc pTransfer env f b (transferAudio pTransfer env b).2).2.sys := by
    unfold transferAnc
    dsimp only
    split <;> exact haudio
  split_ifs
  · exact hbranch
  · exact haudio
  · exact hanc
  · exact gangLoop_invariant (I := fun t : TransferState => RecordsOk P t.sys)
      (fun k _ _ hk ht => completeAt_records h (hgang.member (by omega)) ht) hanc

/-- What every step of a transfer keeps on the channels of its gang, the transfer keeps,
however it ends. -/
theorem autoCircTransfer_records {s : NTV2AutoCirc} (out : AutoCirculateTransferStatus)
    (h : TransferKeeps P (InGang s pTransfer.acCrosspoint) pTransfer env) (hs : RecordsOk P s) :
    RecordsOk P (autoCircTransfer s pTransfer env out).2.sys := by
  have hself : InGang s pTransfer.acCrosspoint pTransfer.acCrosspoint := Or.inl rfl
  have hfind : RecordsOk P (s.setAuto pTransfer.acCrosspoint
      (autoCircFindNextAvailFrame (s.autoCirculate pTransfer.acCrosspoint)).2) := by
    refine hs.setAuto ?_
    unfold autoCircFindNextAvailFrame
    split
    · exact h.find _ _ _ hself (hs _)
    · exact hs _
  -- looking for a frame does not change the gang
  have hcount : ((s.setAuto pTransfer.acCrosspoint (autoCircFindNextAvailFrame
      (s.autoCirculate pTransfer.acCrosspoint)).2).autoCirculate
      pTransfer.acCrosspoint).channelCount =
      (s.autoCirculate pTransfer.acCrosspoint).channelCount := by
    rw [setAuto_same]
    unfold autoCircFindNextAvailFrame
    split <;> rfl
  have hgang : ∀ spec', InGang (s.setAuto pTransfer.acCrosspoint (autoCircFindNextAvailFrame
      (s.autoCirculate pTransfer.acCrosspoint)).2) pTransfer.acCrosspoint spec' →
      InGang s pTransfer.acCrosspoint spec' := by
    unfold InGang
    rw [hcount]
    exact fun _ => id
  unfold autoCircTransfer
  dsimp only
  split_ifs <;> first | exact hs | exact hfind | exact transferAtFrame_records h hgang hfind |
    exact transferAtFrame_records h (fun _ => id) hs

/-- Flags for a transfer between devices, which takes a single channel. -/
def p2pNeedsSingle (flags : ℕ) : Bool :=
  hasFlag flags autocirculateP2PPrepare || hasFlag flags autocirculateP2PTarget ||
    (!hasFlag flags autocirculateP2PComplete && hasFlag flags autocirculateP2PTransfer)

/-- A request passes every test before `BeginAutoCircTransfer`. -/
def TransferBegins (s : NTV2AutoCirc) (pTransfer : AutoCirculateTransfer) (env : TransferEnv) :
    Prop :=
  let pAuto := s.autoCirculate pTransfer.acCrosspoint
  illegalChannelSpec pTransfer.acCrosspoint = false ∧ transferNotReady pAuto = false ∧
    transferOffsetBad pTransfer env = false ∧
    transferFrameNumber pTransfer pAuto ≠ ntv2InvalidFrame ∧
    (p2pNeedsSingle pTransfer.acPeerToPeerFlags = true → pAuto.channelCount = 1)

/-- A request that gets no further: no transfer has started, the caller is told so, and
the driver has at most looked for a frame. -/
structure TurnedAway (s : NTV2AutoCirc) (spec : NTV2Crosspoint) (r : Ntv2Status × TransferState) :
    Prop where
  sys : r.2.sys = s ∨
    r.2.sys = s.setAuto spec (autoCircFindNextAvailFrame (s.autoCirculate spec)).2
  frames : ∀ x ∈ r.2.frames, x.1 = spec ∧ x.2 ∈ findNextAvailFrames (s.autoCirculate spec)
  dma : r.2.dma = []
  told : r.1 ≠ .success ∨ r.2.acTransferStatus.acTransferFrame = ntv2InvalidFrame

/-- A gang that asks for a transfer between devices is turned away. -/
lemma transferAtFrame_gang {f : ℕ}
    (hcount : (st.sys.autoCirculate pTransfer.acCrosspoint).channelCount ≠ 1)
    (hp2p : p2pNeedsSingle pTransfer.acPeerToPeerFlags = true) :
    transferAtFrame pTransfer env f st = (.badParameter, st) := by
  unfold p2pNeedsSingle at hp2p
  unfold transferAtFrame transferBranch transferPrepare transferTransfer
  dsimp only
  by_cases hprep : (hasFlag pTransfer.acPeerToPeerFlags autocirculateP2PPrepare ||
      hasFlag pTransfer.acPeerToPeerFlags autocirculateP2PTarget) = true
  · simp [hprep, hcount, TransferBranch.ret]
  · simp only [Bool.not_eq_true] at hprep
    simp only [hprep, Bool.false_or, Bool.and_eq_true, Bool.not_eq_true'] at hp2p
    simp [hprep, hp2p.1, hp2p.2, hcount, TransferBranch.ret]

lemma channelCount_find (a : InternalAutoCirculate) :
    (autoCircFindNextAvailFrame a).2.channelCount = a.channelCount := by
  unfold autoCircFindNextAvailFrame
  split <;> rfl

/-- The request once the frame is settled: a frame was looked for, or none. -/
structure AfterFind (s : NTV2AutoCirc) (spec : NTV2Crosspoint) (st : TransferState) : Prop where
  sys : st.sys = s ∨
    st.sys = s.setAuto spec (autoCircFindNextAvailFrame (s.autoCirculate spec)).2
  frames : ∀ x ∈ st.frames, x.1 = spec ∧ x.2 ∈ findNextAvailFrames (s.autoCirculate spec)
  dma : st.dma = []

/-- A request is turned away, or goes on with its frame settled. -/
lemma autoCircTransfer_cases (s : NTV2AutoCirc) (pTransfer : AutoCirculateTransfer)
    (env : TransferEnv) (out : AutoCirculateTransferStatus) :
    ¬ TransferBegins s pTransfer env ∧
        TurnedAway s pTransfer.acCrosspoint (autoCircTransfer s pTransfer env out) ∨
      TransferBegins s pTransfer env ∧ ∃ st, AfterFind s pTransfer.acCrosspoint st ∧
        autoCircTransfer s pTransfer env out = transferAtFrame pTransfer env
          (transferFrameNumber pTransfer (s.autoCirculate pTransfer.acCrosspoint)) st := by
  unfold TransferBegins
  unfold autoCircTransfer
  dsimp only
  split
  · next hlegal =>
    exact Or.inl ⟨by simp [hlegal], Or.inl rfl, by simp, rfl, Or.inl (by simp)⟩
  · next hlegal =>
    split
    · next hready =>
      exact Or.inl ⟨by simp [hready], Or.inl rfl, by simp [TransferState.noFrame], rfl, Or.inr rfl⟩
    · next hready =>
      generalize hst : (if toUInt32 pTransfer.acDesiredFrame = ntv2InvalidFrame then
        ((TransferState.setAuto ⟨s, out, pTransfer.acPeerToPeerFlags, [], []⟩
          pTransfer.acCrosspoint _).touch pTransfer.acCrosspoint _) else _) = st
      have hfind : AfterFind s pTransfer.acCrosspoint st := by
        rw [← hst]
        split
        · exact ⟨Or.inr rfl, by simp [TransferState.touch, TransferState.setAuto], rfl⟩
        · exact ⟨Or.inl rfl, by simp, rfl⟩
      have hcount : (st.sys.autoCirculate pTransfer.acCrosspoint).channelCount =
          (s.autoCirculate pTransfer.acCrosspoint).channelCount := by
        rcases hfind.sys with h | h <;> rw [h]
        rw [setAuto_same, channelCount_find]
      split
      · next hoffset =>
        exact Or.inl ⟨by simp [hoffset], hfind.sys, hfind.frames, hfind.dma, Or.inr rfl⟩
      · next hoffset =>
        split
        · next hframe =>
          exact Or.inl ⟨by simp [hframe], hfind.sys, hfind.frames, hfind.dma, Or.inr rfl⟩
        · next hframe =>
          by_cases hp2p : p2pNeedsSingle pTransfer.acPeerToPeerFlags = true ∧
              (s.autoCirculate pTransfer.acCrosspoint).channelCount ≠ 1
          · rw [transferAtFrame_gang (by rw [hcount]; exact hp2p.2) hp2p.1]
            refine Or.inl ⟨fun h => hp2p.2 (h.2.2.2.2 hp2p.1), hfind.sys, hfind.frames, hfind.dma,
              Or.inl (by simp)⟩
          · refine Or.inr ⟨⟨?_, ?_, ?_, hframe, fun h => ?_⟩, st, hfind, rfl⟩
            · simpa using hlegal
            · simpa using hready
            · simpa using hoffset
            · by_contra hone
              exact hp2p ⟨h, hone⟩

end Transfers

/-! ### Calls -/

/-- What can happen to the driver. -/
inductive Call where
  | init (args : InitArgs)
  | start (channelSpec : NTV2Crosspoint) (startTime : Int)
  | stop (channelSpec : NTV2Crosspoint)
  | abort (channelSpec : NTV2Crosspoint)
  | pause (channelSpec : NTV2Crosspoint) (bPlay bClearDF : Bool)
  | flush (channelSpec : NTV2Crosspoint) (bClearDF : Bool)
  | preroll (channelSpec : NTV2Crosspoint) (lPrerollFrames : Int)
  | setActiveFrame (channelSpec : NTV2Crosspoint) (lActiveFrame : Int)
  | tick (channelSpec : NTV2Crosspoint) (env : TickEnv)
  /-- The first half of a transfer, on one channel. -/
  | beginTransfer (channelSpec : NTV2Crosspoint) (frameNumber : ℕ)
      (pTransfer : AutoCirculateTransfer) (env : TransferEnv)
  /-- The second half of a transfer, on one channel. -/
  | completeTransfer (channelSpec : NTV2Crosspoint) (frameNumber : ℕ)
      (updateValid transferPending : Bool)
  /-- A whole transfer, with no interrupt in between. -/
  | transfer (pTransfer : AutoCirculateTransfer) (env : TransferEnv)
      (out : AutoCirculateTransferStatus)
  /-- Someone writes a hardware register. -/
  | writeRegister (reg value : ℕ)
  /-- Someone chooses the synchronised pair, or none. -/
  | syncChannels (on : Bool) (sync1 sync2 : NTV2Crosspoint)

/-- The system after a call. -/
def Call.run (s : NTV2AutoCirc) : Call → NTV2AutoCirc
  | .init args => (autoCircInit s args).2
  | .start channelSpec startTime => (autoCircStart s channelSpec startTime).2
  | .stop channelSpec => (autoCircStop s channelSpec).2
  | .abort channelSpec => (autoCircAbort s channelSpec).2
  | .pause channelSpec bPlay bClearDF => (autoCircPause s channelSpec bPlay bClearDF).2
  | .flush channelSpec bClearDF => (autoCircFlush s channelSpec bClearDF).2
  | .preroll channelSpec lPrerollFrames => (autoCircPreroll s channelSpec lPrerollFrames).2
  | .setActiveFrame channelSpec lActiveFrame => (autoCircSetActiveFrame s channelSpec lActiveFrame).2
  | .tick channelSpec env => (autoCirculate s channelSpec env).2
  | .beginTransfer channelSpec frameNumber pTransfer env =>
      s.setAuto channelSpec
        (beginAutoCircTransfer frameNumber pTransfer env (s.autoCirculate channelSpec))
  | .completeTransfer channelSpec frameNumber updateValid transferPending =>
      s.setAuto channelSpec
        (completeAuto frameNumber updateValid transferPending (s.autoCirculate channelSpec))
  | .transfer pTransfer env out => (autoCircTransfer s pTransfer env out).2.sys
  | .writeRegister reg value => s.writeRegister reg value
  | .syncChannels on sync1 sync2 =>
      { s with vRegSyncChannels := on, syncChannel1 := sync1, syncChannel2 := sync2 }

/-- What the commands and the transfers do to a circulator stays within a relation. -/
structure OpsWithin (R : InternalAutoCirculate → InternalAutoCirculate → Prop) : Prop where
  start : ∀ a t, R a (startAuto t a)
  stop : ∀ a, R a (stopAuto a)
  abort : ∀ a, R a (abortAuto a)
  pause : ∀ a bPlay bClearDF, R a (pauseAuto bPlay bClearDF a)
  flush : ∀ a bClearDF reg, R a (flushAuto bClearDF reg a)
  preroll : ∀ a n f, R a (prerollAuto n (a.setNextTransfer f))
  active : ∀ a f, R a { a with activeFrame := f }
  find : ∀ a f, R a (a.setNextTransfer f)
  begins : ∀ a f p env, R a (beginAutoCircTransfer f p env a)
  completes : ∀ a f u p, R a (completeAuto f u p a)
  audio : ∀ a env, R a (autoCircDmaAudioSetup env a).2
  flags : ∀ a f flags, R a (a.setFrameFlags f flags)

/-- No command and no transfer changes the ring of a circulator. -/
lemma opsWithin_sameRing : OpsWithin SameRing where
  start a t := sameRing_startAuto a t
  stop a := (unmoved_stopAuto a).toSameRing
  abort a := (unmoved_abortAuto a).toSameRing
  pause a bPlay bClearDF := (unmoved_pauseAuto bPlay bClearDF a).toSameRing
  flush a bClearDF reg := (unmoved_flushAuto bClearDF reg a).toSameRing
  preroll a n f := ((unmoved_setNextTransfer a f).trans (unmoved_prerollAuto n _)).toSameRing
  active a f := sameRing_activeFrame a f
  find a f := (unmoved_setNextTransfer a f).toSameRing
  begins a f p env := (unmoved_begin f p env a).toSameRing
  completes a f u p := (unmoved_completeAuto f u p a).toSameRing
  audio a env := (unmoved_audioSetup env a).toSameRing
  flags a f flags := (unmoved_setFrameFlags f flags a).toSameRing

/-- What the relation keeps, every call keeps, as long as `AutoCircInit` and the interrupt
do. -/
lemma OpsWithin.call {R : InternalAutoCirculate → InternalAutoCirculate → Prop}
    (h : OpsWithin R) {P : NTV2Crosspoint → InternalAutoCirculate → Prop} {s : NTV2AutoCirc}
    {c : Call} (hkeep : ∀ spec a b, R a b → P spec a → P spec b)
    (hinit : ∀ args, c = .init args → RecordsOk P (autoCircInit s args).2)
    (htick : ∀ spec env, c = .tick spec env → RecordsOk P (autoCirculate s spec env).2)
    (hs : RecordsOk P s) : RecordsOk P (c.run s) := by
  have hkeeps : ∀ gang p env, TransferKeeps P gang p env := fun gang p env =>
    { find := fun _ a f _ ha => hkeep _ _ _ (h.find a f) ha
      begins := fun _ a f _ ha => hkeep _ _ _ (h.begins a f p env) ha
      completes := fun _ a f u q _ ha => hkeep _ _ _ (h.completes a f u q) ha
      audio := fun _ a _ ha => hkeep _ _ _ (h.audio a env) ha
      flags := fun _ a f _ ha => hkeep _ _ _ (h.flags a f _) ha }
  cases c with
  | init args => exact hinit args rfl
  | start spec t => exact autoCircStart_records (fun _ a ha => hkeep _ _ _ (h.start a t) ha) hs
  | stop spec => exact autoCircStop_records (fun _ a ha => hkeep _ _ _ (h.stop a) ha) hs
  | abort spec => exact autoCircAbort_records (fun _ a ha => hkeep _ _ _ (h.abort a) ha) hs
  | pause spec bPlay bClearDF =>
      exact autoCircPause_records (fun _ a ha => hkeep _ _ _ (h.pause a bPlay bClearDF) ha) hs
  | flush spec bClearDF =>
      exact autoCircFlush_records (fun _ reg a ha => hkeep _ _ _ (h.flush a bClearDF reg) ha) hs
  | preroll spec n =>
      show RecordsOk P (autoCircPreroll s spec n).2
      rcases autoCircPreroll_cases s spec n with hp | ⟨-, hp⟩ <;> rw [hp]
      · exact hs
      · refine gangLoop_invariant (fun _ _ _ _ ht =>
          prerollMember_records (fun f _ _ ha => ?_) ht) hs
        exact hkeep _ _ _ (h.preroll _ n f) ha
  | setActiveFrame spec f =>
      exact autoCircSetActiveFrame_records
        (fun _ _ _ _ _ a ha => hkeep _ a _ (h.active a _) ha) hs
  | tick spec env => exact htick spec env rfl
  | beginTransfer spec f p env => exact hs.setAuto (hkeep _ _ _ (h.begins _ f p env) (hs spec))
  | completeTransfer spec f u p => exact hs.setAuto (hkeep _ _ _ (h.completes _ f u p) (hs spec))
  | transfer p env out => exact autoCircTransfer_records out (hkeeps _ p env) hs
  | writeRegister reg value => exact hs
  | syncChannels on sync1 sync2 => exact hs

/-- What depends on the ring of a circulator alone, every call keeps, as long as the
circulators `AutoCircInit` fills in have it. -/
lemma ring_call {P : NTV2Crosspoint → InternalAutoCirculate → Prop} {s : NTV2AutoCirc} {c : Call}
    (hring : ∀ spec a b, SameRing a b → P spec a → P spec b)
    (hinit : ∀ args, c = .init args → ∀ k < args.lChannelCount.toNat, InitParamsOk args →
      P (gangSpec args.lChannelSpec k) (initAuto args s k (gangSpec args.lChannelSpec k)))
    (hs : RecordsOk P s) : RecordsOk P (c.run s) := by
  refine opsWithin_sameRing.call hring (fun args hc => ?_) (fun spec env _ => ?_) hs
  · exact autoCircInit_records (hinit args hc) hs
  · exact autoCirculate_records
      (fun partner reg h => hring _ _ _ (sameRing_tickAuto env partner reg _) h) hs

/-- No channel has been used. -/
def AtRest (s : NTV2AutoCirc) : Prop := ∀ spec, s.autoCirculate spec = InternalAutoCirculate.zero

end LibAjaNtv2
