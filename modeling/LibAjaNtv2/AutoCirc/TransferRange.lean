import LibAjaNtv2.AutoCirc.InitRange

/-!
The frames a transfer request indexes.

* `InOrder`: what a run leaves of every channel, and what a request relies on;
* `StaysInside`: the request indexes frames of the ring only, and one that names
  another frame is refused;
* `TransferFits`: the frame of the request is one of the ring, wherever it is used;
* `Inside`: what a request in progress keeps as long as the frame fits;
* `Grows`: what a request in progress cannot take back;
* `autoCircTransfer_inside_iff`: **when a request stays inside the ring**.
-/

namespace LibAjaNtv2

open NTV2AutoCirculateState

/-! ### What a request relies on -/

/-- What a transfer on a channel relies on: every circulator has its frames inside the
array, and the channel is not a second member of its own gang. -/
structure InOrder (s : NTV2AutoCirc) (spec : NTV2Crosspoint) : Prop where
  ranges : ∀ spec', (s.autoCirculate spec').RangeOk
  audio : (s.autoCirculate spec).circulateWithAudio = true →
    0 < (s.autoCirculate spec).channelCount.toNat
  once : ∀ k, 0 < k → k < (s.autoCirculate spec).channelCount.toNat → gangSpec spec k ≠ spec

/-- Two circulators agree on state, frame range and every counter. -/
def SameCounters (a b : InternalAutoCirculate) : Prop :=
  a.state = b.state ∧ a.startFrame = b.startFrame ∧ a.endFrame = b.endFrame ∧
    a.channelCount = b.channelCount ∧ a.framesProcessed = b.framesProcessed ∧
    a.droppedFrames = b.droppedFrames ∧
    ∀ f, (a.frameStamp f).validCount = (b.frameStamp f).validCount

/-- A refused request: no transfer has started, the caller is told so, and every
channel has its state, frames and counters. -/
structure Refused (s : NTV2AutoCirc) (r : Ntv2Status × TransferState) : Prop where
  dma : r.2.dma = []
  told : r.1 ≠ .success ∨ r.2.acTransferStatus.acTransferFrame = ntv2InvalidFrame
  counters : ∀ spec, SameCounters (r.2.sys.autoCirculate spec) (s.autoCirculate spec)

/-- The request indexes frames of the rings only, and is refused where it names a frame
that is none of the channel's. -/
structure StaysInside (s : NTV2AutoCirc) (pTransfer : AutoCirculateTransfer) (env : TransferEnv)
    (out : AutoCirculateTransferStatus) : Prop where
  frames : ∀ x ∈ (autoCircTransfer s pTransfer env out).2.frames, (s.autoCirculate x.1).Mem x.2
  refused : toUInt32 pTransfer.acDesiredFrame ≠ ntv2InvalidFrame →
    ¬ (s.autoCirculate pTransfer.acCrosspoint).Mem (toUInt32 pTransfer.acDesiredFrame) →
    Refused s (autoCircTransfer s pTransfer env out)

/-- Flags for a transfer between devices that does not send the frame out. -/
def p2pHolds (flags : ℕ) : Bool :=
  hasFlag flags autocirculateP2PPrepare || hasFlag flags autocirculateP2PTarget ||
    hasFlag flags autocirculateP2PComplete

/-- The frame of a request fits where the request uses it: between devices, the frame of
the channel; between device and host, also the frames the gang gets by moving on.  A
capture channel does not look at the frame of a request it turns down. -/
def TransferFits (s : NTV2AutoCirc) (pTransfer : AutoCirculateTransfer) (env : TransferEnv) :
    Prop :=
  let pAuto := s.autoCirculate pTransfer.acCrosspoint
  let frameNumber := transferFrameNumber pTransfer pAuto
  let flags := pTransfer.acPeerToPeerFlags
  TransferBegins s pTransfer env →
    if p2pHolds flags then
      pAuto.recording = true ∨ pAuto.Mem frameNumber
    else if hasFlag flags autocirculateP2PTransfer then
      pAuto.recording = true ∧ (env.boardCanDoP2P && env.p2pCopy) = false ∨ pAuto.Mem frameNumber
    else
      pAuto.Mem frameNumber ∧
        ∀ k, 0 < k → k < pAuto.channelCount.toNat →
          (s.autoCirculate (gangSpec pTransfer.acCrosspoint k)).recording = true ∨
            (s.autoCirculate (gangSpec pTransfer.acCrosspoint k)).Mem
              (gangFrame (toUInt32 (pAuto.endFrame - pAuto.startFrame + 1)) frameNumber k)

/-! ### A request in progress -/

/-- What a request in progress keeps as long as the frame fits. -/
structure Inside (s : NTV2AutoCirc) (st : TransferState) : Prop where
  rings : ∀ spec, SameRing (s.autoCirculate spec) (st.sys.autoCirculate spec)
  frames : ∀ x ∈ st.frames, (s.autoCirculate x.1).Mem x.2

/-- What a request in progress cannot take back: the frames it has indexed, and the
transfers it has started. -/
structure Grows (st st' : TransferState) : Prop where
  frames : ∀ x ∈ st.frames, x ∈ st'.frames
  dma : st'.dma = [] → st.dma = []

section Steps

variable {s : NTV2AutoCirc} {st st' st'' : TransferState} {spec : NTV2Crosspoint}
  {pTransfer : AutoCirculateTransfer} {env : TransferEnv}

lemma Inside.touch (h : Inside s st) {fs : List Int} (hfs : ∀ f ∈ fs, (s.autoCirculate spec).Mem f) :
    Inside s (st.touch spec fs) where
  rings := h.rings
  frames x hx := by
    unfold TransferState.touch at hx
    simp only [List.mem_append, List.mem_map] at hx
    rcases hx with hx | ⟨f, hf, rfl⟩
    · exact h.frames x hx
    · exact hfs f hf

lemma Inside.setAuto (h : Inside s st) {a : InternalAutoCirculate}
    (ha : SameRing (st.sys.autoCirculate spec) a) : Inside s (st.setAuto spec a) where
  rings spec' := by
    by_cases hs : spec' = spec
    · subst hs
      show SameRing _ ((st.sys.setAuto spec' a).autoCirculate spec')
      rw [setAuto_same]
      exact (h.rings spec').trans ha
    · show SameRing _ ((st.sys.setAuto spec a).autoCirculate spec')
      rw [setAuto_of_ne _ _ _ hs]
      exact h.rings spec'
  frames := h.frames

lemma Grows.refl (st : TransferState) : Grows st st := ⟨fun _ => id, id⟩

lemma Grows.trans (h₁ : Grows st st') (h₂ : Grows st' st'') : Grows st st'' :=
  ⟨fun x hx => h₂.frames x (h₁.frames x hx), fun h => h₁.dma (h₂.dma h)⟩

lemma grows_touch (st : TransferState) (spec : NTV2Crosspoint) (fs : List Int) :
    Grows st (st.touch spec fs) :=
  ⟨fun _ hx => List.mem_append_left _ hx, id⟩

lemma grows_setAuto (st : TransferState) (spec : NTV2Crosspoint) (a : InternalAutoCirculate) :
    Grows st (st.setAuto spec a) := ⟨fun _ => id, id⟩

lemma grows_autoDma (env : TransferEnv) (p : AutoDmaParams) (st : TransferState) :
    Grows st (autoDmaTransfer env p st).2 :=
  ⟨fun _ => id, fun h => absurd h (by simp [autoDmaTransfer])⟩

lemma dma_autoDma (env : TransferEnv) (p : AutoDmaParams) (st : TransferState) :
    (autoDmaTransfer env p st).2.dma ≠ [] := by
  simp [autoDmaTransfer]

/-- `BeginAutoCircTransfer` indexes the frame on a playout channel. -/
lemma Inside.begins (h : Inside s st) {f : ℕ}
    (hf : (s.autoCirculate spec).recording = true ∨ (s.autoCirculate spec).Mem f) :
    Inside s (beginAt pTransfer env f spec st) := by
  refine (h.setAuto (unmoved_begin f pTransfer env _).toSameRing).touch fun g hg => ?_
  unfold beginFrames at hg
  rw [(h.rings spec).recording] at hg
  split at hg
  · simp at hg
  · next hrec =>
    rw [List.mem_singleton] at hg
    rw [hg]
    exact hf.resolve_left hrec

lemma grows_begins (f : ℕ) : Grows st (beginAt pTransfer env f spec st) :=
  (grows_setAuto _ _ _).trans (grows_touch _ _ _)

/-- A playout channel's frame is among those indexed. -/
lemma mem_begins (pTransfer : AutoCirculateTransfer) (env : TransferEnv) (f : ℕ)
    (hrings : SameRing (s.autoCirculate spec) (st.sys.autoCirculate spec))
    (hrec : (s.autoCirculate spec).recording = false) :
    (spec, (f : Int)) ∈ (beginAt pTransfer env f spec st).frames := by
  have hplay := hrings.recording.trans hrec
  unfold beginAt TransferState.touch beginFrames
  simp [hplay]

/-- `CompleteAutoCircTransfer` indexes frames of the ring only, whatever the frame. -/
lemma Inside.completes (h : Inside s st) (hr : (s.autoCirculate spec).RangeOk) (u p : Bool) (f : ℕ) :
    Inside s (completeAt u p f spec st) := by
  have hcomplete := unmoved_completeAuto f u p (st.sys.autoCirculate spec)
  have hring := (h.rings spec).trans hcomplete.toSameRing
  have hset : Inside s { st.setAuto spec (completeAuto f u p (st.sys.autoCirculate spec)) with
      acTransferStatus := (completeAutoCircTransfer f st.acTransferStatus
        (st.sys.autoCirculate spec) u p).1 } :=
    ⟨(h.setAuto hcomplete.toSameRing).rings, h.frames⟩
  refine hset.touch fun g hg => ?_
  rw [← hring.mem]
  have hrange := hring.rangeOk hr
  unfold completeFrames at hg
  simp only [List.mem_append] at hg
  rcases hg with (hg | hg) | hg
  · split at hg
    · next hin =>
      rw [List.mem_singleton] at hg
      rw [hg]
      exact hrange.completeInRange_iff.mp hin
    · simp at hg
  · exact mem_bufferLevelFrames hrange hg
  · split at hg
    · next hin =>
      rw [List.mem_singleton] at hg
      rw [hg]
      exact hrange.completeInRange_iff.mp hin
    · simp at hg

lemma grows_completes (u p : Bool) (f : ℕ) : Grows st (completeAt u p f spec st) :=
  ⟨(grows_touch _ _ _).frames, id⟩

/-- `AutoCircDmaAudioSetup` indexes the frame of the transfer. -/
lemma Inside.audioSetup (h : Inside s st)
    (hf : (s.autoCirculate spec).circulateWithAudio = true →
      (s.autoCirculate spec).Mem (st.sys.autoCirculate spec).transferFrame) :
    Inside s (audioSetupAt env spec st).2 := by
  refine (h.setAuto (unmoved_audioSetup env _).toSameRing).touch fun g hg => ?_
  rw [(h.rings spec).withAudio] at hg
  split at hg
  · next ha =>
    rw [List.mem_singleton] at hg
    rw [hg]
    exact hf ha
  · simp at hg

lemma grows_audioSetup : Grows st (audioSetupAt env spec st).2 :=
  (grows_setAuto _ _ _).trans (grows_touch _ _ _)

lemma Inside.autoDma (h : Inside s st) (env : TransferEnv) (p : AutoDmaParams) :
    Inside s (autoDmaTransfer env p st).2 := ⟨h.rings, h.frames⟩

/-- The DMA field by field indexes the frame of the request. -/
lemma Inside.fields (h : Inside s st) {f : ℕ} (hf : (s.autoCirculate spec).Mem f) :
    Inside s (dmaFields pTransfer env f spec st).2 := by
  have hone : ∀ g ∈ [(f : Int)], (s.autoCirculate spec).Mem g := by
    intro g hg
    rw [List.mem_singleton] at hg
    rwa [hg]
  have hfields : ∀ g ∈ transferFieldsFrames pTransfer env f, (s.autoCirculate spec).Mem g := by
    intro g hg
    unfold transferFieldsFrames at hg
    split at hg
    · simp at hg
    · exact hone g hg
  have hnote : Inside s (noteFields pTransfer f spec st) := by
    unfold noteFields
    dsimp only
    split
    · exact h
    · exact (h.setAuto (unmoved_setFrameFlags _ _ _).toSameRing).touch hone
  have hdma := (hnote.touch hfields).autoDma env
    (frameParams f (st.sys.autoCirculate spec))
  unfold dmaFields
  dsimp only
  split
  · refine Inside.touch ?_ hone
    exact ⟨hdma.rings, hdma.frames⟩
  · exact (hdma.touch hfields).autoDma env _

/-- The DMA field by field starts a transfer. -/
lemma grows_fields (f : ℕ) : Grows st (dmaFields pTransfer env f spec st).2 ∧
    (dmaFields pTransfer env f spec st).2.dma ≠ [] := by
  have hnote : Grows st (noteFields pTransfer f spec st) := by
    unfold noteFields
    dsimp only
    split
    · exact .refl st
    · exact (grows_setAuto _ _ _).trans (grows_touch _ _ _)
  have hdma := (hnote.trans (grows_touch _ spec (transferFieldsFrames pTransfer env f))).trans
    (grows_autoDma env (frameParams f (st.sys.autoCirculate spec)) _)
  unfold dmaFields
  dsimp only
  split
  · refine ⟨hdma.trans ⟨(grows_touch _ _ _).frames, fun h => h⟩, ?_⟩
    exact dma_autoDma env (frameParams f (st.sys.autoCirculate spec)) _
  · refine ⟨(hdma.trans (grows_touch _ spec _)).trans (grows_autoDma env _ _), ?_⟩
    simp [autoDmaTransfer]

end Steps

/-! ### The gang of a request -/

section Gang

variable {s : NTV2AutoCirc} {st : TransferState} {spec : NTV2Crosspoint}
  {pTransfer : AutoCirculateTransfer} {env : TransferEnv} {stride f : ℕ}

/-- `BeginAutoCircTransfer` for the members of a gang. -/
def beginGang (pTransfer : AutoCirculateTransfer) (env : TransferEnv) (stride f : ℕ)
    (spec : NTV2Crosspoint) (k n : ℕ) (st : TransferState) : TransferState :=
  (gangLoop (fun k spec st => (.success, beginAt pTransfer env (gangFrame stride f k) spec st))
    (getIndexForNTV2Crosspoint spec) k n st).2

/-- The loop takes its members one at a time. -/
lemma beginGang_succ (k n : ℕ) : beginGang pTransfer env stride f spec k (n + 1) st =
    beginGang pTransfer env stride f spec (k + 1) n
      (beginAt pTransfer env (gangFrame stride f k) (gangSpec spec k) st) := by
  unfold beginGang
  rw [gangLoop]
  simp only [if_true]
  rfl

/-- The members of a gang get frames of their own rings. -/
lemma Inside.beginGang (h : Inside s st) {k n : ℕ}
    (hf : ∀ j, k ≤ j → j < k + n → (s.autoCirculate (gangSpec spec j)).recording = true ∨
      (s.autoCirculate (gangSpec spec j)).Mem (gangFrame stride f j)) :
    Inside s (beginGang pTransfer env stride f spec k n st) :=
  gangLoop_invariant (I := fun t : TransferState => Inside s t)
    (fun j _ hj hjn ht => ht.begins (hf j hj hjn)) h

lemma grows_beginGang (k n : ℕ) : Grows st (beginGang pTransfer env stride f spec k n st) :=
  gangLoop_invariant (I := fun t : TransferState => Grows st t)
    (fun _ _ _ _ ht => ht.trans (grows_begins _)) (.refl st)

/-- The loop changes no ring. -/
lemma sameRing_beginGang (pTransfer : AutoCirculateTransfer) (env : TransferEnv)
    (stride f : ℕ) (st : TransferState) (spec : NTV2Crosspoint) (k n : ℕ) (spec' : NTV2Crosspoint) :
    SameRing (st.sys.autoCirculate spec')
      ((beginGang pTransfer env stride f spec k n st).sys.autoCirculate spec') := by
  refine gangLoop_invariant (I := fun t : TransferState =>
    SameRing (st.sys.autoCirculate spec') (t.sys.autoCirculate spec'))
    (fun j t _ _ ht => ?_) (.refl _)
  have hbegin := unmoved_begin (gangFrame stride f j) pTransfer env (t.sys.autoCirculate spec')
  show SameRing _ ((t.sys.setAuto _ _).autoCirculate spec')
  by_cases hs : spec' = getNTV2CrosspointForIndex (getIndexForNTV2Crosspoint spec + j)
  · rw [← hs, setAuto_same]
    exact ht.trans hbegin.toSameRing
  · rw [setAuto_of_ne _ _ _ hs]
    exact ht

/-- Every playout member's frame is among those indexed. -/
lemma mem_beginGang (pTransfer : AutoCirculateTransfer) (env : TransferEnv) (stride f : ℕ)
    (hrings : ∀ spec', SameRing (s.autoCirculate spec') (st.sys.autoCirculate spec'))
    {k n j : ℕ} (hj : k ≤ j) (hjn : j < k + n)
    (hrec : (s.autoCirculate (gangSpec spec j)).recording = false) :
    (gangSpec spec j, (gangFrame stride f j : Int)) ∈
      (beginGang pTransfer env stride f spec k n st).frames := by
  induction n generalizing k st with
  | zero => omega
  | succ n ih =>
      rw [beginGang_succ]
      rcases Nat.eq_or_lt_of_le hj with rfl | hlt
      · exact (grows_beginGang _ _).frames _ (mem_begins _ _ _ (hrings _) hrec)
      · refine ih (fun spec' => ?_) hlt (by omega)
        have hone := sameRing_beginGang pTransfer env stride f st spec k 1 spec'
        rw [beginGang_succ] at hone
        exact (hrings spec').trans hone

lemma gangFrame_zero (hf : f < 2 ^ 32) : gangFrame stride f 0 = f := by
  unfold gangFrame
  rw [Nat.mul_zero, Nat.zero_add, Nat.mod_eq_of_lt hf]

/-- `BeginAutoCircTransfer` notes the frame of the transfer. -/
@[simp] lemma transferFrame_begin (a : InternalAutoCirculate) :
    (beginAutoCircTransfer f pTransfer env a).transferFrame = f := by
  unfold beginAutoCircTransfer
  dsimp only
  split
  · split <;> rfl
  · rfl

@[simp] lemma transferFrame_beginAt :
    ((beginAt pTransfer env f spec st).sys.autoCirculate spec).transferFrame = f := by
  show ((st.sys.setAuto spec _).autoCirculate spec).transferFrame = f
  rw [setAuto_same, transferFrame_begin]

/-- The channel itself keeps the frame of the request, as it comes once. -/
lemma transferFrame_beginGang {n : ℕ} (hn : 0 < n) (hlegal : illegalChannelSpec spec = false)
    (hf : f < 2 ^ 32) (honce : ∀ k, 0 < k → k < n → gangSpec spec k ≠ spec) :
    ((beginGang pTransfer env stride f spec 0 n st).sys.autoCirculate spec).transferFrame = f := by
  obtain ⟨m, rfl⟩ : ∃ m, n = m + 1 := ⟨n - 1, by omega⟩
  rw [beginGang_succ, gangSpec_zero hlegal]
  refine gangLoop_invariant (I := fun t : TransferState =>
    (t.sys.autoCirculate spec).transferFrame = f) (fun j t hj hjn ht => ?_) ?_
  · show ((t.sys.setAuto _ _).autoCirculate spec).transferFrame = f
    have hne : getNTV2CrosspointForIndex (getIndexForNTV2Crosspoint spec + j) ≠ spec :=
      honce j (by omega) (by omega)
    rw [setAuto_of_ne _ _ _ hne.symm]
    exact ht
  · rw [gangFrame_zero hf, transferFrame_beginAt]

end Gang

/-! ### The branches -/

section Branches

variable {s : NTV2AutoCirc} {st : TransferState} {pTransfer : AutoCirculateTransfer}
  {env : TransferEnv} {stride f : ℕ}

/-- The audio is set up exactly on a channel that has some. -/
lemma audioSetupAt_done (env : TransferEnv) (spec : NTV2Crosspoint) (st : TransferState) :
    (audioSetupAt env spec st).1 = (st.sys.autoCirculate spec).circulateWithAudio := by
  unfold audioSetupAt autoCircDmaAudioSetup
  dsimp only
  cases (st.sys.autoCirculate spec).circulateWithAudio <;> simp
  split <;> rfl

/-- The start of a transfer between device and host: the gang has begun, and the audio of
the channel is set up. -/
def hostSetup (pTransfer : AutoCirculateTransfer) (env : TransferEnv) (stride f : ℕ)
    (st : TransferState) : TransferState :=
  let spec := pTransfer.acCrosspoint
  let begun := beginGang pTransfer env stride f spec 0
    (st.sys.autoCirculate spec).channelCount.toNat st
  if (st.sys.autoCirculate spec).circulateWithAudio then (audioSetupAt env spec begun).2 else begun

/-- A transfer between device and host goes on to its DMA. -/
lemma transferHost_eq : transferHost pTransfer env f stride st =
    let pAuto := st.sys.autoCirculate pTransfer.acCrosspoint
    let r :=
      if pAuto.circulateWithFields then
        dmaFields pTransfer env f pTransfer.acCrosspoint (hostSetup pTransfer env stride f st)
      else dmaFrame env f pTransfer.acCrosspoint (hostSetup pTransfer env stride f st)
    ⟨false, r.1, true, false, pAuto.circulateWithAudio, pAuto.circulateWithCustomAncData, r.2⟩ := by
  have haudio := (sameRing_beginGang pTransfer env stride f st pTransfer.acCrosspoint 0
    (st.sys.autoCirculate pTransfer.acCrosspoint).channelCount.toNat
    pTransfer.acCrosspoint).withAudio
  have hdone := audioSetupAt_done env pTransfer.acCrosspoint (beginGang pTransfer env stride f
    pTransfer.acCrosspoint 0 (st.sys.autoCirculate pTransfer.acCrosspoint).channelCount.toNat st)
  rw [haudio] at hdone
  unfold beginGang at hdone
  unfold transferHost hostSetup beginGang
  dsimp only
  cases hw : (st.sys.autoCirculate pTransfer.acCrosspoint).circulateWithAudio with
  | false => simp
  | true =>
      rw [hw] at hdone
      simp [hdone]

/-- The DMA of a transfer between device and host. -/
lemma host_grows (pTransfer : AutoCirculateTransfer) (env : TransferEnv)
    (stride f : ℕ) (st : TransferState) :
    Grows (hostSetup pTransfer env stride f st) (transferHost pTransfer env f stride st).st ∧
    (transferHost pTransfer env f stride st).st.dma ≠ [] := by
  rw [transferHost_eq]
  dsimp only
  split
  · exact grows_fields _
  · exact ⟨grows_autoDma _ _ _, dma_autoDma _ _ _⟩

lemma grows_hostSetup (pTransfer : AutoCirculateTransfer) (env : TransferEnv)
    (stride f : ℕ) (st : TransferState) :
    Grows (beginGang pTransfer env stride f pTransfer.acCrosspoint 0
      (st.sys.autoCirculate pTransfer.acCrosspoint).channelCount.toNat st)
    (hostSetup pTransfer env stride f st) := by
  unfold hostSetup
  dsimp only
  split
  · exact grows_audioSetup
  · exact .refl _

/-- Between devices, a request begins on the channel only; a capture channel then turns
down one that does not send the frame out. -/
lemma transferBranch_holds (env : TransferEnv) (stride f : ℕ) (st : TransferState)
    (hflags : p2pHolds pTransfer.acPeerToPeerFlags = true)
    (hcount : p2pNeedsSingle pTransfer.acPeerToPeerFlags = true →
      (st.sys.autoCirculate pTransfer.acCrosspoint).channelCount = 1) :
    (transferBranch pTransfer env f stride st).st =
        beginAt pTransfer env f pTransfer.acCrosspoint st ∧
      ((st.sys.autoCirculate pTransfer.acCrosspoint).recording = true →
        (transferBranch pTransfer env f stride st).status = .badParameter) := by
  unfold p2pHolds at hflags
  unfold p2pNeedsSingle at hcount
  unfold transferBranch
  dsimp only
  split
  · next hprep =>
    have hone := hcount (by rw [hprep]; rfl)
    unfold transferPrepare
    dsimp only
    rw [if_neg (by simp [hone])]
    exact ⟨rfl, fun hrec => by simp [hrec]⟩
  · next hprep =>
    rw [Bool.not_eq_true] at hprep
    rw [hprep, Bool.false_or] at hflags
    rw [if_pos hflags]
    exact ⟨rfl, fun hrec => by simp [transferComplete, hrec]⟩

/-- A request to send the frame to another device. -/
lemma transferBranch_sends (env : TransferEnv) (stride f : ℕ) (st : TransferState)
    (hflags : p2pHolds pTransfer.acPeerToPeerFlags = false)
    (hsend : hasFlag pTransfer.acPeerToPeerFlags autocirculateP2PTransfer = true)
    (hcount : (st.sys.autoCirculate pTransfer.acCrosspoint).channelCount = 1) :
    transferBranch pTransfer env f stride st =
      if (st.sys.autoCirculate pTransfer.acCrosspoint).recording = true ∧
          (env.boardCanDoP2P && env.p2pCopy) = true then
        let r := autoDmaTransfer env ⟨true, some f, false, none⟩
          (beginAt pTransfer env f pTransfer.acCrosspoint st)
        ⟨false, r.1, true, false, false, false, r.2⟩
      else ⟨false, .badParameter, true, false, false, false,
        beginAt pTransfer env f pTransfer.acCrosspoint st⟩ := by
  unfold p2pHolds at hflags
  rw [Bool.or_eq_false_iff] at hflags
  unfold transferBranch transferTransfer
  dsimp only
  rw [hflags.1, hflags.2, hsend]
  simp only [Bool.false_eq_true, if_false, if_true, hcount, ne_eq, not_true]
  cases (st.sys.autoCirculate pTransfer.acCrosspoint).recording <;> cases env.boardCanDoP2P <;>
    cases env.p2pCopy <;> rfl

/-- A request without flags is one between device and host. -/
lemma transferBranch_host (env : TransferEnv) (stride f : ℕ) (st : TransferState)
    (hflags : p2pHolds pTransfer.acPeerToPeerFlags = false)
    (hsend : hasFlag pTransfer.acPeerToPeerFlags autocirculateP2PTransfer = false) :
    transferBranch pTransfer env f stride st = transferHost pTransfer env f stride st := by
  unfold p2pHolds at hflags
  rw [Bool.or_eq_false_iff] at hflags
  unfold transferBranch
  dsimp only
  rw [hflags.1, hflags.2, hsend]
  simp

/-- A failed branch ends the request. -/
lemma transferAtFrame_failed (pTransfer : AutoCirculateTransfer) (env : TransferEnv) (f : ℕ)
    (st : TransferState) {status : Ntv2Status} (hstatus : status ≠ .success)
    (hb : (transferBranch pTransfer env f (toUInt32
      ((st.sys.autoCirculate pTransfer.acCrosspoint).endFrame -
        (st.sys.autoCirculate pTransfer.acCrosspoint).startFrame + 1)) st).status = status) :
    transferAtFrame pTransfer env f st = (status, (transferBranch pTransfer env f (toUInt32
      ((st.sys.autoCirculate pTransfer.acCrosspoint).endFrame -
        (st.sys.autoCirculate pTransfer.acCrosspoint).startFrame + 1)) st).st) := by
  unfold transferAtFrame
  dsimp only
  rw [hb, if_pos (by simp [hstatus])]

end Branches

/-! ### The whole request -/

section Request

variable {s : NTV2AutoCirc} {st : TransferState} {pTransfer : AutoCirculateTransfer}
  {env : TransferEnv} {f : ℕ}

/-- Audio that is still to be sent is that of the frame of the transfer. -/
lemma Inside.audioAfter (env : TransferEnv) {b : TransferBranch} (h : Inside s b.st)
    (hf : b.audioTransferDone = false →
      (s.autoCirculate pTransfer.acCrosspoint).circulateWithAudio = true →
      (s.autoCirculate pTransfer.acCrosspoint).Mem
        (b.st.sys.autoCirculate pTransfer.acCrosspoint).transferFrame) :
    Inside s (transferAudio pTransfer env b).2 := by
  unfold transferAudio
  dsimp only
  split
  · next hdue =>
    simp only [Bool.and_eq_true, Bool.not_eq_true'] at hdue
    have hsetup : Inside s (audioSetupAt env pTransfer.acCrosspoint b.st).2 :=
      h.audioSetup (hf hdue.2)
    split
    · exact hsetup
    · exact hsetup.autoDma env _
  · exact h

/-- After its branch, a request indexes frames of the ring only, whatever the frame. -/
lemma Inside.atFrame {b : TransferBranch} (hr : ∀ spec, (s.autoCirculate spec).RangeOk)
    (hb : transferBranch pTransfer env f (toUInt32
      ((st.sys.autoCirculate pTransfer.acCrosspoint).endFrame -
        (st.sys.autoCirculate pTransfer.acCrosspoint).startFrame + 1)) st = b)
    (h : Inside s b.st)
    (hf : b.audioTransferDone = false →
      (s.autoCirculate pTransfer.acCrosspoint).circulateWithAudio = true →
      (s.autoCirculate pTransfer.acCrosspoint).Mem
        (b.st.sys.autoCirculate pTransfer.acCrosspoint).transferFrame) :
    Inside s (transferAtFrame pTransfer env f st).2 := by
  have haudio := h.audioAfter env hf
  have hanc : Inside s (transferAnc pTransfer env f b (transferAudio pTransfer env b).2).2 := by
    unfold transferAnc
    dsimp only
    split
    · exact haudio.autoDma env _
    · exact haudio
  unfold transferAtFrame
  dsimp only
  rw [hb]
  split_ifs
  · exact h
  · exact haudio
  · exact hanc
  · exact gangLoop_invariant (I := fun t : TransferState => Inside s t)
      (fun _ _ _ _ ht => ht.completes (hr _) _ _ _) hanc

/-- What the branch has done is not taken back. -/
lemma grows_atFrame {b : TransferBranch}
    (hb : transferBranch pTransfer env f (toUInt32
      ((st.sys.autoCirculate pTransfer.acCrosspoint).endFrame -
        (st.sys.autoCirculate pTransfer.acCrosspoint).startFrame + 1)) st = b) :
    Grows b.st (transferAtFrame pTransfer env f st).2 := by
  have haudio : Grows b.st (transferAudio pTransfer env b).2 := by
    unfold transferAudio
    dsimp only
    split_ifs
    · exact grows_audioSetup
    · exact grows_audioSetup.trans (grows_autoDma _ _ _)
    · exact .refl _
  have hanc : Grows b.st (transferAnc pTransfer env f b (transferAudio pTransfer env b).2).2 := by
    unfold transferAnc
    dsimp only
    split
    · exact haudio.trans (grows_autoDma _ _ _)
    · exact haudio
  unfold transferAtFrame
  dsimp only
  rw [hb]
  split_ifs
  · exact .refl _
  · exact haudio
  · exact hanc
  · exact gangLoop_invariant (I := fun t : TransferState => Grows b.st t)
      (fun _ _ _ _ ht => ht.trans (grows_completes _ _ _)) hanc

/-- The frame number is a 32-bit number. -/
lemma transferFrameNumber_lt (pTransfer : AutoCirculateTransfer) (a : InternalAutoCirculate) :
    transferFrameNumber pTransfer a < 2 ^ 32 := by
  have h := toUInt32_lt
  unfold transferFrameNumber
  dsimp only
  split_ifs
  · exact h _
  · split
    · exact h _
    · decide
  · exact h _
  · exact h _

lemma transferFrameNumber_named (a : InternalAutoCirculate)
    (hnamed : toUInt32 pTransfer.acDesiredFrame ≠ ntv2InvalidFrame) :
    transferFrameNumber pTransfer a = toUInt32 pTransfer.acDesiredFrame := by
  simp [transferFrameNumber, hnamed]

/-- A frame the driver chooses is one of the ring. -/
lemma transferFrameNumber_mem {a : InternalAutoCirculate} (hr : a.RangeOk)
    (hauto : toUInt32 pTransfer.acDesiredFrame = ntv2InvalidFrame)
    (hf : transferFrameNumber pTransfer a ≠ ntv2InvalidFrame) :
    a.Mem (transferFrameNumber pTransfer a) := by
  have hcast : ∀ f : Int, a.Mem f → a.Mem (toUInt32 f) := fun f hmem => by
    rwa [(hr.inBounds hmem).natCast_toUInt32]
  unfold transferFrameNumber at hf ⊢
  simp only [hauto, if_true] at hf ⊢
  cases hav : availFrame a with
  | some f =>
      dsimp only
      split
      · exact hcast _ hr.mem_start
      · exact hcast f (availFrame_mem hr hav)
  | none =>
      simp only [hav, true_and] at hf ⊢
      split
      · exact hcast _ hr.mem_start
      · next hrec => simp [hrec] at hf

/-- The channels of a request whose frame is settled have the rings they had. -/
lemma AfterFind.inside (hr : ∀ spec, (s.autoCirculate spec).RangeOk) {spec : NTV2Crosspoint}
    (h : AfterFind s spec st) : Inside s st where
  rings spec' := by
    rcases h.sys with hs | hs <;> rw [hs]
    · exact .refl _
    · by_cases he : spec' = spec
      · subst he
        rw [setAuto_same]
        unfold autoCircFindNextAvailFrame
        split
        · exact (unmoved_setNextTransfer _ _).toSameRing
        · exact .refl _
      · rw [setAuto_of_ne _ _ _ he]
        exact .refl _
  frames x hx := by
    obtain ⟨hspec, hmem⟩ := h.frames x hx
    rw [hspec]
    exact mem_findNextAvailFrames (hr spec) hmem

lemma sameCounters_find (a : InternalAutoCirculate) :
    SameCounters (autoCircFindNextAvailFrame a).2 a := by
  unfold autoCircFindNextAvailFrame
  split <;> exact ⟨rfl, rfl, rfl, rfl, rfl, rfl, fun _ => rfl⟩

lemma sameCounters_afterFind {spec : NTV2Crosspoint} {t : NTV2AutoCirc}
    (h : t = s ∨ t = s.setAuto spec (autoCircFindNextAvailFrame (s.autoCirculate spec)).2)
    (spec' : NTV2Crosspoint) : SameCounters (t.autoCirculate spec') (s.autoCirculate spec') := by
  rcases h with h | h <;> rw [h]
  · exact ⟨rfl, rfl, rfl, rfl, rfl, rfl, fun _ => rfl⟩
  · by_cases he : spec' = spec
    · subst he
      rw [setAuto_same]
      exact sameCounters_find _
    · rw [setAuto_of_ne _ _ _ he]
      exact ⟨rfl, rfl, rfl, rfl, rfl, rfl, fun _ => rfl⟩

/-- On a capture channel, `BeginAutoCircTransfer` changes no counter. -/
lemma sameCounters_begin {a : InternalAutoCirculate} (hrec : a.recording = true) :
    SameCounters (beginAutoCircTransfer f pTransfer env a) a := by
  unfold beginAutoCircTransfer
  dsimp only
  rw [if_pos hrec]
  split <;> exact ⟨rfl, rfl, rfl, rfl, rfl, rfl, fun _ => rfl⟩

lemma SameCounters.trans {a b c : InternalAutoCirculate} (h₁ : SameCounters a b)
    (h₂ : SameCounters b c) : SameCounters a c := by
  obtain ⟨a₁, a₂, a₃, a₄, a₅, a₆, a₇⟩ := h₁
  obtain ⟨b₁, b₂, b₃, b₄, b₅, b₆, b₇⟩ := h₂
  exact ⟨a₁.trans b₁, a₂.trans b₂, a₃.trans b₃, a₄.trans b₄, a₅.trans b₅, a₆.trans b₆,
    fun f => (a₇ f).trans (b₇ f)⟩

/-- A capture channel that turns down a transfer between devices has refused it. -/
lemma refused_begin {spec : NTV2Crosspoint} (h : AfterFind s spec st)
    (hrec : (st.sys.autoCirculate spec).recording = true) {status : Ntv2Status}
    (hstatus : status ≠ .success) :
    Refused s (status, beginAt pTransfer env f spec st) where
  dma := h.dma
  told := Or.inl hstatus
  counters spec' := by
    refine SameCounters.trans ?_ (sameCounters_afterFind h.sys spec')
    show SameCounters ((st.sys.setAuto spec _).autoCirculate spec') (st.sys.autoCirculate spec')
    by_cases he : spec' = spec
    · subst he
      rw [setAuto_same]
      exact sameCounters_begin hrec
    · rw [setAuto_of_ne _ _ _ he]
      exact ⟨rfl, rfl, rfl, rfl, rfl, rfl, fun _ => rfl⟩

/-- A request that is turned away has stayed inside the ring. -/
lemma TurnedAway.staysInside (hr : ∀ spec, (s.autoCirculate spec).RangeOk)
    {out : AutoCirculateTransferStatus}
    (h : TurnedAway s pTransfer.acCrosspoint (autoCircTransfer s pTransfer env out)) :
    StaysInside s pTransfer env out where
  frames x hx := by
    obtain ⟨hspec, hmem⟩ := h.frames x hx
    rw [hspec]
    exact mem_findNextAvailFrames (hr _) hmem
  refused _ _ := ⟨h.dma, h.told, sameCounters_afterFind h.sys⟩

/-- A frame outside the ring is one the caller has named. -/
lemma named_of_not_mem (hr : (s.autoCirculate pTransfer.acCrosspoint).RangeOk)
    (hbegins : TransferBegins s pTransfer env)
    (hout : ¬ (s.autoCirculate pTransfer.acCrosspoint).Mem
      (transferFrameNumber pTransfer (s.autoCirculate pTransfer.acCrosspoint))) :
    toUInt32 pTransfer.acDesiredFrame ≠ ntv2InvalidFrame ∧
      ¬ (s.autoCirculate pTransfer.acCrosspoint).Mem (toUInt32 pTransfer.acDesiredFrame) := by
  have hnamed : toUInt32 pTransfer.acDesiredFrame ≠ ntv2InvalidFrame := fun hauto =>
    hout (transferFrameNumber_mem hr hauto hbegins.2.2.2.1)
  rw [transferFrameNumber_named _ hnamed] at hout
  exact ⟨hnamed, hout⟩

/-- A request for a frame of the ring stays inside as soon as the frames it indexes do. -/
lemma staysInside_of_mem {out : AutoCirculateTransferStatus}
    (hf : (s.autoCirculate pTransfer.acCrosspoint).Mem
      (transferFrameNumber pTransfer (s.autoCirculate pTransfer.acCrosspoint)))
    (h : Inside s (autoCircTransfer s pTransfer env out).2) : StaysInside s pTransfer env out where
  frames := h.frames
  refused hnamed hout := by
    rw [transferFrameNumber_named _ hnamed] at hf
    exact absurd hf hout

variable {out : AutoCirculateTransferStatus}

/-- Between devices, without sending the frame out. -/
lemma staysInside_holds (h : InOrder s pTransfer.acCrosspoint)
    (hbegins : TransferBegins s pTransfer env) (hfind : AfterFind s pTransfer.acCrosspoint st)
    (heq : autoCircTransfer s pTransfer env out = transferAtFrame pTransfer env
      (transferFrameNumber pTransfer (s.autoCirculate pTransfer.acCrosspoint)) st)
    (hflags : p2pHolds pTransfer.acPeerToPeerFlags = true) :
    StaysInside s pTransfer env out ↔
      (s.autoCirculate pTransfer.acCrosspoint).recording = true ∨
        (s.autoCirculate pTransfer.acCrosspoint).Mem
          (transferFrameNumber pTransfer (s.autoCirculate pTransfer.acCrosspoint)) := by
  have hst := hfind.inside h.ranges
  have hring := hst.rings pTransfer.acCrosspoint
  generalize hf : transferFrameNumber pTransfer (s.autoCirculate pTransfer.acCrosspoint) = f at heq
  obtain ⟨hbst, hbad⟩ := transferBranch_holds env
    (toUInt32 ((st.sys.autoCirculate pTransfer.acCrosspoint).endFrame -
      (st.sys.autoCirculate pTransfer.acCrosspoint).startFrame + 1)) f st hflags
    (fun hp => by rw [hring.channelCount]; exact hbegins.2.2.2.2 hp)
  constructor
  · intro hin
    cases hrec : (s.autoCirculate pTransfer.acCrosspoint).recording with
    | true => exact Or.inl rfl
    | false =>
        right
        have hmem := mem_begins pTransfer env f hring hrec
        rw [← hbst] at hmem
        have hall := (grows_atFrame rfl).frames _ hmem
        rw [← heq] at hall
        exact hin.frames _ hall
  · intro hcond
    by_cases hrec : (s.autoCirculate pTransfer.acCrosspoint).recording = true
    · have hrec' := hring.recording.trans hrec
      have hres := transferAtFrame_failed _ _ _ _ (by decide) (hbad hrec')
      rw [hbst] at hres
      rw [hres] at heq
      refine ⟨?_, fun _ _ => ?_⟩
      · rw [heq]
        exact (hst.begins (Or.inl hrec)).frames
      · rw [heq]
        exact refused_begin hfind hrec' (by decide)
    · have hmem := hcond.resolve_left hrec
      refine staysInside_of_mem (by rw [hf]; exact hmem) ?_
      rw [heq]
      refine Inside.atFrame h.ranges rfl ?_ fun _ _ => ?_
      · rw [hbst]
        exact hst.begins (Or.inr hmem)
      · rw [hbst, transferFrame_beginAt]
        exact hmem

/-- Sending the frame to another device. -/
lemma staysInside_sends (h : InOrder s pTransfer.acCrosspoint)
    (hbegins : TransferBegins s pTransfer env) (hfind : AfterFind s pTransfer.acCrosspoint st)
    (heq : autoCircTransfer s pTransfer env out = transferAtFrame pTransfer env
      (transferFrameNumber pTransfer (s.autoCirculate pTransfer.acCrosspoint)) st)
    (hflags : p2pHolds pTransfer.acPeerToPeerFlags = false)
    (hsend : hasFlag pTransfer.acPeerToPeerFlags autocirculateP2PTransfer = true) :
    StaysInside s pTransfer env out ↔
      (s.autoCirculate pTransfer.acCrosspoint).recording = true ∧
          (env.boardCanDoP2P && env.p2pCopy) = false ∨
        (s.autoCirculate pTransfer.acCrosspoint).Mem
          (transferFrameNumber pTransfer (s.autoCirculate pTransfer.acCrosspoint)) := by
  have hst := hfind.inside h.ranges
  have hring := hst.rings pTransfer.acCrosspoint
  have hout := named_of_not_mem (h.ranges _) hbegins
  have hsingle : p2pNeedsSingle pTransfer.acPeerToPeerFlags = true := by
    unfold p2pHolds at hflags
    unfold p2pNeedsSingle
    simp_all
  generalize hf : transferFrameNumber pTransfer (s.autoCirculate pTransfer.acCrosspoint) = f
    at heq hout
  have hb := transferBranch_sends env
    (toUInt32 ((st.sys.autoCirculate pTransfer.acCrosspoint).endFrame -
      (st.sys.autoCirculate pTransfer.acCrosspoint).startFrame + 1)) f st hflags hsend
    (by rw [hring.channelCount]; exact hbegins.2.2.2.2 hsingle)
  rw [hring.recording] at hb
  constructor
  · intro hin
    by_contra hcond
    rw [not_or] at hcond
    have hgrows := grows_atFrame hb
    rw [← heq] at hgrows
    cases hrec : (s.autoCirculate pTransfer.acCrosspoint).recording with
    | true =>
        -- the frame goes out, although the caller has named one outside the ring
        have hcan : (env.boardCanDoP2P && env.p2pCopy) = true := by
          rw [← Bool.not_eq_false]
          exact fun hno => hcond.1 ⟨hrec, hno⟩
        rw [if_pos ⟨hrec, hcan⟩] at hgrows
        obtain ⟨hnamed, hno⟩ := hout hcond.2
        have hnil := hgrows.dma (hin.refused hnamed hno).dma
        simp [autoDmaTransfer] at hnil
    | false =>
        rw [if_neg (by simp [hrec])] at hgrows
        have hmem := mem_begins pTransfer env f hring hrec
        exact hcond.2 (hin.frames _ (hgrows.frames _ hmem))
  · intro hcond
    by_cases hgo : (s.autoCirculate pTransfer.acCrosspoint).recording = true ∧
        (env.boardCanDoP2P && env.p2pCopy) = true
    · have hmem := hcond.resolve_left (fun hno => by simp [hgo.2] at hno)
      rw [if_pos hgo] at hb
      refine staysInside_of_mem (by rw [hf]; exact hmem) ?_
      rw [heq]
      refine Inside.atFrame h.ranges hb ?_ fun _ _ => ?_
      · exact (hst.begins (Or.inr hmem)).autoDma env _
      · show (s.autoCirculate pTransfer.acCrosspoint).Mem
          ((beginAt pTransfer env f pTransfer.acCrosspoint st).sys.autoCirculate _).transferFrame
        rw [transferFrame_beginAt]
        exact hmem
    · rw [if_neg hgo] at hb
      have hres := transferAtFrame_failed pTransfer env f st
        (by decide : Ntv2Status.badParameter ≠ .success) (by rw [hb])
      rw [hb] at hres
      rw [hres] at heq
      by_cases hrec : (s.autoCirculate pTransfer.acCrosspoint).recording = true
      · refine ⟨?_, fun _ _ => ?_⟩
        · rw [heq]
          exact (hst.begins (Or.inl hrec)).frames
        · rw [heq]
          exact refused_begin hfind (hring.recording.trans hrec) (by decide)
      · have hmem := hcond.resolve_left (fun hno => hrec hno.1)
        refine staysInside_of_mem (by rw [hf]; exact hmem) ?_
        rw [heq]
        exact hst.begins (Or.inr hmem)

/-- Between device and host. -/
lemma staysInside_host (h : InOrder s pTransfer.acCrosspoint)
    (hbegins : TransferBegins s pTransfer env) (hfind : AfterFind s pTransfer.acCrosspoint st)
    (heq : autoCircTransfer s pTransfer env out = transferAtFrame pTransfer env
      (transferFrameNumber pTransfer (s.autoCirculate pTransfer.acCrosspoint)) st)
    (hflags : p2pHolds pTransfer.acPeerToPeerFlags = false)
    (hsend : hasFlag pTransfer.acPeerToPeerFlags autocirculateP2PTransfer = false) :
    StaysInside s pTransfer env out ↔
      (s.autoCirculate pTransfer.acCrosspoint).Mem
          (transferFrameNumber pTransfer (s.autoCirculate pTransfer.acCrosspoint)) ∧
        ∀ k, 0 < k → k < (s.autoCirculate pTransfer.acCrosspoint).channelCount.toNat →
          (s.autoCirculate (gangSpec pTransfer.acCrosspoint k)).recording = true ∨
            (s.autoCirculate (gangSpec pTransfer.acCrosspoint k)).Mem
              (gangFrame (toUInt32 ((s.autoCirculate pTransfer.acCrosspoint).endFrame -
                (s.autoCirculate pTransfer.acCrosspoint).startFrame + 1))
                (transferFrameNumber pTransfer (s.autoCirculate pTransfer.acCrosspoint)) k) := by
  have hst := hfind.inside h.ranges
  have hring := hst.rings pTransfer.acCrosspoint
  have hout := named_of_not_mem (h.ranges _) hbegins
  have hlt := transferFrameNumber_lt pTransfer
    (s.autoCirculate pTransfer.acCrosspoint)
  generalize hf : transferFrameNumber pTransfer (s.autoCirculate pTransfer.acCrosspoint) = f
    at heq hout hlt
  have hgrows := grows_atFrame
    (transferBranch_host env _ f st hflags hsend)
  rw [← heq] at hgrows
  rw [hring.startFrame, hring.endFrame] at hgrows
  generalize hstride : toUInt32 ((s.autoCirculate pTransfer.acCrosspoint).endFrame -
    (s.autoCirculate pTransfer.acCrosspoint).startFrame + 1) = stride at hgrows
  have hhost := host_grows pTransfer env stride f st
  have hbegun := grows_hostSetup pTransfer env stride f st
  rw [hring.channelCount] at hbegun
  constructor
  · intro hin
    refine ⟨?_, fun k hk hkn => ?_⟩
    · by_contra hno
      obtain ⟨hnamed, hno⟩ := hout hno
      exact hhost.2 (hgrows.dma (hin.refused hnamed hno).dma)
    · cases hrec : (s.autoCirculate (gangSpec pTransfer.acCrosspoint k)).recording with
      | true => exact Or.inl rfl
      | false =>
          have hmem := mem_beginGang pTransfer env stride f hst.rings (Nat.zero_le k)
            (by omega : k < 0 + (s.autoCirculate pTransfer.acCrosspoint).channelCount.toNat) hrec
          exact Or.inr (hin.frames _
            (hgrows.frames _ (hhost.1.frames _ (hbegun.frames _ hmem))))
  · rintro ⟨hmem, hgang⟩
    refine staysInside_of_mem (by rw [hf]; exact hmem) ?_
    have hinside : Inside s (beginGang pTransfer env stride f pTransfer.acCrosspoint 0
        (st.sys.autoCirculate pTransfer.acCrosspoint).channelCount.toNat st) := by
      rw [hring.channelCount]
      refine hst.beginGang fun j _ hj => ?_
      rcases Nat.eq_zero_or_pos j with rfl | hpos
      · rw [gangSpec_zero hbegins.1, gangFrame_zero hlt]
        exact Or.inr hmem
      · exact hgang j hpos (by omega)
    have hsetup : Inside s (hostSetup pTransfer env stride f st) := by
      unfold hostSetup
      dsimp only
      split
      · refine hinside.audioSetup fun ha => ?_
        rw [hring.channelCount]
        rw [transferFrame_beginGang (h.audio ha) hbegins.1 hlt h.once]
        exact hmem
      · exact hinside
    have hb := transferBranch_host env stride f st hflags hsend
    rw [heq]
    rw [← hstride, ← hring.startFrame, ← hring.endFrame] at hb
    refine Inside.atFrame h.ranges hb ?_ ?_
    · rw [hring.startFrame, hring.endFrame, hstride, transferHost_eq]
      dsimp only
      split
      · exact hsetup.fields hmem
      · exact hsetup.autoDma env _
    · rw [transferHost_eq]
      intro hdone ha
      rw [← hring.withAudio] at ha
      exact absurd hdone (by simp [ha])

end Request

/-! ### The states of a run -/

/-- What `InOrder` asks of one circulator. -/
structure ChannelInOrder (spec : NTV2Crosspoint) (a : InternalAutoCirculate) : Prop where
  range : a.RangeOk
  audio : a.circulateWithAudio = true → 0 < a.channelCount.toNat
  once : ∀ k, 0 < k → k < a.channelCount.toNat → gangSpec spec k ≠ spec

/-- The gang of an Init request does not come back to its first channel. -/
def Call.NamesOnce : Call → Prop
  | .init args => ∀ k, 0 < k → k < args.lChannelCount.toNat →
      gangSpec args.lChannelSpec k ≠ args.lChannelSpec
  | _ => True

lemma channelInOrder_initAuto {args : InitArgs} {s : NTV2AutoCirc} {k : ℕ}
    (hp : InitParamsOk args) (hfits : GangFits args) (honce : (Call.init args).NamesOnce)
    (hk : k < args.lChannelCount.toNat) :
    ChannelInOrder (gangSpec args.lChannelSpec k)
      (initAuto args s k (gangSpec args.lChannelSpec k)) where
  range := initAuto_rangeOk s _ hp hfits hk
  audio := by
    rcases Nat.eq_zero_or_pos k with rfl | hpos
    · simp only [initAuto, beq_self_eq_true, if_true]
      exact fun _ => hk
    · simp [initAuto, Nat.pos_iff_ne_zero.mp hpos]
  once := by
    rcases Nat.eq_zero_or_pos k with rfl | hpos
    · rw [gangSpec_zero hp.1]
      simp only [initAuto, beq_self_eq_true, if_true]
      exact honce
    · simp [initAuto, Nat.pos_iff_ne_zero.mp hpos]

/-- Every state a run reaches is in order for every channel, as long as the Init requests
are for frames that exist and name no channel first and again. -/
theorem inOrder_run {s₀ s : NTV2AutoCirc} (hrest : AtRest s₀)
    (hrun : RunsTo Call.run (fun _ c => c.Fits ∧ c.NamesOnce) s₀ s) (spec : NTV2Crosspoint) :
    InOrder s spec := by
  have hall : RecordsOk ChannelInOrder s := by
    refine hrun.invariant (fun spec' => ?_) fun t c hc ht => ring_call ?_ ?_ ht
    · rw [hrest spec']
      exact ⟨by decide, by decide, fun k hk hk' => by simp [InternalAutoCirculate.zero] at hk'⟩
    · rintro spec' a b hab ⟨hrange, haudio, honce⟩
      refine ⟨hab.rangeOk hrange, ?_, ?_⟩
      · rw [hab.withAudio, hab.channelCount]
        exact haudio
      · rw [hab.channelCount]
        exact honce
    · rintro args rfl k hk hp
      exact channelInOrder_initAuto hp (hc.1 hp) hc.2 hk
  exact ⟨fun spec' => (hall spec').range, (hall spec).audio, (hall spec).once⟩

/-- **When a request stays inside the ring**: exactly when its frame fits wherever the
request uses it.  The driver tests only the frames it completes, after the transfer. -/
theorem autoCircTransfer_inside_iff (s : NTV2AutoCirc) (pTransfer : AutoCirculateTransfer)
    (env : TransferEnv) (out : AutoCirculateTransferStatus)
    (h : InOrder s pTransfer.acCrosspoint) :
    StaysInside s pTransfer env out ↔ TransferFits s pTransfer env := by
  rcases autoCircTransfer_cases s pTransfer env out with ⟨hno, haway⟩ | ⟨hbegins, st, hfind, heq⟩
  · exact ⟨fun _ hb => absurd hb hno, fun _ => haway.staysInside h.ranges⟩
  · unfold TransferFits
    dsimp only
    rw [forall_prop_of_true hbegins]
    cases hflags : p2pHolds pTransfer.acPeerToPeerFlags with
    | true => exact staysInside_holds h hbegins hfind heq hflags
    | false =>
        simp only [Bool.false_eq_true, if_false]
        cases hsend : hasFlag pTransfer.acPeerToPeerFlags autocirculateP2PTransfer with
        | true => exact staysInside_sends h hbegins hfind heq hflags hsend
        | false => exact staysInside_host h hbegins hfind heq hflags hsend


/-- A playout channel with frames `0` to `9`. -/
def playoutOfTen : NTV2AutoCirc := (autoCircInit .idle (.plain .channel1 0 9 1)).2

/-- The channel is in order. -/
lemma playoutOfTen_inOrder : InOrder playoutOfTen .channel1 := by
  have hok : (Call.init (.plain .channel1 0 9 1)).Fits ∧
      (Call.init (.plain .channel1 0 9 1)).NamesOnce := by
    refine ⟨fun _ => by decide, fun k hk hk' => ?_⟩
    have hone : k < 1 := hk'
    omega
  have hrest : AtRest .idle := fun _ => rfl
  exact inOrder_run hrest (RunsTo.refl.tail _ hok) _

/-- `autoCircTransfer_inside_iff` for frame `5` of ten. -/
theorem autoCircTransfer_inside_iff_five :
    StaysInside playoutOfTen (.plain .channel1 5 1) .plain .zero ↔
      TransferFits playoutOfTen (.plain .channel1 5 1) .plain :=
  autoCircTransfer_inside_iff _ _ _ _ playoutOfTen_inOrder

/-- Frame `20` of ten: the request is carried out, on a frame stamp outside the ring. -/
theorem autoCircTransfer_outside : ¬ ∀ s pTransfer env out,
    InOrder s pTransfer.acCrosspoint → StaysInside s pTransfer env out := by
  intro h
  have hmem : (NTV2Crosspoint.channel1, (20 : Int)) ∈ (autoCircTransfer playoutOfTen
      (.plain .channel1 20 1) .plain .zero).2.frames := by decide +kernel
  have hout := (h _ _ _ _ playoutOfTen_inOrder).frames _ hmem
  revert hout
  decide

end LibAjaNtv2
