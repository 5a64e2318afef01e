import Mathlib.Tactic
import LibAjaNtv2.Stream.Requests

/-!
What every step of a stream keeps, in whatever order the steps come.

* `SlotInv`: the queued slots lie between tail and head, and the completed ones behind the active;
* `linkNext_cases`, `advance_cases`: an advance, step by step;
* `streamStep_slots`: **every step keeps the slots**.
-/

namespace LibAjaNtv2

open Cyclic

/-- The slots of the queue, whatever steps led there. -/
structure SlotInv (s : Ntv2Stream) : Prop where
  queued : ∀ i, (s.streamBuffers i).queued = true ↔
    gap s.tailIndex i < gap s.tailIndex s.headIndex
  fresh : ∀ i, (s.streamBuffers i).queued = false → (s.streamBuffers i).linked = false ∧
    (s.streamBuffers i).completed = false ∧ (s.streamBuffers i).flushed = false
  kept : ∀ i, (s.streamBuffers i).queued = true → (s.streamBuffers i).released = false
  behind : ∀ i, (s.streamBuffers i).completed = true →
    s.activeBuffer.queued = true ∧ s.nextBuffer.queued = true ∧
      gap s.tailIndex i < gap s.tailIndex s.activeIndex ∧
      gap s.tailIndex i < gap s.tailIndex s.nextIndex
  ahead : s.activeIndex ≠ s.nextIndex → s.activeBuffer.linked = true →
    s.nextBuffer.queued = true ∧
      gap s.tailIndex s.activeIndex < gap s.tailIndex s.nextIndex

variable {hw : StreamHardware} {s t u : Ntv2Stream}

/-- The slots of a stream whose states and counts change. -/
lemma SlotInv.congr (h : SlotInv s) (hbuffers : t.streamBuffers = s.streamBuffers)
    (hhead : t.headIndex = s.headIndex) (htail : t.tailIndex = s.tailIndex)
    (hactive : t.activeIndex = s.activeIndex) (hnext : t.nextIndex = s.nextIndex) : SlotInv t := by
  obtain ⟨hqueued, hfresh, hkept, hbehind, hahead⟩ := h
  constructor
  · rw [hbuffers, hhead, htail]
    exact hqueued
  · rw [hbuffers]
    exact hfresh
  · rw [hbuffers]
    exact hkept
  · rw [Ntv2Stream.activeBuffer, Ntv2Stream.nextBuffer, hbuffers, htail, hactive, hnext]
    exact hbehind
  · rw [Ntv2Stream.activeBuffer, Ntv2Stream.nextBuffer, hbuffers, htail, hactive, hnext]
    exact hahead

/-- A slot that is linked, completed or flushed is queued. -/
lemma SlotInv.queued_of (h : SlotInv s) {i : StreamIndex}
    (hi : (s.streamBuffers i).linked = true ∨ (s.streamBuffers i).completed = true ∨
      (s.streamBuffers i).flushed = true) : (s.streamBuffers i).queued = true := by
  by_contra hq
  obtain ⟨hl, hc, hf⟩ := h.fresh i (Bool.eq_false_of_not_eq_true hq)
  rw [hl, hc, hf] at hi
  rcases hi with hi | hi | hi <;> exact Bool.noConfusion hi

/-- The slots after a step that moves no cursor and completes no slot. -/
lemma SlotInv.frame (h : SlotInv s) (hf : Frame s t) (hnext : t.nextIndex = s.nextIndex)
    (hlinked : ∀ i, (t.streamBuffers i).linked = true → (s.streamBuffers i).queued = true)
    (hflushed : ∀ i, (t.streamBuffers i).flushed = true → (s.streamBuffers i).queued = true)
    (hahead : s.activeIndex ≠ s.nextIndex → t.activeBuffer.linked = true →
      s.activeBuffer.linked = true) : SlotInv t := by
  have hactive : t.activeBuffer.queued = s.activeBuffer.queued := by
    rw [Ntv2Stream.activeBuffer, hf.activeIndex]
    exact (hf.same _).queued
  have hnextBuffer : t.nextBuffer.queued = s.nextBuffer.queued := by
    rw [Ntv2Stream.nextBuffer, hnext]
    exact (hf.same _).queued
  refine ⟨fun i => ?_, fun i hi => ⟨?_, ?_, ?_⟩, fun i hi => ?_, fun i hi => ?_, fun hne hl => ?_⟩
  · rw [(hf.same i).queued, hf.tailIndex, hf.headIndex]
    exact h.queued i
  · rw [(hf.same i).queued] at hi
    exact Bool.eq_false_of_not_eq_true fun hl => Bool.noConfusion (hi.symm.trans (hlinked i hl))
  · rw [(hf.same i).queued] at hi
    rw [(hf.same i).completed]
    exact (h.fresh i hi).2.1
  · rw [(hf.same i).queued] at hi
    exact Bool.eq_false_of_not_eq_true fun hl => Bool.noConfusion (hi.symm.trans (hflushed i hl))
  · rw [(hf.same i).queued] at hi
    rw [(hf.same i).released]
    exact h.kept i hi
  · rw [(hf.same i).completed] at hi
    rw [hactive, hnextBuffer, hf.tailIndex, hf.activeIndex, hnext]
    exact h.behind i hi
  · rw [hf.activeIndex, hnext] at hne
    rw [hnextBuffer, hf.tailIndex, hf.activeIndex, hnext]
    exact h.ahead hne (hahead hne hl)

/-- Flushing keeps the slots. -/
lemma SlotInv.flushes (h : SlotInv s) (hf : Flushes s t)
    (hflushed : ∀ i, (t.streamBuffers i).flushed = true → (s.streamBuffers i).queued = true) :
    SlotInv t := by
  refine h.frame hf.frame hf.nextIndex (fun i hi => ?_) hflushed fun _ hl => ?_
  · rw [hf.linked] at hi
    exact h.queued_of (.inl hi)
  · rw [Ntv2Stream.activeBuffer, hf.frame.activeIndex, hf.linked] at hl
    exact hl

/-- Linking keeps the slots while no other slot than the active one is next. -/
lemma SlotInv.links (h : SlotInv s) (hl : Links s t) (he : s.activeIndex = s.nextIndex) :
    SlotInv t := by
  refine h.frame hl.frame hl.nextIndex (fun i hi => ?_) (fun i hi => ?_) fun hne => absurd he hne
  · rcases hl.onlyQueued i hi with hlinked | hq
    · exact h.queued_of (.inl hlinked)
    · exact hq
  · rw [hl.flushed] at hi
    exact h.queued_of (.inr (.inr hi))

/-- The next index moves to the active slot, or to a queued one behind an active slot that is
queued. -/
lemma SlotInv.setNext (h : SlotInv s) (hbuffers : t.streamBuffers = s.streamBuffers)
    (hhead : t.headIndex = s.headIndex) (htail : t.tailIndex = s.tailIndex)
    (hactive : t.activeIndex = s.activeIndex)
    (hnext : t.nextIndex = s.activeIndex ∨ (s.activeBuffer.queued = true →
      (s.streamBuffers t.nextIndex).queued = true ∧
        gap s.tailIndex s.activeIndex < gap s.tailIndex t.nextIndex)) : SlotInv t := by
  have hactiveBuffer : t.activeBuffer = s.activeBuffer := by
    rw [Ntv2Stream.activeBuffer, hbuffers, hactive]
    rfl
  have hnextBuffer : t.nextBuffer = s.streamBuffers t.nextIndex := by
    rw [Ntv2Stream.nextBuffer, hbuffers]
  refine ⟨?_, ?_, ?_, fun i hi => ?_, fun hne hl => ?_⟩
  · rw [hbuffers, hhead, htail]
    exact h.queued
  · rw [hbuffers]
    exact h.fresh
  · rw [hbuffers]
    exact h.kept
  · rw [hbuffers] at hi
    obtain ⟨hq, -, hlt, -⟩ := h.behind i hi
    rw [hactiveBuffer, hnextBuffer, htail, hactive]
    rcases hnext with hnext | hnext
    · rw [hnext]
      exact ⟨hq, hq, hlt, hlt⟩
    · obtain ⟨hqueued, hgap⟩ := hnext hq
      exact ⟨hq, hqueued, hlt, hlt.trans hgap⟩
  · rw [hactiveBuffer] at hl
    rw [hnextBuffer, htail, hactive]
    rcases hnext with hnext | hnext
    · exact absurd (hactive.trans hnext.symm) hne
    · exact hnext (h.queued_of (.inl hl))

/-! ### Flushing -/

/-- Changing a user buffer keeps the slots. -/
lemma SlotInv.setUserBuffer (h : SlotInv s) (i : StreamIndex)
    (f : NTV2StreamBuffer → NTV2StreamBuffer) : SlotInv (s.setUserBuffer i f) := by
  refine h.flushes (.setUserBuffer s i f) fun j hj => h.queued_of (.inr (.inr ?_))
  rw [Ntv2Stream.setUserBuffer, setBuffer_streamBuffers] at hj
  rcases eq_or_ne j i with rfl | hji
  · rwa [Function.update_self] at hj
  · rwa [Function.update_of_ne hji] at hj

/-- **Flushing** a slot keeps the slots: only a queued one is flushed. -/
lemma flush_slots (h : SlotInv s) (i : StreamIndex) : SlotInv (dmaOpsBufferFlush s i).1 := by
  refine h.flushes (flush_spec s i) fun j hj => ?_
  simp only [dmaOpsBufferFlush] at hj
  split_ifs at hj with hflushed hnot hrun
  · exact h.queued_of (.inr (.inr hj))
  · exact h.queued_of (.inr (.inr hj))
  · exact h.queued_of (.inr (.inr hj))
  · rcases eq_or_ne j i with rfl | hji
    · simp only [Bool.or_eq_true, not_or, Bool.not_eq_true', Bool.not_eq_false] at hnot
      exact hnot.1.1
    · rw [setBuffer_streamBuffers, Function.update_of_ne hji] at hj
      exact h.queued_of (.inr (.inr hj))

/-- The flush of the queue keeps the slots. -/
lemma flushLoop_slots (h : SlotInv s) (now : Int) (fuel : ℕ) (i : StreamIndex) :
    SlotInv (flushLoop now fuel i s) :=
  flushLoop_induct (P := SlotInv) (fun _ i h => flush_slots h i)
    (fun _ _ _ h => h.setUserBuffer _ _) now fuel i h

/-- The flush of all slots keeps the slots. -/
lemma flushAll_slots (h : SlotInv s) : SlotInv (flushAll s) :=
  flushAll_induct (P := SlotInv) (fun _ i h => flush_slots h i) h

/-! ### Initialize and release -/

/-- Initialize keeps the slots. -/
lemma initialize_slots (h : SlotInv s) (pOwner : Option ℕ) :
    SlotInv (streamChannelInitialize hw pOwner s).1 := by
  cases pOwner with
  | none => exact h
  | some owner =>
      by_cases haccepted : InitializeAccepted hw (some owner) s
      · have hs : SlotInv { s with
            strDescriptorIndex := 0
            streamState := .initialized
            engineState := .initialized
            owner := some owner } := h.congr rfl rfl rfl rfl rfl
        have hflush := flushAll_slots hs
        rw [initialize_eq haccepted, Ntv2Stream.success]
        generalize flushAll _ = t at hflush ⊢
        exact hflush.congr rfl rfl rfl rfl rfl
      · simp only [streamChannelInitialize, dmaOpsStreamInitialize]
        split_ifs with hlock hstate howner hstop
        · exact h
        · exact h
        · exact h
        · exact h.congr rfl rfl rfl rfl rfl
        · rw [not_and_or, not_not, not_not] at howner
          exact absurd ⟨⟨Option.some_ne_none _, howner⟩, Bool.eq_false_of_not_eq_true hlock,
            hstate, not_lt.mp hstop⟩ haccepted

/-- With nothing queued and all indices at the first slot there is nothing to keep. -/
lemma SlotInv.empty (hempty : ∀ i, (s.streamBuffers i).queued = false ∧
      (s.streamBuffers i).linked = false ∧ (s.streamBuffers i).completed = false ∧
      (s.streamBuffers i).flushed = false)
    (hhead : s.headIndex = s.tailIndex) : SlotInv s := by
  refine ⟨fun i => ?_, fun i _ => (hempty i).2, fun i hi => ?_, fun i hi => ?_, fun _ hl => ?_⟩
  · rw [hhead, gap_self, (hempty i).1]
    exact ⟨Bool.noConfusion, fun hlt => absurd hlt (Nat.not_lt_zero _)⟩
  · exact Bool.noConfusion ((hempty i).1.symm.trans hi)
  · exact Bool.noConfusion ((hempty i).2.2.1.symm.trans hi)
  · exact Bool.noConfusion ((hempty _).2.1.symm.trans hl)

/-- What a release leaves in a slot, unless it had been released before. -/
lemma bufferRelease_slot (hrun : ¬ s.EngineRunning) (i : StreamIndex) :
    (dmaOpsBufferRelease s i).1.engineState = s.engineState ∧
      (∀ j, j ≠ i → (dmaOpsBufferRelease s i).1.streamBuffers j = s.streamBuffers j) ∧
      ((s.streamBuffers i).released = true ∧
          (dmaOpsBufferRelease s i).1.streamBuffers i = s.streamBuffers i ∨
        ((dmaOpsBufferRelease s i).1.streamBuffers i).flags =
          ⟨false, false, false, false, true⟩) := by
  simp only [dmaOpsBufferRelease]
  split_ifs with hreleased hlinked
  · exact ⟨rfl, fun _ _ => rfl, .inl ⟨hreleased, rfl⟩⟩
  · exact absurd hlinked.1 hrun
  · refine ⟨rfl, fun j hj => ?_, .inr ?_⟩
    · rw [setBuffer_streamBuffers, Function.update_of_ne hj]
    · rw [setBuffer_streamBuffers, Function.update_self]
      rfl

/-- Releasing all slots while the engine does not run empties them. -/
lemma releaseAll_slots (h : SlotInv s) (hrun : ¬ s.EngineRunning) (i : StreamIndex) :
    ((releaseAll s).streamBuffers i).flags = ⟨false, false, false, false, true⟩ := by
  have hfold : ∀ (is : List StreamIndex) (t : Ntv2Stream), ¬ t.EngineRunning →
      (∀ j, t.streamBuffers j = s.streamBuffers j ∨
        (t.streamBuffers j).flags = ⟨false, false, false, false, true⟩) →
      ∀ j, j ∈ is ∨ (t.streamBuffers j).flags = ⟨false, false, false, false, true⟩ →
        ((is.foldl (fun s i => (dmaOpsBufferRelease s i).1) t).streamBuffers j).flags =
          ⟨false, false, false, false, true⟩ := by
    intro is
    induction is with
    | nil => exact fun t _ _ j hj => hj.resolve_left List.not_mem_nil
    | cons k is ih =>
        intro t hrun hslots j hj
        obtain ⟨hengine, hother, hself⟩ := bufferRelease_slot hrun k
        have hrun' : ¬ (dmaOpsBufferRelease t k).1.EngineRunning := by
          rwa [Ntv2Stream.EngineRunning, hengine]
        have hdone : ((dmaOpsBufferRelease t k).1.streamBuffers k).flags =
            ⟨false, false, false, false, true⟩ := by
          rcases hself with ⟨hreleased, hsame⟩ | hflags
          · rw [hsame]
            rcases hslots k with hk | hk
            · -- a slot that was released before the call holds nothing
              rw [hk] at hreleased ⊢
              have hq : (s.streamBuffers k).queued = false :=
                Bool.eq_false_of_not_eq_true fun hq =>
                  Bool.noConfusion ((h.kept k hq).symm.trans hreleased)
              obtain ⟨hl, hc, hf⟩ := h.fresh k hq
              rw [Ntv2StreamBuffer.flags, hq, hl, hc, hf, hreleased]
            · exact hk
          · exact hflags
        refine ih _ hrun' (fun m => ?_) j ?_
        · rcases eq_or_ne m k with rfl | hm
          · exact .inr hdone
          · rw [hother m hm]
            exact hslots m
        · rcases eq_or_ne j k with rfl | hjk
          · exact .inr hdone
          · rw [hother j hjk]
            exact hj.imp_left fun hmem => (List.mem_cons.mp hmem).resolve_left hjk
  rw [releaseAll]
  exact hfold (List.finRange NTV2_STREAM_NUM_BUFFERS) s hrun (fun _ => .inl rfl) i
    (.inl (List.mem_finRange i))

/-- Release is accepted: it empties every slot and puts all indices at the first one. -/
structure Released (s : Ntv2Stream) : Prop where
  flags : ∀ i, (s.streamBuffers i).flags = ⟨false, false, false, false, true⟩
  indices : s.headIndex = 0 ∧ s.tailIndex = 0 ∧ s.activeIndex = 0 ∧ s.nextIndex = 0
  streamState : s.streamState = .released

/-- Nothing is queued in a released stream. -/
lemma Released.slots (h : Released s) : SlotInv s := by
  refine .empty (fun i => ?_) (h.indices.1.trans h.indices.2.1.symm)
  have hflags := h.flags i
  rw [Ntv2StreamBuffer.flags, SlotFlags.mk.injEq] at hflags
  exact ⟨hflags.1, hflags.2.1, hflags.2.2.1, hflags.2.2.2.1⟩

/-- **Release** is refused, fails with the engine, or empties the stream. -/
lemma release_cases (h : SlotInv s) (pOwner : Option ℕ) :
    (((streamChannelRelease hw pOwner s).1 = s ∨
        (streamChannelRelease hw pOwner s).1 = { s with engineState := .error }) ∧
      (streamChannelRelease hw pOwner s).2.mStatus ≠ NTV2_STREAM_STATUS_SUCCESS) ∨
    (Released (streamChannelRelease hw pOwner s).1 ∧
      (streamChannelRelease hw pOwner s).2.mStatus = NTV2_STREAM_STATUS_SUCCESS) := by
  simp only [streamChannelRelease, dmaOpsStreamRelease]
  split_ifs with hlock howner hstop
  · exact .inl ⟨.inl rfl, refuse_ne_success _ _ _⟩
  · exact .inl ⟨.inl rfl, refuse_ne_success _ _ _⟩
  · exact .inl ⟨.inr rfl, refuse_ne_success _ _ _⟩
  · have hs : SlotInv { s with streamState := .released, engineState := .released } :=
      h.congr rfl rfl rfl rfl rfl
    have hrun : ¬ ({ s with
        streamState := .released, engineState := .released } : Ntv2Stream).EngineRunning := by
      rintro (hr | hr) <;> exact Ntv2StreamState.noConfusion hr
    have hreleased : ∀ i, (s.streamBuffers i).released = true → (s.streamBuffers i).Empty := by
      intro i hi
      have hq : (s.streamBuffers i).queued = false := Bool.eq_false_of_not_eq_true fun hq =>
        Bool.noConfusion ((h.kept i hq).symm.trans hi)
      exact ⟨hq, (h.fresh i hq).1⟩
    have hstate := (releaseAll_spec hrun hreleased).1
    have hflags := releaseAll_slots hs hrun
    refine .inr ?_
    simp only [Ntv2Stream.success]
    generalize releaseAll _ = t at hstate hflags ⊢
    exact ⟨⟨hflags, ⟨rfl, rfl, rfl, rfl⟩, hstate⟩, rfl⟩

/-- Release keeps the slots. -/
lemma release_slots (h : SlotInv s) (pOwner : Option ℕ) :
    SlotInv (streamChannelRelease hw pOwner s).1 := by
  rcases @release_cases hw s h pOwner with ⟨hsame | herror, -⟩ | ⟨hreleased, -⟩
  · rw [hsame]
    exact h
  · rw [herror]
    exact h.congr rfl rfl rfl rfl rfl
  · exact hreleased.slots

/-! ### Start, stop and flush -/

/-- Linking the active slot keeps the slots. -/
lemma linkActive_slots (h : SlotInv s) {ok : Bool} (hlink : linkActive hw s = (t, ok)) :
    SlotInv t := by
  rw [linkActive] at hlink
  split_ifs at hlink
  · have hs : SlotInv { s with
        userChannel := { s.userChannel with mActiveCount := 0, mRepeatCount := 0, mIdleCount := 0 }
        initCount := 0
        nextIndex := s.activeIndex } := h.setNext rfl rfl rfl rfl (.inl rfl)
    exact hs.links (link_spec hlink).1 rfl
  · obtain ⟨rfl, rfl⟩ := Prod.mk.inj hlink
    exact h

/-- The engine starts, or not. -/
lemma run_slots (h : SlotInv s) {target : Ntv2StreamState} {ok : Bool}
    (hrun : dmaOpsStreamRun target hw s = (t, ok)) : SlotInv t := by
  rw [dmaOpsStreamRun] at hrun
  split_ifs at hrun <;> obtain ⟨rfl, rfl⟩ := Prod.mk.inj hrun
  · exact h
  · exact h.congr rfl rfl rfl rfl rfl
  · exact h.congr rfl rfl rfl rfl rfl

section Starting

variable {P : Ntv2Stream → Prop}

/-- **What linking the active slot and running the engine keep** is kept by a start. -/
lemma start_induct (hlink : ∀ {t ok}, linkActive hw s = (t, ok) → P t)
    (hrun : ∀ {target t u ok}, P t → dmaOpsStreamRun target hw t = (u, ok) → P u) (h : P s) :
    P (streamChannelStart hw s).1 := by
  rw [streamChannelStart]
  split_ifs
  · exact h
  · exact h
  · exact h
  rcases hl : linkActive hw s with ⟨t, ok⟩
  have ht := hlink hl
  cases ok with
  | false => exact ht
  | true =>
      simp only
      rcases hr : dmaOpsStreamStart hw t with ⟨u, ran⟩
      cases ran <;> exact hrun ht hr

/-- A stop whose engine fails leaves the stream in error, too. -/
lemma stop_induct (hlink : ∀ {t ok}, linkActive hw s = (t, ok) → P t)
    (hrun : ∀ {target t u ok}, P t → dmaOpsStreamRun target hw t = (u, ok) → P u)
    (herror : ∀ {t}, P t → P { t with streamState := .error }) (h : P s) :
    P (streamChannelStop hw s).1 := by
  rw [streamChannelStop]
  split_ifs
  · exact h
  · exact h
  rcases hl : linkActive hw s with ⟨t, ok⟩
  have ht := hlink hl
  cases ok with
  | false => exact ht
  | true =>
      simp only
      rcases hr : dmaOpsStreamStop hw t with ⟨u, ran⟩
      cases ran with
      | false => exact herror (hrun ht hr)
      | true => exact hrun ht hr

end Starting

/-- Start keeps the slots. -/
lemma start_slots (h : SlotInv s) : SlotInv (streamChannelStart hw s).1 :=
  start_induct (P := SlotInv) (linkActive_slots h) (fun ht hrun => run_slots ht hrun) h

/-- Stop keeps the slots. -/
lemma stop_slots (h : SlotInv s) : SlotInv (streamChannelStop hw s).1 :=
  stop_induct (P := SlotInv) (linkActive_slots h) (fun ht hrun => run_slots ht hrun)
    (fun ht => ht.congr rfl rfl rfl rfl rfl) h

/-- Flush keeps the slots. -/
lemma flush_call_slots (h : SlotInv s) : SlotInv (streamChannelFlush hw s).1 := by
  rw [streamChannelFlush]
  split_ifs
  · exact h
  · exact h
  · exact h
  · exact flushLoop_slots h _ _ _

/-! ### Buffers -/

lemma SlotInv.head_free (h : SlotInv s) : (s.streamBuffers s.headIndex).queued = false := by
  by_contra hq
  rw [Bool.not_eq_false, h.queued] at hq
  exact Nat.lt_irrefl _ hq

/-- **Queueing** a buffer is refused, resets the slot at the head, or fills it. -/
lemma bufferQueue_cases (h : SlotInv s) (pOwner : Option ℕ) (pBuffer : NTV2StreamBuffer) :
    ((streamBufferQueue hw pOwner pBuffer s).2.mStatus ≠ NTV2_STREAM_STATUS_SUCCESS ∧
      ((streamBufferQueue hw pOwner pBuffer s).1 = s ∨
        (streamBufferQueue hw pOwner pBuffer s).1 =
          s.setBuffer s.headIndex { userBuffer := pBuffer })) ∨
    ((streamBufferQueue hw pOwner pBuffer s).2.mStatus = NTV2_STREAM_STATUS_SUCCESS ∧
      s.headIndex + 1 ≠ s.tailIndex ∧ ∃ page, (streamBufferQueue hw pOwner pBuffer s).1 =
        { s.setBuffer s.headIndex
            { userBuffer := { pBuffer with mQueueTime := hw.ntv2Time100ns }
              queued := true
              dmaBuffer := some page } with
          headIndex := s.headIndex + 1
          userChannel :=
            { s.userChannel with mQueueCount := s.userChannel.mQueueCount + 1 } }) := by
  rw [streamBufferQueue]
  split_ifs with hnone hlock hclosed howner hfull hqueued
  · exact .inl ⟨Nat.zero_ne_one, .inl rfl⟩
  · exact .inl ⟨refuseBuffer_ne_success _ _ _, .inl rfl⟩
  · exact .inl ⟨refuseBuffer_ne_success _ _ _, .inl rfl⟩
  · exact .inl ⟨refuseBuffer_ne_success _ _ _, .inl rfl⟩
  · exact .inl ⟨refuseBuffer_ne_success _ _ _, .inl rfl⟩
  · exact .inl ⟨refuseBuffer_ne_success _ _ _, .inl rfl⟩
  simp only
  rcases hqueue : dmaOpsBufferQueue hw (s.setUserBuffer s.headIndex fun _ => pBuffer) s.headIndex
    with ⟨t, ok⟩
  have hslot : (s.setUserBuffer s.headIndex fun _ => pBuffer).streamBuffers s.headIndex =
      { s.streamBuffers s.headIndex with userBuffer := pBuffer } := Function.update_self _ _ _
  have hfree : ((s.setUserBuffer s.headIndex fun _ => pBuffer).streamBuffers
      s.headIndex).queued = false := by
    rw [hslot]
    exact h.head_free
  obtain ⟨-, hreset, htaken⟩ := queue_exact hfree hqueue
  rw [hslot] at hreset htaken
  cases ok with
  | false =>
      have ht := hreset rfl
      rw [Ntv2Stream.setUserBuffer, setBuffer_setBuffer] at ht
      exact .inl ⟨refuseBuffer_ne_success _ _ _, .inr ht⟩
  | true =>
      obtain ⟨page, ht⟩ := htaken rfl
      rw [Ntv2Stream.setUserBuffer, setBuffer_setBuffer] at ht
      refine .inr ⟨rfl, fun he => hfull (decide_eq_true he), page, ?_⟩
      subst ht
      simp only [Ntv2Stream.setUserBuffer, setBuffer_streamBuffers, Function.update_self,
        setBuffer_setBuffer, setBuffer_userChannel]
      rfl

/-- A slot that is not queued may be reset. -/
lemma SlotInv.reset (h : SlotInv s) (user : NTV2StreamBuffer) :
    SlotInv (s.setBuffer s.headIndex { userBuffer := user }) := by
  have hfree := h.head_free
  have hfresh := h.fresh _ hfree
  have hslot : ∀ i, ((s.setBuffer s.headIndex { userBuffer := user }).streamBuffers i).queued =
      (s.streamBuffers i).queued ∧
      ((s.setBuffer s.headIndex { userBuffer := user }).streamBuffers i).linked =
        (s.streamBuffers i).linked ∧
      ((s.setBuffer s.headIndex { userBuffer := user }).streamBuffers i).completed =
        (s.streamBuffers i).completed ∧
      ((s.setBuffer s.headIndex { userBuffer := user }).streamBuffers i).flushed =
        (s.streamBuffers i).flushed := by
    intro i
    rcases eq_or_ne i s.headIndex with rfl | hi
    · rw [setBuffer_streamBuffers, Function.update_self, hfree, hfresh.1, hfresh.2.1, hfresh.2.2]
      exact ⟨rfl, rfl, rfl, rfl⟩
    · rw [setBuffer_streamBuffers, Function.update_of_ne hi]
      exact ⟨rfl, rfl, rfl, rfl⟩
  refine ⟨fun i => ?_, fun i hi => ?_, fun i hi => ?_, fun i hi => ?_, fun hne hl => ?_⟩
  · rw [(hslot i).1]
    exact h.queued i
  · rw [(hslot i).1] at hi
    rw [(hslot i).2.1, (hslot i).2.2.1, (hslot i).2.2.2]
    exact h.fresh i hi
  · rcases eq_or_ne i s.headIndex with rfl | hne
    · rw [setBuffer_streamBuffers, Function.update_self]
    · rw [(hslot i).1] at hi
      rw [setBuffer_streamBuffers, Function.update_of_ne hne]
      exact h.kept i hi
  · rw [(hslot i).2.2.1] at hi
    rw [Ntv2Stream.activeBuffer, Ntv2Stream.nextBuffer, (hslot _).1, (hslot _).1]
    exact h.behind i hi
  · rw [Ntv2Stream.activeBuffer, (hslot _).2.1] at hl
    rw [Ntv2Stream.nextBuffer, (hslot _).1]
    exact h.ahead hne hl

/-- **One more buffer** at the head. -/
lemma SlotInv.push (h : SlotInv s) {b : Ntv2StreamBuffer} (hfull : s.headIndex + 1 ≠ s.tailIndex)
    (hb : b.flags = ⟨true, false, false, false, false⟩)
    (hbuffers : t.streamBuffers = Function.update s.streamBuffers s.headIndex b)
    (hhead : t.headIndex = s.headIndex + 1) (htail : t.tailIndex = s.tailIndex)
    (hactive : t.activeIndex = s.activeIndex) (hnext : t.nextIndex = s.nextIndex) :
    SlotInv t := by
  rw [Ntv2StreamBuffer.flags, SlotFlags.mk.injEq] at hb
  obtain ⟨hq, hl, hc, hf, hr⟩ := hb
  have hgap : gap s.tailIndex (s.headIndex + 1) = gap s.tailIndex s.headIndex + 1 := gap_succ hfull
  have hself : t.streamBuffers s.headIndex = b := by
    rw [hbuffers, Function.update_self]
  have hother : ∀ i, i ≠ s.headIndex → t.streamBuffers i = s.streamBuffers i := by
    intro i hi
    rw [hbuffers, Function.update_of_ne hi]
  have hqueued : ∀ i, (s.streamBuffers i).queued = true → t.streamBuffers i = s.streamBuffers i := by
    intro i hi
    refine hother i fun he => ?_
    rw [he, h.head_free] at hi
    exact Bool.noConfusion hi
  refine ⟨fun i => ?_, fun i hi => ?_, fun i hi => ?_, fun i hi => ?_, fun hne hlinked => ?_⟩
  · rw [htail, hhead, hgap]
    rcases eq_or_ne i s.headIndex with rfl | hi
    · rw [hself, hq]
      exact ⟨fun _ => Nat.lt_succ_self _, fun _ => rfl⟩
    · have hne : gap s.tailIndex i ≠ gap s.tailIndex s.headIndex := fun he => hi (gap_inj he)
      rw [hother i hi, h.queued i]
      omega
  · rcases eq_or_ne i s.headIndex with rfl | hne
    · rw [hself]
      exact ⟨hl, hc, hf⟩
    · rw [hother i hne] at hi ⊢
      exact h.fresh i hi
  · rcases eq_or_ne i s.headIndex with rfl | hne
    · rw [hself, hr]
    · rw [hother i hne] at hi ⊢
      exact h.kept i hi
  · have hne : i ≠ s.headIndex := by
      rintro rfl
      rw [hself, hc] at hi
      exact Bool.noConfusion hi
    rw [hother i hne] at hi
    obtain ⟨ha, hn, hlt, hlt'⟩ := h.behind i hi
    rw [Ntv2Stream.activeBuffer, Ntv2Stream.nextBuffer, htail, hactive, hnext, hqueued _ ha,
      hqueued _ hn]
    exact ⟨ha, hn, hlt, hlt'⟩
  · rw [hactive, hnext] at hne
    rw [Ntv2Stream.activeBuffer, hactive] at hlinked
    have hactiveNe : s.activeIndex ≠ s.headIndex := by
      intro he
      rw [he, hself, hl] at hlinked
      exact Bool.noConfusion hlinked
    rw [hother _ hactiveNe] at hlinked
    obtain ⟨hn, hlt⟩ := h.ahead hne hlinked
    rw [Ntv2Stream.nextBuffer, htail, hactive, hnext, hqueued _ hn]
    exact ⟨hn, hlt⟩

/-- Queueing a buffer keeps the slots. -/
lemma bufferQueue_slots (h : SlotInv s) (pOwner : Option ℕ) (pBuffer : NTV2StreamBuffer) :
    SlotInv (streamBufferQueue hw pOwner pBuffer s).1 := by
  rcases @bufferQueue_cases hw s h pOwner pBuffer with
    ⟨-, hsame | hreset⟩ | ⟨-, hfull, page, htaken⟩
  · rw [hsame]
    exact h
  · rw [hreset]
    exact h.reset pBuffer
  · rw [htaken]
    exact h.push hfull rfl rfl rfl rfl rfl rfl

/-- **Releasing** a buffer is refused, or takes the slot at the tail out. -/
lemma bufferRelease_cases (h : SlotInv s) (pOwner : Option ℕ) :
    ((streamBufferRelease hw pOwner s).2.mStatus ≠ NTV2_STREAM_STATUS_SUCCESS ∧
      (streamBufferRelease hw pOwner s).1 = s) ∨
    ((streamBufferRelease hw pOwner s).2.mStatus = NTV2_STREAM_STATUS_SUCCESS ∧
      (s.streamBuffers s.tailIndex).queued = true ∧
      ((s.streamBuffers s.tailIndex).completed = true ∨
        (s.streamBuffers s.tailIndex).flushed = true) ∧
      ∃ b : Ntv2StreamBuffer, b.flags = ⟨false, false, false, false, true⟩ ∧
        (streamBufferRelease hw pOwner s).1 = { s.setBuffer s.tailIndex b with
          tailIndex := s.tailIndex + 1
          userChannel :=
            { s.userChannel with mReleaseCount := s.userChannel.mReleaseCount + 1 } }) := by
  simp only [streamBufferRelease]
  split_ifs with hnone hlock hclosed howner hbuffer
  · exact .inl ⟨Nat.zero_ne_one, rfl⟩
  · exact .inl ⟨refuseBuffer_ne_success _ _ _, rfl⟩
  · exact .inl ⟨refuseBuffer_ne_success _ _ _, rfl⟩
  · exact .inl ⟨refuseBuffer_ne_success _ _ _, rfl⟩
  · exact .inl ⟨refuseBuffer_ne_success _ _ _, rfl⟩
  simp only [Bool.or_eq_true, Bool.not_eq_true', not_or, Bool.not_eq_false,
    Bool.or_eq_false_iff, not_and] at hbuffer
  obtain ⟨hqueued, hdone⟩ := hbuffer
  simp only [dmaOpsBufferRelease, h.kept _ hqueued, if_neg Bool.false_ne_true]
  split_ifs
  · exact .inl ⟨refuseBuffer_ne_success _ _ _, rfl⟩
  · refine .inr ⟨rfl, hqueued, ?_, _, ?_, rfl⟩
    · by_cases hc : (s.streamBuffers s.tailIndex).completed = true
      · exact .inl hc
      · exact .inr (hdone (Bool.eq_false_of_not_eq_true hc))
    · rfl

/-- **One buffer less** at the tail. -/
lemma SlotInv.pop (h : SlotInv s) {b : Ntv2StreamBuffer}
    (hqueued : (s.streamBuffers s.tailIndex).queued = true)
    (hb : b.flags = ⟨false, false, false, false, true⟩)
    (hbuffers : t.streamBuffers = Function.update s.streamBuffers s.tailIndex b)
    (hhead : t.headIndex = s.headIndex) (htail : t.tailIndex = s.tailIndex + 1)
    (hactive : t.activeIndex = s.activeIndex) (hnext : t.nextIndex = s.nextIndex) :
    SlotInv t := by
  rw [Ntv2StreamBuffer.flags, SlotFlags.mk.injEq] at hb
  obtain ⟨hq, hl, hc, hf, hr⟩ := hb
  have hself : t.streamBuffers s.tailIndex = b := by
    rw [hbuffers, Function.update_self]
  have hother : ∀ i, i ≠ s.tailIndex → t.streamBuffers i = s.streamBuffers i := by
    intro i hi
    rw [hbuffers, Function.update_of_ne hi]
  have hpos : ∀ i, 0 < gap s.tailIndex i → i ≠ s.tailIndex := by
    rintro i hi rfl
    rw [gap_self] at hi
    exact Nat.lt_irrefl _ hi
  have hgap : ∀ i, i ≠ s.tailIndex → gap t.tailIndex i = gap s.tailIndex i - 1 := by
    intro i hi
    rw [htail]
    exact gap_succ_base hi
  have hnonempty : 0 < gap s.tailIndex s.headIndex := by
    rw [h.queued, gap_self] at hqueued
    exact hqueued
  refine ⟨fun i => ?_, fun i hi => ?_, fun i hi => ?_, fun i hi => ?_, fun hne hlinked => ?_⟩
  · rw [hhead, hgap _ (hpos _ hnonempty)]
    rcases eq_or_ne i s.tailIndex with rfl | hi
    · have hlt := gap_lt s.tailIndex s.headIndex
      rw [hself, hq, htail, gap_succ_base_self]
      exact ⟨Bool.noConfusion, fun hlast => absurd hlast (by omega)⟩
    · have hi' : gap s.tailIndex i ≠ 0 := fun hz => hi (gap_eq_zero.mp hz)
      rw [hother i hi, h.queued i, hgap i hi]
      omega
  · rcases eq_or_ne i s.tailIndex with rfl | hne
    · rw [hself]
      exact ⟨hl, hc, hf⟩
    · rw [hother i hne] at hi ⊢
      exact h.fresh i hi
  · rcases eq_or_ne i s.tailIndex with rfl | hne
    · rw [hself, hq] at hi
      exact Bool.noConfusion hi
    · rw [hother i hne] at hi ⊢
      exact h.kept i hi
  · have hne : i ≠ s.tailIndex := by
      rintro rfl
      rw [hself, hc] at hi
      exact Bool.noConfusion hi
    rw [hother i hne] at hi
    obtain ⟨ha, hn, hlt, hlt'⟩ := h.behind i hi
    have hactiveNe := hpos _ (Nat.zero_le _ |>.trans_lt hlt)
    have hnextNe := hpos _ (Nat.zero_le _ |>.trans_lt hlt')
    have hi' : gap s.tailIndex i ≠ 0 := fun hz => hne (gap_eq_zero.mp hz)
    rw [Ntv2Stream.activeBuffer, Ntv2Stream.nextBuffer, hactive, hnext, hother _ hactiveNe,
      hother _ hnextNe, hgap i hne, hgap _ hactiveNe, hgap _ hnextNe]
    exact ⟨ha, hn, by omega, by omega⟩
  · rw [hactive, hnext] at hne
    rw [Ntv2Stream.activeBuffer, hactive] at hlinked
    have hactiveNe : s.activeIndex ≠ s.tailIndex := by
      intro he
      rw [he, hself, hl] at hlinked
      exact Bool.noConfusion hlinked
    rw [hother _ hactiveNe] at hlinked
    obtain ⟨hn, hlt⟩ := h.ahead hne hlinked
    have hnextNe := hpos _ (Nat.zero_le _ |>.trans_lt hlt)
    have hactive' : gap s.tailIndex s.activeIndex ≠ 0 := fun hz => hactiveNe (gap_eq_zero.mp hz)
    rw [Ntv2Stream.nextBuffer, hactive, hnext, hother _ hnextNe, hgap _ hactiveNe, hgap _ hnextNe]
    exact ⟨hn, by omega⟩

/-- Releasing a buffer keeps the slots. -/
lemma bufferRelease_slots (h : SlotInv s) (pOwner : Option ℕ) :
    SlotInv (streamBufferRelease hw pOwner s).1 := by
  rcases @bufferRelease_cases hw s h pOwner with ⟨-, hsame⟩ | ⟨-, hqueued, -, b, hb, htaken⟩
  · rw [hsame]
    exact h
  · rw [htaken]
    exact h.pop hqueued hb rfl rfl rfl rfl rfl

/-! ### Advance -/

/-- What linking the next slot does: nothing, or the search finds one and it is next. -/
lemma linkNext_cases (s : Ntv2Stream) (status : Int) :
    (linkNext hw s status).1 = s ∨
      ∃ j t e, findNext s NTV2_STREAM_NUM_BUFFERS (queueNext s.activeIndex) = some j ∧
        Links s t ∧ (linkNext hw s status).1 = { t with nextIndex := j, engineState := e } := by
  rw [linkNext]
  split_ifs with hactive
  · cases hfind : findNext s NTV2_STREAM_NUM_BUFFERS (queueNext s.activeIndex) with
    | none => exact .inl rfl
    | some j =>
        simp only
        rcases hlink : dmaOpsBufferLink hw s s.activeIndex j with ⟨t, ok⟩
        cases ok with
        | false => exact .inr ⟨j, t, .error, rfl, (link_spec hlink).1, rfl⟩
        | true => exact .inr ⟨j, t, t.engineState, rfl, (link_spec hlink).1, rfl⟩
  · exact .inl rfl

/-- **An advance** does nothing, counts, or moves on and links the slot behind. -/
lemma advance_cases (hw : StreamHardware) (s : Ntv2Stream) :
    (¬ s.Running ∧ (streamChannelAdvance hw s).1 = s) ∨
    (s.Running ∧ (s.engineState = .initialized ∧ s.initCount < s.initAdvance) ∧
      (streamChannelAdvance hw s).1 = { s with initCount := s.initCount + 1 }) ∨
    (s.Running ∧ ¬ (s.engineState = .initialized ∧ s.initCount < s.initAdvance) ∧
      ∃ t e, Advances s t ∧
        (streamChannelAdvance hw s).1 = (linkNext hw { t with engineState := e } 1).1) := by
  rw [streamChannelAdvance]
  split_ifs with hstate hinit
  · rw [← not_or] at hstate
    exact .inl ⟨hstate, rfl⟩
  · rw [← not_or, not_not] at hstate
    exact .inr (.inl ⟨hstate, hinit, rfl⟩)
  · rw [← not_or, not_not] at hstate
    have hmoves := advances_spec hw s
    generalize moveActive hw (countTransfer (completeActive hw s)) = t at hmoves
    have hrun : t.Running := by
      rwa [Ntv2Stream.Running, hmoves.streamState]
    obtain ⟨e, he⟩ := streamAdvance_spec hrun
    rw [he]
    exact .inr (.inr ⟨hstate, hinit, t, e, hmoves, rfl⟩)

/-- **Moving on** keeps the slots. -/
lemma SlotInv.advances (h : SlotInv s) (hm : Advances s t) : SlotInv t := by
  have hactive : t.activeBuffer.queued = s.nextBuffer.queued := by
    rw [Ntv2Stream.activeBuffer, hm.activeIndex]
    exact (hm.alike _).queued
  have hnext : t.nextBuffer.queued = s.nextBuffer.queued := by
    rw [Ntv2Stream.nextBuffer, hm.nextIndex]
    exact (hm.alike _).queued
  refine ⟨fun i => ?_, fun i hi => ?_, fun i hi => ?_, fun i hi => ?_, fun hne _ => ?_⟩
  · rw [(hm.alike i).queued, hm.tailIndex, hm.headIndex]
    exact h.queued i
  · rw [(hm.alike i).queued] at hi
    obtain ⟨hl, hc, hf⟩ := h.fresh i hi
    rw [(hm.alike i).linked, (hm.alike i).flushed]
    refine ⟨hl, Bool.eq_false_of_not_eq_true fun hcompleted => ?_, hf⟩
    rcases (hm.completed i).mp hcompleted with hc' | ⟨rfl, -, hq, -⟩
    · exact Bool.noConfusion (hc.symm.trans hc')
    · exact Bool.noConfusion (hi.symm.trans hq)
  · rw [(hm.alike i).queued] at hi
    rw [(hm.alike i).released]
    exact h.kept i hi
  · rw [hactive, hnext, hm.tailIndex, hm.activeIndex, hm.nextIndex]
    rcases (hm.completed i).mp hi with hc | ⟨rfl, hne, -, hl, -⟩
    · obtain ⟨-, hn, -, hlt⟩ := h.behind i hc
      exact ⟨hn, hn, hlt, hlt⟩
    · obtain ⟨hn, hlt⟩ := h.ahead hne hl
      exact ⟨hn, hn, hlt, hlt⟩
  · exact absurd (hm.activeIndex.trans hm.nextIndex.symm) hne

/-- The slot that the search finds behind a queued active one is queued. -/
lemma SlotInv.found (h : SlotInv s) {j : StreamIndex}
    (hfind : findNext s NTV2_STREAM_NUM_BUFFERS (queueNext s.activeIndex) = some j)
    (hq : s.activeBuffer.queued = true) : (s.streamBuffers j).queued = true ∧
      gap s.tailIndex s.activeIndex < gap s.tailIndex j := by
  obtain ⟨-, hlt, -⟩ := findNext_flushed hfind
  obtain ⟨hactive, hhead⟩ := gap_between ((h.queued _).mp hq) hlt
  exact ⟨(h.queued j).mpr hhead, hactive⟩

/-- **Linking the next slot** keeps the slots. -/
lemma linkNext_slots (h : SlotInv s) (he : s.activeIndex = s.nextIndex) (status : Int) :
    SlotInv (linkNext hw s status).1 := by
  rcases @linkNext_cases hw s status with hsame | ⟨j, t, e, hfind, hl, hlinked⟩
  · rw [hsame]
    exact h
  · rw [hlinked]
    refine (h.links hl he).setNext rfl rfl rfl rfl (.inr fun hq => ?_)
    rw [Ntv2Stream.activeBuffer, hl.frame.activeIndex, (hl.frame.same _).queued] at hq
    rw [hl.frame.tailIndex, hl.frame.activeIndex, (hl.frame.same _).queued]
    exact h.found hfind hq

/-- Advance keeps the slots. -/
lemma advance_slots (h : SlotInv s) : SlotInv (streamChannelAdvance hw s).1 := by
  rcases advance_cases hw s with ⟨-, hsame⟩ | ⟨-, -, hcount⟩ | ⟨-, -, t, e, hm, hlinked⟩
  · rw [hsame]
    exact h
  · rw [hcount]
    exact h.congr rfl rfl rfl rfl rfl
  · rw [hlinked]
    have ht : SlotInv { t with engineState := e } := (h.advances hm).congr rfl rfl rfl rfl rfl
    exact linkNext_slots ht (hm.activeIndex.trans hm.nextIndex.symm) 1

/-! ### Steps -/

/-- **Every step keeps the slots**. -/
theorem streamStep_slots (h : SlotInv s) (call : StreamHardware × StreamOp) :
    SlotInv (streamStep s call) := by
  rcases call with ⟨hw, op⟩
  cases op with
  | channelInitialize pOwner => exact initialize_slots h pOwner
  | channelRelease pOwner => exact release_slots h pOwner
  | channelStart => exact start_slots h
  | channelStop => exact stop_slots h
  | channelFlush => exact flush_call_slots h
  | channelAdvance => exact advance_slots h
  | bufferQueue pOwner pBuffer => exact bufferQueue_slots h pOwner pBuffer
  | bufferRelease pOwner => exact bufferRelease_slots h pOwner

/-- The slots where a run starts. -/
lemma streamEnable_slots (hw : StreamHardware) (initAdvance maxDescriptors : ℕ) :
    SlotInv (streamEnable hw (streamConfigure initAdvance maxDescriptors)) := by
  have hconfigure : SlotInv (streamConfigure initAdvance maxDescriptors) :=
    .empty (fun _ => ⟨rfl, rfl, rfl, rfl⟩) rfl
  have hreleased := @release_slots hw _ hconfigure none
  rw [streamEnable]
  exact hreleased.congr rfl rfl rfl rfl rfl

end LibAjaNtv2
