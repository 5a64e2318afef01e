import Mathlib.Tactic
import LibAjaNtv2.Stream.InUse

/-!
The order in which the engine leaves the slots.

* `OrderInv`: the slots before the active one are completed or flushed;
* `BufferAccepted`, `FifoStepOk`: the steps that keep it so;
* `flushLoop_marks`: a flush marks the newest slots;
* `streamStep_order`: **the order over a step**.
-/

namespace LibAjaNtv2

open Cyclic

variable {hw : StreamHardware} {s t u : Ntv2Stream}

/-! ### The order -/

/-- A buffer that may be returned. -/
def Ntv2StreamBuffer.Done (b : Ntv2StreamBuffer) : Prop := b.completed = true ∨ b.flushed = true

/-- The engine may move on from the active slot to the next one behind it. -/
def Ntv2Stream.MovesOn (s : Ntv2Stream) : Prop :=
  s.activeBuffer.queued = true → s.nextBuffer.queued = true →
    gap s.tailIndex s.activeIndex < gap s.tailIndex s.nextIndex →
    s.activeBuffer.linked = true ∨ s.activeBuffer.flushed = true

instance (b : Ntv2StreamBuffer) : Decidable b.Done := inferInstanceAs (Decidable (_ ∨ _))

instance (s : Ntv2Stream) : Decidable s.MovesOn := inferInstanceAs (Decidable (_ → _))

/-- The slots before the active one are done, and those before the next one if the engine may move
there. -/
structure OrderInv (s : Ntv2Stream) : Prop where
  active : s.activeBuffer.queued = true → ∀ i, (s.streamBuffers i).queued = true →
    gap s.tailIndex i < gap s.tailIndex s.activeIndex → (s.streamBuffers i).Done
  next : s.activeIndex ≠ s.nextIndex → s.nextBuffer.queued = true → s.MovesOn →
    ∀ i, (s.streamBuffers i).queued = true →
      gap s.tailIndex i < gap s.tailIndex s.nextIndex →
      i = s.activeIndex ∨ (s.streamBuffers i).Done

/-- A buffer is accepted. -/
structure BufferAccepted (hw : StreamHardware) (pOwner : Option ℕ) (pBuffer : NTV2StreamBuffer)
    (s : Ntv2Stream) : Prop where
  lock : hw.lockTimeout = false
  state : ¬ s.Closed
  owner : pOwner = s.owner
  full : s.headIndex + 1 ≠ s.tailIndex
  mapped : BufferMapped hw pOwner pBuffer

/-- The steps that keep the order: the engine does not move on from a slot that it could not link,
and no buffer is queued in the active or the next slot while another one is pending. -/
def FifoStepOk (s : Ntv2Stream) (call : StreamHardware × StreamOp) : Prop :=
  match call.2 with
  | .channelAdvance => s.Running →
      ¬ (s.engineState = .initialized ∧ s.initCount < s.initAdvance) →
      s.activeIndex ≠ s.nextIndex → s.MovesOn
  | .bufferQueue pOwner pBuffer => BufferAccepted call.1 pOwner pBuffer s →
      s.headIndex = s.activeIndex ∨ s.headIndex = s.nextIndex →
      ∀ i, (s.streamBuffers i).queued = true → (s.streamBuffers i).Done
  | _ => True

instance (hw : StreamHardware) (pOwner : Option ℕ) (pBuffer : NTV2StreamBuffer) (s : Ntv2Stream) :
    Decidable (BufferAccepted hw pOwner pBuffer s) :=
  decidable_of_iff (hw.lockTimeout = false ∧ ¬ s.Closed ∧ pOwner = s.owner ∧
      s.headIndex + 1 ≠ s.tailIndex ∧ BufferMapped hw pOwner pBuffer)
    ⟨fun ⟨hlock, hstate, howner, hfull, hmapped⟩ => ⟨hlock, hstate, howner, hfull, hmapped⟩,
      fun h => ⟨h.lock, h.state, h.owner, h.full, h.mapped⟩⟩

instance (s : Ntv2Stream) : (call : StreamHardware × StreamOp) → Decidable (FifoStepOk s call)
  | (_, .channelAdvance) => inferInstanceAs (Decidable (_ → _))
  | (_, .bufferQueue _ _) => inferInstanceAs (Decidable (_ → _))
  | (_, .channelInitialize _) | (_, .channelRelease _) | (_, .channelStart) | (_, .channelStop)
  | (_, .channelFlush) | (_, .bufferRelease _) => inferInstanceAs (Decidable True)

/-- A buffer that was queued had been accepted. -/
lemma bufferAccepted {pOwner : Option ℕ} {pBuffer : NTV2StreamBuffer}
    (h : (streamBufferQueue hw pOwner pBuffer s).2.mStatus = NTV2_STREAM_STATUS_SUCCESS) :
    BufferAccepted hw pOwner pBuffer s := by
  rw [streamBufferQueue] at h
  split_ifs at h with hnone hlock hclosed howner hfull hqueued
  · exact absurd h Nat.zero_ne_one
  · exact absurd h (refuseBuffer_ne_success _ _ _)
  · exact absurd h (refuseBuffer_ne_success _ _ _)
  · exact absurd h (refuseBuffer_ne_success _ _ _)
  · exact absurd h (refuseBuffer_ne_success _ _ _)
  · exact absurd h (refuseBuffer_ne_success _ _ _)
  rw [not_not] at howner
  refine ⟨Bool.eq_false_of_not_eq_true hlock, hclosed, howner, fun he => hfull (decide_eq_true he), ?_⟩
  simp only at h
  rcases hqueue : dmaOpsBufferQueue hw (s.setUserBuffer s.headIndex fun _ => pBuffer) s.headIndex
    with ⟨t, ok⟩
  have hslot : (s.setUserBuffer s.headIndex fun _ => pBuffer).streamBuffers s.headIndex =
      { s.streamBuffers s.headIndex with userBuffer := pBuffer } := Function.update_self _ _ _
  have hfree : ((s.setUserBuffer s.headIndex fun _ => pBuffer).streamBuffers
      s.headIndex).queued = false := by
    rw [hslot]
    exact Bool.eq_false_of_not_eq_true hqueued
  obtain ⟨hexact, -⟩ := queue_exact hfree hqueue
  rw [hqueue] at h
  cases ok with
  | false => exact absurd h (refuseBuffer_ne_success _ _ _)
  | true =>
      have hmapped := hexact.mp rfl
      rw [hslot] at hmapped
      rw [howner]
      exact hmapped

/-- The order does not depend on the states and the counts. -/
lemma OrderInv.congr (h : OrderInv s) (hbuffers : t.streamBuffers = s.streamBuffers)
    (htail : t.tailIndex = s.tailIndex) (hactive : t.activeIndex = s.activeIndex)
    (hnext : t.nextIndex = s.nextIndex) : OrderInv t := by
  obtain ⟨ha, hn⟩ := h
  constructor
  · rw [Ntv2Stream.activeBuffer, hbuffers, htail, hactive]
    exact ha
  · rw [Ntv2Stream.nextBuffer, Ntv2Stream.MovesOn, Ntv2Stream.activeBuffer, Ntv2Stream.nextBuffer,
      hbuffers, htail, hactive, hnext]
    exact hn

/-- An engine that may not move on is on a queued slot. -/
lemma queued_of_not_movesOn (h : ¬ s.MovesOn) : s.activeBuffer.queued = true ∧
    s.activeBuffer.linked = false ∧ s.activeBuffer.flushed = false ∧
    s.nextBuffer.queued = true ∧
    gap s.tailIndex s.activeIndex < gap s.tailIndex s.nextIndex := by
  rw [Ntv2Stream.MovesOn] at h
  obtain ⟨hq, h⟩ := Classical.not_imp.mp h
  obtain ⟨hn, h⟩ := Classical.not_imp.mp h
  obtain ⟨hlt, h⟩ := Classical.not_imp.mp h
  rw [not_or, Bool.not_eq_true, Bool.not_eq_true] at h
  exact ⟨hq, h.1, h.2, hn, hlt⟩

/-- The slots that are done stay done: what linking and flushing keep of the order. -/
lemma OrderInv.frame (h : OrderInv s) (hf : Frame s t) (hnext : t.nextIndex = s.nextIndex)
    (hflushed : ∀ i, (s.streamBuffers i).queued = true → (s.streamBuffers i).flushed = true →
      (t.streamBuffers i).flushed = true)
    (hmoves : s.activeIndex ≠ s.nextIndex → ¬ s.MovesOn → t.MovesOn →
      ∀ i, (s.streamBuffers i).queued = true →
        gap s.tailIndex s.activeIndex ≤ gap s.tailIndex i → (t.streamBuffers i).Done) :
    OrderInv t := by
  have hdone : ∀ i, (s.streamBuffers i).queued = true → (s.streamBuffers i).Done →
      (t.streamBuffers i).Done := by
    intro i hq hi
    rw [Ntv2StreamBuffer.Done, (hf.same i).completed]
    exact hi.imp_right (hflushed i hq)
  refine ⟨fun hq i hi hlt => ?_, fun hne hq hm i hi hlt => ?_⟩ <;> rw [(hf.same i).queued] at hi
  · rw [Ntv2Stream.activeBuffer, hf.activeIndex, (hf.same _).queued] at hq
    rw [hf.tailIndex, hf.activeIndex] at hlt
    exact hdone i hi (h.active hq i hi hlt)
  · rw [hf.activeIndex, hnext] at hne
    rw [hf.tailIndex, hnext] at hlt
    rw [hf.activeIndex]
    by_cases hm' : s.MovesOn
    · rw [Ntv2Stream.nextBuffer, hnext, (hf.same _).queued] at hq
      exact (h.next hne hq hm' i hi hlt).imp_right (hdone i hi)
    · have hqa := (queued_of_not_movesOn hm').1
      rcases Nat.lt_or_ge (gap s.tailIndex i) (gap s.tailIndex s.activeIndex) with hlt' | hle
      · exact .inr (hdone i hi (h.active hqa i hi hlt'))
      · exact .inr (hmoves hne hm' hm i hi hle)

lemma OrderInv.links (h : OrderInv s) (hl : Links s t) (he : s.activeIndex = s.nextIndex) :
    OrderInv t :=
  h.frame hl.frame hl.nextIndex (fun i _ hi => (hl.flushed i).trans hi) fun hne => absurd he hne

/-- The active slot is next. -/
lemma OrderInv.setNext (h : OrderInv s) (hbuffers : t.streamBuffers = s.streamBuffers)
    (htail : t.tailIndex = s.tailIndex) (hactive : t.activeIndex = s.activeIndex)
    (hnext : t.nextIndex = s.activeIndex) : OrderInv t := by
  refine ⟨?_, fun hne => absurd (hactive.trans hnext.symm) hne⟩
  rw [Ntv2Stream.activeBuffer, hbuffers, htail, hactive]
  exact h.active

/-! ### Flushing -/

/-- A slot that is flushed stays flushed, and no other slot is touched. -/
lemma flush_marks {i : StreamIndex} {ok : Bool} (h : dmaOpsBufferFlush s i = (t, ok)) :
    t.headIndex = s.headIndex ∧ t.tailIndex = s.tailIndex ∧
      (∀ j, j ≠ i → t.streamBuffers j = s.streamBuffers j) ∧
      (ok = false → t = s) ∧ (ok = true → (t.streamBuffers i).flushed = true) := by
  simp only [dmaOpsBufferFlush] at h
  split_ifs at h with hflushed hnot hrun <;> obtain ⟨rfl, rfl⟩ := Prod.mk.inj h
  · exact ⟨rfl, rfl, fun _ _ => rfl, Bool.noConfusion, fun _ => hflushed⟩
  · exact ⟨rfl, rfl, fun _ _ => rfl, fun _ => rfl, Bool.noConfusion⟩
  · exact ⟨rfl, rfl, fun _ _ => rfl, fun _ => rfl, Bool.noConfusion⟩
  · refine ⟨rfl, rfl, fun j hj => ?_, Bool.noConfusion, fun _ => ?_⟩
    · rw [setBuffer_streamBuffers, Function.update_of_ne hj]
    · rw [setBuffer_streamBuffers, Function.update_self]

/-- **A flush marks the newest slots**: those from a place on. -/
lemma flushLoop_marks (now : Int) (fuel : ℕ) (i : StreamIndex) (s : Ntv2Stream)
    (hwalk : ∀ j, gap s.tailIndex i ≤ gap s.tailIndex j →
      gap s.tailIndex j < gap s.tailIndex s.headIndex → (s.streamBuffers j).flushed = true) :
    ∃ p, ∀ j, gap s.tailIndex j < gap s.tailIndex s.headIndex →
      (((flushLoop now fuel i s).streamBuffers j).flushed = true ↔
        (s.streamBuffers j).flushed = true ∨ p ≤ gap s.tailIndex j) := by
  have hstay : ∃ p, ∀ j, gap s.tailIndex j < gap s.tailIndex s.headIndex →
      ((s.streamBuffers j).flushed = true ↔
        (s.streamBuffers j).flushed = true ∨ p ≤ gap s.tailIndex j) :=
    ⟨gap s.tailIndex i, fun j hj => ⟨.inl, fun h => h.elim id fun hle => hwalk j hle hj⟩⟩
  induction fuel generalizing i s with
  | zero => exact hstay
  | succ fuel ih =>
      rw [flushLoop]
      split_ifs with hi
      · exact hstay
      rcases hflush : dmaOpsBufferFlush s (queuePrev i) with ⟨t, ok⟩
      obtain ⟨hhead, htail, hother, hno, hyes⟩ := flush_marks hflush
      cases ok with
      | false =>
          rw [hno rfl]
          exact hstay
      | true =>
          -- the place before `i`: everything from there on is flushed now
          have hprev : queuePrev i + 1 = i := by
            rw [queuePrev, sub_add_cancel]
          have hgap : gap s.tailIndex i = gap s.tailIndex (queuePrev i) + 1 := by
            have hsucc := gap_succ (a := s.tailIndex) (x := queuePrev i) (by rwa [hprev])
            rwa [hprev] at hsucc
          obtain ⟨u, hu⟩ : ∃ u, u = t.setUserBuffer (queuePrev i) fun b =>
            { b with mFlushTime := now } := ⟨_, rfl⟩
          have huhead : u.headIndex = s.headIndex := by rw [hu]; exact hhead
          have hutail : u.tailIndex = s.tailIndex := by rw [hu]; exact htail
          have huflushed : ∀ j, (u.streamBuffers j).flushed = true ↔
              (s.streamBuffers j).flushed = true ∨ j = queuePrev i := by
            intro j
            rw [hu, Ntv2Stream.setUserBuffer, setBuffer_streamBuffers]
            rcases eq_or_ne j (queuePrev i) with rfl | hj
            · rw [Function.update_self]
              exact ⟨fun _ => .inr rfl, fun _ => hyes rfl⟩
            · rw [Function.update_of_ne hj, hother j hj]
              exact ⟨.inl, fun h => h.resolve_right hj⟩
          have hwalk' : ∀ j, gap u.tailIndex (queuePrev i) ≤ gap u.tailIndex j →
              gap u.tailIndex j < gap u.tailIndex u.headIndex →
              (u.streamBuffers j).flushed = true := by
            intro j hle hlt
            rw [hutail] at hle hlt
            rw [huhead] at hlt
            rw [huflushed]
            rcases eq_or_ne j (queuePrev i) with rfl | hj
            · exact .inr rfl
            · have hne : gap s.tailIndex j ≠ gap s.tailIndex (queuePrev i) := fun he => hj (gap_inj he)
              exact .inl (hwalk j (by omega) hlt)
          have hstay' : ∃ p, ∀ j, gap u.tailIndex j < gap u.tailIndex u.headIndex →
              ((u.streamBuffers j).flushed = true ↔
                (u.streamBuffers j).flushed = true ∨ p ≤ gap u.tailIndex j) :=
            ⟨gap u.tailIndex (queuePrev i), fun j hj =>
              ⟨.inl, fun h => h.elim id fun hle => hwalk' j hle hj⟩⟩
          obtain ⟨p, hp⟩ := ih (queuePrev i) u hwalk' hstay'
          rw [hutail, huhead] at hp
          simp only
          rw [← hu]
          refine ⟨min p (gap s.tailIndex (queuePrev i)), fun j hj => ?_⟩
          rw [hp j hj, huflushed, or_assoc, min_le_iff]
          constructor
          · rintro (hf | rfl | hle)
            · exact .inl hf
            · exact .inr (.inr le_rfl)
            · exact .inr (.inl hle)
          · rintro (hf | hle | hle)
            · exact .inl hf
            · exact .inr (.inr hle)
            · rcases eq_or_ne j (queuePrev i) with rfl | hji
              · exact .inr (.inl rfl)
              · have hne : gap s.tailIndex j ≠ gap s.tailIndex (queuePrev i) :=
                  fun he => hji (gap_inj he)
                exact .inl (hwalk j (by omega) hj)

/-- **A flush** keeps the order. -/
lemma flush_order (hslots : SlotInv s) (h : OrderInv s) :
    OrderInv (streamChannelFlush hw s).1 := by
  rw [streamChannelFlush]
  split_ifs
  · exact h
  · exact h
  · exact h
  have hf := flushLoop_spec hw.ntv2Time100ns NTV2_STREAM_NUM_BUFFERS s.headIndex s
  obtain ⟨p, hp⟩ := flushLoop_marks hw.ntv2Time100ns NTV2_STREAM_NUM_BUFFERS s.headIndex s
    fun j hle hlt => absurd (hle.trans_lt hlt) (Nat.lt_irrefl _)
  simp only [Ntv2Stream.success]
  generalize flushLoop _ _ _ _ = t at hf hp
  refine h.frame hf.frame hf.nextIndex (fun i hq hi => ?_) fun _ hnot hm i hi hle => ?_
  · exact (hp i ((hslots.queued i).mp hq)).mpr (.inl hi)
  · -- the flush has come down to the active slot
    obtain ⟨hqa, hl, hfl, hqn, hlt⟩ := queued_of_not_movesOn hnot
    have hactive : t.activeBuffer = t.streamBuffers s.activeIndex := by
      rw [Ntv2Stream.activeBuffer, hf.frame.activeIndex]
    have hnext : t.nextBuffer = t.streamBuffers s.nextIndex := by
      rw [Ntv2Stream.nextBuffer, hf.nextIndex]
    rw [Ntv2Stream.MovesOn, hactive, hnext, (hf.frame.same _).queued, (hf.frame.same _).queued,
      hf.frame.tailIndex, hf.frame.activeIndex, hf.nextIndex, hf.linked] at hm
    have hflushed : (t.streamBuffers s.activeIndex).flushed = true := by
      refine (hm hqa hqn hlt).resolve_left fun hl' => ?_
      exact Bool.noConfusion (hl.symm.trans hl')
    have hlow : p ≤ gap s.tailIndex s.activeIndex := by
      refine ((hp _ ((hslots.queued _).mp hqa)).mp hflushed).resolve_left fun hf' => ?_
      exact Bool.noConfusion (hfl.symm.trans hf')
    exact .inr ((hp i ((hslots.queued i).mp hi)).mpr (.inr (hlow.trans hle)))

/-- The flush of all slots completes or flushes every queued one. -/
lemma flushAll_done (h : SlotInv s) (hrun : ¬ s.EngineRunning) (i : StreamIndex)
    (hq : (s.streamBuffers i).queued = true) : ((flushAll s).streamBuffers i).Done := by
  have hfold : ∀ (is : List StreamIndex) (t : Ntv2Stream), SlotInv t → ¬ t.EngineRunning →
      (t.streamBuffers i).queued = true → i ∈ is ∨ (t.streamBuffers i).Done →
      ((is.foldl (fun s i => (dmaOpsBufferFlush s i).1) t).streamBuffers i).Done := by
    intro is
    induction is with
    | nil => exact fun t _ _ _ hi => hi.resolve_left List.not_mem_nil
    | cons k is ih =>
        intro t ht hrun hq hi
        rcases hflush : dmaOpsBufferFlush t k with ⟨u, ok⟩
        have hf := flush_spec t k
        have hu := flush_slots ht k
        rw [hflush] at hf hu
        have hrun' : ¬ u.EngineRunning := by
          rwa [Ntv2Stream.EngineRunning, hf.engineState]
        rw [List.foldl_cons, hflush]
        refine ih u hu hrun' (((hf.frame.same i).queued).trans hq) ?_
        obtain ⟨-, -, hother, hno, hyes⟩ := flush_marks hflush
        rcases eq_or_ne i k with rfl | hik
        · cases ok with
          | true => exact .inr (.inr (hyes rfl))
          | false =>
              -- only a completed slot resists
              simp only [dmaOpsBufferFlush, hq, ht.kept i hq] at hflush
              split_ifs at hflush with hf1 hc hr
              · exact absurd (Prod.mk.inj hflush).2.symm Bool.false_ne_true
              · rw [hno rfl]
                refine .inr (.inl ?_)
                simpa using hc
              · exact absurd hr.1 hrun
              · exact absurd (Prod.mk.inj hflush).2.symm Bool.false_ne_true
        · rw [hother i hik]
          exact hi.imp_left fun hmem => (List.mem_cons.mp hmem).resolve_left hik
  rw [flushAll]
  exact hfold (List.finRange NTV2_STREAM_NUM_BUFFERS) s h hrun hq (.inl (List.mem_finRange i))

/-- Initialize succeeds only if it goes through. -/
lemma initialize_accepted {pOwner : Option ℕ}
    (h : (streamChannelInitialize hw pOwner s).2.mStatus = NTV2_STREAM_STATUS_SUCCESS) :
    ∃ owner, pOwner = some owner ∧ InitializeAccepted hw (some owner) s := by
  cases pOwner with
  | none => exact absurd h Nat.zero_ne_one
  | some owner =>
      simp only [streamChannelInitialize, dmaOpsStreamInitialize] at h
      split_ifs at h with hlock hstate howner hstop
      · exact absurd h (refuse_ne_success _ _ _)
      · exact absurd h (refuse_ne_success _ _ _)
      · exact absurd h (refuse_ne_success _ _ _)
      · exact absurd h (refuse_ne_success _ _ _)
      · rw [not_and_or, not_not, not_not] at howner
        exact ⟨owner, rfl, ⟨Option.some_ne_none _, howner⟩, Bool.eq_false_of_not_eq_true hlock,
          hstate, not_lt.mp hstop⟩

lemma OrderInv.of_done (h : ∀ i, (s.streamBuffers i).queued = true → (s.streamBuffers i).Done) :
    OrderInv s :=
  ⟨fun _ i hi _ => h i hi, fun _ _ _ i hi _ => .inr (h i hi)⟩

/-- **Initialize** keeps the order: it leaves no slot pending. -/
lemma initialize_order (hslots : SlotInv s) (h : OrderInv s) (pOwner : Option ℕ) :
    OrderInv (streamChannelInitialize hw pOwner s).1 := by
  rcases initialize_cases hw pOwner s with hsame | herror | hsuccess
  · rw [hsame]
    exact h
  · rw [herror]
    exact h.congr rfl rfl rfl rfl
  · obtain ⟨owner, rfl, haccepted⟩ := initialize_accepted hsuccess
    have hs : SlotInv { s with
        strDescriptorIndex := 0
        streamState := .initialized
        engineState := .initialized
        owner := some owner } := hslots.congr rfl rfl rfl rfl rfl
    have hrun : ¬ ({ s with
        strDescriptorIndex := 0
        streamState := .initialized
        engineState := .initialized
        owner := some owner } : Ntv2Stream).EngineRunning := by
      rintro (hr | hr) <;> exact Ntv2StreamState.noConfusion hr
    have hframe := (flushAll_spec { s with
        strDescriptorIndex := 0
        streamState := .initialized
        engineState := .initialized
        owner := some owner }).frame
    have hdone := flushAll_done hs hrun
    rw [initialize_eq haccepted, Ntv2Stream.success]
    generalize flushAll _ = t at hframe hdone ⊢
    refine .of_done fun i hi => hdone i ?_
    rw [← (hframe.same i).queued]
    exact hi

/-! ### Start, stop and advance -/

/-- Linking the active slot keeps the order. -/
lemma linkActive_order (h : OrderInv s) {ok : Bool} (hlink : linkActive hw s = (t, ok)) :
    OrderInv t := by
  rw [linkActive] at hlink
  split_ifs at hlink
  · have hs : OrderInv { s with
        userChannel := { s.userChannel with mActiveCount := 0, mRepeatCount := 0, mIdleCount := 0 }
        initCount := 0
        nextIndex := s.activeIndex } := h.setNext rfl rfl rfl rfl
    exact hs.links (link_spec hlink).1 rfl
  · obtain ⟨rfl, rfl⟩ := Prod.mk.inj hlink
    exact h

lemma run_order (h : OrderInv s) {target : Ntv2StreamState} {ok : Bool}
    (hrun : dmaOpsStreamRun target hw s = (t, ok)) : OrderInv t := by
  rw [dmaOpsStreamRun] at hrun
  split_ifs at hrun <;> obtain ⟨rfl, rfl⟩ := Prod.mk.inj hrun <;> exact h.congr rfl rfl rfl rfl

/-- Start keeps the order. -/
lemma start_order (h : OrderInv s) : OrderInv (streamChannelStart hw s).1 :=
  start_induct (P := OrderInv) (linkActive_order h) (fun ht hrun => run_order ht hrun) h

/-- Stop keeps the order. -/
lemma stop_order (h : OrderInv s) : OrderInv (streamChannelStop hw s).1 :=
  stop_induct (P := OrderInv) (linkActive_order h) (fun ht hrun => run_order ht hrun)
    (fun ht => ht.congr rfl rfl rfl rfl) h

/-- **Moving on** keeps the order: the slot that the engine leaves is completed or flushed. -/
lemma OrderInv.advances (hslots : SlotInv s) (h : OrderInv s)
    (hok : s.activeIndex ≠ s.nextIndex → s.MovesOn) (hm : Advances s t) : OrderInv t := by
  have hdone : ∀ i, (s.streamBuffers i).Done → (t.streamBuffers i).Done := by
    intro i hi
    rw [Ntv2StreamBuffer.Done, (hm.alike i).flushed]
    exact hi.imp_left fun hc => (hm.completed i).mpr (.inl hc)
  refine ⟨fun hq i hi hlt => ?_, fun hne => absurd (hm.activeIndex.trans hm.nextIndex.symm) hne⟩
  rw [Ntv2Stream.activeBuffer, hm.activeIndex, (hm.alike _).queued] at hq
  rw [(hm.alike i).queued] at hi
  rw [hm.tailIndex, hm.activeIndex] at hlt
  by_cases hne : s.activeIndex = s.nextIndex
  · rw [← hne] at hlt
    have hqa : s.activeBuffer.queued = true := by
      rw [Ntv2Stream.activeBuffer, hne]
      exact hq
    exact hdone i (h.active hqa i hi hlt)
  · rcases h.next hne hq (hok hne) i hi hlt with rfl | hi'
    · rcases hok hne hi hq hlt with hl | hf
      · by_cases hf : s.activeBuffer.flushed = true
        · exact hdone _ (.inr hf)
        · exact .inl ((hm.completed _).mpr (.inr ⟨rfl, hne, hi, hl,
            Bool.eq_false_of_not_eq_true hf, hslots.kept _ hi⟩))
      · exact hdone _ (.inr hf)
    · exact hdone i hi'

/-- **Linking the next slot** keeps the order: the slots that the search passes are flushed. -/
lemma linkNext_order (hslots : SlotInv s) (h : OrderInv s) (he : s.activeIndex = s.nextIndex)
    (status : Int) : OrderInv (linkNext hw s status).1 := by
  rcases @linkNext_cases hw s status with hsame | ⟨j, t, e, hfind, hl, hlinked⟩
  · rw [hsame]
    exact h
  · obtain ⟨-, -, hbetween⟩ := findNext_flushed hfind
    have ht := h.links hl he
    rw [hlinked]
    refine ⟨?_, fun _ hq _ i hi hlt => ?_⟩
    · exact ht.active
    · simp only [Ntv2Stream.nextBuffer] at hq hi hlt ⊢
      rw [(hl.frame.same j).queued] at hq
      rw [(hl.frame.same i).queued] at hi
      rw [hl.frame.tailIndex] at hlt
      rw [hl.frame.activeIndex, Ntv2StreamBuffer.Done, (hl.frame.same i).completed, hl.flushed]
      by_cases hqa : s.activeBuffer.queued = true
      · rcases lt_trichotomy (gap s.tailIndex i) (gap s.tailIndex s.activeIndex) with hb | hb | hb
        · exact .inr (h.active hqa i hi hb)
        · exact .inl (gap_inj hb)
        · exact .inr (.inr (hbetween i (gap_lt_of_between hb hlt)))
      · rw [Ntv2Stream.activeBuffer, hslots.queued, not_lt] at hqa
        exact .inr (.inr (hbetween i (gap_lt_of_outside hqa hlt ((hslots.queued j).mp hq))))

/-- Advance keeps the order if the engine may move on. -/
lemma advance_order (hslots : SlotInv s) (h : OrderInv s)
    (hok : s.Running → ¬ (s.engineState = .initialized ∧ s.initCount < s.initAdvance) →
      s.activeIndex ≠ s.nextIndex → s.MovesOn) : OrderInv (streamChannelAdvance hw s).1 := by
  rcases advance_cases hw s with ⟨-, hsame⟩ | ⟨-, -, hcount⟩ | ⟨hrun, hinit, t, e, hm, hlinked⟩
  · rw [hsame]
    exact h
  · rw [hcount]
    exact h.congr rfl rfl rfl rfl
  · rw [hlinked]
    have ht : OrderInv { t with engineState := e } :=
      (h.advances hslots (hok hrun hinit) hm).congr rfl rfl rfl rfl
    have hts : SlotInv { t with engineState := e } := (hslots.advances hm).congr rfl rfl rfl rfl rfl
    exact linkNext_order hts ht (hm.activeIndex.trans hm.nextIndex.symm) 1

/-! ### Buffers -/

/-- The order does not depend on the slots that are not queued. -/
lemma OrderInv.of_queued (h : OrderInv s)
    (hqueued : ∀ i, (t.streamBuffers i).queued = (s.streamBuffers i).queued)
    (hsame : ∀ i, (s.streamBuffers i).queued = true → t.streamBuffers i = s.streamBuffers i)
    (htail : t.tailIndex = s.tailIndex) (hactive : t.activeIndex = s.activeIndex)
    (hnext : t.nextIndex = s.nextIndex) : OrderInv t := by
  refine ⟨fun hq i hi hlt => ?_, fun hne hq hm i hi hlt => ?_⟩ <;> rw [hqueued] at hi
  · rw [Ntv2Stream.activeBuffer, hactive, hqueued] at hq
    rw [htail, hactive] at hlt
    rw [hsame i hi]
    exact h.active hq i hi hlt
  · rw [hactive, hnext] at hne
    rw [Ntv2Stream.nextBuffer, hnext, hqueued] at hq
    rw [htail, hnext] at hlt
    rw [hsame i hi, hactive]
    refine h.next hne hq (fun hqa hqn hgap => ?_) i hi hlt
    have hbuffer : t.activeBuffer = s.activeBuffer := by
      rw [Ntv2Stream.activeBuffer, hactive]
      exact hsame _ hqa
    rw [Ntv2Stream.MovesOn, hbuffer, Ntv2Stream.nextBuffer, hnext, hqueued, htail, hactive] at hm
    exact hm hqa hqn hgap

/-- **One more buffer** at the head keeps the order, unless it gets in the active or the next slot
while another one is pending. -/
lemma OrderInv.push (hslots : SlotInv s) (h : OrderInv s) {b : Ntv2StreamBuffer}
    (hok : s.headIndex = s.activeIndex ∨ s.headIndex = s.nextIndex →
      ∀ i, (s.streamBuffers i).queued = true → (s.streamBuffers i).Done)
    (hbuffers : t.streamBuffers = Function.update s.streamBuffers s.headIndex b)
    (htail : t.tailIndex = s.tailIndex) (hactive : t.activeIndex = s.activeIndex)
    (hnext : t.nextIndex = s.nextIndex) : OrderInv t := by
  have hother : ∀ i, i ≠ s.headIndex → t.streamBuffers i = s.streamBuffers i := by
    intro i hi
    rw [hbuffers, Function.update_of_ne hi]
  have hbefore : ∀ i, (s.streamBuffers i).queued = true →
      gap s.tailIndex i < gap s.tailIndex s.headIndex := fun i => (hslots.queued i).mp
  refine ⟨fun hq i hi hlt => ?_, fun hne hq hm i hi hlt => ?_⟩
  · rw [htail, hactive] at hlt
    rw [Ntv2Stream.activeBuffer, hactive] at hq
    rcases eq_or_ne s.headIndex s.activeIndex with he | he
    · have hi' : i ≠ s.headIndex := by
        rintro rfl
        rw [he] at hlt
        exact Nat.lt_irrefl _ hlt
      rw [hother i hi'] at hi ⊢
      exact hok (.inl he) i hi
    · rw [hother _ he.symm] at hq
      have hi' : i ≠ s.headIndex := by
        rintro rfl
        exact Nat.lt_asymm hlt (hbefore _ hq)
      rw [hother i hi'] at hi ⊢
      exact h.active hq i hi hlt
  · rw [htail, hnext] at hlt
    rw [hactive, hnext] at hne
    rw [Ntv2Stream.nextBuffer, hnext] at hq
    rw [hactive]
    rcases eq_or_ne i s.headIndex with rfl | hi'
    · -- the new slot is the last one: it is before the next slot only as the active one
      rcases eq_or_ne s.headIndex s.nextIndex with he | he
      · rw [← he] at hlt
        exact absurd hlt (Nat.lt_irrefl _)
      · rw [hother _ he.symm] at hq
        exact absurd hlt (Nat.lt_asymm (hbefore _ hq))
    · rw [hother i hi'] at hi ⊢
      by_cases hlap : s.headIndex = s.activeIndex ∨ s.headIndex = s.nextIndex
      · exact .inr (hok hlap i hi)
      · rw [not_or] at hlap
        rw [hother _ (Ne.symm hlap.2)] at hq
        rw [Ntv2Stream.MovesOn, Ntv2Stream.activeBuffer, Ntv2Stream.nextBuffer, hactive, hnext, htail,
          hother _ (Ne.symm hlap.1), hother _ (Ne.symm hlap.2)] at hm
        exact h.next hne hq hm i hi hlt

/-- **One buffer less** at the tail keeps the order. -/
lemma OrderInv.pop (hslots : SlotInv s) (h : OrderInv s) {b : Ntv2StreamBuffer}
    (hdone : (s.streamBuffers s.tailIndex).Done) (hb : b.queued = false)
    (hbuffers : t.streamBuffers = Function.update s.streamBuffers s.tailIndex b)
    (htail : t.tailIndex = s.tailIndex + 1) (hactive : t.activeIndex = s.activeIndex)
    (hnext : t.nextIndex = s.nextIndex) : OrderInv t := by
  have hqueued : ∀ i, (t.streamBuffers i).queued = true → i ≠ s.tailIndex := by
    rintro i hi rfl
    rw [hbuffers, Function.update_self, hb] at hi
    exact Bool.noConfusion hi
  have hother : ∀ i, i ≠ s.tailIndex → t.streamBuffers i = s.streamBuffers i := by
    intro i hi
    rw [hbuffers, Function.update_of_ne hi]
  have hgap : ∀ i j, i ≠ s.tailIndex → j ≠ s.tailIndex →
      (gap t.tailIndex i < gap t.tailIndex j ↔ gap s.tailIndex i < gap s.tailIndex j) := by
    intro i j hi hj
    have hi' : gap s.tailIndex i ≠ 0 := fun hz => hi (gap_eq_zero.mp hz)
    have hj' : gap s.tailIndex j ≠ 0 := fun hz => hj (gap_eq_zero.mp hz)
    rw [htail, gap_succ_base hi, gap_succ_base hj]
    omega
  refine ⟨fun hq i hi hlt => ?_, fun hne hq hm i hi hlt => ?_⟩
  · have ha := hqueued _ hq
    have hi' := hqueued i hi
    rw [hactive] at ha
    rw [Ntv2Stream.activeBuffer, hactive, hother _ ha] at hq
    rw [hactive, hgap i _ hi' ha] at hlt
    rw [hother i hi'] at hi ⊢
    exact h.active hq i hi hlt
  · have hn := hqueued _ hq
    have hi' := hqueued i hi
    rw [hnext] at hn
    rw [hactive, hnext] at hne
    rw [Ntv2Stream.nextBuffer, hnext, hother _ hn] at hq
    rw [hnext, hgap i _ hi' hn] at hlt
    rw [hother i hi'] at hi ⊢
    rw [hactive]
    refine h.next hne hq ?_ i hi hlt
    by_contra hnot
    obtain ⟨hqa, hl, hf, hqn, hlt'⟩ := queued_of_not_movesOn hnot
    rcases eq_or_ne s.activeIndex s.tailIndex with he | ha
    · -- a pending active slot is not taken out
      rw [← he] at hdone
      rcases hdone with hc | hf'
      · exact Nat.lt_irrefl _ (hslots.behind _ hc).2.2.1
      · exact Bool.noConfusion (hf.symm.trans hf')
    · rw [Ntv2Stream.MovesOn, Ntv2Stream.activeBuffer, Ntv2Stream.nextBuffer, hactive, hnext,
        hother _ ha, hother _ hn, hgap _ _ ha hn] at hm
      rcases hm hqa hqn hlt' with hl' | hf'
      · exact Bool.noConfusion (hl.symm.trans hl')
      · exact Bool.noConfusion (hf.symm.trans hf')

/-- Queueing a buffer keeps the order. -/
lemma bufferQueue_order (hslots : SlotInv s) (h : OrderInv s) {pOwner : Option ℕ}
    {pBuffer : NTV2StreamBuffer}
    (hok : BufferAccepted hw pOwner pBuffer s → s.headIndex = s.activeIndex ∨
      s.headIndex = s.nextIndex → ∀ i, (s.streamBuffers i).queued = true → (s.streamBuffers i).Done) :
    OrderInv (streamBufferQueue hw pOwner pBuffer s).1 := by
  rcases @bufferQueue_cases hw s hslots pOwner pBuffer with
    ⟨-, hsame | hreset⟩ | ⟨hsuccess, -, page, htaken⟩
  · rw [hsame]
    exact h
  · rw [hreset]
    refine h.of_queued (fun i => ?_) (fun i hi => ?_) rfl rfl rfl <;>
      rw [setBuffer_streamBuffers] <;> rcases eq_or_ne i s.headIndex with rfl | hne
    · rw [Function.update_self, hslots.head_free]
    · rw [Function.update_of_ne hne]
    · rw [hslots.head_free] at hi
      exact Bool.noConfusion hi
    · rw [Function.update_of_ne hne]
  · rw [htaken]
    exact h.push hslots (hok (bufferAccepted hsuccess)) rfl rfl rfl rfl

/-- Releasing a buffer keeps the order. -/
lemma bufferRelease_order (hslots : SlotInv s) (h : OrderInv s) (pOwner : Option ℕ) :
    OrderInv (streamBufferRelease hw pOwner s).1 := by
  rcases @bufferRelease_cases hw s hslots pOwner with ⟨-, hsame⟩ | ⟨-, -, hdone, b, hb, htaken⟩
  · rw [hsame]
    exact h
  · rw [htaken]
    exact h.pop hslots hdone (congrArg SlotFlags.queued hb) rfl rfl rfl rfl

/-- Release keeps the order: it leaves no slot queued. -/
lemma release_order (hslots : SlotInv s) (h : OrderInv s) (pOwner : Option ℕ) :
    OrderInv (streamChannelRelease hw pOwner s).1 := by
  rcases @release_cases hw s hslots pOwner with ⟨hsame | herror, -⟩ | ⟨hreleased, -⟩
  · rw [hsame]
    exact h
  · rw [herror]
    exact h.congr rfl rfl rfl rfl
  · refine .of_done fun i hi => ?_
    have hq := congrArg SlotFlags.queued (hreleased.flags i)
    exact Bool.noConfusion (hi.symm.trans hq)

/-- **The order over a step**. -/
lemma streamStep_order (hslots : SlotInv s) (h : OrderInv s) {call : StreamHardware × StreamOp}
    (hok : FifoStepOk s call) : OrderInv (streamStep s call) := by
  rcases call with ⟨hw, op⟩
  cases op with
  | channelInitialize pOwner => exact initialize_order hslots h pOwner
  | channelRelease pOwner => exact release_order hslots h pOwner
  | channelStart => exact start_order h
  | channelStop => exact stop_order h
  | channelFlush => exact flush_order hslots h
  | channelAdvance => exact advance_order hslots h hok
  | bufferQueue pOwner pBuffer => exact bufferQueue_order hslots h hok
  | bufferRelease pOwner => exact bufferRelease_order hslots h pOwner

end LibAjaNtv2
