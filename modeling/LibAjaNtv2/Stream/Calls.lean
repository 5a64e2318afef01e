import Mathlib.Tactic
import LibAjaNtv2.Stream.Invariant

/-!
What the calls on the channel of a stream keep.

* `initialize_inv`, `release_inv`: initialize on an empty queue, and release;
* `flush_inv`: flush, if the engine runs on a stream that runs;
* `linkActive_spec`, `start_inv`, `stop_inv`: start, and stop unless it starts an empty queue.
-/

namespace LibAjaNtv2

open Cyclic

variable {hw : StreamHardware} {s : Ntv2Stream}

/-! ### Initialize and release -/

/-- The invariant survives a failure of the engine. -/
lemma StreamInv.engineError (h : StreamInv s) : StreamInv { s with engineState := .error } := by
  obtain ⟨hq, hm⟩ := h
  refine ⟨⟨hq.active_le, hq.next_le, hq.queued, hq.count, hq.unlinked, hq.mapped, hq.pending⟩,
    ⟨hm.known, hm.running, fun _ => .inl rfl, fun hne => ?_⟩⟩
  obtain ⟨hstate, hqueued, hflushed, -⟩ := hm.upcoming hne
  exact ⟨hstate, hqueued, hflushed, .inr rfl⟩

/-- With head and tail at one slot nothing is queued. -/
lemma QueueInv.not_queued (h : QueueInv s) (hempty : s.headIndex = s.tailIndex) (i : StreamIndex) :
    (s.streamBuffers i).queued = false := by
  by_contra hq
  rw [Bool.not_eq_false, h.queued, hempty, gap_self] at hq
  exact Nat.not_lt_zero _ hq

/-- With head and tail at one slot the other two indices are there, too. -/
lemma QueueInv.active_eq_next (h : QueueInv s) (hempty : s.headIndex = s.tailIndex) :
    s.activeIndex = s.nextIndex := by
  have hactive := h.active_le
  have hnext := h.next_le
  rw [hempty, gap_self] at hnext
  exact gap_inj (a := s.tailIndex) (by omega)

/-- Initialize goes through. -/
structure InitializeAccepted (hw : StreamHardware) (pOwner : Option ℕ) (s : Ntv2Stream) :
    Prop where
  owner : pOwner ≠ none ∧ (s.owner = none ∨ pOwner = s.owner)
  lock : hw.lockTimeout = false
  state : s.streamState ≠ .disabled
  engine : 0 ≤ hw.dmaXlnxStreamStop

/-- Initialize flushes every slot where it is. -/
lemma initialize_eq {owner : ℕ} (h : InitializeAccepted hw (some owner) s) :
    streamChannelInitialize hw (some owner) s =
      { flushAll { s with
          strDescriptorIndex := 0
          streamState := .initialized
          engineState := .initialized
          owner := some owner } with userChannel := {} }.success := by
  have howner : ¬ (s.owner ≠ none ∧ some owner ≠ s.owner) := by
    rw [not_and_or, not_not, not_not]
    exact h.owner.2
  simp only [streamChannelInitialize, dmaOpsStreamInitialize, h.lock, if_neg Bool.false_ne_true,
    if_neg h.state, if_neg howner, if_neg (not_lt.mpr h.engine)]

/-- **Initialize** keeps the invariant if nothing is queued. -/
lemma initialize_inv (h : StreamInv s) {pOwner : Option ℕ}
    (hok : InitializeAccepted hw pOwner s → s.headIndex = s.tailIndex) :
    StreamInv (streamChannelInitialize hw pOwner s).1 := by
  cases pOwner with
  | none => exact h
  | some owner =>
      rw [streamChannelInitialize]
      split_ifs with hlock hstate howner
      · exact h
      · exact h
      · exact h
      · rw [dmaOpsStreamInitialize]
        split_ifs with hstop
        · exact h.engineError
        · rw [not_and_or, not_not, not_not] at howner
          have hempty := hok ⟨⟨Option.some_ne_none _, howner⟩, Bool.eq_false_of_not_eq_true hlock,
            hstate, not_lt.mp hstop⟩
          obtain ⟨hq, -⟩ := h
          have hnone := hq.not_queued hempty
          simp only
          rw [flushAll_eq (s := { s with
            strDescriptorIndex := 0
            streamState := .initialized
            engineState := .initialized
            owner := some owner }) hnone]
          refine ⟨⟨hq.active_le, hq.next_le, hq.queued, ?_, hq.unlinked, hq.mapped, hq.pending⟩,
            ⟨Ntv2StreamState.noConfusion, ?_, fun _ => .inr fun i => hq.unlinked i (hnone i),
              fun hne => absurd (hq.active_eq_next hempty) hne⟩⟩
          · change (0 : BitVec 64) - 0 = BitVec.ofNat 64 (gap s.tailIndex s.headIndex)
            rw [hempty, gap_self]
            rfl
          · rintro (hrun | hrun) <;> exact Ntv2StreamState.noConfusion hrun

/-- A slot that is neither queued nor linked. -/
def Ntv2StreamBuffer.Empty (b : Ntv2StreamBuffer) : Prop := b.queued = false ∧ b.linked = false

/-- What releasing a slot does while the engine does not run. -/
lemma release_spec (hrun : ¬ s.EngineRunning) (i : StreamIndex)
    (hreleased : ∀ j, (s.streamBuffers j).released = true → (s.streamBuffers j).Empty) :
    (dmaOpsBufferRelease s i).1.streamState = s.streamState ∧
      (dmaOpsBufferRelease s i).1.engineState = s.engineState ∧
      (∀ j, ((dmaOpsBufferRelease s i).1.streamBuffers j).released = true →
        ((dmaOpsBufferRelease s i).1.streamBuffers j).Empty) ∧
      (∀ j, j = i ∨ (s.streamBuffers j).Empty →
        ((dmaOpsBufferRelease s i).1.streamBuffers j).Empty) := by
  simp only [dmaOpsBufferRelease]
  split_ifs with hrel hlinked
  · refine ⟨rfl, rfl, hreleased, fun j hj => ?_⟩
    rcases hj with rfl | hj
    · exact hreleased j hrel
    · exact hj
  · exact absurd hlinked.1 hrun
  · refine ⟨rfl, rfl, fun j hj => ?_, fun j hj => ?_⟩ <;> rcases eq_or_ne j i with rfl | hji
    · simp [Ntv2StreamBuffer.Empty]
    · simp only [setBuffer_streamBuffers, Function.update_of_ne hji] at hj ⊢
      exact hreleased j hj
    · simp [Ntv2StreamBuffer.Empty]
    · simp only [setBuffer_streamBuffers, Function.update_of_ne hji]
      exact hj.resolve_left hji

/-- Releasing all slots empties them. -/
lemma releaseAll_spec (hrun : ¬ s.EngineRunning)
    (hreleased : ∀ i, (s.streamBuffers i).released = true → (s.streamBuffers i).Empty) :
    (releaseAll s).streamState = s.streamState ∧ (releaseAll s).engineState = s.engineState ∧
      ∀ i, ((releaseAll s).streamBuffers i).Empty := by
  have hfold : ∀ (is : List StreamIndex) (s : Ntv2Stream), ¬ s.EngineRunning →
      (∀ i, (s.streamBuffers i).released = true → (s.streamBuffers i).Empty) →
      (is.foldl (fun s i => (dmaOpsBufferRelease s i).1) s).streamState = s.streamState ∧
        (is.foldl (fun s i => (dmaOpsBufferRelease s i).1) s).engineState = s.engineState ∧
        ∀ i, i ∈ is ∨ (s.streamBuffers i).Empty →
          ((is.foldl (fun s i => (dmaOpsBufferRelease s i).1) s).streamBuffers i).Empty := by
    intro is
    induction is with
    | nil =>
        intro s _ _
        exact ⟨rfl, rfl, fun i hi => hi.resolve_left List.not_mem_nil⟩
    | cons i is ih =>
        intro s hrun hreleased
        obtain ⟨hstate, hengine, hreleased', hempty⟩ := release_spec hrun i hreleased
        have hrun' : ¬ (dmaOpsBufferRelease s i).1.EngineRunning := by
          rwa [Ntv2Stream.EngineRunning, hengine]
        obtain ⟨hstate', hengine', hempty'⟩ := ih _ hrun' hreleased'
        refine ⟨hstate'.trans hstate, hengine'.trans hengine, fun j hj => hempty' j ?_⟩
        rcases hj with hj | hj
        · rcases List.mem_cons.mp hj with rfl | hj
          · exact .inr (hempty j (.inl rfl))
          · exact .inl hj
        · exact .inr (hempty j (.inr hj))
  have hall := hfold (List.finRange NTV2_STREAM_NUM_BUFFERS) s hrun hreleased
  rw [← releaseAll] at hall
  obtain ⟨hstate, hengine, hempty⟩ := hall
  exact ⟨hstate, hengine, fun i => hempty i (.inl (List.mem_finRange i))⟩

/-- A queued slot has not been released. -/
lemma QueueInv.released (h : QueueInv s) (i : StreamIndex)
    (hi : (s.streamBuffers i).released = true) : (s.streamBuffers i).Empty := by
  have hq : (s.streamBuffers i).queued = false := by
    by_contra hq
    rw [Bool.not_eq_false] at hq
    rw [(h.mapped i hq).1] at hi
    exact Bool.noConfusion hi
  exact ⟨hq, h.unlinked i hq⟩

/-- The invariant holds with nothing queued and all indices at the first slot. -/
lemma StreamInv.empty (hempty : ∀ i, (s.streamBuffers i).Empty) (hhead : s.headIndex = 0)
    (htail : s.tailIndex = 0) (hactive : s.activeIndex = 0) (hnext : s.nextIndex = 0)
    (hcount : s.userChannel = {}) (hknown : s.streamState ≠ .unknown) (hrun : ¬ s.Running) :
    StreamInv s := by
  have hq : ∀ i, (s.streamBuffers i).queued ≠ true := fun i => by
    rw [(hempty i).1]
    exact Bool.false_ne_true
  refine ⟨⟨?_, ?_, fun i => ?_, ?_, fun i _ => (hempty i).2, fun i hi => absurd hi (hq i),
    fun i hi => absurd hi (hq i)⟩, ⟨hknown, fun hr => absurd hr hrun,
      fun _ => .inr fun i => (hempty i).2, fun hne => absurd (hactive.trans hnext.symm) hne⟩⟩
  · rw [htail, hactive, hnext]
  · rw [htail, hhead, hnext]
  · rw [htail, hhead, gap_self]
    exact ⟨fun hi => absurd hi (hq i), fun hlt => absurd hlt (Nat.not_lt_zero _)⟩
  · rw [htail, hhead, gap_self, hcount]
    rfl

/-- **Release** keeps the invariant. -/
lemma release_inv (h : StreamInv s) (hw : StreamHardware) (pOwner : Option ℕ) :
    StreamInv (streamChannelRelease hw pOwner s).1 := by
  rw [streamChannelRelease]
  split_ifs with hlock howner
  · exact h
  · exact h
  · rw [dmaOpsStreamRelease]
    split_ifs with hstop
    · exact h.engineError
    · have hrun : ¬ ({ s with
          streamState := .released, engineState := .released } : Ntv2Stream).EngineRunning := by
        rintro (hr | hr) <;> exact Ntv2StreamState.noConfusion hr
      have hall := releaseAll_spec hrun h.queue.released
      simp only
      generalize releaseAll _ = t at hall ⊢
      obtain ⟨hstate, -, hempty⟩ := hall
      refine StreamInv.empty hempty rfl rfl rfl rfl rfl ?_ ?_
      · exact hstate.trans_ne Ntv2StreamState.noConfusion
      · rintro (hr | hr) <;> exact Ntv2StreamState.noConfusion (hstate.symm.trans hr)

/-! ### Flush -/

/-- A stream that takes calls is initialized or runs. -/
lemma ModeInv.running_of (h : ModeInv s) (hopen : ¬ s.Closed) (hinit : s.streamState ≠ .initialized) :
    s.Running := by
  have hknown := h.known
  rw [Ntv2Stream.Closed] at hopen
  rw [Ntv2Stream.Running]
  cases hs : s.streamState <;> simp_all

/-- The invariant survives a flush that spares the active slot. -/
lemma StreamInv.flushes {t : Ntv2Stream} (h : StreamInv s) (hf : Flushes s t)
    (hopen : ¬ s.Closed) (hrun : s.Running → s.EngineRunning) : StreamInv t := by
  obtain ⟨hq, hm⟩ := h
  have hactive : t.activeBuffer = t.streamBuffers s.activeIndex := by
    rw [Ntv2Stream.activeBuffer, hf.frame.activeIndex]
  have hnext : t.nextBuffer = t.streamBuffers s.nextIndex := by
    rw [Ntv2Stream.nextBuffer, hf.nextIndex]
  refine ⟨hq.frame hf.frame ?_ ?_ fun i hi => .inl ((hf.linked i).symm.trans hi),
    ⟨?_, fun hr => ?_, fun hi => ?_, fun hne => ?_⟩⟩
  · rw [hf.nextIndex]
    exact hq.active_le
  · rw [hf.nextIndex]
    exact hq.next_le
  · rw [hf.streamState]
    exact hm.known
  · rw [Ntv2Stream.Running, hf.streamState] at hr
    obtain ⟨hqueued, hlinked, hflushed⟩ := hm.running hr
    rw [hactive]
    exact ⟨((hf.frame.same _).queued).trans hqueued, (hf.linked _).trans hlinked,
      (hf.flushed (hrun hr) _ hlinked).trans hflushed⟩
  · rw [hf.streamState] at hi
    rw [hf.engineState]
    refine (hm.fresh hi).imp_right fun hnone j => ?_
    rw [hf.linked]
    exact hnone j
  · rw [hf.frame.activeIndex, hf.nextIndex] at hne
    obtain ⟨hstate, hqueued, hflushed, hlinked⟩ := hm.upcoming hne
    rw [hnext, hf.streamState, hf.engineState, (hf.frame.same _).queued, hf.linked]
    refine ⟨hstate, hqueued, ?_, hlinked⟩
    -- the engine runs, so that the next slot is linked and spared, too
    have hengine := hrun (hm.running_of hopen hstate)
    have herror : s.engineState ≠ .error := by
      rcases hengine with he | he <;> rw [he] <;> exact Ntv2StreamState.noConfusion
    exact (hf.flushed hengine _ (hlinked.resolve_right herror)).trans hflushed

/-- **Flush** keeps the invariant if the engine runs on a stream that runs. -/
lemma flush_inv (h : StreamInv s)
    (hok : hw.lockTimeout = false → s.Running → s.EngineRunning) :
    StreamInv (streamChannelFlush hw s).1 := by
  rw [streamChannelFlush]
  split_ifs with hlock hclosed hempty
  · exact h
  · exact h
  · exact h
  · exact h.flushes (flushLoop_spec _ _ _ _) hclosed (hok (Bool.eq_false_of_not_eq_true hlock))

/-! ### Start and stop -/

/-- What holds between linking the active slot and starting the engine. -/
structure LinkedInv (s : Ntv2Stream) : Prop where
  queue : QueueInv s
  known : s.streamState ≠ .unknown
  running : s.Running → s.activeBuffer.Ready
  upcoming : s.activeIndex ≠ s.nextIndex → s.streamState ≠ .initialized ∧
    s.nextBuffer.queued = true ∧ s.nextBuffer.flushed = false ∧
    (s.nextBuffer.linked = true ∨ s.engineState = .error)
  ready : s.engineState ≠ .error → s.activeBuffer.queued = true → s.activeBuffer.Ready

lemma LinkedInv.of_error (h : LinkedInv s) (he : s.engineState = .error) : StreamInv s :=
  ⟨h.queue, h.known, h.running, fun _ => .inl he, h.upcoming⟩

/-- The engine fails to start. -/
lemma LinkedInv.engineError (h : LinkedInv s) : StreamInv { s with engineState := .error } := by
  obtain ⟨hq, hknown, hrunning, hupcoming, -⟩ := h
  refine ⟨⟨hq.active_le, hq.next_le, hq.queued, hq.count, hq.unlinked, hq.mapped, hq.pending⟩,
    ⟨hknown, hrunning, fun _ => .inl rfl, fun hne => ?_⟩⟩
  obtain ⟨hstate, hqueued, hflushed, -⟩ := hupcoming hne
  exact ⟨hstate, hqueued, hflushed, .inr rfl⟩

/-- The engine runs on the active slot. -/
lemma LinkedInv.run (h : LinkedInv s) {target : Ntv2StreamState}
    (htarget : target = .active ∨ target = .idle) (hready : s.activeBuffer.Ready) :
    StreamInv { s with streamState := target } := by
  obtain ⟨hq, -, -, hupcoming, -⟩ := h
  refine ⟨⟨hq.active_le, hq.next_le, hq.queued, hq.count, hq.unlinked, hq.mapped, hq.pending⟩,
    ⟨?_, fun _ => hready, fun hi => ?_, fun hne => ⟨?_, (hupcoming hne).2⟩⟩⟩
  · rcases htarget with rfl | rfl <;> exact Ntv2StreamState.noConfusion
  · rcases htarget with rfl | rfl <;> exact Ntv2StreamState.noConfusion hi
  · rcases htarget with rfl | rfl <;> exact Ntv2StreamState.noConfusion

/-- The stream fails. -/
lemma StreamInv.streamError (h : StreamInv s) : StreamInv { s with streamState := .error } := by
  obtain ⟨hq, hm⟩ := h
  refine ⟨⟨hq.active_le, hq.next_le, hq.queued, hq.count, hq.unlinked, hq.mapped, hq.pending⟩,
    ⟨Ntv2StreamState.noConfusion, ?_, Ntv2StreamState.noConfusion,
      fun hne => ⟨Ntv2StreamState.noConfusion, (hm.upcoming hne).2⟩⟩⟩
  rintro (hr | hr) <;> exact Ntv2StreamState.noConfusion hr

/-- The active slot and its place in the queue. -/
structure SameActive (s t : Ntv2Stream) : Prop where
  streamState : t.streamState = s.streamState
  engineState : t.engineState = s.engineState
  headIndex : t.headIndex = s.headIndex
  activeIndex : t.activeIndex = s.activeIndex
  queued : t.activeBuffer.queued = s.activeBuffer.queued

/-- **Linking the active slot** leaves the queue as it is and the slot ready. -/
lemma linkActive_spec {t : Ntv2Stream} {ok : Bool} (h : StreamInv s) (hopen : ¬ s.Closed)
    (hlink : linkActive hw s = (t, ok)) :
    (ok = false → StreamInv t) ∧ (ok = true → LinkedInv t ∧ SameActive s t) := by
  obtain ⟨hq, hm⟩ := h
  rw [linkActive] at hlink
  split_ifs at hlink with hfirst
  · -- the condition after initialize
    rw [Bool.and_eq_true, Bool.not_eq_true'] at hfirst
    obtain ⟨hqueued, hunlinked⟩ := hfirst
    have hnot : ¬ s.Running := by
      intro hr
      have hlinked : (s.streamBuffers s.activeIndex).linked = true := (hm.running hr).2.1
      rw [hlinked] at hunlinked
      exact Bool.noConfusion hunlinked
    have hinit : s.streamState = .initialized := by
      by_contra hne
      exact hnot (hm.running_of hopen hne)
    obtain ⟨s₁, hs₁⟩ : ∃ s₁, s₁ = { s with
      userChannel := { s.userChannel with mActiveCount := 0, mRepeatCount := 0, mIdleCount := 0 }
      initCount := 0
      nextIndex := s.activeIndex } := ⟨_, rfl⟩
    have hframe : Frame s s₁ := by
      subst hs₁
      exact ⟨⟨rfl, rfl, rfl, rfl, rfl⟩, fun _ => .refl _⟩
    have hlink₁ : dmaOpsBufferLink hw s₁ s.activeIndex s.activeIndex = (t, ok) := by
      subst hs₁
      exact hlink
    have hbuffers : s₁.streamBuffers = s.streamBuffers := by rw [hs₁]
    have hstate₁ : s₁.streamState = s.streamState := by rw [hs₁]
    have hengine₁ : s₁.engineState = s.engineState := by rw [hs₁]
    have hnext₁ : s₁.nextIndex = s.activeIndex := by rw [hs₁]
    obtain ⟨hl, hok, hfail⟩ := link_spec hlink₁
    have hft := hframe.trans hl.frame
    have hnext : t.nextIndex = s.activeIndex := hl.nextIndex.trans hnext₁
    have hstate : t.streamState = s.streamState := hl.streamState.trans hstate₁
    have hqt : QueueInv t := by
      refine hq.frame hft ?_ ?_ fun i hi => ?_
      · rw [hnext]
      · rw [hnext]
        exact hq.active_le.trans hq.next_le
      · rw [← hbuffers]
        exact hl.onlyQueued i hi
    have hknown : t.streamState ≠ .unknown := hstate.trans_ne hm.known
    have hnotRunning : ¬ t.Running := by
      rwa [Ntv2Stream.Running, hstate]
    have hsame : t.activeIndex = t.nextIndex := by
      rw [hft.activeIndex, hnext]
    have hactive : t.activeBuffer = t.streamBuffers s.activeIndex := by
      rw [Ntv2Stream.activeBuffer, hft.activeIndex]
    refine ⟨fun hno => ⟨hqt, hknown, fun hr => absurd hr hnotRunning, fun _ => ?_,
      fun hne => absurd hsame hne⟩, fun hyes => ?_⟩
    · rcases hfail hno rfl with rfl | he
      · rw [hengine₁, hbuffers]
        exact hm.fresh hinit
      · exact .inl he
    · obtain ⟨-, he, hlinkable, -, hlinked, -⟩ := hok hyes
      refine ⟨⟨hqt, hknown, fun hr => absurd hr hnotRunning, fun hne => absurd hsame hne,
        fun _ hqueued' => ⟨hqueued', ?_, ?_⟩⟩, ⟨hstate, he.trans hengine₁, hft.headIndex,
          hft.activeIndex, ?_⟩⟩
      · rw [hactive]
        exact hlinked
      · rw [hactive, hl.flushed]
        exact hlinkable.2.1
      · rw [hactive]
        exact (hft.same s.activeIndex).queued
  · obtain ⟨rfl, rfl⟩ := Prod.mk.inj hlink
    refine ⟨Bool.noConfusion, fun _ => ⟨⟨hq, hm.known, hm.running, hm.upcoming, fun he hqueued => ?_⟩,
      ⟨rfl, rfl, rfl, rfl, rfl⟩⟩⟩
    rw [Bool.and_eq_true, Bool.not_eq_true', not_and, Bool.not_eq_false] at hfirst
    have hlinked := hfirst hqueued
    refine hm.running (hm.running_of hopen fun hinit => ?_)
    have hnone := (hm.fresh hinit).resolve_left he s.activeIndex
    rw [hlinked] at hnone
    exact Bool.noConfusion hnone

/-- The active slot is queued unless the queue has nothing but completed slots. -/
lemma QueueInv.queued_active (h : QueueInv s) (hne : s.activeIndex ≠ s.headIndex) :
    s.activeBuffer.queued = true := by
  have hactive := h.active_le
  have hnext := h.next_le
  have hgap : gap s.tailIndex s.activeIndex ≠ gap s.tailIndex s.headIndex :=
    fun he => hne (gap_inj he)
  rw [Ntv2Stream.activeBuffer, h.queued]
  omega

/-- A refused call does not report success. -/
lemma refuse_ne_success (s : Ntv2Stream) (ret : Int) (why : ℕ) :
    (s.refuse ret why).2.mStatus ≠ NTV2_STREAM_STATUS_SUCCESS := by
  intro h
  have hbit := congrArg (Nat.testBit · 1) h
  simp only [Ntv2Stream.refuse, Ntv2Stream.reply, NTV2_STREAM_STATUS_FAIL,
    NTV2_STREAM_STATUS_SUCCESS, Nat.testBit_or] at hbit
  have hfail : Nat.testBit 2 1 = true := rfl
  have hsuccess : Nat.testBit 1 1 = false := rfl
  rw [hfail, hsuccess, Bool.true_or] at hbit
  exact Bool.noConfusion hbit

/-- The engine runs with the active slot linked, or it fails and the stream is as before. -/
lemma run_spec {target : Ntv2StreamState} {u : Ntv2Stream} {ok : Bool} (h : LinkedInv s)
    (hrun : dmaOpsStreamRun target hw s = (u, ok)) :
    (ok = false → StreamInv u) ∧
      (ok = true → s.engineState ≠ .error ∧
        (s.streamState = .initialized → 0 ≤ hw.dmaXlnxStreamStart) ∧
        u = { s with streamState := target }) := by
  rw [dmaOpsStreamRun] at hrun
  split_ifs at hrun with he hstart <;> obtain ⟨rfl, rfl⟩ := Prod.mk.inj hrun
  · exact ⟨fun _ => h.of_error he, Bool.noConfusion⟩
  · exact ⟨fun _ => h.engineError, Bool.noConfusion⟩
  · exact ⟨Bool.noConfusion, fun _ => ⟨he, fun hi => not_lt.mp fun hlt => hstart ⟨hi, hlt⟩, rfl⟩⟩

/-- **Start** keeps the invariant, and a stream that was started runs. -/
lemma start_inv (h : StreamInv s) :
    StreamInv (streamChannelStart hw s).1 ∧
      ((streamChannelStart hw s).2.mStatus = NTV2_STREAM_STATUS_SUCCESS →
        (streamChannelStart hw s).1.Running) := by
  rw [streamChannelStart]
  split_ifs with hlock hclosed hempty
  · exact ⟨h, fun hs => absurd hs (refuse_ne_success _ _ _)⟩
  · exact ⟨h, fun hs => absurd hs (refuse_ne_success _ _ _)⟩
  · exact ⟨h, fun hs => absurd hs (refuse_ne_success _ _ _)⟩
  rcases hlink : linkActive hw s with ⟨t, ok⟩
  obtain ⟨hfail, hok⟩ := linkActive_spec h hclosed hlink
  cases ok with
  | false => exact ⟨hfail rfl, fun hs => absurd hs (refuse_ne_success _ _ _)⟩
  | true =>
      obtain ⟨hl, hsame⟩ := hok rfl
      simp only
      rcases hrun : dmaOpsStreamStart hw t with ⟨u, ok⟩
      obtain ⟨hfail, hok⟩ := run_spec hl hrun
      cases ok with
      | false => exact ⟨hfail rfl, fun hs => absurd hs (refuse_ne_success _ _ _)⟩
      | true =>
          obtain ⟨he, -, rfl⟩ := hok rfl
          have hne : t.activeIndex ≠ t.headIndex := by
            rw [hsame.activeIndex, hsame.headIndex]
            simpa [queueEmpty] using hempty
          exact ⟨hl.run (.inl rfl) (hl.ready he (hl.queue.queued_active hne)), fun _ => .inl rfl⟩

/-- **Stop** keeps the invariant unless it starts the engine on an empty queue, and a stream that
was stopped runs. -/
lemma stop_inv (h : StreamInv s)
    (hok : hw.lockTimeout = false → s.streamState = .initialized → s.engineState ≠ .error →
      0 ≤ hw.dmaXlnxStreamStart → s.activeBuffer.queued = true) :
    StreamInv (streamChannelStop hw s).1 ∧
      ((streamChannelStop hw s).2.mStatus = NTV2_STREAM_STATUS_SUCCESS →
        (streamChannelStop hw s).1.Running) := by
  rw [streamChannelStop]
  split_ifs with hlock hclosed
  · exact ⟨h, fun hs => absurd hs (refuse_ne_success _ _ _)⟩
  · exact ⟨h, fun hs => absurd hs (refuse_ne_success _ _ _)⟩
  rcases hlink : linkActive hw s with ⟨t, ok⟩
  obtain ⟨hfail, hlinked⟩ := linkActive_spec h hclosed hlink
  cases ok with
  | false => exact ⟨hfail rfl, fun hs => absurd hs (refuse_ne_success _ _ _)⟩
  | true =>
      obtain ⟨hl, hsame⟩ := hlinked rfl
      simp only
      rcases hrun : dmaOpsStreamStop hw t with ⟨u, ok⟩
      obtain ⟨hfail, hran⟩ := run_spec hl hrun
      cases ok with
      | false =>
          exact ⟨(hfail rfl).streamError, fun hs => absurd hs (refuse_ne_success _ _ _)⟩
      | true =>
          obtain ⟨he, hstart, rfl⟩ := hran rfl
          have hqueued : t.activeBuffer.queued = true := by
            rw [hsame.queued]
            by_cases hinit : s.streamState = .initialized
            · exact hok (Bool.eq_false_of_not_eq_true hlock) hinit (hsame.engineState ▸ he)
                (hstart (hsame.streamState.trans hinit))
            · exact (h.mode.running (h.mode.running_of hclosed hinit)).1
          exact ⟨hl.run (.inr rfl) (hl.ready he hqueued), fun _ => .inr rfl⟩

end LibAjaNtv2
