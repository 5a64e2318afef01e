import Mathlib.Tactic
import LibAjaNtv2.Stream.Channel

/-!
The invariant of the streaming queue.

* `QueueInv`: tail, active, next and head in order, and the queued slots between them;
* `ModeInv`: what the states of stream and engine say about the active and the next slot;
* `Frame`: a step that leaves the queue as it is;
* `build_spec`, `link_spec`, `flush_spec`: what the operations on a slot do to it.
-/

namespace LibAjaNtv2

open Cyclic

/-! ### The invariant -/

/-- The engine may run on a slot: it is queued, linked and not flushed. -/
def Ntv2StreamBuffer.Ready (b : Ntv2StreamBuffer) : Prop :=
  b.queued = true ∧ b.linked = true ∧ b.flushed = false

/-- The stream has been started or stopped: the interrupts of the engine advance it. -/
def Ntv2Stream.Running (s : Ntv2Stream) : Prop := s.streamState = .active ∨ s.streamState = .idle

instance (s : Ntv2Stream) : Decidable s.Running := inferInstanceAs (Decidable (_ ∨ _))

/-- The active slot. -/
def Ntv2Stream.activeBuffer (s : Ntv2Stream) : Ntv2StreamBuffer := s.streamBuffers s.activeIndex

/-- The next slot. -/
def Ntv2Stream.nextBuffer (s : Ntv2Stream) : Ntv2StreamBuffer := s.streamBuffers s.nextIndex

/-- The indices and the slots of the queue. -/
structure QueueInv (s : Ntv2Stream) : Prop where
  active_le : gap s.tailIndex s.activeIndex ≤ gap s.tailIndex s.nextIndex
  next_le : gap s.tailIndex s.nextIndex ≤ gap s.tailIndex s.headIndex
  queued : ∀ i, (s.streamBuffers i).queued = true ↔
    gap s.tailIndex i < gap s.tailIndex s.headIndex
  count : s.userChannel.mQueueCount - s.userChannel.mReleaseCount =
    BitVec.ofNat 64 (gap s.tailIndex s.headIndex)
  unlinked : ∀ i, (s.streamBuffers i).queued = false → (s.streamBuffers i).linked = false
  mapped : ∀ i, (s.streamBuffers i).queued = true →
    (s.streamBuffers i).released = false ∧ (s.streamBuffers i).dmaBuffer.isSome = true
  pending : ∀ i, (s.streamBuffers i).queued = true →
    gap s.tailIndex s.activeIndex ≤ gap s.tailIndex i → (s.streamBuffers i).completed = false

/-- What the states say about the active and the next slot. -/
structure ModeInv (s : Ntv2Stream) : Prop where
  known : s.streamState ≠ .unknown
  running : s.Running → s.activeBuffer.Ready
  fresh : s.streamState = .initialized →
    s.engineState = .error ∨ ∀ i, (s.streamBuffers i).linked = false
  upcoming : s.activeIndex ≠ s.nextIndex → s.streamState ≠ .initialized ∧
    s.nextBuffer.queued = true ∧ s.nextBuffer.flushed = false ∧
    (s.nextBuffer.linked = true ∨ s.engineState = .error)

/-- The invariant of the stream. -/
structure StreamInv (s : Ntv2Stream) : Prop where
  queue : QueueInv s
  mode : ModeInv s

/-! ### Writing a slot -/

section setBuffer

variable (s : Ntv2Stream) (i : StreamIndex) (b : Ntv2StreamBuffer)

@[simp] lemma setBuffer_streamBuffers :
    (s.setBuffer i b).streamBuffers = Function.update s.streamBuffers i b := rfl
@[simp] lemma setBuffer_headIndex : (s.setBuffer i b).headIndex = s.headIndex := rfl
@[simp] lemma setBuffer_tailIndex : (s.setBuffer i b).tailIndex = s.tailIndex := rfl
@[simp] lemma setBuffer_activeIndex : (s.setBuffer i b).activeIndex = s.activeIndex := rfl
@[simp] lemma setBuffer_nextIndex : (s.setBuffer i b).nextIndex = s.nextIndex := rfl
@[simp] lemma setBuffer_streamState : (s.setBuffer i b).streamState = s.streamState := rfl
@[simp] lemma setBuffer_engineState : (s.setBuffer i b).engineState = s.engineState := rfl
@[simp] lemma setBuffer_owner : (s.setBuffer i b).owner = s.owner := rfl
@[simp] lemma setBuffer_userChannel : (s.setBuffer i b).userChannel = s.userChannel := rfl

lemma setBuffer_setBuffer (b' : Ntv2StreamBuffer) :
    (s.setBuffer i b).setBuffer i b' = s.setBuffer i b' := by
  simp [Ntv2Stream.setBuffer]

end setBuffer

/-! ### Steps that leave the queue as it is -/

/-- Two contents of a slot that differ in its links and its flush only. -/
structure Ntv2StreamBuffer.Same (b b' : Ntv2StreamBuffer) : Prop where
  queued : b'.queued = b.queued
  completed : b'.completed = b.completed
  released : b'.released = b.released
  dmaBuffer : b'.dmaBuffer = b.dmaBuffer

lemma Ntv2StreamBuffer.Same.refl (b : Ntv2StreamBuffer) : b.Same b := ⟨rfl, rfl, rfl, rfl⟩

lemma Ntv2StreamBuffer.Same.trans {b b' b'' : Ntv2StreamBuffer} (h : b.Same b')
    (h' : b'.Same b'') : b.Same b'' :=
  ⟨h'.queued.trans h.queued, h'.completed.trans h.completed, h'.released.trans h.released,
    h'.dmaBuffer.trans h.dmaBuffer⟩

/-- A step that moves neither the head, the tail nor the active index. -/
structure SameCursors (s t : Ntv2Stream) : Prop where
  headIndex : t.headIndex = s.headIndex
  tailIndex : t.tailIndex = s.tailIndex
  activeIndex : t.activeIndex = s.activeIndex
  queueCount : t.userChannel.mQueueCount = s.userChannel.mQueueCount
  releaseCount : t.userChannel.mReleaseCount = s.userChannel.mReleaseCount

lemma SameCursors.refl (s : Ntv2Stream) : SameCursors s s := ⟨rfl, rfl, rfl, rfl, rfl⟩

lemma SameCursors.trans {s t u : Ntv2Stream} (h : SameCursors s t) (h' : SameCursors t u) :
    SameCursors s u :=
  ⟨h'.headIndex.trans h.headIndex, h'.tailIndex.trans h.tailIndex,
    h'.activeIndex.trans h.activeIndex, h'.queueCount.trans h.queueCount,
    h'.releaseCount.trans h.releaseCount⟩

/-- A step that moves no cursor and takes no slot in or out. -/
structure Frame (s t : Ntv2Stream) : Prop extends SameCursors s t where
  same : ∀ i, (s.streamBuffers i).Same (t.streamBuffers i)

lemma Frame.refl (s : Ntv2Stream) : Frame s s :=
  ⟨.refl s, fun _ => .refl _⟩

lemma Frame.trans {s t u : Ntv2Stream} (h : Frame s t) (h' : Frame t u) : Frame s u :=
  ⟨h.toSameCursors.trans h'.toSameCursors, fun i => (h.same i).trans (h'.same i)⟩

/-- Writing a slot leaves the queue as it is if it keeps the slot's place in it. -/
lemma Frame.setBuffer {s : Ntv2Stream} {i : StreamIndex} {b : Ntv2StreamBuffer}
    (h : (s.streamBuffers i).Same b) : Frame s (s.setBuffer i b) := by
  refine ⟨⟨rfl, rfl, rfl, rfl, rfl⟩, fun j => ?_⟩
  by_cases hj : j = i
  · subst hj
    rwa [setBuffer_streamBuffers, Function.update_self]
  · rw [setBuffer_streamBuffers, Function.update_of_ne hj]
    exact .refl _

/-- **The queue survives** a step that leaves it as it is, wherever the next index goes. -/
lemma QueueInv.frame {s t : Ntv2Stream} (h : QueueInv s) (hf : Frame s t)
    (hactive : gap s.tailIndex s.activeIndex ≤ gap s.tailIndex t.nextIndex)
    (hnext : gap s.tailIndex t.nextIndex ≤ gap s.tailIndex s.headIndex)
    (hlinked : ∀ i, (t.streamBuffers i).linked = true →
      (s.streamBuffers i).linked = true ∨ (s.streamBuffers i).queued = true) : QueueInv t := by
  refine ⟨?_, ?_, fun i => ?_, ?_, fun i hi => ?_, fun i hi => ?_, fun i hi hle => ?_⟩
  · rwa [hf.tailIndex, hf.activeIndex]
  · rwa [hf.tailIndex, hf.headIndex]
  · rw [(hf.same i).queued, hf.tailIndex, hf.headIndex]
    exact h.queued i
  · rw [hf.queueCount, hf.releaseCount, hf.tailIndex, hf.headIndex]
    exact h.count
  · rw [(hf.same i).queued] at hi
    by_contra hl
    rw [Bool.not_eq_false] at hl
    rcases hlinked i hl with hl' | hq
    · rw [h.unlinked i hi] at hl'
      exact Bool.noConfusion hl'
    · rw [hi] at hq
      exact Bool.noConfusion hq
  · rw [(hf.same i).queued] at hi
    rw [(hf.same i).released, (hf.same i).dmaBuffer]
    exact h.mapped i hi
  · rw [(hf.same i).queued] at hi
    rw [hf.tailIndex, hf.activeIndex] at hle
    rw [(hf.same i).completed]
    exact h.pending i hi hle

/-! ### Linking -/

/-- What linking does to the stream: some queued slots get linked, and the engine may fail. -/
structure Links (s t : Ntv2Stream) : Prop where
  frame : Frame s t
  nextIndex : t.nextIndex = s.nextIndex
  streamState : t.streamState = s.streamState
  engineState : t.engineState = s.engineState ∨ t.engineState = .error
  flushed : ∀ i, (t.streamBuffers i).flushed = (s.streamBuffers i).flushed
  linked : ∀ i, (s.streamBuffers i).linked = true → (t.streamBuffers i).linked = true
  onlyQueued : ∀ i, (t.streamBuffers i).linked = true →
    (s.streamBuffers i).linked = true ∨ (s.streamBuffers i).queued = true

lemma Links.refl (s : Ntv2Stream) : Links s s :=
  ⟨.refl s, rfl, rfl, .inl rfl, fun _ => rfl, fun _ h => h, fun _ h => .inl h⟩

lemma Links.trans {s t u : Ntv2Stream} (h : Links s t) (h' : Links t u) : Links s u := by
  refine ⟨h.frame.trans h'.frame, h'.nextIndex.trans h.nextIndex,
    h'.streamState.trans h.streamState, ?_, fun i => (h'.flushed i).trans (h.flushed i),
    fun i hi => h'.linked i (h.linked i hi), fun i hi => ?_⟩
  · rcases h'.engineState with he | he
    · rw [he]
      exact h.engineState
    · exact .inr he
  · rcases h'.onlyQueued i hi with hl | hq
    · exact h.onlyQueued i hl
    · exact .inr (((h.frame.same i).queued).symm.trans hq)

lemma Links.error (s : Ntv2Stream) : Links s { s with engineState := .error } :=
  ⟨⟨⟨rfl, rfl, rfl, rfl, rfl⟩, fun _ => .refl _⟩, rfl, rfl, .inr rfl, fun _ => rfl, fun _ h => h,
    fun _ h => .inl h⟩

/-- Linking keeps a slot linkable. -/
lemma Links.linkable {s t : Ntv2Stream} (h : Links s t) {i : StreamIndex} :
    (t.streamBuffers i).Linkable ↔ (s.streamBuffers i).Linkable := by
  have hs := h.frame.same i
  rw [Ntv2StreamBuffer.Linkable, Ntv2StreamBuffer.Linkable, hs.queued, h.flushed, hs.completed,
    hs.released, hs.dmaBuffer]

/-- Writing the descriptors and the link of a queued slot. -/
lemma Links.slot {s t : Ntv2Stream} {i : StreamIndex} (hq : (s.streamBuffers i).queued = true)
    (hcur : SameCursors s t)
    (hnext : t.nextIndex = s.nextIndex) (hstate : t.streamState = s.streamState)
    (hengine : t.engineState = s.engineState ∨ t.engineState = .error)
    (hother : ∀ j, j ≠ i → t.streamBuffers j = s.streamBuffers j)
    (hsame : (s.streamBuffers i).Same (t.streamBuffers i))
    (hflushed : (t.streamBuffers i).flushed = (s.streamBuffers i).flushed)
    (hlinked : (s.streamBuffers i).linked = true → (t.streamBuffers i).linked = true) :
    Links s t := by
  refine ⟨⟨hcur, fun j => ?_⟩, hnext, hstate, hengine, fun j => ?_, fun j hj => ?_,
    fun j hj => ?_⟩ <;> rcases eq_or_ne j i with rfl | hji
  · exact hsame
  · rw [hother j hji]
    exact .refl _
  · exact hflushed
  · rw [hother j hji]
  · exact hlinked hj
  · rwa [hother j hji]
  · exact .inr hq
  · rw [hother j hji] at hj
    exact .inl hj

/-- **Building** a linkable slot links it, or fails the engine. -/
lemma build_spec {hw : StreamHardware} {s t : Ntv2Stream} {i : StreamIndex} {ok : Bool}
    (hi : (s.streamBuffers i).Linkable) (h : dmaOpsBufferBuild hw s i = (t, ok)) :
    Links s t ∧ (ok = true → (t.streamBuffers i).linked = true ∧ t.engineState = s.engineState) ∧
      (ok = false → t.engineState = .error) := by
  simp only [dmaOpsBufferBuild] at h
  by_cases hl : (s.streamBuffers i).linked = true
  · rw [if_pos hl] at h
    obtain ⟨rfl, rfl⟩ := Prod.mk.inj h
    exact ⟨.refl s, fun _ => ⟨hl, rfl⟩, fun hf => Bool.noConfusion hf⟩
  · rw [if_neg hl] at h
    split_ifs at h with hbuild hlink <;> obtain ⟨rfl, rfl⟩ := Prod.mk.inj h
    · refine ⟨.slot hi.1 ⟨rfl, rfl, rfl, rfl, rfl⟩ rfl rfl (.inr rfl) (fun j hj => ?_) ⟨?_, ?_, ?_, ?_⟩ ?_
        fun hlk => absurd hlk hl, fun hf => Bool.noConfusion hf, fun _ => rfl⟩ <;>
        simp [*]
    · refine ⟨.slot hi.1 ⟨rfl, rfl, rfl, rfl, rfl⟩ rfl rfl (.inr rfl) (fun j hj => ?_) ⟨?_, ?_, ?_, ?_⟩ ?_
        fun hlk => absurd hlk hl, fun hf => Bool.noConfusion hf, fun _ => rfl⟩ <;>
        simp [*]
    · refine ⟨.slot hi.1 ⟨rfl, rfl, rfl, rfl, rfl⟩ rfl rfl (.inl rfl) (fun j hj => ?_) ⟨?_, ?_, ?_, ?_⟩ ?_
        fun hlk => absurd hlk hl, fun _ => ⟨?_, rfl⟩, fun hf => Bool.noConfusion hf⟩ <;>
        simp [*]

/-- **Linking** needs two linkable slots and links them both. -/
lemma link_spec {hw : StreamHardware} {s t : Ntv2Stream} {i j : StreamIndex} {ok : Bool}
    (h : dmaOpsBufferLink hw s i j = (t, ok)) :
    Links s t ∧
      (ok = true → s.engineState ≠ .error ∧ t.engineState = s.engineState ∧
        (s.streamBuffers i).Linkable ∧ (s.streamBuffers j).Linkable ∧
        (t.streamBuffers i).linked = true ∧ (t.streamBuffers j).linked = true) ∧
      (ok = false → i = j → t = s ∨ t.engineState = .error) := by
  rw [dmaOpsBufferLink] at h
  by_cases he : s.engineState = .error
  · rw [if_pos he] at h
    obtain ⟨rfl, rfl⟩ := Prod.mk.inj h
    exact ⟨.refl s, fun hf => Bool.noConfusion hf, fun _ _ => .inl rfl⟩
  rw [if_neg he] at h
  by_cases hi : (s.streamBuffers i).Linkable
  · rw [if_neg (not_not.mpr hi)] at h
    rcases hbi : dmaOpsBufferBuild hw s i with ⟨s₁, ok₁⟩
    obtain ⟨hl₁, hok₁, hfail₁⟩ := build_spec hi hbi
    rw [hbi] at h
    cases ok₁ with
    | false =>
        obtain ⟨rfl, rfl⟩ := Prod.mk.inj h
        exact ⟨hl₁, fun hf => Bool.noConfusion hf, fun _ _ => .inr (hfail₁ rfl)⟩
    | true =>
        obtain ⟨hi₁, he₁⟩ := hok₁ rfl
        simp only at h
        by_cases hj : (s₁.streamBuffers j).Linkable
        · rw [if_neg (not_not.mpr hj)] at h
          rcases hbj : dmaOpsBufferBuild hw s₁ j with ⟨s₂, ok₂⟩
          obtain ⟨hl₂, hok₂, hfail₂⟩ := build_spec hj hbj
          rw [hbj] at h
          cases ok₂ with
          | false =>
              obtain ⟨rfl, rfl⟩ := Prod.mk.inj h
              exact ⟨hl₁.trans hl₂, fun hf => Bool.noConfusion hf,
                fun _ _ => .inr (hfail₂ rfl)⟩
          | true =>
              obtain ⟨hj₂, he₂⟩ := hok₂ rfl
              simp only at h
              split_ifs at h with hchain
              · obtain ⟨rfl, rfl⟩ := Prod.mk.inj h
                exact ⟨(hl₁.trans hl₂).trans (.error _), fun hf => Bool.noConfusion hf,
                  fun _ _ => .inr rfl⟩
              · obtain ⟨rfl, rfl⟩ := Prod.mk.inj h
                exact ⟨hl₁.trans hl₂, fun _ => ⟨he, he₂.trans he₁, hi, hl₁.linkable.mp hj,
                  hl₂.linked i hi₁, hj₂⟩, fun hf => Bool.noConfusion hf⟩
        · rw [if_pos hj] at h
          obtain ⟨rfl, rfl⟩ := Prod.mk.inj h
          refine ⟨hl₁, fun hf => Bool.noConfusion hf, fun _ hij => ?_⟩
          subst hij
          exact absurd (hl₁.linkable.mpr hi) hj
  · rw [if_pos hi] at h
    obtain ⟨rfl, rfl⟩ := Prod.mk.inj h
    exact ⟨.refl s, fun hf => Bool.noConfusion hf, fun _ _ => .inl rfl⟩

/-! ### Flushing -/

/-- What flushing does to the stream: slots get flushed, but no linked one while the engine
runs. -/
structure Flushes (s t : Ntv2Stream) : Prop where
  frame : Frame s t
  nextIndex : t.nextIndex = s.nextIndex
  streamState : t.streamState = s.streamState
  engineState : t.engineState = s.engineState
  linked : ∀ i, (t.streamBuffers i).linked = (s.streamBuffers i).linked
  flushed : s.EngineRunning → ∀ i, (s.streamBuffers i).linked = true →
    (t.streamBuffers i).flushed = (s.streamBuffers i).flushed

lemma Flushes.refl (s : Ntv2Stream) : Flushes s s :=
  ⟨.refl s, rfl, rfl, rfl, fun _ => rfl, fun _ _ _ => rfl⟩

lemma Flushes.trans {s t u : Ntv2Stream} (h : Flushes s t) (h' : Flushes t u) : Flushes s u := by
  refine ⟨h.frame.trans h'.frame, h'.nextIndex.trans h.nextIndex,
    h'.streamState.trans h.streamState, h'.engineState.trans h.engineState,
    fun i => (h'.linked i).trans (h.linked i), fun hrun i hi => ?_⟩
  have hrun' : t.EngineRunning := by
    rwa [Ntv2Stream.EngineRunning, h.engineState]
  exact (h'.flushed hrun' i ((h.linked i).trans hi)).trans (h.flushed hrun i hi)

/-- Writing the flush of a slot. -/
lemma Flushes.setBuffer {s : Ntv2Stream} {i : StreamIndex} {b : Ntv2StreamBuffer}
    (hsame : (s.streamBuffers i).Same b) (hlinked : b.linked = (s.streamBuffers i).linked)
    (hflushed : s.EngineRunning → (s.streamBuffers i).linked = true →
      b.flushed = (s.streamBuffers i).flushed) : Flushes s (s.setBuffer i b) := by
  refine ⟨.setBuffer hsame, rfl, rfl, rfl, fun j => ?_, fun hrun j hj => ?_⟩ <;>
    rcases eq_or_ne j i with rfl | hji
  · simpa using hlinked
  · simp [Function.update_of_ne hji]
  · simpa using hflushed hrun hj
  · simp [Function.update_of_ne hji]

lemma Flushes.setUserBuffer (s : Ntv2Stream) (i : StreamIndex)
    (f : NTV2StreamBuffer → NTV2StreamBuffer) : Flushes s (s.setUserBuffer i f) :=
  .setBuffer ⟨rfl, rfl, rfl, rfl⟩ rfl fun _ _ => rfl

/-- **Flushing** a slot spares a linked one while the engine runs. -/
lemma flush_spec (s : Ntv2Stream) (i : StreamIndex) : Flushes s (dmaOpsBufferFlush s i).1 := by
  simp only [dmaOpsBufferFlush]
  split_ifs with hflushed hq hrun
  · exact .refl s
  · exact .refl s
  · exact .refl s
  · refine .setBuffer ⟨rfl, rfl, rfl, rfl⟩ rfl fun he hl => ?_
    exact absurd ⟨he, hl⟩ hrun

/-- The flush of all slots of the queue. -/
lemma flushLoop_spec (now : Int) (fuel : ℕ) (i : StreamIndex) (s : Ntv2Stream) :
    Flushes s (flushLoop now fuel i s) :=
  flushLoop_induct (fun t i h => h.trans (flush_spec t i)) (fun t _ _ h => h.trans
    (.setUserBuffer t _ _)) now fuel i (.refl s)

/-- A flush of all slots. -/
lemma flushAll_spec (s : Ntv2Stream) : Flushes s (flushAll s) :=
  flushAll_induct (fun t i h => h.trans (flush_spec t i)) (.refl s)

/-- A flush of all slots leaves a stream without queued slots as it is. -/
lemma flushAll_eq {s : Ntv2Stream} (h : ∀ i, (s.streamBuffers i).queued = false) :
    flushAll s = s := by
  have hone : ∀ i, (dmaOpsBufferFlush s i).1 = s := by
    intro i
    simp only [dmaOpsBufferFlush, h i]
    split_ifs <;> simp_all
  rw [flushAll]
  generalize List.finRange NTV2_STREAM_NUM_BUFFERS = is
  induction is with
  | nil => rfl
  | cons i is ih => rw [List.foldl_cons, hone i, ih]

end LibAjaNtv2
