import Mathlib.Tactic
import LibAjaNtv2.Stream.Buffers

/-!
What an advance of the engine keeps.

* `Advances`, `advances_spec`: **what moving on to the next slot does** to any stream;
* `Moves`, `StreamInv.moves`: the next slot becomes active;
* `findNext_flushed`: the search for the slot behind it;
* `StreamInv.setNext`, `linkNext_inv`: the slot behind it becomes next;
* `advance_inv`: the invariant over an advance that moves to a linked slot.
-/

namespace LibAjaNtv2

open Cyclic

variable {hw : StreamHardware} {s : Ntv2Stream}

/-! ### Advance -/

/-- Two contents of a slot that differ in their completion only. -/
structure Ntv2StreamBuffer.Alike (b b' : Ntv2StreamBuffer) : Prop where
  queued : b'.queued = b.queued
  linked : b'.linked = b.linked
  flushed : b'.flushed = b.flushed
  released : b'.released = b.released
  dmaBuffer : b'.dmaBuffer = b.dmaBuffer

/-- Counting touches neither the count of queued nor the count of released buffers. -/
lemma countTransfer_spec (s : Ntv2Stream) :
    ∃ c, countTransfer s = { s with userChannel := c } ∧
      c.mQueueCount = s.userChannel.mQueueCount ∧
      c.mReleaseCount = s.userChannel.mReleaseCount := by
  refine ⟨_, rfl, ?_, ?_⟩ <;> split_ifs <;> rfl

/-- The memory of a user buffer. -/
def NTV2StreamBuffer.memory (b : NTV2StreamBuffer) : ℕ × ℕ := (b.fUserSpacePtr, b.fByteCount)

/-- The memory of the buffer in a slot. -/
def Ntv2StreamBuffer.memory (b : Ntv2StreamBuffer) : ℕ × ℕ := b.userBuffer.memory

/-- Moving on stamps the user buffer of the next slot. -/
lemma moveActive_spec (hw : StreamHardware) (s : Ntv2Stream) :
    ∃ b, moveActive hw s = { s with activeIndex := s.nextIndex }.setBuffer s.nextIndex b ∧
      s.nextBuffer.Alike b ∧ b.completed = s.nextBuffer.completed ∧
      b.memory = s.nextBuffer.memory := by
  simp only [moveActive]
  split_ifs
  · exact ⟨_, rfl, ⟨rfl, rfl, rfl, rfl, rfl⟩, rfl, rfl⟩
  · refine ⟨s.nextBuffer, ?_, ⟨rfl, rfl, rfl, rfl, rfl⟩, rfl, rfl⟩
    simp [Ntv2Stream.setBuffer, Ntv2Stream.nextBuffer]

lemma Ntv2StreamBuffer.Alike.refl (b : Ntv2StreamBuffer) : b.Alike b := ⟨rfl, rfl, rfl, rfl, rfl⟩

lemma Ntv2StreamBuffer.Alike.trans {b b' b'' : Ntv2StreamBuffer} (h : b.Alike b')
    (h' : b'.Alike b'') : b.Alike b'' :=
  ⟨h'.queued.trans h.queued, h'.linked.trans h.linked, h'.flushed.trans h.flushed,
    h'.released.trans h.released, h'.dmaBuffer.trans h.dmaBuffer⟩

/-- A slot that is completed when the engine leaves it. -/
def Ntv2StreamBuffer.Completes (b : Ntv2StreamBuffer) : Prop :=
  b.queued = true ∧ b.linked = true ∧ b.flushed = false ∧ b.released = false

/-- Completing a slot fails unless the engine ran on it. -/
lemma complete_cases (s : Ntv2Stream) (i : StreamIndex) :
    ((s.streamBuffers i).Completes ∧ dmaOpsBufferComplete s i =
      (s.setBuffer i { s.streamBuffers i with completed := true }, true)) ∨
    (¬ (s.streamBuffers i).Completes ∧ dmaOpsBufferComplete s i = (s, false)) := by
  simp only [dmaOpsBufferComplete]
  split_ifs with hnot
  · refine .inr ⟨?_, rfl⟩
    rintro ⟨hq, hl, hf, hr⟩
    rw [hq, hl, hf, hr] at hnot
    exact Bool.noConfusion hnot
  · simp only [Bool.or_eq_true, Bool.not_eq_true', not_or, Bool.not_eq_false,
      Bool.not_eq_true] at hnot
    exact .inl ⟨⟨hnot.1.1.1, hnot.1.1.2, hnot.1.2, hnot.2⟩, rfl⟩

/-- What moving on to the next slot does to any stream. -/
structure Advances (s t : Ntv2Stream) : Prop where
  headIndex : t.headIndex = s.headIndex
  tailIndex : t.tailIndex = s.tailIndex
  activeIndex : t.activeIndex = s.nextIndex
  nextIndex : t.nextIndex = s.nextIndex
  streamState : t.streamState = s.streamState
  alike : ∀ i, (s.streamBuffers i).Alike (t.streamBuffers i)
  completed : ∀ i, (t.streamBuffers i).completed = true ↔ (s.streamBuffers i).completed = true ∨
    (i = s.activeIndex ∧ s.activeIndex ≠ s.nextIndex ∧ s.activeBuffer.Completes)
  memory : ∀ i, (t.streamBuffers i).memory = (s.streamBuffers i).memory

/-- The active slot is completed if it can be, and the engine fails if not. -/
lemma completeActive_cases (hw : StreamHardware) (s : Ntv2Stream) :
    ∃ b e, completeActive hw s = { s.setBuffer s.activeIndex b with engineState := e } ∧
      s.activeBuffer.Alike b ∧ (b.completed = true ↔ s.activeBuffer.completed = true ∨
        (s.activeIndex ≠ s.nextIndex ∧ s.activeBuffer.Completes)) ∧
      b.memory = s.activeBuffer.memory := by
  obtain ⟨b, hb⟩ : ∃ b, b = { s.activeBuffer with
    userBuffer := { s.activeBuffer.userBuffer with
      mTransferCount := s.activeBuffer.userBuffer.mTransferCount + 1 } } := ⟨_, rfl⟩
  have halike : s.activeBuffer.Alike b := by
    rw [hb]
    exact ⟨rfl, rfl, rfl, rfl, rfl⟩
  have hcompletes : b.Completes ↔ s.activeBuffer.Completes := by
    rw [hb]
    exact Iff.rfl
  have hcompleted : b.completed = s.activeBuffer.completed := by rw [hb]
  have hmemory : b.memory = s.activeBuffer.memory := by
    rw [hb]
    rfl
  have hself : (s.setBuffer s.activeIndex b).streamBuffers s.activeIndex = b :=
    Function.update_self _ _ _
  have hcount : (s.setUserBuffer s.activeIndex fun b =>
      { b with mTransferCount := b.mTransferCount + 1 }) = s.setBuffer s.activeIndex b := by
    rw [hb]
    rfl
  simp only [completeActive, hcount, setBuffer_activeIndex, setBuffer_nextIndex]
  by_cases hne : s.activeIndex ≠ s.nextIndex
  · rw [if_pos hne]
    rcases complete_cases (s.setBuffer s.activeIndex b) s.activeIndex with ⟨hc, he⟩ | ⟨hc, he⟩
    · rw [he]
      simp only [Ntv2Stream.setUserBuffer, setBuffer_setBuffer, setBuffer_activeIndex,
        setBuffer_streamBuffers, Function.update_self]
      refine ⟨_, s.engineState, rfl, ⟨halike.queued, halike.linked, halike.flushed,
        halike.released, halike.dmaBuffer⟩, ⟨fun _ => .inr ⟨hne, ?_⟩, fun _ => rfl⟩, hmemory⟩
      rw [hself] at hc
      exact hcompletes.mp hc
    · rw [he]
      simp only [Ntv2Stream.setUserBuffer, setBuffer_activeIndex, setBuffer_streamBuffers,
        Function.update_self]
      refine ⟨{ b with userBuffer := { b.userBuffer with mCompleteTime := hw.ntv2Time100ns } },
        .error, ?_, ⟨halike.queued, halike.linked, halike.flushed,
        halike.released, halike.dmaBuffer⟩, ?_, hmemory⟩
      · simp [Ntv2Stream.setBuffer]
      · rw [hself] at hc
        rw [← hcompleted]
        exact ⟨.inl, fun h => h.resolve_right fun hr => hc (hcompletes.mpr hr.2)⟩
  · rw [if_neg hne]
    refine ⟨b, s.engineState, rfl, halike, ?_, hmemory⟩
    rw [hcompleted]
    exact ⟨.inl, fun h => h.resolve_right fun hr => hne hr.1⟩

/-- **Moving on** to the next slot. -/
lemma advances_spec (hw : StreamHardware) (s : Ntv2Stream) :
    Advances s (moveActive hw (countTransfer (completeActive hw s))) := by
  obtain ⟨b, e, hb, halike, hcompleted, hmemory⟩ := completeActive_cases hw s
  obtain ⟨c, hc, -, -⟩ := countTransfer_spec (completeActive hw s)
  obtain ⟨b', hb', halike', hcompleted', hmemory'⟩ :=
    moveActive_spec hw (countTransfer (completeActive hw s))
  rw [hb']
  rw [hc, hb] at hb' halike' hcompleted' hmemory' ⊢
  have hslot : ∀ i, (s.streamBuffers i).Alike
      (Function.update s.streamBuffers s.activeIndex b i) := by
    intro i
    rcases eq_or_ne i s.activeIndex with rfl | hi
    · rw [Function.update_self]
      exact halike
    · rw [Function.update_of_ne hi]
      exact .refl _
  have hdone : ∀ i, (Function.update s.streamBuffers s.activeIndex b i).completed = true ↔
      (s.streamBuffers i).completed = true ∨
        (i = s.activeIndex ∧ s.activeIndex ≠ s.nextIndex ∧ s.activeBuffer.Completes) := by
    intro i
    rcases eq_or_ne i s.activeIndex with rfl | hne
    · rw [Function.update_self]
      exact hcompleted.trans (or_congr_right ⟨fun hr => ⟨rfl, hr⟩, fun hr => hr.2⟩)
    · rw [Function.update_of_ne hne]
      exact ⟨.inl, fun h => h.resolve_right fun hr => hne hr.1⟩
  have hsame : ∀ i, (Function.update s.streamBuffers s.activeIndex b i).memory =
      (s.streamBuffers i).memory := by
    intro i
    rcases eq_or_ne i s.activeIndex with rfl | hne
    · rw [Function.update_self, hmemory]
      rfl
    · rw [Function.update_of_ne hne]
  refine ⟨rfl, rfl, rfl, rfl, rfl, fun i => ?_, fun i => ?_, fun i => ?_⟩ <;>
    rcases eq_or_ne i s.nextIndex with rfl | hne
  · refine (hslot s.nextIndex).trans ?_
    simpa [Ntv2Stream.nextBuffer] using halike'
  · simpa [Function.update_of_ne hne] using hslot i
  · rw [← hdone]
    simpa [Ntv2Stream.nextBuffer] using congrArg (· = true) hcompleted'
  · simpa [Function.update_of_ne hne] using hdone i
  · rw [← hsame]
    simpa [Ntv2Stream.nextBuffer] using hmemory'
  · simpa [Function.update_of_ne hne] using hsame i

/-- Moving on counts no buffer as queued or released. -/
lemma advances_counts (hw : StreamHardware) (s : Ntv2Stream) :
    (moveActive hw (countTransfer (completeActive hw s))).userChannel.mQueueCount =
        s.userChannel.mQueueCount ∧
      (moveActive hw (countTransfer (completeActive hw s))).userChannel.mReleaseCount =
        s.userChannel.mReleaseCount := by
  obtain ⟨b, e, hb, -⟩ := completeActive_cases hw s
  obtain ⟨c, hc, hqueue, hrelease⟩ := countTransfer_spec (completeActive hw s)
  obtain ⟨b', hb', -⟩ := moveActive_spec hw (countTransfer (completeActive hw s))
  rw [hb', hc]
  rw [hb] at hqueue hrelease
  exact ⟨hqueue, hrelease⟩

/-- What moving on to the next slot does to the stream. -/
structure Moves (s t : Ntv2Stream) : Prop where
  headIndex : t.headIndex = s.headIndex
  tailIndex : t.tailIndex = s.tailIndex
  activeIndex : t.activeIndex = s.nextIndex
  nextIndex : t.nextIndex = s.nextIndex
  streamState : t.streamState = s.streamState
  queueCount : t.userChannel.mQueueCount = s.userChannel.mQueueCount
  releaseCount : t.userChannel.mReleaseCount = s.userChannel.mReleaseCount
  alike : ∀ i, (s.streamBuffers i).Alike (t.streamBuffers i)
  completed : ∀ i, i ≠ s.activeIndex ∨ s.activeIndex = s.nextIndex →
    (t.streamBuffers i).completed = (s.streamBuffers i).completed

/-- Completing the active slot, counting and moving on. -/
lemma moves_spec (hw : StreamHardware) (s : Ntv2Stream) :
    Moves s (moveActive hw (countTransfer (completeActive hw s))) := by
  have hm := advances_spec hw s
  obtain ⟨hqueue, hrelease⟩ := advances_counts hw s
  refine ⟨hm.headIndex, hm.tailIndex, hm.activeIndex, hm.nextIndex, hm.streamState, hqueue,
    hrelease, hm.alike, fun i hi => ?_⟩
  rw [Bool.eq_iff_iff, hm.completed]
  refine ⟨fun h => h.resolve_right ?_, .inl⟩
  rintro ⟨rfl, hne, -⟩
  exact hi.elim (fun h => h rfl) hne

/-- **Moving on** keeps the invariant if the next slot is linked. -/
lemma StreamInv.moves {t : Ntv2Stream} (h : StreamInv s) (hm : Moves s t) (hrun : s.Running)
    (hlinked : s.activeIndex ≠ s.nextIndex → s.nextBuffer.linked = true) : StreamInv t := by
  have hready := h.mode.running hrun
  have hnextReady : s.nextBuffer.Ready := by
    by_cases he : s.activeIndex = s.nextIndex
    · rw [Ntv2Stream.nextBuffer, ← he]
      exact hready
    · obtain ⟨-, hq, hf, -⟩ := h.mode.upcoming he
      exact ⟨hq, hlinked he, hf⟩
  have hactive : t.activeBuffer.Ready := by
    have halike := hm.alike s.nextIndex
    rw [Ntv2Stream.activeBuffer, hm.activeIndex]
    exact ⟨halike.queued.trans hnextReady.1, halike.linked.trans hnextReady.2.1,
      halike.flushed.trans hnextReady.2.2⟩
  have hinit : t.streamState ≠ .initialized := by
    rw [hm.streamState]
    rcases hrun with hr | hr <;> rw [hr] <;> exact Ntv2StreamState.noConfusion
  obtain ⟨hq, hmode⟩ := h
  refine ⟨⟨?_, ?_, fun i => ?_, ?_, fun i hi => ?_, fun i hi => ?_, fun i hi hle => ?_⟩,
    ⟨?_, fun _ => hactive, fun hi => absurd hi hinit, fun hne => absurd ?_ hne⟩⟩
  · rw [hm.activeIndex, hm.nextIndex]
  · rw [hm.tailIndex, hm.nextIndex, hm.headIndex]
    exact hq.next_le
  · rw [(hm.alike i).queued, hm.tailIndex, hm.headIndex]
    exact hq.queued i
  · rw [hm.queueCount, hm.releaseCount, hm.tailIndex, hm.headIndex]
    exact hq.count
  · rw [(hm.alike i).queued] at hi
    rw [(hm.alike i).linked]
    exact hq.unlinked i hi
  · rw [(hm.alike i).queued] at hi
    rw [(hm.alike i).released, (hm.alike i).dmaBuffer]
    exact hq.mapped i hi
  · rw [(hm.alike i).queued] at hi
    rw [hm.tailIndex, hm.activeIndex] at hle
    have hnot : i ≠ s.activeIndex ∨ s.activeIndex = s.nextIndex := by
      by_cases he : s.activeIndex = s.nextIndex
      · exact .inr he
      · refine .inl ?_
        rintro rfl
        exact he (gap_inj (Nat.le_antisymm hq.active_le hle))
    rw [hm.completed i hnot]
    exact hq.pending i hi (hq.active_le.trans hle)
  · rw [hm.streamState]
    exact hmode.known
  · rw [hm.activeIndex, hm.nextIndex]

/-- The search for the next slot passes flushed slots only. -/
lemma findNext_flushed {fuel : ℕ} {i j : StreamIndex} (h : findNext s fuel i = some j) :
    (s.streamBuffers j).flushed = false ∧ gap i j < gap i s.headIndex ∧
      ∀ k, gap i k < gap i j → (s.streamBuffers k).flushed = true := by
  induction fuel generalizing i with
  | zero => exact absurd h (by simp [findNext])
  | succ fuel ih =>
      rw [findNext] at h
      split_ifs at h with hhead hflushed
      · obtain ⟨hj, hlt, hbetween⟩ := ih h
        rw [queueNext] at hlt hbetween
        have hji : j ≠ i := by
          rintro rfl
          rw [hflushed] at hj
          exact Bool.noConfusion hj
        have hj0 : gap i j ≠ 0 := fun hz => hji (gap_eq_zero.mp hz)
        rw [gap_succ_base hji, gap_succ_base (Ne.symm hhead)] at hlt
        refine ⟨hj, by omega, fun k hk => ?_⟩
        rcases eq_or_ne k i with rfl | hki
        · exact hflushed
        · have hk0 : gap i k ≠ 0 := fun hz => hki (gap_eq_zero.mp hz)
          refine hbetween k ?_
          rw [gap_succ_base hki, gap_succ_base hji]
          omega
      · obtain rfl := Option.some.inj h
        refine ⟨Bool.eq_false_of_not_eq_true hflushed, ?_, fun k hk => ?_⟩
        · rw [gap_self]
          exact Nat.pos_of_ne_zero fun hz => hhead (gap_eq_zero.mp hz).symm
        · rw [gap_self] at hk
          exact absurd hk (Nat.not_lt_zero _)

/-- The next index moves behind the active slot, to a slot that is linked unless the engine has
failed. -/
lemma StreamInv.setNext {t u : Ntv2Stream} {j : StreamIndex} (h : StreamInv s) (hrun : s.Running)
    (hl : Links s t) (hlo : gap s.tailIndex s.activeIndex < gap s.tailIndex j)
    (hhi : gap s.tailIndex j < gap s.tailIndex s.headIndex)
    (hflushed : (s.streamBuffers j).flushed = false)
    (hcur : SameCursors t u) (hbuffers : u.streamBuffers = t.streamBuffers)
    (hstate : u.streamState = t.streamState) (hnext : u.nextIndex = j)
    (hlinked : (t.streamBuffers j).linked = true ∨ u.engineState = .error) : StreamInv u := by
  have hcur' := hl.frame.toSameCursors.trans hcur
  have hframe : Frame s u := ⟨hcur', fun i => by rw [hbuffers]; exact hl.frame.same i⟩
  have hstate' : u.streamState = s.streamState := hstate.trans hl.streamState
  have hinit : u.streamState ≠ .initialized := by
    rw [hstate']
    rcases hrun with hr | hr <;> rw [hr] <;> exact Ntv2StreamState.noConfusion
  obtain ⟨hq, hm⟩ := h
  have hready := hm.running hrun
  refine ⟨hq.frame hframe ?_ ?_ fun i hi => ?_, ⟨hstate'.trans_ne hm.known, fun _ => ?_,
    fun hi => absurd hi hinit, fun _ => ⟨hinit, ?_, ?_, ?_⟩⟩⟩
  · rw [hnext]
    exact hlo.le
  · rw [hnext]
    exact hhi.le
  · rw [hbuffers] at hi
    exact hl.onlyQueued i hi
  · rw [Ntv2Stream.activeBuffer, hcur'.activeIndex, hbuffers]
    exact ⟨((hl.frame.same _).queued).trans hready.1, hl.linked _ hready.2.1,
      (hl.flushed _).trans hready.2.2⟩
  · rw [Ntv2Stream.nextBuffer, hnext, hbuffers, (hl.frame.same j).queued, hq.queued]
    exact hhi
  · rw [Ntv2Stream.nextBuffer, hnext, hbuffers, hl.flushed]
    exact hflushed
  · rw [Ntv2Stream.nextBuffer, hnext, hbuffers]
    exact hlinked

/-- **Linking the next slot** keeps the invariant, even if the link fails. -/
lemma linkNext_inv (h : StreamInv s) (hrun : s.Running) (status : Int) :
    StreamInv (linkNext hw s status).1 := by
  have hqueued := (h.mode.running hrun).1
  rw [Ntv2Stream.activeBuffer, h.queue.queued] at hqueued
  rw [linkNext]
  split_ifs with hactive
  · cases hfind : findNext s NTV2_STREAM_NUM_BUFFERS (queueNext s.activeIndex) with
    | none => exact h
    | some j =>
        obtain ⟨hflushed, hlt, -⟩ := findNext_flushed hfind
        obtain ⟨hlo, hhi⟩ := gap_between hqueued hlt
        simp only
        rcases hlink : dmaOpsBufferLink hw s s.activeIndex j with ⟨t, ok⟩
        obtain ⟨hl, hok, -⟩ := link_spec hlink
        cases ok with
        | false =>
            exact h.setNext hrun hl hlo hhi hflushed ⟨rfl, rfl, rfl, rfl, rfl⟩ rfl rfl rfl
              (.inr rfl)
        | true =>
            exact h.setNext hrun hl hlo hhi hflushed ⟨rfl, rfl, rfl, rfl, rfl⟩ rfl rfl rfl
              (.inl (hok rfl).2.2.2.2.2)
  · exact h

/-- The engine takes over the state of a stream that runs. -/
lemma streamAdvance_spec (hrun : s.Running) :
    ∃ e, dmaOpsStreamAdvance s = ({ s with engineState := e }, true) := by
  rcases hrun with hr | hr
  · exact ⟨.active, by simp [dmaOpsStreamAdvance, hr]⟩
  · exact ⟨.idle, by simp [dmaOpsStreamAdvance, hr]⟩

/-- **An advance** keeps the invariant if it does not move to a slot that is not linked. -/
lemma advance_inv (h : StreamInv s)
    (hok : s.Running → ¬ (s.engineState = .initialized ∧ s.initCount < s.initAdvance) →
      s.activeIndex ≠ s.nextIndex → s.nextBuffer.linked = true) :
    StreamInv (streamChannelAdvance hw s).1 := by
  rw [streamChannelAdvance]
  split_ifs with hstate hinit
  · exact h
  · obtain ⟨hq, hm⟩ := h
    exact ⟨⟨hq.active_le, hq.next_le, hq.queued, hq.count, hq.unlinked, hq.mapped, hq.pending⟩,
      ⟨hm.known, hm.running, hm.fresh, hm.upcoming⟩⟩
  · have hrun : s.Running := by
      rw [not_and_or, not_not, not_not] at hstate
      exact hstate
    have hmoves := moves_spec hw s
    have ht := h.moves hmoves hrun (hok hrun hinit)
    have hsame := hmoves.activeIndex.trans hmoves.nextIndex.symm
    generalize moveActive hw (countTransfer (completeActive hw s)) = t at hmoves ht hsame
    have hrun' : t.Running := by
      rwa [Ntv2Stream.Running, hmoves.streamState]
    have hinit' : t.streamState ≠ .initialized := by
      rcases hrun' with hr | hr <;> rw [hr] <;> exact Ntv2StreamState.noConfusion
    obtain ⟨e, he⟩ := streamAdvance_spec hrun'
    rw [he]
    have hengine : StreamInv { t with engineState := e } := by
      obtain ⟨hq, hm⟩ := ht
      exact ⟨⟨hq.active_le, hq.next_le, hq.queued, hq.count, hq.unlinked, hq.mapped, hq.pending⟩,
        ⟨hm.known, hm.running, fun hi => absurd hi hinit', fun hne => absurd hsame hne⟩⟩
    exact linkNext_inv hengine hrun' 1

end LibAjaNtv2
