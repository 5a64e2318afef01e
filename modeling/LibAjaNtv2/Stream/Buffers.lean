import Mathlib.Tactic
import LibAjaNtv2.Stream.Calls

/-!
What the calls on the buffers of a stream keep.

* `StreamInv.push`, `bufferQueue_inv`: one more buffer at the head;
* `StreamInv.pop`, `bufferRelease_inv`: one less at the tail, unless it is the active one.
-/

namespace LibAjaNtv2

open Cyclic

variable {hw : StreamHardware} {s : Ntv2Stream}

/-! ### Buffers -/

/-- The count of queued slots after one more. -/
lemma count_succ {queued released : BitVec 64} {n : ℕ} (h : queued - released = BitVec.ofNat 64 n) :
    queued + 1 - released = BitVec.ofNat 64 (n + 1) := by
  have hadd : BitVec.ofNat 64 (n + 1) = BitVec.ofNat 64 n + 1 := BitVec.ofNat_add n 1
  rw [hadd, ← h]
  ring

/-- The count of queued slots after one less. -/
lemma count_pred {queued released : BitVec 64} {n : ℕ}
    (h : queued - released = BitVec.ofNat 64 (n + 1)) :
    queued - (released + 1) = BitVec.ofNat 64 n := by
  have hadd : BitVec.ofNat 64 (n + 1) = BitVec.ofNat 64 n + 1 := BitVec.ofNat_add n 1
  rw [sub_add_eq_sub_sub, h, hadd]
  ring

/-- What queueing a buffer does to its slot. -/
lemma bufferQueue_spec {i : StreamIndex} {t : Ntv2Stream} {ok : Bool}
    (hi : (s.streamBuffers i).queued = false) (h : dmaOpsBufferQueue hw s i = (t, ok)) :
    ∃ b : Ntv2StreamBuffer, t = s.setBuffer i b ∧ b.linked = false ∧ b.completed = false ∧
      b.released = false ∧ (ok = false → b.queued = false) ∧
      (ok = true → b.queued = true ∧ b.dmaBuffer.isSome = true) := by
  simp only [dmaOpsBufferQueue, hi, setBuffer_setBuffer, if_neg Bool.false_ne_true, setBuffer_owner] at h
  have hfail : (s.setBuffer i { userBuffer := (s.streamBuffers i).userBuffer }, false) = (t, ok) →
      ∃ b : Ntv2StreamBuffer, t = s.setBuffer i b ∧ b.linked = false ∧ b.completed = false ∧
        b.released = false ∧ (ok = false → b.queued = false) ∧
        (ok = true → b.queued = true ∧ b.dmaBuffer.isSome = true) := by
    intro hf
    obtain ⟨rfl, rfl⟩ := Prod.mk.inj hf
    exact ⟨_, rfl, rfl, rfl, rfl, fun _ => rfl, Bool.noConfusion⟩
  cases howner : s.owner with
  | none =>
      rw [howner] at h
      exact hfail h
  | some file =>
      rw [howner] at h
      simp only at h
      split_ifs at h with huser
      · exact hfail h
      · split at h
        · exact hfail h
        · split_ifs at h with hlocked hmapped
          · exact hfail h
          · exact hfail h
          · obtain ⟨rfl, rfl⟩ := Prod.mk.inj h
            exact ⟨_, rfl, rfl, rfl, rfl, Bool.noConfusion, fun _ => ⟨rfl, rfl⟩⟩

lemma QueueInv.head_free (h : QueueInv s) : (s.streamBuffers s.headIndex).queued = false := by
  by_contra hq
  rw [Bool.not_eq_false, h.queued] at hq
  exact Nat.lt_irrefl _ hq

/-- A queued slot is not at the head. -/
lemma QueueInv.ne_head (h : QueueInv s) {i : StreamIndex} (hi : (s.streamBuffers i).queued = true) :
    i ≠ s.headIndex := by
  rintro rfl
  rw [h.head_free] at hi
  exact Bool.noConfusion hi

/-- What the states say does not depend on a slot that is neither active nor next, as long as it
is not linked. -/
lemma ModeInv.setSlot {t : Ntv2Stream} {k : StreamIndex} {b : Ntv2StreamBuffer} (h : ModeInv s)
    (hbuffers : t.streamBuffers = Function.update s.streamBuffers k b)
    (hactive : t.activeIndex = s.activeIndex) (hnext : t.nextIndex = s.nextIndex)
    (hstate : t.streamState = s.streamState) (hengine : t.engineState = s.engineState)
    (hb : b.linked = false) (hactive' : s.Running → s.activeIndex ≠ k)
    (hnext' : s.activeIndex ≠ s.nextIndex → s.nextIndex ≠ k) : ModeInv t := by
  have hslot : ∀ i, i ≠ k → t.streamBuffers i = s.streamBuffers i := by
    intro i hi
    rw [hbuffers, Function.update_of_ne hi]
  refine ⟨hstate.trans_ne h.known, fun hr => ?_, fun hi => ?_, fun hne => ?_⟩
  · rw [Ntv2Stream.Running, hstate] at hr
    rw [Ntv2Stream.activeBuffer, hactive, hslot _ (hactive' hr)]
    exact h.running hr
  · rw [hstate] at hi
    rw [hengine]
    refine (h.fresh hi).imp_right fun hnone i => ?_
    rcases eq_or_ne i k with rfl | hne
    · rw [hbuffers, Function.update_self, hb]
    · rw [hslot i hne]
      exact hnone i
  · rw [hactive, hnext] at hne
    rw [hstate, hengine, Ntv2Stream.nextBuffer, hnext, hslot _ (hnext' hne)]
    exact h.upcoming hne

/-- The slot at the head is neither active nor next. -/
lemma StreamInv.setHead {t : Ntv2Stream} {b : Ntv2StreamBuffer} (h : StreamInv s)
    (hbuffers : t.streamBuffers = Function.update s.streamBuffers s.headIndex b)
    (hactive : t.activeIndex = s.activeIndex) (hnext : t.nextIndex = s.nextIndex)
    (hstate : t.streamState = s.streamState) (hengine : t.engineState = s.engineState)
    (hb : b.linked = false) : ModeInv t :=
  h.mode.setSlot hbuffers hactive hnext hstate hengine hb
    (fun hr => h.queue.ne_head (h.mode.running hr).1)
    fun hne => h.queue.ne_head (h.mode.upcoming hne).2.1

/-- A buffer that is not taken leaves its slot empty. -/
lemma StreamInv.rejected (h : StreamInv s) {b : Ntv2StreamBuffer} (hq : b.queued = false)
    (hl : b.linked = false) : StreamInv (s.setBuffer s.headIndex b) := by
  refine ⟨?_, h.setHead rfl rfl rfl rfl rfl hl⟩
  obtain ⟨hqueue, -⟩ := h
  have hslot : ∀ i, i ≠ s.headIndex →
      (s.setBuffer s.headIndex b).streamBuffers i = s.streamBuffers i := fun i hi =>
    Function.update_of_ne hi _ _
  have hhead : (s.setBuffer s.headIndex b).streamBuffers s.headIndex = b :=
    Function.update_self _ _ _
  refine ⟨hqueue.active_le, hqueue.next_le, fun i => ?_, hqueue.count, fun i hi => ?_,
    fun i hi => ?_, fun i hi hle => ?_⟩ <;> rcases eq_or_ne i s.headIndex with rfl | hne
  · rw [hhead, hq]
    exact ⟨Bool.noConfusion, fun hlt => absurd hlt (Nat.lt_irrefl _)⟩
  · rw [hslot i hne]
    exact hqueue.queued i
  · rw [hhead, hl]
  · rw [hslot i hne] at hi ⊢
    exact hqueue.unlinked i hi
  · rw [hhead, hq] at hi
    exact Bool.noConfusion hi
  · rw [hslot i hne] at hi ⊢
    exact hqueue.mapped i hi
  · rw [hhead, hq] at hi
    exact Bool.noConfusion hi
  · rw [hslot i hne] at hi ⊢
    exact hqueue.pending i hi hle

/-- **A buffer is queued** at the head, if a slot is left. -/
lemma StreamInv.push (h : StreamInv s) {t : Ntv2Stream} {b : Ntv2StreamBuffer}
    (hfull : s.headIndex + 1 ≠ s.tailIndex) (hq : b.queued = true) (hl : b.linked = false)
    (hc : b.completed = false) (hr : b.released = false) (hd : b.dmaBuffer.isSome = true)
    (ht : t = { s.setBuffer s.headIndex b with
      headIndex := s.headIndex + 1
      userChannel := { s.userChannel with mQueueCount := s.userChannel.mQueueCount + 1 } }) :
    StreamInv t := by
  have hmode : ModeInv t := by
    subst ht
    exact h.setHead rfl rfl rfl rfl rfl hl
  obtain ⟨hqueue, -⟩ := h
  have hslot : ∀ i, i ≠ s.headIndex → t.streamBuffers i = s.streamBuffers i := by
    intro i hi
    rw [ht]
    exact Function.update_of_ne hi _ _
  have hhead : t.streamBuffers s.headIndex = b := by
    rw [ht]
    exact Function.update_self _ _ _
  have hgap : gap s.tailIndex (s.headIndex + 1) = gap s.tailIndex s.headIndex + 1 := gap_succ hfull
  have htail : t.tailIndex = s.tailIndex := by rw [ht]; rfl
  have hactive : t.activeIndex = s.activeIndex := by rw [ht]; rfl
  have hnext : t.nextIndex = s.nextIndex := by rw [ht]; rfl
  have hindex : t.headIndex = s.headIndex + 1 := by rw [ht]
  refine ⟨⟨?_, ?_, fun i => ?_, ?_, fun i hi => ?_, fun i hi => ?_, fun i hi hle => ?_⟩, hmode⟩
  · rw [htail, hactive, hnext]
    exact hqueue.active_le
  · rw [htail, hnext, hindex, hgap]
    exact Nat.le_succ_of_le hqueue.next_le
  · rw [htail, hindex, hgap]
    rcases eq_or_ne i s.headIndex with rfl | hne
    · rw [hhead, hq]
      exact ⟨fun _ => Nat.lt_succ_self _, fun _ => rfl⟩
    · have hne' : gap s.tailIndex i ≠ gap s.tailIndex s.headIndex := fun he => hne (gap_inj he)
      rw [hslot i hne, hqueue.queued i]
      omega
  · rw [htail, hindex, hgap]
    rw [ht]
    exact count_succ hqueue.count
  · rcases eq_or_ne i s.headIndex with rfl | hne
    · rw [hhead, hl]
    · rw [hslot i hne] at hi ⊢
      exact hqueue.unlinked i hi
  · rcases eq_or_ne i s.headIndex with rfl | hne
    · rw [hhead]
      exact ⟨hr, hd⟩
    · rw [hslot i hne] at hi ⊢
      exact hqueue.mapped i hi
  · rcases eq_or_ne i s.headIndex with rfl | hne
    · rw [hhead, hc]
    · rw [htail, hactive] at hle
      rw [hslot i hne] at hi ⊢
      exact hqueue.pending i hi hle

/-- **Queueing** a buffer keeps the invariant. -/
lemma bufferQueue_inv (h : StreamInv s) (hw : StreamHardware) (pOwner : Option ℕ)
    (pBuffer : NTV2StreamBuffer) : StreamInv (streamBufferQueue hw pOwner pBuffer s).1 := by
  rw [streamBufferQueue]
  split_ifs with hnone hlock hclosed howner hfull hqueued
  · exact h
  · exact h
  · exact h
  · exact h
  · exact h
  · exact h
  simp only
  rcases hqueue : dmaOpsBufferQueue hw (s.setUserBuffer s.headIndex fun _ => pBuffer) s.headIndex
    with ⟨t, ok⟩
  have hfree : ((s.setUserBuffer s.headIndex fun _ => pBuffer).streamBuffers
      s.headIndex).queued = false := by
    simpa [Ntv2Stream.setUserBuffer] using hqueued
  obtain ⟨b, ht, hl, hc, hr, hfail, hok⟩ := bufferQueue_spec hfree hqueue
  rw [Ntv2Stream.setUserBuffer, setBuffer_setBuffer] at ht
  subst ht
  cases ok with
  | false => exact h.rejected (hfail rfl) hl
  | true =>
      obtain ⟨hq, hd⟩ := hok rfl
      have hfull' : s.headIndex + 1 ≠ s.tailIndex := fun he => hfull (decide_eq_true he)
      obtain ⟨b', hb'⟩ : ∃ b' : Ntv2StreamBuffer, b' = { b with
        userBuffer := { b.userBuffer with mQueueTime := hw.ntv2Time100ns } } := ⟨_, rfl⟩
      refine h.push (b := b') hfull' ?_ ?_ ?_ ?_ ?_ ?_
      · rw [hb', hq]
      · rw [hb', hl]
      · rw [hb', hc]
      · rw [hb', hr]
      · rw [hb', hd]
      · simp only [Ntv2Stream.setUserBuffer, setBuffer_streamBuffers, Function.update_self, setBuffer_setBuffer,
          ← hb']
        rfl

/-- **The buffer at the tail is taken out**, if the active index is not there. -/
lemma StreamInv.pop (h : StreamInv s) {t : Ntv2Stream} {b : Ntv2StreamBuffer}
    (hqueued : (s.streamBuffers s.tailIndex).queued = true) (hne : s.activeIndex ≠ s.tailIndex)
    (hq : b.queued = false) (hl : b.linked = false)
    (ht : t = { s.setBuffer s.tailIndex b with
      tailIndex := s.tailIndex + 1
      userChannel := { s.userChannel with mReleaseCount := s.userChannel.mReleaseCount + 1 } }) :
    StreamInv t := by
  have hactive : t.activeIndex = s.activeIndex := by rw [ht]; rfl
  have hnext : t.nextIndex = s.nextIndex := by rw [ht]; rfl
  have hhead : t.headIndex = s.headIndex := by rw [ht]; rfl
  have htail : t.tailIndex = s.tailIndex + 1 := by rw [ht]
  have hbuffers : t.streamBuffers = Function.update s.streamBuffers s.tailIndex b := by
    rw [ht]
    rfl
  obtain ⟨hqueue, hmode⟩ := h
  have hnonempty : 0 < gap s.tailIndex s.headIndex := by
    rw [hqueue.queued, gap_self] at hqueued
    exact hqueued
  have hpos : ∀ i, i ≠ s.tailIndex → 0 < gap s.tailIndex i := fun i hi =>
    Nat.pos_of_ne_zero fun hz => hi (gap_eq_zero.mp hz)
  have hgap : ∀ i, i ≠ s.tailIndex → gap t.tailIndex i = gap s.tailIndex i - 1 := by
    intro i hi
    rw [htail]
    exact gap_succ_base hi
  have hpositive : ∀ i, 0 < gap s.tailIndex i → i ≠ s.tailIndex := by
    rintro i hi rfl
    rw [gap_self] at hi
    exact Nat.lt_irrefl _ hi
  have hheadNe := hpositive _ hnonempty
  have hnextNe : s.nextIndex ≠ s.tailIndex :=
    hpositive _ ((hpos _ hne).trans_le hqueue.active_le)
  have hslot : ∀ i, i ≠ s.tailIndex → t.streamBuffers i = s.streamBuffers i := by
    intro i hi
    rw [hbuffers, Function.update_of_ne hi]
  have hself : t.streamBuffers s.tailIndex = b := by
    rw [hbuffers, Function.update_self]
  refine ⟨⟨?_, ?_, fun i => ?_, ?_, fun i hi => ?_, fun i hi => ?_, fun i hi hle => ?_⟩,
    hmode.setSlot hbuffers hactive hnext ?_ ?_ hl (fun _ => hne) fun _ => hnextNe⟩
  · rw [hactive, hnext, hgap _ hne, hgap _ hnextNe]
    exact Nat.sub_le_sub_right hqueue.active_le 1
  · rw [hnext, hhead, hgap _ hnextNe, hgap _ hheadNe]
    exact Nat.sub_le_sub_right hqueue.next_le 1
  · rw [hhead, hgap _ hheadNe]
    rcases eq_or_ne i s.tailIndex with rfl | hi
    · have hlt := gap_lt s.tailIndex s.headIndex
      rw [hself, hq, htail, gap_succ_base_self]
      exact ⟨Bool.noConfusion, fun hlast => absurd hlast (by omega)⟩
    · have hi' := hpos i hi
      rw [hslot i hi, hqueue.queued i, hgap i hi]
      omega
  · have hcount := hqueue.count
    rw [show gap s.tailIndex s.headIndex = gap s.tailIndex s.headIndex - 1 + 1 by omega] at hcount
    rw [hhead, hgap _ hheadNe, ht]
    exact count_pred hcount
  · rcases eq_or_ne i s.tailIndex with rfl | hi'
    · rw [hself, hl]
    · rw [hslot i hi'] at hi ⊢
      exact hqueue.unlinked i hi
  · rcases eq_or_ne i s.tailIndex with rfl | hi'
    · rw [hself, hq] at hi
      exact Bool.noConfusion hi
    · rw [hslot i hi'] at hi ⊢
      exact hqueue.mapped i hi
  · rcases eq_or_ne i s.tailIndex with rfl | hi'
    · rw [hself, hq] at hi
      exact Bool.noConfusion hi
    · rw [hactive, hgap _ hne, hgap i hi'] at hle
      rw [hslot i hi'] at hi ⊢
      have ha := hpos _ hne
      have hb := hpos i hi'
      exact hqueue.pending i hi (by omega)
  · rw [ht]
    rfl
  · rw [ht]
    rfl

/-- **Releasing** a buffer keeps the invariant unless it is the active one, flushed before the
start. -/
lemma bufferRelease_inv (h : StreamInv s) {pOwner : Option ℕ}
    (hok : hw.lockTimeout = false → pOwner = s.owner → s.streamState = .initialized →
      s.activeIndex = s.tailIndex → s.activeBuffer.flushed = false) :
    StreamInv (streamBufferRelease hw pOwner s).1 := by
  simp only [streamBufferRelease]
  split_ifs with hnone hlock hclosed howner hbuffer
  · exact h
  · exact h
  · exact h
  · exact h
  · exact h
  simp only [Bool.or_eq_true, Bool.not_eq_true', not_or, Bool.not_eq_false,
    Bool.or_eq_false_iff, not_and] at hbuffer
  obtain ⟨hqueued, hdone⟩ := hbuffer
  have hne : s.activeIndex ≠ s.tailIndex := by
    intro he
    have hpending := h.queue.pending s.tailIndex hqueued (by rw [he])
    have hflushed : s.activeBuffer.flushed = true := by
      rw [Ntv2Stream.activeBuffer, he]
      exact hdone hpending
    have hunflushed : s.activeBuffer.flushed = false := by
      by_cases hinit : s.streamState = .initialized
      · exact hok (Bool.eq_false_of_not_eq_true hlock) (not_not.mp howner) hinit he
      · exact (h.mode.running (h.mode.running_of hclosed hinit)).2.2
    rw [hflushed] at hunflushed
    exact Bool.noConfusion hunflushed
  have hreleased := (h.queue.mapped s.tailIndex hqueued).1
  simp only [dmaOpsBufferRelease, hreleased, if_neg Bool.false_ne_true]
  by_cases hlinked : s.EngineRunning ∧ (s.streamBuffers s.tailIndex).linked = true ∧
      (s.streamBuffers s.tailIndex).completed = false
  · rw [if_pos hlinked]
    exact h
  · rw [if_neg hlinked]
    exact h.pop hqueued hne rfl rfl rfl

end LibAjaNtv2
