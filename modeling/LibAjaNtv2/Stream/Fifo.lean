import Mathlib.Tactic
import LibAjaNtv2.Stream.Order

/-!
The streaming queue is first-in first-out.

* `Ntv2Stream.entries`: the slots of the queue as a list, from the tail;
* `Still`: a step that leaves the list of the queued buffers as it is;
* `StreamHistory`, `historyStep`: a stream, and what was queued, returned and completed;
* `StreamReturns`, `StreamFifo`: buffers are returned and completed in the order in which they were
  queued;
* `stream_fifo`: **the first holds in every run, the second if no step breaks the order**.
-/

namespace LibAjaNtv2

open Cyclic

variable {hw : StreamHardware} {s t u : Ntv2Stream}

/-! ### The queue as a list -/

/-- The slot at a place behind the tail. -/
def Ntv2Stream.slotAt (s : Ntv2Stream) (k : ℕ) : StreamIndex :=
  s.tailIndex + Fin.ofNat NTV2_STREAM_NUM_BUFFERS k

/-- The slots of the queue, from the tail to the head. -/
def Ntv2Stream.entries (s : Ntv2Stream) : List Ntv2StreamBuffer :=
  (List.range (gap s.tailIndex s.headIndex)).map fun k => s.streamBuffers (s.slotAt k)

lemma gap_slotAt {k : ℕ} (hk : k < NTV2_STREAM_NUM_BUFFERS) : gap s.tailIndex (s.slotAt k) = k := by
  rw [gap, Ntv2Stream.slotAt, add_sub_cancel_left, Fin.val_ofNat, Nat.mod_eq_of_lt hk]

lemma slotAt_gap (s : Ntv2Stream) (i : StreamIndex) : s.slotAt (gap s.tailIndex i) = i :=
  gap_inj (gap_slotAt (gap_lt s.tailIndex i))

@[simp] lemma entries_length (s : Ntv2Stream) :
    s.entries.length = gap s.tailIndex s.headIndex := by
  rw [Ntv2Stream.entries, List.length_map, List.length_range]

lemma entries_getElem? {i : StreamIndex} (hi : gap s.tailIndex i < gap s.tailIndex s.headIndex) :
    s.entries[gap s.tailIndex i]? = some (s.streamBuffers i) := by
  rw [Ntv2Stream.entries, List.getElem?_map, List.getElem?_range hi, Option.map_some, slotAt_gap]

/-- What depends on the slots of the queue only. -/
lemma entries_map_congr {β : Type*} {f : Ntv2StreamBuffer → β} (hhead : t.headIndex = s.headIndex)
    (htail : t.tailIndex = s.tailIndex)
    (hslots : ∀ i, gap s.tailIndex i < gap s.tailIndex s.headIndex →
      f (t.streamBuffers i) = f (s.streamBuffers i)) : t.entries.map f = s.entries.map f := by
  rw [Ntv2Stream.entries, Ntv2Stream.entries, hhead, htail, List.map_map, List.map_map]
  refine List.map_congr_left fun k hk => ?_
  have hlt := List.mem_range.mp hk
  have hslot : t.slotAt k = s.slotAt k := by
    rw [Ntv2Stream.slotAt, Ntv2Stream.slotAt, htail]
  have hgap := gap_slotAt (s := s) (hlt.trans (gap_lt s.tailIndex s.headIndex))
  rw [Function.comp_apply, Function.comp_apply, hslot]
  refine hslots _ ?_
  rw [hgap]
  exact hlt

/-- **A push** appends an entry. -/
lemma entries_push {b : Ntv2StreamBuffer} (hfull : s.headIndex + 1 ≠ s.tailIndex)
    (hbuffers : t.streamBuffers = Function.update s.streamBuffers s.headIndex b)
    (hhead : t.headIndex = s.headIndex + 1) (htail : t.tailIndex = s.tailIndex) :
    t.entries = s.entries ++ [b] := by
  have hlast : t.slotAt (gap s.tailIndex s.headIndex) = s.headIndex := by
    rw [← htail, slotAt_gap]
  rw [Ntv2Stream.entries, Ntv2Stream.entries, hhead, htail, gap_succ hfull, List.range_succ,
    List.map_append, List.map_singleton, hlast, hbuffers, Function.update_self]
  congr 1
  refine List.map_congr_left fun k hk => ?_
  have hlt := List.mem_range.mp hk
  have hslot : t.slotAt k = s.slotAt k := by
    rw [Ntv2Stream.slotAt, Ntv2Stream.slotAt, htail]
  rw [hslot, Function.update_of_ne fun he => ?_]
  have hgap := gap_slotAt (s := s) (hlt.trans (gap_lt s.tailIndex s.headIndex))
  rw [he] at hgap
  omega

/-- **A pop** takes the first entry. -/
lemma entries_pop {b : Ntv2StreamBuffer} (hne : s.headIndex ≠ s.tailIndex)
    (hbuffers : t.streamBuffers = Function.update s.streamBuffers s.tailIndex b)
    (hhead : t.headIndex = s.headIndex) (htail : t.tailIndex = s.tailIndex + 1) :
    s.entries = s.streamBuffers s.tailIndex :: t.entries := by
  have hlt := gap_lt s.tailIndex s.headIndex
  have hpos : gap s.tailIndex s.headIndex ≠ 0 := fun hz => hne (gap_eq_zero.mp hz)
  have hlen : gap t.tailIndex t.headIndex = gap s.tailIndex s.headIndex - 1 := by
    rw [hhead, htail, gap_succ_base hne]
  obtain ⟨n, hn⟩ := Nat.exists_eq_succ_of_ne_zero hpos
  have hfirst : s.slotAt 0 = s.tailIndex := by
    have hself := slotAt_gap s s.tailIndex
    rwa [gap_self] at hself
  rw [Ntv2Stream.entries, Ntv2Stream.entries, hlen, hn, Nat.succ_sub_one, List.range_succ_eq_map,
    List.map_cons, List.map_map, hfirst]
  congr 1
  refine List.map_congr_left fun k hk => ?_
  have hk := List.mem_range.mp hk
  have hslot : t.slotAt k = s.slotAt (k + 1) := by
    refine gap_inj (a := s.tailIndex) ?_
    rw [gap_slotAt (by omega), Ntv2Stream.slotAt, htail, gap]
    have hval : s.tailIndex + 1 + Fin.ofNat NTV2_STREAM_NUM_BUFFERS k - s.tailIndex =
        1 + Fin.ofNat NTV2_STREAM_NUM_BUFFERS k := by abel
    rw [hval, Fin.val_add, Fin.val_ofNat, Nat.mod_eq_of_lt (show k < _ by omega)]
    have hone : (1 : StreamIndex).val = 1 := rfl
    rw [hone, Nat.mod_eq_of_lt (by omega), Nat.add_comm]
  rw [Function.comp_apply, hslot, hbuffers, Function.update_of_ne fun he => ?_]
  have hgap := gap_slotAt (s := s) (show k + 1 < NTV2_STREAM_NUM_BUFFERS by omega)
  rw [he, gap_self] at hgap
  omega

/-! ### Steps that leave the queued buffers as they are -/

/-- A step that moves neither head nor tail, and neither completes nor replaces a queued buffer. -/
structure Still (s t : Ntv2Stream) : Prop where
  headIndex : t.headIndex = s.headIndex
  tailIndex : t.tailIndex = s.tailIndex
  slot : ∀ i, (s.streamBuffers i).queued = true →
    (t.streamBuffers i).queued = true ∧
      (t.streamBuffers i).completed = (s.streamBuffers i).completed ∧
      (t.streamBuffers i).memory = (s.streamBuffers i).memory

lemma Still.refl (s : Ntv2Stream) : Still s s := ⟨rfl, rfl, fun _ hi => ⟨hi, rfl, rfl⟩⟩

lemma Still.trans (h : Still s t) (h' : Still t u) : Still s u := by
  refine ⟨h'.headIndex.trans h.headIndex, h'.tailIndex.trans h.tailIndex, fun i hi => ?_⟩
  obtain ⟨hq, hc, hm⟩ := h.slot i hi
  obtain ⟨hq', hc', hm'⟩ := h'.slot i hq
  exact ⟨hq', hc'.trans hc, hm'.trans hm⟩

/-- The states, the counts and the indices of active and next slot may change. -/
lemma Still.of_buffers (hbuffers : t.streamBuffers = s.streamBuffers)
    (hhead : t.headIndex = s.headIndex) (htail : t.tailIndex = s.tailIndex) : Still s t := by
  refine ⟨hhead, htail, fun i hi => ?_⟩
  rw [hbuffers]
  exact ⟨hi, rfl, rfl⟩

/-- Writing a slot, but for its place in the queue and its memory. -/
lemma Still.setBuffer {i : StreamIndex} {b : Ntv2StreamBuffer}
    (hq : b.queued = (s.streamBuffers i).queued) (hc : b.completed = (s.streamBuffers i).completed)
    (hm : b.memory = (s.streamBuffers i).memory) : Still s (s.setBuffer i b) := by
  refine ⟨rfl, rfl, fun j hj => ?_⟩
  rw [setBuffer_streamBuffers]
  rcases eq_or_ne j i with rfl | hji
  · rw [Function.update_self]
    exact ⟨hq.trans hj, hc, hm⟩
  · rw [Function.update_of_ne hji]
    exact ⟨hj, rfl, rfl⟩

/-- Building a slot. -/
lemma build_still {i : StreamIndex} {ok : Bool} (h : dmaOpsBufferBuild hw s i = (t, ok)) :
    Still s t := by
  simp only [dmaOpsBufferBuild] at h
  split_ifs at h <;> obtain ⟨rfl, rfl⟩ := Prod.mk.inj h
  · exact .refl _
  all_goals
    refine ⟨rfl, rfl, fun j hj => ?_⟩
    rcases eq_or_ne j i with rfl | hji
    · simp [Ntv2StreamBuffer.memory, hj]
    · simp [hji, hj]

/-- Linking two slots. -/
lemma link_still {i j : StreamIndex} {ok : Bool} (h : dmaOpsBufferLink hw s i j = (t, ok)) :
    Still s t := by
  rw [dmaOpsBufferLink] at h
  by_cases he : s.engineState = .error
  · rw [if_pos he] at h
    obtain ⟨rfl, rfl⟩ := Prod.mk.inj h
    exact .refl _
  rw [if_neg he] at h
  by_cases hi : (s.streamBuffers i).Linkable
  · rw [if_neg (not_not.mpr hi)] at h
    rcases hbi : dmaOpsBufferBuild hw s i with ⟨s₁, ok₁⟩
    have hs₁ := build_still hbi
    rw [hbi] at h
    cases ok₁ with
    | false =>
        obtain ⟨rfl, rfl⟩ := Prod.mk.inj h
        exact hs₁
    | true =>
        simp only at h
        by_cases hj : (s₁.streamBuffers j).Linkable
        · rw [if_neg (not_not.mpr hj)] at h
          rcases hbj : dmaOpsBufferBuild hw s₁ j with ⟨s₂, ok₂⟩
          have hs₂ := hs₁.trans (build_still hbj)
          rw [hbj] at h
          cases ok₂ with
          | false =>
              obtain ⟨rfl, rfl⟩ := Prod.mk.inj h
              exact hs₂
          | true =>
              simp only at h
              split_ifs at h <;> obtain ⟨rfl, rfl⟩ := Prod.mk.inj h
              · exact hs₂.trans (.of_buffers rfl rfl rfl)
              · exact hs₂
        · rw [if_pos hj] at h
          obtain ⟨rfl, rfl⟩ := Prod.mk.inj h
          exact hs₁
  · rw [if_pos hi] at h
    obtain ⟨rfl, rfl⟩ := Prod.mk.inj h
    exact .refl _

lemma setUserBuffer_still (s : Ntv2Stream) (i : StreamIndex)
    {f : NTV2StreamBuffer → NTV2StreamBuffer} (hf : ∀ b, (f b).memory = b.memory) :
    Still s (s.setUserBuffer i f) :=
  .setBuffer rfl rfl (hf _)

/-- Flushing a slot. -/
lemma flush_still (s : Ntv2Stream) (i : StreamIndex) : Still s (dmaOpsBufferFlush s i).1 := by
  simp only [dmaOpsBufferFlush]
  split_ifs
  · exact .refl s
  · exact .refl s
  · exact .refl s
  · exact .setBuffer rfl rfl rfl

/-- The flush of the queue. -/
lemma flushLoop_still (now : Int) (fuel : ℕ) (i : StreamIndex) (s : Ntv2Stream) :
    Still s (flushLoop now fuel i s) :=
  flushLoop_induct (P := Still s) (fun t i h => h.trans (flush_still t i)) (fun t i _ h => h.trans
    (setUserBuffer_still t i fun _ => rfl)) now fuel i (.refl s)

/-- The flush of all slots. -/
lemma flushAll_still (s : Ntv2Stream) : Still s (flushAll s) :=
  flushAll_induct (P := Still s) (fun t i h => h.trans (flush_still t i)) (.refl s)

/-- Initialize. -/
lemma initialize_still (pOwner : Option ℕ) :
    Still s (streamChannelInitialize hw pOwner s).1 := by
  rcases initialize_cases hw pOwner s with hsame | herror | hsuccess
  · rw [hsame]
    exact .refl s
  · rw [herror]
    exact .of_buffers rfl rfl rfl
  · obtain ⟨owner, rfl, haccepted⟩ := initialize_accepted hsuccess
    have hflush := flushAll_still { s with
        strDescriptorIndex := 0
        streamState := .initialized
        engineState := .initialized
        owner := some owner }
    rw [initialize_eq haccepted, Ntv2Stream.success]
    generalize flushAll _ = t at hflush ⊢
    have hs : Still s { s with
        strDescriptorIndex := 0
        streamState := .initialized
        engineState := .initialized
        owner := some owner } := .of_buffers rfl rfl rfl
    exact (hs.trans hflush).trans (.of_buffers rfl rfl rfl)

/-- Linking the active slot. -/
lemma linkActive_still {ok : Bool} (hlink : linkActive hw s = (t, ok)) : Still s t := by
  rw [linkActive] at hlink
  split_ifs at hlink
  · have hs : Still s { s with
        userChannel := { s.userChannel with mActiveCount := 0, mRepeatCount := 0, mIdleCount := 0 }
        initCount := 0
        nextIndex := s.activeIndex } := .of_buffers rfl rfl rfl
    exact hs.trans (link_still hlink)
  · obtain ⟨rfl, rfl⟩ := Prod.mk.inj hlink
    exact .refl _

lemma run_still {target : Ntv2StreamState} {ok : Bool}
    (hrun : dmaOpsStreamRun target hw s = (t, ok)) : Still s t := by
  rw [dmaOpsStreamRun] at hrun
  split_ifs at hrun <;> obtain ⟨rfl, rfl⟩ := Prod.mk.inj hrun <;> exact .of_buffers rfl rfl rfl

/-- Start. -/
lemma start_still : Still s (streamChannelStart hw s).1 :=
  start_induct (P := Still s) linkActive_still (fun ht hrun => ht.trans (run_still hrun)) (.refl s)

/-- Stop. -/
lemma stop_still : Still s (streamChannelStop hw s).1 :=
  stop_induct (P := Still s) linkActive_still (fun ht hrun => ht.trans (run_still hrun))
    (fun ht => ht.trans (.of_buffers rfl rfl rfl)) (.refl s)

/-- Flush. -/
lemma flush_call_still : Still s (streamChannelFlush hw s).1 := by
  rw [streamChannelFlush]
  split_ifs
  · exact .refl s
  · exact .refl s
  · exact .refl s
  · exact flushLoop_still _ _ _ s

/-- What an advance does to the queued buffers: at most the active one is completed. -/
lemma advance_queued (hw : StreamHardware) (s : Ntv2Stream) :
    (streamChannelAdvance hw s).1.headIndex = s.headIndex ∧
      (streamChannelAdvance hw s).1.tailIndex = s.tailIndex ∧
      ∀ i, (s.streamBuffers i).queued = true →
        ((streamChannelAdvance hw s).1.streamBuffers i).memory = (s.streamBuffers i).memory ∧
        ((s.streamBuffers i).completed = true →
          ((streamChannelAdvance hw s).1.streamBuffers i).completed = true) ∧
        (i ≠ s.activeIndex → ((streamChannelAdvance hw s).1.streamBuffers i).completed =
          (s.streamBuffers i).completed) := by
  rcases advance_cases hw s with ⟨-, hsame⟩ | ⟨-, -, hcount⟩ | ⟨-, -, t, e, hm, hlinked⟩
  · rw [hsame]
    exact ⟨rfl, rfl, fun _ _ => ⟨rfl, id, fun _ => rfl⟩⟩
  · rw [hcount]
    exact ⟨rfl, rfl, fun _ _ => ⟨rfl, id, fun _ => rfl⟩⟩
  · have hstill : Still t (linkNext hw { t with engineState := e } 1).1 := by
      have ht : Still t { t with engineState := e } := .of_buffers rfl rfl rfl
      rw [linkNext]
      split_ifs
      · split
        · exact ht
        · rename_i j _
          rcases hlink : dmaOpsBufferLink hw { t with engineState := e }
            ({ t with engineState := e } : Ntv2Stream).activeIndex j with ⟨u, ok⟩
          have hu := ht.trans (link_still hlink)
          cases ok with
          | false => exact hu.trans (.of_buffers rfl rfl rfl)
          | true => exact hu.trans (.of_buffers rfl rfl rfl)
      · exact ht
    rw [hlinked]
    refine ⟨hstill.headIndex.trans hm.headIndex, hstill.tailIndex.trans hm.tailIndex,
      fun i hi => ?_⟩
    obtain ⟨-, hc, hmem⟩ := hstill.slot i (((hm.alike i).queued).trans hi)
    rw [hmem, hc]
    refine ⟨hm.memory i, fun hci => (hm.completed i).mpr (.inl hci), fun hne => ?_⟩
    have hiff := hm.completed i
    rw [Bool.eq_iff_iff, hiff]
    exact ⟨fun h => h.resolve_right fun hr => hne hr.1, .inl⟩

/-! ### Histories -/

/-- A stream since it was last released: the memory of the buffers that were queued, the buffers
that were returned, as they were then, and the places in the queue of those that were completed. -/
structure StreamHistory where
  stream : Ntv2Stream
  queued : List (ℕ × ℕ) := []
  returned : List Ntv2StreamBuffer := []
  completed : List ℕ := []

/-- All buffers in the order in which they were queued, those that were returned first. -/
def StreamHistory.trace (h : StreamHistory) : List Ntv2StreamBuffer :=
  h.returned ++ h.stream.entries

/-- A step of a stream with its history. -/
def historyStep (h : StreamHistory) (call : StreamHardware × StreamOp) : StreamHistory :=
  let s := h.stream
  let t := streamStep s call
  match call.2 with
  | .channelRelease pOwner =>
      if (streamChannelRelease call.1 pOwner s).2.mStatus = NTV2_STREAM_STATUS_SUCCESS then
        { stream := t }
      else { h with stream := t }
  | .channelAdvance =>
      if (t.streamBuffers s.activeIndex).completed && !s.activeBuffer.completed then
        { h with
          stream := t
          completed := h.completed ++ [h.returned.length + gap s.tailIndex s.activeIndex] }
      else { h with stream := t }
  | .bufferQueue pOwner pBuffer =>
      if (streamBufferQueue call.1 pOwner pBuffer s).2.mStatus = NTV2_STREAM_STATUS_SUCCESS then
        { h with stream := t, queued := h.queued ++ [pBuffer.memory] }
      else { h with stream := t }
  | .bufferRelease pOwner =>
      if (streamBufferRelease call.1 pOwner s).2.mStatus = NTV2_STREAM_STATUS_SUCCESS then
        { h with stream := t, returned := h.returned ++ [s.streamBuffers s.tailIndex] }
      else { h with stream := t }
  | _ => { h with stream := t }

/-- The returned buffers and those in the queue are the queued ones, in order; a buffer is returned
only if it was completed or flushed; buffers are completed in order, each at most once. -/
structure StreamReturns (h : StreamHistory) : Prop where
  order : h.trace.map Ntv2StreamBuffer.memory = h.queued
  returned : ∀ b ∈ h.returned, b.completed = true ∨ b.flushed = true
  increasing : h.completed.Pairwise (· < ·)
  completed : ∀ k, k ∈ h.completed ↔
    h.trace[k]?.map Ntv2StreamBuffer.completed = some true

/-- The queue is first-in first-out: buffers are returned and completed in the order in which they
were queued, and those that are skipped are flushed. -/
structure StreamFifo (h : StreamHistory) : Prop extends StreamReturns h where
  skipped : ∀ k j, j ∈ h.completed → k < j →
    ∃ b, h.trace[k]? = some b ∧ (b.completed = true ∨ b.flushed = true)

/-- What every step of a history keeps. -/
structure HistoryInv (h : StreamHistory) : Prop where
  slots : SlotInv h.stream
  memory : h.trace.map Ntv2StreamBuffer.memory = h.queued
  returned : ∀ b ∈ h.returned, b.Done
  increasing : h.completed.Pairwise (· < ·)
  completed : ∀ k, k ∈ h.completed ↔
    h.trace[k]?.map Ntv2StreamBuffer.completed = some true

/-- The completed buffers of a history: the returned ones and those in the queue. -/
lemma trace_completed (h : StreamHistory) (k : ℕ) :
    h.trace[k]?.map Ntv2StreamBuffer.completed = some true ↔
      h.returned[k]?.map Ntv2StreamBuffer.completed = some true ∨
        ∃ i, gap h.stream.tailIndex i < gap h.stream.tailIndex h.stream.headIndex ∧
          k = h.returned.length + gap h.stream.tailIndex i ∧
          (h.stream.streamBuffers i).completed = true := by
  rw [StreamHistory.trace]
  rcases Nat.lt_or_ge k h.returned.length with hk | hk
  · rw [List.getElem?_append_left hk]
    refine ⟨.inl, fun hor => hor.resolve_right ?_⟩
    rintro ⟨i, -, rfl, -⟩
    omega
  · rw [List.getElem?_append_right hk, List.getElem?_eq_none hk]
    constructor
    · intro hc
      have hlt : k - h.returned.length < gap h.stream.tailIndex h.stream.headIndex := by
        by_contra hge
        rw [not_lt, ← entries_length] at hge
        rw [List.getElem?_eq_none hge] at hc
        cases hc
      have hgap := gap_slotAt (s := h.stream) (hlt.trans (gap_lt _ _))
      refine .inr ⟨h.stream.slotAt (k - h.returned.length), ?_, ?_, ?_⟩
      · rwa [hgap]
      · rw [hgap]
        omega
      · rw [← hgap, entries_getElem? (by rwa [hgap])] at hc
        exact Option.some.inj hc
    · rintro (hnone | ⟨i, hi, rfl, hc⟩)
      · cases hnone
      · rw [Nat.add_sub_cancel_left, entries_getElem? hi, Option.map_some, hc]

/-- A place of a history that has been completed is before the active one. -/
lemma HistoryInv.lt_active {h : StreamHistory} (hinv : HistoryInv h) {k : ℕ}
    (hk : k ∈ h.completed) :
    k < h.returned.length + gap h.stream.tailIndex h.stream.activeIndex := by
  rcases (trace_completed h k).mp ((hinv.completed k).mp hk) with hc | ⟨i, -, rfl, hc⟩
  · have hlt : k < h.returned.length := by
      by_contra hge
      rw [List.getElem?_eq_none (not_lt.mp hge)] at hc
      cases hc
    omega
  · have hbehind := (hinv.slots.behind i hc).2.2.1
    omega

lemma HistoryInv.returns {h : StreamHistory} (hinv : HistoryInv h) : StreamReturns h :=
  ⟨hinv.memory, hinv.returned, hinv.increasing, hinv.completed⟩

/-- **The queue is first-in first-out** if the slots keep their order, too. -/
lemma HistoryInv.fifo {h : StreamHistory} (hinv : HistoryInv h) (horder : OrderInv h.stream) :
    StreamFifo h := by
  refine ⟨hinv.returns, fun k j hj hkj => ?_⟩
  rw [StreamHistory.trace]
  rcases Nat.lt_or_ge k h.returned.length with hk | hk
  · rw [List.getElem?_append_left hk, List.getElem?_eq_getElem hk]
    exact ⟨_, rfl, hinv.returned _ (List.getElem_mem hk)⟩
  · rw [List.getElem?_append_right hk]
    rcases (trace_completed h j).mp ((hinv.completed j).mp hj) with hc | ⟨i, hi, rfl, hc⟩
    · rw [List.getElem?_eq_none (by omega)] at hc
      cases hc
    · obtain ⟨hqa, -, hlt, -⟩ := hinv.slots.behind i hc
      have hpos : k - h.returned.length < gap h.stream.tailIndex h.stream.headIndex := by omega
      have hgap := gap_slotAt (s := h.stream) (hpos.trans (gap_lt _ _))
      have hentry := entries_getElem? (s := h.stream)
        (i := h.stream.slotAt (k - h.returned.length)) (by rwa [hgap])
      rw [hgap] at hentry
      refine ⟨_, hentry, horder.active hqa _ ?_ ?_⟩
      · rw [hinv.slots.queued, hgap]
        exact hpos
      · rw [hgap]
        omega

/-! ### Steps of a history -/

/-- A step that leaves the queued buffers as they are. -/
lemma HistoryInv.still {h : StreamHistory} (hinv : HistoryInv h) (hslots : SlotInv t)
    (hstill : Still h.stream t) : HistoryInv { h with stream := t } := by
  have hqueued : ∀ i, gap h.stream.tailIndex i < gap h.stream.tailIndex h.stream.headIndex →
      (h.stream.streamBuffers i).queued = true := fun i => (hinv.slots.queued i).mpr
  refine ⟨hslots, ?_, hinv.returned, hinv.increasing, fun k => ?_⟩
  · rw [← hinv.memory, StreamHistory.trace, StreamHistory.trace, List.map_append, List.map_append]
    congr 1
    exact entries_map_congr hstill.headIndex hstill.tailIndex fun i hi =>
      (hstill.slot i (hqueued i hi)).2.2
  · rw [hinv.completed, StreamHistory.trace, StreamHistory.trace, ← List.getElem?_map,
      ← List.getElem?_map, List.map_append, List.map_append]
    have hentries : t.entries.map Ntv2StreamBuffer.completed =
        h.stream.entries.map Ntv2StreamBuffer.completed :=
      entries_map_congr hstill.headIndex hstill.tailIndex fun i hi =>
        (hstill.slot i (hqueued i hi)).2.1
    rw [hentries]

/-- A history starts with nothing queued. -/
lemma HistoryInv.empty (hslots : SlotInv t)
    (hempty : t.headIndex = t.tailIndex) : HistoryInv { stream := t } := by
  have hentries : t.entries = [] := by
    rw [Ntv2Stream.entries, hempty, gap_self, List.range_zero, List.map_nil]
  refine ⟨hslots, ?_, fun b hb => absurd hb List.not_mem_nil, List.Pairwise.nil,
    fun k => ?_⟩
  · rw [StreamHistory.trace, hentries]
    rfl
  · rw [StreamHistory.trace, hentries]
    exact ⟨fun hk => absurd hk List.not_mem_nil, fun hk => by simp at hk⟩

/-- **A buffer is queued** behind all others. -/
lemma HistoryInv.push {h : StreamHistory} (hinv : HistoryInv h) (hslots : SlotInv t)
    {b : Ntv2StreamBuffer} {memory : ℕ × ℕ}
    (hentries : t.entries = h.stream.entries ++ [b]) (hmemory : b.memory = memory)
    (hcompleted : b.completed = false) :
    HistoryInv { h with stream := t, queued := h.queued ++ [memory] } := by
  have htrace : ({ h with stream := t, queued := h.queued ++ [memory] } : StreamHistory).trace =
      h.trace ++ [b] := by
    rw [StreamHistory.trace, StreamHistory.trace, hentries, List.append_assoc]
  refine ⟨hslots, ?_, hinv.returned, hinv.increasing, fun k => ?_⟩
  · rw [htrace, List.map_append, hinv.memory, List.map_singleton, hmemory]
  · rw [htrace, hinv.completed]
    rcases Nat.lt_trichotomy k h.trace.length with hk | rfl | hk
    · rw [List.getElem?_append_left hk]
    · rw [List.getElem?_eq_none le_rfl, List.getElem?_concat_length, Option.map_some, hcompleted]
      constructor <;> intro hc <;> cases hc
    · rw [List.getElem?_eq_none hk.le, List.getElem?_eq_none]
      rw [List.length_append, List.length_singleton]
      exact hk

/-- **The oldest buffer is returned**. -/
lemma HistoryInv.pop {h : StreamHistory} (hinv : HistoryInv h) (hslots : SlotInv t)
    {b : Ntv2StreamBuffer} (hentries : h.stream.entries = b :: t.entries)
    (hdone : b.Done) : HistoryInv { h with stream := t, returned := h.returned ++ [b] } := by
  have htrace : ({ h with stream := t, returned := h.returned ++ [b] } : StreamHistory).trace =
      h.trace := by
    rw [StreamHistory.trace, StreamHistory.trace, hentries, List.append_assoc, List.singleton_append]
  refine ⟨hslots, ?_, fun b' hb' => ?_, hinv.increasing, fun k => ?_⟩
  · rw [htrace]
    exact hinv.memory
  · rcases List.mem_append.mp hb' with hold | hnew
    · exact hinv.returned b' hold
    · rw [List.mem_singleton.mp hnew]
      exact hdone
  · rw [htrace]
    exact hinv.completed k

/-- **The active buffer is completed** behind all others that are. -/
lemma HistoryInv.complete {h : StreamHistory} (hinv : HistoryInv h) (hslots : SlotInv t)
    (hhead : t.headIndex = h.stream.headIndex)
    (htail : t.tailIndex = h.stream.tailIndex)
    (hslot : ∀ i, (h.stream.streamBuffers i).queued = true →
      (t.streamBuffers i).memory = (h.stream.streamBuffers i).memory ∧
      ((h.stream.streamBuffers i).completed = true → (t.streamBuffers i).completed = true) ∧
      (i ≠ h.stream.activeIndex →
        (t.streamBuffers i).completed = (h.stream.streamBuffers i).completed))
    (hqueued : h.stream.activeBuffer.queued = true)
    (hnow : (t.streamBuffers h.stream.activeIndex).completed = true) :
    HistoryInv { h with
      stream := t
      completed := h.completed ++
        [h.returned.length + gap h.stream.tailIndex h.stream.activeIndex] } := by
  refine ⟨hslots, ?_, hinv.returned, ?_, fun k => ?_⟩
  · rw [← hinv.memory, StreamHistory.trace, StreamHistory.trace, List.map_append, List.map_append]
    congr 1
    exact entries_map_congr hhead htail fun i hi => (hslot i ((hinv.slots.queued i).mpr hi)).1
  · refine List.pairwise_append.mpr ⟨hinv.increasing, List.pairwise_singleton _ _, fun k hk j hj => ?_⟩
    rw [List.mem_singleton.mp hj]
    exact hinv.lt_active hk
  · rw [trace_completed, List.mem_append, hinv.completed, trace_completed, List.mem_singleton]
    simp only [hhead, htail]
    constructor
    · rintro ((hc | ⟨i, hi, hk, hc⟩) | rfl)
      · exact .inl hc
      · exact .inr ⟨i, hi, hk, (hslot i ((hinv.slots.queued i).mpr hi)).2.1 hc⟩
      · exact .inr ⟨_, (hinv.slots.queued _).mp hqueued, rfl, hnow⟩
    · rintro (hc | ⟨i, hi, rfl, hc⟩)
      · exact .inl (.inl hc)
      · rcases eq_or_ne i h.stream.activeIndex with rfl | hne
        · exact .inr rfl
        · rw [(hslot i ((hinv.slots.queued i).mpr hi)).2.2 hne] at hc
          exact .inl (.inr ⟨i, hi, rfl, hc⟩)

/-- **The history over a step**. -/
lemma historyStep_inv {h : StreamHistory} (hinv : HistoryInv h)
    (call : StreamHardware × StreamOp) : HistoryInv (historyStep h call) := by
  have hslots := streamStep_slots hinv.slots call
  rcases call with ⟨hw, op⟩
  cases op with
  | channelInitialize pOwner => exact hinv.still hslots (initialize_still pOwner)
  | channelRelease pOwner =>
      simp only [historyStep]
      rcases @release_cases hw _ hinv.slots pOwner with ⟨hsame, hrefused⟩ | ⟨hreleased, hsuccess⟩
      · rw [if_neg hrefused]
        refine hinv.still hslots ?_
        rcases hsame with hsame | herror <;> simp only [streamStep]
        · rw [hsame]
          exact .refl _
        · rw [herror]
          exact .of_buffers rfl rfl rfl
      · rw [if_pos hsuccess]
        exact .empty hslots (hreleased.indices.1.trans hreleased.indices.2.1.symm)
  | channelStart => exact hinv.still hslots start_still
  | channelStop => exact hinv.still hslots stop_still
  | channelFlush => exact hinv.still hslots flush_call_still
  | channelAdvance =>
      obtain ⟨hhead, htail, hslot⟩ := advance_queued hw h.stream
      have hqueued : ∀ i, ((streamChannelAdvance hw h.stream).1.streamBuffers i).queued = true ↔
          (h.stream.streamBuffers i).queued = true := by
        intro i
        rw [hinv.slots.queued, ← hhead, ← htail]
        exact hslots.queued i
      simp only [historyStep]
      split_ifs with hnow <;> rw [Bool.and_eq_true, Bool.not_eq_true'] at hnow
      · refine hinv.complete hslots hhead htail hslot ?_ hnow.1
        exact (hqueued _).mp (hslots.queued_of (.inr (.inl hnow.1)))
      · refine hinv.still hslots ⟨hhead, htail, fun i hi => ?_⟩
        obtain ⟨hmemory, hkept, hother⟩ := hslot i hi
        refine ⟨(hqueued i).mpr hi, ?_, hmemory⟩
        rcases eq_or_ne i h.stream.activeIndex with rfl | hne
        · rw [Bool.eq_iff_iff]
          refine ⟨fun hc => ?_, hkept⟩
          by_contra hc'
          exact hnow ⟨hc, Bool.eq_false_of_not_eq_true hc'⟩
        · exact hother hne
  | bufferQueue pOwner pBuffer =>
      simp only [historyStep]
      rcases @bufferQueue_cases hw _ hinv.slots pOwner pBuffer with
        ⟨hrefused, hsame⟩ | ⟨hsuccess, hfull, page, htaken⟩
      · rw [if_neg hrefused]
        refine hinv.still hslots ?_
        simp only [streamStep]
        rcases hsame with hsame | hreset
        · rw [hsame]
          exact .refl _
        · rw [hreset]
          refine ⟨rfl, rfl, fun i hi => ?_⟩
          rw [setBuffer_streamBuffers, Function.update_of_ne fun he => ?_]
          · exact ⟨hi, rfl, rfl⟩
          · rw [he, hinv.slots.head_free] at hi
            exact Bool.noConfusion hi
      · rw [if_pos hsuccess]
        refine hinv.push hslots (b := {
          userBuffer := { pBuffer with mQueueTime := hw.ntv2Time100ns }
          queued := true
          dmaBuffer := some page }) ?_ rfl rfl
        simp only [streamStep]
        rw [htaken]
        exact entries_push hfull rfl rfl rfl
  | bufferRelease pOwner =>
      simp only [historyStep]
      rcases @bufferRelease_cases hw _ hinv.slots pOwner with
        ⟨hrefused, hsame⟩ | ⟨hsuccess, hqueued, hdone, b, hb, htaken⟩
      · rw [if_neg hrefused]
        refine hinv.still hslots ?_
        simp only [streamStep]
        rw [hsame]
        exact .refl _
      · rw [if_pos hsuccess]
        refine hinv.pop hslots ?_ hdone
        simp only [streamStep]
        rw [htaken]
        refine entries_pop (b := b) (fun he => ?_) rfl rfl rfl
        rw [hinv.slots.queued, he, gap_self] at hqueued
        exact Nat.not_lt_zero _ hqueued

/-! ### Runs -/

/-- An enabled stream has nothing queued. -/
lemma streamEnable_empty (hw : StreamHardware) (initAdvance maxDescriptors : ℕ) :
    (streamEnable hw (streamConfigure initAdvance maxDescriptors)).headIndex =
      (streamEnable hw (streamConfigure initAdvance maxDescriptors)).tailIndex := by
  have hconfigure : SlotInv (streamConfigure initAdvance maxDescriptors) :=
    .empty (fun _ => ⟨rfl, rfl, rfl, rfl⟩) rfl
  rw [streamEnable]
  simp only
  rcases @release_cases hw _ hconfigure none with ⟨hsame | herror, -⟩ | ⟨hreleased, -⟩
  · rw [hsame]
    rfl
  · rw [herror]
    rfl
  · exact hreleased.indices.1.trans hreleased.indices.2.1.symm

lemma historyStep_stream (h : StreamHistory) (call : StreamHardware × StreamOp) :
    (historyStep h call).stream = streamStep h.stream call := by
  rcases call with ⟨hw, op⟩
  cases op <;> simp only [historyStep] <;> split <;> rfl

/-- Where a history starts. -/
def enabledHistory (hw : StreamHardware) (initAdvance maxDescriptors : ℕ) : StreamHistory where
  stream := streamEnable hw (streamConfigure initAdvance maxDescriptors)

/-- **Streaming is first-in first-out** since the last release of the stream. In every state reached
from `ntv2_stream_enable` buffers are returned and completed in the order in which they were queued;
if the steps keep the order of the slots, the completed ones skip flushed ones only. -/
theorem stream_fifo (hw : StreamHardware) (initAdvance maxDescriptors : ℕ) {h : StreamHistory}
    (hrun : RunsTo historyStep (fun _ _ => True) (enabledHistory hw initAdvance maxDescriptors) h) :
    StreamReturns h ∧
      (RunsTo historyStep (fun h call => FifoStepOk h.stream call)
        (enabledHistory hw initAdvance maxDescriptors) h → StreamFifo h) := by
  have hslots := streamEnable_slots hw initAdvance maxDescriptors
  have hempty := streamEnable_empty hw initAdvance maxDescriptors
  have hinv : HistoryInv h :=
    hrun.invariant (.empty hslots hempty) fun u call _ hu => historyStep_inv hu call
  refine ⟨hinv.returns, fun hordered => hinv.fifo ?_⟩
  have hnone : ∀ i, ((enabledHistory hw initAdvance maxDescriptors).stream.streamBuffers
      i).queued ≠ true := by
    intro i hi
    rw [enabledHistory, hslots.queued, hempty, gap_self] at hi
    exact Nat.not_lt_zero _ hi
  have hboth : SlotInv h.stream ∧ OrderInv h.stream :=
    hordered.invariant (I := fun u => SlotInv u.stream ∧ OrderInv u.stream)
      ⟨hslots, .of_done fun i hi => absurd hi (hnone i)⟩ fun u call hok ⟨hs, ho⟩ => by
        rw [historyStep_stream]
        exact ⟨streamStep_slots hs call, streamStep_order hs ho hok⟩
  exact hboth.2

/-- The history of an initialized stream. -/
lemma initializedHistory_eq :
    historyStep { stream := enabledStream } (workingHardware, .channelInitialize (some 1)) =
      { stream := { streamConfigure 3 64 with
        streamBuffers := fun _ => { released := true }
        streamState := .initialized
        engineState := .initialized
        owner := some 1 } } := by
  have hstep : historyStep { stream := enabledStream }
      (workingHardware, .channelInitialize (some 1)) =
      { stream := streamStep enabledStream (workingHardware, .channelInitialize (some 1)) } := rfl
  rw [hstep, initializedStream_eq]

/-- The buffer of 64 KiB at an address. -/
def bufferAt (fUserSpacePtr : ℕ) : NTV2StreamBuffer where
  fUserSpacePtr := fUserSpacePtr
  fByteCount := 65536

/-- A buffer is started, a second one flushed and a third one linked behind the first, which is
completed; both are released, and the third is completed when a fourth is linked behind it. -/
def returnRun : List (StreamHardware × StreamOp) :=
  [(workingHardware, .channelInitialize (some 1)),
    (workingHardware, .bufferQueue (some 1) (bufferAt 4096)),
    (workingHardware, .channelStart),
    (workingHardware, .channelAdvance),
    (workingHardware, .channelAdvance),
    (workingHardware, .channelAdvance),
    (workingHardware, .channelAdvance),
    (workingHardware, .bufferQueue (some 1) (bufferAt 69632)),
    (workingHardware, .channelFlush),
    (workingHardware, .bufferQueue (some 1) (bufferAt 135168)),
    (workingHardware, .channelAdvance),
    (workingHardware, .channelAdvance),
    (workingHardware, .bufferRelease (some 1)),
    (workingHardware, .bufferRelease (some 1)),
    (workingHardware, .bufferQueue (some 1) (bufferAt 200704)),
    (workingHardware, .channelAdvance),
    (workingHardware, .channelAdvance)]

/-- **Four buffers**: the first two are returned, the first and the third are completed. -/
theorem stream_fifo_returnRun : ∃ h, StreamFifo h ∧
    h.queued = [(4096, 65536), (69632, 65536), (135168, 65536), (200704, 65536)] ∧
    h.returned.map (fun b => (b.memory, b.completed, b.flushed)) =
      [((4096, 65536), true, false), ((69632, 65536), false, true)] ∧
    h.completed = [0, 2] := by
  have hok : StepsOk historyStep (fun h call => FifoStepOk h.stream call)
      (enabledHistory workingHardware 3 64) returnRun := by
    refine ⟨trivial, ?_⟩
    rw [enabledHistory, ← enabledStream, initializedHistory_eq]
    decide +kernel
  refine ⟨_, (stream_fifo workingHardware 3 64
    (RunsTo.foldl (StepsOk.of_forall fun _ _ => trivial))).2 (RunsTo.foldl hok), ?_⟩
  rw [returnRun, List.foldl_cons, enabledHistory, ← enabledStream, initializedHistory_eq]
  decide +kernel

/-- An engine that cannot build the descriptors of the second slot. -/
def secondSlotFails : StreamHardware :=
  { workingHardware with dmaXlnxStreamBuild := fun i => if i = 1 then 0 else 4 }

/-- Three buffers are queued and the stream is started; the second one cannot be linked before it
becomes active, nor the third one behind it; the third is linked when a fourth is queued. -/
def skipRun : List (StreamHardware × StreamOp) :=
  [(workingHardware, .channelInitialize (some 1)),
    (workingHardware, .bufferQueue (some 1) userBuffer),
    (workingHardware, .bufferQueue (some 1) userBuffer),
    (workingHardware, .bufferQueue (some 1) userBuffer),
    (workingHardware, .channelStart),
    (workingHardware, .channelAdvance),
    (workingHardware, .channelAdvance),
    (workingHardware, .channelAdvance),
    (secondSlotFails, .channelAdvance),
    (secondSlotFails, .channelAdvance),
    (workingHardware, .channelAdvance),
    (workingHardware, .bufferQueue (some 1) userBuffer),
    (workingHardware, .channelAdvance),
    (workingHardware, .channelAdvance)]

/-- The third buffer is completed, and the second is neither completed nor flushed. -/
theorem failed_link_skips_buffer :
    ¬ ∀ h, RunsTo historyStep (fun _ _ => True) { stream := enabledStream } h → StreamFifo h := by
  intro hall
  have hfifo := hall (skipRun.foldl historyStep { stream := enabledStream })
    (RunsTo.foldl ⟨trivial, trivial, trivial, trivial, trivial, trivial, trivial, trivial, trivial,
      trivial, trivial, trivial, trivial, trivial, trivial⟩)
  obtain ⟨hcompleted, hskipped⟩ :
      (skipRun.foldl historyStep { stream := enabledStream }).completed = [0, 2] ∧
        (skipRun.foldl historyStep { stream := enabledStream }).trace[1]?.map
          (fun b => (b.completed, b.flushed)) = some (false, false) := by
    rw [skipRun, List.foldl_cons, initializedHistory_eq]
    decide +kernel
  generalize skipRun.foldl historyStep { stream := enabledStream } = h at hfifo hcompleted hskipped
  have hthird : 2 ∈ h.completed := by
    rw [hcompleted]
    exact List.mem_cons_of_mem 0 List.mem_cons_self
  obtain ⟨b, hb, hdone⟩ := hfifo.skipped 1 2 hthird Nat.one_lt_two
  rw [hb, Option.map_some, Option.some_inj, Prod.mk.injEq] at hskipped
  rw [hskipped.1, hskipped.2] at hdone
  rcases hdone with hdone | hdone <;> exact Bool.noConfusion hdone

end LibAjaNtv2
