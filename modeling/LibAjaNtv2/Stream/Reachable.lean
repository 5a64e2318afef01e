import Mathlib.Tactic
import LibAjaNtv2.Lib.Run
import LibAjaNtv2.Stream.Advance

/-!
The streaming queue over whole runs.

* `StreamStepOk`: the steps that do not break the queue;
* `streamStep_inv`: **the invariant over a step**;
* `StreamRep`: what the indices, the slots and the counts represent;
* `stream_representation`: it holds in every state of a run of such steps.
-/

namespace LibAjaNtv2

open Cyclic

/-- The steps that do not break the queue: initialize with nothing queued, a flush while the engine
runs or before the stream does, a stop that does not start the engine on an empty queue, an advance
to a linked slot, and the release of a buffer that is not the active one. -/
def StreamStepOk (s : Ntv2Stream) (call : StreamHardware × StreamOp) : Prop :=
  match call.2 with
  | .channelInitialize pOwner => InitializeAccepted call.1 pOwner s → s.headIndex = s.tailIndex
  | .channelFlush => call.1.lockTimeout = false → s.Running → s.EngineRunning
  | .channelStop => call.1.lockTimeout = false → s.streamState = .initialized →
      s.engineState ≠ .error → 0 ≤ call.1.dmaXlnxStreamStart → s.activeBuffer.queued = true
  | .channelAdvance => s.Running →
      ¬ (s.engineState = .initialized ∧ s.initCount < s.initAdvance) →
      s.activeIndex ≠ s.nextIndex → s.nextBuffer.linked = true
  | .bufferRelease pOwner => call.1.lockTimeout = false → pOwner = s.owner →
      s.streamState = .initialized → s.activeIndex = s.tailIndex → s.activeBuffer.flushed = false
  | _ => True

/-- **The invariant over a step**. -/
theorem streamStep_inv {s : Ntv2Stream} (h : StreamInv s) {call : StreamHardware × StreamOp}
    (hok : StreamStepOk s call) : StreamInv (streamStep s call) := by
  rcases call with ⟨hw, op⟩
  cases op with
  | channelInitialize pOwner => exact initialize_inv h hok
  | channelRelease pOwner => exact release_inv h hw pOwner
  | channelStart => exact (start_inv h).1
  | channelStop => exact (stop_inv h hok).1
  | channelFlush => exact flush_inv h hok
  | channelAdvance => exact advance_inv h hok
  | bufferQueue pOwner pBuffer => exact bufferQueue_inv h hw pOwner pBuffer
  | bufferRelease pOwner => exact bufferRelease_inv h hok

/-- The invariant of a stream with nothing queued does not depend on how far it is closed. -/
lemma StreamInv.setReleased {s : Ntv2Stream} (h : StreamInv s) (hsame : s.activeIndex = s.nextIndex) :
    StreamInv { s with streamState := .released, engineState := .released } := by
  obtain ⟨hq, -⟩ := h
  refine ⟨⟨hq.active_le, hq.next_le, hq.queued, hq.count, hq.unlinked, hq.mapped, hq.pending⟩,
    ⟨Ntv2StreamState.noConfusion, ?_, Ntv2StreamState.noConfusion, fun hne => absurd hsame hne⟩⟩
  rintro (hr | hr) <;> exact Ntv2StreamState.noConfusion hr

/-- The invariant holds where a run starts. -/
lemma streamEnable_inv (hw : StreamHardware) (initAdvance maxDescriptors : ℕ) :
    StreamInv (streamEnable hw (streamConfigure initAdvance maxDescriptors)) := by
  have hconfigure : StreamInv (streamConfigure initAdvance maxDescriptors) := by
    refine StreamInv.empty (fun _ => ⟨rfl, rfl⟩) rfl rfl rfl rfl rfl Ntv2StreamState.noConfusion ?_
    rintro (hr | hr) <;> exact Ntv2StreamState.noConfusion hr
  have hsame : (streamChannelRelease hw none (streamConfigure initAdvance maxDescriptors)).1.activeIndex =
      (streamChannelRelease hw none (streamConfigure initAdvance maxDescriptors)).1.nextIndex := by
    rw [streamChannelRelease, dmaOpsStreamRelease]
    split_ifs <;> rfl
  exact (release_inv hconfigure hw none).setReleased hsame

/-! ### What the queue represents -/

/-- The queued slots. -/
def Ntv2Stream.queuedSlots (s : Ntv2Stream) : Finset StreamIndex :=
  Finset.univ.filter fun i => (s.streamBuffers i).queued = true

/-- The indices are in the order tail, active, next, head; the queued slots are those from the tail
up to the head, at most all but one; the counts give their number; and if the stream runs, the
active slot is queued, linked and not flushed. -/
structure StreamRep (s : Ntv2Stream) : Prop where
  order : gap s.tailIndex s.activeIndex ≤ gap s.tailIndex s.nextIndex ∧
    gap s.tailIndex s.nextIndex ≤ gap s.tailIndex s.headIndex
  queued : ∀ i, i ∈ s.queuedSlots ↔ gap s.tailIndex i < gap s.tailIndex s.headIndex
  card_le : s.queuedSlots.card ≤ NTV2_STREAM_NUM_BUFFERS - 1
  count : s.userChannel.mQueueCount - s.userChannel.mReleaseCount =
    BitVec.ofNat 64 s.queuedSlots.card
  ready : s.Running → s.activeBuffer.Ready

/-- The invariant says what the queue represents. -/
lemma StreamInv.rep {s : Ntv2Stream} (h : StreamInv s) : StreamRep s := by
  obtain ⟨hq, hm⟩ := h
  have hmem : ∀ i, i ∈ s.queuedSlots ↔ gap s.tailIndex i < gap s.tailIndex s.headIndex := by
    intro i
    rw [Ntv2Stream.queuedSlots, Finset.mem_filter]
    exact ⟨fun hi => (hq.queued i).mp hi.2, fun hi => ⟨Finset.mem_univ i, (hq.queued i).mpr hi⟩⟩
  have hlt := gap_lt s.tailIndex s.headIndex
  have hset : s.queuedSlots =
      Finset.univ.filter fun i => gap s.tailIndex i < gap s.tailIndex s.headIndex := by
    ext i
    rw [hmem i, Finset.mem_filter]
    exact ⟨fun hi => ⟨Finset.mem_univ i, hi⟩, fun hi => hi.2⟩
  have hcard : s.queuedSlots.card = gap s.tailIndex s.headIndex := by
    rw [hset, card_gap_lt _ hlt.le]
  refine ⟨⟨hq.active_le, hq.next_le⟩, hmem, ?_, ?_, hm.running⟩
  · rw [hcard]
    omega
  · rw [hcard]
    exact hq.count

/-- A start or a stop reports success. -/
def startedOrStopped (s : Ntv2Stream) (call : StreamHardware × StreamOp) : Prop :=
  match call.2 with
  | .channelStart => (streamChannelStart call.1 s).2.mStatus = NTV2_STREAM_STATUS_SUCCESS
  | .channelStop => (streamChannelStop call.1 s).2.mStatus = NTV2_STREAM_STATUS_SUCCESS
  | _ => False

/-- After a start or a stop the stream runs. -/
lemma running_of_startedOrStopped {s : Ntv2Stream} (h : StreamInv s)
    {call : StreamHardware × StreamOp} (hok : StreamStepOk s call)
    (hsuccess : startedOrStopped s call) : (streamStep s call).Running := by
  rcases call with ⟨hw, op⟩
  cases op with
  | channelStart => exact (start_inv h).2 hsuccess
  | channelStop => exact (stop_inv h hok).2 hsuccess
  | _ => exact hsuccess.elim

/-- **The streaming queue over whole runs**: in every state that steps which do not break the queue
reach from `ntv2_stream_enable`, the indices, the slots and the counts agree, and a start or a stop
that succeeds leaves the active slot queued, linked and not flushed. -/
theorem stream_representation (hw : StreamHardware) (initAdvance maxDescriptors : ℕ)
    {s : Ntv2Stream} (hrun : RunsTo streamStep StreamStepOk
      (streamEnable hw (streamConfigure initAdvance maxDescriptors)) s) :
    StreamRep s ∧ ∀ call, StreamStepOk s call → startedOrStopped s call →
      (streamStep s call).activeBuffer.Ready := by
  have hinv : StreamInv s :=
    hrun.invariant (streamEnable_inv hw initAdvance maxDescriptors) fun u call hok hu =>
      streamStep_inv hu hok
  exact ⟨hinv.rep, fun call hok hsuccess =>
    (streamStep_inv hinv hok).rep.ready (running_of_startedOrStopped hinv hok hsuccess)⟩

/-- An engine that takes every command, and a page cache that knows one mapped buffer. -/
def workingHardware : StreamHardware where
  lockTimeout := false
  ntv2Time100ns := 1000
  dmaXlnxStreamStop := 0
  dmaXlnxStreamStart := 0
  dmaXlnxStreamBuild := fun _ => 4
  dmaXlnxStreamLink := fun _ _ => 0
  dmaPageRootFind := fun _ _ _ => some 1
  dmaPageLocked := fun _ => true
  dmaSgMapped := fun _ => true

/-- A stream of the driver: 3 syncs to start. -/
def enabledStream : Ntv2Stream := streamEnable workingHardware (streamConfigure 3 64)

/-- A slot after its release. -/
def Ntv2StreamBuffer.freed (b : Ntv2StreamBuffer) : Ntv2StreamBuffer where
  userBuffer := b.userBuffer
  released := true
  dsIndex := b.dsIndex
  dsCount := b.dsCount

/-- Releasing all slots, none of which had been released, resets them. -/
lemma releaseAll_eq {s : Ntv2Stream} (hrun : ¬ s.EngineRunning)
    (hreleased : ∀ i, (s.streamBuffers i).released = false) :
    releaseAll s = { s with streamBuffers := fun i => (s.streamBuffers i).freed } := by
  have hfold : ∀ (is : List StreamIndex) (t : Ntv2Stream), is.Nodup → ¬ t.EngineRunning →
      (∀ i ∈ is, (t.streamBuffers i).released = false) →
      is.foldl (fun s i => (dmaOpsBufferRelease s i).1) t = { t with
        streamBuffers := fun i =>
          if i ∈ is then (t.streamBuffers i).freed else t.streamBuffers i } := by
    intro is
    induction is with
    | nil => exact fun t _ _ _ => by simp
    | cons i is ih =>
        intro t hnodup hrun hfree
        obtain ⟨hi, hnodup⟩ := List.nodup_cons.mp hnodup
        have hstep : (dmaOpsBufferRelease t i).1 = t.setBuffer i (t.streamBuffers i).freed := by
          simp only [dmaOpsBufferRelease, hfree i List.mem_cons_self, if_neg Bool.false_ne_true]
          rw [if_neg fun h => hrun h.1]
          rfl
        rw [List.foldl_cons, hstep]
        refine (ih (t.setBuffer i _) hnodup hrun fun j hj => ?_).trans ?_
        · rw [setBuffer_streamBuffers, Function.update_of_ne (ne_of_mem_of_not_mem hj hi)]
          exact hfree j (List.mem_cons_of_mem i hj)
        · rw [Ntv2Stream.setBuffer, Ntv2Stream.mk.injEq]
          refine ⟨rfl, rfl, rfl, funext fun j => ?_, rfl, rfl, rfl, rfl, rfl, rfl, rfl, rfl, rfl⟩
          rcases eq_or_ne j i with rfl | hji
          · simp [hi]
          · simp [hji]
  rw [releaseAll, hfold _ s (List.nodup_finRange _) hrun fun i _ => hreleased i]
  simp only [List.mem_finRange, if_true]

/-- A stream that was enabled, slot by slot. -/
lemma streamEnable_eq (initAdvance maxDescriptors : ℕ) :
    streamEnable workingHardware (streamConfigure initAdvance maxDescriptors) =
      { streamConfigure initAdvance maxDescriptors with
        streamBuffers := fun _ => { released := true }
        streamState := .released
        engineState := .released } := by
  have hrun : ¬ ({ streamConfigure initAdvance maxDescriptors with
      streamState := .released, engineState := .released } : Ntv2Stream).EngineRunning := by
    rintro (hr | hr) <;> exact Ntv2StreamState.noConfusion hr
  have hall := releaseAll_eq hrun fun _ => rfl
  have hrelease : streamChannelRelease workingHardware none
      (streamConfigure initAdvance maxDescriptors) =
      { releaseAll { streamConfigure initAdvance maxDescriptors with
          streamState := .released, engineState := .released } with
        headIndex := 0
        tailIndex := 0
        activeIndex := 0
        nextIndex := 0
        userChannel := {}
        owner := none }.success := rfl
  rw [streamEnable, hrelease, hall]
  rfl

/-- A stream after its owner has initialized it, with any engine that can be stopped. -/
lemma initializeEnabled_eq {hw : StreamHardware} (initAdvance maxDescriptors : ℕ)
    (hlock : hw.lockTimeout = false) (hstop : 0 ≤ hw.dmaXlnxStreamStop) :
    streamStep (streamEnable workingHardware (streamConfigure initAdvance maxDescriptors))
        (hw, .channelInitialize (some 1)) =
      { streamConfigure initAdvance maxDescriptors with
        streamBuffers := fun _ => { released := true }
        streamState := .initialized
        engineState := .initialized
        owner := some 1 } := by
  have haccepted : InitializeAccepted hw (some 1)
      (streamEnable workingHardware (streamConfigure initAdvance maxDescriptors)) := by
    rw [streamEnable_eq]
    exact ⟨⟨Option.some_ne_none 1, .inl rfl⟩, hlock, Ntv2StreamState.noConfusion, hstop⟩
  simp only [streamStep, initialize_eq haccepted, Ntv2Stream.success]
  rw [streamEnable_eq, flushAll_eq fun _ => rfl]
  rfl

/-- The stream of the driver after its owner has initialized it. -/
lemma initializedStream_eq : streamStep enabledStream (workingHardware, .channelInitialize (some 1)) =
    { streamConfigure 3 64 with
      streamBuffers := fun _ => { released := true }
      streamState := .initialized
      engineState := .initialized
      owner := some 1 } :=
  initializeEnabled_eq 3 64 rfl le_rfl

/-- A buffer of 64 KiB. -/
def userBuffer : NTV2StreamBuffer where
  fUserSpacePtr := 4096
  fByteCount := 65536

/-- Initialize, queue a buffer and start. -/
def startRun : List (StreamHardware × StreamOp) :=
  [(workingHardware, .channelInitialize (some 1)),
    (workingHardware, .bufferQueue (some 1) userBuffer),
    (workingHardware, .channelStart)]

/-- The queue after a start. -/
theorem stream_representation_startRun :
    StreamRep (startRun.foldl streamStep enabledStream) ∧
      ∀ call, StreamStepOk (startRun.foldl streamStep enabledStream) call →
        startedOrStopped (startRun.foldl streamStep enabledStream) call →
        (streamStep (startRun.foldl streamStep enabledStream) call).activeBuffer.Ready :=
  stream_representation workingHardware 3 64
    (RunsTo.foldl (s := enabledStream) ⟨fun _ => rfl, trivial, trivial, trivial⟩)

/-- Initialize, queue a buffer and initialize again. -/
def initializeTwice : List (StreamHardware × StreamOp) :=
  [(workingHardware, .channelInitialize (some 1)),
    (workingHardware, .bufferQueue (some 1) userBuffer),
    (workingHardware, .channelInitialize (some 1))]

/-- After the second initialize the buffer is still queued, and the counts say that none is. -/
theorem initialize_forgets_queue :
    ¬ ∀ s, RunsTo streamStep (fun _ _ => True) enabledStream s → StreamRep s := by
  intro h
  have hrep := h (initializeTwice.foldl streamStep enabledStream)
    (RunsTo.foldl ⟨trivial, trivial, trivial, trivial⟩)
  obtain ⟨hqueued, hzero⟩ :
      ((initializeTwice.foldl streamStep enabledStream).streamBuffers 0).queued = true ∧
        (initializeTwice.foldl streamStep enabledStream).userChannel = {} := by
    rw [initializeTwice, List.foldl_cons, initializedStream_eq]
    decide +kernel
  generalize initializeTwice.foldl streamStep enabledStream = s at hrep hqueued hzero
  have hcount := hrep.count
  have hcard : s.queuedSlots.card ≤ 255 := hrep.card_le
  rw [hzero] at hcount
  have hempty : s.queuedSlots.card = 0 := by
    have hval := congrArg BitVec.toNat hcount
    rw [BitVec.toNat_ofNat, Nat.mod_eq_of_lt (by omega)] at hval
    exact hval.symm
  have hmem : (0 : StreamIndex) ∈ s.queuedSlots :=
    Finset.mem_filter.mpr ⟨Finset.mem_univ _, hqueued⟩
  rw [Finset.card_eq_zero.mp hempty] at hmem
  exact Finset.notMem_empty _ hmem

end LibAjaNtv2
