import Mathlib.Tactic
import LibAjaNtv2.Stream.Reachable

/-!
What a request on a stream reports, and what it leaves behind when it fails.

* `streamWaitEnter`, `streamWaitLeave`, `streamChannelWait`: `ntv2_stream_channel_wait`, which holds
  the stream lock before and after it waits;
* `StreamRequest`, `streamRequest`: the requests of a client;
* `StreamView`: the indices, the flags of the slots and the counts;
* `StreamRequestClean`, `StreamRequestCleanWhen`: a request that reports honestly and fails cleanly,
  and the condition for it;
* `streamRequest_clean`: **the condition is exact**.
-/

namespace LibAjaNtv2

/-! ### Wait -/

/-- The clients that may wait for a stream at a time. -/
abbrev NTV2_STREAM_WAIT_CLIENTS : ℕ := 10

/-- An index of `wait_events`. -/
abbrev WaitIndex := Fin NTV2_STREAM_WAIT_CLIENTS

/-- A stream and the clients that wait for it. -/
structure StreamClients where
  stream : Ntv2Stream
  waitInuse : WaitIndex → Bool

/-- What a client meets that waits: the calls and interrupts while it holds no lock, whether its
event was signalled, and whether the stream lock timed out when it took it again. -/
structure StreamWait where
  meanwhile : List (StreamHardware × StreamOp)
  ntv2EventWaitForSignal : Bool
  lockTimeout : Bool

/-- The first client that does not wait. -/
def StreamClients.freeClient (s : StreamClients) : Option WaitIndex :=
  (List.finRange NTV2_STREAM_WAIT_CLIENTS).find? fun i => !s.waitInuse i

/-- `ntv2_stream_channel_wait` up to its wait: a free event, or the reply of a wait that was
refused. -/
def streamWaitEnter (hw : StreamHardware) (s : StreamClients) :
    StreamClients × Except StreamReply WaitIndex :=
  if hw.lockTimeout then
    (s, .error (s.stream.refuse NTV2_STATUS_FAIL NTV2_STREAM_STATUS_TIMEOUT).2)
  else if s.stream.Closed then
    (s, .error (s.stream.refuse NTV2_STATUS_SUCCESS NTV2_STREAM_STATUS_STATE).2)
  else
    match s.freeClient with
    | none => (s, .error (s.stream.refuse NTV2_STATUS_SUCCESS NTV2_STREAM_STATUS_RESOURCE).2)
    | some i => ({ s with waitInuse := Function.update s.waitInuse i true }, .ok i)

/-- The channel of the client after the wait: a wait that timed out has its status. -/
def waitEvent (wait : StreamWait) (pChannel : StreamReply) : StreamReply :=
  if wait.ntv2EventWaitForSignal then pChannel
  else { pChannel with mStatus := NTV2_STREAM_STATUS_FAIL ||| NTV2_STREAM_STATUS_TIMEOUT }

/-- `ntv2_stream_channel_wait` after its wait. -/
def streamWaitLeave (wait : StreamWait) (pChannel : StreamReply) (i : WaitIndex)
    (s : StreamClients) : StreamClients × StreamReply :=
  let pChannel := waitEvent wait pChannel
  let s := { s with waitInuse := Function.update s.waitInuse i false }
  let pChannel := { pChannel with mState := channelStatus s.stream }
  if wait.lockTimeout then
    (s, { pChannel with
      ret := NTV2_STATUS_FAIL
      mStatus := NTV2_STREAM_STATUS_FAIL ||| NTV2_STREAM_STATUS_TIMEOUT })
  else
    -- the status of a wait that timed out is overwritten
    (s, { pChannel with ret := NTV2_STATUS_SUCCESS, mStatus := NTV2_STREAM_STATUS_SUCCESS })

/-- `ntv2_stream_channel_wait`. -/
def streamChannelWait (hw : StreamHardware) (wait : StreamWait) (s : StreamClients) :
    StreamClients × StreamReply :=
  match streamWaitEnter hw s with
  | (s, .error reply) => (s, reply)
  | (s, .ok i) =>
      streamWaitLeave wait ⟨NTV2_STATUS_SUCCESS, 0, 0⟩ i
        { s with stream := wait.meanwhile.foldl streamStep s.stream }

/-! ### Requests -/

/-- The requests of a client. -/
inductive StreamRequest where
  | channelInitialize (pOwner : Option ℕ)
  | channelRelease (pOwner : Option ℕ)
  | channelStart
  | channelStop
  | channelFlush
  | channelWait (wait : StreamWait)
  | bufferQueue (pOwner : Option ℕ) (pBuffer : NTV2StreamBuffer)
  | bufferRelease (pOwner : Option ℕ)

/-- A call that no client waits in. -/
def StreamClients.call (s : StreamClients) (f : Ntv2Stream → Ntv2Stream × StreamReply) :
    StreamClients × StreamReply :=
  ({ s with stream := (f s.stream).1 }, (f s.stream).2)

/-- The stream after a request, and the reply. -/
def streamRequest (hw : StreamHardware) (request : StreamRequest) (s : StreamClients) :
    StreamClients × StreamReply :=
  match request with
  | .channelInitialize pOwner => s.call (streamChannelInitialize hw pOwner)
  | .channelRelease pOwner => s.call (streamChannelRelease hw pOwner)
  | .channelStart => s.call (streamChannelStart hw)
  | .channelStop => s.call (streamChannelStop hw)
  | .channelFlush => s.call (streamChannelFlush hw)
  | .channelWait wait => streamChannelWait hw wait s
  | .bufferQueue pOwner pBuffer => s.call (streamBufferQueue hw pOwner pBuffer)
  | .bufferRelease pOwner => s.call (streamBufferRelease hw pOwner)

/-- What the others make of the stream during a request: only a wait lets them in. -/
def streamOthers (hw : StreamHardware) (request : StreamRequest) (s : StreamClients) : Ntv2Stream :=
  match request with
  | .channelWait wait =>
      match (streamWaitEnter hw s).2 with
      | .error _ => s.stream
      | .ok _ => wait.meanwhile.foldl streamStep s.stream
  | _ => s.stream

/-! ### What a failing request may not change -/

/-- The flags of a slot. -/
structure SlotFlags where
  queued : Bool
  linked : Bool
  completed : Bool
  flushed : Bool
  released : Bool
  deriving DecidableEq, Repr

/-- The flags of a slot. -/
def Ntv2StreamBuffer.flags (b : Ntv2StreamBuffer) : SlotFlags :=
  ⟨b.queued, b.linked, b.completed, b.flushed, b.released⟩

/-- The indices of a stream, the flags of its slots and its counts. -/
@[ext]
structure StreamView where
  headIndex : StreamIndex
  tailIndex : StreamIndex
  activeIndex : StreamIndex
  nextIndex : StreamIndex
  flags : StreamIndex → SlotFlags
  userChannel : NTV2StreamChannel

/-- The indices of a stream, the flags of its slots and its counts. -/
def Ntv2Stream.view (s : Ntv2Stream) : StreamView :=
  ⟨s.headIndex, s.tailIndex, s.activeIndex, s.nextIndex, fun i => (s.streamBuffers i).flags,
    s.userChannel⟩

/-- A request that reports honestly and fails cleanly. -/
structure StreamRequestClean (hw : StreamHardware) (request : StreamRequest) (s : StreamClients) :
    Prop where
  unchanged : (streamRequest hw request s).2.mStatus ≠ NTV2_STREAM_STATUS_SUCCESS →
    (streamRequest hw request s).1.stream.view = (streamOthers hw request s).view
  honest : ∀ wait, request = .channelWait wait →
    (streamRequest hw request s).2.mStatus = NTV2_STREAM_STATUS_SUCCESS →
    wait.ntv2EventWaitForSignal = true

/-! ### When a request is clean -/

/-- The active slot is to be linked to itself before the engine starts. -/
def Ntv2Stream.NeedsLink (s : Ntv2Stream) : Prop :=
  s.activeBuffer.queued = true ∧ s.activeBuffer.linked = false

/-- A slot that is not linked yet can be linked to itself. -/
def SelfLinks (hw : StreamHardware) (s : Ntv2Stream) (i : StreamIndex) : Prop :=
  s.engineState ≠ .error ∧ (s.streamBuffers i).Linkable ∧ 0 < hw.dmaXlnxStreamBuild i ∧
    0 ≤ hw.dmaXlnxStreamLink i i

/-- The engine takes the start of a stream that has not failed. -/
def EngineStarts (hw : StreamHardware) (s : Ntv2Stream) : Prop :=
  s.streamState = .initialized → 0 ≤ hw.dmaXlnxStreamStart

/-- Nothing has been transferred, and no slot is next. -/
def Ntv2Stream.Unstarted (s : Ntv2Stream) : Prop :=
  s.nextIndex = s.activeIndex ∧ s.userChannel.mActiveCount = 0 ∧ s.userChannel.mRepeatCount = 0 ∧
    s.userChannel.mIdleCount = 0

/-- A start or a stop of the engine leaves nothing behind: it links no slot, or it links the active
one and succeeds, or the link fails and there was nothing to reset. -/
def RunsClean (hw : StreamHardware) (s : Ntv2Stream) : Prop :=
  s.NeedsLink → (SelfLinks hw s s.activeIndex ∧ EngineStarts hw s) ∨
    (¬ SelfLinks hw s s.activeIndex ∧ s.Unstarted)

/-- The page cache knows a buffer of an owner, locked and mapped. -/
def BufferMapped (hw : StreamHardware) (owner : Option ℕ) (pBuffer : NTV2StreamBuffer) : Prop :=
  ∃ file page, owner = some file ∧ pBuffer.fUserSpacePtr ≠ 0 ∧ pBuffer.fByteCount ≠ 0 ∧
    hw.dmaPageRootFind file pBuffer.fUserSpacePtr pBuffer.fByteCount = some page ∧
    hw.dmaPageLocked page = true ∧ hw.dmaSgMapped page = true

instance (hw : StreamHardware) (owner : Option ℕ) (pBuffer : NTV2StreamBuffer) :
    Decidable (BufferMapped hw owner pBuffer) :=
  decidable_of_iff (∃ file ∈ owner, pBuffer.fUserSpacePtr ≠ 0 ∧ pBuffer.fByteCount ≠ 0 ∧
      ∃ page ∈ hw.dmaPageRootFind file pBuffer.fUserSpacePtr pBuffer.fByteCount,
        hw.dmaPageLocked page = true ∧ hw.dmaSgMapped page = true)
    ⟨fun ⟨file, hfile, haddress, hbytes, page, hpage⟩ =>
        ⟨file, page, hfile, haddress, hbytes, hpage⟩,
      fun ⟨file, page, hfile, haddress, hbytes, hpage⟩ =>
        ⟨file, hfile, haddress, hbytes, page, hpage⟩⟩

/-- The condition for a request to report honestly and to fail cleanly. -/
def StreamRequestCleanWhen (hw : StreamHardware) (request : StreamRequest) (s : StreamClients) :
    Prop :=
  match request with
  | .channelStart => hw.lockTimeout = false → ¬ s.stream.Closed →
      s.stream.activeIndex ≠ s.stream.headIndex → RunsClean hw s.stream
  | .channelStop => hw.lockTimeout = false → ¬ s.stream.Closed → RunsClean hw s.stream
  | .channelWait wait => hw.lockTimeout = false → ¬ s.stream.Closed →
      (∃ i, s.waitInuse i = false) → wait.lockTimeout = false → wait.ntv2EventWaitForSignal = true
  | .bufferQueue pOwner pBuffer => hw.lockTimeout = false → ¬ s.stream.Closed →
      pOwner ≠ none → pOwner = s.stream.owner → queueNext s.stream.headIndex ≠ s.stream.tailIndex →
      (s.stream.streamBuffers s.stream.headIndex).queued = false →
      BufferMapped hw pOwner pBuffer ∨
        (s.stream.streamBuffers s.stream.headIndex).flags = ⟨false, false, false, false, false⟩
  | _ => True

/-! ### Requests that fail cleanly -/

/-- A call on a stream that changes nothing if it fails. -/
def FailsCleanly (s : Ntv2Stream) (result : Ntv2Stream × StreamReply) : Prop :=
  result.2.mStatus ≠ NTV2_STREAM_STATUS_SUCCESS → result.1.view = s.view

section calls

variable {hw : StreamHardware} {s t : Ntv2Stream}

lemma FailsCleanly.of_view {result : Ntv2Stream × StreamReply} (h : result.1.view = s.view) :
    FailsCleanly s result := fun _ => h

lemma FailsCleanly.of_success {result : Ntv2Stream × StreamReply}
    (h : result.2.mStatus = NTV2_STREAM_STATUS_SUCCESS) : FailsCleanly s result :=
  fun hne => absurd h hne

lemma refuseBuffer_ne_success (s : Ntv2Stream) (ret : Int) (why : ℕ) :
    (s.refuseBuffer ret why).2.mStatus ≠ NTV2_STREAM_STATUS_SUCCESS :=
  refuse_ne_success s ret why

/-- **Initialize** fails cleanly: the engine is stopped before anything else. -/
lemma initialize_clean (pOwner : Option ℕ) :
    FailsCleanly s (streamChannelInitialize hw pOwner s) := by
  cases pOwner with
  | none => exact .of_view rfl
  | some owner =>
      simp only [streamChannelInitialize, dmaOpsStreamInitialize]
      split_ifs
      · exact .of_view rfl
      · exact .of_view rfl
      · exact .of_view rfl
      · exact .of_view rfl
      · exact .of_success rfl

/-- **Release** fails cleanly. -/
lemma release_clean (pOwner : Option ℕ) : FailsCleanly s (streamChannelRelease hw pOwner s) := by
  simp only [streamChannelRelease, dmaOpsStreamRelease]
  split_ifs
  · exact .of_view rfl
  · exact .of_view rfl
  · exact .of_view rfl
  · exact .of_success rfl

/-- **Flush** fails cleanly. -/
lemma flush_clean : FailsCleanly s (streamChannelFlush hw s) := by
  rw [streamChannelFlush]
  split_ifs
  · exact .of_view rfl
  · exact .of_view rfl
  · exact .of_success rfl
  · exact .of_success rfl

/-- **The release of a buffer** fails cleanly. -/
lemma bufferRelease_clean (pOwner : Option ℕ) :
    FailsCleanly s (streamBufferRelease hw pOwner s) := by
  simp only [streamBufferRelease, dmaOpsBufferRelease]
  split_ifs
  · exact .of_view rfl
  · exact .of_view rfl
  · exact .of_view rfl
  · exact .of_view rfl
  · exact .of_view rfl
  · exact .of_success rfl
  · exact .of_view rfl
  · exact .of_success rfl

/-! ### Start and stop -/

/-- The view is as before if one slot was written and its flags were not. -/
lemma view_of_slot {i : StreamIndex} (hslot : (t.streamBuffers i).flags = (s.streamBuffers i).flags)
    (hother : ∀ j, j ≠ i → t.streamBuffers j = s.streamBuffers j)
    (hhead : t.headIndex = s.headIndex) (htail : t.tailIndex = s.tailIndex)
    (hactive : t.activeIndex = s.activeIndex) (hnext : t.nextIndex = s.nextIndex)
    (hchannel : t.userChannel = s.userChannel) : t.view = s.view := by
  have hflags : (fun j => (t.streamBuffers j).flags) = fun j => (s.streamBuffers j).flags := by
    funext j
    rcases eq_or_ne j i with rfl | hj
    · exact hslot
    · rw [hother j hj]
  rw [Ntv2Stream.view, Ntv2Stream.view, hflags, hhead, htail, hactive, hnext, hchannel]

/-- Building a slot that is not linked: it is linked, or the view is as before. -/
lemma build_exact {i : StreamIndex} {ok : Bool} (hl : (s.streamBuffers i).linked = false)
    (h : dmaOpsBufferBuild hw s i = (t, ok)) :
    (ok = true ↔ 0 < hw.dmaXlnxStreamBuild i ∧ 0 ≤ hw.dmaXlnxStreamLink i i) ∧
      (ok = false → t.view = s.view) := by
  simp only [dmaOpsBufferBuild, hl, if_neg Bool.false_ne_true] at h
  split_ifs at h with hbuild hlink <;> obtain ⟨rfl, rfl⟩ := Prod.mk.inj h
  · refine ⟨⟨Bool.noConfusion, fun hb => absurd hb.1 (not_lt.mpr hbuild)⟩, fun _ =>
      view_of_slot (i := i) ?_ (fun j hj => ?_) rfl rfl rfl rfl rfl⟩
    · simp [Ntv2StreamBuffer.flags, hl]
    · simp [hj]
  · refine ⟨⟨Bool.noConfusion, fun hb => absurd hb.2 (not_le.mpr hlink)⟩, fun _ =>
      view_of_slot (i := i) ?_ (fun j hj => ?_) rfl rfl rfl rfl rfl⟩
    · simp [Ntv2StreamBuffer.flags, hl]
    · simp [hj]
  · exact ⟨⟨fun _ => ⟨not_le.mp hbuild, not_lt.mp hlink⟩, fun _ => rfl⟩, Bool.noConfusion⟩

/-- Linking an unlinked slot to itself: it is linked, or the view is as before. -/
lemma link_self_spec {i : StreamIndex} {ok : Bool} (hl : (s.streamBuffers i).linked = false)
    (h : dmaOpsBufferLink hw s i i = (t, ok)) :
    (ok = true ↔ SelfLinks hw s i) ∧ (ok = false → t.view = s.view) ∧
      (ok = true → (t.streamBuffers i).linked = true ∧ t.engineState = s.engineState ∧
        t.streamState = s.streamState) := by
  obtain ⟨hlinks, hok, -⟩ := link_spec h
  refine and_assoc.mp ⟨?_, fun hyes => ?_⟩
  · rw [dmaOpsBufferLink] at h
    by_cases he : s.engineState = .error
    · rw [if_pos he] at h
      obtain ⟨rfl, rfl⟩ := Prod.mk.inj h
      exact ⟨⟨Bool.noConfusion, fun hself => absurd he hself.1⟩, fun _ => rfl⟩
    rw [if_neg he] at h
    by_cases hi : (s.streamBuffers i).Linkable
    · rw [if_neg (not_not.mpr hi)] at h
      rcases hbuild : dmaOpsBufferBuild hw s i with ⟨s₁, ok₁⟩
      obtain ⟨hexact, hview⟩ := build_exact hl hbuild
      obtain ⟨hlinks₁, hok₁, -⟩ := build_spec hi hbuild
      rw [hbuild] at h
      cases ok₁ with
      | false =>
          obtain ⟨rfl, rfl⟩ := Prod.mk.inj h
          exact ⟨⟨Bool.noConfusion, fun hself => hexact.mpr hself.2.2⟩, fun _ => hview rfl⟩
      | true =>
          -- the slot is linked now, so that it is not built again
          have hagain : dmaOpsBufferBuild hw s₁ i = (s₁, true) := by
            rw [dmaOpsBufferBuild, if_pos (hok₁ rfl).1]
          simp only [hagain, if_neg (not_not.mpr (hlinks₁.linkable.mpr hi)), ne_eq, not_true_eq_false,
            false_and, if_neg not_false] at h
          obtain ⟨rfl, rfl⟩ := Prod.mk.inj h
          exact ⟨⟨fun _ => ⟨he, hi, hexact.mp rfl⟩, fun _ => rfl⟩, Bool.noConfusion⟩
    · rw [if_pos hi] at h
      obtain ⟨rfl, rfl⟩ := Prod.mk.inj h
      exact ⟨⟨Bool.noConfusion, fun hself => absurd hself.2.1 hi⟩, fun _ => rfl⟩
  · obtain ⟨-, he, -, -, hlinked, -⟩ := hok hyes
    exact ⟨hlinked, he, hlinks.streamState⟩

/-- **Linking the active slot** before the engine starts. -/
lemma linkActive_exact {ok : Bool} (h : linkActive hw s = (t, ok)) :
    (ok = true ↔ (s.NeedsLink → SelfLinks hw s s.activeIndex)) ∧
      (ok = false → (t.view = s.view ↔ s.Unstarted)) ∧
      (ok = true → t.streamState = s.streamState ∧
        (s.NeedsLink → t.view ≠ s.view ∧ t.engineState ≠ .error) ∧ (¬ s.NeedsLink → t = s)) := by
  rw [linkActive] at h
  split_ifs at h with hneeds <;> rw [Bool.and_eq_true, Bool.not_eq_true'] at hneeds
  · obtain ⟨s₁, hs₁⟩ : ∃ s₁, s₁ = { s with
      userChannel := { s.userChannel with mActiveCount := 0, mRepeatCount := 0, mIdleCount := 0 }
      initCount := 0
      nextIndex := s.activeIndex } := ⟨_, rfl⟩
    have hlink : dmaOpsBufferLink hw s₁ s.activeIndex s.activeIndex = (t, ok) := by
      rw [hs₁]
      exact h
    have hself : SelfLinks hw s₁ s.activeIndex ↔ SelfLinks hw s s.activeIndex := by
      rw [hs₁]
      exact Iff.rfl
    have hunlinked : (s₁.streamBuffers s.activeIndex).linked = false := by
      rw [hs₁]
      exact hneeds.2
    obtain ⟨hexact, hview, hok⟩ := link_self_spec hunlinked hlink
    have hneeds' : s.NeedsLink := hneeds
    refine ⟨hexact.trans (hself.trans ⟨fun hself _ => hself, fun hall => hall hneeds'⟩),
      fun hno => ?_, fun hyes => ⟨?_, fun _ => ⟨fun heq => ?_, ?_⟩, fun hnot => absurd hneeds' hnot⟩⟩
    · rw [hview hno, hs₁, Ntv2Stream.Unstarted]
      simp only [Ntv2Stream.view, StreamView.mk.injEq, true_and]
      constructor
      · rintro ⟨hnext, hchannel⟩
        rw [← hchannel]
        exact ⟨hnext.symm, rfl, rfl, rfl⟩
      · rintro ⟨hnext, hactive, hrepeat, hidle⟩
        refine ⟨hnext.symm, ?_⟩
        cases hchannel : s.userChannel with
        | mk queues releases actives repeats idles =>
            rw [hchannel] at hactive hrepeat hidle
            rw [NTV2StreamChannel.mk.injEq]
            exact ⟨rfl, rfl, hactive.symm, hrepeat.symm, hidle.symm⟩
    · rw [(hok hyes).2.2, hs₁]
    · -- the slot was not linked, and now it is
      have hflags := congrArg (fun v => (v.flags s.activeIndex).linked) heq
      simp only [Ntv2Stream.view, Ntv2StreamBuffer.flags] at hflags
      rw [(hok hyes).1, hneeds.2] at hflags
      exact Bool.noConfusion hflags
    · rw [(hok hyes).2.1]
      exact (hexact.mp hyes).1
  · obtain ⟨rfl, rfl⟩ := Prod.mk.inj h
    exact ⟨⟨fun _ hneeds' => absurd hneeds' hneeds, fun _ => rfl⟩, Bool.noConfusion,
      fun _ => ⟨rfl, fun hneeds' => absurd hneeds' hneeds, fun _ => rfl⟩⟩

/-- Whether the engine starts. -/
lemma run_exact {target : Ntv2StreamState} {u : Ntv2Stream} {ok : Bool}
    (h : dmaOpsStreamRun target hw t = (u, ok)) :
    (ok = true ↔ t.engineState ≠ .error ∧ EngineStarts hw t) ∧ u.view = t.view := by
  rw [dmaOpsStreamRun] at h
  split_ifs at h with he hstart <;> obtain ⟨rfl, rfl⟩ := Prod.mk.inj h
  · exact ⟨⟨Bool.noConfusion, fun hrun => absurd he hrun.1⟩, rfl⟩
  · exact ⟨⟨Bool.noConfusion, fun hrun => absurd (hrun.2 hstart.1) (not_le.mpr hstart.2)⟩, rfl⟩
  · refine ⟨⟨fun _ => ⟨he, fun hi => ?_⟩, fun _ => rfl⟩, rfl⟩
    exact not_lt.mp fun hlt => hstart ⟨hi, hlt⟩

/-- **A start or a stop** that links the active slot and then starts the engine. -/
lemma runs_clean {target : Ntv2StreamState} {ok ran : Bool} {u : Ntv2Stream}
    {result : Ntv2Stream × StreamReply}
    (hlink : linkActive hw s = (t, ok)) (hrun : dmaOpsStreamRun target hw t = (u, ran))
    (hunlinked : ok = false → result.1.view = t.view ∧
      result.2.mStatus ≠ NTV2_STREAM_STATUS_SUCCESS)
    (hfailed : ok = true → ran = false → result.1.view = u.view ∧
      result.2.mStatus ≠ NTV2_STREAM_STATUS_SUCCESS)
    (hran : ok = true → ran = true → result.2.mStatus = NTV2_STREAM_STATUS_SUCCESS) :
    FailsCleanly s result ↔ RunsClean hw s := by
  obtain ⟨hok, hno, hyes⟩ := linkActive_exact hlink
  obtain ⟨hstarts, hview⟩ := run_exact hrun
  cases ok with
  | false =>
      obtain ⟨hresult, hne⟩ := hunlinked rfl
      have hnot : ¬ (s.NeedsLink → SelfLinks hw s s.activeIndex) :=
        fun hall => Bool.false_ne_true (hok.mpr hall)
      obtain ⟨hneeds, hself⟩ := Classical.not_imp.mp hnot
      have hclean : FailsCleanly s result ↔ s.Unstarted := by
        rw [← hno rfl, ← hresult]
        exact ⟨fun h => h hne, fun h _ => h⟩
      rw [hclean]
      exact ⟨fun h _ => .inr ⟨hself, h⟩, fun h => ((h hneeds).resolve_left fun hl =>
        hself hl.1).2⟩
  | true =>
      obtain ⟨hstate, hlinked, hsame⟩ := hyes rfl
      have hengine : EngineStarts hw t ↔ EngineStarts hw s := by
        rw [EngineStarts, EngineStarts, hstate]
      by_cases hneeds : s.NeedsLink
      · obtain ⟨hview', herror⟩ := hlinked hneeds
        have hself := hok.mp rfl hneeds
        cases ran with
        | false =>
            obtain ⟨hresult, hne⟩ := hfailed rfl rfl
            refine ⟨fun h => absurd (h hne) ?_, fun h => ?_⟩
            · rw [hresult, hview]
              exact hview'
            · rcases h hneeds with ⟨-, hstart⟩ | ⟨hnot, -⟩
              · exact absurd (hstarts.mpr ⟨herror, hengine.mpr hstart⟩) Bool.false_ne_true
              · exact absurd hself hnot
        | true =>
            exact ⟨fun _ _ => .inl ⟨hself, hengine.mp (hstarts.mp rfl).2⟩,
              fun _ => .of_success (hran rfl rfl)⟩
      · refine ⟨fun _ h => absurd h hneeds, fun _ => ?_⟩
        cases ran with
        | false =>
            rw [← hsame hneeds]
            exact .of_view ((hfailed rfl rfl).1.trans hview)
        | true => exact .of_success (hran rfl rfl)

/-- **When a start fails cleanly**. -/
lemma start_clean : FailsCleanly s (streamChannelStart hw s) ↔
    (hw.lockTimeout = false → ¬ s.Closed → s.activeIndex ≠ s.headIndex → RunsClean hw s) := by
  rcases hlink : linkActive hw s with ⟨t, ok⟩
  rcases hrun : dmaOpsStreamStart hw t with ⟨u, ran⟩
  rw [streamChannelStart]
  split_ifs with hlock hclosed hempty
  · exact ⟨fun _ hno => absurd (hlock.symm.trans hno) Bool.noConfusion, fun _ => .of_view rfl⟩
  · exact ⟨fun _ _ hopen => absurd hclosed hopen, fun _ => .of_view rfl⟩
  · exact ⟨fun _ _ _ hne => absurd (of_decide_eq_true hempty) hne, fun _ => .of_view rfl⟩
  have hreach : (hw.lockTimeout = false → ¬ s.Closed → s.activeIndex ≠ s.headIndex →
      RunsClean hw s) ↔ RunsClean hw s :=
    ⟨fun h => h (Bool.eq_false_of_not_eq_true hlock) hclosed fun he =>
      hempty (decide_eq_true he), fun h _ _ _ => h⟩
  rw [hreach]
  refine runs_clean hlink hrun (fun hno => ?_) (fun hyes hno => ?_) fun hyes hran => ?_
  · subst hno
    rw [hlink]
    exact ⟨rfl, refuse_ne_success _ _ _⟩
  · subst hyes hno
    rw [hlink]
    simp only [hrun]
    exact ⟨rfl, refuse_ne_success _ _ _⟩
  · subst hyes hran
    rw [hlink]
    simp only [hrun]
    rfl

/-- **When a stop fails cleanly**. -/
lemma stop_clean : FailsCleanly s (streamChannelStop hw s) ↔
    (hw.lockTimeout = false → ¬ s.Closed → RunsClean hw s) := by
  rcases hlink : linkActive hw s with ⟨t, ok⟩
  rcases hrun : dmaOpsStreamStop hw t with ⟨u, ran⟩
  rw [streamChannelStop]
  split_ifs with hlock hclosed
  · exact ⟨fun _ hno => absurd (hlock.symm.trans hno) Bool.noConfusion, fun _ => .of_view rfl⟩
  · exact ⟨fun _ _ hopen => absurd hclosed hopen, fun _ => .of_view rfl⟩
  have hreach : (hw.lockTimeout = false → ¬ s.Closed → RunsClean hw s) ↔ RunsClean hw s :=
    ⟨fun h => h (Bool.eq_false_of_not_eq_true hlock) hclosed, fun h _ _ => h⟩
  rw [hreach]
  refine runs_clean hlink hrun (fun hno => ?_) (fun hyes hno => ?_) fun hyes hran => ?_
  · subst hno
    rw [hlink]
    exact ⟨rfl, refuse_ne_success _ _ _⟩
  · subst hyes hno
    rw [hlink]
    simp only [hrun]
    exact ⟨rfl, refuse_ne_success _ _ _⟩
  · subst hyes hran
    rw [hlink]
    simp only [hrun]
    rfl

/-! ### Queueing a buffer -/

/-- The view of a stream after one slot was reset. -/
lemma view_reset {i : StreamIndex} {user : NTV2StreamBuffer} :
    (s.setBuffer i { userBuffer := user }).view = s.view ↔
      (s.streamBuffers i).flags = ⟨false, false, false, false, false⟩ := by
  constructor
  · intro h
    have hflags := congrArg (fun v => v.flags i) h
    simp only [Ntv2Stream.view, setBuffer_streamBuffers, Function.update_self] at hflags
    exact hflags.symm
  · intro h
    refine view_of_slot (i := i) ?_ (fun j hj => ?_) rfl rfl rfl rfl rfl
    · rw [setBuffer_streamBuffers, Function.update_self, h]
      rfl
    · rw [setBuffer_streamBuffers, Function.update_of_ne hj]

/-- **A buffer is taken** if the page cache knows it, and its slot is reset either way. -/
lemma queue_exact {i : StreamIndex} {ok : Bool} (hi : (s.streamBuffers i).queued = false)
    (h : dmaOpsBufferQueue hw s i = (t, ok)) :
    (ok = true ↔ BufferMapped hw s.owner (s.streamBuffers i).userBuffer) ∧
      (ok = false → t = s.setBuffer i { userBuffer := (s.streamBuffers i).userBuffer }) ∧
      (ok = true → ∃ page, t = s.setBuffer i
        { userBuffer := (s.streamBuffers i).userBuffer, queued := true, dmaBuffer := some page }) := by
  simp only [dmaOpsBufferQueue, hi, if_neg Bool.false_ne_true, setBuffer_owner] at h
  have hfail : ¬ BufferMapped hw s.owner (s.streamBuffers i).userBuffer →
      (s.setBuffer i { userBuffer := (s.streamBuffers i).userBuffer }, false) = (t, ok) →
      (ok = true ↔ BufferMapped hw s.owner (s.streamBuffers i).userBuffer) ∧
        (ok = false → t = s.setBuffer i { userBuffer := (s.streamBuffers i).userBuffer }) ∧
        (ok = true → ∃ page, t = s.setBuffer i
          { userBuffer := (s.streamBuffers i).userBuffer, queued := true, dmaBuffer := some page }) := by
    intro hnot hf
    obtain ⟨rfl, rfl⟩ := Prod.mk.inj hf
    exact ⟨⟨Bool.noConfusion, fun hm => absurd hm hnot⟩, fun _ => rfl, Bool.noConfusion⟩
  cases howner : s.owner with
  | none =>
      rw [howner] at h hfail
      refine hfail ?_ h
      rintro ⟨file, page, hfile, -⟩
      cases hfile
  | some file =>
      rw [howner] at h hfail
      simp only at h
      split_ifs at h with huser
      · refine hfail ?_ h
        rintro ⟨-, -, -, hptr, hcount, -⟩
        exact huser.elim hptr hcount
      · rw [not_or] at huser
        cases hfind : hw.dmaPageRootFind file (s.streamBuffers i).userBuffer.fUserSpacePtr
            (s.streamBuffers i).userBuffer.fByteCount with
        | none =>
            rw [hfind] at h
            refine hfail ?_ h
            rintro ⟨file', page, hfile, -, -, hpage, -⟩
            obtain rfl := Option.some.inj hfile
            rw [hfind] at hpage
            cases hpage
        | some page =>
            rw [hfind] at h
            simp only at h
            have hpage : ∀ {file' page'}, some file = some file' →
                hw.dmaPageRootFind file' (s.streamBuffers i).userBuffer.fUserSpacePtr
                  (s.streamBuffers i).userBuffer.fByteCount = some page' → page' = page := by
              intro file' page' hfile hpage
              obtain rfl := Option.some.inj hfile
              rw [hfind] at hpage
              exact (Option.some.inj hpage).symm
            split_ifs at h with hlocked hmapped
            · refine hfail ?_ h
              rintro ⟨file', page', hfile, -, -, hp, hl, -⟩
              rw [hpage hfile hp] at hl
              rw [hl] at hlocked
              exact Bool.noConfusion hlocked
            · refine hfail ?_ h
              rintro ⟨file', page', hfile, -, -, hp, -, hm⟩
              rw [hpage hfile hp] at hm
              rw [hm] at hmapped
              exact Bool.noConfusion hmapped
            · obtain ⟨rfl, rfl⟩ := Prod.mk.inj h
              rw [Bool.not_eq_true', Bool.not_eq_false] at hlocked hmapped
              exact ⟨⟨fun _ => ⟨file, page, rfl, huser.1, huser.2, hfind, hlocked, hmapped⟩,
                fun _ => rfl⟩, Bool.noConfusion, fun _ => ⟨page, setBuffer_setBuffer _ _ _ _⟩⟩

/-- **When the queueing of a buffer fails cleanly**. -/
lemma bufferQueue_clean {pOwner : Option ℕ} {pBuffer : NTV2StreamBuffer} :
    FailsCleanly s (streamBufferQueue hw pOwner pBuffer s) ↔
      (hw.lockTimeout = false → ¬ s.Closed → pOwner ≠ none → pOwner = s.owner →
        queueNext s.headIndex ≠ s.tailIndex → (s.streamBuffers s.headIndex).queued = false →
        BufferMapped hw pOwner pBuffer ∨
          (s.streamBuffers s.headIndex).flags = ⟨false, false, false, false, false⟩) := by
  rw [streamBufferQueue]
  split_ifs with hnone hlock hclosed howner hfull hqueued
  · exact ⟨fun _ _ _ hsome => absurd hnone hsome, fun _ => .of_view rfl⟩
  · exact ⟨fun _ hno => absurd (hlock.symm.trans hno) Bool.noConfusion, fun _ => .of_view rfl⟩
  · exact ⟨fun _ _ hopen => absurd hclosed hopen, fun _ => .of_view rfl⟩
  · exact ⟨fun _ _ _ _ he => absurd he howner, fun _ => .of_view rfl⟩
  · exact ⟨fun _ _ _ _ _ hne => absurd (of_decide_eq_true hfull) hne, fun _ => .of_view rfl⟩
  · exact ⟨fun _ _ _ _ _ _ hfree => absurd (hqueued.symm.trans hfree) Bool.noConfusion,
      fun _ => .of_view rfl⟩
  rw [not_not] at howner
  have hfree := Bool.eq_false_of_not_eq_true hqueued
  have hreach : (hw.lockTimeout = false → ¬ s.Closed → pOwner ≠ none → pOwner = s.owner →
      queueNext s.headIndex ≠ s.tailIndex → (s.streamBuffers s.headIndex).queued = false →
      BufferMapped hw pOwner pBuffer ∨
        (s.streamBuffers s.headIndex).flags = ⟨false, false, false, false, false⟩) ↔
      (BufferMapped hw pOwner pBuffer ∨
        (s.streamBuffers s.headIndex).flags = ⟨false, false, false, false, false⟩) :=
    ⟨fun h => h (Bool.eq_false_of_not_eq_true hlock) hclosed hnone howner
      (fun he => hfull (decide_eq_true he)) hfree, fun h _ _ _ _ _ _ => h⟩
  rw [hreach]
  simp only
  rcases hqueue : dmaOpsBufferQueue hw (s.setUserBuffer s.headIndex fun _ => pBuffer) s.headIndex
    with ⟨t, ok⟩
  have hslot : (s.setUserBuffer s.headIndex fun _ => pBuffer).streamBuffers s.headIndex =
      { s.streamBuffers s.headIndex with userBuffer := pBuffer } := Function.update_self _ _ _
  have hfree' : ((s.setUserBuffer s.headIndex fun _ => pBuffer).streamBuffers
      s.headIndex).queued = false := by
    rw [hslot]
    exact hfree
  obtain ⟨hexact, hreset, -⟩ := queue_exact hfree' hqueue
  rw [hslot] at hexact hreset
  have hmapped : ok = true ↔ BufferMapped hw pOwner pBuffer := by
    rw [howner]
    exact hexact
  cases ok with
  | false =>
      have ht := hreset rfl
      rw [Ntv2Stream.setUserBuffer, setBuffer_setBuffer] at ht
      subst ht
      rw [← view_reset]
      refine ⟨fun h => .inr (h (refuseBuffer_ne_success _ _ _)), fun h => .of_view ?_⟩
      exact h.resolve_left fun hm => Bool.false_ne_true (hmapped.mpr hm)
  | true => exact ⟨fun _ => .inl (hmapped.mp rfl), fun _ => .of_success rfl⟩

end calls

/-! ### Wait -/

/-- A client finds an event unless all of them are in use. -/
lemma freeClient_eq_none {s : StreamClients} : s.freeClient = none ↔ ¬ ∃ i, s.waitInuse i = false := by
  rw [StreamClients.freeClient, List.find?_eq_none, not_exists]
  refine ⟨fun h i hi => h i (List.mem_finRange i) ?_, fun h i _ hi => h i ?_⟩
  · rw [hi, Bool.not_false]
  · rwa [Bool.not_eq_true'] at hi

/-- A wait that is refused changes nothing, and does not report success. -/
lemma wait_refused {hw : StreamHardware} {wait : StreamWait} {s : StreamClients}
    {reply : StreamReply} (h : streamWaitEnter hw s = (s, .error reply))
    (hreply : reply.mStatus ≠ NTV2_STREAM_STATUS_SUCCESS) :
    StreamRequestClean hw (.channelWait wait) s := by
  refine ⟨fun _ => ?_, fun _ _ hs => ?_⟩
  · rw [streamRequest, streamOthers, streamChannelWait, h]
  · rw [streamRequest, streamChannelWait, h] at hs
    exact absurd hs hreply

/-- A wait that was entered is honest if it does not take the lock again after its time. -/
lemma wait_entered {hw : StreamHardware} {wait : StreamWait} {s t : StreamClients} {i : WaitIndex}
    (h : streamWaitEnter hw s = (t, .ok i)) (ht : t.stream = s.stream) :
    StreamRequestClean hw (.channelWait wait) s ↔
      (wait.lockTimeout = false → wait.ntv2EventWaitForSignal = true) := by
  have hreply : (streamRequest hw (.channelWait wait) s).2.mStatus = NTV2_STREAM_STATUS_SUCCESS ↔
      wait.lockTimeout = false := by
    rw [streamRequest, streamChannelWait, h]
    cases hlock : wait.lockTimeout with
    | false => simp [streamWaitLeave, hlock]
    | true =>
        simp only [streamWaitLeave, hlock, if_true]
        exact ⟨fun hs => absurd hs (refuse_ne_success s.stream 0 _), Bool.noConfusion⟩
  have hview : (streamRequest hw (.channelWait wait) s).1.stream =
      streamOthers hw (.channelWait wait) s := by
    rw [streamRequest, streamOthers, streamChannelWait, h]
    simp only [streamWaitLeave, ht]
    split_ifs <;> rfl
  refine ⟨fun hclean hlock => hclean.honest wait rfl (hreply.mpr hlock), fun hhonest =>
    ⟨fun _ => by rw [hview], fun wait' he hs => ?_⟩⟩
  obtain rfl := StreamRequest.channelWait.inj he
  exact hhonest (hreply.mp hs)

/-- **When a wait reports honestly**: it changes nothing of its own. -/
lemma wait_clean {hw : StreamHardware} {wait : StreamWait} {s : StreamClients} :
    StreamRequestClean hw (.channelWait wait) s ↔
      (hw.lockTimeout = false → ¬ s.stream.Closed → (∃ i, s.waitInuse i = false) →
        wait.lockTimeout = false → wait.ntv2EventWaitForSignal = true) := by
  by_cases hlock : hw.lockTimeout = true
  · refine ⟨fun _ hno => absurd (hlock.symm.trans hno) Bool.noConfusion, fun _ =>
      wait_refused ?_ (refuse_ne_success s.stream NTV2_STATUS_FAIL NTV2_STREAM_STATUS_TIMEOUT)⟩
    rw [streamWaitEnter, if_pos hlock]
  by_cases hclosed : s.stream.Closed
  · refine ⟨fun _ _ hopen => absurd hclosed hopen, fun _ =>
      wait_refused ?_ (refuse_ne_success s.stream NTV2_STATUS_SUCCESS NTV2_STREAM_STATUS_STATE)⟩
    rw [streamWaitEnter, if_neg hlock, if_pos hclosed]
  cases hfree : s.freeClient with
  | none =>
      refine ⟨fun _ _ _ hsome => absurd hsome (freeClient_eq_none.mp hfree), fun _ =>
        wait_refused ?_
          (refuse_ne_success s.stream NTV2_STATUS_SUCCESS NTV2_STREAM_STATUS_RESOURCE)⟩
      rw [streamWaitEnter, if_neg hlock, if_neg hclosed, hfree]
  | some i =>
      have hsome : ∃ i, s.waitInuse i = false := by
        by_contra hnone
        rw [freeClient_eq_none.mpr hnone] at hfree
        cases hfree
      have henter : streamWaitEnter hw s =
          ({ s with waitInuse := Function.update s.waitInuse i true }, .ok i) := by
        rw [streamWaitEnter, if_neg hlock, if_neg hclosed, hfree]
      rw [wait_entered henter rfl]
      exact ⟨fun h _ _ _ => h, fun h => h (Bool.eq_false_of_not_eq_true hlock) hclosed hsome⟩

/-- **Requests report honestly and fail cleanly** just when the condition holds. -/
theorem streamRequest_clean (hw : StreamHardware) (request : StreamRequest) (s : StreamClients) :
    StreamRequestClean hw request s ↔ StreamRequestCleanWhen hw request s := by
  have hcall : ∀ f : Ntv2Stream → Ntv2Stream × StreamReply,
      streamRequest hw request s = s.call f → streamOthers hw request s = s.stream →
      (∀ wait, request ≠ .channelWait wait) →
      (StreamRequestClean hw request s ↔ FailsCleanly s.stream (f s.stream)) := by
    intro f hf hothers hwait
    refine ⟨fun h hne => ?_, fun h => ⟨fun hne => ?_, fun wait he => absurd he (hwait wait)⟩⟩
    · have hview := h.unchanged
      rw [hf, hothers] at hview
      exact hview hne
    · rw [hf] at hne ⊢
      rw [hothers]
      exact h hne
  cases request with
  | channelInitialize pOwner =>
      rw [hcall _ rfl rfl fun _ => StreamRequest.noConfusion]
      exact ⟨fun _ => trivial, fun _ => initialize_clean pOwner⟩
  | channelRelease pOwner =>
      rw [hcall _ rfl rfl fun _ => StreamRequest.noConfusion]
      exact ⟨fun _ => trivial, fun _ => release_clean pOwner⟩
  | channelStart =>
      rw [hcall _ rfl rfl fun _ => StreamRequest.noConfusion]
      exact start_clean
  | channelStop =>
      rw [hcall _ rfl rfl fun _ => StreamRequest.noConfusion]
      exact stop_clean
  | channelFlush =>
      rw [hcall _ rfl rfl fun _ => StreamRequest.noConfusion]
      exact ⟨fun _ => trivial, fun _ => flush_clean⟩
  | channelWait wait => exact wait_clean
  | bufferQueue pOwner pBuffer =>
      rw [hcall _ rfl rfl fun _ => StreamRequest.noConfusion]
      exact bufferQueue_clean
  | bufferRelease pOwner =>
      rw [hcall _ rfl rfl fun _ => StreamRequest.noConfusion]
      exact ⟨fun _ => trivial, fun _ => bufferRelease_clean pOwner⟩

/-! ### A wait that times out -/

/-- A stream that was initialized takes calls. -/
lemma initialize_open {hw : StreamHardware} {owner : ℕ} {s : Ntv2Stream}
    (h : InitializeAccepted hw (some owner) s) :
    (streamChannelInitialize hw (some owner) s).1.streamState = .initialized := by
  rw [initialize_eq h, Ntv2Stream.success]
  dsimp only
  rw [(flushAll_spec _).streamState]

/-- A wait whose event nobody signals. -/
def timedOutWait : StreamWait where
  meanwhile := []
  ntv2EventWaitForSignal := false
  lockTimeout := false

/-- A stream that was initialized, for which no client waits. -/
def initializedClients : StreamClients where
  stream := streamStep enabledStream (workingHardware, .channelInitialize (some 1))
  waitInuse := fun _ => false

/-- A wait that times out reports success. -/
theorem wait_timeout_reports_success :
    RunsTo streamStep (fun _ _ => True) enabledStream initializedClients.stream ∧
      ¬ StreamRequestClean workingHardware (.channelWait timedOutWait) initializedClients := by
  have hrun : RunsTo streamStep (fun _ _ => True) enabledStream
      (streamStep enabledStream (workingHardware, .channelInitialize (some 1))) :=
    RunsTo.refl.tail _ trivial
  refine ⟨by simpa only [initializedClients] using hrun, ?_⟩
  rw [wait_clean]
  have haccepted : InitializeAccepted workingHardware (some 1) enabledStream :=
    ⟨⟨Option.some_ne_none 1, .inl rfl⟩, rfl, Ntv2StreamState.noConfusion, le_rfl⟩
  have hstate : initializedClients.stream.streamState = .initialized := by
    simp only [initializedClients, streamStep]
    exact initialize_open haccepted
  intro h
  refine Bool.false_ne_true (h rfl ?_ ⟨0, rfl⟩ rfl)
  rw [Ntv2Stream.Closed, hstate]
  rintro (hs | hs | hs) <;> exact Ntv2StreamState.noConfusion hs

end LibAjaNtv2
