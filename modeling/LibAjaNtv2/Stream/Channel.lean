import Mathlib.Tactic
import LibAjaNtv2.Stream.Ops

/-!
The calls on a stream (`ntv2stream.c`), each taken as one step under the stream lock.

* `streamChannelInitialize`, `streamChannelRelease`, `streamChannelStart`, `streamChannelStop`,
  `streamChannelFlush`: the calls on the channel;
* `streamChannelAdvance`: the step of the engine, on its interrupt;
* `streamBufferQueue`, `streamBufferRelease`: the calls on a buffer;
* `StreamOp`, `streamStep`: the steps of a run;
* `streamEnable`: where a run starts.
-/

namespace LibAjaNtv2

/-! ### Replies -/

/-- A reply on the channel. -/
def Ntv2Stream.reply (s : Ntv2Stream) (ret : Int) (mStatus : ℕ) : StreamReply :=
  ⟨ret, mStatus, channelStatus s⟩

/-- The reply of a call that was carried out. -/
def Ntv2Stream.success (s : Ntv2Stream) : Ntv2Stream × StreamReply :=
  (s, s.reply NTV2_STATUS_SUCCESS NTV2_STREAM_STATUS_SUCCESS)

/-- The reply of a call that was refused. -/
def Ntv2Stream.refuse (s : Ntv2Stream) (ret : Int) (why : ℕ) : Ntv2Stream × StreamReply :=
  (s, s.reply ret (NTV2_STREAM_STATUS_FAIL ||| why))

/-- The reply of a call on a buffer that was refused. -/
def Ntv2Stream.refuseBuffer (s : Ntv2Stream) (ret : Int) (why : ℕ) : Ntv2Stream × StreamReply :=
  (s, ⟨ret, NTV2_STREAM_STATUS_FAIL ||| why, 0⟩)

/-- The stream takes no calls but to initialize and to release it. -/
def Ntv2Stream.Closed (s : Ntv2Stream) : Prop :=
  s.streamState = .disabled ∨ s.streamState = .released ∨ s.streamState = .error

instance (s : Ntv2Stream) : Decidable s.Closed := inferInstanceAs (Decidable (_ ∨ _))

/-! ### Initialize and release -/

/-- Flushes every slot. -/
def flushAll (s : Ntv2Stream) : Ntv2Stream :=
  (List.finRange NTV2_STREAM_NUM_BUFFERS).foldl (fun s i => (dmaOpsBufferFlush s i).1) s

/-- Releases every slot. -/
def releaseAll (s : Ntv2Stream) : Ntv2Stream :=
  (List.finRange NTV2_STREAM_NUM_BUFFERS).foldl (fun s i => (dmaOpsBufferRelease s i).1) s

/-- `ntv2_stream_channel_initialize`. -/
def streamChannelInitialize (hw : StreamHardware) (pOwner : Option ℕ) (s : Ntv2Stream) :
    Ntv2Stream × StreamReply :=
  match pOwner with
  | none => (s, ⟨NTV2_STATUS_FAIL, 0, 0⟩)
  | some owner =>
      if hw.lockTimeout then s.refuse NTV2_STATUS_FAIL NTV2_STREAM_STATUS_TIMEOUT
      else if s.streamState = .disabled then s.refuse NTV2_STATUS_SUCCESS NTV2_STREAM_STATUS_STATE
      else if s.owner ≠ none ∧ some owner ≠ s.owner then
        s.refuse NTV2_STATUS_SUCCESS NTV2_STREAM_STATUS_OWNER
      else
        match dmaOpsStreamInitialize hw s with
        | (s, false) => s.refuse NTV2_STREAM_OPS_FAIL NTV2_STREAM_STATUS_MESSAGE
        | (s, true) =>
            -- the slots are flushed where they are: no index moves, no slot is released
            let s := flushAll { s with owner := some owner }
            { s with userChannel := {} }.success

/-- `ntv2_stream_channel_release`: any owner's stream if called without one. -/
def streamChannelRelease (hw : StreamHardware) (pOwner : Option ℕ) (s : Ntv2Stream) :
    Ntv2Stream × StreamReply :=
  if hw.lockTimeout then s.refuse NTV2_STATUS_FAIL NTV2_STREAM_STATUS_TIMEOUT
  else if pOwner ≠ none ∧ pOwner ≠ s.owner then
    s.refuse NTV2_STATUS_SUCCESS NTV2_STREAM_STATUS_OWNER
  else
    match dmaOpsStreamRelease hw s with
    | (s, false) => s.refuse NTV2_STREAM_OPS_FAIL NTV2_STREAM_STATUS_MESSAGE
    | (s, true) =>
        let s := releaseAll s
        { s with
          headIndex := 0
          tailIndex := 0
          activeIndex := 0
          nextIndex := 0
          userChannel := {}
          owner := none }.success

/-- `ntv2_stream_enable`. -/
def streamEnable (hw : StreamHardware) (s : Ntv2Stream) : Ntv2Stream :=
  { (streamChannelRelease hw none s).1 with streamState := .released, engineState := .released }

/-! ### Start and stop -/

/-- Links the active slot to itself if it is queued and not linked yet: the condition after
initialize. -/
def linkActive (hw : StreamHardware) (s : Ntv2Stream) : Ntv2Stream × Bool :=
  if (s.streamBuffers s.activeIndex).queued && !(s.streamBuffers s.activeIndex).linked then
    let s := { s with
      userChannel := { s.userChannel with mActiveCount := 0, mRepeatCount := 0, mIdleCount := 0 }
      initCount := 0
      nextIndex := s.activeIndex }
    dmaOpsBufferLink hw s s.activeIndex s.nextIndex
  else (s, true)

/-- `ntv2_stream_channel_start`. -/
def streamChannelStart (hw : StreamHardware) (s : Ntv2Stream) : Ntv2Stream × StreamReply :=
  if hw.lockTimeout then s.refuse NTV2_STATUS_FAIL NTV2_STREAM_STATUS_TIMEOUT
  else if s.Closed then s.refuse NTV2_STATUS_SUCCESS NTV2_STREAM_STATUS_STATE
  else if queueEmpty s.activeIndex s.headIndex then
    s.refuse NTV2_STATUS_SUCCESS NTV2_STREAM_STATUS_RESOURCE
  else
    match linkActive hw s with
    | (s, false) => s.refuse NTV2_STREAM_OPS_FAIL NTV2_STREAM_STATUS_RESOURCE
    | (s, true) =>
        match dmaOpsStreamStart hw s with
        | (s, false) => s.refuse NTV2_STREAM_OPS_FAIL NTV2_STREAM_STATUS_MESSAGE
        | (s, true) => s.success

/-- `ntv2_stream_channel_stop`: nothing asks whether the queue is empty. -/
def streamChannelStop (hw : StreamHardware) (s : Ntv2Stream) : Ntv2Stream × StreamReply :=
  if hw.lockTimeout then s.refuse NTV2_STATUS_FAIL NTV2_STREAM_STATUS_TIMEOUT
  else if s.Closed then s.refuse NTV2_STATUS_SUCCESS NTV2_STREAM_STATUS_STATE
  else
    match linkActive hw s with
    | (s, false) => s.refuse NTV2_STREAM_OPS_FAIL NTV2_STREAM_STATUS_RESOURCE
    | (s, true) =>
        match dmaOpsStreamStop hw s with
        | (s, false) =>
            { s with streamState := .error }.refuse NTV2_STREAM_OPS_FAIL
              NTV2_STREAM_STATUS_MESSAGE
        | (s, true) => s.success

/-! ### Flush -/

/-- Flushes the slots before `i` down to the tail, up to the first that cannot be flushed; the
ring has no more slots than `fuel`. -/
def flushLoop (now : Int) : ℕ → StreamIndex → Ntv2Stream → Ntv2Stream
  | 0, _, s => s
  | fuel + 1, i, s =>
      if i = s.tailIndex then s
      else
        match dmaOpsBufferFlush s (queuePrev i) with
        | (s, false) => s
        | (s, true) =>
            flushLoop now fuel (queuePrev i)
              (s.setUserBuffer (queuePrev i) fun b => { b with mFlushTime := now })

section Flushing

variable {P : Ntv2Stream → Prop} {s : Ntv2Stream}

/-- **What a flushed slot and its time keep** is kept by the flush of the queue. -/
lemma flushLoop_induct (hflush : ∀ s i, P s → P (dmaOpsBufferFlush s i).1)
    (hstamp : ∀ s i (now : Int), P s → P (s.setUserBuffer i fun b => { b with mFlushTime := now }))
    (now : Int) (fuel : ℕ) (i : StreamIndex) (h : P s) : P (flushLoop now fuel i s) := by
  induction fuel generalizing i s with
  | zero => exact h
  | succ fuel ih =>
      rw [flushLoop]
      split_ifs
      · exact h
      · have ht := hflush s (queuePrev i) h
        rcases hf : dmaOpsBufferFlush s (queuePrev i) with ⟨t, ok⟩
        rw [hf] at ht
        cases ok with
        | false => exact ht
        | true => exact ih _ (hstamp t _ _ ht)

/-- What a flushed slot keeps is kept by the flush of all. -/
lemma flushAll_induct (hflush : ∀ s i, P s → P (dmaOpsBufferFlush s i).1) (h : P s) :
    P (flushAll s) :=
  List.foldlRecOn _ _ h fun s hs i _ => hflush s i hs

end Flushing

/-- `ntv2_stream_channel_flush`: from the newest slot to the oldest. -/
def streamChannelFlush (hw : StreamHardware) (s : Ntv2Stream) : Ntv2Stream × StreamReply :=
  if hw.lockTimeout then s.refuse NTV2_STATUS_FAIL NTV2_STREAM_STATUS_TIMEOUT
  else if s.Closed then s.refuse NTV2_STATUS_SUCCESS NTV2_STREAM_STATUS_STATE
  else if queueEmpty s.headIndex s.tailIndex then s.success
  else (flushLoop hw.ntv2Time100ns NTV2_STREAM_NUM_BUFFERS s.headIndex s).success

/-! ### Advance -/

/-- The next slot behind `i` that is not flushed, if there is one before the head; the ring has no
more slots than `fuel`. -/
def findNext (s : Ntv2Stream) : ℕ → StreamIndex → Option StreamIndex
  | 0, _ => none
  | fuel + 1, i =>
      if i = s.headIndex then none
      else if (s.streamBuffers i).flushed then findNext s fuel (queueNext i)
      else some i

/-- Counts a transfer of the active slot, and completes it if another slot is next. -/
def completeActive (hw : StreamHardware) (s : Ntv2Stream) : Ntv2Stream :=
  let s := s.setUserBuffer s.activeIndex fun b => { b with mTransferCount := b.mTransferCount + 1 }
  if s.activeIndex ≠ s.nextIndex then
    let s :=
      match dmaOpsBufferComplete s s.activeIndex with
      | (s, true) => s
      | (s, false) => { s with engineState := .error }
    s.setUserBuffer s.activeIndex fun b => { b with mCompleteTime := hw.ntv2Time100ns }
  else s

/-- Counts the transfer for the channel. -/
def countTransfer (s : Ntv2Stream) : Ntv2Stream :=
  let channel := s.userChannel
  { s with
    userChannel :=
      if s.engineState = .active then
        if s.activeIndex ≠ s.nextIndex then
          { channel with mActiveCount := channel.mActiveCount + 1 }
        else { channel with mRepeatCount := channel.mRepeatCount + 1 }
      else { channel with mIdleCount := channel.mIdleCount + 1 } }

/-- The next slot becomes active. -/
def moveActive (hw : StreamHardware) (s : Ntv2Stream) : Ntv2Stream :=
  let s := { s with activeIndex := s.nextIndex }
  if (s.streamBuffers s.activeIndex).userBuffer.mActiveTime = 0 then
    s.setUserBuffer s.activeIndex fun b => { b with mActiveTime := hw.ntv2Time100ns }
  else s

/-- Links the next slot that is not flushed behind the active one, which it follows even if the
link fails. -/
def linkNext (hw : StreamHardware) (s : Ntv2Stream) (status : Int) : Ntv2Stream × Int :=
  if s.engineState = .active then
    match findNext s NTV2_STREAM_NUM_BUFFERS (queueNext s.activeIndex) with
    | none => (s, status)
    | some next =>
        match dmaOpsBufferLink hw s s.activeIndex next with
        | (s, true) => ({ s with nextIndex := next }, 1)
        | (s, false) => ({ s with engineState := .error, nextIndex := next }, 0)
  else (s, status)

/-- `ntv2_stream_channel_advance`. -/
def streamChannelAdvance (hw : StreamHardware) (s : Ntv2Stream) : Ntv2Stream × Int :=
  if s.streamState ≠ .active ∧ s.streamState ≠ .idle then (s, NTV2_STATUS_SUCCESS)
  else if s.engineState = .initialized ∧ s.initCount < s.initAdvance then
    ({ s with initCount := s.initCount + 1 }, NTV2_STATUS_SUCCESS)
  else
    match dmaOpsStreamAdvance (moveActive hw (countTransfer (completeActive hw s))) with
    | (s, true) => linkNext hw s 1
    | (s, false) => linkNext hw { s with engineState := .error } 0

/-! ### Buffers -/

/-- `ntv2_stream_buffer_queue`. -/
def streamBufferQueue (hw : StreamHardware) (pOwner : Option ℕ) (pBuffer : NTV2StreamBuffer)
    (s : Ntv2Stream) : Ntv2Stream × StreamReply :=
  if pOwner = none then (s, ⟨NTV2_STATUS_FAIL, 0, 0⟩)
  else if hw.lockTimeout then s.refuseBuffer NTV2_STATUS_FAIL NTV2_STREAM_STATUS_TIMEOUT
  else if s.Closed then s.refuseBuffer NTV2_STATUS_SUCCESS NTV2_STREAM_STATUS_STATE
  else if pOwner ≠ s.owner then s.refuseBuffer NTV2_STATUS_SUCCESS NTV2_STREAM_STATUS_OWNER
  else if queueFull s.headIndex s.tailIndex then
    s.refuseBuffer NTV2_STATUS_SUCCESS NTV2_STREAM_STATUS_RESOURCE
  else if (s.streamBuffers s.headIndex).queued then
    s.refuseBuffer NTV2_STATUS_SUCCESS NTV2_STREAM_STATUS_RESOURCE
  else
    let head := s.headIndex
    match dmaOpsBufferQueue hw (s.setUserBuffer head fun _ => pBuffer) head with
    | (s, false) => s.refuseBuffer NTV2_STREAM_OPS_FAIL NTV2_STREAM_STATUS_INVALID
    | (s, true) =>
        let s := s.setUserBuffer head fun b => { b with mQueueTime := hw.ntv2Time100ns }
        ({ s with
            headIndex := queueNext head
            userChannel :=
              { s.userChannel with mQueueCount := s.userChannel.mQueueCount + 1 } },
          ⟨NTV2_STATUS_SUCCESS, NTV2_STREAM_STATUS_SUCCESS, bufferStatus (s.streamBuffers head)⟩)

/-- `ntv2_stream_buffer_release`: the slot at the tail, completed or flushed. -/
def streamBufferRelease (hw : StreamHardware) (pOwner : Option ℕ) (s : Ntv2Stream) :
    Ntv2Stream × StreamReply :=
  let tail := s.tailIndex
  let buffer := s.streamBuffers tail
  if pOwner = none then (s, ⟨NTV2_STATUS_FAIL, 0, 0⟩)
  else if hw.lockTimeout then s.refuseBuffer NTV2_STATUS_FAIL NTV2_STREAM_STATUS_TIMEOUT
  else if s.Closed then s.refuseBuffer NTV2_STATUS_SUCCESS NTV2_STREAM_STATUS_STATE
  else if pOwner ≠ s.owner then s.refuseBuffer NTV2_STATUS_SUCCESS NTV2_STREAM_STATUS_OWNER
  else if !buffer.queued || !(buffer.completed || buffer.flushed) then
    s.refuseBuffer NTV2_STATUS_SUCCESS NTV2_STREAM_STATUS_STATE
  else
    match dmaOpsBufferRelease s tail with
    | (s, false) => s.refuseBuffer NTV2_STREAM_OPS_FAIL NTV2_STREAM_STATUS_STATE
    | (s, true) =>
        ({ s with
            tailIndex := queueNext tail
            userChannel :=
              { s.userChannel with mReleaseCount := s.userChannel.mReleaseCount + 1 } },
          ⟨NTV2_STATUS_SUCCESS, NTV2_STREAM_STATUS_SUCCESS, bufferStatus (s.streamBuffers tail)⟩)

/-! ### Runs -/

/-- The calls on a stream, and the interrupt of its engine. -/
inductive StreamOp where
  | channelInitialize (pOwner : Option ℕ)
  | channelRelease (pOwner : Option ℕ)
  | channelStart
  | channelStop
  | channelFlush
  | channelAdvance
  | bufferQueue (pOwner : Option ℕ) (pBuffer : NTV2StreamBuffer)
  | bufferRelease (pOwner : Option ℕ)
  deriving DecidableEq, Repr

/-- The stream after a call. -/
def streamStep (s : Ntv2Stream) (call : StreamHardware × StreamOp) : Ntv2Stream :=
  match call.2 with
  | .channelInitialize pOwner => (streamChannelInitialize call.1 pOwner s).1
  | .channelRelease pOwner => (streamChannelRelease call.1 pOwner s).1
  | .channelStart => (streamChannelStart call.1 s).1
  | .channelStop => (streamChannelStop call.1 s).1
  | .channelFlush => (streamChannelFlush call.1 s).1
  | .channelAdvance => (streamChannelAdvance call.1 s).1
  | .bufferQueue pOwner pBuffer => (streamBufferQueue call.1 pOwner pBuffer s).1
  | .bufferRelease pOwner => (streamBufferRelease call.1 pOwner s).1

end LibAjaNtv2
