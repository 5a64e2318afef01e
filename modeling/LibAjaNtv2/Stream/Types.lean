import Mathlib.Tactic
import Mathlib.Data.BitVec
import LibAjaNtv2.Lib.Cyclic

/-!
The streaming queue (`ntv2stream.h`).

* `NTV2_STREAM_NUM_BUFFERS`, `StreamIndex`: the slots of the queue;
* `Ntv2StreamBuffer`, `Ntv2Stream`: a slot and the stream;
* `StreamHardware`: what the engine and the page cache answer to one call;
* `StreamReply`: the status that a call reports.
-/

namespace LibAjaNtv2

/-- The slots of the queue. -/
abbrev NTV2_STREAM_NUM_BUFFERS : ℕ := 256

instance : NeZero NTV2_STREAM_NUM_BUFFERS := ⟨by decide⟩

/-- An index of the queue. -/
abbrev StreamIndex := Fin NTV2_STREAM_NUM_BUFFERS

/-- The states of a stream and of its engine. -/
inductive Ntv2StreamState where
  | unknown
  | disabled
  | initialized
  | released
  | idle
  | active
  | error
  deriving DecidableEq, Repr

/-- The part of `NTV2StreamBuffer` that the driver reads and writes. -/
structure NTV2StreamBuffer where
  fUserSpacePtr : ℕ := 0
  fByteCount : ℕ := 0
  mQueueTime : Int := 0
  mActiveTime : Int := 0
  mCompleteTime : Int := 0
  mFlushTime : Int := 0
  mTransferCount : BitVec 64 := 0
  deriving DecidableEq, Repr

/-- The counts of `NTV2StreamChannel`. -/
structure NTV2StreamChannel where
  mQueueCount : BitVec 64 := 0
  mReleaseCount : BitVec 64 := 0
  mActiveCount : BitVec 64 := 0
  mRepeatCount : BitVec 64 := 0
  mIdleCount : BitVec 64 := 0
  deriving DecidableEq, Repr

/-- A slot of the queue; `dmaBuffer` is the page buffer of a mapped user buffer. -/
structure Ntv2StreamBuffer where
  userBuffer : NTV2StreamBuffer := {}
  dmaBuffer : Option ℕ := none
  queued : Bool := false
  linked : Bool := false
  completed : Bool := false
  flushed : Bool := false
  released : Bool := false
  error : Bool := false
  dsIndex : ℕ := 0
  dsCount : ℕ := 0
  deriving DecidableEq, Repr

/-- A stream, with the next free descriptor of its engine. -/
structure Ntv2Stream where
  owner : Option ℕ
  streamState : Ntv2StreamState
  engineState : Ntv2StreamState
  streamBuffers : StreamIndex → Ntv2StreamBuffer
  headIndex : StreamIndex
  tailIndex : StreamIndex
  activeIndex : StreamIndex
  nextIndex : StreamIndex
  initAdvance : ℕ
  initCount : ℕ
  userChannel : NTV2StreamChannel
  strDescriptorIndex : ℕ
  maxDescriptors : ℕ

/-- The answers of the engine (`dmaXlnxStream*`) and of the page cache during one call, the time,
and whether the stream lock timed out. -/
structure StreamHardware where
  lockTimeout : Bool
  ntv2Time100ns : Int
  dmaXlnxStreamStop : Int
  dmaXlnxStreamStart : Int
  dmaXlnxStreamBuild : StreamIndex → Int
  dmaXlnxStreamLink : StreamIndex → StreamIndex → Int
  dmaPageRootFind : ℕ → ℕ → ℕ → Option ℕ
  dmaPageLocked : ℕ → Bool
  dmaSgMapped : ℕ → Bool

/-! ### What a call reports -/

/-- A call succeeded. -/
def NTV2_STREAM_STATUS_SUCCESS : ℕ := 1
/-- A call failed. -/
def NTV2_STREAM_STATUS_FAIL : ℕ := 2
/-- The stream is in a wrong state. -/
def NTV2_STREAM_STATUS_STATE : ℕ := 4
/-- The engine failed. -/
def NTV2_STREAM_STATUS_MESSAGE : ℕ := 8
/-- The buffer is not valid. -/
def NTV2_STREAM_STATUS_INVALID : ℕ := 16
/-- The lock timed out. -/
def NTV2_STREAM_STATUS_TIMEOUT : ℕ := 32
/-- The queue is full, or empty. -/
def NTV2_STREAM_STATUS_RESOURCE : ℕ := 64
/-- The caller does not own the stream. -/
def NTV2_STREAM_STATUS_OWNER : ℕ := 128

/-- The return value of a call that was carried out or refused. -/
def NTV2_STATUS_SUCCESS : Int := 0
/-- The return value of a call without a lock, a channel or an owner: `-EAGAIN`. -/
def NTV2_STATUS_FAIL : Int := -11

/-- The return value of an operation that failed, which some calls pass on. -/
def NTV2_STREAM_OPS_FAIL : Int := 0

/-- The return value of a call, the status it reports, and the state of the channel or of the
buffer. -/
structure StreamReply where
  ret : Int
  mStatus : ℕ
  mState : ℕ
  deriving DecidableEq, Repr

/-- The engine's state as `channel_status` reports it. -/
def channelStatus (s : Ntv2Stream) : ℕ :=
  match s.engineState with
  | .disabled => 1
  | .initialized => 2
  | .released => 4
  | .idle => 8
  | .active => 16
  | _ => 32

/-- A slot's state as `buffer_status` reports it. -/
def bufferStatus (b : Ntv2StreamBuffer) : ℕ :=
  (if b.queued then 1 else 0) ||| (if b.linked then 2 else 0) ||| (if b.completed then 4 else 0) |||
    (if b.flushed then 8 else 0) ||| (if b.released then 16 else 0) ||| (if b.error then 32 else 0)

/-! ### Indices -/

/-- The index behind. -/
def queueNext (index : StreamIndex) : StreamIndex := index + 1

/-- The index before. -/
def queuePrev (index : StreamIndex) : StreamIndex := index - 1

/-- No slot between tail and head. -/
def queueEmpty (headIndex tailIndex : StreamIndex) : Bool := headIndex = tailIndex

/-- One slot is left empty. -/
def queueFull (headIndex tailIndex : StreamIndex) : Bool := queueNext headIndex = tailIndex

namespace Ntv2Stream

variable (s : Ntv2Stream) (i : StreamIndex) (b : Ntv2StreamBuffer)

/-- Writes a slot. -/
def setBuffer : Ntv2Stream := { s with streamBuffers := Function.update s.streamBuffers i b }

/-- Changes the user buffer of a slot. -/
def setUserBuffer (f : NTV2StreamBuffer → NTV2StreamBuffer) : Ntv2Stream :=
  s.setBuffer i { s.streamBuffers i with userBuffer := f (s.streamBuffers i).userBuffer }

end Ntv2Stream

/-- The stream after `ntv2_stream_open` and `ntv2_stream_configure`. -/
def streamConfigure (initAdvance maxDescriptors : ℕ) : Ntv2Stream where
  owner := none
  streamState := .disabled
  engineState := .disabled
  streamBuffers := fun _ => {}
  headIndex := 0
  tailIndex := 0
  activeIndex := 0
  nextIndex := 0
  initAdvance := initAdvance
  initCount := 0
  userChannel := {}
  strDescriptorIndex := 0
  maxDescriptors := maxDescriptors

end LibAjaNtv2
