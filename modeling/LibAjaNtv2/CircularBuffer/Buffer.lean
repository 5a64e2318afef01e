import Mathlib.Tactic
import LibAjaNtv2.Lib.Run

/-!
A circular frame buffer shared by a producer and a consumer thread.

* `AJACircularBuffer`: the frames with their locks, the two indices, the count and the two events;
* `startNextBuffer`, `endNextBuffer`: the steps of the calls that take and release a frame, of
  either thread, up to the next access of shared data;
* `CircularSystem`, `CircularSystem.step`: the buffer with the two threads, each taking, using and
  releasing frames in turn;
* `BufferMoves`, `moves_of_step`: what a step of a thread can do.
-/

namespace LibAjaNtv2

/-- The two threads that share the buffer. -/
inductive Side
  | producer
  | consumer
  deriving DecidableEq, Repr

/-- The other thread. -/
def Side.other : Side → Side
  | .producer => .consumer
  | .consumer => .producer

@[simp] lemma Side.other_ne (p : Side) : p.other ≠ p := by
  cases p <;> decide

@[simp] lemma Side.ne_other (p : Side) : p ≠ p.other := by
  cases p <;> decide

@[simp] lemma Side.other_other (p : Side) : p.other.other = p := by
  cases p <;> rfl

lemma Side.eq_or_other (p q : Side) : q = p ∨ q = p.other := by
  cases p <;> cases q <;> decide

/-- The next thing a thread does, in the order of its calls. -/
inductive BufferPc
  | lockData
  | check
  | unlockWait
  | wait
  | lockFrame
  | setCurrent
  | moveIndex
  | setCount
  | checkCount
  | clearEvent
  | unlockData
  | work
  | unlockFrame
  | setEvent
  deriving DecidableEq, Repr

/-- The members of the buffer. What the source has once for each thread is a function of the
thread here: `index` is `mHead` of the producer and `mTail` of the consumer, `current` is
`mFillIndex` and `mEmptyIndex`, `event` is the event that the thread waits for, `mNotFullEvent`
and `mNotEmptyEvent`. -/
structure AJACircularBuffer (α : Type*) where
  size : ℕ
  mFrames : ℕ → Option α
  mLocks : ℕ → Option Side
  index : Side → ℕ
  mCircBufferCount : ℤ
  event : Side → Bool
  mDataBufferLock : Option Side
  current : Side → ℕ

section Calls

variable {α : Type*}

/-- The count at which the thread has to wait: the producer for a frame to fill, the consumer
for a filled frame. -/
def AJACircularBuffer.blockedAt (b : AJACircularBuffer α) : Side → ℤ
  | .producer => b.size
  | .consumer => 0

/-- What the thread does to the count when it takes a frame. -/
def Side.recount : Side → ℤ → ℤ
  | .producer, n => n + 1
  | .consumer, n => n - 1

/-- A step of the call that takes a frame; `none` where the thread is blocked. -/
def startNextBuffer (p : Side) (b : AJACircularBuffer α) :
    BufferPc → Option (BufferPc × AJACircularBuffer α)
  | .lockData =>
      if b.mDataBufferLock = none then some (.check, { b with mDataBufferLock := some p })
      else none
  | .check => some (if b.mCircBufferCount = b.blockedAt p then .unlockWait else .lockFrame, b)
  | .unlockWait => some (.wait, { b with mDataBufferLock := none })
  | .wait => if b.event p then some (.lockData, b) else none
  -- the frame is locked with the data lock held
  | .lockFrame =>
      if b.mLocks (b.index p) = none then
        some (.setCurrent, { b with mLocks := Function.update b.mLocks (b.index p) (some p) })
      else none
  | .setCurrent => some (.moveIndex, { b with current := Function.update b.current p (b.index p) })
  | .moveIndex =>
      some (.setCount, { b with index := Function.update b.index p ((b.index p + 1) % b.size) })
  | .setCount => some (.checkCount, { b with mCircBufferCount := p.recount b.mCircBufferCount })
  | .checkCount =>
      some (if b.mCircBufferCount = b.blockedAt p then .clearEvent else .unlockData, b)
  | .clearEvent => some (.unlockData, { b with event := Function.update b.event p false })
  | .unlockData => some (.work, { b with mDataBufferLock := none })
  | .work | .unlockFrame | .setEvent => none

/-- A step of the call that releases the frame. -/
def endNextBuffer (p : Side) (b : AJACircularBuffer α) :
    BufferPc → Option (BufferPc × AJACircularBuffer α)
  | .unlockFrame =>
      some (.setEvent, { b with mLocks := Function.update b.mLocks (b.current p) none })
  | .setEvent => some (.lockData, { b with event := Function.update b.event p.other true })
  | _ => none

/-- The producer's call for a frame to fill. -/
def StartProduceNextBuffer (b : AJACircularBuffer α) := startNextBuffer .producer b

/-- The consumer's call for a filled frame. -/
def StartConsumeNextBuffer (b : AJACircularBuffer α) := startNextBuffer .consumer b

/-- The producer has filled its frame. -/
def EndProduceNextBuffer (b : AJACircularBuffer α) := endNextBuffer .producer b

/-- The consumer has processed its frame. -/
def EndConsumeNextBuffer (b : AJACircularBuffer α) := endNextBuffer .consumer b

/-- The buffer with its two threads: where each is, how many frames it has released, and what
the consumer has found in its frames. -/
structure CircularSystem (α : Type*) where
  buffer : AJACircularBuffer α
  pc : Side → BufferPc
  ended : Side → ℕ
  received : List (Option α)

/-- A buffer of `size` frames that no thread has used yet. -/
def CircularSystem.start (size : ℕ) (mFrames : ℕ → Option α) : CircularSystem α where
  buffer :=
    { size := size
      mFrames := mFrames
      mLocks := fun _ => none
      index := fun _ => 0
      mCircBufferCount := 0
      event := fun _ => false
      mDataBufferLock := none
      current := fun _ => 0 }
  pc := fun _ => .lockData
  ended := fun _ => 0
  received := []

/-- The producer puts its next data in the frame it has taken. -/
def CircularSystem.fill (s : CircularSystem α) (data : ℕ → α) : CircularSystem α :=
  { s with
    buffer := { s.buffer with
      mFrames := Function.update s.buffer.mFrames (s.buffer.current .producer)
        (some (data (s.ended .producer))) }
    pc := Function.update s.pc .producer .unlockFrame }

/-- The consumer looks at the frame it has taken. -/
def CircularSystem.process (s : CircularSystem α) : CircularSystem α :=
  { s with
    pc := Function.update s.pc .consumer .unlockFrame
    received := s.received ++ [s.buffer.mFrames (s.buffer.current .consumer)] }

/-- The system after a call of the thread has taken a step. -/
def CircularSystem.after (s : CircularSystem α) (p : Side) (r : BufferPc × AJACircularBuffer α) :
    CircularSystem α :=
  { s with pc := Function.update s.pc p r.1, buffer := r.2 }

/-- The thread has released one more frame. -/
def CircularSystem.release (s : CircularSystem α) (p : Side) : CircularSystem α :=
  { s with ended := Function.update s.ended p (s.ended p + 1) }

/-- A step of a thread; `none` where it is blocked. -/
def CircularSystem.step (data : ℕ → α) (p : Side) (s : CircularSystem α) :
    Option (CircularSystem α) :=
  match p, s.pc p with
  | .producer, .work => some (s.fill data)
  | .producer, .unlockFrame =>
      (EndProduceNextBuffer s.buffer .unlockFrame).map ((s.release .producer).after .producer)
  | .producer, .setEvent => (EndProduceNextBuffer s.buffer .setEvent).map (s.after .producer)
  | .producer, pc => (StartProduceNextBuffer s.buffer pc).map (s.after .producer)
  | .consumer, .work => some s.process
  | .consumer, .unlockFrame =>
      (EndConsumeNextBuffer s.buffer .unlockFrame).map ((s.release .consumer).after .consumer)
  | .consumer, .setEvent => (EndConsumeNextBuffer s.buffer .setEvent).map (s.after .consumer)
  | .consumer, pc => (StartConsumeNextBuffer s.buffer pc).map (s.after .consumer)

/-- A thread that is blocked stays where it is. -/
def CircularSystem.turn (data : ℕ → α) (s : CircularSystem α) (p : Side) : CircularSystem α :=
  (s.step data p).getD s

end Calls

section Moves

variable {α : Type*} {data : ℕ → α} {p : Side} {s s' : CircularSystem α}

/-- What a step of a thread can do. -/
inductive BufferMoves (data : ℕ → α) (p : Side) (s : CircularSystem α) : CircularSystem α → Prop
  | lockData (hpc : s.pc p = .lockData) (hfree : s.buffer.mDataBufferLock = none) :
      BufferMoves data p s (s.after p (.check, { s.buffer with mDataBufferLock := some p }))
  | checkWait (hpc : s.pc p = .check)
      (hblock : s.buffer.mCircBufferCount = s.buffer.blockedAt p) :
      BufferMoves data p s (s.after p (.unlockWait, s.buffer))
  | check (hpc : s.pc p = .check) (hroom : s.buffer.mCircBufferCount ≠ s.buffer.blockedAt p) :
      BufferMoves data p s (s.after p (.lockFrame, s.buffer))
  | unlockWait (hpc : s.pc p = .unlockWait) :
      BufferMoves data p s (s.after p (.wait, { s.buffer with mDataBufferLock := none }))
  | wait (hpc : s.pc p = .wait) (hset : s.buffer.event p = true) :
      BufferMoves data p s (s.after p (.lockData, s.buffer))
  | lockFrame (hpc : s.pc p = .lockFrame)
      (hfree : s.buffer.mLocks (s.buffer.index p) = none) :
      BufferMoves data p s (s.after p (.setCurrent, { s.buffer with
        mLocks := Function.update s.buffer.mLocks (s.buffer.index p) (some p) }))
  | setCurrent (hpc : s.pc p = .setCurrent) :
      BufferMoves data p s (s.after p (.moveIndex, { s.buffer with
        current := Function.update s.buffer.current p (s.buffer.index p) }))
  | moveIndex (hpc : s.pc p = .moveIndex) :
      BufferMoves data p s (s.after p (.setCount, { s.buffer with
        index := Function.update s.buffer.index p ((s.buffer.index p + 1) % s.buffer.size) }))
  | setCount (hpc : s.pc p = .setCount) :
      BufferMoves data p s (s.after p (.checkCount, { s.buffer with
        mCircBufferCount := p.recount s.buffer.mCircBufferCount }))
  | checkClear (hpc : s.pc p = .checkCount)
      (hblock : s.buffer.mCircBufferCount = s.buffer.blockedAt p) :
      BufferMoves data p s (s.after p (.clearEvent, s.buffer))
  | checkKeep (hpc : s.pc p = .checkCount)
      (hroom : s.buffer.mCircBufferCount ≠ s.buffer.blockedAt p) :
      BufferMoves data p s (s.after p (.unlockData, s.buffer))
  | clearEvent (hpc : s.pc p = .clearEvent) :
      BufferMoves data p s (s.after p (.unlockData, { s.buffer with
        event := Function.update s.buffer.event p false }))
  | unlockData (hpc : s.pc p = .unlockData) :
      BufferMoves data p s (s.after p (.work, { s.buffer with mDataBufferLock := none }))
  | fill (hp : p = .producer) (hpc : s.pc .producer = .work) : BufferMoves data p s (s.fill data)
  | process (hp : p = .consumer) (hpc : s.pc .consumer = .work) : BufferMoves data p s s.process
  | unlockFrame (hpc : s.pc p = .unlockFrame) :
      BufferMoves data p s ((s.release p).after p (.setEvent, { s.buffer with
        mLocks := Function.update s.buffer.mLocks (s.buffer.current p) none }))
  | setEvent (hpc : s.pc p = .setEvent) :
      BufferMoves data p s (s.after p (.lockData, { s.buffer with
        event := Function.update s.buffer.event p.other true }))

/-- The steps of the call that takes a frame. -/
lemma startNextBuffer_moves {r : BufferPc × AJACircularBuffer α}
    (h : startNextBuffer p s.buffer (s.pc p) = some r) : BufferMoves data p s (s.after p r) := by
  cases hpc : s.pc p <;> rw [hpc] at h <;> simp only [startNextBuffer, reduceCtorEq] at h
  case lockData =>
    split at h
    · next hfree => exact Option.some.inj h ▸ .lockData hpc hfree
    · cases h
  case check =>
    rw [← Option.some.inj h]
    split
    · next hblock => exact .checkWait hpc hblock
    · next hroom => exact .check hpc hroom
  case unlockWait => exact Option.some.inj h ▸ .unlockWait hpc
  case wait =>
    split at h
    · next hset => exact Option.some.inj h ▸ .wait hpc hset
    · cases h
  case lockFrame =>
    split at h
    · next hfree => exact Option.some.inj h ▸ .lockFrame hpc hfree
    · cases h
  case setCurrent => exact Option.some.inj h ▸ .setCurrent hpc
  case moveIndex => exact Option.some.inj h ▸ .moveIndex hpc
  case setCount => exact Option.some.inj h ▸ .setCount hpc
  case checkCount =>
    rw [← Option.some.inj h]
    split
    · next hblock => exact .checkClear hpc hblock
    · next hroom => exact .checkKeep hpc hroom
  case clearEvent => exact Option.some.inj h ▸ .clearEvent hpc
  case unlockData => exact Option.some.inj h ▸ .unlockData hpc

/-- A step of a thread is its own work or a step of one of its calls. -/
lemma step_eq (p : Side) :
    s.step data p =
      match s.pc p with
      | .work => some (match p with | .producer => s.fill data | .consumer => s.process)
      | .unlockFrame => (endNextBuffer p s.buffer .unlockFrame).map ((s.release p).after p)
      | .setEvent => (endNextBuffer p s.buffer .setEvent).map (s.after p)
      | pc => (startNextBuffer p s.buffer pc).map (s.after p) := by
  cases p <;> cases h : s.pc _ <;> simp only [CircularSystem.step, h] <;> rfl

/-- **What a step of a thread can do.** -/
theorem moves_of_step (h : s.step data p = some s') : BufferMoves data p s s' := by
  have hstart : (startNextBuffer p s.buffer (s.pc p)).map (s.after p) = some s' →
      BufferMoves data p s s' := by
    intro h
    obtain ⟨r, hr, rfl⟩ := Option.map_eq_some_iff.mp h
    exact startNextBuffer_moves hr
  rw [step_eq] at h
  cases hpc : s.pc p <;> rw [hpc] at h hstart
  case work =>
    cases p with
    | producer => exact Option.some.inj h ▸ .fill rfl hpc
    | consumer => exact Option.some.inj h ▸ .process rfl hpc
  case unlockFrame => exact Option.some.inj h ▸ .unlockFrame hpc
  case setEvent => exact Option.some.inj h ▸ .setEvent hpc
  all_goals exact hstart h

/-- The three places where a thread can be blocked. -/
lemma blocked_cases (h : s.step data p = none) :
    (s.pc p = .lockData ∧ s.buffer.mDataBufferLock ≠ none) ∨
      (s.pc p = .wait ∧ s.buffer.event p = false) ∨
      (s.pc p = .lockFrame ∧ s.buffer.mLocks (s.buffer.index p) ≠ none) := by
  rw [step_eq] at h
  cases hpc : s.pc p <;> rw [hpc] at h <;>
    simp only [startNextBuffer, endNextBuffer, Option.map_some, Option.map_eq_none_iff,
      reduceCtorEq] at h
  case lockData => exact .inl ⟨rfl, by simpa using h⟩
  case wait => exact .inr (.inl ⟨rfl, by simpa using h⟩)
  case lockFrame => exact .inr (.inr ⟨rfl, by simpa using h⟩)

end Moves

end LibAjaNtv2
