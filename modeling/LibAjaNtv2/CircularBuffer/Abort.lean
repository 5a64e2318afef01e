import LibAjaNtv2.CircularBuffer.Buffer

/-!
A wait for a frame that fails or is aborted (`circularbuffer.h`).

* `waitOrAbort`: a round of `WaitForEventOrAbort` and `WaitForLockOrAbort`;
* `startNextBufferOrAbort`: the steps of the calls that take a frame, with the three places where
  they return `NULL`;
* `CallRun`: a call of one thread while anything else happens to the buffer;
* `LeavesNothing`: what a call that returns `NULL` should leave behind;
* `abort_leaves_nothing_iff`: **only the wait for the frame's lock leaves something locked**.
-/

namespace LibAjaNtv2

variable {α : Type*}

/-- The status of a wait with a timeout, as far as the loops tell the values of `AJAStatus`
apart. -/
inductive WaitStatus
  | AJA_STATUS_SUCCESS
  | AJA_STATUS_TIMEOUT
  | AJA_STATUS_FAIL
  | other
  deriving DecidableEq, Repr

/-- What a round of a wait comes to. -/
inductive WaitRound
  | again
  | failed
  | succeeded
  deriving DecidableEq, Repr

/-- A round of `WaitForEventOrAbort` and of `WaitForLockOrAbort`: the status of a wait with a
timeout, and the flag behind `mAbortFlag` unless that is null. -/
def waitOrAbort (status : WaitStatus) (mAbortFlag : Option Bool) : WaitRound :=
  if status = .AJA_STATUS_TIMEOUT ∧ mAbortFlag = some true then .failed
  else if status = .AJA_STATUS_FAIL then .failed
  else if status = .AJA_STATUS_SUCCESS then .succeeded
  else .again

/-- A step that waits first: `none` in place of the next thing to do is a return of `NULL`. -/
def waitThen (pc : BufferPc) (b : AJACircularBuffer α) (round : WaitRound)
    (next : Option (BufferPc × AJACircularBuffer α)) :
    Option (Option BufferPc × AJACircularBuffer α) :=
  match round with
  | .again => some (some pc, b)
  | .failed => some (none, b)
  | .succeeded => next.map fun r => (some r.1, r.2)

/-- A step of the call that takes a frame, with what the wait of the step reports. -/
def startNextBufferOrAbort (p : Side) (b : AJACircularBuffer α) (status : WaitStatus)
    (mAbortFlag : Option Bool) :
    BufferPc → Option (Option BufferPc × AJACircularBuffer α)
  | .lockData =>
      waitThen .lockData b (waitOrAbort status mAbortFlag) (startNextBuffer p b .lockData)
  | .wait => waitThen .wait b (waitOrAbort status mAbortFlag) (startNextBuffer p b .wait)
  -- the data lock is held here, and a failure returns without releasing it
  | .lockFrame =>
      waitThen .lockFrame b (waitOrAbort status mAbortFlag) (startNextBuffer p b .lockFrame)
  | pc => (startNextBuffer p b pc).map fun r => (some r.1, r.2)

/-- What the two threads share: the indices, the count, and the frames in use. -/
def AJACircularBuffer.data (b : AJACircularBuffer α) : (Side → ℕ) × ℤ × (Side → ℕ) :=
  (b.index, b.mCircBufferCount, b.current)

/-- Nobody takes or releases a lock for the thread. -/
structure LeavesLocks (p : Side) (b b' : AJACircularBuffer α) : Prop where
  dataLock : b'.mDataBufferLock = some p ↔ b.mDataBufferLock = some p
  frames : ∀ i, b'.mLocks i = some p ↔ b.mLocks i = some p

/-- A step of a call: the buffer before it and after it. -/
abbrev CallStep (α : Type*) := AJACircularBuffer α × AJACircularBuffer α

/-- The step changes nothing that the threads share. -/
def CallStep.Unchanged (st : CallStep α) : Prop := st.2.data = st.1.data

/-- A call that took the buffer in state `b₀`, in the middle of anything that others do to the
buffer: where it is, the buffer, and the steps of its own, the last one first. -/
inductive CallRun (p : Side) (b₀ : AJACircularBuffer α) :
    Option BufferPc → AJACircularBuffer α → List (CallStep α) → Prop
  | enter : CallRun p b₀ (some .lockData) b₀ []
  | own {pc : BufferPc} {b : AJACircularBuffer α} {steps : List (CallStep α)}
      {r : Option BufferPc × AJACircularBuffer α} (status : WaitStatus) (mAbortFlag : Option Bool) :
      CallRun p b₀ (some pc) b steps → startNextBufferOrAbort p b status mAbortFlag pc = some r →
      CallRun p b₀ r.1 r.2 ((b, r.2) :: steps)
  | other {pc : Option BufferPc} {b b' : AJACircularBuffer α} {steps : List (CallStep α)} :
      CallRun p b₀ pc b steps → LeavesLocks p b b' → CallRun p b₀ pc b' steps

/-- What a call that returns `NULL` should leave behind: the thread has neither the data lock nor
a frame that it had not before, and no step of it has changed the shared data. -/
structure LeavesNothing (p : Side) (b₀ b : AJACircularBuffer α) (steps : List (CallStep α)) :
    Prop where
  dataLock : b.mDataBufferLock ≠ some p
  frames : ∀ i, b.mLocks i = some p → b₀.mLocks i = some p
  unchanged : ∀ st ∈ steps, st.Unchanged

/-- Up to the wait for the frame a call has taken no frame and changed no shared data. -/
structure BeforeFrame (p : Side) (b₀ b : AJACircularBuffer α) (steps : List (CallStep α)) :
    Prop where
  frames : ∀ i, b.mLocks i = some p → b₀.mLocks i = some p
  unchanged : ∀ st ∈ steps, st.Unchanged

/-- What holds where a call is: while it waits for the data lock or the event it has no lock, from
the check on to the frame it has the data lock. -/
def CallInvariant (p : Side) (b₀ b : AJACircularBuffer α) (steps : List (CallStep α)) :
    BufferPc → Prop
  | .lockData | .wait => b.mDataBufferLock ≠ some p ∧ BeforeFrame p b₀ b steps
  | .check | .unlockWait | .lockFrame =>
      b.mDataBufferLock = some p ∧ BeforeFrame p b₀ b steps
  | _ => True

variable {p : Side} {b₀ b b' : AJACircularBuffer α} {steps : List (CallStep α)}

lemma BeforeFrame.other (h : BeforeFrame p b₀ b steps) (hlocks : LeavesLocks p b b') :
    BeforeFrame p b₀ b' steps :=
  ⟨fun i hi => h.frames i ((hlocks.frames i).mp hi), h.unchanged⟩

lemma BeforeFrame.unchanged_cons (h : BeforeFrame p b₀ b steps) (hdata : b'.data = b.data) :
    ∀ st ∈ ((b, b') :: steps : List (CallStep α)), st.Unchanged :=
  List.forall_mem_cons.mpr ⟨hdata, h.unchanged⟩

lemma CallInvariant.other {pc : BufferPc} (h : CallInvariant p b₀ b steps pc)
    (hlocks : LeavesLocks p b b') : CallInvariant p b₀ b' steps pc := by
  cases pc with
  | lockData => exact ⟨hlocks.dataLock.not.mpr h.1, h.2.other hlocks⟩
  | wait => exact ⟨hlocks.dataLock.not.mpr h.1, h.2.other hlocks⟩
  | check => exact ⟨hlocks.dataLock.mpr h.1, h.2.other hlocks⟩
  | unlockWait => exact ⟨hlocks.dataLock.mpr h.1, h.2.other hlocks⟩
  | lockFrame => exact ⟨hlocks.dataLock.mpr h.1, h.2.other hlocks⟩
  | _ => exact trivial

/-- **A step of the call keeps what it relies on.** -/
lemma CallInvariant.own {pc : BufferPc} {r : BufferPc × AJACircularBuffer α}
    (h : CallInvariant p b₀ b steps pc) (hstep : startNextBuffer p b pc = some r) :
    CallInvariant p b₀ r.2 ((b, r.2) :: steps) r.1 := by
  cases pc with
  | lockData =>
      simp only [startNextBuffer] at hstep
      split_ifs at hstep with hfree
      rw [← Option.some.inj hstep]
      exact ⟨rfl, h.2.frames, h.2.unchanged_cons rfl⟩
  | check =>
      simp only [startNextBuffer] at hstep
      rw [← Option.some.inj hstep]
      split_ifs
      · exact ⟨h.1, h.2.frames, h.2.unchanged_cons rfl⟩
      · exact ⟨h.1, h.2.frames, h.2.unchanged_cons rfl⟩
  | unlockWait =>
      simp only [startNextBuffer] at hstep
      rw [← Option.some.inj hstep]
      exact ⟨by simp, h.2.frames, h.2.unchanged_cons rfl⟩
  | wait =>
      simp only [startNextBuffer] at hstep
      split_ifs at hstep with hset
      rw [← Option.some.inj hstep]
      exact ⟨h.1, h.2.frames, h.2.unchanged_cons rfl⟩
  | checkCount =>
      simp only [startNextBuffer] at hstep
      rw [← Option.some.inj hstep]
      split_ifs
      · exact trivial
      · exact trivial
  | lockFrame =>
      simp only [startNextBuffer] at hstep
      split_ifs at hstep with hfree
      rw [← Option.some.inj hstep]
      exact trivial
  | setCurrent =>
      rw [← Option.some.inj hstep]
      exact trivial
  | moveIndex =>
      rw [← Option.some.inj hstep]
      exact trivial
  | setCount =>
      rw [← Option.some.inj hstep]
      exact trivial
  | clearEvent =>
      rw [← Option.some.inj hstep]
      exact trivial
  | unlockData =>
      rw [← Option.some.inj hstep]
      exact trivial
  | work => cases hstep
  | unlockFrame => cases hstep
  | setEvent => cases hstep

/-- What a step that waits does: it stays where it is, returns, or goes on. -/
lemma waitThen_cases {pc : BufferPc} {round : WaitRound}
    {next : Option (BufferPc × AJACircularBuffer α)} {r : Option BufferPc × AJACircularBuffer α}
    (h : waitThen pc b round next = some r) :
    r = (some pc, b) ∨ r = (none, b) ∨ ∃ q, next = some q ∧ r = (some q.1, q.2) := by
  cases round with
  | again => exact .inl (Option.some.inj h).symm
  | failed => exact .inr (.inl (Option.some.inj h).symm)
  | succeeded =>
      obtain ⟨q, hq, hr⟩ := Option.map_eq_some_iff.mp h
      exact .inr (.inr ⟨q, hq, hr.symm⟩)

/-- What a step of an abortable call does: it stays where it is, it returns from one of the three
waits, or it is a step of the call. -/
lemma startNextBufferOrAbort_cases {pc : BufferPc} {status : WaitStatus} {mAbortFlag : Option Bool}
    {r : Option BufferPc × AJACircularBuffer α}
    (h : startNextBufferOrAbort p b status mAbortFlag pc = some r) :
    r = (some pc, b) ∨ (r = (none, b) ∧ (pc = .lockData ∨ pc = .wait ∨ pc = .lockFrame)) ∨
      ∃ q, startNextBuffer p b pc = some q ∧ r = (some q.1, q.2) := by
  cases pc with
  | lockData =>
      obtain hr | hr | hr := waitThen_cases h
      · exact .inl hr
      · exact .inr (.inl ⟨hr, .inl rfl⟩)
      · exact .inr (.inr hr)
  | wait =>
      obtain hr | hr | hr := waitThen_cases h
      · exact .inl hr
      · exact .inr (.inl ⟨hr, .inr (.inl rfl)⟩)
      · exact .inr (.inr hr)
  | lockFrame =>
      obtain hr | hr | hr := waitThen_cases h
      · exact .inl hr
      · exact .inr (.inl ⟨hr, .inr (.inr rfl)⟩)
      · exact .inr (.inr hr)
  | _ =>
      simp only [startNextBufferOrAbort] at h
      obtain ⟨q, hq, hr⟩ := Option.map_eq_some_iff.mp h
      exact .inr (.inr ⟨q, hq, hr.symm⟩)

/-- A round of a wait changes nothing. -/
lemma CallInvariant.again {pc : BufferPc} (h : CallInvariant p b₀ b steps pc) :
    CallInvariant p b₀ b ((b, b) :: steps) pc := by
  cases pc with
  | lockData => exact ⟨h.1, h.2.frames, h.2.unchanged_cons rfl⟩
  | wait => exact ⟨h.1, h.2.frames, h.2.unchanged_cons rfl⟩
  | check => exact ⟨h.1, h.2.frames, h.2.unchanged_cons rfl⟩
  | unlockWait => exact ⟨h.1, h.2.frames, h.2.unchanged_cons rfl⟩
  | lockFrame => exact ⟨h.1, h.2.frames, h.2.unchanged_cons rfl⟩
  | _ => exact trivial

/-- **Along a call the invariant holds**, whatever others do meanwhile. -/
lemma CallRun.invariant (hentry : b₀.mDataBufferLock ≠ some p) {pc : Option BufferPc}
    (h : CallRun p b₀ pc b steps) : ∀ at', pc = some at' → CallInvariant p b₀ b steps at' := by
  induction h with
  | enter =>
      rintro _ ⟨⟩
      exact ⟨hentry, fun i hi => hi, fun _ h => absurd h List.not_mem_nil⟩
  | own status mAbortFlag _ hstep ih =>
      intro next hnext
      have hpc := ih _ rfl
      obtain rfl | ⟨rfl, -⟩ | ⟨q, hq, rfl⟩ := startNextBufferOrAbort_cases hstep
      · rw [← Option.some.inj hnext]
        exact hpc.again
      · cases hnext
      · rw [← Option.some.inj hnext]
        exact hpc.own hq
  | other _ hlocks ih =>
      intro next hnext
      exact (ih next hnext).other hlocks

/-- **A call that returns `NULL` leaves nothing locked and nothing changed exactly when it was not
the wait for the frame's lock that failed**: whatever the state of the buffer, whatever others do
meanwhile, and whichever wait fails. -/
theorem abort_leaves_nothing_iff (hentry : b₀.mDataBufferLock ≠ some p) {pc : BufferPc}
    {status : WaitStatus} {mAbortFlag : Option Bool} (hrun : CallRun p b₀ (some pc) b steps)
    (hnull : startNextBufferOrAbort p b status mAbortFlag pc = some (none, b')) :
    LeavesNothing p b₀ b' ((b, b') :: steps) ↔ pc ≠ .lockFrame := by
  have hinv := hrun.invariant hentry pc rfl
  obtain hr | ⟨hr, hpc⟩ | ⟨q, -, hr⟩ := startNextBufferOrAbort_cases hnull
  · cases hr
  · obtain ⟨-, rfl⟩ := Prod.mk.inj hr
    rcases hpc with rfl | rfl | rfl
    · exact iff_of_true ⟨hinv.1, hinv.2.frames, hinv.2.unchanged_cons rfl⟩ (by decide)
    · exact iff_of_true ⟨hinv.1, hinv.2.frames, hinv.2.unchanged_cons rfl⟩ (by decide)
    · exact iff_of_false (fun h => h.dataLock hinv.1) (fun h => h rfl)
  · cases hr

/-- A buffer of `size` frames, the first of which the consumer has. -/
def consumedBuffer (size : ℕ) : AJACircularBuffer ℕ :=
  { (CircularSystem.start size fun _ => none).buffer with
    mLocks := fun i => if i = 0 then some .consumer else none }

/-- A buffer of two frames, none of which is filled. -/
def emptyBuffer : AJACircularBuffer ℕ := (CircularSystem.start 2 fun _ => none).buffer

/-- A consumer that finds no frame and is stopped in its wait for the event leaves nothing, though
the producer has the data lock by then. -/
theorem abort_leaves_nothing_iff_wait :
    let busy := { emptyBuffer with mDataBufferLock := some .producer }
    ∃ steps, CallRun .consumer emptyBuffer (some .wait) busy steps ∧ steps.length = 3 ∧
      LeavesNothing .consumer emptyBuffer busy ((busy, busy) :: steps) := by
  intro busy
  have henter : CallRun .consumer emptyBuffer (some .lockData) emptyBuffer _ := .enter
  have hlock := henter.own .AJA_STATUS_SUCCESS (some false) rfl
  have hcheck := hlock.own .AJA_STATUS_SUCCESS (some false) rfl
  have hunlock := hcheck.own .AJA_STATUS_SUCCESS (some false) rfl
  have hwait : CallRun .consumer emptyBuffer (some .wait) busy _ :=
    hunlock.other ⟨by simp [busy], fun _ => Iff.rfl⟩
  have hnull : startNextBufferOrAbort .consumer busy .AJA_STATUS_TIMEOUT (some true) .wait =
      some (none, busy) := rfl
  exact ⟨_, hwait, rfl, (abort_leaves_nothing_iff (by decide) hwait hnull).mpr (by decide)⟩

/-- A producer that is stopped while the consumer has the frame keeps the data lock. -/
theorem abort_keeps_dataLock :
    ∃ b steps, CallRun .producer (consumedBuffer 1) (some .lockFrame) b steps ∧
      startNextBufferOrAbort .producer b .AJA_STATUS_TIMEOUT (some true) .lockFrame =
        some (none, b) ∧
      ¬ LeavesNothing .producer (consumedBuffer 1) b ((b, b) :: steps) := by
  have henter : CallRun .producer (consumedBuffer 1) (some .lockData) (consumedBuffer 1) _ :=
    .enter
  have hlock := henter.own .AJA_STATUS_SUCCESS (some false) rfl
  have hcheck := hlock.own .AJA_STATUS_SUCCESS (some false) rfl
  exact ⟨_, _, hcheck, rfl, fun h => h.dataLock rfl⟩

end LibAjaNtv2
