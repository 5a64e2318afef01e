import Mathlib.Tactic
import LibAjaNtv2.CircularBuffer.Buffer

/-!
What holds of a circular buffer under every interleaving of its two threads.

* `CountInv`: the data lock, the count and the two events;
* `FrameInv`: the indices and the locks of the frames, in terms of the frames taken so far;
* `ContentInv`: what the frames and the consumer hold;
* `HandsOver`: frames are handed over in order, after the producer has ended them, one thread at
  a time, and the two threads do not block each other;
* `frames_handed_over`: **so it is in every reachable state**.
-/

namespace LibAjaNtv2

/-! ### Where a thread is -/

namespace BufferPc

/-- The thread has the data lock. -/
def holdsData : BufferPc → Bool
  | .check | .unlockWait | .lockFrame | .setCurrent | .moveIndex | .setCount | .checkCount
  | .clearEvent | .unlockData => true
  | _ => false

/-- The thread has seen that it need not wait, and has not yet changed the count. -/
def claims : BufferPc → Bool
  | .lockFrame | .setCurrent | .moveIndex | .setCount => true
  | _ => false

/-- The thread has the lock of a frame. -/
def holdsFrame : BufferPc → Bool
  | .setCurrent | .moveIndex | .setCount | .checkCount | .clearEvent | .unlockData | .work
  | .unlockFrame => true
  | _ => false

/-- The thread has been given its frame. -/
def usesFrame : BufferPc → Bool
  | .moveIndex | .setCount | .checkCount | .clearEvent | .unlockData | .work | .unlockFrame => true
  | _ => false

/-- The thread has moved its index, and not yet changed the count. -/
def moved : BufferPc → Bool
  | .setCount => true
  | _ => false

/-- The thread has done its work on the frame. -/
def worked : BufferPc → Bool
  | .unlockFrame => true
  | _ => false

/-- The count includes the frame of the thread. -/
def counted : BufferPc → Bool
  | .checkCount | .clearEvent | .unlockData | .work | .unlockFrame => true
  | _ => false

/-- The thread has changed the count, and not yet set the event of the other thread. -/
def signals : BufferPc → Bool
  | .checkCount | .clearEvent | .unlockData | .work | .unlockFrame | .setEvent => true
  | _ => false

/-- The thread has seen that it must wait. -/
def waits : BufferPc → Bool
  | .unlockWait | .wait => true
  | _ => false

end BufferPc

section Count

variable {α : Type*} {data : ℕ → α} {p : Side} {s s' : CircularSystem α}

/-- The frames that the thread can take: free ones for the producer, filled ones for the
consumer. -/
def AJACircularBuffer.avail (b : AJACircularBuffer α) : Side → ℤ
  | .producer => b.size - b.mCircBufferCount
  | .consumer => b.mCircBufferCount

/-- The data lock, the count and the two events. -/
structure CountInv (s : CircularSystem α) : Prop where
  nonneg : ∀ q, 0 ≤ s.buffer.avail q
  claims : ∀ q, (s.pc q).claims → 0 < s.buffer.avail q
  data : ∀ q, s.buffer.mDataBufferLock = some q ↔ (s.pc q).holdsData
  event : ∀ q, (s.pc q).waits → s.buffer.event q = false →
    s.buffer.avail q = 0 ∨ (s.pc q.other).signals

lemma blocked_iff (b : AJACircularBuffer α) (p : Side) :
    b.mCircBufferCount = b.blockedAt p ↔ b.avail p = 0 := by
  cases p with
  | producer =>
      simp only [AJACircularBuffer.blockedAt, AJACircularBuffer.avail]
      omega
  | consumer => exact Iff.rfl

/-- A frame taken by one thread is one more for the other. -/
lemma avail_recount {b c : AJACircularBuffer α} (hsize : c.size = b.size)
    (hcount : c.mCircBufferCount = p.recount b.mCircBufferCount) :
    c.avail p = b.avail p - 1 ∧ c.avail p.other = b.avail p.other + 1 := by
  cases p with
  | producer =>
      simp only [AJACircularBuffer.avail, Side.recount, Side.other, hsize, hcount, and_true]
      omega
  | consumer =>
      simp only [AJACircularBuffer.avail, Side.recount, Side.other, hsize, hcount, true_and]
      omega

/-- What a step of one thread has to keep to. -/
lemma CountInv.after (h : CountInv s) {x : BufferPc} {b : AJACircularBuffer α}
    (hp : 0 ≤ b.avail p ∧ (x.claims → 0 < b.avail p))
    (hother : s.buffer.avail p.other ≤ b.avail p.other)
    (hdata : (b.mDataBufferLock = s.buffer.mDataBufferLock ∧ x.holdsData = (s.pc p).holdsData) ∨
      (s.buffer.mDataBufferLock = none ∧ b.mDataBufferLock = some p ∧ x.holdsData) ∨
      ((s.pc p).holdsData ∧ b.mDataBufferLock = none ∧ x.holdsData = false))
    (hown : x.waits → b.event p = false → b.avail p = 0 ∨ (s.pc p.other).signals)
    (hevent : b.event p.other = false → s.buffer.event p.other = false ∧
      (x.signals ∨ b.avail p.other = s.buffer.avail p.other ∧ (s.pc p).signals = false)) :
    CountInv (s.after p (x, b)) where
  nonneg q := by
    rcases p.eq_or_other q with rfl | rfl
    · exact hp.1
    · exact (h.nonneg _).trans hother
  claims q hq := by
    rcases p.eq_or_other q with rfl | rfl
    · exact hp.2 (by simpa [CircularSystem.after] using hq)
    · exact (h.claims _ (by simpa [CircularSystem.after] using hq)).trans_le hother
  data q := by
    have hmine := h.data p
    have hother := h.data p.other
    rcases p.eq_or_other q with rfl | rfl
    · simp only [CircularSystem.after, Function.update_self]
      rcases hdata with ⟨h₁, h₂⟩ | ⟨-, h₁, h₂⟩ | ⟨-, h₁, h₂⟩
      · rw [h₁, h₂, hmine]
      · simp [h₁, h₂]
      · simp [h₁, h₂]
    · simp only [CircularSystem.after, ne_eq, Side.other_ne, not_false_eq_true,
        Function.update_of_ne]
      rw [← hother]
      rcases hdata with ⟨h₁, -⟩ | ⟨h₁, h₂, -⟩ | ⟨h₁, h₂, -⟩
      · rw [h₁]
      · simp [h₁, h₂]
      · simp [h₂, hmine.mpr h₁]
  event q hw he := by
    rcases p.eq_or_other q with rfl | rfl
    · simp only [CircularSystem.after, Function.update_self, ne_eq, Side.other_ne,
        not_false_eq_true, Function.update_of_ne] at hw he ⊢
      exact hown hw he
    · simp only [CircularSystem.after, Function.update_self, ne_eq, Side.other_ne,
        not_false_eq_true, Function.update_of_ne, Side.other_other] at hw he ⊢
      obtain ⟨hs, hsig | ⟨hav, hsig⟩⟩ := hevent he
      · exact .inr hsig
      · have := h.event _ hw hs
        simp only [Side.other_other, hsig, Bool.false_eq_true, or_false] at this
        exact .inl (hav ▸ this)

/-- **Every step of a thread keeps the data lock, the count and the events in order.** -/
theorem CountInv.step (h : CountInv s) (hm : BufferMoves data p s s') : CountInv s' := by
  have hn := h.nonneg p
  have hc := h.claims p
  have hd := h.data p
  have he := h.event p
  cases hm with
  | lockData hpc hfree =>
      rw [hpc] at hc hd
      exact h.after ⟨hn, nofun⟩ le_rfl (.inr (.inl ⟨hfree, rfl, rfl⟩)) nofun
        (fun hs => ⟨hs, .inr ⟨rfl, by rw [hpc]; rfl⟩⟩)
  | checkWait hpc hblock =>
      exact h.after ⟨hn, nofun⟩ le_rfl (.inl ⟨rfl, by rw [hpc]; rfl⟩)
        (fun _ _ => .inl ((blocked_iff _ _).mp hblock))
        (fun hs => ⟨hs, .inr ⟨rfl, by rw [hpc]; rfl⟩⟩)
  | check hpc hroom =>
      have hpos : s.buffer.avail p ≠ 0 := fun h0 => hroom ((blocked_iff _ _).mpr h0)
      exact h.after ⟨hn, fun _ => by omega⟩ le_rfl (.inl ⟨rfl, by rw [hpc]; rfl⟩) nofun
        (fun hs => ⟨hs, .inr ⟨rfl, by rw [hpc]; rfl⟩⟩)
  | unlockWait hpc =>
      rw [hpc] at he
      exact h.after ⟨hn, nofun⟩ le_rfl (.inr (.inr ⟨by rw [hpc]; rfl, rfl, rfl⟩))
        (fun _ hs => he rfl hs) (fun hs => ⟨hs, .inr ⟨rfl, by rw [hpc]; rfl⟩⟩)
  | wait hpc hset =>
      exact h.after ⟨hn, nofun⟩ le_rfl (.inl ⟨rfl, by rw [hpc]; rfl⟩) nofun
        (fun hs => ⟨hs, .inr ⟨rfl, by rw [hpc]; rfl⟩⟩)
  | lockFrame hpc hfree =>
      rw [hpc] at hc
      exact h.after ⟨hn, fun _ => hc rfl⟩ le_rfl (.inl ⟨rfl, by rw [hpc]; rfl⟩) nofun
        (fun hs => ⟨hs, .inr ⟨rfl, by rw [hpc]; rfl⟩⟩)
  | setCurrent hpc =>
      rw [hpc] at hc
      exact h.after ⟨hn, fun _ => hc rfl⟩ le_rfl (.inl ⟨rfl, by rw [hpc]; rfl⟩) nofun
        (fun hs => ⟨hs, .inr ⟨rfl, by rw [hpc]; rfl⟩⟩)
  | moveIndex hpc =>
      rw [hpc] at hc
      exact h.after ⟨hn, fun _ => hc rfl⟩ le_rfl (.inl ⟨rfl, by rw [hpc]; rfl⟩) nofun
        (fun hs => ⟨hs, .inr ⟨rfl, by rw [hpc]; rfl⟩⟩)
  | setCount hpc =>
      rw [hpc] at hc
      have hpos := hc rfl
      obtain ⟨h₁, h₂⟩ := avail_recount (p := p) (b := s.buffer)
        (c := { s.buffer with mCircBufferCount := p.recount s.buffer.mCircBufferCount }) rfl rfl
      exact h.after ⟨h₁ ▸ by omega, nofun⟩ (h₂ ▸ by omega) (.inl ⟨rfl, by rw [hpc]; rfl⟩) nofun
        (fun hs => ⟨hs, .inl rfl⟩)
  | checkClear hpc hblock =>
      exact h.after ⟨hn, nofun⟩ le_rfl (.inl ⟨rfl, by rw [hpc]; rfl⟩) nofun
        (fun hs => ⟨hs, .inl rfl⟩)
  | checkKeep hpc hroom =>
      exact h.after ⟨hn, nofun⟩ le_rfl (.inl ⟨rfl, by rw [hpc]; rfl⟩) nofun
        (fun hs => ⟨hs, .inl rfl⟩)
  | clearEvent hpc =>
      exact h.after ⟨hn, nofun⟩ le_rfl (.inl ⟨rfl, by rw [hpc]; rfl⟩) nofun
        (fun hs => ⟨by simpa using hs, .inl rfl⟩)
  | unlockData hpc =>
      exact h.after ⟨hn, nofun⟩ le_rfl (.inr (.inr ⟨by rw [hpc]; rfl, rfl, rfl⟩)) nofun
        (fun hs => ⟨hs, .inl rfl⟩)
  | fill hp hpc =>
      subst hp
      exact h.after (b := (s.fill data).buffer) (x := .unlockFrame) ⟨hn, nofun⟩ le_rfl
        (.inl ⟨rfl, by rw [hpc]; rfl⟩) nofun (fun hs => ⟨hs, .inl rfl⟩)
  | process hp hpc =>
      subst hp
      have h' := h.after (b := s.buffer) (x := .unlockFrame) ⟨hn, nofun⟩ le_rfl
        (.inl ⟨rfl, by rw [hpc]; rfl⟩) nofun (fun hs => ⟨hs, .inl rfl⟩)
      exact ⟨h'.nonneg, h'.claims, h'.data, h'.event⟩
  | unlockFrame hpc =>
      have h' := h.after (x := .setEvent) (b := { s.buffer with
          mLocks := Function.update s.buffer.mLocks (s.buffer.current p) none })
        ⟨hn, nofun⟩ le_rfl (.inl ⟨rfl, by rw [hpc]; rfl⟩) nofun (fun hs => ⟨hs, .inl rfl⟩)
      exact ⟨h'.nonneg, h'.claims, h'.data, h'.event⟩
  | setEvent hpc =>
      exact h.after ⟨hn, nofun⟩ le_rfl (.inl ⟨rfl, by rw [hpc]; rfl⟩) nofun
        (fun hs => by simp at hs)

end Count

section Frames

variable {α : Type*} {data : ℕ → α} {p : Side} {s s' : CircularSystem α}

/-- The frames the thread has taken, as far as they are in the count. -/
def CircularSystem.taken (s : CircularSystem α) (p : Side) : ℕ :=
  s.ended p + (s.pc p).counted.toNat

/-- The index, the locks and the frame of one thread. -/
structure ThreadFrame (b : AJACircularBuffer α) (q : Side) (pc : BufferPc) (ended : ℕ) :
    Prop where
  index : b.index q = (ended + pc.counted.toNat + pc.moved.toNat) % b.size
  locks : ∀ i, b.mLocks i = some q ↔ pc.holdsFrame ∧ i = ended % b.size
  current : pc.usesFrame → b.current q = ended % b.size

/-- The indices and the locks of the frames. -/
structure FrameInv (s : CircularSystem α) : Prop where
  size : 0 < s.buffer.size
  count : (s.taken .producer : ℤ) = s.taken .consumer + s.buffer.mCircBufferCount
  thread : ∀ q, ThreadFrame s.buffer q (s.pc q) (s.ended q)

/-- What a step of one thread has to keep to. -/
lemma FrameInv.after (h : FrameInv s) {pc : BufferPc} {b : AJACircularBuffer α}
    (hsize : b.size = s.buffer.size)
    (hcount : ((s.after p (pc, b)).taken .producer : ℤ) =
      (s.after p (pc, b)).taken .consumer + b.mCircBufferCount)
    (hmine : ThreadFrame b p pc (s.ended p))
    (hindex : b.index p.other = s.buffer.index p.other)
    (hlocks : ∀ i, b.mLocks i = some p.other ↔ s.buffer.mLocks i = some p.other)
    (hcurrent : b.current p.other = s.buffer.current p.other) : FrameInv (s.after p (pc, b)) where
  size := hsize ▸ h.size
  count := hcount
  thread q := by
    rcases p.eq_or_other q with rfl | rfl
    · simpa [CircularSystem.after] using hmine
    · have hq := h.thread p.other
      simp only [CircularSystem.after, ne_eq, Side.other_ne, not_false_eq_true,
        Function.update_of_ne]
      refine ⟨?_, fun i => ?_, fun hu => ?_⟩
      · rw [hindex, hsize, hq.index]
      · rw [hlocks, hsize, hq.locks]
      · rw [hcurrent, hsize, hq.current hu]

/-- The counts agree as long as the thread stays in or out of the count. -/
lemma taken_after {pc : BufferPc} {b : AJACircularBuffer α}
    (hpc : pc.counted = (s.pc p).counted) (q : Side) : (s.after p (pc, b)).taken q = s.taken q := by
  rcases p.eq_or_other q with rfl | rfl
  · simp [CircularSystem.taken, CircularSystem.after, hpc]
  · simp [CircularSystem.taken, CircularSystem.after]

/-- A step that leaves the indices and the frames alone. -/
lemma FrameInv.quiet (h : FrameInv s) {x : BufferPc} {b : AJACircularBuffer α}
    (hsize : b.size = s.buffer.size) (hcount : b.mCircBufferCount = s.buffer.mCircBufferCount)
    (hpc : x.counted = (s.pc p).counted) (hmine : ThreadFrame b p x (s.ended p))
    (hindex : b.index p.other = s.buffer.index p.other)
    (hlocks : ∀ i, b.mLocks i = some p.other ↔ s.buffer.mLocks i = some p.other)
    (hcurrent : b.current p.other = s.buffer.current p.other) : FrameInv (s.after p (x, b)) := by
  refine h.after hsize ?_ hmine hindex hlocks hcurrent
  rw [taken_after hpc, taken_after hpc, hcount]
  exact h.count

/-- The thread releases its frame. -/
lemma FrameInv.unlockFrame (h : FrameInv s) (hpc : s.pc p = .unlockFrame) :
    FrameInv ((s.release p).after p (.setEvent, { s.buffer with
      mLocks := Function.update s.buffer.mLocks (s.buffer.current p) none })) := by
  have hp := h.thread p
  rw [hpc] at hp
  have hcurrent : s.buffer.current p = s.ended p % s.buffer.size := hp.current rfl
  have htaken : ∀ q, ((s.release p).after p (.setEvent, { s.buffer with
      mLocks := Function.update s.buffer.mLocks (s.buffer.current p) none })).taken q =
        s.taken q := by
    intro q
    rcases p.eq_or_other q with rfl | rfl
    · simp [CircularSystem.taken, CircularSystem.after, CircularSystem.release, hpc,
        BufferPc.counted]
    · simp [CircularSystem.taken, CircularSystem.after, CircularSystem.release]
  refine ⟨h.size, ?_, fun q => ?_⟩
  · rw [htaken, htaken]
    exact h.count
  rcases p.eq_or_other q with rfl | rfl
  · simp only [CircularSystem.after, CircularSystem.release, Function.update_self]
    refine ⟨hp.index, fun i => ?_, nofun⟩
    by_cases hi : i = s.ended q % s.buffer.size
    · simp [hi, hcurrent, BufferPc.holdsFrame]
    · simp [hi, hcurrent, hp.locks i, BufferPc.holdsFrame]
  · have hq := h.thread p.other
    simp only [CircularSystem.after, CircularSystem.release, ne_eq, Side.other_ne,
      not_false_eq_true, Function.update_of_ne]
    refine ⟨hq.index, fun i => ?_, hq.current⟩
    rw [← hq.locks i]
    by_cases hi : i = s.buffer.current p
    · have hmine : s.buffer.mLocks i = some p := (hp.locks i).mpr ⟨rfl, hi.trans hcurrent⟩
      simp [← hi, hmine]
    · simp [hi]

/-- Every step of a thread keeps its index and its frame in order, with the other thread's. -/
theorem FrameInv.step (h : FrameInv s) (hm : BufferMoves data p s s') : FrameInv s' := by
  have hp := h.thread p
  cases hm with
  | lockData hpc hfree =>
      rw [hpc] at hp
      exact h.quiet rfl rfl (by rw [hpc]; rfl) ⟨hp.index, hp.locks, nofun⟩ rfl (fun _ => .rfl) rfl
  | checkWait hpc hblock =>
      rw [hpc] at hp
      exact h.quiet rfl rfl (by rw [hpc]; rfl) ⟨hp.index, hp.locks, nofun⟩ rfl (fun _ => .rfl) rfl
  | check hpc hroom =>
      rw [hpc] at hp
      exact h.quiet rfl rfl (by rw [hpc]; rfl) ⟨hp.index, hp.locks, nofun⟩ rfl (fun _ => .rfl) rfl
  | unlockWait hpc =>
      rw [hpc] at hp
      exact h.quiet rfl rfl (by rw [hpc]; rfl) ⟨hp.index, hp.locks, nofun⟩ rfl (fun _ => .rfl) rfl
  | wait hpc hset =>
      rw [hpc] at hp
      exact h.quiet rfl rfl (by rw [hpc]; rfl) ⟨hp.index, hp.locks, nofun⟩ rfl (fun _ => .rfl) rfl
  | lockFrame hpc hfree =>
      rw [hpc] at hp
      have hindex : s.buffer.index p = s.ended p % s.buffer.size := hp.index
      refine h.quiet rfl rfl (by rw [hpc]; rfl) ⟨hp.index, fun i => ?_, nofun⟩ rfl (fun i => ?_) rfl
      · rw [hindex] at hfree ⊢
        by_cases hi : i = s.ended p % s.buffer.size
        · simp [hi, BufferPc.holdsFrame]
        · simp [hi, hp.locks i, BufferPc.holdsFrame]
      · by_cases hi : i = s.buffer.index p
        · simp [hi, hfree]
        · simp [hi]
  | setCurrent hpc =>
      rw [hpc] at hp
      refine h.quiet rfl rfl (by rw [hpc]; rfl) ⟨hp.index, hp.locks, fun _ => ?_⟩ rfl
        (fun _ => .rfl) (by simp)
      exact (Function.update_self ..).trans hp.index
  | moveIndex hpc =>
      rw [hpc] at hp
      refine h.quiet rfl rfl (by rw [hpc]; rfl) ⟨?_, hp.locks, hp.current⟩ (by simp)
        (fun _ => .rfl) rfl
      have hindex : s.buffer.index p = s.ended p % s.buffer.size := hp.index
      simp [hindex, BufferPc.counted, BufferPc.moved]
  | setCount hpc =>
      rw [hpc] at hp
      refine h.after rfl ?_ ⟨hp.index, hp.locks, hp.current⟩ rfl (fun _ => .rfl) rfl
      have hcount := h.count
      cases p with
      | producer =>
          simp only [CircularSystem.taken, CircularSystem.after, hpc, Side.recount,
            BufferPc.counted, Function.update_self, ne_eq, reduceCtorEq, not_false_eq_true,
            Function.update_of_ne, Bool.toNat_true, Bool.toNat_false] at hcount ⊢
          omega
      | consumer =>
          simp only [CircularSystem.taken, CircularSystem.after, hpc, Side.recount,
            BufferPc.counted, Function.update_self, ne_eq, reduceCtorEq, not_false_eq_true,
            Function.update_of_ne, Bool.toNat_true, Bool.toNat_false] at hcount ⊢
          omega
  | checkClear hpc hblock =>
      rw [hpc] at hp
      exact h.quiet rfl rfl (by rw [hpc]; rfl) ⟨hp.index, hp.locks, hp.current⟩ rfl
        (fun _ => .rfl) rfl
  | checkKeep hpc hroom =>
      rw [hpc] at hp
      exact h.quiet rfl rfl (by rw [hpc]; rfl) ⟨hp.index, hp.locks, hp.current⟩ rfl
        (fun _ => .rfl) rfl
  | clearEvent hpc =>
      rw [hpc] at hp
      exact h.quiet rfl rfl (by rw [hpc]; rfl) ⟨hp.index, hp.locks, hp.current⟩ rfl
        (fun _ => .rfl) rfl
  | unlockData hpc =>
      rw [hpc] at hp
      exact h.quiet rfl rfl (by rw [hpc]; rfl) ⟨hp.index, hp.locks, hp.current⟩ rfl
        (fun _ => .rfl) rfl
  | fill hside hpc =>
      subst hside
      rw [hpc] at hp
      exact h.quiet (b := (s.fill data).buffer) rfl rfl (by rw [hpc]; rfl)
        ⟨hp.index, hp.locks, hp.current⟩ rfl (fun _ => .rfl) rfl
  | process hside hpc =>
      subst hside
      rw [hpc] at hp
      have h' := h.quiet (b := s.buffer) (x := .unlockFrame) rfl rfl (by rw [hpc]; rfl)
        ⟨hp.index, hp.locks, hp.current⟩ rfl (fun _ => .rfl) rfl
      exact ⟨h'.size, h'.count, h'.thread⟩
  | unlockFrame hpc =>
      exact h.unlockFrame hpc
  | setEvent hpc =>
      rw [hpc] at hp
      exact h.quiet rfl rfl (by rw [hpc]; rfl) ⟨hp.index, hp.locks, nofun⟩ rfl (fun _ => .rfl) rfl

/-- The two threads have different frames. -/
lemma FrameInv.apart (h : FrameInv s) (hP : (s.pc .producer).holdsFrame)
    (hC : (s.pc .consumer).holdsFrame) :
    s.ended .producer % s.buffer.size ≠ s.ended .consumer % s.buffer.size := by
  intro heq
  have h₁ := ((h.thread .producer).locks _).mpr ⟨hP, rfl⟩
  have h₂ := ((h.thread .consumer).locks _).mpr ⟨hC, rfl⟩
  rw [heq, h₂] at h₁
  cases h₁

/-- The producer is at most one round ahead of the consumer. -/
lemma FrameInv.round (h : FrameInv s) (hc : CountInv s) :
    s.taken .consumer ≤ s.taken .producer ∧
      s.taken .producer ≤ s.taken .consumer + s.buffer.size := by
  have h₁ := h.count
  have h₂ := hc.nonneg .producer
  have h₃ := hc.nonneg .consumer
  simp only [AJACircularBuffer.avail] at h₂ h₃
  omega

lemma BufferPc.holdsFrame_of_counted {pc : BufferPc} (h : pc.counted) : pc.holdsFrame := by
  revert h
  cases pc <;> decide

lemma BufferPc.claims_or_counted {pc : BufferPc} (h : pc.holdsFrame) :
    pc.claims ∧ pc.counted = false ∨ pc.counted := by
  revert h
  cases pc <;> decide

/-- The consumer has no frame that the producer has not released. -/
lemma FrameInv.handed (h : FrameInv s) (hc : CountInv s) (hC : (s.pc .consumer).holdsFrame) :
    s.ended .consumer < s.ended .producer := by
  have hlt : s.ended .consumer < s.taken .producer := by
    rcases BufferPc.claims_or_counted hC with ⟨hclaims, hcounted⟩ | hcounted
    · have h₁ := h.count
      have h₂ := hc.claims .consumer hclaims
      simp only [AJACircularBuffer.avail, CircularSystem.taken, hcounted, Bool.toNat_false] at h₁ h₂ ⊢
      omega
    · have h₁ := (h.round hc).1
      simp only [CircularSystem.taken, hcounted, Bool.toNat_true] at h₁ ⊢
      omega
  by_contra hle
  cases hP : (s.pc .producer).counted with
  | false =>
      simp only [CircularSystem.taken, hP, Bool.toNat_false] at hlt
      omega
  | true =>
      refine h.apart (BufferPc.holdsFrame_of_counted hP) hC ?_
      simp only [CircularSystem.taken, hP, Bool.toNat_true] at hlt
      rw [show s.ended .producer = s.ended .consumer by omega]

/-- The producer does not fill a frame that holds data for the consumer. -/
lemma FrameInv.fill_apart (h : FrameInv s) (hc : CountInv s) (hP : s.pc .producer = .work) {k : ℕ}
    (hk : s.ended .consumer ≤ k) (hlt : k < s.ended .producer) :
    k % s.buffer.size ≠ s.ended .producer % s.buffer.size := by
  intro heq
  have hround := (h.round hc).2
  have hdvd : s.buffer.size ∣ s.ended .producer - k := (Nat.modEq_iff_dvd' hlt.le).mp heq
  have hle : s.buffer.size ≤ s.ended .producer - k := Nat.le_of_dvd (by omega) hdvd
  have hP' : (s.pc .producer).counted = true := by
    rw [hP]
    rfl
  cases hC : (s.pc .consumer).counted with
  | false =>
      simp only [CircularSystem.taken, hP', hC, Bool.toNat_true, Bool.toNat_false] at hround
      omega
  | true =>
      refine h.apart (by rw [hP]; rfl) (BufferPc.holdsFrame_of_counted hC) ?_
      simp only [CircularSystem.taken, hP', hC, Bool.toNat_true] at hround
      rw [← heq, show k = s.ended .consumer by omega]

end Frames

/-! ### What is in the frames -/

section Contents

variable {α : Type*} {data : ℕ → α} {p : Side} {s s' : CircularSystem α}

/-- What the frames and the consumer hold. -/
structure ContentInv (data : ℕ → α) (s : CircularSystem α) : Prop where
  frames : ∀ k, s.ended .consumer ≤ k →
    k < s.ended .producer + (s.pc .producer).worked.toNat →
    s.buffer.mFrames (k % s.buffer.size) = some (data k)
  length : s.received.length = s.ended .consumer + (s.pc .consumer).worked.toNat
  received : s.received = (List.range s.received.length).map fun k => some (data k)
  inTime : s.received.length ≤ s.ended .producer

/-- A step that is not about the contents of a frame. -/
lemma ContentInv.quiet (h : ContentInv data s) {pc : BufferPc} {b : AJACircularBuffer α}
    (hsize : b.size = s.buffer.size) (hframes : b.mFrames = s.buffer.mFrames)
    (hpc : pc.worked = (s.pc p).worked) :
    ContentInv data (s.after p (pc, b)) := by
  have hpcs : ∀ q, ((s.after p (pc, b)).pc q).worked = (s.pc q).worked := by
    intro q
    rcases p.eq_or_other q with rfl | rfl
    · simp [CircularSystem.after, hpc]
    · simp [CircularSystem.after]
  refine ⟨fun k hk hlt => ?_, ?_, h.received, h.inTime⟩
  · rw [hpcs] at hlt
    simp only [CircularSystem.after, hsize, hframes]
    exact h.frames k hk hlt
  · rw [hpcs]
    exact h.length

/-- The producer fills a frame that holds nothing for the consumer. -/
lemma ContentInv.fill (h : ContentInv data s) (hc : CountInv s) (hf : FrameInv s)
    (hpc : s.pc .producer = .work) : ContentInv data (s.fill data) := by
  have hcurrent : s.buffer.current .producer = s.ended .producer % s.buffer.size :=
    (hf.thread .producer).current (by rw [hpc]; rfl)
  refine ⟨fun k hk hlt => ?_, ?_, h.received, h.inTime⟩
  · simp only [CircularSystem.fill, hcurrent, Function.update_self, BufferPc.worked,
      Bool.toNat_true] at hk hlt ⊢
    by_cases hlast : k = s.ended .producer
    · rw [hlast, Function.update_self]
    · rw [Function.update_of_ne (hf.fill_apart hc hpc hk (by omega))]
      exact h.frames k hk (by omega)
  · simpa [CircularSystem.fill] using h.length

/-- The consumer finds in its frame the data that comes next. -/
lemma ContentInv.process (h : ContentInv data s) (hc : CountInv s) (hf : FrameInv s)
    (hpc : s.pc .consumer = .work) : ContentInv data s.process := by
  have hcurrent : s.buffer.current .consumer = s.ended .consumer % s.buffer.size :=
    (hf.thread .consumer).current (by rw [hpc]; rfl)
  have hlt : s.ended .consumer < s.ended .producer := hf.handed hc (by rw [hpc]; rfl)
  have hlen : s.received.length = s.ended .consumer := by simpa [hpc, BufferPc.worked] using h.length
  have hfound : s.buffer.mFrames (s.buffer.current .consumer) = some (data s.received.length) := by
    rw [hcurrent, hlen]
    exact h.frames _ le_rfl (by omega)
  refine ⟨fun k hk hlt => ?_, ?_, ?_, ?_⟩
  · exact h.frames k hk (by simpa [CircularSystem.process] using hlt)
  · simp [CircularSystem.process, hlen, BufferPc.worked]
  · simp only [CircularSystem.process, List.length_append, List.length_singleton, List.range_succ,
      List.map_append, List.map_singleton, hfound, ← h.received]
  · simp only [CircularSystem.process, List.length_append, List.length_singleton, hlen]
    omega

/-- A thread releases its frame. -/
lemma ContentInv.unlockFrame (h : ContentInv data s) (hpc : s.pc p = .unlockFrame)
    (mLocks : ℕ → Option Side) :
    ContentInv data ((s.release p).after p (.setEvent, { s.buffer with mLocks := mLocks })) := by
  have hlen := h.length
  have hin := h.inTime
  cases p with
  | producer =>
      refine ⟨fun k hk hlt => h.frames k ?_ ?_, ?_, h.received, ?_⟩
      · simpa [CircularSystem.after, CircularSystem.release] using hk
      · simpa [CircularSystem.after, CircularSystem.release, hpc, BufferPc.worked] using hlt
      · simpa [CircularSystem.after, CircularSystem.release] using hlen
      · simp only [CircularSystem.after, CircularSystem.release, Function.update_self]
        omega
  | consumer =>
      refine ⟨fun k hk hlt => h.frames k ?_ ?_, ?_, h.received, ?_⟩
      · simp only [CircularSystem.after, CircularSystem.release, Function.update_self] at hk
        omega
      · simpa [CircularSystem.after, CircularSystem.release] using hlt
      · simpa [CircularSystem.after, CircularSystem.release, hpc, BufferPc.worked] using hlen
      · simpa [CircularSystem.after, CircularSystem.release] using hin

/-- Every step of a thread keeps the contents in order. -/
theorem ContentInv.step (h : ContentInv data s) (hc : CountInv s) (hf : FrameInv s)
    (hm : BufferMoves data p s s') : ContentInv data s' := by
  cases hm with
  | fill hside hpc => exact h.fill hc hf hpc
  | process hside hpc => exact h.process hc hf hpc
  | unlockFrame hpc => exact h.unlockFrame hpc _
  | _ => exact h.quiet rfl rfl (by simp [*, BufferPc.worked])

end Contents

section Main

variable {α : Type*} {data : ℕ → α}

/-- The thread has been given the frame at the index and has not yet released it. -/
def CircularSystem.Holds (s : CircularSystem α) (p : Side) (i : ℕ) : Prop :=
  (s.pc p).usesFrame ∧ s.buffer.current p = i

/-- Frames are handed over as they should be. -/
structure HandsOver (data : ℕ → α) (s : CircularSystem α) : Prop where
  inOrder : s.received = (List.range s.received.length).map fun k => some (data k)
  afterEnd : s.received.length ≤ s.ended .producer
  released : ∀ i, s.Holds .consumer i →
    s.ended .consumer < s.ended .producer ∧ s.buffer.mFrames i = some (data (s.ended .consumer))
  apart : ∀ i, ¬ (s.Holds .producer i ∧ s.Holds .consumer i)
  count : 0 ≤ s.buffer.mCircBufferCount ∧ s.buffer.mCircBufferCount ≤ s.buffer.size
  notBlocked : ∃ p, (s.step data p).isSome

/-- What holds in every reachable state. -/
structure CircularInv (data : ℕ → α) (s : CircularSystem α) : Prop where
  count : CountInv s
  frames : FrameInv s
  contents : ContentInv data s

lemma circularInv_start {size : ℕ} (hsize : 0 < size) (mFrames : ℕ → Option α) :
    CircularInv data (CircularSystem.start size mFrames) where
  count :=
    { nonneg := by intro q; cases q <;> simp [CircularSystem.start, AJACircularBuffer.avail]
      claims := nofun
      data := by intro q; simp [CircularSystem.start, BufferPc.holdsData]
      event := nofun }
  frames :=
    { size := hsize
      count := rfl
      thread := fun q =>
        ⟨(Nat.zero_mod _).symm, by simp [CircularSystem.start, BufferPc.holdsFrame], nofun⟩ }
  contents :=
    { frames := fun k _ hlt => absurd hlt (Nat.not_lt_zero k)
      length := rfl
      received := rfl
      inTime := le_rfl }

lemma CircularInv.turn {s : CircularSystem α} (h : CircularInv data s) (p : Side) :
    CircularInv data (s.turn data p) := by
  rw [CircularSystem.turn]
  cases hs : s.step data p with
  | none => exact h
  | some s' =>
      have hm := moves_of_step hs
      exact ⟨h.count.step hm, h.frames.step hm, h.contents.step h.count h.frames hm⟩

/-- A blocked thread waits for the data lock, for its event or for a frame, has no frame, and
does not have to set the event of the other thread. -/
lemma CircularInv.blocked {s : CircularSystem α} (h : CircularInv data s) {p : Side}
    (hp : s.step data p = none) :
    (s.pc p = .lockData ∧ (s.pc p.other).holdsData ∨
      s.pc p = .wait ∧ s.buffer.event p = false ∨
      s.pc p = .lockFrame ∧ (s.pc p.other).holdsFrame) ∧
    (s.pc p).holdsFrame = false ∧ (s.pc p).signals = false := by
  rcases blocked_cases hp with ⟨hpc, hlock⟩ | ⟨hpc, hevent⟩ | ⟨hpc, hlock⟩
  · refine ⟨.inl ⟨hpc, ?_⟩, by rw [hpc]; rfl, by rw [hpc]; rfl⟩
    obtain ⟨q, hq⟩ := Option.ne_none_iff_exists'.mp hlock
    have hholds := (h.count.data q).mp hq
    rcases p.eq_or_other q with rfl | rfl
    · rw [hpc] at hholds
      cases hholds
    · exact hholds
  · exact ⟨.inr (.inl ⟨hpc, hevent⟩), by rw [hpc]; rfl, by rw [hpc]; rfl⟩
  · refine ⟨.inr (.inr ⟨hpc, ?_⟩), by rw [hpc]; rfl, by rw [hpc]; rfl⟩
    obtain ⟨q, hq⟩ := Option.ne_none_iff_exists'.mp hlock
    have hholds := (((h.frames.thread q).locks _).mp hq).1
    rcases p.eq_or_other q with rfl | rfl
    · rw [hpc] at hholds
      cases hholds
    · exact hholds

/-- The two threads do not block each other. -/
lemma CircularInv.notBlocked {s : CircularSystem α} (h : CircularInv data s) :
    ∃ p, (s.step data p).isSome := by
  by_contra hall
  have hnone : ∀ p, s.step data p = none := by
    intro p
    by_contra hp
    exact hall ⟨p, Option.isSome_iff_ne_none.mpr hp⟩
  -- a lock that a blocked thread waits for is held by the other thread, which waits for its event
  have hwait : ∀ p, s.pc p = .wait ∧ s.buffer.event p = false := by
    intro p
    obtain ⟨hp, -, -⟩ := h.blocked (hnone p)
    obtain ⟨hq, hframe, -⟩ := h.blocked (hnone p.other)
    rcases hp with ⟨hpc, hdata⟩ | hp | ⟨-, hholds⟩
    · rw [Side.other_other, hpc] at hq
      rcases hq with ⟨hqpc, -⟩ | ⟨hqpc, -⟩ | ⟨-, hholds⟩
      · rw [hqpc] at hdata
        cases hdata
      · rw [hqpc] at hdata
        cases hdata
      · cases hholds
    · exact hp
    · rw [hholds] at hframe
      cases hframe
  have hzero : ∀ p, s.buffer.avail p = 0 := by
    intro p
    rcases h.count.event p (by rw [(hwait p).1]; rfl) (hwait p).2 with hzero | hsignals
    · exact hzero
    · rw [(h.blocked (hnone p.other)).2.2] at hsignals
      cases hsignals
  have hP := hzero .producer
  have hC := hzero .consumer
  have hsize := h.frames.size
  simp only [AJACircularBuffer.avail] at hP hC
  omega

/-- A thread that has been given a frame has locked it. -/
lemma CircularInv.holds_lock {s : CircularSystem α} (h : CircularInv data s) {p : Side} {i : ℕ}
    (hi : s.Holds p i) : s.buffer.mLocks i = some p ∧ i = s.ended p % s.buffer.size := by
  obtain ⟨huses, hcurrent⟩ := hi
  have hholds : (s.pc p).holdsFrame := by
    revert huses
    cases s.pc p <;> decide
  have heq := hcurrent ▸ (h.frames.thread p).current huses
  exact ⟨((h.frames.thread p).locks i).mpr ⟨hholds, heq⟩, heq⟩

lemma CircularInv.handsOver {s : CircularSystem α} (h : CircularInv data s) :
    HandsOver data s where
  inOrder := h.contents.received
  afterEnd := h.contents.inTime
  released i hi := by
    obtain ⟨hlock, heq⟩ := h.holds_lock hi
    have hlt := h.frames.handed h.count (((h.frames.thread .consumer).locks i).mp hlock).1
    exact ⟨hlt, heq ▸ h.contents.frames _ le_rfl (by omega)⟩
  apart i hi := by
    have hP := (h.holds_lock hi.1).1
    rw [(h.holds_lock hi.2).1] at hP
    cases hP
  count := by
    have hP := h.count.nonneg .producer
    have hC := h.count.nonneg .consumer
    simp only [AJACircularBuffer.avail] at hP hC
    omega
  notBlocked := h.notBlocked

/-- **Frames are handed over as they should be under every interleaving of the two threads.** -/
theorem frames_handed_over {size : ℕ} (hsize : 0 < size) (mFrames : ℕ → Option α)
    {s : CircularSystem α}
    (hrun : RunsTo (CircularSystem.turn data) (fun _ _ => True) (.start size mFrames) s) :
    HandsOver data s :=
  (hrun.invariant (circularInv_start hsize mFrames) fun _ p _ h => h.turn p).handsOver

/-- Two frames through a buffer of two, with the threads taking turns. -/
theorem frames_handed_over_inTurns :
    let s := (List.replicate 33 [Side.producer, Side.consumer]).flatten.foldl
      (CircularSystem.turn fun k => k) (.start 2 fun _ => none)
    HandsOver (fun k => k) s ∧ s.received = [some 0, some 1] :=
  ⟨frames_handed_over (by decide) (fun _ => none)
    (RunsTo.foldl (.of_forall fun _ _ => trivial)), by decide +kernel⟩

end Main

end LibAjaNtv2
