import LibAjaNtv2.AutoCirc.Single

/-!
The ring of a capture channel.

* `Ready`: a frame that has been captured and not been transferred;
* `CaptureLog`: when each frame became ready, and what has been delivered;
* `runningRecord_spec`: what an interrupt of a running capture channel does;
* `CapturePlace`, `CaptureOrder`: the frames ready became so in the order in which a
  transfer comes to them;
* `CapturePlace.tick`, `CapturePlace.shrink`: the interrupt, and everything else;
* `capture_ring`: **no ready frame is captured over, and transfers deliver the oldest
  first, each once**.
-/

namespace LibAjaNtv2

open NTV2AutoCirculateState

/-- The frame has been captured, and not been transferred or flushed since. -/
def Ready (a : InternalAutoCirculate) (f : Int) : Prop := 0 < (a.frameStamp f).validCount

instance (a : InternalAutoCirculate) (f : Int) : Decidable (Ready a f) :=
  inferInstanceAs (Decidable (_ < _))

/-! ### What is recorded along a run -/

/-- What is recorded of a capture channel along a run. -/
structure CaptureLog where
  /-- `AutoCircStart` has succeeded. -/
  started : Bool
  /-- The number of interrupts. -/
  clock : ℕ
  /-- When each frame last became ready: twice the number of the interrupt, and one more
  for the frame that is active from that interrupt on. -/
  mark : Int → ℕ
  /-- The mark of the frame the transfer in progress has found ready. -/
  taken : Option ℕ
  /-- The marks of the frames delivered. -/
  delivered : List ℕ

/-- Nothing has happened. -/
def CaptureLog.empty : CaptureLog := ⟨false, 0, fun _ => 0, none, []⟩

/-- The record after an event, which has led from one state of the channel to the next. -/
def CaptureLog.step (g : CaptureLog) (l l' : Local) (e : ChannelEvent) : CaptureLog where
  started :=
    match e with
    | .start _ => g.started || l.pAuto.state == init
    | _ => g.started
  clock :=
    match e with
    | .tick _ => g.clock + 1
    | _ => g.clock
  mark f :=
    if ¬ Ready l.pAuto f ∧ Ready l'.pAuto f then
      2 * g.clock + if f = l'.pAuto.activeFrame then 1 else 0
    else g.mark f
  taken :=
    match e with
    | .beginTransfer _ _ =>
        if transferNotReady l.pAuto then none else (availFrame l.pAuto).map g.mark
    | .completeTransfer _ _ | .abandon => none
    | _ => g.taken
  delivered :=
    match e with
    | .completeTransfer true _ => g.delivered ++ g.taken.toList
    | _ => g.delivered

/-- A capture channel with its record. -/
structure Capture where
  chan : Channel
  log : CaptureLog

/-- A capture channel with its record, after an event. -/
def Capture.step (spec : NTV2Crosspoint) (c : Capture) (e : ChannelEvent) : Capture where
  chan := c.chan.step spec e
  log := c.log.step (c.chan.view spec) ((c.chan.step spec e).view spec) e

/-! ### The interrupt of a running capture channel -/

section Tick

variable {env : TickEnv} {partner : Partner} {fieldMode syncField0 : Bool} {a : InternalAutoCirculate}

/-- The frame captured last is ready from now on; no other count changes. -/
lemma captured_validCount (last f : Int) :
    ((capturedAuto last a).frameStamp f).validCount =
      if f = last ∧ (a.frameStamp f).validCount = 0 then 1 else (a.frameStamp f).validCount := by
  unfold capturedAuto
  by_cases hf : f = last
  · subst hf
    simp
  · simp [setStamp_of_ne _ _ _ hf, hf]

/-- What an interrupt of a running capture channel does: only the counts of the frame
active before and of the one active now can change, and the frame it moves on to is
empty. -/
structure RecordTick (last : Int) (a : InternalAutoCirculate) (r : TickResult) : Prop where
  state : r.pAuto.state = a.state
  others : ∀ f, f ≠ last → f ≠ a.activeFrame →
    (r.pAuto.frameStamp f).validCount = (a.frameStamp f).validCount
  advance : r.frame = none ∨ r.frame = some (kautoNextFrame a.activeFrame a) ∧
    (r.pAuto.frameStamp (kautoNextFrame a.activeFrame a)).validCount = 0 ∧
    (a.frameStamp (kautoNextFrame a.activeFrame a)).validCount = 0

lemma runningRecord_spec (env : TickEnv) (partner : Partner) (fieldMode syncField0 : Bool)
    (last : Int) (a : InternalAutoCirculate) :
    RecordTick last a (tickRunningRecord env partner fieldMode syncField0 last a) := by
  have hsame : ∀ f, ((capturingAuto env fieldMode syncField0 (capturedAuto last a)).frameStamp
      f).validCount =
      if f = last ∧ (a.frameStamp f).validCount = 0 then 1 else (a.frameStamp f).validCount :=
    fun f => by rw [capturing_validCount, captured_validCount]
  refine ⟨state_tickRunningRecord env partner fieldMode syncField0 last a, ?_, ?_⟩
  · intro f hlast hact
    unfold tickRunningRecord
    dsimp only
    split
    · simp [captured_validCount, hlast]
    · split
      · simp [ancCaptured_validCount, hsame, hlast]
      · show ((InternalAutoCirculate.setStamp _ a.activeFrame _).frameStamp f).validCount = _
        rw [setStamp_of_ne _ _ _ hact]
        simp [ancCaptured_validCount, hsame, hlast]
  · unfold tickRunningRecord
    dsimp only
    split
    · exact Or.inl rfl
    · split
      · next hadv =>
        right
        unfold recordAdvances at hadv
        simp only [Bool.and_eq_true, beq_iff_eq] at hadv
        have hzero := hadv.1
        refine ⟨rfl, (ancCaptured_validCount _ _ _ _ _).trans hzero, ?_⟩
        have hnext := hsame (kautoNextFrame a.activeFrame a)
        have hzero' : ((capturingAuto env fieldMode syncField0 (capturedAuto last a)).frameStamp
            (kautoNextFrame a.activeFrame a)).validCount = 0 := hzero
        rw [hzero'] at hnext
        split at hnext
        · exact absurd hnext (by decide)
        · exact hnext.symm
      · exact Or.inl rfl

end Tick

/-- A starting capture channel only clears counts. -/
lemma starting_validCount (env : TickEnv) (partner : Partner) (fieldMode : Bool)
    {a : InternalAutoCirculate} (hrec : a.recording = true) (f : Int) :
    ((tickStarting env partner fieldMode a).pAuto.frameStamp f).validCount = 0 ∨
      ((tickStarting env partner fieldMode a).pAuto.frameStamp f).validCount =
        (a.frameStamp f).validCount := by
  have hstart : ∀ sync, ((startingRecordAuto env fieldMode sync a).frameStamp f).validCount = 0 ∨
      ((startingRecordAuto env fieldMode sync a).frameStamp f).validCount =
        (a.frameStamp f).validCount := by
    intro sync
    unfold startingRecordAuto
    by_cases hf : f = a.activeFrame
    · left
      rw [hf]
      exact congrArg _ (setStamp_same _ _ _)
    · right
      exact congrArg _ (setStamp_of_ne _ _ _ hf)
  unfold tickStarting
  rw [if_pos hrec]
  split
  · exact Or.inr rfl
  · unfold tickStartingRecord
    dsimp only
    split <;> exact hstart _

/-! ### The invariant -/

/-- The places on the ring of a capture channel, and the marks of the frames ready: they
increase from the frame after the active one on, and the frame to be captured next is
not ready. -/
structure CapturePlace (l : Local) (g : CaptureLog) : Prop where
  range : l.pAuto.RangeOk
  recording : l.pAuto.recording = true
  untimed : l.pAuto.state ≠ startingAtTime
  began : l.pAuto.Live → g.started = true
  active : g.started = true → l.pAuto.Mem l.pAuto.activeFrame
  still : l.pAuto.state = init ∨ l.pAuto.state = starting →
    ∀ f, (l.pAuto.frameStamp f).validCount = 0
  next : l.pAuto.state = running ∨ l.pAuto.state = paused →
    l.regFrame = l.pAuto.activeFrame ∨
      l.regFrame = kautoNextFrame l.pAuto.activeFrame l.pAuto ∧
        (l.pAuto.frameStamp l.regFrame).validCount = 0
  sorted : l.pAuto.state = running ∨ l.pAuto.state = paused →
    RingSorted l.pAuto.startFrame l.pAuto.endFrame
      (kautoNextFrame l.pAuto.activeFrame l.pAuto) (Ready l.pAuto) g.mark
  recent : ∀ f, Ready l.pAuto f → g.mark f < 2 * g.clock

/-- The marks of the frames delivered, of the one being transferred, and of those ready
come in this order. -/
structure CaptureOrder (l : Local) (g : CaptureLog) : Prop where
  ordered : g.delivered.Pairwise (· < ·)
  past : ∀ d ∈ g.delivered, d < 2 * g.clock
  undelivered : ∀ f, l.pAuto.Mem f → Ready l.pAuto f → ∀ d ∈ g.delivered, d < g.mark f
  taken : ∀ k, g.taken = some k → l.inflight ≠ none ∧ k < 2 * g.clock ∧
    (∀ d ∈ g.delivered, d < k) ∧
    ∀ f, l.pAuto.Mem f → Ready l.pAuto f → k < g.mark f ∨ l.inflight = some (toUInt32 f)

section Inv

variable {l l' : Local} {g : CaptureLog} {e : ChannelEvent}

/-- A frame that is ready was so before, with its mark, or has a new one. -/
lemma CaptureLog.step_mark (g : CaptureLog) (l l' : Local) (e : ChannelEvent) (f : Int) :
    (Ready l.pAuto f ∨ ¬ Ready l'.pAuto f) ∧ (g.step l l' e).mark f = g.mark f ∨
      ¬ Ready l.pAuto f ∧ Ready l'.pAuto f ∧
        (g.step l l' e).mark f = 2 * g.clock + if f = l'.pAuto.activeFrame then 1 else 0 := by
  by_cases h : ¬ Ready l.pAuto f ∧ Ready l'.pAuto f
  · right
    refine ⟨h.1, h.2, ?_⟩
    show (if _ then _ else _) = _
    rw [if_pos h]
  · left
    refine ⟨by tauto, ?_⟩
    show (if _ then _ else _) = _
    rw [if_neg h]

/-- Where no frame becomes ready, the marks stay. -/
lemma CaptureLog.step_mark_of_ready {f : Int} (h : Ready l'.pAuto f → Ready l.pAuto f) :
    (g.step l l' e).mark f = g.mark f := by
  rcases g.step_mark l l' e f with ⟨-, hm⟩ | ⟨hn, hr, -⟩
  · exact hm
  · exact absurd (h hr) hn

lemma CaptureLog.clock_le (g : CaptureLog) (l l' : Local) (e : ChannelEvent) :
    g.clock ≤ (g.step l l' e).clock := by
  cases e <;> simp [CaptureLog.step]

/-- The order is kept by every event that neither begins nor completes a transfer: a
frame that becomes ready gets a mark beyond all others. -/
lemma CaptureOrder.keep (h : CaptureOrder l g) (hring : SameRing l.pAuto l'.pAuto)
    (htaken : (g.step l l' e).taken = none ∨
      (g.step l l' e).taken = g.taken ∧ l'.inflight = l.inflight)
    (hdelivered : (g.step l l' e).delivered = g.delivered) :
    CaptureOrder l' (g.step l l' e) := by
  have hclock := g.clock_le l l' e
  refine ⟨?_, ?_, ?_, ?_⟩
  · rw [hdelivered]
    exact h.ordered
  · rw [hdelivered]
    intro d hd
    have := h.past d hd
    omega
  · rw [hdelivered]
    intro f hf hr d hd
    rw [hring.mem] at hf
    rcases g.step_mark l l' e f with ⟨hold, hm⟩ | ⟨-, -, hm⟩ <;> rw [hm]
    · exact h.undelivered f hf (hold.resolve_right (not_not_intro hr)) d hd
    · have := h.past d hd
      omega
  · rw [hdelivered]
    intro k hk
    rcases htaken with htaken | ⟨htaken, hinflight⟩ <;> rw [htaken] at hk
    · exact absurd hk (by simp)
    obtain ⟨h₀, h₁, h₂, h₃⟩ := h.taken k hk
    refine ⟨by rwa [hinflight], by omega, h₂, fun f hf hr => ?_⟩
    rw [hring.mem] at hf
    rw [hinflight]
    rcases g.step_mark l l' e f with ⟨hold, hm⟩ | ⟨-, -, hm⟩ <;> rw [hm]
    · exact h₃ f hf (hold.resolve_right (not_not_intro hr))
    · left
      omega

/-- The places stay, no frame becomes ready, and the channel does not come to life. -/
structure Shrinks (l l' : Local) : Prop where
  unmoved : Unmoved l.pAuto l'.pAuto
  reg : l'.reg = l.reg
  valid : ∀ f, (l'.pAuto.frameStamp f).validCount = 0 ∨
    (l'.pAuto.frameStamp f).validCount = (l.pAuto.frameStamp f).validCount
  state : StateKept l.pAuto.state l'.pAuto.state

lemma Untouched.shrinks (h : Untouched l l') : Shrinks l l' :=
  ⟨h.unmoved, h.reg, fun f => Or.inr (by rw [h.stamps]), h.state⟩

lemma Shrinks.refl (l : Local) : Shrinks l l := (Untouched.refl l).shrinks

lemma Shrinks.ready (h : Shrinks l l') {f : Int} (hf : Ready l'.pAuto f) : Ready l.pAuto f := by
  unfold Ready at hf ⊢
  rcases h.valid f with hv | hv <;> rw [hv] at hf
  · omega
  · exact hf

/-- What leaves the places alone and makes no frame ready keeps them in order. -/
lemma CapturePlace.shrink (h : CapturePlace l g) (hs : Shrinks l l')
    (hstarted : (g.step l l' e).started = g.started) : CapturePlace l' (g.step l l' e) := by
  have hready : ∀ f, Ready l'.pAuto f → Ready l.pAuto f := fun _ => hs.ready
  obtain ⟨hu, hreg, hvalid, hstate⟩ := hs
  have hmark : ∀ f, (g.step l l' e).mark f = g.mark f := fun f =>
    CaptureLog.step_mark_of_ready (hready f)
  have hring := hu.toSameRing
  have hframe : l'.regFrame = l.regFrame := by
    unfold Local.regFrame
    rw [hreg, hring.registerFrame]
  have hlive : l'.pAuto.Live → l.pAuto.Live := by
    unfold InternalAutoCirculate.Live StateKept at *
    grind
  have hstill : l'.pAuto.state = init ∨ l'.pAuto.state = starting →
      l.pAuto.state = init ∨ l.pAuto.state = starting := by
    unfold StateKept at hstate
    grind
  have hrun : l'.pAuto.state = running ∨ l'.pAuto.state = paused →
      l.pAuto.state = running ∨ l.pAuto.state = paused := by
    unfold StateKept at hstate
    grind
  refine ⟨hring.rangeOk h.range, hring.recording.trans h.recording, ?_, ?_, ?_, ?_, ?_, ?_, ?_⟩
  · have := h.untimed
    unfold StateKept at hstate
    grind
  · rw [hstarted]
    exact fun hl => h.began (hlive hl)
  · rw [hstarted, hring.mem, hu.activeFrame]
    exact h.active
  · intro hs f
    rcases hvalid f with hv | hv <;> rw [hv]
    exact h.still (hstill hs) f
  · intro hs
    rw [hframe, hu.activeFrame, hring.next]
    rcases h.next (hrun hs) with hn | ⟨hn, hv⟩
    · exact Or.inl hn
    · refine Or.inr ⟨hn, ?_⟩
      rcases hvalid l.regFrame with hv' | hv'
      · exact hv'
      · rw [hv', hv]
  · intro hs
    rw [hu.activeFrame, hring.next, hring.startFrame, hring.endFrame]
    exact (h.sorted (hrun hs)).mono (fun f _ hf => hready f hf) (fun f _ _ => hmark f)
  · intro f hf
    rw [hmark]
    have := h.recent f (hready f hf)
    have := g.clock_le l l' e
    omega

/-! ### The interrupt -/

/-- The marks also increase from the frame after the one in the register. -/
lemma CapturePlace.sorted_reg (h : CapturePlace l g)
    (hs : l.pAuto.state = running ∨ l.pAuto.state = paused) (hact : l.pAuto.Mem l.pAuto.activeFrame) :
    RingSorted l.pAuto.startFrame l.pAuto.endFrame (kautoNextFrame l.regFrame l.pAuto)
      (Ready l.pAuto) g.mark := by
  rcases h.next hs with hn | ⟨hn, hv⟩
  · rw [hn]
    exact h.sorted hs
  · rw [hn] at hv ⊢
    exact (h.sorted hs).rotate (h.range.mem_next hact) (by simp [Ready, hv])

/-- The marks of a running capture channel after an interrupt. -/
lemma CapturePlace.sorted_tick (h : CapturePlace l g) (hs : l.pAuto.state = running)
    (hact' : l'.pAuto.activeFrame = l.regFrame)
    (hothers : ∀ f, f ≠ l.pAuto.activeFrame → f ≠ l.regFrame →
      (l'.pAuto.frameStamp f).validCount = (l.pAuto.frameStamp f).validCount) :
    RingSorted l.pAuto.startFrame l.pAuto.endFrame (kautoNextFrame l.regFrame l.pAuto)
      (Ready l'.pAuto) (g.step l l' e).mark := by
  have hact := h.active (h.began (Or.inr (Or.inl hs)))
  have hreg : l.pAuto.Mem l.regFrame := h.range.mem_registerFrame l.reg
  have hsorted := h.sorted (Or.inl hs)
  have hsame : ∀ f, f ≠ l.pAuto.activeFrame → f ≠ l.regFrame → Ready l'.pAuto f →
      Ready l.pAuto f ∧ (g.step l l' e).mark f = g.mark f := by
    intro f hf hfr hr
    have hold : Ready l.pAuto f := by
      unfold Ready at hr ⊢
      rwa [hothers f hf hfr] at hr
    exact ⟨hold, CaptureLog.step_mark_of_ready fun _ => hold⟩
  -- a frame that becomes ready gets a greater mark than any that was ready before
  have hgreatest : ∀ f, Ready l'.pAuto f → Ready l.pAuto f ∧ (g.step l l' e).mark f = g.mark f ∨
      ∀ x, Ready l.pAuto x → g.mark x < (g.step l l' e).mark f := by
    intro f hf
    rcases g.step_mark l l' e f with ⟨hold, hm⟩ | ⟨-, -, hm⟩
    · exact Or.inl ⟨hold.resolve_right (not_not_intro hf), hm⟩
    · right
      intro x hx
      have := h.recent x hx
      rw [hm]
      omega
  by_cases hp : l.regFrame = l.pAuto.activeFrame
  · -- the register has not moved: only the active frame can have become ready
    rw [hp]
    refine hsorted.append hact (fun f _ hr hf => (hsame f hf (by rwa [hp]) hr).1)
      (fun f _ hr hf => (hsame f hf (by rwa [hp]) hr).2) fun hr => ?_
    rcases hgreatest _ hr with hold | hnew
    · exact Or.inl hold
    · exact Or.inr fun x _ hx _ => hnew x hx
  · obtain ⟨hn, hv⟩ := (h.next (Or.inl hs)).resolve_left hp
    have hnr : ¬ Ready l.pAuto l.regFrame := by simp [Ready, hv]
    -- first the frame captured last, then the one being captured
    have hlast : RingSorted l.pAuto.startFrame l.pAuto.endFrame
        (kautoNextFrame l.pAuto.activeFrame l.pAuto)
        (fun f => Ready l'.pAuto f ∧ f ≠ l.regFrame) (g.step l l' e).mark := by
      refine hsorted.append hact (fun f _ hr hf => (hsame f hf hr.2 hr.1).1)
        (fun f _ hr hf => (hsame f hf hr.2 hr.1).2) fun hr => ?_
      rcases hgreatest _ hr.1 with hold | hnew
      · exact Or.inl hold
      · exact Or.inr fun x _ hx _ => hnew x hx
    rw [← hn] at hlast
    have hrotated := hlast.rotate hreg (fun hr => hr.2 rfl)
    refine hrotated.append hreg (fun f _ hr hf => ⟨hr, hf⟩) (fun _ _ _ _ => rfl) fun hr => ?_
    right
    intro x _ hx hxr
    have hnew : (g.step l l' e).mark l.regFrame = 2 * g.clock + 1 := by
      rcases g.step_mark l l' e l.regFrame with ⟨hold, -⟩ | ⟨-, -, hm⟩
      · exact absurd (hold.resolve_right (not_not_intro hr)) hnr
      · rw [hm, if_pos hact'.symm]
    rw [hnew]
    rcases g.step_mark l l' e x with ⟨hold, hm⟩ | ⟨-, -, hm⟩
    · have := h.recent x (hold.resolve_right (not_not_intro hx.1))
      omega
    · rw [hm, if_neg (by rwa [hact'])]
      omega

/-- A mark is never later than the interrupts so far. -/
lemma CapturePlace.recent_tick (h : CapturePlace l g) (env : TickEnv) (f : Int)
    (hf : Ready l'.pAuto f) :
    (g.step l l' (.tick env)).mark f < 2 * (g.step l l' (.tick env)).clock := by
  have hclock : (g.step l l' (.tick env)).clock = g.clock + 1 := rfl
  rw [hclock]
  rcases g.step_mark l l' (.tick env) f with ⟨hold, hm⟩ | ⟨-, -, hm⟩ <;> rw [hm]
  · have := h.recent f (hold.resolve_right (not_not_intro hf))
    omega
  · split <;> omega

/-- A live channel after an interrupt: its active frame is the one in the register, which
has moved on to a frame that is not ready, or not at all. -/
lemma CapturePlace.of_live (h : CapturePlace l g) (env : TickEnv) (hlive : l.pAuto.Live)
    (hring : SameRing l.pAuto l'.pAuto) (hact : l'.pAuto.activeFrame = l.regFrame)
    (hlive' : l'.pAuto.Live)
    (hreg : l'.regFrame = l.regFrame ∨
      l'.regFrame = kautoNextFrame l.regFrame l.pAuto ∧
        (l'.pAuto.frameStamp l'.regFrame).validCount = 0)
    (hstill : l'.pAuto.state = starting → ∀ f, (l'.pAuto.frameStamp f).validCount = 0)
    (hsorted : RingSorted l.pAuto.startFrame l.pAuto.endFrame (kautoNextFrame l.regFrame l.pAuto)
      (Ready l'.pAuto) (g.step l l' (.tick env)).mark) :
    CapturePlace l' (g.step l l' (.tick env)) := by
  have hstarted : (g.step l l' (.tick env)).started = g.started := rfl
  have hmem : l.pAuto.Mem l.regFrame := h.range.mem_registerFrame l.reg
  refine ⟨hring.rangeOk h.range, hring.recording.trans h.recording, ?_, ?_, ?_, ?_, ?_, ?_, ?_⟩
  · rcases hlive' with hs | hs | hs <;> simp [hs]
  · rw [hstarted]
    exact fun _ => h.began hlive
  · rw [hring.mem, hact]
    exact fun _ => hmem
  · rintro (hs | hs)
    · rcases hlive' with hs' | hs' | hs' <;> simp [hs] at hs'
    · exact hstill hs
  · intro _
    rw [hact, hring.next]
    exact hreg
  · intro _
    rw [hact, hring.next, hring.startFrame, hring.endFrame]
    exact hsorted
  · exact fun f hf => h.recent_tick env f hf

/-- The interrupt keeps the places in order. -/
lemma CapturePlace.tick (h : CapturePlace l g) (env : TickEnv) (partner : Partner) :
    CapturePlace (l.tick env partner) (g.step l (l.tick env partner) (.tick env)) := by
  have hentry := sameRing_tickEntry env l.reg l.pAuto
  by_cases hidle : tickIdle env l.pAuto = true
  · rw [l.tick_idle partner hidle]
    exact h.shrink (.refl l) rfl
  by_cases hlive : l.pAuto.Live
  swap
  · exact h.shrink (untouched_tick l env partner hlive h.untimed).shrinks rfl
  have hmove := l.tickMove partner h.range hidle hlive
  have hauto := hmove.pAuto
  rcases hlive with hs | hs | hs
  · have hlive : l.pAuto.Live := Or.inl hs
    rw [tickAuto_starting hs] at hauto
    have hzero : ∀ f, ((l.tick env partner).pAuto.frameStamp f).validCount = 0 := by
      intro f
      rw [hauto]
      rcases starting_validCount env partner (env.fieldMode l.pAuto)
        (hentry.recording.trans h.recording) f with hv | hv
      · exact hv
      · rw [hv, tickEntry_frameStamp, h.still (Or.inr hs) f]
    refine h.of_live env hlive hmove.ring hmove.active ?_ ?_ (fun _ => hzero) ?_
    · rw [hauto]
      rcases state_tickStarting env partner (env.fieldMode l.pAuto)
        (tickEntry env l.reg l.pAuto) with hst | hst
      · exact Or.inl (by rw [hst, tickEntry_state, hs])
      · exact Or.inr (Or.inl hst)
    · rcases hmove.reg with ⟨-, hr⟩ | ⟨-, hr⟩
      · exact Or.inl hr
      · exact Or.inr ⟨hr, hzero _⟩
    · intro x y _ _ hx
      simp [Ready, hzero] at hx
  · have hlive : l.pAuto.Live := Or.inr (Or.inl hs)
    have hactive : (tickEntry env l.reg l.pAuto).activeFrame = l.regFrame :=
      tickEntry_active env l.reg hlive
    have hspec := runningRecord_spec env partner (env.fieldMode l.pAuto) env.syncField0
      l.pAuto.activeFrame (tickEntry env l.reg l.pAuto)
    rw [← tickAuto_record hs h.recording] at hspec
    have hst : (l.tick env partner).pAuto.state = running := by
      rw [hauto, hspec.state, tickEntry_state, hs]
    refine h.of_live env hlive hmove.ring hmove.active (Or.inr (Or.inl hst)) ?_ (by simp [hst]) ?_
    · rcases hmove.reg with ⟨-, hr⟩ | ⟨hf, hr⟩
      · exact Or.inl hr
      · refine Or.inr ⟨hr, ?_⟩
        rcases hspec.advance with hn | ⟨-, hv, -⟩
        · rw [hn] at hf
          exact absurd hf (by simp)
        · rwa [hactive, hentry.next, ← hr, ← hauto] at hv
    · refine h.sorted_tick hs hmove.active fun f hf hfr => ?_
      rw [hauto, hspec.others f hf (by rwa [hactive]), tickEntry_frameStamp]
  · have hlive : l.pAuto.Live := Or.inr (Or.inr hs)
    have hframe := hmove.reg
    rw [tickAuto_still (Or.inl hs)] at hauto hframe
    refine h.of_live env hlive hmove.ring hmove.active ?_ (Or.inl ?_) ?_ ?_
    · exact Or.inr (Or.inr (by simp [hauto, hs]))
    · rcases hframe with ⟨-, hr⟩ | ⟨hf, -⟩
      · exact hr
      · exact absurd hf (by simp)
    · simp [hauto, hs]
    · refine (h.sorted_reg (Or.inr hs) (h.active (h.began hlive))).mono
        (fun f _ hf => ?_) (fun f _ hf => ?_)
      · simpa [Ready, hauto] using hf
      · exact CaptureLog.step_mark_of_ready fun hr => by simpa [Ready, hauto] using hr

/-! ### The other events -/

/-- Starting the channel: nothing is ready yet. -/
lemma CapturePlace.start (h : CapturePlace l g) (t : Int) :
    CapturePlace (l.start t) (g.step l (l.start t) (.start t)) := by
  unfold Local.start
  split
  · next hs =>
    have hzero := h.still (Or.inl hs)
    refine ⟨(sameRing_startAuto _ t).rangeOk h.range, h.recording, ?_, ?_, ?_, ?_, ?_, ?_, ?_⟩
    · simp [startAuto]
    · simp [CaptureLog.step, hs]
    · exact fun _ => h.range.mem_start
    · exact fun _ f => hzero f
    · simp [startAuto]
    · simp [startAuto]
    · intro f hf
      simp [Ready, startAuto, hzero] at hf
  · next hs =>
    refine h.shrink (.refl l) ?_
    simp [CaptureLog.step, hs]

/-- A flush takes counts away. -/
lemma shrinks_flush (l : Local) (bClearDF : Bool) : Shrinks l (l.flush bClearDF) := by
  unfold Local.flush
  split
  · refine ⟨unmoved_flushAuto bClearDF l.reg l.pAuto, rfl, fun f => ?_, Or.inl rfl⟩
    refine flushAuto_invariant (P := fun b => (b.frameStamp f).validCount = 0 ∨
      (b.frameStamp f).validCount = (l.pAuto.frameStamp f).validCount)
      (fun b f' stamp hstamp hb => ?_) (fun _ hb => hb) (fun _ hb => hb) (fun _ hb => hb)
      (Or.inr rfl)
    by_cases hf : f = f'
    · subst hf
      show (((b.setStamp f stamp).frameStamp f).validCount = 0) ∨ _
      rw [setStamp_same]
      rcases hstamp.1 with hv | hv <;> rw [hv]
      · exact Or.inl rfl
      · exact hb
    · show (((b.setStamp f' stamp).frameStamp f).validCount = 0) ∨ _
      rwa [setStamp_of_ne _ _ _ hf]
  · exact .refl l

/-- The counts of a capture channel after a transfer. -/
lemma completeAuto_validCount {n : ℕ} {u p : Bool} {a : InternalAutoCirculate}
    (hrec : a.recording = true) (f : Int) :
    ((completeAuto n u p a).frameStamp f).validCount =
      if completeInRange n a = true ∧ u = true ∧ f = n then 0
      else (a.frameStamp f).validCount := by
  unfold completeAuto
  dsimp only
  by_cases hin : completeInRange n a = true
  · rw [if_pos hin, if_pos hrec]
    by_cases hf : f = (n : Int)
    · subst hf
      cases u <;> simp [hin]
    · simp [setStamp_of_ne _ _ _ hf, hf]
  · rw [if_neg hin, if_neg (fun h => hin h.1)]

/-- Apart from a start and an interrupt, nothing brings frames to a capture channel. -/
lemma CapturePlace.shrinks_step (h : CapturePlace l g) (partner : Partner)
    (hstart : ∀ t, e ≠ .start t) (htick : ∀ env, e ≠ .tick env) :
    Shrinks l (l.step partner e) := by
  cases e with
  | start t => exact absurd rfl (hstart t)
  | tick env => exact absurd rfl (htick env)
  | stop => exact (untouched_stop partner l).shrinks
  | pause bPlay bClearDF => exact (untouched_pause partner l bPlay bClearDF).shrinks
  | flush b => exact shrinks_flush l b
  | preroll n =>
      show Shrinks l (l.preroll n)
      unfold Local.preroll
      rw [if_neg (fun hp => by simp [h.recording] at hp)]
      exact .refl l
  | beginTransfer p env =>
      exact ⟨unmoved_autoBegin p env _, rfl, fun f => Or.inr (autoBegin_validCount p env _ f),
        Or.inl (state_autoBegin p env _)⟩
  | audioSetup env =>
      exact ⟨unmoved_audioSetup env _, rfl, fun f =>
        Or.inr (audioSetup_stamp (·.validCount) (fun _ _ => rfl) env _ f),
        Or.inl (state_audioSetup env _)⟩
  | completeTransfer u p =>
      show Shrinks l (l.complete u p)
      unfold Local.complete
      split
      · refine ⟨unmoved_completeAuto _ u p _, rfl, fun f => ?_, Or.inl (state_completeAuto _ u p _)⟩
        rw [completeAuto_validCount h.recording]
        split
        · exact Or.inl rfl
        · exact Or.inr rfl
      · exact .refl l
  | abandon => exact ⟨.refl _, rfl, fun _ => Or.inr rfl, Or.inl rfl⟩
  | elsewhere s => exact .refl l

/-- Every event keeps the places in order. -/
lemma CapturePlace.step (h : CapturePlace l g) (partner : Partner) (e : ChannelEvent) :
    CapturePlace (l.step partner e) (g.step l (l.step partner e) e) := by
  cases e with
  | start t => exact h.start t
  | tick env => exact h.tick env partner
  | _ => exact h.shrink (h.shrinks_step partner (by simp) (by simp)) rfl

/-! ### Transfers -/

/-- A transfer of a capture channel that finds a frame finds the oldest one ready. -/
lemma CapturePlace.oldest (h : CapturePlace l g) {f : Int} (hf : availFrame l.pAuto = some f) :
    Ready l.pAuto f ∧ l.pAuto.Mem f ∧
      ∀ y, l.pAuto.Mem y → Ready l.pAuto y → y = f ∨ g.mark f < g.mark y := by
  have hs : l.pAuto.state = running := by
    unfold availFrame at hf
    rw [h.recording] at hf
    by_contra hs
    simp [hs] at hf
  have hact := mem_active_of_availFrame hf (by simp [hs])
  rw [availFrame_record h.range hact hs h.recording] at hf
  exact (h.sorted (Or.inl hs)).scan hact (fun x => by simp [Ready]) hf

/-- Beginning a transfer: the frame taken comes before all others that are ready. -/
lemma CaptureOrder.begin (h : CaptureOrder l g) (hp : CapturePlace l g)
    (p : AutoCirculateTransfer) (env : TransferEnv) (partner : Partner) :
    CaptureOrder (l.step partner (.beginTransfer p env))
      (g.step l (l.step partner (.beginTransfer p env)) (.beginTransfer p env)) := by
  have hring := l.sameRing_step partner (.beginTransfer p env)
  have hready : ∀ f, Ready (l.step partner (.beginTransfer p env)).pAuto f ↔ Ready l.pAuto f := by
    intro f
    unfold Ready
    rw [show ((l.step partner (.beginTransfer p env)).pAuto.frameStamp f).validCount = _ from
      autoBegin_validCount p env _ f]
  have hmark : ∀ f, (g.step l (l.step partner (.beginTransfer p env)) (.beginTransfer p env)).mark
      f = g.mark f := fun f => CaptureLog.step_mark_of_ready (hready f).mp
  refine ⟨h.ordered, h.past, ?_, ?_⟩
  · intro f hf hr
    rw [hmark]
    exact h.undelivered f ((hring.mem f).mp hf) ((hready f).mp hr)
  · intro k hk
    have hk' : (if transferNotReady l.pAuto then none
        else (availFrame l.pAuto).map g.mark) = some k := hk
    split at hk'
    · exact absurd hk' (by simp)
    · next hnr =>
      cases hav : availFrame l.pAuto with
      | none => simp [hav] at hk'
      | some f =>
          obtain ⟨hr, hf, hold⟩ := hp.oldest hav
          rw [hav, Option.map_some, Option.some.injEq] at hk'
          subst hk'
          have hinflight : (l.step partner (.beginTransfer p env)).inflight =
              some (toUInt32 f) := by
            show autoTransferFrame l.pAuto = _
            unfold autoTransferFrame
            rw [if_neg hnr, hav]
          refine ⟨by simp [hinflight], hp.recent f hr, h.undelivered f hf hr, fun y hy hry => ?_⟩
          rw [hmark, hinflight]
          rcases hold y ((hring.mem y).mp hy) ((hready y).mp hry) with rfl | hlt
          · exact Or.inr rfl
          · exact Or.inl hlt

/-- Completing a transfer: the frame taken comes after those delivered, and is not ready
any more. -/
lemma CaptureOrder.complete (h : CaptureOrder l g) (hp : CapturePlace l g) (u p : Bool)
    (partner : Partner) :
    CaptureOrder (l.step partner (.completeTransfer u p))
      (g.step l (l.step partner (.completeTransfer u p)) (.completeTransfer u p)) := by
  have hring := l.sameRing_step partner (.completeTransfer u p)
  have hshrinks := hp.shrinks_step (e := .completeTransfer u p) partner (by simp) (by simp)
  have hmark : ∀ f, (g.step l (l.step partner (.completeTransfer u p))
      (.completeTransfer u p)).mark f = g.mark f := fun f =>
    CaptureLog.step_mark_of_ready hshrinks.ready
  cases u with
  | false =>
      exact h.keep hring (Or.inl rfl) rfl
  | true =>
      have hdelivered : (g.step l (l.step partner (.completeTransfer true p))
          (.completeTransfer true p)).delivered = g.delivered ++ g.taken.toList := rfl
      have hmem : ∀ d, d ∈ g.delivered ++ g.taken.toList ↔ d ∈ g.delivered ∨ g.taken = some d := by
        simp [Option.mem_toList]
      refine ⟨?_, ?_, ?_, fun k hk => absurd hk (by simp [CaptureLog.step])⟩
      · rw [hdelivered, List.pairwise_append]
        refine ⟨h.ordered, by cases g.taken <;> simp, fun d hd k hk => ?_⟩
        exact (h.taken k (by simpa using hk)).2.2.1 d hd
      · intro d hd
        rw [hdelivered, hmem] at hd
        rcases hd with hd | hd
        · exact h.past d hd
        · exact (h.taken d hd).2.1
      · intro f hf hr d hd
        rw [hdelivered, hmem] at hd
        rw [hring.mem] at hf
        rw [hmark]
        have hold := hshrinks.ready hr
        rcases hd with hd | hd
        · exact h.undelivered f hf hold d hd
        · obtain ⟨-, -, -, hnext⟩ := h.taken d hd
          refine (hnext f hf hold).resolve_right fun hin => ?_
          -- the frame of the transfer is not ready any more
          have hauto : (l.step partner (.completeTransfer true p)).pAuto =
              completeAuto (toUInt32 f) true p l.pAuto := by
            show (l.complete true p).pAuto = _
            unfold Local.complete
            rw [hin]
          have hback := (hp.range.inBounds hf).natCast_toUInt32
          unfold Ready at hr
          rw [hauto, completeAuto_validCount hp.recording, hback,
            if_pos ⟨hp.range.completeInRange_iff.mpr (by rwa [hback]), rfl, rfl⟩] at hr
          exact absurd hr (lt_irrefl 0)

/-- Every event keeps the order of the frames. -/
lemma CaptureOrder.step (h : CaptureOrder l g) (hp : CapturePlace l g) (partner : Partner)
    (e : ChannelEvent) : CaptureOrder (l.step partner e) (g.step l (l.step partner e) e) := by
  have hring := l.sameRing_step partner e
  cases e with
  | beginTransfer p env => exact h.begin hp p env partner
  | completeTransfer u p => exact h.complete hp u p partner
  | abandon => exact h.keep hring (Or.inl rfl) rfl
  | start t =>
      refine h.keep hring (Or.inr ⟨rfl, ?_⟩) rfl
      show (l.start t).inflight = _
      unfold Local.start
      split <;> rfl
  | flush b =>
      refine h.keep hring (Or.inr ⟨rfl, ?_⟩) rfl
      show (l.flush b).inflight = _
      unfold Local.flush
      split <;> rfl
  | preroll n =>
      refine h.keep hring (Or.inr ⟨rfl, ?_⟩) rfl
      show (l.preroll n).inflight = _
      unfold Local.preroll
      split
      · split <;> rfl
      · rfl
  | tick env =>
      refine h.keep hring (Or.inr ⟨rfl, ?_⟩) rfl
      show (l.tick env partner).inflight = _
      unfold Local.tick
      split <;> rfl
  | _ => exact h.keep hring (Or.inr ⟨rfl, rfl⟩) rfl

end Inv

/-! ### Runs -/

section Runs

variable {spec : NTV2Crosspoint}

/-- A capture channel with its places and its frames in order. -/
structure CaptureInv (spec : NTV2Crosspoint) (c : Capture) : Prop where
  single : Single c.chan.sys spec
  place : CapturePlace (c.chan.view spec) c.log
  order : CaptureOrder (c.chan.view spec) c.log

/-- Every event keeps a capture channel in order. -/
lemma CaptureInv.step {c : Capture} (h : CaptureInv spec c) {e : ChannelEvent}
    (hok : c.chan.Ok spec e) : CaptureInv spec (c.step spec e) := by
  have hview := Channel.view_step h.single hok
  refine ⟨h.single.step hok, ?_, ?_⟩
  · show CapturePlace ((c.chan.step spec e).view spec) (c.log.step _ _ e)
    rw [hview]
    exact h.place.step _ e
  · show CaptureOrder ((c.chan.step spec e).view spec) (c.log.step _ _ e)
    rw [hview]
    exact h.order.step h.place _ e

end Runs

end LibAjaNtv2
