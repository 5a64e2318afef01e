import LibAjaNtv2.AutoCirc.Single

/-!
The ring of a playout channel.

* `Waiting`: a frame that has been transferred and not been shown;
* `PlayoutLog`: what each frame holds, and what has been shown;
* `PlayTick`: what an interrupt of a live playout channel does to the frames;
* `PlayPlace`: the frames waiting are the ones from the next frame on, in the order of
  their transfers;
* `PlayPlace.step`: every event keeps it so;
* `playout_ring`: **frames are shown in the order of their transfers, each complete**.
-/

namespace LibAjaNtv2

open NTV2AutoCirculateState

/-- The frame has been transferred, or prerolled, and is not the active one. -/
def Waiting (a : InternalAutoCirculate) (f : Int) : Prop :=
  0 < (a.frameStamp f).validCount ∧ f ≠ a.activeFrame

instance (a : InternalAutoCirculate) (f : Int) : Decidable (Waiting a f) :=
  inferInstanceAs (Decidable (_ ∧ _))

/-! ### What is recorded along a run -/

/-- What is recorded of a playout channel along a run. -/
structure PlayoutLog where
  /-- The number of transfers completed. -/
  sent : ℕ
  /-- The number of the transfer that each frame holds. -/
  content : Int → ℕ
  /-- The numbers of the transfers shown. -/
  shown : List ℕ

/-- Nothing has happened. -/
def PlayoutLog.empty : PlayoutLog := ⟨0, fun _ => 0, []⟩

/-- The record after an event, which has led from one state of the channel to the next. -/
def PlayoutLog.step (g : PlayoutLog) (l l' : Local) : ChannelEvent → PlayoutLog
  -- the first frame is shown from now on, if there is something in it
  | .start _ =>
      if l.pAuto.state = init ∧ 0 < (l.pAuto.frameStamp l.pAuto.startFrame).validCount then
        { g with shown := g.shown ++ [g.content l.pAuto.startFrame] }
      else g
  | .tick _ =>
      if l'.pAuto.activeFrame = l.pAuto.activeFrame then g
      else { g with shown := g.shown ++ [g.content l'.pAuto.activeFrame] }
  | .completeTransfer true _ =>
      match l.inflight with
      | some f =>
          { sent := g.sent + 1
            content := Function.update g.content f g.sent
            -- a transfer onto the active frame is shown at once
            shown := if (f : Int) = l.pAuto.activeFrame then g.shown ++ [g.sent] else g.shown }
      | none => g
  | _ => g

/-- A playout channel with its record. -/
structure Playout where
  chan : Channel
  log : PlayoutLog

/-- A playout channel with its record, after an event. -/
def Playout.step (spec : NTV2Crosspoint) (c : Playout) (e : ChannelEvent) : Playout where
  chan := c.chan.step spec e
  log := c.log.step (c.chan.view spec) ((c.chan.step spec e).view spec) e

/-- What a run of the channel may ask for: no flush, one transfer at a time, at least one
showing for each frame, and prerolls that add to the count of a frame. -/
def Local.PlayOk (l : Local) : ChannelEvent → Prop
  | .flush _ => False
  | .preroll n => 0 ≤ n ∧ ∀ f, availFrame l.pAuto = some f →
      (l.pAuto.frameStamp (prerollFrame (l.pAuto.setNextTransfer f))).validCount + n < 2 ^ 31
  | .beginTransfer p _ => 1 ≤ p.acFrameRepeatCount ∧ p.acFrameRepeatCount < 2 ^ 31
  | _ => True

/-! ### The interrupt of a live playout channel -/

/-- What an interrupt of a live playout channel does to the frames: only the count of the
active one can change, and the frame it moves on to is complete. -/
structure PlayTick (e : InternalAutoCirculate) (r : TickResult) : Prop where
  others : ∀ f, f ≠ e.activeFrame →
    (r.pAuto.frameStamp f).validCount = (e.frameStamp f).validCount
  active : 0 ≤ (e.frameStamp e.activeFrame).validCount →
    0 ≤ (r.pAuto.frameStamp e.activeFrame).validCount
  pending : ∀ f, (r.pAuto.frameStamp f).videoTransferPending =
    (e.frameStamp f).videoTransferPending
  repeats : ∀ f, (r.pAuto.frameStamp f).repeatCount = (e.frameStamp f).repeatCount
  advance : r.frame = none ∨ r.frame = some (kautoNextFrame e.activeFrame e) ∧
    (r.pAuto.frameStamp e.activeFrame).validCount = 0 ∧
    (r.pAuto.frameStamp (kautoNextFrame e.activeFrame e)).validCount ≠ 0 ∧
    (r.pAuto.frameStamp (kautoNextFrame e.activeFrame e)).videoTransferPending = false

section Tick

variable {env : TickEnv} {partner : Partner} {fieldMode syncField0 : Bool}
  {a b : InternalAutoCirculate}

/-- What the interrupt does to the active frame, whatever it decides next. -/
structure PlayTouch (a b : InternalAutoCirculate) : Prop where
  place : b.activeFrame = a.activeFrame
  ring : SameRing a b
  others : ∀ f, f ≠ a.activeFrame → (b.frameStamp f).validCount = (a.frameStamp f).validCount
  active : 0 ≤ (a.frameStamp a.activeFrame).validCount →
    0 ≤ (b.frameStamp a.activeFrame).validCount
  pending : ∀ f, (b.frameStamp f).videoTransferPending = (a.frameStamp f).videoTransferPending
  repeats : ∀ f, (b.frameStamp f).repeatCount = (a.frameStamp f).repeatCount

lemma PlayTouch.refl (a : InternalAutoCirculate) : PlayTouch a a :=
  ⟨rfl, .refl a, fun _ _ => rfl, id, fun _ => rfl, fun _ => rfl⟩

/-- Changing the count and the time of the active frame. -/
lemma playTouch_setStamp (stamp : InternalFrameStamp)
    (hcount : 0 ≤ (a.frameStamp a.activeFrame).validCount → 0 ≤ stamp.validCount)
    (hpending : stamp.videoTransferPending =
      (a.frameStamp a.activeFrame).videoTransferPending)
    (hrepeat : stamp.repeatCount = (a.frameStamp a.activeFrame).repeatCount) :
    PlayTouch a (a.setStamp a.activeFrame stamp) := by
  refine ⟨rfl, ⟨rfl, rfl, rfl, rfl, rfl, rfl, rfl⟩, ?_, ?_, ?_, ?_⟩
  · intro f hf
    rw [setStamp_of_ne _ _ _ hf]
  · intro hv
    rw [setStamp_same]
    exact hcount hv
  · intro f
    by_cases hf : f = a.activeFrame
    · rw [hf, setStamp_same, hpending]
    · rw [setStamp_of_ne _ _ _ hf]
  · intro f
    by_cases hf : f = a.activeFrame
    · rw [hf, setStamp_same, hrepeat]
    · rw [setStamp_of_ne _ _ _ hf]

lemma playTouch_starting (a : InternalAutoCirculate) : PlayTouch a (startingPlayAuto a) := by
  refine playTouch_setStamp _ (fun hv => ?_) rfl rfl
  cases hvalid : bValidFrame a with
  | true =>
      simp only [bValidFrame, gt_iff_lt, Bool.and_eq_true, decide_eq_true_eq] at hvalid
      simp
      omega
  | false => simpa using hv

lemma playTouch_running (a : InternalAutoCirculate) : PlayTouch a (runningPlayAuto a) := by
  by_cases hpos : (a.frameStamp a.activeFrame).validCount > 0
  · simp only [runningPlayAuto, hpos, if_true]
    exact playTouch_setStamp _ (fun _ => by simp; omega) rfl rfl
  · simp only [runningPlayAuto, hpos, if_false]
    exact .refl a

lemma tickDrops_false {f : Int} (h : (!tickDrops partner fieldMode syncField0 f a) = true) :
    (a.frameStamp f).validCount ≠ 0 ∧ (a.frameStamp f).videoTransferPending = false := by
  simp only [tickDrops, Bool.not_eq_true', Bool.or_eq_false_iff, beq_eq_false_iff_ne] at h
  exact ⟨h.1.1.1, h.1.1.2⟩

/-- The active frame stays. -/
lemma PlayTouch.stay (h : PlayTouch a b) {r : TickResult}
    (hstamps : r.pAuto.frameStamp = b.frameStamp) (hframe : r.frame = none) : PlayTick a r := by
  refine ⟨?_, ?_, ?_, ?_, Or.inl hframe⟩ <;> rw [hstamps]
  · exact h.others
  · exact h.active
  · exact h.pending
  · exact h.repeats

/-- The channel moves on to a frame that is complete. -/
lemma PlayTouch.move (h : PlayTouch a b) {r : TickResult}
    (hvalid : ∀ f, (r.pAuto.frameStamp f).validCount = (b.frameStamp f).validCount)
    (hpending : ∀ f, (r.pAuto.frameStamp f).videoTransferPending =
      (b.frameStamp f).videoTransferPending)
    (hrepeat : ∀ f, (r.pAuto.frameStamp f).repeatCount = (b.frameStamp f).repeatCount)
    (hframe : r.frame = some (kautoNextFrame b.activeFrame b))
    (hzero : (b.frameStamp b.activeFrame).validCount = 0)
    (hdrop : (!tickDrops partner fieldMode syncField0 (kautoNextFrame b.activeFrame b) b) = true) :
    PlayTick a r := by
  obtain ⟨hne, hcomplete⟩ := tickDrops_false hdrop
  rw [h.place, h.ring.next] at hne hcomplete hframe
  rw [h.place] at hzero
  refine ⟨fun f hf => ?_, fun hv => ?_, fun f => ?_, fun f => ?_, Or.inr ⟨hframe, ?_, ?_, ?_⟩⟩
  · rw [hvalid, h.others f hf]
  · rw [hvalid]
    exact h.active hv
  · rw [hpending, h.pending]
  · rw [hrepeat, h.repeats]
  · rw [hvalid, hzero]
  · rwa [hvalid]
  · rw [hpending, hcomplete]

/-- Noting the time of a frame leaves the rest of its stamp alone. -/
lemma setStamp_time {β : Type} (stampPart : InternalFrameStamp → β) (b : InternalAutoCirculate)
    (g f : Int) (t : ℕ)
    (hpart : ∀ stamp, stampPart { stamp with frameTime := t } = stampPart stamp) :
    stampPart ((b.setStamp g { b.frameStamp g with frameTime := t }).frameStamp f) =
      stampPart (b.frameStamp f) := by
  by_cases hf : f = g
  · rw [hf, setStamp_same, hpart]
  · rw [setStamp_of_ne _ _ _ hf]

lemma playTick_startingPlay (partner : Partner) (fieldMode syncField0 : Bool)
    (a : InternalAutoCirculate) :
    PlayTick a (tickStartingPlay partner fieldMode syncField0 a) := by
  have h := playTouch_starting a
  rw [tickStartingPlay]
  dsimp only
  split
  · exact h.stay rfl rfl
  · next hzero =>
    rw [not_not] at hzero
    split
    · next hdrop =>
      refine h.move (fun f => ?_) (fun f => ?_) (fun f => ?_) rfl hzero hdrop
      · exact setStamp_time (·.validCount) _ _ f _ fun _ => rfl
      · exact setStamp_time (·.videoTransferPending) _ _ f _ fun _ => rfl
      · exact setStamp_time (·.repeatCount) _ _ f _ fun _ => rfl
    · split
      · exact h.stay rfl rfl
      · exact h.stay rfl rfl

lemma playTick_runningPlay (env : TickEnv) (partner : Partner) (fieldMode syncField0 : Bool)
    (a : InternalAutoCirculate) :
    PlayTick a (tickRunningPlay env partner fieldMode syncField0 a) := by
  have h := playTouch_running a
  rw [tickRunningPlay]
  split
  · exact h.stay rfl rfl
  · next hzero =>
    rw [not_not] at hzero
    split
    · next hdrop =>
      exact h.move (fun _ => rfl) (fun _ => rfl) (fun _ => rfl) rfl hzero hdrop
    · exact h.stay rfl rfl

/-- What an interrupt of a live playout channel does to the frames. -/
lemma playTick_tickAuto (env : TickEnv) (partner : Partner) (reg : ℕ) (hlive : a.Live)
    (hplay : a.recording = false) :
    PlayTick (tickEntry env reg a) (tickAuto env partner reg a) := by
  have hrec := (sameRing_tickEntry env reg a).recording.trans hplay
  have hidle := PlayTouch.refl (tickEntry env reg a)
  rcases hlive with hs | hs | hs
  · rw [tickAuto_starting hs, tickStarting]
    split
    · exact hidle.stay rfl rfl
    · rw [if_neg (by rw [hrec]; decide)]
      exact playTick_startingPlay _ _ _ _
  · rw [tickAuto_play hs hplay]
    exact playTick_runningPlay _ _ _ _ _
  · rw [tickAuto_still (Or.inl hs)]
    exact hidle.stay rfl rfl

/-- A live channel stays alive. -/
lemma live_tickAuto (env : TickEnv) (partner : Partner) (reg : ℕ) (hlive : a.Live) :
    (tickAuto env partner reg a).pAuto.Live := by
  rcases hlive with hs | hs | hs
  · rw [tickAuto_starting hs]
    rcases state_tickStarting env partner (env.fieldMode a) (tickEntry env reg a) with h | h
    · exact Or.inl (by rw [h, tickEntry_state, hs])
    · exact Or.inr (Or.inl h)
  · have hst : (tickAuto env partner reg a).pAuto.state = running := by
      cases hrec : a.recording with
      | true => rw [tickAuto_record hs hrec, state_tickRunningRecord, tickEntry_state, hs]
      | false => rw [tickAuto_play hs hrec, state_tickRunningPlay, tickEntry_state, hs]
    exact Or.inr (Or.inl hst)
  · rw [tickAuto_still (Or.inl hs)]
    exact Or.inr (Or.inr (by simp [hs]))

end Tick

/-! ### The invariant -/

/-- The first frame that would be shown next: the one after the active frame, or the first
of all. -/
def Local.front (l : Local) : Int :=
  if l.pAuto.Mem l.pAuto.activeFrame then kautoNextFrame l.pAuto.activeFrame l.pAuto
  else l.pAuto.startFrame

/-- The offset of a frame from the one that would be shown next. -/
def Local.off (l : Local) (f : Int) : Int := ringOff l.pAuto.startFrame l.pAuto.endFrame l.front f

/-- The transfer in progress goes to the first frame after those waiting, or, where
nothing is waiting, to the active one. -/
structure PlayInflight (l : Local) (m : ℕ) (f : Int) : Prop where
  mem : l.pAuto.Mem f
  repeats : 1 ≤ (l.pAuto.frameStamp f).repeatCount
  place : f ≠ l.pAuto.activeFrame ∧ l.off f = m ∨ f = l.pAuto.activeFrame ∧ m = 0

/-- The places on the ring of a playout channel: `m` frames are waiting, from the next
frame on, in the order of their transfers. -/
structure PlayPlace (l : Local) (g : PlayoutLog) (m : ℕ) : Prop where
  range : l.pAuto.RangeOk
  playout : l.pAuto.recording = false
  untimed : l.pAuto.state ≠ startingAtTime
  live : l.pAuto.Live → l.pAuto.Mem l.pAuto.activeFrame
  unstarted : l.pAuto.state = init → ¬ l.pAuto.Mem l.pAuto.activeFrame
  nonneg : ∀ f, l.pAuto.Mem f → 0 ≤ (l.pAuto.frameStamp f).validCount
  run : RingRun l.pAuto.startFrame l.pAuto.endFrame l.front m (Waiting l.pAuto)
  content : ∀ f, l.pAuto.Mem f → Waiting l.pAuto f → (g.content f : Int) = g.shown.length + l.off f
  reg : l.pAuto.Mem l.pAuto.activeFrame → l.regFrame = l.pAuto.activeFrame ∨
    l.regFrame = l.front ∧ 0 < m ∧ (l.pAuto.frameStamp l.pAuto.activeFrame).validCount = 0 ∧
      (l.pAuto.frameStamp l.regFrame).videoTransferPending = false
  sent : g.sent = g.shown.length + m
  shown : g.shown = List.range g.shown.length
  inflight : ∀ n, l.inflight = some n → ∃ f, n = toUInt32 f ∧ PlayInflight l m f

section Inv

variable {l l' : Local} {g : PlayoutLog} {m : ℕ}

lemma Local.front_of_mem (h : l.pAuto.Mem l.pAuto.activeFrame) :
    l.front = kautoNextFrame l.pAuto.activeFrame l.pAuto := if_pos h

lemma Local.front_of_not_mem (h : ¬ l.pAuto.Mem l.pAuto.activeFrame) :
    l.front = l.pAuto.startFrame := if_neg h

/-- The frame that would be shown next is on the ring. -/
lemma PlayPlace.mem_front (h : PlayPlace l g m) : l.pAuto.Mem l.front := by
  by_cases hact : l.pAuto.Mem l.pAuto.activeFrame
  · rw [l.front_of_mem hact]
    exact h.range.mem_next hact
  · rw [l.front_of_not_mem hact]
    exact h.range.mem_start

/-- The ring and the places on it tell the frame that would be shown next. -/
lemma Unmoved.front (hu : Unmoved l.pAuto l'.pAuto) : l'.front = l.front := by
  have hring := hu.toSameRing
  by_cases hact : l.pAuto.Mem l.pAuto.activeFrame
  · have hact' : l'.pAuto.Mem l'.pAuto.activeFrame := by
      rw [hring.mem, hu.activeFrame]
      exact hact
    rw [Local.front_of_mem hact, Local.front_of_mem hact', hring.next, hu.activeFrame]
  · have hact' : ¬ l'.pAuto.Mem l'.pAuto.activeFrame := by
      rw [hring.mem, hu.activeFrame]
      exact hact
    rw [Local.front_of_not_mem hact, Local.front_of_not_mem hact', hring.startFrame]

lemma Unmoved.off (hu : Unmoved l.pAuto l'.pAuto) (f : Int) : l'.off f = l.off f := by
  have hring := hu.toSameRing
  rw [Local.off, Local.off, hu.front, hring.startFrame, hring.endFrame]

lemma PlayInflight.of_unmoved {f : Int} (h : PlayInflight l m f) (hu : Unmoved l.pAuto l'.pAuto)
    (hrepeat : (l'.pAuto.frameStamp f).repeatCount = (l.pAuto.frameStamp f).repeatCount) :
    PlayInflight l' m f := by
  refine ⟨(hu.toSameRing.mem f).mpr h.mem, ?_, ?_⟩
  · rw [hrepeat]
    exact h.repeats
  · rw [hu.activeFrame, hu.off]
    exact h.place

/-- What moves nothing on the ring, and takes none of the frames waiting. -/
lemma PlayPlace.of_unmoved (h : PlayPlace l g m) {g' : PlayoutLog} {k : ℕ}
    (hu : Unmoved l.pAuto l'.pAuto) (hreg : l'.reg = l.reg)
    (hlive : l'.pAuto.Live → l.pAuto.Live) (hinit : l'.pAuto.state = init → l.pAuto.state = init)
    (htimed : l'.pAuto.state ≠ startingAtTime)
    (hnonneg : ∀ f, l.pAuto.Mem f → 0 ≤ (l'.pAuto.frameStamp f).validCount)
    (hrun : RingRun l.pAuto.startFrame l.pAuto.endFrame l.front k (Waiting l'.pAuto))
    (hcontent : ∀ f, l.pAuto.Mem f → Waiting l'.pAuto f →
      (g'.content f : Int) = g'.shown.length + l.off f)
    (hnext : 0 < m → l.pAuto.Mem l.pAuto.activeFrame → 0 < k ∧
      ((l.pAuto.frameStamp l.pAuto.activeFrame).validCount = 0 →
        (l'.pAuto.frameStamp l.pAuto.activeFrame).validCount = 0) ∧
      (l'.pAuto.frameStamp l.front).videoTransferPending =
        (l.pAuto.frameStamp l.front).videoTransferPending)
    (hsent : g'.sent = g'.shown.length + k) (hshown : g'.shown = List.range g'.shown.length)
    (hinflight : ∀ n, l'.inflight = some n → ∃ f, n = toUInt32 f ∧ PlayInflight l' k f) :
    PlayPlace l' g' k := by
  have hring := hu.toSameRing
  have hframe : l'.regFrame = l.regFrame := by
    rw [Local.regFrame, Local.regFrame, hreg, hring.registerFrame]
  refine ⟨hring.rangeOk h.range, hring.recording.trans h.playout, htimed, ?_, ?_, ?_, ?_, ?_, ?_,
    hsent, hshown, hinflight⟩
  · intro hl
    rw [hring.mem, hu.activeFrame]
    exact h.live (hlive hl)
  · intro hs
    rw [hring.mem, hu.activeFrame]
    exact h.unstarted (hinit hs)
  · intro f hf
    exact hnonneg f ((hring.mem f).mp hf)
  · rw [hu.front, hring.startFrame, hring.endFrame]
    exact hrun
  · intro f hf hw
    rw [hu.off]
    exact hcontent f ((hring.mem f).mp hf) hw
  · intro hact
    rw [hring.mem, hu.activeFrame] at hact
    rw [hframe, hu.activeFrame, hu.front]
    rcases h.reg hact with hr | ⟨hr, hm, hv, hp⟩
    · exact Or.inl hr
    · obtain ⟨hk, hvalid, hpending⟩ := hnext hm hact
      rw [hr] at hp ⊢
      exact Or.inr ⟨rfl, hk, hvalid hv, hpending.trans hp⟩

/-- What moves nothing and makes no frame ready or empty keeps the frames waiting. -/
lemma PlayPlace.keep (h : PlayPlace l g m) (hu : Unmoved l.pAuto l'.pAuto)
    (hreg : l'.reg = l.reg) (hlive : l'.pAuto.Live → l.pAuto.Live)
    (hinit : l'.pAuto.state = init → l.pAuto.state = init)
    (htimed : l'.pAuto.state ≠ startingAtTime)
    (hwait : ∀ f, l.pAuto.Mem f → (Waiting l'.pAuto f ↔ Waiting l.pAuto f))
    (hnonneg : ∀ f, l.pAuto.Mem f → 0 ≤ (l'.pAuto.frameStamp f).validCount)
    (hnext : 0 < m → l.pAuto.Mem l.pAuto.activeFrame →
      ((l.pAuto.frameStamp l.pAuto.activeFrame).validCount = 0 →
        (l'.pAuto.frameStamp l.pAuto.activeFrame).validCount = 0) ∧
      (l'.pAuto.frameStamp l.front).videoTransferPending =
        (l.pAuto.frameStamp l.front).videoTransferPending)
    (hinflight : ∀ n, l'.inflight = some n → ∃ f, n = toUInt32 f ∧ PlayInflight l' m f) :
    PlayPlace l' g m :=
  h.of_unmoved hu hreg hlive hinit htimed hnonneg (h.run.congr hwait)
    (fun f hf hw => h.content f hf ((hwait f hf).mp hw)) (fun hm hact => ⟨hm, hnext hm hact⟩)
    h.sent h.shown hinflight

/-- What leaves the frames alone keeps the frames waiting. -/
lemma PlayPlace.untouched (h : PlayPlace l g m) (hs : Untouched l l')
    (hinflight : l'.inflight = none ∨ l'.inflight = l.inflight) : PlayPlace l' g m := by
  obtain ⟨hu, hreg, hstamps, hstate⟩ := hs
  refine h.keep hu hreg ?_ ?_ ?_ (fun f _ => ?_) (fun f hf => ?_) (fun _ _ => ?_) (fun n hn => ?_)
  · intro hl
    simp only [StateKept, InternalAutoCirculate.Live] at hstate hl ⊢
    grind
  · intro hi
    simp only [StateKept] at hstate
    grind
  · have := h.untimed
    simp only [StateKept] at hstate
    grind
  · rw [Waiting, Waiting, hstamps, hu.activeFrame]
  · rw [hstamps]
    exact h.nonneg f hf
  · rw [hstamps]
    exact ⟨id, rfl⟩
  · rcases hinflight with hi | hi <;> rw [hi] at hn
    · exact absurd hn (by simp)
    · obtain ⟨f, hf, hp⟩ := h.inflight n hn
      exact ⟨f, hf, hp.of_unmoved hu (by rw [hstamps])⟩

/-! ### The interrupt -/

/-- After an interrupt the frame register names the active frame or a complete frame that
is waiting. -/
lemma reg_of_playTick {a : InternalAutoCirculate} {r : TickResult} (hmove : TickMove l l' r)
    (hrange : l.pAuto.RangeOk) (hspec : PlayTick a r) (hact : a.activeFrame = l.regFrame)
    (hring : SameRing l.pAuto a)
    (hnonneg : ∀ f, l'.pAuto.Mem f → 0 ≤ (l'.pAuto.frameStamp f).validCount)
    (hrun : RingRun l'.pAuto.startFrame l'.pAuto.endFrame l'.front m (Waiting l'.pAuto)) :
    l'.regFrame = l'.pAuto.activeFrame ∨
      l'.regFrame = l'.front ∧ 0 < m ∧ (l'.pAuto.frameStamp l'.pAuto.activeFrame).validCount = 0 ∧
        (l'.pAuto.frameStamp l'.regFrame).videoTransferPending = false := by
  rcases hmove.reg with ⟨-, hr⟩ | ⟨hf, hr⟩
  · exact Or.inl (hr.trans hmove.active.symm)
  · have hadvance := hspec.advance
    rw [hact, hring.next, hf] at hadvance
    obtain ⟨-, hzero, hne, hpending⟩ := hadvance.resolve_left (by simp)
    rw [← hmove.pAuto, ← hmove.active] at hzero
    rw [← hmove.pAuto, ← hr] at hne hpending
    by_cases heq : l'.regFrame = l'.pAuto.activeFrame
    · exact Or.inl heq
    · right
      have hmem : l'.pAuto.Mem l'.pAuto.activeFrame := by
        rw [hmove.ring.mem, hmove.active]
        exact hrange.mem_registerFrame l.reg
      have hfront : l'.regFrame = l'.front := by
        rw [l'.front_of_mem hmem, hmove.ring.next, hmove.active, hr]
      have hmemFront : l'.pAuto.Mem l'.front := by
        rw [l'.front_of_mem hmem]
        exact (hmove.ring.rangeOk hrange).mem_next hmem
      refine ⟨hfront, ?_, hzero, hpending⟩
      rw [← hrun.front hmemFront]
      rw [hfront] at hne heq
      have := hnonneg _ hmemFront
      exact ⟨by omega, heq⟩

/-- The interrupt of a live channel whose register still names the active frame. -/
lemma PlayPlace.tick_same (h : PlayPlace l g m) {a : InternalAutoCirculate} {r : TickResult}
    (hmove : TickMove l l' r) (hspec : PlayTick a r) (hentry : SameRing l.pAuto a)
    (hstamps : a.frameStamp = l.pAuto.frameStamp) (hact : a.activeFrame = l.regFrame)
    (hlive : l'.pAuto.Live) (hmem : l.pAuto.Mem l.pAuto.activeFrame)
    (hsame : l.regFrame = l.pAuto.activeFrame) : PlayPlace l' g m := by
  have hactive : l'.pAuto.activeFrame = l.pAuto.activeFrame := hmove.active.trans hsame
  have hring := hmove.ring
  have hmem' : l'.pAuto.Mem l'.pAuto.activeFrame := by
    rw [hring.mem, hactive]
    exact hmem
  have hfront : l'.front = l.front := by
    rw [l'.front_of_mem hmem', l.front_of_mem hmem, hring.next, hactive]
  have hoff : ∀ f, l'.off f = l.off f := by
    intro f
    rw [Local.off, Local.off, hfront, hring.startFrame, hring.endFrame]
  have hvalid : ∀ f, f ≠ l.pAuto.activeFrame →
      (l'.pAuto.frameStamp f).validCount = (l.pAuto.frameStamp f).validCount := by
    intro f hf
    rw [hmove.pAuto, hspec.others f (by rwa [hact, hsame]), hstamps]
  have hwait : ∀ f, Waiting l'.pAuto f ↔ Waiting l.pAuto f := by
    intro f
    rw [Waiting, Waiting, hactive]
    constructor
    · rintro ⟨hv, hf⟩
      exact ⟨by rwa [hvalid f hf] at hv, hf⟩
    · rintro ⟨hv, hf⟩
      exact ⟨by rwa [hvalid f hf], hf⟩
  have hnonneg : ∀ f, l'.pAuto.Mem f → 0 ≤ (l'.pAuto.frameStamp f).validCount := by
    intro f hf
    rw [hring.mem] at hf
    by_cases hfa : f = l.pAuto.activeFrame
    · have hkeep := hspec.active
      rw [hact, hsame, hstamps, ← hmove.pAuto] at hkeep
      rw [hfa] at hf ⊢
      exact hkeep (h.nonneg _ hf)
    · rw [hvalid f hfa]
      exact h.nonneg f hf
  have hrun : RingRun l'.pAuto.startFrame l'.pAuto.endFrame l'.front m (Waiting l'.pAuto) := by
    rw [hring.startFrame, hring.endFrame, hfront]
    exact h.run.congr fun f _ => hwait f
  refine ⟨hring.rangeOk h.range, hring.recording.trans h.playout, ?_, fun _ => hmem', ?_, hnonneg,
    hrun, ?_, fun _ => ?_, h.sent, h.shown, ?_⟩
  · rcases hlive with hs | hs | hs <;> simp [hs]
  · rcases hlive with hs | hs | hs <;> simp [hs]
  · intro f hf hw
    rw [hring.mem] at hf
    rw [hoff]
    exact h.content f hf ((hwait f).mp hw)
  · exact reg_of_playTick hmove h.range hspec hact hentry hnonneg hrun
  · intro n hn
    rw [hmove.inflight] at hn
    obtain ⟨f, hf, hp⟩ := h.inflight n hn
    refine ⟨f, hf, (hring.mem f).mpr hp.mem, ?_, ?_⟩
    · rw [hmove.pAuto, hspec.repeats, hstamps]
      exact hp.repeats
    · rw [hactive, hoff]
      exact hp.place

/-- The interrupt of a live channel whose register has moved on: the frame that has waited
longest is shown. -/
lemma PlayPlace.tick_next (h : PlayPlace l g m) {a : InternalAutoCirculate} {r : TickResult}
    (hmove : TickMove l l' r) (hspec : PlayTick a r) (hentry : SameRing l.pAuto a)
    (hstamps : a.frameStamp = l.pAuto.frameStamp) (hact : a.activeFrame = l.regFrame)
    (hlive : l'.pAuto.Live) (hmem : l.pAuto.Mem l.pAuto.activeFrame)
    (hnext : l.regFrame ≠ l.pAuto.activeFrame) : ∃ k, m = k + 1 ∧
      PlayPlace l' { g with shown := g.shown ++ [g.content l'.pAuto.activeFrame] } k := by
  obtain ⟨hreg, hm, hzero, -⟩ := (h.reg hmem).resolve_left hnext
  obtain ⟨k, rfl⟩ : ∃ k, m = k + 1 := ⟨m - 1, by omega⟩
  have hactive : l'.pAuto.activeFrame = l.front := hmove.active.trans hreg
  have hring := hmove.ring
  have hmemFront := h.mem_front
  have hmem' : l'.pAuto.Mem l'.pAuto.activeFrame := by
    rw [hring.mem, hactive]
    exact hmemFront
  have hfront : l'.front = ringNext l.pAuto.startFrame l.pAuto.endFrame l.front := by
    rw [l'.front_of_mem hmem', hring.next, hactive]
    rfl
  have hoff : ∀ f, l.pAuto.Mem f → f ≠ l.front → l'.off f = l.off f - 1 := by
    intro f hf hne
    rw [Local.off, Local.off, hfront, hring.startFrame, hring.endFrame]
    exact ringOff_base_next hmemFront hf hne
  have hvalid : ∀ f, f ≠ l.front →
      (l'.pAuto.frameStamp f).validCount = (l.pAuto.frameStamp f).validCount := by
    intro f hf
    rw [hmove.pAuto, hspec.others f (by rwa [hact, hreg]), hstamps]
  have hwait : ∀ f, f ≠ l.front → (Waiting l'.pAuto f ↔ Waiting l.pAuto f) := by
    intro f hf
    rw [Waiting, Waiting, hactive, hvalid f hf]
    constructor
    · rintro ⟨hv, -⟩
      refine ⟨hv, ?_⟩
      rintro rfl
      omega
    · rintro ⟨hv, -⟩
      exact ⟨hv, hf⟩
  have hshown : ¬ Waiting l'.pAuto l.front := fun hw => hw.2 hactive.symm
  have hnonneg : ∀ f, l'.pAuto.Mem f → 0 ≤ (l'.pAuto.frameStamp f).validCount := by
    intro f hf
    rw [hring.mem] at hf
    by_cases hff : f = l.front
    · have hkeep := hspec.active
      rw [hact, hreg, hstamps, ← hmove.pAuto] at hkeep
      rw [hff] at hf ⊢
      exact hkeep (h.nonneg _ hf)
    · rw [hvalid f hff]
      exact h.nonneg f hf
  have hrun : RingRun l'.pAuto.startFrame l'.pAuto.endFrame l'.front k (Waiting l'.pAuto) := by
    rw [hring.startFrame, hring.endFrame, hfront]
    exact h.run.pop hmemFront hshown fun f _ hne => hwait f hne
  have hcontent : g.content l.front = g.shown.length := by
    have hw := (h.run.front hmemFront).mpr hm
    have hc := h.content l.front hmemFront hw
    rw [Local.off, ringOff_self] at hc
    omega
  refine ⟨k, rfl, hring.rangeOk h.range, hring.recording.trans h.playout, ?_, fun _ => hmem', ?_,
    hnonneg, hrun, ?_, fun _ => ?_, ?_, ?_, ?_⟩
  · rcases hlive with hs | hs | hs <;> simp [hs]
  · rcases hlive with hs | hs | hs <;> simp [hs]
  · intro f hf hw
    rw [hring.mem] at hf
    have hne : f ≠ l.front := by
      rintro rfl
      exact hshown hw
    have hc := h.content f hf ((hwait f hne).mp hw)
    rw [hoff f hf hne]
    simp
    omega
  · exact reg_of_playTick hmove h.range hspec hact hentry hnonneg hrun
  · have := h.sent
    simp
    omega
  · rw [hactive, hcontent, List.length_append, List.length_singleton, List.range_succ, ← h.shown]
  · intro n hn
    rw [hmove.inflight] at hn
    obtain ⟨f, hf, hp⟩ := h.inflight n hn
    refine ⟨f, hf, (hring.mem f).mpr hp.mem, ?_, ?_⟩
    · rw [hmove.pAuto, hspec.repeats, hstamps]
      exact hp.repeats
    · left
      rcases hp.place with ⟨hne, hend⟩ | ⟨-, hempty⟩
      · have hff : f ≠ l.front := by
          rintro rfl
          rw [Local.off, ringOff_self] at hend
          omega
        refine ⟨by rwa [hactive], ?_⟩
        rw [hoff f hp.mem hff, hend]
        push_cast
        omega
      · omega

/-- The interrupt keeps the frames waiting in order. -/
lemma PlayPlace.tick (h : PlayPlace l g m) (env : TickEnv) (partner : Partner) :
    ∃ k, PlayPlace (l.tick env partner) (g.step l (l.tick env partner) (.tick env)) k := by
  by_cases hidle : tickIdle env l.pAuto = true
  · refine ⟨m, ?_⟩
    rw [l.tick_idle partner hidle]
    simpa [PlayoutLog.step] using h
  by_cases hlive : l.pAuto.Live
  · have hmove := l.tickMove partner h.range hidle hlive
    have hspec := playTick_tickAuto env partner l.reg hlive h.playout
    have hentry := sameRing_tickEntry env l.reg l.pAuto
    have hact : (tickEntry env l.reg l.pAuto).activeFrame = l.regFrame :=
      tickEntry_active env l.reg hlive
    have hlive' : (l.tick env partner).pAuto.Live := by
      rw [hmove.pAuto]
      exact live_tickAuto env partner l.reg hlive
    have hmem := h.live hlive
    by_cases hsame : l.regFrame = l.pAuto.activeFrame
    · refine ⟨m, ?_⟩
      rw [PlayoutLog.step, if_pos (hmove.active.trans hsame)]
      exact h.tick_same hmove hspec hentry tickEntry_frameStamp hact hlive' hmem hsame
    · obtain ⟨k, -, hk⟩ :=
        h.tick_next hmove hspec hentry tickEntry_frameStamp hact hlive' hmem hsame
      refine ⟨k, ?_⟩
      rw [PlayoutLog.step, if_neg (by rwa [hmove.active])]
      exact hk
  · have hstill := untouched_tick l env partner hlive h.untimed
    refine ⟨m, ?_⟩
    rw [PlayoutLog.step, if_pos hstill.unmoved.activeFrame]
    refine h.untouched hstill (Or.inr ?_)
    rw [l.tick_eq partner hidle]

/-! ### Start and preroll -/

lemma start_init {t : Int} (hs : l.pAuto.state = init) : l.start t =
    { l with pAuto := startAuto t l.pAuto, reg := toUInt32 l.pAuto.startFrame } := by
  rw [Local.start, if_pos hs]

/-- The first frame of a channel that has been initialised becomes the active one. -/
lemma PlayPlace.front_start (h : PlayPlace l g m) {t : Int} (hs : l.pAuto.state = init) :
    l.front = l.pAuto.startFrame ∧
      (l.start t).front = ringNext l.pAuto.startFrame l.pAuto.endFrame l.front := by
  have hfront := l.front_of_not_mem (h.unstarted hs)
  refine ⟨hfront, ?_⟩
  rw [start_init hs, Local.front_of_mem, hfront]
  · rfl
  · exact h.range.mem_start

/-- Before the channel is started, no frame is the active one. -/
lemma PlayPlace.waiting_init (h : PlayPlace l g m) (hs : l.pAuto.state = init) {f : Int}
    (hf : l.pAuto.Mem f) : Waiting l.pAuto f ↔ 0 < (l.pAuto.frameStamp f).validCount := by
  constructor
  · rintro ⟨hv, -⟩
    exact hv
  · intro hv
    refine ⟨hv, ?_⟩
    rintro rfl
    exact h.unstarted hs hf

/-- What a start leaves of the places, whatever is waiting. -/
lemma PlayPlace.of_start (h : PlayPlace l g m) {t : Int} (hs : l.pAuto.state = init)
    {g' : PlayoutLog} {k : ℕ}
    (hrun : RingRun l.pAuto.startFrame l.pAuto.endFrame (l.start t).front k
      (Waiting (l.start t).pAuto))
    (hcontent : ∀ f, l.pAuto.Mem f → Waiting (l.start t).pAuto f →
      (g'.content f : Int) = g'.shown.length + (l.start t).off f)
    (hsent : g'.sent = g'.shown.length + k) (hshown : g'.shown = List.range g'.shown.length)
    (hinflight : ∀ f, PlayInflight l m f → f = l.pAuto.startFrame ∧ k = 0 ∨
      f ≠ l.pAuto.startFrame ∧ (l.start t).off f = k) :
    PlayPlace (l.start t) g' k := by
  have heq := start_init (t := t) hs
  have hreg : (l.start t).regFrame = l.pAuto.startFrame := by
    rw [heq]
    exact h.range.registerFrame_toUInt32 h.range.mem_start
  have hplace : (l.start t).pAuto.activeFrame = l.pAuto.startFrame := by
    rw [heq]
    rfl
  have hring : SameRing l.pAuto (l.start t).pAuto := by
    rw [heq]
    exact sameRing_startAuto _ t
  have hstamps : (l.start t).pAuto.frameStamp = l.pAuto.frameStamp := by
    rw [heq]
    rfl
  have hstate : (l.start t).pAuto.state = starting := by
    rw [heq]
    rfl
  refine ⟨hring.rangeOk h.range, hring.recording.trans h.playout, by simp [hstate], ?_, ?_, ?_, ?_,
    ?_, ?_, hsent, hshown, ?_⟩
  · intro _
    rw [hring.mem, hplace]
    exact h.range.mem_start
  · simp [hstate]
  · intro f hf
    rw [hstamps]
    exact h.nonneg f ((hring.mem f).mp hf)
  · rw [hring.startFrame, hring.endFrame]
    exact hrun
  · intro f hf
    exact hcontent f ((hring.mem f).mp hf)
  · intro _
    exact Or.inl (hreg.trans hplace.symm)
  · intro n hn
    have hold : l.inflight = some n := by
      rw [heq] at hn
      exact hn
    obtain ⟨f, hf, hp⟩ := h.inflight n hold
    refine ⟨f, hf, (hring.mem f).mpr hp.mem, ?_, ?_⟩
    · rw [hstamps]
      exact hp.repeats
    · rw [hplace]
      rcases hinflight f hp with ⟨hfirst, hk⟩ | ⟨hne, hk⟩
      · exact Or.inr ⟨hfirst, hk⟩
      · exact Or.inl ⟨hne, hk⟩

/-- Starting the channel: the first frame is shown, if there is something in it. -/
lemma PlayPlace.start (h : PlayPlace l g m) (t : Int) :
    ∃ k, PlayPlace (l.start t) (g.step l (l.start t) (.start t)) k := by
  by_cases hs : l.pAuto.state = init
  · obtain ⟨hfront, hfront'⟩ := h.front_start (t := t) hs
    have hfirst := h.range.mem_start
    have hrun := h.run
    rw [hfront] at hfront' hrun
    have heq := start_init (t := t) hs
    have hout := h.unstarted hs
    have hstarted : ∀ f, Waiting (l.start t).pAuto f ↔
        0 < (l.pAuto.frameStamp f).validCount ∧ f ≠ l.pAuto.startFrame := by
      intro f
      rw [heq]
      rfl
    have hwait : ∀ f, l.pAuto.Mem f → f ≠ l.pAuto.startFrame →
        (Waiting (l.start t).pAuto f ↔ Waiting l.pAuto f) := by
      intro f hf hne
      rw [h.waiting_init hs hf, hstarted]
      simp [hne]
    have hnot : ¬ Waiting (l.start t).pAuto l.pAuto.startFrame := by
      rw [hstarted]
      simp
    have hoff : ∀ f, l.pAuto.Mem f → f ≠ l.pAuto.startFrame → (l.start t).off f = l.off f - 1 := by
      intro f hf hne
      rw [Local.off, Local.off, hfront', hfront, heq]
      exact ringOff_base_next hfirst hf hne
    have hzero : l.off l.pAuto.startFrame = 0 := by
      rw [Local.off, hfront, ringOff_self]
    have hvalid := h.waiting_init hs hfirst
    rw [hrun.front hfirst] at hvalid
    cases m with
    | zero =>
        refine ⟨0, ?_⟩
        rw [PlayoutLog.step, if_neg (by omega)]
        have hnone : ∀ f, l.pAuto.Mem f → ¬ Waiting (l.start t).pAuto f := by
          intro f hf hw
          by_cases hne : f = l.pAuto.startFrame
          · rw [hne] at hw
            exact hnot hw
          · have := (hrun.used f hf).mp ((hwait f hf hne).mp hw)
            have := (ringOff_mem hfirst hf).1
            omega
        refine h.of_start hs ?_ ?_ h.sent h.shown fun f hp => ?_
        · rw [hfront']
          exact .empty (h.range.mem_next hfirst) hnone
        · intro f hf hw
          exact absurd hw (hnone f hf)
        · rcases hp.place with ⟨-, hend⟩ | ⟨hact, -⟩
          · left
            rw [Local.off, hfront] at hend
            exact ⟨(ringOff_eq_zero hfirst hp.mem).mp hend, rfl⟩
          · rw [hact] at hp
            exact absurd hp.mem hout
    | succ k =>
        refine ⟨k, ?_⟩
        rw [PlayoutLog.step, if_pos ⟨hs, by omega⟩]
        have hcontent : g.content l.pAuto.startFrame = g.shown.length := by
          have hc := h.content _ hfirst ((hrun.front hfirst).mpr (by omega))
          rw [hzero] at hc
          omega
        refine h.of_start hs ?_ (fun f hf hw => ?_) ?_ ?_ fun f hp => ?_
        · rw [hfront']
          exact hrun.pop hfirst hnot hwait
        · have hne : f ≠ l.pAuto.startFrame := by
            rintro rfl
            exact hnot hw
          have hc := h.content f hf ((hwait f hf hne).mp hw)
          rw [hoff f hf hne]
          simp
          omega
        · have := h.sent
          simp
          omega
        · rw [hcontent, List.length_append, List.length_singleton, List.range_succ, ← h.shown]
        · right
          rcases hp.place with ⟨-, hend⟩ | ⟨-, hempty⟩
          · have hne : f ≠ l.pAuto.startFrame := by
              rintro rfl
              rw [hzero] at hend
              omega
            refine ⟨hne, ?_⟩
            rw [hoff f hp.mem hne, hend]
            push_cast
            omega
          · omega
  · refine ⟨m, ?_⟩
    rw [PlayoutLog.step, if_neg (fun hc => hs hc.1), Local.start, if_neg hs]
    exact h

/-- The frame a transfer of a playout channel finds: the first one after those waiting. -/
lemma PlayPlace.avail (h : PlayPlace l g m) {f : Int} (hf : availFrame l.pAuto = some f) :
    l.pAuto.Mem f ∧ (l.pAuto.frameStamp f).validCount = 0 ∧ f ≠ l.pAuto.activeFrame ∧
      l.off f = m := by
  have hle : l.pAuto.startFrame ≤ l.pAuto.endFrame := h.range.2.1
  by_cases hs : l.pAuto.state = init
  · have hact := h.unstarted hs
    rw [availFrame_init h.range hs h.playout] at hf
    have hfirst : ringNext l.pAuto.startFrame l.pAuto.endFrame (l.pAuto.startFrame - 1) =
        l.front := by
      rw [l.front_of_not_mem hact, ringNext, if_pos (by omega)]
      omega
    have hrun := h.run
    rw [← hfirst] at hrun
    have hfree : ∀ x, l.pAuto.Mem x →
        (decide ((l.pAuto.frameStamp x).validCount = 0) = true ↔ ¬ Waiting l.pAuto x) := by
      intro x hx
      rw [h.waiting_init hs hx]
      have := h.nonneg x hx
      simp
      omega
    obtain ⟨hmem, -, hoff, -⟩ := hrun.scan (by omega) (by omega) (fun x hx _ => hfree x hx) hf
    rw [hfirst] at hoff
    have hzero := (ringScan_some hle (by omega) hf).1
    refine ⟨hmem, by simpa using hzero, ?_, hoff⟩
    rintro rfl
    exact hact hmem
  · have hact := mem_active_of_availFrame hf hs
    have hdis : l.pAuto.state ≠ disabled := by
      intro hd
      simp [availFrame, hd, h.playout] at hf
    rw [availFrame_play h.range hact hs hdis h.playout] at hf
    have hfirst : ringNext l.pAuto.startFrame l.pAuto.endFrame l.pAuto.activeFrame = l.front :=
      (l.front_of_mem hact).symm
    have hlast : l.off l.pAuto.activeFrame = l.pAuto.endFrame - l.pAuto.startFrame := by
      rw [Local.off, ← hfirst]
      exact ringOff_base_next_self hact
    have hcur : l.pAuto.startFrame - 1 ≤ l.pAuto.activeFrame := by
      have := hact.1
      omega
    have hrun := h.run
    rw [← hfirst] at hrun
    have hfree : ∀ x, l.pAuto.Mem x →
        ringOff l.pAuto.startFrame l.pAuto.endFrame
          (ringNext l.pAuto.startFrame l.pAuto.endFrame l.pAuto.activeFrame) x <
            (l.pAuto.endFrame - l.pAuto.startFrame).toNat →
        (decide ((l.pAuto.frameStamp x).validCount = 0) = true ↔ ¬ Waiting l.pAuto x) := by
      intro x hx hxn
      have hxa : x ≠ l.pAuto.activeFrame := by
        rintro rfl
        rw [hfirst, ← Local.off] at hxn
        omega
      have := h.nonneg x hx
      simp [Waiting, hxa]
      omega
    obtain ⟨hmem, -, hoff, hlt⟩ := hrun.scan hcur (by omega) hfree hf
    rw [hfirst] at hoff
    have hzero := (ringScan_some hle hcur hf).1
    refine ⟨hmem, by simpa using hzero, ?_, hoff⟩
    rintro rfl
    rw [Local.off] at hlast
    omega

/-! ### Transfers -/

/-- Beginning a transfer takes the first frame after those waiting. -/
lemma PlayPlace.begin (h : PlayPlace l g m) {p : AutoCirculateTransfer} {env : TransferEnv}
    (partner : Partner) (hok : l.PlayOk (.beginTransfer p env)) :
    PlayPlace (l.step partner (.beginTransfer p env)) g m := by
  obtain ⟨hone, hmax⟩ := hok
  have hu := unmoved_autoBegin p env l.pAuto
  have hstate := state_autoBegin p env l.pAuto
  refine h.keep hu rfl ?_ ?_ ?_ (fun f _ => ?_) (fun f hf => ?_) (fun _ _ => ⟨?_, ?_⟩)
    (fun n hn => ?_)
  · intro hl
    simpa only [InternalAutoCirculate.Live, Local.step, hstate] using hl
  · intro hs
    simpa only [Local.step, hstate] using hs
  · simpa only [Local.step, hstate] using h.untimed
  · simp only [Waiting, Local.step, autoBegin_validCount, hu.activeFrame]
  · rw [Local.step, autoBegin_validCount]
    exact h.nonneg f hf
  · intro hv
    rwa [Local.step, autoBegin_validCount]
  · exact autoBegin_stamp (·.videoTransferPending) (fun _ _ _ _ _ => rfl) p env _ _
  · have hn' : autoTransferFrame l.pAuto = some n := hn
    have hframe := hn'
    rw [autoTransferFrame] at hframe
    split at hframe
    · exact absurd hframe (by simp)
    · cases hav : availFrame l.pAuto with
      | none => simp [hav, h.playout] at hframe
      | some f =>
          obtain ⟨hmem, -, hne, hoff⟩ := h.avail hav
          rw [hav, Option.some.injEq] at hframe
          have hback := (h.range.inBounds hmem).natCast_toUInt32
          refine ⟨f, hframe.symm, (hu.toSameRing.mem f).mpr hmem, ?_, Or.inl ⟨?_, ?_⟩⟩
          · have hrepeat : ((autoBegin p env l.pAuto).frameStamp f).repeatCount =
                toInt32 p.acFrameRepeatCount := by
              have hplay : (autoCircFindNextAvailFrame l.pAuto).2.recording = false := by
                rw [autoCircFindNextAvailFrame, hav]
                exact h.playout
              have hbegin : autoBegin p env l.pAuto =
                  beginAutoCircTransfer n p env (autoCircFindNextAvailFrame l.pAuto).2 := by
                rw [autoBegin, hn']
              rw [hbegin, ← hframe]
              simp [beginAutoCircTransfer, hplay, hback]
            show 1 ≤ ((autoBegin p env l.pAuto).frameStamp f).repeatCount
            rw [hrepeat, toInt32_natCast hmax]
            omega
          · rwa [show (l.step partner (.beginTransfer p env)).pAuto.activeFrame = _ from
              hu.activeFrame]
          · rw [Unmoved.off hu]
            exact hoff

/-- The stamps of a playout channel after a transfer. -/
lemma completeAuto_play {n : ℕ} {u p : Bool} {a : InternalAutoCirculate}
    (hplay : a.recording = false) (hin : completeInRange n a = true) :
    completeAuto n u p a = a.setStamp n
      { a.frameStamp n with
        videoTransferPending := p
        validCount := if u then (a.frameStamp n).repeatCount else (a.frameStamp n).validCount } := by
  simp [completeAuto, hin, hplay]

/-- A transfer that is over, on the channel: only the stamp of its frame changes. -/
structure Completes (l l' : Local) (u : Bool) (f : Int) : Prop where
  unmoved : Unmoved l.pAuto l'.pAuto
  reg : l'.reg = l.reg
  state : l'.pAuto.state = l.pAuto.state
  inflight : l'.inflight = none
  others : ∀ x, x ≠ f → l'.pAuto.frameStamp x = l.pAuto.frameStamp x
  valid : (l'.pAuto.frameStamp f).validCount =
    if u then (l.pAuto.frameStamp f).repeatCount else (l.pAuto.frameStamp f).validCount

lemma PlayPlace.completes (h : PlayPlace l g m) (u p : Bool) {f : Int}
    (hl : l.inflight = some (toUInt32 f)) (hf : l.pAuto.Mem f) :
    Completes l (l.complete u p) u f := by
  have hback := (h.range.inBounds hf).natCast_toUInt32
  have hin : completeInRange (toUInt32 f) l.pAuto = true :=
    h.range.completeInRange_iff.mpr (by rwa [hback])
  have heq : l.complete u p = { l with
      pAuto := l.pAuto.setStamp f
        { l.pAuto.frameStamp f with
          videoTransferPending := p
          validCount :=
            if u then (l.pAuto.frameStamp f).repeatCount else (l.pAuto.frameStamp f).validCount }
      inflight := none } := by
    have hc := completeAuto_play (u := u) (p := p) h.playout hin
    rw [hback] at hc
    rw [Local.complete, hl, ← hc]
  rw [heq]
  refine ⟨.setStamp (.refl _) _ _, rfl, rfl, rfl, fun x hx => ?_, ?_⟩
  · exact setStamp_of_ne _ _ _ hx
  · rw [setStamp_same]

section Complete

variable {u : Bool} {f : Int}

/-- A transfer does not touch the frame that would be shown next. -/
lemma Completes.next (hc : Completes l l' u f) (hp : PlayInflight l m f) (hm : 0 < m) :
    ((l.pAuto.frameStamp l.pAuto.activeFrame).validCount = 0 →
      (l'.pAuto.frameStamp l.pAuto.activeFrame).validCount = 0) ∧
    (l'.pAuto.frameStamp l.front).videoTransferPending =
      (l.pAuto.frameStamp l.front).videoTransferPending := by
  rcases hp.place with ⟨hne, hend⟩ | ⟨-, hempty⟩
  · have hff : l.front ≠ f := by
      rintro rfl
      rw [Local.off, ringOff_self] at hend
      omega
    rw [hc.others _ hne.symm, hc.others _ hff]
    exact ⟨id, rfl⟩
  · omega

/-- A transfer that does not update its frame changes nothing. -/
lemma PlayPlace.complete_idle (h : PlayPlace l g m) (hc : Completes l l' false f)
    (hp : PlayInflight l m f) : PlayPlace l' g m := by
  have hvalid : ∀ x, (l'.pAuto.frameStamp x).validCount = (l.pAuto.frameStamp x).validCount := by
    intro x
    by_cases hx : x = f
    · rw [hx, hc.valid]
      rfl
    · rw [hc.others x hx]
  refine h.keep hc.unmoved hc.reg ?_ ?_ ?_ (fun x _ => ?_) (fun x hx => ?_)
    (fun hm _ => hc.next hp hm) (fun n hn => ?_)
  · rw [InternalAutoCirculate.Live, hc.state]
    exact id
  · rw [hc.state]
    exact id
  · rw [hc.state]
    exact h.untimed
  · rw [Waiting, Waiting, hvalid, hc.unmoved.activeFrame]
  · rw [hvalid]
    exact h.nonneg x hx
  · rw [hc.inflight] at hn
    exact absurd hn (by simp)

/-- A transfer onto the active frame is shown at once. -/
lemma PlayPlace.complete_active (h : PlayPlace l g 0) (hc : Completes l l' true f)
    (hp : PlayInflight l 0 f) (hact : f = l.pAuto.activeFrame) :
    PlayPlace l' ⟨g.sent + 1, Function.update g.content f g.sent, g.shown ++ [g.sent]⟩ 0 := by
  have hsent := h.sent
  have hwait : ∀ x, l.pAuto.Mem x → (Waiting l'.pAuto x ↔ Waiting l.pAuto x) := by
    intro x _
    rw [Waiting, Waiting, hc.unmoved.activeFrame]
    constructor <;> rintro ⟨hv, hne⟩
    · exact ⟨by rwa [hc.others x (by rwa [hact])] at hv, hne⟩
    · exact ⟨by rwa [hc.others x (by rwa [hact])], hne⟩
  refine h.of_unmoved hc.unmoved hc.reg ?_ ?_ ?_ (fun x hx => ?_) (h.run.congr hwait)
    (fun x hx hw => ?_) (fun hm => absurd hm (lt_irrefl 0)) ?_ ?_ (fun n hn => ?_)
  · rw [InternalAutoCirculate.Live, hc.state]
    exact id
  · rw [hc.state]
    exact id
  · rw [hc.state]
    exact h.untimed
  · by_cases hxf : x = f
    · have := hp.repeats
      rw [hxf, hc.valid, if_pos rfl]
      omega
    · rw [hc.others x hxf]
      exact h.nonneg x hx
  · have := (h.run.used x hx).mp ((hwait x hx).mp hw)
    have := (ringOff_mem h.mem_front hx).1
    omega
  · simp
    omega
  · have hlast : g.sent = g.shown.length := by omega
    simp only [List.length_append, List.length_singleton, List.range_succ, ← h.shown, hlast]
  · rw [hc.inflight] at hn
    exact absurd hn (by simp)

/-- A transfer to the frame after those waiting: it is the last of them now. -/
lemma PlayPlace.complete_last (h : PlayPlace l g m) (hc : Completes l l' true f)
    (hp : PlayInflight l m f) (hact : f ≠ l.pAuto.activeFrame) (hend : l.off f = m) :
    PlayPlace l' ⟨g.sent + 1, Function.update g.content f g.sent, g.shown⟩ (m + 1) := by
  have hsent := h.sent
  have hwait : ∀ x, l.pAuto.Mem x → x ≠ f → (Waiting l'.pAuto x ↔ Waiting l.pAuto x) := by
    intro x _ hxf
    rw [Waiting, Waiting, hc.unmoved.activeFrame, hc.others x hxf]
  have hnew : Waiting l'.pAuto f := by
    have := hp.repeats
    rw [Waiting, hc.unmoved.activeFrame, hc.valid, if_pos rfl]
    exact ⟨by omega, hact⟩
  refine h.of_unmoved hc.unmoved hc.reg ?_ ?_ ?_ (fun x hx => ?_)
    (h.run.push h.mem_front hp.mem hend hnew hwait) (fun x hx hw => ?_)
    (fun hm _ => ⟨by omega, hc.next hp hm⟩) ?_ h.shown (fun n hn => ?_)
  · rw [InternalAutoCirculate.Live, hc.state]
    exact id
  · rw [hc.state]
    exact id
  · rw [hc.state]
    exact h.untimed
  · by_cases hxf : x = f
    · rw [hxf]
      exact hnew.1.le
    · rw [hc.others x hxf]
      exact h.nonneg x hx
  · by_cases hxf : x = f
    · subst hxf
      simp only [Function.update_self]
      omega
    · simp only [Function.update_of_ne hxf]
      exact h.content x hx ((hwait x hx hxf).mp hw)
  · simp only
    omega
  · rw [hc.inflight] at hn
    exact absurd hn (by simp)

end Complete

/-- Completing a transfer: its frame is the last of those waiting now, or is shown at
once. -/
lemma PlayPlace.complete (h : PlayPlace l g m) (u p : Bool) :
    ∃ k, PlayPlace (l.complete u p) (g.step l (l.complete u p) (.completeTransfer u p)) k := by
  cases hl : l.inflight with
  | none =>
      refine ⟨m, ?_⟩
      have hsame : l.complete u p = l := by
        rw [Local.complete, hl]
      have hlog : g.step l l (.completeTransfer u p) = g := by
        cases u <;> simp [PlayoutLog.step, hl]
      rw [hsame, hlog]
      exact h
  | some n =>
      obtain ⟨f, rfl, hp⟩ := h.inflight n hl
      have hback := (h.range.inBounds hp.mem).natCast_toUInt32
      have hc := h.completes u p hl hp.mem
      cases u with
      | false => exact ⟨m, h.complete_idle hc hp⟩
      | true =>
          simp only [PlayoutLog.step, hl, hback]
          rcases hp.place with ⟨hne, hend⟩ | ⟨hact, rfl⟩
          · refine ⟨m + 1, ?_⟩
            rw [if_neg hne]
            exact h.complete_last hc hp hne hend
          · refine ⟨0, ?_⟩
            rw [if_pos hact]
            exact h.complete_active hc hp hact

/-! ### Every event -/

/-- The frame a preroll adds to is the one before the frame found free. -/
lemma prerollFrame_eq {a : InternalAutoCirculate} (hrange : a.RangeOk) {f : Int} (hf : a.Mem f)
    (hact : a.Mem a.activeFrame) (hne : f ≠ a.activeFrame) :
    (prerollFrame (a.setNextTransfer f) : Int) = kautoPrevFrame f a := by
  have hin := hrange.inBounds hf
  have hback := hin.natCast_toUInt32
  have hsigned : toInt32 (toUInt32 f) = f := by
    rw [← hback] at hin
    rw [hin.toInt32, hback]
  have hnumbers : (a.setNextTransfer f).nextTransferFrame ≠
      toUInt32 (a.setNextTransfer f).activeFrame := by
    intro heq
    have hactive := (hrange.inBounds hact).natCast_toUInt32
    have hsame : toUInt32 f = toUInt32 a.activeFrame := heq
    rw [← hsame, hback] at hactive
    exact hne hactive
  have hprev := (hrange.inBounds (hrange.mem_prev hf)).natCast_toUInt32
  rw [← hprev, prerollFrame, if_pos hnumbers]
  show ((toUInt32 (kautoPrevFrame (toInt32 (toUInt32 f)) a) : ℕ) : Int) = _
  rw [hsigned]

/-- The frame before the first free one is the last of those waiting, or the active one. -/
lemma PlayPlace.prev_avail (h : PlayPlace l g m) (hact : l.pAuto.Mem l.pAuto.activeFrame)
    {f : Int} (hf : availFrame l.pAuto = some f) :
    m = 0 ∧ kautoPrevFrame f l.pAuto = l.pAuto.activeFrame ∨
      0 < m ∧ Waiting l.pAuto (kautoPrevFrame f l.pAuto) := by
  obtain ⟨hmem, -, -, hoff⟩ := h.avail hf
  have hfront := h.mem_front
  have hprev := h.range.mem_prev hmem
  have hnext : ringNext l.pAuto.startFrame l.pAuto.endFrame (kautoPrevFrame f l.pAuto) = f :=
    ringNext_prev hmem
  by_cases hff : f = l.front
  · left
    rw [hff, Local.off, ringOff_self] at hoff
    refine ⟨by omega, ?_⟩
    rw [hff, l.front_of_mem hact]
    exact ringPrev_next hact
  · right
    have hstep := ringOff_next hfront hprev (by rwa [hnext])
    rw [hnext] at hstep
    have hnn := (ringOff_mem hfront hprev).1
    rw [Local.off] at hoff
    exact ⟨by omega, (h.run.used _ hprev).mpr (by omega)⟩

/-- A preroll adds to the count of the frame queued last, or of the active one. -/
lemma PlayPlace.preroll (h : PlayPlace l g m) {n : Int} (hok : l.PlayOk (.preroll n)) :
    PlayPlace (l.preroll n) g m := by
  obtain ⟨hn, hmax⟩ := hok
  rw [Local.preroll]
  split
  swap
  · exact h
  next hcan =>
  obtain ⟨hlive, -⟩ := hcan
  have hact := h.live hlive
  cases hav : availFrame l.pAuto with
  | none => exact h
  | some f =>
      obtain ⟨hmem, -, hne, -⟩ := h.avail hav
      have hframe := prerollFrame_eq h.range hmem hact hne
      have hprev := h.range.mem_prev hmem
      have hlast := h.prev_avail hact hav
      have hcount := hmax f hav
      rw [hframe] at hcount
      have hpos := h.nonneg _ hprev
      -- only one count changes
      have hstamp : ∀ x, ((prerollAuto n (l.pAuto.setNextTransfer f)).frameStamp x) =
          if x = kautoPrevFrame f l.pAuto then
            { l.pAuto.frameStamp x with validCount := (l.pAuto.frameStamp x).validCount + n }
          else l.pAuto.frameStamp x := by
        intro x
        have hsum : toInt32 ((l.pAuto.frameStamp (kautoPrevFrame f l.pAuto)).validCount + n) =
            (l.pAuto.frameStamp (kautoPrevFrame f l.pAuto)).validCount + n :=
          toInt32_eq_self ⟨by omega, by omega⟩
        rw [prerollAuto]
        dsimp only
        rw [hframe]
        by_cases hx : x = kautoPrevFrame f l.pAuto
        · rw [if_pos hx, hx, setStamp_same]
          split <;> simp [InternalAutoCirculate.setNextTransfer, hsum]
        · rw [if_neg hx, setStamp_of_ne _ _ _ hx]
          split <;> rfl
      have hvalid : ∀ x, x ≠ kautoPrevFrame f l.pAuto →
          ((prerollAuto n (l.pAuto.setNextTransfer f)).frameStamp x).validCount =
            (l.pAuto.frameStamp x).validCount := by
        intro x hx
        rw [hstamp, if_neg hx]
      have hu : Unmoved l.pAuto (prerollAuto n (l.pAuto.setNextTransfer f)) :=
        (unmoved_setNextTransfer l.pAuto f).trans (unmoved_prerollAuto n _)
      have hstate := prerollAuto_state n (l.pAuto.setNextTransfer f)
      refine h.keep hu rfl (fun _ => hlive) ?_ ?_ (fun x hx => ?_) (fun x hx => ?_)
        (fun hm _ => ⟨fun hv => ?_, ?_⟩) (fun k hk => ?_)
      · intro hs
        simp only [hstate] at hs
        split at hs
        · exact absurd hs (by decide)
        · exact hs
      · simp only [hstate]
        split
        · decide
        · exact h.untimed
      · simp only [Waiting, hu.activeFrame]
        by_cases hxp : x = kautoPrevFrame f l.pAuto
        · rcases hlast with ⟨-, hprevAct⟩ | ⟨-, hw⟩
          · simp [hxp, hprevAct]
          · rw [hxp, hstamp, if_pos rfl]
            have := hw.1
            simp [hw.2]
            omega
        · rw [hvalid x hxp]
      · by_cases hxp : x = kautoPrevFrame f l.pAuto
        · rw [hxp]
          simp only [hstamp, if_true]
          omega
        · simp only [hvalid x hxp]
          exact h.nonneg x hx
      · obtain ⟨-, hw⟩ := hlast.resolve_left (by omega)
        simp only [hvalid _ hw.2.symm]
        exact hv
      · simp only [hstamp]
        split <;> rfl
      · obtain ⟨f', hf', hp⟩ := h.inflight k hk
        refine ⟨f', hf', hp.of_unmoved hu ?_⟩
        simp only [hstamp]
        split <;> rfl

/-- Every event that a run may ask for keeps the frames waiting in order. -/
lemma PlayPlace.step (h : PlayPlace l g m) (partner : Partner) {e : ChannelEvent}
    (hok : l.PlayOk e) : ∃ k, PlayPlace (l.step partner e) (g.step l (l.step partner e) e) k := by
  cases e with
  | start t => exact h.start t
  | tick env => exact h.tick env partner
  | completeTransfer u p => exact h.complete u p
  | beginTransfer p env => exact ⟨m, h.begin partner hok⟩
  | preroll n => exact ⟨m, h.preroll hok⟩
  | flush b => exact absurd hok id
  | stop => exact ⟨m, h.untouched (untouched_stop partner l) (Or.inr rfl)⟩
  | pause bPlay bClearDF =>
      exact ⟨m, h.untouched (untouched_pause partner l bPlay bClearDF) (Or.inr rfl)⟩
  | abandon => exact ⟨m, h.untouched ⟨.refl _, rfl, rfl, Or.inl rfl⟩ (Or.inl rfl)⟩
  | elsewhere s => exact ⟨m, h⟩
  | audioSetup env =>
      have hu := unmoved_audioSetup env l.pAuto
      have hvalid := audioSetup_stamp (·.validCount) (fun _ _ => rfl) env l.pAuto
      have hpending := audioSetup_stamp (·.videoTransferPending) (fun _ _ => rfl) env l.pAuto
      have hrepeat := audioSetup_stamp (·.repeatCount) (fun _ _ => rfl) env l.pAuto
      have hstate := state_audioSetup env l.pAuto
      refine ⟨m, h.keep hu rfl ?_ ?_ ?_ (fun x _ => ?_) (fun x hx => ?_)
        (fun _ _ => ⟨fun hv => ?_, ?_⟩) (fun n hn => ?_)⟩
      · simp only [InternalAutoCirculate.Live, Local.step, hstate]
        exact id
      · simp only [Local.step, hstate]
        exact id
      · simp only [Local.step, hstate]
        exact h.untimed
      · simp only [Waiting, Local.step, hvalid, hu.activeFrame]
      · simp only [Local.step, hvalid]
        exact h.nonneg x hx
      · simp only [Local.step, hvalid]
        exact hv
      · simp only [Local.step, hpending]
      · obtain ⟨f, hf, hp⟩ := h.inflight n hn
        exact ⟨f, hf, hp.of_unmoved hu (hrepeat f)⟩

/-- What an interrupt moves a playout channel to is complete. -/
lemma PlayPlace.tick_complete (h : PlayPlace l g m) (env : TickEnv) (partner : Partner) :
    ((l.tick env partner).pAuto.activeFrame ≠ l.pAuto.activeFrame →
      0 < (l.pAuto.frameStamp (l.tick env partner).pAuto.activeFrame).validCount ∧
        (l.pAuto.frameStamp (l.tick env partner).pAuto.activeFrame).videoTransferPending = false) ∧
    ((l.tick env partner).regFrame ≠ l.regFrame →
      0 < (l.pAuto.frameStamp (l.tick env partner).regFrame).validCount ∧
        (l.pAuto.frameStamp (l.tick env partner).regFrame).videoTransferPending = false) := by
  by_cases hidle : tickIdle env l.pAuto = true
  · rw [l.tick_idle partner hidle]
    exact ⟨fun hne => absurd rfl hne, fun hne => absurd rfl hne⟩
  by_cases hlive : l.pAuto.Live
  swap
  · have hstill := untouched_tick l env partner hlive h.untimed
    exact ⟨fun hne => absurd hstill.unmoved.activeFrame hne,
      fun hne => absurd hstill.regFrame hne⟩
  have hmove := l.tickMove partner h.range hidle hlive
  have hspec := playTick_tickAuto env partner l.reg hlive h.playout
  have hentry := sameRing_tickEntry env l.reg l.pAuto
  have hact : (tickEntry env l.reg l.pAuto).activeFrame = l.regFrame :=
    tickEntry_active env l.reg hlive
  refine ⟨fun hne => ?_, fun hne => ?_⟩
  · rw [hmove.active] at hne ⊢
    obtain ⟨hr, hm, -, hp⟩ := (h.reg (h.live hlive)).resolve_left hne
    refine ⟨?_, hp⟩
    rw [hr]
    exact ((h.run.front h.mem_front).mpr hm).1
  · obtain ⟨hf, hr⟩ := hmove.reg.resolve_left fun hf => hne hf.2
    have hadvance := hspec.advance
    rw [hact, hentry.next, hf] at hadvance
    obtain ⟨-, -, hv, hp⟩ := hadvance.resolve_left (by simp)
    rw [← hr] at hv hp
    rw [hspec.others _ (by rwa [hact]), tickEntry_frameStamp] at hv
    rw [hspec.pending, tickEntry_frameStamp] at hp
    have hmem : l.pAuto.Mem (l.tick env partner).regFrame := by
      rw [hr]
      exact h.range.mem_next (h.range.mem_registerFrame l.reg)
    have := h.nonneg _ hmem
    exact ⟨by omega, hp⟩

end Inv

/-! ### Runs -/

section Runs

variable {spec : NTV2Crosspoint}

/-- What may happen to a playout channel: one transfer at a time, and no flush. -/
def Playout.Ok (spec : NTV2Crosspoint) (c : Playout) (e : ChannelEvent) : Prop :=
  c.chan.Ok spec e ∧ (c.chan.view spec).PlayOk e

/-- A playout channel with the frames waiting in order. -/
structure PlayoutInv (spec : NTV2Crosspoint) (c : Playout) : Prop where
  single : Single c.chan.sys spec
  place : ∃ m, PlayPlace (c.chan.view spec) c.log m

/-- Every event keeps a playout channel in order. -/
lemma PlayoutInv.step {c : Playout} (h : PlayoutInv spec c) {e : ChannelEvent}
    (hok : c.Ok spec e) : PlayoutInv spec (c.step spec e) := by
  have hview := Channel.view_step h.single hok.1
  refine ⟨h.single.step hok.1, ?_⟩
  obtain ⟨m, hm⟩ := h.place
  show ∃ k, PlayPlace ((c.chan.step spec e).view spec) (c.log.step _ _ e) k
  rw [hview]
  exact hm.step _ hok.2

/-- A playout channel that has just been initialised, with nothing recorded. -/
def playoutInit (s : NTV2AutoCirc) (args : InitArgs) : Playout where
  chan := ⟨(autoCircInit s args).2, none⟩
  log := .empty

/-- A channel that has just been initialised is in order. -/
lemma playoutInv_init {s : NTV2AutoCirc} {args : InitArgs}
    (hinit : (autoCircInit s args).1 = .success) (hone : args.lChannelCount = 1)
    (hfits : GangFits args) (houtput : isInputCrosspoint args.lChannelSpec = false) :
    PlayoutInv args.lChannelSpec (playoutInit s args) := by
  obtain ⟨hsingle, hauto⟩ := single_init hinit hone hfits
  have hrange := hsingle.auto.range
  have hout : ¬ (initAuto args s 0 args.lChannelSpec).Mem
      (initAuto args s 0 args.lChannelSpec).activeFrame := by
    rw [hauto] at hrange
    rintro ⟨hmem, -⟩
    have hstart := hrange.1
    have hactive : (initAuto args s 0 args.lChannelSpec).activeFrame = -1 := rfl
    omega
  have hfront : Local.front ⟨initAuto args s 0 args.lChannelSpec,
      (autoCircInit s args).2.register (frameRegisterOf args.lChannelSpec), none⟩ =
        (initAuto args s 0 args.lChannelSpec).startFrame := if_neg hout
  have hview : (playoutInit s args).chan.view args.lChannelSpec =
      ⟨initAuto args s 0 args.lChannelSpec,
        (autoCircInit s args).2.register (frameRegisterOf args.lChannelSpec), none⟩ := by
    simp only [Channel.view, playoutInit, hauto]
  rw [hauto] at hrange
  refine ⟨hsingle, 0, ?_⟩
  rw [hview]
  refine ⟨hrange, houtput, by simp [initAuto], ?_, fun _ => hout, fun _ _ => le_rfl, ?_, ?_, ?_, rfl,
    rfl, ?_⟩
  · simp [initAuto, InternalAutoCirculate.Live]
  · rw [hfront]
    exact .empty hrange.mem_start fun f _ hw => absurd hw.1 (lt_irrefl 0)
  · intro f _ hw
    exact absurd hw.1 (lt_irrefl 0)
  · intro hact
    exact absurd hact hout
  · simp

/-- The ring of a playout channel is safe: an interrupt moves on to complete frames only,
a transfer is given a frame that is not in use, and the frames are shown in the order of
their transfers. -/
structure PlayoutSafe (spec : NTV2Crosspoint) (c : Playout) : Prop where
  /-- The frame an interrupt makes the active one was complete. -/
  advanceActive : ∀ env,
    ((c.chan.step spec (.tick env)).view spec).pAuto.activeFrame ≠
        (c.chan.view spec).pAuto.activeFrame →
      0 < ((c.chan.view spec).pAuto.frameStamp
        ((c.chan.step spec (.tick env)).view spec).pAuto.activeFrame).validCount ∧
      ((c.chan.view spec).pAuto.frameStamp
        ((c.chan.step spec (.tick env)).view spec).pAuto.activeFrame).videoTransferPending = false
  /-- The frame an interrupt has the hardware show next was complete. -/
  advanceRegister : ∀ env,
    ((c.chan.step spec (.tick env)).view spec).regFrame ≠ (c.chan.view spec).regFrame →
      0 < ((c.chan.view spec).pAuto.frameStamp
        ((c.chan.step spec (.tick env)).view spec).regFrame).validCount ∧
      ((c.chan.view spec).pAuto.frameStamp
        ((c.chan.step spec (.tick env)).view spec).regFrame).videoTransferPending = false
  /-- A transfer is not given a frame that is waiting, or shown now or next. -/
  picked : ∀ f, availFrame (c.chan.view spec).pAuto = some f →
    ((c.chan.view spec).pAuto.frameStamp f).validCount = 0 ∧
      f ≠ (c.chan.view spec).pAuto.activeFrame ∧
      ((c.chan.view spec).pAuto.Mem (c.chan.view spec).pAuto.activeFrame →
        f ≠ (c.chan.view spec).regFrame)
  /-- The transfers are shown in their order, and none is left out. -/
  shown : c.log.shown = List.range c.log.shown.length ∧ c.log.shown.length ≤ c.log.sent

/-- **Frames are shown in the order of their transfers, each complete**, in every state a
playout channel reaches from `AutoCircInit` on, as long as one transfer is over before the
next begins, each asks for at least one showing, and no preroll overflows. -/
theorem playout_ring (s : NTV2AutoCirc) (args : InitArgs) {t : Playout}
    (hinit : (autoCircInit s args).1 = .success) (hone : args.lChannelCount = 1)
    (hfits : GangFits args) (houtput : isInputCrosspoint args.lChannelSpec = false)
    (hrun : RunsTo (Playout.step args.lChannelSpec) (Playout.Ok args.lChannelSpec)
      (playoutInit s args) t) : PlayoutSafe args.lChannelSpec t := by
  have hinv : PlayoutInv args.lChannelSpec t :=
    hrun.invariant (playoutInv_init hinit hone hfits houtput) fun _ _ hok hc => hc.step hok
  obtain ⟨m, hplace⟩ := hinv.place
  have htick : ∀ env, (t.chan.step args.lChannelSpec (.tick env)).view args.lChannelSpec =
      (t.chan.view args.lChannelSpec).tick env (partnerOf t.chan.sys args.lChannelSpec) :=
    fun env => Channel.view_step hinv.single (e := .tick env) trivial
  refine ⟨?_, ?_, ?_, hplace.shown, ?_⟩
  · intro env
    rw [htick]
    exact (hplace.tick_complete env _).1
  · intro env
    rw [htick]
    exact (hplace.tick_complete env _).2
  · intro f hf
    obtain ⟨-, hv, hne, hoff⟩ := hplace.avail hf
    refine ⟨hv, hne, ?_⟩
    rintro hact rfl
    rcases hplace.reg hact with hr | ⟨hr, hm, -, -⟩
    · exact hne hr
    · rw [hr, Local.off, ringOff_self] at hoff
      omega
  · have := hplace.sent
    omega

/-- A playout channel with frames `0` to `9`, after some events. -/
def playoutRun (es : List ChannelEvent) : Playout :=
  es.foldl (Playout.step .channel1) (playoutInit .idle (.plain .channel1 0 9 1))

/-- `playout_ring` for a channel that shows the first of two frames. -/
theorem playout_ring_two_sent :
    PlayoutSafe .channel1 (playoutRun [.beginPlain .channel1 1, .completeTransfer true false,
      .start 0, .beginPlain .channel1 2, .completeTransfer true false, .tick (.plain 1),
      .tick (.plain 2)]) := by
  refine playout_ring .idle (.plain .channel1 0 9 1) (by decide +kernel) rfl (by decide) rfl ?_
  have hone : ∀ n, 1 ≤ n ∧ n < 2 ^ 31 → ∀ l : Local, l.PlayOk (.beginPlain .channel1 n) :=
    fun _ h _ => h
  exact RunsTo.foldl ⟨⟨rfl, hone 1 (by decide) _⟩, ⟨trivial, trivial⟩, ⟨trivial, trivial⟩,
    ⟨rfl, hone 2 (by decide) _⟩, ⟨trivial, trivial⟩, ⟨trivial, trivial⟩, ⟨trivial, trivial⟩, trivial⟩

/-- The commands of playout, with prerolls that add to the count of a frame. -/
def ChannelEvent.OfPlayout : ChannelEvent → Prop
  | .start _ | .tick _ | .beginTransfer _ _ | .audioSetup _ | .completeTransfer _ _ => True
  | .preroll n => 0 ≤ n
  | _ => False

/-- A playout channel that has started after two transfers, the first of them for no
showing at all. -/
def startedPlayoutRun : Playout :=
  playoutRun [.beginPlain .channel1 0, .completeTransfer true false, .beginPlain .channel1 1,
    .completeTransfer true false, .start 0]

/-- A playout channel with a transfer in progress. -/
def busyPlayout : Playout := playoutRun [.beginPlain .channel1 1]

/-- What the ring of a playout channel does not guarantee: a transfer that asks for no
showing is left out, and its frame is given to the next one; and two transfers at a time
are given the same frame. -/
theorem playout_ring_fails :
    (¬ ∀ s args t, (autoCircInit s args).1 = .success → args.lChannelCount = 1 → GangFits args →
      isInputCrosspoint args.lChannelSpec = false →
      RunsTo (Playout.step args.lChannelSpec) (fun _ e => e.OfPlayout) (playoutInit s args) t →
      t.log.shown = List.range t.log.shown.length) ∧
    busyPlayout.chan.inflight = some 0 ∧
    autoTransferFrame (busyPlayout.chan.sys.autoCirculate .channel1) = some 0 := by
  refine ⟨fun h => ?_, ?_, ?_⟩
  · have hrun : RunsTo (Playout.step .channel1) (fun _ e => e.OfPlayout)
        (playoutInit .idle (.plain .channel1 0 9 1)) startedPlayoutRun :=
      RunsTo.foldl ⟨trivial, trivial, trivial, trivial, trivial, trivial⟩
    have hshown := h .idle (.plain .channel1 0 9 1) _ (by decide +kernel) rfl (by decide) rfl hrun
    revert hshown
    decide +kernel
  all_goals decide +kernel

end Runs

end LibAjaNtv2
