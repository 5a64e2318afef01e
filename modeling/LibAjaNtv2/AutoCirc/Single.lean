import LibAjaNtv2.AutoCirc.InitRange

/-!
One channel on its own, whatever the other channels do.

* `Single`: a channel that leads a gang of one, as `AutoCircInit` leaves it;
* `ChannelEvent`: what can happen to it, with a transfer in two halves;
* `Channel`, `Channel.step`: the driver, and the transfer in progress on the channel;
* `Local`, `Local.step`: the same on the circulator and its frame register alone;
* `Channel.view_step`: **the channel depends on nothing else** but the answers of its
  partner;
* `single_init`, `Single.step`: every run from `AutoCircInit` is one of these;
* `TickMove`: what an interrupt does to the places of a live channel;
* `Untouched`: what leaves the places and the frames alone.
-/

namespace LibAjaNtv2

open NTV2AutoCirculateState

/-! ### A channel that leads a gang of one -/

/-- The circulator of a channel that leads a gang of one. -/
structure SingleAuto (spec : NTV2Crosspoint) (a : InternalAutoCirculate) : Prop where
  alone : a.channelCount = 1
  register : a.activeFrameRegister = frameRegisterOf spec
  named : a.channelSpec = spec
  range : a.RangeOk

/-- The channel leads a gang of one. -/
structure Single (s : NTV2AutoCirc) (spec : NTV2Crosspoint) : Prop where
  legal : illegalChannelSpec spec = false
  auto : SingleAuto spec (s.autoCirculate spec)

/-- Only the ring matters. -/
lemma SingleAuto.of_sameRing {spec : NTV2Crosspoint} {a b : InternalAutoCirculate}
    (h : SingleAuto spec a) (hr : SameRing a b) : SingleAuto spec b where
  alone := hr.channelCount.trans h.alone
  register := hr.register.trans h.register
  named := hr.channelSpec.trans h.named
  range := hr.rangeOk h.range

/-- A successful request for one channel leaves a channel that leads a gang of one. -/
lemma single_init {s : NTV2AutoCirc} {args : InitArgs} (h : (autoCircInit s args).1 = .success)
    (hone : args.lChannelCount = 1) (hfits : GangFits args) :
    Single (autoCircInit s args).2 args.lChannelSpec ∧
      (autoCircInit s args).2.autoCirculate args.lChannelSpec =
        initAuto args s 0 args.lChannelSpec := by
  obtain ⟨hp, -⟩ := autoCircInit_success_iff.mp h
  have hmember := autoCircInit_member h (j := 0) (by omega)
  rw [gangSpec_zero hp.1] at hmember
  refine ⟨⟨hp.1, ?_⟩, hmember⟩
  rw [hmember]
  exact ⟨by simpa [initAuto] using hone, rfl, rfl, initAuto_rangeOk s _ hp hfits (by omega)⟩

/-! ### What happens to it -/

/-- What can happen to a channel: commands, interrupts, the parts of a transfer that
chooses its frame, and anything that leaves the channel alone. -/
inductive ChannelEvent where
  | start (startTime : Int)
  | stop
  | pause (bPlay bClearDF : Bool)
  | flush (bClearDF : Bool)
  | preroll (lPrerollFrames : Int)
  | tick (env : TickEnv)
  | beginTransfer (pTransfer : AutoCirculateTransfer) (env : TransferEnv)
  | audioSetup (env : TransferEnv)
  | completeTransfer (updateValid transferPending : Bool)
  /-- The DMA fails, and the transfer ends without its second half. -/
  | abandon
  /-- Something happens to the rest of the system. -/
  | elsewhere (s : NTV2AutoCirc)

/-- Begin the transfer of a frame the driver chooses. -/
def ChannelEvent.beginPlain (spec : NTV2Crosspoint) (frameRepeatCount : ℕ) : ChannelEvent :=
  .beginTransfer (.plain spec (-1) frameRepeatCount) .plain

/-- The driver, and the frame of the transfer in progress on the channel. -/
structure Channel where
  sys : NTV2AutoCirc
  inflight : Option ℕ

/-- The frame of a transfer that leaves the choice to the driver. -/
def autoTransferFrame (pAuto : InternalAutoCirculate) : Option ℕ :=
  if transferNotReady pAuto then none
  else match availFrame pAuto with
    | some f => some (toUInt32 f)
    | none => if pAuto.recording then some (toUInt32 pAuto.startFrame) else none

/-- The first half of such a transfer, on the circulator. -/
def autoBegin (pTransfer : AutoCirculateTransfer) (env : TransferEnv)
    (pAuto : InternalAutoCirculate) : InternalAutoCirculate :=
  match autoTransferFrame pAuto with
  | some f => beginAutoCircTransfer f pTransfer env (autoCircFindNextAvailFrame pAuto).2
  | none => pAuto

/-- The channel after an event. -/
def Channel.step (spec : NTV2Crosspoint) (c : Channel) : ChannelEvent → Channel
  | .start startTime => { c with sys := (autoCircStart c.sys spec startTime).2 }
  | .stop => { c with sys := (autoCircStop c.sys spec).2 }
  | .pause bPlay bClearDF => { c with sys := (autoCircPause c.sys spec bPlay bClearDF).2 }
  | .flush bClearDF => { c with sys := (autoCircFlush c.sys spec bClearDF).2 }
  | .preroll lPrerollFrames => { c with sys := (autoCircPreroll c.sys spec lPrerollFrames).2 }
  | .tick env => { c with sys := (autoCirculate c.sys spec env).2 }
  | .beginTransfer pTransfer env =>
      { sys := c.sys.setAuto spec (autoBegin pTransfer env (c.sys.autoCirculate spec))
        inflight := autoTransferFrame (c.sys.autoCirculate spec) }
  | .audioSetup env =>
      { c with sys := c.sys.setAuto spec (autoCircDmaAudioSetup env (c.sys.autoCirculate spec)).2 }
  | .completeTransfer updateValid transferPending =>
      match c.inflight with
      | some f =>
          { sys := c.sys.setAuto spec
              (completeAuto f updateValid transferPending (c.sys.autoCirculate spec))
            inflight := none }
      | none => c
  | .abandon => { c with inflight := none }
  | .elsewhere s => { c with sys := s }

/-- One transfer at a time, and what happens elsewhere leaves the channel alone. -/
def Channel.Ok (spec : NTV2Crosspoint) (c : Channel) : ChannelEvent → Prop
  | .beginTransfer _ _ => c.inflight = none
  | .elsewhere s => s.autoCirculate spec = c.sys.autoCirculate spec ∧
      s.register (frameRegisterOf spec) = c.sys.register (frameRegisterOf spec)
  | _ => True

/-! ### The channel alone -/

/-- A circulator, its frame register, and the transfer in progress. -/
structure Local where
  pAuto : InternalAutoCirculate
  reg : ℕ
  inflight : Option ℕ

/-- What there is of a channel in the driver. -/
def Channel.view (spec : NTV2Crosspoint) (c : Channel) : Local where
  pAuto := c.sys.autoCirculate spec
  reg := c.sys.register (frameRegisterOf spec)
  inflight := c.inflight

/-- One interrupt on a circulator and its frame register. -/
def Local.tick (env : TickEnv) (partner : Partner) (l : Local) : Local :=
  if tickIdle env l.pAuto then l
  else
    let r := tickAuto env partner l.reg l.pAuto
    { l with
      pAuto := r.pAuto
      reg := match r.frame with
        | some nextFrame => toUInt32 nextFrame
        | none => l.reg }

/-- `AutoCircStart` on a circulator and its frame register. -/
def Local.start (startTime : Int) (l : Local) : Local :=
  if l.pAuto.state = init then
    { l with pAuto := startAuto startTime l.pAuto, reg := toUInt32 l.pAuto.startFrame }
  else l

/-- `AutoCircFlush` on a circulator and its frame register. -/
def Local.flush (bClearDF : Bool) (l : Local) : Local :=
  if l.pAuto.state = init ∨ l.pAuto.state = running ∨ l.pAuto.state = paused then
    { l with pAuto := flushAuto bClearDF l.reg l.pAuto }
  else l

/-- `AutoCircPreroll` on a circulator. -/
def Local.preroll (lPrerollFrames : Int) (l : Local) : Local :=
  if l.pAuto.Live ∧ l.pAuto.recording = false then
    match availFrame l.pAuto with
    | some f => { l with pAuto := prerollAuto lPrerollFrames (l.pAuto.setNextTransfer f) }
    | none => l
  else l

/-- The second half of the transfer in progress, if there is one. -/
def Local.complete (updateValid transferPending : Bool) (l : Local) : Local :=
  match l.inflight with
  | some f =>
      { l with
        pAuto := completeAuto f updateValid transferPending l.pAuto
        inflight := none }
  | none => l

/-- One event on a circulator and its frame register. -/
def Local.step (partner : Partner) (l : Local) : ChannelEvent → Local
  | .start startTime => l.start startTime
  | .stop => { l with pAuto := stopAuto l.pAuto }
  | .pause bPlay bClearDF => { l with pAuto := pauseAuto bPlay bClearDF l.pAuto }
  | .flush bClearDF => l.flush bClearDF
  | .preroll lPrerollFrames => l.preroll lPrerollFrames
  | .tick env => l.tick env partner
  | .beginTransfer pTransfer env =>
      { l with
        pAuto := autoBegin pTransfer env l.pAuto
        inflight := autoTransferFrame l.pAuto }
  | .audioSetup env => { l with pAuto := (autoCircDmaAudioSetup env l.pAuto).2 }
  | .completeTransfer updateValid transferPending => l.complete updateValid transferPending
  | .abandon => { l with inflight := none }
  | .elsewhere _ => l

section View

variable {spec : NTV2Crosspoint} {s : NTV2AutoCirc} {c : Channel}

/-- A gang of one: the command is what it does to its one member. -/
lemma Single.forGang (h : Single s spec)
    (body : ℕ → NTV2Crosspoint → NTV2AutoCirc → Ntv2Status × NTV2AutoCirc) :
    forGang s spec body = body 0 spec s := by
  have hspec : getNTV2CrosspointForIndex (getIndexForNTV2Crosspoint spec + 0) = spec :=
    crosspointForIndex_index h.legal
  have hone : (s.autoCirculate spec).channelCount.toNat = 1 := by
    rw [h.auto.alone]
    rfl
  rw [LibAjaNtv2.forGang, hone, gangLoop_one, hspec]

lemma view_setAuto (a : InternalAutoCirculate) (f : Option ℕ) :
    Channel.view spec ⟨s.setAuto spec a, f⟩ = ⟨a, s.register (frameRegisterOf spec), f⟩ := by
  simp [Channel.view]

lemma Single.view_start (h : Single c.sys spec) (t : Int) :
    (c.step spec (.start t)).view spec = (c.view spec).step (partnerOf c.sys spec) (.start t) := by
  have hreg : frameRegisterOf (c.sys.autoCirculate spec).channelSpec = frameRegisterOf spec := by
    rw [h.auto.named]
  simp only [Channel.step, autoCircStart, h.legal, Bool.false_eq_true, if_false, h.forGang,
    startMember, Local.step, Local.start]
  by_cases hs : (c.sys.autoCirculate spec).state = init
  · simp [hs, Channel.view, hreg]
  · simp [hs, Channel.view]

lemma Single.view_flush (h : Single c.sys spec) (b : Bool) :
    (c.step spec (.flush b)).view spec = (c.view spec).step (partnerOf c.sys spec) (.flush b) := by
  simp only [Channel.step, autoCircFlush, h.legal, Bool.false_eq_true, if_false, h.forGang,
    flushMember, h.auto.register, Local.step, Local.flush]
  cases hs : (c.sys.autoCirculate spec).state <;> simp [hs, Channel.view]

lemma Single.view_preroll (h : Single c.sys spec) (n : Int) :
    (c.step spec (.preroll n)).view spec =
      (c.view spec).step (partnerOf c.sys spec) (.preroll n) := by
  -- a channel without an active frame finds no free one
  have hout : (c.sys.autoCirculate spec).state ≠ init →
      ((c.sys.autoCirculate spec).activeFrame < (c.sys.autoCirculate spec).startFrame ∨
        (c.sys.autoCirculate spec).activeFrame > (c.sys.autoCirculate spec).endFrame) →
      availFrame (c.sys.autoCirculate spec) = none := by
    intro hs hout
    unfold availFrame
    rw [if_neg hs, if_pos hout]
  simp only [Channel.step, autoCircPreroll, h.legal, Bool.false_eq_true, if_false, h.forGang,
    Local.step, Local.preroll, InternalAutoCirculate.Live]
  cases hs : (c.sys.autoCirculate spec).state <;> simp [hs, Channel.view] <;> split <;>
    cases hrec : (c.sys.autoCirculate spec).recording <;>
    cases hav : availFrame (c.sys.autoCirculate spec) <;>
    simp_all [prerollMember, autoCircFindNextAvailFrame]

lemma Single.view_tick (h : Single c.sys spec) (env : TickEnv) :
    (c.step spec (.tick env)).view spec =
      (c.view spec).step (partnerOf c.sys spec) (.tick env) := by
  simp only [Channel.step, autoCirculate, h.legal, Bool.false_or, h.auto.register, Local.step,
    Local.tick]
  by_cases hidle : tickIdle env (c.sys.autoCirculate spec) = true
  · simp [hidle, Channel.view]
  · simp only [hidle, Bool.false_eq_true, if_false, Channel.view]
    cases hf : (tickAuto env (partnerOf c.sys spec) (c.sys.register (frameRegisterOf spec))
      (c.sys.autoCirculate spec)).frame <;> simp

/-- **The channel depends on nothing else** but the answers of its partner. -/
theorem Channel.view_step (h : Single c.sys spec) {e : ChannelEvent} (hok : c.Ok spec e) :
    (c.step spec e).view spec = (c.view spec).step (partnerOf c.sys spec) e := by
  cases e with
  | start t => exact h.view_start t
  | stop => simp [Channel.step, autoCircStop, h.legal, h.forGang, onMember, Local.step, Channel.view]
  | pause bPlay bClearDF =>
      simp [Channel.step, autoCircPause, h.legal, h.forGang, onMember, Local.step, Channel.view]
  | flush b => exact h.view_flush b
  | preroll n => exact h.view_preroll n
  | tick env => exact h.view_tick env
  | beginTransfer p env => exact view_setAuto _ _
  | audioSetup env => exact view_setAuto _ _
  | completeTransfer u p =>
      cases hf : c.inflight with
      | none => simp [Channel.step, Local.step, Local.complete, Channel.view, hf]
      | some f => simp [Channel.step, Local.step, Local.complete, Channel.view, hf]
  | abandon => rfl
  | elsewhere s =>
      obtain ⟨ha, hr⟩ := hok
      simp [Channel.step, Local.step, Channel.view, ha, hr]

/-! ### The ring of the channel -/

/-- Looking for a frame and beginning with it leave the places alone. -/
lemma unmoved_autoBegin (p : AutoCirculateTransfer) (env : TransferEnv)
    (a : InternalAutoCirculate) : Unmoved a (autoBegin p env a) := by
  unfold autoBegin
  split
  · refine Unmoved.trans ?_ (unmoved_begin _ p env _)
    unfold autoCircFindNextAvailFrame
    split
    · exact unmoved_setNextTransfer a _
    · exact .refl a
  · exact .refl a

/-- No event changes the ring of the channel. -/
lemma Local.sameRing_step (partner : Partner) (l : Local) (e : ChannelEvent) :
    SameRing l.pAuto (l.step partner e).pAuto := by
  cases e with
  | start t =>
      show SameRing _ (l.start t).pAuto
      unfold Local.start
      split
      · exact sameRing_startAuto _ _
      · exact .refl _
  | stop => exact (unmoved_stopAuto _).toSameRing
  | pause bPlay bClearDF => exact (unmoved_pauseAuto bPlay bClearDF _).toSameRing
  | flush b =>
      show SameRing _ (l.flush b).pAuto
      unfold Local.flush
      split
      · exact (unmoved_flushAuto _ _ _).toSameRing
      · exact .refl _
  | preroll n =>
      show SameRing _ (l.preroll n).pAuto
      unfold Local.preroll
      split
      · split
        · exact ((unmoved_setNextTransfer _ _).trans (unmoved_prerollAuto n _)).toSameRing
        · exact .refl _
      · exact .refl _
  | tick env =>
      show SameRing _ (l.tick env partner).pAuto
      unfold Local.tick
      split
      · exact .refl _
      · exact sameRing_tickAuto _ _ _ _
  | beginTransfer p env => exact (unmoved_autoBegin p env _).toSameRing
  | audioSetup env => exact (unmoved_audioSetup env _).toSameRing
  | completeTransfer u p =>
      show SameRing _ (l.complete u p).pAuto
      unfold Local.complete
      split
      · exact (unmoved_completeAuto _ u p _).toSameRing
      · exact .refl _
  | abandon => exact .refl _
  | elsewhere s => exact .refl _

/-- A channel that leads a gang of one goes on doing so. -/
lemma Single.step (h : Single c.sys spec) {e : ChannelEvent} (hok : c.Ok spec e) :
    Single (c.step spec e).sys spec := by
  refine ⟨h.legal, ?_⟩
  have hview := congrArg Local.pAuto (Channel.view_step h hok)
  have hauto : (c.step spec e).sys.autoCirculate spec =
      ((c.view spec).step (partnerOf c.sys spec) e).pAuto := hview
  rw [hauto]
  exact h.auto.of_sameRing (Local.sameRing_step _ (c.view spec) e)

/-! ### The interrupt of a live channel -/

/-- The frame the frame register names. -/
def Local.regFrame (l : Local) : Int := registerFrame l.reg l.pAuto

lemma Local.tick_idle {l : Local} {env : TickEnv} (partner : Partner)
    (h : tickIdle env l.pAuto = true) : l.tick env partner = l := by
  unfold Local.tick
  rw [if_pos h]

lemma Local.tick_eq {l : Local} {env : TickEnv} (partner : Partner)
    (h : ¬ tickIdle env l.pAuto = true) : l.tick env partner =
      { l with
        pAuto := (tickAuto env partner l.reg l.pAuto).pAuto
        reg := match (tickAuto env partner l.reg l.pAuto).frame with
          | some nextFrame => toUInt32 nextFrame
          | none => l.reg } := by
  unfold Local.tick
  rw [if_neg h]

/-- What an interrupt does to the places of a live channel: the frame in the register
becomes the active one, and the register moves on to the next, or stays. -/
structure TickMove (l l' : Local) (r : TickResult) : Prop where
  pAuto : l'.pAuto = r.pAuto
  inflight : l'.inflight = l.inflight
  ring : SameRing l.pAuto l'.pAuto
  active : l'.pAuto.activeFrame = l.regFrame
  reg : r.frame = none ∧ l'.regFrame = l.regFrame ∨
    r.frame = some (kautoNextFrame l.regFrame l.pAuto) ∧
      l'.regFrame = kautoNextFrame l.regFrame l.pAuto

lemma Local.tickMove {l : Local} {env : TickEnv} (partner : Partner) (hrange : l.pAuto.RangeOk)
    (hidle : ¬ tickIdle env l.pAuto = true) (hlive : l.pAuto.Live) :
    TickMove l (l.tick env partner) (tickAuto env partner l.reg l.pAuto) := by
  have hring := sameRing_tickAuto env partner l.reg l.pAuto
  have hplace := tickPlace_tickAuto env partner l.reg l.pAuto
  have hentry : (tickEntry env l.reg l.pAuto).activeFrame = l.regFrame :=
    tickEntry_active env l.reg hlive
  have hnext := (sameRing_tickEntry env l.reg l.pAuto).next l.regFrame
  rw [l.tick_eq partner hidle]
  refine ⟨rfl, rfl, hring, hplace.active.trans hentry, ?_⟩
  rcases hplace.next with ⟨hf, -⟩ | ⟨hf, -⟩
  · refine Or.inl ⟨hf, ?_⟩
    rw [hf]
    exact hring.registerFrame l.reg
  · rw [hentry, hnext] at hf
    refine Or.inr ⟨hf, ?_⟩
    rw [hf]
    show registerFrame (toUInt32 _) _ = _
    rw [hring.registerFrame, hrange.registerFrame_toUInt32]
    exact hrange.mem_next (hrange.mem_registerFrame l.reg)

/-! ### What leaves the frames alone -/

/-- The channel keeps its state, stops, or goes between running and paused. -/
def StateKept (s s' : NTV2AutoCirculateState) : Prop :=
  s' = s ∨ s' = stopping ∨ s' = disabled ∨
    (s = running ∨ s = paused) ∧ (s' = running ∨ s' = paused)

/-- The places and the frames stay as they are. -/
structure Untouched (l l' : Local) : Prop where
  unmoved : Unmoved l.pAuto l'.pAuto
  reg : l'.reg = l.reg
  stamps : l'.pAuto.frameStamp = l.pAuto.frameStamp
  state : StateKept l.pAuto.state l'.pAuto.state

lemma Untouched.refl (l : Local) : Untouched l l := ⟨.refl _, rfl, rfl, Or.inl rfl⟩

lemma Untouched.regFrame {l l' : Local} (h : Untouched l l') : l'.regFrame = l.regFrame := by
  rw [Local.regFrame, Local.regFrame, h.reg, h.unmoved.toSameRing.registerFrame]

lemma untouched_stop (partner : Partner) (l : Local) : Untouched l (l.step partner .stop) := by
  refine ⟨unmoved_stopAuto _, rfl, ?_, ?_⟩
  · show (stopAuto l.pAuto).frameStamp = _
    rw [stopAuto]
    split <;> rfl
  · show StateKept _ (stopAuto l.pAuto).state
    cases hs : l.pAuto.state <;> simp [stopAuto, StateKept, hs]

lemma untouched_pause (partner : Partner) (l : Local) (bPlay bClearDF : Bool) :
    Untouched l (l.step partner (.pause bPlay bClearDF)) := by
  refine ⟨unmoved_pauseAuto bPlay bClearDF _, rfl, ?_, ?_⟩
  · show (pauseAuto bPlay bClearDF l.pAuto).frameStamp = _
    rw [pauseAuto]
    split_ifs <;> rfl
  · show StateKept _ (pauseAuto bPlay bClearDF l.pAuto).state
    cases bPlay <;> cases hs : l.pAuto.state <;> simp [pauseAuto, StateKept, hs]

/-- An interrupt does nothing to the frames of a channel that is not live. -/
lemma untouched_tick (l : Local) (env : TickEnv) (partner : Partner) (hlive : ¬ l.pAuto.Live)
    (htimed : l.pAuto.state ≠ startingAtTime) : Untouched l (l.tick env partner) := by
  have hentry := sameRing_tickEntry env l.reg l.pAuto
  have hactive := tickEntry_active_of_not_live env l.reg hlive
  by_cases hidle : tickIdle env l.pAuto = true
  · rw [l.tick_idle partner hidle]
    exact .refl l
  cases hs : l.pAuto.state with
  | init =>
      rw [l.tick_eq partner hidle, tickAuto_init hs]
      exact ⟨⟨hentry.trans ⟨rfl, rfl, rfl, rfl, rfl, rfl, rfl⟩, hactive, tickEntry_nextFrame⟩, rfl,
        tickEntry_frameStamp, Or.inl tickEntry_state⟩
  | disabled =>
      rw [l.tick_eq partner hidle, tickAuto_still (Or.inr hs)]
      exact ⟨⟨hentry, hactive, tickEntry_nextFrame⟩, rfl, tickEntry_frameStamp,
        Or.inl tickEntry_state⟩
  | stopping =>
      rw [l.tick_eq partner hidle, tickAuto_stopping hs]
      exact ⟨⟨hentry.trans ⟨rfl, rfl, rfl, rfl, rfl, rfl, rfl⟩, hactive, tickEntry_nextFrame⟩, rfl,
        tickEntry_frameStamp, Or.inr (Or.inr (Or.inl rfl))⟩
  | startingAtTime => exact absurd hs htimed
  | starting => exact absurd (Or.inl hs) hlive
  | running => exact absurd (Or.inr (Or.inl hs)) hlive
  | paused => exact absurd (Or.inr (Or.inr hs)) hlive

/-! ### Counts and states along a transfer -/

lemma findNext_frameStamp (a : InternalAutoCirculate) :
    (autoCircFindNextAvailFrame a).2.frameStamp = a.frameStamp := by
  rw [autoCircFindNextAvailFrame]
  split <;> rfl

/-- Beginning a transfer leaves the stamps alone but for what it notes about the request. -/
lemma autoBegin_stamp {β : Type} (stampPart : InternalFrameStamp → β)
    (hpart : ∀ stamp : InternalFrameStamp, ∀ r h n₁ n₂, stampPart { stamp with
      repeatCount := r, hUser := h, ancTransferSize := n₁, ancField2TransferSize := n₂ } =
        stampPart stamp)
    (p : AutoCirculateTransfer) (env : TransferEnv) (a : InternalAutoCirculate) (f : Int) :
    stampPart ((autoBegin p env a).frameStamp f) = stampPart (a.frameStamp f) := by
  rw [autoBegin]
  split
  · next n hn =>
    rw [← findNext_frameStamp a, beginAutoCircTransfer]
    dsimp only
    split
    · split <;> rfl
    · by_cases hf : f = (n : Int)
      · subst hf
        simp [hpart]
      · simp [Function.update_of_ne hf]
  · rfl

lemma autoBegin_validCount (p : AutoCirculateTransfer) (env : TransferEnv)
    (a : InternalAutoCirculate) (f : Int) :
    ((autoBegin p env a).frameStamp f).validCount = (a.frameStamp f).validCount :=
  autoBegin_stamp (·.validCount) (fun _ _ _ _ _ => rfl) p env a f

lemma state_autoBegin (p : AutoCirculateTransfer) (env : TransferEnv)
    (a : InternalAutoCirculate) : (autoBegin p env a).state = a.state := by
  unfold autoBegin
  split
  · rw [state_begin]
    unfold autoCircFindNextAvailFrame
    split <;> rfl
  · rfl

/-- Setting up the audio leaves the stamps alone but for the audio address. -/
lemma audioSetup_stamp {β : Type} (stampPart : InternalFrameStamp → β)
    (hpart : ∀ stamp : InternalFrameStamp, ∀ n, stampPart { stamp with
      audioExpectedAddress := n } = stampPart stamp)
    (env : TransferEnv) (a : InternalAutoCirculate) (f : Int) :
    stampPart ((autoCircDmaAudioSetup env a).2.frameStamp f) = stampPart (a.frameStamp f) := by
  rw [autoCircDmaAudioSetup]
  dsimp only
  split
  · rfl
  · split
    · rfl
    · by_cases hf : f = (a.transferFrame : Int)
      · subst hf
        simp [hpart]
      · simp [Function.update_of_ne hf]

end View

end LibAjaNtv2
