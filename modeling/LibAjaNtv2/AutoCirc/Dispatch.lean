import LibAjaNtv2.AutoCirc.Sync

/-!
The dispatcher of the AutoCirculate commands, `AutoCircControl`.

* `AutoCircCommand`, `AutoCirculateData`: a request;
* `controlCommand`, `syncCommand`: its two `switch` statements, on the channel asked for
  and on the channel synchronised with it;
* `syncPartner`: the search for that channel;
* `autoCircControl_calls`: the dispatcher does nothing but calls of the driver;
* `CarriedOut`: the command succeeded on both channels;
* `autoCircStart_success`, `autoCircPreroll_success`, `autoCircSetActiveFrame_success`:
  what each command asks of its channel;
* `control_reports_iff`: **when the status tells whether the command succeeded on both
  channels**.
-/

namespace LibAjaNtv2

open NTV2AutoCirculateState

/-- `AUTO_CIRC_COMMAND`.  Any integer may come in: those beyond `eSetActiveFrame` are
`invalid`. -/
inductive AutoCircCommand where
  | initAutoCirc | startAutoCirc | stopAutoCirc | pauseAutoCirc | getAutoCirc
  | getFrameStamp | flushAutoCirculate | prerollAutoCirculate | transferAutoCirculate
  | abortAutoCirc | startAutoCircAtTime | transferAutoCirculateEx | transferAutoCirculateEx2
  | getFrameStampEx2 | setCaptureTask | setActiveFrame | invalid
  deriving DecidableEq, Repr

/-- `AUTOCIRCULATE_DATA_64`, as far as the dispatcher reads it. -/
structure AutoCirculateData where
  eCommand : AutoCircCommand
  channelSpec : NTV2Crosspoint
  lVal1 : Int
  lVal2 : Int
  lVal3 : Int
  lVal4 : Int
  lVal6 : Int
  bVal1 : Bool
  bVal2 : Bool
  bVal3 : Bool
  bVal4 : Bool
  bVal5 : Bool
  bVal6 : Bool
  bVal7 : Bool
  bVal8 : Bool
  isInt32_lVal1 : IsInt32 lVal1
  isInt32_lVal2 : IsInt32 lVal2
  isInt32_lVal4 : IsInt32 lVal4

/-- A request with two numbers and no options. -/
def AutoCirculateData.plain (eCommand : AutoCircCommand) (channelSpec : NTV2Crosspoint)
    (lVal1 lVal2 : Int)
    (h₁ : IsInt32 lVal1 := by first | exact isInt32_zero | exact isInt32_ten | decide)
    (h₂ : IsInt32 lVal2 := by first | exact isInt32_zero | decide) : AutoCirculateData where
  eCommand := eCommand
  channelSpec := channelSpec
  lVal1 := lVal1
  lVal2 := lVal2
  lVal3 := 0
  lVal4 := 1
  lVal6 := 0
  bVal1 := false
  bVal2 := false
  bVal3 := false
  bVal4 := false
  bVal5 := false
  bVal6 := false
  bVal7 := false
  bVal8 := false
  isInt32_lVal1 := h₁
  isInt32_lVal2 := h₂
  isInt32_lVal4 := isInt32_one

/-- Bit `n` of `lVal6`. -/
def AutoCirculateData.option (psControl : AutoCirculateData) (n : ℕ) : Bool :=
  (toUInt32 psControl.lVal6).testBit n

/-- The arguments of `AutoCircInit`; the options `AUTOCIRCULATE_WITH_FIELDS` and
`AUTOCIRCULATE_WITH_HDMIAUX` are bits 8 and 9. -/
def AutoCirculateData.initArgs (psControl : AutoCirculateData) : InitArgs where
  lChannelSpec := psControl.channelSpec
  lStartFrameNum := psControl.lVal1
  lEndFrameNum := psControl.lVal2
  lAudioSystem := toUInt32 psControl.lVal3
  lChannelCount := psControl.lVal4
  bWithAudio := psControl.bVal1
  bWithRP188 := psControl.bVal2
  bFbfChange := psControl.bVal3
  bFboChange := psControl.bVal4
  bWithColorCorrection := psControl.bVal5
  bWithVidProc := psControl.bVal6
  bWithCustomAncData := psControl.bVal7
  bWithLTC := psControl.bVal8
  bWithFields := psControl.option 8
  bWithHDMIAux := psControl.option 9
  isInt32_start := psControl.isInt32_lVal1
  isInt32_end := psControl.isInt32_lVal2
  isInt32_count := psControl.isInt32_lVal4

/-- The start time, from its two halves. -/
def AutoCirculateData.startTime (psControl : AutoCirculateData) : Int :=
  toUInt32 psControl.lVal1 * 4294967296 + toUInt32 psControl.lVal2

/-- The first `switch` of `AutoCircControl`. -/
def controlCommand (s : NTV2AutoCirc) (psControl : AutoCirculateData) :
    Ntv2Status × NTV2AutoCirc :=
  match psControl.eCommand with
  | .initAutoCirc => autoCircInit s psControl.initArgs
  | .startAutoCirc => autoCircStart s psControl.channelSpec 0
  | .startAutoCircAtTime => autoCircStart s psControl.channelSpec psControl.startTime
  | .stopAutoCirc => autoCircStop s psControl.channelSpec
  | .abortAutoCirc => autoCircAbort s psControl.channelSpec
  | .pauseAutoCirc => autoCircPause s psControl.channelSpec psControl.bVal1 psControl.bVal2
  | .flushAutoCirculate => autoCircFlush s psControl.channelSpec psControl.bVal1
  | .prerollAutoCirculate => autoCircPreroll s psControl.channelSpec psControl.lVal1
  | .setActiveFrame => autoCircSetActiveFrame s psControl.channelSpec psControl.lVal1
  | _ => (.badParameter, s)

/-- The second `switch` of `AutoCircControl`, on the other channel. -/
def syncCommand (s : NTV2AutoCirc) (psControl : AutoCirculateData) (channel : NTV2Crosspoint) :
    Ntv2Status × NTV2AutoCirc :=
  match psControl.eCommand with
  | .startAutoCirc => autoCircStart s channel 0
  | .startAutoCircAtTime => autoCircStart s channel psControl.startTime
  | .stopAutoCirc => autoCircStop s channel
  | .abortAutoCirc => autoCircAbort s channel
  | .pauseAutoCirc => autoCircPause s channel psControl.bVal1 psControl.bVal2
  | .flushAutoCirculate => autoCircFlush s channel psControl.bVal1
  | .prerollAutoCirculate => autoCircPreroll s channel psControl.lVal1
  -- no `break`: the `default` branch sets the status
  | .setActiveFrame => (.badParameter, (autoCircSetActiveFrame s channel psControl.lVal1).2)
  | _ => (.badParameter, s)

open NTV2Crosspoint in
/-- The crosspoint of a number: the order of the array `autoCirculate`. -/
def crosspointOfNumber : ℕ → NTV2Crosspoint
  | 0 => channel1 | 1 => channel2 | 2 => input1 | 3 => input2 | 4 => matte | 5 => fgkey
  | 6 => channel3 | 7 => channel4 | 8 => input3 | 9 => input4
  | 10 => channel5 | 11 => channel6 | 12 => channel7 | 13 => channel8
  | 14 => input5 | 15 => input6 | 16 => input7 | 17 => input8
  | _ => invalid

/-- The search takes place `iChannel` for the other channel.  The array is indexed by the
place in the gang order, not by the crosspoint there. -/
def SyncCandidate (s : NTV2AutoCirc) (channelSpec : NTV2Crosspoint) (iChannel : ℕ) : Prop :=
  iChannel ≠ getIndexForNTV2Crosspoint channelSpec ∧
    (s.autoCirculate (crosspointOfNumber iChannel)).state ≠ disabled ∧
    (s.autoCirculate (crosspointOfNumber iChannel)).state ≠ stopping

instance (s : NTV2AutoCirc) (channelSpec : NTV2Crosspoint) (iChannel : ℕ) :
    Decidable (SyncCandidate s channelSpec iChannel) :=
  inferInstanceAs (Decidable (_ ∧ _ ∧ _))

/-- The channel the search settles on. -/
def syncPartner (s : NTV2AutoCirc) (channelSpec : NTV2Crosspoint) : Option NTV2Crosspoint :=
  if s.vRegSyncChannels then
    ((List.range 16).find? (fun iChannel => SyncCandidate s channelSpec iChannel)).map
      getNTV2CrosspointForIndex
  else none

/-- The system after `syncChannel1 = spec1` and `syncChannel2 = spec2`. -/
def NTV2AutoCirc.setSync (s : NTV2AutoCirc) (spec1 spec2 : NTV2Crosspoint) : NTV2AutoCirc :=
  { s with syncChannel1 := spec1, syncChannel2 := spec2 }

/-- `AutoCircControl`. -/
def autoCircControl (s : NTV2AutoCirc) (psControl : AutoCirculateData) :
    Ntv2Status × NTV2AutoCirc :=
  let r := controlCommand s psControl
  match syncPartner r.2 psControl.channelSpec with
  | some channel => syncCommand (r.2.setSync psControl.channelSpec channel) psControl channel
  | none => (r.1, r.2.setSync .fgkey .fgkey)

@[simp] lemma setSync_auto (s : NTV2AutoCirc) (spec1 spec2 : NTV2Crosspoint) :
    (s.setSync spec1 spec2).autoCirculate = s.autoCirculate := rfl

/-- The other channel is always a legal one. -/
lemma syncPartner_legal {s : NTV2AutoCirc} {spec channel : NTV2Crosspoint}
    (h : syncPartner s spec = some channel) : illegalChannelSpec channel = false := by
  rw [syncPartner] at h
  split at h
  · obtain ⟨i, -, rfl⟩ := Option.map_eq_some_iff.1 h
    exact illegalChannelSpec_crosspointForIndex i
  · cases h

/-! ### The dispatcher in terms of calls -/

/-- The first command is at most one call. -/
lemma controlCommand_call (s : NTV2AutoCirc) (psControl : AutoCirculateData) :
    (controlCommand s psControl).2 = s ∨
      ∃ c : Call, (∀ on x y, c ≠ .syncChannels on x y) ∧
        (controlCommand s psControl).2 = c.run s := by
  rw [controlCommand]
  split
  · exact .inr ⟨.init psControl.initArgs, nofun, rfl⟩
  · exact .inr ⟨.start psControl.channelSpec 0, nofun, rfl⟩
  · exact .inr ⟨.start psControl.channelSpec psControl.startTime, nofun, rfl⟩
  · exact .inr ⟨.stop psControl.channelSpec, nofun, rfl⟩
  · exact .inr ⟨.abort psControl.channelSpec, nofun, rfl⟩
  · exact .inr ⟨.pause psControl.channelSpec psControl.bVal1 psControl.bVal2, nofun, rfl⟩
  · exact .inr ⟨.flush psControl.channelSpec psControl.bVal1, nofun, rfl⟩
  · exact .inr ⟨.preroll psControl.channelSpec psControl.lVal1, nofun, rfl⟩
  · exact .inr ⟨.setActiveFrame psControl.channelSpec psControl.lVal1, nofun, rfl⟩
  · exact .inl rfl

/-- The second command is at most one call. -/
lemma syncCommand_call (s : NTV2AutoCirc) (psControl : AutoCirculateData)
    (channel : NTV2Crosspoint) :
    (syncCommand s psControl channel).2 = s ∨
      ∃ c : Call, (syncCommand s psControl channel).2 = c.run s := by
  rw [syncCommand]
  split
  · exact .inr ⟨.start channel 0, rfl⟩
  · exact .inr ⟨.start channel psControl.startTime, rfl⟩
  · exact .inr ⟨.stop channel, rfl⟩
  · exact .inr ⟨.abort channel, rfl⟩
  · exact .inr ⟨.pause channel psControl.bVal1 psControl.bVal2, rfl⟩
  · exact .inr ⟨.flush channel psControl.bVal1, rfl⟩
  · exact .inr ⟨.preroll channel psControl.lVal1, rfl⟩
  · exact .inr ⟨.setActiveFrame channel psControl.lVal1, rfl⟩
  · exact .inl rfl

/-- The dispatcher does nothing but calls: what every call keeps, it keeps. -/
lemma autoCircControl_calls {I : NTV2AutoCirc → Prop} (hI : ∀ (c : Call) s, I s → I (c.run s))
    {s : NTV2AutoCirc} (psControl : AutoCirculateData) (hs : I s) :
    I (autoCircControl s psControl).2 := by
  have hfirst : I (controlCommand s psControl).2 := by
    obtain h | ⟨c, -, h⟩ := controlCommand_call s psControl <;> rw [h]
    · exact hs
    · exact hI c s hs
  have hsync (x y : NTV2Crosspoint) : I ((controlCommand s psControl).2.setSync x y) :=
    hI (.syncChannels (controlCommand s psControl).2.vRegSyncChannels x y) _ hfirst
  rw [autoCircControl]
  split
  · next channel _ =>
    obtain h | ⟨c, h⟩ :=
      syncCommand_call ((controlCommand s psControl).2.setSync psControl.channelSpec channel)
        psControl channel <;> rw [h]
    · exact hsync _ _
    · exact hI c _ (hsync _ _)
  · exact hsync _ _

/-! ### What a command asks of its channel -/

/-- The commands that work on frames look at them only in these states. -/
def NTV2AutoCirculateState.Moving (st : NTV2AutoCirculateState) : Prop :=
  st = running ∨ st = starting ∨ st = paused

instance (st : NTV2AutoCirculateState) : Decidable st.Moving :=
  inferInstanceAs (Decidable (_ ∨ _ ∨ _))

/-- The channel can be started: it is initialised. -/
def StartAccepts (s : NTV2AutoCirc) (spec : NTV2Crosspoint) : Prop :=
  illegalChannelSpec spec = false ∧ (s.autoCirculate spec).state = init

instance (s : NTV2AutoCirc) (spec : NTV2Crosspoint) : Decidable (StartAccepts s spec) :=
  inferInstanceAs (Decidable (_ ∧ _))

/-- The channel captures, or has a frame left to queue. -/
def PrerollReady (s : NTV2AutoCirc) (spec : NTV2Crosspoint) : Prop :=
  (s.autoCirculate spec).recording = true ∨ (availFrame (s.autoCirculate spec)).isSome

instance (s : NTV2AutoCirc) (spec : NTV2Crosspoint) : Decidable (PrerollReady s spec) :=
  inferInstanceAs (Decidable (_ ∨ _))

/-- A channel that moves can be prerolled while it is on one of its frames and every
member of its gang is ready when its turn comes. -/
def PrerollAccepts (s : NTV2AutoCirc) (spec : NTV2Crosspoint) (lPrerollFrames : Int) : Prop :=
  illegalChannelSpec spec = false ∧
    ((s.autoCirculate spec).state.Moving →
      (s.autoCirculate spec).Mem (s.autoCirculate spec).activeFrame ∧
        GangAll (fun _ member t => PrerollReady t member) (prerollMember lPrerollFrames)
          (getIndexForNTV2Crosspoint spec) 0 (s.autoCirculate spec).channelCount.toNat s)

/-- A channel that moves can be set to another of its frames. -/
def SetActiveAccepts (s : NTV2AutoCirc) (spec : NTV2Crosspoint) (lActiveFrame : Int) : Prop :=
  illegalChannelSpec spec = false ∧
    ((s.autoCirculate spec).state.Moving →
      (s.autoCirculate spec).Mem (s.autoCirculate spec).activeFrame ∧
        (s.autoCirculate spec).Mem lActiveFrame)

section Success

variable {s : NTV2AutoCirc} {spec : NTV2Crosspoint}

lemma forGang_success (body : ℕ → NTV2Crosspoint → NTV2AutoCirc → Ntv2Status × NTV2AutoCirc)
    (hbody : ∀ k x t, (body k x t).1 = .success) : (forGang s spec body).1 = .success :=
  gangLoop_success hbody 0 _ s

lemma legal_success {r : Ntv2Status × NTV2AutoCirc} :
    (if illegalChannelSpec spec then (.badParameter, s) else r).1 = .success ↔
      illegalChannelSpec spec = false ∧ r.1 = .success := by
  cases h : illegalChannelSpec spec <;> simp

lemma autoCircStart_success {startTime : Int} :
    (autoCircStart s spec startTime).1 = .success ↔ StartAccepts s spec := by
  rw [autoCircStart, legal_success, StartAccepts]
  refine and_congr_right fun _ => ?_
  split
  · next h => simp [h]
  · next h => simpa [forGang_success (startMember startTime) (fun _ _ _ => rfl)] using h

lemma autoCircStop_success :
    (autoCircStop s spec).1 = .success ↔ illegalChannelSpec spec = false := by
  rw [autoCircStop, legal_success]
  exact and_iff_left (forGang_success _ fun _ _ _ => rfl)

lemma autoCircAbort_success :
    (autoCircAbort s spec).1 = .success ↔ illegalChannelSpec spec = false := by
  rw [autoCircAbort, legal_success]
  exact and_iff_left (forGang_success _ fun _ _ _ => rfl)

lemma autoCircPause_success {bPlay bClearDF : Bool} :
    (autoCircPause s spec bPlay bClearDF).1 = .success ↔ illegalChannelSpec spec = false := by
  rw [autoCircPause, legal_success]
  exact and_iff_left (forGang_success _ fun _ _ _ => rfl)

lemma autoCircFlush_success {bClearDF : Bool} :
    (autoCircFlush s spec bClearDF).1 = .success ↔ illegalChannelSpec spec = false := by
  rw [autoCircFlush, legal_success]
  refine and_iff_left ?_
  split <;> first | exact forGang_success _ fun _ _ _ => rfl | rfl

/-- The active frame is on the ring where neither comparison says otherwise. -/
lemma mem_iff_not_outside {a : InternalAutoCirculate} {f : Int} :
    a.Mem f ↔ ¬ (f < a.startFrame ∨ f > a.endFrame) := by
  simp only [InternalAutoCirculate.Mem, InRing]
  omega

/-- One member is prerolled exactly when it is ready. -/
lemma prerollMember_success {n : Int} {k : ℕ} :
    (prerollMember n k spec s).1 = .success ↔ PrerollReady s spec := by
  rw [prerollMember, PrerollReady]
  cases hrec : (s.autoCirculate spec).recording with
  | true => simp
  | false =>
      cases hav : availFrame (s.autoCirculate spec) with
      | none => simp [autoCircFindNextAvailFrame, hav]
      | some f => simp [autoCircFindNextAvailFrame, hav]

/-- A loop over a gang succeeds exactly when every member it reaches does. -/
lemma gangLoop_success_iff {σ : Type} {body : ℕ → NTV2Crosspoint → σ → Ntv2Status × σ}
    {cond : ℕ → NTV2Crosspoint → σ → Prop}
    (hbody : ∀ k x t, (body k x t).1 = .success ↔ cond k x t) (csIndex k n : ℕ) (t : σ) :
    (gangLoop body csIndex k n t).1 = .success ↔ GangAll cond body csIndex k n t := by
  induction n generalizing k t with
  | zero => simp [gangLoop, GangAll]
  | succ n ih =>
      rw [gangLoop, GangAll, ← hbody]
      split
      · next h => simp [h, ih]
      · next h => simp [h]

/-- `AutoCircPreroll`, by whether the channel moves. -/
lemma autoCircPreroll_eq (n : Int) : autoCircPreroll s spec n =
    if illegalChannelSpec spec then (.badParameter, s)
    else if (s.autoCirculate spec).state.Moving then
      if (s.autoCirculate spec).Mem (s.autoCirculate spec).activeFrame then
        forGang s spec (prerollMember n)
      else (.badParameter, s)
    else (.success, s) := by
  simp only [mem_iff_not_outside, ite_not]
  rw [autoCircPreroll]
  cases hst : (s.autoCirculate spec).state <;> simp [hst, NTV2AutoCirculateState.Moving]

lemma autoCircPreroll_success {n : Int} :
    (autoCircPreroll s spec n).1 = .success ↔ PrerollAccepts s spec n := by
  rw [autoCircPreroll_eq, legal_success, PrerollAccepts]
  refine and_congr_right fun _ => ?_
  split
  · next h =>
    split
    · next hin =>
      rw [forGang, gangLoop_success_iff (fun _ _ _ => prerollMember_success)]
      simp [h, hin]
    · next hout => simp [h, hout]
  · next h => simp [h]

/-- `AutoCircSetActiveFrame`, by whether the channel moves. -/
lemma autoCircSetActiveFrame_eq (f : Int) : autoCircSetActiveFrame s spec f =
    if illegalChannelSpec spec then (.badParameter, s)
    else if (s.autoCirculate spec).state.Moving then
      if (s.autoCirculate spec).Mem (s.autoCirculate spec).activeFrame then
        if (s.autoCirculate spec).Mem f then
          gangLoop
            (setActiveFrameMember f (toUInt32
              ((s.autoCirculate spec).endFrame - (s.autoCirculate spec).startFrame + 1)))
            (getIndexForNTV2Crosspoint spec) 0 (toUInt32 (s.autoCirculate spec).channelCount) s
        else (.badParameter, s)
      else (.badParameter, s)
    else (.success, s) := by
  simp only [mem_iff_not_outside, ite_not]
  rw [autoCircSetActiveFrame]
  cases hst : (s.autoCirculate spec).state <;> simp [hst, NTV2AutoCirculateState.Moving]

lemma autoCircSetActiveFrame_success {f : Int} :
    (autoCircSetActiveFrame s spec f).1 = .success ↔ SetActiveAccepts s spec f := by
  rw [autoCircSetActiveFrame_eq, legal_success, SetActiveAccepts]
  refine and_congr_right fun _ => ?_
  split
  · next h =>
    split
    · next hin =>
      split
      · next hf => exact iff_of_true (gangLoop_success (fun _ _ _ => rfl) _ _ _) fun _ => ⟨hin, hf⟩
      · next hout => simp [h, hin, hout]
    · next hout => simp [h, hout]
  · next h => simp [h]

end Success

/-! ### Both channels -/

/-- What the command does on the other channel; `none` for a command that is not given to
it. -/
def partnerCommand (s : NTV2AutoCirc) (psControl : AutoCirculateData) (channel : NTV2Crosspoint) :
    Option (Ntv2Status × NTV2AutoCirc) :=
  match psControl.eCommand with
  | .startAutoCirc => some (autoCircStart s channel 0)
  | .startAutoCircAtTime => some (autoCircStart s channel psControl.startTime)
  | .stopAutoCirc => some (autoCircStop s channel)
  | .abortAutoCirc => some (autoCircAbort s channel)
  | .pauseAutoCirc => some (autoCircPause s channel psControl.bVal1 psControl.bVal2)
  | .flushAutoCirculate => some (autoCircFlush s channel psControl.bVal1)
  | .prerollAutoCirculate => some (autoCircPreroll s channel psControl.lVal1)
  | .setActiveFrame => some (autoCircSetActiveFrame s channel psControl.lVal1)
  | _ => none

/-- The other channel, once the command has been given to the one asked for. -/
def controlPartner (s : NTV2AutoCirc) (psControl : AutoCirculateData) : Option NTV2Crosspoint :=
  syncPartner (controlCommand s psControl).2 psControl.channelSpec

/-- The command was carried out successfully on the channel asked for and, where it has a
partner, on the partner. -/
def CarriedOut (s : NTV2AutoCirc) (psControl : AutoCirculateData) : Prop :=
  (controlCommand s psControl).1 = .success ∧
    ∀ channel, controlPartner s psControl = some channel →
      (partnerCommand ((controlCommand s psControl).2.setSync psControl.channelSpec channel)
        psControl channel).map Prod.fst = some .success

/-- The status of the dispatcher tells whether the command was carried out. -/
def ReportsHonestly (s : NTV2AutoCirc) (psControl : AutoCirculateData) : Prop :=
  (autoCircControl s psControl).1 = .success ↔ CarriedOut s psControl

/-- No partner accepts a command that the channel asked for refuses, and
`AutoCircSetActiveFrame` is accepted by one of the two at most.  The partner is asked in
the state in which the first command leaves it; a command refused at once leaves it alone. -/
def ControlHonest (s : NTV2AutoCirc) (psControl : AutoCirculateData) : Prop :=
  match psControl.eCommand with
  | .startAutoCirc | .startAutoCircAtTime =>
      ∀ channel, syncPartner s psControl.channelSpec = some channel →
        StartAccepts s channel → StartAccepts s psControl.channelSpec
  | .stopAutoCirc | .abortAutoCirc | .pauseAutoCirc | .flushAutoCirculate =>
      (syncPartner s psControl.channelSpec).isSome →
        illegalChannelSpec psControl.channelSpec = false
  | .prerollAutoCirculate =>
      let t := (autoCircPreroll s psControl.channelSpec psControl.lVal1).2
      ∀ channel, syncPartner t psControl.channelSpec = some channel →
        PrerollAccepts t channel psControl.lVal1 →
          PrerollAccepts s psControl.channelSpec psControl.lVal1
  | .setActiveFrame =>
      let t := (autoCircSetActiveFrame s psControl.channelSpec psControl.lVal1).2
      ∀ channel, syncPartner t psControl.channelSpec = some channel →
        ¬ (SetActiveAccepts s psControl.channelSpec psControl.lVal1 ∧
          SetActiveAccepts t channel psControl.lVal1)
  | _ => True

section Report

variable {s : NTV2AutoCirc} {psControl : AutoCirculateData}

/-- A channel without a partner reports for itself. -/
lemma reports_alone (h : controlPartner s psControl = none) : ReportsHonestly s psControl := by
  have hstatus : (autoCircControl s psControl).1 = (controlCommand s psControl).1 := by
    rw [controlPartner] at h
    simp only [autoCircControl, h]
  rw [ReportsHonestly, CarriedOut, hstatus, h]
  simp

/-- With a partner, the status is the one of the partner. -/
lemma reports_partner {channel : NTV2Crosspoint} (h : controlPartner s psControl = some channel) :
    (autoCircControl s psControl).1 =
      (syncCommand ((controlCommand s psControl).2.setSync psControl.channelSpec channel)
        psControl channel).1 := by
  rw [controlPartner] at h
  simp only [autoCircControl, h]

/-- A command that the partner is given too reports honestly unless the partner accepts what
the channel asked for refused. -/
lemma reports_same
    (hsame : ∀ t channel, partnerCommand t psControl channel =
      some (syncCommand t psControl channel)) :
    ReportsHonestly s psControl ↔ ∀ channel, controlPartner s psControl = some channel →
      (syncCommand ((controlCommand s psControl).2.setSync psControl.channelSpec channel)
        psControl channel).1 = .success → (controlCommand s psControl).1 = .success := by
  cases h : controlPartner s psControl with
  | none => simp [reports_alone h]
  | some channel =>
      rw [ReportsHonestly, CarriedOut, reports_partner h, h]
      simp only [Option.some.injEq, forall_eq', hsame, Option.map_some]
      tauto

/-- A command that the partner is never given reports honestly. -/
lemma reports_never (hnone : ∀ t channel, partnerCommand t psControl channel = none)
    (hbad : ∀ t channel, (syncCommand t psControl channel).1 = .badParameter) :
    ReportsHonestly s psControl := by
  cases h : controlPartner s psControl with
  | none => exact reports_alone h
  | some channel =>
      rw [ReportsHonestly, CarriedOut, reports_partner h, hbad, h]
      simp [hnone]

/-- A channel refused at once is left alone. -/
lemma start_refused {spec : NTV2Crosspoint} {startTime : Int} (h : ¬ StartAccepts s spec) :
    (autoCircStart s spec startTime).2 = s := by
  rw [autoCircStart]
  split
  · rfl
  · next hl =>
    rw [if_pos]
    exact fun hinit => h ⟨by simpa using hl, hinit⟩

/-- Where starting is concerned. -/
lemma reports_start (startTime : Int)
    (hfirst : ∀ t, controlCommand t psControl = autoCircStart t psControl.channelSpec startTime)
    (hsecond : ∀ t channel, syncCommand t psControl channel = autoCircStart t channel startTime)
    (hsame : ∀ t channel, partnerCommand t psControl channel =
      some (syncCommand t psControl channel)) :
    ReportsHonestly s psControl ↔ ∀ channel, syncPartner s psControl.channelSpec = some channel →
      StartAccepts s channel → StartAccepts s psControl.channelSpec := by
  rw [reports_same hsame]
  simp only [controlPartner, hfirst, hsecond, autoCircStart_success]
  by_cases h : StartAccepts s psControl.channelSpec
  · simp [h]
  · simp only [start_refused h]
    rfl

/-- Where a command is concerned that every legal channel accepts. -/
lemma reports_legal {f : NTV2AutoCirc → NTV2Crosspoint → Ntv2Status × NTV2AutoCirc}
    (hfirst : ∀ t, controlCommand t psControl = f t psControl.channelSpec)
    (hsecond : ∀ t channel, syncCommand t psControl channel = f t channel)
    (hsame : ∀ t channel, partnerCommand t psControl channel =
      some (syncCommand t psControl channel))
    (hsucc : ∀ t channel, (f t channel).1 = .success ↔ illegalChannelSpec channel = false)
    (hrefused : ∀ t channel, illegalChannelSpec channel = true → (f t channel).2 = t) :
    ReportsHonestly s psControl ↔ ((syncPartner s psControl.channelSpec).isSome →
      illegalChannelSpec psControl.channelSpec = false) := by
  rw [reports_same hsame]
  simp only [controlPartner, hfirst, hsecond, hsucc]
  cases h : illegalChannelSpec psControl.channelSpec with
  | false => simp
  | true =>
      rw [hrefused s _ h]
      cases hp : syncPartner s psControl.channelSpec with
      | none => simp
      | some channel => simp [syncPartner_legal hp]

/-- Prerolling a member looks at the circulators alone. -/
lemma prerollMember_auto {t u : NTV2AutoCirc} (h : t.autoCirculate = u.autoCirculate) (n : Int)
    (k : ℕ) (spec : NTV2Crosspoint) :
    (prerollMember n k spec t).2.autoCirculate = (prerollMember n k spec u).2.autoCirculate := by
  rw [prerollMember, prerollMember]
  simp only [h]
  split
  · exact h
  · split
    · simp [NTV2AutoCirc.setAuto, h]
    · exact h

/-- Whether the members of a gang are ready depends on the circulators alone. -/
lemma gangAll_ready_auto {t u : NTV2AutoCirc} (h : t.autoCirculate = u.autoCirculate) (n : Int)
    (csIndex k m : ℕ) :
    GangAll (fun _ member t => PrerollReady t member) (prerollMember n) csIndex k m t ↔
      GangAll (fun _ member t => PrerollReady t member) (prerollMember n) csIndex k m u := by
  induction m generalizing k t u with
  | zero => simp [GangAll]
  | succ m ih =>
      have hready : PrerollReady t (getNTV2CrosspointForIndex (csIndex + k)) ↔
          PrerollReady u (getNTV2CrosspointForIndex (csIndex + k)) := by
        simp only [PrerollReady, h]
      simp only [GangAll, prerollMember_success, hready, ih (prerollMember_auto h n k _)]

lemma prerollAccepts_setSync {t : NTV2AutoCirc} {x y spec : NTV2Crosspoint} {n : Int} :
    PrerollAccepts (t.setSync x y) spec n ↔ PrerollAccepts t spec n := by
  simp only [PrerollAccepts, setSync_auto]
  rw [gangAll_ready_auto (setSync_auto t x y)]

lemma setActiveAccepts_setSync {t : NTV2AutoCirc} {x y spec : NTV2Crosspoint} {f : Int} :
    SetActiveAccepts (t.setSync x y) spec f ↔ SetActiveAccepts t spec f := Iff.rfl

/-- Where `AutoCircSetActiveFrame` is concerned: its second status is always an error. -/
lemma reports_setActive (hcmd : psControl.eCommand = .setActiveFrame) :
    ReportsHonestly s psControl ↔
      ∀ channel, controlPartner s psControl = some channel →
        ¬ (SetActiveAccepts s psControl.channelSpec psControl.lVal1 ∧
          SetActiveAccepts (controlCommand s psControl).2 channel psControl.lVal1) := by
  cases h : controlPartner s psControl with
  | none => simp [reports_alone h]
  | some channel =>
      have hfirst : controlCommand s psControl =
          autoCircSetActiveFrame s psControl.channelSpec psControl.lVal1 := by
        simp only [controlCommand, hcmd]
      have hsecond : ∀ t, (syncCommand t psControl channel).1 = .badParameter := fun t => by
        simp only [syncCommand, hcmd]
      have hpartner : ∀ t, partnerCommand t psControl channel =
          some (autoCircSetActiveFrame t channel psControl.lVal1) := fun t => by
        simp only [partnerCommand, hcmd]
      rw [ReportsHonestly, CarriedOut, reports_partner h, hsecond, h]
      simp only [Option.some.injEq, forall_eq', hpartner, Option.map_some]
      rw [hfirst, autoCircSetActiveFrame_success, autoCircSetActiveFrame_success,
        setActiveAccepts_setSync]
      simp

end Report

/-- **The status of `AutoCircControl` tells whether the command was carried out on both
channels exactly when the partner accepts nothing that the channel asked for refuses, and
`AutoCircSetActiveFrame` is not accepted by both**: the status of the first command is
overwritten by the one of the second. -/
theorem control_reports_iff (s : NTV2AutoCirc) (psControl : AutoCirculateData) :
    ReportsHonestly s psControl ↔ ControlHonest s psControl := by
  cases hcmd : psControl.eCommand with
  | startAutoCirc =>
      simp only [ControlHonest, hcmd]
      exact reports_start 0 (fun t => by simp only [controlCommand, hcmd])
        (fun t channel => by simp only [syncCommand, hcmd])
        (fun t channel => by simp only [partnerCommand, syncCommand, hcmd])
  | startAutoCircAtTime =>
      simp only [ControlHonest, hcmd]
      exact reports_start psControl.startTime (fun t => by simp only [controlCommand, hcmd])
        (fun t channel => by simp only [syncCommand, hcmd])
        (fun t channel => by simp only [partnerCommand, syncCommand, hcmd])
  | stopAutoCirc =>
      simp only [ControlHonest, hcmd]
      exact reports_legal (f := autoCircStop) (fun t => by simp only [controlCommand, hcmd])
        (fun t channel => by simp only [syncCommand, hcmd])
        (fun t channel => by simp only [partnerCommand, syncCommand, hcmd])
        (fun _ _ => autoCircStop_success) (fun t channel h => by simp [autoCircStop, h])
  | abortAutoCirc =>
      simp only [ControlHonest, hcmd]
      exact reports_legal (f := autoCircAbort) (fun t => by simp only [controlCommand, hcmd])
        (fun t channel => by simp only [syncCommand, hcmd])
        (fun t channel => by simp only [partnerCommand, syncCommand, hcmd])
        (fun _ _ => autoCircAbort_success) (fun t channel h => by simp [autoCircAbort, h])
  | pauseAutoCirc =>
      simp only [ControlHonest, hcmd]
      exact reports_legal
        (f := fun t channel => autoCircPause t channel psControl.bVal1 psControl.bVal2)
        (fun t => by simp only [controlCommand, hcmd])
        (fun t channel => by simp only [syncCommand, hcmd])
        (fun t channel => by simp only [partnerCommand, syncCommand, hcmd])
        (fun _ _ => autoCircPause_success) (fun t channel h => by simp [autoCircPause, h])
  | flushAutoCirculate =>
      simp only [ControlHonest, hcmd]
      exact reports_legal (f := fun t channel => autoCircFlush t channel psControl.bVal1)
        (fun t => by simp only [controlCommand, hcmd])
        (fun t channel => by simp only [syncCommand, hcmd])
        (fun t channel => by simp only [partnerCommand, syncCommand, hcmd])
        (fun _ _ => autoCircFlush_success) (fun t channel h => by simp [autoCircFlush, h])
  | prerollAutoCirculate =>
      have hfirst : controlCommand s psControl =
          autoCircPreroll s psControl.channelSpec psControl.lVal1 := by
        simp only [controlCommand, hcmd]
      have hsecond : ∀ t channel, syncCommand t psControl channel =
          autoCircPreroll t channel psControl.lVal1 := fun t channel => by
        simp only [syncCommand, hcmd]
      simp only [ControlHonest, hcmd]
      rw [reports_same fun t channel => by simp only [partnerCommand, syncCommand, hcmd]]
      simp only [controlPartner, hfirst, hsecond, autoCircPreroll_success, prerollAccepts_setSync]
  | setActiveFrame =>
      rw [reports_setActive hcmd]
      simp only [ControlHonest, controlPartner, controlCommand, hcmd]
  | initAutoCirc | getAutoCirc | getFrameStamp | transferAutoCirculate
  | transferAutoCirculateEx | transferAutoCirculateEx2 | getFrameStampEx2 | setCaptureTask
  | invalid =>
      simp only [ControlHonest, hcmd, iff_true]
      exact reports_never (fun t channel => by simp only [partnerCommand, hcmd])
        (fun t channel => by simp only [syncCommand, hcmd])

/-- Channel 1 is started and channel 2 initialised, with the two synchronised. -/
def startedThenInitialised : NTV2AutoCirc :=
  [AutoCirculateData.plain .initAutoCirc .channel1 0 3,
    AutoCirculateData.plain .startAutoCirc .channel1 0 0,
    AutoCirculateData.plain .initAutoCirc .channel2 10 13].foldl
    (fun s psControl => (autoCircControl s psControl).2)
    { NTV2AutoCirc.idle with vRegSyncChannels := true }

/-- Starting channel 1 again is refused, channel 2 is started, and the caller is told of a
success. -/
theorem control_hides_refusal :
    startedThenInitialised.vRegSyncChannels = true ∧
      controlPartner startedThenInitialised (.plain .startAutoCirc .channel1 0 0) =
        some .channel2 ∧
      (controlCommand startedThenInitialised (.plain .startAutoCirc .channel1 0 0)).1 =
        .badParameter ∧
      ¬ ReportsHonestly startedThenInitialised (.plain .startAutoCirc .channel1 0 0) := by
  have hrefused : (controlCommand startedThenInitialised
      (.plain .startAutoCirc .channel1 0 0)).1 = .badParameter := by decide +kernel
  have htold : (autoCircControl startedThenInitialised
      (.plain .startAutoCirc .channel1 0 0)).1 = .success := by decide +kernel
  refine ⟨by decide +kernel, by decide +kernel, hrefused, fun honest => ?_⟩
  have h := (honest.1 htold).1
  rw [hrefused] at h
  cases h

end LibAjaNtv2
