import Mathlib.Tactic

/-!
The crosspoint select registers: which register, and which of its four bytes, selects the output
that an input is connected to.

* `NTV2InputXptID`: the inputs, in the order of their numbers;
* `RegisterExpert`, `RegisterExpert.defineXptReg`, `setupXptSelect`: the maps between the inputs and
  the register bytes, as the register expert builds them;
* `getXptRegNumAndMaskIndex`: the register and the byte of an input;
* `SlotsOk`, `xptSelect_slots`: **every byte that an input has is one of four bytes of a routing
  register**.
-/

namespace LibAjaNtv2

/-- The inputs of the crosspoint. -/
inductive NTV2InputXptID
  | xptFrameBuffer1Input | xptFrameBuffer1DS2Input | xptFrameBuffer2Input | xptFrameBuffer2DS2Input
  | xptFrameBuffer3Input | xptFrameBuffer3DS2Input | xptFrameBuffer4Input | xptFrameBuffer4DS2Input
  | xptFrameBuffer5Input | xptFrameBuffer5DS2Input | xptFrameBuffer6Input | xptFrameBuffer6DS2Input
  | xptFrameBuffer7Input | xptFrameBuffer7DS2Input | xptFrameBuffer8Input | xptFrameBuffer8DS2Input
  | xptCSC1VidInput | xptCSC1KeyInput | xptCSC2VidInput | xptCSC2KeyInput | xptCSC3VidInput
  | xptCSC3KeyInput | xptCSC4VidInput | xptCSC4KeyInput | xptCSC5VidInput | xptCSC5KeyInput
  | xptCSC6VidInput | xptCSC6KeyInput | xptCSC7VidInput | xptCSC7KeyInput | xptCSC8VidInput
  | xptCSC8KeyInput | xptLUT1Input | xptLUT2Input | xptLUT3Input | xptLUT4Input | xptLUT5Input
  | xptLUT6Input | xptLUT7Input | xptLUT8Input | xptMultiLinkOut1Input | xptMultiLinkOut1InputDS2
  | xptMultiLinkOut2Input | xptMultiLinkOut2InputDS2 | xptSDIOut1Input | xptSDIOut1InputDS2
  | xptSDIOut2Input | xptSDIOut2InputDS2 | xptSDIOut3Input | xptSDIOut3InputDS2 | xptSDIOut4Input
  | xptSDIOut4InputDS2 | xptSDIOut5Input | xptSDIOut5InputDS2 | xptSDIOut6Input | xptSDIOut6InputDS2
  | xptSDIOut7Input | xptSDIOut7InputDS2 | xptSDIOut8Input | xptSDIOut8InputDS2
  | xptDualLinkIn1Input | xptDualLinkIn1DSInput | xptDualLinkIn2Input | xptDualLinkIn2DSInput
  | xptDualLinkIn3Input | xptDualLinkIn3DSInput | xptDualLinkIn4Input | xptDualLinkIn4DSInput
  | xptDualLinkIn5Input | xptDualLinkIn5DSInput | xptDualLinkIn6Input | xptDualLinkIn6DSInput
  | xptDualLinkIn7Input | xptDualLinkIn7DSInput | xptDualLinkIn8Input | xptDualLinkIn8DSInput
  | xptDualLinkOut1Input | xptDualLinkOut2Input | xptDualLinkOut3Input | xptDualLinkOut4Input
  | xptDualLinkOut5Input | xptDualLinkOut6Input | xptDualLinkOut7Input | xptDualLinkOut8Input
  | xptMixer1BGKeyInput | xptMixer1BGVidInput | xptMixer1FGKeyInput | xptMixer1FGVidInput
  | xptMixer2BGKeyInput | xptMixer2BGVidInput | xptMixer2FGKeyInput | xptMixer2FGVidInput
  | xptMixer3BGKeyInput | xptMixer3BGVidInput | xptMixer3FGKeyInput | xptMixer3FGVidInput
  | xptMixer4BGKeyInput | xptMixer4BGVidInput | xptMixer4FGKeyInput | xptMixer4FGVidInput
  | xptHDMIOutInput | xptHDMIOutQ2Input | xptHDMIOutQ3Input | xptHDMIOutQ4Input | xpt4KDCQ1Input
  | xpt4KDCQ2Input | xpt4KDCQ3Input | xpt4KDCQ4Input | xpt425Mux1AInput | xpt425Mux1BInput
  | xpt425Mux2AInput | xpt425Mux2BInput | xpt425Mux3AInput | xpt425Mux3BInput | xpt425Mux4AInput
  | xpt425Mux4BInput | xptAnalogOutInput | xpt3DLUT1Input | xptAnalogOutCompositeOut
  | xptStereoLeftInput | xptStereoRightInput | xptProAmpInput | xptIICT1Input | xptWaterMarker1Input
  | xptWaterMarker2Input | xptUpdateRegister | xptOEInput | xptCompressionModInput
  | xptConversionModInput | xptCSC1KeyFromInput2 | xptFrameSync2Input | xptFrameSync1Input
  | inputCrosspointInvalid
  deriving DecidableEq, Repr

/-- An output of the crosspoint, by its number. -/
abbrev NTV2OutputXptID := BitVec 32

/-- The output that carries black, where an input without a connection points. -/
def xptBlack : NTV2OutputXptID := 0

/-- The numbers of the crosspoint select registers. -/
def kRegXptSelectGroup : ℕ → ℕ
  | 1 => 136
  | 2 => 137
  | 3 => 138
  | 4 => 139
  | 5 => 140
  | 6 => 141
  | 7 => 163
  | 8 => 164
  | 9 => 250
  | 10 => 251
  | 11 => 191
  | 12 => 193
  | 13 => 263
  | 14 => 264
  | 15 => 302
  | 16 => 303
  | 17 => 301
  | 18 => 352
  | 19 => 356
  | 20 => 357
  | 21 => 400
  | 22 => 401
  | 23 => 403
  | 24 => 404
  | 25 => 405
  | 26 => 406
  | 27 => 407
  | 28 => 408
  | 29 => 409
  | 30 => 402
  | 31 => 439
  | 32 => 506
  | 33 => 507
  | 34 => 508
  | 35 => 509
  | 36 => 174
  | 37 => 175
  | _ => 0

/-- The register expert: the routing registers, and both maps between inputs and register bytes. -/
structure RegisterExpert where
  routing : List ℕ
  mInputXpt2XptRegNumMaskIndexMap : NTV2InputXptID → Option (ℕ × ℕ)
  mXptRegNumMaskIndex2InputXptMap : ℕ × ℕ → Option NTV2InputXptID

namespace RegisterExpert

/-- The expert before any register is defined. -/
def empty : RegisterExpert := ⟨[], fun _ => none, fun _ => none⟩

/-- One byte of a register selects the output of an input: the first definition of each stays. -/
def defineByte (expert : RegisterExpert) (regNumAndNdx : ℕ × ℕ) (xpt : NTV2InputXptID) :
    RegisterExpert :=
  { expert with
    mXptRegNumMaskIndex2InputXptMap :=
      if (expert.mXptRegNumMaskIndex2InputXptMap regNumAndNdx).isNone then
        Function.update expert.mXptRegNumMaskIndex2InputXptMap regNumAndNdx (some xpt)
      else expert.mXptRegNumMaskIndex2InputXptMap
    mInputXpt2XptRegNumMaskIndexMap :=
      if (expert.mInputXpt2XptRegNumMaskIndexMap xpt).isNone then
        Function.update expert.mInputXpt2XptRegNumMaskIndexMap xpt (some regNumAndNdx)
      else expert.mInputXpt2XptRegNumMaskIndexMap }

/-- One entry of a register definition, unless the entry is empty. -/
def defineIndex (inRegNum : ℕ) (expert : RegisterExpert) (entry : ℕ × NTV2InputXptID) :
    RegisterExpert :=
  if entry.2 = .inputCrosspointInvalid then expert
  else expert.defineByte (inRegNum, entry.1) entry.2

/-- Define a routing register by the inputs of its four bytes. -/
def defineXptReg (expert : RegisterExpert) (inRegNum : ℕ)
    (xpt0 xpt1 xpt2 xpt3 : NTV2InputXptID) : RegisterExpert :=
  [(0, xpt0), (1, xpt1), (2, xpt2), (3, xpt3)].foldl (defineIndex inRegNum)
    { expert with routing := inRegNum :: expert.routing }

end RegisterExpert

open RegisterExpert NTV2InputXptID in
/-- The crosspoint select registers. -/
@[irreducible] def setupXptSelect : RegisterExpert :=
  empty
    |>.defineXptReg (kRegXptSelectGroup 1) xptLUT1Input xptCSC1VidInput
      xptConversionModInput xptCompressionModInput
    |>.defineXptReg (kRegXptSelectGroup 2) xptFrameBuffer1Input xptFrameSync1Input
      xptFrameSync2Input xptDualLinkOut1Input
    |>.defineXptReg (kRegXptSelectGroup 3) xptAnalogOutInput xptSDIOut1Input
      xptSDIOut2Input xptCSC1KeyInput
    |>.defineXptReg (kRegXptSelectGroup 4) xptMixer1FGVidInput xptMixer1FGKeyInput
      xptMixer1BGVidInput xptMixer1BGKeyInput
    |>.defineXptReg (kRegXptSelectGroup 5) xptFrameBuffer2Input xptLUT2Input
      xptCSC2VidInput xptCSC2KeyInput
    |>.defineXptReg (kRegXptSelectGroup 6) xptWaterMarker1Input xptIICT1Input
      xptHDMIOutInput xptOEInput
    -- the same input under its other name, NTV2_XptHDMIOutQ1Input
    |>.defineByte (kRegXptSelectGroup 6, 2) xptHDMIOutInput
    |>.defineXptReg (kRegXptSelectGroup 7) xptWaterMarker2Input inputCrosspointInvalid
      xptDualLinkOut2Input inputCrosspointInvalid
    |>.defineXptReg (kRegXptSelectGroup 8) xptSDIOut3Input xptSDIOut4Input
      xptSDIOut5Input inputCrosspointInvalid
    |>.defineXptReg (kRegXptSelectGroup 9) xptMixer2FGVidInput xptMixer2FGKeyInput
      xptMixer2BGVidInput xptMixer2BGKeyInput
    |>.defineXptReg (kRegXptSelectGroup 10) xptSDIOut1InputDS2 xptSDIOut2InputDS2
      inputCrosspointInvalid inputCrosspointInvalid
    |>.defineXptReg (kRegXptSelectGroup 11) xptDualLinkIn1Input xptDualLinkIn1DSInput
      xptDualLinkIn2Input xptDualLinkIn2DSInput
    |>.defineXptReg (kRegXptSelectGroup 12) xptLUT3Input xptLUT4Input xptLUT5Input xpt3DLUT1Input
    |>.defineXptReg (kRegXptSelectGroup 13) xptFrameBuffer3Input inputCrosspointInvalid
      xptFrameBuffer4Input inputCrosspointInvalid
    |>.defineXptReg (kRegXptSelectGroup 14) inputCrosspointInvalid xptSDIOut3InputDS2
      xptSDIOut5InputDS2 xptSDIOut4InputDS2
    |>.defineXptReg (kRegXptSelectGroup 15) xptDualLinkIn3Input xptDualLinkIn3DSInput
      xptDualLinkIn4Input xptDualLinkIn4DSInput
    |>.defineXptReg (kRegXptSelectGroup 16) xptDualLinkOut3Input xptDualLinkOut4Input
      xptDualLinkOut5Input inputCrosspointInvalid
    |>.defineXptReg (kRegXptSelectGroup 17) xptCSC3VidInput xptCSC3KeyInput
      xptCSC4VidInput xptCSC4KeyInput
    |>.defineXptReg (kRegXptSelectGroup 18) xptCSC5VidInput xptCSC5KeyInput
      inputCrosspointInvalid inputCrosspointInvalid
    |>.defineXptReg (kRegXptSelectGroup 19) xpt4KDCQ1Input xpt4KDCQ2Input
      xpt4KDCQ3Input xpt4KDCQ4Input
    |>.defineXptReg (kRegXptSelectGroup 20) inputCrosspointInvalid xptHDMIOutQ2Input
      xptHDMIOutQ3Input xptHDMIOutQ4Input
    |>.defineXptReg (kRegXptSelectGroup 21) xptFrameBuffer5Input xptFrameBuffer6Input
      xptFrameBuffer7Input xptFrameBuffer8Input
    |>.defineXptReg (kRegXptSelectGroup 22) xptSDIOut6Input xptSDIOut6InputDS2
      xptSDIOut7Input xptSDIOut7InputDS2
    |>.defineXptReg (kRegXptSelectGroup 23) xptCSC7VidInput xptCSC7KeyInput
      xptCSC8VidInput xptCSC8KeyInput
    |>.defineXptReg (kRegXptSelectGroup 24) xptLUT6Input xptLUT7Input
      xptLUT8Input inputCrosspointInvalid
    |>.defineXptReg (kRegXptSelectGroup 25) xptDualLinkIn5Input xptDualLinkIn5DSInput
      xptDualLinkIn6Input xptDualLinkIn6DSInput
    |>.defineXptReg (kRegXptSelectGroup 26) xptDualLinkIn7Input xptDualLinkIn7DSInput
      xptDualLinkIn8Input xptDualLinkIn8DSInput
    |>.defineXptReg (kRegXptSelectGroup 27) xptDualLinkOut6Input xptDualLinkOut7Input
      xptDualLinkOut8Input inputCrosspointInvalid
    |>.defineXptReg (kRegXptSelectGroup 28) xptMixer3FGVidInput xptMixer3FGKeyInput
      xptMixer3BGVidInput xptMixer3BGKeyInput
    |>.defineXptReg (kRegXptSelectGroup 29) xptMixer4FGVidInput xptMixer4FGKeyInput
      xptMixer4BGVidInput xptMixer4BGKeyInput
    |>.defineXptReg (kRegXptSelectGroup 30) xptSDIOut8Input xptSDIOut8InputDS2
      xptCSC6VidInput xptCSC6KeyInput
    |>.defineXptReg (kRegXptSelectGroup 32) xpt425Mux1AInput xpt425Mux1BInput
      xpt425Mux2AInput xpt425Mux2BInput
    |>.defineXptReg (kRegXptSelectGroup 33) xpt425Mux3AInput xpt425Mux3BInput
      xpt425Mux4AInput xpt425Mux4BInput
    |>.defineXptReg (kRegXptSelectGroup 34) xptFrameBuffer1DS2Input xptFrameBuffer2DS2Input
      xptFrameBuffer3DS2Input xptFrameBuffer4DS2Input
    |>.defineXptReg (kRegXptSelectGroup 35) xptFrameBuffer5DS2Input xptFrameBuffer6DS2Input
      xptFrameBuffer7DS2Input xptFrameBuffer8DS2Input
    |>.defineXptReg (kRegXptSelectGroup 36) xptMultiLinkOut1Input xptMultiLinkOut1InputDS2
      inputCrosspointInvalid inputCrosspointInvalid

/-- The register and the byte of an input. -/
def getXptRegNumAndMaskIndex (inInputXpt : NTV2InputXptID) : Option (ℕ × ℕ) :=
  setupXptSelect.mInputXpt2XptRegNumMaskIndexMap inInputXpt

/-- The registers of the routing class. -/
def routingRegisters : List ℕ := setupXptSelect.routing

/-! ### The bytes that inputs have -/

/-- Every byte that an input has is one of the four bytes of a routing register. -/
structure SlotsOk (expert : RegisterExpert) : Prop where
  slot : ∀ i r n, expert.mInputXpt2XptRegNumMaskIndexMap i = some (r, n) →
    r ∈ expert.routing ∧ n < 4
  routing : ∀ r ∈ expert.routing, 0 < r ∧ r < 4294967295

lemma slotsOk_empty : SlotsOk .empty := by
  refine ⟨fun i r n h => ?_, fun r h => ?_⟩
  · cases h
  · cases h

/-- Defining a byte of a routing register. -/
lemma SlotsOk.defineByte {expert : RegisterExpert} (h : SlotsOk expert) {r n : ℕ}
    (hr : r ∈ expert.routing) (hn : n < 4) (xpt : NTV2InputXptID) :
    SlotsOk (expert.defineByte (r, n) xpt) := by
  refine ⟨fun i q m hslot => ?_, h.routing⟩
  simp only [RegisterExpert.defineByte] at hslot
  split_ifs at hslot
  · by_cases hi : i = xpt
    · rw [hi, Function.update_self] at hslot
      obtain ⟨rfl, rfl⟩ := Prod.mk.inj (Option.some.inj hslot)
      exact ⟨hr, hn⟩
    · rw [Function.update_of_ne hi] at hslot
      exact h.slot i q m hslot
  · exact h.slot i q m hslot

@[simp] lemma defineIndex_routing (r : ℕ) (expert : RegisterExpert) (entry : ℕ × NTV2InputXptID) :
    (RegisterExpert.defineIndex r expert entry).routing = expert.routing := by
  rw [RegisterExpert.defineIndex]
  split_ifs <;> rfl

lemma SlotsOk.defineIndex {expert : RegisterExpert} (h : SlotsOk expert) {r : ℕ}
    (hr : r ∈ expert.routing) {entry : ℕ × NTV2InputXptID} (hn : entry.1 < 4) :
    SlotsOk (RegisterExpert.defineIndex r expert entry) := by
  rw [RegisterExpert.defineIndex]
  split_ifs
  · exact h
  · exact h.defineByte hr hn entry.2

/-- Defining a register. -/
lemma SlotsOk.defineXptReg {expert : RegisterExpert} (h : SlotsOk expert) {r : ℕ}
    (hr : 0 < r ∧ r < 4294967295) (xpt0 xpt1 xpt2 xpt3 : NTV2InputXptID) :
    SlotsOk (expert.defineXptReg r xpt0 xpt1 xpt2 xpt3) := by
  have hstart : SlotsOk { expert with routing := r :: expert.routing } := by
    refine ⟨fun i q n hslot => ?_, fun q hq => ?_⟩
    · obtain ⟨hq, hn⟩ := h.slot i q n hslot
      exact ⟨List.mem_cons_of_mem r hq, hn⟩
    · rcases List.mem_cons.mp hq with rfl | hq
      · exact hr
      · exact h.routing q hq
  rw [RegisterExpert.defineXptReg, List.foldl_cons, List.foldl_cons, List.foldl_cons,
    List.foldl_cons, List.foldl_nil]
  exact (((hstart.defineIndex (by simp) (by simp)).defineIndex (by simp) (by simp)).defineIndex
    (by simp) (by simp)).defineIndex (by simp) (by simp)

lemma mem_routing_defineXptReg {expert : RegisterExpert} {q r : ℕ} {xpt0 xpt1 xpt2 xpt3} :
    q ∈ (expert.defineXptReg r xpt0 xpt1 xpt2 xpt3).routing ↔ q = r ∨ q ∈ expert.routing := by
  simp [RegisterExpert.defineXptReg]

/-- **Every byte that an input has is one of the four bytes of a routing register.** -/
theorem xptSelect_slots : SlotsOk setupXptSelect := by
  rw [setupXptSelect]
  repeat' first
    | exact slotsOk_empty
    | refine SlotsOk.defineXptReg ?_ (by decide) _ _ _ _
    | refine SlotsOk.defineByte ?_ (by rw [mem_routing_defineXptReg]; exact .inl rfl) (by decide) _

/-- The slot of an input is a byte of a routing register. -/
lemma slot_spec {i : NTV2InputXptID} {slot : ℕ × ℕ} (h : getXptRegNumAndMaskIndex i = some slot) :
    slot.1 ∈ routingRegisters ∧ slot.2 < 4 ∧ 0 < slot.1 ∧ slot.1 < 4294967295 := by
  obtain ⟨hrouting, hndx⟩ := xptSelect_slots.slot i slot.1 slot.2 h
  obtain ⟨hpos, hlt⟩ := xptSelect_slots.routing slot.1 hrouting
  exact ⟨hrouting, hndx, hpos, hlt⟩

end LibAjaNtv2
