import LibAjaNtv2.Router.XptSelect

/-!
The widgets of the crosspoint: which inputs and which outputs each has (`ntv2routingexpert.cpp`,
`ntv2enums.h`).

* `NTV2WidgetID`: the widgets, in the order of their numbers;
* `gWidget2InputXpts`, `gOutputXpt2WidgetIDs`: the tables of the routing expert, outputs by their
  numbers;
* `getWidgetInputs`, `getWidgetsForOutput`, `getWidgetForOutput`: the lookups;
* `getWidgetForOutput_eq`: **the first widget of an output stands for all of them**.
-/

namespace LibAjaNtv2

/-- The widgets. -/
inductive NTV2WidgetID
  | wgtFrameBuffer1 | wgtFrameBuffer2 | wgtFrameBuffer3 | wgtFrameBuffer4 | wgtCSC1 | wgtCSC2
  | wgtLUT1 | wgtLUT2 | wgtFrameSync1 | wgtFrameSync2 | wgtSDIIn1 | wgtSDIIn2 | wgt3GSDIIn1
  | wgt3GSDIIn2 | wgt3GSDIIn3 | wgt3GSDIIn4 | wgtSDIOut1 | wgtSDIOut2 | wgtSDIOut3 | wgtSDIOut4
  | wgt3GSDIOut1 | wgt3GSDIOut2 | wgt3GSDIOut3 | wgt3GSDIOut4 | wgtDualLinkIn1 | wgtDualLinkV2In1
  | wgtDualLinkV2In2 | wgtDualLinkOut1 | wgtDualLinkOut2 | wgtDualLinkV2Out1 | wgtDualLinkV2Out2
  | wgtAnalogIn1 | wgtAnalogOut1 | wgtAnalogCompositeOut1 | wgtHDMIIn1 | wgtHDMIOut1
  | wgtUpDownConverter1 | wgtUpDownConverter2 | wgtMixer1 | wgtCompression1 | wgtProcAmp1
  | wgtWaterMarker1 | wgtWaterMarker2 | wgtIICT1 | wgtIICT2 | wgtTestPattern1 | wgtGenLock
  | wgtDCIMixer1 | wgtMixer2 | wgtStereoCompressor | wgtLUT3 | wgtLUT4 | wgtDualLinkV2In3
  | wgtDualLinkV2In4 | wgtDualLinkV2Out3 | wgtDualLinkV2Out4 | wgtCSC3 | wgtCSC4 | wgtHDMIIn1v2
  | wgtHDMIOut1v2 | wgtSDIMonOut1 | wgtCSC5 | wgtLUT5 | wgtDualLinkV2Out5 | wgt4KDownConverter
  | wgt3GSDIIn5 | wgt3GSDIIn6 | wgt3GSDIIn7 | wgt3GSDIIn8 | wgt3GSDIOut5 | wgt3GSDIOut6
  | wgt3GSDIOut7 | wgt3GSDIOut8 | wgtDualLinkV2In5 | wgtDualLinkV2In6 | wgtDualLinkV2In7
  | wgtDualLinkV2In8 | wgtDualLinkV2Out6 | wgtDualLinkV2Out7 | wgtDualLinkV2Out8 | wgtCSC6
  | wgtCSC7 | wgtCSC8 | wgtLUT6 | wgtLUT7 | wgtLUT8 | wgtMixer3 | wgtMixer4 | wgtFrameBuffer5
  | wgtFrameBuffer6 | wgtFrameBuffer7 | wgtFrameBuffer8 | wgtHDMIIn1v3 | wgtHDMIOut1v3
  | wgt425Mux1 | wgt425Mux2 | wgt425Mux3 | wgt425Mux4 | wgt12GSDIIn1 | wgt12GSDIIn2 | wgt12GSDIIn3
  | wgt12GSDIIn4 | wgt12GSDIIn5 | wgt12GSDIIn6 | wgt12GSDIIn7 | wgt12GSDIIn8 | wgt12GSDIOut1
  | wgt12GSDIOut2 | wgt12GSDIOut3 | wgt12GSDIOut4 | wgt12GSDIOut5 | wgt12GSDIOut6 | wgt12GSDIOut7
  | wgt12GSDIOut8 | wgtHDMIIn1v4 | wgtHDMIIn2v4 | wgtHDMIIn3v4 | wgtHDMIIn4v4 | wgtHDMIOut1v4
  | wgtHDMIOut1v5 | wgtHDMIOut1v6 | wgtHDMIOut2v6 | wgtHDMIOut3v6 | wgtHDMIOut4v6
  | wgtMultiLinkOut1 | wgt3DLUT1 | wgtMultiLinkOut2 | wgtOE1 | wgtHDMIIn1v5
  deriving DecidableEq, Repr

open NTV2InputXptID NTV2WidgetID

/-- The inputs of the widgets that have any. -/
def gWidget2InputXpts : List (NTV2WidgetID × List NTV2InputXptID) :=
  [(wgtFrameBuffer1, [xptFrameBuffer1Input, xptFrameBuffer1DS2Input]),
   (wgtFrameBuffer2, [xptFrameBuffer2Input, xptFrameBuffer2DS2Input]),
   (wgtFrameBuffer3, [xptFrameBuffer3Input, xptFrameBuffer3DS2Input]),
   (wgtFrameBuffer4, [xptFrameBuffer4Input, xptFrameBuffer4DS2Input]),
   (wgtCSC1, [xptCSC1VidInput, xptCSC1KeyInput]),
   (wgtCSC2, [xptCSC2VidInput, xptCSC2KeyInput]),
   (wgtLUT1, [xptLUT1Input]),
   (wgtLUT2, [xptLUT2Input]),
   (wgtFrameSync1, [xptFrameSync1Input]),
   (wgtFrameSync2, [xptFrameSync2Input]),
   (wgtSDIOut1, [xptSDIOut1Input]),
   (wgtSDIOut2, [xptSDIOut2Input]),
   (wgtSDIOut3, [xptSDIOut3Input]),
   (wgtSDIOut4, [xptSDIOut4Input]),
   (wgt3GSDIOut1, [xptSDIOut1Input, xptSDIOut1InputDS2]),
   (wgt3GSDIOut2, [xptSDIOut2Input, xptSDIOut2InputDS2]),
   (wgt3GSDIOut3, [xptSDIOut3Input, xptSDIOut3InputDS2]),
   (wgt3GSDIOut4, [xptSDIOut4Input, xptSDIOut4InputDS2]),
   (wgtDualLinkV2In1, [xptDualLinkIn1Input, xptDualLinkIn1DSInput]),
   (wgtDualLinkV2In2, [xptDualLinkIn2Input, xptDualLinkIn2DSInput]),
   (wgtDualLinkV2Out1, [xptDualLinkOut1Input]),
   (wgtDualLinkV2Out2, [xptDualLinkOut2Input]),
   (wgtAnalogOut1, [xptAnalogOutInput]),
   (wgtAnalogCompositeOut1, [xptAnalogOutCompositeOut]),
   (wgtHDMIOut1, [xptHDMIOutInput]),
   (wgtUpDownConverter1, [xptConversionModInput]),
   (wgtMixer1, [
      xptMixer1BGKeyInput, xptMixer1BGVidInput, xptMixer1FGKeyInput, xptMixer1FGVidInput]),
   (wgtCompression1, [xptCompressionModInput]),
   (wgtWaterMarker1, [xptWaterMarker1Input]),
   (wgtWaterMarker2, [xptWaterMarker2Input]),
   (wgtMixer2, [
      xptMixer2BGKeyInput, xptMixer2BGVidInput, xptMixer2FGKeyInput, xptMixer2FGVidInput]),
   (wgtStereoCompressor, [xptStereoLeftInput, xptStereoRightInput]),
   (wgtLUT3, [xptLUT3Input]),
   (wgtLUT4, [xptLUT4Input]),
   (wgtDualLinkV2In3, [xptDualLinkIn3Input, xptDualLinkIn3DSInput]),
   (wgtDualLinkV2In4, [xptDualLinkIn4Input, xptDualLinkIn4DSInput]),
   (wgtDualLinkV2Out3, [xptDualLinkOut3Input]),
   (wgtDualLinkV2Out4, [xptDualLinkOut4Input]),
   (wgtCSC3, [xptCSC3VidInput, xptCSC3KeyInput]),
   (wgtCSC4, [xptCSC4VidInput, xptCSC4KeyInput]),
   (wgtHDMIOut1v2, [xptHDMIOutInput, xptHDMIOutQ2Input, xptHDMIOutQ3Input, xptHDMIOutQ4Input]),
   (wgtSDIMonOut1, [xptSDIOut5Input, xptSDIOut5InputDS2]),
   (wgtCSC5, [xptCSC5VidInput, xptCSC5KeyInput]),
   (wgtLUT5, [xptLUT5Input]),
   (wgtDualLinkV2Out5, [xptDualLinkOut5Input]),
   (wgt4KDownConverter, [xpt4KDCQ1Input, xpt4KDCQ2Input, xpt4KDCQ3Input, xpt4KDCQ4Input]),
   (wgt3GSDIOut5, [xptSDIOut5Input, xptSDIOut5InputDS2]),
   (wgt3GSDIOut6, [xptSDIOut6Input, xptSDIOut6InputDS2]),
   (wgt3GSDIOut7, [xptSDIOut7Input, xptSDIOut7InputDS2]),
   (wgt3GSDIOut8, [xptSDIOut8Input, xptSDIOut8InputDS2]),
   (wgtDualLinkV2In5, [xptDualLinkIn5Input, xptDualLinkIn5DSInput]),
   (wgtDualLinkV2In6, [xptDualLinkIn6Input, xptDualLinkIn6DSInput]),
   (wgtDualLinkV2In7, [xptDualLinkIn7Input, xptDualLinkIn7DSInput]),
   (wgtDualLinkV2In8, [xptDualLinkIn8Input, xptDualLinkIn8DSInput]),
   (wgtDualLinkV2Out6, [xptDualLinkOut6Input]),
   (wgtDualLinkV2Out7, [xptDualLinkOut7Input]),
   (wgtDualLinkV2Out8, [xptDualLinkOut8Input]),
   (wgtCSC6, [xptCSC6VidInput, xptCSC6KeyInput]),
   (wgtCSC7, [xptCSC7VidInput, xptCSC7KeyInput]),
   (wgtCSC8, [xptCSC8VidInput, xptCSC8KeyInput]),
   (wgtLUT6, [xptLUT6Input]),
   (wgtLUT7, [xptLUT7Input]),
   (wgtLUT8, [xptLUT8Input]),
   (wgtMixer3, [
      xptMixer3BGKeyInput, xptMixer3BGVidInput, xptMixer3FGKeyInput, xptMixer3FGVidInput]),
   (wgtMixer4, [
      xptMixer4BGKeyInput, xptMixer4BGVidInput, xptMixer4FGKeyInput, xptMixer4FGVidInput]),
   (wgtFrameBuffer5, [xptFrameBuffer5Input, xptFrameBuffer5DS2Input]),
   (wgtFrameBuffer6, [xptFrameBuffer6Input, xptFrameBuffer6DS2Input]),
   (wgtFrameBuffer7, [xptFrameBuffer7Input, xptFrameBuffer7DS2Input]),
   (wgtFrameBuffer8, [xptFrameBuffer8Input, xptFrameBuffer8DS2Input]),
   (wgtHDMIOut1v3, [xptHDMIOutInput, xptHDMIOutQ2Input, xptHDMIOutQ3Input, xptHDMIOutQ4Input]),
   (wgt425Mux1, [xpt425Mux1AInput, xpt425Mux1BInput]),
   (wgt425Mux2, [xpt425Mux2AInput, xpt425Mux2BInput]),
   (wgt425Mux3, [xpt425Mux3AInput, xpt425Mux3BInput]),
   (wgt425Mux4, [xpt425Mux4AInput, xpt425Mux4BInput]),
   (wgt12GSDIOut1, [xptSDIOut1Input, xptSDIOut1InputDS2]),
   (wgt12GSDIOut2, [xptSDIOut2Input, xptSDIOut2InputDS2]),
   (wgt12GSDIOut3, [xptSDIOut3Input, xptSDIOut3InputDS2]),
   (wgt12GSDIOut4, [xptSDIOut4Input, xptSDIOut4InputDS2]),
   (wgt12GSDIOut5, [xptSDIOut5Input, xptSDIOut5InputDS2]),
   (wgt12GSDIOut6, [xptSDIOut6Input, xptSDIOut6InputDS2]),
   (wgt12GSDIOut7, [xptSDIOut7Input, xptSDIOut7InputDS2]),
   (wgt12GSDIOut8, [xptSDIOut8Input, xptSDIOut8InputDS2]),
   (wgtHDMIOut1v4, [xptHDMIOutInput, xptHDMIOutQ2Input, xptHDMIOutQ3Input, xptHDMIOutQ4Input]),
   (wgtHDMIOut1v5, [xptHDMIOutInput]),
   (wgtHDMIOut1v6, [xptHDMIOutInput]),
   (wgtHDMIOut2v6, [xptHDMIOutQ2Input]),
   (wgtHDMIOut3v6, [xptHDMIOutQ3Input]),
   (wgtHDMIOut4v6, [xptHDMIOutQ4Input]),
   (wgtMultiLinkOut1, [xptMultiLinkOut1Input, xptMultiLinkOut1InputDS2]),
   (wgt3DLUT1, [xpt3DLUT1Input]),
   (wgtMultiLinkOut2, [xptMultiLinkOut2Input, xptMultiLinkOut2InputDS2]),
   (wgtOE1, [xptOEInput])]

/-- The widgets of each output, by the number of the output. -/
def gOutputXpt2WidgetIDs : List (NTV2OutputXptID × List NTV2WidgetID) :=
  [(0x01, [wgtSDIIn1, wgt3GSDIIn1, wgt12GSDIIn1]), (0x02, [wgtSDIIn2, wgt3GSDIIn2, wgt12GSDIIn2]),
   (0x05, [wgtCSC1]), (0x06, [wgtUpDownConverter1]), (0x07, [wgtCompression1]),
   (0x08, [wgtFrameBuffer1]), (0x09, [wgtFrameSync1]), (0x0A, [wgtFrameSync2]),
   (0x0B, [wgtDualLinkV2Out1]), (0x0E, [wgtCSC1]), (0x0F, [wgtFrameBuffer2]), (0x10, [wgtCSC2]),
   (0x11, [wgtCSC2]), (0x12, [wgtMixer1]), (0x13, [wgtMixer1]), (0x14, [wgtMultiLinkOut1]),
   (0x15, [wgtMultiLinkOut1]), (0x16, [wgtAnalogIn1]),
   (0x17, [wgtHDMIIn1, wgtHDMIIn1v2, wgtHDMIIn1v3, wgtHDMIIn1v4, wgtHDMIIn1v5]),
   (0x18, [wgtMultiLinkOut1]), (0x19, [wgtMultiLinkOut1]), (0x1A, [wgtMultiLinkOut2]),
   (0x1B, [wgtMultiLinkOut2]), (0x1C, [wgtDualLinkV2Out2]), (0x1D, [wgtTestPattern1]),
   (0x1E, [wgt3GSDIIn1, wgt12GSDIIn1]), (0x1F, [wgt3GSDIIn2, wgt12GSDIIn2]), (0x20, [wgtMixer2]),
   (0x21, [wgtMixer2]), (0x23, [wgtStereoCompressor]), (0x24, [wgtFrameBuffer3]),
   (0x25, [wgtFrameBuffer4]), (0x26, [wgtDualLinkV2Out1]), (0x27, [wgtDualLinkV2Out2]),
   (0x2C, [wgtCSC5]), (0x2D, [wgtCSC5]), (0x2E, [wgtMultiLinkOut2]), (0x2F, [wgtMultiLinkOut2]),
   (0x30, [wgt3GSDIIn3, wgt12GSDIIn3]), (0x31, [wgt3GSDIIn4, wgt12GSDIIn4]),
   (0x32, [wgt3GSDIIn3, wgt12GSDIIn3]), (0x33, [wgt3GSDIIn4, wgt12GSDIIn4]),
   (0x36, [wgtDualLinkV2Out3]), (0x37, [wgtDualLinkV2Out3]), (0x38, [wgtDualLinkV2Out4]),
   (0x39, [wgtDualLinkV2Out4]), (0x3A, [wgtCSC3]), (0x3B, [wgtCSC3]), (0x3C, [wgtCSC4]),
   (0x3D, [wgtCSC4]), (0x3E, [wgtDualLinkV2Out5]), (0x3F, [wgtDualLinkV2Out5]),
   (0x40, [wgt3DLUT1]), (0x41, [wgtHDMIIn1v3, wgtHDMIIn1v4]), (0x42, [wgtHDMIIn1v3, wgtHDMIIn1v4]),
   (0x43, [wgtHDMIIn1v3, wgtHDMIIn1v4]), (0x44, [wgt4KDownConverter]),
   (0x45, [wgt3GSDIIn5, wgt12GSDIIn5]), (0x46, [wgt3GSDIIn6, wgt12GSDIIn6]),
   (0x47, [wgt3GSDIIn5, wgt12GSDIIn5]), (0x48, [wgt3GSDIIn6, wgt12GSDIIn6]),
   (0x49, [wgt3GSDIIn7, wgt12GSDIIn7]), (0x4A, [wgt3GSDIIn8, wgt12GSDIIn8]),
   (0x4B, [wgt3GSDIIn7, wgt12GSDIIn7]), (0x4C, [wgt3GSDIIn8, wgt12GSDIIn8]),
   (0x51, [wgtFrameBuffer5]), (0x52, [wgtFrameBuffer6]), (0x53, [wgtFrameBuffer7]),
   (0x54, [wgtFrameBuffer8]), (0x55, [wgtMixer3]), (0x56, [wgtMixer3]), (0x57, [wgtMixer4]),
   (0x58, [wgtMixer4]), (0x59, [wgtCSC6]), (0x5A, [wgtCSC6]), (0x5B, [wgtCSC7]), (0x5C, [wgtCSC7]),
   (0x5D, [wgtCSC8]), (0x5E, [wgtCSC8]), (0x62, [wgtDualLinkV2Out6]), (0x63, [wgtDualLinkV2Out6]),
   (0x64, [wgtDualLinkV2Out7]), (0x65, [wgtDualLinkV2Out7]), (0x66, [wgtDualLinkV2Out8]),
   (0x67, [wgtDualLinkV2Out8]), (0x68, [wgt425Mux1]), (0x69, [wgt425Mux1]), (0x6A, [wgt425Mux2]),
   (0x6B, [wgt425Mux2]), (0x6C, [wgt425Mux3]), (0x6D, [wgt425Mux3]), (0x6E, [wgt425Mux4]),
   (0x6F, [wgt425Mux4]), (0x70, [wgtFrameBuffer1]), (0x71, [wgtFrameBuffer2]),
   (0x72, [wgtFrameBuffer3]), (0x73, [wgtFrameBuffer4]), (0x74, [wgtFrameBuffer5]),
   (0x75, [wgtFrameBuffer6]), (0x76, [wgtFrameBuffer7]), (0x77, [wgtFrameBuffer8]),
   (0x78, [wgtHDMIIn2v4]), (0x79, [wgtHDMIIn2v4]), (0x7A, [wgtHDMIIn2v4]), (0x7B, [wgtHDMIIn2v4]),
   (0x7C, [wgtHDMIIn3v4]), (0x7D, [wgtHDMIIn4v4]), (0x83, [wgtDualLinkV2In1]), (0x84, [wgtLUT1]),
   (0x85, [wgtCSC1]), (0x88, [wgtFrameBuffer1]), (0x89, [wgtFrameSync1]), (0x8A, [wgtFrameSync2]),
   (0x8D, [wgtLUT2]), (0x8F, [wgtFrameBuffer2]), (0x90, [wgtCSC2]), (0x92, [wgtMixer1]),
   (0x95, [wgtIICT1]), (0x97, [wgtHDMIIn1v3, wgtHDMIIn1v4, wgtHDMIIn1v5]), (0x9B, [wgtIICT2]),
   (0xA2, [wgtOE1]), (0xA4, [wgtFrameBuffer3]), (0xA5, [wgtFrameBuffer4]),
   (0xA8, [wgtDualLinkV2In2]), (0xA9, [wgtLUT3]), (0xAA, [wgtLUT4]), (0xAB, [wgtLUT5]),
   (0xAC, [wgtCSC5]), (0xB4, [wgtDualLinkV2In3]), (0xB5, [wgtDualLinkV2In4]), (0xBA, [wgtCSC3]),
   (0xBC, [wgtCSC4]), (0xC0, [wgt3DLUT1]), (0xC1, [wgtHDMIIn1v3, wgtHDMIIn1v4]),
   (0xC2, [wgtHDMIIn1v3, wgtHDMIIn1v4]), (0xC3, [wgtHDMIIn1v3, wgtHDMIIn1v4]),
   (0xC4, [wgt4KDownConverter]), (0xCD, [wgtDualLinkV2In5]), (0xCE, [wgtDualLinkV2In6]),
   (0xCF, [wgtDualLinkV2In7]), (0xD0, [wgtDualLinkV2In8]), (0xD1, [wgtFrameBuffer5]),
   (0xD2, [wgtFrameBuffer6]), (0xD3, [wgtFrameBuffer7]), (0xD4, [wgtFrameBuffer8]),
   (0xD9, [wgtCSC6]), (0xDB, [wgtCSC7]), (0xDD, [wgtCSC8]), (0xDF, [wgtLUT6]), (0xE0, [wgtLUT7]),
   (0xE1, [wgtLUT8]), (0xE8, [wgt425Mux1]), (0xE9, [wgt425Mux1]), (0xEA, [wgt425Mux2]),
   (0xEB, [wgt425Mux2]), (0xEC, [wgt425Mux3]), (0xED, [wgt425Mux3]), (0xEE, [wgt425Mux4]),
   (0xEF, [wgt425Mux4]), (0xF0, [wgtFrameBuffer1]), (0xF1, [wgtFrameBuffer2]),
   (0xF2, [wgtFrameBuffer3]), (0xF3, [wgtFrameBuffer4]), (0xF4, [wgtFrameBuffer5]),
   (0xF5, [wgtFrameBuffer6]), (0xF6, [wgtFrameBuffer7]), (0xF7, [wgtFrameBuffer8]),
   (0xF8, [wgtHDMIIn2v4]), (0xF9, [wgtHDMIIn2v4]), (0xFA, [wgtHDMIIn2v4]), (0xFB, [wgtHDMIIn2v4]),
   (0xFC, [wgtHDMIIn3v4]), (0xFD, [wgtHDMIIn4v4])]

/-- `GetWidgetInputs`: the inputs of a widget, none for a widget without a row. -/
def getWidgetInputs (inWidgetID : NTV2WidgetID) : List NTV2InputXptID :=
  (gWidget2InputXpts.lookup inWidgetID).getD []

/-- `GetWidgetsForOutput`: the widgets of an output, in the order of their numbers. -/
def getWidgetsForOutput (inOutputXpt : NTV2OutputXptID) : List NTV2WidgetID :=
  (gOutputXpt2WidgetIDs.lookup inOutputXpt).getD []

/-- `GetWidgetForOutput` without a device: the first widget of an output. -/
def getWidgetForOutput (inOutputXpt : NTV2OutputXptID) : Option NTV2WidgetID :=
  (getWidgetsForOutput inOutputXpt).head?

/-! ### The rows -/

lemma shared_outputs : ∀ row ∈ gOutputXpt2WidgetIDs,
    row.2.length = 1 ∨ ∀ w ∈ row.2, getWidgetInputs w = [] := by
  decide +kernel

/-- **The first widget of an output stands for all of them**: any other one has no inputs. -/
lemma getWidgetForOutput_eq {w : NTV2WidgetID} {o : NTV2OutputXptID} {i : NTV2InputXptID}
    (hw : w ∈ getWidgetsForOutput o) (hi : i ∈ getWidgetInputs w) :
    getWidgetForOutput o = some w := by
  rw [getWidgetForOutput]
  rw [getWidgetsForOutput] at hw ⊢
  cases hrow : gOutputXpt2WidgetIDs.lookup o with
  | none =>
      rw [hrow] at hw
      cases hw
  | some widgets =>
      rw [hrow, Option.getD_some] at hw
      rw [Option.getD_some]
      have hmem : (o, widgets) ∈ gOutputXpt2WidgetIDs := by
        obtain ⟨l₁, l₂, heq, -⟩ := List.lookup_eq_some_iff.mp hrow
        rw [heq]
        exact List.mem_append_right _ (List.mem_cons_self ..)
      rcases shared_outputs _ hmem with hone | hnone
      · obtain ⟨w', hw'⟩ := List.length_eq_one_iff.mp hone
        dsimp only at hw'
        rw [hw'] at hw ⊢
        rw [List.mem_singleton.mp hw]
        rfl
      · rw [hnone w hw] at hi
        cases hi

lemma mem_of_getWidgetForOutput {w : NTV2WidgetID} {o : NTV2OutputXptID}
    (h : getWidgetForOutput o = some w) : w ∈ getWidgetsForOutput o :=
  List.mem_of_head? h

/-- There are finitely many inputs. -/
instance : Finite NTV2InputXptID := by
  refine Finite.of_injective (fun i => (⟨i.ctorIdx, ?_⟩ : Fin 133)) ?_
  · cases i <;> decide
  · intro i j h
    have hidx : i.ctorIdx = j.ctorIdx := congrArg Fin.val h
    rw [← NTV2InputXptID.ofNat_ctorIdx i, hidx, NTV2InputXptID.ofNat_ctorIdx]

end LibAjaNtv2
