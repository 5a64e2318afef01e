import LibAjaNtv2.Lib.Worklist
import LibAjaNtv2.Router.Compare
import LibAjaNtv2.Router.Widgets

/-!
Tracing the routing of a channel (`ntv2regroute.cpp`).

* `NTV2Device`: the routing registers and the widgets of a device;
* `CNTV2Card.getConnectedOutput`, `getRoutingForChannel`: the code, the latter for some rounds of its
  loop;
* `ConnectedTo`, `Behind`: the connections of a device, and the inputs of the widgets behind them;
* `traceLoop_eq`: the loop is a worklist that remembers nothing;
* `routing_traced_iff`: **the trace ends, with what is reached, exactly when no feedback loop is
  reached**.
-/

namespace LibAjaNtv2

open NTV2InputXptID Relation

/-! ### The trace -/

/-- What the trace reads of a device. -/
structure NTV2Device where
  maxRegNum : ℕ
  widgets : List NTV2WidgetID
  regs : NTV2Registers

/-- `CNTV2Card::GetConnectedOutput`, `none` where it fails. -/
def CNTV2Card.getConnectedOutput (d : NTV2Device) (inInputXpt : NTV2InputXptID) :
    Option NTV2OutputXptID :=
  match getXptRegNumAndMaskIndex inInputXpt with
  | none => none
  | some (regNum, ndx) =>
      if regNum = 0 then none
      else if 3 < ndx then none
      else if d.maxRegNum < regNum then none
      else some ((d.regs regNum &&& sSignalRouterRegMasks ndx) >>> sSignalRouterRegShifts ndx)

/-- `SDIOutInputs`. -/
def sdiOutInputs : List NTV2InputXptID :=
  [xptSDIOut1Input, xptSDIOut2Input, xptSDIOut3Input, xptSDIOut4Input,
   xptSDIOut5Input, xptSDIOut6Input, xptSDIOut7Input, xptSDIOut8Input]

/-- The loop over the queued inputs, `none` when the rounds do not suffice. -/
def traceLoop (d : NTV2Device) :
    ℕ → List NTV2InputXptID → NTV2XptConnections → Option NTV2XptConnections
  | _, [], outRouting => some outRouting
  | 0, _ :: _, _ => none
  | rounds + 1, inputXpt :: inputXptQueue, outRouting =>
      if inputXpt = inputCrosspointInvalid then traceLoop d rounds inputXptQueue outRouting
      else
        match CNTV2Card.getConnectedOutput d inputXpt with
        | none => traceLoop d rounds inputXptQueue outRouting
        | some outputXpt =>
            if outputXpt ≠ xptBlack then
              match getWidgetForOutput outputXpt with
              | none =>
                  traceLoop d rounds inputXptQueue (addConnection outRouting inputXpt outputXpt)
              | some widgetID =>
                  if widgetID ∉ d.widgets then
                    traceLoop d rounds inputXptQueue (addConnection outRouting inputXpt outputXpt)
                  else
                    traceLoop d rounds (inputXptQueue ++ getWidgetInputs widgetID)
                      (addConnection outRouting inputXpt outputXpt)
            else traceLoop d rounds inputXptQueue outRouting

/-- `CNTV2Card::GetRoutingForChannel`, with so many rounds for its loop; channels count from
zero. -/
def getRoutingForChannel (d : NTV2Device) (inChannel rounds : ℕ) :
    Option (Bool × NTV2XptConnections) :=
  match sdiOutInputs[inChannel]? with
  | none => some (false, .empty)
  | some sdiOutInput => (traceLoop d rounds [sdiOutInput] .empty).map fun r => (true, r)

/-! ### What it is for -/

/-- The input is connected to the output, which is not black. -/
def ConnectedTo (d : NTV2Device) (i : NTV2InputXptID) (o : NTV2OutputXptID) : Prop :=
  CNTV2Card.getConnectedOutput d i = some o ∧ o ≠ xptBlack

/-- The input `j` is one of a widget of the device that has the output to which `i` is
connected. -/
def Behind (d : NTV2Device) (i j : NTV2InputXptID) : Prop :=
  ∃ o w, ConnectedTo d i o ∧ w ∈ getWidgetsForOutput o ∧ w ∈ d.widgets ∧ j ∈ getWidgetInputs w

/-- The trace from an input ends, with the connections of the inputs that are reached from it. -/
def Traced (d : NTV2Device) (inChannel : ℕ) (start : NTV2InputXptID) : Prop :=
  ∃ rounds outRouting, getRoutingForChannel d inChannel rounds = some (true, outRouting) ∧
    ∀ i o, outRouting.find i = some o ↔ ReflTransGen (Behind d) start i ∧ ConnectedTo d i o

/-- Some input that is reached is behind itself. -/
def FeedbackLoop (d : NTV2Device) (start : NTV2InputXptID) : Prop :=
  ∃ i, ReflTransGen (Behind d) start i ∧ TransGen (Behind d) i i

/-! ### The loop is a worklist -/

/-- The inputs that an input puts in the queue. -/
def inputsBehind (d : NTV2Device) (i : NTV2InputXptID) : List NTV2InputXptID :=
  if i = inputCrosspointInvalid then []
  else
    match CNTV2Card.getConnectedOutput d i with
    | none => []
    | some o =>
        if o ≠ xptBlack then
          match getWidgetForOutput o with
          | none => []
          | some w => if w ∉ d.widgets then [] else getWidgetInputs w
        else []

/-- The connection that an input adds to the routing. -/
def tracedConnection (d : NTV2Device) (i : NTV2InputXptID) : Option NTV2OutputXptID :=
  if i = inputCrosspointInvalid then none
  else
    match CNTV2Card.getConnectedOutput d i with
    | none => none
    | some o => if o ≠ xptBlack then some o else none

/-- The routing after some inputs. -/
def tracedRouting (d : NTV2Device) (inputs : List NTV2InputXptID) (c : NTV2XptConnections) :
    NTV2XptConnections :=
  inputs.foldl (fun c i => c.insertOption i (tracedConnection d i)) c

/-- One round of the loop. -/
lemma traceLoop_succ (d : NTV2Device) (rounds : ℕ) (i : NTV2InputXptID)
    (queue : List NTV2InputXptID) (c : NTV2XptConnections) :
    traceLoop d (rounds + 1) (i :: queue) c =
      traceLoop d rounds (queue ++ inputsBehind d i) (c.insertOption i (tracedConnection d i)) := by
  rw [traceLoop, inputsBehind, tracedConnection]
  by_cases hi : i = inputCrosspointInvalid
  · simp [hi, NTV2XptConnections.insertOption]
  · cases ho : CNTV2Card.getConnectedOutput d i with
    | none => simp [hi, NTV2XptConnections.insertOption]
    | some o =>
        by_cases hblack : o = xptBlack
        · simp [hi, hblack, NTV2XptConnections.insertOption]
        · cases hw : getWidgetForOutput o with
          | none => simp [hi, hblack, hw, NTV2XptConnections.insertOption, addConnection]
          | some w =>
              by_cases hpresent : w ∈ d.widgets
              · simp [hi, hblack, hw, hpresent, NTV2XptConnections.insertOption, addConnection]
              · simp [hi, hblack, hw, hpresent, NTV2XptConnections.insertOption, addConnection]

/-- **The loop is a worklist**: it ends when that is empty, with the connections of what it has
taken. -/
lemma traceLoop_eq (d : NTV2Device) (rounds : ℕ) (queue : List NTV2InputXptID)
    (c : NTV2XptConnections) :
    traceLoop d rounds queue c =
      if (worklist (inputsBehind d))^[rounds] queue = [] then
        some (tracedRouting d (visited (inputsBehind d) rounds queue) c)
      else none := by
  induction rounds generalizing queue c with
  | zero =>
      cases queue with
      | nil => rfl
      | cons i queue => rfl
  | succ rounds ih =>
      cases queue with
      | nil =>
          have hnil : (worklist (inputsBehind d))^[rounds + 1] [] = [] :=
            Function.iterate_fixed rfl (rounds + 1)
          rw [if_pos hnil]
          rfl
      | cons i queue =>
          rw [traceLoop_succ, ih, Function.iterate_succ_apply]
          rfl

/-! ### What it reaches -/

lemma getConnectedOutput_invalid (d : NTV2Device) :
    CNTV2Card.getConnectedOutput d inputCrosspointInvalid = none := by
  have hnone : getXptRegNumAndMaskIndex inputCrosspointInvalid = none := by decide +kernel
  rw [CNTV2Card.getConnectedOutput, hnone]

/-- The connection that is added is the connection. -/
lemma tracedConnection_iff (d : NTV2Device) (i : NTV2InputXptID) (o : NTV2OutputXptID) :
    tracedConnection d i = some o ↔ ConnectedTo d i o := by
  rw [tracedConnection, ConnectedTo]
  by_cases hi : i = inputCrosspointInvalid
  · rw [if_pos hi, hi, getConnectedOutput_invalid]
    simp
  · rw [if_neg hi]
    cases ho : CNTV2Card.getConnectedOutput d i with
    | none => simp
    | some o' =>
        by_cases hblack : o' = xptBlack
        · simpa [hblack] using Eq.symm
        · simpa [hblack] using fun h : o' = o => h ▸ hblack

/-- What is put in the queue is what is behind the input: the first widget of an output stands for
all of them. -/
lemma mem_inputsBehind (d : NTV2Device) (i j : NTV2InputXptID) :
    j ∈ inputsBehind d i ↔ Behind d i j := by
  constructor
  · intro h
    rw [inputsBehind] at h
    by_cases hi : i = inputCrosspointInvalid
    · simp [hi] at h
    · rw [if_neg hi] at h
      cases ho : CNTV2Card.getConnectedOutput d i with
      | none => simp [ho] at h
      | some o =>
          rw [ho] at h
          by_cases hblack : o = xptBlack
          · simp [hblack] at h
          · cases hw : getWidgetForOutput o with
            | none => simp [hblack, hw] at h
            | some w =>
                by_cases hpresent : w ∈ d.widgets
                · refine ⟨o, w, ⟨ho, hblack⟩, mem_of_getWidgetForOutput hw, hpresent, ?_⟩
                  simpa [hblack, hw, hpresent] using h
                · simp [hblack, hw, hpresent] at h
  · rintro ⟨o, w, ⟨ho, hblack⟩, hw, hpresent, hj⟩
    have hi : i ≠ inputCrosspointInvalid := by
      rintro rfl
      rw [getConnectedOutput_invalid] at ho
      cases ho
    rw [inputsBehind, if_neg hi, ho]
    simpa [hblack, getWidgetForOutput_eq hw hj, hpresent] using hj

lemma follows_inputsBehind (d : NTV2Device) : Follows (inputsBehind d) = Behind d := by
  ext i j
  exact mem_inputsBehind d i j

/-- The routing after some inputs has their connections. -/
lemma find_tracedRouting (d : NTV2Device) (inputs : List NTV2InputXptID) (c : NTV2XptConnections)
    (j : NTV2InputXptID) :
    (tracedRouting d inputs c).find j =
      (c.find j).or (if j ∈ inputs then tracedConnection d j else none) := by
  rw [tracedRouting]
  induction inputs generalizing c with
  | nil => simp
  | cons i inputs ih =>
      rw [List.foldl_cons, ih, NTV2XptConnections.find_insertOption, Option.or_assoc]
      congr 1
      by_cases hj : j = i
      · subst hj
        cases h : tracedConnection d j with
        | none => simp
        | some o => simp
      · simp [hj]

/-- The trace of a channel ends when the worklist does. -/
lemma traced_iff_ends (d : NTV2Device) {inChannel : ℕ} {start : NTV2InputXptID}
    (hchannel : sdiOutInputs[inChannel]? = some start) :
    Traced d inChannel start ↔ ∃ rounds, (worklist (inputsBehind d))^[rounds] [start] = [] := by
  have hrouting : ∀ rounds, getRoutingForChannel d inChannel rounds =
      (traceLoop d rounds [start] .empty).map fun r => (true, r) := by
    intro rounds
    rw [getRoutingForChannel, hchannel]
  constructor
  · rintro ⟨rounds, outRouting, hr, -⟩
    refine ⟨rounds, ?_⟩
    by_contra hmore
    rw [hrouting, traceLoop_eq, if_neg hmore] at hr
    cases hr
  · rintro ⟨rounds, hend⟩
    refine ⟨rounds, tracedRouting d (visited (inputsBehind d) rounds [start]) .empty, ?_,
      fun i o => ?_⟩
    · rw [hrouting, traceLoop_eq, if_pos hend, Option.map_some]
    · have hreach := @mem_visited_iff _ (inputsBehind d) rounds start i hend
      rw [Reaches, follows_inputsBehind] at hreach
      rw [find_tracedRouting, NTV2XptConnections.find_empty, Option.none_or, ← hreach,
        ← tracedConnection_iff]
      by_cases hi : i ∈ visited (inputsBehind d) rounds [start]
      · simp [hi]
      · simp [hi]

/-- No feedback loop is reached when the worklist reaches no cycle. -/
lemma acyclic_iff (d : NTV2Device) (start : NTV2InputXptID) :
    Acyclic (inputsBehind d) start ↔ ¬ FeedbackLoop d start := by
  rw [FeedbackLoop, Acyclic, Reaches, follows_inputsBehind]
  simp

/-- **The trace of a channel ends, with the connections that are reached, exactly when no feedback
loop is reached** from its SDI output. -/
theorem routing_traced_iff (d : NTV2Device) {inChannel : ℕ} {start : NTV2InputXptID}
    (hchannel : sdiOutInputs[inChannel]? = some start) :
    Traced d inChannel start ↔ ¬ FeedbackLoop d start := by
  rw [traced_iff_ends d hchannel, ends_iff_acyclic, acyclic_iff]

/-- The first SDI output shows the first color space converter; the registers say what the converter
and the first LUT take. -/
def convertedDevice (sources : BitVec 32) : NTV2Device where
  maxRegNum := 511
  widgets := [.wgtFrameBuffer1, .wgtCSC1, .wgtLUT1, .wgt3GSDIOut1]
  regs := fun regNum => if regNum = 138 then 0x00000500 else if regNum = 136 then sources else 0

/-- The converter converts the output of the LUT, which maps a frame buffer. -/
def routedDevice : NTV2Device := convertedDevice 0x00008488

/-- **Three connections**: the trace goes from the SDI output to the frame buffer. -/
theorem routing_traced_iff_routed : Traced routedDevice 0 xptSDIOut1Input ∧
    (getRoutingForChannel routedDevice 0 6).map (fun r => (r.1, r.2.entries)) =
      some (true,
        [(xptLUT1Input, 0x88), (xptCSC1VidInput, 0x84), (xptSDIOut1Input, 0x05)]) := by
  refine ⟨(routing_traced_iff routedDevice rfl).mpr ?_, by decide +kernel⟩
  rw [← acyclic_iff, ← ends_iff_acyclic]
  exact ⟨6, by decide +kernel⟩

/-- The converter converts the output of the LUT, which maps the output of the converter. -/
def feedbackDevice : NTV2Device := convertedDevice 0x00008485

/-- The trace of the first channel does not end. -/
theorem routing_not_traced : ¬ Traced feedbackDevice 0 xptSDIOut1Input := by
  rw [traced_iff_ends feedbackDevice rfl, ends_iff_acyclic, acyclic_iff, not_not]
  have hsdi : Behind feedbackDevice xptSDIOut1Input xptCSC1VidInput :=
    ⟨0x05, .wgtCSC1, ⟨by decide +kernel, by decide⟩, by decide, by decide, by decide⟩
  have hcsc : Behind feedbackDevice xptCSC1VidInput xptLUT1Input :=
    ⟨0x84, .wgtLUT1, ⟨by decide +kernel, by decide⟩, by decide, by decide, by decide⟩
  have hlut : Behind feedbackDevice xptLUT1Input xptCSC1VidInput :=
    ⟨0x85, .wgtCSC1, ⟨by decide +kernel, by decide⟩, by decide, by decide, by decide⟩
  exact ⟨xptCSC1VidInput, .single hsdi, .tail (.single hcsc) hlut⟩

end LibAjaNtv2
