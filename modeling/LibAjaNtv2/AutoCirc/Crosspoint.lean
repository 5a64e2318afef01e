import Mathlib.Tactic

/-!
Crosspoints and channels (`ntv2enums.h`, `driver/ntv2kona.c`): the logical
channels an AutoCirculate request may name, the order in which a gang walks
them, and the frame registers that belong to them.

* `NTV2Crosspoint`, `NTV2Channel`: the enumerations;
* `illegalChannelSpec`: the macro `ILLEGAL_CHANNELSPEC`;
* `getIndexForNTV2Crosspoint`, `getNTV2CrosspointForIndex`: the gang order, with
  the `default` branches of the two `switch` statements;
* `gChannelToOutputFrameReg`, `gChannelToInputFrameReg`: the register tables.
-/

namespace LibAjaNtv2

/-- The crosspoints of `ntv2enums.h`.  A request may carry any integer: those
beyond `NTV2CROSSPOINT_INPUT8` are `invalid`. -/
inductive NTV2Crosspoint where
  | channel1 | channel2 | input1 | input2 | matte | fgkey
  | channel3 | channel4 | input3 | input4
  | channel5 | channel6 | channel7 | channel8
  | input5 | input6 | input7 | input8
  | invalid
  deriving DecidableEq, Repr

/-- The frame stores `NTV2_CHANNEL1` to `NTV2_CHANNEL8`. -/
inductive NTV2Channel where
  | channel1 | channel2 | channel3 | channel4
  | channel5 | channel6 | channel7 | channel8
  deriving DecidableEq, Repr

open NTV2Crosspoint in
/-- `NTV2_IS_INPUT_CROSSPOINT`. -/
def isInputCrosspoint : NTV2Crosspoint → Bool
  | input1 | input2 | input3 | input4 | input5 | input6 | input7 | input8 => true
  | _ => false

open NTV2Crosspoint in
/-- `ILLEGAL_CHANNELSPEC`. -/
def illegalChannelSpec : NTV2Crosspoint → Bool
  | matte | fgkey | invalid => true
  | _ => false

open NTV2Crosspoint in
/-- The place of a crosspoint in the gang order. -/
def getIndexForNTV2Crosspoint : NTV2Crosspoint → ℕ
  | channel1 => 0 | channel2 => 1 | channel3 => 2 | channel4 => 3
  | input1 => 4 | input2 => 5 | input3 => 6 | input4 => 7
  | channel5 => 8 | channel6 => 9 | channel7 => 10 | channel8 => 11
  | input5 => 12 | input6 => 13 | input7 => 14 | input8 => 15
  | _ => 0

open NTV2Crosspoint in
/-- The crosspoint at a place of the gang order; past the end it is `channel1`. -/
def getNTV2CrosspointForIndex : ℕ → NTV2Crosspoint
  | 0 => channel1 | 1 => channel2 | 2 => channel3 | 3 => channel4
  | 4 => input1 | 5 => input2 | 6 => input3 | 7 => input4
  | 8 => channel5 | 9 => channel6 | 10 => channel7 | 11 => channel8
  | 12 => input5 | 13 => input6 | 14 => input7 | 15 => input8
  | _ => channel1

open NTV2Crosspoint in
/-- The frame store behind a crosspoint. -/
def getNTV2ChannelForNTV2Crosspoint : NTV2Crosspoint → NTV2Channel
  | channel2 | input2 => .channel2
  | channel3 | input3 => .channel3
  | channel4 | input4 => .channel4
  | channel5 | input5 => .channel5
  | channel6 | input6 => .channel6
  | channel7 | input7 => .channel7
  | channel8 | input8 => .channel8
  | _ => .channel1

/-- The registers `kRegCh1OutputFrame` to `kRegCh8OutputFrame`. -/
def gChannelToOutputFrameReg : NTV2Channel → ℕ
  | .channel1 => 3 | .channel2 => 7 | .channel3 => 258 | .channel4 => 261
  | .channel5 => 385 | .channel6 => 389 | .channel7 => 393 | .channel8 => 397

/-- The registers `kRegCh1InputFrame` to `kRegCh8InputFrame`. -/
def gChannelToInputFrameReg : NTV2Channel → ℕ
  | .channel1 => 4 | .channel2 => 8 | .channel3 => 259 | .channel4 => 262
  | .channel5 => 386 | .channel6 => 390 | .channel7 => 394 | .channel8 => 398

/-- The frame register a circulator on `spec` drives. -/
def frameRegisterOf (spec : NTV2Crosspoint) : ℕ :=
  if isInputCrosspoint spec then
    gChannelToInputFrameReg (getNTV2ChannelForNTV2Crosspoint spec)
  else
    gChannelToOutputFrameReg (getNTV2ChannelForNTV2Crosspoint spec)

/-! ### The gang order -/

/-- Every place of the gang order holds a legal crosspoint, also past the end. -/
lemma illegalChannelSpec_crosspointForIndex (i : ℕ) :
    illegalChannelSpec (getNTV2CrosspointForIndex i) = false := by
  unfold getNTV2CrosspointForIndex
  split <;> rfl

lemma crosspointForIndex_index {spec : NTV2Crosspoint}
    (h : illegalChannelSpec spec = false) :
    getNTV2CrosspointForIndex (getIndexForNTV2Crosspoint spec) = spec := by
  cases spec <;> first | rfl | exact absurd h (by decide)

end LibAjaNtv2
