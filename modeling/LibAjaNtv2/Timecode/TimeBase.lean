import Mathlib.Tactic
import LibAjaNtv2.Lib.Double

/-!
The time base of a timecode: a frame rate as a time scale over a frame duration.

* `AJA_FrameRate`: the named rates, in the order of the enumeration;
* `AJAFrameRateTable`: the scale and the duration of each;
* `AJATimeBase`: the pair the timecode functions read;
* `AJATimeBase.GetAJAFrameRate`: the named rate a time base is close to;
* `GetAJAFrameRate_ofRate`: a rate's own time base is close to that rate alone.

Quotients are rounded to doubles.
-/

namespace LibAjaNtv2

/-- The named frame rates. -/
inductive AJA_FrameRate where
  | AJA_FrameRate_Unknown
  | AJA_FrameRate_1498
  | AJA_FrameRate_1500
  | AJA_FrameRate_1798
  | AJA_FrameRate_1800
  | AJA_FrameRate_1898
  | AJA_FrameRate_1900
  | AJA_FrameRate_2398
  | AJA_FrameRate_2400
  | AJA_FrameRate_2500
  | AJA_FrameRate_2997
  | AJA_FrameRate_3000
  | AJA_FrameRate_4795
  | AJA_FrameRate_4800
  | AJA_FrameRate_5000
  | AJA_FrameRate_5994
  | AJA_FrameRate_6000
  | AJA_FrameRate_10000
  | AJA_FrameRate_11988
  | AJA_FrameRate_12000
  deriving DecidableEq, Repr

open AJA_FrameRate

/-- The rates are compared by their place in the enumeration. -/
instance : LE AJA_FrameRate := ⟨fun a b => a.ctorIdx ≤ b.ctorIdx⟩

instance (a b : AJA_FrameRate) : Decidable (a ≤ b) :=
  inferInstanceAs (Decidable (a.ctorIdx ≤ b.ctorIdx))

/-- A row of the table of rates. -/
structure AJAFrameRateEntry where
  ajaFrameRate : AJA_FrameRate
  frameTimeScale : Int
  frameDuration : Int

/-- The supported rates. -/
def AJAFrameRateTable : List AJAFrameRateEntry :=
  [⟨AJA_FrameRate_1498, 15000, 1001⟩,
   ⟨AJA_FrameRate_1500, 15000, 1000⟩,
   ⟨AJA_FrameRate_1798, 18000, 1001⟩,
   ⟨AJA_FrameRate_1800, 18000, 1000⟩,
   ⟨AJA_FrameRate_1898, 19000, 1001⟩,
   ⟨AJA_FrameRate_1900, 19000, 1000⟩,
   ⟨AJA_FrameRate_2398, 24000, 1001⟩,
   ⟨AJA_FrameRate_2400, 24000, 1000⟩,
   ⟨AJA_FrameRate_2500, 25000, 1000⟩,
   ⟨AJA_FrameRate_2997, 30000, 1001⟩,
   ⟨AJA_FrameRate_3000, 30000, 1000⟩,
   ⟨AJA_FrameRate_4795, 48000, 1001⟩,
   ⟨AJA_FrameRate_4800, 48000, 1000⟩,
   ⟨AJA_FrameRate_5000, 50000, 1000⟩,
   ⟨AJA_FrameRate_5994, 60000, 1001⟩,
   ⟨AJA_FrameRate_6000, 60000, 1000⟩,
   ⟨AJA_FrameRate_10000, 100000, 1000⟩,
   ⟨AJA_FrameRate_11988, 120000, 1001⟩,
   ⟨AJA_FrameRate_12000, 120000, 1000⟩]

/-- A frame rate as a scale over a duration. -/
structure AJATimeBase where
  mFrameTimeScale : Int
  mFrameDuration : Int

namespace AJATimeBase

/-- The default scale and duration. -/
def SetToDefault : AJATimeBase := ⟨30000, 1001⟩

/-- The time base of a named rate: its row of the table, the default for a rate without one. -/
def ofRate (ajaFrameRate : AJA_FrameRate) : AJATimeBase :=
  match AJAFrameRateTable.find? (fun e => e.ajaFrameRate = ajaFrameRate) with
  | some e => ⟨e.frameTimeScale, e.frameDuration⟩
  | none => SetToDefault

/-- The seconds that a number of frames takes. -/
def FramesToSeconds (t : AJATimeBase) (frames : Int) : ℚ :=
  Double.div (Double.mul (Double.ofInt frames) (Double.ofInt t.mFrameDuration))
    (Double.ofInt t.mFrameTimeScale)

/-- Closeness of two time bases: one part in ten thousand. With a scale of zero no time base is
close to another: the quotient is zero here, infinite or no number in the source. -/
def IsCloseTo (t timeBase : AJATimeBase) : Bool :=
  let rate1 := t.FramesToSeconds 1
  let rate2 := timeBase.FramesToSeconds 1
  let dif := Double.div rate1 rate2
  decide (Double.round (9999 / 10000) ≤ dif ∧ dif ≤ Double.round (10001 / 10000))

/-- The first rate of the table the time base is close to. -/
def GetAJAFrameRate (t : AJATimeBase) : AJA_FrameRate :=
  match AJAFrameRateTable.find? (fun e => t.IsCloseTo ⟨e.frameTimeScale, e.frameDuration⟩) with
  | some e => e.ajaFrameRate
  | none => AJA_FrameRate_Unknown

end AJATimeBase

/-- A rate is supported if the table lists it. -/
def AJA_FrameRate.Supported (r : AJA_FrameRate) : Prop := r ≠ AJA_FrameRate_Unknown

instance (r : AJA_FrameRate) : Decidable r.Supported := inferInstanceAs (Decidable (_ ≠ _))

/-- The time base of a supported rate is close to that rate and to no earlier one. -/
lemma GetAJAFrameRate_ofRate {r : AJA_FrameRate} (h : r.Supported) :
    (AJATimeBase.ofRate r).GetAJAFrameRate = r := by
  cases r with
  | AJA_FrameRate_Unknown => exact absurd rfl h
  | _ => decide +kernel

end LibAjaNtv2
