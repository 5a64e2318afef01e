import Mathlib.Tactic
import LibAjaNtv2.Lib.Word
import LibAjaNtv2.Timecode.TimeBase

/-!
Frame counts and hours, minutes, seconds and frames.

* `Hmsf`: the four digits of a timecode;
* `nonDropHmsf`, `dropHmsf`: the digits of a frame count, every frame number in use or the
  first numbers of nine minutes in ten dropped;
* `AJATimeCode.CalcHmsf`: the digits and the remainder of a frame count;
* `AJATimeCode.CalcFrame`: the frame count of the digits.

Unsigned arithmetic wraps at 32 bits.
-/

namespace LibAjaNtv2

/-- The digits of a timecode. -/
@[ext]
structure Hmsf where
  h : ℕ
  m : ℕ
  s : ℕ
  f : ℕ
  deriving DecidableEq, Repr

/-- The digits of a frame count with every frame number in use. -/
def nonDropHmsf (framesPerSec frame : ℕ) : Hmsf :=
  let framesPerMin := toUInt32 (framesPerSec * 60)
  let framesPerHr := toUInt32 (framesPerMin * 60)
  let framesPerDay := toUInt32 (framesPerHr * 24)
  -- no more than 24 hours worth of frames
  let frame := frame % framesPerDay
  let h := frame / framesPerHr
  let frame := frame % framesPerHr
  let m := frame / framesPerMin
  let frame := frame % framesPerMin
  { h := h, m := m, s := frame / framesPerSec, f := frame % framesPerSec }

/-- The units of minutes inside a block of ten, the first one regular, and the frames left. -/
def dropMinutes (framesPerMin dropframesPerMin frame : ℕ) : ℕ × ℕ :=
  if framesPerMin ≤ frame then
    (1 + (frame - framesPerMin) / dropframesPerMin, (frame - framesPerMin) % dropframesPerMin)
  else (0, frame)

/-- The seconds of minute `m` and the frames left: a drop minute starts with a drop second. -/
def dropSeconds (framesPerSec dropFramesPerSec m frame : ℕ) : ℕ × ℕ :=
  if m % 10 = 0 then (frame / framesPerSec, frame % framesPerSec)
  else if dropFramesPerSec ≤ frame then
    (1 + (frame - dropFramesPerSec) / framesPerSec, (frame - dropFramesPerSec) % framesPerSec)
  else (0, frame)

/-- The digits of a frame count with the first `droppedFrames` numbers dropped in every minute
that is not a tenth one. -/
def dropHmsf (framesPerSec droppedFrames frame : ℕ) : Hmsf :=
  let framesPerMin := toUInt32 (framesPerSec * 60)
  let dropFramesPerSec := toUInt32 ((framesPerSec : Int) - droppedFrames)
  let dropframesPerMin := toUInt32 (59 * framesPerSec + dropFramesPerSec)
  let dropframesPerTenMin := toUInt32 (9 * dropframesPerMin + framesPerMin)
  let dropframesPerHr := toUInt32 (dropframesPerTenMin * 6)
  let dropframesPerDay := toUInt32 (dropframesPerHr * 24)
  let frame := frame % dropframesPerDay
  let h := frame / dropframesPerHr
  let frame := frame % dropframesPerHr
  let units := dropMinutes framesPerMin dropframesPerMin (frame % dropframesPerTenMin)
  let m := 10 * (frame / dropframesPerTenMin) + units.1
  let rest := dropSeconds framesPerSec dropFramesPerSec m units.2
  let s := rest.1
  -- a drop second numbers its frames from `droppedFrames` on
  let f := if s = 0 ∧ m % 10 ≠ 0 then rest.2 + droppedFrames else rest.2
  { h := h, m := m, s := s, f := f }

/-- The count of the digits with every frame number in use. -/
def nonDropCount (tb h m s f : ℕ) : ℕ :=
  let hourFrames := toUInt32 (tb * 60 * 60)
  let minuteFrames := toUInt32 (tb * 60)
  toUInt32 (hourFrames * h + minuteFrames * m + tb * s + f)

/-- The count of the digits with dropped frame numbers. -/
def dropCount (tb dropFrames h m s f : ℕ) : ℕ :=
  let hourFrames := toUInt32 (tb * 60 * 60)
  let minuteFrames := toUInt32 (tb * 60)
  let totalMinutes := toUInt32 (60 * h + m)
  -- "if TC does not exist then we need to round up to the next valid frame": `f & ~1` is zero
  let f := if s = 0 ∧ m % 10 > 0 ∧ f - f % 2 = 0 then 2 else f
  toUInt32 ((hourFrames * h + minuteFrames * m + tb * s + f : Int) -
    dropFrames * (totalMinutes - totalMinutes / 10))

/-- A quotient rounded to the nearest integer. Beyond `uint32_t`, where the language leaves it open,
the low bits are taken. -/
def AJATimeCodeRound (f : ℚ) : ℕ := toUInt32 (Double.truncate (Double.add f (1 / 2)))

/-- The number of frames that a standard timecode counts as one at this rate. -/
def hfrDivisor (ajaFrameRate : AJA_FrameRate) (bStdTcForHfr : Bool) : ℕ :=
  if .AJA_FrameRate_10000 ≤ ajaFrameRate ∧ bStdTcForHfr = true then 4
  else if .AJA_FrameRate_4795 ≤ ajaFrameRate ∧ bStdTcForHfr = true then 2
  else 1

/-- The rounded rate. -/
def roundedRate (frameRate frameDuration : Int) : ℕ :=
  AJATimeCodeRound (Double.div (Double.ofInt frameRate) (Double.ofInt frameDuration))

/-- The number of dropped frames: 6% of the rate, rounded. -/
def droppedFrames (frameRate frameDuration : Int) : ℕ :=
  AJATimeCodeRound (Double.mul (Double.div (Double.ofInt frameRate) (Double.ofInt frameDuration))
    (Double.round (66666 / 1000000)))

namespace AJATimeCode

/-- The digits of a frame count, and the remainder that a standard timecode leaves. -/
def CalcHmsf (frame : ℕ) (timeBase : AJATimeBase) (bDropFrame bStdTcForHfr : Bool) : Hmsf × ℕ :=
  let divisor := hfrDivisor timeBase.GetAJAFrameRate bStdTcForHfr
  let frameDuration := timeBase.mFrameDuration
  let remainder := frame % divisor
  let frame := frame / divisor
  let frameRate := timeBase.mFrameTimeScale.tdiv divisor
  let hmsf : Hmsf :=
    if frameRate = 0 ∨ frameDuration = 0 ∨ frameRate < frameDuration then ⟨0, 0, 0, 0⟩
    else if bDropFrame = false then nonDropHmsf (roundedRate frameRate frameDuration) frame
    else dropHmsf (roundedRate frameRate frameDuration) (droppedFrames frameRate frameDuration)
      frame
  (hmsf, remainder)

/-- The frame count of the digits. -/
def CalcFrame (h m s f : ℕ) (timeBase : AJATimeBase) (bDropFrame bStdTcForHfr : Bool)
    (addFrame : ℕ) : ℕ :=
  let divisor := hfrDivisor timeBase.GetAJAFrameRate bStdTcForHfr
  let frameRate := timeBase.mFrameTimeScale
  let frameDuration := timeBase.mFrameDuration
  let frameRate2 := frameRate.tdiv divisor
  let frame :=
    if frameRate = 0 ∨ frameDuration = 0 then 0
    else if bDropFrame = true then
      dropCount (roundedRate frameRate2 frameDuration) (droppedFrames frameRate2 frameDuration)
        h m s f
    else nonDropCount (roundedRate frameRate2 frameDuration) h m s f
  let frame := toUInt32 (frame * divisor)
  toUInt32 (frame + if bStdTcForHfr = true then (addFrame : Int) else 0)

end AJATimeCode

end LibAjaNtv2
