import Mathlib
import LibAjaNtv2.Lib.BitField
import LibAjaNtv2.Timecode.Hmsf

/-!
The RP188 words of a timecode (`ntv2rp188.cpp`, and `QueryRP188` of `timecode.cpp`).

* `TimecodeFormat`, `CRP188`: the formats and the object;
* `CRP188.ConvertFrameCount`, `CRP188.ConvertTimecode`: the digits of a frame count, and the
  count of digits;
* `CRP188.SetRP188`, `CRP188.SetRP188_frames`: the object set from digits, or from a count;
* `CRP188.AddFrames`, `CRP188.SubtractFrames`: the object moved, the day wrapping around;
* `CRP188.ConvertTcStrToReg`: the words from the text of the digits;
* `AJATimeCode.QueryRP188`: the words of an `AJATimeCode`.
-/

namespace LibAjaNtv2

/-- The timecode formats. -/
inductive TimecodeFormat where
  | kTCFormatUnknown
  | kTCFormat24fps
  | kTCFormat25fps
  | kTCFormat30fps
  | kTCFormat30fpsDF
  | kTCFormat48fps
  | kTCFormat50fps
  | kTCFormat60fps
  | kTCFormat60fpsDF
  deriving DecidableEq, Repr

/-- The hardware frame rates. -/
inductive NTV2FrameRate where
  | NTV2_FRAMERATE_UNKNOWN
  | NTV2_FRAMERATE_6000
  | NTV2_FRAMERATE_5994
  | NTV2_FRAMERATE_3000
  | NTV2_FRAMERATE_2997
  | NTV2_FRAMERATE_2500
  | NTV2_FRAMERATE_2400
  | NTV2_FRAMERATE_2398
  | NTV2_FRAMERATE_5000
  | NTV2_FRAMERATE_4800
  | NTV2_FRAMERATE_4795
  | NTV2_FRAMERATE_12000
  | NTV2_FRAMERATE_11988
  | NTV2_FRAMERATE_1500
  | NTV2_FRAMERATE_1498
  deriving DecidableEq, Repr

/-- The timecode registers. -/
structure RP188_STRUCT where
  DBB : BitVec 32
  Low : BitVec 32
  High : BitVec 32
  deriving DecidableEq, Repr

/-- The timecode object. -/
structure CRP188 where
  tcFormat : TimecodeFormat
  bInitialized : Bool
  bFresh : Bool
  bVaricamActiveF0 : Bool
  bVaricamActiveF1 : Bool
  fieldID : ℕ
  bDropFrameFlag : Bool
  bColorFrameFlag : Bool
  sHMSF : List Char
  ulVal : Hmsf
  rp188 : RP188_STRUCT
  deriving DecidableEq, Repr

open TimecodeFormat NTV2FrameRate

namespace CRP188

/-! ### What a format says -/

/-- The given format, the object's own for an unknown one. -/
def formatOr (x : CRP188) (format : TimecodeFormat) : TimecodeFormat :=
  if format = kTCFormatUnknown then x.tcFormat else format

/-- The whole frames of a second. -/
def FramesPerSecond (x : CRP188) (format : TimecodeFormat) : ℕ :=
  match x.formatOr format with
  | kTCFormat24fps => 24
  | kTCFormat25fps => 25
  | kTCFormat30fps => 30
  | kTCFormat30fpsDF => 30
  | kTCFormat48fps => 48
  | kTCFormat50fps => 50
  | kTCFormat60fps => 60
  | kTCFormat60fpsDF => 60
  | kTCFormatUnknown => 30

/-- The drop frame formats. -/
def FormatIsDropFrame (x : CRP188) (format : TimecodeFormat) : Bool :=
  x.formatOr format = kTCFormat30fpsDF || x.formatOr format = kTCFormat60fpsDF

/-- The formats above 39 frames per second, which use the field ID bit as a half frame. -/
def FormatIs60_50fps (x : CRP188) (format : TimecodeFormat) : Bool :=
  x.formatOr format = kTCFormat60fps || x.formatOr format = kTCFormat60fpsDF ||
    x.formatOr format = kTCFormat48fps || x.formatOr format = kTCFormat50fps

/-- The formats with the flag bits of PAL. -/
def FormatIsPAL (x : CRP188) (format : TimecodeFormat) : Bool :=
  x.formatOr format = kTCFormat25fps || x.formatOr format = kTCFormat50fps

/-- A frame rate to go with a format. -/
def DefaultFrameRateForTimecodeFormat (x : CRP188) (format : TimecodeFormat) : NTV2FrameRate :=
  match x.formatOr format with
  | kTCFormat24fps => NTV2_FRAMERATE_2400
  | kTCFormat25fps => NTV2_FRAMERATE_2500
  | kTCFormat30fps => NTV2_FRAMERATE_3000
  | kTCFormat30fpsDF => NTV2_FRAMERATE_3000
  | kTCFormat48fps => NTV2_FRAMERATE_5000
  | kTCFormat50fps => NTV2_FRAMERATE_5000
  | kTCFormat60fps => NTV2_FRAMERATE_6000
  | kTCFormat60fpsDF => NTV2_FRAMERATE_6000
  | kTCFormatUnknown => NTV2_FRAMERATE_UNKNOWN

/-! ### Digits of a frame count -/

/-- The digits of a frame count in a format. The number of dropped frames is that of the
object's own format. -/
def ConvertFrameCount (x : CRP188) (frameCount : ℕ) (format : TimecodeFormat) : Hmsf :=
  if x.FormatIsDropFrame format = false then
    nonDropHmsf (x.FramesPerSecond format) frameCount
  else
    let droppedFrames := if x.tcFormat = kTCFormat60fpsDF then 4 else 2
    dropHmsf (x.FramesPerSecond format) droppedFrames frameCount

/-- The frame count of digits in a format. The number of dropped frames is that of the given
format, the minute of a drop second that of the object's own digits. -/
def ConvertTimecode (x : CRP188) (format : TimecodeFormat) (hours minutes seconds frames : ℕ) : ℕ :=
  if x.FormatIsDropFrame format = false then
    let mins := toInt32 (60 * hours + minutes)
    let secs := toInt32 (60 * mins + seconds)
    toUInt32 (x.FramesPerSecond format * secs + frames)
  else
    let framesPerSec := x.FramesPerSecond format
    let framesPerMin := toUInt32 (framesPerSec * 60)
    let droppedFrames : ℕ := if format = kTCFormat60fpsDF then 4 else 2
    let dropFramesPerSec := toUInt32 ((framesPerSec : Int) - droppedFrames)
    let dropframesPerMin := toUInt32 (59 * framesPerSec + dropFramesPerSec)
    let dropframesPerTenMin := toUInt32 (9 * dropframesPerMin + framesPerMin)
    let dropframesPerHr := toUInt32 (dropframesPerTenMin * 6)
    let tenMins := minutes / 10
    let mins := minutes % 10
    let secs := toInt32 seconds
    -- the first minute out of ten is always a non-drop one
    let minuteFrames : Int :=
      if 0 < mins then framesPerMin + ((mins : Int) - 1) * dropframesPerMin else 0
    let secondFrames : Int :=
      if 0 < secs then
        if x.ulVal.m % 10 ≠ 0 then dropFramesPerSec + (secs - 1) * framesPerSec
        else secs * framesPerSec
      else 0
    let frms : Int :=
      if seconds = 0 ∧ minutes % 10 ≠ 0 then
        if droppedFrames ≤ frames then (frames : Int) - droppedFrames else 0
      else frames
    toUInt32 (hours * dropframesPerHr + tenMins * dropframesPerTenMin + minuteFrames +
      secondFrames + frms)

/-- `GetFrameCount`: the frame count of the object. -/
def GetFrameCount (x : CRP188) : ℕ :=
  x.ConvertTimecode x.tcFormat x.ulVal.h x.ulVal.m x.ulVal.s x.ulVal.f

/-- The frames of 24 hours in a format. -/
def MaxFramesPerDay (x : CRP188) (format : TimecodeFormat) : ℕ :=
  let format := x.formatOr format
  let framesPerSec := x.FramesPerSecond format
  let framesPerMin := toUInt32 (framesPerSec * 60)
  if x.FormatIsDropFrame format = false then
    let framesPerHr := toUInt32 (framesPerMin * 60)
    toUInt32 (framesPerHr * 24)
  else
    let droppedFrames : ℕ := if x.tcFormat = kTCFormat60fpsDF then 4 else 2
    let dropframesPerMin := toUInt32 ((framesPerMin : Int) - droppedFrames)
    let dropframesPerTenMin := toUInt32 (9 * dropframesPerMin + framesPerMin)
    let dropframesPerHr := toUInt32 (dropframesPerTenMin * 6)
    toUInt32 (dropframesPerHr * 24)

/-! ### Bits of the registers -/

/-- Sets or clears a bit of the low word. -/
def setLow (x : CRP188) (k : ℕ) (b : Bool) : CRP188 :=
  { x with rp188 := { x.rp188 with Low := BitField.set x.rp188.Low k b } }

/-- Sets or clears a bit of the high word. -/
def setHigh (x : CRP188) (k : ℕ) (b : Bool) : CRP188 :=
  { x with rp188 := { x.rp188 with High := BitField.set x.rp188.High k b } }

/-- `SetDropFrame`: bit 10 of the low word. -/
def SetDropFrame (x : CRP188) (bDropFrameFlag : Bool) : CRP188 :=
  { x with bDropFrameFlag := bDropFrameFlag }.setLow 10 bDropFrameFlag

/-- `SetColorFrame`: bit 11 of the low word. -/
def SetColorFrame (x : CRP188) (bColorFrameFlag : Bool) : CRP188 :=
  { x with bColorFrameFlag := bColorFrameFlag }.setLow 11 bColorFrameFlag

/-- `SetVaricamFrameActive`: bit 5 of the low word for frame 0, bit 4 for the other. -/
def SetVaricamFrameActive (x : CRP188) (bVaricamActive : Bool) (frame : ℕ) : CRP188 :=
  if frame = 0 then { x with bVaricamActiveF0 := bVaricamActive }.setLow 5 bVaricamActive
  else { x with bVaricamActiveF1 := bVaricamActive }.setLow 4 bVaricamActive

/-- The two BCD digits of a Varicam rate. -/
def varicamRate : NTV2FrameRate → BitVec 32
  | NTV2_FRAMERATE_6000 => 0x60
  | NTV2_FRAMERATE_5994 => 0x60
  | NTV2_FRAMERATE_5000 => 0x50
  | NTV2_FRAMERATE_4800 => 0x48
  | NTV2_FRAMERATE_4795 => 0x48
  | NTV2_FRAMERATE_3000 => 0x30
  | NTV2_FRAMERATE_2997 => 0x30
  | NTV2_FRAMERATE_2500 => 0x25
  | NTV2_FRAMERATE_2400 => 0x24
  | NTV2_FRAMERATE_2398 => 0x24
  | NTV2_FRAMERATE_1500 => 0x15
  | NTV2_FRAMERATE_1498 => 0x15
  | _ => 0

/-- `SetVaricamRate`: binary groups 3 and 4. -/
def SetVaricamRate (x : CRP188) (frameRate : NTV2FrameRate) : CRP188 :=
  let rate := varicamRate frameRate
  { x with rp188 := { x.rp188 with
      Low := (x.rp188.Low &&& 0x0F0FFFFF#32) ||| ((rate &&& 0x0f#32) <<< 20) |||
        ((rate &&& 0xf0#32) <<< 24) } }

/-- `SetFieldID`: bit 27, of the high word for PAL and of the low word for NTSC. -/
def SetFieldID (x : CRP188) (fieldID : ℕ) : CRP188 :=
  let x := { x with fieldID := fieldID }
  if x.FormatIsPAL kTCFormatUnknown = true then x.setHigh 27 (fieldID != 0)
  else x.setLow 27 (fieldID != 0)

/-- `SetBFGBits`: the binary group flags. -/
def SetBFGBits (x : CRP188) (bBFG0 bBFG1 bBFG2 : Bool) : CRP188 :=
  let x := x.setHigh 26 bBFG1
  if x.FormatIsPAL kTCFormatUnknown = true then (x.setLow 27 bBFG0).setHigh 11 bBFG2
  else (x.setHigh 11 bBFG0).setHigh 27 bBFG2

/-! ### The words from the text -/

/-- A number printed with `%02d`. -/
def print02d (n : ℕ) : List Char :=
  let ds := Nat.toDigits 10 n
  if ds.length < 2 then '0' :: ds else ds

/-- The number that `sscanf` reads from one character of the text, a digit. -/
def scanDigit (text : List Char) (iOff : ℕ) : ℕ := (text.getD iOff '0').toNat - 48

/-- A number masked and put at its place: `(iSingle & mask) << shift`. -/
def place (iSingle mask shift : ℕ) : BitVec 32 := BitVec.ofNat 32 (iSingle &&& mask) <<< shift

/-- The frame digits of the low word: two digits of frames up to 39 per second, above that two
digits of frame pairs with the field ID bit for the half. -/
def frameDigits (x : CRP188) : CRP188 :=
  if x.FormatIs60_50fps kTCFormatUnknown = false then
    { x with rp188 := { x.rp188 with
        Low := x.rp188.Low ||| place (scanDigit x.sHMSF 9) 0x3 8 |||
          place (scanDigit x.sHMSF 10) 0xF 0 } }
  else
    let frameCount := 10 * scanDigit x.sHMSF 9 + scanDigit x.sHMSF 10
    let fps := x.FramesPerSecond kTCFormatUnknown
    let frameCount := if fps ≤ frameCount then fps - 1 else frameCount
    let x := x.SetFieldID (frameCount % 2)
    let frameCount := frameCount / 2
    { x with rp188 := { x.rp188 with
        Low := x.rp188.Low ||| place (frameCount / 10) 0x3 8 ||| place (frameCount % 10) 0xF 0 } }

/-- `ConvertTcStrToReg`: the words from the text. -/
def ConvertTcStrToReg (x : CRP188) : CRP188 :=
  let High := place (scanDigit x.sHMSF 0) 0x3 24 ||| place (scanDigit x.sHMSF 1) 0xF 16 |||
    place (scanDigit x.sHMSF 3) 0x7 8 ||| place (scanDigit x.sHMSF 4) 0xF 0
  let Low := place (scanDigit x.sHMSF 6) 0x7 24 ||| place (scanDigit x.sHMSF 7) 0xF 16
  frameDigits { x with rp188 := { DBB := 0, Low := Low, High := High } }

/-! ### Setting the object -/

/-- The digits carried into range. -/
def carryDigits (framesPerSecond ulFrms ulSecs ulMins ulHrs : ℕ) : Hmsf :=
  let carry := fun (low base high : ℕ) =>
    if base ≤ low then (low % base, toUInt32 (high + low / base)) else (low, high)
  let frms := carry ulFrms framesPerSecond ulSecs
  let secs := carry frms.2 60 ulMins
  let mins := carry secs.2 60 ulHrs
  { h := if 24 ≤ mins.2 then mins.2 % 24 else mins.2, m := mins.1, s := secs.1, f := frms.1 }

/-- The frames rounded up past the numbers that the format drops. -/
def dropRoundUp (format : TimecodeFormat) (t : Hmsf) : ℕ :=
  if format = kTCFormat30fpsDF then
    if t.s = 0 ∧ (t.f = 0 ∨ t.f = 1) ∧ t.m % 10 ≠ 0 then 2 else t.f
  else if format = kTCFormat60fpsDF then
    if t.s = 0 ∧ (t.f = 0 ∨ t.f = 1 ∨ t.f = 2 ∨ t.f = 3) ∧ t.m % 10 ≠ 0 then 4 else t.f
  else t.f

/-- The text of the digits: drop frame uses a semicolon. -/
def timeCodeString (bDropFrame : Bool) (t : Hmsf) : List Char :=
  print02d t.h ++ ':' :: print02d t.m ++ ':' :: print02d t.s ++
    (if bDropFrame = true then ';' else ':') :: print02d t.f

/-- The object takes a known format. -/
def withFormat (x : CRP188) (tcFormat : TimecodeFormat) : CRP188 :=
  if tcFormat ≠ kTCFormatUnknown then { x with tcFormat := tcFormat } else x

/-- `SetRP188` of digits. -/
def SetRP188 (x : CRP188) (ulFrms ulSecs ulMins ulHrs : ℕ) (tcFormat : TimecodeFormat) :
    CRP188 :=
  let x := x.withFormat tcFormat
  let bDropFrame := x.FormatIsDropFrame x.tcFormat
  let t := carryDigits (x.FramesPerSecond x.tcFormat) ulFrms ulSecs ulMins ulHrs
  let t := { t with f := dropRoundUp x.tcFormat t }
  let x := { x with ulVal := t, sHMSF := timeCodeString bDropFrame t }
  let x := { x.ConvertTcStrToReg with bInitialized := true, bFresh := false }
  let x := (x.SetVaricamFrameActive false 0).SetVaricamFrameActive false 1
  let x := (x.SetDropFrame bDropFrame).SetColorFrame false
  let x := x.SetVaricamRate (x.DefaultFrameRateForTimecodeFormat x.tcFormat)
  let x := if x.FormatIs60_50fps x.tcFormat = false then x.SetFieldID 0 else x
  x.SetBFGBits false false false

/-- `SetRP188` of a frame count. -/
def SetRP188_frames (x : CRP188) (frames : ℕ) (tcFormat : TimecodeFormat) : CRP188 :=
  let x := x.withFormat tcFormat
  let t := x.ConvertFrameCount frames x.tcFormat
  x.SetRP188 t.f t.s t.m t.h x.tcFormat

/-! ### Moving the timecode -/

/-- `AddFrames`: the moved object and the new count. -/
def AddFrames (x : CRP188) (frameCount : ℕ) : CRP188 × ℕ :=
  let currentFrameCount := x.GetFrameCount
  let newFrameCount := toUInt32 (currentFrameCount + frameCount)
  -- 24-hour rollover
  let newFrameCount := newFrameCount % x.MaxFramesPerDay kTCFormatUnknown
  (x.SetRP188_frames newFrameCount x.tcFormat, newFrameCount)

/-- `SubtractFrames`: the moved object and the new count. -/
def SubtractFrames (x : CRP188) (frameCount : ℕ) : CRP188 × ℕ :=
  let currentFrameCount := x.GetFrameCount
  let maxFrames := x.MaxFramesPerDay kTCFormatUnknown
  let subAmt := frameCount % maxFrames
  let newFrameCount :=
    if subAmt ≤ currentFrameCount then toUInt32 ((currentFrameCount : Int) - subAmt)
    else toUInt32 ((maxFrames : Int) - toUInt32 ((subAmt : Int) - currentFrameCount))
  (x.SetRP188_frames newFrameCount x.tcFormat, newFrameCount)

end CRP188

namespace AJATimeCode

/-- The frame digits and the field ID bit that `QueryRP188` adds to the low and the high word. -/
def queryFrames (f : ℕ) (frameRate : AJA_FrameRate) (m_stdTcForHfr : Bool)
    (low high : BitVec 32) : BitVec 32 × BitVec 32 :=
  if m_stdTcForHfr = false ∧ .AJA_FrameRate_4795 ≤ frameRate then
    let fieldID := if f &&& 1 ≠ 0 then 1#32 else 0#32
    let halfFrame := f / 2
    let low := low ||| BitVec.ofNat 32 (halfFrame % 10) |||
      BitVec.ofNat 32 (halfFrame / 10 &&& 0x3) <<< 8
    -- the field ID is in different words for PAL and NTSC
    if frameRate = .AJA_FrameRate_5000 ∨ frameRate = .AJA_FrameRate_10000 then
      (low, high ||| fieldID <<< 27)
    else (low ||| fieldID <<< 27, high)
  else (low ||| BitVec.ofNat 32 (f % 10) ||| BitVec.ofNat 32 (f / 10 &&& 0x3) <<< 8, high)

/-- `QueryRP188`: the words of frame `m_frame`. -/
def QueryRP188 (m_frame : ℕ) (m_stdTcForHfr : Bool) (timeBase : AJATimeBase) (bDrop : Bool) :
    RP188_STRUCT :=
  let t := (CalcHmsf m_frame timeBase bDrop m_stdTcForHfr).1
  let low := BitVec.ofNat 32 (t.s % 10) <<< 16 ||| BitVec.ofNat 32 (t.s / 10 &&& 0x7) <<< 24
  let high := BitVec.ofNat 32 (t.m % 10) ||| BitVec.ofNat 32 (t.m / 10 &&& 0x7) <<< 8 |||
    BitVec.ofNat 32 (t.h % 10) <<< 16 ||| BitVec.ofNat 32 (t.h / 10 &&& 0x3) <<< 24
  let low := low ||| (if bDrop = true then 1#32 else 0#32) <<< 10
  let words := queryFrames t.f timeBase.GetAJAFrameRate m_stdTcForHfr low high
  { DBB := 0, Low := words.1, High := words.2 }

end AJATimeCode

end LibAjaNtv2
