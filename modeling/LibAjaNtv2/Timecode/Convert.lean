import LibAjaNtv2.Timecode.TimeBase
import LibAjaNtv2.Lib.Checked

/-!
Counts of frames, samples and ticks converted into one another (`AJATimeBase::Convert`).

* `convertBy`: the body that the two forms of `Convert` share, in 64-bit arithmetic; there is no
  value where a step overflows;
* `convertBy_eq_some_iff`: **what it returns, and when**;
* `ConvertCall`: a call of either form;
* `nearest_run_iff`: **when the rounded value is the nearest one**;
* `ConvertsRight`: what the conversions of a count are for; `convertsRight_iff`: **they are right
  unless the half unit that is added on the way back overflows**.
-/

namespace LibAjaNtv2

open Checked

/-! ### The conversions -/

/-- The first part of `AJATimeBase::Convert`: half the out rate converted to the in rate is added
to the value, or taken from it. -/
def increased (inValue inRate outRate : ℤ) (round : Bool) : Option ℤ :=
  if round then do
    let twice ← narrow 63 (outRate * 2)
    let roundValue ← cdiv 63 inRate twice
    if 0 < inValue then narrow 63 (inValue + roundValue) else narrow 63 (inValue - roundValue)
  else some inValue

/-- The body of `AJATimeBase::Convert` for two rates, or for the products of the scales and the
durations. -/
def convertBy (inValue inRate outRate : ℤ) (round large : Bool) : Option ℤ := do
  let inValue ← increased inValue inRate outRate round
  if large then do
    let quotient ← cdiv 63 inValue inRate
    let outValue ← narrow 63 (quotient * outRate)
    let remainder ← cmod 63 inValue inRate
    let part ← narrow 63 (remainder * outRate)
    let part ← cdiv 63 part inRate
    narrow 63 (outValue + part)
  else do
    let product ← narrow 63 (inValue * outRate)
    cdiv 63 product inRate

/-- A call of `AJATimeBase::Convert` in one of its two forms. -/
inductive ConvertCall
  | rates (inRate outRate : ℤ)
  | scales (inScale inDuration outScale outDuration : ℤ)

namespace ConvertCall

/-- `AJATimeBase::Convert`. -/
def Convert (call : ConvertCall) (inValue : ℤ) (round large : Bool) : Option ℤ :=
  match call with
  | rates inRate outRate => convertBy inValue inRate outRate round large
  | scales inScale inDuration outScale outDuration => do
      let inScaleOutDuration ← narrow 63 (inScale * outDuration)
      let outScaleInDuration ← narrow 63 (outScale * inDuration)
      convertBy inValue inScaleOutDuration outScaleInDuration round large

/-- The number that the value is divided by. -/
def inProduct : ConvertCall → ℤ
  | rates inRate _ => inRate
  | scales inScale _ _ outDuration => inScale * outDuration

/-- The number that the value is multiplied by. -/
def outProduct : ConvertCall → ℤ
  | rates _ outRate => outRate
  | scales _ inDuration outScale _ => outScale * inDuration

/-- All rates, scales and durations are positive. -/
def Positive : ConvertCall → Prop
  | rates inRate outRate => 0 < inRate ∧ 0 < outRate
  | scales inScale inDuration outScale outDuration =>
      (0 < inScale ∧ 0 < inDuration) ∧ 0 < outScale ∧ 0 < outDuration

end ConvertCall

/-! ### What is returned -/

section Body

variable {a c v out : ℤ}

/-- **What a conversion returns**: the rescaled value, where no step overflows. -/
theorem convertBy_eq_some_iff (out : ℤ) (ha : 0 < a) (hc : 0 < c) (ha' : InRange 63 a)
    (hc' : InRange 63 (c * 2)) (hv : InRange 63 v) (round large : Bool) :
    convertBy v a c round large = some out ↔
      let v := if round then rounded v a c else v
      InRange 63 v ∧ (if large then InRange 63 (v.tmod a * c) else InRange 63 (v * c)) ∧
        InRange 63 (rescale v a c) ∧ out = rescale v a c := by
  have hround : increased v a c round = narrow 63 (if round then rounded v a c else v) := by
    rw [increased]
    cases round with
    | false => exact (narrow_of_inRange hv).symm
    | true =>
        have hcdiv := cdiv_of_inRange (show 0 < c * 2 by omega) ha'
        simp only [narrow_of_inRange hc', hcdiv, Option.bind_eq_bind, Option.bind_some, if_true,
          rounded]
        split <;> rfl
  rw [convertBy, hround, Option.bind_eq_bind, Option.bind_eq_some_iff]
  simp only [narrow_eq_some_iff]
  generalize (if round then rounded v a c else v) = w
  have hsplit := rescale_split ha hc.le w
  cases large with
  | false =>
      constructor
      · rintro ⟨_, ⟨hw, rfl⟩, h⟩
        obtain ⟨_, hproduct, h⟩ := Option.bind_eq_some_iff.1 h
        obtain ⟨hp, rfl⟩ := narrow_eq_some_iff.1 hproduct
        rw [cdiv_of_inRange ha hp, Option.some.injEq] at h
        exact ⟨hw, hp, hp.tdiv ha, h.symm⟩
      · rintro ⟨hw, hp, -, rfl⟩
        refine ⟨w, ⟨hw, rfl⟩, Option.bind_eq_some_iff.2 ⟨w * c, narrow_of_inRange hp, ?_⟩⟩
        exact cdiv_of_inRange ha hp
  | true =>
      constructor
      · rintro ⟨_, ⟨hw, rfl⟩, h⟩
        simp only [if_true, cdiv_of_inRange ha hw, cmod_of_inRange ha hw, Option.bind_some]
          at h
        obtain ⟨_, hquot, h⟩ := Option.bind_eq_some_iff.1 h
        obtain ⟨-, rfl⟩ := narrow_eq_some_iff.1 hquot
        obtain ⟨_, hrem, h⟩ := Option.bind_eq_some_iff.1 h
        obtain ⟨hr, rfl⟩ := narrow_eq_some_iff.1 hrem
        rw [cdiv_of_inRange ha hr, Option.bind_some, hsplit] at h
        exact ⟨hw, hr, narrow_eq_some_iff.1 h⟩
      · rintro ⟨hw, hr, hsum, rfl⟩
        refine ⟨w, ⟨hw, rfl⟩, ?_⟩
        simp only [if_true] at hr
        simp only [if_true, cdiv_of_inRange ha hw, cmod_of_inRange ha hw, Option.bind_some,
          narrow_of_inRange (hsum.quotient_mul ha hc.le), narrow_of_inRange hr,
          cdiv_of_inRange ha hr, hsplit, narrow_of_inRange hsum]

end Body

namespace ConvertCall

variable {call : ConvertCall} {v : ℤ}

/-- The two numbers of a call are positive. -/
lemma Positive.products (h : call.Positive) : 0 < call.inProduct ∧ 0 < call.outProduct := by
  cases call with
  | rates inRate outRate => exact h
  | scales inScale inDuration outScale outDuration =>
      obtain ⟨⟨h1, h2⟩, h3, h4⟩ := h
      exact ⟨mul_pos h1 h4, mul_pos h3 h2⟩

/-- Both forms have the same body. -/
lemma Convert_eq (hin : InRange 63 call.inProduct) (hout : InRange 63 call.outProduct)
    (round large : Bool) :
    call.Convert v round large = convertBy v call.inProduct call.outProduct round large := by
  cases call with
  | rates inRate outRate => rfl
  | scales inScale inDuration outScale outDuration =>
      rw [inProduct] at hin ⊢
      rw [outProduct] at hout ⊢
      simp only [Convert, narrow_of_inRange hin, narrow_of_inRange hout, Option.bind_eq_bind,
        Option.bind_some]

/-- The exact result of a call fits 63 bits. -/
def Fits (call : ConvertCall) (v : ℤ) : Prop :=
  |v| * call.outProduct < 2 ^ 63 * call.inProduct

instance : Decidable (call.Fits v) := inferInstanceAs (Decidable (_ < _))

end ConvertCall

/-! ### Rounding to the nearest -/

/-- A call rounds a value right: the value with the half unit fits, so does the product that is
divided, and where more than half of a unit is cut off, what is added brings the unit back. -/
structure RoundsRight (a c v : ℤ) (large : Bool) : Prop where
  sum : InRange 63 (rounded v a c)
  product : if large then InRange 63 ((rounded v a c).tmod a * c)
    else InRange 63 (rounded v a c * c)
  half : ¬ (a < 2 * (|v| * c % a) ∧ |v| * c % a + a / (2 * c) * c < a)

/-- **A rounded conversion** returns the nearest integer exactly where it rounds right. -/
theorem nearest_run_iff (call : ConvertCall) (hpos : call.Positive)
    (hin : call.inProduct < 2 ^ 62) (hout : call.outProduct < 2 ^ 62) (v : ℤ)
    (hv : InRange 63 v) (hlow : -2 ^ 63 * call.inProduct ≤ v * call.outProduct)
    (hhigh : v * call.outProduct ≤ (2 ^ 63 - 1) * call.inProduct) (large : Bool) :
    (∃ out, call.Convert v true large = some out ∧
        Nearest out v call.inProduct call.outProduct) ↔
      RoundsRight call.inProduct call.outProduct v large := by
  obtain ⟨ha, hc⟩ := hpos.products
  have hin' : InRange 63 call.inProduct := ⟨by omega, by omega⟩
  have hout' : InRange 63 call.outProduct := ⟨by omega, by omega⟩
  have htwice : InRange 63 (call.outProduct * 2) := ⟨by omega, by omega⟩
  have hresult := inRange_rescale_rounded ha hc hlow hhigh
  have hspec := fun out => convertBy_eq_some_iff out ha hc hin' htwice hv true large
  simp only [if_true] at hspec
  simp only [ConvertCall.Convert_eq hin' hout', hspec]
  constructor
  · rintro ⟨out, ⟨hsum, hproduct, -, rfl⟩, hnear⟩
    exact ⟨hsum, hproduct, (nearest_iff ha hc v).1 hnear⟩
  · rintro ⟨hsum, hproduct, hhalf⟩
    exact ⟨_, ⟨hsum, hproduct, hresult, rfl⟩, (nearest_iff ha hc v).2 hhalf⟩

/-- 1601 samples at 48000 a second are the nearest to 33354 microseconds. -/
theorem nearest_run_samples : ∃ out, (ConvertCall.rates 48000 1000000).Convert 1601 true true =
    some out ∧ Nearest out 1601 48000 1000000 :=
  (nearest_run_iff (.rates 48000 1000000) ⟨by decide, by decide⟩ (by decide) (by decide) 1601 (by decide)
    (by decide) (by decide) true).2 ⟨by decide, by decide, by decide⟩

/-- A frame at 30000 over 1001 is 1601.6 samples, and becomes 1601. -/
theorem not_nearest_run_frame :
    (ConvertCall.scales 30000 1001 48000 1).Convert 1 true true = some 1601 ∧
    ¬ ∃ out, (ConvertCall.scales 30000 1001 48000 1).Convert 1 true true = some out ∧
      Nearest out 1 30000 (48000 * 1001) := by
  have hrun : (ConvertCall.scales 30000 1001 48000 1).Convert 1 true true = some 1601 := by
    decide
  refine ⟨hrun, ?_⟩
  rintro ⟨out, hout, hnear⟩
  obtain rfl := Option.some.inj (hrun.symm.trans hout)
  revert hnear
  decide

/-! ### The conversions of a time base -/

/-- A time base with its rates of audio samples and of ticks. -/
structure AJATimeBaseRates extends AJATimeBase where
  mAudioRate : ℤ
  mTickRate : ℤ

namespace AJATimeBaseRates

variable (t : AJATimeBaseRates)

/-- The call of `FramesToSamples`. -/
def framesToSamples : ConvertCall := .scales t.mFrameTimeScale t.mFrameDuration t.mAudioRate 1

/-- The call of `FramesToTicks`. -/
def framesToTicks : ConvertCall := .scales t.mFrameTimeScale t.mFrameDuration t.mTickRate 1

/-- The call of `FramesToMicroseconds`. -/
def framesToMicroseconds : ConvertCall := .scales t.mFrameTimeScale t.mFrameDuration 1000000 1

/-- `AJATimeBase::FramesToSamples`. -/
def FramesToSamples (frames : ℤ) (round : Bool) : Option ℤ :=
  t.framesToSamples.Convert frames round true

/-- `AJATimeBase::FramesToTicks`. -/
def FramesToTicks (frames : ℤ) (round : Bool) : Option ℤ :=
  t.framesToTicks.Convert frames round true

/-- `AJATimeBase::FramesToMicroseconds`. -/
def FramesToMicroseconds (frames : ℤ) (round : Bool) : Option ℤ :=
  t.framesToMicroseconds.Convert frames round true

/-- `AJATimeBase::SamplesToFrames`. -/
def SamplesToFrames (samples : ℤ) (round : Bool) : Option ℤ :=
  (ConvertCall.scales t.mAudioRate 1 t.mFrameTimeScale t.mFrameDuration).Convert samples round true

/-- `AJATimeBase::TicksToFrames`. -/
def TicksToFrames (ticks : ℤ) (round : Bool) : Option ℤ :=
  (ConvertCall.scales t.mTickRate 1 t.mFrameTimeScale t.mFrameDuration).Convert ticks round true

/-- `AJATimeBase::MicrosecondsToFrames`. -/
def MicrosecondsToFrames (microseconds : ℤ) (round : Bool) : Option ℤ :=
  (ConvertCall.scales 1000000 1 t.mFrameTimeScale t.mFrameDuration).Convert microseconds round true

/-- The units of the time base: frames, samples, ticks and microseconds, each with its scale and
its duration. -/
def units : List (ℤ × ℤ) :=
  [(t.mFrameTimeScale, t.mFrameDuration), (t.mAudioRate, 1), (t.mTickRate, 1), (1000000, 1)]

/-- The calls that convert one unit into another. -/
def calls : List ConvertCall :=
  t.units.flatMap fun u => t.units.map fun w => .scales u.1 u.2 w.1 w.2

/-- What the conversions of a count are for. -/
structure ConvertsRight (n : ℤ) : Prop where
  /-- Without rounding the quotient is truncated towards zero, and no step overflows. -/
  large : ∀ call ∈ t.calls, call.Fits n →
    call.Convert n false true = some ((n * call.outProduct).tdiv call.inProduct)
  /-- The fast path does the same where its product fits. -/
  fast : ∀ call ∈ t.calls, call.Fits n → InRange 63 (n * call.outProduct) →
    call.Convert n false false = some ((n * call.outProduct).tdiv call.inProduct)
  /-- A larger count has no smaller result. -/
  monotone : ∀ call ∈ t.calls, ∀ m, InRange 63 m → call.Fits n → call.Fits m → n ≤ m →
    ∃ x y, call.Convert n false true = some x ∧ call.Convert m false true = some y ∧ x ≤ y
  samples : t.framesToSamples.Fits n →
    ((t.FramesToSamples n true).bind fun s => t.SamplesToFrames s true) = some n
  ticks : t.framesToTicks.Fits n →
    ((t.FramesToTicks n true).bind fun s => t.TicksToFrames s true) = some n
  microseconds : t.framesToMicroseconds.Fits n →
    ((t.FramesToMicroseconds n true).bind fun s => t.MicrosecondsToFrames s true) = some n

end AJATimeBaseRates

/-- The half frame that is added to the converted count on the way back does not overflow. -/
def ReturnFits (call : ConvertCall) (n : ℤ) : Prop :=
  let half := call.outProduct / (2 * call.inProduct)
  if 0 < n then n * call.outProduct < (2 ^ 63 - half) * call.inProduct
  else -n * call.outProduct < (2 ^ 63 - half + 1) * call.inProduct

instance (call : ConvertCall) (n : ℤ) : Decidable (ReturnFits call n) := by
  unfold ReturnFits
  infer_instance

/-! ### When they are right -/

section Right

variable {call : ConvertCall} {n : ℤ}

/-- The numbers of a call are positive and small. -/
structure Moderate (call : ConvertCall) : Prop where
  pos : call.Positive
  small : call.inProduct * call.outProduct ≤ 10 ^ 18

/-- Both numbers of such a call are small. -/
lemma Moderate.le (h : Moderate call) :
    call.inProduct ≤ 10 ^ 18 ∧ call.outProduct ≤ 10 ^ 18 := by
  obtain ⟨ha, hc⟩ := h.pos.products
  have hsmall := h.small
  exact ⟨by nlinarith, by nlinarith⟩

/-- **Without rounding**: the truncated quotient. -/
theorem convert_of_fits (h : Moderate call) (hn : InRange 63 n) (hfits : call.Fits n) :
    call.Convert n false true = some (rescale n call.inProduct call.outProduct) ∧
    (InRange 63 (n * call.outProduct) →
      call.Convert n false false = some (rescale n call.inProduct call.outProduct)) := by
  obtain ⟨ha, hc⟩ := h.pos.products
  obtain ⟨hle, hle'⟩ := h.le
  have hin : InRange 63 call.inProduct := ⟨by omega, by omega⟩
  have hout : InRange 63 call.outProduct := ⟨by omega, by omega⟩
  have htwice : InRange 63 (call.outProduct * 2) := ⟨by omega, by omega⟩
  have hresult : InRange 63 (rescale n call.inProduct call.outProduct) :=
    inRange_rescale ha hc.le hfits
  have hrem : InRange 63 (n.tmod call.inProduct * call.outProduct) :=
    inRange_tmod_mul ha hc (h.small.trans (by norm_num))
  have hspec := fun large => convertBy_eq_some_iff
    (rescale n call.inProduct call.outProduct) ha hc hin htwice hn false large
  simp only [Bool.false_eq_true, if_false] at hspec
  rw [ConvertCall.Convert_eq hin hout, ConvertCall.Convert_eq hin hout, hspec, hspec]
  exact ⟨⟨hn, hrem, hresult, trivial⟩, fun hp => ⟨hn, hp, hresult, trivial⟩⟩

/-- **There and back**: a count of a coarser unit comes back exactly where the half unit that is
added on the way back fits. -/
theorem roundTrip_iff {back : ConvertCall} (h : Moderate call)
    (hin : back.inProduct = call.outProduct) (hout : back.outProduct = call.inProduct)
    (hfine : 2 * call.inProduct ≤ call.outProduct) (hn : InRange 63 n) (hfits : call.Fits n) :
    ((call.Convert n true true).bind fun s => back.Convert s true true) = some n ↔
      ReturnFits call n := by
  obtain ⟨ha, hc⟩ := h.pos.products
  obtain ⟨hle, hle'⟩ := h.le
  have ha' : InRange 63 call.inProduct := ⟨by omega, by omega⟩
  have hc' : InRange 63 call.outProduct := ⟨by omega, by omega⟩
  have hresult : InRange 63 (rescale n call.inProduct call.outProduct) :=
    inRange_rescale ha hc.le hfits
  have hthere : call.Convert n true true =
      some (rescale n call.inProduct call.outProduct) := by
    rw [ConvertCall.Convert_eq ha' hc', convertBy_eq_some_iff _ ha hc ha' ⟨by omega, by omega⟩ hn]
    simp only [if_true]
    rw [rounded_of_lt ha.le (by omega)]
    exact ⟨hn, inRange_tmod_mul ha hc (h.small.trans (by norm_num)), hresult, rfl⟩
  rw [hthere, Option.bind_some, ConvertCall.Convert_eq (hin ▸ hc') (hout ▸ ha'), hin, hout,
    convertBy_eq_some_iff _ hc ha hc' ⟨by omega, by omega⟩ hresult, ReturnFits,
    ← inRange_rounded_rescale_iff ha (by omega)]
  simp only [if_true, rescale_back ha hfine]
  refine ⟨fun hall => hall.1, fun hsum => ⟨hsum, ?_, hn, trivial⟩⟩
  refine inRange_tmod_mul hc ha ?_
  rw [mul_comm]
  exact h.small.trans (by norm_num)

/-- The rows of the table lie between 15000 over 1001 and 120 frames a second. -/
lemma AJAFrameRateTable_bounds : ∀ e ∈ AJAFrameRateTable,
    (15000 ≤ e.frameTimeScale ∧ e.frameTimeScale ≤ 120000) ∧
      1000 ≤ e.frameDuration ∧ e.frameDuration ≤ 1001 := by
  decide

/-- A time base of the table, with an audio rate and a tick rate of the library. -/
structure TableRates (t : AJATimeBaseRates) : Prop where
  rate : ∃ e ∈ AJAFrameRateTable, t.mFrameTimeScale = e.frameTimeScale ∧
    t.mFrameDuration = e.frameDuration
  audio : 32000 ≤ t.mAudioRate ∧ t.mAudioRate ≤ 192000
  tick : t.mTickRate = 10 ^ 6 ∨ t.mTickRate = 10 ^ 7 ∨ t.mTickRate = 10 ^ 9

/-- The numbers of the rates. -/
lemma TableRates.bounds {t : AJATimeBaseRates} (h : TableRates t) :
    (15000 ≤ t.mFrameTimeScale ∧ t.mFrameTimeScale ≤ 120000) ∧
      (1000 ≤ t.mFrameDuration ∧ t.mFrameDuration ≤ 1001) ∧
      (32000 ≤ t.mAudioRate ∧ t.mAudioRate ≤ 192000) ∧
      1000000 ≤ t.mTickRate ∧ t.mTickRate ≤ 1000000000 := by
  obtain ⟨e, he, hs, hd⟩ := h.rate
  obtain ⟨hscale, hduration⟩ := AJAFrameRateTable_bounds e he
  rw [hs, hd]
  refine ⟨hscale, hduration, h.audio, ?_⟩
  rcases h.tick with h | h | h <;> rw [h] <;> norm_num

/-- The units of such a time base are small. -/
lemma TableRates.units {t : AJATimeBaseRates} (h : TableRates t) :
    ∀ u ∈ t.units, (0 < u.1 ∧ 0 < u.2) ∧ u.1 * u.2 ≤ 10 ^ 9 := by
  obtain ⟨hscale, hduration, haudio, htick⟩ := h.bounds
  intro u hu
  rw [AJATimeBaseRates.units] at hu
  simp only [List.mem_cons, List.not_mem_nil, or_false] at hu
  rcases hu with rfl | rfl | rfl | rfl
  · exact ⟨⟨by omega, by omega⟩, by nlinarith⟩
  · exact ⟨⟨by omega, by omega⟩, by omega⟩
  · exact ⟨⟨by omega, by omega⟩, by omega⟩
  · exact ⟨⟨by omega, by omega⟩, by norm_num⟩

/-- So are the numbers of a call that converts one unit into another. -/
lemma moderate_scales {u w : ℤ × ℤ} (hu : (0 < u.1 ∧ 0 < u.2) ∧ u.1 * u.2 ≤ 10 ^ 9)
    (hw : (0 < w.1 ∧ 0 < w.2) ∧ w.1 * w.2 ≤ 10 ^ 9) : Moderate (.scales u.1 u.2 w.1 w.2) where
  pos := ⟨hu.1, hw.1⟩
  small := by
    obtain ⟨⟨hu1, hu2⟩, hule⟩ := hu
    obtain ⟨⟨hw1, hw2⟩, hwle⟩ := hw
    have huw : u.1 * w.2 * (w.1 * u.2) = u.1 * u.2 * (w.1 * w.2) := by ring
    rw [ConvertCall.inProduct, ConvertCall.outProduct, huw]
    calc u.1 * u.2 * (w.1 * w.2) ≤ 10 ^ 9 * 10 ^ 9 :=
          mul_le_mul hule hwle (mul_pos hw1 hw2).le (by norm_num)
      _ = 10 ^ 18 := by norm_num

/-- The calls of such a time base. -/
lemma TableRates.calls {t : AJATimeBaseRates} (h : TableRates t) :
    ∀ call ∈ t.calls, Moderate call := by
  intro call hcall
  obtain ⟨u, hu, hmem⟩ := List.mem_flatMap.1 hcall
  obtain ⟨w, hw, rfl⟩ := List.mem_map.1 hmem
  exact moderate_scales (h.units u hu) (h.units w hw)

/-- A rate of at least 32000 a second is finer than the frames, by two at least. -/
lemma TableRates.fine {t : AJATimeBaseRates} (h : TableRates t) {rate : ℤ} (hrate : 32000 ≤ rate) :
    2 * (t.mFrameTimeScale * 1) ≤ rate * t.mFrameDuration := by
  obtain ⟨hscale, hduration, -⟩ := h.bounds
  nlinarith

/-- **The conversions of a count are right** exactly where the half frame that is added on the
way back does not overflow, for the three units with an exact count that fits. -/
theorem convertsRight_iff {t : AJATimeBaseRates} (h : TableRates t) {n : ℤ}
    (hn : InRange 63 n) :
    t.ConvertsRight n ↔
      (t.framesToSamples.Fits n → ReturnFits t.framesToSamples n) ∧
      (t.framesToTicks.Fits n → ReturnFits t.framesToTicks n) ∧
      (t.framesToMicroseconds.Fits n → ReturnFits t.framesToMicroseconds n) := by
  have hframes := h.units (t.mFrameTimeScale, t.mFrameDuration) (by simp [AJATimeBaseRates.units])
  obtain ⟨-, -, haudio, htick⟩ := h.bounds
  have htrip : ∀ rate : ℤ, (rate, 1) ∈ t.units → 32000 ≤ rate →
      (ConvertCall.scales t.mFrameTimeScale t.mFrameDuration rate 1).Fits n →
      ((((ConvertCall.scales t.mFrameTimeScale t.mFrameDuration rate 1).Convert n true true).bind
        fun s => (ConvertCall.scales rate 1 t.mFrameTimeScale t.mFrameDuration).Convert s true
          true) = some n ↔
        ReturnFits (.scales t.mFrameTimeScale t.mFrameDuration rate 1) n) := by
    intro rate hmem hrate hfits
    have hunit := h.units _ hmem
    exact roundTrip_iff (moderate_scales hframes hunit) rfl rfl (h.fine hrate) hn hfits
  have hsamples := htrip t.mAudioRate (by simp [AJATimeBaseRates.units]) haudio.1
  have hticks := htrip t.mTickRate (by simp [AJATimeBaseRates.units]) (by omega)
  have hmicro := htrip 1000000 (by simp [AJATimeBaseRates.units]) (by norm_num)
  constructor
  · intro hright
    exact ⟨fun hfits => (hsamples hfits).1 (hright.samples hfits),
      fun hfits => (hticks hfits).1 (hright.ticks hfits),
      fun hfits => (hmicro hfits).1 (hright.microseconds hfits)⟩
  · rintro ⟨h1, h2, h3⟩
    refine ⟨fun call hcall hfits => (convert_of_fits (h.calls call hcall) hn hfits).1,
      fun call hcall hfits => (convert_of_fits (h.calls call hcall) hn hfits).2, ?_,
      fun hfits => (hsamples hfits).2 (h1 hfits), fun hfits => (hticks hfits).2 (h2 hfits),
      fun hfits => (hmicro hfits).2 (h3 hfits)⟩
    intro call hcall m hm hfits hfits' hle
    have hmod := h.calls call hcall
    obtain ⟨ha, hc⟩ := hmod.pos.products
    exact ⟨_, _, (convert_of_fits hmod hn hfits).1, (convert_of_fits hmod hm hfits').1,
      rescale_mono ha hc.le hle⟩

/-- The time base of 25 frames a second, with 48000 samples and ten million ticks. -/
def palRates : AJATimeBaseRates := ⟨⟨25000, 1000⟩, 48000, 10000000⟩

lemma palRates_table : TableRates palRates where
  rate := ⟨⟨AJA_FrameRate.AJA_FrameRate_2500, 25000, 1000⟩, by simp [AJAFrameRateTable], rfl, rfl⟩
  audio := by decide
  tick := .inr (.inl rfl)

/-- The conversions of an hour are right. -/
theorem convertsRight_hour : palRates.ConvertsRight 90000 :=
  (convertsRight_iff palRates_table (by decide)).2
    ⟨fun _ => by decide, fun _ => by decide, fun _ => by decide⟩

/-- The last count whose samples fit does not come back. -/
theorem not_convertsRight_last :
    palRates.FramesToSamples 4803839602528529 true = some 9223372036854775680 ∧
    palRates.SamplesToFrames 9223372036854775680 true = none ∧
    ¬ palRates.ConvertsRight 4803839602528529 := by
  have hthere : palRates.FramesToSamples 4803839602528529 true = some 9223372036854775680 := by
    decide
  have hback : palRates.SamplesToFrames 9223372036854775680 true = none := by
    decide
  refine ⟨hthere, hback, fun h => ?_⟩
  have htrip := h.samples (by decide)
  rw [hthere, Option.bind_some, hback] at htrip
  cases htrip

end Right

end LibAjaNtv2
