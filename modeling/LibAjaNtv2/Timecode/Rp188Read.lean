import Mathlib.Tactic
import LibAjaNtv2.Timecode.Words

/-!
Reading the RP188 words back into a frame count.

* `AJATimeCode.SetRP188`: the frame that the words say;
* `Rp188Fields.frames`, `AJATimeCode.SetRP188_eq`: it counts the fields of the words;
* `DropClock.frameNumber`: the number a frame has in its second;
* `AJATimeCode.TensLost`: the frame numbers whose tens do not fit the words;
* `AJATimeCode.wordsRestore_iff`: **exactly which frames the words restore**.
-/

namespace LibAjaNtv2

open AJA_FrameRate

namespace AJATimeCode

/-! ### Reading the words -/

/-- `QueryIsRP188DropFrame`: bit 10 of the low word. -/
def QueryIsRP188DropFrame (_inDBB inLo _inHi : BitVec 32) : Bool :=
  (inLo >>> 10) &&& 0x01#32 ≠ 0

/-- The frames of the words: two digits, or twice their number and the field ID bit. -/
def readFrames (inLo inHi : BitVec 32) (frameRate : AJA_FrameRate) (m_stdTcForHfr : Bool) : ℕ :=
  if m_stdTcForHfr = false ∧ AJA_FrameRate_4795 ≤ frameRate then
    -- the field ID is in different words for PAL and NTSC
    let fieldID : Bool :=
      if frameRate = AJA_FrameRate_5000 ∨ frameRate = AJA_FrameRate_10000 then
        inHi &&& (1#32 <<< 27) ≠ 0
      else inLo &&& (1#32 <<< 27) ≠ 0
    let numFrames := (((inLo >>> 8) &&& 0x3#32).toNat * 10 + (inLo &&& 0xF#32).toNat) * 2 +
      fieldID.toNat
    let f0 := numFrames % 10
    let f1 := numFrames / 10 * 10
    f0 + f1
  else
    let f0 := (inLo &&& 0xF#32).toNat
    let f1 := ((inLo >>> 8) &&& 0x3#32).toNat * 10
    f0 + f1

/-- `SetRP188`: the frame of the words. -/
def SetRP188 (m_stdTcForHfr : Bool) (inDBB inLo inHi : BitVec 32) (inTimeBase : AJATimeBase) : ℕ :=
  let bDrop := QueryIsRP188DropFrame inDBB inLo inHi
  let h0 := ((inHi >>> 16) &&& 0xF#32).toNat
  let h1 := ((inHi >>> 24) &&& 0x3#32).toNat * 10
  let m0 := (inHi &&& 0xF#32).toNat
  let m1 := ((inHi >>> 8) &&& 0x7#32).toNat * 10
  let s0 := ((inLo >>> 16) &&& 0xF#32).toNat
  let s1 := ((inLo >>> 24) &&& 0x7#32).toNat * 10
  let f := readFrames inLo inHi inTimeBase.GetAJAFrameRate m_stdTcForHfr
  CalcFrame (h0 + h1) (m0 + m1) (s0 + s1) f inTimeBase bDrop m_stdTcForHfr 0

end AJATimeCode

namespace Rp188Fields

/-- The number of the two frame digits. -/
def shown (x : Rp188Fields) : ℕ := 10 * x.frames10.toNat + x.frames1.toNat

/-- The frames of the fields. -/
def frames (x : Rp188Fields) (r : AJA_FrameRate) (m_stdTcForHfr : Bool) : ℕ :=
  if AJATimeCode.inPairs r m_stdTcForHfr = true then
    2 * x.shown + (if AJATimeCode.fieldIDHigh r = true then x.highFieldID else x.lowFieldID).toNat
  else x.shown

end Rp188Fields

namespace AJATimeCode

variable {r : AJA_FrameRate} {bDrop m_stdTcForHfr : Bool}

/-! ### The fields are what is read -/

lemma units_read (v : BitVec 32) :
    (v &&& 0xF#32).toNat = (v.extractLsb' 0 4).toNat := by
  have h := BitField.shifted_read v 0 4 0xF#32 (by decide)
  rwa [BitVec.ushiftRight_zero] at h

/-- A bit tested is the field of one bit. -/
lemma bit_read (v : BitVec 32) {k : ℕ} (hk : k < 32) :
    (decide (v &&& (1#32 <<< k) ≠ 0)).toNat = (v.extractLsb' k 1).toNat := by
  have hiff := BitField.bit_ne_zero_iff v hk
  by_cases h : v &&& (1#32 <<< k) ≠ 0
  · rw [hiff.mp h, decide_eq_true h]
    rfl
  · have hlt := (v.extractLsb' k 1).isLt
    have hne : (v.extractLsb' k 1).toNat ≠ 1 := fun h' =>
      h (hiff.mpr (BitVec.eq_of_toNat_eq h'))
    rw [decide_eq_false h]
    change 0 = _
    omega

lemma readFrames_eq (w : RP188_STRUCT) :
    readFrames w.Low w.High r m_stdTcForHfr = w.fields.frames r m_stdTcForHfr := by
  have htens := BitField.shifted_read w.Low 8 2 0x3#32 (by decide)
  have hunits := units_read w.Low
  rw [readFrames, Rp188Fields.frames, inPairs]
  by_cases hp : m_stdTcForHfr = false ∧ AJA_FrameRate_4795 ≤ r
  · rw [if_pos hp, if_pos (decide_eq_true hp), fieldIDHigh]
    by_cases hl : r = AJA_FrameRate_5000 ∨ r = AJA_FrameRate_10000
    · have hbit := bit_read w.High (k := 27) (by decide)
      simp only [if_pos hl, if_pos (decide_eq_true hl), htens, hunits, hbit]
      simp only [Rp188Fields.shown, RP188_STRUCT.fields, fieldsOf]
      omega
    · have hbit := bit_read w.Low (k := 27) (by decide)
      have hl' : ¬ decide (r = AJA_FrameRate_5000 ∨ r = AJA_FrameRate_10000) = true := by
        simpa using hl
      simp only [if_neg hl, if_neg hl', htens, hunits, hbit]
      simp only [Rp188Fields.shown, RP188_STRUCT.fields, fieldsOf]
      omega
  · have hp' : ¬ decide (m_stdTcForHfr = false ∧ AJA_FrameRate_4795 ≤ r) = true := by
      simpa using hp
    rw [if_neg hp, if_neg hp']
    simp only [htens, hunits, Rp188Fields.shown, RP188_STRUCT.fields, fieldsOf]
    omega

/-- **`SetRP188` counts the fields of the words.** -/
lemma SetRP188_eq (hr : r.Supported) (w : RP188_STRUCT) :
    SetRP188 m_stdTcForHfr w.DBB w.Low w.High (.ofRate r) =
      CalcFrame (10 * w.fields.hours10.toNat + w.fields.hours1.toNat)
        (10 * w.fields.minutes10.toNat + w.fields.minutes1.toNat)
        (10 * w.fields.seconds10.toNat + w.fields.seconds1.toNat)
        (w.fields.frames r m_stdTcForHfr) (.ofRate r) (w.fields.dropFrame != 0)
        m_stdTcForHfr 0 := by
  have hdrop : QueryIsRP188DropFrame w.DBB w.Low w.High = (w.fields.dropFrame != 0) := by
    have hread := BitField.shifted_read w.Low 10 1 0x01#32 (by decide)
    have hzero : w.fields.dropFrame = 0 ↔ (w.Low.extractLsb' 10 1).toNat = 0 :=
      BitVec.toNat_inj.symm
    have hzero' : (w.Low >>> 10) &&& 0x01#32 = 0 ↔ ((w.Low >>> 10) &&& 0x01#32).toNat = 0 :=
      BitVec.toNat_inj.symm
    rw [QueryIsRP188DropFrame, Bool.eq_iff_iff, decide_eq_true_iff, bne_iff_ne, ne_eq, ne_eq,
      hzero, hzero', hread]
  rw [SetRP188, GetAJAFrameRate_ofRate hr, readFrames_eq, hdrop]
  simp only [BitField.shifted_read w.High 16 4 0xF#32 (by decide),
    BitField.shifted_read w.High 24 2 0x3#32 (by decide),
    BitField.shifted_read w.High 8 3 0x7#32 (by decide),
    BitField.shifted_read w.Low 16 4 0xF#32 (by decide),
    BitField.shifted_read w.Low 24 3 0x7#32 (by decide), units_read]
  simp only [RP188_STRUCT.fields, fieldsOf, Nat.add_comm, Nat.mul_comm]

/-! ### The fields of digits -/

lemma ofNat_field {d len : ℕ} (h : d < 2 ^ len) : (BitVec.ofNat len d).toNat = d := by
  rw [BitVec.toNat_ofNat, Nat.mod_eq_of_lt h]

/-- The frames of the fields: the number up to the multiple of what the digits hold. -/
lemma frames_digitFields (t : Hmsf) (f : ℕ) (drop : Bool) :
    (digitFields t (shownFrames r m_stdTcForHfr f % 40) drop
      (inPairs r m_stdTcForHfr && !fieldIDHigh r && f % 2 != 0)
      (inPairs r m_stdTcForHfr && fieldIDHigh r && f % 2 != 0)).frames r m_stdTcForHfr =
      f % if inPairs r m_stdTcForHfr = true then 80 else 40 := by
  have hshown : ∀ a low high, (digitFields t (a % 40) drop low high).shown = a % 40 := by
    intro a low high
    rw [Rp188Fields.shown, digitFields, ofNat_field (by omega), ofNat_field (by omega)]
    omega
  have hbit : ∀ b : Bool, (BitVec.ofBool b).toNat = b.toNat := by decide
  rw [Rp188Fields.frames, hshown, shownFrames]
  cases hp : inPairs r m_stdTcForHfr with
  | false => simp
  | true =>
      have hodd : (f % 2 != 0).toNat = f % 2 := by
        rcases Nat.mod_two_eq_zero_or_one f with h | h <;> rw [h] <;> rfl
      cases hl : fieldIDHigh r with
      | false =>
          simp only [digitFields, hbit, hodd, Bool.not_false, Bool.true_and, if_true,
            Bool.false_eq_true, if_false]
          omega
      | true =>
          simp only [digitFields, hbit, hodd, Bool.true_and, if_true]
          omega

/-- **The words read back** the digits, the frame number up to a multiple of eighty where two
frames share a number, of forty elsewhere. -/
theorem SetRP188_QueryRP188 (hr : r.Supported) {n : ℕ}
    (hn : n < framesPerDay r bDrop m_stdTcForHfr) {t : Hmsf} {w : RP188_STRUCT}
    (ht : t = (rateClock r bDrop m_stdTcForHfr).decode (n / hfrDivisor r m_stdTcForHfr))
    (hw : w = QueryRP188 n m_stdTcForHfr (.ofRate r) bDrop) :
    SetRP188 m_stdTcForHfr w.DBB w.Low w.High (.ofRate r) =
      CalcFrame t.h t.m t.s (t.f % if inPairs r m_stdTcForHfr = true then 80 else 40)
        (.ofRate r) bDrop m_stdTcForHfr 0 := by
  have htc : (CalcHmsf n (.ofRate r) bDrop m_stdTcForHfr).1 = t := by
    rw [CalcHmsf_eq_decode hr hn, ht]
  have hshow : (rateClock r bDrop m_stdTcForHfr).Shows t := by
    rw [← htc]
    exact CalcHmsf_shows hr hn
  have hh := hshow.h_lt
  have hm := hshow.m_lt
  have hs := hshow.s_lt
  have hfields := fields_QueryRP188_mod hr n bDrop m_stdTcForHfr ⟨hh, hm, hs, by decide⟩ htc
  have hframes := @frames_digitFields r m_stdTcForHfr t t.f bDrop
  have hdrop : (BitVec.ofBool bDrop != 0) = bDrop := by cases bDrop <;> rfl
  rw [← hw] at hfields
  rw [SetRP188_eq hr, hfields, hframes]
  simp only [digitFields, hdrop]
  rw [ofNat_field (by omega), ofNat_field (by omega), ofNat_field (by omega),
    ofNat_field (by omega), ofNat_field (by omega), ofNat_field (by omega)]
  rw [Nat.div_add_mod, Nat.div_add_mod, Nat.div_add_mod]

end AJATimeCode

/-! ### The number of a frame in its second -/

namespace DropClock

variable (c : DropClock)

/-- The number of frame `n` in its second: the frames and the dropped numbers before it, nine in
every block of ten minutes and one for each minute after the first, less whole seconds. -/
def frameNumber (n : ℕ) : ℕ :=
  (n + c.drop * (9 * (n / c.tenMinutes) + (c.unitCut n).1)) % c.fps

/-- **The frame digit is that number.** -/
lemma decode_f {n : ℕ} (hn : n < c.day) : (c.decode n).f = c.frameNumber n := by
  have hshow := c.decode_shows hn
  have hnum := c.number_decode n
  rw [c.dropped_decode] at hnum
  rw [frameNumber, ← hnum, Nat.mul_add_mod, Nat.mod_eq_of_lt hshow.f_lt]

end DropClock

namespace AJATimeCode

variable {r : AJA_FrameRate} {bDrop m_stdTcForHfr : Bool} {n : ℕ}

/-! ### What the words restore -/

/-- The frames whose tens the words lose: at 100 frames per second and more, each one counted,
those numbered eighty or more in their second. -/
def TensLost (r : AJA_FrameRate) (bDrop m_stdTcForHfr : Bool) (n : ℕ) : Prop :=
  m_stdTcForHfr = false ∧ AJA_FrameRate_10000 ≤ r ∧
    80 ≤ (rateClock r bDrop m_stdTcForHfr).frameNumber n

instance : Decidable (TensLost r bDrop m_stdTcForHfr n) :=
  inferInstanceAs (Decidable (_ ∧ _ ∧ _))

/-- A second has at most thirty frames, sixty where two of them share a number, and twice that
at the highest rates. -/
lemma rateClock_fps_le (r : AJA_FrameRate) (bDrop m_stdTcForHfr : Bool) :
    (rateClock r bDrop m_stdTcForHfr).fps ≤
      if m_stdTcForHfr = false ∧ AJA_FrameRate_10000 ≤ r then 120
      else if inPairs r m_stdTcForHfr = true then 60 else 30 := by
  change (rateClock r false m_stdTcForHfr).fps ≤ _
  cases r <;> cases m_stdTcForHfr <;> decide +kernel

/-- The highest rates are among those with two frames to a number. -/
lemma inPairs_of_le (h : AJA_FrameRate_10000 ≤ r) : inPairs r false = true := by
  have hle : AJA_FrameRate_10000.ctorIdx ≤ r.ctorIdx := h
  exact decide_eq_true ⟨rfl, show AJA_FrameRate_4795.ctorIdx ≤ r.ctorIdx from
    Nat.le_trans (by decide) hle⟩

/-- The digits with eighty frames less never count the frame. -/
lemma countOf_lost {k : ℕ} (hk : k < (rateClock r bDrop m_stdTcForHfr).day) {x : Hmsf}
    (hx : x = (rateClock r bDrop m_stdTcForHfr).decode k) (h₁ : 80 ≤ x.f) (h₂ : x.f < 120) :
    countOf r bDrop m_stdTcForHfr ⟨x.h, x.m, x.s, x.f % 80⟩ ≠ k := by
  have hday := (rateClock r bDrop m_stdTcForHfr).day_add_two_lt
  -- the count moves back by less than a word
  have hmove : ∀ f : ℕ, f < 40 → toUInt32 (k + f - x.f) ≠ k := by
    intro f hf
    rw [toUInt32]
    omega
  have hmod : x.f % 80 < 40 := by omega
  cases bDrop with
  | false =>
      have hcount := (rateClock r false m_stdTcForHfr).nonDropCount_frames rfl k (x.f % 80)
      rw [← hx] at hcount
      rw [countOf, if_neg (by decide)]
      simp only
      rw [hcount]
      exact hmove _ hmod
  | true =>
      have hcount := (rateClock r true m_stdTcForHfr).dropCount_frames hk (x.f % 80)
      rw [← hx] at hcount
      rw [countOf, if_pos rfl]
      simp only
      rw [hcount]
      refine hmove _ ?_
      split_ifs
      · decide
      · exact hmod

/-- A count is a word. -/
lemma countOf_lt (x : Hmsf) : countOf r bDrop m_stdTcForHfr x < 4294967296 := by
  rw [countOf]
  split_ifs
  · exact toUInt32_lt _
  · exact toUInt32_lt _

/-- Every frame counted, the frame count is that of the digits. -/
lemma CalcFrame_full (hr : r.Supported) (x : Hmsf) (addFrame : ℕ) :
    CalcFrame x.h x.m x.s x.f (.ofRate r) bDrop false addFrame = countOf r bDrop false x := by
  have hlt := @countOf_lt r bDrop false x
  have hword : toUInt32 ((countOf r bDrop false x : ℕ) : Int) = countOf r bDrop false x :=
    toUInt32_of_eq rfl hlt
  rw [CalcFrame_eq hr, hfrDivisor_of_full, if_neg (by decide), Nat.cast_one, mul_one, add_zero,
    hword, hword]

/-- The digits count the frame without its remainder unless they are rounded up. -/
lemma CalcFrame_counted (hr : r.Supported) (hn : n < framesPerDay r bDrop m_stdTcForHfr)
    {x : Hmsf} (hx : x = (rateClock r bDrop m_stdTcForHfr).decode (n / hfrDivisor r m_stdTcForHfr)) :
    CalcFrame x.h x.m x.s x.f (.ofRate r) bDrop m_stdTcForHfr 0 =
        n - n % hfrDivisor r m_stdTcForHfr ↔
      ¬ RoundedUp r bDrop m_stdTcForHfr n := by
  have hpos := hfrDivisor_pos r m_stdTcForHfr
  have hdm := Nat.div_add_mod n (hfrDivisor r m_stdTcForHfr)
  have hk := div_lt_day hn
  obtain ⟨hle, hiff⟩ := countOf_decode hr hk
  generalize hd : hfrDivisor r m_stdTcForHfr = d at *
  have hwhole : n - n % d = n / d * d := by
    rw [Nat.mul_comm]
    omega
  have hdiv : n / d * d / d = n / d := Nat.mul_div_cancel _ hpos
  have hmod : n / d * d % d = 0 := Nat.mul_mod_left _ _
  have hlt : n / d * d < framesPerDay r bDrop m_stdTcForHfr :=
    (Nat.div_mul_le_self n d).trans_lt hn
  have hcalc := CalcFrame_of_count (x := x) hr hlt (by rw [hd, hdiv, hx]; exact hle)
  rw [hd, hmod, Nat.add_zero] at hcalc
  rw [hcalc, hwhole, ← roundedUp_div, hd, ← hiff, hx]
  exact ⟨fun h => Nat.eq_of_mul_eq_mul_right hpos h, fun h => by rw [h]⟩

/-- The words of a frame restore it, counted by the standard timecode without its remainder. -/
def WordsRestore (r : AJA_FrameRate) (bDrop m_stdTcForHfr : Bool) (n : ℕ) : Prop :=
  let w := QueryRP188 n m_stdTcForHfr (.ofRate r) bDrop
  SetRP188 m_stdTcForHfr w.DBB w.Low w.High (.ofRate r) =
    if m_stdTcForHfr = true then n - (CalcHmsf n (.ofRate r) bDrop true).2 else n

instance : Decidable (WordsRestore r bDrop m_stdTcForHfr n) :=
  inferInstanceAs (Decidable (_ = _))

/-- **The words of a frame restore it** exactly when the tens of its number fit the words and
its digits are not rounded up. -/
theorem wordsRestore_iff (hr : r.Supported) (hn : n < framesPerDay r bDrop m_stdTcForHfr) :
    WordsRestore r bDrop m_stdTcForHfr n ↔
      ¬ TensLost r bDrop m_stdTcForHfr n ∧ ¬ RoundedUp r bDrop m_stdTcForHfr n := by
  have hrest : (if m_stdTcForHfr = true then n - (CalcHmsf n (.ofRate r) bDrop true).2 else n) =
      n - n % hfrDivisor r m_stdTcForHfr := by
    cases m_stdTcForHfr with
    | false => simp [hfrDivisor_of_full, Nat.mod_one]
    | true =>
        rw [if_pos rfl, CalcHmsf_eq_decode hr hn]
  have hk := div_lt_day hn
  obtain ⟨t, ht⟩ : ∃ t, t = (rateClock r bDrop m_stdTcForHfr).decode
    (n / hfrDivisor r m_stdTcForHfr) := ⟨_, rfl⟩
  have hf : t.f < (rateClock r bDrop m_stdTcForHfr).fps := by
    rw [ht]
    exact ((rateClock r bDrop m_stdTcForHfr).decode_shows hk).f_lt
  have hfps := hf.trans_le (rateClock_fps_le r bDrop m_stdTcForHfr)
  have hcounted := CalcFrame_counted hr hn ht
  simp only [WordsRestore, hrest]
  rw [SetRP188_QueryRP188 hr hn ht rfl]
  by_cases hlost : TensLost r bDrop m_stdTcForHfr n
  · obtain ⟨hstd, hhigh, h80⟩ := hlost
    subst hstd
    rw [hfrDivisor_of_full, Nat.div_one] at ht hk
    rw [← DropClock.decode_f _ hk, ← ht] at h80
    rw [if_pos ⟨rfl, hhigh⟩] at hfps
    rw [inPairs_of_le hhigh, if_pos rfl]
    have hne := countOf_lost hk ht h80 hfps
    have hcalc : CalcFrame t.h t.m t.s (t.f % 80) (.ofRate r) bDrop false 0 =
        countOf r bDrop false ⟨t.h, t.m, t.s, t.f % 80⟩ :=
      CalcFrame_full hr ⟨t.h, t.m, t.s, t.f % 80⟩ 0
    rw [hfrDivisor_of_full, hcalc]
    constructor
    · intro h
      rw [Nat.mod_one, Nat.sub_zero] at h
      exact absurd h hne
    · rintro ⟨hnot, -⟩
      refine absurd ⟨rfl, hhigh, ?_⟩ hnot
      rwa [← DropClock.decode_f _ hk, ← ht]
  · have hfit : t.f % (if inPairs r m_stdTcForHfr = true then 80 else 40) = t.f := by
      refine Nat.mod_eq_of_lt ?_
      by_cases hhigh : m_stdTcForHfr = false ∧ AJA_FrameRate_10000 ≤ r
      · obtain ⟨hstd, hhigh⟩ := hhigh
        subst hstd
        rw [hfrDivisor_of_full, Nat.div_one] at ht hk
        rw [inPairs_of_le hhigh, if_pos rfl, ht, DropClock.decode_f _ hk]
        by_contra hge
        exact hlost ⟨rfl, hhigh, Nat.not_lt.mp hge⟩
      · rw [if_neg hhigh] at hfps
        split_ifs at hfps ⊢ <;> omega
    rw [hfit, hcounted]
    exact ⟨fun h => ⟨hlost, h⟩, fun h => h.2⟩

/-- At 119.88 frames per second the words restore frame 7159, the last one of the first minute
whose tens fit. -/
theorem wordsRestore_iff_11988 : WordsRestore AJA_FrameRate_11988 true false 7159 :=
  (wordsRestore_iff (by decide) (by decide +kernel)).mpr (by decide +kernel)

/-- At 100 frames per second the words of frame 80 are those of frame 0. -/
theorem words_lose_tens : ¬ WordsRestore AJA_FrameRate_10000 false false 80 := by
  decide +kernel

end AJATimeCode

end LibAjaNtv2
