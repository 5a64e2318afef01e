import Mathlib.Tactic
import LibAjaNtv2.Timecode.Words

/-!
The two timecode implementations agree.

* `CRP188.ConvertFrameCount_eq`, `AJATimeCode.CalcHmsf_full`: the digits of a frame count on
  the one side and on the other;
* `AJATimeCode.CalcHmsf_format_shows`: they are digits of the format;
* `CRP188.agree_iff`: the digits agree for every count exactly when the object's own format
  drops the numbers of the given one, and the stored words agree always.
-/

namespace LibAjaNtv2

open TimecodeFormat AJA_FrameRate

variable {format : TimecodeFormat} {r : AJA_FrameRate}

namespace AJATimeCode

lemma CalcHmsf_full (hr : r.Supported) (b : Bool) (n : ℕ) :
    (CalcHmsf n (.ofRate r) b false).1 = (rateClock r b false).decode
      (n % (rateClock r b false).day) := by
  rw [CalcHmsf_eq hr, hfrDivisor_of_full, Nat.div_one]

/-- The digits of a frame count in terms of the clock's frames and drops. -/
lemma CalcHmsf_format (h : Matching format r) (n : ℕ) :
    (CalcHmsf n (.ofRate r) format.isDrop false).1 =
      if format.isDrop = false then nonDropHmsf format.fps n
      else dropHmsf format.fps (if format = kTCFormat60fpsDF then 4 else 2) n := by
  obtain ⟨hfps, hdrop⟩ := h.clock
  rw [CalcHmsf_full h.supported]
  cases hd : format.isDrop with
  | false =>
      rw [hd] at hfps
      rw [if_pos rfl, ← nonDropHmsf_eq_decode (c := rateClock r false false) rfl, hfps]
  | true =>
      rw [hd] at hfps hdrop
      rw [if_neg (by decide), ← dropHmsf_eq_decode, hfps, hdrop rfl]

/-- **The digits of a frame count are digits of the format.** -/
theorem CalcHmsf_format_shows (h : Matching format r) (n : ℕ) :
    format.Shows (CalcHmsf n (.ofRate r) format.isDrop false).1 := by
  obtain ⟨hfps, hdrop⟩ := h.clock
  have hday : 0 < (rateClock r format.isDrop false).day :=
    Nat.mul_pos (DropClock.hour_pos _) (by decide)
  have hshow := DropClock.decode_shows _ (Nat.mod_lt n hday)
  rw [← CalcHmsf_full h.supported] at hshow
  refine ⟨hshow.h_lt, hshow.m_lt, hshow.s_lt, hfps ▸ hshow.f_lt, ?_⟩
  intro hd hs hm
  rw [← hdrop hd]
  exact hshow.not_dropped hs hm

end AJATimeCode

namespace CRP188

variable (x : CRP188)

/-- The digits of a frame count in a known format. -/
lemma ConvertFrameCount_eq (hk : format.Known) (n : ℕ) :
    x.ConvertFrameCount n format =
      if format.isDrop = false then nonDropHmsf format.fps n
      else dropHmsf format.fps (if x.tcFormat = kTCFormat60fpsDF then 4 else 2) n := by
  have hdrop : x.FormatIsDropFrame format = format.isDrop := by
    rw [FormatIsDropFrame, formatOr, if_neg hk]
    rfl
  rw [ConvertFrameCount, hdrop, FramesPerSecond_eq hk]

/-- Dropping two numbers and dropping four differ in the second minute. -/
lemma dropHmsf_two_ne_four (h : format.isDrop = true) :
    ∃ n < 4294967296, dropHmsf format.fps 2 n ≠ dropHmsf format.fps 4 n := by
  cases format with
  | kTCFormat30fpsDF => exact ⟨1800, by decide, by decide +kernel⟩
  | kTCFormat60fpsDF => exact ⟨3600, by decide, by decide +kernel⟩
  | _ => exact absurd h (by decide)

/-- An object in the given format converts as `CalcHmsf` does. -/
lemma ConvertFrameCount_own (h : Matching format r) (hx : x.tcFormat = format) (n : ℕ) :
    x.ConvertFrameCount n format =
      (AJATimeCode.CalcHmsf n (.ofRate r) format.isDrop false).1 := by
  rw [ConvertFrameCount_eq _ h.known, AJATimeCode.CalcHmsf_format h, hx]

/-- **The words of a frame count** are the same on both sides. -/
theorem fields_SetRP188_frames (h : Matching format r) (n : ℕ) :
    (x.SetRP188_frames n format).rp188.fields =
      (AJATimeCode.QueryRP188 n false (.ofRate r) format.isDrop).fields := by
  have hshow := AJATimeCode.CalcHmsf_format_shows h n
  have hw : x.withFormat format = { x with tcFormat := format } := if_pos h.known
  rw [AJATimeCode.fields_QueryRP188 h n hshow, SetRP188_frames, hw]
  simp only [ConvertFrameCount_own _ h]
  exact fields_SetRP188 _ h.known hshow

/-- **The two implementations agree**: the digits of every frame count exactly when the object's
own format drops the numbers of the given one, and the words of every frame count always. -/
theorem agree_iff (h : Matching format r) :
    ((∀ n < 4294967296, x.ConvertFrameCount n format =
        (AJATimeCode.CalcHmsf n (.ofRate r) format.isDrop false).1) ↔
      (format.isDrop = true → (x.tcFormat = kTCFormat60fpsDF ↔ format = kTCFormat60fpsDF))) ∧
    ∀ n < 4294967296, (x.SetRP188_frames n format).rp188.fields =
      (AJATimeCode.QueryRP188 n false (.ofRate r) format.isDrop).fields := by
  refine ⟨?_, fun n _ => x.fields_SetRP188_frames h n⟩
  simp only [ConvertFrameCount_eq _ h.known, AJATimeCode.CalcHmsf_format h]
  cases hd : format.isDrop with
  | false => simp
  | true =>
      obtain ⟨n, hn, hne⟩ := dropHmsf_two_ne_four hd
      simp only [Bool.true_eq_false, if_false, true_imp_iff]
      constructor
      · intro hall
        have heq := hall n hn
        by_cases hx : x.tcFormat = kTCFormat60fpsDF <;>
          by_cases hf : format = kTCFormat60fpsDF
        · exact ⟨fun _ => hf, fun _ => hx⟩
        · rw [if_pos hx, if_neg hf] at heq
          exact absurd heq.symm hne
        · rw [if_neg hx, if_pos hf] at heq
          exact absurd heq hne
        · exact ⟨fun h' => absurd h' hx, fun h' => absurd h' hf⟩
      · intro hiff n _
        simp only [hiff]

/-- An object that nothing was set on: `Init`. -/
def Init : CRP188 where
  tcFormat := kTCFormatUnknown
  bInitialized := false
  bFresh := false
  bVaricamActiveF0 := false
  bVaricamActiveF1 := false
  fieldID := 0
  bDropFrameFlag := false
  bColorFrameFlag := false
  sHMSF := []
  ulVal := ⟨0, 0, 0, 0⟩
  rp188 := ⟨0, 0, 0⟩

/-- An object set to 59.94 drop frame agrees in that format at the start of minute one, in the
digits and in the words. -/
theorem agree_iff_5994DF :
    (Init.withFormat kTCFormat60fpsDF).ConvertFrameCount 3600 kTCFormat60fpsDF =
        (AJATimeCode.CalcHmsf 3600 (.ofRate AJA_FrameRate_5994) true false).1 ∧
    ((Init.withFormat kTCFormat60fpsDF).SetRP188_frames 3600 kTCFormat60fpsDF).rp188.fields =
      (AJATimeCode.QueryRP188 3600 false (.ofRate AJA_FrameRate_5994) true).fields := by
  have hagree := @agree_iff kTCFormat60fpsDF AJA_FrameRate_5994
    (Init.withFormat kTCFormat60fpsDF) ⟨by decide⟩
  have hsame : (Init.withFormat kTCFormat60fpsDF).tcFormat = kTCFormat60fpsDF := rfl
  exact ⟨hagree.1.mpr (fun _ => ⟨fun _ => rfl, fun _ => hsame⟩) 3600 (by decide),
    hagree.2 3600 (by decide)⟩

/-- An object of another format drops two numbers at 59.94 drop frame: frame 3600 becomes
`00:01:00;02` where `CalcHmsf` has `00:01:00;04`. -/
theorem convertFrameCount_drops_two :
    ¬ ∀ (x : CRP188) (format : TimecodeFormat) (r : AJA_FrameRate), Matching format r →
      ∀ n < 4294967296, x.ConvertFrameCount n format =
        (AJATimeCode.CalcHmsf n (.ofRate r) format.isDrop false).1 := by
  intro h
  have h3600 := h (Init.SetRP188_frames 0 kTCFormat30fpsDF) kTCFormat60fpsDF
    AJA_FrameRate_5994 ⟨by decide⟩ 3600 (by decide)
  have hne : (Init.SetRP188_frames 0 kTCFormat30fpsDF).ConvertFrameCount 3600
      kTCFormat60fpsDF ≠
      (AJATimeCode.CalcHmsf 3600 (.ofRate AJA_FrameRate_5994) true false).1 := by
    decide +kernel
  exact hne h3600

end CRP188

end LibAjaNtv2
