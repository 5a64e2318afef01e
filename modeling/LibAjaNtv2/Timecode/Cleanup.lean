import Mathlib.Tactic
import LibAjaNtv2.Lib.Runs
import LibAjaNtv2.Timecode.Text

/-!
Parsing a timecode with stray characters in it.

* `AJATimeCode.skipNonDigits`, `AJATimeCode.findStart`: the two scans towards the front;
* `AJATimeCode.SetWithCleanup`: the frame of the last four numbers of a text;
* `AJATimeCode.cleanupLoop_step`: one round takes the last run of digits;
* `AJATimeCode.cleanupLoop_inBounds`: **when the rounds stay inside the text**;
* `AJATimeCode.cleansUp_iff`: exactly when the parser stays inside and agrees with `Set`.
-/

namespace LibAjaNtv2

open AJA_FrameRate

/-- A text with a length that an index can pass in either direction. -/
structure StdString where
  chars : List Char
  length_lt : chars.length < 9223372036854775808

/-- How the parser fails: a number that no `int` holds is thrown, a read outside the text is not
caught by anything. -/
inductive CleanupError where
  | outOfRange
  | outOfBounds
  deriving DecidableEq, Repr

namespace AJATimeCode

/-! ### The parser -/

/-- From index `i` on towards the front, the first digit. -/
def skipNonDigits (str : List Char) : ℕ → Except CleanupError ℕ
  | 0 =>
      match str[0]? with
      | none => .error .outOfBounds
      -- `i--` wraps to 2⁶⁴ - 1, which is still `>= 0`, and the next read is outside the text
      | some c => if c.isDigit = true then .ok 0 else .error .outOfBounds
  | i + 1 =>
      match str[i + 1]? with
      | none => .error .outOfBounds
      | some c => if c.isDigit = true then .ok (i + 1) else skipNonDigits str i

/-- From index `start` on towards the front, the first digit of the number. -/
def findStart (str : List Char) : ℕ → ℕ
  | 0 => 0
  | start + 1 =>
      if (str.getD start ' ').isDigit = true then findStart str start else start + 1

/-- The value of a number. -/
def digitsValue (numberStr : List Char) : ℕ :=
  numberStr.foldl (fun value c => 10 * value + (c.toNat - 48)) 0

/-- `std::stoi` of digits. -/
def stoi (numberStr : List Char) : Except CleanupError ℕ :=
  if digitsValue numberStr ≤ 2147483647 then .ok (digitsValue numberStr) else .error .outOfRange

/-- The numbers found, and the delimiters before all but the first. -/
structure CleanupState where
  results : List ℕ
  delim : List Char
  deriving DecidableEq, Repr

/-- The loop from index `i` on, with the results up to `slots - 1` still to be filled. -/
def cleanupLoop (str : List Char) : ℕ → ℕ → CleanupState → Except CleanupError CleanupState
  | 0, _, st => .ok st
  | index + 1, i, st =>
      match skipNonDigits str i with
      | .error e => .error e
      | .ok i =>
          let start := findStart str i
          let delim :=
            if 0 < start ∧ 0 < index then st.delim.set (index - 1) (str.getD (start - 1) ' ')
            else st.delim
          match stoi ((str.drop start).take (i - start + 1)) with
          | .error e => .error e
          | .ok value =>
              cleanupLoop str index (toUInt64 ((start : Int) - 2))
                { results := st.results.set index value, delim := delim }

end AJATimeCode

/-- `GetFramesPerSecondDouble`. -/
def AJATimeBase.GetFramesPerSecondDouble (t : AJATimeBase) : ℚ :=
  if t.mFrameDuration ≠ 0 then
    Double.div (Double.ofInt t.mFrameTimeScale) (Double.ofInt t.mFrameDuration)
  else 0

namespace AJATimeCode

/-- `SetWithCleanup`: the frame of the last four numbers, the old one for an empty text. -/
def SetWithCleanup (m_frame : ℕ) (m_stdTcForHfr : Bool) (str : StdString)
    (timeBase : AJATimeBase) (bDrop : Bool) : Except CleanupError ℕ :=
  if str.chars = [] then .ok m_frame
  else
    match cleanupLoop str.chars 4 (str.chars.length - 1)
      { results := [0, 0, 0, 0], delim := [Char.ofNat 0, Char.ofNat 0, Char.ofNat 0] } with
    | .error e => .error e
    | .ok st =>
        let fps := AJATimeCodeRound timeBase.GetFramesPerSecondDouble
        let lastDelim := st.delim.getD 2 (Char.ofNat 0)
        let stdTcForHfr := if lastDelim = '#' then false else m_stdTcForHfr
        let addFrame :=
          if 100 ≤ fps ∧ stdTcForHfr = true ∧ lastDelim = '.' then 2
          else if 48 ≤ fps ∧ stdTcForHfr = true ∧ lastDelim = '.' then 1
          else 0
        .ok (CalcFrame (st.results.getD 0 0) (st.results.getD 1 0) (st.results.getD 2 0)
          (st.results.getD 3 0) timeBase bDrop stdTcForHfr addFrame)

/-! ### The scans -/

variable {str pre run gap suf front : List Char} {i k : ℕ}

/-- Outside the text nothing is found. -/
lemma skipNonDigits_outside (h : str.length ≤ i) :
    skipNonDigits str i = .error .outOfBounds := by
  have hnone : str[i]? = none := List.getElem?_eq_none_iff.mpr h
  cases i with
  | zero => rw [skipNonDigits, hnone]
  | succ i => rw [skipNonDigits, hnone]

/-- Without a digit up to the index the scan leaves the text at its front. -/
lemma skipNonDigits_none (h : ∀ j ≤ i, ∃ c, str[j]? = some c ∧ c.isDigit = false) :
    skipNonDigits str i = .error .outOfBounds := by
  induction i with
  | zero =>
      obtain ⟨c, hc, hdig⟩ := h 0 le_rfl
      simp [skipNonDigits, hc, hdig]
  | succ i ih =>
      obtain ⟨c, hc, hdig⟩ := h (i + 1) le_rfl
      rw [skipNonDigits, hc]
      simp only [hdig, Bool.false_eq_true, if_false]
      exact ih (fun j hj => h j (by omega))

/-- The scan stops at the last digit up to the index. -/
lemma skipNonDigits_hit (hk : k ≤ i) (hhit : ∃ c, str[k]? = some c ∧ c.isDigit = true)
    (h : ∀ j, k < j → j ≤ i → ∃ c, str[j]? = some c ∧ c.isDigit = false) :
    skipNonDigits str i = .ok k := by
  induction i with
  | zero =>
      obtain rfl : k = 0 := by omega
      obtain ⟨c, hc, hdig⟩ := hhit
      simp [skipNonDigits, hc, hdig]
  | succ i ih =>
      rcases Nat.eq_or_lt_of_le hk with rfl | hlt
      · obtain ⟨c, hc, hdig⟩ := hhit
        simp [skipNonDigits, hc, hdig]
      · obtain ⟨c, hc, hdig⟩ := h (i + 1) hlt le_rfl
        rw [skipNonDigits, hc]
        simp only [hdig, Bool.false_eq_true, if_false]
        exact ih (by omega) (fun j hj hj' => h j hj (by omega))

/-- The start of a number is behind the last character that is no digit. -/
lemma findStart_eq (hk : k ≤ i) (hrun : ∀ j, k ≤ j → j < i → (str.getD j ' ').isDigit = true)
    (hpre : k = 0 ∨ (str.getD (k - 1) ' ').isDigit = false) : findStart str i = k := by
  induction i with
  | zero =>
      obtain rfl : k = 0 := by omega
      rfl
  | succ i ih =>
      rcases Nat.eq_or_lt_of_le hk with rfl | hlt
      · have hnot := hpre.resolve_left (by omega)
        rw [Nat.add_sub_cancel] at hnot
        rw [findStart, hnot]
        rfl
      · rw [findStart, hrun i (by omega) (by omega), if_pos rfl]
        exact ih (by omega) (fun j hj hj' => hrun j hj (by omega))

/-! ### One round -/

/-- The digits of the parser. -/
abbrev IsLastNumber (l pre run gap : List Char) : Prop := LastRun Char.isDigit l pre run gap

/-- Where the scans of one round stop: at the last digit, and at the first one of its number. -/
lemma scans_lastNumber {l : List Char} (h : IsLastNumber l pre run gap) (hstr : str = l ++ suf) :
    skipNonDigits str (l.length - 1) = .ok (pre.length + run.length - 1) ∧
      findStart str (pre.length + run.length - 1) = pre.length ∧
      (str.drop pre.length).take (pre.length + run.length - 1 - pre.length + 1) = run := by
  have hpos : 0 < run.length := List.length_pos_iff.mpr h.run_ne_nil
  have hl := h.parts
  have hlen : l.length = pre.length + run.length + gap.length := by
    rw [hl, List.length_append, List.length_append]
  rw [hl] at hstr
  have hinrun : ∀ j, pre.length ≤ j → j < pre.length + run.length →
      ∃ c, str[j]? = some c ∧ c.isDigit = true := by
    intro j hj hj'
    have hlt : j - pre.length < run.length := by omega
    refine ⟨run[j - pre.length], ?_, h.run_all _ (List.getElem_mem hlt)⟩
    rw [hstr, List.append_assoc, List.append_assoc, List.getElem?_append_right hj,
      List.getElem?_append_left hlt, List.getElem?_eq_getElem hlt]
  refine ⟨?_, ?_, ?_⟩
  · refine skipNonDigits_hit (by omega) (hinrun _ (by omega) (by omega)) ?_
    intro j hj hj'
    have hlt : j - (pre ++ run).length < gap.length := by
      rw [List.length_append]
      omega
    refine ⟨gap[j - (pre ++ run).length], ?_, h.gap_none _ (List.getElem_mem hlt)⟩
    rw [hstr, List.append_assoc, List.getElem?_append_right (by
      rw [List.length_append]
      omega), List.getElem?_append_left hlt, List.getElem?_eq_getElem hlt]
  · refine findStart_eq (by omega) ?_ ?_
    · intro j hj hj'
      obtain ⟨c, hc, hdig⟩ := hinrun j hj (by omega)
      rwa [List.getD_eq_getElem?_getD, hc]
    · rcases List.eq_nil_or_concat pre with rfl | ⟨front, c, rfl⟩
      · exact .inl rfl
      · refine .inr ?_
        have hc := h.pre_last c (by simp)
        rw [hstr, List.getD_eq_getElem?_getD]
        simp [hc]
  · rw [hstr, List.append_assoc, List.append_assoc, List.drop_left,
      show pre.length + run.length - 1 - pre.length + 1 = run.length by omega, List.take_left]

/-- **One round takes the last number**, and goes on two characters before it. -/
lemma cleanupLoop_step {l : List Char} (h : IsLastNumber l pre run gap) (hstr : str = l ++ suf)
    (index : ℕ) (st : CleanupState) :
    cleanupLoop str (index + 1) (l.length - 1) st =
      match stoi run with
      | .error e => .error e
      | .ok value => cleanupLoop str index (toUInt64 ((pre.length : Int) - 2))
          { results := st.results.set index value,
            delim := if 0 < pre.length ∧ 0 < index then
                st.delim.set (index - 1) (str.getD (pre.length - 1) ' ')
              else st.delim } := by
  obtain ⟨hskip, hstart, hnumber⟩ := scans_lastNumber h hstr
  rw [cleanupLoop, hskip]
  simp only [hstart, hnumber]

/-! ### All rounds -/

/-- The index is the last one of the front of the text, or outside the text when no front is
left. -/
def AtEndOf (str front : List Char) (i : ℕ) : Prop :=
  front ≠ [] ∧ i = front.length - 1 ∨ front = [] ∧ str.length ≤ i

/-- Two characters before a number the front ends that comes before its separator. -/
lemma atEndOf_next (hlen : str.length < 9223372036854775808) (hpre : pre.length ≤ str.length) :
    AtEndOf str pre.dropLast (toUInt64 ((pre.length : Int) - 2)) := by
  have hdrop : pre.dropLast.length = pre.length - 1 := List.length_dropLast
  rcases Nat.lt_or_ge pre.length 2 with h | h
  · -- nothing is left and the index wraps
    refine .inr ⟨List.eq_nil_of_length_eq_zero (by omega), ?_⟩
    rw [toUInt64]
    omega
  · refine .inl ⟨List.ne_nil_of_length_pos (by omega), ?_⟩
    rw [hdrop]
    exact toUInt64_of_eq (by omega) (by omega)

/-- A run that no `int` holds. -/
def TooBig (run : List Char) : Prop := 2147483647 < digitsValue run

instance (run : List Char) : Decidable (TooBig run) := inferInstanceAs (Decidable (_ < _))

lemma stoi_of_tooBig (h : TooBig run) : stoi run = .error .outOfRange := by
  rw [TooBig] at h
  rw [stoi, if_neg (by omega)]

lemma stoi_of_not_tooBig (h : ¬ TooBig run) : stoi run = .ok (digitsValue run) := by
  rw [TooBig] at h
  rw [stoi, if_pos (by omega)]

/-- The separator before a number belongs to no run. -/
lemma runs_dropLast (h : ∀ c ∈ pre.getLast?, c.isDigit = false) :
    runs Char.isDigit pre.dropLast = runs Char.isDigit pre := by
  rcases List.eq_nil_or_concat pre with rfl | ⟨front, c, rfl⟩
  · rfl
  · have hc : c.isDigit = false := h c (by simp)
    rw [List.concat_eq_append, List.dropLast_concat, runs_append_gap (by simpa using hc)]

/-- **The rounds stay inside the text** exactly when it has a run of digits for each of them, or
a run that no `int` holds ends them. -/
theorem cleanupLoop_inBounds (hlen : str.length < 9223372036854775808) (slots : ℕ)
    (hstr : str = front ++ suf) (hi : AtEndOf str front i) (st : CleanupState) :
    cleanupLoop str slots i st ≠ .error .outOfBounds ↔
      slots ≤ (runs Char.isDigit front).length ∨
        ∃ run ∈ runs Char.isDigit front, TooBig run := by
  induction slots generalizing front suf i st with
  | zero => simp [cleanupLoop]
  | succ index ih =>
      rcases exists_lastRun Char.isDigit front with hnone | ⟨pre, run, gap, h⟩
      · -- no digit is left
        have hscan : skipNonDigits str i = .error .outOfBounds := by
          rcases hi with ⟨hne, rfl⟩ | ⟨-, hout⟩
          · refine skipNonDigits_none fun j hj => ?_
            have hlt : j < front.length := by
              have hpos := List.length_pos_iff.mpr hne
              omega
            refine ⟨front[j], ?_, hnone _ (List.getElem_mem hlt)⟩
            rw [hstr, List.getElem?_append_left hlt, List.getElem?_eq_getElem hlt]
          · exact skipNonDigits_outside hout
        rw [cleanupLoop, hscan, runs_of_none hnone]
        simp
      · have hne : front ≠ [] := by
          rw [h.parts]
          simp [h.run_ne_nil]
        obtain ⟨-, rfl⟩ : front ≠ [] ∧ i = front.length - 1 :=
          hi.resolve_right (fun h' => hne h'.1)
        rw [cleanupLoop_step h hstr, h.runs_eq]
        by_cases hbig : TooBig run
        · rw [stoi_of_tooBig hbig]
          refine ⟨fun _ => .inr ⟨run, by simp, hbig⟩, fun _ => by simp⟩
        · rw [stoi_of_not_tooBig hbig]
          have hpre : pre.length ≤ str.length := by
            rw [hstr, h.parts]
            simp only [List.length_append]
            omega
          obtain ⟨rest, hnext⟩ : pre.dropLast <+: str := by
            rw [hstr, h.parts, List.append_assoc, List.append_assoc]
            exact (List.dropLast_prefix pre).trans (List.prefix_append pre _)
          have hrest := ih hnext.symm (atEndOf_next hlen hpre)
            { results := st.results.set index (digitsValue run),
              delim := if 0 < pre.length ∧ 0 < index then
                  st.delim.set (index - 1) (str.getD (pre.length - 1) ' ')
                else st.delim }
          rw [runs_dropLast h.pre_last] at hrest
          rw [hrest]
          simp [hbig]

/-! ### Four numbers -/

lemma stoi_setw {n : ℕ} (hn : n < 100) : stoi (setw 2 n) = .ok n := by
  have hall : ∀ n < 100, stoi (setw 2 n) = .ok n := by
    decide +kernel
  exact hall n hn

/-- A number at the end of a text is its last one. -/
lemma isLastNumber_setw {n : ℕ} (hn : n < 100) (hpre : ∀ c ∈ pre.getLast?, c.isDigit = false) :
    IsLastNumber (pre ++ setw 2 n) pre (setw 2 n) [] := by
  obtain ⟨htens, -⟩ := @digitChar_spec (n / 10) (by omega)
  obtain ⟨hunits, -⟩ := @digitChar_spec (n % 10) (by omega)
  refine ⟨by rw [List.append_nil], ?_, ?_, by simp, hpre⟩
  · rw [setw_two hn]
    simp
  · rw [setw_two hn]
    simp [htens, hunits]

/-- A round takes a number behind a delimiter. -/
lemma cleanupLoop_number {n : ℕ} {c : Char} (hn : n < 100) (hc : c.isDigit = false)
    (hlen : str.length < 9223372036854775808) (hstr : str = front ++ c :: setw 2 n ++ suf)
    (hfront : front.length = i + 1) (index : ℕ) (results : List ℕ) (delim : List Char) :
    cleanupLoop str (index + 2) (i + 3) ⟨results, delim⟩ =
      cleanupLoop str (index + 1) i ⟨results.set (index + 1) n, delim.set index c⟩ := by
  have hlast : IsLastNumber (front ++ [c] ++ setw 2 n) (front ++ [c]) (setw 2 n) [] :=
    isLastNumber_setw hn (by simpa using hc)
  have hstr' : str = front ++ [c] ++ setw 2 n ++ suf := by
    rw [hstr]
    simp
  have htwo : (setw 2 n).length = 2 := by rw [setw_two hn]; rfl
  have hstep := cleanupLoop_step hlast hstr' (index + 1) ⟨results, delim⟩
  have hfit : front.length + 3 ≤ str.length := by
    rw [hstr']
    simp only [List.length_append, htwo, List.length_singleton]
    omega
  have hend : (front ++ [c] ++ setw 2 n).length - 1 = i + 3 := by
    simp only [List.length_append, htwo, List.length_singleton]
    omega
  have hpre : (front ++ [c]).length = i + 2 := by
    rw [List.length_append, hfront, List.length_singleton]
  have hindex : toUInt64 (((i + 2 : ℕ) : Int) - 2) = i := toUInt64_of_eq (by omega) (by omega)
  have hchar : str.getD (i + 2 - 1) ' ' = c := by
    have hat : i + 2 - 1 = front.length := by omega
    rw [hstr', hat, List.getD_eq_getElem?_getD]
    simp
  rw [hend, stoi_setw hn, hpre] at hstep
  simp only [hindex, hchar] at hstep
  rw [if_pos ⟨by omega, by omega⟩, Nat.add_sub_cancel] at hstep
  exact hstep

/-- The last round takes the number at the front. -/
lemma cleanupLoop_first {n : ℕ} (hn : n < 100) (hstr : str = setw 2 n ++ suf)
    (results : List ℕ) (delim : List Char) :
    cleanupLoop str 1 1 ⟨results, delim⟩ = .ok ⟨results.set 0 n, delim⟩ := by
  have hlast : IsLastNumber ([] ++ setw 2 n) [] (setw 2 n) [] :=
    isLastNumber_setw hn (by simp)
  have htwo : ([] ++ setw 2 n).length - 1 = 1 := by rw [setw_two hn]; rfl
  have hstep := cleanupLoop_step hlast hstr 0 ⟨results, delim⟩
  rw [htwo, stoi_setw hn] at hstep
  exact hstep

/-- **The rounds find the four numbers** and the delimiters between them. -/
lemma cleanupLoop_fourNumbers (x : FourNumbers) (results : List ℕ) (delim : List Char) :
    cleanupLoop x.text 4 (x.text.length - 1) ⟨results, delim⟩ =
      .ok ⟨(((results.set 3 x.t.f).set 2 x.t.s).set 1 x.t.m).set 0 x.t.h,
        ((delim.set 2 x.last).set 1 x.delim₂).set 0 x.delim₁⟩ := by
  have htwo : ∀ {n}, n < 100 → (setw 2 n).length = 2 := fun hn => by rw [setw_two hn]; rfl
  have hlen : x.text.length = 11 := by
    simp [FourNumbers.text, htwo x.h_lt, htwo x.m_lt, htwo x.s_lt, htwo x.f_lt]
  rw [hlen]
  have hfit : x.text.length < 9223372036854775808 := by
    rw [hlen]
    decide
  have hlast : x.text = (setw 2 x.t.h ++ x.delim₁ :: setw 2 x.t.m ++ x.delim₂ :: setw 2 x.t.s) ++
      x.last :: setw 2 x.t.f ++ [] := by simp [FourNumbers.text]
  have hsecond : x.text = (setw 2 x.t.h ++ x.delim₁ :: setw 2 x.t.m) ++
      x.delim₂ :: setw 2 x.t.s ++ x.last :: setw 2 x.t.f := by simp [FourNumbers.text]
  have hfirst : x.text = setw 2 x.t.h ++ x.delim₁ :: setw 2 x.t.m ++
      (x.delim₂ :: setw 2 x.t.s ++ x.last :: setw 2 x.t.f) := by simp [FourNumbers.text]
  have hfront : x.text = setw 2 x.t.h ++ (x.delim₁ :: setw 2 x.t.m ++ x.delim₂ :: setw 2 x.t.s ++
      x.last :: setw 2 x.t.f) := by simp [FourNumbers.text]
  have hh := htwo x.h_lt
  have hm := htwo x.m_lt
  have hs := htwo x.s_lt
  calc cleanupLoop x.text 4 (7 + 3) ⟨results, delim⟩
      = cleanupLoop x.text 3 (4 + 3) ⟨results.set 3 x.t.f, delim.set 2 x.last⟩ :=
        cleanupLoop_number x.f_lt x.last_not_digit hfit hlast (by simp [hh, hm, hs]) 2 _ _
    _ = cleanupLoop x.text 2 (1 + 3) ⟨_, _⟩ :=
        cleanupLoop_number x.s_lt x.delim₂_not_digit hfit hsecond (by simp [hh, hm]) 1 _ _
    _ = cleanupLoop x.text 1 1 ⟨_, _⟩ :=
        cleanupLoop_number x.m_lt x.delim₁_not_digit hfit hfirst (by simp [hh]) 0 _ _
    _ = _ := cleanupLoop_first x.h_lt hfront _ _

/-! ### The parser against `Set` -/

/-- The frames that a point adds by the rounded rate. -/
def roundedDot (timeBase : AJATimeBase) : ℕ :=
  let fps := AJATimeCodeRound timeBase.GetFramesPerSecondDouble
  if 100 ≤ fps then 2 else if 48 ≤ fps then 1 else 0

/-- The frames that a point adds by the named rate. -/
def namedDot (timeBase : AJATimeBase) : ℕ := dotFrames timeBase.GetAJAFrameRate true '.'

/-- A point adds as many frames either way at every rate of the table. -/
lemma roundedDot_ofRate {r : AJA_FrameRate} (hr : r.Supported) :
    roundedDot (.ofRate r) = namedDot (.ofRate r) := by
  cases r with
  | AJA_FrameRate_Unknown => exact absurd rfl hr
  | _ => decide +kernel

-- just too far from 50 frames a second: one frame by the rounded rate, none by the named one
example : roundedDot ⟨500000, 9999⟩ = 1 ∧ namedDot ⟨500000, 9999⟩ = 0 := by decide +kernel

variable {m_frame : ℕ} {m_stdTcForHfr bDrop : Bool} {timeBase : AJATimeBase}

/-- The frames that a point adds, in standard timecode only. -/
lemma addFrame_eq (last : Char) :
    (if 100 ≤ AJATimeCodeRound timeBase.GetFramesPerSecondDouble ∧
        (m_stdTcForHfr && last != '#') = true ∧ last = '.' then 2
      else if 48 ≤ AJATimeCodeRound timeBase.GetFramesPerSecondDouble ∧
        (m_stdTcForHfr && last != '#') = true ∧ last = '.' then 1 else 0) =
      if m_stdTcForHfr = true ∧ last = '.' then roundedDot timeBase else 0 := by
  by_cases h : last = '.'
  · subst h
    rw [roundedDot]
    cases m_stdTcForHfr <;> simp
  · simp [h]

/-- **The frame of a text of four numbers.** -/
lemma SetWithCleanup_fourNumbers (x : FourNumbers) {str : StdString}
    (hstr : str.chars = x.text) :
    SetWithCleanup m_frame m_stdTcForHfr str timeBase bDrop =
      .ok (CalcFrame x.t.h x.t.m x.t.s x.t.f timeBase bDrop (m_stdTcForHfr && x.last != '#')
        (if m_stdTcForHfr = true ∧ x.last = '.' then roundedDot timeBase else 0)) := by
  have hne : x.text ≠ [] := by simp [FourNumbers.text]
  have hstd : (if x.last = '#' then false else m_stdTcForHfr) =
      (m_stdTcForHfr && x.last != '#') := by
    by_cases h : x.last = '#' <;> simp [h]
  rw [SetWithCleanup, hstr, if_neg hne, cleanupLoop_fourNumbers]
  simp only [List.set_cons_succ, List.set_cons_zero, List.getD_cons_succ, List.getD_cons_zero,
    hstd, addFrame_eq]

/-- The frames that `Set` adds for the delimiter. -/
lemma dotFrames_eq (last : Char) :
    dotFrames timeBase.GetAJAFrameRate m_stdTcForHfr last =
      if m_stdTcForHfr = true ∧ last = '.' then namedDot timeBase else 0 := by
  rw [namedDot, dotFrames, dotFrames]
  by_cases h : m_stdTcForHfr = true ∧ last = '.'
  · simp [h]
  · rw [if_neg h, if_neg h]

/-- Few frames added to one count give one frame only if they are as many. -/
lemma CalcFrame_addFrame_inj {h m s f a b : ℕ} (ha : a < 4294967296) (hb : b < 4294967296) :
    CalcFrame h m s f timeBase bDrop true a = CalcFrame h m s f timeBase bDrop true b ↔ a = b := by
  have hadd : ∀ frame : Int, toUInt32 (frame + a) = toUInt32 (frame + b) → a = b := by
    intro frame heq
    rw [toUInt32, toUInt32] at heq
    omega
  constructor
  · intro heq
    exact hadd _ heq
  · rintro rfl
    rfl

/-- What the parser promises: it reads inside the text only, and on four two-digit numbers with
a delimiter between each two it sets the frame that `Set` sets. -/
structure CleansUp (m_frame : ℕ) (m_stdTcForHfr : Bool) (str : StdString)
    (timeBase : AJATimeBase) (bDrop : Bool) : Prop where
  in_bounds : SetWithCleanup m_frame m_stdTcForHfr str timeBase bDrop ≠ .error .outOfBounds
  like_set : ∀ x : FourNumbers, str.chars = x.text →
    SetWithCleanup m_frame m_stdTcForHfr str timeBase bDrop =
      .ok (Set_str m_stdTcForHfr str.chars timeBase bDrop)

/-- The parser stays inside the text when the text is empty, has four runs of digits, or has one
that no `int` holds. -/
lemma SetWithCleanup_inBounds (str : StdString) :
    SetWithCleanup m_frame m_stdTcForHfr str timeBase bDrop ≠ .error .outOfBounds ↔
      str.chars = [] ∨ 4 ≤ (runs Char.isDigit str.chars).length ∨
        ∃ run ∈ runs Char.isDigit str.chars, TooBig run := by
  by_cases hempty : str.chars = []
  · rw [SetWithCleanup, if_pos hempty]
    simp [hempty]
  · have hloop := cleanupLoop_inBounds str.length_lt 4 (List.append_nil str.chars).symm
      (.inl ⟨hempty, rfl⟩) ⟨[0, 0, 0, 0], [Char.ofNat 0, Char.ofNat 0, Char.ofNat 0]⟩
    rw [SetWithCleanup, if_neg hempty, or_iff_right hempty, ← hloop]
    generalize cleanupLoop str.chars 4 (str.chars.length - 1)
      ⟨[0, 0, 0, 0], [Char.ofNat 0, Char.ofNat 0, Char.ofNat 0]⟩ = result
    cases result with
    | error e => simp
    | ok st => simp

/-- **The parser stays inside the text and agrees with `Set`** exactly when the text is empty,
has four runs of digits or one that no `int` holds, and a point before the frames adds as many
frames by the rounded rate as by the named one. -/
theorem cleansUp_iff (str : StdString) :
    CleansUp m_frame m_stdTcForHfr str timeBase bDrop ↔
      (str.chars = [] ∨ 4 ≤ (runs Char.isDigit str.chars).length ∨
        ∃ run ∈ runs Char.isDigit str.chars, TooBig run) ∧
      ∀ x : FourNumbers, str.chars = x.text → m_stdTcForHfr = true → x.last = '.' →
        roundedDot timeBase = namedDot timeBase := by
  have hrounded : roundedDot timeBase < 4294967296 := by
    rw [roundedDot]
    split_ifs <;> decide
  have hnamed : namedDot timeBase < 4294967296 := by
    rw [namedDot, dotFrames]
    split_ifs <;> decide
  have hlike : ∀ x : FourNumbers, str.chars = x.text →
      (SetWithCleanup m_frame m_stdTcForHfr str timeBase bDrop =
          .ok (Set_str m_stdTcForHfr str.chars timeBase bDrop) ↔
        (m_stdTcForHfr = true → x.last = '.' → roundedDot timeBase = namedDot timeBase)) := by
    intro x hx
    rw [SetWithCleanup_fourNumbers x hx, hx, Set_str_fourNumbers, dotFrames_eq]
    by_cases hdot : m_stdTcForHfr = true ∧ x.last = '.'
    · rw [if_pos hdot, if_pos hdot, hdot.1, hdot.2, Except.ok.injEq]
      exact (CalcFrame_addFrame_inj hrounded hnamed).trans
        ⟨fun h _ _ => h, fun h => h rfl rfl⟩
    · rw [if_neg hdot, if_neg hdot]
      exact ⟨fun _ h₁ h₂ => absurd ⟨h₁, h₂⟩ hdot, fun _ => rfl⟩
  constructor
  · intro h
    exact ⟨(SetWithCleanup_inBounds str).mp h.in_bounds,
      fun x hx => (hlike x hx).mp (h.like_set x hx)⟩
  · rintro ⟨hruns, hdot⟩
    exact ⟨(SetWithCleanup_inBounds str).mpr hruns, fun x hx => (hlike x hx).mpr (hdot x hx)⟩

/-- On a partial text such as `10:02` the parser leaves the text at its front. -/
theorem cleanup_leaves_partial_text :
    ¬ CleansUp 0 true ⟨['1', '0', ':', '0', '2'], by decide⟩ (.ofRate AJA_FrameRate_2997) false := by
  intro h
  exact h.in_bounds (by decide +kernel)

end AJATimeCode

end LibAjaNtv2
