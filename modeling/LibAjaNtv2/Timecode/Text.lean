import Mathlib.Tactic
import LibAjaNtv2.Timecode.Rp188Read

/-!
The text of a timecode, written and parsed.

* `AJATimeCode.QueryString`: the text of a frame, in two notations;
* `AJATimeCode.ScanState`, `AJATimeCode.scanChars`: the parser walks the text from its end;
* `AJATimeCode.Set_str`, `AJATimeCode.Set_strInferDrop`: the frame of a text;
* `FourNumbers`, `AJATimeCode.scanChars_fourNumbers`: a text of four two-digit numbers, and what
  the parser finds in it;
* `AJATimeCode.textRestores_iff`: **exactly which frames the text restores**.
-/

namespace LibAjaNtv2

open AJA_FrameRate

/-- How the delimiters are written. -/
inductive AJATimecodeNotation where
  | AJA_TIMECODE_LEGACY
  | AJA_TIMECODE_STANDARD
  deriving DecidableEq, Repr

open AJATimecodeNotation

/-- A number with leading zeros up to a width: `setfill('0') << setw(width) << n`. -/
def setw (width n : ℕ) : List Char := List.leftpad width '0' (Nat.toDigits 10 n)

namespace AJATimeCode

/-! ### Writing -/

/-- Four numbers, the first two delimiters and the one before the frames. -/
def timecodeText (t : Hmsf) (delim last : Char) (width : ℕ) : List Char :=
  setw 2 t.h ++ delim :: setw 2 t.m ++ delim :: setw 2 t.s ++ last :: setw width t.f

/-- `QueryString`: the text of frame `m_frame`. -/
def QueryString (m_frame : ℕ) (timeBase : AJATimeBase) (bDropFrame bStdTcForHfr : Bool)
    (delimiters : AJATimecodeNotation) : List Char :=
  let (t, r) := CalcHmsf m_frame timeBase bDropFrame bStdTcForHfr
  let frameRate := timeBase.GetAJAFrameRate
  let delim := if bDropFrame = true then ';' else ':'
  match delimiters with
  | AJA_TIMECODE_STANDARD =>
      if bStdTcForHfr = true then
        if frameRate ≤ AJA_FrameRate_3000 then timecodeText t delim delim 2
        else if ¬ AJA_FrameRate_10000 ≤ frameRate then
          timecodeText t delim (if r = 0 then delim else '.') 2
        else timecodeText t delim (if r ≤ 1 then delim else '.') 2
      else if ¬ AJA_FrameRate_10000 ≤ frameRate then timecodeText t delim '#' 2
      else timecodeText t delim '#' 3
  | AJA_TIMECODE_LEGACY =>
      if ¬ AJA_FrameRate_10000 ≤ frameRate then timecodeText t ':' delim 2
      else if bStdTcForHfr = true then timecodeText t ':' delim 2
      else timecodeText t ':' delim 3

/-! ### Parsing -/

/-- What the parser has found walking the text from its end: the numbers from the frames on. -/
structure ScanState where
  val : List ℕ
  valOffset : ℕ
  valMult : Int
  addFrame : ℕ
  stdTcForHfr : Bool
  deriving DecidableEq, Repr

/-- One character: a digit of the current number, or the delimiter before it. -/
def scanChar (ajaFrameRate : AJA_FrameRate) (st : ScanState) (theChar : Char) : ScanState :=
  if theChar.isDigit = true then
    { st with
      val := st.val.modify st.valOffset
        (fun v => toUInt32 (v + toInt32 (((theChar.toNat : Int) - 48) * st.valMult)))
      valMult := toInt32 (st.valMult * 10) }
  else
    let st :=
      if st.valOffset = 0 then
        let stdTcForHfr := if theChar = '#' then false else st.stdTcForHfr
        let addFrame :=
          if AJA_FrameRate_10000 ≤ ajaFrameRate ∧ stdTcForHfr = true ∧ theChar = '.' then 2
          else if AJA_FrameRate_4795 ≤ ajaFrameRate ∧ stdTcForHfr = true ∧ theChar = '.' then 1
          else st.addFrame
        { st with stdTcForHfr := stdTcForHfr, addFrame := addFrame }
      else st
    { st with valOffset := st.valOffset + 1, valMult := 1 }

/-- The characters in turn, until four numbers are found. -/
def scanChars (ajaFrameRate : AJA_FrameRate) : List Char → ScanState → ScanState
  | [], st => st
  | theChar :: rest, st =>
      let st := scanChar ajaFrameRate st theChar
      if 4 ≤ st.valOffset then st else scanChars ajaFrameRate rest st

/-- `Set` of a text: the frame of the numbers found from its end. -/
def Set_str (m_stdTcForHfr : Bool) (str : List Char) (timeBase : AJATimeBase)
    (bDropFrame : Bool) : ℕ :=
  let st := scanChars timeBase.GetAJAFrameRate str.reverse
    { val := [0, 0, 0, 0], valOffset := 0, valMult := 1, addFrame := 0,
      stdTcForHfr := m_stdTcForHfr }
  CalcFrame (st.val.getD 3 0) (st.val.getD 2 0) (st.val.getD 1 0) (st.val.getD 0 0) timeBase
    bDropFrame st.stdTcForHfr st.addFrame

/-- `QueryIsDropFrame`: a semicolon anywhere. -/
def QueryIsDropFrame (str : List Char) : Bool := str.contains ';'

/-- `Set` of a text that says itself whether numbers are dropped. -/
def Set_strInferDrop (m_stdTcForHfr : Bool) (str : List Char) (timeBase : AJATimeBase) : ℕ :=
  Set_str m_stdTcForHfr str timeBase (QueryIsDropFrame str)

end AJATimeCode

/-! ### Four numbers -/

/-- A text of four two-digit numbers with a delimiter between each two. -/
structure FourNumbers where
  t : Hmsf
  delim₁ : Char
  delim₂ : Char
  last : Char
  h_lt : t.h < 100
  m_lt : t.m < 100
  s_lt : t.s < 100
  f_lt : t.f < 100
  delim₁_not_digit : delim₁.isDigit = false
  delim₂_not_digit : delim₂.isDigit = false
  last_not_digit : last.isDigit = false

/-- The digit of a number. -/
def digitChar (d : ℕ) : Char := Char.ofNat (48 + d)

/-- The text of the four numbers. -/
def FourNumbers.text (x : FourNumbers) : List Char :=
  setw 2 x.t.h ++ x.delim₁ :: setw 2 x.t.m ++ x.delim₂ :: setw 2 x.t.s ++ x.last :: setw 2 x.t.f

lemma setw_two {n : ℕ} (h : n < 100) : setw 2 n = [digitChar (n / 10), digitChar (n % 10)] := by
  have hall : ∀ n < 100, setw 2 n = [digitChar (n / 10), digitChar (n % 10)] := by
    decide +kernel
  exact hall n h

/-- A digit is one, and says its value. -/
lemma digitChar_spec {d : ℕ} (h : d < 10) :
    (digitChar d).isDigit = true ∧ ((digitChar d).toNat : Int) - 48 = d := by
  have hall : ∀ d < 10, (digitChar d).isDigit = true ∧ ((digitChar d).toNat : Int) - 48 = d := by
    decide
  exact hall d h

namespace AJATimeCode

variable {ajaFrameRate : AJA_FrameRate} {st : ScanState} {rest : List Char}

/-- A digit counts for the current number. -/
lemma scanChar_digit {c : Char} (hc : c.isDigit = true) :
    scanChar ajaFrameRate st c =
      { st with
        val := st.val.modify st.valOffset
          (fun v => toUInt32 (v + toInt32 (((c.toNat : Int) - 48) * st.valMult)))
        valMult := toInt32 (st.valMult * 10) } := by
  rw [scanChar, if_pos hc]

/-- A delimiter behind the frames ends a number. -/
lemma scanChar_delim {c : Char} (hc : c.isDigit = false) {val : List ℕ} {off add : ℕ}
    {mult : Int} {std : Bool} (hoff : off ≠ 0) :
    scanChar ajaFrameRate ⟨val, off, mult, add, std⟩ c = ⟨val, off + 1, 1, add, std⟩ := by
  rw [scanChar, if_neg (by simp [hc])]
  simp only [if_neg hoff]

/-- The two digits of a number, read from its end. -/
lemma scanChars_number {n : ℕ} (hn : n < 100) {val : List ℕ} {off add : ℕ} {std : Bool}
    (hoff : off < 4) (hval : val[off]? = some 0) :
    scanChars ajaFrameRate ((setw 2 n).reverse ++ rest) ⟨val, off, 1, add, std⟩ =
      scanChars ajaFrameRate rest ⟨val.set off n, off, 100, add, std⟩ := by
  obtain ⟨htens, htens'⟩ := @digitChar_spec (n / 10) (by omega)
  obtain ⟨hunits, hunits'⟩ := @digitChar_spec (n % 10) (by omega)
  have hfirst : scanChar ajaFrameRate ⟨val, off, 1, add, std⟩ (digitChar (n % 10)) =
      ⟨val.set off (n % 10), off, 10, add, std⟩ := by
    have hword : toUInt32 ((0 : ℕ) + toInt32 (((n % 10 : ℕ) : Int) * 1)) = n % 10 := by
      rw [mul_one, toInt32_natCast (by omega)]
      exact toUInt32_of_eq (by simp) (by omega)
    rw [scanChar_digit hunits, hunits', List.modify_eq_set_getElem?, hval]
    simp only [Option.map_eq_map, Option.map_some, Option.getD_some, hword]
    rfl
  have hsecond : scanChar ajaFrameRate ⟨val.set off (n % 10), off, 10, add, std⟩
      (digitChar (n / 10)) = ⟨val.set off n, off, 100, add, std⟩ := by
    have hget : (val.set off (n % 10))[off]? = some (n % 10) := by
      obtain ⟨hlt, -⟩ := List.getElem?_eq_some_iff.mp hval
      rw [List.getElem?_set_self hlt]
    have hword : toUInt32 ((n % 10 : ℕ) + toInt32 (((n / 10 : ℕ) : Int) * 10)) = n := by
      have hprod : ((n / 10 : ℕ) : Int) * 10 = (n / 10 * 10 : ℕ) := by push_cast; ring
      rw [hprod, toInt32_natCast (by omega)]
      exact toUInt32_of_eq (by omega) (by omega)
    rw [scanChar_digit htens, htens', List.modify_eq_set_getElem?]
    simp only [hget, Option.map_eq_map, Option.map_some, Option.getD_some, hword, List.set_set]
    rfl
  have hlow : ¬ 4 ≤ off := by omega
  rw [setw_two hn]
  simp only [List.reverse_cons, List.reverse_nil, List.nil_append, List.cons_append,
    scanChars, hfirst, hsecond, if_neg hlow]

/-- A delimiter behind the frames, more text to come. -/
lemma scanChars_delim {c : Char} (hc : c.isDigit = false) {val : List ℕ} {off add : ℕ}
    {mult : Int} {std : Bool} (hoff : off ≠ 0) (hlt : off < 3) :
    scanChars ajaFrameRate (c :: rest) ⟨val, off, mult, add, std⟩ =
      scanChars ajaFrameRate rest ⟨val, off + 1, 1, add, std⟩ := by
  have hlow : ¬ 4 ≤ off + 1 := by omega
  simp only [scanChars, scanChar_delim hc hoff, if_neg hlow]

/-- The frames that a point before the frame number adds in standard timecode. -/
def dotFrames (frameRate : AJA_FrameRate) (stdTcForHfr : Bool) (last : Char) : ℕ :=
  if stdTcForHfr = true ∧ last = '.' then
    if AJA_FrameRate_10000 ≤ frameRate then 2
    else if AJA_FrameRate_4795 ≤ frameRate then 1
    else 0
  else 0

/-- The delimiter before the frames: a number sign leaves the standard timecode, a point adds
frames to it. -/
lemma scanChars_last {c : Char} (hc : c.isDigit = false) {val : List ℕ} {mult : Int}
    {std : Bool} :
    scanChars ajaFrameRate (c :: rest) ⟨val, 0, mult, 0, std⟩ =
      scanChars ajaFrameRate rest ⟨val, 1, 1, dotFrames ajaFrameRate std c, std && c != '#'⟩ := by
  have hstd : (if c = '#' then false else std) = (std && c != '#') := by
    by_cases h : c = '#' <;> simp [h]
  have hframes : (if AJA_FrameRate_10000 ≤ ajaFrameRate ∧ (std && c != '#') = true ∧
        c = '.' then 2
      else if AJA_FrameRate_4795 ≤ ajaFrameRate ∧ (std && c != '#') = true ∧
        c = '.' then 1 else 0) = dotFrames ajaFrameRate std c := by
    by_cases h : c = '.'
    · subst h
      rw [dotFrames]
      cases std <;> simp
    · simp [dotFrames, h]
  have hscan : scanChar ajaFrameRate ⟨val, 0, mult, 0, std⟩ c =
      ⟨val, 1, 1, dotFrames ajaFrameRate std c, std && c != '#'⟩ := by
    rw [scanChar, if_neg (by simp [hc])]
    simp only [if_pos, hstd, hframes]
  have hlow : ¬ 4 ≤ 1 := by decide
  simp only [scanChars, hscan, if_neg hlow]

/-- **The parser finds the four numbers**, with what the delimiter before the frames says. -/
lemma scanChars_fourNumbers (x : FourNumbers) (m_stdTcForHfr : Bool) :
    scanChars ajaFrameRate x.text.reverse
        { val := [0, 0, 0, 0], valOffset := 0, valMult := 1, addFrame := 0,
          stdTcForHfr := m_stdTcForHfr } =
      { val := [x.t.f, x.t.s, x.t.m, x.t.h], valOffset := 3, valMult := 100,
        addFrame := dotFrames ajaFrameRate m_stdTcForHfr x.last,
        stdTcForHfr := m_stdTcForHfr && x.last != '#' } := by
  have hrev : x.text.reverse = (setw 2 x.t.f).reverse ++ x.last :: ((setw 2 x.t.s).reverse ++
      x.delim₂ :: ((setw 2 x.t.m).reverse ++ x.delim₁ :: ((setw 2 x.t.h).reverse ++ []))) := by
    simp [FourNumbers.text]
  rw [hrev, scanChars_number x.f_lt (by decide) rfl, scanChars_last x.last_not_digit,
    scanChars_number x.s_lt (by decide) rfl,
    scanChars_delim x.delim₂_not_digit (by decide) (by decide),
    scanChars_number x.m_lt (by decide) rfl,
    scanChars_delim x.delim₁_not_digit (by decide) (by decide),
    scanChars_number x.h_lt (by decide) rfl]
  rfl

/-- **The frame of a text of four numbers.** -/
theorem Set_str_fourNumbers (x : FourNumbers) (m_stdTcForHfr : Bool) (timeBase : AJATimeBase)
    (bDropFrame : Bool) :
    Set_str m_stdTcForHfr x.text timeBase bDropFrame =
      CalcFrame x.t.h x.t.m x.t.s x.t.f timeBase bDropFrame (m_stdTcForHfr && x.last != '#')
        (dotFrames timeBase.GetAJAFrameRate m_stdTcForHfr x.last) := by
  rw [Set_str, scanChars_fourNumbers]
  rfl

/-! ### The text of a frame -/

variable {r : AJA_FrameRate} {bDropFrame bStdTcForHfr : Bool} {n : ℕ}

/-- The delimiter between hours, minutes and seconds. -/
def delimOf (bDropFrame : Bool) : Char := if bDropFrame = true then ';' else ':'

/-- The delimiter before the frames in standard notation. -/
def lastDelim (r : AJA_FrameRate) (bDropFrame bStdTcForHfr : Bool) (remainder : ℕ) : Char :=
  if bStdTcForHfr = true then
    if AJA_FrameRate_10000 ≤ r ∧ 2 ≤ remainder then '.'
    else if AJA_FrameRate_4795 ≤ r ∧ ¬ AJA_FrameRate_10000 ≤ r ∧ remainder ≠ 0 then '.'
    else delimOf bDropFrame
  else '#'

/-- The four numbers of digits in range. -/
def numbersOf {c : DropClock} {t : Hmsf} (ht : c.Shows t) (hfps : c.fps ≤ 100)
    (bDropFrame bStdTcForHfr : Bool) (r : AJA_FrameRate) (remainder : ℕ) : FourNumbers where
  t := t
  delim₁ := delimOf bDropFrame
  delim₂ := delimOf bDropFrame
  last := lastDelim r bDropFrame bStdTcForHfr remainder
  h_lt := ht.h_lt.trans (by decide)
  m_lt := ht.m_lt.trans (by decide)
  s_lt := ht.s_lt.trans (by decide)
  f_lt := ht.f_lt.trans_le hfps
  delim₁_not_digit := by cases bDropFrame <;> decide
  delim₂_not_digit := by cases bDropFrame <;> decide
  last_not_digit := by
    have hdelim : (delimOf bDropFrame).isDigit = false := by cases bDropFrame <;> decide
    rw [lastDelim]
    split_ifs
    · rfl
    · rfl
    · exact hdelim
    · rfl

lemma rate_le_iff (hr : r.Supported) :
    r ≤ AJA_FrameRate_3000 ↔ ¬ AJA_FrameRate_4795 ≤ r := by
  cases r <;> decide

/-- The highest rates are above 47.95. -/
lemma le_4795_of_le_10000 (h : AJA_FrameRate_10000 ≤ r) : AJA_FrameRate_4795 ≤ r :=
  show AJA_FrameRate_4795.ctorIdx ≤ r.ctorIdx from
    Nat.le_trans (by decide) (show AJA_FrameRate_10000.ctorIdx ≤ r.ctorIdx from h)

lemma le_2398_of_le_10000 (h : AJA_FrameRate_10000 ≤ r) : AJA_FrameRate_2398 ≤ r :=
  show AJA_FrameRate_2398.ctorIdx ≤ r.ctorIdx from
    Nat.le_trans (by decide) (show AJA_FrameRate_10000.ctorIdx ≤ r.ctorIdx from h)

/-- **The text of a frame is four numbers.** -/
lemma QueryString_eq (hr : r.Supported) (hn : n < framesPerDay r bDropFrame bStdTcForHfr)
    (htwo : ¬ AJA_FrameRate_10000 ≤ r ∨ bStdTcForHfr = true)
    (hfps : (rateClock r bDropFrame bStdTcForHfr).fps ≤ 100) :
    QueryString n (.ofRate r) bDropFrame bStdTcForHfr AJA_TIMECODE_STANDARD =
      (numbersOf (CalcHmsf_shows hr hn) hfps bDropFrame bStdTcForHfr r
        (CalcHmsf n (.ofRate r) bDropFrame bStdTcForHfr).2).text := by
  have htext : ∀ last, lastDelim r bDropFrame bStdTcForHfr
      (CalcHmsf n (.ofRate r) bDropFrame bStdTcForHfr).2 = last →
      timecodeText (CalcHmsf n (.ofRate r) bDropFrame bStdTcForHfr).1 (delimOf bDropFrame) last 2 =
        (numbersOf (CalcHmsf_shows hr hn) hfps bDropFrame bStdTcForHfr r
          (CalcHmsf n (.ofRate r) bDropFrame bStdTcForHfr).2).text := by
    rintro last rfl
    rfl
  have hdelim : (if bDropFrame = true then ';' else ':') = delimOf bDropFrame := rfl
  rw [QueryString, GetAJAFrameRate_ofRate hr]
  simp only [hdelim]
  cases bStdTcForHfr with
  | false =>
      have hlow := htwo.resolve_right (by decide)
      rw [if_neg (by decide), if_pos hlow]
      exact htext '#' rfl
  | true =>
      generalize (CalcHmsf n (.ofRate r) bDropFrame true).2 = remainder at htext
      have hiff := rate_le_iff hr
      rw [if_pos rfl]
      by_cases h₁ : AJA_FrameRate_4795 ≤ r
      · rw [if_neg (fun h => hiff.mp h h₁)]
        by_cases h₂ : AJA_FrameRate_10000 ≤ r
        · rw [if_neg (not_not.mpr h₂)]
          refine htext _ ?_
          rcases Nat.lt_or_ge remainder 2 with h₃ | h₃
          · rw [if_pos (by omega), lastDelim, if_pos rfl, if_neg (fun h => by omega),
              if_neg (fun h => h.2.1 h₂)]
          · rw [if_neg (by omega), lastDelim, if_pos rfl, if_pos ⟨h₂, h₃⟩]
        · rw [if_pos h₂]
          refine htext _ ?_
          by_cases h₃ : remainder = 0
          · rw [if_pos h₃, lastDelim, if_pos rfl, if_neg (fun h => h₂ h.1),
              if_neg (fun h => h.2.2 h₃)]
          · rw [if_neg h₃, lastDelim, if_pos rfl, if_neg (fun h => h₂ h.1),
              if_pos ⟨h₁, h₂, h₃⟩]
      · rw [if_pos (hiff.mpr h₁)]
        refine htext _ ?_
        have h₂ : ¬ AJA_FrameRate_10000 ≤ r := fun h => h₁ (le_4795_of_le_10000 h)
        rw [lastDelim, if_pos rfl, if_neg (fun h => h₂ h.1), if_neg (fun h => h₁ h.1)]

/-- The semicolon says that numbers are dropped. -/
lemma QueryIsDropFrame_numbersOf {c : DropClock} {t : Hmsf} (ht : c.Shows t) (hfps : c.fps ≤ 100)
    (remainder : ℕ) :
    QueryIsDropFrame (numbersOf ht hfps bDropFrame bStdTcForHfr r remainder).text = bDropFrame := by
  generalize hx : numbersOf ht hfps bDropFrame bStdTcForHfr r remainder = x
  have hdelim : x.delim₁ = delimOf bDropFrame := by rw [← hx]; rfl
  have hdelim' : x.delim₂ = delimOf bDropFrame := by rw [← hx]; rfl
  cases bDropFrame with
  | true =>
      rw [QueryIsDropFrame, List.contains_iff_mem, FourNumbers.text, hdelim]
      simp [delimOf]
  | false =>
      have hlast : x.last ≠ ';' := by
        have heq : x.last = lastDelim r false bStdTcForHfr remainder := by rw [← hx]; rfl
        rw [heq, lastDelim]
        split_ifs <;> decide
      have hdigits : ∀ n < 100, ';' ∉ setw 2 n := by
        decide +kernel
      rw [QueryIsDropFrame, Bool.eq_false_iff, ne_eq, List.contains_iff_mem, FourNumbers.text,
        hdelim, hdelim']
      simp [delimOf, hdigits _ x.h_lt, hdigits _ x.m_lt, hdigits _ x.s_lt, hdigits _ x.f_lt,
        hlast.symm]

/-! ### Reading the text back -/

/-- Standard timecode or a rate below 100 leaves at most 60 frames in a second. -/
lemma rateClock_fps_le_hundred (htwo : ¬ AJA_FrameRate_10000 ≤ r ∨ bStdTcForHfr = true) :
    (rateClock r bDropFrame bStdTcForHfr).fps ≤ 100 := by
  have hle := rateClock_fps_le r bDropFrame bStdTcForHfr
  have hnot : ¬ (bStdTcForHfr = false ∧ AJA_FrameRate_10000 ≤ r) := by
    rintro ⟨hstd, hhigh⟩
    rcases htwo with h | h
    · exact h hhigh
    · rw [hstd] at h
      exact absurd h (by decide)
  rw [if_neg hnot] at hle
  split_ifs at hle <;> omega

/-- The delimiter says how the frames were counted. -/
lemma lastDelim_std (remainder : ℕ) {m_stdTcForHfr : Bool}
    (hm : bStdTcForHfr = true → m_stdTcForHfr = true) :
    (m_stdTcForHfr && lastDelim r bDropFrame bStdTcForHfr remainder != '#') = bStdTcForHfr := by
  cases bStdTcForHfr with
  | false => simp [lastDelim]
  | true =>
      have hne : lastDelim r bDropFrame true remainder ≠ '#' := by
        rw [lastDelim, if_pos rfl, delimOf]
        split_ifs <;> decide
      rw [hm rfl, bne_iff_ne.mpr hne]
      rfl

/-- The frames that the delimiter adds: the remainder below 100 frames per second, above that
none or two. -/
lemma dotFrames_lastDelim (m_stdTcForHfr : Bool)
    (hm : bStdTcForHfr = true → m_stdTcForHfr = true) :
    dotFrames r m_stdTcForHfr
        (lastDelim r bDropFrame bStdTcForHfr (n % hfrDivisor r bStdTcForHfr)) =
      if AJA_FrameRate_10000 ≤ r ∧ bStdTcForHfr = true then
        n % hfrDivisor r bStdTcForHfr / 2 * 2
      else n % hfrDivisor r bStdTcForHfr := by
  have hdelim : delimOf bDropFrame ≠ '.' := by cases bDropFrame <;> decide
  cases bStdTcForHfr with
  | false => simp [lastDelim, dotFrames, hfrDivisor_of_full, Nat.mod_one]
  | true =>
      rw [hm rfl, lastDelim, if_pos rfl]
      by_cases h₁ : AJA_FrameRate_10000 ≤ r
      · have hdiv : hfrDivisor r true = 4 := by rw [hfrDivisor, if_pos ⟨h₁, rfl⟩]
        have hlt : n % 4 < 4 := Nat.mod_lt _ (by decide)
        rw [hdiv, if_pos (show _ ∧ true = true from ⟨h₁, rfl⟩)]
        rcases Nat.lt_or_ge (n % 4) 2 with h₂ | h₂
        · rw [if_neg (fun h => by omega), if_neg (fun h => h.2.1 h₁), dotFrames,
            if_neg (fun h => hdelim h.2), Nat.div_eq_of_lt h₂]
        · rw [if_pos ⟨h₁, h₂⟩, dotFrames, if_pos ⟨rfl, rfl⟩, if_pos h₁]
          omega
      · rw [if_neg (show ¬ (_ ∧ true = true) from fun h => h₁ h.1), if_neg (fun h => h₁ h.1)]
        by_cases h₂ : AJA_FrameRate_4795 ≤ r
        · have hdiv : hfrDivisor r true = 2 := by
            rw [hfrDivisor, if_neg (fun h => h₁ h.1), if_pos ⟨h₂, rfl⟩]
          have hlt : n % 2 < 2 := Nat.mod_lt _ (by decide)
          rw [hdiv]
          by_cases h₃ : n % 2 = 0
          · rw [if_neg (fun h => h.2.2 h₃), dotFrames, if_neg (fun h => hdelim h.2), h₃]
          · rw [if_pos ⟨h₂, h₁, h₃⟩, dotFrames, if_pos ⟨rfl, rfl⟩, if_neg h₁, if_pos h₂]
            omega
        · have hdiv : hfrDivisor r true = 1 := by
            rw [hfrDivisor, if_neg (fun h => h₁ h.1), if_neg (fun h => h₂ h.1)]
          rw [hdiv, if_neg (fun h => h₂ h.1), dotFrames, if_neg (fun h => hdelim h.2),
            Nat.mod_one]

/-- What the text of a frame promises: parsed with the drop flag or without it, it gives the
frame back, and in standard timecode at 100 frames per second and more one next to it. -/
structure TextRestores (r : AJA_FrameRate) (bDropFrame bStdTcForHfr m_stdTcForHfr : Bool)
    (n : ℕ) : Prop where
  exact_below : ¬ AJA_FrameRate_10000 ≤ r →
    let str := QueryString n (.ofRate r) bDropFrame bStdTcForHfr AJA_TIMECODE_STANDARD
    Set_str m_stdTcForHfr str (.ofRate r) bDropFrame = n ∧
      Set_strInferDrop m_stdTcForHfr str (.ofRate r) = n
  close_above : AJA_FrameRate_10000 ≤ r → bStdTcForHfr = true →
    let str := QueryString n (.ofRate r) bDropFrame bStdTcForHfr AJA_TIMECODE_STANDARD
    |(Set_str m_stdTcForHfr str (.ofRate r) bDropFrame : Int) - n| ≤ 1 ∧
      |(Set_strInferDrop m_stdTcForHfr str (.ofRate r) : Int) - n| ≤ 1

/-- The two parsers agree on the text, and count its digits with what the delimiter adds. -/
lemma Set_str_QueryString (hr : r.Supported) (hn : n < framesPerDay r bDropFrame bStdTcForHfr)
    (htwo : ¬ AJA_FrameRate_10000 ≤ r ∨ bStdTcForHfr = true) {m_stdTcForHfr : Bool}
    (hm : bStdTcForHfr = true → m_stdTcForHfr = true) {x : Hmsf × ℕ} {str : List Char}
    (hx : x = CalcHmsf n (.ofRate r) bDropFrame bStdTcForHfr)
    (hstr : str = QueryString n (.ofRate r) bDropFrame bStdTcForHfr AJA_TIMECODE_STANDARD) :
    Set_str m_stdTcForHfr str (.ofRate r) bDropFrame =
        CalcFrame x.1.h x.1.m x.1.s x.1.f (.ofRate r) bDropFrame bStdTcForHfr
          (if AJA_FrameRate_10000 ≤ r ∧ bStdTcForHfr = true then x.2 / 2 * 2 else x.2) ∧
      Set_strInferDrop m_stdTcForHfr str (.ofRate r) =
        Set_str m_stdTcForHfr str (.ofRate r) bDropFrame := by
  have hfps := @rateClock_fps_le_hundred r bDropFrame bStdTcForHfr htwo
  subst hx
  have hrem : (CalcHmsf n (.ofRate r) bDropFrame bStdTcForHfr).2 = n % hfrDivisor r bStdTcForHfr := by
    rw [CalcHmsf_eq_decode hr hn]
  rw [QueryString_eq hr hn htwo hfps] at hstr
  refine ⟨?_, ?_⟩
  · rw [hstr, Set_str_fourNumbers, GetAJAFrameRate_ofRate hr]
    simp only [numbersOf]
    rw [lastDelim_std _ hm, hrem, dotFrames_lastDelim _ hm]
  · rw [Set_strInferDrop, hstr, QueryIsDropFrame_numbersOf]

/-- In standard timecode at the highest rates the text gives the frame or the one before it. -/
lemma CalcFrame_close (hr : r.Supported) (hhigh : AJA_FrameRate_10000 ≤ r)
    (hn : n < framesPerDay r bDropFrame true) {x : Hmsf × ℕ}
    (hx : x = CalcHmsf n (.ofRate r) bDropFrame true) :
    CalcFrame x.1.h x.1.m x.1.s x.1.f (.ofRate r) bDropFrame true (x.2 / 2 * 2) =
      n / 2 * 2 := by
  have hdiv : hfrDivisor r true = 4 := by rw [hfrDivisor, if_pos ⟨hhigh, rfl⟩]
  have hround : ¬ RoundedUp r bDropFrame true (n / 4) := by
    rintro ⟨-, hlow, -⟩
    exact hlow (le_2398_of_le_10000 hhigh)
  have hk := div_lt_day hn
  rw [CalcHmsf_eq_decode hr hn] at hx
  rw [hdiv] at hk hx
  have hcount := (countOf_decode hr hk).2.mpr hround
  have hlt : n / 2 * 2 < framesPerDay r bDropFrame true := by omega
  have hquot : n / 2 * 2 / 4 = n / 4 := by omega
  have hmod : n / 2 * 2 % 4 = n % 4 / 2 * 2 := by omega
  have hcalc := @CalcFrame_of_count r bDropFrame true (n / 2 * 2) hr hlt x.1
    (by rw [hdiv, hquot, hx, hcount]; omega)
  rw [hdiv, hmod] at hcalc
  rw [hx] at hcalc ⊢
  rw [hcalc, hcount]
  omega

/-- **The text of a frame restores it** unless its digits are rounded up. -/
theorem textRestores_iff (hr : r.Supported) (hn : n < framesPerDay r bDropFrame bStdTcForHfr)
    {m_stdTcForHfr : Bool} (hm : bStdTcForHfr = true → m_stdTcForHfr = true) :
    TextRestores r bDropFrame bStdTcForHfr m_stdTcForHfr n ↔
      ¬ RoundedUp r bDropFrame bStdTcForHfr n := by
  by_cases hhigh : AJA_FrameRate_10000 ≤ r
  · have hround : ¬ RoundedUp r bDropFrame bStdTcForHfr n := by
      rintro ⟨-, hlow, -⟩
      exact hlow (le_2398_of_le_10000 hhigh)
    refine ⟨fun _ => hround, fun _ => ⟨fun h => absurd hhigh h, ?_⟩⟩
    rintro - hstd
    subst hstd
    have hset := @Set_str_QueryString r bDropFrame true n hr hn (.inr rfl) m_stdTcForHfr hm
      _ _ rfl rfl
    rw [if_pos ⟨hhigh, rfl⟩, CalcFrame_close hr hhigh hn rfl] at hset
    simp only [hset.2, hset.1]
    rw [and_self, abs_le]
    omega
  · have hset := @Set_str_QueryString r bDropFrame bStdTcForHfr n hr hn (.inl hhigh)
      m_stdTcForHfr hm _ _ rfl rfl
    rw [if_neg (fun h => hhigh h.1)] at hset
    rw [← countsBack_iff hr hn, CountsBack]
    constructor
    · intro h
      rw [← hset.1]
      exact (h.exact_below hhigh).1
    · intro h
      refine ⟨fun _ => ⟨hset.1.trans h, hset.2.trans (hset.1.trans h)⟩, fun h' => absurd h' hhigh⟩

/-- At 59.94 frames per second with drops the second frame of a pair is restored through the
point before the frame number. -/
theorem textRestores_iff_5994 : TextRestores AJA_FrameRate_5994 true true true 3597 :=
  (textRestores_iff (by decide) (by decide +kernel) (fun _ => rfl)).mpr (by decide +kernel)

/-- At 15 frames per second with drops the text of frame 900 gives 901. -/
theorem text_rounds_up : ¬ TextRestores AJA_FrameRate_1500 true true true 900 := by
  intro h
  have hset := (h.exact_below (by decide)).1
  exact absurd hset (by decide +kernel)

end AJATimeCode

end LibAjaNtv2
