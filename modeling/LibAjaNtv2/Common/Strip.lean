import LibAjaNtv2.Lib.Affix
import LibAjaNtv2.Rpc.Dictionary

/-!
Trimming, and the tests of a string's ends (`common.cpp`).

* `findFirstNotOf`, `findLastNotOf`, `rfind`, `erase`: the operations of strings that they use;
* `Aja.lstripString`, `Aja.rstripString`, `Aja.stripString`: the trimming of white space;
* `Aja.startsWith`, `Aja.endsWith`: the tests;
* `Aja.TrimsAndTests`: what they are for;
* `Aja.trimsAndTests_iff`: **when they do that**: the string is not all white space, and is not what
  it is tested to end with.
-/

namespace LibAjaNtv2

/-! ### Strings -/

/-- `std::string::npos`, the result of a search that finds nothing. -/
def npos : ℕ := 2 ^ 64 - 1

namespace StdString

/-- `find_first_not_of`. -/
def findFirstNotOf (str ws : ByteString) : ℕ :=
  let pos := str.findIdx fun c => !decide (c ∈ ws)
  if pos < str.length then pos else npos

/-- `find_last_not_of`. -/
def findLastNotOf (str ws : ByteString) : ℕ :=
  let count := str.reverse.findIdx fun c => !decide (c ∈ ws)
  if count < str.length then str.length - 1 - count else npos

/-- `erase`: it throws where the position is beyond the end. -/
def erase (str : ByteString) (pos count : ℕ) : Option ByteString :=
  if pos ≤ str.length then some (str.take pos ++ str.drop (pos + count)) else none

/-- The last place of a string that is not behind a position. -/
def rfindFrom (str needle : ByteString) : ℕ → ℕ
  | 0 => if needle.isPrefixOf str then 0 else npos
  | pos + 1 => if needle.isPrefixOf (str.drop (pos + 1)) then pos + 1 else rfindFrom str needle pos

/-- `rfind`. -/
def rfind (str needle : ByteString) (pos : ℕ) : ℕ :=
  if needle.length ≤ str.length then rfindFrom str needle (min pos (str.length - needle.length))
  else npos

end StdString

namespace Aja

open StdString

/-! ### Trimming and tests -/

/-- `aja::lstrip`. -/
def lstripString (str ws : ByteString) : Option ByteString := erase str 0 (findFirstNotOf str ws)

/-- `aja::rstrip`. The position behind the last one that stays wraps around. -/
def rstripString (str ws : ByteString) : Option ByteString :=
  if str ≠ [] then erase str ((findLastNotOf str ws + 1) % 2 ^ 64) (str.length - 1) else some str

/-- `aja::strip`. -/
def stripString (str ws : ByteString) : Option ByteString := do
  let str ← lstripString str ws
  rstripString str ws

/-- `aja::starts_with`. -/
def startsWith (str needle : ByteString) : Bool := str.take needle.length = needle

/-- `aja::starts_with` of one character. -/
def startsWithChar (str : ByteString) (needle : Byte) : Bool :=
  match str with
  | [] => false
  | c :: _ => c = needle

/-- `aja::ends_with`. -/
def endsWith (str needle : ByteString) : Bool :=
  if needle.length < str.length then
    let idx := str.length - needle.length
    rfind str needle idx = idx
  else false

/-- `aja::ends_with` of one character: the position before the end of an empty string wraps
around. -/
def endsWithChar (str : ByteString) (needle : Byte) : Bool :=
  let idx := (str.length + npos) % 2 ^ 64
  rfind str [needle] idx = idx

variable {str ws needle w : ByteString}

/-- White space is trimmed off the front. -/
lemma lstrip_eq (ws : ByteString) (hlen : str.length < npos) :
    ∃ r w, lstripString str ws = some r ∧ LongestPrefix (· ∈ ws) w str ∧ str = w ++ r := by
  refine ⟨str.drop (str.findIdx fun c => !decide (c ∈ ws)), _, ?_,
    longestPrefix_take_findIdx (· ∈ ws) str, (List.take_append_drop _ _).symm⟩
  rw [lstripString, erase, if_pos (Nat.zero_le _), List.take_zero, List.nil_append, Nat.zero_add,
    findFirstNotOf]
  by_cases hfound : (str.findIdx fun c => !decide (c ∈ ws)) < str.length
  · simp only [if_pos hfound]
  · simp only [if_neg hfound]
    rw [List.drop_eq_nil_of_le hlen.le, List.drop_eq_nil_of_le (not_lt.mp hfound)]

/-- A list with an element without the property has one before its longest suffix. -/
lemma findIdx_lt_iff (str ws : ByteString) :
    (str.reverse.findIdx fun c => !decide (c ∈ ws)) < str.length ↔ ∃ c ∈ str, c ∉ ws := by
  rw [← List.length_reverse, List.findIdx_lt_length]
  simp

/-- White space is trimmed off the end, where there is something else. -/
lemma rstrip_eq (ws : ByteString) (hlen : str.length < npos)
    (hother : str = [] ∨ ∃ c ∈ str, c ∉ ws) :
    ∃ r w, rstripString str ws = some r ∧ LongestSuffix (· ∈ ws) w str ∧ str = r ++ w := by
  refine ⟨str.take (str.length - str.reverse.findIdx fun c => !decide (c ∈ ws)), _, ?_,
    longestSuffix_drop (· ∈ ws) str, (List.take_append_drop _ _).symm⟩
  rcases hother with rfl | hother
  · rfl
  · have hfound := (findIdx_lt_iff str ws).mpr hother
    have hne : str ≠ [] := by
      rintro rfl
      simp at hother
    have hpos : (findLastNotOf str ws + 1) % 2 ^ 64 =
        str.length - str.reverse.findIdx fun c => !decide (c ∈ ws) := by
      simp only [findLastNotOf, if_pos hfound]
      rw [npos] at hlen
      omega
    rw [rstripString, if_pos hne, hpos, erase, if_pos (Nat.sub_le _ _),
      List.drop_eq_nil_of_le (by omega), List.append_nil]

/-- Of a string that is all white space the last character stays. -/
lemma rstrip_of_all (hne : str ≠ []) (hall : ∀ c ∈ str, c ∈ ws) :
    rstripString str ws = some [str.getLast hne] := by
  have hnot : ¬ (str.reverse.findIdx fun c => !decide (c ∈ ws)) < str.length := by
    rw [findIdx_lt_iff]
    rintro ⟨c, hc, hout⟩
    exact hout (hall c hc)
  have hpos : (findLastNotOf str ws + 1) % 2 ^ 64 = 0 := by
    simp only [findLastNotOf, if_neg hnot]
    rfl
  rw [rstripString, if_pos hne, hpos, erase, if_pos (Nat.zero_le _), List.take_zero,
    List.nil_append, Nat.zero_add, List.drop_length_sub_one hne]

/-- A search from a place where the string stands ends there. -/
lemma rfindFrom_eq_self (pos : ℕ) (hpos : pos < npos) :
    rfindFrom str needle pos = pos ↔ needle <+: str.drop pos := by
  have hle : ∀ n, rfindFrom str needle n ≤ n ∨ rfindFrom str needle n = npos := by
    intro n
    induction n with
    | zero =>
        rw [rfindFrom]
        split
        · exact .inl le_rfl
        · exact .inr rfl
    | succ n ih =>
        rw [rfindFrom]
        split
        · exact .inl le_rfl
        · exact ih.imp_left fun h => h.trans (Nat.le_succ n)
  cases pos with
  | zero =>
      rw [rfindFrom, List.drop_zero, ← List.isPrefixOf_iff_prefix]
      split
      · next h => exact iff_of_true rfl h
      · next h => exact iff_of_false (by decide) h
  | succ n =>
      rw [rfindFrom, ← List.isPrefixOf_iff_prefix]
      split
      · next h => exact iff_of_true rfl h
      · next h =>
          refine iff_of_false ?_ h
          rcases hle n with hn | hn <;> omega

/-- A string at the place where it would end the other one does so. -/
lemma prefix_drop_iff (hle : needle.length ≤ str.length) :
    needle <+: str.drop (str.length - needle.length) ↔ ∃ r, str = r ++ needle := by
  constructor
  · rintro ⟨rest, hrest⟩
    have hlen := congrArg List.length hrest
    rw [List.length_append, List.length_drop] at hlen
    obtain rfl : rest = [] := List.length_eq_zero_iff.mp (by omega)
    rw [List.append_nil] at hrest
    refine ⟨str.take (str.length - needle.length), ?_⟩
    conv_lhs => rw [← List.take_append_drop (str.length - needle.length) str]
    rw [← hrest]
  · rintro ⟨r, rfl⟩
    rw [List.length_append, Nat.add_sub_cancel, List.drop_left]

/-- The test of the end is right for a needle shorter than the string, and fails for others. -/
lemma endsWith_iff (hlen : str.length < npos) :
    endsWith str needle = true ↔ (∃ r, str = r ++ needle) ∧ str ≠ needle := by
  rw [endsWith]
  by_cases hlt : needle.length < str.length
  · have hne : str ≠ needle := by
      rintro rfl
      exact lt_irrefl _ hlt
    simp only [if_pos hlt, decide_eq_true_iff]
    rw [rfind, if_pos hlt.le, min_self, rfindFrom_eq_self _ (by omega), prefix_drop_iff hlt.le]
    exact (and_iff_left hne).symm
  · rw [if_neg hlt]
    refine iff_of_false (by simp) ?_
    rintro ⟨⟨r, rfl⟩, hne⟩
    rw [List.length_append] at hlt
    obtain rfl : r = [] := List.length_eq_zero_iff.mp (by omega)
    exact hne rfl

/-- The test of the start is right. -/
lemma startsWith_iff : startsWith str needle = true ↔ ∃ r, str = needle ++ r := by
  rw [startsWith, decide_eq_true_iff]
  constructor
  · intro heq
    refine ⟨str.drop needle.length, ?_⟩
    conv_lhs => rw [← List.take_append_drop needle.length str]
    rw [heq]
  · rintro ⟨r, rfl⟩
    exact List.take_left

/-- The test of the first character is right. -/
lemma startsWithChar_iff {c : Byte} : startsWithChar str c = true ↔ ∃ r, str = c :: r := by
  cases str with
  | nil => exact iff_of_false (by simp [startsWithChar]) (by simp)
  | cons x str =>
      rw [startsWithChar, decide_eq_true_iff]
      exact ⟨fun h => ⟨str, by rw [h]⟩, fun ⟨_, h⟩ => (List.cons.inj h).1⟩

/-- The test of the last character is right, but on an empty string it says that it is there. -/
lemma endsWithChar_iff (hlen : str.length < npos) {c : Byte} :
    endsWithChar str c = true ↔ str = [] ∨ ∃ r, str = r ++ [c] := by
  rw [endsWithChar, decide_eq_true_iff]
  by_cases hempty : str = []
  · subst hempty
    have hwrap : (0 + npos) % 2 ^ 64 = npos := by decide
    rw [List.length_nil, hwrap, rfind, if_neg (by simp)]
    exact iff_of_true rfl (.inl rfl)
  · have hpos : [c].length ≤ str.length := List.length_pos_iff.mpr hempty
    have hidx : (str.length + npos) % 2 ^ 64 = str.length - 1 := by
      rw [List.length_singleton] at hpos
      rw [npos] at hlen ⊢
      omega
    rw [hidx, rfind, if_pos hpos, List.length_singleton, min_self, rfindFrom_eq_self _ (by omega),
      or_iff_right hempty]
    exact prefix_drop_iff hpos

/-- What the functions are for, on a string, a set of white space and a needle. -/
structure TrimsAndTests (str ws needle : ByteString) : Prop where
  rstrip : ∃ r w, Aja.rstripString str ws = some r ∧ LongestSuffix (· ∈ ws) w str ∧ str = r ++ w
  lstrip : ∃ r w, Aja.lstripString str ws = some r ∧ LongestPrefix (· ∈ ws) w str ∧ str = w ++ r
  strip : ∃ r u m w, Aja.stripString str ws = some r ∧ LongestPrefix (· ∈ ws) u str ∧ str = u ++ m ∧
    LongestSuffix (· ∈ ws) w m ∧ m = r ++ w
  startsWith : Aja.startsWith str needle = true ↔ ∃ r, str = needle ++ r
  endsWith : Aja.endsWith str needle = true ↔ ∃ r, str = r ++ needle

/-- What is left behind the longest prefix is nothing, or begins with something else. -/
lemma other_of_longestPrefix {m : ByteString} (h : LongestPrefix (· ∈ ws) w (w ++ m)) :
    m = [] ∨ ∃ c ∈ m, c ∉ ws := by
  cases m with
  | nil => exact .inl rfl
  | cons c m =>
      refine .inr ⟨c, List.mem_cons_self, fun hc => ?_⟩
      have hle := h.longest (w ++ [c]) ⟨m, by simp⟩ fun x hx => by
        rcases List.mem_append.mp hx with hx | hx
        · exact h.all x hx
        · exact List.mem_singleton.mp hx ▸ hc
      rw [List.length_append, List.length_singleton] at hle
      omega

/-- **The functions do what they are for** exactly where the string is not all white space, and is
not the needle. -/
theorem trimsAndTests_iff (str ws needle : ByteString) (hlen : str.length < npos) :
    TrimsAndTests str ws needle ↔ (str = [] ∨ ∃ c ∈ str, c ∉ ws) ∧ str ≠ needle := by
  constructor
  · intro h
    refine ⟨?_, ?_⟩
    · by_contra hall
      push Not at hall
      obtain ⟨hne, hall⟩ := hall
      obtain ⟨r, w, hr, hw, hsplit⟩ := h.rstrip
      have hwhole := hw.longest str List.suffix_rfl hall
      rw [rstrip_of_all hne hall, Option.some.injEq] at hr
      have hlength := congrArg List.length hsplit
      rw [← hr, List.length_append, List.length_singleton] at hlength
      omega
    · rintro rfl
      have htrue := h.endsWith.mpr ⟨[], rfl⟩
      exact ((endsWith_iff hlen).mp htrue).2 rfl
  · rintro ⟨hother, hne⟩
    refine ⟨rstrip_eq ws hlen hother, lstrip_eq ws hlen, ?_, startsWith_iff,
      (endsWith_iff hlen).trans (and_iff_left hne)⟩
    obtain ⟨m, u, hm, hu, rfl⟩ := lstrip_eq ws hlen
    rw [List.length_append] at hlen
    obtain ⟨r, w, hr, hw, rfl⟩ := rstrip_eq ws (by omega) (other_of_longestPrefix hu)
    refine ⟨r, u, r ++ w, w, ?_, hu, rfl, hw, rfl⟩
    rw [stripString, hm]
    exact hr

/-- A string with white space at both ends, and a needle that it ends with. -/
theorem trimsAndTests_padded : TrimsAndTests (bytesOf " ab ") (bytesOf " ") (bytesOf "b ") :=
  (trimsAndTests_iff _ _ _ (by decide)).mpr ⟨.inr ⟨0x61, by decide, by decide⟩, by decide⟩

/-- Of two spaces one stays. -/
theorem not_trimsAndTests_spaces : ¬ TrimsAndTests (bytesOf "  ") (bytesOf " ") [] := by
  intro h
  obtain ⟨r, w, hr, hw, hsplit⟩ := h.rstrip
  have hcode : rstripString (bytesOf "  ") (bytesOf " ") = some (bytesOf " ") := by decide
  have hwhole := hw.longest (bytesOf "  ") List.suffix_rfl (by decide)
  rw [hcode, Option.some.injEq] at hr
  have hlength := congrArg List.length hsplit
  have hone : (bytesOf " ").length = 1 := by decide
  have htwo : (bytesOf "  ").length = 2 := by decide
  rw [← hr, List.length_append] at hlength
  omega

end Aja

end LibAjaNtv2
