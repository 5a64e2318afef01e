import LibAjaNtv2.Lib.Pieces
import LibAjaNtv2.Rpc.QueryString

/-!
Splitting and joining strings (`common.cpp`).

* `Aja.splitLoop`, `Aja.Splits`: `aja::split` at a string, which need not come to an end;
* `Aja.getline`, `Aja.splitChar`: `aja::split` at a character, on a stream;
* `Aja.splits_iff`: the loop ends with the pieces of the string, where the delimiter is not empty;
* `Aja.splitChar_eq`: **the character version** has the pieces of a string that is not empty;
* `Aja.SplitJoin`: splitting and joining undo one another; `Aja.splitThenJoin_iff`: **when they do**:
  the delimiter is not empty, nor the string where the delimiter is one character.
-/

namespace LibAjaNtv2

namespace Aja

/-! ### At a string -/

/-- The loop of `aja::split` at a string, for a number of rounds; nothing where it has not come to
its end. -/
def splitLoop (inStr inDelim : ByteString) : ℕ → ℕ → List ByteString → Option (List ByteString)
  | 0, _, _ => none
  | rounds + 1, startPos, result =>
      match findSub inDelim (inStr.drop startPos) with
      | some offset =>
          splitLoop inStr inDelim rounds (startPos + offset + inDelim.length)
            (result ++ [(inStr.drop startPos).take offset])
      | none =>
          if startPos < inStr.length then some (result ++ [inStr.drop startPos])
          else if startPos = inStr.length then some (result ++ [[]])
          else some result

/-- `aja::split` at a string ends, with some pieces. -/
def Splits (inStr inDelim : ByteString) (result : List ByteString) : Prop :=
  ∃ rounds, splitLoop inStr inDelim rounds 0 [] = some result

/-! ### At a character -/

/-- What is left of a stream, and whether its end has been met. -/
structure LineStream where
  rest : ByteString
  eof : Bool

/-- `std::getline`: it fails where it can take nothing from the stream. -/
def getline (delim : Byte) (s : LineStream) : Option (ByteString × LineStream) :=
  if s.eof then none
  else
    match s.rest.span (· ≠ delim) with
    | (item, []) => if item = [] then none else some (item, ⟨[], true⟩)
    | (item, _ :: rest) => some (item, ⟨rest, false⟩)

/-- What a line takes from the stream. -/
lemma getline_lt {delim : Byte} {s t : LineStream} {item : ByteString}
    (h : getline delim s = some (item, t)) :
    t.rest.length + (if t.eof then 0 else 1) < s.rest.length + (if s.eof then 0 else 1) := by
  rw [getline] at h
  split_ifs at h with heof
  have hspan : s.rest = (s.rest.span (· ≠ delim)).1 ++ (s.rest.span (· ≠ delim)).2 := by
    rw [List.span_eq_takeWhile_dropWhile, List.takeWhile_append_dropWhile]
  rcases hcut : s.rest.span (· ≠ delim) with ⟨pre, suf⟩
  rw [hcut] at h hspan
  rw [if_neg heof, hspan]
  cases suf with
  | nil =>
      simp only at h
      split_ifs at h
      cases h
      simp
  | cons c rest =>
      cases h
      simp only [List.length_append, List.length_cons, Bool.false_eq_true, if_false]
      omega

/-- The loop over the lines of a stream. -/
def getlines (delim : Byte) (s : LineStream) : List ByteString :=
  match _h : getline delim s with
  | none => []
  | some (item, t) => item :: getlines delim t
termination_by s.rest.length + (if s.eof then 0 else 1)
decreasing_by exact getline_lt _h

/-- `aja::split` at a character. -/
def splitChar (str : ByteString) (delim : Byte) : List ByteString :=
  let elems := getlines delim ⟨str, false⟩
  if str.getLast? = some delim then elems ++ [[]] else elems

/-! ### The pieces -/

variable {str delim : ByteString} {ps : List ByteString}

/-- The loop from a place on. -/
lemma splitLoop_of_pieces {rest : ByteString} (h : Pieces delim rest ps)
    {startPos : ℕ} (hpos : startPos ≤ str.length) (hrest : str.drop startPos = rest)
    (result : List ByteString) :
    splitLoop str delim ps.length startPos result = some (result ++ ps) := by
  induction h generalizing startPos result with
  | @last rest h =>
      have hfind : findSub delim (str.drop startPos) = none := by
        by_contra hne
        exact h (hrest ▸ findSub_ne_none_iff.mp hne)
      rw [List.length_singleton, splitLoop, hfind]
      simp only
      split_ifs with hlt heq
      · rw [hrest]
      · rw [← hrest, List.drop_eq_nil_of_le heq.ge]
      · omega
  | @cut piece rest ps h hpieces ih =>
      have hfind : findSub delim (str.drop startPos) = some piece.length := by
        rw [hrest]
        refine findSub_eq_some_iff.mpr ⟨?_, ?_, h⟩
        · rw [List.length_append, List.length_append]
          omega
        · rw [List.append_assoc, List.drop_left]
          exact List.prefix_append _ _
      have hlen := congrArg List.length hrest
      rw [List.length_drop, List.length_append, List.length_append] at hlen
      have hnext : str.drop (startPos + piece.length + delim.length) = rest := by
        rw [Nat.add_assoc, ← List.drop_drop, hrest, ← List.length_append, List.drop_left]
      rw [List.length_cons, splitLoop, hfind]
      simp only
      rw [ih (by omega) hnext, hrest, List.append_assoc, List.append_assoc, List.take_left,
        List.singleton_append]

/-- **The loop cuts the string into its pieces.** -/
lemma splits_of_pieces (h : Pieces delim str ps) : Splits str delim ps :=
  ⟨ps.length, splitLoop_of_pieces h (Nat.zero_le _) rfl []⟩

/-- At an empty delimiter the loop does not go on. -/
lemma splitLoop_nil (str : ByteString) (rounds startPos : ℕ) (result : List ByteString) :
    splitLoop str [] rounds startPos result = none := by
  induction rounds generalizing result with
  | zero => rfl
  | succ rounds ih =>
      have hfind : findSub [] (str.drop startPos) = some 0 := by
        cases str.drop startPos <;> rfl
      rw [splitLoop, hfind]
      exact ih _

/-- More rounds do not change where the loop ends. -/
lemma splitLoop_mono {rounds rounds' startPos : ℕ} {result r : List ByteString}
    (h : splitLoop str delim rounds startPos result = some r) (hle : rounds ≤ rounds') :
    splitLoop str delim rounds' startPos result = some r := by
  induction rounds generalizing rounds' startPos result with
  | zero => cases h
  | succ rounds ih =>
      obtain ⟨more, rfl⟩ : ∃ more, rounds' = more + 1 := ⟨rounds' - 1, by omega⟩
      rw [splitLoop] at h ⊢
      cases hfind : findSub delim (str.drop startPos) with
      | none =>
          rw [hfind] at h
          exact h
      | some offset =>
          rw [hfind] at h
          exact ih h (by omega)

/-- Where the loop ends, its pieces are those of the same number of rounds. -/
lemma splitLoop_eq {rounds startPos : ℕ} {result r : List ByteString}
    (h : splitLoop str delim rounds startPos result = some r) :
    r = result ++ splitStringFrom str delim rounds startPos := by
  induction rounds generalizing startPos result with
  | zero => cases h
  | succ rounds ih =>
      rw [splitLoop] at h
      rw [splitStringFrom]
      cases hfind : findSub delim (str.drop startPos) with
      | none =>
          rw [hfind] at h
          simp only at h ⊢
          split_ifs at h ⊢ <;> cases h <;> simp
      | some offset =>
          rw [hfind] at h
          rw [ih h, List.append_assoc]
          rfl

/-- **The loop ends with the pieces of the string**, where the delimiter is not empty. -/
theorem splits_iff (hdelim : delim ≠ []) : Splits str delim ps ↔ ps = splitString str delim := by
  obtain ⟨qs, hqs⟩ := exists_pieces hdelim str
  have hloop : splitLoop str delim (str.length + 1) 0 [] = some qs :=
    splitLoop_mono (splitLoop_of_pieces hqs (Nat.zero_le _) rfl []) (hqs.length_le hdelim)
  have heq : qs = splitString str delim := splitLoop_eq hloop
  constructor
  · rintro ⟨rounds, hrounds⟩
    have hmore := splitLoop_mono hrounds (Nat.le_max_left rounds (str.length + 1))
    rw [splitLoop_mono hloop (Nat.le_max_right rounds (str.length + 1)), Option.some.injEq] at hmore
    exact hmore ▸ heq
  · rintro rfl
    exact heq ▸ splits_of_pieces hqs

/-! ### The lines -/

/-- Where a line is taken. -/
lemma getlines_some {c : Byte} {s t : LineStream} {item : ByteString}
    (h : getline c s = some (item, t)) : getlines c s = item :: getlines c t := by
  rw [getlines]
  split
  · next hnone =>
      rw [h] at hnone
      cases hnone
  · next hsome =>
      rw [h] at hsome
      cases hsome
      rfl

/-- Where none is. -/
lemma getlines_none {c : Byte} {s : LineStream} (h : getline c s = none) : getlines c s = [] := by
  rw [getlines]
  split
  · rfl
  · next hsome =>
      rw [h] at hsome
      cases hsome

/-- A stream without a delimiter is one line. -/
lemma getlines_of_notMem {c : Byte} (hne : str ≠ []) (hc : c ∉ str) :
    getlines c ⟨str, false⟩ = [str] := by
  have hspan : str.span (· ≠ c) = (str, []) := by
    rw [List.span_eq_takeWhile_dropWhile, Prod.mk.injEq, List.takeWhile_eq_self_iff,
      List.dropWhile_eq_nil_iff]
    exact ⟨fun x hx => decide_eq_true fun heq => hc (heq ▸ hx),
      fun x hx => decide_eq_true fun heq => hc (heq ▸ hx)⟩
  have hline : getline c ⟨str, false⟩ = some (str, ⟨[], true⟩) := by
    simp only [getline, hspan, Bool.false_eq_true, if_false, if_neg hne]
  rw [getlines_some hline, getlines_none rfl]

/-- A line ends at the first delimiter. -/
lemma getlines_append {c : Byte} {item rest : ByteString} (hc : c ∉ item) :
    getlines c ⟨item ++ c :: rest, false⟩ = item :: getlines c ⟨rest, false⟩ := by
  have hspan : (item ++ c :: rest).span (· ≠ c) = (item, c :: rest) := by
    have htake : ∀ x ∈ item, decide (x ≠ c) = true := fun x hx =>
      decide_eq_true fun heq => hc (heq ▸ hx)
    rw [List.span_eq_takeWhile_dropWhile, List.takeWhile_append_of_pos htake,
      List.dropWhile_append_of_pos htake, List.takeWhile_cons_of_neg (by simp),
      List.dropWhile_cons_of_neg (by simp), List.append_nil]
  refine getlines_some ?_
  simp only [getline, hspan, Bool.false_eq_true, if_false]

/-- **The character version** has the pieces of a string that is not empty. -/
lemma splitChar_eq {c : Byte} (hne : str ≠ []) : splitChar str c = str.splitOn c := by
  induction hn : str.length using Nat.strong_induction_on generalizing str with
  | _ n ih =>
      rw [splitChar]
      by_cases hmem : c ∈ str
      · obtain ⟨item, rest, rfl, hitem⟩ := List.eq_append_cons_of_mem hmem
        rw [getlines_append hitem, List.splitOn_append_cons_self_of_not_mem hitem]
        by_cases hrest : rest = []
        · subst hrest
          have hlast : (item ++ [c]).getLast? = some c := by simp
          rw [if_pos hlast, getlines_none rfl]
          rfl
        · have hlast : (item ++ c :: rest).getLast? = rest.getLast? := by
            cases rest with
            | nil => exact absurd rfl hrest
            | cons x xs => simp [List.getLast?_append, List.getLast?_cons]
          rw [List.length_append, List.length_cons] at hn
          rw [hlast, ← ih rest.length (by omega) hrest rfl, splitChar]
          split_ifs <;> rfl
      · have hlast : str.getLast? ≠ some c := fun h => hmem (List.mem_of_getLast? h)
        rw [if_neg hlast, getlines_of_notMem hne hmem, List.splitOn_eq_singleton hmem]

lemma splitChar_nil (c : Byte) : splitChar [] c = [] := by
  rw [splitChar, if_neg (by simp), getlines_none rfl]

/-! ### Splitting and joining -/

/-- What splitting a string and joining pieces is for. -/
structure SplitJoin (str delim : ByteString) : Prop where
  splits : ∃ ps, Splits str delim ps ∧
    (delim ≠ [] → join ps delim = str ∧ ∀ p ∈ ps, ¬ delim <:+: p) ∧
    ∀ c, delim = [c] → splitChar str c = ps
  back : delim ≠ [] → ∀ ps, ps ≠ [] → Separable delim ps → Splits (join ps delim) delim ps

/-- **Splitting and joining undo one another** exactly where the delimiter is not empty, nor the
string where the delimiter is one character. -/
theorem splitThenJoin_iff (str delim : ByteString) :
    SplitJoin str delim ↔ delim ≠ [] ∧ (str = [] → delim.length ≠ 1) := by
  constructor
  · rintro ⟨⟨ps, ⟨rounds, hrounds⟩, -, hchar⟩, -⟩
    refine ⟨?_, ?_⟩
    · rintro rfl
      rw [splitLoop_nil] at hrounds
      cases hrounds
    · rintro rfl hone
      obtain ⟨c, rfl⟩ := List.length_eq_one_iff.mp hone
      have hps := hchar c rfl
      rw [splitChar_nil] at hps
      cases rounds with
      | zero => cases hrounds
      | succ rounds =>
          rw [← hps] at hrounds
          cases hrounds
  · rintro ⟨hdelim, hempty⟩
    obtain ⟨ps, hps⟩ := exists_pieces hdelim str
    refine ⟨⟨ps, splits_of_pieces hps, fun _ => ⟨hps.intercalate, hps.not_infix hdelim⟩, ?_⟩,
      fun _ qs hne hsep => splits_of_pieces (hsep.pieces hne)⟩
    rintro c rfl
    have hne : str ≠ [] := fun h => hempty h rfl
    have hpieces : ∀ p ∈ ps, c ∉ p := fun p hp hc =>
      hps.not_infix hdelim p hp ((List.singleton_infix_iff ..).mpr hc)
    rw [splitChar_eq hne, ← hps.intercalate, List.splitOn_intercalate c hpieces hps.ne_nil]

/-- At an empty delimiter the loop has no end; and an empty string has a piece at a string, but none
at a character. -/
theorem not_splitJoin_empty :
    ¬ SplitJoin (bytesOf "a") [] ∧ ¬ SplitJoin [] (bytesOf ",") := by
  refine ⟨fun h => ?_, fun h => ?_⟩
  · obtain ⟨ps, ⟨rounds, hrounds⟩, -⟩ := h.splits
    rw [splitLoop_nil] at hrounds
    cases hrounds
  · obtain ⟨ps, ⟨rounds, hrounds⟩, -, hchar⟩ := h.splits
    rw [← hchar 0x2C rfl, splitChar_nil] at hrounds
    cases rounds with
    | zero => cases hrounds
    | succ rounds => cases hrounds

end Aja

end LibAjaNtv2
