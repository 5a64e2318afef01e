import LibAjaNtv2.Router.Compare
import LibAjaNtv2.Router.Text

/-!
Connection maps written as text and read back.

* `clean`, `linesOf`: what the reader makes of a text before it looks at its lines;
* `IsLine`, `linesOf_flatMap`, `linesOf_intercalate`, `linesOf_header`: **the lines of a text**;
* `XptNames.Inverse.readArrow`, `XptNames.Inverse.readCall`: **a line is read** as its connection;
* `XptNames.readLines_restores`: so are all of them;
* `XptNames.connectionsText_restores`, `XptNames.toCodeString_restores`: **lines with arrows are
  read back**, and calls without comments;
* `XptNames.toCodeString_fails`: with comments the first line is one, and **nothing is read**;
* `XptNames.text_restores_iff`: what is read back, of every map.
-/

namespace LibAjaNtv2

/-! ### Characters -/

/-- A character of an identifier is among the first 128. -/
lemma isNameChar_lt {x : Char} (h : isNameChar x = true) : x.toNat < 128 := by
  delta isNameChar Char.isAlphanum Char.isAlpha Char.isUpper Char.isLower Char.isDigit at h
  simp only [Bool.or_eq_true, Bool.and_eq_true, decide_eq_true_eq, UInt32.le_iff_toNat_le] at h
  rcases h with ((h | h) | h) | rfl
  · exact Nat.lt_of_le_of_lt h.2 (by decide)
  · exact Nat.lt_of_le_of_lt h.2 (by decide)
  · exact Nat.lt_of_le_of_lt h.2 (by decide)
  · decide

/-- What holds of every character of an identifier among the first 128 holds of all of them. -/
lemma isNameChar_forall {P : Char → Prop}
    (h : ∀ n < 128, isNameChar (Char.ofNat n) = true → P (Char.ofNat n)) {x : Char}
    (hx : isNameChar x = true) : P x := by
  have hself : Char.ofNat x.toNat = x := Char.ofNat_toNat x
  have hP := h x.toNat (isNameChar_lt hx)
  rw [hself] at hP
  exact hP hx

lemma isNameChar_toLower {x : Char} (hx : isNameChar x = true) : isNameChar x.toLower = true :=
  isNameChar_forall (P := fun x => isNameChar x.toLower = true) (by decide +kernel) hx

lemma toLower_toLower {x : Char} (hx : isNameChar x = true) : x.toLower.toLower = x.toLower :=
  isNameChar_forall (P := fun x => x.toLower.toLower = x.toLower) (by decide +kernel) hx

/-! ### Lines -/

/-- A character that is neither a blank nor a tab. -/
def notBlank (x : Char) : Bool := x ≠ ' ' && x ≠ '\t'

/-- A character that does not end a line. -/
def notBreak (x : Char) : Bool := !decide (x ∈ "\n\r".toList)

/-- A text in lower case without blanks. -/
def clean (text : List Char) : List Char := (Aja.lower text).filter notBlank

/-- The lines that the reader splits a text into. -/
def linesOf (text : List Char) : List (List Char) :=
  tokenize (stringToParse text) "\n\r".toList true

/-- Of a text that begins with a character that stays, the white space at the end is erased. -/
lemma rstrip_of_head {str : List Char} (h : ∀ hne : str ≠ [], Aja.isSpace (str.head hne) = false) :
    Aja.rstrip str = str.rdropWhile Aja.isSpace := by
  rw [Aja.rstrip]
  split_ifs with hempty
  · rw [hempty, List.rdropWhile_nil]
  · have hne : str.rdropWhile Aja.isSpace ≠ [] := by
      intro hnil
      have hall := List.rdropWhile_eq_nil_iff.mp hnil _ (List.head_mem hempty)
      rw [h hempty] at hall
      cases hall
    have hpos := List.length_pos_iff.mpr hne
    have hdrop : str.drop ((str.rdropWhile Aja.isSpace).length + (str.length - 1)) = [] :=
      List.drop_eq_nil_of_le (by omega)
    have htake := List.prefix_iff_eq_take.mp (List.rdropWhile_prefix Aja.isSpace (l := str))
    dsimp only
    rw [hdrop, List.append_nil, ← htake]

/-- Stripping is trimming: what is left of the start begins with a character that stays. -/
lemma strip_eq_trim (str : List Char) : Aja.strip str = trim Aja.isSpace str := by
  rw [Aja.strip, trim, Aja.lstrip]
  refine rstrip_of_head fun hne => ?_
  simpa using List.head_dropWhile_not Aja.isSpace hne

lemma clean_append (a b : List Char) : clean (a ++ b) = clean a ++ clean b := by
  rw [clean, Aja.lower, List.map_append, List.filter_append]
  rfl

/-- The reader's text before the last replacement. -/
lemma stringToParse_eq (text : List Char) :
    stringToParse text =
      replaceSub "&lt;".toList "<".toList
        ((trim Aja.isSpace (Aja.lower text)).filter notBlank) := by
  rw [stringToParse, strip_eq_trim]
  simp only [Aja.replace]
  rw [show " ".toList = [' '] from rfl, show "\t".toList = ['\t'] from rfl, replaceSub_singleton,
    replaceSub_singleton, List.filter_filter]
  congr 2
  ext x
  simp [notBlank, Bool.and_comm]

lemma tokenize_lines (text : List Char) :
    tokenize text "\n\r".toList true = runs notBreak text := by
  rw [tokenize, if_pos rfl, runs]
  simp [notBreak]

/-- **The lines of a text** without an ampersand. -/
lemma linesOf_of_clean {text : List Char} (h : '&' ∉ clean text) :
    linesOf text = runs notBreak (clean text) := by
  have hsub : (trim Aja.isSpace (Aja.lower text)).filter notBlank ⊆ clean text := by
    obtain ⟨pre, suf, hl, -, -⟩ := exists_trim Aja.isSpace (Aja.lower text)
    intro x hx
    rw [clean, hl, List.filter_append, List.filter_append]
    exact List.mem_append_left _ (List.mem_append_right _ hx)
  rw [linesOf, stringToParse_eq, show "&lt;".toList = '&' :: "lt;".toList from rfl,
    replaceSub_of_notMem (fun hx => h (hsub hx)), tokenize_lines, clean]
  refine runs_filter_trim fun x hspace hkeep => ?_
  simp only [Aja.isSpace, Aja.WHITESPACE, List.mem_cons, decide_eq_true_eq] at hspace
  rcases hspace with rfl | rfl | rfl | rfl | h
  · cases hkeep
  · cases hkeep
  · decide
  · decide
  · cases h

/-- **The first line of a text** whose first line begins and ends with other than white space. -/
lemma linesOf_header {head rest : List Char} (hne : clean head ≠ [])
    (hfirst : ∀ x ∈ (Aja.lower head).head?, Aja.isSpace x = false)
    (hlast : ∀ x ∈ (Aja.lower head).getLast?, Aja.isSpace x = false)
    (hbreak : ∀ x ∈ clean head, notBreak x = true) (hamp : '&' ∉ clean head) :
    ∃ lines, linesOf (head ++ '\n' :: rest) = clean head :: lines := by
  have hlower : Aja.lower head ≠ [] := by
    intro h
    rw [clean, h] at hne
    exact hne rfl
  have htext : Aja.lower (head ++ '\n' :: rest) = Aja.lower head ++ '\n' :: Aja.lower rest := by
    rw [Aja.lower, List.map_append]
    rfl
  obtain ⟨part, hpart, htrim⟩ := trim_append hlower hfirst hlast ('\n' :: Aja.lower rest)
  rw [linesOf, stringToParse_eq, tokenize_lines, htext, htrim, List.filter_append,
    show "&lt;".toList = '&' :: "lt;".toList from rfl]
  change ∃ lines, runs notBreak (replaceSub _ _ (clean head ++ _)) = clean head :: lines
  rw [replaceSub_append hamp]
  rcases part with _ | ⟨x, part⟩
  · refine ⟨[], ?_⟩
    rw [List.filter_nil, replaceSub_of_notMem (by simp), List.append_nil, runs_of_all hne hbreak]
  · -- what is left of the rest begins with the line break
    obtain ⟨rfl, -⟩ := List.cons_prefix_cons.mp hpart
    have hsplit : ('\n' :: part).filter notBlank = ['\n'] ++ part.filter notBlank := rfl
    rw [hsplit, replaceSub_append (by decide), List.singleton_append,
      runs_run_append hne hbreak (by decide)]
    exact ⟨_, rfl⟩

/-- A text that is one line to the reader, and none that its last replacement changes. -/
structure IsLine (text : List Char) : Prop where
  ne_nil : clean text ≠ []
  notBreak : ∀ x ∈ clean text, notBreak x = true
  notAmp : '&' ∉ clean text

/-- A text without line breaks and ampersands. -/
lemma IsLine.of_notMem {text : List Char} (hne : clean text ≠ [])
    (h : ∀ x ∈ "\n\r&".toList, x ∉ clean text) : IsLine text := by
  refine ⟨hne, fun x hx => ?_, h '&' (by decide)⟩
  rw [LibAjaNtv2.notBreak, Bool.not_eq_true', decide_eq_false_iff_not]
  exact fun hbreak => h x ((List.prefix_append "\n\r".toList "&".toList).subset hbreak) hx

section Lines

variable {α : Type*} {line : α → List Char} {l : List α}

/-- Lines with a line break behind each. -/
lemma runs_clean_flatMap (h : ∀ e ∈ l, IsLine (line e)) :
    runs notBreak (clean (l.flatMap fun e => line e ++ ['\n'])) =
      l.map fun e => clean (line e) := by
  induction l with
  | nil => exact runs_nil
  | cons e l ih =>
      have hhead := h e (List.mem_cons_self ..)
      have hrest := ih (fun e' he' => h e' (List.mem_cons_of_mem e he'))
      have hnl : clean ['\n'] = ['\n'] := by decide
      rw [List.flatMap_cons, clean_append, clean_append, hnl, List.append_assoc,
        List.singleton_append, runs_run_append hhead.ne_nil hhead.notBreak (by decide), hrest,
        List.map_cons]

lemma notAmp_flatMap (h : ∀ e ∈ l, IsLine (line e)) :
    '&' ∉ clean (l.flatMap fun e => line e ++ ['\n']) := by
  induction l with
  | nil => exact List.not_mem_nil
  | cons e l ih =>
      have hhead := h e (List.mem_cons_self ..)
      have hrest := ih (fun e' he' => h e' (List.mem_cons_of_mem e he'))
      have hnl : '&' ∉ clean ['\n'] := by decide
      rw [List.flatMap_cons, clean_append, clean_append, List.mem_append, List.mem_append]
      exact not_or.mpr ⟨not_or.mpr ⟨hhead.notAmp, hnl⟩, hrest⟩

/-- Line breaks between lines are all but the last of those behind them. -/
lemma intercalate_append (hne : l ≠ []) :
    ['\n'].intercalate (l.map line) ++ ['\n'] = l.flatMap fun e => line e ++ ['\n'] := by
  induction l with
  | nil => exact absurd rfl hne
  | cons e l ih =>
      cases l with
      | nil => simp
      | cons e' l =>
          have hrest := ih (by simp)
          rw [List.flatMap_cons, ← hrest, List.map_cons, List.map_cons,
            List.intercalate_cons_cons, List.append_assoc]

/-- **Lines with a line break behind each** are read one by one. -/
lemma linesOf_flatMap (h : ∀ e ∈ l, IsLine (line e)) :
    linesOf (l.flatMap fun e => line e ++ ['\n']) = l.map fun e => clean (line e) := by
  rw [linesOf_of_clean (notAmp_flatMap h), runs_clean_flatMap h]

/-- **Lines with line breaks between them** are read one by one. -/
lemma linesOf_intercalate (hne : l ≠ []) (h : ∀ e ∈ l, IsLine (line e)) :
    linesOf (['\n'].intercalate (l.map line)) = l.map fun e => clean (line e) := by
  have htext : clean (['\n'].intercalate (l.map line)) ++ ['\n'] =
      clean (l.flatMap fun e => line e ++ ['\n']) := by
    rw [← intercalate_append hne, clean_append]
    rfl
  have hamp : '&' ∉ clean (['\n'].intercalate (l.map line)) := by
    intro hmem
    refine notAmp_flatMap h ?_
    rw [← htext]
    exact List.mem_append_left _ hmem
  have hgap : ∀ x ∈ ['\n'], LibAjaNtv2.notBreak x = false := by simp [LibAjaNtv2.notBreak]
  rw [linesOf_of_clean hamp, ← runs_append_gap hgap, htext, runs_clean_flatMap h]

end Lines

/-! ### Names -/

/-- The characters of an identifier. -/
def IsName (name : List Char) : Prop := ∀ x ∈ name, isNameChar x = true

namespace IsName

variable {name : List Char}

lemma lower (h : IsName name) : IsName (Aja.lower name) := by
  intro x hx
  obtain ⟨y, hy, rfl⟩ := List.mem_map.mp hx
  exact isNameChar_toLower (h y hy)

lemma lower_lower (h : IsName name) : Aja.lower (Aja.lower name) = Aja.lower name := by
  rw [Aja.lower, Aja.lower, List.map_map]
  exact List.map_congr_left fun x hx => toLower_toLower (h x hx)

lemma notMem (h : IsName name) {x : Char} (hx : isNameChar x = false) : x ∉ name := by
  intro hmem
  rw [h x hmem] at hx
  cases hx

/-- A name has no character that is not one of a name. -/
lemma none_of (h : IsName name) {q : Char → Bool} (hq : ∀ x, q x = true → isNameChar x = false) :
    ∀ x ∈ name, q x = false := by
  intro x hx
  cases hqx : q x with
  | false => rfl
  | true => exact absurd hx (h.notMem (hq x hqx))

lemma strip (h : IsName name) : Aja.strip name = name := by
  rw [strip_eq_trim]
  have hspace : ∀ x ∈ Aja.WHITESPACE, isNameChar x = false := by simp [Aja.WHITESPACE, isNameChar]
  exact trim_of_none (h.none_of fun x hx => hspace x (of_decide_eq_true hx))

/-- Cleaning a name makes it lower case. -/
lemma clean (h : IsName name) : clean name = Aja.lower name := by
  rw [LibAjaNtv2.clean, List.filter_eq_self]
  intro x hx
  have hblank : ∀ x, (!notBlank x) = true → isNameChar x = false := by
    intro x hx
    have hcases : x = ' ' ∨ x = '\t' := by
      simpa [notBlank, or_iff_not_imp_left] using hx
    rcases hcases with rfl | rfl
    · decide
    · decide
  simpa using h.lower.none_of hblank x hx

end IsName

/-! ### Reading a line -/

namespace XptNames

variable (names : XptNames) {e : NTV2InputXptID × NTV2OutputXptID}

lemma inputName (i : NTV2InputXptID) : IsName (names.inputCrosspointIDToString i) :=
  names.input_isName i

lemma outputName (o : NTV2OutputXptID) : IsName (names.outputCrosspointIDToString o) :=
  names.output_isName o

/-- The reader's name of the input. -/
abbrev inputKey (e : NTV2InputXptID × NTV2OutputXptID) : List Char :=
  Aja.lower (names.inputCrosspointIDToString e.1)

/-- The reader's name of the output. -/
abbrev outputKey (e : NTV2InputXptID × NTV2OutputXptID) : List Char :=
  Aja.lower (names.outputCrosspointIDToString e.2)

variable {names}

lemma Inverse.input (h : names.Inverse e) :
    names.stringToNTV2InputCrosspointID (names.inputKey e) = e.1 := by
  have hname := names.inputName e.1
  rw [stringToNTV2InputCrosspointID, hname.lower.strip, hname.lower_lower, h.1, Option.getD_some]

lemma Inverse.output (h : names.Inverse e) :
    names.stringToNTV2OutputCrosspointID (names.outputKey e) = e.2 := by
  have hname := names.outputName e.2
  rw [stringToNTV2OutputCrosspointID, hname.lower.strip, hname.lower_lower, h.2, Option.getD_some]

lemma Inverse.input_ne (h : names.Inverse e) : e.1 ≠ .inputCrosspointInvalid := by
  intro hinvalid
  exact names.input_valid _ (hinvalid ▸ h.1)

lemma Inverse.output_ne (h : names.Inverse e) : e.2 ≠ outputCrosspointInvalid := by
  intro hinvalid
  exact names.output_valid _ (hinvalid ▸ h.2)

variable (names)

/-- What is left of a line with an arrow. -/
lemma clean_connectionText (e : NTV2InputXptID × NTV2OutputXptID) :
    clean (names.connectionText e) =
      names.inputKey e ++ ("<==".toList ++ names.outputKey e) := by
  have harrow : clean " <== ".toList = "<==".toList := by decide
  rw [connectionText, clean_append, clean_append, (names.inputName e.1).clean,
    (names.outputName e.2).clean, harrow, List.append_assoc]

variable {names}

/-- **A line with an arrow is read**: the connection is inserted. -/
lemma Inverse.readArrow (h : names.Inverse e) (c : NTV2XptConnections) :
    names.readArrow (clean (names.connectionText e)) c = some (c.insert e.1 e.2) := by
  have hname : '<' ∉ names.inputKey e := (names.inputName e.1).lower.notMem (by decide)
  have hfind : findSub "<==".toList (names.inputKey e ++ ("<==".toList ++ names.outputKey e)) =
      some (names.inputKey e).length := findSub_append hname
  have hdrop : (names.inputKey e ++ ("<==".toList ++ names.outputKey e)).drop
      ((names.inputKey e).length + 3) = names.outputKey e := by
    rw [List.drop_length_add_append]
    rfl
  have htake : (names.outputKey e).take
      (names.inputKey e ++ ("<==".toList ++ names.outputKey e)).length = names.outputKey e :=
    List.take_of_length_le (by rw [List.length_append, List.length_append]; omega)
  rw [XptNames.readArrow, names.clean_connectionText, hfind]
  dsimp only
  rw [List.take_left, hdrop, htake, (names.inputName e.1).lower.strip,
    (names.outputName e.2).lower.strip, h.input, h.output, if_neg h.input_ne]

variable (names)

/-- What is between the parentheses of a call. -/
abbrev callArgs (e : NTV2InputXptID × NTV2OutputXptID) : List Char :=
  names.inputKey e ++ ',' :: names.outputKey e

/-- What is left of a line with a call. -/
def cleanCall (e : NTV2InputXptID × NTV2OutputXptID) : List Char :=
  "device.connect(".toList ++ (names.callArgs e ++ ");".toList)

lemma cleanCall_eq (e : NTV2InputXptID × NTV2OutputXptID) : names.cleanCall e =
    "device.connect(".toList ++ (names.callArgs e ++ ");".toList) := rfl

lemma clean_callText (mNew mChanged mMissing : NTV2XptConnections)
    (e : NTV2InputXptID × NTV2OutputXptID) :
    clean ((callConfig false mNew mChanged mMissing).callText names e) = names.cleanCall e := by
  have hcall : clean "device.Connect (".toList = "device.connect(".toList := by decide
  have hcomma : clean ", ".toList = [','] := by decide
  have hend : clean ");".toList = ");".toList := by decide
  have htext : (callConfig false mNew mChanged mMissing).callText names e =
      "device.Connect (".toList ++ (names.inputCrosspointIDToString e.1 ++ (", ".toList ++
        (names.outputCrosspointIDToString e.2 ++ ");".toList))) := by
    have hparts : (callConfig false mNew mChanged mMissing).callText names e =
        [] ++ "device".toList ++ [] ++ ".".toList ++ [] ++ "Connect".toList ++ [] ++ " (".toList ++
          [] ++ names.inputCrosspointIDToString e.1 ++ [] ++ ", ".toList ++
          [] ++ names.outputCrosspointIDToString e.2 ++ [] ++ ");".toList := rfl
    rw [hparts]
    simp
  rw [htext, clean_append, clean_append, clean_append, clean_append, hcall, hcomma, hend,
    (names.inputName e.1).clean, (names.outputName e.2).clean, cleanCall_eq, callArgs,
    List.append_assoc]
  rfl

/-- Two names and a comma have no other characters. -/
lemma notMem_callArgs (e : NTV2InputXptID × NTV2OutputXptID) {x : Char}
    (hx : isNameChar x = false) (hcomma : x ≠ ',') : x ∉ names.callArgs e := by
  have hin := (names.inputName e.1).lower.notMem hx
  have hout := (names.outputName e.2).lower.notMem hx
  rw [callArgs, List.mem_append, List.mem_cons]
  exact not_or.mpr ⟨hin, not_or.mpr ⟨hcomma, hout⟩⟩

/-- A line with a call has the characters of names and a few others. -/
lemma notMem_cleanCall (e : NTV2InputXptID × NTV2OutputXptID) {x : Char}
    (hx : isNameChar x = false) (hcall : x ∉ "device.connect(,);".toList) :
    x ∉ names.cleanCall e := by
  have hstart : "device.connect(".toList ⊆ "device.connect(,);".toList :=
    (List.prefix_append "device.connect(".toList ",);".toList).subset
  have hend : ");".toList ⊆ "device.connect(,);".toList :=
    (List.suffix_append "device.connect(,".toList ");".toList).subset
  have hcomma : x ≠ ',' := by
    rintro rfl
    exact hcall (by decide)
  rw [cleanCall_eq, List.mem_append, List.mem_append]
  exact not_or.mpr ⟨fun h => hcall (hstart h),
    not_or.mpr ⟨names.notMem_callArgs e hx hcomma, fun h => hcall (hend h)⟩⟩

/-- There is nothing to strip. -/
lemma strip_cleanCall (e : NTV2InputXptID × NTV2OutputXptID) :
    Aja.strip (names.cleanCall e) = names.cleanCall e := by
  have hspaces : ∀ x ∈ Aja.WHITESPACE,
      isNameChar x = false ∧ x ∉ "device.connect(,);".toList := by
    simp [Aja.WHITESPACE, isNameChar]
  rw [strip_eq_trim]
  refine trim_of_none fun x hx => ?_
  rw [Aja.isSpace, decide_eq_false_iff_not]
  exact fun h => names.notMem_cleanCall e (hspaces x h).1 (hspaces x h).2 hx

/-- The place of the opening parenthesis. -/
lemma findSub_open (e : NTV2InputXptID × NTV2OutputXptID) :
    findSub "(".toList (names.cleanCall e) = some 14 := by
  have hfound : findSub ['('] ("device.connect".toList ++ (['('] ++
      (names.callArgs e ++ ");".toList))) = some "device.connect".toList.length :=
    findSub_append (by decide)
  have hsplit : "device.connect(".toList = "device.connect".toList ++ ['('] := by decide
  have hopen : "(".toList = ['('] := by decide
  rw [cleanCall_eq, hsplit, hopen, List.append_assoc, hfound]
  rfl

/-- The place of the closing parenthesis. -/
lemma findSub_closed (e : NTV2InputXptID × NTV2OutputXptID) :
    findSub ");".toList (names.cleanCall e) = some (15 + (names.callArgs e).length) := by
  have hnot : ')' ∉ "device.connect(".toList ++ names.callArgs e := by
    rw [List.mem_append]
    exact not_or.mpr ⟨by decide, names.notMem_callArgs e (by decide) (by decide)⟩
  have hfound : findSub [')', ';'] ("device.connect(".toList ++ names.callArgs e ++
      ([')', ';'] ++ [])) = some ("device.connect(".toList ++ names.callArgs e).length :=
    findSub_append hnot
  have hlength : "device.connect(".toList.length = 15 := by decide
  have hend : ");".toList = [')', ';'] := by decide
  rw [List.append_nil, List.append_assoc, List.length_append, hlength] at hfound
  rw [cleanCall_eq, hend, hfound]

lemma take_drop_cleanCall (e : NTV2InputXptID × NTV2OutputXptID) :
    ((names.cleanCall e).drop 15).take (names.callArgs e).length = names.callArgs e :=
  List.take_left

/-- The two names. -/
lemma split_callArgs (e : NTV2InputXptID × NTV2OutputXptID) :
    Aja.split (names.callArgs e) ',' = [names.inputKey e, names.outputKey e] := by
  have hin : ',' ∉ names.inputKey e := (names.inputName e.1).lower.notMem (by decide)
  have hout : ',' ∉ names.outputKey e := (names.outputName e.2).lower.notMem (by decide)
  rw [Aja.split, callArgs, if_neg (by simp), List.splitOn_append_cons_self_of_not_mem hin,
    List.splitOn_eq_singleton hout]

variable {names}

/-- **A line with a call is read**: the connection is inserted. -/
lemma Inverse.readCall (h : names.Inverse e) (mNew mChanged mMissing c : NTV2XptConnections) :
    names.readCall (clean ((callConfig false mNew mChanged mMissing).callText names e)) c =
      some (c.insert e.1 e.2) := by
  have hne : names.cleanCall e ≠ [] := by simp [cleanCall_eq]
  have hslash : '/' ∉ names.cleanCall e := names.notMem_cleanCall e (by decide) (by decide)
  have hcomment : findSub "//".toList (names.cleanCall e) = none :=
    findSub_eq_none (by decide) hslash
  have hlength : 15 + (names.callArgs e).length - 14 - 1 = (names.callArgs e).length := by omega
  rw [XptNames.readCall, names.clean_callText, names.strip_cleanCall]
  dsimp only
  rw [if_neg hne, hcomment, if_neg (by simp), names.findSub_open, names.findSub_closed]
  dsimp only
  rw [if_neg (by omega), hlength, names.take_drop_cleanCall, names.split_callArgs, readNames,
    h.input, h.output, if_neg h.input_ne, if_neg h.output_ne]

end XptNames

/-! ### Reading a text -/

/-- A text was read and gave a map. -/
def Restores (r : Bool × NTV2XptConnections) (c : NTV2XptConnections) : Prop :=
  r.1 = true ∧ r.2.Same c

namespace XptNames

variable (names : XptNames) {c : NTV2XptConnections}

/-- What the first line says. -/
lemma createFromString_of_lines {text front : List Char} {lines : List (List Char)}
    (h : linesOf text = front :: lines) :
    names.createFromString text =
      if findSub "<==".toList front ≠ none then
        readLines names.readArrow (front :: lines) .empty
      else if findSub "connect(".toList front ≠ none then
        readLines names.readCall (front :: lines) .empty
      else (false, .empty) := by
  rw [linesOf] at h
  rw [createFromString, h]

variable {readLine : List Char → NTV2XptConnections → Option NTV2XptConnections}
  {line : NTV2InputXptID × NTV2OutputXptID → List Char}

/-- A reader that inserts a connection of each line inserts all of them. -/
lemma readLines_map {entries : List (NTV2InputXptID × NTV2OutputXptID)}
    (h : ∀ e ∈ entries, ∀ c, readLine (line e) c = some (c.insert e.1 e.2))
    (c : NTV2XptConnections) :
    readLines readLine (entries.map line) c =
      (true, entries.foldl (fun c e => addConnection c e.1 e.2) c) := by
  induction entries generalizing c with
  | nil => rfl
  | cons e entries ih =>
      have hrest := ih (fun e' he' => h e' (List.mem_cons_of_mem e he'))
      rw [List.map_cons, readLines, h e (List.mem_cons_self ..)]
      exact hrest (c.insert e.1 e.2)

/-- **A reader that inserts a connection of each line** makes a copy of the map. -/
lemma readLines_restores
    (h : ∀ e ∈ c.entries, ∀ c, readLine (line e) c = some (c.insert e.1 e.2)) :
    Restores (readLines readLine (c.entries.map line) .empty) c := by
  rw [readLines_map h]
  refine ⟨rfl, fun i => ?_⟩
  have hfind := NTV2XptConnections.find_addAll .empty c i
  rwa [NTV2XptConnections.find_empty, Option.none_or] at hfind

lemma isLine_connectionText (e : NTV2InputXptID × NTV2OutputXptID) :
    IsLine (names.connectionText e) := by
  refine .of_notMem ?_ fun x hx => ?_
  · rw [clean_connectionText]
    simp
  · have hother : ∀ y ∈ "\n\r&".toList, isNameChar y = false ∧ y ∉ "<==".toList := by
      simp [isNameChar]
    obtain ⟨hname, harrow⟩ := hother x hx
    rw [clean_connectionText, List.mem_append, List.mem_append]
    exact not_or.mpr ⟨(names.inputName e.1).lower.notMem hname,
      not_or.mpr ⟨harrow, (names.outputName e.2).lower.notMem hname⟩⟩

lemma isLine_callText (mNew mChanged mMissing : NTV2XptConnections)
    (e : NTV2InputXptID × NTV2OutputXptID) :
    IsLine ((callConfig false mNew mChanged mMissing).callText names e) := by
  refine .of_notMem ?_ fun x hx => ?_
  · rw [clean_callText]
    simp [cleanCall_eq]
  · have hother : ∀ y ∈ "\n\r&".toList,
        isNameChar y = false ∧ y ∉ "device.connect(,);".toList := by simp [isNameChar]
    rw [clean_callText]
    exact names.notMem_cleanCall e (hother x hx).1 (hother x hx).2

variable {names}

/-- **The lines with arrows are read back.** -/
lemma connectionsText_restores (hne : c.entries ≠ []) (h : ∀ e ∈ c.entries, names.Inverse e) :
    Restores (names.createFromString (names.connectionsText c)) c := by
  have hread := readLines_restores fun e he => (h e he).readArrow
  have hlines : linesOf (names.connectionsText c) =
      c.entries.map fun e => clean (names.connectionText e) :=
    linesOf_intercalate hne fun e _ => names.isLine_connectionText e
  obtain ⟨e, entries, hentries⟩ := List.exists_cons_of_ne_nil hne
  rw [hentries, List.map_cons] at hlines hread
  have hfront : findSub "<==".toList (clean (names.connectionText e)) ≠ none := by
    rw [findSub_ne_none_iff, clean_connectionText, ← List.append_assoc]
    exact List.infix_append ..
  rw [names.createFromString_of_lines hlines, if_pos hfront]
  exact hread

variable (mNew mChanged mMissing : NTV2XptConnections)

/-- **The lines with calls are read back**, without comments. -/
lemma toCodeString_restores (hne : c.entries ≠ []) (h : ∀ e ∈ c.entries, names.Inverse e) :
    Restores (names.createFromString
      ((callConfig false mNew mChanged mMissing).toCodeString names c)) c := by
  have hread := readLines_restores fun e he => (h e he).readCall mNew mChanged mMissing
  have hcalls : (callConfig false mNew mChanged mMissing).callLine names = fun e =>
      (callConfig false mNew mChanged mMissing).callText names e ++ ['\n'] := by
    funext e
    simp [PrintCodeConfig.callLine, callConfig]
  have htext : (callConfig false mNew mChanged mMissing).toCodeString names c =
      c.entries.flatMap fun e =>
        (callConfig false mNew mChanged mMissing).callText names e ++ ['\n'] := by
    rw [PrintCodeConfig.toCodeString, hcalls]
    simp [callConfig]
  have hlines : linesOf ((callConfig false mNew mChanged mMissing).toCodeString names c) =
      c.entries.map fun e =>
        clean ((callConfig false mNew mChanged mMissing).callText names e) := by
    rw [htext]
    exact linesOf_flatMap fun e _ => names.isLine_callText mNew mChanged mMissing e
  obtain ⟨e, entries, hentries⟩ := List.exists_cons_of_ne_nil hne
  rw [hentries, List.map_cons] at hlines hread
  have harrow : findSub "<==".toList
      (clean ((callConfig false mNew mChanged mMissing).callText names e)) = none := by
    rw [clean_callText]
    exact findSub_eq_none (by decide) (names.notMem_cleanCall e (x := '<') (by decide) (by decide))
  have hcall : findSub "connect(".toList
      (clean ((callConfig false mNew mChanged mMissing).callText names e)) ≠ none := by
    rw [findSub_ne_none_iff, clean_callText]
    exact ⟨"device.".toList, _, rfl⟩
  rw [names.createFromString_of_lines hlines, harrow, if_neg (by simp), if_pos hcall]
  exact hread

/-- The comment with the number of connections. -/
def headerLine (c : NTV2XptConnections) : List Char :=
  "// ".toList ++ (Nat.toDigits 10 c.entries.length ++
    if c.entries.length = 1 then " routing entry:".toList else " routing entries:".toList)

lemma isName_toDigits (n : ℕ) : IsName (Nat.toDigits 10 n) := by
  intro x hx
  have hdigit := Nat.isDigit_of_mem_toDigits (by decide) (by decide) hx
  simp [isNameChar, Char.isAlphanum, hdigit]

/-- The comment in lower case, with the blanks or without. -/
lemma lower_headerLine (c : NTV2XptConnections) :
    ∃ tail, (tail = " routing entry:".toList ∨ tail = " routing entries:".toList) ∧
      Aja.lower (headerLine c) =
        "// ".toList ++ (Aja.lower (Nat.toDigits 10 c.entries.length) ++ tail) := by
  rw [headerLine, Aja.lower, List.map_append, List.map_append]
  split_ifs
  · exact ⟨_, .inl rfl, by congr 1⟩
  · exact ⟨_, .inr rfl, by congr 1⟩

/-- No character of the comment but those of names, blanks, slashes and the colon. -/
lemma notMem_headerLine (c : NTV2XptConnections) {x : Char} (hx : isNameChar x = false)
    (hother : x ∉ " /:".toList) : x ∉ Aja.lower (headerLine c) := by
  obtain ⟨tail, htail, hlower⟩ := lower_headerLine c
  have hdigits := (isName_toDigits c.entries.length).lower.notMem hx
  have hslashes : ∀ y ∈ "// ".toList, isNameChar y = true ∨ y ∈ " /:".toList := by simp [isNameChar]
  have htails : ∀ y ∈ tail, isNameChar y = true ∨ y ∈ " /:".toList := by
    rcases htail with rfl | rfl
    · simp [isNameChar]
    · simp [isNameChar]
  have hnot : ¬ (isNameChar x = true ∨ x ∈ " /:".toList) := by
    rw [hx]
    simpa using hother
  rw [hlower, List.mem_append, List.mem_append]
  exact not_or.mpr ⟨fun h => hnot (hslashes x h), not_or.mpr ⟨hdigits, fun h => hnot (htails x h)⟩⟩

lemma notMem_clean_headerLine (c : NTV2XptConnections) {x : Char} (hx : isNameChar x = false)
    (hother : x ∉ " /:".toList) : x ∉ clean (headerLine c) :=
  fun h => notMem_headerLine c hx hother (List.mem_of_mem_filter h)

/-- **The first line of a text that begins with the comment** is the comment. -/
lemma linesOf_headerLine (c : NTV2XptConnections) (rest : List Char) :
    ∃ lines, linesOf (headerLine c ++ '\n' :: rest) = clean (headerLine c) :: lines := by
  obtain ⟨tail, htail, hlower⟩ := lower_headerLine c
  have hfirst : (Aja.lower (headerLine c)).head? = some '/' := by
    rw [hlower]
    rfl
  have hlast : (Aja.lower (headerLine c)).getLast? = some ':' := by
    rw [hlower, ← List.append_assoc, List.getLast?_append]
    rcases htail with rfl | rfl
    · rfl
    · rfl
  have hother : ∀ y ∈ "\n\r".toList, isNameChar y = false ∧ y ∉ " /:".toList := by simp [isNameChar]
  refine linesOf_header ?_ ?_ ?_ (fun x hx => ?_)
    (notMem_clean_headerLine c (by decide) (by decide))
  · exact List.ne_nil_of_mem (List.mem_filter.mpr ⟨List.mem_of_head? hfirst, by decide⟩)
  · simp [hfirst, Aja.isSpace, Aja.WHITESPACE]
  · simp [hlast, Aja.isSpace, Aja.WHITESPACE]
  · rw [notBreak, Bool.not_eq_true', decide_eq_false_iff_not]
    exact fun h => notMem_clean_headerLine c (hother x h).1 (hother x h).2 hx

/-- Code with comments begins with the comment on the number of connections. -/
lemma toCodeString_comments :
    ∃ rest, (callConfig true mNew mChanged mMissing).toCodeString names c =
      headerLine c ++ '\n' :: rest := by
  have hheader : (callConfig true mNew mChanged mMissing).headerText c =
      headerLine c ++ ['\n'] := by
    rw [PrintCodeConfig.headerText, headerLine]
    split_ifs
    · simp [PrintCodeConfig.comment, callConfig]
    · simp [PrintCodeConfig.comment, callConfig]
  have htext : (callConfig true mNew mChanged mMissing).toCodeString names c =
      (callConfig true mNew mChanged mMissing).headerText c ++ [] ++
        c.entries.flatMap ((callConfig true mNew mChanged mMissing).callLine names) ++
        mMissing.entries.flatMap ((callConfig true mNew mChanged mMissing).goneText names c) := rfl
  rw [htext, hheader, List.append_nil, List.append_assoc, List.append_assoc, List.singleton_append]
  exact ⟨_, rfl⟩

/-- **With comments nothing is read**: the first line is one. -/
lemma toCodeString_fails :
    (names.createFromString
      ((callConfig true mNew mChanged mMissing).toCodeString names c)).1 = false := by
  obtain ⟨rest, hrest⟩ := @toCodeString_comments names c mNew mChanged mMissing
  obtain ⟨lines, hlines⟩ := linesOf_headerLine c rest
  have harrow : findSub "<==".toList (clean (headerLine c)) = none :=
    findSub_eq_none (x := '<') (by decide) (notMem_clean_headerLine c (by decide) (by decide))
  have hcall : findSub "connect(".toList (clean (headerLine c)) = none :=
    findSub_eq_none (x := '(') (by decide) (notMem_clean_headerLine c (by decide) (by decide))
  rw [hrest, names.createFromString_of_lines hlines, harrow, hcall]
  rfl

/-- **What is read back**, of every non-empty map whose crosspoints the name tables have: the lines
with arrows always, and the lines with calls exactly if no comments are written. -/
theorem text_restores_iff (names : XptNames) (c : NTV2XptConnections) (hne : c.entries ≠ [])
    (h : ∀ e ∈ c.entries, names.Inverse e) (mShowComments : Bool)
    (mNew mChanged mMissing : NTV2XptConnections) :
    Restores (names.createFromString (names.connectionsText c)) c ∧
      (Restores (names.createFromString
          ((callConfig mShowComments mNew mChanged mMissing).toCodeString names c)) c ↔
        mShowComments = false) := by
  refine ⟨connectionsText_restores hne h, ?_⟩
  cases mShowComments with
  | false => exact ⟨fun _ => rfl, fun _ => toCodeString_restores mNew mChanged mMissing hne h⟩
  | true =>
      refine ⟨fun hread => ?_, fun h => by cases h⟩
      rw [Restores, toCodeString_fails] at hread
      cases hread.1

/-- The names of the inputs of two SDI outputs, and of the outputs of an SDI input and of a frame
store. -/
def fourNames : XptNames where
  inputCrosspointIDToString i :=
    if i = .xptSDIOut1Input then "NTV2_XptSDIOut1Input".toList
    else if i = .xptSDIOut2Input then "NTV2_XptSDIOut2Input".toList
    else []
  outputCrosspointIDToString o :=
    if o = 0x01 then "NTV2_XptSDIIn1".toList
    else if o = 0x08 then "NTV2_XptFrameBuffer1YUV".toList
    else []
  gString2InputXpt name :=
    if name = "ntv2_xptsdiout1input".toList then some .xptSDIOut1Input
    else if name = "ntv2_xptsdiout2input".toList then some .xptSDIOut2Input
    else none
  gString2OutputXpt name :=
    if name = "ntv2_xptsdiin1".toList then some 0x01
    else if name = "ntv2_xptframebuffer1yuv".toList then some 0x08
    else none
  input_isName i := by
    split_ifs
    · simp [isNameChar]
    · simp [isNameChar]
    · simp
  output_isName o := by
    split_ifs
    · simp [isNameChar]
    · simp [isNameChar]
    · simp
  input_valid name := by
    split_ifs
    · simp
    · simp
    · simp
  output_valid name := by
    split_ifs
    · simp [outputCrosspointInvalid]
    · simp [outputCrosspointInvalid]
    · simp

/-- The frame store's output at the first SDI output. -/
def oneConnection : NTV2XptConnections := NTV2XptConnections.empty.insert .xptSDIOut1Input 0x08

/-- And the SDI input at the second one. -/
def twoConnections : NTV2XptConnections := oneConnection.insert .xptSDIOut2Input 0x01

/-- Both connections are read back. -/
theorem text_restores_iff_twoConnections :
    twoConnections.entries = [(.xptSDIOut2Input, 0x01), (.xptSDIOut1Input, 0x08)] ∧
    Restores (fourNames.createFromString (fourNames.connectionsText twoConnections))
        twoConnections ∧
      (Restores (fourNames.createFromString
          ((callConfig false .empty .empty .empty).toCodeString fourNames twoConnections))
        twoConnections ↔ false = false) :=
  ⟨by decide, text_restores_iff fourNames twoConnections (by decide) (by decide) false .empty .empty
    .empty⟩

/-- With comments, **one connection is not read back** from its own code. -/
theorem comments_not_read :
    oneConnection.entries ≠ [] ∧ (∀ e ∈ oneConnection.entries, fourNames.Inverse e) ∧
      ¬ Restores (fourNames.createFromString
          ((callConfig true .empty .empty .empty).toCodeString fourNames oneConnection))
        oneConnection := by
  refine ⟨by decide, by decide, fun h => ?_⟩
  rw [Restores, toCodeString_fails] at h
  cases h.1

end XptNames

end LibAjaNtv2
