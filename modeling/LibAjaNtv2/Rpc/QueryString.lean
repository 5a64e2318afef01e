import LibAjaNtv2.Rpc.Dictionary

/-!
Query strings (`ntv2utils.cpp`, `ntv2nubaccess.cpp`).

* `percentEncode`, `percentDecode`: escapes for the bytes that are reserved;
* `reread`, `rereadLower`: what is read where a byte was written;
  `percentDecode_percentEncode_iff`: **the strings that are read back**;
* `makeQueryString`, `parseQueryParams`: a parameter for each entry of a dictionary;
* `parseQueryParams_makeQueryString`: **the dictionary that is read where one was written**.
-/

namespace LibAjaNtv2

/-! ### Escapes -/

/-- `isalnum`. -/
def isalnum (chr : Byte) : Bool :=
  (0x30 ≤ chr && chr ≤ 0x39) || (0x41 ≤ chr && chr ≤ 0x5A) || (0x61 ≤ chr && chr ≤ 0x7A)

/-- A character that stands for itself. -/
def isUnreserved (chr : Byte) : Bool :=
  isalnum chr || chr == 0x2D || chr == 0x5F || chr == 0x2E || chr == 0x7E || chr == 0x3A

/-- A digit in upper case. -/
def hexDigit (nibble : ULWord) : Byte :=
  if nibble < 10 then 0x30 + nibble.setWidth 8 else 0x41 + (nibble - 10).setWidth 8

/-- `HEX0N`: the number in hexadecimal, with zeros before it up to the width. -/
def hex0N (x : ULWord) (n : ℕ) : ByteString :=
  let digits := ([28, 24, 20, 16, 12, 8, 4, 0].map fun shift : ℕ =>
    hexDigit ((x >>> shift) &&& 0xF)).dropWhile (· == 0x30)
  let shown := if digits = [] then [0x30] else digits
  List.replicate (n - shown.length) 0x30 ++ shown

/-- The text of a byte, which `unsigned` makes from a `char` with a sign. -/
def percentEncodeByte (chr : Byte) : ByteString :=
  if isUnreserved chr then [chr] else 0x25 :: hex0N (chr.signExtend 32) 2

/-- `PercentEncode`. -/
def percentEncode (inStr : ByteString) : ByteString := inStr.flatMap percentEncodeByte

/-- What `PercentDecode` is waiting for. -/
inductive DecodeState
  /-- An unreserved character. -/
  | unreserved
  /-- The first digit. -/
  | firstDigit
  /-- The second digit. -/
  | secondDigit
  deriving DecidableEq

/-- The state of `PercentDecode`. -/
structure Decoding where
  oss : ByteString
  hexNum : ULWord
  state : DecodeState
  deriving DecidableEq

/-- The value of a digit. -/
def hexValue (chr : Byte) : Option ULWord :=
  if 0x41 ≤ chr && chr ≤ 0x46 then some (chr.setWidth 32 + 10 - 0x41)
  else if 0x61 ≤ chr && chr ≤ 0x66 then some (chr.setWidth 32 + 10 - 0x61)
  else if 0x30 ≤ chr && chr ≤ 0x39 then some (chr.setWidth 32 - 0x30)
  else none

/-- Read a character. -/
def Decoding.next (d : Decoding) (chr : Byte) : Decoding :=
  match d.state with
  | .unreserved =>
      let oss := if isUnreserved chr then d.oss ++ [chr] else d.oss
      { d with
        oss := oss
        state := if chr == 0x25 then .firstDigit else .unreserved }
  | .firstDigit =>
      { d with
        hexNum := match hexValue chr with
          | some v => v <<< 4
          | none => 0
        state := .secondDigit }
  | .secondDigit =>
      let hexNum := match hexValue chr with
        | some v => d.hexNum + v
        | none => d.hexNum
      ⟨d.oss ++ [hexNum.setWidth 8], 0, .unreserved⟩

/-- `PercentDecode`. -/
def percentDecode (inStr : ByteString) : ByteString :=
  (inStr.foldl Decoding.next ⟨[], 0, .unreserved⟩).oss

/-- `isupper`. -/
def isupper (chr : Byte) : Bool := 0x41 ≤ chr && chr ≤ 0x5A

/-- `tolower`. -/
def tolower (chr : Byte) : Byte := if isupper chr then chr + 0x20 else chr

/-- `aja::lower`. -/
def Aja.lowerString (str : ByteString) : ByteString := str.map tolower

/-! ### What is read -/

/-- What is read where a byte was written: of the eight digits of a byte in the upper half, two are
read as a byte. -/
def reread (b : Byte) : ByteString :=
  if b < 0x80 then [b] else 0xFF :: (List.replicate 4 0x46 ++ hex0N (b.setWidth 32) 2)

/-- What is read in lower case. -/
def rereadLower (b : Byte) : ByteString :=
  if b < 0x80 then [tolower b]
  else 0xFF :: Aja.lowerString (List.replicate 4 0x46 ++ hex0N (b.setWidth 32) 2)

/-- What is read does not depend on what was read before. -/
lemma Decoding.next_append (pre oss : ByteString) (hexNum : ULWord) (state : DecodeState)
    (chr : Byte) : Decoding.next ⟨pre ++ oss, hexNum, state⟩ chr =
      { Decoding.next ⟨oss, hexNum, state⟩ chr with
        oss := pre ++ (Decoding.next ⟨oss, hexNum, state⟩ chr).oss } := by
  cases state with
  | unreserved =>
      simp only [Decoding.next]
      split_ifs <;> simp
  | firstDigit => rfl
  | secondDigit => simp only [Decoding.next, List.append_assoc]

/-- The same for a string. -/
lemma Decoding.foldl_append (pre : ByteString) (d : Decoding) (s : ByteString) :
    s.foldl Decoding.next { d with oss := pre ++ d.oss } =
      { s.foldl Decoding.next d with oss := pre ++ (s.foldl Decoding.next d).oss } := by
  induction s generalizing d with
  | nil => rfl
  | cons chr s ih =>
      rw [List.foldl_cons, List.foldl_cons, Decoding.next_append]
      exact ih _

/-- One byte, written and read. -/
lemma foldl_next_percentEncodeByte : ∀ b : Byte,
    (percentEncodeByte b).foldl Decoding.next ⟨[], 0, .unreserved⟩ = ⟨reread b, 0, .unreserved⟩ := by
  decide +kernel

lemma foldl_next_lower_percentEncodeByte : ∀ b : Byte,
    (Aja.lowerString (percentEncodeByte b)).foldl Decoding.next ⟨[], 0, .unreserved⟩ =
      ⟨rereadLower b, 0, .unreserved⟩ := by
  decide +kernel

/-- A string whose bytes are written one by one is read one by one. -/
lemma percentDecode_flatMap {f g : Byte → ByteString}
    (h : ∀ b, (f b).foldl Decoding.next ⟨[], 0, .unreserved⟩ = ⟨g b, 0, .unreserved⟩)
    (s : ByteString) : percentDecode (s.flatMap f) = s.flatMap g := by
  suffices hrun : (s.flatMap f).foldl Decoding.next ⟨[], 0, .unreserved⟩ =
      ⟨s.flatMap g, 0, .unreserved⟩ by rw [percentDecode, hrun]
  induction s with
  | nil => rfl
  | cons b s ih =>
      have happend := Decoding.foldl_append (g b) ⟨[], 0, .unreserved⟩ (s.flatMap f)
      simp only [List.append_nil] at happend
      rw [List.flatMap_cons, List.foldl_append, h b, happend, ih, List.flatMap_cons]

lemma percentDecode_percentEncode (s : ByteString) :
    percentDecode (percentEncode s) = s.flatMap reread :=
  percentDecode_flatMap foldl_next_percentEncodeByte s

lemma percentDecode_lower_percentEncode (s : ByteString) :
    percentDecode (Aja.lowerString (percentEncode s)) = s.flatMap rereadLower := by
  rw [percentEncode, Aja.lowerString, List.map_flatMap]
  exact percentDecode_flatMap foldl_next_lower_percentEncodeByte s

/-- A byte of the lower half is read back. -/
lemma reread_of_lt {b : Byte} (h : b < 0x80) : reread b = [b] := if_pos h

lemma one_lt_length_reread {b : Byte} (h : ¬ b < 0x80) : 1 < (reread b).length := by
  rw [reread, if_neg h, List.length_cons, List.length_append]
  exact Nat.lt_add_of_pos_left (Nat.add_pos_left (by decide) _)

lemma length_reread_pos (b : Byte) : 1 ≤ (reread b).length := by
  by_cases h : b < 0x80
  · rw [reread_of_lt h, List.length_singleton]
  · exact (one_lt_length_reread h).le

/-- What is read is not shorter than what was written. -/
lemma length_le_length_flatMap {f : Byte → ByteString} (hf : ∀ b, 1 ≤ (f b).length)
    (s : ByteString) : s.length ≤ (s.flatMap f).length := by
  induction s with
  | nil => exact Nat.le_refl 0
  | cons b s ih =>
      have hb := hf b
      rw [List.flatMap_cons, List.length_append, List.length_cons]
      omega

/-- It is longer where some byte is read as more. -/
lemma length_lt_length_flatMap {f : Byte → ByteString} (hf : ∀ b, 1 ≤ (f b).length)
    {s : ByteString} {b : Byte} (hb : b ∈ s) (hlt : 1 < (f b).length) :
    s.length < (s.flatMap f).length := by
  obtain ⟨pre, suf, rfl⟩ := List.append_of_mem hb
  have hpre := length_le_length_flatMap hf pre
  have hsuf := length_le_length_flatMap hf suf
  simp only [List.flatMap_append, List.flatMap_cons, List.length_append, List.length_cons]
  omega

lemma flatMap_eq_self {f : Byte → ByteString} {s : ByteString} (h : ∀ b ∈ s, f b = [b]) :
    s.flatMap f = s := by
  rw [List.flatMap_congr h]
  exact List.flatMap_singleton' s

/-- **The strings that are read back**: those of bytes of the lower half. -/
lemma percentDecode_percentEncode_iff {s : ByteString} :
    percentDecode (percentEncode s) = s ↔ ∀ b ∈ s, b < 0x80 := by
  rw [percentDecode_percentEncode]
  constructor
  · intro h b hb
    by_contra hhigh
    exact absurd (congrArg List.length h)
      (length_lt_length_flatMap length_reread_pos hb (one_lt_length_reread hhigh)).ne'
  · exact fun h => flatMap_eq_self fun b hb => reread_of_lt (h b hb)

/-! ### The query -/

/-- `aja::join`. -/
def Aja.join (parts : List ByteString) (delim : ByteString) : ByteString :=
  delim.intercalate parts

namespace NTV2DeviceSpecParser

open NTV2Dictionary

variable {d base out : NTV2Dictionary} {x : ByteString × ByteString}

/-- `kConnectParamQuery`. -/
def kConnectParamQuery : ByteString := bytesOf "query"

/-- The parameter of a key. -/
def makeParam (inSrcDict : NTV2Dictionary) (key : ByteString) : ByteString :=
  let val := inSrcDict.valueForKey key
  percentEncode key ++ if val ≠ [] then 0x3D :: percentEncode val else []

/-- The query of a dictionary. -/
def makeQueryString (inSrcDict : NTV2Dictionary) (inLeadQuestion : Bool) : Bool × ByteString :=
  if inSrcDict.mDict.entries.isEmpty then (true, [])
  else
    let keys := inSrcDict.mDict.entries.map Prod.fst
    let params := (keys.filter fun key => !key.isEmpty).map (makeParam inSrcDict)
    (true, (if inLeadQuestion then [0x3F] else []) ++ Aja.join params [0x26])

/-- Read a parameter. -/
def parseParam (outQueryParams : NTV2Dictionary) (str : ByteString) : NTV2Dictionary :=
  if findSub [0x3D] str = none then
    (outQueryParams.insert (percentDecode (Aja.lowerString str)) []).2
  else
    match Aja.splitString str [0x3D] with
    | [] => outQueryParams
    | piece :: pieces =>
        let key := percentDecode (Aja.lowerString piece)
        let value := match pieces with
          | [] => []
          | v :: _ => v
        if key = [] then outQueryParams
        else (outQueryParams.insert key (percentDecode value)).2

/-- Read the query that a dictionary has. -/
def parseQueryParams (inSrcDict outQueryParams : NTV2Dictionary) : Bool × NTV2Dictionary :=
  if !inSrcDict.hasKey kConnectParamQuery then (true, outQueryParams)
  else
    let queryStr := inSrcDict.valueForKey kConnectParamQuery
    let queryStr := if queryStr.head? = some 0x3F then queryStr.tail else queryStr
    (true, (Aja.splitString queryStr [0x26]).foldl parseParam outQueryParams)

/-! ### One parameter -/

/-- The bytes of escapes. -/
lemma mem_percentEncode {s : ByteString} {c : Byte} (hc : c ∈ percentEncode s) :
    isUnreserved c ∨ c = 0x25 := by
  have hbyte : ∀ b : Byte, (percentEncodeByte b).all (fun c => isUnreserved c || c == 0x25) := by
    decide +kernel
  obtain ⟨b, -, hcb⟩ := List.mem_flatMap.mp hc
  simpa using List.all_eq_true.mp (hbyte b) c hcb

/-- A reserved character is not among them. -/
lemma notMem_percentEncode {s : ByteString} {c : Byte} (hc : isUnreserved c = false)
    (hpercent : c ≠ 0x25) : c ∉ percentEncode s := by
  intro hmem
  rcases mem_percentEncode hmem with h | h
  · rw [hc] at h
    cases h
  · exact hpercent h

/-- The parameter of an entry. -/
def paramOf (x : ByteString × ByteString) : ByteString :=
  percentEncode x.1 ++ if x.2 ≠ [] then 0x3D :: percentEncode x.2 else []

/-- What is read where an entry was written. -/
def rereadEntry (x : ByteString × ByteString) : ByteString × ByteString :=
  (x.1.flatMap rereadLower, x.2.flatMap reread)

/-- A byte that is not part of escapes, nor the sign between key and value, is not part of a
parameter. -/
lemma notMem_paramOf {c : Byte} (hc : isUnreserved c = false) (hpercent : c ≠ 0x25)
    (heq : c ≠ 0x3D) : c ∉ paramOf x := by
  rw [paramOf, List.mem_append, not_or]
  refine ⟨notMem_percentEncode hc hpercent, ?_⟩
  split_ifs
  · rw [List.mem_cons, not_or]
    exact ⟨heq, notMem_percentEncode hc hpercent⟩
  · exact List.not_mem_nil

/-- Something is read for each byte of a key. -/
lemma length_rereadLower_pos (b : Byte) : 1 ≤ (rereadLower b).length := by
  rw [rereadLower]
  split_ifs
  · exact Nat.le_refl 1
  · rw [List.length_cons]
    omega

lemma rereadEntry_fst_ne_nil (hkey : x.1 ≠ []) : (rereadEntry x).1 ≠ [] := by
  have hle := length_le_length_flatMap length_rereadLower_pos x.1
  have hpos := List.length_pos_iff.mpr hkey
  exact List.ne_nil_of_length_pos (Nat.lt_of_lt_of_le hpos hle)

/-- **A parameter is read as an entry.** -/
lemma parseParam_paramOf (hkey : x.1 ≠ []) :
    parseParam out (paramOf x) = (out.insert (rereadEntry x).1 (rereadEntry x).2).2 := by
  have hsign : (0x3D : Byte) ∉ percentEncode x.1 := notMem_percentEncode (by decide) (by decide)
  have hsign' : (0x3D : Byte) ∉ percentEncode x.2 := notMem_percentEncode (by decide) (by decide)
  by_cases hvalue : x.2 = []
  · have hparam : paramOf x = percentEncode x.1 := by
      rw [paramOf, if_neg (not_not.mpr hvalue), List.append_nil]
    rw [parseParam, hparam, if_pos (findSub_eq_none (List.mem_singleton_self _) hsign),
      percentDecode_lower_percentEncode]
    rw [rereadEntry, hvalue, List.flatMap_nil]
  · have hparam : paramOf x = percentEncode x.1 ++ 0x3D :: percentEncode x.2 := by
      rw [paramOf, if_pos hvalue]
    have hfind : findSub [0x3D] (paramOf x) ≠ none := by
      rw [findSub_singleton_ne_none_iff, hparam]
      exact List.mem_append_right _ List.mem_cons_self
    rw [parseParam, if_neg hfind, Aja.splitString_singleton, hparam,
      List.splitOn_append_cons_self_of_not_mem hsign, List.splitOn_eq_singleton hsign']
    dsimp only
    rw [percentDecode_lower_percentEncode, percentDecode_percentEncode]
    exact if_neg (rereadEntry_fst_ne_nil hkey)

/-! ### The whole query -/

/-- The parameters are those of the entries with a key. -/
lemma map_makeParam (d : NTV2Dictionary) :
    ((d.mDict.entries.map Prod.fst).filter fun key => !key.isEmpty).map (makeParam d) =
      (d.mDict.entries.filter fun x => !x.1.isEmpty).map paramOf := by
  rw [List.filter_map, List.map_map]
  refine List.map_congr_left fun x hx => ?_
  rw [Function.comp_apply, makeParam, paramOf, valueForKey_of_mem (List.mem_filter.mp hx).1]

/-- The query without the question mark. -/
def queryOf (d : NTV2Dictionary) : ByteString :=
  Aja.join ((d.mDict.entries.filter fun x => !x.1.isEmpty).map paramOf) [0x26]

/-- The query is that of the entries, behind a question mark if there is an entry. -/
lemma makeQueryString_eq (d : NTV2Dictionary) (inLeadQuestion : Bool) :
    (makeQueryString d inLeadQuestion).2 = queryOf d ∨
      (makeQueryString d inLeadQuestion).2 = 0x3F :: queryOf d := by
  rw [makeQueryString]
  by_cases hempty : d.mDict.entries.isEmpty = true
  · rw [if_pos hempty, queryOf, List.isEmpty_iff.mp hempty]
    exact .inl rfl
  · rw [if_neg hempty]
    dsimp only
    rw [map_makeParam]
    cases inLeadQuestion with
    | false => exact .inl rfl
    | true => exact .inr rfl

/-- A byte that is not part of the parameters, nor between them, is not part of the query. -/
lemma notMem_queryOf {c : Byte} (hc : isUnreserved c = false) (hpercent : c ≠ 0x25)
    (heq : c ≠ 0x3D) (hamp : c ≠ 0x26) : c ∉ queryOf d := by
  intro hmem
  rw [queryOf, Aja.join] at hmem
  generalize d.mDict.entries.filter (fun x => !x.1.isEmpty) = l at hmem
  induction l with
  | nil => cases hmem
  | cons x l ih =>
      cases l with
      | nil =>
          rw [List.map_singleton, List.intercalate_singleton] at hmem
          exact notMem_paramOf hc hpercent heq hmem
      | cons y l =>
          rw [List.map_cons, List.map_cons, List.intercalate_cons_cons, List.mem_append,
            List.mem_append, List.mem_singleton] at hmem
          rcases hmem with (hx | hsep) | hrest
          · exact notMem_paramOf hc hpercent heq hx
          · exact hamp hsep
          · exact ih hrest

/-- What is read where a dictionary was written. -/
def rereadDict (d : NTV2Dictionary) : NTV2Dictionary :=
  ((d.mDict.entries.filter fun x => !x.1.isEmpty).map rereadEntry).foldl
    (fun out x => (out.insert x.1 x.2).2) empty

/-- The parameters are read one after the other. -/
lemma foldl_parseParam {l : List (ByteString × ByteString)} (hl : ∀ x ∈ l, x.1 ≠ []) :
    (l.map paramOf).foldl parseParam out =
      (l.map rereadEntry).foldl (fun out x => (out.insert x.1 x.2).2) out := by
  induction l generalizing out with
  | nil => rfl
  | cons x l ih =>
      obtain ⟨hx, hl⟩ := List.forall_mem_cons.mp hl
      rw [List.map_cons, List.map_cons, List.foldl_cons, List.foldl_cons, parseParam_paramOf hx,
        ih hl]

/-- The pieces of the query are read as the entries. -/
lemma foldl_queryOf (d : NTV2Dictionary) :
    (Aja.splitString (queryOf d) [0x26]).foldl parseParam empty = rereadDict d := by
  rw [Aja.splitString_singleton, queryOf, rereadDict, Aja.join]
  have hkeys : ∀ x ∈ d.mDict.entries.filter (fun x => !x.1.isEmpty), x.1 ≠ [] := by
    intro x hx
    simpa using (List.mem_filter.mp hx).2
  generalize d.mDict.entries.filter (fun x => !x.1.isEmpty) = l at hkeys ⊢
  by_cases hl : l = []
  · subst hl
    decide
  · rw [List.splitOn_intercalate _ _ (by simpa using hl), foldl_parseParam hkeys]
    intro param hparam
    obtain ⟨x, -, rfl⟩ := List.mem_map.mp hparam
    exact notMem_paramOf (by decide) (by decide) (by decide)

/-- A question mark before the query is erased, and there is no other. -/
lemma stripLead_query (h : base.valueForKey kConnectParamQuery = queryOf d ∨
    base.valueForKey kConnectParamQuery = 0x3F :: queryOf d) :
    (if (base.valueForKey kConnectParamQuery).head? = some 0x3F then
      (base.valueForKey kConnectParamQuery).tail
    else base.valueForKey kConnectParamQuery) = queryOf d := by
  rcases h with h | h
  · rw [h]
    refine if_neg fun hhead => ?_
    exact notMem_queryOf (d := d) (by decide) (by decide) (by decide) (by decide)
      (List.mem_of_mem_head? hhead)
  · rw [h]
    exact if_pos rfl

/-- A query can be stored. -/
lemma storable_query (d : NTV2Dictionary) (inLeadQuestion : Bool) :
    Storable (kConnectParamQuery, (makeQueryString d inLeadQuestion).2) := by
  have hclean : ∀ c, isUnreserved c = false → c ≠ 0x25 → c ≠ 0x3D → c ≠ 0x26 → c ≠ 0x3F →
      c ∉ (makeQueryString d inLeadQuestion).2 := by
    intro c hc hpercent heq hamp hquestion
    have hquery : c ∉ queryOf d := notMem_queryOf hc hpercent heq hamp
    rcases makeQueryString_eq d inLeadQuestion with h | h
    · rwa [h]
    · rw [h, List.mem_cons, not_or]
      exact ⟨hquestion, hquery⟩
  have hkey : kConnectParamQuery ≠ [] ∧ tab ∉ kConnectParamQuery ∧ newline ∉ kConnectParamQuery := by
    decide
  exact ⟨hkey.1, hkey.2.1, hkey.2.2,
    hclean tab (by decide) (by decide) (by decide) (by decide) (by decide),
    hclean newline (by decide) (by decide) (by decide) (by decide) (by decide)⟩

/-- **The dictionary that is read** where one was written. -/
lemma parseQueryParams_makeQueryString (d base : NTV2Dictionary) (inLeadQuestion : Bool) :
    parseQueryParams (base.insert kConnectParamQuery (makeQueryString d inLeadQuestion).2).2 empty =
      (true, rereadDict d) := by
  have hstored := insert_of_storable (d := base) (storable_query d inLeadQuestion)
  dsimp only at hstored
  rw [hstored]
  set src : NTV2Dictionary :=
    ⟨base.mDict.insert kConnectParamQuery (makeQueryString d inLeadQuestion).2⟩
  have hmem : (kConnectParamQuery, (makeQueryString d inLeadQuestion).2) ∈ src.mDict.entries :=
    mem_entries_insert_self
  have hvalue : src.valueForKey kConnectParamQuery = (makeQueryString d inLeadQuestion).2 :=
    valueForKey_of_mem hmem
  have hhas : src.hasKey kConnectParamQuery = true := hasKey_of_mem hmem
  rw [parseQueryParams, hhas]
  simp only [Bool.not_true, Bool.false_eq_true, if_false]
  rw [stripLead_query (hvalue ▸ makeQueryString_eq d inLeadQuestion), foldl_queryOf]

/-! ### What comes back -/

lemma rereadLower_of_lt {b : Byte} (h : b < 0x80) (hupper : isupper b = false) :
    rereadLower b = [b] := by
  rw [rereadLower, if_pos h, tolower, if_neg (Bool.eq_false_iff.mp hupper)]

/-- A byte of the upper half is read as more bytes, one of them of the upper half. -/
lemma rereadLower_of_not_lt {b : Byte} (h : ¬ b < 0x80) :
    1 < (rereadLower b).length ∧ (0xFF : Byte) ∈ rereadLower b := by
  rw [rereadLower, if_neg h, Aja.lowerString, List.length_cons, List.length_map, List.length_append]
  exact ⟨Nat.lt_add_of_pos_left (Nat.add_pos_left (by decide) _), List.mem_cons_self⟩

lemma notMem_reread_of_ne : ∀ c ∈ [tab, newline], ∀ b : Byte, b ≠ c →
    c ∉ reread b ∧ c ∉ rereadLower b := by
  decide +kernel

/-- What is read where a storable entry was written can be stored. -/
lemma storable_rereadEntry (hx : Storable x) : Storable (rereadEntry x) := by
  have hvalue : ∀ c ∈ [tab, newline], c ∉ x.2 → c ∉ (rereadEntry x).2 := by
    intro c hc hnot hmem
    obtain ⟨b, hb, hcb⟩ := List.mem_flatMap.mp hmem
    exact (notMem_reread_of_ne c hc b fun h => hnot (h ▸ hb)).1 hcb
  have hkey : ∀ c ∈ [tab, newline], c ∉ x.1 → c ∉ (rereadEntry x).1 := by
    intro c hc hnot hmem
    obtain ⟨b, hb, hcb⟩ := List.mem_flatMap.mp hmem
    exact (notMem_reread_of_ne c hc b fun h => hnot (h ▸ hb)).2 hcb
  exact ⟨rereadEntry_fst_ne_nil hx.key_ne_nil, hkey tab (by simp) hx.tab_notMem_key,
    hkey newline (by simp) hx.newline_notMem_key, hvalue tab (by simp) hx.tab_notMem_value,
    hvalue newline (by simp) hx.newline_notMem_value⟩

/-- Where the entries are storable, the dictionary that is read is the map of what is read. -/
lemma rereadDict_of_storable (hd : ∀ x ∈ d.mDict.entries, Storable x) :
    rereadDict d = ⟨SortedMap.ofList (d.mDict.entries.map rereadEntry)⟩ := by
  have hfilter : d.mDict.entries.filter (fun x => !x.1.isEmpty) = d.mDict.entries :=
    List.filter_eq_self.mpr fun x hx => by simpa using (hd x hx).key_ne_nil
  rw [rereadDict, hfilter, foldl_insert]
  · rfl
  · intro y hy
    obtain ⟨x, hx, rfl⟩ := List.mem_map.mp hy
    exact storable_rereadEntry (hd x hx)

/-- An entry of bytes of the lower half. -/
def IsLow (x : ByteString × ByteString) : Prop := (∀ b ∈ x.1, b < 0x80) ∧ ∀ b ∈ x.2, b < 0x80

/-- Where keys come back, they have no bytes of the upper half: the key that such a key is read as
is longer. -/
lemma keys_low_of_rereadDict (hd : ∀ x ∈ d.mDict.entries, Storable x) (h : rereadDict d = d)
    (hx : x ∈ d.mDict.entries) : ∀ b ∈ x.1, b < 0x80 := by
  by_contra! hhigh
  -- Every such key would be read as a longer one, without end.
  have hlonger : ∀ n, ∃ y ∈ d.mDict.entries, n ≤ y.1.length ∧ ∃ b ∈ y.1, ¬ b < (0x80 : Byte) := by
    intro n
    induction n with
    | zero =>
        obtain ⟨b, hb, hle⟩ := hhigh
        exact ⟨x, hx, Nat.zero_le _, b, hb, not_lt.mpr hle⟩
    | succ n ih =>
        obtain ⟨y, hy, hlength, b, hb, hbhigh⟩ := ih
        obtain ⟨hmore, hFF⟩ := rereadLower_of_not_lt hbhigh
        obtain ⟨z, hz, hkey⟩ :=
          SortedMap.exists_mem_entries_ofList (List.mem_map_of_mem (f := rereadEntry) hy)
        have hentries := congrArg (fun d => d.mDict.entries)
          ((rereadDict_of_storable hd).symm.trans h)
        refine ⟨z, hentries ▸ hz, ?_, 0xFF, ?_, by decide⟩
        · rw [hkey]
          exact Nat.lt_of_le_of_lt hlength
            (length_lt_length_flatMap length_rereadLower_pos hb hmore)
        · rw [hkey]
          exact List.mem_flatMap.mpr ⟨b, hb, hFF⟩
  obtain ⟨y, hy, hlength, -⟩ := hlonger ((d.mDict.entries.map fun y => y.1.length).sum + 1)
  have hle := List.le_sum_of_mem (List.mem_map_of_mem (f := fun y => y.1.length) hy)
  omega

/-- **The dictionaries that come back**: those of storable entries of the lower half. -/
lemma rereadDict_eq_self_iff (hkeys : ∀ x ∈ d.mDict.entries, ∀ b ∈ x.1, isupper b = false) :
    rereadDict d = d ↔ ∀ x ∈ d.mDict.entries, Storable x ∧ IsLow x := by
  have hkey : ∀ x ∈ d.mDict.entries, (∀ b ∈ x.1, b < 0x80) → (rereadEntry x).1 = x.1 :=
    fun x hx hlow => flatMap_eq_self fun b hb => rereadLower_of_lt (hlow b hb) (hkeys x hx b hb)
  constructor
  · intro h
    have hd : ∀ x ∈ d.mDict.entries, Storable x := by
      rw [← h]
      exact storable_foldl_insert _ (d := empty) (by simp [empty, SortedMap.empty])
    have hlow : ∀ x ∈ d.mDict.entries, ∀ b ∈ x.1, b < 0x80 :=
      fun x hx => keys_low_of_rereadDict hd h hx
    have hsorted : (d.mDict.entries.map rereadEntry).Pairwise fun x y => x.1 < y.1 := by
      refine List.pairwise_map.mpr (d.mDict.sorted.imp_of_mem fun {x y} hx hy hlt => ?_)
      rwa [hkey x hx (hlow x hx), hkey y hy (hlow y hy)]
    have hsame : d.mDict.entries.map rereadEntry = d.mDict.entries := by
      have hentries := congrArg (fun d => d.mDict.entries)
        ((rereadDict_of_storable hd).symm.trans h)
      rwa [SortedMap.entries_ofList_of_sorted hsorted] at hentries
    intro x hx
    have hread : rereadEntry x = x :=
      List.map_inj_left.mp (hsame.trans (List.map_id _).symm) x hx
    refine ⟨hd x hx, hlow x hx, percentDecode_percentEncode_iff.mp ?_⟩
    rw [percentDecode_percentEncode]
    exact congrArg Prod.snd hread
  · intro h
    have hsame : d.mDict.entries.map rereadEntry = d.mDict.entries := by
      conv_rhs => rw [← List.map_id d.mDict.entries]
      refine List.map_congr_left fun x hx => Prod.ext (hkey x hx (h x hx).2.1) ?_
      exact flatMap_eq_self fun b hb => reread_of_lt ((h x hx).2.2 b hb)
    rw [rereadDict_of_storable fun x hx => (h x hx).1, hsame]
    exact congrArg NTV2Dictionary.mk
      (SortedMap.ext (SortedMap.entries_ofList_of_sorted d.mDict.sorted))

/-- **Where the query codec keeps strings and dictionaries**: a string is read back when its bytes
are of the lower half, and a dictionary without upper-case letters in its keys when its entries can
be stored and are of the lower half. -/
theorem queryCodec_iff (s : ByteString) (d base : NTV2Dictionary) (inLeadQuestion : Bool)
    (hkeys : ∀ x ∈ d.mDict.entries, ∀ b ∈ x.1, isupper b = false) :
    (percentDecode (percentEncode s) = s ↔ ∀ b ∈ s, b < 0x80) ∧
    (parseQueryParams (base.insert kConnectParamQuery (makeQueryString d inLeadQuestion).2).2 empty =
        (true, d) ↔
      ∀ x ∈ d.mDict.entries, Storable x ∧ (∀ b ∈ x.1, b < 0x80) ∧ ∀ b ∈ x.2, b < 0x80) := by
  refine ⟨percentDecode_percentEncode_iff, ?_⟩
  rw [parseQueryParams_makeQueryString, Prod.mk.injEq, eq_self_iff_true, true_and]
  exact rereadDict_eq_self_iff hkeys

/-- A dictionary with delimiters in its value comes back. -/
theorem queryCodec_iff_delimiters :
    parseQueryParams (empty.insert kConnectParamQuery
        (makeQueryString (empty.insert [0x61] [0x26, 0x3D]).2 true).2).2 empty =
      (true, (empty.insert [0x61] [0x26, 0x3D]).2) :=
  (queryCodec_iff [] (empty.insert [0x61] [0x26, 0x3D]).2 empty true (by decide)).2.mpr fun x hx => by
    have hentries : (empty.insert [0x61] [0x26, 0x3D]).2.mDict.entries =
        [([0x61], [0x26, 0x3D])] := by decide
    rw [hentries, List.mem_singleton] at hx
    subst hx
    exact ⟨⟨by decide, by decide, by decide, by decide, by decide⟩, by decide, by decide⟩

/-- A byte of the upper half is written with eight digits, as a string and as a value. -/
theorem not_queryCodec_0x80 :
    ¬ ((∀ s, percentDecode (percentEncode s) = s) ∧
      ∀ (d base : NTV2Dictionary) inLeadQuestion,
        (∀ x ∈ d.mDict.entries, ∀ b ∈ x.1, isupper b = false) → parseQueryParams
          (base.insert kConnectParamQuery (makeQueryString d inLeadQuestion).2).2 empty =
            (true, d)) := by
  rintro ⟨hstring, -⟩
  exact absurd (hstring [0x80]) (by decide)

end NTV2DeviceSpecParser

end LibAjaNtv2
