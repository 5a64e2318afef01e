import LibAjaNtv2.Lib.SortedMap
import LibAjaNtv2.Lib.Substring
import LibAjaNtv2.Rpc.Nub

/-!
Dictionaries and their text (`ntv2nubaccess.cpp`, `common.cpp`).

* `Aja.splitString`: the pieces between delimiters; `splitString_singleton`: one byte delimits;
* `NTV2Dictionary`: the map of strings with `insert`, `updateFrom` and `addFrom`;
* `serialize`, `deserialize`: a line for each entry, with a tab between key and value;
* `Storable`, `Reachable.storable`: **what the calls store has no tab, no newline and a key**;
* `deserialize_true_iff`: **the texts that are accepted**;
* `deserialize_serialize`: **the text of a dictionary gives it back**.
-/

namespace LibAjaNtv2

/-! ### Strings -/

/-- A string of bytes. -/
abbrev ByteString := List Byte

/-- Bytes in the order of their values, as strings compare them. -/
instance : LinearOrder Byte where
  le_refl _ := Nat.le_refl _
  le_trans _ _ _ := Nat.le_trans
  le_antisymm _ _ h h' := BitVec.eq_of_toNat_eq (Nat.le_antisymm h h')
  le_total _ _ := Nat.le_total _ _
  toDecidableLE := inferInstance
  lt_iff_le_not_ge _ _ := Nat.lt_iff_le_and_not_ge

/-- The bytes of a text of the code. -/
def bytesOf (text : String) : ByteString := text.toList.map fun c => BitVec.ofNat 8 c.toNat

namespace Aja

/-- The pieces from a place of the string on. -/
def splitStringFrom (inStr inDelim : ByteString) : ℕ → ℕ → List ByteString
  | 0, _ => []
  | rounds + 1, startPos =>
      match findSub inDelim (inStr.drop startPos) with
      | some offset =>
          (inStr.drop startPos).take offset ::
            splitStringFrom inStr inDelim rounds (startPos + offset + inDelim.length)
      | none =>
          if startPos < inStr.length then [inStr.drop startPos]
          else if startPos = inStr.length then [[]]
          else []

/-- The pieces of a string between delimiters. -/
def splitString (inStr inDelim : ByteString) : List ByteString :=
  splitStringFrom inStr inDelim (inStr.length + 1) 0

/-- From a place on, the pieces are those of the rest. -/
lemma splitStringFrom_singleton {inStr : ByteString} {delim : Byte} {rounds startPos : ℕ}
    (hpos : startPos ≤ inStr.length) (hrounds : inStr.length - startPos < rounds) :
    splitStringFrom inStr [delim] rounds startPos = (inStr.drop startPos).splitOn delim := by
  induction rounds generalizing startPos with
  | zero => omega
  | succ rounds ih =>
      rw [splitStringFrom]
      by_cases hmem : delim ∈ inStr.drop startPos
      · obtain ⟨item, rest, heq, hitem⟩ := List.eq_append_cons_of_mem hmem
        have hfind : findSub [delim] (inStr.drop startPos) = some item.length := by
          rw [heq]
          exact findSub_append hitem
        have hnext : inStr.drop (startPos + item.length + 1) = rest := by
          rw [Nat.add_assoc, ← List.drop_drop, heq]
          simp
        have hlength : startPos + item.length + 1 + rest.length = inStr.length := by
          have := congrArg List.length heq
          rw [List.length_drop, List.length_append, List.length_cons] at this
          omega
        rw [hfind]
        dsimp only [List.length_singleton]
        rw [ih (by omega) (by omega), hnext, heq, List.take_left,
          List.splitOn_append_cons_self_of_not_mem hitem]
      · rw [findSub_eq_none (List.mem_singleton_self delim) hmem, List.splitOn_eq_singleton hmem]
        dsimp only
        split_ifs with hlt heq
        · rfl
        · rw [List.drop_of_length_le heq.ge]
        · omega

/-- **One byte delimits**: the pieces are those between its places. -/
lemma splitString_singleton (inStr : ByteString) (delim : Byte) :
    splitString inStr [delim] = inStr.splitOn delim :=
  splitStringFrom_singleton (Nat.zero_le _) (by omega)

end Aja

/-! ### The dictionary -/

/-- A set of key and value pairs. -/
structure NTV2Dictionary where
  mDict : SortedMap ByteString ByteString
  deriving DecidableEq

/-- The tab between key and value. -/
def tab : Byte := 0x09

/-- The end of an entry's line. -/
def newline : Byte := 0x0A

namespace NTV2Dictionary

variable {d inDict : NTV2Dictionary} {inKey inValue : ByteString} {x : ByteString × ByteString}

/-- No key and value pairs. -/
def empty : NTV2Dictionary := ⟨SortedMap.empty⟩

/-- Whether there is a value for the key. -/
def hasKey (d : NTV2Dictionary) (inKey : ByteString) : Bool :=
  d.mDict.entries.any fun x => x.1 = inKey

/-- The value for the key, or the empty string. -/
def valueForKey (d : NTV2Dictionary) (inKey : ByteString) : ByteString :=
  match d.mDict.entries.find? fun x => x.1 = inKey with
  | some x => x.2
  | none => []

/-- Store a value, in place of the one that the key had. -/
def insert (d : NTV2Dictionary) (inKey inValue : ByteString) : Bool × NTV2Dictionary :=
  if inKey = [] then (false, d)
  else if findSub [tab] inKey ≠ none then (false, d)
  else if findSub [newline] inKey ≠ none then (false, d)
  else if findSub [tab] inValue ≠ none then (false, d)
  else if findSub [newline] inValue ≠ none then (false, d)
  else (true, ⟨d.mDict.insert inKey inValue⟩)

/-- Take the values of the keys that are there, and count them. -/
def updateFrom (d inDict : NTV2Dictionary) : ℕ × NTV2Dictionary :=
  inDict.mDict.entries.foldl (fun (numUpdated, d) x =>
    if d.hasKey x.1 then (numUpdated + 1, ⟨d.mDict.insert x.1 x.2⟩) else (numUpdated, d)) (0, d)

/-- Take the entries whose keys are not there, and count them. -/
def addFrom (d inDict : NTV2Dictionary) : ℕ × NTV2Dictionary :=
  inDict.mDict.entries.foldl (fun (numAdded, d) x =>
    if !d.hasKey x.1 then (numAdded + 1, ⟨d.mDict.insert x.1 x.2⟩) else (numAdded, d)) (0, d)

/-- The lines of the entries. -/
def serializeEntries : List (ByteString × ByteString) → ByteString
  | [] => []
  | [x] => x.1 ++ [tab] ++ x.2
  | x :: y :: rest => x.1 ++ [tab] ++ x.2 ++ [newline] ++ serializeEntries (y :: rest)

/-- The text of the dictionary, and whether there is one. -/
def serialize (d : NTV2Dictionary) : Bool × ByteString :=
  let outStr := serializeEntries d.mDict.entries
  (!outStr.isEmpty, outStr)

/-- What `deserialize` keeps from line to line. -/
structure Reading where
  badKVPairs : ℕ
  insertFailures : ℕ
  dict : NTV2Dictionary

/-- Read a line. -/
def Reading.next (r : Reading) (line : ByteString) : Reading :=
  match Aja.splitString line [tab] with
  | [k, v] =>
      let (stored, dict) := r.dict.insert k v
      { r with
        dict := dict
        insertFailures := if stored then r.insertFailures else r.insertFailures + 1 }
  | _ => { r with badKVPairs := r.badKVPairs + 1 }

/-- Read a text. -/
def deserialize (inStr : ByteString) : Bool × NTV2Dictionary :=
  let r := (Aja.splitString inStr [newline]).foldl Reading.next ⟨0, 0, empty⟩
  (!r.dict.mDict.entries.isEmpty && r.badKVPairs == 0 && r.insertFailures == 0, r.dict)

/-- The value that an entry has. -/
lemma valueForKey_of_mem (hx : x ∈ d.mDict.entries) : d.valueForKey x.1 = x.2 := by
  rw [valueForKey]
  cases hfind : d.mDict.entries.find? fun y => y.1 = x.1 with
  | none => simpa using List.find?_eq_none.mp hfind x hx
  | some y =>
      have hkey : y.1 = x.1 := by simpa using List.find?_some hfind
      rw [SortedMap.eq_of_fst_eq (List.mem_of_find?_eq_some hfind) hx hkey]

lemma hasKey_of_mem (hx : x ∈ d.mDict.entries) : d.hasKey x.1 = true :=
  List.any_eq_true.mpr ⟨x, hx, by simp⟩

/-! ### What is stored -/

/-- An entry with a key, and without tabs and ends of lines. -/
structure Storable (x : ByteString × ByteString) : Prop where
  key_ne_nil : x.1 ≠ []
  tab_notMem_key : tab ∉ x.1
  newline_notMem_key : newline ∉ x.1
  tab_notMem_value : tab ∉ x.2
  newline_notMem_value : newline ∉ x.2

lemma findSub_singleton_ne_none_iff {b : Byte} {s : ByteString} :
    findSub [b] s ≠ none ↔ b ∈ s := by
  rw [findSub_ne_none_iff, List.singleton_infix_iff]

/-- An entry that can be stored is. -/
lemma insert_of_storable (h : Storable x) :
    d.insert x.1 x.2 = (true, ⟨d.mDict.insert x.1 x.2⟩) := by
  simp only [insert, findSub_singleton_ne_none_iff]
  rw [if_neg h.key_ne_nil, if_neg h.tab_notMem_key, if_neg h.newline_notMem_key,
    if_neg h.tab_notMem_value, if_neg h.newline_notMem_value]

/-- Another one leaves the dictionary as it is. -/
lemma insert_of_not_storable (h : ¬ Storable x) : d.insert x.1 x.2 = (false, d) := by
  simp only [insert, findSub_singleton_ne_none_iff]
  split_ifs with hkey hkt hkn hvt hvn
  · rfl
  · rfl
  · rfl
  · rfl
  · rfl
  · exact absurd ⟨hkey, hkt, hkn, hvt, hvn⟩ h

lemma mem_entries_insert : x ∈ (d.mDict.insert inKey inValue).entries ↔
    x = (inKey, inValue) ∨ x ∈ d.mDict.entries ∧ x.1 ≠ inKey :=
  SortedMap.mem_insertEntry d.mDict.sorted

lemma mem_entries_insert_self : (inKey, inValue) ∈ (d.mDict.insert inKey inValue).entries :=
  mem_entries_insert.mpr (.inl rfl)

/-- Insertions of storable entries keep the entries storable. -/
lemma storable_insert (hd : ∀ y ∈ d.mDict.entries, Storable y) (hx : Storable x) :
    ∀ y ∈ (d.mDict.insert x.1 x.2).entries, Storable y := by
  intro y hy
  rcases mem_entries_insert.mp hy with rfl | ⟨hy, -⟩
  · exact hx
  · exact hd y hy

/-- A call of `insert` keeps the entries storable. -/
lemma storable_insert_snd (x : ByteString × ByteString) (hd : ∀ y ∈ d.mDict.entries, Storable y) :
    ∀ y ∈ (d.insert x.1 x.2).2.mDict.entries, Storable y := by
  by_cases hx : Storable x
  · rw [insert_of_storable hx]
    exact storable_insert hd hx
  · rw [insert_of_not_storable hx]
    exact hd

/-- Insertions one after the other make the map of the entries. -/
lemma foldl_insert (d : NTV2Dictionary) {l : List (ByteString × ByteString)}
    (hl : ∀ y ∈ l, Storable y) : l.foldl (fun d x => (d.insert x.1 x.2).2) d =
      ⟨l.foldl (fun m x => m.insert x.1 x.2) d.mDict⟩ := by
  induction l generalizing d with
  | nil => rfl
  | cons z l ih =>
      obtain ⟨hz, hl⟩ := List.forall_mem_cons.mp hl
      rw [List.foldl_cons, insert_of_storable hz, ih _ hl, List.foldl_cons]

/-- Insertions one after the other leave storable entries. -/
lemma storable_foldl_insert (l : List (ByteString × ByteString))
    (hd : ∀ y ∈ d.mDict.entries, Storable y) :
    ∀ y ∈ (l.foldl (fun d x => (d.insert x.1 x.2).2) d).mDict.entries, Storable y := by
  induction l generalizing d with
  | nil => exact hd
  | cons z l ih =>
      exact ih (storable_insert_snd z hd)

/-- So does a walk over storable entries that inserts some of them. -/
lemma storable_foldl {f : ℕ × NTV2Dictionary → ByteString × ByteString → ℕ × NTV2Dictionary}
    (hf : ∀ n d x, (f (n, d) x).2 = d ∨ (f (n, d) x).2 = ⟨d.mDict.insert x.1 x.2⟩)
    {l : List (ByteString × ByteString)} (hl : ∀ y ∈ l, Storable y) {n : ℕ}
    (hd : ∀ y ∈ d.mDict.entries, Storable y) :
    ∀ y ∈ (l.foldl f (n, d)).2.mDict.entries, Storable y := by
  induction l generalizing n d with
  | nil => exact hd
  | cons z l ih =>
      obtain ⟨hz, hl⟩ := List.forall_mem_cons.mp hl
      refine ih hl ?_
      rcases hf n d z with h | h
      · rw [h]
        exact hd
      · rw [h]
        exact storable_insert hd hz

/-- The dictionaries that calls of `insert`, `updateFrom` and `addFrom` make. -/
inductive Reachable : NTV2Dictionary → Prop
  | empty : Reachable empty
  | insert (d : NTV2Dictionary) (inKey inValue : ByteString) :
      Reachable d → Reachable (d.insert inKey inValue).2
  | updateFrom (d inDict : NTV2Dictionary) :
      Reachable d → Reachable inDict → Reachable (d.updateFrom inDict).2
  | addFrom (d inDict : NTV2Dictionary) :
      Reachable d → Reachable inDict → Reachable (d.addFrom inDict).2

/-- **The entries of the dictionaries that the calls make** are storable. -/
lemma Reachable.storable (h : Reachable d) : ∀ y ∈ d.mDict.entries, Storable y := by
  induction h with
  | empty => simp [NTV2Dictionary.empty, SortedMap.empty]
  | insert d inKey inValue _ ih => exact storable_insert_snd (inKey, inValue) ih
  | updateFrom d inDict _ _ ih ihDict =>
      refine storable_foldl (fun n d x => ?_) ihDict ih
      dsimp only
      split_ifs
      · exact .inr rfl
      · exact .inl rfl
  | addFrom d inDict _ _ ih ihDict =>
      refine storable_foldl (fun n d x => ?_) ihDict ih
      dsimp only
      split_ifs
      · exact .inr rfl
      · exact .inl rfl

/-! ### Lines -/

/-- The line of an entry. -/
def lineOf (x : ByteString × ByteString) : ByteString := x.1 ++ [tab] ++ x.2

/-- The lines of the entries are joined by the ends of lines. -/
lemma serializeEntries_eq (l : List (ByteString × ByteString)) :
    serializeEntries l = [newline].intercalate (l.map lineOf) := by
  induction l with
  | nil => rfl
  | cons x l ih =>
      cases l with
      | nil => rw [serializeEntries, List.map_singleton, List.intercalate_singleton, lineOf]
      | cons y l =>
          rw [serializeEntries, ih]
          simp only [List.map_cons, List.intercalate_cons_cons, lineOf]

lemma splitOn_lineOf (h : Storable x) : (lineOf x).splitOn tab = [x.1, x.2] := by
  rw [lineOf, List.append_assoc, List.singleton_append,
    List.splitOn_append_cons_self_of_not_mem h.tab_notMem_key,
    List.splitOn_eq_singleton h.tab_notMem_value]

/-- An end of line is not part of a line. -/
lemma newline_notMem_lineOf (h : Storable x) : newline ∉ lineOf x := by
  rw [lineOf, List.mem_append, List.mem_append, List.mem_singleton]
  rintro ((hkey | htab) | hvalue)
  · exact h.newline_notMem_key hkey
  · exact absurd htab (by decide)
  · exact h.newline_notMem_value hvalue

/-- The line of an entry is read. -/
lemma Reading.next_lineOf (r : Reading) (h : Storable x) :
    r.next (lineOf x) = { r with dict := ⟨r.dict.mDict.insert x.1 x.2⟩ } := by
  rw [Reading.next, Aja.splitString_singleton, splitOn_lineOf h]
  dsimp only
  rw [insert_of_storable h]
  rfl

/-- Another line is counted as a failure. -/
lemma Reading.next_not_lineOf (r : Reading) {line : ByteString}
    (h : ∀ x, Storable x → line ≠ lineOf x) : r.badKVPairs + r.insertFailures <
      (r.next line).badKVPairs + (r.next line).insertFailures := by
  rw [Reading.next, Aja.splitString_singleton]
  split
  · rename_i k v hpieces
    have hline : line = lineOf (k, v) := by
      rw [← @List.intercalate_splitOn _ line _ _ tab, hpieces]
      simp [lineOf, List.intercalate]
    have hnot : ¬ Storable (k, v) := fun hs => h _ hs hline
    have hinsert := insert_of_not_storable (d := r.dict) hnot
    dsimp only at hinsert ⊢
    rw [hinsert]
    simp
  · dsimp only
    omega

/-- Failures are never taken back. -/
lemma Reading.next_le (r : Reading) (line : ByteString) : r.badKVPairs + r.insertFailures ≤
    (r.next line).badKVPairs + (r.next line).insertFailures := by
  by_cases h : ∃ x, Storable x ∧ line = lineOf x
  · obtain ⟨x, hx, rfl⟩ := h
    rw [r.next_lineOf hx]
  · exact (r.next_not_lineOf fun x hx heq => h ⟨x, hx, heq⟩).le

/-- The lines of entries are read one after the other. -/
lemma Reading.foldl_lines (r : Reading) {l : List (ByteString × ByteString)}
    (hl : ∀ x ∈ l, Storable x) : (l.map lineOf).foldl Reading.next r =
      { r with dict := ⟨l.foldl (fun m x => m.insert x.1 x.2) r.dict.mDict⟩ } := by
  induction l generalizing r with
  | nil => rfl
  | cons x l ih =>
      obtain ⟨hx, hl⟩ := List.forall_mem_cons.mp hl
      rw [List.map_cons, List.foldl_cons, r.next_lineOf hx, ih _ hl, List.foldl_cons]

/-- Where nothing fails, every line is that of an entry. -/
lemma Reading.exists_entries {r : Reading} {lines : List ByteString}
    (h : (lines.foldl Reading.next r).badKVPairs + (lines.foldl Reading.next r).insertFailures
      ≤ r.badKVPairs + r.insertFailures) :
    ∃ l : List (ByteString × ByteString), (∀ x ∈ l, Storable x) ∧ lines = l.map lineOf := by
  induction lines using List.reverseRecOn with
  | nil => exact ⟨[], by simp, rfl⟩
  | append_singleton lines line ih =>
      rw [List.foldl_append, List.foldl_cons, List.foldl_nil] at h
      set r' := lines.foldl Reading.next r with hr'
      obtain ⟨l, hl, rfl⟩ := ih ((r'.next_le line).trans h)
      by_cases hx : ∃ x, Storable x ∧ line = lineOf x
      · obtain ⟨x, hx, rfl⟩ := hx
        refine ⟨l ++ [x], fun y hy => ?_, by simp⟩
        rcases List.mem_append.mp hy with hy | hy
        · exact hl y hy
        · exact List.mem_singleton.mp hy ▸ hx
      · have hlt := r'.next_not_lineOf fun x hs heq => hx ⟨x, hs, heq⟩
        rw [hr', r.foldl_lines hl] at h hlt
        exact absurd (lt_of_lt_of_le hlt h) (lt_irrefl _)

/-! ### The text -/

/-- A list that is inserted somewhere is not empty afterwards. -/
lemma entries_ofList_ne_nil {l : List (ByteString × ByteString)} (hne : l ≠ []) :
    (SortedMap.ofList l).entries ≠ [] := by
  obtain ⟨init, x, rfl⟩ := List.eq_nil_or_concat l |>.resolve_left hne
  refine List.ne_nil_of_mem (a := x) (SortedMap.mem_entries_ofList.mpr ?_)
  rw [List.concat_eq_append, SortedMap.lastOf_concat]
  exact .inl rfl

/-- The pieces of the text are the lines. -/
lemma splitString_lines {l : List (ByteString × ByteString)} (hne : l ≠ [])
    (hl : ∀ x ∈ l, Storable x) :
    Aja.splitString ([newline].intercalate (l.map lineOf)) [newline] = l.map lineOf := by
  rw [Aja.splitString_singleton]
  refine List.splitOn_intercalate newline (fun line hline => ?_) (by simpa using hne)
  obtain ⟨x, hx, rfl⟩ := List.mem_map.mp hline
  exact newline_notMem_lineOf (hl x hx)

/-- The lines of entries give their dictionary. -/
lemma deserialize_lines {l : List (ByteString × ByteString)} (hne : l ≠ [])
    (hl : ∀ x ∈ l, Storable x) :
    deserialize ([newline].intercalate (l.map lineOf)) = (true, ⟨SortedMap.ofList l⟩) := by
  have hnonempty : (SortedMap.ofList l).entries.isEmpty = false := by
    simpa using entries_ofList_ne_nil hne
  rw [deserialize, splitString_lines hne hl, Reading.foldl_lines _ hl]
  dsimp only
  change (!(SortedMap.ofList l).entries.isEmpty && _ && _, _) = _
  rw [hnonempty]
  rfl

/-- **The texts that are accepted**: lines of storable entries. -/
lemma deserialize_true_iff {inStr : ByteString} : (deserialize inStr).1 = true ↔
    ∀ line ∈ inStr.splitOn newline, ∃ x, Storable x ∧ line = lineOf x := by
  constructor
  · intro h
    rw [deserialize, Aja.splitString_singleton] at h
    simp only [Bool.and_eq_true, beq_iff_eq] at h
    obtain ⟨⟨-, hbad⟩, hfailed⟩ := h
    obtain ⟨l, hl, hlines⟩ := Reading.exists_entries (r := ⟨0, 0, empty⟩)
      (by rw [hbad, hfailed])
    intro line hline
    rw [hlines] at hline
    obtain ⟨x, hx, rfl⟩ := List.mem_map.mp hline
    exact ⟨x, hl x hx, rfl⟩
  · intro h
    choose! entry hentry using h
    have hmap : (inStr.splitOn newline).map (fun line => lineOf (entry line)) =
        inStr.splitOn newline := by
      conv_rhs => rw [← List.map_id (inStr.splitOn newline)]
      exact List.map_congr_left fun line hline => (hentry line hline).2.symm
    have hstr : inStr = [newline].intercalate (((inStr.splitOn newline).map entry).map lineOf) := by
      rw [List.map_map]
      exact (List.intercalate_splitOn newline).symm.trans (congrArg _ hmap.symm)
    rw [hstr, deserialize_lines]
    · simp
    · intro x hx
      obtain ⟨line, hline, rfl⟩ := List.mem_map.mp hx
      exact (hentry line hline).1

/-- The text of storable entries gives the dictionary back. -/
lemma deserialize_serialize (hne : d.mDict.entries ≠ []) (hd : ∀ x ∈ d.mDict.entries, Storable x) :
    deserialize d.serialize.2 = (true, d) := by
  have htext : d.serialize.2 = [newline].intercalate (d.mDict.entries.map lineOf) :=
    serializeEntries_eq _
  rw [htext, deserialize_lines hne hd]
  congr 2
  exact SortedMap.ext (SortedMap.entries_ofList_of_sorted d.mDict.sorted)

/-- **Dictionaries as text**: the text of a dictionary that the calls make, with an entry at least,
gives it back, and a text is accepted only if every line is one key, one tab and one value. -/
theorem serialization :
    (∀ d : NTV2Dictionary, Reachable d → d.mDict.entries ≠ [] →
      deserialize d.serialize.2 = (true, d)) ∧
    ∀ inStr, (deserialize inStr).1 = true → ∀ line ∈ inStr.splitOn newline,
      ∃ key value, key ≠ [] ∧ tab ∉ key ∧ tab ∉ value ∧ line = key ++ [tab] ++ value := by
  refine ⟨fun d hd hne => deserialize_serialize hne hd.storable, fun inStr h line hline => ?_⟩
  obtain ⟨x, hx, rfl⟩ := deserialize_true_iff.mp h line hline
  exact ⟨x.1, x.2, hx.key_ne_nil, hx.tab_notMem_key, hx.tab_notMem_value, rfl⟩

/-- A key with a value and one without. -/
def hostAndPort : NTV2Dictionary :=
  ((empty.insert (bytesOf "port") (bytesOf "7575")).2.insert (bytesOf "host") []).2

/-- Both are given back, and each line of them is a key, a tab and a value. -/
theorem serialization_hostAndPort :
    hostAndPort.serialize.2 =
      bytesOf "host" ++ [tab, newline] ++ bytesOf "port" ++ [tab] ++ bytesOf "7575" ∧
    deserialize hostAndPort.serialize.2 = (true, hostAndPort) ∧
    ∀ line ∈ hostAndPort.serialize.2.splitOn newline,
      ∃ key value, key ≠ [] ∧ tab ∉ key ∧ tab ∉ value ∧ line = key ++ [tab] ++ value :=
  ⟨by decide +kernel, serialization.1 _ (.insert _ _ _ (.insert _ _ _ .empty)) (by decide +kernel),
    serialization.2 _ (by decide +kernel)⟩

end NTV2Dictionary

end LibAjaNtv2
