import LibAjaNtv2.Router.Connections

/-!
The differences of two connection maps (`ntv2signalrouter.cpp`).

* `addConnection`, `removeConnection`, `hasInput`, `getConnectedOutput`, `hasConnection`: what a
  router does with its map;
* `compareConnections`: what is new and what is missing, with the assertion of the code;
* `CNTV2SignalRouter.compare`, `equalTo`: what is new, changed and missing, and the comparison
  behind `==`, which collects all three in one map;
* `find_foldl_insert`: a loop of insertions, one connection after the other;
* `compareConnections_exact`: **taking away what is missing and adding what is new leads from one
  map to the other**, and both comparisons say the same.
-/

namespace LibAjaNtv2

namespace NTV2XptConnections

/-- Take an input out of the map. -/
def erase (c : NTV2XptConnections) (i : NTV2InputXptID) : NTV2XptConnections where
  entries := c.entries.filter fun e => e.1 ≠ i
  nodup := c.nodup.sublist (List.filter_sublist.map Prod.fst)

/-- No connection at all. -/
def isEmpty (c : NTV2XptConnections) : Bool := c.entries.isEmpty

/-- Two maps with the same connections. -/
def Same (a b : NTV2XptConnections) : Prop := ∀ i, a.find i = b.find i

/-- Every connection of the one is one of the other. -/
def Subset (a b : NTV2XptConnections) : Prop := ∀ i o, a.find i = some o → b.find i = some o

/-- No connection is in both. -/
def Disjoint (a b : NTV2XptConnections) : Prop :=
  ∀ i o, ¬ (a.find i = some o ∧ b.find i = some o)

end NTV2XptConnections

/-! ### A router's connections -/

/-- `AddConnection`. -/
def addConnection (mConnections : NTV2XptConnections) (i : NTV2InputXptID) (o : NTV2OutputXptID) :
    NTV2XptConnections :=
  mConnections.insert i o

/-- `RemoveConnection`. -/
def removeConnection (mConnections : NTV2XptConnections) (i : NTV2InputXptID)
    (o : NTV2OutputXptID) : NTV2XptConnections :=
  match mConnections.find i with
  | none => mConnections
  | some second => if second ≠ o then mConnections else mConnections.erase i

/-- `HasInput`. -/
def hasInput (mConnections : NTV2XptConnections) (i : NTV2InputXptID) : Bool :=
  (mConnections.find i).isSome

/-- `GetConnectedOutput`. -/
def getConnectedOutput (mConnections : NTV2XptConnections) (i : NTV2InputXptID) :
    NTV2OutputXptID :=
  (mConnections.find i).getD xptBlack

/-- `HasConnection`. -/
def hasConnection (mConnections : NTV2XptConnections) (i : NTV2InputXptID) (o : NTV2OutputXptID) :
    Bool :=
  match mConnections.find i with
  | none => false
  | some second => second = o

/-! ### The two comparisons -/

/-- The two maps that `CompareConnections` fills, and whether its assertion has held. -/
structure ConnectionDiff where
  outNew : NTV2XptConnections
  outMissing : NTV2XptConnections
  asserted : Bool

/-- One connection of the left-hand side. -/
def diffLhs (inRHS : NTV2XptConnections) (d : ConnectionDiff)
    (e : NTV2InputXptID × NTV2OutputXptID) : ConnectionDiff :=
  match inRHS.find e.1 with
  | none => { d with outMissing := d.outMissing.insert e.1 e.2 }
  | some second =>
      if second = e.2 then d
      else { d with
        outMissing := d.outMissing.insert e.1 e.2
        outNew := d.outNew.insert e.1 second }

/-- One connection of the right-hand side. -/
def diffRhs (inLHS : NTV2XptConnections) (d : ConnectionDiff)
    (e : NTV2InputXptID × NTV2OutputXptID) : ConnectionDiff :=
  match inLHS.find e.1 with
  | none => { d with outNew := d.outNew.insert e.1 e.2 }
  | some second =>
      if second ≠ e.2 then
        { d with asserted :=
            d.asserted && ((d.outMissing.find e.1).isSome && (d.outNew.find e.1).isSome) }
      else d

/-- `CompareConnections`, which returns whether the maps are identical. -/
def compareConnections (inLHS inRHS : NTV2XptConnections) : Bool × ConnectionDiff :=
  let d := inRHS.entries.foldl (diffRhs inLHS)
    (inLHS.entries.foldl (diffLhs inRHS) ⟨.empty, .empty, true⟩)
  (d.outNew.isEmpty && d.outMissing.isEmpty, d)

/-- The three maps that `Compare` fills. -/
structure RoutingDiff where
  outNew : NTV2XptConnections
  outChanged : NTV2XptConnections
  outMissing : NTV2XptConnections

/-- One of my connections: changed ones with the output of the other router. -/
def compareMine (inRHS : NTV2XptConnections) (d : RoutingDiff)
    (e : NTV2InputXptID × NTV2OutputXptID) : RoutingDiff :=
  if hasConnection inRHS e.1 e.2 then d
  else if hasInput inRHS e.1 then
    { d with outChanged := d.outChanged.insert e.1 (getConnectedOutput inRHS e.1) }
  else { d with outNew := d.outNew.insert e.1 e.2 }

/-- One of the other router's connections. -/
def compareTheirs (mConnections : NTV2XptConnections) (d : RoutingDiff)
    (e : NTV2InputXptID × NTV2OutputXptID) : RoutingDiff :=
  match mConnections.find e.1 with
  | none => { d with outMissing := d.outMissing.insert e.1 e.2 }
  | some second =>
      if second ≠ e.2 then { d with outChanged := d.outChanged.insert e.1 e.2 } else d

/-- `Compare`, of the router that holds `mConnections` with one that holds `inRHS`. -/
def CNTV2SignalRouter.compare (mConnections inRHS : NTV2XptConnections) : Bool × RoutingDiff :=
  let d := inRHS.entries.foldl (compareTheirs mConnections)
    (mConnections.entries.foldl (compareMine inRHS) ⟨.empty, .empty, .empty⟩)
  (d.outNew.isEmpty && d.outChanged.isEmpty && d.outMissing.isEmpty, d)

/-- One of my connections, with one map for all three outputs. -/
def compareMineShared (inRHS tmp : NTV2XptConnections) (e : NTV2InputXptID × NTV2OutputXptID) :
    NTV2XptConnections :=
  if hasConnection inRHS e.1 e.2 then tmp
  else if hasInput inRHS e.1 then tmp.insert e.1 (getConnectedOutput inRHS e.1)
  else tmp.insert e.1 e.2

/-- One of the other router's connections, with one map for all three outputs. -/
def compareTheirsShared (mConnections tmp : NTV2XptConnections)
    (e : NTV2InputXptID × NTV2OutputXptID) : NTV2XptConnections :=
  match mConnections.find e.1 with
  | none => tmp.insert e.1 e.2
  | some second => if second ≠ e.2 then tmp.insert e.1 e.2 else tmp

/-- `operator ==`, which hands `Compare` one map three times. -/
def equalTo (mConnections inRHS : NTV2XptConnections) : Bool :=
  let tmp := inRHS.entries.foldl (compareTheirsShared mConnections)
    (mConnections.entries.foldl (compareMineShared inRHS) .empty)
  tmp.isEmpty && tmp.isEmpty && tmp.isEmpty

/-! ### Loops of insertions -/

namespace NTV2XptConnections

/-- An input that was taken out finds nothing, every other one what it found. -/
lemma find_erase (c : NTV2XptConnections) (i j : NTV2InputXptID) :
    (c.erase i).find j = if j = i then none else c.find j := by
  ext o
  rw [← mem_entries_iff, erase, List.mem_filter, mem_entries_iff]
  split_ifs with h
  · simp [h]
  · simp [h]

/-- A map without entries finds nothing. -/
lemma isEmpty_iff_find (c : NTV2XptConnections) : c.isEmpty = true ↔ ∀ i, c.find i = none := by
  rw [isEmpty, List.isEmpty_iff]
  constructor
  · intro h i
    rw [find, h]
    rfl
  · intro h
    rw [List.eq_nil_iff_forall_not_mem]
    rintro ⟨i, o⟩ he
    have hfind := c.mem_entries_iff.mp he
    rw [h i] at hfind
    cases hfind

/-- Insert a connection if there is one. -/
def insertOption (c : NTV2XptConnections) (i : NTV2InputXptID) :
    Option NTV2OutputXptID → NTV2XptConnections
  | none => c
  | some o => c.insert i o

lemma find_insertOption (c : NTV2XptConnections) (i j : NTV2InputXptID)
    (o : Option NTV2OutputXptID) :
    (c.insertOption i o).find j = (c.find j).or (if j = i then o else none) := by
  cases o with
  | none => rw [insertOption, ite_self, Option.or_none]
  | some o => exact c.find_insert i j o

end NTV2XptConnections

open NTV2XptConnections

/-- **A loop of insertions**: an input finds what it found, or what the loop has for its
connection. -/
lemma find_foldl_insert (f : NTV2InputXptID → NTV2OutputXptID → Option NTV2OutputXptID)
    (a c : NTV2XptConnections) (j : NTV2InputXptID) :
    (a.entries.foldl (fun c e => c.insertOption e.1 (f e.1 e.2)) c).find j =
      (c.find j).or ((a.find j).bind (f j)) := by
  obtain ⟨entries, hnodup⟩ := a
  induction entries generalizing c with
  | nil => simp [find]
  | cons e entries ih =>
      obtain ⟨i, o⟩ := e
      obtain ⟨hnot, hrest⟩ := List.nodup_cons.mp hnodup
      rw [List.foldl_cons, ih _ hrest, find_insertOption]
      simp only [find, List.lookup_cons]
      by_cases hj : j = i
      · have hnone : entries.lookup i = none := by
          rw [List.lookup_eq_none_iff]
          intro e' he'
          simpa using fun h : i = e'.1 => hnot (List.mem_map.mpr ⟨e', he', h.symm⟩)
        subst hj
        simp [hnone]
      · simp [hj, beq_false_of_ne hj]

/-! ### What the loops fill in -/

/-- What the first loop of `CompareConnections` takes for missing. -/
def missingOf (inRHS : NTV2XptConnections) (i : NTV2InputXptID) (o : NTV2OutputXptID) :
    Option NTV2OutputXptID :=
  if inRHS.find i = some o then none else some o

/-- The output of the other map, where it is another one. -/
def otherOutput (inRHS : NTV2XptConnections) (i : NTV2InputXptID) (o : NTV2OutputXptID) :
    Option NTV2OutputXptID :=
  if inRHS.find i = some o then none else inRHS.find i

/-- A connection of an input that the other map does not have. -/
def onlyOf (inLHS : NTV2XptConnections) (i : NTV2InputXptID) (o : NTV2OutputXptID) :
    Option NTV2OutputXptID :=
  if (inLHS.find i).isSome then none else some o

/-- A connection of an input that has another output in the other map. -/
def changedOf (inLHS : NTV2XptConnections) (i : NTV2InputXptID) (o : NTV2OutputXptID) :
    Option NTV2OutputXptID :=
  if (inLHS.find i).isSome then missingOf inLHS i o else none

/-- The first loop of `CompareConnections`. -/
lemma foldl_diffLhs (inRHS : NTV2XptConnections) (d : ConnectionDiff)
    (entries : List (NTV2InputXptID × NTV2OutputXptID)) :
    entries.foldl (diffLhs inRHS) d =
      { outNew := entries.foldl (fun c e => c.insertOption e.1 (otherOutput inRHS e.1 e.2)) d.outNew
        outMissing :=
          entries.foldl (fun c e => c.insertOption e.1 (missingOf inRHS e.1 e.2)) d.outMissing
        asserted := d.asserted } := by
  induction entries generalizing d with
  | nil => rfl
  | cons e entries ih =>
      rw [List.foldl_cons, ih, List.foldl_cons, List.foldl_cons, diffLhs, otherOutput, missingOf]
      cases inRHS.find e.1 with
      | none => simp [insertOption]
      | some second =>
          by_cases h : second = e.2
          · simp [h, insertOption]
          · simp [h, insertOption]

/-- The second loop of `CompareConnections`, but for its assertion. -/
lemma foldl_diffRhs (inLHS : NTV2XptConnections) (d : ConnectionDiff)
    (entries : List (NTV2InputXptID × NTV2OutputXptID)) :
    (entries.foldl (diffRhs inLHS) d).outNew =
        entries.foldl (fun c e => c.insertOption e.1 (onlyOf inLHS e.1 e.2)) d.outNew ∧
      (entries.foldl (diffRhs inLHS) d).outMissing = d.outMissing := by
  induction entries generalizing d with
  | nil => exact ⟨rfl, rfl⟩
  | cons e entries ih =>
      obtain ⟨hnew, hmissing⟩ := ih (diffRhs inLHS d e)
      rw [List.foldl_cons, List.foldl_cons, hnew, hmissing, diffRhs, onlyOf]
      cases inLHS.find e.1 with
      | none => simp [insertOption]
      | some second =>
          by_cases h : second = e.2
          · simp [h, insertOption]
          · simp [h, insertOption]

/-- **The assertion holds** if what changed is in both maps already. -/
lemma foldl_diffRhs_asserted (inLHS : NTV2XptConnections) (d : ConnectionDiff)
    (entries : List (NTV2InputXptID × NTV2OutputXptID)) (hd : d.asserted = true)
    (h : ∀ e ∈ entries, ∀ second, inLHS.find e.1 = some second → second ≠ e.2 →
      (d.outMissing.find e.1).isSome = true ∧ (d.outNew.find e.1).isSome = true) :
    (entries.foldl (diffRhs inLHS) d).asserted = true := by
  induction entries generalizing d with
  | nil => exact hd
  | cons e entries ih =>
      have hhead := h e (List.mem_cons_self ..)
      have htail := fun e' he' => h e' (List.mem_cons_of_mem e he')
      rw [List.foldl_cons]
      -- an insertion keeps what an input found
      rw [diffRhs]
      cases hfind : inLHS.find e.1 with
      | none =>
          refine ih _ hd fun e' he' second hsecond hne => ?_
          obtain ⟨hmissing, hnew⟩ := htail e' he' second hsecond hne
          refine ⟨hmissing, ?_⟩
          rw [find_insert]
          cases hnew' : d.outNew.find e'.1 with
          | none => simp [hnew'] at hnew
          | some o => rfl
      | some second =>
          dsimp only
          by_cases hne : second = e.2
          · rw [if_neg (by simpa using hne)]
            exact ih d hd htail
          · obtain ⟨hmissing, hnew⟩ := hhead second hfind hne
            rw [if_pos hne]
            exact ih _ (by rw [hd, hmissing, hnew]; rfl) htail

/-- The first loop of `Compare`. -/
lemma foldl_compareMine (inRHS : NTV2XptConnections) (d : RoutingDiff)
    (entries : List (NTV2InputXptID × NTV2OutputXptID)) :
    entries.foldl (compareMine inRHS) d =
      { outNew := entries.foldl (fun c e => c.insertOption e.1 (onlyOf inRHS e.1 e.2)) d.outNew
        outChanged :=
          entries.foldl (fun c e => c.insertOption e.1 (otherOutput inRHS e.1 e.2)) d.outChanged
        outMissing := d.outMissing } := by
  induction entries generalizing d with
  | nil => rfl
  | cons e entries ih =>
      rw [List.foldl_cons, ih, List.foldl_cons, List.foldl_cons, compareMine, otherOutput, onlyOf,
        hasConnection, hasInput, getConnectedOutput]
      cases inRHS.find e.1 with
      | none => simp [insertOption]
      | some second =>
          by_cases h : second = e.2
          · simp [h, insertOption]
          · simp [h, insertOption]

/-- The second loop of `Compare`. -/
lemma foldl_compareTheirs (mConnections : NTV2XptConnections) (d : RoutingDiff)
    (entries : List (NTV2InputXptID × NTV2OutputXptID)) :
    entries.foldl (compareTheirs mConnections) d =
      { outNew := d.outNew
        outChanged :=
          entries.foldl (fun c e => c.insertOption e.1 (changedOf mConnections e.1 e.2))
            d.outChanged
        outMissing :=
          entries.foldl (fun c e => c.insertOption e.1 (onlyOf mConnections e.1 e.2))
            d.outMissing } := by
  induction entries generalizing d with
  | nil => rfl
  | cons e entries ih =>
      rw [List.foldl_cons, ih, List.foldl_cons, List.foldl_cons, compareTheirs, changedOf,
        missingOf, onlyOf]
      cases mConnections.find e.1 with
      | none => simp [insertOption]
      | some second =>
          by_cases h : second = e.2
          · simp [h, insertOption]
          · simp [h, insertOption]

/-! ### What the comparisons report -/

variable (a b : NTV2XptConnections) (i : NTV2InputXptID)

/-- What is missing: the connections of the left-hand side where the maps differ. -/
lemma compareConnections_missing :
    (compareConnections a b).2.outMissing.find i =
      if a.find i = b.find i then none else a.find i := by
  rw [compareConnections, (foldl_diffRhs a _ b.entries).2, foldl_diffLhs]
  simp only [find_foldl_insert, find_empty, Option.none_or]
  cases ha : a.find i with
  | none => simp
  | some o =>
      by_cases h : b.find i = some o
      · simp [missingOf, h]
      · have hne : some o ≠ b.find i := fun h' => h h'.symm
        simp [missingOf, h, hne]

/-- What is new: the connections of the right-hand side where the maps differ. -/
lemma compareConnections_new :
    (compareConnections a b).2.outNew.find i =
      if a.find i = b.find i then none else b.find i := by
  rw [compareConnections, (foldl_diffRhs a _ b.entries).1, foldl_diffLhs]
  simp only [find_foldl_insert, find_empty, Option.none_or]
  cases ha : a.find i with
  | none =>
      cases hb : b.find i with
      | none => simp
      | some o => simp [onlyOf, ha]
  | some o =>
      by_cases h : b.find i = some o
      · simp [otherOutput, onlyOf, ha, h]
      · cases hb : b.find i with
        | none => simp [otherOutput, onlyOf, hb]
        | some o' =>
            have hne : o' ≠ o := fun h' => h (by rw [hb, h'])
            simp [otherOutput, hb, hne, hne.symm]

/-- The assertion of `CompareConnections` never fails. -/
lemma compareConnections_asserted : (compareConnections a b).2.asserted = true := by
  refine foldl_diffRhs_asserted a _ b.entries ?_ fun e he second hsecond hne => ?_
  · rw [foldl_diffLhs]
  · have hb : b.find e.1 = some e.2 := b.mem_entries_iff.mp he
    have hdiff : b.find e.1 ≠ some second := by
      rw [hb]
      exact fun h => hne (Option.some.inj h).symm
    rw [foldl_diffLhs]
    simp only [find_foldl_insert, find_empty, Option.none_or, hsecond, Option.bind_some]
    rw [missingOf, otherOutput, if_neg hdiff, if_neg hdiff, hb]
    exact ⟨rfl, rfl⟩

/-- What `Compare` finds new: my connections of inputs that the other router does not have. -/
lemma compare_new :
    (CNTV2SignalRouter.compare a b).2.outNew.find i =
      if (b.find i).isSome then none else a.find i := by
  rw [CNTV2SignalRouter.compare, foldl_compareTheirs, foldl_compareMine]
  simp only [find_foldl_insert, find_empty, Option.none_or]
  cases ha : a.find i with
  | none => simp
  | some o => simp [onlyOf]

/-- What `Compare` finds changed: the other router's connections of inputs that have another
output here. -/
lemma compare_changed :
    (CNTV2SignalRouter.compare a b).2.outChanged.find i =
      if (a.find i).isSome ∧ a.find i ≠ b.find i then b.find i else none := by
  rw [CNTV2SignalRouter.compare, foldl_compareTheirs, foldl_compareMine]
  simp only [find_foldl_insert, find_empty, Option.none_or]
  cases ha : a.find i with
  | none =>
      cases hb : b.find i with
      | none => simp
      | some o => simp [changedOf, ha]
  | some o =>
      cases hb : b.find i with
      | none => simp [otherOutput, hb]
      | some o' =>
          by_cases h : o' = o
          · simp [otherOutput, changedOf, missingOf, ha, hb, h]
          · simp [otherOutput, hb, h, Ne.symm h]

/-- What `Compare` finds missing: the other router's connections of inputs that have none here. -/
lemma compare_missing :
    (CNTV2SignalRouter.compare a b).2.outMissing.find i =
      if (a.find i).isSome then none else b.find i := by
  rw [CNTV2SignalRouter.compare, foldl_compareTheirs, foldl_compareMine]
  simp only [find_foldl_insert, find_empty, Option.none_or]
  cases hb : b.find i with
  | none => simp
  | some o => simp [onlyOf]

/-- `CompareConnections` returns true on maps with the same connections. -/
lemma compareConnections_same_iff : (compareConnections a b).1 = true ↔ a.Same b := by
  have hfst : (compareConnections a b).1 = ((compareConnections a b).2.outNew.isEmpty &&
      (compareConnections a b).2.outMissing.isEmpty) := rfl
  rw [hfst, Bool.and_eq_true, isEmpty_iff_find, isEmpty_iff_find]
  simp only [compareConnections_new, compareConnections_missing]
  constructor
  · rintro ⟨hnew, hmissing⟩ i
    have hn := hnew i
    have hm := hmissing i
    by_contra hne
    rw [if_neg hne] at hn hm
    exact hne (hm.trans hn.symm)
  · intro h
    exact ⟨fun i => if_pos (h i), fun i => if_pos (h i)⟩

/-! ### From one map to the other -/

namespace NTV2XptConnections

variable (c d : NTV2XptConnections)

/-- Remove all of some connections. -/
def removeAll : NTV2XptConnections := d.entries.foldl (fun c e => removeConnection c e.1 e.2) c

/-- Add all of some connections. -/
def addAll : NTV2XptConnections := d.entries.foldl (fun c e => addConnection c e.1 e.2) c

lemma find_removeConnection (i j : NTV2InputXptID) (o : NTV2OutputXptID) :
    (removeConnection c i o).find j = if j = i ∧ c.find i = some o then none else c.find j := by
  rw [removeConnection]
  cases hfind : c.find i with
  | none => simp
  | some second =>
      by_cases h : second = o
      · simp [h, find_erase]
      · simp [h]

/-- An input keeps its connection unless that is removed. -/
lemma find_removeAll (j : NTV2InputXptID) :
    (c.removeAll d).find j =
      if c.find j = d.find j then none else c.find j := by
  obtain ⟨entries, hnodup⟩ := d
  rw [removeAll]
  induction entries generalizing c with
  | nil =>
      have hempty : (⟨[], hnodup⟩ : NTV2XptConnections).find j = none := rfl
      rw [hempty]
      cases h : c.find j with
      | none => simpa using h
      | some o => simpa using h
  | cons e entries ih =>
      obtain ⟨i, o⟩ := e
      obtain ⟨hnot, hrest⟩ := List.nodup_cons.mp hnodup
      have hhead : (⟨(i, o) :: entries, hnodup⟩ : NTV2XptConnections).find j =
          match j == i with
          | true => some o
          | false => (⟨entries, hrest⟩ : NTV2XptConnections).find j := List.lookup_cons
      rw [List.foldl_cons, ih (removeConnection c i o) hrest, find_removeConnection, hhead]
      by_cases hj : j = i
      · have hnone : (⟨entries, hrest⟩ : NTV2XptConnections).find i = none := by
          rw [find, List.lookup_eq_none_iff]
          intro e' he'
          simpa using fun h : i = e'.1 => hnot (List.mem_map.mpr ⟨e', he', h.symm⟩)
        subst hj
        by_cases h : c.find j = some o
        · simp [h]
        · cases hc : c.find j with
          | none => simp [hnone]
          | some o' =>
              rw [hc] at h
              simp [h, hnone]
      · simp [hj, beq_false_of_ne hj]

/-- An input without a connection takes the one that is added. -/
lemma find_addAll (j : NTV2InputXptID) : (c.addAll d).find j = (c.find j).or (d.find j) := by
  have hall := find_foldl_insert (fun _ o => some o) d c j
  cases h : d.find j with
  | none => simpa [addAll, addConnection, insertOption, h] using hall
  | some o => simpa [addAll, addConnection, insertOption, h] using hall

end NTV2XptConnections

/-! ### The differences are exact -/

/-- What `CompareConnections` promises: what is missing is of the left-hand side and what is new of
the right-hand side, nothing is both, the one taken away and the other added lead from map to map,
the assertion has held, and true is returned of equal maps only. -/
structure DiffExact (inLHS inRHS : NTV2XptConnections) (r : Bool × ConnectionDiff) : Prop where
  missing_subset : r.2.outMissing.Subset inLHS
  new_subset : r.2.outNew.Subset inRHS
  disjoint : r.2.outMissing.Disjoint r.2.outNew
  leads : ((inLHS.removeAll r.2.outMissing).addAll r.2.outNew).Same inRHS
  asserted : r.2.asserted = true
  same_iff : r.1 = true ↔ inLHS.Same inRHS

/-- What the two comparisons have in common: missing and changed connections of `Compare` are the
missing ones, new connections and those of the changed inputs the new ones. -/
structure DiffsAgree (inRHS : NTV2XptConnections) (d : ConnectionDiff) (r : RoutingDiff) :
    Prop where
  missing : ∀ i o, d.outMissing.find i = some o ↔
    r.outMissing.find i = some o ∨ r.outChanged.find i = some o
  new : ∀ i o, d.outNew.find i = some o ↔
    r.outNew.find i = some o ∨ (r.outChanged.find i).isSome ∧ inRHS.find i = some o

lemma compareConnections_diffExact : DiffExact a b (compareConnections a b) := by
  refine ⟨fun i o h => ?_, fun i o h => ?_, fun i o h => ?_, fun i => ?_,
    compareConnections_asserted a b, compareConnections_same_iff a b⟩
  · rw [compareConnections_missing] at h
    split_ifs at h
    exact h
  · rw [compareConnections_new] at h
    split_ifs at h
    exact h
  · obtain ⟨hmissing, hnew⟩ := h
    rw [compareConnections_missing] at hmissing
    rw [compareConnections_new] at hnew
    split_ifs at hmissing hnew with hne
    exact hne (hmissing.trans hnew.symm)
  · rw [find_addAll, find_removeAll, compareConnections_missing, compareConnections_new]
    by_cases h : a.find i = b.find i
    · rw [if_pos h, if_pos h, Option.or_none]
      cases ha : a.find i with
      | none => rw [← h, ha, if_pos rfl]
      | some o => rw [if_neg (by simp), ← ha, h]
    · rw [if_neg h, if_neg h, if_pos rfl, Option.none_or]

lemma compare_diffsAgree :
    DiffsAgree b (compareConnections a b).2 (CNTV2SignalRouter.compare b a).2 := by
  refine ⟨fun i o => ?_, fun i o => ?_⟩
  · rw [compareConnections_missing, compare_missing, compare_changed]
    cases ha : a.find i with
    | none => cases hb : b.find i <;> simp
    | some o' => cases hb : b.find i <;> simp [eq_comm]
  · rw [compareConnections_new, compare_new, compare_changed]
    cases ha : a.find i with
    | none => cases hb : b.find i <;> simp
    | some o' =>
        cases hb : b.find i with
        | none => simp
        | some o'' =>
            by_cases h : o'' = o'
            · simp [h]
            · simp [h, Ne.symm h]

/-- **The differences are exact and the two comparisons agree**, of every two connection maps. -/
theorem compareConnections_exact :
    DiffExact a b (compareConnections a b) ∧
      DiffsAgree b (compareConnections a b).2 (CNTV2SignalRouter.compare b a).2 :=
  ⟨compareConnections_diffExact a b, compare_diffsAgree a b⟩

/-! ### Equality -/

/-- The other output of a connection, or its own where the other map has none. -/
def sharedOf (inRHS : NTV2XptConnections) (i : NTV2InputXptID) (o : NTV2OutputXptID) :
    Option NTV2OutputXptID :=
  (otherOutput inRHS i o).or (onlyOf inRHS i o)

/-- The first loop of the comparison with one map. -/
lemma foldl_compareMineShared (inRHS c : NTV2XptConnections)
    (entries : List (NTV2InputXptID × NTV2OutputXptID)) :
    entries.foldl (compareMineShared inRHS) c =
      entries.foldl (fun c e => c.insertOption e.1 (sharedOf inRHS e.1 e.2)) c := by
  induction entries generalizing c with
  | nil => rfl
  | cons e entries ih =>
      rw [List.foldl_cons, ih, List.foldl_cons, compareMineShared, sharedOf, otherOutput,
        onlyOf, hasConnection, hasInput, getConnectedOutput]
      cases inRHS.find e.1 with
      | none => simp [insertOption]
      | some second =>
          by_cases h : second = e.2
          · simp [h, insertOption]
          · simp [h, insertOption]

/-- The second loop of the comparison with one map. -/
lemma foldl_compareTheirsShared (mConnections c : NTV2XptConnections)
    (entries : List (NTV2InputXptID × NTV2OutputXptID)) :
    entries.foldl (compareTheirsShared mConnections) c =
      entries.foldl (fun c e => c.insertOption e.1 (missingOf mConnections e.1 e.2)) c := by
  induction entries generalizing c with
  | nil => rfl
  | cons e entries ih =>
      rw [List.foldl_cons, ih, List.foldl_cons, compareTheirsShared, missingOf]
      cases mConnections.find e.1 with
      | none => simp [insertOption]
      | some second =>
          by_cases h : second = e.2
          · simp [h, insertOption]
          · simp [h, insertOption]

/-- **Equality is decided by `Compare`** although it hands it one map for three outputs. -/
theorem equalTo_iff : equalTo a b = true ↔ a.Same b := by
  rw [equalTo]
  simp only [Bool.and_self]
  rw [isEmpty_iff_find, foldl_compareTheirsShared, foldl_compareMineShared]
  simp only [find_foldl_insert, find_empty, Option.none_or]
  refine forall_congr' fun i => ?_
  cases ha : a.find i with
  | none => cases hb : b.find i <;> simp [missingOf, ha]
  | some o =>
      cases hb : b.find i with
      | none => simp [sharedOf, onlyOf, otherOutput, hb]
      | some o' =>
          by_cases h : o' = o
          · simp [sharedOf, onlyOf, otherOutput, missingOf, ha, hb, h]
          · simp [sharedOf, otherOutput, hb, h, Ne.symm h]

end LibAjaNtv2
