import LibAjaNtv2.Lib.RangeSet
import LibAjaNtv2.Rpc.Nub

/-!
Line offsets as text (`NTV2PrintRasterLineOffsets`).

* `LineOffsetsLoop`, `LineOffsetsLoop.next`: what the loop keeps, and one round of it;
* `NTV2PrintRasterLineOffsets`: the text; nothing where an element that is not there is printed;
* `Grouped`: the pieces of the numbers so far, with the range that is still open; `Grouped.next`,
  `Grouped.run`: **it is kept**;
* `printsRanges_iff`: **when the text is that of the ranges**: there is an offset.
-/

namespace LibAjaNtv2

/-! ### The loop -/

/-- What the loop keeps. -/
structure LineOffsetsLoop where
  pieces : List (List Char)
  previous : ULWord
  first : ULWord
  last : ULWord

namespace LineOffsetsLoop

/-- The variables before the loop. -/
def start : LineOffsetsLoop := ⟨[], 0xFFFFFFFF, 0xFFFFFFFF, 0xFFFFFFFF⟩

/-- The text of the numbers from the first one to the last one. -/
def piece (s : LineOffsetsLoop) : List Char :=
  if s.first = s.last then Nat.toDigits 10 s.first.toNat
  else Nat.toDigits 10 s.first.toNat ++ '-' :: Nat.toDigits 10 s.last.toNat

/-- One round. -/
def next (s : LineOffsetsLoop) (current : ULWord) : LineOffsetsLoop :=
  if s.previous = 0xFFFFFFFF then { s with previous := current, first := current, last := current }
  else if current = s.previous + 1 then { s with last := current, previous := current }
  else if current = s.previous then s
  else
    { pieces := s.pieces ++ [s.piece]
      first := current
      last := current
      previous := current }

end LineOffsetsLoop

/-- The pieces with commas between them. The first one is printed before it is known to be there. -/
def printPieces : List (List Char) → Option (List Char)
  | [] => none
  | [piece] => some piece
  | piece :: pieces => (printPieces pieces).map fun text => piece ++ ',' :: text

/-- `NTV2PrintRasterLineOffsets`. -/
def NTV2PrintRasterLineOffsets (inObj : List ULWord) : Option (List Char) :=
  let s := inObj.foldl LineOffsetsLoop.next LineOffsetsLoop.start
  printPieces (if s.first ≠ 0xFFFFFFFF ∧ s.last ≠ 0xFFFFFFFF then s.pieces ++ [s.piece]
    else s.pieces)

/-- Pieces are printed where there are some. -/
lemma printPieces_eq {pieces : List (List Char)} (hne : pieces ≠ []) :
    printPieces pieces = some ([','].intercalate pieces) := by
  induction pieces with
  | nil => exact absurd rfl hne
  | cons piece pieces ih =>
      cases pieces with
      | nil => rw [printPieces, List.intercalate_singleton]
      | cons other rest =>
          rw [printPieces, ih (List.cons_ne_nil _ _), List.intercalate_cons_cons, Option.map_some,
            List.append_assoc, List.singleton_append]
          exact List.cons_ne_nil _ _

/-! ### The ranges -/

/-- The text of a range. -/
def NumberRange.text (r : NumberRange) : List Char :=
  if r.first = r.last then Nat.toDigits 10 r.first
  else Nat.toDigits 10 r.first ++ '-' :: Nat.toDigits 10 r.last

/-- The pieces are those of the ranges of some numbers, but for the last range, which is open. -/
structure Grouped (s : LineOffsetsLoop) (closed : List NumberRange) (numbers : Set ℕ) : Prop where
  first_le : s.first.toNat ≤ s.last.toNat
  ranges : RangesOf (closed ++ [⟨s.first.toNat, s.last.toNat, first_le⟩]) numbers
  pieces : s.pieces = closed.map NumberRange.text
  previous : s.previous = s.last
  below : s.last.toNat < 2 ^ 32 - 1

namespace Grouped

variable {s : LineOffsetsLoop} {closed : List NumberRange} {numbers : Set ℕ} {current : ULWord}

/-- The text of the open range. -/
lemma piece_eq (h : Grouped s closed numbers) :
    s.piece = NumberRange.text ⟨s.first.toNat, s.last.toNat, h.first_le⟩ := by
  rw [LineOffsetsLoop.piece, NumberRange.text]
  by_cases heq : s.first = s.last
  · rw [if_pos heq, if_pos (congrArg BitVec.toNat heq)]
  · rw [if_neg heq, if_neg fun hnat => heq (BitVec.eq_of_toNat_eq hnat)]

lemma start_next (current : ULWord) :
    LineOffsetsLoop.start.next current = ⟨[], current, current, current⟩ := if_pos rfl

lemma start (hcurrent : current.toNat < 2 ^ 32 - 1) :
    Grouped (LineOffsetsLoop.start.next current) [] {current.toNat} := by
  rw [start_next]
  exact ⟨le_rfl, RangesOf.single _, rfl, rfl, hcurrent⟩

/-- **One round keeps the ranges.** -/
lemma next (h : Grouped s closed numbers) (hle : s.last.toNat ≤ current.toNat)
    (hcurrent : current.toNat < 2 ^ 32 - 1) :
    ∃ closed', Grouped (s.next current) closed' (insert current.toNat numbers) ∧
      (s.next current).last = current := by
  have hbelow := h.below
  have hprevious : s.previous ≠ 0xFFFFFFFF := by
    rw [h.previous]
    intro heq
    rw [heq] at hbelow
    exact absurd hbelow (by decide)
  have hsucc : (s.last + 1).toNat = s.last.toNat + 1 := by
    rw [BitVec.toNat_add]
    exact Nat.mod_eq_of_lt (by
      show s.last.toNat + 1 < 2 ^ 32
      omega)
  rw [LineOffsetsLoop.next, if_neg hprevious, h.previous]
  by_cases hnext : current = s.last + 1
  · rw [if_pos hnext]
    have hnat : current.toNat = s.last.toNat + 1 := by rw [hnext, hsucc]
    refine ⟨closed, ⟨h.first_le.trans hle, ?_, h.pieces, rfl, hcurrent⟩, rfl⟩
    have hranges := h.ranges.extend
    simp only [← hnat] at hranges
    exact hranges
  · rw [if_neg hnext]
    by_cases hsame : current = s.last
    · rw [if_pos hsame]
      refine ⟨closed, ?_, hsame.symm⟩
      have hmem : current.toNat ∈ numbers := (h.ranges.mem_iff _).mpr
        ⟨_, List.mem_append_right _ (List.mem_singleton_self _), h.first_le.trans hle,
          (congrArg BitVec.toNat hsame).le⟩
      rw [Set.insert_eq_of_mem hmem]
      exact h
    · rw [if_neg hsame]
      have hgap : s.last.toNat + 1 < current.toNat := by
        have hne : current.toNat ≠ s.last.toNat := fun heq => hsame (BitVec.eq_of_toNat_eq heq)
        have hne' : current.toNat ≠ (s.last + 1).toNat := fun heq =>
          hnext (BitVec.eq_of_toNat_eq heq)
        omega
      refine ⟨closed ++ [⟨s.first.toNat, s.last.toNat, h.first_le⟩],
        ⟨le_rfl, h.ranges.append hgap, ?_, rfl, hcurrent⟩, rfl⟩
      rw [h.piece_eq, h.pieces, List.map_append, List.map_singleton]

/-- **The loop keeps the ranges.** -/
lemma run (h : Grouped s closed numbers) (offsets : List ULWord)
    (hsorted : (s.last :: offsets).Pairwise fun a b => a.toNat ≤ b.toNat)
    (hbelow : ∀ o ∈ offsets, o.toNat < 2 ^ 32 - 1) :
    ∃ closed', Grouped (offsets.foldl LineOffsetsLoop.next s) closed'
      (numbers ∪ {n | ∃ o ∈ offsets, o.toNat = n}) := by
  induction offsets generalizing s closed numbers with
  | nil =>
      refine ⟨closed, ?_⟩
      have hnone : {n | ∃ o ∈ ([] : List ULWord), o.toNat = n} = ∅ := by simp
      rw [hnone, Set.union_empty]
      exact h
  | cons current offsets ih =>
      obtain ⟨hfirst, hrest⟩ := List.pairwise_cons.mp hsorted
      obtain ⟨closed', hnext, hlast⟩ := h.next (hfirst current List.mem_cons_self)
        (hbelow current List.mem_cons_self)
      obtain ⟨closed'', hrun⟩ := ih hnext (by rwa [hlast])
        fun o ho => hbelow o (List.mem_cons_of_mem _ ho)
      refine ⟨closed'', ?_⟩
      have hset : numbers ∪ {n | ∃ o ∈ current :: offsets, o.toNat = n} =
          insert current.toNat numbers ∪ {n | ∃ o ∈ offsets, o.toNat = n} := by
        ext n
        simp only [Set.mem_union, Set.mem_ofPred_eq, List.mem_cons, exists_eq_or_imp,
          Set.mem_insert_iff]
        tauto
      rw [hset, List.foldl_cons]
      exact hrun

end Grouped

/-- The text is that of the ranges that make up the set of offsets. -/
def PrintsRanges (offsets : List ULWord) : Prop :=
  ∃ rs, RangesOf rs {n | ∃ o ∈ offsets, o.toNat = n} ∧
    NTV2PrintRasterLineOffsets offsets = some ([','].intercalate (rs.map NumberRange.text))

/-- **The text is that of the ranges** exactly where there is an offset. -/
theorem printsRanges_iff (offsets : List ULWord)
    (hsorted : offsets.Pairwise fun a b => a.toNat ≤ b.toNat)
    (hbelow : ∀ o ∈ offsets, o.toNat < 2 ^ 32 - 1) : PrintsRanges offsets ↔ offsets ≠ [] := by
  cases offsets with
  | nil =>
      refine iff_of_false ?_ (not_not.mpr rfl)
      rintro ⟨rs, -, htext⟩
      cases htext
  | cons current offsets =>
      refine iff_of_true ?_ (List.cons_ne_nil _ _)
      have hstart := Grouped.start (hbelow current List.mem_cons_self)
      obtain ⟨closed, hrun⟩ := hstart.run offsets (by rwa [Grouped.start_next])
        fun o ho => hbelow o (List.mem_cons_of_mem _ ho)
      refine ⟨closed ++ [⟨_, _, hrun.first_le⟩], ?_, ?_⟩
      · have hset : {n | ∃ o ∈ current :: offsets, o.toNat = n} =
            {current.toNat} ∪ {n | ∃ o ∈ offsets, o.toNat = n} := by
          ext n
          simp [eq_comm]
        rw [hset]
        exact hrun.ranges
      · have hne : ∀ w : ULWord, w.toNat < 2 ^ 32 - 1 → w ≠ 0xFFFFFFFF := by
          rintro w hw rfl
          exact absurd hw (by decide)
        rw [NTV2PrintRasterLineOffsets, List.foldl_cons,
          if_pos ⟨hne _ (hrun.first_le.trans_lt hrun.below), hne _ hrun.below⟩,
          printPieces_eq (by simp), hrun.pieces, hrun.piece_eq, List.map_append,
          List.map_singleton]

/-- Offsets with a duplicate, in three ranges. -/
theorem printsRanges_three : PrintsRanges [3, 5, 5, 6, 7, 9] :=
  (printsRanges_iff _ (by simp) (by simp)).mpr (by simp)

/-- Without offsets the first piece is printed that is not there. -/
theorem not_printsRanges_nil : ¬ PrintsRanges [] := by
  rintro ⟨rs, -, htext⟩
  cases htext

end LibAjaNtv2
