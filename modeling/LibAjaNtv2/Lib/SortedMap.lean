import Mathlib.Tactic
import Mathlib.Data.List.Lex

/-!
Maps kept as a list of entries in the order of their keys.

* `SortedMap`: the entries, with keys that grow; `insert`: a new entry, or a new value for a key;
* `ofList`: the entries of a list inserted one after the other;
* `LastOf`: the last entry of a list with its key;
* `mem_entries_ofList`: **the map holds the last entry of each key**;
* `entries_ofList_of_sorted`: **entries in order are the map they make**.
-/

namespace LibAjaNtv2

/-- A map as a list of entries, with keys that grow. -/
structure SortedMap (κ ν : Type*) [LinearOrder κ] where
  entries : List (κ × ν)
  sorted : entries.Pairwise (fun x y => x.1 < y.1)

namespace SortedMap

variable {κ ν : Type*} [LinearOrder κ] {k : κ} {v : ν} {l l' : List (κ × ν)} {x : κ × ν}

/-- Maps are equal when their entries are. -/
@[ext]
lemma ext {m m' : SortedMap κ ν} (h : m.entries = m'.entries) : m = m' := by
  obtain ⟨l, hl⟩ := m
  obtain ⟨l', hl'⟩ := m'
  cases h
  rfl

instance [DecidableEq ν] : DecidableEq (SortedMap κ ν) := fun _ _ =>
  decidable_of_iff (_ = _) SortedMap.ext_iff.symm

/-- A key has one entry. -/
lemma eq_of_fst_eq {m : SortedMap κ ν} {y : κ × ν} (hx : x ∈ m.entries) (hy : y ∈ m.entries)
    (h : x.1 = y.1) : x = y := by
  by_contra hne
  have hkeys : m.entries.Pairwise fun x y => x.1 ≠ y.1 := m.sorted.imp ne_of_lt
  have hsymm : Std.Symm fun x y : κ × ν => x.1 ≠ y.1 := ⟨fun _ _ => Ne.symm⟩
  exact hkeys.forall hx hy hne h

/-- The map without entries. -/
def empty : SortedMap κ ν := ⟨[], List.Pairwise.nil⟩

/-- An entry put in its place. -/
def insertEntry (k : κ) (v : ν) : List (κ × ν) → List (κ × ν)
  | [] => [(k, v)]
  | y :: l =>
      if k < y.1 then (k, v) :: y :: l
      else if k = y.1 then (k, v) :: l
      else y :: insertEntry k v l

/-- The entries after one more, where the keys grow. -/
lemma mem_insertEntry (hl : l.Pairwise (fun x y => x.1 < y.1)) :
    x ∈ insertEntry k v l ↔ x = (k, v) ∨ x ∈ l ∧ x.1 ≠ k := by
  induction l with
  | nil => simp [insertEntry]
  | cons y l ih =>
      obtain ⟨hy, hrest⟩ := List.pairwise_cons.mp hl
      rw [insertEntry]
      split_ifs with hlt heq
      · have hne : ∀ z ∈ y :: l, z.1 ≠ k := by
          intro z hz
          rcases List.mem_cons.mp hz with rfl | hz
          · exact hlt.ne'
          · exact (hlt.trans (hy z hz)).ne'
        rw [List.mem_cons]
        exact or_congr_right ⟨fun hx => ⟨hx, hne x hx⟩, And.left⟩
      · subst heq
        rw [List.mem_cons, List.mem_cons]
        refine or_congr_right ⟨fun hx => ⟨.inr hx, (hy x hx).ne'⟩, ?_⟩
        rintro ⟨rfl | hx, hne⟩
        · exact absurd rfl hne
        · exact hx
      · rw [List.mem_cons, ih hrest, List.mem_cons]
        constructor
        · rintro (rfl | rfl | ⟨hx, hne⟩)
          · exact .inr ⟨.inl rfl, Ne.symm heq⟩
          · exact .inl rfl
          · exact .inr ⟨.inr hx, hne⟩
        · rintro (rfl | ⟨rfl | hx, hne⟩)
          · exact .inr (.inl rfl)
          · exact .inl rfl
          · exact .inr (.inr ⟨hx, hne⟩)

/-- The keys still grow. -/
lemma sorted_insertEntry (hl : l.Pairwise (fun x y => x.1 < y.1)) :
    (insertEntry k v l).Pairwise (fun x y => x.1 < y.1) := by
  induction l with
  | nil => exact List.pairwise_singleton _ _
  | cons y l ih =>
      obtain ⟨hy, hrest⟩ := List.pairwise_cons.mp hl
      rw [insertEntry]
      split_ifs with hlt heq
      · refine List.pairwise_cons.mpr ⟨fun z hz => ?_, hl⟩
        rcases List.mem_cons.mp hz with rfl | hz
        · exact hlt
        · exact hlt.trans (hy z hz)
      · exact List.pairwise_cons.mpr ⟨fun z hz => heq ▸ hy z hz, hrest⟩
      · refine List.pairwise_cons.mpr ⟨fun z hz => ?_, ih hrest⟩
        rcases (mem_insertEntry hrest).mp hz with rfl | ⟨hz, -⟩
        · exact lt_of_le_of_ne (not_lt.mp hlt) (Ne.symm heq)
        · exact hy z hz

/-- Insert an entry, in place of one with the same key. -/
def insert (m : SortedMap κ ν) (k : κ) (v : ν) : SortedMap κ ν :=
  ⟨insertEntry k v m.entries, sorted_insertEntry m.sorted⟩

/-- The entries of a list, inserted one after the other. -/
def ofList (l : List (κ × ν)) : SortedMap κ ν := l.foldl (fun m x => m.insert x.1 x.2) empty

/-- An entry of a list that no later one with the same key follows. -/
def LastOf (l : List (κ × ν)) (x : κ × ν) : Prop :=
  ∃ before after, l = before ++ x :: after ∧ ∀ y ∈ after, y.1 ≠ x.1

omit [LinearOrder κ] in
/-- The last entries of a longer list. -/
lemma lastOf_concat {y : κ × ν} : LastOf (l ++ [y]) x ↔ x = y ∨ LastOf l x ∧ x.1 ≠ y.1 := by
  constructor
  · rintro ⟨before, after, heq, hlater⟩
    rcases List.eq_nil_or_concat after with rfl | ⟨after, z, rfl⟩
    · rw [List.append_inj' heq rfl |>.2 |> List.singleton_inj.mp]
      exact .inl rfl
    · rw [List.concat_eq_append, ← List.cons_append, ← List.append_assoc] at heq
      obtain ⟨rfl, hz⟩ := List.append_inj' heq rfl
      cases hz
      refine .inr ⟨⟨before, after, rfl, fun w hw => hlater w ?_⟩, Ne.symm (hlater y ?_)⟩
      · rw [List.concat_eq_append]
        exact List.mem_append_left _ hw
      · simp
  · rintro (rfl | ⟨⟨before, after, rfl, hlater⟩, hne⟩)
    · exact ⟨l, [], rfl, by simp⟩
    · refine ⟨before, after ++ [y], by simp, fun w hw => ?_⟩
      rcases List.mem_append.mp hw with hw | hw
      · exact hlater w hw
      · cases List.mem_singleton.mp hw
        exact Ne.symm hne

/-- **The map of a list holds the last entry of each key.** -/
lemma mem_entries_ofList : x ∈ (ofList l).entries ↔ LastOf l x := by
  induction l using List.reverseRecOn with
  | nil =>
      constructor
      · rintro ⟨⟩
      · rintro ⟨before, after, h, -⟩
        simp at h
  | append_singleton l y ih =>
      rw [ofList, List.foldl_append, List.foldl_cons, List.foldl_nil, lastOf_concat, ← ih]
      exact mem_insertEntry (SortedMap.sorted _)

/-- Every key of the list is a key of the map. -/
lemma exists_mem_entries_ofList (hx : x ∈ l) : ∃ y ∈ (ofList l).entries, y.1 = x.1 := by
  simp only [mem_entries_ofList]
  induction l using List.reverseRecOn with
  | nil => cases hx
  | append_singleton l z ih =>
      simp only [lastOf_concat]
      rcases List.mem_append.mp hx with hx | hx
      · obtain ⟨y, hy, hkey⟩ := ih hx
        by_cases hz : y.1 = z.1
        · exact ⟨z, .inl rfl, hz ▸ hkey⟩
        · exact ⟨y, .inr ⟨hy, hz⟩, hkey⟩
      · exact ⟨z, .inl rfl, congrArg Prod.fst (List.mem_singleton.mp hx).symm⟩

/-- An entry with a key above all others goes to the end. -/
lemma insertEntry_of_forall_lt (h : ∀ y ∈ l, y.1 < k) : insertEntry k v l = l ++ [(k, v)] := by
  induction l with
  | nil => rfl
  | cons y l ih =>
      obtain ⟨hy, hrest⟩ := List.forall_mem_cons.mp h
      rw [insertEntry, if_neg hy.not_gt, if_neg hy.ne', ih hrest, List.cons_append]

/-- **Entries in the order of their keys** are the entries of their map. -/
lemma entries_ofList_of_sorted (hl : l.Pairwise (fun x y => x.1 < y.1)) :
    (ofList l).entries = l := by
  induction l using List.reverseRecOn with
  | nil => rfl
  | append_singleton l y ih =>
      obtain ⟨hinit, -, hlast⟩ := List.pairwise_append.mp hl
      rw [ofList, List.foldl_append, List.foldl_cons, List.foldl_nil]
      change insertEntry y.1 y.2 (ofList l).entries = l ++ [y]
      rw [ih hinit, insertEntry_of_forall_lt fun z hz => hlast z hz y (List.mem_singleton_self y)]

end SortedMap

end LibAjaNtv2
