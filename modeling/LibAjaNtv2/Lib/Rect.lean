import LibAjaNtv2.Lib.Block

/-!
Rectangles of cells copied from one raster to another.

* `Rect`: where a rectangle lies in the two rasters; `Rect.Fits`: it lies inside them;
* `Rect.Copied`: its cells are those of the source, and no other cell has changed;
* `Rect.Copies`: what a copy is to do with every contents of the two rasters;
* `Rect.dst_of_covered`, `Rect.covering_of_lt`: what the rows of a copy that does it can write;
* `Rect.copies_rows_iff`: **rows at any positions copy the rectangle exactly when they have its
  width and the last one lies at its place**.
-/

namespace LibAjaNtv2

/-- A rectangle of `height` rows of `width` cells: where it starts in the destination and in the
source, and how far apart its rows are there. -/
structure Rect where
  dst : ℕ
  dstPitch : ℕ
  src : ℕ
  srcPitch : ℕ
  width : ℕ
  height : ℕ
  deriving DecidableEq, Repr

namespace Rect

/-- A cell of the rectangle in the destination. -/
def dstCell (R : Rect) (j k : ℕ) : ℕ := R.dst + j * R.dstPitch + k

/-- The same cell in the source. -/
def srcCell (R : Rect) (j k : ℕ) : ℕ := R.src + j * R.srcPitch + k

/-- The rows do not overlap, and the last one ends inside the rasters. -/
structure Fits (R : Rect) (srcSize dstSize : ℕ) : Prop where
  dstPitch_pos : 0 < R.dstPitch
  width_le_dst : R.width ≤ R.dstPitch
  width_le_src : R.width ≤ R.srcPitch
  dst_le : ∀ j < R.height, R.dst + j * R.dstPitch + R.width ≤ dstSize
  src_le : ∀ j < R.height, R.src + j * R.srcPitch + R.width ≤ srcSize

/-- The rectangle holds the cells of the source, and every other cell is as it was. -/
structure Copied {α : Type*} (R : Rect) (src before after : List α) : Prop where
  length_eq : after.length = before.length
  inside : ∀ j < R.height, ∀ k < R.width, after[R.dstCell j k]? = src[R.srcCell j k]?
  outside : ∀ i, (∀ j < R.height, ∀ k < R.width, i ≠ R.dstCell j k) → after[i]? = before[i]?

/-- A copy that, whatever the two rasters hold, stays inside them and copies the rectangle. -/
def Copies {α : Type*} (R : Rect) (srcSize dstSize : ℕ)
    (copy : List α → List α → Option (List α)) : Prop :=
  ∀ src dst : List α, src.length = srcSize → dst.length = dstSize →
    ∃ after, copy src dst = some after ∧ R.Copied src dst after

/-- Rows of `n` cells copied from `q 0`, `q 1`, … to `r 0`, `r 1`, …. -/
def copyRowsAt {α : Type*} (r q : ℕ → ℕ) (n h : ℕ) (src dst : List α) : Option (List α) :=
  (Block.run src ((List.range h).map fun j => .copy (r j) (q j) n) ⟨dst, []⟩).map Block.cells

section Rows

variable {α : Type*} {R : Rect} {srcSize dstSize : ℕ} {r q : ℕ → ℕ} {n h j k x : ℕ}
  {src dst after : List α}

/-! ### Rows copied one after the other -/

/-- The rows of a copy that ended lay inside both rasters. -/
lemma inside_of_copyRowsAt (hrun : copyRowsAt r q n h src dst = some after) (hj : j < h) :
    n = 0 ∨ q j + n ≤ src.length ∧ r j + n ≤ dst.length := by
  obtain ⟨out, hout, -⟩ := Option.map_eq_some_iff.mp hrun
  exact Block.inside_of_run hout _ (List.mem_map.mpr ⟨j, List.mem_range.mpr hj, rfl⟩)

lemma length_copyRowsAt (hrun : copyRowsAt r q n h src dst = some after) :
    after.length = dst.length := by
  obtain ⟨out, hout, rfl⟩ := Option.map_eq_some_iff.mp hrun
  exact Block.length_run hout

/-- A cell in no row stays. -/
lemma copyRowsAt_of_untouched (hrun : copyRowsAt r q n h src dst = some after)
    (hx : ∀ j < h, ¬ (r j ≤ x ∧ x < r j + n)) : after[x]? = dst[x]? := by
  obtain ⟨out, hout, rfl⟩ := Option.map_eq_some_iff.mp hrun
  refine Block.getElem?_run_of_untouched hout fun m hm => ?_
  obtain ⟨j, hj, rfl⟩ := List.mem_map.mp hm
  exact hx j (List.mem_range.mp hj)

/-- A cell holds what the last row over it put there. -/
lemma copyRowsAt_of_last (hrun : copyRowsAt r q n h src dst = some after) (hj : j < h)
    (hcov : r j ≤ x ∧ x < r j + n) (hlater : ∀ i, j < i → i < h → ¬ (r i ≤ x ∧ x < r i + n)) :
    after[x]? = src[q j + (x - r j)]? := by
  obtain ⟨out, hout, rfl⟩ := Option.map_eq_some_iff.mp hrun
  exact Block.getElem?_run_last hout hj hcov hlater

/-- Where some row satisfies a property, there is a last one that does. -/
lemma exists_last {P : ℕ → Prop} (hex : ∃ j < h, P j) :
    ∃ j < h, P j ∧ ∀ i, j < i → i < h → ¬ P i := by
  induction h with
  | zero =>
      obtain ⟨j, hj, -⟩ := hex
      exact absurd hj (Nat.not_lt_zero j)
  | succ h ih =>
      by_cases hlast : P h
      · exact ⟨h, Nat.lt_succ_self h, hlast, fun i hi hi' => by omega⟩
      · have hrest : ∃ j < h, P j := by
          obtain ⟨j, hj, hP⟩ := hex
          refine ⟨j, lt_of_le_of_ne (Nat.lt_succ_iff.mp hj) ?_, hP⟩
          rintro rfl
          exact hlast hP
        obtain ⟨j, hj, hP, hlater⟩ := ih hrest
        refine ⟨j, by omega, hP, fun i hi hi' => ?_⟩
        rcases Nat.lt_succ_iff_lt_or_eq.mp hi' with hlt | rfl
        · exact hlater i hi hlt
        · exact hlast

/-! ### What a copy that does it can write -/

variable [Nontrivial α]

/-- A cell that some row writes is a cell of the rectangle. -/
lemma dst_of_covered (hcopies : R.Copies srcSize dstSize (copyRowsAt (α := α) r q n h))
    (hj : j < h) (hcov : r j ≤ x ∧ x < r j + n) :
    ∃ j' < R.height, ∃ k < R.width, x = R.dstCell j' k := by
  obtain ⟨a, b, hne⟩ := exists_pair_ne α
  obtain ⟨after, hrun, hcopied⟩ := hcopies (List.replicate srcSize b) (List.replicate dstSize a)
    (List.length_replicate ..) (List.length_replicate ..)
  by_contra hout
  push Not at hout
  obtain ⟨i, hi, hicov, hlater⟩ := exists_last (P := fun i => r i ≤ x ∧ x < r i + n) ⟨j, hj, hcov⟩
  have hbefore := hcopied.outside x hout
  rw [copyRowsAt_of_last hrun hi hicov hlater] at hbefore
  have hroom := inside_of_copyRowsAt hrun hi
  rw [List.length_replicate, List.length_replicate] at hroom
  rw [List.getElem?_replicate, List.getElem?_replicate, if_pos (by omega), if_pos (by omega)]
    at hbefore
  exact hne (Option.some.inj hbefore).symm

/-- A cell of the rectangle is written by a row, and the last row over it takes it from its place
in the source. -/
lemma covering_of_lt (hfits : R.Fits srcSize dstSize)
    (hcopies : R.Copies srcSize dstSize (copyRowsAt (α := α) r q n h)) (hj : j < R.height)
    (hk : k < R.width) :
    ∃ i < h, (r i ≤ R.dstCell j k ∧ R.dstCell j k < r i + n) ∧
      (∀ i', i < i' → i' < h → ¬ (r i' ≤ R.dstCell j k ∧ R.dstCell j k < r i' + n)) ∧
      q i + (R.dstCell j k - r i) = R.srcCell j k := by
  obtain ⟨a, b, hne⟩ := exists_pair_ne α
  have hplace := hfits.dst_le j hj
  have hsource := hfits.src_le j hj
  obtain ⟨after, hrun, hcopied⟩ := hcopies ((List.replicate srcSize a).set (R.srcCell j k) b)
    (List.replicate dstSize a) (by rw [List.length_set, List.length_replicate])
    (List.length_replicate ..)
  have hcell := hcopied.inside j hj k hk
  rw [List.getElem?_set_self (by rw [List.length_replicate, srcCell]; omega)] at hcell
  by_cases hex : ∃ i < h, r i ≤ R.dstCell j k ∧ R.dstCell j k < r i + n
  · obtain ⟨i, hi, hcov, hlater⟩ := exists_last hex
    refine ⟨i, hi, hcov, hlater, ?_⟩
    rw [copyRowsAt_of_last hrun hi hcov hlater] at hcell
    by_contra hother
    rw [List.getElem?_set_ne (Ne.symm hother), List.getElem?_replicate] at hcell
    split_ifs at hcell
    exact hne (Option.some.inj hcell)
  · push Not at hex
    rw [copyRowsAt_of_untouched hrun fun i hi hcov => absurd hcov.2 (by
      have := hex i hi hcov.1
      omega), List.getElem?_replicate, if_pos (by rw [dstCell]; omega)] at hcell
    exact absurd (Option.some.inj hcell) hne

/-- A row that is longer than the rectangle is wide runs from one row of the rectangle into the
next, which is only right where neither raster has cells between them. -/
lemma pitches_of_width_lt (hfits : R.Fits srcSize dstSize) (hheight : 0 < h) (hpos : 0 < R.width)
    (hwidth : R.width < n)
    (hcopies : R.Copies srcSize dstSize (copyRowsAt (α := α) r q n h)) :
    R.dstPitch = R.width ∧ R.srcPitch = R.width := by
  have hlast : h - 1 < h := by omega
  -- each cell of the last row of the copy is where the rectangle has it
  have hcell : ∀ m < n, ∃ j < R.height, ∃ k < R.width, r (h - 1) + m = R.dstCell j k ∧
      q (h - 1) + m = R.srcCell j k := by
    intro m hm
    obtain ⟨j, hj, k, hk, hdst⟩ :=
      dst_of_covered hcopies hlast (x := r (h - 1) + m) (by omega)
    obtain ⟨i, hi, -, hlater, hsrc⟩ := covering_of_lt hfits hcopies hj hk
    rw [← hdst] at hlater hsrc
    have hi' : i = h - 1 := by
      by_contra hne
      exact hlater (h - 1) (by omega) hlast (by omega)
    subst hi'
    exact ⟨j, hj, k, hk, hdst, by omega⟩
  obtain ⟨j, hj, k, hk, hdst, hsrc⟩ := hcell 0 (by omega)
  obtain ⟨j₁, hj₁, k₁, hk₁, hdst₁, hsrc₁⟩ := hcell (R.width - k) (by omega)
  simp only [dstCell, srcCell] at hdst hsrc hdst₁ hsrc₁
  have hw := hfits.width_le_dst
  have hw' := hfits.width_le_src
  have hjump : j₁ * R.dstPitch + k₁ = j * R.dstPitch + R.width := by omega
  have hjump' : j₁ * R.srcPitch + k₁ = j * R.srcPitch + R.width := by omega
  have hnext : j₁ = j + 1 := by
    rcases Nat.lt_trichotomy j₁ (j + 1) with hlt | heq | hgt
    · have hle := Nat.mul_le_mul_right R.dstPitch (Nat.lt_succ_iff.mp hlt)
      omega
    · exact heq
    · have hle := Nat.mul_le_mul_right R.dstPitch hgt
      rw [Nat.succ_eq_add_one, Nat.add_mul, Nat.add_mul, Nat.one_mul] at hle
      omega
  subst hnext
  rw [Nat.add_mul, Nat.one_mul] at hjump hjump'
  exact ⟨by omega, by omega⟩

/-- **Rows at any positions copy a rectangle** exactly when they are as wide and the last of them
lies at its place. The positions may lag behind those of the rectangle, but not once the last
one is right; the two rasters are not both as narrow as the rectangle where the rows are wider. -/
theorem copies_rows_iff (hfits : R.Fits srcSize dstSize) (hheight : 0 < R.height)
    (hlag : ∀ j < R.height, r j ≤ R.dstCell j 0)
    (hexact : r (R.height - 1) = R.dstCell (R.height - 1) 0 →
      q (R.height - 1) = R.srcCell (R.height - 1) 0 →
      ∀ j < R.height, r j = R.dstCell j 0 ∧ q j = R.srcCell j 0)
    (hnarrow : R.width < n → ¬ (0 < R.width ∧ R.dstPitch = R.width ∧ R.srcPitch = R.width)) :
    R.Copies srcSize dstSize (copyRowsAt (α := α) r q n R.height) ↔
      n = R.width ∧ (R.width = 0 ∨ r (R.height - 1) = R.dstCell (R.height - 1) 0 ∧
        q (R.height - 1) = R.srcCell (R.height - 1) 0) := by
  have hlast : R.height - 1 < R.height := by omega
  constructor
  · intro hcopies
    rcases Nat.eq_zero_or_pos R.width with hzero | hpos
    · refine ⟨?_, .inl hzero⟩
      by_contra hne
      obtain ⟨j, -, k, hk, -⟩ :=
        dst_of_covered hcopies hlast (x := r (R.height - 1)) (by omega)
      omega
    · have hle : n ≤ R.width := by
        by_contra hlt
        exact hnarrow (by omega)
          ⟨hpos, pitches_of_width_lt hfits hheight hpos (by omega) hcopies⟩
      obtain ⟨i, hi, hcov, -, hsrc⟩ :=
        covering_of_lt hfits hcopies hlast (show R.width - 1 < R.width by omega)
      have hlagged := hlag i hi
      have hrows : i * R.dstPitch ≤ (R.height - 1) * R.dstPitch :=
        Nat.mul_le_mul_right _ (by omega)
      simp only [dstCell, srcCell] at hcov hsrc hlagged ⊢
      have hi' : i * R.dstPitch = (R.height - 1) * R.dstPitch := by omega
      have hij := Nat.eq_of_mul_eq_mul_right hfits.dstPitch_pos hi'
      subst hij
      exact ⟨by omega, .inr ⟨by omega, by omega⟩⟩
  · rintro ⟨rfl, hplace⟩ src dst hsrc hdst
    rcases hplace with hzero | ⟨hr, hq⟩
    · obtain ⟨out, hout⟩ := @Block.exists_run α src ⟨dst, []⟩
        ((List.range R.height).map fun j => .copy (r j) (q j) R.width) fun m hm => by
          obtain ⟨j, -, rfl⟩ := List.mem_map.mp hm
          exact .inl hzero
      have hrun : copyRowsAt r q R.width R.height src dst = some out.cells := by
        rw [copyRowsAt, hout]
        rfl
      exact ⟨_, hrun, length_copyRowsAt hrun, fun j _ k hk => by omega,
        fun i _ => copyRowsAt_of_untouched hrun fun j _ hcov => by omega⟩
    · have hsame := hexact hr hq
      have hrows : (List.range R.height).map (fun j => Move.copy (α := α) (r j) (q j) R.width) =
          Move.rows R.dst R.src R.dstPitch R.srcPitch R.width R.height := by
        refine List.map_congr_left fun j hj => ?_
        obtain ⟨hr, hq⟩ := hsame j (List.mem_range.mp hj)
        rw [hr, hq]
        rfl
      obtain ⟨out, hout⟩ := @Block.exists_run_rows α src ⟨dst, []⟩ R.dst R.src R.dstPitch
        R.srcPitch R.width R.height (fun j hj => hsrc ▸ hfits.src_le j hj)
        (fun j hj => hdst ▸ hfits.dst_le j hj)
      refine ⟨out.cells, ?_, Block.length_run hout, fun j hj k hk => ?_, fun i hi => ?_⟩
      · rw [copyRowsAt, hrows, hout]
        rfl
      · exact Block.getElem?_run_rows hout hfits.width_le_dst hj hk
      · exact Block.getElem?_run_rows_of_ne hout hi

/-- A copy that writes nothing is right for an empty rectangle only. -/
lemma copies_nothing_iff (hfits : R.Fits srcSize dstSize) :
    R.Copies srcSize dstSize (fun _ dst : List α => some dst) ↔ R.height = 0 ∨ R.width = 0 := by
  constructor
  · intro hcopies
    by_contra hne
    push Not at hne
    have hdst := hfits.dst_le 0 (by omega)
    have hsrc := hfits.src_le 0 (by omega)
    obtain ⟨a, b, hab⟩ := exists_pair_ne α
    obtain ⟨after, hrun, hcopied⟩ := hcopies (List.replicate srcSize a)
      (List.replicate dstSize b) (List.length_replicate ..) (List.length_replicate ..)
    cases hrun
    have hcell := hcopied.inside 0 (by omega) 0 (by omega)
    rw [List.getElem?_replicate, List.getElem?_replicate, if_pos (by rw [dstCell]; omega),
      if_pos (by rw [srcCell]; omega)] at hcell
    exact hab (Option.some.inj hcell).symm
  · intro hempty src dst _ _
    exact ⟨dst, rfl, rfl, fun j hj k hk => by omega, fun _ _ => rfl⟩

end Rows

end Rect

end LibAjaNtv2
