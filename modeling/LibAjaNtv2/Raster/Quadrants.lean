import LibAjaNtv2.Lib.Block
import LibAjaNtv2.Rpc.Nub

/-!
Cutting an image into its quadrants and putting it together again (`ntv2utils.cpp`).

* `copyRows`: the row loop of the three functions, with 32-bit positions;
* `stackQuadrants`, `copyFromQuadrant`, `copyToQuadrant`;
* `quadrantStart`, `quadrantPos`: where a quadrant starts in the image, and where its bytes are;
* `copyFromQuadrant_spec`, `copyToQuadrant_spec`: what one copy does;
* `splitJoin_iff`: **the copies rebuild the image exactly when no row starts at 4 GiB or later**.
-/

namespace LibAjaNtv2

/-! ### The functions -/

/-- The row loop: copy a row, and step to the next one on both sides. -/
def copyRows (src : List Byte) (copyRowBytes dstRowBytes srcRowBytes : ULWord) :
    ℕ → ULWord → ULWord → Block Byte → Option (Block Byte)
  | 0, _, _, dst => some dst
  | row + 1, dstSample, srcSample, dst =>
      (dst.memcpy dstSample.toNat src srcSample.toNat copyRowBytes.toNat).bind
        (copyRows src copyRowBytes dstRowBytes srcRowBytes row (dstSample + dstRowBytes)
          (srcSample + srcRowBytes))

/-- One round of `StackQuadrants`. -/
def stackQuadrant (pSrc : List Byte) (srcHeight srcRowBytes : ULWord) (pDst : Block Byte)
    (quadrant : ℕ) : Option (Block Byte) :=
  let copyRowBytes := srcRowBytes / 2
  let copyHeight := srcHeight / 2
  let dstRowBytes := copyRowBytes
  let dstHeight := srcHeight / 2
  let srcLHSQuadrantRowBytes := srcRowBytes / 2
  let srcSample : ULWord := match quadrant with
    | 1 => srcLHSQuadrantRowBytes
    | 2 => srcRowBytes * copyHeight
    | 3 => srcRowBytes * copyHeight + srcLHSQuadrantRowBytes
    | _ => 0
  let dstSample := BitVec.ofNat 32 quadrant * dstRowBytes * dstHeight
  copyRows pSrc copyRowBytes dstRowBytes srcRowBytes copyHeight.toNat dstSample srcSample pDst

/-- `StackQuadrants`, which does not use the width. -/
def stackQuadrants (pSrc : List Byte) (_srcWidth srcHeight srcRowBytes : ULWord)
    (pDst : Block Byte) : Option (Block Byte) :=
  (List.range 4).foldlM (stackQuadrant pSrc srcHeight srcRowBytes) pDst

/-- `CopyFromQuadrant`. -/
def copyFromQuadrant (srcBuffer : List Byte) (srcHeight srcRowBytes srcQuadrant : ULWord)
    (dstBuffer : Block Byte) (quad13Offset : ULWord) : Option (Block Byte) :=
  let dstHeight := srcHeight / 2
  let dstRowBytes := srcRowBytes / 2
  let srcSample : ULWord := match srcQuadrant.toNat with
    | 1 => dstRowBytes - quad13Offset
    | 2 => srcRowBytes * dstHeight
    | 3 => srcRowBytes * dstHeight + dstRowBytes - quad13Offset
    | _ => 0
  copyRows srcBuffer dstRowBytes dstRowBytes srcRowBytes dstHeight.toNat 0 srcSample dstBuffer

/-- `CopyToQuadrant`. -/
def copyToQuadrant (srcBuffer : List Byte) (srcHeight srcRowBytes dstQuadrant : ULWord)
    (dstBuffer : Block Byte) (quad13Offset : ULWord) : Option (Block Byte) :=
  let dstRowBytes := srcRowBytes * 2
  let dstSample : ULWord := match dstQuadrant.toNat with
    | 1 => srcRowBytes - quad13Offset
    | 2 => dstRowBytes * srcHeight
    | 3 => dstRowBytes * srcHeight + srcRowBytes - quad13Offset
    | _ => 0
  copyRows srcBuffer srcRowBytes dstRowBytes srcRowBytes srcHeight.toNat dstSample 0 dstBuffer

/-! ### The row loop as a list of moves -/

section Rows

variable {src : List Byte} {n dp sp d s : ULWord} {h : ℕ} {dst out : Block Byte}

/-- The loop makes one copy for each row, at 32-bit positions. -/
lemma copyRows_eq_run :
    copyRows src n dp sp h d s dst = Block.run src ((List.range h).map fun j =>
      .copy (d + BitVec.ofNat 32 j * dp).toNat (s + BitVec.ofNat 32 j * sp).toNat n.toNat) dst := by
  induction h generalizing d s dst with
  | zero => rfl
  | succ h ih =>
      have hnext : ∀ a b : ULWord, ∀ j : ℕ,
          a + BitVec.ofNat 32 (j + 1) * b = a + b + BitVec.ofNat 32 j * b := by
        intro a b j
        rw [BitVec.ofNat_add, BitVec.add_mul, BitVec.one_mul, BitVec.add_comm _ b,
          BitVec.add_assoc]
      rw [List.range_succ_eq_map, List.map_cons, List.map_map, Block.run, copyRows, Block.memcpy]
      simp only [ih, Function.comp_def, Nat.succ_eq_add_one, hnext, BitVec.zero_mul,
        BitVec.add_zero]

lemma toNat_position {a b : ULWord} {j : ℕ} (hfits : a.toNat + j * b.toNat < 2 ^ 32) :
    (a + BitVec.ofNat 32 j * b).toNat = a.toNat + j * b.toNat := by
  rw [BitVec.toNat_add, BitVec.toNat_mul, BitVec.toNat_ofNat, Nat.mod_mul_mod, Nat.add_mod_mod,
    Nat.mod_eq_of_lt hfits]

/-- Where no position wraps, the loop copies evenly spaced rows. -/
lemma copyRows_eq_rows (hdst : ∀ j < h, d.toNat + j * dp.toNat < 2 ^ 32)
    (hsrc : ∀ j < h, s.toNat + j * sp.toNat < 2 ^ 32) :
    copyRows src n dp sp h d s dst =
      Block.run src (Move.rows d.toNat s.toNat dp.toNat sp.toNat n.toNat h) dst := by
  rw [copyRows_eq_run, Move.rows]
  refine congrArg (Block.run src · dst) (List.map_congr_left fun j hj => ?_)
  rw [List.mem_range] at hj
  rw [toNat_position (hdst j hj), toNat_position (hsrc j hj)]

/-- The loop writes no cell that is `n` bytes or more past 4 GiB. -/
lemma writes_copyRows (hrun : copyRows src n dp sp h d s dst = some out) {i : ℕ}
    (hi : 2 ^ 32 + n.toNat ≤ i + 1) : out.writes i = dst.writes i := by
  rw [copyRows_eq_run] at hrun
  rw [Block.writes_run hrun, Move.countP_covers_eq_zero, Nat.add_zero]
  simp only [List.mem_map, forall_exists_index, and_imp]
  rintro m j - rfl ⟨-, hhigh⟩
  have hdst := (d + BitVec.ofNat 32 j * dp).isLt
  simp only [Move.dst, Move.len] at hhigh
  omega

end Rows

/-! ### The quadrants of an image -/

/-- Where a quadrant starts in an image of `2 * h` rows of `2 * r` bytes. -/
def quadrantStart (h r q : ℕ) : ℕ := q / 2 * (2 * r * h) + q % 2 * r

/-- Where the byte `k` of row `j` of a quadrant is in the image. -/
def quadrantPos (h r q j k : ℕ) : ℕ := quadrantStart h r q + j * (2 * r) + k

section Geometry

variable {h r q q' j j' k k' : ℕ}

/-- A number below `2 * n` is in the lower or in the upper half. -/
lemma exists_half {n y : ℕ} (hy : y < 2 * n) : ∃ a < 2, ∃ x < n, y = a * n + x := by
  rcases Nat.lt_or_ge y n with hlow | hhigh
  · exact ⟨0, by omega, y, hlow, by omega⟩
  · exact ⟨1, by omega, y - n, by omega, by omega⟩

/-- Every byte of the image is in a quadrant. -/
lemma exists_quadrantPos {i : ℕ} (hi : i < 2 * h * (2 * r)) :
    ∃ q < 4, ∃ j < h, ∃ k < r, i = quadrantPos h r q j k := by
  have hr : 0 < 2 * r := Nat.pos_of_ne_zero fun hr => by simp [hr] at hi
  have hy : i / (2 * r) < 2 * h := (Nat.div_lt_iff_lt_mul hr).mpr hi
  obtain ⟨row, hrow, j, hj, hjeq⟩ := exists_half hy
  obtain ⟨col, hcol, k, hk, hkeq⟩ := exists_half (Nat.mod_lt i hr)
  have hq : (2 * row + col) / 2 = row := by omega
  have hq' : (2 * row + col) % 2 = col := by omega
  refine ⟨2 * row + col, by omega, j, hj, k, hk, ?_⟩
  rw [quadrantPos, quadrantStart, hq, hq']
  calc i = 2 * r * (i / (2 * r)) + i % (2 * r) := (Nat.div_add_mod _ _).symm
    _ = 2 * r * (row * h + j) + (col * r + k) := by rw [hjeq, hkeq]
    _ = _ := by ring

/-- The row of the image a byte of a quadrant is in, and its place in that row. -/
lemma quadrantPos_divMod (hk : k < r) :
    quadrantPos h r q j k / (2 * r) = q / 2 * h + j ∧
      quadrantPos h r q j k % (2 * r) = q % 2 * r + k := by
  have hlt : q % 2 * r + k < 2 * r := by
    rcases Nat.mod_two_eq_zero_or_one q with h0 | h1
    · rw [h0]
      omega
    · rw [h1]
      omega
  have hpos : quadrantPos h r q j k = 2 * r * (q / 2 * h + j) + (q % 2 * r + k) := by
    rw [quadrantPos, quadrantStart]
    ring
  rw [hpos]
  exact ⟨by rw [Nat.mul_add_div (by omega), Nat.div_eq_of_lt hlt, Nat.add_zero],
    by rw [Nat.mul_add_mod, Nat.mod_eq_of_lt hlt]⟩

/-- A byte of the image is in one quadrant only, at one place. -/
lemma quadrantPos_inj (hq : q < 4) (hj : j < h) (hk : k < r) (hq' : q' < 4) (hj' : j' < h)
    (hk' : k' < r) (heq : quadrantPos h r q j k = quadrantPos h r q' j' k') :
    q = q' ∧ j = j' ∧ k = k' := by
  obtain ⟨hrow, hcol⟩ := @quadrantPos_divMod h r q j k hk
  obtain ⟨hrow', hcol'⟩ := @quadrantPos_divMod h r q' j' k' hk'
  rw [heq, hrow'] at hrow
  rw [heq, hcol'] at hcol
  have hlow : q / 2 = 0 ∨ q / 2 = 1 := by omega
  have hlow' : q' / 2 = 0 ∨ q' / 2 = 1 := by omega
  have hup : q / 2 = q' / 2 ∧ j = j' := by
    rcases hlow with h0 | h0 <;> rcases hlow' with h1 | h1 <;> rw [h0, h1] at hrow ⊢ <;> omega
  have hleft : q % 2 = q' % 2 ∧ k = k' := by
    rcases Nat.mod_two_eq_zero_or_one q with h0 | h0 <;>
      rcases Nat.mod_two_eq_zero_or_one q' with h1 | h1 <;> rw [h0, h1] at hcol ⊢ <;> omega
  exact ⟨by omega, hup.2, hleft.2⟩

/-- A byte of a quadrant lies inside the image, before the byte that a wider row would start. -/
lemma quadrantPos_lt (hq : q < 4) (hj : j < h) : quadrantPos h r q j 0 + r ≤ 2 * h * (2 * r) := by
  have hrow : (q / 2 * h + j + 1) * (2 * r) ≤ 2 * h * (2 * r) := by
    refine Nat.mul_le_mul_right _ ?_
    rcases show q / 2 = 0 ∨ q / 2 = 1 by omega with h0 | h0 <;> rw [h0] <;> omega
  have hcol : q % 2 * r + r ≤ 2 * r := by
    rcases Nat.mod_two_eq_zero_or_one q with h0 | h0 <;> rw [h0] <;> omega
  calc quadrantPos h r q j 0 + r = (q / 2 * h + j) * (2 * r) + (q % 2 * r + r) := by
        rw [quadrantPos, quadrantStart]
        ring
    _ ≤ (q / 2 * h + j + 1) * (2 * r) := by
        rw [Nat.add_mul (_ + _) 1]
        omega
    _ ≤ _ := hrow

/-- Where the last row of an image starts before 4 GiB, so does every row of a quadrant. -/
lemma quadrantPos_lt_of_fits (hq : q < 4) (hj : j < h) (hfits : 2 * h * (2 * r) < 2 ^ 32 + r) :
    quadrantPos h r q j 0 < 2 ^ 32 := by
  have hlt := @quadrantPos_lt h r q j hq hj
  omega

end Geometry

/-! ### What one copy does -/

section Copies

variable {srcHeight srcRowBytes : ULWord} {image quad : List Byte} {b : Block Byte} {h r q : ℕ}

/-- Where the four quadrants start, as 32-bit numbers. -/
lemma toNat_starts {rows rowBytes half : ULWord} (hrows : rows.toNat = h)
    (hrowBytes : rowBytes.toNat = 2 * r) (hhalf : half.toNat = r) (hpos : 0 < h)
    (hfits : 2 * h * (2 * r) < 2 ^ 32 + r) :
    (half - 0).toNat = quadrantStart h r 1 ∧ (rowBytes * rows).toNat = quadrantStart h r 2 ∧
      (rowBytes * rows + half - 0).toNat = quadrantStart h r 3 := by
  have hlast := quadrantPos_lt_of_fits (show 3 < 4 by omega) hpos hfits
  simp only [quadrantPos, quadrantStart] at hlast ⊢
  have hmul : (rowBytes * rows).toNat = 2 * r * h := by
    rw [BitVec.toNat_mul, hrows, hrowBytes, Nat.mod_eq_of_lt (by omega)]
  refine ⟨by simp [hhalf], by omega, ?_⟩
  have hsub : rowBytes * rows + half - 0 = rowBytes * rows + half := BitVec.sub_zero _
  rw [hsub, BitVec.toNat_add, hmul, hhalf, Nat.mod_eq_of_lt (by omega)]
  omega

/-- `CopyFromQuadrant` copies the rows of a quadrant. -/
lemma copyFromQuadrant_eq (hh : srcHeight.toNat = 2 * h) (hr : srcRowBytes.toNat = 2 * r)
    (hq : q < 4) (hfits : 2 * h * (2 * r) < 2 ^ 32 + r) :
    copyFromQuadrant image srcHeight srcRowBytes (BitVec.ofNat 32 q) b 0 =
      Block.run image (Move.rows 0 (quadrantStart h r q) r (2 * r) r h) b := by
  have hrow : (srcRowBytes / 2).toNat = r := by simp [hr]
  have hrows : (srcHeight / 2).toNat = h := by simp [hh]
  have hstart : ∀ start : ULWord, (0 < h → start.toNat = quadrantStart h r q) →
      copyRows image (srcRowBytes / 2) (srcRowBytes / 2) srcRowBytes (srcHeight / 2).toNat 0 start
        b = Block.run image (Move.rows 0 (quadrantStart h r q) r (2 * r) r h) b := by
    intro start hstart
    rw [hrows]
    rcases Nat.eq_zero_or_pos h with hzero | hpos
    · subst hzero
      rfl
    · rw [copyRows_eq_rows, hrow, hr, hstart hpos]
      · rfl
      · intro j hj
        have hlt := quadrantPos_lt_of_fits (show 0 < 4 by omega) hj hfits
        have hle : j * r ≤ j * (2 * r) := Nat.mul_le_mul_left j (by omega)
        simp only [quadrantPos, quadrantStart] at hlt
        rw [hrow, show (0 : ULWord).toNat = 0 from rfl]
        omega
      · intro j hj
        rw [hstart hpos, hr]
        exact quadrantPos_lt_of_fits hq hj hfits
  have hstarts := fun hpos => toNat_starts hrows hr hrow hpos hfits
  rw [copyFromQuadrant]
  interval_cases q
  · exact hstart 0 fun _ => by simp [quadrantStart]
  · exact hstart _ fun hpos => (hstarts hpos).1
  · exact hstart _ fun hpos => (hstarts hpos).2.1
  · exact hstart _ fun hpos => (hstarts hpos).2.2

/-- `CopyToQuadrant` copies the rows of a quadrant back. -/
lemma copyToQuadrant_eq (hh : srcHeight.toNat = h) (hr : srcRowBytes.toNat = r)
    (hrow : (srcRowBytes * 2).toNat = 2 * r) (hq : q < 4)
    (hfits : 2 * h * (2 * r) < 2 ^ 32 + r) :
    copyToQuadrant quad srcHeight srcRowBytes (BitVec.ofNat 32 q) b 0 =
      Block.run quad (Move.rows (quadrantStart h r q) 0 (2 * r) r r h) b := by
  have hstart : ∀ start : ULWord, (0 < h → start.toNat = quadrantStart h r q) →
      copyRows quad srcRowBytes (srcRowBytes * 2) srcRowBytes srcHeight.toNat start 0 b =
        Block.run quad (Move.rows (quadrantStart h r q) 0 (2 * r) r r h) b := by
    intro start hstart
    rw [hh]
    rcases Nat.eq_zero_or_pos h with hzero | hpos
    · subst hzero
      rfl
    · rw [copyRows_eq_rows, hrow, hr, hstart hpos]
      · rfl
      · intro j hj
        rw [hstart hpos, hrow]
        exact quadrantPos_lt_of_fits hq hj hfits
      · intro j hj
        have hlt := quadrantPos_lt_of_fits (show 0 < 4 by omega) hj hfits
        have hle : j * r ≤ j * (2 * r) := Nat.mul_le_mul_left j (by omega)
        simp only [quadrantPos, quadrantStart] at hlt
        rw [hr, show (0 : ULWord).toNat = 0 from rfl]
        omega
  have hstarts := fun hpos => toNat_starts hh hrow hr hpos hfits
  rw [copyToQuadrant]
  interval_cases q
  · exact hstart 0 fun _ => by simp [quadrantStart]
  · exact hstart _ fun hpos => (hstarts hpos).1
  · exact hstart _ fun hpos => (hstarts hpos).2.1
  · exact hstart _ fun hpos => (hstarts hpos).2.2

/-- **A quadrant copied out** holds its bytes row by row. -/
lemma copyFromQuadrant_spec (hh : srcHeight.toNat = 2 * h) (hr : srcRowBytes.toNat = 2 * r)
    (hq : q < 4) (hfits : 2 * h * (2 * r) < 2 ^ 32 + r) (himage : image.length = 2 * h * (2 * r))
    (hb : b.cells.length = h * r) :
    ∃ out, copyFromQuadrant image srcHeight srcRowBytes (BitVec.ofNat 32 q) b 0 = some out ∧
      out.cells.length = h * r ∧
      ∀ j < h, ∀ k < r, out.cells[j * r + k]? = image[quadrantPos h r q j k]? := by
  rw [copyFromQuadrant_eq hh hr hq hfits]
  obtain ⟨out, hout⟩ := @Block.exists_run_rows _ image b 0 (quadrantStart h r q) r (2 * r) r h
    (fun j hj => by
      have hlt := @quadrantPos_lt h r q j hq hj
      rw [quadrantPos] at hlt
      omega)
    (fun j hj => by
      have hle := Nat.mul_le_mul_right r hj
      rw [Nat.succ_eq_add_one, Nat.add_mul, Nat.one_mul] at hle
      omega)
  refine ⟨out, hout, by rw [Block.length_run hout, hb], fun j hj k hk => ?_⟩
  have hcell := Block.getElem?_run_rows hout le_rfl hj hk
  rwa [Nat.zero_add] at hcell

/-- **A quadrant copied back** is written once, and nothing else is. -/
lemma copyToQuadrant_spec (hh : srcHeight.toNat = h) (hr : srcRowBytes.toNat = r)
    (hrow : (srcRowBytes * 2).toNat = 2 * r) (hq : q < 4) (hfits : 2 * h * (2 * r) < 2 ^ 32 + r)
    (hquad : quad.length = h * r) (hb : b.cells.length = 2 * h * (2 * r)) :
    ∃ out, copyToQuadrant quad srcHeight srcRowBytes (BitVec.ofNat 32 q) b 0 = some out ∧
      out.cells.length = 2 * h * (2 * r) ∧
      (∀ j < h, ∀ k < r, out.cells[quadrantPos h r q j k]? = quad[j * r + k]? ∧
        out.writes (quadrantPos h r q j k) = b.writes (quadrantPos h r q j k) + 1) ∧
      ∀ i, (∀ j < h, ∀ k < r, i ≠ quadrantPos h r q j k) →
        out.cells[i]? = b.cells[i]? ∧ out.writes i = b.writes i := by
  rw [copyToQuadrant_eq hh hr hrow hq hfits]
  obtain ⟨out, hout⟩ := @Block.exists_run_rows _ quad b (quadrantStart h r q) 0 (2 * r) r r h
    (fun j hj => by
      have hle := Nat.mul_le_mul_right r hj
      rw [Nat.succ_eq_add_one, Nat.add_mul, Nat.one_mul] at hle
      omega)
    (fun j hj => by
      have hlt := @quadrantPos_lt h r q j hq hj
      rw [quadrantPos] at hlt
      omega)
  have hwide : r ≤ 2 * r := by omega
  refine ⟨out, hout, by rw [Block.length_run hout, hb], fun j hj k hk => ⟨?_, ?_⟩,
    fun i hi => ⟨Block.getElem?_run_rows_of_ne hout hi, Block.writes_run_rows_of_ne hout hi⟩⟩
  · have hcell := Block.getElem?_run_rows hout hwide hj hk
    rwa [Nat.zero_add] at hcell
  · exact Block.writes_run_rows hout hwide hj hk

end Copies

/-! ### The four quadrants together -/

/-- The quadrants put into an image, one after the other. -/
def joinQuadrants (quad : ℕ → List Byte) (srcHeight srcRowBytes : ULWord) (b : Block Byte) :
    ℕ → Option (Block Byte)
  | 0 => some b
  | q + 1 => (joinQuadrants quad srcHeight srcRowBytes b q).bind fun out =>
      copyToQuadrant (quad q) srcHeight srcRowBytes (BitVec.ofNat 32 q) out 0

section Join

variable {srcHeight srcRowBytes : ULWord} {image : List Byte} {quad : ℕ → List Byte}
  {b : Block Byte} {h r q : ℕ}

/-- **The quadrants joined so far** are in the image, each of their bytes written once, and the
other quadrants are still to come. -/
lemma joinQuadrants_spec (hh : srcHeight.toNat = h) (hr : srcRowBytes.toNat = r)
    (hrow : (srcRowBytes * 2).toNat = 2 * r) (hfits : 2 * h * (2 * r) < 2 ^ 32 + r)
    (hquad : ∀ q < 4, (quad q).length = h * r) (hb : b.cells.length = 2 * h * (2 * r)) {n : ℕ}
    (hn : n ≤ 4) :
    ∃ out, joinQuadrants quad srcHeight srcRowBytes b n = some out ∧
      out.cells.length = 2 * h * (2 * r) ∧
      ∀ q < 4, ∀ j < h, ∀ k < r,
        (q < n → out.cells[quadrantPos h r q j k]? = (quad q)[j * r + k]?) ∧
        out.writes (quadrantPos h r q j k) =
          b.writes (quadrantPos h r q j k) + if q < n then 1 else 0 := by
  induction n with
  | zero => exact ⟨b, rfl, hb, fun q _ j _ k _ => ⟨fun h => absurd h (by omega), rfl⟩⟩
  | succ n ih =>
      obtain ⟨mid, hmid, hlength, hinv⟩ := ih (by omega)
      obtain ⟨out, hout, hlength', hin, hframe⟩ :=
        copyToQuadrant_spec hh hr hrow (show n < 4 by omega) hfits (hquad n (by omega)) hlength
      refine ⟨out, by rw [joinQuadrants, hmid]; exact hout, hlength', fun q hq j hj k hk => ?_⟩
      obtain ⟨hcell, hwrites⟩ := hinv q hq j hj k hk
      by_cases hqn : q = n
      · subst hqn
        obtain ⟨hcell', hwrites'⟩ := hin j hj k hk
        refine ⟨fun _ => hcell', ?_⟩
        rw [hwrites', hwrites]
        simp
      · obtain ⟨hcell', hwrites'⟩ := hframe (quadrantPos h r q j k) fun j' hj' k' hk' heq =>
          hqn (quadrantPos_inj hq hj hk (by omega) hj' hk' heq).1
        refine ⟨fun hlt => by rw [hcell', hcell (by omega)], ?_⟩
        rw [hwrites', hwrites]
        simp only [show (q < n + 1) = (q < n) by
          refine propext ⟨fun hlt => ?_, fun hlt => ?_⟩ <;> omega]

/-- A byte that is a whole row past 4 GiB is never written. -/
lemma writes_joinQuadrants {n : ℕ} {out : Block Byte}
    (hjoin : joinQuadrants quad srcHeight srcRowBytes b n = some out) {i : ℕ}
    (hi : 2 ^ 32 + srcRowBytes.toNat ≤ i + 1) : out.writes i = b.writes i := by
  induction n generalizing out with
  | zero =>
      cases hjoin
      rfl
  | succ n ih =>
      obtain ⟨mid, hmid, hout⟩ := Option.bind_eq_some_iff.mp hjoin
      rw [writes_copyRows hout hi, ih hmid]

end Join

/-! ### The stack -/

section Stack

variable {srcWidth srcHeight srcRowBytes : ULWord} {image : List Byte} {b : Block Byte}
  {h r q : ℕ}

/-- One round of `StackQuadrants` copies the rows of a quadrant below the ones before it. -/
lemma stackQuadrant_eq (hh : srcHeight.toNat = 2 * h) (hr : srcRowBytes.toNat = 2 * r)
    (hq : q < 4) (hfits : 2 * h * (2 * r) < 2 ^ 32 + r) :
    stackQuadrant image srcHeight srcRowBytes b q =
      Block.run image (Move.rows (q * (h * r)) (quadrantStart h r q) r (2 * r) r h) b := by
  have hrow : (srcRowBytes / 2).toNat = r := by simp [hr]
  have hrows : (srcHeight / 2).toNat = h := by simp [hh]
  have hround : ∀ start : ULWord, (0 < h → start.toNat = quadrantStart h r q) →
      copyRows image (srcRowBytes / 2) (srcRowBytes / 2) srcRowBytes (srcHeight / 2).toNat
        (BitVec.ofNat 32 q * (srcRowBytes / 2) * (srcHeight / 2)) start b =
      Block.run image (Move.rows (q * (h * r)) (quadrantStart h r q) r (2 * r) r h) b := by
    intro start hstart
    rw [hrows]
    rcases Nat.eq_zero_or_pos h with hzero | hpos
    · subst hzero
      rfl
    · have hbelow : ∀ j < h, q * (h * r) + j * r < 2 ^ 32 := by
        intro j hj
        have hle : (q * h + (j + 1)) * r ≤ 4 * h * r := by
          refine Nat.mul_le_mul_right r ?_
          interval_cases q <;> omega
        have hlt : 4 * h * r < 2 ^ 32 + r := lt_of_eq_of_lt (by ring) hfits
        rw [show (q * h + (j + 1)) * r = q * (h * r) + j * r + r by ring] at hle
        omega
      have hdst : (BitVec.ofNat 32 q * (srcRowBytes / 2) * (srcHeight / 2)).toNat =
          q * (h * r) := by
        have hlt := hbelow 0 hpos
        rw [BitVec.toNat_mul, BitVec.toNat_mul, hrow, hrows, BitVec.toNat_ofNat,
          Nat.mod_eq_of_lt (show q < 2 ^ 32 by omega), Nat.mod_mul_mod, Nat.mul_assoc,
          Nat.mul_comm r h, Nat.mod_eq_of_lt (by omega)]
      rw [copyRows_eq_rows, hdst, hrow, hr, hstart hpos]
      · intro j hj
        rw [hdst, hrow]
        exact hbelow j hj
      · intro j hj
        rw [hstart hpos, hr]
        exact quadrantPos_lt_of_fits hq hj hfits
  have hstarts := fun hpos => toNat_starts hrows hr hrow hpos hfits
  have hsub : ∀ x : ULWord, x - 0 = x := fun x => BitVec.sub_zero x
  simp only [hsub] at hstarts
  interval_cases q
  · exact hround 0 fun _ => by simp [quadrantStart]
  · exact hround _ fun hpos => (hstarts hpos).1
  · exact hround _ fun hpos => (hstarts hpos).2.1
  · exact hround _ fun hpos => (hstarts hpos).2.2

/-- **The stack** holds the quadrants one below the other. -/
lemma stackQuadrants_spec (hh : srcHeight.toNat = 2 * h) (hr : srcRowBytes.toNat = 2 * r)
    (hfits : 2 * h * (2 * r) < 2 ^ 32 + r) (himage : image.length = 2 * h * (2 * r))
    (hb : b.cells.length = 4 * (h * r)) {n : ℕ} (hn : n ≤ 4) :
    ∃ out, (List.range n).foldlM (stackQuadrant image srcHeight srcRowBytes) b = some out ∧
      out.cells.length = 4 * (h * r) ∧ ∀ q < n, ∀ j < h, ∀ k < r,
        out.cells[q * (h * r) + j * r + k]? = image[quadrantPos h r q j k]? := by
  induction n with
  | zero => exact ⟨b, rfl, hb, fun q hq => absurd hq (by omega)⟩
  | succ n ih =>
      obtain ⟨mid, hmid, hlength, hinv⟩ := ih (by omega)
      have hin : ∀ j < h, j * r + r ≤ h * r := by
        intro j hj
        have hle := Nat.mul_le_mul_right r hj
        rwa [Nat.succ_eq_add_one, Nat.add_mul, Nat.one_mul] at hle
      obtain ⟨out, hout⟩ := @Block.exists_run_rows _ image mid (n * (h * r)) (quadrantStart h r n)
        r (2 * r) r h
        (fun j hj => by
          have hlt := @quadrantPos_lt h r n j (by omega) hj
          rw [quadrantPos] at hlt
          omega)
        (fun j hj => by
          have hle := hin j hj
          have hstack : (n + 1) * (h * r) ≤ 4 * (h * r) := Nat.mul_le_mul_right _ (by omega)
          rw [Nat.add_mul, Nat.one_mul] at hstack
          omega)
      refine ⟨out, ?_, by rw [Block.length_run hout, hlength], fun q hq j hj k hk => ?_⟩
      · rw [List.range_succ, List.foldlM_append, hmid]
        rw [← stackQuadrant_eq hh hr (by omega) hfits] at hout
        simp [hout]
      · by_cases hqn : q = n
        · subst hqn
          exact Block.getElem?_run_rows hout le_rfl hj hk
        · rw [Block.getElem?_run_rows_of_ne hout, hinv q (by omega) j hj k hk]
          intro j' _ k' _
          have hle := hin j hj
          have hstack : (q + 1) * (h * r) ≤ n * (h * r) := Nat.mul_le_mul_right _ (by omega)
          rw [Nat.add_mul, Nat.one_mul] at hstack
          omega

end Stack

/-! ### Split and join -/

/-- What the three functions are for: the quadrants of an image, copied out and back, rebuild it
in a second block, every byte written once, and the stack holds them one after the other. -/
def SplitJoin (image : List Byte) (srcWidth srcHeight srcRowBytes : ULWord)
    (buffers : ℕ → Block Byte) (second stack : Block Byte) : Prop :=
  ∃ quads : ℕ → Block Byte,
    (∀ q < 4, copyFromQuadrant image srcHeight srcRowBytes (BitVec.ofNat 32 q) (buffers q) 0 =
      some (quads q)) ∧
    (∃ joined, joinQuadrants (fun q => (quads q).cells) (srcHeight / 2) (srcRowBytes / 2) second
        4 = some joined ∧
      joined.cells = image ∧ ∀ i < image.length, joined.writes i = second.writes i + 1) ∧
    ∃ stacked, stackQuadrants image srcWidth srcHeight srcRowBytes stack = some stacked ∧
      stacked.cells = (quads 0).cells ++ (quads 1).cells ++ (quads 2).cells ++ (quads 3).cells

/-- A place in four lists of one length, laid end to end. -/
lemma getElem?_append_four {α : Type*} {f : ℕ → List α} {n m q : ℕ}
    (hf : ∀ q < 4, (f q).length = n) (hq : q < 4) (hm : m < n) :
    (f 0 ++ f 1 ++ f 2 ++ f 3)[q * n + m]? = (f q)[m]? := by
  have h0 := hf 0 (by omega)
  have h1 := hf 1 (by omega)
  have h2 := hf 2 (by omega)
  simp only [List.getElem?_append, List.length_append, h0, h1, h2]
  interval_cases q
  · rw [if_pos (by omega), if_pos (by omega), if_pos (by omega), Nat.zero_mul, Nat.zero_add]
  · rw [if_pos (by omega), if_pos (by omega), if_neg (by omega)]
    congr 1
    omega
  · rw [if_pos (by omega), if_neg (by omega)]
    congr 1
    omega
  · rw [if_neg (by omega)]
    congr 1
    omega

section SplitJoin

variable {image : List Byte} {srcWidth srcHeight srcRowBytes : ULWord} {buffers : ℕ → Block Byte}
  {second stack : Block Byte} {h r : ℕ}

/-- Where the last row starts before 4 GiB, the quadrants rebuild the image. -/
lemma splitJoin_of_fits (hh : srcHeight.toNat = 2 * h) (hr : srcRowBytes.toNat = 2 * r)
    (hfits : 2 * h * (2 * r) < 2 ^ 32 + r) (himage : image.length = 2 * h * (2 * r))
    (hbuffers : ∀ q < 4, (buffers q).cells.length = h * r)
    (hsecond : second.cells.length = 2 * h * (2 * r))
    (hstack : stack.cells.length = 2 * h * (2 * r)) :
    SplitJoin image srcWidth srcHeight srcRowBytes buffers second stack := by
  have hrow : (srcRowBytes / 2).toNat = r := by simp [hr]
  have hrows : (srcHeight / 2).toNat = h := by simp [hh]
  have htwice : (srcRowBytes / 2 * 2).toNat = 2 * r := by
    have hlt := srcRowBytes.isLt
    rw [BitVec.toNat_mul, hrow, show (2 : ULWord).toNat = 2 from rfl]
    omega
  have hsize : 2 * h * (2 * r) = 4 * (h * r) := by ring
  have hsplit : ∀ q, ∃ out, q < 4 →
      copyFromQuadrant image srcHeight srcRowBytes (BitVec.ofNat 32 q) (buffers q) 0 = some out ∧
      out.cells.length = h * r ∧
      ∀ j < h, ∀ k < r, out.cells[j * r + k]? = image[quadrantPos h r q j k]? := by
    intro q
    by_cases hq : q < 4
    · obtain ⟨out, hout⟩ := copyFromQuadrant_spec hh hr hq hfits himage (hbuffers q hq)
      exact ⟨out, fun _ => hout⟩
    · exact ⟨buffers q, fun hlt => absurd hlt hq⟩
  choose quads hquads using hsplit
  refine ⟨quads, fun q hq => (hquads q hq).1, ?_, ?_⟩
  · obtain ⟨joined, hjoined, hlength, hinv⟩ := joinQuadrants_spec hrows hrow htwice hfits
      (fun q hq => (hquads q hq).2.1) hsecond (le_refl 4)
    refine ⟨joined, hjoined, List.ext_getElem? fun i => ?_, fun i hi => ?_⟩
    · rcases Nat.lt_or_ge i (2 * h * (2 * r)) with hi | hi
      · obtain ⟨q, hq, j, hj, k, hk, rfl⟩ := exists_quadrantPos hi
        rw [(hinv q hq j hj k hk).1 hq, (hquads q hq).2.2 j hj k hk]
      · rw [List.getElem?_eq_none (by omega), List.getElem?_eq_none (by omega)]
    · obtain ⟨q, hq, j, hj, k, hk, rfl⟩ := exists_quadrantPos (himage ▸ hi)
      rw [(hinv q hq j hj k hk).2, if_pos hq]
  · obtain ⟨stacked, hstacked, hlength, hinv⟩ :=
      stackQuadrants_spec hh hr hfits himage (hstack.trans hsize) (le_refl 4)
    have hquadLength : ∀ q < 4, (quads q).cells.length = h * r := fun q hq => (hquads q hq).2.1
    refine ⟨stacked, hstacked, List.ext_getElem? fun i => ?_⟩
    rcases Nat.lt_or_ge i (4 * (h * r)) with hi | hi
    · have hpos : 0 < h * r := by omega
      have hr0 : 0 < r := Nat.pos_of_mul_pos_left hpos
      have hq : i / (h * r) < 4 := (Nat.div_lt_iff_lt_mul hpos).mpr hi
      have hm : i % (h * r) < h * r := Nat.mod_lt i hpos
      have hj : i % (h * r) / r < h := (Nat.div_lt_iff_lt_mul hr0).mpr hm
      have hk : i % (h * r) % r < r := Nat.mod_lt _ hr0
      have hrow : i % (h * r) / r * r + i % (h * r) % r = i % (h * r) := by
        rw [Nat.mul_comm]
        exact Nat.div_add_mod _ _
      have hsplit : i / (h * r) * (h * r) + i % (h * r) = i := by
        rw [Nat.mul_comm]
        exact Nat.div_add_mod _ _
      have hstackedCell := hinv _ hq _ hj _ hk
      rw [Nat.add_assoc, hrow, ← (hquads _ hq).2.2 _ hj _ hk, hrow,
        ← getElem?_append_four hquadLength hq hm, hsplit] at hstackedCell
      exact hstackedCell
    · have h0 := hquadLength 0 (by omega)
      have h1 := hquadLength 1 (by omega)
      have h2 := hquadLength 2 (by omega)
      have h3 := hquadLength 3 (by omega)
      rw [List.getElem?_eq_none (by omega), List.getElem?_eq_none]
      simp only [List.length_append]
      omega

/-- Where it does not, the last byte of the second block is never written. -/
lemma not_splitJoin (heven : srcRowBytes.toNat = 2 * r) (hlong : 2 ^ 32 + r ≤ image.length) :
    ¬ SplitJoin image srcWidth srcHeight srcRowBytes buffers second stack := by
  rintro ⟨quads, -, ⟨joined, hjoined, -, hwrites⟩, -⟩
  have hrow : (srcRowBytes / 2).toNat = r := by simp [heven]
  have hnever := @writes_joinQuadrants _ _ _ _ _ _ hjoined (image.length - 1) (by omega)
  have honce := hwrites (image.length - 1) (by omega)
  omega

/-- **The quadrants of an image rebuild it exactly when its last half row starts before 4 GiB**:
the functions keep positions in 32 bits. -/
theorem splitJoin_iff (heven : srcHeight.toNat % 2 = 0) (hevenRow : srcRowBytes.toNat % 2 = 0)
    (himage : image.length = srcHeight.toNat * srcRowBytes.toNat)
    (hbuffers : ∀ q < 4,
      (buffers q).cells.length = srcHeight.toNat / 2 * (srcRowBytes.toNat / 2))
    (hsecond : second.cells.length = srcHeight.toNat * srcRowBytes.toNat)
    (hstack : stack.cells.length = srcHeight.toNat * srcRowBytes.toNat) :
    SplitJoin image srcWidth srcHeight srcRowBytes buffers second stack ↔
      srcHeight.toNat * srcRowBytes.toNat < 2 ^ 32 + srcRowBytes.toNat / 2 := by
  have hh : srcHeight.toNat = 2 * (srcHeight.toNat / 2) := by omega
  have hr : srcRowBytes.toNat = 2 * (srcRowBytes.toNat / 2) := by omega
  constructor
  · intro hjoin
    by_contra hlong
    exact not_splitJoin hr (by omega) hjoin
  · intro hfits
    refine splitJoin_of_fits hh hr ?_ ?_ hbuffers ?_ ?_
    · rwa [← hh, ← hr]
    · rwa [← hh, ← hr]
    · rwa [← hh, ← hr]
    · rwa [← hh, ← hr]

/-- An image of two rows of four bytes. -/
theorem splitJoin_iff_small :
    SplitJoin [1, 2, 3, 4, 5, 6, 7, 8] 2 2 4 (fun _ => ⟨[0, 0], []⟩)
      ⟨[0, 0, 0, 0, 0, 0, 0, 0], []⟩ ⟨[0, 0, 0, 0, 0, 0, 0, 0], []⟩ :=
  (splitJoin_iff (by decide) (by decide) (by decide) (by decide) (by decide) (by decide)).mpr
    (by decide)

/-- An image of 131072 rows of 65536 bytes comes back in part only. -/
theorem not_splitJoin_eight_gib :
    ¬ SplitJoin (List.replicate (131072 * 65536) 0) 32768 131072 65536
      (fun _ => ⟨List.replicate (65536 * 32768) 0, []⟩)
      ⟨List.replicate (131072 * 65536) 0, []⟩ ⟨List.replicate (131072 * 65536) 0, []⟩ :=
  not_splitJoin (r := 32768) (by decide) (by rw [List.length_replicate]; decide)

end SplitJoin

end LibAjaNtv2
