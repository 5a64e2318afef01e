import LibAjaNtv2.Raster.CopyRaster

/-!
When `CopyRaster` copies its rectangle (`ntv2utils.cpp`).

* `toNat_numHorzPixelsToCopy`: the clip to the right edges, in numbers;
* `toNat_copied_eq_iff`: **when it leaves as many bytes as the rectangle has**;
* `lines_copies_iff`: the functions that copy a line at a time;
* `copyPixels_eq_run`: the loop over the pixels of a line; `pairs_copies_iff`: its function;
* `copyRaster_iff`: **when each pixel format copies its rectangle**.
-/

namespace LibAjaNtv2

instance : Nontrivial Byte := ⟨0, 1, by decide⟩

/-! ### The pixels of a line, in one piece -/

section Groups

variable {G : PixelGroup} {a : CopyRasterArgs}

/-- The pixels of a line, as a 32-bit number. -/
lemma toNat_maxPixelWidth (G : PixelGroup) (x : ULWord) :
    (x / G.bytes * G.pixels).toNat = x.toNat / G.bytes.toNat * G.pixels.toNat ∧
      5 * (x.toNat / G.bytes.toNat * G.pixels.toNat) ≤ 4 * x.toNat := by
  have hle : 5 * (x.toNat / G.bytes.toNat * G.pixels.toNat) ≤ 4 * x.toNat := by
    calc 5 * (x.toNat / G.bytes.toNat * G.pixels.toNat)
        = x.toNat / G.bytes.toNat * (5 * G.pixels.toNat) := by ring
      _ ≤ x.toNat / G.bytes.toNat * (4 * G.bytes.toNat) := Nat.mul_le_mul_left _ G.pixels_le
      _ = 4 * (x.toNat / G.bytes.toNat * G.bytes.toNat) := by ring
      _ ≤ 4 * x.toNat := Nat.mul_le_mul_left 4 (Nat.div_mul_le_self _ _)
  have hx := x.isLt
  exact ⟨by rw [BitVec.toNat_mul, BitVec.toNat_udiv, Nat.mod_eq_of_lt (by omega)], hle⟩

/-- What the checks of a function say about the rectangle. -/
structure PixelGroup.Accepts (G : PixelGroup) (a : CopyRasterArgs) : Prop where
  dst_mod : a.inDstHorzPixelOffset.toNat % G.pixels.toNat = 0
  src_mod : a.inSrcHorzPixelOffset.toNat % G.pixels.toNat = 0
  copy_mod : a.inSrcHorzPixelsToCopy.toNat % G.pixels.toNat = 0
  dst_lt : a.inDstHorzPixelOffset.toNat <
    a.inDstBytesPerLine.toNat / G.bytes.toNat * G.pixels.toNat
  src_lt : a.inSrcHorzPixelOffset.toNat <
    a.inSrcBytesPerLine.toNat / G.bytes.toNat * G.pixels.toNat

lemma accepts_spec (h : G.accepts a) : G.Accepts a := by
  simp only [PixelGroup.accepts, Bool.and_eq_true, decide_eq_true_eq] at h
  obtain ⟨⟨⟨⟨⟨⟨hdst, hsrc⟩, -⟩, -⟩, hcopy⟩, hdstIn⟩, hsrcIn⟩ := h
  rw [BitVec.lt_def, (toNat_maxPixelWidth G _).1, BitVec.toNat_setWidth_of_le (by omega)]
    at hdstIn hsrcIn
  exact ⟨hdst, hsrc, hcopy, hdstIn, hsrcIn⟩

/-- The pixels that the code takes the rectangle to have inside the source. -/
def PixelGroup.taken (G : PixelGroup) (a : CopyRasterArgs) : ℕ :=
  if a.inSrcHorzPixelOffset.toNat + a.inSrcHorzPixelsToCopy.toNat >
      a.inSrcBytesPerLine.toNat / G.bytes.toNat * G.pixels.toNat % 2 ^ 16 then
    a.srcRoom G.bytes.toNat G.pixels.toNat
  else a.inSrcHorzPixelsToCopy.toNat

/-- **The clip to the right edges, in numbers**: what lies past the edge of the destination is
copied, instead of what lies before it. -/
lemma toNat_numHorzPixelsToCopy (h : G.Accepts a) :
    (G.numHorzPixelsToCopy a).toNat =
      if G.taken a > a.dstRoom G.bytes.toNat G.pixels.toNat then
        G.taken a - a.dstRoom G.bytes.toNat G.pixels.toNat
      else G.taken a := by
  obtain ⟨hdstWidth, -⟩ := toNat_maxPixelWidth G a.inDstBytesPerLine
  obtain ⟨hsrcWidth, hsrcBound⟩ := toNat_maxPixelWidth G a.inSrcBytesPerLine
  have hsrcLt := h.src_lt
  have hdstLt := h.dst_lt
  have hS := a.inSrcBytesPerLine.isLt
  have hwiden : ∀ x : UWord, (x.setWidth 32 : ULWord).toNat = x.toNat := fun x =>
    BitVec.toNat_setWidth_of_le (by omega)
  have hdH := hwiden a.inDstHorzPixelOffset
  have hsH := hwiden a.inSrcHorzPixelOffset
  have ht := hwiden a.inSrcHorzPixelsToCopy
  have htaken : ∀ n : ULWord,
      n = (if a.inSrcHorzPixelOffset.toNat + a.inSrcHorzPixelsToCopy.toNat >
          ((a.inSrcBytesPerLine / G.bytes * G.pixels).setWidth 16).toNat then
        a.inSrcHorzPixelsToCopy.setWidth 32 - (a.inSrcHorzPixelOffset.setWidth 32 +
          a.inSrcHorzPixelsToCopy.setWidth 32 - a.inSrcBytesPerLine / G.bytes * G.pixels)
      else a.inSrcHorzPixelsToCopy.setWidth 32) → n.toNat = G.taken a := by
    rintro n rfl
    rw [PixelGroup.taken, BitVec.toNat_setWidth, hsrcWidth]
    split_ifs
    · rw [CopyRasterArgs.srcRoom, ← hsrcWidth]
      rw [← hsrcWidth] at hsrcLt
      bv_omega
    · exact ht
  have hbound : G.taken a + 65536 < 2 ^ 32 := by
    rw [PixelGroup.taken, CopyRasterArgs.srcRoom]
    have ht := a.inSrcHorzPixelsToCopy.isLt
    split_ifs <;> omega
  rw [PixelGroup.numHorzPixelsToCopy]
  generalize hn : (if a.inSrcHorzPixelOffset.toNat + a.inSrcHorzPixelsToCopy.toNat >
          ((a.inSrcBytesPerLine / G.bytes * G.pixels).setWidth 16).toNat then
        a.inSrcHorzPixelsToCopy.setWidth 32 - (a.inSrcHorzPixelOffset.setWidth 32 +
          a.inSrcHorzPixelsToCopy.setWidth 32 - a.inSrcBytesPerLine / G.bytes * G.pixels)
      else a.inSrcHorzPixelsToCopy.setWidth 32) = n
  have hnTaken := htaken n hn.symm
  have hdHLt := a.inDstHorzPixelOffset.isLt
  have hsum : (a.inDstHorzPixelOffset.setWidth 32 + n).toNat =
      a.inDstHorzPixelOffset.toNat + G.taken a := by
    rw [BitVec.toNat_add, hdH, hnTaken, Nat.mod_eq_of_lt (by omega)]
  rw [CopyRasterArgs.dstRoom]
  by_cases hpast : a.inDstHorzPixelOffset.setWidth 32 + n >
      a.inDstBytesPerLine / G.bytes * G.pixels
  · rw [if_pos hpast, BitVec.toNat_sub_of_le (BitVec.le_of_lt hpast), hsum, hdstWidth]
    rw [gt_iff_lt, BitVec.lt_def, hsum, hdstWidth] at hpast
    rw [if_pos (by omega)]
    omega
  · rw [if_neg hpast, hnTaken]
    rw [gt_iff_lt, BitVec.lt_def, hsum, hdstWidth] at hpast
    rw [if_neg (by omega)]

/-- Dividing a product that may have wrapped by the pixels of a group. -/
lemma mul_mod_div_eq_iff {n w : ℕ} (hn : n % G.pixels.toNat = 0) (hw : w % G.pixels.toNat = 0) :
    n * G.bytes.toNat % 2 ^ 32 / G.pixels.toNat = w / G.pixels.toNat * G.bytes.toNat ↔
      n * G.bytes.toNat % 2 ^ 32 = w * G.bytes.toNat := by
  obtain ⟨m, rfl⟩ := Nat.dvd_of_mod_eq_zero hn
  obtain ⟨z, rfl⟩ := Nat.dvd_of_mod_eq_zero hw
  have hpos := G.pixels_pos
  have hgcd := G.pixels_le_gcd
  rw [Nat.mul_div_cancel_left _ hpos]
  have hdvd : Nat.gcd (G.pixels.toNat * G.bytes.toNat) (2 ^ 32) ∣
      G.pixels.toNat * m * G.bytes.toNat % 2 ^ 32 := by
    refine (Nat.dvd_mod_iff (Nat.gcd_dvd_right _ _)).mpr ?_
    rw [Nat.mul_right_comm]
    exact (Nat.gcd_dvd_left _ _).mul_right m
  have hdvd' : Nat.gcd (G.pixels.toNat * G.bytes.toNat) (2 ^ 32) ∣
      G.pixels.toNat * z * G.bytes.toNat := by
    rw [Nat.mul_right_comm]
    exact (Nat.gcd_dvd_left _ _).mul_right z
  rw [Nat.mul_assoc G.pixels.toNat z] at hdvd' ⊢
  constructor
  · intro hdiv
    have hlow := Nat.div_mul_le_self (G.pixels.toNat * m * G.bytes.toNat % 2 ^ 32) G.pixels.toNat
    have hhigh := Nat.lt_div_mul_add hpos (a := G.pixels.toNat * m * G.bytes.toNat % 2 ^ 32)
    rw [hdiv, Nat.mul_comm (z * _) G.pixels.toNat] at hlow hhigh
    have hsmall := Nat.eq_zero_of_dvd_of_lt (Nat.dvd_sub hdvd hdvd') (by omega)
    omega
  · intro heq
    rw [heq, Nat.mul_div_cancel_left _ hpos]

/-- The pixels of a group divide whatever is left of the rectangle. -/
lemma rooms_mod (h : G.Accepts a) :
    a.dstRoom G.bytes.toNat G.pixels.toNat % G.pixels.toNat = 0 ∧
      a.srcRoom G.bytes.toNat G.pixels.toNat % G.pixels.toNat = 0 :=
  ⟨Nat.mod_eq_zero_of_dvd (Nat.dvd_sub (Nat.dvd_mul_left _ _) (Nat.dvd_of_mod_eq_zero h.dst_mod)),
    Nat.mod_eq_zero_of_dvd (Nat.dvd_sub (Nat.dvd_mul_left _ _) (Nat.dvd_of_mod_eq_zero h.src_mod))⟩

/-- **The bytes copied of a line** are those of the rectangle exactly where it meets the right
edges as it should. -/
lemma toNat_copied_eq_iff (h : G.Accepts a) :
    (G.numHorzPixelsToCopy a * G.bytes / G.pixels).toNat =
      (a.clipped G.bytes.toNat G.pixels.toNat).width ↔ G.MeetsRight a := by
  obtain ⟨hdstMod, hsrcMod⟩ := rooms_mod h
  have hcopyMod := h.copy_mod
  have hsrcLt := h.src_lt
  have ht := a.inSrcHorzPixelsToCopy.isLt
  have hbytes := G.bytes_le
  have hbytesPos := G.bytes_pos
  have htakenMod : G.taken a % G.pixels.toNat = 0 := by
    rw [PixelGroup.taken]
    split_ifs
    · exact hsrcMod
    · exact hcopyMod
  have hnumMod : (G.numHorzPixelsToCopy a).toNat % G.pixels.toNat = 0 := by
    rw [toNat_numHorzPixelsToCopy h]
    split_ifs
    · exact Nat.mod_eq_zero_of_dvd (Nat.dvd_sub (Nat.dvd_of_mod_eq_zero htakenMod)
        (Nat.dvd_of_mod_eq_zero hdstMod))
    · exact htakenMod
  have hwMod : min (a.srcPixels G.bytes.toNat G.pixels.toNat)
      (a.dstRoom G.bytes.toNat G.pixels.toNat) % G.pixels.toNat = 0 := by
    rw [CopyRasterArgs.srcPixels]
    rcases min_choice (min a.inSrcHorzPixelsToCopy.toNat
      (a.srcRoom G.bytes.toNat G.pixels.toNat)) (a.dstRoom G.bytes.toNat G.pixels.toNat) with
      hmin | hmin
    · rw [hmin]
      rcases min_choice a.inSrcHorzPixelsToCopy.toNat
        (a.srcRoom G.bytes.toNat G.pixels.toNat) with hmin' | hmin'
      · rw [hmin', hcopyMod]
      · rw [hmin', hsrcMod]
    · rw [hmin, hdstMod]
  rw [BitVec.toNat_udiv, BitVec.toNat_mul, CopyRasterArgs.clipped,
    mul_mod_div_eq_iff hnumMod hwMod, toNat_numHorzPixelsToCopy h, PixelGroup.MeetsRight]
  -- the place of the rectangle in the source decides how many pixels the code takes
  have hsrcPixels : a.srcPixels G.bytes.toNat G.pixels.toNat =
    min a.inSrcHorzPixelsToCopy.toNat (a.srcRoom G.bytes.toNat G.pixels.toNat) := rfl
  have hsrcRoom : a.srcRoom G.bytes.toNat G.pixels.toNat =
    a.inSrcBytesPerLine.toNat / G.bytes.toNat * G.pixels.toNat -
      a.inSrcHorzPixelOffset.toNat := rfl
  have htaken : G.taken a = if a.inSrcHorzPixelOffset.toNat + a.inSrcHorzPixelsToCopy.toNat >
      a.inSrcBytesPerLine.toNat / G.bytes.toNat * G.pixels.toNat % 2 ^ 16 then
    a.srcRoom G.bytes.toNat G.pixels.toNat
  else a.inSrcHorzPixelsToCopy.toNat := rfl
  generalize a.inSrcBytesPerLine.toNat / G.bytes.toNat * G.pixels.toNat = width at *
  generalize a.srcRoom G.bytes.toNat G.pixels.toNat = srcRoom at *
  generalize a.srcPixels G.bytes.toNat G.pixels.toNat = srcPixels at *
  generalize a.dstRoom G.bytes.toNat G.pixels.toNat = dstRoom at *
  generalize G.taken a = taken at *
  generalize a.inSrcHorzPixelsToCopy.toNat = t at *
  generalize a.inSrcHorzPixelOffset.toNat = sH at *
  generalize G.bytes.toNat = bytes at *
  by_cases hnarrow : width < 2 ^ 16 ∨ t + sH ≤ width % 2 ^ 16 ∨ srcRoom ≤ t
  · have hright : taken = srcPixels := by
      rw [htaken]
      split_ifs <;> omega
    have hnum : (if taken > dstRoom then taken - dstRoom else taken) < 2 ^ 16 := by
      split_ifs <;> omega
    have hfits : (if taken > dstRoom then taken - dstRoom else taken) * bytes < 2 ^ 32 :=
      (Nat.mul_le_mul hnum.le hbytes).trans_lt (by norm_num)
    simp only [if_pos hnarrow]
    rw [Nat.mod_eq_of_lt hfits, Nat.mul_left_inj (by omega), hright]
    split_ifs <;> omega
  · have hwide : taken = srcRoom := by
      rw [htaken, if_pos (by omega)]
    have hw : srcPixels = t := by omega
    simp only [if_neg hnarrow]
    rw [hwide, hw]
    by_cases hfits : srcRoom ≤ dstRoom
    · rw [if_pos hfits, if_neg (by omega), Nat.min_eq_left (by omega)]
    · rw [if_neg hfits, if_pos (by omega)]

/-- A product that has not wrapped for one line has not wrapped for the lines before it. -/
lemma mul_mod_eq_of_le {perLine offset n j : ℕ}
    (h : perLine * (offset + n) % 2 ^ 32 = perLine * (offset + n)) (hj : j ≤ n) :
    perLine * (offset + j) % 2 ^ 32 = perLine * (offset + j) := by
  have hle : perLine * (offset + j) ≤ perLine * (offset + n) :=
    Nat.mul_le_mul_left _ (by omega)
  have hlt := Nat.mod_lt (perLine * (offset + n)) (show 0 < 2 ^ 32 by norm_num)
  exact Nat.mod_eq_of_lt (by omega)

/-- The start of a line of bytes. -/
lemma lineStart_eq (perLine : ULWord) (vert : ℕ) {horz : UWord}
    (hmod : horz.toNat % G.pixels.toNat = 0) :
    G.lineStart perLine vert horz =
      perLine.toNat * vert % 2 ^ 32 + horz.toNat / G.pixels.toNat * G.bytes.toNat := by
  obtain ⟨x, hx⟩ := Nat.dvd_of_mod_eq_zero hmod
  rw [PixelGroup.lineStart, BitVec.toNat_mul, BitVec.toNat_ofNat, Nat.mul_mod_mod, hx,
    Nat.mul_assoc, Nat.mul_div_cancel_left _ G.pixels_pos, Nat.mul_div_cancel_left _ G.pixels_pos]

/-- The rectangle is empty exactly when no pixel of a line, or no line, was asked for. -/
lemma clipped_width_eq_zero_iff {bytes pixels : ℕ} (hbytes : 0 < bytes) (hpixels : 0 < pixels)
    (hcopy : a.inSrcHorzPixelsToCopy.toNat % pixels = 0)
    (hdst : a.inDstHorzPixelOffset.toNat % pixels = 0)
    (hsrc : a.inSrcHorzPixelOffset.toNat % pixels = 0)
    (hdstIn : a.inDstHorzPixelOffset.toNat < a.inDstBytesPerLine.toNat / bytes * pixels)
    (hsrcIn : a.inSrcHorzPixelOffset.toNat < a.inSrcBytesPerLine.toNat / bytes * pixels) :
    (a.clipped bytes pixels).width = 0 ↔ a.inSrcHorzPixelsToCopy.toNat = 0 := by
  have hdstRoom : pixels ≤ a.dstRoom bytes pixels := Nat.le_of_dvd (Nat.sub_pos_of_lt hdstIn)
    (Nat.dvd_sub (Nat.dvd_mul_left _ _) (Nat.dvd_of_mod_eq_zero hdst))
  have hsrcRoom : pixels ≤ a.srcRoom bytes pixels := Nat.le_of_dvd (Nat.sub_pos_of_lt hsrcIn)
    (Nat.dvd_sub (Nat.dvd_mul_left _ _) (Nat.dvd_of_mod_eq_zero hsrc))
  rw [CopyRasterArgs.clipped, Nat.mul_eq_zero, or_iff_left (by omega), Nat.div_eq_zero_iff,
    or_iff_right (by omega), CopyRasterArgs.srcPixels]
  constructor
  · intro hlt
    exact Nat.eq_zero_of_dvd_of_lt (Nat.dvd_of_mod_eq_zero hcopy) (by omega)
  · intro hzero
    omega

/-- Where a line starts, with a product that may wrap and with one that does not. -/
lemma line_eq_iff {perLine vert start n : ℕ} :
    perLine * (vert + n) % 2 ^ 32 + start = perLine * vert + start + n * perLine + 0 ↔
      perLine * (vert + n) % 2 ^ 32 = perLine * (vert + n) := by
  rw [Nat.mul_add, Nat.mul_comm n]
  omega

/-- Where the rectangle takes up whole lines of both rasters, it meets their right edges. -/
lemma meetsRight_of_narrow (h : G.Accepts a)
    (hdst : a.inDstBytesPerLine.toNat = (a.clipped G.bytes.toNat G.pixels.toNat).width)
    (hsrc : a.inSrcBytesPerLine.toNat = (a.clipped G.bytes.toNat G.pixels.toNat).width) :
    G.MeetsRight a := by
  have hline := clipped_width_le h.dst_mod (min_le_right
    (a.srcPixels G.bytes.toNat G.pixels.toNat) (a.dstRoom G.bytes.toNat G.pixels.toNat)) h.dst_lt
  have hw := Nat.div_mul_le_self (min (a.srcPixels G.bytes.toNat G.pixels.toNat)
    (a.dstRoom G.bytes.toNat G.pixels.toNat)) G.pixels.toNat
  have ht := a.inSrcHorzPixelsToCopy.isLt
  have hmod := h.dst_mod
  have hwidth : (a.clipped G.bytes.toNat G.pixels.toNat).width =
    min (a.srcPixels G.bytes.toNat G.pixels.toNat) (a.dstRoom G.bytes.toNat G.pixels.toNat) /
      G.pixels.toNat * G.bytes.toNat := rfl
  have hstart : a.inDstHorzPixelOffset.toNat = 0 := by
    have hzero : a.inDstHorzPixelOffset.toNat / G.pixels.toNat * G.bytes.toNat = 0 := by omega
    rw [Nat.mul_eq_zero, or_iff_left (by have := G.bytes_pos; omega)] at hzero
    have hdivMod := Nat.div_add_mod a.inDstHorzPixelOffset.toNat G.pixels.toNat
    rw [hzero, hmod] at hdivMod
    exact hdivMod.symm
  have hdstPixels : a.inDstBytesPerLine.toNat / G.bytes.toNat * G.pixels.toNat =
      min (a.srcPixels G.bytes.toNat G.pixels.toNat) (a.dstRoom G.bytes.toNat G.pixels.toNat) /
        G.pixels.toNat * G.pixels.toNat := by
    rw [hdst, hwidth, Nat.mul_div_cancel _ G.bytes_pos]
  have hsrcPixels : a.inSrcBytesPerLine.toNat / G.bytes.toNat * G.pixels.toNat =
      a.inDstBytesPerLine.toNat / G.bytes.toNat * G.pixels.toNat := by
    rw [hdst, hsrc]
  have hclipped : a.srcPixels G.bytes.toNat G.pixels.toNat = min a.inSrcHorzPixelsToCopy.toNat
    (a.inSrcBytesPerLine.toNat / G.bytes.toNat * G.pixels.toNat -
      a.inSrcHorzPixelOffset.toNat) := rfl
  have hroom : a.dstRoom G.bytes.toNat G.pixels.toNat =
    a.inDstBytesPerLine.toNat / G.bytes.toNat * G.pixels.toNat -
      a.inDstHorzPixelOffset.toNat := rfl
  rw [PixelGroup.MeetsRight]
  rw [if_pos (.inl (by omega))]
  exact .inl (by omega)

/-- A family that leaves the cells that a copy leaves. -/
lemma family_copies_iff {F : CopyFamily} {copy : List Byte → List Byte → Option (List Byte)}
    (h : ∀ src dst : List Byte, (F.copyRaster a src ⟨dst, []⟩).map (fun p => (p.1, p.2.cells)) =
      (copy src dst).map (true, ·)) :
    F.Copies a ↔ (a.clipped F.bytes F.pixels).Copies
      (a.inSrcBytesPerLine.toNat * a.inSrcTotalLines.toNat)
      (a.inDstBytesPerLine.toNat * a.inDstTotalLines.toNat) copy := by
  constructor
  · intro hcopies src dst hsrc hdst
    obtain ⟨returned, after, hrun, hcopied⟩ := hcopies src dst hsrc hdst
    have hcells := h src dst
    rw [hrun, Option.map_some, eq_comm, Option.map_eq_some_iff] at hcells
    obtain ⟨cells, hcopy, heq⟩ := hcells
    cases heq
    exact ⟨_, hcopy, hcopied rfl⟩
  · intro hcopies src dst hsrc hdst
    obtain ⟨cells, hcopy, hcopied⟩ := hcopies src dst hsrc hdst
    have hcells := h src dst
    rw [hcopy, Option.map_some, Option.map_eq_some_iff] at hcells
    obtain ⟨⟨returned, after⟩, hrun, heq⟩ := hcells
    cases heq
    exact ⟨_, _, hrun, fun _ => hcopied⟩

/-- **A family that copies a line at a time** copies the rectangle exactly when it meets the edges
as it should. -/
lemma lines_copies_iff (husable : a.usable) (haccepts : G.accepts a) :
    (CopyFamily.lines G).Copies a ↔ (CopyFamily.lines G).Meets a := by
  obtain ⟨hD, hS, hdV, hsV⟩ := usable_spec husable
  have hspec := accepts_spec haccepts
  have hfits := clipped_fits husable hspec.dst_mod hspec.src_mod hspec.dst_lt hspec.src_lt
  have hempty := clipped_width_eq_zero_iff G.bytes_pos G.pixels_pos hspec.copy_mod hspec.dst_mod
    hspec.src_mod hspec.dst_lt hspec.src_lt
  have hheight := clippedLines_pos hsV hdV
  rw [CopyFamily.Meets]
  by_cases hmeets : a.MeetsBottom
  · have hcode : ∀ src dst : List Byte, ((CopyFamily.lines G).copyRaster a src ⟨dst, []⟩).map
        (fun p => (p.1, p.2.cells)) = (some dst).map (true, ·) := by
      intro src dst
      rw [CopyFamily.copyRaster, PixelGroup.copyRaster, if_pos haccepts,
        numVertLinesToCopy_of_meetsBottom hsV hmeets]
      rfl
    rw [family_copies_iff hcode, if_pos hmeets, ← hempty]
    refine (Rect.copies_nothing_iff hfits).trans (or_congr_left ?_)
    show a.clippedLines = 0 ↔ _
    omega
  · obtain ⟨n, hn, hlines⟩ := numVertLinesToCopy_of_not_meetsBottom hsV hdV hmeets
    have hcode : ∀ src dst : List Byte, ((CopyFamily.lines G).copyRaster a src ⟨dst, []⟩).map
        (fun p => (p.1, p.2.cells)) = (Rect.copyRowsAt
          (fun j => a.inDstBytesPerLine.toNat * (a.inDstVertLineOffset.toNat + j) % 2 ^ 32 +
            a.inDstHorzPixelOffset.toNat / G.pixels.toNat * G.bytes.toNat)
          (fun j => a.inSrcBytesPerLine.toNat * (a.inSrcVertLineOffset.toNat + j) % 2 ^ 32 +
            a.inSrcHorzPixelOffset.toNat / G.pixels.toNat * G.bytes.toNat)
          (G.numHorzPixelsToCopy a * G.bytes / G.pixels).toNat a.clippedLines src dst).map
          (true, ·) := by
      intro src dst
      rw [CopyFamily.copyRaster, PixelGroup.copyRaster, if_pos haccepts, hn]
      simp only [lineStart_eq _ _ hspec.dst_mod, lineStart_eq _ _ hspec.src_mod, Block.memcpy,
        Block.foldlM_move_eq_run, hlines, Rect.copyRowsAt, Option.map_map]
      rfl
    rw [family_copies_iff hcode, if_neg hmeets]
    rcases Nat.eq_zero_or_pos a.inSrcVertLinesToCopy.toNat with hzero | hpos
    · have hno : a.clippedLines = 0 := by omega
      rw [hno]
      exact iff_of_true ((Rect.copies_nothing_iff hfits).mpr (.inl hno)) (.inl hzero)
    · rw [or_iff_right (by omega), ← hempty, ← toNat_copied_eq_iff hspec]
      have hlast : 0 < a.clippedLines := hheight.mpr hpos
      refine (Rect.copies_rows_iff hfits hlast (fun j _ => ?_) (fun hdst hsrc j hj => ?_)
        fun hlong => ?_).trans (and_congr_right fun _ => or_congr_right ?_)
      · have hle := Nat.mod_le
          (a.inDstBytesPerLine.toNat * (a.inDstVertLineOffset.toNat + j)) (2 ^ 32)
        rw [Nat.mul_add, Nat.mul_comm _ j] at hle
        simp only [Rect.dstCell, CopyRasterArgs.clipped]
        rw [Nat.mul_add, Nat.mul_comm _ j]
        omega
      · exact ⟨line_eq_iff.mpr (mul_mod_eq_of_le (line_eq_iff.mp hdst) (Nat.le_sub_one_of_lt hj)),
          line_eq_iff.mpr (mul_mod_eq_of_le (line_eq_iff.mp hsrc) (Nat.le_sub_one_of_lt hj))⟩
      · rintro ⟨-, hdst, hsrc⟩
        have hright := (toNat_copied_eq_iff hspec).mpr (meetsRight_of_narrow hspec hdst hsrc)
        exact absurd hright (ne_of_gt hlong)
      · refine (and_congr line_eq_iff line_eq_iff).trans ?_
        rw [Nat.mod_eq_iff_lt (by norm_num), Nat.mod_eq_iff_lt (by norm_num)]
        rfl

end Groups

/-! ### The pixels of a line, one after the other -/

section Pairs

variable {a : CopyRasterArgs} {src : List Byte}

/-- The loop over the pixels copies two bytes at a time, up to the right edge of the destination,
as 16 bits have it. -/
lemma copyPixels_eq_run {dH : UWord} {width : ULWord} (n : ℕ) {copied : UWord} {d q : ℕ}
    {b : Block Byte} (hn : copied.toNat + n < 2 ^ 16) :
    copyPixels dH width src n copied d q b = Block.run src ((List.range
      (min n (max 1 (width.toNat % 2 ^ 16 - dH.toNat - copied.toNat)))).map fun j =>
        .copy (d + j * 2) (q + j * 2) 2) b := by
  induction n generalizing copied d q b with
  | zero => rw [Nat.zero_min]; rfl
  | succ n ih =>
      have hnext : (copied + 1).toNat = copied.toNat + 1 := by
        rw [BitVec.toNat_add, show (1 : UWord).toNat = 1 from rfl, Nat.mod_eq_of_lt (by omega)]
      have hsplit : ∀ k, Block.run src ((List.range (k + 1)).map fun j =>
          .copy (d + j * 2) (q + j * 2) 2) b = (b.memcpy d src q 2).bind
            (Block.run src ((List.range k).map fun j =>
              .copy (d + 2 + j * 2) (q + 2 + j * 2) 2)) := by
        intro k
        have hshift : ∀ x j : ℕ, x + (j + 1) * 2 = x + 2 + j * 2 := fun x j => by ring
        rw [List.range_succ_eq_map, List.map_cons, List.map_map, Block.run]
        simp only [Function.comp_def, Nat.succ_eq_add_one, hshift, Nat.zero_mul, Nat.add_zero]
        rfl
      rw [copyPixels, Option.bind_eq_bind]
      simp only [hnext, BitVec.toNat_setWidth]
      by_cases hedge : copied.toNat + 1 + dH.toNat ≥ width.toNat % 2 ^ 16
      · simp only [if_pos hedge]
        rw [show min (n + 1) (max 1 (width.toNat % 2 ^ 16 - dH.toNat - copied.toNat)) = 0 + 1 by
          omega, hsplit]
        rfl
      · simp only [if_neg hedge, ih (show (copied + 1).toNat + n < 2 ^ 16 by omega)]
        rw [show min (n + 1) (max 1 (width.toNat % 2 ^ 16 - dH.toNat - copied.toNat)) =
          min n (max 1 (width.toNat % 2 ^ 16 - dH.toNat - (copied + 1).toNat)) + 1 by omega, hsplit]

/-- The pixels that the loop copies of a line. -/
def pairsCopied (a : CopyRasterArgs) : ℕ :=
  min (a.srcPixels 2 1)
    (max 1 (a.inDstBytesPerLine.toNat / 2 % 2 ^ 16 - a.inDstHorzPixelOffset.toNat))

/-- What the checks of the function say about the rectangle. -/
lemma accepts4BytesPer2Pixels_spec (h : accepts4BytesPer2Pixels a) :
    a.inDstHorzPixelOffset.toNat % 2 = 0 ∧
      a.inDstHorzPixelOffset.toNat < a.inDstBytesPerLine.toNat / 2 * 1 ∧
      a.inSrcHorzPixelOffset.toNat < a.inSrcBytesPerLine.toNat / 2 * 1 := by
  simp only [accepts4BytesPer2Pixels, Bool.and_eq_true, decide_eq_true_eq] at h
  obtain ⟨⟨⟨hdst, -⟩, hdstIn⟩, hsrcIn⟩ := h
  rw [BitVec.lt_def, BitVec.toNat_setWidth_of_le (by omega), BitVec.toNat_udiv] at hdstIn hsrcIn
  have hodd := congrArg BitVec.toNat hdst
  rw [BitVec.toNat_and, show (1 : UWord).toNat = 2 ^ 1 - 1 from rfl, Nat.and_two_pow_sub_one_eq_mod]
    at hodd
  rw [Nat.mul_one, Nat.mul_one]
  exact ⟨hodd, hdstIn, hsrcIn⟩

/-- The pixels of a line, clipped to the source. -/
lemma toNat_numHorzPixels4BytesPer2Pixels
    (hsrc : a.inSrcHorzPixelOffset.toNat < a.inSrcBytesPerLine.toNat / 2 * 1) :
    (numHorzPixels4BytesPer2Pixels a).toNat = a.srcPixels 2 1 := by
  rw [Nat.mul_one] at hsrc
  have hwidth : (a.inSrcBytesPerLine / 2).toNat = a.inSrcBytesPerLine.toNat / 2 := by
    rw [BitVec.toNat_udiv]
    rfl
  have ht := a.inSrcHorzPixelsToCopy.isLt
  have hsH := a.inSrcHorzPixelOffset.isLt
  have hsum : (BitVec.ofNat 32 (a.inSrcHorzPixelOffset.toNat +
      a.inSrcHorzPixelsToCopy.toNat)).toNat =
        a.inSrcHorzPixelOffset.toNat + a.inSrcHorzPixelsToCopy.toNat := by
    rw [BitVec.toNat_ofNat, Nat.mod_eq_of_lt (by omega)]
  rw [numHorzPixels4BytesPer2Pixels, CopyRasterArgs.srcPixels, CopyRasterArgs.srcRoom, Nat.mul_one]
  rw [← hwidth] at hsrc ⊢
  generalize a.inSrcBytesPerLine / 2 = width at hsrc ⊢
  by_cases hpast : BitVec.ofNat 32 (a.inSrcHorzPixelOffset.toNat +
      a.inSrcHorzPixelsToCopy.toNat) > width
  · simp only [if_pos hpast]
    rw [gt_iff_lt, BitVec.lt_def, hsum] at hpast
    bv_omega
  · simp only [if_neg hpast]
    rw [gt_iff_lt, BitVec.lt_def, hsum] at hpast
    omega

/-- Copies into blocks that hold the same, followed by the same. -/
lemma copyLines_cells (hsrc : a.inSrcHorzPixelOffset.toNat < a.inSrcBytesPerLine.toNat / 2 * 1)
    (n : ℕ) {d q : ℕ} {b b' : Block Byte} (hcells : b.cells = b'.cells) :
    (copyLines a src n d q b).map Block.cells = (Block.run src ((List.range n).map fun j =>
      .copy (d + j * a.inDstBytesPerLine.toNat) (q + j * a.inSrcBytesPerLine.toNat)
        (pairsCopied a * 2)) b').map Block.cells := by
  induction n generalizing d q b b' with
  | zero => exact congrArg some hcells
  | succ n ih =>
      have ht := (numHorzPixels4BytesPer2Pixels a).isLt
      have hwidth : (a.inDstBytesPerLine / 2).toNat = a.inDstBytesPerLine.toNat / 2 := by
        rw [BitVec.toNat_udiv]
        rfl
      have hline : (copyPixels a.inDstHorzPixelOffset (a.inDstBytesPerLine / 2) src
          (numHorzPixels4BytesPer2Pixels a).toNat 0 d q b).map Block.cells =
          (b'.move src (.copy d q (pairsCopied a * 2))).map Block.cells := by
        rw [copyPixels_eq_run _ (by rw [show (0 : UWord).toNat = 0 from rfl]; omega),
          toNat_numHorzPixels4BytesPer2Pixels hsrc, hwidth, show (0 : UWord).toNat = 0 from rfl,
          Nat.sub_zero, Block.map_cells_run_pieces]
        exact Block.map_cells_move_congr hcells _
      have hshift : ∀ x p j : ℕ, x + (j + 1) * p = x + p + j * p := fun x p j => by ring
      rw [copyLines, Option.bind_eq_bind, List.range_succ_eq_map, List.map_cons, List.map_map,
        Block.run]
      simp only [Function.comp_def, Nat.succ_eq_add_one, hshift, Nat.zero_mul, Nat.add_zero]
      generalize copyPixels a.inDstHorzPixelOffset (a.inDstBytesPerLine / 2) src
        (numHorzPixels4BytesPer2Pixels a).toNat 0 d q b = copied at hline ⊢
      generalize b'.move src (.copy d q (pairsCopied a * 2)) = moved at hline ⊢
      cases copied with
      | none =>
          cases moved with
          | none => rfl
          | some m => cases hline
      | some c =>
          cases moved with
          | none => cases hline
          | some m => exact ih (Option.some.inj hline)

/-- Where the loop over the lines starts. -/
lemma address2vuy_eq (perLine : ULWord) (vert horz : UWord) :
    address2vuy perLine vert horz =
      perLine.toNat * vert.toNat % 2 ^ 32 + horz.toNat / 1 * 2 := by
  have hhorz := horz.isLt
  rw [address2vuy, BitVec.toNat_mul, BitVec.toNat_mul, BitVec.toNat_setWidth_of_le (by omega),
    BitVec.toNat_setWidth_of_le (by omega), show (2 : ULWord).toNat = 2 from rfl,
    Nat.mod_eq_of_lt (show 2 * horz.toNat < 2 ^ 32 by omega), Nat.div_one, Nat.mul_comm 2]

/-- The loop copies as many pixels as the rectangle has, or fewer. -/
lemma pairsCopied_le (hdstIn : a.inDstHorzPixelOffset.toNat < a.inDstBytesPerLine.toNat / 2 * 1) :
    pairsCopied a * 2 ≤ (a.clipped 2 1).width := by
  rw [pairsCopied, CopyRasterArgs.clipped]
  dsimp only
  rw [Nat.div_one, CopyRasterArgs.dstRoom]
  omega

/-- It copies as many exactly where 16 bits tell it where the right edge is. -/
lemma pairsCopied_eq_iff (hodd : a.inDstHorzPixelOffset.toNat % 2 = 0)
    (hdstIn : a.inDstHorzPixelOffset.toNat < a.inDstBytesPerLine.toNat / 2 * 1) :
    pairsCopied a * 2 = (a.clipped 2 1).width ↔
      a.inDstBytesPerLine.toNat / 2 < 2 ^ 16 ∨ a.srcPixels 2 1 ≤
        max 1 (a.inDstBytesPerLine.toNat / 2 % 2 ^ 16 - a.inDstHorzPixelOffset.toNat) := by
  have hdH := a.inDstHorzPixelOffset.isLt
  rw [pairsCopied, CopyRasterArgs.clipped]
  dsimp only
  rw [Nat.div_one, CopyRasterArgs.dstRoom]
  omega

/-- **The function of the formats of two bytes a pixel** copies the rectangle exactly when its
first line starts before 4 GiB and the right edge of the destination fits 16 bits, or is not
reached. -/
lemma pairs_copies_iff (husable : a.usable) (haccepts : accepts4BytesPer2Pixels a) :
    CopyFamily.pairs.Copies a ↔ CopyFamily.pairs.Meets a := by
  obtain ⟨hD, hS, hdV, hsV⟩ := usable_spec husable
  obtain ⟨hodd, hdstIn, hsrcIn⟩ := accepts4BytesPer2Pixels_spec haccepts
  have hfits := clipped_fits husable (Nat.mod_one _) (Nat.mod_one _) hdstIn hsrcIn
  have hempty := clipped_width_eq_zero_iff (a := a) (by omega) (by omega) (Nat.mod_one _)
    (Nat.mod_one _) (Nat.mod_one _) hdstIn hsrcIn
  have hheight := clippedLines_pos hsV hdV
  rw [CopyFamily.Meets]
  by_cases hmeets : a.MeetsBottom
  · have hcode : ∀ src dst : List Byte, (CopyFamily.pairs.copyRaster a src ⟨dst, []⟩).map
        (fun p => (p.1, p.2.cells)) = (some dst).map (true, ·) := by
      intro src dst
      rw [CopyFamily.copyRaster, copyRaster4BytesPer2Pixels, if_pos haccepts,
        numVertLinesToCopy_of_meetsBottom hsV hmeets]
      rfl
    rw [family_copies_iff hcode, ← hempty]
    refine (Rect.copies_nothing_iff hfits).trans ?_
    rw [show (a.clipped 2 1).height = a.clippedLines from rfl]
    simp only [hmeets, not_true_eq_false, false_and, or_false]
    exact or_congr_left (by omega)
  · obtain ⟨n, hn, hlines⟩ := numVertLinesToCopy_of_not_meetsBottom hsV hdV hmeets
    have hcode : ∀ src dst : List Byte, (CopyFamily.pairs.copyRaster a src ⟨dst, []⟩).map
        (fun p => (p.1, p.2.cells)) = (Rect.copyRowsAt
          (fun j => a.inDstBytesPerLine.toNat * a.inDstVertLineOffset.toNat % 2 ^ 32 +
            a.inDstHorzPixelOffset.toNat / 1 * 2 + j * a.inDstBytesPerLine.toNat)
          (fun j => a.inSrcBytesPerLine.toNat * a.inSrcVertLineOffset.toNat % 2 ^ 32 +
            a.inSrcHorzPixelOffset.toNat / 1 * 2 + j * a.inSrcBytesPerLine.toNat)
          (pairsCopied a * 2) a.clippedLines src dst).map (true, ·) := by
      intro src dst
      rw [CopyFamily.copyRaster, copyRaster4BytesPer2Pixels, if_pos haccepts, hn, Rect.copyRowsAt,
        ← copyLines_cells hsrcIn _ (Eq.refl (⟨dst, []⟩ : Block Byte).cells)]
      simp only [address2vuy_eq, hlines, Option.map_map]
      rfl
    rw [family_copies_iff hcode]
    rcases Nat.eq_zero_or_pos a.inSrcVertLinesToCopy.toNat with hzero | hpos
    · have hno : a.clippedLines = 0 := by omega
      rw [hno]
      exact iff_of_true ((Rect.copies_nothing_iff hfits).mpr (.inl hno)) (.inl hzero)
    · rw [or_iff_right (by omega), ← hempty]
      have hlast : 0 < a.clippedLines := hheight.mpr hpos
      refine (Rect.copies_rows_iff hfits hlast (fun j _ => ?_) (fun hdst hsrc j hj => ?_)
        fun hlong => ?_).trans ?_
      · have hle := Nat.mod_le (a.inDstBytesPerLine.toNat * a.inDstVertLineOffset.toNat) (2 ^ 32)
        simp only [Rect.dstCell, CopyRasterArgs.clipped]
        omega
      · simp only [Rect.dstCell, Rect.srcCell, CopyRasterArgs.clipped] at hdst hsrc ⊢
        exact ⟨by omega, by omega⟩
      · exact absurd hlong (Nat.not_lt_of_le (pairsCopied_le hdstIn))
      · have hplace : ∀ x y z n : ℕ, x % 2 ^ 32 + y + n * z = x + y + n * z + 0 ↔ x < 2 ^ 32 := by
          omega
        have hnone : (a.clipped 2 1).width = 0 → pairsCopied a * 2 = (a.clipped 2 1).width := by
          intro hzero
          have hle := pairsCopied_le hdstIn
          omega
        have hpixels := pairsCopied_eq_iff hodd hdstIn
        constructor
        · rintro ⟨hcopied, hzero | ⟨hdst, hsrc⟩⟩
          · exact .inl hzero
          · exact .inr ⟨hmeets, hpixels.mp hcopied, (hplace ..).mp hdst, (hplace ..).mp hsrc⟩
        · rintro (hzero | ⟨-, hcopied, hdst, hsrc⟩)
          · exact ⟨hnone hzero, .inl hzero⟩
          · exact ⟨hpixels.mpr hcopied, .inr ⟨(hplace ..).mpr hdst, (hplace ..).mpr hsrc⟩⟩

end Pairs

/-! ### All pixel formats -/

/-- When `CopyRaster` copies its rectangle: the pixel format is not supported, a check fails, or
the rectangle meets the edges as it should. -/
def MeetsEdges (fmt : NTV2PixelFormat) (a : CopyRasterArgs) : Prop :=
  ∀ F, fmt.copyFamily = some F → a.usable → F.accepts a → F.Meets a

/-- A function that rejects its arguments leaves the rasters alone. -/
lemma family_copyRaster_of_not_accepts {F : CopyFamily} {a : CopyRasterArgs}
    (h : ¬ F.accepts a) (src : List Byte) (dst : Block Byte) :
    F.copyRaster a src dst = some (false, dst) := by
  cases F with
  | lines G => exact if_neg h
  | pairs => exact if_neg h

/-- **`CopyRaster` copies the clipped rectangle** exactly where the rectangle meets the edges of
the two rasters as its pixel format needs it. -/
theorem copyRaster_iff (fmt : NTV2PixelFormat) (a : CopyRasterArgs) :
    CopiesRectangle fmt a ↔ MeetsEdges fmt a := by
  have hrejects : (∀ src dst, copyRaster fmt a src dst = some (false, dst)) →
      CopiesRectangle fmt a := fun hno src dst _ _ =>
    ⟨false, _, hno src _, fun h => absurd h Bool.false_ne_true⟩
  by_cases husable : a.usable
  · cases hF : fmt.copyFamily with
    | none =>
        refine iff_of_true (hrejects fun src dst => ?_) fun F h => ?_
        · rw [copyRaster_eq, if_pos husable, hF]
        · rw [hF] at h
          cases h
    | some F =>
        have hmeets : MeetsEdges fmt a ↔ (F.accepts a → F.Meets a) := by
          rw [MeetsEdges, hF]
          exact ⟨fun h => h F rfl husable, fun h F' hF' _ => by
            cases hF'
            exact h⟩
        rw [hmeets]
        by_cases haccepts : F.accepts a
        · have hcopies : CopiesRectangle fmt a ↔ F.Copies a := by
            simp only [CopiesRectangle, CopyFamily.Copies, copyRaster_eq, if_pos husable, hF,
              Option.some.injEq, exists_eq_left']
          rw [hcopies, imp_iff_right haccepts]
          cases F with
          | lines G => exact lines_copies_iff husable haccepts
          | pairs => exact pairs_copies_iff husable haccepts
        · refine iff_of_true (hrejects fun src dst => ?_) fun h => absurd h haccepts
          rw [copyRaster_eq, if_pos husable, hF]
          exact family_copyRaster_of_not_accepts haccepts src dst
  · refine iff_of_true (hrejects fun src dst => ?_) fun F _ h => absurd h husable
    rw [copyRaster_eq, if_neg husable]

/-- A raster of one pixel is not copied to another of its size: its only line is the last one. -/
theorem not_copiesRectangle_one_pixel :
    ¬ CopiesRectangle .NTV2_FBF_ARGB ⟨8, 4, 1, 0, 0, 16, 4, 1, 0, 1, 0, 1⟩ := by
  intro h
  obtain ⟨returned, after, hrun, hcopied⟩ := h [1, 2, 3, 4] [0, 0, 0, 0] (by decide) (by decide)
  have hcode : copyRaster .NTV2_FBF_ARGB ⟨8, 4, 1, 0, 0, 16, 4, 1, 0, 1, 0, 1⟩ [1, 2, 3, 4]
    ⟨[0, 0, 0, 0], []⟩ = some (true, ⟨[0, 0, 0, 0], []⟩) := by decide
  rw [hcode] at hrun
  cases hrun
  obtain ⟨F, hF, hrect⟩ := hcopied rfl
  cases hF
  exact absurd (hrect.inside 0 (by decide) 0 (by decide)) (by decide)

end LibAjaNtv2
