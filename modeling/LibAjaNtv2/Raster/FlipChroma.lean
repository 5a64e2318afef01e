import LibAjaNtv2.Raster.FlipRaster

/-!
Flipping a raster whose chroma planes have a row for every two lines.

* `flipRows_mono`, `flipPlanes_mono`: more fuel changes nothing;
* `getRowBuffer_full`: the rows that the largest frame buffer has, by their 32-bit offsets;
* `flipFirstPair_spec`: **the first pair of lines** that the last plane has exchanged;
* `not_flipsVertically_of_moved`: a byte that comes from the wrong place;
* `flipsVertically_iff`: **the raster is flipped** exactly where no plane has fewer rows than the
  first, or there is no pair of lines.
-/

namespace LibAjaNtv2

namespace NTV2RasterDescriptor

variable {desc : NTV2RasterDescriptor}

/-! ### The loops -/

section Loops

variable {fb out : Block Byte} {plane : UWord} {fuel fuel' : ℕ}

/-- More fuel changes nothing. -/
lemma flipRows_mono {top bot : ULWord} (h : desc.flipRows plane fuel top bot fb = some out)
    (hle : fuel ≤ fuel') : desc.flipRows plane fuel' top bot fb = some out := by
  induction fuel generalizing fuel' top bot fb with
  | zero => exact absurd h (Option.some_ne_none out).symm
  | succ fuel ih =>
      obtain ⟨fuel', rfl⟩ : ∃ k, fuel' = k + 1 := ⟨fuel' - 1, by omega⟩
      rw [flipRows] at h ⊢
      by_cases hlt : top < bot
      · rw [if_pos hlt] at h ⊢
        cases htop : desc.getRowBuffer (BitVec.ofNat 32 fb.cells.length) top plane with
        | none => rwa [htop] at h
        | some topLineBuf =>
            simp only [htop] at h
            cases hbot : desc.getRowBuffer (BitVec.ofNat 32 fb.cells.length) bot plane with
            | none => rwa [hbot] at h
            | some botLineBuf =>
                simp only [hbot] at h
                obtain ⟨half, hhalf, hrest⟩ := Option.bind_eq_some_iff.mp h
                exact Option.bind_eq_some_iff.mpr ⟨half, hhalf, ih hrest (by omega)⟩
      · rw [if_neg hlt] at h ⊢
        exact h

lemma flipPlanes_mono {n : ℕ} (h : desc.flipPlanes fuel n fb = some out) (hle : fuel ≤ fuel') :
    desc.flipPlanes fuel' n fb = some out := by
  induction n generalizing out with
  | zero => exact h
  | succ n ih =>
      rw [flipPlanes_succ] at h ⊢
      obtain ⟨half, hhalf, hrows⟩ := Option.bind_eq_some_iff.mp h
      exact Option.bind_eq_some_iff.mpr ⟨half, ih hhalf, flipRows_mono hrows hle⟩

/-- The rows that are found do not overlap. -/
def RowsApart (desc : NTV2RasterDescriptor) (bytes : ULWord) (plane : UWord) : Prop :=
  ∀ row row' : ULWord, row < row' → ∀ o o',
    desc.getRowBuffer bytes row plane = some (some o) →
    desc.getRowBuffer bytes row' plane = some (some o') →
      o.toNat + (desc.getBytesPerRow plane).toNat ≤ o'.toNat ∨
        o'.toNat + (desc.getBytesPerRow plane).toNat ≤ o.toNat

/-- A pair of rows keeps the size of the frame buffer, and the bytes that are in neither of
them. -/
lemma swapRows_untouched {bytesPerLine : ULWord} {top bot : Option ULWord} {x : ℕ}
    (h : swapRows bytesPerLine fb top bot = some out)
    (hapart : ∀ o o', top = some o → bot = some o' →
      o.toNat + bytesPerLine.toNat ≤ o'.toNat ∨ o'.toNat + bytesPerLine.toNat ≤ o.toNat)
    (htop : ∀ o, top = some o → ¬ (o.toNat ≤ x ∧ x < o.toNat + bytesPerLine.toNat))
    (hbot : ∀ o, bot = some o → ¬ (o.toNat ≤ x ∧ x < o.toNat + bytesPerLine.toNat)) :
    out.cells.length = fb.cells.length ∧ out.cells[x]? = fb.cells[x]? := by
  cases top with
  | none =>
      obtain rfl := Option.some.inj h
      exact ⟨rfl, rfl⟩
  | some o =>
      cases bot with
      | none =>
          obtain rfl := Option.some.inj h
          exact ⟨rfl, rfl⟩
      | some o' =>
          obtain ⟨hlength, hcells⟩ := swapRows_spec h (hapart o o' rfl rfl)
          refine ⟨hlength, ?_⟩
          rw [hcells, swapAt, if_neg (htop o rfl), if_neg (hbot o' rfl)]

/-- **A byte that is in none of the rows** stays. -/
lemma flipRows_untouched {top bot bytes : ULWord} {x : ℕ}
    (h : desc.flipRows plane fuel top bot fb = some out)
    (hbytes : BitVec.ofNat 32 fb.cells.length = bytes) (hapart : desc.RowsApart bytes plane)
    (hx : ∀ row, top ≤ row → row ≤ bot → ∀ o, desc.getRowBuffer bytes row plane = some (some o) →
      ¬ (o.toNat ≤ x ∧ x < o.toNat + (desc.getBytesPerRow plane).toNat)) :
    out.cells[x]? = fb.cells[x]? := by
  induction fuel generalizing top bot fb with
  | zero => exact absurd h (Option.some_ne_none out).symm
  | succ fuel ih =>
      rw [flipRows] at h
      by_cases hlt : top < bot
      · rw [if_pos hlt, hbytes] at h
        cases htop : desc.getRowBuffer bytes top plane with
        | none =>
            rw [htop] at h
            rw [Option.some.inj h]
        | some topLineBuf =>
            simp only [htop] at h
            cases hbot : desc.getRowBuffer bytes bot plane with
            | none =>
                rw [hbot] at h
                rw [Option.some.inj h]
            | some botLineBuf =>
                simp only [hbot] at h
                obtain ⟨half, hhalf, hrest⟩ := Option.bind_eq_some_iff.mp h
                obtain ⟨hlength, hcell⟩ := swapRows_untouched hhalf (x := x)
                  (fun o o' ho ho' => hapart top bot hlt o o' (ho ▸ htop) (ho' ▸ hbot))
                  (fun o ho => hx top (BitVec.le_refl _) (BitVec.le_of_lt hlt) o (ho ▸ htop))
                  (fun o ho => hx bot (BitVec.le_of_lt hlt) (BitVec.le_refl _) o (ho ▸ hbot))
                have hnext : (top + 1).toNat = top.toNat + 1 := by
                  have hbotLt := bot.isLt
                  rw [BitVec.lt_def] at hlt
                  rw [BitVec.toNat_add, show BitVec.toNat (1 : ULWord) = 1 from rfl,
                    Nat.mod_eq_of_lt (by omega)]
                have hprev : (bot - 1).toNat = bot.toNat - 1 := by
                  rw [BitVec.lt_def] at hlt
                  rw [BitVec.toNat_sub_of_le (by
                    rw [BitVec.le_def, show BitVec.toNat (1 : ULWord) = 1 from rfl]; omega)]
                  rfl
                rw [ih hrest (hlength ▸ hbytes) fun row hrow hrow' => ?_, hcell]
                rw [BitVec.le_def] at hrow hrow'
                exact hx row (by rw [BitVec.le_def]; omega) (by rw [BitVec.le_def]; omega)
      · rw [if_neg hlt] at h
        rw [Option.some.inj h]

end Loops

/-! ### The last plane in the largest frame buffer -/

section LastPlane

variable {p : ℕ} {fb out : Block Byte} {fuel : ℕ}

/-- The size of the largest frame buffer. -/
def fullSize : ℕ := 2 ^ 32 - 1

/-- Where a row is looked for, in 32 bits. -/
def rowPlace (desc : NTV2RasterDescriptor) (p r : ℕ) : ℕ :=
  (desc.geometry.start p + r * desc.geometry.pitch p) % 2 ^ 32

/-- **The rows of the largest frame buffer**: all but one that would begin at its end. -/
lemma getRowBuffer_full (h : desc.Valid) (hp : p < desc.geometry.count) {row : ULWord}
    (hrow : row < desc.numLines) :
    ∃ o : ULWord, o.toNat = desc.rowPlace p row.toNat ∧
      desc.getRowBuffer (BitVec.ofNat 32 fullSize) row (BitVec.ofNat 16 p) =
        if desc.rowPlace p row.toNat = fullSize then none else some (some o) := by
  have hoffset := @toNat_rowOffset_mod desc p h hp row.toNat
  rw [BitVec.ofNat_toNat, BitVec.setWidth_eq] at hoffset
  have hpitch : desc.getBytesPerRow (BitVec.ofNat 16 p) ≠ 0 := fun hzero => by
    have hpos := (pitch_bounds h.shape hp).1
    rw [geometry_pitch, hzero] at hpos
    exact absurd hpos (by decide)
  refine ⟨_, hoffset, ?_⟩
  have hsize : (BitVec.ofNat 32 fullSize).toNat = 2 ^ 32 - 1 := rfl
  have hlt := (desc.planeOffset (BitVec.ofNat 16 p) +
    row * desc.getBytesPerRow (BitVec.ofNat 16 p)).isLt
  rw [getRowBuffer, if_neg (BitVec.not_le.mpr hrow),
    if_neg (BitVec.not_le.mpr (plane_lt h.shape hp)), if_neg (by decide)]
  simp only
  rw [if_neg (by rw [BitVec.lt_def, hsize]; omega)]
  by_cases hfull : desc.rowPlace p row.toNat = fullSize
  · rw [if_pos hfull, if_neg (by
      rw [BitVec.lt_def, hsize, hoffset]
      rw [rowPlace, fullSize] at hfull
      omega), if_neg hpitch]
  · rw [if_neg hfull, if_pos (by
      rw [BitVec.lt_def, hsize]
      rw [rowPlace, fullSize, ← hoffset] at hfull
      omega), if_pos hpitch]

/-- Two rows of a plane are apart in 32 bits. -/
lemma rowPlace_apart (h : desc.Valid) (hp : p < desc.geometry.count) {r r' : ℕ} (hlt : r < r')
    (hr' : r' < desc.numLines.toNat) :
    desc.rowPlace p r + desc.geometry.pitch p ≤ desc.rowPlace p r' ∨
      desc.rowPlace p r' + desc.geometry.pitch p ≤ desc.rowPlace p r := by
  have hlines := lines_pitch_lt h hp
  have hstep : r * desc.geometry.pitch p + desc.geometry.pitch p ≤ r' * desc.geometry.pitch p := by
    rw [← Nat.succ_mul]
    exact Nat.mul_le_mul_right _ hlt
  have hend : r' * desc.geometry.pitch p + desc.geometry.pitch p ≤
      desc.numLines.toNat * desc.geometry.pitch p := by
    rw [← Nat.succ_mul]
    exact Nat.mul_le_mul_right _ hr'
  rw [rowPlace, rowPlace]
  omega

lemma rowsApart_full (h : desc.Valid) (hp : p < desc.geometry.count) :
    desc.RowsApart (BitVec.ofNat 32 fullSize) (BitVec.ofNat 16 p) := by
  intro row row' hlt o o' ho ho'
  have hlines : ∀ {row : ULWord} {o}, desc.getRowBuffer (BitVec.ofNat 32 fullSize) row
      (BitVec.ofNat 16 p) = some (some o) →
        row < desc.numLines ∧ o.toNat = desc.rowPlace p row.toNat := by
    intro row o ho
    have hrow : row < desc.numLines := by
      by_contra hnot
      rw [getRowBuffer, if_pos (BitVec.not_lt.mp hnot)] at ho
      exact absurd ho.symm (Option.some_ne_none _)
    obtain ⟨o', ho', hget⟩ := getRowBuffer_full h hp hrow
    rw [hget] at ho
    split_ifs at ho
    exact ⟨hrow, (Option.some.inj (Option.some.inj ho)) ▸ ho'⟩
  obtain ⟨-, hplace⟩ := hlines ho
  obtain ⟨hrow', hplace'⟩ := hlines ho'
  rw [hplace, hplace', ← geometry_pitch]
  exact rowPlace_apart h hp hlt hrow'

/-- **The first pair of lines of a plane** is exchanged for good, unless one of them begins at the
end of the frame buffer and nothing is done. -/
lemma flipFirstPair_spec (h : desc.Valid) (hp : p < desc.geometry.count)
    (hfb : fb.cells.length = fullSize)
    (hpair : desc.firstActiveLine.toNat + 2 ≤ desc.numLines.toNat)
    (hrun : desc.flipRows (BitVec.ofNat 16 p) fuel desc.firstActiveLine (desc.numLines - 1) fb =
      some out) :
    if desc.rowPlace p desc.firstActiveLine.toNat = fullSize ∨
        desc.rowPlace p (desc.numLines.toNat - 1) = fullSize then out = fb
    else out.cells[desc.rowPlace p desc.firstActiveLine.toNat]? =
      fb.cells[desc.rowPlace p (desc.numLines.toNat - 1)]? := by
  cases fuel with
  | zero => exact absurd hrun (Option.some_ne_none out).symm
  | succ fuel =>
      have hltLines := desc.numLines.isLt
      have hlast : (desc.numLines - 1).toNat = desc.numLines.toNat - 1 := by
        rw [numLines_sub_one h.shape, BitVec.toNat_ofNat, Nat.mod_eq_of_lt (by omega)]
      obtain ⟨o, ho, htop⟩ := @getRowBuffer_full desc p h hp desc.firstActiveLine
        (by rw [BitVec.lt_def]; omega)
      obtain ⟨o', ho', hbot⟩ := @getRowBuffer_full desc p h hp (desc.numLines - 1)
        (by rw [BitVec.lt_def, hlast]; omega)
      rw [hlast] at ho' hbot
      rw [flipRows, if_pos (by rw [BitVec.lt_def, hlast]; omega), hfb, htop] at hrun
      by_cases htopFull : desc.rowPlace p desc.firstActiveLine.toNat = fullSize
      · rw [if_pos htopFull] at hrun
        rw [if_pos (Or.inl htopFull)]
        exact (Option.some.inj hrun).symm
      rw [if_neg htopFull] at hrun
      simp only [hbot] at hrun
      by_cases hbotFull : desc.rowPlace p (desc.numLines.toNat - 1) = fullSize
      · rw [if_pos hbotFull] at hrun
        rw [if_pos (Or.inr hbotFull)]
        exact (Option.some.inj hrun).symm
      rw [if_neg hbotFull] at hrun
      simp only at hrun
      obtain ⟨half, hhalf, hrest⟩ := Option.bind_eq_some_iff.mp hrun
      have hpos := (pitch_bounds h.shape hp).1
      have hapart := rowPlace_apart h hp
        (show desc.firstActiveLine.toNat < desc.numLines.toNat - 1 by omega) (by omega)
      obtain ⟨hlength, hcells⟩ := swapRows_spec hhalf
        (by rw [ho, ho', ← geometry_pitch]; exact hapart)
      rw [ho, ho', ← geometry_pitch] at hcells
      rw [if_neg (not_or.mpr ⟨htopFull, hbotFull⟩)]
      have hfull : BitVec.ofNat 32 half.cells.length = BitVec.ofNat 32 fullSize := by
        rw [hlength, hfb]
      rw [flipRows_untouched hrest hfull (rowsApart_full h hp) ?_, hcells, swapAt,
        if_pos (by omega), Nat.sub_self, Nat.add_zero]
      intro row hrow hrow' o hget
      have hnext : (desc.firstActiveLine + 1).toNat = desc.firstActiveLine.toNat + 1 := by
        rw [BitVec.toNat_add, show BitVec.toNat (1 : ULWord) = 1 from rfl,
          Nat.mod_eq_of_lt (by omega)]
      have hprev : (desc.numLines - 1 - 1).toNat = desc.numLines.toNat - 1 - 1 := by
        rw [BitVec.toNat_sub_of_le (by
          rw [BitVec.le_def, hlast, show BitVec.toNat (1 : ULWord) = 1 from rfl]; omega), hlast]
        rfl
      rw [BitVec.le_def, hnext] at hrow
      rw [BitVec.le_def, hprev] at hrow'
      obtain ⟨o'', ho'', hrowGet⟩ := @getRowBuffer_full desc p h hp row
        (by rw [BitVec.lt_def]; omega)
      rw [hrowGet] at hget
      split_ifs at hget
      have hsame := Option.some.inj (Option.some.inj hget)
      have hrowApart := @rowPlace_apart desc p h hp desc.firstActiveLine.toNat row.toNat
        (by omega) (by omega)
      rw [← hsame, ho'', ← geometry_pitch]
      omega

end LastPlane

/-! ### Bytes that come from the wrong place -/

lemma exists_block_one (n y : ℕ) : ∃ fb : Block Byte, fb.cells.length = n ∧
    ∀ i < n, fb.cells[i]? = some (if i = y then 1 else 0) := by
  refine ⟨⟨(List.range n).map fun i => if i = y then 1 else 0, []⟩, by simp, fun i hi => ?_⟩
  rw [List.getElem?_map, List.getElem?_range hi, Option.map_some]

section Chroma

/-- **A byte that comes from another place** than it is to shows that the raster is not flipped. -/
lemma not_flipsVertically_of_moved (h : desc.Valid) {x y : ℕ} (hy : y < fullSize)
    (hne : composeUpTo (desc.geometry.flip desc.firstVisibleRow) desc.geometry.count x ≠ y)
    (hmoved : ∀ (fb out : Block Byte) (fuel : ℕ), fb.cells.length = fullSize →
      desc.numLines.toNat < fuel → desc.flipPlanes fuel desc.geometry.count fb = some out →
        out.cells[x]? = fb.cells[y]?) : ¬ desc.FlipsVertically := by
  intro hflips
  have hfull : fullSize = 2 ^ 32 - 1 := rfl
  obtain ⟨fb, hlength, hcells⟩ := exists_block_one fullSize y
  have hsize := h.size
  have hroom : desc.geometry.total ≤ fb.cells.length := by rw [hlength]; omega
  obtain ⟨fuel, out, -, hrun, hflipped, -⟩ := hflips fb
    (by rw [toNat_getTotalBytes h]; exact hroom) (by rw [hlength]; omega)
  rw [flipVertically_eq h hroom] at hrun
  obtain ⟨out', hout, heq⟩ := Option.map_eq_some_iff.mp hrun
  obtain rfl := (Prod.mk.inj heq).2
  have hbyte := hmoved fb out' (fuel + (desc.numLines.toNat + 1)) hlength (by omega)
    (flipPlanes_mono hout (Nat.le_add_right _ _))
  rw [(flipped_iff.mp hflipped).2, hcells y hy, if_pos rfl] at hbyte
  rcases Nat.lt_or_ge (composeUpTo (desc.geometry.flip desc.firstVisibleRow) desc.geometry.count x)
    fullSize with hlt | hle
  · rw [hcells _ hlt, if_neg hne] at hbyte
    exact absurd (Option.some.inj hbyte) (by decide)
  · rw [List.getElem?_eq_none (by rw [hlength]; exact hle)] at hbyte
    exact absurd hbyte.symm (Option.some_ne_none _)

variable {c : ℕ}

/-- The planes before the last one stay inside of the raster. -/
def InnerPlanesFit (desc : NTV2RasterDescriptor) (c : ℕ) : Prop :=
  ∀ p < c, desc.geometry.start p + desc.numLines.toNat * desc.geometry.pitch p ≤
    desc.geometry.total

/-- What lies after the raster is in none of their lines. -/
lemma composeUpTo_lineFlip_of_le (hfit : desc.InnerPlanesFit c)
    (htop : desc.firstActiveLine.toNat ≤ desc.numLines.toNat) {n i : ℕ} (hn : n ≤ c)
    (hi : desc.geometry.total ≤ i) : composeUpTo desc.lineFlip n i = i := by
  induction n with
  | zero => rfl
  | succ n ih =>
      have hlines : desc.firstActiveLine.toNat * desc.geometry.pitch n +
          (desc.numLines.toNat - desc.firstActiveLine.toNat) * desc.geometry.pitch n =
            desc.numLines.toNat * desc.geometry.pitch n := by
        rw [← Nat.add_mul, Nat.add_sub_cancel' htop]
      have hend := hfit n (by omega)
      rw [composeUpTo, lineFlip, flipAt_of_not (by omega)]
      exact ih (by omega)

/-- The first plane is reversed by its own lines. -/
lemma lineFlip_zero (h : desc.Valid) :
    desc.lineFlip 0 = desc.geometry.flip desc.firstVisibleRow 0 := by
  have hcount : 0 < desc.geometry.count := toNat_pos (ne_zero_of_isValid h.isValid).2.1
  funext i
  have hfirst : desc.firstVisibleRow 0 = desc.firstActiveLine.toNat := by
    rw [firstVisibleRow, ratio_eq h.shape hcount, if_neg (fun hand => hand.2 rfl)]
    exact Nat.div_one _
  rw [lineFlip, Planes.flip, hfirst, (geometry_zero (ne_zero_of_isValid h.isValid).2.1).1]

/-- The bytes of the first plane are in no line of another. -/
lemma composeUpTo_lineFlip_of_lt (h : desc.Valid) {n i : ℕ} (hi : i < desc.geometry.size 0) :
    composeUpTo desc.lineFlip (n + 1) i = desc.geometry.flip desc.firstVisibleRow 0 i := by
  induction n with
  | zero => rw [← lineFlip_zero h]; rfl
  | succ n ih =>
      have hstart : desc.geometry.size 0 ≤ desc.geometry.start (n + 1) := by
        have hle := Planes.start_succ_le (P := desc.geometry) (Nat.succ_pos n)
        rwa [Planes.start_zero, Nat.zero_add] at hle
      rw [composeUpTo, lineFlip, flipAt_of_not (by omega)]
      exact ih

/-- The last plane of 4:2:0: half of the lines of the first, and the planes before it inside of the
raster. -/
structure IsLastPlane (desc : NTV2RasterDescriptor) (c : ℕ) : Prop where
  pos : 0 < c
  count : c + 1 = desc.geometry.count
  rows : desc.geometry.rows c = desc.numLines.toNat / 2
  luma : desc.geometry.size c ≤ desc.geometry.size 0
  start_le : desc.geometry.size 0 ≤ desc.geometry.start c
  fit : desc.InnerPlanesFit c

namespace IsLastPlane

lemma total_eq (hc : desc.IsLastPlane c) :
    desc.geometry.total = desc.geometry.start c + desc.geometry.size c := by
  rw [Planes.total, ← hc.count, Planes.start_succ]

lemma lt_count (hc : desc.IsLastPlane c) : c < desc.geometry.count :=
  hc.count ▸ Nat.lt_succ_self c

/-- As many rows as there are lines are two planes. -/
lemma lines_eq (h : desc.Valid) (hc : desc.IsLastPlane c) :
    desc.numLines.toNat * desc.geometry.pitch c = 2 * desc.geometry.size c := by
  have heven := h.even
  rw [Planes.size, hc.rows, ← Nat.mul_assoc,
    show 2 * (desc.numLines.toNat / 2) = desc.numLines.toNat by omega]

/-- The bottom line begins after the raster, or in the first plane when its offset wraps. -/
lemma bottom (h : desc.Valid) (hc : desc.IsLastPlane c) :
    desc.geometry.total ≤ desc.rowPlace c (desc.numLines.toNat - 1) ∨
      desc.rowPlace c (desc.numLines.toNat - 1) < desc.geometry.size 0 := by
  have hsize := h.size
  have hlinesPos := h.shape.lines
  have heven := h.even
  have hpos := (pitch_bounds h.shape hc.lt_count).1
  have hlines := hc.lines_eq h
  have htotal := hc.total_eq
  have hluma := hc.luma
  have hend : (desc.numLines.toNat - 1) * desc.geometry.pitch c + desc.geometry.pitch c =
      desc.numLines.toNat * desc.geometry.pitch c := by
    rw [← Nat.succ_mul]
    congr 1
    omega
  have hhalf : desc.geometry.size c ≤ (desc.numLines.toNat - 1) * desc.geometry.pitch c := by
    rw [Planes.size, hc.rows]
    exact Nat.mul_le_mul_right _ (by omega)
  have hlumaLt := lines_pitch_lt h hc.lt_count
  rw [rowPlace]
  omega

/-- The top line begins in the plane, after the raster, or in the first plane when both offsets
wrap. -/
lemma top (h : desc.Valid) (hc : desc.IsLastPlane c)
    (hpair : desc.firstActiveLine.toNat + 2 ≤ desc.numLines.toNat) :
    desc.geometry.total ≤ desc.rowPlace c desc.firstActiveLine.toNat ∨
      desc.geometry.start c ≤ desc.rowPlace c desc.firstActiveLine.toNat ∧
        desc.rowPlace c desc.firstActiveLine.toNat <
          desc.geometry.start c + desc.geometry.size c ∨
      desc.rowPlace c desc.firstActiveLine.toNat < desc.geometry.size 0 ∧
        desc.rowPlace c (desc.numLines.toNat - 1) < desc.geometry.size 0 := by
  have hsize := h.size
  have hpos := (pitch_bounds h.shape hc.lt_count).1
  have hlines := hc.lines_eq h
  have htotal := hc.total_eq
  have hluma := hc.luma
  have hend : (desc.numLines.toNat - 1) * desc.geometry.pitch c + desc.geometry.pitch c =
      desc.numLines.toNat * desc.geometry.pitch c := by
    rw [← Nat.succ_mul]
    congr 1
    omega
  have hbelow : desc.firstActiveLine.toNat * desc.geometry.pitch c + desc.geometry.pitch c ≤
      (desc.numLines.toNat - 1) * desc.geometry.pitch c := by
    rw [← Nat.succ_mul]
    exact Nat.mul_le_mul_right _ (by omega)
  rw [← htotal, rowPlace, rowPlace]
  omega

/-- Where the bottom line has its first byte from, when the last plane comes to be flipped. -/
lemma source (h : desc.Valid) (hc : desc.IsLastPlane c)
    (htop : desc.firstActiveLine.toNat ≤ desc.numLines.toNat) {y : ℕ}
    (hy : y = composeUpTo desc.lineFlip c (desc.rowPlace c (desc.numLines.toNat - 1))) :
    y = desc.rowPlace c (desc.numLines.toNat - 1) ∧ desc.geometry.total ≤ y ∨
      y = desc.geometry.flip desc.firstVisibleRow 0
        (desc.rowPlace c (desc.numLines.toNat - 1)) ∧ y < desc.geometry.size 0 := by
  rcases hc.bottom h with hafter | hwrapped
  · rw [composeUpTo_lineFlip_of_le hc.fit htop le_rfl hafter] at hy
    exact Or.inl ⟨hy, hy ▸ hafter⟩
  · obtain ⟨k, hk⟩ : ∃ k, c = k + 1 := ⟨c - 1, by have hpos := hc.pos; omega⟩
    have hbetween := @Planes.flip_between desc.geometry desc.firstVisibleRow 0
      (desc.rowPlace c (desc.numLines.toNat - 1))
      (by rw [Planes.start_zero, Nat.zero_add]; exact ⟨Nat.zero_le _, hwrapped⟩)
    have hfirst := @composeUpTo_lineFlip_of_lt desc h k _ hwrapped
    rw [← hk, ← hy] at hfirst
    rw [← hfirst, Planes.start_zero, Nat.zero_add] at hbetween
    exact Or.inr ⟨hfirst, hbetween.2⟩

/-- **The top line is to come from elsewhere**: from its own plane, or from where it lies. -/
lemma ne_source (h : desc.Valid) (hc : desc.IsLastPlane c)
    (hpair : desc.firstActiveLine.toNat + 2 ≤ desc.numLines.toNat) {y : ℕ}
    (hy : y = composeUpTo desc.lineFlip c (desc.rowPlace c (desc.numLines.toNat - 1))) :
    composeUpTo (desc.geometry.flip desc.firstVisibleRow) desc.geometry.count
      (desc.rowPlace c desc.firstActiveLine.toNat) ≠ y := by
  have hsource := hc.source h (by omega) hy
  have hpos := (pitch_bounds h.shape hc.lt_count).1
  have hapart := rowPlace_apart h hc.lt_count
    (show desc.firstActiveLine.toNat < desc.numLines.toNat - 1 by omega) (by omega)
  have htotal := hc.total_eq
  have hstart := hc.start_le
  rcases hc.top h hpair with hafter | hinside | ⟨htopLuma, hbotLuma⟩
  · rw [Planes.composeUpTo_flip_of_le hafter]
    omega
  · have hflip := @Planes.flip_between desc.geometry desc.firstVisibleRow c _ hinside
    rw [Planes.composeUpTo_flip hinside, if_pos hc.lt_count]
    omega
  · rw [Planes.composeUpTo_flip (q := 0) (by
      rw [Planes.start_zero, Nat.zero_add]; exact ⟨Nat.zero_le _, htopLuma⟩),
      if_pos (Nat.zero_lt_of_lt hc.lt_count)]
    rcases hsource with ⟨hsame, hafter⟩ | ⟨hflip, -⟩
    · omega
    · rw [hflip]
      intro heq
      have hinj := flipAt_injective heq
      omega

/-- The planes before the last one, and then the last one. -/
lemma run (h : desc.Valid) (hc : desc.IsLastPlane c) {fb out : Block Byte} {fuel : ℕ}
    (hlength : fb.cells.length = fullSize) (hfuel : desc.numLines.toNat < fuel)
    (hrun : desc.flipPlanes fuel desc.geometry.count fb = some out) :
    ∃ half : Block Byte, half.cells.length = fullSize ∧
      (∀ i, half.cells[i]? = fb.cells[composeUpTo desc.lineFlip c i]?) ∧
      desc.flipRows (BitVec.ofNat 16 c) fuel desc.firstActiveLine (desc.numLines - 1) half =
        some out := by
  have hsize := h.size
  have hfull : fullSize = 2 ^ 32 - 1 := rfl
  have hroom : ∀ p < c, desc.geometry.start p +
      desc.numLines.toNat * desc.geometry.pitch p ≤ fb.cells.length := fun p hp => by
    have hend := hc.fit p hp
    omega
  rw [← hc.count, flipPlanes_succ] at hrun
  obtain ⟨half, hhalf, hrows⟩ := Option.bind_eq_some_iff.mp hrun
  obtain ⟨half', hhalf', hhalfLength, hhalfCells⟩ :=
    flipPlanes_spec h hc.lt_count.le hroom (by omega) hfuel
  obtain rfl : half' = half := Option.some.inj (hhalf'.symm.trans hhalf)
  exact ⟨half', hhalfLength.trans hlength, hhalfCells, hrows⟩

/-- **The last plane takes bytes that are not its own**, where no line begins at the end of the
frame buffer. -/
lemma not_flipsVertically (h : desc.Valid) (hc : desc.IsLastPlane c)
    (hpair : desc.firstActiveLine.toNat + 2 ≤ desc.numLines.toNat)
    (hnull : desc.rowPlace c desc.firstActiveLine.toNat ≠ fullSize ∧
      desc.rowPlace c (desc.numLines.toNat - 1) ≠ fullSize) : ¬ desc.FlipsVertically := by
  obtain ⟨y, hy⟩ : ∃ y, y = composeUpTo desc.lineFlip c
    (desc.rowPlace c (desc.numLines.toNat - 1)) := ⟨_, rfl⟩
  have hfull : fullSize = 2 ^ 32 - 1 := rfl
  have hyLt : y < fullSize := by
    have hsize := h.size
    have hplace : desc.rowPlace c (desc.numLines.toNat - 1) < 2 ^ 32 := Nat.mod_lt _ (by decide)
    have hne := hnull.2
    have htotal := hc.total_eq
    have hstart := hc.start_le
    have hrow : 0 < desc.geometry.size c := by
      rw [Planes.size, hc.rows]
      exact Nat.mul_pos (by omega) (pitch_bounds h.shape hc.lt_count).1
    rcases hc.source h (by omega) hy with ⟨hsame, -⟩ | ⟨-, hlt⟩ <;> omega
  refine not_flipsVertically_of_moved h hyLt (hc.ne_source h hpair hy) ?_
  intro fb out fuel hlength hfuel hrun
  obtain ⟨half, hhalfLength, hhalfCells, hrows⟩ := hc.run h hlength hfuel hrun
  have hpairSpec := flipFirstPair_spec h hc.lt_count hhalfLength hpair hrows
  rw [if_neg (not_or.mpr hnull)] at hpairSpec
  rw [hpairSpec, hhalfCells, hy]

end IsLastPlane

/-! ### Two planes, and three -/

lemma rows_chroma (h : desc.Shape) (h420 : desc.mPixelFormat.is420 = true) (hc : 0 < c)
    (hcount : c < desc.geometry.count) : desc.geometry.rows c = desc.numLines.toNat / 2 := by
  rw [rows_eq h hcount, if_pos ⟨h420, by omega⟩]

/-- A chroma plane is no larger than the first plane. -/
lemma size_chroma_le (h : desc.Valid) (h420 : desc.mPixelFormat.is420 = true) (hc : 0 < c)
    (hcount : c < desc.geometry.count) : desc.geometry.size c ≤ desc.geometry.size 0 := by
  obtain ⟨hrows, hpitch⟩ := geometry_zero (ne_zero_of_isValid h.isValid).2.1
  rw [Planes.size, Planes.size, hrows, hpitch, rows_chroma h.shape h420 hc hcount]
  exact Nat.mul_le_mul (Nat.div_le_self _ _) (pitch_bounds h.shape hcount).2

/-- The lines of the first plane stay inside of the raster. -/
lemma luma_fits (h : desc.Valid) : desc.geometry.start 0 +
    desc.numLines.toNat * desc.geometry.pitch 0 ≤ desc.geometry.total := by
  have hplanes := (ne_zero_of_isValid h.isValid).2.1
  rw [← (geometry_zero hplanes).1]
  exact Planes.end_le_total (toNat_pos hplanes)

/-- The second of two planes. -/
lemma isLastPlane_two (h : desc.Valid) (h420 : desc.mPixelFormat.is420 = true)
    (hcount : desc.mNumPlanes = 2) : desc.IsLastPlane 1 := by
  have hlt : 1 < desc.geometry.count := by rw [geometry_count, hcount]; decide
  refine ⟨Nat.one_pos, by rw [geometry_count, hcount]; rfl,
    rows_chroma h.shape h420 Nat.one_pos hlt, size_chroma_le h h420 Nat.one_pos hlt, ?_,
    fun p hp => ?_⟩
  · rw [Planes.start_succ, Planes.start_zero, Nat.zero_add]
  · obtain rfl := Nat.lt_one_iff.mp hp
    exact luma_fits h

/-- The pitch of the last two of three planes. -/
lemma pitch_two (h : desc.Shape) (hsame : desc.mLinePitch2 = desc.mLinePitch1)
    (hlt : 2 < desc.geometry.count) : desc.geometry.pitch 1 = desc.geometry.pitch 2 := by
  rw [geometry_pitch, geometry_pitch, getBytesPerRow, getBytesPerRow,
    if_pos (plane_lt h (by omega)), if_pos (plane_lt h hlt)]
  exact congrArg BitVec.toNat hsame.symm

/-- The third of three planes, which the lines of the second one reach to the end. -/
lemma isLastPlane_three (h : desc.Valid) (h420 : desc.mPixelFormat.is420 = true)
    (hcount : desc.mNumPlanes = 3) (hsame : desc.mLinePitch2 = desc.mLinePitch1) :
    desc.IsLastPlane 2 ∧ desc.geometry.start 1 +
      desc.numLines.toNat * desc.geometry.pitch 2 = desc.geometry.total := by
  have hthree : desc.geometry.count = 3 := by rw [geometry_count, hcount]; rfl
  have heven := h.even
  have hpitch := pitch_two h.shape hsame (by omega)
  have htotal : desc.geometry.total =
      desc.geometry.start 1 + desc.geometry.size 1 + desc.geometry.size 2 := by
    rw [Planes.total, hthree, Planes.start_succ, Planes.start_succ]
  have hreach : desc.geometry.start 1 + desc.numLines.toNat * desc.geometry.pitch 2 =
      desc.geometry.total := by
    rw [htotal, Planes.size, Planes.size, rows_chroma h.shape h420 Nat.one_pos (by omega),
      rows_chroma h.shape h420 Nat.two_pos (by omega), hpitch, Nat.add_assoc, ← Nat.add_mul,
      show desc.numLines.toNat / 2 + desc.numLines.toNat / 2 = desc.numLines.toNat by omega]
  refine ⟨⟨Nat.two_pos, hthree.symm, rows_chroma h.shape h420 Nat.two_pos (by omega),
    size_chroma_le h h420 Nat.two_pos (by omega), ?_, fun p hp => ?_⟩, hreach⟩
  · rw [Planes.start_succ, Planes.start_succ, Planes.start_zero, Nat.zero_add]
    exact Nat.le_add_right _ _
  · obtain rfl | rfl : p = 0 ∨ p = 1 := by omega
    · exact luma_fits h
    · rw [hpitch, hreach]

/-- Of two planes no line begins at an odd offset. -/
lemma rowPlace_ne_of_two (h : desc.Valid) (hcount : desc.mNumPlanes = 2)
    (hsame : desc.mLinePitch1 = desc.mLinePitch) (hfour : desc.mLinePitch.toNat % 4 = 0) (r : ℕ) :
    desc.rowPlace 1 r ≠ fullSize := by
  have hplanes := (ne_zero_of_isValid h.isValid).2.1
  have hlt : 1 < desc.geometry.count := by rw [geometry_count, hcount]; decide
  have hpitch : desc.geometry.pitch 1 = desc.mLinePitch.toNat := by
    rw [geometry_pitch, getBytesPerRow, if_pos (plane_lt h.shape hlt)]
    exact congrArg BitVec.toNat hsame
  obtain ⟨k, hk⟩ : ∃ k, desc.mLinePitch.toNat = 4 * k := ⟨desc.mLinePitch.toNat / 4, by omega⟩
  have hplace : desc.geometry.start 1 + r * desc.geometry.pitch 1 =
      4 * ((desc.numLines.toNat + r) * k) := by
    rw [Planes.start_succ, Planes.start_zero, Nat.zero_add, Planes.size,
      (geometry_zero hplanes).1, (geometry_zero hplanes).2, hpitch, hk]
    ring
  rw [rowPlace, hplace, fullSize]
  omega

/-- Of three planes the loop over the second one takes the last row of the third to its top line. -/
lemma lineFlip_second (h : desc.Valid)
    (hpair : desc.firstActiveLine.toNat + 2 ≤ desc.numLines.toNat) (hlt : 1 < desc.geometry.count) :
    composeUpTo desc.lineFlip 2
        (desc.geometry.start 1 + desc.firstActiveLine.toNat * desc.geometry.pitch 1) =
      desc.geometry.start 1 + (desc.numLines.toNat - 1) * desc.geometry.pitch 1 := by
  have hpos := (pitch_bounds h.shape hlt).1
  have hrow := @flipAt_row
    (desc.geometry.start 1 + desc.firstActiveLine.toNat * desc.geometry.pitch 1)
    (desc.geometry.pitch 1) (desc.numLines.toNat - desc.firstActiveLine.toNat) 0 0 (by omega) hpos
  simp only [Nat.zero_mul, Nat.add_zero, Nat.sub_zero] at hrow
  have hsum : desc.firstActiveLine.toNat * desc.geometry.pitch 1 +
      (desc.numLines.toNat - desc.firstActiveLine.toNat - 1) * desc.geometry.pitch 1 =
        (desc.numLines.toNat - 1) * desc.geometry.pitch 1 := by
    rw [← Nat.add_mul]
    congr 1
    omega
  have hnext : desc.geometry.start 1 = desc.geometry.start 0 + desc.geometry.size 0 :=
    Planes.start_succ 0
  rw [composeUpTo, composeUpTo, composeUpTo, lineFlip_zero h, lineFlip, hrow,
    Planes.flip_of_not (by omega)]
  omega

/-- Its top line is to come from the second plane, or to stay in the third. -/
lemma ne_lineFlip_second (h : desc.Valid) (h420 : desc.mPixelFormat.is420 = true)
    (hpair : desc.firstActiveLine.toNat + 2 ≤ desc.numLines.toNat)
    (hlt : 2 < desc.geometry.count) (hpitch : desc.geometry.pitch 1 = desc.geometry.pitch 2) :
    composeUpTo (desc.geometry.flip desc.firstVisibleRow) desc.geometry.count
        (desc.geometry.start 1 + desc.firstActiveLine.toNat * desc.geometry.pitch 1) ≠
      desc.geometry.start 1 + (desc.numLines.toNat - 1) * desc.geometry.pitch 1 := by
  have hpos := (pitch_bounds h.shape hlt).1
  have heven := h.even
  have hrows := rows_chroma h.shape h420 Nat.one_pos (show 1 < desc.geometry.count by omega)
  have hnext : desc.geometry.start 1 + desc.numLines.toNat / 2 * desc.geometry.pitch 1 =
      desc.geometry.start 2 := by
    rw [← hrows]
    exact (Planes.start_succ 1).symm
  have hbelow : desc.firstActiveLine.toNat * desc.geometry.pitch 1 + desc.geometry.pitch 1 ≤
      (desc.numLines.toNat - 1) * desc.geometry.pitch 1 := by
    rw [← Nat.succ_mul]
    exact Nat.mul_le_mul_right _ (by omega)
  have hhalf : desc.numLines.toNat / 2 * desc.geometry.pitch 1 ≤
      (desc.numLines.toNat - 1) * desc.geometry.pitch 1 := Nat.mul_le_mul_right _ (by omega)
  rcases Nat.lt_or_ge desc.firstActiveLine.toNat (desc.numLines.toNat / 2) with hlow | hhigh
  · have hrow : desc.firstActiveLine.toNat * desc.geometry.pitch 1 + desc.geometry.pitch 1 ≤
        desc.numLines.toNat / 2 * desc.geometry.pitch 1 := by
      rw [← Nat.succ_mul]
      exact Nat.mul_le_mul_right _ hlow
    have hinside : desc.geometry.start 1 ≤ desc.geometry.start 1 +
        desc.firstActiveLine.toNat * desc.geometry.pitch 1 ∧ desc.geometry.start 1 +
          desc.firstActiveLine.toNat * desc.geometry.pitch 1 <
            desc.geometry.start 1 + desc.geometry.size 1 := by
      rw [Planes.size, hrows]
      omega
    have hflip := @Planes.flip_between desc.geometry desc.firstVisibleRow 1 _ hinside
    rw [Planes.size, hrows, hnext] at hflip
    rw [Planes.composeUpTo_flip hinside, if_pos (by omega)]
    omega
  · -- a row of the third plane before its visible ones
    have hfirst : desc.firstVisibleRow 2 = desc.firstActiveLine.toNat / 2 := by
      rw [firstVisibleRow, ratio_eq h.shape hlt, if_pos ⟨h420, by decide⟩]
      rfl
    have hrows' := rows_chroma h.shape h420 Nat.two_pos hlt
    have hsum : desc.numLines.toNat / 2 * desc.geometry.pitch 2 +
        (desc.firstActiveLine.toNat - desc.numLines.toNat / 2) * desc.geometry.pitch 2 =
          desc.firstActiveLine.toNat * desc.geometry.pitch 2 := by
      rw [← Nat.add_mul, Nat.add_sub_cancel' hhigh]
    have hrow : (desc.firstActiveLine.toNat - desc.numLines.toNat / 2) * desc.geometry.pitch 2 +
        desc.geometry.pitch 2 ≤ desc.numLines.toNat / 2 * desc.geometry.pitch 2 := by
      rw [← Nat.succ_mul]
      exact Nat.mul_le_mul_right _ (by omega)
    rw [hpitch] at hnext hbelow ⊢
    have hplace : desc.geometry.start 1 + desc.firstActiveLine.toNat * desc.geometry.pitch 2 =
        desc.geometry.start 2 + (desc.firstActiveLine.toNat - desc.numLines.toNat / 2) *
          desc.geometry.pitch 2 + 0 := by
      omega
    rw [hplace, Planes.composeUpTo_flip (q := 2) (by rw [Planes.size, hrows']; omega), if_pos hlt,
      Planes.flip_of_lt (by omega) hpos, ← hplace]
    omega

/-- **Of three planes** the second one takes rows of the third, where the third does nothing. -/
lemma not_flipsVertically_of_three (h : desc.Valid) (h420 : desc.mPixelFormat.is420 = true)
    (hpair : desc.firstActiveLine.toNat + 2 ≤ desc.numLines.toNat)
    (hcount : desc.mNumPlanes = 3) (hsame : desc.mLinePitch2 = desc.mLinePitch1)
    (hnull : desc.rowPlace 2 desc.firstActiveLine.toNat = fullSize ∨
      desc.rowPlace 2 (desc.numLines.toNat - 1) = fullSize) : ¬ desc.FlipsVertically := by
  obtain ⟨hlast, hreach⟩ := isLastPlane_three h h420 hcount hsame
  have hlt := hlast.lt_count
  have hpitch := pitch_two h.shape hsame hlt
  have hpos := (pitch_bounds h.shape hlt).1
  have hsize := h.size
  have hfull : fullSize = 2 ^ 32 - 1 := rfl
  have hend : (desc.numLines.toNat - 1) * desc.geometry.pitch 2 + desc.geometry.pitch 2 =
      desc.numLines.toNat * desc.geometry.pitch 2 := by
    rw [← Nat.succ_mul]
    congr 1
    omega
  refine not_flipsVertically_of_moved h (by rw [hpitch]; omega)
    (ne_lineFlip_second h h420 hpair hlt hpitch) ?_
  intro fb out fuel hlength hfuel hrun
  obtain ⟨half, hhalfLength, hhalfCells, hrows⟩ := hlast.run h hlength hfuel hrun
  have hpairSpec := flipFirstPair_spec h hlt hhalfLength hpair hrows
  rw [if_pos hnull] at hpairSpec
  rw [hpairSpec, hhalfCells, lineFlip_second h hpair (by omega)]

/-- **No raster of 4:2:0 is flipped** that has a pair of lines. -/
lemma not_flipsVertically_of_420 (h : desc.Valid) (h420 : desc.mPixelFormat.is420 = true)
    (hpair : desc.firstActiveLine.toNat + 2 ≤ desc.numLines.toNat) : ¬ desc.FlipsVertically := by
  obtain ⟨-, hnot⟩ | ⟨hcount, hsame, hfour⟩ | ⟨hcount, hsame⟩ := h.shape.count
  · exact absurd (h420.symm.trans hnot) (by decide)
  · exact (isLastPlane_two h h420 hcount).not_flipsVertically h hpair
      ⟨rowPlace_ne_of_two h hcount hsame hfour _, rowPlace_ne_of_two h hcount hsame hfour _⟩
  · by_cases hnull : desc.rowPlace 2 desc.firstActiveLine.toNat = fullSize ∨
      desc.rowPlace 2 (desc.numLines.toNat - 1) = fullSize
    · exact not_flipsVertically_of_three h h420 hpair hcount hsame hnull
    · exact (isLastPlane_three h h420 hcount hsame).1.not_flipsVertically h hpair
        (not_or.mp hnull)

/-- **The raster is flipped**, plane by plane and for good, exactly where the format is not one of
4:2:0, or there is no pair of visible lines. -/
theorem flipsVertically_iff (h : desc.Valid) :
    desc.FlipsVertically ↔ desc.mPixelFormat.is420 = false ∨
      desc.numLines.toNat ≤ desc.firstActiveLine.toNat + 1 := by
  constructor
  · intro hflips
    cases h420 : desc.mPixelFormat.is420 with
    | false => exact Or.inl rfl
    | true =>
        refine Or.inr ?_
        by_contra hpair
        exact not_flipsVertically_of_420 h h420 (by omega) hflips
  · rintro (h420 | hle)
    · exact flipsVertically_of_not_420 h h420
    · exact flipsVertically_of_le h hle

/-- The planes of 4:2:2. -/
theorem flipsVertically_422 : (fourLines .NTV2_FBF_8BIT_YCBCR_422PL3).FlipsVertically :=
  (flipsVertically_iff ⟨by decide, .planar _ (by decide), by decide, by decide⟩).mpr
    (Or.inl (by decide))

/-- Four lines of 4:2:0. -/
theorem not_flipsVertically_fourLines :
    ¬ (fourLines .NTV2_FBF_8BIT_YCBCR_420PL3).FlipsVertically :=
  not_flipsVertically_of_420 ⟨by decide, .planar _ (by decide), by decide, by decide⟩ (by decide)
    (by decide)

end Chroma

end NTV2RasterDescriptor

end LibAjaNtv2
