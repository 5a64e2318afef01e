import LibAjaNtv2.Raster.PlaneDescriptor

/-!
Byte offsets, rows and planes of a frame (`ntv2formatdescriptor.cpp`).

* `byteOffsetToPlane_eq`, `byteOffsetToRasterLine_eq`, `isAtLineStart_iff`: **what they find** for a
  byte of a row;
* `toNat_rasterLineToByteOffset`: where a row begins;
* `OffsetsAgree`, `RefusesRows`: the six functions agree on a byte, and refuse the rows that are not
  there;
* `rasterAgrees_iff`: **they do both** exactly where no plane has fewer rows than the first.
-/

namespace LibAjaNtv2

namespace NTV2RasterDescriptor

variable {desc : NTV2RasterDescriptor} {b : ULWord} {p r : ℕ}

/-- The six functions agree on a byte: it lies in one row of one plane, which they all find. -/
structure OffsetsAgree (desc : NTV2RasterDescriptor) (b : ULWord) (p r : ℕ) : Prop where
  holds : desc.geometry.Holds p r b.toNat
  unique : ∀ p' r', desc.geometry.Holds p' r' b.toNat → p' = p ∧ r' = r
  plane : (desc.byteOffsetToPlane b).toNat = p
  line : (desc.byteOffsetToRasterLine b).toNat = r
  offset_le :
    (desc.rasterLineToByteOffset (BitVec.ofNat 32 r) (BitVec.ofNat 16 p)).toNat ≤ b.toNat
  lt_offset : b.toNat < (desc.rasterLineToByteOffset (BitVec.ofNat 32 r) (BitVec.ofNat 16 p)).toNat +
    (desc.getBytesPerRow (BitVec.ofNat 16 p)).toNat
  atStart : desc.isAtLineStart b = true ↔
    b = desc.rasterLineToByteOffset (BitVec.ofNat 32 r) (BitVec.ofNat 16 p)

/-- A row that a plane does not have is refused. -/
def RefusesRows (desc : NTV2RasterDescriptor) : Prop :=
  ∀ plane : UWord, plane < desc.mNumPlanes → ∀ row : ULWord,
    desc.geometry.rows plane.toNat ≤ row.toNat →
      desc.rasterLineToByteOffset row plane = 0xFFFFFFFF ∧
        (∀ pInStartAddress, desc.getRowAddress pInStartAddress row plane = none) ∧
        ∀ bytes, desc.getRowBuffer bytes row plane = none

/-- Offsets, rows and planes agree on every byte of the frame, and no other row is accepted. -/
def RasterAgrees (desc : NTV2RasterDescriptor) : Prop :=
  (∀ b : ULWord, b.toNat < desc.getTotalBytes.toNat → ∃ p r, desc.OffsetsAgree b p r) ∧
    desc.RefusesRows

/-! ### From a byte to its row -/

/-- The loop finds the plane among those that are left. -/
lemma findPlane_eq (h : desc.Valid) (hb : desc.geometry.Holds p r b.toNat) {k n : ℕ}
    {acc : ULWord} (hacc : acc.toNat = desc.geometry.start k) (hk : k + n = desc.geometry.count)
    (hle : desc.geometry.start k ≤ b.toNat) :
    desc.findPlane b ((List.range' k n).map (BitVec.ofNat 16)) acc = BitVec.ofNat 16 p := by
  induction n generalizing k acc with
  | zero =>
      have hlt : b.toNat < desc.geometry.start k :=
        hb.lt_start_succ.trans_le (Planes.start_succ_le (hb.plane.trans_eq hk.symm))
      exact absurd (hle.trans_lt hlt) (lt_irrefl _)
  | succ n ih =>
      have hkcount : k < desc.geometry.count := by omega
      have hfit := start_lt h hkcount
      have hnext : (acc + desc.getTotalRasterBytes (BitVec.ofNat 16 k)).toNat =
          desc.geometry.start (k + 1) := by
        rw [Planes.start_succ] at hfit ⊢
        rw [BitVec.toNat_add, hacc, toNat_getTotalRasterBytes h hkcount, Nat.mod_eq_of_lt hfit]
      rw [List.range'_succ, List.map_cons, findPlane]
      by_cases hlt : b < acc + desc.getTotalRasterBytes (BitVec.ofNat 16 k)
      · rw [if_pos hlt]
        rw [BitVec.lt_def, hnext, Planes.start_succ] at hlt
        rw [hb.plane_eq hle hlt]
      · rw [if_neg hlt]
        rw [BitVec.lt_def, hnext, not_lt] at hlt
        exact ih hnext (by omega) hlt

/-- **The plane of a byte.** -/
lemma byteOffsetToPlane_eq (h : desc.Valid) (hb : desc.geometry.Holds p r b.toNat) :
    desc.byteOffsetToPlane b = BitVec.ofNat 16 p := by
  have hpos : 1 ≤ desc.mNumPlanes.toNat := toNat_pos (ne_zero_of_isValid h.isValid).2.1
  rw [byteOffsetToPlane]
  split_ifs with hplanar hlt
  · rw [planes, Nat.max_eq_right hpos, List.range_eq_range']
    exact findPlane_eq h hb rfl (Nat.zero_add _) (Nat.zero_le _)
  all_goals
    have hone : desc.mNumPlanes = 1 := by
      by_contra hne
      exact hplanar (h.shape.planar hne)
    have hplane := hb.plane
    rw [geometry_count, hone, show BitVec.toNat (1 : UWord) = 1 from rfl, Nat.lt_one_iff] at hplane
  · rw [hplane]
    rfl
  · have hsize := toNat_getTotalRasterBytes h hb.plane
    have hend := hb.lt_start_succ
    rw [hplane, Planes.start_zero, Nat.zero_add, ← hplane, ← hsize, hplane] at hend
    exact absurd (BitVec.lt_def.mpr hend) hlt

lemma toNat_sub_start {start : ULWord} (hb : desc.geometry.Holds p r b.toNat)
    (hstart : start.toNat = desc.geometry.start p) :
    (b - start).toNat = b.toNat - desc.geometry.start p := by
  rw [BitVec.toNat_sub_of_le (by rw [BitVec.le_def, hstart]; exact hb.start_le), hstart]

/-- **The row of a byte**, where 16 bits count the lines. -/
lemma byteOffsetToRasterLine_eq (h : desc.Valid) (hlines : desc.numLines.toNat < 65536)
    (hb : desc.geometry.Holds p r b.toNat) : (desc.byteOffsetToRasterLine b).toNat = r := by
  have hcount := h.shape.count_le
  have hplane := hb.plane
  have hp := toNat_plane h.shape hplane
  have hrow := hb.row
  have hstart := @toNat_bytesBefore desc p h hplane.le 0#32
    (by rw [BitVec.toNat_ofNat, Nat.zero_mod, Nat.zero_add]; exact start_lt h hplane.le)
  rw [BitVec.toNat_ofNat, Nat.zero_mod, Nat.zero_add] at hstart
  have hrows : desc.geometry.rows p ≤ desc.numLines.toNat := by
    rw [rows_eq h.shape hplane]
    split_ifs <;> omega
  have hnot : BitVec.ofNat 16 p ≠ 0xFFFF := fun heq => by
    rw [heq] at hp
    have hlarge : BitVec.toNat (0xFFFF : UWord) = 65535 := rfl
    omega
  rw [byteOffsetToRasterLine]
  simp only [byteOffsetToPlane_eq h hb]
  have hplace : (b - desc.bytesBefore p 0).toNat = b.toNat - desc.geometry.start p :=
    toNat_sub_start hb hstart
  rw [if_neg hnot, BitVec.toNat_setWidth, BitVec.toNat_udiv, hp, hplace, ← geometry_pitch,
    hb.div_eq, Nat.mod_eq_of_lt (by omega)]

/-- **Where a row begins.** -/
lemma toNat_rasterLineToByteOffset (h : desc.Valid) (hp : p < desc.geometry.count)
    (hr : r < desc.geometry.rows p) :
    (desc.rasterLineToByteOffset (BitVec.ofNat 32 r) (BitVec.ofNat 16 p)).toNat =
      desc.geometry.start p + r * desc.geometry.pitch p := by
  have hlt := desc.numLines.isLt
  have hrows : desc.geometry.rows p ≤ desc.numLines.toNat := by
    rw [rows_eq h.shape hp]
    split_ifs <;> omega
  have hrow : (BitVec.ofNat 32 r).toNat = r := by
    rw [BitVec.toNat_ofNat, Nat.mod_eq_of_lt (by omega)]
  have hend := Planes.end_le_total hp
  have hsize := h.size
  have hle : r * desc.geometry.pitch p ≤ desc.geometry.size p := Nat.mul_le_mul_right _ hr.le
  rw [rasterLineToByteOffset, if_neg (by rw [BitVec.le_def, hrow]; omega),
    if_neg (BitVec.not_le.mpr (plane_lt h.shape hp)), BitVec.toNat_add, BitVec.toNat_mul, hrow,
    toNat_planeOffset h hp, ← geometry_pitch, Nat.mod_eq_of_lt (by omega),
    Nat.mod_eq_of_lt (by omega)]

/-- The sizes taken off before the row is looked for. -/
lemma toNat_sub_planes (h : desc.Valid) (hb : desc.geometry.Holds p r b.toNat) :
    (let b := if 0 < BitVec.ofNat 16 p then b - desc.getTotalRasterBytes 0 else b
     if 1 < BitVec.ofNat 16 p then b - desc.getTotalRasterBytes 1 else b).toNat =
      b.toNat - desc.geometry.start p := by
  have hle := h.shape.count_le
  have hplane := hb.plane
  have hsize : ∀ q < p, (desc.getTotalRasterBytes (BitVec.ofNat 16 q)).toNat =
      desc.geometry.size q := fun q hq => toNat_getTotalRasterBytes h (hq.trans hplane)
  have hstart := hb.start_le
  obtain rfl | rfl | rfl : p = 0 ∨ p = 1 ∨ p = 2 := by omega
  · rfl
  · have hzero := hsize 0 (by decide)
    rw [Planes.start_succ, Planes.start_zero, Nat.zero_add, ← hzero] at hstart ⊢
    exact BitVec.toNat_sub_of_le hstart
  · have hzero := hsize 0 (by decide)
    have hone := hsize 1 (by decide)
    rw [Planes.start_succ, Planes.start_succ, Planes.start_zero, Nat.zero_add, ← hzero,
      ← hone] at hstart ⊢
    have hfirst := BitVec.toNat_sub_of_le (BitVec.le_def.mpr ((Nat.le_add_right _ _).trans hstart))
    rw [Nat.sub_add_eq, ← hfirst]
    refine BitVec.toNat_sub_of_le (?_ : desc.getTotalRasterBytes (BitVec.ofNat 16 1) ≤
      b - desc.getTotalRasterBytes (BitVec.ofNat 16 0))
    rw [BitVec.le_def, hfirst]
    omega

/-- **The start of a row.** -/
lemma isAtLineStart_iff (h : desc.Valid) (hb : desc.geometry.Holds p r b.toNat) :
    desc.isAtLineStart b = true ↔ b.toNat = desc.geometry.start p + r * desc.geometry.pitch p := by
  have hplane := plane_lt h.shape hb.plane
  have hlower := hb.lower
  have hupper := hb.upper
  rw [isAtLineStart, if_pos h.isValid]
  simp only [byteOffsetToPlane_eq h hb]
  rw [if_neg (BitVec.not_le.mpr hplane), decide_eq_true_eq, ← BitVec.toNat_inj,
    BitVec.toNat_umod, toNat_sub_planes h hb, ← geometry_pitch]
  have hplace : b.toNat - desc.geometry.start p =
      b.toNat - desc.geometry.start p - r * desc.geometry.pitch p +
        desc.geometry.pitch p * r := by
    rw [Nat.mul_comm (desc.geometry.pitch p)]
    omega
  rw [Nat.succ_mul] at hupper
  rw [hplace, Nat.add_mul_mod_self_left, Nat.mod_eq_of_lt (by omega),
    show BitVec.toNat (0 : ULWord) = 0 from rfl]
  omega

/-! ### The frame -/

/-- **The six functions agree** on every byte of a frame. -/
lemma offsetsAgree (h : desc.Valid) (hlines : desc.numLines.toNat < 65536)
    (hb : b.toNat < desc.getTotalBytes.toNat) : ∃ p r, desc.OffsetsAgree b p r := by
  rw [toNat_getTotalBytes h] at hb
  obtain ⟨p, r, hholds, hunique⟩ := Planes.existsUnique_holds hb
  have hoffset := toNat_rasterLineToByteOffset h hholds.plane hholds.row
  refine ⟨p, r, hholds, hunique, ?_, byteOffsetToRasterLine_eq h hlines hholds, ?_, ?_, ?_⟩
  · rw [byteOffsetToPlane_eq h hholds, toNat_plane h.shape hholds.plane]
  · rw [hoffset]
    exact hholds.lower
  · have hupper := hholds.upper
    rw [Nat.succ_mul, ← Nat.add_assoc] at hupper
    rw [hoffset]
    exact hupper
  · rw [isAtLineStart_iff h hholds, ← hoffset, BitVec.toNat_inj]

/-- Rows are refused by the number of lines, which is that of the rows of every plane but the
chroma planes of 4:2:0. -/
lemma refusesRows (h : desc.Shape) (h420 : desc.mPixelFormat.is420 = false) :
    desc.RefusesRows := by
  intro plane hplane row hrow
  have hp : plane.toNat < desc.geometry.count := hplane
  rw [rows_eq h hp, h420, if_neg (by simp)] at hrow
  have hlines : desc.numLines ≤ row := hrow
  exact ⟨if_pos hlines, fun _ => if_pos hlines, fun _ => if_pos hlines⟩

/-- A chroma plane of 4:2:0 has half of the rows that are accepted. -/
lemma not_refusesRows (h : desc.Valid) (h420 : desc.mPixelFormat.is420 = true) :
    ¬ desc.RefusesRows := by
  intro hrefuses
  have heven := h.even
  have hlt := desc.numLines.isLt
  have hlines := h.shape.lines
  have hcount : 1 < desc.geometry.count := by
    rw [geometry_count]
    obtain ⟨-, hnot⟩ | ⟨hcount, -⟩ | ⟨hcount, -⟩ := h.shape.count
    · exact absurd (h420.symm.trans hnot) (by decide)
    · rw [hcount]
      decide
    · rw [hcount]
      decide
  have hrow : (BitVec.ofNat 32 (desc.numLines.toNat / 2)).toNat = desc.numLines.toNat / 2 := by
    rw [BitVec.toNat_ofNat, Nat.mod_eq_of_lt (by omega)]
  have hnone := (hrefuses 1 (plane_lt h.shape hcount) (BitVec.ofNat 32 (desc.numLines.toNat / 2))
    (by rw [hrow, show BitVec.toNat (1 : UWord) = 1 from rfl, rows_eq h.shape hcount,
      if_pos ⟨h420, by decide⟩])).2.1 1
  have hplane : ¬ desc.mNumPlanes ≤ (1 : UWord) := BitVec.not_le.mpr (plane_lt h.shape hcount)
  rw [getRowAddress, if_neg (by rw [BitVec.le_def, hrow]; omega), if_neg hplane,
    if_neg (by decide)] at hnone
  exact absurd hnone (Option.some_ne_none _)

/-- **Offsets, rows and planes agree**, and no row is accepted that a plane does not have, exactly
where the format is not one of 4:2:0. -/
theorem rasterAgrees_iff (h : desc.Valid) (hlines : desc.numLines.toNat < 65536) :
    desc.RasterAgrees ↔ desc.mPixelFormat.is420 = false := by
  constructor
  · rintro ⟨-, hrefuses⟩
    by_contra h420
    rw [Bool.not_eq_false] at h420
    exact not_refusesRows h h420 hrefuses
  · exact fun h420 => ⟨fun b hb => offsetsAgree h hlines hb, refusesRows h.shape h420⟩

/-- The planes of 4:2:2. -/
theorem rasterAgrees_422 : (fourLines .NTV2_FBF_8BIT_YCBCR_422PL3).RasterAgrees :=
  (rasterAgrees_iff ⟨by decide, .planar _ (by decide), by decide, by decide⟩ (by decide)).mpr
    (by decide)

/-- The third row of a chroma plane of two rows is accepted. -/
theorem not_rasterAgrees_420 : ¬ (fourLines .NTV2_FBF_8BIT_YCBCR_420PL3).RasterAgrees := by
  rintro ⟨-, hrefuses⟩
  have hrow := (hrefuses 1 (by decide) 2 (by decide)).1
  exact absurd hrow (by decide)

end NTV2RasterDescriptor

end LibAjaNtv2
