import LibAjaNtv2.Lib.Block
import LibAjaNtv2.Raster.PlaneDescriptor

/-!
Flipping the raster in a frame buffer (`ntv2formatdescriptor.cpp`).

* `swapRows`, `flipRows`, `flipVertically`: two rows exchanged through a third buffer, the pairs of
  a plane from both ends, and all planes;
* `Flipped`, `FlipsVertically`: the visible rows of each plane reversed, and nothing else changed;
* `swapRows_spec`, `flipRows_spec`: **where every byte comes from** after a pair, and a plane;
* `flipPlanes_spec`: the same after several planes;
* `flipsVertically_of_not_420`: **the raster is flipped** where every plane has a row for every
  line.
-/

namespace LibAjaNtv2

namespace NTV2RasterDescriptor

variable (desc : NTV2RasterDescriptor)

/-! ### The functions -/

/-- The bytes of a row buffer, which is to lie inside of the frame buffer. -/
def rowBytes (bytesPerLine row : ULWord) (inFB : Block Byte) : Option (List Byte) :=
  if row.toNat + bytesPerLine.toNat ≤ inFB.cells.length then
    some ((inFB.cells.drop row.toNat).take bytesPerLine.toNat)
  else none

/-- `tmpLineBuf = topLineBuf; topLineBuf = botLineBuf; botLineBuf = tmpLineBuf`, where a null row
buffer leaves everything as it is. -/
def swapRows (bytesPerLine : ULWord) (inFB : Block Byte) :
    Option ULWord → Option ULWord → Option (Block Byte)
  | some topLine, some botLine => do
      let tmpLineBuf ← rowBytes bytesPerLine topLine inFB
      let botLineBuf ← rowBytes bytesPerLine botLine inFB
      let inFB ← inFB.store topLine.toNat botLineBuf
      inFB.store botLine.toNat tmpLineBuf
  | _, _ => some inFB

/-- The loop over the pairs of rows of a plane. There is no result without fuel, or where a row
buffer leaves the frame buffer. -/
def flipRows (plane : UWord) : ℕ → ULWord → ULWord → Block Byte → Option (Block Byte)
  | 0, _, _, _ => none
  | fuel + 1, topLineNdx, botLineNdx, inFB =>
      if topLineNdx < botLineNdx then
        match desc.getRowBuffer (BitVec.ofNat 32 inFB.cells.length) topLineNdx plane with
        | none => some inFB
        | some topLineBuf =>
            match desc.getRowBuffer (BitVec.ofNat 32 inFB.cells.length) botLineNdx plane with
            | none => some inFB
            | some botLineBuf =>
                (swapRows (desc.getBytesPerRow plane) inFB topLineBuf botLineBuf).bind
                  (flipRows plane fuel (topLineNdx + 1) (botLineNdx - 1))
      else some inFB

/-- The loops over the first so many planes. -/
def flipPlanes (fuel n : ℕ) (inFB : Block Byte) : Option (Block Byte) :=
  ((List.range n).map (BitVec.ofNat 16)).foldlM
    (fun inFB plane => desc.flipRows plane fuel desc.firstActiveLine (desc.numLines - 1) inFB) inFB

/-- `FlipVertically`: what it returns, and the frame buffer then. -/
def flipVertically (fuel : ℕ) (inFB : Block Byte) : Option (Bool × Block Byte) :=
  if inFB.cells = [] then some (false, inFB)
  else (desc.flipPlanes fuel (max 1 desc.mNumPlanes.toNat) inFB).map fun inFB => (true, inFB)

/-! ### What is to become of a frame buffer -/

/-- The first visible row of a plane. -/
def firstVisibleRow (p : ℕ) : ℕ :=
  desc.firstActiveLine.toNat / (desc.getVerticalSampleRatio (BitVec.ofNat 16 p)).toNat

/-- The visible rows of each plane are reversed, and the rows before them and the bytes after the
raster are as they were. -/
structure Flipped (before after : List Byte) : Prop where
  length : after.length = before.length
  visible : ∀ p < desc.geometry.count, ∀ r, desc.firstVisibleRow p ≤ r → r < desc.geometry.rows p →
    ∀ k < desc.geometry.pitch p, after[desc.geometry.start p + r * desc.geometry.pitch p + k]? =
      before[desc.geometry.start p +
        (desc.firstVisibleRow p + desc.geometry.rows p - 1 - r) * desc.geometry.pitch p + k]?
  vanc : ∀ p < desc.geometry.count, ∀ r < desc.geometry.rows p, r < desc.firstVisibleRow p →
    ∀ k < desc.geometry.pitch p, after[desc.geometry.start p + r * desc.geometry.pitch p + k]? =
      before[desc.geometry.start p + r * desc.geometry.pitch p + k]?
  rest : ∀ i, desc.geometry.total ≤ i → after[i]? = before[i]?

/-- Every frame buffer that holds the raster is flipped, and flipping it again restores it. -/
def FlipsVertically : Prop :=
  ∀ fb : Block Byte, desc.getTotalBytes.toNat ≤ fb.cells.length → fb.cells.length < 2 ^ 32 →
    ∃ fuel out back, desc.flipVertically fuel fb = some (true, out) ∧
      desc.Flipped fb.cells out.cells ∧
      desc.flipVertically fuel out = some (true, back) ∧ back.cells = fb.cells

variable {desc}

/-- **Where every byte comes from** in a frame buffer that is flipped. -/
lemma flipped_iff {before after : List Byte} :
    desc.Flipped before after ↔ after.length = before.length ∧ ∀ i, after[i]? =
      before[composeUpTo (desc.geometry.flip desc.firstVisibleRow) desc.geometry.count i]? := by
  have hrow : ∀ p < desc.geometry.count, ∀ r < desc.geometry.rows p,
      ∀ k < desc.geometry.pitch p,
        composeUpTo (desc.geometry.flip desc.firstVisibleRow) desc.geometry.count
            (desc.geometry.start p + r * desc.geometry.pitch p + k) =
          desc.geometry.flip desc.firstVisibleRow p
            (desc.geometry.start p + r * desc.geometry.pitch p + k) := by
    intro p hp r hr k hk
    have hend : r * desc.geometry.pitch p + desc.geometry.pitch p ≤ desc.geometry.size p := by
      rw [← Nat.succ_mul]
      exact Nat.mul_le_mul_right _ hr
    rw [Planes.composeUpTo_flip (q := p) ⟨by omega, by omega⟩, if_pos hp]
  constructor
  · intro h
    refine ⟨h.length, fun i => ?_⟩
    rcases Nat.lt_or_ge i desc.geometry.total with hlt | hle
    · obtain ⟨p, r, hholds, -⟩ := Planes.existsUnique_holds hlt
      obtain ⟨k, hk⟩ := Nat.exists_eq_add_of_le hholds.lower
      have hupper := hholds.upper
      rw [Nat.succ_mul] at hupper
      have hkp : k < desc.geometry.pitch p := by omega
      rw [hk, hrow p hholds.plane r hholds.row k hkp]
      rcases Nat.lt_or_ge r (desc.firstVisibleRow p) with hvanc | hvisible
      · rw [Planes.flip_of_lt hvanc hkp]
        exact h.vanc p hholds.plane r hholds.row hvanc k hkp
      · rw [Planes.flip_row hvisible hholds.row hkp]
        exact h.visible p hholds.plane r hvisible hholds.row k hkp
    · rw [Planes.composeUpTo_flip_of_le hle]
      exact h.rest i hle
  · rintro ⟨hlength, hall⟩
    refine ⟨hlength, ?_, ?_, ?_⟩
    · intro p hp r hlo hr k hk
      rw [hall, hrow p hp r hr k hk, Planes.flip_row hlo hr hk]
    · intro p hp r hr hlo k hk
      rw [hall, hrow p hp r hr k hk, Planes.flip_of_lt hlo hk]
    · intro i hi
      rw [hall, Planes.composeUpTo_flip_of_le hi]

/-! ### A pair of rows -/

/-- The bytes of a row inside of the frame buffer. -/
lemma rowBytes_eq {bytesPerLine row : ULWord} {fb : Block Byte} {data : List Byte}
    (h : rowBytes bytesPerLine row fb = some data) :
    row.toNat + bytesPerLine.toNat ≤ fb.cells.length ∧ data.length = bytesPerLine.toNat ∧
      ∀ k < bytesPerLine.toNat, data[k]? = fb.cells[row.toNat + k]? := by
  rw [rowBytes] at h
  split_ifs at h with hinside
  obtain rfl := Option.some.inj h
  refine ⟨hinside, ?_, fun k hk => ?_⟩
  · rw [List.length_take, List.length_drop]
    omega
  · rw [List.getElem?_take_of_lt hk, List.getElem?_drop]

/-- **Two rows exchanged**: where every byte comes from. -/
lemma swapRows_spec {bytesPerLine top bot : ULWord} {fb out : Block Byte}
    (h : swapRows bytesPerLine fb (some top) (some bot) = some out)
    (hdisjoint : top.toNat + bytesPerLine.toNat ≤ bot.toNat ∨
      bot.toNat + bytesPerLine.toNat ≤ top.toNat) :
    out.cells.length = fb.cells.length ∧
      ∀ i, out.cells[i]? = fb.cells[swapAt top.toNat bot.toNat bytesPerLine.toNat i]? := by
  obtain ⟨tmp, htmp, h⟩ := Option.bind_eq_some_iff.mp h
  obtain ⟨line, hline, h⟩ := Option.bind_eq_some_iff.mp h
  obtain ⟨half, hhalf, hout⟩ := Option.bind_eq_some_iff.mp h
  obtain ⟨-, htmpLength, htmp⟩ := rowBytes_eq htmp
  obtain ⟨-, hlineLength, hline⟩ := rowBytes_eq hline
  refine ⟨(Block.length_move hout).trans (Block.length_move hhalf), fun i => ?_⟩
  rw [Block.getElem?_store hout, Block.getElem?_store hhalf, htmpLength, hlineLength, swapAt]
  by_cases htop : top.toNat ≤ i ∧ i < top.toNat + bytesPerLine.toNat
  · rw [if_neg (by omega), if_pos htop, if_pos htop, hline _ (by omega)]
  · rw [if_neg htop, if_neg htop]
    by_cases hbot : bot.toNat ≤ i ∧ i < bot.toNat + bytesPerLine.toNat
    · rw [if_pos hbot, if_pos hbot, htmp _ (by omega)]
    · rw [if_neg hbot, if_neg hbot]

/-- Rows inside of the frame buffer are exchanged. -/
lemma exists_swapRows {bytesPerLine top bot : ULWord} {fb : Block Byte}
    (htop : top.toNat + bytesPerLine.toNat ≤ fb.cells.length)
    (hbot : bot.toNat + bytesPerLine.toNat ≤ fb.cells.length) :
    ∃ out, swapRows bytesPerLine fb (some top) (some bot) = some out := by
  have hdata : ∀ row : ULWord, row.toNat + bytesPerLine.toNat ≤ fb.cells.length →
      ∃ data, rowBytes bytesPerLine row fb = some data := fun row hrow => ⟨_, if_pos hrow⟩
  obtain ⟨tmp, htmp⟩ := hdata top htop
  obtain ⟨data, hbotLine⟩ := hdata bot hbot
  obtain ⟨half, hhalf⟩ : ∃ half, fb.store top.toNat data = some half :=
    Block.exists_store (by rw [(rowBytes_eq hbotLine).2.1]; exact htop)
  obtain ⟨out, hout⟩ : ∃ out, half.store bot.toNat tmp = some out :=
    Block.exists_store (by rw [(rowBytes_eq htmp).2.1, Block.length_move hhalf]; exact hbot)
  refine ⟨out, ?_⟩
  simp only [swapRows, htmp, hbotLine, Option.bind_eq_bind, Option.bind_some, hhalf]
  exact hout

/-! ### A plane -/

section Plane

variable {p top bot : ℕ} {fb : Block Byte}

/-- The offset of a row, in 32 bits. -/
lemma toNat_rowOffset_mod (h : desc.Valid) (hp : p < desc.geometry.count) {r : ℕ} :
    (desc.planeOffset (BitVec.ofNat 16 p) +
      BitVec.ofNat 32 r * desc.getBytesPerRow (BitVec.ofNat 16 p)).toNat =
        (desc.geometry.start p + r * desc.geometry.pitch p) % 2 ^ 32 := by
  rw [BitVec.toNat_add, BitVec.toNat_mul, toNat_planeOffset h hp, ← geometry_pitch,
    BitVec.toNat_ofNat, Nat.mod_mul_mod, Nat.add_mod_mod]

/-- The offset of a row that 32 bits count. -/
lemma toNat_rowOffset (h : desc.Valid) (hp : p < desc.geometry.count) {r : ℕ}
    (hfit : desc.geometry.start p + r * desc.geometry.pitch p < 2 ^ 32) :
    (desc.planeOffset (BitVec.ofNat 16 p) +
      BitVec.ofNat 32 r * desc.getBytesPerRow (BitVec.ofNat 16 p)).toNat =
        desc.geometry.start p + r * desc.geometry.pitch p := by
  rw [toNat_rowOffset_mod h hp, Nat.mod_eq_of_lt hfit]

/-- **A row that lies in the frame buffer** is found. -/
lemma getRowBuffer_eq (h : desc.Valid) (hp : p < desc.geometry.count) {r n : ℕ}
    (hr : r < desc.numLines.toNat)
    (hfit : desc.geometry.start p + r * desc.geometry.pitch p + desc.geometry.pitch p ≤ n)
    (hn : n < 2 ^ 32) :
    desc.getRowBuffer (BitVec.ofNat 32 n) (BitVec.ofNat 32 r) (BitVec.ofNat 16 p) =
      some (some (desc.planeOffset (BitVec.ofNat 16 p) +
        BitVec.ofNat 32 r * desc.getBytesPerRow (BitVec.ofNat 16 p))) := by
  have hlt := desc.numLines.isLt
  have hpos := (pitch_bounds h.shape hp).1
  have hrow : (BitVec.ofNat 32 r).toNat = r := by
    rw [BitVec.toNat_ofNat, Nat.mod_eq_of_lt (by omega)]
  have hsize : (BitVec.ofNat 32 n).toNat = n := by
    rw [BitVec.toNat_ofNat, Nat.mod_eq_of_lt hn]
  have hoffset := toNat_rowOffset h hp (r := r) (by omega)
  have hpitch : desc.getBytesPerRow (BitVec.ofNat 16 p) ≠ 0 := fun hzero => by
    rw [geometry_pitch, hzero] at hpos
    exact absurd hpos (by decide)
  have hend : ((desc.planeOffset (BitVec.ofNat 16 p) +
      BitVec.ofNat 32 r * desc.getBytesPerRow (BitVec.ofNat 16 p)) +
        desc.getBytesPerRow (BitVec.ofNat 16 p)).toNat =
      desc.geometry.start p + r * desc.geometry.pitch p + desc.geometry.pitch p := by
    rw [BitVec.toNat_add, hoffset, ← geometry_pitch, Nat.mod_eq_of_lt (by omega)]
  have hnull : BitVec.ofNat 32 n ≠ 0 := fun hzero => by
    rw [hzero] at hsize
    have hzero' : BitVec.toNat (0 : ULWord) = 0 := rfl
    omega
  rw [getRowBuffer, if_neg (by rw [BitVec.le_def, hrow]; omega),
    if_neg (BitVec.not_le.mpr (plane_lt h.shape hp)), if_neg hnull]
  simp only
  rw [if_neg (by rw [BitVec.lt_def, hsize, hend]; omega),
    if_pos (by rw [BitVec.lt_def, hsize, hoffset]; omega), if_pos hpitch]

/-- **The rows of a plane from both ends**: where every byte comes from, while the rows lie in the
frame buffer. -/
lemma flipRows_spec (h : desc.Valid) (hp : p < desc.geometry.count)
    (hbot : bot < desc.numLines.toNat) (htop : top ≤ bot + 1)
    (hfit : desc.geometry.start p + (bot + 1) * desc.geometry.pitch p ≤ fb.cells.length)
    (hn : fb.cells.length < 2 ^ 32) {fuel : ℕ} (hfuel : bot + 1 - top < 2 * fuel) :
    ∃ out, desc.flipRows (BitVec.ofNat 16 p) fuel (BitVec.ofNat 32 top) (BitVec.ofNat 32 bot) fb =
        some out ∧ out.cells.length = fb.cells.length ∧
      ∀ i, out.cells[i]? = fb.cells[flipAt (desc.geometry.start p + top * desc.geometry.pitch p)
        (desc.geometry.pitch p) (bot + 1 - top) i]? := by
  induction fuel generalizing top bot fb with
  | zero => exact absurd hfuel (Nat.not_lt_zero _)
  | succ fuel ih =>
      have hlt := desc.numLines.isLt
      have hcount : ∀ r ≤ bot + 1, (BitVec.ofNat 32 r).toNat = r := fun r hr => by
        rw [BitVec.toNat_ofNat, Nat.mod_eq_of_lt (by omega)]
      rw [flipRows]
      rcases Nat.lt_or_ge top bot with hpair | hle
      · have hrow : ∀ r ≤ bot, desc.geometry.start p + r * desc.geometry.pitch p +
            desc.geometry.pitch p ≤ fb.cells.length := fun r hr => by
          have hmul : r * desc.geometry.pitch p + desc.geometry.pitch p ≤
              (bot + 1) * desc.geometry.pitch p := by
            rw [← Nat.succ_mul]
            exact Nat.mul_le_mul_right _ (Nat.succ_le_succ hr)
          omega
        have hpos := (pitch_bounds h.shape hp).1
        have htopOffset := toNat_rowOffset h hp (r := top) (by have := hrow top hpair.le; omega)
        have hbotOffset := toNat_rowOffset h hp (r := bot) (by have := hrow bot le_rfl; omega)
        obtain ⟨half, hhalf⟩ := @exists_swapRows (desc.getBytesPerRow (BitVec.ofNat 16 p)) _ _ fb
          (by rw [htopOffset]; exact hrow top hpair.le) (by rw [hbotOffset]; exact hrow bot le_rfl)
        have hapart : top * desc.geometry.pitch p + desc.geometry.pitch p ≤
            bot * desc.geometry.pitch p := by
          rw [← Nat.succ_mul]
          exact Nat.mul_le_mul_right _ hpair
        obtain ⟨hlength, hcells⟩ := swapRows_spec hhalf
          (.inl (by rw [htopOffset, hbotOffset, ← geometry_pitch]; omega))
        rw [htopOffset, hbotOffset, ← geometry_pitch] at hcells
        have hnext : BitVec.ofNat 32 top + 1 = BitVec.ofNat 32 (top + 1) :=
          (BitVec.ofNat_add top 1).symm
        have hprev : BitVec.ofNat 32 bot - 1 = BitVec.ofNat 32 (bot - 1) := by
          refine BitVec.eq_of_toNat_eq ?_
          rw [BitVec.toNat_sub_of_le (by rw [BitVec.le_def, hcount bot (by omega)]; exact
            (Nat.zero_lt_of_lt hpair)), hcount bot (by omega), hcount (bot - 1) (by omega)]
          rfl
        have hinner := Nat.mul_le_mul_right (desc.geometry.pitch p)
          (show bot - 1 + 1 ≤ bot + 1 by omega)
        obtain ⟨out, hout, houtLength, houtCells⟩ := @ih (top + 1) (bot - 1) half (by omega)
          (by omega) (by omega) (by omega) (by omega)
        refine ⟨out, ?_, houtLength.trans hlength, fun i => ?_⟩
        · rw [if_pos (by rw [BitVec.lt_def, hcount top (by omega), hcount bot (by omega)]
                         exact hpair),
            getRowBuffer_eq h hp (by omega) (hrow top hpair.le) hn]
          simp only
          rw [getRowBuffer_eq h hp hbot (hrow bot le_rfl) hn]
          simp only
          rw [hhalf, Option.bind_some, hnext, hprev]
          exact hout
        · have hrows : bot - 1 + 1 - (top + 1) = bot + 1 - top - 2 := by omega
          have hlast : desc.geometry.start p + bot * desc.geometry.pitch p =
              desc.geometry.start p + top * desc.geometry.pitch p +
                (bot + 1 - top - 1) * desc.geometry.pitch p := by
            rw [Nat.add_assoc, ← Nat.add_mul]
            congr 2
            omega
          rw [houtCells, hcells, hrows, Nat.succ_mul, ← Nat.add_assoc, hlast,
            swapAt_flipAt (by omega)]
      · refine ⟨fb, if_neg ?_, rfl, fun i => ?_⟩
        · rw [BitVec.lt_def, hcount top htop, hcount bot (by omega)]
          omega
        · rw [flipAt_of_le_one (by omega)]

/-- What the loop over a plane does to the positions, by the lines of the raster. -/
def lineFlip (desc : NTV2RasterDescriptor) (p i : ℕ) : ℕ :=
  flipAt (desc.geometry.start p + desc.firstActiveLine.toNat * desc.geometry.pitch p)
    (desc.geometry.pitch p) (desc.numLines.toNat - desc.firstActiveLine.toNat) i

/-- The last line, in 32 bits. -/
lemma numLines_sub_one (h : desc.Shape) :
    desc.numLines - 1 = BitVec.ofNat 32 (desc.numLines.toNat - 1) := by
  have hlines := h.lines
  have hlt := desc.numLines.isLt
  refine BitVec.eq_of_toNat_eq ?_
  rw [BitVec.toNat_sub_of_le (by rw [BitVec.le_def]; exact hlines), BitVec.toNat_ofNat,
    Nat.mod_eq_of_lt (by omega)]
  rfl

/-- Without a pair of lines there is nothing to do. -/
lemma flipRows_of_le (h : desc.Shape) {plane : UWord} {fuel : ℕ}
    (hle : desc.numLines.toNat ≤ desc.firstActiveLine.toNat + 1) :
    desc.flipRows plane (fuel + 1) desc.firstActiveLine (desc.numLines - 1) fb = some fb := by
  have hlines := h.lines
  have hlt := desc.numLines.isLt
  rw [flipRows, if_neg]
  rw [numLines_sub_one h, BitVec.lt_def, BitVec.toNat_ofNat, Nat.mod_eq_of_lt (by omega)]
  omega

/-- **A plane from the first active line on.** -/
lemma flipPlane_spec (h : desc.Valid) (hp : p < desc.geometry.count)
    (hfit : desc.geometry.start p + desc.numLines.toNat * desc.geometry.pitch p ≤ fb.cells.length)
    (hn : fb.cells.length < 2 ^ 32) {fuel : ℕ} (hfuel : desc.numLines.toNat < fuel) :
    ∃ out, desc.flipRows (BitVec.ofNat 16 p) fuel desc.firstActiveLine (desc.numLines - 1) fb =
        some out ∧ out.cells.length = fb.cells.length ∧
      ∀ i, out.cells[i]? = fb.cells[desc.lineFlip p i]? := by
  have hlines := h.shape.lines
  rcases Nat.le_total desc.numLines.toNat desc.firstActiveLine.toNat with hle | hle
  · obtain ⟨fuel, rfl⟩ : ∃ k, fuel = k + 1 := ⟨fuel - 1, by omega⟩
    refine ⟨fb, flipRows_of_le h.shape (by omega), rfl, fun i => ?_⟩
    rw [lineFlip, flipAt_of_le_one (by omega)]
  · obtain ⟨out, hout, hlength, hcells⟩ := @flipRows_spec desc p desc.firstActiveLine.toNat
      (desc.numLines.toNat - 1) fb h hp (by omega) (by omega)
      (by rw [Nat.sub_add_cancel hlines]; exact hfit) hn fuel (by omega)
    rw [BitVec.ofNat_toNat, BitVec.setWidth_eq, ← numLines_sub_one h.shape] at hout
    rw [Nat.sub_add_cancel hlines] at hcells
    exact ⟨out, hout, hlength, hcells⟩

end Plane

/-! ### All planes -/

section Raster

variable {n fuel : ℕ} {fb : Block Byte}

lemma flipPlanes_succ : desc.flipPlanes fuel (n + 1) fb = (desc.flipPlanes fuel n fb).bind
    (desc.flipRows (BitVec.ofNat 16 n) fuel desc.firstActiveLine (desc.numLines - 1)) := by
  rw [flipPlanes, flipPlanes, List.range_succ, List.map_append, List.foldlM_append,
    Option.bind_eq_bind]
  congr 1
  funext out
  simp

/-- **The first planes**: where every byte comes from, while all their lines lie in the frame
buffer. -/
lemma flipPlanes_spec (h : desc.Valid) (hcount : n ≤ desc.geometry.count)
    (hfit : ∀ p < n, desc.geometry.start p + desc.numLines.toNat * desc.geometry.pitch p ≤
      fb.cells.length)
    (hlt : fb.cells.length < 2 ^ 32) (hfuel : desc.numLines.toNat < fuel) :
    ∃ out, desc.flipPlanes fuel n fb = some out ∧ out.cells.length = fb.cells.length ∧
      ∀ i, out.cells[i]? = fb.cells[composeUpTo desc.lineFlip n i]? := by
  induction n with
  | zero => exact ⟨fb, rfl, rfl, fun _ => rfl⟩
  | succ n ih =>
      obtain ⟨half, hhalf, hlength, hcells⟩ := ih (by omega) fun p hp => hfit p (by omega)
      obtain ⟨out, hout, houtLength, houtCells⟩ := @flipPlane_spec desc n half h hcount
        (by rw [hlength]; exact hfit n (Nat.lt_succ_self n)) (hlength ▸ hlt) fuel hfuel
      refine ⟨out, ?_, houtLength.trans hlength, fun i => ?_⟩
      · rw [flipPlanes_succ, hhalf, Option.bind_some, hout]
      · rw [houtCells, hcells, composeUpTo]

/-- A frame buffer with bytes is handed to the loops. -/
lemma flipVertically_eq (h : desc.Valid) (hfb : desc.geometry.total ≤ fb.cells.length) :
    desc.flipVertically fuel fb =
      (desc.flipPlanes fuel desc.geometry.count fb).map fun out => (true, out) := by
  have hpos : 1 ≤ desc.mNumPlanes.toNat := toNat_pos (ne_zero_of_isValid h.isValid).2.1
  have hne : fb.cells ≠ [] := by
    intro hnil
    obtain ⟨hrows, hpitch⟩ := geometry_zero (ne_zero_of_isValid h.isValid).2.1
    have hsize := Planes.end_le_total (P := desc.geometry) (p := 0) hpos
    rw [Planes.start_zero, Nat.zero_add, Planes.size, hrows, hpitch] at hsize
    rw [hnil, List.length_nil] at hfb
    have hmul := Nat.mul_pos h.shape.lines h.shape.luma
    omega
  rw [flipVertically, if_neg hne, Nat.max_eq_right hpos]
  rfl

/-- A frame buffer is flipped, and restored, where the loops reverse each plane in itself. -/
lemma flips_of_flipPlanes (h : desc.Valid) (fuel : ℕ)
    (hrun : ∀ fb : Block Byte, desc.geometry.total ≤ fb.cells.length → fb.cells.length < 2 ^ 32 →
      ∃ out, desc.flipPlanes fuel desc.geometry.count fb = some out ∧
        out.cells.length = fb.cells.length ∧ ∀ i, out.cells[i]? = fb.cells[
          composeUpTo (desc.geometry.flip desc.firstVisibleRow) desc.geometry.count i]?) :
    desc.FlipsVertically := by
  intro fb hfb hlt
  rw [toNat_getTotalBytes h] at hfb
  obtain ⟨out, hout, hlength, hcells⟩ := hrun fb hfb hlt
  obtain ⟨back, hback, -, hbackCells⟩ := hrun out (by rw [hlength]; exact hfb)
    (by rw [hlength]; exact hlt)
  refine ⟨fuel, out, back, ?_, flipped_iff.mpr ⟨hlength, hcells⟩, ?_, ?_⟩
  · rw [flipVertically_eq h hfb, hout, Option.map_some]
  · rw [flipVertically_eq h (by rw [hlength]; exact hfb), hback, Option.map_some]
  · refine List.ext_getElem? fun i => ?_
    rw [hbackCells, hcells, Planes.composeUpTo_flip_twice]

/-- **The raster is flipped** where every plane has a row for every line. -/
lemma flipsVertically_of_not_420 (h : desc.Valid) (h420 : desc.mPixelFormat.is420 = false) :
    desc.FlipsVertically := by
  have hrows : ∀ p < desc.geometry.count, desc.geometry.rows p = desc.numLines.toNat :=
    fun p hp => by rw [rows_eq h.shape hp, h420, if_neg (by simp)]
  refine flips_of_flipPlanes h (desc.numLines.toNat + 1) fun fb hfb hlt => ?_
  obtain ⟨out, hout, hlength, hcells⟩ := flipPlanes_spec h le_rfl (fun p hp => by
    rw [← hrows p hp]
    exact (Planes.end_le_total hp).trans hfb) hlt (Nat.lt_succ_self _)
  refine ⟨out, hout, hlength, fun i => ?_⟩
  rw [hcells]
  congr 1
  refine composeUpTo_congr (fun p hp j => ?_) i
  have hfirst : desc.firstVisibleRow p = desc.firstActiveLine.toNat := by
    rw [firstVisibleRow, ratio_eq h.shape hp, h420, if_neg (by simp)]
    exact Nat.div_one _
  rw [lineFlip, Planes.flip, hrows p hp, hfirst]

/-- Where one line is visible, or none, there is nothing to reverse. -/
lemma flipsVertically_of_le (h : desc.Valid)
    (hle : desc.numLines.toNat ≤ desc.firstActiveLine.toNat + 1) : desc.FlipsVertically := by
  refine flips_of_flipPlanes h 1 fun fb hfb hlt => ⟨fb, ?_, rfl, fun i => ?_⟩
  · have hsame : ∀ n, desc.flipPlanes 1 n fb = some fb := by
      intro n
      induction n with
      | zero => rfl
      | succ n ih => rw [flipPlanes_succ, ih, Option.bind_some, flipRows_of_le h.shape hle]
    exact hsame _
  · have hfix : ∀ p < desc.geometry.count, ∀ j,
        desc.geometry.flip desc.firstVisibleRow p j = (fun _ j => j) p j := by
      intro p hp j
      refine flipAt_of_le_one ?_
      rw [geometry_rows, firstVisibleRow, ratio_eq h.shape hp]
      split_ifs
      · rw [show BitVec.toNat (2 : ULWord) = 2 from rfl]
        omega
      · rw [show BitVec.toNat (1 : ULWord) = 1 from rfl]
        omega
    have hid : ∀ n j, composeUpTo (fun _ j => j) n j = j := by
      intro n
      induction n with
      | zero => exact fun _ => rfl
      | succ n ih => exact ih
    rw [composeUpTo_congr hfix, hid]

end Raster

end NTV2RasterDescriptor

end LibAjaNtv2
