import LibAjaNtv2.Lib.Block
import LibAjaNtv2.Rpc.Nub

/-!
Copying an image into the middle of a frame (`ntv2utils.cpp`).

* `copyRGBAImageToFrame`: pads where the frame is larger, crops where the image is;
* `centred`, `centredPixel`: where a pixel comes from when the two are centred on each other;
* `copyContentRows_spec`: the content loop paints whole rows of the frame;
* `copyRGBAImageToFrame_spec`: **every pixel of the frame is written once, with the pixel of the
  image that centring puts there, or zero**.
-/

namespace LibAjaNtv2

/-! ### The function -/

/-- The content loop: the left pad, a piece of a source row and the right pad. -/
def copyContentRows (pSrcBuffer : List ULWord) (srcWidth leftPad contentWidth rightPad : ULWord) :
    ℕ → ℕ → ℕ → Block ULWord → Option (ℕ × Block ULWord)
  | 0, pDst, _, dst => some (pDst, dst)
  | contentHeight + 1, pDst, pSrc, dst => do
      let dst ← dst.memset pDst 0 ((leftPad * 4).toNat / 4)
      let pDst := pDst + leftPad.toNat
      let dst ← dst.memcpy pDst pSrcBuffer pSrc ((contentWidth * 4).toNat / 4)
      let pDst := pDst + contentWidth.toNat
      let pSrc := pSrc + srcWidth.toNat
      let dst ← dst.memset pDst 0 ((rightPad * 4).toNat / 4)
      let pDst := pDst + rightPad.toNat
      copyContentRows pSrcBuffer srcWidth leftPad contentWidth rightPad contentHeight pDst pSrc dst

/-- `CopyRGBAImageToFrame`, on pixels of four bytes. -/
def copyRGBAImageToFrame (pSrcBuffer : List ULWord) (srcWidth srcHeight : ULWord)
    (pDstBuffer : Block ULWord) (dstWidth dstHeight : ULWord) : Option (Block ULWord) := do
  let topPad := if dstHeight > srcHeight then (dstHeight - srcHeight) / 2 else 0
  let bottomPad := if dstHeight > srcHeight then dstHeight - topPad - srcHeight else 0
  let pSrc := if dstHeight > srcHeight then 0 else ((srcHeight - dstHeight) / 2 * srcWidth).toNat
  let leftPad := if dstWidth > srcWidth then (dstWidth - srcWidth) / 2 else 0
  let rightPad := if dstWidth > srcWidth then dstWidth - srcWidth - leftPad else 0
  let pSrc := if dstWidth > srcWidth then pSrc else pSrc + ((srcWidth - dstWidth) / 2).toNat
  let contentHeight := dstHeight - topPad - bottomPad
  let contentWidth := dstWidth - leftPad - rightPad
  -- `memset` counts bytes, in 32 bits
  let dst ← pDstBuffer.memset 0 0 ((topPad * dstWidth * 4).toNat / 4)
  let pDst := (topPad * dstWidth).toNat
  let (pDst, dst) ← copyContentRows pSrcBuffer srcWidth leftPad contentWidth rightPad
    contentHeight.toNat pDst pSrc dst
  dst.memset pDst 0 ((bottomPad * dstWidth * 4).toNat / 4)

/-! ### What it is for -/

/-- Where the place `i` of a line of `dst` places lies on a line of `src` places centred on it. -/
def centred (src dst i : ℕ) : Option ℕ :=
  if (dst - src) / 2 ≤ i ∧ i - (dst - src) / 2 + (src - dst) / 2 < src then
    some (i - (dst - src) / 2 + (src - dst) / 2)
  else none

/-- The pixel that centring puts into a row and column of the frame, zero where there is none. -/
def centredPixel (image : List ULWord) (srcWidth srcHeight dstWidth dstHeight row col : ℕ) :
    Option ULWord :=
  match centred srcHeight dstHeight row, centred srcWidth dstWidth col with
  | some srcRow, some srcCol => image[srcRow * srcWidth + srcCol]?
  | _, _ => some 0

/-- No 32-bit product of the function overflows. -/
structure ProductsFit (srcWidth srcHeight dstWidth dstHeight : ℕ) : Prop where
  top : (dstHeight - srcHeight) / 2 * dstWidth * 4 < 2 ^ 32
  bottom : (dstHeight - srcHeight - (dstHeight - srcHeight) / 2) * dstWidth * 4 < 2 ^ 32
  crop : (srcHeight - dstHeight) / 2 * srcWidth < 2 ^ 32
  left : (dstWidth - srcWidth) / 2 * 4 < 2 ^ 32
  content : min dstWidth srcWidth * 4 < 2 ^ 32
  right : (dstWidth - srcWidth - (dstWidth - srcWidth) / 2) * 4 < 2 ^ 32

section Centred

variable {src dst i : ℕ}

lemma centred_before (h : i < (dst - src) / 2) : centred src dst i = none :=
  if_neg fun hin => absurd hin.1 (by omega)

lemma centred_content (h : i < min dst src) :
    centred src dst ((dst - src) / 2 + i) = some (i + (src - dst) / 2) := by
  rw [centred, if_pos (by omega), Nat.add_sub_cancel_left]

lemma centred_after (hlow : (dst - src) / 2 + min dst src ≤ i) (hhigh : i < dst) :
    centred src dst i = none :=
  if_neg fun hin => absurd hin.2 (by omega)

end Centred

/-! ### The content rows -/

section Rows

variable {image : List ULWord} {srcWidth leftPad contentWidth rightPad : ULWord}
  {sW sH dW dH : ℕ} {b₀ b : Block ULWord}

/-- The pixels of the frame as one line. -/
def centredLine (image : List ULWord) (sW sH dW dH i : ℕ) : Option ULWord :=
  centredPixel image sW sH dW dH (i / dW) (i % dW)

lemma centredLine_eq {row col : ℕ} (hcol : col < dW) :
    centredLine image sW sH dW dH (row * dW + col) = centredPixel image sW sH dW dH row col := by
  rw [centredLine, Nat.mul_comm, Nat.mul_add_div (by omega), Nat.div_eq_of_lt hcol,
    Nat.mul_add_mod, Nat.mod_eq_of_lt hcol, Nat.add_zero]

/-- A row of zeros above or below the content, or a part of one beside it. -/
lemma centredLine_pad {row col : ℕ} (hcol : col < dW)
    (hpad : centred sH dH row = none ∨ centred sW dW col = none) :
    centredLine image sW sH dW dH (row * dW + col) = some 0 := by
  rw [centredLine_eq hcol, centredPixel]
  rcases hpad with hpad | hpad
  · rw [hpad]
  · rw [hpad]
    cases centred sH dH row <;> rfl

/-- Zeros painted beside the content or above it. -/
lemma painted_pad (row col n : ℕ) (h : Block.Painted (centredLine image sW sH dW dH) b₀ b
      (row * dW + col)) (hsize : row * dW + col + n ≤ b₀.cells.length) (hn : col + n ≤ dW)
    (hpad : ∀ c < n, centred sW dW (col + c) = none) :
    ∃ out, b.memset (row * dW + col) 0 n = some out ∧
      Block.Painted (centredLine image sW sH dW dH) b₀ out (row * dW + (col + n)) := by
  rw [← Nat.add_assoc]
  refine h.move [] rfl (.inr hsize) fun i hlow hhigh => ?_
  have hi : i = row * dW + (col + (i - (row * dW + col))) := by omega
  simp only [Move.len] at hhigh
  rw [hi, centredLine_pad (by omega) (.inr (hpad _ (by omega)))]
  rfl

/-- Rows of zeros painted above or below the content. -/
lemma painted_padRows (row n : ℕ)
    (h : Block.Painted (centredLine image sW sH dW dH) b₀ b (row * dW))
    (hsize : (row + n) * dW ≤ b₀.cells.length) (hpad : ∀ r < n, centred sH dH (row + r) = none) :
    ∃ out, b.memset (row * dW) 0 (n * dW) = some out ∧
      Block.Painted (centredLine image sW sH dW dH) b₀ out ((row + n) * dW) := by
  rw [Nat.add_mul] at hsize ⊢
  refine h.move [] rfl (.inr hsize) fun i hlow hhigh => ?_
  obtain ⟨k, rfl⟩ := Nat.exists_eq_add_of_le hlow
  simp only [Move.len] at hhigh
  have hdW : 0 < dW := Nat.pos_of_ne_zero fun hzero => by
    rw [hzero] at hhigh
    omega
  have hrow : k / dW < n := (Nat.div_lt_iff_lt_mul hdW).mpr (by omega)
  have hi : row * dW + k = (row + k / dW) * dW + k % dW := by
    have hdiv := Nat.div_add_mod k dW
    rw [Nat.mul_comm] at hdiv
    rw [Nat.add_mul]
    omega
  rw [hi, centredLine_pad (Nat.mod_lt k hdW) (.inl (hpad _ hrow))]
  rfl

/-- A piece of a row of the image painted between the pads. -/
lemma painted_content {row : ℕ} (h : Block.Painted (centredLine image sW sH dW dH) b₀ b
      (((dH - sH) / 2 + row) * dW + (dW - sW) / 2)) (hrow : row < min dH sH)
    (himage : image.length = sW * sH) (hb : b₀.cells.length = dW * dH) :
    ∃ out, b.memcpy (((dH - sH) / 2 + row) * dW + (dW - sW) / 2) image
        ((sH - dH) / 2 * sW + (sW - dW) / 2 + row * sW) (min dW sW) = some out ∧
      Block.Painted (centredLine image sW sH dW dH) b₀ out
        (((dH - sH) / 2 + row) * dW + ((dW - sW) / 2 + min dW sW)) := by
  have hsrc : ((sH - dH) / 2 + row + 1) * sW ≤ sH * sW := Nat.mul_le_mul_right sW (by omega)
  have hdst : ((dH - sH) / 2 + row + 1) * dW ≤ dH * dW := Nat.mul_le_mul_right dW (by omega)
  rw [Nat.add_mul, Nat.add_mul, Nat.one_mul] at hsrc
  rw [Nat.add_mul _ 1, Nat.one_mul] at hdst
  rw [← Nat.add_assoc]
  refine h.move image rfl (.inr ⟨?_, ?_⟩) fun i hlow hhigh => ?_
  · rw [himage, Nat.mul_comm sW]
    omega
  · rw [hb, Nat.mul_comm dW dH]
    omega
  · obtain ⟨col, rfl⟩ := Nat.exists_eq_add_of_le hlow
    simp only [Move.len] at hhigh
    have hcol : col < min dW sW := by omega
    have hplace := @centredLine_eq image sW sH dW dH ((dH - sH) / 2 + row)
      ((dW - sW) / 2 + col) (by omega)
    rw [centredPixel, centred_content hrow, centred_content hcol, ← Nat.add_assoc] at hplace
    rw [Move.value, Nat.add_sub_cancel_left, hplace]
    congr 1
    ring

/-- **The content loop paints whole rows**, from the one it is at to the last one. -/
lemma copyContentRows_spec (himage : image.length = sW * sH) (hb : b₀.cells.length = dW * dH)
    (hsrcWidth : srcWidth.toNat = sW) (hleft : leftPad.toNat = (dW - sW) / 2)
    (hcontent : contentWidth.toNat = min dW sW)
    (hright : rightPad.toNat = dW - sW - (dW - sW) / 2)
    (hleft4 : (leftPad * 4).toNat / 4 = leftPad.toNat)
    (hcontent4 : (contentWidth * 4).toNat / 4 = contentWidth.toNat)
    (hright4 : (rightPad * 4).toNat / 4 = rightPad.toNat) (rows row : ℕ)
    (hrows : row + rows = min dH sH)
    (h : Block.Painted (centredLine image sW sH dW dH) b₀ b (((dH - sH) / 2 + row) * dW)) :
    ∃ out, copyContentRows image srcWidth leftPad contentWidth rightPad rows
        (((dH - sH) / 2 + row) * dW) ((sH - dH) / 2 * sW + (sW - dW) / 2 + row * sW) b =
          some (((dH - sH) / 2 + min dH sH) * dW, out) ∧
      Block.Painted (centredLine image sW sH dW dH) b₀ out
        (((dH - sH) / 2 + min dH sH) * dW) := by
  induction rows generalizing row b with
  | zero =>
      cases show row = min dH sH by omega
      exact ⟨b, rfl, h⟩
  | succ rows ih =>
      have hdst : ((dH - sH) / 2 + row + 1) * dW ≤ dH * dW := Nat.mul_le_mul_right dW (by omega)
      rw [Nat.add_mul _ 1, Nat.one_mul] at hdst
      rw [Nat.mul_comm dW dH] at hb
      obtain ⟨b₁, hb₁, h₁⟩ := painted_pad ((dH - sH) / 2 + row) 0 ((dW - sW) / 2) h (by omega)
          (by omega) fun c hc => by
          rw [Nat.zero_add]
          exact centred_before hc
      rw [Nat.zero_add] at h₁
      obtain ⟨b₂, hb₂, h₂⟩ := painted_content h₁ (by omega) himage (by rwa [Nat.mul_comm dW dH])
      obtain ⟨b₃, hb₃, h₃⟩ := painted_pad ((dH - sH) / 2 + row) ((dW - sW) / 2 + min dW sW)
        (dW - sW - (dW - sW) / 2) h₂ (by omega) (by omega) fun c hc => centred_after (by omega) (by omega)
      have hnext : ((dH - sH) / 2 + row) * dW + ((dW - sW) / 2 + min dW sW +
          (dW - sW - (dW - sW) / 2)) = ((dH - sH) / 2 + (row + 1)) * dW := by
        rw [← Nat.add_assoc _ row 1, Nat.add_mul _ 1, Nat.one_mul]
        omega
      rw [hnext] at h₃
      obtain ⟨out, hout, hpainted⟩ := ih (row + 1) (by omega) h₃
      refine ⟨out, ?_, hpainted⟩
      rw [Nat.add_zero] at hb₁
      have hsrcNext : (sH - dH) / 2 * sW + (sW - dW) / 2 + row * sW + sW =
          (sH - dH) / 2 * sW + (sW - dW) / 2 + (row + 1) * sW := by ring
      simp only [copyContentRows, hleft4, hcontent4, hright4, hleft, hcontent, hright, hsrcWidth,
        hb₁, hb₂, Option.bind_eq_bind, Option.bind_some]
      rw [Nat.add_assoc _ _ (min dW sW), hb₃, Option.bind_some, Nat.add_assoc _ _ (_ - _), hnext,
        hsrcNext]
      exact hout

end Rows

/-! ### The whole frame -/

section Frame

variable {image : List ULWord} {srcWidth srcHeight dstWidth dstHeight : ULWord}
  {frame : Block ULWord}

lemma toNat_mul_four_div {x : ULWord} {n : ℕ} (hx : x.toNat = n) (h : n * 4 < 2 ^ 32) :
    (x * 4).toNat / 4 = n := by
  rw [BitVec.toNat_mul, hx, show (4 : ULWord).toNat = 4 from rfl, Nat.mod_eq_of_lt h,
    Nat.mul_div_cancel _ (by omega)]

/-- The pads of one dimension and what is left between them. -/
lemma toNat_pads {src dst pad far : ULWord} (hpad : pad = if dst > src then (dst - src) / 2 else 0)
    (hfar : far = if dst > src then dst - src - pad else 0) :
    pad.toNat = (dst.toNat - src.toNat) / 2 ∧
      far.toNat = dst.toNat - src.toNat - (dst.toNat - src.toNat) / 2 ∧
      (dst - pad - far).toNat = min dst.toNat src.toNat := by
  by_cases hlt : dst > src
  · rw [if_pos hlt] at hpad hfar
    rw [gt_iff_lt, BitVec.lt_def] at hlt
    have hdiff : (dst - src).toNat = dst.toNat - src.toNat := by bv_omega
    have hpad' : pad.toNat = (dst.toNat - src.toNat) / 2 := by
      rw [hpad, BitVec.toNat_udiv, hdiff]
      rfl
    have hfar' : far.toNat = dst.toNat - src.toNat - (dst.toNat - src.toNat) / 2 := by
      rw [hfar]
      bv_omega
    exact ⟨hpad', hfar', by bv_omega⟩
  · rw [if_neg hlt] at hpad hfar
    rw [gt_iff_lt, BitVec.lt_def] at hlt
    subst hpad hfar
    refine ⟨?_, ?_, ?_⟩
    · rw [show (0 : ULWord).toNat = 0 from rfl]
      omega
    · rw [show (0 : ULWord).toNat = 0 from rfl]
      omega
    · rw [show dst - 0 - 0 = dst by simp]
      omega

/-- Where the content starts in the source. -/
lemma contentStart {pSrc₀ pSrc : ℕ}
    (hcrop : (srcHeight.toNat - dstHeight.toNat) / 2 * srcWidth.toNat < 2 ^ 32)
    (hpSrc₀ : pSrc₀ = if dstHeight > srcHeight then 0
      else ((srcHeight - dstHeight) / 2 * srcWidth).toNat)
    (hpSrc : pSrc = if dstWidth > srcWidth then pSrc₀
      else pSrc₀ + ((srcWidth - dstWidth) / 2).toNat) :
    pSrc = (srcHeight.toNat - dstHeight.toNat) / 2 * srcWidth.toNat +
      (srcWidth.toNat - dstWidth.toNat) / 2 := by
  have hhalf : ∀ x y : ULWord, ¬ y > x → ((x - y) / 2).toNat = (x.toNat - y.toNat) / 2 := by
    intro x y hle
    rw [gt_iff_lt, BitVec.lt_def] at hle
    rw [BitVec.toNat_udiv, show (x - y).toNat = x.toNat - y.toNat by bv_omega]
    rfl
  have hrows : pSrc₀ = (srcHeight.toNat - dstHeight.toNat) / 2 * srcWidth.toNat := by
    by_cases hlt : dstHeight > srcHeight
    · rw [hpSrc₀, if_pos hlt]
      rw [gt_iff_lt, BitVec.lt_def] at hlt
      rw [show (srcHeight.toNat - dstHeight.toNat) / 2 = 0 by omega, Nat.zero_mul]
    · rw [hpSrc₀, if_neg hlt, BitVec.toNat_mul, hhalf _ _ hlt, Nat.mod_eq_of_lt hcrop]
  by_cases hlt : dstWidth > srcWidth
  · rw [hpSrc, if_pos hlt, hrows]
    rw [gt_iff_lt, BitVec.lt_def] at hlt
    omega
  · rw [hpSrc, if_neg hlt, hrows, hhalf _ _ hlt]

/-- **The image is centred in the frame**: each pixel of the frame is written once and holds the
pixel of the image that centring puts there, or zero, and nothing outside the two is touched. -/
theorem copyRGBAImageToFrame_spec
    (hfit : ProductsFit srcWidth.toNat srcHeight.toNat dstWidth.toNat dstHeight.toNat)
    (himage : image.length = srcWidth.toNat * srcHeight.toNat)
    (hframe : frame.cells.length = dstWidth.toNat * dstHeight.toNat) :
    ∃ out, copyRGBAImageToFrame image srcWidth srcHeight frame dstWidth dstHeight = some out ∧
      out.cells.length = frame.cells.length ∧
      ∀ row < dstHeight.toNat, ∀ col < dstWidth.toNat,
        out.writes (row * dstWidth.toNat + col) =
          frame.writes (row * dstWidth.toNat + col) + 1 ∧
        out.cells[row * dstWidth.toNat + col]? = centredPixel image srcWidth.toNat
          srcHeight.toNat dstWidth.toNat dstHeight.toNat row col := by
  obtain ⟨topPad, htopPad⟩ : ∃ p, p = if dstHeight > srcHeight then (dstHeight - srcHeight) / 2
    else 0 := ⟨_, rfl⟩
  obtain ⟨bottomPad, hbottomPad⟩ : ∃ p, p = if dstHeight > srcHeight
    then dstHeight - topPad - srcHeight else 0 := ⟨_, rfl⟩
  obtain ⟨leftPad, hleftPad⟩ : ∃ p, p = if dstWidth > srcWidth then (dstWidth - srcWidth) / 2
    else 0 := ⟨_, rfl⟩
  obtain ⟨rightPad, hrightPad⟩ : ∃ p, p = if dstWidth > srcWidth
    then dstWidth - srcWidth - leftPad else 0 := ⟨_, rfl⟩
  obtain ⟨pSrc₀, hpSrc₀⟩ : ∃ p, p = if dstHeight > srcHeight then 0
    else ((srcHeight - dstHeight) / 2 * srcWidth).toNat := ⟨_, rfl⟩
  obtain ⟨pSrc, hpSrc⟩ : ∃ p, p = if dstWidth > srcWidth then pSrc₀
    else pSrc₀ + ((srcWidth - dstWidth) / 2).toNat := ⟨_, rfl⟩
  have hcode : copyRGBAImageToFrame image srcWidth srcHeight frame dstWidth dstHeight =
      (frame.memset 0 0 ((topPad * dstWidth * 4).toNat / 4)).bind fun dst =>
        (copyContentRows image srcWidth leftPad (dstWidth - leftPad - rightPad) rightPad
          (dstHeight - topPad - bottomPad).toNat (topPad * dstWidth).toNat pSrc dst).bind
          fun p => p.2.memset p.1 0 ((bottomPad * dstWidth * 4).toNat / 4) := by
    subst htopPad hbottomPad hleftPad hrightPad hpSrc₀ hpSrc
    rfl
  have hstart := contentStart hfit.crop hpSrc₀ hpSrc
  have hcomm : dstHeight - topPad - srcHeight = dstHeight - srcHeight - topPad := by bv_omega
  obtain ⟨hleft, hright, hwidth⟩ := toNat_pads hleftPad hrightPad
  obtain ⟨htop, hbottom, hheight⟩ := toNat_pads htopPad (hcomm ▸ hbottomPad)
  generalize dstWidth - leftPad - rightPad = contentWidth at *
  clear hcomm htopPad hbottomPad hleftPad hrightPad hpSrc₀ hpSrc
  have htopRows : (topPad * dstWidth).toNat =
      (dstHeight.toNat - srcHeight.toNat) / 2 * dstWidth.toNat := by
    have hfits := hfit.top
    rw [BitVec.toNat_mul, htop, Nat.mod_eq_of_lt (by omega)]
  have hbottomRows : (bottomPad * dstWidth).toNat = (dstHeight.toNat - srcHeight.toNat -
      (dstHeight.toNat - srcHeight.toNat) / 2) * dstWidth.toNat := by
    have hfits := hfit.bottom
    rw [BitVec.toNat_mul, hbottom, Nat.mod_eq_of_lt (by omega)]
  have hsize : ∀ n ≤ dstHeight.toNat, n * dstWidth.toNat ≤ frame.cells.length := by
    intro n hn
    rw [hframe, Nat.mul_comm dstWidth.toNat]
    exact Nat.mul_le_mul_right _ hn
  -- above the content, the content, and below it
  have hpaint₀ := @Block.Painted.refl _
    (centredLine image srcWidth.toNat srcHeight.toNat dstWidth.toNat dstHeight.toNat) frame
  rw [← Nat.zero_mul dstWidth.toNat] at hpaint₀
  obtain ⟨b₁, hb₁, hpaint₁⟩ := painted_padRows 0
    ((dstHeight.toNat - srcHeight.toNat) / 2) hpaint₀ (hsize _ (by omega)) fun r hr => by
      rw [Nat.zero_add]
      exact centred_before hr
  obtain ⟨b₂, hb₂, hpaint₂⟩ := copyContentRows_spec himage hframe rfl hleft hwidth
    hright (by rw [toNat_mul_four_div hleft hfit.left, hleft])
    (by rw [toNat_mul_four_div hwidth hfit.content, hwidth])
    (by rw [toNat_mul_four_div hright hfit.right, hright]) _ 0 (Nat.zero_add _)
    (by rwa [Nat.zero_add] at hpaint₁)
  obtain ⟨b₃, hb₃, hpaint₃⟩ := painted_padRows _ (dstHeight.toNat - srcHeight.toNat -
    (dstHeight.toNat - srcHeight.toNat) / 2) hpaint₂ (hsize _ (by omega)) fun r hr =>
      centred_after (by omega) (by omega)
  rw [Nat.zero_mul, Nat.add_zero, Nat.add_zero] at hb₂
  refine ⟨b₃, ?_, hpaint₃.length_eq, fun row hrow col hcol => ?_⟩
  · rw [hcode, toNat_mul_four_div htopRows hfit.top, toNat_mul_four_div hbottomRows hfit.bottom,
      htopRows, hheight, hstart]
    rw [Nat.zero_mul] at hb₁
    rw [hb₁, Option.bind_some, hb₂, Option.bind_some, hb₃]
  · have hcell : row * dstWidth.toNat + col < ((dstHeight.toNat - srcHeight.toNat) / 2 +
        min dstHeight.toNat srcHeight.toNat + (dstHeight.toNat - srcHeight.toNat -
          (dstHeight.toNat - srcHeight.toNat) / 2)) * dstWidth.toNat := by
      have hle := Nat.mul_le_mul_right dstWidth.toNat hrow
      rw [Nat.succ_eq_add_one, Nat.add_mul, Nat.one_mul] at hle
      rw [show (dstHeight.toNat - srcHeight.toNat) / 2 + min dstHeight.toNat srcHeight.toNat +
        (dstHeight.toNat - srcHeight.toNat - (dstHeight.toNat - srcHeight.toNat) / 2) =
          dstHeight.toNat by omega]
      omega
    refine ⟨hpaint₃.writes_eq _ hcell, ?_⟩
    rw [hpaint₃.cells_eq _ hcell, centredLine_eq hcol]

/-- A frame of three pixels around and beside an image of one row of two. -/
theorem copyRGBAImageToFrame_spec_small :
    ∃ out, copyRGBAImageToFrame [7, 8] 2 1 ⟨[1, 1, 1], []⟩ 1 3 = some out ∧
      out.cells.length = 3 ∧ ∀ row < 3, ∀ col < 1, out.writes (row * 1 + col) = 1 ∧
        out.cells[row * 1 + col]? = centredPixel [7, 8] 2 1 1 3 row col :=
  copyRGBAImageToFrame_spec ⟨by decide, by decide, by decide, by decide, by decide, by decide⟩
    (by decide) (by decide)

end Frame

end LibAjaNtv2
