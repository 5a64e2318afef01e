import LibAjaNtv2.Lib.Masked
import LibAjaNtv2.Pixels.Line
import LibAjaNtv2.Raster.Format

/-!
Packing a line of 10-bit ARGB pixels into five bytes each, and unpacking it
(`ntv2transcode.cpp`, `ntv2utils.cpp`).

* `packRGB10BitFor10BitARGBPacked`: five bytes a pixel, written over the line;
* `unpackLine10BitARGBtoUWordSequence`: the components of a line;
* `argbComponents_argbBytes`: the five bytes of a pixel hold its components;
* `argb_line_iff`: **the packed line holds every pixel while its bytes fit 32 bits, and the
  unpacker stays in its line exactly when a line has as many words as pixels**, which no
  descriptor of the library has.
-/

namespace LibAjaNtv2

/-! ### The functions -/

/-- The five bytes that `PackRGB10BitFor10BitARGBPacked` writes for a pixel. -/
def argbBytes (px : RGBAlpha10BitPixel) : List Byte :=
  let Red : ULWord := px.Red.setWidth 32
  let Green : ULWord := px.Green.setWidth 32
  let Blue : ULWord := px.Blue.setWidth 32
  let Alpha : ULWord := px.Alpha.setWidth 32
  [(Blue &&& 0xFF#32).setWidth 8,
    (((Blue >>> 8) &&& 0x03#32) ||| ((Green &&& 0x3F#32) <<< 2)).setWidth 8,
    (((Green >>> 6) &&& 0x0F#32) ||| ((Red &&& 0x0F#32) <<< 4)).setWidth 8,
    (((Red >>> 4) &&& 0x3F#32) ||| ((Alpha &&& 0x03#32) <<< 6)).setWidth 8,
    ((Alpha >>> 2) &&& 0xFF#32).setWidth 8]

/-- `pOutputBuffer [iByte++] = ..`, for one byte after the other. -/
def storeEach (pOutputBuffer : Block Byte) (iByte : ULWord) :
    List Byte → Option (Block Byte × ULWord)
  | [] => some (pOutputBuffer, iByte)
  | v :: vs => do
      let pOutputBuffer ← pOutputBuffer.store iByte.toNat [v]
      storeEach pOutputBuffer (iByte + 1) vs

/-- The loop of `PackRGB10BitFor10BitARGBPacked`, from a pixel on. -/
def packARGBLoop (host : Host) : ℕ → ℕ → Block Byte → ULWord → Option (Block Byte)
  | 0, _, pBuffer, _ => some pBuffer
  | rounds + 1, pixel, pBuffer, iByte => do
      let px ← readPixel host pBuffer.cells pixel
      let (pBuffer, iByte) ← storeEach pBuffer iByte (argbBytes px)
      packARGBLoop host rounds (pixel + 1) pBuffer iByte

/-- `PackRGB10BitFor10BitARGBPacked`: the bytes are written over the pixels. -/
def packRGB10BitFor10BitARGBPacked (host : Host) (pBuffer : Block Byte) (inNumPixels : ULWord) :
    Option (Block Byte) :=
  packARGBLoop host inNumPixels.toNat 0 pBuffer 0

/-- The blue, green, red and alpha that `UnpackLine_10BitARGBtoUWordSequence` takes from five
bytes; there are none where the line ends before. -/
def argbComponents : List Byte → Option (List UWord)
  | p0 :: p1 :: p2 :: p3 :: p4 :: _ => some [
      ((p1 &&& 0x03#8).setWidth 16 <<< 8) ||| ((p0 &&& 0xFF#8).setWidth 16 >>> 0),
      ((p2 &&& 0x0F#8).setWidth 16 <<< 6) ||| ((p1 &&& 0xFC#8).setWidth 16 >>> 2),
      ((p3 &&& 0x3F#8).setWidth 16 <<< 4) ||| ((p2 &&& 0xF0#8).setWidth 16 >>> 4),
      ((p4 &&& 0xFF#8).setWidth 16 <<< 2) ||| ((p3 &&& 0xC0#8).setWidth 16 >>> 6)]
  | _ => none

/-- The loop of `UnpackLine_10BitARGBtoUWordSequence`, at a place of the line. -/
def unpackARGBLoop : ℕ → List Byte → List UWord → Option (List UWord)
  | 0, _, out16BitARGBLine => some out16BitARGBLine
  | rounds + 1, pInputLine, out16BitARGBLine => do
      let components ← argbComponents pInputLine
      unpackARGBLoop rounds (pInputLine.drop 5) (out16BitARGBLine ++ components)

/-- `UnpackLine_10BitARGBtoUWordSequence`: what it returns and the components, unless it reads
past the end of the line. -/
def unpackLine10BitARGBtoUWordSequence (pIn10BitARGBLine : Option (List Byte))
    (inFormatDesc : NTV2FormatDescriptor) : Option (Bool × List UWord) :=
  match pIn10BitARGBLine with
  | none => some (false, [])
  | some pInputLine =>
      if inFormatDesc.isValid = false then some (false, [])
      else if inFormatDesc.getRasterWidth < 1 then some (false, [])
      else if inFormatDesc.mPixelFormat ≠ .NTV2_FBF_10BIT_ARGB then some (false, [])
      else (unpackARGBLoop inFormatDesc.linePitch.toNat pInputLine []).map fun out => (true, out)

/-! ### One pixel -/

/-- Two parts of a byte, put together in a word. -/
lemma toNat_byte_join {a b : ULWord} {x y : ℕ} (k len : ℕ) (ha : a.toNat = x) (hb : b.toNat = y)
    (hx : x < 2 ^ k) (hy : y < 2 ^ len) (hfit : len + k = 8) :
    ((a ||| b <<< k).setWidth 8).toNat = x + y * 2 ^ k := by
  subst ha hb
  have hor := (BitField.toNat_or_shiftLeft k len hx hy (by omega)).1
  have hlt : b.toNat * 2 ^ k + 2 ^ k ≤ 2 ^ 8 := by
    calc b.toNat * 2 ^ k + 2 ^ k = (b.toNat + 1) * 2 ^ k := by ring
      _ ≤ 2 ^ len * 2 ^ k := Nat.mul_le_mul_right _ hy
      _ = 2 ^ 8 := by rw [← Nat.pow_add, hfit]
  rw [BitVec.toNat_setWidth, hor, Nat.mod_eq_of_lt (by omega)]

/-- The five bytes as numbers. -/
lemma argbBytes_eq {px : RGBAlpha10BitPixel} (hten : px.IsTenBit) :
    ∃ b0 b1 b2 b3 b4, argbBytes px = [b0, b1, b2, b3, b4] ∧
      b0.toNat = px.Blue.toNat % 256 ∧
      b1.toNat = px.Blue.toNat / 256 + px.Green.toNat % 64 * 4 ∧
      b2.toNat = px.Green.toNat / 64 + px.Red.toNat % 16 * 16 ∧
      b3.toNat = px.Red.toNat / 16 + px.Alpha.toNat % 4 * 64 ∧
      b4.toNat = px.Alpha.toNat / 4 := by
  obtain ⟨hblue, hgreen, hred, halpha⟩ := hten
  have hlow : ∀ (v : UWord) (mask : ULWord) (len : ℕ), mask.toNat = 2 ^ len - 1 →
      (v.setWidth 32 &&& mask).toNat = v.toNat % 2 ^ len := by
    intro v mask len hmask
    rw [BitField.toNat_and_low _ _ len hmask, BitVec.toNat_setWidth]
    have hv := v.isLt
    rw [Nat.mod_eq_of_lt (by omega : v.toNat < 2 ^ 32)]
  have hhigh : ∀ (v : UWord) (mask : ULWord) (s len : ℕ), mask.toNat = 2 ^ len - 1 →
      ((v.setWidth 32 >>> s) &&& mask).toNat = v.toNat / 2 ^ s % 2 ^ len := by
    intro v mask s len hmask
    rw [BitField.toNat_and_low _ _ len hmask, BitVec.toNat_ushiftRight, Nat.shiftRight_eq_div_pow,
      BitVec.toNat_setWidth]
    have hv := v.isLt
    rw [Nat.mod_eq_of_lt (by omega : v.toNat < 2 ^ 32)]
  refine ⟨_, _, _, _, _, rfl, ?_, ?_, ?_, ?_, ?_⟩
  · rw [BitVec.toNat_setWidth, hlow px.Blue _ 8 rfl]
    omega
  · rw [toNat_byte_join 2 6 (hhigh px.Blue _ 8 2 rfl) (hlow px.Green _ 6 rfl) (by omega)
      (by omega) rfl]
    omega
  · rw [toNat_byte_join 4 4 (hhigh px.Green _ 6 4 rfl) (hlow px.Red _ 4 rfl) (by omega)
      (by omega) rfl]
    omega
  · rw [toNat_byte_join 6 2 (hhigh px.Red _ 4 6 rfl) (hlow px.Alpha _ 2 rfl) (by omega)
      (by omega) rfl]
    omega
  · rw [BitVec.toNat_setWidth, hhigh px.Alpha _ 2 8 rfl]
    omega

/-- A component from the low bits of one byte and the high bits of the byte before. -/
lemma toNat_component {p q mask mask' : Byte} (k len drop : ℕ) (hmask : mask.toNat = 2 ^ len - 1)
    (hmask' : mask'.toNat = (2 ^ k - 1) * 2 ^ drop) (hbyte : k + drop = 8) (hlen : len + k = 10) :
    (((p &&& mask).setWidth 16 <<< k) ||| ((q &&& mask').setWidth 16 >>> drop)).toNat =
      q.toNat / 2 ^ drop + p.toNat % 2 ^ len * 2 ^ k := by
  have hq' : q.toNat / 2 ^ drop < 2 ^ k := by
    refine Nat.div_lt_of_lt_mul ?_
    rw [← Nat.pow_add, Nat.add_comm, hbyte]
    exact q.isLt
  have hp : ((p &&& mask).setWidth 16).toNat = p.toNat % 2 ^ len := by
    have hlt := (p &&& mask).isLt
    rw [BitVec.toNat_setWidth, Nat.mod_eq_of_lt (by omega), BitField.toNat_and_low _ _ len hmask]
  have hq : ((q &&& mask').setWidth 16 >>> drop).toNat = q.toNat / 2 ^ drop := by
    have hlt := (q &&& mask').isLt
    rw [BitVec.toNat_ushiftRight, Nat.shiftRight_eq_div_pow, BitVec.toNat_setWidth,
      Nat.mod_eq_of_lt (by omega), BitField.toNat_and_mask _ _ drop k hmask',
      Nat.mul_div_cancel _ (Nat.two_pow_pos drop), Nat.mod_eq_of_lt hq']
  rw [(BitField.toNat_or_shiftLeft k len (by rw [hq]; exact hq')
    (by rw [hp]; exact Nat.mod_lt _ (Nat.two_pow_pos len)) (by omega)).2, hp, hq]

/-- **The five bytes of a pixel hold its components.** -/
lemma argbComponents_argbBytes {px : RGBAlpha10BitPixel} (hten : px.IsTenBit) (rest : List Byte) :
    argbComponents (argbBytes px ++ rest) = some [px.Blue, px.Green, px.Red, px.Alpha] := by
  obtain ⟨b0, b1, b2, b3, b4, hbytes, h0, h1, h2, h3, h4⟩ := argbBytes_eq hten
  obtain ⟨hblue, hgreen, hred, halpha⟩ := hten
  rw [hbytes]
  simp only [List.cons_append, argbComponents, Option.some.injEq, List.cons.injEq, and_true]
  refine ⟨?_, ?_, ?_, ?_⟩ <;> refine BitVec.eq_of_toNat_eq ?_
  · rw [toNat_component 8 2 0 rfl rfl rfl rfl]
    omega
  · rw [toNat_component 6 4 2 rfl rfl rfl rfl]
    omega
  · rw [toNat_component 4 6 4 rfl rfl rfl rfl]
    omega
  · rw [toNat_component 2 8 6 rfl rfl rfl rfl]
    omega

/-! ### Storing byte by byte -/

section Each

variable {b out : Block Byte} {iByte : ULWord} {data : List Byte}

/-- While the index does not wrap, the bytes land one after the other. -/
lemma storeEach_spec {d : ℕ} (hd : data = [] ∨ iByte.toNat = d) (hfits : d + data.length ≤ 2 ^ 32)
    (hroom : d + data.length ≤ b.cells.length) :
    ∃ out, storeEach b iByte data = some (out, iByte + BitVec.ofNat 32 data.length) ∧
      out.cells.length = b.cells.length ∧ ∀ i, out.cells[i]? =
        if d ≤ i ∧ i < d + data.length then data[i - d]? else b.cells[i]? := by
  induction data generalizing b iByte d with
  | nil =>
      refine ⟨b, by simp [storeEach], rfl, fun i => ?_⟩
      rw [if_neg (by simp only [List.length_nil]; omega)]
  | cons v vs ih =>
      rw [List.length_cons] at hfits hroom
      have hindex : iByte.toNat = d := hd.resolve_left (List.cons_ne_nil v vs)
      obtain ⟨mid, hmid⟩ := @Block.exists_store _ b iByte.toNat [v] (by
        rw [List.length_singleton]
        omega)
      have hnext : vs = [] ∨ (iByte + 1).toNat = d + 1 := by
        cases vs with
        | nil => exact .inl rfl
        | cons v' vs =>
            rw [List.length_cons] at hfits
            refine .inr ?_
            rw [BitVec.toNat_add, hindex, show (1 : ULWord).toNat = 1 from rfl]
            omega
      obtain ⟨out, hout, hlength, hcells⟩ := @ih mid (iByte + 1) (d + 1) hnext (by omega) (by
        rw [Block.length_move hmid]
        omega)
      refine ⟨out, ?_, by rw [hlength, Block.length_move hmid], fun i => ?_⟩
      · rw [storeEach, hmid, Option.bind_eq_bind, Option.bind_some, hout, List.length_cons,
          Nat.add_comm, BitVec.ofNat_add, ← BitVec.add_assoc]
        rfl
      · rw [hcells i, Block.getElem?_store hmid, hindex, List.length_singleton, List.length_cons]
        rcases Nat.lt_trichotomy i d with hlt | rfl | hgt
        · rw [if_neg (by omega), if_neg (by omega), if_neg (by omega)]
        · rw [if_neg (by omega), if_pos (by omega), if_pos (by omega), Nat.sub_self]
          rfl
        · by_cases hin : i < d + (vs.length + 1)
          · rw [if_pos (by omega), if_pos (by omega), show i - d = i - (d + 1) + 1 by omega,
              List.getElem?_cons_succ]
          · rw [if_neg (by omega), if_neg (by omega), if_neg (by omega)]

/-- No byte is stored past 4 GiB. -/
lemma getElem?_storeEach {next : ULWord} (h : storeEach b iByte data = some (out, next)) {i : ℕ}
    (hi : 2 ^ 32 ≤ i) : out.cells[i]? = b.cells[i]? := by
  induction data generalizing b iByte with
  | nil =>
      cases h
      rfl
  | cons v vs ih =>
      obtain ⟨mid, hmid, hrest⟩ := Option.bind_eq_some_iff.mp h
      rw [ih hrest, Block.getElem?_move_of_not_covers hmid]
      rintro ⟨-, hlt⟩
      have hindex := iByte.isLt
      simp only [Move.dst, Move.len, List.length_singleton] at hlt
      omega

end Each

/-! ### A line -/

section Line

variable {host : Host} {pixels : List RGBAlpha10BitPixel}

@[simp] lemma length_argbBytes (px : RGBAlpha10BitPixel) : (argbBytes px).length = 5 := rfl

/-- **The packer** leaves the five bytes of each pixel at the start of the line. -/
lemma packARGBLoop_spec (hfits : 5 * pixels.length ≤ 2 ^ 32) {rounds pixel : ℕ} {b : Block Byte}
    (hrounds : pixel + rounds = pixels.length) (h : Packing host pixels 5 argbBytes pixel b) :
    ∃ out, packARGBLoop host rounds pixel b (BitVec.ofNat 32 (5 * pixel)) = some out ∧
      Packing host pixels 5 argbBytes pixels.length out := by
  induction rounds generalizing pixel b with
  | zero =>
      cases show pixel = pixels.length by omega
      exact ⟨b, rfl, h⟩
  | succ rounds ih =>
      have hlt : pixel < pixels.length := by omega
      have hpx : pixels[pixel]? = some pixels[pixel] := List.getElem?_eq_getElem hlt
      have hlength := h.length_eq
      have hroom : 5 * pixel + (argbBytes pixels[pixel]).length ≤ b.cells.length := by
        rw [length_argbBytes]
        omega
      obtain ⟨stored, hstored⟩ := Block.exists_store hroom
      obtain ⟨mid, hmid, hmidLength, hmidCells⟩ := @storeEach_spec b
        (BitVec.ofNat 32 (5 * pixel)) (argbBytes pixels[pixel]) (5 * pixel)
        (.inr (by rw [BitVec.toNat_ofNat, Nat.mod_eq_of_lt (by omega)]))
        (by rw [length_argbBytes]; omega) hroom
      have hcells : mid.cells = stored.cells := by
        refine List.ext_getElem? fun i => ?_
        rw [hmidCells i, Block.getElem?_store hstored]
      obtain ⟨out, hout, hpacked⟩ := ih (by omega)
        ((h.store hpx (by omega) (length_argbBytes _) hstored).congr hcells)
      refine ⟨out, ?_, hpacked⟩
      have hnext : BitVec.ofNat 32 (5 * pixel) + BitVec.ofNat 32 5 =
          BitVec.ofNat 32 (5 * (pixel + 1)) := by
        rw [← BitVec.ofNat_add, Nat.mul_succ]
      rw [packARGBLoop, h.read hpx]
      simp only [Option.bind_eq_bind, Option.bind_some, hmid, length_argbBytes, hnext]
      exact hout

/-- Bytes at 4 GiB and later are not touched by the packer. -/
lemma getElem?_packARGBLoop {rounds pixel i : ℕ} {b out : Block Byte} {iByte : ULWord}
    (h : packARGBLoop host rounds pixel b iByte = some out) (hi : 2 ^ 32 ≤ i) :
    out.cells[i]? = b.cells[i]? := by
  induction rounds generalizing pixel b iByte with
  | zero =>
      cases h
      rfl
  | succ rounds ih =>
      obtain ⟨px, -, hrest⟩ := Option.bind_eq_some_iff.mp h
      obtain ⟨⟨mid, next⟩, hmid, hout⟩ := Option.bind_eq_some_iff.mp hrest
      rw [ih hout, getElem?_storeEach hmid hi]

/-- The packed line holds every pixel: its five bytes have the components. -/
def ArgbHolds (host : Host) (pixels : List RGBAlpha10BitPixel) : Prop :=
  ∃ packed, packRGB10BitFor10BitARGBPacked host ⟨lineBytes host pixels, []⟩
      (BitVec.ofNat 32 pixels.length) = some packed ∧
    ∀ i (hi : i < pixels.length),
      argbComponents ((packed.cells.drop (5 * i)).take 5) =
        some [pixels[i].Blue, pixels[i].Green, pixels[i].Red, pixels[i].Alpha]

/-- Where the index of the output bytes does not wrap, it does. -/
lemma argbHolds_of_fits (hfits : 5 * pixels.length ≤ 2 ^ 32)
    (hten : ∀ px ∈ pixels, px.IsTenBit) : ArgbHolds host pixels := by
  obtain ⟨packed, hpacked, hpacking⟩ := @packARGBLoop_spec host pixels hfits pixels.length 0
    ⟨lineBytes host pixels, []⟩ (Nat.zero_add _) Packing.start
  refine ⟨packed, ?_, fun i hi => ?_⟩
  · rw [packRGB10BitFor10BitARGBPacked, BitVec.toNat_ofNat, Nat.mod_eq_of_lt (by omega)]
    exact hpacked
  · have hcomponents := argbComponents_argbBytes (hten _ (List.getElem_mem hi)) []
    rw [List.append_nil] at hcomponents
    rw [hpacking.packed i hi _ (List.getElem?_eq_getElem hi), hcomponents]

/-- A black and transparent pixel. -/
def blankPixel : RGBAlpha10BitPixel := ⟨0, 0, 0, 0⟩

/-- Blank pixels are zeros in memory. -/
lemma lineBytes_blank (k : ℕ) : lineBytes host (List.replicate k blankPixel) =
    List.replicate (k * 8) 0 := by
  have hbytes : blankPixel.bytes host = List.replicate 8 0 := by
    cases host with
    | mk bigEndian => cases bigEndian <;> decide
  rw [lineBytes, List.flatMap_replicate, hbytes, List.flatten_replicate_replicate]

/-- Alpha is small where its byte is zero. -/
lemma argbComponents_alpha {bytes : List Byte} {blue green red alpha : UWord}
    (h : argbComponents bytes = some [blue, green, red, alpha]) (hzero : bytes[4]? = some 0) :
    alpha.toNat < 4 := by
  match bytes, h, hzero with
  | p0 :: p1 :: p2 :: p3 :: p4 :: _, h, hzero =>
      simp only [List.getElem?_cons_succ, List.getElem?_cons_zero, Option.some.injEq] at hzero
      simp only [argbComponents, Option.some.injEq, List.cons.injEq, and_true] at h
      obtain ⟨-, -, -, rfl⟩ := h
      rw [toNat_component 2 8 6 rfl rfl rfl rfl, hzero]
      have hp3 := p3.isLt
      have hnone : (0 : Byte).toNat = 0 := rfl
      omega

/-- **Past 4 GiB of packed bytes** a line of blank pixels and one opaque pixel is lost: the index
has wrapped before the last alpha is stored. -/
lemma not_argbHolds_of_wraps {n : ℕ} (hn : n < 2 ^ 32) (hwraps : 2 ^ 32 < 5 * n) :
    ¬ ArgbHolds host (List.replicate (n - 1) blankPixel ++ [⟨0, 0, 0, 1023⟩]) := by
  rintro ⟨packed, hpacked, hcomponents⟩
  have hlast := hcomponents (n - 1) (by
    rw [List.length_append, List.length_replicate, List.length_singleton]
    omega)
  rw [List.getElem_append_right (by rw [List.length_replicate])] at hlast
  have hcell : packed.cells[5 * (n - 1) + 4]? = some 0 := by
    rw [getElem?_packARGBLoop hpacked (by omega), lineBytes, List.flatMap_append,
      List.getElem?_append_left]
    · refine (congrArg (·[5 * (n - 1) + 4]?) (lineBytes_blank (n - 1))).trans ?_
      exact List.getElem?_replicate_of_lt (by omega)
    · refine lt_of_lt_of_eq ?_ (congrArg List.length (lineBytes_blank (n - 1))).symm
      rw [List.length_replicate]
      omega
  have halpha := argbComponents_alpha hlast (by
    rw [List.getElem?_take_of_lt (by omega), List.getElem?_drop, hcell])
  simp at halpha

/-! ### Unpacking -/

/-- What the unpacking loop returns, it has read from inside the line. -/
lemma unpackARGBLoop_some {rounds : ℕ} {pInputLine : List Byte} {acc components : List UWord}
    (h : unpackARGBLoop rounds pInputLine acc = some components) :
    components.length = acc.length + 4 * rounds ∧ 5 * rounds ≤ pInputLine.length := by
  induction rounds generalizing pInputLine acc with
  | zero =>
      cases h
      exact ⟨rfl, Nat.zero_le _⟩
  | succ rounds ih =>
      obtain ⟨taken, htaken, hrest⟩ := Option.bind_eq_some_iff.mp h
      obtain ⟨hlength, hinside⟩ := ih hrest
      match pInputLine, htaken with
      | _ :: _ :: _ :: _ :: _ :: rest, htaken =>
          cases htaken
          simp only [List.length_append, List.length_drop, List.length_cons, List.length_nil]
            at hlength hinside ⊢
          omega

/-- From a line that is long enough it returns. -/
lemma exists_unpackARGBLoop {rounds : ℕ} {pInputLine : List Byte} {acc : List UWord}
    (h : 5 * rounds ≤ pInputLine.length) :
    ∃ components, unpackARGBLoop rounds pInputLine acc = some components := by
  induction rounds generalizing pInputLine acc with
  | zero => exact ⟨acc, rfl⟩
  | succ rounds ih =>
      match pInputLine, h with
      | p0 :: p1 :: p2 :: p3 :: p4 :: rest, h =>
          simp only [List.length_cons] at h
          exact ih (by simp only [List.drop_succ_cons, List.drop_zero]; omega)

/-- Of every line of the descriptor's bytes, the unpacker reads no more, and returns four
components for each pixel of the raster width. -/
def ArgbUnpacks (inFormatDesc : NTV2FormatDescriptor) : Prop :=
  ∀ pInputLine : List Byte, pInputLine.length = inFormatDesc.getBytesPerRow.toNat →
    ∃ components, unpackLine10BitARGBtoUWordSequence (some pInputLine) inFormatDesc =
        some (true, components) ∧
      components.length = 4 * inFormatDesc.getRasterWidth.toNat

/-- It does exactly when a line has as many words as pixels, and five bytes for each of them. -/
lemma argbUnpacks_iff {inFormatDesc : NTV2FormatDescriptor} (hvalid : inFormatDesc.isValid = true)
    (hformat : inFormatDesc.mPixelFormat = .NTV2_FBF_10BIT_ARGB) :
    ArgbUnpacks inFormatDesc ↔ inFormatDesc.linePitch = inFormatDesc.numPixels ∧
      5 * inFormatDesc.linePitch.toNat ≤ inFormatDesc.getBytesPerRow.toNat := by
  have hwidth : ¬ inFormatDesc.getRasterWidth < 1 := by
    have hpixels : inFormatDesc.numPixels ≠ 0 := by
      simp only [NTV2FormatDescriptor.isValid, decide_eq_true_eq] at hvalid
      exact hvalid.2.1
    rw [NTV2FormatDescriptor.getRasterWidth]
    intro hlt
    refine hpixels (BitVec.eq_of_toNat_eq ?_)
    have hlt' : inFormatDesc.numPixels.toNat < 1 := hlt
    rw [Nat.lt_one_iff.mp hlt']
    rfl
  have hunpack : ∀ pInputLine : List Byte,
      unpackLine10BitARGBtoUWordSequence (some pInputLine) inFormatDesc =
        (unpackARGBLoop inFormatDesc.linePitch.toNat pInputLine []).map fun out => (true, out) := by
    intro pInputLine
    simp only [unpackLine10BitARGBtoUWordSequence, hvalid, hformat, if_neg hwidth]
    simp
  constructor
  · intro h
    obtain ⟨components, hreturns, hcount⟩ :=
      h (List.replicate inFormatDesc.getBytesPerRow.toNat 0) List.length_replicate
    rw [hunpack] at hreturns
    obtain ⟨out, hout, hpair⟩ := Option.map_eq_some_iff.mp hreturns
    cases hpair
    obtain ⟨hlength, hinside⟩ := unpackARGBLoop_some hout
    rw [List.length_nil] at hlength
    rw [List.length_replicate] at hinside
    refine ⟨BitVec.eq_of_toNat_eq ?_, hinside⟩
    rw [NTV2FormatDescriptor.getRasterWidth] at hcount
    omega
  · rintro ⟨hpitch, hinside⟩ pInputLine hlength
    obtain ⟨components, hout⟩ := @exists_unpackARGBLoop inFormatDesc.linePitch.toNat pInputLine []
      (by rw [hlength]; exact hinside)
    refine ⟨components, by rw [hunpack, hout]; rfl, ?_⟩
    rw [(unpackARGBLoop_some hout).1, List.length_nil, Nat.zero_add, hpitch]
    rfl

/-- **10-bit ARGB lines**: packed in place, the five bytes of every pixel hold its components
exactly while all the bytes have 32-bit indices, and the unpacker stays in its line with the
right number of components exactly when the line has as many words as pixels, with five bytes to
each word. -/
theorem argb_line_iff (host : Host) (inNumPixels : ULWord) {inFormatDesc : NTV2FormatDescriptor}
    (hvalid : inFormatDesc.isValid = true)
    (hformat : inFormatDesc.mPixelFormat = .NTV2_FBF_10BIT_ARGB) :
    ((∀ pixels : List RGBAlpha10BitPixel, pixels.length = inNumPixels.toNat →
        (∀ px ∈ pixels, px.IsTenBit) → ArgbHolds host pixels) ↔ 5 * inNumPixels.toNat ≤ 2 ^ 32) ∧
      (ArgbUnpacks inFormatDesc ↔ inFormatDesc.linePitch = inFormatDesc.numPixels ∧
        5 * inFormatDesc.linePitch.toNat ≤ inFormatDesc.getBytesPerRow.toNat) := by
  refine ⟨⟨fun h => ?_, fun hfits pixels hlength hten => ?_⟩, argbUnpacks_iff hvalid hformat⟩
  · by_contra hwraps
    have hn := inNumPixels.isLt
    refine not_argbHolds_of_wraps hn (by omega) (h _ ?_ ?_)
    · rw [List.length_append, List.length_replicate, List.length_singleton]
      omega
    · intro px hpx
      rcases List.mem_append.mp hpx with hblank | hlast
      · rw [List.eq_of_mem_replicate hblank]
        decide
      · rw [List.mem_singleton.mp hlast]
        decide
  · exact argbHolds_of_fits (by rw [hlength]; exact hfits) hten

/-- Four pixels and a descriptor with as many words as pixels in a line. -/
theorem argb_line_iff_four :
    (∀ pixels : List RGBAlpha10BitPixel, pixels.length = 4 →
        (∀ px ∈ pixels, px.IsTenBit) → ArgbHolds ⟨false⟩ pixels) ∧
      ArgbUnpacks ⟨1, 4, 4, .NTV2_FBF_10BIT_ARGB, 20, 1, 0, 10⟩ :=
  have h := @argb_line_iff ⟨false⟩ 4 ⟨1, 4, 4, .NTV2_FBF_10BIT_ARGB, 20, 1, 0, 10⟩
    (by decide) rfl
  ⟨h.1.mpr (by decide), h.2.mpr (by decide)⟩

/-- The descriptor of an HD raster: the unpacker reads 12000 bytes of a line of 9600. -/
theorem not_argbUnpacks_1080 : ¬ ArgbUnpacks (argbDescriptor .NTV2_STANDARD_1080) := by
  intro h
  have hrows : (argbDescriptor .NTV2_STANDARD_1080).getBytesPerRow.toNat = 9600 := by decide
  have hpitch : (argbDescriptor .NTV2_STANDARD_1080).linePitch.toNat = 2400 := by decide
  have hiff := (argbUnpacks_iff (argbDescriptor_overruns .NTV2_STANDARD_1080).1 rfl).mp h
  rw [hrows, hpitch] at hiff
  exact absurd hiff.2 (by omega)

end Line

end LibAjaNtv2
