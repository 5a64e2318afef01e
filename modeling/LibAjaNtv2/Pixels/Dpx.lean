import LibAjaNtv2.Lib.Masked
import LibAjaNtv2.Pixels.Line

/-!
Packing a line of 10-bit RGB pixels into DPX words and unpacking it
(`ntv2transcode.cpp`, `ntv2utils.cpp`).

* `packRGB10BitFor10BitDPX`, `unPack10BitDPXtoRGBAlpha10BitPixel`;
* `toNat_dpxValue`, `toNat_dpxSwapped`: the packed words as numbers;
* `unpack_little`, `unpack_big`: what the unpacker makes of them;
* `dpx_roundTrip_iff`: **the colours of a line come back in little-endian words, and in
  big-endian ones exactly where the two low bits of red and the four high bits of blue are zero**.
-/

namespace LibAjaNtv2

/-! ### The functions -/

/-- The word that `PackRGB10BitFor10BitDPX` makes of a pixel. -/
def dpxWord (px : RGBAlpha10BitPixel) (inBigEndian : Bool) : ULWord :=
  let Red : ULWord := px.Red.setWidth 32
  let Green : ULWord := px.Green.setWidth 32
  let Blue : ULWord := px.Blue.setWidth 32
  let value := (Red <<< 22) + (Green <<< 12) + (Blue <<< 2)
  if inBigEndian then
    ((value &&& 0xFF#32) <<< 24) + (((value >>> 8) &&& 0xFF#32) <<< 16) +
      (((value >>> 16) &&& 0xFF#32) <<< 8) + ((value >>> 24) &&& 0xFF#32)
  else value

/-- A loop that writes the words of pixels over them, from a pixel on. -/
def packDPXLoop (host : Host) (wordOf : RGBAlpha10BitPixel → ULWord) :
    ℕ → ℕ → Block Byte → Option (Block Byte)
  | 0, _, pBuffer => some pBuffer
  | rounds + 1, pixel, pBuffer => do
      let px ← readPixel host pBuffer.cells pixel
      let pBuffer ← pBuffer.store (4 * pixel) (host.memory 4 (wordOf px))
      packDPXLoop host wordOf rounds (pixel + 1) pBuffer

/-- `PackRGB10BitFor10BitDPX`: the words are written over the pixels. -/
def packRGB10BitFor10BitDPX (host : Host) (pBuffer : Block Byte) (inNumPixels : ULWord)
    (inBigEndian : Bool) : Option (Block Byte) :=
  packDPXLoop host (dpxWord · inBigEndian) inNumPixels.toNat 0 pBuffer

/-- The pixel that `UnPack10BitDPXtoRGBAlpha10BitPixel` makes of a word. -/
def dpxPixel (px : RGBAlpha10BitPixel) (value : ULWord) (bigEndian : Bool) : RGBAlpha10BitPixel :=
  if bigEndian then
    { px with
      Red := ((value &&& 0xC0#32) >>> 14).setWidth 16 + ((value &&& 0xFF#32) <<< 2).setWidth 16
      Green := ((value &&& 0x3F00#32) >>> 4).setWidth 16 +
        ((value &&& 0xF00000#32) >>> 20).setWidth 16
      Blue := ((value &&& 0xFC000000#32) >>> 26).setWidth 16 +
        ((value &&& 0xF0000#32) >>> 12).setWidth 16 }
  else
    { px with
      Red := ((value >>> 22) &&& 0x3FF#32).setWidth 16
      Green := ((value >>> 12) &&& 0x3FF#32).setWidth 16
      Blue := ((value >>> 2) &&& 0x3FF#32).setWidth 16 }

/-- `UnPack10BitDPXtoRGBAlpha10BitPixel`: alpha is left as it is. -/
def unPack10BitDPXtoRGBAlpha10BitPixel (host : Host) (rgba10BitBuffer : List RGBAlpha10BitPixel)
    (DPXLinebuffer : List Byte) (numPixels : ULWord) (bigEndian : Bool) :
    Option (List RGBAlpha10BitPixel) :=
  eachWord host (fun px value => dpxPixel px value bigEndian) DPXLinebuffer numPixels.toNat 0
    rgba10BitBuffer

/-! ### One pixel -/

namespace RGBAlpha10BitPixel

/-- Red, green and blue. -/
def colours (px : RGBAlpha10BitPixel) : UWord × UWord × UWord := (px.Red, px.Green, px.Blue)

/-- Red, green and blue have ten bits. -/
def TenBitColours (px : RGBAlpha10BitPixel) : Prop :=
  px.Red.toNat < 1024 ∧ px.Green.toNat < 1024 ∧ px.Blue.toNat < 1024

instance (px : RGBAlpha10BitPixel) : Decidable px.TenBitColours :=
  inferInstanceAs (Decidable (_ ∧ _ ∧ _))

end RGBAlpha10BitPixel

section Pixel

variable {px : RGBAlpha10BitPixel}

/-- The three components side by side, above two empty bits. -/
lemma toNat_dpxValue (hten : px.TenBitColours) :
    (dpxWord px false).toNat =
      px.Red.toNat * 2 ^ 22 + px.Green.toNat * 2 ^ 12 + px.Blue.toNat * 2 ^ 2 := by
  obtain ⟨hred, hgreen, hblue⟩ := hten
  simp only [dpxWord, Bool.false_eq_true, if_false, BitVec.toNat_add, BitVec.toNat_shiftLeft,
    BitVec.toNat_setWidth, Nat.shiftLeft_eq]
  omega

/-- The same bytes the other way round. -/
lemma toNat_dpxSwapped (px : RGBAlpha10BitPixel) :
    (dpxWord px true).toNat = (dpxWord px false).toNat % 2 ^ 8 * 2 ^ 24 +
      (dpxWord px false).toNat / 2 ^ 8 % 2 ^ 8 * 2 ^ 16 +
      (dpxWord px false).toNat / 2 ^ 16 % 2 ^ 8 * 2 ^ 8 +
      (dpxWord px false).toNat / 2 ^ 24 % 2 ^ 8 := by
  have hlow : ∀ v : ULWord, (v &&& 0xFF#32).toNat = v.toNat % 2 ^ 8 := by
    intro v
    have hmask := BitField.toNat_and_mask v 0xFF#32 0 8 rfl
    simpa using hmask
  have hswap : dpxWord px true = ((dpxWord px false &&& 0xFF#32) <<< 24) +
      (((dpxWord px false >>> 8) &&& 0xFF#32) <<< 16) +
      (((dpxWord px false >>> 16) &&& 0xFF#32) <<< 8) +
      ((dpxWord px false >>> 24) &&& 0xFF#32) := rfl
  rw [hswap]
  generalize dpxWord px false = v
  simp only [BitVec.toNat_add, BitVec.toNat_shiftLeft, BitVec.toNat_ushiftRight, hlow,
    Nat.shiftLeft_eq, Nat.shiftRight_eq_div_pow]
  omega

/-- The bytes of the packed word. -/
lemma dpxValue_bytes (hten : px.TenBitColours) :
    (dpxWord px false).toNat % 2 ^ 8 = px.Blue.toNat % 64 * 4 ∧
      (dpxWord px false).toNat / 2 ^ 8 % 2 ^ 8 = px.Green.toNat % 16 * 16 + px.Blue.toNat / 64 ∧
      (dpxWord px false).toNat / 2 ^ 16 % 2 ^ 8 = px.Red.toNat % 4 * 64 + px.Green.toNat / 16 ∧
      (dpxWord px false).toNat / 2 ^ 24 % 2 ^ 8 = px.Red.toNat / 4 := by
  have hvalue := toNat_dpxValue hten
  obtain ⟨hred, hgreen, hblue⟩ := hten
  refine ⟨?_, ?_, ?_, ?_⟩ <;> omega

/-- Little-endian words give the colours back. -/
lemma unpack_little (hten : px.TenBitColours) (px' : RGBAlpha10BitPixel) :
    dpxPixel px' (dpxWord px false) false = { px with Alpha := px'.Alpha } := by
  have hlow : ∀ v : ULWord, ((v &&& 0x3FF#32).setWidth 16).toNat = v.toNat % 2 ^ 10 := by
    intro v
    have hmask := BitField.toNat_and_mask v 0x3FF#32 0 10 rfl
    rw [BitVec.toNat_setWidth]
    omega
  have hvalue := toNat_dpxValue hten
  obtain ⟨hred, hgreen, hblue⟩ := hten
  have hr : ((dpxWord px false >>> 22) &&& 0x3FF#32).setWidth 16 = px.Red := by
    refine BitVec.eq_of_toNat_eq ?_
    rw [hlow, BitVec.toNat_ushiftRight, Nat.shiftRight_eq_div_pow]
    omega
  have hg : ((dpxWord px false >>> 12) &&& 0x3FF#32).setWidth 16 = px.Green := by
    refine BitVec.eq_of_toNat_eq ?_
    rw [hlow, BitVec.toNat_ushiftRight, Nat.shiftRight_eq_div_pow]
    omega
  have hb : ((dpxWord px false >>> 2) &&& 0x3FF#32).setWidth 16 = px.Blue := by
    refine BitVec.eq_of_toNat_eq ?_
    rw [hlow, BitVec.toNat_ushiftRight, Nat.shiftRight_eq_div_pow]
    omega
  simp only [dpxPixel, Bool.false_eq_true, if_false, hr, hg, hb]

/-- The pieces of a word that the big-endian unpacker looks at, by the bytes of the word. -/
lemma pieces_of_bytes {s x0 x1 x2 x3 : ℕ} (hs : s = x0 * 2 ^ 24 + x1 * 2 ^ 16 + x2 * 2 ^ 8 + x3)
    (h0 : x0 < 256) (h1 : x1 < 256) (h2 : x2 < 256) (h3 : x3 < 256) :
    s / 2 ^ 0 % 2 ^ 8 = x3 ∧ s / 2 ^ 6 % 2 ^ 2 = x3 / 64 ∧ s / 2 ^ 8 % 2 ^ 6 = x2 % 64 ∧
      s / 2 ^ 20 % 2 ^ 4 = x1 / 16 ∧ s / 2 ^ 16 % 2 ^ 4 = x1 % 16 ∧
      s / 2 ^ 26 % 2 ^ 6 = x0 / 4 := by
  refine ⟨?_, ?_, ?_, ?_, ?_, ?_⟩ <;> omega

lemma low_nibble_down {g b : ℕ} (hb : b < 16) :
    (g % 16 * 16 + b) % 16 * 2 ^ 16 / 2 ^ 12 = b * 16 := by
  omega

/-- **Big-endian words lose the low bits of red**, which are looked for in the wrong byte, and put
the high bits of blue two places too low. -/
lemma unpack_big (hten : px.TenBitColours) (px' : RGBAlpha10BitPixel) :
    (dpxPixel px' (dpxWord px true) true).Red.toNat = px.Red.toNat / 4 * 4 ∧
      (dpxPixel px' (dpxWord px true) true).Green = px.Green ∧
      (dpxPixel px' (dpxWord px true) true).Blue.toNat =
        px.Blue.toNat % 64 + px.Blue.toNat / 64 * 16 := by
  have hswapped := toNat_dpxSwapped px
  obtain ⟨h0, h1, h2, h3⟩ := dpxValue_bytes hten
  rw [h0, h1, h2, h3] at hswapped
  obtain ⟨hred, hgreen, hblue⟩ := hten
  obtain ⟨hlow, hlow6, hlow8, hhigh20, hhigh16, hhigh26⟩ :=
    pieces_of_bytes hswapped (by omega) (by omega) (by omega) (by omega)
  have hred14 := BitField.toNat_and_mask (dpxWord px true) 0xC0#32 6 2 rfl
  have hred2 := BitField.toNat_and_mask (dpxWord px true) 0xFF#32 0 8 rfl
  have hgreen4 := BitField.toNat_and_mask (dpxWord px true) 0x3F00#32 8 6 rfl
  have hgreen20 := BitField.toNat_and_mask (dpxWord px true) 0xF00000#32 20 4 rfl
  have hblue26 := BitField.toNat_and_mask (dpxWord px true) 0xFC000000#32 26 6 rfl
  have hblue12 := BitField.toNat_and_mask (dpxWord px true) 0xF0000#32 16 4 rfl
  rw [hlow6] at hred14
  rw [hlow] at hred2
  rw [hlow8] at hgreen4
  rw [hhigh20] at hgreen20
  rw [hhigh26] at hblue26
  rw [hhigh16] at hblue12
  clear hswapped hlow hlow6 hlow8 hhigh20 hhigh16 hhigh26 h0 h1 h2 h3
  refine ⟨?_, BitVec.eq_of_toNat_eq ?_, ?_⟩
  · simp only [dpxPixel, if_true, BitVec.toNat_add, BitVec.toNat_setWidth,
      BitVec.toNat_ushiftRight, BitVec.toNat_shiftLeft, Nat.shiftRight_eq_div_pow, Nat.shiftLeft_eq,
      hred14, hred2]
    have hlost : px.Red.toNat / 4 / 64 * 2 ^ 6 / 2 ^ 14 = 0 := by omega
    rw [hlost]
    omega
  · simp only [dpxPixel, if_true, BitVec.toNat_add, BitVec.toNat_setWidth,
      BitVec.toNat_ushiftRight, Nat.shiftRight_eq_div_pow, hgreen4, hgreen20]
    omega
  · simp only [dpxPixel, if_true, BitVec.toNat_add, BitVec.toNat_setWidth,
      BitVec.toNat_ushiftRight, Nat.shiftRight_eq_div_pow, hblue26, hblue12]
    have hbottom : px.Blue.toNat % 64 * 4 / 4 * 2 ^ 26 / 2 ^ 26 = px.Blue.toNat % 64 := by omega
    have htop : (px.Green.toNat % 16 * 16 + px.Blue.toNat / 64) % 16 * 2 ^ 16 / 2 ^ 12 =
        px.Blue.toNat / 64 * 16 := low_nibble_down (by omega)
    rw [hbottom, htop]
    omega

end Pixel

/-! ### A line -/

section Line

variable {host : Host} {bigEndian : Bool} {pixels rgba : List RGBAlpha10BitPixel}

/-- **The packer** leaves the word of each pixel at the start of the line. -/
lemma packDPXLoop_spec {rounds pixel : ℕ} {b : Block Byte} (hrounds : pixel + rounds = pixels.length)
    (h : Packing host pixels 4 (fun px => host.memory 4 (dpxWord px bigEndian)) pixel b) :
    ∃ out, packDPXLoop host (dpxWord · bigEndian) rounds pixel b = some out ∧
      Packing host pixels 4 (fun px => host.memory 4 (dpxWord px bigEndian)) pixels.length out := by
  induction rounds generalizing pixel b with
  | zero =>
      cases show pixel = pixels.length by omega
      exact ⟨b, rfl, h⟩
  | succ rounds ih =>
      have hlt : pixel < pixels.length := by omega
      have hpx : pixels[pixel]? = some pixels[pixel] := List.getElem?_eq_getElem hlt
      obtain ⟨mid, hmid⟩ := @Block.exists_store _ b (4 * pixel)
        (host.memory 4 (dpxWord pixels[pixel] bigEndian)) (by
          rw [h.length_eq, length_memory]
          omega)
      obtain ⟨out, hout, hpacked⟩ := ih (by omega) (h.store hpx (by omega) (by simp) hmid)
      refine ⟨out, ?_, hpacked⟩
      rw [packDPXLoop, h.read hpx, Option.bind_eq_bind, Option.bind_some, hmid]
      exact hout

/-- The colours of a pixel survive the two functions. -/
def Survives (px : RGBAlpha10BitPixel) : Prop := px.Red.toNat % 4 = 0 ∧ px.Blue.toNat < 64

instance : DecidablePred Survives := fun _ => inferInstanceAs (Decidable (_ ∧ _))

/-- One pixel comes back exactly when it survives, or the words are little-endian. -/
lemma colours_dpxPixel_iff {px : RGBAlpha10BitPixel} (hten : px.TenBitColours)
    (px' : RGBAlpha10BitPixel) :
    (dpxPixel px' (dpxWord px bigEndian) bigEndian).colours = px.colours ↔
      bigEndian = false ∨ Survives px := by
  cases bigEndian with
  | false =>
      rw [unpack_little hten]
      exact iff_of_true rfl (.inl rfl)
  | true =>
      obtain ⟨hred, hgreen, hblue⟩ := unpack_big hten px'
      simp only [RGBAlpha10BitPixel.colours, Prod.mk.injEq, hgreen, true_and, Bool.true_eq_false,
        false_or, Survives]
      rw [← BitVec.toNat_inj, ← BitVec.toNat_inj, hred, hblue]
      omega

/-- The line comes back: packed over itself and unpacked into a buffer of pixels, it has its
colours again. -/
def DpxRestores (host : Host) (pixels rgba : List RGBAlpha10BitPixel) (bigEndian : Bool) : Prop :=
  ∃ packed out,
    packRGB10BitFor10BitDPX host ⟨lineBytes host pixels, []⟩ (BitVec.ofNat 32 pixels.length)
      bigEndian = some packed ∧
    unPack10BitDPXtoRGBAlpha10BitPixel host rgba packed.cells (BitVec.ofNat 32 pixels.length)
      bigEndian = some out ∧
    out.map RGBAlpha10BitPixel.colours = pixels.map RGBAlpha10BitPixel.colours

/-- **A line of 10-bit pixels comes back exactly when its words are little-endian or every pixel
survives**: the big-endian unpacker masks red with `0xC0` instead of `0xC000`, and shifts blue by
12 instead of 10. -/
theorem dpx_roundTrip_iff (hlength : pixels.length < 2 ^ 32)
    (hten : ∀ px ∈ pixels, px.TenBitColours) (hrgba : rgba.length = pixels.length) :
    DpxRestores host pixels rgba bigEndian ↔ bigEndian = false ∨ ∀ px ∈ pixels, Survives px := by
  have hcount : (BitVec.ofNat 32 pixels.length).toNat = pixels.length := by
    rw [BitVec.toNat_ofNat, Nat.mod_eq_of_lt hlength]
  obtain ⟨packed, hpacked, hpacking⟩ := @packDPXLoop_spec host bigEndian pixels pixels.length 0
    ⟨lineBytes host pixels, []⟩ (Nat.zero_add _) Packing.start
  have hwords : ∀ i (hi : i < pixels.length),
      readULWord host packed.cells i = some (dpxWord pixels[i] bigEndian) := fun i hi =>
    readULWord_eq (hpacking.packed i hi _ (List.getElem?_eq_getElem hi))
  obtain ⟨out, hout, hlength', hcells⟩ := @eachWord_spec host
    (fun px value => dpxPixel px value bigEndian) packed.cells rgba
    (fun i => ((pixels[i]?).map fun px => dpxWord px bigEndian).getD 0) pixels.length 0 (by omega)
    (fun i hi => by
      rw [hwords i (by omega), List.getElem?_eq_getElem (by omega)]
      rfl)
  have hrestores : DpxRestores host pixels rgba bigEndian ↔
      out.map RGBAlpha10BitPixel.colours = pixels.map RGBAlpha10BitPixel.colours := by
    have hpack : packRGB10BitFor10BitDPX host ⟨lineBytes host pixels, []⟩
        (BitVec.ofNat 32 pixels.length) bigEndian = some packed := by
      rw [packRGB10BitFor10BitDPX, hcount, hpacked]
    have hunpack : unPack10BitDPXtoRGBAlpha10BitPixel host rgba packed.cells
        (BitVec.ofNat 32 pixels.length) bigEndian = some out := by
      rw [unPack10BitDPXtoRGBAlpha10BitPixel, hcount, hout]
    constructor
    · rintro ⟨packed', out', heq, heq', hcolours⟩
      rw [hpack] at heq
      cases heq
      rw [hunpack] at heq'
      cases heq'
      exact hcolours
    · exact fun hcolours => ⟨packed, out, hpack, hunpack, hcolours⟩
  have hpixel : ∀ i (hi : i < pixels.length), ∃ px', out[i]? =
      some (dpxPixel px' (dpxWord pixels[i] bigEndian) bigEndian) := by
    intro i hi
    have hi' : i < rgba.length := by omega
    refine ⟨rgba[i], ?_⟩
    rw [hcells i, if_pos (Nat.zero_le i), List.getElem?_eq_getElem hi,
      List.getElem?_eq_getElem (by omega)]
    rfl
  rw [hrestores]
  constructor
  · intro hcolours
    by_contra hlost
    obtain ⟨hbig, px, hpx, hsurvives⟩ : bigEndian ≠ false ∧ ∃ px ∈ pixels, ¬ Survives px := by
      push Not at hlost
      exact hlost
    obtain ⟨i, hi, rfl⟩ := List.getElem_of_mem hpx
    obtain ⟨px', hout'⟩ := hpixel i hi
    have hcell := congrArg (·[i]?) hcolours
    simp only [List.getElem?_map, hout', List.getElem?_eq_getElem hi, Option.map_some,
      Option.some.injEq] at hcell
    exact ((colours_dpxPixel_iff (hten _ hpx) px').mp hcell).elim hbig hsurvives
  · intro hall
    refine List.ext_getElem? fun i => ?_
    rw [List.getElem?_map, List.getElem?_map]
    rcases Nat.lt_or_ge i pixels.length with hi | hi
    · obtain ⟨px', hout'⟩ := hpixel i hi
      have hmem := List.getElem_mem hi
      rw [hout', List.getElem?_eq_getElem hi, Option.map_some, Option.map_some,
        (colours_dpxPixel_iff (hten _ hmem) px').mpr (hall.imp_right fun h => h _ hmem)]
    · rw [List.getElem?_eq_none (by omega), List.getElem?_eq_none hi]

/-- Two pixels in little-endian words. -/
theorem dpx_roundTrip_iff_little :
    DpxRestores ⟨false⟩ [⟨100, 200, 301, 0⟩, ⟨1023, 1, 2, 4096⟩] [⟨0, 0, 0, 7⟩, ⟨0, 0, 0, 8⟩] false :=
  (dpx_roundTrip_iff (by decide) (by decide) (by decide)).mpr (.inl rfl)

/-- A big-endian white pixel comes back as another colour. -/
theorem not_dpxRestores_white :
    ¬ DpxRestores ⟨false⟩ [⟨1023, 1023, 1023, 1023⟩] [⟨0, 0, 0, 0⟩] true := by
  have hlost : (packRGB10BitFor10BitDPX ⟨false⟩
      ⟨lineBytes ⟨false⟩ [⟨1023, 1023, 1023, 1023⟩], []⟩ 1 true).bind (fun packed =>
        unPack10BitDPXtoRGBAlpha10BitPixel ⟨false⟩ [⟨0, 0, 0, 0⟩] packed.cells 1 true) =
      some [⟨303, 1023, 1020, 0⟩] := by decide
  rintro ⟨packed, out, hpacked, hout, hcolours⟩
  rw [show packRGB10BitFor10BitDPX ⟨false⟩ _ 1 true = some packed from hpacked, Option.bind_some,
    show unPack10BitDPXtoRGBAlpha10BitPixel ⟨false⟩ _ _ 1 true = some out from hout] at hlost
  cases hlost
  exact absurd hcolours (by decide)

end Line

end LibAjaNtv2
