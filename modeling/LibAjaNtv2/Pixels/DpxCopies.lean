import LibAjaNtv2.Pixels.Dpx

/-!
The second copy of the DPX packer and unpacker (`ajabase/common/videoutilities.cpp`).

* `ajaPackRGB10BitFor10BitDPX`, `ajaUnPack10BitDPXtoRGBAlpha10BitPixel`;
* `ajaDpxWord_eq`: **both copies pack a pixel into the same word**;
* `dpxCopiesAgree_iff`: **the unpackers agree** on little-endian words, and on big-endian ones only
  where the pixels have the colours already.
-/

namespace LibAjaNtv2

/-! ### The functions -/

/-- A component moved up as an `int`, of which 32 bits are kept. -/
def intShiftLeft (x : UWord) (n : ℕ) : Int := ((x.setWidth 32 : BitVec 32) <<< n).toInt

/-- The word that `AJA_PackRGB10BitFor10BitDPX` makes of a pixel. -/
def ajaDpxWord (px : RGBAlpha10BitPixel) (bigEndian : Bool) : ULWord :=
  let value : ULWord :=
    BitVec.ofInt 32 (intShiftLeft px.Red 22 + intShiftLeft px.Green 12 + intShiftLeft px.Blue 2)
  if bigEndian then
    ((value &&& 0xFF#32) <<< 24) + (((value >>> 8) &&& 0xFF#32) <<< 16) +
      (((value >>> 16) &&& 0xFF#32) <<< 8) + ((value >>> 24) &&& 0xFF#32)
  else value

/-- `AJA_PackRGB10BitFor10BitDPX`. -/
def ajaPackRGB10BitFor10BitDPX (host : Host) (rgba10BitBuffer : Block Byte) (numPixels : ULWord)
    (bigEndian : Bool) : Option (Block Byte) :=
  packDPXLoop host (ajaDpxWord · bigEndian) numPixels.toNat 0 rgba10BitBuffer

/-- The pixel that `AJA_UnPack10BitDPXtoRGBAlpha10BitPixel` leaves for a word. -/
def ajaDpxPixel (px : RGBAlpha10BitPixel) (value : ULWord) (bigEndian : Bool) :
    RGBAlpha10BitPixel :=
  if bigEndian then
    -- the value is swapped, and not stored
    let _value := ntv2EndianSwap32 value
    px
  else
    { px with
      Red := ((value >>> 22) &&& 0x3FF#32).setWidth 16
      Green := ((value >>> 12) &&& 0x3FF#32).setWidth 16
      Blue := ((value >>> 2) &&& 0x3FF#32).setWidth 16 }

/-- `AJA_UnPack10BitDPXtoRGBAlpha10BitPixel`. -/
def ajaUnPack10BitDPXtoRGBAlpha10BitPixel (host : Host) (rgba10BitBuffer : List RGBAlpha10BitPixel)
    (DPXLinebuffer : List Byte) (numPixels : ULWord) (bigEndian : Bool) :
    Option (List RGBAlpha10BitPixel) :=
  eachWord host (fun px v => ajaDpxPixel px v bigEndian) DPXLinebuffer numPixels.toNat 0
    rgba10BitBuffer

/-! ### The packers -/

/-- **Both copies pack a pixel into the same word.** -/
lemma ajaDpxWord_eq (px : RGBAlpha10BitPixel) (bigEndian : Bool) :
    ajaDpxWord px bigEndian = dpxWord px bigEndian := by
  have hvalue : BitVec.ofInt 32
      (intShiftLeft px.Red 22 + intShiftLeft px.Green 12 + intShiftLeft px.Blue 2) =
      (px.Red.setWidth 32 <<< 22) + (px.Green.setWidth 32 <<< 12) +
        (px.Blue.setWidth 32 <<< 2) := by
    simp only [intShiftLeft, BitVec.ofInt_add, BitVec.ofInt_toInt]
  rw [ajaDpxWord, hvalue, dpxWord]

/-! ### The unpackers -/

/-- The colours of a little-endian word. -/
def dpxColours (value : ULWord) : UWord × UWord × UWord :=
  (((value >>> 22) &&& 0x3FF#32).setWidth 16, ((value >>> 12) &&& 0x3FF#32).setWidth 16,
    ((value >>> 2) &&& 0x3FF#32).setWidth 16)

/-- The colours that a word stands for, in one byte order or the other. -/
def wordColours (bigEndian : Bool) (value : ULWord) : UWord × UWord × UWord :=
  dpxColours (if bigEndian then ntv2EndianSwap32 value else value)

/-- The copies agree on some memory that is packed, and on a line of words that is unpacked over
some pixels. -/
structure DpxCopiesAgree (host : Host) (pBuffer : Block Byte) (count : ULWord)
    (rgba : List RGBAlpha10BitPixel) (words : List ULWord) (bigEndian : Bool) : Prop where
  packs : ajaPackRGB10BitFor10BitDPX host pBuffer count bigEndian =
    packRGB10BitFor10BitDPX host pBuffer count bigEndian
  unpacks : ∃ out, ajaUnPack10BitDPXtoRGBAlpha10BitPixel host rgba (wordBytes host words)
      (BitVec.ofNat 32 words.length) bigEndian = some out ∧
    out.map RGBAlpha10BitPixel.colours = words.map (wordColours bigEndian)

section Agree

variable {host : Host} {rgba : List RGBAlpha10BitPixel} {words : List ULWord} {bigEndian : Bool}

lemma colours_ajaDpxPixel (px : RGBAlpha10BitPixel) (v : ULWord) :
    (ajaDpxPixel px v bigEndian).colours =
      if bigEndian then px.colours else wordColours bigEndian v := by
  cases bigEndian <;> rfl

/-- **The unpacker** leaves the pixels alone in big-endian lines. -/
lemma ajaUnPack_spec (hlength : words.length < 2 ^ 32) (hrgba : rgba.length = words.length) :
    ∃ out, ajaUnPack10BitDPXtoRGBAlpha10BitPixel host rgba (wordBytes host words)
        (BitVec.ofNat 32 words.length) bigEndian = some out ∧
      out.map RGBAlpha10BitPixel.colours =
        if bigEndian then rgba.map RGBAlpha10BitPixel.colours
        else words.map (wordColours bigEndian) := by
  have hcount : (BitVec.ofNat 32 words.length).toNat = words.length := by
    rw [BitVec.toNat_ofNat, Nat.mod_eq_of_lt hlength]
  obtain ⟨out, hout, houtLength, hcells⟩ := @eachWord_spec host
    (fun px v => ajaDpxPixel px v bigEndian) (wordBytes host words) rgba (fun i => words[i]?.getD 0)
    words.length 0 (by omega) (fun i hi => by
      rw [readULWord_wordBytes (by omega), List.getElem?_eq_getElem (by omega), Option.getD_some])
  refine ⟨out, by rw [ajaUnPack10BitDPXtoRGBAlpha10BitPixel, hcount, hout], ?_⟩
  refine List.ext_getElem? fun i => ?_
  rw [List.getElem?_map, hcells i, if_pos (Nat.zero_le i), Option.map_map]
  rcases Nat.lt_or_ge i words.length with hi | hi
  · have hpixel : rgba[i]? = some rgba[i] := List.getElem?_eq_getElem (by omega)
    rw [hpixel, List.getElem?_eq_getElem hi, Option.map_some, Function.comp_apply,
      colours_ajaDpxPixel, Option.getD_some]
    cases bigEndian with
    | true => rw [if_pos rfl, if_pos rfl, List.getElem?_map, hpixel, Option.map_some]
    | false => rw [if_neg (by decide), if_neg (by decide), List.getElem?_map,
        List.getElem?_eq_getElem hi, Option.map_some]
  · have hpixel : rgba[i]? = none := List.getElem?_eq_none (by omega)
    rw [hpixel, Option.map_none]
    cases bigEndian with
    | true => rw [if_pos rfl, List.getElem?_map, hpixel, Option.map_none]
    | false => rw [if_neg (by decide), List.getElem?_map, List.getElem?_eq_none hi, Option.map_none]

/-- **The copies agree on little-endian lines, and on big-endian ones exactly where the pixels have
the colours already:** the second unpacker swaps the words and stores nothing. -/
theorem dpxCopiesAgree_iff (pBuffer : Block Byte) (count : ULWord) (hlength : words.length < 2 ^ 32)
    (hrgba : rgba.length = words.length) :
    DpxCopiesAgree host pBuffer count rgba words bigEndian ↔
      bigEndian = false ∨
        rgba.map RGBAlpha10BitPixel.colours = words.map (wordColours true) := by
  obtain ⟨out, hout, hcolours⟩ := @ajaUnPack_spec host rgba words bigEndian hlength hrgba
  have hpacks : ajaPackRGB10BitFor10BitDPX host pBuffer count bigEndian =
      packRGB10BitFor10BitDPX host pBuffer count bigEndian := by
    simp only [ajaPackRGB10BitFor10BitDPX, packRGB10BitFor10BitDPX, ajaDpxWord_eq]
  have hagree : DpxCopiesAgree host pBuffer count rgba words bigEndian ↔
      out.map RGBAlpha10BitPixel.colours = words.map (wordColours bigEndian) := by
    constructor
    · rintro ⟨-, out', hout', heq⟩
      obtain rfl := Option.some.inj (hout.symm.trans hout')
      exact heq
    · exact fun heq => ⟨hpacks, out, hout, heq⟩
  rw [hagree, hcolours]
  cases bigEndian with
  | true => simp
  | false => simp

/-- Little-endian lines of two pixels. -/
theorem dpxCopiesAgree_iff_little :
    let line : Block Byte := ⟨lineBytes ⟨false⟩ [⟨1023, 512, 1, 3⟩, ⟨4, 5, 6, 0⟩], []⟩
    packRGB10BitFor10BitDPX ⟨false⟩ line 2 false ≠ none ∧
      DpxCopiesAgree ⟨false⟩ line 2 [⟨0, 0, 0, 7⟩, ⟨1, 2, 3, 4⟩] [0x12345678, 0xFFFFFFFF] false :=
  ⟨by decide +kernel, (dpxCopiesAgree_iff _ 2 (by decide) rfl).mpr (.inl rfl)⟩

/-- A big-endian white word leaves a black pixel black. -/
theorem not_dpxCopiesAgree_white :
    ¬ DpxCopiesAgree ⟨false⟩ ⟨[], []⟩ 0 [⟨0, 0, 0, 0⟩] [0xFFFFFFFF] true := by
  rintro ⟨-, out, hout, hcolours⟩
  have hblack : ajaUnPack10BitDPXtoRGBAlpha10BitPixel ⟨false⟩ [⟨0, 0, 0, 0⟩]
      (wordBytes ⟨false⟩ [0xFFFFFFFF]) 1 true = some [⟨0, 0, 0, 0⟩] := by decide
  obtain rfl := Option.some.inj (hblack.symm.trans hout)
  exact absurd hcolours (by decide)

end Agree

end LibAjaNtv2
