import LibAjaNtv2.Lib.Block
import LibAjaNtv2.Rpc.Nub

/-!
A line of 10-bit pixels in memory, and packing it in place (`ntv2videodefines.h`).

* `RGBAlpha10BitPixel`, `lineBytes`: a pixel of four words, and a line of them;
* `readPixel`, `readULWord`: what the code finds at an index of the line;
* `eachWord`: a loop that makes pixels of the words of a line, one by one; `eachWord_spec`: **each
  pixel is made of its word**;
* `Packing`: the state of a loop that packs a line over itself; `Packing.store`: **packing one
  more pixel keeps the pixels still to be read**.
-/

namespace LibAjaNtv2

/-- `RGBAlpha10BitPixel`. -/
structure RGBAlpha10BitPixel where
  Blue : UWord
  Green : UWord
  Red : UWord
  Alpha : UWord
  deriving DecidableEq, Repr

namespace RGBAlpha10BitPixel

/-- Its components have ten bits. -/
structure IsTenBit (px : RGBAlpha10BitPixel) : Prop where
  blue : px.Blue.toNat < 1024
  green : px.Green.toNat < 1024
  red : px.Red.toNat < 1024
  alpha : px.Alpha.toNat < 1024

instance (px : RGBAlpha10BitPixel) : Decidable px.IsTenBit :=
  decidable_of_iff (px.Blue.toNat < 1024 ∧ px.Green.toNat < 1024 ∧ px.Red.toNat < 1024 ∧
    px.Alpha.toNat < 1024) ⟨fun ⟨h₁, h₂, h₃, h₄⟩ => ⟨h₁, h₂, h₃, h₄⟩, fun h => ⟨h.1, h.2, h.3, h.4⟩⟩

/-- The eight bytes of a pixel in memory. -/
def bytes (host : Host) (px : RGBAlpha10BitPixel) : List Byte :=
  host.memory 2 px.Blue ++ host.memory 2 px.Green ++ host.memory 2 px.Red ++
    host.memory 2 px.Alpha

@[simp] lemma length_bytes (host : Host) (px : RGBAlpha10BitPixel) :
    (px.bytes host).length = 8 := by
  simp [bytes]

end RGBAlpha10BitPixel

/-- A line of pixels in memory. -/
def lineBytes (host : Host) (pixels : List RGBAlpha10BitPixel) : List Byte :=
  pixels.flatMap (RGBAlpha10BitPixel.bytes host)

/-- `pBuffer [pixel]`. -/
def readPixel (host : Host) (mem : List Byte) (pixel : ℕ) : Option RGBAlpha10BitPixel :=
  match mem.drop (8 * pixel) with
  | b0 :: b1 :: b2 :: b3 :: b4 :: b5 :: b6 :: b7 :: _ =>
      some ⟨host.word 16 [b0, b1], host.word 16 [b2, b3], host.word 16 [b4, b5],
        host.word 16 [b6, b7]⟩
  | _ => none

/-- `pInputLine [index]`, where the line is one of words. -/
def readULWord (host : Host) (mem : List Byte) (index : ℕ) : Option ULWord :=
  match mem.drop (4 * index) with
  | b0 :: b1 :: b2 :: b3 :: _ => some (host.word 32 [b0, b1, b2, b3])
  | _ => none

section Reading

variable {host : Host} {pixels : List RGBAlpha10BitPixel} {mem rest : List Byte}

lemma exists_memory_two (host : Host) (v : UWord) :
    ∃ b0 b1, host.memory 2 v = [b0, b1] ∧ host.word 16 [b0, b1] = v := by
  obtain ⟨b0, b1, heq⟩ := List.length_eq_two.mp (length_memory host 2 v)
  exact ⟨b0, b1, heq, by rw [← heq, host.word_memory v (by omega)]⟩

/-- A pixel is found where its bytes are. -/
lemma readPixel_eq {pixel : ℕ} {px : RGBAlpha10BitPixel}
    (h : mem.drop (8 * pixel) = px.bytes host ++ rest) : readPixel host mem pixel = some px := by
  obtain ⟨b0, b1, hblue, hblue'⟩ := exists_memory_two host px.Blue
  obtain ⟨g0, g1, hgreen, hgreen'⟩ := exists_memory_two host px.Green
  obtain ⟨r0, r1, hred, hred'⟩ := exists_memory_two host px.Red
  obtain ⟨a0, a1, halpha, halpha'⟩ := exists_memory_two host px.Alpha
  rw [RGBAlpha10BitPixel.bytes, hblue, hgreen, hred, halpha] at h
  rw [readPixel, h]
  simp only [List.cons_append, List.nil_append, hblue', hgreen', hred', halpha']

/-- A word is found where its bytes are. -/
lemma readULWord_eq {index : ℕ} {v : ULWord} (h : (mem.drop (4 * index)).take 4 = host.memory 4 v) :
    readULWord host mem index = some v := by
  have hlength : ((mem.drop (4 * index)).take 4).length = 4 := by rw [h, length_memory]
  rw [readULWord]
  match hmem : mem.drop (4 * index) with
  | [] => simp [hmem] at hlength
  | [_] => simp [hmem] at hlength
  | [_, _] => simp [hmem] at hlength
  | [_, _, _] => simp [hmem] at hlength
  | b0 :: b1 :: b2 :: b3 :: rest =>
      have hword : [b0, b1, b2, b3] = host.memory 4 v := by rw [← h, hmem]; rfl
      simp only [hword, host.word_memory v (show 32 ≤ 8 * 4 by omega)]

@[simp] lemma length_lineBytes : (lineBytes host pixels).length = 8 * pixels.length := by
  simp [lineBytes, Nat.mul_comm]

/-- The line from a pixel on. -/
lemma drop_lineBytes (pixel : ℕ) :
    (lineBytes host pixels).drop (8 * pixel) = lineBytes host (pixels.drop pixel) := by
  induction pixel generalizing pixels with
  | zero => rfl
  | succ pixel ih =>
      cases pixels with
      | nil => simp [lineBytes]
      | cons px pixels =>
          rw [lineBytes, List.flatMap_cons, Nat.mul_succ, Nat.add_comm, ← List.drop_drop,
            List.drop_left' (px.length_bytes host), List.drop_succ_cons]
          exact ih

end Reading

/-! ### Packing a line over itself -/

/-- After some pixels: the packed ones, `size` bytes each, stand at the start of the memory, and
those not packed yet stand where they stood. -/
structure Packing (host : Host) (pixels : List RGBAlpha10BitPixel) (size : ℕ)
    (pack : RGBAlpha10BitPixel → List Byte) (pixel : ℕ) (b : Block Byte) : Prop where
  length_eq : b.cells.length = 8 * pixels.length
  unread : b.cells.drop (8 * pixel) = lineBytes host (pixels.drop pixel)
  packed : ∀ i < pixel, ∀ px, pixels[i]? = some px → (b.cells.drop (size * i)).take size = pack px

namespace Packing

variable {host : Host} {pixels : List RGBAlpha10BitPixel} {size pixel : ℕ}
  {pack : RGBAlpha10BitPixel → List Byte} {b out : Block Byte} {px : RGBAlpha10BitPixel}

lemma start : Packing host pixels size pack 0 ⟨lineBytes host pixels, []⟩ :=
  ⟨length_lineBytes, rfl, fun _ hi => absurd hi (Nat.not_lt_zero _)⟩

lemma congr (h : Packing host pixels size pack pixel b) (heq : out.cells = b.cells) :
    Packing host pixels size pack pixel out :=
  ⟨heq ▸ h.length_eq, heq ▸ h.unread, heq ▸ h.packed⟩

/-- The next pixel is still there. -/
lemma read (h : Packing host pixels size pack pixel b) (hpx : pixels[pixel]? = some px) :
    readPixel host b.cells pixel = some px := by
  refine @readPixel_eq host _ (lineBytes host (pixels.drop (pixel + 1))) _ _ ?_
  rw [h.unread, lineBytes, List.drop_eq_getElem_cons (List.getElem?_eq_some_iff.mp hpx).1,
    List.flatMap_cons, (List.getElem?_eq_some_iff.mp hpx).2]
  rfl

/-- **One more pixel packed.** -/
lemma store (h : Packing host pixels size pack pixel b) (hpx : pixels[pixel]? = some px)
    (hsize : size ≤ 8) (hpack : (pack px).length = size)
    (hout : b.store (size * pixel) (pack px) = some out) :
    Packing host pixels size pack (pixel + 1) out := by
  have hroom : size * pixel + size ≤ 8 * (pixel + 1) := by
    calc size * pixel + size = size * (pixel + 1) := by ring
      _ ≤ 8 * (pixel + 1) := Nat.mul_le_mul_right _ hsize
  refine ⟨by rw [Block.length_move hout, h.length_eq], ?_, fun i hi px' hpx' => ?_⟩
  · have hrest := @drop_lineBytes host (pixels.drop pixel) 1
    rw [List.drop_drop] at hrest
    rw [Block.drop_store hout (by omega), Nat.mul_succ, ← List.drop_drop, h.unread]
    exact hrest
  · rcases Nat.lt_succ_iff_lt_or_eq.mp hi with hlt | rfl
    · rw [Block.slice_store_of_le hout, h.packed i hlt px' hpx']
      calc size * i + size = size * (i + 1) := by ring
        _ ≤ size * pixel := Nat.mul_le_mul_left _ hlt
    · rw [hpx] at hpx'
      cases hpx'
      have hself := Block.slice_store_self hout
      rwa [hpack] at hself

end Packing

/-! ### Pixels made of words -/

/-- The words of a line in memory. -/
def wordBytes (host : Host) (words : List ULWord) : List Byte := words.flatMap (host.memory 4)

/-- A loop over the words of a line, from a pixel on: each changes the pixel of its number. -/
def eachWord (host : Host) (pixelOf : RGBAlpha10BitPixel → ULWord → RGBAlpha10BitPixel)
    (line : List Byte) : ℕ → ℕ → List RGBAlpha10BitPixel → Option (List RGBAlpha10BitPixel)
  | 0, _, rgba10BitBuffer => some rgba10BitBuffer
  | rounds + 1, pixel, rgba10BitBuffer => do
      let value ← readULWord host line pixel
      let px ← rgba10BitBuffer[pixel]?
      eachWord host pixelOf line rounds (pixel + 1) (rgba10BitBuffer.set pixel (pixelOf px value))

section Words

variable {host : Host} {pixelOf : RGBAlpha10BitPixel → ULWord → RGBAlpha10BitPixel}
  {line : List Byte} {words : List ULWord} {rgba : List RGBAlpha10BitPixel}

/-- The words from one of them on. -/
lemma drop_wordBytes (index : ℕ) :
    (wordBytes host words).drop (4 * index) = wordBytes host (words.drop index) := by
  induction index generalizing words with
  | zero => rfl
  | succ index ih =>
      cases words with
      | nil => simp [wordBytes]
      | cons v words =>
          rw [wordBytes, List.flatMap_cons, Nat.mul_succ, Nat.add_comm, ← List.drop_drop,
            List.drop_left' (length_memory host 4 v), List.drop_succ_cons]
          exact ih

/-- The words of a line are read. -/
lemma readULWord_wordBytes {index : ℕ} (hindex : index < words.length) :
    readULWord host (wordBytes host words) index = some words[index] := by
  refine readULWord_eq ?_
  rw [drop_wordBytes, List.drop_eq_getElem_cons hindex, wordBytes, List.flatMap_cons]
  exact List.take_left' (length_memory host 4 _)

/-- **Each pixel is made of its word.** -/
lemma eachWord_spec {value : ℕ → ULWord} {rounds pixel : ℕ}
    (hrounds : pixel + rounds = rgba.length)
    (hvalue : ∀ i < rgba.length, readULWord host line i = some (value i)) :
    ∃ out, eachWord host pixelOf line rounds pixel rgba = some out ∧
      out.length = rgba.length ∧ ∀ i, out[i]? =
        if pixel ≤ i then (rgba[i]?).map fun px => pixelOf px (value i) else rgba[i]? := by
  induction rounds generalizing pixel rgba with
  | zero =>
      refine ⟨rgba, rfl, rfl, fun i => ?_⟩
      split_ifs with hi
      · rw [List.getElem?_eq_none (by omega), Option.map_none]
      · rfl
  | succ rounds ih =>
      have hlt : pixel < rgba.length := by omega
      have hpx : rgba[pixel]? = some rgba[pixel] := List.getElem?_eq_getElem hlt
      obtain ⟨out, hout, hlength, hcells⟩ := @ih
        (rgba.set pixel (pixelOf rgba[pixel] (value pixel))) (pixel + 1)
        (by rw [List.length_set]; omega) (by rwa [List.length_set])
      refine ⟨out, ?_, by rw [hlength, List.length_set], fun i => ?_⟩
      · rw [eachWord, hvalue pixel (by omega), Option.bind_eq_bind, Option.bind_some, hpx]
        exact hout
      · rw [hcells i, List.getElem?_set]
        rcases Nat.lt_trichotomy i pixel with hlt | rfl | hgt
        · rw [if_neg (by omega), if_neg (by omega), if_neg (by omega)]
        · rw [if_neg (by omega), if_pos rfl, if_pos (by omega), if_pos le_rfl, hpx, Option.map_some]
        · rw [if_pos (by omega), if_neg (by omega), if_pos (by omega)]

end Words

end LibAjaNtv2
