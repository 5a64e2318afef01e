import LibAjaNtv2.Lib.Counted
import LibAjaNtv2.Pixels.Line

/-!
A line of 10-bit YCbCr components converted to the YCbCr frame buffer formats (`ntv2utils.cpp`,
`ntv2transcode.cpp`).

* `packTo10BitYCbCrBuffer`, `convertLineTo8BitYCbCr`, `convert8BitYCbCrToYUY2`,
  `rePackLineDataForYCbCrDPX`: the stages;
* `convertUnpacked10BitYCbCrToPixelFormat`: the conversion to each format;
* `lineEncoding`: the bytes of a line in a format;
* `FilledTo`: a block filled up to some cell; `FilledTo.store`: **one more store carries it on**;
* `convert_fills`: what the conversions other than to DPX fill;
* `fillsLine_iff`: **a line is filled** in every format but DPX, while its components are counted
  by 32 bits.
-/

namespace LibAjaNtv2

/-- The YCbCr formats among those of the conversion. -/
inductive YCbCrLineFormat
  | NTV2_FBF_10BIT_YCBCR
  | NTV2_FBF_8BIT_YCBCR
  | NTV2_FBF_8BIT_YCBCR_YUY2
  | NTV2_FBF_10BIT_YCBCR_DPX
  deriving DecidableEq, Repr

open YCbCrLineFormat

/-! ### The functions -/

/-- `CalcRowBytesForFormat`. -/
def calcRowBytesForFormat (inPixelFormat : YCbCrLineFormat) (inPixelWidth : ULWord) : ULWord :=
  match inPixelFormat with
  | NTV2_FBF_8BIT_YCBCR => inPixelWidth * 2
  | NTV2_FBF_8BIT_YCBCR_YUY2 => inPixelWidth * 2
  | NTV2_FBF_10BIT_YCBCR =>
      (if inPixelWidth % 48 = 0 then inPixelWidth else (inPixelWidth / 48 + 1) * 48) * 8 / 3
  | NTV2_FBF_10BIT_YCBCR_DPX =>
      (if inPixelWidth % 48 = 0 then inPixelWidth else (inPixelWidth / 48 + 1) * 48) * 8 / 3

/-- A word of three components. -/
def tripleWord (c0 c1 c2 : UWord) : ULWord :=
  c0.setWidth 32 + (c1.setWidth 32 <<< 10) + (c2.setWidth 32 <<< 20)

/-- The word of three components of a line. -/
def tripleWordAt (ycbcrBuffer : List UWord) (index : ULWord) : Option ULWord := do
  let c0 ← ycbcrBuffer[index.toNat]?
  let c1 ← ycbcrBuffer[(index + 1#32).toNat]?
  let c2 ← ycbcrBuffer[(index + 2#32).toNat]?
  some (tripleWord c0 c1 c2)

/-- A round of `PackTo10BitYCbCrBuffer`: four words from `outputCount` on. -/
def packRound (host : Host) (ycbcrBuffer : List UWord) (inputCount : ULWord)
    (s : Block Byte × ULWord) : Option (Block Byte × ULWord) := do
  let v0 ← tripleWordAt ycbcrBuffer inputCount
  let v1 ← tripleWordAt ycbcrBuffer (inputCount + 3#32)
  let v2 ← tripleWordAt ycbcrBuffer (inputCount + 6#32)
  let v3 ← tripleWordAt ycbcrBuffer (inputCount + 9#32)
  let packedBuffer ← s.1.store (4 * s.2.toNat) (wordBytes host [v0, v1, v2, v3])
  some (packedBuffer, s.2 + 4#32)

/-- `PackTo10BitYCbCrBuffer`. -/
def packTo10BitYCbCrBuffer (host : Host) (ycbcrBuffer : List UWord) (packedBuffer : Block Byte)
    (numPixels : ULWord) (fuel : ℕ) : Option (Block Byte) :=
  (Counted.run 12 (numPixels * 2).toNat (packRound host ycbcrBuffer) fuel 0#32
    (packedBuffer, 0#32)).map Prod.fst

/-- The byte of a component. -/
def componentByte (c : UWord) : Byte := (c >>> 2).setWidth 8

/-- A round of `ConvertLineTo8BitYCbCr`. -/
def byteRound (ycbcr10BitBuffer : List UWord) (pixel : ULWord) (ycbcr8BitBuffer : Block Byte) :
    Option (Block Byte) := do
  let c ← ycbcr10BitBuffer[pixel.toNat]?
  ycbcr8BitBuffer.store pixel.toNat [componentByte c]

/-- `ConvertLineTo8BitYCbCr`. -/
def convertLineTo8BitYCbCr (ycbcr10BitBuffer : List UWord) (ycbcr8BitBuffer : Block Byte)
    (numPixels : ULWord) (fuel : ℕ) : Option (Block Byte) :=
  Counted.run 1 (numPixels * 2).toNat (byteRound ycbcr10BitBuffer) fuel 0#32 ycbcr8BitBuffer

/-- A round of `Convert8BitYCbCrToYUY2`: two pixels, in place. -/
def yuy2Round (pixel : ULWord) (ycbcrBuffer : Block Byte) : Option (Block Byte) := do
  let Cb ← ycbcrBuffer.cells[pixel.toNat]?
  let Y1 ← ycbcrBuffer.cells[(pixel + 1#32).toNat]?
  let Cr ← ycbcrBuffer.cells[(pixel + 2#32).toNat]?
  let Y2 ← ycbcrBuffer.cells[(pixel + 3#32).toNat]?
  ycbcrBuffer.store pixel.toNat [Y1, Cb, Y2, Cr]

/-- `Convert8BitYCbCrToYUY2`. -/
def convert8BitYCbCrToYUY2 (ycbcrBuffer : Block Byte) (numPixels : ULWord) (fuel : ℕ) :
    Option (Block Byte) :=
  Counted.run 4 (numPixels * 2).toNat yuy2Round fuel 0#32 ycbcrBuffer

/-- A word shifted up by two bits, its bytes the other way round. -/
def repackWord (v : ULWord) : ULWord :=
  let value := v <<< 2
  (value <<< 24) + ((value >>> 24) &&& 0x000000FF) + ((value <<< 8) &&& 0x00FF0000) +
    ((value >>> 8) &&& 0x0000FF00)

/-- A round of `RePackLineDataForYCbCrDPX`. -/
def repackRound (host : Host) (count : UWord) (packedycbcrLine : Block Byte) :
    Option (Block Byte) := do
  let v ← readULWord host packedycbcrLine.cells count.toNat
  packedycbcrLine.store (4 * count.toNat) (host.memory 4 (repackWord v))

/-- `RePackLineDataForYCbCrDPX`. Its counter has 16 bits. -/
def rePackLineDataForYCbCrDPX (host : Host) (packedycbcrLine : Block Byte) (numULWords : ULWord)
    (fuel : ℕ) : Option (Block Byte) :=
  Counted.run 1 numULWords.toNat (repackRound host) fuel 0#16 packedycbcrLine

/-- `ConvertUnpacked10BitYCbCrToPixelFormat`. There is no result where it leaves one of the
buffers, or does not end. -/
def convertUnpacked10BitYCbCrToPixelFormat (host : Host) (unPackedBuffer : List UWord)
    (packedBuffer : Block Byte) (numPixels : ULWord) (pixelFormat : YCbCrLineFormat) (fuel : ℕ) :
    Option (Block Byte) :=
  match pixelFormat with
  | NTV2_FBF_10BIT_YCBCR => packTo10BitYCbCrBuffer host unPackedBuffer packedBuffer numPixels fuel
  | NTV2_FBF_8BIT_YCBCR => convertLineTo8BitYCbCr unPackedBuffer packedBuffer numPixels fuel
  | NTV2_FBF_8BIT_YCBCR_YUY2 =>
      (convertLineTo8BitYCbCr unPackedBuffer packedBuffer numPixels fuel).bind fun packedBuffer =>
        convert8BitYCbCrToYUY2 packedBuffer numPixels fuel
  | NTV2_FBF_10BIT_YCBCR_DPX =>
      -- the components are not packed first, and the row bytes stand for words
      rePackLineDataForYCbCrDPX host packedBuffer
        (calcRowBytesForFormat NTV2_FBF_10BIT_YCBCR_DPX numPixels) fuel

/-! ### What a line is to be -/

/-- The words of a line of components. -/
def tripleWords (ycbcr : List UWord) : List ULWord :=
  (List.range (ycbcr.length / 3)).map fun i =>
    tripleWord (ycbcr.getD (3 * i) 0) (ycbcr.getD (3 * i + 1) 0) (ycbcr.getD (3 * i + 2) 0)

/-- The component whose byte comes at a place of a YUY2 line: each luma before its chroma. -/
def yuy2Index (i : ℕ) : ℕ := if i % 2 = 0 then i + 1 else i - 1

/-- The bytes of a line in a format. -/
def lineEncoding (host : Host) (ycbcr : List UWord) : YCbCrLineFormat → List Byte
  | NTV2_FBF_10BIT_YCBCR => wordBytes host (tripleWords ycbcr)
  | NTV2_FBF_8BIT_YCBCR => ycbcr.map componentByte
  | NTV2_FBF_8BIT_YCBCR_YUY2 =>
      (List.range ycbcr.length).map fun i => componentByte (ycbcr.getD (yuy2Index i) 0)
  | NTV2_FBF_10BIT_YCBCR_DPX => wordBytes host ((tripleWords ycbcr).map repackWord)

/-- The row bytes of a line, which are 128 for every 48 pixels begun where three components are a
word. -/
def lineRowBytes (n : ℕ) : YCbCrLineFormat → ℕ
  | NTV2_FBF_8BIT_YCBCR => 2 * n
  | NTV2_FBF_8BIT_YCBCR_YUY2 => 2 * n
  | NTV2_FBF_10BIT_YCBCR => (n + 47) / 48 * 128
  | NTV2_FBF_10BIT_YCBCR_DPX => (n + 47) / 48 * 128

/-- The conversion of a line of so many pixels ends, stays inside the row bytes, and leaves the
encoding of the components, whatever they are and whatever stood there. -/
def FillsLine (host : Host) (numPixels : ULWord) (pixelFormat : YCbCrLineFormat) : Prop :=
  ∀ ycbcr : List UWord, ycbcr.length = 2 * numPixels.toNat → (∀ c ∈ ycbcr, c.toNat < 1024) →
    ∀ dst : Block Byte, lineRowBytes numPixels.toNat pixelFormat ≤ dst.cells.length →
      ∃ fuel out, convertUnpacked10BitYCbCrToPixelFormat host ycbcr dst numPixels pixelFormat fuel =
          some out ∧
        out.cells = lineEncoding host ycbcr pixelFormat ++
          dst.cells.drop (lineEncoding host ycbcr pixelFormat).length

/-! ### Blocks filled from the start -/

/-- The first cells of a block are those of a list, and the others as they were. -/
structure FilledTo (line : List Byte) (b₀ : Block Byte) (n : ℕ) (b : Block Byte) : Prop where
  fits : n ≤ line.length
  inside : n ≤ b₀.cells.length
  cells_eq : b.cells = line.take n ++ b₀.cells.drop n

namespace FilledTo

variable {line : List Byte} {b₀ b : Block Byte} {n : ℕ}

lemma refl : FilledTo line b₀ 0 b₀ := ⟨Nat.zero_le _, Nat.zero_le _, rfl⟩

/-- The cells not filled yet. -/
lemma getElem?_of_le (h : FilledTo line b₀ n b) {i : ℕ} (hi : n ≤ i) :
    b.cells[i]? = b₀.cells[i]? := by
  have hlength : (line.take n).length = n := by
    rw [List.length_take, Nat.min_eq_left h.fits]
  rw [h.cells_eq, List.getElem?_append_right (by omega), hlength, List.getElem?_drop,
    Nat.add_sub_cancel' hi]

/-- **One more store** where the last one ended. -/
lemma store (h : FilledTo line b₀ n b) (data : List Byte) {k : ℕ} (hsize : data.length = k)
    (hdata : (line.drop n).take k = data) (hroom : n + k ≤ b₀.cells.length) :
    ∃ out, b.store n data = some out ∧ FilledTo line b₀ (n + k) out := by
  subst hsize
  have hlength : (line.take n).length = n := by
    rw [List.length_take, Nat.min_eq_left h.fits]
  have hb : b.cells.length = b₀.cells.length := by
    have hinside := h.inside
    rw [h.cells_eq, List.length_append, hlength, List.length_drop]
    omega
  obtain ⟨out, hout⟩ := Block.exists_store (b := b) (hb ▸ hroom)
  have hmove := (Block.move_eq_some_iff.mp hout).2
  have hfits : n + data.length ≤ line.length := by
    have hle := congrArg List.length hdata
    rw [List.length_take, List.length_drop] at hle
    have hn := h.fits
    omega
  refine ⟨out, hout, hfits, hroom, ?_⟩
  have hcells : out.cells = b.cells.take n ++ data ++ b.cells.drop (n + data.length) := by
    rw [hmove]
    simp [Move.dst, Move.len, Move.data]
  have hdrop : b.cells.drop (n + data.length) = b₀.cells.drop (n + data.length) := by
    rw [h.cells_eq, List.drop_append, hlength, List.drop_of_length_le (by omega), List.nil_append,
      List.drop_drop]
    congr 1
    omega
  rw [hcells, hdrop, h.cells_eq, List.take_left' hlength, List.take_add, hdata]

end FilledTo

/-! ### The stages -/

section Stages

variable {host : Host} {ycbcr : List UWord} {b₀ dst : Block Byte} {rounds : ℕ}

lemma toNat_add_ofNat {count : ULWord} {n k : ℕ} (hcount : count = BitVec.ofNat 32 n)
    (hfit : n + k < 2 ^ 32) : (count + BitVec.ofNat 32 k).toNat = n + k := by
  rw [hcount, ← BitVec.ofNat_add, BitVec.toNat_ofNat, Nat.mod_eq_of_lt hfit]

/-- The word of three components that are there. -/
lemma tripleWordAt_eq {count : ULWord} {n : ℕ} (hcount : count = BitVec.ofNat 32 n)
    (hfit : n + 2 < 2 ^ 32) (hlen : n + 2 < ycbcr.length) :
    tripleWordAt ycbcr count =
      some (tripleWord (ycbcr.getD n 0) (ycbcr.getD (n + 1) 0) (ycbcr.getD (n + 2) 0)) := by
  have hget : ∀ k ≤ 2, ycbcr[n + k]? = some (ycbcr.getD (n + k) 0) := by
    intro k hk
    rw [List.getD_eq_getElem?_getD, List.getElem?_eq_getElem (by omega), Option.getD_some]
  have hzero : count.toNat = n := by
    rw [hcount, BitVec.toNat_ofNat, Nat.mod_eq_of_lt (by omega)]
  have hone := toNat_add_ofNat hcount (show n + 1 < 2 ^ 32 by omega)
  have htwo := toNat_add_ofNat hcount hfit
  have hget0 := hget 0 (by omega)
  rw [Nat.add_zero] at hget0
  simp only [tripleWordAt, Option.bind_eq_bind]
  rw [hzero, hget0, Option.bind_some, hone, hget 1 (by omega), Option.bind_some, htwo,
    hget 2 le_rfl, Option.bind_some]

@[simp] lemma length_wordBytes (words : List ULWord) :
    (wordBytes host words).length = 4 * words.length := by
  simp [wordBytes, Nat.mul_comm]

lemma length_tripleWords : (tripleWords ycbcr).length = ycbcr.length / 3 := by
  simp [tripleWords]

/-- Four entries of a list from one of them on. -/
lemma take_four_drop {α : Type*} {l : List α} (d : α) {k : ℕ} (hk : k + 4 ≤ l.length) :
    (l.drop k).take 4 = [l.getD k d, l.getD (k + 1) d, l.getD (k + 2) d, l.getD (k + 3) d] := by
  have hget : ∀ j, (hj : j < l.length) → l[j] = l.getD j d := fun j hj => by
    rw [List.getD_eq_getElem?_getD, List.getElem?_eq_getElem hj, Option.getD_some]
  rw [List.drop_eq_getElem_cons (by omega), List.drop_eq_getElem_cons (by omega),
    List.drop_eq_getElem_cons (by omega), List.drop_eq_getElem_cons (by omega), hget, hget, hget,
    hget]
  rfl

/-- Four words of a line from one of them on. -/
lemma take_wordBytes_drop {words : List ULWord} {k : ℕ} (hk : k + 4 ≤ words.length) :
    ((wordBytes host words).drop (4 * k)).take 16 = wordBytes host
      [words.getD k 0, words.getD (k + 1) 0, words.getD (k + 2) 0, words.getD (k + 3) 0] := by
  rw [← take_four_drop 0 hk, drop_wordBytes]
  conv_lhs => rw [← List.take_append_drop 4 (words.drop k), wordBytes, List.flatMap_append]
  refine List.take_left' ?_
  rw [← wordBytes, length_wordBytes, List.length_take, List.length_drop]
  omega

/-- **The packer** fills sixteen bytes a round. -/
lemma packTo10Bit_fills (numPixels : ULWord)
    (h : Counted.Ends 32 12 (numPixels * 2).toNat rounds) (hline : 12 * rounds ≤ ycbcr.length)
    (hroom : 16 * rounds ≤ dst.cells.length) :
    ∃ out, packTo10BitYCbCrBuffer host ycbcr dst numPixels (rounds + 1) = some out ∧
      FilledTo (wordBytes host (tripleWords ycbcr)) dst (16 * rounds) out := by
  have hbody : ∀ round < rounds, ∀ s : Block Byte × ULWord,
      (FilledTo (wordBytes host (tripleWords ycbcr)) dst (16 * round) s.1 ∧
        s.2 = BitVec.ofNat 32 (4 * round)) →
      ∃ s', packRound host ycbcr (BitVec.ofNat 32 (12 * round)) s = some s' ∧
        (FilledTo (wordBytes host (tripleWords ycbcr)) dst (16 * (round + 1)) s'.1 ∧
          s'.2 = BitVec.ofNat 32 (4 * (round + 1))) := by
    rintro round hround ⟨b, outputCount⟩ ⟨hb, rfl⟩
    have hfits := h.fits
    have hword : ∀ k < 4, tripleWordAt ycbcr (BitVec.ofNat 32 (12 * round) +
        BitVec.ofNat 32 (3 * k)) = some ((tripleWords ycbcr).getD (4 * round + k) 0) := by
      intro k hk
      have hlt : 4 * round + k < ycbcr.length / 3 := by omega
      have hgetD : (tripleWords ycbcr).getD (4 * round + k) 0 =
          tripleWord (ycbcr.getD (3 * (4 * round + k)) 0) (ycbcr.getD (3 * (4 * round + k) + 1) 0)
            (ycbcr.getD (3 * (4 * round + k) + 2) 0) := by
        rw [tripleWords, List.getD_eq_getElem?_getD, List.getElem?_map, List.getElem?_range hlt]
        rfl
      rw [← BitVec.ofNat_add, tripleWordAt_eq rfl (by omega) (by omega), hgetD, Nat.mul_add,
        ← Nat.mul_assoc]
    have h0 := hword 0 (by decide)
    rw [Nat.mul_zero, BitVec.add_zero, Nat.add_zero] at h0
    have hwords : 4 * round + 4 ≤ (tripleWords ycbcr).length := by
      rw [length_tripleWords]
      omega
    have htake := @take_wordBytes_drop host _ _ hwords
    rw [← Nat.mul_assoc, show 4 * 4 = 16 from rfl] at htake
    have hcount : (BitVec.ofNat 32 (4 * round)).toNat = 4 * round := by
      rw [BitVec.toNat_ofNat, Nat.mod_eq_of_lt (by omega)]
    obtain ⟨out, hout, hfilled⟩ := hb.store (wordBytes host [_, _, _, _]) (length_wordBytes _) htake
      (by simp only [List.length_cons, List.length_nil]; omega)
    refine ⟨(out, BitVec.ofNat 32 (4 * round) + 4#32), ?_, hfilled, ?_⟩
    · simp only [packRound, Option.bind_eq_bind]
      rw [h0, Option.bind_some, hword 1 (by decide), Option.bind_some, hword 2 (by decide),
        Option.bind_some, hword 3 (by decide), Option.bind_some, hcount, ← Nat.mul_assoc]
      exact congrArg (Option.bind · _) hout
    · rw [← BitVec.ofNat_add, Nat.mul_succ]
  obtain ⟨⟨out, outputCount⟩, hout, hfilled, -⟩ :=
    @Counted.run_start 32 12 _ rounds _ _ (fun round s =>
      FilledTo (wordBytes host (tripleWords ycbcr)) dst (16 * round) s.1 ∧
        s.2 = BitVec.ofNat 32 (4 * round)) h hbody (dst, 0#32) ⟨FilledTo.refl, rfl⟩
  exact ⟨out, by rw [packTo10BitYCbCrBuffer, hout, Option.map_some], hfilled⟩

/-- **The conversion to bytes** fills one byte a round. -/
lemma convertLineTo8Bit_fills (numPixels : ULWord)
    (hline : (numPixels * 2).toNat ≤ ycbcr.length)
    (hroom : (numPixels * 2).toNat ≤ dst.cells.length) :
    ∃ out, convertLineTo8BitYCbCr ycbcr dst numPixels ((numPixels * 2).toNat + 1) = some out ∧
      FilledTo (ycbcr.map componentByte) dst (numPixels * 2).toNat out := by
  have hlimit := (numPixels * 2).isLt
  have h : Counted.Ends 32 1 (numPixels * 2).toNat (numPixels * 2).toNat :=
    ⟨by omega, fun round hround => by omega, by omega⟩
  refine Counted.run_start h (P := fun round b => FilledTo (ycbcr.map componentByte) dst round b)
    (fun round hround b hb => ?_) FilledTo.refl
  have hcount : (BitVec.ofNat 32 (1 * round)).toNat = round := by
    rw [Nat.one_mul, BitVec.toNat_ofNat, Nat.mod_eq_of_lt (by omega)]
  have hget : ycbcr[round]? = some ycbcr[round] := List.getElem?_eq_getElem (by omega)
  have htake : ((ycbcr.map componentByte).drop round).take 1 = [componentByte ycbcr[round]] := by
    rw [List.drop_eq_getElem_cons (by rw [List.length_map]; omega), List.getElem_map]
    rfl
  obtain ⟨out, hout, hfilled⟩ := hb.store [componentByte ycbcr[round]] (k := 1) rfl htake (by omega)
  refine ⟨out, ?_, hfilled⟩
  rw [byteRound, hcount, hget, Option.bind_eq_bind, Option.bind_some]
  exact hout

/-- **The exchange in place** fills four bytes a round with those of the line before it. -/
lemma convert8BitYCbCrToYUY2_fills (numPixels : ULWord) (hfour : (numPixels * 2).toNat % 4 = 0)
    (hline : (numPixels * 2).toNat ≤ ycbcr.length)
    (hdst : FilledTo (ycbcr.map componentByte) b₀ (numPixels * 2).toNat dst) :
    ∃ out, convert8BitYCbCrToYUY2 dst numPixels ((numPixels * 2).toNat / 4 + 1) = some out ∧
      FilledTo (lineEncoding host ycbcr NTV2_FBF_8BIT_YCBCR_YUY2) dst (numPixels * 2).toNat
        out := by
  have hlimit := (numPixels * 2).isLt
  have h : Counted.Ends 32 4 (numPixels * 2).toNat ((numPixels * 2).toNat / 4) :=
    ⟨by omega, fun round hround => by omega, by omega⟩
  have hsize : (numPixels * 2).toNat ≤ dst.cells.length := by
    have hfits := hdst.fits
    rw [hdst.cells_eq, List.length_append, List.length_take]
    omega
  have hcell : ∀ i < (numPixels * 2).toNat,
      dst.cells[i]? = some (componentByte (ycbcr.getD i 0)) := by
    intro i hi
    have hget : ycbcr[i]? = some (ycbcr.getD i 0) := by
      rw [List.getD_eq_getElem?_getD, List.getElem?_eq_getElem (by omega), Option.getD_some]
    rw [hdst.cells_eq, List.getElem?_append_left (by rw [List.length_take, List.length_map]; omega),
      List.getElem?_take_of_lt hi, List.getElem?_map, hget, Option.map_some]
  have hlength : (lineEncoding host ycbcr NTV2_FBF_8BIT_YCBCR_YUY2).length = ycbcr.length := by
    simp [lineEncoding]
  have hyuy2 : ∀ i < (numPixels * 2).toNat,
      (lineEncoding host ycbcr NTV2_FBF_8BIT_YCBCR_YUY2).getD i 0 =
        componentByte (ycbcr.getD (yuy2Index i) 0) := by
    intro i hi
    rw [lineEncoding, List.getD_eq_getElem?_getD, List.getElem?_map,
      List.getElem?_range (by omega), Option.map_some, Option.getD_some]
  suffices hrun : ∃ out, convert8BitYCbCrToYUY2 dst numPixels ((numPixels * 2).toNat / 4 + 1) =
      some out ∧ FilledTo (lineEncoding host ycbcr NTV2_FBF_8BIT_YCBCR_YUY2) dst
        (4 * ((numPixels * 2).toNat / 4)) out by
    rwa [show 4 * ((numPixels * 2).toNat / 4) = (numPixels * 2).toNat by omega] at hrun
  refine Counted.run_start h (P := fun round b => FilledTo
    (lineEncoding host ycbcr NTV2_FBF_8BIT_YCBCR_YUY2) dst (4 * round) b)
    (fun round hround b hb => ?_) FilledTo.refl
  have hread : ∀ k < 4, b.cells[(BitVec.ofNat 32 (4 * round) + BitVec.ofNat 32 k).toNat]? =
      some (componentByte (ycbcr.getD (4 * round + k) 0)) := by
    intro k hk
    rw [toNat_add_ofNat rfl (by omega), hb.getElem?_of_le (by omega), hcell _ (by omega)]
  have hcount : (BitVec.ofNat 32 (4 * round)).toNat = 4 * round := by
    rw [BitVec.toNat_ofNat, Nat.mod_eq_of_lt (by omega)]
  have htake := take_four_drop (l := lineEncoding host ycbcr NTV2_FBF_8BIT_YCBCR_YUY2) 0
    (k := 4 * round) (by omega)
  rw [hyuy2 _ (by omega), hyuy2 _ (by omega), hyuy2 _ (by omega), hyuy2 _ (by omega)] at htake
  have hindex : yuy2Index (4 * round) = 4 * round + 1 ∧ yuy2Index (4 * round + 1) = 4 * round ∧
      yuy2Index (4 * round + 2) = 4 * round + 3 ∧ yuy2Index (4 * round + 3) = 4 * round + 2 := by
    simp only [yuy2Index]
    refine ⟨?_, ?_, ?_, ?_⟩ <;> split_ifs <;> omega
  rw [hindex.1, hindex.2.1, hindex.2.2.1, hindex.2.2.2] at htake
  obtain ⟨out, hout, hfilled⟩ := hb.store [_, _, _, _] (k := 4) rfl htake (by omega)
  refine ⟨out, ?_, hfilled⟩
  have h0 := hread 0 (by decide)
  rw [BitVec.add_zero, Nat.add_zero] at h0
  simp only [yuy2Round, Option.bind_eq_bind]
  rw [h0, Option.bind_some, hread 1 (by decide), Option.bind_some, hread 2 (by decide),
    Option.bind_some, hread 3 (by decide), Option.bind_some, hcount]
  exact hout

end Stages

/-! ### The line -/

section Line

variable {host : Host} {ycbcr : List UWord} {dst : Block Byte}

/-- How many bytes the conversions fill, by a 32-bit count of the components. -/
def filledBytes (numPixels : ULWord) : YCbCrLineFormat → ℕ
  | NTV2_FBF_10BIT_YCBCR => 16 * (((numPixels * 2).toNat + 11) / 12)
  | _ => (numPixels * 2).toNat

/-- **The conversions other than to DPX** fill that many bytes with the encoding. -/
lemma convert_fills {numPixels : ULWord} {pixelFormat : YCbCrLineFormat}
    (hformat : pixelFormat ≠ NTV2_FBF_10BIT_YCBCR_DPX) (hsix : numPixels.toNat % 6 = 0)
    (hline : ycbcr.length = 2 * numPixels.toNat)
    (hroom : lineRowBytes numPixels.toNat pixelFormat ≤ dst.cells.length) :
    ∃ fuel out, convertUnpacked10BitYCbCrToPixelFormat host ycbcr dst numPixels pixelFormat fuel =
        some out ∧
      FilledTo (lineEncoding host ycbcr pixelFormat) dst (filledBytes numPixels pixelFormat)
        out := by
  have hlt := numPixels.isLt
  have hlimit : (numPixels * 2).toNat = numPixels.toNat * 2 % 2 ^ 32 := BitVec.toNat_mul _ _
  cases pixelFormat with
  | NTV2_FBF_10BIT_YCBCR =>
      simp only [lineRowBytes] at hroom
      have hends : Counted.Ends 32 12 (numPixels * 2).toNat
          (((numPixels * 2).toNat + 11) / 12) :=
        ⟨by omega, fun round hround => by omega, by omega⟩
      have hrounds : ((numPixels * 2).toNat + 11) / 12 ≤ numPixels.toNat / 6 := by omega
      have hrow : numPixels.toNat / 6 ≤ 8 * ((numPixels.toNat + 47) / 48) := by omega
      exact ⟨_, packTo10Bit_fills numPixels hends (by omega) (by omega)⟩
  | NTV2_FBF_8BIT_YCBCR =>
      simp only [lineRowBytes] at hroom
      exact ⟨_, convertLineTo8Bit_fills numPixels (by omega) (by omega)⟩
  | NTV2_FBF_8BIT_YCBCR_YUY2 =>
      simp only [lineRowBytes] at hroom
      obtain ⟨bytes, hbytes, hfilled⟩ :=
        @convertLineTo8Bit_fills ycbcr dst numPixels (by omega) (by omega)
      obtain ⟨out, hout, hyuy2⟩ :=
        @convert8BitYCbCrToYUY2_fills host ycbcr _ _ numPixels (by omega) (by omega) hfilled
      refine ⟨(numPixels * 2).toNat + 1, out, ?_, hyuy2.fits, hfilled.inside, ?_⟩
      · simp only [convertUnpacked10BitYCbCrToPixelFormat]
        rw [hbytes, Option.bind_some]
        exact Counted.run_mono hout (by omega)
      · have hlength : ((ycbcr.map componentByte).take (numPixels * 2).toNat).length =
            (numPixels * 2).toNat := by
          rw [List.length_take, Nat.min_eq_left hfilled.fits]
        rw [hyuy2.cells_eq, hfilled.cells_eq, filledBytes, List.drop_left' hlength]
        exact fun h => YCbCrLineFormat.noConfusion h
  | NTV2_FBF_10BIT_YCBCR_DPX => exact absurd rfl hformat

/-- The size of an encoding. -/
lemma length_lineEncoding (pixelFormat : YCbCrLineFormat) :
    (lineEncoding host ycbcr pixelFormat).length =
      match pixelFormat with
      | NTV2_FBF_10BIT_YCBCR => 4 * (ycbcr.length / 3)
      | NTV2_FBF_8BIT_YCBCR => ycbcr.length
      | NTV2_FBF_8BIT_YCBCR_YUY2 => ycbcr.length
      | NTV2_FBF_10BIT_YCBCR_DPX => 4 * (ycbcr.length / 3) := by
  cases pixelFormat <;> simp [lineEncoding, tripleWords]

/-- More fuel changes nothing. -/
lemma convert_mono {numPixels : ULWord} {pixelFormat : YCbCrLineFormat} {fuel fuel' : ℕ}
    {out : Block Byte}
    (h : convertUnpacked10BitYCbCrToPixelFormat host ycbcr dst numPixels pixelFormat fuel =
      some out) (hle : fuel ≤ fuel') :
    convertUnpacked10BitYCbCrToPixelFormat host ycbcr dst numPixels pixelFormat fuel' =
      some out := by
  cases pixelFormat with
  | NTV2_FBF_10BIT_YCBCR =>
      obtain ⟨s, hrun, rfl⟩ := Option.map_eq_some_iff.mp h
      exact Option.map_eq_some_iff.mpr ⟨s, Counted.run_mono hrun hle, rfl⟩
  | NTV2_FBF_8BIT_YCBCR => exact Counted.run_mono h hle
  | NTV2_FBF_8BIT_YCBCR_YUY2 =>
      obtain ⟨bytes, hbytes, hyuy2⟩ := Option.bind_eq_some_iff.mp h
      exact Option.bind_eq_some_iff.mpr
        ⟨bytes, Counted.run_mono hbytes hle, Counted.run_mono hyuy2 hle⟩
  | NTV2_FBF_10BIT_YCBCR_DPX => exact Counted.run_mono h hle

/-- A conversion has one result. -/
lemma convert_unique {numPixels : ULWord} {pixelFormat : YCbCrLineFormat} {fuel fuel' : ℕ}
    {out out' : Block Byte}
    (h : convertUnpacked10BitYCbCrToPixelFormat host ycbcr dst numPixels pixelFormat fuel =
      some out)
    (h' : convertUnpacked10BitYCbCrToPixelFormat host ycbcr dst numPixels pixelFormat fuel' =
      some out') : out = out' := by
  have hmax := convert_mono h (le_max_left fuel fuel')
  rw [convert_mono h' (le_max_right fuel fuel')] at hmax
  exact (Option.some.inj hmax).symm

/-- A DPX line begins with its first word. -/
lemma readULWord_dpx {c : UWord} {n : ℕ} (hn : 3 ≤ n) {rest : List Byte} :
    readULWord host (lineEncoding host (List.replicate n c) NTV2_FBF_10BIT_YCBCR_DPX ++ rest) 0 =
      some (repackWord (tripleWord c c c)) := by
  refine readULWord_eq ?_
  obtain ⟨k, hk⟩ : ∃ k, n / 3 = k + 1 := ⟨n / 3 - 1, by omega⟩
  have hget : ∀ i < n, (List.replicate n c).getD i 0 = c := fun i hi => by
    rw [List.getD_eq_getElem?_getD, List.getElem?_replicate, if_pos hi, Option.getD_some]
  rw [lineEncoding, tripleWords, List.length_replicate, hk, List.range_succ_eq_map, List.map_cons,
    List.map_cons, hget _ (by omega), hget _ (by omega), hget _ (by omega), wordBytes,
    List.flatMap_cons, Nat.mul_zero, List.drop_zero, List.append_assoc]
  exact List.take_left' (length_memory host 4 _)

/-- All the components of a line are filled exactly when a 32-bit count has them all. -/
lemma filledBytes_eq_iff {numPixels : ULWord} {pixelFormat : YCbCrLineFormat}
    (hformat : pixelFormat ≠ NTV2_FBF_10BIT_YCBCR_DPX) (hsix : numPixels.toNat % 6 = 0)
    (hline : ycbcr.length = 2 * numPixels.toNat) :
    filledBytes numPixels pixelFormat = (lineEncoding host ycbcr pixelFormat).length ↔
      2 * numPixels.toNat < 2 ^ 32 := by
  have hlt := numPixels.isLt
  have hlimit : (numPixels * 2).toNat = numPixels.toNat * 2 % 2 ^ 32 := BitVec.toNat_mul _ _
  rw [length_lineEncoding, hline]
  cases pixelFormat with
  | NTV2_FBF_10BIT_YCBCR =>
      simp only [filledBytes]
      rcases Nat.lt_or_ge (numPixels.toNat * 2) (2 ^ 32) with hfit | hwrap
      · rw [Nat.mod_eq_of_lt hfit] at hlimit
        omega
      · rw [Nat.mod_eq_sub_mod hwrap, Nat.mod_eq_of_lt (by omega)] at hlimit
        omega
  | NTV2_FBF_8BIT_YCBCR =>
      simp only [filledBytes]
      omega
  | NTV2_FBF_8BIT_YCBCR_YUY2 =>
      simp only [filledBytes]
      omega
  | NTV2_FBF_10BIT_YCBCR_DPX => exact absurd rfl hformat

lemma isTenBit_replicate {c : UWord} (hc : c.toNat < 1024) (n : ℕ) :
    ∀ c' ∈ List.replicate n c, c'.toNat < 1024 :=
  fun _ hmem => (List.eq_of_mem_replicate hmem) ▸ hc

/-- **The conversion to DPX** fills no line: what it leaves does not depend on the components. -/
lemma not_fillsLine_dpx {numPixels : ULWord} (hpos : numPixels.toNat ≠ 0)
    (hsix : numPixels.toNat % 6 = 0) :
    ¬ FillsLine host numPixels NTV2_FBF_10BIT_YCBCR_DPX := by
  intro hfills
  obtain ⟨fuel, out, hout, hcells⟩ := hfills (List.replicate (2 * numPixels.toNat) 0#16)
    List.length_replicate (isTenBit_replicate (by decide) _)
    ⟨List.replicate (lineRowBytes numPixels.toNat NTV2_FBF_10BIT_YCBCR_DPX) 0, []⟩
    (by rw [List.length_replicate])
  obtain ⟨fuel', out', hout', hcells'⟩ := hfills (List.replicate (2 * numPixels.toNat) 1#16)
    List.length_replicate (isTenBit_replicate (by decide) _)
    ⟨List.replicate (lineRowBytes numPixels.toNat NTV2_FBF_10BIT_YCBCR_DPX) 0, []⟩
    (by rw [List.length_replicate])
  -- the components are not among what the conversion reads
  have hsame : out = out' := convert_unique hout hout'
  rw [hsame, hcells'] at hcells
  have hread := congrArg (fun cells => readULWord host cells 0) hcells
  simp only at hread
  rw [readULWord_dpx (by omega), readULWord_dpx (by omega)] at hread
  exact absurd (Option.some.inj hread) (by decide)

/-- **A line is filled** with its encoding in every format but DPX, while a 32-bit count has all its
components. -/
theorem fillsLine_iff (host : Host) (numPixels : ULWord) (pixelFormat : YCbCrLineFormat)
    (hsix : numPixels.toNat % 6 = 0) :
    FillsLine host numPixels pixelFormat ↔
      numPixels = 0#32 ∨
        pixelFormat ≠ NTV2_FBF_10BIT_YCBCR_DPX ∧ 2 * numPixels.toNat < 2 ^ 32 := by
  constructor
  · intro hfills
    by_cases hzero : numPixels = 0#32
    · exact Or.inl hzero
    have hformat : pixelFormat ≠ NTV2_FBF_10BIT_YCBCR_DPX := by
      rintro rfl
      refine not_fillsLine_dpx (fun hnat => hzero (BitVec.eq_of_toNat_eq ?_)) hsix hfills
      rw [hnat, BitVec.toNat_ofNat, Nat.zero_mod]
    refine Or.inr ⟨hformat, ?_⟩
    set ycbcr := List.replicate (2 * numPixels.toNat) 0#16 with hycbcr
    have hline : ycbcr.length = 2 * numPixels.toNat := List.length_replicate
    rw [← @filledBytes_eq_iff host ycbcr _ _ hformat hsix hline]
    by_contra hshort
    -- the first byte left out is not one of the encoding
    set dst : Block Byte := ⟨List.replicate
      (lineRowBytes numPixels.toNat pixelFormat + (lineEncoding host ycbcr pixelFormat).length)
      ((lineEncoding host ycbcr pixelFormat).getD (filledBytes numPixels pixelFormat) 0 + 1), []⟩
      with hdst
    have hroom : lineRowBytes numPixels.toNat pixelFormat ≤ dst.cells.length := by
      rw [hdst, List.length_replicate]
      omega
    obtain ⟨fuel, out, hout, hfilled⟩ :=
      @convert_fills host ycbcr dst _ _ hformat hsix hline hroom
    obtain ⟨fuel', out', hout', hcells⟩ :=
      hfills ycbcr hline (isTenBit_replicate (by decide) _) dst hroom
    have hfits := hfilled.fits
    have hlt : filledBytes numPixels pixelFormat <
        (lineEncoding host ycbcr pixelFormat).length := by omega
    have hbyte := hfilled.getElem?_of_le le_rfl
    rw [convert_unique hout hout', hcells, List.getElem?_append_left hlt, hdst,
      List.getElem?_replicate, if_pos (by omega), List.getElem?_eq_getElem hlt,
      List.getD_eq_getElem?_getD, List.getElem?_eq_getElem hlt, Option.getD_some] at hbyte
    exact absurd (Option.some.inj hbyte) (by simp)
  · rintro (rfl | ⟨hformat, hfit⟩) ycbcr hline - dst hroom
    · obtain rfl : ycbcr = [] := List.eq_nil_of_length_eq_zero hline
      refine ⟨1, dst, ?_, ?_⟩ <;> cases pixelFormat <;> rfl
    · obtain ⟨fuel, out, hout, hfilled⟩ :=
        @convert_fills host ycbcr dst _ _ hformat hsix hline hroom
      refine ⟨fuel, out, hout, ?_⟩
      rw [hfilled.cells_eq, (filledBytes_eq_iff hformat hsix hline).mpr hfit, List.take_length]

/-- A line of six pixels. -/
theorem fillsLine_six :
    (6#32).toNat % 6 = 0 ∧ FillsLine ⟨true⟩ 6#32 NTV2_FBF_8BIT_YCBCR_YUY2 :=
  ⟨by decide, (fillsLine_iff ⟨true⟩ 6#32 NTV2_FBF_8BIT_YCBCR_YUY2 (by decide)).mpr
    (Or.inr ⟨by decide, by decide⟩)⟩

/-- **A line of six pixels is not repacked** for DPX. -/
theorem not_fillsLine_dpx_six :
    ¬ FillsLine ⟨true⟩ 6#32 NTV2_FBF_10BIT_YCBCR_DPX :=
  not_fillsLine_dpx (by decide) (by decide)

end Line

end LibAjaNtv2
