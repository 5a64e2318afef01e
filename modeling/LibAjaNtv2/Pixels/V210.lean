import LibAjaNtv2.Lib.Counted
import LibAjaNtv2.Lib.Masked
import LibAjaNtv2.Rpc.Nub

/-!
Lines of 10-bit YCbCr, three components to a word (`ntv2utils.cpp`, `ntv2transcode.cpp`).

* `packLineUWordSequenceTo10BitYUV`, `unpackLine10BitYUVtoUWordSequence`: a sequence of components
  packed into words, and taken from them;
* `convertLine2vuyToV210`, `convertLineV210To2vuy`, `convertLineV210To2vuyVector`: a line of 8-bit
  components, and back;
* `packsAndUnpacks_iff`: **the components come back** exactly for a multiple of six pixels, and
  fewer than 2^30;
* `vuyComesBack_iff`: **the bytes come back**, and no others are written, exactly for a multiple of
  three pixels up to 32766, past which the first conversion does not end;
* `v210_iff`: both.
-/

namespace LibAjaNtv2

/-! ### Components in words -/

/-- A word of a packed line, and the elements of the sequence that were read for it. -/
structure V210Word where
  value : ULWord
  indices : List ULWord
  deriving DecidableEq, Repr

/-- `in16BitYUVLine[index]`, which past the end of the sequence is whatever stands there. -/
def elementOr (in16BitYUVLine : List UWord) (beyond : ℕ → UWord) (index : ULWord) : UWord :=
  (in16BitYUVLine[index.toNat]?).getD (beyond index.toNat)

/-- One word of `PackLine_UWordSequenceTo10BitYUV`. -/
def packWord (element : ULWord → UWord) (index : ULWord) : V210Word where
  value := (element index).setWidth 32 + ((element (index + 1)).setWidth 32 <<< 10) +
    ((element (index + 2)).setWidth 32 <<< 20)
  indices := [index, index + 1, index + 2]

/-- `PackLine_UWordSequenceTo10BitYUV`: what it returns and the words it has written. -/
def packLineUWordSequenceTo10BitYUV (in16BitYUVLine : List UWord) (beyond : ℕ → UWord)
    (pOut10BitYUVLine : Bool) (inNumPixels : ULWord) (fuel : ℕ) :
    Option (Bool × List V210Word) :=
  if pOut10BitYUVLine = false then some (false, [])
  else if inNumPixels = 0 then some (false, [])
  else if BitVec.ofNat 32 in16BitYUVLine.length < inNumPixels * 2 then some (false, [])
  else
    -- four words a round, one after the other
    (Counted.loop 12 (inNumPixels * 2).toNat (fun _ (inputCount : ULWord) =>
      some [packWord (elementOr in16BitYUVLine beyond) inputCount,
        packWord (elementOr in16BitYUVLine beyond) (inputCount + 3),
        packWord (elementOr in16BitYUVLine beyond) (inputCount + 6),
        packWord (elementOr in16BitYUVLine beyond) (inputCount + 9)]) fuel 0 0 []).map
      fun line => (true, line)

/-- The components of a word. -/
def unpackWord (v : ULWord) : List UWord :=
  [(v &&& 0x3FF).setWidth 16, ((v >>> 10) &&& 0x3FF).setWidth 16, ((v >>> 20) &&& 0x3FF).setWidth 16]

/-- The loop of `UnpackLine_10BitYUVtoUWordSequence`, from a word on. -/
def unpackWordsLoop : ℕ → List ULWord → List UWord → Option (List UWord)
  | 0, _, out16BitYUVLine => some out16BitYUVLine
  | _ + 1, [], _ => none
  | rounds + 1, v :: rest, out16BitYUVLine =>
      unpackWordsLoop rounds rest (out16BitYUVLine ++ unpackWord v)

/-- `UnpackLine_10BitYUVtoUWordSequence`: what it returns and the components, unless it reads past
the end of the line. -/
def unpackLine10BitYUVtoUWordSequence (pIn10BitYUVLine : Option (List ULWord))
    (inNumPixels : ULWord) : Option (Bool × List UWord) :=
  match pIn10BitYUVLine with
  | none => some (false, [])
  | some pInputLine =>
      if inNumPixels < 6 then some (false, [])
      else
        let inNumPixels :=
          if inNumPixels % 6 ≠ 0 then inNumPixels - inNumPixels % 6 else inNumPixels
        let totalULWords := inNumPixels * 4 / 6
        (unpackWordsLoop totalULWords.toNat pInputLine []).map fun out => (true, out)

/-! ### Bytes in words -/

/-- `NTV2EndianSwap32HtoL`. -/
def Host.littleEndianOf {w : ℕ} (host : Host) (swap : BitVec w → BitVec w) (v : BitVec w) :
    BitVec w :=
  if host.bigEndian then swap v else v

/-- One word of `ConvertLine_2vuy_to_v210`. -/
def vuyWord (host : Host) (pSrc2vuyLine : ℕ → UByte) (index : ℕ) : ULWord :=
  host.littleEndianOf ntv2EndianSwap32
    (((pSrc2vuyLine index).setWidth 32 <<< 2) + ((pSrc2vuyLine (index + 1)).setWidth 32 <<< 12) +
      ((pSrc2vuyLine (index + 2)).setWidth 32 <<< 22))

/-- `ConvertLine_2vuy_to_v210`: what it returns and the words it has written. Its counters have
16 bits. -/
def convertLine2vuyToV210 (host : Host) (pSrc2vuyLine : Option (ℕ → UByte)) (pDstv210Line : Bool)
    (inNumPixels : ULWord) (fuel : ℕ) : Option (Bool × List ULWord) :=
  match pSrc2vuyLine with
  | none => some (false, [])
  | some pSrc2vuyLine =>
      if pDstv210Line = false ∨ inNumPixels = 0 then some (false, [])
      else
        (Counted.loop 12 (inNumPixels * 2).toNat (fun _ (inputCount : UWord) =>
          some [vuyWord host pSrc2vuyLine inputCount.toNat,
            vuyWord host pSrc2vuyLine (inputCount.toNat + 3),
            vuyWord host pSrc2vuyLine (inputCount.toNat + 6),
            vuyWord host pSrc2vuyLine (inputCount.toNat + 9)]) fuel 0 0 []).map
          fun line => (true, line)

/-- The three samples of the four bytes of a word, from the parts of each. -/
def vuySamples (join : Byte → Byte → Byte) (pByte : List Byte) : Option (List UByte) :=
  match pByte with
  | [b0, b1, b2, b3] => some [join ((b1 &&& 0x03) <<< 6) (b0 >>> 2),
      join ((b2 &&& 0x0F) <<< 4) (b1 >>> 4), join ((b3 &&& 0x3F) <<< 2) (b2 >>> 6)]
  | _ => none

/-- The loop of both functions `ConvertLine_v210_to_2vuy`. -/
def convertV210Loop (host : Host) (join : Byte → Byte → Byte) (pSrcv210Line : List ULWord)
    (inNumPixels : ULWord) (fuel : ℕ) : Option (List UByte) :=
  Counted.loop 3 (inNumPixels * 2).toNat (fun dataCount (_ : ULWord) =>
    (pSrcv210Line[dataCount]?).bind fun v => vuySamples join (host.memory 4 v)) fuel 0 0 []

/-- `ConvertLine_v210_to_2vuy`, into memory: what it returns and the bytes it has written, unless
it reads past the end of the line. -/
def convertLineV210To2vuy (host : Host) (pSrcv210Line : Option (List ULWord)) (pDst2vuyLine : Bool)
    (inNumPixels : ULWord) (fuel : ℕ) : Option (Bool × List UByte) :=
  match pSrcv210Line with
  | none => some (false, [])
  | some pSrcv210Line =>
      if pDst2vuyLine = false ∨ inNumPixels = 0 then some (false, [])
      else (convertV210Loop host (· + ·) pSrcv210Line inNumPixels fuel).map fun line => (true, line)

/-- `ConvertLine_v210_to_2vuy`, into a vector. -/
def convertLineV210To2vuyVector (host : Host) (pInSrcLine : Option (List ULWord))
    (inNumPixels : ULWord) (fuel : ℕ) : Option (Bool × List UByte) :=
  match pInSrcLine with
  | none => some (false, [])
  | some pInSrcLine =>
      if inNumPixels = 0 then some (false, [])
      else (convertV210Loop host (· ||| ·) pInSrcLine inNumPixels fuel).map fun line => (true, line)

/-! ### One word -/

section Word

/-- Three numbers side by side in a word. -/
lemma toNat_add_shifts {a b c : ULWord} {i j : ℕ} (hij : i ≤ j) (hj : j ≤ 32) (ha : a.toNat < 2 ^ i)
    (hb : b.toNat * 2 ^ i + 2 ^ i ≤ 2 ^ j) (hc : c.toNat * 2 ^ j + 2 ^ j ≤ 2 ^ 32) :
    (a + (b <<< i) + (c <<< j)).toNat = a.toNat + b.toNat * 2 ^ i + c.toNat * 2 ^ j := by
  have hi32 : 2 ^ i ≤ 2 ^ 32 := Nat.pow_le_pow_right (by omega) (hij.trans hj)
  have hj32 : 2 ^ j ≤ 2 ^ 32 := Nat.pow_le_pow_right (by omega) hj
  have hpos := Nat.two_pow_pos j
  rw [BitVec.toNat_add, BitVec.toNat_add, BitVec.toNat_shiftLeft, BitVec.toNat_shiftLeft,
    Nat.shiftLeft_eq, Nat.shiftLeft_eq, Nat.mod_eq_of_lt (show b.toNat * 2 ^ i < 2 ^ 32 by omega),
    Nat.mod_eq_of_lt (show c.toNat * 2 ^ j < 2 ^ 32 by omega),
    Nat.mod_eq_of_lt (show a.toNat + b.toNat * 2 ^ i < 2 ^ 32 by omega), Nat.mod_eq_of_lt (by omega)]

/-- **The components of a packed word** are those it was packed from. -/
lemma unpackWord_packWord {element : ULWord → UWord} {index : ULWord}
    (ha : (element index).toNat < 1024) (hb : (element (index + 1)).toNat < 1024)
    (hc : (element (index + 2)).toNat < 1024) :
    unpackWord (packWord element index).value =
      [element index, element (index + 1), element (index + 2)] := by
  have hwide : ∀ i, ((element i).setWidth 32).toNat = (element i).toNat := by
    intro i
    have hi := (element i).isLt
    rw [BitVec.toNat_setWidth, Nat.mod_eq_of_lt (by omega)]
  have hvalue : (packWord element index).value.toNat = (element index).toNat +
      (element (index + 1)).toNat * 2 ^ 10 + (element (index + 2)).toNat * 2 ^ 20 := by
    rw [packWord, toNat_add_shifts (by omega) (by omega) (by rw [hwide]; omega)
      (by rw [hwide]; omega) (by rw [hwide]; omega), hwide, hwide, hwide]
  have hmask : ∀ (s : ℕ),
      (((packWord element index).value >>> s &&& 0x3FF).setWidth 16 : UWord).toNat =
        (packWord element index).value.toNat / 2 ^ s % 2 ^ 10 := by
    intro s
    rw [BitVec.toNat_setWidth, BitField.toNat_and_low _ _ 10 rfl, BitVec.toNat_ushiftRight,
      Nat.shiftRight_eq_div_pow]
    exact Nat.mod_eq_of_lt ((Nat.mod_lt _ (by decide)).trans (by decide))
  have hmask0 := hmask 0
  have hmask10 := hmask 10
  have hmask20 := hmask 20
  rw [hvalue] at hmask0 hmask10 hmask20
  simp only [unpackWord, List.cons.injEq, and_true]
  refine ⟨BitVec.eq_of_toNat_eq ?_, BitVec.eq_of_toNat_eq ?_, BitVec.eq_of_toNat_eq ?_⟩
  · refine Eq.trans ?_ (hmask0.trans ?_)
    · rw [BitVec.ushiftRight_zero]
    · omega
  · rw [hmask10]
    omega
  · rw [hmask20]
    omega

/-- The bytes of a word in memory, once it is little-endian. -/
lemma memory_littleEndianOf (host : Host) (v : ULWord) :
    host.memory 4 (host.littleEndianOf ntv2EndianSwap32 v) = leBytes 4 v := by
  cases host with
  | mk bigEndian =>
      cases bigEndian with
      | true =>
          simp only [Host.memory, Host.littleEndianOf, if_true]
          rw [leBytes_swap32, List.reverse_reverse]
      | false => rfl

/-- A sample from the low bits of one byte and the high bits of the byte before: they do not
overlap. -/
lemma toNat_sample {p q mask : Byte} (k s : ℕ) (hmask : mask.toNat = 2 ^ s - 1) (hks : k + s = 8) :
    (((p &&& mask) <<< k) + (q >>> s)).toNat = p.toNat % 2 ^ s * 2 ^ k + q.toNat / 2 ^ s ∧
      (((p &&& mask) <<< k) ||| (q >>> s)).toNat = p.toNat % 2 ^ s * 2 ^ k + q.toNat / 2 ^ s := by
  have hlow : p.toNat % 2 ^ s * 2 ^ k + 2 ^ k ≤ 2 ^ 8 := by
    calc p.toNat % 2 ^ s * 2 ^ k + 2 ^ k = (p.toNat % 2 ^ s + 1) * 2 ^ k := by ring
      _ ≤ 2 ^ s * 2 ^ k := Nat.mul_le_mul_right _ (Nat.mod_lt _ (Nat.two_pow_pos s))
      _ = 2 ^ 8 := by rw [← Nat.pow_add, Nat.add_comm, hks]
  have hhigh : q.toNat / 2 ^ s < 2 ^ k := by
    refine Nat.div_lt_of_lt_mul ?_
    rw [← Nat.pow_add, Nat.add_comm, hks]
    exact q.isLt
  have hpos := Nat.two_pow_pos k
  have hshift : ((p &&& mask) <<< k).toNat = p.toNat % 2 ^ s * 2 ^ k := by
    rw [BitVec.toNat_shiftLeft, BitField.toNat_and_low _ _ s hmask, Nat.shiftLeft_eq,
      Nat.mod_eq_of_lt (show p.toNat % 2 ^ s * 2 ^ k < 2 ^ 8 by omega)]
  have hq : (q >>> s).toNat = q.toNat / 2 ^ s := by
    rw [BitVec.toNat_ushiftRight, Nat.shiftRight_eq_div_pow]
  constructor
  · rw [BitVec.toNat_add, hshift, hq, Nat.mod_eq_of_lt (by omega)]
  · rw [BitField.toNat_or_of_lt k _ hshift (by rw [hq]; exact hhigh), hshift, hq]

/-- **The samples of a converted word** are the bytes it was converted from. -/
lemma vuySamples_vuyWord {join : Byte → Byte → Byte} (hjoin : join = (· + ·) ∨ join = (· ||| ·))
    (host : Host) (line : ℕ → UByte) (index : ℕ) :
    vuySamples join (host.memory 4 (vuyWord host line index)) =
      some [line index, line (index + 1), line (index + 2)] := by
  rw [vuyWord, memory_littleEndianOf]
  have hwide : ∀ i, ((line i).setWidth 32 : ULWord).toNat = (line i).toNat := by
    intro i
    have hi := (line i).isLt
    rw [BitVec.toNat_setWidth, Nat.mod_eq_of_lt (by omega)]
  have ha := (line index).isLt
  have hb := (line (index + 1)).isLt
  have hc := (line (index + 2)).isLt
  have hfirst : (((line index).setWidth 32 <<< 2 : ULWord)).toNat = (line index).toNat * 4 := by
    rw [BitVec.toNat_shiftLeft, hwide, Nat.shiftLeft_eq, Nat.mod_eq_of_lt (by omega)]
  have hvalue := toNat_add_shifts (show (12 : ℕ) ≤ 22 by omega) (by omega)
    (a := (line index).setWidth 32 <<< 2) (b := (line (index + 1)).setWidth 32)
    (c := (line (index + 2)).setWidth 32) (by rw [hfirst]; omega) (by rw [hwide]; omega)
    (by rw [hwide]; omega)
  rw [hfirst, hwide, hwide] at hvalue
  generalize ((line index).setWidth 32 <<< 2) + ((line (index + 1)).setWidth 32 <<< 12) +
    ((line (index + 2)).setWidth 32 <<< 22) = v at hvalue
  have hbyte : ∀ u : ULWord, (u.setWidth 8 : Byte).toNat = u.toNat % 2 ^ 8 := fun u =>
    BitVec.toNat_setWidth 8 u
  have hshift : ∀ u : ULWord, (u >>> 8).toNat = u.toNat / 2 ^ 8 := fun u => by
    rw [BitVec.toNat_ushiftRight, Nat.shiftRight_eq_div_pow]
  have hsample : ∀ (p q mask : Byte) (k s : ℕ), mask.toNat = 2 ^ s - 1 → k + s = 8 →
      (join ((p &&& mask) <<< k) (q >>> s)).toNat = p.toNat % 2 ^ s * 2 ^ k + q.toNat / 2 ^ s := by
    intro p q mask k s hmask hks
    rcases hjoin with rfl | rfl
    · exact (toNat_sample k s hmask hks).1
    · exact (toNat_sample k s hmask hks).2
  simp only [leBytes, vuySamples, Option.some.injEq, List.cons.injEq, and_true]
  refine ⟨BitVec.eq_of_toNat_eq ?_, BitVec.eq_of_toNat_eq ?_, BitVec.eq_of_toNat_eq ?_⟩
  · rw [hsample _ _ _ 6 2 rfl rfl, hbyte, hbyte, hshift, hvalue]
    omega
  · rw [hsample _ _ _ 4 4 rfl rfl, hbyte, hbyte, hshift, hshift, hvalue]
    omega
  · rw [hsample _ _ _ 2 6 rfl rfl, hbyte, hbyte, hshift, hshift, hshift, hvalue]
    omega

end Word

/-! ### The sequence of components -/

section Sequence

variable {in16BitYUVLine : List UWord} {beyond : ℕ → UWord} {inNumPixels : ULWord} {fuel : ℕ}
  {packed : List V210Word}

/-- The loop of the unpacker reads as many words as it has rounds. -/
lemma unpackWordsLoop_eq (rounds : ℕ) (line : List ULWord) (out : List UWord) :
    unpackWordsLoop rounds line out =
      if rounds ≤ line.length then some (out ++ (line.take rounds).flatMap unpackWord)
      else none := by
  induction rounds generalizing line out with
  | zero => simp [unpackWordsLoop]
  | succ rounds ih =>
      cases line with
      | nil => simp [unpackWordsLoop]
      | cons v rest =>
          rw [unpackWordsLoop, ih, List.length_cons, List.take_succ_cons, List.flatMap_cons,
            List.append_assoc]
          simp only [Nat.succ_le_succ_iff]

/-- The packed line reads only elements of the sequence, and unpacked for as many pixels it is the
first two components of each. -/
def PacksAndUnpacks (in16BitYUVLine : List UWord) (inNumPixels : ULWord)
    (packed : List V210Word) : Prop :=
  (∀ v ∈ packed, ∀ index ∈ v.indices, index.toNat < in16BitYUVLine.length) ∧
    2 * inNumPixels.toNat ≤ in16BitYUVLine.length ∧
    unpackLine10BitYUVtoUWordSequence (some (packed.map V210Word.value)) inNumPixels =
      some (true, in16BitYUVLine.take (2 * inNumPixels.toNat))

/-- The unpacker takes the words of whole groups of six pixels, as far as their number does not
wrap. -/
lemma unpackLine_eq (line : List ULWord) (hn : 6 ≤ inNumPixels.toNat) :
    unpackLine10BitYUVtoUWordSequence (some line) inNumPixels =
      (unpackWordsLoop ((inNumPixels.toNat - inNumPixels.toNat % 6) * 4 % 2 ^ 32 / 6) line []).map
        fun out => (true, out) := by
  have hwhole : (if inNumPixels % 6 ≠ 0 then inNumPixels - inNumPixels % 6
      else inNumPixels).toNat = inNumPixels.toNat - inNumPixels.toNat % 6 := by
    have hmod : (inNumPixels % 6).toNat = inNumPixels.toNat % 6 := BitVec.toNat_umod
    have hlt := inNumPixels.isLt
    split_ifs with hzero
    · rw [BitVec.toNat_sub, hmod]
      omega
    · have hnone : inNumPixels % 6 = 0 := not_not.mp hzero
      rw [hnone] at hmod
      have hzeroNat : (0 : ULWord).toNat = 0 := rfl
      omega
  have hwords : ∀ x : ULWord, (x * 4 / 6).toNat = x.toNat * 4 % 2 ^ 32 / 6 := fun x => by
    rw [BitVec.toNat_udiv, BitVec.toNat_mul]
    rfl
  have hwidth : ¬ inNumPixels < 6 := by
    rw [BitVec.lt_def]
    exact not_lt.mpr hn
  rw [unpackLine10BitYUVtoUWordSequence]
  dsimp only
  rw [if_neg hwidth, hwords, hwhole]

/-- The words of a line whose groups are whole. -/
lemma packed_eq (hsix : 6 ∣ inNumPixels.toNat) (hlt : inNumPixels.toNat < 2 ^ 30)
    (hpack : packLineUWordSequenceTo10BitYUV in16BitYUVLine beyond true inNumPixels fuel =
      some (true, packed)) :
    2 * inNumPixels.toNat ≤ in16BitYUVLine.length ∧
      packed = (List.range (4 * (inNumPixels.toNat / 6))).map fun j =>
        packWord (elementOr in16BitYUVLine beyond) (BitVec.ofNat 32 (3 * j)) := by
  have hdouble : (inNumPixels * 2).toNat = 12 * (inNumPixels.toNat / 6) := by
    rw [BitVec.toNat_mul, show (2 : ULWord).toNat = 2 from rfl]
    omega
  rw [packLineUWordSequenceTo10BitYUV, if_neg (by simp)] at hpack
  by_cases hzero : inNumPixels = 0
  · rw [if_pos hzero] at hpack
    cases hpack
  by_cases hsmall : BitVec.ofNat 32 in16BitYUVLine.length < inNumPixels * 2
  · rw [if_neg hzero, if_pos hsmall] at hpack
    cases hpack
  rw [if_neg hzero, if_neg hsmall, hdouble] at hpack
  rw [BitVec.lt_def, hdouble, BitVec.toNat_ofNat] at hsmall
  have hends : Counted.Ends 32 12 (12 * (inNumPixels.toNat / 6)) (inNumPixels.toNat / 6) :=
    ⟨le_rfl, fun round hround => Nat.mul_lt_mul_of_pos_left hround (by decide), by omega⟩
  have hgroup : ∀ k, [packWord (elementOr in16BitYUVLine beyond) (BitVec.ofNat 32 (12 * k)),
      packWord (elementOr in16BitYUVLine beyond) (BitVec.ofNat 32 (12 * k) + 3),
      packWord (elementOr in16BitYUVLine beyond) (BitVec.ofNat 32 (12 * k) + 6),
      packWord (elementOr in16BitYUVLine beyond) (BitVec.ofNat 32 (12 * k) + 9)] =
      (List.range 4).map fun j =>
        packWord (elementOr in16BitYUVLine beyond) (BitVec.ofNat 32 (3 * (4 * k + j))) := by
    intro k
    have hindex : ∀ j, BitVec.ofNat 32 (3 * (4 * k + j)) =
        BitVec.ofNat 32 (12 * k) + BitVec.ofNat 32 (3 * j) := by
      intro j
      rw [← BitVec.ofNat_add]
      congr 1
      ring
    simp only [hindex]
    simp [List.range_succ]
  rw [Counted.loop_start hends (fun _ _ => rfl)] at hpack
  split_ifs at hpack with hfuel
  · rw [Option.map_some, Option.some.injEq, Prod.mk.injEq] at hpack
    refine ⟨by omega, ?_⟩
    rw [← hpack.2, ← Counted.flatMap_range_chunks 4]
    simp only [hgroup]
  · cases hpack

lemma elementOr_eq {i : ℕ} (hi : i < in16BitYUVLine.length) (hlt : i < 2 ^ 32) :
    elementOr in16BitYUVLine beyond (BitVec.ofNat 32 i) = in16BitYUVLine[i] := by
  rw [elementOr, BitVec.toNat_ofNat, Nat.mod_eq_of_lt hlt, List.getElem?_eq_getElem hi]
  rfl

/-- **The components come back** exactly for a multiple of six pixels whose words can be counted in
32 bits. -/
lemma packsAndUnpacks_iff (hten : ∀ c ∈ in16BitYUVLine, c.toNat < 1024)
    (hn : 6 ≤ inNumPixels.toNat)
    (hpack : packLineUWordSequenceTo10BitYUV in16BitYUVLine beyond true inNumPixels fuel =
      some (true, packed)) :
    PacksAndUnpacks in16BitYUVLine inNumPixels packed ↔
      6 ∣ inNumPixels.toNat ∧ inNumPixels.toNat < 2 ^ 30 := by
  have hlt := inNumPixels.isLt
  constructor
  · rintro ⟨-, hlength, hunpack⟩
    rw [unpackLine_eq _ hn, unpackWordsLoop_eq] at hunpack
    split_ifs at hunpack with hwords
    · rw [Option.map_some, Option.some.injEq, Prod.mk.injEq, List.nil_append] at hunpack
      have hcount := congrArg List.length hunpack.2
      have hthree : ∀ v ∈ (packed.map V210Word.value).take
          ((inNumPixels.toNat - inNumPixels.toNat % 6) * 4 % 2 ^ 32 / 6),
          (unpackWord v).length = 3 := fun _ _ => rfl
      rw [List.length_flatMap, List.map_congr_left hthree, List.map_const', List.sum_replicate,
        List.length_take, Nat.min_eq_left hwords, List.length_take, Nat.min_eq_left hlength,
        smul_eq_mul] at hcount
      omega
    · cases hunpack
  · rintro ⟨hsix, hsmall⟩
    obtain ⟨hlength, rfl⟩ := packed_eq hsix hsmall hpack
    refine ⟨fun v hv index hindex => ?_, hlength, ?_⟩
    · obtain ⟨j, hj, rfl⟩ := List.mem_map.mp hv
      rw [List.mem_range] at hj
      have hbase : (BitVec.ofNat 32 (3 * j)).toNat = 3 * j := by
        rw [BitVec.toNat_ofNat, Nat.mod_eq_of_lt (by omega)]
      simp only [packWord, List.mem_cons, List.not_mem_nil, or_false] at hindex
      rcases hindex with rfl | rfl | rfl
      · omega
      · rw [BitVec.toNat_add, hbase, show (1 : ULWord).toNat = 1 from rfl,
          Nat.mod_eq_of_lt (by omega)]
        omega
      · rw [BitVec.toNat_add, hbase, show (2 : ULWord).toNat = 2 from rfl,
          Nat.mod_eq_of_lt (by omega)]
        omega
    · rw [unpackLine_eq _ hn, unpackWordsLoop_eq, if_pos (by
        rw [List.length_map, List.length_map, List.length_range]
        omega), Option.map_some, List.nil_append]
      congr 2
      have htotal : (inNumPixels.toNat - inNumPixels.toNat % 6) * 4 % 2 ^ 32 / 6 =
          4 * (inNumPixels.toNat / 6) := by omega
      have hwords : ∀ j ∈ List.range (4 * (inNumPixels.toNat / 6)),
          unpackWord (packWord (elementOr in16BitYUVLine beyond) (BitVec.ofNat 32 (3 * j))).value =
            (List.range 3).map fun i =>
              elementOr in16BitYUVLine beyond (BitVec.ofNat 32 (3 * j + i)) := by
        intro j hj
        rw [List.mem_range] at hj
        have hten' : ∀ i < in16BitYUVLine.length, i < 2 ^ 32 →
            (elementOr in16BitYUVLine beyond (BitVec.ofNat 32 i)).toNat < 1024 := fun i hi hi' => by
          rw [elementOr_eq hi hi']
          exact hten _ (List.getElem_mem hi)
        have hnext : ∀ i, BitVec.ofNat 32 (3 * j) + BitVec.ofNat 32 i =
            BitVec.ofNat 32 (3 * j + i) := fun i => (BitVec.ofNat_add _ _).symm
        rw [unpackWord_packWord (hten' _ (by omega) (by omega))
          (by rw [show (1 : ULWord) = BitVec.ofNat 32 1 from rfl, hnext]
              exact hten' _ (by omega) (by omega))
          (by rw [show (2 : ULWord) = BitVec.ofNat 32 2 from rfl, hnext]
              exact hten' _ (by omega) (by omega))]
        rw [show (1 : ULWord) = BitVec.ofNat 32 1 from rfl,
          show (2 : ULWord) = BitVec.ofNat 32 2 from rfl, hnext, hnext]
        simp [List.range_succ]
      rw [htotal, List.take_of_length_le (by simp), List.flatMap_map, List.flatMap_map,
        List.flatMap_congr hwords, Counted.flatMap_range_chunks 3
          (fun i => elementOr in16BitYUVLine beyond (BitVec.ofNat 32 i))]
      refine List.ext_getElem ?_ fun i hi hi' => ?_
      · rw [List.length_map, List.length_range, List.length_take]
        omega
      · rw [List.length_map, List.length_range] at hi
        rw [List.getElem_map, List.getElem_range, List.getElem_take,
          elementOr_eq (by omega) (by omega)]

end Sequence

/-! ### The line of bytes -/

section Vuy

variable {host : Host} {line : ℕ → UByte} {inNumPixels : ULWord}

/-- The conversion of a line ends, and both ways back write the bytes of its pixels and no more. -/
def VuyComesBack (host : Host) (line : ℕ → UByte) (inNumPixels : ULWord) : Prop :=
  ∃ fuel returned words, convertLine2vuyToV210 host (some line) true inNumPixels fuel =
      some (returned, words) ∧
    ∃ fuel' returned', convertLineV210To2vuy host (some words) true inNumPixels fuel' =
        some (returned', (List.range (2 * inNumPixels.toNat)).map line) ∧
      convertLineV210To2vuyVector host (some words) inNumPixels fuel' =
        some (returned', (List.range (2 * inNumPixels.toNat)).map line)

/-- **The conversion does not end** when its limit is past the last counter of 16 bits. -/
lemma convertLine_diverges (hzero : inNumPixels ≠ 0)
    (hlimit : 65532 < 2 * inNumPixels.toNat % 2 ^ 32) (fuel : ℕ) :
    convertLine2vuyToV210 host (some line) true inNumPixels fuel = none := by
  have hdouble : (inNumPixels * 2).toNat = 2 * inNumPixels.toNat % 2 ^ 32 := by
    rw [BitVec.toNat_mul, show (2 : ULWord).toNat = 2 from rfl, Nat.mul_comm]
  have hnone : ∀ body : ℕ → UWord → Option (List ULWord),
      Counted.loop 12 (inNumPixels * 2).toNat body fuel 0 0 [] = none := fun body =>
    Counted.loop_diverges (d := 4) (by decide) (by decide) (by omega) (dvd_zero 4)
  rw [convertLine2vuyToV210]
  rw [if_neg (not_or.mpr ⟨by decide, hzero⟩), hnone, Option.map_none]

/-- **Where it ends**, it has written the words of whole groups of twelve bytes. -/
lemma convertLine_eq (hzero : inNumPixels ≠ 0)
    (hlimit : 2 * inNumPixels.toNat % 2 ^ 32 ≤ 65532) (fuel : ℕ) :
    convertLine2vuyToV210 host (some line) true inNumPixels fuel =
      if (2 * inNumPixels.toNat % 2 ^ 32 + 11) / 12 < fuel then
        some (true, (List.range (4 * ((2 * inNumPixels.toNat % 2 ^ 32 + 11) / 12))).map fun j =>
          vuyWord host line (3 * j))
      else none := by
  have hdouble : (inNumPixels * 2).toNat = 2 * inNumPixels.toNat % 2 ^ 32 := by
    rw [BitVec.toNat_mul, show (2 : ULWord).toNat = 2 from rfl, Nat.mul_comm]
  generalize 2 * inNumPixels.toNat % 2 ^ 32 = limit at *
  have hends : Counted.Ends 16 12 limit ((limit + 11) / 12) :=
    Counted.ends_div (by decide) (by omega)
  have hgroup : ∀ k, [vuyWord host line (12 * k), vuyWord host line (12 * k + 3),
      vuyWord host line (12 * k + 6), vuyWord host line (12 * k + 9)] =
      (List.range 4).map fun j => vuyWord host line (3 * (4 * k + j)) := by
    intro k
    have hindex : ∀ j, 3 * (4 * k + j) = 12 * k + 3 * j := fun j => by ring
    simp only [hindex]
    simp [List.range_succ]
  have hloop := @Counted.loop_start 16 ULWord 12 limit ((limit + 11) / 12) (fun _ inputCount =>
      some [vuyWord host line inputCount.toNat, vuyWord host line (inputCount.toNat + 3),
        vuyWord host line (inputCount.toNat + 6), vuyWord host line (inputCount.toNat + 9)])
    (fun k => (List.range 4).map fun j => vuyWord host line (3 * (4 * k + j))) hends (by
      intro k hk
      have hcount : (BitVec.ofNat 16 (12 * k)).toNat = 12 * k := by
        rw [BitVec.toNat_ofNat, Nat.mod_eq_of_lt (by omega)]
      simp only [hcount, hgroup]) fuel
  rw [convertLine2vuyToV210]
  rw [if_neg (not_or.mpr ⟨by decide, hzero⟩), hdouble, hloop]
  split_ifs with hfuel
  · rw [Option.map_some, Counted.flatMap_range_chunks 4 fun j => vuyWord host line (3 * j)]
  · rfl

/-- **The way back** writes the bytes of whole groups of three. -/
lemma convertV210Loop_eq {join : Byte → Byte → Byte} (hjoin : join = (· + ·) ∨ join = (· ||| ·))
    {words : ℕ} (hwords : (2 * inNumPixels.toNat % 2 ^ 32 + 2) / 3 ≤ words) (fuel : ℕ) :
    convertV210Loop host join ((List.range words).map fun j => vuyWord host line (3 * j))
        inNumPixels fuel =
      if (2 * inNumPixels.toNat % 2 ^ 32 + 2) / 3 < fuel then
        some ((List.range (3 * ((2 * inNumPixels.toNat % 2 ^ 32 + 2) / 3))).map line)
      else none := by
  have hdouble : (inNumPixels * 2).toNat = 2 * inNumPixels.toNat % 2 ^ 32 := by
    rw [BitVec.toNat_mul, show (2 : ULWord).toNat = 2 from rfl, Nat.mul_comm]
  have hends : Counted.Ends 32 3 (2 * inNumPixels.toNat % 2 ^ 32)
      ((2 * inNumPixels.toNat % 2 ^ 32 + 2) / 3) := Counted.ends_div (by decide) (by omega)
  have hloop := @Counted.loop_start 32 UByte 3 _ _ (fun dataCount _ =>
      ((((List.range words).map fun j => vuyWord host line (3 * j))[dataCount]?).bind fun v =>
        vuySamples join (host.memory 4 v)))
    (fun k => (List.range 3).map fun j => line (3 * k + j)) hends (by
      intro k hk
      rw [List.getElem?_map, List.getElem?_range (by omega), Option.map_some, Option.bind_some,
        vuySamples_vuyWord hjoin]
      simp [List.range_succ]) fuel
  rw [convertV210Loop, hdouble, hloop, Counted.flatMap_range_chunks 3 line]

/-- **The bytes come back**, and no others are written, exactly for a multiple of three pixels that
the 16-bit counter reaches. -/
lemma vuyComesBack_iff :
    VuyComesBack host line inNumPixels ↔ 3 ∣ inNumPixels.toNat ∧ inNumPixels.toNat ≤ 32766 := by
  by_cases hzero : inNumPixels = 0
  · subst hzero
    exact iff_of_true ⟨0, false, [], rfl, 0, false, rfl, rfl⟩ ⟨dvd_zero 3, Nat.zero_le _⟩
  have hlt := inNumPixels.isLt
  have hpos : inNumPixels.toNat ≠ 0 := fun h => hzero (BitVec.eq_of_toNat_eq h)
  by_cases hlimit : 65532 < 2 * inNumPixels.toNat % 2 ^ 32
  · refine iff_of_false ?_ fun ⟨_, hsmall⟩ => ?_
    swap
    · rw [Nat.mod_eq_of_lt (by omega)] at hlimit
      omega
    rintro ⟨fuel, returned, words, hconvert, -⟩
    rw [convertLine_diverges hzero hlimit] at hconvert
    cases hconvert
  rw [not_lt] at hlimit
  have hback : ∀ join : Byte → Byte → Byte, join = (· + ·) ∨ join = (· ||| ·) → ∀ fuel, _ :=
    fun join hjoin => @convertV210Loop_eq host line inNumPixels join hjoin
      (4 * ((2 * inNumPixels.toNat % 2 ^ 32 + 11) / 12)) (by omega)
  constructor
  · rintro ⟨fuel, returned, words, hconvert, fuel', returned', hbytes, -⟩
    rw [convertLine_eq hzero hlimit] at hconvert
    split_ifs at hconvert with hfuel
    · rw [Option.some.injEq, Prod.mk.injEq] at hconvert
      rw [← hconvert.2, convertLineV210To2vuy, if_neg (not_or.mpr ⟨by decide, hzero⟩),
        hback _ (.inl rfl)] at hbytes
      split_ifs at hbytes with hfuel'
      · rw [Option.map_some, Option.some.injEq, Prod.mk.injEq] at hbytes
        have hlength := congrArg List.length hbytes.2
        rw [List.length_map, List.length_map, List.length_range, List.length_range] at hlength
        omega
      · cases hbytes
  · rintro ⟨hthree, hsmall⟩
    have hmod : 2 * inNumPixels.toNat % 2 ^ 32 = 2 * inNumPixels.toNat :=
      Nat.mod_eq_of_lt (by omega)
    have hbytes : 3 * ((2 * inNumPixels.toNat % 2 ^ 32 + 2) / 3) = 2 * inNumPixels.toNat := by
      rw [hmod]
      omega
    refine ⟨(2 * inNumPixels.toNat % 2 ^ 32 + 11) / 12 + 1, true, _,
      (convertLine_eq hzero hlimit _).trans (if_pos (Nat.lt_succ_self _)),
      (2 * inNumPixels.toNat % 2 ^ 32 + 2) / 3 + 1, true, ?_, ?_⟩
    · rw [convertLineV210To2vuy, if_neg (not_or.mpr ⟨by decide, hzero⟩), hback _ (.inl rfl),
        if_pos (Nat.lt_succ_self _), hbytes, Option.map_some]
    · rw [convertLineV210To2vuyVector, if_neg hzero, hback _ (.inr rfl),
        if_pos (Nat.lt_succ_self _), hbytes, Option.map_some]

end Vuy

/-- **Lines of 10-bit YCbCr**: the components packed and unpacked come back exactly for a multiple
of six pixels below 2^30, and the bytes converted there and back for a multiple of three up to
32766. -/
theorem v210_iff {in16BitYUVLine : List UWord} {beyond : ℕ → UWord} {inNumPixels : ULWord}
    {fuel : ℕ} {packed : List V210Word} (hten : ∀ c ∈ in16BitYUVLine, c.toNat < 1024)
    (hn : 6 ≤ inNumPixels.toNat)
    (hpack : packLineUWordSequenceTo10BitYUV in16BitYUVLine beyond true inNumPixels fuel =
      some (true, packed)) (host : Host) (line : ℕ → UByte) (inVuyPixels : ULWord) :
    (PacksAndUnpacks in16BitYUVLine inNumPixels packed ↔
      6 ∣ inNumPixels.toNat ∧ inNumPixels.toNat < 2 ^ 30) ∧
    (VuyComesBack host line inVuyPixels ↔
      3 ∣ inVuyPixels.toNat ∧ inVuyPixels.toNat ≤ 32766) :=
  ⟨packsAndUnpacks_iff hten hn hpack, vuyComesBack_iff⟩

/-- Six pixels of twelve components, and six pixels of bytes. -/
theorem v210_iff_six :
    (∃ packed, PacksAndUnpacks [1, 2, 3, 4, 5, 6, 7, 8, 9, 10, 11, 1023] 6 packed) ∧
      VuyComesBack ⟨false⟩ (fun i => BitVec.ofNat 8 i) 6 :=
  have hpack : packLineUWordSequenceTo10BitYUV [1, 2, 3, 4, 5, 6, 7, 8, 9, 10, 11, 1023]
      (fun _ => 0) true 6 2 = some (true,
        (List.range 4).map fun j => packWord
          (elementOr [1, 2, 3, 4, 5, 6, 7, 8, 9, 10, 11, 1023] fun _ => 0)
          (BitVec.ofNat 32 (3 * j))) := by decide +kernel
  have h := v210_iff (by simp) (by decide) hpack ⟨false⟩ (fun i => BitVec.ofNat 8 i) 6
  ⟨⟨_, h.1.mpr (by decide)⟩, h.2.mpr (by decide)⟩

/-- A line of 1280 pixels of bytes does not come back alone: one byte more is written. -/
theorem not_vuyComesBack_1280 : ¬ VuyComesBack ⟨false⟩ (fun _ => 0) 1280 := by
  intro h
  have hthree := (vuyComesBack_iff.mp h).1
  exact absurd hthree (by decide)

end LibAjaNtv2
