import LibAjaNtv2.Lib.Block
import LibAjaNtv2.Rpc.Buffer

/-!
Ranges of a buffer: segments, copies and elements put into it (`ntv2publicinterface.cpp`).

* `NTV2Buffer.segment`, `NTV2Buffer.copyFrom`: a range of a buffer, and a range of another buffer
  copied into it;
* `NTV2Buffer.putAt`: the bounds checks of the functions that put elements into a buffer;
  `putU64s`, `putU32s`, `putU16s`, `putU8s`: these functions;
* `segmentInside_iff`, `copyInside_iff`, `putInside_iff`: when each stays inside the buffers;
* `ranges_inside_iff`: **all of them together**: the sums of 32 bits must not wrap to a value that
  passes the check, and the offset of the elements must be before the last whole element.
-/

namespace LibAjaNtv2

/-- Words stored one after the other, `*p++ = ..`. -/
def putWords {w : ℕ} (host : Host) (elementSize : ℕ) :
    List (BitVec w) → ℕ → Block Byte → Option (Block Byte)
  | [], _, b => some b
  | v :: vs, p, b => do
      let b ← b.store p (host.memory elementSize v)
      putWords host elementSize vs (p + elementSize) b

/-- Words are stored where there is room for all of them. -/
lemma exists_putWords {w elementSize : ℕ} {host : Host} {vs : List (BitVec w)} {p : ℕ}
    {b : Block Byte} (h : p + vs.length * elementSize ≤ b.cells.length) :
    ∃ out, putWords host elementSize vs p b = some out := by
  induction vs generalizing p b with
  | nil => exact ⟨b, rfl⟩
  | cons v vs ih =>
      rw [List.length_cons, Nat.succ_mul] at h
      obtain ⟨mid, hmid⟩ := @Block.exists_store _ b p (host.memory elementSize v) (by
        rw [length_memory]
        omega)
      obtain ⟨out, hout⟩ := @ih (p + elementSize) mid (by
        rw [Block.length_move hmid]
        omega)
      refine ⟨out, ?_⟩
      rw [putWords, hmid]
      exact hout

namespace NTV2Buffer

/-! ### The functions -/

/-- The memory of the buffer, to be written. -/
def block (self : NTV2Buffer) : Block Byte := ⟨self.bytes, []⟩

/-- `GetHostAddress`, as an offset from the start of the buffer. -/
def getHostAddress (self : NTV2Buffer) (inByteOffset : ULWord) : Option ULWord :=
  if self.isNULL then none
  else if self.fByteCount ≤ inByteOffset then none
  else some inByteOffset

/-- `Set`, of an address in a buffer: the address and the size, none of which is left when one of
them is zero. -/
def setRange (inUserPointer : Option ULWord) (inByteCount : ULWord) : Option (ULWord × ULWord) :=
  match inUserPointer with
  | none => none
  | some p => if inByteCount = 0 then none else some (p, inByteCount)

/-- `Segment`: where the segment begins in the buffer and its size, unless it is empty. -/
def segment (self : NTV2Buffer) (inByteOffset inByteCount : ULWord) : Option (ULWord × ULWord) :=
  if self.fByteCount ≤ inByteOffset then none
  else if self.fByteCount < inByteOffset + inByteCount then none
  else setRange (self.getHostAddress inByteOffset) inByteCount

/-- `CopyFrom`, of a range of another buffer. -/
def copyFrom (self inBuffer : NTV2Buffer) (inSrcByteOffset inDstByteOffset inByteCount : ULWord) :
    Option (Bool × Block Byte) :=
  if inBuffer.isNULL || self.isNULL then some (false, self.block)
  else if inBuffer.fByteCount < inSrcByteOffset + inByteCount then some (false, self.block)
  else if self.fByteCount < inDstByteOffset + inByteCount then some (false, self.block)
  else (self.block.memcpy inDstByteOffset.toNat inBuffer.bytes inSrcByteOffset.toNat
    inByteCount.toNat).map fun b => (true, b)

/-- What the functions that put `count` elements into a buffer check before they write. -/
def putAt (self : NTV2Buffer) (elementSize count : ℕ) (inOffset : ULWord64)
    (write : ℕ → ULWord → Option (Block Byte)) : Option (Bool × Block Byte) :=
  if self.isNULL then some (false, self.block)
  else if count = 0 then some (true, self.block)
  else
    let maxElements := self.fByteCount.toNat / elementSize
    match self.getHostAddress ((inOffset * BitVec.ofNat 64 elementSize).setWidth 32) with
    | none => some (false, self.block)
    | some p =>
        -- past the last whole element, the offset is not taken off
        let maxElements :=
          if inOffset.toNat < maxElements then maxElements - inOffset.toNat else maxElements
        let maxElements := if count < maxElements then count else maxElements
        if maxElements < count then some (false, self.block)
        else (write maxElements p).map fun b => (true, b)

/-- `PutU64s`. -/
def putU64s (host : Host) (self : NTV2Buffer) (inU64s : List ULWord64) (inU64Offset : ULWord64)
    (inByteSwap : Bool) : Option (Bool × Block Byte) :=
  self.putAt 8 inU64s.length inU64Offset fun maxU64s pU64 =>
    putWords host 8
      ((inU64s.take maxU64s).map fun v => if inByteSwap then ntv2EndianSwap64 v else v)
      pU64.toNat self.block

/-- `PutU32s`. -/
def putU32s (host : Host) (self : NTV2Buffer) (inU32s : List ULWord) (inU32Offset : ULWord64)
    (inByteSwap : Bool) : Option (Bool × Block Byte) :=
  self.putAt 4 inU32s.length inU32Offset fun maxU32s pU32 =>
    putWords host 4
      ((inU32s.take maxU32s).map fun v => if inByteSwap then ntv2EndianSwap32 v else v)
      pU32.toNat self.block

/-- `PutU16s`. -/
def putU16s (host : Host) (self : NTV2Buffer) (inU16s : List UWord) (inU16Offset : ULWord64)
    (inByteSwap : Bool) : Option (Bool × Block Byte) :=
  self.putAt 2 inU16s.length inU16Offset fun maxU16s pU16 =>
    putWords host 2
      ((inU16s.take maxU16s).map fun v => if inByteSwap then ntv2EndianSwap16 v else v)
      pU16.toNat self.block

/-- `PutU8s`. -/
def putU8s (self : NTV2Buffer) (inU8s : List Byte) (inU8Offset : ULWord64) :
    Option (Bool × Block Byte) :=
  self.putAt 1 inU8s.length inU8Offset fun maxU8s pU8 =>
    self.block.memcpy pU8.toNat inU8s 0 maxU8s

/-! ### Inside the buffer -/

variable (self inBuffer : NTV2Buffer)

/-- The segment is empty or lies inside the buffer. -/
def SegmentInside (inByteOffset inByteCount : ULWord) : Prop :=
  ∀ start count, self.segment inByteOffset inByteCount = some (start, count) →
    start.toNat + count.toNat ≤ self.bytes.length

/-- The copy touches only bytes of the two buffers. -/
def CopyInside (inSrcByteOffset inDstByteOffset inByteCount : ULWord) : Prop :=
  ∃ result, self.copyFrom inBuffer inSrcByteOffset inDstByteOffset inByteCount = some result

/-- Elements at an offset lie inside the buffer. -/
def Fits (elementSize count : ℕ) (inOffset : ULWord64) : Prop :=
  count = 0 ∨ (inOffset.toNat + count) * elementSize ≤ self.bytes.length

/-- Putting elements at an offset writes only bytes of the buffer, and fails when the elements do
not lie inside it. -/
def PutInside (elementSize count : ℕ) (inOffset : ULWord64)
    (result : Option (Bool × Block Byte)) : Prop :=
  ∃ returned after, result = some (returned, after) ∧
    (¬ self.Fits elementSize count inOffset → returned = false)

/-- The elements are put inside the buffer, or refused, because they start before the last whole
element, or their address is past the end, or there are more of them than the buffer holds. -/
def PutChecked (elementSize count : ℕ) (inOffset : ULWord64) : Prop :=
  count = 0 ∨ inOffset.toNat < self.bytes.length / elementSize ∨
    self.bytes.length ≤ inOffset.toNat * elementSize % 2 ^ 32 ∨
    self.bytes.length / elementSize < count

variable {self inBuffer}

lemma toNat_fByteCount : self.fByteCount.toNat = self.bytes.length := by
  rw [fByteCount, BitVec.toNat_ofNat, Nat.mod_eq_of_lt self.size_lt]

lemma isNULL_iff : self.isNULL = true ↔ self.bytes.length = 0 := by
  rw [isNULL, List.isEmpty_iff, List.length_eq_zero_iff]

/-- **A segment** lies inside the buffer unless the sum of its offset and size wraps to a value
inside. -/
lemma segmentInside_iff {inByteOffset inByteCount : ULWord} :
    self.SegmentInside inByteOffset inByteCount ↔
      inByteOffset.toNat + inByteCount.toNat < 2 ^ 32 ∨
        self.bytes.length ≤ inByteOffset.toNat ∨
        self.bytes.length < (inByteOffset.toNat + inByteCount.toNat) % 2 ^ 32 := by
  have hsize := self.size_lt
  have hoffset := inByteOffset.isLt
  have hcount := inByteCount.isLt
  simp only [SegmentInside, segment, BitVec.le_def, BitVec.lt_def, BitVec.toNat_add,
    toNat_fByteCount]
  by_cases hpast : self.bytes.length ≤ inByteOffset.toNat
  · rw [if_pos hpast]
    exact iff_of_true (fun _ _ h => by cases h) (.inr (.inl hpast))
  rw [if_neg hpast]
  by_cases hlong : self.bytes.length < (inByteOffset.toNat + inByteCount.toNat) % 2 ^ 32
  · rw [if_pos hlong]
    exact iff_of_true (fun _ _ h => by cases h) (.inr (.inr hlong))
  have haddress : self.getHostAddress inByteOffset = some inByteOffset := by
    rw [getHostAddress, if_neg (by rw [isNULL_iff]; omega),
      if_neg (by rw [BitVec.le_def, toNat_fByteCount]; exact hpast)]
  rw [if_neg hlong, haddress]
  simp only [setRange]
  by_cases hzero : inByteCount = 0
  · rw [if_pos hzero, hzero]
    exact iff_of_true (fun _ _ h => by cases h) (.inl hoffset)
  · have hpos : inByteCount.toNat ≠ 0 := fun h => hzero (BitVec.eq_of_toNat_eq h)
    rw [if_neg hzero]
    constructor
    · intro h
      have hinside := h inByteOffset inByteCount rfl
      omega
    · rintro hsum start count ⟨⟩
      omega

/-- **A copy** stays inside the buffers unless a sum of offset and size wraps and both sums pass
their checks. -/
lemma copyInside_iff {inSrcByteOffset inDstByteOffset inByteCount : ULWord} :
    self.CopyInside inBuffer inSrcByteOffset inDstByteOffset inByteCount ↔
      inBuffer.bytes.length = 0 ∨ self.bytes.length = 0 ∨
        inBuffer.bytes.length < (inSrcByteOffset.toNat + inByteCount.toNat) % 2 ^ 32 ∨
        self.bytes.length < (inDstByteOffset.toNat + inByteCount.toNat) % 2 ^ 32 ∨
        inSrcByteOffset.toNat + inByteCount.toNat < 2 ^ 32 ∧
          inDstByteOffset.toNat + inByteCount.toNat < 2 ^ 32 := by
  have hsize := self.size_lt
  have hsrc := inBuffer.size_lt
  have hsrcOffset := inSrcByteOffset.isLt
  have hdstOffset := inDstByteOffset.isLt
  simp only [CopyInside, copyFrom, BitVec.lt_def, BitVec.toNat_add, toNat_fByteCount]
  by_cases hnull : (inBuffer.isNULL || self.isNULL) = true
  · rw [if_pos hnull]
    rw [Bool.or_eq_true, isNULL_iff, isNULL_iff] at hnull
    exact iff_of_true ⟨_, rfl⟩ (hnull.imp_right .inl)
  rw [if_neg hnull]
  rw [Bool.or_eq_true, isNULL_iff, isNULL_iff, not_or] at hnull
  by_cases hpastSrc :
      inBuffer.bytes.length < (inSrcByteOffset.toNat + inByteCount.toNat) % 2 ^ 32
  · rw [if_pos hpastSrc]
    exact iff_of_true ⟨_, rfl⟩ (.inr (.inr (.inl hpastSrc)))
  rw [if_neg hpastSrc]
  by_cases hpastDst : self.bytes.length < (inDstByteOffset.toNat + inByteCount.toNat) % 2 ^ 32
  · rw [if_pos hpastDst]
    exact iff_of_true ⟨_, rfl⟩ (.inr (.inr (.inr (.inl hpastDst))))
  rw [if_neg hpastDst]
  have hmemcpy : (∃ result, (self.block.memcpy inDstByteOffset.toNat inBuffer.bytes
        inSrcByteOffset.toNat inByteCount.toNat).map (fun b => (true, b)) = some result) ↔
      inByteCount.toNat = 0 ∨
        inSrcByteOffset.toNat + inByteCount.toNat ≤ inBuffer.bytes.length ∧
        inDstByteOffset.toNat + inByteCount.toNat ≤ self.bytes.length := by
    constructor
    · rintro ⟨result, hresult⟩
      obtain ⟨out, hout, -⟩ := Option.map_eq_some_iff.mp hresult
      exact (Block.move_eq_some_iff.mp hout).1
    · intro h
      have hinside : (Move.copy inDstByteOffset.toNat inSrcByteOffset.toNat inByteCount.toNat :
          Move Byte).Inside inBuffer.bytes.length self.block.cells.length := h
      rw [Block.memcpy, Block.move_eq_some_iff.mpr ⟨hinside, rfl⟩]
      exact ⟨_, rfl⟩
  rw [hmemcpy]
  omega

/-- **Elements** are put inside the buffer, or refused, exactly when one of the checks sees where
they are. -/
lemma putInside_iff {elementSize count : ℕ} {inOffset : ULWord64}
    {write : ℕ → ULWord → Option (Block Byte)} (hpos : 0 < elementSize) (hle : elementSize ≤ 8)
    (hwrite : ∀ p : ULWord, p.toNat + count * elementSize ≤ self.bytes.length →
      ∃ out, write count p = some out) :
    self.PutInside elementSize count inOffset (self.putAt elementSize count inOffset write) ↔
      self.PutChecked elementSize count inOffset := by
  have hsize := self.size_lt
  have hoffset := inOffset.isLt
  have haddress : ((inOffset * BitVec.ofNat 64 elementSize).setWidth 32 : ULWord).toNat =
      inOffset.toNat * elementSize % 2 ^ 32 := by
    rw [BitVec.toNat_setWidth, BitVec.toNat_mul, BitVec.toNat_ofNat,
      Nat.mod_eq_of_lt (show elementSize < 2 ^ 64 by omega),
      Nat.mod_mod_of_dvd _ (Nat.pow_dvd_pow 2 (by omega))]
  rw [PutInside, PutChecked, putAt]
  by_cases hnull : self.isNULL = true
  · rw [if_pos hnull]
    rw [isNULL_iff] at hnull
    exact iff_of_true ⟨_, _, rfl, fun _ => rfl⟩ (.inr (.inr (.inl (by rw [hnull]; omega))))
  rw [if_neg hnull]
  by_cases hzero : count = 0
  · rw [if_pos hzero]
    exact iff_of_true ⟨_, _, rfl, fun h => absurd (.inl hzero) h⟩ (.inl hzero)
  rw [if_neg hzero]
  by_cases hpast : self.bytes.length ≤ inOffset.toNat * elementSize % 2 ^ 32
  · have hnone : self.getHostAddress ((inOffset * BitVec.ofNat 64 elementSize).setWidth 32) =
        none := by
      rw [getHostAddress, if_neg hnull, if_pos]
      rw [BitVec.le_def, toNat_fByteCount, haddress]
      exact hpast
    rw [hnone]
    exact iff_of_true ⟨_, _, rfl, fun _ => rfl⟩ (.inr (.inr (.inl hpast)))
  have hsome : self.getHostAddress ((inOffset * BitVec.ofNat 64 elementSize).setWidth 32) =
      some ((inOffset * BitVec.ofNat 64 elementSize).setWidth 32) := by
    rw [getHostAddress, if_neg hnull, if_neg]
    rw [BitVec.le_def, toNat_fByteCount, haddress]
    exact hpast
  rw [hsome]
  simp only [toNat_fByteCount]
  have hwhole := Nat.div_mul_le_self self.bytes.length elementSize
  by_cases hbefore : inOffset.toNat < self.bytes.length / elementSize
  · -- before the last whole element the address is exact and so is the check
    rw [if_pos hbefore]
    have hexact : inOffset.toNat * elementSize % 2 ^ 32 = inOffset.toNat * elementSize := by
      refine Nat.mod_eq_of_lt (lt_of_le_of_lt ?_ hsize)
      exact (Nat.mul_le_mul_right _ hbefore.le).trans hwhole
    refine iff_of_true ?_ (.inr (.inl hbefore))
    by_cases hmany : self.bytes.length / elementSize - inOffset.toNat < count
    · rw [if_neg (show ¬ count < self.bytes.length / elementSize - inOffset.toNat by omega),
        if_pos hmany]
      exact ⟨_, _, rfl, fun _ => rfl⟩
    · have hcount : (if count < self.bytes.length / elementSize - inOffset.toNat then count
          else self.bytes.length / elementSize - inOffset.toNat) = count := by
        split_ifs <;> omega
      have hfits : (inOffset.toNat + count) * elementSize ≤ self.bytes.length :=
        (Nat.mul_le_mul_right _ (by omega)).trans hwhole
      obtain ⟨out, hout⟩ := hwrite ((inOffset * BitVec.ofNat 64 elementSize).setWidth 32) (by
        rw [haddress, hexact, ← Nat.add_mul]
        exact hfits)
      rw [hcount, if_neg (lt_irrefl count), hout]
      exact ⟨true, out, rfl, fun h => absurd (.inr hfits) h⟩
  · rw [if_neg hbefore]
    by_cases hmany : self.bytes.length / elementSize < count
    · rw [if_neg (show ¬ count < self.bytes.length / elementSize by omega), if_pos hmany]
      exact iff_of_true ⟨_, _, rfl, fun _ => rfl⟩ (.inr (.inr (.inr hmany)))
    · have hcount : (if count < self.bytes.length / elementSize then count
          else self.bytes.length / elementSize) = count := by
        split_ifs <;> omega
      rw [hcount, if_neg (lt_irrefl count)]
      refine iff_of_false ?_ (by omega)
      rintro ⟨returned, after, hresult, hrefused⟩
      obtain ⟨out, -, hpair⟩ := Option.map_eq_some_iff.mp hresult
      have hmisfit : ¬ self.Fits elementSize count inOffset := by
        rintro (h | h)
        · exact hzero h
        · have hdiv := (Nat.le_div_iff_mul_le hpos).mpr h
          omega
      rw [hrefused hmisfit] at hpair
      cases hpair

/-- There is room for the words that a checked function stores. -/
lemma exists_putWords_take {w elementSize : ℕ} (host : Host) (swap : BitVec w → BitVec w)
    (vs : List (BitVec w)) {p : ULWord}
    (hroom : p.toNat + vs.length * elementSize ≤ self.bytes.length) :
    ∃ out, putWords host elementSize ((vs.take vs.length).map swap) p.toNat self.block =
      some out := by
  refine exists_putWords ?_
  rw [List.length_map, List.take_length]
  exact hroom

/-- **Ranges stay inside the buffers** exactly when no sum of an offset and a size wraps to a value
that passes its check, and elements are not put past the last whole element at an address that is
still in the buffer. -/
theorem ranges_inside_iff (host : Host) (self inBuffer : NTV2Buffer)
    (inByteOffset inSrcByteOffset inDstByteOffset inByteCount : ULWord) (inOffset : ULWord64)
    (inU64s : List ULWord64) (inU32s : List ULWord) (inU16s : List UWord) (inU8s : List Byte)
    (inByteSwap : Bool) :
    (self.SegmentInside inByteOffset inByteCount ↔
      inByteOffset.toNat + inByteCount.toNat < 2 ^ 32 ∨
        self.bytes.length ≤ inByteOffset.toNat ∨
        self.bytes.length < (inByteOffset.toNat + inByteCount.toNat) % 2 ^ 32) ∧
    (self.CopyInside inBuffer inSrcByteOffset inDstByteOffset inByteCount ↔
      inBuffer.bytes.length = 0 ∨ self.bytes.length = 0 ∨
        inBuffer.bytes.length < (inSrcByteOffset.toNat + inByteCount.toNat) % 2 ^ 32 ∨
        self.bytes.length < (inDstByteOffset.toNat + inByteCount.toNat) % 2 ^ 32 ∨
        inSrcByteOffset.toNat + inByteCount.toNat < 2 ^ 32 ∧
          inDstByteOffset.toNat + inByteCount.toNat < 2 ^ 32) ∧
    (self.PutInside 8 inU64s.length inOffset (putU64s host self inU64s inOffset inByteSwap) ↔
      self.PutChecked 8 inU64s.length inOffset) ∧
    (self.PutInside 4 inU32s.length inOffset (putU32s host self inU32s inOffset inByteSwap) ↔
      self.PutChecked 4 inU32s.length inOffset) ∧
    (self.PutInside 2 inU16s.length inOffset (putU16s host self inU16s inOffset inByteSwap) ↔
      self.PutChecked 2 inU16s.length inOffset) ∧
    (self.PutInside 1 inU8s.length inOffset (putU8s self inU8s inOffset) ↔
      self.PutChecked 1 inU8s.length inOffset) := by
  refine ⟨segmentInside_iff, copyInside_iff, ?_, ?_, ?_, ?_⟩
  · exact putInside_iff (by decide) (by decide) fun p => exists_putWords_take host _ inU64s
  · exact putInside_iff (by decide) (by decide) fun p => exists_putWords_take host _ inU32s
  · exact putInside_iff (by decide) (by decide) fun p => exists_putWords_take host _ inU16s
  · refine putInside_iff (by decide) (by decide) fun p hroom => ?_
    exact ⟨_, Block.move_eq_some_iff.mpr ⟨.inr ⟨by omega, by rwa [Nat.mul_one] at hroom⟩, rfl⟩⟩

/-- A word of 64 bits put at offset 1 of 12 bytes is written past their end. -/
theorem not_putInside_twelve :
    ¬ (⟨List.replicate 12 0, 0, by decide⟩ : NTV2Buffer).PutInside 8 1 1
      (putU64s ⟨false⟩ ⟨List.replicate 12 0, 0, by decide⟩ [5] 1 false) := by
  have hpast : putU64s ⟨false⟩ ⟨List.replicate 12 0, 0, by decide⟩ [5] 1 false = none := by decide
  rintro ⟨returned, after, hresult, -⟩
  rw [hpast] at hresult
  cases hresult

end NTV2Buffer

end LibAjaNtv2
