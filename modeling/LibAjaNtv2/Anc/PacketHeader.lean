import LibAjaNtv2.Anc.Types
import LibAjaNtv2.Lib.BitField
import LibAjaNtv2.Lib.Layout

/-!
The location of a packet in the word of an RTP packet header, and read back
(`AJARTPAncPacketHeader`).

* `AJARTPAncPacketHeader`: the location of a packet as a word;
* `AJAAncDataLoc.Equal`: the equality of locations;
* `AJARTPAncPacketHeader.fields`: the fields of the word, side by side;
* `SetFromULWord_GetULWord`: **the word carries the header**, where the header fits it;
* `AJAAncDataLoc.ofHeaderWord`: the location that is read back;
* `equal_ofHeaderWord_iff`: **when the location read back is equal**: the header has one number for
  the link and the data stream.
-/

namespace LibAjaNtv2

open AJAAncDataLink AJAAncDataStream AJAAncDataChannel

/-! ### Byte order -/

/-- `ENDIAN_32HtoN` and `ENDIAN_32NtoH`: `AJA_ENDIAN_SWAP32`, which is `NTV2EndianSwap32`, on a
little-endian host. -/
def ENDIAN_32 (host : Host) (inValue : ULWord) : ULWord :=
  host.bigEndianOf ntv2EndianSwap32 inValue

/-- What goes to the network order and back is the same. -/
@[simp] lemma ENDIAN_32_ENDIAN_32 (host : Host) (v : ULWord) :
    ENDIAN_32 host (ENDIAN_32 host v) = v := by
  rw [ENDIAN_32, ENDIAN_32, Host.bigEndianOf, Host.bigEndianOf]
  cases host.bigEndian with
  | true => rfl
  | false => exact swap_swap (n := 4) (by decide) leBytes_swap32 v

/-! ### The header of a packet -/

/-- `AJARTPAncPacketHeader`. -/
structure AJARTPAncPacketHeader where
  mCBit : Bool
  mSBit : Bool
  mLineNum : UWord
  mHOffset : UWord
  mStreamNum : UByte
  deriving DecidableEq, Repr

namespace AJARTPAncPacketHeader

/-- `AJARTPAncPacketHeader::SetFrom`. The stream number is that of the link where the link is
valid. -/
def SetFrom (inLoc : AJAAncDataLoc) : AJARTPAncPacketHeader where
  mCBit := decide (inLoc.mChannel.IsValid ∧ inLoc.mChannel ≠ AJAAncDataChannel_Y)
  mSBit := decide (inLoc.mLink.IsValid ∨ inLoc.mStream.IsValid)
  mLineNum := inLoc.mLineNum
  mHOffset := inLoc.mHorizOffset.setWidth 16
  mStreamNum :=
    if inLoc.mLink.IsValid then BitVec.ofNat 8 inLoc.mLink.num
    else if inLoc.mStream.IsValid then BitVec.ofNat 8 inLoc.mStream.num else 0

/-- `AJARTPAncPacketHeader::GetULWord`. -/
def GetULWord (host : Host) (h : AJARTPAncPacketHeader) : ULWord :=
  let u32 := ((h.mLineNum.setWidth 32 &&& 0x000007FF#32) <<< 20) |||
    (if h.mCBit then 0x80000000#32 else 0x00000000#32) |||
    ((h.mHOffset.setWidth 32 &&& 0x00000FFF#32) <<< 8) |||
    (if h.mSBit then 0x00000080#32 else 0x00000000#32)
  ENDIAN_32 host (if h.mSBit then u32 ||| (h.mStreamNum &&& 0x7F#8).setWidth 32 else u32)

/-- `AJARTPAncPacketHeader::SetFromULWord`. -/
def SetFromULWord (host : Host) (inULWord : ULWord) : AJARTPAncPacketHeader :=
  let u32 := ENDIAN_32 host inULWord
  { mCBit := decide (u32 &&& 0x80000000#32 ≠ 0)
    mSBit := decide (u32 &&& 0x00000080#32 ≠ 0)
    mLineNum := ((u32 &&& 0x7FF00000#32) >>> 20).setWidth 16
    mHOffset := ((u32 &&& 0x000FFF00#32) >>> 8).setWidth 16
    mStreamNum := (u32 &&& 0x0000007F#32).setWidth 8 }

/-- `AJARTPAncPacketHeader::AsDataLocation`. -/
def AsDataLocation (h : AJARTPAncPacketHeader) : AJAAncDataLoc :=
  let result : AJAAncDataLoc :=
    { mLineNum := h.mLineNum
      mHorizOffset := h.mHOffset.setWidth 12
      mChannel := if h.mCBit then AJAAncDataChannel_C else AJAAncDataChannel_Y
      mLink := AJAAncDataLink_A
      mStream := AJAAncDataStream_1 }
  if h.mSBit then
    let result := { result with mStream := AJAAncDataStream.ofNum h.mStreamNum.toNat }
    -- `IS_LINKB_AJAAncDataStream` is true of the second stream alone
    if result.mStream = AJAAncDataStream_2 then { result with mLink := AJAAncDataLink_B }
    else result
  else result

end AJARTPAncPacketHeader

/-! ### Equal locations -/

/-- `AJAAncDataLoc::operator ==`: horizontal offsets are compared where both are known. -/
structure AJAAncDataLoc.Equal (lhs rhs : AJAAncDataLoc) : Prop where
  link : lhs.mLink = rhs.mLink
  stream : lhs.mStream = rhs.mStream
  channel : lhs.mChannel = rhs.mChannel
  lineNum : lhs.mLineNum = rhs.mLineNum
  horizOffset : lhs.mHorizOffset ≠ 0 → rhs.mHorizOffset ≠ 0 → lhs.mHorizOffset = rhs.mHorizOffset

/-! ### The word of a header -/

namespace AJARTPAncPacketHeader

/-- A flag as a number. -/
def flag (b : Bool) : ULWord := if b then 1 else 0

/-- The fields of the word: the C bit, the line, the offset, the S bit and the stream number. -/
def fields (h : AJARTPAncPacketHeader) : List (Slot × ULWord) :=
  [(⟨20, 11⟩, h.mLineNum.setWidth 32), (⟨31, 1⟩, flag h.mCBit), (⟨8, 12⟩, h.mHOffset.setWidth 32),
    (⟨7, 1⟩, flag h.mSBit), (⟨0, 7⟩, if h.mSBit then h.mStreamNum.setWidth 32 else 0)]

/-- The fields are apart. -/
lemma fields_apart (h : AJARTPAncPacketHeader) :
    h.fields.Pairwise fun f g => f.1.Apart g.1 := by
  simp only [fields, List.pairwise_cons, List.forall_mem_cons, List.not_mem_nil, false_implies,
    implies_true, and_true, List.Pairwise.nil]
  decide

/-- The word is made of its fields. -/
lemma GetULWord_eq (host : Host) (h : AJARTPAncPacketHeader) :
    h.GetULWord host = ENDIAN_32 host (Slot.fill h.fields) := by
  have hc : (if h.mCBit then 0x80000000#32 else 0x00000000#32) =
      Slot.put ⟨31, 1⟩ (flag h.mCBit) := by
    cases h.mCBit <;> decide
  have hs : (if h.mSBit then 0x00000080#32 else 0x00000000#32) =
      Slot.put ⟨7, 1⟩ (flag h.mSBit) := by
    cases h.mSBit <;> decide
  have hstream : (h.mStreamNum &&& 0x7F#8).setWidth 32 =
      Slot.put ⟨0, 7⟩ (h.mStreamNum.setWidth 32) := by
    rw [Slot.put, BitVec.shiftLeft_zero, BitVec.setWidth_and]
    rfl
  rw [GetULWord]
  simp only [hc, hs, hstream]
  congr 1
  simp only [fields, Slot.fill, List.foldl_cons, List.foldl_nil, BitVec.zero_or]
  cases h.mSBit with
  | true => rfl
  | false => simp [Slot.put]; rfl

/-- A header that fits the word. -/
structure Fits (h : AJARTPAncPacketHeader) : Prop where
  line : h.mLineNum.toNat < 2 ^ 11
  offset : h.mHOffset.toNat < 2 ^ 12
  stream : h.mStreamNum.toNat < 2 ^ 7
  flagged : h.mSBit = true

lemma and_shift_eq_read {s : Slot} {m : ULWord} (hm : m >>> s.shift = s.mask) (u : ULWord) :
    (u &&& m) >>> s.shift = s.read u := by
  rw [BitVec.ushiftRight_and_distrib, hm, Slot.read]

/-- A flag is the bit of its field. -/
lemma flag_read {k : ℕ} (hk : k < 32) {b : Bool} {u : ULWord}
    (hread : Slot.read ⟨k, 1⟩ u = flag b &&& Slot.mask ⟨k, 1⟩) :
    decide (u &&& (1#32 <<< k) ≠ 0#32) = b := by
  have hflag : (flag b).getLsbD 0 = b := by cases b <;> rfl
  have hbit : u.getLsbD k = b := by
    have h := congrArg (fun v : ULWord => v.getLsbD 0) hread
    rw [Slot.getLsbD_read, BitVec.getLsbD_and, Slot.getLsbD_mask, hflag] at h
    simpa using h
  have hextract : u.extractLsb' k 1 = BitVec.ofBool b := by
    rw [← hbit]
    ext i hi
    obtain rfl : i = 0 := by omega
    simp [BitVec.getLsbD_eq_getElem hk]
  rw [Bool.eq_iff_iff, decide_eq_true_iff]
  refine (BitField.bit_ne_zero_iff u hk).trans ?_
  rw [hextract]
  cases b <;> decide

/-- **The word carries the header**, where it fits. -/
lemma SetFromULWord_GetULWord (host : Host) {h : AJARTPAncPacketHeader} (hfits : h.Fits) :
    SetFromULWord host (h.GetULWord host) = h := by
  have hread {s : Slot} {x : ULWord} (hmem : (s, x) ∈ h.fields) (hfit : s.shift + s.len ≤ 32) :
      s.read (Slot.fill h.fields) = x &&& s.mask := Slot.read_fill h.fields_apart hmem hfit
  have hcut {w len : ℕ} (hw : w ≤ 32) (hlen : len < 32) {x : BitVec w} (hx : x.toNat < 2 ^ len) :
      (x.setWidth 32 &&& BitVec.ofNat 32 (2 ^ len - 1)).setWidth w = x := by
    refine BitVec.eq_of_toNat_eq ?_
    have hwide : (x.setWidth 32).toNat = x.toNat := BitVec.toNat_setWidth_of_le hw
    have hpow : 2 ^ len < 2 ^ 32 := Nat.pow_lt_pow_right (by decide) hlen
    rw [BitVec.toNat_setWidth, BitVec.toNat_and, hwide, BitVec.toNat_ofNat,
      Nat.mod_eq_of_lt (by omega : 2 ^ len - 1 < 2 ^ 32), Nat.and_two_pow_sub_one_eq_mod,
      Nat.mod_eq_of_lt hx, Nat.mod_eq_of_lt x.isLt]
  have hline := hread (s := ⟨20, 11⟩) (x := h.mLineNum.setWidth 32) (by simp [fields]) (by decide)
  have hoffset := hread (s := ⟨8, 12⟩) (x := h.mHOffset.setWidth 32) (by simp [fields]) (by decide)
  have hstream := hread (s := ⟨0, 7⟩) (x := h.mStreamNum.setWidth 32)
    (by simp [fields, hfits.flagged]) (by decide)
  have hc := flag_read (by omega) (hread (s := ⟨31, 1⟩) (x := flag h.mCBit) (by simp [fields])
    (by decide))
  have hs := flag_read (by omega) (hread (s := ⟨7, 1⟩) (x := flag h.mSBit) (by simp [fields])
    (by decide))
  rw [GetULWord_eq, SetFromULWord, ENDIAN_32_ENDIAN_32]
  generalize Slot.fill h.fields = u at hline hoffset hstream hc hs
  obtain ⟨c, sbit, line, offset, stream⟩ := h
  simp only [AJARTPAncPacketHeader.mk.injEq]
  refine ⟨hc, hs, ?_, ?_, ?_⟩
  · rw [and_shift_eq_read (s := ⟨20, 11⟩) (by decide), hline]
    exact hcut (by decide) (by decide) hfits.line
  · rw [and_shift_eq_read (s := ⟨8, 12⟩) (by decide), hoffset]
    exact hcut (by decide) (by decide) hfits.offset
  · have hmask : (u &&& 0x0000007F#32) = Slot.read ⟨0, 7⟩ u := by
      rw [Slot.read, BitVec.ushiftRight_zero]
      rfl
    rw [hmask, hstream]
    exact hcut (by decide) (by decide) hfits.stream

end AJARTPAncPacketHeader

/-! ### Locations -/

namespace AJAAncDataLoc

/-- The location that is read back from the word of a header. -/
def ofHeaderWord (host : Host) (loc : AJAAncDataLoc) : AJAAncDataLoc :=
  (AJARTPAncPacketHeader.SetFromULWord host
    ((AJARTPAncPacketHeader.SetFrom loc).GetULWord host)).AsDataLocation

/-- The header of a valid location fits the word. -/
lemma fits_SetFrom {loc : AJAAncDataLoc} (hvalid : loc.IsValid)
    (hline : loc.mLineNum.toNat < 2 ^ 11) :
    (AJARTPAncPacketHeader.SetFrom loc).Fits := by
  have hlink := hvalid.1
  refine ⟨hline, ?_, ?_, decide_eq_true (.inl hlink)⟩
  · have := loc.mHorizOffset.isLt
    rw [AJARTPAncPacketHeader.SetFrom, BitVec.toNat_setWidth]
    omega
  · rw [AJARTPAncPacketHeader.SetFrom]
    simp only [if_pos hlink]
    cases loc.mLink <;> decide

/-- What is read back: the data stream with the number of the link, and the link of that stream. -/
lemma ofHeaderWord_eq (host : Host) {loc : AJAAncDataLoc} (hvalid : loc.IsValid)
    (hline : loc.mLineNum.toNat < 2 ^ 11) :
    loc.ofHeaderWord host = { loc with
      mStream := if loc.mLink = AJAAncDataLink_A then AJAAncDataStream_1 else AJAAncDataStream_2 } := by
  obtain ⟨hlink, hstream, hchannel⟩ := hvalid
  rw [ofHeaderWord,
    AJARTPAncPacketHeader.SetFromULWord_GetULWord host (fits_SetFrom ⟨hlink, hstream, hchannel⟩ hline)]
  have hoffset : (loc.mHorizOffset.setWidth 16).setWidth 12 = loc.mHorizOffset := by
    rw [BitVec.setWidth_setWidth_of_le _ (by omega), BitVec.setWidth_eq]
  have hcolor : (if decide (loc.mChannel.IsValid ∧ loc.mChannel ≠ AJAAncDataChannel_Y) = true then
      AJAAncDataChannel_C else AJAAncDataChannel_Y) = loc.mChannel := by
    cases hc : loc.mChannel with
    | AJAAncDataChannel_C => rfl
    | AJAAncDataChannel_Y => rfl
    | AJAAncDataChannel_Unknown => exact absurd hc hchannel
  simp only [AJARTPAncPacketHeader.SetFrom, AJARTPAncPacketHeader.AsDataLocation, hoffset, hcolor,
    decide_eq_true (Or.inl hlink : loc.mLink.IsValid ∨ loc.mStream.IsValid), if_pos hlink, if_true]
  cases hl : loc.mLink with
  | AJAAncDataLink_A => rfl
  | AJAAncDataLink_B => rfl
  | AJAAncDataLink_Unknown => exact absurd hl hlink

/-- **The location read back is equal** where the link and the data stream have one number: link A
with the first stream, or link B with the second. -/
theorem equal_ofHeaderWord_iff (host : Host) {loc : AJAAncDataLoc} (hvalid : loc.IsValid)
    (hline : loc.mLineNum.toNat < 2 ^ 11) :
    (loc.ofHeaderWord host).Equal loc ↔
      loc.mLink = AJAAncDataLink_A ∧ loc.mStream = AJAAncDataStream_1 ∨
        loc.mLink = AJAAncDataLink_B ∧ loc.mStream = AJAAncDataStream_2 := by
  rw [ofHeaderWord_eq host hvalid hline]
  have hlink := hvalid.1
  constructor
  · rintro ⟨-, hstream, -, -, -⟩
    cases hl : loc.mLink with
    | AJAAncDataLink_A => exact .inl ⟨rfl, by simpa [hl] using hstream.symm⟩
    | AJAAncDataLink_B => exact .inr ⟨rfl, by simpa [hl] using hstream.symm⟩
    | AJAAncDataLink_Unknown => exact absurd hl hlink
  · rintro (⟨hl, hs⟩ | ⟨hl, hs⟩)
    · exact ⟨rfl, by simp [hl, hs], rfl, rfl, fun _ _ => rfl⟩
    · exact ⟨rfl, by simp [hl, hs], rfl, rfl, fun _ _ => rfl⟩

/-- A packet of link A and the first data stream. -/
def firstStreamLoc : AJAAncDataLoc where
  mLink := AJAAncDataLink_A
  mStream := AJAAncDataStream_1
  mChannel := AJAAncDataChannel_Y
  mLineNum := 9
  mHorizOffset := 0

/-- Its location is read back. -/
theorem equal_ofHeaderWord_firstStream :
    (firstStreamLoc.ofHeaderWord ⟨false⟩).Equal firstStreamLoc :=
  (equal_ofHeaderWord_iff ⟨false⟩ (by decide) (by decide)).mpr (.inl ⟨rfl, rfl⟩)

/-- A packet of link B and the third data stream. -/
def thirdStreamLoc : AJAAncDataLoc where
  mLink := AJAAncDataLink_B
  mStream := AJAAncDataStream_3
  mChannel := AJAAncDataChannel_Y
  mLineNum := 9
  mHorizOffset := 0

/-- Its location is not read back: it has the second data stream then. -/
theorem not_equal_ofHeaderWord_thirdStream :
    ¬ (thirdStreamLoc.ofHeaderWord ⟨false⟩).Equal thirdStreamLoc := by
  rintro ⟨-, hstream, -, -, -⟩
  revert hstream
  decide +kernel

end AJAAncDataLoc

end LibAjaNtv2
