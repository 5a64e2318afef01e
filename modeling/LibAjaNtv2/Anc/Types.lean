import Mathlib.Tactic
import LibAjaNtv2.Rpc.Nub

/-!
Ancillary packets and where they stand in the raster (`ancillarydata.h`).

* `AJAAncDataLoc`: link, data stream, channel, line and horizontal offset;
* `AJAAncillaryData`: the data of a packet; `Init`, the setters of its location;
* `AddEvenParity`: the 10-bit word of a byte; `AddEvenParity_lt`, `setWidth_AddEvenParity`;
* `Calculate8BitChecksum`: the checksum of the payload, the identifiers and the count.
-/

namespace LibAjaNtv2

/-- `AJAStatus`: the values that the packet code returns. -/
inductive AJAStatus
  | AJA_STATUS_SUCCESS
  | AJA_STATUS_FAIL
  | AJA_STATUS_NULL
  | AJA_STATUS_RANGE
  | AJA_STATUS_BAD_PARAM
  | AJA_STATUS_BADBUFFERCOUNT
  | AJA_STATUS_BADBUFFERSIZE
  deriving DecidableEq, Repr

open AJAStatus

/-! ### Locations -/

/-- `AJAAncDataLink`. -/
inductive AJAAncDataLink
  | AJAAncDataLink_A
  | AJAAncDataLink_B
  | AJAAncDataLink_Unknown
  deriving DecidableEq, Repr

/-- `AJAAncDataStream`. -/
inductive AJAAncDataStream
  | AJAAncDataStream_1
  | AJAAncDataStream_2
  | AJAAncDataStream_3
  | AJAAncDataStream_4
  | AJAAncDataStream_Unknown
  deriving DecidableEq, Repr

/-- `AJAAncDataChannel`; `AJAAncDataChannel_Both` is `AJAAncDataChannel_C`. -/
inductive AJAAncDataChannel
  | AJAAncDataChannel_C
  | AJAAncDataChannel_Y
  | AJAAncDataChannel_Unknown
  deriving DecidableEq, Repr

/-- `AJAAncDataSpace`. -/
inductive AJAAncDataSpace
  | AJAAncDataSpace_VANC
  | AJAAncDataSpace_HANC
  | AJAAncDataSpace_Unknown
  deriving DecidableEq, Repr

open AJAAncDataLink AJAAncDataStream AJAAncDataChannel AJAAncDataSpace

/-- The number of a link. -/
def AJAAncDataLink.num : AJAAncDataLink → ℕ
  | AJAAncDataLink_A => 0
  | AJAAncDataLink_B => 1
  | AJAAncDataLink_Unknown => 2

/-- The number of a data stream. -/
def AJAAncDataStream.num : AJAAncDataStream → ℕ
  | AJAAncDataStream_1 => 0
  | AJAAncDataStream_2 => 1
  | AJAAncDataStream_3 => 2
  | AJAAncDataStream_4 => 3
  | AJAAncDataStream_Unknown => 4

/-- The number of a channel. -/
def AJAAncDataChannel.num : AJAAncDataChannel → ℕ
  | AJAAncDataChannel_C => 0
  | AJAAncDataChannel_Y => 1
  | AJAAncDataChannel_Unknown => 2

/-- The number of a space. -/
def AJAAncDataSpace.num : AJAAncDataSpace → ℕ
  | AJAAncDataSpace_VANC => 0
  | AJAAncDataSpace_HANC => 1
  | AJAAncDataSpace_Unknown => 2

/-- The cast of a number to `AJAAncDataStream`. The numbers past the last stream are all
invalid, and no location is ever given one. -/
def AJAAncDataStream.ofNum : ℕ → AJAAncDataStream
  | 0 => AJAAncDataStream_1
  | 1 => AJAAncDataStream_2
  | 2 => AJAAncDataStream_3
  | 3 => AJAAncDataStream_4
  | _ => AJAAncDataStream_Unknown

/-- `IS_VALID_AJAAncDataLink`. -/
def AJAAncDataLink.IsValid (l : AJAAncDataLink) : Prop := l ≠ AJAAncDataLink_Unknown

/-- `IS_VALID_AJAAncDataStream`. -/
def AJAAncDataStream.IsValid (s : AJAAncDataStream) : Prop := s ≠ AJAAncDataStream_Unknown

/-- `IS_VALID_AJAAncDataChannel`. -/
def AJAAncDataChannel.IsValid (c : AJAAncDataChannel) : Prop := c ≠ AJAAncDataChannel_Unknown

instance (l : AJAAncDataLink) : Decidable l.IsValid := inferInstanceAs (Decidable (_ ≠ _))

instance (s : AJAAncDataStream) : Decidable s.IsValid := inferInstanceAs (Decidable (_ ≠ _))

instance (c : AJAAncDataChannel) : Decidable c.IsValid := inferInstanceAs (Decidable (_ ≠ _))

/-- `AJAAncDataHorizOffset_Anywhere`. -/
def AJAAncDataHorizOffset_Anywhere : BitVec 12 := 0xFFF

/-- `AJAAncDataHorizOffset_AnyHanc`. -/
def AJAAncDataHorizOffset_AnyHanc : BitVec 12 := 0xFFE

/-- `AJAAncDataHorizOffset_AnyVanc`. -/
def AJAAncDataHorizOffset_AnyVanc : BitVec 12 := 0xFFD

/-- `AJAAncDataHorizOffset_Unknown`. -/
def AJAAncDataHorizOffset_Unknown : BitVec 12 := 0

/-- `AJAAncDataLoc`. The setter of the horizontal offset keeps twelve bits. -/
structure AJAAncDataLoc where
  mLink : AJAAncDataLink
  mStream : AJAAncDataStream
  mChannel : AJAAncDataChannel
  mLineNum : UWord
  mHorizOffset : BitVec 12
  deriving DecidableEq, Repr

namespace AJAAncDataLoc

/-- `AJAAncDataLoc::GetDataSpace`. -/
def GetDataSpace (loc : AJAAncDataLoc) : AJAAncDataSpace :=
  if loc.mHorizOffset = AJAAncDataHorizOffset_AnyVanc then AJAAncDataSpace_VANC
  else if loc.mHorizOffset = AJAAncDataHorizOffset_AnyHanc then AJAAncDataSpace_HANC
  else AJAAncDataSpace_Unknown

/-- `AJAAncDataLoc::SetDataSpace`. -/
def SetDataSpace (loc : AJAAncDataLoc) (inSpace : AJAAncDataSpace) : AJAAncDataLoc :=
  match inSpace with
  | AJAAncDataSpace_VANC => { loc with mHorizOffset := AJAAncDataHorizOffset_AnyVanc }
  | AJAAncDataSpace_HANC => { loc with mHorizOffset := AJAAncDataHorizOffset_AnyHanc }
  | AJAAncDataSpace_Unknown => loc

/-- `AJAAncDataLoc::IsValid`. Every space is a valid one or the unknown one. -/
def IsValid (loc : AJAAncDataLoc) : Prop :=
  loc.mLink.IsValid ∧ loc.mStream.IsValid ∧ loc.mChannel.IsValid

instance (loc : AJAAncDataLoc) : Decidable loc.IsValid :=
  inferInstanceAs (Decidable (_ ∧ _ ∧ _))

/-- `AJAAncDataLoc::OrdinalValue`: line, space, offset, channel, stream and link, the line
first. -/
def OrdinalValue (loc : AJAAncDataLoc) : ℕ :=
  let hOffset := if loc.mHorizOffset = AJAAncDataHorizOffset_AnyVanc ∨
      loc.mHorizOffset = AJAAncDataHorizOffset_Anywhere then 0 else loc.mHorizOffset.toNat
  (loc.mLineNum.toNat <<< 27) ||| (loc.GetDataSpace.num <<< 24) ||| (hOffset <<< 12) |||
    (loc.mChannel.num <<< 9) ||| (loc.mStream.num <<< 2) ||| loc.mLink.num

end AJAAncDataLoc

/-! ### Packets -/

/-- `AJAAncDataCoding`. -/
inductive AJAAncDataCoding
  | AJAAncDataCoding_Digital
  | AJAAncDataCoding_Raw
  | AJAAncDataCoding_Unknown
  deriving DecidableEq, Repr

open AJAAncDataCoding

/-- `AJAAncillaryData`. -/
structure AJAAncillaryData where
  m_DID : UByte
  m_SID : UByte
  m_checksum : UByte
  m_location : AJAAncDataLoc
  m_coding : AJAAncDataCoding
  m_payload : List UByte
  deriving DecidableEq, Repr

namespace AJAAncillaryData

/-- `AJAAncillaryData::Init`, which `Clear` calls. -/
def Init : AJAAncillaryData where
  m_DID := 0x00
  m_SID := 0x00
  m_checksum := 0
  m_location := ⟨AJAAncDataLink_A, AJAAncDataStream_1, AJAAncDataChannel_Y, 0,
    AJAAncDataHorizOffset_AnyVanc⟩
  m_coding := AJAAncDataCoding_Digital
  m_payload := []

variable (pkt : AJAAncillaryData)

/-- `AJAAncillaryData::GetDC`. -/
def GetDC : ℕ := pkt.m_payload.length

/-- `AJAAncillaryData::IsDigital`. -/
def IsDigital : Prop := pkt.m_coding = AJAAncDataCoding_Digital

/-- `AJAAncillaryData::IsRaw`. -/
def IsRaw : Prop := pkt.m_coding = AJAAncDataCoding_Raw

instance : Decidable pkt.IsDigital := inferInstanceAs (Decidable (_ = _))

instance : Decidable pkt.IsRaw := inferInstanceAs (Decidable (_ = _))

/-- `AJAAncillaryData::SetLocationVideoLink`. -/
def SetLocationVideoLink (l : AJAAncDataLink) : AJAStatus × AJAAncillaryData :=
  if l.IsValid then
    (AJA_STATUS_SUCCESS, { pkt with m_location := { pkt.m_location with mLink := l } })
  else (AJA_STATUS_RANGE, pkt)

/-- `AJAAncillaryData::SetLocationDataStream`. -/
def SetLocationDataStream (s : AJAAncDataStream) : AJAStatus × AJAAncillaryData :=
  if s.IsValid then
    (AJA_STATUS_SUCCESS, { pkt with m_location := { pkt.m_location with mStream := s } })
  else (AJA_STATUS_RANGE, pkt)

/-- `AJAAncillaryData::SetLocationDataChannel`. -/
def SetLocationDataChannel (c : AJAAncDataChannel) : AJAStatus × AJAAncillaryData :=
  if c.IsValid then
    (AJA_STATUS_SUCCESS, { pkt with m_location := { pkt.m_location with mChannel := c } })
  else (AJA_STATUS_RANGE, pkt)

/-- `AJAAncillaryData::SetLocationHorizOffset`. -/
def SetLocationHorizOffset (inOffset : UWord) : AJAAncillaryData :=
  { pkt with m_location := { pkt.m_location with mHorizOffset := inOffset.setWidth 12 } }

/-- `AJAAncillaryData::SetLocationLineNumber`. -/
def SetLocationLineNumber (inLineNum : UWord) : AJAAncillaryData :=
  { pkt with m_location := { pkt.m_location with mLineNum := inLineNum } }

/-- `AJAAncillaryData::SetDataLocation`, as the receiver makes its calls: the first setter that
refuses its value ends it. -/
def SetDataLocation (loc : AJAAncDataLoc) : AJAStatus × AJAAncillaryData :=
  match pkt.SetLocationVideoLink loc.mLink with
  | (AJA_STATUS_SUCCESS, p₁) =>
    match p₁.SetLocationDataStream loc.mStream with
    | (AJA_STATUS_SUCCESS, p₂) =>
      match p₂.SetLocationDataChannel loc.mChannel with
      | (AJA_STATUS_SUCCESS, p₃) =>
        (AJA_STATUS_SUCCESS, (p₃.SetLocationHorizOffset (loc.mHorizOffset.setWidth 16)
          ).SetLocationLineNumber loc.mLineNum)
      | refused => refused
    | refused => refused
  | refused => refused

end AJAAncillaryData

/-! ### Parity and checksums -/

/-- `gEvenParityTable`. -/
def gEvenParityTable : List UWord :=
  [
    0x200, 0x101, 0x102, 0x203, 0x104, 0x205, 0x206, 0x107,
    0x108, 0x209, 0x20A, 0x10B, 0x20C, 0x10D, 0x10E, 0x20F,
    0x110, 0x211, 0x212, 0x113, 0x214, 0x115, 0x116, 0x217,
    0x218, 0x119, 0x11A, 0x21B, 0x11C, 0x21D, 0x21E, 0x11F,
    0x120, 0x221, 0x222, 0x123, 0x224, 0x125, 0x126, 0x227,
    0x228, 0x129, 0x12A, 0x22B, 0x12C, 0x22D, 0x22E, 0x12F,
    0x230, 0x131, 0x132, 0x233, 0x134, 0x235, 0x236, 0x137,
    0x138, 0x239, 0x23A, 0x13B, 0x23C, 0x13D, 0x13E, 0x23F,
    0x140, 0x241, 0x242, 0x143, 0x244, 0x145, 0x146, 0x247,
    0x248, 0x149, 0x14A, 0x24B, 0x14C, 0x24D, 0x24E, 0x14F,
    0x250, 0x151, 0x152, 0x253, 0x154, 0x255, 0x256, 0x157,
    0x158, 0x259, 0x25A, 0x15B, 0x25C, 0x15D, 0x15E, 0x25F,
    0x260, 0x161, 0x162, 0x263, 0x164, 0x265, 0x266, 0x167,
    0x168, 0x269, 0x26A, 0x16B, 0x26C, 0x16D, 0x16E, 0x26F,
    0x170, 0x271, 0x272, 0x173, 0x274, 0x175, 0x176, 0x277,
    0x278, 0x179, 0x17A, 0x27B, 0x17C, 0x27D, 0x27E, 0x17F,
    0x180, 0x281, 0x282, 0x183, 0x284, 0x185, 0x186, 0x287,
    0x288, 0x189, 0x18A, 0x28B, 0x18C, 0x28D, 0x28E, 0x18F,
    0x290, 0x191, 0x192, 0x293, 0x194, 0x295, 0x296, 0x197,
    0x198, 0x299, 0x29A, 0x19B, 0x29C, 0x19D, 0x19E, 0x29F,
    0x2A0, 0x1A1, 0x1A2, 0x2A3, 0x1A4, 0x2A5, 0x2A6, 0x1A7,
    0x1A8, 0x2A9, 0x2AA, 0x1AB, 0x2AC, 0x1AD, 0x1AE, 0x2AF,
    0x1B0, 0x2B1, 0x2B2, 0x1B3, 0x2B4, 0x1B5, 0x1B6, 0x2B7,
    0x2B8, 0x1B9, 0x1BA, 0x2BB, 0x1BC, 0x2BD, 0x2BE, 0x1BF,
    0x2C0, 0x1C1, 0x1C2, 0x2C3, 0x1C4, 0x2C5, 0x2C6, 0x1C7,
    0x1C8, 0x2C9, 0x2CA, 0x1CB, 0x2CC, 0x1CD, 0x1CE, 0x2CF,
    0x1D0, 0x2D1, 0x2D2, 0x1D3, 0x2D4, 0x1D5, 0x1D6, 0x2D7,
    0x2D8, 0x1D9, 0x1DA, 0x2DB, 0x1DC, 0x2DD, 0x2DE, 0x1DF,
    0x1E0, 0x2E1, 0x2E2, 0x1E3, 0x2E4, 0x1E5, 0x1E6, 0x2E7,
    0x2E8, 0x1E9, 0x1EA, 0x2EB, 0x1EC, 0x2ED, 0x2EE, 0x1EF,
    0x2F0, 0x1F1, 0x1F2, 0x2F3, 0x1F4, 0x2F5, 0x2F6, 0x1F7,
    0x1F8, 0x2F9, 0x2FA, 0x1FB, 0x2FC, 0x1FD, 0x1FE, 0x2FF]

/-- `AJAAncillaryData::AddEvenParity`: the parity in bit 8, its complement in bit 9. -/
def AddEvenParity (inDataByte : UByte) : UWord := gEvenParityTable.getD inDataByte.toNat 0

lemma gEvenParityTable_spec : ∀ b < 256, (gEvenParityTable.getD b 0).toNat < 1024 ∧
    (gEvenParityTable.getD b 0).setWidth 8 = BitVec.ofNat 8 b := by
  decide +kernel

lemma AddEvenParity_lt (b : UByte) : (AddEvenParity b).toNat < 1024 :=
  (gEvenParityTable_spec b.toNat b.isLt).1

@[simp] lemma setWidth_AddEvenParity (b : UByte) : (AddEvenParity b).setWidth 8 = b := by
  rw [AddEvenParity, (gEvenParityTable_spec b.toNat b.isLt).2, BitVec.ofNat_toNat,
    BitVec.setWidth_eq]

namespace AJAAncillaryData

variable (pkt : AJAAncillaryData)

/-- `AJAAncillaryData::Calculate8BitChecksum`. -/
def Calculate8BitChecksum : UByte :=
  pkt.m_payload.foldl (· + ·) (pkt.m_DID + pkt.m_SID + BitVec.ofNat 8 pkt.m_payload.length)

end AJAAncillaryData

end LibAjaNtv2
