import LibAjaNtv2.Anc.Transmit
import LibAjaNtv2.Lib.Attempt

/-!
Packets of an SDI extractor (`AJAAncillaryList::AddReceivedAncillaryData`).

* `InitWithReceivedData`: one packet; nothing where a byte that is not there is read;
* `GuessAncillaryDataType`, `AJAAncillaryDataFactory.Create`: the class that is made for a packet;
  `Create_Guess`: **a digital packet keeps its data**;
* `receiveStep`, `receivePackets`, `AddReceivedAncillaryData`: the loop over the packets of a
  buffer; analog packets are put together again;
* `init_cases`: **what one packet can be**, for bytes of any content;
* `receivePackets_round`: one round of the loop;
* `receivePackets_inside`: **nothing outside the buffer is read**, whatever it holds.
-/

namespace LibAjaNtv2

open AJAStatus AJAAncDataLink AJAAncDataStream AJAAncDataChannel AJAAncDataSpace AJAAncDataCoding

/-! ### Types of packets -/

/-- `AJAAncDataType`. -/
inductive AJAAncDataType
  | AJAAncDataType_Unknown
  | AJAAncDataType_Smpte2016_3
  | AJAAncDataType_Timecode_ATC
  | AJAAncDataType_Timecode_VITC
  | AJAAncDataType_Cea708
  | AJAAncDataType_Cea608_Vanc
  | AJAAncDataType_Cea608_Line21
  | AJAAncDataType_Smpte352
  | AJAAncDataType_Smpte2051
  | AJAAncDataType_FrameStatusInfo524D
  | AJAAncDataType_FrameStatusInfo5251
  | AJAAncDataType_HDR_SDR
  | AJAAncDataType_HDR_HDR10
  | AJAAncDataType_HDR_HLG
  | AJAAncDataType_HDMI_Aux
  deriving DecidableEq, Repr

open AJAAncDataType

/-- `AJAAncData_AnalogDID`. -/
def AJAAncData_AnalogDID : UByte := 0x00

/-- `AJAAncData_AnalogSID`. -/
def AJAAncData_AnalogSID : UByte := 0x00

namespace AJAAncillaryData

variable (pkt : AJAAncillaryData)

/-- A digital packet with the two numbers and the payload of a class. -/
def HasIDs (did sid : UByte) (payloadSize : ℕ) : Prop :=
  pkt.IsDigital ∧ pkt.m_DID = did ∧ pkt.m_SID = sid ∧ pkt.GetDC = payloadSize

instance (did sid : UByte) (payloadSize : ℕ) : Decidable (pkt.HasIDs did sid payloadSize) :=
  inferInstanceAs (Decidable (_ ∧ _ ∧ _ ∧ _))

/-- `AJAAncillaryData_Timecode_ATC::RecognizeThisAncillaryData`. -/
def IsTimecode_ATC : Prop := pkt.HasIDs 0x60 0x60 16

/-- `AJAAncillaryData_Timecode_VITC::RecognizeThisAncillaryData`. -/
def IsTimecode_VITC : Prop :=
  pkt.IsRaw ∧ (pkt.m_location.mLineNum = 14 ∨ pkt.m_location.mLineNum = 277)

/-- `AJAAncillaryData_Cea708::RecognizeThisAncillaryData`. The coding may be any. -/
def IsCea708 : Prop :=
  pkt.m_location.GetDataSpace = AJAAncDataSpace_VANC ∧ pkt.m_DID = 0x61 ∧ pkt.m_SID = 0x01 ∧
    pkt.m_location.mChannel.IsValid

/-- `AJAAncillaryData_Cea608_Vanc::RecognizeThisAncillaryData`. -/
def IsCea608_Vanc : Prop := pkt.HasIDs 0x61 0x02 3

/-- `AJAAncillaryData_Cea608_Line21::RecognizeThisAncillaryData`. -/
def IsCea608_Line21 : Prop :=
  pkt.IsRaw ∧ (pkt.m_location.mLineNum = 21 ∨ pkt.m_location.mLineNum = 284)

/-- `AJAAncillaryData_FrameStatusInfo524D::RecognizeThisAncillaryData`. -/
def IsFrameStatusInfo524D : Prop := pkt.HasIDs 0x52 0x4D 11

/-- `AJAAncillaryData_FrameStatusInfo5251::RecognizeThisAncillaryData`. -/
def IsFrameStatusInfo5251 : Prop := pkt.HasIDs 0x52 0x51 8

instance : Decidable pkt.IsTimecode_ATC := inferInstanceAs (Decidable (pkt.HasIDs _ _ _))

instance : Decidable pkt.IsTimecode_VITC := inferInstanceAs (Decidable (_ ∧ _))

instance : Decidable pkt.IsCea708 := inferInstanceAs (Decidable (_ ∧ _ ∧ _ ∧ _))

instance : Decidable pkt.IsCea608_Vanc := inferInstanceAs (Decidable (pkt.HasIDs _ _ _))

instance : Decidable pkt.IsCea608_Line21 := inferInstanceAs (Decidable (_ ∧ _))

instance : Decidable pkt.IsFrameStatusInfo524D := inferInstanceAs (Decidable (pkt.HasIDs _ _ _))

instance : Decidable pkt.IsFrameStatusInfo5251 := inferInstanceAs (Decidable (pkt.HasIDs _ _ _))

/-- `AJAAncillaryDataFactory::GuessAncillaryDataType`. -/
def GuessAncillaryDataType : AJAAncDataType :=
  if pkt.IsTimecode_ATC then AJAAncDataType_Timecode_ATC
  else if pkt.IsTimecode_VITC then AJAAncDataType_Timecode_VITC
  else if pkt.IsCea708 then AJAAncDataType_Cea708
  else if pkt.IsCea608_Vanc then AJAAncDataType_Cea608_Vanc
  else if pkt.IsCea608_Line21 then AJAAncDataType_Cea608_Line21
  else if pkt.IsFrameStatusInfo524D then AJAAncDataType_FrameStatusInfo524D
  else if pkt.IsFrameStatusInfo5251 then AJAAncDataType_FrameStatusInfo5251
  else AJAAncDataType_Unknown

/-- `AJAAncillaryDataFactory::Create`: the constructor of the class copies the data, and its `Init`
sets what the class knows. `ParsePayloadData` may call that `Init` once more. -/
def Create (inAncType : AJAAncDataType) : Option AJAAncillaryData :=
  match inAncType with
  | AJAAncDataType_Unknown => some pkt
  | AJAAncDataType_Timecode_ATC =>
      some { pkt with m_coding := AJAAncDataCoding_Digital, m_DID := 0x60, m_SID := 0x60 }
  | AJAAncDataType_Timecode_VITC =>
      some { pkt with
        m_coding := AJAAncDataCoding_Raw, m_DID := AJAAncData_AnalogSID,
        m_SID := AJAAncData_AnalogDID, m_location := { pkt.m_location with mLineNum := 14 } }
  | AJAAncDataType_Cea708 => some pkt
  | AJAAncDataType_Cea608_Vanc =>
      some { pkt with m_coding := AJAAncDataCoding_Digital, m_DID := 0x61, m_SID := 0x02 }
  | AJAAncDataType_Cea608_Line21 =>
      some { pkt with
        m_coding := AJAAncDataCoding_Raw, m_DID := AJAAncData_AnalogSID,
        m_SID := AJAAncData_AnalogDID,
        m_location := if pkt.m_location.mLineNum = 0 then { pkt.m_location with mLineNum := 21 }
          else pkt.m_location }
  | AJAAncDataType_FrameStatusInfo524D =>
      some { pkt with m_coding := AJAAncDataCoding_Digital, m_DID := 0x52, m_SID := 0x4D }
  | AJAAncDataType_FrameStatusInfo5251 =>
      some { pkt with m_coding := AJAAncDataCoding_Digital, m_DID := 0x52, m_SID := 0x51 }
  | AJAAncDataType_HDMI_Aux => some { pkt with m_coding := AJAAncDataCoding_Digital }
  | AJAAncDataType_Smpte2016_3 | AJAAncDataType_Smpte352 | AJAAncDataType_Smpte2051
  | AJAAncDataType_HDR_SDR | AJAAncDataType_HDR_HDR10 | AJAAncDataType_HDR_HLG => none

/-- A packet with the two numbers of a class has its data. -/
lemma HasIDs.eq {pkt : AJAAncillaryData} {did sid : UByte} {payloadSize : ℕ}
    (h : pkt.HasIDs did sid payloadSize) :
    { pkt with m_coding := AJAAncDataCoding_Digital, m_DID := did, m_SID := sid } = pkt := by
  obtain ⟨hcoding, hdid, hsid, -⟩ := h
  rw [IsDigital] at hcoding
  rw [← hcoding, ← hdid, ← hsid]

/-- **A digital packet keeps its data** in the class that is guessed for it. -/
theorem Create_Guess {pkt : AJAAncillaryData} (hdig : pkt.IsDigital) :
    pkt.Create pkt.GuessAncillaryDataType = some pkt := by
  have hraw : ¬ pkt.IsRaw := by
    rw [IsDigital] at hdig
    rw [IsRaw, hdig]
    decide
  rw [GuessAncillaryDataType, if_neg fun h : pkt.IsTimecode_VITC => hraw h.1,
    if_neg fun h : pkt.IsCea608_Line21 => hraw h.1]
  split
  · next h => exact congrArg some h.eq
  split
  · rfl
  split
  · next h => exact congrArg some h.eq
  split
  · next h => exact congrArg some h.eq
  split
  · next h => exact congrArg some h.eq
  · rfl

end AJAAncillaryData

/-! ### One packet -/

/-- The location in a header, if it has one: a packet without keeps the default. -/
def headerLocation (inLocationInfo : AJAAncDataLoc) (hdr1 hdr2 : UByte) : AJAAncDataLoc :=
  if hdr1 &&& 0x80 ≠ 0 then
    let loc := { inLocationInfo with
      mStream := AJAAncDataStream_1,
      mChannel := if hdr1 &&& 0x20 = 0 then AJAAncDataChannel_C else AJAAncDataChannel_Y }
    let loc := loc.SetDataSpace
      (if hdr1 &&& 0x10 = 0 then AJAAncDataSpace_VANC else AJAAncDataSpace_HANC)
    { loc with
      mLineNum := ((hdr1 &&& 0x0F).setWidth 16 <<< 7) + (hdr2 &&& 0x7F).setWidth 16 }
  else inLocationInfo

/-- The coding in a header: `Clear` has set the digital one. -/
def headerCoding (hdr1 : UByte) : AJAAncDataCoding :=
  if hdr1 &&& 0x80 ≠ 0 then
    if hdr1 &&& 0x40 = 0 then AJAAncDataCoding_Digital else AJAAncDataCoding_Raw
  else AJAAncDataCoding_Digital

/-- `AJAAncillaryData::InitWithReceivedData`: the status, the number of bytes of the packet and the
packet. -/
def InitWithReceivedData (pInData : ℕ → Option UByte) (inMaxBytes : ULWord)
    (inLocationInfo : AJAAncDataLoc) : Option (AJAStatus × ULWord × AJAAncillaryData) := do
  if inMaxBytes < AJAAncillaryDataWrapperSize then
    return (AJA_STATUS_RANGE, inMaxBytes, .Init)
  let first ← pInData 0
  if first ≠ 0xFF then
    return (AJA_STATUS_SUCCESS, 0, .Init)
  let payloadSize ← pInData 5
  let totalBytes : ULWord := payloadSize.setWidth 32 + AJAAncillaryDataWrapperSize
  if inMaxBytes < totalBytes then
    return (AJA_STATUS_RANGE, inMaxBytes, .Init)
  let did ← pInData 3
  let sid ← pInData 4
  let checksum ← pInData (totalBytes.toNat - 1)
  let hdr1 ← pInData 1
  let hdr2 ← pInData 2
  let payload ← (List.range payloadSize.toNat).mapM fun ndx => pInData (ndx + 6)
  return (AJA_STATUS_SUCCESS, totalBytes,
    { m_DID := did
      m_SID := sid
      m_checksum := checksum
      m_location := headerLocation inLocationInfo hdr1 hdr2
      m_coding := headerCoding hdr1
      m_payload := payload })

/-- The packet in bytes. -/
def packetOf (inLocationInfo : AJAAncDataLoc) (bytes : ℕ → UByte) : AJAAncillaryData where
  m_DID := bytes 3
  m_SID := bytes 4
  m_checksum := bytes ((bytes 5).toNat + 6)
  m_location := headerLocation inLocationInfo (bytes 1) (bytes 2)
  m_coding := headerCoding (bytes 1)
  m_payload := (List.range (bytes 5).toNat).map fun ndx => bytes (ndx + 6)

lemma ancillaryDataWrapperSize_toNat : AJAAncillaryDataWrapperSize.toNat = 7 := rfl

/-- The number of bytes of a packet. -/
lemma toNat_totalBytes (payloadSize : UByte) :
    (payloadSize.setWidth 32 + AJAAncillaryDataWrapperSize).toNat = payloadSize.toNat + 7 := by
  have hlt := payloadSize.isLt
  rw [BitVec.toNat_add, ancillaryDataWrapperSize_toNat, BitVec.toNat_setWidth]
  omega

section Packet

variable {pInData : ℕ → Option UByte} {maxBytes : ULWord} {loc : AJAAncDataLoc}

/-- A buffer without room for a packet. -/
lemma init_short (h : maxBytes.toNat < 7) :
    InitWithReceivedData pInData maxBytes loc = some (AJA_STATUS_RANGE, maxBytes, .Init) := by
  have hmax : maxBytes < AJAAncillaryDataWrapperSize := h
  rw [InitWithReceivedData, if_pos hmax]
  rfl

/-- A first byte that begins no packet. -/
lemma init_noData {b : UByte} (hmax : 7 ≤ maxBytes.toNat) (h0 : pInData 0 = some b)
    (hb : b ≠ 0xFF) :
    InitWithReceivedData pInData maxBytes loc = some (AJA_STATUS_SUCCESS, 0, .Init) := by
  have hmax : ¬ maxBytes < AJAAncillaryDataWrapperSize := Nat.not_lt.mpr hmax
  simp only [InitWithReceivedData, if_neg hmax, h0, Option.bind_eq_bind, Option.bind_some,
    if_pos hb]
  rfl

/-- A packet that runs past the end of the buffer. -/
lemma init_past {payloadSize : UByte} (hmax : 7 ≤ maxBytes.toNat) (h0 : pInData 0 = some 0xFF)
    (h5 : pInData 5 = some payloadSize) (hpast : maxBytes.toNat < payloadSize.toNat + 7) :
    InitWithReceivedData pInData maxBytes loc = some (AJA_STATUS_RANGE, maxBytes, .Init) := by
  have hmax : ¬ maxBytes < AJAAncillaryDataWrapperSize := Nat.not_lt.mpr hmax
  have hpast : maxBytes < payloadSize.setWidth 32 + AJAAncillaryDataWrapperSize := by
    rw [BitVec.lt_def, toNat_totalBytes]
    exact hpast
  simp only [InitWithReceivedData, if_neg hmax, h0, h5, Option.bind_eq_bind, Option.bind_some,
    ne_eq, not_true_eq_false, if_false, if_pos hpast]
  rfl

/-- **A packet in its bytes** needs no byte behind them. -/
lemma init_packet (bytes : ℕ → UByte) (h0 : bytes 0 = 0xFF)
    (hbytes : ∀ i < (bytes 5).toNat + 7, pInData i = some (bytes i))
    (hmax : (bytes 5).toNat + 7 ≤ maxBytes.toNat) :
    InitWithReceivedData pInData maxBytes loc = some (AJA_STATUS_SUCCESS,
      (bytes 5).setWidth 32 + AJAAncillaryDataWrapperSize, packetOf loc bytes) := by
  have hsize : ¬ maxBytes < AJAAncillaryDataWrapperSize := by
    rw [BitVec.lt_def, ancillaryDataWrapperSize_toNat]
    omega
  have hfits : ¬ maxBytes < (bytes 5).setWidth 32 + AJAAncillaryDataWrapperSize := by
    rw [BitVec.lt_def, toNat_totalBytes]
    omega
  have hpayload : ((List.range (bytes 5).toNat).mapM fun ndx => pInData (ndx + 6)) =
      some (packetOf loc bytes).m_payload := by
    refine mapM_eq_some fun i hi => hbytes _ ?_
    rw [List.mem_range] at hi
    omega
  have hfirst : pInData 0 = some 0xFF := by rw [hbytes 0 (by omega), h0]
  have hlast : (bytes 5).toNat + 7 - 1 = (bytes 5).toNat + 6 := by omega
  simp only [InitWithReceivedData, if_neg hsize, hfirst, hbytes 5 (by omega),
    Option.bind_eq_bind, Option.bind_some, ne_eq, not_true_eq_false, if_false, if_neg hfits,
    hbytes 3 (by omega), hbytes 4 (by omega), toNat_totalBytes, hlast,
    hbytes ((bytes 5).toNat + 6) (by omega), hbytes 1 (by omega), hbytes 2 (by omega), hpayload]
  rfl

/-- **What one packet can be**: none, one that does not fit, or one in its bytes. -/
lemma init_cases (bytes : ℕ → UByte) (hbytes : ∀ i < maxBytes.toNat, pInData i = some (bytes i)) :
    InitWithReceivedData pInData maxBytes loc = some (AJA_STATUS_RANGE, maxBytes, .Init) ∨
      InitWithReceivedData pInData maxBytes loc = some (AJA_STATUS_SUCCESS, 0, .Init) ∨
      ((bytes 5).toNat + 7 ≤ maxBytes.toNat ∧
        InitWithReceivedData pInData maxBytes loc = some (AJA_STATUS_SUCCESS,
          (bytes 5).setWidth 32 + AJAAncillaryDataWrapperSize, packetOf loc bytes)) := by
  rcases Nat.lt_or_ge maxBytes.toNat 7 with hmax | hmax
  · exact .inl (init_short hmax)
  by_cases h0 : bytes 0 = 0xFF
  · rcases Nat.lt_or_ge maxBytes.toNat ((bytes 5).toNat + 7) with hpast | hfits
    · refine .inl (init_past hmax ?_ (hbytes 5 (by omega)) hpast)
      rw [hbytes 0 (by omega), h0]
    · exact .inr (.inr ⟨hfits, init_packet bytes h0 (fun i hi => hbytes i (by omega)) hfits⟩)
  · exact .inr (.inl (init_noData hmax (hbytes 0 (by omega)) h0))

/-- The bytes that a packet takes from the buffer are there. -/
lemma init_size {size : ULWord} {pkt : AJAAncillaryData}
    (h : InitWithReceivedData pInData maxBytes loc = some (AJA_STATUS_SUCCESS, size, pkt))
    (hsize : size ≠ 0) : 7 ≤ size.toNat ∧ size.toNat ≤ maxBytes.toNat := by
  simp only [InitWithReceivedData, Option.bind_eq_bind] at h
  split at h
  · cases h
  simp only [Option.bind_eq_some_iff] at h
  obtain ⟨first, -, h⟩ := h
  split at h
  · cases h
    exact absurd rfl hsize
  simp only [Option.bind_eq_some_iff] at h
  obtain ⟨payloadSize, -, h⟩ := h
  split at h
  · cases h
  · next hfits =>
      simp only [Option.bind_eq_some_iff] at h
      obtain ⟨_, -, _, -, _, -, _, -, _, -, _, -, h⟩ := h
      cases h
      rw [BitVec.lt_def, toNat_totalBytes] at hfits
      rw [toNat_totalBytes]
      omega

end Packet

/-! ### The lists -/

/-- The packets that the loop has put aside, and those of the list. -/
structure ReceivedPackets where
  rawPkts : List AJAAncillaryData
  m_ancList : List AJAAncillaryData
  deriving DecidableEq

/-- `AJAAncillaryData::AppendPayload`. -/
def AJAAncillaryData.AppendPayload (pkt inAnc : AJAAncillaryData) : AJAAncillaryData :=
  { pkt with m_payload := pkt.m_payload ++ inAnc.m_payload }

/-- The first analog packet of the location takes the payload. -/
def continuePacket (newAncData : AJAAncillaryData) :
    List AJAAncillaryData → Option (List AJAAncillaryData)
  | [] => none
  | pRaw :: rest =>
      if pRaw.m_location.OrdinalValue = newAncData.m_location.OrdinalValue then
        some (pRaw.AppendPayload newAncData :: rest)
      else (continuePacket newAncData rest).map (pRaw :: ·)

section Loop

variable (includesZeroLength : Bool) (gAnalogTypeMap : UWord → AJAAncDataType)

/-- A packet without a payload is counted only. -/
def ReceivedPackets.push (lists : ReceivedPackets) (pData : AJAAncillaryData) : ReceivedPackets :=
  if includesZeroLength = true ∨ pData.GetDC ≠ 0 then
    if pData.IsRaw then { lists with rawPkts := lists.rawPkts ++ [pData] }
    else { lists with m_ancList := lists.m_ancList ++ [pData] }
  else lists

/-- A packet of its class goes onto one of the lists. -/
def ReceivedPackets.insertNew (lists : ReceivedPackets) (newAncType : AJAAncDataType)
    (newAncData : AJAAncillaryData) : AJAStatus × ReceivedPackets :=
  match newAncData.Create newAncType with
  | some pData => (AJA_STATUS_SUCCESS, lists.push includesZeroLength pData)
  | none => (AJA_STATUS_FAIL, lists)

/-- What the loop does with a packet. -/
def receiveStep (newAncData : AJAAncillaryData) (lists : ReceivedPackets) :
    AJAStatus × ReceivedPackets :=
  if newAncData.IsDigital then
    lists.insertNew includesZeroLength newAncData.GuessAncillaryDataType newAncData
  else if newAncData.IsRaw then
    match continuePacket newAncData lists.rawPkts with
    | some rawPkts => (AJA_STATUS_SUCCESS, { lists with rawPkts := rawPkts })
    | none =>
        lists.insertNew includesZeroLength (gAnalogTypeMap newAncData.m_location.mLineNum)
          newAncData
  else (AJA_STATUS_SUCCESS, lists)

/-- What the loop leaves: its status (none where it read what is not there) and the lists. -/
structure Reception where
  status : Option AJAStatus
  lists : ReceivedPackets

/-- The location before the header is read. -/
def defaultLoc : AJAAncDataLoc :=
  ⟨AJAAncDataLink_A, AJAAncDataStream_1, AJAAncDataChannel_Y, 9, AJAAncDataHorizOffset_Unknown⟩

/-- The loop of `AddReceivedAncillaryData`, from a position of the memory on. -/
def receivePackets (memory : ℕ → Option UByte) (pInputData : ℕ) (remainingSize : ULWord)
    (lists : ReceivedPackets) : Reception :=
  match _hinit : InitWithReceivedData (fun ndx => memory (pInputData + ndx)) remainingSize
      defaultLoc with
  | none => ⟨none, lists⟩
  | some (status, packetSize, newAncData) =>
      if _hdata : status = AJA_STATUS_SUCCESS ∧ packetSize ≠ 0 then
        let next := receiveStep includesZeroLength gAnalogTypeMap newAncData lists
        if _hmore : 0 < (remainingSize - packetSize).toInt then
          receivePackets memory (pInputData + packetSize.toNat) (remainingSize - packetSize)
            next.2
        else ⟨some next.1, next.2⟩
      else ⟨some status, lists⟩
  termination_by remainingSize.toNat
  decreasing_by
    obtain ⟨rfl, hne⟩ := _hdata
    obtain ⟨hseven, hmax⟩ := init_size _hinit hne
    have hlast := BitVec.toNat_sub_of_le (BitVec.le_def.mpr hmax)
    omega

/-- `AJAAncillaryList::AddReceivedAncillaryData`: the status (none where a byte is read that is
not there) and the list. -/
def AddReceivedAncillaryData (SortListByLocation : List AJAAncillaryData → List AJAAncillaryData)
    (inReceivedData : List UByte) (m_ancList : List AJAAncillaryData) :
    Option AJAStatus × List AJAAncillaryData :=
  if inReceivedData = [] then (some AJA_STATUS_NULL, m_ancList)
  else
    let out := receivePackets includesZeroLength gAnalogTypeMap (fun i => inReceivedData[i]?) 0
      (BitVec.ofNat 32 inReceivedData.length) ⟨[], m_ancList⟩
    if out.lists.rawPkts = [] then (out.status, out.lists.m_ancList)
    else if out.status = some AJA_STATUS_SUCCESS then
      (out.status, SortListByLocation (out.lists.m_ancList ++ out.lists.rawPkts.reverse))
    else (out.status, out.lists.m_ancList)

end Loop

/-! ### Rounds of the loop -/

section Round

variable {z : Bool} {map : UWord → AJAAncDataType} {memory : ℕ → Option UByte} {p : ℕ}
  {r : ULWord} {lists : ReceivedPackets}

/-- **One round of the loop**: it ends without data, at an error, and behind the last packet. -/
lemma receivePackets_round {status : AJAStatus} {size : ULWord} {pkt : AJAAncillaryData}
    (hinit : InitWithReceivedData (fun ndx => memory (p + ndx)) r defaultLoc =
      some (status, size, pkt)) :
    receivePackets z map memory p r lists =
      if status = AJA_STATUS_SUCCESS ∧ size ≠ 0 then
        if 0 < (r - size).toInt then
          receivePackets z map memory (p + size.toNat) (r - size) (receiveStep z map pkt lists).2
        else ⟨some (receiveStep z map pkt lists).1, (receiveStep z map pkt lists).2⟩
      else ⟨some status, lists⟩ := by
  rw [receivePackets]
  split
  · next hinit' =>
      rw [hinit] at hinit'
      cases hinit'
  · next hinit' =>
      rw [hinit] at hinit'
      cases hinit'
      split_ifs <;> rfl

end Round

/-! ### What the loop takes from the buffer -/

/-- The bytes that packets stand for: their payloads, and seven more for each. -/
def wrappedSize (pkts : List AJAAncillaryData) : ℕ :=
  (pkts.map fun pkt => pkt.GetDC + 7).sum

@[simp] lemma wrappedSize_nil : wrappedSize [] = 0 := rfl

@[simp] lemma wrappedSize_cons (pkt : AJAAncillaryData) (pkts : List AJAAncillaryData) :
    wrappedSize (pkt :: pkts) = pkt.GetDC + 7 + wrappedSize pkts := rfl

@[simp] lemma wrappedSize_append (pkts pkts' : List AJAAncillaryData) :
    wrappedSize (pkts ++ pkts') = wrappedSize pkts + wrappedSize pkts' := by
  rw [wrappedSize, List.map_append, List.sum_append]
  rfl

lemma Create_payload {pkt pData : AJAAncillaryData} {t : AJAAncDataType}
    (h : pkt.Create t = some pData) : pData.m_payload = pkt.m_payload := by
  cases t <;> cases h <;> rfl

/-- A packet that continues another adds its payload alone. -/
lemma wrappedSize_continue {newAncData : AJAAncillaryData}
    {rawPkts rawPkts' : List AJAAncillaryData}
    (h : continuePacket newAncData rawPkts = some rawPkts') :
    wrappedSize rawPkts' = wrappedSize rawPkts + newAncData.GetDC := by
  induction rawPkts generalizing rawPkts' with
  | nil => cases h
  | cons pRaw rest ih =>
      rw [continuePacket] at h
      split at h
      · cases h
        simp only [wrappedSize_cons, AJAAncillaryData.GetDC, AJAAncillaryData.AppendPayload,
          List.length_append]
        omega
      · obtain ⟨rest', hrest, rfl⟩ := Option.map_eq_some_iff.mp h
        rw [wrappedSize_cons, wrappedSize_cons, ih hrest]
        omega

/-- What one list has become of another: the packets of the list are kept, and no more bytes have
come to both than there were. -/
structure Takes (lists lists' : ReceivedPackets) (n : ℕ) : Prop where
  kept : lists.m_ancList <+: lists'.m_ancList
  size : wrappedSize lists'.m_ancList + wrappedSize lists'.rawPkts ≤
    wrappedSize lists.m_ancList + wrappedSize lists.rawPkts + n

lemma Takes.refl (lists : ReceivedPackets) (n : ℕ) : Takes lists lists n :=
  ⟨List.prefix_rfl, Nat.le_add_right _ _⟩

/-- One part of the bytes after the other. -/
lemma Takes.trans {l₁ l₂ l₃ : ReceivedPackets} {m n : ℕ} (h : Takes l₁ l₂ m) (h' : Takes l₂ l₃ n) :
    Takes l₁ l₃ (m + n) := by
  refine ⟨h.kept.trans h'.kept, ?_⟩
  have := h.size
  have := h'.size
  omega

lemma Takes.mono {l₁ l₂ : ReceivedPackets} {m n : ℕ} (h : Takes l₁ l₂ m) (hmn : m ≤ n) :
    Takes l₁ l₂ n :=
  ⟨h.kept, h.size.trans (Nat.add_le_add_left hmn _)⟩

variable {z : Bool} {map : UWord → AJAAncDataType}

/-- A packet that is pushed. -/
lemma takes_push (lists : ReceivedPackets) (pData : AJAAncillaryData) :
    Takes lists (lists.push z pData) (pData.GetDC + 7) := by
  rw [ReceivedPackets.push]
  split
  · split
    · refine ⟨List.prefix_rfl, ?_⟩
      simp only [wrappedSize_append, wrappedSize_cons, wrappedSize_nil]
      omega
    · refine ⟨List.prefix_append _ _, ?_⟩
      simp only [wrappedSize_append, wrappedSize_cons, wrappedSize_nil]
      omega
  · exact .refl _ _

/-- A packet of its class. -/
lemma takes_insertNew (lists : ReceivedPackets) (t : AJAAncDataType) (pkt : AJAAncillaryData) :
    Takes lists (lists.insertNew z t pkt).2 (pkt.GetDC + 7) := by
  rw [ReceivedPackets.insertNew]
  split
  · next pData hcreate =>
      have hdc : pData.GetDC = pkt.GetDC := congrArg List.length (Create_payload hcreate)
      rw [← hdc]
      exact takes_push lists pData
  · exact .refl _ _

variable (z map) in
/-- **One packet** takes its bytes. -/
lemma takes_step (pkt : AJAAncillaryData) (lists : ReceivedPackets) :
    Takes lists (receiveStep z map pkt lists).2 (pkt.GetDC + 7) := by
  rw [receiveStep]
  split
  · exact takes_insertNew _ _ _
  split
  · split
    · next rawPkts hcont =>
        refine ⟨List.prefix_rfl, ?_⟩
        have := wrappedSize_continue hcont
        show wrappedSize lists.m_ancList + wrappedSize rawPkts ≤ _
        omega
    · exact takes_insertNew _ _ _
  · exact .refl _ _

/-- **The loop reads nothing outside the buffer**, keeps the packets of the list, and takes no
byte twice. -/
theorem receivePackets_inside {memory : ℕ → Option UByte} {bytes : ℕ → UByte} {p : ℕ} {r : ULWord}
    {lists : ReceivedPackets} (hbytes : ∀ i < r.toNat, memory (p + i) = some (bytes (p + i))) :
    (receivePackets z map memory p r lists).status ≠ none ∧
      Takes lists (receivePackets z map memory p r lists).lists r.toNat := by
  induction hn : r.toNat using Nat.strong_induction_on generalizing p r lists with
  | _ n ih =>
      subst hn
      rcases @init_cases (fun ndx => memory (p + ndx)) r defaultLoc (fun i => bytes (p + i))
        hbytes with hinit | hinit | ⟨hfits, hinit⟩
      · rw [receivePackets_round hinit, if_neg fun h => AJAStatus.noConfusion h.1]
        exact ⟨Option.some_ne_none _, .refl _ _⟩
      · rw [receivePackets_round hinit, if_neg fun h => h.2 rfl]
        exact ⟨Option.some_ne_none _, .refl _ _⟩
      · set size := (bytes (p + 5)).setWidth 32 + AJAAncillaryDataWrapperSize with hsizedef
        have hsize : size.toNat = (bytes (p + 5)).toNat + 7 := toNat_totalBytes _
        have hne : size ≠ 0 := by
          intro h0
          rw [h0] at hsize
          exact absurd hsize (by simp)
        have hdc : (packetOf defaultLoc fun i => bytes (p + i)).GetDC + 7 = size.toNat := by
          rw [hsize, packetOf, AJAAncillaryData.GetDC, List.length_map, List.length_range]
        have hstep := takes_step z map (packetOf defaultLoc fun i => bytes (p + i)) lists
        rw [hdc] at hstep
        have hsub : (r - size).toNat = r.toNat - size.toNat :=
          BitVec.toNat_sub_of_le (BitVec.le_def.mpr (by omega))
        rw [receivePackets_round hinit, if_pos ⟨rfl, hne⟩]
        split
        · obtain ⟨hstatus, hrest⟩ := @ih (r - size).toNat (by omega) (p + size.toNat) (r - size)
            (receiveStep z map (packetOf defaultLoc fun i => bytes (p + i)) lists).2
            (fun i hi => by rw [Nat.add_assoc]; exact hbytes _ (by omega)) rfl
          exact ⟨hstatus, (hstep.trans hrest).mono (by omega)⟩
        · exact ⟨Option.some_ne_none _, hstep.mono (by omega)⟩

/-- What a buffer leaves takes no more bytes than there were in it. -/
lemma addReceived_takes {SortListByLocation : List AJAAncillaryData → List AJAAncillaryData}
    (hsort : ∀ l, (SortListByLocation l).Perm l) {inReceivedData : List UByte}
    (hsize : inReceivedData.length < 2 ^ 32) (m_ancList : List AJAAncillaryData) :
    let out := AddReceivedAncillaryData z map SortListByLocation inReceivedData m_ancList
    out.1 ≠ none ∧ ∃ added, out.2.Perm (m_ancList ++ added) ∧
      wrappedSize added ≤ inReceivedData.length := by
  intro out
  by_cases hnull : inReceivedData = []
  · have hout : out = (some AJA_STATUS_NULL, m_ancList) := if_pos hnull
    rw [hout]
    exact ⟨Option.some_ne_none _, [], by rw [List.append_nil], Nat.zero_le _⟩
  have hcount : (BitVec.ofNat 32 inReceivedData.length).toNat = inReceivedData.length := by
    rw [BitVec.toNat_ofNat, Nat.mod_eq_of_lt hsize]
  obtain ⟨hstatus, htakes⟩ := @receivePackets_inside z map
    (fun i => inReceivedData[i]?) (fun i => inReceivedData.getD i 0) 0
    (BitVec.ofNat 32 inReceivedData.length) ⟨[], m_ancList⟩ (fun i hi => by
      rw [hcount] at hi
      simp [hi])
  set loop := receivePackets z map (fun i => inReceivedData[i]?) 0
    (BitVec.ofNat 32 inReceivedData.length) ⟨[], m_ancList⟩ with hloop
  obtain ⟨added, hadded⟩ := htakes.kept
  have hbytes := htakes.size
  rw [hcount, ← hadded] at hbytes
  simp only [wrappedSize_append, wrappedSize_nil] at hbytes
  have hout : out = if loop.lists.rawPkts = [] then (loop.status, loop.lists.m_ancList)
      else if loop.status = some AJA_STATUS_SUCCESS then
        (loop.status, SortListByLocation (loop.lists.m_ancList ++ loop.lists.rawPkts.reverse))
      else (loop.status, loop.lists.m_ancList) := if_neg hnull
  rw [hout]
  split
  · exact ⟨hstatus, added, by rw [← hadded], by omega⟩
  split
  · refine ⟨hstatus, added ++ loop.lists.rawPkts.reverse, ?_, ?_⟩
    · rw [← List.append_assoc, hadded]
      exact hsort _
    · have hrev : wrappedSize loop.lists.rawPkts.reverse = wrappedSize loop.lists.rawPkts :=
        ((List.reverse_perm _).map _).sum_eq
      rw [wrappedSize_append, hrev]
      omega
  · exact ⟨hstatus, added, by rw [← hadded], by omega⟩

/-- **Whatever a buffer holds**, nothing outside it is read, the packets that the list had are
still there, and those that have come to it take no more bytes than the buffer has. -/
theorem AddReceivedAncillaryData_inside
    {SortListByLocation : List AJAAncillaryData → List AJAAncillaryData}
    (hsort : ∀ l, (SortListByLocation l).Perm l) (includesZeroLength : Bool)
    (gAnalogTypeMap : UWord → AJAAncDataType) (inReceivedData : List UByte)
    (hsize : inReceivedData.length < 2 ^ 32) (m_ancList : List AJAAncillaryData) :
    let out := AddReceivedAncillaryData includesZeroLength gAnalogTypeMap SortListByLocation
      inReceivedData m_ancList
    out.1 ≠ none ∧ ∃ added, out.2.Perm (m_ancList ++ added) ∧
      wrappedSize added ≤ inReceivedData.length :=
  addReceived_takes hsort hsize m_ancList

/-- A packet whose count runs past the end of the buffer. -/
theorem AddReceivedAncillaryData_inside_sample :
    let out := AddReceivedAncillaryData false (fun _ => AJAAncDataType_Unknown) id
      [0xFF, 0x80, 0x09, 0x61, 0x01, 0x20, 0x00, 0x00] []
    out.1 ≠ none ∧ ∃ added, out.2.Perm ([] ++ added) ∧ wrappedSize added ≤ 8 :=
  AddReceivedAncillaryData_inside (fun l => List.Perm.refl l) false
    (fun _ => AJAAncDataType_Unknown) [0xFF, 0x80, 0x09, 0x61, 0x01, 0x20, 0x00, 0x00] (by decide)
    []

end LibAjaNtv2
