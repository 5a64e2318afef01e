import LibAjaNtv2.Anc.Types

/-!
Packets in a buffer for playback (`AJAAncillaryData::GenerateTransmitData (uint8_t *, ...)`).

* `GetRawPacketSize`: the size of a packet in the buffer;
* `digitalBytes`, `rawBytes`: the bytes of a packet; analog ones are split into packets of 255
  payload bytes;
* `GenerateTransmitData`: the bytes that are stored, and the size that is returned;
* `length_rawPackets`: how many bytes the split packets have;
* `sizedRight_iff_size`: what the caller relies on, as a fact about the two numbers;
* `sizedRight_iff`: **when the size agrees with what is written**: the payload is no multiple of
  255 bytes, and the sum does not overflow.
-/

namespace LibAjaNtv2

open AJAStatus AJAAncDataCoding AJAAncDataChannel AJAAncDataSpace

/-- `AJAAncillaryDataWrapperSize`: header, DID, SID, DC and checksum. -/
def AJAAncillaryDataWrapperSize : ULWord := 7

namespace AJAAncillaryData

variable (pkt : AJAAncillaryData)

/-- `AJAAncillaryData::GetDC`, as the `uint32_t` that it is. -/
def GetDC32 : ULWord := BitVec.ofNat 32 pkt.GetDC

/-- `AJAAncillaryData::GetRawPacketSize`. -/
def GetRawPacketSize : AJAStatus × ULWord :=
  if pkt.IsDigital then
    (AJA_STATUS_SUCCESS,
      if pkt.GetDC32 ≤ 255 then pkt.GetDC32 + AJAAncillaryDataWrapperSize
      else 255 + AJAAncillaryDataWrapperSize)
  else if pkt.IsRaw then
    (AJA_STATUS_SUCCESS,
      if pkt.GetDC32 ≠ 0 then
        let numPackets := (pkt.GetDC32 + 254) / 255
        let lastPacketDC := pkt.GetDC32 % 255
        (numPackets - 1) * (255 + AJAAncillaryDataWrapperSize) +
          (lastPacketDC + AJAAncillaryDataWrapperSize)
      else 0)
  else (AJA_STATUS_FAIL, 0)

/-! ### The bytes of a packet -/

/-- `GetGUMPHeaderByte1`. -/
def GetGUMPHeaderByte1 : UByte := 0xFF

/-- `GetGUMPHeaderByte2`. -/
def GetGUMPHeaderByte2 : UByte :=
  let result : UByte := 0x80
  let result := if pkt.m_coding = AJAAncDataCoding_Raw then result ||| 0x40 else result
  let result := if pkt.m_location.mChannel = AJAAncDataChannel_Y then result ||| 0x20 else result
  let result := if pkt.m_location.GetDataSpace = AJAAncDataSpace_HANC then result ||| 0x10
    else result
  result ||| ((pkt.m_location.mLineNum >>> 7) &&& 0x0F).setWidth 8

/-- `GetGUMPHeaderByte3`. -/
def GetGUMPHeaderByte3 : UByte := (pkt.m_location.mLineNum &&& 0x7F).setWidth 8

/-- The bytes before the payload, with its count. -/
def gumpHeader (payloadSize : ℕ) : List UByte :=
  [GetGUMPHeaderByte1, pkt.GetGUMPHeaderByte2, pkt.GetGUMPHeaderByte3, pkt.m_DID, pkt.m_SID,
    BitVec.ofNat 8 payloadSize]

/-- The bytes of a digital packet, with 255 payload bytes at most. -/
def digitalBytes : List UByte :=
  let payloadSize := if 255 < pkt.GetDC32 then 255 else pkt.GetDC32.toNat
  pkt.gumpHeader payloadSize ++ pkt.m_payload.take payloadSize ++ [pkt.Calculate8BitChecksum]

/-- The loop over the split packets of an analog one. -/
def rawPackets : ℕ → ℕ → List UByte → List UByte
  | 0, _, _ => []
  | numPackets + 1, remainingPayloadData, payload =>
      let payloadSize := if 255 < remainingPayloadData then 255 else remainingPayloadData
      pkt.gumpHeader payloadSize ++ payload.take payloadSize ++ [pkt.m_checksum] ++
        rawPackets numPackets (remainingPayloadData - payloadSize) (payload.drop payloadSize)

/-- The bytes of an analog packet. -/
def rawBytes : List UByte :=
  pkt.rawPackets ((pkt.GetDC32 + 254) / 255).toNat pkt.GetDC32.toNat pkt.m_payload

/-- The bytes of a packet. -/
def transmitBytes : List UByte := if pkt.IsDigital then pkt.digitalBytes else pkt.rawBytes

/-- What `GenerateTransmitData` returns, and the bytes that it has stored. -/
structure Transmitted where
  status : AJAStatus
  outPacketSize : ULWord
  bytes : List UByte

/-- `AJAAncillaryData::GenerateTransmitData` into a buffer, with the class's own
`GeneratePayloadData`. -/
def GenerateTransmitData (GeneratePayloadData : AJAAncillaryData → AJAStatus × AJAAncillaryData)
    (inMaxBytes : ℕ) : Transmitted :=
  let generated := GeneratePayloadData pkt
  let pkt := generated.2
  let myPacketSize := pkt.GetRawPacketSize.2
  let maxBytes : ULWord := BitVec.ofNat 32 inMaxBytes
  if myPacketSize = 0 then ⟨AJA_STATUS_FAIL, 0, []⟩
  else if maxBytes < myPacketSize then ⟨AJA_STATUS_FAIL, 0, []⟩
  else if ¬ pkt.IsDigital ∧ ¬ pkt.IsRaw then ⟨AJA_STATUS_FAIL, 0, []⟩
  else if pkt.IsDigital then
    -- the payload can be read: the status is that of reading it
    ⟨AJA_STATUS_SUCCESS, myPacketSize, pkt.digitalBytes⟩
  else ⟨generated.1, myPacketSize, pkt.rawBytes⟩

/-! ### The size and the bytes -/

@[simp] lemma length_gumpHeader (payloadSize : ℕ) : (pkt.gumpHeader payloadSize).length = 6 := rfl

/-- A digital packet has its payload, 255 bytes at most, and the wrapper. -/
lemma length_digitalBytes :
    pkt.digitalBytes.length = min 255 pkt.GetDC32.toNat + AJAAncillaryDataWrapperSize.toNat := by
  have hdc : pkt.GetDC32.toNat ≤ pkt.m_payload.length := by
    rw [GetDC32, BitVec.toNat_ofNat]
    exact Nat.mod_le _ _
  have hw : AJAAncillaryDataWrapperSize.toNat = 7 := rfl
  rw [digitalBytes, List.length_append, List.length_append, length_gumpHeader, List.length_take,
    List.length_singleton, hw]
  split
  · rename_i h
    have : 255 < pkt.GetDC32.toNat := h
    omega
  · rename_i h
    have : ¬ 255 < pkt.GetDC32.toNat := h
    omega

/-- **The split packets**: each has its wrapper, and all but the last have 255 payload bytes. -/
theorem length_rawPackets (numPackets remainingPayloadData : ℕ) (payload : List UByte)
    (h : remainingPayloadData ≤ payload.length) :
    (pkt.rawPackets numPackets remainingPayloadData payload).length =
      7 * numPackets + min remainingPayloadData (255 * numPackets) := by
  induction numPackets generalizing remainingPayloadData payload with
  | zero => simp [rawPackets]
  | succ n ih =>
      have hmin : (if 255 < remainingPayloadData then 255 else remainingPayloadData) =
          min remainingPayloadData 255 := by
        split <;> omega
      have hrest : remainingPayloadData - min remainingPayloadData 255 ≤
          (payload.drop (min remainingPayloadData 255)).length := by
        rw [List.length_drop]
        omega
      simp only [rawPackets, hmin, List.length_append, length_gumpHeader, List.length_take,
        List.length_singleton, ih _ _ hrest]
      omega

/-! ### Analog packets -/

lemma toNat_numPackets :
    ((pkt.GetDC32 + 254) / 255).toNat = (pkt.GetDC32.toNat + 254) % 2 ^ 32 / 255 := by
  rw [BitVec.toNat_udiv, BitVec.toNat_add]
  rfl

/-- The bytes of an analog packet. -/
lemma length_rawBytes : pkt.rawBytes.length =
    7 * ((pkt.GetDC32.toNat + 254) % 2 ^ 32 / 255) +
      min pkt.GetDC32.toNat (255 * ((pkt.GetDC32.toNat + 254) % 2 ^ 32 / 255)) := by
  have hdc : pkt.GetDC32.toNat ≤ pkt.m_payload.length := by
    rw [GetDC32, BitVec.toNat_ofNat]
    exact Nat.mod_le _ _
  rw [rawBytes, length_rawPackets _ _ _ _ hdc, toNat_numPackets]

/-- The size of an analog packet with a payload. -/
lemma toNat_size_of_isRaw (hraw : pkt.IsRaw) (hdc : pkt.GetDC32.toNat ≠ 0) :
    pkt.GetRawPacketSize.2.toNat = (((pkt.GetDC32.toNat + 254) % 2 ^ 32 / 255 + (2 ^ 32 - 1)) *
      262 + (pkt.GetDC32.toNat % 255 + 7)) % 2 ^ 32 := by
  have hdig : ¬ pkt.IsDigital := by
    rw [IsRaw] at hraw
    rw [IsDigital, hraw]
    decide
  have hne : pkt.GetDC32 ≠ 0 := by
    intro h
    rw [h] at hdc
    exact hdc rfl
  rw [GetRawPacketSize, if_neg hdig, if_pos hraw, if_pos hne]
  have hone : (1 : ULWord).toNat = 1 := rfl
  have h255 : (255 : ULWord).toNat = 255 := rfl
  have h7 : AJAAncillaryDataWrapperSize.toNat = 7 := rfl
  simp only [BitVec.toNat_add, BitVec.toNat_mul, BitVec.toNat_sub, BitVec.toNat_umod,
    toNat_numPackets, hone, h255, h7]
  omega

/-- Where the number of split packets does not overflow, each payload byte is stored; a last
packet with 255 of them is counted without its payload. -/
lemma stored_and_size (hraw : pkt.IsRaw) (h0 : pkt.GetDC32.toNat ≠ 0)
    (hfit : pkt.GetDC32.toNat + 254 < 2 ^ 32) :
    pkt.rawBytes.length = pkt.GetDC32.toNat + 7 * ((pkt.GetDC32.toNat + 254) / 255) ∧
      pkt.GetRawPacketSize.2.toNat =
        (pkt.GetDC32.toNat + 7 * ((pkt.GetDC32.toNat + 254) / 255) -
          if pkt.GetDC32.toNat % 255 = 0 then 255 else 0) % 2 ^ 32 := by
  rw [length_rawBytes, toNat_size_of_isRaw _ hraw h0, Nat.mod_eq_of_lt hfit]
  generalize pkt.GetDC32.toNat = dc at *
  rcases Nat.eq_zero_or_pos (dc % 255) with hr | hr
  · have hq : (dc + 254) / 255 = dc / 255 := by omega
    rw [hq, if_pos hr]
    omega
  · have hq : (dc + 254) / 255 = dc / 255 + 1 := by omega
    rw [hq, if_neg (by omega)]
    omega

/-- Where the number of split packets overflows, none is left, and the size counts some. -/
lemma stored_and_size_of_ge (hraw : pkt.IsRaw) (hwrap : 2 ^ 32 ≤ pkt.GetDC32.toNat + 254) :
    pkt.rawBytes.length = 0 ∧ pkt.GetRawPacketSize.2.toNat ≠ 0 := by
  have hlt := pkt.GetDC32.isLt
  have hnone : (pkt.GetDC32.toNat + 254) % 2 ^ 32 / 255 = 0 := by omega
  rw [length_rawBytes, toNat_size_of_isRaw _ hraw (by omega), hnone]
  omega

/-- An analog packet without a payload has no size. -/
lemma size_of_isRaw_of_eq_zero (hraw : pkt.IsRaw) (hdc : pkt.GetDC32.toNat = 0) :
    pkt.GetRawPacketSize.2 = 0 := by
  have hdig : ¬ pkt.IsDigital := by
    rw [IsRaw] at hraw
    rw [IsDigital, hraw]
    decide
  have hz : ¬ pkt.GetDC32 ≠ 0 := fun h => h (BitVec.eq_of_toNat_eq hdc)
  rw [GetRawPacketSize, if_neg hdig, if_pos hraw, if_neg hz]

/-- The payloads whose size is the number of bytes that are stored: there is a payload byte in
the last packet that is not the 255th, and the sum does not overflow. Where it overflows to
zero, and where there is no payload, nothing is stored. -/
def SizeFits (payloadSize : ℕ) : Prop :=
  let dc := payloadSize % 2 ^ 32
  let total := dc + 7 * ((dc + 254) / 255)
  dc = 0 ∨ total = 2 ^ 32 ∨ dc % 255 ≠ 0 ∧ total < 2 ^ 32

instance (payloadSize : ℕ) : Decidable (SizeFits payloadSize) :=
  inferInstanceAs (Decidable (_ ∨ _ ∨ _ ∧ _))

/-- `AJAAncillaryData::GeneratePayloadData` of the base class. -/
def baseGeneratePayloadData (pkt : AJAAncillaryData) : AJAStatus × AJAAncillaryData :=
  (AJA_STATUS_SUCCESS, pkt)

/-- What the caller of the two functions relies on, for buffers of every size. -/
structure SizedRight : Prop where
  /-- A buffer with room for the size is filled with as many bytes. -/
  exact : ∀ inMaxBytes < 2 ^ 64, pkt.GetRawPacketSize.2.toNat ≤ inMaxBytes % 2 ^ 32 →
    (pkt.GenerateTransmitData baseGeneratePayloadData inMaxBytes).bytes.length =
      pkt.GetRawPacketSize.2.toNat
  /-- Nothing is stored past the end of the buffer. -/
  within : ∀ inMaxBytes < 2 ^ 64,
    (pkt.GenerateTransmitData baseGeneratePayloadData inMaxBytes).bytes.length ≤ inMaxBytes

/-- The bytes of an analog packet that are stored. -/
lemma bytes_of_isRaw (hraw : pkt.IsRaw) (inMaxBytes : ℕ) :
    (pkt.GenerateTransmitData baseGeneratePayloadData inMaxBytes).bytes =
      if pkt.GetRawPacketSize.2.toNat = 0 ∨ inMaxBytes % 2 ^ 32 < pkt.GetRawPacketSize.2.toNat
      then [] else pkt.rawBytes := by
  have hdig : ¬ pkt.IsDigital := by
    rw [IsRaw] at hraw
    rw [IsDigital, hraw]
    decide
  have hroom : BitVec.ofNat 32 inMaxBytes < pkt.GetRawPacketSize.2 ↔
      inMaxBytes % 2 ^ 32 < pkt.GetRawPacketSize.2.toNat := by
    rw [BitVec.lt_def, BitVec.toNat_ofNat]
  have hzero : pkt.GetRawPacketSize.2 = 0 ↔ pkt.GetRawPacketSize.2.toNat = 0 :=
    BitVec.toNat_inj.symm
  simp only [GenerateTransmitData, baseGeneratePayloadData, hdig, hraw, hroom, hzero,
    not_true_eq_false, and_false, if_false]
  split
  · rename_i h0
    rw [if_pos (.inl h0)]
  · rename_i h0
    split
    · rename_i hlt
      rw [if_pos (.inr hlt)]
    · rename_i hlt
      rw [if_neg (not_or_intro h0 hlt)]

/-- The size is right where nothing is stored for it, or as many bytes as the packet has. -/
lemma sizedRight_iff_size (hraw : pkt.IsRaw) {n : ℕ} (hlen : pkt.rawBytes.length = n) :
    pkt.SizedRight ↔
      pkt.GetRawPacketSize.2.toNat = 0 ∨ pkt.GetRawPacketSize.2.toNat = n := by
  subst hlen
  have hmax := pkt.GetRawPacketSize.2.isLt
  constructor
  · intro h
    -- a buffer that has just the room
    have hex := h.exact pkt.GetRawPacketSize.2.toNat (by omega) (by omega)
    rw [bytes_of_isRaw _ hraw] at hex
    split at hex
    · exact .inl hex.symm
    · exact .inr hex.symm
  · intro h
    refine ⟨fun n _ hn => ?_, fun n _ => ?_⟩
    · rw [bytes_of_isRaw _ hraw]
      split
      · rename_i hrefused
        show 0 = _
        omega
      · omega
    · rw [bytes_of_isRaw _ hraw]
      split
      · exact Nat.zero_le _
      · have := Nat.mod_le n (2 ^ 32)
        omega

/-- **The size agrees with what is written** exactly where it counts the last packet, and does
not overflow. -/
theorem sizedRight_iff (hraw : pkt.IsRaw) :
    pkt.SizedRight ↔ SizeFits pkt.m_payload.length := by
  have hdc : pkt.m_payload.length % 2 ^ 32 = pkt.GetDC32.toNat := by
    rw [GetDC32, BitVec.toNat_ofNat, GetDC]
  have hbound : pkt.GetDC32.toNat < 2 ^ 32 := pkt.GetDC32.isLt
  rw [SizeFits, hdc]
  by_cases h0 : pkt.GetDC32.toNat = 0
  · have hsize := pkt.size_of_isRaw_of_eq_zero hraw h0
    refine iff_of_true ((pkt.sizedRight_iff_size hraw rfl).2 (.inl ?_)) (.inl h0)
    rw [hsize]
    rfl
  have hmax := pkt.GetRawPacketSize.2.isLt
  rcases Nat.lt_or_ge (pkt.GetDC32.toNat + 254) (2 ^ 32) with hfit | hwrap
  · obtain ⟨hlen, hsize⟩ := pkt.stored_and_size hraw h0 hfit
    generalize pkt.GetDC32.toNat = dc at *
    show _ ↔ dc = 0 ∨ dc + 7 * ((dc + 254) / 255) = 2 ^ 32 ∨
      dc % 255 ≠ 0 ∧ dc + 7 * ((dc + 254) / 255) < 2 ^ 32
    generalize hP : (dc + 254) / 255 = P at *
    rw [sizedRight_iff_size _ hraw hlen, hsize]
    clear hsize hlen hmax hdc
    split
    · rename_i hr
      have h262 : 255 * P = dc := by omega
      omega
    · rename_i hr
      have hlast : 255 * P < dc + 255 := by omega
      clear hP
      omega
  · obtain ⟨hlen, hsize⟩ := pkt.stored_and_size_of_ge hraw hwrap
    rw [sizedRight_iff_size _ hraw hlen]
    generalize pkt.GetDC32.toNat = dc at *
    show _ ↔ dc = 0 ∨ dc + 7 * ((dc + 254) / 255) = 2 ^ 32 ∨
      dc % 255 ≠ 0 ∧ dc + 7 * ((dc + 254) / 255) < 2 ^ 32
    omega

/-- An analog packet with a payload of zeroes. -/
def rawPacket (payloadSize : ℕ) : AJAAncillaryData :=
  { Init with
    m_coding := AJAAncDataCoding_Raw, m_payload := List.replicate payloadSize 0 }

/-- A payload of 300 bytes, which goes out in two packets, is sized right. -/
theorem sizedRight_twoPackets : (rawPacket 300).rawBytes.length = 300 + 2 * 7 ∧
    (rawPacket 300).SizedRight :=
  ⟨by decide +kernel, ((rawPacket 300).sizedRight_iff rfl).2 (by decide +kernel)⟩

/-- A payload of 255 bytes is stored past the end of a buffer of the size that is reported. -/
theorem not_sizedRight_wholePacket : (rawPacket 255).IsRaw ∧
    (rawPacket 255).GetRawPacketSize.2.toNat = 7 ∧
    ((rawPacket 255).GenerateTransmitData baseGeneratePayloadData 7).bytes.length = 262 ∧
    ¬ (rawPacket 255).SizedRight := by
  have hbytes : ((rawPacket 255).GenerateTransmitData baseGeneratePayloadData 7).bytes.length =
      262 := by
    decide +kernel
  refine ⟨rfl, by decide +kernel, hbytes, fun h => ?_⟩
  have := h.within 7 (by decide)
  omega

end AJAAncillaryData

end LibAjaNtv2
