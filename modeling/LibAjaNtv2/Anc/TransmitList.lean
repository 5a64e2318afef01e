import LibAjaNtv2.Anc.Transmit
import LibAjaNtv2.Lib.Block

/-!
The packets of a list in the buffers of the two fields (`AJAAncillaryList::GetTransmitData`).

* `ListedPacket`: a packet with the `GeneratePayloadData` of its class;
* `GetTransmitData`: what is stored in each buffer, and the status;
* `completeBytes`: all bytes of a packet; `transmitBytes_eq_iff`: when they are stored;
* `WrittenCompletely`: every packet of a field stands in its buffer, and none on another;
  `writtenCompletely_iff`: when that is so;
* `losesNothing_iff`: **when a success means that nothing is missing**.
-/

namespace LibAjaNtv2

open AJAStatus AJAAncDataCoding

/-- A packet of a list: its data and its class's own `GeneratePayloadData`. -/
structure ListedPacket where
  data : AJAAncillaryData
  GeneratePayloadData : AJAAncillaryData → AJAStatus × AJAAncillaryData

namespace ListedPacket

variable (pPkt : ListedPacket)

/-- The data that are sent. -/
def generated : AJAAncillaryData := (pPkt.GeneratePayloadData pPkt.data).2

/-- `AJAAncillaryData::GenerateTransmitData`. -/
def GenerateTransmitData (inMaxBytes : ℕ) : AJAAncillaryData.Transmitted :=
  pPkt.data.GenerateTransmitData pPkt.GeneratePayloadData inMaxBytes

/-- The size that is counted for the packet. -/
def size : ℕ := pPkt.generated.GetRawPacketSize.2.toNat

end ListedPacket

/-! ### The two buffers -/

/-- The buffer of a field in the course of the loop: where the next packet goes, how much room
is left, and what has been stored where. -/
structure AncBuffer where
  pAncData : ℕ
  maxData : ℕ
  stores : List (ℕ × List UByte)

/-- The branch of a field. A packet without room is passed over, and the status stays: it is
that of the packets before, which have all succeeded. -/
def AncBuffer.put (b : AncBuffer) (pPkt : ListedPacket) : AJAStatus × AncBuffer :=
  if b.maxData ≠ 0 then
    let out := pPkt.GenerateTransmitData b.maxData
    let stores := b.stores ++ [(b.pAncData, out.bytes)]
    if out.status ≠ AJA_STATUS_SUCCESS then (out.status, { b with stores := stores })
    else
      (out.status, ⟨b.pAncData + out.outPacketSize.toNat, b.maxData - out.outPacketSize.toNat,
        stores⟩)
  else (AJA_STATUS_SUCCESS, b)

/-- Whether a packet belongs to the first field. -/
def inField1 (inIsProgressive : Bool) (inF2StartLine : ULWord) (pPkt : ListedPacket) : Bool :=
  inIsProgressive || decide (pPkt.data.m_location.mLineNum.setWidth 32 < inF2StartLine)

/-- The packets of the first field. -/
def field1Packets (inIsProgressive : Bool) (inF2StartLine : ULWord) (ps : List ListedPacket) :
    List ListedPacket :=
  ps.filter (inField1 inIsProgressive inF2StartLine)

/-- The packets of the second field. -/
def field2Packets (inIsProgressive : Bool) (inF2StartLine : ULWord) (ps : List ListedPacket) :
    List ListedPacket :=
  ps.filter fun pPkt => !inField1 inIsProgressive inF2StartLine pPkt

/-- The loop over the packets. -/
def transmitLoop (inIsProgressive : Bool) (inF2StartLine : ULWord) :
    List ListedPacket → AncBuffer → AncBuffer → AJAStatus × AncBuffer × AncBuffer
  | [], f1, f2 => (AJA_STATUS_SUCCESS, f1, f2)
  | pPkt :: rest, f1, f2 =>
      if inField1 inIsProgressive inF2StartLine pPkt then
        match f1.put pPkt with
        | (AJA_STATUS_SUCCESS, f1) => transmitLoop inIsProgressive inF2StartLine rest f1 f2
        | (status, f1) => (status, f1, f2)
      else
        match f2.put pPkt with
        | (AJA_STATUS_SUCCESS, f2) => transmitLoop inIsProgressive inF2StartLine rest f1 f2
        | (status, f2) => (status, f1, f2)

/-- `AJAAncillaryList::GetTransmitData`, for buffers of the two sizes; a null buffer has none.
`std::sort` may leave packets of one location in any order. -/
def GetTransmitData (SortListByLocation : List ListedPacket → List ListedPacket)
    (m_ancList : List ListedPacket) (F1Size F2Size : ULWord) (inIsProgressive : Bool)
    (inF2StartLine : ULWord) : AJAStatus × AncBuffer × AncBuffer :=
  transmitLoop inIsProgressive inF2StartLine (SortListByLocation m_ancList)
    ⟨0, F1Size.toNat, []⟩ ⟨0, F2Size.toNat, []⟩

/-- A buffer after `NTV2Buffer::Fill (uint64_t)` and the packets' stores; none where one of them
runs past its end. The fill leaves the bytes past the last whole word. -/
def filledWith (buffer : List UByte) (stores : List (ℕ × List UByte)) :
    Option (Block UByte) :=
  let words := 8 * (buffer.length / 8)
  stores.foldlM (fun (b : Block UByte) st => b.store st.1 st.2)
    ⟨List.replicate words 0 ++ buffer.drop words, []⟩

/-! ### All bytes of a packet -/

namespace AJAAncillaryData

variable (pkt : AJAAncillaryData)

/-- All bytes of a packet, with its whole payload; an analog one is split. -/
def completeBytes : List UByte :=
  let payloadSize := pkt.m_payload.length
  if pkt.IsDigital then
    pkt.gumpHeader payloadSize ++ pkt.m_payload ++ [pkt.Calculate8BitChecksum]
  else pkt.rawPackets ((payloadSize + 254) / 255) payloadSize pkt.m_payload

/-- How many bytes that are. -/
def completeSize : ℕ :=
  let payloadSize := pkt.m_payload.length
  if pkt.IsDigital then payloadSize + 7
  else payloadSize + 7 * ((payloadSize + 254) / 255)

/-- The payload is too long: a digital packet is cut to 255 bytes of it, and the 32-bit count of an
analog one loses some. -/
def Overflows : Prop :=
  let payloadSize := pkt.m_payload.length
  if pkt.IsDigital then 255 < payloadSize else 2 ^ 32 ≤ payloadSize + 254

instance : Decidable pkt.Overflows := by
  unfold Overflows
  infer_instance

/-- The number of all bytes. -/
lemma length_completeBytes : pkt.completeBytes.length = pkt.completeSize := by
  rw [completeBytes, completeSize]
  split
  · rw [List.length_append, List.length_append, length_gumpHeader, List.length_singleton]
    omega
  · rw [length_rawPackets _ _ _ _ (Nat.le_refl _)]
    omega

lemma toNat_GetDC32 : pkt.GetDC32.toNat = pkt.m_payload.length % 2 ^ 32 := by
  rw [GetDC32, BitVec.toNat_ofNat, GetDC]

/-- The number of bytes that are stored. -/
lemma length_transmitBytes :
    pkt.transmitBytes.length =
      if pkt.IsDigital then min 255 pkt.GetDC32.toNat + 7
      else 7 * ((pkt.GetDC32.toNat + 254) % 2 ^ 32 / 255) +
        min pkt.GetDC32.toNat (255 * ((pkt.GetDC32.toNat + 254) % 2 ^ 32 / 255)) := by
  rw [transmitBytes]
  split
  · exact length_digitalBytes _
  · exact length_rawBytes _

/-- A packet that overflows is stored with too few bytes. -/
lemma length_transmitBytes_lt (h : pkt.Overflows) :
    pkt.transmitBytes.length < pkt.completeSize := by
  rw [length_transmitBytes, completeSize, toNat_GetDC32]
  rw [Overflows] at h
  generalize pkt.m_payload.length = n at *
  split
  · rename_i hdig
    rw [if_pos hdig] at h
    omega
  · rename_i hdig
    rw [if_neg hdig] at h
    have hdiv : (n % 2 ^ 32 + 254) % 2 ^ 32 / 255 < (n + 254) / 255 := by omega
    omega

/-- A packet that does not is stored with all of them. -/
lemma transmitBytes_eq (h : ¬ pkt.Overflows) : pkt.transmitBytes = pkt.completeBytes := by
  rw [transmitBytes, completeBytes]
  rw [Overflows] at h
  split
  · rename_i hdig
    rw [if_pos hdig] at h
    have hdc : pkt.GetDC32.toNat = pkt.m_payload.length := by
      rw [toNat_GetDC32]
      omega
    have hle : ¬ 255 < pkt.GetDC32 := fun hlt => h (hdc ▸ hlt)
    rw [digitalBytes, if_neg hle, hdc, List.take_length]
  · rename_i hdig
    rw [if_neg hdig] at h
    have hdc : pkt.GetDC32.toNat = pkt.m_payload.length := by
      rw [toNat_GetDC32]
      omega
    rw [rawBytes, toNat_numPackets, hdc, Nat.mod_eq_of_lt (by omega)]

/-- **All bytes are stored** unless the payload is too long. -/
theorem transmitBytes_eq_iff : pkt.transmitBytes = pkt.completeBytes ↔ ¬ pkt.Overflows := by
  refine ⟨fun heq h => ?_, pkt.transmitBytes_eq⟩
  have hlt := pkt.length_transmitBytes_lt h
  rw [heq, length_completeBytes] at hlt
  exact lt_irrefl _ hlt

/-- There are no more bytes stored than all. -/
lemma length_transmitBytes_le : pkt.transmitBytes.length ≤ pkt.completeBytes.length := by
  rw [length_completeBytes]
  by_cases h : pkt.Overflows
  · exact (pkt.length_transmitBytes_lt h).le
  · rw [transmitBytes_eq _ h, length_completeBytes]

/-- As many are the same. -/
lemma transmitBytes_eq_of_length (h : pkt.transmitBytes.length = pkt.completeBytes.length) :
    pkt.transmitBytes = pkt.completeBytes := by
  refine pkt.transmitBytes_eq fun hover => ?_
  have hlt := pkt.length_transmitBytes_lt hover
  rw [h, length_completeBytes] at hlt
  exact lt_irrefl _ hlt

end AJAAncillaryData

/-! ### One packet -/

namespace ListedPacket

variable (pPkt : ListedPacket) {n : ℕ}

/-- A packet is refused where it has no size, where there is no room for its size, and where its
payload cannot be generated. A digital one with a payload of its own is sent all the same. -/
def RefusedAt (n : ℕ) : Prop :=
  pPkt.size = 0 ∨ n < pPkt.size ∨
    (¬ pPkt.generated.IsDigital ∧ (pPkt.GeneratePayloadData pPkt.data).1 ≠ AJA_STATUS_SUCCESS)

instance : Decidable (pPkt.RefusedAt n) := inferInstanceAs (Decidable (_ ∨ _ ∨ _))

/-- What has a size is digital or analog. -/
lemma coding_of_size (h : pPkt.size ≠ 0) : pPkt.generated.IsDigital ∨ pPkt.generated.IsRaw := by
  by_contra hnone
  obtain ⟨hdig, hraw⟩ := not_or.1 hnone
  refine h ?_
  rw [size, AJAAncillaryData.GetRawPacketSize, if_neg hdig, if_neg hraw]
  rfl

/-- **One packet**: it is refused, or its size is counted and its bytes are stored. -/
theorem GenerateTransmitData_eq (hn : n < 2 ^ 32) :
    ((pPkt.GenerateTransmitData n).status ≠ AJA_STATUS_SUCCESS ↔ pPkt.RefusedAt n) ∧
      (¬ pPkt.RefusedAt n → (pPkt.GenerateTransmitData n).outPacketSize.toNat = pPkt.size ∧
        (pPkt.GenerateTransmitData n).bytes = pPkt.generated.transmitBytes) := by
  have hroom : BitVec.ofNat 32 n < pPkt.generated.GetRawPacketSize.2 ↔ n < pPkt.size := by
    rw [BitVec.lt_def, BitVec.toNat_ofNat, Nat.mod_eq_of_lt hn, size]
  have hzero : pPkt.generated.GetRawPacketSize.2 = 0 ↔ pPkt.size = 0 :=
    BitVec.toNat_inj.symm
  have hout : pPkt.GenerateTransmitData n =
      if pPkt.size = 0 ∨ n < pPkt.size then ⟨AJA_STATUS_FAIL, 0, []⟩
      else if pPkt.generated.IsDigital then
        ⟨AJA_STATUS_SUCCESS, pPkt.generated.GetRawPacketSize.2, pPkt.generated.digitalBytes⟩
      else ⟨(pPkt.GeneratePayloadData pPkt.data).1, pPkt.generated.GetRawPacketSize.2,
        pPkt.generated.rawBytes⟩ := by
    have hcoding := pPkt.coding_of_size
    rw [generated] at hroom hzero hcoding
    simp only [GenerateTransmitData, AJAAncillaryData.GenerateTransmitData, hroom, hzero,
      generated]
    by_cases h0 : pPkt.size = 0
    · rw [if_pos h0, if_pos (.inl h0)]
    · by_cases hlt : n < pPkt.size
      · rw [if_neg h0, if_pos hlt, if_pos (.inr hlt)]
      · rw [if_neg h0, if_neg hlt, if_neg (not_or_intro h0 hlt),
          if_neg (not_and_or.2 ((hcoding h0).imp not_not_intro not_not_intro))]
        rfl
  rw [hout, RefusedAt]
  by_cases hno : pPkt.size = 0 ∨ n < pPkt.size
  · rw [if_pos hno]
    refine ⟨iff_of_true (by simp) ?_, fun h => absurd ?_ h⟩
    · tauto
    · tauto
  · rw [if_neg hno]
    obtain ⟨h0, hlt⟩ := not_or.1 hno
    rw [AJAAncillaryData.transmitBytes]
    by_cases hdig : pPkt.generated.IsDigital
    · rw [if_pos hdig]
      refine ⟨iff_of_false (by simp) ?_, fun _ => ⟨rfl, (if_pos hdig).symm⟩⟩
      tauto
    · rw [if_neg hdig]
      refine ⟨?_, fun _ => ⟨rfl, (if_neg hdig).symm⟩⟩
      show (pPkt.GeneratePayloadData pPkt.data).1 ≠ _ ↔ _
      tauto

end ListedPacket

/-! ### The packets of one field -/

/-- A packet of a field is refused on the way. -/
def FieldRefused : ℕ → List ListedPacket → Prop
  | _, [] => False
  | n, pPkt :: ps => n ≠ 0 ∧ (pPkt.RefusedAt n ∨ FieldRefused (n - pPkt.size) ps)

/-- What a field stores, in the room from a position on. -/
def storesFrom : ℕ → ℕ → List ListedPacket → List (ℕ × List UByte)
  | _, _, [] => []
  | start, n, pPkt :: ps =>
      if n = 0 then []
      else (start, pPkt.generated.transmitBytes) ::
        storesFrom (start + pPkt.size) (n - pPkt.size) ps

instance FieldRefused.decidable : ∀ (n : ℕ) (ps : List ListedPacket), Decidable (FieldRefused n ps)
  | _, [] => isFalse id
  | n, pPkt :: ps =>
      have := FieldRefused.decidable (n - pPkt.size) ps
      inferInstanceAs (Decidable (n ≠ 0 ∧ (pPkt.RefusedAt n ∨ FieldRefused (n - pPkt.size) ps)))

lemma not_fieldRefused_zero (ps : List ListedPacket) : ¬ FieldRefused 0 ps := by
  cases ps with
  | nil => exact id
  | cons pPkt ps => exact fun h => h.1 rfl

lemma storesFrom_zero (start : ℕ) (ps : List ListedPacket) : storesFrom start 0 ps = [] := by
  cases ps with
  | nil => rfl
  | cons pPkt ps => exact if_pos rfl

/-- **One packet of a field**: passed over, refused or stored. -/
theorem AncBuffer.put_cases (b : AncBuffer) (pPkt : ListedPacket) (hb : b.maxData < 2 ^ 32) :
    (b.maxData = 0 ∧ b.put pPkt = (AJA_STATUS_SUCCESS, b)) ∨
    (b.maxData ≠ 0 ∧ pPkt.RefusedAt b.maxData ∧ (b.put pPkt).1 ≠ AJA_STATUS_SUCCESS) ∨
    (b.maxData ≠ 0 ∧ ¬ pPkt.RefusedAt b.maxData ∧ b.put pPkt = (AJA_STATUS_SUCCESS,
      ⟨b.pAncData + pPkt.size, b.maxData - pPkt.size,
        b.stores ++ [(b.pAncData, pPkt.generated.transmitBytes)]⟩)) := by
  obtain ⟨hstatus, hout⟩ := pPkt.GenerateTransmitData_eq hb
  by_cases h0 : b.maxData = 0
  · exact .inl ⟨h0, if_neg (not_not_intro h0)⟩
  · rw [put, if_pos h0]
    by_cases hr : pPkt.RefusedAt b.maxData
    · refine .inr (.inl ⟨h0, hr, ?_⟩)
      simp only [if_pos (hstatus.2 hr)]
      exact hstatus.2 hr
    · refine .inr (.inr ⟨h0, hr, ?_⟩)
      obtain ⟨hsize, hbytes⟩ := hout hr
      have hok := not_not.1 fun hne => hr (hstatus.1 hne)
      simp only [hok, hsize, hbytes, ne_eq, not_true_eq_false, if_false]

/-- One round of the loop. -/
lemma transmitLoop_cons (inIsProgressive : Bool) (inF2StartLine : ULWord) (pPkt : ListedPacket)
    (ps : List ListedPacket) (f1 f2 : AncBuffer) :
    transmitLoop inIsProgressive inF2StartLine (pPkt :: ps) f1 f2 =
      if inField1 inIsProgressive inF2StartLine pPkt then
        if (f1.put pPkt).1 = AJA_STATUS_SUCCESS then
          transmitLoop inIsProgressive inF2StartLine ps (f1.put pPkt).2 f2
        else ((f1.put pPkt).1, (f1.put pPkt).2, f2)
      else if (f2.put pPkt).1 = AJA_STATUS_SUCCESS then
        transmitLoop inIsProgressive inF2StartLine ps f1 (f2.put pPkt).2
      else ((f2.put pPkt).1, f1, (f2.put pPkt).2) := by
  rw [transmitLoop]
  generalize f1.put pPkt = r1
  generalize f2.put pPkt = r2
  obtain ⟨status1, g1⟩ := r1
  obtain ⟨status2, g2⟩ := r2
  split
  · cases status1 <;> rfl
  · cases status2 <;> rfl

/-- The packets of one field alone, up to one that is refused. -/
def AncBuffer.puts (b : AncBuffer) : List ListedPacket → AJAStatus × AncBuffer
  | [] => (AJA_STATUS_SUCCESS, b)
  | pPkt :: ps =>
      if (b.put pPkt).1 = AJA_STATUS_SUCCESS then (b.put pPkt).2.puts ps else b.put pPkt

/-- **The packets of one field** succeed where none is refused, and are stored then. -/
theorem AncBuffer.puts_spec (b : AncBuffer) (ps : List ListedPacket) (hb : b.maxData < 2 ^ 32) :
    ((b.puts ps).1 = AJA_STATUS_SUCCESS ↔ ¬ FieldRefused b.maxData ps) ∧
    ((b.puts ps).1 = AJA_STATUS_SUCCESS →
      (b.puts ps).2.stores = b.stores ++ storesFrom b.pAncData b.maxData ps) := by
  induction ps generalizing b with
  | nil => exact ⟨iff_of_true rfl id, fun _ => (List.append_nil _).symm⟩
  | cons pPkt ps ih =>
      rw [puts]
      rcases b.put_cases pPkt hb with ⟨h0, hput⟩ | ⟨h0, hr, hput⟩ | ⟨h0, hr, hput⟩
      · have := ih b hb
        simpa only [hput, if_pos, h0, storesFrom_zero, not_fieldRefused_zero] using this
      · rw [if_neg hput]
        exact ⟨iff_of_false hput fun h => h ⟨h0, .inl hr⟩, fun h => absurd h hput⟩
      · rw [hput, if_pos rfl, FieldRefused, storesFrom, if_neg h0]
        obtain ⟨hs, hst⟩ := ih ⟨b.pAncData + pPkt.size, b.maxData - pPkt.size,
          b.stores ++ [(b.pAncData, pPkt.generated.transmitBytes)]⟩
          (lt_of_le_of_lt (Nat.sub_le _ _) hb)
        refine ⟨hs.trans ?_, fun h => ?_⟩
        · simp only [h0, hr, ne_eq, not_false_eq_true, true_and, false_or]
        · rw [hst h, List.append_assoc]
          rfl

/-- **The loop** fills each buffer as if the other field were not there, unless it fails. -/
theorem transmitLoop_spec (inIsProgressive : Bool) (inF2StartLine : ULWord)
    (ps : List ListedPacket) (f1 f2 : AncBuffer) :
    let out := transmitLoop inIsProgressive inF2StartLine ps f1 f2
    let out1 := f1.puts (field1Packets inIsProgressive inF2StartLine ps)
    let out2 := f2.puts (field2Packets inIsProgressive inF2StartLine ps)
    (out.1 = AJA_STATUS_SUCCESS ↔
      out1.1 = AJA_STATUS_SUCCESS ∧ out2.1 = AJA_STATUS_SUCCESS) ∧
    (out.1 = AJA_STATUS_SUCCESS → out.2 = (out1.2, out2.2)) := by
  intro out out1 out2
  induction ps generalizing f1 f2 with
  | nil => exact ⟨iff_of_true rfl ⟨rfl, rfl⟩, fun _ => rfl⟩
  | cons pPkt ps ih =>
      simp only [out, out1, out2, transmitLoop_cons]
      by_cases hin : inField1 inIsProgressive inF2StartLine pPkt = true
      · have hf1 : field1Packets inIsProgressive inF2StartLine (pPkt :: ps) =
            pPkt :: field1Packets inIsProgressive inF2StartLine ps :=
          List.filter_cons_of_pos hin
        have hf2 : field2Packets inIsProgressive inF2StartLine (pPkt :: ps) =
            field2Packets inIsProgressive inF2StartLine ps :=
          List.filter_cons_of_neg (by simp [hin])
        rw [if_pos hin, hf1, hf2, AncBuffer.puts]
        by_cases hput : (f1.put pPkt).1 = AJA_STATUS_SUCCESS
        · rw [if_pos hput, if_pos hput]
          exact ih _ _
        · rw [if_neg hput, if_neg hput]
          exact ⟨iff_of_false hput fun h => hput h.1, fun h => absurd h hput⟩
      · have hf1 : field1Packets inIsProgressive inF2StartLine (pPkt :: ps) =
            field1Packets inIsProgressive inF2StartLine ps :=
          List.filter_cons_of_neg hin
        have hf2 : field2Packets inIsProgressive inF2StartLine (pPkt :: ps) =
            pPkt :: field2Packets inIsProgressive inF2StartLine ps :=
          List.filter_cons_of_pos (by simp [hin])
        rw [if_neg hin, hf1, hf2, AncBuffer.puts]
        by_cases hput : (f2.put pPkt).1 = AJA_STATUS_SUCCESS
        · rw [if_pos hput, if_pos hput]
          exact ih _ _
        · rw [if_neg hput, if_neg hput]
          exact ⟨iff_of_false hput fun h => hput h.2, fun h => absurd h hput⟩

/-- **The two fields**: they succeed where no packet of either is refused, and each buffer is
stored as if the other field were not there. -/
theorem GetTransmitData_spec (SortListByLocation : List ListedPacket → List ListedPacket)
    (m_ancList : List ListedPacket) (F1Size F2Size : ULWord) (inIsProgressive : Bool)
    (inF2StartLine : ULWord) :
    let ps1 := field1Packets inIsProgressive inF2StartLine (SortListByLocation m_ancList)
    let ps2 := field2Packets inIsProgressive inF2StartLine (SortListByLocation m_ancList)
    let out := GetTransmitData SortListByLocation m_ancList F1Size F2Size inIsProgressive
      inF2StartLine
    (out.1 = AJA_STATUS_SUCCESS ↔
      ¬ FieldRefused F1Size.toNat ps1 ∧ ¬ FieldRefused F2Size.toNat ps2) ∧
    (out.1 = AJA_STATUS_SUCCESS → out.2.1.stores = storesFrom 0 F1Size.toNat ps1 ∧
      out.2.2.stores = storesFrom 0 F2Size.toNat ps2) := by
  intro ps1 ps2 out
  obtain ⟨hstatus, hbuffers⟩ := transmitLoop_spec inIsProgressive inF2StartLine
    (SortListByLocation m_ancList) ⟨0, F1Size.toNat, []⟩ ⟨0, F2Size.toNat, []⟩
  obtain ⟨hs1, hst1⟩ := AncBuffer.puts_spec ⟨0, F1Size.toNat, []⟩ ps1 F1Size.isLt
  obtain ⟨hs2, hst2⟩ := AncBuffer.puts_spec ⟨0, F2Size.toNat, []⟩ ps2 F2Size.isLt
  refine ⟨hstatus.trans (and_congr hs1 hs2), fun hok => ?_⟩
  obtain ⟨hok1, hok2⟩ := hstatus.1 hok
  have hout : out.2 = _ := hbuffers hok
  rw [hout]
  exact ⟨hst1 hok1, hst2 hok2⟩

/-! ### What a success means -/

/-- Every packet of a field stands in a buffer of the size with all of its bytes, and each is
stored past the ones before it. -/
structure WrittenCompletely (packets : List ListedPacket) (size : ℕ)
    (stores : List (ℕ × List UByte)) : Prop where
  /-- The stores are the packets. -/
  whole : (stores.map Prod.snd).Perm (packets.map fun pPkt => pPkt.generated.completeBytes)
  /-- No store runs past the end of the buffer. -/
  inside : ∀ st ∈ stores, st.1 + st.2.length ≤ size
  /-- No store lies on another. -/
  apart : stores.Pairwise fun st st' => st.1 + st.2.length ≤ st'.1

/-- What the caller relies on: after a success every packet of a field with a buffer is in it. -/
structure LosesNothing (SortListByLocation : List ListedPacket → List ListedPacket)
    (m_ancList : List ListedPacket) (F1Size F2Size : ULWord) (inIsProgressive : Bool)
    (inF2StartLine : ULWord) : Prop where
  field1 :
    let out := GetTransmitData SortListByLocation m_ancList F1Size F2Size inIsProgressive
      inF2StartLine
    out.1 = AJA_STATUS_SUCCESS → F1Size ≠ 0 →
      WrittenCompletely (field1Packets inIsProgressive inF2StartLine m_ancList) F1Size.toNat
        out.2.1.stores
  field2 :
    let out := GetTransmitData SortListByLocation m_ancList F1Size F2Size inIsProgressive
      inF2StartLine
    out.1 = AJA_STATUS_SUCCESS → F2Size ≠ 0 →
      WrittenCompletely (field2Packets inIsProgressive inF2StartLine m_ancList) F2Size.toNat
        out.2.2.stores

/-! ### When nothing is missing -/

/-- The packets of a field fit: each meets some room, no payload is too long, and the size of each
but the last counts all of its bytes. -/
def FieldFits : ℕ → List ListedPacket → Prop
  | _, [] => True
  | n, pPkt :: ps =>
      n ≠ 0 ∧ ¬ pPkt.generated.Overflows ∧ pPkt.generated.completeSize ≤ n ∧
        (ps = [] ∨ pPkt.generated.completeSize ≤ pPkt.size) ∧ FieldFits (n - pPkt.size) ps

/-- There are no more stores than packets, and no more bytes in each. -/
lemma storesFrom_spec (start n : ℕ) (ps : List ListedPacket) :
    ∃ k ≤ ps.length, (storesFrom start n ps).map Prod.snd =
      (ps.take k).map fun pPkt => pPkt.generated.transmitBytes := by
  induction ps generalizing start n with
  | nil => exact ⟨0, le_rfl, rfl⟩
  | cons pPkt ps ih =>
      rw [storesFrom]
      by_cases h0 : n = 0
      · rw [if_pos h0]
        exact ⟨0, Nat.zero_le _, rfl⟩
      · rw [if_neg h0]
        obtain ⟨k, hk, heq⟩ := ih (start + pPkt.size) (n - pPkt.size)
        refine ⟨k + 1, Nat.succ_le_succ hk, ?_⟩
        rw [List.map_cons, heq, List.take_succ_cons, List.map_cons]

/-- Lists of numbers with equal sums, one below the other, are equal. -/
lemma eq_of_sum_eq {α : Type} (f g : α → ℕ) (l : List α) (hle : ∀ a ∈ l, f a ≤ g a)
    (hsum : (l.map f).sum = (l.map g).sum) : ∀ a ∈ l, f a = g a := by
  intro a ha
  by_contra hne
  exact absurd hsum (List.sum_lt_sum f g hle ⟨a, ha, lt_of_le_of_ne (hle a ha) hne⟩).ne

/-- The stores of a field are its packets, in any order, only where each is stored whole. -/
lemma whole_iff (start n : ℕ) (ps : List ListedPacket) :
    ((storesFrom start n ps).map Prod.snd).Perm
        (ps.map fun pPkt => pPkt.generated.completeBytes) ↔
      (storesFrom start n ps).map Prod.snd = ps.map fun pPkt => pPkt.generated.completeBytes := by
  refine ⟨fun h => ?_, fun h => h ▸ List.Perm.refl _⟩
  obtain ⟨k, hk, heq⟩ := storesFrom_spec start n ps
  rw [heq] at h ⊢
  have hlen := h.length_eq
  rw [List.length_map, List.length_map, List.length_take, Nat.min_eq_left hk] at hlen
  rw [hlen, List.take_length] at h ⊢
  refine List.map_congr_left fun pPkt hp => ?_
  refine pPkt.generated.transmitBytes_eq_of_length ?_
  have hsum := (h.map List.length).sum_eq
  rw [List.map_map, List.map_map] at hsum
  exact eq_of_sum_eq _ _ ps (fun p _ => p.generated.length_transmitBytes_le) hsum pPkt hp

/-- The stores begin at the position. -/
lemma le_of_mem_storesFrom {start n : ℕ} {ps : List ListedPacket} :
    ∀ st ∈ storesFrom start n ps, start ≤ st.1 := by
  induction ps generalizing start n with
  | nil => exact fun st hst => absurd hst List.not_mem_nil
  | cons pPkt ps ih =>
      intro st hst
      rw [storesFrom] at hst
      split at hst
      · exact absurd hst List.not_mem_nil
      · rcases List.mem_cons.1 hst with rfl | hst
        · exact le_rfl
        · exact (Nat.le_add_right _ _).trans (ih st hst)

/-- The first store is at the position. -/
lemma forall_le_storesFrom_iff {start n k : ℕ} {ps : List ListedPacket}
    (h : (storesFrom start n ps).map Prod.snd = ps.map fun p => p.generated.completeBytes) :
    (∀ st ∈ storesFrom start n ps, k ≤ st.1) ↔ ps = [] ∨ k ≤ start := by
  constructor
  · intro hall
    cases ps with
    | nil => exact .inl rfl
    | cons pPkt ps =>
        rw [storesFrom] at h hall
        split at h
        · cases h
        · rename_i h0
          rw [if_neg h0] at hall
          exact .inr (hall _ List.mem_cons_self)
  · rintro (rfl | hk) st hst
    · exact absurd hst List.not_mem_nil
    · exact hk.trans (le_of_mem_storesFrom st hst)

/-- **A field that has no packet refused** is written completely exactly where it fits. -/
theorem storesFrom_complete_iff (start n : ℕ) (ps : List ListedPacket) (hr : ¬ FieldRefused n ps) :
    ((storesFrom start n ps).map Prod.snd = (ps.map fun p => p.generated.completeBytes) ∧
      (∀ st ∈ storesFrom start n ps, st.1 + st.2.length ≤ start + n) ∧
      (storesFrom start n ps).Pairwise fun st st' => st.1 + st.2.length ≤ st'.1) ↔
    FieldFits n ps := by
  induction ps generalizing start n with
  | nil =>
      exact iff_of_true ⟨rfl, fun _ h => absurd h List.not_mem_nil, List.Pairwise.nil⟩ trivial
  | cons pPkt ps ih =>
      rw [storesFrom, FieldFits]
      by_cases h0 : n = 0
      · rw [if_pos h0]
        exact iff_of_false (fun h => List.cons_ne_nil _ _ h.1.symm) fun h => h.1 h0
      · have hrefused : ¬ pPkt.RefusedAt n ∧ ¬ FieldRefused (n - pPkt.size) ps := by
          rw [FieldRefused] at hr
          tauto
        obtain ⟨hp, hps⟩ := hrefused
        have hsize : pPkt.size ≤ n := by
          by_contra hlt
          exact hp (.inr (.inl (Nat.lt_of_not_le hlt)))
        have hroom : start + pPkt.size + (n - pPkt.size) = start + n := by omega
        have ih := ih (start + pPkt.size) (n - pPkt.size) hps
        rw [hroom] at ih
        rw [if_neg h0, List.map_cons, List.map_cons, List.cons.injEq, List.forall_mem_cons,
          List.pairwise_cons, ← ih, ← AJAAncillaryData.transmitBytes_eq_iff,
          ← AJAAncillaryData.length_completeBytes]
        constructor
        · rintro ⟨⟨hbytes, hmap⟩, ⟨hin, hins⟩, hfirst, hpair⟩
          rw [hbytes] at hin hfirst
          have hin : start + pPkt.generated.completeBytes.length ≤ start + n := hin
          have hnext := (forall_le_storesFrom_iff hmap).1 hfirst
          refine ⟨h0, hbytes, by omega, hnext.imp id fun h => by omega, hmap, hins, hpair⟩
        · rintro ⟨-, hbytes, hin, hnext, hmap, hins, hpair⟩
          rw [hbytes]
          refine ⟨⟨rfl, hmap⟩, ⟨Nat.add_le_add_left hin start, hins⟩, ?_, hpair⟩
          exact (forall_le_storesFrom_iff hmap).2
            (hnext.imp id fun h => Nat.add_le_add_left h start)

/-- `std::sort` by location: the packets of the list, none before one of a lower location. -/
structure SortsByLocation (SortListByLocation : List ListedPacket → List ListedPacket) :
    Prop where
  perm : ∀ l, (SortListByLocation l).Perm l
  sorted : ∀ l, (SortListByLocation l).Pairwise fun lhs rhs =>
    ¬ rhs.data.m_location.OrdinalValue < lhs.data.m_location.OrdinalValue

variable {SortListByLocation : List ListedPacket → List ListedPacket}

/-- One of the two fields. -/
lemma writtenCompletely_iff {packets ps : List ListedPacket} {size : ℕ}
    (hperm : ps.Perm packets) (hr : ¬ FieldRefused size ps) :
    WrittenCompletely packets size (storesFrom 0 size ps) ↔ FieldFits size ps := by
  rw [← storesFrom_complete_iff 0 size ps hr, ← whole_iff, Nat.zero_add]
  have hmap := hperm.map fun pPkt => pPkt.generated.completeBytes
  exact ⟨fun h => ⟨h.whole.trans hmap.symm, h.inside, h.apart⟩,
    fun h => ⟨h.1.trans hmap, h.2.1, h.2.2⟩⟩

/-- **A success means that nothing is missing** exactly where a packet is refused, and there is
no success, or the packets fit the buffers that there are. -/
theorem losesNothing_iff (hsort : SortsByLocation SortListByLocation)
    (m_ancList : List ListedPacket) (F1Size F2Size : ULWord) (inIsProgressive : Bool)
    (inF2StartLine : ULWord) :
    LosesNothing SortListByLocation m_ancList F1Size F2Size inIsProgressive inF2StartLine ↔
      (FieldRefused F1Size.toNat
          (field1Packets inIsProgressive inF2StartLine (SortListByLocation m_ancList)) ∨
        FieldRefused F2Size.toNat
          (field2Packets inIsProgressive inF2StartLine (SortListByLocation m_ancList))) ∨
      (F1Size ≠ 0 → FieldFits F1Size.toNat
          (field1Packets inIsProgressive inF2StartLine (SortListByLocation m_ancList))) ∧
        (F2Size ≠ 0 → FieldFits F2Size.toNat
          (field2Packets inIsProgressive inF2StartLine (SortListByLocation m_ancList))) := by
  have hperm1 : (field1Packets inIsProgressive inF2StartLine (SortListByLocation m_ancList)).Perm
      (field1Packets inIsProgressive inF2StartLine m_ancList) := (hsort.perm m_ancList).filter _
  have hperm2 : (field2Packets inIsProgressive inF2StartLine (SortListByLocation m_ancList)).Perm
      (field2Packets inIsProgressive inF2StartLine m_ancList) := (hsort.perm m_ancList).filter _
  obtain ⟨hstatus, hstores⟩ := GetTransmitData_spec SortListByLocation m_ancList F1Size F2Size
    inIsProgressive inF2StartLine
  by_cases hok : (GetTransmitData SortListByLocation m_ancList F1Size F2Size inIsProgressive
      inF2StartLine).1 = AJA_STATUS_SUCCESS
  · obtain ⟨hr1, hr2⟩ := hstatus.1 hok
    obtain ⟨h1, h2⟩ := hstores hok
    rw [or_iff_right (not_or.2 ⟨hr1, hr2⟩), ← writtenCompletely_iff hperm1 hr1,
      ← writtenCompletely_iff hperm2 hr2, ← h1, ← h2]
    exact ⟨fun h => ⟨h.field1 hok, h.field2 hok⟩, fun h => ⟨fun _ => h.1, fun _ => h.2⟩⟩
  · refine iff_of_true ⟨fun h => absurd h hok, fun h => absurd h hok⟩ (.inl ?_)
    by_contra hnone
    exact hok (hstatus.2 (not_or.1 hnone))

/-- A merge sort by location. -/
def mergeSortByLocation (l : List ListedPacket) : List ListedPacket :=
  l.mergeSort fun lhs rhs =>
    decide (lhs.data.m_location.OrdinalValue ≤ rhs.data.m_location.OrdinalValue)

/-- It sorts by location. -/
lemma sortsByLocation_mergeSort : SortsByLocation mergeSortByLocation where
  perm l := List.mergeSort_perm l _
  sorted l := by
    have hsorted : (mergeSortByLocation l).Pairwise fun lhs rhs =>
        decide (lhs.data.m_location.OrdinalValue ≤ rhs.data.m_location.OrdinalValue) = true :=
      List.pairwise_mergeSort
      (fun a b c hab hbc => by simp only [decide_eq_true_eq] at *; omega)
      (fun a b => by simp only [Bool.or_eq_true, decide_eq_true_eq]; omega) l
    exact hsorted.imp fun h => by simpa using h

/-- A packet on a line, with a payload of zeroes. -/
def packetOnLine (m_coding : AJAAncDataCoding) (mLineNum : UWord) (payloadSize : ℕ) :
    ListedPacket :=
  ⟨{ AJAAncillaryData.Init with
      m_coding := m_coding
      m_location := { AJAAncillaryData.Init.m_location with mLineNum := mLineNum }
      m_payload := List.replicate payloadSize 0 },
    AJAAncillaryData.baseGeneratePayloadData⟩

/-- A digital and a split analog packet of the first field, and one of the second field. -/
def threePackets : List ListedPacket :=
  [packetOnLine AJAAncDataCoding_Digital 10 3, packetOnLine AJAAncDataCoding_Raw 20 300,
    packetOnLine AJAAncDataCoding_Digital 300 255]

/-- **Three packets** fill the buffer of the first field, and leave room in that of the second. -/
theorem losesNothing_threePackets :
    LosesNothing mergeSortByLocation threePackets 324 300 false 272 ∧
      (GetTransmitData mergeSortByLocation threePackets 324 300 false 272).1 =
        AJA_STATUS_SUCCESS := by
  have hsort : mergeSortByLocation threePackets = threePackets := by
    refine List.mergeSort_of_pairwise ?_
    rw [threePackets]
    decide
  refine ⟨(losesNothing_iff sortsByLocation_mergeSort _ _ _ _ _).2 (.inr ?_), ?_⟩ <;>
    simp only [GetTransmitData, hsort]
  · exact ⟨fun _ => ⟨by decide, by decide +kernel, by decide +kernel, .inr (by decide +kernel),
      by decide +kernel, by decide +kernel, by decide +kernel, .inl rfl, trivial⟩,
      fun _ => ⟨by decide, by decide +kernel, by decide +kernel, .inl rfl, trivial⟩⟩
  · decide +kernel

/-- A digital packet without a payload. -/
def emptyPacket : ListedPacket := ⟨AJAAncillaryData.Init, AJAAncillaryData.baseGeneratePayloadData⟩

lemma mergeSortByLocation_replicate (n : ℕ) (pPkt : ListedPacket) :
    mergeSortByLocation (List.replicate n pPkt) = List.replicate n pPkt :=
  List.perm_replicate.1 (sortsByLocation_mergeSort.perm _)

/-- The second of two packets is missing where the first uses up the buffer. -/
theorem not_losesNothing_bufferUsedUp :
    ¬ LosesNothing mergeSortByLocation [emptyPacket, emptyPacket] 7 0 true 0 := by
  have hsort : mergeSortByLocation [emptyPacket, emptyPacket] = [emptyPacket, emptyPacket] :=
    mergeSortByLocation_replicate 2 _
  intro h
  have hwhole := (h.field1 (by rw [GetTransmitData, hsort]; decide) (by decide)).whole.length_eq
  rw [GetTransmitData, hsort] at hwhole
  revert hwhole
  decide

end LibAjaNtv2
