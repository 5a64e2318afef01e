import LibAjaNtv2.Anc.Receive
import LibAjaNtv2.Anc.TransmitList

/-!
From the packets of a list to a buffer and back (`AJAAncillaryList::GetTransmitData`, then
`AJAAncillaryList::AddReceivedAncillaryData`).

* `InHeader`: what a header can say of a packet; `InHeader.location`: **it says it**;
* `wireBytes`, `init_wireBytes`: **a packet is read back from its bytes**;
* `receivePackets_wire`: packets one behind the other, and what stands behind them;
* `splitPayload`, `wirePackets`: an analog packet goes out in pieces;
  `receiveAll_wirePackets`: **they are put together again**;
* `AddReceivedAncillaryData_wire`: what is received of the packets of a buffer;
* `received_slack`: **what a few bytes too many cost**;
* `received_transmitted`: **the packets that are sent are the packets that are received**.
-/

namespace LibAjaNtv2

open AJAStatus AJAAncDataLink AJAAncDataStream AJAAncDataChannel AJAAncDataSpace AJAAncDataCoding

/-! ### Headers -/

/-- The upper four bits of a line number. -/
def lineNibble (l : UWord) : UByte := ((l >>> 7) &&& 0x0F).setWidth 8

lemma lineNibble_and (l : UWord) : lineNibble l &&& 0x0F = lineNibble l := by
  rw [lineNibble]
  ext i hi
  interval_cases i <;> simp

/-- The upper line bits stay out of the flags. -/
lemma flags_and {flags m : UByte} (l : UWord) (hm : (0x0F : UByte) &&& m = 0#8) :
    (flags ||| lineNibble l) &&& m = flags &&& m := by
  have hzero : m &&& lineNibble l = 0#8 := by
    rw [← lineNibble_and, BitVec.and_comm, BitVec.and_assoc, hm, BitVec.and_zero]
  rw [BitVec.and_comm, BitVec.and_or_distrib_left, hzero, BitVec.or_zero, BitVec.and_comm]

lemma flags_line {flags : UByte} (l : UWord) (hf : flags &&& (0x0F : UByte) = 0#8) :
    (flags ||| lineNibble l) &&& 0x0F = lineNibble l := by
  rw [BitVec.and_comm, BitVec.and_or_distrib_left, BitVec.and_comm _ flags, hf, BitVec.zero_or,
    BitVec.and_comm, lineNibble_and]

/-- The upper four bits, as a number. -/
lemma toNat_lineNibble (l : UWord) : (lineNibble l).toNat = l.toNat / 128 % 16 := by
  have h15 : (0x0F : UWord).toNat = 2 ^ 4 - 1 := rfl
  rw [lineNibble, BitVec.toNat_setWidth, BitVec.toNat_and, BitVec.toNat_ushiftRight,
    Nat.shiftRight_eq_div_pow, h15, Nat.and_two_pow_sub_one_eq_mod]
  omega

/-- The lower seven bits of a line number. -/
lemma toNat_lineLow (l : UWord) :
    (((l &&& 0x7F).setWidth 8 : UByte) &&& 0x7F).toNat = l.toNat % 128 := by
  have h127 : (0x7F : UWord).toNat = 2 ^ 7 - 1 := rfl
  have h127' : (0x7F : UByte).toNat = 2 ^ 7 - 1 := rfl
  rw [BitVec.toNat_and, BitVec.toNat_setWidth, BitVec.toNat_and, h127, h127',
    Nat.and_two_pow_sub_one_eq_mod, Nat.and_two_pow_sub_one_eq_mod]
  omega

/-- **A line number of eleven bits** is put together again. -/
lemma line_eq {l : UWord} (h : l.toNat < 2048) :
    ((lineNibble l).setWidth 16 <<< 7) +
      (((l &&& 0x7F).setWidth 8 : UByte) &&& 0x7F).setWidth 16 = l := by
  have h1 := toNat_lineNibble l
  have h2 := toNat_lineLow l
  refine BitVec.eq_of_toNat_eq ?_
  rw [BitVec.toNat_add, BitVec.toNat_shiftLeft, BitVec.toNat_setWidth, BitVec.toNat_setWidth, h1,
    h2, Nat.shiftLeft_eq]
  omega

/-- The flags of a header. -/
def headerFlags (pkt : AJAAncillaryData) : UByte :=
  let result : UByte := 0x80
  let result := if pkt.m_coding = AJAAncDataCoding_Raw then result ||| 0x40 else result
  let result := if pkt.m_location.mChannel = AJAAncDataChannel_Y then result ||| 0x20 else result
  if pkt.m_location.GetDataSpace = AJAAncDataSpace_HANC then result ||| 0x10 else result

lemma GetGUMPHeaderByte2_eq (pkt : AJAAncillaryData) :
    pkt.GetGUMPHeaderByte2 = headerFlags pkt ||| lineNibble pkt.m_location.mLineNum := rfl

/-- **Each flag** says one thing of the packet. -/
lemma headerFlags_spec (pkt : AJAAncillaryData) :
    headerFlags pkt &&& 0x80 ≠ 0 ∧ headerFlags pkt &&& (0x0F : UByte) = 0#8 ∧
      (headerFlags pkt &&& 0x40 = 0 ↔ pkt.m_coding ≠ AJAAncDataCoding_Raw) ∧
      (headerFlags pkt &&& 0x20 = 0 ↔ pkt.m_location.mChannel ≠ AJAAncDataChannel_Y) ∧
      (headerFlags pkt &&& 0x10 = 0 ↔
        pkt.m_location.GetDataSpace ≠ AJAAncDataSpace_HANC) := by
  rw [headerFlags]
  generalize pkt.m_coding = coding
  generalize pkt.m_location.mChannel = channel
  generalize pkt.m_location.GetDataSpace = space
  revert coding channel space
  intro coding channel space
  cases coding <;> cases channel <;> cases space <;> decide

/-- What a header can say of a packet. -/
structure InHeader (pkt : AJAAncillaryData) : Prop where
  coding : pkt.IsDigital ∨ pkt.IsRaw
  link : pkt.m_location.mLink = AJAAncDataLink_A
  stream : pkt.m_location.mStream = AJAAncDataStream_1
  channel : pkt.m_location.mChannel.IsValid
  space : pkt.m_location.mHorizOffset = AJAAncDataHorizOffset_AnyVanc ∨
    pkt.m_location.mHorizOffset = AJAAncDataHorizOffset_AnyHanc
  line : pkt.m_location.mLineNum.toNat < 2048

/-- **The header of a packet** says where it stands. -/
lemma InHeader.location {pkt : AJAAncillaryData} (h : InHeader pkt) :
    headerLocation defaultLoc pkt.GetGUMPHeaderByte2 pkt.GetGUMPHeaderByte3 = pkt.m_location := by
  obtain ⟨hset, hline, -, hchannel, hspace⟩ := headerFlags_spec pkt
  rw [GetGUMPHeaderByte2_eq, AJAAncillaryData.GetGUMPHeaderByte3, headerLocation,
    flags_and _ rfl, flags_and _ rfl, flags_and _ rfl, flags_line _ hline, if_pos hset,
    line_eq h.line]
  have hch : (if headerFlags pkt &&& 0x20 = 0 then AJAAncDataChannel_C
      else AJAAncDataChannel_Y) = pkt.m_location.mChannel := by
    have hvalid := h.channel
    rcases hc : pkt.m_location.mChannel with _ | _ | _
    · exact if_pos (hchannel.mpr (by rw [hc]; decide))
    · exact if_neg fun h0 => hchannel.mp h0 hc
    · exact absurd hc hvalid
  have hloc : pkt.m_location = ⟨AJAAncDataLink_A, AJAAncDataStream_1, pkt.m_location.mChannel,
      pkt.m_location.mLineNum, pkt.m_location.mHorizOffset⟩ := by
    rw [← h.link, ← h.stream]
  rw [hch]
  conv_rhs => rw [hloc]
  rcases h.space with hoffset | hoffset
  · have hvanc : pkt.m_location.GetDataSpace ≠ AJAAncDataSpace_HANC := by
      rw [AJAAncDataLoc.GetDataSpace, if_pos hoffset]
      decide
    rw [if_pos (hspace.mpr hvanc), hoffset]
    rfl
  · have hhanc : pkt.m_location.GetDataSpace = AJAAncDataSpace_HANC := by
      rw [AJAAncDataLoc.GetDataSpace, hoffset]
      rfl
    rw [if_neg fun h0 => hspace.mp h0 hhanc, hoffset]
    rfl

/-- **The header of a packet** says how it is coded. -/
lemma InHeader.headerCoding {pkt : AJAAncillaryData} (h : InHeader pkt) :
    headerCoding pkt.GetGUMPHeaderByte2 = pkt.m_coding := by
  obtain ⟨hset, -, hcoding, -, -⟩ := headerFlags_spec pkt
  rw [GetGUMPHeaderByte2_eq, LibAjaNtv2.headerCoding, flags_and _ rfl, flags_and _ rfl,
    if_pos hset]
  rcases h.coding with hdig | hraw
  · rw [AJAAncillaryData.IsDigital] at hdig
    rw [if_pos (hcoding.mpr (by rw [hdig]; decide)), hdig]
  · rw [AJAAncillaryData.IsRaw] at hraw
    rw [if_neg fun h0 => hcoding.mp h0 hraw, hraw]

/-! ### One packet in a buffer -/

/-- The bytes of a packet with its own checksum, as one packet of a buffer. -/
def wireBytes (pkt : AJAAncillaryData) : List UByte :=
  pkt.gumpHeader pkt.GetDC ++ pkt.m_payload ++ [pkt.m_checksum]

lemma length_wireBytes (pkt : AJAAncillaryData) : (wireBytes pkt).length = pkt.GetDC + 7 := by
  rw [wireBytes, List.length_append, List.length_append, AJAAncillaryData.length_gumpHeader,
    List.length_singleton, AJAAncillaryData.GetDC]
  omega

/-- **A packet is read back** from its bytes, whatever stands behind them. -/
lemma init_wireBytes {pkt : AJAAncillaryData} (h : InHeader pkt) (hdc : pkt.GetDC ≤ 255)
    {buffer rest : List UByte} {p : ℕ} (hbuffer : buffer.drop p = wireBytes pkt ++ rest)
    (maxBytes : ULWord) (hmax : pkt.GetDC + 7 ≤ maxBytes.toNat) :
    InitWithReceivedData (fun ndx => buffer[p + ndx]?) maxBytes defaultLoc =
      some (AJA_STATUS_SUCCESS, BitVec.ofNat 32 (pkt.GetDC + 7), pkt) := by
  have hcount : (BitVec.ofNat 8 pkt.GetDC).toNat = pkt.GetDC := by
    rw [BitVec.toNat_ofNat, Nat.mod_eq_of_lt (by omega)]
  have hsize : (BitVec.ofNat 8 pkt.GetDC).setWidth 32 + AJAAncillaryDataWrapperSize =
      BitVec.ofNat 32 (pkt.GetDC + 7) := by
    refine BitVec.eq_of_toNat_eq ?_
    rw [toNat_totalBytes, hcount, BitVec.toNat_ofNat, Nat.mod_eq_of_lt (by omega)]
  set bytes : ℕ → UByte := fun i => (wireBytes pkt ++ rest).getD i 0 with hbytesdef
  have h5 : bytes 5 = BitVec.ofNat 8 pkt.GetDC := rfl
  have hbytes : ∀ i < (bytes 5).toNat + 7, buffer[p + i]? = some (bytes i) := by
    intro i hi
    rw [h5, hcount] at hi
    have hlen : i < (wireBytes pkt ++ rest).length := by
      rw [List.length_append, length_wireBytes]
      omega
    rw [← List.getElem?_drop, hbuffer, List.getElem?_eq_getElem hlen, hbytesdef]
    simp only [List.getD_eq_getElem?_getD, List.getElem?_eq_getElem hlen, Option.getD_some]
  have hpacket : packetOf defaultLoc bytes = pkt := by
    have hchecksum : bytes (pkt.GetDC + 6) = pkt.m_checksum := by
      rw [hbytesdef, wireBytes]
      simp [AJAAncillaryData.gumpHeader, AJAAncillaryData.GetDC]
    have hpayload : ((List.range pkt.GetDC).map fun ndx => bytes (ndx + 6)) = pkt.m_payload := by
      refine List.ext_getElem (by simp [AJAAncillaryData.GetDC]) fun i hi _ => ?_
      have hlen : i < pkt.m_payload.length := by simpa [AJAAncillaryData.GetDC] using hi
      simp [hbytesdef, wireBytes, AJAAncillaryData.gumpHeader, List.getElem?_append_left hlen,
        List.getElem?_eq_getElem hlen]
    rw [packetOf, h5, hcount, hchecksum, hpayload]
    show AJAAncillaryData.mk pkt.m_DID pkt.m_SID pkt.m_checksum
      (headerLocation defaultLoc pkt.GetGUMPHeaderByte2 pkt.GetGUMPHeaderByte3)
      (LibAjaNtv2.headerCoding pkt.GetGUMPHeaderByte2) pkt.m_payload = pkt
    rw [h.location, h.headerCoding]
  have hinit := @init_packet (fun ndx => buffer[p + ndx]?) maxBytes defaultLoc bytes rfl hbytes
    (by rw [h5, hcount]; exact hmax)
  rw [hinit, h5, hsize, hpacket]

/-! ### Packets one behind the other -/

section Wire

variable (z : Bool) (map : UWord → AJAAncDataType)

/-- Packets that are received one behind the other. -/
def receiveAll (pkts : List AJAAncillaryData) (lists : ReceivedPackets) : ReceivedPackets :=
  pkts.foldl (fun lists pkt => (receiveStep z map pkt lists).2) lists

/-- What the bytes behind the last packet mean: too few of them are an error. -/
def endStatus (rest : List UByte) : AJAStatus :=
  if rest = [] ∨ 7 ≤ rest.length then AJA_STATUS_SUCCESS else AJA_STATUS_RANGE

/-- A packet that stands in a buffer, and for which there is a class. -/
structure OnWire (pkt : AJAAncillaryData) : Prop where
  header : InHeader pkt
  count : pkt.GetDC ≤ 255
  made : pkt.IsRaw → (pkt.Create (map pkt.m_location.mLineNum)).isSome

variable {z map}

lemma insertNew_status {lists : ReceivedPackets} {t : AJAAncDataType} {pkt : AJAAncillaryData}
    (h : (pkt.Create t).isSome) : (lists.insertNew z t pkt).1 = AJA_STATUS_SUCCESS := by
  obtain ⟨pData, hpData⟩ := Option.isSome_iff_exists.mp h
  rw [ReceivedPackets.insertNew, hpData]

/-- Every packet of a buffer is received. -/
lemma OnWire.status {pkt : AJAAncillaryData} (h : OnWire map pkt) (lists : ReceivedPackets) :
    (receiveStep z map pkt lists).1 = AJA_STATUS_SUCCESS := by
  rw [receiveStep]
  split
  · next hdig => exact insertNew_status (by rw [AJAAncillaryData.Create_Guess hdig]; rfl)
  split
  · next hraw =>
      split
      · rfl
      · exact insertNew_status (h.made hraw)
  · rfl

variable (z map) in
/-- **The loop over packets** that stand one behind the other from a position on: it receives
them all, and its status is that of what stands behind them. It ends early where the bytes behind
the first of several packets are a negative `int32_t`. -/
lemma receivePackets_wire {buffer rest : List UByte} (hlt : buffer.length < 2 ^ 32)
    (pkts : List AJAAncillaryData)
    (hrest : 7 ≤ rest.length → rest.head? = some 0xFF → pkts ≠ [] ∧ 2 ^ 31 ≤ rest.length) (p : ℕ)
    (lists : ReceivedPackets) (hpkts : ∀ pkt ∈ pkts, OnWire map pkt)
    (hmany : pkts.length ≤ 1 ∨
      buffer.length - p < 2 ^ 31 + ((pkts.take 1).flatMap wireBytes).length)
    (hbuffer : buffer.drop p = pkts.flatMap wireBytes ++ rest) (hne : buffer.drop p ≠ []) :
    receivePackets z map (fun i => buffer[i]?) p (BitVec.ofNat 32 (buffer.length - p)) lists =
      ⟨some (endStatus rest), receiveAll z map pkts lists⟩ := by
  induction pkts generalizing p lists with
  | nil =>
      have hlen : buffer.length - p = rest.length := by
        have := congrArg List.length hbuffer
        simpa using this
      have hcount : (BitVec.ofNat 32 (buffer.length - p)).toNat = rest.length := by
        rw [hlen, BitVec.toNat_ofNat, Nat.mod_eq_of_lt (by omega)]
      have hrestne : rest ≠ [] := by
        rintro rfl
        exact hne hbuffer
      rcases Nat.lt_or_ge rest.length 7 with hshort | hlong
      · rw [receivePackets_round (init_short (by rw [hcount]; exact hshort)),
          if_neg fun h => AJAStatus.noConfusion h.1]
        rw [endStatus, if_neg (not_or.mpr ⟨hrestne, by omega⟩)]
        rfl
      · obtain ⟨b, bs, rfl⟩ := List.exists_cons_of_ne_nil hrestne
        have h0 : buffer[p + 0]? = some b := by
          rw [← List.getElem?_drop, hbuffer]
          rfl
        have hb : b ≠ 0xFF := fun h => (hrest hlong (by rw [h]; rfl)).1 rfl
        rw [receivePackets_round (init_noData (by rw [hcount]; exact hlong) h0 hb),
          if_neg fun h => h.2 rfl]
        rw [endStatus, if_pos (.inr hlong)]
        rfl
  | cons pkt pkts ih =>
      obtain ⟨hpkt, hpkts⟩ := List.forall_mem_cons.mp hpkts
      rw [List.flatMap_cons, List.append_assoc] at hbuffer
      have hcount := hpkt.count
      have hlen : buffer.length - p = pkt.GetDC + 7 + (pkts.flatMap wireBytes ++ rest).length := by
        rw [← List.length_drop, hbuffer, List.length_append, length_wireBytes]
      have hsize : (BitVec.ofNat 32 (pkt.GetDC + 7)).toNat = pkt.GetDC + 7 := by
        rw [BitVec.toNat_ofNat, Nat.mod_eq_of_lt (by omega)]
      have hall : (BitVec.ofNat 32 (buffer.length - p)).toNat = buffer.length - p := by
        rw [BitVec.toNat_ofNat, Nat.mod_eq_of_lt (by omega)]
      have hsizene : BitVec.ofNat 32 (pkt.GetDC + 7) ≠ 0 := by
        intro h0
        rw [h0] at hsize
        exact absurd hsize (by simp)
      have hinit := init_wireBytes hpkt.header hcount hbuffer
        (BitVec.ofNat 32 (buffer.length - p)) (by rw [hall]; omega)
      have hsub : BitVec.ofNat 32 (buffer.length - p) - BitVec.ofNat 32 (pkt.GetDC + 7) =
          BitVec.ofNat 32 (buffer.length - (p + (pkt.GetDC + 7))) := by
        refine BitVec.eq_of_toNat_eq ?_
        rw [BitVec.toNat_sub_of_le (BitVec.le_def.mpr (by rw [hall, hsize]; omega)), hall, hsize,
          BitVec.toNat_ofNat, Nat.mod_eq_of_lt (by omega)]
        omega
      have hleft : (BitVec.ofNat 32 (buffer.length - (p + (pkt.GetDC + 7)))).toNat =
          buffer.length - (p + (pkt.GetDC + 7)) := by
        rw [BitVec.toNat_ofNat, Nat.mod_eq_of_lt (by omega)]
      have hdrop : buffer.drop (p + (pkt.GetDC + 7)) = pkts.flatMap wireBytes ++ rest := by
        rw [← List.drop_drop, hbuffer, ← length_wireBytes, List.drop_left]
      rw [receivePackets_round hinit, if_pos ⟨rfl, hsizene⟩, hsub, BitVec.toInt_eq_toNat_cond, hleft]
      by_cases hmore : pkts.flatMap wireBytes ++ rest = []
      · -- nothing stands behind the last packet
        obtain ⟨hnone, rfl⟩ := List.append_eq_nil_iff.mp hmore
        have hpkts : pkts = [] := by
          cases pkts with
          | nil => rfl
          | cons pkt' pkts' =>
              have := congrArg List.length hnone
              rw [List.flatMap_cons, List.length_append, length_wireBytes] at this
              simp at this
        subst hpkts
        rw [hmore] at hlen
        rw [List.length_nil] at hlen
        rw [if_neg (by omega), hpkt.status]
        rfl
      · have hpos := List.length_pos_of_ne_nil hmore
        by_cases hlarge : 2 ^ 31 ≤ buffer.length - (p + (pkt.GetDC + 7))
        · -- a single packet, and a negative number of bytes behind it
          have hone : pkts = [] := by
            refine List.eq_nil_of_length_eq_zero (Nat.le_zero.mp (Nat.le_of_succ_le_succ ?_))
            refine hmany.resolve_right fun hlt => ?_
            rw [List.take_succ_cons, List.take_zero, List.flatMap_cons, List.flatMap_nil,
              List.append_nil, length_wireBytes] at hlt
            omega
          subst hone
          rw [List.flatMap_nil, List.nil_append] at hlen
          rw [if_neg (by omega), hpkt.status, endStatus, if_pos (.inr (by omega))]
          rfl
        · have hend : rest.length ≤ (pkts.flatMap wireBytes ++ rest).length := by
            rw [List.length_append]
            exact Nat.le_add_left _ _
          rw [if_pos (by omega), hsize, ih (fun hlong h => absurd (hrest hlong h).2 (by omega)) _ _
            hpkts (.inr (by omega)) hdrop (by rw [hdrop]; exact hmore)]
          rfl

end Wire

/-! ### The pieces of an analog packet -/

/-- A payload in pieces of 255 bytes. -/
def splitPayload : ℕ → List UByte → List (List UByte)
  | 0, _ => []
  | n + 1, payload => payload.take 255 :: splitPayload n (payload.drop 255)

/-- The pieces together are the payload. -/
lemma flatten_splitPayload (n : ℕ) (payload : List UByte) (h : payload.length ≤ 255 * n) :
    (splitPayload n payload).flatten = payload := by
  induction n generalizing payload with
  | zero => exact (List.eq_nil_of_length_eq_zero (by omega)).symm
  | succ n ih =>
      have hdrop : (payload.drop 255).length ≤ 255 * n := by
        rw [List.length_drop]
        omega
      rw [splitPayload, List.flatten_cons, ih _ hdrop, List.take_append_drop]

/-- No piece is too long for a packet. -/
lemma length_of_mem_splitPayload {n : ℕ} {payload piece : List UByte}
    (h : piece ∈ splitPayload n payload) : piece.length ≤ 255 := by
  induction n generalizing payload with
  | zero => cases h
  | succ n ih =>
      rcases List.mem_cons.mp h with rfl | h
      · exact List.length_take_le _ _
      · exact ih h

/-- The loop of the sender stores the pieces. -/
lemma rawPackets_eq (pkt : AJAAncillaryData) (n : ℕ) (payload : List UByte) :
    pkt.rawPackets n payload.length payload =
      (splitPayload n payload).flatMap fun piece => wireBytes { pkt with m_payload := piece } := by
  induction n generalizing payload with
  | zero => rfl
  | succ n ih =>
      have hsize : (if 255 < payload.length then 255 else payload.length) =
          (payload.take 255).length := by
        rw [List.length_take]
        split <;> omega
      have htake : payload.take (payload.take 255).length = payload.take 255 := by
        rw [List.length_take, List.take_eq_take_iff]
        omega
      have hdrop : payload.drop (payload.take 255).length = payload.drop 255 := by
        rw [List.length_take]
        rcases Nat.le_total 255 payload.length with hle | hle
        · rw [Nat.min_eq_left hle]
        · rw [Nat.min_eq_right hle, List.drop_length, List.drop_eq_nil_of_le hle]
      have hrest : payload.length - (payload.take 255).length = (payload.drop 255).length := by
        rw [List.length_take, List.length_drop]
        omega
      rw [AJAAncillaryData.rawPackets, splitPayload, List.flatMap_cons, hsize, htake, hdrop, hrest,
        ih]
      rfl

/-- A packet as it goes out: a digital one with the checksum that is calculated. -/
def asSent (pkt : AJAAncillaryData) : AJAAncillaryData :=
  if pkt.IsDigital then { pkt with m_checksum := pkt.Calculate8BitChecksum } else pkt

/-- The packets of a buffer that a packet goes out in. -/
def wirePackets (pkt : AJAAncillaryData) : List AJAAncillaryData :=
  if pkt.IsDigital then [asSent pkt]
  else (splitPayload ((pkt.GetDC + 254) / 255) pkt.m_payload).map fun piece =>
    { pkt with m_payload := piece }

/-- All bytes of a packet are those of the packets that it goes out in. -/
lemma completeBytes_eq (pkt : AJAAncillaryData) :
    pkt.completeBytes = (wirePackets pkt).flatMap wireBytes := by
  rw [AJAAncillaryData.completeBytes, wirePackets]
  by_cases hdig : pkt.IsDigital
  · rw [if_pos hdig, if_pos hdig, List.flatMap_cons, List.flatMap_nil, List.append_nil, asSent,
      if_pos hdig]
    rfl
  · rw [if_neg hdig, if_neg hdig, List.flatMap_map]
    exact rawPackets_eq pkt _ _

/-! ### Putting the pieces together -/

/-- A packet on the list that it belongs to. -/
def ReceivedPackets.add (lists : ReceivedPackets) (pkt : AJAAncillaryData) : ReceivedPackets :=
  if pkt.IsRaw then { lists with rawPkts := lists.rawPkts ++ [pkt] }
  else { lists with m_ancList := lists.m_ancList ++ [pkt] }

/-- No analog packet of the location has been put aside. -/
def Fresh (pkt : AJAAncillaryData) (rawPkts : List AJAAncillaryData) : Prop :=
  ∀ pRaw ∈ rawPkts, pRaw.m_location.OrdinalValue ≠ pkt.m_location.OrdinalValue

/-- A fresh packet continues none. -/
lemma continuePacket_fresh {pkt : AJAAncillaryData} {rawPkts : List AJAAncillaryData}
    (h : Fresh pkt rawPkts) : continuePacket pkt rawPkts = none := by
  induction rawPkts with
  | nil => rfl
  | cons pRaw rest ih =>
      obtain ⟨hne, hrest⟩ := List.forall_mem_cons.mp h
      rw [continuePacket, if_neg hne, ih hrest]
      rfl

/-- A packet continues the one that was put aside last. -/
lemma continuePacket_last {pkt pRaw : AJAAncillaryData} {rawPkts : List AJAAncillaryData}
    (h : Fresh pkt rawPkts) (hloc : pRaw.m_location = pkt.m_location) :
    continuePacket pkt (rawPkts ++ [pRaw]) = some (rawPkts ++ [pRaw.AppendPayload pkt]) := by
  induction rawPkts with
  | nil => exact if_pos (by rw [hloc])
  | cons pRaw' rest ih =>
      obtain ⟨hne, hrest⟩ := List.forall_mem_cons.mp h
      rw [List.cons_append, continuePacket, if_neg hne, ih hrest]
      rfl

lemma Create_withPayload (pkt : AJAAncillaryData) (payload : List UByte) (t : AJAAncDataType) :
    ({ pkt with m_payload := payload } : AJAAncillaryData).Create t =
      (pkt.Create t).map fun pData => { pData with m_payload := payload } := by
  cases t <;> rfl

section Pieces

variable {z : Bool} {map : UWord → AJAAncDataType}

/-- A packet that comes back as it is sent: a header can say where it stands, it has a payload or
those without are listed too, a digital one fits a packet, and the class of the line takes over
the data of an analog one. -/
structure ComesBack (z : Bool) (map : UWord → AJAAncDataType) (pkt : AJAAncillaryData) :
    Prop where
  header : InHeader pkt
  counted : z = true ∨ pkt.GetDC ≠ 0
  fits : pkt.IsDigital → pkt.GetDC ≤ 255
  kept : pkt.IsRaw → pkt.GetDC ≠ 0 ∧ pkt.Create (map pkt.m_location.mLineNum) = some pkt

lemma not_isDigital_of_isRaw {pkt : AJAAncillaryData} (h : pkt.IsRaw) : ¬ pkt.IsDigital := by
  rw [AJAAncillaryData.IsRaw] at h
  rw [AJAAncillaryData.IsDigital, h]
  decide

/-- The packets that it goes out in can stand in a buffer. -/
lemma ComesBack.onWire {pkt : AJAAncillaryData} (h : ComesBack z map pkt) :
    ∀ w ∈ wirePackets pkt, OnWire map w := by
  intro w hw
  rw [wirePackets] at hw
  split at hw
  · next hdig =>
      rw [List.mem_singleton] at hw
      subst hw
      rw [asSent, if_pos hdig]
      exact ⟨⟨h.header.coding, h.header.link, h.header.stream, h.header.channel, h.header.space,
        h.header.line⟩, h.fits hdig, fun hraw => absurd hdig (not_isDigital_of_isRaw hraw)⟩
  · obtain ⟨piece, hpiece, rfl⟩ := List.mem_map.mp hw
    refine ⟨⟨h.header.coding, h.header.link, h.header.stream, h.header.channel, h.header.space,
      h.header.line⟩, length_of_mem_splitPayload hpiece, fun hraw => ?_⟩
    rw [Create_withPayload, (h.kept hraw).2]
    rfl

/-- A digital packet goes onto the list. -/
lemma receiveStep_digital {pkt : AJAAncillaryData} (hdig : pkt.IsDigital)
    (hcounted : z = true ∨ pkt.GetDC ≠ 0) (lists : ReceivedPackets) :
    (receiveStep z map pkt lists).2 = lists.add pkt := by
  rw [receiveStep, if_pos hdig, ReceivedPackets.insertNew, AJAAncillaryData.Create_Guess hdig]
  exact if_pos hcounted

/-- The first piece of an analog packet is put aside. -/
lemma receiveStep_piece {pkt : AJAAncillaryData} (hraw : pkt.IsRaw)
    (hcreate : pkt.Create (map pkt.m_location.mLineNum) = some pkt) {piece : List UByte}
    (hpiece : piece ≠ []) {lists : ReceivedPackets} (hfresh : Fresh pkt lists.rawPkts) :
    (receiveStep z map { pkt with m_payload := piece } lists).2 =
      lists.add { pkt with m_payload := piece } := by
  have hdig : ¬ ({ pkt with m_payload := piece } : AJAAncillaryData).IsDigital :=
    not_isDigital_of_isRaw hraw
  have hraw' : ({ pkt with m_payload := piece } : AJAAncillaryData).IsRaw := hraw
  have hnone : continuePacket { pkt with m_payload := piece } lists.rawPkts = none :=
    continuePacket_fresh hfresh
  rw [receiveStep, if_neg hdig, if_pos hraw', hnone, ReceivedPackets.insertNew,
    Create_withPayload, hcreate]
  exact if_pos (.inr fun h0 => hpiece (List.eq_nil_of_length_eq_zero h0))

variable (z map) in
/-- The other pieces continue it. -/
lemma receiveAll_pieces {pkt : AJAAncillaryData} (hraw : pkt.IsRaw) (pieces : List (List UByte))
    (payload : List UByte) {lists : ReceivedPackets} (hfresh : Fresh pkt lists.rawPkts) :
    receiveAll z map (pieces.map fun piece => { pkt with m_payload := piece })
        (lists.add { pkt with m_payload := payload }) =
      lists.add { pkt with m_payload := payload ++ pieces.flatten } := by
  induction pieces generalizing payload with
  | nil => rw [List.flatten_nil, List.append_nil]; rfl
  | cons piece pieces ih =>
      have hdig : ¬ ({ pkt with m_payload := piece } : AJAAncillaryData).IsDigital :=
        not_isDigital_of_isRaw hraw
      have hraw' : ({ pkt with m_payload := piece } : AJAAncillaryData).IsRaw := hraw
      have hadd : ∀ payload, lists.add { pkt with m_payload := payload } =
          ⟨lists.rawPkts ++ [{ pkt with m_payload := payload }], lists.m_ancList⟩ :=
        fun payload => if_pos hraw
      have hcont : continuePacket { pkt with m_payload := piece }
          (lists.rawPkts ++ [{ pkt with m_payload := payload }]) =
          some (lists.rawPkts ++ [{ pkt with m_payload := payload ++ piece }]) :=
        continuePacket_last hfresh rfl
      have hstep : (receiveStep z map { pkt with m_payload := piece }
          (lists.add { pkt with m_payload := payload })).2 =
          lists.add { pkt with m_payload := payload ++ piece } := by
        rw [receiveStep, if_neg hdig, if_pos hraw', hadd, hadd, hcont]
      rw [List.map_cons, receiveAll, List.foldl_cons, hstep, List.flatten_cons,
        ← List.append_assoc]
      exact ih (payload ++ piece)

/-- **What a packet goes out in** is the packet again when it is received. -/
lemma receiveAll_wirePackets {pkt : AJAAncillaryData} (h : ComesBack z map pkt)
    {lists : ReceivedPackets} (hfresh : pkt.IsRaw → Fresh pkt lists.rawPkts) :
    receiveAll z map (wirePackets pkt) lists = lists.add (asSent pkt) := by
  rcases h.header.coding with hdig | hraw
  · have hsent : (asSent pkt).IsDigital ∧ (asSent pkt).GetDC = pkt.GetDC := by
      rw [asSent, if_pos hdig]
      exact ⟨hdig, rfl⟩
    rw [wirePackets, if_pos hdig]
    exact receiveStep_digital hsent.1 (by rw [hsent.2]; exact h.counted) lists
  · obtain ⟨hne, hcreate⟩ := h.kept hraw
    have hpieces : (pkt.GetDC + 254) / 255 = (pkt.GetDC + 254) / 255 - 1 + 1 := by omega
    have hflat := flatten_splitPayload ((pkt.GetDC + 254) / 255) pkt.m_payload (by
      rw [← AJAAncillaryData.GetDC]
      omega)
    have hfirst : pkt.m_payload.take 255 ≠ [] := by
      intro h0
      have := congrArg List.length h0
      rw [List.length_take, ← AJAAncillaryData.GetDC] at this
      simp only [List.length_nil] at this
      omega
    rw [hpieces, splitPayload, List.flatten_cons] at hflat
    rw [wirePackets, if_neg (not_isDigital_of_isRaw hraw), hpieces, splitPayload, List.map_cons,
      receiveAll, List.foldl_cons, receiveStep_piece hraw hcreate hfirst (hfresh hraw),
      asSent, if_neg (not_isDigital_of_isRaw hraw)]
    have hrest := receiveAll_pieces z map hraw
      (splitPayload ((pkt.GetDC + 254) / 255 - 1) (pkt.m_payload.drop 255))
      (pkt.m_payload.take 255) (hfresh hraw)
    rw [hflat] at hrest
    exact hrest

/-- No two analog packets have one location. -/
def RawApart (pkts : List AJAAncillaryData) : Prop :=
  pkts.Pairwise fun pkt pkt' =>
    pkt.IsRaw → pkt'.IsRaw → pkt.m_location.OrdinalValue ≠ pkt'.m_location.OrdinalValue

/-- What is sent is coded as the packet is, and has its location. -/
lemma asSent_spec (pkt : AJAAncillaryData) :
    (asSent pkt).m_coding = pkt.m_coding ∧ (asSent pkt).m_location = pkt.m_location := by
  rw [asSent]
  split <;> exact ⟨rfl, rfl⟩

/-- Packets on the lists that they belong to. -/
lemma foldl_add (pkts : List AJAAncillaryData) (lists : ReceivedPackets) :
    pkts.foldl ReceivedPackets.add lists =
      ⟨lists.rawPkts ++ pkts.filter (·.IsRaw), lists.m_ancList ++ pkts.filter (¬ ·.IsRaw)⟩ := by
  induction pkts generalizing lists with
  | nil => simp
  | cons pkt pkts ih =>
      rw [List.foldl_cons, ih, ReceivedPackets.add]
      by_cases hraw : pkt.IsRaw
      · simp [hraw]
      · simp [hraw]

/-- **The packets of a buffer** come back, each on the list that it belongs to. -/
lemma receiveAll_packets (pkts : List AJAAncillaryData) (lists : ReceivedPackets)
    (hback : ∀ pkt ∈ pkts, ComesBack z map pkt) (hapart : RawApart pkts)
    (hfresh : ∀ pkt ∈ pkts, pkt.IsRaw → Fresh pkt lists.rawPkts) :
    receiveAll z map (pkts.flatMap wirePackets) lists =
      (pkts.map asSent).foldl ReceivedPackets.add lists := by
  induction pkts generalizing lists with
  | nil => rfl
  | cons pkt pkts ih =>
      obtain ⟨hpkt, hback⟩ := List.forall_mem_cons.mp hback
      obtain ⟨hfirst, hapart⟩ := List.pairwise_cons.mp hapart
      obtain ⟨hnew, hfresh⟩ := List.forall_mem_cons.mp hfresh
      have hhere := receiveAll_wirePackets hpkt hnew
      have hnext : ∀ pkt' ∈ pkts, pkt'.IsRaw → Fresh pkt' (lists.add (asSent pkt)).rawPkts := by
        intro pkt' hmem hraw'
        obtain ⟨hcoding, hloc⟩ := asSent_spec pkt
        rw [ReceivedPackets.add]
        split
        · next hraw =>
            rw [AJAAncillaryData.IsRaw, hcoding] at hraw
            intro pRaw hpRaw
            rcases List.mem_append.mp hpRaw with hpRaw | hpRaw
            · exact hfresh pkt' hmem hraw' pRaw hpRaw
            · rw [List.mem_singleton.mp hpRaw, hloc]
              exact hfirst pkt' hmem hraw hraw'
        · exact hfresh pkt' hmem hraw'
      have hrest := ih _ hback hapart hnext
      rw [List.map_cons, List.foldl_cons, ← hrest, ← hhere, List.flatMap_cons]
      exact List.foldl_append

/-- **What is received of the packets of a buffer**, and of what stands behind them. -/
lemma AddReceivedAncillaryData_wire
    (SortListByLocation : List AJAAncillaryData → List AJAAncillaryData)
    {pkts : List AJAAncillaryData} (hback : ∀ pkt ∈ pkts, ComesBack z map pkt)
    (hapart : RawApart pkts) {buffer rest : List UByte}
    (hbuffer : buffer = pkts.flatMap AJAAncillaryData.completeBytes ++ rest)
    (hne : buffer ≠ []) (hlt : buffer.length < 2 ^ 31)
    (hrest : 7 ≤ rest.length → rest.head? ≠ some 0xFF) (m_ancList : List AJAAncillaryData) :
    AddReceivedAncillaryData z map SortListByLocation buffer m_ancList =
      let rawPkts := (pkts.map asSent).filter (·.IsRaw)
      let digital := m_ancList ++ (pkts.map asSent).filter (¬ ·.IsRaw)
      (some (endStatus rest),
        if rawPkts = [] then digital
        else if endStatus rest = AJA_STATUS_SUCCESS then
          SortListByLocation (digital ++ rawPkts.reverse)
        else digital) := by
  have hwire : buffer.drop 0 = (pkts.flatMap wirePackets).flatMap wireBytes ++ rest := by
    have hsame : pkts.flatMap AJAAncillaryData.completeBytes =
        pkts.flatMap fun pkt => (wirePackets pkt).flatMap wireBytes :=
      List.flatMap_congr fun pkt _ => completeBytes_eq pkt
    rw [List.drop_zero, hbuffer, hsame, List.flatMap_assoc]
  have hloop := receivePackets_wire z map (by omega) (pkts.flatMap wirePackets)
    (fun hlong h => absurd h (hrest hlong)) 0 ⟨[], m_ancList⟩ (fun w hw => by
      obtain ⟨pkt, hpkt, hw⟩ := List.mem_flatMap.mp hw
      exact (hback pkt hpkt).onWire w hw) (.inr (by omega)) hwire (by rw [List.drop_zero]; exact hne)
  have hall := receiveAll_packets pkts ⟨[], m_ancList⟩ hback hapart
    fun pkt _ _ pRaw hpRaw => absurd hpRaw List.not_mem_nil
  rw [hall, foldl_add, List.nil_append, Nat.sub_zero] at hloop
  rw [AddReceivedAncillaryData, if_neg hne, hloop]
  dsimp only
  split
  · rfl
  · by_cases hok : endStatus rest = AJA_STATUS_SUCCESS
    · rw [if_pos (congrArg some hok), if_pos hok]
    · rw [if_neg fun h => hok (Option.some.inj h), if_neg hok]

/-- **A buffer with one to six bytes behind its last packet** is refused whatever these bytes are:
the digital packets are on the list by then, and every analog one is lost. -/
theorem received_slack (SortListByLocation : List AJAAncillaryData → List AJAAncillaryData)
    {pkts : List AJAAncillaryData} (hback : ∀ pkt ∈ pkts, ComesBack z map pkt)
    (hapart : RawApart pkts) {rest : List UByte} (hrest : rest ≠ [] ∧ rest.length < 7)
    (hlt : (pkts.flatMap AJAAncillaryData.completeBytes ++ rest).length < 2 ^ 31)
    (m_ancList : List AJAAncillaryData) :
    AddReceivedAncillaryData z map SortListByLocation
        (pkts.flatMap AJAAncillaryData.completeBytes ++ rest) m_ancList =
      (some AJA_STATUS_RANGE, m_ancList ++ (pkts.map asSent).filter (¬ ·.IsRaw)) := by
  have hstatus : endStatus rest = AJA_STATUS_RANGE :=
    if_neg (not_or.mpr ⟨hrest.1, Nat.not_le.mpr hrest.2⟩)
  have hne : pkts.flatMap AJAAncillaryData.completeBytes ++ rest ≠ [] :=
    fun h => hrest.1 (List.append_eq_nil_iff.mp h).2
  rw [AddReceivedAncillaryData_wire SortListByLocation hback hapart rfl hne hlt
    (fun hlong => absurd hlong (Nat.not_le.mpr hrest.2)) m_ancList, hstatus]
  refine Prod.ext rfl ?_
  show (if _ then _ else _ : List AJAAncillaryData) = _
  split
  · rfl
  · exact if_neg (by decide)

end Pieces

/-! ### The buffer of a field -/

/-- All bytes of the packets of a field. -/
def fieldBytes (ps : List ListedPacket) : List UByte :=
  ps.flatMap fun pPkt => pPkt.generated.completeBytes

/-- The size that is counted for a packet is not above that of its bytes. -/
lemma size_le_completeSize {pPkt : ListedPacket} (h : ¬ pPkt.generated.Overflows) :
    pPkt.size ≤ pPkt.generated.completeSize := by
  rw [ListedPacket.size]
  rw [AJAAncillaryData.Overflows] at h
  by_cases hdig : pPkt.generated.IsDigital
  · rw [if_pos hdig] at h
    rw [AJAAncillaryData.GetRawPacketSize, if_pos hdig, AJAAncillaryData.completeSize, if_pos hdig]
    have hdc := pPkt.generated.toNat_GetDC32
    have hle : pPkt.generated.GetDC32 ≤ 255 := by
      rw [BitVec.le_def, hdc]
      exact (Nat.mod_le _ _).trans (Nat.not_lt.mp h)
    simp only [if_pos hle]
    rw [BitVec.toNat_add, ancillaryDataWrapperSize_toNat]
    omega
  · rw [if_neg hdig] at h
    by_cases hraw : pPkt.generated.IsRaw
    · have hdc := pPkt.generated.toNat_GetDC32
      by_cases h0 : pPkt.generated.GetDC32.toNat = 0
      · rw [pPkt.generated.size_of_isRaw_of_eq_zero hraw h0]
        exact Nat.zero_le _
      · have hsize := (pPkt.generated.stored_and_size hraw h0 (by omega)).2
        rw [hsize, AJAAncillaryData.completeSize, if_neg hdig]
        refine (Nat.mod_le _ _).trans ?_
        rw [hdc, Nat.mod_eq_of_lt (by omega)]
        exact Nat.sub_le _ _
    · rw [AJAAncillaryData.GetRawPacketSize, if_neg hdig, if_neg hraw]
      exact Nat.zero_le _

/-- A store, seen from where it begins. -/
lemma drop_store_self {b out : Block UByte} {d : ℕ} {data : List UByte}
    (h : b.store d data = some out) :
    out.cells.drop d = data ++ b.cells.drop (d + data.length) := by
  rw [← List.take_append_drop data.length (out.cells.drop d), Block.slice_store_self h,
    List.drop_drop, Block.drop_store h (Nat.le_refl _)]

/-- **The packets of a field that fits** stand one behind the other, and the cells around them
are as they were. -/
lemma foldlM_storesFrom (ps : List ListedPacket) (b : Block UByte) (start n : ℕ)
    (hfits : FieldFits n ps) (hroom : start + n ≤ b.cells.length) :
    ∃ out, (storesFrom start n ps).foldlM (fun (b : Block UByte) st => b.store st.1 st.2) b =
        some out ∧
      out.cells.take start = b.cells.take start ∧
      out.cells.drop start = fieldBytes ps ++ b.cells.drop (start + (fieldBytes ps).length) := by
  induction ps generalizing b start n with
  | nil => exact ⟨b, rfl, rfl, by simp [fieldBytes]⟩
  | cons pPkt ps ih =>
      obtain ⟨h0, hover, hcomplete, hnext, hfits⟩ := hfits
      have hbytes := pPkt.generated.transmitBytes_eq hover
      have hlen := pPkt.generated.length_completeBytes
      obtain ⟨b', hb'⟩ : ∃ b', b.store start pPkt.generated.completeBytes = some b' :=
        Block.exists_store (by rw [hlen]; omega)
      have hlength : b'.cells.length = b.cells.length := Block.length_move hb'
      have htake : b'.cells.take start = b.cells.take start := by
        have := Block.slice_store_of_le (m := 0) (k := start) hb' (by omega)
        simpa using this
      have hall : fieldBytes (pPkt :: ps) = pPkt.generated.completeBytes ++ fieldBytes ps :=
        List.flatMap_cons
      rw [storesFrom, if_neg h0, List.foldlM_cons, hbytes, hb']
      rcases hnext with rfl | hsize
      · refine ⟨b', rfl, htake, ?_⟩
        rw [drop_store_self hb', hall]
        simp [fieldBytes]
      · -- the size counts all bytes: the next packet goes right behind them
        have heq : pPkt.size = pPkt.generated.completeBytes.length := by
          have := size_le_completeSize hover
          omega
        obtain ⟨out, hout, hkeep, hrest⟩ := ih b' (start + pPkt.size) (n - pPkt.size) hfits
          (by omega)
        refine ⟨out, hout, ?_, ?_⟩
        · have := congrArg (List.take start) hkeep
          rw [List.take_take, List.take_take, Nat.min_eq_left (Nat.le_add_right _ _)] at this
          rw [this, htake]
        · have hhere : (out.cells.drop start).take pPkt.size =
              (b'.cells.drop start).take pPkt.size := by
            rw [List.take_drop, List.take_drop, hkeep]
          have hbehind : b'.cells.drop (start + pPkt.size + (fieldBytes ps).length) =
              b.cells.drop (start + pPkt.size + (fieldBytes ps).length) :=
            Block.drop_store hb' (by rw [heq]; omega)
          rw [← List.take_append_drop pPkt.size (out.cells.drop start), hhere, List.drop_drop,
            hrest, hbehind, drop_store_self hb', heq, List.take_left, hall, List.append_assoc,
            List.length_append, Nat.add_assoc]

/-- What stands behind the packets of a field: nothing, or room for one more packet where the fill
has put a zero. -/
def EndsClean (size total : ℕ) : Prop :=
  total = size ∨ (total + 7 ≤ size ∧ total < 8 * (size / 8))

instance (size total : ℕ) : Decidable (EndsClean size total) :=
  inferInstanceAs (Decidable (_ ∨ _ ∧ _))

/-- A field whose packets come through a buffer: they fit it, each of them comes back, no two
analog ones have one location, and the receiver finds the end. -/
structure ComesThrough (z : Bool) (map : UWord → AJAAncDataType) (ps : List ListedPacket)
    (size : ℕ) : Prop where
  small : size < 2 ^ 31
  fits : FieldFits size ps
  back : ∀ pPkt ∈ ps, ComesBack z map pPkt.generated
  apart : RawApart (ps.map ListedPacket.generated)
  clean : EndsClean size (fieldBytes ps).length

section Field

variable {z : Bool} {map : UWord → AJAAncDataType}

lemma EndsClean.le {size total : ℕ} (h : EndsClean size total) : total ≤ size := by
  rcases h with h | h <;> omega

/-- The end of the packets is found. -/
lemma EndsClean.rest {buffer : List UByte} {total : ℕ} (h : EndsClean buffer.length total) :
    let rest := (List.replicate (8 * (buffer.length / 8)) 0 ++
      buffer.drop (8 * (buffer.length / 8))).drop total
    endStatus rest = AJA_STATUS_SUCCESS ∧ (7 ≤ rest.length → rest.head? ≠ some 0xFF) := by
  intro rest
  have hlen : rest.length = buffer.length - total := by
    simp only [rest, List.length_drop, List.length_append, List.length_replicate]
    omega
  rcases h with h | ⟨hroom, hzero⟩
  · have hnil : rest = [] := List.eq_nil_of_length_eq_zero (by omega)
    rw [hnil]
    exact ⟨rfl, fun h => absurd h (by decide)⟩
  · refine ⟨if_pos (.inr (by omega)), fun _ => ?_⟩
    have hhead : rest.head? = some 0 := by
      rw [List.head?_drop, List.getElem?_append_left (by rw [List.length_replicate]; exact hzero),
        List.getElem?_replicate, if_pos hzero]
    rw [hhead]
    decide

/-- **The packets of a field** are received from its buffer. -/
lemma ComesThrough.received {ps : List ListedPacket} {buffer : List UByte}
    (h : ComesThrough z map ps buffer.length)
    {SortListByLocation : List AJAAncillaryData → List AJAAncillaryData}
    (hsort : ∀ l, (SortListByLocation l).Perm l) (m_ancList : List AJAAncillaryData) :
    ∃ out, filledWith buffer (storesFrom 0 buffer.length ps) = some out ∧
      let received := AddReceivedAncillaryData z map SortListByLocation out.cells m_ancList
      (buffer ≠ [] → received.1 = some AJA_STATUS_SUCCESS) ∧
      received.2.Perm (m_ancList ++ ps.map fun pPkt => asSent pPkt.generated) := by
  set initial := List.replicate (8 * (buffer.length / 8)) 0 ++
    buffer.drop (8 * (buffer.length / 8)) with hinitial
  have hinitlen : initial.length = buffer.length := by
    rw [hinitial, List.length_append, List.length_replicate, List.length_drop]
    omega
  obtain ⟨out, hout, -, hcells⟩ := foldlM_storesFrom ps ⟨initial, []⟩ 0 buffer.length h.fits
    (by rw [hinitlen]; omega)
  rw [List.drop_zero, Nat.zero_add] at hcells
  obtain ⟨hstatus, hrest⟩ := h.clean.rest
  rw [← hinitial] at hstatus hrest
  have htotal := h.clean.le
  have hlen : out.cells.length = buffer.length := by
    rw [hcells, List.length_append, List.length_drop, hinitlen]
    omega
  refine ⟨out, hout, ?_⟩
  intro received
  by_cases hnil : buffer = []
  · -- without a buffer there is no packet
    have hps : ps = [] := by
      cases ps with
      | nil => rfl
      | cons pPkt ps => exact absurd (congrArg List.length hnil) h.fits.1
    have hempty : out.cells = [] := List.eq_nil_of_length_eq_zero (by rw [hlen, hnil]; rfl)
    have hreceived : received = (some AJA_STATUS_NULL, m_ancList) := if_pos hempty
    rw [hreceived, hps]
    exact ⟨fun hne => absurd hnil hne, by rw [List.map_nil, List.append_nil]⟩
  · have hne : out.cells ≠ [] := fun h0 => hnil (List.eq_nil_of_length_eq_zero (by
      rw [← hlen, h0]
      rfl))
    have hbuffer : out.cells = (ps.map ListedPacket.generated).flatMap
        AJAAncillaryData.completeBytes ++ initial.drop (fieldBytes ps).length := by
      rw [hcells, List.flatMap_map]
      rfl
    have hback : ∀ pkt ∈ ps.map ListedPacket.generated, ComesBack z map pkt := by
      intro pkt hpkt
      obtain ⟨pPkt, hpPkt, rfl⟩ := List.mem_map.mp hpkt
      exact h.back pPkt hpPkt
    have hwire := AddReceivedAncillaryData_wire SortListByLocation hback
      h.apart hbuffer hne (by rw [hlen]; exact h.small) hrest m_ancList
    have hreceived : received = _ := hwire
    rw [hreceived, List.map_map]
    refine ⟨fun _ => congrArg some hstatus, ?_⟩
    set sent := ps.map (asSent ∘ ListedPacket.generated)
    have hperm : (m_ancList ++ sent.filter (¬ ·.IsRaw) ++ sent.filter (·.IsRaw)).Perm
        (m_ancList ++ sent) := by
      rw [List.append_assoc]
      refine List.Perm.append_left _ (List.perm_append_comm.trans ?_)
      have := List.filter_append_perm (fun pkt : AJAAncillaryData => decide pkt.IsRaw) sent
      simpa using this
    show (if sent.filter (·.IsRaw) = [] then _ else _ : List AJAAncillaryData).Perm _
    split
    · next hnone =>
        rw [hnone, List.append_nil] at hperm
        exact hperm
    · exact (hsort _).trans (((List.reverse_perm _).append_left _).trans hperm)

end Field

/-- A caption packet of three bytes. -/
def captionPacket : ListedPacket :=
  ⟨{ AJAAncillaryData.Init with
      m_DID := 0x61, m_SID := 0x02, m_payload := [0x8C, 0x14, 0x2C],
      m_location := ⟨AJAAncDataLink_A, AJAAncDataStream_1, AJAAncDataChannel_Y, 9,
        AJAAncDataHorizOffset_AnyVanc⟩ }, AJAAncillaryData.baseGeneratePayloadData⟩

/-- An analog packet of two samples. -/
def linePacket : ListedPacket :=
  ⟨{ AJAAncillaryData.Init with
      m_coding := AJAAncDataCoding_Raw, m_payload := [16, 126],
      m_location := ⟨AJAAncDataLink_A, AJAAncDataStream_1, AJAAncDataChannel_C, 21,
        AJAAncDataHorizOffset_AnyHanc⟩ }, AJAAncillaryData.baseGeneratePayloadData⟩

/-- The two of them come through a buffer of 32 bytes. -/
lemma comesThrough_sample : ComesThrough false (fun _ => .AJAAncDataType_Unknown)
    [captionPacket, linePacket] (List.replicate 32 (0 : UByte)).length := by
  refine ⟨by decide, ⟨by decide, by decide, by decide, .inr (by decide), by decide, by decide,
    by decide, .inl rfl, trivial⟩, ?_, ?_, by decide⟩
  · refine List.forall_mem_cons.mpr ⟨?_, List.forall_mem_cons.mpr ⟨?_, ?_⟩⟩
    · exact ⟨⟨by decide, rfl, rfl, by decide, .inl rfl, by decide⟩, .inr (by decide),
        fun _ => by decide, fun hraw => absurd hraw (by decide)⟩
    · exact ⟨⟨by decide, rfl, rfl, by decide, .inr rfl, by decide⟩, .inr (by decide),
        fun hdig => absurd hdig (by decide), fun _ => ⟨by decide, rfl⟩⟩
    · exact fun _ h => absurd h List.not_mem_nil
  · exact List.pairwise_pair.mpr fun hraw => absurd hraw (by decide)

/-- One byte more than they take. -/
theorem received_slack_sample :
    AddReceivedAncillaryData false (fun _ => .AJAAncDataType_Unknown) id
        ([captionPacket.data, linePacket.data].flatMap AJAAncillaryData.completeBytes ++ [0]) [] =
      (some AJA_STATUS_RANGE,
        [] ++ ([captionPacket.data, linePacket.data].map asSent).filter (¬ ·.IsRaw)) :=
  @received_slack false (fun _ => .AJAAncDataType_Unknown) id
    [captionPacket.data, linePacket.data] (fun pkt hpkt =>
      comesThrough_sample.back ⟨pkt, AJAAncillaryData.baseGeneratePayloadData⟩ (by
        rcases List.mem_cons.mp hpkt with rfl | hpkt
        · exact List.mem_cons_self
        · rw [List.mem_singleton.mp hpkt]
          exact List.mem_cons_of_mem _ List.mem_cons_self))
    comesThrough_sample.apart [0] (by decide) (by decide) []

end LibAjaNtv2
