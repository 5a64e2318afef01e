import LibAjaNtv2.Anc.ReceiveTransmit

/-!
The digital packets of a list in the buffers of the two fields, and what is heard of each buffer
(`AJAAncillaryList::GetTransmitData`, then `AddReceivedAncillaryData`).

* `GetAncillaryDataTransmitSize`: the sizes that are reported for the two buffers;
* `heard`, `wireBytes_heard`: a packet as its bytes say it;
* `received_digital`: **what is received of packets and of what stands behind them**;
* `FieldHolds`, `fieldRestores_iff`: when the packets of a field come back;
* `gumpRestores_iff`: **when the packets of both fields come back**.
-/

namespace LibAjaNtv2

open AJAStatus AJAAncDataLink AJAAncDataStream AJAAncDataSpace AJAAncDataCoding

/-- The loop of `AJAAncillaryList::GetAncillaryDataTransmitSize`. -/
def GetAncillaryDataTransmitSize (bProgressive : Bool) (f2StartLine : ULWord) :
    List ListedPacket → ULWord → ULWord → AJAStatus × ULWord × ULWord
  | [], f1Size, f2Size => (AJA_STATUS_SUCCESS, f1Size, f2Size)
  | pAncData :: rest, f1Size, f2Size =>
      match pAncData.data.GetRawPacketSize with
      | (AJA_STATUS_SUCCESS, packetSize) =>
          if inField1 bProgressive f2StartLine pAncData then
            GetAncillaryDataTransmitSize bProgressive f2StartLine rest (f1Size + packetSize) f2Size
          else
            GetAncillaryDataTransmitSize bProgressive f2StartLine rest f1Size (f2Size + packetSize)
      | (status, _) => (status, f1Size, f2Size)

/-! ### A packet as it is heard -/

/-- What the bytes of a digital packet say of it. -/
def heard (pkt : AJAAncillaryData) : AJAAncillaryData :=
  { pkt with
    m_checksum := pkt.Calculate8BitChecksum
    m_location := ⟨AJAAncDataLink_A, AJAAncDataStream_1, pkt.m_location.mChannel,
      pkt.m_location.mLineNum &&& 0x7FF,
      if pkt.m_location.GetDataSpace = AJAAncDataSpace_HANC then AJAAncDataHorizOffset_AnyHanc
      else AJAAncDataHorizOffset_AnyVanc⟩ }

/-- What is compared of a packet: its numbers, its payload, its line, its channel and its space. -/
def gumpView (pkt : AJAAncillaryData) :
    UByte × UByte × List UByte × UWord × AJAAncDataChannel × AJAAncDataSpace :=
  (pkt.m_DID, pkt.m_SID, pkt.m_payload, pkt.m_location.mLineNum, pkt.m_location.mChannel,
    pkt.m_location.GetDataSpace)

/-- A packet that a buffer takes whole. -/
structure GumpPacket (pkt : AJAAncillaryData) : Prop where
  digital : pkt.IsDigital
  count : pkt.GetDC ≤ 255
  location : pkt.m_location.IsValid

instance (pkt : AJAAncillaryData) : Decidable (GumpPacket pkt) :=
  decidable_of_iff (pkt.IsDigital ∧ pkt.GetDC ≤ 255 ∧ pkt.m_location.IsValid)
    ⟨fun ⟨h₁, h₂, h₃⟩ => ⟨h₁, h₂, h₃⟩, fun h => ⟨h.1, h.2, h.3⟩⟩

section Heard

variable {pkt : AJAAncillaryData}

/-- The space that is heard. -/
lemma GetDataSpace_heard (pkt : AJAAncillaryData) : (heard pkt).m_location.GetDataSpace =
    if pkt.m_location.GetDataSpace = AJAAncDataSpace_HANC then AJAAncDataSpace_HANC
    else AJAAncDataSpace_VANC := by
  rw [heard, AJAAncDataLoc.GetDataSpace]
  split <;> rfl

/-- **What is heard is sent** in the same bytes. -/
lemma wireBytes_heard (hdig : pkt.IsDigital) : wireBytes (heard pkt) = pkt.completeBytes := by
  have hflags : headerFlags (heard pkt) = headerFlags pkt := by
    have hspace : (heard pkt).m_location.GetDataSpace = AJAAncDataSpace_HANC ↔
        pkt.m_location.GetDataSpace = AJAAncDataSpace_HANC := by
      rw [GetDataSpace_heard]
      split_ifs with h <;> simp [h]
    simp only [headerFlags, hspace]
    rfl
  have hline : lineNibble (heard pkt).m_location.mLineNum = lineNibble pkt.m_location.mLineNum := by
    simp only [heard, lineNibble]
    ext i hi
    interval_cases i <;> simp
  have hlow : (heard pkt).GetGUMPHeaderByte3 = pkt.GetGUMPHeaderByte3 := by
    rw [AJAAncillaryData.GetGUMPHeaderByte3, heard, BitVec.and_assoc]
    rfl
  have hheader : (heard pkt).gumpHeader pkt.GetDC = pkt.gumpHeader pkt.GetDC := by
    rw [AJAAncillaryData.gumpHeader, hlow, GetGUMPHeaderByte2_eq, hflags, hline]
    rfl
  rw [AJAAncillaryData.completeBytes, if_pos hdig]
  exact congrArg (· ++ pkt.m_payload ++ [pkt.Calculate8BitChecksum]) hheader

/-- What is heard stands in a buffer. -/
lemma GumpPacket.onWire (h : GumpPacket pkt) (map : UWord → AJAAncDataType) :
    OnWire map (heard pkt) := by
  refine ⟨⟨.inl h.digital, rfl, rfl, h.location.2.2, ?_, ?_⟩, h.count,
    fun hraw => absurd h.digital (not_isDigital_of_isRaw hraw)⟩
  · rw [heard]
    split
    · exact .inr rfl
    · exact .inl rfl
  · show (pkt.m_location.mLineNum &&& 0x7FF).toNat < 2048
    rw [BitVec.toNat_and]
    exact Nat.lt_succ_of_le Nat.and_le_right

/-- The packet itself is heard where its line has eleven bits and its space is known. -/
lemma gumpView_heard_iff : gumpView (heard pkt) = gumpView pkt ↔
    pkt.m_location.mLineNum.toNat < 2048 ∧
      pkt.m_location.GetDataSpace ≠ AJAAncDataSpace_Unknown := by
  have hline : pkt.m_location.mLineNum &&& 0x7FF = pkt.m_location.mLineNum ↔
      pkt.m_location.mLineNum.toNat < 2048 := by
    have h2047 : (0x7FF : UWord).toNat = 2 ^ 11 - 1 := rfl
    rw [← BitVec.toNat_inj, BitVec.toNat_and, h2047, Nat.and_two_pow_sub_one_eq_mod]
    omega
  have hspace : (heard pkt).m_location.GetDataSpace = pkt.m_location.GetDataSpace ↔
      pkt.m_location.GetDataSpace ≠ AJAAncDataSpace_Unknown := by
    rw [GetDataSpace_heard]
    cases pkt.m_location.GetDataSpace <;> decide
  rw [← hline, ← hspace]
  simp only [gumpView, Prod.mk.injEq]
  exact ⟨fun h => ⟨h.2.2.2.1, h.2.2.2.2.2⟩, fun h => ⟨rfl, rfl, rfl, h.1, rfl, h.2⟩⟩

end Heard

/-! ### The packets of a buffer -/

section Field

variable {z : Bool} {map : UWord → AJAAncDataType} {ps : List ListedPacket} {n : ℕ}
  {SortListByLocation : List AJAAncillaryData → List AJAAncillaryData}

/-- Digital packets go onto the list, those without a payload only where they are asked for. -/
lemma receiveAll_digital {pkts : List AJAAncillaryData} (hdig : ∀ pkt ∈ pkts, pkt.IsDigital)
    (lists : ReceivedPackets) : receiveAll z map pkts lists =
      ⟨lists.rawPkts, lists.m_ancList ++ pkts.filter (z = true ∨ ·.GetDC ≠ 0)⟩ := by
  induction pkts generalizing lists with
  | nil => rw [List.filter_nil, List.append_nil]; rfl
  | cons pkt pkts ih =>
      obtain ⟨hpkt, hdig⟩ := List.forall_mem_cons.mp hdig
      rw [receiveAll, List.foldl_cons]
      by_cases hcounted : z = true ∨ pkt.GetDC ≠ 0
      · have hraw : ¬ pkt.IsRaw := fun h => not_isDigital_of_isRaw h hpkt
        rw [receiveStep_digital hpkt hcounted, ReceivedPackets.add, if_neg hraw,
          List.filter_cons_of_pos (by simpa using hcounted)]
        refine (ih hdig _).trans ?_
        rw [List.append_assoc]
        rfl
      · have hnone : (receiveStep z map pkt lists).2 = lists := by
          rw [receiveStep, if_pos hpkt, ReceivedPackets.insertNew,
            AJAAncillaryData.Create_Guess hpkt]
          exact if_neg hcounted
        rw [hnone, List.filter_cons_of_neg (by simpa using hcounted)]
        exact ih hdig _

/-- **What is received of digital packets**, and of what stands behind them. -/
lemma received_digital (map : UWord → AJAAncDataType)
    (SortListByLocation : List AJAAncillaryData → List AJAAncillaryData)
    (hps : ∀ pPkt ∈ ps, GumpPacket pPkt.generated) {buffer rest : List UByte}
    (hbuffer : buffer = fieldBytes ps ++ rest) (hne : buffer ≠ []) (hlt : buffer.length < 2 ^ 32)
    (hmany : ps.length ≤ 1 ∨ buffer.length < 2 ^ 31 + (fieldBytes (ps.take 1)).length)
    (hrest : 7 ≤ rest.length → rest.head? = some 0xFF → ps ≠ [] ∧ 2 ^ 31 ≤ rest.length) :
    AddReceivedAncillaryData z map SortListByLocation buffer [] = (some (endStatus rest),
      (ps.map fun pPkt => heard pPkt.generated).filter (z = true ∨ ·.GetDC ≠ 0)) := by
  have hwire : ∀ qs : List ListedPacket, (∀ pPkt ∈ qs, GumpPacket pPkt.generated) →
      (qs.map fun pPkt => heard pPkt.generated).flatMap wireBytes = fieldBytes qs := by
    intro qs hqs
    rw [List.flatMap_map]
    exact List.flatMap_congr fun pPkt hpPkt => wireBytes_heard (hqs pPkt hpPkt).digital
  have hloop := receivePackets_wire z map hlt (ps.map fun pPkt => heard pPkt.generated)
    (fun hlong h => ⟨fun h0 => (hrest hlong h).1 (List.map_eq_nil_iff.mp h0), (hrest hlong h).2⟩) 0
    ⟨[], []⟩ (fun w hw => by
      obtain ⟨pPkt, hpPkt, rfl⟩ := List.mem_map.mp hw
      exact (hps pPkt hpPkt).onWire map)
    (by rw [List.length_map, ← List.map_take,
      hwire _ fun pPkt h => hps pPkt (List.mem_of_mem_take h)]; exact hmany)
    (by rw [List.drop_zero, hwire ps hps]; exact hbuffer) (by rw [List.drop_zero]; exact hne)
  rw [receiveAll_digital (fun w hw => by
    obtain ⟨pPkt, hpPkt, rfl⟩ := List.mem_map.mp hw
    exact (hps pPkt hpPkt).digital), Nat.sub_zero] at hloop
  rw [AddReceivedAncillaryData, if_neg hne, hloop]
  exact if_pos rfl

/-- The packets of a field come back from its buffer of so many zeros: the receiver succeeds where
there is a buffer, and lists them in the order of the field. -/
def FieldRestores (z : Bool) (map : UWord → AJAAncDataType)
    (SortListByLocation : List AJAAncillaryData → List AJAAncillaryData) (n : ℕ)
    (ps : List ListedPacket) (stores : List (ℕ × List UByte)) : Prop :=
  ∃ out, filledWith (List.replicate n 0) stores = some out ∧
    let received := AddReceivedAncillaryData z map SortListByLocation out.cells []
    (n ≠ 0 → received.1 = some AJA_STATUS_SUCCESS) ∧
      received.2.map gumpView = ps.map fun pPkt => gumpView pPkt.generated

/-- Each packet has a payload, or those without are asked for, and a header can say its line and
its space; the packets fill the buffer, or leave the seven bytes of one more; and the bytes behind
the first of several are a positive `int32_t`. -/
structure FieldHolds (z : Bool) (n : ℕ) (ps : List ListedPacket) : Prop where
  counted : ∀ pPkt ∈ ps, z = true ∨ pPkt.generated.GetDC ≠ 0
  said : ∀ pPkt ∈ ps, pPkt.generated.m_location.mLineNum.toNat < 2048 ∧
    pPkt.generated.m_location.GetDataSpace ≠ AJAAncDataSpace_Unknown
  spare : (fieldBytes ps).length = n ∨ (fieldBytes ps).length + 7 ≤ n
  small : ps.length ≤ 1 ∨ n < 2 ^ 31 + (fieldBytes (ps.take 1)).length

/-- The number of bytes of digital packets. -/
lemma length_fieldBytes (hps : ∀ pPkt ∈ ps, GumpPacket pPkt.generated) :
    (fieldBytes ps).length = (ps.map fun pPkt => pPkt.size).sum ∧
      ∀ pPkt ∈ ps, pPkt.size = pPkt.generated.GetDC + 7 := by
  have hsize : ∀ pPkt ∈ ps, pPkt.size = pPkt.generated.completeBytes.length ∧
      pPkt.size = pPkt.generated.GetDC + 7 := by
    intro pPkt hpPkt
    have h := hps pPkt hpPkt
    have hcount := h.count
    have hdc : pPkt.generated.GetDC32.toNat = pPkt.generated.GetDC := by
      rw [AJAAncillaryData.GetDC32, BitVec.toNat_ofNat, Nat.mod_eq_of_lt (by omega)]
    have hle : pPkt.generated.GetDC32 ≤ 255 := by
      rw [BitVec.le_def, hdc]
      exact hcount
    have hsize : pPkt.size = pPkt.generated.GetDC + 7 := by
      rw [ListedPacket.size, AJAAncillaryData.GetRawPacketSize, if_pos h.digital]
      simp only [if_pos hle]
      rw [BitVec.toNat_add, ancillaryDataWrapperSize_toNat, hdc]
      omega
    rw [AJAAncillaryData.length_completeBytes, AJAAncillaryData.completeSize, if_pos h.digital]
    exact ⟨hsize, hsize⟩
  refine ⟨?_, fun pPkt hpPkt => (hsize pPkt hpPkt).2⟩
  rw [fieldBytes, List.length_flatMap]
  exact congrArg List.sum (List.map_congr_left fun pPkt hpPkt => (hsize pPkt hpPkt).1.symm)

/-- **Digital packets fit** a buffer of their size, and none is refused. -/
lemma fits_of_le (hps : ∀ pPkt ∈ ps, GumpPacket pPkt.generated)
    (hle : (ps.map fun pPkt => pPkt.size).sum ≤ n) : FieldFits n ps ∧ ¬ FieldRefused n ps := by
  have hsize := (length_fieldBytes hps).2
  induction ps generalizing n with
  | nil => exact ⟨trivial, id⟩
  | cons pPkt ps ih =>
      obtain ⟨hpPkt, hps⟩ := List.forall_mem_cons.mp hps
      obtain ⟨hhere, hsize⟩ := List.forall_mem_cons.mp hsize
      rw [List.map_cons, List.sum_cons] at hle
      obtain ⟨hfits, hrefused⟩ := ih hps (n := n - pPkt.size) (by omega) hsize
      have hcomplete : pPkt.generated.completeSize = pPkt.size := by
        rw [AJAAncillaryData.completeSize, if_pos hpPkt.digital]
        exact hhere.symm
      have hover : ¬ pPkt.generated.Overflows := by
        rw [AJAAncillaryData.Overflows, if_pos hpPkt.digital]
        exact Nat.not_lt.mpr hpPkt.count
      refine ⟨⟨by omega, hover, by omega, .inr hcomplete.le, hfits⟩, ?_⟩
      rintro ⟨-, (h0 | hlt | ⟨hdig, -⟩) | hrest⟩
      · omega
      · omega
      · exact hdig hpPkt.digital
      · exact hrefused hrest

/-- The packets of a field that comes back are no longer than its buffer. -/
lemma FieldRestores.le (hsort : ∀ l, (SortListByLocation l).Perm l) (hn : n < 2 ^ 32)
    {stores : List (ℕ × List UByte)} (h : FieldRestores z map SortListByLocation n ps stores)
    (hps : ∀ pPkt ∈ ps, GumpPacket pPkt.generated) : (ps.map fun pPkt => pPkt.size).sum ≤ n := by
  obtain ⟨out, hout, -, hview⟩ := h
  have hlength : ∀ (stores : List (ℕ × List UByte)) (b : Block UByte),
      stores.foldlM (fun (b : Block UByte) st => b.store st.1 st.2) b = some out →
        out.cells.length = b.cells.length := by
    intro stores
    induction stores with
    | nil => exact fun b hb => by cases hb; rfl
    | cons st stores ih =>
        intro b hb
        rw [List.foldlM_cons, Option.bind_eq_bind, Option.bind_eq_some_iff] at hb
        obtain ⟨b', hb', hb⟩ := hb
        rw [ih b' hb, Block.length_move hb']
  have hcells : out.cells.length = n := by
    rw [hlength _ _ hout, List.length_append, List.length_replicate, List.length_drop,
      List.length_replicate]
    omega
  obtain ⟨-, added, hperm, hsize⟩ := @addReceived_takes z map _ hsort out.cells (by omega) []
  have hsum := congrArg (fun views => (views.map fun v => v.2.2.1.length + 7).sum) hview
  rw [List.map_map, List.map_map] at hsum
  have htotal : wrappedSize added = (ps.map fun pPkt => pPkt.size).sum := by
    rw [List.nil_append] at hperm
    rw [wrappedSize, ← (hperm.map _).sum_eq]
    refine hsum.trans (congrArg List.sum (List.map_congr_left fun pPkt hpPkt => ?_))
    exact ((length_fieldBytes hps).2 pPkt hpPkt).symm
  omega

/-- Packets of which some are left out are not the packets themselves. -/
lemma filter_map_eq_iff {α β : Type} {p : α → Bool} {f g : α → β} {l : List α} :
    (l.filter p).map f = l.map g ↔ ∀ a ∈ l, p a = true ∧ f a = g a := by
  constructor
  · intro h
    have hlength := congrArg List.length h
    rw [List.length_map, List.length_map, List.length_filter_eq_length_iff] at hlength
    rw [List.filter_eq_self.mpr hlength] at h
    exact fun a ha => ⟨hlength a ha, List.map_inj_left.mp h a ha⟩
  · intro h
    rw [List.filter_eq_self.mpr fun a ha => (h a ha).1]
    exact List.map_congr_left fun a ha => (h a ha).2

/-- A fill leaves zeros alone. -/
lemma filledWith_replicate (n : ℕ) (stores : List (ℕ × List UByte)) :
    filledWith (List.replicate n 0) stores =
      stores.foldlM (fun (b : Block UByte) st => b.store st.1 st.2) ⟨List.replicate n 0, []⟩ := by
  have hzero : List.replicate (8 * (n / 8)) (0 : UByte) ++
      (List.replicate n 0).drop (8 * (n / 8)) = List.replicate n 0 := by
    rw [List.drop_replicate, List.replicate_append_replicate]
    congr 1
    omega
  rw [filledWith, List.length_replicate, hzero]

lemma endStatus_replicate (k : ℕ) :
    endStatus (List.replicate k 0) = AJA_STATUS_SUCCESS ↔ k = 0 ∨ 7 ≤ k := by
  rw [endStatus, ite_eq_left_iff, List.replicate_eq_nil_iff, List.length_replicate]
  constructor
  · intro h
    by_contra hnot
    exact absurd (h hnot) (by decide)
  · exact fun h hnot => absurd h hnot

/-- The loop ends behind the first packet where more bytes are left than an `int32_t` counts. -/
lemma length_received_le {buffer rest : List UByte} (hps : ∀ pPkt ∈ ps, GumpPacket pPkt.generated)
    (hbuffer : buffer = fieldBytes ps ++ rest) (hlt : buffer.length < 2 ^ 32)
    (hlong : 1 < ps.length) (hlarge : 2 ^ 31 + (fieldBytes (ps.take 1)).length ≤ buffer.length) :
    (AddReceivedAncillaryData z map SortListByLocation buffer []).2.length ≤ 1 := by
  obtain ⟨pPkt, ps, rfl⟩ := List.exists_cons_of_length_pos (zero_lt_one.trans hlong)
  rw [List.take_succ_cons, List.take_zero] at hlarge
  have hsplit : buffer = fieldBytes [pPkt] ++ (fieldBytes ps ++ rest) := by
    rw [hbuffer, ← List.append_assoc, fieldBytes, List.flatMap_cons, ← List.singleton_append]
    simp [fieldBytes]
  have hrest := congrArg List.length hsplit
  rw [List.length_append] at hrest
  have hfirst : ∀ p ∈ [pPkt], GumpPacket p.generated :=
    fun p hp => hps p (List.mem_singleton.mp hp ▸ List.mem_cons_self)
  rw [received_digital map SortListByLocation hfirst hsplit (List.ne_nil_of_length_pos (by omega))
    hlt (.inl le_rfl) fun _ _ => ⟨List.cons_ne_nil _ _, by omega⟩]
  exact List.length_filter_le _ _

/-- **When the packets of a field come back** from a buffer that they fit. -/
lemma fieldRestores_iff (map : UWord → AJAAncDataType)
    (SortListByLocation : List AJAAncillaryData → List AJAAncillaryData) (hn : n < 2 ^ 32)
    (hps : ∀ pPkt ∈ ps, GumpPacket pPkt.generated) (hle : (ps.map fun pPkt => pPkt.size).sum ≤ n) :
    FieldRestores z map SortListByLocation n ps (storesFrom 0 n ps) ↔ FieldHolds z n ps := by
  obtain ⟨hlength, hsize⟩ := length_fieldBytes hps
  rw [← hlength] at hle
  obtain ⟨out, hout, -, hcells⟩ := foldlM_storesFrom ps ⟨List.replicate n 0, []⟩ 0 n
    (fits_of_le hps (hlength ▸ hle)).1 (by simp)
  rw [List.drop_zero, Nat.zero_add, List.drop_replicate] at hcells
  have hlen : out.cells.length = n := by
    rw [hcells, List.length_append, List.length_replicate]
    omega
  rw [← filledWith_replicate] at hout
  have hrestores : FieldRestores z map SortListByLocation n ps (storesFrom 0 n ps) ↔
      (n ≠ 0 → (AddReceivedAncillaryData z map SortListByLocation out.cells []).1 =
        some AJA_STATUS_SUCCESS) ∧
      (AddReceivedAncillaryData z map SortListByLocation out.cells []).2.map gumpView =
        ps.map fun pPkt => gumpView pPkt.generated := by
    constructor
    · rintro ⟨out', hout', h⟩
      obtain rfl := Option.some.inj (hout.symm.trans hout')
      exact h
    · exact fun h => ⟨out, hout, h⟩
  rw [hrestores]
  rcases Nat.eq_zero_or_pos n with rfl | hpos
  · -- no buffer, and no packet
    obtain rfl : ps = [] := List.eq_nil_iff_forall_not_mem.mpr fun pPkt hpPkt => by
      have := List.single_le_sum (fun _ _ => Nat.zero_le _) _
        (List.mem_map_of_mem (f := fun pPkt : ListedPacket => pPkt.size) hpPkt)
      have := hsize pPkt hpPkt
      omega
    rw [List.eq_nil_of_length_eq_zero hlen]
    exact iff_of_true ⟨fun h => absurd rfl h, rfl⟩ ⟨fun _ h => absurd h List.not_mem_nil,
      fun _ h => absurd h List.not_mem_nil, .inl rfl, .inl (Nat.zero_le _)⟩
  by_cases hmany : ps.length ≤ 1 ∨ n < 2 ^ 31 + (fieldBytes (ps.take 1)).length
  · rw [received_digital map SortListByLocation hps hcells (List.ne_nil_of_length_pos (by omega))
      (by rw [hlen]; exact hn) (by rw [hlen]; exact hmany) fun hlong h => by
        rw [List.length_replicate] at hlong
        rw [List.head?_replicate, if_neg (by omega)] at h
        exact absurd h (by decide), List.filter_map, List.map_map]
    simp only [filter_map_eq_iff, Function.comp_apply, Option.some.injEq, endStatus_replicate,
      gumpView_heard_iff, decide_eq_true_eq]
    constructor
    · exact fun h => ⟨fun p hp => (h.2 p hp).1, fun p hp => (h.2 p hp).2,
        by have := h.1 hpos.ne'; omega, hmany⟩
    · exact fun h => ⟨fun _ => by have := h.spare; omega,
        fun p hp => ⟨h.counted p hp, h.said p hp⟩⟩
  · -- the loop ends behind the first packet
    refine iff_of_false (fun h => ?_) fun h => hmany h.small
    obtain ⟨hlong, hlarge⟩ := not_or.mp hmany
    have hone := @length_received_le z map ps SortListByLocation _ _ hps hcells (by omega)
      (by omega) (by omega)
    have hcount := congrArg List.length h.2
    rw [List.length_map, List.length_map] at hcount
    omega

/-- The packets of a list come back from the buffers of the two fields. -/
structure GumpRestores (z : Bool) (map : UWord → AJAAncDataType)
    (sortListed : List ListedPacket → List ListedPacket)
    (sortReceived : List AJAAncillaryData → List AJAAncillaryData) (m_ancList : List ListedPacket)
    (n1 n2 : ULWord) (inIsProgressive : Bool) (inF2StartLine : ULWord) : Prop where
  sent : (GetTransmitData sortListed m_ancList n1 n2 inIsProgressive inF2StartLine).1 =
    AJA_STATUS_SUCCESS
  field1 : FieldRestores z map sortReceived n1.toNat
    (field1Packets inIsProgressive inF2StartLine (sortListed m_ancList))
    (GetTransmitData sortListed m_ancList n1 n2 inIsProgressive inF2StartLine).2.1.stores
  field2 : FieldRestores z map sortReceived n2.toNat
    (field2Packets inIsProgressive inF2StartLine (sortListed m_ancList))
    (GetTransmitData sortListed m_ancList n1 n2 inIsProgressive inF2StartLine).2.2.stores

/-- **The digital packets of a list come back** from two buffers of any sizes exactly where both
fields hold. -/
theorem gumpRestores_iff {sortListed : List ListedPacket → List ListedPacket}
    (hlisted : SortsByLocation sortListed) (hreceived : ∀ l, (SortListByLocation l).Perm l)
    {m_ancList : List ListedPacket} (hlist : ∀ pPkt ∈ m_ancList, GumpPacket pPkt.generated)
    (n1 n2 : ULWord) (inIsProgressive : Bool) (inF2StartLine : ULWord) :
    GumpRestores z map sortListed SortListByLocation m_ancList n1 n2 inIsProgressive
        inF2StartLine ↔
      FieldHolds z n1.toNat
          (field1Packets inIsProgressive inF2StartLine (sortListed m_ancList)) ∧
        FieldHolds z n2.toNat
          (field2Packets inIsProgressive inF2StartLine (sortListed m_ancList)) := by
  have hsorted : ∀ pPkt ∈ sortListed m_ancList, GumpPacket pPkt.generated :=
    fun pPkt h => hlist pPkt ((hlisted.perm m_ancList).mem_iff.mp h)
  obtain ⟨hstatus, hstores⟩ := GetTransmitData_spec sortListed m_ancList n1 n2 inIsProgressive
    inF2StartLine
  set ps1 := field1Packets inIsProgressive inF2StartLine (sortListed m_ancList)
  set ps2 := field2Packets inIsProgressive inF2StartLine (sortListed m_ancList)
  have hps1 : ∀ pPkt ∈ ps1, GumpPacket pPkt.generated :=
    fun pPkt h => hsorted pPkt (List.mem_of_mem_filter h)
  have hps2 : ∀ pPkt ∈ ps2, GumpPacket pPkt.generated :=
    fun pPkt h => hsorted pPkt (List.mem_of_mem_filter h)
  -- with room for both fields, the packets are sent
  have hrestores : (ps1.map fun pPkt => pPkt.size).sum ≤ n1.toNat →
      (ps2.map fun pPkt => pPkt.size).sum ≤ n2.toNat →
      (GumpRestores z map sortListed SortListByLocation m_ancList n1 n2 inIsProgressive
        inF2StartLine ↔ FieldHolds z n1.toNat ps1 ∧ FieldHolds z n2.toNat ps2) := by
    intro hle1 hle2
    have hdone := hstatus.2 ⟨(fits_of_le hps1 hle1).2, (fits_of_le hps2 hle2).2⟩
    obtain ⟨h1, h2⟩ := hstores hdone
    rw [← fieldRestores_iff map SortListByLocation n1.isLt hps1 hle1,
      ← fieldRestores_iff map SortListByLocation n2.isLt hps2 hle2, ← h1, ← h2]
    exact ⟨fun h => ⟨h.field1, h.field2⟩, fun h => ⟨hdone, h.1, h.2⟩⟩
  have hroom : ∀ {n : ℕ} {ps : List ListedPacket}, (∀ pPkt ∈ ps, GumpPacket pPkt.generated) →
      FieldHolds z n ps → (ps.map fun pPkt => pPkt.size).sum ≤ n := by
    intro n ps hps h
    rw [← (length_fieldBytes hps).1]
    rcases h.spare with h | h <;> omega
  constructor
  · exact fun h => (hrestores (h.field1.le hreceived n1.isLt hps1)
      (h.field2.le hreceived n2.isLt hps2)).mp h
  · exact fun h => (hrestores (hroom hps1 h.1) (hroom hps2 h.2)).mpr h

end Field

/-- A digital packet of two bytes on a line of the second field. -/
def secondPacket : ListedPacket :=
  ⟨{ captionPacket.data with
      m_payload := [0x80, 0x80]
      m_location := { captionPacket.data.m_location with mLineNum := 300 } },
    AJAAncillaryData.baseGeneratePayloadData⟩

/-- A packet for each field, of which the second fills its buffer. -/
theorem gumpRestores_iff_twoFields :
    GumpRestores false (fun _ => .AJAAncDataType_Unknown) mergeSortByLocation id
      [captionPacket, secondPacket] 24 9 false 272 := by
  have hsort : mergeSortByLocation [captionPacket, secondPacket] =
      [captionPacket, secondPacket] := by
    refine List.mergeSort_of_pairwise ?_
    decide
  refine (gumpRestores_iff sortsByLocation_mergeSort (fun l => List.Perm.refl l) ?_ 24 9 false
    272).mpr ?_
  · decide
  · rw [hsort]
    exact ⟨⟨by decide, by decide, by decide, by decide⟩,
      ⟨by decide, by decide, by decide, by decide⟩⟩

/-- A buffer with one byte more than is reported is received with an error. -/
theorem not_gumpRestores_spareByte :
    GetAncillaryDataTransmitSize true 0 [captionPacket] 0 0 = (AJA_STATUS_SUCCESS, 10, 0) ∧
      ¬ GumpRestores false (fun _ => .AJAAncDataType_Unknown) id id [captionPacket] 11 0 true
        0 := by
  refine ⟨by decide, fun h => ?_⟩
  have hspare := ((fieldRestores_iff _ _ (by decide) (by decide) (by decide)).mp h.field1).spare
  revert hspare
  decide

end LibAjaNtv2
