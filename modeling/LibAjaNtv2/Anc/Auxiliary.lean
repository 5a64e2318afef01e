import LibAjaNtv2.Anc.Types
import LibAjaNtv2.Lib.Attempt

/-!
Packets of an HDMI auxiliary extractor (`AJAAncillaryList::AddReceivedAuxiliaryData`).

* `InitAuxWithReceivedData`: one packet; nothing where a byte that is not there is read;
* `receiveAuxiliaries`, `AddReceivedAuxiliaryData`: the loop over the slots of a buffer;
* `initAux_slot`, `initAux_long`: a packet is read from its slot alone, unless it is an InfoFrame
  that announces more bytes than the slot has;
* `visited_pairwise`, `visited_slot`: each slot is visited once;
* `staysInSlots_iff`: **when no packet is read past its slot**.
-/

namespace LibAjaNtv2

open AJAStatus

/-- `AJAAuxillaryPacketSize`. -/
def AJAAuxillaryPacketSize : ULWord := 32

/-- `sValidHDMIAuxPacketTypes`. -/
def sValidHDMIAuxPacketTypes : List UByte :=
  [0x01, 0x02, 0x03, 0x04, 0x05, 0x06, 0x07, 0x08, 0x09, 0x0A,
   0x80, 0x81, 0x82, 0x83, 0x84, 0x85]

/-- `AJAAncillaryData::AuxPacketTypeIsValid`. -/
def AuxPacketTypeIsValid (inAuxPktType : UByte) : Prop := inAuxPktType ∈ sValidHDMIAuxPacketTypes

instance (inAuxPktType : UByte) : Decidable (AuxPacketTypeIsValid inAuxPktType) :=
  inferInstanceAs (Decidable (_ ∈ _))

/-- The type of an InfoFrame. -/
def IsInfoFrame (auxType : UByte) : Prop := auxType &&& 0x80 ≠ 0

instance (auxType : UByte) : Decidable (IsInfoFrame auxType) := inferInstanceAs (Decidable (_ ≠ _))

/-- The data of an auxiliary packet. -/
structure AJAAuxiliaryData where
  m_auxType : UByte
  m_auxHB1 : UByte
  m_auxHB2 : UByte
  m_checksum : UByte
  m_payload : List UByte
  deriving DecidableEq

namespace AJAAuxiliaryData

/-- `AJAAncillaryData::Clear`. -/
def Clear : AJAAuxiliaryData := ⟨0, 0, 0, 0, []⟩

/-- `AJAAncillaryData::GetDC`. -/
def GetDC (pkt : AJAAuxiliaryData) : ℕ := pkt.m_payload.length

end AJAAuxiliaryData

/-- The number of payload bytes. -/
def auxPayloadSize (auxType auxHB2 : UByte) : ℕ :=
  if IsInfoFrame auxType then (auxHB2 &&& 0x1F).toNat else 28

/-- Where the payload begins. -/
def auxPayloadOffset (auxType : UByte) : ℕ := if IsInfoFrame auxType then 4 else 3

/-- The checksum: the fourth byte of an InfoFrame. -/
def auxChecksum (pInData : ℕ → Option UByte) (auxType : UByte) : Option UByte :=
  if IsInfoFrame auxType then pInData 3 else some 0

/-- `AJAAncillaryData::InitAuxWithReceivedData`: the status, the number of bytes of the packet and
the packet. -/
def InitAuxWithReceivedData (pInData : ℕ → Option UByte) (inMaxBytes : ULWord) :
    Option (AJAStatus × ULWord × AJAAuxiliaryData) := do
  let packetType ← pInData 0
  if ¬ AuxPacketTypeIsValid packetType then
    return (AJA_STATUS_SUCCESS, 0, .Clear)
  if inMaxBytes < AJAAuxillaryPacketSize then
    return (AJA_STATUS_RANGE, inMaxBytes, .Clear)
  let auxType ← pInData 0
  let auxHB1 ← pInData 1
  let auxHB2 ← pInData 2
  let checksum ← auxChecksum pInData auxType
  let payload ← (List.range (auxPayloadSize auxType auxHB2)).mapM fun ndx =>
    pInData (ndx + auxPayloadOffset auxType)
  return (AJA_STATUS_SUCCESS, AJAAuxillaryPacketSize,
    ⟨auxType, auxHB1, auxHB2, checksum, payload⟩)

/-! ### One packet -/

section Packet

variable {pInData : ℕ → Option UByte} {maxBytes : ULWord}

lemma initAux_noData {b : UByte} (h0 : pInData 0 = some b) (htype : ¬ AuxPacketTypeIsValid b) :
    InitAuxWithReceivedData pInData maxBytes = some (AJA_STATUS_SUCCESS, 0, .Clear) := by
  simp only [InitAuxWithReceivedData, h0, Option.bind_eq_bind, Option.bind_some, if_pos htype]
  rfl

/-- A packet that the buffer does not hold. -/
lemma initAux_range {b : UByte} (h0 : pInData 0 = some b) (htype : AuxPacketTypeIsValid b)
    (hmax : maxBytes < AJAAuxillaryPacketSize) :
    InitAuxWithReceivedData pInData maxBytes = some (AJA_STATUS_RANGE, maxBytes, .Clear) := by
  simp only [InitAuxWithReceivedData, h0, Option.bind_eq_bind, Option.bind_some,
    if_neg (not_not.mpr htype), if_pos hmax]
  rfl

/-- The packet announces more bytes than its slot has. -/
def AnnouncesMore (auxType auxHB2 : UByte) : Prop :=
  32 < auxPayloadOffset auxType + auxPayloadSize auxType auxHB2

instance (auxType auxHB2 : UByte) : Decidable (AnnouncesMore auxType auxHB2) :=
  inferInstanceAs (Decidable (_ < _))

/-- **It is an InfoFrame of more than 28 bytes.** -/
lemma announcesMore_iff {auxType auxHB2 : UByte} :
    AnnouncesMore auxType auxHB2 ↔ IsInfoFrame auxType ∧ 28 < (auxHB2 &&& 0x1F).toNat := by
  by_cases h : IsInfoFrame auxType
  · rw [AnnouncesMore, auxPayloadOffset, auxPayloadSize, if_pos h, if_pos h, and_iff_right h]
    omega
  · rw [AnnouncesMore, auxPayloadOffset, auxPayloadSize, if_neg h, if_neg h]
    exact iff_of_false (by omega) fun hlong => h hlong.1

/-- The packet in the bytes of a slot. -/
def slotPacket (bytes : ℕ → UByte) : AJAAuxiliaryData where
  m_auxType := bytes 0
  m_auxHB1 := bytes 1
  m_auxHB2 := bytes 2
  m_checksum := if IsInfoFrame (bytes 0) then bytes 3 else 0
  m_payload := (List.range (auxPayloadSize (bytes 0) (bytes 2))).map fun ndx =>
    bytes (ndx + auxPayloadOffset (bytes 0))

/-- **A packet in its slot** needs the 32 bytes of the slot alone. -/
lemma initAux_slot (bytes : ℕ → UByte) (hbytes : ∀ i < 32, pInData i = some (bytes i))
    (htype : AuxPacketTypeIsValid (bytes 0)) (hmax : ¬ maxBytes < AJAAuxillaryPacketSize)
    (hfits : ¬ AnnouncesMore (bytes 0) (bytes 2)) :
    InitAuxWithReceivedData pInData maxBytes =
      some (AJA_STATUS_SUCCESS, AJAAuxillaryPacketSize, slotPacket bytes) := by
  have hpayload : ((List.range (auxPayloadSize (bytes 0) (bytes 2))).mapM fun ndx =>
      pInData (ndx + auxPayloadOffset (bytes 0))) = some (slotPacket bytes).m_payload := by
    refine mapM_eq_some fun i hi => hbytes _ ?_
    rw [List.mem_range] at hi
    rw [AnnouncesMore] at hfits
    omega
  have hchecksum : auxChecksum pInData (bytes 0) = some (slotPacket bytes).m_checksum := by
    rw [auxChecksum, hbytes 3 (by omega), slotPacket]
    split <;> rfl
  simp only [InitAuxWithReceivedData, hbytes 0 (by omega), hbytes 1 (by omega),
    hbytes 2 (by omega), hchecksum, hpayload, Option.bind_eq_bind, Option.bind_some,
    if_neg (not_not.mpr htype), if_neg hmax]
  rfl

/-- **A packet that announces more** is read past its slot. -/
lemma initAux_long (bytes : ℕ → UByte) (hbytes : ∀ i < 32, pInData i = some (bytes i))
    (hend : pInData 32 = none) (htype : AuxPacketTypeIsValid (bytes 0))
    (hmax : ¬ maxBytes < AJAAuxillaryPacketSize) (hlong : AnnouncesMore (bytes 0) (bytes 2)) :
    InitAuxWithReceivedData pInData maxBytes = none := by
  have hinfo := (announcesMore_iff.mp hlong).1
  have hpayload : ((List.range (auxPayloadSize (bytes 0) (bytes 2))).mapM fun ndx =>
      pInData (ndx + auxPayloadOffset (bytes 0))) = none := by
    have hoffset : auxPayloadOffset (bytes 0) = 4 := if_pos hinfo
    rw [AnnouncesMore, hoffset] at hlong
    refine mapM_eq_none (a := 28) (List.mem_range.mpr (by omega)) ?_
    rw [hoffset]
    exact hend
  have hchecksum : auxChecksum pInData (bytes 0) = some (bytes 3) :=
    (if_pos hinfo).trans (hbytes 3 (by omega))
  simp only [InitAuxWithReceivedData, hbytes 0 (by omega), hbytes 1 (by omega),
    hbytes 2 (by omega), hchecksum, hpayload, Option.bind_eq_bind, Option.bind_some,
    if_neg (not_not.mpr htype), if_neg hmax]
  rfl

/-- The bytes that a packet takes from the buffer are there. -/
lemma initAux_size {size : ULWord} {pkt : AJAAuxiliaryData}
    (h : InitAuxWithReceivedData pInData maxBytes = some (AJA_STATUS_SUCCESS, size, pkt))
    (hsize : size ≠ 0) : size = AJAAuxillaryPacketSize ∧ ¬ maxBytes < AJAAuxillaryPacketSize := by
  simp only [InitAuxWithReceivedData, Option.bind_eq_bind, Option.bind_eq_some_iff] at h
  obtain ⟨packetType, -, h⟩ := h
  split at h
  · cases h
    exact absurd rfl hsize
  · split at h
    · cases h
    · next hmax =>
        simp only [Option.bind_eq_some_iff] at h
        obtain ⟨_, -, _, -, _, -, _, -, _, -, h⟩ := h
        cases h
        exact ⟨rfl, hmax⟩

end Packet

/-! ### The loop -/

lemma auxillaryPacketSize_toNat : AJAAuxillaryPacketSize.toNat = 32 := rfl

lemma toNat_sub_slot {remainingSize : ULWord} (h : ¬ remainingSize < AJAAuxillaryPacketSize) :
    (remainingSize - AJAAuxillaryPacketSize).toNat = remainingSize.toNat - 32 :=
  BitVec.toNat_sub_of_le (BitVec.not_lt.mp h)

/-- What the loop leaves: its status (none where it read what is not there), where it stood each
time and how many bytes were left, and the packets of the list. -/
structure ReceivedAuxiliary where
  status : Option AJAStatus
  visited : List (ℕ × ULWord)
  packets : List AJAAuxiliaryData

/-- The loop of `AddReceivedAuxiliaryData`, from a position of the memory on. -/
def receiveAuxiliaries (includesZeroLength : Bool) (memory : ℕ → Option UByte) (pInputData : ℕ)
    (remainingSize : ULWord) : ReceivedAuxiliary :=
  match _hinit : InitAuxWithReceivedData (fun ndx => memory (pInputData + ndx)) remainingSize with
  | none => ⟨none, [(pInputData, remainingSize)], []⟩
  | some (status, packetSize, newAncData) =>
      if _hdata : status = AJA_STATUS_SUCCESS ∧ packetSize ≠ 0 then
        let pushed :=
          if includesZeroLength = true ∨ newAncData.GetDC ≠ 0 then [newAncData] else []
        if _hmore : 0 < (remainingSize - packetSize).toInt then
          let rest := receiveAuxiliaries includesZeroLength memory
            (pInputData + packetSize.toNat) (remainingSize - packetSize)
          ⟨rest.status, (pInputData, remainingSize) :: rest.visited, pushed ++ rest.packets⟩
        else ⟨some status, [(pInputData, remainingSize)], pushed⟩
      else ⟨some status, [(pInputData, remainingSize)], []⟩
  termination_by remainingSize.toNat
  decreasing_by
    obtain ⟨rfl, hne⟩ := _hdata
    obtain ⟨rfl, hmax⟩ := initAux_size _hinit hne
    have hlast := toNat_sub_slot hmax
    rw [BitVec.lt_def, auxillaryPacketSize_toNat] at hmax
    omega

section Step

variable {z : Bool} {memory : ℕ → Option UByte} {p : ℕ} {r : ULWord}

/-- Without data the loop ends. -/
lemma visited_stop {status : AJAStatus} {size : ULWord} {pkt : AJAAuxiliaryData}
    (hinit : InitAuxWithReceivedData (fun ndx => memory (p + ndx)) r = some (status, size, pkt))
    (hstop : ¬ (status = AJA_STATUS_SUCCESS ∧ size ≠ 0)) :
    (receiveAuxiliaries z memory p r).visited = [(p, r)] := by
  rw [receiveAuxiliaries]
  split
  · rfl
  · next hinit' =>
      rw [hinit] at hinit'
      cases hinit'
      rw [dif_neg hstop]

/-- Behind the last slot the loop ends. -/
lemma visited_last {pkt : AJAAuxiliaryData}
    (hinit : InitAuxWithReceivedData (fun ndx => memory (p + ndx)) r =
      some (AJA_STATUS_SUCCESS, AJAAuxillaryPacketSize, pkt))
    (hlast : ¬ 0 < (r - AJAAuxillaryPacketSize).toInt) :
    (receiveAuxiliaries z memory p r).visited = [(p, r)] := by
  rw [receiveAuxiliaries]
  split
  · rfl
  · next hinit' =>
      rw [hinit] at hinit'
      cases hinit'
      rw [dif_pos ⟨rfl, by decide⟩, dif_neg hlast]

/-- The loop goes on to the next slot. -/
lemma visited_next {pkt : AJAAuxiliaryData}
    (hinit : InitAuxWithReceivedData (fun ndx => memory (p + ndx)) r =
      some (AJA_STATUS_SUCCESS, AJAAuxillaryPacketSize, pkt))
    (hmore : 0 < (r - AJAAuxillaryPacketSize).toInt) :
    (receiveAuxiliaries z memory p r).visited = (p, r) ::
      (receiveAuxiliaries z memory (p + 32) (r - AJAAuxillaryPacketSize)).visited := by
  rw [receiveAuxiliaries]
  split
  · next hinit' =>
      rw [hinit] at hinit'
      cases hinit'
  · next hinit' =>
      rw [hinit] at hinit'
      cases hinit'
      rw [dif_pos ⟨rfl, by decide⟩, dif_pos hmore]
      rfl

/-- What is left is taken for more. -/
lemma toInt_sub_slot (hmax : ¬ r < AJAAuxillaryPacketSize) :
    0 < (r - AJAAuxillaryPacketSize).toInt ↔ 32 < r.toNat ∧ r.toNat < 2 ^ 31 + 32 := by
  have hlast := toNat_sub_slot hmax
  have hlt := r.isLt
  rw [BitVec.toInt_eq_toNat_cond]
  split <;> omega

/-- **What one pass visits**: its slot, and what the loop visits behind it. -/
lemma visited_cases (z : Bool) (memory : ℕ → Option UByte) (p : ℕ) (r : ULWord) :
    (receiveAuxiliaries z memory p r).visited = [(p, r)] ∨
      ¬ r < AJAAuxillaryPacketSize ∧ 0 < (r - AJAAuxillaryPacketSize).toInt ∧
      (receiveAuxiliaries z memory p r).visited = (p, r) ::
        (receiveAuxiliaries z memory (p + 32) (r - AJAAuxillaryPacketSize)).visited := by
  rcases hinit : InitAuxWithReceivedData (fun ndx => memory (p + ndx)) r with
    _ | ⟨status, size, pkt⟩
  · left
    rw [receiveAuxiliaries]
    split
    · rfl
    · next hinit' =>
        rw [hinit] at hinit'
        cases hinit'
  · by_cases hstop : status = AJA_STATUS_SUCCESS ∧ size ≠ 0
    · obtain ⟨rfl, hsize⟩ := hstop
      obtain ⟨rfl, hmax⟩ := initAux_size hinit hsize
      by_cases hmore : 0 < (r - AJAAuxillaryPacketSize).toInt
      · exact .inr ⟨hmax, hmore, visited_next hinit hmore⟩
      · exact .inl (visited_last hinit hmore)
    · exact .inl (visited_stop hinit hstop)

lemma mem_visited : (p, r) ∈ (receiveAuxiliaries z memory p r).visited := by
  rcases visited_cases z memory p r with h | ⟨-, -, h⟩ <;> rw [h]
  · exact List.mem_singleton_self _
  · exact List.mem_cons_self

/-- **The loop stands at slots**, and it knows what is left there. -/
lemma visited_slot (hleft : 0 < r.toNat) :
    ∀ v ∈ (receiveAuxiliaries z memory p r).visited,
      (∃ j, v.1 = p + 32 * j) ∧ v.1 + v.2.toNat = p + r.toNat ∧ 0 < v.2.toNat := by
  induction hn : r.toNat using Nat.strong_induction_on generalizing p r with
  | _ n ih =>
      intro v hv
      have hhere : (∃ j, p = p + 32 * j) ∧ p + r.toNat = p + n ∧ 0 < r.toNat :=
        ⟨⟨0, rfl⟩, by rw [hn], hleft⟩
      rcases visited_cases z memory p r with h | ⟨hmax, hmore, h⟩
      · rw [h, List.mem_singleton] at hv
        rw [hv]
        exact hhere
      · rw [h, List.mem_cons] at hv
        rcases hv with rfl | hv
        · exact hhere
        · have hrest := toNat_sub_slot hmax
          have hbounds := (toInt_sub_slot hmax).mp hmore
          obtain ⟨⟨j, hj⟩, hsum, hpos⟩ := ih _ (by omega) (by omega) rfl v hv
          exact ⟨⟨j + 1, by omega⟩, by omega, hpos⟩

/-- **Each slot is visited once**, on the way up. -/
lemma visited_pairwise :
    (receiveAuxiliaries z memory p r).visited.Pairwise fun v w => v.1 < w.1 := by
  induction hn : r.toNat using Nat.strong_induction_on generalizing p r with
  | _ n ih =>
      rcases visited_cases z memory p r with h | ⟨hmax, hmore, h⟩ <;> rw [h]
      · exact List.pairwise_singleton _ _
      · have hrest := toNat_sub_slot hmax
        have hbounds := (toInt_sub_slot hmax).mp hmore
        refine List.pairwise_cons.mpr ⟨fun w hw => ?_, ih _ (by omega) rfl⟩
        obtain ⟨⟨j, hj⟩, -⟩ := visited_slot (by omega) w hw
        show p < w.1
        omega

end Step

/-- A buffer of the extractor, and the memory behind it. -/
structure AuxBuffer where
  dataSize : ULWord
  byte : ℕ → UByte
  behind : ℕ → Option UByte

namespace AuxBuffer

variable (buffer : AuxBuffer)

/-- The memory from the first byte of the buffer on. -/
def memory (i : ℕ) : Option UByte :=
  if i < buffer.dataSize.toNat then some (buffer.byte i) else buffer.behind i

/-- The 32 bytes of a slot, as far as the buffer has them. -/
def slot (pos i : ℕ) : Option UByte :=
  if i < 32 ∧ pos + i < buffer.dataSize.toNat then some (buffer.byte (pos + i)) else none

end AuxBuffer

/-- `AJAAncillaryList::AddReceivedAuxiliaryData`. -/
def AddReceivedAuxiliaryData (includesZeroLength : Bool) (inReceivedData : Option AuxBuffer) :
    ReceivedAuxiliary :=
  match inReceivedData with
  | none => ⟨some AJA_STATUS_NULL, [], []⟩
  | some buffer =>
      if buffer.dataSize = 0 then ⟨some AJA_STATUS_NULL, [], []⟩
      else receiveAuxiliaries includesZeroLength buffer.memory 0 buffer.dataSize

/-! ### The slots of a buffer -/

section Buffer

variable {buffer : AuxBuffer} {z : Bool} {j : ℕ} {r : ULWord}

/-- The loop comes to a slot that the buffer has and that has a type: so has every slot before it,
and the size of the buffer is not taken for a negative one behind the first. -/
structure ReachesSlot (buffer : AuxBuffer) (k : ℕ) : Prop where
  signed : k = 0 ∨ buffer.dataSize.toNat < 2 ^ 31 + 32
  inside : 32 * k + 32 ≤ buffer.dataSize.toNat
  types : ∀ j ≤ k, AuxPacketTypeIsValid (buffer.byte (32 * j))

/-- The loop stands at a slot that begins in the buffer. -/
structure AtSlot (buffer : AuxBuffer) (j : ℕ) (r : ULWord) : Prop where
  left : 32 * j + r.toNat = buffer.dataSize.toNat
  pos : 0 < r.toNat
  signed : j = 0 ∨ buffer.dataSize.toNat < 2 ^ 31 + 32
  types : ∀ i < j, AuxPacketTypeIsValid (buffer.byte (32 * i))

/-- The bytes of the slot are read where the buffer has them. -/
lemma AtSlot.memory_eq (h : AtSlot buffer j r) {i : ℕ} (hi : i < r.toNat) :
    buffer.memory (32 * j + i) = some (buffer.byte (32 * j + i)) := by
  have := h.left
  exact if_pos (by omega)

lemma AtSlot.slot_eq (h : AtSlot buffer j r) {i : ℕ} (hslot : i < 32) (hi : i < r.toNat) :
    buffer.slot (32 * j) i = some (buffer.byte (32 * j + i)) := by
  have := h.left
  exact if_pos ⟨hslot, by omega⟩

/-- **One pass** comes to the next slot. -/
lemma AtSlot.next (h : AtSlot buffer j r) (htype : AuxPacketTypeIsValid (buffer.byte (32 * j)))
    (hmax : ¬ r < AJAAuxillaryPacketSize) (hmore : 0 < (r - AJAAuxillaryPacketSize).toInt) :
    AtSlot buffer (j + 1) (r - AJAAuxillaryPacketSize) := by
  have hleft := h.left
  have hrest := toNat_sub_slot hmax
  have hbounds := (toInt_sub_slot hmax).mp hmore
  refine ⟨by omega, by omega, .inr ?_, fun i hi => ?_⟩
  · rcases h.signed with rfl | hsigned
    · omega
    · exact hsigned
  · rcases Nat.lt_succ_iff_lt_or_eq.mp hi with hi | rfl
    · exact h.types i hi
    · exact htype

/-- A packet of the buffer announces more bytes than its slot has. -/
def SlotAnnouncesMore (buffer : AuxBuffer) (k : ℕ) : Prop :=
  AnnouncesMore (buffer.byte (32 * k)) (buffer.byte (32 * k + 2))

/-- The loop reads each packet in its slot. -/
def ReadsInside (buffer : AuxBuffer) (visited : List (ℕ × ULWord)) : Prop :=
  ∀ v ∈ visited, InitAuxWithReceivedData (buffer.slot v.1) v.2 ≠ none

lemma readsInside_singleton {v : ℕ × ULWord} :
    ReadsInside buffer [v] ↔ InitAuxWithReceivedData (buffer.slot v.1) v.2 ≠ none :=
  List.forall_mem_singleton

lemma readsInside_cons {v : ℕ × ULWord} {visited : List (ℕ × ULWord)} :
    ReadsInside buffer (v :: visited) ↔
      InitAuxWithReceivedData (buffer.slot v.1) v.2 ≠ none ∧ ReadsInside buffer visited :=
  List.forall_mem_cons

/-- **The loop ends** at a slot without a type, and at one that the buffer does not hold; it reads
nothing outside of the slot there. -/
lemma AtSlot.readsInside_end (h : AtSlot buffer j r)
    (hend : ¬ AuxPacketTypeIsValid (buffer.byte (32 * j)) ∨ r < AJAAuxillaryPacketSize) :
    ReadsInside buffer (receiveAuxiliaries z buffer.memory (32 * j) r).visited := by
  have hmem : (fun ndx => buffer.memory (32 * j + ndx)) 0 = some (buffer.byte (32 * j)) :=
    h.memory_eq h.pos
  have hslot : buffer.slot (32 * j) 0 = some (buffer.byte (32 * j)) := h.slot_eq (by omega) h.pos
  by_cases htype : AuxPacketTypeIsValid (buffer.byte (32 * j))
  · have hmax := hend.resolve_left (not_not.mpr htype)
    have hinit : InitAuxWithReceivedData (fun ndx => buffer.memory (32 * j + ndx)) r =
        some (AJA_STATUS_RANGE, r, .Clear) := initAux_range hmem htype hmax
    rw [visited_stop hinit (by simp), readsInside_singleton, initAux_range hslot htype hmax]
    simp
  · have hinit : InitAuxWithReceivedData (fun ndx => buffer.memory (32 * j + ndx)) r =
        some (AJA_STATUS_SUCCESS, 0, .Clear) := initAux_noData hmem htype
    rw [visited_stop hinit (by simp), readsInside_singleton, initAux_noData hslot htype]
    simp

/-- **From a slot on**, the packets are read in their slots exactly where none of those that the
loop comes to announces more. -/
lemma readsInside_iff (h : AtSlot buffer j r) :
    ReadsInside buffer (receiveAuxiliaries z buffer.memory (32 * j) r).visited ↔
      ∀ k, j ≤ k → ReachesSlot buffer k → ¬ SlotAnnouncesMore buffer k := by
  induction hn : r.toNat using Nat.strong_induction_on generalizing j r with
  | _ n ih =>
      have hleft := h.left
      set bytes : ℕ → UByte := fun i => buffer.byte (32 * j + i)
      by_cases htype : AuxPacketTypeIsValid (bytes 0)
      swap
      · -- no data: the loop ends, and no slot from here on is reached
        exact iff_of_true (h.readsInside_end (.inl htype))
          fun k hk hreach => absurd (hreach.types j hk) htype
      by_cases hmax : r < AJAAuxillaryPacketSize
      · refine iff_of_true (h.readsInside_end (.inr hmax)) fun k hk hreach => ?_
        have := hreach.inside
        rw [BitVec.lt_def, auxillaryPacketSize_toNat] at hmax
        omega
      have hsize : 32 ≤ r.toNat := by
        rw [BitVec.lt_def, auxillaryPacketSize_toNat] at hmax
        omega
      have hslot : ∀ i < 32, buffer.slot (32 * j) i = some (bytes i) :=
        fun i hi => h.slot_eq hi (by omega)
      have hmem : ∀ i < 32, (fun ndx => buffer.memory (32 * j + ndx)) i = some (bytes i) :=
        fun i hi => h.memory_eq (by omega)
      by_cases hlong : SlotAnnouncesMore buffer j
      · have hnone := initAux_long bytes hslot (if_neg (by omega)) htype hmax hlong
        refine iff_of_false (fun hall => hall _ mem_visited hnone) fun hall => ?_
        refine hall j le_rfl ⟨h.signed, by omega, fun i hi => ?_⟩ hlong
        rcases hi.lt_or_eq with hi | rfl
        · exact h.types i hi
        · exact htype
      have hhere := initAux_slot bytes hslot htype hmax hlong
      have hinit := initAux_slot bytes hmem htype hmax hlong
      by_cases hmore : 0 < (r - AJAAuxillaryPacketSize).toInt
      · have hrest := toNat_sub_slot hmax
        have hbehind := ih _ (by omega) (h.next htype hmax hmore) rfl
        rw [Nat.mul_succ] at hbehind
        rw [visited_next hinit hmore, readsInside_cons, hhere, hbehind]
        refine ⟨fun hall k hk => ?_, fun hall => ⟨by simp, fun k hk => hall k (by omega)⟩⟩
        rcases hk.lt_or_eq with hk | rfl
        · exact hall.2 k hk
        · exact fun _ => hlong
      · rw [visited_last hinit hmore, readsInside_singleton, hhere]
        refine iff_of_true (by simp) fun k hk hreach => ?_
        rcases hk.lt_or_eq with hk | rfl
        · -- a further slot is reached only where what is left is not taken for a negative number
          have hinside := hreach.inside
          have hsigned := hreach.signed
          rw [toInt_sub_slot hmax] at hmore
          omega
        · exact hlong

end Buffer

/-- Each slot is visited at most once, and no packet is read past its slot. -/
structure StaysInSlots (includesZeroLength : Bool) (buffer : AuxBuffer) : Prop where
  once : ((AddReceivedAuxiliaryData includesZeroLength (some buffer)).visited.map Prod.fst).Nodup
  slots : ∀ v ∈ (AddReceivedAuxiliaryData includesZeroLength (some buffer)).visited,
    32 ∣ v.1 ∧ v.1 < buffer.dataSize.toNat
  inside : ReadsInside buffer (AddReceivedAuxiliaryData includesZeroLength (some buffer)).visited

/-- **No packet is read past its slot** exactly where none of the slots that the loop comes to has
an InfoFrame that announces more than 28 bytes. -/
theorem staysInSlots_iff (includesZeroLength : Bool) (buffer : AuxBuffer) :
    StaysInSlots includesZeroLength buffer ↔
      ∀ k, ReachesSlot buffer k → ¬ (IsInfoFrame (buffer.byte (32 * k)) ∧
        28 < (buffer.byte (32 * k + 2) &&& 0x1F).toNat) := by
  have hcond : (∀ k, ReachesSlot buffer k → ¬ (IsInfoFrame (buffer.byte (32 * k)) ∧
      28 < (buffer.byte (32 * k + 2) &&& 0x1F).toNat)) ↔
      ∀ k, 0 ≤ k → ReachesSlot buffer k → ¬ SlotAnnouncesMore buffer k := by
    refine forall_congr' fun k => ?_
    rw [SlotAnnouncesMore, announcesMore_iff]
    exact ⟨fun h _ => h, fun h => h (Nat.zero_le k)⟩
  rw [hcond]
  by_cases hsize : buffer.dataSize = 0
  · have hvisited : (AddReceivedAuxiliaryData includesZeroLength (some buffer)).visited = [] := by
      rw [AddReceivedAuxiliaryData, if_pos hsize]
    refine iff_of_true ⟨?_, ?_, ?_⟩ fun k _ hreach => ?_
    · rw [hvisited]
      exact List.nodup_nil
    · rw [hvisited]
      exact List.forall_mem_nil _
    · rw [hvisited]
      exact List.forall_mem_nil _
    · have := hreach.inside
      rw [hsize] at this
      simp at this
  · have hpos : 0 < buffer.dataSize.toNat := by
      rw [← BitVec.toNat_inj] at hsize
      exact Nat.pos_of_ne_zero hsize
    have hloop : AddReceivedAuxiliaryData includesZeroLength (some buffer) =
        receiveAuxiliaries includesZeroLength buffer.memory (32 * 0) buffer.dataSize := if_neg hsize
    have hat : AtSlot buffer 0 buffer.dataSize :=
      ⟨by omega, hpos, .inl rfl, fun i hi => absurd hi (Nat.not_lt_zero i)⟩
    rw [← readsInside_iff (z := includesZeroLength) hat]
    refine ⟨fun h => hloop ▸ h.inside, fun h => ⟨?_, ?_, hloop ▸ h⟩⟩
    · rw [hloop, List.nodup_iff_pairwise_ne, List.pairwise_map]
      exact visited_pairwise.imp fun hlt => hlt.ne
    · rw [hloop]
      intro v hv
      obtain ⟨⟨j, hj⟩, hsum, hleft⟩ := visited_slot hpos v hv
      exact ⟨⟨j, by omega⟩, by omega⟩

/-- An InfoFrame of 31 bytes alone in its slot. -/
def longInfoFrame : AuxBuffer where
  dataSize := 32
  byte i := if i = 0 then 0x81 else if i = 2 then 0x1F else 0
  behind _ := none

/-- It is read past the end of the buffer. -/
theorem not_staysInSlots_longInfoFrame : ¬ StaysInSlots true longInfoFrame := by
  intro h
  refine h.inside (0, 32) ?_ (by decide +kernel)
  exact mem_visited

end LibAjaNtv2
