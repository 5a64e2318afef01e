import Mathlib.Data.List.GetD
import LibAjaNtv2.Anc.Types
import LibAjaNtv2.Lib.Block
import LibAjaNtv2.Lib.Hops

/-!
Packets that the hardware inserts itself (`AJAAncillaryList::StripNativeInserterGUMPPackets`).

* `gumpFiltered`, `InserterOwns`: the packets that are removed;
* `stripPass`, `stripGUMP`, `StripNativeInserterGUMPPackets`: the loop over the bytes of a buffer;
* `gumpKept`: what is kept of a list of bytes; `StripAt`: where the loop stands;
* `stripGUMP_eq`: **the loop copies what is kept**, in place too;
* `gumpKept_eq_none_iff`: nothing is kept where a packet runs past the end;
* `IsGumpBuffer.kept`, `IsGumpBuffer.kept_bare`: what is kept of a buffer of packets;
* `stripsInserted_iff`: **when the packets are stripped and no buffer is left**.
-/

namespace LibAjaNtv2

/-! ### The packets that are removed -/

/-- The test for the packets that the hardware inserts: analog ones, ATC, VPID, EDH and VITC. -/
def gumpFiltered (header1 header2 did sid payloadSize : UByte) : Bool :=
  if header1 &&& 0x40 ≠ 0 then true
  else if did = 0x60 ∧ sid = 0x60 ∧ payloadSize = 16 then true
  else if did = 0x41 ∧ sid = 0x01 ∧ payloadSize = 4 then true
  else if did = 0xF4 ∧ sid = 0x00 ∧ payloadSize = 16 then true
  else
    let lineNum : UWord :=
      ((header1 &&& 0x0F).setWidth 16 <<< 7) + (header2 &&& 0x7F).setWidth 16
    decide (header1 &&& 0x40 ≠ 0 ∧ (lineNum = 14 ∨ lineNum = 277))

/-- The data count of a packet. -/
def gumpDataCount (packet : List UByte) : UByte := packet.getD 5 0

/-- The packet has these identifiers and this data count. -/
structure IsIdentified (packet : List UByte) (did sid count : UByte) : Prop where
  did_eq : packet.getD 3 0 = did
  sid_eq : packet.getD 4 0 = sid
  count_eq : gumpDataCount packet = count

instance (packet : List UByte) (did sid count : UByte) :
    Decidable (IsIdentified packet did sid count) :=
  decidable_of_iff (packet.getD 3 0 = did ∧ packet.getD 4 0 = sid ∧ gumpDataCount packet = count)
    ⟨fun h => ⟨h.1, h.2.1, h.2.2⟩, fun h => ⟨h.did_eq, h.sid_eq, h.count_eq⟩⟩

/-- The packets that the hardware inserter owns: analog ones (VITC among them), ATC, VPID and
EDH. -/
def InserterOwns (packet : List UByte) : Prop :=
  packet.getD 1 0 &&& 0x40 ≠ 0 ∨ IsIdentified packet 0x60 0x60 16 ∨
    IsIdentified packet 0x41 0x01 4 ∨ IsIdentified packet 0xF4 0x00 16

instance : DecidablePred InserterOwns := fun _ => inferInstanceAs (Decidable (_ ∨ _))

/-- **The test finds the packets that the hardware inserts.** -/
lemma gumpFiltered_iff (packet : List UByte) :
    gumpFiltered (packet.getD 1 0) (packet.getD 2 0) (packet.getD 3 0) (packet.getD 4 0)
      (gumpDataCount packet) = true ↔ InserterOwns packet := by
  rw [gumpFiltered, InserterOwns]
  split_ifs with hanalog hatc hvpid hedh
  · exact iff_of_true rfl (.inl hanalog)
  · exact iff_of_true rfl (.inr (.inl ⟨hatc.1, hatc.2.1, hatc.2.2⟩))
  · exact iff_of_true rfl (.inr (.inr (.inl ⟨hvpid.1, hvpid.2.1, hvpid.2.2⟩)))
  · exact iff_of_true rfl (.inr (.inr (.inr ⟨hedh.1, hedh.2.1, hedh.2.2⟩)))
  · refine iff_of_false (fun h => hanalog (of_decide_eq_true h).1) ?_
    rintro (h | h | h | h)
    · exact hanalog h
    · exact hatc ⟨h.did_eq, h.sid_eq, h.count_eq⟩
    · exact hvpid ⟨h.did_eq, h.sid_eq, h.count_eq⟩
    · exact hedh ⟨h.did_eq, h.sid_eq, h.count_eq⟩

/-! ### The loop -/

/-- `kGUMPHeaderSize`. -/
def kGUMPHeaderSize : ℕ := 7

/-- The variables of the loop. -/
structure StripVars where
  ptr : ℕ
  srcPtr : ℕ
  tgtPtr : ℕ
  uncopied : ℕ
  ndx : ℕ
  deriving DecidableEq

/-- The pending bytes, copied if there are any. -/
def copyUncopied (source : List UByte) (dst : Block UByte) (v : StripVars) : Option (Block UByte) :=
  if v.uncopied ≠ 0 then dst.memcpy v.tgtPtr source v.srcPtr v.uncopied else some dst

/-- Source and destination: a source of its own, or the destination itself. -/
def sourceBytes (src : Option (List UByte)) (dst : Block UByte) : List UByte := src.getD dst.cells

/-- One pass of the loop. -/
def stripPass (src : Option (List UByte)) (srcBufSize : ℕ) (dst : Block UByte) (v : StripVars) :
    Option (Block UByte × StripVars) := do
  let source := sourceBytes src dst
  let start ← source[v.ptr]?
  if start = 0xFF ∧ v.ndx + kGUMPHeaderSize < srcBufSize then
    let payloadSize ← source[v.ptr + 5]?
    let header1 ← source[v.ptr + 1]?
    let header2 ← source[v.ptr + 2]?
    let did ← source[v.ptr + 3]?
    let sid ← source[v.ptr + 4]?
    let packetSize := payloadSize.toNat + kGUMPHeaderSize
    if gumpFiltered header1 header2 did sid payloadSize = true then
      let dst ← copyUncopied source dst v
      return (dst, ⟨v.srcPtr + (v.uncopied + packetSize), v.srcPtr + (v.uncopied + packetSize),
        v.tgtPtr + v.uncopied, 0, v.ndx + packetSize⟩)
    else
      return (dst, { v with
        ptr := v.ptr + packetSize
        ndx := v.ndx + packetSize
        uncopied := v.uncopied + packetSize })
  else
    return (dst, { v with ptr := v.ptr + 1, ndx := v.ndx + 1, uncopied := v.uncopied + 1 })

/-- A pass goes on. -/
lemma stripPass_ndx {src : Option (List UByte)} {srcBufSize : ℕ} {dst dst' : Block UByte}
    {v v' : StripVars} (h : stripPass src srcBufSize dst v = some (dst', v')) : v.ndx < v'.ndx := by
  simp only [stripPass, Option.bind_eq_bind, Option.bind_eq_some_iff] at h
  obtain ⟨start, -, h⟩ := h
  split at h
  · simp only [Option.bind_eq_some_iff] at h
    obtain ⟨_, -, _, -, _, -, _, -, _, -, h⟩ := h
    split at h
    · simp only [Option.bind_eq_some_iff] at h
      obtain ⟨_, -, h⟩ := h
      cases h
      simp [kGUMPHeaderSize]
    · cases h
      simp [kGUMPHeaderSize]
  · cases h
    simp

/-- The loop, and the copy of the rest behind it. -/
def stripGUMP (src : Option (List UByte)) (srcBufSize : ℕ) (dst : Block UByte) (v : StripVars) :
    Option (Block UByte) :=
  if v.ndx < srcBufSize then
    match _hpass : stripPass src srcBufSize dst v with
    | none => none
    | some (dst', v') => stripGUMP src srcBufSize dst' v'
  else copyUncopied (sourceBytes src dst) dst v
  termination_by srcBufSize - v.ndx
  decreasing_by
    have := stripPass_ndx _hpass
    omega

/-- `AJAAncillaryList::StripNativeInserterGUMPPackets`: whether it succeeds, and the destination;
nothing where it leaves one of the buffers. Without a source of its own, the destination is stripped
in its place; the language leaves open what `memcpy` does to ranges that overlap then, and it is
taken to copy the bytes as they were, like `memmove`. -/
def StripNativeInserterGUMPPackets (inSrc : Option (List UByte)) (outDst : List UByte) :
    Option (Bool × List UByte) :=
  let source := inSrc.getD outDst
  if source = [] ∨ outDst = [] then some (false, outDst)
  else if outDst.length < source.length then some (false, outDst)
  else (stripGUMP inSrc source.length ⟨outDst, []⟩ ⟨0, 0, 0, 0, 0⟩).map fun dst => (true, dst.cells)

/-! ### What is kept -/

/-- A packet starts here: its first byte is there, and a byte behind the shortest packet. -/
def StartsPacket (bytes : List UByte) : Prop :=
  bytes.head? = some 0xFF ∧ kGUMPHeaderSize < bytes.length

instance : DecidablePred StartsPacket := fun _ => inferInstanceAs (Decidable (_ ∧ _))

/-- A packet of the inserter starts here. -/
def StartsOwned (bytes : List UByte) : Prop := StartsPacket bytes ∧ InserterOwns bytes

instance : DecidablePred StartsOwned := fun _ => inferInstanceAs (Decidable (_ ∧ _))

/-- How far a pass goes: over a packet, or over a byte. -/
def gumpSize (bytes : List UByte) : ℕ :=
  if StartsPacket bytes then (gumpDataCount bytes).toNat + kGUMPHeaderSize else 1

lemma gumpSize_pos (bytes : List UByte) : 0 < gumpSize bytes := by
  rw [gumpSize, kGUMPHeaderSize]
  split <;> omega

/-- The bytes that are kept; nothing where a packet that is kept runs past the end. -/
def gumpKept (bytes : List UByte) : Option (List UByte) :=
  if _hnil : bytes = [] then some []
  else if StartsOwned bytes then gumpKept (bytes.drop (gumpSize bytes))
  else if gumpSize bytes ≤ bytes.length then
    (gumpKept (bytes.drop (gumpSize bytes))).map (bytes.take (gumpSize bytes) ++ ·)
  else none
  termination_by bytes.length
  decreasing_by
    all_goals
      have hpos := gumpSize_pos bytes
      have hlength := List.length_pos_iff.mpr _hnil
      rw [List.length_drop]
      omega

section Kept

variable {bytes : List UByte}

lemma gumpKept_nil : gumpKept [] = some [] := by
  rw [gumpKept, dif_pos rfl]

/-- A packet of the inserter is passed over. -/
lemma gumpKept_owned (h : StartsOwned bytes) :
    gumpKept bytes = gumpKept (bytes.drop (gumpSize bytes)) := by
  have hnil : bytes ≠ [] := by
    rintro rfl
    cases h.1.1
  rw [gumpKept, dif_neg hnil, if_pos h]

/-- Anything else is kept. -/
lemma gumpKept_kept (hnil : bytes ≠ []) (h : ¬ StartsOwned bytes)
    (hsize : gumpSize bytes ≤ bytes.length) :
    gumpKept bytes =
      (gumpKept (bytes.drop (gumpSize bytes))).map (bytes.take (gumpSize bytes) ++ ·) := by
  rw [gumpKept, dif_neg hnil, if_neg h, if_pos hsize]

lemma gumpKept_past (hnil : bytes ≠ []) (h : ¬ StartsOwned bytes)
    (hsize : ¬ gumpSize bytes ≤ bytes.length) : gumpKept bytes = none := by
  rw [gumpKept, dif_neg hnil, if_neg h, if_neg hsize]

end Kept

/-! ### The loop copies what is kept -/

/-- The cells of a block with data in their place. -/
def putCells (cells : List UByte) (pos : ℕ) (data : List UByte) : List UByte :=
  cells.take pos ++ data ++ cells.drop (pos + data.length)

section Put

variable {cells a b : List UByte} {pos n : ℕ}

@[simp] lemma putCells_nil : putCells cells pos [] = cells := by
  rw [putCells, List.append_nil, List.length_nil, Nat.add_zero, List.take_append_drop]

lemma length_putCells (h : pos + a.length ≤ cells.length) :
    (putCells cells pos a).length = cells.length := by
  simp only [putCells, List.length_append, List.length_take, List.length_drop]
  omega

/-- The cells behind the data stay. -/
lemma drop_putCells (h : pos + a.length ≤ cells.length) (hn : pos + a.length ≤ n) :
    (putCells cells pos a).drop n = cells.drop n := by
  have hlength : (cells.take pos ++ a).length = pos + a.length := by
    rw [List.length_append, List.length_take]
    omega
  calc (putCells cells pos a).drop n
      = (putCells cells pos a).drop ((cells.take pos ++ a).length + (n - (pos + a.length))) := by
        rw [hlength, Nat.add_sub_of_le hn]
    _ = (cells.drop (pos + a.length)).drop (n - (pos + a.length)) :=
        List.drop_length_add_append _
    _ = cells.drop n := by rw [List.drop_drop, Nat.add_sub_of_le hn]

/-- Data behind data. -/
lemma putCells_putCells (h : pos + a.length ≤ cells.length) :
    putCells (putCells cells pos a) (pos + a.length) b = putCells cells pos (a ++ b) := by
  have hlength : (cells.take pos ++ a).length = pos + a.length := by
    rw [List.length_append, List.length_take]
    omega
  have htake : (putCells cells pos a).take (pos + a.length) = cells.take pos ++ a := by
    rw [putCells, ← hlength, List.take_left]
  rw [putCells, htake, drop_putCells h (by omega), putCells, List.length_append,
    List.append_assoc (cells.take pos) a b, Nat.add_assoc]

end Put

/-- The variables behind bytes that are kept. -/
def StripVars.keep (v : StripVars) (size : ℕ) : StripVars :=
  { v with ptr := v.ptr + size, ndx := v.ndx + size, uncopied := v.uncopied + size }

/-- The variables behind a packet of the inserter. -/
def StripVars.skip (v : StripVars) (size : ℕ) : StripVars :=
  ⟨v.srcPtr + (v.uncopied + size), v.srcPtr + (v.uncopied + size), v.tgtPtr + v.uncopied, 0,
    v.ndx + size⟩

/-- Where the loop stands: the pending bytes end there, and it does not write past them. -/
structure StripAt (src : Option (List UByte)) (srcBufSize : ℕ) (dst : Block UByte) (v : StripVars) :
    Prop where
  size : (sourceBytes src dst).length = srcBufSize
  room : srcBufSize ≤ dst.cells.length
  ptr_eq : v.ptr = v.ndx
  pending : v.srcPtr + v.uncopied = v.ndx
  behind : v.tgtPtr ≤ v.srcPtr

section Pass

variable {src : Option (List UByte)} {n : ℕ} {dst : Block UByte} {v : StripVars}

lemma StripAt.getElem_eq (h : StripAt src n dst v) {k : ℕ} (hk : v.ndx + k < n) :
    (sourceBytes src dst)[v.ptr + k]? = some (((sourceBytes src dst).drop v.ndx).getD k 0) := by
  rw [h.ptr_eq, List.getD_eq_getElem?_getD, List.getElem?_drop,
    List.getElem?_eq_getElem (by rw [h.size]; exact hk), Option.getD_some]

lemma StripAt.head_eq (h : StripAt src n dst v) (hndx : v.ndx < n) :
    ((sourceBytes src dst).drop v.ndx).head? =
      some (((sourceBytes src dst).drop v.ndx).getD 0 0) := by
  rw [List.head?_drop, ← h.getElem_eq hndx, h.ptr_eq, Nat.add_zero]

/-- The test for a packet. -/
lemma StripAt.startsPacket_iff (h : StripAt src n dst v) (hndx : v.ndx < n) :
    StartsPacket ((sourceBytes src dst).drop v.ndx) ↔
      ((sourceBytes src dst).drop v.ndx).getD 0 0 = 0xFF ∧ v.ndx + kGUMPHeaderSize < n := by
  rw [StartsPacket, h.head_eq hndx, Option.some_inj, List.length_drop, h.size]
  exact and_congr_right fun _ => by omega

/-- **A pass over a packet of the inserter** copies the pending bytes. -/
lemma StripAt.pass_owned (h : StripAt src n dst v) (hndx : v.ndx < n)
    (howned : StartsOwned ((sourceBytes src dst).drop v.ndx)) :
    stripPass src n dst v = (copyUncopied (sourceBytes src dst) dst v).map fun dst' =>
      (dst', v.skip (gumpSize ((sourceBytes src dst).drop v.ndx))) := by
  obtain ⟨hstart, howns⟩ := howned
  have htest := (h.startsPacket_iff hndx).mp hstart
  have hroom := htest.2
  rw [kGUMPHeaderSize] at hroom
  have hfilter := (gumpFiltered_iff _).mpr howns
  rw [gumpDataCount] at hfilter
  have h0 := h.getElem_eq (show v.ndx + 0 < n by omega)
  rw [Nat.add_zero] at h0
  simp only [stripPass, h0, h.getElem_eq (show v.ndx + 1 < n by omega),
    h.getElem_eq (show v.ndx + 2 < n by omega), h.getElem_eq (show v.ndx + 3 < n by omega),
    h.getElem_eq (show v.ndx + 4 < n by omega), h.getElem_eq (show v.ndx + 5 < n by omega),
    Option.bind_eq_bind, Option.bind_some, if_pos htest, if_pos hfilter]
  rw [gumpSize, if_pos hstart, Option.map_eq_bind]
  rfl

/-- **A pass over anything else** leaves it pending. -/
lemma StripAt.pass_kept (h : StripAt src n dst v) (hndx : v.ndx < n)
    (hkept : ¬ StartsOwned ((sourceBytes src dst).drop v.ndx)) :
    stripPass src n dst v =
      some (dst, v.keep (gumpSize ((sourceBytes src dst).drop v.ndx))) := by
  have h0 := h.getElem_eq (show v.ndx + 0 < n by omega)
  rw [Nat.add_zero] at h0
  by_cases hstart : StartsPacket ((sourceBytes src dst).drop v.ndx)
  · have htest := (h.startsPacket_iff hndx).mp hstart
    have hroom := htest.2
    rw [kGUMPHeaderSize] at hroom
    have hfilter := (gumpFiltered_iff _).not.mpr fun howns => hkept ⟨hstart, howns⟩
    rw [gumpDataCount] at hfilter
    simp only [stripPass, h0, h.getElem_eq (show v.ndx + 1 < n by omega),
      h.getElem_eq (show v.ndx + 2 < n by omega), h.getElem_eq (show v.ndx + 3 < n by omega),
      h.getElem_eq (show v.ndx + 4 < n by omega), h.getElem_eq (show v.ndx + 5 < n by omega),
      Option.bind_eq_bind, Option.bind_some, if_pos htest, if_neg hfilter]
    rw [gumpSize, if_pos hstart]
    rfl
  · have htest := (h.startsPacket_iff hndx).not.mp hstart
    simp only [stripPass, h0, Option.bind_eq_bind, Option.bind_some, if_neg htest]
    rw [gumpSize, if_neg hstart]
    rfl

/-- The pending bytes. -/
def pendingBytes (source : List UByte) (v : StripVars) : List UByte :=
  (source.drop v.srcPtr).take v.uncopied

lemma StripAt.length_pending (h : StripAt src n dst v) (hin : v.uncopied = 0 ∨ v.ndx ≤ n) :
    (pendingBytes (sourceBytes src dst) v).length = v.uncopied := by
  have hpending := h.pending
  rw [pendingBytes, List.length_take, List.length_drop, h.size]
  omega

/-- **The pending bytes are copied** where they end inside the source. -/
lemma StripAt.copy (h : StripAt src n dst v) (hin : v.uncopied = 0 ∨ v.ndx ≤ n) :
    ∃ dst', copyUncopied (sourceBytes src dst) dst v = some dst' ∧
      dst'.cells = putCells dst.cells v.tgtPtr (pendingBytes (sourceBytes src dst) v) := by
  have hlength := h.length_pending hin
  have hpending := h.pending
  have hsize := h.size
  have hroom := h.room
  have hbehind := h.behind
  by_cases hnone : v.uncopied = 0
  · refine ⟨dst, if_neg (not_not.mpr hnone), ?_⟩
    rw [hnone, List.length_eq_zero_iff] at hlength
    rw [hlength, putCells_nil]
  · have hinside : (Move.copy v.tgtPtr v.srcPtr v.uncopied : Move UByte).Inside
        (sourceBytes src dst).length dst.cells.length :=
      .inr ⟨by omega, by omega⟩
    refine ⟨_, (if_pos hnone).trans (if_pos hinside), ?_⟩
    rw [putCells, hlength]
    rfl

/-- Pending bytes that end outside the source are not. -/
lemma StripAt.copy_past (h : StripAt src n dst v) (hndx : n < v.ndx) (hsome : v.uncopied ≠ 0) :
    copyUncopied (sourceBytes src dst) dst v = none := by
  have hpending := h.pending
  have hsize := h.size
  rw [copyUncopied, if_pos hsome]
  refine if_neg ?_
  rintro (hzero | ⟨hinside, -⟩)
  · exact hsome hzero
  · omega

/-- The pending bytes and those that are kept. -/
lemma StripAt.pending_keep (h : StripAt src n dst v) (size : ℕ) :
    pendingBytes (sourceBytes src dst) (v.keep size) =
      pendingBytes (sourceBytes src dst) v ++ ((sourceBytes src dst).drop v.ndx).take size := by
  rw [← h.pending, ← List.drop_drop]
  exact List.take_add

/-- Bytes are kept. -/
lemma StripAt.keep (h : StripAt src n dst v) (size : ℕ) : StripAt src n dst (v.keep size) := by
  have hpending := h.pending
  have hptr := h.ptr_eq
  refine ⟨h.size, h.room, ?_, ?_, h.behind⟩
  · show v.ptr + size = v.ndx + size
    omega
  · show v.srcPtr + (v.uncopied + size) = v.ndx + size
    omega

section Copied

variable {dst' : Block UByte}

/-- What is copied does not reach the bytes that are left, also in place. -/
lemma StripAt.drop_copied (h : StripAt src n dst v) (hin : v.ndx ≤ n)
    (hcells : dst'.cells =
      putCells dst.cells v.tgtPtr (pendingBytes (sourceBytes src dst) v)) {q : ℕ}
    (hq : v.ndx ≤ q) : (sourceBytes src dst').drop q = (sourceBytes src dst).drop q := by
  cases src with
  | some source => rfl
  | none =>
      have hlength := h.length_pending (.inr hin)
      have hpending := h.pending
      have hbehind := h.behind
      have hroom := h.room
      show dst'.cells.drop q = dst.cells.drop q
      rw [hcells, drop_putCells (by omega) (by omega)]

/-- A packet of the inserter is passed over. -/
lemma StripAt.skip (h : StripAt src n dst v) (hin : v.ndx ≤ n)
    (hcells : dst'.cells =
      putCells dst.cells v.tgtPtr (pendingBytes (sourceBytes src dst) v)) (size : ℕ) :
    StripAt src n dst' (v.skip size) := by
  have hlength := h.length_pending (.inr hin)
  have hpending := h.pending
  have hbehind := h.behind
  have hroom := h.room
  have hsize : dst'.cells.length = dst.cells.length := by
    rw [hcells]
    exact length_putCells (by omega)
  refine ⟨?_, by rw [hsize]; exact hroom, ?_, ?_, ?_⟩
  · rw [← h.size]
    cases src with
    | some source => rfl
    | none => exact hsize
  · show v.srcPtr + (v.uncopied + size) = v.ndx + size
    omega
  · show v.srcPtr + (v.uncopied + size) + 0 = v.ndx + size
    omega
  · show v.tgtPtr + v.uncopied ≤ v.srcPtr + (v.uncopied + size)
    omega

end Copied

/-- One pass, and the rest of the loop. -/
lemma stripGUMP_pass {dst' : Block UByte} {v' : StripVars} (hndx : v.ndx < n)
    (hpass : stripPass src n dst v = some (dst', v')) :
    stripGUMP src n dst v = stripGUMP src n dst' v' := by
  rw [stripGUMP, if_pos hndx]
  split
  · next hnone =>
      rw [hpass] at hnone
      cases hnone
  · next hsome =>
      rw [hpass] at hsome
      cases hsome
      rfl

lemma stripGUMP_end (hndx : ¬ v.ndx < n) :
    stripGUMP src n dst v = copyUncopied (sourceBytes src dst) dst v := by
  rw [stripGUMP, if_neg hndx]

/-- **The loop copies the pending bytes and what is kept of those that are left.** -/
lemma stripGUMP_eq (h : StripAt src n dst v) (hin : v.uncopied = 0 ∨ v.ndx ≤ n) :
    (stripGUMP src n dst v).map Block.cells =
      (gumpKept ((sourceBytes src dst).drop v.ndx)).map fun kept =>
        putCells dst.cells v.tgtPtr (pendingBytes (sourceBytes src dst) v ++ kept) := by
  induction hm : n - v.ndx using Nat.strong_induction_on generalizing dst v with
  | _ m ih =>
      by_cases hndx : v.ndx < n
      swap
      · obtain ⟨dst', hcopy, hcells⟩ := h.copy hin
        have hleft : (sourceBytes src dst).drop v.ndx = [] := by
          rw [List.drop_eq_nil_iff, h.size]
          omega
        rw [stripGUMP_end hndx, hcopy, hleft, gumpKept_nil, Option.map_some, Option.map_some,
          hcells, List.append_nil]
      set left := (sourceBytes src dst).drop v.ndx with hleft
      have hpos := gumpSize_pos left
      have hlength : left.length = n - v.ndx := by
        rw [hleft, List.length_drop, h.size]
      have hnil : left ≠ [] := by
        rw [← List.length_pos_iff]
        omega
      by_cases howned : StartsOwned left
      · -- the pending bytes are copied, and none are pending behind the packet
        obtain ⟨dst', hcopy, hcells⟩ := h.copy (.inr hndx.le)
        have hpass := h.pass_owned hndx howned
        rw [hcopy, Option.map_some] at hpass
        have hrun := ih _ (show n - (v.ndx + gumpSize left) < m by omega)
          (h.skip hndx.le hcells (gumpSize left)) (.inl rfl) rfl
        have hbehind : (sourceBytes src dst').drop (v.skip (gumpSize left)).ndx =
            left.drop (gumpSize left) := by
          show (sourceBytes src dst').drop (v.ndx + gumpSize left) = _
          rw [h.drop_copied hndx.le hcells (Nat.le_add_right _ _), hleft, List.drop_drop]
        have hput : ∀ kept, putCells dst'.cells (v.tgtPtr + v.uncopied) kept =
            putCells dst.cells v.tgtPtr (pendingBytes (sourceBytes src dst) v ++ kept) := by
          intro kept
          have hlast := h.length_pending (.inr hndx.le)
          have := h.pending
          have := h.behind
          have := h.room
          rw [hcells, ← hlast, putCells_putCells (by omega)]
        rw [stripGUMP_pass hndx hpass, hrun, hbehind, gumpKept_owned howned]
        exact congrArg (Option.map · _) (funext hput)
      have hpass := h.pass_kept hndx howned
      by_cases hsize : gumpSize left ≤ left.length
      · have hrun := ih _ (show n - (v.ndx + gumpSize left) < m by omega)
          (h.keep (gumpSize left)) (.inr (show v.ndx + gumpSize left ≤ n by omega)) rfl
        have hbehind : (sourceBytes src dst).drop (v.keep (gumpSize left)).ndx =
            left.drop (gumpSize left) := by
          rw [hleft, List.drop_drop]
          rfl
        rw [stripGUMP_pass hndx hpass, hrun, hbehind, gumpKept_kept hnil howned hsize,
          h.pending_keep, Option.map_map, ← hleft]
        refine congrArg (Option.map · _) (funext fun kept => ?_)
        rw [List.append_assoc]
        rfl
      · have hpast : n < (v.keep (gumpSize left)).ndx := by
          show n < v.ndx + gumpSize left
          omega
        have hsome : (v.keep (gumpSize left)).uncopied ≠ 0 := by
          show v.uncopied + gumpSize left ≠ 0
          omega
        rw [stripGUMP_pass hndx hpass, stripGUMP_end hpast.not_gt,
          (h.keep (gumpSize left)).copy_past hpast hsome, gumpKept_past hnil howned hsize]
        rfl

end Pass

/-! ### Packets that run past the end -/

section Overrun

variable {source : List UByte} {p : ℕ}

/-- The loop comes to a packet that is kept and that announces more bytes than are left. -/
structure OverrunsAt (source : List UByte) (p : ℕ) : Prop where
  starts : StartsPacket (source.drop p)
  kept : ¬ InserterOwns (source.drop p)
  past : source.length < p + ((gumpDataCount (source.drop p)).toNat + kGUMPHeaderSize)

/-- The positions that the loop comes to. -/
def GumpReaches (source : List UByte) : ℕ → ℕ → Prop :=
  Hops (fun p => gumpSize (source.drop p) - 1) (· < source.length)

lemma gumpReaches_iff {q : ℕ} : GumpReaches source p q ↔
    p = q ∨ p < source.length ∧ GumpReaches source (p + gumpSize (source.drop p)) q := by
  have hsize : p + (gumpSize (source.drop p) - 1) + 1 = p + gumpSize (source.drop p) := by
    have := gumpSize_pos (source.drop p)
    omega
  rw [← hsize]
  exact Hops.iff_eq_or_hop

/-- What is kept does not fit where a packet overruns. -/
lemma overrunsAt_iff (hp : p < source.length) :
    OverrunsAt source p ↔ ¬ StartsOwned (source.drop p) ∧
      ¬ gumpSize (source.drop p) ≤ (source.drop p).length := by
  rw [List.length_drop]
  constructor
  · intro h
    have hpast := h.past
    refine ⟨fun howned => h.kept howned.2, ?_⟩
    rw [gumpSize, if_pos h.starts]
    omega
  · rintro ⟨howned, hsize⟩
    by_cases hstart : StartsPacket (source.drop p)
    · rw [gumpSize, if_pos hstart] at hsize
      exact ⟨hstart, fun h => howned ⟨hstart, h⟩, by omega⟩
    · rw [gumpSize, if_neg hstart] at hsize
      omega

/-- **Nothing is kept of bytes with a packet that overruns.** -/
lemma gumpKept_eq_none_iff (source : List UByte) (p : ℕ) :
    gumpKept (source.drop p) = none ↔ ∃ q, GumpReaches source p q ∧ OverrunsAt source q := by
  induction hm : source.length - p using Nat.strong_induction_on generalizing p with
  | _ m ih =>
      by_cases hp : p < source.length
      swap
      · have hnil : source.drop p = [] := List.drop_eq_nil_of_le (not_lt.mp hp)
        refine iff_of_false (by simp [hnil, gumpKept_nil]) ?_
        rintro ⟨q, hreach, hover⟩
        rcases gumpReaches_iff.mp hreach with rfl | ⟨hlt, -⟩
        · have := hover.starts.1
          rw [hnil] at this
          cases this
        · exact hp hlt
      have hpos := gumpSize_pos (source.drop p)
      have hnil : source.drop p ≠ [] := by
        rw [ne_eq, List.drop_eq_nil_iff]
        omega
      have hrest := ih _ (by omega) (p + gumpSize (source.drop p)) rfl
      have hsplit : (∃ q, GumpReaches source p q ∧ OverrunsAt source q) ↔ OverrunsAt source p ∨
          gumpKept (source.drop (p + gumpSize (source.drop p))) = none := by
        rw [hrest]
        constructor
        · rintro ⟨q, hreach, hover⟩
          rcases gumpReaches_iff.mp hreach with rfl | ⟨-, hreach⟩
          · exact .inl hover
          · exact .inr ⟨q, hreach, hover⟩
        · rintro (hover | ⟨q, hreach, hover⟩)
          · exact ⟨p, .refl p, hover⟩
          · exact ⟨q, gumpReaches_iff.mpr (.inr ⟨hp, hreach⟩), hover⟩
      rw [hsplit, overrunsAt_iff hp]
      by_cases howned : StartsOwned (source.drop p)
      · rw [gumpKept_owned howned, List.drop_drop]
        exact (or_iff_right fun h => h.1 howned).symm
      by_cases hsize : gumpSize (source.drop p) ≤ (source.drop p).length
      · rw [gumpKept_kept hnil howned hsize, Option.map_eq_none_iff, List.drop_drop]
        exact (or_iff_right fun h => h.2 hsize).symm
      · exact iff_of_true (gumpKept_past hnil howned hsize) (.inl ⟨howned, hsize⟩)

end Overrun

/-! ### Buffers of packets -/

/-- A packet: its header, its announced payload and its checksum. -/
structure IsGumpPacket (packet : List UByte) : Prop where
  starts : packet.head? = some 0xFF
  length_eq : packet.length = (gumpDataCount packet).toNat + kGUMPHeaderSize

section Packets

variable {packet bytes tail : List UByte} {packets : List (List UByte)} {z : ℕ}

/-- Bytes where no packet starts are kept. -/
lemma gumpKept_of_none (h : ∀ k, ¬ StartsPacket (bytes.drop k)) : gumpKept bytes = some bytes := by
  induction bytes with
  | nil => exact gumpKept_nil
  | cons b bytes ih =>
      have hstart := h 0
      rw [List.drop_zero] at hstart
      have hsize : gumpSize (b :: bytes) = 1 := if_neg hstart
      rw [gumpKept_kept (List.cons_ne_nil _ _) (fun howned => hstart howned.1)
        (by rw [hsize, List.length_cons]; omega), hsize, List.drop_one, List.tail_cons,
        ih fun k => h (k + 1)]
      rfl

lemma gumpKept_zeros : gumpKept (List.replicate z 0) = some (List.replicate z 0) := by
  refine gumpKept_of_none fun k h => ?_
  have hmem := List.mem_of_mem_head? h.1
  exact absurd (List.eq_of_mem_replicate (List.mem_of_mem_drop hmem)) (by decide)

/-- As few bytes as the shortest packet are kept, whatever they are. -/
lemma gumpKept_short (h : bytes.length ≤ kGUMPHeaderSize) : gumpKept bytes = some bytes := by
  refine gumpKept_of_none fun k hstart => ?_
  have := hstart.2
  rw [List.length_drop] at this
  omega

lemma IsGumpPacket.seven_le (hp : IsGumpPacket packet) : kGUMPHeaderSize ≤ packet.length := by
  rw [hp.length_eq]
  omega

lemma IsGumpPacket.getD_append (hp : IsGumpPacket packet) {k : ℕ} (hk : k < 7) :
    (packet ++ tail).getD k 0 = packet.getD k 0 :=
  List.getD_append _ _ _ _ (lt_of_lt_of_le hk hp.seven_le)

/-- What follows a packet does not matter for its owner. -/
lemma IsGumpPacket.owns_append (hp : IsGumpPacket packet) :
    InserterOwns (packet ++ tail) ↔ InserterOwns packet := by
  rw [← gumpFiltered_iff, ← gumpFiltered_iff]
  simp only [gumpDataCount, hp.getD_append (show 1 < 7 by omega),
    hp.getD_append (show 2 < 7 by omega), hp.getD_append (show 3 < 7 by omega),
    hp.getD_append (show 4 < 7 by omega), hp.getD_append (show 5 < 7 by omega)]

/-- **A packet and what follows it.** -/
lemma IsGumpPacket.kept_append (hp : IsGumpPacket packet)
    (hlong : kGUMPHeaderSize < (packet ++ tail).length) :
    gumpKept (packet ++ tail) =
      if InserterOwns packet then gumpKept tail else (gumpKept tail).map (packet ++ ·) := by
  have hnil : packet ≠ [] := by
    rintro rfl
    cases hp.starts
  have hstart : StartsPacket (packet ++ tail) :=
    ⟨by rw [List.head?_append_of_ne_nil _ hnil, hp.starts], hlong⟩
  have hsize : gumpSize (packet ++ tail) = packet.length := by
    rw [gumpSize, if_pos hstart, hp.length_eq, gumpDataCount, hp.getD_append (by omega)]
    rfl
  split
  · next howns =>
      rw [gumpKept_owned ⟨hstart, hp.owns_append.mpr howns⟩, hsize, List.drop_left]
  · next howns =>
      rw [gumpKept_kept (List.append_ne_nil_of_left_ne_nil hnil _)
        (fun howned => howns (hp.owns_append.mp howned.2))
        (by rw [hsize, List.length_append]; omega), hsize, List.drop_left, List.take_left]

/-- The packets that the inserter does not own. -/
def notOwned (packets : List (List UByte)) : List (List UByte) :=
  packets.filter fun packet => ¬ InserterOwns packet

lemma notOwned_cons : notOwned (packet :: packets) =
    if InserterOwns packet then notOwned packets else packet :: notOwned packets := by
  rw [notOwned, List.filter_cons]
  by_cases howns : InserterOwns packet
  · rw [if_pos howns, if_neg (by simpa using howns), notOwned]
  · rw [if_neg howns, if_pos (by simpa using howns), notOwned]

/-- **Packets with something behind them**: those that the inserter does not own are kept. -/
lemma gumpKept_packets (hpackets : ∀ packet ∈ packets, IsGumpPacket packet) (htail : tail ≠ []) :
    gumpKept (packets.flatten ++ tail) =
      (gumpKept tail).map ((notOwned packets).flatten ++ ·) := by
  induction packets with
  | nil =>
      show gumpKept tail = (gumpKept tail).map fun kept => kept
      rw [Option.map_id']
  | cons packet packets ih =>
      obtain ⟨hp, hrest⟩ := List.forall_mem_cons.mp hpackets
      have hlong : kGUMPHeaderSize < (packet ++ (packets.flatten ++ tail)).length := by
        have hseven := hp.seven_le
        have hlength := List.length_pos_iff.mpr htail
        simp only [List.length_append]
        omega
      rw [List.flatten_cons, List.append_assoc, hp.kept_append hlong, ih hrest, notOwned_cons]
      split
      · rfl
      · rw [Option.map_map, List.flatten_cons]
        refine congrArg (Option.map · _) (funext fun kept => ?_)
        exact (List.append_assoc _ _ _).symm

/-- The last packet: it is passed over where the inserter owns it and it has a payload. -/
lemma IsGumpPacket.kept_last (hp : IsGumpPacket packet) :
    gumpKept packet =
      some (if InserterOwns packet ∧ kGUMPHeaderSize < packet.length then [] else packet) := by
  by_cases hlong : kGUMPHeaderSize < packet.length
  · have hkept : gumpKept (packet ++ []) =
        if InserterOwns packet then gumpKept [] else (gumpKept []).map (packet ++ ·) :=
      hp.kept_append (by rwa [List.append_nil])
    rw [List.append_nil, gumpKept_nil, Option.map_some, List.append_nil] at hkept
    rw [hkept]
    by_cases howns : InserterOwns packet
    · rw [if_pos howns, if_pos ⟨howns, hlong⟩]
    · rw [if_neg howns, if_neg fun h => howns h.1]
  · rw [gumpKept_short (not_lt.mp hlong), if_neg fun h => hlong h.2]

end Packets

/-! ### The destination -/

/-- The last packet ends at the end of the buffer, has no payload, and the inserter owns it. -/
def EndsBare (packets : List (List UByte)) (z : ℕ) : Prop :=
  z = 0 ∧ ∃ packet, packets.getLast? = some packet ∧ InserterOwns packet ∧
    packet.length = kGUMPHeaderSize

/-- The buffer is packets and zeros behind them. -/
structure IsGumpBuffer (source : List UByte) (packets : List (List UByte)) (z : ℕ) : Prop where
  packets_ok : ∀ packet ∈ packets, IsGumpPacket packet
  source_eq : source = packets.flatten ++ List.replicate z 0

section Buffers

variable {source : List UByte} {packets : List (List UByte)} {z : ℕ}

lemma notOwned_append (front : List (List UByte)) (packet : List UByte) :
    notOwned (front ++ [packet]) =
      notOwned front ++ if InserterOwns packet then [] else [packet] := by
  rw [notOwned, List.filter_append]
  refine congrArg (notOwned front ++ ·) ?_
  exact notOwned_cons

/-- What is kept of packets that end the buffer. -/
lemma gumpKept_snoc {front : List (List UByte)} {packet : List UByte}
    (h : ∀ p ∈ front ++ [packet], IsGumpPacket p) :
    gumpKept (front ++ [packet]).flatten = some ((notOwned front).flatten ++
      if InserterOwns packet ∧ kGUMPHeaderSize < packet.length then [] else packet) := by
  have hp : IsGumpPacket packet := h packet (List.mem_append_right _ (List.mem_singleton_self _))
  have hnil : packet ≠ [] := by
    rintro rfl
    cases hp.starts
  rw [List.flatten_append, List.flatten_singleton,
    gumpKept_packets (fun p hmem => h p (List.mem_append_left _ hmem)) hnil, hp.kept_last]
  rfl

/-- **What is kept of a buffer of packets**, unless it ends with a bare packet of the inserter. -/
lemma IsGumpBuffer.kept (h : IsGumpBuffer source packets z) (hend : ¬ EndsBare packets z) :
    gumpKept source = some ((notOwned packets).flatten ++ List.replicate z 0) := by
  have hok := h.packets_ok
  rw [h.source_eq]
  rcases Nat.eq_zero_or_pos z with rfl | hz
  · rw [List.replicate_zero, List.append_nil, List.append_nil]
    rcases List.eq_nil_or_concat packets with rfl | ⟨front, packet, rfl⟩
    · exact gumpKept_nil
    rw [List.concat_eq_append] at hok hend ⊢
    have hp : IsGumpPacket packet :=
      hok packet (List.mem_append_right _ (List.mem_singleton_self _))
    rw [gumpKept_snoc hok, notOwned_append, List.flatten_append]
    by_cases howns : InserterOwns packet
    · have hlong : kGUMPHeaderSize < packet.length := by
        refine hp.seven_le.lt_of_ne fun hseven => hend ⟨rfl, packet, ?_, howns, hseven.symm⟩
        exact List.getLast?_concat
      rw [if_pos ⟨howns, hlong⟩, if_pos howns]
      rfl
    · rw [if_neg fun h => howns h.1, if_neg howns, List.flatten_singleton]
  · have hzeros : List.replicate z (0 : UByte) ≠ [] := by
      rw [ne_eq, List.replicate_eq_nil_iff]
      omega
    rw [gumpKept_packets hok hzeros, gumpKept_zeros, Option.map_some]

/-- **A bare packet of the inserter at the end** is kept. -/
lemma IsGumpBuffer.kept_bare (h : IsGumpBuffer source packets z) (hend : EndsBare packets z) :
    ∃ packet, packet.head? = some 0xFF ∧
      gumpKept source = some ((notOwned packets).flatten ++ packet) := by
  have hok := h.packets_ok
  obtain ⟨rfl, packet, hlast, howns, hseven⟩ := hend
  obtain ⟨front, rfl⟩ := List.getLast?_eq_some_iff.mp hlast
  refine ⟨packet, (hok packet (List.mem_append_right _ (List.mem_singleton_self _))).starts, ?_⟩
  rw [h.source_eq, List.replicate_zero, List.append_nil, gumpKept_snoc hok, notOwned_append,
    if_pos howns, if_neg fun h => absurd hseven h.2.ne', List.append_nil]

end Buffers

/-- The function does nothing: a buffer is empty, or the destination is smaller than the source. -/
def StripRefuses (inSrc : Option (List UByte)) (outDst : List UByte) : Prop :=
  inSrc.getD outDst = [] ∨ outDst = [] ∨ outDst.length < (inSrc.getD outDst).length

section Strip

variable {inSrc : Option (List UByte)} {outDst : List UByte}

lemma strip_refuses (h : StripRefuses inSrc outDst) :
    StripNativeInserterGUMPPackets inSrc outDst = some (false, outDst) := by
  rw [StripNativeInserterGUMPPackets]
  rcases h with h | h | h
  · rw [if_pos (.inl h)]
  · rw [if_pos (.inr h)]
  · by_cases hnil : inSrc.getD outDst = [] ∨ outDst = []
    · rw [if_pos hnil]
    · rw [if_neg hnil, if_pos h]

/-- **The function copies what is kept** to the beginning of the destination. -/
lemma strip_eq (h : ¬ StripRefuses inSrc outDst) :
    StripNativeInserterGUMPPackets inSrc outDst =
      (gumpKept (inSrc.getD outDst)).map fun kept => (true, putCells outDst 0 kept) := by
  rw [StripRefuses, ← or_assoc, not_or] at h
  have hat : StripAt inSrc (inSrc.getD outDst).length ⟨outDst, []⟩ ⟨0, 0, 0, 0, 0⟩ :=
    ⟨rfl, not_lt.mp h.2, rfl, rfl, le_rfl⟩
  have hrun := stripGUMP_eq hat (.inl rfl)
  rw [StripNativeInserterGUMPPackets, if_neg h.1, if_neg h.2]
  have hmap := congrArg (Option.map fun cells => (true, cells)) hrun
  rw [Option.map_map, Option.map_map] at hmap
  exact hmap

end Strip

lemma putCells_zero (cells data : List UByte) :
    putCells cells 0 data = data ++ cells.drop data.length := by
  rw [putCells, List.take_zero, List.nil_append, Nat.zero_add]

/-- **The destination is the packets and zeros** where the packets do not end with a bare one of the
inserter, and it was zero behind what is copied. -/
lemma IsGumpBuffer.target_iff {source outDst : List UByte} {packets : List (List UByte)} {z : ℕ}
    (h : IsGumpBuffer source packets z) :
    (∀ kept, gumpKept source = some kept →
      ∃ k, putCells outDst 0 kept = (notOwned packets).flatten ++ List.replicate k 0) ↔
    ¬ EndsBare packets z ∧ ∀ b ∈ outDst.drop ((notOwned packets).flatten.length + z), b = 0 := by
  by_cases hend : EndsBare packets z
  · refine iff_of_false (fun hall => ?_) fun hall => hall.1 hend
    obtain ⟨packet, hstart, hkept⟩ := h.kept_bare hend
    obtain ⟨k, hk⟩ := hall _ hkept
    rw [putCells_zero, List.append_assoc, List.append_cancel_left_eq] at hk
    have hmem : (0xFF : UByte) ∈ List.replicate k (0 : UByte) := by
      rw [← hk]
      exact List.mem_append_left _ (List.mem_of_mem_head? hstart)
    exact absurd (List.eq_of_mem_replicate hmem) (by decide)
  · rw [h.kept hend, and_iff_right hend]
    simp only [Option.some_inj, forall_eq', putCells_zero, List.append_assoc,
      List.append_cancel_left_eq, List.length_append, List.length_replicate]
    constructor
    · rintro ⟨k, hk⟩ b hb
      refine List.eq_of_mem_replicate (n := k) ?_
      rw [← hk]
      exact List.mem_append_right _ hb
    · intro hzero
      refine ⟨z + (outDst.drop ((notOwned packets).flatten.length + z)).length, ?_⟩
      rw [List.replicate_add, List.append_cancel_left_eq]
      exact List.eq_replicate_of_mem hzero

/-- Neither buffer is left, and of a buffer of packets and zeros the destination is the packets that
the inserter does not own, and zeros. -/
structure StripsInserted (inSrc : Option (List UByte)) (outDst : List UByte) : Prop where
  inside : StripNativeInserterGUMPPackets inSrc outDst ≠ none
  exact : ∀ packets z, IsGumpBuffer (inSrc.getD outDst) packets z →
    ∀ target, StripNativeInserterGUMPPackets inSrc outDst = some (true, target) →
      ∃ k, target = (notOwned packets).flatten ++ List.replicate k 0

/-- **The inserter's packets are stripped, and neither buffer is left**, exactly where the function
refuses the buffers, or the loop comes to no packet that it keeps and that runs past the end, and no
buffer of packets ends with a bare packet of the inserter or has a destination that is not zero
behind what is copied. -/
theorem stripsInserted_iff (inSrc : Option (List UByte)) (outDst : List UByte) :
    StripsInserted inSrc outDst ↔ StripRefuses inSrc outDst ∨
      (¬ ∃ p, GumpReaches (inSrc.getD outDst) 0 p ∧ OverrunsAt (inSrc.getD outDst) p) ∧
      ∀ packets z, IsGumpBuffer (inSrc.getD outDst) packets z →
        ¬ EndsBare packets z ∧
        ∀ b ∈ outDst.drop ((notOwned packets).flatten.length + z), b = 0 := by
  by_cases hrefuses : StripRefuses inSrc outDst
  · refine iff_of_true ⟨by simp [strip_refuses hrefuses], fun _ _ _ target h => ?_⟩ (.inl hrefuses)
    rw [strip_refuses hrefuses] at h
    cases h
  rw [or_iff_right hrefuses]
  have hinside : StripNativeInserterGUMPPackets inSrc outDst ≠ none ↔
      ¬ ∃ p, GumpReaches (inSrc.getD outDst) 0 p ∧ OverrunsAt (inSrc.getD outDst) p := by
    rw [strip_eq hrefuses, ne_eq, Option.map_eq_none_iff, ← gumpKept_eq_none_iff, List.drop_zero]
  have hexact : ∀ packets z, IsGumpBuffer (inSrc.getD outDst) packets z →
      ((∀ target, StripNativeInserterGUMPPackets inSrc outDst = some (true, target) →
        ∃ k, target = (notOwned packets).flatten ++ List.replicate k 0) ↔
      ¬ EndsBare packets z ∧
        ∀ b ∈ outDst.drop ((notOwned packets).flatten.length + z), b = 0) := by
    intro packets z hbuffer
    rw [← hbuffer.target_iff, strip_eq hrefuses]
    simp only [Option.map_eq_some_iff, Prod.mk.injEq, true_and, forall_exists_index, and_imp,
      forall_apply_eq_imp_iff₂]
  constructor
  · intro h
    exact ⟨hinside.mp h.inside, fun packets z hb => (hexact packets z hb).mp (h.exact packets z hb)⟩
  · rintro ⟨hno, hall⟩
    exact ⟨hinside.mpr hno, fun packets z hb => (hexact packets z hb).mpr (hall packets z hb)⟩

/-- A digital packet that announces 16 bytes, and one of them. -/
theorem not_stripsInserted_overrun :
    ¬ StripsInserted (some [0xFF, 0x80, 0x09, 0x61, 0x01, 0x10, 0x00, 0x00])
      (List.replicate 8 0) := by
  intro h
  exact h.inside (by decide +kernel)

end LibAjaNtv2
