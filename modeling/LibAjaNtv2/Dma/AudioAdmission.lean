import Mathlib.Data.List.TakeWhile
import LibAjaNtv2.Dma.Audio

/-!
Which audio requests `dmaTransfer` lets through to the rings.

* `AudioRequest`, `AudioDevice`, `dmaTransferAudio`: the audio part of `dmaTransfer`;
* `audioPart`, `ringPart`, `audioDescriptor_round`: what one descriptor covers, as long as no
  32-bit sum wraps;
* `usableBytes`, `AudioBudget`, `audioProgram_inside`: a transfer with room for what it carries
  stays in its rings;
* `AudioFull`, `audioProgram_leaves`: a transfer without leaves its first ring;
* `AudioAdmitted`, `audioAdmitted_iff`: **the audio transfer is safe exactly where nothing is
  transferred, or there is a ring and less than two rounds of it are to be filled**.
-/

namespace LibAjaNtv2

/-! ### The audio part of a transfer -/

/-- The distance of the rings of two audio systems. -/
def NTV2_AUDIO_BUFFEROFFSET_BIG : ℕ := 0x00800000

/-- The parameters of a transfer that concern audio. -/
structure AudioRequest where
  pAudUserVa : UInt64
  audioSystem : UInt32
  audioSystemCount : UInt32
  audNumBytes : UInt32
  audOffset : UInt32

/-- What `dmaTransfer` reads of the device: where its audio is, and the size field of the wrap
register. -/
structure AudioDevice where
  canDoStackedAudio : Bool
  memorySize : UInt32
  audioFrameBufferNumber : UInt32
  frameBufferSize : UInt32
  audioBufferBig : Bool
  dmaC2H : Bool

/-- `GetAudioWrapAddress`. -/
def AudioDevice.wrapAddress (dev : AudioDevice) : ℕ :=
  if dev.audioBufferBig then 0x000FF000 * 4 else 0x000FF000

/-- `GetAudioReadOffset`. -/
def AudioDevice.readOffset (dev : AudioDevice) : ℕ :=
  if dev.audioBufferBig then 0x00100000 * 4 else 0x00100000

/-- The address of the ring of an audio system. -/
def AudioDevice.ringAddress (dev : AudioDevice) (audioSystem : UInt32) : ℕ :=
  let audioRingAddress : Int :=
    if dev.canDoStackedAudio then
      (dev.memorySize.toNat : Int) - NTV2_AUDIO_BUFFEROFFSET_BIG * (audioSystem.toNat + 1)
    else dev.audioFrameBufferNumber.toNat * dev.frameBufferSize.toNat
  toUInt32 (if dev.dmaC2H then audioRingAddress + dev.readOffset else audioRingAddress)

/-- The ring addresses of a transfer: those of the audio systems, and zeros behind them. -/
def audioAddresses (audioRingAddress : ℕ) (audioSystemCount : UInt32) : List ℕ :=
  (List.range MAX_NUM_AUDIO_LINKS).map fun i =>
    if i < audioSystemCount.toNat then
      toUInt32 ((audioRingAddress : Int) - i * NTV2_AUDIO_BUFFEROFFSET_BIG)
    else 0

/-- The offset of a request on its rings. -/
def AudioRequest.audioRingOffset (req : AudioRequest) : ℕ := (req.audOffset &&& 0xfffffffc).toNat

/-- The bytes of a request. -/
def AudioRequest.audioCardBytes (req : AudioRequest) : ℕ := (req.audNumBytes &&& 0xfffffffc).toNat

/-- The audio part of `dmaTransfer`: the segment of the transfer and its scatter list, if there is
audio to transfer. The page buffer is `none` if it could not be mapped. A segment without rings has
divided by zero. -/
def dmaTransferAudio (req : AudioRequest) (dev : AudioDevice)
    (pAudioPageBuffer : Option (UInt32 × List Piece)) : Option (DMA_AUDIO_SEGMENT × List Piece) :=
  if 0 < req.audioSystemCount ∨ req.audioSystemCount.toNat ≤ MAX_NUM_AUDIO_LINKS then
    if req.pAudUserVa = 0 ∨ req.audioCardBytes = 0 then none
    else
      match pAudioPageBuffer with
      | none => none
      | some (userSize, pieces) =>
          (dmaAudioSegmentConfig userSize.toNat req.audioCardBytes
            (audioAddresses (dev.ringAddress req.audioSystem) req.audioSystemCount)
            dev.wrapAddress req.audioRingOffset).map fun seg => (seg, pieces)
  else none

/-- The descriptor stays in a ring of the segment. -/
def RingHolds (seg : DMA_AUDIO_SEGMENT) (d : Descriptor) : Prop :=
  ∃ ring ∈ seg.ringAddress, toUInt32 ((d.cardAddress : Int) - ring) + d.descSize ≤ seg.ringSize

/-- What a request is let through to: nothing, or a segment with one to four rings, none of whose
descriptors leaves the rings. -/
def AudioAdmitted : Option (DMA_AUDIO_SEGMENT × List Piece) → Prop
  | none => True
  | some (seg, pieces) =>
      1 ≤ seg.ringCount ∧ seg.ringCount ≤ MAX_NUM_AUDIO_LINKS ∧
        ∃ ds, audioProgram seg pieces = some ds ∧ ∀ d ∈ ds, RingHolds seg d

/-! ### One descriptor -/

/-- What a descriptor may take: what is left of the page and of the share. -/
def audioPart (seg : DMA_AUDIO_SEGMENT) : ℕ :=
  min (seg.pageSize - seg.pageOffset) (seg.audioSize - seg.audioOffset)

/-- The offset on the ring, once around. -/
def ringPart (seg : DMA_AUDIO_SEGMENT) : ℕ :=
  if seg.ringSize ≤ seg.audioStart + seg.audioOffset then
    seg.audioStart + seg.audioOffset - seg.ringSize
  else seg.audioStart + seg.audioOffset

/-- The size of the descriptor: it is cut at the end of the ring in the first round only. -/
def ringCut (seg : DMA_AUDIO_SEGMENT) : ℕ :=
  if seg.ringSize ≤ seg.audioStart + seg.audioOffset then audioPart seg
  else min (audioPart seg) (seg.ringSize - (seg.audioStart + seg.audioOffset))

/-- The cursors of a segment in the first two rounds of a ring. -/
structure AudioBounds (seg : DMA_AUDIO_SEGMENT) : Prop where
  ringSize_lt : seg.ringSize < 16777216
  start_le : seg.audioStart ≤ seg.ringSize
  share_lt : seg.audioSize < 4294967296
  page_lt : seg.pageSize < seg.ringSize
  offset_le : seg.pageOffset ≤ seg.pageSize
  round : seg.audioStart + seg.audioOffset ≤ 2 * seg.ringSize
  system_lt : seg.systemOffset < 4294967296

section Descriptor

variable {seg : DMA_AUDIO_SEGMENT}

/-- The segment behind a descriptor of some size. -/
def audioAdvance (seg : DMA_AUDIO_SEGMENT) (n : ℕ) : DMA_AUDIO_SEGMENT :=
  { seg with
    pageOffset := seg.pageOffset + n
    audioOffset := seg.audioOffset + n }

/-- **One descriptor** in the first two rounds. -/
lemma audioDescriptor_round (h : AudioBounds seg) (hpage : seg.pageOffset < seg.pageSize)
    (hshare : seg.audioOffset < seg.audioSize) :
    ∃ d, audioDescriptor seg = (some d, audioAdvance seg (ringCut seg)) ∧
      d.cardAddress =
        toUInt32 ((seg.ringAddress.getD seg.ringIndex 0 : Int) + ringPart seg) ∧
      d.descSize = ringCut seg ∧ 0 < ringCut seg := by
  obtain ⟨hR, hstart, hS, hps, hpo, hround, -⟩ := h
  have hco : toUInt32 ((seg.audioStart : Int) + seg.audioOffset) =
      seg.audioStart + seg.audioOffset := toUInt32_of_eq (by push_cast; ring) (by omega)
  have hrest : toUInt32 ((seg.pageSize : Int) - seg.pageOffset) =
      seg.pageSize - seg.pageOffset := toUInt32_of_eq (by omega) (by omega)
  have hsum : toUInt32 ((seg.audioOffset : Int) + (seg.pageSize - seg.pageOffset : ℕ)) =
      seg.audioOffset + (seg.pageSize - seg.pageOffset) := toUInt32_of_eq (by omega) (by omega)
  have hleft : toUInt32 ((seg.audioSize : Int) - seg.audioOffset) =
      seg.audioSize - seg.audioOffset := toUInt32_of_eq (by omega) (by omega)
  have hpart : (if seg.audioSize < seg.audioOffset + (seg.pageSize - seg.pageOffset) then
      seg.audioSize - seg.audioOffset else seg.pageSize - seg.pageOffset) = audioPart seg := by
    rw [audioPart]
    split <;> omega
  have hpos : 0 < audioPart seg := by
    rw [audioPart]
    omega
  have hpartle : audioPart seg ≤ seg.pageSize - seg.pageOffset := min_le_left _ _
  have hcut : (if seg.ringSize ≤ seg.audioStart + seg.audioOffset then
        (toUInt32 ((seg.ringAddress.getD seg.ringIndex 0 : Int) +
          (((seg.audioStart + seg.audioOffset : ℕ) : Int) - seg.ringSize)), audioPart seg)
      else if seg.ringSize ≤
          toUInt32 (((seg.audioStart + seg.audioOffset : ℕ) : Int) + audioPart seg) then
        (toUInt32 ((seg.ringAddress.getD seg.ringIndex 0 : Int) +
          ((seg.audioStart + seg.audioOffset : ℕ) : Int)),
          toUInt32 ((seg.ringSize : Int) - ((seg.audioStart + seg.audioOffset : ℕ) : Int)))
      else (toUInt32 ((seg.ringAddress.getD seg.ringIndex 0 : Int) +
          ((seg.audioStart + seg.audioOffset : ℕ) : Int)), audioPart seg)) =
      (toUInt32 ((seg.ringAddress.getD seg.ringIndex 0 : Int) + ringPart seg), ringCut seg) := by
    rw [ringPart, ringCut]
    by_cases hcross : seg.ringSize ≤ seg.audioStart + seg.audioOffset
    · rw [if_pos hcross, if_pos hcross, if_pos hcross, Nat.cast_sub hcross]
    · have hend : toUInt32 (((seg.audioStart + seg.audioOffset : ℕ) : Int) + audioPart seg) =
          seg.audioStart + seg.audioOffset + audioPart seg :=
        toUInt32_of_eq (by push_cast; ring) (by omega)
      have hback : toUInt32 ((seg.ringSize : Int) - ((seg.audioStart + seg.audioOffset : ℕ) : Int)) =
          seg.ringSize - (seg.audioStart + seg.audioOffset) := toUInt32_of_eq (by omega) (by omega)
      rw [if_neg hcross, if_neg hcross, if_neg hcross, hend, hback]
      split_ifs with hwrap
      · rw [min_eq_right (by omega)]
      · rw [min_eq_left (by omega)]
  have hcutpos : 0 < ringCut seg := by
    rw [ringCut]
    split <;> omega
  have hcutle : ringCut seg ≤ audioPart seg := by
    rw [ringCut]
    split <;> omega
  have hpage' : toUInt32 ((seg.pageOffset : Int) + ringCut seg) = seg.pageOffset + ringCut seg :=
    toUInt32_of_eq (by push_cast; ring) (by omega)
  have haudio' : toUInt32 ((seg.audioOffset : Int) + ringCut seg) =
      seg.audioOffset + ringCut seg := toUInt32_of_eq (by push_cast; ring) (by omega)
  refine ⟨⟨toUInt64 (seg.pageAddress + seg.pageOffset),
    toUInt32 ((seg.ringAddress.getD seg.ringIndex 0 : Int) + ringPart seg), ringCut seg⟩, ?_, rfl,
    rfl, hcutpos⟩
  simp only [audioDescriptor, hco, hrest, hsum, hleft, hpart, hcut]
  rw [if_neg hcutpos.ne', hpage', haudio']
  rfl

end Descriptor

/-! ### Transfers with room -/

/-- The bytes of the pieces that the transfer takes from byte `offset` of the buffer on: up to a
piece that is no smaller than the ring, or the end of the buffer. -/
def usableBytes (ringSize systemSize : ℕ) : ℕ → List Piece → ℕ
  | _, [] => 0
  | offset, piece :: pieces =>
      if ringSize ≤ piece.length ∨ systemSize ≤ offset then 0
      else piece.length + usableBytes ringSize systemSize (offset + piece.length) pieces

/-- There is room for what the transfer carries: the share of a ring, or all that is left of the
buffer, ends in the second round. -/
def AudioBudget (seg : DMA_AUDIO_SEGMENT) (pieces : List Piece) : Prop :=
  let rest := usableBytes seg.ringSize seg.systemSize (seg.systemOffset + seg.pageSize) pieces
  seg.audioStart + seg.audioSize ≤ 2 * seg.ringSize ∨
    (seg.audioStart + seg.audioOffset + (seg.pageSize - seg.pageOffset) + rest ≤ 2 * seg.ringSize ∧
      seg.systemOffset + seg.pageSize + rest ≤ 2 * seg.ringSize)

/-- A transfer that stays in its rings. -/
structure AudioSafe (seg : DMA_AUDIO_SEGMENT) (pieces : List Piece) : Prop where
  bounds : AudioBounds seg
  share_pos : 0 < seg.audioSize
  offset_le : seg.audioOffset ≤ seg.audioSize
  live : seg.audioOffset < seg.audioSize → seg.ringIndex < seg.ringAddress.length
  count : seg.ringCount = seg.ringAddress.length
  budget : AudioBudget seg pieces

/-- What no step changes. -/
structure SameRings (seg seg' : DMA_AUDIO_SEGMENT) : Prop where
  ringAddress : seg'.ringAddress = seg.ringAddress
  ringSize : seg'.ringSize = seg.ringSize

section Safe

variable {seg seg' : DMA_AUDIO_SEGMENT} {pieces : List Piece} {d : Descriptor}

lemma SameRings.holds (h : SameRings seg seg') (hd : RingHolds seg' d) : RingHolds seg d := by
  unfold RingHolds at hd ⊢
  rwa [h.ringAddress, h.ringSize] at hd

/-- An offset on a ring, taken back from the card address. -/
lemma toUInt32_ring_sub (ring : ℕ) {x : ℕ} (hx : x < 4294967296) :
    toUInt32 ((toUInt32 ((ring : Int) + x) : ℕ) - (ring : Int)) = x := by
  unfold toUInt32
  omega

/-- **One descriptor** of a transfer with room. -/
lemma AudioSafe.emit (h : AudioSafe seg pieces) (hpage : seg.pageOffset < seg.pageSize)
    (hshare : seg.audioOffset < seg.audioSize) :
    ∃ d, audioDescriptor seg = (some d, audioAdvance seg (ringCut seg)) ∧ RingHolds seg d ∧
      AudioSafe (audioAdvance seg (ringCut seg)) pieces ∧ 0 < ringCut seg ∧
      seg.pageOffset + ringCut seg ≤ seg.pageSize := by
  obtain ⟨d, hd, hcard, hsize, hpos⟩ := audioDescriptor_round h.bounds hpage hshare
  obtain ⟨hR, hstart, hS, hps, hpo, hround, hsys⟩ := h.bounds
  have hlive := h.live hshare
  have hpart₁ : audioPart seg ≤ seg.pageSize - seg.pageOffset := min_le_left _ _
  have hpart₂ : audioPart seg ≤ seg.audioSize - seg.audioOffset := min_le_right _ _
  have hcut : ringCut seg ≤ audioPart seg := by
    rw [ringCut]
    split <;> omega
  have hend : seg.audioStart + seg.audioOffset + ringCut seg ≤ 2 * seg.ringSize := by
    rcases h.budget with hb | ⟨hb, -⟩ <;> omega
  have hin : ringPart seg + ringCut seg ≤ seg.ringSize := by
    rw [ringPart]
    split
    · omega
    · next hfirst =>
      rw [ringCut, if_neg hfirst]
      omega
  refine ⟨d, hd, ⟨seg.ringAddress.getD seg.ringIndex 0, ?_, ?_⟩, ⟨⟨hR, hstart, hS, hps, ?_, ?_,
    hsys⟩, h.share_pos, ?_, fun _ => hlive, h.count, ?_⟩, hpos, by omega⟩
  · rw [List.getD_eq_getElem?_getD, List.getElem?_eq_getElem hlive, Option.getD_some]
    exact List.getElem_mem hlive
  · rw [hcard, hsize, toUInt32_ring_sub _ (by omega)]
    exact hin
  · change seg.pageOffset + ringCut seg ≤ seg.pageSize
    omega
  · change seg.audioStart + (seg.audioOffset + ringCut seg) ≤ 2 * seg.ringSize
    omega
  · change seg.audioOffset + ringCut seg ≤ seg.audioSize
    omega
  · rcases h.budget with hb | ⟨hb, hb'⟩
    · exact .inl hb
    · refine .inr ⟨?_, hb'⟩
      change seg.audioStart + (seg.audioOffset + ringCut seg) +
        (seg.pageSize - (seg.pageOffset + ringCut seg)) + _ ≤ 2 * seg.ringSize
      dsimp only [audioAdvance]
      omega

/-- The next ring takes over. -/
lemma AudioSafe.nextRing (h : AudioSafe seg pieces) {i : ℕ} (hi : i < seg.ringCount) :
    AudioSafe { seg with ringIndex := i, audioOffset := 0 } pieces := by
  obtain ⟨hR, hstart, hS, hps, hpo, hround, hsys⟩ := h.bounds
  refine ⟨⟨hR, hstart, hS, hps, hpo, ?_, hsys⟩, h.share_pos, Nat.zero_le _, fun _ => ?_, h.count, ?_⟩
  · change seg.audioStart + 0 ≤ 2 * seg.ringSize
    omega
  · change i < seg.ringAddress.length
    rw [← h.count]
    exact hi
  · rcases h.budget with hb | ⟨hb, hb'⟩
    · exact .inl hb
    · refine .inr ⟨?_, hb'⟩
      dsimp only
      omega

/-- **One call** of a transfer with room: a descriptor that stays in a ring, or none. -/
lemma AudioSafe.descriptor (h : AudioSafe seg pieces) :
    (∃ seg', dmaAudioSegmentDescriptor seg = (none, seg') ∧ SameRings seg seg' ∧
        AudioSafe seg' pieces) ∨
      ∃ d seg', dmaAudioSegmentDescriptor seg = (some d, seg') ∧ SameRings seg seg' ∧
        AudioSafe seg' pieces ∧ RingHolds seg d ∧
        seg'.pageSize - seg'.pageOffset < seg.pageSize - seg.pageOffset := by
  rw [dmaAudioSegmentDescriptor]
  by_cases hpage : seg.pageSize ≤ seg.pageOffset
  · rw [if_pos hpage]
    exact .inl ⟨seg, rfl, ⟨rfl, rfl⟩, h⟩
  rw [if_neg hpage]
  by_cases hshare : seg.audioSize ≤ seg.audioOffset
  · rw [if_pos hshare]
    dsimp only
    by_cases hlast : seg.ringCount ≤ toUInt32 ((seg.ringIndex : Int) + 1)
    · rw [if_pos hlast]
      obtain ⟨hR, hstart, hS, hps, hpo, hround, hsys⟩ := h.bounds
      exact .inl ⟨_, rfl, ⟨rfl, rfl⟩, ⟨⟨hR, hstart, hS, hps, hpo, hround, hsys⟩, h.share_pos,
        h.offset_le, fun hlt => absurd hlt (not_lt.mpr hshare), h.count, h.budget⟩⟩
    · rw [if_neg hlast]
      obtain ⟨d, hd, hholds, hsafe, hcut, hle⟩ :=
        (h.nextRing (not_le.mp hlast)).emit (not_le.mp hpage) h.share_pos
      refine .inr ⟨d, _, hd, ⟨rfl, rfl⟩, hsafe, SameRings.holds ⟨rfl, rfl⟩ hholds, ?_⟩
      dsimp only [audioAdvance] at hle ⊢
      omega
  · rw [if_neg hshare]
    obtain ⟨d, hd, hholds, hsafe, hcut, hle⟩ := h.emit (not_le.mp hpage) (not_le.mp hshare)
    refine .inr ⟨d, _, hd, ⟨rfl, rfl⟩, hsafe, hholds, ?_⟩
    dsimp only [audioAdvance]
    omega

/-- **One page** of a transfer with room. -/
lemma AudioSafe.descriptors (h : AudioSafe seg pieces) {fuel : ℕ}
    (hfuel : seg.pageSize - seg.pageOffset < fuel) :
    ∃ ds seg', audioDescriptors fuel seg = some (ds, seg') ∧ SameRings seg seg' ∧
      AudioSafe seg' pieces ∧ ∀ d ∈ ds, RingHolds seg d := by
  induction fuel generalizing seg with
  | zero => omega
  | succ fuel ih =>
      rw [audioDescriptors]
      rcases h.descriptor with ⟨seg', hseg', hsame, hsafe⟩ |
        ⟨d, seg', hseg', hsame, hsafe, hholds, hlt⟩
      · rw [hseg']
        exact ⟨[], seg', rfl, hsame, hsafe, by simp⟩
      · obtain ⟨ds, seg'', hds, hsame', hsafe', hall⟩ := ih hsafe (by omega)
        rw [hseg']
        simp only [hds, Option.map_some]
        refine ⟨d :: ds, seg'', rfl, ⟨hsame'.ringAddress.trans hsame.ringAddress,
          hsame'.ringSize.trans hsame.ringSize⟩, hsafe', fun d' hd' => ?_⟩
        rcases List.mem_cons.mp hd' with rfl | hd'
        · exact hholds
        · exact hsame.holds (hall d' hd')

/-- **The next page** of a transfer with room. -/
lemma AudioSafe.transfer {piece : Piece} (h : AudioSafe seg (piece :: pieces))
    (hseg' : dmaAudioSegmentTransfer seg piece.address piece.length = some seg') :
    SameRings seg seg' ∧ AudioSafe seg' pieces ∧
      seg'.pageSize - seg'.pageOffset = piece.length := by
  obtain ⟨hR, hstart, hS, hps, hpo, hround, hsys⟩ := h.bounds
  rw [dmaAudioSegmentTransfer] at hseg'
  dsimp only at hseg'
  split_ifs at hseg' with hbig hdone
  obtain rfl := Option.some.inj hseg'
  refine ⟨⟨rfl, rfl⟩, ⟨⟨hR, hstart, hS, not_le.mp hbig, Nat.zero_le _, hround,
    toUInt32_lt ((seg.systemOffset : Int) + seg.pageSize)⟩, h.share_pos, h.offset_le, h.live,
    h.count, ?_⟩, Nat.sub_zero _⟩
  rcases h.budget with hb | ⟨hb, hb'⟩
  · exact .inl hb
  · have hoff : toUInt32 ((seg.systemOffset : Int) + seg.pageSize) =
        seg.systemOffset + seg.pageSize := toUInt32_of_eq (by push_cast; ring) (by omega)
    rw [hoff] at hdone ⊢
    rw [usableBytes, if_neg (by rw [not_or]; exact ⟨hbig, hdone⟩)] at hb hb'
    refine .inr ⟨?_, ?_⟩
    · dsimp only
      omega
    · dsimp only
      omega

/-- **A transfer with room** stays in its rings. -/
lemma audioProgram_inside (h : AudioSafe seg pieces) :
    ∃ ds, audioProgram seg pieces = some ds ∧ ∀ d ∈ ds, RingHolds seg d := by
  induction pieces generalizing seg with
  | nil => exact ⟨[], rfl, by simp⟩
  | cons piece pieces ih =>
      rw [audioProgram]
      cases htransfer : dmaAudioSegmentTransfer seg piece.address piece.length with
      | none => exact ⟨[], rfl, by simp⟩
      | some seg' =>
          obtain ⟨hsame, hsafe, hlen⟩ := h.transfer htransfer
          have hfuel : seg'.pageSize - seg'.pageOffset < piece.length + 1 := by omega
          obtain ⟨ds, seg'', hds, hsame', hsafe', hall⟩ := hsafe.descriptors hfuel
          obtain ⟨rest, hrest, hall'⟩ := ih hsafe'
          refine ⟨ds ++ rest, ?_, fun d hd => ?_⟩
          · simp only [hds, hrest, Option.bind_eq_bind, Option.bind_some]
          · rcases List.mem_append.mp hd with hd | hd
            · exact hsame.holds (hall d hd)
            · exact hsame.holds (hsame'.holds (hall' d hd))

end Safe

/-! ### Transfers without room -/

/-- A transfer that has filled part of its first ring without a gap, has more than two rounds of it
to fill, and the bytes for it. -/
structure AudioFull (seg : DMA_AUDIO_SEGMENT) (pieces : List Piece) : Prop where
  bounds : AudioBounds seg
  first : seg.ringIndex = 0
  share : 2 * seg.ringSize < seg.audioStart + seg.audioSize
  position : seg.systemOffset + seg.pageOffset = seg.audioOffset
  bytes : 2 * seg.ringSize < seg.audioStart + seg.audioOffset + (seg.pageSize - seg.pageOffset) +
    usableBytes seg.ringSize seg.systemSize (seg.systemOffset + seg.pageSize) pieces

/-- The descriptor goes over the end of the first ring. -/
def LeavesFirst (seg : DMA_AUDIO_SEGMENT) (d : Descriptor) : Prop :=
  ∃ x ≤ seg.ringSize, seg.ringSize < x + d.descSize ∧
    d.cardAddress = toUInt32 ((seg.ringAddress.getD 0 0 : Int) + x)

section Full

variable {seg seg' : DMA_AUDIO_SEGMENT} {pieces : List Piece} {ds : List Descriptor}

lemma SameRings.leaves {d : Descriptor} (h : SameRings seg seg') (hd : LeavesFirst seg' d) :
    LeavesFirst seg d := by
  unfold LeavesFirst at hd ⊢
  rwa [h.ringAddress, h.ringSize] at hd

/-- **One page** of a transfer without room: a descriptor leaves the ring, or the page is used
up. -/
lemma AudioFull.descriptors (h : AudioFull seg pieces) {fuel : ℕ}
    (hds : audioDescriptors fuel seg = some (ds, seg')) :
    (∃ d ∈ ds, LeavesFirst seg d) ∨
      (SameRings seg seg' ∧ AudioFull seg' pieces ∧ seg'.pageOffset = seg'.pageSize) := by
  induction fuel generalizing seg ds with
  | zero => simp [audioDescriptors] at hds
  | succ fuel ih =>
      obtain ⟨hR, hstart, hS, hps, hpo, hround, hsys⟩ := h.bounds
      have hshareLt := h.share
      have hbytes := h.bytes
      rw [audioDescriptors, dmaAudioSegmentDescriptor] at hds
      by_cases hpage : seg.pageSize ≤ seg.pageOffset
      · rw [if_pos hpage] at hds
        obtain ⟨rfl, rfl⟩ := Prod.mk.inj (Option.some.inj hds)
        exact .inr ⟨⟨rfl, rfl⟩, h, le_antisymm hpo hpage⟩
      rw [if_neg hpage, if_neg (by omega)] at hds
      obtain ⟨d, hd, hcard, hsize, hpos⟩ :=
        audioDescriptor_round h.bounds (not_le.mp hpage) (by omega)
      rw [h.first] at hcard
      rw [hd] at hds
      simp only [Option.map_eq_some_iff] at hds
      obtain ⟨⟨rest, seg''⟩, hrest, heq⟩ := hds
      obtain ⟨rfl, rfl⟩ := Prod.mk.inj heq
      by_cases hleaves : seg.ringSize < ringPart seg + ringCut seg
      · refine .inl ⟨d, List.mem_cons_self .., ringPart seg, ?_, by rw [hsize]; exact hleaves, hcard⟩
        rw [ringPart]
        split <;> omega
      · have hend : seg.audioStart + seg.audioOffset + ringCut seg ≤ 2 * seg.ringSize := by
          rw [ringPart] at hleaves
          split at hleaves <;> omega
        have hcut : ringCut seg ≤ seg.pageSize - seg.pageOffset := by
          rw [ringCut, audioPart]
          split <;> omega
        have hnext : AudioFull (audioAdvance seg (ringCut seg)) pieces := by
          have hposition := h.position
          refine ⟨⟨hR, hstart, hS, hps, ?_, ?_, hsys⟩, h.first, h.share, ?_, ?_⟩ <;>
            dsimp only [audioAdvance] <;> omega
        rcases ih hnext hrest with ⟨d', hd', hl⟩ | ⟨hsame, hfull, hused⟩
        · exact .inl ⟨d', List.mem_cons_of_mem _ hd', SameRings.leaves ⟨rfl, rfl⟩ hl⟩
        · exact .inr ⟨⟨hsame.ringAddress, hsame.ringSize⟩, hfull, hused⟩

/-- **A transfer without room** leaves its first ring. -/
lemma audioProgram_leaves (h : AudioFull seg pieces) (hused : seg.pageOffset = seg.pageSize)
    (hds : audioProgram seg pieces = some ds) : ∃ d ∈ ds, LeavesFirst seg d := by
  induction pieces generalizing seg ds with
  | nil =>
      have hbytes := h.bytes
      have hround := h.bounds.round
      rw [usableBytes] at hbytes
      omega
  | cons piece pieces ih =>
      obtain ⟨hR, hstart, hS, hps, hpo, hround, hsys⟩ := h.bounds
      have hbytes := h.bytes
      have hposition := h.position
      have hoff : toUInt32 ((seg.systemOffset : Int) + seg.pageSize) =
          seg.systemOffset + seg.pageSize := toUInt32_of_eq (by push_cast; ring) (by omega)
      rw [usableBytes] at hbytes
      by_cases hstop : seg.ringSize ≤ piece.length ∨ seg.systemSize ≤ seg.systemOffset + seg.pageSize
      · rw [if_pos hstop] at hbytes
        omega
      rw [if_neg hstop] at hbytes
      rw [not_or] at hstop
      rw [audioProgram, dmaAudioSegmentTransfer, if_neg hstop.1, hoff, if_neg hstop.2] at hds
      simp only [Option.bind_eq_bind, Option.bind_eq_some_iff] at hds
      obtain ⟨⟨ds₁, seg₁⟩, h₁, ds₂, h₂, heq⟩ := hds
      obtain rfl := Option.some.inj heq
      have hfull : AudioFull { seg with
          systemOffset := seg.systemOffset + seg.pageSize
          pageAddress := piece.address
          pageSize := piece.length
          pageOffset := 0 } pieces := by
        refine ⟨⟨hR, hstart, hS, not_le.mp hstop.1, Nat.zero_le _, hround, ?_⟩, h.first, h.share,
          ?_, ?_⟩ <;> dsimp only <;> omega
      rcases hfull.descriptors h₁ with ⟨d, hd, hl⟩ | ⟨hsame, hfull₁, hused₁⟩
      · exact ⟨d, List.mem_append_left _ hd, SameRings.leaves ⟨rfl, rfl⟩ hl⟩
      · obtain ⟨d, hd, hl⟩ := ih hfull₁ hused₁ h₂
        exact ⟨d, List.mem_append_right _ hd, SameRings.leaves ⟨rfl, rfl⟩ (hsame.leaves hl)⟩

end Full

/-! ### Admission -/

/-- The rings of a request: its addresses up to the first zero. -/
def AudioRequest.rings (req : AudioRequest) (dev : AudioDevice) : List ℕ :=
  (audioAddresses (dev.ringAddress req.audioSystem) req.audioSystemCount).takeWhile (fun a => a ≠ 0)

/-- Nothing is transferred, or there is a ring, and what goes to one ring ends in its second
round. -/
def AudioFitsRings (req : AudioRequest) (dev : AudioDevice) : Option (UInt32 × List Piece) → Prop
  | none => True
  | some (userSize, pieces) =>
      req.pAudUserVa = 0 ∨ req.audioCardBytes = 0 ∨ dev.wrapAddress < req.audioRingOffset ∨
        (1 ≤ (req.rings dev).length ∧
          (req.audioRingOffset + req.audioCardBytes / (req.rings dev).length ≤
              2 * dev.wrapAddress ∨
            req.audioRingOffset + usableBytes dev.wrapAddress userSize.toNat 0 pieces ≤
              2 * dev.wrapAddress))

section Admission

variable {req : AudioRequest} {dev : AudioDevice} {userSize : UInt32} {pieces : List Piece}

/-- The rings are a multiple of the distance below the first one. -/
lemma exists_of_mem_rings {ring : ℕ} (h : ring ∈ req.rings dev) :
    ∃ i < 4, ring = toUInt32 ((dev.ringAddress req.audioSystem : Int) -
      (i : ℕ) * NTV2_AUDIO_BUFFEROFFSET_BIG) := by
  have hne : ring ≠ 0 := by simpa using List.mem_takeWhile_imp h
  have hmem := (List.takeWhile_prefix _).subset h
  rw [audioAddresses, List.mem_map] at hmem
  obtain ⟨i, hi, heq⟩ := hmem
  split at heq
  · exact ⟨i, List.mem_range.mp hi, heq.symm⟩
  · exact absurd heq.symm hne

/-- The first ring is that of the request's audio system. -/
lemma rings_getD (h : 1 ≤ (req.rings dev).length) :
    (req.rings dev).getD 0 0 = dev.ringAddress req.audioSystem := by
  have hlt : dev.ringAddress req.audioSystem < 4294967296 := toUInt32_lt _
  rw [AudioRequest.rings, audioAddresses, MAX_NUM_AUDIO_LINKS, List.range_succ_eq_map,
    List.map_cons] at h ⊢
  by_cases hcount : 0 < req.audioSystemCount.toNat
  · have hfirst : toUInt32 ((dev.ringAddress req.audioSystem : Int) -
        (0 : ℕ) * NTV2_AUDIO_BUFFEROFFSET_BIG) = dev.ringAddress req.audioSystem :=
      toUInt32_of_eq (by simp) hlt
    rw [if_pos hcount, hfirst] at h ⊢
    by_cases hne : dev.ringAddress req.audioSystem = 0
    · simp [hne] at h
    · rw [List.takeWhile_cons_of_pos (by simpa using hne), List.getD_cons_zero]
  · simp [hcount] at h

lemma audioAddresses_length {audioRingAddress : ℕ} {audioSystemCount : UInt32} :
    (audioAddresses audioRingAddress audioSystemCount).length = MAX_NUM_AUDIO_LINKS := by
  rw [audioAddresses, List.length_map, List.length_range]

lemma rings_length_le : (req.rings dev).length ≤ MAX_NUM_AUDIO_LINKS :=
  (List.takeWhile_prefix _).length_le.trans audioAddresses_length.le

/-- What is far from the first ring is no closer to the others, which lie below it. -/
lemma toUInt32_ring_apart (ring : ℕ) {i x : ℕ} (hi : i < 4) (hx : x < 16777216) :
    x ≤ toUInt32 ((toUInt32 ((ring : Int) + x) : ℕ) -
      (toUInt32 ((ring : Int) - (i : ℕ) * NTV2_AUDIO_BUFFEROFFSET_BIG) : ℕ)) := by
  rw [NTV2_AUDIO_BUFFEROFFSET_BIG]
  unfold toUInt32
  omega

/-- What leaves the first ring is in none of the others. -/
lemma not_holds_of_leaves {seg : DMA_AUDIO_SEGMENT} {d : Descriptor}
    (hrings : seg.ringAddress = req.rings dev) (hpos : 1 ≤ (req.rings dev).length)
    (hR : seg.ringSize < 16777216) (hleaves : LeavesFirst seg d) : ¬ RingHolds seg d := by
  rintro ⟨ring, hmem, hle⟩
  obtain ⟨x, hx, hlt, hcard⟩ := hleaves
  rw [hrings, rings_getD hpos] at hcard
  rw [hrings] at hmem
  obtain ⟨i, hi, rfl⟩ := exists_of_mem_rings hmem
  rw [hcard] at hle
  have hapart := toUInt32_ring_apart (dev.ringAddress req.audioSystem) hi (hx.trans_lt hR)
  exact absurd (hlt.trans_le (Nat.add_le_add_right hapart _)) (not_lt.mpr hle)

/-- The segment of a request before its first page. -/
def AudioRequest.segment (req : AudioRequest) (dev : AudioDevice) (userSize : UInt32) :
    DMA_AUDIO_SEGMENT where
  systemSize := userSize.toNat
  transferSize := req.audioCardBytes
  ringAddress := req.rings dev
  ringCount := (req.rings dev).length
  ringSize := dev.wrapAddress
  pageAddress := 0
  pageSize := 0
  audioStart := req.audioRingOffset
  audioSize := req.audioCardBytes / (req.rings dev).length
  ringIndex := 0
  systemOffset := 0
  pageOffset := 0
  audioOffset := 0

/-- The segment of a request that is not refused. -/
lemma audioConfig_eq (hstart : ¬ dev.wrapAddress < req.audioRingOffset) :
    dmaAudioSegmentConfig userSize.toNat req.audioCardBytes
        (audioAddresses (dev.ringAddress req.audioSystem) req.audioSystemCount) dev.wrapAddress
        req.audioRingOffset =
      some (req.segment dev userSize) := by
  have htake : (audioAddresses (dev.ringAddress req.audioSystem)
      req.audioSystemCount).take MAX_NUM_AUDIO_LINKS =
        audioAddresses (dev.ringAddress req.audioSystem) req.audioSystemCount :=
    List.take_of_length_le audioAddresses_length.le
  unfold dmaAudioSegmentConfig
  rw [if_neg hstart, htake]
  rfl

lemma wrapAddress_lt (dev : AudioDevice) : 0 < dev.wrapAddress ∧ dev.wrapAddress < 16777216 := by
  unfold AudioDevice.wrapAddress
  split <;> decide

/-- A request with bytes has some for each ring. -/
lemma share_pos (hbytes : req.audioCardBytes ≠ 0) (hrings : 1 ≤ (req.rings dev).length) :
    0 < req.audioCardBytes / (req.rings dev).length := by
  have hle : (req.rings dev).length ≤ 4 := rings_length_le
  rw [AudioRequest.audioCardBytes, toNat_and_words] at hbytes ⊢
  exact Nat.div_pos (by omega) hrings

/-- The cursors of a request are in the first round. -/
lemma segment_bounds (hstart : ¬ dev.wrapAddress < req.audioRingOffset) :
    AudioBounds (req.segment dev userSize) := by
  obtain ⟨hpos, hlt⟩ := wrapAddress_lt dev
  have hbytes : req.audioCardBytes < 4294967296 := UInt32.toNat_lt _
  have hshare : req.audioCardBytes / (req.rings dev).length ≤ req.audioCardBytes :=
    Nat.div_le_self _ _
  refine ⟨hlt, not_lt.mp hstart, ?_, hpos, le_rfl, ?_, ?_⟩ <;>
    dsimp only [AudioRequest.segment] <;> omega

/-- A request that ends in the second round is safe. -/
lemma segment_safe (hstart : ¬ dev.wrapAddress < req.audioRingOffset)
    (hbytes : req.audioCardBytes ≠ 0) (hrings : 1 ≤ (req.rings dev).length)
    (hroom : req.audioRingOffset + req.audioCardBytes / (req.rings dev).length ≤
        2 * dev.wrapAddress ∨
      req.audioRingOffset + usableBytes dev.wrapAddress userSize.toNat 0 pieces ≤
        2 * dev.wrapAddress) :
    AudioSafe (req.segment dev userSize) pieces := by
  refine ⟨segment_bounds hstart, share_pos hbytes hrings, Nat.zero_le _, fun _ => hrings, rfl, ?_⟩
  rcases hroom with hroom | hroom
  · exact .inl hroom
  · refine .inr ⟨?_, ?_⟩ <;> simp only [AudioRequest.segment, add_zero, zero_add] <;> omega

/-- Any other leaves its first ring. -/
lemma segment_full (hstart : ¬ dev.wrapAddress < req.audioRingOffset)
    (hshare : 2 * dev.wrapAddress <
      req.audioRingOffset + req.audioCardBytes / (req.rings dev).length)
    (hbytes : 2 * dev.wrapAddress <
      req.audioRingOffset + usableBytes dev.wrapAddress userSize.toNat 0 pieces) :
    AudioFull (req.segment dev userSize) pieces := by
  refine ⟨segment_bounds hstart, rfl, hshare, rfl, ?_⟩
  dsimp only [AudioRequest.segment]
  omega

/-- **Audio admission**: for every request, device and host buffer the audio part of a transfer
transfers nothing, or fills one to four rings without leaving them, exactly where it is asked for
nothing, is refused by its offset, or has a ring and ends in the second round of each. -/
theorem audioAdmitted_iff (req : AudioRequest) (dev : AudioDevice)
    (pAudioPageBuffer : Option (UInt32 × List Piece)) :
    AudioAdmitted (dmaTransferAudio req dev pAudioPageBuffer) ↔
      AudioFitsRings req dev pAudioPageBuffer := by
  have hcounts : 0 < req.audioSystemCount ∨
      req.audioSystemCount.toNat ≤ MAX_NUM_AUDIO_LINKS := by
    rcases Nat.eq_zero_or_pos req.audioSystemCount.toNat with hzero | hpos
    · exact .inr (by rw [hzero]; exact Nat.zero_le _)
    · exact .inl hpos
  unfold dmaTransferAudio
  rw [if_pos hcounts]
  cases pAudioPageBuffer with
  | none => split <;> simp only [AudioAdmitted, AudioFitsRings]
  | some buffer =>
      obtain ⟨userSize, pieces⟩ := buffer
      rw [AudioFitsRings]
      by_cases hnothing : req.pAudUserVa = 0 ∨ req.audioCardBytes = 0
      · rw [if_pos hnothing]
        exact iff_of_true trivial (hnothing.imp_right .inl)
      rw [if_neg hnothing]
      rw [not_or] at hnothing
      dsimp only
      by_cases hstart : dev.wrapAddress < req.audioRingOffset
      · rw [dmaAudioSegmentConfig, if_pos hstart]
        exact iff_of_true trivial (.inr (.inr (.inl hstart)))
      rw [audioConfig_eq hstart, Option.map_some, AudioAdmitted]
      simp only [hnothing.1, hnothing.2, hstart, false_or]
      constructor
      · rintro ⟨hrings, -, ds, hds, hall⟩
        refine ⟨hrings, ?_⟩
        by_contra hroom
        rw [not_or, not_le, not_le] at hroom
        obtain ⟨d, hd, hleaves⟩ :=
          audioProgram_leaves (segment_full hstart hroom.1 hroom.2) rfl hds
        exact not_holds_of_leaves rfl hrings (wrapAddress_lt dev).2 hleaves (hall d hd)
      · rintro ⟨hrings, hroom⟩
        exact ⟨hrings, rings_length_le,
          audioProgram_inside (segment_safe hstart hnothing.2 hrings hroom)⟩

/-- Without an audio system there is no ring to divide by. -/
theorem not_audioAdmitted_without_system :
    ¬ AudioAdmitted (dmaTransferAudio ⟨0x7f0000000000, 0, 0, 4096, 0⟩
      ⟨true, 0x40000000, 0, 0, true, false⟩ (some (4096, [⟨0, 4096, by decide, by decide⟩]))) := by
  rw [show dmaTransferAudio ⟨0x7f0000000000, 0, 0, 4096, 0⟩ ⟨true, 0x40000000, 0, 0, true, false⟩
    (some (4096, [⟨0, 4096, by decide, by decide⟩])) = some (⟨4096, 4096, [], 0, 0x3fc000, 0, 0, 0,
      0, 0, 0, 0, 0⟩, [⟨0, 4096, by decide, by decide⟩]) from rfl]
  exact fun h => absurd h.1 (by decide)

end Admission

end LibAjaNtv2
