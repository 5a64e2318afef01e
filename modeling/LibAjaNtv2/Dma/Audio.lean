import Mathlib.Tactic
import LibAjaNtv2.Lib.Word
import LibAjaNtv2.Dma.Descriptor

/-!
The multi-link audio transfer (`ntv2dma.c`).

* `DMA_AUDIO_SEGMENT`, `dmaAudioSegmentConfig`: the rings and the cursors of a transfer;
* `dmaAudioSegmentTransfer`: the next page of the host buffer;
* `dmaAudioSegmentDescriptor`: the next descriptor of the page;
* `audioProgram`: the descriptors of all pages, as the program loop generates them.
-/

namespace LibAjaNtv2

/-- The most rings of a transfer. -/
def MAX_NUM_AUDIO_LINKS : ℕ := 4

/-- The audio scatter list to descriptor map. -/
structure DMA_AUDIO_SEGMENT where
  systemSize : ℕ
  transferSize : ℕ
  ringAddress : List ℕ
  ringCount : ℕ
  ringSize : ℕ
  pageAddress : ℕ
  pageSize : ℕ
  audioStart : ℕ
  audioSize : ℕ
  ringIndex : ℕ
  systemOffset : ℕ
  pageOffset : ℕ
  audioOffset : ℕ
  deriving DecidableEq, Repr

/-- The transfer before its first page: the rings are the addresses up to the first zero, each
with an equal share. A start behind the ring is refused. -/
def dmaAudioSegmentConfig (systemSize transferSize : ℕ) (pRingAddress : List ℕ)
    (ringSize audioStart : ℕ) : Option DMA_AUDIO_SEGMENT :=
  if ringSize < audioStart then none
  else
    let ringAddress := (pRingAddress.take MAX_NUM_AUDIO_LINKS).takeWhile (fun a => a ≠ 0)
    some {
      systemSize := systemSize
      transferSize := transferSize
      ringAddress := ringAddress
      ringCount := ringAddress.length
      ringSize := ringSize
      pageAddress := 0
      pageSize := 0
      audioStart := audioStart
      audioSize := transferSize / ringAddress.length
      ringIndex := 0
      systemOffset := 0
      pageOffset := 0
      audioOffset := 0 }

/-- Takes the next page of the host buffer; nothing is left at the end of the buffer. -/
def dmaAudioSegmentTransfer (seg : DMA_AUDIO_SEGMENT) (pageAddress pageSize : ℕ) :
    Option DMA_AUDIO_SEGMENT :=
  if seg.ringSize ≤ pageSize then none
  else
    let systemOffset := toUInt32 (seg.systemOffset + seg.pageSize)
    if seg.systemSize ≤ systemOffset then none
    else
      some { seg with
        systemOffset := systemOffset
        pageAddress := pageAddress
        pageSize := pageSize
        pageOffset := 0 }

/-- The descriptor at the cursors: cut by the end of the page, of the ring's share and of the
ring. -/
def audioDescriptor (seg : DMA_AUDIO_SEGMENT) : Option Descriptor × DMA_AUDIO_SEGMENT :=
  let systemAddress := toUInt64 (seg.pageAddress + seg.pageOffset)
  let cardOffset := toUInt32 (seg.audioStart + seg.audioOffset)
  let descSize := toUInt32 ((seg.pageSize : Int) - seg.pageOffset)
  let descSize :=
    if seg.audioSize < toUInt32 (seg.audioOffset + descSize) then
      toUInt32 ((seg.audioSize : Int) - seg.audioOffset)
    else descSize
  let ring := seg.ringAddress.getD seg.ringIndex 0
  let cut :=
    if seg.ringSize ≤ cardOffset then
      (toUInt32 (ring + ((cardOffset : Int) - seg.ringSize)), descSize)
    else if seg.ringSize ≤ toUInt32 (cardOffset + descSize) then
      (toUInt32 (ring + cardOffset), toUInt32 ((seg.ringSize : Int) - cardOffset))
    else (toUInt32 (ring + cardOffset), descSize)
  if cut.2 = 0 then (none, seg)
  else
    (some { systemAddress := systemAddress, cardAddress := cut.1, descSize := cut.2 },
      { seg with
        pageOffset := toUInt32 (seg.pageOffset + cut.2)
        audioOffset := toUInt32 (seg.audioOffset + cut.2) })

/-- The next descriptor of the page: a ring with its share is followed by the next ring. -/
def dmaAudioSegmentDescriptor (seg : DMA_AUDIO_SEGMENT) :
    Option Descriptor × DMA_AUDIO_SEGMENT :=
  if seg.pageSize ≤ seg.pageOffset then (none, seg)
  else if seg.audioSize ≤ seg.audioOffset then
    let seg := { seg with ringIndex := toUInt32 (seg.ringIndex + 1) }
    if seg.ringCount ≤ seg.ringIndex then (none, seg)
    else audioDescriptor { seg with audioOffset := 0 }
  else audioDescriptor seg

/-- The descriptors of a page: `dmaAudioSegmentDescriptor` until it returns false, `none` if it
does not within `fuel` calls. -/
def audioDescriptors : ℕ → DMA_AUDIO_SEGMENT → Option (List Descriptor × DMA_AUDIO_SEGMENT)
  | 0, _ => none
  | fuel + 1, seg =>
      match dmaAudioSegmentDescriptor seg with
      | (none, seg) => some ([], seg)
      | (some d, seg) => (audioDescriptors fuel seg).map fun r => (d :: r.1, r.2)

/-- The descriptors of a transfer: for each page, until the transfer takes no more. A page gives
no more descriptors than it has bytes. -/
def audioProgram : DMA_AUDIO_SEGMENT → List Piece → Option (List Descriptor)
  | _, [] => some []
  | seg, piece :: pieces =>
      match dmaAudioSegmentTransfer seg piece.address piece.length with
      | none => some []
      | some seg => do
          let (ds, seg) ← audioDescriptors (piece.length + 1) seg
          let rest ← audioProgram seg pieces
          some (ds ++ rest)

end LibAjaNtv2
