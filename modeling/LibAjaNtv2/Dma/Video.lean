import Mathlib.Tactic
import LibAjaNtv2.Lib.Word
import LibAjaNtv2.Dma.Descriptor

/-!
The segmented video transfer (`ntv2dma.c`).

* `DMA_VIDEO_SEGMENT`, `dmaVideoSegmentConfig`: the geometry and the cursors of a transfer;
* `dmaVideoSegmentTransfer`: the next piece of the host buffer;
* `dmaVideoSegmentDescriptor`: the next descriptor of the piece;
* `videoProgram`: the descriptors of all pieces, as the program loop generates them.
-/

namespace LibAjaNtv2

/-- The video scatter list to descriptor map. -/
structure DMA_VIDEO_SEGMENT where
  cardAddress : ℕ
  cardSize : ℕ
  cardPitch : ℕ
  systemPitch : ℕ
  segmentSize : ℕ
  segmentCount : ℕ
  invertImage : Bool
  transferAddress : ℕ
  transferSize : ℕ
  systemOffset : ℕ
  segmentIndex : ℕ
  deriving DecidableEq, Repr

/-- The bytes of the host buffer that a transfer spans: `dmaTransfer` computes them from the
pitch, the number of segments and the bytes of a segment. -/
def videoCardBytes (videoUserPitch videoNumSegments videoNumBytes : ℕ) : ℕ :=
  toUInt32 (videoUserPitch * ((videoNumSegments : Int) - 1) + videoNumBytes)

/-- The transfer before its first piece. -/
def dmaVideoSegmentConfig (cardAddress cardSize cardPitch systemPitch segmentSize
    segmentCount : ℕ) (invertImage : Bool) : DMA_VIDEO_SEGMENT where
  cardAddress := cardAddress
  cardSize := cardSize
  cardPitch := cardPitch
  systemPitch := systemPitch
  segmentSize := segmentSize
  segmentCount := segmentCount
  invertImage := invertImage
  transferAddress := 0
  transferSize := 0
  systemOffset := 0
  segmentIndex := 0

/-- Takes the next piece of the host buffer; nothing is left once the card size is reached. -/
def dmaVideoSegmentTransfer (seg : DMA_VIDEO_SEGMENT) (transferAddress transferSize : ℕ) :
    Option DMA_VIDEO_SEGMENT :=
  let transferSize := if seg.cardSize < transferSize then seg.cardSize else transferSize
  let systemOffset := toUInt32 (seg.systemOffset + seg.transferSize)
  if seg.cardSize ≤ systemOffset then none
  else
    let transferSize :=
      if seg.cardSize < toUInt32 (systemOffset + transferSize) then
        toUInt32 ((seg.cardSize : Int) - systemOffset)
      else transferSize
    -- the segments before this index end before the piece starts
    let segmentIndex :=
      if seg.segmentSize < systemOffset ∧ 0 < seg.systemPitch then
        toUInt32 ((systemOffset : Int) - seg.segmentSize) / seg.systemPitch
      else 0
    some { seg with
      transferAddress := transferAddress
      transferSize := transferSize
      systemOffset := systemOffset
      segmentIndex := segmentIndex }

namespace DMA_VIDEO_SEGMENT

/-- Where a segment starts on the card. -/
def cardOffset (seg : DMA_VIDEO_SEGMENT) (segmentIndex : ℕ) : ℕ :=
  if seg.invertImage = true then
    toUInt32 (((seg.segmentCount : Int) - segmentIndex - 1) * seg.cardPitch)
  else toUInt32 (segmentIndex * seg.cardPitch)

/-- The part of a segment inside the piece, of size zero if there is none; `none` if the segment
and all later ones are beyond the piece. -/
def overlap (seg : DMA_VIDEO_SEGMENT) (segmentIndex : ℕ) : Option Descriptor :=
  let cardOffset := seg.cardOffset segmentIndex
  let segOffset := toUInt32 (segmentIndex * seg.systemPitch)
  let segSize := seg.segmentSize
  let trnOffset := seg.systemOffset
  let trnSize := seg.transferSize
  if segOffset < trnOffset then
    if trnOffset < toUInt32 (segOffset + segSize) then
      let descSize := toUInt32 ((segSize : Int) - ((trnOffset : Int) - segOffset))
      some {
        systemAddress := seg.transferAddress
        cardAddress := toUInt32 (seg.cardAddress + cardOffset + ((trnOffset : Int) - segOffset))
        descSize := if trnSize < descSize then trnSize else descSize }
    else some ⟨0, 0, 0⟩
  else if segOffset < toUInt32 (trnOffset + trnSize) then
    let descSize := toUInt32 ((trnSize : Int) - ((segOffset : Int) - trnOffset))
    some {
      systemAddress := toUInt64 (seg.transferAddress + ((segOffset : Int) - trnOffset))
      cardAddress := toUInt32 (seg.cardAddress + cardOffset)
      descSize := if segSize < descSize then segSize else descSize }
  else none

/-- The loop over the segments from an index on: the first part that is not empty, and the index
behind it. -/
def nextOverlap (seg : DMA_VIDEO_SEGMENT) : ℕ → ℕ → Option Descriptor × ℕ
  | 0, segmentIndex => (none, segmentIndex)
  | segmentsLeft + 1, segmentIndex =>
      match seg.overlap segmentIndex with
      | none => (none, segmentIndex)
      | some d =>
          if 0 < d.descSize then (some d, segmentIndex + 1)
          else seg.nextOverlap segmentsLeft (segmentIndex + 1)

end DMA_VIDEO_SEGMENT

/-- The next descriptor of the piece. -/
def dmaVideoSegmentDescriptor (seg : DMA_VIDEO_SEGMENT) :
    Option Descriptor × DMA_VIDEO_SEGMENT :=
  if seg.segmentCount = 1 then
    if 0 < seg.segmentIndex then (none, seg)
    else
      (some {
        systemAddress := seg.transferAddress
        cardAddress := toUInt32 (seg.cardAddress + seg.systemOffset)
        descSize := seg.transferSize }, { seg with segmentIndex := seg.segmentIndex + 1 })
  else
    let r := seg.nextOverlap (seg.segmentCount - seg.segmentIndex) seg.segmentIndex
    (r.1, { seg with segmentIndex := r.2 })

/-- The descriptors of a piece: `dmaVideoSegmentDescriptor` until it returns false, `none` if it
does not within `fuel` calls. -/
def videoDescriptors : ℕ → DMA_VIDEO_SEGMENT → Option (List Descriptor × DMA_VIDEO_SEGMENT)
  | 0, _ => none
  | fuel + 1, seg =>
      match dmaVideoSegmentDescriptor seg with
      | (none, seg) => some ([], seg)
      | (some d, seg) => (videoDescriptors fuel seg).map fun r => (d :: r.1, r.2)

/-- The descriptors of a transfer: for each piece, until the transfer takes no more. One call
more than there are segments is enough for a piece. -/
def videoProgram : DMA_VIDEO_SEGMENT → List Piece → Option (List Descriptor)
  | _, [] => some []
  | seg, piece :: pieces =>
      match dmaVideoSegmentTransfer seg piece.address piece.length with
      | none => some []
      | some seg => do
          let (ds, seg) ← videoDescriptors (seg.segmentCount + 1) seg
          let rest ← videoProgram seg pieces
          some (ds ++ rest)

end LibAjaNtv2
