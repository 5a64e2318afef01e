import Mathlib.Tactic
import LibAjaNtv2.Dma.Video

/-!
The video transfer moves exactly the requested segments.

* `VideoGeometry`: a segmented transfer whose sums fit a word;
* `AtPiece`: the state at a piece;
* `AtPiece.overlap_spec`, `AtPiece.descriptor_spec`, `AtPiece.descriptors_spec`: what one index,
  one descriptor and one piece carry;
* `shortcut_spec`, `transfer_spec`: the next piece, and the segments that the shortcut leaves out;
* `videoProgram_carries`: every byte of every segment exactly once.
-/

namespace LibAjaNtv2

/-- A segmented transfer: at least one segment, none empty, and no 32-bit sum overflows. -/
structure VideoGeometry where
  cardAddress : ℕ
  cardPitch : ℕ
  systemPitch : ℕ
  segmentSize : ℕ
  segmentCount : ℕ
  invertImage : Bool
  count_pos : 1 ≤ segmentCount
  size_pos : 0 < segmentSize
  system_fits : systemPitch * (segmentCount - 1) + segmentSize < 4294967296
  card_fits : cardAddress + cardPitch * (segmentCount - 1) + segmentSize ≤ 4294967296

namespace VideoGeometry

variable (g : VideoGeometry)

/-- The bytes of the host buffer that the transfer spans. -/
def cardSize : ℕ := g.systemPitch * (g.segmentCount - 1) + g.segmentSize

/-- The transfer as configured. -/
def config : DMA_VIDEO_SEGMENT :=
  dmaVideoSegmentConfig g.cardAddress
    (videoCardBytes g.systemPitch g.segmentCount g.segmentSize) g.cardPitch g.systemPitch
    g.segmentSize g.segmentCount g.invertImage

/-- Where a segment starts on the card, bottom up if the image is inverted. -/
def cardPosition (i : ℕ) : ℕ :=
  if g.invertImage = true then g.cardPitch * (g.segmentCount - 1 - i) else g.cardPitch * i

/-- Byte `o` of the host buffer in segment `i`, on the card. -/
def cardByte (i o : ℕ) : ℕ := g.cardAddress + g.cardPosition i + (o - g.systemPitch * i)

/-- What a piece at bus address `a` with the bytes `[b, e)` of the buffer carries of a
segment. -/
def part (a b e i : ℕ) : Multiset (Option ℕ × ℕ) :=
  (Interval.clip (g.systemPitch * i) (g.systemPitch * i + g.segmentSize) b e).map
    fun o => (some (a + (o - b)), g.cardByte i o)

/-- The state in the middle of a transfer. -/
def state (a size offset index : ℕ) : DMA_VIDEO_SEGMENT :=
  { g.config with
    transferAddress := a, transferSize := size, systemOffset := offset, segmentIndex := index }

section state

variable (a size offset index : ℕ)

@[simp] lemma state_cardAddress : (g.state a size offset index).cardAddress = g.cardAddress := rfl
@[simp] lemma state_systemPitch : (g.state a size offset index).systemPitch = g.systemPitch := rfl
@[simp] lemma state_segmentSize : (g.state a size offset index).segmentSize = g.segmentSize := rfl
@[simp] lemma state_segmentCount :
    (g.state a size offset index).segmentCount = g.segmentCount := rfl
@[simp] lemma state_transferAddress : (g.state a size offset index).transferAddress = a := rfl
@[simp] lemma state_transferSize : (g.state a size offset index).transferSize = size := rfl
@[simp] lemma state_systemOffset : (g.state a size offset index).systemOffset = offset := rfl
@[simp] lemma state_segmentIndex : (g.state a size offset index).segmentIndex = index := rfl

end state

/-- A segment ends inside the buffer. -/
lemma segment_end_le {i : ℕ} (hi : i < g.segmentCount) :
    g.systemPitch * i + g.segmentSize ≤ g.cardSize := by
  have hmul : g.systemPitch * i ≤ g.systemPitch * (g.segmentCount - 1) :=
    Nat.mul_le_mul_left _ (by omega)
  rw [cardSize]
  omega

/-- A segment ends inside the card region. -/
lemma cardPosition_le {i : ℕ} (hi : i < g.segmentCount) :
    g.cardPosition i ≤ g.cardPitch * (g.segmentCount - 1) := by
  rw [cardPosition]
  split
  · exact Nat.mul_le_mul_left _ (Nat.sub_le _ _)
  · exact Nat.mul_le_mul_left _ (by omega)

lemma cardSize_lt : g.cardSize < 4294967296 := g.system_fits

/-- The card size that `dmaTransfer` computes. -/
lemma config_cardSize : g.config.cardSize = g.cardSize := by
  have hpos := g.count_pos
  refine toUInt32_of_eq ?_ g.system_fits
  push_cast [Nat.cast_sub hpos, cardSize]
  rfl

/-- The card offset of a segment does not wrap. -/
lemma state_cardOffset (a size offset index : ℕ) {i : ℕ} (hi : i < g.segmentCount) :
    (g.state a size offset index).cardOffset i = g.cardPosition i := by
  have hle := g.cardPosition_le hi
  have hfits := g.card_fits
  have hs := g.size_pos
  rw [cardPosition] at hle ⊢
  rw [DMA_VIDEO_SEGMENT.cardOffset]
  change (if g.invertImage = true then toUInt32 (((g.segmentCount : Int) - i - 1) * g.cardPitch)
    else toUInt32 ((i : Int) * g.cardPitch)) = _
  split
  · rename_i h
    rw [if_pos h] at hle
    refine toUInt32_of_eq ?_ (by omega)
    have hsub : ((g.segmentCount - 1 - i : ℕ) : Int) = (g.segmentCount : Int) - i - 1 := by omega
    rw [Nat.cast_mul, hsub]
    ring
  · rename_i h
    rw [if_neg h] at hle
    exact toUInt32_of_eq (by push_cast; ring) (by omega)

end VideoGeometry

namespace VideoGeometry

variable (g : VideoGeometry)

/-- The descriptor of the part of a segment in a piece carries it. -/
lemma carried_part (a b e i : ℕ) :
    carried [⟨a + (max (g.systemPitch * i) b - b), g.cardByte i (max (g.systemPitch * i) b),
      min (g.systemPitch * i + g.segmentSize) e - max (g.systemPitch * i) b⟩] =
      g.part a b e i := by
  rw [carried_singleton (le_max_right _ _), part, Interval.clip]
  refine Multiset.map_congr rfl fun o ho => ?_
  have hlo := (Multiset.mem_Ico.mp ho).1
  have hmax : g.systemPitch * i ≤ max (g.systemPitch * i) b := le_max_left _ _
  rw [cardByte, cardByte]
  congr 1
  omega

lemma part_eq_zero_of_end_le {a b e i : ℕ} (h : g.systemPitch * i + g.segmentSize ≤ b) :
    g.part a b e i = 0 := by
  rw [part, Interval.clip_of_end_le h]
  rfl

lemma part_eq_zero_of_le_start {a b e i : ℕ} (h : e ≤ g.systemPitch * i) :
    g.part a b e i = 0 := by
  rw [part, Interval.clip_of_le_start h]
  rfl

end VideoGeometry

/-- The bytes `[b, e)` of the buffer are a piece at bus address `a`. -/
structure AtPiece (g : VideoGeometry) (a b e : ℕ) : Prop where
  lt : b < e
  le : e ≤ g.cardSize
  fits : a + (e - b) ≤ 18446744073709551616

namespace AtPiece

variable {g : VideoGeometry} {a b e : ℕ} (h : AtPiece g a b e)
include h

/-- **One segment of a piece**: the part of it in the piece, or the end of the piece. -/
lemma overlap_spec (index : ℕ) {i : ℕ} (hi : i < g.segmentCount) :
    (∃ d, (g.state a (e - b) b index).overlap i = some d ∧ carried [d] = g.part a b e i) ∨
      (g.state a (e - b) b index).overlap i = none ∧ e ≤ g.systemPitch * i := by
  have hlt := h.lt
  have hle := h.le
  have hfits := h.fits
  have hend := g.segment_end_le hi
  have hcard := g.cardPosition_le hi
  have hcfits := g.card_fits
  have hsize := g.size_pos
  have hlt32 := g.cardSize_lt
  have hco := g.state_cardOffset a (e - b) b index hi
  have hseg : toUInt32 ((i : Int) * g.systemPitch) = g.systemPitch * i :=
    toUInt32_of_eq (by push_cast; ring) (by omega)
  have hsum : toUInt32 ((g.systemPitch * i : ℕ) + (g.segmentSize : Int)) =
      g.systemPitch * i + g.segmentSize := toUInt32_of_eq (by push_cast; ring) (by omega)
  have htrn : toUInt32 ((b : Int) + (e - b : ℕ)) = e := toUInt32_of_eq (by omega) (by omega)
  have hpart := g.carried_part a b e i
  simp only [DMA_VIDEO_SEGMENT.overlap, hco, VideoGeometry.state_systemPitch,
    VideoGeometry.state_segmentSize, VideoGeometry.state_systemOffset,
    VideoGeometry.state_transferSize, VideoGeometry.state_transferAddress,
    VideoGeometry.state_cardAddress, hseg, hsum, htrn]
  rcases Nat.lt_or_ge (g.systemPitch * i) b with hPb | hPb
  · rw [if_pos hPb]
    refine .inl ?_
    rcases Nat.lt_or_ge b (g.systemPitch * i + g.segmentSize) with hbs | hbs
    · -- the piece starts inside the segment
      rw [if_pos hbs]
      refine ⟨_, rfl, ?_⟩
      rw [← hpart, max_eq_right hPb.le, Nat.sub_self, Nat.add_zero, VideoGeometry.cardByte]
      have hcard : toUInt32 ((g.cardAddress : Int) + g.cardPosition i +
          ((b : Int) - (g.systemPitch * i : ℕ))) =
          g.cardAddress + g.cardPosition i + (b - g.systemPitch * i) :=
        toUInt32_of_eq (by omega) (by omega)
      have hsz : toUInt32 ((g.segmentSize : Int) - ((b : Int) - (g.systemPitch * i : ℕ))) =
          g.systemPitch * i + g.segmentSize - b := toUInt32_of_eq (by omega) (by omega)
      have hmin : (if e - b < g.systemPitch * i + g.segmentSize - b then e - b
          else g.systemPitch * i + g.segmentSize - b) =
          min (g.systemPitch * i + g.segmentSize) e - b := by
        split <;> omega
      rw [hcard, hsz, hmin]
    · -- the segment ends before the piece
      rw [if_neg (Nat.not_lt.mpr hbs), g.part_eq_zero_of_end_le hbs]
      exact ⟨_, rfl, rfl⟩
  · rw [if_neg (Nat.not_lt.mpr hPb)]
    rcases Nat.lt_or_ge (g.systemPitch * i) e with hPe | hPe
    · -- the segment starts inside the piece
      rw [if_pos hPe]
      refine .inl ⟨_, rfl, ?_⟩
      rw [← hpart, max_eq_left hPb, VideoGeometry.cardByte, Nat.sub_self, Nat.add_zero]
      have hsys : toUInt64 ((a : Int) + ((g.systemPitch * i : ℕ) - (b : Int))) =
          a + (g.systemPitch * i - b) := toUInt64_of_eq (by omega) (by omega)
      have hcard : toUInt32 ((g.cardAddress : Int) + g.cardPosition i) =
          g.cardAddress + g.cardPosition i := toUInt32_of_eq (by omega) (by omega)
      have hsz : toUInt32 (((e - b : ℕ) : Int) - ((g.systemPitch * i : ℕ) - (b : Int))) =
          e - g.systemPitch * i := toUInt32_of_eq (by omega) (by omega)
      have hmin : (if g.segmentSize < e - g.systemPitch * i then g.segmentSize
          else e - g.systemPitch * i) =
          min (g.systemPitch * i + g.segmentSize) e - g.systemPitch * i := by
        split <;> omega
      rw [hsys, hcard, hsz, hmin]
    · -- the segment is beyond the piece
      rw [if_neg (Nat.not_lt.mpr hPe)]
      exact .inr ⟨rfl, hPe⟩

/-- **The segments from an index on**: the first part with bytes and the index behind it, or no
more bytes for the piece. -/
lemma nextOverlap_spec (index : ℕ) (left i : ℕ) (hn : i + left = g.segmentCount) :
    (∃ d i', (g.state a (e - b) b index).nextOverlap left i = (some d, i') ∧ i < i' ∧
        i' ≤ g.segmentCount ∧ carried [d] = ∑ j ∈ Finset.Ico i i', g.part a b e j) ∨
      ∃ i', (g.state a (e - b) b index).nextOverlap left i = (none, i') ∧
        i' ≤ g.segmentCount ∧ ∑ j ∈ Finset.Ico i g.segmentCount, g.part a b e j = 0 := by
  induction left generalizing i with
  | zero =>
      refine .inr ⟨i, rfl, by omega, ?_⟩
      rw [Finset.Ico_eq_empty (by omega), Finset.sum_empty]
  | succ left ih =>
      have hi : i < g.segmentCount := by omega
      rw [DMA_VIDEO_SEGMENT.nextOverlap]
      rcases h.overlap_spec index hi with ⟨d, hd, hpart⟩ | ⟨hnone, hbeyond⟩
      · rw [hd]
        simp only
        by_cases hz : 0 < d.descSize
        · rw [if_pos hz]
          refine .inl ⟨d, i + 1, rfl, Nat.lt_succ_self i, hi, ?_⟩
          rw [hpart, Finset.sum_Ico_succ_top le_rfl, Finset.Ico_self, Finset.sum_empty, zero_add]
        · rw [if_neg hz]
          have hzero : g.part a b e i = 0 := by
            rw [← hpart]
            simp [carried, carriedList, Descriptor.byteList, Nat.eq_zero_of_not_pos hz]
          rcases ih (i + 1) (by omega) with ⟨d', i', hd', hlt, hle, hsum⟩ | ⟨i', hi', hle, hsum⟩
          · refine .inl ⟨d', i', hd', by omega, hle, ?_⟩
            rw [Finset.sum_eq_sum_Ico_succ_bot (by omega), hzero, zero_add, hsum]
          · refine .inr ⟨i', hi', hle, ?_⟩
            rw [Finset.sum_eq_sum_Ico_succ_bot hi, hzero, zero_add, hsum]
      · rw [hnone]
        refine .inr ⟨i, rfl, hi.le, Finset.sum_eq_zero fun j hj => ?_⟩
        have hij := (Finset.mem_Ico.mp hj).1
        exact g.part_eq_zero_of_le_start
          (hbeyond.trans (Nat.mul_le_mul_left _ hij))

/-- **One call**: a descriptor of the bytes up to a later index, or no more bytes. -/
lemma descriptor_spec {index : ℕ} (hindex : index ≤ g.segmentCount) :
    (∃ d i', dmaVideoSegmentDescriptor (g.state a (e - b) b index) =
        (some d, g.state a (e - b) b i') ∧ index < i' ∧ i' ≤ g.segmentCount ∧
        carried [d] = ∑ j ∈ Finset.Ico index i', g.part a b e j) ∨
      ∃ i', dmaVideoSegmentDescriptor (g.state a (e - b) b index) =
        (none, g.state a (e - b) b i') ∧
        ∑ j ∈ Finset.Ico index g.segmentCount, g.part a b e j = 0 := by
  rw [dmaVideoSegmentDescriptor, VideoGeometry.state_segmentCount,
    VideoGeometry.state_segmentIndex]
  by_cases h₁ : g.segmentCount = 1
  · -- a single segment takes the piece as it is
    rw [if_pos h₁]
    by_cases hz : 0 < index
    · rw [if_pos hz]
      refine .inr ⟨index, rfl, ?_⟩
      rw [Finset.Ico_eq_empty (by omega), Finset.sum_empty]
    · obtain rfl : index = 0 := Nat.eq_zero_of_not_pos hz
      rw [if_neg hz]
      refine .inl ⟨_, 1, rfl, Nat.zero_lt_one, h₁.ge, ?_⟩
      have hend : e ≤ g.segmentSize := by
        have hle := h.le
        rwa [VideoGeometry.cardSize, h₁, Nat.sub_self, Nat.mul_zero, Nat.zero_add] at hle
      have hpos : g.cardPosition 0 = 0 := by
        have hle := g.cardPosition_le (i := 0) g.count_pos
        rw [h₁, Nat.sub_self, Nat.mul_zero] at hle
        omega
      have hfits := g.card_fits
      have hlt := h.lt
      have hcard : toUInt32 ((g.cardAddress : Int) + b) = g.cardAddress + b :=
        toUInt32_of_eq (by omega) (by omega)
      have hpart := g.carried_part a b e 0
      rw [Nat.mul_zero, Nat.zero_add, max_eq_right (Nat.zero_le b), min_eq_right hend,
        VideoGeometry.cardByte, hpos, Nat.mul_zero, Nat.sub_self, Nat.add_zero, Nat.add_zero,
        Nat.sub_zero] at hpart
      rw [Finset.sum_Ico_succ_top le_rfl, Finset.Ico_self, Finset.sum_empty, zero_add, ← hpart]
      simp only [VideoGeometry.state_cardAddress, VideoGeometry.state_systemOffset,
        VideoGeometry.state_transferAddress, VideoGeometry.state_transferSize, hcard]
  · rw [if_neg h₁]
    rcases h.nextOverlap_spec index (g.segmentCount - index) index (by omega) with
      ⟨d, i', hd, hlt, hle, hsum⟩ | ⟨i', hd, -, hsum⟩
    · refine .inl ⟨d, i', ?_, hlt, hle, hsum⟩
      simp only [hd]
      rfl
    · refine .inr ⟨i', ?_, hsum⟩
      simp only [hd]
      rfl

/-- **One piece**: the calls end, and their descriptors carry the parts of all segments from the
index on. -/
lemma descriptors_spec (fuel : ℕ) {index : ℕ} (hindex : index ≤ g.segmentCount)
    (hfuel : g.segmentCount - index < fuel) :
    ∃ ds i', videoDescriptors fuel (g.state a (e - b) b index) =
        some (ds, g.state a (e - b) b i') ∧
      carried ds = ∑ j ∈ Finset.Ico index g.segmentCount, g.part a b e j := by
  induction fuel generalizing index with
  | zero => omega
  | succ fuel ih =>
      rw [videoDescriptors]
      rcases h.descriptor_spec hindex with ⟨d, i', hd, hlt, hle, hsum⟩ | ⟨i', hd, hsum⟩
      · obtain ⟨ds, i'', hds, hrest⟩ := ih hle (by omega)
        rw [hd]
        simp only [hds, Option.map_some]
        refine ⟨d :: ds, i'', rfl, ?_⟩
        rw [carried_cons, hsum, hrest, Finset.sum_Ico_consecutive _ hlt.le hle]
      · rw [hd]
        exact ⟨[], i', rfl, hsum.symm⟩

end AtPiece

namespace VideoGeometry

variable (g : VideoGeometry)

/-! ### From piece to piece -/

/-- Once the card size is reached no piece is taken. -/
lemma transfer_done {a size offset index : ℕ} (hdone : g.cardSize ≤ offset + size)
    (hfits : offset + size < 4294967296) (address length : ℕ) :
    dmaVideoSegmentTransfer (g.state a size offset index) address length = none := by
  have hoff : toUInt32 ((offset : Int) + size) = offset + size :=
    toUInt32_of_eq (by push_cast; ring) hfits
  have hcs : (g.state a size offset index).cardSize = g.cardSize := g.config_cardSize
  simp only [dmaVideoSegmentTransfer, hcs, state_systemOffset, state_transferSize, hoff]
  rw [if_pos hdone]

/-- The segments before the shortcut's index end before the piece. -/
lemma shortcut_spec {b : ℕ} (hb : b < g.cardSize) :
    (if g.segmentSize < b ∧ 0 < g.systemPitch then
        toUInt32 ((b : Int) - g.segmentSize) / g.systemPitch else 0) ≤ g.segmentCount ∧
      ∀ j < (if g.segmentSize < b ∧ 0 < g.systemPitch then
          toUInt32 ((b : Int) - g.segmentSize) / g.systemPitch else 0),
        g.systemPitch * j + g.segmentSize ≤ b := by
  have hlt := g.cardSize_lt
  split_ifs with h
  · have hsub : toUInt32 ((b : Int) - g.segmentSize) = b - g.segmentSize :=
      toUInt32_of_eq (by omega) (by omega)
    rw [hsub]
    have hmul := Nat.mul_div_le (b - g.segmentSize) g.systemPitch
    refine ⟨?_, fun j hj => ?_⟩
    · have hle : (b - g.segmentSize) / g.systemPitch ≤ g.segmentCount - 1 := by
        refine Nat.div_le_of_le_mul ?_
        rw [cardSize] at hb
        omega
      omega
    · have hj' : g.systemPitch * j ≤ g.systemPitch * ((b - g.segmentSize) / g.systemPitch) :=
        Nat.mul_le_mul_left _ hj.le
      omega
  · exact ⟨Nat.zero_le _, fun j hj => absurd hj (Nat.not_lt_zero j)⟩

/-- **The next piece**: the bytes of it that the transfer spans, from the first segment that
reaches it. -/
lemma transfer_spec {a size offset index : ℕ} (piece : Piece) (hlen : 0 < piece.length)
    (hb : offset + size < g.cardSize)
    (hfits : offset + size + min piece.length g.cardSize < 4294967296) :
    ∃ i, dmaVideoSegmentTransfer (g.state a size offset index) piece.address piece.length =
        some (g.state piece.address
          (min (offset + size + piece.length) g.cardSize - (offset + size)) (offset + size) i) ∧
      i ≤ g.segmentCount ∧ ∀ j < i, g.systemPitch * j + g.segmentSize ≤ offset + size := by
  have hlt := g.cardSize_lt
  have hoff : toUInt32 ((offset : Int) + size) = offset + size :=
    toUInt32_of_eq (by push_cast; ring) (by omega)
  have hcs : (g.state a size offset index).cardSize = g.cardSize := g.config_cardSize
  have hmin : (if g.cardSize < piece.length then g.cardSize else piece.length) =
      min piece.length g.cardSize := by
    split <;> omega
  have hsum : toUInt32 (((offset + size : ℕ) : Int) + (min piece.length g.cardSize : ℕ)) =
      offset + size + min piece.length g.cardSize := toUInt32_of_eq (by push_cast; ring) hfits
  have hsub : toUInt32 ((g.cardSize : Int) - (offset + size : ℕ)) =
      g.cardSize - (offset + size) := toUInt32_of_eq (by omega) (by omega)
  obtain ⟨hle, hbefore⟩ := g.shortcut_spec hb
  refine ⟨_, ?_, hle, hbefore⟩
  simp only [dmaVideoSegmentTransfer, hcs, state_systemOffset, state_transferSize,
    state_segmentSize, state_systemPitch, hoff, hmin, hsum, hsub]
  rw [if_neg (Nat.not_le.mpr hb)]
  have hclamp : (if g.cardSize < offset + size + min piece.length g.cardSize then
      g.cardSize - (offset + size) else min piece.length g.cardSize) =
      min (offset + size + piece.length) g.cardSize - (offset + size) := by
    split <;> omega
  rw [hclamp, ← g.config_cardSize]
  rfl

/-- The bytes that the buffer from byte `b` on carries of segment `i`. -/
def rest (b : ℕ) (pieces : List Piece) (i : ℕ) : Multiset (Option ℕ × ℕ) :=
  (Interval.clip (g.systemPitch * i) (g.systemPitch * i + g.segmentSize) b
    (b + totalLength pieces)).map fun o => (hostAddressFrom b pieces o, g.cardByte i o)

/-- A piece and the rest of the buffer carry together what the buffer carries. -/
lemma part_add_rest (piece : Piece) (pieces : List Piece) {b i : ℕ} (hi : i < g.segmentCount) :
    g.part piece.address b (min (b + piece.length) g.cardSize) i +
        g.rest (b + piece.length) pieces i = g.rest b (piece :: pieces) i := by
  have hend := g.segment_end_le hi
  have hcut : Interval.clip (g.systemPitch * i) (g.systemPitch * i + g.segmentSize) b
        (min (b + piece.length) g.cardSize) =
      Interval.clip (g.systemPitch * i) (g.systemPitch * i + g.segmentSize) b
        (b + piece.length) := by
    rw [Interval.clip, Interval.clip]
    congr 1
    omega
  have hsplit : Interval.clip (g.systemPitch * i) (g.systemPitch * i + g.segmentSize) b
        (b + totalLength (piece :: pieces)) =
      Interval.clip (g.systemPitch * i) (g.systemPitch * i + g.segmentSize) b
          (b + piece.length) +
        Interval.clip (g.systemPitch * i) (g.systemPitch * i + g.segmentSize)
          (b + piece.length) (b + piece.length + totalLength pieces) := by
    rw [totalLength_cons, ← Nat.add_assoc]
    exact (Interval.clip_add_clip (by omega) (by omega)).symm
  rw [rest, rest, part, hcut, hsplit, Multiset.map_add]
  congr 1
  · refine Multiset.map_congr rfl fun o ho => ?_
    have ho' := (Interval.mem_clip.mp ho).2.2
    rw [hostAddressFrom_of_lt pieces ho']
  · refine Multiset.map_congr rfl fun o ho => ?_
    have ho' := (Interval.mem_clip.mp ho).1.2
    rw [hostAddressFrom_of_le pieces ho']

/-- No sum of the offset and a piece's length overflows 32 bits, up to the card size. -/
def SumsFit : ℕ → List Piece → Prop
  | _, [] => True
  | b, piece :: pieces =>
      (b < g.cardSize → b + min piece.length g.cardSize < 4294967296) ∧
        SumsFit (b + piece.length) pieces

/-- The parts of the segments before the shortcut's index are empty. -/
lemma sum_part_from {a b e i : ℕ} (hi : i ≤ g.segmentCount)
    (hbefore : ∀ j < i, g.systemPitch * j + g.segmentSize ≤ b) :
    ∑ j ∈ Finset.Ico i g.segmentCount, g.part a b e j =
      ∑ j ∈ Finset.range g.segmentCount, g.part a b e j := by
  rw [Finset.range_eq_Ico, ← Finset.sum_Ico_consecutive _ (Nat.zero_le i) hi,
    Finset.sum_eq_zero (s := Finset.Ico 0 i), zero_add]
  intro j hj
  exact g.part_eq_zero_of_end_le (hbefore j (Finset.mem_Ico.mp hj).2)

/-- **The program of the remaining pieces** carries the remaining bytes of every segment. -/
lemma program_spec (pieces : List Piece) (hlen : ∀ piece ∈ pieces, 0 < piece.length)
    {a size offset index b : ℕ} (hb : offset + size = min b g.cardSize)
    (hfits : g.SumsFit b pieces) :
    ∃ ds, videoProgram (g.state a size offset index) pieces = some ds ∧
      carried ds = ∑ i ∈ Finset.range g.segmentCount, g.rest b pieces i := by
  induction pieces generalizing a size offset index b with
  | nil =>
      refine ⟨[], rfl, ?_⟩
      rw [carried_nil, Finset.sum_eq_zero]
      intro i _
      rw [rest, totalLength_nil, Nat.add_zero, Interval.clip_of_empty le_rfl]
      rfl
  | cons piece pieces ih =>
      obtain ⟨hsum, hfits'⟩ := hfits
      have hlt := g.cardSize_lt
      rw [videoProgram]
      rcases Nat.lt_or_ge b g.cardSize with hlt' | hge
      · rw [min_eq_left hlt'.le] at hb
        subst hb
        have hpos : 0 < piece.length := hlen piece (List.mem_cons_self ..)
        obtain ⟨i, hi, hile, hbefore⟩ := @transfer_spec g a size offset index piece hpos hlt'
          (hsum hlt')
        have hpiece : AtPiece g piece.address (offset + size)
            (min (offset + size + piece.length) g.cardSize) := by
          have hfit := piece.fits
          refine ⟨?_, ?_, ?_⟩ <;> omega
        obtain ⟨ds, i', hds, hcar⟩ := hpiece.descriptors_spec (g.segmentCount + 1) hile (by omega)
        have hnext : offset + size +
            (min (offset + size + piece.length) g.cardSize - (offset + size)) =
              min (offset + size + piece.length) g.cardSize := by omega
        obtain ⟨ds', hds', hcar'⟩ := @ih (fun q hq => hlen q (List.mem_cons_of_mem _ hq))
          piece.address _ _ i' _ hnext hfits'
        refine ⟨ds ++ ds', ?_, ?_⟩
        · rw [hi]
          simp only [state_segmentCount, hds, hds', Option.bind_eq_bind, Option.bind_some]
        · rw [carried_append, hcar, hcar', g.sum_part_from hile hbefore, ← Finset.sum_add_distrib]
          exact Finset.sum_congr rfl fun j hj =>
            g.part_add_rest piece pieces (Finset.mem_range.mp hj)
      · rw [min_eq_right hge] at hb
        rw [g.transfer_done hb.ge (by omega)]
        refine ⟨[], rfl, ?_⟩
        rw [carried_nil, Finset.sum_eq_zero]
        intro i hi
        have hend := g.segment_end_le (Finset.mem_range.mp hi)
        rw [rest, Interval.clip_of_end_le (hend.trans hge)]
        rfl

/-- What is asked for: every byte of every segment, from its place in the host buffer to its
place on the card. -/
def requested (pieces : List Piece) : Multiset (Option ℕ × ℕ) :=
  ∑ i ∈ Finset.range g.segmentCount, (Multiset.range g.segmentSize).map fun j =>
    (hostAddress pieces (g.systemPitch * i + j), g.cardAddress + (g.cardPosition i + j))

end VideoGeometry

/-- **The video transfer moves exactly the requested segments**: however the host buffer is cut
into pieces, the generated descriptors carry every byte of every segment exactly once, and no
other byte. -/
theorem videoProgram_carries (g : VideoGeometry) (pieces : List Piece)
    (hlen : ∀ piece ∈ pieces, 0 < piece.length) (hcover : g.cardSize ≤ totalLength pieces)
    (hfits : g.SumsFit 0 pieces) :
    ∃ ds, videoProgram g.config pieces = some ds ∧ carried ds = g.requested pieces := by
  obtain ⟨ds, hds, hcar⟩ := @VideoGeometry.program_spec g pieces hlen 0 0 0 0 0
    (Nat.zero_min _).symm hfits
  refine ⟨ds, hds, hcar.trans (Finset.sum_congr rfl fun i hi => ?_)⟩
  have hend := g.segment_end_le (Finset.mem_range.mp hi)
  rw [VideoGeometry.rest, Interval.clip_of_subset (Nat.zero_le _) (by omega),
    ← Interval.map_range_add, Multiset.map_map]
  refine Multiset.map_congr rfl fun j _ => ?_
  simp only [Function.comp, hostAddress, VideoGeometry.cardByte, Nat.add_sub_cancel_left,
    Nat.add_assoc]

/-- Three segments of four bytes, six bytes apart on the host and eight on the card, bottom up. -/
def threeSegments : VideoGeometry where
  cardAddress := 4096
  cardPitch := 8
  systemPitch := 6
  segmentSize := 4
  segmentCount := 3
  invertImage := true
  count_pos := by decide
  size_pos := by decide
  system_fits := by decide
  card_fits := by decide

lemma twoPieces_lt : 7 < 4294967296 := by decide

/-- A piece that ends inside the second segment, and one with the rest. -/
def twoPieces : List Piece :=
  [⟨8192, 7, twoPieces_lt, by decide⟩, ⟨65536, 20, by decide, by decide⟩]

/-- The two pieces carry the three segments. -/
theorem videoProgram_carries_threeSegments :
    ∃ ds, videoProgram threeSegments.config twoPieces = some ds ∧
      carried ds = threeSegments.requested twoPieces :=
  videoProgram_carries threeSegments twoPieces (by simp [twoPieces]) (by decide)
    (by simp [VideoGeometry.SumsFit, twoPieces, VideoGeometry.cardSize, threeSegments])

end LibAjaNtv2
