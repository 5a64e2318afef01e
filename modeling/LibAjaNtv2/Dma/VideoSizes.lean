import LibAjaNtv2.Dma.VideoCover

/-!
The sizes of the descriptors of a video transfer, also where its host addresses wrap.

* `segStart`, `partSize`, `pieceSizes`, `videoSizes`: the part of a segment in a piece, the sizes of
  one piece, and of all pieces;
* `overlap_size`, `nextOverlap_sizes`, `descriptors_sizes`, `videoProgram_sizes`: **the generator
  gives exactly these sizes**;
* `exists_of_mem_pieceSizes`, `partSize_mem`: which parts are among the sizes;
* `cover`, `videoSizes_sum_le`: how much of each segment they cover at most;
* `no_wrap_of_full`: **a transfer that covers every segment in full does not wrap**.
-/

namespace LibAjaNtv2

/-! ### The sizes -/

/-- Where a segment starts in the host buffer, in 32-bit arithmetic. -/
def segStart (P i : ℕ) : ℕ := P * i % 4294967296

/-- The size of the part of segment `i` in the bytes `[b, e)`. A segment that wraps has no part
behind the piece it starts in. -/
def partSize (P L b e i : ℕ) : ℕ :=
  if segStart P i < b then
    if segStart P i + L < 4294967296 then min (segStart P i + L) e - b else 0
  else min L (e - segStart P i)

/-- The sizes of the parts of `k` segments from `i` on that are not empty, up to the first segment
that starts behind the piece. -/
def pieceSizes (P L b e : ℕ) : ℕ → ℕ → List ℕ
  | 0, _ => []
  | k + 1, i =>
      if segStart P i < e then
        if 0 < partSize P L b e i then partSize P L b e i :: pieceSizes P L b e k (i + 1)
        else pieceSizes P L b e k (i + 1)
      else []

/-- The segment that a piece starts the search at. -/
def firstSegment (P L b : ℕ) : ℕ := if L < b ∧ 0 < P then (b - L) / P else 0

/-- The bytes of each piece of a host buffer, from byte `b` on. -/
def spans : ℕ → List Piece → List (ℕ × ℕ)
  | _, [] => []
  | b, piece :: pieces => (b, b + piece.length) :: spans (b + piece.length) pieces

/-- The sizes of all pieces. -/
def videoSizes (P L n b : ℕ) (pieces : List Piece) : List ℕ :=
  (spans b pieces).flatMap fun s =>
    pieceSizes P L s.1 s.2 (n - firstSegment P L s.1) (firstSegment P L s.1)

/-- What a descriptor holds fits the words of the hardware. -/
structure DescriptorFits (size : ℕ) (d : Descriptor) : Prop where
  system_lt : d.systemAddress < 18446744073709551616
  card_lt : d.cardAddress < 4294967296
  size_le : d.descSize ≤ size

/-! ### The generator -/

/-- The bytes `[b, e)` of the buffer are the piece of a transfer. -/
structure AtSpan (seg : DMA_VIDEO_SEGMENT) (b e : ℕ) : Prop where
  offset : seg.systemOffset = b
  size : seg.transferSize = e - b
  lt : b < e
  end_lt : e < 4294967296
  segment_lt : seg.segmentSize < 4294967296
  fits : seg.transferAddress + (e - b) ≤ 18446744073709551616

/-- What no descriptor changes. -/
structure SameVideo (seg seg' : DMA_VIDEO_SEGMENT) : Prop where
  cardSize : seg'.cardSize = seg.cardSize
  systemPitch : seg'.systemPitch = seg.systemPitch
  segmentSize : seg'.segmentSize = seg.segmentSize
  segmentCount : seg'.segmentCount = seg.segmentCount
  transferAddress : seg'.transferAddress = seg.transferAddress
  transferSize : seg'.transferSize = seg.transferSize
  systemOffset : seg'.systemOffset = seg.systemOffset

section Generator

variable {seg seg' : DMA_VIDEO_SEGMENT} {b e : ℕ}

lemma AtSpan.same (h : AtSpan seg b e) (hs : SameVideo seg seg') : AtSpan seg' b e := by
  obtain ⟨hoffset, hsize, hlt, hend, hseg, hfits⟩ := h
  exact ⟨hs.systemOffset.trans hoffset, hs.transferSize.trans hsize, hlt, hend,
    hs.segmentSize.symm ▸ hseg, hs.transferAddress.symm ▸ hfits⟩

/-- **One segment of a piece**: its part in the piece, unless it starts behind it. -/
lemma AtSpan.overlap_size (h : AtSpan seg b e) (i : ℕ) :
    if segStart seg.systemPitch i < e then
      ∃ d, seg.overlap i = some d ∧
        d.descSize = partSize seg.systemPitch seg.segmentSize b e i ∧ DescriptorFits (e - b) d
    else seg.overlap i = none := by
  obtain ⟨hoffset, hsize, hlt, hend, hseg, hfits⟩ := h
  have hstart : toUInt32 ((i : Int) * seg.systemPitch) = segStart seg.systemPitch i := by
    rw [segStart, Nat.mul_comm, toUInt32]
    omega
  have hs : segStart seg.systemPitch i < 4294967296 := Nat.mod_lt _ (by decide)
  have htrn : toUInt32 ((b : Int) + (e - b : ℕ)) = e := toUInt32_of_eq (by omega) hend
  simp only [DMA_VIDEO_SEGMENT.overlap, hoffset, hsize, hstart, htrn]
  unfold partSize
  generalize segStart seg.systemPitch i = s at hs
  generalize seg.segmentSize = L at hseg
  by_cases hsb : s < b
  · rw [if_pos (hsb.trans hlt), if_pos hsb, if_pos hsb]
    by_cases hwrap : s + L < 4294967296
    · have hsum : toUInt32 ((s : Int) + L) = s + L := toUInt32_of_eq (by push_cast; ring) hwrap
      rw [hsum, if_pos hwrap]
      by_cases hin : b < s + L
      · have hrest : toUInt32 ((L : Int) - ((b : Int) - s)) = s + L - b :=
          toUInt32_of_eq (by omega) (by omega)
        rw [if_pos hin, hrest]
        refine ⟨_, rfl, ?_, ⟨?_, toUInt32_lt _, ?_⟩⟩
        · dsimp only
          split <;> omega
        · dsimp only
          omega
        · dsimp only
          split <;> omega
      · rw [if_neg hin]
        refine ⟨_, rfl, ?_, ⟨by decide, by decide, Nat.zero_le _⟩⟩
        dsimp only
        omega
    · have hback : ¬ b < toUInt32 ((s : Int) + L) := by
        unfold toUInt32
        omega
      rw [if_neg hback, if_neg hwrap]
      exact ⟨_, rfl, rfl, ⟨by decide, by decide, Nat.zero_le _⟩⟩
  · rw [if_neg hsb, if_neg hsb]
    by_cases hse : s < e
    · have hrest : toUInt32 (((e - b : ℕ) : Int) - ((s : Int) - b)) = e - s :=
        toUInt32_of_eq (by omega) (by omega)
      have haddress : toUInt64 ((seg.transferAddress : Int) + ((s : Int) - b)) =
          seg.transferAddress + (s - b) := toUInt64_of_eq (by omega) (by omega)
      rw [if_pos hse, if_pos hse, hrest, haddress]
      refine ⟨_, rfl, ?_, ⟨?_, ?_, ?_⟩⟩
      · dsimp only
        split <;> omega
      · dsimp only
        omega
      · exact toUInt32_lt ((seg.cardAddress : Int) + seg.cardOffset i)
      · dsimp only
        split <;> omega
    · rw [if_neg hse, if_neg hse]

/-- **The search for a part**: the next size and the rest, or the end of the sizes. -/
lemma AtSpan.nextOverlap_sizes (h : AtSpan seg b e) (k i : ℕ) :
    (∃ i', seg.nextOverlap k i = (none, i') ∧
        pieceSizes seg.systemPitch seg.segmentSize b e k i = []) ∨
      ∃ d i', seg.nextOverlap k i = (some d, i') ∧ i < i' ∧ i' ≤ i + k ∧
        DescriptorFits (e - b) d ∧
        pieceSizes seg.systemPitch seg.segmentSize b e k i =
          d.descSize :: pieceSizes seg.systemPitch seg.segmentSize b e (i + k - i') i' := by
  induction k generalizing i with
  | zero => exact .inl ⟨i, rfl, rfl⟩
  | succ k ih =>
      have hone := h.overlap_size i
      rw [DMA_VIDEO_SEGMENT.nextOverlap, pieceSizes]
      by_cases hreach : segStart seg.systemPitch i < e
      · rw [if_pos hreach] at hone ⊢
        obtain ⟨d, hd, hsize, hfit⟩ := hone
        rw [hd, ← hsize]
        dsimp only
        by_cases hpos : 0 < d.descSize
        · rw [if_pos hpos, if_pos hpos]
          refine .inr ⟨d, i + 1, rfl, Nat.lt_succ_self i, by omega, hfit, ?_⟩
          rw [show i + (k + 1) - (i + 1) = k by omega]
        · rw [if_neg hpos, if_neg hpos]
          rcases ih (i + 1) with ⟨i', hi', hnil⟩ | ⟨d', i', hd', hlt, hle, hfit', hcons⟩
          · exact .inl ⟨i', hi', hnil⟩
          · refine .inr ⟨d', i', hd', by omega, by omega, hfit', ?_⟩
            rw [hcons, show i + 1 + k - i' = i + (k + 1) - i' by omega]
      · rw [if_neg hreach] at hone ⊢
        rw [hone]
        exact .inl ⟨i, rfl, rfl⟩

/-- **One call**: the next size and the rest, or the end of the sizes. The piece of a transfer of one
segment is all its part. -/
lemma AtSpan.descriptor_sizes (h : AtSpan seg b e)
    (hone : seg.segmentCount = 1 → e ≤ seg.segmentSize) :
    (∃ seg', dmaVideoSegmentDescriptor seg = (none, seg') ∧ SameVideo seg seg' ∧
        pieceSizes seg.systemPitch seg.segmentSize b e (seg.segmentCount - seg.segmentIndex)
          seg.segmentIndex = []) ∨
      ∃ d seg', dmaVideoSegmentDescriptor seg = (some d, seg') ∧ SameVideo seg seg' ∧
        seg.segmentIndex < seg'.segmentIndex ∧ DescriptorFits (e - b) d ∧
        pieceSizes seg.systemPitch seg.segmentSize b e (seg.segmentCount - seg.segmentIndex)
            seg.segmentIndex =
          d.descSize :: pieceSizes seg.systemPitch seg.segmentSize b e
            (seg.segmentCount - seg'.segmentIndex) seg'.segmentIndex := by
  rw [dmaVideoSegmentDescriptor]
  by_cases hcount : seg.segmentCount = 1
  · rw [if_pos hcount]
    by_cases hdone : 0 < seg.segmentIndex
    · rw [if_pos hdone, hcount, Nat.sub_eq_zero_of_le hdone]
      exact .inl ⟨seg, rfl, ⟨rfl, rfl, rfl, rfl, rfl, rfl, rfl⟩, rfl⟩
    · obtain ⟨-, hsize, hlt, -, hseg, hfits⟩ := h
      have hindex : seg.segmentIndex = 0 := Nat.eq_zero_of_not_pos hdone
      have hend := hone hcount
      have hpart : partSize seg.systemPitch seg.segmentSize b e 0 = e - b := by
        rw [partSize, segStart, Nat.mul_zero, Nat.zero_mod]
        split
        · rw [if_pos (by omega)]
          omega
        · omega
      rw [if_neg hdone, hindex, hcount]
      refine .inr ⟨_, _, rfl, ⟨rfl, rfl, rfl, hcount.symm, rfl, rfl, rfl⟩, ?_,
        ⟨?_, toUInt32_lt ((seg.cardAddress : Int) + seg.systemOffset), hsize.le⟩, ?_⟩
      · dsimp only
        omega
      · dsimp only
        omega
      · rw [pieceSizes, if_pos (by rw [segStart, Nat.mul_zero, Nat.zero_mod]; omega), hpart,
          if_pos (by omega)]
        dsimp only
        rw [hsize]
  · rw [if_neg hcount]
    dsimp only
    rcases h.nextOverlap_sizes (seg.segmentCount - seg.segmentIndex) seg.segmentIndex with
      ⟨i', hi', hnil⟩ | ⟨d, i', hd, hlt, hle, hfit, hcons⟩
    · rw [hi']
      exact .inl ⟨_, rfl, ⟨rfl, rfl, rfl, rfl, rfl, rfl, rfl⟩, hnil⟩
    · rw [hd, hcons]
      refine .inr ⟨d, _, rfl, ⟨rfl, rfl, rfl, rfl, rfl, rfl, rfl⟩, hlt, hfit, ?_⟩
      dsimp only
      congr 2
      omega

/-- What two calls do not change. -/
lemma SameVideo.trans {seg'' : DMA_VIDEO_SEGMENT} (h : SameVideo seg seg')
    (h' : SameVideo seg' seg'') : SameVideo seg seg'' :=
  ⟨h'.cardSize.trans h.cardSize, h'.systemPitch.trans h.systemPitch,
    h'.segmentSize.trans h.segmentSize, h'.segmentCount.trans h.segmentCount,
    h'.transferAddress.trans h.transferAddress, h'.transferSize.trans h.transferSize,
    h'.systemOffset.trans h.systemOffset⟩

/-- **One piece**: the calls end, with the sizes of the piece from the index on. -/
lemma AtSpan.descriptors_sizes (h : AtSpan seg b e)
    (hone : seg.segmentCount = 1 → e ≤ seg.segmentSize) {fuel : ℕ}
    (hfuel : seg.segmentCount - seg.segmentIndex < fuel) :
    ∃ ds seg', videoDescriptors fuel seg = some (ds, seg') ∧ SameVideo seg seg' ∧
      (∀ d ∈ ds, DescriptorFits (e - b) d) ∧
      ds.map Descriptor.descSize = pieceSizes seg.systemPitch seg.segmentSize b e
        (seg.segmentCount - seg.segmentIndex) seg.segmentIndex := by
  induction fuel generalizing seg with
  | zero => omega
  | succ fuel ih =>
      rw [videoDescriptors]
      rcases h.descriptor_sizes hone with ⟨seg', hseg', hsame, hnil⟩ |
        ⟨d, seg', hseg', hsame, hlt, hfit, hcons⟩
      · rw [hseg']
        exact ⟨[], seg', rfl, hsame, by simp, hnil.symm⟩
      · have hcount := hsame.segmentCount
        have hone' : seg'.segmentCount = 1 → e ≤ seg'.segmentSize := by
          rw [hcount, hsame.segmentSize]
          exact hone
        by_cases hend : seg.segmentCount ≤ seg.segmentIndex
        · rw [Nat.sub_eq_zero_of_le hend] at hcons
          cases hcons
        obtain ⟨ds, seg'', hds, hsame', hfits, hsizes⟩ := ih (h.same hsame) hone' (by omega)
        rw [hseg']
        simp only [hds, Option.map_some]
        refine ⟨d :: ds, seg'', rfl, hsame.trans hsame', ?_, ?_⟩
        · intro d' hd'
          rcases List.mem_cons.mp hd' with rfl | hd'
          · exact hfit
          · exact hfits d' hd'
        · rw [List.map_cons, hsizes, hcons, hsame.systemPitch, hsame.segmentSize, hcount]

/-- **All pieces**: the generator ends, with the sizes of all pieces. -/
lemma videoProgram_sizes {pieces : List Piece} (hlen : ∀ piece ∈ pieces, 0 < piece.length)
    (hb : seg.systemOffset + seg.transferSize = b)
    (hC : b + totalLength pieces = seg.cardSize) (hlt : seg.cardSize < 4294967296)
    (hL : seg.segmentSize < 4294967296)
    (hone : seg.segmentCount = 1 → seg.cardSize ≤ seg.segmentSize) :
    ∃ ds, videoProgram seg pieces = some ds ∧
      (∀ d ∈ ds, ∃ piece ∈ pieces, DescriptorFits piece.length d) ∧
      ds.map Descriptor.descSize =
        videoSizes seg.systemPitch seg.segmentSize seg.segmentCount b pieces := by
  induction pieces generalizing seg b with
  | nil => exact ⟨[], rfl, by simp, rfl⟩
  | cons piece pieces ih =>
      have hpos : 0 < piece.length := hlen piece List.mem_cons_self
      rw [totalLength_cons] at hC
      have hoff : toUInt32 ((seg.systemOffset : Int) + seg.transferSize) = b :=
        toUInt32_of_eq (by omega) (by omega)
      have hsum : toUInt32 ((b : Int) + piece.length) = b + piece.length :=
        toUInt32_of_eq (by push_cast; ring) (by omega)
      have hback : b ≤ seg.cardSize → seg.segmentSize < b →
          toUInt32 ((b : Int) - seg.segmentSize) = b - seg.segmentSize := fun _ _ =>
        toUInt32_of_eq (by omega) (by omega)
      have hfirst : (if seg.segmentSize < b ∧ 0 < seg.systemPitch then
          toUInt32 ((b : Int) - seg.segmentSize) / seg.systemPitch else 0) =
          firstSegment seg.systemPitch seg.segmentSize b := by
        rw [firstSegment]
        split
        · next hin => rw [hback (by omega) hin.1]
        · rfl
      rw [videoProgram, dmaVideoSegmentTransfer]
      simp only [hoff]
      rw [if_neg (not_lt.mpr (show piece.length ≤ seg.cardSize by omega)),
        if_neg (show ¬ seg.cardSize ≤ b by omega), hsum,
        if_neg (show ¬ seg.cardSize < b + piece.length by omega), hfirst]
      have hspan : AtSpan { seg with
          transferAddress := piece.address
          transferSize := piece.length
          systemOffset := b
          segmentIndex := firstSegment seg.systemPitch seg.segmentSize b } b
          (b + piece.length) := by
        have hfits := piece.fits
        refine ⟨rfl, (Nat.add_sub_cancel_left b _).symm, Nat.lt_add_of_pos_right hpos, ?_, hL, ?_⟩
        · omega
        · rwa [Nat.add_sub_cancel_left]
      obtain ⟨ds, seg', hds, hsame, hfits, hsizes⟩ := @AtSpan.descriptors_sizes _ _ _ hspan
        (fun hcount => by
          have := hone hcount
          dsimp only
          omega) (seg.segmentCount + 1) (Nat.lt_succ_of_le (Nat.sub_le _ _))
      have hcard := hsame.cardSize
      have hsize := hsame.segmentSize
      have hcount := hsame.segmentCount
      have hpitch := hsame.systemPitch
      dsimp only at hcard hsize hcount hpitch hsizes
      obtain ⟨rest, hrest, hrestFits, hrestSizes⟩ := @ih seg' (b + piece.length)
        (fun q hq => hlen q (List.mem_cons_of_mem _ hq))
        (by rw [hsame.systemOffset, hsame.transferSize]) (by rw [hcard]; omega)
        (by rw [hcard]; exact hlt) (by rw [hsize]; exact hL)
        (by rw [hcount, hcard, hsize]; exact hone)
      refine ⟨ds ++ rest, ?_, fun d hd => ?_, ?_⟩
      · simp only [hds, hrest, Option.bind_eq_bind, Option.bind_some]
      · rcases List.mem_append.mp hd with hd | hd
        · refine ⟨piece, List.mem_cons_self, ?_⟩
          have hfit := hfits d hd
          rwa [Nat.add_sub_cancel_left] at hfit
        · obtain ⟨q, hq, hfit⟩ := hrestFits d hd
          exact ⟨q, List.mem_cons_of_mem _ hq, hfit⟩
      · rw [List.map_append, hsizes, hrestSizes, hpitch, hsize, hcount]
        rfl

end Generator

/-! ### Which parts -/

section Parts

variable {P L n C b e k i j x : ℕ}

/-- Each size is that of the part of a segment that is reached. -/
lemma exists_of_mem_pieceSizes (h : x ∈ pieceSizes P L b e k i) :
    ∃ j, i ≤ j ∧ j < i + k ∧ segStart P j < e ∧ 0 < partSize P L b e j ∧
      x = partSize P L b e j := by
  induction k generalizing i with
  | zero => simp [pieceSizes] at h
  | succ k ih =>
      rw [pieceSizes] at h
      split at h
      · next hreach =>
        split at h
        · next hpos =>
          rcases List.mem_cons.mp h with rfl | h
          · exact ⟨i, le_rfl, by omega, hreach, hpos, rfl⟩
          · obtain ⟨j, hij, hjk, hj⟩ := ih h
            exact ⟨j, by omega, by omega, hj⟩
        · obtain ⟨j, hij, hjk, hj⟩ := ih h
          exact ⟨j, by omega, by omega, hj⟩
      · simp at h

/-- The part of a segment that is reached is among the sizes. -/
lemma partSize_mem (hij : i ≤ j) (hjk : j < i + k)
    (hreach : ∀ m, i ≤ m → m ≤ j → segStart P m < e) (hpos : 0 < partSize P L b e j) :
    partSize P L b e j ∈ pieceSizes P L b e k i := by
  induction k generalizing i with
  | zero => omega
  | succ k ih =>
      rw [pieceSizes, if_pos (hreach i le_rfl hij)]
      rcases eq_or_lt_of_le hij with rfl | hlt
      · rw [if_pos hpos]
        exact List.mem_cons_self
      · have hmem := ih hlt (by omega) fun m him hmj => hreach m (by omega) hmj
        split
        · exact List.mem_cons_of_mem _ hmem
        · exact hmem

/-- The sizes of a piece are no more than bounds of the parts that are reached. -/
lemma pieceSizes_sum_le {w : ℕ → ℕ}
    (hw : ∀ j, i ≤ j → (∀ m, i ≤ m → m ≤ j → segStart P m < e) → partSize P L b e j ≤ w j) :
    (pieceSizes P L b e k i).sum ≤ ∑ j ∈ Finset.Ico i (i + k), w j := by
  induction k generalizing i with
  | zero => exact Nat.zero_le _
  | succ k ih =>
      rw [pieceSizes]
      by_cases hreach : segStart P i < e
      · have hfirst := hw i le_rfl fun m him hmi => by
          rwa [le_antisymm hmi him]
        have hrest := @ih (i + 1) fun j hj hall => hw j (by omega) fun m him hmj => by
          rcases eq_or_lt_of_le him with rfl | him
          · exact hreach
          · exact hall m him hmj
        rw [if_pos hreach, Finset.sum_eq_sum_Ico_succ_bot (by omega),
          show i + (k + 1) = i + 1 + k by omega]
        split
        · rw [List.sum_cons]
          omega
        · omega
      · rw [if_neg hreach]
        exact Nat.zero_le _

end Parts

/-! ### Wrapped addresses -/

section Wrap

variable {P L n C b e j : ℕ}

/-- From where on segment `j` is covered at most. Where its address has wrapped, the segment before
it must be reached in the same page. -/
def coverStart (P j : ℕ) : ℕ :=
  max (segStart P j) (if 4294967296 ≤ P * j then segStart P (j - 1) + 1 - 4096 else 0)

/-- How much of segment `j` is covered in the bytes `[b, e)` at most. -/
def cover (P L j b e : ℕ) : ℕ := min (segStart P j + L) e - max (coverStart P j) b

/-- The search in a piece starts before every segment whose address has wrapped. -/
lemma firstSegment_lt (hb : b < 4294967296) (hwrap : 4294967296 ≤ P * j) :
    firstSegment P L b < j := by
  have hj : 0 < j := by
    rcases Nat.eq_zero_or_pos j with rfl | hj
    · rw [Nat.mul_zero] at hwrap
      omega
    · exact hj
  rw [firstSegment]
  split
  · next h =>
    have hle := Nat.mul_div_le (b - L) P
    by_contra hnot
    have hmul := Nat.mul_le_mul_left P (not_lt.mp hnot)
    omega
  · exact hj

/-- **A part is covered**, in a piece that is no longer than a page. -/
lemma partSize_le_cover (hb : b < 4294967296) (hpage : e ≤ b + 4096)
    (hreach : ∀ m, firstSegment P L b ≤ m → m ≤ j → segStart P m < e) :
    partSize P L b e j ≤ cover P L j b e := by
  have hstart : coverStart P j ≤ max (segStart P j) b := by
    rw [coverStart]
    split
    · next hwrap =>
      have hfirst := firstSegment_lt (L := L) hb hwrap
      have hbefore := hreach (j - 1) (by omega) (Nat.sub_le _ _)
      omega
    · omega
  have hle : segStart P j ≤ coverStart P j := le_max_left _ _
  rw [partSize, cover]
  split
  · split <;> omega
  · omega

/-- **The sizes of all pieces** cover each segment at most once. -/
lemma videoSizes_sum_le {pieces : List Piece} (hpage : ∀ piece ∈ pieces, piece.length ≤ 4096)
    (hC : b + totalLength pieces = C) (hlt : C < 4294967296) :
    (videoSizes P L n b pieces).sum ≤ ∑ j ∈ Finset.range n, cover P L j b C := by
  induction pieces generalizing b with
  | nil => exact Nat.zero_le _
  | cons piece pieces ih =>
      rw [totalLength_cons] at hC
      have hrest := @ih (b + piece.length) (fun q hq => hpage q (List.mem_cons_of_mem _ hq))
        (by omega)
      have hhere : (pieceSizes P L b (b + piece.length) (n - firstSegment P L b)
          (firstSegment P L b)).sum ≤
          ∑ j ∈ Finset.range n, cover P L j b (b + piece.length) := by
        refine (pieceSizes_sum_le fun j _ hreach => partSize_le_cover (by omega) ?_ hreach).trans
          (Finset.sum_le_sum_of_subset fun j hj => ?_)
        · exact Nat.add_le_add_left (hpage piece List.mem_cons_self) b
        · rw [Finset.mem_Ico] at hj
          rw [Finset.mem_range]
          omega
      have hsplit : ∑ j ∈ Finset.range n, cover P L j b C =
          ∑ j ∈ Finset.range n, cover P L j b (b + piece.length) +
            ∑ j ∈ Finset.range n, cover P L j (b + piece.length) C := by
        rw [← Finset.sum_add_distrib]
        refine Finset.sum_congr rfl fun j _ => ?_
        simp only [cover]
        omega
      rw [videoSizes, spans, List.flatMap_cons, List.sum_append, hsplit]
      exact Nat.add_le_add hhere hrest

/-- All segments are covered in full only if each is. -/
lemma full_of_sum (hsum : n * L ≤ ∑ j ∈ Finset.range n, cover P L j 0 C) (hL : 0 < L)
    (hj : j < n) : segStart P j + L ≤ C ∧ coverStart P j ≤ segStart P j := by
  have hle : ∀ j, cover P L j 0 C ≤ L := fun j => by
    have hstart : segStart P j ≤ coverStart P j := le_max_left _ _
    rw [cover]
    omega
  by_contra hnot
  have hlt : cover P L j 0 C < L := by
    have hstart : segStart P j ≤ coverStart P j := le_max_left _ _
    rw [cover]
    omega
  have hsumlt : ∑ j ∈ Finset.range n, cover P L j 0 C < ∑ _j ∈ Finset.range n, L :=
    Finset.sum_lt_sum (fun j _ => hle j) ⟨j, Finset.mem_range.mpr hj, hlt⟩
  rw [Finset.sum_const, Finset.card_range, smul_eq_mul] at hsumlt
  omega

/-- **A transfer that covers every segment in full does not wrap**: the first segment whose address
wraps would have to start less than a page below the one before it, and then all later ones would
start below the first, where the transfer does not end. -/
lemma no_wrap_of_full (hP : P < 4294967296) (hn : n ≤ 1000000) (hL : L < 4294967296)
    (hC : C = (P * (n - 1) + L) % 4294967296)
    (hfull : ∀ j < n, segStart P j + L ≤ C ∧ coverStart P j ≤ segStart P j) :
    P * (n - 1) + L < 4294967296 := by
  by_contra hwrap
  have hn1 : 1 < n := by
    by_contra hone
    rw [Nat.sub_eq_zero_of_le (not_lt.mp hone), Nat.mul_zero] at hwrap
    omega
  have hlast := (hfull (n - 1) (by omega)).1
  -- the address of the last segment wraps
  have hwrapped : 4294967296 ≤ P * (n - 1) := by
    rw [segStart] at hlast
    omega
  have hexists : ∃ j, 4294967296 ≤ P * j := ⟨n - 1, hwrapped⟩
  obtain ⟨j, hj, hbefore⟩ : ∃ j, 4294967296 ≤ P * (j + 1) ∧ P * j < 4294967296 := by
    have hfind := Nat.find_spec hexists
    obtain ⟨j, hj⟩ := Nat.exists_eq_succ_of_ne_zero (n := Nat.find hexists) fun hzero => by
      rw [hzero, Nat.mul_zero] at hfind
      omega
    refine ⟨j, by rwa [hj] at hfind, not_le.mp (Nat.find_min hexists (by omega))⟩
  have hjn : j + 1 < n := by
    by_contra hge
    have hmul := Nat.mul_le_mul_left P (show n - 1 ≤ j by omega)
    omega
  have hjpos : 1 ≤ j := by
    by_contra hzero
    obtain rfl : j = 0 := by omega
    rw [Nat.zero_add, Nat.mul_one] at hj
    omega
  have hPj := Nat.mul_le_mul_left P hjpos
  rw [Nat.mul_one] at hPj
  -- the first segment that wraps starts less than a page below the one before it
  have hclose := (hfull (j + 1) hjn).2
  rw [coverStart, if_pos hj, Nat.add_sub_cancel, segStart, segStart, Nat.mul_succ,
    Nat.mod_eq_of_lt hbefore] at hclose
  rw [Nat.mul_succ] at hj
  obtain ⟨q, hq⟩ : ∃ q, P + q = 4294967296 := ⟨4294967296 - P, by omega⟩
  have hqlt : q < 4096 := by omega
  -- so the last one starts below the second
  obtain ⟨m, hm⟩ : ∃ m, n - 1 = m + 2 := ⟨n - 3, by omega⟩
  have hqm : q * (m + 2) < 4294967296 :=
    (Nat.mul_le_mul (Nat.le_of_lt_succ hqlt) (show m + 2 ≤ 999999 by omega)).trans_lt (by decide)
  have hmul : P * (m + 2) + q * (m + 2) = 4294967296 * (m + 2) := by rw [← Nat.add_mul, hq]
  have hqtwo : q * 2 ≤ q * (m + 2) := Nat.mul_le_mul_left _ (by omega)
  have hsecond := (hfull 1 hn1).1
  rw [segStart, Nat.mul_one, Nat.mod_eq_of_lt hP] at hsecond
  rw [hm] at hC
  have hC' : C < 4294967296 := hC ▸ Nat.mod_lt _ (by decide)
  omega

end Wrap

end LibAjaNtv2
