import Mathlib.Tactic
import LibAjaNtv2.Dma.Audio

/-!
The multi-link audio transfer fills exactly the rings.

* `AudioGeometry`: a transfer to one to four rings, each with a share that fits the ring;
* `AudioGeometry.Cursor`: the ring and the offset in its share after a number of host bytes;
* `audioDescriptor_gives`, `descriptor_spec`, `descriptors_spec`: what one descriptor, one call
  and one page carry;
* `transfer_spec`, `program_spec`: the next page, and all pages;
* `audioProgram_carries`: every byte of every share exactly once and in order.
-/

namespace LibAjaNtv2

/-- A multi-link audio transfer: the wrap address that `GetAudioWrapAddress` gives is far below
`2³¹`, and the rings are in the 32-bit address space of the card. -/
structure AudioGeometry where
  systemSize : ℕ
  transferSize : ℕ
  rings : List ℕ
  ringSize : ℕ
  audioStart : ℕ
  rings_pos : 1 ≤ rings.length
  rings_le : rings.length ≤ MAX_NUM_AUDIO_LINKS
  ring_ne_zero : ∀ ring ∈ rings, ring ≠ 0
  ring_fits : ∀ ring ∈ rings, ring + ringSize ≤ 4294967296
  ringSize_le : ringSize ≤ 2147483648
  start_le : audioStart ≤ ringSize
  share_pos : 0 < transferSize / rings.length
  share_le : transferSize / rings.length ≤ ringSize
  transfer_le : transferSize ≤ systemSize
  system_fits : systemSize < 4294967296

namespace AudioGeometry

variable (g : AudioGeometry)

/-- The bytes of each ring. -/
def share : ℕ := g.transferSize / g.rings.length

/-- The bytes of all rings. -/
def total : ℕ := g.rings.length * g.share

/-- The address array of the caller: the rings, and zeros behind them. -/
def pRingAddress : List ℕ :=
  g.rings ++ List.replicate (MAX_NUM_AUDIO_LINKS - g.rings.length) 0

/-- Byte `j` of the share of ring `i`, on the card. -/
def ringByte (i j : ℕ) : ℕ := g.rings.getD i 0 + (g.audioStart + j) % g.ringSize

/-- Byte `o` of the host buffer, on the card. -/
def cardByte (o : ℕ) : ℕ := g.ringByte (o / g.share) (o % g.share)

/-- The state in the middle of a transfer: a page of `size` bytes at bus address `a`, from byte
`b` of the buffer, with `y` bytes of it done, and `r` bytes of ring `q`. -/
def state (a size b y q r : ℕ) : DMA_AUDIO_SEGMENT where
  systemSize := g.systemSize
  transferSize := g.transferSize
  ringAddress := g.rings
  ringCount := g.rings.length
  ringSize := g.ringSize
  pageAddress := a
  pageSize := size
  audioStart := g.audioStart
  audioSize := g.share
  ringIndex := q
  systemOffset := b
  pageOffset := y
  audioOffset := r

/-- The cursors after `x` bytes of the buffer: inside the share of a ring, or behind the last
share. -/
structure Cursor (x q r : ℕ) : Prop where
  offset_le : r ≤ g.share
  position : (q < g.rings.length ∧ q * g.share + r = x) ∨
    (g.total ≤ x ∧ g.rings.length ≤ q + 1 ∧ r = g.share ∧ q ≤ x)

lemma total_le : g.total ≤ g.systemSize :=
  (Nat.mul_div_le g.transferSize g.rings.length).trans g.transfer_le

lemma succ_mul_share_le {q : ℕ} (hq : q < g.rings.length) :
    q * g.share + g.share ≤ g.total := by
  rw [← Nat.succ_mul, total]
  exact Nat.mul_le_mul_right _ hq

/-- What is left of the page and of the share. -/
def left (size y r : ℕ) : ℕ := min (size - y) (g.share - r)

/-- The size of the descriptor: what is left, up to the end of the ring. -/
def cut (size y r : ℕ) : ℕ :=
  if g.ringSize ≤ g.audioStart + r then g.left size y r
  else min (g.left size y r) (g.ringSize - (g.audioStart + r))

variable {g} {a size b y q r : ℕ}

/-- A share crosses the end of its ring once at most. -/
lemma wrap_eq (hr : r < g.share) :
    (g.audioStart + r) % g.ringSize =
      if g.ringSize ≤ g.audioStart + r then g.audioStart + r - g.ringSize
      else g.audioStart + r := by
  have hstart := g.start_le
  have hshare : g.share ≤ g.ringSize := g.share_le
  split_ifs with h
  · rw [Nat.mod_eq_sub_mod h, Nat.mod_eq_of_lt (by omega)]
  · exact Nat.mod_eq_of_lt (Nat.not_le.mp h)

lemma cut_le (g : AudioGeometry) (size y r : ℕ) : g.cut size y r ≤ g.left size y r := by
  rw [cut]
  split_ifs <;> omega

lemma cut_pos (hr : r < g.share) (hy : y < size) : 0 < g.cut size y r := by
  rw [cut, left]
  split_ifs <;> omega

/-- Up to the cut the bytes of a ring are consecutive. -/
lemma ringByte_add (hr : r < g.share) {t : ℕ} (ht : t < g.cut size y r) :
    g.ringByte q (r + t) = g.ringByte q r + t := by
  have hcut := g.cut_le size y r
  have hstart := g.start_le
  have hshare : g.share ≤ g.ringSize := g.share_le
  have hrt : r + t < g.share := by
    rw [left] at hcut
    omega
  rw [ringByte, ringByte, wrap_eq hr, wrap_eq hrt, Nat.add_assoc]
  rw [cut, left] at ht
  split_ifs at ht ⊢ <;> omega

/-- The address of a ring's byte fits a word. -/
lemma ringByte_lt (hq : q < g.rings.length) (r : ℕ) : g.ringByte q r < 4294967296 := by
  have hring : g.rings.getD q 0 + g.ringSize ≤ 4294967296 := by
    rw [List.getD_eq_getElem?_getD, List.getElem?_eq_getElem hq, Option.getD_some]
    exact g.ring_fits _ (List.getElem_mem hq)
  have hpos : 0 < g.ringSize := g.share_pos.trans_le g.share_le
  have hmod := Nat.mod_lt (g.audioStart + r) hpos
  rw [ringByte]
  omega

/-- The cut at the end of the ring, and the address on the card. -/
lemma cut_eq (hq : q < g.rings.length) (hr : r < g.share) :
    (if g.ringSize ≤ g.audioStart + r then
        (toUInt32 ((g.rings.getD q 0 : Int) + ((g.audioStart + r : ℕ) - (g.ringSize : Int))),
          g.left size y r)
      else if g.ringSize ≤ toUInt32 ((g.audioStart + r : ℕ) + (g.left size y r : Int)) then
        (toUInt32 ((g.rings.getD q 0 : Int) + (g.audioStart + r : ℕ)),
          toUInt32 ((g.ringSize : Int) - (g.audioStart + r : ℕ)))
      else (toUInt32 ((g.rings.getD q 0 : Int) + (g.audioStart + r : ℕ)), g.left size y r)) =
      (g.ringByte q r, g.cut size y r) := by
  have hR := g.ringSize_le
  have hshare : g.share ≤ g.ringSize := g.share_le
  have hleft : g.left size y r ≤ g.share := by
    rw [left]
    omega
  have hbyte := ringByte_lt hq r
  rw [ringByte, wrap_eq hr] at hbyte ⊢
  rw [cut]
  rcases Nat.lt_or_ge (g.audioStart + r) g.ringSize with hlt | hge
  · rw [if_neg (Nat.not_le.mpr hlt)] at hbyte ⊢
    have hend : toUInt32 ((g.audioStart + r : ℕ) + (g.left size y r : Int)) =
        g.audioStart + r + g.left size y r := toUInt32_of_eq (by omega) (by omega)
    have hcard : toUInt32 ((g.rings.getD q 0 : Int) + (g.audioStart + r : ℕ)) =
        g.rings.getD q 0 + (g.audioStart + r) := toUInt32_of_eq (by omega) (by omega)
    have hback : toUInt32 ((g.ringSize : Int) - (g.audioStart + r : ℕ)) =
        g.ringSize - (g.audioStart + r) := toUInt32_of_eq (by omega) (by omega)
    rw [hend, hcard, hback, if_neg (Nat.not_le.mpr hlt), if_neg (Nat.not_le.mpr hlt)]
    split_ifs with hcross
    · rw [min_eq_right (by omega)]
    · rw [min_eq_left (by omega)]
  · rw [if_pos hge] at hbyte ⊢
    have hcard : toUInt32 ((g.rings.getD q 0 : Int) +
        ((g.audioStart + r : ℕ) - (g.ringSize : Int))) =
        g.rings.getD q 0 + (g.audioStart + r - g.ringSize) :=
      toUInt32_of_eq (by omega) (by omega)
    rw [hcard, if_pos hge, if_pos hge]

/-- The descriptor inside a share: no 32-bit computation wraps. -/
lemma audioDescriptor_eq (hq : q < g.rings.length) (hr : r < g.share) (hy : y < size)
    (hsize : size < g.ringSize) (hfits : a + size ≤ 18446744073709551616) :
    audioDescriptor (g.state a size b y q r) =
      (some ⟨a + y, g.ringByte q r, g.cut size y r⟩,
        g.state a size b (y + g.cut size y r) q (r + g.cut size y r)) := by
  have hR := g.ringSize_le
  have hstart := g.start_le
  have hshare : g.share ≤ g.ringSize := g.share_le
  have hpos := cut_pos hr hy
  have hle := g.cut_le size y r
  have hsys : toUInt64 ((a : Int) + y) = a + y := toUInt64_of_eq (by omega) (by omega)
  have hco : toUInt32 ((g.audioStart : Int) + r) = g.audioStart + r :=
    toUInt32_of_eq (by omega) (by omega)
  have hpage : toUInt32 ((size : Int) - y) = size - y := toUInt32_of_eq (by omega) (by omega)
  have hsum : toUInt32 ((r : Int) + (size - y : ℕ)) = r + (size - y) :=
    toUInt32_of_eq (by omega) (by omega)
  have hrest : toUInt32 ((g.share : Int) - r) = g.share - r :=
    toUInt32_of_eq (by omega) (by omega)
  have hleft : (if g.share < r + (size - y) then g.share - r else size - y) =
      g.left size y r := by
    rw [left]
    split <;> omega
  rw [left] at hle
  have hpage' : toUInt32 ((y : Int) + g.cut size y r) = y + g.cut size y r :=
    toUInt32_of_eq (by omega) (by omega)
  have haudio' : toUInt32 ((r : Int) + g.cut size y r) = r + g.cut size y r :=
    toUInt32_of_eq (by omega) (by omega)
  simp only [audioDescriptor, state, hsys, hco, hpage, hsum, hrest, hleft, cut_eq hq hr]
  rw [if_neg hpos.ne', hpage', haudio']

/-- Inside a share a byte of the buffer is a byte of its ring. -/
lemma cardByte_eq {o : ℕ} (hr : r < g.share) (ho : q * g.share + r = o) :
    g.cardByte o = g.ringByte q r := by
  have hdiv : o / g.share = q := by
    rw [← ho, Nat.mul_comm, Nat.mul_add_div (by omega), Nat.div_eq_of_lt hr, Nat.add_zero]
  have hmod : o % g.share = r := by
    rw [← ho, Nat.mul_comm, Nat.mul_add_mod, Nat.mod_eq_of_lt hr]
  rw [cardByte, hdiv, hmod]

/-- The bytes of `n` bytes of a page at bus address `a`, from byte `x` of the buffer on. -/
def pageBytes (g : AudioGeometry) (a b x n : ℕ) : List (Option ℕ × ℕ) :=
  (List.range' x n).map fun o => (some (a + (o - b)), g.cardByte o)

/-- **One descriptor** carries the bytes up to its cut. -/
lemma byteList_spec (hr : r < g.share) (hx : q * g.share + r = b + y) :
    (Descriptor.mk (a + y) (g.ringByte q r) (g.cut size y r)).byteList =
      g.pageBytes a b (b + y) (g.cut size y r) := by
  rw [Descriptor.byteList, pageBytes, List.range'_eq_map_range, List.map_map]
  refine List.map_congr_left fun t ht => ?_
  have ht' : t < g.cut size y r := List.mem_range.mp ht
  have hcut := g.cut_le size y r
  rw [left] at hcut
  simp only [Function.comp]
  rw [cardByte_eq (r := r + t) (q := q) (by omega) (by omega), ringByte_add hr ht',
    show b + y + t - b = y + t by omega, Nat.add_assoc]

/-! ### One page -/

/-- What a call gives at byte `y` of a page: a descriptor of the next bytes. -/
def Gives (g : AudioGeometry) (a size b y : ℕ) (r : Option Descriptor × DMA_AUDIO_SEGMENT) :
    Prop :=
  ∃ d n q' r', r = (some d, g.state a size b (y + n) q' r') ∧ 0 < n ∧ y + n ≤ size ∧
    b + (y + n) ≤ g.total ∧ g.Cursor (b + (y + n)) q' r' ∧ d.byteList = g.pageBytes a b (b + y) n

/-- What the last call gives at byte `y` of a page: nothing, and the next page starts. -/
def Ends (g : AudioGeometry) (a size b y : ℕ) (r : Option Descriptor × DMA_AUDIO_SEGMENT) :
    Prop :=
  ∃ q' r', r = (none, g.state a size b y q' r') ∧ g.Cursor (b + size) q' r' ∧
    min (b + size) g.total ≤ b + y

/-- Inside a share there is a descriptor. -/
lemma audioDescriptor_gives (hq : q < g.rings.length) (hr : r < g.share) (hy : y < size)
    (hsize : size < g.ringSize) (hfits : a + size ≤ 18446744073709551616)
    (hx : q * g.share + r = b + y) :
    g.Gives a size b y (audioDescriptor (g.state a size b y q r)) := by
  have hcut := g.cut_le size y r
  rw [left] at hcut
  have hend := g.succ_mul_share_le hq
  exact ⟨_, g.cut size y r, q, r + g.cut size y r, audioDescriptor_eq hq hr hy hsize hfits,
    cut_pos hr hy, by omega, by omega, ⟨by omega, .inl ⟨hq, by omega⟩⟩, byteList_spec hr hx⟩

/-- Behind the share of a ring the next ring takes over, if there is one. -/
lemma nextRing_eq (hy : y < size) (hq : q + 1 < 4294967296) :
    dmaAudioSegmentDescriptor (g.state a size b y q g.share) =
      if g.rings.length ≤ q + 1 then (none, g.state a size b y (q + 1) g.share)
      else audioDescriptor (g.state a size b y (q + 1) 0) := by
  have hnext : toUInt32 ((q : Int) + 1) = q + 1 := toUInt32_of_eq (by push_cast; ring) hq
  simp only [dmaAudioSegmentDescriptor, state, hnext, if_neg (Nat.not_le.mpr hy), le_refl,
    if_true]

/-- **One call**: a descriptor of the next bytes of the page, or no more bytes. -/
lemma descriptor_spec (hcur : g.Cursor (b + y) q r) (hy : y ≤ size) (hsize : size < g.ringSize)
    (hfits : a + size ≤ 18446744073709551616) (hbuffer : b + size < 4294967296) :
    g.Gives a size b y (dmaAudioSegmentDescriptor (g.state a size b y q r)) ∨
      g.Ends a size b y (dmaAudioSegmentDescriptor (g.state a size b y q r)) := by
  have hshare : 0 < g.share := g.share_pos
  obtain ⟨hr, hpos⟩ := hcur
  rcases Nat.lt_or_ge y size with hlt | hge
  · rcases Nat.lt_or_ge r g.share with hrlt | hrge
    · -- inside a share
      obtain ⟨hq, hx⟩ : q < g.rings.length ∧ q * g.share + r = b + y := by
        rcases hpos with hlive | ⟨-, -, hdone, -⟩
        · exact hlive
        · omega
      have hsame : dmaAudioSegmentDescriptor (g.state a size b y q r) =
          audioDescriptor (g.state a size b y q r) := by
        rw [dmaAudioSegmentDescriptor]
        exact (if_neg (Nat.not_le.mpr hlt)).trans (if_neg (Nat.not_le.mpr hrlt))
      rw [hsame]
      exact .inl (audioDescriptor_gives hq hrlt hlt hsize hfits hx)
    · -- at the end of a share
      obtain rfl : r = g.share := Nat.le_antisymm hr hrge
      have hrings := g.rings_le
      have hq : q ≤ b + y := by
        rcases hpos with ⟨-, hx⟩ | ⟨-, -, -, hdone⟩
        · have hmul := Nat.le_mul_of_pos_right q hshare
          omega
        · exact hdone
      rw [nextRing_eq hlt (by omega)]
      split_ifs with hlast
      · have htotal : g.total ≤ b + y := by
          rcases hpos with ⟨hqlt, hx⟩ | ⟨hdone, -⟩
          · rw [← hx, total, ← Nat.succ_mul]
            exact Nat.mul_le_mul_right _ hlast
          · exact hdone
        exact .inr ⟨q + 1, g.share, rfl, ⟨le_rfl, .inr ⟨by omega, by omega, rfl, by omega⟩⟩,
          by omega⟩
      · obtain hx : (q + 1) * g.share + 0 = b + y := by
          rcases hpos with ⟨-, hx⟩ | ⟨-, hdone, -⟩
          · rw [Nat.succ_mul, Nat.add_zero, hx]
          · exact absurd hdone hlast
        exact .inl (audioDescriptor_gives (Nat.not_le.mp hlast) hshare hlt hsize hfits hx)
  · -- at the end of the page
    obtain rfl : y = size := Nat.le_antisymm hy hge
    refine .inr ⟨q, r, ?_, ⟨hr, hpos⟩, min_le_left _ _⟩
    rw [dmaAudioSegmentDescriptor]
    exact if_pos le_rfl

lemma pageBytes_append (a b x m n : ℕ) :
    g.pageBytes a b x m ++ g.pageBytes a b (x + m) n = g.pageBytes a b x (m + n) := by
  rw [pageBytes, pageBytes, pageBytes, ← List.map_append, List.range'_append_1]

/-- **One page**: the calls end, and their descriptors carry the rest of the page, up to the last
share. -/
lemma descriptors_spec (fuel : ℕ) (hcur : g.Cursor (b + y) q r) (hy : y ≤ size)
    (hsize : size < g.ringSize) (hfits : a + size ≤ 18446744073709551616)
    (hbuffer : b + size < 4294967296) (hfuel : size - y < fuel) :
    ∃ ds y' q' r', audioDescriptors fuel (g.state a size b y q r) =
        some (ds, g.state a size b y' q' r') ∧ g.Cursor (b + size) q' r' ∧
      carriedList ds = g.pageBytes a b (b + y) (min (b + size) g.total - (b + y)) := by
  induction fuel generalizing y q r with
  | zero => omega
  | succ fuel ih =>
      rw [audioDescriptors]
      rcases descriptor_spec hcur hy hsize hfits hbuffer with
        ⟨d, n, q', r', hd, hn, hyn, htotal, hcur', hbytes⟩ | ⟨q', r', hd, hcur', hend⟩
      · obtain ⟨ds, y', q'', r'', hds, hcur'', hrest⟩ := ih hcur' hyn (by omega)
        rw [hd]
        simp only [hds, Option.map_some]
        refine ⟨d :: ds, y', q'', r'', rfl, hcur'', ?_⟩
        have hsplit : min (b + size) g.total - (b + y) =
            n + (min (b + size) g.total - (b + (y + n))) := by omega
        rw [carriedList, List.flatMap_cons, hbytes, hsplit, ← pageBytes_append, Nat.add_assoc]
        congr 1
      · rw [hd]
        refine ⟨[], y, q', r', rfl, hcur', ?_⟩
        rw [Nat.sub_eq_zero_of_le hend]
        rfl

/-! ### From page to page -/

/-- The next page, unless the buffer is at its end. -/
lemma transfer_spec (piece : Piece) (hlen : piece.length < g.ringSize)
    (hbuffer : b + size < 4294967296) :
    dmaAudioSegmentTransfer (g.state a size b y q r) piece.address piece.length =
      if g.systemSize ≤ b + size then none
      else some (g.state piece.address piece.length (b + size) 0 q r) := by
  have hoff : toUInt32 ((b : Int) + size) = b + size :=
    toUInt32_of_eq (by push_cast; ring) hbuffer
  simp only [dmaAudioSegmentTransfer, state, hoff, if_neg (Nat.not_le.mpr hlen)]

/-- The bytes of the buffer from byte `x` on, up to the last share. -/
def restBytes (g : AudioGeometry) (x : ℕ) (pieces : List Piece) : List (Option ℕ × ℕ) :=
  (List.range' x (g.total - x)).map fun o => (hostAddressFrom x pieces o, g.cardByte o)

lemma restBytes_eq_nil {x : ℕ} (pieces : List Piece) (hx : g.total ≤ x) :
    g.restBytes x pieces = [] := by
  rw [restBytes, Nat.sub_eq_zero_of_le hx]
  rfl

/-- A page and the rest of the buffer carry together what the buffer carries. -/
lemma pageBytes_append_restBytes (piece : Piece) (pieces : List Piece) (x : ℕ) :
    g.pageBytes piece.address x x (min (x + piece.length) g.total - x) ++
        g.restBytes (x + piece.length) pieces = g.restBytes x (piece :: pieces) := by
  have hsplit : g.total - x =
      (min (x + piece.length) g.total - x) + (g.total - (x + piece.length)) := by omega
  have hpage : g.pageBytes piece.address x x (min (x + piece.length) g.total - x) =
      (List.range' x (min (x + piece.length) g.total - x)).map
        fun o => (hostAddressFrom x (piece :: pieces) o, g.cardByte o) := by
    refine List.map_congr_left fun o ho => ?_
    have ho' := List.mem_range'_1.mp ho
    rw [hostAddressFrom_of_lt pieces (by omega)]
  rcases Nat.lt_or_ge (x + piece.length) g.total with hlt | hge
  · have hmin : min (x + piece.length) g.total - x = piece.length := by omega
    have hrest : g.restBytes (x + piece.length) pieces =
        (List.range' (x + piece.length) (g.total - (x + piece.length))).map
          fun o => (hostAddressFrom x (piece :: pieces) o, g.cardByte o) := by
      refine List.map_congr_left fun o ho => ?_
      have ho' := List.mem_range'_1.mp ho
      rw [hostAddressFrom_of_le pieces ho'.1]
    rw [hpage, hrest, restBytes, hsplit, hmin, ← List.map_append, List.range'_append_1]
  · rw [restBytes_eq_nil pieces hge, List.append_nil, hpage, restBytes, min_eq_right hge]

/-- **The program of the remaining pages** carries the remaining bytes of the buffer. -/
lemma program_spec (pieces : List Piece) (hlen : ∀ piece ∈ pieces, piece.length < g.ringSize)
    (hcur : g.Cursor (b + size) q r) (htotal : b + size + totalLength pieces = g.systemSize) :
    ∃ ds, audioProgram (g.state a size b y q r) pieces = some ds ∧
      carriedList ds = g.restBytes (b + size) pieces := by
  have hsystem := g.system_fits
  have hle := g.total_le
  induction pieces generalizing a size b y q r with
  | nil =>
      rw [totalLength_nil, Nat.add_zero] at htotal
      refine ⟨[], rfl, ?_⟩
      rw [restBytes_eq_nil [] (by omega)]
      rfl
  | cons piece pieces ih =>
      rw [totalLength_cons] at htotal
      have hpiece := hlen piece (List.mem_cons_self ..)
      rw [audioProgram, transfer_spec piece hpiece (by omega)]
      split_ifs with hdone
      · refine ⟨[], rfl, ?_⟩
        rw [restBytes_eq_nil _ (by omega)]
        rfl
      · have hpage : g.Cursor (b + size + 0) q r := hcur
        obtain ⟨ds, y', q', r', hds, hcur', hbytes⟩ :=
          descriptors_spec (a := piece.address) (piece.length + 1) hpage
            (Nat.zero_le _) hpiece piece.fits (by omega) (by omega)
        obtain ⟨ds', hds', hrest⟩ := ih (fun p hp => hlen p (List.mem_cons_of_mem _ hp))
          (a := piece.address) (y := y') hcur' (by omega)
        refine ⟨ds ++ ds', ?_, ?_⟩
        · simp only [hds, hds', Option.bind_eq_bind, Option.bind_some]
        · rw [← pageBytes_append_restBytes, ← hrest, carriedList, List.flatMap_append]
          exact congrArg (· ++ carriedList ds') hbytes

/-- What is asked for, in order: every byte of every ring's share, from its place in the host
buffer to its place in the ring. -/
def requested (g : AudioGeometry) (pieces : List Piece) : List (Option ℕ × ℕ) :=
  (List.range g.rings.length).flatMap fun k => (List.range g.share).map fun j =>
    (hostAddress pieces (k * g.share + j),
      g.rings.getD k 0 + (g.audioStart + j) % g.ringSize)

end AudioGeometry

end LibAjaNtv2
