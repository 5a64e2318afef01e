import LibAjaNtv2.Dma.PageLock
import LibAjaNtv2.Dma.Program
import LibAjaNtv2.Dma.VideoSizes

/-!
Programming an AJA DMA engine with a video transfer (`dmaAjaProgram`).

* `VideoRequest`, `dmaTransferVideo`: the video part of `dmaTransfer`, with its rounding to words;
* `PageTable`, `scatterList`: the page-wise scatter list of `dmaPageLock`; `scatterList_eq`: it has
  the entries of `scatterEntries`;
* `ajaWrite`, `dmaAjaProgram`: the descriptors and the registers of the engine;
* `ajaChain`: what the engine moves, from its registers along the chain;
* `PageSpan`, `words_of_inPage`: where all parts of the segments are whole words;
* `AjaWhole`, `ajaProgram_whole_iff`: **every byte is programmed exactly where the host addresses do
  not wrap and no cut of a segment at a page is inside a word**.
-/

namespace LibAjaNtv2

/-! ### The video part of a transfer -/

/-- The parameters of a transfer that concern video, and the size of a frame. -/
structure VideoRequest where
  videoFrame : UInt32
  frameOffset : UInt32
  vidNumBytes : UInt32
  vidFramePitch : UInt32
  vidUserPitch : UInt32
  numSegments : UInt32
  frameBufferSize : UInt32

namespace VideoRequest

variable (req : VideoRequest)

/-- The bytes of a segment. -/
def videoNumBytes : ℕ := (req.vidNumBytes &&& 0xfffffffc).toNat

/-- The distance of the segments on the card. -/
def videoFramePitch : ℕ := (req.vidFramePitch &&& 0xfffffffc).toNat

/-- The distance of the segments in the host buffer. -/
def videoUserPitch : ℕ := (req.vidUserPitch &&& 0xfffffffc).toNat

/-- The number of segments. -/
def videoNumSegments : ℕ := if req.numSegments = 0 then 1 else req.numSegments.toNat

/-- Where the transfer starts on the card. -/
def videoCardAddress : UInt32 :=
  req.videoFrame * req.frameBufferSize + (req.frameOffset &&& 0xfffffffc)

/-- The bytes of the host buffer. -/
def cardBytes : UInt32 :=
  UInt32.ofNat (videoCardBytes req.videoUserPitch req.videoNumSegments req.videoNumBytes)

end VideoRequest

/-- The bus addresses of the pages of a host buffer. -/
structure PageTable where
  bus : ℕ → ℕ
  aligned : ∀ i, PAGE_SIZE ∣ bus i
  lt : ∀ i, bus i < 18446744073709551616

lemma PageTable.inside (page : PageTable) (i : ℕ) {offset length : ℕ}
    (h : offset + length ≤ PAGE_SIZE) :
    length < 4294967296 ∧ page.bus i + offset + length ≤ 18446744073709551616 := by
  obtain ⟨k, hk⟩ := page.aligned i
  have hlt := page.lt i
  simp only [PAGE_SIZE] at h hk
  omega

/-- A part of a page. -/
def PageTable.piece (page : PageTable) (i offset length : ℕ) (h : offset + length ≤ PAGE_SIZE) :
    Piece where
  address := page.bus i + offset
  length := length
  length_lt := (page.inside i h).1
  fits := (page.inside i h).2

lemma scatterPages_le (count : ℕ) :
    0 + (if count < PAGE_SIZE then count else PAGE_SIZE) ≤ PAGE_SIZE := by
  split <;> omega

/-- The pages from number `i` on. -/
def scatterPages (page : PageTable) : ℕ → ℕ → ℕ → List Piece
  | 0, _, _ => []
  | numPages + 1, i, count =>
      page.piece i 0 (if count < PAGE_SIZE then count else PAGE_SIZE) (scatterPages_le count) ::
        scatterPages page numPages (i + 1) (count - PAGE_SIZE)

lemma firstPage_le (address : UInt64) :
    address.toNat % PAGE_SIZE + (PAGE_SIZE - address.toNat % PAGE_SIZE) ≤ PAGE_SIZE := by
  simp only [PAGE_SIZE]
  omega

lemma onePage_le {address : UInt64} {size : UInt32} (h : ¬ 1 < pagesOf address size) :
    address.toNat % PAGE_SIZE + size.toNat ≤ PAGE_SIZE := by
  simp only [pagesOf, PAGE_SIZE] at h ⊢
  omega

/-- The scatter list of `dmaPageLock`: a piece for each page of the buffer. -/
def scatterList (page : PageTable) (address : UInt64) (size : UInt32) : List Piece :=
  if h : 1 < pagesOf address size then
    page.piece 0 (address.toNat % PAGE_SIZE) (PAGE_SIZE - address.toNat % PAGE_SIZE)
        (firstPage_le address) ::
      scatterPages page (pagesOf address size - 1) 1
        (size.toNat - (PAGE_SIZE - address.toNat % PAGE_SIZE))
  else
    [page.piece 0 (address.toNat % PAGE_SIZE) size.toNat (onePage_le h)]

/-- The video part of `dmaTransfer` for a host buffer: the segment of the transfer and its scatter
list. No segment without bytes, no more than a million segments, and no empty buffer. -/
def dmaTransferVideo (req : VideoRequest) (page : PageTable) (pVidUserVa : UInt64) :
    Option (DMA_VIDEO_SEGMENT × List Piece) :=
  if req.videoNumBytes = 0 ∨ 1000000 < req.numSegments.toNat then none
  else if pVidUserVa = 0 ∨ req.cardBytes = 0 then none
  else
    some (dmaVideoSegmentConfig req.videoCardAddress.toNat req.cardBytes.toNat req.videoFramePitch
      req.videoUserPitch req.videoNumBytes req.videoNumSegments false,
      scatterList page pVidUserVa req.cardBytes)

/-! ### The engine -/

/-- The bytes of a count. -/
def DMA_TRANSFERCOUNT_BYTES : UInt32 := 4
/-- The descriptor has 64-bit addresses. -/
def DMA_TRANSFERCOUNT_64 : UInt32 := 0x10000000
/-- The transfer goes to the host. -/
def DMA_TRANSFERCOUNT_TOHOST : UInt32 := 0x80000000

/-- `DMA_DESCRIPTOR64`, without its reserved words. -/
structure AjaDescriptor where
  ulHostAddressLow : UInt32 := 0
  ulLocalAddress : UInt32 := 0
  ulTransferCount : UInt32 := 0
  ulNextAddressLow : UInt32 := 0
  ulHostAddressHigh : UInt32 := 0
  ulNextAddressHigh : UInt32 := 0
  deriving DecidableEq, Repr

/-- Fills in a descriptor. -/
def ajaWrite (ajaC2H : Bool) (_dpPageCount : ℕ) (d : Descriptor) (pDescriptor : AjaDescriptor) :
    AjaDescriptor :=
  let ulTransferCount :=
    (UInt32.ofNat d.descSize / DMA_TRANSFERCOUNT_BYTES) ||| DMA_TRANSFERCOUNT_64
  { pDescriptor with
    ulHostAddressLow := UInt32.ofNat d.systemAddress
    ulHostAddressHigh := UInt32.ofNat (d.systemAddress / 2 ^ 32)
    ulLocalAddress := UInt32.ofNat d.cardAddress
    ulTransferCount :=
      if ajaC2H then ulTransferCount ||| DMA_TRANSFERCOUNT_TOHOST else ulTransferCount }

/-- Makes a descriptor lead to an address. -/
def ajaNext (pDescriptor : AjaDescriptor) (physDescriptor : ℕ) : AjaDescriptor :=
  { pDescriptor with
    ulNextAddressLow := UInt32.ofNat physDescriptor
    ulNextAddressHigh := UInt32.ofNat (physDescriptor / 2 ^ 32) }

/-- What programming an engine leaves: the registers of the engine hold its first descriptor, if it
is started. -/
structure AjaResult where
  status : Int
  memory : ℕ → AjaDescriptor
  registers : Option AjaDescriptor

/-- Writes the descriptors of a transfer and starts the engine. `transferring` says that the engine
is in the state of a transfer, `valControl` is the status register before the loop and `valControl'`
after it; `none` only if the descriptors have no end. -/
def dmaAjaProgram (e : DmaEngine) (ajaIndex : UInt32) (transferring : Bool)
    (valControl valControl' : UInt32) (ctx : DmaContext) (memory : ℕ → AjaDescriptor) :
    Option AjaResult :=
  if !transferring then some ⟨-EPERM, memory, none⟩
  else if valControl = 0xffffffff then some ⟨-EPERM, memory, none⟩
  else do
    let ds ← ctx.descriptors
    match descriptorLoop e (ajaWrite ctx.dmaC2H) ajaNext ds (.start e memory) with
    | (b, false) => some ⟨-EPERM, b.memory, none⟩
    | (b, true) =>
        let memory := Function.update b.memory b.pDescriptorLast
          (ajaNext (b.memory b.pDescriptorLast) 0)
        if b.descriptorCount = 0 then some ⟨-EPERM, memory, none⟩
        else if valControl' &&& (1 <<< ajaIndex) ≠ 0 then some ⟨-EPERM, memory, none⟩
        else some ⟨0, memory, some (memory (e.descriptorPhysical 0))⟩

/-! ### What the engine moves -/

namespace AjaDescriptor

/-- Where the descriptor leads. -/
def nextAddress (a : AjaDescriptor) : ℕ :=
  a.ulNextAddressHigh.toNat * 2 ^ 32 + a.ulNextAddressLow.toNat

/-- What the descriptor moves: the count is in words, below the flags. -/
def moved (a : AjaDescriptor) : Descriptor where
  systemAddress := a.ulHostAddressHigh.toNat * 2 ^ 32 + a.ulHostAddressLow.toNat
  cardAddress := a.ulLocalAddress.toNat
  descSize := a.ulTransferCount.toNat % 2 ^ 28 * DMA_TRANSFERCOUNT_BYTES.toNat

end AjaDescriptor

/-- What an engine moves with the given registers, along its chain. -/
def ajaChain (memory : ℕ → AjaDescriptor) : ℕ → AjaDescriptor → List Descriptor
  | 0, _ => []
  | fuel + 1, registers =>
      registers.moved ::
        if registers.nextAddress = 0 then []
        else ajaChain memory fuel (memory registers.nextAddress)

/-- The descriptor with its whole words. -/
def wordsOf (d : Descriptor) : Descriptor :=
  { d with descSize := d.descSize / 4 * 4 }

section Chain

variable {e : DmaEngine} {ajaC2H : Bool} {memory : ℕ → AjaDescriptor} {ds : List Descriptor}
  {d : Descriptor} {a : AjaDescriptor} {k : ℕ}

lemma two_words {x : ℕ} (hx : x < 18446744073709551616) :
    (UInt32.ofNat (x / 2 ^ 32)).toNat * 2 ^ 32 + (UInt32.ofNat x).toNat = x := by
  rw [UInt32.toNat_ofNat', UInt32.toNat_ofNat']
  omega

/-- **A descriptor moves the whole words** of what it is written for. -/
lemma moved_ajaWrite (hfit : DescriptorFits 4096 d) :
    (ajaWrite ajaC2H k d a).moved = wordsOf d := by
  obtain ⟨hsystem, hcard, hsize⟩ := hfit
  have hcount : (UInt32.ofNat d.descSize / DMA_TRANSFERCOUNT_BYTES).toNat = d.descSize / 4 := by
    rw [UInt32.toNat_div, UInt32.toNat_ofNat_of_lt' (by exact hsize.trans_lt (by decide))]
    rfl
  have hfield : (ajaWrite ajaC2H k d a).ulTransferCount.toNat % 2 ^ 28 = d.descSize / 4 := by
    have h64 : DMA_TRANSFERCOUNT_64.toNat % 2 ^ 28 = 0 := by decide
    have hhost : DMA_TRANSFERCOUNT_TOHOST.toNat % 2 ^ 28 = 0 := by decide
    have hmod : d.descSize / 4 % 2 ^ 28 = d.descSize / 4 := Nat.mod_eq_of_lt (by omega)
    cases ajaC2H <;>
      simp only [ajaWrite, UInt32.toNat_or, Nat.or_mod_two_pow, hcount, h64, hhost, hmod,
        Nat.or_zero, if_true, Bool.false_eq_true, if_false]
  rw [AjaDescriptor.moved, hfield, wordsOf]
  simp only [ajaWrite, two_words hsystem,
    UInt32.toNat_ofNat_of_lt' (show d.cardAddress < UInt32.size from hcard)]
  rfl

/-- The chain from one of its places on. -/
lemma ajaChain_eq (hplace : ∀ j < ds.length, e.place j ≠ 0)
    (hmoved : ∀ j d, ds[j]? = some d → (memory (e.place j)).moved = wordsOf d)
    (hnext : ∀ j < ds.length, (memory (e.place j)).nextAddress =
      if j + 1 = ds.length then 0 else e.place (j + 1)) {m : ℕ} (hm : k + m + 1 = ds.length) :
    ajaChain memory (m + 1) (memory (e.place k)) = (ds.drop k).map wordsOf := by
  have hk : k < ds.length := by omega
  rw [ajaChain, hnext k hk, List.drop_eq_getElem_cons hk, List.map_cons,
    hmoved k _ (List.getElem?_eq_getElem hk)]
  induction m generalizing k with
  | zero =>
      have hend : k + 1 = ds.length := by omega
      rw [if_pos hend, if_pos rfl, List.drop_of_length_le hend.ge]
      rfl
  | succ m ih =>
      have hmore : k + 1 < ds.length := by omega
      rw [if_neg hmore.ne, if_neg (hplace _ hmore), ajaChain, hnext (k + 1) hmore,
        List.drop_eq_getElem_cons hmore, List.map_cons,
        hmoved (k + 1) _ (List.getElem?_eq_getElem hmore), ih (by omega) hmore]

lemma nextAddress_ajaNext {p : ℕ} (hp : p < 18446744073709551616) :
    (ajaNext a p).nextAddress = p := two_words hp

/-- The addresses of descriptors fit two words. -/
lemma place_lt (hk : k < e.numDescriptorPages * dpNumPerPage) :
    e.place k < 18446744073709551616 := by
  rw [dpNumPerPage_eq] at hk
  have hpage : k / dpNumPerPage < descriptorPages e.maxDescriptors := by
    rw [dpNumPerPage_eq]
    change k / 128 < e.numDescriptorPages
    omega
  obtain ⟨a, ha⟩ := e.aligned _ hpage
  have hlt := e.fits _ hpage
  rw [DmaEngine.place]
  simp only [PAGE_SIZE, DMA_DESCRIPTOR_SIZE, dpNumPerPage_eq] at ha hlt ⊢
  omega

/-- **The chain of a program** moves the whole words of its descriptors. -/
lemma ajaChain_programmed {b : DescriptorLoop AjaDescriptor}
    (h : Programmed e (ajaWrite ajaC2H) ajaNext memory ds b) (hds : 0 < ds.length)
    (hroom : ds.length < e.numDescriptorPages * dpNumPerPage)
    (hfits : ∀ d ∈ ds, DescriptorFits 4096 d) :
    let final := Function.update b.memory b.pDescriptorLast
      (ajaNext (b.memory b.pDescriptorLast) 0)
    ajaChain final ds.length (final (e.descriptorPhysical 0)) = ds.map wordsOf := by
  intro final
  have hlast := h.last hds
  have hother : ∀ j, j + 1 < ds.length → final (e.place j) = b.memory (e.place j) := by
    intro j hj
    refine Function.update_of_ne (fun heq => ?_) _ _
    rw [hlast] at heq
    have := e.place_inj (by omega) (by omega) heq
    omega
  have hend : final (e.place (ds.length - 1)) =
      ajaNext (b.memory (e.place (ds.length - 1))) 0 := by
    rw [← hlast]
    exact Function.update_self _ _ _
  have hfirst : e.descriptorPhysical 0 = e.place 0 := by
    rw [DmaEngine.place, Nat.zero_div, Nat.zero_mod, Nat.zero_mul, Nat.add_zero]
  obtain ⟨m, hm⟩ : ∃ m, ds.length = m + 1 := ⟨ds.length - 1, by omega⟩
  rw [hfirst, hm]
  refine @ajaChain_eq e final ds 0 (fun j hj => e.place_ne_zero (by omega)) (fun j d hd => ?_)
    (fun j hj => ?_) _ (by omega)
  · have hj : j < ds.length := (List.getElem?_eq_some_iff.mp hd).1
    have hwritten := h.written j d hd
    have hmoved := @moved_ajaWrite ajaC2H d (memory (e.place j)) (j % dpNumPerPage)
      (hfits d (List.mem_of_getElem? hd))
    rcases eq_or_lt_of_le (show j + 1 ≤ ds.length from hj) with hjlast | hjlast
    · obtain rfl : j = ds.length - 1 := by omega
      rw [hend, hwritten, ← hmoved]
      rfl
    · rw [hother j hjlast, hwritten, ← hmoved]
      rfl
  · have hwritten := h.written j _ (List.getElem?_eq_getElem hj)
    split
    · next hjlast =>
      obtain rfl : j = ds.length - 1 := by omega
      rw [hend, nextAddress_ajaNext (by decide)]
    · rw [hother j (by omega), hwritten, nextAddress_ajaNext (place_lt (by omega))]

end Chain

/-- **A transfer is programmed** exactly where the engine is in the state of a transfer, its
hardware is there and idle, and it has room for the descriptors, of which there is at least one; the
engine then moves their whole words. -/
lemma dmaAjaProgram_spec (e : DmaEngine) (ajaIndex : UInt32) (transferring : Bool)
    (valControl valControl' : UInt32) {ctx : DmaContext} (memory : ℕ → AjaDescriptor)
    {ds : List Descriptor} (hds : ctx.descriptors = some ds)
    (hfits : ∀ d ∈ ds, DescriptorFits 4096 d) :
    ∃ r, dmaAjaProgram e ajaIndex transferring valControl valControl' ctx memory = some r ∧
      (r.status = 0 ↔ transferring = true ∧ valControl ≠ 0xffffffff ∧ 1 ≤ ds.length ∧
        e.HasRoom ds.length ∧ valControl' &&& (1 <<< ajaIndex) = 0) ∧
      (r.status = 0 → ∃ registers, r.registers = some registers ∧
        ajaChain r.memory ds.length registers = ds.map wordsOf) := by
  have hpages := e.numDescriptorPages_pos
  have hN := dpNumPerPage_eq
  have hstart : Programmed e (ajaWrite ctx.dmaC2H) ajaNext memory [] (.start e memory) :=
    programmed_start memory
  obtain ⟨hiff, hloop⟩ := hstart.descriptorLoop_spec ds (by rw [List.length_nil, hN]; omega)
  rw [List.length_nil, Nat.zero_add] at hiff
  rw [List.nil_append] at hloop
  have hfail : (-EPERM : Int) ≠ 0 := by decide
  rw [dmaAjaProgram]
  cases transferring with
  | false => exact ⟨_, rfl, ⟨fun h => absurd h hfail, fun h => by simp at h⟩,
      fun h => absurd h hfail⟩
  | true =>
      rw [if_neg (by decide)]
      by_cases hstatus : valControl = 0xffffffff
      · rw [if_pos hstatus]
        exact ⟨_, rfl, ⟨fun h => absurd h hfail, fun h => absurd hstatus h.2.1⟩,
          fun h => absurd h hfail⟩
      · rw [if_neg hstatus, hds]
        simp only [Option.bind_eq_bind, Option.bind_some]
        cases hb : descriptorLoop e (ajaWrite ctx.dmaC2H) ajaNext ds (.start e memory) with
        | mk b ok =>
            rw [hb] at hiff hloop
            cases ok with
            | false =>
                refine ⟨_, rfl, ⟨fun h => absurd h hfail, fun h => ?_⟩, fun h => absurd h hfail⟩
                exact absurd (hiff.mpr (.inr h.2.2.2.1)) (by simp)
            | true =>
                have hprog := hloop rfl
                dsimp only
                by_cases hnone : b.descriptorCount = 0
                · rw [if_pos hnone]
                  rw [hprog.count] at hnone
                  exact ⟨_, rfl, ⟨fun h => absurd h hfail, fun h => by omega⟩,
                    fun h => absurd h hfail⟩
                · rw [if_neg hnone]
                  rw [hprog.count] at hnone
                  have hroom : e.HasRoom ds.length := by
                    rcases hiff.mp rfl with rfl | hroom
                    · exact absurd rfl hnone
                    · exact hroom
                  by_cases hidle : valControl' &&& (1 <<< ajaIndex) = 0
                  · rw [if_neg (not_not.mpr hidle)]
                    exact ⟨_, rfl, ⟨fun _ => ⟨trivial, hstatus, by omega, hroom, hidle⟩,
                      fun _ => rfl⟩, fun _ => ⟨_, rfl,
                        ajaChain_programmed hprog (by omega) hroom.2 hfits⟩⟩
                  · rw [if_pos hidle]
                    exact ⟨_, rfl, ⟨fun h => absurd h hfail, fun h => absurd h.2.2.2.2 hidle⟩,
                      fun h => absurd h hfail⟩

/-! ### The pages of a buffer -/

/-- The bytes `[b, e)` of a buffer of `C` bytes at address `A` are in one page, from its start on or
from that of the buffer, up to its end or that of the buffer. -/
structure PageSpan (A C b e : ℕ) : Prop where
  lt : b < e
  le : e ≤ C
  start : b = 0 ∨ PAGE_SIZE ∣ A + b
  stop : e = C ∨ PAGE_SIZE ∣ A + e
  page : (A + b) / PAGE_SIZE = (A + e - 1) / PAGE_SIZE

section Pages

variable {page : PageTable} {A C b x : ℕ} {pieces : List Piece}

/-- The pages behind the first one. -/
lemma scatterPages_spec {numPages i count : ℕ} (hA : PAGE_SIZE ∣ A + b) (hC : b + count = C)
    (hpages : numPages = (count + (PAGE_SIZE - 1)) / PAGE_SIZE) :
    totalLength (scatterPages page numPages i count) = count ∧
      (∀ s ∈ spans b (scatterPages page numPages i count), PageSpan A C s.1 s.2) ∧
      ∀ piece ∈ scatterPages page numPages i count, 0 < piece.length ∧ piece.length ≤ 4096 := by
  induction numPages generalizing b i count with
  | zero =>
      simp only [PAGE_SIZE] at hpages
      obtain rfl : count = 0 := by omega
      exact ⟨rfl, by simp [scatterPages, spans], by simp [scatterPages]⟩
  | succ numPages ih =>
      simp only [PAGE_SIZE] at hpages hA
      rw [scatterPages, totalLength_cons, spans]
      by_cases hlast : count < PAGE_SIZE
      · have hzero : scatterPages page numPages (i + 1) (count - PAGE_SIZE) = [] := by
          simp only [PAGE_SIZE] at hlast
          rw [show numPages = 0 by omega]
          rfl
        simp only [hzero, totalLength_nil, spans, if_pos hlast, PageTable.piece,
          List.mem_singleton, forall_eq]
        simp only [PAGE_SIZE] at hlast
        refine ⟨by omega, ⟨by omega, hC.le, .inr hA, .inl hC, ?_⟩, by omega, by omega⟩
        simp only [PAGE_SIZE]
        omega
      · obtain ⟨htotal, hspans, hlens⟩ := @ih (b + PAGE_SIZE) (i + 1) (count - PAGE_SIZE)
          (by simp only [PAGE_SIZE]; omega)
          (by simp only [PAGE_SIZE] at hlast ⊢; omega) (by simp only [PAGE_SIZE] at hlast ⊢; omega)
        simp only [if_neg hlast, PageTable.piece, List.mem_cons]
        simp only [PAGE_SIZE] at hlast htotal hspans hlens ⊢
        refine ⟨by omega, ?_, ?_⟩
        · rintro s (rfl | hs)
          · refine ⟨by omega, by omega, .inr hA, .inr ?_, ?_⟩ <;> simp only [PAGE_SIZE] <;> omega
          · exact hspans s hs
        · rintro piece (rfl | hpiece)
          · exact ⟨Nat.succ_pos 4095, le_rfl⟩
          · exact hlens piece hpiece

/-- The kernel of the pages of a buffer: a page is its bus address. -/
def PageTable.kernel (page : PageTable) (address : UInt64) : KernelPages ℕ :=
  { fourKPages with userPage := fun p => page.bus (p - address.toNat / PAGE_SIZE) }

/-- Behind the first page, the pieces are the entries. -/
lemma scatterPages_eq (page : PageTable) (address : UInt64) {n i count : ℕ}
    (hn : n ≤ (count + 4095) / 4096) (hbound : count < 2147483648) :
    ((page.kernel address).scatterRest address n i count).map
        (fun entry => (entry.page + entry.offset, entry.length)) =
      (scatterPages page n i count).map fun piece => (piece.address, piece.length) := by
  induction n generalizing i count with
  | zero => rfl
  | succ n ih =>
      have htail := @ih (i + 1) (count - 4096) (by omega) (by omega)
      have hpage : (page.kernel address).pPageList address i = page.bus i :=
        congrArg page.bus (Nat.add_sub_cancel_left _ i)
      have hlength : storedUnsigned (if (count : ℤ) % 18446744073709551616 < (4096 : ℕ) then
          (count : ℤ) else (4096 : ℕ)) = if count < 4096 then count else 4096 := by
        rw [storedUnsigned]
        split <;> split <;> omega
      have hrest : (page.kernel address).scatterRest address n (i + 1)
          (storedInt (count - (4096 : ℕ))) =
          (page.kernel address).scatterRest address n (i + 1) (count - 4096 : ℕ) := by
        cases n with
        | zero => rfl
        | succ n => rw [storedInt_eq (by omega) (by omega), Nat.cast_sub (by omega)]
      simp only [KernelPages.scatterRest, scatterPages, List.map_cons,
        show (page.kernel address).PAGE_SIZE = 4096 from rfl, hrest, htail, sg_set_page, hpage,
        hlength, PageTable.piece, PAGE_SIZE]
      rfl

/-- **The scatter list** has the entries that locking a buffer builds. -/
lemma scatterList_eq (page : PageTable) {address : UInt64} {size : UInt32}
    (hbound : size.toNat < 2147483648) :
    ((page.kernel address).scatterEntries address size).map
        (fun entry => (entry.page + entry.offset, entry.length)) =
      (scatterList page address size).map fun piece => (piece.address, piece.length) := by
  have hsize : (page.kernel address).PAGE_SIZE = 4096 := rfl
  have hpage : (page.kernel address).pPageList address 0 = page.bus 0 :=
    congrArg page.bus (Nat.sub_self _)
  have hcount : (page.kernel address).pageCount address size = pagesOf address size := rfl
  rw [KernelPages.scatterEntries, KernelPages.lockPages_eq _ address hbound, hcount,
    KernelPages.and_pageMask, hsize, hpage, scatterList]
  have hoffset : storedInt (address.toNat % 4096 : ℕ) = (address.toNat % 4096 : ℕ) :=
    storedInt_eq (by omega) (by omega)
  rw [hoffset, storedInt_eq (n := size.toNat) (by omega) (by omega)]
  have hmany : (1 : ℤ) < (pagesOf address size : ℕ) ↔ 1 < pagesOf address size := by omega
  simp only [hmany]
  split
  · next h =>
      simp only [pagesOf, PAGE_SIZE] at h
      have hfirst : ((4096 : ℕ) : ℤ) - (address.toNat % 4096 : ℕ) =
          (4096 - address.toNat % 4096 : ℕ) := by omega
      have hrest : ((pagesOf address size : ℕ) - 1 : ℤ).toNat = pagesOf address size - 1 := by omega
      simp only [sg_set_page, sg_dma_len, hfirst, hrest,
        storedUnsigned_eq (show 4096 - address.toNat % 4096 < 4294967296 by omega),
        storedUnsigned_eq (show address.toNat % 4096 < 4294967296 by omega)]
      rw [← Nat.cast_sub (by omega), storedInt_eq (by omega) (by omega), List.map_cons,
        List.map_cons, scatterPages_eq page address (by simp only [pagesOf, PAGE_SIZE]; omega)
          (by omega)]
      rfl
  · simp only [sg_set_page, storedUnsigned_eq (show size.toNat < 4294967296 by omega),
      storedUnsigned_eq (show address.toNat % 4096 < 4294967296 by omega)]
    rfl

/-- **The scatter list of a buffer** has its bytes, each piece in one page. -/
lemma scatterList_spec {address : UInt64} {size : UInt32} (hsize : size ≠ 0) :
    totalLength (scatterList page address size) = size.toNat ∧
      (∀ s ∈ spans 0 (scatterList page address size),
        PageSpan address.toNat size.toNat s.1 s.2) ∧
      ∀ piece ∈ scatterList page address size, 0 < piece.length ∧ piece.length ≤ 4096 := by
  have hpos : 0 < size.toNat := Nat.pos_of_ne_zero fun h => hsize (UInt32.toNat_inj.mp h)
  rw [scatterList]
  split
  · next hmany =>
    simp only [pagesOf, PAGE_SIZE] at hmany
    obtain ⟨htotal, hspans, hlens⟩ := @scatterPages_spec page address.toNat size.toNat
      (0 + (PAGE_SIZE - address.toNat % PAGE_SIZE)) (pagesOf address size - 1) 1
      (size.toNat - (PAGE_SIZE - address.toNat % PAGE_SIZE))
      (by simp only [PAGE_SIZE]; omega) (by simp only [PAGE_SIZE]; omega)
      (by simp only [pagesOf, PAGE_SIZE]; omega)
    rw [totalLength_cons, htotal]
    simp only [PageTable.piece, spans, List.mem_cons]
    simp only [PAGE_SIZE] at hspans ⊢
    refine ⟨by omega, ?_, ?_⟩
    · rintro s (rfl | hs)
      · refine ⟨by omega, by omega, .inl rfl, .inr ?_, ?_⟩ <;> simp only [PAGE_SIZE] <;> omega
      · exact hspans s hs
    · rintro piece (rfl | hpiece)
      · have hoffset : address.toNat % 4096 < 4096 := Nat.mod_lt _ (by decide)
        exact ⟨Nat.sub_pos_of_lt hoffset, Nat.sub_le _ _⟩
      · exact hlens piece hpiece
  · next hone =>
    simp only [pagesOf, PAGE_SIZE] at hone
    simp only [totalLength_cons, totalLength_nil, PageTable.piece, spans, List.mem_singleton,
      forall_eq, Nat.add_zero, Nat.zero_add]
    refine ⟨trivial, ⟨hpos, le_rfl, .inl rfl, .inl rfl, ?_⟩, hpos, by omega⟩
    simp only [PAGE_SIZE]
    omega

/-- Every byte of a buffer is in a piece. -/
lemma exists_span (hb : b ≤ x) (hx : x < b + totalLength pieces) :
    ∃ s ∈ spans b pieces, s.1 ≤ x ∧ x < s.2 := by
  induction pieces generalizing b with
  | nil =>
      rw [totalLength_nil] at hx
      omega
  | cons piece pieces ih =>
      rw [totalLength_cons] at hx
      rw [spans]
      by_cases hin : x < b + piece.length
      · exact ⟨_, List.mem_cons_self, hb, hin⟩
      · obtain ⟨s, hs, hsx⟩ := ih (not_lt.mp hin) (by omega)
        exact ⟨s, List.mem_cons_of_mem _ hs, hsx⟩

end Pages

/-! ### Whole words -/

/-- The bytes `[x, x + L)` of the address space are in one page. -/
def InPage (x L : ℕ) : Prop := x / PAGE_SIZE = (x + L - 1) / PAGE_SIZE

section Words

variable {A P L n C i j b e x : ℕ} {pieces : List Piece}

lemma segStart_eq (hC : P * (n - 1) + L < 4294967296) (hj : j < n) : segStart P j = P * j := by
  have hmul : P * j ≤ P * (n - 1) := Nat.mul_le_mul_left _ (by omega)
  exact Nat.mod_eq_of_lt (by omega)

/-- **Only whole words**: with a word cut at a page, each segment is in one page. -/
lemma inPage_of_words (hspans : ∀ s ∈ spans 0 pieces, PageSpan A C s.1 s.2)
    (htotal : totalLength pieces = C) (hC : P * (n - 1) + L = C) (hlt : C < 4294967296)
    (hP : P % 4 = 0) (hL : 0 < L) (hA : A % 4 ≠ 0)
    (hwords : ∀ x ∈ videoSizes P L n 0 pieces, x % 4 = 0) (hi : i < n) :
    InPage (A + P * i) L := by
  have hmul : P * i ≤ P * (n - 1) := Nat.mul_le_mul_left _ (by omega)
  obtain ⟨⟨b, e⟩, hs, hbi, hie⟩ := exists_span (Nat.zero_le (P * i))
    (show P * i < 0 + totalLength pieces by omega)
  obtain ⟨hbe, heC, -, hstop, hpage⟩ := hspans _ hs
  rw [InPage]
  simp only [PAGE_SIZE] at hstop hpage hbi hie ⊢
  by_cases hend : P * i + L ≤ e
  · omega
  · exfalso
    have hstart := @segStart_eq P L n i (by omega) hi
    have hsize : partSize P L b e i = e - P * i := by
      rw [partSize, hstart, if_neg (by omega)]
      omega
    have hfirst : firstSegment P L b ≤ i := by
      rw [firstSegment]
      split
      · exact Nat.div_le_of_le_mul (by omega)
      · exact Nat.zero_le _
    have hmem : partSize P L b e i ∈ videoSizes P L n 0 pieces := by
      refine List.mem_flatMap.mpr ⟨_, hs, partSize_mem hfirst (by omega) (fun m _ hmi => ?_) ?_⟩
      · have hPm := Nat.mul_le_mul_left P hmi
        rw [@segStart_eq P L n m (by omega) (by omega)]
        omega
      · rw [hsize]
        omega
    have hword := hwords _ hmem
    rw [hsize] at hword
    have hPi : P * i % 4 = 0 := by rw [Nat.mul_mod, hP, Nat.zero_mul]
    omega

/-- Where no word is cut, or each segment is in one page, all parts are whole words. -/
lemma words_of_inPage (hspans : ∀ s ∈ spans 0 pieces, PageSpan A C s.1 s.2)
    (hC : P * (n - 1) + L = C) (hlt : C < 4294967296) (hP : P % 4 = 0) (hL : L % 4 = 0)
    (hpage : A % 4 = 0 ∨ ∀ i < n, InPage (A + P * i) L)
    (hx : x ∈ videoSizes P L n 0 pieces) : x % 4 = 0 := by
  obtain ⟨⟨b, e⟩, hs, hx⟩ := List.mem_flatMap.mp hx
  obtain ⟨j, hfirst, hjn, hreach, hpos, rfl⟩ := exists_of_mem_pieceSizes hx
  obtain ⟨hbe, heC, hstart, hstop, -⟩ := hspans _ hs
  have hj : j < n := by omega
  have hmul : P * j ≤ P * (n - 1) := Nat.mul_le_mul_left _ (by omega)
  have hseg := @segStart_eq P L n j (by omega) hj
  have hPj : P * j % 4 = 0 := by rw [Nat.mul_mod, hP, Nat.zero_mul]
  have hPn : P * (n - 1) % 4 = 0 := by rw [Nat.mul_mod, hP, Nat.zero_mul]
  simp only [PAGE_SIZE] at hstart hstop hbe heC hreach hpos ⊢
  rw [partSize, hseg] at hpos ⊢
  rw [hseg] at hreach
  rcases hpage with hA | hpage
  · split
    · rw [if_pos (by omega)]
      omega
    · omega
  · have hin := hpage j hj
    simp only [InPage, PAGE_SIZE] at hin
    by_cases hbefore : P * j < b
    · rw [if_pos hbefore, if_pos (by omega)] at hpos
      omega
    · rw [if_neg hbefore] at hpos ⊢
      omega

/-- A program carries as many bytes as its descriptors have. -/
lemma card_carried (ds : List Descriptor) :
    Multiset.card (carried ds) = (ds.map Descriptor.descSize).sum := by
  rw [carried, carriedList, Multiset.coe_card, List.length_flatMap]
  congr 1
  exact List.map_congr_left fun d _ => by rw [Descriptor.byteList, List.length_map,
    List.length_range]

/-- The sums of a buffer without more than its bytes fit. -/
lemma sumsFit_of_total {g : VideoGeometry} (h : b + totalLength pieces ≤ g.cardSize) :
    g.SumsFit b pieces := by
  induction pieces generalizing b with
  | nil => trivial
  | cons piece pieces ih =>
      have hlt := g.cardSize_lt
      rw [totalLength_cons] at h
      exact ⟨fun _ => by omega, ih (by omega)⟩

/-- **Where nothing wraps, every byte is generated.** -/
lemma videoSizes_sum (hlen : ∀ piece ∈ pieces, 0 < piece.length)
    (htotal : totalLength pieces = C) (hC : P * (n - 1) + L = C) (hlt : C < 4294967296)
    (hn : 1 ≤ n) (hL : 0 < L) : (videoSizes P L n 0 pieces).sum = n * L := by
  let g : VideoGeometry := ⟨0, 0, P, L, n, false, hn, hL, by omega, by omega⟩
  have hcard : g.cardSize = C := hC
  obtain ⟨ds, hds, hcar⟩ := @VideoGeometry.program_spec g pieces hlen 0 0 0 0 0
    (Nat.zero_min _).symm (sumsFit_of_total (by omega))
  obtain ⟨ds', hds', -, hsizes⟩ := @videoProgram_sizes g.config 0 pieces hlen rfl
    (by rw [g.config_cardSize, hcard, htotal, Nat.zero_add])
    (by rw [g.config_cardSize, hcard]; exact hlt) (show L < 4294967296 by omega)
    (fun hone => by
      rw [g.config_cardSize, hcard, ← hC, show n = 1 from hone, Nat.sub_self, Nat.mul_zero,
        Nat.zero_add]
      exact le_rfl)
  obtain rfl : ds = ds' := Option.some.inj (hds.symm.trans hds')
  change _ = videoSizes P L n 0 pieces at hsizes
  have hrest : ∀ i ∈ Finset.range n, Multiset.card (g.rest 0 pieces i) = L := fun i hi => by
    have hend := g.segment_end_le (Finset.mem_range.mp hi)
    rw [VideoGeometry.rest, Interval.clip_of_subset (Nat.zero_le _) (by omega),
      ← Interval.map_range_add, Multiset.card_map, Multiset.card_map, Multiset.card_range]
  rw [← hsizes, ← card_carried, hcar, Multiset.card_sum, Finset.sum_congr rfl hrest,
    Finset.sum_const, Finset.card_range, smul_eq_mul]

end Words

/-! ### The claimed bytes -/

/-- The parts of a transfer of video alone. -/
def videoContext (dmaC2H : Bool) (seg : DMA_VIDEO_SEGMENT) (pieces : List Piece) : DmaContext where
  dmaC2H := dmaC2H
  video := some (seg, pieces)
  audio := none
  ancF1 := none
  ancF2 := none
  doMessage := false
  messageBusAddress := 0
  messageCardAddress := 0

/-- The engine moves what the generator has given, which is all bytes of the segments. -/
structure AjaMoves (req : VideoRequest) (ds : List Descriptor) (r : AjaResult)
    (registers : AjaDescriptor) : Prop where
  ranges : ajaChain r.memory ds.length registers = ds
  total : ((ajaChain r.memory ds.length registers).map Descriptor.descSize).sum =
    req.videoNumSegments * req.videoNumBytes

/-- The host addresses do not wrap, and the buffer is aligned to words or each segment is in one
page. -/
def AjaWhole (req : VideoRequest) (pVidUserVa : UInt64) : Prop :=
  req.videoUserPitch * (req.videoNumSegments - 1) + req.videoNumBytes < 4294967296 ∧
    (pVidUserVa.toNat % 4 = 0 ∨ ∀ i < req.videoNumSegments,
      InPage (pVidUserVa.toNat + req.videoUserPitch * i) req.videoNumBytes)

section Request

variable {req : VideoRequest} {page : PageTable} {pVidUserVa : UInt64}
  {seg : DMA_VIDEO_SEGMENT} {pieces : List Piece} {ds : List Descriptor}

/-- Descriptors of whole words are all moved. -/
lemma map_wordsOf_eq_iff : ds.map wordsOf = ds ↔ ∀ x ∈ ds.map Descriptor.descSize, x % 4 = 0 := by
  induction ds with
  | nil => simp
  | cons d ds ih =>
      rw [List.map_cons, List.map_cons, List.forall_mem_cons, List.cons_eq_cons, ih]
      refine and_congr_left fun _ => ?_
      obtain ⟨system, card, size⟩ := d
      simp only [wordsOf, Descriptor.mk.injEq, true_and]
      omega

/-- A request that is let through has a segment, at most a million of them, and whole words. -/
lemma videoRequest_bounds (h : dmaTransferVideo req page pVidUserVa = some (seg, pieces)) :
    0 < req.videoNumBytes ∧ 1 ≤ req.videoNumSegments ∧ req.videoNumSegments ≤ 1000000 ∧
      req.videoUserPitch % 4 = 0 ∧ req.videoNumBytes % 4 = 0 ∧
      req.videoUserPitch < 4294967296 ∧ req.videoNumBytes < 4294967296 ∧
      req.cardBytes ≠ 0 ∧ req.cardBytes.toNat =
        (req.videoUserPitch * (req.videoNumSegments - 1) + req.videoNumBytes) % 4294967296 := by
  rw [dmaTransferVideo] at h
  split_ifs at h with hrefused hempty
  rw [not_or, not_lt] at hrefused
  rw [not_or] at hempty
  have hn : 1 ≤ req.videoNumSegments ∧ req.videoNumSegments ≤ 1000000 := by
    rw [VideoRequest.videoNumSegments]
    split
    · decide
    · next hzero =>
      have hpos : req.numSegments.toNat ≠ 0 := fun h => hzero (UInt32.toNat_inj.mp h)
      omega
  refine ⟨Nat.pos_of_ne_zero hrefused.1, hn.1, hn.2, ?_, ?_, UInt32.toNat_lt _,
    UInt32.toNat_lt _, hempty.2, ?_⟩
  · rw [VideoRequest.videoUserPitch, toNat_and_words, Nat.mul_mod_left]
  · rw [VideoRequest.videoNumBytes, toNat_and_words, Nat.mul_mod_left]
  · rw [VideoRequest.cardBytes, UInt32.toNat_ofNat', videoCardBytes]
    have hlast : (req.videoNumSegments : Int) - 1 = (req.videoNumSegments - 1 : ℕ) := by omega
    rw [hlast, ← Nat.cast_mul, ← Nat.cast_add, toUInt32]
    omega

end Request

/-- **Every byte is programmed** exactly where the host addresses of the segments do not wrap, and
the buffer is aligned to words or no segment is cut at a page: for every request that is let
through, the engine is started where it has room for the descriptors, and then moves the ranges that
the generator gave, which are all bytes of the segments. -/
theorem ajaProgram_whole_iff (e : DmaEngine) (ajaIndex : UInt32) (transferring dmaC2H : Bool)
    (valControl valControl' : UInt32) (memory : ℕ → AjaDescriptor) (req : VideoRequest)
    (page : PageTable) (pVidUserVa : UInt64) {seg : DMA_VIDEO_SEGMENT} {pieces : List Piece}
    (h : dmaTransferVideo req page pVidUserVa = some (seg, pieces)) :
    ∃ ds r, (videoContext dmaC2H seg pieces).descriptors = some ds ∧
      dmaAjaProgram e ajaIndex transferring valControl valControl'
        (videoContext dmaC2H seg pieces) memory = some r ∧
      (r.status = 0 ↔ transferring = true ∧ valControl ≠ 0xffffffff ∧ 1 ≤ ds.length ∧
        e.HasRoom ds.length ∧ valControl' &&& (1 <<< ajaIndex) = 0) ∧
      (r.status = 0 → ∃ registers, r.registers = some registers ∧
        (AjaMoves req ds r registers ↔ AjaWhole req pVidUserVa)) := by
  obtain ⟨hL, hn, hmax, hPw, hLw, hP, hLlt, hsize, hC⟩ := videoRequest_bounds h
  obtain ⟨rfl, rfl⟩ : dmaVideoSegmentConfig req.videoCardAddress.toNat req.cardBytes.toNat
      req.videoFramePitch req.videoUserPitch req.videoNumBytes req.videoNumSegments false = seg ∧
      scatterList page pVidUserVa req.cardBytes = pieces := by
    rw [dmaTransferVideo] at h
    split_ifs at h
    exact Prod.mk.inj (Option.some.inj h)
  obtain ⟨htotal, hspans, hlens⟩ := @scatterList_spec page pVidUserVa _ hsize
  generalize scatterList page pVidUserVa req.cardBytes = pieces at htotal hspans hlens ⊢
  generalize hseg : dmaVideoSegmentConfig req.videoCardAddress.toNat req.cardBytes.toNat
    req.videoFramePitch req.videoUserPitch req.videoNumBytes req.videoNumSegments false = seg
  have hlt : req.cardBytes.toNat < 4294967296 := UInt32.toNat_lt _
  obtain ⟨ds, hds, hfits, hsizes⟩ := @videoProgram_sizes seg 0 pieces
    (fun piece hp => (hlens piece hp).1) (by rw [← hseg]; rfl)
    (by rw [← hseg, htotal, Nat.zero_add]; rfl) (by rw [← hseg]; exact hlt)
    (by rw [← hseg]; exact hLlt) (fun hone => by
      rw [← hseg] at hone ⊢
      change req.videoNumSegments = 1 at hone
      change req.cardBytes.toNat ≤ req.videoNumBytes
      rw [hC, hone, Nat.sub_self, Nat.mul_zero, Nat.zero_add]
      exact Nat.mod_le _ _)
  have hds' : (videoContext dmaC2H seg pieces).descriptors = some ds := by
    simp only [DmaContext.descriptors, videoContext, Option.map_some, Option.map_none,
      Option.getD_some, Option.getD_none, hds, Option.bind_eq_bind, Option.bind_some,
      DmaContext.messageProgram, Bool.false_eq_true, false_and, if_false, List.append_nil]
  obtain ⟨r, hr, hstatus, hmoves⟩ := dmaAjaProgram_spec e ajaIndex transferring valControl
    valControl' memory hds' fun d hd => by
      obtain ⟨piece, hp, hsystem, hcard, hle⟩ := hfits d hd
      exact ⟨hsystem, hcard, hle.trans (hlens piece hp).2⟩
  refine ⟨ds, r, hds', hr, hstatus, fun hzero => ?_⟩
  obtain ⟨registers, hregisters, hchain⟩ := hmoves hzero
  refine ⟨registers, hregisters, ?_⟩
  rw [← hseg] at hsizes
  change _ = videoSizes req.videoUserPitch req.videoNumBytes req.videoNumSegments 0 pieces at hsizes
  constructor
  · rintro ⟨hranges, hall⟩
    rw [hranges, hsizes] at hall
    rw [hchain, map_wordsOf_eq_iff, hsizes] at hranges
    have hnowrap : req.videoUserPitch * (req.videoNumSegments - 1) + req.videoNumBytes <
        4294967296 := by
      refine no_wrap_of_full hP hmax hLlt hC fun j hj => full_of_sum ?_ hL hj
      rw [← hall]
      exact videoSizes_sum_le (fun piece hp => (hlens piece hp).2) (by omega) hlt
    rw [Nat.mod_eq_of_lt hnowrap] at hC
    refine ⟨hnowrap, ?_⟩
    by_cases hA : pVidUserVa.toNat % 4 = 0
    · exact .inl hA
    · exact .inr fun i hi =>
        inPage_of_words hspans htotal hC.symm hlt hPw hL hA hranges hi
  · rintro ⟨hnowrap, hpage⟩
    rw [Nat.mod_eq_of_lt hnowrap] at hC
    have hranges : ds.map wordsOf = ds := by
      rw [map_wordsOf_eq_iff, hsizes]
      exact fun x hx => words_of_inPage hspans hC.symm hlt hPw hLw hpage hx
    refine ⟨hchain.trans hranges, ?_⟩
    rw [hchain, hranges, hsizes]
    exact videoSizes_sum (fun piece hp => (hlens piece hp).1) htotal hC.symm hlt hn hL

lemma pagesInOrder_lt (i : ℕ) : (i % 1024 + 1) * PAGE_SIZE < 18446744073709551616 := by
  simp only [PAGE_SIZE]
  omega

/-- Pages one after the other, from the second one of the address space on. -/
def pagesInOrder : PageTable where
  bus i := (i % 1024 + 1) * PAGE_SIZE
  aligned _ := Dvd.intro_left _ rfl
  lt := pagesInOrder_lt

/-- An engine with a page of descriptors. -/
def onePage : DmaEngine := .inOrder 100 (by decide)

/-- Two segments of a page, two pages apart. -/
def twoSegments : VideoRequest where
  videoFrame := 1
  frameOffset := 0
  vidNumBytes := 4096
  vidFramePitch := 4096
  vidUserPitch := 8192
  numSegments := 2
  frameBufferSize := 0x800000

/-- From a buffer on a word both segments are moved, each cut at the page. -/
theorem ajaProgram_whole_iff_twoSegments :
    ∃ seg pieces ds r registers,
      dmaTransferVideo twoSegments pagesInOrder 4100 = some (seg, pieces) ∧
      dmaAjaProgram onePage 0 true 0 0 (videoContext true seg pieces) (fun _ => {}) = some r ∧
      r.registers = some registers ∧ AjaMoves twoSegments ds r registers := by
  obtain ⟨ds, r, hds, hr, hstatus, hmoves⟩ := ajaProgram_whole_iff onePage 0 true true 0 0
    (fun _ => {}) twoSegments pagesInOrder 4100 rfl
  have hlength : ds.length = 4 := by
    have hmap : (videoContext true (dmaVideoSegmentConfig 0x800000 12288 4096 8192 4096 2 false)
        (scatterList pagesInOrder 4100 12288)).descriptors.map List.length = some 4 := by
      decide +kernel
    rw [show (videoContext true (dmaVideoSegmentConfig 0x800000 12288 4096 8192 4096 2 false)
      (scatterList pagesInOrder 4100 12288)).descriptors = some ds from hds] at hmap
    exact Option.some.inj hmap
  obtain ⟨registers, hregisters, hiff⟩ := hmoves (hstatus.mpr ⟨rfl, by decide, by omega, by
    rw [hlength]
    exact ⟨by decide, by decide⟩, by decide⟩)
  exact ⟨_, _, ds, r, registers, rfl, hr, hregisters, hiff.mpr ⟨by decide, .inl (by decide)⟩⟩

/-- One segment of a page. -/
def oneSegment : VideoRequest where
  videoFrame := 1
  frameOffset := 0
  vidNumBytes := 4096
  vidFramePitch := 4096
  vidUserPitch := 4096
  numSegments := 1
  frameBufferSize := 0x800000

/-- From a buffer two bytes off a word, the cut at the page loses a word. -/
theorem not_ajaMoves_oneSegment :
    ∃ seg pieces ds r registers,
      dmaTransferVideo oneSegment pagesInOrder 4098 = some (seg, pieces) ∧
      (videoContext true seg pieces).descriptors = some ds ∧
      dmaAjaProgram onePage 0 true 0 0 (videoContext true seg pieces) (fun _ => {}) = some r ∧
      r.status = 0 ∧ r.registers = some registers ∧ ¬ AjaMoves oneSegment ds r registers :=
  ⟨_, _, _, _, _, rfl, rfl, rfl, rfl, rfl, fun h => absurd h.total (by decide +kernel)⟩

end LibAjaNtv2
