import LibAjaNtv2.Dma.Audio
import LibAjaNtv2.Dma.Video
import LibAjaNtv2.Stream.Descriptors

/-!
Programming a DMA engine: the descriptors of a transfer, in the pages of the engine (`ntv2dma.c`).

* `DMA_ANC_SEGMENT`, `ancProgram`: the ancillary transfers, next to those of video and audio;
* `DmaContext`, `DmaContext.descriptors`: what the program loops generate, one part after the other;
* `DmaEngine`, `DmaEngine.place`: the pages of descriptors, and the address of each descriptor;
* `DescriptorLoop`, `descriptorStep`, `descriptorLoop`: the loop of a program, for any kind of
  descriptor;
* `Programmed`, `Programmed.descriptorLoop_spec`: **what the loop writes, and when it has the capacity**.
-/

namespace LibAjaNtv2

/-! ### The descriptors of a transfer -/

/-- The ancillary scatter list to descriptor map. -/
structure DMA_ANC_SEGMENT where
  ancAddress : ℕ
  ancSize : ℕ
  transferAddress : ℕ
  transferSize : ℕ
  systemOffset : ℕ
  transferOffset : ℕ
  deriving DecidableEq, Repr

/-- Takes the next piece of the host buffer; nothing is left once the size is reached. -/
def dmaAncSegmentTransfer (seg : DMA_ANC_SEGMENT) (transferAddress transferSize : ℕ) :
    Option DMA_ANC_SEGMENT :=
  let systemOffset := toUInt32 (seg.systemOffset + seg.transferSize)
  if seg.ancSize ≤ systemOffset then none
  else
    let transferSize :=
      if seg.ancSize < toUInt32 (systemOffset + transferSize) then
        toUInt32 ((seg.ancSize : Int) - systemOffset)
      else transferSize
    some { seg with
      transferAddress := transferAddress
      transferSize := transferSize
      systemOffset := systemOffset
      transferOffset := 0 }

/-- The next descriptor of the piece: what is left of it. -/
def dmaAncSegmentDescriptor (seg : DMA_ANC_SEGMENT) : Option Descriptor × DMA_ANC_SEGMENT :=
  if seg.transferSize ≤ seg.transferOffset then (none, seg)
  else
    let descSize := toUInt32 ((seg.transferSize : Int) - seg.transferOffset)
    if descSize = 0 then (none, seg)
    else
      (some {
        systemAddress := toUInt64 (seg.transferAddress + seg.transferOffset)
        cardAddress := toUInt32 (seg.ancAddress + seg.systemOffset + seg.transferOffset)
        descSize := descSize },
        { seg with transferOffset := toUInt32 (seg.transferOffset + descSize) })

/-- The descriptors of a piece: `dmaAncSegmentDescriptor` until it returns false, `none` if it
does not within `fuel` calls. -/
def ancDescriptors : ℕ → DMA_ANC_SEGMENT → Option (List Descriptor × DMA_ANC_SEGMENT)
  | 0, _ => none
  | fuel + 1, seg =>
      match dmaAncSegmentDescriptor seg with
      | (none, seg) => some ([], seg)
      | (some d, seg) => (ancDescriptors fuel seg).map fun r => (d :: r.1, r.2)

/-- The descriptors of an ancillary transfer: for each piece, until the transfer takes no more. A
piece gives one descriptor at most. -/
def ancProgram : DMA_ANC_SEGMENT → List Piece → Option (List Descriptor)
  | _, [] => some []
  | seg, piece :: pieces =>
      match dmaAncSegmentTransfer seg piece.address piece.length with
      | none => some []
      | some seg => do
          let (ds, seg) ← ancDescriptors 2 seg
          let rest ← ancProgram seg pieces
          some (ds ++ rest)

/-- What a transfer has to do: a segment with the scatter list of its page buffer for each part
that is to be done. -/
structure DmaContext where
  dmaC2H : Bool
  video : Option (DMA_VIDEO_SEGMENT × List Piece)
  audio : Option (DMA_AUDIO_SEGMENT × List Piece)
  ancF1 : Option (DMA_ANC_SEGMENT × List Piece)
  ancF2 : Option (DMA_ANC_SEGMENT × List Piece)
  doMessage : Bool
  messageBusAddress : ℕ
  messageCardAddress : ℕ

namespace DmaContext

/-- The descriptor of the message, if there is one. -/
def messageProgram (ctx : DmaContext) : List Descriptor :=
  if ctx.doMessage = true ∧ ctx.messageBusAddress ≠ 0 ∧ ctx.messageCardAddress ≠ 0 then
    [{ systemAddress := ctx.messageBusAddress
       cardAddress := ctx.messageCardAddress
       descSize := 4 }]
  else []

/-- The descriptors that the program loops generate: those of the video, of the audio, of both
ancillary fields, and of the message. -/
def descriptors (ctx : DmaContext) : Option (List Descriptor) := do
  let video ← (ctx.video.map fun r => videoProgram r.1 r.2).getD (some [])
  let audio ← (ctx.audio.map fun r => audioProgram r.1 r.2).getD (some [])
  let ancF1 ← (ctx.ancF1.map fun r => ancProgram r.1 r.2).getD (some [])
  let ancF2 ← (ctx.ancF2.map fun r => ancProgram r.1 r.2).getD (some [])
  some (video ++ audio ++ ancF1 ++ ancF2 ++ ctx.messageProgram)

end DmaContext

/-! ### The pages of an engine -/

/-- The pages of descriptors that `dmaInit` allocates. -/
def descriptorPages (maxDescriptors : ℕ) : ℕ :=
  min (maxDescriptors / dpNumPerPage + 1) DMA_DESCRIPTOR_PAGES_MAX

/-- An engine with its pages of descriptors: `dma_alloc_coherent` returns them aligned and distinct,
and `dmaInit` gives an engine up if an address is zero. -/
structure DmaEngine where
  maxDescriptors : ℕ
  deviceDMAOffset : ℕ
  descriptorPhysical : ℕ → ℕ
  aligned : ∀ p, p < descriptorPages maxDescriptors → PAGE_SIZE ∣ descriptorPhysical p
  distinct : ∀ p q, p < descriptorPages maxDescriptors → q < descriptorPages maxDescriptors →
    descriptorPhysical p = descriptorPhysical q → p = q
  nonzero : ∀ p, p < descriptorPages maxDescriptors → descriptorPhysical p ≠ 0
  fits : ∀ p, p < descriptorPages maxDescriptors → descriptorPhysical p < 2 ^ 64

namespace DmaEngine

section

variable {maxDescriptors : ℕ}

lemma inOrder_aligned : ∀ p, p < descriptorPages maxDescriptors → PAGE_SIZE ∣ (p + 1) * PAGE_SIZE :=
  fun p _ => Nat.dvd_mul_left PAGE_SIZE (p + 1)

lemma inOrder_distinct : ∀ p q, p < descriptorPages maxDescriptors →
    q < descriptorPages maxDescriptors → (p + 1) * PAGE_SIZE = (q + 1) * PAGE_SIZE → p = q := by
  intro p q _ _ h
  simp only [PAGE_SIZE] at h
  omega

lemma inOrder_nonzero : ∀ p, p < descriptorPages maxDescriptors → (p + 1) * PAGE_SIZE ≠ 0 := by
  intro p _
  simp only [PAGE_SIZE]
  omega

lemma inOrder_fits (hpages : descriptorPages maxDescriptors < 2 ^ 52) :
    ∀ p, p < descriptorPages maxDescriptors → (p + 1) * PAGE_SIZE < 2 ^ 64 := by
  intro p hp
  simp only [PAGE_SIZE]
  omega

end

/-- Pages of descriptors one after the other, from the second page of the address space on. -/
def inOrder (maxDescriptors : ℕ) (h : descriptorPages maxDescriptors < 2 ^ 52) : DmaEngine where
  maxDescriptors := maxDescriptors
  deviceDMAOffset := 0
  descriptorPhysical p := (p + 1) * PAGE_SIZE
  aligned := inOrder_aligned
  distinct := inOrder_distinct
  nonzero := inOrder_nonzero
  fits := inOrder_fits h

variable (e : DmaEngine)

/-- The pages of the engine. -/
def numDescriptorPages : ℕ := descriptorPages e.maxDescriptors

/-- The address of descriptor `k`. -/
def place (k : ℕ) : ℕ :=
  e.descriptorPhysical (k / dpNumPerPage) + k % dpNumPerPage * DMA_DESCRIPTOR_SIZE

lemma numDescriptorPages_pos : 0 < e.numDescriptorPages :=
  lt_min (Nat.succ_pos _) (by decide)

/-- Where a descriptor is in its page. -/
lemma place_page {k : ℕ} (hk : k < e.numDescriptorPages * dpNumPerPage) :
    e.place k % PAGE_SIZE = k % dpNumPerPage * DMA_DESCRIPTOR_SIZE := by
  rw [dpNumPerPage_eq] at hk
  obtain ⟨a, ha⟩ := e.aligned (k / dpNumPerPage) (by
    rw [dpNumPerPage_eq]
    change k / 128 < e.numDescriptorPages
    omega)
  rw [place, ha]
  simp only [PAGE_SIZE, DMA_DESCRIPTOR_SIZE, dpNumPerPage_eq]
  omega

/-- Different descriptors have different addresses. -/
lemma place_inj {i j : ℕ} (hi : i < e.numDescriptorPages * dpNumPerPage)
    (hj : j < e.numDescriptorPages * dpNumPerPage) (h : e.place i = e.place j) : i = j := by
  have hpi := e.place_page hi
  have hpj := e.place_page hj
  rw [h, hpj] at hpi
  rw [place, place] at h
  rw [dpNumPerPage_eq] at hi hj
  have hindex : i % dpNumPerPage = j % dpNumPerPage := by
    simp only [DMA_DESCRIPTOR_SIZE, dpNumPerPage_eq] at hpi ⊢
    omega
  rw [hindex] at h
  have hpage := e.distinct _ _
    (by change i / dpNumPerPage < e.numDescriptorPages
        rw [dpNumPerPage_eq]
        omega)
    (by change j / dpNumPerPage < e.numDescriptorPages
        rw [dpNumPerPage_eq]
        omega) (Nat.add_right_cancel h)
  rw [← Nat.div_add_mod i dpNumPerPage, hpage, hindex, Nat.div_add_mod]

/-- No descriptor is at address zero. -/
lemma place_ne_zero {k : ℕ} (hk : k < e.numDescriptorPages * dpNumPerPage) : e.place k ≠ 0 := by
  rw [dpNumPerPage_eq] at hk
  have := e.nonzero (k / dpNumPerPage) (by
    rw [dpNumPerPage_eq]
    change k / 128 < e.numDescriptorPages
    omega)
  rw [place]
  omega

/-- The descriptor before one in its page. -/
lemma place_back {k j : ℕ} (hj : j ≤ k % dpNumPerPage) :
    e.place k - j * DMA_DESCRIPTOR_SIZE = e.place (k - j) := by
  have hdiv : (k - j) / dpNumPerPage = k / dpNumPerPage := by
    rw [dpNumPerPage_eq] at hj ⊢
    omega
  have hmod : (k - j) % dpNumPerPage = k % dpNumPerPage - j := by
    rw [dpNumPerPage_eq] at hj ⊢
    omega
  rw [place, place, hdiv, hmod, Nat.sub_mul, Nat.add_sub_assoc (Nat.mul_le_mul_right _ hj)]

/-- The descriptor behind one in its page. -/
lemma place_succ {k : ℕ} (hk : k % dpNumPerPage + 1 < dpNumPerPage) :
    e.place (k + 1) = e.place k + DMA_DESCRIPTOR_SIZE := by
  have hdiv : (k + 1) / dpNumPerPage = k / dpNumPerPage := by
    rw [dpNumPerPage_eq] at hk ⊢
    omega
  have hmod : (k + 1) % dpNumPerPage = k % dpNumPerPage + 1 := by
    rw [dpNumPerPage_eq] at hk ⊢
    omega
  rw [place, place, hdiv, hmod, Nat.succ_mul, Nat.add_assoc]

/-- The first descriptor of a page. -/
lemma place_page_start {k : ℕ} (hk : ¬ k % dpNumPerPage + 1 < dpNumPerPage) :
    e.place (k + 1) = e.descriptorPhysical (k / dpNumPerPage + 1) := by
  have hdiv : (k + 1) / dpNumPerPage = k / dpNumPerPage + 1 := by
    rw [dpNumPerPage_eq] at hk ⊢
    omega
  have hmod : (k + 1) % dpNumPerPage = 0 := by
    rw [dpNumPerPage_eq] at hk ⊢
    omega
  rw [place, hdiv, hmod, Nat.zero_mul, Nat.add_zero]

end DmaEngine

/-! ### The loop of a program -/

/-- The variables of a program loop. -/
structure DescriptorLoop (ρ : Type) where
  memory : ℕ → ρ
  dpIndex : ℕ
  dpPageCount : ℕ
  pDescriptor : ℕ
  pDescriptorLast : ℕ
  programBytes : ℕ
  descriptorCount : ℕ

section Loop

variable {ρ : Type} (e : DmaEngine) (write : ℕ → Descriptor → ρ → ρ) (setNext : ρ → ℕ → ρ)

/-- The loop before its first descriptor. -/
def DescriptorLoop.start (memory : ℕ → ρ) : DescriptorLoop ρ where
  memory := memory
  dpIndex := 0
  dpPageCount := 0
  pDescriptor := e.descriptorPhysical 0
  pDescriptorLast := e.descriptorPhysical 0
  programBytes := 0
  descriptorCount := 0

/-- Writes one descriptor, which leads to the one behind it; `false` if the pages are used up or
there are too many descriptors. `write` fills in a descriptor, given its index in the page, and
`setNext` its next address. -/
def descriptorStep (d : Descriptor) (b : DescriptorLoop ρ) : DescriptorLoop ρ × Bool :=
  let memory := Function.update b.memory b.pDescriptor
    (write b.dpPageCount d (b.memory b.pDescriptor))
  let advance (pDescriptor dpIndex dpPageCount : ℕ) : DescriptorLoop ρ × Bool :=
    ({ memory := Function.update memory b.pDescriptor
         (setNext (memory b.pDescriptor) pDescriptor)
       dpIndex := dpIndex
       dpPageCount := dpPageCount
       pDescriptor := pDescriptor
       pDescriptorLast := b.pDescriptor
       programBytes := toUInt32 (b.programBytes + d.descSize)
       descriptorCount := b.descriptorCount + 1 },
      b.descriptorCount + 1 ≤ e.maxDescriptors)
  if b.dpPageCount + 1 < dpNumPerPage then
    advance (b.pDescriptor + DMA_DESCRIPTOR_SIZE) b.dpIndex (b.dpPageCount + 1)
  else if b.dpIndex + 1 ≥ e.numDescriptorPages then ({ b with memory := memory }, false)
  else advance (e.descriptorPhysical (b.dpIndex + 1)) (b.dpIndex + 1) 0

/-- Writes the descriptors of a transfer; `false` if they do not fit. -/
def descriptorLoop : List Descriptor → DescriptorLoop ρ → DescriptorLoop ρ × Bool
  | [], b => (b, true)
  | d :: ds, b =>
      match descriptorStep e write setNext d b with
      | (b, false) => (b, false)
      | (b, true) => descriptorLoop ds b

/-- The descriptors fit in the engine: the last place of its pages is never used. -/
def DmaEngine.HasRoom (n : ℕ) : Prop :=
  n ≤ e.maxDescriptors ∧ n < e.numDescriptorPages * dpNumPerPage

/-- The loop after it has written some descriptors. -/
structure Programmed (memory : ℕ → ρ) (done : List Descriptor) (b : DescriptorLoop ρ) : Prop where
  count : b.descriptorCount = done.length
  dpIndex : b.dpIndex = done.length / dpNumPerPage
  dpPageCount : b.dpPageCount = done.length % dpNumPerPage
  here : b.pDescriptor = e.place done.length
  last : 0 < done.length → b.pDescriptorLast = e.place (done.length - 1)
  written : ∀ k d, done[k]? = some d → b.memory (e.place k) =
    setNext (write (k % dpNumPerPage) d (memory (e.place k))) (e.place (k + 1))
  others : ∀ a, (∀ k < done.length, a ≠ e.place k) → b.memory a = memory a

variable {e write setNext} {memory : ℕ → ρ} {done : List Descriptor} {b : DescriptorLoop ρ}

/-- Nothing is written before the first descriptor. -/
lemma programmed_start (memory : ℕ → ρ) :
    Programmed e write setNext memory [] (DescriptorLoop.start e memory) where
  count := rfl
  dpIndex := rfl
  dpPageCount := rfl
  here := rfl
  last h := absurd h (Nat.lt_irrefl 0)
  written k d h := by simp at h
  others _ _ := rfl

/-- One descriptor more, written at the place behind the others. -/
lemma Programmed.append (h : Programmed e write setNext memory done b) (d : Descriptor)
    (hroom : done.length + 1 < e.numDescriptorPages * dpNumPerPage) {b' : DescriptorLoop ρ}
    (hcount : b'.descriptorCount = b.descriptorCount + 1)
    (hindex : b'.dpIndex = (done.length + 1) / dpNumPerPage)
    (hpage : b'.dpPageCount = (done.length + 1) % dpNumPerPage)
    (hhere : b'.pDescriptor = e.place (done.length + 1))
    (hlast : b'.pDescriptorLast = b.pDescriptor)
    (hmemory : b'.memory = Function.update b.memory b.pDescriptor
      (setNext (write b.dpPageCount d (b.memory b.pDescriptor)) b'.pDescriptor)) :
    Programmed e write setNext memory (done ++ [d]) b' := by
  have hlength : (done ++ [d]).length = done.length + 1 := by simp
  have hne : ∀ k < done.length, e.place k ≠ e.place done.length := by
    intro k hk heq
    have := e.place_inj (by omega) (by omega) heq
    omega
  refine ⟨?_, ?_, ?_, ?_, fun _ => ?_, fun k d' hk => ?_, fun a ha => ?_⟩
  · rw [hcount, h.count, hlength]
  · rw [hindex, hlength]
  · rw [hpage, hlength]
  · rw [hhere, hlength]
  · rw [hlast, h.here, hlength, Nat.add_sub_cancel]
  · rw [hmemory, h.here]
    rcases Nat.lt_or_ge k done.length with hlt | hge
    · rw [List.getElem?_append_left hlt] at hk
      rw [Function.update_of_ne (hne k hlt)]
      exact h.written k d' hk
    · rw [List.getElem?_append_right hge, List.getElem?_singleton] at hk
      split_ifs at hk with hzero
      obtain rfl := Option.some.inj hk
      obtain rfl : k = done.length := by omega
      rw [Function.update_self, h.dpPageCount, hhere,
        h.others _ fun j hj heq => hne j hj heq.symm]
  · rw [hlength] at ha
    rw [hmemory, h.here, Function.update_of_ne (ha _ (Nat.lt_succ_self _))]
    exact h.others a fun k hk => ha k (Nat.lt_succ_of_lt hk)

/-- **Writing one descriptor**: it succeeds where there is room for it. -/
lemma Programmed.step (h : Programmed e write setNext memory done b) (d : Descriptor)
    (hroom : done.length < e.numDescriptorPages * dpNumPerPage) :
    ((descriptorStep e write setNext d b).2 = true ↔ e.HasRoom (done.length + 1)) ∧
      (e.HasRoom (done.length + 1) →
        Programmed e write setNext memory (done ++ [d]) (descriptorStep e write setNext d b).1) := by
  have hN := dpNumPerPage_eq
  unfold descriptorStep DmaEngine.HasRoom
  dsimp only
  by_cases hpage : b.dpPageCount + 1 < dpNumPerPage
  · rw [if_pos hpage]
    rw [h.dpPageCount] at hpage
    have hlt : done.length + 1 < e.numDescriptorPages * dpNumPerPage := by
      rw [hN] at hpage hroom ⊢
      omega
    refine ⟨by rw [h.count]; simp [hlt], fun _ => h.append d hlt rfl ?_ ?_ ?_ rfl ?_⟩
    · change b.dpIndex = _
      rw [h.dpIndex]
      rw [hN] at hpage ⊢
      omega
    · change b.dpPageCount + 1 = _
      rw [h.dpPageCount]
      rw [hN] at hpage ⊢
      omega
    · rw [h.here, e.place_succ hpage]
    · simp only [Function.update_self, Function.update_idem]
  · rw [if_neg hpage]
    rw [h.dpPageCount] at hpage
    by_cases hlast : b.dpIndex + 1 ≥ e.numDescriptorPages
    · rw [if_pos hlast]
      rw [h.dpIndex] at hlast
      have hge : ¬ done.length + 1 < e.numDescriptorPages * dpNumPerPage := by
        rw [hN] at hpage hlast ⊢
        omega
      simp [hge]
    · rw [if_neg hlast]
      rw [h.dpIndex] at hlast
      have hlt : done.length + 1 < e.numDescriptorPages * dpNumPerPage := by
        rw [hN] at hpage hlast hroom ⊢
        omega
      refine ⟨by rw [h.count]; simp [hlt], fun _ => h.append d hlt rfl ?_ ?_ ?_ rfl ?_⟩
      · change b.dpIndex + 1 = _
        rw [h.dpIndex]
        rw [hN] at hpage ⊢
        omega
      · change 0 = _
        rw [hN] at hpage ⊢
        omega
      · rw [h.dpIndex, e.place_page_start hpage]
      · simp only [Function.update_self, Function.update_idem]

/-- **The loop of a program** succeeds exactly where there is room for all descriptors, and writes
them in their order. -/
lemma Programmed.descriptorLoop_spec (h : Programmed e write setNext memory done b)
    (ds : List Descriptor) (hroom : done.length < e.numDescriptorPages * dpNumPerPage) :
    ((descriptorLoop e write setNext ds b).2 = true ↔
        ds = [] ∨ e.HasRoom (done.length + ds.length)) ∧
      ((descriptorLoop e write setNext ds b).2 = true →
        Programmed e write setNext memory (done ++ ds)
          (descriptorLoop e write setNext ds b).1) := by
  induction ds generalizing done b with
  | nil => exact ⟨by simp [descriptorLoop], fun _ => by simpa [descriptorLoop] using h⟩
  | cons d ds ih =>
      obtain ⟨hok, hstep⟩ := h.step d hroom
      rw [descriptorLoop]
      cases hr : descriptorStep e write setNext d b with
      | mk b' ok =>
          rw [hr] at hok hstep
          cases ok with
          | false =>
              refine ⟨⟨fun hno => absurd hno (by simp), ?_⟩, fun hno => absurd hno (by simp)⟩
              rintro (hno | hroom')
              · cases hno
              · refine absurd (hok.mpr ?_) (by simp)
                rw [List.length_cons] at hroom'
                exact ⟨by have := hroom'.1; omega, by have := hroom'.2; omega⟩
          | true =>
              have hone := hok.mp rfl
              have hlength : (done ++ [d]).length = done.length + 1 := by simp
              obtain ⟨hiff, hprog⟩ := ih (hstep hone) (by rw [hlength]; exact hone.2)
              rw [hlength] at hiff
              rw [List.append_assoc, List.singleton_append] at hprog
              refine ⟨?_, hprog⟩
              rw [hiff, List.length_cons, Nat.add_right_comm, Nat.add_assoc]
              constructor
              · rintro (rfl | hroom')
                · exact .inr hone
                · exact .inr hroom'
              · rintro (hno | hroom')
                · cases hno
                · exact .inr hroom'

end Loop

end LibAjaNtv2
