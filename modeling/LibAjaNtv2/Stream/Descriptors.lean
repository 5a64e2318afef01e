import LibAjaNtv2.Dma.PageBuffer

/-!
The descriptor ring of a streaming engine (`ntv2dma.c`).

* `DescriptorPages`: the pages that hold the descriptors;
* `DescriptorPages.place`: the address of the descriptor at a place of the ring, `place_inj`;
* `dmaXlnxDescIndexToPage`, `dmaXlnxStreamLink`, `dmaXlnxStreamBuild`: the driver's functions;
* `segmentsUsed`: how many descriptors a buffer takes;
* `streamBuild_spec`: **what building a buffer writes, and where**.
-/

namespace LibAjaNtv2

/-! ### The ring -/

/-- The bytes of a descriptor. -/
def DMA_DESCRIPTOR_SIZE : ℕ := 32

/-- The most pages of descriptors. -/
def DMA_DESCRIPTOR_PAGES_MAX : ℕ := 4096

/-- The descriptors of a page. -/
def dpNumPerPage : ℕ := PAGE_SIZE / DMA_DESCRIPTOR_SIZE

/-- The descriptors of a streaming engine, as `dmaInit` sets `maxDescriptors`. -/
def streamMaxDescriptors : ℕ := DMA_DESCRIPTOR_PAGES_MAX * (PAGE_SIZE / DMA_DESCRIPTOR_SIZE)

/-- The pages of descriptors that `dmaInit` allocates for it. -/
def numDescriptorPages : ℕ :=
  min (streamMaxDescriptors / (PAGE_SIZE / DMA_DESCRIPTOR_SIZE) + 1) DMA_DESCRIPTOR_PAGES_MAX

lemma dpNumPerPage_eq : dpNumPerPage = 128 := rfl

lemma streamMaxDescriptors_eq : streamMaxDescriptors = 524288 := rfl

lemma numDescriptorPages_eq : numDescriptorPages = 4096 := rfl

lemma streamMaxDescriptors_pos : 0 < streamMaxDescriptors := by
  rw [streamMaxDescriptors_eq]
  omega

/-- A descriptor of the engine. -/
structure XlnxDescriptor where
  ulControl : UInt32 := 0
  ulTransferCount : UInt32 := 0
  llSrcAddress : UInt64 := 0
  llDstAddress : UInt64 := 0
  llNextAddress : ℕ := 0
  deriving DecidableEq, Repr

/-- The pages of an engine's descriptors: their physical addresses, aligned and distinct as
`dma_alloc_coherent` returns them. -/
structure DescriptorPages where
  dmaC2H : Bool
  dmaStream : Bool
  descriptorPhysical : ℕ → ℕ
  aligned : ∀ p, p < numDescriptorPages → PAGE_SIZE ∣ descriptorPhysical p
  distinct : ∀ p q, p < numDescriptorPages → q < numDescriptorPages →
    descriptorPhysical p = descriptorPhysical q → p = q

/-- The memory of the descriptors, by physical address. -/
abbrev DescriptorMemory := ℕ → XlnxDescriptor

namespace DescriptorPages

variable (e : DescriptorPages)

/-- The address of a descriptor of a page. -/
def address (dpPage dpIndex : ℕ) : ℕ := e.descriptorPhysical dpPage + dpIndex * DMA_DESCRIPTOR_SIZE

/-- The address of the descriptor at a place of the ring. -/
def place (i : ℕ) : ℕ :=
  e.address (i % streamMaxDescriptors / dpNumPerPage) (i % streamMaxDescriptors % dpNumPerPage)

lemma place_mod (i : ℕ) : e.place (i % streamMaxDescriptors) = e.place i := by
  rw [DescriptorPages.place, Nat.mod_mod, ← DescriptorPages.place]

/-- Different places of the ring have different addresses. -/
lemma place_inj {i j : ℕ} (h : e.place i = e.place j) :
    i % streamMaxDescriptors = j % streamMaxDescriptors := by
  have hpage : ∀ k, k % streamMaxDescriptors / dpNumPerPage < numDescriptorPages := by
    intro k
    have := Nat.mod_lt k streamMaxDescriptors_pos
    rw [dpNumPerPage_eq, numDescriptorPages_eq]
    rw [streamMaxDescriptors_eq] at this ⊢
    omega
  obtain ⟨a, ha⟩ := e.aligned _ (hpage i)
  obtain ⟨b, hb⟩ := e.aligned _ (hpage j)
  rw [DescriptorPages.place, DescriptorPages.place, address, address] at h
  have hindex : i % streamMaxDescriptors % dpNumPerPage =
      j % streamMaxDescriptors % dpNumPerPage := by
    rw [ha, hb] at h
    simp only [PAGE_SIZE, DMA_DESCRIPTOR_SIZE, dpNumPerPage_eq] at h ⊢
    omega
  rw [hindex] at h
  have hdiv := e.distinct _ _ (hpage i) (hpage j) (Nat.add_right_cancel h)
  rw [← Nat.div_add_mod (i % streamMaxDescriptors) dpNumPerPage, hdiv, hindex, Nat.div_add_mod]

/-- Where a place is in its page. -/
lemma place_page (i : ℕ) :
    e.place i % PAGE_SIZE = i % streamMaxDescriptors % dpNumPerPage * DMA_DESCRIPTOR_SIZE := by
  have hlt := Nat.mod_lt i streamMaxDescriptors_pos
  obtain ⟨a, ha⟩ := e.aligned (i % streamMaxDescriptors / dpNumPerPage) (by
    rw [dpNumPerPage_eq, numDescriptorPages_eq]
    rw [streamMaxDescriptors_eq] at hlt ⊢
    omega)
  rw [place, address, ha]
  simp only [PAGE_SIZE, DMA_DESCRIPTOR_SIZE, dpNumPerPage_eq]
  omega

/-- The descriptors before one in its page. -/
lemma place_back {i j : ℕ} (hle : j ≤ i) (hpage : j ≤ i % streamMaxDescriptors % dpNumPerPage) :
    e.place i - j * DMA_DESCRIPTOR_SIZE = e.place (i - j) := by
  have hmod : (i - j) % streamMaxDescriptors = i % streamMaxDescriptors - j := by
    rw [dpNumPerPage_eq] at hpage
    rw [streamMaxDescriptors_eq] at hpage ⊢
    omega
  have hdiv : (i % streamMaxDescriptors - j) / dpNumPerPage =
      i % streamMaxDescriptors / dpNumPerPage := by
    rw [dpNumPerPage_eq] at hpage ⊢
    omega
  have hrest : (i % streamMaxDescriptors - j) % dpNumPerPage =
      i % streamMaxDescriptors % dpNumPerPage - j := by
    rw [dpNumPerPage_eq] at hpage ⊢
    omega
  rw [place, place, hmod, hdiv, hrest, address, address, Nat.sub_mul,
    Nat.add_sub_assoc (Nat.mul_le_mul_right _ hpage)]

/-- Places less than a round apart have different addresses. -/
lemma place_ne {i j : ℕ} (hlt : i < j) (hround : j < i + streamMaxDescriptors) :
    e.place i ≠ e.place j := by
  intro h
  have hdvd := (Nat.modEq_iff_dvd' hlt.le).mp (e.place_inj h)
  have := Nat.le_of_dvd (by omega) hdvd
  omega

end DescriptorPages

/-- The page and the index of the descriptor at a place. -/
def dmaXlnxDescIndexToPage (index : ℕ) : Option (ℕ × ℕ) :=
  if DMA_DESCRIPTOR_PAGES_MAX * (PAGE_SIZE / DMA_DESCRIPTOR_SIZE) ≤ index then none
  else some (index / dpNumPerPage, index % dpNumPerPage)

lemma descIndexToPage_of_lt {i : ℕ} (h : i < streamMaxDescriptors) :
    dmaXlnxDescIndexToPage i = some (i / dpNumPerPage, i % dpNumPerPage) :=
  if_neg (Nat.not_le.mpr h)

/-- The refusal of the driver. -/
def EPERM : Int := 1

/-- Makes one descriptor lead to another. -/
def dmaXlnxStreamLink (e : DescriptorPages) (memory : DescriptorMemory) (descIndex nextIndex : ℕ) :
    DescriptorMemory × Int :=
  if !e.dmaStream then (memory, -EPERM)
  else
    match dmaXlnxDescIndexToPage descIndex, dmaXlnxDescIndexToPage nextIndex with
    | some (srcPage, srcIndex), some (dstPage, dstIndex) =>
        let pDescriptor := e.address srcPage srcIndex
        (Function.update memory pDescriptor
          { memory pDescriptor with llNextAddress := e.address dstPage dstIndex }, 0)
    | _, _ => (memory, -EPERM)

/-- Linking two places of the ring of a streaming engine. -/
lemma streamLink_eq {e : DescriptorPages} (memory : DescriptorMemory) (i j : ℕ)
    (he : e.dmaStream = true) :
    dmaXlnxStreamLink e memory (i % streamMaxDescriptors) (j % streamMaxDescriptors) =
      (Function.update memory (e.place i) { memory (e.place i) with llNextAddress := e.place j }, 0) := by
  rw [dmaXlnxStreamLink, descIndexToPage_of_lt (Nat.mod_lt _ streamMaxDescriptors_pos),
    descIndexToPage_of_lt (Nat.mod_lt _ streamMaxDescriptors_pos), he]
  rfl

/-- A link writes no descriptor but the one it leads from. -/
lemma streamLink_others (e : DescriptorPages) (memory : DescriptorMemory) (i j : ℕ) {a : ℕ}
    (ha : a ≠ e.place i) :
    (dmaXlnxStreamLink e memory (i % streamMaxDescriptors) (j % streamMaxDescriptors)).1 a =
      memory a := by
  cases he : e.dmaStream with
  | true =>
      rw [streamLink_eq memory i j he]
      exact Function.update_of_ne ha _ _
  | false => simp [dmaXlnxStreamLink, he]

/-! ### Building a buffer -/

/-- A segment of a buffer. -/
structure StreamSegment where
  address : UInt64
  length : UInt32
  deriving DecidableEq, Repr

/-- The page buffer of a stream buffer: its segments if it is mapped. -/
structure StreamPageBuffer where
  sgMap : Bool
  userSize : UInt32
  segments : List StreamSegment
  deriving DecidableEq, Repr

/-- The magic number of a descriptor. -/
def XLNX_CONTROL_DESC_MAGIC : UInt32 := 0xAD4B0000
/-- The descriptor raises an interrupt. -/
def XLNX_CONTROL_DESC_COMPLETION : UInt32 := 2
/-- The most descriptors that are fetched with one. -/
def XLNX_MAX_ADJACENT_COUNT : ℕ := 15

/-- The loop over the segments. -/
structure StreamBuild where
  memory : DescriptorMemory
  dpPage : ℕ
  dpIndex : ℕ
  pDescriptorLast : ℕ
  programBytes : UInt32
  descriptorCount : ℕ

/-- The bytes of a segment that still fit in the buffer. -/
def descTransferSize (userSize programBytes : UInt32) (seg : StreamSegment) : UInt32 :=
  if programBytes + seg.length > userSize then userSize - programBytes else seg.length

/-- The descriptors behind one in its page that may be fetched with it. -/
def contigCount (dpIndex : ℕ) : ℕ :=
  let count := dpNumPerPage - dpIndex - 1
  let count := if count > 0 then count - 1 else count
  if count > XLNX_MAX_ADJACENT_COUNT then XLNX_MAX_ADJACENT_COUNT else count

/-- Writes the descriptor of a segment, which leads to the one behind it. -/
def buildSegment (e : DescriptorPages) (userSize : UInt32) (seg : StreamSegment) (b : StreamBuild) :
    StreamBuild :=
  let size := descTransferSize userSize b.programBytes seg
  let dpIndex := if b.dpIndex + 1 < dpNumPerPage then b.dpIndex + 1 else 0
  let dpPage :=
    if b.dpIndex + 1 < dpNumPerPage then b.dpPage
    else if b.dpPage + 1 ≥ numDescriptorPages then 0
    else b.dpPage + 1
  { memory := Function.update b.memory (e.address b.dpPage b.dpIndex)
      { ulControl := XLNX_CONTROL_DESC_MAGIC ||| ((contigCount b.dpIndex).toUInt32 <<< 8)
        ulTransferCount := size
        llSrcAddress := if e.dmaC2H then 0 else seg.address
        llDstAddress := if e.dmaC2H then seg.address else 0
        llNextAddress := e.address dpPage dpIndex }
    dpPage := dpPage
    dpIndex := dpIndex
    pDescriptorLast := e.address b.dpPage b.dpIndex
    programBytes := b.programBytes + size
    descriptorCount := b.descriptorCount + 1 }

/-- Writes the descriptors of the segments, until the buffer is full. -/
def buildSegments (e : DescriptorPages) (userSize : UInt32) :
    List StreamSegment → StreamBuild → StreamBuild × Bool
  | [], b => (b, true)
  | seg :: segments, b =>
      if b.programBytes ≥ userSize then (b, true)
      else
        let b := buildSegment e userSize seg b
        if b.descriptorCount > streamMaxDescriptors then (b, false)
        else buildSegments e userSize segments b

/-- Takes the count of adjacent descriptors from those before the last one, up to the start of
the page. -/
def resetContig : ℕ → ℕ → DescriptorMemory → DescriptorMemory
  | 0, _, memory => memory
  | dsCount + 1, pDescriptor, memory =>
      let memory := Function.update memory pDescriptor
        { memory pDescriptor with ulControl := XLNX_CONTROL_DESC_MAGIC }
      if pDescriptor % PAGE_SIZE = 0 then memory
      else resetContig dsCount (pDescriptor - DMA_DESCRIPTOR_SIZE) memory

/-- What follows the loop: the last descriptor ends the chain. -/
def finishBuild (b : StreamBuild) : DescriptorMemory :=
  let memory :=
    if b.pDescriptorLast % PAGE_SIZE ≠ 0 then
      resetContig (min XLNX_MAX_ADJACENT_COUNT (b.descriptorCount - 1))
        (b.pDescriptorLast - DMA_DESCRIPTOR_SIZE) b.memory
    else b.memory
  Function.update memory b.pDescriptorLast
    { memory b.pDescriptorLast with
      ulControl := XLNX_CONTROL_DESC_COMPLETION ||| XLNX_CONTROL_DESC_MAGIC
      llNextAddress := 0 }

/-- Writes the descriptors of a buffer from a place of the ring on; the status is their count. -/
def dmaXlnxStreamBuild (e : DescriptorPages) (memory : DescriptorMemory)
    (pPageBuffer : StreamPageBuffer) (index : ℕ) : DescriptorMemory × Int :=
  if !pPageBuffer.sgMap then (memory, -EPERM)
  else
    match dmaXlnxDescIndexToPage index with
    | none => (memory, -EPERM)
    | some (dpPage, dpIndex) =>
        let sgCount := pPageBuffer.segments.length
        if sgCount = 0 then (memory, -EPERM)
        else if sgCount > numDescriptorPages * dpNumPerPage then (memory, -EPERM)
        else
          match buildSegments e pPageBuffer.userSize pPageBuffer.segments
            { memory := memory
              dpPage := dpPage
              dpIndex := dpIndex
              pDescriptorLast := e.address dpPage dpIndex
              programBytes := 0
              descriptorCount := 0 } with
          | (b, false) => (b.memory, -EPERM)
          | (b, true) =>
              if b.descriptorCount = 0 then (b.memory, -EPERM)
              else (finishBuild b, b.descriptorCount)

/-! ### What building writes -/

/-- The memory address of a descriptor's transfer. -/
def DescriptorPages.systemAddress (e : DescriptorPages) (d : XlnxDescriptor) : UInt64 :=
  if e.dmaC2H then d.llDstAddress else d.llSrcAddress

/-- The segments that it takes to fill the buffer. -/
def segmentsUsed (userSize : UInt32) : UInt32 → List StreamSegment → ℕ
  | _, [] => 0
  | programBytes, seg :: segments =>
      if programBytes ≥ userSize then 0
      else segmentsUsed userSize (programBytes + descTransferSize userSize programBytes seg)
        segments + 1

/-- The descriptors that the buffer takes. -/
def StreamPageBuffer.descriptors (p : StreamPageBuffer) : ℕ := segmentsUsed p.userSize 0 p.segments

/-- The buffer can be built. -/
structure StreamPageBuffer.Accepted (p : StreamPageBuffer) : Prop where
  mapped : p.sgMap = true
  segments : p.segments.length ≤ streamMaxDescriptors
  descriptors : 0 < p.descriptors

instance (p : StreamPageBuffer) : Decidable p.Accepted :=
  decidable_of_iff (p.sgMap = true ∧ p.segments.length ≤ streamMaxDescriptors ∧ 0 < p.descriptors)
    ⟨fun ⟨h₁, h₂, h₃⟩ => ⟨h₁, h₂, h₃⟩, fun ⟨h₁, h₂, h₃⟩ => ⟨h₁, h₂, h₃⟩⟩

lemma segmentsUsed_le (userSize : UInt32) (segments : List StreamSegment) :
    ∀ programBytes, segmentsUsed userSize programBytes segments ≤ segments.length := by
  induction segments with
  | nil => exact fun _ => le_rfl
  | cons seg segments ih =>
      intro programBytes
      rw [segmentsUsed, List.length_cons]
      split
      · exact Nat.zero_le _
      · exact Nat.succ_le_succ (ih _)

/-- The loop after it has written some segments from a place on. -/
structure Built (e : DescriptorPages) (index : ℕ) (memory : DescriptorMemory)
    (done : List StreamSegment) (b : StreamBuild) : Prop where
  count : b.descriptorCount = done.length
  dpPage : b.dpPage = (index + done.length) % streamMaxDescriptors / dpNumPerPage
  dpIndex : b.dpIndex = (index + done.length) % streamMaxDescriptors % dpNumPerPage
  last : 0 < done.length → b.pDescriptorLast = e.place (index + (done.length - 1))
  others : ∀ a, (∀ k, k < done.length → a ≠ e.place (index + k)) → b.memory a = memory a
  next : ∀ k, k < done.length →
    (b.memory (e.place (index + k))).llNextAddress = e.place (index + k + 1)
  data : ∀ k seg, done[k]? = some seg →
    e.systemAddress (b.memory (e.place (index + k))) = seg.address

lemma StreamPageBuffer.Accepted.le {p : StreamPageBuffer} (h : p.Accepted) :
    p.descriptors ≤ streamMaxDescriptors :=
  (segmentsUsed_le _ _ _).trans h.segments

section Build

variable {e : DescriptorPages} {index : ℕ} {memory : DescriptorMemory}
  {done segments : List StreamSegment} {b : StreamBuild} {userSize : UInt32}

/-- The place behind. -/
lemma next_place (i : ℕ) :
    (if i % streamMaxDescriptors % dpNumPerPage + 1 < dpNumPerPage then
        i % streamMaxDescriptors / dpNumPerPage
      else if i % streamMaxDescriptors / dpNumPerPage + 1 ≥ numDescriptorPages then 0
      else i % streamMaxDescriptors / dpNumPerPage + 1) =
        (i + 1) % streamMaxDescriptors / dpNumPerPage ∧
      (if i % streamMaxDescriptors % dpNumPerPage + 1 < dpNumPerPage then
        i % streamMaxDescriptors % dpNumPerPage + 1 else 0) =
        (i + 1) % streamMaxDescriptors % dpNumPerPage := by
  rw [streamMaxDescriptors_eq, dpNumPerPage_eq, numDescriptorPages_eq]
  constructor
  · split_ifs <;> omega
  · split_ifs <;> omega

/-- **Writing a segment** at the place behind those written. -/
lemma Built.segment (h : Built e index memory done b) (seg : StreamSegment)
    (hround : done.length < streamMaxDescriptors) :
    Built e index memory (done ++ [seg]) (buildSegment e userSize seg b) := by
  obtain ⟨hpage, hindex⟩ := next_place (index + done.length)
  have hhere : e.address b.dpPage b.dpIndex = e.place (index + done.length) := by
    rw [h.dpPage, h.dpIndex]
    rfl
  have hnext : e.address (buildSegment e userSize seg b).dpPage
      (buildSegment e userSize seg b).dpIndex = e.place (index + done.length + 1) := by
    simp only [buildSegment]
    rw [h.dpPage, h.dpIndex, hpage, hindex]
    rfl
  have hmemory : (buildSegment e userSize seg b).memory =
      Function.update b.memory (e.place (index + done.length))
        ((buildSegment e userSize seg b).memory (e.place (index + done.length))) := by
    rw [← hhere]
    simp only [buildSegment, Function.update_self]
  have hne : ∀ k, k < done.length → e.place (index + k) ≠ e.place (index + done.length) :=
    fun k hk => e.place_ne (by omega) (by omega)
  refine ⟨?_, ?_, ?_, fun _ => ?_, fun a ha => ?_, fun k hk => ?_, fun k seg' hk => ?_⟩
  · simp only [buildSegment, h.count, List.length_append, List.length_singleton]
  · simp only [buildSegment, List.length_append, List.length_singleton]
    rw [h.dpPage, h.dpIndex, hpage, Nat.add_assoc]
  · simp only [buildSegment, List.length_append, List.length_singleton]
    rw [h.dpIndex, hindex, Nat.add_assoc]
  · simp only [buildSegment, List.length_append, List.length_singleton, Nat.add_sub_cancel]
    exact hhere
  · rw [List.length_append, List.length_singleton] at ha
    rw [hmemory, Function.update_of_ne (ha _ (Nat.lt_succ_self _))]
    exact h.others a fun k hk => ha k (Nat.lt_succ_of_lt hk)
  · rw [List.length_append, List.length_singleton] at hk
    rcases Nat.lt_succ_iff_lt_or_eq.mp hk with hlt | rfl
    · rw [hmemory, Function.update_of_ne (hne k hlt)]
      exact h.next k hlt
    · rw [← hnext, ← hhere]
      simp only [buildSegment, Function.update_self]
  · rcases Nat.lt_or_ge k done.length with hlt | hge
    · rw [List.getElem?_append_left hlt] at hk
      rw [hmemory, Function.update_of_ne (hne k hlt)]
      exact h.data k seg' hk
    · rw [List.getElem?_append_right hge, List.getElem?_singleton] at hk
      split_ifs at hk with hzero
      obtain rfl := Option.some.inj hk
      obtain rfl : k = done.length := by omega
      rw [← hhere]
      simp only [buildSegment, Function.update_self, DescriptorPages.systemAddress]
      split_ifs <;> rfl

/-- **The loop** writes the segments that fill the buffer. -/
lemma Built.loop (h : Built e index memory done b)
    (hround : done.length + segments.length ≤ streamMaxDescriptors) :
    ∃ b', buildSegments e userSize segments b = (b', true) ∧
      Built e index memory (done ++ segments.take (segmentsUsed userSize b.programBytes segments))
        b' := by
  induction segments generalizing done b with
  | nil => exact ⟨b, rfl, by simpa using h⟩
  | cons seg segments ih =>
      rw [List.length_cons] at hround
      rw [buildSegments, segmentsUsed]
      split
      · exact ⟨b, rfl, by simpa using h⟩
      · have hseg : Built e index memory (done ++ [seg]) (buildSegment e userSize seg b) :=
          h.segment seg (by omega)
        have hcount : ¬ (buildSegment e userSize seg b).descriptorCount > streamMaxDescriptors := by
          rw [hseg.count, List.length_append, List.length_singleton]
          omega
        obtain ⟨b', hb', hbuilt⟩ := ih hseg (by
          rw [List.length_append, List.length_singleton]
          omega)
        rw [if_neg hcount, List.take_succ_cons]
        refine ⟨b', hb', ?_⟩
        rw [List.append_assoc, List.singleton_append] at hbuilt
        exact hbuilt

/-- Resetting the counts of adjacent descriptors keeps everything else. -/
lemma resetContig_keeps (dsCount p : ℕ) (memory : DescriptorMemory) (a : ℕ) :
    ∃ c, resetContig dsCount p memory a = { memory a with ulControl := c } := by
  induction dsCount generalizing p memory with
  | zero => exact ⟨_, rfl⟩
  | succ n ih =>
      have hone : ∃ c, Function.update memory p
          { memory p with ulControl := XLNX_CONTROL_DESC_MAGIC } a =
            { memory a with ulControl := c } := by
        by_cases ha : a = p
        · exact ⟨_, by rw [ha, Function.update_self]⟩
        · exact ⟨_, by rw [Function.update_of_ne ha]⟩
      rw [resetContig]
      split
      · exact hone
      · obtain ⟨c, hc⟩ := hone
        obtain ⟨c', hc'⟩ := ih (p - DMA_DESCRIPTOR_SIZE) (Function.update memory p
          { memory p with ulControl := XLNX_CONTROL_DESC_MAGIC })
        exact ⟨c', by rw [hc', hc]⟩

/-- Resetting the counts stays in the page. -/
lemma resetContig_others (dsCount p : ℕ) (memory : DescriptorMemory) (a : ℕ)
    (hp : DMA_DESCRIPTOR_SIZE ∣ p)
    (ha : ∀ j, j < dsCount → j * DMA_DESCRIPTOR_SIZE ≤ p % PAGE_SIZE →
      a ≠ p - j * DMA_DESCRIPTOR_SIZE) : resetContig dsCount p memory a = memory a := by
  induction dsCount generalizing p memory with
  | zero => rfl
  | succ n ih =>
      have hne : a ≠ p := by simpa using ha 0 (Nat.succ_pos n) (by simp)
      rw [resetContig]
      split
      · rw [Function.update_of_ne hne]
      · next hstart =>
          have hpage : (p - DMA_DESCRIPTOR_SIZE) % PAGE_SIZE + DMA_DESCRIPTOR_SIZE =
              p % PAGE_SIZE := by
            simp only [PAGE_SIZE, DMA_DESCRIPTOR_SIZE] at hp hstart ⊢
            omega
          rw [ih _ _ ((Nat.dvd_sub hp dvd_rfl)) fun j hj hle => ?_, Function.update_of_ne hne]
          have := ha (j + 1) (Nat.succ_lt_succ hj) (by
            rw [Nat.succ_mul]
            omega)
          rwa [Nat.succ_mul, Nat.add_comm, ← Nat.sub_sub] at this

/-- The descriptors that a finished buffer has written. -/
structure Finished (e : DescriptorPages) (index : ℕ) (memory memory' : DescriptorMemory)
    (done : List StreamSegment) : Prop where
  others : ∀ a, (∀ k, k < done.length → a ≠ e.place (index + k)) → memory' a = memory a
  next : ∀ k, k < done.length → (memory' (e.place (index + k))).llNextAddress =
    if k + 1 < done.length then e.place (index + k + 1) else 0
  data : ∀ k seg, done[k]? = some seg →
    e.systemAddress (memory' (e.place (index + k))) = seg.address

/-- **The last descriptor** ends the chain, and no other buffer's is touched. -/
lemma Built.finish (h : Built e index memory done b) (hpos : 0 < done.length)
    (hround : done.length ≤ streamMaxDescriptors) :
    Finished e index memory (finishBuild b) done := by
  obtain ⟨n, hn⟩ : ∃ n, done.length = n + 1 := ⟨done.length - 1, by omega⟩
  have hlast : b.pDescriptorLast = e.place (index + n) := by
    rw [h.last hpos, hn, Nat.add_sub_cancel]
  -- the reset keeps all but the control words of the buffer's own descriptors
  obtain ⟨memory₁, hmemory₁, hkeeps, hothers⟩ : ∃ memory₁ : DescriptorMemory,
      finishBuild b = Function.update memory₁ (e.place (index + n))
        { memory₁ (e.place (index + n)) with
          ulControl := XLNX_CONTROL_DESC_COMPLETION ||| XLNX_CONTROL_DESC_MAGIC
          llNextAddress := 0 } ∧
      (∀ a, ∃ c, memory₁ a = { b.memory a with ulControl := c }) ∧
      ∀ a, (∀ k, k < done.length → a ≠ e.place (index + k)) → memory₁ a = b.memory a := by
    refine ⟨_, by rw [finishBuild, hlast], fun a => ?_, fun a ha => ?_⟩
    · split
      · exact resetContig_keeps _ _ _ _
      · exact ⟨_, rfl⟩
    · split
      · next hstart =>
          have hpage := e.place_page (index + n)
          have hword : DMA_DESCRIPTOR_SIZE ∣ e.place (index + n) := by
            simp only [PAGE_SIZE, DMA_DESCRIPTOR_SIZE] at hpage ⊢
            omega
          refine resetContig_others _ _ _ _ (Nat.dvd_sub hword dvd_rfl) fun j hj hle => ?_
          have hj' : j + 1 ≤ n := by
            rw [h.count, hn] at hj
            omega
          have hpage' : j + 1 ≤ (index + n) % streamMaxDescriptors % dpNumPerPage := by
            simp only [PAGE_SIZE, DMA_DESCRIPTOR_SIZE] at hpage hstart hle ⊢
            omega
          have hback : e.place (index + n) - DMA_DESCRIPTOR_SIZE - j * DMA_DESCRIPTOR_SIZE =
              e.place (index + (n - (j + 1))) := by
            rw [Nat.sub_sub, Nat.add_comm DMA_DESCRIPTOR_SIZE, ← Nat.succ_mul,
              e.place_back (by omega) hpage', ← Nat.add_sub_assoc hj']
          rw [hback]
          exact ha _ (by omega)
      · rfl
  have hkeep : ∀ a, a ≠ e.place (index + n) → ∃ c,
      finishBuild b a = { b.memory a with ulControl := c } := by
    intro a ha
    rw [hmemory₁, Function.update_of_ne ha]
    exact hkeeps a
  have hself : ∃ c, finishBuild b (e.place (index + n)) =
      { b.memory (e.place (index + n)) with ulControl := c, llNextAddress := 0 } := by
    obtain ⟨c, hc⟩ := hkeeps (e.place (index + n))
    exact ⟨_, by rw [hmemory₁, Function.update_self, hc]⟩
  have hne : ∀ k, k < n → e.place (index + k) ≠ e.place (index + n) :=
    fun k hk => e.place_ne (by omega) (by omega)
  refine ⟨fun a ha => ?_, fun k hk => ?_, fun k seg hk => ?_⟩
  · rw [hmemory₁, Function.update_of_ne (ha n (by omega)), hothers a ha, h.others a ha]
  · rcases Nat.lt_or_ge k n with hlt | hge
    · obtain ⟨c, hc⟩ := hkeep _ (hne k hlt)
      rw [hc, if_pos (by omega)]
      exact h.next k hk
    · obtain rfl : k = n := by omega
      obtain ⟨c, hc⟩ := hself
      rw [hc, if_neg (by omega)]
  · have hdata := h.data k seg hk
    rcases eq_or_ne k n with rfl | hkn
    · obtain ⟨c, hc⟩ := hself
      rw [hc]
      exact hdata
    · have hlt : k < done.length := (List.getElem?_eq_some_iff.mp hk).1
      obtain ⟨c, hc⟩ := hkeep _ (hne k (by omega))
      rw [hc]
      exact hdata

/-- **Building a buffer** that is accepted writes its descriptors, and a buffer that is refused
writes nothing. -/
theorem streamBuild_spec (e : DescriptorPages) (memory : DescriptorMemory) (p : StreamPageBuffer)
    (index : ℕ) :
    (¬ p.Accepted → dmaXlnxStreamBuild e memory p (index % streamMaxDescriptors) =
      (memory, -EPERM)) ∧
    (p.Accepted → ∃ memory', dmaXlnxStreamBuild e memory p (index % streamMaxDescriptors) =
        (memory', (p.descriptors : Int)) ∧
      Finished e index memory memory' (p.segments.take p.descriptors)) := by
  have hstart : Built e index memory []
      { memory := memory
        dpPage := index % streamMaxDescriptors / dpNumPerPage
        dpIndex := index % streamMaxDescriptors % dpNumPerPage
        pDescriptorLast := e.address (index % streamMaxDescriptors / dpNumPerPage)
          (index % streamMaxDescriptors % dpNumPerPage)
        programBytes := 0
        descriptorCount := 0 } :=
    ⟨rfl, rfl, rfl, fun h => absurd h (Nat.lt_irrefl 0), fun _ _ => rfl,
      fun k hk => absurd hk (Nat.not_lt_zero k), fun k seg hk => by simp at hk⟩
  have hused := segmentsUsed_le p.userSize p.segments 0
  rw [dmaXlnxStreamBuild, descIndexToPage_of_lt (Nat.mod_lt _ streamMaxDescriptors_pos)]
  simp only
  split_ifs with hmapped hempty hmany
  · refine ⟨fun _ => rfl, fun h => ?_⟩
    rw [h.mapped] at hmapped
    exact absurd hmapped Bool.false_ne_true
  · refine ⟨fun _ => rfl, fun h => ?_⟩
    have := h.descriptors
    rw [StreamPageBuffer.descriptors] at this
    omega
  · exact ⟨fun _ => rfl, fun h => absurd h.segments (Nat.not_le.mpr hmany)⟩
  · rw [Nat.not_lt] at hmany
    obtain ⟨b, hb, hbuilt⟩ := @Built.loop e index memory [] p.segments _ p.userSize hstart
      (by rw [List.length_nil, Nat.zero_add]; exact hmany)
    rw [List.nil_append] at hbuilt
    change Built e index memory (p.segments.take p.descriptors) b at hbuilt
    have hlength : (p.segments.take p.descriptors).length = p.descriptors :=
      List.length_take_of_le hused
    rw [hb]
    simp only
    rw [hbuilt.count, hlength]
    split_ifs with hnone
    · have hempty' : p.segments.take p.descriptors = [] :=
          List.eq_nil_of_length_eq_zero (hlength.trans hnone)
      refine ⟨fun _ => ?_, fun h => absurd hnone h.descriptors.ne'⟩
      rw [hempty'] at hbuilt
      exact Prod.ext (funext fun a => hbuilt.others a fun k hk => absurd hk (Nat.not_lt_zero k)) rfl
    · refine ⟨fun h => absurd ⟨by simpa using hmapped, hmany, Nat.pos_of_ne_zero hnone⟩ h, fun _ => ?_⟩
      exact ⟨_, rfl, hbuilt.finish (by omega) (by rw [hlength]; exact hused.trans hmany)⟩

end Build

end LibAjaNtv2
