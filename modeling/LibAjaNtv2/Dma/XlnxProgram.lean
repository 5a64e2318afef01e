import LibAjaNtv2.Dma.Program

/-!
Programming a Xilinx DMA engine (`dmaXlnxProgram`).

* `xlnxWrite`, `xlnxFinish`, `dmaXlnxProgram`: the descriptors, the end of the chain, and the start
  registers;
* `adjacentCount`, `XlnxChain`: what the engine reads, and a chain that it can run;
* `resetContig_apply`, `xlnxFinish_place`: where the counts of adjacent descriptors are taken back;
* `xlnxProgram_chain`: **a transfer is programmed exactly where the engine has room for it, and then
  as a chain that the engine can run**.
-/

namespace LibAjaNtv2

/-- The engine stops behind the descriptor. -/
def XLNX_CONTROL_DESC_STOP : UInt32 := 1
/-- The field with the count of adjacent descriptors. -/
def XLNX_CONTROL_DESC_COUNT_MASK : UInt32 := 0x1F00
/-- Where the field is. -/
def XLNX_CONTROL_DESC_COUNT_SHIFT : UInt32 := 8
/-- The bit of a running engine. -/
def kRegMaskXlnxRun : UInt32 := 1

/-- Fills in a descriptor; as many are announced behind it as may follow in the page. -/
def xlnxWrite (e : DmaEngine) (xlnxC2H : Bool) (dpPageCount : ℕ) (d : Descriptor)
    (pDescriptor : XlnxDescriptor) : XlnxDescriptor :=
  let system := d.systemAddress.toUInt64
  let card := (d.cardAddress + e.deviceDMAOffset).toUInt64
  { pDescriptor with
    ulControl := XLNX_CONTROL_DESC_MAGIC ||| ((contigCount dpPageCount).toUInt32 <<< 8)
    ulTransferCount := d.descSize.toUInt32
    llSrcAddress := if xlnxC2H then card else system
    llDstAddress := if xlnxC2H then system else card }

/-- Makes a descriptor lead to an address. -/
def xlnxNext (pDescriptor : XlnxDescriptor) (physDescriptor : ℕ) : XlnxDescriptor :=
  { pDescriptor with llNextAddress := physDescriptor }

/-- What follows the loop: the counts of adjacent descriptors before the last one are taken back,
and the last one ends the chain. -/
def xlnxFinish (b : DescriptorLoop XlnxDescriptor) : DescriptorMemory :=
  let memory :=
    if b.pDescriptorLast % PAGE_SIZE ≠ 0 then
      resetContig XLNX_MAX_ADJACENT_COUNT (b.pDescriptorLast - DMA_DESCRIPTOR_SIZE) b.memory
    else b.memory
  Function.update memory b.pDescriptorLast
    { memory b.pDescriptorLast with
      ulControl :=
        XLNX_CONTROL_DESC_STOP ||| XLNX_CONTROL_DESC_COMPLETION ||| XLNX_CONTROL_DESC_MAGIC
      llNextAddress := 0 }

/-- The registers that start an engine. -/
structure XlnxStart where
  startLow : UInt32
  startHigh : UInt32
  startAdjacent : UInt32
  deriving DecidableEq, Repr

/-- What programming an engine leaves; `start` if the engine is started. -/
structure XlnxResult where
  status : Int
  memory : DescriptorMemory
  start : Option XlnxStart

/-- Writes the descriptors of a transfer and starts the engine. `transferring` says that the engine
is in the state of a transfer, and `dmaStatus` is its status register; `none` only if the
descriptors have no end. -/
def dmaXlnxProgram (e : DmaEngine) (transferring : Bool) (dmaStatus : UInt32) (ctx : DmaContext)
    (memory : DescriptorMemory) : Option XlnxResult :=
  if !transferring then some ⟨-EPERM, memory, none⟩
  else if dmaStatus = 0xffffffff then some ⟨-EPERM, memory, none⟩
  else do
    let ds ← ctx.descriptors
    match descriptorLoop e (xlnxWrite e ctx.dmaC2H) xlnxNext ds (.start e memory) with
    | (b, false) => some ⟨-EPERM, b.memory, none⟩
    | (b, true) =>
        let memory := xlnxFinish b
        if b.descriptorCount = 0 then some ⟨-EPERM, memory, none⟩
        -- the status that is tested here is the control word of the loop
        else if XLNX_CONTROL_DESC_MAGIC &&& kRegMaskXlnxRun ≠ 0 then some ⟨-EPERM, memory, none⟩
        else
          some ⟨0, memory, some {
            startLow := (e.descriptorPhysical 0 % 2 ^ 32).toUInt32
            startHigh := (e.descriptorPhysical 0 / 2 ^ 32).toUInt32
            startAdjacent :=
              if b.descriptorCount > XLNX_MAX_ADJACENT_COUNT then
                XLNX_MAX_ADJACENT_COUNT.toUInt32 else 0 }⟩

/-! ### What the engine reads -/

/-- The number of descriptors that follow the next one in memory and are fetched with it. -/
def adjacentCount (d : XlnxDescriptor) : ℕ :=
  ((d.ulControl &&& XLNX_CONTROL_DESC_COUNT_MASK) >>> XLNX_CONTROL_DESC_COUNT_SHIFT).toNat

/-- The address of the first descriptor. -/
def XlnxStart.address (start : XlnxStart) : ℕ :=
  start.startHigh.toNat * 2 ^ 32 + start.startLow.toNat

/-- Of the chain of `n` descriptors, the engine may fetch `count` ones at once from number `k`
on: they are in one page, and the chain has as many. -/
structure FetchOk (e : DmaEngine) (n k count : ℕ) : Prop where
  page : e.place k % PAGE_SIZE + count * DMA_DESCRIPTOR_SIZE ≤ PAGE_SIZE
  chain : k + count ≤ n

/-- The chain of the descriptors `ds`: it leads through them in order, the last one alone stops the
engine and raises the interrupt, and no fetch leaves its page or the chain. -/
structure XlnxChain (e : DmaEngine) (xlnxC2H : Bool) (ds : List Descriptor)
    (memory : DescriptorMemory) (start : XlnxStart) : Prop where
  visits : (List.range (ds.length + 1)).map
      (fun k => (fun a => (memory a).llNextAddress)^[k] start.address) =
    (List.range ds.length).map e.place ++ [0]
  data : ∀ k d, ds[k]? = some d →
    ∃ control next, memory (e.place k) =
      { xlnxWrite e xlnxC2H 0 d {} with ulControl := control, llNextAddress := next }
  stop : ∀ k < ds.length,
    (memory (e.place k)).ulControl &&& XLNX_CONTROL_DESC_STOP ≠ 0 ↔ k + 1 = ds.length
  completion : ∀ k < ds.length,
    (memory (e.place k)).ulControl &&& XLNX_CONTROL_DESC_COMPLETION ≠ 0 ↔ k + 1 = ds.length
  next : ∀ k < ds.length, (memory (e.place k)).llNextAddress = 0 ↔ k + 1 = ds.length
  adjacent : ∀ k, k + 1 < ds.length →
    FetchOk e ds.length (k + 1) (1 + adjacentCount (memory (e.place k)))
  last : adjacentCount (memory (e.place (ds.length - 1))) = 0
  initial : FetchOk e ds.length 0 (1 + start.startAdjacent.toNat)

/-! ### Taking the counts back -/

section Reset

variable {n p j : ℕ} {memory : DescriptorMemory}

/-- The counts are taken back from the descriptors before one in its page. -/
lemma resetContig_apply (hp : DMA_DESCRIPTOR_SIZE ∣ p) (hj : j < n)
    (hpage : j * DMA_DESCRIPTOR_SIZE ≤ p % PAGE_SIZE) :
    resetContig n p memory (p - j * DMA_DESCRIPTOR_SIZE) =
      { memory (p - j * DMA_DESCRIPTOR_SIZE) with ulControl := XLNX_CONTROL_DESC_MAGIC } := by
  induction n generalizing p j memory with
  | zero => omega
  | succ n ih =>
      rw [resetContig]
      cases j with
      | zero =>
          rw [Nat.zero_mul, Nat.sub_zero]
          dsimp only
          split
          · rw [Function.update_self]
          · next hstart =>
            rw [resetContig_others _ _ _ _ (Nat.dvd_sub hp dvd_rfl) fun i hi hle => ?_,
              Function.update_self]
            simp only [PAGE_SIZE, DMA_DESCRIPTOR_SIZE] at hp hstart ⊢
            omega
      | succ j =>
          have hstart : p % PAGE_SIZE ≠ 0 := by
            simp only [PAGE_SIZE, DMA_DESCRIPTOR_SIZE] at hpage ⊢
            omega
          dsimp only
          rw [if_neg hstart]
          have hback : p - (j + 1) * DMA_DESCRIPTOR_SIZE =
              p - DMA_DESCRIPTOR_SIZE - j * DMA_DESCRIPTOR_SIZE := by
            rw [Nat.succ_mul, Nat.add_comm, Nat.sub_sub]
          have hne : p - DMA_DESCRIPTOR_SIZE - j * DMA_DESCRIPTOR_SIZE ≠ p := by
            simp only [PAGE_SIZE, DMA_DESCRIPTOR_SIZE] at hp hstart ⊢
            omega
          rw [hback, ih (Nat.dvd_sub hp dvd_rfl) (by omega), Function.update_of_ne hne]
          simp only [PAGE_SIZE, DMA_DESCRIPTOR_SIZE] at hp hpage hstart ⊢
          omega

end Reset

section Finish

variable {e : DmaEngine} {xlnxC2H : Bool} {memory : DescriptorMemory} {ds : List Descriptor}
  {b : DescriptorLoop XlnxDescriptor} {k : ℕ}

/-- The counts are taken back from the fifteen descriptors before the last one, in its page. -/
lemma xlnxFinish_place (h : Programmed e (xlnxWrite e xlnxC2H) xlnxNext memory ds b)
    (hroom : ds.length < e.numDescriptorPages * dpNumPerPage) (hk : k + 1 < ds.length) :
    xlnxFinish b (e.place k) =
      { b.memory (e.place k) with
        ulControl :=
          if k / dpNumPerPage = (ds.length - 1) / dpNumPerPage ∧
              ds.length ≤ k + 1 + XLNX_MAX_ADJACENT_COUNT then XLNX_CONTROL_DESC_MAGIC
          else (b.memory (e.place k)).ulControl } := by
  obtain ⟨last, hlast⟩ : ∃ last, ds.length = last + 1 := ⟨ds.length - 1, by omega⟩
  have hend : b.pDescriptorLast = e.place last := by
    rw [h.last (by omega), hlast, Nat.add_sub_cancel]
  have hpage := e.place_page (k := last) (by omega)
  have hne : e.place k ≠ e.place last := by
    intro heq
    have := e.place_inj (by omega) (by omega) heq
    omega
  have hN := dpNumPerPage_eq
  rw [xlnxFinish, hend, Function.update_of_ne hne, hlast, Nat.add_sub_cancel]
  by_cases hstart : e.place last % PAGE_SIZE = 0
  · -- the last descriptor is the first of its page
    have hother : ¬ (k / dpNumPerPage = last / dpNumPerPage ∧
        last + 1 ≤ k + 1 + XLNX_MAX_ADJACENT_COUNT) := by
      rintro ⟨hsame, -⟩
      simp only [PAGE_SIZE, DMA_DESCRIPTOR_SIZE] at hpage hstart
      rw [hN] at hpage hsame
      omega
    rw [if_neg (not_not.mpr hstart), if_neg hother]
  · rw [if_pos hstart]
    have hpos : 1 ≤ last % dpNumPerPage := by
      simp only [PAGE_SIZE, DMA_DESCRIPTOR_SIZE] at hpage hstart
      omega
    have hback := e.place_back hpos
    rw [Nat.one_mul] at hback
    have hpage' := e.place_page (k := last - 1) (by omega)
    have hword : DMA_DESCRIPTOR_SIZE ∣ e.place (last - 1) := by
      simp only [PAGE_SIZE, DMA_DESCRIPTOR_SIZE] at hpage' ⊢
      omega
    rw [hback]
    by_cases hnear : k / dpNumPerPage = last / dpNumPerPage ∧
        last + 1 ≤ k + 1 + XLNX_MAX_ADJACENT_COUNT
    · have hle : last - 1 - k ≤ (last - 1) % dpNumPerPage := by
        rw [hN] at hnear hpos ⊢
        omega
      have hplace : e.place (last - 1) - (last - 1 - k) * DMA_DESCRIPTOR_SIZE = e.place k := by
        rw [e.place_back hle]
        congr 1
        omega
      rw [if_pos hnear, ← hplace]
      refine resetContig_apply hword ?_ ?_
      · have hnear' := hnear.2
        simp only [XLNX_MAX_ADJACENT_COUNT] at hnear' ⊢
        omega
      · rw [hpage']
        exact Nat.mul_le_mul_right _ hle
    · rw [if_neg hnear, resetContig_others _ _ _ _ hword]
      intro j hj hle heq
      rw [hpage'] at hle
      have hj' : j ≤ (last - 1) % dpNumPerPage :=
        Nat.le_of_mul_le_mul_right hle (by decide)
      rw [e.place_back hj'] at heq
      have hkj := e.place_inj (by omega) (by omega) heq
      refine hnear ⟨?_, ?_⟩
      · rw [hN] at hj' hpos ⊢
        omega
      · omega

/-- The last descriptor ends the chain. -/
lemma xlnxFinish_last (b : DescriptorLoop XlnxDescriptor) :
    ∃ memory : DescriptorMemory, xlnxFinish b b.pDescriptorLast =
      { memory b.pDescriptorLast with
        ulControl :=
          XLNX_CONTROL_DESC_STOP ||| XLNX_CONTROL_DESC_COMPLETION ||| XLNX_CONTROL_DESC_MAGIC
        llNextAddress := 0 } ∧
      ∃ c, memory b.pDescriptorLast = { b.memory b.pDescriptorLast with ulControl := c } := by
  refine ⟨_, Function.update_self _ _ _, ?_⟩
  split
  · exact resetContig_keeps _ _ _ _
  · exact ⟨_, rfl⟩

end Finish

/-! ### The chain -/

/-- A descriptor announces no more than fifteen others, and no more than follow in the page behind
the next one. -/
lemma contigCount_le (c : ℕ) :
    contigCount c ≤ 15 ∧ (c + 1 < 128 → c + contigCount c + 2 ≤ 128) ∧
      (127 ≤ c → contigCount c = 0) := by
  unfold contigCount
  rw [dpNumPerPage_eq, XLNX_MAX_ADJACENT_COUNT]
  dsimp only
  refine ⟨?_, fun hc => ?_, fun hc => ?_⟩
  · split_ifs <;> omega
  · split_ifs <;> omega
  · split_ifs <;> omega

/-- The control word of a descriptor of the loop. -/
def xlnxControl (count : ℕ) : UInt32 := XLNX_CONTROL_DESC_MAGIC ||| (count.toUInt32 <<< 8)

/-- What the fields of the control words are. -/
lemma xlnxControl_fields : ∀ count < 16,
    ((xlnxControl count &&& XLNX_CONTROL_DESC_COUNT_MASK) >>>
        XLNX_CONTROL_DESC_COUNT_SHIFT).toNat = count ∧
      xlnxControl count &&& XLNX_CONTROL_DESC_STOP = 0 ∧
      xlnxControl count &&& XLNX_CONTROL_DESC_COMPLETION = 0 := by
  decide +kernel

/-- What the fields of the last control word are. -/
lemma lastControl_fields :
    (((XLNX_CONTROL_DESC_STOP ||| XLNX_CONTROL_DESC_COMPLETION ||| XLNX_CONTROL_DESC_MAGIC) &&&
        XLNX_CONTROL_DESC_COUNT_MASK) >>> XLNX_CONTROL_DESC_COUNT_SHIFT).toNat = 0 ∧
      (XLNX_CONTROL_DESC_STOP ||| XLNX_CONTROL_DESC_COMPLETION ||| XLNX_CONTROL_DESC_MAGIC) &&&
        XLNX_CONTROL_DESC_STOP ≠ 0 ∧
      (XLNX_CONTROL_DESC_STOP ||| XLNX_CONTROL_DESC_COMPLETION ||| XLNX_CONTROL_DESC_MAGIC) &&&
        XLNX_CONTROL_DESC_COMPLETION ≠ 0 := by
  decide

section Chain

variable {e : DmaEngine} {xlnxC2H : Bool} {memory : DescriptorMemory} {ds : List Descriptor}
  {b : DescriptorLoop XlnxDescriptor} {k : ℕ} {d : Descriptor}

/-- The number of descriptors that stay announced behind one. -/
def keptCount (n k : ℕ) : ℕ :=
  if k / dpNumPerPage = (n - 1) / dpNumPerPage ∧ n ≤ k + 1 + XLNX_MAX_ADJACENT_COUNT then 0
  else contigCount (k % dpNumPerPage)

/-- What is written of a descriptor before the last one. -/
lemma xlnxFinish_before (h : Programmed e (xlnxWrite e xlnxC2H) xlnxNext memory ds b)
    (hroom : ds.length < e.numDescriptorPages * dpNumPerPage) (hk : k + 1 < ds.length)
    (hd : ds[k]? = some d) :
    xlnxFinish b (e.place k) =
      { xlnxWrite e xlnxC2H 0 d {} with
        ulControl := xlnxControl (keptCount ds.length k)
        llNextAddress := e.place (k + 1) } := by
  rw [xlnxFinish_place h hroom hk, h.written k d hd, keptCount]
  split <;> rfl

/-- What is written of the last descriptor. -/
lemma xlnxFinish_end (h : Programmed e (xlnxWrite e xlnxC2H) xlnxNext memory ds b)
    (hk : k + 1 = ds.length) (hd : ds[k]? = some d) :
    xlnxFinish b (e.place k) =
      { xlnxWrite e xlnxC2H 0 d {} with
        ulControl :=
          XLNX_CONTROL_DESC_STOP ||| XLNX_CONTROL_DESC_COMPLETION ||| XLNX_CONTROL_DESC_MAGIC
        llNextAddress := 0 } := by
  have hend : b.pDescriptorLast = e.place k := by
    rw [h.last (by omega), ← hk, Nat.add_sub_cancel]
  obtain ⟨memory', hfinish, c, hc⟩ := xlnxFinish_last b
  rw [hend] at hfinish hc
  rw [hfinish, hc, h.written k d hd]
  rfl

/-- **What may be fetched with the descriptor behind one**: it stays in its page and in the
chain. -/
lemma keptCount_fetchOk {n : ℕ} (hroom : n < e.numDescriptorPages * dpNumPerPage)
    (hk : k + 1 < n) : FetchOk e n (k + 1) (1 + keptCount n k) := by
  have hpage := e.place_page (k := k + 1) (by omega)
  obtain ⟨hle, hin, hend⟩ := contigCount_le (k % dpNumPerPage)
  have hN := dpNumPerPage_eq
  rw [hN] at hpage hin hend hle
  constructor
  · rw [hpage, keptCount]
    simp only [PAGE_SIZE, DMA_DESCRIPTOR_SIZE, hN]
    split <;> omega
  · rw [keptCount]
    simp only [XLNX_MAX_ADJACENT_COUNT, hN]
    split <;> omega

/-- **The chain is one that the engine can run.** -/
lemma xlnxFinish_chain (h : Programmed e (xlnxWrite e xlnxC2H) xlnxNext memory ds b)
    (hroom : ds.length < e.numDescriptorPages * dpNumPerPage) (hpos : 0 < ds.length)
    {start : XlnxStart} (haddress : start.address = e.place 0)
    (hadjacent : start.startAdjacent.toNat = if ds.length > 15 then 15 else 0) :
    XlnxChain e xlnxC2H ds (xlnxFinish b) start := by
  have hget : ∀ k < ds.length, ∃ d, ds[k]? = some d := fun k hk =>
    ⟨ds[k], List.getElem?_eq_getElem hk⟩
  have hkept : ∀ k, keptCount ds.length k < 16 := by
    intro k
    have := (contigCount_le (k % dpNumPerPage)).1
    rw [keptCount]
    split <;> omega
  have hbefore : ∀ k, k + 1 < ds.length → ∃ d, ds[k]? = some d ∧ xlnxFinish b (e.place k) =
      { xlnxWrite e xlnxC2H 0 d {} with
        ulControl := xlnxControl (keptCount ds.length k)
        llNextAddress := e.place (k + 1) } := fun k hk => by
    obtain ⟨d, hd⟩ := hget k (by omega)
    exact ⟨d, hd, xlnxFinish_before h hroom hk hd⟩
  have hend : ∃ d, ds[ds.length - 1]? = some d ∧ xlnxFinish b (e.place (ds.length - 1)) =
      { xlnxWrite e xlnxC2H 0 d {} with
        ulControl :=
          XLNX_CONTROL_DESC_STOP ||| XLNX_CONTROL_DESC_COMPLETION ||| XLNX_CONTROL_DESC_MAGIC
        llNextAddress := 0 } := by
    obtain ⟨d, hd⟩ := hget (ds.length - 1) (by omega)
    exact ⟨d, hd, xlnxFinish_end h (by omega) hd⟩
  have hiter : ∀ k < ds.length,
      (fun a => (xlnxFinish b a).llNextAddress)^[k] start.address = e.place k := by
    intro k hk
    induction k with
    | zero => exact haddress
    | succ k ih =>
        obtain ⟨d, -, hplace⟩ := hbefore k hk
        rw [Function.iterate_succ_apply', ih (by omega), hplace]
  have hcases : ∀ k < ds.length, k + 1 < ds.length ∨ k = ds.length - 1 := fun k hk => by omega
  obtain ⟨dLast, hdLast, hlast⟩ := hend
  refine ⟨?_, fun k d hd => ?_, fun k hk => ?_, fun k hk => ?_, fun k hk => ?_, fun k hk => ?_, ?_,
    ?_⟩
  · rw [List.range_succ, List.map_append, List.map_singleton]
    congr 1
    · exact List.map_congr_left fun k hk => hiter k (List.mem_range.mp hk)
    · obtain ⟨n, hn⟩ : ∃ n, ds.length = n + 1 := ⟨ds.length - 1, by omega⟩
      rw [hn, Nat.add_sub_cancel] at hlast
      rw [hn, Function.iterate_succ_apply', hiter n (by omega), hlast]
  · have hk : k < ds.length := (List.getElem?_eq_some_iff.mp hd).1
    rcases hcases k hk with hlt | rfl
    · exact ⟨_, _, xlnxFinish_before h hroom hlt hd⟩
    · exact ⟨_, _, xlnxFinish_end h (by omega) hd⟩
  · rcases hcases k hk with hlt | rfl
    · obtain ⟨d, -, hplace⟩ := hbefore k hlt
      rw [hplace]
      exact ⟨fun hne => absurd (xlnxControl_fields _ (hkept k)).2.1 hne, fun heq => by omega⟩
    · rw [hlast]
      exact ⟨fun _ => by omega, fun _ => lastControl_fields.2.1⟩
  · rcases hcases k hk with hlt | rfl
    · obtain ⟨d, -, hplace⟩ := hbefore k hlt
      rw [hplace]
      exact ⟨fun hne => absurd (xlnxControl_fields _ (hkept k)).2.2 hne, fun heq => by omega⟩
    · rw [hlast]
      exact ⟨fun _ => by omega, fun _ => lastControl_fields.2.2⟩
  · rcases hcases k hk with hlt | rfl
    · obtain ⟨d, -, hplace⟩ := hbefore k hlt
      rw [hplace]
      exact ⟨fun hz => absurd hz (e.place_ne_zero (by omega)), fun heq => by omega⟩
    · rw [hlast]
      exact ⟨fun _ => by omega, fun _ => rfl⟩
  · obtain ⟨d, -, hplace⟩ := hbefore k hk
    have hfield : adjacentCount (xlnxFinish b (e.place k)) = keptCount ds.length k := by
      rw [hplace]
      exact (xlnxControl_fields _ (hkept k)).1
    rw [hfield]
    exact keptCount_fetchOk hroom hk
  · rw [hlast]
    exact lastControl_fields.1
  · have hpage := e.place_page (k := 0) (by omega)
    rw [Nat.zero_mod, Nat.zero_mul] at hpage
    rw [hadjacent]
    constructor
    · rw [hpage]
      simp only [PAGE_SIZE, DMA_DESCRIPTOR_SIZE]
      split <;> omega
    · split <;> omega

end Chain

/-- The start registers hold the address of the first descriptor. -/
lemma startAddress_eq (e : DmaEngine) {adjacent : UInt32} :
    XlnxStart.address ⟨(e.descriptorPhysical 0 % 2 ^ 32).toUInt32,
      (e.descriptorPhysical 0 / 2 ^ 32).toUInt32, adjacent⟩ = e.place 0 := by
  have hfits := e.fits 0 e.numDescriptorPages_pos
  have hzero : e.place 0 = e.descriptorPhysical 0 := by
    rw [DmaEngine.place, Nat.zero_div, Nat.zero_mod, Nat.zero_mul, Nat.add_zero]
  have hlow : (e.descriptorPhysical 0 % 2 ^ 32).toUInt32.toNat = e.descriptorPhysical 0 % 2 ^ 32 :=
    UInt32.toNat_ofNat_of_lt' (Nat.mod_lt _ (by decide))
  have hhigh : (e.descriptorPhysical 0 / 2 ^ 32).toUInt32.toNat = e.descriptorPhysical 0 / 2 ^ 32 :=
    UInt32.toNat_ofNat_of_lt' (Nat.div_lt_of_lt_mul (by exact hfits))
  rw [XlnxStart.address, hlow, hhigh, hzero]
  omega

/-- **A transfer is programmed** exactly where the engine is in the state of a transfer, its
hardware is there, and it has room for the descriptors, of which there is at least one; the engine
is then started on a chain of them that it can run. -/
theorem xlnxProgram_chain (e : DmaEngine) (transferring : Bool) (dmaStatus : UInt32)
    (ctx : DmaContext) (memory : DescriptorMemory) {ds : List Descriptor}
    (hds : ctx.descriptors = some ds) :
    ∃ r, dmaXlnxProgram e transferring dmaStatus ctx memory = some r ∧
      (r.status = 0 ↔ transferring = true ∧ dmaStatus ≠ 0xffffffff ∧ 1 ≤ ds.length ∧
        e.HasRoom ds.length) ∧
      (r.status = 0 → ∃ start, r.start = some start ∧
        XlnxChain e ctx.dmaC2H ds r.memory start) := by
  have hpages := e.numDescriptorPages_pos
  have hN := dpNumPerPage_eq
  have hstart : Programmed e (xlnxWrite e ctx.dmaC2H) xlnxNext memory [] (.start e memory) :=
    programmed_start memory
  obtain ⟨hiff, hloop⟩ := hstart.descriptorLoop_spec ds (by rw [List.length_nil, hN]; omega)
  rw [List.length_nil, Nat.zero_add] at hiff
  rw [List.nil_append] at hloop
  have hfail : (-EPERM : Int) ≠ 0 := by decide
  rw [dmaXlnxProgram]
  cases transferring with
  | false => exact ⟨_, rfl, ⟨fun h => absurd h hfail, fun h => by simp at h⟩,
      fun h => absurd h hfail⟩
  | true =>
      rw [if_neg (by decide)]
      by_cases hstatus : dmaStatus = 0xffffffff
      · rw [if_pos hstatus]
        exact ⟨_, rfl, ⟨fun h => absurd h hfail, fun h => absurd hstatus h.2.1⟩,
          fun h => absurd h hfail⟩
      · rw [if_neg hstatus, hds]
        simp only [Option.bind_eq_bind, Option.bind_some]
        cases hb : descriptorLoop e (xlnxWrite e ctx.dmaC2H) xlnxNext ds (.start e memory) with
        | mk b ok =>
            rw [hb] at hiff hloop
            cases ok with
            | false =>
                refine ⟨_, rfl, ⟨fun h => absurd h hfail, fun h => ?_⟩, fun h => absurd h hfail⟩
                exact absurd (hiff.mpr (.inr h.2.2.2)) (by simp)
            | true =>
                have hprog := hloop rfl
                dsimp only
                by_cases hnone : b.descriptorCount = 0
                · rw [if_pos hnone]
                  rw [hprog.count] at hnone
                  exact ⟨_, rfl, ⟨fun h => absurd h hfail, fun h => by omega⟩,
                    fun h => absurd h hfail⟩
                · rw [if_neg hnone, if_neg (by decide)]
                  rw [hprog.count] at hnone ⊢
                  have hroom : e.HasRoom ds.length := by
                    rcases hiff.mp rfl with rfl | hroom
                    · exact absurd rfl hnone
                    · exact hroom
                  refine ⟨_, rfl, ⟨fun _ => ⟨trivial, hstatus, by omega, hroom⟩, fun _ => rfl⟩,
                    fun _ => ⟨_, rfl, xlnxFinish_chain hprog hroom.2 (by omega) ?_ ?_⟩⟩
                  · exact startAddress_eq e
                  · by_cases hmany : ds.length > 15
                    · rw [if_pos hmany, if_pos (by exact hmany)]
                      rfl
                    · rw [if_neg hmany, if_neg (by exact hmany)]
                      rfl

/-- An engine with two pages of descriptors. -/
def twoPages : DmaEngine := .inOrder 200 (by decide)

/-- An ancillary transfer of 160 pieces of sixteen bytes. -/
def manyPieces : DmaContext where
  dmaC2H := true
  video := none
  audio := none
  ancF1 := some (⟨4096, 2560, 0, 0, 0, 0⟩, List.replicate 160 ⟨65536, 16, by decide, by decide⟩)
  ancF2 := none
  doMessage := false
  messageBusAddress := 0
  messageCardAddress := 0

/-- The 160 descriptors of the transfer go over the end of the first page. -/
theorem xlnxProgram_chain_manyPieces :
    ∃ r start, dmaXlnxProgram twoPages true 0 manyPieces (fun _ => {}) = some r ∧
      XlnxChain twoPages true (manyPieces.descriptors.getD []) r.memory start := by
  have hlength : (manyPieces.descriptors.getD []).length = 160 := by decide +kernel
  have hds : manyPieces.descriptors = some (manyPieces.descriptors.getD []) := by decide +kernel
  obtain ⟨r, hr, hiff, hchain⟩ :=
    xlnxProgram_chain twoPages true 0 manyPieces (fun _ => {}) hds
  have hstatus := hiff.mpr ⟨rfl, by decide, by rw [hlength]; decide, by
    rw [hlength]
    exact ⟨by decide, by decide⟩⟩
  obtain ⟨start, -, hstart⟩ := hchain hstatus
  exact ⟨r, start, hr, hstart⟩

end LibAjaNtv2
