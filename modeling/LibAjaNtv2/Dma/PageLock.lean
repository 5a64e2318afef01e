import LibAjaNtv2.Dma.PageBuffer
import LibAjaNtv2.Lib.PageCut

/-!
The scatter list that locking a user buffer builds (`dmaPageLock`), for pages of any size.

* `KernelPages`: the pages of a kernel; `ScatterEntry`, `sg_set_page`: an entry of a scatter list;
* `lockPages`, `scatterRest`, `scatterEntries`: the count of the pages and the entries of the list;
* `PageListBuffer`, `dmaPageListLock`: locking a buffer that keeps its list;
* `lockPages_eq`, `listLock_fresh`: the count, and **that the lists of `dmaPageRootAdd` hold it**;
* `scatterEntries_eq`: **the list is the buffer, cut where pages end**;
* `pageLock_describes`: **a locked list describes the user buffer**.
-/

namespace LibAjaNtv2

/-- The pages of a kernel: their size, and the page behind each page of the user's addresses. -/
structure KernelPages (Page : Type) where
  PAGE_SHIFT : ℕ
  shift_pos : 0 < PAGE_SHIFT
  shift_le : PAGE_SHIFT ≤ 31
  userPage : ℕ → Page

/-- An entry of a scatter list. -/
structure ScatterEntry (Page : Type) where
  page : Page
  length : ℕ
  offset : ℕ

namespace ScatterEntry

variable {Page : Type}

/-- The bytes of an entry: their pages and their places there. -/
def bytes (entry : ScatterEntry Page) : List (Page × ℕ) :=
  (List.range entry.length).map fun k => (entry.page, entry.offset + k)

end ScatterEntry

/-- A value as an `int` keeps it. -/
def storedInt (n : ℤ) : ℤ := n.bmod 4294967296

/-- A value as an `unsigned int` keeps it. -/
def storedUnsigned (n : ℤ) : ℕ := (n % 4294967296).toNat

/-- `sg_set_page`. -/
def sg_set_page {Page : Type} (page : Page) (len offset : ℤ) : ScatterEntry Page where
  page := page
  length := storedUnsigned len
  offset := storedUnsigned offset

/-- `sg_dma_len` of an entry that is not mapped: the length that it was given. -/
def sg_dma_len {Page : Type} (entry : ScatterEntry Page) : ℤ := entry.length

namespace KernelPages

variable {Page : Type} (K : KernelPages Page)

/-- `PAGE_SIZE`. -/
def PAGE_SIZE : ℕ := 2 ^ K.PAGE_SHIFT

/-- What `get_user_pages` puts into the page list. -/
def pPageList (address : UInt64) (i : ℕ) : Page := K.userPage (address.toNat / K.PAGE_SIZE + i)

/-- The number of pages to lock. -/
def lockPages (address : UInt64) (size : UInt32) : ℤ :=
  storedInt ((((address.toNat &&& (K.PAGE_SIZE - 1)) + size.toNat + (K.PAGE_SIZE - 1)) %
    18446744073709551616) >>> K.PAGE_SHIFT : ℕ)

/-- The entries behind the first one: the comparison with `PAGE_SIZE` is an unsigned one. -/
def scatterRest (address : UInt64) : ℕ → ℕ → ℤ → List (ScatterEntry Page)
  | 0, _, _ => []
  | n + 1, i, count =>
      sg_set_page (K.pPageList address i)
          (if count % 18446744073709551616 < K.PAGE_SIZE then count else K.PAGE_SIZE) 0 ::
        scatterRest address n (i + 1) (storedInt (count - K.PAGE_SIZE))

/-- The scatter list of `dmaPageLock`. -/
def scatterEntries (address : UInt64) (size : UInt32) : List (ScatterEntry Page) :=
  let numPages := K.lockPages address size
  let pageOffset := storedInt (address.toNat &&& (K.PAGE_SIZE - 1) : ℕ)
  let count := storedInt size.toNat
  if 1 < numPages then
    let first := sg_set_page (K.pPageList address 0) (K.PAGE_SIZE - pageOffset) pageOffset
    first :: K.scatterRest address (numPages - 1).toNat 1 (storedInt (count - sg_dma_len first))
  else [sg_set_page (K.pPageList address 0) count pageOffset]

end KernelPages

/-- A page buffer with its scatter list. -/
structure PageListBuffer (Page : Type) where
  buffer : DmaPageBuffer
  sgs : List (ScatterEntry Page)

section Lock

variable {Page : Type} (K : KernelPages Page)

/-- The number of entries that `dmaPageRootAdd` asks for. -/
def rootListSize (size : UInt32) : ℕ := storedUnsigned (size.toNat / K.PAGE_SIZE + 2 : ℕ)

/-- A page buffer as `dmaPageRootAdd` allocates it. -/
def dmaPageRootAddInit (k : PageKernel) (size : UInt32) (rdma : Bool) :
    Except ℤ (PageListBuffer Page) :=
  (dmaPageBufferInit k (rootListSize K size) rdma).map fun buffer => ⟨buffer, []⟩

/-- `dmaPageLock`, with the scatter list. -/
def dmaPageListLock (k : PageKernel) (pBuffer : PageListBuffer Page) (pAddress : UInt64)
    (size : UInt32) (direction : DmaDirection) : PageListBuffer Page × ℤ :=
  if pAddress = 0 ∨ size = 0 ∨ pBuffer.buffer.busMap then (pBuffer, einval)
  else if pBuffer.buffer.pageLock ∧ pAddress = pBuffer.buffer.pUserAddress ∧
      size = pBuffer.buffer.userSize ∧ direction = pBuffer.buffer.direction then (pBuffer, 0)
  else
    let unlocked : PageListBuffer Page :=
      if pBuffer.buffer.pageLock then ⟨dmaPageBufferRelease k pBuffer.buffer, []⟩ else pBuffer
    let numPages := K.lockPages pAddress size
    if unlocked.buffer.rdma then
      if k.rdmaFops then
        let pinned := rdmaGetPages k unlocked.buffer pAddress size direction
        (⟨pinned.1, unlocked.sgs⟩, pinned.2)
      else (unlocked, eperm)
    else if !unlocked.buffer.pPageList || !unlocked.buffer.pSgList then (unlocked, einval)
    else if storedInt unlocked.buffer.pageListSize < numPages then (unlocked, enomem)
    else if unlocked.buffer.sgListSize < storedUnsigned numPages then (unlocked, enomem)
    else if k.numPinned ≠ numPages then (unlocked, eperm)
    else (⟨{ unlocked.buffer with
      pUserAddress := pAddress
      userSize := size
      direction := direction
      numPages := storedUnsigned numPages
      numSgs := storedUnsigned numPages
      pageLock := true }, K.scatterEntries pAddress size⟩, 0)

end Lock

/-! ### The count of the pages -/

/-- A value that an `int` holds. -/
lemma storedInt_eq {n : ℤ} (hn : 0 ≤ n) (hlt : n < 2147483648) : storedInt n = n := by
  rw [storedInt, Int.bmod_def]
  split <;> omega

/-- A value that an `unsigned int` holds. -/
lemma storedUnsigned_eq {n : ℕ} (hlt : n < 4294967296) : storedUnsigned n = n := by
  rw [storedUnsigned]
  omega

namespace KernelPages

variable {Page : Type} {K : KernelPages Page} {address : UInt64} {size : UInt32}

lemma two_le_pageSize : 2 ≤ K.PAGE_SIZE :=
  Nat.pow_le_pow_right (n := 2) (by omega) K.shift_pos

lemma pageSize_le : K.PAGE_SIZE ≤ 2147483648 :=
  Nat.pow_le_pow_right (n := 2) (by omega) K.shift_le

lemma and_pageMask (n : ℕ) : n &&& (K.PAGE_SIZE - 1) = n % K.PAGE_SIZE :=
  Nat.and_two_pow_sub_one_eq_mod n K.PAGE_SHIFT

/-- The pages of a buffer, without a width. -/
def pageCount (K : KernelPages Page) (address : UInt64) (size : UInt32) : ℕ :=
  (address.toNat % K.PAGE_SIZE + size.toNat + (K.PAGE_SIZE - 1)) / K.PAGE_SIZE

variable (K address size) in
/-- There are not more pages than the lists of the root hold. -/
lemma pageCount_le : K.pageCount address size ≤ size.toNat / K.PAGE_SIZE + 2 := by
  have htwo := K.two_le_pageSize
  have hmod := Nat.mod_lt address.toNat (show 0 < K.PAGE_SIZE by omega)
  have hdiv := Nat.div_add_mod size.toNat K.PAGE_SIZE
  have hrest := Nat.mod_lt size.toNat (show 0 < K.PAGE_SIZE by omega)
  refine Nat.le_of_lt_succ ((Nat.div_lt_iff_lt_mul (by omega)).mpr ?_)
  rw [Nat.succ_mul, Nat.add_mul, Nat.mul_comm (size.toNat / K.PAGE_SIZE)]
  omega

variable (K address) in
lemma pageCount_pos (hsize : 0 < size.toNat) : 0 < K.pageCount address size := by
  have htwo := K.two_le_pageSize
  exact Nat.div_pos (by omega) (by omega)

variable (K) in
/-- The lists of the root have room in an `int`. -/
lemma div_pageSize_lt (hbound : size.toNat < 2147483648) :
    size.toNat / K.PAGE_SIZE + 2 < 2147483648 := by
  have hhalf : size.toNat / K.PAGE_SIZE ≤ size.toNat / 2 :=
    Nat.div_le_div_left K.two_le_pageSize Nat.two_pos
  omega

variable (K address) in
/-- **The count that is computed.** -/
lemma lockPages_eq (hbound : size.toNat < 2147483648) :
    K.lockPages address size = K.pageCount address size := by
  have htwo := K.two_le_pageSize
  have hle := K.pageSize_le
  have hmod := Nat.mod_lt address.toNat (show 0 < K.PAGE_SIZE by omega)
  have hcount := K.pageCount_le address size
  have hroom := K.div_pageSize_lt hbound
  have hshift : (address.toNat % K.PAGE_SIZE + size.toNat + (K.PAGE_SIZE - 1)) >>> K.PAGE_SHIFT =
      K.pageCount address size := Nat.shiftRight_eq_div_pow _ _
  rw [lockPages, and_pageMask, Nat.mod_eq_of_lt (by omega), hshift,
    storedInt_eq (by omega) (by omega)]

lemma rootListSize_eq (hbound : size.toNat < 2147483648) :
    rootListSize K size = size.toNat / K.PAGE_SIZE + 2 :=
  storedUnsigned_eq ((K.div_pageSize_lt hbound).trans (by omega))

/-! ### The entries -/

/-- The entry of a part of the buffer. -/
def entry (K : KernelPages Page) (cut : PageCut) : ScatterEntry Page :=
  ⟨K.userPage cut.page, cut.length, cut.offset⟩

/-- **The entries behind the first one** are the rest of the buffer, cut where pages end. -/
lemma scatterRest_eq {n i count : ℕ} (hn : n = (count + (K.PAGE_SIZE - 1)) / K.PAGE_SIZE)
    (hbound : count < 2147483648) :
    K.scatterRest address n i count =
      (pageCuts K.PAGE_SIZE (K.PAGE_SIZE * (address.toNat / K.PAGE_SIZE + i)) count).map
        K.entry := by
  have htwo := K.two_le_pageSize
  have hle := K.pageSize_le
  have hpos : 0 < K.PAGE_SIZE := by omega
  induction n generalizing i count with
  | zero =>
      obtain rfl : count = 0 := by
        have := (Nat.div_eq_zero_iff_lt hpos).mp hn.symm
        omega
      rw [pageCuts_zero]
      rfl
  | succ n ih =>
      have hsome : 0 < count := by
        by_contra hzero
        have : (count + (K.PAGE_SIZE - 1)) / K.PAGE_SIZE = 0 := Nat.div_eq_of_lt (by omega)
        omega
      have hstart : K.PAGE_SIZE * (address.toNat / K.PAGE_SIZE + i) % K.PAGE_SIZE = 0 :=
        Nat.mul_mod_right _ _
      have hpage : K.PAGE_SIZE * (address.toNat / K.PAGE_SIZE + i) / K.PAGE_SIZE =
          address.toNat / K.PAGE_SIZE + i := Nat.mul_div_cancel_left _ hpos
      rw [scatterRest, Int.emod_eq_of_lt (by omega) (by omega)]
      by_cases hlast : count ≤ K.PAGE_SIZE
      · -- the last page: no entry follows it
        have hnone : n = 0 := by
          have hone : (count + (K.PAGE_SIZE - 1)) / K.PAGE_SIZE = 1 :=
            Nat.div_eq_of_lt_le (by omega) (by omega)
          omega
        have hlength : (if (count : ℤ) < K.PAGE_SIZE then (count : ℤ) else K.PAGE_SIZE) = count := by
          split <;> omega
        rw [hnone, hlength, pageCuts_last hsome (by omega), hstart, hpage]
        simp only [scatterRest, List.map_cons, List.map_nil, sg_set_page, entry, pPageList,
          storedUnsigned_eq (show count < 4294967296 by omega)]
        rfl
      · have hlength : (if (count : ℤ) < K.PAGE_SIZE then (count : ℤ) else K.PAGE_SIZE) =
            (K.PAGE_SIZE : ℕ) := if_neg (by omega)
        have hrest : storedInt ((count : ℤ) - K.PAGE_SIZE) = (count - K.PAGE_SIZE : ℕ) := by
          rw [storedInt_eq (by omega) (by omega)]
          omega
        have hbehind : n = (count - K.PAGE_SIZE + (K.PAGE_SIZE - 1)) / K.PAGE_SIZE := by
          have hsum : count + (K.PAGE_SIZE - 1) =
              count - K.PAGE_SIZE + (K.PAGE_SIZE - 1) + K.PAGE_SIZE := by omega
          rw [hsum, Nat.add_div_right _ hpos] at hn
          omega
        have hnext := pageCuts_next (a := K.PAGE_SIZE * (address.toNat / K.PAGE_SIZE + i))
          (n := count) hpos (by omega)
        rw [hstart, hpage, Nat.sub_zero, Nat.add_assoc] at hnext
        rw [hlength, hrest, ih hbehind (by omega), hnext, List.map_cons]
        simp only [sg_set_page, entry, pPageList,
          storedUnsigned_eq (show K.PAGE_SIZE < 4294967296 by omega)]
        rfl

/-- **The scatter list** is the buffer, cut where pages end. -/
lemma scatterEntries_eq (hsize : 0 < size.toNat) (hbound : size.toNat < 2147483648) :
    K.scatterEntries address size =
      (pageCuts K.PAGE_SIZE address.toNat size.toNat).map K.entry := by
  have htwo := K.two_le_pageSize
  have hle := K.pageSize_le
  have hpos : 0 < K.PAGE_SIZE := by omega
  have hmod := Nat.mod_lt address.toNat hpos
  have hoffset : storedInt (address.toNat % K.PAGE_SIZE : ℕ) = (address.toNat % K.PAGE_SIZE : ℕ) :=
    storedInt_eq (by omega) (by omega)
  have hcount : storedInt size.toNat = size.toNat := storedInt_eq (by omega) (by omega)
  rw [scatterEntries, K.lockPages_eq address hbound, and_pageMask, hoffset, hcount]
  by_cases hmore : K.PAGE_SIZE < address.toNat % K.PAGE_SIZE + size.toNat
  · -- the first page, up to its end, and the pages behind it
    have hlength : (K.PAGE_SIZE : ℤ) - (address.toNat % K.PAGE_SIZE : ℕ) =
        (K.PAGE_SIZE - address.toNat % K.PAGE_SIZE : ℕ) := by omega
    have hpages : 1 < K.pageCount address size :=
      (Nat.le_div_iff_mul_le hpos).mpr (by omega)
    have hrest : K.pageCount address size - 1 =
        (size.toNat - (K.PAGE_SIZE - address.toNat % K.PAGE_SIZE) + (K.PAGE_SIZE - 1)) /
          K.PAGE_SIZE := by
      have hsum : address.toNat % K.PAGE_SIZE + size.toNat + (K.PAGE_SIZE - 1) =
          size.toNat - (K.PAGE_SIZE - address.toNat % K.PAGE_SIZE) + (K.PAGE_SIZE - 1) +
            K.PAGE_SIZE := by omega
      rw [pageCount, hsum, Nat.add_div_right _ hpos]
      rfl
    have hleft : storedInt ((size.toNat : ℤ) -
        (K.PAGE_SIZE - address.toNat % K.PAGE_SIZE : ℕ)) =
        (size.toNat - (K.PAGE_SIZE - address.toNat % K.PAGE_SIZE) : ℕ) := by
      rw [storedInt_eq (by omega) (by omega)]
      omega
    have hnat : ((K.pageCount address size : ℤ) - 1).toNat = K.pageCount address size - 1 := by
      omega
    simp only [if_pos (show 1 < (K.pageCount address size : ℤ) by omega), hlength, sg_set_page,
      sg_dma_len, hnat, hrest,
      storedUnsigned_eq (show K.PAGE_SIZE - address.toNat % K.PAGE_SIZE < 4294967296 by omega),
      storedUnsigned_eq (show address.toNat % K.PAGE_SIZE < 4294967296 by omega), hleft]
    rw [scatterRest_eq rfl (by omega), pageCuts_next hpos hmore, List.map_cons]
    rfl
  · have hpages : K.pageCount address size = 1 :=
      Nat.div_eq_of_lt_le (by omega) (by omega)
    rw [hpages, if_neg (by omega), pageCuts_last hsize (by omega)]
    simp only [sg_set_page, List.map_cons, List.map_nil,
      storedUnsigned_eq (show size.toNat < 4294967296 by omega),
      storedUnsigned_eq (show address.toNat % K.PAGE_SIZE < 4294967296 by omega)]
    rfl

lemma bytes_entry (cut : PageCut) :
    (K.entry cut).bytes = cut.bytes.map fun b => (K.userPage b.1, b.2) := by
  rw [PageCut.bytes, List.map_map]
  rfl

end KernelPages

/-- The entries of a scatter list describe a user buffer: none is empty or leaves its page, the first
one starts at the buffer's place in its page and the others with theirs, and their bytes are those of
the buffer, once and in order. -/
structure DescribesBuffer {Page : Type} (K : KernelPages Page) (address : UInt64) (size : UInt32)
    (sgs : List (ScatterEntry Page)) : Prop where
  nonempty : ∀ entry ∈ sgs, 0 < entry.length
  inside : ∀ entry ∈ sgs, entry.offset + entry.length ≤ K.PAGE_SIZE
  first : sgs.head?.map ScatterEntry.offset = some (address.toNat % K.PAGE_SIZE)
  others : ∀ entry ∈ sgs.tail, entry.offset = 0
  bytes : sgs.flatMap ScatterEntry.bytes = (List.range size.toNat).map fun k =>
    (K.userPage ((address.toNat + k) / K.PAGE_SIZE), (address.toNat + k) % K.PAGE_SIZE)

section Described

variable {Page : Type} {K : KernelPages Page} {address : UInt64} {size : UInt32}

/-- **The scatter list describes the buffer.** -/
lemma scatterEntries_describe (hsize : 0 < size.toNat) (hbound : size.toNat < 2147483648) :
    DescribesBuffer K address size (K.scatterEntries address size) := by
  have hpos : 0 < K.PAGE_SIZE := Nat.lt_of_lt_of_le Nat.two_pos K.two_le_pageSize
  have hinside := pageCuts_inside hpos address.toNat size.toNat
  rw [KernelPages.scatterEntries_eq hsize hbound]
  refine ⟨?_, ?_, ?_, ?_, ?_⟩
  · rw [List.forall_mem_map]
    exact fun cut hcut => (hinside cut hcut).1
  · rw [List.forall_mem_map]
    exact fun cut hcut => (hinside cut hcut).2
  · rw [List.head?_map, Option.map_map]
    exact head_pageCuts hpos hsize
  · rw [← List.map_tail, List.forall_mem_map]
    exact offset_tail_pageCuts hpos
  · rw [List.flatMap_map]
    simp only [KernelPages.bytes_entry]
    rw [← List.map_flatMap, bytes_pageCuts hpos, List.map_map]
    rfl

/-- The list has an entry for each page that is locked. -/
lemma length_scatterEntries (hsize : 0 < size.toNat) (hbound : size.toNat < 2147483648) :
    ((K.scatterEntries address size).length : ℤ) = K.lockPages address size := by
  have hpos : 0 < K.PAGE_SIZE := Nat.lt_of_lt_of_le Nat.two_pos K.two_le_pageSize
  rw [KernelPages.scatterEntries_eq hsize hbound, K.lockPages_eq address hbound,
    List.length_map, length_pageCuts hpos _ _ hsize]
  rfl

end Described

section Fresh

variable {Page : Type} {K : KernelPages Page} {k : PageKernel} {pAddress : UInt64} {size : UInt32}
  {direction : DmaDirection} {pBuffer : PageListBuffer Page}

/-- A page buffer that is not locked, with lists of `n` entries. -/
def freshBuffer (Page : Type) (n : ℕ) : PageListBuffer Page where
  buffer := { DmaPageBuffer.zero with
    pPageList := true, pageListSize := n, pSgList := true, sgListSize := n }
  sgs := []

/-- The buffer that the root allocates. -/
lemma rootAddInit_eq (hinit : dmaPageRootAddInit K k size false = .ok pBuffer)
    (hbound : size.toNat < 2147483648) :
    pBuffer = freshBuffer Page (size.toNat / K.PAGE_SIZE + 2) := by
  rw [dmaPageRootAddInit, KernelPages.rootListSize_eq hbound, dmaPageBufferInit,
    if_neg (Nat.succ_ne_zero _), if_neg Bool.false_ne_true] at hinit
  split_ifs at hinit
  · cases hinit
  · cases hinit
  · cases hinit
    rfl

/-- **Locking a buffer of the root** succeeds where all pages are pinned. -/
lemma listLock_fresh (haddress : pAddress ≠ 0) (hsize : 0 < size.toNat)
    (hbound : size.toNat < 2147483648) :
    dmaPageListLock K k (freshBuffer Page (size.toNat / K.PAGE_SIZE + 2)) pAddress size direction =
      if k.numPinned ≠ K.lockPages pAddress size then
        (freshBuffer Page (size.toNat / K.PAGE_SIZE + 2), eperm)
      else (⟨{ (freshBuffer Page (size.toNat / K.PAGE_SIZE + 2)).buffer with
        pUserAddress := pAddress
        userSize := size
        direction := direction
        numPages := storedUnsigned (K.lockPages pAddress size)
        numSgs := storedUnsigned (K.lockPages pAddress size)
        pageLock := true }, K.scatterEntries pAddress size⟩, 0) := by
  have hcount := K.pageCount_le pAddress size
  have hroom := K.div_pageSize_lt hbound
  have hpages := K.lockPages_eq pAddress hbound
  have hne : size ≠ 0 := by
    rintro rfl
    exact absurd hsize (by decide)
  have hlist : ¬ storedInt ((size.toNat / K.PAGE_SIZE + 2 : ℕ) : ℤ) < K.lockPages pAddress size := by
    rw [storedInt_eq (by omega) (by omega), hpages]
    omega
  have hsg : ¬ size.toNat / K.PAGE_SIZE + 2 < storedUnsigned (K.lockPages pAddress size) := by
    rw [hpages, storedUnsigned_eq (by omega)]
    omega
  have hrefused : ¬ (pAddress = 0 ∨ size = 0 ∨
      (freshBuffer Page (size.toNat / K.PAGE_SIZE + 2)).buffer.busMap = true) := by
    rintro (h | h | h)
    · exact haddress h
    · exact hne h
    · cases h
  rw [dmaPageListLock, if_neg hrefused]
  simp only [freshBuffer, DmaPageBuffer.zero, Bool.false_eq_true, false_and, if_false,
    Bool.not_true, Bool.or_self, if_neg hlist, if_neg hsg]

end Fresh

/-- Locking describes the user buffer: the lists hold the pages, all that are pinned make it succeed,
and then the scatter list has an entry for each page and describes the buffer. -/
structure LocksBuffer {Page : Type} (K : KernelPages Page) (k : PageKernel)
    (pBuffer : PageListBuffer Page) (pAddress : UInt64) (size : UInt32) (direction : DmaDirection) :
    Prop where
  pages : 0 < K.lockPages pAddress size
  pageList : K.lockPages pAddress size ≤ pBuffer.buffer.pageListSize
  sgList : K.lockPages pAddress size ≤ pBuffer.buffer.sgListSize
  locks : (dmaPageListLock K k pBuffer pAddress size direction).2 = 0 ↔
    pAddress ≠ 0 ∧ k.numPinned = K.lockPages pAddress size
  entries : (dmaPageListLock K k pBuffer pAddress size direction).2 = 0 →
    let locked := (dmaPageListLock K k pBuffer pAddress size direction).1
    (locked.sgs.length : ℤ) = K.lockPages pAddress size ∧
      locked.buffer.numSgs = locked.sgs.length ∧ DescribesBuffer K pAddress size locked.sgs

/-- **Locking a page buffer describes exactly the user buffer**, whatever the size of the pages. -/
theorem pageLock_describes {Page : Type} (K : KernelPages Page) (k : PageKernel)
    (pAddress : UInt64) (size : UInt32) (direction : DmaDirection)
    (pBuffer : PageListBuffer Page) (hinit : dmaPageRootAddInit K k size false = .ok pBuffer)
    (hsize : 0 < size.toNat) (hbound : size.toNat < 2 ^ 31) :
    LocksBuffer K k pBuffer pAddress size direction := by
  have hcount := K.pageCount_le pAddress size
  have hroom := K.div_pageSize_lt hbound
  have hpages := K.lockPages_eq pAddress hbound
  have hpos := K.pageCount_pos pAddress hsize
  have hlength : ((K.scatterEntries pAddress size).length : ℤ) = K.lockPages pAddress size :=
    length_scatterEntries hsize hbound
  have hsgs : storedUnsigned (K.lockPages pAddress size) =
      (K.scatterEntries pAddress size).length := by
    rw [hpages] at hlength ⊢
    rw [storedUnsigned_eq (by omega)]
    omega
  have heinval : einval ≠ 0 := by decide
  have heperm : eperm ≠ 0 := by decide
  obtain rfl := rootAddInit_eq hinit hbound
  refine ⟨?_, ?_, ?_, ?_, ?_⟩
  · rw [hpages]
    omega
  · rw [hpages]
    show (K.pageCount pAddress size : ℤ) ≤ (size.toNat / K.PAGE_SIZE + 2 : ℕ)
    omega
  · rw [hpages]
    show (K.pageCount pAddress size : ℤ) ≤ (size.toNat / K.PAGE_SIZE + 2 : ℕ)
    omega
  · by_cases haddress : pAddress = 0
    · rw [dmaPageListLock, if_pos (.inl haddress)]
      exact iff_of_false heinval fun h => h.1 haddress
    · rw [listLock_fresh haddress hsize hbound]
      by_cases hpinned : k.numPinned = K.lockPages pAddress size
      · rw [if_neg (not_not.mpr hpinned)]
        exact iff_of_true rfl ⟨haddress, hpinned⟩
      · rw [if_pos hpinned]
        exact iff_of_false heperm fun h => hpinned h.2
  · intro hlocked
    by_cases haddress : pAddress = 0
    · rw [dmaPageListLock, if_pos (.inl haddress)] at hlocked
      exact absurd hlocked heinval
    · rw [listLock_fresh haddress hsize hbound] at hlocked ⊢
      by_cases hpinned : k.numPinned = K.lockPages pAddress size
      · rw [if_neg (not_not.mpr hpinned)]
        dsimp only
        refine ⟨hlength, hsgs, ?_⟩
        exact scatterEntries_describe hsize hbound
      · rw [if_pos hpinned] at hlocked
        exact absurd hlocked heperm

/-- A kernel with pages of 4096 bytes, which are numbered. -/
def fourKPages : KernelPages ℕ := ⟨12, by decide, by decide, id⟩

/-- A kernel that pins three pages. -/
def threePinned : PageKernel := ⟨true, true, true, 3, 3, false, false, (0, 0), (0, 0)⟩

/-- A buffer of 8192 bytes that starts in the middle of a page is three entries. -/
theorem pageLock_describes_middle :
    LocksBuffer fourKPages threePinned (freshBuffer ℕ 4) 0x10800 8192 .bidirectional :=
  pageLock_describes fourKPages threePinned 0x10800 8192 .bidirectional (freshBuffer ℕ 4)
    (by rfl) (by decide) (by decide)

end LibAjaNtv2
