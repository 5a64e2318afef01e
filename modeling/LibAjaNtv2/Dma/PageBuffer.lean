import Mathlib.Tactic

/-!
The page buffers of the DMA driver: locking the pages of a user buffer and mapping its scatter list.

* `DmaPageBuffer`: a page buffer, `RdmaPageBuffer` its part for the memory of a GPU;
* `PageKernel`: what the kernel answers while a buffer is locked and mapped;
* `dmaPageBufferInit`, `dmaPageLock`, `dmaSgMap`, `dmaSgUnmap`, `dmaSgDevice`, `dmaSgHost`,
  `dmaPageUnlock`, `dmaPageBufferRelease`: the operations on one buffer.
-/

namespace LibAjaNtv2

/-- The error of a wrong argument. -/
def einval : ℤ := -22

/-- The error of a failed allocation, and of a buffer that is not there. -/
def enomem : ℤ := -12

/-- The error of an operation that is not permitted. -/
def eperm : ℤ := -1

/-- The bytes of a page. -/
def PAGE_SIZE : ℕ := 4096

/-- The bytes of a GPU page. -/
def gpuPageSize : ℕ := 65536

/-- What the rdma module keeps of a buffer: its aligned address, and whether it has a page table and
a mapping. -/
structure RdmaPageBuffer where
  address : ℕ
  page : Bool
  map : Bool
  deriving DecidableEq, Repr

/-- The directions of a transfer. -/
inductive DmaDirection
  | none
  | toDevice
  | fromDevice
  | bidirectional
  deriving DecidableEq, Repr

/-- A page buffer. The lists are kept by whether they are allocated and how long they are, the root
by whether there is one. The counts have no width: the references are the transfers in progress, the
lock counts the lookups since the file was opened. -/
structure DmaPageBuffer where
  pPageRoot : Bool
  refCount : ℤ
  pUserAddress : UInt64
  userSize : UInt32
  direction : DmaDirection
  pageLock : Bool
  busMap : Bool
  sgMap : Bool
  sgHost : Bool
  numPages : ℕ
  pPageList : Bool
  pageListSize : ℕ
  numSgs : ℕ
  pSgList : Bool
  sgListSize : ℕ
  lockCount : ℤ
  lockSize : ℤ
  rdma : Bool
  rdmaContext : Option RdmaPageBuffer
  deriving DecidableEq, Repr

/-- A page buffer of zeros. -/
def DmaPageBuffer.zero : DmaPageBuffer where
  pPageRoot := false
  refCount := 0
  pUserAddress := 0
  userSize := 0
  direction := .none
  pageLock := false
  busMap := false
  sgMap := false
  sgHost := false
  numPages := 0
  pPageList := false
  pageListSize := 0
  numSgs := 0
  pSgList := false
  sgListSize := 0
  lockCount := 0
  lockSize := 0
  rdma := false
  rdmaContext := none

/-- What the kernel and the GPU driver answer to one call: the allocations that succeed, the pages
that `get_user_pages` pins, the segments that `dma_map_sg` maps, and for GPU memory whether the
rdma functions are set, the return value and the entries of the page table and of the mapping. -/
structure PageKernel where
  pageBuffer : Bool
  pageList : Bool
  sgList : Bool
  numPinned : ℤ
  mapSg : ℕ
  rdmaFops : Bool
  rdmaBuffer : Bool
  rdmaPage : ℤ × ℕ
  rdmaMap : ℤ × ℕ
  deriving DecidableEq, Repr

/-! ### Locking -/

/-- Initialize a buffer for a number of pages. -/
def dmaPageBufferInit (k : PageKernel) (numPages : ℕ) (rdma : Bool) : Except ℤ DmaPageBuffer :=
  if numPages = 0 then .error einval
  else if rdma then .ok { DmaPageBuffer.zero with rdma := true }
  else if !k.pageList then .error enomem
  else if !k.sgList then .error enomem
  else .ok { DmaPageBuffer.zero with
    pPageList := true, pageListSize := numPages, pSgList := true, sgListSize := numPages }

/-- The rdma function that locks GPU memory. -/
def rdmaGetPages (k : PageKernel) (pBuffer : DmaPageBuffer) (pAddress : UInt64) (size : UInt32)
    (direction : DmaDirection) : DmaPageBuffer × ℤ :=
  if !k.rdmaBuffer then (pBuffer, enomem)
  else if k.rdmaPage.1 < 0 then
    ({ pBuffer with rdmaContext := some ⟨0, false, false⟩ }, k.rdmaPage.1)
  else
    ({ pBuffer with
      rdmaContext := some ⟨pAddress.toNat / gpuPageSize * gpuPageSize, true, false⟩
      pUserAddress := pAddress
      userSize := size
      direction := direction
      numPages := k.rdmaPage.2
      pageLock := true }, 0)

/-- The rdma function that maps GPU memory, with the scatter list that it allocates. -/
def rdmaMapPages (k : PageKernel) (pBuffer : DmaPageBuffer) : DmaPageBuffer × ℤ :=
  match pBuffer.rdmaContext with
  | none => (pBuffer, eperm)
  | some pRdmaBuffer =>
      if k.rdmaMap.1 < 0 then (pBuffer, k.rdmaMap.1)
      else
        let mapped := { pBuffer with rdmaContext := some { pRdmaBuffer with map := true } }
        if k.rdmaMap.2 = 0 then (mapped, eperm)
        else if !k.sgList then ({ mapped with pSgList := false }, enomem)
        else ({ mapped with
          pSgList := true
          sgListSize := k.rdmaMap.2
          numSgs := k.rdmaMap.2
          sgMap := true
          sgHost := false }, 0)

/-- The rdma function that unmaps GPU memory. -/
def rdmaUnmapPages (pBuffer : DmaPageBuffer) : DmaPageBuffer :=
  match pBuffer.rdmaContext with
  | none => pBuffer
  | some pRdmaBuffer =>
      if pRdmaBuffer.map && pRdmaBuffer.page then
        { pBuffer with
          rdmaContext := some { pRdmaBuffer with map := false }
          pSgList := false
          sgListSize := 0
          numSgs := 0
          sgMap := false
          sgHost := false }
      else pBuffer

/-- The rdma function that unlocks GPU memory. -/
def rdmaPutPages (pBuffer : DmaPageBuffer) : DmaPageBuffer :=
  match pBuffer.rdmaContext with
  | none => pBuffer
  | some pRdmaBuffer =>
      if pRdmaBuffer.address = 0 || !pRdmaBuffer.page then pBuffer
      else { pBuffer with rdmaContext := none, pageLock := false }

/-- Unmap the scatter list. -/
def dmaSgUnmap (k : PageKernel) (pBuffer : DmaPageBuffer) : DmaPageBuffer :=
  if !pBuffer.pSgList then pBuffer
  else if pBuffer.sgMap && pBuffer.rdma then
    if k.rdmaFops then rdmaUnmapPages pBuffer else pBuffer
  else { pBuffer with sgMap := false, sgHost := false }

/-- Unlock the pages, after unmapping them. -/
def dmaPageUnlock (k : PageKernel) (pBuffer : DmaPageBuffer) : DmaPageBuffer :=
  let unmapped := dmaSgUnmap k pBuffer
  if unmapped.pageLock && unmapped.rdma then
    if k.rdmaFops then rdmaPutPages unmapped else unmapped
  else if unmapped.pageLock && !unmapped.pPageList then unmapped
  else { unmapped with
    pUserAddress := 0
    userSize := 0
    direction := .none
    pageLock := false
    busMap := false
    numPages := 0
    numSgs := 0 }

/-- Give a buffer's pages and lists back. -/
def dmaPageBufferRelease (k : PageKernel) (pBuffer : DmaPageBuffer) : DmaPageBuffer :=
  { dmaPageUnlock k pBuffer with
    pSgList := false, sgListSize := 0, pPageList := false, pageListSize := 0 }

/-- The pages that a user buffer lies on. -/
def pagesOf (pAddress : UInt64) (size : UInt32) : ℕ :=
  (pAddress.toNat % PAGE_SIZE + size.toNat + (PAGE_SIZE - 1)) / PAGE_SIZE

/-- Lock the pages of a user buffer. -/
def dmaPageLock (k : PageKernel) (pBuffer : DmaPageBuffer) (pAddress : UInt64) (size : UInt32)
    (direction : DmaDirection) : DmaPageBuffer × ℤ :=
  if pAddress = 0 ∨ size = 0 ∨ pBuffer.busMap then (pBuffer, einval)
  else if pBuffer.pageLock ∧ pAddress = pBuffer.pUserAddress ∧ size = pBuffer.userSize ∧
      direction = pBuffer.direction then (pBuffer, 0)
  else
    let unlocked := if pBuffer.pageLock then dmaPageBufferRelease k pBuffer else pBuffer
    if unlocked.rdma then
      if k.rdmaFops then rdmaGetPages k unlocked pAddress size direction else (unlocked, eperm)
    else if !unlocked.pPageList || !unlocked.pSgList then (unlocked, einval)
    else if unlocked.pageListSize < pagesOf pAddress size then (unlocked, enomem)
    else if unlocked.sgListSize < pagesOf pAddress size then (unlocked, enomem)
    else if k.numPinned ≠ pagesOf pAddress size then (unlocked, eperm)
    else ({ unlocked with
      pUserAddress := pAddress
      userSize := size
      direction := direction
      numPages := pagesOf pAddress size
      numSgs := pagesOf pAddress size
      pageLock := true }, 0)

/-! ### Mapping -/

/-- Map the scatter list, when the pages are locked and it is not mapped yet. -/
def dmaSgMap (k : PageKernel) (pBuffer : DmaPageBuffer) : DmaPageBuffer × ℤ :=
  if pBuffer.pageLock && !pBuffer.sgMap then
    if pBuffer.rdma then
      if k.rdmaFops then rdmaMapPages k pBuffer else (pBuffer, eperm)
    else if !pBuffer.pSgList then (pBuffer, einval)
    else if k.mapSg = 0 then (pBuffer, eperm)
    else ({ pBuffer with sgMap := true, sgHost := false }, 0)
  else (pBuffer, 0)

/-- Hand a mapped scatter list to the device. -/
def dmaSgDevice (pBuffer : DmaPageBuffer) : DmaPageBuffer :=
  if !pBuffer.pSgList || pBuffer.rdma then pBuffer
  else if pBuffer.sgMap && pBuffer.sgHost then { pBuffer with sgHost := false }
  else pBuffer

/-- Hand a mapped scatter list to the host. -/
def dmaSgHost (pBuffer : DmaPageBuffer) : DmaPageBuffer :=
  if !pBuffer.pSgList || pBuffer.rdma then pBuffer
  else if pBuffer.sgMap && !pBuffer.sgHost then { pBuffer with sgHost := true }
  else pBuffer

end LibAjaNtv2
