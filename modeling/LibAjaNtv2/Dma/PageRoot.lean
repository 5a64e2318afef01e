import Mathlib.Tactic
import LibAjaNtv2.Dma.PageBuffer

/-!
The page root: the cache of the locked buffers of a file, used by several clients at once.

* `DmaPageRoot`, `PagePool`: the root, and the page buffers in memory;
* `PageCall`, `PageCache`: the calls in progress, and the root that they share;
* `dmaPageRootFind`, `dmaPageRootFree`, `dmaPageRootInsert`, `dmaPageRootPrune`: the parts of the
  calls that hold the lock of the root;
* `pageStart`, `pageProceed`, `pageStep`: one such part of one call, in any interleaving;
* `pageOldest_spec`: **the scan of a prune finds the unreferenced buffer with the oldest lock
  count**.
-/

namespace LibAjaNtv2

/-- The root: the list of the cached buffers, and the accounting of what they lock. -/
structure DmaPageRoot where
  bufferHead : List ℕ
  lockAuto : Bool
  lockMap : Bool
  lockCounter : ℤ
  lockTotalSize : ℤ
  lockMaxSize : ℤ

/-- The root, the page buffers in memory, and which of them are allocated. -/
structure PagePool where
  root : DmaPageRoot
  memory : ℕ → DmaPageBuffer
  allocated : ℕ → Bool

/-- A call between two parts that hold the lock. -/
inductive PageCall
  /-- An add has found the buffer, and is about to free it. -/
  | addFound (pBuffer : ℕ)
  /-- An add has not found its buffer, and is about to build one. -/
  | addMissed (pAddress : UInt64) (size : UInt32) (rdma map : Bool)
  /-- An add has built its buffer, and is about to insert it. -/
  | addBuilt (pBuffer : ℕ)
  /-- A buffer is off the list, and is about to be released and freed; a prune then goes on. -/
  | release (pBuffer : ℕ) (prune : Option (UInt32 × ℕ))
  /-- A prune is about to look at the list again, for the size it was called with and the size it
  makes room for. -/
  | prune (request : UInt32) (size : ℕ)
  deriving DecidableEq

/-- The root that the calls share, the calls in progress, and the buffers that were found and not
freed yet, each as often as it was found. -/
structure PageCache where
  pool : PagePool
  calls : List PageCall
  found : List ℕ

/-- What a call returns. -/
inductive PageReturn
  | code (ret : ℤ)
  | buffer (pBuffer : Option ℕ)
  deriving DecidableEq

/-- The empty root. -/
def dmaPageRootInit : DmaPageRoot where
  bufferHead := []
  lockAuto := false
  lockMap := false
  lockCounter := 0
  lockTotalSize := 0
  lockMaxSize := 0

/-- Set what the root locks by itself, and how many bytes it may lock. -/
def dmaPageRootAuto (pRoot : DmaPageRoot) (lockAuto lockMap : Bool) (maxSize : UInt64) :
    DmaPageRoot :=
  { pRoot with lockAuto := lockAuto, lockMap := lockMap, lockMaxSize := maxSize.toInt64.toInt }

/-- A file is opened, with the given setting of its root. -/
def pageCacheOpen (lockAuto lockMap : Bool) (maxSize : UInt64) : PageCache where
  pool :=
    { root := dmaPageRootAuto dmaPageRootInit lockAuto lockMap maxSize
      memory := fun _ => .zero
      allocated := fun _ => false }
  calls := []
  found := []

namespace PagePool

/-- Write a page buffer. -/
def set (s : PagePool) (pBuffer : ℕ) (b : DmaPageBuffer) : PagePool :=
  { s with memory := Function.update s.memory pBuffer b }

/-- The buffer that a lookup takes. -/
def lookup (s : PagePool) (pAddress : UInt64) (size : UInt32) : Option ℕ :=
  s.root.bufferHead.find? fun pBuffer =>
    0 < (s.memory pBuffer).refCount && (s.memory pBuffer).pageLock &&
      pAddress == (s.memory pBuffer).pUserAddress && size ≤ (s.memory pBuffer).userSize

/-- The buffer that a remove takes. -/
def removable (s : PagePool) (pAddress : UInt64) (size : UInt32) : Option ℕ :=
  s.root.bufferHead.find? fun pBuffer =>
    !(1 < (s.memory pBuffer).refCount || pAddress != (s.memory pBuffer).pUserAddress ||
      size != (s.memory pBuffer).userSize)

/-- Count a use of a buffer. -/
def reference (s : PagePool) (pBuffer : ℕ) : PagePool :=
  { s with
    memory := Function.update s.memory pBuffer { s.memory pBuffer with
      refCount := (s.memory pBuffer).refCount + 1
      lockCount := s.root.lockCounter }
    root := { s.root with lockCounter := s.root.lockCounter + 1 } }

/-- Take a buffer off the list. -/
def unlist (s : PagePool) (pBuffer : ℕ) : PagePool :=
  { s with
    memory := Function.update s.memory pBuffer { s.memory pBuffer with
      refCount := (s.memory pBuffer).refCount - 1 }
    root := { s.root with
      lockTotalSize := s.root.lockTotalSize - (s.memory pBuffer).lockSize
      bufferHead := s.root.bufferHead.erase pBuffer } }

/-- Allocate a page buffer. -/
def alloc (s : PagePool) (pBuffer : ℕ) (b : DmaPageBuffer) : PagePool :=
  { s with
    memory := Function.update s.memory pBuffer b
    allocated := Function.update s.allocated pBuffer true }

/-- Give the pages of a buffer back, and the buffer itself. -/
def release (k : PageKernel) (s : PagePool) (pBuffer : ℕ) : PagePool :=
  { s with
    memory := Function.update s.memory pBuffer (dmaPageBufferRelease k (s.memory pBuffer))
    allocated := Function.update s.allocated pBuffer false }

end PagePool

/-- Find a buffer and count the use. -/
def dmaPageRootFind (s : PagePool) (pAddress : UInt64) (size : UInt32) : PagePool × Option ℕ :=
  if pAddress = 0 ∨ size = 0 then (s, none)
  else match s.lookup pAddress size with
    | some pBuffer => (s.reference pBuffer, some pBuffer)
    | none => (s, none)

/-- Count a use less. -/
def dmaPageRootFree (s : PagePool) (pBuffer : ℕ) : PagePool :=
  if (s.memory pBuffer).pPageRoot then
    s.set pBuffer { s.memory pBuffer with refCount := (s.memory pBuffer).refCount - 1 }
  else s

/-- Add: allocate, lock and map a new page buffer, outside the lock. -/
def dmaPageRootBuild (k : PageKernel) (pAddress : UInt64) (size : UInt32) (rdma map : Bool) :
    Except ℤ DmaPageBuffer :=
  if !k.pageBuffer then .error enomem
  else match dmaPageBufferInit k (size.toNat / PAGE_SIZE + 2) rdma with
    | .error ret => .error ret
    | .ok pBuffer =>
        let locked := dmaPageLock k pBuffer pAddress size .bidirectional
        if locked.2 < 0 then .error locked.2
        else if map then
          let mapped := dmaSgMap k locked.1
          if mapped.2 < 0 then .error mapped.2 else .ok (dmaSgHost mapped.1)
        else .ok locked.1

/-- Add: put the new buffer at the end of the list. -/
def dmaPageRootInsert (s : PagePool) (pBuffer : ℕ) : PagePool :=
  let lockSize : ℤ := (s.memory pBuffer).numPages * PAGE_SIZE
  { s with
    memory := Function.update s.memory pBuffer { s.memory pBuffer with
      pPageRoot := true
      refCount := 1
      lockCount := s.root.lockCounter
      lockSize := lockSize }
    root := { s.root with
      lockCounter := s.root.lockCounter + 1
      lockTotalSize := s.root.lockTotalSize + lockSize
      bufferHead := s.root.bufferHead ++ [pBuffer] } }

/-- One buffer of the scan for the oldest lock count. -/
def pageOldestStep (memory : ℕ → DmaPageBuffer) (best : Option ℕ × ℤ) (pPrune : ℕ) :
    Option ℕ × ℤ :=
  if 1 < (memory pPrune).refCount then best
  else if (memory pPrune).lockCount < best.2 then (some pPrune, (memory pPrune).lockCount)
  else best

/-- The unreferenced buffer with the oldest lock count. -/
def pageOldest (memory : ℕ → DmaPageBuffer) (buffers : List ℕ) : Option ℕ :=
  (buffers.foldl (pageOldestStep memory) (none, 0x7fffffffffffffff)).1

/-- The size that a prune makes room for. -/
def pruneSize (size : UInt32) (lockMaxSize : ℤ) : ℕ :=
  if lockMaxSize < size.toNat then (lockMaxSize % 4294967296).toNat else size.toNat

/-- What one round of a prune finds: it is done, nothing can be evicted, or a buffer is. -/
inductive PruneRound
  | done
  | failed
  | evict (pBuffer : ℕ)
  deriving DecidableEq

/-- One round of the loop of a prune. -/
def dmaPageRootPrune (s : PagePool) (size : ℕ) : PruneRound :=
  if s.root.lockMaxSize < s.root.lockTotalSize + size then
    match pageOldest s.memory s.root.bufferHead with
    | none => .failed
    | some pBuffer => .evict pBuffer
  else .done

/-! ### What the operations do to one buffer -/

section Memory

variable {s : PagePool} {p q : ℕ}

@[simp] lemma PagePool.reference_self : (s.reference p).memory p = { s.memory p with
    refCount := (s.memory p).refCount + 1, lockCount := s.root.lockCounter } :=
  Function.update_self ..

lemma PagePool.reference_of_ne (h : q ≠ p) : (s.reference p).memory q = s.memory q :=
  Function.update_of_ne h ..

@[simp] lemma PagePool.unlist_self : (s.unlist p).memory p = { s.memory p with
    refCount := (s.memory p).refCount - 1 } := Function.update_self ..

lemma PagePool.unlist_of_ne (h : q ≠ p) : (s.unlist p).memory q = s.memory q :=
  Function.update_of_ne h ..

lemma PagePool.alloc_of_ne {b : DmaPageBuffer} (h : q ≠ p) :
    (s.alloc p b).memory q = s.memory q := Function.update_of_ne h ..

lemma PagePool.release_of_ne {k : PageKernel} (h : q ≠ p) :
    (s.release k p).memory q = s.memory q := Function.update_of_ne h ..

@[simp] lemma dmaPageRootInsert_self : (dmaPageRootInsert s p).memory p = { s.memory p with
    pPageRoot := true
    refCount := 1
    lockCount := s.root.lockCounter
    lockSize := (s.memory p).numPages * PAGE_SIZE } := Function.update_self ..

lemma dmaPageRootInsert_of_ne (h : q ≠ p) : (dmaPageRootInsert s p).memory q = s.memory q :=
  Function.update_of_ne h ..

lemma PagePool.set_self {b : DmaPageBuffer} : (s.set p b).memory p = b := Function.update_self ..

lemma PagePool.set_of_ne {b : DmaPageBuffer} (h : q ≠ p) : (s.set p b).memory q = s.memory q :=
  Function.update_of_ne h ..

/-- A free counts one use less, and changes nothing else. -/
lemma dmaPageRootFree_memory (h : (s.memory p).pPageRoot = true) :
    (dmaPageRootFree s p).memory q = { s.memory q with
      refCount := (s.memory q).refCount - if q = p then 1 else 0 } := by
  rw [dmaPageRootFree, if_pos h]
  by_cases hqp : q = p
  · subst hqp
    rw [PagePool.set_self, if_pos rfl]
  · rw [PagePool.set_of_ne hqp, if_neg hqp, sub_zero]

@[simp] lemma dmaPageRootFree_root : (dmaPageRootFree s p).root = s.root := by
  rw [dmaPageRootFree]
  split_ifs <;> rfl

@[simp] lemma dmaPageRootFree_allocated : (dmaPageRootFree s p).allocated = s.allocated := by
  rw [dmaPageRootFree]
  split_ifs <;> rfl

end Memory

/-! ### The scan of a prune -/

/-- What the scan knows after a part of the list: the best buffer is an unreferenced one of that part,
and none of them has an older lock count. -/
structure OldestSoFar (memory : ℕ → DmaPageBuffer) (buffers : List ℕ) (best : Option ℕ × ℤ) :
    Prop where
  le : ∀ q ∈ buffers, (memory q).refCount ≤ 1 → best.2 ≤ (memory q).lockCount
  mem : ∀ p, best.1 = some p →
    p ∈ buffers ∧ (memory p).refCount ≤ 1 ∧ best.2 = (memory p).lockCount

lemma OldestSoFar.step {memory : ℕ → DmaPageBuffer} {buffers : List ℕ} {best : Option ℕ × ℤ}
    (h : OldestSoFar memory buffers best) (q : ℕ) :
    OldestSoFar memory (buffers ++ [q]) (pageOldestStep memory best q) := by
  rw [pageOldestStep]
  split_ifs with href hcount
  · refine ⟨fun p hp hle => ?_, fun p hp => ?_⟩
    · rcases List.mem_append.mp hp with hp | hp
      · exact h.le p hp hle
      · rw [List.mem_singleton.mp hp] at hle
        omega
    · obtain ⟨hmem, hrest⟩ := h.mem p hp
      exact ⟨List.mem_append_left _ hmem, hrest⟩
  · refine ⟨fun p hp hle => ?_, fun p hp => ?_⟩
    · rcases List.mem_append.mp hp with hp | hp
      · exact hcount.le.trans (h.le p hp hle)
      · rw [List.mem_singleton.mp hp]
    · obtain rfl := Option.some.inj hp
      exact ⟨by simp, by omega, rfl⟩
  · refine ⟨fun p hp hle => ?_, fun p hp => ?_⟩
    · rcases List.mem_append.mp hp with hp | hp
      · exact h.le p hp hle
      · rw [List.mem_singleton.mp hp]
        omega
    · obtain ⟨hmem, hrest⟩ := h.mem p hp
      exact ⟨List.mem_append_left _ hmem, hrest⟩

lemma OldestSoFar.foldl {memory : ℕ → DmaPageBuffer} (rest : List ℕ) {buffers : List ℕ}
    {best : Option ℕ × ℤ} (h : OldestSoFar memory buffers best) :
    OldestSoFar memory (buffers ++ rest) (rest.foldl (pageOldestStep memory) best) := by
  induction rest generalizing buffers best with
  | nil => simpa using h
  | cons q rest ih =>
      have hnext := ih (h.step q)
      rwa [List.append_assoc] at hnext

/-- **The scan of a prune finds an unreferenced buffer, and no unreferenced one has an older lock
count.** -/
theorem pageOldest_spec {memory : ℕ → DmaPageBuffer} {buffers : List ℕ} {p : ℕ}
    (h : pageOldest memory buffers = some p) :
    p ∈ buffers ∧ (memory p).refCount ≤ 1 ∧
      ∀ q ∈ buffers, (memory q).refCount ≤ 1 → (memory p).lockCount ≤ (memory q).lockCount := by
  have hstart : OldestSoFar memory [] (none, 0x7fffffffffffffff) := by
    refine ⟨fun q hq => ?_, fun q hq => ?_⟩
    · cases hq
    · cases hq
  have hscan := hstart.foldl buffers
  rw [List.nil_append] at hscan
  obtain ⟨hmem, href, hcount⟩ := hscan.mem p h
  refine ⟨hmem, href, fun q hq hle => ?_⟩
  rw [← hcount]
  exact hscan.le q hq hle

/-! ### The steps -/

/-- The calls that a client starts. -/
inductive PageRequest
  | find (pAddress : UInt64) (size : UInt32)
  | add (pAddress : UInt64) (size : UInt32) (rdma map : Bool)
  | remove (pAddress : UInt64) (size : UInt32)
  | prune (size : UInt32)

/-- A call ends, or goes on as `call`. -/
inductive PageNext
  | returns (ret : PageReturn)
  | goes (call : PageCall)

/-- A call in progress goes on. -/
def pageProceed (s : PagePool) (k : PageKernel) (pNew : ℕ) : PageCall → PagePool × PageNext
  | .addFound pBuffer => (dmaPageRootFree s pBuffer, .returns (.code 0))
  | .addMissed pAddress size rdma map =>
      match dmaPageRootBuild k pAddress size rdma map with
      | .error ret => (s, .returns (.code ret))
      | .ok b => (s.alloc pNew b, .goes (.addBuilt pNew))
  | .addBuilt pBuffer => (dmaPageRootInsert s pBuffer, .returns (.code 0))
  | .release pBuffer none => (s.release k pBuffer, .returns (.code 0))
  | .release pBuffer (some (request, size)) => (s.release k pBuffer, .goes (.prune request size))
  | .prune request size =>
      match dmaPageRootPrune s size with
      | .done => (s, .returns (.code 0))
      | .failed => (s, .returns (.code enomem))
      | .evict pBuffer => (s.unlist pBuffer, .goes (.release pBuffer (some (request, size))))

/-- A call starts, with the part that it does at once. -/
def pageStart (s : PagePool) : PageRequest → PagePool × PageNext
  | .find pAddress size =>
      match dmaPageRootFind s pAddress size with
      | (t, pBuffer) => (t, .returns (.buffer pBuffer))
  | .add pAddress size rdma map =>
      if pAddress = 0 ∨ size = 0 then (s, .returns (.code einval))
      else match dmaPageRootFind s pAddress size with
        | (t, some pBuffer) => (t, .goes (.addFound pBuffer))
        | (t, none) => (t, .goes (.addMissed pAddress size rdma map))
  | .remove pAddress size =>
      if pAddress = 0 ∨ size = 0 then (s, .returns (.code einval))
      else match s.removable pAddress size with
        | some pBuffer => (s.unlist pBuffer, .goes (.release pBuffer none))
        | none => (s, .returns (.code enomem))
  | .prune size => (s, .goes (.prune size (pruneSize size s.root.lockMaxSize)))

/-- The cache after a part of a call: a call that goes on is in progress, a buffer that is returned
is found. -/
def PageCache.after (s : PageCache) : PagePool × PageNext → PageCache
  | (t, .goes call) => { s with pool := t, calls := call :: s.calls }
  | (t, .returns (.buffer (some pBuffer))) => { s with pool := t, found := pBuffer :: s.found }
  | (t, .returns _) => { s with pool := t }

/-- A client starts a call or frees a buffer that it found, or a call in progress goes on: a new
page buffer is then allocated at `pNew`. -/
inductive PageEvent
  | start (request : PageRequest)
  | free (pBuffer : ℕ)
  | proceed (call : PageCall) (k : PageKernel) (pNew : ℕ)

/-- One part of one call. -/
def pageStep (s : PageCache) : PageEvent → PageCache
  | .start request => s.after (pageStart s.pool request)
  | .free pBuffer =>
      { s with pool := dmaPageRootFree s.pool pBuffer, found := s.found.erase pBuffer }
  | .proceed call k pNew =>
      { s with calls := s.calls.erase call }.after (pageProceed s.pool k pNew call)

/-- The steps there are: a free is of a buffer that was found and not freed yet, the call that goes
on is in progress, and a new page buffer is not allocated yet. -/
def PageEnabled (s : PageCache) : PageEvent → Prop
  | .free pBuffer => pBuffer ∈ s.found
  | .proceed call _ pNew => call ∈ s.calls ∧ s.pool.allocated pNew = false
  | .start _ => True

instance (s : PageCache) (e : PageEvent) : Decidable (PageEnabled s e) :=
  match e with
  | .free pBuffer => inferInstanceAs (Decidable (pBuffer ∈ s.found))
  | .proceed call _ pNew =>
      inferInstanceAs (Decidable (call ∈ s.calls ∧ s.pool.allocated pNew = false))
  | .start _ => isTrue trivial

end LibAjaNtv2
