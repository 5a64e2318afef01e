import Mathlib.Tactic
import LibAjaNtv2.Lib.Run
import LibAjaNtv2.Dma.PageRoot

/-!
The accounting of the page cache, in any interleaving of the calls.

* `PoolInv`: what holds of the root and the page buffers, for given counts of the finds that are
  outstanding and of the calls that hold a buffer off the list;
* `UseOrder`: the lock counts order the cached buffers by their last use;
* `PageAccounting`: reference counts, the total size, and what a prune evicts;
* `page_cache_accounting`: **the accounting is right in every state of every run**.
-/

namespace LibAjaNtv2

/-- A call that holds a page buffer off the list. -/
def PageCall.owns (p : ℕ) : PageCall → Bool
  | .addBuilt pBuffer => pBuffer = p
  | .release pBuffer _ => pBuffer = p
  | _ => false

/-- The finds of a buffer that were not freed yet, those of an add included. -/
def PageCache.outstanding (s : PageCache) (p : ℕ) : ℕ :=
  s.found.count p + s.calls.count (.addFound p)

/-- The calls that hold a buffer off the list. -/
def PageCache.owners (s : PageCache) (p : ℕ) : ℕ := s.calls.countP (PageCall.owns p)

/-- What holds of the root and the page buffers when `out` finds are outstanding and `own` calls
hold a buffer off the list. -/
structure PoolInv (s : PagePool) (out own : ℕ → ℕ) : Prop where
  owned : ∀ p, s.root.bufferHead.count p + own p = (s.allocated p).toNat
  refCount : ∀ p ∈ s.root.bufferHead, (s.memory p).refCount = 1 + out p
  unlisted : ∀ p, p ∉ s.root.bufferHead → out p = 0
  total : s.root.lockTotalSize = (s.root.bufferHead.map fun p => (s.memory p).lockSize).sum
  locked : ∀ p, 0 < out p → (s.memory p).pageLock = true
  rooted : ∀ p ∈ s.root.bufferHead, (s.memory p).pPageRoot = true

/-- The buffer that a step uses: the one that a lookup finds, or the one that is inserted. -/
def pageUse (s : PageCache) : PageEvent → Option ℕ
  | .start (.find pAddress size) => (dmaPageRootFind s.pool pAddress size).2
  | .start (.add pAddress size _ _) => (dmaPageRootFind s.pool pAddress size).2
  | .proceed (.addBuilt pBuffer) _ _ => some pBuffer
  | _ => none

variable {s : PagePool} {out out' own own' : ℕ → ℕ} {p : ℕ}

/-- A buffer is listed once. -/
lemma PoolInv.nodup (h : PoolInv s out own) : s.root.bufferHead.Nodup := by
  rw [List.nodup_iff_count_le_one]
  intro p
  have howned := h.owned p
  have hle := Bool.toNat_le (s.allocated p)
  omega

lemma PoolInv.listed (h : PoolInv s out own) (hp : 0 < out p) : p ∈ s.root.bufferHead := by
  by_contra hnot
  have hzero := h.unlisted p hnot
  omega

/-- A buffer that a call holds is off the list. -/
lemma PoolInv.not_listed (h : PoolInv s out own) (hp : 0 < own p) : p ∉ s.root.bufferHead := by
  intro hmem
  have howned := h.owned p
  have hle := Bool.toNat_le (s.allocated p)
  have hcount := List.count_pos_iff.mpr hmem
  omega

/-- A buffer that is not allocated is not listed, and no call holds it. -/
lemma PoolInv.not_allocated (h : PoolInv s out own) (hp : s.allocated p = false) :
    p ∉ s.root.bufferHead ∧ own p = 0 := by
  have howned := h.owned p
  rw [hp, Bool.toNat_false] at howned
  refine ⟨fun hmem => ?_, by omega⟩
  have hcount := List.count_pos_iff.mpr hmem
  omega

/-- The lock sizes of a list do not change with a buffer that is not on it. -/
lemma lockSizes_update (memory : ℕ → DmaPageBuffer) {buffers : List ℕ} {b : DmaPageBuffer}
    (h : p ∈ buffers → b.lockSize = (memory p).lockSize) :
    (buffers.map fun q => (Function.update memory p b q).lockSize) =
      buffers.map fun q => (memory q).lockSize := by
  refine List.map_congr_left fun q hq => ?_
  by_cases hqp : q = p
  · rw [hqp, Function.update_self]
    exact h (hqp ▸ hq)
  · rw [Function.update_of_ne hqp]

/-! ### The operations on the pool -/

/-- A find counts one use more. -/
lemma PoolInv.reference (h : PoolInv s out own) (hp : p ∈ s.root.bufferHead)
    (hlock : (s.memory p).pageLock = true) (hout : ∀ q, out' q = out q + if q = p then 1 else 0) :
    PoolInv (s.reference p) out' own where
  owned := h.owned
  refCount q hq := by
    have href := h.refCount q hq
    rw [hout, PagePool.reference]
    by_cases hqp : q = p
    · subst hqp
      simp [href]
      ring
    · simpa [Function.update_of_ne hqp, hqp] using href
  unlisted q hq := by
    have hzero := h.unlisted q hq
    have hqp : q ≠ p := fun hqp => hq (hqp ▸ hp)
    simpa [hout, hqp] using hzero
  total := by
    dsimp only [PagePool.reference]
    rw [lockSizes_update _ fun _ => by rfl]
    exact h.total
  locked q hq := by
    rw [PagePool.reference]
    by_cases hqp : q = p
    · subst hqp
      simpa using hlock
    · rw [hout, if_neg hqp] at hq
      simpa [Function.update_of_ne hqp] using h.locked q hq
  rooted q hq := by
    have hroot := h.rooted q hq
    rw [PagePool.reference]
    by_cases hqp : q = p
    · subst hqp
      simpa using hroot
    · simpa [Function.update_of_ne hqp] using hroot

/-- A free counts one use less. -/
lemma PoolInv.free (h : PoolInv s out own) (hout : ∀ q, out q = out' q + if q = p then 1 else 0) :
    PoolInv (dmaPageRootFree s p) out' own := by
  have hpos : 0 < out p := by
    have hp := hout p
    rw [if_pos rfl] at hp
    omega
  have hmemory := fun q =>
    dmaPageRootFree_memory (q := q) (h.rooted p (h.listed hpos))
  refine ⟨fun q => ?_, fun q hq => ?_, fun q hq => ?_, ?_, fun q hq => ?_, fun q hq => ?_⟩
  · rw [dmaPageRootFree_root, dmaPageRootFree_allocated]
    exact h.owned q
  · rw [dmaPageRootFree_root] at hq
    have href := h.refCount q hq
    rw [hout] at href
    rw [hmemory]
    split_ifs at href ⊢ <;> push_cast at href ⊢ <;> omega
  · rw [dmaPageRootFree_root] at hq
    have hzero := h.unlisted q hq
    rw [hout] at hzero
    omega
  · rw [dmaPageRootFree_root, h.total]
    simp only [hmemory]
  · rw [hmemory]
    exact h.locked q (by rw [hout]; omega)
  · rw [dmaPageRootFree_root] at hq
    rw [hmemory]
    exact h.rooted q hq

/-- A new buffer is put on the list. -/
lemma PoolInv.insert (h : PoolInv s out own) (hown : ∀ q, own q = own' q + if q = p then 1 else 0) :
    PoolInv (dmaPageRootInsert s p) out own' := by
  have hpos : 0 < own p := by
    have hp := hown p
    rw [if_pos rfl] at hp
    omega
  have hnot := h.not_listed hpos
  have hzero := h.unlisted p hnot
  refine ⟨fun q => ?_, fun q hq => ?_, fun q hq => ?_, ?_, fun q hq => ?_, fun q hq => ?_⟩
  · have howned := h.owned q
    rw [hown] at howned
    simp only [dmaPageRootInsert, List.count_append, List.count_singleton]
    rw [← howned]
    by_cases hqp : q = p
    · simp [hqp]
      omega
    · have hpq : (p == q) = false := by simp [Ne.symm hqp]
      simp [hqp, hpq]
  · simp only [dmaPageRootInsert, List.mem_append, List.mem_singleton] at hq ⊢
    by_cases hqp : q = p
    · subst hqp
      simp [hzero]
    · rw [Function.update_of_ne hqp]
      exact h.refCount q (hq.resolve_right hqp)
  · simp only [dmaPageRootInsert, List.mem_append, List.mem_singleton, not_or] at hq
    exact h.unlisted q hq.1
  · simp only [dmaPageRootInsert, List.map_append, List.map_singleton, List.sum_append,
      List.sum_singleton, Function.update_self]
    rw [lockSizes_update _ fun hmem => absurd hmem hnot, ← h.total]
  · have hqp : q ≠ p := by
      rintro rfl
      omega
    simpa [dmaPageRootInsert, Function.update_of_ne hqp] using h.locked q hq
  · simp only [dmaPageRootInsert, List.mem_append, List.mem_singleton] at hq ⊢
    by_cases hqp : q = p
    · subst hqp
      simp
    · rw [Function.update_of_ne hqp]
      exact h.rooted q (hq.resolve_right hqp)

/-- An unreferenced buffer is taken off the list. -/
lemma PoolInv.unlist (h : PoolInv s out own) (hp : p ∈ s.root.bufferHead)
    (href : (s.memory p).refCount ≤ 1) (hown : ∀ q, own' q = own q + if q = p then 1 else 0) :
    PoolInv (s.unlist p) out own' := by
  have hzero : out p = 0 := by
    have hcount := h.refCount p hp
    omega
  have hne : ∀ q, q ∈ s.root.bufferHead.erase p → q ≠ p ∧ q ∈ s.root.bufferHead := fun q hq =>
    (List.Nodup.mem_erase_iff h.nodup).mp hq
  refine ⟨fun q => ?_, fun q hq => ?_, fun q hq => ?_, ?_, fun q hq => ?_, fun q hq => ?_⟩
  · have howned := h.owned q
    simp only [PagePool.unlist]
    rw [hown, ← howned]
    by_cases hqp : q = p
    · subst hqp
      have hcount := List.count_pos_iff.mpr hp
      rw [List.count_erase_self, if_pos rfl]
      omega
    · rw [List.count_erase_of_ne hqp, if_neg hqp, add_zero]
  · obtain ⟨hqp, hq⟩ := hne q hq
    simpa [PagePool.unlist, Function.update_of_ne hqp] using h.refCount q hq
  · by_cases hqp : q = p
    · rw [hqp, hzero]
    · exact h.unlisted q fun hmem => hq ((List.Nodup.mem_erase_iff h.nodup).mpr ⟨hqp, hmem⟩)
  · have hsum := List.sum_map_erase (fun q => (s.memory q).lockSize) hp
    simp only [PagePool.unlist]
    rw [lockSizes_update _ fun hmem => absurd rfl (hne p hmem).1, h.total, ← hsum]
    ring
  · have hqp : q ≠ p := by
      rintro rfl
      omega
    simpa [PagePool.unlist, Function.update_of_ne hqp] using h.locked q hq
  · obtain ⟨hqp, hq⟩ := hne q hq
    simpa [PagePool.unlist, Function.update_of_ne hqp] using h.rooted q hq

/-- Changing a buffer that is off the list keeps what holds of the listed ones. -/
lemma PoolInv.offList (h : PoolInv s out own) {b : DmaPageBuffer} {a : Bool}
    (hp : p ∉ s.root.bufferHead) (hown : ∀ q, q ≠ p → own' q = own q) (ha : own' p = a.toNat) :
    PoolInv { s with
      memory := Function.update s.memory p b
      allocated := Function.update s.allocated p a } out own' := by
  have hzero := h.unlisted p hp
  have hne : ∀ q ∈ s.root.bufferHead, q ≠ p := by
    rintro q hq rfl
    exact hp hq
  refine ⟨fun q => ?_, fun q hq => ?_, h.unlisted, ?_, fun q hq => ?_, fun q hq => ?_⟩
  · dsimp only
    by_cases hqp : q = p
    · rw [hqp, Function.update_self, ha, List.count_eq_zero_of_not_mem hp, zero_add]
    · rw [Function.update_of_ne hqp, hown q hqp]
      exact h.owned q
  · simpa [Function.update_of_ne (hne q hq)] using h.refCount q hq
  · rw [lockSizes_update _ fun hmem => absurd hmem hp]
    exact h.total
  · have hqp : q ≠ p := by
      rintro rfl
      omega
    simpa [Function.update_of_ne hqp] using h.locked q hq
  · simpa [Function.update_of_ne (hne q hq)] using h.rooted q hq

/-! ### What one step does -/

/-- What a part of a call does to the pool, to the finds that are outstanding and to the calls that
hold a buffer off the list. -/
inductive PageMoves (s : PageCache) (e : PageEvent) (t : PageCache) : Prop
  | same (use : pageUse s e = none) (pool : t.pool = s.pool)
      (out : ∀ q, t.outstanding q = s.outstanding q) (own : ∀ q, t.owners q = s.owners q)
  | reference (p : ℕ) (use : pageUse s e = some p) (listed : p ∈ s.pool.root.bufferHead)
      (locked : (s.pool.memory p).pageLock = true) (pool : t.pool = s.pool.reference p)
      (out : ∀ q, t.outstanding q = s.outstanding q + if q = p then 1 else 0)
      (own : ∀ q, t.owners q = s.owners q)
  | free (p : ℕ) (use : pageUse s e = none) (pool : t.pool = dmaPageRootFree s.pool p)
      (out : ∀ q, s.outstanding q = t.outstanding q + if q = p then 1 else 0)
      (own : ∀ q, t.owners q = s.owners q)
  | insert (p : ℕ) (use : pageUse s e = some p) (pool : t.pool = dmaPageRootInsert s.pool p)
      (out : ∀ q, t.outstanding q = s.outstanding q)
      (own : ∀ q, s.owners q = t.owners q + if q = p then 1 else 0)
  | unlist (p : ℕ) (use : pageUse s e = none) (listed : p ∈ s.pool.root.bufferHead)
      (unreferenced : (s.pool.memory p).refCount ≤ 1) (pool : t.pool = s.pool.unlist p)
      (out : ∀ q, t.outstanding q = s.outstanding q)
      (own : ∀ q, t.owners q = s.owners q + if q = p then 1 else 0)
  | alloc (p : ℕ) (b : DmaPageBuffer) (use : pageUse s e = none)
      (fresh : s.pool.allocated p = false) (pool : t.pool = s.pool.alloc p b)
      (out : ∀ q, t.outstanding q = s.outstanding q)
      (own : ∀ q, t.owners q = s.owners q + if q = p then 1 else 0)
  | release (p : ℕ) (k : PageKernel) (use : pageUse s e = none)
      (pool : t.pool = s.pool.release k p)
      (out : ∀ q, t.outstanding q = s.outstanding q)
      (own : ∀ q, s.owners q = t.owners q + if q = p then 1 else 0)

/-- A lookup finds a listed buffer with its pages locked. -/
lemma lookup_spec {pAddress : UInt64} {size : UInt32} (h : s.lookup pAddress size = some p) :
    p ∈ s.root.bufferHead ∧ (s.memory p).pageLock = true := by
  refine ⟨List.mem_of_find?_eq_some h, ?_⟩
  have hfound := List.find?_some h
  simp only [Bool.and_eq_true] at hfound
  exact hfound.1.1.2

/-- A remove takes a listed buffer that is not referenced. -/
lemma removable_spec {pAddress : UInt64} {size : UInt32} (h : s.removable pAddress size = some p) :
    p ∈ s.root.bufferHead ∧ (s.memory p).refCount ≤ 1 := by
  refine ⟨List.mem_of_find?_eq_some h, ?_⟩
  have hfound := List.find?_some h
  simp only [Bool.not_eq_true', Bool.or_eq_false_iff, decide_eq_false_iff_not, not_lt] at hfound
  exact hfound.1.1

/-- A find takes a listed buffer with its pages locked, or nothing. -/
lemma dmaPageRootFind_cases (s : PagePool) (pAddress : UInt64) (size : UInt32) :
    dmaPageRootFind s pAddress size = (s, none) ∨
      ∃ p ∈ s.root.bufferHead, (s.memory p).pageLock = true ∧
        dmaPageRootFind s pAddress size = (s.reference p, some p) := by
  rw [dmaPageRootFind]
  split_ifs
  · exact .inl rfl
  · cases hlookup : s.lookup pAddress size with
    | none => exact .inl rfl
    | some p =>
        obtain ⟨hlisted, hlocked⟩ := lookup_spec hlookup
        exact .inr ⟨p, hlisted, hlocked, rfl⟩

/-- A round of a prune that evicts finds no room, and takes the unreferenced buffer with the oldest
lock count. -/
lemma prune_evicts {size : ℕ} (h : dmaPageRootPrune s size = .evict p) :
    p ∈ s.root.bufferHead ∧ (s.memory p).refCount ≤ 1 ∧
      (∀ q ∈ s.root.bufferHead, (s.memory q).refCount ≤ 1 →
        (s.memory p).lockCount ≤ (s.memory q).lockCount) ∧
      s.root.lockMaxSize < s.root.lockTotalSize + size := by
  rw [dmaPageRootPrune] at h
  split_ifs at h with hfull
  cases hscan : pageOldest s.memory s.root.bufferHead with
  | none => rw [hscan] at h; cases h
  | some r =>
      rw [hscan] at h
      obtain rfl := PruneRound.evict.inj h
      obtain ⟨hlisted, href, holdest⟩ := pageOldest_spec hscan
      exact ⟨hlisted, href, holdest, hfull⟩

/-- A prune is done when there is room. -/
lemma prune_done {size : ℕ} (h : dmaPageRootPrune s size = .done) :
    s.root.lockTotalSize + size ≤ s.root.lockMaxSize := by
  rw [dmaPageRootPrune] at h
  split_ifs at h with hfull
  · cases hscan : pageOldest s.memory s.root.bufferHead with
    | none => rw [hscan] at h; cases h
    | some r => rw [hscan] at h; cases h
  · exact not_lt.mp hfull

/-- A call that goes on is in progress. -/
lemma outstanding_goes (s : PageCache) (t : PagePool) (call : PageCall) (q : ℕ) :
    (s.after (t, .goes call)).outstanding q =
      s.outstanding q + if call = .addFound q then 1 else 0 := by
  simp only [PageCache.after, PageCache.outstanding, List.count_cons, beq_iff_eq]
  omega

lemma owners_goes (s : PageCache) (t : PagePool) (call : PageCall) (q : ℕ) :
    (s.after (t, .goes call)).owners q =
      s.owners q + if PageCall.owns q call = true then 1 else 0 := by
  simp only [PageCache.after, PageCache.owners, List.countP_cons]

/-- A buffer that is returned is found. -/
lemma outstanding_found (s : PageCache) (t : PagePool) (p q : ℕ) :
    (s.after (t, .returns (.buffer (some p)))).outstanding q =
      s.outstanding q + if q = p then 1 else 0 := by
  simp only [PageCache.after, PageCache.outstanding, List.count_cons, beq_iff_eq, eq_comm (a := p)]
  omega

/-- A call that goes on from a part is not in progress in it. -/
lemma outstanding_erase {s : PageCache} {call : PageCall} (h : call ∈ s.calls) (q : ℕ) :
    s.outstanding q = ({ s with calls := s.calls.erase call } : PageCache).outstanding q +
      if call = .addFound q then 1 else 0 := by
  have hcount := (List.perm_cons_erase h).count_eq (.addFound q)
  simp only [PageCache.outstanding, hcount, List.count_cons, beq_iff_eq]
  omega

lemma owners_erase {s : PageCache} {call : PageCall} (h : call ∈ s.calls) (q : ℕ) :
    s.owners q = ({ s with calls := s.calls.erase call } : PageCache).owners q +
      if PageCall.owns q call = true then 1 else 0 := by
  have hcount := (List.perm_cons_erase h).countP_eq (PageCall.owns q)
  simp only [PageCache.owners, hcount, List.countP_cons]

/-- What starting a call does. -/
lemma start_moves (s : PageCache) (request : PageRequest) :
    PageMoves s (.start request) (pageStep s (.start request)) := by
  cases request with
  | find pAddress size =>
      rcases dmaPageRootFind_cases s.pool pAddress size with hfind | ⟨p, hlisted, hlocked, hfind⟩
      · rw [pageStep, pageStart, hfind]
        exact .same (by rw [pageUse, hfind]) rfl (fun _ => rfl) fun _ => rfl
      · rw [pageStep, pageStart, hfind]
        exact .reference p (by rw [pageUse, hfind]) hlisted hlocked rfl
          (fun q => outstanding_found s _ p q) fun _ => rfl
  | add pAddress size rdma map =>
      rw [pageStep, pageStart]
      split_ifs with hargs
      · refine .same ?_ rfl (fun _ => rfl) fun _ => rfl
        rw [pageUse, dmaPageRootFind, if_pos hargs]
      · rcases dmaPageRootFind_cases s.pool pAddress size with
          hfind | ⟨p, hlisted, hlocked, hfind⟩
        · rw [hfind]
          exact .same (by rw [pageUse, hfind]) rfl (fun q => outstanding_goes s _ _ q)
            fun q => owners_goes s _ _ q
        · rw [hfind]
          refine .reference p (by rw [pageUse, hfind]) hlisted hlocked rfl (fun q => ?_)
            fun q => owners_goes s _ _ q
          rw [outstanding_goes]
          simp [eq_comm]
  | remove pAddress size =>
      rw [pageStep, pageStart]
      split_ifs with hargs
      · exact .same rfl rfl (fun _ => rfl) fun _ => rfl
      · cases htarget : s.pool.removable pAddress size with
        | none => exact .same rfl rfl (fun _ => rfl) fun _ => rfl
        | some p =>
            obtain ⟨hlisted, href⟩ := removable_spec htarget
            refine .unlist p rfl hlisted href rfl (fun q => outstanding_goes s _ _ q) fun q => ?_
            rw [owners_goes]
            simp [PageCall.owns, eq_comm]
  | prune size =>
      exact .same rfl rfl (fun q => outstanding_goes s _ _ q) fun q => owners_goes s _ _ q

/-- What freeing a buffer does. -/
lemma free_moves {s : PageCache} {p : ℕ} (h : p ∈ s.found) :
    PageMoves s (.free p) (pageStep s (.free p)) := by
  refine .free p rfl rfl (fun q => ?_) fun _ => rfl
  have hcount := (List.perm_cons_erase h).count_eq q
  simp only [pageStep, PageCache.outstanding, hcount, List.count_cons, beq_iff_eq,
    eq_comm (a := q)]
  omega

/-- What a call in progress does when it goes on. -/
lemma proceed_moves {s : PageCache} {call : PageCall} {k : PageKernel} {pNew : ℕ}
    (h : call ∈ s.calls) (hnew : s.pool.allocated pNew = false) :
    PageMoves s (.proceed call k pNew) (pageStep s (.proceed call k pNew)) := by
  have hout := outstanding_erase h
  have hown := owners_erase h
  rw [pageStep]
  generalize hrest : ({ s with calls := s.calls.erase call } : PageCache) = rest at hout hown ⊢
  have hpool : rest.pool = s.pool := by rw [← hrest]
  cases call with
  | addFound p =>
      refine .free p rfl rfl (fun q => ?_) fun q => (hown q).symm
      rw [hout]
      simp [pageProceed, PageCache.after, PageCache.outstanding, eq_comm]
  | addMissed pAddress size rdma map =>
      rw [pageProceed]
      cases dmaPageRootBuild k pAddress size rdma map with
      | error ret => exact .same rfl rfl (fun q => (hout q).symm) fun q => (hown q).symm
      | ok b =>
          refine .alloc pNew b rfl hnew rfl (fun q => ?_) fun q => ?_
          · rw [outstanding_goes, hout]
            simp
          · rw [owners_goes, hown]
            simp [PageCall.owns, eq_comm]
  | addBuilt p =>
      refine .insert p rfl rfl (fun q => (hout q).symm) fun q => ?_
      rw [hown]
      simp [PageCall.owns, pageProceed, PageCache.after, PageCache.owners, eq_comm]
  | release p next =>
      cases next with
      | none =>
          refine .release p k rfl rfl (fun q => (hout q).symm) fun q => ?_
          rw [hown]
          simp [PageCall.owns, pageProceed, PageCache.after, PageCache.owners, eq_comm]
      | some prune =>
          refine .release p k rfl rfl (fun q => ?_) fun q => ?_
          · rw [pageProceed, outstanding_goes, hout]
            simp
          · rw [pageProceed, owners_goes, hown]
            simp [PageCall.owns, eq_comm]
  | prune request size =>
      rw [pageProceed]
      cases hround : dmaPageRootPrune s.pool size with
      | done => exact .same rfl rfl (fun q => (hout q).symm) fun q => (hown q).symm
      | failed => exact .same rfl rfl (fun q => (hout q).symm) fun q => (hown q).symm
      | evict p =>
          obtain ⟨hlisted, href, -⟩ := prune_evicts hround
          refine .unlist p rfl hlisted href rfl (fun q => ?_) fun q => ?_
          · rw [outstanding_goes, hout]
            simp
          · rw [owners_goes, hown]
            simp [PageCall.owns, eq_comm]

/-- What one part of a call does. -/
theorem pageStep_moves {s : PageCache} {e : PageEvent} (h : PageEnabled s e) :
    PageMoves s e (pageStep s e) := by
  cases e with
  | start request => exact start_moves s request
  | free p => exact free_moves h
  | proceed call k pNew => exact proceed_moves h.1 h.2

/-! ### The accounting -/

/-- What holds of the pool, for the counts of the cache. -/
def PageCache.Counted (s : PageCache) : Prop := PoolInv s.pool s.outstanding s.owners

/-- One part of a call keeps the counts. -/
lemma PageMoves.counted {s t : PageCache} {e : PageEvent} (h : PageMoves s e t) (hs : s.Counted) :
    t.Counted := by
  rw [PageCache.Counted] at hs ⊢
  cases h with
  | same use pool out own =>
      rw [pool, funext out, funext own]
      exact hs
  | reference p use listed locked pool out own =>
      rw [pool, funext own]
      exact hs.reference listed locked out
  | free p use pool out own =>
      rw [pool, funext own]
      exact hs.free out
  | insert p use pool out own =>
      rw [pool, funext out]
      exact hs.insert own
  | unlist p use listed unreferenced pool out own =>
      rw [pool, funext out]
      exact hs.unlist listed unreferenced own
  | alloc p b use fresh pool out own =>
      obtain ⟨hnot, hzero⟩ := hs.not_allocated fresh
      rw [pool, funext out]
      refine hs.offList hnot (fun q hq => ?_) ?_
      · rw [own, if_neg hq, add_zero]
      · rw [own, if_pos rfl, hzero, Bool.toNat_true]
  | release p k use pool out own =>
      have hp := own p
      rw [if_pos rfl] at hp
      have hnot := hs.not_listed (p := p) (by omega)
      have howned := hs.owned p
      rw [List.count_eq_zero_of_not_mem hnot] at howned
      have hle := Bool.toNat_le (s.pool.allocated p)
      rw [pool, funext out]
      refine hs.offList hnot (fun q hq => ?_) ?_
      · have hq' := own q
        rw [if_neg hq, add_zero] at hq'
        exact hq'.symm
      · rw [Bool.toNat_false]
        omega

/-- Of a buffer with an outstanding find, a part of a call changes the reference and the lock count
only. -/
lemma PageMoves.memory_of_outstanding {s t : PageCache} {e : PageEvent} (h : PageMoves s e t)
    (hs : s.Counted) {p : ℕ} (hp : 0 < s.outstanding p) :
    ∃ refCount lockCount, t.pool.memory p =
      { s.pool.memory p with refCount := refCount, lockCount := lockCount } := by
  have hlisted := hs.listed hp
  cases h with
  | same use pool out own => exact ⟨_, _, by rw [pool]⟩
  | reference q use listed locked pool out own =>
      rw [pool]
      by_cases hpq : p = q
      · subst hpq
        exact ⟨_, _, PagePool.reference_self⟩
      · exact ⟨_, _, PagePool.reference_of_ne hpq⟩
  | free q use pool out own =>
      have hq := out q
      rw [if_pos rfl] at hq
      have hroot := hs.rooted q (hs.listed (by omega))
      exact ⟨_, (s.pool.memory p).lockCount, by rw [pool, dmaPageRootFree_memory hroot]⟩
  | insert q use pool out own =>
      have hq := own q
      rw [if_pos rfl] at hq
      have hpq : p ≠ q := by
        rintro rfl
        exact hs.not_listed (by omega) hlisted
      exact ⟨_, _, by rw [pool, dmaPageRootInsert_of_ne hpq]⟩
  | unlist q use listed unreferenced pool out own =>
      rw [pool]
      by_cases hpq : p = q
      · subst hpq
        exact ⟨_, (s.pool.memory p).lockCount, PagePool.unlist_self⟩
      · exact ⟨_, _, PagePool.unlist_of_ne hpq⟩
  | alloc q b use fresh pool out own =>
      have hpq : p ≠ q := by
        rintro rfl
        exact (hs.not_allocated fresh).1 hlisted
      exact ⟨_, _, by rw [pool, PagePool.alloc_of_ne hpq]⟩
  | release q k use pool out own =>
      have hq := own q
      rw [if_pos rfl] at hq
      have hpq : p ≠ q := by
        rintro rfl
        exact hs.not_listed (by omega) hlisted
      exact ⟨_, _, by rw [pool, PagePool.release_of_ne hpq]⟩

lemma PageCache.Counted.allocated {s : PageCache} (hs : s.Counted) {p : ℕ}
    (hp : 0 < s.outstanding p) : s.pool.allocated p = true := by
  by_contra hnot
  exact (hs.not_allocated (Bool.eq_false_of_not_eq_true hnot)).1 (hs.listed hp)

/-- A part of a call neither unlocks nor frees a buffer with an outstanding find. -/
lemma PageMoves.spares {s t : PageCache} {e : PageEvent} (h : PageMoves s e t) (hs : s.Counted)
    {p : ℕ} (hp : 0 < s.outstanding p) :
    t.pool.allocated p = true ∧ (t.pool.memory p).pageLock = true := by
  obtain ⟨refCount, lockCount, hmemory⟩ := h.memory_of_outstanding hs hp
  rw [hmemory]
  refine ⟨?_, hs.locked p hp⟩
  have hallocated := hs.allocated hp
  cases h with
  | same use pool out own => rwa [pool]
  | reference q use listed locked pool out own => rwa [pool]
  | free q use pool out own => rwa [pool, dmaPageRootFree_allocated]
  | insert q use pool out own => rwa [pool]
  | unlist q use listed unreferenced pool out own => rwa [pool]
  | alloc q b use fresh pool out own =>
      rw [pool, PagePool.alloc]
      simp [Function.update_apply, hallocated]
  | release q k use pool out own =>
      have hq := own q
      rw [if_pos rfl] at hq
      have hpq : p ≠ q := by
        rintro rfl
        exact hs.not_listed (by omega) (hs.listed hp)
      rw [pool, PagePool.release]
      simp [Function.update_of_ne hpq, hallocated]

/-- A prune goes on for the size that it was called with, cut to the maximum. -/
def PageCall.Sized (lockMaxSize : ℤ) : PageCall → Prop
  | .prune request size => size = pruneSize request lockMaxSize
  | .release _ (some (request, size)) => size = pruneSize request lockMaxSize
  | _ => True

/-- The calls after a part of a call. -/
lemma calls_after {s : PageCache} {r : PagePool × PageNext} {c : PageCall}
    (h : c ∈ (s.after r).calls) : c ∈ s.calls ∨ r.2 = .goes c := by
  obtain ⟨t, next⟩ := r
  cases next with
  | returns ret =>
      cases ret with
      | code ret => exact .inl h
      | buffer p =>
          cases p with
          | none => exact .inl h
          | some p => exact .inl h
  | goes call =>
      rcases List.mem_cons.mp h with rfl | h
      · exact .inr rfl
      · exact .inl h

/-- The maximum does not change. -/
lemma PageMoves.lockMaxSize {s t : PageCache} {e : PageEvent} (h : PageMoves s e t) :
    t.pool.root.lockMaxSize = s.pool.root.lockMaxSize := by
  cases h with
  | same use pool out own => rw [pool]
  | reference p use listed locked pool out own => rw [pool]; rfl
  | free p use pool out own =>
      rw [pool, dmaPageRootFree]
      split_ifs <;> rfl
  | insert p use pool out own => rw [pool]; rfl
  | unlist p use listed unreferenced pool out own => rw [pool]; rfl
  | alloc p b use fresh pool out own => rw [pool]; rfl
  | release p k use pool out own => rw [pool]; rfl

/-- A call that starts makes room for its size. -/
lemma start_sized {request : PageRequest} {c : PageCall}
    (h : (pageStart s request).2 = .goes c) : c.Sized s.root.lockMaxSize := by
  cases request with
  | find pAddress size => cases h
  | add pAddress size rdma map =>
      rw [pageStart] at h
      split_ifs at h with hargs
      rcases dmaPageRootFind_cases s pAddress size with hfind | ⟨p, -, -, hfind⟩ <;>
        rw [hfind] at h <;> cases h <;> trivial
  | remove pAddress size =>
      rw [pageStart] at h
      split_ifs at h with hargs
      cases htarget : s.removable pAddress size with
      | none => rw [htarget] at h; cases h
      | some p => rw [htarget] at h; cases h; trivial
  | prune size => cases h; rfl

/-- A call that goes on makes room for its size. -/
lemma proceed_sized {call c : PageCall} {k : PageKernel} {pNew : ℕ}
    (hcall : call.Sized s.root.lockMaxSize) (h : (pageProceed s k pNew call).2 = .goes c) :
    c.Sized s.root.lockMaxSize := by
  cases call with
  | addFound p => cases h
  | addMissed pAddress size rdma map =>
      rw [pageProceed] at h
      cases hbuild : dmaPageRootBuild k pAddress size rdma map with
      | error ret => rw [hbuild] at h; cases h
      | ok b => rw [hbuild] at h; cases h; trivial
  | addBuilt p => cases h
  | release p next =>
      cases next with
      | none => cases h
      | some prune => cases h; exact hcall
  | prune request size =>
      rw [pageProceed] at h
      cases hround : dmaPageRootPrune s size with
      | done => rw [hround] at h; cases h
      | failed => rw [hround] at h; cases h
      | evict p => rw [hround] at h; cases h; exact hcall

/-- Every call in progress makes room for its size. -/
lemma pageStep_sized {s : PageCache} {e : PageEvent} (h : PageEnabled s e)
    (hs : ∀ c ∈ s.calls, c.Sized s.pool.root.lockMaxSize) :
    ∀ c ∈ (pageStep s e).calls, c.Sized (pageStep s e).pool.root.lockMaxSize := by
  rw [(pageStep_moves h).lockMaxSize]
  intro c hc
  cases e with
  | start request =>
      rcases calls_after hc with hc | hc
      · exact hs c hc
      · exact start_sized hc
  | free p => exact hs c hc
  | proceed call k pNew =>
      rcases calls_after hc with hc | hc
      · exact hs c (List.mem_of_mem_erase hc)
      · exact proceed_sized (hs call h.1) hc

/-! ### The order of use -/

/-- The cache with a clock, and when each buffer was last used. -/
structure PageHistory where
  cache : PageCache
  clock : ℕ
  lastUse : ℕ → ℕ

/-- One part of one call, with the use that it makes of a buffer. -/
def pageHistoryStep (h : PageHistory) (e : PageEvent) : PageHistory where
  cache := pageStep h.cache e
  clock := h.clock + 1
  lastUse :=
    match pageUse h.cache e with
    | some p => Function.update h.lastUse p h.clock
    | none => h.lastUse

/-- `p` was used before `q`, and its lock count says so. -/
def PageHistory.Older (h : PageHistory) (p q : ℕ) : Prop :=
  (h.cache.pool.memory p).lockCount < (h.cache.pool.memory q).lockCount ∧ h.lastUse p < h.lastUse q

/-- The lock counts order the cached buffers by their last use. -/
structure UseOrder (h : PageHistory) : Prop where
  bound : ∀ p ∈ h.cache.pool.root.bufferHead,
    (h.cache.pool.memory p).lockCount < h.cache.pool.root.lockCounter ∧ h.lastUse p < h.clock
  order : ∀ p ∈ h.cache.pool.root.bufferHead, ∀ q ∈ h.cache.pool.root.bufferHead, p ≠ q →
    h.Older p q ∨ h.Older q p

/-- A step that uses no buffer keeps the order of the buffers that stay cached. -/
lemma UseOrder.keep {h t : PageHistory} (hs : UseOrder h) (hclock : t.clock = h.clock + 1)
    (huse : t.lastUse = h.lastUse)
    (hcounter : t.cache.pool.root.lockCounter = h.cache.pool.root.lockCounter)
    (hcached : ∀ p ∈ t.cache.pool.root.bufferHead, p ∈ h.cache.pool.root.bufferHead ∧
      (t.cache.pool.memory p).lockCount = (h.cache.pool.memory p).lockCount) : UseOrder t := by
  refine ⟨fun p hp => ?_, fun p hp q hq hpq => ?_⟩
  · obtain ⟨hp', hcount⟩ := hcached p hp
    obtain ⟨hlt, hlast⟩ := hs.bound p hp'
    rw [hcount, huse, hcounter, hclock]
    exact ⟨hlt, by omega⟩
  · obtain ⟨hp', hcount⟩ := hcached p hp
    obtain ⟨hq', hcount'⟩ := hcached q hq
    rw [PageHistory.Older, PageHistory.Older, hcount, hcount', huse]
    exact hs.order p hp' q hq' hpq

/-- A step that uses a buffer puts it last. -/
lemma UseOrder.use {h t : PageHistory} {r : ℕ} (hs : UseOrder h) (hclock : t.clock = h.clock + 1)
    (huse : t.lastUse = Function.update h.lastUse r h.clock)
    (hcounter : t.cache.pool.root.lockCounter = h.cache.pool.root.lockCounter + 1)
    (hr : (t.cache.pool.memory r).lockCount = h.cache.pool.root.lockCounter)
    (hcached : ∀ p ∈ t.cache.pool.root.bufferHead, p ≠ r → p ∈ h.cache.pool.root.bufferHead ∧
      (t.cache.pool.memory p).lockCount = (h.cache.pool.memory p).lockCount) : UseOrder t := by
  have hother : ∀ p ∈ t.cache.pool.root.bufferHead, p ≠ r →
      (t.cache.pool.memory p).lockCount < h.cache.pool.root.lockCounter ∧
        t.lastUse p < h.clock := by
    intro p hp hpr
    obtain ⟨hp', hcount⟩ := hcached p hp hpr
    rw [hcount, huse, Function.update_of_ne hpr]
    exact hs.bound p hp'
  have hlast : t.lastUse r = h.clock := by rw [huse, Function.update_self]
  have holder : ∀ p ∈ t.cache.pool.root.bufferHead, p ≠ r → t.Older p r := by
    intro p hp hpr
    rw [PageHistory.Older, hr, hlast]
    exact hother p hp hpr
  refine ⟨fun p hp => ?_, fun p hp q hq hpq => ?_⟩
  · rw [hcounter, hclock]
    by_cases hpr : p = r
    · rw [hpr, hr, hlast]
      exact ⟨by omega, by omega⟩
    · obtain ⟨hlt, hlt'⟩ := hother p hp hpr
      exact ⟨by omega, by omega⟩
  · by_cases hpr : p = r
    · rw [hpr]
      exact .inr (holder q hq fun hqr => hpq (hpr.trans hqr.symm))
    · by_cases hqr : q = r
      · rw [hqr]
        exact .inl (holder p hp hpr)
      · obtain ⟨hp', hcount⟩ := hcached p hp hpr
        obtain ⟨hq', hcount'⟩ := hcached q hq hqr
        rw [PageHistory.Older, PageHistory.Older, hcount, hcount', huse, Function.update_of_ne hpr,
          Function.update_of_ne hqr]
        exact hs.order p hp' q hq' hpq

/-- One part of a call keeps the order of use. -/
lemma UseOrder.step {h : PageHistory} {e : PageEvent} (hs : UseOrder h)
    (hcounted : h.cache.Counted) (he : PageEnabled h.cache e) : UseOrder (pageHistoryStep h e) := by
  have hnone : pageUse h.cache e = none → (pageHistoryStep h e).lastUse = h.lastUse := by
    intro huse
    rw [pageHistoryStep, huse]
  have hsome : ∀ p, pageUse h.cache e = some p →
      (pageHistoryStep h e).lastUse = Function.update h.lastUse p h.clock := by
    intro p huse
    rw [pageHistoryStep, huse]
  have hcache : (pageHistoryStep h e).cache = pageStep h.cache e := rfl
  cases pageStep_moves he with
  | same use pool out own =>
      refine hs.keep rfl (hnone use) ?_ fun p hp => ?_
      · rw [hcache, pool]
      · rw [hcache, pool] at hp ⊢
        exact ⟨hp, rfl⟩
  | reference r use listed locked pool out own =>
      refine hs.use rfl (hsome r use) ?_ ?_ fun p hp hpr => ?_
      · rw [hcache, pool, PagePool.reference]
      · rw [hcache, pool, PagePool.reference_self]
      · rw [hcache, pool] at hp ⊢
        exact ⟨hp, by rw [PagePool.reference_of_ne hpr]⟩
  | free r use pool out own =>
      have hr := out r
      rw [if_pos rfl] at hr
      have hlisted := hcounted.listed (p := r) (by omega)
      refine hs.keep rfl (hnone use) ?_ fun p hp => ?_
      · rw [hcache, pool, dmaPageRootFree_root]
      · rw [hcache, pool, dmaPageRootFree_root] at hp
        rw [hcache, pool, dmaPageRootFree_memory (hcounted.rooted r hlisted)]
        exact ⟨hp, rfl⟩
  | insert r use pool out own =>
      refine hs.use rfl (hsome r use) ?_ ?_ fun p hp hpr => ?_
      · rw [hcache, pool, dmaPageRootInsert]
      · rw [hcache, pool, dmaPageRootInsert_self]
      · rw [hcache, pool] at hp ⊢
        simp only [dmaPageRootInsert, List.mem_append, List.mem_singleton] at hp
        exact ⟨hp.resolve_right hpr, by rw [dmaPageRootInsert_of_ne hpr]⟩
  | unlist r use listed unreferenced pool out own =>
      refine hs.keep rfl (hnone use) ?_ fun p hp => ?_
      · rw [hcache, pool, PagePool.unlist]
      · rw [hcache, pool] at hp ⊢
        obtain ⟨hpr, hp⟩ := (List.Nodup.mem_erase_iff hcounted.nodup).mp hp
        exact ⟨hp, by rw [PagePool.unlist_of_ne hpr]⟩
  | alloc r b use fresh pool out own =>
      have hnot := (hcounted.not_allocated fresh).1
      refine hs.keep rfl (hnone use) ?_ fun p hp => ?_
      · rw [hcache, pool, PagePool.alloc]
      · rw [hcache, pool] at hp ⊢
        have hpr : p ≠ r := by
          rintro rfl
          exact hnot hp
        exact ⟨hp, by rw [PagePool.alloc_of_ne hpr]⟩
  | release r k use pool out own =>
      have hr := own r
      rw [if_pos rfl] at hr
      have hnot := hcounted.not_listed (p := r) (by omega)
      refine hs.keep rfl (hnone use) ?_ fun p hp => ?_
      · rw [hcache, pool, PagePool.release]
      · rw [hcache, pool] at hp ⊢
        have hpr : p ≠ r := by
          rintro rfl
          exact hnot hp
        exact ⟨hp, by rw [PagePool.release_of_ne hpr]⟩

/-! ### The accounting of every run -/

/-- A file is opened. -/
def pageHistoryOpen (lockAuto lockMap : Bool) (maxSize : UInt64) : PageHistory where
  cache := pageCacheOpen lockAuto lockMap maxSize
  clock := 0
  lastUse := fun _ => 0

/-- The accounting of the page cache: the reference counts are the finds that are outstanding, the
total is what the cached buffers lock, a buffer with an outstanding find is neither unlocked nor
freed, by any step, and a prune evicts the unreferenced buffer that was used least recently, while
there is no room, and returns 0 when there is. -/
structure PageAccounting (h : PageHistory) : Prop where
  refCount : ∀ p ∈ h.cache.pool.root.bufferHead,
    (h.cache.pool.memory p).refCount = 1 + h.cache.outstanding p
  lockTotalSize : h.cache.pool.root.lockTotalSize =
    (h.cache.pool.root.bufferHead.map fun p => (h.cache.pool.memory p).lockSize).sum
  kept : ∀ p, 0 < h.cache.outstanding p → p ∈ h.cache.pool.root.bufferHead ∧
    h.cache.pool.allocated p = true ∧ (h.cache.pool.memory p).pageLock = true
  spared : ∀ p e, 0 < h.cache.outstanding p → PageEnabled h.cache e →
    (pageStep h.cache e).pool.allocated p = true ∧
      ((pageStep h.cache e).pool.memory p).pageLock = true
  released : ∀ p next, .release p next ∈ h.cache.calls → h.cache.outstanding p = 0
  pruneEvicts : ∀ request size k pNew p next, .prune request size ∈ h.cache.calls →
    (pageProceed h.cache.pool k pNew (.prune request size)).2 = .goes (.release p next) →
      p ∈ h.cache.pool.root.bufferHead ∧ h.cache.outstanding p = 0 ∧
        (∀ q ∈ h.cache.pool.root.bufferHead, q ≠ p → h.cache.outstanding q = 0 →
          h.lastUse p < h.lastUse q) ∧
        h.cache.pool.root.lockMaxSize <
          h.cache.pool.root.lockTotalSize + pruneSize request h.cache.pool.root.lockMaxSize
  pruneDone : ∀ request size k pNew, .prune request size ∈ h.cache.calls →
    (pageProceed h.cache.pool k pNew (.prune request size)).2 = .returns (.code 0) →
      h.cache.pool.root.lockTotalSize + min (request.toNat : ℤ) h.cache.pool.root.lockMaxSize ≤
        h.cache.pool.root.lockMaxSize

/-- What holds in every state of a run. -/
structure PageInv (h : PageHistory) : Prop where
  counted : h.cache.Counted
  order : UseOrder h
  sized : ∀ c ∈ h.cache.calls, c.Sized h.cache.pool.root.lockMaxSize

/-- It holds when the file is opened. -/
lemma pageInv_open (lockAuto lockMap : Bool) (maxSize : UInt64) :
    PageInv (pageHistoryOpen lockAuto lockMap maxSize) where
  counted :=
    { owned := fun _ => rfl
      refCount := by rintro p ⟨⟩
      unlisted := fun _ _ => rfl
      total := rfl
      locked := by rintro p ⟨⟩
      rooted := by rintro p ⟨⟩ }
  order :=
    { bound := by rintro p ⟨⟩
      order := by rintro p ⟨⟩ }
  sized := by rintro c ⟨⟩

/-- Every step keeps it. -/
lemma PageInv.step {h : PageHistory} {e : PageEvent} (hs : PageInv h)
    (he : PageEnabled h.cache e) : PageInv (pageHistoryStep h e) where
  counted := (pageStep_moves he).counted hs.counted
  order := hs.order.step hs.counted he
  sized := pageStep_sized he hs.sized

/-- The size that a prune makes room for is at least the size it was called with, cut to the
maximum. -/
lemma min_le_pruneSize (request : UInt32) (lockMaxSize : ℤ) :
    min (request.toNat : ℤ) lockMaxSize ≤ pruneSize request lockMaxSize := by
  have hlt := request.toNat_lt
  rw [pruneSize]
  split_ifs with hmax
  · have hcast := Int.toNat_of_nonneg (Int.emod_nonneg lockMaxSize (by decide : (4294967296 : ℤ) ≠ 0))
    rw [hcast, min_eq_right hmax.le]
    by_cases hneg : lockMaxSize < 0
    · have hnonneg := Int.emod_nonneg lockMaxSize (by decide : (4294967296 : ℤ) ≠ 0)
      omega
    · rw [Int.emod_eq_of_lt (by omega) (by omega)]
  · exact min_le_left _ _

/-- The accounting follows from what holds in every state. -/
lemma PageInv.accounting {h : PageHistory} (hs : PageInv h) : PageAccounting h where
  refCount := hs.counted.refCount
  lockTotalSize := hs.counted.total
  kept p hp := ⟨hs.counted.listed hp, hs.counted.allocated hp, hs.counted.locked p hp⟩
  spared p e hp he := (pageStep_moves he).spares hs.counted hp
  released p next hcall := by
    have hown : 0 < h.cache.owners p :=
      List.countP_pos_iff.mpr ⟨_, hcall, by simp [PageCall.owns]⟩
    exact hs.counted.unlisted p (hs.counted.not_listed hown)
  pruneEvicts request size k pNew p next hcall hgoes := by
    have hsize : size = pruneSize request h.cache.pool.root.lockMaxSize := hs.sized _ hcall
    rw [pageProceed] at hgoes
    cases hround : dmaPageRootPrune h.cache.pool size with
    | done => rw [hround] at hgoes; cases hgoes
    | failed => rw [hround] at hgoes; cases hgoes
    | evict r =>
        rw [hround] at hgoes
        cases hgoes
        obtain ⟨hlisted, href, holdest, hfull⟩ := prune_evicts hround
        have hcount := hs.counted.refCount p hlisted
        refine ⟨hlisted, by omega, fun q hq hqp hout => ?_, hsize ▸ hfull⟩
        have hcount' := hs.counted.refCount q hq
        have hle := holdest q hq (by omega)
        rcases hs.order.order p hlisted q hq (Ne.symm hqp) with hold | hold
        · exact hold.2
        · exact absurd hold.1 (not_lt.mpr hle)
  pruneDone request size k pNew hcall hreturns := by
    have hsize : size = pruneSize request h.cache.pool.root.lockMaxSize := hs.sized _ hcall
    have hmin := min_le_pruneSize request h.cache.pool.root.lockMaxSize
    rw [pageProceed] at hreturns
    cases hround : dmaPageRootPrune h.cache.pool size with
    | done =>
        have hroom := prune_done hround
        rw [hsize] at hroom
        omega
    | failed => rw [hround] at hreturns; cases hreturns
    | evict r => rw [hround] at hreturns; cases hreturns

/-- **The accounting of the page cache is right in every state of every run**, with any number of
calls in progress, whose parts come in any order. -/
theorem page_cache_accounting (lockAuto lockMap : Bool) (maxSize : UInt64) {h : PageHistory}
    (hrun : RunsTo pageHistoryStep (fun h e => PageEnabled h.cache e)
      (pageHistoryOpen lockAuto lockMap maxSize) h) : PageAccounting h :=
  (hrun.invariant (pageInv_open lockAuto lockMap maxSize) fun _ _ he hs => hs.step he).accounting

/-- A kernel that grants everything, for a buffer of one page. -/
def pageKernelOne : PageKernel where
  pageBuffer := true
  pageList := true
  sgList := true
  numPinned := 1
  mapSg := 1
  rdmaFops := false
  rdmaBuffer := false
  rdmaPage := (0, 0)
  rdmaMap := (0, 0)

/-- A buffer is added and found, and a prune cannot evict it. -/
def pageEventsFound : List PageEvent :=
  [.start (.add 4096 4096 false true),
    .proceed (.addMissed 4096 4096 false true) pageKernelOne 7,
    .proceed (.addBuilt 7) pageKernelOne 0,
    .start (.find 4096 4096),
    .start (.prune 4096),
    .proceed (.prune 4096 0) pageKernelOne 0]

theorem page_cache_accounting_found :
    PageAccounting (pageEventsFound.foldl pageHistoryStep (pageHistoryOpen false false 0)) := by
  refine page_cache_accounting false false 0 (RunsTo.foldl ?_)
  refine ⟨?_, ?_, ?_, ?_, ?_, ?_, trivial⟩ <;> decide +kernel

end LibAjaNtv2
