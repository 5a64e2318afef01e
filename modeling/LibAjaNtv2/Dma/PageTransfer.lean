import Mathlib.Tactic
import LibAjaNtv2.Dma.PageCache

/-!
Transfers that share a cached page buffer.

* `PageTransfer`, `transferStep`: the video part of `dmaTransfer`, from the find to the unlock;
* `TransferSystem`: the page cache with the transfers in progress;
* `BufferStaysMapped`: no transfer unmaps a buffer that another one is using;
* `MapsAlone`: a mapping decision is taken while no other transfer has the buffer to unmap;
* `buffer_stays_mapped`: **the buffer stays mapped in every run whose decisions are taken so**;
* `mapper_unmaps_first`: two transfers of a buffer that was cached without a mapping.
-/

namespace LibAjaNtv2

/-- How far the transfer is. -/
inductive TransferPhase
  | found
  | decided
  | locked
  | mapped
  | running
  | ended
  | unmapped
  | unlocked
  deriving DecidableEq, Repr

/-- The local variables of a transfer that has found its page buffer. -/
structure PageTransfer where
  pVideoPageBuffer : ℕ
  pVidUserVa : UInt64
  videoCardBytes : UInt32
  direction : DmaDirection
  lockVideo : Bool
  mapVideo : Bool
  hasVideo : Bool
  phase : TransferPhase
  deriving DecidableEq, Repr

/-- A transfer that has just found its page buffer. -/
def PageTransfer.start (pVidUserVa : UInt64) (videoCardBytes : UInt32) (direction : DmaDirection)
    (pVideoPageBuffer : ℕ) : PageTransfer where
  pVideoPageBuffer := pVideoPageBuffer
  pVidUserVa := pVidUserVa
  videoCardBytes := videoCardBytes
  direction := direction
  lockVideo := false
  mapVideo := false
  hasVideo := true
  phase := .found

/-- The next step of a transfer, on its page buffer. -/
def transferStep (k : PageKernel) (t : PageTransfer) (b : DmaPageBuffer) :
    PageTransfer × DmaPageBuffer :=
  match t.phase with
  | .found => ({ t with phase := .decided, lockVideo := !b.pageLock, mapVideo := !b.sgMap }, b)
  | .decided =>
      ({ t with phase := .locked },
        if t.lockVideo then (dmaPageLock k b t.pVidUserVa t.videoCardBytes t.direction).1 else b)
  | .locked =>
      ({ t with phase := .mapped }, if t.mapVideo then (dmaSgMap k b).1 else dmaSgDevice b)
  | .mapped => ({ t with phase := .running, hasVideo := b.sgMap }, b)
  | .running => ({ t with phase := .ended }, b)
  | .ended =>
      ({ t with phase := .unmapped }, if t.mapVideo then dmaSgUnmap k b else dmaSgHost b)
  | .unmapped => ({ t with phase := .unlocked }, if t.lockVideo then dmaPageUnlock k b else b)
  | .unlocked => (t, b)

/-- The page cache, and the transfers that have found a page buffer. -/
structure TransferSystem where
  cache : PageCache
  transfers : List PageTransfer

/-- A client of the cache takes a step, a transfer finds its page buffer, or a transfer goes on. -/
inductive TransferEvent
  | client (e : PageEvent)
  | find (pVidUserVa : UInt64) (videoCardBytes : UInt32) (direction : DmaDirection)
  | proceed (t : PageTransfer) (k : PageKernel)

/-- The transfer that a find starts. -/
def foundTransfer (s : TransferSystem) (pVidUserVa : UInt64) (videoCardBytes : UInt32)
    (direction : DmaDirection) : List PageTransfer :=
  match (dmaPageRootFind s.cache.pool pVidUserVa videoCardBytes).2 with
  | some p => [.start pVidUserVa videoCardBytes direction p]
  | none => []

/-- One step of the cache and the transfers. A transfer ends by freeing its page buffer. -/
def transferSystemStep (s : TransferSystem) : TransferEvent → TransferSystem
  | .client e => { s with cache := pageStep s.cache e }
  | .find pVidUserVa videoCardBytes direction =>
      { cache := pageStep s.cache (.start (.find pVidUserVa videoCardBytes))
        transfers := foundTransfer s pVidUserVa videoCardBytes direction ++ s.transfers }
  | .proceed t k =>
      if t.phase = .unlocked then
        { cache := pageStep s.cache (.free t.pVideoPageBuffer), transfers := s.transfers.erase t }
      else
        let next := transferStep k t (s.cache.pool.memory t.pVideoPageBuffer)
        { cache := { s.cache with pool := s.cache.pool.set t.pVideoPageBuffer next.2 }
          transfers := next.1 :: s.transfers.erase t }

/-- The transfers that hold a page buffer. -/
def TransferSystem.holders (s : TransferSystem) (p : ℕ) : ℕ :=
  s.transfers.countP fun t => t.pVideoPageBuffer = p

/-- The steps there are: a client frees only what it has found itself. -/
def TransferEnabled (s : TransferSystem) : TransferEvent → Prop
  | .client (.free p) => s.holders p < s.cache.found.count p
  | .client e => PageEnabled s.cache e
  | .find _ _ _ => True
  | .proceed t _ => t ∈ s.transfers

/-- A transfer between its mapping decision and the end of its own DMA. -/
def PageTransfer.InUse (t : PageTransfer) : Prop :=
  t.phase = .decided ∨ t.phase = .locked ∨ t.phase = .mapped ∨ t.phase = .running

/-- A transfer that has decided to map, and has not unmapped yet. -/
def PageTransfer.ToUnmap (t : PageTransfer) : Prop :=
  t.mapVideo = true ∧ (t.InUse ∨ t.phase = .ended)

/-- No transfer unmaps the scatter list of a buffer while another transfer that found it is between
its mapping decision and the end of its own DMA. -/
def BufferStaysMapped (s : TransferSystem) : Prop :=
  ∀ t ∈ s.transfers, ∀ k, (s.cache.pool.memory t.pVideoPageBuffer).sgMap = true →
    (transferStep k t (s.cache.pool.memory t.pVideoPageBuffer)).2.sgMap = false →
      ∀ t' ∈ s.transfers.erase t, t'.pVideoPageBuffer = t.pVideoPageBuffer → ¬ t'.InUse

/-- A transfer takes its mapping decision while no other transfer that has decided to map the same
buffer has still to unmap it. -/
def MapsAlone (s : TransferSystem) : TransferEvent → Prop
  | .proceed t _ => t.phase = .found →
      ∀ t' ∈ s.transfers.erase t, t'.pVideoPageBuffer = t.pVideoPageBuffer → ¬ t'.ToUnmap
  | _ => True

instance (t : PageTransfer) : Decidable t.InUse := inferInstanceAs (Decidable (_ ∨ _))

instance (t : PageTransfer) : Decidable t.ToUnmap := inferInstanceAs (Decidable (_ ∧ _))

instance (s : TransferSystem) (e : TransferEvent) : Decidable (TransferEnabled s e) :=
  match e with
  | .client (.free p) => inferInstanceAs (Decidable (s.holders p < s.cache.found.count p))
  | .client (.start request) => inferInstanceAs (Decidable (PageEnabled s.cache (.start request)))
  | .client (.proceed call k pNew) =>
      inferInstanceAs (Decidable (PageEnabled s.cache (.proceed call k pNew)))
  | .find _ _ _ => isTrue trivial
  | .proceed t _ => inferInstanceAs (Decidable (t ∈ s.transfers))

instance (s : TransferSystem) (e : TransferEvent) : Decidable (MapsAlone s e) :=
  match e with
  | .proceed t _ => inferInstanceAs (Decidable (t.phase = .found →
      ∀ t' ∈ s.transfers.erase t, t'.pVideoPageBuffer = t.pVideoPageBuffer → ¬ t'.ToUnmap))
  | .client _ => isTrue trivial
  | .find _ _ _ => isTrue trivial

/-! ### One buffer -/

/-- A buffer whose accounting is the same: what changes is its mapping. -/
structure SameAccounts (b b' : DmaPageBuffer) : Prop where
  refCount : b'.refCount = b.refCount
  lockSize : b'.lockSize = b.lockSize
  pageLock : b'.pageLock = b.pageLock
  pPageRoot : b'.pPageRoot = b.pPageRoot

variable {k : PageKernel} {b : DmaPageBuffer} {t : PageTransfer}

lemma SameAccounts.refl (b : DmaPageBuffer) : SameAccounts b b := ⟨rfl, rfl, rfl, rfl⟩

/-- Mapping keeps the accounting, and a mapped list mapped. -/
lemma dmaSgMap_spec (k : PageKernel) (b : DmaPageBuffer) :
    SameAccounts b (dmaSgMap k b).1 ∧ (b.sgMap = true → (dmaSgMap k b).1.sgMap = true) := by
  rw [dmaSgMap]
  split_ifs with hmap
  · rw [rdmaMapPages]
    cases b.rdmaContext with
    | none => exact ⟨.refl b, id⟩
    | some pRdmaBuffer =>
        dsimp only
        split_ifs
        · exact ⟨.refl b, id⟩
        · exact ⟨⟨rfl, rfl, rfl, rfl⟩, id⟩
        · exact ⟨⟨rfl, rfl, rfl, rfl⟩, id⟩
        · exact ⟨⟨rfl, rfl, rfl, rfl⟩, fun _ => rfl⟩
  · exact ⟨.refl b, id⟩
  · exact ⟨.refl b, id⟩
  · exact ⟨.refl b, id⟩
  · exact ⟨⟨rfl, rfl, rfl, rfl⟩, fun _ => rfl⟩
  · exact ⟨.refl b, id⟩

/-- Unmapping keeps the accounting. -/
lemma dmaSgUnmap_spec (k : PageKernel) (b : DmaPageBuffer) : SameAccounts b (dmaSgUnmap k b) := by
  rw [dmaSgUnmap]
  split_ifs
  · exact .refl b
  · rw [rdmaUnmapPages]
    cases b.rdmaContext with
    | none => exact .refl b
    | some pRdmaBuffer =>
        dsimp only
        split_ifs
        · exact ⟨rfl, rfl, rfl, rfl⟩
        · exact .refl b
  · exact .refl b
  · exact ⟨rfl, rfl, rfl, rfl⟩

/-- Handing a list to the device or the host keeps the accounting and the mapping. -/
lemma dmaSgDevice_spec (b : DmaPageBuffer) :
    SameAccounts b (dmaSgDevice b) ∧ (dmaSgDevice b).sgMap = b.sgMap := by
  rw [dmaSgDevice]
  split_ifs <;> exact ⟨⟨rfl, rfl, rfl, rfl⟩, rfl⟩

lemma dmaSgHost_spec (b : DmaPageBuffer) :
    SameAccounts b (dmaSgHost b) ∧ (dmaSgHost b).sgMap = b.sgMap := by
  rw [dmaSgHost]
  split_ifs <;> exact ⟨⟨rfl, rfl, rfl, rfl⟩, rfl⟩

/-- A transfer that does not lock keeps the accounting of its buffer. -/
lemma transferStep_accounts (k : PageKernel) (b : DmaPageBuffer) (h : t.phase ≠ .found →
    t.lockVideo = false) : SameAccounts b (transferStep k t b).2 := by
  rw [transferStep]
  cases hphase : t.phase with
  | found => exact .refl b
  | decided =>
      rw [h (by rw [hphase]; decide)]
      exact .refl b
  | locked =>
      dsimp only
      split_ifs
      · exact (dmaSgMap_spec k b).1
      · exact (dmaSgDevice_spec b).1
  | mapped => exact .refl b
  | running => exact .refl b
  | ended =>
      dsimp only
      split_ifs
      · exact dmaSgUnmap_spec k b
      · exact (dmaSgHost_spec b).1
  | unmapped =>
      rw [h (by rw [hphase]; decide)]
      exact .refl b
  | unlocked => exact .refl b

/-- A transfer that does not lock unmaps only at its end, and only when it has decided to map. -/
lemma transferStep_unmaps (h : t.phase ≠ .found → t.lockVideo = false) (hmap : b.sgMap = true)
    (hunmap : (transferStep k t b).2.sgMap = false) : t.phase = .ended ∧ t.mapVideo = true := by
  have hkeeps : (transferStep k t b).2.sgMap ≠ true := by simp [hunmap]
  rw [transferStep] at hkeeps
  cases hphase : t.phase with
  | found => exact absurd hmap (by simpa [hphase] using hkeeps)
  | decided =>
      have hlock := h (by rw [hphase]; decide)
      exact absurd hmap (by simpa [hphase, hlock] using hkeeps)
  | locked =>
      simp only [hphase] at hkeeps
      split_ifs at hkeeps
      · exact absurd ((dmaSgMap_spec k b).2 hmap) hkeeps
      · exact absurd ((dmaSgDevice_spec b).2.trans hmap) hkeeps
  | mapped => exact absurd hmap (by simpa [hphase] using hkeeps)
  | running => exact absurd hmap (by simpa [hphase] using hkeeps)
  | ended =>
      refine ⟨rfl, ?_⟩
      by_contra hnot
      simp only [hphase, hnot] at hkeeps
      exact hkeeps ((dmaSgHost_spec b).2.trans hmap)
  | unmapped =>
      have hlock := h (by rw [hphase]; decide)
      exact absurd hmap (by simpa [hphase, hlock] using hkeeps)
  | unlocked => exact absurd hmap (by simpa [hphase] using hkeeps)

@[simp] lemma transferStep_buffer (k : PageKernel) (t : PageTransfer) (b : DmaPageBuffer) :
    (transferStep k t b).1.pVideoPageBuffer = t.pVideoPageBuffer := by
  rw [transferStep]
  cases t.phase <;> rfl

/-- After the decision the flags do not change. -/
lemma transferStep_flags (k : PageKernel) (b : DmaPageBuffer) (h : t.phase ≠ .found) :
    (transferStep k t b).1.lockVideo = t.lockVideo ∧
      (transferStep k t b).1.mapVideo = t.mapVideo := by
  rw [transferStep]
  cases hphase : t.phase with
  | found => exact absurd hphase h
  | decided => exact ⟨rfl, rfl⟩
  | locked => exact ⟨rfl, rfl⟩
  | mapped => exact ⟨rfl, rfl⟩
  | running => exact ⟨rfl, rfl⟩
  | ended => exact ⟨rfl, rfl⟩
  | unmapped => exact ⟨rfl, rfl⟩
  | unlocked => exact ⟨rfl, rfl⟩

/-- After the decision a transfer uses its buffer only if it did so before. -/
lemma transferStep_inUse (h : t.phase ≠ .found) (huse : (transferStep k t b).1.InUse) :
    t.InUse := by
  rw [PageTransfer.InUse, transferStep] at huse
  rw [PageTransfer.InUse]
  cases hphase : t.phase with
  | found => exact absurd hphase h
  | decided => simp
  | locked => simp
  | mapped => simp
  | running => simp
  | ended => simp [hphase] at huse
  | unmapped => simp [hphase] at huse
  | unlocked => simp [hphase] at huse

/-- After the decision a transfer has to unmap only if it had to before. -/
lemma transferStep_toUnmap (h : t.phase ≠ .found) (hpending : (transferStep k t b).1.ToUnmap) :
    t.ToUnmap := by
  obtain ⟨hmap, hphases⟩ := hpending
  rw [(transferStep_flags k b h).2] at hmap
  refine ⟨hmap, ?_⟩
  rcases hphases with huse | hended
  · exact .inl (transferStep_inUse h huse)
  · rw [transferStep] at hended
    rw [PageTransfer.InUse]
    cases hphase : t.phase with
    | found => exact absurd hphase h
    | decided => simp
    | locked => simp
    | mapped => simp
    | running => simp
    | ended => simp
    | unmapped => simp [hphase] at hended
    | unlocked => simp [hphase] at hended

/-! ### The invariant -/

/-- Of two transfers on one buffer, neither has to unmap it while the other uses it. -/
def Exclusive (t t' : PageTransfer) : Prop :=
  t.pVideoPageBuffer = t'.pVideoPageBuffer →
    (t.ToUnmap → ¬ t'.InUse) ∧ (t'.ToUnmap → ¬ t.InUse)

lemma Exclusive.symm {t t' : PageTransfer} (h : Exclusive t t') : Exclusive t' t :=
  fun heq => (h heq.symm).symm

/-- What holds in every state of a run in which the mapping decisions are taken alone. -/
structure TransferInv (s : TransferSystem) : Prop where
  counted : s.cache.Counted
  held : ∀ p, s.holders p ≤ s.cache.found.count p
  locked : ∀ t ∈ s.transfers, t.phase ≠ .found → t.lockVideo = false
  mapped : ∀ t ∈ s.transfers, t.InUse → t.mapVideo = false →
    (s.cache.pool.memory t.pVideoPageBuffer).sgMap = true
  exclusive : s.transfers.Pairwise Exclusive

variable {s : TransferSystem}

/-- The buffer of a transfer has an outstanding find. -/
lemma TransferInv.outstanding (h : TransferInv s) (ht : t ∈ s.transfers) :
    t.pVideoPageBuffer ∈ s.cache.found ∧ 0 < s.cache.outstanding t.pVideoPageBuffer := by
  have hholders : 0 < s.holders t.pVideoPageBuffer :=
    List.countP_pos_iff.mpr ⟨t, ht, by simp⟩
  have hheld := h.held t.pVideoPageBuffer
  rw [PageCache.outstanding]
  exact ⟨List.count_pos_iff.mp (by omega), by omega⟩

/-- A transfer and the other ones exclude each other. -/
lemma TransferInv.exclusive_erase (h : TransferInv s) (ht : t ∈ s.transfers) :
    (∀ t' ∈ s.transfers.erase t, Exclusive t t') ∧
      (s.transfers.erase t).Pairwise Exclusive := by
  have hperm := List.perm_cons_erase ht
  have hpairs := (hperm.pairwise_iff fun h => Exclusive.symm h).mp h.exclusive
  exact List.pairwise_cons.mp hpairs

/-- In such a state no transfer unmaps a buffer that another one is using. -/
lemma TransferInv.staysMapped (h : TransferInv s) : BufferStaysMapped s := by
  intro t ht k hmap hunmap t' ht' heq huse
  obtain ⟨hended, hdecided⟩ := transferStep_unmaps (h.locked t ht) hmap hunmap
  exact (((h.exclusive_erase ht).1 t' ht') heq.symm).1 ⟨hdecided, .inr hended⟩ huse

/-- The pool keeps its accounting when only the mapping of a buffer changes. -/
lemma PoolInv.remap {s : PagePool} {out own : ℕ → ℕ} {p : ℕ} {b : DmaPageBuffer}
    (h : PoolInv s out own) (hb : SameAccounts (s.memory p) b) : PoolInv (s.set p b) out own := by
  have hsame : ∀ q, SameAccounts (s.memory q) ((s.set p b).memory q) := by
    intro q
    by_cases hqp : q = p
    · subst hqp
      rwa [PagePool.set_self]
    · rw [PagePool.set_of_ne hqp]
      exact .refl _
  refine ⟨h.owned, fun q hq => ?_, h.unlisted, ?_, fun q hq => ?_, fun q hq => ?_⟩
  · rw [(hsame q).refCount]
    exact h.refCount q hq
  · simp only [fun q => (hsame q).lockSize]
    exact h.total
  · rw [(hsame q).pageLock]
    exact h.locked q hq
  · rw [(hsame q).pPageRoot]
    exact h.rooted q hq

/-! ### The steps -/

/-- A part of a call keeps the finds. -/
lemma found_after (s : PageCache) (r : PagePool × PageNext) (p : ℕ) :
    s.found.count p ≤ (s.after r).found.count p := by
  obtain ⟨pool, next⟩ := r
  cases next with
  | goes call => exact le_rfl
  | returns ret =>
      cases ret with
      | code ret => exact le_rfl
      | buffer q =>
          cases q with
          | none => exact le_rfl
          | some q => exact (List.sublist_cons_self q s.found).count_le p

/-- A step of the cache keeps the mapping of the buffers that transfers have found. -/
lemma TransferInv.cache_mapped (h : TransferInv s) {e : PageEvent} (he : PageEnabled s.cache e)
    (ht : t ∈ s.transfers) :
    ((pageStep s.cache e).pool.memory t.pVideoPageBuffer).sgMap =
      (s.cache.pool.memory t.pVideoPageBuffer).sgMap := by
  obtain ⟨refCount, lockCount, hmemory⟩ :=
    (pageStep_moves he).memory_of_outstanding h.counted (h.outstanding ht).2
  rw [hmemory]

/-- A step of a client of the cache. -/
lemma TransferInv.client (h : TransferInv s) {e : PageEvent}
    (he : TransferEnabled s (.client e)) : TransferInv (transferSystemStep s (.client e)) := by
  have henabled : PageEnabled s.cache e := by
    cases e with
    | start request => exact he
    | free p =>
        have hlt : s.holders p < s.cache.found.count p := he
        exact List.count_pos_iff.mp (by omega)
    | proceed call k pNew => exact he
  refine ⟨(pageStep_moves henabled).counted h.counted, fun p => ?_, h.locked,
    fun t ht huse hmap => ?_, h.exclusive⟩
  · have hheld := h.held p
    cases e with
    | start request => exact hheld.trans (found_after _ _ p)
    | free q =>
        have hlt : s.holders q < s.cache.found.count q := he
        have hkept : s.holders p ≤ (s.cache.found.erase q).count p := by
          rw [List.count_erase]
          by_cases hqp : q = p
          · subst hqp
            rw [if_pos (beq_self_eq_true q)]
            omega
          · rw [if_neg (by simpa using hqp)]
            omega
        exact hkept
    | proceed call k pNew =>
        exact hheld.trans (found_after { s.cache with calls := s.cache.calls.erase call } _ p)
  · exact (h.cache_mapped henabled ht).trans (h.mapped t ht huse hmap)

/-- A transfer finds its page buffer. -/
lemma TransferInv.find (h : TransferInv s) (pVidUserVa : UInt64) (videoCardBytes : UInt32)
    (direction : DmaDirection) :
    TransferInv (transferSystemStep s (.find pVidUserVa videoCardBytes direction)) := by
  have hmoves : PageEnabled s.cache (.start (.find pVidUserVa videoCardBytes)) := trivial
  have hcounted := (pageStep_moves hmoves).counted h.counted
  have hmapped := fun t (ht : t ∈ s.transfers) => h.cache_mapped hmoves ht
  rcases dmaPageRootFind_cases s.cache.pool pVidUserVa videoCardBytes with
    hfind | ⟨p, hlisted, hlocked, hfind⟩
  · have hnone : foundTransfer s pVidUserVa videoCardBytes direction = [] := by
      rw [foundTransfer, hfind]
    rw [transferSystemStep, hnone]
    refine ⟨hcounted, fun q => ?_, h.locked, fun t ht huse hmap => ?_, h.exclusive⟩
    · exact (h.held q).trans (found_after _ _ q)
    · exact (hmapped t ht).trans (h.mapped t ht huse hmap)
  · have hstart : foundTransfer s pVidUserVa videoCardBytes direction =
        [.start pVidUserVa videoCardBytes direction p] := by
      rw [foundTransfer, hfind]
    have hfound : (pageStep s.cache (.start (.find pVidUserVa videoCardBytes))).found =
        p :: s.cache.found := by
      rw [pageStep, pageStart, hfind]
      rfl
    rw [transferSystemStep, hstart]
    refine ⟨hcounted, fun q => ?_, fun t ht hphase => ?_, fun t ht huse hmap => ?_, ?_⟩
    · have hheld := h.held q
      rw [TransferSystem.holders] at hheld ⊢
      rw [hfound, List.singleton_append, List.countP_cons, List.count_cons]
      by_cases hpq : p = q <;> simpa [PageTransfer.start, hpq] using hheld
    · rcases List.mem_cons.mp ht with rfl | ht
      · exact absurd rfl hphase
      · exact h.locked t ht hphase
    · rcases List.mem_cons.mp ht with rfl | ht
      · simp [PageTransfer.InUse, PageTransfer.start] at huse
      · exact (hmapped t ht).trans (h.mapped t ht huse hmap)
    · refine List.pairwise_cons.mpr ⟨fun t _ _ => ⟨fun hpending => ?_, fun _ huse => ?_⟩,
        h.exclusive⟩
      · exact absurd hpending.1 Bool.false_ne_true
      · simp [PageTransfer.InUse, PageTransfer.start] at huse

/-- A transfer ends by freeing its page buffer. -/
lemma TransferInv.finish (h : TransferInv s) (ht : t ∈ s.transfers) :
    TransferInv { cache := pageStep s.cache (.free t.pVideoPageBuffer)
                  transfers := s.transfers.erase t } := by
  have henabled : PageEnabled s.cache (.free t.pVideoPageBuffer) := (h.outstanding ht).1
  refine ⟨(pageStep_moves henabled).counted h.counted, fun p => ?_,
    fun t' ht' => h.locked t' (List.mem_of_mem_erase ht'), fun t' ht' huse hmap => ?_,
    (h.exclusive_erase ht).2⟩
  · have hheld := h.held p
    have hperm := (List.perm_cons_erase ht).countP_eq fun t => t.pVideoPageBuffer = p
    rw [TransferSystem.holders] at hheld ⊢
    rw [hperm, List.countP_cons] at hheld
    have hcount : (pageStep s.cache (.free t.pVideoPageBuffer)).found.count p =
        s.cache.found.count p - if t.pVideoPageBuffer = p then 1 else 0 := by
      simp [pageStep, List.count_erase]
    rw [hcount]
    dsimp only
    by_cases htp : t.pVideoPageBuffer = p
    · simp only [htp, decide_true, if_true] at hheld ⊢
      omega
    · simpa [htp] using hheld
  · have hmem := List.mem_of_mem_erase ht'
    exact (h.cache_mapped henabled hmem).trans (h.mapped t' hmem huse hmap)

/-- A transfer goes on. -/
lemma TransferInv.proceed (h : TransferInv s) (ht : t ∈ s.transfers) (k : PageKernel)
    (halone : MapsAlone s (.proceed t k)) :
    TransferInv
      { cache := { s.cache with
          pool := s.cache.pool.set t.pVideoPageBuffer
            (transferStep k t (s.cache.pool.memory t.pVideoPageBuffer)).2 }
        transfers := (transferStep k t (s.cache.pool.memory t.pVideoPageBuffer)).1 ::
          s.transfers.erase t } := by
  have hlock := h.locked t ht
  have haccounts := transferStep_accounts k (s.cache.pool.memory t.pVideoPageBuffer) hlock
  obtain ⟨hothers, hpairs⟩ := h.exclusive_erase ht
  have hpageLock := h.counted.locked _ (h.outstanding ht).2
  have hunmaps := transferStep_unmaps (k := k) (b := s.cache.pool.memory t.pVideoPageBuffer) hlock
  generalize hb : s.cache.pool.memory t.pVideoPageBuffer = b at *
  refine ⟨?_, fun p => ?_, fun t' ht' hphase => ?_, fun t' ht' huse hmap => ?_, ?_⟩
  · refine PoolInv.remap h.counted ?_
    rwa [hb]
  · have hheld := h.held p
    have hperm := (List.perm_cons_erase ht).countP_eq fun t => t.pVideoPageBuffer = p
    rw [TransferSystem.holders] at hheld ⊢
    rw [hperm, List.countP_cons] at hheld
    rw [List.countP_cons, transferStep_buffer]
    exact hheld
  · rcases List.mem_cons.mp ht' with rfl | ht'
    · by_cases hfound : t.phase = .found
      · simp [transferStep, hfound, hpageLock]
      · rw [(transferStep_flags k b hfound).1]
        exact hlock hfound
    · exact h.locked t' (List.mem_of_mem_erase ht') hphase
  · rcases List.mem_cons.mp ht' with rfl | ht'
    · rw [transferStep_buffer, PagePool.set_self]
      by_cases hfound : t.phase = .found
      · simp only [transferStep, hfound, Bool.not_eq_false'] at hmap ⊢
        exact hmap
      · rw [(transferStep_flags k b hfound).2] at hmap
        have hused := transferStep_inUse hfound huse
        have hbefore := h.mapped t ht hused hmap
        rw [hb] at hbefore
        by_contra hnot
        have hended := hunmaps hbefore (Bool.eq_false_of_not_eq_true hnot)
        rw [hended.2] at hmap
        cases hmap
    · have hmem := List.mem_of_mem_erase ht'
      have hbefore := h.mapped t' hmem huse hmap
      by_cases hsame : t'.pVideoPageBuffer = t.pVideoPageBuffer
      · rw [hsame, PagePool.set_self]
        rw [hsame, hb] at hbefore
        by_contra hnot
        obtain ⟨hended, hdecided⟩ := hunmaps hbefore (Bool.eq_false_of_not_eq_true hnot)
        exact (hothers t' ht' hsame.symm).1 ⟨hdecided, .inr hended⟩ huse
      · rw [PagePool.set_of_ne hsame]
        exact hbefore
  · refine List.pairwise_cons.mpr ⟨fun t' ht' heq => ?_, hpairs⟩
    rw [transferStep_buffer] at heq
    by_cases hfound : t.phase = .found
    · have hnot := halone hfound t' ht' heq.symm
      refine ⟨fun hpending huse => ?_, fun hpending => absurd hpending hnot⟩
      -- A transfer that decides to map has found the list unmapped, so no other one is using it.
      have hunmapped : b.sgMap = false := by
        simpa [transferStep, hfound] using hpending.1
      cases hdecided : t'.mapVideo with
      | true => exact hnot ⟨hdecided, .inl huse⟩
      | false =>
          have hmapped := h.mapped t' (List.mem_of_mem_erase ht') huse hdecided
          rw [← heq, hb, hunmapped] at hmapped
          cases hmapped
    · obtain ⟨hleft, hright⟩ := hothers t' ht' heq
      exact ⟨fun hpending => hleft (transferStep_toUnmap hfound hpending),
        fun hpending huse => hright hpending (transferStep_inUse hfound huse)⟩

/-- Every step whose mapping decision is taken alone keeps the invariant. -/
lemma TransferInv.step (h : TransferInv s) {e : TransferEvent} (he : TransferEnabled s e)
    (halone : MapsAlone s e) : TransferInv (transferSystemStep s e) := by
  cases e with
  | client e => exact h.client he
  | find pVidUserVa videoCardBytes direction => exact h.find pVidUserVa videoCardBytes direction
  | proceed t k =>
      rw [transferSystemStep]
      split_ifs
      · exact h.finish he
      · exact h.proceed he k halone

/-! ### Runs -/

/-- A file is opened, with no transfer. -/
def transferSystemOpen (lockAuto lockMap : Bool) (maxSize : UInt64) : TransferSystem where
  cache := pageCacheOpen lockAuto lockMap maxSize
  transfers := []

lemma transferInv_open (lockAuto lockMap : Bool) (maxSize : UInt64) :
    TransferInv (transferSystemOpen lockAuto lockMap maxSize) where
  counted := (pageInv_open lockAuto lockMap maxSize).counted
  held := fun _ => le_rfl
  locked := by rintro t ⟨⟩
  mapped := by rintro t ⟨⟩
  exclusive := List.Pairwise.nil

/-- **A cached buffer stays mapped while any transfer uses it**, in every run of the cache and of
any number of transfers in which each mapping decision is taken while no other transfer has the
buffer to unmap. -/
theorem buffer_stays_mapped (lockAuto lockMap : Bool) (maxSize : UInt64)
    (hrun : RunsTo transferSystemStep (fun s e => TransferEnabled s e ∧ MapsAlone s e)
      (transferSystemOpen lockAuto lockMap maxSize) s) : BufferStaysMapped s :=
  (hrun.invariant (transferInv_open lockAuto lockMap maxSize)
    fun _ _ he h => h.step he.1 he.2).staysMapped

/-- A buffer is cached without a mapping. -/
def cacheUnmapped : List TransferEvent :=
  [.client (.start (.add 4096 4096 false false)),
    .client (.proceed (.addMissed 4096 4096 false false) pageKernelOne 7),
    .client (.proceed (.addBuilt 7) pageKernelOne 0)]

/-- A transfer of that buffer. -/
def transferOf (mapVideo : Bool) (phase : TransferPhase) : PageTransfer :=
  { PageTransfer.start 4096 4096 .toDevice 7 with mapVideo := mapVideo, phase := phase }

/-- Two transfers find the buffer; the first one maps it, and its DMA ends before the second one
takes its decision. -/
def transferInTurn : List TransferEvent :=
  cacheUnmapped ++ [.find 4096 4096 .toDevice, .find 4096 4096 .toDevice,
    .proceed (transferOf false .found) pageKernelOne,
    .proceed (transferOf true .decided) pageKernelOne,
    .proceed (transferOf true .locked) pageKernelOne,
    .proceed (transferOf true .mapped) pageKernelOne,
    .proceed (transferOf true .running) pageKernelOne]

/-- **The first transfer unmaps the buffer that both hold**, which the second one does not use
yet. -/
theorem buffer_stays_mapped_inTurn : ∃ s, BufferStaysMapped s ∧
    s.transfers = [transferOf true .ended, transferOf false .found] ∧
    (s.cache.pool.memory 7).sgMap = true ∧
    (transferStep pageKernelOne (transferOf true .ended) (s.cache.pool.memory 7)).2.sgMap =
      false := by
  refine ⟨_, buffer_stays_mapped false false 0
    (RunsTo.foldl (show StepsOk _ _ _ transferInTurn from ?_)), ?_⟩ <;> decide +kernel

/-- Two transfers of the buffer: the first one maps it, the second one finds it mapped and is still
running when the first one ends. -/
def transferTwice : List TransferEvent :=
  cacheUnmapped ++ [.find 4096 4096 .toDevice, .find 4096 4096 .toDevice,
    .proceed (transferOf false .found) pageKernelOne,
    .proceed (transferOf true .decided) pageKernelOne,
    .proceed (transferOf true .locked) pageKernelOne,
    .proceed (transferOf false .found) pageKernelOne,
    .proceed (transferOf false .decided) pageKernelOne,
    .proceed (transferOf false .locked) pageKernelOne,
    .proceed (transferOf false .mapped) pageKernelOne,
    .proceed (transferOf true .mapped) pageKernelOne,
    .proceed (transferOf true .running) pageKernelOne]

theorem mapper_unmaps_first :
    ¬ ∀ s, RunsTo transferSystemStep TransferEnabled (transferSystemOpen false false 0) s →
      BufferStaysMapped s := by
  intro h
  have hrun : StepsOk transferSystemStep TransferEnabled (transferSystemOpen false false 0)
      transferTwice := by
    refine ⟨?_, ?_, ?_, ?_, ?_, ?_, ?_, ?_, ?_, ?_, ?_, ?_, ?_, ?_, trivial⟩ <;> decide +kernel
  have hstays := h _ (RunsTo.foldl hrun)
  refine hstays (transferOf true .ended) ?_ pageKernelOne ?_ ?_ (transferOf false .running) ?_ ?_ ?_
    <;> decide +kernel

end LibAjaNtv2
