import Mathlib.Tactic

/-!
The statistics of the shared debug memory and the map of the allocated ones (`debug.cpp`,
`debugshare.h`).

* `AJADebugStat`, `AJADebugShare`: the shared memory, its words from `statAllocMask` on as one
  block;
* `statBitTest`, `statBitSet`, `statBitClear`: the macros, which index `statAllocMask` by
  `inKey / (AJA_DEBUG_MAX_NUM_STATS / 64)`;
* `statAllocate`, `statFree`, `statReset`, `statIsAllocated`, `statGetKeys`: the calls;
* `allocated`: which keys are allocated after some calls;
* `stats_tracked`: **a key is allocated exactly when its bit is set**, whatever the calls;
* `statMap_iff`: **only the mask is written** exactly when no key from 16 on is allocated.
-/

namespace LibAjaNtv2

/-! ### The shared memory -/

/-- `AJA_DEBUG_MAX_NUM_STATS`. -/
def ajaDebugMaxNumStats : ℕ := 256

/-- `AJADebugStat`. -/
structure AJADebugStat where
  fMin : BitVec 32
  fMax : BitVec 32
  fCount : BitVec 32
  fLastTimeStamp : BitVec 64
  fValues : List (BitVec 32)
  deriving DecidableEq, Repr

/-- `AJADebugStat::Reset`. -/
def AJADebugStat.reset : AJADebugStat := ⟨0xFFFFFFFF, 0, 0, 0, List.replicate 11 0⟩

/-- `AJADebugShare`: `words` is the memory from `statAllocMask` to the end of the message ring in
units of 32 bits. -/
structure AJADebugShare where
  statCapacity : ℕ
  statAllocChanges : BitVec 32
  words : ℕ → BitVec 32
  stats : ℕ → AJADebugStat

namespace AJADebugShare

/-- The words of `statAllocMask`, which come first. -/
def maskWords : ℕ := 2 * (ajaDebugMaxNumStats / 64)

/-- `unitArray[i]`, behind the 118 reserved words. -/
def unitArray (s : AJADebugShare) (i : ℕ) : BitVec 32 :=
  s.words (maskWords + (128 - 1 - 1 - 2 * ajaDebugMaxNumStats / 64) + i)

/-- The shared memory as the first client leaves it: zeros, but for the destination of critical
messages, `unitArray[1]`, the console. -/
def initialized : AJADebugShare where
  statCapacity := ajaDebugMaxNumStats
  statAllocChanges := 0
  words := Function.update (fun _ => 0)
    (maskWords + (128 - 1 - 1 - 2 * ajaDebugMaxNumStats / 64) + 1) 2
  stats := fun _ => ⟨0, 0, 0, 0, List.replicate 11 0⟩

/-- `statAllocMask[i]`, the lower half first, also where `i` is past its end. -/
def statAllocMask (s : AJADebugShare) (i : ℕ) : BitVec 64 := s.words (2 * i + 1) ++ s.words (2 * i)

/-- A store to `statAllocMask[i]`. -/
def setStatAllocMask (s : AJADebugShare) (i : ℕ) (v : BitVec 64) : AJADebugShare :=
  { s with
    words := Function.update (Function.update s.words (2 * i) (v.setWidth 32))
      (2 * i + 1) ((v >>> 32).setWidth 32) }

/-- `STAT_BIT_SHIFT`. -/
def statBitShift (inKey : ℕ) : BitVec 64 := 1#64 <<< (inKey % 64)

/-- `STAT_BIT_TEST`. -/
def statBitTest (s : AJADebugShare) (inKey : ℕ) : Bool :=
  s.statAllocMask (inKey / (ajaDebugMaxNumStats / 64)) &&& statBitShift inKey ≠ 0

/-- `STAT_BIT_SET`. -/
def statBitSet (s : AJADebugShare) (inKey : ℕ) : AJADebugShare :=
  s.setStatAllocMask (inKey / (ajaDebugMaxNumStats / 64))
    (s.statAllocMask (inKey / (ajaDebugMaxNumStats / 64)) ||| statBitShift inKey)

/-- `STAT_BIT_CLEAR`. -/
def statBitClear (s : AJADebugShare) (inKey : ℕ) : AJADebugShare :=
  s.setStatAllocMask (inKey / (ajaDebugMaxNumStats / 64))
    (s.statAllocMask (inKey / (ajaDebugMaxNumStats / 64)) &&&
      (0xFFFFFFFFFFFFFFFF - statBitShift inKey))

end AJADebugShare

/-! ### The calls -/

/-- The results of the calls, of the type `AJAStatus`. -/
inductive StatStatus where
  | AJA_STATUS_SUCCESS
  | AJA_STATUS_FAIL
  | AJA_STATUS_RANGE
  | AJA_STATUS_FEATURE
  deriving DecidableEq, Repr

open StatStatus AJADebugShare

/-- `StatReset`. -/
def statReset (s : AJADebugShare) (inKey : ℕ) : StatStatus × AJADebugShare :=
  if s.statCapacity ≤ inKey then (AJA_STATUS_RANGE, s)
  else if !s.statBitTest inKey then (AJA_STATUS_FAIL, s)
  else (AJA_STATUS_SUCCESS, { s with stats := Function.update s.stats inKey .reset })

/-- `StatAllocate`. -/
def statAllocate (s : AJADebugShare) (inKey : ℕ) : StatStatus × AJADebugShare :=
  if s.statCapacity ≤ inKey then (AJA_STATUS_RANGE, s)
  else if s.statBitTest inKey then (AJA_STATUS_FAIL, s)
  else
    let s := s.statBitSet inKey
    statReset { s with statAllocChanges := s.statAllocChanges + 1 } inKey

/-- `StatFree`. -/
def statFree (s : AJADebugShare) (inKey : ℕ) : StatStatus × AJADebugShare :=
  if s.statCapacity ≤ inKey then (AJA_STATUS_RANGE, s)
  else if !s.statBitTest inKey then (AJA_STATUS_FAIL, s)
  else
    let s := (statReset s inKey).2.statBitClear inKey
    (AJA_STATUS_SUCCESS, { s with statAllocChanges := s.statAllocChanges + 1 })

/-- `StatIsAllocated`. -/
def statIsAllocated (s : AJADebugShare) (inKey : ℕ) : Bool :=
  if s.statCapacity ≤ inKey then false
  else if !s.statBitTest inKey then false else true

/-- `StatGetKeys`, with the number of changes of the map. -/
def statGetKeys (s : AJADebugShare) : StatStatus × List ℕ × BitVec 32 :=
  if s.statCapacity = 0 then (AJA_STATUS_FEATURE, [], 0)
  else (AJA_STATUS_SUCCESS, (List.range s.statCapacity).filter s.statBitTest, s.statAllocChanges)

/-- A call that changes the map. -/
inductive StatCall where
  | allocate (inKey : ℕ)
  | free (inKey : ℕ)
  deriving DecidableEq, Repr

/-- What a call does to the shared memory. -/
def statCall (s : AJADebugShare) : StatCall → AJADebugShare
  | .allocate inKey => (statAllocate s inKey).2
  | .free inKey => (statFree s inKey).2

/-- The shared memory after some calls. -/
def statCalls (calls : List StatCall) : AJADebugShare := calls.foldl statCall .initialized

/-! ### What the map is for -/

/-- What a call does to the keys in use, of which there are `ajaDebugMaxNumStats`. -/
def allocatedBy (keys : Finset ℕ) : StatCall → Finset ℕ
  | .allocate inKey => if inKey < ajaDebugMaxNumStats then insert inKey keys else keys
  | .free inKey => keys.erase inKey

/-- The keys allocated and not yet freed. -/
def allocated (calls : List StatCall) : Finset ℕ := calls.foldl allocatedBy ∅

/-- The memory behind the mask is as the first client left it: no reserved word, no destination
of a unit and no message is written. -/
def OnlyMask (s : AJADebugShare) : Prop :=
  ∀ i, maskWords ≤ i → s.words i = AJADebugShare.initialized.words i

/-- The map of the allocated keys: a key is reported and listed exactly when it is allocated and
not yet freed, and up to any of the calls nothing but the mask was written. -/
structure StatMap (calls : List StatCall) : Prop where
  reported : ∀ k, statIsAllocated (statCalls calls) k = true ↔ k ∈ allocated calls
  listed : (statGetKeys (statCalls calls)).2.1 = (allocated calls).sort (· ≤ ·)
  onlyMask : ∀ before, before <+: calls → OnlyMask (statCalls before)

/-! ### One bit -/

/-- The bit of a key. -/
def statBit (s : AJADebugShare) (k : ℕ) : Bool := (s.statAllocMask (k / 4)).getLsbD (k % 64)

lemma statBitShift_eq (k : ℕ) : statBitShift k = BitVec.twoPow 64 (k % 64) := by
  rw [statBitShift, BitVec.twoPow]

/-- `STAT_BIT_TEST` is the bit of the key. -/
lemma statBitTest_eq (s : AJADebugShare) (k : ℕ) : s.statBitTest k = statBit s k := by
  have hlt : k % 64 < 64 := Nat.mod_lt k (by decide)
  have hne : BitVec.twoPow 64 (k % 64) ≠ 0 := by
    intro h
    have hbit := congrArg (BitVec.getLsbD · (k % 64)) h
    simp [hlt] at hbit
  have hword : s.statAllocMask (k / (ajaDebugMaxNumStats / 64)) = s.statAllocMask (k / 4) := rfl
  rw [statBitTest, statBit, statBitShift_eq, BitVec.and_twoPow, hword]
  cases hbit : (s.statAllocMask (k / 4)).getLsbD (k % 64) with
  | false => simp
  | true => simpa using hne

/-- A store to one word of the mask is read back from that word and from no other. -/
lemma statAllocMask_set (s : AJADebugShare) (i j : ℕ) (v : BitVec 64) :
    (s.setStatAllocMask i v).statAllocMask j = if j = i then v else s.statAllocMask j := by
  rw [statAllocMask, setStatAllocMask]
  by_cases h : j = i
  · subst h
    simp only [Function.update_self, if_true]
    rw [Function.update_of_ne (by omega), Function.update_self]
    ext b hb
    rw [BitVec.getElem_append]
    split_ifs with hlow
    · simp [BitVec.getLsbD_eq_getElem hb]
    · simp [show 32 + (b - 32) = b by omega, BitVec.getLsbD_eq_getElem hb]
  · rw [if_neg h]
    dsimp only
    rw [Function.update_of_ne (by omega), Function.update_of_ne (by omega),
      Function.update_of_ne (by omega), Function.update_of_ne (by omega), statAllocMask]

/-- **Each key has a bit of its own**: setting one sets that of its key only. -/
lemma statBit_set (s : AJADebugShare) (k j : ℕ) :
    statBit (s.statBitSet k) j = (decide (j = k) || statBit s j) := by
  have hlt : j % 64 < 64 := Nat.mod_lt j (by decide)
  rw [statBit, statBitSet, statBitShift_eq, statAllocMask_set]
  change (if j / 4 = k / 4 then s.statAllocMask (k / 4) ||| _ else _).getLsbD (j % 64) = _
  by_cases hword : j / 4 = k / 4
  · rw [if_pos hword, BitVec.getLsbD_or, BitVec.getLsbD_twoPow, ← hword, Bool.or_comm]
    have hbit : k % 64 = j % 64 ↔ j = k := by omega
    have hklt : k % 64 < 64 := Nat.mod_lt k (by decide)
    simp [hbit, hlt, hklt, statBit]
  · rw [if_neg hword]
    have hne : j ≠ k := fun h => hword (by rw [h])
    simp [hne, statBit]

/-- Clearing a bit clears that of its key only. -/
lemma statBit_clear (s : AJADebugShare) (k j : ℕ) :
    statBit (s.statBitClear k) j = (!decide (j = k) && statBit s j) := by
  have hlt : j % 64 < 64 := Nat.mod_lt j (by decide)
  have hones : (0xFFFFFFFFFFFFFFFF : BitVec 64) = BitVec.allOnes 64 := rfl
  rw [statBit, statBitClear, statBitShift_eq, statAllocMask_set, hones, BitVec.allOnes_sub_eq_not]
  change (if j / 4 = k / 4 then s.statAllocMask (k / 4) &&& _ else _).getLsbD (j % 64) = _
  by_cases hword : j / 4 = k / 4
  · rw [if_pos hword, BitVec.getLsbD_and, BitVec.getLsbD_not, BitVec.getLsbD_twoPow, ← hword,
      Bool.and_comm]
    have hbit : k % 64 = j % 64 ↔ j = k := by omega
    have hklt : k % 64 < 64 := Nat.mod_lt k (by decide)
    simp [hbit, hlt, hklt, statBit]
  · rw [if_neg hword]
    have hne : j ≠ k := fun h => hword (by rw [h])
    simp [hne, statBit]

lemma statBit_congr {s t : AJADebugShare} (h : s.words = t.words) (k : ℕ) :
    statBit s k = statBit t k := by
  rw [statBit, statBit, statAllocMask, statAllocMask, h]

/-- A store for a key of the first sixteen stays inside the mask. -/
lemma words_setStatAllocMask (s : AJADebugShare) {k i : ℕ} (v : BitVec 64) (hk : k < 16)
    (hi : maskWords ≤ i) : (s.setStatAllocMask (k / 4) v).words i = s.words i := by
  have hmask : 8 ≤ i := hi
  rw [setStatAllocMask]
  dsimp only
  rw [Function.update_of_ne (by omega), Function.update_of_ne (by omega)]

/-! ### What a call does -/

/-- A reset writes no word of the mask. -/
lemma statReset_words (s : AJADebugShare) (k : ℕ) :
    (statReset s k).2.words = s.words ∧ (statReset s k).2.statCapacity = s.statCapacity := by
  rw [statReset]
  split_ifs
  · exact ⟨rfl, rfl⟩
  · exact ⟨rfl, rfl⟩
  · exact ⟨rfl, rfl⟩

/-- An allocation is refused, or it sets the bit of a free key. -/
lemma statAllocate_cases (s : AJADebugShare) (k : ℕ) :
    (s.statCapacity ≤ k ∨ statBit s k = true) ∧ (statAllocate s k).2 = s ∨
      k < s.statCapacity ∧ statBit s k = false ∧
        (statAllocate s k).2.words = (s.statBitSet k).words ∧
        (statAllocate s k).2.statCapacity = s.statCapacity := by
  rw [statAllocate, statBitTest_eq]
  by_cases hcap : s.statCapacity ≤ k
  · rw [if_pos hcap]
    exact .inl ⟨.inl hcap, rfl⟩
  · rw [if_neg hcap]
    cases hbit : statBit s k with
    | true => exact .inl ⟨.inr rfl, rfl⟩
    | false =>
        obtain ⟨hwords, hcapacity⟩ := statReset_words
          { s.statBitSet k with statAllocChanges := (s.statBitSet k).statAllocChanges + 1 } k
        exact .inr ⟨by omega, rfl, hwords, hcapacity⟩

/-- A release is refused, or it clears the bit of an allocated key. -/
lemma statFree_cases (s : AJADebugShare) (k : ℕ) :
    (s.statCapacity ≤ k ∨ statBit s k = false) ∧ (statFree s k).2 = s ∨
      k < s.statCapacity ∧ statBit s k = true ∧
        (statFree s k).2.words = (s.statBitClear k).words ∧
        (statFree s k).2.statCapacity = s.statCapacity := by
  rw [statFree, statBitTest_eq]
  by_cases hcap : s.statCapacity ≤ k
  · rw [if_pos hcap]
    exact .inl ⟨.inl hcap, rfl⟩
  · rw [if_neg hcap]
    cases hbit : statBit s k with
    | false => exact .inl ⟨.inr rfl, rfl⟩
    | true =>
        obtain ⟨hwords, hcapacity⟩ := statReset_words s k
        refine .inr ⟨by omega, rfl, ?_, hcapacity⟩
        change ((statReset s k).2.statBitClear k).words = _
        rw [statBitClear, statBitClear, setStatAllocMask, setStatAllocMask, statAllocMask,
          statAllocMask, hwords]

/-- The bits are those of the keys in use. -/
structure Tracks (s : AJADebugShare) (keys : Finset ℕ) : Prop where
  capacity : s.statCapacity = ajaDebugMaxNumStats
  bits : ∀ k < ajaDebugMaxNumStats, statBit s k = true ↔ k ∈ keys
  inRange : ∀ k ∈ keys, k < ajaDebugMaxNumStats

/-- No key is in use at the start: the one bit that is set behind the mask is that of no key. -/
lemma tracks_initialized : Tracks .initialized ∅ := by
  refine ⟨rfl, fun k hk => ?_, by simp⟩
  have hk' : k < 256 := hk
  have hword : ∀ i, AJADebugShare.initialized.words i = if i = 127 then 2 else 0 := fun i => by
    change Function.update (fun _ => (0 : BitVec 32)) 127 2 i = _
    rw [Function.update_apply]
  have hbit : statBit .initialized k = false := by
    rw [statBit, statAllocMask, hword, hword, if_neg (by omega : ¬ 2 * (k / 4) = 127),
      BitVec.getLsbD_append]
    split_ifs with hlow hlast
    · simp
    · -- the keys of word 63 have bits from 60 on
      have hsecond : (2 : BitVec 32).getLsbD (k % 64 - 32) = decide (k % 64 - 32 = 1) := by
        have h2 : (2 : BitVec 32) = BitVec.twoPow 32 1 := rfl
        rw [h2, BitVec.getLsbD_twoPow]
        simp [eq_comm]
      rw [hsecond]
      simpa using (by omega : k % 64 - 32 ≠ 1)
    · simp
  simp [hbit]

/-- **A call keeps track of the keys.** -/
lemma Tracks.step {s : AJADebugShare} {keys : Finset ℕ} (h : Tracks s keys) (c : StatCall) :
    Tracks (statCall s c) (allocatedBy keys c) := by
  cases c with
  | allocate k =>
      rw [statCall, allocatedBy]
      obtain ⟨hrefused, hs⟩ | ⟨hcap, hbit, hwords, hcapacity⟩ := statAllocate_cases s k
      · rw [hs]
        by_cases hk : k < ajaDebugMaxNumStats
        · rcases hrefused with hcap | hbit
          · rw [h.capacity] at hcap
            omega
          · rw [if_pos hk, Finset.insert_eq_of_mem ((h.bits k hk).mp hbit)]
            exact h
        · rw [if_neg hk]
          exact h
      · rw [h.capacity] at hcap
        rw [if_pos hcap]
        refine ⟨hcapacity.trans h.capacity, fun j hj => ?_, fun j hj => ?_⟩
        · rw [statBit_congr hwords, statBit_set, Bool.or_eq_true, decide_eq_true_eq, h.bits j hj,
            Finset.mem_insert]
        · rcases Finset.mem_insert.mp hj with rfl | hj
          · exact hcap
          · exact h.inRange j hj
  | free k =>
      rw [statCall, allocatedBy]
      obtain ⟨hrefused, hs⟩ | ⟨hcap, hbit, hwords, hcapacity⟩ := statFree_cases s k
      · have hnot : k ∉ keys := by
          intro hmem
          have hk := h.inRange k hmem
          rcases hrefused with hcap | hbit
          · rw [h.capacity] at hcap
            omega
          · rw [(h.bits k hk).mpr hmem] at hbit
            cases hbit
        rw [hs, Finset.erase_eq_of_notMem hnot]
        exact h
      · refine ⟨hcapacity.trans h.capacity, fun j hj => ?_, fun j hj => ?_⟩
        · rw [statBit_congr hwords, statBit_clear, Bool.and_eq_true, h.bits j hj,
            Finset.mem_erase]
          simp
        · exact h.inRange j (Finset.mem_of_mem_erase hj)

/-- **The calls keep track of the keys**, whatever they are. -/
theorem stats_tracked (calls : List StatCall) :
    Tracks (statCalls calls) (allocated calls) := by
  induction calls using List.reverseRecOn with
  | nil => exact tracks_initialized
  | append_singleton calls c ih =>
      rw [statCalls, allocated, List.foldl_append, List.foldl_append]
      exact ih.step c

/-- A key is reported exactly when it is in use. -/
lemma Tracks.reported {s : AJADebugShare} {keys : Finset ℕ} (h : Tracks s keys) (k : ℕ) :
    statIsAllocated s k = true ↔ k ∈ keys := by
  rw [statIsAllocated, statBitTest_eq, h.capacity]
  by_cases hk : k < ajaDebugMaxNumStats
  · rw [if_neg (by omega), ← h.bits k hk]
    cases statBit s k with
    | false => simp
    | true => simp
  · rw [if_pos (by omega)]
    constructor
    · intro hfalse
      cases hfalse
    · intro hmem
      exact absurd (h.inRange k hmem) hk

/-- The keys in use are listed, each once and in order. -/
lemma Tracks.listed {s : AJADebugShare} {keys : Finset ℕ} (h : Tracks s keys) :
    (statGetKeys s).2.1 = keys.sort (· ≤ ·) := by
  have hne : s.statCapacity ≠ 0 := by
    rw [h.capacity]
    decide
  rw [statGetKeys, if_neg hne, h.capacity]
  dsimp only
  have hkeys : keys = ((List.range ajaDebugMaxNumStats).filter s.statBitTest).toFinset := by
    ext k
    rw [List.mem_toFinset, List.mem_filter, List.mem_range, statBitTest_eq]
    constructor
    · intro hmem
      have hk := h.inRange k hmem
      exact ⟨hk, (h.bits k hk).mpr hmem⟩
    · rintro ⟨hk, hbit⟩
      exact (h.bits k hk).mp hbit
  rw [hkeys, eq_comm, List.toFinset_sort (r := (· ≤ ·)) (List.nodup_range.filter _)]
  exact List.pairwise_le_range.filter _

/-! ### Which words are written -/

/-- The keys whose bits are inside the mask, and the keys that are refused. -/
def InsideMask : StatCall → Prop
  | .allocate inKey => inKey < 16 ∨ ajaDebugMaxNumStats ≤ inKey
  | .free _ => True

/-- **A call writes only the mask** while only keys of the first sixteen are in use. -/
lemma OnlyMask.step {s : AJADebugShare} {keys : Finset ℕ} (h : OnlyMask s) (ht : Tracks s keys)
    (hkeys : ∀ k ∈ keys, k < 16) {c : StatCall} (hc : InsideMask c) : OnlyMask (statCall s c) := by
  cases c with
  | allocate k =>
      rw [statCall]
      obtain ⟨-, hs⟩ | ⟨hcap, -, hwords, -⟩ := statAllocate_cases s k
      · rwa [hs]
      · rw [ht.capacity] at hcap
        have hk : k < 16 := hc.resolve_right (by omega)
        intro i hi
        rw [hwords, ← h i hi]
        exact words_setStatAllocMask s _ hk hi
  | free k =>
      rw [statCall]
      obtain ⟨-, hs⟩ | ⟨hcap, hbit, hwords, -⟩ := statFree_cases s k
      · rwa [hs]
      · rw [ht.capacity] at hcap
        have hk : k < 16 := hkeys k ((ht.bits k hcap).mp hbit)
        intro i hi
        rw [hwords, ← h i hi]
        exact words_setStatAllocMask s _ hk hi

/-- After calls that allocate no other keys, only keys of the first sixteen are in use. -/
lemma allocated_lt {calls : List StatCall} (h : ∀ c ∈ calls, InsideMask c) :
    ∀ k ∈ allocated calls, k < 16 := by
  induction calls using List.reverseRecOn with
  | nil => simp [allocated]
  | append_singleton calls c ih =>
      have hrec := ih fun c' hc' => h c' (List.mem_append_left _ hc')
      have hlast := h c (List.mem_append_right _ (List.mem_singleton_self c))
      have happend : allocated (calls ++ [c]) = allocatedBy (allocated calls) c := by
        rw [allocated, allocated, List.foldl_append, List.foldl_cons, List.foldl_nil]
      rw [happend]
      cases c with
      | allocate key =>
          rw [allocatedBy]
          split_ifs with hkey
          · intro k hk
            rcases Finset.mem_insert.mp hk with rfl | hk
            · exact hlast.resolve_right (by omega)
            · exact hrec k hk
          · exact hrec
      | free key => exact fun k hk => hrec k (Finset.mem_of_mem_erase hk)

/-- Calls that allocate no other keys write only the mask. -/
lemma onlyMask_calls {calls : List StatCall} (h : ∀ c ∈ calls, InsideMask c) :
    OnlyMask (statCalls calls) := by
  induction calls using List.reverseRecOn with
  | nil => exact fun i _ => rfl
  | append_singleton calls c ih =>
      have hbefore : ∀ c' ∈ calls, InsideMask c' := fun c' hc' => h c' (List.mem_append_left _ hc')
      have hlast := h c (List.mem_append_right _ (List.mem_singleton_self c))
      rw [statCalls, List.foldl_append]
      exact (ih hbefore).step (stats_tracked calls) (allocated_lt hbefore) hlast

/-- **The map of the statistics is kept inside the mask exactly when no key from 16 on is
allocated.** The keys themselves are reported and listed rightly whatever the calls. -/
theorem statMap_iff (calls : List StatCall) :
    StatMap calls ↔
      ∀ k, .allocate k ∈ calls → k < 16 ∨ ajaDebugMaxNumStats ≤ k := by
  have htracks := stats_tracked calls
  constructor
  · intro h k hk
    by_contra hbad
    obtain ⟨hlow, hhigh⟩ := not_or.mp hbad
    obtain ⟨before, after, rfl⟩ := List.append_of_mem hk
    have hprefix : before ++ [.allocate k] <+: before ++ .allocate k :: after :=
      ⟨after, by simp⟩
    have honly := h.onlyMask _ hprefix
    have ht := stats_tracked (before ++ [.allocate k])
    -- the key has its bit now, which is in a word behind the mask
    have hset : statBit (statCalls (before ++ [.allocate k])) k = true := by
      rw [ht.bits k (by omega), allocated, List.foldl_append]
      change k ∈ allocatedBy _ (.allocate k)
      rw [allocatedBy, if_pos (by omega)]
      exact Finset.mem_insert_self k _
    have hfresh := (tracks_initialized.bits k (by omega)).not.mpr (Finset.notMem_empty k)
    have hbehind : maskWords ≤ 2 * (k / 4) := by
      change 8 ≤ 2 * (k / 4)
      omega
    rw [statBit, statAllocMask, honly _ hbehind, honly _ (by omega)] at hset
    exact hfresh hset
  · intro h
    have hinside : ∀ c ∈ calls, InsideMask c := by
      intro c hc
      cases c with
      | allocate k => exact h k hc
      | free k => exact trivial
    refine ⟨htracks.reported, htracks.listed, fun before hbefore => onlyMask_calls fun c hc => ?_⟩
    exact hinside c (hbefore.subset hc)

/-- Allocating key 253 writes the destination of critical messages. -/
theorem statAllocate_writes_unitArray :
    ¬ StatMap [.allocate 253] ∧
      AJADebugShare.initialized.unitArray 1 = 2 ∧
      (statCalls [.allocate 253]).unitArray 1 = 0x20000002 := by
  refine ⟨fun h => ?_, by decide, by decide⟩
  have honly := h.onlyMask [.allocate 253] List.prefix_rfl 127 (by decide)
  revert honly
  decide

end LibAjaNtv2
