import LibAjaNtv2.DisplayId.Walkers

/-!
The short audio descriptors of an extension (`ntv2displayid.c`).

* `descriptorSlots`, `blockDescriptors`, `formatDescriptors`: the descriptors of a block, and of all;
* `Reads.find_descriptor`: the search in one block;
* `Reads.audio_index`: the search, which counts anew in each block;
* `Reads.audio_from`: the channels of the LPCM descriptors;
* `countsAcrossBlocks_iff`: **when the search counts across the blocks**: where one alone has
  descriptors.
-/

namespace LibAjaNtv2

/-! ### Descriptors -/

/-- The positions of the descriptors of the audio block at a position. -/
def descriptorSlots (ext : ℕ → Byte) (p : ℕ) : List ℕ :=
  List.range' (p + 1) (headerLength ext p / 3) 3

/-- The descriptor at a position is one of a format. -/
def isDescriptorOf (ext : ℕ → Byte) (format : Ntv2Cea861AudioFormat) (q : ℕ) : Bool :=
  format = .wildcard ∨ q < 128 ∧ Ntv2Cea861AudioFormat.ofByte (ext q) = format

/-- The descriptors of a format in one block. -/
def blockDescriptors (ext : ℕ → Byte) (format : Ntv2Cea861AudioFormat) (p : ℕ) : List ℕ :=
  (descriptorSlots ext p).filter (isDescriptorOf ext format)

/-- The audio blocks. -/
def audioBlocks (ext : ℕ → Byte) : List ℕ := blocksOf ext .audio extendedTagReserved255

/-- The descriptors of a format, over all audio blocks in order. -/
def formatDescriptors (ext : ℕ → Byte) (format : Ntv2Cea861AudioFormat) : List ℕ :=
  (audioBlocks ext).flatMap (blockDescriptors ext format)

/-- The number of channels of a descriptor. -/
def descriptorChannels (ext : ℕ → Byte) (q : ℕ) : ℕ := (ext q &&& 0x07).toNat + 1

/-- A block has ten descriptors at most. -/
lemma length_blockDescriptors_le (ext : ℕ → Byte) (format : Ntv2Cea861AudioFormat) (p : ℕ) :
    (blockDescriptors ext format p).length ≤ 10 := by
  have hlen := headerLength_lt ext p
  calc (blockDescriptors ext format p).length
      ≤ (descriptorSlots ext p).length := List.length_filter_le _ _
    _ = headerLength ext p / 3 := List.length_range'
    _ ≤ 10 := by omega

lemma blockDescriptors_wildcard (ext : ℕ → Byte) (p : ℕ) :
    blockDescriptors ext .wildcard p = descriptorSlots ext p :=
  List.filter_eq_self.mpr fun _ _ => decide_eq_true (.inl rfl)

namespace Ntv2Displayid

variable {did : Ntv2Displayid} {base ext : ℕ → Byte} {format : Ntv2Cea861AudioFormat} {inst : ℕ}

/-! ### The search -/

/-- What the search for the descriptor of a number ends with, over the descriptors at some positions:
it fails where it has to read one outside of the extension. -/
def searchOutcome (ext : ℕ → Byte) (format : Ntv2Cea861AudioFormat) (slots : List ℕ) (k : ℕ) :
    Option (Option ℕ) :=
  match (slots.filter (isDescriptorOf ext format))[k]? with
  | some i => some (some i)
  | none => if format = .wildcard ∨ ∀ i ∈ slots, i < 128 then some none else none

/-- A descriptor that can be read leaves the rest to decide. -/
lemma inside_cons_iff {q : ℕ} {slots : List ℕ} (hq : format = .wildcard ∨ q < 128) :
    (format = .wildcard ∨ ∀ i ∈ q :: slots, i < 128) ↔
      (format = .wildcard ∨ ∀ i ∈ slots, i < 128) := by
  rw [List.forall_mem_cons]
  tauto

/-- A descriptor of another format is passed. -/
lemma searchOutcome_other {q k : ℕ} {slots : List ℕ} (hq : q < 128)
    (hdesc : isDescriptorOf ext format q = false) :
    searchOutcome ext format (q :: slots) k = searchOutcome ext format slots k := by
  rw [searchOutcome, searchOutcome, List.filter_cons_of_neg (by simp [hdesc]),
    if_congr (inside_cons_iff (.inr hq)) rfl rfl]

/-- A descriptor of the format is counted. -/
lemma searchOutcome_succ {q k : ℕ} {slots : List ℕ} (hq : format = .wildcard ∨ q < 128)
    (hdesc : isDescriptorOf ext format q = true) :
    searchOutcome ext format (q :: slots) (k + 1) = searchOutcome ext format slots k := by
  rw [searchOutcome, searchOutcome, List.filter_cons_of_pos hdesc, List.getElem?_cons_succ,
    if_congr (inside_cons_iff hq) rfl rfl]

lemma searchOutcome_zero {q : ℕ} {slots : List ℕ} (hdesc : isDescriptorOf ext format q = true) :
    searchOutcome ext format (q :: slots) 0 = some (some q) := by
  rw [searchOutcome, List.filter_cons_of_pos hdesc]
  rfl

/-- From a descriptor outside of the extension on, there is nothing to find. -/
lemma searchOutcome_outside {q n k : ℕ} (hwild : format ≠ .wildcard) (hq : 128 ≤ q) :
    searchOutcome ext format (List.range' q (n + 1) 3) k = none := by
  have hnone : (List.range' q (n + 1) 3).filter (isDescriptorOf ext format) = [] := by
    refine List.filter_eq_nil_iff.mpr fun i hi hdesc => ?_
    obtain ⟨j, -, rfl⟩ := List.mem_range'.mp hi
    rcases of_decide_eq_true hdesc with hw | ⟨hlt, -⟩
    · exact hwild hw
    · omega
  rw [searchOutcome, hnone, List.getElem?_nil]
  simp only
  rw [if_neg]
  rintro (hw | hall)
  · exact hwild hw
  · have := hall q (List.range'_succ ▸ List.mem_cons_self)
    omega

/-- The search in one block, with some matches counted before. -/
lemma Reads.find_descriptor_from (h : did.Reads base ext) (n q : ℕ) {count : ℕ}
    (hcount : count ≤ inst) :
    did.findAudioDescriptor 1 format inst n q count =
      searchOutcome ext format (List.range' q n 3) (inst - count) := by
  induction n generalizing q count with
  | zero =>
      rw [findAudioDescriptor, List.range'_zero, searchOutcome, List.filter_nil, List.getElem?_nil]
      simp
  | succ n ih =>
      rw [findAudioDescriptor]
      -- a match is the one that is looked for, or it is counted
      have hmatch (hq : format = .wildcard ∨ q < 128) (hdesc : isDescriptorOf ext format q = true) :
          (if count = inst then some (some q)
            else did.findAudioDescriptor 1 format inst n (q + 3) (count + 1)) =
          searchOutcome ext format (List.range' q (n + 1) 3) (inst - count) := by
        rw [List.range'_succ]
        by_cases hfound : count = inst
        · rw [if_pos hfound, hfound, Nat.sub_self, searchOutcome_zero hdesc]
        · rw [if_neg hfound, ih (q + 3) (by omega),
            show inst - count = inst - (count + 1) + 1 by omega, searchOutcome_succ hq hdesc]
      by_cases hwild : format = .wildcard
      · rw [if_pos hwild]
        exact hmatch (.inl hwild) (decide_eq_true (.inl hwild))
      · rw [if_neg hwild, h.register q]
        by_cases hq : q < 128
        · rw [if_pos hq]
          simp only
          by_cases hformat : Ntv2Cea861AudioFormat.ofByte (ext q) = format
          · rw [if_pos hformat]
            exact hmatch (.inr hq) (decide_eq_true (.inr ⟨hq, hformat⟩))
          · have hother : isDescriptorOf ext format q = false :=
              decide_eq_false fun hdesc => hdesc.elim hwild fun hand => hformat hand.2
            rw [if_neg hformat, List.range'_succ, searchOutcome_other hq hother, ih (q + 3) hcount]
        · rw [if_neg hq, searchOutcome_outside hwild (not_lt.mp hq)]

lemma Reads.find_descriptor (h : did.Reads base ext) (p : ℕ) :
    did.findAudioDescriptor 1 format inst (headerLength ext p / 3) (p + 1) 0 =
      searchOutcome ext format (descriptorSlots ext p) inst :=
  h.find_descriptor_from _ _ (Nat.zero_le inst)

/-- The descriptors of the audio blocks are inside of the extension. -/
def DescriptorsInside (ext : ℕ → Byte) : Prop :=
  ∀ p ∈ audioBlocks ext, ∀ q ∈ descriptorSlots ext p, q < 128

lemma audioBlocks_inside {p : ℕ} (hp : p ∈ audioBlocks ext) : 4 ≤ p ∧ p < 128 :=
  dataBlocks_inside (List.mem_filter.mp hp).1

/-- The search from an instance of the audio blocks on. -/
lemma Reads.audio_index_from (h : did.Reads base ext) (hinside : CollectionInside ext)
    (hdesc : DescriptorsInside ext) (rounds dbInst : ℕ)
    (hrounds : (audioBlocks ext).length < dbInst + rounds) :
    did.getIndexForAudioDescriptorFrom 1 format inst rounds dbInst =
      some ((((audioBlocks ext).drop dbInst).findSome? fun p =>
        (blockDescriptors ext format p)[inst]?).getD 0) := by
  induction rounds generalizing dbInst with
  | zero =>
      rw [getIndexForAudioDescriptorFrom, List.drop_eq_nil_of_le (by omega)]
      rfl
  | succ rounds ih =>
      rw [getIndexForAudioDescriptorFrom, h.index_eq]
      by_cases hlt : dbInst < (audioBlocks ext).length
      · have hget := List.getElem?_eq_getElem hlt
        have hdrop := List.drop_eq_getElem_cons hlt
        generalize hp : (audioBlocks ext)[dbInst] = p at hget hdrop
        have hmem : p ∈ audioBlocks ext := hp ▸ List.getElem_mem hlt
        have hpos := (audioBlocks_inside hmem).1
        rw [audioBlocks] at hget
        rw [hget, hdrop, List.findSome?_cons]
        simp only
        rw [if_neg (by omega), h.find_descriptor p, searchOutcome, ← blockDescriptors]
        cases hfound : (blockDescriptors ext format p)[inst]? with
        | some i => rfl
        | none =>
            simp only
            rw [if_pos (.inr (hdesc p hmem))]
            exact ih (dbInst + 1) (by omega)
      · have hget : (blocksOf ext .audio extendedTagReserved255)[dbInst]? = none :=
          List.getElem?_eq_none_iff.mpr (not_lt.mp hlt)
        rw [hget, List.drop_eq_nil_of_le (not_lt.mp hlt)]
        simp only
        rw [if_pos hinside]
        rfl

/-- **The search counts anew in each block**: it finds the descriptor of that number in the first
block that has so many. -/
lemma Reads.audio_index (h : did.Reads base ext) (hinside : CollectionInside ext)
    (hdesc : DescriptorsInside ext) :
    did.getIndexForAudioDescriptor 1 format inst =
      some (((audioBlocks ext).findSome? fun p =>
        (blockDescriptors ext format p)[inst]?).getD 0) := by
  have hlen := length_blocksOf_le ext .audio extendedTagReserved255
  rw [getIndexForAudioDescriptor, if_neg (by omega),
    h.audio_index_from hinside hdesc 254 0 (by rw [audioBlocks]; omega), List.drop_zero]

/-- A search that finds nothing and does not fail has read all the blocks. -/
lemma Reads.audio_index_past (h : did.Reads base ext) (hinst : 10 ≤ inst) (rounds dbInst i : ℕ)
    (hle : dbInst ≤ (audioBlocks ext).length)
    (hrounds : (audioBlocks ext).length < dbInst + rounds)
    (hsome : did.getIndexForAudioDescriptorFrom 1 format inst rounds dbInst = some i) :
    CollectionInside ext ∧ ∀ p ∈ (audioBlocks ext).drop dbInst,
      format = .wildcard ∨ ∀ q ∈ descriptorSlots ext p, q < 128 := by
  induction rounds generalizing dbInst with
  | zero => omega
  | succ rounds ih =>
      rw [getIndexForAudioDescriptorFrom, h.index_eq] at hsome
      by_cases hlt : dbInst < (audioBlocks ext).length
      · have hget := List.getElem?_eq_getElem hlt
        have hdrop := List.drop_eq_getElem_cons hlt
        generalize hp : (audioBlocks ext)[dbInst] = p at hget hdrop
        have hpos := (audioBlocks_inside (hp ▸ List.getElem_mem hlt : p ∈ audioBlocks ext)).1
        have hnone : (blockDescriptors ext format p)[inst]? = none := by
          have := length_blockDescriptors_le ext format p
          exact List.getElem?_eq_none_iff.mpr (by omega)
        rw [audioBlocks] at hget
        rw [hget] at hsome
        simp only at hsome
        rw [if_neg (by omega), h.find_descriptor p, searchOutcome, ← blockDescriptors,
          hnone] at hsome
        by_cases hread : format = .wildcard ∨ ∀ q ∈ descriptorSlots ext p, q < 128
        · simp only [if_pos hread] at hsome
          obtain ⟨hinside, hrest⟩ := ih (dbInst + 1) (by omega) (by omega) hsome
          refine ⟨hinside, ?_⟩
          rw [hdrop, List.forall_mem_cons]
          exact ⟨hread, hrest⟩
        · simp only [if_neg hread] at hsome
          cases hsome
      · have hget : (blocksOf ext .audio extendedTagReserved255)[dbInst]? = none :=
          List.getElem?_eq_none_iff.mpr (not_lt.mp hlt)
        rw [hget] at hsome
        rw [List.drop_eq_nil_of_le (not_lt.mp hlt)]
        refine ⟨?_, by simp⟩
        by_contra hinside
        simp only [if_neg hinside] at hsome
        cases hsome

/-! ### The channels -/

lemma isDescriptorOf_iff {q : ℕ} (hwild : format ≠ .wildcard) :
    isDescriptorOf ext format q = true ↔
      q < 128 ∧ Ntv2Cea861AudioFormat.ofByte (ext q) = format := by
  rw [isDescriptorOf, decide_eq_true_iff, or_iff_right hwild]

/-- A descriptor is behind the first bytes of the extension. -/
lemma pos_of_mem_formatDescriptors {q : ℕ} (hq : q ∈ formatDescriptors ext format) :
    0 < q ∧ isDescriptorOf ext format q = true := by
  obtain ⟨p, -, hq⟩ := List.mem_flatMap.mp hq
  obtain ⟨hslot, hdesc⟩ := List.mem_filter.mp hq
  obtain ⟨j, -, rfl⟩ := List.mem_range'.mp hslot
  exact ⟨by omega, hdesc⟩

/-- A descriptor that is found is read. -/
lemma Reads.audio_descriptor (h : did.Reads base ext) {q : ℕ} (hpos : 0 < q) (hq : q < 128)
    (hindex : did.getIndexForAudioDescriptor 1 format inst = some q) (bytes : ℕ → Byte)
    (descriptor : Ntv2DisplayidAudioFormat) :
    ∃ d, did.getAudioDescriptor bytes 1 format inst descriptor = some d ∧
      d.audioFormat = Ntv2Cea861AudioFormat.ofByte (ext q) ∧
      d.numChannels = descriptorChannels ext q := by
  simp only [getAudioDescriptor, if_neg one_ne_zero, hindex, Option.bind_eq_bind, Option.bind_some,
    if_neg hpos.ne', h.three_registers hq bytes]
  refine ⟨_, rfl, ?_, ?_⟩
  · simp only [Nat.add_zero, hq, and_true, Nat.zero_lt_succ, if_true]
  · simp only [Nat.add_zero, hq, and_true, Nat.zero_lt_succ, if_true, descriptorChannels]

/-- The channel count that the status keeps. -/
def withChannels (a : Ntv2DisplayidAudio) (n : ℕ) : Ntv2DisplayidAudio :=
  { a with numLpcmChannels := n }

/-- The loop over the LPCM descriptors keeps the largest number of channels, where the search
numbers them across the blocks. -/
lemma Reads.audio_from (h : did.Reads base ext) (uninit : Uninitialised)
    (hindex : ∀ inst < 256, did.getIndexForAudioDescriptor 1 .lpcm inst =
      some ((formatDescriptors ext .lpcm)[inst]?.getD 0))
    (hlen : (formatDescriptors ext .lpcm).length ≤ 255) (rounds inst : ℕ)
    (hrounds : rounds + inst = 255) (a : Ntv2DisplayidAudio) :
    did.getAudioStatusFrom uninit 1 rounds inst a =
      (.ok (), withChannels a ((((formatDescriptors ext .lpcm).drop inst).map
        (descriptorChannels ext)).foldl max a.numLpcmChannels)) := by
  induction rounds generalizing inst a with
  | zero =>
      rw [List.drop_eq_nil_of_le (by omega)]
      rfl
  | succ rounds ih =>
      rw [getAudioStatusFrom]
      by_cases hlt : inst < (formatDescriptors ext .lpcm).length
      · have hget := List.getElem?_eq_getElem hlt
        have hdrop := List.drop_eq_getElem_cons hlt
        generalize hq : (formatDescriptors ext .lpcm)[inst] = q at hget hdrop
        obtain ⟨hpos, hdesc⟩ := pos_of_mem_formatDescriptors (hq ▸ List.getElem_mem hlt)
        obtain ⟨hq128, hformat⟩ := (isDescriptorOf_iff (by decide)).mp hdesc
        have hfound : did.getIndexForAudioDescriptor 1 .lpcm inst = some q := by
          rw [hindex inst (by omega), hget, Option.getD_some]
        obtain ⟨d, hd, haudio, hchannels⟩ :=
          h.audio_descriptor hpos hq128 hfound (uninit.bytes inst) {}
        rw [hd, Attempt.bind_ok Attempt.option_some,
          if_neg (not_not.mpr (haudio.trans hformat)), Attempt.modify_bind,
          ih (inst + 1) (by omega), hdrop, List.map_cons, List.foldl_cons, hchannels]
        by_cases hmax : a.numLpcmChannels < descriptorChannels ext q
        · rw [if_pos hmax, max_eq_right hmax.le]
          rfl
        · rw [if_neg hmax, max_eq_left (not_lt.mp hmax)]
      · have hnone : (formatDescriptors ext .lpcm)[inst]? = none :=
          List.getElem?_eq_none_iff.mpr (not_lt.mp hlt)
        have hindex := hindex inst (by omega)
        rw [hnone, Option.getD_none] at hindex
        rw [List.drop_eq_nil_of_le (not_lt.mp hlt)]
        simp only [getAudioDescriptor, if_neg one_ne_zero, hindex, Option.bind_eq_bind,
          Option.bind_some, if_true]
        rfl

/-- The extension is one of an HDMI sink with basic audio. -/
structure BasicAudio (base ext : ℕ → Byte) : Prop extends HdmiExtension base ext where
  basic : ext 3 &&& 0x40 ≠ 0

/-- The search for a descriptor counts across the blocks, and the status has the channels of all LPCM
descriptors. -/
structure CountsAcrossBlocks (did : Ntv2Displayid) (base ext : ℕ → Byte) (uninit : Uninitialised) :
    Prop where
  index : ∀ format, ∀ inst < 256, did.getIndexForAudioDescriptor 1 format inst =
    some ((formatDescriptors ext format)[inst]?.getD 0)
  channels : BasicAudio base ext → ∀ a,
    (did.getAudioStatus uninit a).1 = .ok () ∧
      (did.getAudioStatus uninit a).2.numLpcmChannels =
        ((formatDescriptors ext .lpcm).map (descriptorChannels ext)).foldl max 2

/-- The audio blocks can be counted one by one: all is inside of the extension, and one of them
alone has descriptors. -/
structure AudioCountable (ext : ℕ → Byte) : Prop where
  inside : CollectionInside ext
  descriptors : DescriptorsInside ext
  single : ((audioBlocks ext).filter fun p => decide (3 ≤ headerLength ext p)).length ≤ 1

/-- The status with basic audio. -/
lemma Reads.audio_status (h : did.Reads base ext) (hbasic : BasicAudio base ext)
    (uninit : Uninitialised) (a : Ntv2DisplayidAudio) :
    did.getAudioStatus uninit a = did.getAudioStatusFrom uninit 1 255 0
      { protocol := .hdmi, basicAudio := true, numLpcmChannels := 2 } := by
  have hglobal : ∀ a, did.getGlobalAudioStatus 1 a = (.ok (), { a with basicAudio := true }) := by
    intro a
    rw [getGlobalAudioStatus, Attempt.require_bind one_ne_zero,
      Attempt.bind_ok (by rw [h.reg, if_pos (by omega)]), Attempt.modify, decide_eq_true hbasic.basic]
  rw [getAudioStatus, Attempt.modify_bind, h.protocol hbasic.toHdmiExtension,
    Attempt.bind_ok Attempt.option_some, Attempt.modify_bind, if_pos rfl,
    h.block_number hbasic.toHdmiExtension, Attempt.bind_ok Attempt.option_some,
    if_neg one_ne_zero, Attempt.bind_ok (hglobal _)]
  rfl

/-- Blocks with a descriptor of some format are blocks with a descriptor. -/
lemma length_filter_descriptors_le (ext : ℕ → Byte) (format : Ntv2Cea861AudioFormat) (l : List ℕ) :
    (l.filter fun p => !(blockDescriptors ext format p).isEmpty).length ≤
      (l.filter fun p => decide (3 ≤ headerLength ext p)).length := by
  rw [← List.countP_eq_length_filter, ← List.countP_eq_length_filter]
  refine List.countP_mono_left fun p _ hp => decide_eq_true ?_
  by_contra hlt
  have hzero : headerLength ext p / 3 = 0 := by omega
  rw [blockDescriptors, descriptorSlots, hzero] at hp
  simp at hp

/-- Blocks with a descriptor are those of three bytes or more. -/
lemma filter_wildcard (ext : ℕ → Byte) (l : List ℕ) :
    (l.filter fun p => !(blockDescriptors ext .wildcard p).isEmpty) =
      l.filter fun p => decide (3 ≤ headerLength ext p) := by
  refine List.filter_congr fun p _ => ?_
  rw [blockDescriptors_wildcard, descriptorSlots]
  by_cases hlen : 3 ≤ headerLength ext p
  · obtain ⟨n, hn⟩ : ∃ n, headerLength ext p / 3 = n + 1 := ⟨headerLength ext p / 3 - 1, by omega⟩
    rw [hn, List.range'_succ, decide_eq_true hlen]
    rfl
  · rw [show headerLength ext p / 3 = 0 by omega, decide_eq_false hlen]
    rfl

/-- The first descriptor of a block is not one of a later number in a block from there on. -/
lemma findSome_slots_ne (ext : ℕ → Byte) {b k : ℕ} (hk : 0 < k) (l : List ℕ)
    (hl : ∀ c ∈ l, b ≤ c) :
    (l.findSome? fun p => (blockDescriptors ext .wildcard p)[k]?).getD 0 ≠ b + 1 := by
  intro heq
  cases hfound : l.findSome? fun p => (blockDescriptors ext .wildcard p)[k]? with
  | none =>
      rw [hfound, Option.getD_none] at heq
      omega
  | some x =>
      obtain ⟨l₁, c, l₂, rfl, hc, -⟩ := List.findSome?_eq_some_iff.mp hfound
      have hle := hl c (List.mem_append_right _ List.mem_cons_self)
      rw [hfound, Option.getD_some] at heq
      rw [blockDescriptors_wildcard, descriptorSlots] at hc
      have hlt : k < headerLength ext c / 3 := by
        have := (List.getElem?_eq_some_iff.mp hc).1
        rwa [List.length_range'] at this
      rw [List.getElem?_range' hlt, Option.some.injEq] at hc
      omega

/-- Of two blocks with descriptors, the search misses the first descriptor of the second. -/
lemma single_of_index (ext : ℕ → Byte)
    (hindex : ∀ k < 256, ((audioBlocks ext).findSome? fun p =>
        (blockDescriptors ext .wildcard p)[k]?).getD 0 =
      (formatDescriptors ext .wildcard)[k]?.getD 0) :
    ((audioBlocks ext).filter fun p => decide (3 ≤ headerLength ext p)).length ≤ 1 := by
  rw [← filter_wildcard]
  have hsorted : ((audioBlocks ext).filter
      fun p => !(blockDescriptors ext .wildcard p).isEmpty).Pairwise (· < ·) :=
    (pairwise_hops.filter _).filter _
  have hfound : ∀ k, ((audioBlocks ext).findSome? fun p =>
      (blockDescriptors ext .wildcard p)[k]?) =
      ((audioBlocks ext).filter fun p =>
        !(blockDescriptors ext .wildcard p).isEmpty).findSome? fun p =>
          (blockDescriptors ext .wildcard p)[k]? := fun k => (findSome_filter_nonempty k).symm
  have hflat : formatDescriptors ext .wildcard = ((audioBlocks ext).filter fun p =>
        !(blockDescriptors ext .wildcard p).isEmpty).flatMap (blockDescriptors ext .wildcard) :=
    flatMap_filter_nonempty.symm
  have hnonempty : ∀ p ∈ (audioBlocks ext).filter fun p =>
      !(blockDescriptors ext .wildcard p).isEmpty, blockDescriptors ext .wildcard p ≠ [] := by
    intro p hp
    simpa using (List.mem_filter.mp hp).2
  simp only [hfound, hflat] at hindex
  rcases hl : (audioBlocks ext).filter (fun p => !(blockDescriptors ext .wildcard p).isEmpty)
    with _ | ⟨a, _ | ⟨b, rest⟩⟩
  · exact Nat.zero_le _
  · exact le_rfl
  · exfalso
    rw [hl] at hindex hsorted hnonempty
    have hle := length_blockDescriptors_le ext .wildcard a
    have ha := hnonempty a List.mem_cons_self
    have hb := hnonempty b (List.mem_cons_of_mem _ List.mem_cons_self)
    have hk := hindex (blockDescriptors ext .wildcard a).length (by omega)
    have hpos : 0 < (blockDescriptors ext .wildcard a).length :=
      List.length_pos_iff.mpr (hnonempty a List.mem_cons_self)
    have hfirst : (blockDescriptors ext .wildcard b)[0]? = some (b + 1) := by
      rw [blockDescriptors_wildcard, descriptorSlots] at hb ⊢
      rw [ne_eq, List.range'_eq_nil_iff] at hb
      exact List.getElem?_range' (Nat.pos_of_ne_zero hb)
    have hlater : ∀ c ∈ b :: rest, b ≤ c := by
      rw [List.forall_mem_cons]
      have hrest := (List.pairwise_cons.mp (List.pairwise_cons.mp hsorted).2).1
      exact ⟨le_rfl, fun c hc => (hrest c hc).le⟩
    refine findSome_slots_ne ext hpos (b :: rest) hlater ?_
    rw [List.findSome?_cons, List.getElem?_eq_none le_rfl] at hk
    rw [hk, List.flatMap_cons, List.flatMap_cons, List.getElem?_append_right le_rfl, Nat.sub_self,
      List.getElem?_append_left (List.length_pos_iff.mpr hb), hfirst, Option.getD_some]

end Ntv2Displayid

/-- **The search for a descriptor counts across the blocks** where all is inside of the extension,
and one audio block alone has descriptors. -/
theorem Ntv2Displayid.countsAcrossBlocks_iff {did : Ntv2Displayid} {base ext : ℕ → Byte}
    (h : did.Reads base ext) (uninit : Uninitialised) :
    did.CountsAcrossBlocks base ext uninit ↔ AudioCountable ext := by
  constructor
  · intro hcounts
    have hlen := length_blocksOf_le ext .audio extendedTagReserved255
    have hlpcm := hcounts.index .lpcm 255 (by omega)
    rw [getIndexForAudioDescriptor, if_neg (by omega)] at hlpcm
    obtain ⟨hinside, hall⟩ := h.audio_index_past (by omega) 254 0 _ (Nat.zero_le _)
      (by rw [audioBlocks]; omega) hlpcm
    have hdesc : DescriptorsInside ext := fun p hp =>
      (hall p (by rwa [List.drop_zero])).resolve_left (by decide)
    refine ⟨hinside, hdesc, single_of_index ext fun k hk => ?_⟩
    have hk' := hcounts.index .wildcard k hk
    rwa [h.audio_index hinside hdesc, Option.some.injEq] at hk'
  · intro hcountable
    have hparts : ∀ format, ((audioBlocks ext).filter fun p =>
        !(blockDescriptors ext format p).isEmpty).length ≤ 1 := fun format =>
      (length_filter_descriptors_le ext format _).trans hcountable.single
    have hindex : ∀ format inst, did.getIndexForAudioDescriptor 1 format inst =
        some ((formatDescriptors ext format)[inst]?.getD 0) := fun format inst => by
      rw [h.audio_index hcountable.inside hcountable.descriptors,
        findSome_flatMap inst (hparts format), ← formatDescriptors]
    refine ⟨fun format inst _ => hindex format inst, fun hbasic a => ?_⟩
    have hlen : (formatDescriptors ext .lpcm).length ≤ 255 := by
      have hone := hparts .lpcm
      rw [formatDescriptors, ← flatMap_filter_nonempty]
      rcases hl : (audioBlocks ext).filter (fun p => !(blockDescriptors ext .lpcm p).isEmpty)
        with _ | ⟨a, _ | ⟨b, rest⟩⟩
      · exact Nat.zero_le _
      · have hten := length_blockDescriptors_le ext .lpcm a
        rw [List.flatMap_cons, List.flatMap_nil, List.append_nil]
        omega
      · rw [hl, List.length_cons, List.length_cons] at hone
        omega
    rw [h.audio_status hbasic uninit a,
      h.audio_from uninit (fun inst _ => hindex .lpcm inst) hlen 255 0 rfl, List.drop_zero]
    exact ⟨rfl, rfl⟩

/-- Arrays that hold zeros before they are written. -/
def zeroUninit : Uninitialised where
  hdmiRegId _ := 0
  hfRegId _ := 0
  bytes _ _ := 0

/-- An extension with one audio block, of two LPCM descriptors. -/
def extensionAudio : ℕ → Byte :=
  edidBlock [0x02, 0x03, 0x0B, 0x40, 0x26, 0x09, 0x07, 0x07, 0x0F, 0x07, 0x07]

/-- With one audio block, the search counts its descriptors. -/
theorem Ntv2Displayid.countsAcrossBlocks_audio :
    (Ntv2Displayid.ofBlocks baseBlock extensionAudio).CountsAcrossBlocks baseBlock extensionAudio
      zeroUninit := by
  have hdesc : Ntv2Displayid.DescriptorsInside extensionAudio := by
    rw [Ntv2Displayid.DescriptorsInside]
    decide +kernel
  exact (Ntv2Displayid.countsAcrossBlocks_iff
    (Ntv2Displayid.reads_ofBlocks baseBlock extensionAudio) zeroUninit).mpr
      ⟨by decide +kernel, hdesc, by decide +kernel⟩

/-- An extension with two audio blocks, each of one LPCM descriptor, for two channels and for
eight. -/
def extensionTwoAudio : ℕ → Byte :=
  edidBlock [0x02, 0x03, 0x0C, 0x40, 0x23, 0x09, 0x07, 0x07, 0x23, 0x0F, 0x07, 0x07]

/-- With two audio blocks, the second descriptor is not found, and its eight channels are not
reported. -/
theorem Ntv2Displayid.not_countsAcrossBlocks_twoAudio :
    ¬ (Ntv2Displayid.ofBlocks baseBlock extensionTwoAudio).CountsAcrossBlocks baseBlock
      extensionTwoAudio zeroUninit := by
  intro h
  have hbasic : Ntv2Displayid.BasicAudio baseBlock extensionTwoAudio :=
    ⟨⟨by decide, by decide, by decide⟩, by decide⟩
  have hcode : ((Ntv2Displayid.ofBlocks baseBlock extensionTwoAudio).getAudioStatus zeroUninit
      {}).2.numLpcmChannels = 2 := by decide +kernel
  have hclaim : ((formatDescriptors extensionTwoAudio .lpcm).map
      (descriptorChannels extensionTwoAudio)).foldl max 2 = 8 := by decide +kernel
  have := (h.channels hbasic {}).2
  omega

end LibAjaNtv2
