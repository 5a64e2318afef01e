import LibAjaNtv2.DisplayId.Registers
import LibAjaNtv2.Lib.Hops

/-!
The data block collection of a CEA-861 extension, and the search for a block in it.

* `Ntv2Displayid.Reads`: the callback reads a base block and an extension;
* `headerTag`, `headerLength`, `Readable`, `extendedTagAt`: the header at a position;
* `dataBlocks`, `collectionStop`: the blocks that the search passes, and where it stops;
* `blocksOf`: those of a tag;
* `Reads.index_eq`: **the search finds the instances of a tag in their order**, and none
  beyond the last.
-/

namespace LibAjaNtv2

/-- The callback reads a base block and an extension of 128 bytes each. -/
def Ntv2Displayid.Reads (did : Ntv2Displayid) (base ext : ℕ → Byte) : Prop :=
  ∃ callback, did.callback = some callback ∧
    ∀ r < 128, callback 0 r = some (base r) ∧ callback 1 r = some (ext r)

/-- The status of a sink with a base block and an extension. -/
def Ntv2Displayid.ofBlocks (base ext : ℕ → Byte) : Ntv2Displayid :=
  { callback := some fun blockNum regNum => some (if blockNum = 0 then base regNum else ext regNum) }

lemma Ntv2Displayid.reads_ofBlocks (base ext : ℕ → Byte) : (ofBlocks base ext).Reads base ext :=
  ⟨_, rfl, fun _ _ => ⟨rfl, rfl⟩⟩

/-- A block of 128 bytes, of its first ones and zeros. -/
def edidBlock (bytes : List Byte) (r : ℕ) : Byte := bytes[r]?.getD 0

/-- A base block that announces an extension. -/
def baseBlock (r : ℕ) : Byte := if r = 0x7E then 1 else 0

/-! ### Headers -/

/-- The tag of the header at a position. -/
def headerTag (ext : ℕ → Byte) (p : ℕ) : Ntv2Cea861DatablockTag := .ofHeader (ext p)

/-- The number of bytes that follow the header at a position. -/
def headerLength (ext : ℕ → Byte) (p : ℕ) : ℕ := (ext p &&& 0x1F).toNat

/-- The header has a second byte, for its extended tag. -/
def HasExtendedTag (ext : ℕ → Byte) (p : ℕ) : Prop :=
  headerTag ext p = .extended ∧ 0 < headerLength ext p

instance (ext : ℕ → Byte) : DecidablePred (HasExtendedTag ext) :=
  fun p => inferInstanceAs (Decidable (headerTag ext p = .extended ∧ 0 < headerLength ext p))

/-- The header is inside of the extension. -/
def Readable (ext : ℕ → Byte) (p : ℕ) : Prop := p < 128 ∧ (HasExtendedTag ext p → p + 1 < 128)

instance (ext : ℕ → Byte) : DecidablePred (Readable ext) :=
  fun p => inferInstanceAs (Decidable (p < 128 ∧ (HasExtendedTag ext p → p + 1 < 128)))

/-- The extended tag of the header at a position. -/
def extendedTagAt (ext : ℕ → Byte) (p : ℕ) : Byte :=
  if HasExtendedTag ext p then ext (p + 1) else extendedTagReserved255

lemma headerLength_lt (ext : ℕ → Byte) (p : ℕ) : headerLength ext p < 32 := by
  have h := Nat.and_le_right (n := (ext p).toNat) (m := 0x1F)
  rw [headerLength, BitVec.toNat_and]
  exact Nat.lt_succ_of_le h

/-- The header of the padding. -/
lemma padding_iff {ext : ℕ → Byte} {p : ℕ} :
    headerTag ext p = .reserved0 ∧ headerLength ext p = 0 ↔ ext p = 0 := by
  have h : ∀ b : Byte, Ntv2Cea861DatablockTag.ofHeader b = .reserved0 ∧ (b &&& 0x1F).toNat = 0 ↔
      b = 0 := by decide +kernel
  exact h (ext p)

lemma ne_zero_of_headerLength {ext : ℕ → Byte} {p : ℕ} (h : headerLength ext p ≠ 0) :
    ext p ≠ 0 := fun hzero => h (padding_iff.mpr hzero).2

/-! ### The collection -/

/-- Where the collection ends: at the detailed timings, where there are some. -/
def collectionEnd (ext : ℕ → Byte) : ℕ := if ext 2 = 0 then 126 else (ext 2).toNat

/-- The search goes on from a header. -/
def Passes (ext : ℕ → Byte) (p : ℕ) : Prop := Readable ext p ∧ ext p ≠ 0

instance (ext : ℕ → Byte) : DecidablePred (Passes ext) :=
  fun p => inferInstanceAs (Decidable (Readable ext p ∧ ext p ≠ 0))

/-- The data blocks. -/
def dataBlocks (ext : ℕ → Byte) : List ℕ :=
  hops (headerLength ext) (Passes ext) (collectionEnd ext) 4

/-- Where the search through all of them stops. -/
def collectionStop (ext : ℕ → Byte) : ℕ :=
  landing (headerLength ext) (Passes ext) (collectionEnd ext) 4

/-- The headers of the collection are inside of the extension. -/
def CollectionInside (ext : ℕ → Byte) : Prop :=
  collectionStop ext < collectionEnd ext → Readable ext (collectionStop ext)

instance (ext : ℕ → Byte) : Decidable (CollectionInside ext) :=
  inferInstanceAs
    (Decidable (collectionStop ext < collectionEnd ext → Readable ext (collectionStop ext)))

/-- The block at a position is one of a tag. -/
def isBlockOf (ext : ℕ → Byte) (tag : Ntv2Cea861DatablockTag) (extTag : Byte) (p : ℕ) : Bool :=
  Ntv2Displayid.datablockMatches tag extTag (headerTag ext p) (extendedTagAt ext p)

/-- The data blocks of a tag. -/
def blocksOf (ext : ℕ → Byte) (tag : Ntv2Cea861DatablockTag) (extTag : Byte) : List ℕ :=
  (dataBlocks ext).filter (isBlockOf ext tag extTag)

lemma mem_dataBlocks {ext : ℕ → Byte} {p : ℕ} :
    p ∈ dataBlocks ext ↔
      Hops (headerLength ext) (Passes ext) 4 p ∧ p < collectionEnd ext ∧ Passes ext p := mem_hops

lemma dataBlocks_inside {ext : ℕ → Byte} {p : ℕ} (h : p ∈ dataBlocks ext) : 4 ≤ p ∧ p < 128 := by
  obtain ⟨hway, _, hpass⟩ := mem_dataBlocks.mp h
  exact ⟨hway.le, hpass.1.1⟩

/-- A tag that is not extended is compared alone. -/
lemma isBlockOf_plain {ext : ℕ → Byte} {tag : Ntv2Cea861DatablockTag} {extTag : Byte} {p : ℕ}
    (hwild : tag ≠ .wildcard) (hext : tag ≠ .extended) :
    isBlockOf ext tag extTag p = true ↔ headerTag ext p = tag := by
  rw [isBlockOf, Ntv2Displayid.datablockMatches, if_neg hwild]
  by_cases h : headerTag ext p = tag
  · rw [if_pos h, if_pos (h.trans_ne hext)]
    exact iff_of_true rfl h
  · rw [if_neg h]
    exact iff_of_false (by simp) h

/-- The extended tag is compared where the tag is. -/
lemma isBlockOf_extended {ext : ℕ → Byte} {extTag : Byte} {p : ℕ} :
    isBlockOf ext .extended extTag p = true ↔
      headerTag ext p = .extended ∧ extendedTagAt ext p = extTag := by
  rw [isBlockOf, Ntv2Displayid.datablockMatches, if_neg (by decide)]
  by_cases h : headerTag ext p = .extended
  · rw [if_pos h, if_neg (not_not.mpr h), decide_eq_true_iff]
    exact (and_iff_right h).symm
  · rw [if_neg h]
    exact iff_of_false (by simp) fun hand => h hand.1

/-- There are not more blocks than bytes. -/
lemma length_blocksOf_le (ext : ℕ → Byte) (tag : Ntv2Cea861DatablockTag) (extTag : Byte) :
    (blocksOf ext tag extTag).length ≤ 124 := by
  have hsub : ∀ p ∈ dataBlocks ext, p ∈ Finset.Ico 4 128 := fun p hp =>
    Finset.mem_Ico.mpr (dataBlocks_inside hp)
  have hnodup : (dataBlocks ext).Nodup := pairwise_hops.imp fun h => h.ne
  calc (blocksOf ext tag extTag).length
      ≤ (dataBlocks ext).length := List.length_filter_le _ _
    _ = (dataBlocks ext).toFinset.card := (List.toFinset_card_of_nodup hnodup).symm
    _ ≤ (Finset.Ico 4 128).card :=
        Finset.card_le_card fun p hp => hsub p (List.mem_toFinset.mp hp)
    _ = 124 := by rw [Nat.card_Ico]

namespace Ntv2Displayid

variable {did : Ntv2Displayid} {base ext : ℕ → Byte}

/-! ### Reads -/

/-- A register of the extension. -/
lemma Reads.register (h : did.Reads base ext) (r : ℕ) :
    did.readEdidRegister 1 r = if r < 128 then some (ext r) else none := by
  obtain ⟨callback, hcallback, hreads⟩ := h
  rw [readEdidRegister, if_neg (by omega), hcallback]
  by_cases hr : r < 128
  · rw [if_neg (by omega), if_pos hr]
    exact (hreads r hr).2
  · rw [if_pos (by omega), if_neg hr]

/-- A register of the base block. -/
lemma Reads.base_register (h : did.Reads base ext) {r : ℕ} (hr : r < 128) :
    did.readEdidRegister 0 r = some (base r) := by
  obtain ⟨callback, hcallback, hreads⟩ := h
  rw [readEdidRegister, if_neg (by omega), if_neg (by omega), hcallback]
  exact (hreads r hr).1

/-- Registers in a row: those of the extension are read, the others stay. -/
lemma Reads.registers_from (h : did.Reads base ext) {a last : ℕ} (hlast : last < 128) (i : ℕ)
    (hi : a ≤ i) (data : ℕ → Byte) :
    did.readEdidRegistersFrom 1 a last i data =
      fun j => if i ≤ a + j ∧ a + j ≤ last then ext (a + j) else data j := by
  induction i, data using readEdidRegistersFrom.induct did 1 a last with
  | case1 i data hle hnone =>
      rw [h.register, if_pos (by omega)] at hnone
      cases hnone
  | case2 i data hle b hb ih =>
      rw [readEdidRegistersFrom, if_pos hle, hb]
      simp only
      rw [ih (by omega)]
      rw [h.register, if_pos (by omega), Option.some.injEq] at hb
      funext j
      by_cases hj : a + j = i
      · have hsub : i - a = j := by omega
        rw [if_neg (by omega), if_pos ⟨hj.ge, by omega⟩, hsub, Function.update_self, hj, hb]
      · rw [Function.update_of_ne (by omega)]
        exact if_congr (by omega) rfl rfl
  | case3 i data hle =>
      rw [readEdidRegistersFrom, if_neg hle]
      funext j
      rw [if_neg (by omega)]

/-- Three registers in a row. -/
lemma Reads.three_registers (h : did.Reads base ext) {p : ℕ} (hp : p < 128) (data : ℕ → Byte) :
    did.readEdidRegisters 1 p 3 data =
      some fun j => if j < 3 ∧ p + j < 128 then ext (p + j) else data j := by
  rw [readEdidRegisters, if_neg (by omega)]
  simp only
  rw [if_neg (by omega), h.registers_from (by split_ifs <;> omega) p le_rfl]
  congr 1
  funext j
  exact if_congr (by split_ifs <;> omega) rfl rfl

/-- The header at a position. -/
lemma Reads.header (h : did.Reads base ext) (p : ℕ) :
    did.getDatablockHeader 1 p =
      if Readable ext p then some (headerTag ext p, extendedTagAt ext p, headerLength ext p)
      else none := by
  rw [getDatablockHeader, h.register p]
  by_cases hp : p < 128
  · rw [if_pos hp]
    show (if HasExtendedTag ext p then
        do
          let extTag ← did.readEdidRegister 1 (p + 1)
          return (headerTag ext p, extTag, headerLength ext p)
      else some (headerTag ext p, extendedTagReserved255, headerLength ext p)) = _
    by_cases htag : HasExtendedTag ext p
    · rw [if_pos htag, h.register (p + 1)]
      by_cases hnext : p + 1 < 128
      · rw [if_pos hnext, if_pos ⟨hp, fun _ => hnext⟩, extendedTagAt, if_pos htag]
        rfl
      · rw [if_neg hnext, if_neg fun hread => hnext (hread.2 htag)]
        rfl
    · rw [if_neg htag, if_pos ⟨hp, fun h => absurd h htag⟩, extendedTagAt, if_neg htag]
  · rw [if_neg hp, if_neg fun hread => hp hread.1]
    rfl

/-! ### The search -/

/-- The search from a position on, with some instances counted before. -/
lemma Reads.index_from (h : did.Reads base ext) (tag : Ntv2Cea861DatablockTag) (extTag : Byte)
    {inst e count : ℕ} (p : ℕ) (hcount : count ≤ inst) :
    did.getIndexForDatablockFrom 1 tag extTag inst e p count =
      match ((hops (headerLength ext) (Passes ext) e p).filter
        (isBlockOf ext tag extTag))[inst - count]? with
      | some q => some (q, headerLength ext q)
      | none =>
          if landing (headerLength ext) (Passes ext) e p < e →
            Readable ext (landing (headerLength ext) (Passes ext) e p) then some (0, 0)
          else none := by
  induction p using hops.induct (headerLength ext) (Passes ext) e generalizing count with
  | case1 p hp ih =>
      obtain ⟨he, hpass⟩ := hp
      have hnext : p + (headerLength ext p + 1) = p + headerLength ext p + 1 := rfl
      rw [getIndexForDatablockFrom, if_pos he, h.header p, if_pos hpass.1]
      simp only
      rw [if_neg fun hpad => hpass.2 (padding_iff.mp hpad), hops_pass he hpass,
        landing_pass he hpass, hnext, ← isBlockOf]
      cases hm : isBlockOf ext tag extTag p with
      | false => rw [List.filter_cons_of_neg (by simp [hm]), if_neg (by simp), ih hcount]
      | true =>
          rw [List.filter_cons_of_pos hm, if_pos rfl]
          by_cases hfound : count = inst
          · rw [if_pos hfound, hfound, Nat.sub_self]
            rfl
          · rw [if_neg hfound, ih (by omega),
              show inst - count = inst - (count + 1) + 1 by omega, List.getElem?_cons_succ]
  | case2 p hp =>
      rw [getIndexForDatablockFrom, hops_stop hp, landing_stop hp, List.filter_nil,
        List.getElem?_nil]
      by_cases he : p < e
      · rw [if_pos he, h.header p]
        by_cases hread : Readable ext p
        · have hzero : ext p = 0 := by
            by_contra hne
            exact hp ⟨he, hread, hne⟩
          rw [if_pos hread]
          simp only
          rw [if_pos (padding_iff.mpr hzero), if_pos fun _ => hread]
        · rw [if_neg hread]
          simp only
          rw [if_neg fun hall => hread (hall he)]
      · rw [if_neg he]
        simp only
        rw [if_pos fun hlt => absurd hlt he]

/-- **The search finds the instances of a tag in their order**, and none beyond the last. -/
lemma Reads.index_eq (h : did.Reads base ext) (tag : Ntv2Cea861DatablockTag) (extTag : Byte)
    (inst : ℕ) :
    did.getIndexForDatablock 1 tag extTag inst =
      match (blocksOf ext tag extTag)[inst]? with
      | some p => some (p, headerLength ext p)
      | none => if CollectionInside ext then some (0, 0) else none := by
  rw [getIndexForDatablock, h.register 2, if_pos (by omega)]
  exact h.index_from tag extTag 4 (Nat.zero_le inst)

end Ntv2Displayid

end LibAjaNtv2
