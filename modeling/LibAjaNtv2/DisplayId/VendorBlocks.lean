import LibAjaNtv2.DisplayId.AudioDescriptors
import LibAjaNtv2.DisplayId.VendorFields

/-!
Well-formed extensions, and the search for a vendor's block in one (`ntv2displayid.c`).

* `WellFormed`: the base block announces the extension, and data blocks fill it up to the timings;
* `collectionBlocks`, `firstVendor`: the data blocks, and the first one of a vendor;
* `takenVendor`: the block that the search takes, which reads three bytes behind any vendor header;
* `Reads.vendor_index`: **the search returns the block that it takes**;
* `taken_eq_first_or_short`: it is the first of the vendor, or one too short to say a vendor.
-/

namespace LibAjaNtv2

/-! ### Well-formed extensions -/

/-- Where the data blocks end: at the detailed timings, or at the checksum. -/
def tilingEnd (ext : ℕ → Byte) : ℕ := if ext 2 = 0 then 127 else (ext 2).toNat

/-- The base block announces an extension, and its data blocks fill the bytes up to the detailed
timings. -/
structure WellFormed (base ext : ℕ → Byte) : Prop where
  announced : base 0x7E ≠ 0
  tag : ext 0 = extensionTagCea861Hdmi
  offset : ext 2 = 0 ∨ 4 ≤ (ext 2).toNat ∧ (ext 2).toNat ≤ 127
  tiled : Hops (headerLength ext) (fun _ => True) 4 (tilingEnd ext)

/-- An extension of revision 0 or 1 has no data blocks. -/
def HasDataBlocks (ext : ℕ → Byte) : Prop := 1 < (ext 1).toNat

instance (ext : ℕ → Byte) : Decidable (HasDataBlocks ext) :=
  inferInstanceAs (Decidable (1 < (ext 1).toNat))

namespace WellFormed

variable {base ext : ℕ → Byte} {p : ℕ}

lemma hdmi_extension (hwf : WellFormed base ext) (hrev : HasDataBlocks ext) :
    Ntv2Displayid.HdmiExtension base ext := ⟨hwf.announced, hwf.tag, hrev⟩

/-- The checksum is no data block. -/
lemma end_le (hwf : WellFormed base ext) : tilingEnd ext ≤ 127 := by
  rw [tilingEnd]
  rcases hwf.offset with hzero | ⟨-, hle⟩
  · rw [if_pos hzero]
  · split_ifs
    · exact le_rfl
    · exact hle

/-- The search does not go beyond the data blocks. -/
lemma collection_end_le (ext : ℕ → Byte) : collectionEnd ext ≤ tilingEnd ext := by
  rw [collectionEnd, tilingEnd]
  split_ifs
  · omega
  · exact le_rfl

lemma block_end_le (hwf : WellFormed base ext) {pass : ℕ → Prop}
    (hway : Hops (headerLength ext) pass 4 p) (hp : p < tilingEnd ext) :
    p + headerLength ext p + 1 ≤ tilingEnd ext :=
  (hway.linear hwf.tiled hp.le).end_le hp.ne

/-- A header of a data block can be read. -/
lemma readable (hwf : WellFormed base ext) {pass : ℕ → Prop}
    (hway : Hops (headerLength ext) pass 4 p) (hp : p < tilingEnd ext) : Readable ext p := by
  have hblock := hwf.block_end_le hway hp
  have hend := hwf.end_le
  refine ⟨by omega, fun htag => ?_⟩
  have hlen : 0 < headerLength ext p := htag.2
  omega

lemma collection_inside (hwf : WellFormed base ext) : CollectionInside ext := fun hstop =>
  hwf.readable hops_landing (hstop.trans_le (collection_end_le ext))

/-- A block that the search passes is inside of the extension, with its bytes. -/
lemma data_block_end_le (hwf : WellFormed base ext) (hp : p ∈ dataBlocks ext) :
    p + headerLength ext p + 1 ≤ 127 := by
  obtain ⟨hway, hlt, -⟩ := mem_dataBlocks.mp hp
  exact (hwf.block_end_le hway (hlt.trans_le (collection_end_le ext))).trans hwf.end_le

/-- Descriptors are inside of the extension. -/
lemma descriptors_inside (hwf : WellFormed base ext) : Ntv2Displayid.DescriptorsInside ext := by
  intro p hp q hq
  have hend := hwf.data_block_end_le (List.mem_filter.mp hp).1
  obtain ⟨j, hj, rfl⟩ := List.mem_range'.mp hq
  omega

end WellFormed

/-! ### The first block of a vendor -/

/-- The data blocks up to the detailed timings. -/
def collectionBlocks (ext : ℕ → Byte) : List ℕ :=
  if HasDataBlocks ext then hops (headerLength ext) (fun _ => True) (tilingEnd ext) 4 else []

/-- A vendor's block is long enough for the vendor's number, and begins with it. -/
def IsVendorBlock (ext : ℕ → Byte) (isId : (ℕ → Byte) → Bool) (p : ℕ) : Prop :=
  headerTag ext p = .vendor ∧ 3 ≤ headerLength ext p ∧ isId (fun j => ext (p + 1 + j)) = true

instance (ext : ℕ → Byte) (isId : (ℕ → Byte) → Bool) : DecidablePred (IsVendorBlock ext isId) :=
  fun p => inferInstanceAs (Decidable (headerTag ext p = .vendor ∧ 3 ≤ headerLength ext p ∧
    isId (fun j => ext (p + 1 + j)) = true))

/-- The first block of a vendor. -/
def firstVendor (ext : ℕ → Byte) (isId : (ℕ → Byte) → Bool) : Option ℕ :=
  (collectionBlocks ext).find? fun p => decide (IsVendorBlock ext isId p)

/-! ### The block that the search takes -/

/-- The vendor blocks that the search passes. -/
def vendorBlocks (ext : ℕ → Byte) : List ℕ := blocksOf ext .vendor extendedTagReserved255

/-- The three bytes behind a header, in an array; a byte outside of the extension leaves what it
held before. -/
def readId (ext : ℕ → Byte) (p : ℕ) (regId : ℕ → Byte) : ℕ → Byte :=
  fun j => if j < 3 ∧ p + 1 + j < 128 then ext (p + 1 + j) else regId j

/-- The first header with a vendor's number behind it. -/
def takenFrom (ext : ℕ → Byte) (isId : (ℕ → Byte) → Bool) : List ℕ → (ℕ → Byte) → Option ℕ
  | [], _ => none
  | p :: ps, regId =>
      if isId (readId ext p regId) then some p else takenFrom ext isId ps (readId ext p regId)

/-- The block that the search takes for the vendor's, whatever its length. -/
def takenVendor (ext : ℕ → Byte) (isId : (ℕ → Byte) → Bool) (regId : ℕ → Byte) : Option ℕ :=
  takenFrom ext isId (vendorBlocks ext) regId

/-- A test that looks at the three bytes of a number. -/
def IsNumberTest (isId : (ℕ → Byte) → Bool) : Prop :=
  ∀ f g : ℕ → Byte, (∀ j < 3, f j = g j) → isId f = isId g

lemma isHdmiId_test : IsNumberTest Ntv2Displayid.isHdmiId := fun f g h => by
  rw [Ntv2Displayid.isHdmiId, Ntv2Displayid.isHdmiId, h 0 (by omega), h 1 (by omega),
    h 2 (by omega)]

lemma isHfId_test : IsNumberTest Ntv2Displayid.isHfId := fun f g h => by
  rw [Ntv2Displayid.isHfId, Ntv2Displayid.isHfId, h 0 (by omega), h 1 (by omega), h 2 (by omega)]

section Taken

variable {ext : ℕ → Byte} {isId : (ℕ → Byte) → Bool} {regId : ℕ → Byte} {p q : ℕ} {l : List ℕ}

lemma isId_readId (hid : IsNumberTest isId) (hp : p + 3 < 128) (regId : ℕ → Byte) :
    isId (readId ext p regId) = isId fun j => ext (p + 1 + j) :=
  hid _ _ fun j hj => if_pos ⟨hj, by omega⟩

/-- What is taken is one of the blocks, and a number is behind its header. -/
lemma takenFrom_some (hid : IsNumberTest isId) (htaken : takenFrom ext isId l regId = some p) :
    p ∈ l ∧ (p + 3 < 128 → isId (fun j => ext (p + 1 + j)) = true) := by
  induction l generalizing regId with
  | nil => cases htaken
  | cons a l ih =>
      rw [takenFrom] at htaken
      cases hmatch : isId (readId ext a regId) with
      | true =>
          rw [if_pos hmatch] at htaken
          cases htaken
          exact ⟨List.mem_cons_self, fun hp => by rwa [← isId_readId hid hp regId]⟩
      | false =>
          rw [if_neg (by simp [hmatch])] at htaken
          obtain ⟨hmem, hnumber⟩ := ih htaken
          exact ⟨List.mem_cons_of_mem _ hmem, hnumber⟩

/-- What is taken is not behind a block with the number. -/
lemma takenFrom_le (regId : ℕ → Byte) (hid : IsNumberTest isId) (hsorted : l.Pairwise (· < ·))
    (hq : q ∈ l) (hinside : q + 3 < 128) (hnumber : isId (fun j => ext (q + 1 + j)) = true) :
    ∃ p ≤ q, takenFrom ext isId l regId = some p := by
  induction l generalizing regId with
  | nil => cases hq
  | cons a l ih =>
      rw [takenFrom]
      obtain ⟨hfirst, hrest⟩ := List.pairwise_cons.mp hsorted
      rcases List.mem_cons.mp hq with rfl | hq
      · exact ⟨q, le_rfl, if_pos (by rwa [isId_readId hid hinside])⟩
      · cases hmatch : isId (readId ext a regId) with
        | true => exact ⟨a, (hfirst q hq).le, if_pos rfl⟩
        | false =>
            obtain ⟨p, hp, htaken⟩ := ih _ hrest hq
            exact ⟨p, hp, by rw [if_neg (by simp), htaken]⟩

end Taken

lemma mem_vendorBlocks {ext : ℕ → Byte} {p : ℕ} :
    p ∈ vendorBlocks ext ↔ p ∈ dataBlocks ext ∧ headerTag ext p = .vendor := by
  rw [vendorBlocks, blocksOf, List.mem_filter, isBlockOf_plain (by decide) (by decide)]

/-- **The search takes the first block of the vendor**, or one that is too short to say a
vendor. -/
theorem taken_eq_first_or_short {base ext : ℕ → Byte} (hwf : WellFormed base ext)
    (hrev : HasDataBlocks ext) {isId : (ℕ → Byte) → Bool} (hid : IsNumberTest isId)
    (regId : ℕ → Byte) :
    takenVendor ext isId regId = firstVendor ext isId ∨
      ∀ p, takenVendor ext isId regId = some p → headerLength ext p < 3 := by
  by_cases hshort : ∀ p, takenVendor ext isId regId = some p → headerLength ext p < 3
  · exact .inr hshort
  left
  push Not at hshort
  obtain ⟨p, htaken, hlong⟩ := hshort
  obtain ⟨hmem, hnumber⟩ := takenFrom_some hid htaken
  obtain ⟨hdata, htag⟩ := mem_vendorBlocks.mp hmem
  obtain ⟨hway, hlt, -⟩ := mem_dataBlocks.mp hdata
  have hend := hwf.data_block_end_le hdata
  have hvendor : IsVendorBlock ext isId p := ⟨htag, hlong, hnumber (by omega)⟩
  have hblocks : collectionBlocks ext =
      hops (headerLength ext) (fun _ => True) (tilingEnd ext) 4 := if_pos hrev
  have hp : p ∈ collectionBlocks ext := by
    rw [hblocks]
    exact mem_hops.mpr ⟨hway.mono fun _ _ _ _ => trivial,
      hlt.trans_le (WellFormed.collection_end_le ext), trivial⟩
  -- the first of the vendor's blocks is not behind the one that is taken
  obtain ⟨q, hq⟩ : ∃ q, firstVendor ext isId = some q :=
    Option.isSome_iff_exists.mp (List.find?_isSome.mpr ⟨p, hp, decide_eq_true hvendor⟩)
  obtain ⟨hqvendor, as, bs, hsplit, has⟩ := List.find?_eq_some_iff_append.mp hq
  obtain ⟨hqtag, hqlong, hqnumber⟩ := of_decide_eq_true hqvendor
  have hqp : q ≤ p := by
    have hsorted : (as ++ q :: bs).Pairwise (· < ·) := hsplit ▸ hblocks ▸ pairwise_hops
    rw [hsplit] at hp
    rcases List.mem_append.mp hp with hin | hin
    · have := has p hin
      simp [hvendor] at this
    · rcases List.mem_cons.mp hin with rfl | hin
      · exact le_rfl
      · exact ((List.pairwise_cons.mp (List.pairwise_append.mp hsorted).2.1).1 p hin).le
  rcases hqp.eq_or_lt with rfl | hqlt
  · rw [htaken, hq]
  -- nor before it, since the search comes to it
  have hqway : Hops (headerLength ext) (fun _ => True) 4 q := by
    have hmemq : q ∈ collectionBlocks ext := hsplit ▸ List.mem_append_right _ List.mem_cons_self
    rw [hblocks] at hmemq
    exact (mem_hops.mp hmemq).1
  have hqdata : q ∈ dataBlocks ext :=
    mem_dataBlocks.mpr ⟨hqway.upto hway hqlt.le, hqlt.trans hlt,
      (hqway.linear hway hqlt.le).pass_of_lt hqlt⟩
  have hsorted : (vendorBlocks ext).Pairwise (· < ·) := pairwise_hops.filter _
  obtain ⟨p', hp', htaken'⟩ := takenFrom_le regId hid hsorted
    (mem_vendorBlocks.mpr ⟨hqdata, hqtag⟩) (by omega) hqnumber
  rw [takenVendor, htaken', Option.some.injEq] at htaken
  omega

/-! ### The search -/

namespace Ntv2Displayid

variable {did : Ntv2Displayid} {base ext : ℕ → Byte}

/-- The search from an instance of the vendor blocks on. -/
lemma Reads.vendor_index_from (h : did.Reads base ext) (hwf : WellFormed base ext)
    (isId : (ℕ → Byte) → Bool) (rounds dbInst : ℕ)
    (hrounds : (vendorBlocks ext).length < dbInst + rounds) (regId : ℕ → Byte) :
    did.getIndexForVendorFrom isId 1 rounds dbInst regId =
      some ((takenFrom ext isId ((vendorBlocks ext).drop dbInst) regId).getD 0) := by
  induction rounds generalizing dbInst regId with
  | zero =>
      rw [getIndexForVendorFrom, List.drop_eq_nil_of_le (by omega)]
      rfl
  | succ rounds ih =>
      rw [getIndexForVendorFrom, h.index_eq]
      by_cases hlt : dbInst < (vendorBlocks ext).length
      · have hget := List.getElem?_eq_getElem hlt
        have hdrop := List.drop_eq_getElem_cons hlt
        generalize hp : (vendorBlocks ext)[dbInst] = p at hget hdrop
        have hdata := (mem_vendorBlocks.mp (hp ▸ List.getElem_mem hlt : p ∈ vendorBlocks ext)).1
        have hpos := (dataBlocks_inside hdata).1
        have hend := hwf.data_block_end_le hdata
        have hread : did.readEdidRegisters 1 (p + 1) 3 regId = some (readId ext p regId) :=
          h.three_registers (by omega) regId
        rw [vendorBlocks] at hget
        rw [hget, hdrop, takenFrom]
        simp only
        rw [if_neg (by omega), hread]
        simp only
        cases hmatch : isId (readId ext p regId) with
        | true => rfl
        | false => exact ih (dbInst + 1) (by omega) _
      · have hget : (blocksOf ext .vendor extendedTagReserved255)[dbInst]? = none :=
          List.getElem?_eq_none_iff.mpr (not_lt.mp hlt)
        rw [hget, List.drop_eq_nil_of_le (not_lt.mp hlt)]
        simp only
        rw [if_pos hwf.collection_inside]
        rfl

/-- **The search returns the block that it takes.** -/
lemma Reads.vendor_index (h : did.Reads base ext) (hwf : WellFormed base ext)
    (isId : (ℕ → Byte) → Bool) (regId : ℕ → Byte) :
    did.getIndexForVendor isId regId 1 = some ((takenVendor ext isId regId).getD 0) := by
  have hlen := length_blocksOf_le ext .vendor extendedTagReserved255
  rw [getIndexForVendor, if_neg (by omega),
    h.vendor_index_from hwf isId 254 0 (by rw [vendorBlocks]; omega), List.drop_zero, takenVendor]

/-- What is taken is behind the first bytes of the extension. -/
lemma takenVendor_pos {isId : (ℕ → Byte) → Bool} (hid : IsNumberTest isId) {regId : ℕ → Byte}
    {p : ℕ} (htaken : takenVendor ext isId regId = some p) : p ≠ 0 := by
  have hmem := (takenFrom_some hid htaken).1
  have := dataBlocks_inside (mem_vendorBlocks.mp hmem).1
  omega

end Ntv2Displayid

end LibAjaNtv2
