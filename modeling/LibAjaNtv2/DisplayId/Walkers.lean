import LibAjaNtv2.DisplayId.Collection
import LibAjaNtv2.DisplayId.Status

/-!
The two walks along the data blocks (`ntv2displayid.c`): `get_global_video_status` looks for the
4:2:0 codes by itself, and `get_index_for_datablock` for a block of a tag.

* `Is420`: a header with one of the codes;
* `GlobalComesTo`, `IndexComesTo`: the headers that the first walk comes to, and the second;
* `Reads.global_from`: what the first walk sets, and where it fails;
* `Reads.finds420_iff`: what the second finds;
* `walkersAgree_iff`: **when the two agree**: the first goes on behind the collection, and looks at
  a header without a length, the second goes on behind one.
-/

namespace LibAjaNtv2

/-- A header with one of the two codes for 4:2:0 behind it. -/
def Is420 (ext : ℕ → Byte) (p : ℕ) : Prop :=
  p + 1 < 128 ∧ headerTag ext p = .extended ∧
    (ext (p + 1) = extendedTagYcbcr420datablock ∨ ext (p + 1) = extendedTagYcbcr420capmap)

instance (ext : ℕ → Byte) : DecidablePred (Is420 ext) := fun p =>
  inferInstanceAs (Decidable (p + 1 < 128 ∧ headerTag ext p = .extended ∧
    (ext (p + 1) = extendedTagYcbcr420datablock ∨ ext (p + 1) = extendedTagYcbcr420capmap)))

/-- The headers from the first one on, as long as they say a length. -/
def GlobalComesTo (ext : ℕ → Byte) : ℕ → Prop :=
  Hops (headerLength ext) (fun q => headerLength ext q ≠ 0) 4

/-- The headers from the first one on, as long as they are not padding. -/
def IndexComesTo (ext : ℕ → Byte) : ℕ → Prop := Hops (headerLength ext) (fun q => ext q ≠ 0) 4

lemma GlobalComesTo.index {ext : ℕ → Byte} {p : ℕ} (h : GlobalComesTo ext p) : IndexComesTo ext p :=
  Hops.mono h fun _ _ _ => ne_zero_of_headerLength

/-! ### The global walk -/

/-- The codes in the two forms of the source. -/
lemma tag_extended_iff {ext : ℕ → Byte} {p : ℕ} :
    (7 <<< 5 : Byte) = 0xe0 &&& ext p ↔ headerTag ext p = .extended := by
  have h : ∀ b : Byte, (7 <<< 5 : Byte) = 0xe0 &&& b ↔
      Ntv2Cea861DatablockTag.ofHeader b = .extended := by decide +kernel
  exact h (ext p)

namespace Ntv2Displayid

variable {did : Ntv2Displayid} {base ext : ℕ → Byte}

/-- A register of the extension in a routine. -/
lemma Reads.reg (h : did.Reads base ext) {σ : Type} (r : ℕ) (s : σ) :
    did.reg 1 r s = if r < 128 then (.ok (ext r), s) else (.error (), s) := by
  rw [Ntv2Displayid.reg, h.register r]
  by_cases hr : r < 128
  · rw [if_pos hr, if_pos hr, Attempt.option_some]
  · rw [if_neg hr, if_neg hr, Attempt.option_none]

/-- The extension is one of an HDMI sink, and the base block announces it. -/
structure HdmiExtension (base ext : ℕ → Byte) : Prop where
  announced : base 0x7E ≠ 0
  tag : ext 0 = extensionTagCea861Hdmi
  revision : 1 < (ext 1).toNat

/-- The block of the extension. -/
lemma Reads.block_number (h : did.Reads base ext) (hext : HdmiExtension base ext) :
    did.getBlockNumberForExtension extensionTagCea861Hdmi = some 1 := by
  have hbase : did.readEdidRegister 0 0x7E = some (base 0x7E) := h.base_register (by omega)
  have htag : did.readEdidRegister 1 0x00 = some (ext 0x00) := by rw [h.register, if_pos (by omega)]
  simp only [getBlockNumberForExtension, getEdidNumExtensions, hbase, Option.bind_eq_bind,
    Option.bind_some, if_neg hext.announced, htag, if_pos hext.tag]
  rfl

/-- The protocol of the sink. -/
lemma Reads.protocol (h : did.Reads base ext) (hext : HdmiExtension base ext) :
    did.getEdidSinkProtocol = some .hdmi := by
  have hrev : did.readEdidRegister 1 0x01 = some (ext 0x01) := by rw [h.register, if_pos (by omega)]
  have hne : ∀ b : Byte, b.toNat ≤ 1 → ext 1 ≠ b := by
    intro b hb heq
    have := hext.revision
    rw [heq] at this
    omega
  simp only [getEdidSinkProtocol, h.block_number hext, Option.bind_eq_bind, Option.bind_some,
    getEdidExtensionRevision]
  rw [if_neg (by omega), if_neg (by omega), hrev, Option.bind_some, if_neg (hne 0 (by decide)),
    if_neg (hne 1 (by decide))]
  rfl

/-- At a header the walk reads the byte behind it, where the tag is extended. -/
lemma Reads.extended_tag (h : did.Reads base ext) (p : ℕ) (v : Ntv2DisplayidVideo) :
    did.getGlobalExtendedTag 1 p (ext p) v =
      if headerTag ext p = .extended ∧ 128 ≤ p + 1 then (.error (), v)
      else (.ok (), if Is420 ext p then v.setYcbcr420 else v) := by
  rw [getGlobalExtendedTag]
  by_cases htag : headerTag ext p = .extended
  · rw [if_pos (tag_extended_iff.mpr htag)]
    by_cases hnext : p + 1 < 128
    · rw [Attempt.bind_ok (by rw [h.reg, if_pos hnext]), if_neg (by omega), Attempt.modify]
      congr 1
      by_cases hcode : ext (p + 1) = extendedTagYcbcr420datablock ∨
          ext (p + 1) = extendedTagYcbcr420capmap
      · rw [if_pos hcode, if_pos ⟨hnext, htag, hcode⟩]
      · rw [if_neg hcode, if_neg fun h420 => hcode h420.2.2]
    · rw [Attempt.bind_error (by rw [h.reg, if_neg hnext]), if_pos ⟨htag, by omega⟩]
  · rw [if_neg fun hcode => htag (tag_extended_iff.mp hcode), if_neg fun hand => htag hand.1,
      if_neg fun h420 => htag h420.2.1]
    rfl

/-- One round of the walk. -/
lemma Reads.global_step (h : did.Reads base ext) {p : ℕ} (hp : p < 128) (v : Ntv2DisplayidVideo) :
    did.getGlobalVideoStatusFrom 1 p v =
      if headerTag ext p = .extended ∧ 128 ≤ p + 1 then (.error (), v)
      else if headerLength ext p = 0 then (.ok (), if Is420 ext p then v.setYcbcr420 else v)
      else did.getGlobalVideoStatusFrom 1 (p + headerLength ext p + 1)
        (if Is420 ext p then v.setYcbcr420 else v) := by
  have hlen : (0x1F &&& ext p).toNat = headerLength ext p := by
    rw [headerLength, BitVec.and_comm]
  rw [getGlobalVideoStatusFrom, if_pos hp, Attempt.bind_ok (by rw [h.reg, if_pos hp])]
  have htag := h.extended_tag p v
  by_cases hfail : headerTag ext p = .extended ∧ 128 ≤ p + 1
  · rw [if_pos hfail] at htag ⊢
    rw [Attempt.bind_error htag]
  · rw [if_neg hfail] at htag ⊢
    rw [Attempt.bind_ok htag, hlen]
    split_ifs <;> rfl

/-- What the walk from a position leaves: it fails where it comes to the last byte with an extended
tag, and sets one field, where it comes to a 4:2:0 code. -/
structure GlobalWalk (ext : ℕ → Byte) (p : ℕ) (v : Ntv2DisplayidVideo)
    (result : Except Unit Unit × Ntv2DisplayidVideo) : Prop where
  ok_iff : result.1 = .ok () ↔
    ¬ (Hops (headerLength ext) (fun q => headerLength ext q ≠ 0) p 127 ∧
      headerTag ext 127 = .extended)
  field : ∃ b, result.2 = { v with ycbcr420 := b } ∧
    (b = true ↔ v.ycbcr420 = true ∨
      ∃ q, Hops (headerLength ext) (fun q => headerLength ext q ≠ 0) p q ∧ Is420 ext q)

/-- One header sets the field where it has a code. -/
lemma noted_field (ext : ℕ → Byte) (p : ℕ) (v : Ntv2DisplayidVideo) :
    ∃ b, (if Is420 ext p then v.setYcbcr420 else v) = { v with ycbcr420 := b } ∧
      (b = true ↔ v.ycbcr420 = true ∨ Is420 ext p) := by
  by_cases h420 : Is420 ext p
  · exact ⟨true, by rw [if_pos h420]; rfl, iff_of_true rfl (.inr h420)⟩
  · exact ⟨v.ycbcr420, by rw [if_neg h420], (or_iff_left h420).symm⟩

lemma not_is420_of_le {ext : ℕ → Byte} {p q : ℕ} {pass : ℕ → Prop} (hp : 127 ≤ p)
    (h : Hops (headerLength ext) pass p q) : ¬ Is420 ext q := by
  have := h.le
  exact fun h420 => absurd h420.1 (by omega)

/-- At the last byte with an extended tag, the walk fails. -/
lemma globalWalk_error (v : Ntv2DisplayidVideo) (htag : headerTag ext 127 = .extended) :
    GlobalWalk ext 127 v (.error (), v) := by
  refine ⟨iff_of_false (by simp) (not_not.mpr ⟨.refl _, htag⟩), v.ycbcr420, rfl, ?_⟩
  refine (or_iff_left ?_).symm
  rintro ⟨q, hway, h420⟩
  exact not_is420_of_le le_rfl hway h420

/-- **The walk sets the field where it comes to a 4:2:0 code.** -/
lemma Reads.global_from (h : did.Reads base ext) (p : ℕ) (v : Ntv2DisplayidVideo) :
    GlobalWalk ext p v (did.getGlobalVideoStatusFrom 1 p v) := by
  induction p using hops.induct (headerLength ext) (fun q => headerLength ext q ≠ 0) 128
      generalizing v with
  | case1 p hp ih =>
      rw [h.global_step hp.1]
      by_cases hfail : headerTag ext p = .extended ∧ 128 ≤ p + 1
      · obtain rfl : p = 127 := by omega
        rw [if_pos hfail]
        exact globalWalk_error v hfail.1
      · rw [if_neg hfail, if_neg hp.2]
        obtain ⟨b, hv, hb⟩ := noted_field ext p v
        obtain ⟨hok, b', hv', hb'⟩ := ih (if Is420 ext p then v.setYcbcr420 else v)
        refine ⟨hok.trans (not_congr ?_), b', ?_, hb'.trans ?_⟩
        · rw [Hops.iff_eq_or_hop (p := p)]
          constructor
          · rintro ⟨hway, htag⟩
            exact ⟨.inr ⟨hp.2, hway⟩, htag⟩
          · rintro ⟨rfl | ⟨-, hway⟩, htag⟩
            · exact absurd ⟨htag, le_rfl⟩ hfail
            · exact ⟨hway, htag⟩
        · rw [hv', hv]
        · rw [hv]
          show b = true ∨ _ ↔ _
          rw [hb, or_assoc]
          refine or_congr_right ?_
          constructor
          · rintro (h420 | ⟨q, hway, h420⟩)
            · exact ⟨p, .refl p, h420⟩
            · exact ⟨q, .hop hp.2 hway, h420⟩
          · rintro ⟨q, hway, h420⟩
            rcases hway.eq_or_hop with rfl | ⟨-, hway⟩
            · exact .inl h420
            · exact .inr ⟨q, hway, h420⟩
  | case2 p hp =>
      by_cases hlt : p < 128
      · have hzero : headerLength ext p = 0 := by
          by_contra hne
          exact hp ⟨hlt, hne⟩
        have honly : ∀ q, Hops (headerLength ext) (fun q => headerLength ext q ≠ 0) p q → p = q := by
          intro q hway
          rcases hway.eq_or_hop with heq | ⟨hne, -⟩
          · exact heq
          · exact absurd hzero hne
        rw [h.global_step hlt, if_pos hzero]
        by_cases hfail : headerTag ext p = .extended ∧ 128 ≤ p + 1
        · obtain rfl : p = 127 := by omega
          rw [if_pos hfail]
          exact globalWalk_error v hfail.1
        · rw [if_neg hfail]
          obtain ⟨b, hv, hb⟩ := noted_field ext p v
          refine ⟨iff_of_true rfl ?_, b, hv, hb.trans (or_congr_right ?_)⟩
          · rintro ⟨hway, htag⟩
            obtain rfl := honly 127 hway
            exact hfail ⟨htag, le_rfl⟩
          · refine ⟨fun h420 => ⟨p, .refl p, h420⟩, ?_⟩
            rintro ⟨q, hway, h420⟩
            rwa [honly q hway]
      · rw [getGlobalVideoStatusFrom, if_neg hlt]
        refine ⟨iff_of_true rfl ?_, v.ycbcr420, rfl, (or_iff_left ?_).symm⟩
        · rintro ⟨hway, -⟩
          have := hway.le
          omega
        · rintro ⟨q, hway, h420⟩
          exact not_is420_of_le (by omega) hway h420

/-- The global walk begins at byte 4, after the flags of byte 3. -/
lemma Reads.global_status (h : did.Reads base ext) (v : Ntv2DisplayidVideo) :
    did.getGlobalVideoStatus 1 v = did.getGlobalVideoStatusFrom 1 4 (v.setGlobal (ext 3)) := by
  have hrequire : (Attempt.require (1 ≠ 0) () : VideoRoutine Unit) v = (.ok (), v) :=
    Attempt.require_ok_iff.mpr ⟨by omega, rfl⟩
  have hreg : did.reg 1 3 v = (.ok (ext 3), v) := by rw [h.reg, if_pos (by omega)]
  rw [getGlobalVideoStatus, Attempt.bind_ok hrequire, Attempt.bind_ok hreg]
  rfl

/-- The field after the global walk. -/
lemma Reads.global_420 (h : did.Reads base ext) (v : Ntv2DisplayidVideo) :
    (did.getGlobalVideoStatus 1 v).2.ycbcr420 = true ↔
      ∃ p, GlobalComesTo ext p ∧ Is420 ext p := by
  rw [h.global_status]
  obtain ⟨-, b, hv, hb⟩ := h.global_from 4 (v.setGlobal (ext 3))
  rw [hv]
  refine hb.trans (or_iff_right ?_)
  exact Bool.false_ne_true

/-! ### The search -/

/-- The search finds a block with one of the two codes. -/
def Finds420 (did : Ntv2Displayid) : Prop :=
  ∃ code ∈ [extendedTagYcbcr420datablock, extendedTagYcbcr420capmap],
    ∃ dbIndex dbLength, did.getIndexForDatablock 1 .extended code 0 = some (dbIndex, dbLength) ∧
      dbIndex ≠ 0

/-- Whether the search finds a first instance. -/
lemma Reads.finds_iff (h : did.Reads base ext) (tag : Ntv2Cea861DatablockTag) (extTag : Byte) :
    (∃ dbIndex dbLength, did.getIndexForDatablock 1 tag extTag 0 = some (dbIndex, dbLength) ∧
      dbIndex ≠ 0) ↔ ∃ p ∈ dataBlocks ext, isBlockOf ext tag extTag p = true := by
  rw [h.index_eq tag extTag 0]
  cases hfound : blocksOf ext tag extTag with
  | nil =>
      refine iff_of_false ?_ ?_
      · rintro ⟨i, l, heq, hi⟩
        rw [List.getElem?_nil] at heq
        simp only at heq
        split_ifs at heq
        cases heq
        exact hi rfl
      · rintro ⟨p, hp, hblock⟩
        have := List.filter_eq_nil_iff.mp hfound p hp
        exact this hblock
  | cons p ps =>
      have hp : p ∈ blocksOf ext tag extTag := hfound ▸ List.mem_cons_self
      obtain ⟨hp, hblock⟩ := List.mem_filter.mp hp
      refine iff_of_true ⟨p, headerLength ext p, rfl, ?_⟩ ⟨p, hp, hblock⟩
      have := dataBlocks_inside hp
      omega

/-- **What the search finds**: a code of a header that says a length, before the timings. -/
lemma Reads.finds420_iff (h : did.Reads base ext) :
    did.Finds420 ↔ ∃ p, IndexComesTo ext p ∧ p < collectionEnd ext ∧ headerLength ext p ≠ 0 ∧
      Is420 ext p := by
  constructor
  · rintro ⟨code, hcode, hfinds⟩
    obtain ⟨p, hp, hblock⟩ := (h.finds_iff .extended code).mp hfinds
    obtain ⟨hway, hend, hread, -⟩ := mem_dataBlocks.mp hp
    obtain ⟨htag, hext⟩ := isBlockOf_extended.mp hblock
    have hhas : HasExtendedTag ext p := by
      by_contra hnot
      rw [extendedTagAt, if_neg hnot] at hext
      subst hext
      revert hcode
      decide
    rw [extendedTagAt, if_pos hhas] at hext
    have hlen : headerLength ext p ≠ 0 := Nat.ne_of_gt hhas.2
    refine ⟨p, hway.mono fun _ _ _ hpass => hpass.2, hend, hlen, hread.2 hhas, htag, ?_⟩
    simpa [hext] using hcode
  · rintro ⟨p, hway, hend, hlen, hinside, htag, hcode⟩
    have hhas : HasExtendedTag ext p := ⟨htag, Nat.pos_of_ne_zero hlen⟩
    refine ⟨ext (p + 1), by simpa using hcode, (h.finds_iff .extended _).mpr ⟨p, ?_, ?_⟩⟩
    · refine mem_dataBlocks.mpr ⟨hway.mono fun q _ hq hne => ⟨⟨?_, ?_⟩, hne⟩, hend,
        ⟨?_, fun _ => hinside⟩, ne_zero_of_headerLength hlen⟩
      · omega
      · omega
      · omega
    · refine isBlockOf_extended.mpr ⟨htag, ?_⟩
      rw [extendedTagAt, if_pos hhas]

/-! ### The two walks -/

/-- The two walks agree on 4:2:0. -/
def WalkersAgree (did : Ntv2Displayid) (v : Ntv2DisplayidVideo) : Prop :=
  (did.getGlobalVideoStatus 1 v).2.ycbcr420 = true ↔ did.Finds420

end Ntv2Displayid

/-- A block of the collection with a code, that both walks come to. -/
def Both420 (ext : ℕ → Byte) : Prop :=
  ∃ p, GlobalComesTo ext p ∧ p < collectionEnd ext ∧ headerLength ext p ≠ 0 ∧ Is420 ext p

/-- Timings or padding that look like a block with a code, or a header without a length and a
byte behind it that looks like a code. -/
def GlobalOnly420 (ext : ℕ → Byte) : Prop :=
  ∃ p, GlobalComesTo ext p ∧ (collectionEnd ext ≤ p ∨ headerLength ext p = 0) ∧ Is420 ext p

/-- A block of the collection with a code, behind a header without a length. -/
def IndexOnly420 (ext : ℕ → Byte) : Prop :=
  ∃ p, IndexComesTo ext p ∧ ¬ GlobalComesTo ext p ∧ p < collectionEnd ext ∧
    headerLength ext p ≠ 0 ∧ Is420 ext p

/-- **The two walks agree** where both come to a code, or where neither comes to one that the other
does not come to, or each to one. -/
theorem Ntv2Displayid.walkersAgree_iff {did : Ntv2Displayid} {base ext : ℕ → Byte}
    (h : did.Reads base ext) (v : Ntv2DisplayidVideo) :
    did.WalkersAgree v ↔ Both420 ext ∨ (GlobalOnly420 ext ↔ IndexOnly420 ext) := by
  have hglobal : (∃ p, GlobalComesTo ext p ∧ Is420 ext p) ↔ Both420 ext ∨ GlobalOnly420 ext := by
    constructor
    · rintro ⟨p, hway, h420⟩
      by_cases hp : p < collectionEnd ext ∧ headerLength ext p ≠ 0
      · exact .inl ⟨p, hway, hp.1, hp.2, h420⟩
      · exact .inr ⟨p, hway, by omega, h420⟩
    · rintro (⟨p, hway, -, -, h420⟩ | ⟨p, hway, -, h420⟩)
      · exact ⟨p, hway, h420⟩
      · exact ⟨p, hway, h420⟩
  have hindex : did.Finds420 ↔ Both420 ext ∨ IndexOnly420 ext := by
    rw [h.finds420_iff]
    constructor
    · rintro ⟨p, hway, hrest⟩
      by_cases hp : GlobalComesTo ext p
      · exact .inl ⟨p, hp, hrest⟩
      · exact .inr ⟨p, hway, hp, hrest⟩
    · rintro (⟨p, hway, hrest⟩ | ⟨p, hway, -, hrest⟩)
      · exact ⟨p, hway.index, hrest⟩
      · exact ⟨p, hway, hrest⟩
  rw [WalkersAgree, h.global_420 v, hglobal, hindex]
  tauto

/-- An extension with one data block, for 4:2:0. -/
def extension420 : ℕ → Byte := edidBlock [0x02, 0x03, 0x07, 0x30, 0xE2, 0x0E, 0x60]

/-- With a 4:2:0 block in the collection, both walks come to it. -/
theorem Ntv2Displayid.walkersAgree_extension420 :
    (Ntv2Displayid.ofBlocks baseBlock extension420).WalkersAgree {} :=
  (Ntv2Displayid.walkersAgree_iff (Ntv2Displayid.reads_ofBlocks baseBlock extension420) {}).mpr
    (.inl ⟨4, .refl 4, by decide, by decide, by decide⟩)

/-- An extension without data blocks, whose first detailed timing has a pixel clock of
38.09 MHz. -/
def extensionTiming : ℕ → Byte := edidBlock [0x02, 0x03, 0x04, 0x30, 0xE1, 0x0E, 0x80, 0x20]

/-- The global walk takes the pixel clock of a timing for a 4:2:0 block. -/
theorem Ntv2Displayid.not_walkersAgree_timing :
    ¬ (Ntv2Displayid.ofBlocks baseBlock extensionTiming).WalkersAgree {} := by
  have hreads := Ntv2Displayid.reads_ofBlocks baseBlock extensionTiming
  rw [Ntv2Displayid.WalkersAgree, hreads.global_420, hreads.finds420_iff]
  intro hagree
  obtain ⟨p, hway, hend, -⟩ := hagree.mp ⟨4, .refl 4, by decide⟩
  have hle : 4 ≤ p := hway.le
  have hfour : collectionEnd extensionTiming = 4 := by decide
  omega

end LibAjaNtv2
