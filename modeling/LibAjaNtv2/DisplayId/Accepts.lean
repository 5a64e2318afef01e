import LibAjaNtv2.DisplayId.VendorBlocks

/-!
Whether a well-formed EDID is accepted (`ntv2displayid.c`).

* `blockFields`, `vendorFields`: the fields that the first HDMI block and the first HF block say;
* `Reads.video_status`: where the video status is read, and what it is;
* `Reads.audio_ok`: the audio status is always read;
* `Accepted`: the update goes well, and the fields are those of the first blocks;
* `accepted_iff`: **when a well-formed EDID is accepted**: no timings or padding end in an extended
  tag, the bytes that are read for a vendor's fields are there, and no short block is taken for
  one.
-/

namespace LibAjaNtv2

open Ntv2DisplayidVideo

/-! ### The fields of the first blocks -/

/-- The fields of a block, if there is one. -/
def blockFields (fields : (ℕ → Option Byte) → Ntv2DisplayidVideo → Ntv2DisplayidVideo)
    (ext : ℕ → Byte) (block : Option ℕ) (v : Ntv2DisplayidVideo) : Ntv2DisplayidVideo :=
  match block with
  | some p => fields (blockByte ext p) v
  | none => v

/-- The fields of the first HDMI block and of the first HF block. -/
def vendorFields (ext : ℕ → Byte) (v : Ntv2DisplayidVideo) : Ntv2DisplayidVideo :=
  blockFields hfFields ext (firstVendor ext Ntv2Displayid.isHfId)
    (blockFields hdmiFields ext (firstVendor ext Ntv2Displayid.isHdmiId) v)

/-- The fields of the vendors' blocks alone. -/
def Ntv2DisplayidVideo.vendorPart (v : Ntv2DisplayidVideo) : Ntv2DisplayidVideo :=
  { v with
    protocol := .unknown
    underscan := false
    ycbcr444 := false
    ycbcr422 := false
    ycbcr420 := false }

/-- The fields without those of the HDMI block. -/
def Ntv2DisplayidVideo.withoutHdmi (v : Ntv2DisplayidVideo) : Ntv2DisplayidVideo :=
  { protocol := v.protocol
    underscan := v.underscan
    ycbcr444 := v.ycbcr444
    ycbcr422 := v.ycbcr422
    ycbcr420 := v.ycbcr420
    maxTmdsCsc := v.maxTmdsCsc
    osdDisparity := v.osdDisparity
    dualView := v.dualView
    indepView := v.indepView
    lteScramble := v.lteScramble
    rrCapable := v.rrCapable
    scdcPresent := v.scdcPresent
    dc30bit420 := v.dc30bit420
    dc36bit420 := v.dc36bit420
    dc48bit420 := v.dc48bit420 }

/-- The fields of the HF block from another status. -/
def Ntv2DisplayidVideo.withHf (u v : Ntv2DisplayidVideo) : Ntv2DisplayidVideo :=
  { u with
    maxTmdsCsc := v.maxTmdsCsc
    osdDisparity := v.osdDisparity
    dualView := v.dualView
    indepView := v.indepView
    lteScramble := v.lteScramble
    rrCapable := v.rrCapable
    scdcPresent := v.scdcPresent
    dc30bit420 := v.dc30bit420
    dc36bit420 := v.dc36bit420
    dc48bit420 := v.dc48bit420 }

/-! ### What a block changes -/

/-- The setters of the HDMI block. -/
def hdmiSetters : List (Byte → Ntv2DisplayidVideo → Ntv2DisplayidVideo) :=
  [setDeepColor, setMaxClockFreq, setContent, setVideoLatency, setAudioLatency,
    setIntVideoLatency, setIntAudioLatency, fun _ => copyLatencies, setVic]

/-- The setters of the HF block. -/
def hfSetters : List (Byte → Ntv2DisplayidVideo → Ntv2DisplayidVideo) :=
  [setMaxTmdsCsc, setHfFlags, setDeepColor420]

/-- A relation of two statuses that is kept where a setter sets both. -/
def KeptBy (setters : List (Byte → Ntv2DisplayidVideo → Ntv2DisplayidVideo))
    (R : Ntv2DisplayidVideo → Ntv2DisplayidVideo → Prop) : Prop :=
  ∀ set ∈ setters, ∀ b v w, R v w → R (set b v) (set b w)

section Kept

variable {R : Ntv2DisplayidVideo → Ntv2DisplayidVideo → Prop}
  {setters : List (Byte → Ntv2DisplayidVideo → Ntv2DisplayidVideo)}
  {set : Byte → Ntv2DisplayidVideo → Ntv2DisplayidVideo} {byte : ℕ → Option Byte}
  {v w : Ntv2DisplayidVideo}

/-- A byte that may be missing. -/
lemma KeptBy.setFrom (h : KeptBy setters R) (hset : set ∈ setters) (b : Option Byte)
    (hvw : R v w) : R (LibAjaNtv2.setFrom set b v) (LibAjaNtv2.setFrom set b w) := by
  cases b with
  | none => exact hvw
  | some b => exact h set hset b v w hvw

/-- The formats. -/
lemma KeptBy.vics (h : KeptBy hdmiSetters R) (ks : List ℕ) (hvw : R v w) :
    R (ks.foldl (fun v k => LibAjaNtv2.setFrom setVic (byte k) v) v)
      (ks.foldl (fun v k => LibAjaNtv2.setFrom setVic (byte k) v) w) := by
  induction ks generalizing v w with
  | nil => exact hvw
  | cons k ks ih => exact ih (h.setFrom (by simp [hdmiSetters]) (byte k) hvw)

/-- The latencies. -/
lemma KeptBy.latencies (h : KeptBy hdmiSetters R) (byte : ℕ → Option Byte) (flags : Byte)
    (hvw : R v w) : R (hdmiLatencies byte flags v) (hdmiLatencies byte flags w) := by
  rw [hdmiLatencies, hdmiLatencies]
  split_ifs
  · refine h.setFrom (by simp [hdmiSetters]) _ (h.setFrom (by simp [hdmiSetters]) _ ?_)
    exact h.setFrom (by simp [hdmiSetters]) _ (h.setFrom (by simp [hdmiSetters]) _ hvw)
  · refine h (fun _ => copyLatencies) (by simp [hdmiSetters]) 0 _ _ ?_
    exact h.setFrom (by simp [hdmiSetters]) _ (h.setFrom (by simp [hdmiSetters]) _ hvw)
  · exact hvw

/-- **What the setters keep, an HDMI block keeps.** -/
lemma KeptBy.hdmi_fields (h : KeptBy hdmiSetters R) (byte : ℕ → Option Byte) (hvw : R v w) :
    R (hdmiFields byte v) (hdmiFields byte w) := by
  have hcolor : R (LibAjaNtv2.setFrom setMaxClockFreq (byte 7)
        (LibAjaNtv2.setFrom setDeepColor (byte 6) v))
      (LibAjaNtv2.setFrom setMaxClockFreq (byte 7)
        (LibAjaNtv2.setFrom setDeepColor (byte 6) w)) :=
    h.setFrom (by simp [hdmiSetters]) _ (h.setFrom (by simp [hdmiSetters]) _ hvw)
  rw [hdmiFields, hdmiFields]
  cases byte 8 with
  | none => exact hcolor
  | some flags =>
      have hlat := h.latencies byte flags
        (h setContent (by simp [hdmiSetters]) flags _ _ hcolor)
      simp only
      split_ifs
      · rw [hdmiFormats, hdmiFormats]
        cases byte (latencyEnd flags + 2) with
        | none => exact hlat
        | some n => exact h.vics _ hlat
      · exact hlat

/-- **What the setters keep, an HF block keeps.** -/
lemma KeptBy.hf_fields (h : KeptBy hfSetters R) (byte : ℕ → Option Byte) (hvw : R v w) :
    R (hfFields byte v) (hfFields byte w) :=
  h.setFrom (by simp [hfSetters]) _ (h.setFrom (by simp [hfSetters]) _
    (h.setFrom (by simp [hfSetters]) _ hvw))

end Kept

section Parts

variable {setters : List (Byte → Ntv2DisplayidVideo → Ntv2DisplayidVideo)}
  {g : Ntv2DisplayidVideo → Ntv2DisplayidVideo}

lemma KeptBy.of_commute (h : ∀ set ∈ setters, ∀ b v, g (set b v) = set b (g v)) :
    KeptBy setters fun v w => g v = w := by
  rintro set hset b v w rfl
  exact h set hset b v

/-- Setters of fields that a change of the status takes away. -/
lemma KeptBy.of_absorb {c : Ntv2DisplayidVideo} (h : ∀ set ∈ setters, ∀ b v, g (set b v) = g v) :
    KeptBy setters fun v _ => g v = c := by
  rintro set hset b v w rfl
  exact h set hset b v

/-- The HDMI block does not look at the other fields. -/
lemma hdmi_vendorPart : KeptBy hdmiSetters fun v w => v.vendorPart = w := by
  refine KeptBy.of_commute fun set hset b v => ?_
  simp only [hdmiSetters, List.mem_cons, List.not_mem_nil, or_false] at hset
  -- latencies and formats are set under a condition
  rcases hset with rfl | rfl | rfl | rfl | rfl | rfl | rfl | rfl | rfl <;> first
    | rfl
    | (simp only [setVideoLatency, setAudioLatency, setIntVideoLatency, setIntAudioLatency, setVic]
       split_ifs <;> rfl)

/-- The HDMI block does not look at the fields of the HF block. -/
lemma hdmi_withHf (u : Ntv2DisplayidVideo) : KeptBy hdmiSetters fun v w => v.withHf u = w := by
  refine KeptBy.of_commute fun set hset b v => ?_
  simp only [hdmiSetters, List.mem_cons, List.not_mem_nil, or_false] at hset
  -- latencies and formats are set under a condition
  rcases hset with rfl | rfl | rfl | rfl | rfl | rfl | rfl | rfl | rfl <;> first
    | rfl
    | (simp only [setVideoLatency, setAudioLatency, setIntVideoLatency, setIntAudioLatency, setVic]
       split_ifs <;> rfl)

/-- The HDMI block sets its own fields. -/
lemma hdmi_withoutHdmi (c : Ntv2DisplayidVideo) :
    KeptBy hdmiSetters fun v _ => v.withoutHdmi = c := by
  refine KeptBy.of_absorb fun set hset b v => ?_
  simp only [hdmiSetters, List.mem_cons, List.not_mem_nil, or_false] at hset
  -- latencies and formats are set under a condition
  rcases hset with rfl | rfl | rfl | rfl | rfl | rfl | rfl | rfl | rfl <;> first
    | rfl
    | (simp only [setVideoLatency, setAudioLatency, setIntVideoLatency, setIntAudioLatency, setVic]
       split_ifs <;> rfl)

lemma hf_vendorPart : KeptBy hfSetters fun v w => v.vendorPart = w := by
  refine KeptBy.of_commute fun set hset b v => ?_
  simp only [hfSetters, List.mem_cons, List.not_mem_nil, or_false] at hset
  rcases hset with rfl | rfl | rfl <;> rfl

/-- The HF block does not look at the fields of the HDMI block. -/
lemma hf_withoutHdmi : KeptBy hfSetters fun v w => v.withoutHdmi = w := by
  refine KeptBy.of_commute fun set hset b v => ?_
  simp only [hfSetters, List.mem_cons, List.not_mem_nil, or_false] at hset
  rcases hset with rfl | rfl | rfl <;> rfl

lemma hf_withHf (u : Ntv2DisplayidVideo) : KeptBy hfSetters fun v w => u.withHf v = w := by
  refine KeptBy.of_commute fun set hset b v => ?_
  simp only [hfSetters, List.mem_cons, List.not_mem_nil, or_false] at hset
  rcases hset with rfl | rfl | rfl <;> rfl

end Parts

section Blocks

variable {R : Ntv2DisplayidVideo → Ntv2DisplayidVideo → Prop} {v w : Ntv2DisplayidVideo}

/-- What the setters keep, an HDMI block keeps where there is one. -/
lemma KeptBy.hdmi_block (h : KeptBy hdmiSetters R) (ext : ℕ → Byte) (block : Option ℕ)
    (hvw : R v w) : R (blockFields hdmiFields ext block v) (blockFields hdmiFields ext block w) := by
  cases block with
  | none => exact hvw
  | some p => exact h.hdmi_fields _ hvw

/-- What the setters keep, an HF block keeps where there is one. -/
lemma KeptBy.hf_block (h : KeptBy hfSetters R) (ext : ℕ → Byte) (block : Option ℕ) (hvw : R v w) :
    R (blockFields hfFields ext block v) (blockFields hfFields ext block w) := by
  cases block with
  | none => exact hvw
  | some p => exact h.hf_fields _ hvw

lemma blockByte_short {ext : ℕ → Byte} {p k : ℕ} (hshort : headerLength ext p < 3) (hk : 3 ≤ k) :
    blockByte ext p k = none := if_neg (by omega)

/-- A short block has no HDMI fields. -/
lemma hdmi_short {ext : ℕ → Byte} {block : Option ℕ}
    (hshort : ∀ p, block = some p → headerLength ext p < 3) (v : Ntv2DisplayidVideo) :
    blockFields hdmiFields ext block v = v := by
  cases block with
  | none => rfl
  | some p =>
      have hlen := hshort p rfl
      rw [blockFields, hdmiFields, blockByte_short hlen (by omega), blockByte_short hlen (by omega),
        blockByte_short hlen (by omega)]
      rfl

/-- A short block has no HF fields. -/
lemma hf_short {ext : ℕ → Byte} {block : Option ℕ}
    (hshort : ∀ p, block = some p → headerLength ext p < 3) (v : Ntv2DisplayidVideo) :
    blockFields hfFields ext block v = v := by
  cases block with
  | none => rfl
  | some p =>
      have hlen := hshort p rfl
      rw [blockFields, hfFields, blockByte_short hlen (by omega), blockByte_short hlen (by omega),
        blockByte_short hlen (by omega)]
      rfl

/-- **The fields of two blocks are those of other two** where those of each are. -/
lemma fields_eq_iff (ext : ℕ → Byte) (hdmi hdmi' hf hf' : Option ℕ) :
    blockFields hfFields ext hf (blockFields hdmiFields ext hdmi {}) =
        blockFields hfFields ext hf' (blockFields hdmiFields ext hdmi' {}) ↔
      blockFields hdmiFields ext hdmi {} = blockFields hdmiFields ext hdmi' {} ∧
        blockFields hfFields ext hf {} = blockFields hfFields ext hf' {} := by
  -- the fields of the HDMI block are a status without those of the HF block
  have hsplit : ∀ hdmi hf : Option ℕ,
      blockFields hfFields ext hf (blockFields hdmiFields ext hdmi {}) =
        (blockFields hdmiFields ext hdmi {}).withHf (blockFields hfFields ext hf {}) := by
    intro hdmi hf
    have hnone : (blockFields hdmiFields ext hdmi {}).withHf {} = blockFields hdmiFields ext hdmi {} :=
      (hdmi_withHf {}).hdmi_block ext hdmi rfl
    exact ((hf_withHf _).hf_block ext hf hnone).symm
  have hpartHdmi : ∀ hdmi hf : Option ℕ,
      (blockFields hfFields ext hf (blockFields hdmiFields ext hdmi {})).withHf {} =
        blockFields hdmiFields ext hdmi {} := by
    intro hdmi hf
    rw [hsplit]
    exact (hdmi_withHf {}).hdmi_block ext hdmi rfl
  have hpartHf : ∀ hdmi hf : Option ℕ,
      (blockFields hfFields ext hf (blockFields hdmiFields ext hdmi {})).withoutHdmi =
        blockFields hfFields ext hf {} := by
    intro hdmi hf
    refine hf_withoutHdmi.hf_block ext hf ?_
    exact (hdmi_withoutHdmi _).hdmi_block (w := {}) ext hdmi rfl
  constructor
  · intro heq
    refine ⟨?_, ?_⟩
    · rw [← hpartHdmi hdmi hf, heq, hpartHdmi]
    · rw [← hpartHf hdmi hf, heq, hpartHf]
  · rintro ⟨hhdmi, hhf⟩
    rw [hsplit, hhdmi, hhf, ← hsplit]

end Blocks

/-! ### The video status -/

namespace Ntv2Displayid

variable {did : Ntv2Displayid} {base ext : ℕ → Byte}

/-- Where the global walk goes well. -/
def GlobalEnds (ext : ℕ → Byte) : Prop :=
  ¬ (GlobalComesTo ext 127 ∧ headerTag ext 127 = .extended)

/-- The global status leaves the vendors' fields. -/
lemma Reads.global_ends (h : did.Reads base ext) (v : Ntv2DisplayidVideo) :
    ∃ v', v'.vendorPart = v.vendorPart ∧
      Attempt.Ends (did.getGlobalVideoStatus 1) v (GlobalEnds ext) () v' := by
  obtain ⟨hok, b, hv', -⟩ := h.global_from 4 (v.setGlobal (ext 3))
  refine ⟨{ v.setGlobal (ext 3) with ycbcr420 := b }, rfl, fun hends => ?_, fun hnot => ?_⟩
  · rw [h.global_status]
    exact Prod.ext (hok.mpr hends) hv'
  · rw [h.global_status]
    cases hres : (did.getGlobalVideoStatusFrom 1 4 (v.setGlobal (ext 3))).1 with
    | ok u => exact absurd (hok.mp hres) hnot
    | error e => exact ⟨e, rfl⟩

/-- The bytes that are read for the fields of an HDMI block are there. -/
def HdmiReadable (ext : ℕ → Byte) (p : ℕ) : Prop := p + hdmiLastRead (blockByte ext p) < 128

/-- The bytes that are read for the fields of an HF block are there. -/
def HfReadable (p : ℕ) : Prop := p + 7 < 128

/-- The status of a vendor's block is the one of the block that the search takes. -/
lemma Reads.vendor_status (h : did.Reads base ext) (hwf : WellFormed base ext)
    {isId : (ℕ → Byte) → Bool} (hid : IsNumberTest isId) (regId : ℕ → Byte)
    (ok : ℕ → Prop) {routine : ℕ → VideoRoutine Unit}
    {fields : (ℕ → Option Byte) → Ntv2DisplayidVideo → Ntv2DisplayidVideo}
    (hroutine : ∀ p v, Attempt.Ends (routine p) v (ok p) () (fields (blockByte ext p) v))
    (v : Ntv2DisplayidVideo) :
    Attempt.Ends (do
        Attempt.require (1 ≠ 0) ()
        let dbIndex ← Attempt.option () (did.getIndexForVendor isId regId 1)
        if dbIndex ≠ 0 then routine dbIndex else pure ()) v
      (∀ p, takenVendor ext isId regId = some p → ok p) ()
      (blockFields fields ext (takenVendor ext isId regId) v) := by
  rw [h.vendor_index hwf]
  cases htaken : takenVendor ext isId regId with
  | none => exact ⟨fun _ => rfl, fun hnot => absurd (fun p hp => by cases hp) hnot⟩
  | some p =>
      have hpos : p ≠ 0 := takenVendor_pos hid htaken
      obtain ⟨hgood, hbad⟩ := hroutine p v
      rw [Option.getD_some]
      refine ⟨fun hok => ?_, fun hnot => ?_⟩
      · rw [Attempt.require_bind one_ne_zero, Attempt.bind_ok Attempt.option_some, if_pos hpos]
        exact hgood (hok p rfl)
      · rw [Attempt.require_bind one_ne_zero, Attempt.bind_ok Attempt.option_some, if_pos hpos]
        exact hbad fun hok => hnot fun q hq => Option.some.inj hq ▸ hok

/-- The conditions under which the video status is read. -/
structure VideoReadable (ext : ℕ → Byte) (uninit : Uninitialised) : Prop where
  timings : GlobalEnds ext
  hdmi : ∀ p, takenVendor ext isHdmiId uninit.hdmiRegId = some p → HdmiReadable ext p
  hf : ∀ p, takenVendor ext isHfId uninit.hfRegId = some p → HfReadable p

/-- The fields of the blocks that the search takes. -/
def takenFields (ext : ℕ → Byte) (uninit : Uninitialised) (v : Ntv2DisplayidVideo) :
    Ntv2DisplayidVideo :=
  blockFields hfFields ext (takenVendor ext isHfId uninit.hfRegId)
    (blockFields hdmiFields ext (takenVendor ext isHdmiId uninit.hdmiRegId) v)

/-- **The video status of an HDMI sink.** -/
lemma Reads.video_status (h : did.Reads base ext) (hwf : WellFormed base ext)
    (hrev : HasDataBlocks ext) (uninit : Uninitialised) (v : Ntv2DisplayidVideo) :
    ∃ v', v'.vendorPart = takenFields ext uninit {} ∧
      Attempt.Ends (did.getVideoStatus uninit) v (VideoReadable ext uninit) () v' := by
  have hext := hwf.hdmi_extension hrev
  obtain ⟨g, hg, hglobal⟩ := h.global_ends { protocol := .hdmi }
  have hhdmi := h.vendor_status hwf isHdmiId_test uninit.hdmiRegId (HdmiReadable ext)
    (fun p v => h.hdmi_fields p v) g
  have hhf := h.vendor_status hwf isHfId_test uninit.hfRegId HfReadable
    (fun p v => h.hf_fields p v)
    (blockFields hdmiFields ext (takenVendor ext isHdmiId uninit.hdmiRegId) g)
  refine ⟨takenFields ext uninit g, ?_, ?_⟩
  · refine hf_vendorPart.hf_block ext _ (hdmi_vendorPart.hdmi_block ext _ ?_)
    exact hg
  · have hall : Attempt.Ends (did.getGlobalVideoStatus 1 >>= fun _ =>
        did.getHdmiVideoStatus uninit 1 >>= fun _ => did.getHfVideoStatus uninit 1)
        { protocol := .hdmi } (VideoReadable ext uninit) () (takenFields ext uninit g) :=
      (hglobal.bind (f := fun _ => did.getHdmiVideoStatus uninit 1 >>= fun _ =>
        did.getHfVideoStatus uninit 1) (hhdmi.bind (f := fun _ => did.getHfVideoStatus uninit 1)
          hhf)).congr ⟨fun hok => ⟨hok.1, hok.2.1, hok.2.2⟩,
            fun hok => ⟨hok.timings, hok.hdmi, hok.hf⟩⟩
    have hstatus : did.getVideoStatus uninit v = (did.getGlobalVideoStatus 1 >>= fun _ =>
        did.getHdmiVideoStatus uninit 1 >>= fun _ => did.getHfVideoStatus uninit 1)
          { protocol := .hdmi } := by
      rw [getVideoStatus, Attempt.modify_bind, h.protocol hext,
        Attempt.bind_ok Attempt.option_some, Attempt.modify_bind, if_pos rfl, h.block_number hext,
        Attempt.bind_ok Attempt.option_some, if_neg one_ne_zero]
    exact ⟨fun hok => hstatus.trans (hall.good hok), fun hnot => hstatus ▸ hall.bad hnot⟩

/-! ### The audio status -/

/-- A descriptor is read wherever the search goes well. -/
lemma audio_descriptor_ok {format : Ntv2Cea861AudioFormat} {inst i : ℕ}
    (hindex : did.getIndexForAudioDescriptor 1 format inst = some i) (bytes : ℕ → Byte)
    (descriptor : Ntv2DisplayidAudioFormat) :
    ∃ d, did.getAudioDescriptor bytes 1 format inst descriptor = some d := by
  simp only [getAudioDescriptor, if_neg one_ne_zero, hindex, Option.bind_eq_bind,
    Option.bind_some]
  by_cases hi : i = 0
  · exact ⟨_, if_pos hi⟩
  · rw [if_neg hi, readEdidRegisters, if_neg (by omega)]
    exact ⟨_, rfl⟩

/-- The loop over the LPCM descriptors goes well. -/
lemma Reads.audio_from_ok (h : did.Reads base ext) (hwf : WellFormed base ext)
    (uninit : Uninitialised) (rounds inst : ℕ) (a : Ntv2DisplayidAudio) :
    ∃ a', did.getAudioStatusFrom uninit 1 rounds inst a = (.ok (), a') := by
  induction rounds generalizing inst a with
  | zero => exact ⟨a, rfl⟩
  | succ rounds ih =>
      obtain ⟨d, hd⟩ := audio_descriptor_ok
        (h.audio_index hwf.collection_inside hwf.descriptors_inside) (uninit.bytes inst) {}
      rw [getAudioStatusFrom, hd, Attempt.bind_ok Attempt.option_some]
      by_cases hlpcm : d.audioFormat = .lpcm
      · rw [if_neg (not_not.mpr hlpcm), Attempt.modify_bind]
        exact ih _ _
      · rw [if_pos hlpcm]
        exact ⟨a, rfl⟩

/-- **The audio status is always read.** -/
lemma Reads.audio_ok (h : did.Reads base ext) (hwf : WellFormed base ext)
    (hrev : HasDataBlocks ext) (uninit : Uninitialised) (a : Ntv2DisplayidAudio) :
    ∃ a', did.getAudioStatus uninit a = (.ok (), a') := by
  have hext := hwf.hdmi_extension hrev
  by_cases hbasic : ext 3 &&& 0x40 ≠ 0
  · rw [h.audio_status ⟨hext, hbasic⟩]
    exact h.audio_from_ok hwf uninit 255 0 _
  · have hglobal : ∀ a, did.getGlobalAudioStatus 1 a = (.ok (), { a with basicAudio := false }) := by
      intro a
      rw [getGlobalAudioStatus, Attempt.require_bind one_ne_zero,
        Attempt.bind_ok (by rw [h.reg, if_pos (by omega)]), Attempt.modify, decide_eq_false hbasic]
    rw [getAudioStatus, Attempt.modify_bind, h.protocol hext,
      Attempt.bind_ok Attempt.option_some, Attempt.modify_bind, if_pos rfl,
      h.block_number hext, Attempt.bind_ok Attempt.option_some,
      if_neg one_ne_zero, Attempt.bind_ok (hglobal _)]
    exact ⟨_, rfl⟩

/-! ### The update -/

/-- The sink of an extension without data blocks is not an HDMI sink of today. -/
lemma Reads.old_protocol (h : did.Reads base ext) (hwf : WellFormed base ext)
    (hrev : ¬ HasDataBlocks ext) :
    ∃ protocol, did.getEdidSinkProtocol = some protocol ∧ protocol ≠ .hdmi := by
  have hbase : did.readEdidRegister 0 0x7E = some (base 0x7E) := h.base_register (by omega)
  have htag : did.readEdidRegister 1 0x00 = some (ext 0x00) := by rw [h.register, if_pos (by omega)]
  have hrevision : did.readEdidRegister 1 0x01 = some (ext 0x01) := by
    rw [h.register, if_pos (by omega)]
  have hnumber : did.getBlockNumberForExtension extensionTagCea861Hdmi = some 1 := by
    simp only [getBlockNumberForExtension, getEdidNumExtensions, hbase, Option.bind_eq_bind,
      Option.bind_some, if_neg hwf.announced, htag, if_pos hwf.tag]
    rfl
  have hold : ext 1 = 0 ∨ ext 1 = 1 := by
    rw [HasDataBlocks] at hrev
    have hsmall : (ext 1).toNat = 0 ∨ (ext 1).toNat = 1 := by omega
    exact hsmall.imp BitVec.eq_of_toNat_eq BitVec.eq_of_toNat_eq
  simp only [getEdidSinkProtocol, hnumber, Option.bind_eq_bind, Option.bind_some,
    getEdidExtensionRevision]
  rw [if_neg (by omega), if_neg (by omega), hrevision, Option.bind_some]
  rcases hold with hzero | hone
  · rw [hzero]
    exact ⟨.dvi, rfl, by decide⟩
  · rw [hone]
    exact ⟨.hdmiv1, rfl, by decide⟩

/-- An update of an HDMI sink goes well where the video status is read. -/
lemma Reads.update_ends (h : did.Reads base ext) (hwf : WellFormed base ext)
    (hrev : HasDataBlocks ext) (uninit : Uninitialised) :
    ((did.update uninit).1 = true ↔ VideoReadable ext uninit) ∧
      (VideoReadable ext uninit →
        (did.update uninit).2.video.vendorPart = takenFields ext uninit {}) := by
  obtain ⟨v', hv', hvideo⟩ := h.video_status hwf hrev uninit did.video
  obtain ⟨a', ha'⟩ := h.audio_ok hwf hrev uninit did.audio
  by_cases hread : VideoReadable ext uninit
  · have hupdate : did.update uninit = (true, { did with video := v', audio := a' }) := by
      rw [update, hvideo.good hread, ha']
    rw [hupdate]
    exact ⟨iff_of_true rfl hread, fun _ => hv'⟩
  · refine ⟨iff_of_false ?_ hread, fun hyes => absurd hyes hread⟩
    obtain ⟨e, he⟩ := hvideo.bad hread
    rcases hres : did.getVideoStatus uninit did.video with ⟨_ | u, t⟩
    · rw [update, hres]
      exact Bool.false_ne_true
    · rw [hres] at he
      cases he

/-- An update of an old sink goes well, and sets no field of a vendor. -/
lemma Reads.update_old (h : did.Reads base ext) (hwf : WellFormed base ext)
    (hrev : ¬ HasDataBlocks ext) (uninit : Uninitialised) :
    (did.update uninit).1 = true ∧ (did.update uninit).2.video.vendorPart = {} := by
  obtain ⟨protocol, hprotocol, hne⟩ := h.old_protocol hwf hrev
  have hvideo : did.getVideoStatus uninit did.video = (.ok (), { protocol := protocol }) := by
    rw [getVideoStatus, Attempt.modify_bind, hprotocol, Attempt.bind_ok Attempt.option_some,
      Attempt.modify_bind, if_neg hne]
    rfl
  have haudio : did.getAudioStatus uninit did.audio = (.ok (), { protocol := protocol }) := by
    rw [getAudioStatus, Attempt.modify_bind, hprotocol, Attempt.bind_ok Attempt.option_some,
      Attempt.modify_bind, if_neg hne]
    rfl
  have hupdate : did.update uninit = (true,
      { did with video := { protocol := protocol }, audio := { protocol := protocol } }) := by
    rw [update, hvideo, haudio]
  rw [hupdate]
  exact ⟨rfl, rfl⟩

/-- The update goes well, and the vendors' fields are those that the first HDMI block and the first
HF block say with the bytes of their announced lengths. -/
structure Accepted (did : Ntv2Displayid) (uninit : Uninitialised) (ext : ℕ → Byte) : Prop where
  ok : (did.update uninit).1 = true
  fields : (did.update uninit).2.video.vendorPart = vendorFields ext {}

/-- What a vendor's first block says is read from it, or it says nothing. -/
def ReadFrom (fields : (ℕ → Option Byte) → Ntv2DisplayidVideo → Ntv2DisplayidVideo)
    (ext : ℕ → Byte) (taken first : Option ℕ) : Prop :=
  taken = first ∨ blockFields fields ext first {} = {}

/-- The condition on an extension with data blocks. -/
structure Acceptable (ext : ℕ → Byte) (uninit : Uninitialised) : Prop
    extends VideoReadable ext uninit where
  hdmiFirst : ReadFrom hdmiFields ext (takenVendor ext isHdmiId uninit.hdmiRegId)
    (firstVendor ext isHdmiId)
  hfFirst : ReadFrom hfFields ext (takenVendor ext isHfId uninit.hfRegId) (firstVendor ext isHfId)

/-- The fields are those of the first block where it is taken, or says nothing. -/
lemma readFrom_iff (fields : (ℕ → Option Byte) → Ntv2DisplayidVideo → Ntv2DisplayidVideo)
    (ext : ℕ → Byte) {taken first : Option ℕ}
    (hshort : taken = first ∨ blockFields fields ext taken {} = {}) :
    blockFields fields ext taken {} = blockFields fields ext first {} ↔
      ReadFrom fields ext taken first := by
  constructor
  · intro heq
    rcases hshort with hfirst | hnothing
    · exact .inl hfirst
    · exact .inr (heq.symm.trans hnothing)
  · rintro (rfl | hnothing)
    · rfl
    · rcases hshort with rfl | hshort
      · rfl
      · rw [hshort, hnothing]

end Ntv2Displayid

/-- **A well-formed EDID is accepted** exactly where an extension with data blocks is acceptable. -/
theorem Ntv2Displayid.accepted_iff {did : Ntv2Displayid} {base ext : ℕ → Byte}
    (h : did.Reads base ext) (hwf : WellFormed base ext) (uninit : Uninitialised) :
    did.Accepted uninit ext ↔ (HasDataBlocks ext → Acceptable ext uninit) := by
  by_cases hrev : HasDataBlocks ext
  · obtain ⟨hok, hfields⟩ := h.update_ends hwf hrev uninit
    have hhdmi := readFrom_iff hdmiFields ext
      ((taken_eq_first_or_short hwf hrev isHdmiId_test uninit.hdmiRegId).imp_right
        fun hshort => hdmi_short hshort {})
    have hhf := readFrom_iff hfFields ext
      ((taken_eq_first_or_short hwf hrev isHfId_test uninit.hfRegId).imp_right
        fun hshort => hf_short hshort {})
    have hboth : takenFields ext uninit {} = vendorFields ext {} ↔
        ReadFrom hdmiFields ext (takenVendor ext isHdmiId uninit.hdmiRegId)
          (firstVendor ext isHdmiId) ∧
        ReadFrom hfFields ext (takenVendor ext isHfId uninit.hfRegId) (firstVendor ext isHfId) :=
      (fields_eq_iff ext _ _ _ _).trans (and_congr hhdmi hhf)
    constructor
    · intro haccepted _
      have hread := hok.mp haccepted.ok
      obtain ⟨hone, htwo⟩ := hboth.mp ((hfields hread).symm.trans haccepted.fields)
      exact ⟨hread, hone, htwo⟩
    · intro hcond
      obtain ⟨hread, hone, htwo⟩ := hcond hrev
      exact ⟨hok.mpr hread, (hfields hread).trans (hboth.mpr ⟨hone, htwo⟩)⟩
  · obtain ⟨hok, hfields⟩ := h.update_old hwf hrev uninit
    refine iff_of_true ⟨hok, hfields.trans ?_⟩ fun hyes => absurd hyes hrev
    have hnone : ∀ isId, firstVendor ext isId = none := fun isId => by
      rw [firstVendor, collectionBlocks, if_neg hrev]
      rfl
    rw [vendorFields, hnone, hnone]
    rfl

/-- An extension with an HDMI block and an HF block, of seven bytes each. -/
def extensionVendors : ℕ → Byte :=
  edidBlock [0x02, 0x03, 0x14, 0x00, 0x67, 0x03, 0x0C, 0x00, 0x10, 0x00, 0x38, 0x2D,
    0x67, 0xD8, 0x5D, 0xC4, 0x01, 0x78, 0x80, 0x03]

lemma wellFormed_extensionVendors : WellFormed baseBlock extensionVendors := by
  have hfirst : headerLength extensionVendors 4 = 7 := by decide
  have hsecond : headerLength extensionVendors 12 = 7 := by decide
  have hend : tilingEnd extensionVendors = 20 := by decide
  refine ⟨by decide, by decide, by decide, .hop trivial ?_⟩
  rw [hfirst]
  refine .hop trivial ?_
  rw [hsecond, hend]
  exact .refl 20

/-- An EDID with both blocks is accepted, and its fields are theirs. -/
theorem Ntv2Displayid.accepted_extensionVendors :
    (Ntv2Displayid.ofBlocks baseBlock extensionVendors).Accepted zeroUninit extensionVendors := by
  have hhdmi : takenVendor extensionVendors isHdmiId zeroUninit.hdmiRegId = some 4 := by
    decide +kernel
  have hhf : takenVendor extensionVendors isHfId zeroUninit.hfRegId = some 12 := by decide +kernel
  have htag : headerTag extensionVendors 127 ≠ .extended := by decide
  have hlast : hdmiLastRead (blockByte extensionVendors 4) = 8 := by decide
  refine (Ntv2Displayid.accepted_iff (Ntv2Displayid.reads_ofBlocks baseBlock extensionVendors)
    wellFormed_extensionVendors zeroUninit).mpr fun _ => ⟨⟨fun hwalk => htag hwalk.2, ?_, ?_⟩,
      .inl (by decide +kernel), .inl (by decide +kernel)⟩
  · intro p hp
    obtain rfl := Option.some.inj (hhdmi.symm.trans hp)
    rw [Ntv2Displayid.HdmiReadable, hlast]
    omega
  · intro p hp
    obtain rfl := Option.some.inj (hhf.symm.trans hp)
    rw [Ntv2Displayid.HfReadable]
    omega

/-- An extension without timings, whose data blocks are four of short video descriptors and an HDMI
block of five bytes. -/
def extensionShort : ℕ → Byte :=
  edidBlock ([0x02, 0x03, 0x7F, 0x00] ++ 0x5F :: List.replicate 31 0x10 ++
    0x5F :: List.replicate 31 0x10 ++ 0x5F :: List.replicate 31 0x10 ++
    0x54 :: List.replicate 20 0x10 ++ [0x65, 0x03, 0x0C, 0x00, 0x10, 0x00])

lemma wellFormed_extensionShort : WellFormed baseBlock extensionShort := by
  have hlong : ∀ p ∈ [4, 36, 68], headerLength extensionShort p = 31 := by decide
  have hvideo : headerLength extensionShort 100 = 20 := by decide
  have hhdmi : headerLength extensionShort 121 = 5 := by decide
  have hend : tilingEnd extensionShort = 127 := by decide
  refine ⟨by decide, by decide, by decide, .hop trivial ?_⟩
  rw [hlong 4 (by decide)]
  refine .hop trivial ?_
  rw [hlong 36 (by decide)]
  refine .hop trivial ?_
  rw [hlong 68 (by decide)]
  refine .hop trivial ?_
  rw [hvideo]
  refine .hop trivial ?_
  rw [hhdmi, hend]
  exact .refl 127

/-- The update reads behind the last block, and is not accepted. -/
theorem Ntv2Displayid.not_accepted_extensionShort :
    WellFormed baseBlock extensionShort ∧
      ¬ (Ntv2Displayid.ofBlocks baseBlock extensionShort).Accepted zeroUninit extensionShort := by
  have hfails : ((Ntv2Displayid.ofBlocks baseBlock extensionShort).update zeroUninit).1 = false := by
    decide +kernel
  refine ⟨wellFormed_extensionShort, fun haccepted => ?_⟩
  rw [haccepted.ok] at hfails
  cases hfails

end LibAjaNtv2
