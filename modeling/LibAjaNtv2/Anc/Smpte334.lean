import Mathlib.Data.List.GetD
import LibAjaNtv2.Anc.Types
import LibAjaNtv2.Lib.Attempt

/-!
Packets from words of SMPTE 334 (`AJAAncillaryData::SetFromSMPTE334`).

* `SetFromSMPTE334`: the packet in an array of words; nothing where a word past its end is read;
* `setFromSMPTE334_complete`, `setFromSMPTE334_short`, `setFromSMPTE334_none`: what becomes of a
  complete packet, of words behind it, and of a packet that is cut off;
* `acceptsComplete_iff`: **when only complete packets are accepted**: the packet is not cut off.
-/

namespace LibAjaNtv2

open AJAStatus AJAAncDataCoding

/-- The words of a payload, from the seventh word on. -/
def payloadWords (words : List UWord) (payloadByteCount : ℕ) : Option (List UByte) :=
  (List.range payloadByteCount).mapM fun numWord =>
    (words[6 + numWord]?).map fun word => (word &&& 0x00FF#16).setWidth 8

namespace AJAAncillaryData

variable (pkt : AJAAncillaryData)

/-- `AJAAncillaryData::SetDataCoding`. -/
def SetDataCoding (inCodingType : AJAAncDataCoding) : AJAStatus × AJAAncillaryData :=
  if pkt.m_coding ≠ AJAAncDataCoding_Digital ∧ pkt.m_coding ≠ AJAAncDataCoding_Raw then
    (AJA_STATUS_RANGE, pkt)
  else (AJA_STATUS_SUCCESS, { pkt with m_coding := inCodingType })

/-- `AJAAncillaryData::SetFromSMPTE334`: a word past the end of the array has no value. -/
def SetFromSMPTE334 (pInData : Option (List UWord)) (inLocInfo : AJAAncDataLoc) :
    Option (AJAStatus × AJAAncillaryData) :=
  match pInData with
  | none => some (AJA_STATUS_NULL, pkt)
  | some words =>
      if words.length < 7 then some (AJA_STATUS_RANGE, pkt)
      else do
        let dataCount ← words[5]?
        let payloadByteCount := (dataCount &&& 0x00FF#16).toNat
        if payloadByteCount < words.length - 7 then return (AJA_STATUS_RANGE, pkt)
        let payload ← payloadWords words payloadByteCount
        let pkt := { pkt with m_payload := payload }
        let pkt := (pkt.SetDataCoding AJAAncDataCoding_Digital).2
        let pkt := (pkt.SetDataLocation inLocInfo).2
        let checksum ← words[6 + payloadByteCount]?
        let did ← words[3]?
        let sid ← words[4]?
        return (AJA_STATUS_SUCCESS, { pkt with
          m_checksum := (checksum &&& 0x00FF#16).setWidth 8
          m_DID := (did &&& 0x00FF#16).setWidth 8
          m_SID := (sid &&& 0x00FF#16).setWidth 8 })

end AJAAncillaryData

/-! ### The words that are read -/

section Words

variable {words : List UWord} {n : ℕ}

/-- The number of words that the packet announces for its payload. -/
def announcedCount (words : List UWord) : ℕ := (words.getD 5 0 &&& 0x00FF#16).toNat

/-- The byte of a word. -/
def wordByte (words : List UWord) (i : ℕ) : UByte := (words.getD i 0 &&& 0x00FF#16).setWidth 8

/-- A payload inside the array is read. -/
lemma payloadWords_inside (h : 6 + n ≤ words.length) :
    payloadWords words n =
      some ((List.range n).map fun numWord => wordByte words (6 + numWord)) := by
  refine mapM_eq_some fun i hi => ?_
  have hlt : 6 + i < words.length := by
    rw [List.mem_range] at hi
    omega
  rw [List.getElem?_eq_getElem hlt, wordByte, List.getD_eq_getElem _ _ hlt]
  rfl

/-- A payload that leaves the array is not. -/
lemma payloadWords_outside (hseven : 6 ≤ words.length) (h : words.length < 6 + n) :
    payloadWords words n = none := by
  refine mapM_eq_none (a := words.length - 6) (List.mem_range.mpr (by omega)) ?_
  rw [List.getElem?_eq_none (by omega)]
  rfl

end Words

namespace AJAAncillaryData

variable {pkt : AJAAncillaryData} {words : List UWord} {loc : AJAAncDataLoc}

lemma getElem_getD {i : ℕ} (h : i < words.length) : words[i]? = some (words.getD i 0) := by
  rw [List.getElem?_eq_getElem h, List.getD_eq_getElem _ _ h]

lemma getElem_count (hseven : 7 ≤ words.length) :
    words[5]? = some (words.getD 5 0) :=
  getElem_getD (by omega)

/-- Words behind the packet are refused. -/
lemma setFromSMPTE334_short (hseven : 7 ≤ words.length)
    (hmore : 7 + announcedCount words < words.length) :
    pkt.SetFromSMPTE334 (some words) loc = some (AJA_STATUS_RANGE, pkt) := by
  have hrange : (words.getD 5 0 &&& 0x00FF#16).toNat < words.length - 7 := by
    rw [announcedCount] at hmore
    omega
  simp only [SetFromSMPTE334, if_neg (not_lt.mpr hseven), getElem_count hseven,
    Option.bind_eq_bind, Option.bind_some, if_pos hrange]
  rfl

/-- **A packet that is cut off** is read beyond the end. -/
lemma setFromSMPTE334_none (hseven : 7 ≤ words.length)
    (hcut : words.length < 7 + announcedCount words) :
    pkt.SetFromSMPTE334 (some words) loc = none := by
  have hrange : ¬ (words.getD 5 0 &&& 0x00FF#16).toNat < words.length - 7 := by
    rw [announcedCount] at hcut
    omega
  simp only [SetFromSMPTE334, if_neg (not_lt.mpr hseven), getElem_count hseven,
    Option.bind_eq_bind, Option.bind_some, if_neg hrange]
  by_cases hpayload : words.length < 6 + announcedCount words
  · rw [announcedCount] at hpayload
    rw [payloadWords_outside (by omega) hpayload]
    rfl
  · have hlast : words[6 + (words.getD 5 0 &&& 0x00FF#16).toNat]? = none :=
      List.getElem?_eq_none (by
        rw [announcedCount] at hcut
        omega)
    rw [announcedCount] at hpayload
    rw [payloadWords_inside (by omega), hlast]
    rfl

/-- The packet of a complete array: its payload, coding and location, then its three bytes. -/
def completePacket (pkt : AJAAncillaryData) (words : List UWord) (loc : AJAAncDataLoc) :
    AJAAncillaryData :=
  let payload := (List.range (announcedCount words)).map fun numWord => wordByte words (6 + numWord)
  let coded := ({ pkt with m_payload := payload }.SetDataCoding AJAAncDataCoding_Digital).2
  { (coded.SetDataLocation loc).2 with
    m_checksum := wordByte words (6 + announcedCount words)
    m_DID := wordByte words 3
    m_SID := wordByte words 4 }

/-- **A complete packet** is accepted, with the bytes of its words. -/
lemma setFromSMPTE334_complete (hwhole : words.length = 7 + announcedCount words) :
    pkt.SetFromSMPTE334 (some words) loc =
      some (AJA_STATUS_SUCCESS, completePacket pkt words loc) := by
  have hseven : 7 ≤ words.length := by omega
  have hpayload : payloadWords words (announcedCount words) =
      some ((List.range (announcedCount words)).map fun numWord => wordByte words (6 + numWord)) :=
    payloadWords_inside (by omega)
  have hlast := getElem_getD (show 6 + announcedCount words < words.length by omega)
  have hrange : ¬ (words.getD 5 0 &&& 0x00FF#16).toNat < words.length - 7 := by
    rw [announcedCount] at hwhole
    omega
  rw [announcedCount] at hpayload hlast
  simp only [SetFromSMPTE334, if_neg (not_lt.mpr hseven), getElem_count hseven,
    Option.bind_eq_bind, Option.bind_some, if_neg hrange, hpayload, hlast,
    getElem_getD (show 3 < words.length by omega), getElem_getD (show 4 < words.length by omega)]
  rfl

/-- No word past the end is read, and a packet that is accepted is complete. -/
structure AcceptsComplete (pkt : AJAAncillaryData) (words : List UWord) (loc : AJAAncDataLoc) :
    Prop where
  inside : pkt.SetFromSMPTE334 (some words) loc ≠ none
  complete : ∀ pkt', pkt.SetFromSMPTE334 (some words) loc = some (AJA_STATUS_SUCCESS, pkt') →
    7 + announcedCount words ≤ words.length

/-- **Only complete packets are accepted, and nothing else is read** exactly where there are too few
words for a packet, or all of it. -/
theorem acceptsComplete_iff (pkt : AJAAncillaryData) (words : List UWord) (loc : AJAAncDataLoc) :
    AcceptsComplete pkt words loc ↔
      words.length < 7 ∨ 7 + announcedCount words ≤ words.length := by
  by_cases hseven : words.length < 7
  · have hresult : pkt.SetFromSMPTE334 (some words) loc = some (AJA_STATUS_RANGE, pkt) :=
      if_pos hseven
    refine iff_of_true ⟨by simp [hresult], fun pkt' h => ?_⟩ (.inl hseven)
    rw [hresult] at h
    cases h
  · rw [or_iff_right hseven]
    rw [not_lt] at hseven
    constructor
    · intro h
      by_contra hcut
      exact h.inside (setFromSMPTE334_none hseven (not_le.mp hcut))
    · intro hwhole
      refine ⟨?_, fun _ _ => hwhole⟩
      rcases hwhole.lt_or_eq with hmore | heq
      · rw [setFromSMPTE334_short hseven hmore]
        simp
      · rw [setFromSMPTE334_complete heq.symm]
        simp

/-- A packet that announces one byte, without it and without a checksum: the word behind the array
is read. -/
theorem not_acceptsComplete_cut :
    ¬ AcceptsComplete Init [0x000, 0x3FF, 0x3FF, 0x161, 0x101, 0x101, 0x142] Init.m_location := by
  intro h
  exact h.inside (by decide)

end AJAAncillaryData

end LibAjaNtv2
