import Mathlib.Data.BitVec
import Mathlib.Data.List.GetD
import LibAjaNtv2.Anc.Types

/-!
Packets in a line of 10-bit words (`AJAAncillaryData::GetAncPacketsFromVANCLine`).

* `CheckAncParityAndChecksum`: the words of a packet checked; nothing where one is past the end
  of the line;
* `GetAncPacketsFromVANCLine`: the scan of the words of a component;
* `PacketRight`: what the check is for; `checkAncParityAndChecksum_eq`: **it finds exactly that**;
* `scanHeaders_eq_none_iff`, `scanHeaders_found_iff`: when the scan leaves the line, and when it finds
  all headers that it meets;
* `scansRight_iff`: **when the scan stays in the line and misses nothing**.
-/

namespace LibAjaNtv2

/-- `AncChannelSearchSelect`. -/
inductive AncChannelSearchSelect
  | AncChannelSearch_Y
  | AncChannelSearch_C
  | AncChannelSearch_Both
  | AncChannelSearch_Invalid
  deriving DecidableEq, Repr

open AncChannelSearchSelect

/-- What the scan has found: its result, the packets and where they start. -/
structure VancPackets where
  found : Bool
  outRawPackets : List (List UWord)
  outWordOffsets : List ℕ
  deriving DecidableEq, Repr

namespace AncChannelSearchSelect

/-- The word that the search starts at. -/
def searchOffset (inChanSelect : AncChannelSearchSelect) : ℕ :=
  if inChanSelect = AncChannelSearch_Y then 1 else 0

/-- The distance of the words of a component. -/
def searchIncr (inChanSelect : AncChannelSearchSelect) : ℕ :=
  if inChanSelect = AncChannelSearch_Both then 1 else 2

/-- The distance is one or two. -/
lemma searchIncr_cases (inChanSelect : AncChannelSearchSelect) :
    inChanSelect.searchIncr = 1 ∨ inChanSelect.searchIncr = 2 := by
  rw [searchIncr]
  split
  · exact .inl rfl
  · exact .inr rfl

end AncChannelSearchSelect

section

variable (inYUV16Line : List UWord)

/-- `CheckAncParityAndChecksum`: whether there is an error. A word past the end of the line has
no value. -/
def CheckAncParityAndChecksum (inStartIndex inTotalCount inIncrement : ℕ) : Option Bool :=
  if inIncrement = 0 ∨ 2 < inIncrement then some true
  else do
    let ndxs := List.range' 3 (inTotalCount - 4)
    let bErr ← ndxs.foldlM (fun bErr ndx => do
      let wordValue ← inYUV16Line[inStartIndex + ndx * inIncrement]?
      return bErr || decide (wordValue ≠ AddEvenParity (wordValue.setWidth 8))) false
    let checksum ← inYUV16Line[inStartIndex + (inTotalCount - 1) * inIncrement]?
    let bErr := bErr || checksum.getLsbD 8 == checksum.getLsbD 9
    let sum ← ndxs.foldlM (fun (sum : UWord) ndx => do
      let wordValue ← inYUV16Line[inStartIndex + ndx * inIncrement]?
      return sum + (wordValue &&& 0x1FF#16)) 0
    return bErr || decide (sum &&& 0x1FF#16 ≠ checksum &&& 0x1FF#16)

/-- The loop over the words of the component. The index has sixteen bits. -/
def vancLoop (wordCountMax : UWord) (inChanSelect : AncChannelSearchSelect) (wordNum : ℕ)
    (out : VancPackets) : Option VancPackets :=
  let searchIncr := inChanSelect.searchIncr
  let next := (wordNum + searchIncr) % 2 ^ 16
  if wordNum < wordCountMax.toNat - 12 then do
    let ancHdr0 ← inYUV16Line[wordNum]?
    let ancHdr1 ← inYUV16Line[wordNum + 1 * searchIncr]?
    let ancHdr2 ← inYUV16Line[wordNum + 2 * searchIncr]?
    let _ancHdr3 ← inYUV16Line[wordNum + 3 * searchIncr]?
    let _ancHdr4 ← inYUV16Line[wordNum + 4 * searchIncr]?
    let ancHdr5 ← inYUV16Line[wordNum + 5 * searchIncr]?
    if ancHdr0 = 0x000 ∧ ancHdr1 = 0x3FF ∧ ancHdr2 = 0x3FF then
      let dataCount := (ancHdr5 &&& 0xFF#16).toNat
      let totalCount := 6 + dataCount + 1
      if wordCountMax.toNat < totalCount then return { out with found := false }
      else if wordCountMax.toNat ≤ wordNum + totalCount then return { out with found := false }
      else
        let bErr ← CheckAncParityAndChecksum inYUV16Line wordNum totalCount searchIncr
        if bErr then return { out with found := false }
        else
          let packet ← (List.range totalCount).mapM fun i => inYUV16Line[wordNum + i * searchIncr]?
          vancLoop wordCountMax inChanSelect next
            { out with
              outRawPackets := out.outRawPackets ++ [packet]
              outWordOffsets := out.outWordOffsets ++ [wordNum] }
    else vancLoop wordCountMax inChanSelect next out
  else some { out with found := true }
termination_by wordCountMax.toNat - wordNum
decreasing_by
  all_goals
    have := wordCountMax.isLt
    rcases inChanSelect.searchIncr_cases with h | h <;> rw [h] <;> omega

/-- `AJAAncillaryData::GetAncPacketsFromVANCLine`: nothing where it leaves the line. -/
def GetAncPacketsFromVANCLine (inChanSelect : AncChannelSearchSelect) : Option VancPackets :=
  let wordCountMax : UWord := BitVec.ofNat 16 inYUV16Line.length
  if inChanSelect = AncChannelSearch_Invalid then some ⟨false, [], []⟩
  else if wordCountMax.toNat < 12 then some ⟨false, [], []⟩
  else vancLoop inYUV16Line wordCountMax inChanSelect inChanSelect.searchOffset ⟨true, [], []⟩

end

/-! ### Packets in the line -/

/-- A packet whose words have the right parity, and whose checksum is their sum. -/
structure PacketRight (packet : List UWord) : Prop where
  parity : ∀ wordValue ∈ (packet.drop 3).dropLast,
    wordValue = AddEvenParity (wordValue.setWidth 8)
  bit9 : (packet.getLastD 0).getLsbD 8 ≠ (packet.getLastD 0).getLsbD 9
  checksum : (((packet.drop 3).dropLast.map fun wordValue => wordValue &&& 0x1FF#16).sum &&&
    0x1FF#16) = packet.getLastD 0 &&& 0x1FF#16

section

variable (inYUV16Line : List UWord) (inChanSelect : AncChannelSearchSelect)

/-- A word of the line; there are zeroes past its end. -/
def lineWord (i : ℕ) : UWord := inYUV16Line.getD i 0

/-- A word belongs to the component that is searched. -/
def InComponent (p : ℕ) : Prop :=
  p % inChanSelect.searchIncr = inChanSelect.searchOffset % inChanSelect.searchIncr

/-- A packet starts at a word. -/
def HeaderAt (p : ℕ) : Prop :=
  inYUV16Line[p]? = some 0x000 ∧ inYUV16Line[p + inChanSelect.searchIncr]? = some 0x3FF ∧
    inYUV16Line[p + 2 * inChanSelect.searchIncr]? = some 0x3FF

/-- The number of words of a packet. -/
def totalAt (p : ℕ) : ℕ :=
  7 + (lineWord inYUV16Line (p + 5 * inChanSelect.searchIncr) &&& 0xFF#16).toNat

/-- A packet lies wholly within the line. -/
def LiesWithin (p : ℕ) : Prop :=
  p + (totalAt inYUV16Line inChanSelect p - 1) * inChanSelect.searchIncr < inYUV16Line.length

/-- The words of a packet. -/
def packetAt (p : ℕ) : List UWord :=
  (List.range (totalAt inYUV16Line inChanSelect p)).map fun i =>
    lineWord inYUV16Line (p + i * inChanSelect.searchIncr)

instance (p : ℕ) : Decidable (InComponent inChanSelect p) := inferInstanceAs (Decidable (_ = _))

instance (p : ℕ) : Decidable (HeaderAt inYUV16Line inChanSelect p) :=
  inferInstanceAs (Decidable (_ ∧ _ ∧ _))

instance (p : ℕ) : Decidable (LiesWithin inYUV16Line inChanSelect p) :=
  inferInstanceAs (Decidable (_ < _))

/-- A header that the scan takes for one past the end of the line: it adds the words of the
packet without their distance. -/
def PastEnd (p : ℕ) : Prop := inYUV16Line.length ≤ p + totalAt inYUV16Line inChanSelect p

instance (p : ℕ) : Decidable (PastEnd inYUV16Line inChanSelect p) :=
  inferInstanceAs (Decidable (_ ≤ _))

/-- A header whose packet the scan takes. -/
structure Accepted (p : ℕ) : Prop where
  before : ¬ PastEnd inYUV16Line inChanSelect p
  within : LiesWithin inYUV16Line inChanSelect p
  right : PacketRight (packetAt inYUV16Line inChanSelect p)

/-- What the caller relies on: the scan stays in the line, and what it returns are the packets of
the component that lie wholly within the line, all of them right. -/
structure ScansRight : Prop where
  inBounds : GetAncPacketsFromVANCLine inYUV16Line inChanSelect ≠ none
  exact : ∀ out, GetAncPacketsFromVANCLine inYUV16Line inChanSelect = some out →
    out.found = true →
      out.outWordOffsets = ((List.range inYUV16Line.length).filter fun p =>
        InComponent inChanSelect p ∧ HeaderAt inYUV16Line inChanSelect p ∧
          LiesWithin inYUV16Line inChanSelect p) ∧
      out.outRawPackets = out.outWordOffsets.map (packetAt inYUV16Line inChanSelect) ∧
      ∀ p ∈ out.outWordOffsets, PacketRight (packetAt inYUV16Line inChanSelect p)

end

/-! ### Reading words by their places -/

section Read

variable {α β : Type} (l : List α) (d : α) (f : ℕ → ℕ)

/-- A loop over places of a list reads the values there. -/
lemma foldlM_read (g : β → α → β) (is : List ℕ) (b : β) (h : ∀ i ∈ is, f i < l.length) :
    is.foldlM (fun b i => l[f i]?.bind fun a => some (g b a)) b =
      some ((is.map fun i => l.getD (f i) d).foldl g b) := by
  induction is generalizing b with
  | nil => rfl
  | cons i is ih =>
      obtain ⟨hi, his⟩ := List.forall_mem_cons.1 h
      rw [List.foldlM_cons, List.getElem?_eq_getElem hi, List.map_cons, List.foldl_cons,
        List.getD_eq_getElem _ _ hi]
      exact ih _ his

/-- The values at places of a list. -/
lemma mapM_read (is : List ℕ) (h : ∀ i ∈ is, f i < l.length) :
    (is.mapM fun i => l[f i]?) = some (is.map fun i => l.getD (f i) d) := by
  induction is with
  | nil => rfl
  | cons i is ih =>
      obtain ⟨hi, his⟩ := List.forall_mem_cons.1 h
      rw [List.mapM_cons, List.getElem?_eq_getElem hi, ih his, List.map_cons,
        List.getD_eq_getElem _ _ hi]
      rfl

/-- Whether a check fails for a value. -/
lemma foldl_or_eq_false_iff (p : α → Bool) (as : List α) (b : Bool) :
    as.foldl (fun b a => b || p a) b = false ↔ b = false ∧ ∀ a ∈ as, p a = false := by
  induction as generalizing b with
  | nil => simp
  | cons a as ih =>
      rw [List.foldl_cons, ih, Bool.or_eq_false_iff, List.forall_mem_cons, and_assoc]

/-- A sum is the same from either end. -/
lemma foldl_add_eq {w : ℕ} (as : List α) (g : α → BitVec w) (s : BitVec w) :
    as.foldl (fun s a => s + g a) s = s + (as.map g).sum := by
  induction as generalizing s with
  | nil => simp
  | cons a as ih =>
      rw [List.foldl_cons, ih, List.map_cons, List.sum_cons, BitVec.add_assoc]

end Read

/-! ### The check -/

section Check

variable (inYUV16Line : List UWord) (inChanSelect : AncChannelSearchSelect)

/-- The words between the flags and the checksum. -/
lemma drop_dropLast_packetAt (p : ℕ) :
    ((packetAt inYUV16Line inChanSelect p).drop 3).dropLast =
      (List.range' 3 (totalAt inYUV16Line inChanSelect p - 4)).map fun ndx =>
        lineWord inYUV16Line (p + ndx * inChanSelect.searchIncr) := by
  have hseven : 7 ≤ totalAt inYUV16Line inChanSelect p := Nat.le_add_right _ _
  have hthree : totalAt inYUV16Line inChanSelect p - 3 =
      totalAt inYUV16Line inChanSelect p - 4 + 1 := by omega
  rw [packetAt, ← List.map_drop, ← List.map_dropLast, List.range_eq_range', List.drop_range',
    hthree, List.range'_1_concat, List.dropLast_concat]

/-- The checksum word. -/
lemma getLastD_packetAt (p : ℕ) :
    (packetAt inYUV16Line inChanSelect p).getLastD 0 =
      lineWord inYUV16Line
        (p + (totalAt inYUV16Line inChanSelect p - 1) * inChanSelect.searchIncr) := by
  have hpos : totalAt inYUV16Line inChanSelect p =
      (totalAt inYUV16Line inChanSelect p - 1) + 1 := by
    have : 7 ≤ totalAt inYUV16Line inChanSelect p := Nat.le_add_right _ _
    omega
  rw [packetAt, hpos, List.range_succ, List.map_append]
  simp

/-- **The check of a packet within the line** finds out whether it is right. -/
theorem checkAncParityAndChecksum_eq {p : ℕ} (h : LiesWithin inYUV16Line inChanSelect p) :
    ∃ bErr, CheckAncParityAndChecksum inYUV16Line p (totalAt inYUV16Line inChanSelect p)
        inChanSelect.searchIncr = some bErr ∧
      (bErr = false ↔ PacketRight (packetAt inYUV16Line inChanSelect p)) := by
  have hincr : ¬ (inChanSelect.searchIncr = 0 ∨ 2 < inChanSelect.searchIncr) := by
    rcases inChanSelect.searchIncr_cases with h | h <;> rw [h] <;> decide
  have hin : ∀ ndx ∈ List.range' 3 (totalAt inYUV16Line inChanSelect p - 4),
      p + ndx * inChanSelect.searchIncr < inYUV16Line.length := by
    intro ndx hndx
    refine lt_of_le_of_lt (Nat.add_le_add_left (Nat.mul_le_mul_right _ ?_) p) h
    obtain ⟨-, hlt⟩ := List.mem_range'_1.1 hndx
    have : 7 ≤ totalAt inYUV16Line inChanSelect p := Nat.le_add_right _ _
    omega
  have hlast : inYUV16Line[p + (totalAt inYUV16Line inChanSelect p - 1) *
      inChanSelect.searchIncr]? = some ((packetAt inYUV16Line inChanSelect p).getLastD 0) := by
    rw [getLastD_packetAt, lineWord, List.getD_eq_getElem _ _ h, List.getElem?_eq_getElem h]
  rw [CheckAncParityAndChecksum, if_neg hincr]
  have hread : ∀ {β : Type} (g : β → UWord → β) (b : β), _ := fun g b =>
    foldlM_read inYUV16Line 0 (fun ndx => p + ndx * inChanSelect.searchIncr) g _ b hin
  simp only [Option.bind_eq_bind, Option.pure_def, hread, hlast, Option.bind_some,
    Option.some.injEq, exists_eq_left']
  have hmid := drop_dropLast_packetAt inYUV16Line inChanSelect p
  have hword : (fun ndx => inYUV16Line.getD (p + ndx * inChanSelect.searchIncr) 0) =
      fun ndx => lineWord inYUV16Line (p + ndx * inChanSelect.searchIncr) := rfl
  have hzero : ∀ s : UWord, 0 + s = s := fun s => BitVec.zero_add s
  rw [hword, ← hmid, Bool.or_eq_false_iff, Bool.or_eq_false_iff, foldl_or_eq_false_iff,
    foldl_add_eq, hzero, beq_eq_false_iff_ne, decide_eq_false_iff_not, not_not]
  constructor
  · rintro ⟨⟨⟨-, hparity⟩, hbit⟩, hsum⟩
    refine ⟨fun wordValue hmem => ?_, hbit, hsum⟩
    simpa using hparity wordValue hmem
  · rintro ⟨hparity, hbit, hsum⟩
    refine ⟨⟨⟨rfl, fun wordValue hmem => ?_⟩, hbit⟩, hsum⟩
    simpa using hparity wordValue hmem

/-- **The check of a packet that runs past the end** leaves the line. -/
theorem checkAncParityAndChecksum_eq_none {p : ℕ}
    (h : ¬ LiesWithin inYUV16Line inChanSelect p) :
    CheckAncParityAndChecksum inYUV16Line p (totalAt inYUV16Line inChanSelect p)
      inChanSelect.searchIncr = none := by
  have hincr : ¬ (inChanSelect.searchIncr = 0 ∨ 2 < inChanSelect.searchIncr) := by
    rcases inChanSelect.searchIncr_cases with h | h <;> rw [h] <;> decide
  have hlast : inYUV16Line[p + (totalAt inYUV16Line inChanSelect p - 1) *
      inChanSelect.searchIncr]? = none := List.getElem?_eq_none (Nat.le_of_not_lt h)
  rw [CheckAncParityAndChecksum, if_neg hincr]
  simp only [hlast]
  exact Option.bind_fun_none _

end Check

/-! ### The scan -/

section Scan

variable (inYUV16Line : List UWord) (inChanSelect : AncChannelSearchSelect)

/-- The scan from a word on. -/
def scanFrom (p : ℕ) (out : VancPackets) : Option VancPackets :=
  vancLoop inYUV16Line (BitVec.ofNat 16 inYUV16Line.length) inChanSelect p out

variable {inYUV16Line inChanSelect} {p : ℕ} {out : VancPackets}

lemma getElem?_eq_lineWord (inYUV16Line : List UWord) {i : ℕ} (h : i < inYUV16Line.length) :
    inYUV16Line[i]? = some (lineWord inYUV16Line i) := by
  rw [lineWord, List.getD_eq_getElem _ _ h, List.getElem?_eq_getElem h]

lemma scanFrom_end (hn : inYUV16Line.length < 2 ^ 16) (h : inYUV16Line.length ≤ p + 12) :
    scanFrom inYUV16Line inChanSelect p out = some { out with found := true } := by
  rw [scanFrom, vancLoop, BitVec.toNat_ofNat, Nat.mod_eq_of_lt hn, if_neg (by omega)]

/-- **One round of the scan**, before the last twelve words. -/
theorem scanFrom_step (hn : inYUV16Line.length < 2 ^ 16) (hp : p + 12 < inYUV16Line.length) :
    scanFrom inYUV16Line inChanSelect p out =
      if HeaderAt inYUV16Line inChanSelect p then
        if PastEnd inYUV16Line inChanSelect p then some { out with found := false }
        else
          (CheckAncParityAndChecksum inYUV16Line p (totalAt inYUV16Line inChanSelect p)
            inChanSelect.searchIncr).bind fun bErr =>
          if bErr then some { out with found := false }
          else
            ((List.range (totalAt inYUV16Line inChanSelect p)).mapM fun i =>
              inYUV16Line[p + i * inChanSelect.searchIncr]?).bind fun packet =>
            scanFrom inYUV16Line inChanSelect (p + inChanSelect.searchIncr)
              { out with
                outRawPackets := out.outRawPackets ++ [packet]
                outWordOffsets := out.outWordOffsets ++ [p] }
      else scanFrom inYUV16Line inChanSelect (p + inChanSelect.searchIncr) out := by
  have hincr := inChanSelect.searchIncr_cases
  have hread : ∀ k ≤ 5, inYUV16Line[p + k * inChanSelect.searchIncr]? =
      some (lineWord inYUV16Line (p + k * inChanSelect.searchIncr)) := by
    intro k hk
    refine getElem?_eq_lineWord _ ?_
    rcases hincr with h | h <;> rw [h] <;> omega
  have hnext : (p + inChanSelect.searchIncr) % 2 ^ 16 = p + inChanSelect.searchIncr := by
    rcases hincr with h | h <;> rw [h] <;> omega
  have hheader : HeaderAt inYUV16Line inChanSelect p ↔
      lineWord inYUV16Line p = 0x000 ∧
        lineWord inYUV16Line (p + 1 * inChanSelect.searchIncr) = 0x3FF ∧
        lineWord inYUV16Line (p + 2 * inChanSelect.searchIncr) = 0x3FF := by
    have h0 := hread 0 (by omega)
    have h1 := hread 1 (by omega)
    rw [Nat.zero_mul, Nat.add_zero] at h0
    rw [Nat.one_mul] at h1
    rw [HeaderAt, h0, h1, hread 2 (by omega), Option.some.injEq, Option.some.injEq,
      Option.some.injEq, Nat.one_mul]
  have htotal : 6 + (lineWord inYUV16Line (p + 5 * inChanSelect.searchIncr) &&& 0xFF#16).toNat + 1 =
      totalAt inYUV16Line inChanSelect p := by
    rw [totalAt]
    omega
  have hword := getElem?_eq_lineWord inYUV16Line (i := p) (by omega)
  rw [scanFrom, vancLoop, BitVec.toNat_ofNat, Nat.mod_eq_of_lt hn, if_pos (by omega), hnext]
  simp only [hword, hread 1 (by omega), hread 2 (by omega), hread 3 (by omega),
    hread 4 (by omega), hread 5 (by omega), Option.bind_eq_bind, Option.bind_some,
    Option.pure_def, htotal]
  by_cases hh : HeaderAt inYUV16Line inChanSelect p
  · rw [if_pos (hheader.1 hh), if_pos hh]
    by_cases hend : PastEnd inYUV16Line inChanSelect p
    · rw [if_pos hend]
      have hle : inYUV16Line.length ≤ p + totalAt inYUV16Line inChanSelect p := hend
      rw [if_pos hle, ite_self]
    · rw [if_neg hend]
      have hlt : ¬ inYUV16Line.length ≤ p + totalAt inYUV16Line inChanSelect p := hend
      rw [if_neg (by omega), if_neg hlt]
      rfl
  · rw [if_neg (fun h => hh (hheader.2 h)), if_neg hh]
    rfl

/-! ### The headers that are met -/

variable (inYUV16Line inChanSelect) in
/-- The headers from a word on that the scan looks at. -/
def headersFrom (p : ℕ) : List ℕ :=
  (List.range' p (inYUV16Line.length - 12 - p)).filter fun q =>
    InComponent inChanSelect q ∧ HeaderAt inYUV16Line inChanSelect q

variable (inYUV16Line inChanSelect) in
/-- The scan over the headers alone. -/
def scanHeaders (out : VancPackets) : List ℕ → Option VancPackets
  | [] => some { out with found := true }
  | p :: ps =>
      if PastEnd inYUV16Line inChanSelect p then some { out with found := false }
      else
        (CheckAncParityAndChecksum inYUV16Line p (totalAt inYUV16Line inChanSelect p)
          inChanSelect.searchIncr).bind fun bErr =>
        if bErr then some { out with found := false }
        else
          ((List.range (totalAt inYUV16Line inChanSelect p)).mapM fun i =>
            inYUV16Line[p + i * inChanSelect.searchIncr]?).bind fun packet =>
          scanHeaders
            { out with
              outRawPackets := out.outRawPackets ++ [packet]
              outWordOffsets := out.outWordOffsets ++ [p] } ps

lemma mem_headersFrom {q : ℕ} : q ∈ headersFrom inYUV16Line inChanSelect p ↔
    (p ≤ q ∧ q + 12 < inYUV16Line.length) ∧ InComponent inChanSelect q ∧
      HeaderAt inYUV16Line inChanSelect q := by
  rw [headersFrom, List.mem_filter, List.mem_range'_1, decide_eq_true_eq]
  refine and_congr_left fun _ => ?_
  omega

lemma pairwise_headersFrom : (headersFrom inYUV16Line inChanSelect p).Pairwise (· < ·) :=
  List.Pairwise.filter _ List.pairwise_lt_range'

/-- A word and the ones behind it. -/
lemma headersFrom_cons (hp : p + 12 < inYUV16Line.length) :
    headersFrom inYUV16Line inChanSelect p =
      if InComponent inChanSelect p ∧ HeaderAt inYUV16Line inChanSelect p then
        p :: headersFrom inYUV16Line inChanSelect (p + 1)
      else headersFrom inYUV16Line inChanSelect (p + 1) := by
  have hlen : inYUV16Line.length - 12 - p = inYUV16Line.length - 12 - (p + 1) + 1 := by omega
  rw [headersFrom, hlen, List.range'_succ, List.filter_cons]
  simp only [decide_eq_true_eq]
  rfl

/-- A word outside the component is passed over. -/
lemma headersFrom_of_not_inComponent (h : ¬ InComponent inChanSelect p) :
    headersFrom inYUV16Line inChanSelect p = headersFrom inYUV16Line inChanSelect (p + 1) := by
  rcases Nat.lt_or_ge (p + 12) inYUV16Line.length with hp | hp
  · rw [headersFrom_cons hp, if_neg (not_and_of_not_left _ h)]
  · rw [headersFrom, headersFrom, show inYUV16Line.length - 12 - p = 0 by omega,
      show inYUV16Line.length - 12 - (p + 1) = 0 by omega]
    rfl

/-- A word of the component and the next one of it. -/
lemma headersFrom_step (hp : p + 12 < inYUV16Line.length) (hc : InComponent inChanSelect p) :
    headersFrom inYUV16Line inChanSelect p =
      if HeaderAt inYUV16Line inChanSelect p then
        p :: headersFrom inYUV16Line inChanSelect (p + inChanSelect.searchIncr)
      else headersFrom inYUV16Line inChanSelect (p + inChanSelect.searchIncr) := by
  have hnext : headersFrom inYUV16Line inChanSelect (p + 1) =
      headersFrom inYUV16Line inChanSelect (p + inChanSelect.searchIncr) := by
    rcases inChanSelect.searchIncr_cases with h | h
    · rw [h]
    · rw [h]
      refine headersFrom_of_not_inComponent ?_
      rw [InComponent, h] at hc ⊢
      omega
  rw [headersFrom_cons hp, hnext]
  simp only [hc, true_and]

/-- **The scan is the one over the headers** that it meets. -/
theorem scanFrom_eq_scanHeaders (hn : inYUV16Line.length < 2 ^ 16)
    (hc : InComponent inChanSelect p) :
    scanFrom inYUV16Line inChanSelect p out =
      scanHeaders inYUV16Line inChanSelect out (headersFrom inYUV16Line inChanSelect p) := by
  induction hk : inYUV16Line.length - p using Nat.strong_induction_on generalizing p out with
  | _ k ih =>
      rcases Nat.lt_or_ge (p + 12) inYUV16Line.length with hp | hp
      · have hcnext : InComponent inChanSelect (p + inChanSelect.searchIncr) := by
          rw [InComponent, Nat.add_mod_right]
          exact hc
        have hdec : inYUV16Line.length - (p + inChanSelect.searchIncr) < k := by
          rcases inChanSelect.searchIncr_cases with h | h <;> omega
        rw [scanFrom_step hn hp, headersFrom_step hp hc]
        split
        · rw [scanHeaders]
          split
          · rfl
          · refine Option.bind_congr fun bErr _ => ?_
            split
            · rfl
            · exact Option.bind_congr fun packet _ => ih _ hdec hcnext rfl
        · exact ih _ hdec hcnext rfl
      · have hnone : inYUV16Line.length - 12 - p = 0 := by omega
        rw [scanFrom_end hn hp, headersFrom, hnone]
        rfl

/-- An accepted header is taken. -/
lemma scanHeaders_accepted {ps : List ℕ} (h : Accepted inYUV16Line inChanSelect p) :
    scanHeaders inYUV16Line inChanSelect out (p :: ps) =
      scanHeaders inYUV16Line inChanSelect
        { out with
          outRawPackets := out.outRawPackets ++ [packetAt inYUV16Line inChanSelect p]
          outWordOffsets := out.outWordOffsets ++ [p] } ps := by
  obtain ⟨bErr, hcheck, hright⟩ := checkAncParityAndChecksum_eq _ _ h.within
  have hread := mapM_read inYUV16Line 0 (fun i => p + i * inChanSelect.searchIncr)
    (List.range (totalAt inYUV16Line inChanSelect p)) (by
      intro i hi
      refine lt_of_le_of_lt (Nat.add_le_add_left (Nat.mul_le_mul_right _ ?_) p) h.within
      have := List.mem_range.1 hi
      omega)
  rw [scanHeaders, if_neg h.before, hcheck, Option.bind_some, hright.2 h.right,
    if_neg Bool.false_ne_true, hread, Option.bind_some]
  rfl

/-- A header that is not accepted ends the scan, or leads out of the line. -/
lemma scanHeaders_not_accepted (out : VancPackets) (ps : List ℕ)
    (h : ¬ Accepted inYUV16Line inChanSelect p) :
    (¬ PastEnd inYUV16Line inChanSelect p ∧ ¬ LiesWithin inYUV16Line inChanSelect p ∧
      scanHeaders inYUV16Line inChanSelect out (p :: ps) = none) ∨
    ((PastEnd inYUV16Line inChanSelect p ∨ LiesWithin inYUV16Line inChanSelect p) ∧
      scanHeaders inYUV16Line inChanSelect out (p :: ps) = some { out with found := false }) := by
  rw [scanHeaders]
  by_cases hend : PastEnd inYUV16Line inChanSelect p
  · exact .inr ⟨.inl hend, if_pos hend⟩
  · rw [if_neg hend]
    by_cases hin : LiesWithin inYUV16Line inChanSelect p
    · obtain ⟨bErr, hcheck, hright⟩ := checkAncParityAndChecksum_eq _ _ hin
      have herr : bErr = true := by
        by_contra hok
        exact h ⟨hend, hin, hright.1 (Bool.eq_false_iff.2 hok)⟩
      refine .inr ⟨.inr hin, ?_⟩
      rw [hcheck, Option.bind_some, if_pos herr]
    · refine .inl ⟨hend, hin, ?_⟩
      rw [checkAncParityAndChecksum_eq_none _ _ hin]
      rfl

/-- **The scan leaves the line** at the first header that is not accepted, where the packet is
taken for a shorter one. -/
theorem scanHeaders_eq_none_iff {ps : List ℕ} :
    scanHeaders inYUV16Line inChanSelect out ps = none ↔
      ∃ pre q post, ps = pre ++ q :: post ∧ (∀ p ∈ pre, Accepted inYUV16Line inChanSelect p) ∧
        ¬ PastEnd inYUV16Line inChanSelect q ∧ ¬ LiesWithin inYUV16Line inChanSelect q := by
  induction ps generalizing out with
  | nil =>
      refine iff_of_false (fun h => by cases h) ?_
      rintro ⟨pre, q, post, h, -⟩
      exact absurd h.symm (List.append_ne_nil_of_right_ne_nil _ (List.cons_ne_nil _ _))
  | cons p ps ih =>
      by_cases hacc : Accepted inYUV16Line inChanSelect p
      · rw [scanHeaders_accepted hacc, ih]
        constructor
        · rintro ⟨pre, q, post, rfl, hpre, hq⟩
          exact ⟨p :: pre, q, post, rfl, List.forall_mem_cons.2 ⟨hacc, hpre⟩, hq⟩
        · rintro ⟨pre, q, post, heq, hpre, hend, hin⟩
          cases pre with
          | nil =>
              obtain ⟨rfl, -⟩ := List.cons.inj heq
              exact absurd hacc.within hin
          | cons p' pre =>
              obtain ⟨-, rfl⟩ := List.cons.inj heq
              exact ⟨pre, q, post, rfl, (List.forall_mem_cons.1 hpre).2, hend, hin⟩
      · rcases scanHeaders_not_accepted out ps hacc with
          ⟨hend, hin, hnone⟩ | ⟨hok, hsome⟩
        · exact iff_of_true hnone
            ⟨[], p, ps, rfl, fun _ h => absurd h List.not_mem_nil, hend, hin⟩
        · rw [hsome]
          refine iff_of_false (fun h => by cases h) ?_
          rintro ⟨pre, q, post, heq, hpre, hend, hin⟩
          cases pre with
          | nil =>
              obtain ⟨rfl, -⟩ := List.cons.inj heq
              exact hok.elim hend hin
          | cons p' pre =>
              obtain ⟨rfl, -⟩ := List.cons.inj heq
              exact hacc (List.forall_mem_cons.1 hpre).1

/-- **The scan finds** all headers that it meets, if each is accepted, and fails else. -/
theorem scanHeaders_found_iff {ps : List ℕ} {res : VancPackets} :
    (scanHeaders inYUV16Line inChanSelect out ps = some res ∧ res.found = true) ↔
      (∀ p ∈ ps, Accepted inYUV16Line inChanSelect p) ∧
        res = ⟨true, out.outRawPackets ++ ps.map (packetAt inYUV16Line inChanSelect),
          out.outWordOffsets ++ ps⟩ := by
  induction ps generalizing out with
  | nil =>
      rw [scanHeaders, Option.some.injEq, List.map_nil, List.append_nil, List.append_nil]
      constructor
      · rintro ⟨rfl, -⟩
        exact ⟨fun _ h => absurd h List.not_mem_nil, rfl⟩
      · rintro ⟨-, rfl⟩
        exact ⟨rfl, rfl⟩
  | cons p ps ih =>
      by_cases hacc : Accepted inYUV16Line inChanSelect p
      · rw [scanHeaders_accepted hacc, ih, List.forall_mem_cons, List.map_cons,
          List.append_assoc, List.append_assoc]
        simp only [hacc, true_and, List.singleton_append]
      · refine iff_of_false ?_ fun h => hacc (List.forall_mem_cons.1 h.1).1
        rintro ⟨hres, hfound⟩
        rcases scanHeaders_not_accepted out ps hacc with
          ⟨-, -, hnone⟩ | ⟨-, hsome⟩
        · rw [hnone] at hres
          cases hres
        · rw [hsome] at hres
          cases hres
          cases hfound

end Scan

/-! ### When the scan is right -/

section Right

variable {inYUV16Line : List UWord} {inChanSelect : AncChannelSearchSelect}

variable (inYUV16Line inChanSelect) in
/-- The headers that the scan meets, which lie before the last twelve words. -/
structure Met (p : ℕ) : Prop where
  component : InComponent inChanSelect p
  header : HeaderAt inYUV16Line inChanSelect p
  early : p + 12 < inYUV16Line.length

/-- The words of a component start at its first one. -/
lemma searchOffset_le {p : ℕ} (h : InComponent inChanSelect p) :
    inChanSelect.searchOffset ≤ p := by
  rw [InComponent] at h
  cases inChanSelect <;> simp [AncChannelSearchSelect.searchOffset,
    AncChannelSearchSelect.searchIncr] at h ⊢
  omega

lemma inComponent_searchOffset : InComponent inChanSelect inChanSelect.searchOffset := rfl

/-- The headers from the first word of the component on. -/
lemma mem_headersFrom_searchOffset {p : ℕ} :
    p ∈ headersFrom inYUV16Line inChanSelect inChanSelect.searchOffset ↔
      Met inYUV16Line inChanSelect p := by
  rw [mem_headersFrom]
  exact ⟨fun h => ⟨h.2.1, h.2.2, h.1.2⟩,
    fun h => ⟨⟨searchOffset_le h.component, h.early⟩, h.component, h.header⟩⟩

/-- The scan of a line that is long enough. -/
lemma getAncPacketsFromVANCLine_eq (hvalid : inChanSelect ≠ AncChannelSearch_Invalid)
    (hn : inYUV16Line.length < 2 ^ 16) (h12 : 12 ≤ inYUV16Line.length) :
    GetAncPacketsFromVANCLine inYUV16Line inChanSelect =
      scanHeaders inYUV16Line inChanSelect ⟨true, [], []⟩
        (headersFrom inYUV16Line inChanSelect inChanSelect.searchOffset) := by
  rw [GetAncPacketsFromVANCLine, if_neg hvalid, BitVec.toNat_ofNat, Nat.mod_eq_of_lt hn,
    if_neg (by omega), ← scanFrom_eq_scanHeaders hn inComponent_searchOffset]
  rfl

/-- **The scan leaves the line** at a header behind accepted ones whose packet is longer than
it takes it for. -/
theorem getAncPacketsFromVANCLine_eq_none_iff
    (hvalid : inChanSelect ≠ AncChannelSearch_Invalid) (hn : inYUV16Line.length < 2 ^ 16) :
    GetAncPacketsFromVANCLine inYUV16Line inChanSelect = none ↔
      ∃ q, Met inYUV16Line inChanSelect q ∧
        (∀ p < q, Met inYUV16Line inChanSelect p → Accepted inYUV16Line inChanSelect p) ∧
        ¬ PastEnd inYUV16Line inChanSelect q ∧ ¬ LiesWithin inYUV16Line inChanSelect q := by
  rcases Nat.lt_or_ge inYUV16Line.length 12 with hshort | h12
  · refine iff_of_false ?_ ?_
    · rw [GetAncPacketsFromVANCLine, if_neg hvalid, BitVec.toNat_ofNat, Nat.mod_eq_of_lt hn,
        if_pos hshort]
      exact fun h => by cases h
    · rintro ⟨q, hq, -⟩
      have := hq.early
      omega
  rw [getAncPacketsFromVANCLine_eq hvalid hn h12, scanHeaders_eq_none_iff]
  have hsorted : (headersFrom inYUV16Line inChanSelect inChanSelect.searchOffset).Pairwise
      (· < ·) := pairwise_headersFrom
  have hmem : ∀ p, p ∈ headersFrom inYUV16Line inChanSelect inChanSelect.searchOffset ↔
      Met inYUV16Line inChanSelect p := fun p => mem_headersFrom_searchOffset
  constructor
  · rintro ⟨pre, q, post, heq, hpre, hq⟩
    rw [heq] at hsorted hmem
    refine ⟨q, (hmem q).1 (by simp), fun p hlt hp => hpre p ?_, hq⟩
    obtain ⟨-, hpost, -⟩ := List.pairwise_append.1 hsorted
    rcases List.mem_append.1 ((hmem p).2 hp) with h | h
    · exact h
    · rcases List.mem_cons.1 h with rfl | h
      · exact absurd hlt (lt_irrefl p)
      · exact absurd ((List.pairwise_cons.1 hpost).1 p h) (by omega)
  · rintro ⟨q, hmet, hbefore, hq⟩
    obtain ⟨pre, post, heq⟩ := List.append_of_mem ((hmem q).2 hmet)
    rw [heq] at hsorted hmem
    refine ⟨pre, q, post, heq, fun p hp => hbefore p ?_ ((hmem p).1 (by simp [hp])), hq⟩
    exact (List.pairwise_append.1 hsorted).2.2 p hp q List.mem_cons_self

/-- The packets within the line are the headers that are met, where those are accepted and there
is none in the last twelve words. -/
lemma filter_eq_headersFrom_iff
    (hacc : ∀ p, Met inYUV16Line inChanSelect p → Accepted inYUV16Line inChanSelect p) :
    headersFrom inYUV16Line inChanSelect inChanSelect.searchOffset =
        ((List.range inYUV16Line.length).filter fun p =>
          InComponent inChanSelect p ∧ HeaderAt inYUV16Line inChanSelect p ∧
            LiesWithin inYUV16Line inChanSelect p) ↔
      ∀ q, InComponent inChanSelect q → HeaderAt inYUV16Line inChanSelect q →
        LiesWithin inYUV16Line inChanSelect q → q + 12 < inYUV16Line.length := by
  have hmem : ∀ q, q ∈ ((List.range inYUV16Line.length).filter fun p =>
      InComponent inChanSelect p ∧ HeaderAt inYUV16Line inChanSelect p ∧
        LiesWithin inYUV16Line inChanSelect p) ↔
      InComponent inChanSelect q ∧ HeaderAt inYUV16Line inChanSelect q ∧
        LiesWithin inYUV16Line inChanSelect q := by
    intro q
    rw [List.mem_filter, List.mem_range, decide_eq_true_eq]
    exact and_iff_right_of_imp fun h => lt_of_le_of_lt (Nat.le_add_right _ _) h.2.2
  constructor
  · intro heq q hc hh hin
    exact (mem_headersFrom_searchOffset.1 (heq ▸ (hmem q).2 ⟨hc, hh, hin⟩)).early
  · intro hlate
    refine pairwise_headersFrom.eq_of_mem_iff
      (List.Pairwise.filter _ List.pairwise_lt_range) fun q => ?_
    rw [hmem, mem_headersFrom_searchOffset]
    exact ⟨fun h => ⟨h.component, h.header, (hacc q h).within⟩,
      fun h => ⟨h.1, h.2.1, hlate q h.1 h.2.1 h.2.2⟩⟩

/-- **The scan stays in the line and misses nothing** exactly where no header behind accepted
ones has a packet that is longer than the scan takes it for, and, if all headers are accepted,
none of the last twelve words starts a packet within the line. -/
theorem scansRight_iff (hvalid : inChanSelect ≠ AncChannelSearch_Invalid)
    (hn : inYUV16Line.length ≤ 65535) :
    ScansRight inYUV16Line inChanSelect ↔
      (∀ q, Met inYUV16Line inChanSelect q →
        (∀ p < q, Met inYUV16Line inChanSelect p → Accepted inYUV16Line inChanSelect p) →
          PastEnd inYUV16Line inChanSelect q ∨ LiesWithin inYUV16Line inChanSelect q) ∧
      (12 ≤ inYUV16Line.length →
        (∀ p, Met inYUV16Line inChanSelect p → Accepted inYUV16Line inChanSelect p) →
        ∀ q, InComponent inChanSelect q → HeaderAt inYUV16Line inChanSelect q →
          LiesWithin inYUV16Line inChanSelect q → q + 12 < inYUV16Line.length) := by
  have hn : inYUV16Line.length < 2 ^ 16 := by omega
  have hbounds : (GetAncPacketsFromVANCLine inYUV16Line inChanSelect ≠ none) ↔
      ∀ q, Met inYUV16Line inChanSelect q →
        (∀ p < q, Met inYUV16Line inChanSelect p → Accepted inYUV16Line inChanSelect p) →
          PastEnd inYUV16Line inChanSelect q ∨ LiesWithin inYUV16Line inChanSelect q := by
    rw [ne_eq, getAncPacketsFromVANCLine_eq_none_iff hvalid hn]
    simp only [not_exists, not_and, not_not, or_iff_not_imp_left]
  have hfound : ∀ out, 12 ≤ inYUV16Line.length →
      ((GetAncPacketsFromVANCLine inYUV16Line inChanSelect = some out ∧ out.found = true) ↔
        (∀ p, Met inYUV16Line inChanSelect p → Accepted inYUV16Line inChanSelect p) ∧
          out = ⟨true, (headersFrom inYUV16Line inChanSelect inChanSelect.searchOffset).map
            (packetAt inYUV16Line inChanSelect),
            headersFrom inYUV16Line inChanSelect inChanSelect.searchOffset⟩) := by
    intro out h12
    rw [getAncPacketsFromVANCLine_eq hvalid hn h12, scanHeaders_found_iff]
    simp only [mem_headersFrom_searchOffset, List.nil_append]
  have hshort : inYUV16Line.length < 12 →
      GetAncPacketsFromVANCLine inYUV16Line inChanSelect = some ⟨false, [], []⟩ := by
    intro hlt
    rw [GetAncPacketsFromVANCLine, if_neg hvalid, BitVec.toNat_ofNat, Nat.mod_eq_of_lt hn,
      if_pos hlt]
  constructor
  · intro h
    refine ⟨hbounds.1 h.inBounds, fun h12 hacc => (filter_eq_headersFrom_iff hacc).1 ?_⟩
    obtain ⟨hout, hf⟩ := (hfound _ h12).2 ⟨hacc, rfl⟩
    exact (h.exact _ hout hf).1
  · rintro ⟨hin, hlate⟩
    refine ⟨hbounds.2 hin, fun out hout hf => ?_⟩
    rcases Nat.lt_or_ge inYUV16Line.length 12 with hlt | h12
    · rw [hshort hlt] at hout
      cases hout
      cases hf
    · obtain ⟨hacc, rfl⟩ := (hfound out h12).1 ⟨hout, hf⟩
      exact ⟨(filter_eq_headersFrom_iff hacc).2 (hlate h12 hacc), rfl, fun p hp =>
        (hacc p (mem_headersFrom_searchOffset.1 hp)).right⟩

/-- A luma packet without payload, and one with a byte. -/
def twoPackets : List (List UWord) :=
  [[0x000, 0x3FF, 0x3FF, 0x161, 0x101, 0x200, 0x262],
    [0x000, 0x3FF, 0x3FF, 0x161, 0x101, 0x101, 0x203, 0x166]]

/-- A line that carries both, and black behind them. -/
def twoPacketsLine : List UWord :=
  (twoPackets.flatten ++ List.replicate 8 0x040).flatMap fun w => [0x200, w]

/-- **The two packets are found**: both lie within the line, and are right. -/
theorem scansRight_twoPackets : ScansRight twoPacketsLine AncChannelSearch_Y ∧
    GetAncPacketsFromVANCLine twoPacketsLine AncChannelSearch_Y =
      some ⟨true, twoPackets, [1, 15]⟩ := by
  have hstarts : ∀ q, HeaderAt twoPacketsLine AncChannelSearch_Y q → q = 1 ∨ q = 15 := by
    have hall : ∀ q < twoPacketsLine.length, HeaderAt twoPacketsLine AncChannelSearch_Y q →
        q = 1 ∨ q = 15 := by
      decide +kernel
    exact fun q hq => hall q (List.getElem?_eq_some_iff.1 hq.1).1 hq
  refine ⟨(scansRight_iff (by decide) (by decide)).2
    ⟨fun q hq _ => .inr ?_, fun _ _ q _ hq _ => ?_⟩, by decide +kernel⟩
  · rcases hstarts q hq.header with rfl | rfl <;> decide
  · rcases hstarts q hq with rfl | rfl <;> decide

/-- A line whose second word starts a luma packet of 17 words; it would end behind the 24 words
that there are. -/
def overrunLine : List UWord :=
  [0x040, 0x000, 0x040, 0x3FF, 0x040, 0x3FF, 0x040, 0x161, 0x040, 0x101, 0x040, 0x20A,
    0x040, 0x200, 0x040, 0x200, 0x040, 0x200, 0x040, 0x200, 0x040, 0x200, 0x040, 0x200]

/-- A line of both components that ends with a whole packet. -/
def missedLine : List UWord :=
  List.replicate 12 0x040 ++ [0x000, 0x3FF, 0x3FF, 0x161, 0x101, 0x200, 0x262]

/-- The scan of the one line leaves it, and that of the other misses its packet. -/
theorem not_scansRight_overrun_missed : ¬ ScansRight overrunLine AncChannelSearch_Y ∧
    ¬ ScansRight missedLine AncChannelSearch_Both := by
  have hnone : GetAncPacketsFromVANCLine overrunLine AncChannelSearch_Y = none := by
    decide +kernel
  have hempty : GetAncPacketsFromVANCLine missedLine AncChannelSearch_Both =
      some ⟨true, [], []⟩ := by
    decide +kernel
  refine ⟨fun h => h.inBounds hnone, fun h => ?_⟩
  have hmissed := (h.exact _ hempty rfl).1
  revert hmissed
  decide +kernel

end Right

end LibAjaNtv2
