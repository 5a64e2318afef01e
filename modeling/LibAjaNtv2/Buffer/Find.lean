import LibAjaNtv2.Lib.Smallest
import LibAjaNtv2.Rpc.Buffer

/-!
Searching a buffer for a value (`ntv2publicinterface.cpp`).

* `memcmp`: the comparison of two blocks of memory, which must lie inside the buffers;
* `NTV2Buffer.find`: the search;
* `NTV2Buffer.occurrences`: the offsets where a value occurs;
* `findLoop_eq`: the search reports the first occurrences before its last offset, which it leaves
  out;
* `find_complete_iff`: **what the search reports is complete** but for a last occurrence.
-/

namespace LibAjaNtv2

/-! ### The search -/

/-- `memcmp` of `n` bytes, `none` when one of the blocks ends before them. -/
def memcmp (p q : List Byte) (n : ℕ) : Option Bool :=
  if n ≤ p.length ∧ n ≤ q.length then some (p.take n == q.take n) else none

namespace NTV2Buffer

/-- The search loop from an offset on, for as many rounds. -/
def findLoop (pMyData pSrchData : List Byte) (srchByteCount maxOffset inLimit : ℕ) :
    ℕ → ℕ → Finset ℕ → Option (Finset ℕ)
  | 0, _, _ => none
  | rounds + 1, offset, outOffsets =>
      match memcmp (pMyData.drop offset) pSrchData srchByteCount with
      | none => none
      | some true =>
          if inLimit ≠ 0 ∧ inLimit ≤ Finset.card (insert offset outOffsets) then
            some (insert offset outOffsets)
          else if offset + 1 < maxOffset then
            findLoop pMyData pSrchData srchByteCount maxOffset inLimit rounds (offset + 1)
              (insert offset outOffsets)
          else some (insert offset outOffsets)
      | some false =>
          if offset + 1 < maxOffset then
            findLoop pMyData pSrchData srchByteCount maxOffset inLimit rounds (offset + 1)
              outOffsets
          else some outOffsets

/-- `Find`. -/
def find (self inValue : NTV2Buffer) (inLimit : ℕ) : Option (Finset ℕ) :=
  if self.isNULL then some ∅
  else if inValue.isNULL then some ∅
  else if self.bytes.length < inValue.bytes.length then some ∅
  else
    let maxOffset := self.bytes.length - inValue.bytes.length
    findLoop self.bytes inValue.bytes inValue.bytes.length maxOffset inLimit (maxOffset + 1) 0 ∅

/-! ### What it is for -/

/-- The value occurs at an offset. -/
def OccursAt (self inValue : NTV2Buffer) (offset : ℕ) : Prop :=
  offset + inValue.bytes.length ≤ self.bytes.length ∧
    (self.bytes.drop offset).take inValue.bytes.length = inValue.bytes

instance (self inValue : NTV2Buffer) (offset : ℕ) : Decidable (OccursAt self inValue offset) :=
  inferInstanceAs (Decidable (_ ∧ _))

/-- The offsets before `bound` where the value occurs. -/
def occurrencesBefore (self inValue : NTV2Buffer) (bound : ℕ) : Finset ℕ :=
  {offset ∈ Finset.range bound | OccursAt self inValue offset}

/-- The offsets where the value occurs. -/
def occurrences (self inValue : NTV2Buffer) : Finset ℕ :=
  occurrencesBefore self inValue (self.bytes.length + 1)

/-- All of a set of offsets when there is no limit, the smallest ones otherwise. -/
def upToLimit (inLimit : ℕ) (offsets : Finset ℕ) : Finset ℕ :=
  if inLimit = 0 then offsets else smallest inLimit offsets

variable {self inValue : NTV2Buffer} {inLimit : ℕ}

lemma mem_occurrencesBefore {bound offset : ℕ} :
    offset ∈ occurrencesBefore self inValue bound ↔
      offset < bound ∧ OccursAt self inValue offset := by
  rw [occurrencesBefore, Finset.mem_filter, Finset.mem_range]

/-- One offset further. -/
lemma occurrencesBefore_succ (bound : ℕ) :
    occurrencesBefore self inValue (bound + 1) =
      if OccursAt self inValue bound then insert bound (occurrencesBefore self inValue bound)
      else occurrencesBefore self inValue bound := by
  rw [occurrencesBefore, Finset.range_add_one, Finset.filter_insert]
  rfl

/-- No value occurs past the last offset that has room for it. -/
lemma occurrences_eq (h : inValue.bytes.length ≤ self.bytes.length) :
    occurrences self inValue =
      occurrencesBefore self inValue (self.bytes.length - inValue.bytes.length + 1) := by
  ext offset
  rw [occurrences, mem_occurrencesBefore, mem_occurrencesBefore]
  constructor
  · rintro ⟨-, hoccurs⟩
    have hroom := hoccurs.1
    exact ⟨by omega, hoccurs⟩
  · rintro ⟨hlt, hoccurs⟩
    exact ⟨by omega, hoccurs⟩

/-- Later occurrences do not count once the limit is reached. -/
lemma upToLimit_occurrencesBefore {m n : ℕ} (hmn : m ≤ n) (hlimit : inLimit ≠ 0)
    (hcard : Finset.card (occurrencesBefore self inValue m) = inLimit) :
    upToLimit inLimit (occurrencesBefore self inValue n) = occurrencesBefore self inValue m := by
  have hsplit : occurrencesBefore self inValue n = occurrencesBefore self inValue m ∪
      {offset ∈ occurrencesBefore self inValue n | m ≤ offset} := by
    ext offset
    rw [Finset.mem_union, Finset.mem_filter, mem_occurrencesBefore, mem_occurrencesBefore]
    constructor
    · rintro ⟨hlt, hoccurs⟩
      rcases Nat.lt_or_ge offset m with hm | hm
      · exact .inl ⟨hm, hoccurs⟩
      · exact .inr ⟨⟨hlt, hoccurs⟩, hm⟩
    · rintro (⟨hlt, hoccurs⟩ | ⟨h, -⟩)
      · exact ⟨by omega, hoccurs⟩
      · exact h
  rw [upToLimit, if_neg hlimit, hsplit, smallest_union hcard]
  intro a ha b hb
  have hlt := (mem_occurrencesBefore.mp ha).1
  have hle := (Finset.mem_filter.mp hb).2
  omega

/-- Below the limit every occurrence counts. -/
lemma upToLimit_of_card_le {offsets : Finset ℕ} (h : inLimit ≠ 0 → offsets.card ≤ inLimit) :
    upToLimit inLimit offsets = offsets := by
  rw [upToLimit]
  split_ifs with hlimit
  · rfl
  · exact smallest_of_card_le (h hlimit)

/-! ### What it finds -/

/-- A comparison at an offset with room for the value stays inside both buffers. -/
lemma memcmp_eq {offset : ℕ} (h : offset + inValue.bytes.length ≤ self.bytes.length) :
    memcmp (self.bytes.drop offset) inValue.bytes inValue.bytes.length =
      some (decide (OccursAt self inValue offset)) := by
  have hroom : inValue.bytes.length ≤ (self.bytes.drop offset).length := by
    rw [List.length_drop]
    omega
  rw [memcmp, if_pos ⟨hroom, le_rfl⟩, List.take_length]
  simp [OccursAt, h, Bool.beq_eq_decide_eq]

/-- **The loop reports the first occurrences before its last offset**, or at the only one. -/
lemma findLoop_eq {offset rounds : ℕ}
    (hle : inValue.bytes.length ≤ self.bytes.length)
    (hoffset : offset ≤ self.bytes.length - inValue.bytes.length)
    (hrounds : self.bytes.length - inValue.bytes.length < offset + rounds)
    (hroom : inLimit ≠ 0 → Finset.card (occurrencesBefore self inValue offset) < inLimit) :
    findLoop self.bytes inValue.bytes inValue.bytes.length
        (self.bytes.length - inValue.bytes.length) inLimit rounds offset
        (occurrencesBefore self inValue offset) =
      some (upToLimit inLimit (occurrencesBefore self inValue
        (max (offset + 1) (self.bytes.length - inValue.bytes.length)))) := by
  induction rounds generalizing offset with
  | zero => omega
  | succ rounds ih =>
      have hsucc := @occurrencesBefore_succ self inValue offset
      -- the last round, and a round before it
      have hnext : ∀ next : Finset ℕ, next = occurrencesBefore self inValue (offset + 1) →
          (inLimit ≠ 0 → next.card < inLimit) →
          (if offset + 1 < self.bytes.length - inValue.bytes.length then
            findLoop self.bytes inValue.bytes inValue.bytes.length
              (self.bytes.length - inValue.bytes.length) inLimit rounds (offset + 1) next
          else some next) =
          some (upToLimit inLimit (occurrencesBefore self inValue
            (max (offset + 1) (self.bytes.length - inValue.bytes.length)))) := by
        rintro next rfl hcard
        split_ifs with hlast
        · rw [ih (by omega) (by omega) hcard, Nat.max_eq_right hlast.le,
            Nat.max_eq_right (by omega)]
        · rw [Nat.max_eq_left (by omega), upToLimit_of_card_le fun h => (hcard h).le]
      rw [findLoop, memcmp_eq (by omega)]
      by_cases hoccurs : OccursAt self inValue offset
      · rw [if_pos hoccurs] at hsucc
        simp only [hoccurs, decide_true]
        rw [← hsucc]
        by_cases hfull : inLimit ≠ 0 ∧
            inLimit ≤ (occurrencesBefore self inValue (offset + 1)).card
        · have hcard : (occurrencesBefore self inValue (offset + 1)).card = inLimit := by
            have hinsert := Finset.card_insert_le offset (occurrencesBefore self inValue offset)
            rw [← hsucc] at hinsert
            have hlt := hroom hfull.1
            omega
          rw [if_pos hfull, upToLimit_occurrencesBefore (Nat.le_max_left _ _) hfull.1 hcard]
        · rw [if_neg hfull]
          refine hnext _ rfl fun h => ?_
          by_contra hge
          exact hfull ⟨h, by omega⟩
      · rw [if_neg hoccurs] at hsucc
        simp only [hoccurs, decide_false]
        exact hnext _ hsucc.symm hroom

/-- The search reports the first occurrences before its last offset, or at the only one. -/
lemma find_eq (hvalue : inValue.isNULL = false)
    (hle : inValue.bytes.length ≤ self.bytes.length) :
    find self inValue inLimit = some (upToLimit inLimit (occurrencesBefore self inValue
      (max 1 (self.bytes.length - inValue.bytes.length)))) := by
  have hpos : 0 < inValue.bytes.length := by
    rw [List.length_pos_iff_ne_nil]
    simpa [isNULL] using hvalue
  have hself : self.isNULL = false := by
    have hne : self.bytes ≠ [] := List.length_pos_iff_ne_nil.mp (by omega)
    simpa [isNULL] using hne
  have hempty : occurrencesBefore self inValue 0 = ∅ := rfl
  rw [find, if_neg (by simp [hself]), if_neg (by simp [hvalue]), if_neg (by omega), ← hempty]
  refine findLoop_eq hle (by omega) (by omega) fun h => ?_
  rw [hempty, Finset.card_empty]
  omega

/-- When the search misses nothing: the value is as long as the buffer or longer, or it does not
occur at the very end, or the limit is reached before. -/
def FindsAll (self inValue : NTV2Buffer) (inLimit : ℕ) : Prop :=
  let maxOffset := self.bytes.length - inValue.bytes.length
  maxOffset = 0 ∨ ¬ OccursAt self inValue maxOffset ∨
    inLimit ≠ 0 ∧ inLimit ≤ (occurrencesBefore self inValue maxOffset).card

/-- **The search is complete but for a last occurrence**: it compares nothing outside the buffers,
and it reports the occurrences up to the limit exactly when the value does not occur at the end of
a longer buffer, or enough occurrences come before. -/
theorem find_complete_iff (hvalue : inValue.isNULL = false) :
    (find self inValue inLimit).isSome ∧
      (find self inValue inLimit = some (upToLimit inLimit (occurrences self inValue)) ↔
        FindsAll self inValue inLimit) := by
  rcases Nat.lt_or_ge self.bytes.length inValue.bytes.length with hlt | hle
  · -- nothing occurs in a shorter buffer
    have hfind : find self inValue inLimit = some ∅ := by
      simp [find, hvalue, hlt]
    have hnone : occurrences self inValue = ∅ := by
      rw [Finset.eq_empty_iff_forall_notMem]
      intro offset h
      have hroom := (mem_occurrencesBefore.mp h).2.1
      omega
    have hall : FindsAll self inValue inLimit := .inl (by omega)
    refine ⟨by rw [hfind]; rfl, ?_⟩
    rw [hfind, hnone, upToLimit_of_card_le (by simp)]
    exact iff_of_true rfl hall
  · refine ⟨by rw [find_eq hvalue hle]; rfl, ?_⟩
    rw [find_eq hvalue hle, occurrences_eq hle, FindsAll, Option.some_inj]
    generalize hmax : self.bytes.length - inValue.bytes.length = maxOffset
    rcases Nat.eq_zero_or_pos maxOffset with hzero | hpos
    · rw [hzero]
      exact iff_of_true rfl (.inl rfl)
    · rw [Nat.max_eq_right hpos, occurrencesBefore_succ]
      by_cases hoccurs : OccursAt self inValue maxOffset
      · have hbefore : ∀ b ∈ occurrencesBefore self inValue maxOffset, b < maxOffset :=
          fun b hb => (mem_occurrencesBefore.mp hb).1
        rw [if_pos hoccurs, upToLimit, upToLimit]
        by_cases hlimit : inLimit = 0
        · rw [if_pos hlimit, if_pos hlimit]
          have hnot : maxOffset ∉ occurrencesBefore self inValue maxOffset :=
            fun h => lt_irrefl _ (hbefore _ h)
          constructor
          · intro heq
            rw [heq] at hnot
            exact absurd (Finset.mem_insert_self _ _) hnot
          · rintro (hz | hn | ⟨hl, -⟩)
            · omega
            · exact absurd hoccurs hn
            · exact absurd hlimit hl
        · rw [if_neg hlimit, if_neg hlimit, eq_comm, smallest_insert_eq_iff hbefore]
          constructor
          · intro hfull
            exact .inr (.inr ⟨hlimit, hfull⟩)
          · rintro (hz | hn | ⟨-, hfull⟩)
            · omega
            · exact absurd hoccurs hn
            · exact hfull
      · rw [if_neg hoccurs]
        exact iff_of_true rfl (.inr (.inl hoccurs))

/-- A value in the middle of a buffer is found. -/
theorem find_complete_iff_middle :
    (find ⟨[1, 2, 3], 0, by decide⟩ ⟨[2], 0, by decide⟩ 0).isSome ∧
      (find ⟨[1, 2, 3], 0, by decide⟩ ⟨[2], 0, by decide⟩ 0 =
          some (upToLimit 0 (occurrences ⟨[1, 2, 3], 0, by decide⟩ ⟨[2], 0, by decide⟩)) ↔
        FindsAll ⟨[1, 2, 3], 0, by decide⟩ ⟨[2], 0, by decide⟩ 0) :=
  find_complete_iff (by decide)

/-- A value at the very end is not. -/
theorem find_misses_end :
    find ⟨[1, 2], 0, by decide⟩ ⟨[2], 0, by decide⟩ 0 = some ∅ ∧
      upToLimit 0 (occurrences ⟨[1, 2], 0, by decide⟩ ⟨[2], 0, by decide⟩) = {1} := by
  decide

end NTV2Buffer

end LibAjaNtv2
