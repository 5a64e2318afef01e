import LibAjaNtv2.Rpc.Buffer

/-!
What differs between two ring buffers (`ntv2publicinterface.cpp`).

* `scanUp`, `scanDown`: the searches for a byte, from either end;
* `NTV2Buffer.getRingChangedByteRange`: the function;
* `NTV2Buffer.ChangedRun`: the bytes that differ are one run around the ring;
* `getRingChangedByteRange_eq_run`: the run is reported when it touches no end of the buffer, or
  both, or has one byte;
* `reportsChange_iff`: **the function reports what differs exactly when some byte is the same and
  no longer run touches just one end**.
-/

namespace LibAjaNtv2

/-! ### Scans -/

/-- The first offset that stops the scan, from `i` on and within so many. -/
def scanUp (stop : ℕ → Bool) : ℕ → ℕ → ℕ
  | 0, i => i
  | left + 1, i => if stop i then i else scanUp stop left (i + 1)

/-- The last offset that stops the scan, from `i` down; offset 0 is not looked at. -/
def scanDown (stop : ℕ → Bool) : ℕ → ℕ
  | 0 => 0
  | i + 1 => if stop (i + 1) then i + 1 else scanDown stop i

section Scans

variable {stop : ℕ → Bool}

/-- Nothing before the end of the scan stops it, and what it ends at does. -/
lemma scanUp_spec (left i : ℕ) :
    i ≤ scanUp stop left i ∧ scanUp stop left i ≤ i + left ∧
      (∀ j, i ≤ j → j < scanUp stop left i → stop j = false) ∧
      (scanUp stop left i < i + left → stop (scanUp stop left i) = true) := by
  induction left generalizing i with
  | zero => exact ⟨le_rfl, le_rfl, fun j h h' => absurd h' (not_lt.mpr h), fun h => absurd h (by
      simp [scanUp])⟩
  | succ left ih =>
      rw [scanUp]
      split_ifs with hi
      · exact ⟨le_rfl, by omega, fun j h h' => absurd h' (not_lt.mpr h), fun _ => hi⟩
      · obtain ⟨hle, hbound, hbefore, hstop⟩ := ih (i + 1)
        refine ⟨by omega, by omega, fun j h h' => ?_, fun h => hstop (by omega)⟩
        rcases Nat.eq_or_lt_of_le h with rfl | hlt
        · simpa using hi
        · exact hbefore j hlt h'

/-- A scan up ends where nothing before stops it and the offset itself does. -/
lemma scanUp_eq {left r : ℕ} (hr : r < left) (hbefore : ∀ j < r, stop j = false)
    (hstop : stop r = true) : scanUp stop left 0 = r := by
  obtain ⟨-, hbound, hbefore', hstop'⟩ := @scanUp_spec stop left 0
  rcases Nat.lt_trichotomy (scanUp stop left 0) r with hlt | heq | hgt
  · rw [hbefore _ hlt] at hstop'
    exact absurd (hstop' (by omega)) (by simp)
  · exact heq
  · rw [hbefore' r (Nat.zero_le r) hgt] at hstop
    exact absurd hstop (by simp)

/-- A scan up that nothing stops ends past its range. -/
lemma scanUp_eq_left {left : ℕ} (hnone : ∀ j < left, stop j = false) :
    scanUp stop left 0 = left := by
  obtain ⟨-, hbound, -, hstop⟩ := @scanUp_spec stop left 0
  by_contra hne
  have hlt : scanUp stop left 0 < left := by omega
  rw [hnone _ hlt] at hstop
  exact absurd (hstop (by omega)) (by simp)

/-- Nothing past the end of the scan stops it. -/
lemma scanDown_spec (i : ℕ) :
    scanDown stop i ≤ i ∧ (∀ j, scanDown stop i < j → j ≤ i → stop j = false) ∧
      (scanDown stop i ≠ 0 → stop (scanDown stop i) = true) := by
  induction i with
  | zero => exact ⟨le_rfl, fun j h h' => absurd h' (not_le.mpr h), fun h => absurd rfl h⟩
  | succ i ih =>
      rw [scanDown]
      split_ifs with hi
      · exact ⟨le_rfl, fun j h h' => absurd h' (not_le.mpr h), fun _ => hi⟩
      · obtain ⟨hle, hpast, hstop⟩ := ih
        refine ⟨by omega, fun j h h' => ?_, hstop⟩
        rcases Nat.eq_or_lt_of_le h' with rfl | hlt
        · simpa using hi
        · exact hpast j h (by omega)

/-- A scan down ends where nothing past it stops it and the offset itself does, or at 0. -/
lemma scanDown_eq {i r : ℕ} (hr : r ≤ i) (hpast : ∀ j, r < j → j ≤ i → stop j = false)
    (hstop : r ≠ 0 → stop r = true) : scanDown stop i = r := by
  obtain ⟨hle, hpast', hstop'⟩ := @scanDown_spec stop i
  rcases Nat.lt_trichotomy (scanDown stop i) r with hlt | heq | hgt
  · have hfalse := hpast' r hlt hr
    rw [hstop (by omega)] at hfalse
    exact absurd hfalse (by simp)
  · exact heq
  · have htrue := hstop' (by omega)
    rw [hpast _ hgt hle] at htrue
    exact absurd htrue (by simp)

end Scans

namespace NTV2Buffer

/-! ### The function -/

/-- The two bytes at an offset are not the same. -/
def differ (self inBuffer : NTV2Buffer) (i : ℕ) : Bool := self.bytes[i]? != inBuffer.bytes[i]?

/-- The scan from the start of the buffers: the first byte that differs, and where that is byte 0,
the last one before a byte that is the same. -/
def ringScanStart (differ : ℕ → Bool) (byteCount : ℕ) : ℕ :=
  let outByteOffsetFirst := scanUp differ byteCount 0
  if outByteOffsetFirst = 0 then
    let outByteOffsetFirst := scanUp (fun i => !differ i) byteCount 0
    if outByteOffsetFirst < byteCount then outByteOffsetFirst - 1 else outByteOffsetFirst
  else outByteOffsetFirst

/-- The scan from the end of the buffers, for the offset that the first scan has found. -/
def ringScanEnd (differ : ℕ → Bool) (byteCount outByteOffsetFirst : ℕ) : ℕ × ℕ :=
  let outByteOffsetLast := scanDown differ (byteCount - 1)
  if outByteOffsetLast = byteCount - 1 then
    let outByteOffsetLast := scanDown (fun i => !differ i) (byteCount - 1)
    let outByteOffsetLast :=
      if outByteOffsetLast < byteCount then outByteOffsetLast + 1 else outByteOffsetLast
    -- the two offsets change places
    (outByteOffsetLast, outByteOffsetFirst)
  else (outByteOffsetFirst, outByteOffsetLast)

/-- `GetRingChangedByteRange`, of two buffers at the same address or not: what it returns, and the
first and last offset. -/
def getRingChangedByteRange (self inBuffer : NTV2Buffer) (sameHostPointer : Bool) : Bool × ℕ × ℕ :=
  let byteCount := self.bytes.length
  if self.isNULL || inBuffer.isNULL then (false, byteCount, byteCount)
  else if inBuffer.bytes.length ≠ byteCount then (false, byteCount, byteCount)
  else if sameHostPointer then (true, byteCount, byteCount)
  else if byteCount < 3 then (false, byteCount, byteCount)
  else
    let outByteOffsetFirst := ringScanStart (differ self inBuffer) byteCount
    if outByteOffsetFirst = byteCount then (true, byteCount, byteCount)
    else (true, ringScanEnd (differ self inBuffer) byteCount outByteOffsetFirst)

/-! ### What it is for -/

/-- An offset of the run from `first` to `last`, which wraps past the end when `last` is before
`first`. -/
def InRun (first last i : ℕ) : Prop :=
  if first ≤ last then first ≤ i ∧ i ≤ last else first ≤ i ∨ i ≤ last

/-- The bytes that differ are the run from `first` to `last`, and not all bytes. -/
structure ChangedRun (self inBuffer : NTV2Buffer) (first last : ℕ) : Prop where
  first_lt : first < self.bytes.length
  last_lt : last < self.bytes.length
  differ_iff : ∀ i < self.bytes.length, differ self inBuffer i = true ↔ InRun first last i
  exists_same : ∃ i < self.bytes.length, differ self inBuffer i = false

/-- One run is reported by its ends, and the size of the buffers says that there is none. -/
def ReportsChange (self inBuffer : NTV2Buffer) : Prop :=
  (∀ first last, ChangedRun self inBuffer first last →
      getRingChangedByteRange self inBuffer false = (true, first, last)) ∧
    ((getRingChangedByteRange self inBuffer false).2 =
        (self.bytes.length, self.bytes.length) ↔ self.bytes = inBuffer.bytes)

/-- The bytes that differ are a run of two or more at the start of the buffer, or at its end. -/
def TouchesOneEnd (self inBuffer : NTV2Buffer) : Prop :=
  (∃ last, 0 < last ∧ last + 1 < self.bytes.length ∧
      ∀ i < self.bytes.length, differ self inBuffer i = true ↔ i ≤ last) ∨
    ∃ first, 0 < first ∧ first + 1 < self.bytes.length ∧
      ∀ i < self.bytes.length, differ self inBuffer i = true ↔ first ≤ i

/-! ### The two scans -/

section RingScans

variable {d : ℕ → Bool} {n : ℕ}

lemma ringScanStart_of_same {first : ℕ} (hfirst : first < n) (hpos : 0 < first)
    (hbefore : ∀ j < first, d j = false) (hdiffer : d first = true) :
    ringScanStart d n = first := by
  rw [ringScanStart, scanUp_eq hfirst hbefore hdiffer, if_neg (by omega)]

/-- Byte 0 differs: the byte before the first one that is the same. -/
lemma ringScanStart_of_differ {same : ℕ} (hsame : same + 1 < n)
    (hbefore : ∀ j ≤ same, d j = true) (hstop : d (same + 1) = false) :
    ringScanStart d n = same := by
  have hstart : scanUp d n 0 = 0 :=
    scanUp_eq (by omega) (fun j hj => absurd hj (Nat.not_lt_zero j)) (hbefore 0 (Nat.zero_le _))
  have hmatch : scanUp (fun i => !d i) n 0 = same + 1 := by
    refine scanUp_eq hsame (fun j hj => ?_) ?_
    · simp only [hbefore j (by omega), Bool.not_true]
    · simp only [hstop, Bool.not_false]
  rw [ringScanStart, hstart, if_pos rfl, hmatch, if_pos hsame, Nat.add_sub_cancel]

lemma ringScanStart_of_none (hn : 0 < n) (hnone : ∀ j < n, d j = false) :
    ringScanStart d n = n := by
  rw [ringScanStart, scanUp_eq_left hnone, if_neg (by omega)]

/-- **Every byte differs: the size again.** -/
lemma ringScanStart_of_all (hn : 0 < n) (hall : ∀ j < n, d j = true) : ringScanStart d n = n := by
  have hstart : scanUp d n 0 = 0 :=
    scanUp_eq hn (fun j hj => absurd hj (Nat.not_lt_zero j)) (hall 0 hn)
  have hmatch : scanUp (fun i => !d i) n 0 = n :=
    scanUp_eq_left fun j hj => by simp only [hall j hj, Bool.not_true]
  rw [ringScanStart, hstart, if_pos rfl, hmatch, if_neg (by omega)]

/-- Some byte differs and some is the same: an offset inside the buffer. -/
lemma ringScanStart_lt {i j : ℕ} (hi : i < n) (hdiffer : d i = true) (hj : j < n)
    (hsame : d j = false) : ringScanStart d n < n := by
  obtain ⟨-, hbound, hbefore, -⟩ := @scanUp_spec d n 0
  obtain ⟨-, hbound', hbefore', -⟩ := @scanUp_spec (fun i => !d i) n 0
  have hlt : scanUp d n 0 < n := by
    by_contra hge
    rw [hbefore i (Nat.zero_le i) (by omega)] at hdiffer
    exact absurd hdiffer (by simp)
  rw [ringScanStart]
  dsimp only
  split_ifs with hzero hmatch
  · omega
  · have htrue := hbefore' j (Nat.zero_le j) (by omega)
    rw [hsame] at htrue
    exact absurd htrue (by simp)
  · exact hlt

/-- The last byte is the same: the last one that differs. -/
lemma ringScanEnd_of_same {first last : ℕ} (hlast : last + 1 < n)
    (hpast : ∀ j, last < j → j < n → d j = false) (hdiffer : d last = true) :
    ringScanEnd d n first = (first, last) := by
  have hscan : scanDown d (n - 1) = last :=
    scanDown_eq (by omega) (fun j h h' => hpast j h (by omega)) fun _ => hdiffer
  rw [ringScanEnd, hscan, if_neg (by omega)]

/-- The last byte differs: the bytes behind the last one that is the same come first. -/
lemma ringScanEnd_of_differ {first same : ℕ} (hsame : same + 1 < n)
    (hpast : ∀ j, same < j → j < n → d j = true) (hstop : d same = false) :
    ringScanEnd d n first = (same + 1, first) := by
  have hscan : scanDown d (n - 1) = n - 1 :=
    scanDown_eq le_rfl (fun j h h' => absurd h (not_lt.mpr h')) fun _ => hpast _ (by omega) (by omega)
  have hmatch : scanDown (fun i => !d i) (n - 1) = same := by
    refine scanDown_eq (by omega) (fun j h h' => ?_) fun _ => ?_
    · simp only [hpast j h (by omega), Bool.not_true]
    · simp only [hstop, Bool.not_false]
  rw [ringScanEnd, hscan, if_pos rfl, hmatch]
  dsimp only
  rw [if_pos (by omega)]

/-- One of the two offsets is that of the first scan. -/
lemma ringScanEnd_ne {first : ℕ} (hfirst : first < n) : ringScanEnd d n first ≠ (n, n) := by
  rw [ringScanEnd]
  dsimp only
  split_ifs with hend hmatch <;>
  · intro h
    rw [Prod.mk.injEq] at h
    omega

end RingScans

/-! ### Runs -/

section Runs

variable {self inBuffer : NTV2Buffer} {first last : ℕ}

/-- Two buffers of three bytes or more, and of the same size. -/
lemma getRingChangedByteRange_eq (hsize : inBuffer.bytes.length = self.bytes.length)
    (hcount : 3 ≤ self.bytes.length) :
    getRingChangedByteRange self inBuffer false =
      if ringScanStart (differ self inBuffer) self.bytes.length = self.bytes.length then
        (true, self.bytes.length, self.bytes.length)
      else (true, ringScanEnd (differ self inBuffer) self.bytes.length
        (ringScanStart (differ self inBuffer) self.bytes.length)) := by
  have hnull : (self.isNULL || inBuffer.isNULL) = false := by
    rw [Bool.or_eq_false_iff, isNULL, isNULL, List.isEmpty_eq_false_iff, List.isEmpty_eq_false_iff]
    exact ⟨List.ne_nil_of_length_pos (by omega), List.ne_nil_of_length_pos (by omega)⟩
  rw [getRingChangedByteRange]
  simp only [hnull, hsize]
  rw [if_neg (by simp), if_neg (by simp), if_neg (by simp), if_neg (by omega)]

/-- Buffers that are the same byte for byte. -/
lemma bytes_eq_iff (hsize : inBuffer.bytes.length = self.bytes.length) :
    self.bytes = inBuffer.bytes ↔ ∀ i < self.bytes.length, differ self inBuffer i = false := by
  simp only [differ, bne_eq_false_iff_eq]
  constructor
  · intro heq i _
    rw [heq]
  · intro hall
    refine List.ext_getElem? fun i => ?_
    rcases Nat.lt_or_ge i self.bytes.length with hi | hi
    · exact hall i hi
    · rw [List.getElem?_eq_none hi, List.getElem?_eq_none (by omega)]

/-- **A run is reported** when it touches neither end of the buffer, or both, or has one byte. -/
lemma getRingChangedByteRange_eq_run (hsize : inBuffer.bytes.length = self.bytes.length)
    (hcount : 3 ≤ self.bytes.length) (hrun : ChangedRun self inBuffer first last)
    (hends : first = last ∨ last < first ∨ 0 < first ∧ last + 1 < self.bytes.length) :
    getRingChangedByteRange self inBuffer false = (true, first, last) := by
  obtain ⟨hfirst, hlast, hdiffer, same, hsameLt, hsame⟩ := hrun
  have htrue : ∀ i < self.bytes.length, InRun first last i → differ self inBuffer i = true :=
    fun i hi h => (hdiffer i hi).mpr h
  have hfalse : ∀ i < self.bytes.length, ¬ InRun first last i → differ self inBuffer i = false :=
    fun i hi h => Bool.eq_false_iff.mpr fun ht => h ((hdiffer i hi).mp ht)
  have hsameRun : ¬ InRun first last same := fun h => by
    rw [htrue same hsameLt h] at hsame
    exact absurd hsame (by simp)
  simp only [InRun] at htrue hfalse hsameRun
  rw [getRingChangedByteRange_eq hsize hcount]
  rcases Nat.lt_or_ge last first with hwrap | hle
  · -- from behind the start of the gap to before its end
    rw [if_neg (not_le.mpr hwrap)] at hsameRun
    have hstart : ringScanStart (differ self inBuffer) self.bytes.length = last := by
      refine ringScanStart_of_differ (by omega) (fun j hj => htrue j (by omega) ?_)
        (hfalse _ (by omega) ?_)
      all_goals rw [if_neg (not_le.mpr hwrap)]; omega
    have hend := @ringScanEnd_of_differ (differ self inBuffer) self.bytes.length last (first - 1)
      (by omega) (fun j hj hlt => htrue j hlt (by rw [if_neg (not_le.mpr hwrap)]; omega))
      (hfalse _ (by omega) (by rw [if_neg (not_le.mpr hwrap)]; omega))
    rw [hstart, if_neg (by omega), hend, Nat.sub_add_cancel (by omega)]
  · simp only [if_pos hle] at htrue hfalse hsameRun
    have hstart : ringScanStart (differ self inBuffer) self.bytes.length = first := by
      rcases Nat.eq_zero_or_pos first with rfl | hpos
      · exact ringScanStart_of_differ (by omega) (fun j hj => htrue j (by omega) (by omega))
          (hfalse _ (by omega) (by omega))
      · exact ringScanStart_of_same hfirst hpos (fun j hj => hfalse j (by omega) (by omega))
          (htrue _ hfirst (by omega))
    have hend : ringScanEnd (differ self inBuffer) self.bytes.length first = (first, last) := by
      rcases Nat.eq_or_lt_of_le (show last + 1 ≤ self.bytes.length from hlast) with heq | hlt
      · have hlower := @ringScanEnd_of_differ (differ self inBuffer) self.bytes.length first
          (first - 1) (by omega) (fun j hj hlt => htrue j hlt (by omega))
          (hfalse _ (by omega) (by omega))
        rw [hlower, Prod.mk.injEq]
        omega
      · exact ringScanEnd_of_same hlt (fun j hj hj' => hfalse j hj' (by omega))
          (htrue _ hlast (by omega))
    rw [hstart, if_neg (by omega), hend]

/-- **A run of two or more at the start** is reported as its last byte. -/
lemma getRingChangedByteRange_of_start (hsize : inBuffer.bytes.length = self.bytes.length)
    (hcount : 3 ≤ self.bytes.length) (hlast : last + 1 < self.bytes.length)
    (hdiffer : ∀ i < self.bytes.length, differ self inBuffer i = true ↔ i ≤ last) :
    getRingChangedByteRange self inBuffer false = (true, last, last) := by
  have hfalse : ∀ i < self.bytes.length, last < i → differ self inBuffer i = false :=
    fun i hi h => Bool.eq_false_iff.mpr fun ht => absurd ((hdiffer i hi).mp ht) (not_le.mpr h)
  have hstart : ringScanStart (differ self inBuffer) self.bytes.length = last :=
    ringScanStart_of_differ hlast (fun j hj => (hdiffer j (by omega)).mpr hj)
      (hfalse _ hlast (by omega))
  have hend := @ringScanEnd_of_same (differ self inBuffer) self.bytes.length last last hlast
    (fun j hj hlt => hfalse j hlt hj) ((hdiffer last (by omega)).mpr le_rfl)
  rw [getRingChangedByteRange_eq hsize hcount, hstart, if_neg (by omega), hend]

/-- **A run of two or more at the end** is reported as its first byte. -/
lemma getRingChangedByteRange_of_end (hsize : inBuffer.bytes.length = self.bytes.length)
    (hcount : 3 ≤ self.bytes.length) (hfirst : first + 1 < self.bytes.length) (hpos : 0 < first)
    (hdiffer : ∀ i < self.bytes.length, differ self inBuffer i = true ↔ first ≤ i) :
    getRingChangedByteRange self inBuffer false = (true, first, first) := by
  have hfalse : ∀ i < self.bytes.length, i < first → differ self inBuffer i = false :=
    fun i hi h => Bool.eq_false_iff.mpr fun ht => absurd ((hdiffer i hi).mp ht) (not_le.mpr h)
  have hstart : ringScanStart (differ self inBuffer) self.bytes.length = first :=
    ringScanStart_of_same (by omega) hpos (fun j hj => hfalse j (by omega) hj)
      ((hdiffer first (by omega)).mpr le_rfl)
  have hend := @ringScanEnd_of_differ (differ self inBuffer) self.bytes.length first (first - 1)
    (by omega) (fun j hj hlt => (hdiffer j hlt).mpr (by omega)) (hfalse _ (by omega) (by omega))
  rw [getRingChangedByteRange_eq hsize hcount, hstart, if_neg (by omega), hend,
    Nat.sub_add_cancel hpos]

/-- Some byte differs and some is the same: the size is not what is reported. -/
lemma getRingChangedByteRange_ne (hsize : inBuffer.bytes.length = self.bytes.length)
    (hcount : 3 ≤ self.bytes.length) {i j : ℕ} (hi : i < self.bytes.length)
    (hdiffer : differ self inBuffer i = true) (hj : j < self.bytes.length)
    (hsame : differ self inBuffer j = false) :
    (getRingChangedByteRange self inBuffer false).2 ≠ (self.bytes.length, self.bytes.length) := by
  have hlt := ringScanStart_lt hi hdiffer hj hsame
  rw [getRingChangedByteRange_eq hsize hcount, if_neg (by omega)]
  exact ringScanEnd_ne hlt

/-- **The function reports what differs** between two buffers exactly when some byte is the same
and the bytes that differ are not a run of two or more at just one end of the buffer. -/
theorem reportsChange_iff (hsize : inBuffer.bytes.length = self.bytes.length)
    (hcount : 3 ≤ self.bytes.length) :
    ReportsChange self inBuffer ↔
      (∃ i < self.bytes.length, differ self inBuffer i = false) ∧
        ¬ TouchesOneEnd self inBuffer := by
  constructor
  · rintro ⟨hruns, hsize'⟩
    refine ⟨?_, ?_⟩
    · by_contra hnone
      have hall : ∀ i < self.bytes.length, differ self inBuffer i = true := fun i hi =>
        Bool.eq_true_of_not_eq_false fun h => hnone ⟨i, hi, h⟩
      have hreports : (getRingChangedByteRange self inBuffer false).2 =
          (self.bytes.length, self.bytes.length) := by
        rw [getRingChangedByteRange_eq hsize hcount, ringScanStart_of_all (by omega) hall,
          if_pos rfl]
      have hsame := (bytes_eq_iff hsize).mp (hsize'.mp hreports) 0 (by omega)
      rw [hall 0 (by omega)] at hsame
      exact absurd hsame (by simp)
    · rintro (⟨last, hpos, hlast, hdiffer⟩ | ⟨first, hpos, hfirst, hdiffer⟩)
      · have hrun : ChangedRun self inBuffer 0 last := by
          refine ⟨by omega, by omega, fun i hi => ?_, last + 1, hlast, ?_⟩
          · rw [hdiffer i hi, InRun, if_pos (Nat.zero_le last)]
            omega
          · exact Bool.eq_false_iff.mpr fun h => absurd ((hdiffer _ hlast).mp h) (by omega)
        have hreports := hruns 0 last hrun
        rw [getRingChangedByteRange_of_start hsize hcount hlast hdiffer] at hreports
        simp only [Prod.mk.injEq] at hreports
        omega
      · have hrun : ChangedRun self inBuffer first (self.bytes.length - 1) := by
          refine ⟨by omega, by omega, fun i hi => ?_, first - 1, by omega, ?_⟩
          · rw [hdiffer i hi, InRun, if_pos (by omega)]
            omega
          · exact Bool.eq_false_iff.mpr fun h =>
              absurd ((hdiffer _ (by omega)).mp h) (by omega)
        have hreports := hruns first (self.bytes.length - 1) hrun
        rw [getRingChangedByteRange_of_end hsize hcount hfirst hpos hdiffer] at hreports
        simp only [Prod.mk.injEq] at hreports
        omega
  · rintro ⟨⟨same, hsameLt, hsame⟩, hends⟩
    refine ⟨fun first last hrun => ?_, fun hreports => ?_, fun heq => ?_⟩
    · refine getRingChangedByteRange_eq_run hsize hcount hrun ?_
      obtain ⟨hfirst, hlast, hdiffer, same, hsameLt, hsame⟩ := hrun
      have hsameRun : ¬ InRun first last same := fun h => by
        rw [(hdiffer same hsameLt).mpr h] at hsame
        exact absurd hsame (by simp)
      by_contra hone
      rw [InRun, if_pos (by omega)] at hsameRun
      refine hends ?_
      rcases Nat.eq_zero_or_pos first with rfl | hpos
      · refine .inl ⟨last, by omega, by omega, fun i hi => ?_⟩
        rw [hdiffer i hi, InRun, if_pos (Nat.zero_le last)]
        omega
      · refine .inr ⟨first, hpos, by omega, fun i hi => ?_⟩
        rw [hdiffer i hi, InRun, if_pos (by omega)]
        omega
    · rw [bytes_eq_iff hsize]
      intro i hi
      refine Bool.eq_false_iff.mpr fun hdiffer => ?_
      exact getRingChangedByteRange_ne hsize hcount hi hdiffer hsameLt hsame hreports
    · have hnone := (bytes_eq_iff hsize).mp heq
      rw [getRingChangedByteRange_eq hsize hcount, ringScanStart_of_none (by omega) hnone,
        if_pos rfl]

/-- A run that wraps past the end. -/
theorem reportsChange_iff_wrap :
    ReportsChange ⟨[1, 0, 0, 1], 0, by decide⟩ ⟨[0, 0, 0, 0], 0, by decide⟩ := by
  refine (@reportsChange_iff ⟨[1, 0, 0, 1], 0, by decide⟩ ⟨[0, 0, 0, 0], 0, by decide⟩ rfl
    (by decide)).mpr ⟨⟨1, by decide, by decide⟩, ?_⟩
  rintro (⟨last, hpos, hlast, hdiffer⟩ | ⟨first, hpos, hfirst, hdiffer⟩)
  · exact absurd ((hdiffer 1 (by decide)).mpr (by omega)) (by decide)
  · exact absurd ((hdiffer 0 (by decide)).mp (by decide)) (by omega)

/-- The first two of three bytes differ, and only the second one is reported. -/
theorem not_reportsChange_start :
    ¬ ReportsChange ⟨[1, 1, 0], 0, by decide⟩ ⟨[0, 0, 0], 0, by decide⟩ := by
  intro h
  have hrun : ChangedRun ⟨[1, 1, 0], 0, by decide⟩ ⟨[0, 0, 0], 0, by decide⟩ 0 1 := by
    refine ⟨by decide, by decide, fun i hi => ?_, 2, by decide, by decide⟩
    have hi' : i < 3 := hi
    interval_cases i <;> simp [differ, InRun]
  exact absurd (h.1 0 1 hrun) (by decide)

end Runs

end NTV2Buffer

end LibAjaNtv2
