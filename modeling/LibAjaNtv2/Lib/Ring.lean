import Mathlib.Tactic

/-!
A ring of slots numbered by an integer interval `[lo, hi]`, walked with one
comparison instead of a modulus:

* `ringNext`, `ringPrev`: one step forward and backward;
* `ringOff`: how many steps forward lead from one slot to another;
* `ringOff_next`, `ringOff_base_next`: what a step does to the offsets, at
  either end of the distance;
* `ringAt`, `ringBefore`: the slots a number of steps forward and backward;
* `ringScan`: the first slot that meets a test, on a walk of given length;
* `ringScan_eq_some`: what a scan finds, in terms of offsets;
* `ringVisited`: the slots such a walk looks at;
* `RingSorted`: marks that increase along the ring from a base;
* `RingSorted.rotate`, `RingSorted.append`: the base moves on over a slot that is not
  in use, and the slot before the base comes into use last;
* `RingSorted.scan`: **a scan finds the slot with the least mark**;
* `RingRun`: the slots in use are the first ones from a slot on;
* `RingRun.push`, `RingRun.pop`: one more at the end, and one less at the front;
* `RingRun.scan`: **a scan for a free slot finds the end of the run**.
-/

namespace LibAjaNtv2

/-- One step forward; anything at or past the end goes back to `lo`. -/
def ringNext (lo hi x : Int) : Int := if x < hi then x + 1 else lo

/-- One step backward; anything at or before the start goes to `hi`. -/
def ringPrev (lo hi x : Int) : Int := if lo < x then x - 1 else hi

/-- The number of steps forward from `a` to `x`. -/
def ringOff (lo hi a x : Int) : Int := if a ≤ x then x - a else x - a + (hi - lo + 1)

/-- The slot `k` steps forward from `a`. -/
def ringAt (lo hi a k : Int) : Int := if a + k ≤ hi then a + k else a + k - (hi - lo + 1)

/-- Membership of the interval. -/
def InRing (lo hi x : Int) : Prop := lo ≤ x ∧ x ≤ hi

instance (lo hi x : Int) : Decidable (InRing lo hi x) := inferInstanceAs (Decidable (_ ∧ _))

section Steps

variable {lo hi a x y : Int}

lemma inRing_next (hle : lo ≤ hi) (hx : lo - 1 ≤ x) : InRing lo hi (ringNext lo hi x) := by
  unfold InRing ringNext
  split <;> omega

/-- Going backward stays on the ring. -/
lemma inRing_prev (hle : lo ≤ hi) (hx : x ≤ hi + 1) : InRing lo hi (ringPrev lo hi x) := by
  unfold InRing ringPrev
  split <;> omega

/-- Backward undoes forward. -/
lemma ringPrev_next (hx : InRing lo hi x) : ringPrev lo hi (ringNext lo hi x) = x := by
  unfold InRing at hx
  unfold ringPrev ringNext
  split_ifs <;> omega

lemma ringNext_prev (hx : InRing lo hi x) : ringNext lo hi (ringPrev lo hi x) = x := by
  unfold InRing at hx
  unfold ringPrev ringNext
  split_ifs <;> omega

/-- An offset lies in `[0, hi - lo]`. -/
lemma ringOff_mem (ha : InRing lo hi a) (hx : InRing lo hi x) :
    0 ≤ ringOff lo hi a x ∧ ringOff lo hi a x ≤ hi - lo := by
  unfold InRing at ha hx
  unfold ringOff
  split <;> omega

/-- Only the slot itself is at offset `0`. -/
lemma ringOff_eq_zero (ha : InRing lo hi a) (hx : InRing lo hi x) :
    ringOff lo hi a x = 0 ↔ x = a := by
  unfold InRing at ha hx
  unfold ringOff
  split <;> omega

/-- A slot is at offset `0` from itself. -/
@[simp] lemma ringOff_self : ringOff lo hi a a = 0 := by
  simp [ringOff]

/-- Offsets tell the slots apart. -/
lemma ringOff_inj (hx : InRing lo hi x) (hy : InRing lo hi y)
    (h : ringOff lo hi a x = ringOff lo hi a y) : x = y := by
  unfold InRing at hx hy
  unfold ringOff at h
  split at h <;> split at h <;> omega

/-- A step of the far end adds one, unless it comes round to the base. -/
lemma ringOff_next (ha : InRing lo hi a) (hx : InRing lo hi x)
    (h : ringNext lo hi x ≠ a) :
    ringOff lo hi a (ringNext lo hi x) = ringOff lo hi a x + 1 := by
  unfold InRing at ha hx
  unfold ringNext at h
  unfold ringOff ringNext
  split_ifs at h ⊢ <;> omega

/-- A step of the base takes one off, except at the old base. -/
lemma ringOff_base_next (ha : InRing lo hi a) (hx : InRing lo hi x) (h : x ≠ a) :
    ringOff lo hi (ringNext lo hi a) x = ringOff lo hi a x - 1 := by
  unfold InRing at ha hx
  unfold ringOff ringNext
  split_ifs <;> omega

/-- The old base becomes the last slot. -/
lemma ringOff_base_next_self (ha : InRing lo hi a) :
    ringOff lo hi (ringNext lo hi a) a = hi - lo := by
  unfold InRing at ha
  unfold ringOff ringNext
  split_ifs <;> omega

/-- The slot at an offset is on the ring. -/
lemma inRing_at (ha : InRing lo hi a) {k : Int} (h₀ : 0 ≤ k) (hk : k ≤ hi - lo) :
    InRing lo hi (ringAt lo hi a k) := by
  unfold InRing at ha ⊢
  unfold ringAt
  split <;> omega

lemma ringOff_at {k : Int} (h₀ : 0 ≤ k) (hk : k ≤ hi - lo) :
    ringOff lo hi a (ringAt lo hi a k) = k := by
  unfold ringOff ringAt
  split_ifs <;> omega

/-- The slot `k` steps backward from `a`. -/
def ringBefore (lo hi a k : Int) : Int := if lo ≤ a - k then a - k else a - k + (hi - lo + 1)

/-- The slots backward from one are on the ring. -/
lemma inRing_before (ha : InRing lo hi a) {k : Int} (h₀ : 0 ≤ k) (hk : k ≤ hi - lo + 1) :
    InRing lo hi (ringBefore lo hi a k) := by
  unfold InRing at ha ⊢
  unfold ringBefore
  split <;> omega

/-- One more step backward. -/
lemma ringPrev_before (ha : InRing lo hi a) {k : Int} (hk : k ≤ hi - lo) :
    ringPrev lo hi (ringBefore lo hi a k) = ringBefore lo hi a (k + 1) := by
  unfold InRing at ha
  unfold ringPrev ringBefore
  split_ifs <;> omega

/-- One step forward again. -/
lemma ringNext_before (ha : InRing lo hi a) {k : Int} (h₀ : 0 ≤ k) :
    ringNext lo hi (ringBefore lo hi a (k + 1)) = ringBefore lo hi a k := by
  unfold InRing at ha
  unfold ringNext ringBefore
  split_ifs <;> omega

lemma ringBefore_round (ha : InRing lo hi a) : ringBefore lo hi a (hi - lo + 1) = a := by
  unfold InRing at ha
  unfold ringBefore
  split_ifs <;> omega

/-- Numbers of steps that are less than a round apart lead to different slots. -/
lemma ringBefore_inj {k j : Int} (hkj : k - j ≤ hi - lo) (hjk : j - k ≤ hi - lo)
    (h : ringBefore lo hi a k = ringBefore lo hi a j) : k = j := by
  unfold ringBefore at h
  split_ifs at h <;> omega

lemma ringBefore_off (hx : InRing lo hi x) : ringBefore lo hi a (ringOff lo hi x a) = x := by
  unfold InRing at hx
  unfold ringBefore ringOff
  split_ifs <;> omega

/-- One more step forward. -/
lemma ringNext_at (ha : InRing lo hi a) {k : Int} (hk : k ≤ hi - lo) :
    ringNext lo hi (ringAt lo hi a k) = ringAt lo hi a (k + 1) := by
  unfold InRing at ha
  unfold ringNext ringAt
  split_ifs <;> omega

lemma ringAt_round (ha : InRing lo hi a) : ringAt lo hi a (hi - lo + 1) = a := by
  unfold InRing at ha
  unfold ringAt
  split_ifs <;> omega

/-- Numbers of steps that are less than a round apart lead to different slots. -/
lemma ringAt_inj {k j : Int} (hkj : k - j ≤ hi - lo) (hjk : j - k ≤ hi - lo)
    (h : ringAt lo hi a k = ringAt lo hi a j) : k = j := by
  unfold ringAt at h
  split_ifs at h <;> omega

lemma ringAt_off (hx : InRing lo hi x) : ringAt lo hi a (ringOff lo hi a x) = x := by
  unfold InRing at hx
  unfold ringAt ringOff
  split_ifs <;> omega

end Steps

/-! ### Scanning -/

/-- The first slot after `cur` that meets `p`, on a walk of `n` steps. -/
def ringScan (lo hi : Int) (p : Int → Bool) : ℕ → Int → Option Int
  | 0, _ => none
  | n + 1, cur =>
    if p (ringNext lo hi cur) then some (ringNext lo hi cur)
    else ringScan lo hi p n (ringNext lo hi cur)

/-- The slots a scan looks at. -/
def ringVisited (lo hi : Int) (p : Int → Bool) : ℕ → Int → List Int
  | 0, _ => []
  | n + 1, cur =>
    ringNext lo hi cur ::
      if p (ringNext lo hi cur) then [] else ringVisited lo hi p n (ringNext lo hi cur)

section Scan

variable {lo hi : Int} {p : Int → Bool}

/-- A scan looks at slots of the ring only. -/
lemma inRing_of_mem_visited (hle : lo ≤ hi) {n : ℕ} {cur x : Int} (hcur : lo - 1 ≤ cur)
    (hx : x ∈ ringVisited lo hi p n cur) : InRing lo hi x := by
  induction n generalizing cur with
  | zero => simp [ringVisited] at hx
  | succ n ih =>
      have hnext := inRing_next hle hcur
      rw [ringVisited, List.mem_cons] at hx
      rcases hx with rfl | hx
      · exact hnext
      · split at hx
        · simp at hx
        · exact ih (by have := hnext.1; omega) hx

/-- What a scan finds meets the test and lies on the ring. -/
lemma ringScan_some (hle : lo ≤ hi) {n : ℕ} {cur x : Int} (hcur : lo - 1 ≤ cur)
    (hx : ringScan lo hi p n cur = some x) : p x = true ∧ InRing lo hi x := by
  induction n generalizing cur with
  | zero => simp [ringScan] at hx
  | succ n ih =>
      have hnext := inRing_next hle hcur
      rw [ringScan] at hx
      split at hx
      · next hp =>
        obtain rfl : ringNext lo hi cur = x := by simpa using hx
        exact ⟨hp, hnext⟩
      · exact ih (by have := hnext.1; omega) hx

/-- **What a scan finds**: the walk starts at `ringNext lo hi cur`, and the slot found
is the one of least offset from there that meets the test. -/
lemma ringScan_eq_some {n : ℕ} {cur x : Int} (hcur : lo - 1 ≤ cur)
    (hn : (n : Int) ≤ hi - lo + 1) (hx : ringScan lo hi p n cur = some x) :
    ringOff lo hi (ringNext lo hi cur) x < n ∧
      ∀ y, InRing lo hi y →
        ringOff lo hi (ringNext lo hi cur) y < ringOff lo hi (ringNext lo hi cur) x →
        p y = false := by
  induction n generalizing cur with
  | zero => simp [ringScan] at hx
  | succ n ih =>
      have hle : lo ≤ hi := by omega
      have hb := inRing_next hle hcur
      have hxr := (ringScan_some hle hcur hx).2
      rw [ringScan] at hx
      split at hx
      · obtain rfl : ringNext lo hi cur = x := by simpa using hx
        refine ⟨by rw [ringOff_self]; omega, fun y hy hlt => ?_⟩
        have := (ringOff_mem hb hy).1
        rw [ringOff_self] at hlt
        omega
      · next hp =>
        obtain ⟨hlt, hmin⟩ := ih (by have := hb.1; omega) (by omega) hx
        -- the slot found is not the first one looked at, since the walk is short
        have hne : x ≠ ringNext lo hi cur := by
          rintro rfl
          rw [ringOff_base_next_self hb] at hlt
          omega
        rw [ringOff_base_next hb hxr hne] at hlt hmin
        refine ⟨by push_cast; omega, fun y hy hlty => ?_⟩
        by_cases hyb : y = ringNext lo hi cur
        · rw [hyb]
          simpa using hp
        · refine hmin y hy ?_
          rw [ringOff_base_next hb hy hyb]
          omega

end Scan

/-! ### Marks along the ring -/

/-- From `base` on, the slots in use carry increasing marks. -/
def RingSorted (lo hi base : Int) (used : Int → Prop) (mark : Int → ℕ) : Prop :=
  ∀ x y, InRing lo hi x → InRing lo hi y → used x → used y →
    ringOff lo hi base x < ringOff lo hi base y → mark x < mark y

section Sorted

variable {lo hi a base : Int} {used used' : Int → Prop} {mark mark' : Int → ℕ}

/-- Slots may go out of use. -/
lemma RingSorted.mono (h : RingSorted lo hi base used mark)
    (hused : ∀ x, InRing lo hi x → used' x → used x)
    (hmark : ∀ x, InRing lo hi x → used' x → mark' x = mark x) :
    RingSorted lo hi base used' mark' := by
  intro x y hx hy hux huy hlt
  rw [hmark x hx hux, hmark y hy huy]
  exact h x y hx hy (hused x hx hux) (hused y hy huy) hlt

/-- The base moves on over a slot that is not in use. -/
lemma RingSorted.rotate (h : RingSorted lo hi a used mark) (ha : InRing lo hi a)
    (hfree : ¬ used a) : RingSorted lo hi (ringNext lo hi a) used mark := by
  intro x y hx hy hux huy hlt
  have hxa : x ≠ a := by
    rintro rfl
    exact hfree hux
  have hya : y ≠ a := by
    rintro rfl
    exact hfree huy
  rw [ringOff_base_next ha hx hxa, ringOff_base_next ha hy hya] at hlt
  exact h x y hx hy hux huy (by omega)

/-- The slot before the base comes into use with the greatest mark, or keeps its own. -/
lemma RingSorted.append (h : RingSorted lo hi (ringNext lo hi a) used mark) (ha : InRing lo hi a)
    (hused : ∀ x, InRing lo hi x → used' x → x ≠ a → used x)
    (hmark : ∀ x, InRing lo hi x → used' x → x ≠ a → mark' x = mark x)
    (hlast : used' a → used a ∧ mark' a = mark a ∨
      ∀ x, InRing lo hi x → used x → x ≠ a → mark x < mark' a) :
    RingSorted lo hi (ringNext lo hi a) used' mark' := by
  intro x y hx hy hux huy hlt
  have hle : lo ≤ hi := by have := ha.1; have := ha.2; omega
  have hb := inRing_next hle (by have := ha.1; omega : lo - 1 ≤ a)
  have hxa : x ≠ a := by
    rintro rfl
    rw [ringOff_base_next_self ha] at hlt
    have := (ringOff_mem hb hy).2
    omega
  rw [hmark x hx hux hxa]
  by_cases hya : y = a
  · rw [hya] at huy hlt ⊢
    rcases hlast huy with ⟨hua, hma⟩ | hgreatest
    · rw [hma]
      exact h x a hx ha (hused x hx hux hxa) hua hlt
    · exact hgreatest x hx (hused x hx hux hxa) hxa
  · rw [hmark y hy huy hya]
    exact h x y hx hy (hused x hx hux hxa) (hused y hy huy hya) hlt

/-- **A scan finds the slot with the least mark**, on a walk of the whole ring. -/
lemma RingSorted.scan {p : Int → Bool} (h : RingSorted lo hi (ringNext lo hi a) used mark)
    (ha : InRing lo hi a) (hp : ∀ x, p x = true ↔ used x) {f : Int}
    (hf : ringScan lo hi p (hi - lo + 1).toNat a = some f) :
    used f ∧ InRing lo hi f ∧ ∀ y, InRing lo hi y → used y → y = f ∨ mark f < mark y := by
  have hle : lo ≤ hi := by have := ha.1; have := ha.2; omega
  have hcur : lo - 1 ≤ a := by have := ha.1; omega
  obtain ⟨hpf, hfr⟩ := ringScan_some hle hcur hf
  have hmin := (ringScan_eq_some hcur (by omega) hf).2
  refine ⟨(hp f).mp hpf, hfr, fun y hy huy => ?_⟩
  have hnot : ¬ ringOff lo hi (ringNext lo hi a) y < ringOff lo hi (ringNext lo hi a) f := by
    intro hlt
    have hno := hmin y hy hlt
    rw [(hp y).mpr huy] at hno
    exact absurd hno (by decide)
  by_cases heq : y = f
  · exact Or.inl heq
  · have hne : ringOff lo hi (ringNext lo hi a) y ≠ ringOff lo hi (ringNext lo hi a) f :=
      fun ho => heq (ringOff_inj hy hfr ho)
    exact Or.inr (h f y hfr hy ((hp f).mp hpf) huy (by omega))

end Sorted

/-! ### A run of slots -/

/-- The slots in use are the `m` slots from `a` on. -/
structure RingRun (lo hi a : Int) (m : ℕ) (used : Int → Prop) : Prop where
  bound : (m : Int) ≤ hi - lo + 1
  used : ∀ x, InRing lo hi x → (used x ↔ ringOff lo hi a x < m)

section RunOfSlots

variable {lo hi a f : Int} {m : ℕ} {used used' : Int → Prop}

/-- A run with nothing in it. -/
lemma RingRun.empty (ha : InRing lo hi a) (hused : ∀ x, InRing lo hi x → ¬ used x) :
    RingRun lo hi a 0 used := by
  refine ⟨?_, fun x hx => ?_⟩
  · have := ha.1
    have := ha.2
    simp
    omega
  · have := (ringOff_mem ha hx).1
    simp [hused x hx]
    omega

lemma RingRun.congr (h : RingRun lo hi a m used)
    (hused : ∀ x, InRing lo hi x → (used' x ↔ used x)) : RingRun lo hi a m used' :=
  ⟨h.bound, fun x hx => (hused x hx).trans (h.used x hx)⟩

/-- The slot at the end of the run comes into use. -/
lemma RingRun.push (h : RingRun lo hi a m used) (ha : InRing lo hi a) (hf : InRing lo hi f)
    (hoff : ringOff lo hi a f = m) (hnew : used' f)
    (hused : ∀ x, InRing lo hi x → x ≠ f → (used' x ↔ used x)) :
    RingRun lo hi a (m + 1) used' := by
  refine ⟨?_, fun x hx => ?_⟩
  · have := (ringOff_mem ha hf).2
    push_cast
    omega
  · by_cases hxf : x = f
    · subst hxf
      simp [hnew, hoff]
    · have hne : ringOff lo hi a x ≠ m := fun ho => hxf (ringOff_inj hx hf (ho.trans hoff.symm))
      rw [hused x hx hxf, h.used x hx]
      push_cast
      omega

/-- The slot at the front of the run goes out of use. -/
lemma RingRun.pop (h : RingRun lo hi a (m + 1) used) (ha : InRing lo hi a) (hnew : ¬ used' a)
    (hused : ∀ x, InRing lo hi x → x ≠ a → (used' x ↔ used x)) :
    RingRun lo hi (ringNext lo hi a) m used' := by
  have hbound := h.bound
  push_cast at hbound
  refine ⟨by omega, fun x hx => ?_⟩
  by_cases hxa : x = a
  · subst hxa
    rw [ringOff_base_next_self hx]
    simp [hnew]
    omega
  · rw [hused x hx hxa, h.used x hx, ringOff_base_next ha hx hxa]
    push_cast
    omega

lemma RingRun.front (h : RingRun lo hi a m used) (ha : InRing lo hi a) : used a ↔ 0 < m := by
  rw [h.used a ha, ringOff_self]
  omega

/-- **A scan for a free slot finds the end of the run**, where it does not come to a slot
that is neither in use nor free. -/
lemma RingRun.scan {p : Int → Bool} {n : ℕ} {cur : Int}
    (h : RingRun lo hi (ringNext lo hi cur) m used) (hcur : lo - 1 ≤ cur)
    (hn : (n : Int) ≤ hi - lo + 1)
    (hp : ∀ x, InRing lo hi x → ringOff lo hi (ringNext lo hi cur) x < n →
      (p x = true ↔ ¬ used x))
    (hf : ringScan lo hi p n cur = some f) :
    InRing lo hi f ∧ ¬ used f ∧ ringOff lo hi (ringNext lo hi cur) f = m ∧ m < n := by
  have hpos : 0 < n := by
    cases n with
    | zero => simp [ringScan] at hf
    | succ n => omega
  have hle : lo ≤ hi := by omega
  have hbase := inRing_next hle hcur
  obtain ⟨hpf, hfr⟩ := ringScan_some hle hcur hf
  obtain ⟨hlt, hmin⟩ := ringScan_eq_some hcur hn hf
  have hfree := (hp f hfr hlt).mp hpf
  have hge : (m : Int) ≤ ringOff lo hi (ringNext lo hi cur) f := by
    have hno := (h.used f hfr).not.mp hfree
    omega
  have heq : ringOff lo hi (ringNext lo hi cur) f = m := by
    by_contra hne
    -- otherwise the scan has passed the slot at the end of the run, which is free
    have hat : InRing lo hi (ringAt lo hi (ringNext lo hi cur) m) :=
      inRing_at hbase (by omega) (by omega)
    have hoff : ringOff lo hi (ringNext lo hi cur) (ringAt lo hi (ringNext lo hi cur) m) = m :=
      ringOff_at (by omega) (by omega)
    have hno := hmin _ hat (by omega)
    have hyes := (hp _ hat (by omega)).mpr (by rw [h.used _ hat]; omega)
    rw [hno] at hyes
    exact absurd hyes (by decide)
  exact ⟨hfr, hfree, heq, by omega⟩

end RunOfSlots

end LibAjaNtv2
