import LibAjaNtv2.AutoCirc.Ring

/-!
`AutoCircInit` over a gang: when it succeeds, and what it leaves behind.

* `gangSpec`: the members of a gang;
* `InitParamsOk`, `GangFree`: the two tests a request has to pass;
* `autoCircInit_success_iff`: a request succeeds exactly when it passes both;
* `autoCircInit_member`: what a success makes of every member;
* `initMember_keeps`, `initLoop_keeps`: every other channel is left alone;
* `autoCircInit_atomic_iff`: **when a failed request changes nothing**.
-/

namespace LibAjaNtv2

open NTV2AutoCirculateState

/-- Member `k` of the gang that starts at `channelSpec`. -/
def gangSpec (channelSpec : NTV2Crosspoint) (k : ℕ) : NTV2Crosspoint :=
  getNTV2CrosspointForIndex (getIndexForNTV2Crosspoint channelSpec + k)

lemma gangSpec_zero {spec : NTV2Crosspoint} (h : illegalChannelSpec spec = false) :
    gangSpec spec 0 = spec :=
  crosspointForIndex_index h

/-! ### One member -/

section Member

variable {args : InitArgs} {s : NTV2AutoCirc} {k : ℕ} {spec spec' : NTV2Crosspoint}

lemma initMember_success :
    (initMember args k spec s).1 = .success ↔ (s.autoCirculate spec).state = disabled := by
  unfold initMember
  split <;> simp_all

/-- A free member is initialised. -/
lemma initMember_same (h : (s.autoCirculate spec).state = disabled) :
    (initMember args k spec s).2.autoCirculate spec = initAuto args s k spec := by
  simp [initMember, h, NTV2AutoCirc.setAuto]

/-- The other channels are left alone. -/
lemma initMember_of_ne (h : spec' ≠ spec) :
    (initMember args k spec s).2.autoCirculate spec' = s.autoCirculate spec' := by
  unfold initMember
  split
  · rfl
  · exact setAuto_of_ne _ _ _ h

/-- A channel in use is left alone. -/
lemma initMember_keeps (h : (s.autoCirculate spec').state ≠ disabled) :
    (initMember args k spec s).2.autoCirculate spec' = s.autoCirculate spec' := by
  by_cases hs : spec' = spec
  · subst hs
    simp [initMember, h]
  · exact initMember_of_ne hs

/-- What a member becomes depends on the device and the registers only. -/
lemma initAuto_initMember (j : ℕ) :
    initAuto args (initMember args k spec s).2 j spec' = initAuto args s j spec' := by
  unfold initMember
  split <;> rfl

end Member

/-! ### The loop -/

section Loop

variable {args : InitArgs} {c k n : ℕ} {s : NTV2AutoCirc}

/-- The loop leaves a channel in use alone, however it ends. -/
lemma initLoop_keeps {spec : NTV2Crosspoint} (h : (s.autoCirculate spec).state ≠ disabled) :
    (gangLoop (initMember args) c k n s).2.autoCirculate spec = s.autoCirculate spec := by
  refine gangLoop_invariant (I := fun t : NTV2AutoCirc =>
    t.autoCirculate spec = s.autoCirculate spec)
    (fun j t _ _ ht => ?_) rfl
  rw [initMember_keeps (by rw [ht]; exact h), ht]

/-- The loop succeeds exactly when every member is free and none comes twice. -/
lemma initLoop_success_iff :
    (gangLoop (initMember args) c k n s).1 = .success ↔
      ∀ j, k ≤ j → j < k + n →
        (s.autoCirculate (getNTV2CrosspointForIndex (c + j))).state = disabled ∧
        ∀ i, k ≤ i → i < j →
          getNTV2CrosspointForIndex (c + i) ≠ getNTV2CrosspointForIndex (c + j) := by
  induction n generalizing k s with
  | zero =>
      refine ⟨fun _ j hj hjn => by omega, fun _ => rfl⟩
  | succ n ih =>
      rw [gangLoop]
      split
      · next hk =>
        rw [initMember_success] at hk
        rw [ih]
        constructor
        · intro h j hj hjn
          rcases Nat.eq_or_lt_of_le hj with rfl | hlt
          · exact ⟨hk, fun i hi hij => by omega⟩
          · obtain ⟨hfree, hdist⟩ := h j (by omega) (by omega)
            have hne : getNTV2CrosspointForIndex (c + j) ≠ getNTV2CrosspointForIndex (c + k) := by
              intro he
              rw [he, initMember_same hk] at hfree
              simp [initAuto] at hfree
            refine ⟨by rwa [initMember_of_ne hne] at hfree, fun i hi hij => ?_⟩
            rcases Nat.eq_or_lt_of_le hi with rfl | hik
            · exact hne.symm
            · exact hdist i hik hij
        · intro h j hj hjn
          obtain ⟨hfree, hdist⟩ := h j (by omega) (by omega)
          have hne := (hdist k le_rfl (by omega)).symm
          exact ⟨by rwa [initMember_of_ne hne], fun i hi hij => hdist i (by omega) hij⟩
      · next hk =>
        refine ⟨fun h => absurd h hk, fun h => ?_⟩
        exact absurd (initMember_success.mpr (h k le_rfl (by omega)).1) hk

/-- A loop that succeeds initialises every member. -/
lemma initLoop_member (h : (gangLoop (initMember args) c k n s).1 = .success) {j : ℕ}
    (hj : k ≤ j) (hjn : j < k + n) :
    (gangLoop (initMember args) c k n s).2.autoCirculate (getNTV2CrosspointForIndex (c + j)) =
      initAuto args s j (getNTV2CrosspointForIndex (c + j)) := by
  induction n generalizing k s with
  | zero => omega
  | succ n ih =>
      rw [gangLoop] at h ⊢
      split at h
      · next hk =>
        rw [if_pos hk]
        rcases Nat.eq_or_lt_of_le hj with rfl | hlt
        · -- initialised now, and in use from here on
          have hsame : (initMember args k (getNTV2CrosspointForIndex (c + k)) s).2.autoCirculate _ = _ :=
            initMember_same (initMember_success.mp hk)
          rw [initLoop_keeps (by rw [hsame]; simp [initAuto]), hsame]
        · rw [ih h hlt (by omega), initAuto_initMember]
      · next hk => exact absurd h hk

/-- The loop initialises its first member, however it ends, unless that was in use. -/
lemma initLoop_first (args : InitArgs)
    (hk : (s.autoCirculate (getNTV2CrosspointForIndex (c + k))).state = disabled)
    (hn : 0 < n) :
    (gangLoop (initMember args) c k n s).2.autoCirculate (getNTV2CrosspointForIndex (c + k)) =
      initAuto args s k (getNTV2CrosspointForIndex (c + k)) := by
  obtain ⟨n, rfl⟩ : ∃ m, n = m + 1 := ⟨n - 1, by omega⟩
  have hsame : (initMember args k (getNTV2CrosspointForIndex (c + k)) s).2.autoCirculate _ = _ :=
    initMember_same hk
  rw [gangLoop, if_pos (initMember_success.mpr hk),
    initLoop_keeps (by rw [hsame]; simp [initAuto]), hsame]

end Loop

/-! ### The request -/

/-- The tests `AutoCircInit` makes on its arguments. -/
def InitParamsOk (args : InitArgs) : Prop :=
  illegalChannelSpec args.lChannelSpec = false ∧ args.lStartFrameNum < maxFramebuffers ∧
    args.lEndFrameNum < maxFramebuffers ∧ args.channelRange < maxFramebuffers

instance (args : InitArgs) : Decidable (InitParamsOk args) :=
  inferInstanceAs (Decidable (_ ∧ _ ∧ _ ∧ _))

/-- The members of the gang, each once, are free: the gang order does not come round
within the request. -/
def GangFree (s : NTV2AutoCirc) (args : InitArgs) : Prop :=
  ∀ j < args.lChannelCount.toNat,
    (s.autoCirculate (gangSpec args.lChannelSpec j)).state = disabled ∧
    ∀ i < j, gangSpec args.lChannelSpec i ≠ gangSpec args.lChannelSpec j

instance (s : NTV2AutoCirc) (args : InitArgs) : Decidable (GangFree s args) :=
  inferInstanceAs (Decidable (∀ j < _, _ ∧ ∀ i < j, _))

section Request

variable {args : InitArgs} {s : NTV2AutoCirc}

/-- A request that fails a test changes nothing. -/
lemma autoCircInit_rejected (h : ¬ InitParamsOk args) :
    autoCircInit s args = (.badParameter, s) := by
  unfold InitParamsOk at h
  unfold autoCircInit
  split_ifs with h₁ h₂ h₃ h₄ <;> try rfl
  exact absurd ⟨by simpa using h₁, by omega, by omega, by omega⟩ h

/-- A request that passes the tests goes through the gang. -/
lemma autoCircInit_eq (h : InitParamsOk args) :
    autoCircInit s args = gangLoop (initMember args)
      (getIndexForNTV2Crosspoint args.lChannelSpec) 0 args.lChannelCount.toNat
      (s.setMultiChannel (args.lChannelCount > 1)) := by
  obtain ⟨h₁, h₂, h₃, h₄⟩ := h
  unfold autoCircInit
  rw [if_neg (by simp [h₁]), if_neg (by omega), if_neg (by omega), if_neg (by omega)]

/-- A request succeeds exactly when its arguments pass and its members are free. -/
theorem autoCircInit_success_iff :
    (autoCircInit s args).1 = .success ↔ InitParamsOk args ∧ GangFree s args := by
  by_cases h : InitParamsOk args
  · rw [autoCircInit_eq h, initLoop_success_iff]
    simp only [Nat.zero_le, true_implies, Nat.zero_add, GangFree, h, true_and, gangSpec,
      setMultiChannel_auto]
  · rw [autoCircInit_rejected h]
    simp [h]

/-- A success initialises every member of the gang. -/
theorem autoCircInit_member (h : (autoCircInit s args).1 = .success) {j : ℕ}
    (hj : j < args.lChannelCount.toNat) :
    (autoCircInit s args).2.autoCirculate (gangSpec args.lChannelSpec j) =
      initAuto args s j (gangSpec args.lChannelSpec j) := by
  have hp := (autoCircInit_success_iff.mp h).1
  rw [autoCircInit_eq hp] at h ⊢
  exact initLoop_member h (Nat.zero_le j) (by omega)

/-- The gang order has sixteen places, so no request for more than seventeen succeeds. -/
lemma GangFree.count_le (h : GangFree s args) : args.lChannelCount.toNat ≤ 17 := by
  by_contra hn
  have hlast : ∀ k, 16 ≤ k → gangSpec args.lChannelSpec k = .channel1 := by
    intro k hk
    obtain ⟨m, hm⟩ : ∃ m, getIndexForNTV2Crosspoint args.lChannelSpec + k = m + 16 :=
      ⟨getIndexForNTV2Crosspoint args.lChannelSpec + k - 16, by omega⟩
    rw [gangSpec, hm]
    rfl
  refine (h 17 (by omega)).2 16 (by omega) ?_
  rw [hlast 16 le_rfl, hlast 17 (by omega)]

end Request

/-! ### All or nothing -/

/-- A failed request has left every channel as it was. -/
def InitAtomic (s : NTV2AutoCirc) (args : InitArgs) : Prop :=
  (autoCircInit s args).1 ≠ .success →
    ∀ spec, (autoCircInit s args).2.autoCirculate spec = s.autoCirculate spec

/-- **When a failed request changes nothing**: not when its arguments pass, its first
channel is free, and a later one is not.  The loop then stops at that one, with the
channels before it initialised. -/
theorem autoCircInit_atomic_iff (s : NTV2AutoCirc) (args : InitArgs)
    (hcount : args.lChannelCount > 1) :
    InitAtomic s args ↔
      (InitParamsOk args → (s.autoCirculate args.lChannelSpec).state = disabled →
        GangFree s args) := by
  constructor
  · intro h hp hfree
    by_contra hg
    have hfail : (autoCircInit s args).1 ≠ .success := fun hs =>
      hg (autoCircInit_success_iff.mp hs).2
    have hsame := congrArg InternalAutoCirculate.state (h hfail (gangSpec args.lChannelSpec 0))
    rw [← gangSpec_zero hp.1] at hfree
    -- the first channel was free, and is not any more
    have hfirst := initLoop_first (k := 0) (n := args.lChannelCount.toNat)
      (s := s.setMultiChannel (args.lChannelCount > 1)) args hfree (by omega)
    rw [autoCircInit_eq hp, gangSpec, hfirst] at hsame
    rw [gangSpec] at hfree
    rw [hfree] at hsame
    simp [initAuto] at hsame
  · intro h hfail spec
    by_cases hp : InitParamsOk args
    · have hbusy : (s.autoCirculate args.lChannelSpec).state ≠ disabled := fun hfree =>
        hfail (autoCircInit_success_iff.mpr ⟨hp, h hp hfree⟩)
      obtain ⟨n, hn⟩ : ∃ n, args.lChannelCount.toNat = n + 1 :=
        ⟨args.lChannelCount.toNat - 1, by omega⟩
      rw [← gangSpec_zero hp.1] at hbusy
      rw [autoCircInit_eq hp, hn, gangLoop, if_neg (by rw [initMember_success]; exact hbusy)]
      rw [initMember, if_pos (by exact hbusy)]
      rfl
    · rw [autoCircInit_rejected hp]

/-- A request for channels 1 and 2 with channel 1 in use fails, and changes nothing. -/
theorem autoCircInit_atomic_iff_busy :
    let s := (autoCircInit .idle (.plain .channel1 0 9 1)).2
    (autoCircInit s (.plain .channel1 0 9 2)).1 ≠ .success ∧
      InitAtomic s (.plain .channel1 0 9 2) :=
  ⟨by decide, (autoCircInit_atomic_iff (autoCircInit .idle (.plain .channel1 0 9 1)).2
    (.plain .channel1 0 9 2) (by decide)).mpr fun _ hfree => absurd hfree (by decide)⟩

/-- With channel 2 in use, a request for channels 1 and 2 fails and leaves channel 1
initialised. -/
theorem autoCircInit_not_atomic :
    ¬ InitAtomic (autoCircInit .idle (.plain .channel2 0 9 1)).2 (.plain .channel1 0 9 2) := by
  intro h
  have hstate := congrArg InternalAutoCirculate.state (h (by decide) .channel1)
  revert hstate
  decide

end LibAjaNtv2
