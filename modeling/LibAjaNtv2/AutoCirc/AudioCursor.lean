import LibAjaNtv2.AutoCirc.Single

/-!
The audio of a channel on its ring (`AutoCircDmaAudioSetup`).

* `audioStart`, `audioSum`: where the audio of a frame starts, and where its data ends in 32 bits;
* `audioSetup_cursor`, `audioSetup_expected`, `cursor_eq_iff`: the cursor after a transfer, and
  **when it has advanced by the byte count**;
* `resetsAudio`, `cursor_step`: no other event moves the cursor, but those that reset it;
* `audioEnd`: the end of the data on a ring of the given size;
* `Local.AudioKept`, `Local.AudioFits`: the runs that keep the cursor on it, and the runs whose
  transfers fit;
* `audioCursor_iff`: **they are the same runs**, and captured audio is always on its ring.
-/

namespace LibAjaNtv2

open NTV2AutoCirculateState

/-! ### One transfer -/

section Setup

variable {a : InternalAutoCirculate} {env : TransferEnv} {W : ℕ}

/-- Where the audio of a frame starts, from where the data before it ends: at the beginning of the
ring where a drop is due. -/
def audioStart (pAuto : InternalAutoCirculate) (dataEnd : ℕ) : ℕ :=
  if pAuto.audioDropsRequired > pAuto.audioDropsCompleted then 0 else dataEnd

/-- The start of the audio and its byte count, added in 32 bits. -/
def audioSum (pAuto : InternalAutoCirculate) : ℕ :=
  (audioStart pAuto pAuto.nextAudioOutputAddress + pAuto.audioTransferSize) % 2 ^ 32

/-- The transfer fits the ring: the sum is less than twice around, and 32 bits are enough for it or
make no difference on the ring. -/
def AudioFits (W : ℕ) (pAuto : InternalAutoCirculate) : Prop :=
  audioSum pAuto < 2 * W ∧
    W ∣ (audioStart pAuto pAuto.nextAudioOutputAddress + pAuto.audioTransferSize) - audioSum pAuto

variable (env) in
/-- Where the next audio goes after a transfer of a playout channel. -/
lemma audioSetup_cursor (haudio : a.circulateWithAudio = true) (hplay : a.recording = false) :
    (autoCircDmaAudioSetup env a).2.nextAudioOutputAddress =
      if audioSum a < env.audioWrapAddress then audioSum a
      else audioSum a - env.audioWrapAddress := by
  simp only [autoCircDmaAudioSetup, haudio, hplay, Bool.not_true, Bool.false_eq_true, if_false]
  change (if _ then _ else _) = _
  unfold audioSum audioStart
  generalize (if a.audioDropsRequired > a.audioDropsCompleted then 0
    else a.nextAudioOutputAddress) = start
  have hsum : toUInt32 ((start : Int) + a.audioTransferSize) =
      (start + a.audioTransferSize) % 2 ^ 32 := by
    unfold toUInt32
    omega
  rw [hsum]
  by_cases hlt : (start + a.audioTransferSize) % 2 ^ 32 < env.audioWrapAddress
  · rw [if_pos (by exact_mod_cast hlt), if_pos hlt]
  · rw [if_neg (by exact_mod_cast hlt), if_neg hlt]
    unfold toUInt32
    omega

/-- What the transfer notes as the expected address is where its audio starts. -/
lemma audioSetup_expected (haudio : a.circulateWithAudio = true) (hplay : a.recording = false) :
    ((autoCircDmaAudioSetup env a).2.frameStamp a.transferFrame).audioExpectedAddress =
        audioStart a a.nextAudioOutputAddress ∧
      (autoCircDmaAudioSetup env a).2.audioTransferOffset =
        audioStart a a.nextAudioOutputAddress := by
  simp only [autoCircDmaAudioSetup, haudio, hplay, Bool.not_true, Bool.false_eq_true, if_false,
    Function.update_self]
  exact ⟨rfl, rfl⟩

/-- **The cursor advances by the byte count** modulo the size of the ring exactly where the transfer
fits. -/
lemma cursor_eq_iff (hW : 0 < W) {sum T : ℕ} (hT : T ≤ sum) :
    (if T < W then T else T - W) = sum % W ↔ T < 2 * W ∧ W ∣ sum - T := by
  have hdvd : W ∣ sum - T ↔ T % W = sum % W := (Nat.modEq_iff_dvd' hT).symm
  rw [hdvd]
  have hlt := Nat.mod_lt sum hW
  split_ifs with hTW
  · rw [Nat.mod_eq_of_lt hTW]
    exact ⟨fun h => ⟨by omega, h⟩, And.right⟩
  · have hsub : (T - W) % W = T % W := (Nat.mod_eq_sub_mod (not_lt.mp hTW)).symm
    constructor
    · intro h
      rw [← hsub, h, Nat.mod_mod]
      exact ⟨by omega, rfl⟩
    · rintro ⟨h2W, h⟩
      rw [← h, ← hsub, Nat.mod_eq_of_lt (by omega)]

end Setup

/-! ### Captured audio -/

section Capture

variable {a : InternalAutoCirculate} {env : TransferEnv}

/-- **Captured audio is on its ring**: the size is the way from the start to the stop around the
ring. -/
lemma audioSetup_capture (haudio : a.circulateWithAudio = true) (hrec : a.recording = true)
    {start stop : ℕ} (hstart : (a.frameStamp a.transferFrame).audioInStartAddress = start)
    (hstop : (a.frameStamp a.transferFrame).audioInStopAddress = stop)
    (hW : env.audioWrapAddress < 2 ^ 32)
    (hstartRing : env.audioReadOffset ≤ start ∧ start < env.audioReadOffset + env.audioWrapAddress)
    (hstopRing : env.audioReadOffset ≤ stop ∧ stop < env.audioReadOffset + env.audioWrapAddress) :
    ((autoCircDmaAudioSetup env a).2.audioTransferSize : Int) =
        ((stop : Int) - start) % env.audioWrapAddress ∧
      (autoCircDmaAudioSetup env a).2.audioTransferOffset < env.audioWrapAddress := by
  simp only [autoCircDmaAudioSetup, haudio, hrec, Bool.not_true, Bool.false_eq_true, if_false,
    if_true, hstart, hstop]
  generalize env.audioReadOffset = readOffset at hstartRing hstopRing ⊢
  generalize env.audioWrapAddress = W at hW hstartRing hstopRing ⊢
  refine ⟨?_, ?_⟩
  · by_cases hwrap : (stop : Int) < start
    · rw [if_pos hwrap, ← Int.add_emod_right, Int.emod_eq_of_lt (by omega) (by omega)]
      unfold toUInt32
      omega
    · rw [if_neg hwrap, Int.emod_eq_of_lt (by omega) (by omega)]
      unfold toUInt32
      omega
  · unfold toUInt32
    omega

end Capture

/-! ### The other events -/

section Step

variable {a : InternalAutoCirculate} {l : Local}

/-- The events that put the cursor back to the beginning of the ring. -/
def resetsAudio (l : Local) : ChannelEvent → Bool
  | .flush _ =>
      (l.pAuto.state == init || l.pAuto.state == running || l.pAuto.state == paused) &&
        !l.pAuto.recording && l.pAuto.circulateWithAudio
  | .preroll _ =>
      match availFrame l.pAuto with
      | some f =>
          decide l.pAuto.Live && !l.pAuto.recording &&
            prerollFrame (l.pAuto.setNextTransfer f) == toUInt32 l.pAuto.activeFrame
      | none => false
  | _ => false

lemma cursor_setState (a : InternalAutoCirculate) (st : NTV2AutoCirculateState) :
    (a.setState st).nextAudioOutputAddress = a.nextAudioOutputAddress := rfl

/-- A flush resets the cursor of a playout channel with audio. -/
lemma cursor_flushAuto (bClearDF : Bool) (reg : ℕ) (a : InternalAutoCirculate) :
    (flushAuto bClearDF reg a).nextAudioOutputAddress =
      if !a.recording && a.circulateWithAudio then 0 else a.nextAudioOutputAddress := by
  rw [flushAuto, cursor_setState, flushFrom]
  cases hrec : a.recording with
  | true =>
      have hkeep := flushRecord_invariant (P := fun b => b.nextAudioOutputAddress =
        a.nextAudioOutputAddress) (fun _ _ _ _ h => h) (flushStartFrame a reg) maxFramebuffers
        (toUInt32 (kautoPrevFrame (toInt32 (flushStartFrame a reg)) (flushPaused bClearDF a)))
        (a := flushPaused bClearDF a) rfl
      have hpaused : (flushPaused bClearDF a).recording = true := hrec
      rw [if_pos hpaused, flushRecordFrom, hkeep]
      rfl
  | false =>
      have hkeep : (flushPlayFrom a.state (flushStartFrame a reg)
          (flushPaused bClearDF a)).nextAudioOutputAddress = a.nextAudioOutputAddress ∧
          (flushPlayFrom a.state (flushStartFrame a reg)
            (flushPaused bClearDF a)).circulateWithAudio = a.circulateWithAudio :=
        flushPlayFrom_invariant (P := fun b => b.nextAudioOutputAddress =
          a.nextAudioOutputAddress ∧ b.circulateWithAudio = a.circulateWithAudio)
          (fun _ _ _ _ h => h) _ _ ⟨rfl, rfl⟩
      have hpaused : ¬ (flushPaused bClearDF a).recording = true := by
        rw [Bool.not_eq_true]
        exact hrec
      rw [if_neg hpaused]
      change (if _ then _ else _) = _
      rw [hkeep.1, hkeep.2]
      rfl

/-- No interrupt moves the cursor. -/
lemma cursor_tickAuto (env : TickEnv) (partner : Partner) (reg : ℕ) (a : InternalAutoCirculate) :
    (tickAuto env partner reg a).pAuto.nextAudioOutputAddress = a.nextAudioOutputAddress := by
  have hentry : (tickEntry env reg a).nextAudioOutputAddress = a.nextAudioOutputAddress := by
    unfold tickEntry
    split <;> rfl
  have hstarting : ∀ fieldMode b,
      (tickStarting env partner fieldMode b).pAuto.nextAudioOutputAddress =
        b.nextAudioOutputAddress := by
    intro fieldMode b
    unfold tickStarting tickStartingRecord tickStartingPlay
    dsimp only
    split_ifs <;> rfl
  have hrunning : ∀ b, (runningPlayAuto b).nextAudioOutputAddress = b.nextAudioOutputAddress := by
    intro b
    unfold runningPlayAuto
    dsimp only
    split <;> rfl
  rw [← hentry]
  unfold tickAuto
  dsimp only
  split
  · rfl
  · exact hstarting _ _
  · exact hstarting _ _
  · split
    · obtain ⟨stamps, hstamps⟩ := recorded_stamps env partner (env.fieldMode a) env.syncField0
        a.activeFrame (tickEntry env reg a)
      unfold tickRunningRecord
      dsimp only
      rw [hstamps]
      split_ifs <;> rfl
    · unfold tickRunningPlay
      dsimp only
      split_ifs <;> exact hrunning _
  · rfl
  · rfl
  · rfl

/-- **No other event moves the cursor**, but those that reset it. -/
lemma cursor_step (partner : Partner) (l : Local) {e : ChannelEvent}
    (he : ∀ env, e ≠ .audioSetup env) : (l.step partner e).pAuto.nextAudioOutputAddress =
      if resetsAudio l e then 0 else l.pAuto.nextAudioOutputAddress := by
  cases e with
  | start t =>
      change (l.start t).pAuto.nextAudioOutputAddress = l.pAuto.nextAudioOutputAddress
      unfold Local.start
      split <;> rfl
  | stop =>
      change (stopAuto l.pAuto).nextAudioOutputAddress = l.pAuto.nextAudioOutputAddress
      unfold stopAuto
      split <;> rfl
  | pause bPlay bClearDF =>
      change (pauseAuto bPlay bClearDF l.pAuto).nextAudioOutputAddress = l.pAuto.nextAudioOutputAddress
      unfold pauseAuto
      split_ifs <;> rfl
  | flush bClearDF =>
      change (l.flush bClearDF).pAuto.nextAudioOutputAddress = _
      unfold Local.flush resetsAudio
      split
      · next hstate =>
        rw [cursor_flushAuto]
        rcases hstate with h | h | h <;> simp [h]
      · next hstate =>
        rw [not_or, not_or] at hstate
        simp [hstate]
  | preroll n =>
      change (l.preroll n).pAuto.nextAudioOutputAddress = _
      unfold Local.preroll resetsAudio
      cases havail : availFrame l.pAuto with
      | none => split <;> rfl
      | some f =>
          dsimp only
          split
          · next hlive =>
            simp only [hlive.1, hlive.2, decide_true, Bool.not_false, Bool.true_and, beq_iff_eq]
            unfold prerollAuto
            dsimp only
            rw [setNextTransfer_activeFrame]
            split <;> rfl
          · next hlive =>
            refine (if_neg fun h => hlive ?_).symm
            simp only [Bool.and_eq_true, decide_eq_true_eq, Bool.not_eq_true'] at h
            exact h.1
  | tick env =>
      change (l.tick env partner).pAuto.nextAudioOutputAddress = l.pAuto.nextAudioOutputAddress
      unfold Local.tick
      split
      · rfl
      · exact cursor_tickAuto env partner l.reg l.pAuto
  | beginTransfer p env =>
      change (autoBegin p env l.pAuto).nextAudioOutputAddress = l.pAuto.nextAudioOutputAddress
      unfold autoBegin
      split
      · have hfind : (autoCircFindNextAvailFrame l.pAuto).2.nextAudioOutputAddress =
            l.pAuto.nextAudioOutputAddress := by
          unfold autoCircFindNextAvailFrame
          split <;> rfl
        unfold beginAutoCircTransfer
        dsimp only
        split_ifs <;> exact hfind
      · rfl
  | audioSetup env => exact absurd rfl (he env)
  | completeTransfer u p =>
      change (l.complete u p).pAuto.nextAudioOutputAddress = l.pAuto.nextAudioOutputAddress
      unfold Local.complete
      split
      · change (completeAuto _ u p l.pAuto).nextAudioOutputAddress = _
        unfold completeAuto
        dsimp only
        split_ifs <;> rfl
      · rfl
  | abandon => rfl
  | elsewhere s => rfl

end Step

/-! ### Runs -/

section Run

variable {W dataEnd : ℕ} {l : Local} {e : ChannelEvent}

/-- The end of the data on a ring of the given size, after an event. -/
def audioEnd (W : ℕ) (l : Local) (e : ChannelEvent) (dataEnd : ℕ) : ℕ :=
  match e with
  | .audioSetup _ => (audioStart l.pAuto dataEnd + l.pAuto.audioTransferSize) % W
  | e => if resetsAudio l e then 0 else dataEnd

/-- In every step of a run the cursor is where the data ends, on the ring, and a transfer expects
its audio where the data before it ends. -/
def Local.AudioKept (W : ℕ) : Local → ℕ → List (Partner × ChannelEvent) → Prop
  | _, _, [] => True
  | l, dataEnd, (partner, e) :: run =>
      ((l.step partner e).pAuto.nextAudioOutputAddress = audioEnd W l e dataEnd ∧
        audioEnd W l e dataEnd < W ∧
        ∀ env, e = .audioSetup env →
          ((l.step partner e).pAuto.frameStamp l.pAuto.transferFrame).audioExpectedAddress =
            audioStart l.pAuto dataEnd) ∧
      (l.step partner e).AudioKept W (audioEnd W l e dataEnd) run

/-- Every transfer of a run fits. -/
def Local.AudioRunFits (W : ℕ) : Local → List (Partner × ChannelEvent) → Prop
  | _, [] => True
  | l, (partner, e) :: run =>
      (∀ env, e = .audioSetup env → AudioFits W l.pAuto) ∧
        (l.step partner e).AudioRunFits W run

/-- Other events than transfers keep the end of the data, or reset it. -/
lemma audioEnd_of_ne (he : ∀ env, e ≠ .audioSetup env) :
    audioEnd W l e dataEnd = if resetsAudio l e then 0 else dataEnd := by
  cases e with
  | audioSetup env => exact absurd rfl (he env)
  | _ => rfl

/-- The data ends on the ring. -/
lemma audioEnd_lt (hW : 0 < W) (hend : dataEnd < W) : audioEnd W l e dataEnd < W := by
  by_cases he : ∃ env, e = .audioSetup env
  · obtain ⟨env, rfl⟩ := he
    exact Nat.mod_lt _ hW
  · rw [audioEnd_of_ne fun env h => he ⟨env, h⟩]
    split
    · exact hW
    · exact hend

/-- One step keeps the cursor exactly where its transfer, if it is one, fits. -/
lemma cursor_step_iff (hW : 0 < W) (partner : Partner) (hplay : l.pAuto.recording = false)
    (haudio : l.pAuto.circulateWithAudio = true)
    (hwrap : ∀ env, e = .audioSetup env → env.audioWrapAddress = W) :
    (l.step partner e).pAuto.nextAudioOutputAddress =
        audioEnd W l e l.pAuto.nextAudioOutputAddress ↔
      ∀ env, e = .audioSetup env → AudioFits W l.pAuto := by
  by_cases he : ∃ env, e = .audioSetup env
  · obtain ⟨env, rfl⟩ := he
    have hcursor := audioSetup_cursor env haudio hplay
    rw [hwrap env rfl] at hcursor
    change (autoCircDmaAudioSetup env l.pAuto).2.nextAudioOutputAddress = _ % W ↔ _
    have hsum : audioSum l.pAuto ≤
        audioStart l.pAuto l.pAuto.nextAudioOutputAddress + l.pAuto.audioTransferSize :=
      Nat.mod_le _ _
    rw [hcursor, cursor_eq_iff hW hsum]
    exact ⟨fun h _ _ => h, fun h => h env rfl⟩
  · rw [cursor_step partner l fun env h => he ⟨env, h⟩, audioEnd_of_ne fun env h => he ⟨env, h⟩]
    exact iff_of_true rfl fun env h => absurd ⟨env, h⟩ he

/-- A transfer expects its audio at the start of it. -/
lemma expected_step (partner : Partner) (hplay : l.pAuto.recording = false)
    (haudio : l.pAuto.circulateWithAudio = true) (env : TransferEnv) (he : e = .audioSetup env) :
    ((l.step partner e).pAuto.frameStamp l.pAuto.transferFrame).audioExpectedAddress =
      audioStart l.pAuto l.pAuto.nextAudioOutputAddress := by
  subst he
  exact (audioSetup_expected haudio hplay).1

/-- A run keeps the cursor where the data ends exactly if every transfer of it fits. -/
lemma Local.audioKept_iff (hW : 0 < W) {run : List (Partner × ChannelEvent)}
    (hplay : l.pAuto.recording = false) (haudio : l.pAuto.circulateWithAudio = true)
    (hcursor : l.pAuto.nextAudioOutputAddress < W)
    (hwrap : ∀ partner env, (partner, .audioSetup env) ∈ run → env.audioWrapAddress = W) :
    l.AudioKept W l.pAuto.nextAudioOutputAddress run ↔ l.AudioRunFits W run := by
  induction run generalizing l with
  | nil => exact Iff.rfl
  | cons pe run ih =>
      obtain ⟨partner, e⟩ := pe
      have hring := Local.sameRing_step partner l e
      have hstep := cursor_step_iff hW partner hplay haudio
        fun env he => hwrap partner env (he ▸ List.mem_cons_self)
      have hrest := ih (l := l.step partner e) (hring.recording.trans hplay)
        (hring.withAudio.trans haudio)
      rw [Local.AudioKept, Local.AudioRunFits, ← hstep]
      constructor
      · rintro ⟨⟨hnext, hlt, -⟩, hkept⟩
        rw [← hnext] at hlt hkept
        exact ⟨hnext, (hrest hlt fun p env h => hwrap p env (List.mem_cons_of_mem _ h)).mp hkept⟩
      · rintro ⟨hnext, hfits⟩
        have hlt : audioEnd W l e l.pAuto.nextAudioOutputAddress < W := audioEnd_lt hW hcursor
        refine ⟨⟨hnext, hlt, expected_step partner hplay haudio⟩, ?_⟩
        rw [← hnext] at hlt ⊢
        exact (hrest hlt fun p env h => hwrap p env (List.mem_cons_of_mem _ h)).mpr hfits

/-- **The audio ring cursor**: a run of a playout channel keeps the cursor on the ring, advances it
by the byte counts and expects every frame where the data before it ends exactly if the 32-bit sum
of start and count is, in every transfer, below twice the ring and right modulo its size; the audio
of a captured frame is always on the ring. -/
theorem audioCursor_iff {W : ℕ} (hW : 0 < W) (hW32 : W < 2 ^ 32) :
    (∀ (l : Local) (run : List (Partner × ChannelEvent)), l.pAuto.recording = false →
      l.pAuto.circulateWithAudio = true → l.pAuto.nextAudioOutputAddress < W →
      (∀ partner env, (partner, .audioSetup env) ∈ run → env.audioWrapAddress = W) →
      (l.AudioKept W l.pAuto.nextAudioOutputAddress run ↔ l.AudioRunFits W run)) ∧
    ∀ (a : InternalAutoCirculate) (env : TransferEnv) (start stop : ℕ),
      a.circulateWithAudio = true → a.recording = true → env.audioWrapAddress = W →
      (a.frameStamp a.transferFrame).audioInStartAddress = start →
      (a.frameStamp a.transferFrame).audioInStopAddress = stop →
      env.audioReadOffset ≤ start ∧ start < env.audioReadOffset + W →
      env.audioReadOffset ≤ stop ∧ stop < env.audioReadOffset + W →
      ((autoCircDmaAudioSetup env a).2.audioTransferSize : Int) = ((stop : Int) - start) % W ∧
        (autoCircDmaAudioSetup env a).2.audioTransferOffset < W := by
  refine ⟨fun l run hplay haudio hcursor hwrap =>
    Local.audioKept_iff hW hplay haudio hcursor hwrap, ?_⟩
  rintro a env start stop haudio hrec rfl hstart hstop hstartRing hstopRing
  exact audioSetup_capture haudio hrec hstart hstop hW32 hstartRing hstopRing

end Run

/-! ### A transfer of twice the ring -/

/-- A playout channel with audio that has begun a transfer of the given number of bytes. -/
def playoutWithAudio (bytes : ℕ) : Local where
  pAuto :=
    { InternalAutoCirculate.zero with
      circulateWithAudio := true
      audioTransferSize := bytes }
  reg := 0
  inflight := none

/-- The device with a big audio buffer. -/
def bigAudioBuffer : TransferEnv :=
  { TransferEnv.plain with audioWrapAddress := 0x400000 }

/-- No other channel is asked. -/
def noPartner : Partner := ⟨false, fun _ => false, fun _ => false, false⟩

/-- Two transfers of 6400 bytes each keep the cursor. -/
theorem audioCursor_iff_two_frames :
    (playoutWithAudio 6400).AudioKept 0x400000 0
      [(noPartner, .audioSetup bigAudioBuffer), (noPartner, .audioSetup bigAudioBuffer)] :=
  ((audioCursor_iff (W := 0x400000) (by decide) (by decide)).1 (playoutWithAudio 6400) _ rfl rfl
    (by decide) (by
      intro partner env h
      simp only [List.mem_cons, Prod.mk.injEq, ChannelEvent.audioSetup.injEq, List.not_mem_nil,
        or_false] at h
      rcases h with ⟨-, rfl⟩ | ⟨-, rfl⟩ <;> rfl)).mpr
    ⟨fun _ _ => ⟨by decide, by decide⟩, fun _ _ => ⟨by decide, by decide⟩, trivial⟩

/-- A transfer of twice the ring puts the cursor behind it. -/
theorem not_audioCursor_8MB :
    ¬ ∀ (W : ℕ) (l : Local) (run : List (Partner × ChannelEvent)), 0 < W → W < 2 ^ 32 →
      l.pAuto.recording = false → l.pAuto.circulateWithAudio = true →
      l.pAuto.nextAudioOutputAddress < W →
      (∀ partner env, (partner, .audioSetup env) ∈ run → env.audioWrapAddress = W) →
      l.AudioKept W l.pAuto.nextAudioOutputAddress run := by
  intro h
  have hkept := h 0x400000 (playoutWithAudio 0x800000)
    [(noPartner, .audioSetup bigAudioBuffer)] (by decide) (by decide) rfl rfl (by decide) (by
      intro partner env hmem
      simp only [List.mem_cons, Prod.mk.injEq, ChannelEvent.audioSetup.injEq, List.not_mem_nil,
        or_false] at hmem
      rw [hmem.2]
      rfl)
  exact absurd hkept.1.1 (by decide)

end LibAjaNtv2
