import LibAjaNtv2.DisplayId.Walkers

/-!
The fields of the vendors' blocks (`ntv2displayid.c`).

* `blockByte`: a byte of a block, inside its announced length;
* `hdmiFields`, `hfFields`: the fields that the bytes of a block say; `hdmiLastRead`: the last byte
  that is read for them;
* `Reads.hdmi_fields`, `Reads.hf_fields`: **the fields are those of the bytes inside the block**,
  where the extension goes as far as the last byte that is read.
-/

namespace LibAjaNtv2

open Ntv2DisplayidVideo

/-! ### What the bytes of a block say -/

/-- The byte of a block at an offset, where its announced length goes so far. -/
def blockByte (ext : ℕ → Byte) (p k : ℕ) : Option Byte :=
  if k ≤ headerLength ext p then some (ext (p + k)) else none

/-- A field is set from a byte, if there is one. -/
def setFrom (set : Byte → Ntv2DisplayidVideo → Ntv2DisplayidVideo) (byte : Option Byte)
    (v : Ntv2DisplayidVideo) : Ntv2DisplayidVideo :=
  match byte with
  | some b => set b v
  | none => v

/-- The offset of the last latency. -/
def latencyEnd (flags : Byte) : ℕ :=
  if flags &&& 0x80 ≠ 0 then (if flags &&& 0x40 ≠ 0 then 12 else 10) else 8

/-- The latencies. -/
def hdmiLatencies (byte : ℕ → Option Byte) (flags : Byte) (v : Ntv2DisplayidVideo) :
    Ntv2DisplayidVideo :=
  if flags &&& 0x80 ≠ 0 then
    let v := setFrom setAudioLatency (byte 10) (setFrom setVideoLatency (byte 9) v)
    if flags &&& 0x40 ≠ 0 then
      setFrom setIntAudioLatency (byte 12) (setFrom setIntVideoLatency (byte 11) v)
    else v.copyLatencies
  else v

/-- The formats: the number of them, and the codes. -/
def hdmiFormats (byte : ℕ → Option Byte) (last : ℕ) (v : Ntv2DisplayidVideo) :
    Ntv2DisplayidVideo :=
  match byte (last + 2) with
  | none => v
  | some n => (List.range' (last + 3) ((n >>> 5) &&& 0x7).toNat).foldl
      (fun v k => setFrom setVic (byte k) v) v

/-- The fields of an HDMI block. -/
def hdmiFields (byte : ℕ → Option Byte) (v : Ntv2DisplayidVideo) : Ntv2DisplayidVideo :=
  let v := setFrom setMaxClockFreq (byte 7) (setFrom setDeepColor (byte 6) v)
  match byte 8 with
  | none => v
  | some flags =>
    let v := hdmiLatencies byte flags (v.setContent flags)
    if flags &&& 0x20 ≠ 0 then hdmiFormats byte (latencyEnd flags) v else v

/-- The offset of the last byte that is read for the formats. -/
def formatsLastRead (byte : ℕ → Option Byte) (last : ℕ) : ℕ :=
  match byte (last + 2) with
  | none => last + 2
  | some n => last + 2 + ((n >>> 5) &&& 0x7).toNat

/-- The offset of the last byte that is read for the fields of an HDMI block. -/
def hdmiLastRead (byte : ℕ → Option Byte) : ℕ :=
  match byte 8 with
  | none => 8
  | some flags =>
      if flags &&& 0x20 ≠ 0 then formatsLastRead byte (latencyEnd flags) else latencyEnd flags

/-- The fields of an HF block. -/
def hfFields (byte : ℕ → Option Byte) (v : Ntv2DisplayidVideo) : Ntv2DisplayidVideo :=
  setFrom setDeepColor420 (byte 7) (setFrom setHfFlags (byte 6) (setFrom setMaxTmdsCsc (byte 5) v))

/-! ### What is read -/

namespace Ntv2Displayid

variable {did : Ntv2Displayid} {base ext : ℕ → Byte} {p k : ℕ} {v : Ntv2DisplayidVideo}

/-- A register of the extension, and what follows. -/
lemma Reads.ends_reg (h : did.Reads base ext) {σ α : Type} {f : Byte → Attempt σ Unit α} {r : ℕ}
    {s s' : σ} {ok : Prop} {a : α} (hf : Attempt.Ends (f (ext r)) s ok a s') :
    Attempt.Ends (did.reg 1 r >>= f) s (r < 128 ∧ ok) a s' := by
  refine Attempt.Ends.bind ?_ hf
  by_cases hr : r < 128
  · exact ⟨fun _ => by rw [h.reg, if_pos hr], fun hno => absurd hr hno⟩
  · exact ⟨fun hlt => absurd hlt hr, fun _ => ⟨(), by rw [h.reg, if_neg hr]⟩⟩

/-- A field is set where the byte is inside the block. -/
lemma setWithin_eq (set : Byte → Ntv2DisplayidVideo → Ntv2DisplayidVideo) :
    setWithin (headerLength ext p) p (p + k) (set (ext (p + k))) =
      Attempt.modify (setFrom set (blockByte ext p k)) := by
  rw [setWithin, Nat.add_sub_cancel_left, blockByte]
  refine congrArg Attempt.modify (funext fun v => ?_)
  split <;> rfl

/-- A field, and what follows. -/
lemma Reads.ends_field (h : did.Reads base ext) {α : Type} {f : VideoRoutine α} {ok : Prop} {a : α}
    {v' : Ntv2DisplayidVideo} (p k : ℕ) (set : Byte → Ntv2DisplayidVideo → Ntv2DisplayidVideo)
    (hf : Attempt.Ends f (setFrom set (blockByte ext p k) v) ok a v') :
    Attempt.Ends (did.reg 1 (p + k) >>= fun b =>
      setWithin (headerLength ext p) p (p + k) (set b) >>= fun _ => f) v (p + k < 128 ∧ ok) a v' := by
  refine h.ends_reg ?_
  rw [setWithin_eq]
  exact Attempt.Ends.modify hf

/-- The codes of the formats. -/
lemma Reads.hdmi_vics (h : did.Reads base ext) (rounds : ℕ) :
    Attempt.Ends (did.getHdmiVics 1 p (headerLength ext p) rounds (p + k)) v
      (rounds = 0 ∨ p + (k + rounds) < 128) ()
      ((List.range' (k + 1) rounds).foldl
        (fun v k => setFrom setVic (blockByte ext p k) v) v) := by
  induction rounds generalizing k v with
  | zero => exact (Attempt.Ends.pure ()).congr (by simp)
  | succ rounds ih =>
      rw [getHdmiVics, List.range'_succ, List.foldl_cons]
      have hround := h.ends_field p (k + 1) setVic (ih (k := k + 1)
        (v := setFrom setVic (blockByte ext p (k + 1)) v))
      exact hround.congr (by omega)

/-- The formats of an HDMI block. -/
lemma Reads.hdmi_formats (h : did.Reads base ext) (p last : ℕ) (v : Ntv2DisplayidVideo) :
    Attempt.Ends (did.getHdmiFormats 1 p (headerLength ext p) (p + last) true) v
      (p + formatsLastRead (blockByte ext p) last < 128) ()
      (hdmiFormats (blockByte ext p) last v) := by
  rw [getHdmiFormats, if_pos rfl, Nat.add_assoc, Nat.add_sub_cancel_left, hdmiFormats,
    formatsLastRead, blockByte]
  by_cases hin : last + 2 ≤ headerLength ext p
  · have hvics := h.hdmi_vics (p := p) (k := last + 2) (v := v)
      ((ext (p + (last + 2)) >>> 5) &&& 0x7).toNat
    simp only [if_pos hin]
    refine (h.ends_reg hvics).congr ?_
    omega
  · simp only [if_neg hin]
    exact (h.ends_reg (Attempt.Ends.pure ())).congr (and_iff_left trivial)

/-- The latencies of an HDMI block. -/
lemma Reads.hdmi_latencies (h : did.Reads base ext) (p : ℕ) (flags : Byte)
    (v : Ntv2DisplayidVideo) :
    Attempt.Ends (did.getHdmiLatencies 1 p (headerLength ext p) (p + 8) (flags &&& 0x80 ≠ 0)
        (flags &&& 0x40 ≠ 0)) v
      (latencyEnd flags = 8 ∨ p + latencyEnd flags < 128) (p + latencyEnd flags)
      (hdmiLatencies (blockByte ext p) flags v) := by
  rw [getHdmiLatencies, latencyEnd, hdmiLatencies]
  by_cases hlat : flags &&& 0x80 ≠ 0
  · by_cases hilat : flags &&& 0x40 ≠ 0
    · have hall := h.ends_field (v := v) p 9 setVideoLatency (h.ends_field p 10 setAudioLatency
        (h.ends_field p 11 setIntVideoLatency (h.ends_field p 12 setIntAudioLatency
          (Attempt.Ends.pure (p + 12)))))
      simp only [if_pos hlat, if_pos hilat, decide_eq_true hlat, decide_eq_true hilat, if_true]
      exact hall.congr (by rw [and_true]; omega)
    · have hall := h.ends_field (v := v) p 9 setVideoLatency (h.ends_field p 10 setAudioLatency
        (Attempt.Ends.modify (g := copyLatencies) (Attempt.Ends.pure (p + 10))))
      simp only [if_pos hlat, if_neg hilat, decide_eq_true hlat, decide_eq_false hilat, if_true]
      exact hall.congr (by rw [and_true]; omega)
  · simp only [if_neg hlat, decide_eq_false hlat]
    exact (Attempt.Ends.pure (p + 8)).congr (by simp)

/-- **The fields of an HDMI block** are those of the bytes inside it. -/
theorem Reads.hdmi_fields (h : did.Reads base ext) (p : ℕ) (v : Ntv2DisplayidVideo) :
    Attempt.Ends (did.getHdmiFields 1 p) v (p + hdmiLastRead (blockByte ext p) < 128) ()
      (hdmiFields (blockByte ext p) v) := by
  have hbehind : Attempt.Ends (if 8 ≤ headerLength ext p then
      Attempt.modify (setContent (ext (p + 8))) >>= fun _ =>
        did.getHdmiLatencies 1 p (headerLength ext p) (p + 8) (ext (p + 8) &&& 0x80 ≠ 0)
          (ext (p + 8) &&& 0x40 ≠ 0) >>= fun index =>
            did.getHdmiFormats 1 p (headerLength ext p) index (ext (p + 8) &&& 0x20 ≠ 0)
      else pure ())
      (setFrom setMaxClockFreq (blockByte ext p 7) (setFrom setDeepColor (blockByte ext p 6) v))
      (hdmiLastRead (blockByte ext p) = 8 ∨ p + hdmiLastRead (blockByte ext p) < 128) ()
      (hdmiFields (blockByte ext p) v) := by
    rw [hdmiLastRead, hdmiFields]
    by_cases hin : 8 ≤ headerLength ext p
    · have hbyte : blockByte ext p 8 = some (ext (p + 8)) := if_pos hin
      simp only [if_pos hin, hbyte]
      have hlat := h.hdmi_latencies p (ext (p + 8)) ((setFrom setMaxClockFreq (blockByte ext p 7)
        (setFrom setDeepColor (blockByte ext p 6) v)).setContent (ext (p + 8)))
      by_cases hformats : ext (p + 8) &&& 0x20 ≠ 0
      · have hend : 8 ≤ latencyEnd (ext (p + 8)) := by
          rw [latencyEnd]
          split_ifs <;> decide
        have hlast : latencyEnd (ext (p + 8)) + 2 ≤
            formatsLastRead (blockByte ext p) (latencyEnd (ext (p + 8))) := by
          rw [formatsLastRead]
          split <;> omega
        simp only [if_pos hformats, decide_eq_true hformats]
        refine (Attempt.Ends.modify (hlat.bind (h.hdmi_formats p _ _))).congr ?_
        omega
      · simp only [if_neg hformats, decide_eq_false hformats]
        exact (Attempt.Ends.modify (hlat.bind (Attempt.Ends.pure ()))).congr (and_iff_left trivial)
    · have hbyte : blockByte ext p 8 = none := if_neg hin
      simp only [if_neg hin, hbyte]
      exact (Attempt.Ends.pure ()).congr (by simp)
  have hlast : 8 ≤ hdmiLastRead (blockByte ext p) := by
    rw [hdmiLastRead]
    split
    · exact le_rfl
    · rename_i flags _
      have hend : 8 ≤ latencyEnd flags := by
        rw [latencyEnd]
        split_ifs <;> decide
      split
      · rw [formatsLastRead]
        split <;> omega
      · exact hend
  have hflags := h.ends_reg (r := p + 8) (f := fun dcReg =>
    if p + 8 - p ≤ headerLength ext p then
      Attempt.modify (setContent dcReg) >>= fun _ =>
        did.getHdmiLatencies 1 p (headerLength ext p) (p + 8) (dcReg &&& 0x80 ≠ 0)
          (dcReg &&& 0x40 ≠ 0) >>= fun index =>
            did.getHdmiFormats 1 p (headerLength ext p) index (dcReg &&& 0x20 ≠ 0)
    else pure ()) (by rw [Nat.add_sub_cancel_left]; exact hbehind)
  refine Attempt.Ends.congr (h.ends_reg (h.ends_field p 6 setDeepColor
    (h.ends_field p 7 setMaxClockFreq hflags))) ?_
  omega

/-- **The fields of an HF block** are those of the bytes inside it. -/
theorem Reads.hf_fields (h : did.Reads base ext) (p : ℕ) (v : Ntv2DisplayidVideo) :
    Attempt.Ends (did.getHfFields 1 p) v (p + 7 < 128) () (hfFields (blockByte ext p) v) := by
  have hlast : Attempt.Ends (did.reg 1 (p + 7) >>= fun b =>
      setWithin (headerLength ext p) p (p + 7) (setDeepColor420 b))
      (setFrom setHfFlags (blockByte ext p 6) (setFrom setMaxTmdsCsc (blockByte ext p 5) v))
      (p + 7 < 128 ∧ True) () (hfFields (blockByte ext p) v) := by
    refine h.ends_reg ?_
    rw [setWithin_eq]
    exact Attempt.Ends.modify (Attempt.Ends.pure ())
  refine Attempt.Ends.congr (h.ends_reg (h.ends_field p 5 setMaxTmdsCsc
    (h.ends_field p 6 setHfFlags hlast))) ?_
  rw [and_true]
  omega

end Ntv2Displayid

end LibAjaNtv2
