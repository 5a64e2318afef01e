import Mathlib.Tactic
import LibAjaNtv2.Stream.Order
import LibAjaNtv2.Stream.Descriptors

/-!
A stream with the descriptors of its engine.

* `DescriptorRing`: the memory of the descriptors, with what was built and linked there;
* `buildDescriptors`, `linkDescriptors`: what `dmaOpsBufferLink` writes to them;
* `linkCall`: the link that a call on the stream makes;
* `StreamDma`, `dmaStep`: the stream and its descriptors over a call;
* `Quiet`, `streamStep_links`: **a call is quiet but for its link**.
-/

namespace LibAjaNtv2

/-! ### Writing descriptors -/

/-- The memory of the descriptors. For each slot, `built` is what building it has written, and
`follower` is the place of the first descriptor of the buffer that was linked behind it last, its
own if there was none. -/
structure DescriptorRing where
  memory : DescriptorMemory
  built : StreamIndex → ℕ → XlnxDescriptor
  follower : StreamIndex → ℕ

/-- A hardware whose engine is the one with these pages, for these page buffers of the slots. -/
def engineHardware (hw : StreamHardware) (e : DescriptorPages)
    (pages : StreamIndex → StreamPageBuffer) : StreamHardware :=
  { hw with
    dmaXlnxStreamBuild := fun i => (dmaXlnxStreamBuild e (fun _ => {}) (pages i) 0).2
    dmaXlnxStreamLink := fun _ _ => (dmaXlnxStreamLink e (fun _ => {}) 0 0).2 }

/-- Writes the descriptors of a slot that has none, and links the last of them to the first. -/
def buildDescriptors (e : DescriptorPages) (pages : StreamIndex → StreamPageBuffer)
    (s : Ntv2Stream) (i : StreamIndex) (r : DescriptorRing) : DescriptorRing :=
  if (s.streamBuffers i).linked then r
  else
    let dsIndex := s.strDescriptorIndex
    let (memory, status) := dmaXlnxStreamBuild e r.memory (pages i) dsIndex
    if status ≤ 0 then { r with memory := memory }
    else
      let descIndex := (dsIndex + status.toNat - 1) % s.maxDescriptors
      { memory := (dmaXlnxStreamLink e memory descIndex dsIndex).1
        built := Function.update r.built i fun k => memory (e.place (dsIndex + k))
        follower := Function.update r.follower i dsIndex }

/-- Links the last descriptor of a slot to the first of another. -/
def chainDescriptors (e : DescriptorPages) (s : Ntv2Stream) (fromIndex toIndex : StreamIndex)
    (r : DescriptorRing) : DescriptorRing :=
  let bufferFrom := s.streamBuffers fromIndex
  let bufferTo := s.streamBuffers toIndex
  let descIndex := (bufferFrom.dsIndex + bufferFrom.dsCount - 1) % s.maxDescriptors
  let (memory, status) := dmaXlnxStreamLink e r.memory descIndex bufferTo.dsIndex
  if status < 0 then { r with memory := memory }
  else
    { r with
      memory := memory
      follower := Function.update r.follower fromIndex bufferTo.dsIndex }

/-- What `dmaOpsBufferLink` writes. -/
def linkDescriptors (e : DescriptorPages) (pages : StreamIndex → StreamPageBuffer)
    (hw : StreamHardware) (s : Ntv2Stream) (fromIndex toIndex : StreamIndex) (r : DescriptorRing) :
    DescriptorRing :=
  if s.engineState = .error then r
  else if ¬ (s.streamBuffers fromIndex).Linkable then r
  else
    let r := buildDescriptors e pages s fromIndex r
    match dmaOpsBufferBuild hw s fromIndex with
    | (_, false) => r
    | (s, true) =>
        if ¬ (s.streamBuffers toIndex).Linkable then r
        else
          let r := buildDescriptors e pages s toIndex r
          match dmaOpsBufferBuild hw s toIndex with
          | (_, false) => r
          | (s, true) => if fromIndex ≠ toIndex then chainDescriptors e s fromIndex toIndex r else r

/-! ### Calls -/

/-- The link that `linkActive` makes: the stream at that point, and the two slots. -/
def linkActiveCall (s : Ntv2Stream) : Option (Ntv2Stream × StreamIndex × StreamIndex) :=
  if (s.streamBuffers s.activeIndex).queued && !(s.streamBuffers s.activeIndex).linked then
    some ({ s with
      userChannel := { s.userChannel with mActiveCount := 0, mRepeatCount := 0, mIdleCount := 0 }
      initCount := 0
      nextIndex := s.activeIndex }, s.activeIndex, s.activeIndex)
  else none

/-- The link that `linkNext` makes. -/
def linkNextCall (s : Ntv2Stream) : Option (Ntv2Stream × StreamIndex × StreamIndex) :=
  if s.engineState = .active then
    (findNext s NTV2_STREAM_NUM_BUFFERS (queueNext s.activeIndex)).map fun next =>
      (s, s.activeIndex, next)
  else none

/-- The link that a call on the stream makes, if it comes to one. -/
def linkCall (hw : StreamHardware) (s : Ntv2Stream) :
    StreamOp → Option (Ntv2Stream × StreamIndex × StreamIndex)
  | .channelStart =>
      if hw.lockTimeout then none
      else if s.Closed then none
      else if queueEmpty s.activeIndex s.headIndex then none
      else linkActiveCall s
  | .channelStop =>
      if hw.lockTimeout then none
      else if s.Closed then none
      else linkActiveCall s
  | .channelAdvance =>
      if s.streamState ≠ .active ∧ s.streamState ≠ .idle then none
      else if s.engineState = .initialized ∧ s.initCount < s.initAdvance then none
      else
        match dmaOpsStreamAdvance (moveActive hw (countTransfer (completeActive hw s))) with
        | (s, true) => linkNextCall s
        | (s, false) => linkNextCall { s with engineState := .error }
  | _ => none

/-- A stream and its descriptors. -/
structure StreamDma where
  stream : Ntv2Stream
  ring : DescriptorRing

/-- A call on a stream, with the page buffers of its slots. -/
structure DmaCall where
  hw : StreamHardware
  pages : StreamIndex → StreamPageBuffer
  op : StreamOp

/-- The stream and its descriptors after a call. -/
def dmaStep (e : DescriptorPages) (d : StreamDma) (call : DmaCall) : StreamDma where
  stream := streamStep d.stream (engineHardware call.hw e call.pages, call.op)
  ring :=
    match linkCall (engineHardware call.hw e call.pages) d.stream call.op with
    | none => d.ring
    | some (s, fromIndex, toIndex) =>
        linkDescriptors e call.pages (engineHardware call.hw e call.pages) s fromIndex toIndex d.ring

/-! ### What a call does besides linking -/

/-- The engine runs through the slot, or is going to. -/
def Ntv2StreamBuffer.InChain (b : Ntv2StreamBuffer) : Prop := b.Linkable ∧ b.linked = true

instance (b : Ntv2StreamBuffer) : Decidable b.InChain := inferInstanceAs (Decidable (_ ∧ _))

/-- A step that builds and links nothing: slots leave the chain, and no slot gets into it. -/
structure Quiet (s t : Ntv2Stream) : Prop where
  maxDescriptors : t.maxDescriptors = s.maxDescriptors
  strDescriptorIndex : t.strDescriptorIndex = s.strDescriptorIndex ∨ t.strDescriptorIndex = 0
  inChain : ∀ i, (t.streamBuffers i).InChain → (s.streamBuffers i).InChain ∧
    (t.streamBuffers i).dsIndex = (s.streamBuffers i).dsIndex ∧
    (t.streamBuffers i).dsCount = (s.streamBuffers i).dsCount ∧
    t.strDescriptorIndex = s.strDescriptorIndex

variable {hw : StreamHardware} {s t u : Ntv2Stream}

lemma Quiet.refl (s : Ntv2Stream) : Quiet s s := ⟨rfl, .inl rfl, fun _ h => ⟨h, rfl, rfl, rfl⟩⟩

lemma Quiet.trans (h : Quiet s t) (h' : Quiet t u) : Quiet s u := by
  refine ⟨h'.maxDescriptors.trans h.maxDescriptors, ?_, fun i hi => ?_⟩
  · rcases h'.strDescriptorIndex with he | hz
    · rw [he]
      exact h.strDescriptorIndex
    · exact .inr hz
  · obtain ⟨hi', h₁, h₂, h₃⟩ := h'.inChain i hi
    obtain ⟨hi'', h₄, h₅, h₆⟩ := h.inChain i hi'
    exact ⟨hi'', h₁.trans h₄, h₂.trans h₅, h₃.trans h₆⟩

/-- States, indices and counts change. -/
lemma Quiet.of_buffers (hbuffers : t.streamBuffers = s.streamBuffers)
    (hstr : t.strDescriptorIndex = s.strDescriptorIndex)
    (hmax : t.maxDescriptors = s.maxDescriptors) : Quiet s t := by
  refine ⟨hmax, .inl hstr, fun i hi => ?_⟩
  rw [hbuffers] at hi ⊢
  exact ⟨hi, rfl, rfl, hstr⟩

/-- A slot is written that is not in the chain then, or was in it at the same place. -/
lemma Quiet.of_slot {i : StreamIndex} {b : Ntv2StreamBuffer}
    (hbuffers : t.streamBuffers = Function.update s.streamBuffers i b)
    (hstr : t.strDescriptorIndex = s.strDescriptorIndex)
    (hmax : t.maxDescriptors = s.maxDescriptors)
    (hb : b.InChain → (s.streamBuffers i).InChain ∧ b.dsIndex = (s.streamBuffers i).dsIndex ∧
      b.dsCount = (s.streamBuffers i).dsCount) : Quiet s t := by
  refine ⟨hmax, .inl hstr, fun j hj => ?_⟩
  rw [hbuffers] at hj ⊢
  rcases eq_or_ne j i with rfl | hji
  · rw [Function.update_self] at hj ⊢
    obtain ⟨h₁, h₂, h₃⟩ := hb hj
    exact ⟨h₁, h₂, h₃, hstr⟩
  · rw [Function.update_of_ne hji] at hj ⊢
    exact ⟨hj, rfl, rfl, hstr⟩

lemma Quiet.setUserBuffer (s : Ntv2Stream) (i : StreamIndex)
    (f : NTV2StreamBuffer → NTV2StreamBuffer) : Quiet s (s.setUserBuffer i f) :=
  .of_slot rfl rfl rfl fun h => ⟨h, rfl, rfl⟩

lemma flush_quiet (s : Ntv2Stream) (i : StreamIndex) : Quiet s (dmaOpsBufferFlush s i).1 := by
  simp only [dmaOpsBufferFlush]
  split_ifs
  · exact .refl s
  · exact .refl s
  · exact .refl s
  · exact .of_slot rfl rfl rfl fun h => absurd h.1.2.1 (by simp)

lemma flushLoop_quiet (now : Int) (fuel : ℕ) (i : StreamIndex) (s : Ntv2Stream) :
    Quiet s (flushLoop now fuel i s) :=
  flushLoop_induct (fun t i h => h.trans (flush_quiet t i)) (fun t _ _ h => h.trans
    (.setUserBuffer t _ _)) now fuel i (.refl s)

lemma bufferRelease_quiet (s : Ntv2Stream) (i : StreamIndex) :
    Quiet s (dmaOpsBufferRelease s i).1 := by
  simp only [dmaOpsBufferRelease]
  split_ifs
  · exact .refl s
  · exact .refl s
  · exact .of_slot rfl rfl rfl fun h => absurd h.2 (by simp)

/-- Initialize stops the engine and leaves no slot in the chain. -/
lemma initialize_quiet (h : SlotInv s) (pOwner : Option ℕ) :
    Quiet s (streamChannelInitialize hw pOwner s).1 := by
  cases pOwner with
  | none => exact .refl s
  | some owner =>
      simp only [streamChannelInitialize, dmaOpsStreamInitialize]
      split_ifs
      · exact .refl s
      · exact .refl s
      · exact .refl s
      · exact .of_buffers rfl rfl rfl
      · obtain ⟨u, hu⟩ : ∃ u : Ntv2Stream, u = { s with
          strDescriptorIndex := 0
          streamState := .initialized
          engineState := .initialized
          owner := some owner } := ⟨_, rfl⟩
        have hslots : SlotInv u := hu ▸ h.congr rfl rfl rfl rfl rfl
        have hrun : ¬ u.EngineRunning := by
          rw [hu]
          rintro (hr | hr) <;> exact Ntv2StreamState.noConfusion hr
        have hquiet : Quiet u (flushAll u) :=
          flushAll_induct (fun t i h => h.trans (flush_quiet t i)) (.refl u)
        have hdone : ∀ i, ¬ ((flushAll u).streamBuffers i).InChain := by
          intro i hi
          have hq := (hquiet.inChain i hi).1.1.1
          rcases flushAll_done hslots hrun i hq with hc | hf
          · exact absurd hc (by simp [hi.1.2.2.1])
          · exact absurd hf (by simp [hi.1.2.1])
        simp only [Ntv2Stream.success]
        rw [hu] at hquiet hdone
        generalize flushAll _ = t at hquiet hdone
        refine ⟨hquiet.maxDescriptors, .inr ?_, fun i hi => absurd hi (hdone i)⟩
        exact hquiet.strDescriptorIndex.elim id id

/-- Release leaves no slot in the chain. -/
lemma release_quiet (pOwner : Option ℕ) : Quiet s (streamChannelRelease hw pOwner s).1 := by
  simp only [streamChannelRelease, dmaOpsStreamRelease]
  split_ifs
  · exact .refl s
  · exact .refl s
  · exact .of_buffers rfl rfl rfl
  · obtain ⟨u, hu⟩ : ∃ u : Ntv2Stream, u = { s with
      streamState := .released, engineState := .released } := ⟨_, rfl⟩
    have hstart : Quiet s u := hu ▸ .of_buffers rfl rfl rfl
    have hquiet : Quiet u (releaseAll u) :=
      List.foldlRecOn _ _ (.refl u) fun t ht i _ => ht.trans (bufferRelease_quiet t i)
    simp only [Ntv2Stream.success]
    rw [hu] at hstart hquiet
    generalize releaseAll _ = t at hquiet
    exact (hstart.trans hquiet).trans (.of_buffers rfl rfl rfl)

lemma flush_call_quiet : Quiet s (streamChannelFlush hw s).1 := by
  rw [streamChannelFlush]
  split_ifs
  · exact .refl s
  · exact .refl s
  · exact .refl s
  · exact flushLoop_quiet _ _ _ _

lemma bufferQueue_quiet (h : SlotInv s) (pOwner : Option ℕ) (pBuffer : NTV2StreamBuffer) :
    Quiet s (streamBufferQueue hw pOwner pBuffer s).1 := by
  rcases @bufferQueue_cases hw s h pOwner pBuffer with ⟨-, hsame | hreset⟩ | ⟨-, -, page, htaken⟩
  · rw [hsame]
    exact .refl s
  · rw [hreset]
    exact .of_slot rfl rfl rfl fun hb => absurd hb.2 (by simp)
  · rw [htaken]
    exact .of_slot rfl rfl rfl fun hb => absurd hb.2 (by simp)

lemma bufferRelease_call_quiet (h : SlotInv s) (pOwner : Option ℕ) :
    Quiet s (streamBufferRelease hw pOwner s).1 := by
  rcases @bufferRelease_cases hw s h pOwner with ⟨-, hsame⟩ | ⟨-, -, -, b, hb, htaken⟩
  · rw [hsame]
    exact .refl s
  · rw [htaken]
    rw [Ntv2StreamBuffer.flags, SlotFlags.mk.injEq] at hb
    refine .of_slot rfl rfl rfl fun hchain => absurd hchain.2 ?_
    rw [hb.2.1]
    exact Bool.false_ne_true

/-! ### Calls that link -/

/-- A call is quiet but for the link it makes. -/
def LinksBy (hw : StreamHardware) (s t : Ntv2Stream) :
    Option (Ntv2Stream × StreamIndex × StreamIndex) → Prop
  | none => Quiet s t
  | some (u, fromIndex, toIndex) =>
      Quiet s u ∧ Quiet (dmaOpsBufferLink hw u fromIndex toIndex).1 t

lemma LinksBy.trans {call : Option (Ntv2Stream × StreamIndex × StreamIndex)}
    (h : LinksBy hw s t call) (h' : Quiet t u) : LinksBy hw s u call := by
  cases call with
  | none => exact Quiet.trans h h'
  | some link => exact ⟨h.1, h.2.trans h'⟩

lemma LinksBy.after {call : Option (Ntv2Stream × StreamIndex × StreamIndex)}
    (h : Quiet s t) (h' : LinksBy hw t u call) : LinksBy hw s u call := by
  cases call with
  | none => exact h.trans h'
  | some link => exact ⟨h.trans h'.1, h'.2⟩

lemma linkActive_links (hw : StreamHardware) (s : Ntv2Stream) :
    LinksBy hw s (linkActive hw s).1 (linkActiveCall s) := by
  rw [linkActive, linkActiveCall]
  split_ifs
  · exact ⟨.of_buffers rfl rfl rfl, .refl _⟩
  · exact Quiet.refl s

lemma linkNext_links (hw : StreamHardware) (s : Ntv2Stream) (status : Int) :
    LinksBy hw s (linkNext hw s status).1 (linkNextCall s) := by
  rw [linkNext, linkNextCall]
  split_ifs
  · cases hfind : findNext s NTV2_STREAM_NUM_BUFFERS (queueNext s.activeIndex) with
    | none => exact Quiet.refl s
    | some next =>
        simp only [Option.map_some]
        rcases hlink : dmaOpsBufferLink hw s s.activeIndex next with ⟨t, ok⟩
        refine ⟨.refl s, ?_⟩
        rw [hlink]
        cases ok with
        | false => exact .of_buffers rfl rfl rfl
        | true => exact .of_buffers rfl rfl rfl
  · exact Quiet.refl s

lemma run_quiet (target : Ntv2StreamState) : Quiet s (dmaOpsStreamRun target hw s).1 := by
  rw [dmaOpsStreamRun]
  split_ifs <;> exact .of_buffers rfl rfl rfl

lemma start_links (hw : StreamHardware) (s : Ntv2Stream) :
    LinksBy hw s (streamChannelStart hw s).1 (linkCall hw s .channelStart) := by
  rw [streamChannelStart, linkCall]
  split_ifs
  · exact Quiet.refl s
  · exact Quiet.refl s
  · exact Quiet.refl s
  have hlinks := linkActive_links hw s
  rcases hlink : linkActive hw s with ⟨t, ok⟩
  rw [hlink] at hlinks
  cases ok with
  | false => exact hlinks
  | true =>
      have hrun := @run_quiet hw t .active
      simp only [dmaOpsStreamStart]
      rcases hran : dmaOpsStreamRun .active hw t with ⟨u, ran⟩
      rw [hran] at hrun
      cases ran with
      | false => exact hlinks.trans hrun
      | true => exact hlinks.trans hrun

lemma stop_links (hw : StreamHardware) (s : Ntv2Stream) :
    LinksBy hw s (streamChannelStop hw s).1 (linkCall hw s .channelStop) := by
  rw [streamChannelStop, linkCall]
  split_ifs
  · exact Quiet.refl s
  · exact Quiet.refl s
  have hlinks := linkActive_links hw s
  rcases hlink : linkActive hw s with ⟨t, ok⟩
  rw [hlink] at hlinks
  cases ok with
  | false => exact hlinks
  | true =>
      have hrun := @run_quiet hw t .idle
      simp only [dmaOpsStreamStop]
      rcases hran : dmaOpsStreamRun .idle hw t with ⟨u, ran⟩
      rw [hran] at hrun
      cases ran with
      | false => exact hlinks.trans (hrun.trans (.of_buffers rfl rfl rfl))
      | true => exact hlinks.trans hrun

lemma complete_quiet (s : Ntv2Stream) (i : StreamIndex) :
    Quiet s (dmaOpsBufferComplete s i).1 := by
  rcases complete_cases s i with ⟨-, he⟩ | ⟨-, he⟩
  · rw [he]
    exact .of_slot rfl rfl rfl fun h => absurd h.1.2.2.1 (by simp)
  · rw [he]
    exact .refl s

/-- Moving on leaves the chain as it is, but for the slot that is completed. -/
lemma moves_quiet (hw : StreamHardware) (s : Ntv2Stream) :
    Quiet s (moveActive hw (countTransfer (completeActive hw s))) := by
  have hcomplete : Quiet s (completeActive hw s) := by
    rw [completeActive]
    refine .trans (.setUserBuffer s s.activeIndex fun b =>
      { b with mTransferCount := b.mTransferCount + 1 }) ?_
    generalize s.setUserBuffer s.activeIndex _ = t
    split_ifs
    · have ht := complete_quiet t t.activeIndex
      rcases hdone : dmaOpsBufferComplete t t.activeIndex with ⟨u, ok⟩
      rw [hdone] at ht
      cases ok with
      | true => exact ht.trans (.setUserBuffer _ _ _)
      | false =>
          have herror : Quiet u { u with engineState := .error } := .of_buffers rfl rfl rfl
          exact (ht.trans herror).trans (.setUserBuffer _ _ _)
    · exact .refl t
  refine hcomplete.trans ?_
  generalize completeActive hw s = t
  have hcount : Quiet t (countTransfer t) := .of_buffers rfl rfl rfl
  refine hcount.trans ?_
  generalize countTransfer t = u
  have hnext : Quiet u { u with activeIndex := u.nextIndex } := .of_buffers rfl rfl rfl
  rw [moveActive]
  split_ifs
  · exact hnext.trans (.setUserBuffer _ _ _)
  · exact hnext

lemma advance_links (hw : StreamHardware) (s : Ntv2Stream) :
    LinksBy hw s (streamChannelAdvance hw s).1 (linkCall hw s .channelAdvance) := by
  rw [streamChannelAdvance, linkCall]
  split_ifs
  · exact Quiet.refl s
  · exact Quiet.of_buffers rfl rfl rfl
  have hmoves := moves_quiet hw s
  generalize moveActive hw (countTransfer (completeActive hw s)) = t at hmoves
  have hadvance : Quiet t (dmaOpsStreamAdvance t).1 := by
    rw [dmaOpsStreamAdvance]
    split_ifs <;> exact .of_buffers rfl rfl rfl
  rcases hadv : dmaOpsStreamAdvance t with ⟨u, ok⟩
  rw [hadv] at hadvance
  cases ok with
  | true => exact .after (hmoves.trans hadvance) (linkNext_links hw u 1)
  | false =>
      have herror : Quiet u { u with engineState := .error } := .of_buffers rfl rfl rfl
      exact .after ((hmoves.trans hadvance).trans herror) (linkNext_links hw _ 0)

/-- **A call is quiet but for its link**. -/
theorem streamStep_links (h : SlotInv s) (hw : StreamHardware) (op : StreamOp) :
    LinksBy hw s (streamStep s (hw, op)) (linkCall hw s op) := by
  cases op with
  | channelInitialize pOwner => exact initialize_quiet h pOwner
  | channelRelease pOwner => exact release_quiet pOwner
  | channelStart => exact start_links hw s
  | channelStop => exact stop_links hw s
  | channelFlush => exact flush_call_quiet
  | channelAdvance => exact advance_links hw s
  | bufferQueue pOwner pBuffer => exact bufferQueue_quiet h pOwner pBuffer
  | bufferRelease pOwner => exact bufferRelease_call_quiet h pOwner

end LibAjaNtv2
