import Mathlib.Tactic
import LibAjaNtv2.Lib.Run
import LibAjaNtv2.Stream.Links

/-!
The chain of descriptors that a streaming engine runs through.

* `ringSpan`: how far it is round the ring from a buffer to the next free descriptor;
* `LinkFits`, `DmaStepOk`: there is room for the descriptors that a call builds;
* `ChainIntact`: the descriptors of a slot are as built, and lead to the buffer behind;
* `RingInv`, `RingInv.build`, `RingInv.chain`: what building and linking keep;
* `descriptors_intact`: **the chain is intact in every run whose calls have room**;
* `pagedRun`, `next_overwrites_active`: two buffers that need more than half of the ring each.
-/

namespace LibAjaNtv2

/-! ### Places of the ring -/

/-- The descriptors from a place round to the next free one: all of them if it is that one. -/
def ringSpan (first free : ℕ) : ℕ :=
  if free = first then streamMaxDescriptors
  else (free + streamMaxDescriptors - first) % streamMaxDescriptors

section Span

variable {first free n : ℕ}

lemma ringSpan_le (first free : ℕ) : ringSpan first free ≤ streamMaxDescriptors := by
  rw [ringSpan]
  split
  · exact le_rfl
  · exact (Nat.mod_lt _ streamMaxDescriptors_pos).le

/-- The span leads to the next free descriptor. -/
lemma add_ringSpan (hfirst : first < streamMaxDescriptors) (hfree : free < streamMaxDescriptors) :
    (first + ringSpan first free) % streamMaxDescriptors = free := by
  rw [ringSpan]
  rw [streamMaxDescriptors_eq] at *
  split <;> omega

/-- The span after some more descriptors are taken. -/
lemma ringSpan_add (hfirst : first < streamMaxDescriptors) (hfree : free < streamMaxDescriptors)
    (hn : ringSpan first free + n ≤ streamMaxDescriptors) :
    ringSpan first ((free + n) % streamMaxDescriptors) = ringSpan first free + n := by
  rw [ringSpan] at hn ⊢
  rw [ringSpan]
  rw [streamMaxDescriptors_eq] at *
  split_ifs at hn ⊢ <;> omega

/-- The span of the descriptors that were just taken. -/
lemma ringSpan_self (hfirst : first < streamMaxDescriptors) (hpos : 0 < n)
    (hn : n ≤ streamMaxDescriptors) :
    ringSpan first ((first + n) % streamMaxDescriptors) = n := by
  rw [ringSpan]
  rw [streamMaxDescriptors_eq] at *
  split_ifs <;> omega

end Span

/-! ### Intact chains -/

/-- The span of a slot. -/
def Ntv2Stream.span (s : Ntv2Stream) (i : StreamIndex) : ℕ :=
  ringSpan (s.streamBuffers i).dsIndex s.strDescriptorIndex

/-- The descriptors of a slot are as they were built and lead one to the next, and the last one
leads to the buffer behind. -/
structure ChainIntact (e : DescriptorPages) (s : Ntv2Stream) (r : DescriptorRing)
    (i : StreamIndex) : Prop where
  kept : ∀ k, k < (s.streamBuffers i).dsCount →
    r.memory (e.place ((s.streamBuffers i).dsIndex + k)) =
      { r.built i k with
        llNextAddress :=
          if k + 1 < (s.streamBuffers i).dsCount then e.place ((s.streamBuffers i).dsIndex + (k + 1))
          else e.place (r.follower i) }
  visits : (List.range ((s.streamBuffers i).dsCount + 1)).map (fun k =>
      (fun a => (r.memory a).llNextAddress)^[k] (e.place (s.streamBuffers i).dsIndex)) =
    (List.range (s.streamBuffers i).dsCount).map (fun k =>
      e.place ((s.streamBuffers i).dsIndex + k)) ++ [e.place (r.follower i)]

/-- The descriptors that linking a slot takes. -/
def newDescriptors (pages : StreamIndex → StreamPageBuffer) (s : Ntv2Stream) (i : StreamIndex) :
    ℕ :=
  if (s.streamBuffers i).Linkable ∧ (s.streamBuffers i).linked = false ∧ (pages i).Accepted then
    (pages i).descriptors
  else 0

/-- There is room for the descriptors of two slots between the next free one and the slots that
the engine runs through. -/
structure LinkFits (pages : StreamIndex → StreamPageBuffer) (s : Ntv2Stream)
    (fromIndex toIndex : StreamIndex) : Prop where
  both : newDescriptors pages s fromIndex +
    (if toIndex = fromIndex then 0 else newDescriptors pages s toIndex) ≤ streamMaxDescriptors
  room : ∀ k, (s.streamBuffers k).InChain → s.span k + (newDescriptors pages s fromIndex +
    (if toIndex = fromIndex then 0 else newDescriptors pages s toIndex)) ≤ streamMaxDescriptors

instance (pages : StreamIndex → StreamPageBuffer) (s : Ntv2Stream) (i j : StreamIndex) :
    Decidable (LinkFits pages s i j) :=
  decidable_of_iff (_ ∧ ∀ _, _ → _) ⟨fun h => ⟨h.1, h.2⟩, fun h => ⟨h.both, h.room⟩⟩

/-- There is room for what a call builds. -/
def DmaStepOk (e : DescriptorPages) (d : StreamDma) (call : DmaCall) : Prop :=
  ∀ s fromIndex toIndex,
    linkCall (engineHardware call.hw e call.pages) d.stream call.op =
      some (s, fromIndex, toIndex) →
    s.engineState ≠ .error → (s.streamBuffers fromIndex).Linkable →
    LinkFits call.pages s fromIndex toIndex

instance (e : DescriptorPages) (d : StreamDma) (call : DmaCall) : Decidable (DmaStepOk e d call) :=
  match h : linkCall (engineHardware call.hw e call.pages) d.stream call.op with
  | none => .isTrue fun s i j hcall => nomatch h.symm.trans hcall
  | some (s, i, j) =>
      decidable_of_iff (s.engineState ≠ .error → (s.streamBuffers i).Linkable →
        LinkFits call.pages s i j) (by
          rw [DmaStepOk, h]
          exact ⟨fun hfits _ _ _ heq => by cases heq; exact hfits, fun hok => hok s i j rfl⟩)

/-! ### The invariant -/

/-- The ring of a stream. -/
structure RingInv (e : DescriptorPages) (s : Ntv2Stream) (r : DescriptorRing) : Prop where
  max : s.maxDescriptors = streamMaxDescriptors
  free : s.strDescriptorIndex < streamMaxDescriptors
  placed : ∀ i, (s.streamBuffers i).InChain →
    (s.streamBuffers i).dsIndex < streamMaxDescriptors ∧ 0 < (s.streamBuffers i).dsCount ∧
      (s.streamBuffers i).dsCount ≤ s.span i
  apart : ∀ i j, (s.streamBuffers i).InChain → (s.streamBuffers j).InChain → i ≠ j →
    (s.streamBuffers i).dsCount + s.span j ≤ s.span i ∨
      (s.streamBuffers j).dsCount + s.span i ≤ s.span j
  kept : ∀ i, (s.streamBuffers i).InChain → ∀ k, k < (s.streamBuffers i).dsCount →
    r.memory (e.place ((s.streamBuffers i).dsIndex + k)) =
      { r.built i k with
        llNextAddress :=
          if k + 1 < (s.streamBuffers i).dsCount then e.place ((s.streamBuffers i).dsIndex + (k + 1))
          else e.place (r.follower i) }

section Ring

variable {e : DescriptorPages} {s t : Ntv2Stream} {r r' : DescriptorRing}

/-- A quiet step keeps the ring. -/
lemma RingInv.quiet (h : RingInv e s r) (hq : Quiet s t) : RingInv e t r := by
  have hspan : ∀ i, (t.streamBuffers i).InChain → t.span i = s.span i := by
    intro i hi
    obtain ⟨-, hindex, -, hstr⟩ := hq.inChain i hi
    rw [Ntv2Stream.span, Ntv2Stream.span, hindex, hstr]
  refine ⟨hq.maxDescriptors.trans h.max, ?_, fun i hi => ?_, fun i j hi hj hij => ?_,
    fun i hi => ?_⟩
  · rcases hq.strDescriptorIndex with he | hz
    · rw [he]
      exact h.free
    · rw [hz]
      exact streamMaxDescriptors_pos
  · obtain ⟨hi', hindex, hcount, -⟩ := hq.inChain i hi
    rw [hspan i hi, hindex, hcount]
    exact h.placed i hi'
  · obtain ⟨hi', -, hcount, -⟩ := hq.inChain i hi
    obtain ⟨hj', -, hcount', -⟩ := hq.inChain j hj
    rw [hspan i hi, hspan j hj, hcount, hcount']
    exact h.apart i j hi' hj' hij
  · obtain ⟨hi', hindex, hcount, -⟩ := hq.inChain i hi
    rw [hindex, hcount]
    exact h.kept i hi'

/-- The slots of the chain do not share a descriptor. -/
lemma RingInv.disjoint (h : RingInv e s r) {i j : StreamIndex} (hi : (s.streamBuffers i).InChain)
    (hj : (s.streamBuffers j).InChain) (hij : i ≠ j) {k l : ℕ}
    (hk : k < (s.streamBuffers i).dsCount) (hl : l < (s.streamBuffers j).dsCount) :
    e.place ((s.streamBuffers i).dsIndex + k) ≠ e.place ((s.streamBuffers j).dsIndex + l) := by
  intro he
  have hmod := e.place_inj he
  obtain ⟨hi₁, -, hi₂⟩ := h.placed i hi
  obtain ⟨hj₁, -, hj₂⟩ := h.placed j hj
  have hapart := h.apart i j hi hj hij
  have hi₃ := add_ringSpan hi₁ h.free
  have hj₃ := add_ringSpan hj₁ h.free
  have hi₄ := ringSpan_le (s.streamBuffers i).dsIndex s.strDescriptorIndex
  have hj₄ := ringSpan_le (s.streamBuffers j).dsIndex s.strDescriptorIndex
  rw [Ntv2Stream.span] at hi₂ hj₂ hapart
  rw [Ntv2Stream.span] at hapart
  generalize ringSpan (s.streamBuffers i).dsIndex s.strDescriptorIndex = x at *
  generalize ringSpan (s.streamBuffers j).dsIndex s.strDescriptorIndex = y at *
  rw [streamMaxDescriptors_eq] at *
  omega

/-- The descriptors that are taken next are no slot's of the chain. -/
lemma RingInv.fresh (h : RingInv e s r) {n : ℕ} {j : StreamIndex}
    (hj : (s.streamBuffers j).InChain) (hroom : s.span j + n ≤ streamMaxDescriptors) {k l : ℕ}
    (hk : k < (s.streamBuffers j).dsCount) (hl : l < n) :
    e.place ((s.streamBuffers j).dsIndex + k) ≠ e.place (s.strDescriptorIndex + l) := by
  intro he
  have hmod := e.place_inj he
  obtain ⟨hj₁, -, hj₂⟩ := h.placed j hj
  have hj₃ := add_ringSpan hj₁ h.free
  have hfree := h.free
  rw [Ntv2Stream.span] at hj₂ hroom
  generalize ringSpan (s.streamBuffers j).dsIndex s.strDescriptorIndex = y at *
  rw [streamMaxDescriptors_eq] at *
  omega

/-- **One more slot** takes the next free descriptors. -/
lemma RingInv.grow (h : RingInv e s r) {n : ℕ} {i : StreamIndex} (hpos : 0 < n)
    (hn : n ≤ streamMaxDescriptors)
    (hroom : ∀ j, (s.streamBuffers j).InChain → s.span j + n ≤ streamMaxDescriptors)
    (hmax : t.maxDescriptors = s.maxDescriptors)
    (hstr : t.strDescriptorIndex = (s.strDescriptorIndex + n) % streamMaxDescriptors)
    (hothers : ∀ j, j ≠ i → t.streamBuffers j = s.streamBuffers j)
    (hi : (t.streamBuffers i).InChain →
      (t.streamBuffers i).dsIndex = s.strDescriptorIndex ∧ (t.streamBuffers i).dsCount = n ∧
      ∀ k, k < n → r'.memory (e.place (s.strDescriptorIndex + k)) =
        { r'.built i k with
          llNextAddress :=
            if k + 1 < n then e.place (s.strDescriptorIndex + (k + 1))
            else e.place (r'.follower i) })
    (hmemory : ∀ a, (∀ k, k < n → a ≠ e.place (s.strDescriptorIndex + k)) →
      r'.memory a = r.memory a)
    (hbuilt : ∀ j, j ≠ i → r'.built j = r.built j ∧ r'.follower j = r.follower j) :
    RingInv e t r' := by
  have hspan : ∀ j, j ≠ i → (t.streamBuffers j).InChain → t.span j = s.span j + n := by
    intro j hj hchain
    rw [hothers j hj] at hchain
    rw [Ntv2Stream.span, hothers j hj, hstr]
    exact ringSpan_add (h.placed j hchain).1 h.free (hroom j hchain)
  have hself : (t.streamBuffers i).InChain → t.span i = n := by
    intro hchain
    rw [Ntv2Stream.span, (hi hchain).1, hstr]
    exact ringSpan_self h.free hpos hn
  refine ⟨hmax.trans h.max, ?_, fun j hj => ?_, fun j k hj hk hjk => ?_, fun j hj k hk => ?_⟩
  · rw [hstr]
    exact Nat.mod_lt _ streamMaxDescriptors_pos
  · rcases eq_or_ne j i with rfl | hji
    · obtain ⟨hindex, hcount, -⟩ := hi hj
      rw [hself hj, hindex, hcount]
      exact ⟨h.free, hpos, le_rfl⟩
    · rw [hspan j hji hj]
      rw [hothers j hji] at hj ⊢
      obtain ⟨h₁, h₂, h₃⟩ := h.placed j hj
      exact ⟨h₁, h₂, by omega⟩
  · rcases eq_or_ne j i with rfl | hji
    · rw [hself hj, hspan k hjk.symm hk]
      rw [hothers k hjk.symm] at hk ⊢
      have := (h.placed k hk).2.2
      omega
    · rcases eq_or_ne k i with rfl | hki
      · rw [hself hk, hspan j hji hj]
        rw [hothers j hji] at hj ⊢
        have := (h.placed j hj).2.2
        omega
      · rw [hspan j hji hj, hspan k hki hk]
        rw [hothers j hji] at hj ⊢
        rw [hothers k hki] at hk ⊢
        have := h.apart j k hj hk hjk
        omega
  · rcases eq_or_ne j i with rfl | hji
    · obtain ⟨hindex, hcount, hkept⟩ := hi hj
      rw [hcount] at hk
      rw [hindex, hcount]
      exact hkept k hk
    · rw [hothers j hji] at hj hk ⊢
      rw [hmemory _ fun l hl => h.fresh hj (hroom j hj) hk hl, (hbuilt j hji).1, (hbuilt j hji).2]
      exact h.kept j hj k hk

variable {hw : StreamHardware} {pages : StreamIndex → StreamPageBuffer}

/-- What the engine answers to building and linking. -/
lemma engineHardware_answers (hw : StreamHardware) (e : DescriptorPages)
    (pages : StreamIndex → StreamPageBuffer) :
    (∀ i, (engineHardware hw e pages).dmaXlnxStreamBuild i =
      if (pages i).Accepted then ((pages i).descriptors : Int) else -EPERM) ∧
    ∀ i j, (engineHardware hw e pages).dmaXlnxStreamLink i j =
      if e.dmaStream then 0 else -EPERM := by
  refine ⟨fun i => ?_, fun i j => ?_⟩
  · obtain ⟨hno, hyes⟩ := streamBuild_spec e (fun _ => {}) (pages i) 0
    rw [Nat.zero_mod] at hno hyes
    simp only [engineHardware]
    split_ifs with hacc
    · obtain ⟨memory, heq, -⟩ := hyes hacc
      rw [heq]
    · rw [hno hacc]
  · simp only [engineHardware]
    cases hstream : e.dmaStream with
    | true =>
        have heq := streamLink_eq (fun _ => {}) 0 0 hstream
        rw [Nat.zero_mod] at heq
        rw [heq]
        rfl
    | false => simp [dmaXlnxStreamLink, hstream]

/-- What building a slot does to the stream: it is refused, its link fails, or it is linked. -/
lemma build_cases {i : StreamIndex} {ok : Bool} (hl : (s.streamBuffers i).linked = false)
    (h : dmaOpsBufferBuild hw s i = (t, ok)) :
    ∃ b, t.streamBuffers = Function.update s.streamBuffers i b ∧
      t.maxDescriptors = s.maxDescriptors ∧
      ((hw.dmaXlnxStreamBuild i ≤ 0 ∧ ok = false ∧ b.linked = false ∧
          t.strDescriptorIndex = s.strDescriptorIndex) ∨
        (0 < hw.dmaXlnxStreamBuild i ∧
          t.strDescriptorIndex =
            (s.strDescriptorIndex + (hw.dmaXlnxStreamBuild i).toNat) % s.maxDescriptors ∧
          ((hw.dmaXlnxStreamLink i i < 0 ∧ ok = false ∧ b.linked = false) ∨
            (0 ≤ hw.dmaXlnxStreamLink i i ∧ ok = true ∧ b = { s.streamBuffers i with
              dsIndex := s.strDescriptorIndex
              dsCount := (hw.dmaXlnxStreamBuild i).toNat
              linked := true })))) := by
  rw [dmaOpsBufferBuild, hl] at h
  simp only [Bool.false_eq_true, if_false, setBuffer_setBuffer] at h
  split_ifs at h with hbuild hlink
  · obtain ⟨rfl, rfl⟩ := Prod.mk.inj h
    exact ⟨_, rfl, rfl, .inl ⟨hbuild, rfl, rfl, rfl⟩⟩
  · obtain ⟨rfl, rfl⟩ := Prod.mk.inj h
    exact ⟨_, rfl, rfl, .inr ⟨not_le.mp hbuild, rfl, .inl ⟨hlink, rfl, rfl⟩⟩⟩
  · obtain ⟨rfl, rfl⟩ := Prod.mk.inj h
    refine ⟨_, ?_, rfl, .inr ⟨not_le.mp hbuild, rfl, .inr ⟨not_lt.mp hlink, rfl, rfl⟩⟩⟩
    exact Function.update_idem _ _ _

/-- What building a slot writes: nothing if it is refused, and its descriptors otherwise, the last
of them linked to the first. -/
lemma buildDescriptors_eq (h : RingInv e s r) {i : StreamIndex}
    (hl : (s.streamBuffers i).linked = false) :
    (¬ (pages i).Accepted → buildDescriptors e pages s i r = r) ∧
    ((pages i).Accepted → ∃ memory,
      Finished e s.strDescriptorIndex r.memory memory
        ((pages i).segments.take (pages i).descriptors) ∧
      buildDescriptors e pages s i r =
        { memory := (dmaXlnxStreamLink e memory
            ((s.strDescriptorIndex + ((pages i).descriptors - 1)) % streamMaxDescriptors)
            s.strDescriptorIndex).1
          built := Function.update r.built i fun k => memory (e.place (s.strDescriptorIndex + k))
          follower := Function.update r.follower i s.strDescriptorIndex }) := by
  obtain ⟨hno, hyes⟩ := streamBuild_spec e r.memory (pages i) s.strDescriptorIndex
  rw [Nat.mod_eq_of_lt h.free] at hno hyes
  refine ⟨fun hacc => ?_, fun hacc => ?_⟩
  · simp only [buildDescriptors, hl, hno hacc, Bool.false_eq_true, if_false]
    rfl
  · obtain ⟨memory, heq, hfinished⟩ := hyes hacc
    have hpos := hacc.descriptors
    refine ⟨memory, hfinished, ?_⟩
    simp only [buildDescriptors, hl, heq, h.max, Bool.false_eq_true, if_false, Int.toNat_natCast]
    rw [if_neg (by omega), Nat.add_sub_assoc hpos]

/-- The descriptors of a slot that was built on a streaming engine. -/
lemma Finished.closed {index n : ℕ} {memory memory' : DescriptorMemory}
    {segments : List StreamSegment} (h : Finished e index memory memory' segments)
    (hlength : segments.length = n) (hpos : 0 < n) (hn : n ≤ streamMaxDescriptors) (k : ℕ)
    (hk : k < n) :
    Function.update memory' (e.place (index + (n - 1)))
        { memory' (e.place (index + (n - 1))) with llNextAddress := e.place index }
        (e.place (index + k)) =
      { memory' (e.place (index + k)) with
        llNextAddress := if k + 1 < n then e.place (index + (k + 1)) else e.place index } := by
  rcases eq_or_ne k (n - 1) with rfl | hlast
  · rw [Function.update_self, if_neg (by omega)]
  · have hnext := h.next k (hlength ▸ hk)
    rw [hlength, if_pos (by omega)] at hnext
    rw [Function.update_of_ne (e.place_ne (by omega) (by omega)), if_pos (by omega),
      ← Nat.add_assoc, ← hnext]

/-- **Building a slot** keeps the ring if there is room for its descriptors. -/
lemma RingInv.build (h : RingInv e s r) {i : StreamIndex} {ok : Bool}
    (hi : (s.streamBuffers i).Linkable)
    (hroom : ∀ j, (s.streamBuffers j).InChain →
      s.span j + newDescriptors pages s i ≤ streamMaxDescriptors)
    (hbuild : dmaOpsBufferBuild (engineHardware hw e pages) s i = (t, ok)) :
    RingInv e t (buildDescriptors e pages s i r) ∧
      (∀ j, j ≠ i → t.streamBuffers j = s.streamBuffers j) ∧
      (∀ j, (t.streamBuffers j).InChain → t.span j ≤ newDescriptors pages s i ∨
        (s.streamBuffers j).InChain ∧ t.span j ≤ s.span j + newDescriptors pages s i) ∧
      (ok = true → (t.streamBuffers i).InChain) := by
  cases hl : (s.streamBuffers i).linked with
  | true =>
      rw [dmaOpsBufferBuild, hl] at hbuild
      obtain ⟨rfl, -⟩ := Prod.mk.inj hbuild
      rw [buildDescriptors, hl]
      exact ⟨h, fun _ _ => rfl, fun j hj => .inr ⟨hj, Nat.le_add_right _ _⟩, fun _ => ⟨hi, hl⟩⟩
  | false =>
      obtain ⟨hrefused, haccepted⟩ := @buildDescriptors_eq e s r pages h i hl
      obtain ⟨b, hbuffers, hmax, hcases⟩ := build_cases hl hbuild
      rw [(engineHardware_answers hw e pages).1, (engineHardware_answers hw e pages).2] at hcases
      have hothers : ∀ j, j ≠ i → t.streamBuffers j = s.streamBuffers j := by
        intro j hj
        rw [hbuffers, Function.update_of_ne hj]
      have hself : t.streamBuffers i = b := by rw [hbuffers, Function.update_self]
      by_cases hacc : (pages i).Accepted
      · have hnew : newDescriptors pages s i = (pages i).descriptors := if_pos ⟨hi, hl, hacc⟩
        rw [hnew] at hroom ⊢
        obtain ⟨memory, hfinished, hring⟩ := haccepted hacc
        have hpos := hacc.descriptors
        have hn := hacc.le
        have hlength : ((pages i).segments.take (pages i).descriptors).length =
            (pages i).descriptors := List.length_take_of_le (segmentsUsed_le _ _ _)
        rw [if_pos hacc, Int.toNat_natCast, h.max] at hcases
        rw [hring]
        generalize (pages i).segments.take (pages i).descriptors = segments at *
        generalize (pages i).descriptors = n at *
        obtain ⟨-, hstr, hlinks⟩ := hcases.resolve_left fun hneg => absurd hneg.1 (by omega)
        refine ⟨h.grow hpos hn hroom hmax hstr hothers (fun hchain => ?_) (fun a ha => ?_)
          fun j hj => ⟨?_, ?_⟩, hothers, fun j hj => ?_, fun hok => ?_⟩
        · rcases hlinks with ⟨-, -, hno⟩ | ⟨hanswer, -, hb⟩
          · rw [hself] at hchain
            exact absurd (hno.symm.trans hchain.2) Bool.false_ne_true
          · have hstream : e.dmaStream = true := by
              by_contra hno
              rw [if_neg hno] at hanswer
              exact absurd hanswer (by decide)
            rw [hself, hb]
            refine ⟨rfl, rfl, fun k hk => ?_⟩
            have hlink := streamLink_eq memory (s.strDescriptorIndex + (n - 1))
              s.strDescriptorIndex hstream
            rw [Nat.mod_eq_of_lt h.free] at hlink
            simp only [hlink, Function.update_self]
            exact hfinished.closed hlength hpos hn k hk
        · have hne : a ≠ e.place (s.strDescriptorIndex + (n - 1)) := ha _ (by omega)
          have hkeeps := streamLink_others e memory (s.strDescriptorIndex + (n - 1))
            s.strDescriptorIndex hne
          rw [Nat.mod_eq_of_lt h.free] at hkeeps
          exact hkeeps.trans (hfinished.others a (hlength ▸ ha))
        · exact Function.update_of_ne hj _ _
        · exact Function.update_of_ne hj _ _
        · rcases eq_or_ne j i with rfl | hji
          · refine .inl ?_
            rcases hlinks with ⟨-, -, hno⟩ | ⟨-, -, hb⟩
            · rw [hself] at hj
              exact absurd (hno.symm.trans hj.2) Bool.false_ne_true
            · rw [Ntv2Stream.span, hself, hb, hstr]
              exact (ringSpan_self h.free hpos hn).le
          · rw [hothers j hji] at hj
            refine .inr ⟨hj, ?_⟩
            rw [Ntv2Stream.span, hothers j hji, hstr]
            exact (ringSpan_add (h.placed j hj).1 h.free (hroom j hj)).le
        · rcases hlinks with ⟨-, hno, -⟩ | ⟨-, -, hb⟩
          · exact absurd (hno.symm.trans hok) Bool.false_ne_true
          · rw [hself, hb]
            exact ⟨hi, rfl⟩
      · rw [if_neg hacc] at hcases
        rw [hrefused hacc]
        obtain ⟨-, rfl, hlinked, hstr⟩ := hcases.resolve_right fun hpos => absurd hpos.1 (by decide)
        have hquiet : Quiet s t := .of_slot hbuffers hstr hmax fun hchain =>
          absurd (hlinked.symm.trans hchain.2) Bool.false_ne_true
        refine ⟨h.quiet hquiet, hothers, fun j hj => .inr ?_, Bool.noConfusion⟩
        obtain ⟨hj', hindex, -, -⟩ := hquiet.inChain j hj
        refine ⟨hj', ?_⟩
        rw [Ntv2Stream.span, Ntv2Stream.span, hindex, hstr]
        exact Nat.le_add_right _ _

/-- **Chaining two slots** keeps the ring. -/
lemma RingInv.chain (h : RingInv e s r) {i j : StreamIndex} (hi : (s.streamBuffers i).InChain)
    (hj : (s.streamBuffers j).InChain) : RingInv e s (chainDescriptors e s i j r) := by
  obtain ⟨hi₁, hi₂, -⟩ := h.placed i hi
  obtain ⟨hj₁, -, -⟩ := h.placed j hj
  have hlast : (s.streamBuffers i).dsIndex + (s.streamBuffers i).dsCount - 1 =
      (s.streamBuffers i).dsIndex + ((s.streamBuffers i).dsCount - 1) := Nat.add_sub_assoc hi₂ _
  have hround : ∀ k, k < (s.streamBuffers i).dsCount → k ≠ (s.streamBuffers i).dsCount - 1 →
      e.place ((s.streamBuffers i).dsIndex + k) ≠
        e.place ((s.streamBuffers i).dsIndex + ((s.streamBuffers i).dsCount - 1)) := by
    intro k hk hne
    have := (h.placed i hi).2.2.trans (ringSpan_le _ _)
    exact e.place_ne (by omega) (by omega)
  refine ⟨h.max, h.free, h.placed, h.apart, fun l hl k hk => ?_⟩
  have hkept := h.kept l hl k hk
  cases hstream : e.dmaStream with
  | false =>
      have hrefused : ∀ a b, dmaXlnxStreamLink e r.memory a b = (r.memory, -EPERM) := by
        intro a b
        simp [dmaXlnxStreamLink, hstream]
      simp only [chainDescriptors, hrefused]
      rw [if_pos (by decide)]
      exact hkept
  | true =>
      have hlink := streamLink_eq r.memory
        ((s.streamBuffers i).dsIndex + ((s.streamBuffers i).dsCount - 1))
        (s.streamBuffers j).dsIndex hstream
      rw [Nat.mod_eq_of_lt hj₁] at hlink
      simp only [chainDescriptors, hlast, h.max, hlink]
      rw [if_neg (by decide)]
      dsimp only
      rcases eq_or_ne l i with rfl | hli
      · rw [Function.update_self]
        rcases eq_or_ne k ((s.streamBuffers l).dsCount - 1) with rfl | hkl
        · have hend : ¬ (s.streamBuffers l).dsCount - 1 + 1 < (s.streamBuffers l).dsCount := by omega
          simp only [Function.update_self, hkept, if_neg hend]
        · have hmore : k + 1 < (s.streamBuffers l).dsCount := by omega
          rw [Function.update_of_ne (hround k hk hkl), hkept]
          simp only [if_pos hmore]
      · rw [Function.update_of_ne (h.disjoint hl hi hli hk (by omega)), Function.update_of_ne hli]
        exact hkept

/-- **A link** keeps the ring if there is room. -/
lemma RingInv.link (h : RingInv e s r) {i j : StreamIndex}
    (hroom : s.engineState ≠ .error → (s.streamBuffers i).Linkable → LinkFits pages s i j) :
    RingInv e (dmaOpsBufferLink (engineHardware hw e pages) s i j).1
      (linkDescriptors e pages (engineHardware hw e pages) s i j r) := by
  rw [dmaOpsBufferLink, linkDescriptors]
  by_cases herror : s.engineState = .error
  · rw [if_pos herror, if_pos herror]
    exact h
  rw [if_neg herror, if_neg herror]
  by_cases hi : (s.streamBuffers i).Linkable
  · obtain ⟨hboth, hfits⟩ := hroom herror hi
    rw [if_neg (not_not.mpr hi), if_neg (not_not.mpr hi)]
    rcases hbuild : dmaOpsBufferBuild (engineHardware hw e pages) s i with ⟨t, ok⟩
    have hlinks := (build_spec hi hbuild).1
    obtain ⟨ht, hothers, hspan, hchain⟩ := h.build hi
      (fun k hk => (Nat.add_le_add_left (Nat.le_add_right _ _) _).trans (hfits k hk)) hbuild
    cases ok with
    | false => exact ht
    | true =>
        simp only
        by_cases hj : (t.streamBuffers j).Linkable
        · rw [if_neg (not_not.mpr hj), if_neg (not_not.mpr hj)]
          rcases hbuild' : dmaOpsBufferBuild (engineHardware hw e pages) t j with ⟨u, ok⟩
          have hroom' : ∀ k, (t.streamBuffers k).InChain →
              t.span k + newDescriptors pages t j ≤ streamMaxDescriptors := by
            intro k hk
            rcases eq_or_ne j i with rfl | hji
            · have hnone : newDescriptors pages t j = 0 :=
                if_neg fun hnew => Bool.false_ne_true (hnew.2.1.symm.trans (hchain rfl).2)
              rw [hnone]
              exact ringSpan_le _ _
            · have hsame : newDescriptors pages t j = newDescriptors pages s j := by
                rw [newDescriptors, newDescriptors, hothers j hji]
              rw [if_neg hji] at hboth
              rw [hsame]
              rcases hspan k hk with hle | ⟨hk', hle⟩
              · omega
              · have hfit := hfits k hk'
                rw [if_neg hji] at hfit
                omega
          obtain ⟨hu, hothers', -, hchain'⟩ := ht.build hj hroom' hbuild'
          cases ok with
          | false => exact hu
          | true =>
              simp only
              rcases eq_or_ne i j with rfl | hij
              · rw [if_neg fun hne => hne.1 rfl, if_neg (not_not.mpr rfl)]
                exact hu
              · have hi' : (u.streamBuffers i).InChain := by
                  rw [hothers' i hij]
                  exact hchain rfl
                have hchained := hu.chain hi' (hchain' rfl)
                rw [if_pos hij]
                split_ifs
                · have hfailed : Quiet u { u with engineState := .error } :=
                    .of_buffers rfl rfl rfl
                  exact hchained.quiet hfailed
                · exact hchained
        · rw [if_pos hj, if_pos hj]
          exact ht
  · rw [if_pos hi, if_pos hi]
    exact h

/-- The chain of a slot, from the descriptors as they were built. -/
lemma RingInv.chainIntact (h : RingInv e s r) {i : StreamIndex}
    (hi : (s.streamBuffers i).InChain) : ChainIntact e s r i := by
  obtain ⟨-, hpos, -⟩ := h.placed i hi
  have hkept := h.kept i hi
  refine ⟨hkept, ?_⟩
  generalize (s.streamBuffers i).dsIndex = first at *
  generalize (s.streamBuffers i).dsCount = n at *
  have hnext : ∀ k, k < n → (r.memory (e.place (first + k))).llNextAddress =
      if k + 1 < n then e.place (first + (k + 1)) else e.place (r.follower i) := by
    intro k hk
    rw [hkept k hk]
  have hvisit : ∀ k, k < n →
      (fun a => (r.memory a).llNextAddress)^[k] (e.place first) = e.place (first + k) := by
    intro k
    induction k with
    | zero => exact fun _ => rfl
    | succ k ih =>
        intro hk
        rw [Function.iterate_succ_apply', ih (by omega)]
        exact (hnext k (by omega)).trans (if_pos hk)
  obtain ⟨m, rfl⟩ : ∃ m, n = m + 1 := ⟨n - 1, by omega⟩
  rw [List.range_succ, List.map_append, List.map_singleton, Function.iterate_succ_apply',
    hvisit m (Nat.lt_succ_self m)]
  congr 1
  · exact List.map_congr_left fun k hk => hvisit k (List.mem_range.mp hk)
  · exact congrArg (fun a => [a]) ((hnext m (Nat.lt_succ_self m)).trans (if_neg (by omega)))

end Ring

/-! ### Runs -/

/-- A stream that was enabled, with descriptors of any contents. -/
def streamDmaStart (hw : StreamHardware) (initAdvance : ℕ) (r : DescriptorRing) : StreamDma where
  stream := streamEnable hw (streamConfigure initAdvance streamMaxDescriptors)
  ring := r

/-- The descriptors of the chain are intact: those of the buffers that are queued, linked and still to
be completed. What a buffer had before or after that is not looked at. -/
def RingIntact (e : DescriptorPages) (d : StreamDma) : Prop :=
  ∀ i, (d.stream.streamBuffers i).InChain → ChainIntact e d.stream d.ring i

/-- What every call keeps. -/
structure StreamDmaInv (e : DescriptorPages) (d : StreamDma) : Prop where
  slots : SlotInv d.stream
  ring : RingInv e d.stream d.ring

lemma StreamDmaInv.step {e : DescriptorPages} {d : StreamDma} (h : StreamDmaInv e d)
    {call : DmaCall} (hok : DmaStepOk e d call) : StreamDmaInv e (dmaStep e d call) := by
  refine ⟨streamStep_slots h.slots _, ?_⟩
  have hlinks := streamStep_links h.slots (engineHardware call.hw e call.pages) call.op
  rw [DmaStepOk] at hok
  simp only [dmaStep]
  cases hcall : linkCall (engineHardware call.hw e call.pages) d.stream call.op with
  | none =>
      rw [hcall] at hlinks
      exact h.ring.quiet hlinks
  | some link =>
      obtain ⟨s, i, j⟩ := link
      rw [hcall] at hlinks
      exact ((h.ring.quiet hlinks.1).link (hok s i j hcall)).quiet hlinks.2

lemma streamDmaStart_inv (e : DescriptorPages) (hw : StreamHardware) (initAdvance : ℕ)
    (r : DescriptorRing) : StreamDmaInv e (streamDmaStart hw initAdvance r) := by
  have hconfigure : RingInv e (streamConfigure initAdvance streamMaxDescriptors) r := by
    have hnone : ∀ i, ¬ ((streamConfigure initAdvance streamMaxDescriptors).streamBuffers
        i).InChain := fun i hi => Bool.false_ne_true hi.2
    exact ⟨rfl, streamMaxDescriptors_pos, fun i hi => absurd hi (hnone i),
      fun i _ hi => absurd hi (hnone i), fun i hi => absurd hi (hnone i)⟩
  refine ⟨streamEnable_slots hw initAdvance streamMaxDescriptors, ?_⟩
  exact hconfigure.quiet ((release_quiet none).trans (.of_buffers rfl rfl rfl))

/-- **The chain is intact in every run** whose calls have room for the descriptors they build. -/
theorem descriptors_intact (e : DescriptorPages) (hw : StreamHardware) (initAdvance : ℕ)
    (r : DescriptorRing) {d : StreamDma}
    (hrun : RunsTo (dmaStep e) (DmaStepOk e) (streamDmaStart hw initAdvance r) d) :
    RingIntact e d := by
  have hinv := hrun.invariant (streamDmaStart_inv e hw initAdvance r) fun _ _ hok h => h.step hok
  exact fun i hi => hinv.ring.chainIntact hi

/-! ### Filling the ring -/

/-- The pages of a playout engine. -/
def ringPages : DescriptorPages where
  dmaC2H := false
  dmaStream := true
  descriptorPhysical := fun p => (p + 1) * PAGE_SIZE
  aligned := fun _ _ => Dvd.intro_left _ rfl
  distinct := fun p q _ _ h => Nat.add_right_cancel (Nat.mul_right_cancel (by decide) h)

/-- A mapped buffer of `n` pages, one segment each. -/
def pagedBuffer (n : ℕ) : StreamPageBuffer where
  sgMap := true
  userSize := UInt32.ofNat (n * PAGE_SIZE)
  segments := List.replicate n ⟨0, UInt32.ofNat PAGE_SIZE⟩

/-- Filling a buffer page by page. -/
lemma segmentsUsed_replicate {n : ℕ} (hn : n < 2 ^ 20) (a : UInt64) (m k : ℕ) (hk : k + m = n) :
    segmentsUsed (UInt32.ofNat (n * PAGE_SIZE)) (UInt32.ofNat (k * PAGE_SIZE))
      (List.replicate m ⟨a, UInt32.ofNat PAGE_SIZE⟩) = m := by
  induction m generalizing k with
  | zero => rfl
  | succ m ih =>
      have hadd : UInt32.ofNat (k * PAGE_SIZE) + UInt32.ofNat PAGE_SIZE =
          UInt32.ofNat ((k + 1) * PAGE_SIZE) := by
        rw [Nat.add_mul, Nat.one_mul, UInt32.ofNat_add]
      have hlt : ¬ UInt32.ofNat (k * PAGE_SIZE) ≥ UInt32.ofNat (n * PAGE_SIZE) := by
        rw [ge_iff_le, UInt32.le_iff_toNat_le, UInt32.toNat_ofNat', UInt32.toNat_ofNat']
        simp only [PAGE_SIZE]
        omega
      have hfits : ¬ UInt32.ofNat ((k + 1) * PAGE_SIZE) > UInt32.ofNat (n * PAGE_SIZE) := by
        rw [gt_iff_lt, UInt32.lt_iff_toNat_lt, UInt32.toNat_ofNat', UInt32.toNat_ofNat']
        simp only [PAGE_SIZE]
        omega
      rw [List.replicate_succ, segmentsUsed, if_neg hlt, descTransferSize]
      dsimp only
      rw [hadd, if_neg hfits, hadd, ih (k + 1) (by omega)]

lemma pagedBuffer_descriptors {n : ℕ} (hn : n < 2 ^ 20) : (pagedBuffer n).descriptors = n :=
  segmentsUsed_replicate hn 0 n 0 (Nat.zero_add n)

/-- The driver builds such a buffer if it has a page, and no more than there are descriptors. -/
lemma pagedBuffer_accepted {n : ℕ} (hpos : 0 < n) (hn : n ≤ streamMaxDescriptors) :
    (pagedBuffer n).Accepted := by
  have hsmall : n < 2 ^ 20 := by
    rw [streamMaxDescriptors_eq] at hn
    omega
  refine ⟨rfl, ?_, ?_⟩
  · rw [pagedBuffer, List.length_replicate]
    exact hn
  · rw [pagedBuffer_descriptors hsmall]
    exact hpos

/-- A call on a stream whose buffers have `n` pages each. -/
def pagedCall (n : ℕ) (op : StreamOp) : DmaCall := ⟨workingHardware, fun _ => pagedBuffer n, op⟩

/-- Two buffers are queued and the stream is started; the fourth sync links the second buffer
behind the first. -/
def pagedRun (n : ℕ) : List DmaCall :=
  [pagedCall n (.channelInitialize (some 1)),
    pagedCall n (.bufferQueue (some 1) userBuffer),
    pagedCall n (.bufferQueue (some 1) userBuffer),
    pagedCall n .channelStart,
    pagedCall n .channelAdvance,
    pagedCall n .channelAdvance,
    pagedCall n .channelAdvance,
    pagedCall n .channelAdvance]

/-- Where the runs start. -/
def ringStart : StreamDma := streamDmaStart workingHardware 3 ⟨fun _ => {}, fun _ _ => {}, fun _ => 0⟩

/-- The stream over some calls. -/
lemma dmaStep_foldl (e : DescriptorPages) (calls : List DmaCall) (d : StreamDma) :
    (calls.foldl (dmaStep e) d).stream =
      (calls.map fun call => (engineHardware call.hw e call.pages, call.op)).foldl streamStep
        d.stream := by
  induction calls generalizing d with
  | nil => rfl
  | cons call calls ih => exact ih (dmaStep e d call)

/-- The owner's initialize. -/
lemma initializedRing_eq (n : ℕ) :
    dmaStep ringPages ringStart (pagedCall n (.channelInitialize (some 1))) =
      { stream := { streamConfigure 3 streamMaxDescriptors with
          streamBuffers := fun _ => { released := true }
          streamState := .initialized
          engineState := .initialized
          owner := some 1 }
        ring := ringStart.ring } := by
  have hstream := @initializeEnabled_eq (engineHardware workingHardware ringPages fun _ =>
    pagedBuffer n) 3 streamMaxDescriptors rfl le_rfl
  rw [dmaStep, StreamDma.mk.injEq]
  exact ⟨hstream, rfl⟩

/-- The chain of two small buffers. -/
theorem descriptors_intact_pagedRun :
    RingIntact ringPages ((pagedRun 2).foldl (dmaStep ringPages) ringStart) := by
  have hok : StepsOk (dmaStep ringPages) (DmaStepOk ringPages) ringStart (pagedRun 2) := by
    refine ⟨fun _ _ _ hcall => absurd hcall.symm (Option.some_ne_none _), ?_⟩
    rw [initializedRing_eq]
    refine ⟨?_, ?_, ?_, ?_, ?_, ?_, ?_, trivial⟩
    all_goals decide +kernel
  exact descriptors_intact ringPages workingHardware 3 _ (RunsTo.foldl hok)

/-- What the engine of a paged run answers. -/
def pagedHardware (n : ℕ) : StreamHardware :=
  { workingHardware with
    dmaXlnxStreamBuild := fun _ => n
    dmaXlnxStreamLink := fun _ _ => 0 }

lemma engineHardware_paged {n : ℕ} (hpos : 0 < n) (hn : n ≤ streamMaxDescriptors) :
    engineHardware workingHardware ringPages (fun _ => pagedBuffer n) = pagedHardware n := by
  have hsmall : n < 2 ^ 20 := by
    rw [streamMaxDescriptors_eq] at hn
    omega
  obtain ⟨hbuild, hlink⟩ := engineHardware_answers workingHardware ringPages fun _ => pagedBuffer n
  have hbuild' : (engineHardware workingHardware ringPages fun _ =>
      pagedBuffer n).dmaXlnxStreamBuild = fun _ => (n : Int) := by
    funext i
    rw [hbuild i, if_pos (pagedBuffer_accepted hpos hn), pagedBuffer_descriptors hsmall]
  have hlink' : (engineHardware workingHardware ringPages fun _ =>
      pagedBuffer n).dmaXlnxStreamLink = fun _ _ => 0 := by
    funext i j
    exact hlink i j
  rw [pagedHardware, ← hbuild', ← hlink']
  rfl

/-- A link from a slot that has its descriptors to one that has none leaves the other one to be
followed by itself. -/
lemma linkDescriptors_follower {e : DescriptorPages} {hw : StreamHardware} {s : Ntv2Stream}
    {r : DescriptorRing} {pages : StreamIndex → StreamPageBuffer} {i j : StreamIndex}
    (hfree : s.strDescriptorIndex < streamMaxDescriptors) (herror : s.engineState ≠ .error)
    (hi : (s.streamBuffers i).InChain) (hj : (s.streamBuffers j).Linkable)
    (hl : (s.streamBuffers j).linked = false) (hij : i ≠ j) (hacc : (pages j).Accepted) :
    (linkDescriptors e pages hw s i j r).follower j = s.strDescriptorIndex := by
  have hbuilt : (buildDescriptors e pages s j r).follower j = s.strDescriptorIndex := by
    obtain ⟨memory, heq, -⟩ := (streamBuild_spec e r.memory (pages j) s.strDescriptorIndex).2 hacc
    rw [Nat.mod_eq_of_lt hfree] at heq
    have hpos := hacc.descriptors
    simp only [buildDescriptors, hl, heq, Bool.false_eq_true, if_false]
    rw [if_neg (by omega)]
    exact Function.update_self _ _ _
  have hkeep : dmaOpsBufferBuild hw s i = (s, true) := by
    rw [dmaOpsBufferBuild, if_pos hi.2]
  have hsame : buildDescriptors e pages s i r = r := by
    rw [buildDescriptors, if_pos hi.2]
  rw [linkDescriptors, if_neg herror, if_neg (not_not.mpr hi.1), hsame, hkeep]
  simp only [if_neg (not_not.mpr hj), if_pos hij]
  rcases dmaOpsBufferBuild hw s j with ⟨t, ok⟩
  cases ok with
  | false => exact hbuilt
  | true =>
      simp only [chainDescriptors]
      split_ifs
      · exact hbuilt
      · exact (Function.update_of_ne hij.symm _ _).trans hbuilt

/-- The buffers of a paged run that need more than half of the ring each. -/
def overHalf : ℕ := 262145

/-- The stream over the first calls of a paged run. -/
lemma pagedRun_stream (k : ℕ) :
    (((pagedRun overHalf).take (k + 1)).foldl (dmaStep ringPages) ringStart).stream =
      (((pagedRun overHalf).take (k + 1)).tail.map fun call =>
        (pagedHardware overHalf, call.op)).foldl streamStep
          { streamConfigure 3 streamMaxDescriptors with
            streamBuffers := fun _ => { released := true }
            streamState := .initialized
            engineState := .initialized
            owner := some 1 } := by
  have hpaged : ∀ call ∈ pagedRun overHalf, engineHardware call.hw ringPages call.pages =
      pagedHardware overHalf := by
    have hfill : engineHardware workingHardware ringPages (fun _ => pagedBuffer overHalf) =
        pagedHardware overHalf := engineHardware_paged (by decide) (by decide)
    simp [pagedRun, pagedCall, hfill]
  rw [pagedRun, List.take_succ_cons, List.foldl_cons, initializedRing_eq, dmaStep_foldl]
  congr 1
  refine List.map_congr_left fun call hcall => ?_
  rw [hpaged call (List.mem_cons_of_mem _ (List.mem_of_mem_take hcall))]

/-- Where the second buffer of the run is linked: behind the first, at the next free descriptor. -/
lemma pagedRun_link :
    ((pagedRun overHalf).foldl (dmaStep ringPages) ringStart).ring.follower 1 = overHalf := by
  obtain ⟨d, hd⟩ : ∃ d, d = ((pagedRun overHalf).take 7).foldl (dmaStep ringPages) ringStart :=
    ⟨_, rfl⟩
  have hlast : (pagedRun overHalf).foldl (dmaStep ringPages) ringStart =
      dmaStep ringPages d (pagedCall overHalf .channelAdvance) := by
    have hsplit : ∀ n, pagedRun n = (pagedRun n).take 7 ++ [pagedCall n .channelAdvance] :=
      fun _ => rfl
    rw [hsplit, List.foldl_append, hd]
    rfl
  have hcall : (linkCall (pagedHardware overHalf) d.stream .channelAdvance).map (fun link =>
      (link.2, link.1.strDescriptorIndex, decide (link.1.engineState ≠ .error),
        decide (link.1.streamBuffers 0).InChain, decide (link.1.streamBuffers 1).Linkable,
        (link.1.streamBuffers 1).linked)) =
      some ((0, 1), overHalf, true, true, true, false) := by
    rw [hd, pagedRun_stream 6]
    decide +kernel
  obtain ⟨⟨s, i, j⟩, hlink, hfacts⟩ := Option.map_eq_some_iff.mp hcall
  simp only [Prod.mk.injEq, decide_eq_true_eq] at hfacts
  obtain ⟨⟨rfl, rfl⟩, hfree, herror, hfrom, hto, hlinked⟩ := hfacts
  have hpaged : engineHardware workingHardware ringPages (fun _ => pagedBuffer overHalf) =
      pagedHardware overHalf := engineHardware_paged (by decide) (by decide)
  have hroom : s.strDescriptorIndex < streamMaxDescriptors := by
    rw [hfree]
    decide
  have hfollower := @linkDescriptors_follower ringPages (pagedHardware overHalf) s d.ring
    (fun _ => pagedBuffer overHalf) 0 1 hroom herror hfrom hto hlinked (by decide)
    (pagedBuffer_accepted (by decide) (by decide))
  rw [hlast, dmaStep]
  simp only [pagedCall, hpaged, hlink]
  rw [hfollower, hfree]

/-- **Two buffers of 1 GiB and a page**: the descriptors of the second are written round the ring
over those of the first, which the engine is running through. -/
theorem next_overwrites_active :
    ¬ ∀ d, RunsTo (dmaStep ringPages) (fun _ call => ∀ i, (call.pages i).Accepted) ringStart d →
      RingIntact ringPages d := by
  intro h
  have haccepted : (pagedBuffer overHalf).Accepted := pagedBuffer_accepted (by decide) (by decide)
  have hintact := h ((pagedRun overHalf).foldl (dmaStep ringPages) ringStart)
    (RunsTo.foldl (by simp [pagedRun, pagedCall, StepsOk, haccepted]))
  have hfollower := pagedRun_link
  obtain ⟨hchain, hindex, hcount, hchain', hindex', hcount'⟩ :
      (((pagedRun overHalf).foldl (dmaStep ringPages) ringStart).stream.streamBuffers 0).InChain ∧
      (((pagedRun overHalf).foldl (dmaStep ringPages) ringStart).stream.streamBuffers 0).dsIndex = 0 ∧
      (((pagedRun overHalf).foldl (dmaStep ringPages) ringStart).stream.streamBuffers 0).dsCount =
        overHalf ∧
      (((pagedRun overHalf).foldl (dmaStep ringPages) ringStart).stream.streamBuffers 1).InChain ∧
      (((pagedRun overHalf).foldl (dmaStep ringPages) ringStart).stream.streamBuffers 1).dsIndex =
        overHalf ∧
      (((pagedRun overHalf).foldl (dmaStep ringPages) ringStart).stream.streamBuffers 1).dsCount =
        overHalf := by
    have hstream := pagedRun_stream 7
    rw [List.take_of_length_le (by decide)] at hstream
    rw [hstream]
    decide +kernel
  generalize (pagedRun overHalf).foldl (dmaStep ringPages) ringStart = d at *
  -- the last descriptor of the second buffer is the second of the first
  have hsecond := (hintact 0 hchain).kept 1 (by rw [hcount]; decide)
  have hlast := (hintact 1 hchain').kept (overHalf - 1) (by rw [hcount']; decide)
  have hsame : ringPages.place (overHalf + (overHalf - 1)) = ringPages.place (0 + 1) := by
    rw [← ringPages.place_mod]
    rfl
  rw [hindex, hcount] at hsecond
  rw [hindex', hcount', hsame, hsecond] at hlast
  have hnext := congrArg XlnxDescriptor.llNextAddress hlast
  rw [if_pos (by decide), if_neg (by decide), hfollower] at hnext
  exact absurd (ringPages.place_inj hnext) (by decide)

end LibAjaNtv2
