import Mathlib.Tactic
import LibAjaNtv2.Lib.BitField
import LibAjaNtv2.Router.Connections

/-!
Signal routing through the crosspoint registers.

* `slotByte`: the byte of a register that selects an output;
* `slotByte_writes_of_mem`, `slotByte_writes_of_notMem`: the bytes after writes of distinct slots;
* `connectionsFromRegs_eq`: what reading the registers finds;
* `RoutingSurvives`: the writes of a map, in any order, and what is read back;
* `routing_survives`: **it holds for every connection map and all register contents**.
-/

namespace LibAjaNtv2

/-- The byte of a register that selects an output. -/
def slotByte (regs : NTV2Registers) (slot : ℕ × ℕ) : BitVec 8 :=
  (regs slot.1).extractLsb' (8 * slot.2) 8

/-- The masks cover the bytes, and the shifts are where the bytes start. -/
lemma isMask_byte {n : ℕ} (hn : n < 4) :
    sSignalRouterRegShifts n = 8 * n ∧ BitField.IsMask (sSignalRouterRegMasks n) (8 * n) 8 := by
  refine ⟨?_, by omega, ?_⟩
  · interval_cases n <;> rfl
  · interval_cases n <;> decide

lemma byteMask_ne {n : ℕ} (hn : n < 4) : sSignalRouterRegMasks n ≠ 0xFFFFFFFF := by
  interval_cases n <;> decide

/-! ### Writes -/

/-- A write of an output to a slot. -/
structure WritesSlot (w : NTV2RegInfo) (slot : ℕ × ℕ) : Prop where
  registerNumber : w.registerNumber = slot.1
  registerMask : w.registerMask = sSignalRouterRegMasks slot.2
  registerShift : w.registerShift = sSignalRouterRegShifts slot.2
  ndx : slot.2 < 4
  value : w.registerValue.toNat < 256

/-- A write changes its own slot only. -/
lemma slotByte_write {w : NTV2RegInfo} {slot : ℕ × ℕ} (hw : WritesSlot w slot)
    (regs : NTV2Registers) {other : ℕ × ℕ} (hother : other.2 < 4) :
    slotByte (writeRegister regs w) other =
      if other = slot then w.registerValue.setWidth 8 else slotByte regs other := by
  obtain ⟨hshift, hmask⟩ := isMask_byte hw.ndx
  have hput : writeRegister regs w slot.1 = BitField.put (regs slot.1) w.registerValue
      (sSignalRouterRegMasks slot.2) (8 * slot.2) := by
    rw [writeRegister, hw.registerNumber, Function.update_self, hw.registerMask,
      if_neg (byteMask_ne hw.ndx), hw.registerShift, hshift, BitField.put]
  rw [slotByte, slotByte]
  by_cases hreg : other.1 = slot.1
  · rw [hreg, hput]
    by_cases hndx : other.2 = slot.2
    · rw [if_pos (Prod.ext hreg hndx), hndx, BitField.extract_put_self hmask hw.value]
    · rw [if_neg fun heq => hndx (congrArg Prod.snd heq),
        BitField.extract_put hmask hw.value (by omega) (by omega)]
  · have hsame : writeRegister regs w other.1 = regs other.1 := by
      rw [writeRegister, hw.registerNumber, Function.update_of_ne hreg]
    rw [hsame, if_neg fun heq => hreg (congrArg Prod.fst heq)]

/-- Writes to other slots leave a slot as it was. -/
lemma slotByte_writes_of_notMem {ws : List NTV2RegInfo} (slotOf : NTV2RegInfo → ℕ × ℕ)
    (hws : ∀ w ∈ ws, WritesSlot w (slotOf w)) (regs : NTV2Registers) {slot : ℕ × ℕ}
    (hslot : slot.2 < 4) (hnot : ∀ w ∈ ws, slotOf w ≠ slot) :
    slotByte (ws.foldl writeRegister regs) slot = slotByte regs slot := by
  induction ws generalizing regs with
  | nil => rfl
  | cons w ws ih =>
      have hhead : WritesSlot w (slotOf w) := hws w List.mem_cons_self
      have hne : slot ≠ slotOf w := fun heq => hnot w List.mem_cons_self heq.symm
      rw [List.foldl_cons, ih (fun v hv => hws v (List.mem_cons_of_mem w hv)) _
        fun v hv => hnot v (List.mem_cons_of_mem w hv), slotByte_write hhead regs hslot,
        if_neg hne]

/-- After writes to distinct slots each slot holds what was written to it. -/
lemma slotByte_writes_of_mem {ws : List NTV2RegInfo} (slotOf : NTV2RegInfo → ℕ × ℕ)
    (hws : ∀ w ∈ ws, WritesSlot w (slotOf w))
    (hdistinct : ws.Pairwise fun w v => slotOf w ≠ slotOf v) (regs : NTV2Registers)
    {w : NTV2RegInfo} (hw : w ∈ ws) :
    slotByte (ws.foldl writeRegister regs) (slotOf w) = w.registerValue.setWidth 8 := by
  induction ws generalizing regs with
  | nil => cases hw
  | cons v ws ih =>
      obtain ⟨hhead, hrest⟩ := List.pairwise_cons.mp hdistinct
      have hws' := fun u (hu : u ∈ ws) => hws u (List.mem_cons_of_mem v hu)
      have hndx := (hws w hw).ndx
      rw [List.foldl_cons]
      rcases List.mem_cons.mp hw with rfl | hw
      · rw [slotByte_writes_of_notMem slotOf hws' _ hndx fun u hu => (hhead u hu).symm,
          slotByte_write (hws w List.mem_cons_self) regs hndx, if_pos rfl]
      · exact ih hws' hrest (writeRegister regs v) hw

/-! ### The writes of a connection map -/

/-- The write of a connection. -/
lemma registerWrite_eq {i : NTV2InputXptID} {slot : ℕ × ℕ} (o : NTV2OutputXptID)
    (h : getXptRegNumAndMaskIndex i = some slot) :
    registerWrite (i, o) = some ⟨slot.1, o, sSignalRouterRegMasks slot.2,
      sSignalRouterRegShifts slot.2⟩ := by
  obtain ⟨-, hndx, hpos, -⟩ := slot_spec h
  rw [registerWrite, h]
  dsimp only
  rw [if_neg (by omega)]

/-- The slot that a write of a byte goes to. -/
def writeSlot (w : NTV2RegInfo) : ℕ × ℕ := (w.registerNumber, w.registerShift / 8)

/-- A write of a connection goes to the slot of its input. -/
lemma registerWrite_spec {i : NTV2InputXptID} {o : NTV2OutputXptID} {w : NTV2RegInfo}
    (hw : registerWrite (i, o) = some w) (ho : o.toNat < 256) :
    getXptRegNumAndMaskIndex i = some (writeSlot w) ∧ WritesSlot w (writeSlot w) ∧
      w.registerValue = o := by
  cases hslot : getXptRegNumAndMaskIndex i with
  | none =>
      rw [registerWrite, hslot] at hw
      cases hw
  | some slot =>
      rw [registerWrite_eq o hslot] at hw
      obtain rfl := Option.some.inj hw
      obtain ⟨-, hndx, -, -⟩ := slot_spec hslot
      have hslot' : writeSlot ⟨slot.1, o, sSignalRouterRegMasks slot.2,
          sSignalRouterRegShifts slot.2⟩ = slot := by
        rw [writeSlot, (isMask_byte hndx).1, Nat.mul_div_cancel_left _ (by decide)]
      rw [hslot']
      exact ⟨rfl, ⟨rfl, rfl, rfl, hndx, ho⟩, rfl⟩

/-- Every input of the map has a slot. -/
def NTV2XptConnections.HasSlots (c : NTV2XptConnections) : Prop :=
  ∀ i o, c.find i = some o → (getXptRegNumAndMaskIndex i).isSome

/-- Every output of the map fits into a byte. -/
def NTV2XptConnections.OutputsFit (c : NTV2XptConnections) : Prop :=
  ∀ i o, c.find i = some o → o.toNat < 256

/-- The inputs with a slot have different ones. -/
def DistinctSlots (inputs : List NTV2InputXptID) : Prop :=
  ∀ i ∈ inputs, ∀ j ∈ inputs, (getXptRegNumAndMaskIndex i).isSome →
    getXptRegNumAndMaskIndex i = getXptRegNumAndMaskIndex j → i = j

/-- The writes of a map are those of its connections, in order. -/
lemma getRegisterWrites_eq {c : NTV2XptConnections} (hslots : c.HasSlots) :
    getRegisterWrites c = (true, c.entries.filterMap registerWrite) := by
  have hwrites : ∀ entries : List (NTV2InputXptID × NTV2OutputXptID),
      (∀ e ∈ entries, (registerWrite e).isSome) →
        entries.mapM registerWrite = some (entries.filterMap registerWrite) := by
    intro entries
    induction entries with
    | nil => exact fun _ => rfl
    | cons e entries ih =>
        intro hall
        obtain ⟨w, hw⟩ := Option.isSome_iff_exists.mp (hall e List.mem_cons_self)
        have hrest := ih fun e' he' => hall e' (List.mem_cons_of_mem e he')
        simp [List.mapM_cons, hw, hrest]
  rw [getRegisterWrites, hwrites c.entries fun e he => ?_]
  obtain ⟨slot, hslot⟩ := Option.isSome_iff_exists.mp (hslots e.1 e.2 (c.mem_entries_iff.mp he))
  rw [show e = (e.1, e.2) from rfl, registerWrite_eq e.2 hslot]
  rfl

/-- The writes of a map go to different slots. -/
lemma pairwise_writeSlot {c : NTV2XptConnections} {inputs : List NTV2InputXptID}
    (hfit : c.OutputsFit) (hsub : ∀ i o, c.find i = some o → i ∈ inputs)
    (hdistinct : DistinctSlots inputs) :
    (c.entries.filterMap registerWrite).Pairwise fun w v => writeSlot w ≠ writeSlot v := by
  rw [List.pairwise_filterMap]
  refine (List.pairwise_map.mp c.nodup).imp_of_mem ?_
  intro e f he hf hne w hw v hv heq
  have hfind := c.mem_entries_iff.mp he
  have hfind' := c.mem_entries_iff.mp hf
  obtain ⟨hslot, -, -⟩ := registerWrite_spec hw (hfit _ _ hfind)
  obtain ⟨hslot', -, -⟩ := registerWrite_spec hv (hfit _ _ hfind')
  refine hne (hdistinct e.1 (hsub _ _ hfind) f.1 (hsub _ _ hfind') (by rw [hslot]; rfl) ?_)
  rw [hslot, hslot', heq]

/-! ### Reading back -/

/-- The reads of the routing registers of a set of inputs. -/
def routingReads (inputs : List NTV2InputXptID) (regs : NTV2Registers) : List NTV2RegInfo :=
  readRegisters regs (getAllRoutingRegInfos inputs)

/-- Looking for a number in a list of numbers. -/
lemma find?_beq (l : List ℕ) (r : ℕ) :
    l.find? (fun q => q == r) = if r ∈ l then some r else none := by
  induction l with
  | nil => rfl
  | cons q l ih =>
      rw [List.find?_cons]
      by_cases hq : q = r
      · simp [hq]
      · simp [beq_false_of_ne hq, ih, Ne.symm hq]

/-- The registers that the inputs have slots in, each once and in order. -/
def routingNumbers (inputs : List NTV2InputXptID) : List ℕ :=
  ((inputs.filterMap getXptRegNumAndMaskIndex).map Prod.fst).toFinset.sort (· ≤ ·)

lemma mem_routingNumbers {inputs : List NTV2InputXptID} {r : ℕ} : r ∈ routingNumbers inputs ↔
    ∃ i ∈ inputs, ∃ slot, getXptRegNumAndMaskIndex i = some slot ∧ slot.1 = r := by
  rw [routingNumbers, Finset.mem_sort, List.mem_toFinset, List.mem_map]
  constructor
  · rintro ⟨slot, hslot, heq⟩
    obtain ⟨i, hi, hslot⟩ := List.mem_filterMap.mp hslot
    exact ⟨i, hi, slot, hslot, heq⟩
  · rintro ⟨i, hi, slot, hslot, heq⟩
    exact ⟨slot, List.mem_filterMap.mpr ⟨i, hi, hslot⟩, heq⟩

/-- Each of these registers is read whole. -/
lemma routingReads_eq (inputs : List NTV2InputXptID) (regs : NTV2Registers) :
    routingReads inputs regs =
      (routingNumbers inputs).map fun r => ⟨r, regs r, 0xFFFFFFFF, 0⟩ := by
  rw [routingReads, readRegisters, getAllRoutingRegInfos, List.map_map, routingNumbers]
  refine List.map_congr_left fun r _ => ?_
  have hwhole : (regs r &&& 0xFFFFFFFF) >>> 0 = regs r := by
    rw [show (0xFFFFFFFF : BitVec 32) = BitVec.allOnes 32 from rfl, BitVec.and_allOnes]
    rfl
  rw [Function.comp_apply, hwhole]

/-- The read of the register of an input, when it has one. -/
lemma find_routingReads {inputs : List NTV2InputXptID} (regs : NTV2Registers) {i : NTV2InputXptID}
    (hi : i ∈ inputs) :
    findFirstMatchingRegisterNumber (crosspointSelectGroup i).1 (routingReads inputs regs) =
      (getXptRegNumAndMaskIndex i).map fun slot => ⟨slot.1, regs slot.1, 0xFFFFFFFF, 0⟩ := by
  rw [routingReads_eq, findFirstMatchingRegisterNumber, List.find?_map]
  change Option.map _ (List.find? (fun q => q == (crosspointSelectGroup i).1) _) = _
  rw [find?_beq]
  cases hslot : getXptRegNumAndMaskIndex i with
  | none =>
      have hnot : (crosspointSelectGroup i).1 ∉ routingNumbers inputs := by
        rw [mem_routingNumbers]
        rintro ⟨j, -, slot, hj, heq⟩
        obtain ⟨-, -, -, hlt⟩ := slot_spec hj
        rw [heq, crosspointSelectGroup, hslot] at hlt
        exact absurd hlt (by decide)
      rw [if_neg hnot]
      rfl
  | some slot =>
      have hgroup : crosspointSelectGroup i = slot := by
        rw [crosspointSelectGroup, hslot, Option.getD_some]
      have hmem : (crosspointSelectGroup i).1 ∈ routingNumbers inputs :=
        mem_routingNumbers.mpr ⟨i, hi, slot, hslot, by rw [hgroup]⟩
      rw [if_pos hmem, hgroup]
      rfl

/-- What the registers show of an input. -/
def connected (regs : NTV2Registers) (i : NTV2InputXptID) : Option NTV2OutputXptID :=
  (getXptRegNumAndMaskIndex i).bind fun slot =>
    if (slotByte regs slot).setWidth 32 ≠ xptBlack then some ((slotByte regs slot).setWidth 32)
    else none

lemma outputXpt_eq (regs : NTV2Registers) {slot : ℕ × ℕ} (hndx : slot.2 < 4) :
    outputXpt ⟨slot.1, regs slot.1, 0xFFFFFFFF, 0⟩ slot.2 = (slotByte regs slot).setWidth 32 := by
  obtain ⟨hshift, hmask⟩ := isMask_byte hndx
  rw [outputXpt, hshift, BitField.masked_read hmask, slotByte]

/-- Recording a connection adds it, unless it is to black. -/
lemma find_recordConnection (c : NTV2XptConnections) (i j : NTV2InputXptID)
    (o : NTV2OutputXptID) : (recordConnection c i o).find j =
      (c.find j).or (if j = i then (if o ≠ xptBlack then some o else none) else none) := by
  rw [recordConnection]
  split_ifs with hblack hji hji
  · rw [c.find_insert, if_pos hji]
  · rw [c.find_insert, if_neg hji]
  · rw [Option.or_none]
  · rw [Option.or_none]

/-- Resetting one input adds what the registers show of it. -/
lemma find_resetConnection {inputs : List NTV2InputXptID} (regs : NTV2Registers)
    (c : NTV2XptConnections) {i : NTV2InputXptID} (hi : i ∈ inputs) (j : NTV2InputXptID) :
    (resetConnection (routingReads inputs regs) c i).find j =
      (c.find j).or (if j = i then connected regs i else none) := by
  rw [resetConnection, find_routingReads regs hi, connected]
  cases hslot : getXptRegNumAndMaskIndex i with
  | none => simp
  | some slot =>
      obtain ⟨-, hndx, -, -⟩ := slot_spec hslot
      have hgroup : crosspointSelectGroup i = slot := by
        rw [crosspointSelectGroup, hslot, Option.getD_some]
      simp only [Option.map_some, Option.bind_some]
      rw [hgroup, find_recordConnection, outputXpt_eq regs hndx]

/-- Resetting a list of inputs adds what the registers show of them. -/
lemma find_foldl_resetConnection {inputs : List NTV2InputXptID} (regs : NTV2Registers)
    (rest : List NTV2InputXptID) (c : NTV2XptConnections) (hrest : ∀ i ∈ rest, i ∈ inputs)
    (j : NTV2InputXptID) :
    (rest.foldl (resetConnection (routingReads inputs regs)) c).find j =
      (c.find j).or (if j ∈ rest then connected regs j else none) := by
  induction rest generalizing c with
  | nil => simp
  | cons i rest ih =>
      rw [List.foldl_cons, ih _ fun k hk => hrest k (List.mem_cons_of_mem i hk),
        find_resetConnection regs c (hrest i List.mem_cons_self), Option.or_assoc]
      by_cases hji : j = i
      · subst hji
        by_cases hmem : j ∈ rest <;> simp [hmem]
      · by_cases hmem : j ∈ rest <;> simp [hmem, hji]

/-- Registers that are read whole are never refused. -/
lemma connectionsFromRegs_eq {inputs : List NTV2InputXptID} (regs : NTV2Registers)
    (rest : List NTV2InputXptID) (c : NTV2XptConnections) (hrest : ∀ i ∈ rest, i ∈ inputs) :
    connectionsFromRegs (routingReads inputs regs) rest c =
      (true, rest.foldl (resetConnection (routingReads inputs regs)) c) := by
  induction rest generalizing c with
  | nil => rfl
  | cons i rest ih =>
      have hrest' := fun k (hk : k ∈ rest) => hrest k (List.mem_cons_of_mem i hk)
      rw [connectionsFromRegs, List.foldl_cons, resetConnection,
        find_routingReads regs (hrest i List.mem_cons_self)]
      cases hslot : getXptRegNumAndMaskIndex i with
      | none => exact ih c hrest'
      | some slot =>
          have hgroup : crosspointSelectGroup i = slot := by
            rw [crosspointSelectGroup, hslot, Option.getD_some]
          simp only [Option.map_some, hgroup, ne_eq, not_true_eq_false, if_false]
          exact ih _ hrest'

/-! ### The round trip -/

/-- Writing zero to routing registers. -/
lemma foldl_clear (rs : List ℕ) (regs : NTV2Registers) (r : ℕ) :
    (rs.foldl (fun regs r => writeRegister regs ⟨r, 0, 0xFFFFFFFF, 0⟩) regs) r =
      if r ∈ rs then 0 else regs r := by
  induction rs generalizing regs with
  | nil => rfl
  | cons q rs ih =>
      rw [List.foldl_cons, ih]
      by_cases hrq : r = q
      · simp [writeRegister, hrq]
      · simp [writeRegister, hrq]

lemma clearRouting_of_mem (regs : NTV2Registers) {r : ℕ} (hr : r ∈ routingRegisters) :
    clearRouting regs r = 0 := by
  rw [clearRouting, foldl_clear, if_pos hr]

/-- The writes `ws` of the map `c`, on the registers `regs`: after the routing registers were
cleared the inputs read back the map without its connections to black, through either reader;
without the clearing the slots of the map's inputs hold its outputs, and no other byte of any
register changes. -/
structure RoutingSurvives (c : NTV2XptConnections) (inputs : List NTV2InputXptID)
    (regs : NTV2Registers) (ws : List NTV2RegInfo) : Prop where
  accepted : (getConnectionsFromRegs inputs
    (routingReads inputs (ws.foldl writeRegister (clearRouting regs)))).1 = true
  connections : ∀ i, (getConnectionsFromRegs inputs
    (routingReads inputs (ws.foldl writeRegister (clearRouting regs)))).2.find i =
      (c.find i).filter fun o => o ≠ xptBlack
  reset : ∀ i, (resetFromRegisters inputs
    (routingReads inputs (ws.foldl writeRegister (clearRouting regs)))).2.find i =
      (c.find i).filter fun o => o ≠ xptBlack
  written : ∀ i o slot, c.find i = some o → getXptRegNumAndMaskIndex i = some slot →
    slotByte (ws.foldl writeRegister regs) slot = o.setWidth 8
  unchanged : ∀ slot : ℕ × ℕ, slot.2 < 4 →
    (∀ i o, c.find i = some o → getXptRegNumAndMaskIndex i ≠ some slot) →
      slotByte (ws.foldl writeRegister regs) slot = slotByte regs slot

/-- **Routing survives the crosspoint registers.** Of every connection map whose inputs have slots
of their own and whose outputs fit into a byte, and of every set of inputs with distinct slots that
contains those of the map, the writes, in any order, leave registers that read back as the map. -/
theorem routing_survives (c : NTV2XptConnections) (inputs : List NTV2InputXptID)
    (regs : NTV2Registers) (hslots : c.HasSlots) (hfit : c.OutputsFit)
    (hsub : ∀ i o, c.find i = some o → i ∈ inputs) (hdistinct : DistinctSlots inputs) :
    ∃ ws, getRegisterWrites c = (true, ws) ∧
      ∀ ws', ws'.Perm ws → RoutingSurvives c inputs regs ws' := by
  refine ⟨_, getRegisterWrites_eq hslots, fun ws hperm => ?_⟩
  have hmem : ∀ w, w ∈ ws ↔ ∃ i o, c.find i = some o ∧ registerWrite (i, o) = some w := by
    intro w
    rw [hperm.mem_iff, List.mem_filterMap]
    constructor
    · rintro ⟨⟨i, o⟩, he, hw⟩
      exact ⟨i, o, c.mem_entries_iff.mp he, hw⟩
    · rintro ⟨i, o, hfind, hw⟩
      exact ⟨(i, o), c.mem_entries_iff.mpr hfind, hw⟩
  have hwrites : ∀ w ∈ ws, WritesSlot w (writeSlot w) := by
    intro w hw
    obtain ⟨i, o, hfind, hwrite⟩ := (hmem w).mp hw
    exact (registerWrite_spec hwrite (hfit i o hfind)).2.1
  have hpairs : ws.Pairwise fun w v => writeSlot w ≠ writeSlot v :=
    (hperm.pairwise_iff fun h => Ne.symm h).mpr (pairwise_writeSlot hfit hsub hdistinct)
  have hwritten : ∀ regs i o slot, c.find i = some o → getXptRegNumAndMaskIndex i = some slot →
      slotByte (ws.foldl writeRegister regs) slot = o.setWidth 8 := by
    intro regs i o slot hfind hslot
    have hwrite := registerWrite_eq o hslot
    obtain ⟨hslot', -, -⟩ := registerWrite_spec hwrite (hfit i o hfind)
    have hbyte := slotByte_writes_of_mem writeSlot hwrites hpairs regs
      ((hmem _).mpr ⟨i, o, hfind, hwrite⟩)
    rwa [← Option.some.inj (hslot.symm.trans hslot')] at hbyte
  have hunchanged : ∀ regs (slot : ℕ × ℕ), slot.2 < 4 →
      (∀ i o, c.find i = some o → getXptRegNumAndMaskIndex i ≠ some slot) →
        slotByte (ws.foldl writeRegister regs) slot = slotByte regs slot := by
    intro regs slot hndx hnot
    refine slotByte_writes_of_notMem writeSlot hwrites regs hndx fun w hw heq => ?_
    obtain ⟨i, o, hfind, hwrite⟩ := (hmem w).mp hw
    exact hnot i o hfind (heq ▸ (registerWrite_spec hwrite (hfit i o hfind)).1)
  -- What the registers show of an input of the set is what the map has for it.
  have hshown : ∀ i, (if i ∈ inputs then
      connected (ws.foldl writeRegister (clearRouting regs)) i else none) =
        (c.find i).filter fun o => o ≠ xptBlack := by
    intro i
    cases hfind : c.find i with
    | some o =>
        obtain ⟨slot, hslot⟩ := Option.isSome_iff_exists.mp (hslots i o hfind)
        have hwidth : (o.setWidth 8).setWidth 32 = o := by
          have hlt := hfit i o hfind
          apply BitVec.eq_of_toNat_eq
          rw [BitVec.toNat_setWidth, BitVec.toNat_setWidth]
          omega
        rw [if_pos (hsub i o hfind), connected, hslot, Option.bind_some,
          hwritten _ i o slot hfind hslot, hwidth]
        simp [Option.filter]
    | none =>
        rw [Option.filter_none]
        split_ifs with hi
        · cases hslot : getXptRegNumAndMaskIndex i with
          | none => rw [connected, hslot, Option.bind_none]
          | some slot =>
              obtain ⟨hrouting, hndx, -, -⟩ := slot_spec hslot
              have hzero : slotByte (clearRouting regs) slot = 0 := by
                rw [slotByte, clearRouting_of_mem regs hrouting]
                simp
              have hbyte := hunchanged (clearRouting regs) slot hndx fun j o hj heq => by
                have hij := hdistinct i hi j (hsub j o hj) (by rw [hslot]; rfl)
                  (hslot.trans heq.symm)
                rw [hij, hj] at hfind
                cases hfind
              rw [connected, hslot, Option.bind_some, hbyte, hzero]
              rfl
        · rfl
  have hfold : ∀ i, (inputs.foldl (resetConnection
      (routingReads inputs (ws.foldl writeRegister (clearRouting regs)))) .empty).find i =
        (c.find i).filter fun o => o ≠ xptBlack := by
    intro i
    rw [find_foldl_resetConnection _ inputs _ (fun _ h => h), NTV2XptConnections.find_empty,
      Option.none_or, hshown]
  have hread := @connectionsFromRegs_eq inputs (ws.foldl writeRegister (clearRouting regs)) inputs
    .empty fun _ h => h
  refine ⟨?_, fun i => ?_, hfold, hwritten regs, hunchanged regs⟩
  · rw [getConnectionsFromRegs, hread]
  · rw [getConnectionsFromRegs, hread]
    exact hfold i

/-- A frame store drives the first SDI output, and the LUT of the first channel is not driven. -/
def sdiConnections : NTV2XptConnections where
  entries := [(.xptSDIOut1Input, 0x08), (.xptLUT1Input, xptBlack)]
  nodup := by decide

theorem routing_survives_sdi : ∃ ws, getRegisterWrites sdiConnections = (true, ws) ∧
    ∀ ws', ws'.Perm ws → RoutingSurvives sdiConnections
      [.xptLUT1Input, .xptSDIOut1Input, .xptSDIOut2Input] (fun _ => 0xDEADBEEF) ws' := by
  have hentries : ∀ i o, sdiConnections.find i = some o →
      i = .xptSDIOut1Input ∧ o = 0x08 ∨ i = .xptLUT1Input ∧ o = 0 := by
    intro i o h
    simpa [sdiConnections, xptBlack] using sdiConnections.mem_entries_iff.mpr h
  refine routing_survives _ _ _ (fun i o h => ?_) (fun i o h => ?_) (fun i o h => ?_) ?_
  · rcases hentries i o h with ⟨rfl, -⟩ | ⟨rfl, -⟩ <;> decide +kernel
  · rcases hentries i o h with ⟨-, rfl⟩ | ⟨-, rfl⟩ <;> decide
  · rcases hentries i o h with ⟨rfl, -⟩ | ⟨rfl, -⟩ <;> decide
  · unfold DistinctSlots
    decide +kernel

end LibAjaNtv2
