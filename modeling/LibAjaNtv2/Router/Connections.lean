import Mathlib.Tactic
import LibAjaNtv2.Router.XptSelect

/-!
The signal router: connections as register writes, and register reads as connections.

* `NTV2XptConnections`: a map from inputs to outputs, with one entry per input;
* `getRegisterWrites`: the masked register writes of a connection map;
* `writeRegister`, `clearRouting`, `readRegisters`: what the device does with them;
* `getAllRoutingRegInfos`, `getConnectionsFromRegs`, `resetFromRegisters`: reading connections back;
* `find_insert`: **an insertion only adds**.
-/

namespace LibAjaNtv2

/-- A register access: the number, the value, the mask and the shift. -/
structure NTV2RegInfo where
  registerNumber : ℕ
  registerValue : BitVec 32
  registerMask : BitVec 32
  registerShift : ℕ
  deriving DecidableEq, Repr

/-- A connection map: one entry per input. -/
structure NTV2XptConnections where
  entries : List (NTV2InputXptID × NTV2OutputXptID)
  nodup : (entries.map Prod.fst).Nodup

namespace NTV2XptConnections

/-- The output of an input. -/
def find (c : NTV2XptConnections) (i : NTV2InputXptID) : Option NTV2OutputXptID :=
  c.entries.lookup i

/-- The map without connections. -/
def empty : NTV2XptConnections := ⟨[], List.nodup_nil⟩

/-- Insert a connection, unless the input has one. -/
def insert (c : NTV2XptConnections) (i : NTV2InputXptID) (o : NTV2OutputXptID) :
    NTV2XptConnections :=
  if h : i ∈ c.entries.map Prod.fst then c
  else ⟨(i, o) :: c.entries, List.nodup_cons.mpr ⟨h, c.nodup⟩⟩

end NTV2XptConnections

/-! ### Writing -/

/-- The masks of the four bytes of a register. -/
def sSignalRouterRegMasks : ℕ → BitVec 32
  | 0 => 0x000000FF
  | 1 => 0x0000FF00
  | 2 => 0x00FF0000
  | 3 => 0xFF000000
  | _ => 0

/-- The shifts of the four bytes of a register. -/
def sSignalRouterRegShifts : ℕ → ℕ
  | 0 => 0
  | 1 => 8
  | 2 => 16
  | 3 => 24
  | _ => 0

/-- The register write of a connection. -/
def registerWrite (connection : NTV2InputXptID × NTV2OutputXptID) : Option NTV2RegInfo :=
  match getXptRegNumAndMaskIndex connection.1 with
  | none => none
  | some (regNum, ndx) =>
      if regNum = 0 ∨ 3 < ndx then none
      else some ⟨regNum, connection.2, sSignalRouterRegMasks ndx, sSignalRouterRegShifts ndx⟩

/-- The register writes of a connection map. -/
def getRegisterWrites (c : NTV2XptConnections) : Bool × List NTV2RegInfo :=
  match c.entries.mapM registerWrite with
  | some outRegWrites => (true, outRegWrites)
  | none => (false, [])

/-- The registers of a device. -/
abbrev NTV2Registers := ℕ → BitVec 32

/-- A masked write of a register. -/
def writeRegister (regs : NTV2Registers) (w : NTV2RegInfo) : NTV2Registers :=
  Function.update regs w.registerNumber
    (if w.registerMask = 0xFFFFFFFF then w.registerValue
    else w.registerValue <<< w.registerShift ||| (regs w.registerNumber &&& ~~~w.registerMask))

/-- Write zero to every routing register. -/
def clearRouting (regs : NTV2Registers) : NTV2Registers :=
  routingRegisters.foldl (fun regs r => writeRegister regs ⟨r, 0, 0xFFFFFFFF, 0⟩) regs

/-! ### Reading -/

/-- The routing registers of a set of inputs, each once and in order, to be read whole. -/
def getAllRoutingRegInfos (inInputs : List NTV2InputXptID) : List NTV2RegInfo :=
  (((inInputs.filterMap getXptRegNumAndMaskIndex).map Prod.fst).toFinset.sort (· ≤ ·)).map
    fun regNum => ⟨regNum, 0, 0xFFFFFFFF, 0⟩

/-- Read registers, each through its mask and shift. -/
def readRegisters (regs : NTV2Registers) (inOutValues : List NTV2RegInfo) : List NTV2RegInfo :=
  inOutValues.map fun info =>
    { info with registerValue := (regs info.registerNumber &&& info.registerMask) >>>
        info.registerShift }

/-- The first read of a register. -/
def findFirstMatchingRegisterNumber (inRegNum : ℕ) (inRegInfos : List NTV2RegInfo) :
    Option NTV2RegInfo :=
  inRegInfos.find? fun info => info.registerNumber == inRegNum

/-- The register and the byte that a lookup stores, of an input without one too. -/
def crosspointSelectGroup (inInputXpt : NTV2InputXptID) : ℕ × ℕ :=
  (getXptRegNumAndMaskIndex inInputXpt).getD (0xFFFFFFFF, 0xFFFFFFFF)

/-- The output in one byte of a register. -/
def outputXpt (info : NTV2RegInfo) (maskNdx : ℕ) : NTV2OutputXptID :=
  (info.registerValue &&& sSignalRouterRegMasks maskNdx) >>> sSignalRouterRegShifts maskNdx

/-- Record a connection, unless it is to black. -/
def recordConnection (c : NTV2XptConnections) (i : NTV2InputXptID) (o : NTV2OutputXptID) :
    NTV2XptConnections :=
  if o ≠ xptBlack then c.insert i o else c

/-- The connections of the inputs one after the other, until a register was not read whole. -/
def connectionsFromRegs (inRegValues : List NTV2RegInfo) :
    List NTV2InputXptID → NTV2XptConnections → Bool × NTV2XptConnections
  | [], outConnections => (true, outConnections)
  | i :: inputs, outConnections =>
      match findFirstMatchingRegisterNumber (crosspointSelectGroup i).1 inRegValues with
      | none => connectionsFromRegs inRegValues inputs outConnections
      | some info =>
          if info.registerNumber ≠ (crosspointSelectGroup i).1 then (false, outConnections)
          else if info.registerMask ≠ 0xFFFFFFFF then (false, outConnections)
          else if info.registerShift ≠ 0 then (false, outConnections)
          else connectionsFromRegs inRegValues inputs
            (recordConnection outConnections i (outputXpt info (crosspointSelectGroup i).2))

/-- The connections that register reads show. -/
def getConnectionsFromRegs (inInputXptIDs : List NTV2InputXptID)
    (inRegValues : List NTV2RegInfo) : Bool × NTV2XptConnections :=
  connectionsFromRegs inRegValues inInputXptIDs .empty

/-- Record what register reads show of one input. -/
def resetConnection (inRegReads : List NTV2RegInfo) (mConnections : NTV2XptConnections)
    (i : NTV2InputXptID) : NTV2XptConnections :=
  match findFirstMatchingRegisterNumber (crosspointSelectGroup i).1 inRegReads with
  | none => mConnections
  | some info => recordConnection mConnections i (outputXpt info (crosspointSelectGroup i).2)

/-- Reset a router to the connections that register reads show. -/
def resetFromRegisters (inInputs : List NTV2InputXptID) (inRegReads : List NTV2RegInfo) :
    Bool × NTV2XptConnections :=
  (true, inInputs.foldl (resetConnection inRegReads) .empty)

/-! ### The map -/

namespace NTV2XptConnections

@[simp] lemma find_empty (i : NTV2InputXptID) : empty.find i = none := rfl

/-- An entry is what its input finds. -/
lemma mem_entries_iff (c : NTV2XptConnections) {i : NTV2InputXptID} {o : NTV2OutputXptID} :
    (i, o) ∈ c.entries ↔ c.find i = some o := by
  obtain ⟨entries, hnodup⟩ := c
  induction entries with
  | nil => simp [find]
  | cons e entries ih =>
      obtain ⟨hnot, hrest⟩ := List.nodup_cons.mp hnodup
      have hmem := ih hrest
      rw [find] at hmem ⊢
      rw [List.lookup_cons, List.mem_cons]
      by_cases hi : i = e.1
      · subst hi
        have habsent : (e.1, o) ∉ entries := fun h => hnot (List.mem_map.mpr ⟨_, h, rfl⟩)
        rw [beq_self_eq_true]
        simp [habsent, Prod.ext_iff, eq_comm]
      · rw [beq_false_of_ne hi]
        simp [hmem, Prod.ext_iff, hi]

/-- **An insertion only adds**: an input that has an output keeps it. -/
lemma find_insert (c : NTV2XptConnections) (i j : NTV2InputXptID) (o : NTV2OutputXptID) :
    (c.insert i o).find j = (c.find j).or (if j = i then some o else none) := by
  by_cases hmem : i ∈ c.entries.map Prod.fst
  · rw [insert, dif_pos hmem]
    by_cases hji : j = i
    · obtain ⟨e, he, rfl⟩ := List.mem_map.mp hmem
      have hfind : c.find e.1 = some e.2 := c.mem_entries_iff.mp he
      rw [hji, hfind, Option.some_or]
    · rw [if_neg hji, Option.or_none]
  · rw [insert, dif_neg hmem]
    by_cases hji : j = i
    · subst hji
      have hnone : c.find j = none := by
        rw [find, List.lookup_eq_none_iff]
        intro e he
        simpa using fun h : j = e.1 => hmem (List.mem_map.mpr ⟨e, he, h.symm⟩)
      rw [hnone, Option.none_or, if_pos rfl, find, List.lookup_cons_self]
    · rw [if_neg hji, Option.or_none, find, List.lookup_cons, beq_false_of_ne hji]
      rfl

end NTV2XptConnections

end LibAjaNtv2
