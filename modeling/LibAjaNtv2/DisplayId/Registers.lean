import LibAjaNtv2.Lib.Attempt
import LibAjaNtv2.Lib.Wire

/-!
The registers of an EDID and its data blocks (`ntv2displayid.c`).

* `Ntv2DisplayidVideo`, `Ntv2DisplayidAudio`, `Ntv2Displayid`: the status, and the callback;
* `readEdidRegister`, `readEdidRegisters`: one register, and some in a row;
* `getBlockNumberForExtension`, `getEdidSinkProtocol`: the extension, and what it says of the sink;
* `getDatablockHeader`, `getIndexForDatablock`: a data block, and the search for one;
* `getIndexForHdmiDatablock`, `getIndexForHfDatablock`: the search for a vendor's block.

The indices of the source are bytes. They are natural numbers here: a position is read before the
walk moves on from it, so none is beyond 127 + 32, and no walk counts more than 124 blocks.
-/

namespace LibAjaNtv2

/-! ### Codes -/

/-- The tags of data blocks. -/
inductive Ntv2Cea861DatablockTag
  | reserved0
  | audio
  | video
  | vendor
  | speaker
  | vesaDtc
  | reserved6
  | extended
  deriving DecidableEq

namespace Ntv2Cea861DatablockTag

/-- The tag that stands for all of them. -/
def wildcard : Ntv2Cea861DatablockTag := reserved0

/-- The tag of a header: `(reg_val >> 5) & 0x07`. -/
def ofHeader (regVal : Byte) : Ntv2Cea861DatablockTag :=
  match ((regVal >>> 5) &&& 0x07).toNat with
  | 0 => reserved0
  | 1 => audio
  | 2 => video
  | 3 => vendor
  | 4 => speaker
  | 5 => vesaDtc
  | 6 => reserved6
  | _ => extended

end Ntv2Cea861DatablockTag

/-- `ntv2_cea861_datablock_extended_tag_ycbcr420datablock`. -/
def extendedTagYcbcr420datablock : Byte := 14

/-- `ntv2_cea861_datablock_extended_tag_ycbcr420capmap`. -/
def extendedTagYcbcr420capmap : Byte := 15

/-- `ntv2_cea861_datablock_extended_tag_reserved255`. -/
def extendedTagReserved255 : Byte := 255

/-- `ntv2_edid_extension_tag_cea861_hdmi`. -/
def extensionTagCea861Hdmi : Byte := 0x02

/-! ### The status of a sink -/

/-- DVI or HDMI. -/
inductive Ntv2DisplayidProtocol
  | unknown
  | dvi
  | hdmiv1
  | hdmi
  deriving DecidableEq

/-- The video status. -/
structure Ntv2DisplayidVideo where
  protocol : Ntv2DisplayidProtocol := .unknown
  underscan : Bool := false
  ycbcr444 : Bool := false
  ycbcr422 : Bool := false
  ycbcr420 : Bool := false
  dc48bit : Bool := false
  dc36bit : Bool := false
  dc30bit : Bool := false
  dcY444 : Bool := false
  maxClockFreq : ℕ := 0
  graphics : Bool := false
  photo : Bool := false
  cinema : Bool := false
  game : Bool := false
  videoLatency : ℕ := 0
  audioLatency : ℕ := 0
  intVideoLatency : ℕ := 0
  intAudioLatency : ℕ := 0
  quad30 : Bool := false
  quad25 : Bool := false
  quad24 : Bool := false
  four24 : Bool := false
  maxTmdsCsc : ℕ := 0
  osdDisparity : Bool := false
  dualView : Bool := false
  indepView : Bool := false
  lteScramble : Bool := false
  rrCapable : Bool := false
  scdcPresent : Bool := false
  dc30bit420 : Bool := false
  dc36bit420 : Bool := false
  dc48bit420 : Bool := false

/-- The audio status. -/
structure Ntv2DisplayidAudio where
  protocol : Ntv2DisplayidProtocol := .unknown
  basicAudio : Bool := false
  numLpcmChannels : ℕ := 0
  deriving DecidableEq

/-- The status of a sink, with the callback that reads a register of a block, where there is
one. -/
structure Ntv2Displayid where
  video : Ntv2DisplayidVideo := {}
  audio : Ntv2DisplayidAudio := {}
  callback : Option (ℕ → ℕ → Option Byte)

/-- What the local arrays of the source hold before they are written. -/
structure Uninitialised where
  hdmiRegId : ℕ → Byte
  hfRegId : ℕ → Byte
  bytes : ℕ → ℕ → Byte

namespace Ntv2Displayid

variable (did : Ntv2Displayid)

/-! ### Registers -/

/-- `read_edid_register`. -/
def readEdidRegister (blockNum regNum : ℕ) : Option Byte :=
  if 1 < blockNum then none
  else if 128 ≤ regNum then none
  else
    match did.callback with
    | none => none
    | some callback => callback blockNum regNum

/-- The loop of `read_edid_registers`. -/
def readEdidRegistersFrom (blockNum regAddr lastReg i : ℕ) (data : ℕ → Byte) : ℕ → Byte :=
  if i ≤ lastReg then
    match did.readEdidRegister blockNum i with
    | none => data
    | some regVal =>
        readEdidRegistersFrom blockNum regAddr lastReg (i + 1)
          (Function.update data (i - regAddr) regVal)
  else data
termination_by lastReg + 1 - i

/-- `read_edid_registers`, with what the array holds before. A register that cannot be read ends it
without an error. -/
def readEdidRegisters (blockNum regAddr numRegs : ℕ) (data : ℕ → Byte) : Option (ℕ → Byte) :=
  if numRegs = 0 then none
  else
    let regAddr := if 127 < regAddr then 127 else regAddr
    let lastReg := regAddr + numRegs - 1
    let lastReg := if 127 < lastReg then 127 else lastReg
    some (did.readEdidRegistersFrom blockNum regAddr lastReg regAddr data)

/-! ### The extension -/

/-- `get_edid_num_extensions`. -/
def getEdidNumExtensions : Option Byte := did.readEdidRegister 0 0x7E

/-- `get_block_number_for_extension`. -/
def getBlockNumberForExtension (tag : Byte) : Option ℕ := do
  let numExt ← did.getEdidNumExtensions
  if numExt = 0 then return 0
  -- only one extension is allowed for
  let blockTag ← did.readEdidRegister 1 0x00
  return if blockTag = tag then 1 else 0

/-- `get_edid_extension_revision`. -/
def getEdidExtensionRevision (blockNum : ℕ) : Option Byte :=
  if blockNum < 1 ∨ 254 < blockNum then none else did.readEdidRegister blockNum 0x01

/-- `get_edid_sink_protocol`. -/
def getEdidSinkProtocol : Option Ntv2DisplayidProtocol := do
  let blockNum ← did.getBlockNumberForExtension extensionTagCea861Hdmi
  if blockNum = 0 ∨ blockNum = 255 then return .dvi
  let revVal ← did.getEdidExtensionRevision blockNum
  return if revVal = 0 then .dvi else if revVal = 1 then .hdmiv1 else .hdmi

/-! ### Data blocks -/

/-- `get_datablock_header`: the tag, the extended tag and the number of bytes that follow. -/
def getDatablockHeader (blockNum dbIndex : ℕ) : Option (Ntv2Cea861DatablockTag × Byte × ℕ) := do
  let regVal ← did.readEdidRegister blockNum dbIndex
  let dbTag := Ntv2Cea861DatablockTag.ofHeader regVal
  let numBytes := (regVal &&& 0x1F).toNat
  if dbTag = .extended ∧ 0 < numBytes then
    let extTag ← did.readEdidRegister blockNum (dbIndex + 1)
    return (dbTag, extTag, numBytes)
  return (dbTag, extendedTagReserved255, numBytes)

/-- The test of `get_index_for_datablock`. -/
def datablockMatches (datablockTag : Ntv2Cea861DatablockTag) (datablockExtTag : Byte)
    (dbTag : Ntv2Cea861DatablockTag) (dbExtTag : Byte) : Bool :=
  if datablockTag = .wildcard then true
  else if dbTag = datablockTag then
    if dbTag ≠ .extended then true else dbExtTag = datablockExtTag
  else false

/-- The loop of `get_index_for_datablock`. -/
def getIndexForDatablockFrom (blockNum : ℕ) (datablockTag : Ntv2Cea861DatablockTag)
    (datablockExtTag : Byte) (dbInst dbEnd index instCount : ℕ) : Option (ℕ × ℕ) :=
  if index < dbEnd then
    match did.getDatablockHeader blockNum index with
    | none => none
    | some (dbTag, dbExtTag, dbNumBytes) =>
        -- past the data blocks, in the padding
        if dbTag = .reserved0 ∧ dbNumBytes = 0 then some (0, 0)
        else if datablockMatches datablockTag datablockExtTag dbTag dbExtTag then
          if instCount = dbInst then some (index, dbNumBytes)
          else getIndexForDatablockFrom blockNum datablockTag datablockExtTag dbInst dbEnd
            (index + (dbNumBytes + 1)) (instCount + 1)
        else getIndexForDatablockFrom blockNum datablockTag datablockExtTag dbInst dbEnd
          (index + (dbNumBytes + 1)) instCount
  else some (0, 0)
termination_by dbEnd - index

/-- `get_index_for_datablock`: the index of an instance and its length, or zeros. -/
def getIndexForDatablock (blockNum : ℕ) (datablockTag : Ntv2Cea861DatablockTag)
    (datablockExtTag : Byte) (dbInst : ℕ) : Option (ℕ × ℕ) := do
  let dtdStart ← did.readEdidRegister blockNum 2
  let dbEnd := if dtdStart = 0 then 126 else dtdStart.toNat
  did.getIndexForDatablockFrom blockNum datablockTag datablockExtTag dbInst dbEnd 4 0

/-- The loop over vendor blocks of `get_index_for_hdmi_datablock` and
`get_index_for_hf_datablock`. -/
def getIndexForVendorFrom (isId : (ℕ → Byte) → Bool) (blockNum : ℕ) :
    ℕ → ℕ → (ℕ → Byte) → Option ℕ
  | 0, _, _ => some 0
  | rounds + 1, dbInst, regId =>
      match did.getIndexForDatablock blockNum .vendor extendedTagReserved255 dbInst with
      | none => none
      | some (dbIndex, _) =>
          if dbIndex = 0 then some 0
          else
            match did.readEdidRegisters blockNum (dbIndex + 1) 3 regId with
            | none => none
            | some regId =>
                if isId regId then some dbIndex
                else getIndexForVendorFrom isId blockNum rounds (dbInst + 1) regId

/-- The search for the first block of a vendor. -/
def getIndexForVendor (isId : (ℕ → Byte) → Bool) (regId : ℕ → Byte) (blockNum : ℕ) : Option ℕ :=
  if blockNum = 0 ∨ blockNum = 255 then none
  else did.getIndexForVendorFrom isId blockNum 254 0 regId

/-- The number of the HDMI vendor, its low byte first. -/
def isHdmiId (regId : ℕ → Byte) : Bool := regId 0 = 0x03 ∧ regId 1 = 0x0C ∧ regId 2 = 0x00

/-- The number of the HF vendor, its low byte first. -/
def isHfId (regId : ℕ → Byte) : Bool := regId 0 = 0xD8 ∧ regId 1 = 0x5D ∧ regId 2 = 0xC4

/-- `get_index_for_hdmi_datablock`. -/
def getIndexForHdmiDatablock : (ℕ → Byte) → ℕ → Option ℕ := did.getIndexForVendor isHdmiId

/-- `get_index_for_hf_datablock`. -/
def getIndexForHfDatablock : (ℕ → Byte) → ℕ → Option ℕ := did.getIndexForVendor isHfId

end Ntv2Displayid

end LibAjaNtv2
