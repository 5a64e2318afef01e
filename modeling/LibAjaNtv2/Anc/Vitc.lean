import LibAjaNtv2.Anc.Timecode
import LibAjaNtv2.Lib.ShiftRegister

/-!
The VITC waveform of a video line (`ancillarydata_timecode_vitc.cpp`).

* `AJAAncillaryData_Timecode_VITC`: a packet with a timecode and a type of VITC data;
* `getVITCLevel`, `addToCRC`, `DecodeLine`: what is read from a line;
* `DoNormalTransition`, `DoHalfTransition`, `DoVITCBitPair`, `EncodeLine`: what is drawn;
* `ParsePayloadData`, `GeneratePayloadData`.

A read past the end of the line has no value. The memory for the payload is taken to be there.
-/

namespace LibAjaNtv2

open AJAStatus AJAAncDataCoding

/-! ### Packets -/

/-- `AJAAncillaryData_Timecode_VITC_Type`. -/
inductive AJAAncillaryData_Timecode_VITC_Type
  | AJAAncillaryData_Timecode_VITC_Type_Unknown
  | AJAAncillaryData_Timecode_VITC_Type_Timecode
  | AJAAncillaryData_Timecode_VITC_Type_FilmData
  | AJAAncillaryData_Timecode_VITC_Type_ProdData
  deriving DecidableEq, Repr

open AJAAncillaryData_Timecode_VITC_Type

/-- `AJAAncillaryData_Timecode_VITC`, with the `m_rcvDataValid` of its base. -/
structure AJAAncillaryData_Timecode_VITC extends AJAAncillaryData, AJAAncillaryData_Timecode where
  m_rcvDataValid : Bool
  m_vitcType : AJAAncillaryData_Timecode_VITC_Type
  deriving DecidableEq, Repr

/-- `AJAAncillaryData_VITC_DID`. -/
def AJAAncillaryData_VITC_DID : UByte := 0x00

/-- `AJAAncillaryData_VITC_SID`. -/
def AJAAncillaryData_VITC_SID : UByte := 0x00

/-- `AJAAncillaryData_VITC_PayloadSize`. -/
def AJAAncillaryData_VITC_PayloadSize : ℕ := 720

/-- The first pixel that is looked at. -/
def VITC_DECODE_START_WINDOW : ℕ := 10

/-- The pixel where the search for the first edge ends. -/
def VITC_DECODE_END_WINDOW : ℕ := 30

/-- The luma above which a pixel is a one. -/
def VITC_Y_CLIP : UByte := 102

/-- The luma of a zero. -/
def VITC_YUV8_LO : UByte := 0x10

/-- The luma of a one. -/
def VITC_YUV8_HI : UByte := 0xC0

/-! ### Reading a line -/

/-- `getVITCLevel`. -/
def getVITCLevel (pixelNum : ℕ) (pLine : List UByte) : Option Bool :=
  pLine[pixelNum]?.map fun luma => decide (VITC_Y_CLIP < luma)

/-- `addToCRC`. -/
def addToCRC (inBit : Bool) (inOutCRC : UByte) : UByte :=
  let newBit : UByte :=
    if inOutCRC &&& 0x80 ≠ 0 then (if inBit then 0 else 1) else (if inBit then 1 else 0)
  (inOutCRC <<< 1) + newBit

section Decode

variable (pLine : List UByte)

/-- The search for the first edge over the next `n` pixels: where it stops. -/
def findEdge (lastPixel : Bool) : ℕ → ℕ → Option ℕ
  | 0, currIndex => some currIndex
  | n + 1, currIndex => do
      let thisPixel ← getVITCLevel currIndex pLine
      if !lastPixel && thisPixel then some currIndex else findEdge lastPixel n (currIndex + 1)

/-- The three pixels behind the first edge. -/
def startBitHigh (currIndex : ℕ) : Option Bool := do
  let first ← getVITCLevel (currIndex + 1) pLine
  if !first then some false
  else do
    let second ← getVITCLevel (currIndex + 2) pLine
    if !second then some false else getVITCLevel (currIndex + 3) pLine

/-- The middle of the first start bit, if there is one. -/
def findStart : Option (Option ℕ) := do
  let lastPixel ← getVITCLevel VITC_DECODE_START_WINDOW pLine
  let currIndex ← findEdge pLine lastPixel (VITC_DECODE_END_WINDOW - (VITC_DECODE_START_WINDOW + 1))
    (VITC_DECODE_START_WINDOW + 1)
  if currIndex = VITC_DECODE_END_WINDOW then some none
  else (startBitHigh pLine currIndex).map fun high => if high then some (currIndex + 3) else none

/-- The search for the transition between the start bits over the next `n` pixels. -/
def findTransition (currIndex : ℕ) : ℕ → ℕ → Option ℕ
  | 0, i => some i
  | n + 1, i => do
      let level ← getVITCLevel (currIndex + i) pLine
      if !level then some i else findTransition currIndex n (i + 1)

/-- A data bit shifted in at the top. -/
def shiftIn (data : UByte) (bit : Bool) : UByte := (if bit then 0x80#8 else 0#8) + (data >>> 1)

/-- The last `n` of the eight data bits of a group: the index, the CRC and the data behind them. -/
def decodeBits : ℕ → ℕ → UByte → UByte → Option (ℕ × UByte × UByte)
  | 0, currIndex, CRC, data => some (currIndex, CRC, data)
  | n + 1, currIndex, CRC, data => do
      let bit ← getVITCLevel currIndex pLine
      let i := 8 - (n + 1)
      decodeBits n (currIndex + if i % 2 ≠ 0 then 8 else 7) (addToCRC bit CRC)
        (shiftIn data bit)

/-- A group: nothing inside where there is no transition between its start bits. -/
def decodeGroup (currIndex : ℕ) (CRC : UByte) : Option (Option (ℕ × UByte × UByte)) := do
  let i ← findTransition pLine currIndex 7 1
  if i = 8 then some none
  else (decodeBits pLine 8 (currIndex + i + 11) (addToCRC false (addToCRC true CRC)) 0).map some

/-- The next `n` groups: the CRC behind them, and their data. -/
def decodeGroups : ℕ → ℕ → UByte → Option (Option (UByte × List UByte))
  | 0, _, CRC => some (some (CRC, []))
  | n + 1, currIndex, CRC => do
      match ← decodeGroup pLine currIndex CRC with
      | none => some none
      | some (currIndex, CRC, data) =>
          (decodeGroups n currIndex CRC).map fun rest =>
            rest.map fun (CRC, tcData) => (CRC, data :: tcData)

end Decode

/-- The type of the data, from the CRC behind all groups. -/
def typeOfCRC (CRC : UByte) : AJAAncillaryData_Timecode_VITC_Type :=
  if CRC = 0x00 then AJAAncillaryData_Timecode_VITC_Type_Timecode
  else if CRC = 0xFF then AJAAncillaryData_Timecode_VITC_Type_FilmData
  else if CRC = 0x0F then AJAAncillaryData_Timecode_VITC_Type_ProdData
  else AJAAncillaryData_Timecode_VITC_Type_Unknown

/-- The digits and the groups of the data bytes. -/
def takeData (tc : AJAAncillaryData_Timecode) (tcData : List UByte) : AJAAncillaryData_Timecode :=
  (((((((((((((((tc.setTimeHex kTcFrameUnits (tcData.getD 0 0) 0x0F
    ).setTimeHex kTcFrameTens (tcData.getD 1 0) 0x0F
    ).setTimeHex kTcSecondUnits (tcData.getD 2 0) 0x0F
    ).setTimeHex kTcSecondTens (tcData.getD 3 0) 0x0F
    ).setTimeHex kTcMinuteUnits (tcData.getD 4 0) 0x0F
    ).setTimeHex kTcMinuteTens (tcData.getD 5 0) 0x0F
    ).setTimeHex kTcHourUnits (tcData.getD 6 0) 0x0F
    ).setTimeHex kTcHourTens (tcData.getD 7 0) 0x0F
    ).setGroupHex kBg1 (tcData.getD 0 0 >>> 4) 0x0F
    ).setGroupHex kBg2 (tcData.getD 1 0 >>> 4) 0x0F
    ).setGroupHex kBg3 (tcData.getD 2 0 >>> 4) 0x0F
    ).setGroupHex kBg4 (tcData.getD 3 0 >>> 4) 0x0F
    ).setGroupHex kBg5 (tcData.getD 4 0 >>> 4) 0x0F
    ).setGroupHex kBg6 (tcData.getD 5 0 >>> 4) 0x0F
    ).setGroupHex kBg7 (tcData.getD 6 0 >>> 4) 0x0F
    ).setGroupHex kBg8 (tcData.getD 7 0 >>> 4) 0x0F

/-! ### Drawing a line -/

/-- `DoNormalTransition`: four pixels. -/
def DoNormalTransition (bBit0 bBit1 : Bool) : List UByte :=
  match bBit0, bBit1 with
  | false, false => [VITC_YUV8_LO, VITC_YUV8_LO, VITC_YUV8_LO, VITC_YUV8_LO]
  | false, true => [0x2A, 0x68, 0xA6, VITC_YUV8_HI]
  | true, false => [0xA6, 0x68, 0x2A, VITC_YUV8_LO]
  | true, true => [VITC_YUV8_HI, VITC_YUV8_HI, VITC_YUV8_HI, VITC_YUV8_HI]

/-- `DoHalfTransition`: three pixels. -/
def DoHalfTransition (bBit0 bBit1 : Bool) : List UByte :=
  match bBit0, bBit1 with
  | false, false => [VITC_YUV8_LO, VITC_YUV8_LO, VITC_YUV8_LO]
  | false, true => [0x3C, 0x94, VITC_YUV8_HI]
  | true, false => [0x94, 0x3C, VITC_YUV8_LO]
  | true, true => [VITC_YUV8_HI, VITC_YUV8_HI, VITC_YUV8_HI]

/-- The luma of a bit. -/
def levelOf (bBit : Bool) : UByte := if bBit then VITC_YUV8_HI else VITC_YUV8_LO

/-- `DoVITCBitPair`: fifteen pixels. -/
def DoVITCBitPair (bPrevBit bBit0 bBit1 : Bool) : List UByte :=
  DoNormalTransition bPrevBit bBit0 ++
    [levelOf bBit0, levelOf bBit0, levelOf bBit0, levelOf bBit0] ++
    DoHalfTransition bBit0 bBit1 ++
    [levelOf bBit1, levelOf bBit1, levelOf bBit1, levelOf bBit1]

/-- A line as far as it is drawn, the last bit and the CRC. -/
structure VITCEncoder where
  pLine : List UByte
  bPrevBit : Bool
  CRC : UByte
  deriving DecidableEq, Repr

namespace VITCEncoder

/-- The start bits of a group. -/
def startBits (enc : VITCEncoder) : VITCEncoder where
  pLine := enc.pLine ++ DoVITCBitPair enc.bPrevBit true false
  bPrevBit := false
  CRC := addToCRC false (addToCRC true enc.CRC)

/-- The next `n` bit pairs of the data of a group. -/
def dataBits : ℕ → UByte → VITCEncoder → VITCEncoder
  | 0, _, enc => enc
  | n + 1, data, enc =>
      let bBit0 := decide (data &&& 0x01 ≠ 0)
      let bBit1 := decide (data &&& 0x02 ≠ 0)
      dataBits n (data >>> 2)
        { pLine := enc.pLine ++ DoVITCBitPair enc.bPrevBit bBit0 bBit1
          bPrevBit := bBit1
          CRC := addToCRC bBit1 (addToCRC bBit0 enc.CRC) }

/-- A group. -/
def group (enc : VITCEncoder) (data : UByte) : VITCEncoder := enc.startBits.dataBits 4 data

/-- The next `n` bit pairs of the CRC. -/
def crcBits : ℕ → UByte → VITCEncoder → VITCEncoder
  | 0, _, enc => enc
  | n + 1, CRC, enc =>
      let bBit0 := decide (CRC &&& 0x80 ≠ 0)
      let bBit1 := decide (CRC &&& 0x40 ≠ 0)
      crcBits n (CRC <<< 2)
        { enc with
          pLine := enc.pLine ++ DoVITCBitPair enc.bPrevBit bBit0 bBit1
          bPrevBit := bBit1 }

end VITCEncoder

/-- The CRC as it is sent. -/
def sentCRC (m_vitcType : AJAAncillaryData_Timecode_VITC_Type) (CRC : UByte) : UByte :=
  match m_vitcType with
  | AJAAncillaryData_Timecode_VITC_Type_FilmData => ~~~CRC
  | AJAAncillaryData_Timecode_VITC_Type_ProdData => CRC ^^^ 0x0F
  | _ => CRC

namespace AJAAncillaryData_Timecode_VITC

variable (vitc : AJAAncillaryData_Timecode_VITC)

/-- `AJAAncillaryData_Timecode_VITC::Init`. -/
def Init : AJAAncillaryData_Timecode_VITC :=
  { vitc with
    toAJAAncillaryData :=
      ({ vitc.toAJAAncillaryData with
          m_coding := AJAAncDataCoding_Raw
          m_DID := AJAAncillaryData_VITC_DID
          m_SID := AJAAncillaryData_VITC_SID } : AJAAncillaryData).SetLocationLineNumber 14
    m_vitcType := AJAAncillaryData_Timecode_VITC_Type_Unknown }

/-- `AJAAncillaryData_Timecode_VITC::DecodeLine`: what it returns, and the packet after it. -/
def DecodeLine (pLine : List UByte) : Option (Bool × AJAAncillaryData_Timecode_VITC) := do
  match ← findStart pLine with
  | none => some (false, vitc)
  | some currIndex =>
    match ← decodeGroups pLine 9 currIndex 0 with
    | none => some (false, vitc)
    | some (CRC, tcData) =>
      let m_vitcType := typeOfCRC CRC
      if m_vitcType = AJAAncillaryData_Timecode_VITC_Type_Unknown then
        some (false, { vitc with m_vitcType := m_vitcType })
      else
        some (true, { vitc with
          toAJAAncillaryData_Timecode := takeData vitc.toAJAAncillaryData_Timecode tcData
          m_vitcType := m_vitcType })

/-- `AJAAncillaryData_Timecode_VITC::ParsePayloadData`. -/
def ParsePayloadData : Option (AJAStatus × AJAAncillaryData_Timecode_VITC) :=
  if vitc.toAJAAncillaryData.GetDC < AJAAncillaryData_VITC_PayloadSize then
    some (AJA_STATUS_FAIL, { vitc.Init with m_rcvDataValid := false })
  else
    (vitc.DecodeLine vitc.m_payload).map fun (bResult, vitc) =>
      (AJA_STATUS_SUCCESS, { vitc with m_rcvDataValid := bResult })

/-- The data byte of a group. -/
def groupData (k : Fin 8) : UByte :=
  let tcData := vitc.toAJAAncillaryData_Timecode.getTimeHex k 0x0F
  let bgData := vitc.toAJAAncillaryData_Timecode.getGroupHex k 0x0F
  (bgData <<< 4) + tcData

/-- `AJAAncillaryData_Timecode_VITC::EncodeLine`: the pixels from the first one on. -/
def EncodeLine : List UByte :=
  let enc : VITCEncoder := ⟨List.replicate 26 VITC_YUV8_LO, false, 0⟩
  let enc := ((List.finRange 8).map vitc.groupData).foldl VITCEncoder.group enc
  let enc := enc.startBits
  let enc := enc.crcBits 4 (sentCRC vitc.m_vitcType enc.CRC)
  let pLine := enc.pLine ++ DoNormalTransition enc.bPrevBit false
  pLine ++ List.replicate (vitc.toAJAAncillaryData.GetDC - pLine.length) VITC_YUV8_LO

/-- `AJAAncillaryData_Timecode_VITC::GeneratePayloadData`. -/
def GeneratePayloadData : AJAStatus × AJAAncillaryData_Timecode_VITC :=
  let vitc : AJAAncillaryData_Timecode_VITC :=
    { vitc with
      m_DID := AJAAncillaryData_VITC_DID
      m_SID := AJAAncillaryData_VITC_SID
      m_payload := List.replicate AJAAncillaryData_VITC_PayloadSize 0 }
  let vitc := { vitc with m_payload := vitc.EncodeLine }
  (AJA_STATUS_SUCCESS, { vitc with m_checksum := vitc.toAJAAncillaryData.Calculate8BitChecksum })

end AJAAncillaryData_Timecode_VITC

end LibAjaNtv2
