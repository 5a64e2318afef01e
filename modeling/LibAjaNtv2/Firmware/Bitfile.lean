import LibAjaNtv2.Lib.Attempt
import LibAjaNtv2.Buffer.Ranges
import LibAjaNtv2.Rpc.QueryString

/-!
The header of a bitfile (`ntv2bitfile.cpp`).

* `BitfileError`, `BitfileStop`: the errors of the parser, and a read outside of the buffer;
* `NTV2BitfileHeaderParser`: what it has found, with `setRawDesign`, `setDate`, `setTime`, ...;
* `NTV2Buffer.view`, `NTV2Buffer.portion`: the bytes of a segment of the buffer;
* `sectionField`, `findSignature`: a section with its length, and the search for the program;
* `parseHeader`: the parser.
-/

namespace LibAjaNtv2

/-! ### Errors -/

/-- The errors of the parser, with the values of their texts. -/
inductive BitfileError
  | headMismatch
  | pastEnd (pos : ℕ) (headerLength : Int)
  | wrongTag (pos : ℕ) (expected got : Byte)
  | noSegment (size pos : ℕ) (headerLength : Int)
  | shortDesign (design : ByteString)
  | multipleUserID (design userID another : ByteString)
  | noEquals (userID : ByteString)
  | manyEquals (userID : ByteString) (halves : ℕ)
  | shortUserID (value : ByteString)
  | badHexDigit (hexDigit : Byte) (value : ByteString)
  | badDesignName (design : ByteString) (pos : ℕ) (headerLength : Int)
  | badLength (expected : ℕ) (text : ByteString)
  | expectedDigit (pos : ℕ) (text : ByteString)
  | expectedChar (chr : Byte) (pos : ℕ) (text : ByteString)
  | zeroProgramOffset
  | zeroProgramSize
  | missingSignature (pos : ℕ)
  deriving DecidableEq

/-- How the parser stops early: with an error, or with a read outside of the buffer. -/
inductive BitfileStop
  | failed (e : BitfileError)
  | outside
  deriving DecidableEq

/-! ### The buffer -/

/-- The start of the signature of the program. -/
def gSignature : ByteString := [0xFF, 0xFF, 0xFF, 0xFF, 0xAA, 0x99, 0x55, 0x66]

/-- The first bytes of a bitfile. -/
def gHead13 : ByteString :=
  [0x00, 0x09, 0x0f, 0xf0, 0x0f, 0xf0, 0x0f, 0xf0, 0x0f, 0xf0, 0x00, 0x00, 0x01]

namespace NTV2Buffer

/-- The size of the buffer as an `int`. -/
def headerLength (self : NTV2Buffer) : Int := self.fByteCount.toInt

/-- The bytes of a segment, none where it is null. -/
def view (self : NTV2Buffer) (pos : ℕ) (size : ULWord) : Except BitfileStop ByteString :=
  match self.segment (BitVec.ofNat 32 pos) size with
  | none => .ok []
  | some (start, count) =>
      if start.toNat + count.toNat ≤ self.bytes.length then
        .ok ((self.bytes.drop start.toNat).take count.toNat)
      else .error .outside

/-- The bytes of a segment that must not be null. -/
def portion (self : NTV2Buffer) (pos : ℕ) (size : ULWord) : Except BitfileStop ByteString := do
  let bytes ← self.view pos size
  if bytes = [] then .error (.failed (.noSegment size.toNat pos self.headerLength)) else .ok bytes

/-- `I8`. -/
def i8 (self : NTV2Buffer) (pos : ℕ) : Except BitfileStop Byte :=
  match self.bytes[pos]? with
  | none => .error .outside
  | some b => .ok b

/-- `BUMPPOS`. -/
def bumpPos (self : NTV2Buffer) (pos inc : ℕ) : Except BitfileStop ℕ :=
  if self.headerLength ≤ (pos + inc : ℕ) then
    .error (.failed (.pastEnd (pos + inc) self.headerLength))
  else .ok (pos + inc)

end NTV2Buffer

/-- `NTV2EndianSwap16BtoH` of `U16(0)`: the word whose first byte is the high one. -/
def swap16BtoH : ByteString → Except BitfileStop ULWord
  | b₀ :: b₁ :: _ => .ok (BitVec.ofNat 32 (b₀.toNat * 256 + b₁.toNat))
  | _ => .error .outside

/-- `NTV2EndianSwap32BtoH` of `U32(0)`. -/
def swap32BtoH : ByteString → Except BitfileStop ULWord
  | b₀ :: b₁ :: b₂ :: b₃ :: _ =>
      .ok (BitVec.ofNat 32 (((b₀.toNat * 256 + b₁.toNat) * 256 + b₂.toNat) * 256 + b₃.toNat))
  | _ => .error .outside

/-- `GetString`, of the bytes of a segment: up to a null character, and not more than a number of
characters where one is given. -/
def getString (bytes : ByteString) (inMaxSize : ℕ) : ByteString :=
  let maxSize := if inMaxSize ≠ 0 ∧ inMaxSize < bytes.length then inMaxSize else bytes.length
  (bytes.take maxSize).takeWhile (· ≠ 0)

/-! ### The parser's fields -/

/-- What the parser has found. -/
structure NTV2BitfileHeaderParser where
  mDate : ByteString
  mTime : ByteString
  mPartName : ByteString
  mRawDesignName : ByteString
  mUserID : ULWord
  mProgOffsetBytes : ULWord
  mProgSizeBytes : ULWord
  mDesignID : ULWord
  mDesignVersion : ULWord
  mBitfileID : ULWord
  mBitfileVersion : ULWord
  mValid : Bool
  deriving DecidableEq

/-- A part of the parser. -/
abbrev BitfileParse := Attempt NTV2BitfileHeaderParser BitfileStop

namespace NTV2BitfileHeaderParser

/-- `Clear`, which leaves the offset of the program. -/
def clear (self : NTV2BitfileHeaderParser) : NTV2BitfileHeaderParser :=
  { self with
    mDate := [], mTime := [], mPartName := [], mRawDesignName := [], mUserID := 0
    mProgSizeBytes := 0, mDesignID := 0, mDesignVersion := 0, mBitfileID := 0
    mBitfileVersion := 0, mValid := false }

/-- The characters of a design's name. -/
def isNameChar (ch : Byte) : Bool :=
  (0x41 ≤ ch && ch ≤ 0x5A) || (0x61 ≤ ch && ch ≤ 0x7A) || (0x30 ≤ ch && ch ≤ 0x39) || ch == 0x5F

/-- `DesignName`. -/
def designName (self : NTV2BitfileHeaderParser) : ByteString :=
  self.mRawDesignName.takeWhile isNameChar

/-- The bits of a user ID that tell the design. -/
def getDesignID (userID : ULWord) : ULWord := (userID &&& 0xff000000) >>> 24
/-- The bits of a user ID that tell the version of the design. -/
def getDesignVersion (userID : ULWord) : ULWord := (userID &&& 0x00ff0000) >>> 16
/-- The bits of a user ID that tell the bitfile. -/
def getBitfileID (userID : ULWord) : ULWord := (userID &&& 0x0000ff00) >>> 8
/-- The bits of a user ID that tell the version of the bitfile. -/
def getBitfileVersion (userID : ULWord) : ULWord := (userID &&& 0x000000ff) >>> 0

/-- The fields with a user ID. -/
def withUserID (self : NTV2BitfileHeaderParser) (userID : ULWord) : NTV2BitfileHeaderParser :=
  { self with
    mUserID := userID
    mDesignID := getDesignID userID
    mDesignVersion := getDesignVersion userID
    mBitfileID := getBitfileID userID
    mBitfileVersion := getBitfileVersion userID }

end NTV2BitfileHeaderParser

/-! ### The design -/

/-- What a parameter with the user ID starts with. -/
def userIDKey : ByteString := bytesOf "userid="

/-- The parameter with the user ID: the empty string if there is none. -/
def findUserID (design : ByteString) :
    List ByteString → ByteString → Except BitfileStop ByteString
  | [], userIDSegment => .ok userIDSegment
  | it :: segments, userIDSegment =>
      if userIDKey.isPrefixOf it then
        if userIDSegment = [] then findUserID design segments it
        else .error (.failed (.multipleUserID design userIDSegment it))
      else findUserID design segments userIDSegment

/-- The value of a hexadecimal digit in lower case. -/
def lowerHexDigit (hexDigit : Byte) : Option ℕ :=
  if 0x30 ≤ hexDigit ∧ hexDigit ≤ 0x39 then some (hexDigit.toNat - 0x30)
  else if 0x61 ≤ hexDigit ∧ hexDigit ≤ 0x66 then some (hexDigit.toNat - 0x61 + 10)
  else none

/-- The number of hexadecimal digits. -/
def hexNumber (digits : ByteString) : ℕ :=
  digits.foldl (fun n d => n * 16 + (lowerHexDigit d).getD 0) 0

/-- `aja::stoul` of hexadecimal digits: `strtoul`, which stops at the largest number. -/
def stoulHex (digits : ByteString) : ℕ := min (hexNumber digits) 18446744073709551615

/-- The digits of a user ID, without `0x` in front of them. -/
def userIDDigits (userIDValue : ByteString) : ByteString :=
  if (bytesOf "0x").isPrefixOf userIDValue then userIDValue.drop 2 else userIDValue

/-- The user ID of a parameter. -/
def parseUserID (userIDSegment : ByteString) : Except BitfileStop ULWord :=
  match Aja.splitString userIDSegment (bytesOf "=") with
  | [_, userIDValue] =>
      if userIDValue.length < 3 then .error (.failed (.shortUserID userIDValue))
      else
        let digits := userIDDigits userIDValue
        match digits.find? (fun d => (lowerHexDigit d).isNone) with
        | some hexDigit => .error (.failed (.badHexDigit hexDigit digits))
        | none => .ok (BitVec.ofNat 32 (stoulHex digits))
  | halves =>
      if halves.length < 2 then .error (.failed (.noEquals userIDSegment))
      else .error (.failed (.manyEquals userIDSegment halves.length))

/-- `SetRawDesign`. -/
def setRawDesign (inStr : ByteString) : BitfileParse Unit := do
  Attempt.modify fun p => { p with mRawDesignName := inStr }
  Attempt.require (8 ≤ inStr.length) (.failed (.shortDesign inStr))
  let rawDesign := if inStr.getLast? = some 0 then inStr.dropLast else inStr
  Attempt.modify fun p => { p with mRawDesignName := rawDesign }
  let segments := Aja.splitString (Aja.lowerString rawDesign) (bytesOf ";")
  let userIDSegment ← Attempt.lift (findUserID rawDesign segments [])
  if userIDSegment = [] then pure ()
  else do
    let userID ← Attempt.lift (parseUserID userIDSegment)
    Attempt.modify fun p => p.withUserID userID

/-! ### Date and time -/

/-- What a character of a date or time is checked for. -/
inductive CharCheck
  | digit
  | char (c : Byte)
  deriving DecidableEq

/-- `CHKDIGIT` and `CHKCHAR`, from a place of the text on. The comparisons are those of signed
characters, and `CHKCHAR` lets larger ones pass. -/
def checkChars (text : ByteString) : List CharCheck → ℕ → Except BitfileStop Unit
  | [], _ => .ok ()
  | check :: checks, pos =>
      match text[pos]? with
      | none => .error .outside
      | some ch =>
          match check with
          | .digit =>
              if ch.slt 0x30 || (0x39 : Byte).slt ch then
                .error (.failed (.expectedDigit pos text))
              else checkChars text checks (pos + 1)
          | .char c =>
              if ch.slt c then .error (.failed (.expectedChar c pos text))
              else checkChars text checks (pos + 1)

/-- The characters of a date, `dddd/dd/dd`. -/
def dateChecks : List CharCheck :=
  [.digit, .digit, .digit, .digit, .char 0x2F, .digit, .digit, .char 0x2F, .digit, .digit]

/-- The characters of a time, `dd:dd:dd`. -/
def timeChecks : List CharCheck :=
  [.digit, .digit, .char 0x3A, .digit, .digit, .char 0x3A, .digit, .digit]

/-- The checks of a text: its length, and its characters. -/
def checkText (checks : List CharCheck) (inStr : ByteString) : Except BitfileStop Unit := do
  if inStr.length ≠ checks.length then .error (.failed (.badLength checks.length inStr))
  else checkChars inStr checks 0

/-- `SetDate`. -/
def setDate (inStr : ByteString) : BitfileParse Unit := do
  Attempt.lift (checkText dateChecks inStr)
  Attempt.modify fun p => { p with mDate := inStr }

/-- `SetTime`. -/
def setTime (inStr : ByteString) : BitfileParse Unit := do
  Attempt.lift (checkText timeChecks inStr)
  Attempt.modify fun p => { p with mTime := inStr }

/-- `SetProgramSizeBytes`. -/
def setProgramSizeBytes (inValue : ULWord) : BitfileParse Unit := do
  Attempt.require (inValue ≠ 0) (.failed .zeroProgramSize)
  Attempt.modify fun p => { p with mProgSizeBytes := inValue }

/-- `SetProgramOffsetBytes`. -/
def setProgramOffsetBytes (inValue : ULWord) : BitfileParse Unit := do
  Attempt.require (inValue ≠ 0) (.failed .zeroProgramOffset)
  Attempt.modify fun p => { p with mProgOffsetBytes := inValue }

/-! ### The sections -/

/-- The tag at the place of a section. -/
def checkTag (buf : NTV2Buffer) (tag : Byte) (pos : ℕ) : Except BitfileStop ℕ := do
  let testByte ← buf.i8 pos
  if testByte ≠ tag then .error (.failed (.wrongTag pos tag testByte)) else buf.bumpPos pos 1

/-- The field of a section, behind its tag and its length, and where it starts. -/
def sectionField (buf : NTV2Buffer) (tag : Byte) (pos : ℕ) :
    Except BitfileStop (ByteString × ℕ) := do
  let pos ← checkTag buf tag pos
  let length ← buf.portion pos 2
  let fieldLen ← swap16BtoH length
  let pos ← buf.bumpPos pos 2
  let field ← buf.portion pos fieldLen
  return (field, pos)

/-- The search for the signature, in `fuel` places from one on: the place, or where it ends. -/
def findSignature (buf : NTV2Buffer) : ℕ → ℕ → Except BitfileStop (Bool × ℕ)
  | 0, pos => .ok (false, pos)
  | fuel + 1, pos =>
      if buf.headerLength ≤ pos then .ok (false, pos)
      else do
        let bytes ← buf.view pos 8
        if bytes = gSignature then .ok (true, pos) else findSignature buf fuel (pos + 1)

/-- What `ParseHeader` does before it declares the header valid. -/
def parseSections (buf : NTV2Buffer) : BitfileParse Unit := do
  Attempt.modify NTV2BitfileHeaderParser.clear
  let head ← Attempt.lift (buf.view 0 13)
  Attempt.require (head = gHead13) (.failed .headMismatch)
  let pos ← Attempt.lift (buf.bumpPos 0 13)
  -- 'a'
  let (field, pos) ← Attempt.lift (sectionField buf 0x61 pos)
  let designBuffer := getString field 128
  setRawDesign designBuffer
  let p ← Attempt.get
  Attempt.require (p.designName ≠ []) (.failed (.badDesignName designBuffer pos buf.headerLength))
  let pos ← Attempt.lift (buf.bumpPos pos field.length)
  -- 'b'
  let (field, pos) ← Attempt.lift (sectionField buf 0x62 pos)
  Attempt.modify fun p => { p with mPartName := getString field 128 }
  let pos ← Attempt.lift (buf.bumpPos pos field.length)
  -- 'c'
  let (field, pos) ← Attempt.lift (sectionField buf 0x63 pos)
  setDate (getString field 10)
  let pos ← Attempt.lift (buf.bumpPos pos field.length)
  -- 'd'
  let (field, pos) ← Attempt.lift (sectionField buf 0x64 pos)
  setTime (getString field 8)
  let pos ← Attempt.lift (buf.bumpPos pos field.length)
  -- 'e'
  let pos ← Attempt.lift (checkTag buf 0x65 pos)
  let size ← Attempt.lift (buf.portion pos 4)
  let progSize ← Attempt.lift (swap32BtoH size)
  setProgramSizeBytes progSize
  let pos ← Attempt.lift (buf.bumpPos pos 4)
  setProgramOffsetBytes (BitVec.ofNat 32 pos)
  let found ← Attempt.lift (findSignature buf 1000 pos)
  Attempt.require (found.1 = true) (.failed (.missingSignature found.2))

/-- `ParseHeader`: it returns whether there was no error. -/
def parseHeader (buf : NTV2Buffer) : BitfileParse Unit := do
  parseSections buf
  Attempt.modify fun p => { p with mValid := true }

end LibAjaNtv2
