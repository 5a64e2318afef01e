import LibAjaNtv2.Lib.Substring
import LibAjaNtv2.Router.Connections

/-!
Connection maps as text (`ntv2signalrouter.cpp`).

* `Aja.lower`, `Aja.strip`, `Aja.replace`, `Aja.split`: the string helpers of `ajabase`;
* `XptNames`: the name tables of the inputs and outputs, with what they are made of;
* `connectionsText`: the lines that `operator <<` writes;
* `PrintCodeConfig`, `toCodeString`: the code that `ToCodeString` writes;
* `callConfig`: code with calls of the device and without declarations;
* `createFromString`: the reader of both.
-/

namespace LibAjaNtv2

/-! ### Strings -/

namespace Aja

/-- The characters that are stripped. -/
def WHITESPACE : List Char := [' ', '\t', '\n', '\r']

/-- Whether a character is stripped. -/
def isSpace (x : Char) : Bool := x ∈ WHITESPACE

/-- A string in lower case. -/
def lower (str : List Char) : List Char := str.map Char.toLower

/-- Erase the white space at the start. -/
def lstrip (str : List Char) : List Char := str.dropWhile isSpace

/-- Erase what follows the last character that is not white space: as many characters as the string
has, but one. -/
def rstrip (str : List Char) : List Char :=
  if str = [] then str
  else
    let pos := (str.rdropWhile isSpace).length
    str.take pos ++ str.drop (pos + (str.length - 1))

/-- Strip both ends. -/
def strip (str : List Char) : List Char := rstrip (lstrip str)

/-- Replace a text wherever it stands. -/
def replace (str old new : List Char) : List Char := replaceSub old new str

/-- The pieces between delimiters: none of the empty string. -/
def split (str : List Char) (delim : Char) : List (List Char) :=
  if str = [] then [] else str.splitOn delim

end Aja

/-- Split at every one of the delimiters, without the empty tokens if they are trimmed. -/
def tokenize (inString inDelimiters : List Char) (inTrimEmpty : Bool) : List (List Char) :=
  let outTokens := inString.splitOnP fun x => x ∈ inDelimiters
  if inTrimEmpty then outTokens.filter fun token => !token.isEmpty else outTokens

/-! ### Names -/

/-- A character of an identifier. -/
def isNameChar (x : Char) : Bool := x.isAlphanum || x = '_'

/-- The number that stands for no output. -/
def outputCrosspointInvalid : NTV2OutputXptID := 0xFF

/-- The name tables: the names of the inputs and outputs, which are identifiers, and what the
routing expert finds under a name in lower case, which is never an invalid crosspoint. -/
structure XptNames where
  inputCrosspointIDToString : NTV2InputXptID → List Char
  outputCrosspointIDToString : NTV2OutputXptID → List Char
  gString2InputXpt : List Char → Option NTV2InputXptID
  gString2OutputXpt : List Char → Option NTV2OutputXptID
  input_isName : ∀ i, ∀ x ∈ inputCrosspointIDToString i, isNameChar x = true
  output_isName : ∀ o, ∀ x ∈ outputCrosspointIDToString o, isNameChar x = true
  input_valid : ∀ name, gString2InputXpt name ≠ some .inputCrosspointInvalid
  output_valid : ∀ name, gString2OutputXpt name ≠ some outputCrosspointInvalid

namespace XptNames

variable (names : XptNames)

/-- The input with a name, in any case and with white space around it. -/
def stringToNTV2InputCrosspointID (inStr : List Char) : NTV2InputXptID :=
  (names.gString2InputXpt (Aja.lower (Aja.strip inStr))).getD .inputCrosspointInvalid

/-- The output with a name, in any case and with white space around it: black without one. -/
def stringToNTV2OutputCrosspointID (inStr : List Char) : NTV2OutputXptID :=
  (names.gString2OutputXpt (Aja.lower (Aja.strip inStr))).getD xptBlack

/-- The tables are inverse to each other, whatever the case, at both ends of a connection. -/
def Inverse (e : NTV2InputXptID × NTV2OutputXptID) : Prop :=
  names.gString2InputXpt (Aja.lower (names.inputCrosspointIDToString e.1)) = some e.1 ∧
    names.gString2OutputXpt (Aja.lower (names.outputCrosspointIDToString e.2)) = some e.2

instance (e : NTV2InputXptID × NTV2OutputXptID) : Decidable (names.Inverse e) :=
  inferInstanceAs (Decidable (_ ∧ _))

/-! ### Writing -/

/-- A connection, the input first. -/
def connectionText (e : NTV2InputXptID × NTV2OutputXptID) : List Char :=
  names.inputCrosspointIDToString e.1 ++ " <== ".toList ++ names.outputCrosspointIDToString e.2

/-- `operator <<`: a line of each connection, with line breaks between them. -/
def connectionsText (c : NTV2XptConnections) : List Char :=
  ['\n'].intercalate (c.entries.map names.connectionText)

end XptNames

/-- How code is written. -/
structure PrintCodeConfig where
  mShowComments : Bool := true
  mShowDeclarations : Bool := true
  mUseRouter : Bool := false
  mPreCommentText : List Char := "// ".toList
  mPostCommentText : List Char := []
  mPreClassText : List Char := []
  mPostClassText : List Char := []
  mPreVariableText : List Char := []
  mPostVariableText : List Char := []
  mPreXptText : List Char := []
  mPostXptText : List Char := []
  mPreFunctionText : List Char := []
  mPostFunctionText : List Char := []
  mDeviceVarName : List Char := "device".toList
  mRouterVarName : List Char := "router".toList
  mLineBreakText : List Char := "\n".toList
  mFieldBreakText : List Char := "\t".toList
  mNew : NTV2XptConnections := .empty
  mChanged : NTV2XptConnections := .empty
  mMissing : NTV2XptConnections := .empty

namespace PrintCodeConfig

variable (inConfig : PrintCodeConfig) (names : XptNames)

/-- A comment. -/
def comment (text : List Char) : List Char :=
  inConfig.mPreCommentText ++ text ++ inConfig.mPostCommentText

/-- The comment with the number of connections. -/
def headerText (inConnections : NTV2XptConnections) : List Char :=
  inConfig.comment (Nat.toDigits 10 inConnections.entries.length ++ " routing ".toList ++
    if inConnections.entries.length = 1 then "entry:".toList else "entries:".toList) ++
  inConfig.mLineBreakText

/-- The declaration of the router or of the device. -/
def declarationText : List Char :=
  inConfig.mPreClassText ++
  (if inConfig.mUseRouter then "CNTV2SignalRouter".toList else "CNTV2Card".toList) ++
  inConfig.mPostClassText ++ "\t".toList ++ inConfig.mPreVariableText ++
  (if inConfig.mUseRouter then inConfig.mRouterVarName else inConfig.mDeviceVarName) ++
  inConfig.mPostVariableText ++ ";".toList ++ inConfig.mLineBreakText

/-- The name of the router or of the device. -/
def varName : List Char :=
  if inConfig.mUseRouter then inConfig.mRouterVarName else inConfig.mDeviceVarName

/-- The call that makes a connection. -/
def callText (e : NTV2InputXptID × NTV2OutputXptID) : List Char :=
  inConfig.mPreVariableText ++ inConfig.varName ++ inConfig.mPostVariableText ++ ".".toList ++
  inConfig.mPreFunctionText ++
  (if inConfig.mUseRouter then "AddConnection".toList else "Connect".toList) ++
  inConfig.mPostFunctionText ++ " (".toList ++
  inConfig.mPreXptText ++ names.inputCrosspointIDToString e.1 ++ inConfig.mPostXptText ++
  ", ".toList ++
  inConfig.mPreXptText ++ names.outputCrosspointIDToString e.2 ++ inConfig.mPostXptText ++
  ");".toList

/-- The comment behind a call: whether the connection is new or has changed. -/
def noteText (e : NTV2InputXptID × NTV2OutputXptID) : List Char :=
  if inConfig.mNew.find e.1 = some e.2 then
    inConfig.mFieldBreakText ++ inConfig.comment "New".toList
  else
    match inConfig.mChanged.find e.1 with
    | none => []
    | some second =>
        if second ≠ e.2 then
          inConfig.mFieldBreakText ++ inConfig.comment
            ("Changed from ".toList ++ names.outputCrosspointIDToString second)
        else []

/-- The comment on a missing connection, unless its input has another one. -/
def goneText (inConnections : NTV2XptConnections) (e : NTV2InputXptID × NTV2OutputXptID) :
    List Char :=
  match inConnections.find e.1 with
  | some _ => []
  | none =>
      if inConfig.mUseRouter then
        inConfig.comment (inConfig.varName ++ ".".toList ++ "RemoveConnection".toList ++
          " (".toList ++ names.inputCrosspointIDToString e.1 ++ ", ".toList ++
          names.outputCrosspointIDToString e.2 ++ ");".toList) ++
        inConfig.mFieldBreakText ++ inConfig.comment "Deleted".toList ++ inConfig.mLineBreakText
      else
        inConfig.comment (inConfig.varName ++ ".".toList ++ "Disconnect".toList ++
          " (".toList ++ names.inputCrosspointIDToString e.1 ++ ");".toList) ++
        inConfig.mFieldBreakText ++
        inConfig.comment ("From ".toList ++ names.outputCrosspointIDToString e.2) ++
        inConfig.mLineBreakText

/-- A call with its comment. -/
def callLine (e : NTV2InputXptID × NTV2OutputXptID) : List Char :=
  inConfig.callText names e ++ (if inConfig.mShowComments then inConfig.noteText names e else []) ++
  inConfig.mLineBreakText

/-- `ToCodeString`. -/
def toCodeString (inConnections : NTV2XptConnections) : List Char :=
  (if inConfig.mShowComments then inConfig.headerText inConnections else []) ++
  (if inConfig.mShowDeclarations then inConfig.declarationText else []) ++
  inConnections.entries.flatMap (inConfig.callLine names) ++
  (if inConfig.mShowComments then
    inConfig.mMissing.entries.flatMap (inConfig.goneText names inConnections)
  else [])

end PrintCodeConfig

/-- Code with calls of the device and without declarations. -/
def callConfig (mShowComments : Bool) (mNew mChanged mMissing : NTV2XptConnections) :
    PrintCodeConfig :=
  { mShowComments, mShowDeclarations := false, mNew, mChanged, mMissing }

/-! ### Reading -/

/-- The text that is split into lines: in lower case and without blanks. -/
def stringToParse (inString : List Char) : List Char :=
  let stringToParse := Aja.strip (Aja.lower inString)
  let stringToParse := Aja.replace stringToParse " ".toList []
  let stringToParse := Aja.replace stringToParse "\t".toList []
  Aja.replace stringToParse "&lt;".toList "<".toList

namespace XptNames

variable (names : XptNames)

/-- A line with an arrow. -/
def readArrow (line : List Char) (outConnections : NTV2XptConnections) :
    Option NTV2XptConnections :=
  match findSub "<==".toList line with
  | none => none
  | some pos =>
      let leftPiece := Aja.strip (line.take pos)
      let rightPiece := Aja.strip ((line.drop (pos + 3)).take line.length)
      let inputXpt := names.stringToNTV2InputCrosspointID leftPiece
      let outputXpt := names.stringToNTV2OutputCrosspointID rightPiece
      if inputXpt = .inputCrosspointInvalid then none
      else some (outConnections.insert inputXpt outputXpt)

/-- The two names between the parentheses of a call. -/
def readNames (xptNames : List (List Char)) (outConnections : NTV2XptConnections) :
    Option NTV2XptConnections :=
  match xptNames with
  | [inputName, outputName] =>
      let inputXpt := names.stringToNTV2InputCrosspointID inputName
      let outputXpt := names.stringToNTV2OutputCrosspointID outputName
      if inputXpt = .inputCrosspointInvalid then none
      else if outputXpt = outputCrosspointInvalid then none
      else some (outConnections.insert inputXpt outputXpt)
  | _ => none

/-- A line with a call, or with nothing but a comment. -/
def readCall (eachLine : List Char) (outConnections : NTV2XptConnections) :
    Option NTV2XptConnections :=
  let line := Aja.strip eachLine
  if line = [] then some outConnections
  else if findSub "//".toList line = some 0 then some outConnections
  else
    match findSub "(".toList line, findSub ");".toList line with
    | some openParenPos, some closedParenPos =>
        if closedParenPos < openParenPos then none
        else
          let remainder := (line.drop (openParenPos + 1)).take (closedParenPos - openParenPos - 1)
          names.readNames (Aja.split remainder ',') outConnections
    | _, _ => none

/-- The lines one after the other, until one cannot be read. -/
def readLines (readLine : List Char → NTV2XptConnections → Option NTV2XptConnections) :
    List (List Char) → NTV2XptConnections → Bool × NTV2XptConnections
  | [], outConnections => (true, outConnections)
  | line :: lines, outConnections =>
      match readLine line outConnections with
      | none => (false, outConnections)
      | some outConnections' => readLines readLine lines outConnections'

/-- `CreateFromString`: the first line says how all of them are read. -/
def createFromString (inString : List Char) : Bool × NTV2XptConnections :=
  match tokenize (stringToParse inString) "\n\r".toList true with
  | [] => (true, .empty)
  | front :: lines =>
      if findSub "<==".toList front ≠ none then
        readLines names.readArrow (front :: lines) .empty
      else if findSub "connect(".toList front ≠ none then
        readLines names.readCall (front :: lines) .empty
      else (false, .empty)

end XptNames

end LibAjaNtv2
