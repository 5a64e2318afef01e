import Mathlib.Tactic
import LibAjaNtv2.Lib.RingLog

/-!
The message ring of the shared debug memory (`debug.cpp`, `debugshare.h`) and its reader
(`logreader/main.cpp`).

Any number of threads report messages, each store a step of its own and each byte of a text a
store; one reader polls the ring and fetches the messages member by member.

* `MessageData`, `AJADebugMessage`, `MessageShare`: the shared memory;
* `saferStrncpy`: how a text is stored;
* `WriterPc`, `writerStep`: `AJADebug::Report`;
* `ReaderPc`, `Reader.step`: the loop of the reader;
* `RingSystem.step`: any order of their steps, and of changes of the destinations and of the
  clients;
* `ring_step`: **the system is a log kept in a ring**.
-/

namespace LibAjaNtv2

/-! ### The shared memory -/

/-- `AJA_DEBUG_UNIT_ARRAY_SIZE`. -/
def ajaDebugUnitArraySize : ℤ := 65536

/-- `AJA_DEBUG_MESSAGE_RING_SIZE`. -/
def ajaDebugMessageRingSize : ℕ := 4096

/-- `AJA_DEBUG_MESSAGE_MAX_SIZE`. -/
def ajaDebugMessageMaxSize : ℕ := 512

/-- `AJA_DEBUG_FILE_NAME_MAX_SIZE`. -/
def ajaDebugFileNameMaxSize : ℕ := 512

/-- The members of `AJADebugMessage` but the sequence number. -/
@[ext]
structure MessageData where
  time : ℤ
  wallTime : ℤ
  groupIndex : ℤ
  destinationMask : BitVec 32
  severity : ℤ
  lineNumber : ℤ
  pid : ℕ
  tid : ℕ
  fileName : Fin ajaDebugFileNameMaxSize → UInt8
  messageText : Fin ajaDebugMessageMaxSize → UInt8

/-- Zeros, as the memory is to begin with. -/
def MessageData.zero : MessageData :=
  ⟨0, 0, 0, 0, 0, 0, 0, 0, fun _ => 0, fun _ => 0⟩

/-- `AJADebugMessage`. -/
structure AJADebugMessage extends MessageData where
  sequenceNumber : ℕ

/-- The members of `AJADebugShare` that the messages use. -/
structure MessageShare where
  writeIndex : ℕ
  clientRefCount : ℤ
  statsMessagesAccepted : ℕ
  statsMessagesIgnored : ℕ
  unitArray : ℕ → BitVec 32
  messageRing : ℕ → AJADebugMessage

/-- `messageRing[sequenceNumber % AJA_DEBUG_MESSAGE_RING_SIZE]`. -/
def MessageShare.message (sh : MessageShare) (sequenceNumber : ℕ) : AJADebugMessage :=
  sh.messageRing (sequenceNumber % ajaDebugMessageRingSize)

/-- What is stored at once: a member, or a byte of a text. -/
inductive MessageCell where
  | groupIndex
  | destinationMask
  | time
  | wallTime
  | fileName (i : Fin ajaDebugFileNameMaxSize)
  | lineNumber
  | severity
  | pid
  | tid
  | messageText (i : Fin ajaDebugMessageMaxSize)
  deriving DecidableEq

namespace MessageCell

/-- The type of a cell. -/
@[reducible]
def Value : MessageCell → Type
  | groupIndex | time | wallTime | lineNumber | severity => ℤ
  | destinationMask => BitVec 32
  | pid | tid => ℕ
  | fileName _ | messageText _ => UInt8

/-- What a cell holds. -/
def get : (c : MessageCell) → MessageData → c.Value
  | groupIndex, m => m.groupIndex
  | destinationMask, m => m.destinationMask
  | time, m => m.time
  | wallTime, m => m.wallTime
  | fileName i, m => m.fileName i
  | lineNumber, m => m.lineNumber
  | severity, m => m.severity
  | pid, m => m.pid
  | tid, m => m.tid
  | messageText i, m => m.messageText i

/-- One cell is stored. -/
def copy : MessageCell → MessageData → MessageData → MessageData
  | groupIndex, src, m => { m with groupIndex := src.groupIndex }
  | destinationMask, src, m => { m with destinationMask := src.destinationMask }
  | time, src, m => { m with time := src.time }
  | wallTime, src, m => { m with wallTime := src.wallTime }
  | fileName i, src, m => { m with fileName := Function.update m.fileName i (src.fileName i) }
  | lineNumber, src, m => { m with lineNumber := src.lineNumber }
  | severity, src, m => { m with severity := src.severity }
  | pid, src, m => { m with pid := src.pid }
  | tid, src, m => { m with tid := src.tid }
  | messageText i, src, m =>
      { m with messageText := Function.update m.messageText i (src.messageText i) }

/-- The cell that is stored holds what was stored. -/
@[simp] lemma get_copy_self (c : MessageCell) (src m : MessageData) :
    c.get (c.copy src m) = c.get src := by
  cases c <;> simp [get, copy]

/-- The other cells keep what they hold. -/
lemma get_copy_of_ne {c d : MessageCell} (h : d ≠ c) (src m : MessageData) :
    d.get (c.copy src m) = d.get m := by
  cases c <;> cases d <;> first | rfl | exact absurd rfl h | skip
  all_goals
    refine Function.update_of_ne ?_ ..
    rintro rfl
    exact h rfl

/-- The cells of the file name. -/
def fileNames : List MessageCell := (List.finRange ajaDebugFileNameMaxSize).map fileName

/-- The cells of the text. -/
def messageTexts : List MessageCell := (List.finRange ajaDebugMessageMaxSize).map messageText

end MessageCell

/-! ### Texts -/

/-- The characters of a C string in some bytes. -/
def cString (bytes : List UInt8) : List UInt8 := bytes.takeWhile (· ≠ 0)

/-- What `safer_strncpy` stores, from the start of the target on. -/
def saferStrncpy (source : List UInt8) (num maxSize : ℕ) : List UInt8 :=
  let num := if maxSize ≤ num then maxSize - 1 else num
  (List.range num).map (fun i => (cString source).getD i 0) ++ [0]

/-- The text in an array of characters. -/
def arrayText {n : ℕ} (a : Fin n → UInt8) : List UInt8 := cString (List.ofFn a)

/-! ### `Report` -/

/-- The arguments of `Report`, and who calls it. -/
structure ReportCall where
  index : ℤ
  severity : ℤ
  pFileName : Option (List UInt8)
  lineNumber : ℤ
  message : List UInt8
  pid : ℕ
  tid : ℕ

namespace ReportCall

/-- The group: `AJA_DebugUnit_Unknown` for an index that is none. -/
def group (call : ReportCall) : ℤ :=
  if call.index < 0 ∨ ajaDebugUnitArraySize ≤ call.index then 0 else call.index

/-- The severity: `AJA_DebugSeverity_Warning` for one that is none. -/
def severityOf (call : ReportCall) : ℤ :=
  if call.severity < 0 ∨ 8 ≤ call.severity then 4 else call.severity

/-- The name of the file, a C string: `unknown` where there is none. -/
def fileOf (call : ReportCall) : List UInt8 :=
  cString (call.pFileName.getD [117, 110, 107, 110, 111, 119, 110])

/-- The bytes stored in `fileName`. -/
def fileBytes (call : ReportCall) : List UInt8 :=
  saferStrncpy call.fileOf call.fileOf.length ajaDebugFileNameMaxSize

/-- The bytes stored in `messageText`. -/
def textBytes (call : ReportCall) : List UInt8 :=
  saferStrncpy (call.message ++ [0]) (call.message.length + 1) ajaDebugMessageMaxSize

/-- What the call stores, for the destination and the times at hand. -/
def data (call : ReportCall) (destinationMask : BitVec 32) (time wallTime : ℤ) : MessageData where
  time := time
  wallTime := wallTime
  groupIndex := call.group
  destinationMask := destinationMask
  severity := call.severityOf
  lineNumber := call.lineNumber
  pid := call.pid
  tid := call.tid
  fileName i := call.fileBytes.getD i 0
  messageText i := call.textBytes.getD i 0

/-- The cells that the call stores, in its order. -/
def cells (call : ReportCall) : List MessageCell :=
  [.groupIndex, .destinationMask, .time, .wallTime] ++
    MessageCell.fileNames.take call.fileBytes.length ++
    [.lineNumber, .severity, .pid, .tid] ++
    MessageCell.messageTexts.take call.textBytes.length

end ReportCall

/-- Where a thread is in `Report`. -/
inductive WriterPc where
  | idle
  | clients (call : ReportCall)
  | destination (call : ReportCall)
  | ignore
  | reserve (call : ReportCall)
  | store (call : ReportCall) (writeIndex : ℕ) (todo : List MessageCell)
  | account

/-- The number that a thread reports. -/
def WriterPc.number : WriterPc → Option ℕ
  | store _ writeIndex _ => some writeIndex
  | _ => none

/-! ### The reader -/

/-- Where the reader is: it starts, looks for a new message, finds out its number, reads its
destination, fetches what the filter needs, fetches the rest. -/
inductive ReaderPc where
  | start
  | poll
  | find
  | destination
  | fetch (todo : List MessageCell)
  | finish (todo : List MessageCell)

/-- A message as the reader shows it, and the index of the last message reported by then. -/
structure ShownMessage where
  messageIndex : ℕ
  message : MessageData
  writeIndex : ℕ

/-- The reader. `startIndex` is the `readIndex` it starts with, and `taken` are the numbers it has
gone through, the last one first, each with the index of the last message reported by then. -/
structure Reader where
  pc : ReaderPc
  startIndex : ℕ
  readIndex : ℕ
  lastIndex : ℕ
  message : MessageData
  taken : List (ℕ × ℕ)
  shown : List ShownMessage

namespace Reader

/-- What the filter needs, in the order it is fetched. -/
def filterCells : List MessageCell :=
  [.groupIndex, .time, .severity] ++ MessageCell.messageTexts ++ [.pid, .tid]

/-- What is fetched for a message that is shown. -/
def shownCells : List MessageCell := [.lineNumber] ++ MessageCell.fileNames

/-- The reader goes on to the next message. -/
def next (r : Reader) : Reader := { r with readIndex := r.readIndex + 1, pc := .poll }

/-- One step of the reader. A member is refused while `readIndex` is not yet given out: a message
without its process and its thread is still shown, others are passed over. -/
def step (shows : MessageData → Bool) (sh : MessageShare) (r : Reader) : Reader :=
  match r.pc with
  | .start => { r with startIndex := sh.writeIndex, readIndex := sh.writeIndex, pc := .poll }
  | .poll => if r.lastIndex < sh.writeIndex then { r with pc := .find } else r
  | .find =>
      if r.readIndex ≤ sh.writeIndex ∧ r.lastIndex < (sh.message r.readIndex).sequenceNumber then
        { r with
          lastIndex := (sh.message r.readIndex).sequenceNumber
          message := .zero
          taken := ((sh.message r.readIndex).sequenceNumber, sh.writeIndex) :: r.taken
          pc := .destination }
      else { r with pc := .poll }
  | .destination =>
      if r.readIndex ≤ sh.writeIndex ∧ (sh.message r.readIndex).destinationMask ≠ 0 then
        { r with
          message := MessageCell.destinationMask.copy (sh.message r.readIndex).toMessageData r.message
          pc := .fetch filterCells }
      else r.next
  | .fetch [] => if shows r.message then { r with pc := .finish shownCells } else r.next
  | .fetch (c :: todo) =>
      if r.readIndex ≤ sh.writeIndex then
        { r with
          message := c.copy (sh.message r.readIndex).toMessageData r.message
          pc := .fetch todo }
      else if c = .pid ∨ c = .tid then { r with pc := .fetch todo }
      else r.next
  | .finish [] =>
      { r.next with shown := ⟨r.lastIndex, r.message, sh.writeIndex⟩ :: r.shown }
  | .finish (c :: todo) =>
      if r.readIndex ≤ sh.writeIndex then
        { r with
          message := c.copy (sh.message r.readIndex).toMessageData r.message
          pc := .finish todo }
      else { r with pc := .finish todo }

/-- The reader before its first step. -/
def initial : Reader := ⟨.start, 0, 0, 0, .zero, [], []⟩

end Reader

/-! ### The system -/

/-- The shared memory, the threads and the reader. `reports k` is what report number `k` has
stored, and `callers k` the call it is of: neither is in the memory. -/
structure RingSystem (ι : Type*) where
  share : MessageShare
  writer : ι → WriterPc
  reader : Reader
  reports : ℕ → MessageData
  callers : ℕ → Option ReportCall

/-- What happens next: a thread goes on, for a call and at times that are its own; the
destination of a group, or the number of the clients, is set; the reader goes on. -/
inductive RingEvent (ι : Type*) where
  | write (w : ι) (call : ReportCall) (time wallTime : ℤ)
  | setDestination (index : ℤ) (destination : BitVec 32)
  | setClientReferenceCount (refCount : ℤ)
  | read

namespace RingSystem

variable {ι : Type*} [DecidableEq ι]

/-- The thread is at `pc` next. -/
def goTo (s : RingSystem ι) (w : ι) (pc : WriterPc) : RingSystem ι :=
  { s with writer := Function.update s.writer w pc }

/-- One step of `Report`. -/
def writerStep (s : RingSystem ι) (w : ι) (call : ReportCall) (time wallTime : ℤ) :
    RingSystem ι :=
  match s.writer w with
  | .idle => s.goTo w (.clients call)
  | .clients call =>
      if s.share.clientRefCount ≤ 0 then s.goTo w .idle else s.goTo w (.destination call)
  | .destination call =>
      if s.share.unitArray call.group.toNat = 0 then s.goTo w .ignore else s.goTo w (.reserve call)
  | .ignore =>
      { s.goTo w .idle with
        share := { s.share with statsMessagesIgnored := s.share.statsMessagesIgnored + 1 } }
  | .reserve call =>
      let writeIndex := s.share.writeIndex + 1
      { s.goTo w (.store call writeIndex call.cells) with
        share := { s.share with writeIndex := writeIndex }
        reports := Function.update s.reports writeIndex (s.share.message writeIndex).toMessageData
        callers := Function.update s.callers writeIndex (some call) }
  | .store call writeIndex (c :: todo) =>
      let data := call.data (s.share.unitArray call.group.toNat) time wallTime
      let m := s.share.message writeIndex
      { s.goTo w (.store call writeIndex todo) with
        share :=
          { s.share with
            messageRing := Function.update s.share.messageRing (writeIndex % ajaDebugMessageRingSize)
              ⟨c.copy data m.toMessageData, m.sequenceNumber⟩ }
        reports := Function.update s.reports writeIndex (c.copy data (s.reports writeIndex)) }
  | .store _ writeIndex [] =>
      { s.goTo w .account with
        share :=
          { s.share with
            messageRing := Function.update s.share.messageRing (writeIndex % ajaDebugMessageRingSize)
              ⟨(s.share.message writeIndex).toMessageData, writeIndex⟩ } }
  | .account =>
      { s.goTo w .idle with
        share := { s.share with statsMessagesAccepted := s.share.statsMessagesAccepted + 1 } }

/-- `SetDestination`. -/
def setDestination (sh : MessageShare) (index : ℤ) (destination : BitVec 32) : MessageShare :=
  if index < 0 ∨ ajaDebugUnitArraySize ≤ index then sh
  else { sh with unitArray := Function.update sh.unitArray index.toNat destination }

/-- One step of the system. -/
def step (shows : MessageData → Bool) (s : RingSystem ι) : RingEvent ι → RingSystem ι
  | .write w call time wallTime => s.writerStep w call time wallTime
  | .setDestination index destination =>
      { s with share := RingSystem.setDestination s.share index destination }
  | .setClientReferenceCount refCount =>
      { s with share := { s.share with clientRefCount := refCount } }
  | .read => { s with reader := s.reader.step shows s.share }

/-- The memory as `Open` leaves it, with no thread in `Report`. -/
def initial : RingSystem ι where
  share := ⟨0, 0, 0, 0, Function.update (fun _ => 0) 1 2, fun _ => ⟨.zero, 0⟩⟩
  writer _ := .idle
  reader := .initial
  reports _ := .zero
  callers _ := none

/-! ### The log in the ring -/

/-- The system as a log in a ring. -/
def ring (s : RingSystem ι) : RingLog ι MessageData where
  last := s.share.writeIndex
  slot j := (s.share.messageRing j).toMessageData
  published j := (s.share.messageRing j).sequenceNumber
  opened w := (s.writer w).number
  record := s.reports

/-- What a step of a thread does to the log. -/
def action (s : RingSystem ι) : RingEvent ι → Option (RingLog.Action ι MessageData)
  | .write w _ time wallTime =>
      match s.writer w with
      | .reserve _ => some (.reserve w)
      | .store call _ (c :: _) =>
          some (.store w (c.copy (call.data (s.share.unitArray call.group.toNat) time wallTime)))
      | .store _ _ [] => some (.publish w)
      | _ => none
  | _ => none

lemma opened_goTo (s : RingSystem ι) (w : ι) (pc : WriterPc) :
    (s.goTo w pc).ring.opened = Function.update s.ring.opened w pc.number :=
  Function.comp_update WriterPc.number s.writer w pc

/-- A thread that keeps its number leaves the numbers as they are. -/
lemma opened_goTo_of_eq {s : RingSystem ι} {w : ι} (pc : WriterPc)
    (h : pc.number = (s.writer w).number) : (s.goTo w pc).ring.opened = s.ring.opened := by
  rw [opened_goTo, h]
  exact Function.update_eq_self w _

lemma ring_goTo {s : RingSystem ι} {w : ι} (pc : WriterPc)
    (h : pc.number = (s.writer w).number) : (s.goTo w pc).ring = s.ring :=
  RingLog.ext rfl rfl rfl (opened_goTo_of_eq pc h) rfl

/-- **A step of the system is a step of the log, or leaves it as it is.** -/
theorem ring_step (shows : MessageData → Bool) (s : RingSystem ι) (e : RingEvent ι) :
    (s.step shows e).ring = (s.action e).elim s.ring (s.ring.step ajaDebugMessageRingSize) := by
  cases e with
  | write w call time wallTime =>
      have hopened : s.ring.opened w = (s.writer w).number := rfl
      simp only [step, writerStep, action]
      cases hpc : s.writer w with
      | idle => exact ring_goTo _ (by rw [hpc]; rfl)
      | clients c =>
          dsimp only
          split_ifs
          · exact ring_goTo _ (by rw [hpc]; rfl)
          · exact ring_goTo _ (by rw [hpc]; rfl)
      | destination c =>
          dsimp only
          split_ifs
          · exact ring_goTo _ (by rw [hpc]; rfl)
          · exact ring_goTo _ (by rw [hpc]; rfl)
      | ignore => exact ring_goTo .idle (by rw [hpc]; rfl)
      | account => exact ring_goTo .idle (by rw [hpc]; rfl)
      | reserve c =>
          rw [hpc] at hopened
          simp only [Option.elim_some, RingLog.step, hopened, WriterPc.number]
          exact RingLog.ext rfl rfl rfl (opened_goTo ..) rfl
      | store c k todo =>
          rw [hpc] at hopened
          cases todo with
          | nil =>
              simp only [Option.elim_some, RingLog.step, hopened, WriterPc.number]
              refine RingLog.ext rfl ?_ ?_ (opened_goTo ..) rfl
              · funext j
                rcases eq_or_ne j (k % ajaDebugMessageRingSize) with rfl | hj
                · simp [ring, MessageShare.message]
                · simp [ring, hj]
              · funext j
                rcases eq_or_ne j (k % ajaDebugMessageRingSize) with rfl | hj
                · simp [ring]
                · simp [ring, hj]
          | cons d todo =>
              simp only [Option.elim_some, RingLog.step, hopened, WriterPc.number]
              refine RingLog.ext rfl ?_ ?_ ?_ rfl
              · funext j
                rcases eq_or_ne j (k % ajaDebugMessageRingSize) with rfl | hj
                · simp [ring, MessageShare.message]
                · simp [ring, hj]
              · funext j
                rcases eq_or_ne j (k % ajaDebugMessageRingSize) with rfl | hj
                · simp [ring, MessageShare.message]
                · simp [ring, hj]
              · exact opened_goTo_of_eq (.store c k todo) (by rw [hpc]; rfl)
  | setDestination index destination =>
      simp only [step, setDestination]
      split_ifs <;> rfl
  | setClientReferenceCount refCount => rfl
  | read => rfl

end RingSystem

end LibAjaNtv2
