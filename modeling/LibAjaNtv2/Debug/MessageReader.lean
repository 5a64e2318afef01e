import Mathlib.Tactic
import Mathlib.Data.List.TakeWhile
import LibAjaNtv2.Debug.MessageRing

/-!
What the reader of the message ring gets, under every interleaving of the threads that report and
the reader.

* `RingSystem.KeepsUp`: no report is a whole ring behind;
* `Stored`: what the threads have stored so far, of the calls they are in;
* `Fetching`: what the reader has fetched so far;
* `messages_whole`: **a message that is shown less than a ring after its report is the whole of
  that report**, whatever the order of the stores and the fetches;
* `reader_in_order`: **the reader goes through the reports in their order and, unless it falls a
  ring behind, leaves none out**; one that starts before the first report misses the first ring.
-/

namespace LibAjaNtv2

/-! ### Texts -/

lemma ajaDebugFileNameMaxSize_pos : 0 < ajaDebugFileNameMaxSize := by decide

lemma ajaDebugMessageMaxSize_pos : 0 < ajaDebugMessageMaxSize := by decide

/-- Two C strings of which only one ends earlier are the same. -/
lemma cString_append_zero (bytes : List UInt8) : cString (bytes ++ [0]) = cString bytes := by
  rw [cString, List.takeWhile_append]
  split_ifs with h
  · have hall := (List.takeWhile_prefix _).eq_of_length h
    rw [cString, hall]
    simp
  · rfl

@[simp] lemma cString_cString (bytes : List UInt8) : cString (cString bytes) = cString bytes :=
  List.takeWhile_idem ..

/-- **A text that is stored whole is read back, as much of it as has room.** -/
lemma arrayText_of_stored {n num : ℕ} {source : List UInt8} {a : Fin n → UInt8} (hn : 0 < n)
    (hnum : (cString source).length ≤ num)
    (ha : ∀ i : Fin n, i.val < (saferStrncpy source num n).length →
      a i = (saferStrncpy source num n).getD i 0) :
    arrayText a = (cString source).take (n - 1) := by
  obtain ⟨m, hm⟩ : ∃ m, m = if n ≤ num then n - 1 else num := ⟨_, rfl⟩
  have hmn : m < n := by
    rw [hm]
    split_ifs <;> omega
  have htake : (cString source).take (n - 1) = (cString source).take m := by
    rw [List.take_eq_take_iff, hm]
    split_ifs <;> omega
  have hbytes : saferStrncpy source num n =
      (List.range m).map (fun i => (cString source).getD i 0) ++ [0] := by
    rw [saferStrncpy, ← hm]
  have hval : ∀ i : Fin n, i.val ≤ m →
      a i = if i.val < m then (cString source).getD i 0 else 0 := by
    intro i hi
    rw [ha i (by simpa [hbytes] using Nat.lt_succ_of_le hi), hbytes]
    split_ifs with hlt
    · simp [List.getD_eq_getElem?_getD, List.getElem?_append, hlt]
    · have : i.val = m := by omega
      simp [List.getD_eq_getElem?_getD, this]
  rw [htake]
  generalize hcs : cString source = cs at *
  have hnz : ∀ x ∈ cs.take m, (decide (x ≠ 0)) = true := by
    intro x hx
    rw [← hcs] at hx
    have hmem : x ∈ source.takeWhile (· ≠ 0) := List.mem_of_mem_take hx
    exact List.mem_takeWhile_imp (p := fun x => decide (x ≠ 0)) hmem
  have hL : (cs.take m).length ≤ m := by simp
  have hfront : (List.ofFn a).take (cs.take m).length = cs.take m := by
    refine List.ext_getElem (by simp; omega) fun i h₁ h₂ => ?_
    have hi : i < m := by omega
    have hic : i < cs.length := by simp at h₂; omega
    simp [hval ⟨i, by omega⟩ hi.le, hi, List.getD_eq_getElem?_getD, hic]
  have hzero : a ⟨(cs.take m).length, by omega⟩ = 0 := by
    rw [hval _ hL]
    split_ifs with hlt
    · have hlen : cs.length ≤ (cs.take m).length := by
        simp only [List.length_take] at hlt ⊢
        omega
      rw [List.getD_eq_getElem?_getD, List.getElem?_eq_none hlen, Option.getD_none]
    · rfl
  rw [arrayText, cString, ← List.take_append_drop (cs.take m).length (List.ofFn a), hfront,
    List.takeWhile_append_of_pos hnz,
    List.drop_eq_getElem_cons (by simpa using by omega), List.getElem_ofFn, hzero]
  simp

/-! ### Calls -/

/-- The cell is stored as the call has it: the destination and the times are not the call's. -/
def MessageCell.OfCall (c : MessageCell) : Prop :=
  c ≠ .destinationMask ∧ c ≠ .time ∧ c ≠ .wallTime

/-- What a call stores in a cell of its own does not depend on the destination and the times. -/
lemma MessageCell.OfCall.get_data {c : MessageCell} (hc : c.OfCall) (call : ReportCall)
    (mask mask' : BitVec 32) (time time' wallTime wallTime' : ℤ) :
    c.get (call.data mask time wallTime) = c.get (call.data mask' time' wallTime') := by
  obtain ⟨h₁, h₂, h₃⟩ := hc
  cases c with
  | destinationMask => exact absurd rfl h₁
  | time => exact absurd rfl h₂
  | wallTime => exact absurd rfl h₃
  | _ => rfl

/-- The message is what the call reports. -/
structure MessageData.Reports (m : MessageData) (call : ReportCall) : Prop where
  groupIndex : m.groupIndex = call.group
  severity : m.severity = call.severityOf
  lineNumber : m.lineNumber = call.lineNumber
  pid : m.pid = call.pid
  tid : m.tid = call.tid
  fileName : arrayText m.fileName = call.fileOf.take (ajaDebugFileNameMaxSize - 1)
  messageText : arrayText m.messageText =
    (cString call.message).take (ajaDebugMessageMaxSize - 1)

namespace RingSystem

variable {ι : Type*} [DecidableEq ι] {shows : MessageData → Bool} {s : RingSystem ι}

/-! ### The ring -/

/-- The step leaves no report a whole ring behind. -/
def KeepsUp (shows : MessageData → Bool) (s : RingSystem ι) (e : RingEvent ι) : Prop :=
  ∀ w k, ((s.step shows e).writer w).number = some k →
    (s.step shows e).share.writeIndex < k + ajaDebugMessageRingSize

variable (shows) in
/-- Every step keeps the numbers in their slots. -/
lemma stamped_step (h : RingLog.Stamped ajaDebugMessageRingSize s.ring) (e : RingEvent ι) :
    RingLog.Stamped ajaDebugMessageRingSize (s.step shows e).ring := by
  rw [ring_step]
  cases s.action e with
  | none => exact h
  | some a => exact h.step a

/-- A step that leaves no report a ring behind keeps the ring in order. -/
lemma current_step (h : RingLog.Current ajaDebugMessageRingSize s.ring) {e : RingEvent ι}
    (he : KeepsUp shows s e) : RingLog.Current ajaDebugMessageRingSize (s.step shows e).ring := by
  have he : RingLog.Abreast ajaDebugMessageRingSize (s.step shows e).ring := he
  rw [ring_step] at he ⊢
  cases ha : s.action e with
  | none => exact h
  | some a =>
      rw [ha] at he
      exact h.step he

omit [DecidableEq ι] in
@[simp] lemma opened_initial (w : ι) : (initial (ι := ι)).ring.opened w = none := rfl

omit [DecidableEq ι] in
/-- The ring is in order to begin with. -/
lemma current_initial : RingLog.Current ajaDebugMessageRingSize (initial (ι := ι)).ring where
  stamped := ⟨by simp, by simp, fun _ => le_rfl, fun _ => .inl rfl⟩
  abreast := by simp [RingLog.Abreast]
  slot _ hk := absurd hk.1 (Nat.not_lt.mpr hk.2.1)
  published _ hk := absurd hk.1 (Nat.not_lt.mpr hk.2.1)

variable (shows) in
/-- The last number does not go back. -/
lemma writeIndex_le_step (s : RingSystem ι) (e : RingEvent ι) :
    s.share.writeIndex ≤ (s.step shows e).share.writeIndex := by
  have h : (s.step shows e).share.writeIndex = (s.step shows e).ring.last := rfl
  rw [h, ring_step]
  cases s.action e with
  | none => exact le_rfl
  | some a => exact s.ring.last_le_step a

/-- No thread is at the report. -/
def Done (s : RingSystem ι) (k : ℕ) : Prop := k ≤ s.share.writeIndex ∧ ∀ w, s.ring.opened w ≠ some k

variable (shows) in
/-- A report that is done stays done, and as it is. -/
lemma Done.step {k : ℕ} (h : s.Done k) (e : RingEvent ι) :
    (s.step shows e).Done k ∧ (s.step shows e).reports k = s.reports k := by
  have hle := h.1.trans (writeIndex_le_step shows s e)
  have hr : (s.step shows e).reports k = (s.step shows e).ring.record k := rfl
  unfold Done
  rw [hr, ring_step]
  cases s.action e with
  | none => exact ⟨⟨hle, h.2⟩, rfl⟩
  | some a => exact ⟨⟨hle, RingLog.opened_step h.1 h.2 a⟩, RingLog.record_step h.1 h.2 a⟩

/-! ### What the threads store -/

/-- The report has the cell of its call. -/
def Holds (s : RingSystem ι) (k : ℕ) (call : ReportCall) (c : MessageCell) : Prop :=
  c.get (s.reports k) = c.get (call.data 0 0 0)

/-- Which call each report is of, and what of it is stored. -/
structure Stored (s : RingSystem ι) : Prop where
  caller : ∀ w call k todo, s.writer w = .store call k todo → s.callers k = some call
  known : ∀ k call, s.callers k = some call → k ≤ s.share.writeIndex
  called : ∀ k, 0 < k → k ≤ s.share.writeIndex → ∃ call, s.callers k = some call
  stored : ∀ k call, s.callers k = some call → ∀ c ∈ call.cells, c.OfCall →
    (∀ w call' todo, s.writer w = .store call' k todo → c ∉ todo) → s.Holds k call c

/-- Nothing is changed for the reports when a thread goes on outside of them. -/
lemma Stored.goTo (h : s.Stored) {w : ι} {pc : WriterPc} {t : RingSystem ι}
    (hw : (s.writer w).number = none) (hpc : pc.number = none)
    (ht : t.writer = Function.update s.writer w pc) (hc : t.callers = s.callers)
    (hr : t.reports = s.reports) (hi : t.share.writeIndex = s.share.writeIndex) : t.Stored := by
  have hat : ∀ v call k todo, t.writer v = .store call k todo ↔ s.writer v = .store call k todo := by
    intro v call k todo
    rw [ht]
    rcases eq_or_ne v w with rfl | hv
    · rw [Function.update_self]
      refine ⟨fun h => ?_, fun h => ?_⟩
      · rw [h] at hpc
        cases hpc
      · rw [h] at hw
        cases hw
    · rw [Function.update_of_ne hv]
  refine ⟨?_, ?_, ?_, ?_⟩
  · intro v call k todo hv
    rw [hc]
    exact h.caller v call k todo ((hat ..).mp hv)
  · rw [hc, hi]
    exact h.known
  · rw [hc, hi]
    exact h.called
  · intro k call hk c hcell hof htodo
    rw [hc] at hk
    unfold Holds
    rw [hr]
    exact h.stored k call hk c hcell hof fun v call' todo hv => htodo v call' todo ((hat ..).mpr hv)

/-- **Every step keeps what is stored.** -/
theorem Stored.step (h : s.Stored) (hst : RingLog.Stamped ajaDebugMessageRingSize s.ring)
    (e : RingEvent ι) : (s.step shows e).Stored := by
  cases e with
  | write w call time wallTime =>
      simp only [RingSystem.step, writerStep]
      cases hpc : s.writer w with
      | idle => exact h.goTo (by rw [hpc]; rfl) rfl rfl rfl rfl rfl
      | clients c =>
          dsimp only
          split_ifs
          · exact h.goTo (by rw [hpc]; rfl) rfl rfl rfl rfl rfl
          · exact h.goTo (by rw [hpc]; rfl) rfl rfl rfl rfl rfl
      | destination c =>
          dsimp only
          split_ifs
          · exact h.goTo (by rw [hpc]; rfl) rfl rfl rfl rfl rfl
          · exact h.goTo (by rw [hpc]; rfl) rfl rfl rfl rfl rfl
      | ignore => exact h.goTo (by rw [hpc]; rfl) rfl rfl rfl rfl rfl
      | account => exact h.goTo (by rw [hpc]; rfl) rfl rfl rfl rfl rfl
      | reserve c =>
          have hlt : ∀ v call k todo, s.writer v = .store call k todo → k ≤ s.share.writeIndex :=
            fun v call k todo hv => (hst.opened v k (congrArg WriterPc.number hv)).2
          refine ⟨fun v call k todo hv => ?_, fun k call hk => ?_, fun k hk hle => ?_,
            fun k call hk d hd hof htodo => ?_⟩
          · rcases update_eq_iff.mp hv with ⟨-, hv⟩ | ⟨-, hv⟩
            · cases hv
              exact Function.update_self ..
            · have := hlt v call k todo hv
              exact (Function.update_of_ne (by omega) ..).trans (h.caller v call k todo hv)
          · rcases update_eq_iff.mp hk with ⟨rfl, -⟩ | ⟨-, hk⟩
            · exact le_rfl
            · exact (h.known k call hk).trans (Nat.le_succ _)
          · rcases eq_or_ne k (s.share.writeIndex + 1) with rfl | hne
            · exact ⟨c, Function.update_self ..⟩
            · obtain ⟨call, hcall⟩ := h.called k hk (by dsimp only at hle; omega)
              exact ⟨call, (Function.update_of_ne hne ..).trans hcall⟩
          · rcases update_eq_iff.mp hk with ⟨rfl, hc⟩ | ⟨hne, hk⟩
            · cases hc
              exact absurd hd (htodo w c c.cells (Function.update_self ..))
            · unfold Holds
              simp only [Function.update_of_ne hne]
              refine h.stored k call hk d hd hof fun v call' todo hv => ?_
              refine htodo v call' todo (update_eq_iff.mpr (.inr ⟨?_, hv⟩))
              rintro rfl
              rw [hpc] at hv
              cases hv
      | store c k todo =>
          cases todo with
          | nil =>
              refine ⟨fun v call l todo hv => ?_, h.known, h.called,
                fun l call hl d hd hof htodo => ?_⟩
              · rcases update_eq_iff.mp hv with ⟨-, hv⟩ | ⟨-, hv⟩
                · cases hv
                · exact h.caller v call l todo hv
              · refine h.stored l call hl d hd hof fun v call' todo hv => ?_
                rcases eq_or_ne v w with rfl | hvw
                · rw [hpc] at hv
                  cases hv
                  exact List.not_mem_nil
                · exact htodo v call' todo (update_eq_iff.mpr (.inr ⟨hvw, hv⟩))
          | cons b todo =>
              have hmine := h.caller w c k _ hpc
              refine ⟨fun v call l todo' hv => ?_, h.known, h.called,
                fun l call hl d hd hof htodo => ?_⟩
              · rcases update_eq_iff.mp hv with ⟨-, hv⟩ | ⟨-, hv⟩
                · cases hv
                  exact hmine
                · exact h.caller v call l todo' hv
              · have hl : s.callers l = some call := hl
                unfold Holds
                rcases eq_or_ne l k with rfl | hne
                · obtain rfl := Option.some.inj (hmine.symm.trans hl)
                  simp only [Function.update_self]
                  rcases eq_or_ne d b with rfl | hdb
                  · rw [MessageCell.get_copy_self]
                    exact hof.get_data ..
                  · rw [MessageCell.get_copy_of_ne hdb]
                    refine h.stored l c hl d hd hof fun v call' todo' hv => ?_
                    have hvw := hst.distinct v w l (congrArg WriterPc.number hv)
                      (congrArg WriterPc.number hpc)
                    subst hvw
                    rw [hpc] at hv
                    cases hv
                    have := htodo v c todo (Function.update_self ..)
                    simp [hdb, this]
                · simp only [Function.update_of_ne hne]
                  refine h.stored l call hl d hd hof fun v call' todo' hv => ?_
                  refine htodo v call' todo' (update_eq_iff.mpr (.inr ⟨?_, hv⟩))
                  rintro rfl
                  rw [hpc] at hv
                  cases hv
                  exact hne rfl
  | setDestination index destination =>
      have hi : (setDestination s.share index destination).writeIndex = s.share.writeIndex := by
        unfold setDestination
        split_ifs <;> rfl
      refine ⟨h.caller, fun k call hk => ?_, fun k hk hle => h.called k hk ?_, h.stored⟩
      · exact hi ▸ h.known k call hk
      · exact hi ▸ hle
  | setClientReferenceCount refCount => exact ⟨h.caller, h.known, h.called, h.stored⟩
  | read => exact ⟨h.caller, h.known, h.called, h.stored⟩

omit [DecidableEq ι] in
/-- Nothing is stored to begin with. -/
lemma stored_initial : (initial (ι := ι)).Stored where
  caller _ _ _ _ h := by cases h
  known _ _ h := by cases h
  called _ hk hle := absurd hk (Nat.not_lt.mpr hle)
  stored _ _ h := by cases h

omit [DecidableEq ι] in
/-- **A report that is done is that of its call.** -/
lemma Stored.reports (h : s.Stored) {k : ℕ} (hk : 0 < k) (hdone : s.Done k) :
    ∃ call, s.callers k = some call ∧ (s.reports k).Reports call := by
  obtain ⟨call, hcall⟩ := h.called k hk hdone.1
  have hcell : ∀ c ∈ call.cells, c.OfCall → s.Holds k call c := fun c hc hof =>
    h.stored k call hcall c hc hof fun w call' todo hw =>
      absurd (congrArg WriterPc.number hw) (hdone.2 w)
  have hplain : ∀ c ∈ [MessageCell.groupIndex, .lineNumber, .severity, .pid, .tid],
      s.Holds k call c := by
    intro c hc
    have hof : c.OfCall := by
      simp only [List.mem_cons, List.not_mem_nil, or_false] at hc
      rcases hc with rfl | rfl | rfl | rfl | rfl <;> exact ⟨by simp, by simp, by simp⟩
    refine hcell c ?_ hof
    simp only [ReportCall.cells, List.mem_append]
    simp at hc ⊢
    tauto
  have hfile : ∀ i : Fin ajaDebugFileNameMaxSize, i.val < call.fileBytes.length →
      (s.reports k).fileName i = call.fileBytes.getD i 0 := by
    intro i hi
    have hmem : MessageCell.fileName i ∈ MessageCell.fileNames.take call.fileBytes.length :=
      List.mem_take_iff_getElem.mpr ⟨i, by simpa [MessageCell.fileNames] using hi, by
        simp [MessageCell.fileNames]⟩
    exact hcell (.fileName i) (by simp [ReportCall.cells, hmem]) ⟨by simp, by simp, by simp⟩
  have htext : ∀ i : Fin ajaDebugMessageMaxSize, i.val < call.textBytes.length →
      (s.reports k).messageText i = call.textBytes.getD i 0 := by
    intro i hi
    have hmem : MessageCell.messageText i ∈ MessageCell.messageTexts.take call.textBytes.length :=
      List.mem_take_iff_getElem.mpr ⟨i, by simpa [MessageCell.messageTexts] using hi, by
        simp [MessageCell.messageTexts]⟩
    exact hcell (.messageText i) (by simp [ReportCall.cells, hmem]) ⟨by simp, by simp, by simp⟩
  have hname : cString call.fileOf = call.fileOf := cString_cString _
  refine ⟨call, hcall, hplain .groupIndex (by simp), hplain .severity (by simp),
    hplain .lineNumber (by simp), hplain .pid (by simp), hplain .tid (by simp), ?_, ?_⟩
  · rw [arrayText_of_stored ajaDebugFileNameMaxSize_pos (by rw [hname]) hfile, hname]
  · have hlen : (cString (call.message ++ [0])).length ≤ call.message.length + 1 :=
      (List.takeWhile_sublist _).length_le.trans (by simp)
    rw [arrayText_of_stored ajaDebugMessageMaxSize_pos hlen htext, cString_append_zero]

/-! ### What the reader has fetched -/

end RingSystem

/-- What of the message at hand is not fetched yet. -/
def ReaderPc.missing : ReaderPc → List MessageCell
  | start | poll | find => []
  | destination => .destinationMask :: (Reader.filterCells ++ Reader.shownCells)
  | fetch todo => todo ++ Reader.shownCells
  | finish todo => todo

/-- The reader is at a message. -/
def ReaderPc.AtMessage : ReaderPc → Prop
  | start | poll | find => False
  | _ => True

/-- How many messages the reader has begun and not yet left. -/
def ReaderPc.begun : ReaderPc → ℕ
  | start | poll | find => 0
  | _ => 1

lemma Reader.mem_cells {c : MessageCell} (hc : c ≠ .wallTime) :
    c ∈ ReaderPc.destination.missing := by
  cases c <;> simp_all [ReaderPc.missing, Reader.filterCells, Reader.shownCells,
    MessageCell.messageTexts, MessageCell.fileNames]

/-- Messages that agree in what is fetched. -/
lemma MessageData.eq_of_get {m r : MessageData} (hwall : m.wallTime = 0)
    (h : ∀ c ≠ MessageCell.wallTime, c.get m = c.get r) : m = { r with wallTime := 0 } :=
  MessageData.ext (h .time (by simp)) hwall (h .groupIndex (by simp))
    (h .destinationMask (by simp)) (h .severity (by simp)) (h .lineNumber (by simp))
    (h .pid (by simp)) (h .tid (by simp)) (funext fun i => h (.fileName i) (by simp))
    (funext fun i => h (.messageText i) (by simp))

namespace RingSystem

variable {ι : Type*} [DecidableEq ι] {shows : MessageData → Bool} {s : RingSystem ι}

/-- The message is the whole of its report. -/
def Whole (s : RingSystem ι) (k : ℕ) (m : MessageData) : Prop :=
  0 < k ∧ s.Done k ∧ m = { s.reports k with wallTime := 0 }

/-- Where the reader is, and what it has fetched of the message it is at. -/
structure Fetching (s : RingSystem ι) : Prop where
  index : s.reader.pc.AtMessage → s.reader.readIndex ≤ s.share.writeIndex ∧
    0 < s.reader.lastIndex ∧
    s.reader.lastIndex % ajaDebugMessageRingSize = s.reader.readIndex % ajaDebugMessageRingSize
  wall : s.reader.pc.AtMessage → s.reader.message.wallTime = 0
  missing : .wallTime ∉ s.reader.pc.missing
  same : s.reader.pc.AtMessage →
    s.share.writeIndex < s.reader.lastIndex + ajaDebugMessageRingSize →
    s.Done s.reader.lastIndex ∧ ∀ c ∉ s.reader.pc.missing, c ≠ .wallTime →
      c.get s.reader.message = c.get (s.reports s.reader.lastIndex)
  shown : ∀ x ∈ s.reader.shown, x.writeIndex < x.messageIndex + ajaDebugMessageRingSize →
    s.Whole x.messageIndex x.message

lemma Whole.step {k : ℕ} {m : MessageData} (h : s.Whole k m) (e : RingEvent ι) :
    (s.step shows e).Whole k m :=
  ⟨h.1, (h.2.1.step shows e).1, by rw [(h.2.1.step shows e).2]; exact h.2.2⟩

variable (shows) in
lemma reader_write (s : RingSystem ι) (w : ι) (call : ReportCall) (time wallTime : ℤ) :
    (s.step shows (.write w call time wallTime)).reader = s.reader := by
  simp only [RingSystem.step, writerStep]
  split <;> (try split_ifs) <;> rfl

/-- Other steps than the reader's own leave it what it has. -/
lemma Fetching.other (h : s.Fetching) {e : RingEvent ι}
    (hr : (s.step shows e).reader = s.reader) : (s.step shows e).Fetching := by
  have hle := writeIndex_le_step shows s e
  refine ⟨?_, ?_, ?_, ?_, ?_⟩
  · rw [hr]
    exact fun hpc => ⟨(h.index hpc).1.trans hle, (h.index hpc).2⟩
  · rw [hr]
    exact h.wall
  · rw [hr]
    exact h.missing
  · rw [hr]
    intro hpc hlt
    obtain ⟨hdone, hsame⟩ := h.same hpc (by omega)
    obtain ⟨hdone', hrep⟩ := hdone.step shows e
    rw [hrep]
    exact ⟨hdone', hsame⟩
  · rw [hr]
    exact fun x hx hlt => (h.shown x hx hlt).step e

lemma step_read (s : RingSystem ι) :
    s.step shows .read = { s with reader := s.reader.step shows s.share } := rfl

omit [DecidableEq ι] in
/-- The reader has one more cell of the message. -/
lemma Fetching.fetched (h : s.Fetching) (hcur : RingLog.Current ajaDebugMessageRingSize s.ring)
    (hpc : s.reader.pc.AtMessage) {c : MessageCell} {pc : ReaderPc}
    (hmiss : s.reader.pc.missing = c :: pc.missing) :
    Fetching { s with
      reader := { s.reader with
        message := c.copy (s.share.message s.reader.readIndex).toMessageData s.reader.message
        pc := pc } } := by
  obtain ⟨hi, hpos, hmod⟩ := h.index hpc
  have hclean := h.missing
  simp only [hmiss, List.mem_cons, not_or] at hclean
  refine ⟨fun _ => ⟨hi, hpos, hmod⟩, fun _ => ?_, hclean.2, fun _ hlt => ?_, h.shown⟩
  · exact (MessageCell.get_copy_of_ne hclean.1 _ _).trans (h.wall hpc)
  · obtain ⟨hdone, hsame⟩ := h.same hpc hlt
    have hslot : (s.share.message s.reader.readIndex).toMessageData =
        s.reports s.reader.lastIndex := by
      have := hcur.slot s.reader.lastIndex ⟨hpos, hdone.1, hlt⟩
      rwa [hmod] at this
    refine ⟨hdone, fun d hd hdw => ?_⟩
    dsimp only at hd ⊢
    rcases eq_or_ne d c with rfl | hne
    · rw [MessageCell.get_copy_self, hslot]
    · rw [MessageCell.get_copy_of_ne hne]
      exact hsame d (by simp [hmiss, hne, hd]) hdw

omit [DecidableEq ι] in
/-- A reader between two messages has fetched nothing. -/
lemma Fetching.between (h : s.Fetching) {r : Reader} (hpc : r.pc = .poll ∨ r.pc = .find)
    (hshown : r.shown = s.reader.shown) : Fetching { s with reader := r } := by
  have haway : ¬ r.pc.AtMessage := by rcases hpc with hpc | hpc <;> simp [hpc, ReaderPc.AtMessage]
  have hclean : r.pc.missing = [] := by rcases hpc with hpc | hpc <;> simp [hpc, ReaderPc.missing]
  exact ⟨fun h => absurd h haway, fun h => absurd h haway, by simp [hclean],
    fun h => absurd h haway, by rw [hshown]; exact h.shown⟩

/-- **What the reader fetches is of one report, as long as it is less than a ring old.** -/
theorem Fetching.read (h : s.Fetching) (hcur : RingLog.Current ajaDebugMessageRingSize s.ring) :
    (s.step shows .read).Fetching := by
  rw [step_read, Reader.step]
  have hidx := h.index
  cases hpc : s.reader.pc with
  | start => exact h.between (.inl rfl) rfl
  | poll =>
      dsimp only
      split_ifs with hnew
      · exact h.between (.inr rfl) rfl
      · exact h.between (.inl hpc) rfl
  | find =>
      dsimp only
      split_ifs with hfound
      · obtain ⟨hi, hlast⟩ := hfound
        have hpub := hcur.stamped.home (s.reader.readIndex % ajaDebugMessageRingSize)
        have hpos : 0 < (s.share.message s.reader.readIndex).sequenceNumber := by omega
        have hmod : (s.share.message s.reader.readIndex).sequenceNumber % ajaDebugMessageRingSize =
            s.reader.readIndex % ajaDebugMessageRingSize := hpub.resolve_left hpos.ne'
        refine ⟨fun _ => ⟨hi, hpos, hmod⟩, fun _ => rfl, ?_, fun _ hlt => ?_, h.shown⟩
        · simp [ReaderPc.missing, Reader.filterCells, Reader.shownCells, MessageCell.fileNames,
            MessageCell.messageTexts]
        · refine ⟨⟨hcur.stamped.published _, ?_⟩, fun c hc hw => absurd (Reader.mem_cells hw) hc⟩
          refine (hcur.slot_of_published hpos ?_ hlt).2
          rw [hmod]
          rfl
      · exact h.between (.inl rfl) rfl
  | destination =>
      rw [hpc] at hidx
      dsimp only
      split_ifs with hdest
      · refine h.fetched hcur (by rw [hpc]; trivial) ?_
        rw [hpc]
        rfl
      · exact h.between (.inl rfl) rfl
  | fetch todo =>
      rw [hpc] at hidx
      have hi := (hidx trivial).1
      cases todo with
      | nil =>
          dsimp only
          split_ifs with hshow
          · have hsame := h.same
            have hclean := h.missing
            rw [hpc] at hsame hclean
            refine ⟨fun _ => hidx trivial, fun _ => h.wall (by rw [hpc]; trivial), hclean,
              fun _ => hsame trivial, h.shown⟩
          · exact h.between (.inl rfl) rfl
      | cons c todo =>
          dsimp only
          rw [if_pos hi]
          refine h.fetched hcur (by rw [hpc]; trivial) ?_
          rw [hpc]
          rfl
  | finish todo =>
      rw [hpc] at hidx
      have hi := (hidx trivial).1
      cases todo with
      | nil =>
          refine ⟨False.elim, False.elim, List.not_mem_nil, False.elim, ?_⟩
          intro x hx hlt
          rcases List.mem_cons.mp hx with rfl | hx
          · have hsame := h.same
            rw [hpc] at hsame
            obtain ⟨hdone, hsame⟩ := hsame trivial hlt
            exact ⟨(hidx trivial).2.1, hdone, MessageData.eq_of_get (h.wall (by rw [hpc]; trivial))
              fun c hc => hsame c List.not_mem_nil hc⟩
          · exact h.shown x hx hlt
      | cons c todo =>
          dsimp only
          rw [if_pos hi]
          refine h.fetched hcur (by rw [hpc]; trivial) ?_
          rw [hpc]
          rfl

/-! ### Runs -/

/-- What holds as long as no report falls a ring behind. -/
structure InOrder (s : RingSystem ι) : Prop where
  current : RingLog.Current ajaDebugMessageRingSize s.ring
  stored : s.Stored
  fetching : s.Fetching

/-- Every step that leaves no report a ring behind keeps the system in order. -/
lemma InOrder.step (h : s.InOrder) {e : RingEvent ι} (he : KeepsUp shows s e) :
    (s.step shows e).InOrder := by
  refine ⟨current_step h.current he, h.stored.step h.current.stamped e, ?_⟩
  cases e with
  | read => exact h.fetching.read h.current
  | write w call time wallTime => exact h.fetching.other (reader_write ..)
  | setDestination index destination => exact h.fetching.other rfl
  | setClientReferenceCount refCount => exact h.fetching.other rfl

omit [DecidableEq ι] in
lemma inOrder_initial : (initial (ι := ι)).InOrder :=
  ⟨current_initial, stored_initial,
    ⟨False.elim, False.elim, List.not_mem_nil, False.elim, fun _ h => absurd h List.not_mem_nil⟩⟩

/-- Every message that was shown less than a ring after its report is the whole of what one call
reported: the number shown is that call's, and the members are those its report has stored. -/
def ShowsWhole (s : RingSystem ι) : Prop :=
  ∀ x ∈ s.reader.shown, x.writeIndex < x.messageIndex + ajaDebugMessageRingSize →
    x.message = { s.reports x.messageIndex with wallTime := 0 } ∧
      ∃ call, s.callers x.messageIndex = some call ∧ x.message.Reports call

/-- **Messages are shown whole**: in every run in which no report falls a ring behind, whatever the
order of the stores and the fetches. -/
theorem messages_whole (hrun : RunsTo (step shows) (KeepsUp shows) (initial (ι := ι)) s) :
    s.ShowsWhole := by
  have h : s.InOrder := hrun.invariant inOrder_initial fun _ _ he hu => hu.step he
  intro x hx hlt
  obtain ⟨hpos, hdone, hmsg⟩ := h.fetching.shown x hx hlt
  obtain ⟨call, hcall, hrep⟩ := h.stored.reports hpos hdone
  refine ⟨hmsg, call, hcall, ?_⟩
  rw [hmsg]
  exact ⟨hrep.groupIndex, hrep.severity, hrep.lineNumber, hrep.pid, hrep.tid, hrep.fileName,
    hrep.messageText⟩

end RingSystem

namespace RingSystem

variable {ι : Type*} [DecidableEq ι] {shows : MessageData → Bool} {s : RingSystem ι}

variable (shows) in
/-- A step gives out one number at most. -/
lemma writeIndex_step_le (s : RingSystem ι) (e : RingEvent ι) :
    (s.step shows e).share.writeIndex ≤ s.share.writeIndex + 1 := by
  have h : (s.step shows e).share.writeIndex = (s.step shows e).ring.last := rfl
  rw [h, ring_step]
  cases s.action e with
  | none => exact Nat.le_succ _
  | some a => exact s.ring.last_step_le a

/-- No report falls a ring behind in fewer steps than the ring has slots. -/
lemma stepsOk_of_short {events : List (RingEvent ι)}
    (h : s.share.writeIndex + events.length < ajaDebugMessageRingSize) :
    StepsOk (step shows) (KeepsUp shows) s events := by
  induction events generalizing s with
  | nil => exact trivial
  | cons e events ih =>
      have hle := writeIndex_step_le shows s e
      rw [List.length_cons] at h
      exact ⟨fun w k _ => by omega, ih (by omega)⟩

/-- Two threads report at once, then the reader starts and shows the later report. -/
def sampleEvents : List (RingEvent Bool) :=
  [.setClientReferenceCount 1, .setDestination 2 1] ++
    (List.replicate 20 [.write true ⟨2, 5, some [97], 7, [72, 105], 11, 12⟩ 3 4,
      .write false ⟨2, 5, some [98], 8, [72, 111], 11, 13⟩ 3 4]).flatten ++
    List.replicate 1036 .read

/-- The state after them. -/
def sampleState : RingSystem Bool := sampleEvents.foldl (step fun _ => true) initial

theorem messages_whole_sample :
    sampleState.ShowsWhole ∧ sampleState.reader.shown.map
      (fun x => (x.messageIndex, x.writeIndex, arrayText x.message.messageText)) =
        [(2, 2, [72, 111])] :=
  ⟨messages_whole (RunsTo.foldl (stepsOk_of_short (by decide +kernel))), by decide +kernel⟩

end RingSystem

/-! ### The order of the messages -/

/-- The number gone through last. -/
def Reader.lastTaken (taken : List (ℕ × ℕ)) : ℕ := (taken.head?.map Prod.fst).getD 0

/-- The numbers gone through, the last one first: each has its slot, is greater than the one
before, and has been given out. -/
def Reader.Numbered (start : ℕ) : List (ℕ × ℕ) → Prop
  | [] => True
  | (m, u) :: taken => Numbered start taken ∧ lastTaken taken < m ∧ m ≤ u ∧
      m % ajaDebugMessageRingSize = (start + taken.length) % ajaDebugMessageRingSize

namespace Reader.Numbered

variable {start : ℕ} {taken : List (ℕ × ℕ)}

/-- The slots are gone through one after the other. -/
lemma slots (h : Numbered start taken) : ∀ i x, taken.reverse[i]? = some x →
    x.1 % ajaDebugMessageRingSize = (start + i) % ajaDebugMessageRingSize := by
  induction taken with
  | nil => simp
  | cons y taken ih =>
      obtain ⟨hrest, -, -, hmod⟩ := h
      intro i x hx
      rw [List.reverse_cons, List.getElem?_append] at hx
      split_ifs at hx with hi
      · exact ih hrest i x hx
      · obtain ⟨h0, rfl⟩ := List.getElem?_eq_some_iff.mp hx
        have hi : i = taken.length := by simp at hi h0; omega
        simpa [hi] using hmod

/-- The numbers have been given out. -/
lemma reported (h : Numbered start taken) : ∀ x ∈ taken, 0 < x.1 ∧ x.1 ≤ x.2 := by
  induction taken with
  | nil => simp
  | cons y taken ih =>
      obtain ⟨hrest, hlast, hle, -⟩ := h
      intro x hx
      rcases List.mem_cons.mp hx with rfl | hx
      · exact ⟨Nat.zero_lt_of_lt hlast, hle⟩
      · exact ih hrest x hx

/-- **Each number is the next one, unless a whole ring was reported since the one before.** -/
lemma increasing (h : Numbered start taken) : taken.IsChain fun new old =>
    old.1 < new.1 ∧ (new.2 ≤ old.1 + ajaDebugMessageRingSize → new.1 = old.1 + 1) := by
  induction taken with
  | nil => exact .nil
  | cons new taken ih =>
      cases taken with
      | nil => exact .singleton _
      | cons old taken =>
          obtain ⟨hrest, hlast, hle, hmod⟩ := h
          have hlast : old.1 < new.1 := hlast
          refine .cons_cons ⟨hlast, fun hnear => ?_⟩ (ih hrest)
          have hold := hrest.2.2.2
          have hmod : (old.1 + 1) % ajaDebugMessageRingSize = new.1 % ajaDebugMessageRingSize := by
            rw [hmod, Nat.add_mod, hold, ← Nat.add_mod, List.length_cons, Nat.add_assoc]
          exact (eq_of_mod_of_lt hmod hlast (by omega)).symm

/-- A reader that starts in slot zero finds no number there before that of the second ring. -/
lemma late (h : Numbered 0 taken) : ∀ x ∈ taken, ajaDebugMessageRingSize ≤ x.1 := by
  induction taken with
  | nil => simp
  | cons new taken ih =>
      obtain ⟨hrest, hlast, -, hmod⟩ := h
      intro x hx
      rcases List.mem_cons.mp hx with rfl | hx
      · cases taken with
        | nil =>
            have hdvd : ajaDebugMessageRingSize ∣ x.1 := Nat.dvd_of_mod_eq_zero (by simpa using hmod)
            exact Nat.le_of_dvd (Nat.zero_lt_of_lt hlast) hdvd
        | cons old taken => exact (ih hrest old (by simp)).trans (le_of_lt hlast)
      · exact ih hrest x hx

end Reader.Numbered

/-! ### Texts in the ring -/

/-- A text ends within its array. -/
def EndsWithin {n : ℕ} (a : Fin n → UInt8) : Prop := ∀ i : Fin n, i.val + 1 = n → a i = 0

/-- What is stored of a text ends with a zero, at the latest in the last place. -/
lemma saferStrncpy_getD_last {source : List UInt8} {num n i : ℕ} (hi : i + 1 = n) :
    (saferStrncpy source num n).getD i 0 = 0 := by
  rw [saferStrncpy]
  split_ifs with h
  · have : n - 1 = i := by omega
    simp [List.getD_eq_getElem?_getD, this]
  · rw [List.getD_eq_getElem?_getD, List.getElem?_append_right (by simp; omega)]
    rcases Nat.eq_or_lt_of_le (Nat.le_of_lt_succ (show num < i + 1 by omega)) with rfl | hlt
    · simp
    · rw [List.getElem?_eq_none (by simp; omega), Option.getD_none]

/-- The texts of a message end within their arrays. -/
structure MessageData.Ends (m : MessageData) : Prop where
  fileName : EndsWithin m.fileName
  messageText : EndsWithin m.messageText

lemma ReportCall.ends_data (call : ReportCall) (mask : BitVec 32) (time wallTime : ℤ) :
    (call.data mask time wallTime).Ends :=
  ⟨fun _ hi => saferStrncpy_getD_last hi, fun _ hi => saferStrncpy_getD_last hi⟩

/-- A cell that is stored keeps the ends. -/
lemma MessageData.Ends.copy {src m : MessageData} (hm : m.Ends) (hs : src.Ends) (c : MessageCell) :
    (c.copy src m).Ends := by
  have hupdate : ∀ {n : ℕ} {a b : Fin n → UInt8} {i : Fin n}, EndsWithin a → EndsWithin b →
      EndsWithin (Function.update a i (b i)) := by
    intro n a b i ha hb j hj
    rcases eq_or_ne j i with rfl | hne
    · simpa using hb j hj
    · simpa [hne] using ha j hj
  cases c with
  | fileName i => exact ⟨hupdate hm.fileName hs.fileName, hm.messageText⟩
  | messageText i => exact ⟨hm.fileName, hupdate hm.messageText hs.messageText⟩
  | _ => exact ⟨hm.fileName, hm.messageText⟩

namespace RingSystem

variable {ι : Type*} [DecidableEq ι] {shows : MessageData → Bool} {s : RingSystem ι}

/-- Where the reader is in the ring, in every run. -/
structure Tracks (s : RingSystem ι) : Prop where
  stamped : RingLog.Stamped ajaDebugMessageRingSize s.ring
  last : s.reader.lastIndex = Reader.lastTaken s.reader.taken
  started : s.reader.pc ≠ .start → s.reader.readIndex + s.reader.pc.begun =
    s.reader.startIndex + s.reader.taken.length
  fresh : s.reader.pc = .start → s.reader.taken = []
  numbered : Reader.Numbered s.reader.startIndex s.reader.taken
  ends : ∀ j, (s.share.messageRing j).Ends

variable (shows) in
/-- The messages of the ring end where the reader leaves off, after any step. -/
lemma Tracks.ends_step (h : s.Tracks) (e : RingEvent ι) :
    ∀ j, ((s.step shows e).share.messageRing j).Ends := by
  have hset : ∀ {i : ℕ} {m : AJADebugMessage}, m.Ends →
      ∀ j, (Function.update s.share.messageRing i m j).Ends := by
    intro i m hm j
    rcases eq_or_ne j i with rfl | hj
    · simpa using hm
    · simpa [hj] using h.ends j
  cases e with
  | write w call time wallTime =>
      simp only [RingSystem.step, writerStep]
      cases s.writer w with
      | store c k todo =>
          cases todo with
          | nil => exact hset (h.ends _)
          | cons d todo => exact hset ((h.ends _).copy (c.ends_data ..) d)
      | clients c =>
          dsimp only
          split_ifs <;> exact h.ends
      | destination c =>
          dsimp only
          split_ifs <;> exact h.ends
      | _ => exact h.ends
  | setDestination index destination =>
      simp only [RingSystem.step, RingSystem.setDestination]
      split_ifs <;> exact h.ends
  | _ => exact h.ends

omit [DecidableEq ι] in
/-- The reader goes on within a message, or from one to the next. -/
lemma Tracks.same (h : s.Tracks) {r : Reader} (hstart : r.startIndex = s.reader.startIndex)
    (hlast : r.lastIndex = s.reader.lastIndex) (htaken : r.taken = s.reader.taken)
    (hpc : r.pc ≠ .start) (hold : s.reader.pc ≠ .start)
    (hidx : r.readIndex + r.pc.begun =
      s.reader.readIndex + s.reader.pc.begun) :
    Tracks { s with reader := r } := by
  refine ⟨h.stamped, ?_, fun _ => ?_, fun h => absurd h hpc, ?_, h.ends⟩
  · dsimp only
    rw [hlast, htaken, h.last]
  · dsimp only
    rw [hidx, hstart, htaken, h.started hold]
  · dsimp only
    rw [hstart, htaken]
    exact h.numbered

/-- The reader's own steps keep it in the ring. -/
lemma Tracks.read (h : s.Tracks) : (s.step shows .read).Tracks := by
  rw [step_read, Reader.step]
  have hstarted := h.started
  cases hpc : s.reader.pc with
  | start =>
      have htaken := h.fresh hpc
      refine ⟨h.stamped, h.last, fun _ => ?_, by simp, ?_, h.ends⟩
      · simp [ReaderPc.begun, htaken]
      · simp [htaken, Reader.Numbered]
  | poll =>
      dsimp only
      split_ifs with hnew
      · exact h.same rfl rfl rfl (by simp) (by simp [hpc]) (by rw [hpc]; rfl)
      · exact h
  | find =>
      have hcount : s.reader.readIndex = s.reader.startIndex + s.reader.taken.length := by
        rw [hpc] at hstarted
        exact hstarted (by simp)
      dsimp only
      split_ifs with hfound
      · obtain ⟨hi, hlast⟩ := hfound
        have hpub := h.stamped.home (s.reader.readIndex % ajaDebugMessageRingSize)
        have hle := h.stamped.published (s.reader.readIndex % ajaDebugMessageRingSize)
        have hpos : 0 < (s.share.message s.reader.readIndex).sequenceNumber := by omega
        refine ⟨h.stamped, rfl, fun _ => ?_, by simp, ⟨h.numbered, ?_, hle, ?_⟩, h.ends⟩
        · simp only [ReaderPc.begun, hcount, List.length_cons]
          omega
        · rw [← h.last]
          exact hlast
        · rw [← hcount]
          exact hpub.resolve_left hpos.ne'
      · exact h.same rfl rfl rfl (by simp) (by simp [hpc]) (by rw [hpc]; rfl)
  | destination =>
      dsimp only
      split_ifs with hdest
      · exact h.same rfl rfl rfl (by simp) (by simp [hpc]) (by rw [hpc]; rfl)
      · exact h.same rfl rfl rfl (by simp [Reader.next]) (by simp [hpc]) (by rw [hpc]; rfl)
  | fetch todo =>
      cases todo with
      | nil =>
          dsimp only
          split_ifs with hshow
          · exact h.same rfl rfl rfl (by simp) (by simp [hpc]) (by rw [hpc]; rfl)
          · exact h.same rfl rfl rfl (by simp [Reader.next]) (by simp [hpc]) (by rw [hpc]; rfl)
      | cons c todo =>
          dsimp only
          split_ifs with hi hc
          · exact h.same rfl rfl rfl (by simp) (by simp [hpc]) (by rw [hpc]; rfl)
          · exact h.same rfl rfl rfl (by simp) (by simp [hpc]) (by rw [hpc]; rfl)
          · exact h.same rfl rfl rfl (by simp [Reader.next]) (by simp [hpc]) (by rw [hpc]; rfl)
  | finish todo =>
      cases todo with
      | nil =>
          exact h.same rfl rfl rfl (by simp [Reader.next]) (by simp [hpc]) (by rw [hpc]; rfl)
      | cons c todo =>
          dsimp only
          split_ifs with hi
          · exact h.same rfl rfl rfl (by simp) (by simp [hpc]) (by rw [hpc]; rfl)
          · exact h.same rfl rfl rfl (by simp) (by simp [hpc]) (by rw [hpc]; rfl)

/-- **Every step of the system keeps the reader in the ring.** -/
theorem Tracks.step (h : s.Tracks) (e : RingEvent ι) : (s.step shows e).Tracks := by
  have hst := stamped_step shows h.stamped e
  have hends := h.ends_step shows e
  cases e with
  | read => exact h.read
  | write w call time wallTime =>
      have hr := reader_write shows s w call time wallTime
      exact ⟨hst, hr ▸ h.last, hr ▸ h.started, hr ▸ h.fresh, hr ▸ h.numbered, hends⟩
  | setDestination index destination =>
      exact ⟨hst, h.last, h.started, h.fresh, h.numbered, hends⟩
  | setClientReferenceCount refCount =>
      exact ⟨hst, h.last, h.started, h.fresh, h.numbered, hends⟩

omit [DecidableEq ι] in
/-- The reader is in the ring to begin with. -/
lemma tracks_initial : (initial (ι := ι)).Tracks where
  stamped := current_initial.stamped
  last := rfl
  started h := absurd rfl h
  fresh _ := rfl
  numbered := trivial
  ends _ := ⟨fun _ _ => rfl, fun _ _ => rfl⟩

/-- The reader goes through the reports in order. Each time it goes on by one slot and to a greater
number, so to the next number unless it was a whole ring behind. One that starts before the first
report waits for slot zero, and takes nothing of the first ring. -/
structure ReadsInOrder (s : RingSystem ι) : Prop where
  slots : ∀ i x, s.reader.taken.reverse[i]? = some x →
    x.1 % ajaDebugMessageRingSize = (s.reader.startIndex + i) % ajaDebugMessageRingSize
  reported : ∀ x ∈ s.reader.taken, 0 < x.1 ∧ x.1 ≤ x.2
  increasing : s.reader.taken.IsChain fun new old =>
    old.1 < new.1 ∧ (new.2 ≤ old.1 + ajaDebugMessageRingSize → new.1 = old.1 + 1)
  late : s.reader.startIndex = 0 → ∀ x ∈ s.reader.taken, ajaDebugMessageRingSize ≤ x.1
  ends : ∀ j, (s.share.messageRing j).Ends

/-- **The reader goes through the reports in order, in every run**, also when reports fall a ring
behind. -/
theorem reader_in_order (hrun : RunsTo (step shows) (fun _ _ => True) (initial (ι := ι)) s) :
    s.ReadsInOrder := by
  have h : s.Tracks := hrun.invariant tracks_initial fun _ e _ hu => hu.step e
  refine ⟨h.numbered.slots, h.numbered.reported, h.numbered.increasing, fun h0 => ?_, h.ends⟩
  have hnum := h.numbered
  rw [h0] at hnum
  exact hnum.late

theorem reader_in_order_sample :
    sampleState.ReadsInOrder ∧ sampleState.reader.taken = [(2, 2)] :=
  ⟨reader_in_order (RunsTo.foldl (StepsOk.of_forall fun _ _ => trivial)), by decide +kernel⟩

end RingSystem

end LibAjaNtv2
