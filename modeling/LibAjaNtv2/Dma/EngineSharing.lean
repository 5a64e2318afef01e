import Mathlib.Tactic
import LibAjaNtv2.Lib.Permits
import LibAjaNtv2.Lib.Run

/-!
How the transfers share the engines (`linux/ntv2dma.c`: `dmaTransfer`, `dmaContextAcquire`,
`dmaHardwareAcquire`, `dmaSerialAcquire` and their counterparts, `dmaDisable`).

* `SharedEngine`, `DmaThread`: an engine and a thread in the driver;
* `DmaThread.step`: the next step of a thread, up to the next thing that others can see;
* `SharingSystem.step`: any order of the steps;
* `step_keeps`, `uses_step`, `works_step`: what one step can do to the semaphores, the contexts and
  the state of an engine;
* `Sharing`: the invariant that every step keeps;
* `engines_shared`: **in every run** the transfers have contexts of their own, serial transfers go
  one at a time, and an engine does one transfer at a time unless a wait of `dmaDisable` for it has
  run out of time.
-/

namespace LibAjaNtv2

/-! ### The engines -/

/-- `DMA_NUM_ENGINES`. -/
def dmaNumEngines : ℕ := 8

/-- `DMA_NUM_CONTEXTS`. -/
def dmaNumContexts : ℕ := 2

/-- `NTV2DmaState`. -/
inductive NTV2DmaState where
  | unknown
  | configure
  | idle
  | setup
  | transfer
  | finish
  | release
  | dead
  deriving DecidableEq

/-- What the transfers share of a `DMA_ENGINE`. `unpaired` counts the times `dmaDisable` has given
back the hardware without having got it: it is not in the engine. -/
structure SharedEngine where
  dmaEnable : Bool
  dmaStream : Bool
  state : NTV2DmaState
  contextSemaphore : ℕ
  transferSemaphore : ℕ
  inUse : Fin dmaNumContexts → Bool
  unpaired : ℕ

/-- An engine that is initialised. -/
def SharedEngine.initial : SharedEngine :=
  ⟨false, false, .idle, dmaNumContexts, 1, fun _ => false, 0⟩

/-- The context that `dmaContextAcquire` finds: the first that is not in use. -/
def findContext (inUse : Fin dmaNumContexts → Bool) : Option (Fin dmaNumContexts) :=
  (List.finRange dmaNumContexts).find? (fun c => !inUse c)

/-! ### A thread -/

/-- Where a thread is: in `dmaTransfer`, or in `dmaDisable`. -/
inductive DmaPc where
  | idle
  | checkEnabled
  | checkStream
  | readSerialize
  | downContext
  | scan
  | recheck
  | lockPages
  | downSerial
  | downEngine
  | checkState
  | checkIdle
  | setup
  | transfer
  | program
  | finish
  | rest
  | upEngine
  | upSerial
  | freeContext
  | upContext
  | markDisabled
  | disableDown
  | disableUp
  deriving DecidableEq

namespace DmaPc

/-- The thread has taken the context semaphore. -/
def permit : DmaPc → Bool
  | scan | recheck | lockPages | downSerial | downEngine | checkState | checkIdle | setup
  | transfer | program | finish | rest | upEngine | upSerial | freeContext | upContext => true
  | _ => false

/-- The thread has a context. -/
def context : DmaPc → Bool
  | recheck | lockPages | downSerial | downEngine | checkState | checkIdle | setup
  | transfer | program | finish | rest | upEngine | upSerial | freeContext => true
  | _ => false

/-- The thread must have the engine. -/
def owner : DmaPc → Bool
  | checkState | checkIdle | setup | transfer | program | finish | rest => true
  | _ => false

/-- The thread may have the engine. -/
def mayOwn : DmaPc → Bool
  | checkState | checkIdle | setup | transfer | program | finish | rest | upEngine
  | disableUp => true
  | _ => false

/-- The thread may have the serial semaphore. -/
def maySerial : DmaPc → Bool
  | downEngine | checkState | checkIdle | setup | transfer | program | finish | rest | upEngine
  | upSerial => true
  | _ => false

/-- The thread has taken the engine out of the idle state. -/
def working : DmaPc → Bool
  | transfer | program | finish | rest => true
  | _ => false

end DmaPc

/-- A thread, with the variables of `dmaTransfer` that decide its way, and the engines that
`dmaDisable` has still to go through. `engineAcquired` and `serialAcquired` are taken back where
the semaphore is: the source does not read them afterwards. -/
structure DmaThread where
  pc : DmaPc
  engine : Fin dmaNumEngines
  serialTransfer : Bool
  serialAcquired : Bool
  engineAcquired : Bool
  context : Fin dmaNumContexts
  dmaStatus : ℤ
  engines : List (Fin dmaNumEngines)

/-- A call: `dmaTransfer` on the engine it maps to, with something to transfer or not, or
`dmaDisable` of the initialised engines. -/
inductive TransferCall where
  | transfer (engine : Fin dmaNumEngines) (something : Bool)
  | disable (engines : List (Fin dmaNumEngines))

/-- What is decided elsewhere: the call that comes next, whether a wait runs out of time, the
register `kVRegDmaSerialize`, whether the pages are locked, or the transfer is programmed and ends
in time. -/
structure DmaChoice where
  call : TransferCall
  timeout : Bool
  serialize : Bool
  ok : Bool

namespace DmaThread

/-- `-EPERM`. -/
def ePerm : ℤ := -1

/-- `-EBUSY`. -/
def eBusy : ℤ := -16

/-- `-ETIME`. -/
def eTime : ℤ := -62

/-- The next engine of `dmaDisable`, if there is one. -/
def nextDisable (t : DmaThread) : List (Fin dmaNumEngines) → DmaThread
  | [] => { t with pc := .idle }
  | e :: es => { t with pc := .markDisabled, engine := e, engines := es }

/-- The next step of a thread, on its engine and the serial semaphore. A wait that neither runs out
of time nor finds the semaphore free goes on. Without a free context `dmaContextAcquire` returns the
last one. -/
def step (t : DmaThread) (choice : DmaChoice) (x : SharedEngine) (serial : ℕ) :
    DmaThread × SharedEngine × ℕ :=
  match t.pc with
  | .idle =>
      match choice.call with
      | .transfer _ false => (t, x, serial)
      | .transfer e true =>
          ({ t with
              pc := .checkEnabled, engine := e, dmaStatus := 0
              serialAcquired := false, engineAcquired := false }, x, serial)
      | .disable es => (t.nextDisable es, x, serial)
  | .checkEnabled =>
      if x.dmaEnable then ({ t with pc := .checkStream }, x, serial)
      else ({ t with pc := .idle, dmaStatus := ePerm }, x, serial)
  | .checkStream =>
      if x.dmaStream then ({ t with pc := .idle, dmaStatus := ePerm }, x, serial)
      else ({ t with pc := .readSerialize }, x, serial)
  | .readSerialize =>
      ({ t with pc := .downContext, serialTransfer := choice.serialize }, x, serial)
  | .downContext =>
      if choice.timeout then ({ t with pc := .idle, dmaStatus := eBusy }, x, serial)
      else if x.contextSemaphore = 0 then (t, x, serial)
      else
        ({ t with pc := .scan }, { x with contextSemaphore := x.contextSemaphore - 1 }, serial)
  | .scan =>
      match findContext x.inUse with
      | some c =>
          ({ t with pc := .recheck, context := c },
            { x with inUse := Function.update x.inUse c true }, serial)
      | none => ({ t with pc := .recheck, context := Fin.last 1 }, x, serial)
  | .recheck =>
      if x.dmaEnable then ({ t with pc := .lockPages }, x, serial)
      else ({ t with pc := .freeContext, dmaStatus := ePerm }, x, serial)
  | .lockPages =>
      if !choice.ok then ({ t with pc := .upEngine, dmaStatus := ePerm }, x, serial)
      else if t.serialTransfer then ({ t with pc := .downSerial }, x, serial)
      else ({ t with pc := .downEngine }, x, serial)
  | .downSerial =>
      if choice.timeout then ({ t with pc := .upEngine, dmaStatus := eTime }, x, serial)
      else if serial = 0 then (t, x, serial)
      else ({ t with pc := .downEngine, serialAcquired := true }, x, serial - 1)
  | .downEngine =>
      if choice.timeout then ({ t with pc := .upEngine, dmaStatus := eTime }, x, serial)
      else if x.transferSemaphore = 0 then (t, x, serial)
      else
        ({ t with pc := .checkState, engineAcquired := true },
          { x with transferSemaphore := x.transferSemaphore - 1 }, serial)
  | .checkState =>
      if x.dmaEnable then ({ t with pc := .checkIdle }, x, serial)
      else ({ t with pc := .checkIdle, dmaStatus := ePerm }, x, serial)
  | .checkIdle =>
      if x.state = .idle ∧ t.dmaStatus = 0 then ({ t with pc := .setup }, x, serial)
      else if x.state = .idle then ({ t with pc := .upEngine }, x, serial)
      else ({ t with pc := .upEngine, dmaStatus := ePerm }, x, serial)
  | .setup => ({ t with pc := .transfer }, { x with state := .setup }, serial)
  | .transfer => ({ t with pc := .program }, { x with state := .transfer }, serial)
  | .program =>
      ({ t with pc := .finish, dmaStatus := if choice.ok then 0 else ePerm }, x, serial)
  | .finish => ({ t with pc := .rest }, { x with state := .finish }, serial)
  | .rest => ({ t with pc := .upEngine }, { x with state := .idle }, serial)
  | .upEngine =>
      if t.engineAcquired then
        ({ t with pc := .upSerial, engineAcquired := false },
          { x with transferSemaphore := x.transferSemaphore + 1 }, serial)
      else ({ t with pc := .upSerial }, x, serial)
  | .upSerial =>
      if t.serialAcquired then
        ({ t with pc := .freeContext, serialAcquired := false }, x, serial + 1)
      else ({ t with pc := .freeContext }, x, serial)
  | .freeContext =>
      ({ t with pc := .upContext }, { x with inUse := Function.update x.inUse t.context false },
        serial)
  | .upContext =>
      ({ t with pc := .idle }, { x with contextSemaphore := x.contextSemaphore + 1 }, serial)
  | .markDisabled => ({ t with pc := .disableDown }, { x with dmaEnable := false }, serial)
  | .disableDown =>
      if choice.timeout then ({ t with pc := .disableUp }, x, serial)
      else if x.transferSemaphore = 0 then (t, x, serial)
      else
        ({ t with pc := .disableUp, engineAcquired := true },
          { x with transferSemaphore := x.transferSemaphore - 1 }, serial)
  | .disableUp =>
      ({ t with engineAcquired := false }.nextDisable t.engines,
        { x with
          transferSemaphore := x.transferSemaphore + 1
          unpaired := if t.engineAcquired then x.unpaired else x.unpaired + 1 }, serial)

/-- What a thread has fits where it is. -/
structure Fits (t : DmaThread) : Prop where
  owner : t.pc.owner → t.engineAcquired
  mayOwn : t.engineAcquired → t.pc.mayOwn
  maySerial : t.serialAcquired → t.pc.maySerial

/-- A thread that is not in a call. -/
def initial (e : Fin dmaNumEngines) (c : Fin dmaNumContexts) : DmaThread :=
  ⟨.idle, e, false, false, false, c, 0, []⟩

/-! ### What a step can do -/

section Step

variable {t t' : DmaThread} {choice : DmaChoice} {x x' : SharedEngine} {n n' : ℕ}

lemma Fits.not_owns (ht : t.Fits) (hpc : t.pc.mayOwn = false) : t.engineAcquired = false := by
  have := ht.mayOwn
  simpa [hpc] using this

lemma Fits.not_serial (ht : t.Fits) (hpc : t.pc.maySerial = false) : t.serialAcquired = false := by
  have := ht.maySerial
  simpa [hpc] using this

/-- `dmaDisable` keeps its hands as it goes on to the next engine. -/
lemma nextDisable_cases (t : DmaThread) (es : List (Fin dmaNumEngines)) :
    ((t.nextDisable es).pc = .idle ∨ (t.nextDisable es).pc = .markDisabled) ∧
      (t.nextDisable es).engineAcquired = t.engineAcquired ∧
      (t.nextDisable es).serialAcquired = t.serialAcquired := by
  cases es with
  | nil => exact ⟨.inl rfl, rfl, rfl⟩
  | cons e es => exact ⟨.inr rfl, rfl, rfl⟩

@[simp] lemma nextDisable_engineAcquired (t : DmaThread) (es : List (Fin dmaNumEngines)) :
    (t.nextDisable es).engineAcquired = t.engineAcquired := (t.nextDisable_cases es).2.1

@[simp] lemma nextDisable_serialAcquired (t : DmaThread) (es : List (Fin dmaNumEngines)) :
    (t.nextDisable es).serialAcquired = t.serialAcquired := (t.nextDisable_cases es).2.2

@[simp] lemma nextDisable_permit (t : DmaThread) (es : List (Fin dmaNumEngines)) :
    (t.nextDisable es).pc.permit = false := by
  rcases (t.nextDisable_cases es).1 with h | h <;> rw [h] <;> rfl

@[simp] lemma nextDisable_context (t : DmaThread) (es : List (Fin dmaNumEngines)) :
    (t.nextDisable es).pc.context = false := by
  rcases (t.nextDisable_cases es).1 with h | h <;> rw [h] <;> rfl

@[simp] lemma nextDisable_working (t : DmaThread) (es : List (Fin dmaNumEngines)) :
    (t.nextDisable es).pc.working = false := by
  rcases (t.nextDisable_cases es).1 with h | h <;> rw [h] <;> rfl

@[simp] lemma nextDisable_owner (t : DmaThread) (es : List (Fin dmaNumEngines)) :
    (t.nextDisable es).pc.owner = false := by
  rcases (t.nextDisable_cases es).1 with h | h <;> rw [h] <;> rfl

/-- What one step keeps: what the thread takes of a semaphore it has, and gives back, but for what
`dmaDisable` gives without having it; it goes to another engine with its hands free only; and what
it has goes on to fit where it is. -/
structure Keeps (t t' : DmaThread) (x x' : SharedEngine) (n n' : ℕ) : Prop where
  permits : x'.contextSemaphore + t'.pc.permit.toNat = x.contextSemaphore + t.pc.permit.toNat
  owns : x'.transferSemaphore + t'.engineAcquired.toNat + x.unpaired =
    x.transferSemaphore + t.engineAcquired.toNat + x'.unpaired
  serials : n' + t'.serialAcquired.toNat = n + t.serialAcquired.toNat
  engine : t'.engine = t.engine ∨ (t'.pc.permit = false ∧ t'.engineAcquired = false)
  unpaired : x.unpaired ≤ x'.unpaired
  fits : t'.Fits

/-- A thread that has nothing but the engine it gives back goes on to the next engine. -/
lemma keeps_next (es : List (Fin dmaNumEngines)) {u : DmaThread} (hpc : t.pc.permit = false)
    (hown : u.engineAcquired = false) (hser : u.serialAcquired = false)
    (hkeep : t.serialAcquired = false) (hc : x'.contextSemaphore = x.contextSemaphore)
    (ho : x'.transferSemaphore + x.unpaired =
      x.transferSemaphore + t.engineAcquired.toNat + x'.unpaired)
    (hle : x.unpaired ≤ x'.unpaired) : Keeps t (u.nextDisable es) x x' n n where
  permits := by rw [nextDisable_permit, hpc, hc]
  owns := by simpa [hown] using ho
  serials := by simp [hser, hkeep]
  engine := .inr ⟨nextDisable_permit .., by simp [hown]⟩
  unpaired := hle
  fits := ⟨by simp, by simp [hown], by simp [hser]⟩

/-- **What every step keeps.** -/
lemma step_keeps (ht : t.Fits) (h : t.step choice x n = (t', x', n')) : Keeps t t' x x' n n' := by
  have hown : t.pc.mayOwn = false → t.engineAcquired = false := ht.not_owns
  have hser : t.pc.maySerial = false → t.serialAcquired = false := ht.not_serial
  obtain ⟨howner, hmay, hserial⟩ := id ht
  obtain ⟨pc, engine, serialTransfer, serialAcquired, engineAcquired, context, dmaStatus, engines⟩ :=
    t
  dsimp only at howner hmay hserial
  cases pc with
  | idle =>
      obtain rfl : engineAcquired = false := hown rfl
      obtain rfl : serialAcquired = false := hser rfl
      simp only [step] at h
      split at h <;> cases h
      · exact ⟨rfl, rfl, rfl, .inl rfl, le_rfl, ht⟩
      · exact ⟨rfl, rfl, rfl, .inr ⟨rfl, rfl⟩, le_rfl, by simp [DmaPc.owner], by simp, by simp⟩
      · exact keeps_next _ rfl rfl rfl rfl rfl rfl le_rfl
  | downContext =>
      simp only [step] at h
      split_ifs at h with htime hzero <;> cases h
      · exact ⟨rfl, rfl, rfl, .inl rfl, le_rfl, by simp [DmaPc.owner], hmay, hserial⟩
      · exact ⟨rfl, rfl, rfl, .inl rfl, le_rfl, ht⟩
      · exact ⟨Nat.sub_add_cancel (Nat.pos_of_ne_zero hzero), rfl, rfl, .inl rfl, le_rfl,
          by simp [DmaPc.owner], hmay, hserial⟩
  | scan =>
      simp only [step] at h
      split at h <;> cases h <;>
        exact ⟨rfl, rfl, rfl, .inl rfl, le_rfl, by simp [DmaPc.owner], hmay, hserial⟩
  | downSerial =>
      obtain rfl : serialAcquired = false := hser rfl
      simp only [step] at h
      split_ifs at h with htime hzero <;> cases h
      · refine ⟨rfl, rfl, rfl, .inl rfl, le_rfl, ?_, ?_, ?_⟩ <;> simp_all [DmaPc.owner, DmaPc.mayOwn]
      · exact ⟨rfl, rfl, rfl, .inl rfl, le_rfl, ht⟩
      · exact ⟨rfl, rfl, Nat.sub_add_cancel (Nat.pos_of_ne_zero hzero), .inl rfl, le_rfl,
          by simp [DmaPc.owner], hmay, by simp [DmaPc.maySerial]⟩
  | downEngine | disableDown =>
      obtain rfl : engineAcquired = false := hown rfl
      simp only [step] at h
      split_ifs at h with htime hzero <;> cases h
      · refine ⟨rfl, rfl, rfl, .inl rfl, le_rfl, ?_, ?_, ?_⟩ <;>
          simp_all [DmaPc.owner, DmaPc.maySerial]
      · exact ⟨rfl, rfl, rfl, .inl rfl, le_rfl, ht⟩
      · refine ⟨rfl, ?_, rfl, .inl rfl, le_rfl, ?_, ?_, ?_⟩
        · simp only [Bool.toNat_true, Bool.toNat_false]
          omega
        all_goals simp_all [DmaPc.owner, DmaPc.mayOwn, DmaPc.maySerial]
  | upEngine =>
      simp only [step] at h
      split_ifs at h with hmine <;> cases h
      · obtain rfl : engineAcquired = true := hmine
        exact ⟨rfl, rfl, rfl, .inl rfl, le_rfl, by simp [DmaPc.owner], by simp, fun _ => rfl⟩
      · exact ⟨rfl, rfl, rfl, .inl rfl, le_rfl, by simp [DmaPc.owner], by simp [hmine], fun _ => rfl⟩
  | upSerial =>
      simp only [step] at h
      split_ifs at h with hmine <;> cases h
      · obtain rfl : serialAcquired = true := hmine
        exact ⟨rfl, rfl, rfl, .inl rfl, le_rfl, by simp [DmaPc.owner], hmay, by simp⟩
      · exact ⟨rfl, rfl, rfl, .inl rfl, le_rfl, by simp [DmaPc.owner], hmay, by simp [hmine]⟩
  | disableUp =>
      obtain rfl : serialAcquired = false := hser rfl
      simp only [step] at h
      cases h
      cases engineAcquired with
      | true => exact keeps_next _ rfl rfl rfl rfl rfl rfl le_rfl
      | false => exact keeps_next _ rfl rfl rfl rfl rfl (by simp; omega) (Nat.le_succ _)
  | _ =>
      simp only [step] at h
      (try split_ifs at h) <;> cases h <;>
        refine ⟨rfl, rfl, rfl, .inl rfl, le_rfl, ?_, ?_, ?_⟩ <;>
        simp_all [DmaPc.owner, DmaPc.mayOwn, DmaPc.maySerial]

/-- What a thread does to the contexts: nothing, or it takes a free one, or gives its own back. -/
lemma uses_step (hfound : t.pc = .scan → ∃ c, x.inUse c = false)
    (h : t.step choice x n = (t', x', n')) :
    (x'.inUse = x.inUse ∧ t'.pc.context = t.pc.context ∧
        (t.pc.context → t'.engine = t.engine ∧ t'.context = t.context)) ∨
      (t.pc.context = false ∧ t'.pc.context ∧ t'.engine = t.engine ∧
        x.inUse t'.context = false ∧ x'.inUse = Function.update x.inUse t'.context true) ∨
      (t.pc.context ∧ t'.pc.context = false ∧ x'.inUse = Function.update x.inUse t.context false) := by
  obtain ⟨pc, engine, serialTransfer, serialAcquired, engineAcquired, context, dmaStatus, engines⟩ :=
    t
  cases pc with
  | idle =>
      simp only [step] at h
      split at h <;> cases h
      · exact .inl ⟨rfl, rfl, nofun⟩
      · exact .inl ⟨rfl, rfl, nofun⟩
      · exact .inl ⟨rfl, nextDisable_context .., nofun⟩
  | scan =>
      obtain ⟨c, hc⟩ := hfound rfl
      simp only [step] at h
      split at h <;> cases h
      · rename_i c' hfind
        have hfree := List.find?_some hfind
        exact .inr (.inl ⟨rfl, rfl, rfl, by simpa using hfree, rfl⟩)
      · rename_i hfind
        have hnone := List.find?_eq_none.mp hfind c (List.mem_finRange c)
        simp [hc] at hnone
  | freeContext =>
      simp only [step] at h
      cases h
      exact .inr (.inr ⟨rfl, rfl, rfl⟩)
  | disableUp =>
      simp only [step] at h
      cases h
      exact .inl ⟨rfl, nextDisable_context .., nofun⟩
  | _ =>
      simp only [step] at h
      (try split_ifs at h) <;> cases h <;> exact .inl ⟨rfl, rfl, fun _ => ⟨rfl, rfl⟩⟩

/-- What a thread does to the state of its engine: nothing, or it takes it out of the idle state,
or leaves it out of it, or puts it back. -/
lemma works_step (h : t.step choice x n = (t', x', n')) :
    (x'.state = x.state ∧ t'.pc.working = t.pc.working ∧
        (t.pc.working → t'.engine = t.engine)) ∨
      (x'.state ≠ .idle ∧ t'.pc.working ∧ t'.engine = t.engine) ∨
      (x'.state = .idle ∧ t.pc.working ∧ t'.pc.working = false) := by
  obtain ⟨pc, engine, serialTransfer, serialAcquired, engineAcquired, context, dmaStatus, engines⟩ :=
    t
  cases pc with
  | idle =>
      simp only [step] at h
      split at h <;> cases h
      · exact .inl ⟨rfl, rfl, nofun⟩
      · exact .inl ⟨rfl, rfl, nofun⟩
      · exact .inl ⟨rfl, nextDisable_working .., nofun⟩
  | scan =>
      simp only [step] at h
      split at h <;> cases h <;> exact .inl ⟨rfl, rfl, nofun⟩
  | setup =>
      simp only [step] at h
      cases h
      exact .inr (.inl ⟨by simp, rfl, rfl⟩)
  | transfer =>
      simp only [step] at h
      cases h
      exact .inr (.inl ⟨by simp, rfl, rfl⟩)
  | finish =>
      simp only [step] at h
      cases h
      exact .inr (.inl ⟨by simp, rfl, rfl⟩)
  | rest =>
      simp only [step] at h
      cases h
      exact .inr (.inr ⟨rfl, rfl, rfl⟩)
  | disableUp =>
      simp only [step] at h
      cases h
      exact .inl ⟨rfl, nextDisable_working .., nofun⟩
  | _ =>
      simp only [step] at h
      (try split_ifs at h) <;> cases h <;> exact .inl ⟨rfl, rfl, fun _ => rfl⟩

end Step

end DmaThread

/-! ### The system -/

/-- The engines, the serial semaphore and the threads. -/
structure SharingSystem (ι : Type*) where
  engine : Fin dmaNumEngines → SharedEngine
  serialSemaphore : ℕ
  thread : ι → DmaThread

/-- What happens next: a thread goes on, or an engine is enabled or given to a stream. -/
inductive SharingEvent (ι : Type*) where
  | run (i : ι) (choice : DmaChoice)
  | enable (e : Fin dmaNumEngines)
  | stream (e : Fin dmaNumEngines) (on : Bool)

namespace SharingSystem

variable {ι : Type*} [DecidableEq ι]

/-- The engine as it is after a step of a thread. -/
def setEngine (s : SharingSystem ι) (e : Fin dmaNumEngines) (x : SharedEngine) : SharingSystem ι :=
  { s with engine := Function.update s.engine e x }

/-- One step of the system. -/
def step (s : SharingSystem ι) : SharingEvent ι → SharingSystem ι
  | .run i choice =>
      let t := s.thread i
      let next := t.step choice (s.engine t.engine) s.serialSemaphore
      { engine := Function.update s.engine t.engine next.2.1
        serialSemaphore := next.2.2
        thread := Function.update s.thread i next.1 }
  | .enable e => s.setEngine e { s.engine e with dmaEnable := true }
  | .stream e on => s.setEngine e { s.engine e with dmaStream := on }

/-- The engines initialised and no thread in a call. -/
def initial (e : Fin dmaNumEngines) (c : Fin dmaNumContexts) : SharingSystem ι where
  engine _ := .initial
  serialSemaphore := 1
  thread _ := .initial e c

end SharingSystem

namespace DmaThread

/-- A permit of an engine counts for that engine. -/
def permitAt (engine e : Fin dmaNumEngines) (has : Bool) : ℕ := if engine = e then has.toNat else 0

@[simp] lemma permitAt_self (e : Fin dmaNumEngines) (has : Bool) :
    permitAt e e has = has.toNat := if_pos rfl

@[simp] lemma permitAt_false (engine e : Fin dmaNumEngines) : permitAt engine e false = 0 :=
  ite_self 0

/-- A thread that goes to another engine only with free hands changes what it has of its own engine
only. -/
lemma permitAt_change {engine engine' : Fin dmaNumEngines} (has : Bool) {has' : Bool}
    (h : engine' = engine ∨ has' = false) : permitAt engine' engine has' = has'.toNat ∧
      ∀ e ≠ engine, permitAt engine' e has' = permitAt engine e has := by
  rcases h with rfl | rfl
  · exact ⟨by simp [permitAt], fun e he => by simp [permitAt, he.symm]⟩
  · exact ⟨by simp [permitAt], fun e he => by simp [permitAt, he.symm]⟩

/-- The permits of the context semaphore of an engine that the thread has. -/
def permits (e : Fin dmaNumEngines) (t : DmaThread) : ℕ := permitAt t.engine e t.pc.permit

/-- The permits of the transfer semaphore of an engine that the thread has. -/
def owns (e : Fin dmaNumEngines) (t : DmaThread) : ℕ := permitAt t.engine e t.engineAcquired

/-- The thread uses the context of the engine. -/
def Uses (t : DmaThread) (e : Fin dmaNumEngines) (c : Fin dmaNumContexts) : Prop :=
  t.engine = e ∧ t.context = c ∧ t.pc.context

/-- The thread works on the engine. -/
def Works (t : DmaThread) (e : Fin dmaNumEngines) : Prop := t.engine = e ∧ t.pc.working

end DmaThread

/-- **What the semaphores, the contexts and the states of the engines have to do with the threads.**
The state says nothing once the hardware was given back unpaired. -/
structure Sharing {ι : Type*} [Fintype ι] (s : SharingSystem ι) : Prop where
  fits : ∀ i, (s.thread i).Fits
  context : ∀ e, Accounted (s.engine e).contextSemaphore (fun i => (s.thread i).permits e)
    dmaNumContexts
  transfer : ∀ e, Accounted (s.engine e).transferSemaphore (fun i => (s.thread i).owns e)
    (1 + (s.engine e).unpaired)
  serial : Accounted s.serialSemaphore (fun i => (s.thread i).serialAcquired.toNat) 1
  inUse : ∀ e c, (s.engine e).inUse c ↔ ∃ i, (s.thread i).Uses e c
  alone : ∀ e c i j, (s.thread i).Uses e c → (s.thread j).Uses e c → i = j
  state : ∀ e, (s.engine e).unpaired = 0 →
    ((s.engine e).state ≠ .idle ↔ ∃ i, (s.thread i).Works e)

namespace Sharing

variable {ι : Type*} [Fintype ι] [DecidableEq ι] {s : SharingSystem ι} {e : Fin dmaNumEngines}
  {i j : ι}

omit [DecidableEq ι] in
/-- A thread that works on an engine has it. -/
lemma owns_of_works (h : Sharing s) (hw : (s.thread i).Works e) : 0 < (s.thread i).owns e := by
  have howner : (s.thread i).pc.owner := by
    have := hw.2
    cases hpc : (s.thread i).pc <;> rw [hpc] at this <;> first | rfl | cases this
  simp [DmaThread.owns, DmaThread.permitAt, hw.1, (h.fits i).owner howner]

omit [DecidableEq ι] in
/-- An engine that was never given back unpaired has one owner. -/
lemma owner_unique (h : Sharing s) (hzero : (s.engine e).unpaired = 0)
    (hi : 0 < (s.thread i).owns e) (hj : 0 < (s.thread j).owns e) : i = j := by
  have htransfer := h.transfer e
  rw [hzero] at htransfer
  exact htransfer.eq_of_one hi hj

omit [DecidableEq ι] in
/-- **A thread that has got through the context semaphore finds a free context.** -/
lemma exists_free (h : Sharing s) (hi : (s.thread i).pc = .scan) :
    ∃ c, (s.engine (s.thread i).engine).inUse c = false := by
  have hacc := h.context (s.thread i).engine
  rw [← Fintype.card_fin dmaNumContexts] at hacc
  obtain ⟨c, hc⟩ := hacc.exists_free (i := i)
    (fun j c c' (hc : (s.thread j).Uses (s.thread i).engine c)
        (hc' : (s.thread j).Uses (s.thread i).engine c') => hc.2.1.symm.trans hc'.2.1)
    (fun j c hc => by
      have hpermit : (s.thread j).pc.permit := by
        have := hc.2.2
        cases hpc : (s.thread j).pc <;> rw [hpc] at this <;> first | rfl | cases this
      simp [DmaThread.permits, DmaThread.permitAt, hc.1, hpermit])
    (by simp [DmaThread.permits, DmaThread.permitAt, hi, DmaPc.permit])
    (fun c hc => by
      have := hc.2.2
      rw [hi] at this
      cases this)
  refine ⟨c, Bool.eq_false_iff.mpr fun hused => ?_⟩
  obtain ⟨j, hj⟩ := (h.inUse _ c).mp hused
  exact hc j hj

section Run

variable {t t' : DmaThread} {choice : DmaChoice} {x' : SharedEngine} {n' : ℕ}

omit [Fintype ι] in
/-- The state after a step of a thread. -/
lemma step_run (ht : s.thread i = t)
    (hstep : t.step choice (s.engine t.engine) s.serialSemaphore = (t', x', n')) :
    s.step (.run i choice) =
      { engine := Function.update s.engine t.engine x'
        serialSemaphore := n'
        thread := Function.update s.thread i t' } := by
  simp only [SharingSystem.step, ht, hstep]

omit [Fintype ι] in
/-- What the threads are at after a step of one of them. -/
lemma at_update {P : DmaThread → Prop} :
    P (Function.update s.thread i t' j) ↔ j = i ∧ P t' ∨ j ≠ i ∧ P (s.thread j) := by
  rcases eq_or_ne j i with rfl | hj
  · simp
  · simp [hj]

/-- A context in use has one user, after a step of a thread too. -/
lemma contexts_run (h : Sharing s) (ht : s.thread i = t)
    (hstep : t.step choice (s.engine t.engine) s.serialSemaphore = (t', x', n')) :
    (∀ e c, (Function.update s.engine t.engine x' e).inUse c ↔
        ∃ j, (Function.update s.thread i t' j).Uses e c) ∧
      ∀ e c j k, (Function.update s.thread i t' j).Uses e c →
        (Function.update s.thread i t' k).Uses e c → j = k := by
  have hfound : t.pc = .scan → ∃ c, (s.engine t.engine).inUse c = false := by
    rw [← ht]
    exact h.exists_free
  have hold : ∀ e c, (Function.update s.engine t.engine x' e).inUse c =
      if e = t.engine then x'.inUse c else (s.engine e).inUse c := by
    intro e c
    rcases eq_or_ne e t.engine with rfl | he
    · simp
    · simp [he]
  rcases DmaThread.uses_step hfound hstep with
    ⟨hin, hctx, hsame⟩ | ⟨hno, hyes, heng, hfree, hin⟩ | ⟨hyes, hno, hin⟩
  · have huses : ∀ j e c, (Function.update s.thread i t' j).Uses e c ↔ (s.thread j).Uses e c := by
      intro j e c
      rw [at_update (P := fun t => t.Uses e c)]
      rcases eq_or_ne j i with rfl | hj
      · simp only [true_and, ne_eq, not_true_eq_false, false_and, or_false, ht, DmaThread.Uses, hctx]
        refine ⟨fun ⟨h₁, h₂, h₃⟩ => ?_, fun ⟨h₁, h₂, h₃⟩ => ?_⟩
        · exact ⟨(hsame h₃).1 ▸ h₁, (hsame h₃).2 ▸ h₂, h₃⟩
        · exact ⟨(hsame h₃).1.trans h₁, (hsame h₃).2.trans h₂, h₃⟩
      · simp [hj]
    refine ⟨fun e c => ?_, fun e c j k hj hk => ?_⟩
    · simp only [huses, hold, hin]
      rw [← h.inUse e c]
      split_ifs with he
      · rw [he]
      · rfl
    · exact h.alone e c j k ((huses j e c).mp hj) ((huses k e c).mp hk)
  · have hnone : ∀ e c, ¬ (s.thread i).Uses e c := by
      intro e c hu
      rw [ht] at hu
      exact absurd hu.2.2 (by simp [hno])
    have huses : ∀ j e c, (Function.update s.thread i t' j).Uses e c ↔
        (j = i ∧ e = t.engine ∧ c = t'.context) ∨ (s.thread j).Uses e c := by
      intro j e c
      rw [at_update (P := fun t => t.Uses e c)]
      rcases eq_or_ne j i with rfl | hj
      · have hmine : t'.Uses e c ↔ e = t.engine ∧ c = t'.context :=
          ⟨fun hu => ⟨hu.1.symm.trans heng, hu.2.1.symm⟩,
            fun hu => ⟨heng.trans hu.1.symm, hu.2.symm, hyes⟩⟩
        simp [hnone, hmine]
      · simp [hj]
    have hnew : ¬ ∃ j, (s.thread j).Uses t.engine t'.context := fun hj => by
      rw [← h.inUse, hfree] at hj
      cases hj
    refine ⟨fun e c => ?_, fun e c j k hj hk => ?_⟩
    · simp only [huses, hold, hin, exists_or, exists_eq_left, ← h.inUse e c]
      rcases eq_or_ne e t.engine with rfl | he
      · rcases eq_or_ne c t'.context with rfl | hc
        · simp
        · simp [hc]
      · simp [he]
    · rcases (huses j e c).mp hj with ⟨hji, he, hc⟩ | hj <;>
        rcases (huses k e c).mp hk with ⟨hki, he', hc'⟩ | hk
      · rw [hji, hki]
      · rw [he, hc] at hk
        exact absurd ⟨k, hk⟩ hnew
      · rw [he', hc'] at hj
        exact absurd ⟨j, hj⟩ hnew
      · exact h.alone e c j k hj hk
  · have hmine : (s.thread i).Uses t.engine t.context := by
      rw [ht]
      exact ⟨rfl, rfl, hyes⟩
    have huses : ∀ j e c, (Function.update s.thread i t' j).Uses e c ↔
        (s.thread j).Uses e c ∧ ¬ (e = t.engine ∧ c = t.context) := by
      intro j e c
      rw [at_update (P := fun t => t.Uses e c)]
      rcases eq_or_ne j i with rfl | hj
      · simp only [true_and, ne_eq, not_true_eq_false, false_and, or_false, ht, DmaThread.Uses, hno]
        refine ⟨fun hu => absurd hu.2.2 (by simp), fun hu => ?_⟩
        exact absurd ⟨hu.1.1.symm, hu.1.2.1.symm⟩ hu.2
      · simp only [hj, false_and, false_or, ne_eq, not_false_eq_true, true_and, iff_self_and]
        rintro hu ⟨rfl, rfl⟩
        exact hj (h.alone _ _ j i hu hmine)
    refine ⟨fun e c => ?_, fun e c j k hj hk => ?_⟩
    · simp only [huses, hold, hin, exists_and_right, ← h.inUse e c]
      rcases eq_or_ne e t.engine with rfl | he
      · rcases eq_or_ne c t.context with rfl | hc
        · simp
        · simp [hc]
      · simp [he]
    · exact h.alone e c j k ((huses j e c).mp hj).1 ((huses k e c).mp hk).1

/-- An engine is out of the idle state exactly while a thread works on it, after a step of a thread
too. -/
lemma state_run (h : Sharing s) (ht : s.thread i = t)
    (hstep : t.step choice (s.engine t.engine) s.serialSemaphore = (t', x', n'))
    (e : Fin dmaNumEngines) (hzero : (Function.update s.engine t.engine x' e).unpaired = 0) :
    (Function.update s.engine t.engine x' e).state ≠ .idle ↔
      ∃ j, (Function.update s.thread i t' j).Works e := by
  have hle := (DmaThread.step_keeps (ht ▸ h.fits i) hstep).unpaired
  have hold : (s.engine e).unpaired = 0 := by
    rcases eq_or_ne e t.engine with rfl | he
    · rw [Function.update_self] at hzero
      omega
    · rwa [Function.update_of_ne he] at hzero
  have hstate := h.state e hold
  rcases DmaThread.works_step hstep with ⟨hs, hw, hsame⟩ | ⟨hs, hw, heng⟩ | ⟨hs, hw, hnot⟩
  · have hworks : ∀ j, (Function.update s.thread i t' j).Works e ↔ (s.thread j).Works e := by
      intro j
      rw [at_update (P := fun t => t.Works e)]
      rcases eq_or_ne j i with rfl | hj
      · simp only [true_and, ne_eq, not_true_eq_false, false_and, or_false, ht, DmaThread.Works, hw]
        refine ⟨fun ⟨h₁, h₂⟩ => ⟨(hsame h₂) ▸ h₁, h₂⟩, fun ⟨h₁, h₂⟩ => ⟨(hsame h₂).trans h₁, h₂⟩⟩
      · simp [hj]
    simp only [hworks, ← hstate]
    rcases eq_or_ne e t.engine with rfl | he
    · rw [Function.update_self, hs]
    · rw [Function.update_of_ne he]
  · rcases eq_or_ne e t.engine with rfl | he
    · rw [Function.update_self]
      exact ⟨fun _ => ⟨i, by rw [Function.update_self]; exact ⟨heng, hw⟩⟩, fun _ => hs⟩
    · rw [Function.update_of_ne he, hstate]
      refine exists_congr fun j => ?_
      rw [at_update (P := fun t => t.Works e)]
      rcases eq_or_ne j i with rfl | hj
      · simp [ht, DmaThread.Works, heng, he.symm]
      · simp [hj]
  · rcases eq_or_ne e t.engine with rfl | he
    · rw [Function.update_self]
      refine ⟨fun hne => absurd hs hne, fun hj => ?_⟩
      obtain ⟨j, hj⟩ := hj
      rcases (at_update (P := fun u => u.Works t.engine)).mp hj with ⟨-, hj⟩ | ⟨hji, hj⟩
      · exact absurd hj.2 (by simp [hnot])
      · have hmine : (s.thread i).Works t.engine := by
          rw [ht]
          exact ⟨rfl, hw⟩
        exact absurd (h.owner_unique hold (h.owns_of_works hj) (h.owns_of_works hmine)) hji
    · rw [Function.update_of_ne he, hstate]
      refine exists_congr fun j => ?_
      rw [at_update (P := fun t => t.Works e)]
      rcases eq_or_ne j i with rfl | hj
      · simp [ht, DmaThread.Works, hnot, he.symm]
      · simp [hj]

/-- **A step of a thread keeps the engines shared.** -/
theorem run (h : Sharing s) (i : ι) (choice : DmaChoice) : Sharing (s.step (.run i choice)) := by
  obtain ⟨t, ht⟩ : ∃ t, s.thread i = t := ⟨_, rfl⟩
  obtain ⟨⟨t', x', n'⟩, hstep⟩ :
      ∃ r, t.step choice (s.engine t.engine) s.serialSemaphore = r := ⟨_, rfl⟩
  have hfits : t.Fits := ht ▸ h.fits i
  have hkeep := DmaThread.step_keeps hfits hstep
  rw [step_run ht hstep]
  refine ⟨fun j => ?_, fun e => ?_, fun e => ?_, ?_, ?_, ?_, ?_⟩
  · rcases eq_or_ne j i with rfl | hj
    · simpa using hkeep.fits
    · simpa [hj] using h.fits j
  · refine (h.context e).change (i := i) (fun j hj => by simp [hj]) ?_
    obtain ⟨hself, hne⟩ := DmaThread.permitAt_change t.pc.permit
      (hkeep.engine.imp_right And.left)
    simp only [Function.update_self, ht, DmaThread.permits]
    rcases eq_or_ne e t.engine with rfl | he
    · have hloc := hkeep.permits
      rw [Function.update_self, hself, DmaThread.permitAt_self]
      omega
    · rw [Function.update_of_ne he, hne e he]
  · refine (h.transfer e).change (i := i) (fun j hj => by simp [hj]) ?_
    obtain ⟨hself, hne⟩ := DmaThread.permitAt_change t.engineAcquired
      (hkeep.engine.imp_right And.right)
    simp only [Function.update_self, ht, DmaThread.owns]
    rcases eq_or_ne e t.engine with rfl | he
    · have hloc := hkeep.owns
      rw [Function.update_self, hself, DmaThread.permitAt_self]
      omega
    · rw [Function.update_of_ne he, hne e he]
  · refine h.serial.change (i := i) (fun j hj => by simp [hj]) ?_
    have hloc := hkeep.serials
    simp only [Function.update_self, ht]
    omega
  · exact (h.contexts_run ht hstep).1
  · exact (h.contexts_run ht hstep).2
  · exact h.state_run ht hstep

end Run

omit [DecidableEq ι] in
/-- A flag of an engine that is set keeps the engines shared. -/
lemma setEngine (h : Sharing s) {x : SharedEngine}
    (hc : x.contextSemaphore = (s.engine e).contextSemaphore)
    (ht : x.transferSemaphore = (s.engine e).transferSemaphore)
    (hs : x.state = (s.engine e).state) (hi : x.inUse = (s.engine e).inUse)
    (hu : x.unpaired = (s.engine e).unpaired) : Sharing (s.setEngine e x) := by
  have hat : ∀ {α : Type} (f : SharedEngine → α), f x = f (s.engine e) →
      ∀ e', f ((s.setEngine e x).engine e') = f (s.engine e') := by
    intro α f hf e'
    rcases eq_or_ne e' e with rfl | he
    · simpa [SharingSystem.setEngine] using hf
    · simp [SharingSystem.setEngine, he]
  refine ⟨h.fits, fun e => ?_, fun e => ?_, h.serial, fun e c => ?_, h.alone, fun e => ?_⟩
  · rw [hat _ hc]
    exact h.context e
  · rw [hat _ ht, hat _ hu]
    exact h.transfer e
  · rw [hat _ hi]
    exact h.inUse e c
  · rw [hat _ hs, hat _ hu]
    exact h.state e

/-- **Every step keeps the engines shared.** -/
theorem step (h : Sharing s) (event : SharingEvent ι) : Sharing (s.step event) := by
  cases event with
  | run i choice => exact h.run i choice
  | enable e => exact h.setEngine rfl rfl rfl rfl rfl
  | stream e on => exact h.setEngine rfl rfl rfl rfl rfl

omit [DecidableEq ι] in
/-- The engines are shared to begin with. -/
lemma initial (e : Fin dmaNumEngines) (c : Fin dmaNumContexts) :
    Sharing (SharingSystem.initial (ι := ι) e c) where
  fits _ := ⟨by simp [SharingSystem.initial, DmaThread.initial, DmaPc.owner],
    by simp [SharingSystem.initial, DmaThread.initial],
    by simp [SharingSystem.initial, DmaThread.initial]⟩
  context _ := ⟨by simp [SharingSystem.initial, DmaThread.initial, SharedEngine.initial,
    DmaThread.permits, DmaPc.permit]⟩
  transfer _ := ⟨by simp [SharingSystem.initial, DmaThread.initial, SharedEngine.initial,
    DmaThread.owns]⟩
  serial := ⟨by simp [SharingSystem.initial, DmaThread.initial]⟩
  inUse _ _ := by simp [SharingSystem.initial, DmaThread.initial, SharedEngine.initial,
    DmaThread.Uses, DmaPc.context]
  alone _ _ _ _ hu := absurd hu.2.2 (by simp [SharingSystem.initial, DmaThread.initial,
    DmaPc.context])
  state _ _ := by simp [SharingSystem.initial, DmaThread.initial, SharedEngine.initial,
    DmaThread.Works, DmaPc.working]

end Sharing

/-! ### Runs -/

/-- Two transfers own one engine after `dmaDisable` has given up waiting for the first of them: the
engine is enabled again, and the second one goes through the semaphore. -/
example :
    let e : Fin dmaNumEngines := ⟨0, by decide⟩
    let go (call : TransferCall) (timeout : Bool) : DmaChoice := ⟨call, timeout, false, true⟩
    let transfer := go (.transfer e true) false
    let events : List (SharingEvent (Fin 3)) :=
      [.enable e] ++ List.replicate 9 (.run 0 transfer) ++
        List.replicate 4 (.run 2 (go (.disable [e]) true)) ++ [.enable e] ++
        List.replicate 9 (.run 1 transfer)
    let s := events.foldl SharingSystem.step (SharingSystem.initial e ⟨0, by decide⟩)
    (s.thread 0).owns e = 1 ∧ (s.thread 1).owns e = 1 ∧ (s.engine e).unpaired = 1 := by
  decide +kernel

end LibAjaNtv2
