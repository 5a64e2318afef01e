import Mathlib.Tactic
import LibAjaNtv2.Stream.Types

/-!
The stream operations of the Linux driver (`ntv2dma.c`), each with whether it succeeded.

* `dmaOpsStreamInitialize`, `dmaOpsStreamRelease`, `dmaOpsStreamStart`, `dmaOpsStreamStop`,
  `dmaOpsStreamAdvance`: the states of stream and engine;
* `dmaOpsBufferQueue`, `dmaOpsBufferLink`, `dmaOpsBufferComplete`, `dmaOpsBufferFlush`,
  `dmaOpsBufferRelease`: the flags of a slot.
-/

namespace LibAjaNtv2

/-- The engine is stopped, and both states are initialized. -/
def dmaOpsStreamInitialize (hw : StreamHardware) (s : Ntv2Stream) : Ntv2Stream × Bool :=
  if hw.dmaXlnxStreamStop < 0 then ({ s with engineState := .error }, false)
  else
    ({ s with strDescriptorIndex := 0, streamState := .initialized, engineState := .initialized },
      true)

/-- The engine is stopped, and both states are released. -/
def dmaOpsStreamRelease (hw : StreamHardware) (s : Ntv2Stream) : Ntv2Stream × Bool :=
  if hw.dmaXlnxStreamStop < 0 then ({ s with engineState := .error }, false)
  else ({ s with streamState := .released, engineState := .released }, true)

/-- Starts the engine of an initialized stream, at its first descriptor, and puts the stream into
a state. -/
def dmaOpsStreamRun (target : Ntv2StreamState) (hw : StreamHardware) (s : Ntv2Stream) :
    Ntv2Stream × Bool :=
  if s.engineState = .error then (s, false)
  else if s.streamState = .initialized ∧ hw.dmaXlnxStreamStart < 0 then
    ({ s with engineState := .error }, false)
  else ({ s with streamState := target }, true)

/-- The stream is to be active. -/
def dmaOpsStreamStart : StreamHardware → Ntv2Stream → Ntv2Stream × Bool := dmaOpsStreamRun .active

/-- The stream is to be idle. -/
def dmaOpsStreamStop : StreamHardware → Ntv2Stream → Ntv2Stream × Bool := dmaOpsStreamRun .idle

/-- The engine takes over the state of the stream. -/
def dmaOpsStreamAdvance (s : Ntv2Stream) : Ntv2Stream × Bool :=
  if s.streamState = .error then (s, false)
  else if s.streamState ≠ .idle ∧ s.streamState ≠ .active then (s, false)
  else if s.streamState = .active then ({ s with engineState := .active }, true)
  else ({ s with engineState := .idle }, true)

/-- Resets the flags of a slot and finds its mapped page buffer in the cache of the owner. -/
def dmaOpsBufferQueue (hw : StreamHardware) (s : Ntv2Stream) (index : StreamIndex) :
    Ntv2Stream × Bool :=
  if (s.streamBuffers index).queued then (s, true)
  else
    let user := (s.streamBuffers index).userBuffer
    let s := s.setBuffer index { userBuffer := user }
    match s.owner with
    | none => (s, false)
    | some file =>
        if user.fUserSpacePtr = 0 ∨ user.fByteCount = 0 then (s, false)
        else
          match hw.dmaPageRootFind file user.fUserSpacePtr user.fByteCount with
          | none => (s, false)
          | some page =>
              if !hw.dmaPageLocked page then (s, false)
              else if !hw.dmaSgMapped page then (s, false)
              else
                (s.setBuffer index { userBuffer := user, queued := true, dmaBuffer := some page },
                  true)

/-- A slot that may be linked. -/
def Ntv2StreamBuffer.Linkable (b : Ntv2StreamBuffer) : Prop :=
  b.queued = true ∧ b.flushed = false ∧ b.completed = false ∧ b.released = false ∧
    b.dmaBuffer.isSome = true

instance (b : Ntv2StreamBuffer) : Decidable b.Linkable :=
  inferInstanceAs (Decidable (_ ∧ _))

/-- Builds the descriptors of a slot that has none, and links the last of them to the first. -/
def dmaOpsBufferBuild (hw : StreamHardware) (s : Ntv2Stream) (index : StreamIndex) :
    Ntv2Stream × Bool :=
  let buffer := s.streamBuffers index
  if buffer.linked then (s, true)
  else
    let buffer := { buffer with dsIndex := s.strDescriptorIndex }
    let s := s.setBuffer index buffer
    if hw.dmaXlnxStreamBuild index ≤ 0 then ({ s with engineState := .error }, false)
    else
      let count := (hw.dmaXlnxStreamBuild index).toNat
      let buffer := { buffer with dsCount := count }
      let s := { s.setBuffer index buffer with
        strDescriptorIndex := (s.strDescriptorIndex + count) % s.maxDescriptors }
      if hw.dmaXlnxStreamLink index index < 0 then ({ s with engineState := .error }, false)
      else (s.setBuffer index { buffer with linked := true }, true)

/-- Builds two slots where necessary and links the first to the second. -/
def dmaOpsBufferLink (hw : StreamHardware) (s : Ntv2Stream) (fromIndex toIndex : StreamIndex) :
    Ntv2Stream × Bool :=
  if s.engineState = .error then (s, false)
  else if ¬ (s.streamBuffers fromIndex).Linkable then (s, false)
  else
    match dmaOpsBufferBuild hw s fromIndex with
    | (s, false) => (s, false)
    | (s, true) =>
        if ¬ (s.streamBuffers toIndex).Linkable then (s, false)
        else
          match dmaOpsBufferBuild hw s toIndex with
          | (s, false) => (s, false)
          | (s, true) =>
              if fromIndex ≠ toIndex ∧ hw.dmaXlnxStreamLink fromIndex toIndex < 0 then
                ({ s with engineState := .error }, false)
              else (s, true)

/-- Marks a slot completed. -/
def dmaOpsBufferComplete (s : Ntv2Stream) (index : StreamIndex) : Ntv2Stream × Bool :=
  let buffer := s.streamBuffers index
  if !buffer.queued || !buffer.linked || buffer.flushed || buffer.released then (s, false)
  else (s.setBuffer index { buffer with completed := true }, true)

/-- The engine takes buffers from the queue. -/
def Ntv2Stream.EngineRunning (s : Ntv2Stream) : Prop :=
  s.engineState = .active ∨ s.engineState = .idle

instance (s : Ntv2Stream) : Decidable s.EngineRunning := inferInstanceAs (Decidable (_ ∨ _))

/-- Marks a slot flushed, unless it is linked while the engine runs. -/
def dmaOpsBufferFlush (s : Ntv2Stream) (index : StreamIndex) : Ntv2Stream × Bool :=
  let buffer := s.streamBuffers index
  if buffer.flushed then (s, true)
  else if !buffer.queued || buffer.completed || buffer.released then (s, false)
  else if s.EngineRunning ∧ buffer.linked = true then (s, false)
  else (s.setBuffer index { buffer with flushed := true }, true)

/-- Gives a slot's page buffer back, unless it is linked and not completed while the engine
runs. -/
def dmaOpsBufferRelease (s : Ntv2Stream) (index : StreamIndex) : Ntv2Stream × Bool :=
  let buffer := s.streamBuffers index
  if buffer.released then (s, true)
  else if s.EngineRunning ∧ buffer.linked = true ∧ buffer.completed = false then (s, false)
  else
    (s.setBuffer index { buffer with
      dmaBuffer := none
      queued := false
      linked := false
      completed := false
      flushed := false
      released := true
      error := false }, true)

end LibAjaNtv2
