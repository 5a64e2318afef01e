import LibAjaNtv2.Rpc.TransferMessage

/-!
Memory safety of the RPC decoders on arbitrary bytes.

* `AutoCirculateTransferStruct`, `AutoCirculateTaskStruct`: the two older structures and
  their decoders, the latter with stores through a pointer off the wire;
* `RpcDecodeCall`: the decoders; `RpcDecodeCall.run`: what they do on a byte string;
* `RpcDecodeCall.RoomFor`: what two of them leave unchecked;
* `rpcDecode_safe_iff`: **the decoders are memory safe exactly where there is room**.
-/

namespace LibAjaNtv2

/-! ### The transfer structure -/

/-- `RP188_STRUCT` is decoded like `NTV2_RP188`. -/
abbrev RP188Struct := NTV2RP188

/-- `AUTOCIRCULATE_TRANSFER_STRUCT`, as far as the decoder stores into it.  A buffer is
`none` where its pointer is null. -/
structure AutoCirculateTransferStruct where
  channelSpec : ULWord
  videoBuffer : Option (List Byte)
  videoBufferSize : ULWord
  videoDmaOffset : ULWord
  audioBuffer : Option (List Byte)
  audioBufferSize : ULWord
  audioStartSample : ULWord
  audioNumChannels : ULWord
  frameRepeatCount : ULWord
  rp188 : RP188Struct
  desiredFrame : ULWord
  hUser : ULWord
  transferFlags : ULWord
  /-- The first byte of it: no other is read or written. -/
  bDisableExtraAudioInfo : UByte
  frameBufferFormat : ULWord
  frameBufferOrientation : ULWord
  vidProcInfo : AutoCircVidProcInfo
  customAncInfo : ULWord × ULWord × ULWord × ULWord
  videoNumSegments : ULWord
  videoSegmentHostPitch : ULWord
  videoSegmentCardPitch : ULWord
  videoQuarterSizeExpand : ULWord

/-- A buffer of the structure: where there is none yet, memory for one and its bytes. -/
def popBlock (heap : Heap) (block : Option (List Byte)) (size : ULWord) :
    Decoder (Bool × Option (List Byte)) :=
  if size ≠ 0 ∧ block = none then
    if heap size.toNat then do
      -- the test is `>=`: a byte must follow
      let inside ← Decoder.fits (size.toNat + 1)
      if inside then
        let bs ← Decoder.bytes size.toNat
        return (true, some bs)
      else return (false, some (List.replicate size.toNat 0))
    else return (false, none)
  else return (true, block)

namespace AutoCirculateTransferStruct

/-- `AUTOCIRCULATE_TRANSFER_STRUCT::RPCDecode`, from the audio buffer on. -/
def rpcDecodeRest (host : Host) (self : AutoCirculateTransferStruct) :
    Decoder (Bool × AutoCirculateTransferStruct) := do
  let audioStartSample ← popU32 host
  let audioNumChannels ← popU32 host
  let frameRepeatCount ← popU32 host
  let rp188 ← NTV2RP188.rpcDecode host
  let desiredFrame ← popU32 host
  let hUser ← popU32 host
  let transferFlags ← popU32 host
  let bDisableExtraAudioInfo ← popU8
  let frameBufferFormat ← popEnum host
  let frameBufferOrientation ← popEnum host
  let vidProcInfo ← AutoCircVidProcInfo.rpcDecode host
  let group1 ← popU32 host
  let group2 ← popU32 host
  let group3 ← popU32 host
  let group4 ← popU32 host
  let videoNumSegments ← popU32 host
  let videoSegmentHostPitch ← popU32 host
  let videoSegmentCardPitch ← popU32 host
  let videoQuarterSizeExpand ← popEnum host
  return (true, { self with
    audioStartSample := audioStartSample
    audioNumChannels := audioNumChannels
    frameRepeatCount := frameRepeatCount
    rp188 := rp188.2
    desiredFrame := desiredFrame
    hUser := hUser
    transferFlags := transferFlags
    bDisableExtraAudioInfo := bDisableExtraAudioInfo
    frameBufferFormat := frameBufferFormat
    frameBufferOrientation := frameBufferOrientation
    vidProcInfo := vidProcInfo.2
    customAncInfo := (group1, group2, group3, group4)
    videoNumSegments := videoNumSegments
    videoSegmentHostPitch := videoSegmentHostPitch
    videoSegmentCardPitch := videoSegmentCardPitch
    videoQuarterSizeExpand := videoQuarterSizeExpand })

/-- `AUTOCIRCULATE_TRANSFER_STRUCT::RPCDecode`. -/
def rpcDecode (host : Host) (heap : Heap) (self : AutoCirculateTransferStruct) :
    Decoder (Bool × AutoCirculateTransferStruct) := do
  let channelSpec ← popEnum host
  let videoBufferSize ← popU32 host
  let video ← popBlock heap self.videoBuffer videoBufferSize
  let self := { self with
    channelSpec := channelSpec
    videoBufferSize := videoBufferSize
    videoBuffer := video.2 }
  if video.1 then
    let videoDmaOffset ← popU32 host
    let audioBufferSize ← popU32 host
    let audio ← popBlock heap self.audioBuffer audioBufferSize
    let self := { self with
      videoDmaOffset := videoDmaOffset
      audioBufferSize := audioBufferSize
      audioBuffer := audio.2 }
    if audio.1 then self.rpcDecodeRest host else return (false, self)
  else return (false, self)

end AutoCirculateTransferStruct

/-! ### The task structure -/

/-- A piece of memory. -/
structure Region where
  base : ℕ
  size : ℕ
  deriving DecidableEq, Repr

/-- The `n` bytes at an address lie in the piece of memory. -/
def Region.Has (r : Region) (addr n : ℕ) : Prop := r.base ≤ addr ∧ addr + n ≤ r.base + r.size

instance (r : Region) (addr n : ℕ) : Decidable (r.Has addr n) :=
  inferInstanceAs (Decidable (_ ∧ _))

/-- `n` bytes are stored at an address, with no check at all. -/
def Region.store (r : Region) (addr n : ℕ) : Decoder Unit := fun _ i =>
  if r.Has addr n then .ok ((), i) else .error .overrun

/-- How many words follow the type of a task: `AutoCircRegisterTask` has 4,
`AutoCircTimeCodeTask` 54. -/
def taskWords (taskType : ULWord) : ℕ :=
  if taskType = 1 ∨ taskType = 2 then 4
  else if taskType = 3 ∨ taskType = 4 then 54
  else 0

/-- `sizeof (AutoCircGenericTask)`. -/
def taskBytes : ℕ := 220

/-- The words of a task, each stored as it is read. -/
def popTaskWords (host : Host) (r : Region) : ℕ → ℕ → Decoder (List ULWord)
  | 0, _ => pure []
  | n + 1, addr => do
    let word ← popU32 host
    r.store addr 4
    let words ← popTaskWords host r n (addr + 4)
    return word :: words

/-- The tasks, each stored as it is read. -/
def popTasks (host : Host) (r : Region) : ℕ → ℕ → Decoder (List (ULWord × List ULWord))
  | 0, _ => pure []
  | n + 1, addr => do
    let taskType ← popU32 host
    r.store addr 4
    let words ← popTaskWords host r (taskWords taskType) (addr + 4)
    let tasks ← popTasks host r n (addr + taskBytes)
    return (taskType, words) :: tasks

/-- `AUTOCIRCULATE_TASK_STRUCT`, as far as the decoder stores into it. -/
structure AutoCirculateTaskStruct where
  taskVersion : ULWord
  taskSize : ULWord
  numTasks : ULWord
  maxTasks : ULWord
  taskArray : ULWord64
  deriving DecidableEq, Repr

/-- The tasks, where there are any and the pointer is not null. -/
def popTaskArray (host : Host) (r : Region) (numTasks : ULWord) (taskArray : ULWord64) :
    Decoder (List (ULWord × List ULWord)) :=
  if taskArray ≠ 0 ∧ numTasks ≠ 0 then popTasks host r numTasks.toNat taskArray.toNat
  else pure []

/-- `AUTOCIRCULATE_TASK_STRUCT::RPCDecode`; `r` is the memory that the caller has for the
tasks.  The decoder takes the pointer to it from the wire. -/
def AutoCirculateTaskStruct.rpcDecode (host : Host) (r : Region) :
    Decoder (Bool × AutoCirculateTaskStruct × List (ULWord × List ULWord)) := do
  let taskVersion ← popU32 host
  let taskSize ← popU32 host
  let numTasks ← popU32 host
  let maxTasks ← popU32 host
  let taskArray ← popU64 host
  let tasks ← popTaskArray host r numTasks taskArray
  return (true, ⟨taskVersion, taskSize, numTasks, maxTasks, taskArray⟩, tasks)

/-! ### What is always safe -/

section Safe

variable {blob : List Byte} {i : ℕ} (host : Host) {heap : Heap}

lemma safe_rp188 : SafeFrom blob i (NTV2RP188.rpcDecode host) := by
  rw [NTV2RP188.rpcDecode]
  iterate 3 refine (safe_u32 host).bind fun _ _ _ => ?_
  exact SafeFrom.pure _

lemma safe_segmentedDMAInfo : SafeFrom blob i (NTV2SegmentedDMAInfo.rpcDecode host) := by
  rw [NTV2SegmentedDMAInfo.rpcDecode]
  iterate 4 refine (safe_u32 host).bind fun _ _ _ => ?_
  exact SafeFrom.pure _

lemma safe_vidProcInfo : SafeFrom blob i (AutoCircVidProcInfo.rpcDecode host) := by
  rw [AutoCircVidProcInfo.rpcDecode]
  iterate 5 refine (safe_enum host).bind fun _ _ _ => ?_
  iterate 2 refine (safe_u32 host).bind fun _ _ _ => ?_
  exact SafeFrom.pure _

lemma safe_colorCorrection (dst : NTV2ColorCorrectionData) :
    SafeFrom blob i (dst.rpcDecode host heap) := by
  rw [NTV2ColorCorrectionData.rpcDecode]
  refine (safe_enum host).bind fun _ _ _ => ?_
  refine (safe_u32 host).bind fun _ _ _ => ?_
  refine (safe_buffer host _ _).bind fun _ _ _ => ?_
  exact SafeFrom.pure _

lemma safe_frameStamp (dst : FrameStamp) : SafeFrom blob i (dst.rpcDecode host heap) := by
  rw [FrameStamp.rpcDecode]
  refine (safe_header host _).bind fun _ _ _ => ?_
  refine (safe_u64 host).bind fun _ _ _ => ?_
  refine (safe_u32 host).bind fun _ _ _ => ?_
  refine (safe_u64 host).bind fun _ _ _ => ?_
  iterate 7 refine (safe_u32 host).bind fun _ _ _ => ?_
  refine (safe_buffer host _ _).bind fun _ _ _ => ?_
  refine (safe_u64 host).bind fun _ _ _ => ?_
  refine (safe_u32 host).bind fun _ _ _ => ?_
  iterate 2 refine (safe_u64 host).bind fun _ _ _ => ?_
  iterate 5 refine (safe_u32 host).bind fun _ _ _ => ?_
  refine (safe_u64 host).bind fun _ _ _ => ?_
  iterate 4 refine (safe_u32 host).bind fun _ _ _ => ?_
  refine (safe_trailer host).bind fun _ _ _ => ?_
  exact SafeFrom.pure _

lemma safe_transferStatus (dst : AutoCirculateTransferStatusMsg) :
    SafeFrom blob i (dst.rpcDecode host heap) := by
  rw [AutoCirculateTransferStatusMsg.rpcDecode]
  refine (safe_header host _).bind fun _ _ _ => ?_
  refine (safe_enum host).bind fun _ _ _ => ?_
  iterate 4 refine (safe_u32 host).bind fun _ _ _ => ?_
  refine (safe_frameStamp host _).bind fun _ _ _ => ?_
  iterate 4 refine (safe_u32 host).bind fun _ _ _ => ?_
  refine (safe_trailer host).bind fun _ _ _ => ?_
  exact SafeFrom.pure _

lemma safe_transfer (dst : AutoCirculateTransferMsg) :
    SafeFrom blob i (dst.rpcDecode host heap) := by
  rw [AutoCirculateTransferMsg.rpcDecode]
  refine (safe_header host _).bind fun _ _ _ => ?_
  iterate 5 refine (safe_buffer host _ _).bind fun _ _ _ => ?_
  refine (safe_transferStatus host _).bind fun _ _ _ => ?_
  refine (safe_u64 host).bind fun _ _ _ => ?_
  refine (safe_u32 host).bind fun _ _ _ => ?_
  refine (safe_segmentedDMAInfo host).bind fun _ _ _ => ?_
  refine (safe_colorCorrection host _).bind fun _ _ _ => ?_
  iterate 2 refine (safe_enum host).bind fun _ _ _ => ?_
  refine (safe_vidProcInfo host).bind fun _ _ _ => ?_
  refine (safe_enum host).bind fun _ _ _ => ?_
  refine (safe_buffer host _ _).bind fun _ _ _ => ?_
  iterate 3 refine (safe_u32 host).bind fun _ _ _ => ?_
  refine (safe_rp188 host).bind fun _ _ _ => ?_
  refine (safe_enum host).bind fun _ _ _ => ?_
  refine (safe_trailer host).bind fun _ _ _ => ?_
  exact SafeFrom.pure _

lemma safe_setRegisters (dst : NTV2SetRegisters) : SafeFrom blob i (dst.rpcDecode host heap) := by
  rw [NTV2SetRegisters.rpcDecode]
  refine (safe_header host _).bind fun _ _ _ => ?_
  refine (safe_u32 host).bind fun _ _ _ => ?_
  refine (safe_buffer host _ _).bind fun _ _ _ => ?_
  refine (safe_u32 host).bind fun _ _ _ => ?_
  refine (safe_buffer host _ _).bind fun _ _ _ => ?_
  refine (safe_trailer host).bind fun _ _ _ => ?_
  exact SafeFrom.pure _

lemma safe_getRegistersServer (dst : NTV2GetRegisters) :
    SafeFrom blob i (dst.rpcDecodeServer host heap) := by
  rw [NTV2GetRegisters.rpcDecodeServer]
  refine (safe_header host _).bind fun _ _ _ => ?_
  split
  · refine (safe_u32 host).bind fun _ _ _ => ?_
    refine (safe_buffer host _ _).bind fun _ _ _ => ?_
    refine (safe_u32 host).bind fun _ _ _ => ?_
    iterate 2 refine (safe_buffer host _ _).bind fun _ _ _ => ?_
    refine (safe_trailer host).bind fun _ _ _ => ?_
    exact SafeFrom.pure _
  · exact SafeFrom.pure _

lemma safe_getRegistersClient (dst : NTV2GetRegisters) :
    SafeFrom blob i (dst.rpcDecodeClient host heap) := by
  rw [NTV2GetRegisters.rpcDecodeClient]
  refine (safe_header host _).bind fun _ _ _ => ?_
  split
  · refine (safe_u32 host).bind fun _ _ _ => ?_
    refine (safe_buffer host _ _).bind fun _ _ _ => ?_
    refine (safe_u32 host).bind fun _ _ _ => ?_
    iterate 2 refine (safe_buffer host _ _).bind fun _ _ _ => ?_
    refine (safe_trailer host).bind fun _ _ _ => ?_
    exact SafeFrom.pure _
  · exact SafeFrom.pure _

lemma safe_fits (n : ℕ) : SafeFrom blob i (Decoder.fits n) :=
  ⟨le_rfl, fun h => absurd h (lt_irrefl _)⟩

lemma safe_block (block : Option (List Byte)) (size : ULWord) :
    SafeFrom blob i (popBlock heap block size) := by
  rw [popBlock]
  split
  · split
    · refine (safe_fits _).bind fun inside _ _ => ?_
      split
      · exact (SafeFrom.bytes _).bind fun _ _ _ => SafeFrom.pure _
      · exact SafeFrom.pure _
    · exact SafeFrom.pure _
  · exact SafeFrom.pure _

lemma safe_transferStruct (dst : AutoCirculateTransferStruct) :
    SafeFrom blob i (dst.rpcDecode host heap) := by
  have hrest : ∀ (dst : AutoCirculateTransferStruct) j,
      SafeFrom blob j (dst.rpcDecodeRest host) := by
    intro dst j
    rw [AutoCirculateTransferStruct.rpcDecodeRest]
    iterate 3 refine (safe_u32 host).bind fun _ _ _ => ?_
    refine (safe_rp188 host).bind fun _ _ _ => ?_
    iterate 3 refine (safe_u32 host).bind fun _ _ _ => ?_
    refine safe_u8.bind fun _ _ _ => ?_
    iterate 2 refine (safe_enum host).bind fun _ _ _ => ?_
    refine (safe_vidProcInfo host).bind fun _ _ _ => ?_
    iterate 7 refine (safe_u32 host).bind fun _ _ _ => ?_
    refine (safe_enum host).bind fun _ _ _ => ?_
    exact SafeFrom.pure _
  rw [AutoCirculateTransferStruct.rpcDecode]
  refine (safe_enum host).bind fun _ _ _ => ?_
  refine (safe_u32 host).bind fun _ _ _ => ?_
  refine (safe_block _ _).bind fun _ _ _ => ?_
  dsimp only
  split
  · iterate 2 refine (safe_u32 host).bind fun _ _ _ => ?_
    refine (safe_block _ _).bind fun _ _ _ => ?_
    split
    · exact hrest _ _
    · exact SafeFrom.pure _
  · exact SafeFrom.pure _

end Safe

/-! ### What is safe where there is room -/

/-- The 32-bit word at an index of the byte string. -/
def wordAt (host : Host) (blob : List Byte) (i : ℕ) : ULWord :=
  host.bigEndianOf ntv2EndianSwap32 (host.word 32 ((blob.drop i).take 4))

/-- The 64-bit word at an index of the byte string. -/
def word64At (host : Host) (blob : List Byte) (i : ℕ) : ULWord64 :=
  host.bigEndianOf ntv2EndianSwap64 (host.word 64 ((blob.drop i).take 8))

/-- As far as the byte string carries them, the tasks have room in the memory. -/
def TasksFit (host : Host) (r : Region) (blob : List Byte) : ℕ → ℕ → ℕ → Prop
  | 0, _, _ => True
  | n + 1, addr, i =>
    i + 4 ≤ blob.length →
      r.Has addr
          (4 + 4 * min (taskWords (wordAt host blob i)) ((blob.length - (i + 4)) / 4)) ∧
        (i + 4 + 4 * taskWords (wordAt host blob i) ≤ blob.length →
          TasksFit host r blob n (addr + taskBytes)
            (i + 4 + 4 * taskWords (wordAt host blob i)))

section Room

variable {blob : List Byte} {i : ℕ} (host : Host) (r : Region)

/-- A word is read where its bytes are. -/
lemma popWord_run {w n : ℕ} {swap : BitVec w → BitVec w} (hn : 0 < n) :
    popWord w host n swap blob i =
      if i + n ≤ blob.length then
        .ok (host.bigEndianOf swap (host.word w ((blob.drop i).take n)), i + n)
      else .error .outOfRange := by
  have hbytes := Decoder.bytes_run hn blob i
  rw [popWord]
  split
  · next hin =>
    rw [if_pos hin] at hbytes
    rw [Decoder.bind_ok hbytes]
    rfl
  · next hout =>
    rw [if_neg hout] at hbytes
    rw [Decoder.bind_error hbytes]

lemma popU32_run : popU32 host blob i =
    if i + 4 ≤ blob.length then .ok (wordAt host blob i, i + 4) else .error .outOfRange :=
  popWord_run host (by decide)

lemma forward_word {w n : ℕ} {swap : BitVec w → BitVec w} :
    Forward (popWord w host n swap) := Forward.of_safe fun _ _ => safe_word host

lemma forward_u32 : Forward (popU32 host) := forward_word host

lemma forward_store (addr n : ℕ) : Forward (r.store addr n) := by
  intro blob i a j h
  rw [Region.store] at h
  split at h
  · cases h
    exact ⟨le_rfl, fun h => absurd h (lt_irrefl _)⟩
  · cases h

lemma forward_taskWords (n addr : ℕ) : Forward (popTaskWords host r n addr) := by
  induction n generalizing addr with
  | zero => exact Forward.pure []
  | succ n ih =>
      refine (forward_u32 host).bind fun _ => (forward_store r _ _).bind fun _ => ?_
      exact (ih _).bind fun _ => Forward.pure _

lemma forward_tasks (n addr : ℕ) : Forward (popTasks host r n addr) := by
  induction n generalizing addr with
  | zero => exact Forward.pure []
  | succ n ih =>
      refine (forward_u32 host).bind fun _ => (forward_store r _ _).bind fun _ => ?_
      exact (forward_taskWords host r _ _).bind fun _ => (ih _).bind fun _ => Forward.pure _

lemma forward_taskArray (numTasks : ULWord) (taskArray : ULWord64) :
    Forward (popTaskArray host r numTasks taskArray) := by
  rw [popTaskArray]
  split
  · exact forward_tasks host r _ _
  · exact Forward.pure []

lemma forward_fill (dst : NTV2Buffer) (n : ULWord) : Forward (dst.rpcFill n) := by
  intro blob i a j h
  have hfits : Decoder.fits n.toNat blob i = .ok (decide (i + n.toNat ≤ blob.length), i) := rfl
  rw [NTV2Buffer.rpcFill, Decoder.bind_ok hfits] at h
  by_cases hin : i + n.toNat ≤ blob.length
  · simp only [hin, decide_true, if_true] at h
    obtain ⟨bs, k, hcopy, hpure⟩ := Decoder.bind_inv h
    rw [Decoder.copy] at hcopy
    split at hcopy
    · cases hcopy
      cases hpure
      exact ⟨Nat.le_add_right i _, fun _ => hin⟩
    · cases hcopy
  · simp only [hin, decide_false] at h
    cases h
    exact ⟨le_rfl, fun h => absurd h (lt_irrefl _)⟩

/-- What follows a word is safe exactly when it is safe for the word that is there. -/
lemma safe_after_word {α : Type} {w n : ℕ} {swap : BitVec w → BitVec w}
    {f : BitVec w → Decoder α} (hn : 0 < n) (hf : ∀ v, Forward (f v)) :
    SafeFrom blob i (popWord w host n swap >>= f) ↔
      (i + n ≤ blob.length → SafeFrom blob (i + n)
        (f (host.bigEndianOf swap (host.word w ((blob.drop i).take n))))) := by
  have hrun : popWord w host n swap blob i = _ := popWord_run host hn
  by_cases hin : i + n ≤ blob.length
  · rw [if_pos hin] at hrun
    rw [SafeFrom.bind_iff (forward_word host) hrun (hf _)]
    simp [hin]
  · rw [if_neg hin] at hrun
    refine iff_of_true ?_ fun h => absurd h hin
    rw [SafeFrom, Decoder.bind_error hrun]
    simp

lemma safe_after_u32 {α : Type} {f : ULWord → Decoder α} (hf : ∀ v, Forward (f v)) :
    SafeFrom blob i (popU32 host >>= f) ↔
      (i + 4 ≤ blob.length → SafeFrom blob (i + 4) (f (wordAt host blob i))) :=
  safe_after_word host (by decide) hf

lemma safe_after_u64 {α : Type} {f : ULWord64 → Decoder α} (hf : ∀ v, Forward (f v)) :
    SafeFrom blob i (popU64 host >>= f) ↔
      (i + 8 ≤ blob.length → SafeFrom blob (i + 8) (f (word64At host blob i))) :=
  safe_after_word host (by decide) hf

/-- What follows a store is safe exactly when the store is inside and it is. -/
lemma safe_after_store {α : Type} {f : Unit → Decoder α} (hf : ∀ u, Forward (f u))
    (addr n : ℕ) :
    SafeFrom blob i (r.store addr n >>= f) ↔ r.Has addr n ∧ SafeFrom blob i (f ()) := by
  by_cases h : r.Has addr n
  · have hrun : r.store addr n blob i = .ok ((), i) := if_pos h
    rw [SafeFrom.bind_iff (forward_store r addr n) hrun (hf _)]
    simp [h]
  · have hrun : r.store addr n blob i = .error .overrun := if_neg h
    refine iff_of_false (fun hs => ?_) fun hs => h hs.1
    rw [SafeFrom, Decoder.bind_error hrun] at hs
    exact hs rfl

/-- The words of a task are safe exactly when those that are there have room. -/
lemma safe_taskWords_iff {n addr : ℕ} (hbase : r.base ≤ addr) (htop : addr ≤ r.base + r.size) :
    SafeFrom blob i (popTaskWords host r n addr) ↔
      r.Has addr (4 * min n ((blob.length - i) / 4)) := by
  induction n generalizing addr i with
  | zero =>
      refine iff_of_true (SafeFrom.pure []) ⟨hbase, ?_⟩
      omega
  | succ n ih =>
      have hfwd : ∀ word : ULWord, Forward (do
          let words ← popTaskWords host r n (addr + 4)
          return word :: words) :=
        fun word => (forward_taskWords host r n _).bind fun _ => Forward.pure _
      rw [popTaskWords, safe_after_u32 host fun _ => (forward_store r _ _).bind fun _ => hfwd _]
      by_cases hin : i + 4 ≤ blob.length
      · have hcount : min (n + 1) ((blob.length - i) / 4) =
            min n ((blob.length - (i + 4)) / 4) + 1 := by omega
        rw [safe_after_store r fun _ => hfwd _, SafeFrom.map_iff, hcount]
        simp only [hin, forall_const]
        constructor
        · rintro ⟨hfirst, hrest⟩
          have hmore := (ih (by omega) hfirst.2).1 hrest
          exact ⟨hbase, by have := hmore.2; omega⟩
        · intro hall
          have hfirst : r.Has addr 4 := ⟨hbase, by have := hall.2; omega⟩
          refine ⟨hfirst, (ih (by omega) hfirst.2).2 ⟨by omega, ?_⟩⟩
          have := hall.2
          omega
      · have hcount : (blob.length - i) / 4 = 0 := by omega
        refine iff_of_true (fun h => absurd h hin) ⟨hbase, ?_⟩
        rw [hcount]
        omega

/-- The words of a task, where they are read, take four bytes each. -/
lemma popTaskWords_index {n addr j : ℕ} {words : List ULWord}
    (h : popTaskWords host r n addr blob i = .ok (words, j)) :
    j = i + 4 * n ∧ (0 < n → j ≤ blob.length) := by
  induction n generalizing addr i words with
  | zero =>
      cases h
      exact ⟨rfl, fun h => absurd h (lt_irrefl 0)⟩
  | succ n ih =>
      obtain ⟨word, k, hword, h⟩ := Decoder.bind_inv h
      obtain ⟨u, k', hstore, h⟩ := Decoder.bind_inv h
      obtain ⟨rest, k'', hrest, h⟩ := Decoder.bind_inv h
      cases h
      rw [popU32_run] at hword
      split at hword
      · next hin =>
        cases hword
        rw [Region.store] at hstore
        split at hstore
        · cases hstore
          obtain ⟨hj, hlen⟩ := ih hrest
          refine ⟨by omega, fun _ => ?_⟩
          rcases Nat.eq_zero_or_pos n with rfl | hn
          · omega
          · exact hlen hn
        · cases hstore
      · cases hword

/-- The words of a task are all read where they are there and have room. -/
lemma popTaskWords_run {n addr : ℕ} (hin : i + 4 * n ≤ blob.length)
    (hroom : r.Has addr (4 * n)) :
    ∃ words, popTaskWords host r n addr blob i = .ok (words, i + 4 * n) := by
  induction n generalizing addr i with
  | zero => exact ⟨[], rfl⟩
  | succ n ih =>
      have hword : popU32 host blob i = _ := popU32_run host
      rw [if_pos (by omega)] at hword
      have hstore : r.store addr 4 blob (i + 4) = .ok ((), i + 4) :=
        if_pos ⟨hroom.1, by have := hroom.2; omega⟩
      have hrest : r.Has (addr + 4) (4 * n) :=
        ⟨by have := hroom.1; omega, by have := hroom.2; omega⟩
      obtain ⟨words, hwords⟩ := ih (i := i + 4) (by omega) hrest
      refine ⟨wordAt host blob i :: words, ?_⟩
      rw [popTaskWords, Decoder.bind_ok hword, Decoder.bind_ok hstore, Decoder.bind_ok hwords]
      show Except.ok (_, _) = _
      rw [show i + 4 + 4 * n = i + 4 * (n + 1) by omega]

/-- The tasks are safe exactly when those that are there have room. -/
lemma safe_tasks_iff {n addr : ℕ} :
    SafeFrom blob i (popTasks host r n addr) ↔ TasksFit host r blob n addr i := by
  induction n generalizing addr i with
  | zero => exact iff_of_true (SafeFrom.pure []) trivial
  | succ n ih =>
      have hfwd : ∀ v : ULWord, Forward (do
          let words ← popTaskWords host r (taskWords v) (addr + 4)
          let tasks ← popTasks host r n (addr + taskBytes)
          return (v, words) :: tasks) := fun v =>
        (forward_taskWords host r _ _).bind fun _ =>
          (forward_tasks host r n _).bind fun _ => Forward.pure _
      rw [popTasks, safe_after_u32 host fun v => (forward_store r _ _).bind fun _ => hfwd v,
        TasksFit]
      refine imp_congr_right fun hin => ?_
      rw [safe_after_store r fun _ => hfwd _]
      generalize wordAt host blob i = taskType
      constructor
      · rintro ⟨hfirst, hsafe⟩
        have hwords := hsafe.of_bind (forward_taskWords host r _ _)
        have hroom := (safe_taskWords_iff host r (by have := hfirst.1; omega) hfirst.2).1 hwords
        refine ⟨⟨hfirst.1, by have := hroom.2; omega⟩, fun hmore => ?_⟩
        have hcount : min (taskWords taskType) ((blob.length - (i + 4)) / 4) =
            taskWords taskType := by omega
        rw [hcount] at hroom
        obtain ⟨words, hrun⟩ := popTaskWords_run host r hmore hroom
        rw [SafeFrom.bind_iff (forward_taskWords host r _ _) hrun
          ((forward_tasks host r n _).bind fun _ => Forward.pure _), SafeFrom.map_iff] at hsafe
        exact ih.1 hsafe
      · rintro ⟨hall, hmore⟩
        have hfirst : r.Has addr 4 := ⟨hall.1, by have := hall.2; omega⟩
        have hwords : SafeFrom blob (i + 4)
            (popTaskWords host r (taskWords taskType) (addr + 4)) :=
          (safe_taskWords_iff host r (by have := hall.1; omega) hfirst.2).2
            ⟨by have := hall.1; omega, by have := hall.2; omega⟩
        refine ⟨hfirst, hwords.bind fun words j hrun => ?_⟩
        obtain ⟨rfl, hlen⟩ := popTaskWords_index host r hrun
        have hread : i + 4 + 4 * taskWords taskType ≤ blob.length := by
          rcases Nat.eq_zero_or_pos (taskWords taskType) with h0 | hpos
          · omega
          · exact hlen hpos
        exact (SafeFrom.map_iff _).2 (ih.2 (hmore hread))

/-- The task structure is decoded safely exactly when its tasks have room where the pointer on
the wire points. -/
lemma safe_taskStruct_iff :
    SafeFrom blob i (AutoCirculateTaskStruct.rpcDecode host r) ↔
      (i + 24 ≤ blob.length → word64At host blob (i + 16) ≠ 0 → wordAt host blob (i + 8) ≠ 0 →
        TasksFit host r blob (wordAt host blob (i + 8)).toNat
          (word64At host blob (i + 16)).toNat (i + 24)) := by
  have hend : ∀ a b c d : ULWord, ∀ e : ULWord64, Forward (do
      let tasks ← popTaskArray host r c e
      return (true, (⟨a, b, c, d, e⟩ : AutoCirculateTaskStruct), tasks)) :=
    fun a b c d e => (forward_taskArray host r c e).bind fun _ => Forward.pure _
  have hfour : ∀ a b c d : ULWord, Forward (do
      let e ← popU64 host
      let tasks ← popTaskArray host r c e
      return (true, (⟨a, b, c, d, e⟩ : AutoCirculateTaskStruct), tasks)) :=
    fun a b c d => (forward_word host).bind fun e => hend a b c d e
  rw [AutoCirculateTaskStruct.rpcDecode,
    safe_after_u32 host fun a => (forward_u32 host).bind fun b => (forward_u32 host).bind fun c =>
      (forward_u32 host).bind fun d => hfour a b c d,
    safe_after_u32 host fun b => (forward_u32 host).bind fun c =>
      (forward_u32 host).bind fun d => hfour _ b c d,
    safe_after_u32 host fun c => (forward_u32 host).bind fun d => hfour _ _ c d,
    safe_after_u32 host fun d => hfour _ _ _ d,
    safe_after_u64 host fun e => hend _ _ _ _ e]
  simp only [SafeFrom.map_iff, Nat.add_assoc, Nat.reduceAdd]
  constructor
  · intro h hin harray hnum
    have hsafe := h (by omega) (by omega) (by omega) (by omega) hin
    rw [popTaskArray, if_pos ⟨harray, hnum⟩] at hsafe
    exact (safe_tasks_iff host r).1 hsafe
  · intro h _ _ _ _ hin
    rw [popTaskArray]
    split
    · next hsome => exact (safe_tasks_iff host r).2 (h hin hsome.1 hsome.2)
    · exact SafeFrom.pure []

/-- A buffer is decoded safely into the memory it has exactly when the bytes are missing or
there is room for them. -/
lemma safe_noAllocate_iff (dst : NTV2Buffer) :
    SafeFrom blob i (dst.rpcDecodeNoAllocate host) ↔
      (i + 8 + (wordAt host blob i).toNat ≤ blob.length →
        (wordAt host blob i).toNat ≤ dst.bytes.length) := by
  rw [NTV2Buffer.rpcDecodeNoAllocate,
    safe_after_u32 host fun n => (forward_u32 host).bind fun _ => forward_fill dst n,
    safe_after_u32 host fun _ => forward_fill dst _, safe_fill_iff]
  simp only [Nat.add_assoc, Nat.reduceAdd]
  exact ⟨fun h hin => h (by omega) (by omega) hin, fun h _ _ hin => h hin⟩

end Room

/-! ### All decoders -/

/-- The decoders, with the object each is called on. -/
inductive RpcDecodeCall where
  | buffer (dst : NTV2Buffer) (fillBuffer : Bool)
  | bufferNoAllocate (dst : NTV2Buffer)
  | transfer (dst : AutoCirculateTransferMsg)
  | setRegisters (dst : NTV2SetRegisters)
  | getRegistersServer (dst : NTV2GetRegisters)
  | getRegistersClient (dst : NTV2GetRegisters)
  | transferStruct (dst : AutoCirculateTransferStruct)
  /-- The caller has the memory `r` for the tasks. -/
  | taskStruct (r : Region)

/-- What the decoder returns. -/
def RpcDecodeCall.run (host : Host) (heap : Heap) : RpcDecodeCall → Decoder Bool
  | .buffer dst fillBuffer => do return (← dst.rpcDecode host heap fillBuffer).1
  | .bufferNoAllocate dst => do return (← dst.rpcDecodeNoAllocate host).1
  | .transfer dst => do return (← dst.rpcDecode host heap).1
  | .setRegisters dst => do return (← dst.rpcDecode host heap).1
  | .getRegistersServer dst => do return (← dst.rpcDecodeServer host heap).1
  | .getRegistersClient dst => do return (← dst.rpcDecodeClient host heap).1
  | .transferStruct dst => do return (← dst.rpcDecode host heap).1
  | .taskStruct r => do return (← AutoCirculateTaskStruct.rpcDecode host r).1

/-- There is room for what two of the decoders store unchecked: for the bytes that a buffer
which is not allocated receives, if they are there, and for the tasks, where the pointer on
the wire points. -/
def RpcDecodeCall.RoomFor (host : Host) (blob : List Byte) (i : ℕ) : RpcDecodeCall → Prop
  | .bufferNoAllocate dst =>
      i + 8 + (wordAt host blob i).toNat ≤ blob.length →
        (wordAt host blob i).toNat ≤ dst.bytes.length
  | .taskStruct r =>
      i + 24 ≤ blob.length → word64At host blob (i + 16) ≠ 0 → wordAt host blob (i + 8) ≠ 0 →
        TasksFit host r blob (wordAt host blob (i + 8)).toNat
          (word64At host blob (i + 16)).toNat (i + 24)
  | _ => True

/-- **On any bytes and from any index, the decoders access no memory that is not theirs
exactly when there is room for what `RPCDecodeNoAllocate` copies and for the tasks of
`AUTOCIRCULATE_TASK_STRUCT`**: neither compares with the memory it writes to. -/
theorem rpcDecode_safe_iff (host : Host) (heap : Heap) (c : RpcDecodeCall) (blob : List Byte)
    (i : ℕ) : SafeFrom blob i (c.run host heap) ↔ c.RoomFor host blob i := by
  cases c with
  | buffer dst fillBuffer =>
      rw [RpcDecodeCall.run, SafeFrom.map_iff]
      exact iff_of_true (safe_buffer host dst fillBuffer) trivial
  | bufferNoAllocate dst =>
      rw [RpcDecodeCall.run, SafeFrom.map_iff]
      exact safe_noAllocate_iff host dst
  | transfer dst =>
      rw [RpcDecodeCall.run, SafeFrom.map_iff]
      exact iff_of_true (safe_transfer host dst) trivial
  | setRegisters dst =>
      rw [RpcDecodeCall.run, SafeFrom.map_iff]
      exact iff_of_true (safe_setRegisters host dst) trivial
  | getRegistersServer dst =>
      rw [RpcDecodeCall.run, SafeFrom.map_iff]
      exact iff_of_true (safe_getRegistersServer host dst) trivial
  | getRegistersClient dst =>
      rw [RpcDecodeCall.run, SafeFrom.map_iff]
      exact iff_of_true (safe_getRegistersClient host dst) trivial
  | transferStruct dst =>
      rw [RpcDecodeCall.run, SafeFrom.map_iff]
      exact iff_of_true (safe_transferStruct host dst) trivial
  | taskStruct r =>
      rw [RpcDecodeCall.run, SafeFrom.map_iff]
      exact safe_taskStruct_iff host r

/-- Eight bytes copied into a buffer of four, and a task stored where the peer says. -/
theorem rpcDecode_overruns :
    (RpcDecodeCall.bufferNoAllocate ⟨[0, 0, 0, 0], 0, by decide⟩).run ⟨false⟩ (fun _ => true)
        [0, 0, 0, 8, 0, 0, 0, 0, 1, 2, 3, 4, 5, 6, 7, 8] 0 = .error .overrun ∧
      (RpcDecodeCall.taskStruct ⟨4096, 220⟩).run ⟨false⟩ (fun _ => true)
        [0, 0, 0, 0, 0, 0, 0, 0, 0, 0, 0, 1, 0, 0, 0, 1, 0, 0, 0, 0, 0xDE, 0xAD, 0, 0, 0, 0, 0, 0]
        0 = .error .overrun ∧
      ¬ ∀ (c : RpcDecodeCall) (blob : List Byte) (i : ℕ),
        SafeFrom blob i (c.run ⟨false⟩ fun _ => true) := by
  have hcopy : (RpcDecodeCall.bufferNoAllocate ⟨[0, 0, 0, 0], 0, by decide⟩).run ⟨false⟩
      (fun _ => true) [0, 0, 0, 8, 0, 0, 0, 0, 1, 2, 3, 4, 5, 6, 7, 8] 0 = .error .overrun := by
    decide +kernel
  refine ⟨hcopy, by decide +kernel, fun h => ?_⟩
  have hsafe := h (.bufferNoAllocate ⟨[0, 0, 0, 0], 0, by decide⟩)
    [0, 0, 0, 8, 0, 0, 0, 0, 1, 2, 3, 4, 5, 6, 7, 8] 0
  rw [SafeFrom, hcopy] at hsafe
  exact hsafe rfl

end LibAjaNtv2
