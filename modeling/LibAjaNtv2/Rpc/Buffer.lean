import LibAjaNtv2.Rpc.Nub

/-!
What every RPC message is made of: headers, trailers and buffers
(`ntv2publicinterface.cpp`).

* `NTV2Header`, `NTV2Trailer`: the two ends of a message and their codecs;
* `NTV2Buffer`: a block of memory with its flags, `NTV2Buffer.allocate`;
* `NTV2Buffer.rpcEncode`, `NTV2Buffer.rpcDecode`, `NTV2Buffer.rpcDecodeNoAllocate`;
* `carries_header`, `carries_trailer`, `carries_buffer`: **each is read back**, but for
  the size in the header, which stays the receiver's;
* `NTV2Buffer.byteSwap16`, `NTV2Buffer.byteSwap32`: the words of a buffer, turned around in
  place; `byteSwap32_bytes`: **twice is not at all**.
-/

namespace LibAjaNtv2

/-! ### Headers and trailers -/

/-- `NTV2_HEADER`. -/
structure NTV2Header where
  fHeaderTag : ULWord
  fType : ULWord
  fHeaderVersion : ULWord
  fVersion : ULWord
  fSizeInBytes : ULWord
  fPointerSize : ULWord
  fOperation : ULWord
  fResultStatus : ULWord
  deriving DecidableEq, Repr

/-- A header with nothing in it. -/
def NTV2Header.zero : NTV2Header := ⟨0, 0, 0, 0, 0, 0, 0, 0⟩

/-- `NTV2_HEADER::RPCEncode`. -/
def NTV2Header.rpcEncode (host : Host) (self : NTV2Header) : Encoder Bool := do
  pushU32 host self.fHeaderTag
  pushU32 host self.fType
  pushU32 host self.fHeaderVersion
  pushU32 host self.fVersion
  pushU32 host self.fSizeInBytes
  pushU32 host self.fPointerSize
  pushU32 host self.fOperation
  pushU32 host self.fResultStatus
  return true

/-- `NTV2_HEADER::RPCDecode`. -/
def NTV2Header.rpcDecode (host : Host) (self : NTV2Header) : Decoder (Bool × NTV2Header) := do
  let fHeaderTag ← popU32 host
  let fType ← popU32 host
  let fHeaderVersion ← popU32 host
  let fVersion ← popU32 host
  -- the native size stays: the one on the wire is read and dropped
  let _ ← popU32 host
  let fPointerSize ← popU32 host
  let fOperation ← popU32 host
  let fResultStatus ← popU32 host
  return (true, { self with
    fHeaderTag := fHeaderTag
    fType := fType
    fHeaderVersion := fHeaderVersion
    fVersion := fVersion
    fPointerSize := fPointerSize
    fOperation := fOperation
    fResultStatus := fResultStatus })

/-- The header `src` as it arrives in place of `dst`. -/
def NTV2Header.received (dst src : NTV2Header) : NTV2Header :=
  { src with fSizeInBytes := dst.fSizeInBytes }

/-- `NTV2_TRAILER`. -/
structure NTV2Trailer where
  fTrailerVersion : ULWord
  fTrailerTag : ULWord
  deriving DecidableEq, Repr

/-- A trailer with nothing in it. -/
def NTV2Trailer.zero : NTV2Trailer := ⟨0, 0⟩

/-- `NTV2_TRAILER::RPCEncode`. -/
def NTV2Trailer.rpcEncode (host : Host) (self : NTV2Trailer) : Encoder Bool := do
  pushU32 host self.fTrailerVersion
  pushU32 host self.fTrailerTag
  return true

/-- `NTV2_TRAILER::RPCDecode`. -/
def NTV2Trailer.rpcDecode (host : Host) : Decoder (Bool × NTV2Trailer) := do
  let fTrailerVersion ← popU32 host
  let fTrailerTag ← popU32 host
  return (true, ⟨fTrailerVersion, fTrailerTag⟩)

section Ends

variable {blob : List Byte} {i : ℕ} (host : Host)

/-- A header is read back. -/
lemma carries_header (dst src : NTV2Header) :
    Carries (src.rpcEncode host) true (dst.rpcDecode host) (true, dst.received src) := by
  rw [NTV2Header.rpcEncode, NTV2Header.rpcDecode]
  iterate 8 refine (carries_u32 host _).bind ?_
  exact Carries.pure true _

/-- A trailer is read back. -/
lemma carries_trailer (src : NTV2Trailer) :
    Carries (src.rpcEncode host) true (NTV2Trailer.rpcDecode host) (true, src) := by
  rw [NTV2Trailer.rpcEncode, NTV2Trailer.rpcDecode]
  iterate 2 refine (carries_u32 host _).bind ?_
  exact Carries.pure true _

lemma safe_header (dst : NTV2Header) : SafeFrom blob i (dst.rpcDecode host) := by
  rw [NTV2Header.rpcDecode]
  iterate 8 refine (safe_u32 host).bind fun _ _ _ => ?_
  exact SafeFrom.pure _

lemma safe_trailer : SafeFrom blob i (NTV2Trailer.rpcDecode host) := by
  rw [NTV2Trailer.rpcDecode]
  iterate 2 refine (safe_u32 host).bind fun _ _ _ => ?_
  exact SafeFrom.pure _

end Ends

/-! ### Buffers -/

/-- `NTV2Buffer`: the bytes behind `fUserSpacePtr`, which is null when there are none. -/
structure NTV2Buffer where
  bytes : List Byte
  fFlags : ULWord
  size_lt : bytes.length < 2 ^ 32
  deriving DecidableEq

/-- No memory at all. -/
def NTV2Buffer.null : NTV2Buffer := ⟨[], 0, by decide⟩

/-- Which amounts of memory can be had. -/
abbrev Heap := ℕ → Bool

namespace NTV2Buffer

/-- `fByteCount`. -/
def fByteCount (self : NTV2Buffer) : ULWord := BitVec.ofNat 32 self.bytes.length

/-- `IsNULL`. -/
def isNULL (self : NTV2Buffer) : Bool := self.bytes.isEmpty

/-- `NTV2Buffer_ALLOCATED` is set. -/
def isAllocatedBySDK (self : NTV2Buffer) : Bool := self.fFlags.getLsbD 0

/-- `NTV2Buffer_PAGE_ALIGNED` is set. -/
def isPageAligned (self : NTV2Buffer) : Bool := self.fFlags.getLsbD 1

/-- `Set (AJA_NULL, 0)`. -/
def setNull (self : NTV2Buffer) : NTV2Buffer where
  bytes := []
  fFlags :=
    if self.isAllocatedBySDK then
      (if !self.isNULL && self.isPageAligned then self.fFlags &&& ~~~2#32 else self.fFlags) &&&
        ~~~1#32
    else self.fFlags
  size_lt := by decide

/-- A block of zeros. -/
def zeros (inByteCount fFlags : ULWord) : NTV2Buffer where
  bytes := List.replicate inByteCount.toNat 0
  fFlags := fFlags
  size_lt := by
    rw [List.length_replicate]
    exact inByteCount.isLt

/-- `Allocate`. -/
def allocate (heap : Heap) (self : NTV2Buffer) (inByteCount : ULWord) (inPageAligned : Bool) :
    Bool × NTV2Buffer :=
  if !self.isNULL && self.isAllocatedBySDK && inByteCount = self.fByteCount then
    (true, zeros inByteCount self.fFlags)
  else if inByteCount = 0 then (true, self.setNull)
  else if heap inByteCount.toNat then
    (true, zeros inByteCount
      (self.setNull.fFlags ||| 1#32 ||| if inPageAligned then 2#32 else 0#32))
  else (false, self.setNull)

/-- `memcpy (GetHostPointer(), .., ..)`: the memory stays as large as it is. -/
def overwrite (self : NTV2Buffer) (bs : List Byte) : NTV2Buffer where
  bytes := (bs ++ self.bytes.drop bs.length).take self.bytes.length
  fFlags := self.fFlags
  size_lt := lt_of_le_of_lt (List.length_take_le _ _) self.size_lt

/-- `NTV2Buffer::RPCEncode`. -/
def rpcEncode (host : Host) (self : NTV2Buffer) (fillBuffer : Bool) : Encoder Bool := do
  pushU32 host self.fByteCount
  pushU32 host self.fFlags
  if !self.isNULL && fillBuffer then Encoder.append self.bytes
  return true

/-- The bytes of `NTV2Buffer::RPCDecode`, once there is memory for them. -/
def rpcFill (self : NTV2Buffer) (byteCount : ULWord) : Decoder (Bool × NTV2Buffer) := do
  let inside ← Decoder.fits byteCount.toNat
  if inside then
    let bs ← Decoder.copy self.bytes.length byteCount.toNat
    return (true, self.overwrite bs)
  else return (false, self)

/-- `NTV2Buffer::RPCDecode`. -/
def rpcDecode (host : Host) (heap : Heap) (self : NTV2Buffer) (fillBuffer : Bool) :
    Decoder (Bool × NTV2Buffer) := do
  let byteCount ← popU32 host
  let flags ← popU32 host
  let r := self.allocate heap byteCount (flags.getLsbD 1)
  if r.1 then
    if fillBuffer then r.2.rpcFill byteCount else return (true, r.2)
  else return (false, r.2)

/-- `NTV2Buffer::RPCDecodeNoAllocate`. -/
def rpcDecodeNoAllocate (host : Host) (self : NTV2Buffer) : Decoder (Bool × NTV2Buffer) := do
  let byteCount ← popU32 host
  let _ ← popU32 host
  self.rpcFill byteCount

/-- The buffer `src` as it arrives in place of `dst`: the bytes of the one in memory of the
other. -/
def received (dst src : NTV2Buffer) : NTV2Buffer where
  bytes := src.bytes
  fFlags := (dst.allocate (fun _ => true) src.fByteCount src.isPageAligned).2.fFlags
  size_lt := src.size_lt

/-- The buffer `src` as it arrives in place of `dst` when only its size is sent. -/
def receivedSize (dst src : NTV2Buffer) : NTV2Buffer :=
  zeros src.fByteCount (dst.received src).fFlags

end NTV2Buffer

section Buffers

variable {blob : List Byte} {i : ℕ} (host : Host) {heap : Heap}

lemma fByteCount_toNat (b : NTV2Buffer) : b.fByteCount.toNat = b.bytes.length := by
  rw [NTV2Buffer.fByteCount, BitVec.toNat_ofNat, Nat.mod_eq_of_lt b.size_lt]

/-- A buffer that is allocated has the size asked for. -/
lemma allocate_length {b : NTV2Buffer} {n : ULWord} {aligned : Bool}
    (h : (b.allocate heap n aligned).1 = true) :
    (b.allocate heap n aligned).2.bytes = List.replicate n.toNat 0 := by
  rw [NTV2Buffer.allocate] at h ⊢
  split
  · rfl
  · next hsame =>
    split
    · next hzero => simp [hzero, NTV2Buffer.setNull]
    · next hzero =>
      split
      · rfl
      · next hheap =>
        rw [if_neg hsame, if_neg hzero, if_neg hheap] at h
        cases h

/-- Where the memory can be had, it does not matter what else can. -/
lemma allocate_of_heap {b : NTV2Buffer} {n : ULWord} {aligned : Bool}
    (h : heap n.toNat = true) :
    b.allocate heap n aligned = b.allocate (fun _ => true) n aligned := by
  rw [NTV2Buffer.allocate, NTV2Buffer.allocate, h]

/-- With enough memory an allocation succeeds. -/
lemma allocate_true (b : NTV2Buffer) (n : ULWord) (aligned : Bool) :
    (b.allocate (fun _ => true) n aligned).1 = true := by
  rw [NTV2Buffer.allocate]
  split
  · rfl
  · split
    · rfl
    · rfl

/-- What is overwritten from end to end is what is written. -/
lemma overwrite_bytes {b : NTV2Buffer} {bs : List Byte} (h : bs.length = b.bytes.length) :
    (b.overwrite bs).bytes = bs := by
  show (bs ++ b.bytes.drop bs.length).take b.bytes.length = bs
  rw [h, List.drop_length, List.append_nil, ← h, List.take_length]

/-- Two buffers are one when their bytes and flags are. -/
lemma NTV2Buffer.eq_of {a b : NTV2Buffer} (hbytes : a.bytes = b.bytes)
    (hflags : a.fFlags = b.fFlags) : a = b := by
  cases a
  cases b
  cases hbytes
  cases hflags
  rfl

/-- The bytes of a buffer are read into memory of their size. -/
lemma carries_fill (src dst : NTV2Buffer) (h : dst.bytes.length = src.bytes.length) :
    Carries (do
      if !src.isNULL && true then Encoder.append src.bytes
      return true) true (dst.rpcFill src.fByteCount)
      (true, dst.overwrite src.bytes) := by
  refine ⟨src.bytes, fun out => ?_, fun before after => ?_⟩
  · cases hnull : src.isNULL with
    | false => rfl
    | true =>
        have hnil : src.bytes = [] := List.isEmpty_iff.1 hnull
        rw [hnil, List.append_nil]
        rfl
  · have hfits : Decoder.fits src.fByteCount.toNat (before ++ src.bytes ++ after) before.length =
        .ok (true, before.length) := by
      rw [Decoder.fits, fByteCount_toNat]
      simp
    have hcopy : Decoder.copy dst.bytes.length src.fByteCount.toNat
        (before ++ src.bytes ++ after) before.length =
          .ok (src.bytes, before.length + src.bytes.length) := by
      rw [Decoder.copy, fByteCount_toNat, h, if_pos (by simp)]
      simp
    rw [NTV2Buffer.rpcFill, Decoder.bind_ok hfits]
    simp only [if_true]
    rw [Decoder.bind_ok hcopy]
    rfl

/-- A buffer is read back into memory that was allocated for it. -/
lemma carries_bufferOf (dst src : NTV2Buffer)
    (h : (dst.allocate heap src.fByteCount src.isPageAligned).1 = true) :
    Carries (src.rpcEncode host true) true (dst.rpcDecode host heap true)
      (true, (dst.allocate heap src.fByteCount src.isPageAligned).2.overwrite src.bytes) := by
  have hlen : (dst.allocate heap src.fByteCount src.isPageAligned).2.bytes.length =
      src.bytes.length := by
    rw [allocate_length h, List.length_replicate, fByteCount_toNat]
  rw [NTV2Buffer.rpcEncode, NTV2Buffer.rpcDecode]
  refine (carries_u32 host _).bind ((carries_u32 host _).bind ?_)
  show Carries _ true (if (dst.allocate heap src.fByteCount src.isPageAligned).1 then
    if true then _ else _ else _) _
  rw [h]
  exact carries_fill src _ hlen

/-- **A buffer is read back**, as long as there is memory for it. -/
lemma carries_buffer (dst src : NTV2Buffer) (h : heap src.bytes.length = true) :
    Carries (src.rpcEncode host true) true (dst.rpcDecode host heap true)
      (true, dst.received src) := by
  have hheap : heap src.fByteCount.toNat = true := by rwa [fByteCount_toNat]
  have hok := allocate_true dst src.fByteCount src.isPageAligned
  have hlen : (dst.allocate (fun _ => true) src.fByteCount src.isPageAligned).2.bytes.length =
      src.bytes.length := by
    rw [allocate_length hok, List.length_replicate, fByteCount_toNat]
  have hgot : (dst.allocate (fun _ => true) src.fByteCount src.isPageAligned).2.overwrite
      src.bytes = dst.received src :=
    NTV2Buffer.eq_of (overwrite_bytes hlen.symm) rfl
  have hread := @carries_bufferOf host heap dst src
  rw [allocate_of_heap hheap, hgot] at hread
  exact hread hok

/-- **The size of a buffer is read back**, as long as there is memory for it. -/
lemma carries_bufferSize (dst src : NTV2Buffer) (h : heap src.bytes.length = true) :
    Carries (src.rpcEncode host false) true (dst.rpcDecode host heap false)
      (true, dst.receivedSize src) := by
  have hheap : heap src.fByteCount.toNat = true := by rwa [fByteCount_toNat]
  have hok := allocate_true dst src.fByteCount src.isPageAligned
  have hgot : (dst.allocate (fun _ => true) src.fByteCount src.isPageAligned).2 =
      dst.receivedSize src := NTV2Buffer.eq_of (allocate_length hok) rfl
  rw [NTV2Buffer.rpcEncode, NTV2Buffer.rpcDecode, ← hgot]
  refine (carries_u32 host _).bind ((carries_u32 host _).bind ?_)
  rw [allocate_of_heap hheap]
  show Carries _ true (if (dst.allocate (fun _ => true) src.fByteCount src.isPageAligned).1 then
    if false then _ else _ else _) _
  rw [hok]
  cases src.isNULL <;> exact Carries.pure true _

/-- Reading the bytes of a buffer is safe exactly when they are missing or there is room for
them. -/
lemma safe_fill_iff (dst : NTV2Buffer) (n : ULWord) :
    SafeFrom blob i (dst.rpcFill n) ↔
      (i + n.toNat ≤ blob.length → n.toNat ≤ dst.bytes.length) := by
  have hfits : Decoder.fits n.toNat blob i = .ok (decide (i + n.toNat ≤ blob.length), i) := rfl
  rw [SafeFrom, NTV2Buffer.rpcFill, Decoder.bind_ok hfits]
  by_cases hin : i + n.toNat ≤ blob.length
  · simp only [hin, decide_true, if_true, forall_const]
    by_cases hroom : n.toNat ≤ dst.bytes.length
    · have hcopy : Decoder.copy dst.bytes.length n.toNat blob i =
          .ok ((blob.drop i).take n.toNat, i + n.toNat) := by
        rw [Decoder.copy, if_pos ⟨hin, hroom⟩]
      rw [Decoder.bind_ok hcopy]
      exact iff_of_true ⟨Nat.le_add_right i _, fun _ => hin⟩ hroom
    · have hcopy : Decoder.copy dst.bytes.length n.toNat blob i = .error .overrun := by
        rw [Decoder.copy, if_neg fun h => hroom h.2]
      rw [Decoder.bind_error hcopy]
      exact iff_of_false (fun h => h rfl) hroom
  · simp only [hin, decide_false]
    exact iff_of_true ⟨le_rfl, fun h => absurd h (lt_irrefl _)⟩ fun h => h.elim

/-- **Reading a buffer is safe**: the memory is as large as the size on the wire. -/
lemma safe_buffer (dst : NTV2Buffer) (fillBuffer : Bool) :
    SafeFrom blob i (dst.rpcDecode host heap fillBuffer) := by
  rw [NTV2Buffer.rpcDecode]
  refine (safe_u32 host).bind fun n _ _ => (safe_u32 host).bind fun flags _ _ => ?_
  dsimp only
  split
  · next hok =>
    split
    · refine (safe_fill_iff _ _).2 fun _ => ?_
      rw [allocate_length hok, List.length_replicate]
    · exact SafeFrom.pure _
  · exact SafeFrom.pure _

end Buffers

/-! ### The words of a buffer -/

/-- `k` chunks of `n` bytes, each changed by `f`; what is left at the end stays. -/
def eachChunk (n : ℕ) (f : List Byte → List Byte) : ℕ → List Byte → List Byte
  | 0, bs => bs
  | k + 1, bs => f (bs.take n) ++ eachChunk n f k (bs.drop n)

/-- `NTV2EndianSwap16` on the two bytes of a word in memory. -/
def swapChunk16 (host : Host) (bs : List Byte) : List Byte :=
  host.memory 2 (ntv2EndianSwap16 (host.word 16 bs))

/-- `NTV2EndianSwap32` on the four bytes of a word in memory. -/
def swapChunk32 (host : Host) (bs : List Byte) : List Byte :=
  host.memory 4 (ntv2EndianSwap32 (host.word 32 bs))

/-- The bytes of a word that is turned around in memory are turned around. -/
lemma memory_swap_word {w n : ℕ} {swap : BitVec w → BitVec w} (host : Host) (hw : w = 8 * n)
    (hswap : ∀ v, leBytes n (swap v) = (leBytes n v).reverse) {bs : List Byte}
    (h : bs.length = n) : host.memory n (swap (host.word w bs)) = bs.reverse := by
  have hback : ∀ cs : List Byte, cs.length = n → leBytes n (leWord w cs) = cs := by
    intro cs hcs
    have := leBytes_leWord (w := w) cs (by omega)
    rwa [hcs] at this
  rw [Host.memory, Host.word, hswap]
  split
  · rw [List.reverse_reverse, hback _ (by simpa using h)]
  · rw [hback _ h]

lemma swapChunk16_eq (host : Host) {bs : List Byte} (h : bs.length = 2) :
    swapChunk16 host bs = bs.reverse := memory_swap_word host rfl leBytes_swap16 h

lemma swapChunk32_eq (host : Host) {bs : List Byte} (h : bs.length = 4) :
    swapChunk32 host bs = bs.reverse := memory_swap_word host rfl leBytes_swap32 h

/-- Chunks changed within their size change no size. -/
lemma length_eachChunk {n : ℕ} {f : List Byte → List Byte}
    (hf : ∀ bs, bs.length = n → (f bs).length = n) {k : ℕ} {bs : List Byte}
    (h : n * k ≤ bs.length) : (eachChunk n f k bs).length = bs.length := by
  induction k generalizing bs with
  | zero => rfl
  | succ k ih =>
      rw [Nat.mul_succ] at h
      rw [eachChunk, List.length_append, hf _ (by rw [List.length_take]; omega),
        ih (by rw [List.length_drop]; omega), List.length_drop]
      omega

/-- Chunks changed twice. -/
lemma eachChunk_eachChunk {n : ℕ} {f : List Byte → List Byte}
    (hf : ∀ bs, bs.length = n → (f bs).length = n) (hff : ∀ bs, bs.length = n → f (f bs) = bs)
    {k : ℕ} {bs : List Byte} (h : n * k ≤ bs.length) :
    eachChunk n f k (eachChunk n f k bs) = bs := by
  induction k generalizing bs with
  | zero => rfl
  | succ k ih =>
      rw [Nat.mul_succ] at h
      have htake : (bs.take n).length = n := by
        rw [List.length_take]
        omega
      have hdrop : n * k ≤ (bs.drop n).length := by
        rw [List.length_drop]
        omega
      have hrest := ih hdrop
      rw [eachChunk, eachChunk, List.take_left' (hf _ htake), List.drop_left' (hf _ htake), hrest,
        hff _ htake, List.take_append_drop]

namespace NTV2Buffer

/-- `ByteSwap16`. -/
def byteSwap16 (host : Host) (self : NTV2Buffer) : NTV2Buffer where
  bytes := eachChunk 2 (swapChunk16 host) (self.bytes.length / 2) self.bytes
  fFlags := self.fFlags
  size_lt := by
    rw [length_eachChunk (fun bs h => by simp [swapChunk16]) (by omega)]
    exact self.size_lt

/-- `ByteSwap32`. -/
def byteSwap32 (host : Host) (self : NTV2Buffer) : NTV2Buffer where
  bytes := eachChunk 4 (swapChunk32 host) (self.bytes.length / 4) self.bytes
  fFlags := self.fFlags
  size_lt := by
    rw [length_eachChunk (fun bs h => by simp [swapChunk32]) (by omega)]
    exact self.size_lt

end NTV2Buffer

lemma length_byteSwap32 (host : Host) (b : NTV2Buffer) :
    (b.byteSwap32 host).bytes.length = b.bytes.length :=
  length_eachChunk (fun bs _ => by simp [swapChunk32]) (by omega)

/-- Words turned around twice are as before. -/
lemma byteSwap32_bytes (host : Host) {a b : NTV2Buffer} (h : a.bytes = (b.byteSwap32 host).bytes) :
    (a.byteSwap32 host).bytes = b.bytes := by
  show eachChunk 4 (swapChunk32 host) (a.bytes.length / 4) a.bytes = b.bytes
  rw [h, length_byteSwap32]
  refine eachChunk_eachChunk (fun bs _ => by simp [swapChunk32]) (fun bs hbs => ?_) (by omega)
  rw [swapChunk32_eq host hbs, swapChunk32_eq host (by simpa using hbs), List.reverse_reverse]

end LibAjaNtv2
