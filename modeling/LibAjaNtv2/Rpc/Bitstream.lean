import LibAjaNtv2.Rpc.Registers

/-!
The bitstream message, `NTV2Bitstream` (`ntv2publicinterface.cpp`).

* `NTV2Bitstream`, `NTV2Bitstream.rpcEncode`, `NTV2Bitstream.rpcDecode`;
* `shortMessage`: the message that the decoder takes the bytes for: half the reserved words,
  and two of the others for a trailer;
* `bitstream_encode_short`: the decoder leaves the last 64 bytes behind;
* `bitstream_never_survives`: **no message arrives as it was sent**.
-/

namespace LibAjaNtv2

/-- `NTV2Bitstream`. -/
structure NTV2Bitstream where
  mHeader : NTV2Header
  mBuffer : NTV2Buffer
  mFlags : ULWord
  mStatus : ULWord
  mRegisters : Vector ULWord 16
  mReserved : Vector ULWord 32
  mTrailer : NTV2Trailer

/-- An array after a loop has stored the words of the list in its first places. -/
def storeWords {n : ℕ} (words : List ULWord) (array : Vector ULWord n) : Vector ULWord n :=
  Vector.ofFn fun i => words.getD i array[i]

namespace NTV2Bitstream

/-- `NTV2Bitstream::RPCEncode`. -/
def rpcEncode (host : Host) (self : NTV2Bitstream) : Encoder Bool := do
  let ok₁ ← self.mHeader.rpcEncode host
  let ok₂ ← self.mBuffer.rpcEncode host true
  pushU32 host self.mFlags
  pushU32 host self.mStatus
  Encoder.each (pushU32 host) self.mRegisters.toList
  Encoder.each (pushU32 host) self.mReserved.toList
  let ok₃ ← self.mTrailer.rpcEncode host
  return ok₁ && ok₂ && ok₃

/-- `NTV2Bitstream::RPCDecode`. -/
def rpcDecode (host : Host) (heap : Heap) (self : NTV2Bitstream) :
    Decoder (Bool × NTV2Bitstream) := do
  let mHeader ← self.mHeader.rpcDecode host
  let mBuffer ← self.mBuffer.rpcDecode host heap true
  let mFlags ← popU32 host
  let mStatus ← popU32 host
  let mRegisters ← Decoder.times (popU32 host) 16
  -- half of the 32 reserved words
  let mReserved ← Decoder.times (popU32 host) 16
  let mTrailer ← NTV2Trailer.rpcDecode host
  return (mHeader.1 && mBuffer.1 && mTrailer.1,
    { mHeader := mHeader.2
      mBuffer := mBuffer.2
      mFlags := mFlags
      mStatus := mStatus
      mRegisters := storeWords mRegisters self.mRegisters
      mReserved := storeWords mReserved self.mReserved
      mTrailer := mTrailer.2 })

/-- Every field but the native size, and the bytes of the buffer. -/
structure Same (a b : NTV2Bitstream) : Prop where
  mHeader : a.mHeader.Same b.mHeader
  mBuffer : a.mBuffer.bytes = b.mBuffer.bytes
  mFlags : a.mFlags = b.mFlags
  mStatus : a.mStatus = b.mStatus
  mRegisters : a.mRegisters = b.mRegisters
  mReserved : a.mReserved = b.mReserved
  mTrailer : a.mTrailer = b.mTrailer

/-- The message arrives as it was sent, and the decoder stops where the encoder did, whatever
comes before and after; the memory never ends. -/
def Survives (host : Host) (dst src : NTV2Bitstream) : Prop :=
  ∀ before after, (src.rpcEncode host before).1 = true ∧
    ∃ got,
      dst.rpcDecode host (fun _ => true) ((src.rpcEncode host before).2 ++ after) before.length =
        .ok ((true, got), (src.rpcEncode host before).2.length) ∧ got.Same src

end NTV2Bitstream

/-! ### Where the decoder stops -/

section Short

variable (host : Host) {heap : Heap}

lemma carries_words {words : List ULWord} {n : ℕ} (h : words.length = n) :
    Carries (Encoder.each (pushU32 host) words) () (Decoder.times (popU32 host) n) words :=
  h ▸ Carries.each (carries_u32 host) words

/-- Two lists of words one after the other. -/
lemma each_append (as bs : List ULWord) (out : List Byte) :
    Encoder.each (pushU32 host) (as ++ bs) out =
      Encoder.each (pushU32 host) bs (Encoder.each (pushU32 host) as out).2 := by
  induction as generalizing out with
  | nil => rfl
  | cons a as ih => exact ih _

/-- Words take four bytes each. -/
lemma each_length (words : List ULWord) (out : List Byte) :
    ∃ bs, bs.length = 4 * words.length ∧
      Encoder.each (pushU32 host) words out = ((), out ++ bs) := by
  induction words generalizing out with
  | nil => exact ⟨[], rfl, by rw [List.append_nil]; rfl⟩
  | cons a as ih =>
      obtain ⟨bs, hlen, hbs⟩ := ih (out ++ host.memory 4 (host.bigEndianOf ntv2EndianSwap32 a))
      refine ⟨host.memory 4 (host.bigEndianOf ntv2EndianSwap32 a) ++ bs, ?_, ?_⟩
      · rw [List.length_append, length_memory, hlen, List.length_cons]
        omega
      · rw [← List.append_assoc]
        exact hbs

/-- What the decoder takes the bytes of a message for: its trailer are two reserved words. -/
def shortEncode (src : NTV2Bitstream) : Encoder Bool := do
  let ok₁ ← src.mHeader.rpcEncode host
  let ok₂ ← src.mBuffer.rpcEncode host true
  pushU32 host src.mFlags
  pushU32 host src.mStatus
  Encoder.each (pushU32 host) src.mRegisters.toList
  Encoder.each (pushU32 host) (src.mReserved.toList.take 16)
  let ok₃ ← NTV2Trailer.rpcEncode host ⟨src.mReserved[16], src.mReserved[17]⟩
  return ok₁ && ok₂ && ok₃

/-- The bytes of a message are those that the decoder takes and 64 more. -/
lemma bitstream_encode_short (src : NTV2Bitstream) (out : List Byte) :
    ∃ rest, rest.length = 64 ∧
      src.rpcEncode host out = ((shortEncode host src out).1,
        (shortEncode host src out).2 ++ rest) := by
  have hsplit : src.mReserved.toList = src.mReserved.toList.take 16 ++
      ([src.mReserved[16], src.mReserved[17]] ++ src.mReserved.toList.drop 18) := by
    refine (List.take_append_drop 16 _).symm.trans (congrArg _ ?_)
    rw [List.drop_eq_getElem_cons (by simp), List.drop_eq_getElem_cons (by simp)]
    simp
  obtain ⟨words, hwords, htail⟩ := each_length host (src.mReserved.toList.drop 18)
    (shortEncode host src out).2
  obtain ⟨ends, hends, hend⟩ := each_length host
    [src.mTrailer.fTrailerVersion, src.mTrailer.fTrailerTag]
    ((shortEncode host src out).2 ++ words)
  have hlong : src.rpcEncode host out = ((shortEncode host src out).1,
      (Encoder.each (pushU32 host) [src.mTrailer.fTrailerVersion, src.mTrailer.fTrailerTag]
        (Encoder.each (pushU32 host) (src.mReserved.toList.drop 18)
          (shortEncode host src out).2).2).2) := by
    have hreserved : ∀ o, Encoder.each (pushU32 host) src.mReserved.toList o =
        Encoder.each (pushU32 host) (src.mReserved.toList.drop 18)
          (Encoder.each (pushU32 host) [src.mReserved[16], src.mReserved[17]]
            (Encoder.each (pushU32 host) (src.mReserved.toList.take 16) o).2).2 := fun o => by
      conv_lhs => rw [hsplit]
      rw [each_append, each_append]
    simp only [NTV2Bitstream.rpcEncode, shortEncode, Encoder.bind_run, Encoder.pure_run,
      hreserved]
    rfl
  refine ⟨words ++ ends, ?_, ?_⟩
  · rw [List.length_append, hwords, hends]
    simp
  · rw [hlong, htail, hend, List.append_assoc]

/-- What the decoder makes of a message. -/
def shortMessage (heap : Heap) (dst src : NTV2Bitstream) : NTV2Bitstream where
  mHeader := dst.mHeader.received src.mHeader
  mBuffer := (dst.mBuffer.allocate heap src.mBuffer.fByteCount
    src.mBuffer.isPageAligned).2.overwrite src.mBuffer.bytes
  mFlags := src.mFlags
  mStatus := src.mStatus
  mRegisters := storeWords src.mRegisters.toList dst.mRegisters
  mReserved := storeWords (src.mReserved.toList.take 16) dst.mReserved
  mTrailer := ⟨src.mReserved[16], src.mReserved[17]⟩

/-- The decoder takes its bytes, where the buffer finds its memory. -/
lemma carries_short (dst src : NTV2Bitstream)
    (h : (dst.mBuffer.allocate heap src.mBuffer.fByteCount src.mBuffer.isPageAligned).1 = true) :
    Carries (shortEncode host src) true (dst.rpcDecode host heap)
      (true, shortMessage heap dst src) := by
  rw [shortEncode, NTV2Bitstream.rpcDecode]
  refine (carries_header host _ _).bind ?_
  refine (carries_bufferOf host _ _ h).bind ?_
  iterate 2 refine (carries_u32 host _).bind ?_
  refine (carries_words host (by simp)).bind ?_
  refine (carries_words host (by simp)).bind ?_
  refine (carries_trailer host _).bind ?_
  exact Carries.pure _ _

end Short

/-- **No bitstream message arrives as it was sent**: the encoder writes 32 reserved words,
the decoder reads 16 of them, takes the next two for the trailer, and stops 64 bytes early. -/
theorem bitstream_never_survives (host : Host) (dst src : NTV2Bitstream) :
    ¬ NTV2Bitstream.Survives host dst src := by
  intro hsurvives
  obtain ⟨-, got, hgot, -⟩ := hsurvives [] []
  obtain ⟨bs, he, hp⟩ := carries_short host dst src (allocate_true _ _ _)
  obtain ⟨rest, hrest, hlong⟩ := bitstream_encode_short host src []
  have hread := hp [] rest
  rw [hlong, he, List.append_nil, hread] at hgot
  simp only [Except.ok.injEq, Prod.mk.injEq, List.length_append, List.length_nil] at hgot
  omega

/-- A message with the reserved words 0 to 31 and the trailer words 7 and 9. -/
def countingMessage : NTV2Bitstream where
  mHeader := .zero
  mBuffer := .null
  mFlags := 0
  mStatus := 0
  mRegisters := Vector.replicate 16 0
  mReserved := Vector.ofFn fun i => BitVec.ofNat 32 i
  mTrailer := ⟨7, 9⟩

/-- It arrives with its words 16 and 17 for a trailer, and 64 of its bytes are left behind. -/
theorem bitstream_trailer_lost :
    (countingMessage.rpcEncode ⟨false⟩ []).2.length = 248 ∧
      (countingMessage.rpcDecode ⟨false⟩ (fun _ => true)
          (countingMessage.rpcEncode ⟨false⟩ []).2 0).map
        (fun r => (r.1.1, r.1.2.mTrailer, r.2)) = .ok (true, ⟨16, 17⟩, 184) ∧
      ¬ ∀ dst src, NTV2Bitstream.Survives ⟨false⟩ dst src := by
  have hread : (countingMessage.rpcDecode ⟨false⟩ (fun _ => true)
        (countingMessage.rpcEncode ⟨false⟩ []).2 0).map
      (fun r => (r.1.1, r.1.2.mTrailer, r.2)) = .ok (true, ⟨16, 17⟩, 184) := by
    decide +kernel
  refine ⟨by decide +kernel, hread, fun h => ?_⟩
  obtain ⟨-, got, hgot, hsame⟩ := h countingMessage countingMessage [] []
  rw [List.append_nil, show ([] : List Byte).length = 0 from rfl] at hgot
  rw [hgot] at hread
  simp only [Except.map, Except.ok.injEq, Prod.mk.injEq, true_and] at hread
  rw [hsame.mTrailer] at hread
  exact absurd hread.1 (by decide)

end LibAjaNtv2
