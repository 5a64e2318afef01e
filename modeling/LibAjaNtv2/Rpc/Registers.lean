import LibAjaNtv2.Rpc.Buffer

/-!
The register batches among the RPC messages.

* `NTV2GetRegisters`, `NTV2SetRegisters`, `NTV2BankSelGetSetRegs` and their codecs;
* `SurvivesWire`: what is encoded after any prefix is decoded from there on, and the
  decoder stops where the encoder stopped;
* `HalvesEqual`: the failure indexes that look the same after a swap of four bytes and one
  of two;
* `regMessage_survives_iff`: **which messages survive**: all but those of
  `NTV2SetRegisters` with failure indexes, on a little-endian host.
-/

namespace LibAjaNtv2

/-- `if (!NTV2HostIsBigEndian) b.ByteSwap32 ();`. -/
def NTV2Buffer.swapped32 (host : Host) (b : NTV2Buffer) : NTV2Buffer :=
  if host.bigEndian then b else b.byteSwap32 host

/-- `if (!NTV2HostIsBigEndian) b.ByteSwap16 ();`. -/
def NTV2Buffer.swapped16 (host : Host) (b : NTV2Buffer) : NTV2Buffer :=
  if host.bigEndian then b else b.byteSwap16 host

/-- The trailer, which is only written when the buffers before it were. -/
def NTV2Trailer.rpcEncodeIf (host : Host) (ok : Bool) (self : NTV2Trailer) : Encoder Bool :=
  if ok then self.rpcEncode host else pure false

/-! ### The messages -/

/-- `NTV2GetRegisters`. -/
structure NTV2GetRegisters where
  mHeader : NTV2Header
  mInNumRegisters : ULWord
  mInRegisters : NTV2Buffer
  mOutNumRegisters : ULWord
  mOutGoodRegisters : NTV2Buffer
  mOutValues : NTV2Buffer
  mTrailer : NTV2Trailer

/-- `NTV2SetRegisters`. -/
structure NTV2SetRegisters where
  mHeader : NTV2Header
  mInNumRegisters : ULWord
  mInRegInfos : NTV2Buffer
  mOutNumFailures : ULWord
  mOutBadRegIndexes : NTV2Buffer
  mTrailer : NTV2Trailer

/-- `NTV2BankSelGetSetRegs`. -/
structure NTV2BankSelGetSetRegs where
  mHeader : NTV2Header
  mIsWriting : ULWord
  mInBankInfos : NTV2Buffer
  mInRegInfos : NTV2Buffer
  mTrailer : NTV2Trailer

namespace NTV2GetRegisters

/-- `NTV2GetRegisters::RPCEncodeClient`; the message itself stays swapped. -/
def rpcEncodeClient (host : Host) (self : NTV2GetRegisters) :
    Encoder (Bool × NTV2GetRegisters) := do
  let self := { self with mInRegisters := self.mInRegisters.swapped32 host }
  let ok₁ ← self.mHeader.rpcEncode host
  pushU32 host self.mInNumRegisters
  let ok₂ ← self.mInRegisters.rpcEncode host true
  pushU32 host self.mOutNumRegisters
  let ok₃ ← self.mOutGoodRegisters.rpcEncode host false
  let ok₄ ← if ok₃ then self.mOutValues.rpcEncode host false else pure false
  let ok₅ ← self.mTrailer.rpcEncodeIf host ok₄
  let ok := ok₁ && ok₂ && ok₅
  return (ok, if ok then self
    else { self with mInRegisters := self.mInRegisters.swapped32 host })

/-- `NTV2GetRegisters::RPCDecodeServer`. -/
def rpcDecodeServer (host : Host) (heap : Heap) (self : NTV2GetRegisters) :
    Decoder (Bool × NTV2GetRegisters) := do
  let header ← self.mHeader.rpcDecode host
  if header.1 then
    let mInNumRegisters ← popU32 host
    let inRegisters ← self.mInRegisters.rpcDecode host heap true
    let mOutNumRegisters ← popU32 host
    let goodRegisters ← self.mOutGoodRegisters.rpcDecode host heap false
    let values ← self.mOutValues.rpcDecode host heap false
    let trailer ← NTV2Trailer.rpcDecode host
    return (inRegisters.1 && goodRegisters.1 && values.1 && trailer.1,
      { mHeader := header.2
        mInNumRegisters := mInNumRegisters
        mInRegisters := inRegisters.2.swapped32 host
        mOutNumRegisters := mOutNumRegisters
        mOutGoodRegisters := goodRegisters.2
        mOutValues := values.2
        mTrailer := trailer.2 })
  else return (false, { self with mHeader := header.2 })

/-- `NTV2GetRegisters::RPCEncodeServer`; the message itself stays swapped. -/
def rpcEncodeServer (host : Host) (self : NTV2GetRegisters) :
    Encoder (Bool × NTV2GetRegisters) := do
  let self := { self with
    mOutGoodRegisters := self.mOutGoodRegisters.swapped32 host
    mOutValues := self.mOutValues.swapped32 host }
  let ok₁ ← self.mHeader.rpcEncode host
  pushU32 host self.mInNumRegisters
  let ok₂ ← self.mInRegisters.rpcEncode host false
  pushU32 host self.mOutNumRegisters
  let ok₃ ← self.mOutGoodRegisters.rpcEncode host true
  let ok₄ ← if ok₃ then self.mOutValues.rpcEncode host true else pure false
  let ok₅ ← self.mTrailer.rpcEncodeIf host ok₄
  let ok := ok₁ && ok₂ && ok₅
  return (ok, if ok then self
    else { self with
      mOutGoodRegisters := self.mOutGoodRegisters.swapped32 host
      mOutValues := self.mOutValues.swapped32 host })

/-- `NTV2GetRegisters::RPCDecodeClient`. -/
def rpcDecodeClient (host : Host) (heap : Heap) (self : NTV2GetRegisters) :
    Decoder (Bool × NTV2GetRegisters) := do
  let header ← self.mHeader.rpcDecode host
  if header.1 then
    let mInNumRegisters ← popU32 host
    let inRegisters ← self.mInRegisters.rpcDecode host heap false
    let mOutNumRegisters ← popU32 host
    let goodRegisters ← self.mOutGoodRegisters.rpcDecode host heap true
    let values ← self.mOutValues.rpcDecode host heap true
    let trailer ← NTV2Trailer.rpcDecode host
    return (inRegisters.1 && goodRegisters.1 && values.1 && trailer.1,
      { mHeader := header.2
        mInNumRegisters := mInNumRegisters
        mInRegisters := inRegisters.2
        mOutNumRegisters := mOutNumRegisters
        mOutGoodRegisters := goodRegisters.2.swapped32 host
        mOutValues := values.2.swapped32 host
        mTrailer := trailer.2 })
  else return (false, { self with mHeader := header.2 })

end NTV2GetRegisters

namespace NTV2SetRegisters

/-- `NTV2SetRegisters::RPCEncode`; the message itself stays swapped. -/
def rpcEncode (host : Host) (self : NTV2SetRegisters) : Encoder (Bool × NTV2SetRegisters) := do
  let self := { self with
    mInRegInfos := self.mInRegInfos.swapped32 host
    mOutBadRegIndexes := self.mOutBadRegIndexes.swapped32 host }
  let ok₁ ← self.mHeader.rpcEncode host
  pushU32 host self.mInNumRegisters
  let ok₂ ← self.mInRegInfos.rpcEncode host true
  pushU32 host self.mOutNumFailures
  let ok₃ ← self.mOutBadRegIndexes.rpcEncode host true
  let ok₄ ← self.mTrailer.rpcEncodeIf host ok₃
  let ok := ok₁ && ok₂ && ok₄
  return (ok, if ok then self
    else { self with
      mInRegInfos := self.mInRegInfos.swapped32 host
      mOutBadRegIndexes := self.mOutBadRegIndexes.swapped16 host })

/-- `NTV2SetRegisters::RPCDecode`. -/
def rpcDecode (host : Host) (heap : Heap) (self : NTV2SetRegisters) :
    Decoder (Bool × NTV2SetRegisters) := do
  let header ← self.mHeader.rpcDecode host
  let mInNumRegisters ← popU32 host
  let regInfos ← self.mInRegInfos.rpcDecode host heap true
  let mOutNumFailures ← popU32 host
  let badRegIndexes ← self.mOutBadRegIndexes.rpcDecode host heap true
  let trailer ← NTV2Trailer.rpcDecode host
  return (header.1 && regInfos.1 && badRegIndexes.1 && trailer.1,
    { mHeader := header.2
      mInNumRegisters := mInNumRegisters
      mInRegInfos := regInfos.2.swapped32 host
      mOutNumFailures := mOutNumFailures
      mOutBadRegIndexes := badRegIndexes.2.swapped16 host
      mTrailer := trailer.2 })

end NTV2SetRegisters

namespace NTV2BankSelGetSetRegs

/-- `NTV2BankSelGetSetRegs::RPCEncode`; the message itself stays swapped. -/
def rpcEncode (host : Host) (self : NTV2BankSelGetSetRegs) :
    Encoder (Bool × NTV2BankSelGetSetRegs) := do
  let self := { self with
    mInBankInfos := self.mInBankInfos.swapped32 host
    mInRegInfos := self.mInRegInfos.swapped32 host }
  let ok₁ ← self.mHeader.rpcEncode host
  pushU32 host self.mIsWriting
  let ok₂ ← self.mInBankInfos.rpcEncode host true
  let ok₃ ← self.mInRegInfos.rpcEncode host true
  let ok₄ ← self.mTrailer.rpcEncodeIf host ok₃
  let ok := ok₁ && ok₂ && ok₄
  return (ok, if ok then self
    else { self with
      mInBankInfos := self.mInBankInfos.swapped32 host
      mInRegInfos := self.mInRegInfos.swapped32 host })

/-- `NTV2BankSelGetSetRegs::RPCDecode`. -/
def rpcDecode (host : Host) (heap : Heap) (self : NTV2BankSelGetSetRegs) :
    Decoder (Bool × NTV2BankSelGetSetRegs) := do
  let header ← self.mHeader.rpcDecode host
  let mIsWriting ← popU32 host
  let bankInfos ← self.mInBankInfos.rpcDecode host heap true
  let regInfos ← self.mInRegInfos.rpcDecode host heap true
  let trailer ← NTV2Trailer.rpcDecode host
  return (header.1 && bankInfos.1 && regInfos.1 && trailer.1,
    { mHeader := header.2
      mIsWriting := mIsWriting
      mInBankInfos := bankInfos.2.swapped32 host
      mInRegInfos := regInfos.2.swapped32 host
      mTrailer := trailer.2 })

end NTV2BankSelGetSetRegs

/-! ### What arrives -/

section Arrives

variable (host : Host) {heap : Heap}

lemma length_swapped32 (b : NTV2Buffer) :
    (b.swapped32 host).bytes.length = b.bytes.length := by
  rw [NTV2Buffer.swapped32]
  split
  · rfl
  · exact length_byteSwap32 host b

/-- Swapped before it is sent and after it has arrived, a buffer is as before. -/
lemma swapped32_received (dst b : NTV2Buffer) :
    ((dst.received (b.swapped32 host)).swapped32 host).bytes = b.bytes := by
  rw [NTV2Buffer.swapped32]
  split
  · next h => simp [NTV2Buffer.swapped32, NTV2Buffer.received, h]
  · next h =>
    refine byteSwap32_bytes host ?_
    simp [NTV2Buffer.swapped32, NTV2Buffer.received, h]

lemma carries_trailerIf (src : NTV2Trailer) :
    Carries (src.rpcEncodeIf host true) true (NTV2Trailer.rpcDecode host) (true, src) :=
  carries_trailer host src

namespace NTV2GetRegisters

/-- The memory a message takes. -/
def HeapHas (heap : Heap) (src : NTV2GetRegisters) : Prop :=
  heap src.mInRegisters.bytes.length = true ∧ heap src.mOutGoodRegisters.bytes.length = true ∧
    heap src.mOutValues.bytes.length = true

/-- The request as the server decodes it. -/
def receivedByServer (dst src : NTV2GetRegisters) : NTV2GetRegisters where
  mHeader := dst.mHeader.received src.mHeader
  mInNumRegisters := src.mInNumRegisters
  mInRegisters := (dst.mInRegisters.received (src.mInRegisters.swapped32 host)).swapped32 host
  mOutNumRegisters := src.mOutNumRegisters
  mOutGoodRegisters := dst.mOutGoodRegisters.receivedSize src.mOutGoodRegisters
  mOutValues := dst.mOutValues.receivedSize src.mOutValues
  mTrailer := src.mTrailer

/-- The response as the client decodes it. -/
def receivedByClient (dst src : NTV2GetRegisters) : NTV2GetRegisters where
  mHeader := dst.mHeader.received src.mHeader
  mInNumRegisters := src.mInNumRegisters
  mInRegisters := dst.mInRegisters.receivedSize src.mInRegisters
  mOutNumRegisters := src.mOutNumRegisters
  mOutGoodRegisters :=
    (dst.mOutGoodRegisters.received (src.mOutGoodRegisters.swapped32 host)).swapped32 host
  mOutValues := (dst.mOutValues.received (src.mOutValues.swapped32 host)).swapped32 host
  mTrailer := src.mTrailer

/-- A request arrives. -/
lemma carries_request (dst : NTV2GetRegisters) {src : NTV2GetRegisters}
    (h : src.HeapHas heap) :
    Carries (src.rpcEncodeClient host)
      (true, { src with mInRegisters := src.mInRegisters.swapped32 host })
      (dst.rpcDecodeServer host heap) (true, receivedByServer host dst src) := by
  obtain ⟨hin, hgood, hvalues⟩ := h
  rw [← length_swapped32 host] at hin
  rw [rpcEncodeClient, rpcDecodeServer]
  refine (carries_header host _ _).bind ?_
  refine (carries_u32 host _).bind ?_
  refine (carries_buffer host _ _ hin).bind ?_
  refine (carries_u32 host _).bind ?_
  refine (carries_bufferSize host _ _ hgood).bind ?_
  refine (carries_bufferSize host _ _ hvalues).bind ?_
  refine (carries_trailerIf host _).bind ?_
  exact Carries.pure _ _

/-- A response arrives. -/
lemma carries_response (dst : NTV2GetRegisters) {src : NTV2GetRegisters}
    (h : src.HeapHas heap) :
    Carries (src.rpcEncodeServer host)
      (true, { src with
        mOutGoodRegisters := src.mOutGoodRegisters.swapped32 host
        mOutValues := src.mOutValues.swapped32 host })
      (dst.rpcDecodeClient host heap) (true, receivedByClient host dst src) := by
  obtain ⟨hin, hgood, hvalues⟩ := h
  rw [← length_swapped32 host] at hgood hvalues
  rw [rpcEncodeServer, rpcDecodeClient]
  refine (carries_header host _ _).bind ?_
  refine (carries_u32 host _).bind ?_
  refine (carries_bufferSize host _ _ hin).bind ?_
  refine (carries_u32 host _).bind ?_
  refine (carries_buffer host _ _ hgood).bind ?_
  refine (carries_buffer host _ _ hvalues).bind ?_
  refine (carries_trailerIf host _).bind ?_
  exact Carries.pure _ _

end NTV2GetRegisters

namespace NTV2SetRegisters

/-- The memory a message takes. -/
def HeapHas (heap : Heap) (src : NTV2SetRegisters) : Prop :=
  heap src.mInRegInfos.bytes.length = true ∧ heap src.mOutBadRegIndexes.bytes.length = true

/-- The message as it is decoded. -/
def received (dst src : NTV2SetRegisters) : NTV2SetRegisters where
  mHeader := dst.mHeader.received src.mHeader
  mInNumRegisters := src.mInNumRegisters
  mInRegInfos := (dst.mInRegInfos.received (src.mInRegInfos.swapped32 host)).swapped32 host
  mOutNumFailures := src.mOutNumFailures
  -- four bytes were turned around on the way out, two are on the way in
  mOutBadRegIndexes :=
    (dst.mOutBadRegIndexes.received (src.mOutBadRegIndexes.swapped32 host)).swapped16 host
  mTrailer := src.mTrailer

/-- A message arrives. -/
lemma carries_setRegisters (dst : NTV2SetRegisters) {src : NTV2SetRegisters}
    (h : src.HeapHas heap) :
    Carries (src.rpcEncode host)
      (true, { src with
        mInRegInfos := src.mInRegInfos.swapped32 host
        mOutBadRegIndexes := src.mOutBadRegIndexes.swapped32 host })
      (dst.rpcDecode host heap) (true, received host dst src) := by
  obtain ⟨hinfos, hbad⟩ := h
  rw [← length_swapped32 host] at hinfos hbad
  rw [rpcEncode, rpcDecode]
  refine (carries_header host _ _).bind ?_
  refine (carries_u32 host _).bind ?_
  refine (carries_buffer host _ _ hinfos).bind ?_
  refine (carries_u32 host _).bind ?_
  refine (carries_buffer host _ _ hbad).bind ?_
  refine (carries_trailerIf host _).bind ?_
  exact Carries.pure _ _

end NTV2SetRegisters

namespace NTV2BankSelGetSetRegs

/-- The memory a message takes. -/
def HeapHas (heap : Heap) (src : NTV2BankSelGetSetRegs) : Prop :=
  heap src.mInBankInfos.bytes.length = true ∧ heap src.mInRegInfos.bytes.length = true

/-- The message as it is decoded. -/
def received (dst src : NTV2BankSelGetSetRegs) : NTV2BankSelGetSetRegs where
  mHeader := dst.mHeader.received src.mHeader
  mIsWriting := src.mIsWriting
  mInBankInfos := (dst.mInBankInfos.received (src.mInBankInfos.swapped32 host)).swapped32 host
  mInRegInfos := (dst.mInRegInfos.received (src.mInRegInfos.swapped32 host)).swapped32 host
  mTrailer := src.mTrailer

/-- A message arrives. -/
lemma carries_bankSel (dst : NTV2BankSelGetSetRegs) {src : NTV2BankSelGetSetRegs}
    (h : src.HeapHas heap) :
    Carries (src.rpcEncode host)
      (true, { src with
        mInBankInfos := src.mInBankInfos.swapped32 host
        mInRegInfos := src.mInRegInfos.swapped32 host })
      (dst.rpcDecode host heap) (true, received host dst src) := by
  obtain ⟨hbanks, hinfos⟩ := h
  rw [← length_swapped32 host] at hbanks hinfos
  rw [rpcEncode, rpcDecode]
  refine (carries_header host _ _).bind ?_
  refine (carries_u32 host _).bind ?_
  refine (carries_buffer host _ _ hbanks).bind ?_
  refine (carries_buffer host _ _ hinfos).bind ?_
  refine (carries_trailerIf host _).bind ?_
  exact Carries.pure _ _

end NTV2BankSelGetSetRegs

end Arrives

/-! ### The same message -/

/-- The headers agree but for the native size. -/
def NTV2Header.Same (a b : NTV2Header) : Prop := a = a.received b

/-- The fields and the register numbers of a request. -/
structure NTV2GetRegisters.SameRequest (a b : NTV2GetRegisters) : Prop where
  mHeader : a.mHeader.Same b.mHeader
  mInNumRegisters : a.mInNumRegisters = b.mInNumRegisters
  mInRegisters : a.mInRegisters.bytes = b.mInRegisters.bytes
  mOutNumRegisters : a.mOutNumRegisters = b.mOutNumRegisters
  goodByteCount : a.mOutGoodRegisters.fByteCount = b.mOutGoodRegisters.fByteCount
  valuesByteCount : a.mOutValues.fByteCount = b.mOutValues.fByteCount
  mTrailer : a.mTrailer = b.mTrailer

/-- The fields, the register numbers and the values of a response. -/
structure NTV2GetRegisters.SameResponse (a b : NTV2GetRegisters) : Prop where
  mHeader : a.mHeader.Same b.mHeader
  mInNumRegisters : a.mInNumRegisters = b.mInNumRegisters
  inByteCount : a.mInRegisters.fByteCount = b.mInRegisters.fByteCount
  mOutNumRegisters : a.mOutNumRegisters = b.mOutNumRegisters
  mOutGoodRegisters : a.mOutGoodRegisters.bytes = b.mOutGoodRegisters.bytes
  mOutValues : a.mOutValues.bytes = b.mOutValues.bytes
  mTrailer : a.mTrailer = b.mTrailer

/-- The fields, the register infos and the failure indexes. -/
structure NTV2SetRegisters.Same (a b : NTV2SetRegisters) : Prop where
  mHeader : a.mHeader.Same b.mHeader
  mInNumRegisters : a.mInNumRegisters = b.mInNumRegisters
  mInRegInfos : a.mInRegInfos.bytes = b.mInRegInfos.bytes
  mOutNumFailures : a.mOutNumFailures = b.mOutNumFailures
  mOutBadRegIndexes : a.mOutBadRegIndexes.bytes = b.mOutBadRegIndexes.bytes
  mTrailer : a.mTrailer = b.mTrailer

/-- The fields and the register infos. -/
structure NTV2BankSelGetSetRegs.Same (a b : NTV2BankSelGetSetRegs) : Prop where
  mHeader : a.mHeader.Same b.mHeader
  mIsWriting : a.mIsWriting = b.mIsWriting
  mInBankInfos : a.mInBankInfos.bytes = b.mInBankInfos.bytes
  mInRegInfos : a.mInRegInfos.bytes = b.mInRegInfos.bytes
  mTrailer : a.mTrailer = b.mTrailer

/-- Encoded after any bytes and followed by any, a message is decoded as one that `same`
accepts, and the decoder stops where the encoder did. -/
def SurvivesWire {α : Type} (e : Encoder (Bool × α)) (p : Decoder (Bool × α))
    (same : α → Prop) : Prop :=
  ∀ before after, (e before).1.1 = true ∧
    ∃ got, p ((e before).2 ++ after) before.length = .ok ((true, got), (e before).2.length) ∧
      same got

/-- What is carried survives exactly when what arrives is the same. -/
lemma Carries.survives_iff {α : Type} {e : Encoder (Bool × α)} {p : Decoder (Bool × α)} {a b : α}
    (h : Carries e (true, a) p (true, b)) (same : α → Prop) :
    SurvivesWire e p same ↔ same b := by
  obtain ⟨bs, he, hp⟩ := h
  constructor
  · intro hsurvives
    obtain ⟨-, got, hgot, hsame⟩ := hsurvives [] []
    have hread := hp [] []
    rw [he] at hgot
    rw [hread] at hgot
    simp only [Except.ok.injEq, Prod.mk.injEq, true_and] at hgot
    rwa [hgot.1]
  · intro hsame before after
    rw [he]
    refine ⟨rfl, b, ?_, hsame⟩
    rw [hp]
    simp

/-- A batch of registers on its way: the object it is decoded into and the message. -/
inductive RegMessage where
  | setRegisters (dst src : NTV2SetRegisters)
  | bankSel (dst src : NTV2BankSelGetSetRegs)
  | getRequest (dst src : NTV2GetRegisters)
  | getResponse (dst src : NTV2GetRegisters)

/-- The message arrives as it was sent. -/
def RegMessage.Survives (host : Host) (heap : Heap) : RegMessage → Prop
  | .setRegisters dst src =>
      SurvivesWire (src.rpcEncode host) (dst.rpcDecode host heap) (·.Same src)
  | .bankSel dst src =>
      SurvivesWire (src.rpcEncode host) (dst.rpcDecode host heap) (·.Same src)
  | .getRequest dst src =>
      SurvivesWire (src.rpcEncodeClient host) (dst.rpcDecodeServer host heap) (·.SameRequest src)
  | .getResponse dst src =>
      SurvivesWire (src.rpcEncodeServer host) (dst.rpcDecodeClient host heap) (·.SameResponse src)

/-- There is memory for the message. -/
def RegMessage.HeapHas (heap : Heap) : RegMessage → Prop
  | .setRegisters _ src => src.HeapHas heap
  | .bankSel _ src => src.HeapHas heap
  | .getRequest _ src => src.HeapHas heap
  | .getResponse _ src => src.HeapHas heap

/-- Of each pair of 16-bit words the two are equal, and a last one without a partner reads
the same in either byte order. -/
def HalvesEqual : List Byte → Prop
  | a :: b :: c :: d :: bs => a = c ∧ b = d ∧ HalvesEqual bs
  | a :: b :: _ => a = b
  | _ => True

/-- The failure indexes are untouched by the two swaps of different width. -/
def RegMessage.SwapsAgree (host : Host) : RegMessage → Prop
  | .setRegisters _ src => host.bigEndian = true ∨ HalvesEqual src.mOutBadRegIndexes.bytes
  | _ => True

/-! ### Two swaps of different width -/

section Swaps

variable (host : Host)

lemma eachChunk_swap32_cons (a b c d : Byte) (bs : List Byte) :
    eachChunk 4 (swapChunk32 host) ((a :: b :: c :: d :: bs).length / 4)
        (a :: b :: c :: d :: bs) =
      d :: c :: b :: a :: eachChunk 4 (swapChunk32 host) (bs.length / 4) bs := by
  have hcount : (a :: b :: c :: d :: bs).length / 4 = bs.length / 4 + 1 := by
    simp only [List.length_cons]
    omega
  rw [hcount, eachChunk, swapChunk32_eq host (by simp)]
  simp

lemma eachChunk_swap16_cons (a b : Byte) (bs : List Byte) :
    eachChunk 2 (swapChunk16 host) ((a :: b :: bs).length / 2) (a :: b :: bs) =
      b :: a :: eachChunk 2 (swapChunk16 host) (bs.length / 2) bs := by
  have hcount : (a :: b :: bs).length / 2 = bs.length / 2 + 1 := by
    simp only [List.length_cons]
    omega
  rw [hcount, eachChunk, swapChunk16_eq host (by simp)]
  simp

/-- A swap of four bytes followed by one of two changes nothing exactly when the halves are
equal. -/
lemma swap16_swap32_iff (bs : List Byte) :
    eachChunk 2 (swapChunk16 host)
        ((eachChunk 4 (swapChunk32 host) (bs.length / 4) bs).length / 2)
        (eachChunk 4 (swapChunk32 host) (bs.length / 4) bs) = bs ↔ HalvesEqual bs := by
  induction bs using HalvesEqual.induct with
  | case1 a b c d bs ih =>
      rw [eachChunk_swap32_cons, eachChunk_swap16_cons, eachChunk_swap16_cons, HalvesEqual]
      simp only [List.cons.injEq, ih]
      constructor
      · rintro ⟨rfl, rfl, -, -, hrest⟩
        exact ⟨rfl, rfl, hrest⟩
      · rintro ⟨rfl, rfl, hrest⟩
        exact ⟨rfl, rfl, rfl, rfl, hrest⟩
  | case2 a b bs hshort =>
      have hbs : bs.length < 2 := by
        rcases bs with _ | ⟨c, _ | ⟨d, ds⟩⟩
        · simp
        · simp
        · exact absurd rfl (hshort c d ds)
      have hnone : (a :: b :: bs).length / 4 = 0 := by
        simp only [List.length_cons]
        omega
      have hrest : bs.length / 2 = 0 := by omega
      rw [hnone, eachChunk, eachChunk_swap16_cons, hrest, eachChunk]
      rcases bs with _ | ⟨c, _ | ⟨d, ds⟩⟩
      · simp only [HalvesEqual, List.cons.injEq, and_true]
        exact ⟨fun h => h.2, fun h => ⟨h.symm, h⟩⟩
      · simp only [HalvesEqual, List.cons.injEq, and_true]
        exact ⟨fun h => h.2, fun h => ⟨h.symm, h⟩⟩
      · exact absurd rfl (hshort c d ds)
  | case3 bs hlong hmid =>
      rcases bs with _ | ⟨a, _ | ⟨b, bs⟩⟩
      · simp [eachChunk, HalvesEqual]
      · simp [eachChunk, HalvesEqual]
      · exact absurd rfl (hmid a b bs)

end Swaps

section Main

variable (host : Host) {heap : Heap}

lemma received_same (dst src : NTV2Header) : (dst.received src).Same src := rfl

lemma receivedSize_fByteCount (dst src : NTV2Buffer) :
    (dst.receivedSize src).fByteCount = src.fByteCount := by
  apply BitVec.eq_of_toNat_eq
  rw [fByteCount_toNat, NTV2Buffer.receivedSize, NTV2Buffer.zeros, List.length_replicate]

/-- A message of `NTV2SetRegisters` arrives as it was sent exactly when the swaps agree. -/
lemma setRegisters_same_iff (dst src : NTV2SetRegisters) :
    (NTV2SetRegisters.received host dst src).Same src ↔
      (RegMessage.setRegisters dst src).SwapsAgree host := by
  have hbad : (NTV2SetRegisters.received host dst src).mOutBadRegIndexes.bytes =
      src.mOutBadRegIndexes.bytes ↔
        host.bigEndian = true ∨ HalvesEqual src.mOutBadRegIndexes.bytes := by
    cases hbig : host.bigEndian with
    | true =>
        simp [NTV2SetRegisters.received, NTV2Buffer.swapped16, NTV2Buffer.swapped32,
          NTV2Buffer.received, hbig]
    | false =>
        rw [← swap16_swap32_iff host]
        simp [NTV2SetRegisters.received, NTV2Buffer.swapped16, NTV2Buffer.swapped32,
          NTV2Buffer.received, NTV2Buffer.byteSwap16, NTV2Buffer.byteSwap32, hbig]
  rw [RegMessage.SwapsAgree, ← hbad]
  exact ⟨fun h => h.mOutBadRegIndexes, fun h => ⟨received_same _ _, rfl,
    swapped32_received host _ _, rfl, h, rfl⟩⟩

/-- **A batch of registers arrives as it was sent exactly when it is no batch of
`NTV2SetRegisters`, or the host is big-endian, or the failure indexes look the same after a
swap of four bytes and one of two**: the encoder swaps them as 32-bit words, the decoder as
16-bit words. -/
theorem regMessage_survives_iff (m : RegMessage) (h : m.HeapHas heap) :
    m.Survives host heap ↔ m.SwapsAgree host := by
  cases m with
  | setRegisters dst src =>
      rw [RegMessage.Survives, (NTV2SetRegisters.carries_setRegisters host dst h).survives_iff]
      exact setRegisters_same_iff host dst src
  | bankSel dst src =>
      rw [RegMessage.Survives, (NTV2BankSelGetSetRegs.carries_bankSel host dst h).survives_iff]
      exact iff_of_true ⟨received_same _ _, rfl, swapped32_received host _ _,
        swapped32_received host _ _, rfl⟩ trivial
  | getRequest dst src =>
      rw [RegMessage.Survives, (NTV2GetRegisters.carries_request host dst h).survives_iff]
      exact iff_of_true ⟨received_same _ _, rfl, swapped32_received host _ _, rfl,
        receivedSize_fByteCount _ _, receivedSize_fByteCount _ _, rfl⟩ trivial
  | getResponse dst src =>
      rw [RegMessage.Survives, (NTV2GetRegisters.carries_response host dst h).survives_iff]
      exact iff_of_true ⟨received_same _ _, rfl, receivedSize_fByteCount _ _, rfl,
        swapped32_received host _ _, swapped32_received host _ _, rfl⟩ trivial

end Main

/-- A message with the failure indexes 1 and 2, and one with nothing in it. -/
def twoFailures : NTV2SetRegisters where
  mHeader := .zero
  mInNumRegisters := 0
  mInRegInfos := .null
  mOutNumFailures := 2
  mOutBadRegIndexes := ⟨[1, 0, 2, 0], 0, by decide⟩
  mTrailer := .zero

/-- A message with nothing in it. -/
def noRegisters : NTV2SetRegisters where
  mHeader := .zero
  mInNumRegisters := 0
  mInRegInfos := .null
  mOutNumFailures := 0
  mOutBadRegIndexes := .null
  mTrailer := .zero

/-- The two indexes of a little-endian host do not arrive as they were sent. -/
theorem regMessage_survives_iff_twoFailures :
    ¬ (RegMessage.setRegisters noRegisters twoFailures).Survives ⟨false⟩ (fun _ => true) := by
  rw [regMessage_survives_iff ⟨false⟩ (.setRegisters noRegisters twoFailures) ⟨rfl, rfl⟩]
  show ¬ (false = true ∨ ((1 : Byte) = 2 ∧ (0 : Byte) = 0 ∧ True))
  decide

/-- On a little-endian host the failure indexes 1 and 2 arrive as 2 and 1. -/
theorem setRegisters_swaps_failures :
    (twoFailures.rpcEncode ⟨false⟩ []).1.1 = true ∧
      ((noRegisters.rpcDecode ⟨false⟩ (fun _ => true)
        (twoFailures.rpcEncode ⟨false⟩ []).2 0).map
          (fun r => (r.1.1, r.1.2.mOutBadRegIndexes.bytes))) =
        .ok (true, [2, 0, 1, 0]) ∧
      ¬ SurvivesWire (twoFailures.rpcEncode ⟨false⟩)
        (noRegisters.rpcDecode ⟨false⟩ (fun _ => true)) (·.Same twoFailures) := by
  have hgot : ((noRegisters.rpcDecode ⟨false⟩ (fun _ => true)
      (twoFailures.rpcEncode ⟨false⟩ []).2 0).map
        (fun r => (r.1.1, r.1.2.mOutBadRegIndexes.bytes))) = .ok (true, [2, 0, 1, 0]) := by
    decide +kernel
  refine ⟨by decide +kernel, hgot, fun h => ?_⟩
  obtain ⟨-, got, hread, hsame⟩ := h [] []
  rw [List.append_nil] at hread
  rw [show ([] : List Byte).length = 0 from rfl] at hread
  rw [hread] at hgot
  simp only [Except.map, Except.ok.injEq, Prod.mk.injEq, true_and] at hgot
  rw [hsame.mOutBadRegIndexes] at hgot
  revert hgot
  decide

end LibAjaNtv2
