import LibAjaNtv2.Lib.Wire

/-!
The scalars of the RPC messages (`ntv2endian.h`, `ntv2nubtypes.h`).

* `Host`: the byte order of the host, and how it keeps a word in memory;
* `ntv2EndianSwap16`, `ntv2EndianSwap32`, `ntv2EndianSwap64`: the macros;
  `leBytes_swap16`, `leBytes_swap32`, `leBytes_swap64`: they turn the bytes around;
* `pushU16` … `popU64`: the scalars on the wire;
* `carries_u16` … `carries_u64`: **a scalar written on a host is read back on it**.
-/

namespace LibAjaNtv2

abbrev UByte := BitVec 8
abbrev UWord := BitVec 16
abbrev ULWord := BitVec 32
abbrev ULWord64 := BitVec 64

/-- The machine the code runs on. -/
structure Host where
  /-- `NTV2HostIsBigEndian`. -/
  bigEndian : Bool
  deriving DecidableEq, Repr

/-- The `n` bytes of a word in the memory of the host. -/
def Host.memory {w : ℕ} (host : Host) (n : ℕ) (v : BitVec w) : List Byte :=
  if host.bigEndian then (leBytes n v).reverse else leBytes n v

/-- The word that the host finds at the given bytes. -/
def Host.word (host : Host) (w : ℕ) (bs : List Byte) : BitVec w :=
  leWord w (if host.bigEndian then bs.reverse else bs)

@[simp] lemma length_memory {w : ℕ} (host : Host) (n : ℕ) (v : BitVec w) :
    (host.memory n v).length = n := by
  rw [Host.memory]
  split <;> simp

/-- A word put into memory is found there. -/
lemma Host.word_memory {w n : ℕ} (host : Host) (v : BitVec w) (h : w ≤ 8 * n) :
    host.word w (host.memory n v) = v := by
  have hv : v.toNat < 2 ^ (8 * n) := lt_of_lt_of_le v.isLt (Nat.pow_le_pow_right (by decide) h)
  rw [Host.word, Host.memory]
  split
  · rw [List.reverse_reverse, leWord_leBytes v hv]
  · exact leWord_leBytes v hv

/-! ### Byte order -/

/-- `NTV2EndianSwap16`. -/
def ntv2EndianSwap16 (v : UWord) : UWord :=
  ((v <<< 8) &&& 0xFF00#16) ||| ((v >>> 8) &&& 0x00FF#16)

/-- `NTV2EndianSwap32`. -/
def ntv2EndianSwap32 (v : ULWord) : ULWord :=
  ((v <<< 24) &&& 0xFF000000#32) ||| ((v <<< 8) &&& 0x00FF0000#32) |||
    ((v >>> 8) &&& 0x0000FF00#32) ||| ((v >>> 24) &&& 0x000000FF#32)

/-- `NTV2EndianSwap64`. -/
def ntv2EndianSwap64 (v : ULWord64) : ULWord64 :=
  ((v <<< 56) &&& 0xFF00000000000000#64) ||| ((v <<< 40) &&& 0x00FF000000000000#64) |||
    ((v <<< 24) &&& 0x0000FF0000000000#64) ||| ((v <<< 8) &&& 0x000000FF00000000#64) |||
    ((v >>> 8) &&& 0x00000000FF000000#64) ||| ((v >>> 24) &&& 0x0000000000FF0000#64) |||
    ((v >>> 40) &&& 0x000000000000FF00#64) ||| ((v >>> 56) &&& 0x00000000000000FF#64)

lemma leBytes_swap16 (v : UWord) : leBytes 2 (ntv2EndianSwap16 v) = (leBytes 2 v).reverse := by
  simp only [leBytes, ntv2EndianSwap16, List.reverse_cons, List.reverse_nil, List.nil_append,
    List.cons_append, List.cons.injEq, and_true]
  refine ⟨?_, ?_⟩ <;> ext i hi <;> interval_cases i <;> simp

lemma leBytes_swap32 (v : ULWord) : leBytes 4 (ntv2EndianSwap32 v) = (leBytes 4 v).reverse := by
  simp only [leBytes, ntv2EndianSwap32, List.reverse_cons, List.reverse_nil, List.nil_append,
    List.cons_append, List.cons.injEq, and_true]
  refine ⟨?_, ?_, ?_, ?_⟩ <;> ext i hi <;> interval_cases i <;> simp

lemma leBytes_swap64 (v : ULWord64) : leBytes 8 (ntv2EndianSwap64 v) = (leBytes 8 v).reverse := by
  simp only [leBytes, ntv2EndianSwap64, List.reverse_cons, List.reverse_nil, List.nil_append,
    List.cons_append, List.cons.injEq, and_true]
  refine ⟨?_, ?_, ?_, ?_, ?_, ?_, ?_, ?_⟩ <;> ext i hi <;> interval_cases i <;> simp

/-- What turns the bytes around twice does nothing. -/
lemma swap_swap {w n : ℕ} {swap : BitVec w → BitVec w} (hw : w ≤ 8 * n)
    (hswap : ∀ v, leBytes n (swap v) = (leBytes n v).reverse) (v : BitVec w) :
    swap (swap v) = v := by
  have hsmall : ∀ u : BitVec w, u.toNat < 2 ^ (8 * n) := fun u =>
    lt_of_lt_of_le u.isLt (Nat.pow_le_pow_right (by decide) hw)
  have hbytes : leBytes n (swap (swap v)) = leBytes n v := by
    rw [hswap, hswap, List.reverse_reverse]
  rw [← leWord_leBytes (swap (swap v)) (hsmall _), hbytes, leWord_leBytes v (hsmall v)]

/-! ### Scalars on the wire -/

/-- The macros `NTV2EndianSwap..HtoB` and `NTV2EndianSwap..BtoH`: the same on both ways. -/
def Host.bigEndianOf {w : ℕ} (host : Host) (swap : BitVec w → BitVec w) (v : BitVec w) :
    BitVec w :=
  if host.bigEndian then v else swap v

/-- A word of `n` bytes is written. -/
def pushWord {w : ℕ} (host : Host) (n : ℕ) (swap : BitVec w → BitVec w) (inVal : BitVec w) :
    Encoder Unit :=
  Encoder.append (host.memory n (host.bigEndianOf swap inVal))

/-- A word of `n` bytes is read. -/
def popWord (w : ℕ) (host : Host) (n : ℕ) (swap : BitVec w → BitVec w) : Decoder (BitVec w) := do
  let bs ← Decoder.bytes n
  return host.bigEndianOf swap (host.word w bs)

/-- `PUSHU16`. -/
def pushU16 (host : Host) (inVal : UWord) : Encoder Unit :=
  pushWord host 2 ntv2EndianSwap16 inVal

/-- `PUSHU32`. -/
def pushU32 (host : Host) (inVal : ULWord) : Encoder Unit :=
  pushWord host 4 ntv2EndianSwap32 inVal

/-- `PUSHU64`. -/
def pushU64 (host : Host) (inVal : ULWord64) : Encoder Unit :=
  pushWord host 8 ntv2EndianSwap64 inVal

/-- `POPU8`. -/
def popU8 : Decoder UByte := Decoder.byte

/-- `POPU16`. -/
def popU16 (host : Host) : Decoder UWord := popWord 16 host 2 ntv2EndianSwap16

/-- `POPU32`. -/
def popU32 (host : Host) : Decoder ULWord := popWord 32 host 4 ntv2EndianSwap32

/-- `POPU64`. -/
def popU64 (host : Host) : Decoder ULWord64 := popWord 64 host 8 ntv2EndianSwap64

/-- An enumeration is written as a `UWord`. -/
def pushEnum (host : Host) (inVal : ULWord) : Encoder Unit := pushU16 host (inVal.setWidth 16)

/-- An enumeration is read as a `UWord`. -/
def popEnum (host : Host) : Decoder ULWord := do
  let v16 ← popU16 host
  return v16.setWidth 32

/-! ### Scalars are read back -/

section Carries

variable (host : Host)

/-- A word written on a host is read back on it. -/
lemma carries_word {w n : ℕ} {swap : BitVec w → BitVec w} (hw : w ≤ 8 * n)
    (hswap : ∀ v, swap (swap v) = v) (v : BitVec w) :
    Carries (pushWord host n swap v) () (popWord w host n swap) v := by
  have hback : host.bigEndianOf swap
      (host.word w (host.memory n (host.bigEndianOf swap v))) = v := by
    rw [Host.word_memory host _ hw]
    simp only [Host.bigEndianOf]
    split
    · rfl
    · exact hswap v
  have hbytes := Carries.bytes (host.memory n (host.bigEndianOf swap v))
  rw [length_memory] at hbytes
  have hread := hbytes.map fun bs => host.bigEndianOf swap (host.word w bs)
  rw [hback] at hread
  exact hread

lemma carries_u16 (v : UWord) : Carries (pushU16 host v) () (popU16 host) v :=
  carries_word host (by decide) (swap_swap (by decide) leBytes_swap16) v

lemma carries_u32 (v : ULWord) : Carries (pushU32 host v) () (popU32 host) v :=
  carries_word host (by decide) (swap_swap (by decide) leBytes_swap32) v

lemma carries_u64 (v : ULWord64) : Carries (pushU64 host v) () (popU64 host) v :=
  carries_word host (by decide) (swap_swap (by decide) leBytes_swap64) v

/-- An enumeration survives where it fits. -/
lemma carries_enum {v : ULWord} (h : v.toNat < 65536) :
    Carries (pushEnum host v) () (popEnum host) v := by
  have hback : (v.setWidth 16).setWidth 32 = v := by
    apply BitVec.eq_of_toNat_eq
    simp only [BitVec.toNat_setWidth]
    omega
  have hread := (carries_u16 host (v.setWidth 16)).map fun v16 => v16.setWidth 32
  rw [hback] at hread
  exact hread

end Carries

/-! ### Scalars are read safely -/

section Safe

variable {blob : List Byte} {i : ℕ} (host : Host)

lemma safe_word {w n : ℕ} {swap : BitVec w → BitVec w} :
    SafeFrom blob i (popWord w host n swap) :=
  (SafeFrom.bytes n).bind fun _ _ _ => SafeFrom.pure _

lemma safe_u8 : SafeFrom blob i popU8 := SafeFrom.byte

lemma safe_u16 : SafeFrom blob i (popU16 host) := safe_word host

lemma safe_u32 : SafeFrom blob i (popU32 host) := safe_word host

lemma safe_u64 : SafeFrom blob i (popU64 host) := safe_word host

lemma safe_enum : SafeFrom blob i (popEnum host) :=
  (safe_u16 host).bind fun _ _ _ => SafeFrom.pure _

end Safe

end LibAjaNtv2
