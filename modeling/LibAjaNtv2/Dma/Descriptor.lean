import Mathlib.Tactic
import Mathlib.Algebra.Order.Interval.Multiset
import LibAjaNtv2.Lib.Interval

/-!
Scatter-gather pieces of a host buffer and the descriptors of a transfer.

* `Piece`: one mapped piece of the host buffer, at its bus address;
* `hostAddress`: the bus address of a byte of the buffer;
* `Descriptor`: what one hardware descriptor moves, `Descriptor.bytes` byte for byte.
-/

namespace LibAjaNtv2

/-- A mapped piece of a host buffer: the bus address range that `dmaSgAddress` and `dmaSgLength`
give. -/
structure Piece where
  address : ℕ
  length : ℕ
  length_lt : length < 4294967296
  fits : address + length ≤ 18446744073709551616

/-- The bytes of a list of pieces. -/
def totalLength (pieces : List Piece) : ℕ := (pieces.map Piece.length).sum

/-- The bus address of byte `o` of a buffer whose pieces start at byte `b`. -/
def hostAddressFrom (b : ℕ) : List Piece → ℕ → Option ℕ
  | [], _ => none
  | piece :: pieces, o =>
      if o < b + piece.length then some (piece.address + (o - b))
      else hostAddressFrom (b + piece.length) pieces o

/-- The bus address of byte `o` of a buffer. -/
def hostAddress (pieces : List Piece) (o : ℕ) : Option ℕ := hostAddressFrom 0 pieces o

/-- A descriptor of the hardware: `descSize` bytes between a bus address and a card address. -/
structure Descriptor where
  systemAddress : ℕ
  cardAddress : ℕ
  descSize : ℕ
  deriving DecidableEq, Repr

/-- The bytes that a descriptor carries, as pairs of a bus address and a card address. -/
def Descriptor.byteList (d : Descriptor) : List (Option ℕ × ℕ) :=
  (List.range d.descSize).map fun t => (some (d.systemAddress + t), d.cardAddress + t)

/-- The bytes of a program of descriptors, in order. -/
def carriedList (ds : List Descriptor) : List (Option ℕ × ℕ) := ds.flatMap Descriptor.byteList

/-- The bytes of a program of descriptors, each as often as it is carried. -/
def carried (ds : List Descriptor) : Multiset (Option ℕ × ℕ) := (carriedList ds : Multiset _)

@[simp] lemma totalLength_nil : totalLength [] = 0 := rfl

@[simp] lemma totalLength_cons (piece : Piece) (pieces : List Piece) :
    totalLength (piece :: pieces) = piece.length + totalLength pieces := by
  simp [totalLength]

@[simp] lemma carried_nil : carried [] = 0 := rfl

lemma carried_append (ds ds' : List Descriptor) :
    carried (ds ++ ds') = carried ds + carried ds' := by
  simp [carried, carriedList]

lemma carried_cons (d : Descriptor) (ds : List Descriptor) :
    carried (d :: ds) = carried [d] + carried ds := carried_append [d] ds

lemma hostAddressFrom_of_lt {b o : ℕ} {piece : Piece} (pieces : List Piece)
    (h : o < b + piece.length) :
    hostAddressFrom b (piece :: pieces) o = some (piece.address + (o - b)) := if_pos h

lemma hostAddressFrom_of_le {b o : ℕ} {piece : Piece} (pieces : List Piece)
    (h : b + piece.length ≤ o) :
    hostAddressFrom b (piece :: pieces) o = hostAddressFrom (b + piece.length) pieces o :=
  if_neg (Nat.not_lt.mpr h)

/-- One descriptor carries the bytes of an interval of the buffer. -/
lemma carried_singleton {a card lo hi b : ℕ} (hlo : b ≤ lo) :
    carried [⟨a + (lo - b), card, hi - lo⟩] =
      (Multiset.Ico lo hi).map fun o => (some (a + (o - b)), card + (o - lo)) := by
  rcases Nat.lt_or_ge lo hi with h | h
  · have hhi : lo + (hi - lo) = hi := by omega
    conv_rhs => rw [← hhi, ← Interval.map_range_add, Multiset.map_map]
    simp only [carried, carriedList, Descriptor.byteList, List.flatMap_cons, List.flatMap_nil,
      List.append_nil]
    rw [← Multiset.map_coe, Multiset.coe_range]
    refine Multiset.map_congr rfl fun t _ => ?_
    simp only [Function.comp]
    rw [show lo + t - b = lo - b + t by omega, show lo + t - lo = t by omega, Nat.add_assoc]
  · rw [Multiset.Ico_eq_zero_of_le h, Nat.sub_eq_zero_of_le h]
    rfl

/-! ### Words -/

/-- The mask of whole words keeps the next lower multiple of four. -/
lemma toNat_and_words (x : UInt32) : (x &&& 0xfffffffc).toNat = x.toNat / 4 * 4 := by
  have hmask : (0xfffffffc : UInt32).toNat = (2 ^ 30 - 1) <<< 2 := by decide
  have hx : x.toNat < 2 ^ 32 := x.toNat_lt
  have hdiv : x.toNat / 4 * 4 = x.toNat >>> 2 <<< 2 := by
    rw [Nat.shiftRight_eq_div_pow, Nat.shiftLeft_eq]
  rw [UInt32.toNat_and, hmask, hdiv]
  refine Nat.eq_of_testBit_eq fun i => ?_
  simp only [Nat.testBit_and, Nat.testBit_shiftLeft, Nat.testBit_two_pow_sub_one,
    Nat.testBit_shiftRight]
  by_cases hlow : 2 ≤ i
  · rw [Nat.add_sub_cancel' hlow]
    by_cases hhigh : i < 32
    · simp [hlow, show i - 2 < 30 by omega]
    · rw [Nat.testBit_lt_two_pow (hx.trans_le (Nat.pow_le_pow_right (by decide) (by omega)))]
      simp
  · simp [hlow]

end LibAjaNtv2
