import Mathlib.Tactic

/-!
Writing values to a byte string and reading them back.

* `Encoder`, `Decoder`: computations that append to a byte string, and computations
  that move an index along one; `WireFault` is how the latter can end early;
* `Carries`: what an encoder writes, a decoder reads back, wherever it stands and
  whatever follows; `Carries.bind`: **codecs that carry their parts carry the whole**;
* `SafeFrom`: a decoder accesses no memory that is not its own and stays inside the
  string; `SafeFrom.bind`;
* `leBytes`, `leWord`: a word and its bytes, the least significant one first;
  `leWord_leBytes`.
-/

namespace LibAjaNtv2

/-- A byte. -/
abbrev Byte := BitVec 8

/-! ### Words and their bytes -/

/-- The bytes of a word, the least significant one first. -/
def leBytes {w : ℕ} : ℕ → BitVec w → List Byte
  | 0, _ => []
  | n + 1, v => v.setWidth 8 :: leBytes n (v >>> 8)

/-- The word with the given bytes, the least significant one first. -/
def leWord (w : ℕ) : List Byte → BitVec w
  | [] => 0
  | b :: bs => b.setWidth w ||| leWord w bs <<< 8

@[simp] lemma length_leBytes {w : ℕ} (n : ℕ) (v : BitVec w) : (leBytes n v).length = n := by
  induction n generalizing v with
  | zero => rfl
  | succ n ih => simp [leBytes, ih]

/-- A word is the word of its bytes, where these are enough. -/
lemma leWord_leBytes {w n : ℕ} (v : BitVec w) (h : v.toNat < 2 ^ (8 * n)) :
    leWord w (leBytes n v) = v := by
  induction n generalizing v with
  | zero =>
      have hv : v.toNat = 0 := by simpa using h
      rw [BitVec.eq_of_toNat_eq (x := v) (y := 0) (by simpa using hv)]
      rfl
  | succ n ih =>
      have hshift : (v >>> 8).toNat < 2 ^ (8 * n) := by
        rw [BitVec.toNat_ushiftRight, Nat.shiftRight_eq_div_pow]
        refine Nat.div_lt_of_lt_mul ?_
        rwa [← Nat.pow_add, show 8 + 8 * n = 8 * (n + 1) by omega]
      rw [leBytes, leWord, ih _ hshift]
      ext i hi
      by_cases hlow : i < 8
      · simp [hlow, hi]
      · simp [hlow, hi, show 8 + (i - 8) = i by omega]

/-- A word has no bits beyond its bytes. -/
lemma getLsbD_leWord {w : ℕ} (bs : List Byte) {i : ℕ} (h : 8 * bs.length ≤ i) :
    (leWord w bs).getLsbD i = false := by
  induction bs generalizing i with
  | nil => simp [leWord]
  | cons b bs ih =>
      rw [List.length_cons] at h
      rw [leWord, BitVec.getLsbD_or, BitVec.getLsbD_setWidth, BitVec.getLsbD_shiftLeft,
        ih (by omega), BitVec.getLsbD_of_ge b i (by omega)]
      simp

/-- Bytes are the bytes of their word, where the word has room for them. -/
lemma leBytes_leWord {w : ℕ} (bs : List Byte) (h : 8 * bs.length ≤ w) :
    leBytes bs.length (leWord w bs) = bs := by
  induction bs with
  | nil => rfl
  | cons b bs ih =>
      rw [List.length_cons] at h ⊢
      have hlow : (b.setWidth w ||| leWord w bs <<< 8).setWidth 8 = b := by
        ext i hi
        simp [hi, show i < w by omega]
      have hhigh : (b.setWidth w ||| leWord w bs <<< 8) >>> 8 = leWord w bs := by
        ext i hi
        by_cases hin : 8 + i < w
        · simp [hin]
        · have hout := getLsbD_leWord (w := w) bs (i := i) (by omega)
          rw [BitVec.getLsbD_eq_getElem hi] at hout
          simp [hin, hout]
      rw [leWord, leBytes, hlow, hhigh, ih (by omega)]

/-! ### Encoders -/

/-- A computation that appends to a byte string. -/
def Encoder (α : Type) : Type := List Byte → α × List Byte

instance : Monad Encoder where
  pure a := fun out => (a, out)
  bind e f := fun out => f (e out).1 (e out).2

/-- Bytes are appended. -/
def Encoder.append (bs : List Byte) : Encoder Unit := fun out => ((), out ++ bs)

/-- One encoder after the other, over a list. -/
def Encoder.each {α : Type} (e : α → Encoder Unit) : List α → Encoder Unit
  | [] => pure ()
  | a :: as => do
    e a
    Encoder.each e as

/-! ### Decoders -/

/-- How a decoder can end early: with an exception, or with an access to memory that is
not its own. -/
inductive WireFault where
  | outOfRange | overrun
  deriving DecidableEq, Repr

/-- A computation that moves an index along a byte string. -/
def Decoder (α : Type) : Type := List Byte → ℕ → Except WireFault (α × ℕ)

instance : Monad Decoder where
  pure a := fun _ i => .ok (a, i)
  bind p f := fun blob i =>
    match p blob i with
    | .ok (a, j) => f a blob j
    | .error fault => .error fault

/-- The byte at the index, with the check that it exists. -/
def Decoder.byte : Decoder Byte := fun blob i =>
  match blob[i]? with
  | some b => .ok (b, i + 1)
  | none => .error .outOfRange

/-- The next `n` bytes, each with the check that it exists. -/
def Decoder.bytes : ℕ → Decoder (List Byte)
  | 0 => pure []
  | n + 1 => do
    let b ← Decoder.byte
    let bs ← Decoder.bytes n
    return b :: bs

/-- Whether `n` more bytes are there. -/
def Decoder.fits (n : ℕ) : Decoder Bool := fun blob i => .ok (decide (i + n ≤ blob.length), i)

/-- `n` bytes are copied to a place of `room` bytes, with no check at all. -/
def Decoder.copy (room n : ℕ) : Decoder (List Byte) := fun blob i =>
  if i + n ≤ blob.length ∧ n ≤ room then .ok ((blob.drop i).take n, i + n)
  else .error .overrun

/-- One decoder `n` times. -/
def Decoder.times {α : Type} (p : Decoder α) : ℕ → Decoder (List α)
  | 0 => pure []
  | n + 1 => do
    let a ← p
    let as ← Decoder.times p n
    return a :: as

section Lib

variable {α β γ δ : Type}

lemma Encoder.bind_run {e : Encoder α} {f : α → Encoder β} (out : List Byte) :
    (e >>= f) out = f (e out).1 (e out).2 := rfl

lemma Encoder.pure_run (a : α) (out : List Byte) : (pure a : Encoder α) out = (a, out) := rfl

/-- One decoder after the other, where the first returns. -/
lemma Decoder.bind_ok {p : Decoder α} {f : α → Decoder β} {blob : List Byte} {i j : ℕ} {a : α}
    (h : p blob i = .ok (a, j)) : (p >>= f) blob i = f a blob j := by
  show (match p blob i with
    | .ok (a, j) => f a blob j
    | .error fault => .error fault) = _
  rw [h]

/-- One decoder after the other, where the first ends early. -/
lemma Decoder.bind_error {p : Decoder α} {f : α → Decoder β} {blob : List Byte} {i : ℕ}
    {fault : WireFault} (h : p blob i = .error fault) : (p >>= f) blob i = .error fault := by
  show (match p blob i with
    | .ok (a, j) => f a blob j
    | .error fault => .error fault) = _
  rw [h]

/-- Where one decoder after the other returns, both do. -/
lemma Decoder.bind_inv {p : Decoder α} {f : α → Decoder β} {blob : List Byte} {i : ℕ}
    {r : β × ℕ} (h : (p >>= f) blob i = .ok r) :
    ∃ a j, p blob i = .ok (a, j) ∧ f a blob j = .ok r := by
  cases hp : p blob i with
  | ok q => exact ⟨q.1, q.2, rfl, by rwa [Decoder.bind_ok hp] at h⟩
  | error fault =>
      rw [Decoder.bind_error hp] at h
      cases h

/-! ### What is written is read back -/

/-- What `e` writes, `p` reads back as `b`, wherever it stands and whatever follows; `e`
itself returns `a`. -/
def Carries (e : Encoder α) (a : α) (p : Decoder β) (b : β) : Prop :=
  ∃ bs : List Byte, (∀ out, e out = (a, out ++ bs)) ∧
    ∀ before after, p (before ++ bs ++ after) before.length = .ok (b, before.length + bs.length)

lemma Carries.pure (a : α) (b : β) : Carries (pure a) a (pure b) b :=
  ⟨[], fun out => by rw [List.append_nil]; rfl, fun _ _ => rfl⟩

/-- **Codecs that carry their parts carry the whole.** -/
lemma Carries.bind {e : Encoder α} {a : α} {f : α → Encoder γ} {c : γ} {p : Decoder β} {b : β}
    {g : β → Decoder δ} {d : δ} (h : Carries e a p b) (hrest : Carries (f a) c (g b) d) :
    Carries (e >>= f) c (p >>= g) d := by
  obtain ⟨bs, he, hp⟩ := h
  obtain ⟨cs, hf, hg⟩ := hrest
  refine ⟨bs ++ cs, fun out => ?_, fun before after => ?_⟩
  · show f (e out).1 (e out).2 = _
    rw [he]
    simpa using hf (out ++ bs)
  · have hread := hp before (cs ++ after)
    have hthen := hg (before ++ bs) after
    rw [List.length_append] at hthen
    rw [show before ++ (bs ++ cs) ++ after = before ++ bs ++ (cs ++ after) by simp,
      Decoder.bind_ok hread]
    simpa [Nat.add_assoc] using hthen

/-- The decoder may do more with what it has read. -/
lemma Carries.map {e : Encoder α} {a : α} {p : Decoder β} {b : β} (h : Carries e a p b)
    (f : β → γ) : Carries e a (p >>= fun x => Pure.pure (f x)) (f b) := by
  obtain ⟨bs, he, hp⟩ := h
  refine ⟨bs, he, fun before after => ?_⟩
  rw [Decoder.bind_ok (hp before after)]
  rfl

/-- A list is carried element by element. -/
lemma Carries.each {e : α → Encoder Unit} {p : Decoder α} (h : ∀ a, Carries (e a) () p a)
    (as : List α) : Carries (Encoder.each e as) () (Decoder.times p as.length) as := by
  induction as with
  | nil => exact Carries.pure () []
  | cons a as ih => exact (h a).bind (ih.map _)

/-- Checked bytes are read back. -/
lemma Carries.bytes (bs : List Byte) :
    Carries (Encoder.append bs) () (Decoder.bytes bs.length) bs := by
  refine ⟨bs, fun _ => rfl, fun before after => ?_⟩
  induction bs generalizing before with
  | nil => rfl
  | cons b bs ih =>
      have hbyte : Decoder.byte (before ++ b :: bs ++ after) before.length =
          .ok (b, before.length + 1) := by
        rw [Decoder.byte]
        simp
      have hrest := ih (before ++ [b])
      rw [List.length_append, List.length_singleton] at hrest
      have heq : before ++ b :: bs ++ after = before ++ [b] ++ bs ++ after := by simp
      rw [List.length_cons, Decoder.bytes, Decoder.bind_ok hbyte, heq, Decoder.bind_ok hrest]
      show Except.ok (b :: bs, _) = _
      rw [Nat.add_assoc, Nat.add_comm 1]

/-! ### Memory safety -/

/-- From index `i` on, the decoder accesses no memory that is not its own, and where it
returns, the index has not moved backward and lies inside the string if it has moved. -/
def SafeFrom (blob : List Byte) (i : ℕ) (p : Decoder α) : Prop :=
  match p blob i with
  | .ok (_, j) => i ≤ j ∧ (i < j → j ≤ blob.length)
  | .error fault => fault ≠ .overrun

variable {blob : List Byte} {i : ℕ}

lemma SafeFrom.pure (a : α) : SafeFrom blob i (pure a : Decoder α) :=
  ⟨le_rfl, fun h => absurd h (lt_irrefl _)⟩

/-- **Safe decoders compose.** -/
lemma SafeFrom.bind {p : Decoder α} {f : α → Decoder β} (h : SafeFrom blob i p)
    (hrest : ∀ a j, p blob i = .ok (a, j) → SafeFrom blob j (f a)) :
    SafeFrom blob i (p >>= f) := by
  rw [SafeFrom] at h ⊢
  cases hp : p blob i with
  | error fault =>
      rw [hp] at h
      rw [Decoder.bind_error hp]
      exact h
  | ok r =>
      rw [hp] at h
      have hthen := hrest r.1 r.2 hp
      rw [Decoder.bind_ok hp]
      rw [SafeFrom] at hthen
      cases hf : f r.1 blob r.2 with
      | error fault =>
          rw [hf] at hthen
          exact hthen
      | ok q =>
          rw [hf] at hthen
          obtain ⟨hle, hin⟩ := h
          obtain ⟨hle', hin'⟩ := hthen
          refine ⟨hle.trans hle', fun hlt => ?_⟩
          by_cases hmoved : r.2 < q.2
          · exact hin' hmoved
          · have heq : q.2 = r.2 := le_antisymm (not_lt.1 hmoved) hle'
            rw [heq] at hlt ⊢
            exact hin hlt

/-- A checked byte is safe. -/
lemma SafeFrom.byte : SafeFrom blob i Decoder.byte := by
  rw [SafeFrom, Decoder.byte]
  cases hb : blob[i]? with
  | none => simp
  | some b =>
      have hlt := (List.getElem?_eq_some_iff.1 hb).1
      exact ⟨Nat.le_succ i, fun _ => hlt⟩

lemma SafeFrom.bytes (n : ℕ) : SafeFrom blob i (Decoder.bytes n) := by
  induction n generalizing i with
  | zero => exact SafeFrom.pure []
  | succ n ih => exact SafeFrom.byte.bind fun b j _ => ih.bind fun bs k _ => SafeFrom.pure _

/-- A decoder never moves backward, and never beyond the end. -/
def Forward (p : Decoder α) : Prop :=
  ∀ blob i a j, p blob i = .ok (a, j) → i ≤ j ∧ (i < j → j ≤ blob.length)

/-- What is safe everywhere moves forward. -/
lemma Forward.of_safe {p : Decoder α} (h : ∀ blob i, SafeFrom blob i p) : Forward p := by
  intro blob i a j hp
  have hsafe := h blob i
  rw [SafeFrom, hp] at hsafe
  exact hsafe

lemma Forward.pure (a : α) : Forward (pure a : Decoder α) := Forward.of_safe fun _ _ => SafeFrom.pure a

lemma Forward.bind {p : Decoder α} {f : α → Decoder β} (h : Forward p)
    (hrest : ∀ a, Forward (f a)) : Forward (p >>= f) := by
  intro blob i b k hk
  obtain ⟨a, j, hp, hf⟩ := Decoder.bind_inv hk
  obtain ⟨hij, hj⟩ := h blob i a j hp
  obtain ⟨hjk, hk⟩ := hrest a blob j b k hf
  refine ⟨hij.trans hjk, fun _ => ?_⟩
  by_cases hmoved : j < k
  · exact hk hmoved
  · have heq : k = j := le_antisymm (not_lt.1 hmoved) hjk
    rw [heq]
    exact hj (by omega)

/-- Whether a decoder is safe depends on what follows the part that has returned. -/
lemma SafeFrom.bind_iff {p : Decoder α} {f : α → Decoder β} {a : α} {j : ℕ} (h : Forward p)
    (hp : p blob i = .ok (a, j)) (hf : Forward (f a)) :
    SafeFrom blob i (p >>= f) ↔ SafeFrom blob j (f a) := by
  obtain ⟨hij, hj⟩ := h blob i a j hp
  rw [SafeFrom, SafeFrom, Decoder.bind_ok hp]
  cases hrun : f a blob j with
  | error fault => rfl
  | ok r =>
      obtain ⟨hjk, hk⟩ := hf blob j r.1 r.2 hrun
      refine iff_of_true ⟨hij.trans hjk, fun _ => ?_⟩ ⟨hjk, hk⟩
      by_cases hmoved : j < r.2
      · exact hk hmoved
      · have heq : r.2 = j := le_antisymm (not_lt.1 hmoved) hjk
        rw [heq]
        exact hj (by omega)

/-- The first part of a safe decoder is safe. -/
lemma SafeFrom.of_bind {p : Decoder α} {f : α → Decoder β} (h : Forward p)
    (hsafe : SafeFrom blob i (p >>= f)) : SafeFrom blob i p := by
  rw [SafeFrom] at hsafe ⊢
  cases hp : p blob i with
  | error fault =>
      rw [Decoder.bind_error hp] at hsafe
      exact hsafe
  | ok r => exact h blob i r.1 r.2 hp

/-- What is done with a value in hand makes no difference. -/
lemma SafeFrom.map_iff {p : Decoder α} (f : α → β) :
    SafeFrom blob i (p >>= fun a => Pure.pure (f a)) ↔ SafeFrom blob i p := by
  rw [SafeFrom, SafeFrom]
  cases hp : p blob i with
  | error fault => rw [Decoder.bind_error hp]
  | ok r =>
      rw [Decoder.bind_ok hp]
      rfl

/-- Checked bytes, in one piece. -/
lemma Decoder.bytes_run {n : ℕ} (h : 0 < n) (blob : List Byte) (i : ℕ) :
    Decoder.bytes n blob i =
      if i + n ≤ blob.length then .ok ((blob.drop i).take n, i + n) else .error .outOfRange := by
  induction n generalizing i with
  | zero => omega
  | succ n ih =>
      rw [Decoder.bytes]
      by_cases hi : i < blob.length
      · have hbyte : Decoder.byte blob i = .ok (blob[i], i + 1) := by
          rw [Decoder.byte, List.getElem?_eq_getElem hi]
        rw [Decoder.bind_ok hbyte, List.drop_eq_getElem_cons hi, List.take_succ_cons]
        cases n with
        | zero =>
            rw [if_pos (by omega)]
            rfl
        | succ n =>
            have hrest := ih (by omega) (i + 1)
            split
            · rw [if_pos (by omega)] at hrest
              rw [Decoder.bind_ok hrest]
              show Except.ok (_, _) = _
              rw [Nat.add_assoc, Nat.add_comm 1]
            · rw [if_neg (by omega)] at hrest
              rw [Decoder.bind_error hrest]
      · have hbyte : Decoder.byte blob i = .error .outOfRange := by
          rw [Decoder.byte, List.getElem?_eq_none (by omega)]
        rw [Decoder.bind_error hbyte, if_neg (by omega)]

end Lib

end LibAjaNtv2
