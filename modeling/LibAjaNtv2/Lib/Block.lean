import Mathlib.Tactic

/-!
Blocks of memory, and what copies and fills leave in them.

* `Block`: the cells of a block and the ranges written to it, the latest one first;
* `Move`: one `memcpy` from a source block, or one `memset`; `Move.Inside`: it touches only
  cells of the two blocks;
* `Block.move`, `Block.run`: one move, and a list of them;
* `run_ne_none_iff`: **a list of moves runs exactly when every one stays inside**;
* `getElem?_run_of_agree`, `getElem?_run_of_untouched`, `getElem?_run_last`: what a cell holds
  after it;
* `writes_run`: how often a cell has been written;
* `Block.store`: a list of cells stored, and the slices before it, past it and of it;
* `Move.rows`: copies at even distances; `getElem?_run_rows`: **what their cells hold**;
* `Painted`: the cells before a position are as they should be and written once;
  `Painted.move`: **one more move carries it on**.
-/

namespace LibAjaNtv2

/-- A block of memory. -/
structure Block (α : Type*) where
  cells : List α
  written : List (ℕ × ℕ)
  deriving DecidableEq, Repr

/-- One transfer into a block: a `memcpy` of cells of a source block, or a `memset`. -/
inductive Move (α : Type*)
  | copy (dst src len : ℕ)
  | fill (dst len : ℕ) (v : α)
  deriving DecidableEq, Repr

namespace Move

variable {α : Type*}

/-- Where it writes. -/
def dst : Move α → ℕ
  | copy d _ _ => d
  | fill d _ _ => d

/-- How many cells it writes. -/
def len : Move α → ℕ
  | copy _ _ n => n
  | fill _ n _ => n

/-- What it writes. -/
def data (src : List α) : Move α → List α
  | copy _ s n => (src.drop s).take n
  | fill _ n v => List.replicate n v

/-- What it writes to one cell. -/
def value (src : List α) : Move α → ℕ → Option α
  | copy d s _, i => src[s + (i - d)]?
  | fill _ _ v, _ => some v

/-- It writes a cell. -/
def Covers (i : ℕ) (m : Move α) : Prop := m.dst ≤ i ∧ i < m.dst + m.len

instance (i : ℕ) : DecidablePred (Covers i : Move α → Prop) :=
  fun _ => inferInstanceAs (Decidable (_ ∧ _))

/-- It touches only cells of a source and a destination of these sizes. -/
def Inside (srcSize dstSize : ℕ) : Move α → Prop
  | copy d s n => n = 0 ∨ s + n ≤ srcSize ∧ d + n ≤ dstSize
  | fill d n _ => n = 0 ∨ d + n ≤ dstSize

instance (srcSize dstSize : ℕ) : DecidablePred (Inside srcSize dstSize : Move α → Prop)
  | copy _ _ _ => inferInstanceAs (Decidable (_ ∨ _))
  | fill _ _ _ => inferInstanceAs (Decidable (_ ∨ _))

variable {src : List α} {m : Move α} {dstSize : ℕ}

lemma Inside.dst_len (h : m.Inside src.length dstSize) : m.len = 0 ∨ m.dst + m.len ≤ dstSize := by
  cases m with
  | copy d s n => exact h.imp_right And.right
  | fill d n v => exact h

lemma Inside.length_data (h : m.Inside src.length dstSize) : (m.data src).length = m.len := by
  cases m with
  | copy d s n =>
      rw [data, List.length_take, List.length_drop, len]
      rcases h with h | h <;> omega
  | fill d n v => simp [data, len]

lemma Inside.getElem?_data (h : m.Inside src.length dstSize) {i : ℕ} (hi : m.Covers i) :
    (m.data src)[i - m.dst]? = m.value src i := by
  cases m with
  | copy d s n =>
      obtain ⟨hd, hn⟩ := hi
      simp only [dst, len] at hd hn
      rw [data, value, List.getElem?_take_of_lt (by simp only [dst]; omega), List.getElem?_drop]
      rfl
  | fill d n v =>
      obtain ⟨hd, hn⟩ := hi
      simp only [dst, len] at hd hn
      rw [data, value, List.getElem?_replicate, if_pos (by simp only [dst]; omega)]

end Move

namespace Block

variable {α : Type*} {src : List α} {b out : Block α} {m : Move α} {ms : List (Move α)} {i : ℕ}

/-- One move into a block; there is none where it would leave one of the blocks. -/
def move (src : List α) (b : Block α) (m : Move α) : Option (Block α) :=
  if m.Inside src.length b.cells.length then
    some ⟨b.cells.take m.dst ++ m.data src ++ b.cells.drop (m.dst + m.len),
      (m.dst, m.len) :: b.written⟩
  else none

/-- `memcpy` of `n` cells of a source block. -/
def memcpy (b : Block α) (d : ℕ) (src : List α) (s n : ℕ) : Option (Block α) :=
  b.move src (.copy d s n)

/-- `memset` of `n` cells. -/
def memset (b : Block α) (d : ℕ) (v : α) (n : ℕ) : Option (Block α) :=
  b.move [] (.fill d n v)

/-- One move after the other. -/
def run (src : List α) : List (Move α) → Block α → Option (Block α)
  | [], b => some b
  | m :: ms, b => (b.move src m).bind (run src ms)

/-- How often a cell has been written. -/
def writes (b : Block α) (i : ℕ) : ℕ := b.written.countP fun r => r.1 ≤ i ∧ i < r.1 + r.2

/-! ### One move -/

/-- Everything that a move does. -/
lemma move_eq_some_iff :
    b.move src m = some out ↔ m.Inside src.length b.cells.length ∧
      out = ⟨b.cells.take m.dst ++ m.data src ++ b.cells.drop (m.dst + m.len),
        (m.dst, m.len) :: b.written⟩ := by
  rw [move]
  split_ifs with h
  · simp [h, eq_comm]
  · simp [h]

/-- A move keeps the size. -/
lemma length_move (h : b.move src m = some out) : out.cells.length = b.cells.length := by
  obtain ⟨hinside, rfl⟩ := move_eq_some_iff.mp h
  have hdata := hinside.length_data
  have hroom := hinside.dst_len
  simp only [List.length_append, List.length_take, List.length_drop, hdata]
  omega

/-- A cell outside the range of a move stays. -/
lemma getElem?_move_of_not_covers (h : b.move src m = some out) (hi : ¬ m.Covers i) :
    out.cells[i]? = b.cells[i]? := by
  obtain ⟨hinside, rfl⟩ := move_eq_some_iff.mp h
  have hdata := hinside.length_data
  have hroom := hinside.dst_len
  rw [Move.Covers] at hi
  have hlength : (b.cells.take m.dst ++ m.data src ++
      b.cells.drop (m.dst + m.len)).length = b.cells.length := length_move h
  rcases Nat.lt_or_ge i b.cells.length with hin | hout
  · rcases Nat.lt_or_ge i m.dst with hlt | hge
    · rw [List.append_assoc, List.getElem?_append_left (by rw [List.length_take]; omega),
        List.getElem?_take_of_lt hlt]
    · have htake : (b.cells.take m.dst ++ m.data src).length = m.dst + m.len := by
        rw [List.length_append, List.length_take, hdata]
        omega
      rw [List.getElem?_append_right (by omega), List.getElem?_drop, htake]
      congr 1
      omega
  · rw [List.getElem?_eq_none hout, List.getElem?_eq_none (hlength.trans_le hout)]

/-- A cell in the range of a move holds what the move put there. -/
lemma getElem?_move_of_covers (h : b.move src m = some out) (hi : m.Covers i) :
    out.cells[i]? = m.value src i := by
  obtain ⟨hinside, rfl⟩ := move_eq_some_iff.mp h
  have hdata := hinside.length_data
  have hroom := hinside.dst_len
  obtain ⟨hd, hn⟩ := hi
  have htake : (b.cells.take m.dst).length = m.dst := by
    rw [List.length_take]
    omega
  rw [List.getElem?_append_left (by rw [List.length_append, htake, hdata]; omega),
    List.getElem?_append_right (by rw [htake]; exact hd), htake,
    hinside.getElem?_data ⟨hd, hn⟩]

/-- How often a move writes a cell. -/
lemma writes_move (h : b.move src m = some out) :
    out.writes i = b.writes i + if m.Covers i then 1 else 0 := by
  obtain ⟨-, rfl⟩ := move_eq_some_iff.mp h
  rw [writes, List.countP_cons]
  simp only [decide_eq_true_eq]
  rfl

/-! ### Runs of moves -/

@[simp] lemma run_nil : run src [] b = some b := rfl

/-- A run, split after its first moves. -/
lemma run_append (ms ms' : List (Move α)) :
    run src (ms ++ ms') b = (run src ms b).bind (run src ms') := by
  induction ms generalizing b with
  | nil => rfl
  | cons m ms ih =>
      rw [List.cons_append, run, run, Option.bind_assoc]
      exact congrArg _ (funext fun _ => ih)

lemma run_cons_eq_some_iff :
    run src (m :: ms) b = some out ↔
      ∃ mid, b.move src m = some mid ∧ run src ms mid = some out := by
  rw [run, Option.bind_eq_some_iff]

/-- A loop with one move in each round. -/
lemma foldlM_move_eq_run {β : Type*} (f : β → Move α) (l : List β) :
    l.foldlM (fun b x => b.move src (f x)) b = run src (l.map f) b := by
  induction l generalizing b with
  | nil => rfl
  | cons x l ih =>
      rw [List.foldlM_cons, List.map_cons, run]
      exact congrArg _ (funext fun _ => ih)

/-- A run keeps the size. -/
lemma length_run (h : run src ms b = some out) : out.cells.length = b.cells.length := by
  induction ms generalizing b with
  | nil =>
      cases h
      rfl
  | cons m ms ih =>
      obtain ⟨mid, hmid, hrest⟩ := run_cons_eq_some_iff.mp h
      rw [ih hrest, length_move hmid]

/-- **A run gets to its end exactly when every move stays inside the blocks.** -/
lemma run_ne_none_iff :
    run src ms b ≠ none ↔ ∀ m ∈ ms, m.Inside src.length b.cells.length := by
  induction ms generalizing b with
  | nil => simp
  | cons m ms ih =>
      rw [run, List.forall_mem_cons]
      by_cases hinside : m.Inside src.length b.cells.length
      · have hmid : b.move src m = some ⟨b.cells.take m.dst ++ m.data src ++
            b.cells.drop (m.dst + m.len), (m.dst, m.len) :: b.written⟩ :=
          move_eq_some_iff.mpr ⟨hinside, rfl⟩
        rw [hmid, Option.bind_some, ih, length_move hmid]
        exact (and_iff_right hinside).symm
      · rw [move, if_neg hinside, Option.bind_none]
        simp [hinside]

lemma exists_run (h : ∀ m ∈ ms, m.Inside src.length b.cells.length) :
    ∃ out, run src ms b = some out :=
  Option.ne_none_iff_exists'.mp (run_ne_none_iff.mpr h)

lemma inside_of_run (h : run src ms b = some out) :
    ∀ m ∈ ms, m.Inside src.length b.cells.length :=
  run_ne_none_iff.mp (by simp [h])

/-- How often a run writes a cell. -/
lemma writes_run (h : run src ms b = some out) :
    out.writes i = b.writes i + ms.countP fun m => m.Covers i := by
  induction ms generalizing b with
  | nil =>
      cases h
      rfl
  | cons m ms ih =>
      obtain ⟨mid, hmid, hrest⟩ := run_cons_eq_some_iff.mp h
      rw [ih hrest, writes_move hmid, List.countP_cons]
      simp only [decide_eq_true_eq]
      omega

/-- A cell that no move of a run covers stays. -/
lemma getElem?_run_of_untouched (h : run src ms b = some out) (hi : ∀ m ∈ ms, ¬ m.Covers i) :
    out.cells[i]? = b.cells[i]? := by
  induction ms generalizing b with
  | nil =>
      cases h
      rfl
  | cons m ms ih =>
      obtain ⟨mid, hmid, hrest⟩ := run_cons_eq_some_iff.mp h
      rw [List.forall_mem_cons] at hi
      rw [ih hrest hi.2, getElem?_move_of_not_covers hmid hi.1]

/-- **A cell holds what the moves over it put there**, where they agree. -/
lemma getElem?_run_of_agree {v : Option α} (h : run src ms b = some out)
    (hcovers : ∃ m ∈ ms, m.Covers i) (hagree : ∀ m ∈ ms, m.Covers i → m.value src i = v) :
    out.cells[i]? = v := by
  induction ms generalizing b with
  | nil => simp at hcovers
  | cons m ms ih =>
      obtain ⟨mid, hmid, hrest⟩ := run_cons_eq_some_iff.mp h
      rw [List.forall_mem_cons] at hagree
      by_cases hlater : ∃ m' ∈ ms, m'.Covers i
      · exact ih hrest hlater hagree.2
      · push Not at hlater
        have hfirst : m.Covers i := by
          obtain ⟨m', hm', hcov⟩ := hcovers
          cases List.mem_cons.mp hm' with
          | inl heq => exact heq ▸ hcov
          | inr hmem => exact absurd hcov (hlater m' hmem)
        rw [getElem?_run_of_untouched hrest hlater, getElem?_move_of_covers hmid hfirst,
          hagree.1 hfirst]

/-- **The last move over a cell wins.** -/
lemma getElem?_run_last {f : ℕ → Move α} {n j : ℕ}
    (h : run src ((List.range n).map f) b = some out) (hj : j < n) (hcov : (f j).Covers i)
    (hlater : ∀ k, j < k → k < n → ¬ (f k).Covers i) : out.cells[i]? = (f j).value src i := by
  induction n generalizing out with
  | zero => exact absurd hj (Nat.not_lt_zero j)
  | succ n ih =>
      rw [List.range_succ, List.map_append, run_append] at h
      obtain ⟨mid, hmid, hlast⟩ := Option.bind_eq_some_iff.mp h
      obtain ⟨out', hout', hnil⟩ := run_cons_eq_some_iff.mp hlast
      cases hnil
      rcases Nat.lt_succ_iff_lt_or_eq.mp hj with hlt | rfl
      · rw [getElem?_move_of_not_covers hout' (hlater n hlt (Nat.lt_succ_self n))]
        exact ih hmid hlt fun k hjk hk => hlater k hjk (by omega)
      · exact getElem?_move_of_covers hout' hcov

end Block

/-! ### Lists of cells stored -/

namespace Block

variable {α : Type*} {b out : Block α} {d m k : ℕ} {data : List α}

/-- A list of cells stored in a block. -/
def store (b : Block α) (d : ℕ) (data : List α) : Option (Block α) :=
  b.memcpy d data 0 data.length

lemma exists_store (h : d + data.length ≤ b.cells.length) : ∃ out, b.store d data = some out :=
  ⟨_, move_eq_some_iff.mpr ⟨.inr ⟨by omega, h⟩, rfl⟩⟩

/-- A cell after storing. -/
lemma getElem?_store (h : b.store d data = some out) (i : ℕ) :
    out.cells[i]? = if d ≤ i ∧ i < d + data.length then data[i - d]? else b.cells[i]? := by
  split_ifs with hi
  · have hcov : (Move.copy d 0 data.length : Move α).Covers i := hi
    rw [getElem?_move_of_covers h hcov, Move.value, Nat.zero_add]
  · exact getElem?_move_of_not_covers h hi

lemma drop_store (h : b.store d data = some out) (hm : d + data.length ≤ m) :
    out.cells.drop m = b.cells.drop m := by
  refine List.ext_getElem? fun i => ?_
  rw [List.getElem?_drop, List.getElem?_drop, getElem?_store h, if_neg (by omega)]

/-- What lies before the cells stored stays. -/
lemma slice_store_of_le (h : b.store d data = some out) (hm : m + k ≤ d) :
    (out.cells.drop m).take k = (b.cells.drop m).take k := by
  refine List.ext_getElem? fun i => ?_
  rw [List.getElem?_take, List.getElem?_take, List.getElem?_drop, List.getElem?_drop]
  split_ifs with hi
  · rw [getElem?_store h, if_neg (by omega)]
  · rfl

/-- The cells stored are there. -/
lemma slice_store_self (h : b.store d data = some out) :
    (out.cells.drop d).take data.length = data := by
  refine List.ext_getElem? fun i => ?_
  rw [List.getElem?_take, List.getElem?_drop]
  split_ifs with hi
  · rw [getElem?_store h, if_pos (by omega), Nat.add_sub_cancel_left]
  · rw [List.getElem?_eq_none (by omega)]

end Block

/-! ### Moves that do not meet -/

namespace Move

variable {α : Type*} {ms : List (Move α)} {i : ℕ}

/-- Each move writes past the ones before it. -/
def Ordered (ms : List (Move α)) : Prop := ms.Pairwise fun m m' => m.dst + m.len ≤ m'.dst

lemma countP_covers_le_one (h : Ordered ms) : (ms.countP fun m => m.Covers i) ≤ 1 := by
  induction ms with
  | nil => simp
  | cons m ms ih =>
      obtain ⟨hfirst, hrest⟩ := List.pairwise_cons.mp h
      rw [List.countP_cons]
      by_cases hcov : m.Covers i
      · have hnone : (ms.countP fun m => m.Covers i) = 0 := by
          refine List.countP_eq_zero.mpr fun m' hm' => ?_
          rw [decide_eq_true_eq]
          rintro ⟨hlow, -⟩
          exact absurd (hcov.2.trans_le ((hfirst m' hm').trans hlow)) (lt_irrefl i)
        simp [hnone, hcov]
      · simpa [hcov] using ih hrest

/-- A cell that ordered moves cover is written once. -/
lemma countP_covers_eq_one (h : Ordered ms) (hmem : ∃ m ∈ ms, m.Covers i) :
    (ms.countP fun m => m.Covers i) = 1 := by
  refine le_antisymm (countP_covers_le_one h) ?_
  obtain ⟨m, hm, hcov⟩ := hmem
  exact List.countP_pos_iff.mpr ⟨m, hm, by simpa using hcov⟩

lemma countP_covers_eq_zero (h : ∀ m ∈ ms, ¬ m.Covers i) :
    (ms.countP fun m => m.Covers i) = 0 :=
  List.countP_eq_zero.mpr fun m hm => by simpa using h m hm

/-- The copies of `h` rows of `n` cells, at a distance `dp` in the destination and `sp` in the
source. -/
def rows (d s dp sp n h : ℕ) : List (Move α) :=
  (List.range h).map fun j => .copy (d + j * dp) (s + j * sp) n

variable {d s dp sp n h : ℕ}

lemma forall_mem_rows {P : Move α → Prop} :
    (∀ m ∈ rows d s dp sp n h, P m) ↔ ∀ j < h, P (.copy (d + j * dp) (s + j * sp) n) := by
  simp [rows]

lemma exists_mem_rows {P : Move α → Prop} :
    (∃ m ∈ rows d s dp sp n h, P m) ↔ ∃ j < h, P (.copy (d + j * dp) (s + j * sp) n) := by
  simp [rows]

/-- Rows that fit their distance are ordered. -/
lemma ordered_rows (hn : n ≤ dp) : Ordered (rows d s dp sp n h : List (Move α)) := by
  refine List.pairwise_map.mpr (List.pairwise_lt_range.imp fun {j j'} hlt => ?_)
  have hstep : (j + 1) * dp ≤ j' * dp := Nat.mul_le_mul_right dp hlt
  simp only [dst, len]
  rw [Nat.add_mul, Nat.one_mul] at hstep
  omega

/-- A cell is in at most one row. -/
lemma eq_of_covers_rows {j j' : ℕ} (hn : n ≤ dp) (hj : d + j * dp ≤ i ∧ i < d + j * dp + n)
    (hj' : d + j' * dp ≤ i ∧ i < d + j' * dp + n) : j = j' := by
  obtain ⟨hlow, hhigh⟩ := hj
  obtain ⟨hlow', hhigh'⟩ := hj'
  rcases Nat.lt_trichotomy j j' with hlt | heq | hgt
  · have hstep : (j + 1) * dp ≤ j' * dp := Nat.mul_le_mul_right dp hlt
    rw [Nat.add_mul, Nat.one_mul] at hstep
    omega
  · exact heq
  · have hstep : (j' + 1) * dp ≤ j * dp := Nat.mul_le_mul_right dp hgt
    rw [Nat.add_mul, Nat.one_mul] at hstep
    omega

end Move

namespace Block

variable {α : Type*} {src : List α} {b out : Block α} {i j k d s dp sp n h : ℕ}

/-- **A row holds the cells of its source row.** -/
lemma getElem?_run_rows (hrun : run src (Move.rows d s dp sp n h) b = some out) (hn : n ≤ dp)
    (hj : j < h) (hk : k < n) : out.cells[d + j * dp + k]? = src[s + j * sp + k]? := by
  have hcell : d + j * dp ≤ d + j * dp + k ∧ d + j * dp + k < d + j * dp + n := by omega
  refine getElem?_run_of_agree hrun (Move.exists_mem_rows.mpr ⟨j, hj, hcell⟩) ?_
  refine Move.forall_mem_rows.mpr fun j' _ hcov => ?_
  cases Move.eq_of_covers_rows hn hcell hcov
  rw [Move.value, Nat.add_sub_cancel_left]

/-- Between the rows and around them nothing changes. -/
lemma getElem?_run_rows_of_ne (hrun : run src (Move.rows d s dp sp n h) b = some out)
    (hne : ∀ j < h, ∀ k < n, i ≠ d + j * dp + k) : out.cells[i]? = b.cells[i]? := by
  refine getElem?_run_of_untouched hrun (Move.forall_mem_rows.mpr fun j hj hcov => ?_)
  obtain ⟨hlow, hhigh⟩ := hcov
  simp only [Move.dst, Move.len] at hlow hhigh
  exact hne j hj (i - (d + j * dp)) (by omega) (by omega)

/-- A cell of a row is written once more. -/
lemma writes_run_rows (hrun : run src (Move.rows d s dp sp n h) b = some out) (hn : n ≤ dp)
    (hj : j < h) (hk : k < n) :
    out.writes (d + j * dp + k) = b.writes (d + j * dp + k) + 1 := by
  have hcell : d + j * dp ≤ d + j * dp + k ∧ d + j * dp + k < d + j * dp + n := by omega
  rw [writes_run hrun, Move.countP_covers_eq_one (Move.ordered_rows hn)]
  exact Move.exists_mem_rows.mpr ⟨j, hj, hcell⟩

/-- Between the rows and around them nothing is written. -/
lemma writes_run_rows_of_ne (hrun : run src (Move.rows d s dp sp n h) b = some out)
    (hne : ∀ j < h, ∀ k < n, i ≠ d + j * dp + k) : out.writes i = b.writes i := by
  rw [writes_run hrun, Move.countP_covers_eq_zero, Nat.add_zero]
  refine Move.forall_mem_rows.mpr fun j hj hcov => ?_
  obtain ⟨hlow, hhigh⟩ := hcov
  simp only [Move.dst, Move.len] at hlow hhigh
  exact hne j hj (i - (d + j * dp)) (by omega) (by omega)

lemma exists_run_rows (hsrc : ∀ j < h, s + j * sp + n ≤ src.length)
    (hdst : ∀ j < h, d + j * dp + n ≤ b.cells.length) :
    ∃ out, run src (Move.rows d s dp sp n h) b = some out :=
  exists_run (Move.forall_mem_rows.mpr fun j hj => .inr ⟨hsrc j hj, hdst j hj⟩)

/-! ### A copy made in pieces -/

lemma map_cells_move_congr {b' : Block α} (hcells : b.cells = b'.cells) (m : Move α) :
    (b.move src m).map cells = (b'.move src m).map cells := by
  rw [move, move, hcells]
  split_ifs <;> rfl

/-- One copy starts no later and ends no earlier than each of its `k` pieces. -/
lemma piece_le (hj : j < k) : j * n + n ≤ k * n := by
  have hle := Nat.mul_le_mul_right n hj
  rwa [Nat.succ_eq_add_one, Nat.add_mul, Nat.one_mul] at hle

/-- A copy stays inside the blocks exactly when its pieces do. -/
lemma forall_inside_pieces {srcSize dstSize : ℕ} :
    (∀ m ∈ (List.range k).map fun j => (.copy (d + j * n) (s + j * n) n : Move α),
      m.Inside srcSize dstSize) ↔ (.copy d s (k * n) : Move α).Inside srcSize dstSize := by
  constructor
  · intro hpieces
    rcases Nat.eq_zero_or_pos k with rfl | hk
    · exact .inl (Nat.zero_mul n)
    · have hlast := hpieces _ (List.mem_map.mpr ⟨k - 1, List.mem_range.mpr (by omega), rfl⟩)
      have hsplit : k * n = (k - 1) * n + n := by
        rw [← Nat.succ_mul, Nat.succ_eq_add_one, Nat.sub_add_cancel hk]
      rcases hlast with rfl | ⟨hsrc, hdst⟩
      · exact .inl (Nat.mul_zero k)
      · exact .inr ⟨by omega, by omega⟩
  · rintro hin m hm
    obtain ⟨j, hj, rfl⟩ := List.mem_map.mp hm
    have hle := @piece_le j k n (List.mem_range.mp hj)
    rcases hin with hzero | ⟨hsrc, hdst⟩
    · exact .inl (by omega)
    · exact .inr ⟨by omega, by omega⟩

/-- A cell that the copy covers is covered by one of its pieces. -/
lemma exists_covers_piece (hcov : (.copy d s (k * n) : Move α).Covers i) :
    ∃ j < k, (.copy (d + j * n) (s + j * n) n : Move α).Covers i := by
  obtain ⟨hlow, hhigh⟩ := hcov
  simp only [Move.dst, Move.len] at hlow hhigh
  have hn : 0 < n := Nat.pos_of_ne_zero fun hzero => by
    rw [hzero] at hhigh
    omega
  have hdivMod := Nat.div_add_mod' (i - d) n
  have hmod := Nat.mod_lt (i - d) hn
  refine ⟨(i - d) / n, (Nat.div_lt_iff_lt_mul hn).mpr (by omega), ?_, ?_⟩
  · simp only [Move.dst]
    omega
  · simp only [Move.dst, Move.len]
    omega

/-- **A range copied in `k` pieces of `n` cells** is the range copied at once. -/
lemma map_cells_run_pieces (b : Block α) (src : List α) (d s k n : ℕ) :
    (run src ((List.range k).map fun j => .copy (d + j * n) (s + j * n) n) b).map cells =
      (b.move src (.copy d s (k * n))).map cells := by
  by_cases hin : (.copy d s (k * n) : Move α).Inside src.length b.cells.length
  · obtain ⟨out, hout⟩ := exists_run (forall_inside_pieces.mpr hin)
    obtain ⟨out', hout'⟩ : ∃ out', b.move src (.copy d s (k * n)) = some out' :=
      ⟨_, move_eq_some_iff.mpr ⟨hin, rfl⟩⟩
    rw [hout, hout', Option.map_some, Option.map_some]
    refine congrArg some (List.ext_getElem? fun i => ?_)
    by_cases hcov : (.copy d s (k * n) : Move α).Covers i
    · obtain ⟨j, hj, hpiece⟩ := exists_covers_piece hcov
      rw [getElem?_move_of_covers hout' hcov]
      refine getElem?_run_of_agree hout
        ⟨_, List.mem_map.mpr ⟨j, List.mem_range.mpr hj, rfl⟩, hpiece⟩ fun m hm hcovers => ?_
      obtain ⟨j', -, rfl⟩ := List.mem_map.mp hm
      have hstart := hcovers.1
      simp only [Move.dst] at hstart
      rw [Move.value, Move.value]
      congr 1
      omega
    · rw [getElem?_move_of_not_covers hout' hcov]
      refine getElem?_run_of_untouched hout fun m hm hpiece => hcov ?_
      obtain ⟨j, hj, rfl⟩ := List.mem_map.mp hm
      have hle := @piece_le j k n (List.mem_range.mp hj)
      obtain ⟨hlow, hhigh⟩ := hpiece
      simp only [Move.dst, Move.len] at hlow hhigh
      exact ⟨by simp only [Move.dst]; omega, by simp only [Move.dst, Move.len]; omega⟩
  · have hnone : run src ((List.range k).map fun j => .copy (d + j * n) (s + j * n) n) b = none :=
      Option.eq_none_iff_forall_ne_some.mpr fun out hout =>
        hin (forall_inside_pieces.mp (inside_of_run hout))
    rw [hnone, move, if_neg hin]

/-! ### Blocks that are written from start to end -/

/-- The first `n` cells of a block have their final contents and have been written once. -/
structure Painted (want : ℕ → Option α) (b₀ b : Block α) (n : ℕ) : Prop where
  length_eq : b.cells.length = b₀.cells.length
  cells_eq : ∀ i < n, b.cells[i]? = want i
  writes_eq : ∀ i < n, b.writes i = b₀.writes i + 1
  rest_eq : ∀ i, n ≤ i → b.writes i = b₀.writes i

variable {want : ℕ → Option α} {b₀ : Block α} {m : Move α}

lemma Painted.refl : Painted want b₀ b₀ 0 :=
  ⟨rfl, fun _ hi => absurd hi (Nat.not_lt_zero _), fun _ hi => absurd hi (Nat.not_lt_zero _),
    fun _ _ => rfl⟩

/-- **One more move**, where the last one ended. -/
lemma Painted.move (h : Painted want b₀ b n) (src : List α) (hdst : m.dst = n)
    (hinside : m.Inside src.length b₀.cells.length)
    (hvalue : ∀ i, n ≤ i → i < n + m.len → m.value src i = want i) :
    ∃ out, b.move src m = some out ∧ Painted want b₀ out (n + m.len) := by
  have hout := move_eq_some_iff.mpr (And.intro (h.length_eq ▸ hinside) (Eq.refl
    (Block.mk (b.cells.take m.dst ++ m.data src ++ b.cells.drop (m.dst + m.len))
      ((m.dst, m.len) :: b.written))))
  refine ⟨_, hout, by rw [length_move hout, h.length_eq], fun i hi => ?_, fun i hi => ?_,
    fun i hi => ?_⟩
  · rcases Nat.lt_or_ge i n with hlt | hge
    · rw [getElem?_move_of_not_covers hout fun hcov => ?_, h.cells_eq i hlt]
      have hlow := hcov.1
      omega
    · rw [getElem?_move_of_covers hout ⟨hdst.trans_le hge, hdst ▸ hi⟩, hvalue i hge hi]
  · rcases Nat.lt_or_ge i n with hlt | hge
    · rw [writes_move hout, if_neg fun hcov => ?_, h.writes_eq i hlt]
      have hlow := hcov.1
      omega
    · rw [writes_move hout, if_pos ⟨hdst.trans_le hge, hdst ▸ hi⟩, h.rest_eq i hge]
  · rw [writes_move hout, if_neg fun hcov => ?_, h.rest_eq i (by omega), Nat.add_zero]
    have hhigh := hcov.2
    omega

end Block

end LibAjaNtv2
