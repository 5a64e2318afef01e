import Mathlib.Tactic

/-!
Loops that a counter of machine words goes through, the cells that their rounds append, and the
state that they change.

* `Counted.loop`: a counter that goes up by a step while it is below a limit;
* `Counted.loop_eq`: **the loop ends with the cells of all its rounds** when the counter reaches
  its limit before it wraps;
* `Counted.loop_diverges`: **it never ends** when no multiple of a divisor of the step reaches the
  limit;
* `Counted.flatMap_range_chunks`: chunks of the same size in a row;
* `Counted.run`: the loop with a state; `Counted.run_invariant`: **it ends with what its rounds
  keep**; `Counted.run_mono`: more fuel changes nothing.
-/

namespace LibAjaNtv2

namespace Counted

variable {w : ℕ} {α : Type*}

/-- `for (count = 0; count < limit; count += step)`, from a round on: the body appends cells, or
fails. There is no result without fuel. -/
def loop (step limit : ℕ) (body : ℕ → BitVec w → Option (List α)) :
    ℕ → ℕ → BitVec w → List α → Option (List α)
  | 0, _, _, _ => none
  | fuel + 1, round, count, out =>
      if count.toNat < limit then do
        let cells ← body round count
        loop step limit body fuel (round + 1) (count + BitVec.ofNat w step) (out ++ cells)
      else some out

/-- After so many rounds the counter has reached its limit, and it has not wrapped. -/
structure Ends (w step limit rounds : ℕ) : Prop where
  limit_le : limit ≤ step * rounds
  lt_limit : ∀ round < rounds, step * round < limit
  fits : step * rounds < 2 ^ w

variable {step limit rounds : ℕ} {body : ℕ → BitVec w → Option (List α)} {cells : ℕ → List α}

/-- How many rounds it takes, while their steps fit the counter. -/
lemma ends_div (hstep : 0 < step) (hfits : step * ((limit + step - 1) / step) < 2 ^ w) :
    Ends w step limit ((limit + step - 1) / step) := by
  refine ⟨?_, fun round hround => ?_, hfits⟩
  · have hmod := Nat.div_add_mod (limit + step - 1) step
    have hlt := Nat.mod_lt (limit + step - 1) hstep
    omega
  · have hmul := (Nat.le_div_iff_mul_le hstep).mp (Nat.succ_le_of_lt hround)
    rw [Nat.succ_mul, Nat.mul_comm] at hmul
    omega

/-- **A loop that ends** has the cells of its rounds, given more fuel than there are rounds. -/
lemma loop_eq (h : Ends w step limit rounds)
    (hbody : ∀ round < rounds, body round (BitVec.ofNat w (step * round)) = some (cells round))
    {fuel round : ℕ} {out : List α} (hround : round ≤ rounds) :
    loop step limit body fuel round (BitVec.ofNat w (step * round)) out =
      if rounds - round < fuel then
        some (out ++ (List.range' round (rounds - round)).flatMap cells)
      else none := by
  induction fuel generalizing round out with
  | zero => rfl
  | succ fuel ih =>
      have hcount : (BitVec.ofNat w (step * round)).toNat = step * round := by
        rw [BitVec.toNat_ofNat]
        exact Nat.mod_eq_of_lt ((Nat.mul_le_mul_left step hround).trans_lt h.fits)
      rw [loop, hcount]
      rcases Nat.eq_or_lt_of_le hround with rfl | hlt
      · rw [if_neg (not_lt.mpr h.limit_le), Nat.sub_self, if_pos (Nat.succ_pos fuel)]
        simp
      · have hnext : BitVec.ofNat w (step * round) + BitVec.ofNat w step =
            BitVec.ofNat w (step * (round + 1)) := by
          rw [← BitVec.ofNat_add, Nat.mul_succ]
        have hrange : rounds - round = (rounds - (round + 1)) + 1 := by omega
        rw [if_pos (h.lt_limit round hlt), hbody round hlt, Option.bind_eq_bind, Option.bind_some,
          hnext, ih hlt, hrange, List.range'_succ, List.flatMap_cons, List.append_assoc]
        simp only [Nat.succ_lt_succ_iff]

/-- A loop that ends, from its start. -/
lemma loop_start (h : Ends w step limit rounds)
    (hbody : ∀ round < rounds, body round (BitVec.ofNat w (step * round)) = some (cells round))
    (fuel : ℕ) :
    loop step limit body fuel 0 0 [] =
      if rounds < fuel then some ((List.range rounds).flatMap cells) else none := by
  have hloop := @loop_eq w α step limit rounds body cells h hbody fuel 0 [] (Nat.zero_le rounds)
  rw [Nat.mul_zero, Nat.sub_zero, List.nil_append, ← List.range_eq_range'] at hloop
  exact hloop

/-- **A loop whose counter cannot reach its limit** has no result. -/
lemma loop_diverges {d : ℕ} (hstep : d ∣ step) (hword : d ∣ 2 ^ w)
    (hlimit : 2 ^ w < limit + d) {fuel round : ℕ} {count : BitVec w} {out : List α}
    (hcount : d ∣ count.toNat) : loop step limit body fuel round count out = none := by
  induction fuel generalizing round count out with
  | zero => rfl
  | succ fuel ih =>
      have hlt : count.toNat < limit := by
        have hbelow : count.toNat + d ≤ 2 ^ w := by
          obtain ⟨k, hk⟩ := hcount
          obtain ⟨n, hn⟩ := hword
          have hkn : k < n := by
            have hcountLt := count.isLt
            rw [hk, hn] at hcountLt
            exact lt_of_mul_lt_mul_left hcountLt (Nat.zero_le d)
          calc count.toNat + d = d * (k + 1) := by rw [hk]; ring
            _ ≤ d * n := Nat.mul_le_mul_left d hkn
            _ = 2 ^ w := hn.symm
        omega
      rw [loop, if_pos hlt]
      cases hbody : body round count with
      | none => rfl
      | some cells =>
          refine ih ?_
          rw [BitVec.toNat_add, BitVec.toNat_ofNat, Nat.add_mod_mod]
          exact (Nat.dvd_mod_iff hword).mpr (Nat.dvd_add hcount hstep)

/-- Chunks of the same size are the cells in a row. -/
lemma flatMap_range_chunks {β : Type*} (size : ℕ) (f : ℕ → β) (n : ℕ) :
    (List.range n).flatMap (fun k => (List.range size).map fun j => f (size * k + j)) =
      (List.range (size * n)).map f := by
  induction n with
  | zero => simp
  | succ n ih =>
      rw [List.range_succ, List.flatMap_append, ih, List.flatMap_singleton, Nat.mul_succ,
        List.range_add, List.map_append, List.map_map]
      rfl

/-! ### Loops with a state -/

variable {σ : Type*}

/-- `for (count = 0; count < limit; count += step)`, from a count on: the body changes a state, or
fails. There is no result without fuel. -/
def run (step limit : ℕ) (body : BitVec w → σ → Option σ) : ℕ → BitVec w → σ → Option σ
  | 0, _, _ => none
  | fuel + 1, count, s =>
      if count.toNat < limit then
        (body count s).bind (run step limit body fuel (count + BitVec.ofNat w step))
      else some s

variable {change : BitVec w → σ → Option σ} {P : ℕ → σ → Prop}

/-- **What every round keeps** holds at the end of a loop that ends. -/
lemma run_invariant (h : Ends w step limit rounds)
    (hbody : ∀ round < rounds, ∀ s, P round s →
      ∃ s', change (BitVec.ofNat w (step * round)) s = some s' ∧ P (round + 1) s')
    {fuel round : ℕ} {s : σ} (hround : round ≤ rounds) (hfuel : rounds - round < fuel)
    (hs : P round s) :
    ∃ out, run step limit change fuel (BitVec.ofNat w (step * round)) s = some out ∧
      P rounds out := by
  induction fuel generalizing round s with
  | zero => exact absurd hfuel (Nat.not_lt_zero _)
  | succ fuel ih =>
      have hcount : (BitVec.ofNat w (step * round)).toNat = step * round := by
        rw [BitVec.toNat_ofNat]
        exact Nat.mod_eq_of_lt ((Nat.mul_le_mul_left step hround).trans_lt h.fits)
      rw [run, hcount]
      rcases Nat.eq_or_lt_of_le hround with rfl | hlt
      · exact ⟨s, if_neg (not_lt.mpr h.limit_le), hs⟩
      · obtain ⟨s', hchange, hs'⟩ := hbody round hlt s hs
        have hnext : BitVec.ofNat w (step * round) + BitVec.ofNat w step =
            BitVec.ofNat w (step * (round + 1)) := by
          rw [← BitVec.ofNat_add, Nat.mul_succ]
        rw [if_pos (h.lt_limit round hlt), hchange, Option.bind_some, hnext]
        exact ih hlt (by omega) hs'

/-- A loop that ends, from its start. -/
lemma run_start (h : Ends w step limit rounds)
    (hbody : ∀ round < rounds, ∀ s, P round s →
      ∃ s', change (BitVec.ofNat w (step * round)) s = some s' ∧ P (round + 1) s')
    {s : σ} (hs : P 0 s) :
    ∃ out, run step limit change (rounds + 1) 0#w s = some out ∧ P rounds out :=
  run_invariant h hbody (Nat.zero_le _) (by omega) hs

/-- More fuel changes nothing. -/
lemma run_mono {fuel fuel' : ℕ} {count : BitVec w} {s out : σ}
    (h : run step limit change fuel count s = some out) (hle : fuel ≤ fuel') :
    run step limit change fuel' count s = some out := by
  induction fuel generalizing fuel' count s with
  | zero => exact absurd h (Option.some_ne_none out).symm
  | succ fuel ih =>
      obtain ⟨fuel', rfl⟩ : ∃ k, fuel' = k + 1 := ⟨fuel' - 1, by omega⟩
      rw [run] at h ⊢
      split_ifs at h ⊢ with hlt
      · obtain ⟨s', hchange, hrest⟩ := Option.bind_eq_some_iff.mp h
        rw [hchange, Option.bind_some]
        exact ih hrest (by omega)
      · exact h

end Counted

end LibAjaNtv2
