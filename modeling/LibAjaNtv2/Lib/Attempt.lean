import Mathlib.Tactic

/-!
Computations on a state that may fail, and keep the state that they failed in.

* `except_bind_ok_iff`, `except_bind_error`, `mapM_eq_some`, `mapM_eq_none`: computations that may
  fail, without a state;
* `Attempt`: such a computation, with `fail`, `lift`, `get` and `modify`;
* `Attempt.bind_ok_iff`, `lift_ok_iff`, …: **when each succeeds, and with what state**;
* `Attempt.Ends`: a computation that succeeds exactly under a condition; `Attempt.Ends.bind`: **one
  after the other**;
* `Attempt.Sound`: a property of the state that is kept, and one of the errors;
* `Attempt.Sound.bind`: **what is sound one after the other**.
-/

namespace LibAjaNtv2

lemma except_ok_bind {ε α β : Type} (a : α) (f : α → Except ε β) : (.ok a >>= f) = f a := rfl

/-- One computation that may fail after the other succeeds where both do. -/
lemma except_bind_ok_iff {ε α β : Type} {x : Except ε α} {f : α → Except ε β} {b : β} :
    (x >>= f) = .ok b ↔ ∃ a, x = .ok a ∧ f a = .ok b := by
  cases x with
  | ok a =>
      refine ⟨fun h => ⟨a, rfl, h⟩, ?_⟩
      rintro ⟨a', ha, h⟩
      obtain rfl := Except.ok.inj ha
      exact h
  | error e =>
      constructor
      · intro h
        cases h
      · rintro ⟨a', ha, -⟩
        cases ha

/-- An error of one computation after the other is one of either. -/
lemma except_bind_error {ε α β : Type} {x : Except ε α} {f : α → Except ε β} {e : ε}
    (h : (x >>= f) = .error e) : x = .error e ∨ ∃ a, x = .ok a ∧ f a = .error e := by
  cases x with
  | ok a => exact .inr ⟨a, rfl, h⟩
  | error e' =>
      cases h
      exact .inl rfl

/-- Values that are all there. -/
lemma mapM_eq_some {α β : Type} {f : α → Option β} {g : α → β} {l : List α}
    (h : ∀ a ∈ l, f a = some (g a)) : l.mapM f = some (l.map g) := by
  induction l with
  | nil => rfl
  | cons a l ih =>
      obtain ⟨ha, hl⟩ := List.forall_mem_cons.mp h
      rw [List.mapM_cons, ha, ih hl]
      rfl

/-- One value is missing. -/
lemma mapM_eq_none {α β : Type} {f : α → Option β} {l : List α} {a : α} (ha : a ∈ l)
    (hnone : f a = none) : l.mapM f = none := by
  induction l with
  | nil => cases ha
  | cons b l ih =>
      rw [List.mapM_cons]
      rcases List.mem_cons.mp ha with rfl | ha
      · rw [hnone]
        rfl
      · rw [ih ha]
        cases f b <;> rfl

/-- A computation on a state that returns a value or fails. -/
def Attempt (σ ε α : Type) : Type := σ → Except ε α × σ

namespace Attempt

variable {σ ε α β : Type}

instance : Monad (Attempt σ ε) where
  pure a := fun s => (.ok a, s)
  bind x f := fun s =>
    match x s with
    | (.ok a, s') => f a s'
    | (.error e, s') => (.error e, s')

/-- Fails. -/
def fail (e : ε) : Attempt σ ε α := fun s => (.error e, s)

/-- A computation without a state. -/
def lift (x : Except ε α) : Attempt σ ε α := fun s => (x, s)

/-- A value that may be missing. -/
def option (e : ε) (x : Option α) : Attempt σ ε α := fun s =>
  match x with
  | some a => (.ok a, s)
  | none => (.error e, s)

/-- The state. -/
def get : Attempt σ ε σ := fun s => (.ok s, s)

/-- Changes the state. -/
def modify (f : σ → σ) : Attempt σ ε Unit := fun s => (.ok (), f s)

/-- Fails unless a condition is met. -/
def require (p : Prop) [Decidable p] (e : ε) : Attempt σ ε Unit :=
  if p then pure () else fail e

section Success

variable {s s' : σ} {a : α} {b : β} {e : ε}

/-- One after the other, where the first succeeds. -/
lemma bind_ok {x : Attempt σ ε α} {f : α → Attempt σ ε β} (h : x s = (.ok a, s')) :
    (x >>= f) s = f a s' := by
  show (match x s with
    | (.ok a, s') => f a s'
    | (.error e, s') => (.error e, s')) = _
  rw [h]

/-- One after the other, where the first fails. -/
lemma bind_error {x : Attempt σ ε α} {f : α → Attempt σ ε β} (h : x s = (.error e, s')) :
    (x >>= f) s = (.error e, s') := by
  show (match x s with
    | (.ok a, s') => f a s'
    | (.error e, s') => (.error e, s')) = _
  rw [h]

/-- **One after the other succeeds** where both do. -/
lemma bind_ok_iff {x : Attempt σ ε α} {f : α → Attempt σ ε β} :
    (x >>= f) s = (.ok b, s') ↔ ∃ a t, x s = (.ok a, t) ∧ f a t = (.ok b, s') := by
  constructor
  · intro h
    rcases hx : x s with ⟨e | a, t⟩
    · rw [bind_error hx] at h
      cases h
    · exact ⟨a, t, rfl, by rwa [bind_ok hx] at h⟩
  · rintro ⟨a, t, hx, hf⟩
    rw [bind_ok hx, hf]

lemma lift_ok_iff {x : Except ε α} :
    (lift x : Attempt σ ε α) s = (.ok a, s') ↔ x = .ok a ∧ s = s' := by
  rw [lift, Prod.mk.injEq]

lemma option_some : (option e (some a) : Attempt σ ε α) s = (.ok a, s) := rfl

lemma option_none : (option e none : Attempt σ ε α) s = (.error e, s) := rfl

lemma get_ok_iff {t : σ} : (get : Attempt σ ε σ) s = (.ok t, s') ↔ s = t ∧ s = s' := by
  rw [get, Prod.mk.injEq, Except.ok.injEq]

lemma modify_ok_iff {f : σ → σ} {u : Unit} :
    (modify f : Attempt σ ε Unit) s = (.ok u, s') ↔ f s = s' := by
  rw [modify, Prod.mk.injEq, Except.ok.injEq]
  exact and_iff_right rfl

lemma modify_bind {f : σ → σ} {g : Unit → Attempt σ ε β} : (modify f >>= g) s = g () (f s) := rfl

lemma pure_ok_iff {a' : α} : (pure a : Attempt σ ε α) s = (.ok a', s') ↔ a = a' ∧ s = s' := by
  show ((.ok a : Except ε α), s) = _ ↔ _
  rw [Prod.mk.injEq, Except.ok.injEq]

lemma fail_ok_iff : ¬ (fail e : Attempt σ ε α) s = (.ok a, s') := by
  rw [fail, Prod.mk.injEq]
  exact fun h => by cases h.1

lemma require_ok_iff {p : Prop} [Decidable p] {u : Unit} :
    (require p e : Attempt σ ε Unit) s = (.ok u, s') ↔ p ∧ s = s' := by
  rw [require]
  split
  · next hp => exact pure_ok_iff.trans ⟨fun h => ⟨hp, h.2⟩, fun h => ⟨rfl, h.2⟩⟩
  · next hp => exact iff_of_false fail_ok_iff fun h => hp h.1

lemma require_bind {p : Prop} [Decidable p] {g : Unit → Attempt σ ε β} (hp : p) :
    (require p e >>= g) s = g () s := by
  rw [bind_ok (require_ok_iff.mpr ⟨hp, rfl⟩)]

end Success

/-! ### Where a computation ends well -/

/-- A computation succeeds exactly under a condition, and then with a value and a state. -/
structure Ends (x : Attempt σ ε α) (s : σ) (ok : Prop) (a : α) (s' : σ) : Prop where
  good : ok → x s = (.ok a, s')
  bad : ¬ ok → ∃ e, (x s).1 = .error e

section Ends

variable {s s' s'' : σ} {ok ok' : Prop} {a : α} {b : β}

lemma Ends.congr {x : Attempt σ ε α} (h : Ends x s ok a s') (hok : ok ↔ ok') :
    Ends x s ok' a s' :=
  ⟨fun h' => h.good (hok.2 h'), fun h' => h.bad fun hyes => h' (hok.1 hyes)⟩

lemma Ends.pure (a : α) : Ends (Pure.pure a : Attempt σ ε α) s True a s :=
  ⟨fun _ => rfl, fun h => absurd trivial h⟩

/-- **One after the other ends well** where both do. -/
lemma Ends.bind {x : Attempt σ ε α} {f : α → Attempt σ ε β} (hx : Ends x s ok a s')
    (hf : Ends (f a) s' ok' b s'') : Ends (x >>= f) s (ok ∧ ok') b s'' := by
  constructor
  · rintro ⟨hok, hok'⟩
    rw [bind_ok (hx.good hok), hf.good hok']
  · intro hno
    by_cases hok : ok
    · obtain ⟨e, he⟩ := hf.bad fun hok' => hno ⟨hok, hok'⟩
      exact ⟨e, by rw [bind_ok (hx.good hok), he]⟩
    · obtain ⟨e, he⟩ := hx.bad hok
      rcases hxs : x s with ⟨e' | a', t⟩
      · exact ⟨e', by rw [bind_error hxs]⟩
      · rw [hxs] at he
        cases he

lemma Ends.modify {f : Attempt σ ε β} {g : σ → σ} (hf : Ends f (g s) ok b s') :
    Ends (Attempt.modify g >>= fun _ => f) s ok b s' := ⟨hf.good, hf.bad⟩

end Ends

/-! ### What is kept -/

/-- From a state, a property of states is kept, and every error has a property. -/
structure Sound (P : σ → Prop) (Q : ε → Prop) (x : Attempt σ ε α) (s : σ) : Prop where
  keeps : P (x s).2
  errors : ∀ e, (x s).1 = .error e → Q e

section Sound

variable {P : σ → Prop} {Q : ε → Prop} {s : σ}

/-- **One after the other** is sound where the second is on what the first leaves. -/
lemma Sound.bind {x : Attempt σ ε α} {f : α → Attempt σ ε β} (hx : Sound P Q x s)
    (hf : ∀ a t, x s = (.ok a, t) → P t → Sound P Q (f a) t) : Sound P Q (x >>= f) s := by
  rcases h : x s with ⟨e | a, t⟩
  · refine ⟨?_, fun e' he' => ?_⟩
    · rw [bind_error h]
      simpa only [h] using hx.keeps
    · rw [bind_error h] at he'
      cases he'
      exact hx.errors e (by rw [h])
  · have hkeep : P t := by simpa only [h] using hx.keeps
    obtain ⟨hkeeps, herrors⟩ := hf a t h hkeep
    exact ⟨by rwa [bind_ok h], by rwa [bind_ok h]⟩

lemma Sound.pure (a : α) (hs : P s) : Sound P Q (Pure.pure a : Attempt σ ε α) s :=
  ⟨hs, fun e h => by cases h⟩

lemma Sound.fail {e : ε} (hs : P s) (he : Q e) : Sound P Q (Attempt.fail e : Attempt σ ε α) s :=
  ⟨hs, fun e' h => by
    cases h
    exact he⟩

lemma Sound.lift {x : Except ε α} (hs : P s) (hx : ∀ e, x = .error e → Q e) :
    Sound P Q (Attempt.lift x) s := ⟨hs, hx⟩

lemma Sound.get (hs : P s) : Sound P Q (Attempt.get : Attempt σ ε σ) s :=
  ⟨hs, fun e h => by cases h⟩

lemma Sound.modify {f : σ → σ} (hs : P (f s)) : Sound P Q (Attempt.modify f) s :=
  ⟨hs, fun e h => by cases h⟩

lemma Sound.require {p : Prop} [Decidable p] {e : ε} (hs : P s) (he : Q e) :
    Sound P Q (Attempt.require p e) s := by
  unfold Attempt.require
  split
  · exact Sound.pure _ hs
  · exact Sound.fail hs he

/-- What follows a computation without a state. -/
lemma Sound.lift_bind {x : Except ε α} {f : α → Attempt σ ε β} (hs : P s)
    (hx : ∀ e, x = .error e → Q e) (hf : ∀ a, x = .ok a → Sound P Q (f a) s) :
    Sound P Q (Attempt.lift x >>= f) s := by
  refine (Sound.lift hs hx).bind fun a t h _ => ?_
  obtain ⟨ha, rfl⟩ := lift_ok_iff.mp h
  exact hf a ha

/-- What follows a change of the state. -/
lemma Sound.modify_bind {g : σ → σ} {f : Unit → Attempt σ ε β} (hs : P (g s))
    (hf : Sound P Q (f ()) (g s)) : Sound P Q (Attempt.modify g >>= f) s := by
  refine (Sound.modify hs).bind fun a t h _ => ?_
  obtain rfl := modify_ok_iff.mp h
  exact hf

/-- What follows a look at the state. -/
lemma Sound.get_bind {f : σ → Attempt σ ε β} (hs : P s) (hf : Sound P Q (f s) s) :
    Sound P Q (Attempt.get >>= f) s := by
  refine (Sound.get hs).bind fun a t h _ => ?_
  obtain ⟨rfl, rfl⟩ := get_ok_iff.mp h
  exact hf

/-- What follows a condition. -/
lemma Sound.require_bind {p : Prop} [Decidable p] {e : ε} {f : Unit → Attempt σ ε β} (hs : P s)
    (he : Q e) (hf : p → Sound P Q (f ()) s) : Sound P Q (Attempt.require p e >>= f) s := by
  refine (Sound.require hs he).bind fun a t h _ => ?_
  obtain ⟨hp, rfl⟩ := require_ok_iff.mp h
  exact hf hp

end Sound

end Attempt

end LibAjaNtv2
