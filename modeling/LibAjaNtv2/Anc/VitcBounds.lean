import LibAjaNtv2.Anc.Vitc

/-!
Where a VITC line is read.

* `FirstEdge`: the first edge of a line, with its start bit; `findStart_spec`: **what the search for
  it finds**;
* `Transition`: the transition between two start bits; `Drift`: how far the start of each group is
  from the one before; `findTransition_spec`;
* `decodeBits_some`, `decodeBits_none`: the data bits of a group that are inside, and not;
* `decodeGroups_ne_none_iff`: **groups are read inside the line** unless they drift too far;
* `decodeLine_ne_none_iff`: **when a line is read inside its 720 pixels**.
-/

namespace LibAjaNtv2

variable {pLine : List UByte} {c n i e : ℕ} {CRC data : UByte}

/-! ### Pixels -/

lemma exists_level (pLine : List UByte) {n : ℕ} (hn : n < pLine.length) :
    ∃ b, getVITCLevel n pLine = some b := by
  rw [getVITCLevel, List.getElem?_eq_getElem hn]
  exact ⟨_, rfl⟩

lemma lt_of_level {b : Bool} (h : getVITCLevel n pLine = some b) : n < pLine.length := by
  by_contra hge
  rw [getVITCLevel, List.getElem?_eq_none (not_lt.1 hge)] at h
  cases h

lemma level_none (hn : pLine.length ≤ n) : getVITCLevel n pLine = none := by
  rw [getVITCLevel, List.getElem?_eq_none hn]
  rfl

/-! ### The first edge -/

/-- The first edge in the window, with three high pixels behind it. -/
structure FirstEdge (pLine : List UByte) (e : ℕ) : Prop where
  window : VITC_DECODE_START_WINDOW < e ∧ e < VITC_DECODE_END_WINDOW
  low : ∀ i, VITC_DECODE_START_WINDOW ≤ i → i < e → getVITCLevel i pLine = some false
  high : ∀ i < 4, getVITCLevel (e + i) pLine = some true

/-- A line has one first edge. -/
lemma FirstEdge.unique {e' : ℕ} (h : FirstEdge pLine e) (h' : FirstEdge pLine e') : e = e' := by
  have hle : ∀ {e e' : ℕ}, FirstEdge pLine e → FirstEdge pLine e' → e ≤ e' := by
    intro e e' h h'
    by_contra hlt
    have hlow := h.low e' h'.window.1.le (by omega)
    rw [show getVITCLevel e' pLine = some true from h'.high 0 (by decide)] at hlow
    cases hlow
  exact le_antisymm (hle h h') (hle h' h)

/-- After a high pixel there is no edge. -/
lemma findEdge_high (hlen : c + n ≤ pLine.length) : findEdge pLine true n c = some (c + n) := by
  induction n generalizing c with
  | zero => rfl
  | succ n ih =>
      obtain ⟨b, hb⟩ := exists_level pLine (n := c) (by omega)
      rw [findEdge, hb, show c + (n + 1) = c + 1 + n by omega]
      exact ih (by omega)

/-- After a low one the search stops at the first high pixel. -/
lemma findEdge_low (pLine : List UByte) {c n : ℕ} (hlen : c + n ≤ pLine.length) :
    ∃ e, findEdge pLine false n c = some e ∧ c ≤ e ∧ e ≤ c + n ∧
      (∀ i, c ≤ i → i < e → getVITCLevel i pLine = some false) ∧
      (e < c + n → getVITCLevel e pLine = some true) := by
  induction n generalizing c with
  | zero => exact ⟨c, rfl, le_rfl, le_rfl, fun i hi hi' => by omega, fun h => by omega⟩
  | succ n ih =>
      obtain ⟨b, hb⟩ := exists_level pLine (n := c) (by omega)
      rw [findEdge, hb]
      cases b with
      | true => exact ⟨c, rfl, le_rfl, by omega, fun i hi hi' => by omega, fun _ => hb⟩
      | false =>
          obtain ⟨e, hfind, hce, hen, hlow, hhigh⟩ := ih (c := c + 1) (by omega)
          refine ⟨e, hfind, by omega, by omega, fun i hi hi' => ?_, fun h => hhigh (by omega)⟩
          rcases Nat.eq_or_lt_of_le hi with rfl | hlt
          · exact hb
          · exact hlow i hlt hi'

/-- The three pixels behind an edge. -/
lemma startBitHigh_spec (pLine : List UByte) {c : ℕ} (hlen : c + 3 < pLine.length) :
    ∃ b, startBitHigh pLine c = some b ∧
      (b = true ↔ ∀ i, 1 ≤ i → i < 4 → getVITCLevel (c + i) pLine = some true) := by
  obtain ⟨b₁, h₁⟩ := exists_level pLine (n := c + 1) (by omega)
  obtain ⟨b₂, h₂⟩ := exists_level pLine (n := c + 2) (by omega)
  obtain ⟨b₃, h₃⟩ := exists_level pLine (n := c + 3) (by omega)
  refine ⟨b₁ && (b₂ && b₃), ?_, ?_⟩
  · rw [startBitHigh, h₁, Option.bind_eq_bind, Option.bind_some, h₂, h₃]
    cases b₁ <;> cases b₂ <;> rfl
  · rw [Bool.and_eq_true, Bool.and_eq_true]
    constructor
    · rintro ⟨rfl, rfl, rfl⟩ i hi hi'
      interval_cases i
      · exact h₁
      · exact h₂
      · exact h₃
    · intro hall
      have h₁' := hall 1 (by decide) (by decide)
      have h₂' := hall 2 (by decide) (by decide)
      have h₃' := hall 3 (by decide) (by decide)
      rw [h₁] at h₁'
      rw [h₂] at h₂'
      rw [h₃] at h₃'
      exact ⟨Option.some.inj h₁', Option.some.inj h₂', Option.some.inj h₃'⟩

/-- **The search for the first edge** finds it, if there is one. -/
theorem findStart_spec (hlen : pLine.length = 720) :
    (findStart pLine = some none ∧ ∀ e, ¬ FirstEdge pLine e) ∨
      ∃ e, FirstEdge pLine e ∧ findStart pLine = some (some (e + 3)) := by
  obtain ⟨last, hlast⟩ := exists_level pLine (n := VITC_DECODE_START_WINDOW)
    (by rw [hlen]; decide)
  rw [findStart, hlast, Option.bind_eq_bind, Option.bind_some,
    show VITC_DECODE_END_WINDOW - (VITC_DECODE_START_WINDOW + 1) = 19 from rfl]
  cases last with
  | true =>
      refine .inl ⟨?_, fun e h => ?_⟩
      · rw [findEdge_high (by rw [hlen]; decide)]
        rfl
      · have hlow := h.low _ le_rfl h.window.1
        rw [hlast] at hlow
        cases hlow
  | false =>
      obtain ⟨e, hfind, hle, hge, hlow, hhigh⟩ :=
        findEdge_low pLine (n := 19) (c := VITC_DECODE_START_WINDOW + 1)
          (by rw [hlen]; decide)
      have hunique : ∀ e', FirstEdge pLine e' → e' = e := by
        intro e' h
        rcases Nat.lt_trichotomy e' e with hlt | heq | hgt
        · have hlow' := hlow e' h.window.1 hlt
          rw [show getVITCLevel e' pLine = some true from h.high 0 (by decide)] at hlow'
          cases hlow'
        · exact heq
        · have hwindow := h.window.2
          have hlow' := h.low e (by omega) hgt
          rw [hhigh (show e < 30 from hgt.trans hwindow)] at hlow'
          cases hlow'
      simp only [hfind, Option.bind_eq_bind, Option.bind_some]
      by_cases hend : e = VITC_DECODE_END_WINDOW
      · refine .inl ⟨if_pos hend, fun e' h => ?_⟩
        have hwindow := h.window.2
        rw [hunique e' h, hend] at hwindow
        exact lt_irrefl _ hwindow
      · have he : e < 30 := lt_of_le_of_ne hge hend
        have hedge := hhigh he
        obtain ⟨b, hstart, hb⟩ := startBitHigh_spec pLine (c := e) (by omega)
        rw [if_neg hend, hstart]
        cases b with
        | false =>
            refine .inl ⟨rfl, fun e' h => ?_⟩
            obtain rfl := hunique e' h
            have hno := hb.2 fun i _ hi => h.high i hi
            cases hno
        | true =>
            refine .inr ⟨e, ⟨⟨hle, he⟩, fun i hi hi' => ?_, fun i hi => ?_⟩, rfl⟩
            · rcases Nat.eq_or_lt_of_le hi with rfl | hlt
              · exact hlast
              · exact hlow i hlt hi'
            · cases i with
              | zero => exact hedge
              | succ i => exact hb.1 rfl (i + 1) (by omega) hi

/-! ### Groups -/

/-- The transition between two start bits, `i` pixels on. -/
structure Transition (pLine : List UByte) (c i : ℕ) : Prop where
  near : 1 ≤ i ∧ i < 8
  high : ∀ j, 1 ≤ j → j < i → getVITCLevel (c + j) pLine = some true
  low : getVITCLevel (c + i) pLine = some false

/-- A group has one transition. -/
lemma Transition.unique {i' : ℕ} (h : Transition pLine c i) (h' : Transition pLine c i') :
    i = i' := by
  have hle : ∀ {i i' : ℕ}, Transition pLine c i → Transition pLine c i' → i ≤ i' := by
    intro i i' h h'
    by_contra hlt
    have hhigh := h.high i' h'.near.1 (by omega)
    rw [h'.low] at hhigh
    cases hhigh
  exact le_antisymm (hle h h') (hle h' h)

/-- **The search for a transition** finds it, if there is one. -/
lemma findTransition_spec (hlen : c + 7 < pLine.length) :
    (findTransition pLine c 7 1 = some 8 ∧ ∀ i, ¬ Transition pLine c i) ∨
      ∃ i, Transition pLine c i ∧ findTransition pLine c 7 1 = some i := by
  have hsearch : ∀ k ≤ 7,
      (∀ j, 1 ≤ j → j < 8 - k → getVITCLevel (c + j) pLine = some true) →
      (findTransition pLine c k (8 - k) = some 8 ∧ ∀ i, ¬ Transition pLine c i) ∨
        ∃ i, Transition pLine c i ∧ findTransition pLine c k (8 - k) = some i := by
    intro k
    induction k with
    | zero =>
        intro _ hhigh
        refine .inl ⟨rfl, fun i h => ?_⟩
        have hlow := h.low
        rw [hhigh i h.near.1 h.near.2] at hlow
        cases hlow
    | succ k ih =>
        intro hk hhigh
        obtain ⟨b, hb⟩ := exists_level pLine (n := c + (8 - (k + 1))) (by omega)
        rw [findTransition, hb]
        cases b with
        | false => exact .inr ⟨_, ⟨⟨by omega, by omega⟩, hhigh, hb⟩, rfl⟩
        | true =>
            have hnext := ih (by omega) fun j hj hj' => by
              rcases Nat.lt_or_ge j (8 - (k + 1)) with hlt | hge
              · exact hhigh j hj hlt
              · obtain rfl : j = 8 - (k + 1) := by omega
                exact hb
            rw [show 8 - k = 8 - (k + 1) + 1 by omega] at hnext
            exact hnext
  exact hsearch 7 le_rfl fun j hj hj' => by omega

/-- The transition is where the search ends. -/
lemma Transition.find (h : Transition pLine c i) (hlen : c + 7 < pLine.length) :
    findTransition pLine c 7 1 = some i := by
  rcases findTransition_spec hlen with ⟨-, hno⟩ | ⟨i', h', hfind⟩
  · exact absurd h (hno i)
  · rw [h.unique h', hfind]

/-- The data bits of a group that is inside. -/
lemma decodeBits_some (CRC data : UByte) (hlen : c + 52 < pLine.length) :
    ∃ CRC' data', decodeBits pLine 8 c CRC data = some (c + 60, CRC', data') := by
  have hrest : ∀ k ≤ 8, ∀ CRC data, ∃ CRC' data',
      decodeBits pLine k (c + (7 * (8 - k) + (8 - k) / 2)) CRC data =
        some (c + 60, CRC', data') := by
    intro k
    induction k with
    | zero => exact fun _ CRC data => ⟨CRC, data, rfl⟩
    | succ k ih =>
        intro hk CRC data
        obtain ⟨b, hb⟩ := exists_level pLine
          (n := c + (7 * (8 - (k + 1)) + (8 - (k + 1)) / 2)) (by omega)
        obtain ⟨CRC', data', hnext⟩ := ih (by omega) (addToCRC b CRC) (shiftIn data b)
        have hstep : c + (7 * (8 - (k + 1)) + (8 - (k + 1)) / 2) +
            (if (8 - (k + 1)) % 2 ≠ 0 then 8 else 7) = c + (7 * (8 - k) + (8 - k) / 2) := by
          split <;> omega
        refine ⟨CRC', data', ?_⟩
        rw [decodeBits, hb, ← hnext, ← hstep]
        rfl
  exact hrest 8 le_rfl CRC data

/-- The data bits of a group whose last one is behind the line. -/
lemma decodeBits_none (hlen : pLine.length ≤ c + 52) : decodeBits pLine 8 c CRC data = none := by
  have hrest : ∀ k < 8, ∀ CRC data,
      decodeBits pLine (k + 1) (c + (7 * (7 - k) + (7 - k) / 2)) CRC data = none := by
    intro k
    induction k with
    | zero =>
        intro _ CRC data
        rw [decodeBits, level_none (by omega)]
        rfl
    | succ k ih =>
        intro hk CRC data
        rw [decodeBits]
        cases hb : getVITCLevel (c + (7 * (7 - (k + 1)) + (7 - (k + 1)) / 2)) pLine with
        | none => rfl
        | some b =>
            have hstep : c + (7 * (7 - (k + 1)) + (7 - (k + 1)) / 2) +
                (if (8 - (k + 1 + 1)) % 2 ≠ 0 then 8 else 7) = c + (7 * (7 - k) + (7 - k) / 2) := by
              split <;> omega
            have hnext := ih (by omega) (addToCRC b CRC) (shiftIn data b)
            rw [← hstep] at hnext
            exact hnext
  exact hrest 7 (by decide) CRC data

/-- How far the transitions of the groups are from their starts. -/
inductive Drift (pLine : List UByte) : ℕ → List ℕ → Prop
  | nil (c : ℕ) : Drift pLine c []
  | cons {c i : ℕ} {is : List ℕ} (h : Transition pLine c i) (hrest : Drift pLine (c + i + 71) is) :
      Drift pLine c (i :: is)

/-- A line has one transition for each group. -/
lemma Drift.unique {is is' : List ℕ} (h : Drift pLine c is) (h' : Drift pLine c is')
    (hlen : is.length = is'.length) : is = is' := by
  induction h generalizing is' with
  | nil =>
      cases h' with
      | nil => rfl
      | cons _ _ => cases hlen
  | cons h hrest ih =>
      cases h' with
      | nil => cases hlen
      | cons h' hrest' =>
          obtain rfl := h.unique h'
          rw [ih hrest' (Nat.add_right_cancel hlen)]

/-- Transitions that are all as far from the starts of their groups. -/
lemma Drift.replicate (h : ∀ k < n, Transition pLine (c + (i + 71) * k) i) :
    Drift pLine c (List.replicate n i) := by
  induction n generalizing c with
  | zero => exact .nil c
  | succ n ih =>
      have hfirst := h 0 (Nat.succ_pos n)
      rw [Nat.mul_zero, Nat.add_zero] at hfirst
      refine .cons hfirst (ih fun k hk => ?_)
      have hnext := h (k + 1) (by omega)
      rwa [Nat.mul_succ, Nat.add_comm (_ * k), ← Nat.add_assoc, ← Nat.add_assoc] at hnext

/-- A group of which the data bits are inside. -/
lemma decodeGroup_some (CRC : UByte) (h : Transition pLine c i) (hlen : c + 7 < pLine.length)
    (hdata : c + i + 63 < pLine.length) :
    ∃ CRC' data', decodeGroup pLine c CRC = some (some (c + i + 71, CRC', data')) := by
  obtain ⟨CRC', data', hbits⟩ := decodeBits_some (c := c + i + 11)
    (addToCRC false (addToCRC true CRC)) 0 hdata
  refine ⟨CRC', data', ?_⟩
  rw [decodeGroup, h.find hlen, Option.bind_eq_bind, Option.bind_some, if_neg h.near.2.ne, hbits]
  rfl

/-- A group of which they are not. -/
lemma decodeGroup_none (h : Transition pLine c i) (hlen : c + 7 < pLine.length)
    (hdata : pLine.length ≤ c + i + 63) : decodeGroup pLine c CRC = none := by
  rw [decodeGroup, h.find hlen, Option.bind_eq_bind, Option.bind_some, if_neg h.near.2.ne,
    decodeBits_none (by omega)]
  rfl

/-- Without a transition no data bit is read, and there is no drift. -/
lemma decodeGroups_stop (n : ℕ) (CRC : UByte) (hno : ∀ i, ¬ Transition pLine c i)
    (hlen : c + 7 < pLine.length) :
    decodeGroups pLine (n + 1) c CRC ≠ none ∧
      ∀ is, is.length = n + 1 → ¬ Drift pLine c is := by
  constructor
  · rcases findTransition_spec hlen with ⟨hfind, -⟩ | ⟨i, h, -⟩
    · rw [decodeGroups, decodeGroup, hfind]
      exact fun h => by cases h
    · exact absurd h (hno i)
  · intro is hone hdrift
    cases hdrift with
    | nil => cases hone
    | cons h hrest => exact hno _ h

/-- **Groups are read inside the line** unless they drift too far. -/
theorem decodeGroups_ne_none_iff (CRC : UByte) (hlen : c + 78 * n + 7 < pLine.length) :
    decodeGroups pLine (n + 1) c CRC ≠ none ↔
      ∀ is, is.length = n + 1 → Drift pLine c is → c + is.sum + 71 * n + 63 < pLine.length := by
  induction n generalizing c CRC with
  | zero =>
      by_cases hex : ∃ i, Transition pLine c i
      · obtain ⟨i, h⟩ := hex
        have honly : ∀ is, is.length = 0 + 1 → Drift pLine c is → is = [i] := by
          intro is hone hdrift
          cases hdrift with
          | nil => cases hone
          | cons h' hrest =>
              rw [List.length_cons, Nat.add_right_cancel_iff, List.length_eq_zero_iff] at hone
              rw [hone, h'.unique h]
        rcases Nat.lt_or_ge (c + i + 63) pLine.length with hin | hout
        · obtain ⟨CRC', data', hgroup⟩ := decodeGroup_some CRC h (by omega) hin
          refine iff_of_true ?_ fun is hone hdrift => ?_
          · rw [decodeGroups, hgroup]
            exact fun hno => by cases hno
          · rw [honly is hone hdrift, List.sum_singleton]
            omega
        · refine iff_of_false (fun hne => hne ?_) fun hall => ?_
          · rw [decodeGroups, decodeGroup_none h (by omega) hout]
            rfl
          · have hlast := hall [i] rfl (.cons h (.nil _))
            rw [List.sum_singleton] at hlast
            omega
      · rw [not_exists] at hex
        have hstop := decodeGroups_stop 0 CRC hex (by omega)
        exact iff_of_true hstop.1 fun is hone hdrift => absurd hdrift (hstop.2 is hone)
  | succ n ih =>
      by_cases hex : ∃ i, Transition pLine c i
      · obtain ⟨i, h⟩ := hex
        have hi := h.near.2
        obtain ⟨CRC', data', hgroup⟩ := decodeGroup_some CRC h (by omega) (by omega)
        have hrest := ih (c := c + i + 71) CRC' (by omega)
        have hloop : decodeGroups pLine (n + 1 + 1) c CRC ≠ none ↔
            decodeGroups pLine (n + 1) (c + i + 71) CRC' ≠ none := by
          rw [decodeGroups, hgroup]
          exact not_congr Option.map_eq_none_iff
        rw [hloop, hrest]
        constructor
        · intro hall is hone hdrift
          cases hdrift with
          | nil => cases hone
          | cons h' hdrift =>
              obtain rfl := h.unique h'
              have hlast := hall _ (Nat.add_right_cancel hone) hdrift
              rw [List.sum_cons]
              omega
        · intro hall is hone hdrift
          have hlast := hall (i :: is) (by rw [List.length_cons, hone]) (.cons h hdrift)
          rw [List.sum_cons] at hlast
          omega
      · rw [not_exists] at hex
        have hstop := decodeGroups_stop (n + 1) CRC hex (by omega)
        exact iff_of_true hstop.1 fun is hone hdrift => absurd hdrift (hstop.2 is hone)

/-! ### Whole lines -/

open AJAAncillaryData_Timecode_VITC

/-- **A line is read inside its 720 pixels** exactly where the first edge and the transitions of the
nine groups together are not more than 85 pixels late. -/
theorem decodeLine_ne_none_iff (vitc : AJAAncillaryData_Timecode_VITC) (pLine : List UByte)
    (hlen : pLine.length = 720) :
    vitc.DecodeLine pLine ≠ none ↔
      ∀ e is, FirstEdge pLine e → is.length = 9 → Drift pLine (e + 3) is → e + is.sum ≤ 85 := by
  rcases findStart_spec hlen with ⟨hstart, hno⟩ | ⟨e, hedge, hstart⟩
  · refine iff_of_true ?_ fun e is hedge => absurd hedge (hno e)
    rw [DecodeLine, hstart]
    exact fun h => by cases h
  · have he : e < 30 := hedge.window.2
    have hloop : vitc.DecodeLine pLine ≠ none ↔ decodeGroups pLine (8 + 1) (e + 3) 0 ≠ none := by
      rw [DecodeLine, hstart]
      simp only [Option.bind_eq_bind, Option.bind_some, Nat.reduceAdd]
      rcases decodeGroups pLine 9 (e + 3) 0 with _ | _ | ⟨CRC, tcData⟩
      · simp
      · simp
      · simp only [Option.bind_some]
        split <;> simp
    rw [hloop, decodeGroups_ne_none_iff 0 (by omega), hlen]
    constructor
    · intro hall e' is hedge' hone hdrift
      obtain rfl := hedge.unique hedge'
      have hlast := hall is hone hdrift
      omega
    · intro hall is hone hdrift
      have hlast := hall e is hedge hone hdrift
      omega

/-- A packet that has received nothing. -/
def blankPacket : AJAAncillaryData_Timecode_VITC where
  toAJAAncillaryData := AJAAncillaryData.Init
  toAJAAncillaryData_Timecode := AJAAncillaryData_Timecode.Init
  m_rcvDataValid := false
  m_vitcType := .AJAAncillaryData_Timecode_VITC_Type_Unknown

/-- A packet with film data. -/
def AJAAncillaryData_Timecode_VITC.filmPacket : AJAAncillaryData_Timecode_VITC where
  toAJAAncillaryData := AJAAncillaryData.Init
  m_timeDigits := #v[1, 2, 3, 4, 5, 6, 7, 8]
  m_binaryGroup := #v[9, 10, 11, 12, 13, 14, 15, 0]
  m_rcvDataValid := false
  m_vitcType := .AJAAncillaryData_Timecode_VITC_Type_FilmData

/-- The line of these data. -/
def filmLine : List UByte := filmPacket.GeneratePayloadData.2.m_payload

/-- **The drawn line is read inside**: its edge is at 27, the first transition five pixels on, and
each other one four. -/
theorem decodeLine_filmLine : filmLine.length = 720 ∧ FirstEdge filmLine 27 ∧
    Drift filmLine (27 + 3) (5 :: List.replicate 8 4) ∧ blankPacket.DecodeLine filmLine ≠ none := by
  have hlen : filmLine.length = 720 := by decide +kernel
  have hlow : ∀ i < 27, VITC_DECODE_START_WINDOW ≤ i → getVITCLevel i filmLine = some false := by
    decide +kernel
  have hedge : FirstEdge filmLine 27 :=
    ⟨by decide, fun i hi hlt => hlow i hlt hi, by decide +kernel⟩
  have hfirst : Transition filmLine (27 + 3) 5 := by
    refine ⟨by decide, fun j hj hlt => ?_, by decide +kernel⟩
    interval_cases j <;> decide +kernel
  have hhigh : ∀ k < 8, ∀ j < 4, 1 ≤ j →
      getVITCLevel (27 + 3 + 5 + 71 + (4 + 71) * k + j) filmLine = some true := by
    decide +kernel
  have hother : ∀ k < 8,
      getVITCLevel (27 + 3 + 5 + 71 + (4 + 71) * k + 4) filmLine = some false := by
    decide +kernel
  have hdrift : Drift filmLine (27 + 3) (5 :: List.replicate 8 4) :=
    .cons hfirst (.replicate fun k hk =>
      ⟨by decide, fun j hj hlt => hhigh k hk j hlt hj, hother k hk⟩)
  refine ⟨hlen, hedge, hdrift,
    (decodeLine_ne_none_iff blankPacket filmLine hlen).2 fun e is hedge' hnine hdrift' => ?_⟩
  obtain rfl := hedge'.unique hedge
  rw [hdrift'.unique hdrift hnine]
  decide

/-- A line whose first edge is late, and so are its transitions. -/
def driftingLine : List UByte :=
  (List.range 720).map fun n =>
    if n < 29 ∨ n % 78 = 39 then VITC_YUV8_LO else VITC_YUV8_HI

/-- It is read behind its end. -/
theorem decodeLine_drifting : driftingLine.length = 720 ∧
    blankPacket.DecodeLine driftingLine = none ∧
    ¬ ∀ (vitc : AJAAncillaryData_Timecode_VITC) (pLine : List UByte),
      pLine.length = 720 → vitc.DecodeLine pLine ≠ none := by
  have hread : blankPacket.DecodeLine driftingLine = none := by decide +kernel
  have hlen : driftingLine.length = 720 := by simp [driftingLine]
  exact ⟨hlen, hread, fun hall => hall _ _ hlen hread⟩

end LibAjaNtv2
