import LibAjaNtv2.Anc.VancLine

/-!
A line of 8-bit components unpacked to 10-bit words
(`AJAAncillaryData::Unpack8BitYCbCrToU16sVANCLine`).

* `unpackPass`, `unpackLoop`, `Unpack8BitYCbCrToU16sVANCLine`: the loop over the pixels of each
  component;
* `unpackColumn`: the words of one component, from its bytes; `unpackLoop_eq`: **the loop fills them
  in**;
* `component_unpack`: the components of an unpacked line;
* `WellFormedPacket`, `packetWords`: a packet of 10-bit words, and its words from its bytes;
* `WellFormedPacket.unpack`, `unpackColumn_packets`: **packets are unpacked as they were**;
* `VancLine`, `restoresPackets_iff`: **when all packets of a line are restored**.
-/

namespace LibAjaNtv2

/-! ### The loop -/

/-- The variables of the loop over the pixels of a component. -/
structure UnpackVars where
  bNoMoreAnc : Bool
  ancCount : ℕ
  pixNum : ℕ
  checksum : UWord

/-- The checksum word: nine bits of the sum, and the complement of the last one. -/
def checksumWord (checksum : UWord) : UWord :=
  (checksum &&& 0x1FF#16) ||| ((~~~checksum &&& 0x100#16) <<< 1)

/-- One pass of the loop. -/
def unpackPass (pInYUV8Buffer : ℕ → UByte) (inNumPixels comp : ℕ) (v : UnpackVars)
    (outU16YUVLine : List UWord) : UnpackVars × List UWord :=
  let index := 2 * v.pixNum + comp
  if v.bNoMoreAnc = true then
    let dataValue : UWord := (pInYUV8Buffer index).setWidth 16 <<< 2
    ({ v with pixNum := v.pixNum + 1 },
      if index < outU16YUVLine.length then outU16YUVLine.set index dataValue
      else outU16YUVLine ++ [dataValue])
  else if v.ancCount = 0 then
    if v.pixNum + 7 < inNumPixels then
      if pInYUV8Buffer (2 * (v.pixNum + 0) + comp) = 0x00 ∧
          pInYUV8Buffer (2 * (v.pixNum + 1) + comp) = 0xFF ∧
          pInYUV8Buffer (2 * (v.pixNum + 2) + comp) = 0xFF then
        ({ v with
          pixNum := v.pixNum + 3
          ancCount := (pInYUV8Buffer (2 * (v.pixNum + 3 + 2) + comp)).toNat + 3 + 1
          checksum := 0 },
          ((outU16YUVLine.set index 0x000).set (2 * (v.pixNum + 1) + comp) 0x3FF).set
            (2 * (v.pixNum + 2) + comp) 0x3FF)
      else ({ v with bNoMoreAnc := true }, outU16YUVLine)
    else ({ v with bNoMoreAnc := true }, outU16YUVLine)
  else if v.ancCount = 1 then
    ({ v with pixNum := v.pixNum + 1, ancCount := v.ancCount - 1 },
      outU16YUVLine.set index (checksumWord v.checksum))
  else
    let ancWord := AddEvenParity (pInYUV8Buffer index)
    ({ v with
      pixNum := v.pixNum + 1
      ancCount := v.ancCount - 1
      checksum := v.checksum + (ancWord &&& 0x1FF#16) },
      outU16YUVLine.set index ancWord)

/-- A pass goes on, or it is the one that finds no more packets. -/
lemma unpackPass_lt {pInYUV8Buffer : ℕ → UByte} {inNumPixels comp : ℕ} {v : UnpackVars}
    {out : List UWord} (h : v.pixNum < inNumPixels) :
    let v' := (unpackPass pInYUV8Buffer inNumPixels comp v out).1
    2 * (inNumPixels - v'.pixNum) + (if v'.bNoMoreAnc = true then 0 else 1) <
      2 * (inNumPixels - v.pixNum) + (if v.bNoMoreAnc = true then 0 else 1) := by
  rw [unpackPass]
  split_ifs <;> simp_all <;> omega

/-- The loop over the pixels of a component. -/
def unpackLoop (pInYUV8Buffer : ℕ → UByte) (inNumPixels comp : ℕ) (v : UnpackVars)
    (outU16YUVLine : List UWord) : List UWord :=
  if _h : v.pixNum < inNumPixels then
    let pass := unpackPass pInYUV8Buffer inNumPixels comp v outU16YUVLine
    unpackLoop pInYUV8Buffer inNumPixels comp pass.1 pass.2
  else outU16YUVLine
  termination_by 2 * (inNumPixels - v.pixNum) + (if v.bNoMoreAnc = true then 0 else 1)
  decreasing_by exact unpackPass_lt _h

/-- One component of the line. -/
def unpackComponent (pInYUV8Buffer : ℕ → UByte) (inNumPixels comp : ℕ) (out : List UWord) :
    List UWord :=
  unpackLoop pInYUV8Buffer inNumPixels comp ⟨false, 0, 0, 0⟩ out

/-- `AJAAncillaryData::Unpack8BitYCbCrToU16sVANCLine`: whether it succeeds, and the line. -/
def Unpack8BitYCbCrToU16sVANCLine (pInYUV8Line : Option (ℕ → UByte)) (inNumPixels : ℕ) :
    Bool × List UWord :=
  let outU16YUVLine := List.replicate (inNumPixels * 2) 0
  match pInYUV8Line with
  | none => (false, outU16YUVLine)
  | some pInYUV8Buffer =>
      if inNumPixels < 12 then (false, outU16YUVLine)
      else if inNumPixels % 4 ≠ 0 then (false, outU16YUVLine)
      else (true, (List.range 2).foldl (fun out comp =>
        unpackComponent pInYUV8Buffer inNumPixels comp out) outU16YUVLine)

/-! ### The words of a component -/

/-- A byte, with two bits of zeros behind it. -/
def padByte (b : UByte) : UWord := b.setWidth 16 <<< 2

/-- A packet starts here, and there is room for one. -/
def StartsVanc (bytes : List UByte) : Prop :=
  7 < bytes.length ∧ bytes.take 3 = [0x00, 0xFF, 0xFF]

instance : DecidablePred StartsVanc := fun _ => inferInstanceAs (Decidable (_ ∧ _))

/-- The words of a component from its bytes: of the packet that it is in there are `ancCount` bytes
left, with a sum of those before. -/
def unpackColumn (ancCount : ℕ) (checksum : UWord) (bytes : List UByte) : List UWord :=
  match bytes with
  | [] => []
  | b :: bs =>
      if ancCount = 0 then
        if StartsVanc (b :: bs) then
          [0x000, 0x3FF, 0x3FF] ++
            unpackColumn (((b :: bs).getD 5 0).toNat + 4) 0 ((b :: bs).drop 3)
        else (b :: bs).map padByte
      else if ancCount = 1 then checksumWord checksum :: unpackColumn 0 checksum bs
      else AddEvenParity b ::
        unpackColumn (ancCount - 1) (checksum + (AddEvenParity b &&& 0x1FF#16)) bs
  termination_by bytes.length
  decreasing_by all_goals simp only [List.length_drop, List.length_cons]; omega

section Column

variable {ancCount : ℕ} {checksum : UWord} {bytes : List UByte} {b : UByte}

lemma unpackColumn_nil : unpackColumn ancCount checksum [] = [] := by
  rw [unpackColumn]

/-- The header of a packet. -/
lemma unpackColumn_header (h : StartsVanc bytes) :
    unpackColumn 0 checksum bytes =
      [0x000, 0x3FF, 0x3FF] ++ unpackColumn ((bytes.getD 5 0).toNat + 4) 0 (bytes.drop 3) := by
  cases bytes with
  | nil => exact absurd h.1 (by simp)
  | cons b bytes => rw [unpackColumn, if_pos rfl, if_pos h]

/-- Anything else: the rest of the component is padded. -/
lemma unpackColumn_pad (h : ¬ StartsVanc bytes) :
    unpackColumn 0 checksum bytes = bytes.map padByte := by
  cases bytes with
  | nil => rw [unpackColumn_nil, List.map_nil]
  | cons b bytes => rw [unpackColumn, if_pos rfl, if_neg h]

/-- The last byte of a packet. -/
lemma unpackColumn_one : unpackColumn 1 checksum (b :: bytes) =
    checksumWord checksum :: unpackColumn 0 checksum bytes := by
  rw [unpackColumn, if_neg one_ne_zero, if_pos rfl]

/-- Another byte of a packet. -/
lemma unpackColumn_succ : unpackColumn (ancCount + 2) checksum (b :: bytes) =
    AddEvenParity b ::
      unpackColumn (ancCount + 1) (checksum + (AddEvenParity b &&& 0x1FF#16)) bytes := by
  rw [unpackColumn, if_neg (by omega), if_neg (by omega)]
  rfl

/-- At the start of a packet the sum does not matter. -/
lemma unpackColumn_start (checksum : UWord) :
    unpackColumn 0 checksum bytes = unpackColumn 0 0 bytes := by
  by_cases h : StartsVanc bytes
  · rw [unpackColumn_header h, unpackColumn_header h]
  · rw [unpackColumn_pad h, unpackColumn_pad h]

/-- There is a word for each byte. -/
lemma length_unpackColumn (ancCount : ℕ) (checksum : UWord) (bytes : List UByte) :
    (unpackColumn ancCount checksum bytes).length = bytes.length := by
  induction hn : bytes.length using Nat.strong_induction_on
    generalizing ancCount checksum bytes with
  | _ n ih =>
      cases bytes with
      | nil =>
          rw [unpackColumn_nil]
          exact hn
      | cons b bytes =>
          rw [List.length_cons] at hn
          rcases ancCount with _ | _ | ancCount
          · by_cases h : StartsVanc (b :: bytes)
            · have hroom := h.1
              rw [List.length_cons] at hroom
              have hdrop : ((b :: bytes).drop 3).length = n - 3 := by
                rw [List.length_drop, List.length_cons]
                omega
              rw [unpackColumn_header h, List.length_append, ih (n - 3) (by omega) _ _ _ hdrop]
              simp only [List.length_cons, List.length_nil]
              omega
            · rw [unpackColumn_pad h, List.length_map, List.length_cons, hn]
          · rw [unpackColumn_one, List.length_cons, ih _ (by omega) _ _ _ rfl, hn]
          · rw [unpackColumn_succ, List.length_cons, ih _ (by omega) _ _ _ rfl, hn]

end Column

/-! ### The components of a line -/

/-- The bytes of a component. -/
def componentBytes (pInYUV8Buffer : ℕ → UByte) (inNumPixels comp : ℕ) : List UByte :=
  (List.range inNumPixels).map fun pixNum => pInYUV8Buffer (2 * pixNum + comp)

/-- The words of a component. -/
def component (inNumPixels comp : ℕ) (outU16YUVLine : List UWord) : List UWord :=
  (List.range inNumPixels).map fun pixNum => outU16YUVLine.getD (2 * pixNum + comp) 0

/-- Words filled into a component, from a pixel on. -/
def fillColumn (comp : ℕ) : ℕ → List UWord → List UWord → List UWord
  | _, [], out => out
  | p, w :: ws, out => fillColumn comp (p + 1) ws (out.set (2 * p + comp) w)

section Fill

variable {n comp p : ℕ} {out ws : List UWord}

lemma length_fillColumn : (fillColumn comp p ws out).length = out.length := by
  induction ws generalizing p out with
  | nil => rfl
  | cons w ws ih => rw [fillColumn, ih, List.length_set]

/-- A word of the component. -/
lemma component_set (hcomp : comp < 2) (hp : p < n) (hlength : out.length = 2 * n) (w : UWord) :
    component n comp (out.set (2 * p + comp) w) = (component n comp out).set p w := by
  refine List.ext_getElem (by simp [component]) fun i hi hi' => ?_
  rw [List.getElem_set]
  simp only [component, List.getElem_map, List.getElem_range, List.getD_eq_getElem?_getD]
  split
  · next heq =>
      rw [heq, List.getElem?_set_self (by omega), Option.getD_some]
  · next hne => rw [List.getElem?_set_ne (by omega)]

/-- A word of the other component. -/
lemma component_set_ne {comp' : ℕ} (hne : comp ≠ comp') (hcomp : comp < 2) (hcomp' : comp' < 2)
    (w : UWord) :
    component n comp (out.set (2 * p + comp') w) = component n comp out := by
  refine List.map_congr_left fun i _ => ?_
  rw [List.getD_eq_getElem?_getD, List.getD_eq_getElem?_getD, List.getElem?_set_ne (by omega)]

/-- **The words filled in**, up to the end of the component. -/
lemma component_fillColumn (hcomp : comp < 2) (hlength : out.length = 2 * n)
    (hws : p + ws.length = n) :
    component n comp (fillColumn comp p ws out) = (component n comp out).take p ++ ws := by
  induction ws generalizing p out with
  | nil =>
      have hall : (component n comp out).length ≤ p := by
        rw [component, List.length_map, List.length_range]
        exact hws.ge
      rw [fillColumn, List.append_nil, List.take_of_length_le hall]
  | cons w ws ih =>
      rw [List.length_cons] at hws
      have hp : p < (component n comp out).length := by
        rw [component, List.length_map, List.length_range]
        omega
      rw [fillColumn, ih (by rw [List.length_set, hlength]) (by omega),
        component_set hcomp (by omega) hlength, List.take_succ_eq_append_getElem
          (by rw [List.length_set]; exact hp), List.getElem_set_self, List.take_set_of_le le_rfl,
        List.append_assoc]
      rfl

/-- The other component stays. -/
lemma component_fillColumn_ne {comp' : ℕ} (hne : comp ≠ comp') (hcomp : comp < 2)
    (hcomp' : comp' < 2) :
    component n comp (fillColumn comp' p ws out) = component n comp out := by
  induction ws generalizing p out with
  | nil => rfl
  | cons w ws ih => rw [fillColumn, ih, component_set_ne hne hcomp hcomp']

end Fill

/-! ### The loop fills in the words of the component -/

section Loop

variable {buffer : ℕ → UByte} {n comp : ℕ} {v : UnpackVars} {out : List UWord}

/-- The bytes from a pixel on. -/
lemma drop_componentBytes {p : ℕ} (hp : p < n) :
    (componentBytes buffer n comp).drop p =
      buffer (2 * p + comp) :: (componentBytes buffer n comp).drop (p + 1) := by
  have hlength : p < (componentBytes buffer n comp).length := by
    rwa [componentBytes, List.length_map, List.length_range]
  rw [List.drop_eq_getElem_cons hlength]
  congr 1
  simp only [componentBytes, List.getElem_map, List.getElem_range]

lemma length_drop_componentBytes (p : ℕ) :
    ((componentBytes buffer n comp).drop p).length = n - p := by
  rw [List.length_drop, componentBytes, List.length_map, List.length_range]

/-- A byte behind a pixel. -/
lemma getD_componentBytes {p k : ℕ} (hk : p + k < n) :
    ((componentBytes buffer n comp).drop p).getD k 0 = buffer (2 * (p + k) + comp) := by
  have hlength : p + k < (componentBytes buffer n comp).length := by
    rwa [componentBytes, List.length_map, List.length_range]
  rw [List.getD_eq_getElem?_getD, List.getElem?_drop, List.getElem?_eq_getElem hlength,
    Option.getD_some]
  simp only [componentBytes, List.getElem_map, List.getElem_range]

/-- **The test for a packet.** -/
lemma startsVanc_iff {p : ℕ} : StartsVanc ((componentBytes buffer n comp).drop p) ↔
    p + 7 < n ∧ buffer (2 * (p + 0) + comp) = 0x00 ∧ buffer (2 * (p + 1) + comp) = 0xFF ∧
      buffer (2 * (p + 2) + comp) = 0xFF := by
  rw [StartsVanc, length_drop_componentBytes]
  by_cases hroom : p + 7 < n
  · rw [drop_componentBytes (show p < n by omega), drop_componentBytes (show p + 1 < n by omega),
      drop_componentBytes (show p + 1 + 1 < n by omega)]
    simp only [List.take_succ_cons, List.take_zero, List.cons.injEq, and_true]
    exact and_congr (by omega) Iff.rfl
  · exact iff_of_false (fun h => hroom (by omega)) fun h => hroom h.1

lemma unpackLoop_pass {v' : UnpackVars} {out' : List UWord} (h : v.pixNum < n)
    (hpass : unpackPass buffer n comp v out = (v', out')) :
    unpackLoop buffer n comp v out = unpackLoop buffer n comp v' out' := by
  rw [unpackLoop, dif_pos h, hpass]

lemma unpackLoop_end (h : ¬ v.pixNum < n) : unpackLoop buffer n comp v out = out := by
  rw [unpackLoop, dif_neg h]

section Pass

variable {count p : ℕ} {checksum : UWord}

/-- A byte behind the last packet. -/
lemma unpackPass_more (hp : p < n) (hcomp : comp < 2) (hlength : out.length = 2 * n) :
    unpackPass buffer n comp ⟨true, count, p, checksum⟩ out =
      (⟨true, count, p + 1, checksum⟩,
        out.set (2 * p + comp) (padByte (buffer (2 * p + comp)))) := by
  have hinside : 2 * p + comp < out.length := by omega
  simp only [unpackPass, if_true, if_pos hinside]
  rfl

/-- The header of a packet. -/
lemma unpackPass_start (hstart : StartsVanc ((componentBytes buffer n comp).drop p)) :
    unpackPass buffer n comp ⟨false, 0, p, checksum⟩ out =
      (⟨false, (((componentBytes buffer n comp).drop p).getD 5 0).toNat + 4, p + 3, 0⟩,
        ((out.set (2 * p + comp) 0x000).set (2 * (p + 1) + comp) 0x3FF).set
          (2 * (p + 2) + comp) 0x3FF) := by
  obtain ⟨hroom, hheader⟩ := startsVanc_iff.mp hstart
  simp only [unpackPass, Bool.false_eq_true, if_false, if_true, if_pos hroom, if_pos hheader]
  rw [getD_componentBytes (show p + 5 < n by omega)]

/-- No packet starts. -/
lemma unpackPass_gap (hstart : ¬ StartsVanc ((componentBytes buffer n comp).drop p)) :
    unpackPass buffer n comp ⟨false, 0, p, checksum⟩ out = (⟨true, 0, p, checksum⟩, out) := by
  rw [startsVanc_iff, not_and_or] at hstart
  simp only [unpackPass, Bool.false_eq_true, if_false, if_true]
  rcases hstart with hroom | hheader
  · rw [if_neg hroom]
  · rw [if_neg hheader, ite_self]

/-- The last byte of a packet. -/
lemma unpackPass_last : unpackPass buffer n comp ⟨false, 1, p, checksum⟩ out =
    (⟨false, 0, p + 1, checksum⟩, out.set (2 * p + comp) (checksumWord checksum)) := rfl

lemma unpackPass_word : unpackPass buffer n comp ⟨false, count + 2, p, checksum⟩ out =
    (⟨false, count + 1, p + 1,
        checksum + (AddEvenParity (buffer (2 * p + comp)) &&& 0x1FF#16)⟩,
      out.set (2 * p + comp) (AddEvenParity (buffer (2 * p + comp)))) := rfl

end Pass

/-- **Behind the last packet** the bytes are padded. -/
lemma unpackLoop_more {count p : ℕ} {checksum : UWord} (hcomp : comp < 2)
    (hlength : out.length = 2 * n) :
    unpackLoop buffer n comp ⟨true, count, p, checksum⟩ out =
      fillColumn comp p (((componentBytes buffer n comp).drop p).map padByte) out := by
  induction hm : n - p generalizing p out with
  | zero =>
      have hend : (componentBytes buffer n comp).drop p = [] := by
        rw [← List.length_eq_zero_iff, length_drop_componentBytes, hm]
      rw [unpackLoop_end (show ¬ p < n by omega), hend]
      rfl
  | succ m ih =>
      have hp : p < n := by omega
      rw [unpackLoop_pass hp (unpackPass_more hp hcomp hlength),
        ih (by rw [List.length_set, hlength]) (by omega), drop_componentBytes hp, List.map_cons]
      rfl

/-- **The loop fills in the words of the component.** -/
lemma unpackLoop_eq {count p : ℕ} {checksum : UWord} (hcomp : comp < 2)
    (hlength : out.length = 2 * n) :
    unpackLoop buffer n comp ⟨false, count, p, checksum⟩ out =
      fillColumn comp p (unpackColumn count checksum ((componentBytes buffer n comp).drop p))
        out := by
  induction hm : n - p using Nat.strong_induction_on generalizing count p checksum out with
  | _ m ih =>
      by_cases hp : p < n
      swap
      · have hend : (componentBytes buffer n comp).drop p = [] := by
          rw [← List.length_eq_zero_iff, length_drop_componentBytes]
          omega
        rw [unpackLoop_end hp, hend, unpackColumn_nil]
        rfl
      rcases count with _ | _ | count
      · by_cases hstart : StartsVanc ((componentBytes buffer n comp).drop p)
        · rw [unpackLoop_pass hp (unpackPass_start hstart), unpackColumn_header hstart,
            ih (n - (p + 3)) (by omega) (by simp only [List.length_set, hlength]) rfl,
            List.drop_drop]
          rfl
        · rw [unpackLoop_pass hp (unpackPass_gap hstart), unpackLoop_more hcomp hlength,
            unpackColumn_pad hstart]
      · rw [unpackLoop_pass hp unpackPass_last,
          ih (n - (p + 1)) (by omega) (by rw [List.length_set, hlength]) rfl,
          drop_componentBytes hp, unpackColumn_one]
        rfl
      · rw [unpackLoop_pass hp unpackPass_word,
          ih (n - (p + 1)) (by omega) (by rw [List.length_set, hlength]) rfl,
          drop_componentBytes hp, unpackColumn_succ]
        rfl

end Loop

/-- **The components of an unpacked line** are the words of their bytes. -/
lemma component_unpack (buffer : ℕ → UByte) {n : ℕ} (htwelve : 12 ≤ n) (hfour : 4 ∣ n) :
    ∃ out, Unpack8BitYCbCrToU16sVANCLine (some buffer) n = (true, out) ∧
      ∀ comp < 2, component n comp out = unpackColumn 0 0 (componentBytes buffer n comp) := by
  have hzeros : (List.replicate (n * 2) (0 : UWord)).length = 2 * n := by
    rw [List.length_replicate, Nat.mul_comm]
  have hfill : ∀ comp < 2, ∀ out : List UWord, out.length = 2 * n →
      unpackComponent buffer n comp out =
        fillColumn comp 0 (unpackColumn 0 0 (componentBytes buffer n comp)) out :=
    fun comp hcomp out hlength => unpackLoop_eq hcomp hlength
  have hwords : ∀ comp, 0 + (unpackColumn 0 0 (componentBytes buffer n comp)).length = n := by
    intro comp
    rw [length_unpackColumn, Nat.zero_add, componentBytes, List.length_map, List.length_range]
  have hfirst : (unpackComponent buffer n 0 (List.replicate (n * 2) 0)).length = 2 * n := by
    rw [hfill 0 (by omega) _ hzeros, length_fillColumn, hzeros]
  refine ⟨unpackComponent buffer n 1 (unpackComponent buffer n 0 (List.replicate (n * 2) 0)),
    ?_, fun comp hcomp => ?_⟩
  · simp only [Unpack8BitYCbCrToU16sVANCLine, if_neg (not_lt.mpr htwelve),
      if_neg (not_not.mpr (Nat.mod_eq_zero_of_dvd hfour))]
    rfl
  · rw [hfill 1 (by omega) _ hfirst]
    obtain rfl | rfl : comp = 0 ∨ comp = 1 := by omega
    · rw [component_fillColumn_ne (by omega) (by omega) (by omega), hfill 0 (by omega) _ hzeros,
        component_fillColumn (by omega) hzeros (hwords 0)]
      rfl
    · rw [component_fillColumn (by omega) hfirst (hwords 1)]
      rfl

/-! ### Packets -/

/-- The 8 bits that are left of a word. -/
def dropTo8 (w : UWord) : UByte := w.setWidth 8

/-- A well-formed packet of 10-bit words: its flags, as many words as it announces, and the right
parity and checksum. -/
structure WellFormedPacket (packet : List UWord) : Prop where
  flags : packet.take 3 = [0x000, 0x3FF, 0x3FF]
  length_eq : packet.length = 7 + (dropTo8 (packet.getD 5 0)).toNat
  right : PacketRight packet
  tenBits : ∀ w ∈ packet, w.toNat < 1024

section Packets

variable {packet : List UWord} {packets : List (List UWord)} {bytes tail : List UByte}

/-- The sum of the words of a packet, nine bits of each. -/
def paritySum (bytes : List UByte) : UWord :=
  (bytes.map fun b => AddEvenParity b &&& 0x1FF#16).sum

/-- The checksum word is the only one of ten bits with this sum and the complement of bit 8. -/
lemma checksumWord_eq {w sum : UWord} (hlow : sum &&& 0x1FF#16 = w &&& 0x1FF#16)
    (hnine : w.getLsbD 8 ≠ w.getLsbD 9) (hten : w.toNat < 1024) : w = checksumWord sum := by
  have hbits : ∀ i < 9, sum.getLsbD i = w.getLsbD i := by
    intro i hi
    have hi' := congrArg (BitVec.getLsbD · i) hlow
    interval_cases i <;> simpa using hi'
  have hhigh : ∀ i, 10 ≤ i → w.getLsbD i = false := fun i hi =>
    Nat.testBit_lt_two_pow (lt_of_lt_of_le hten (Nat.pow_le_pow_right (n := 2) (by omega) hi))
  refine BitVec.eq_of_getLsbD_eq fun i hi => ?_
  rw [checksumWord, BitVec.getLsbD_or, BitVec.getLsbD_and, BitVec.getLsbD_shiftLeft]
  rcases lt_trichotomy i 9 with hlt | rfl | hgt
  · rw [← hbits i hlt]
    interval_cases i <;> simp
  · have hsum := hbits 8 (by omega)
    have hnot : w.getLsbD 9 = !w.getLsbD 8 := by
      revert hnine
      cases w.getLsbD 8 <;> cases w.getLsbD 9 <;> simp
    rw [hnot, ← hsum]
    simp
  · rw [hhigh i hgt]
    interval_cases i <;> simp

/-- The checksum word has the low nine bits of its sum. -/
lemma checksumWord_and (sum : UWord) : checksumWord sum &&& 0x1FF#16 = sum &&& 0x1FF#16 := by
  refine BitVec.eq_of_getLsbD_eq fun i hi => ?_
  rw [checksumWord, BitVec.getLsbD_and, BitVec.getLsbD_or, BitVec.getLsbD_and,
    BitVec.getLsbD_shiftLeft, BitVec.getLsbD_and]
  interval_cases i <;> simp

lemma checksumWord_bit9 (sum : UWord) :
    (checksumWord sum).getLsbD 8 ≠ (checksumWord sum).getLsbD 9 := by
  simp [checksumWord]

/-- The checksum word has ten bits. -/
lemma checksumWord_lt (sum : UWord) : (checksumWord sum).toNat < 1024 := by
  rw [checksumWord, BitVec.toNat_or]
  refine Nat.or_lt_two_pow (n := 10) ?_ ?_
  · rw [BitVec.toNat_and]
    exact lt_of_le_of_lt Nat.and_le_right (by decide)
  · have hand : (~~~sum &&& 0x100#16).toNat ≤ 256 := by
      rw [BitVec.toNat_and]
      exact Nat.and_le_right
    rw [BitVec.toNat_shiftLeft, Nat.shiftLeft_eq]
    exact lt_of_le_of_lt (Nat.mod_le _ _) (by omega)

/-- The words of a packet with these bytes behind its flags. -/
def packetWords (bytes : List UByte) : List UWord :=
  [0x000, 0x3FF, 0x3FF] ++ (bytes.map AddEvenParity ++ [checksumWord (paritySum bytes)])

/-- **Such packets are well-formed.** -/
lemma wellFormed_packetWords (hbytes : bytes.length = (bytes.getD 2 0).toNat + 3) :
    WellFormedPacket (packetWords bytes) := by
  have hdrop : ((packetWords bytes).drop 3).dropLast = bytes.map AddEvenParity :=
    List.dropLast_concat
  have hlast : (packetWords bytes).getLastD 0 = checksumWord (paritySum bytes) := by
    rw [packetWords, ← List.append_assoc, List.getLastD_concat]
  have hcount : dropTo8 ((packetWords bytes).getD 5 0) = bytes.getD 2 0 := by
    have htwo : 2 < (bytes.map AddEvenParity).length := by
      rw [List.length_map]
      omega
    have hget : (packetWords bytes).getD 5 0 = (bytes.map AddEvenParity).getD 2 0 :=
      List.getD_append _ _ _ _ htwo
    rw [hget, List.getD_eq_getElem _ _ htwo, List.getElem_map,
      List.getD_eq_getElem _ _ (by omega)]
    exact setWidth_AddEvenParity _
  refine ⟨rfl, ?_, ⟨?_, ?_, ?_⟩, ?_⟩
  · rw [hcount, packetWords]
    simp only [List.length_append, List.length_map, List.length_cons, List.length_nil]
    omega
  · rw [hdrop, List.forall_mem_map]
    exact fun b _ => by rw [setWidth_AddEvenParity]
  · rw [hlast]
    exact checksumWord_bit9 _
  · rw [hdrop, hlast, checksumWord_and, List.map_map]
    rfl
  · intro w hw
    rcases List.mem_append.mp hw with hw | hw
    · simp only [List.mem_cons, List.not_mem_nil, or_false, or_self] at hw
      rcases hw with rfl | rfl <;> simp
    rcases List.mem_append.mp hw with hw | hw
    · obtain ⟨b, -, rfl⟩ := List.mem_map.mp hw
      exact AddEvenParity_lt b
    · rw [List.mem_singleton.mp hw]
      exact checksumWord_lt _

/-- **The words of a packet** are those of its bytes. -/
lemma WellFormedPacket.words (h : WellFormedPacket packet) :
    ∃ bytes, packet = packetWords bytes ∧ bytes.length = (bytes.getD 2 0).toNat + 3 := by
  have hlength := h.length_eq
  rcases List.eq_nil_or_concat (packet.drop 3) with hnil | ⟨mid, last, hdrop⟩
  · rw [List.drop_eq_nil_iff] at hnil
    omega
  rw [List.concat_eq_append] at hdrop
  have hpacket : packet = [0x000, 0x3FF, 0x3FF] ++ (mid ++ [last]) := by
    rw [← h.flags, ← hdrop, List.take_append_drop]
  have hmid : (packet.drop 3).dropLast = mid := by rw [hdrop, List.dropLast_concat]
  have hlast : packet.getLastD 0 = last := by
    rw [hpacket, ← List.append_assoc, List.getLastD_concat]
  have hparity := h.right.parity
  have hnine := h.right.bit9
  have hchecksum := h.right.checksum
  rw [hmid] at hparity hchecksum
  rw [hlast] at hnine hchecksum
  have hbytes : (mid.map dropTo8).map AddEvenParity = mid := by
    rw [List.map_map]
    conv_rhs => rw [← List.map_id mid]
    exact List.map_congr_left fun w hw => (hparity w hw).symm
  have hsum : paritySum (mid.map dropTo8) = (mid.map fun w => w &&& 0x1FF#16).sum := by
    conv_rhs => rw [← hbytes, List.map_map]
    rfl
  have hcount : packet.length = mid.length + 4 := by
    rw [hpacket]
    simp only [List.length_append, List.length_cons, List.length_nil]
    omega
  refine ⟨mid.map dropTo8, ?_, ?_⟩
  · rw [packetWords, hbytes, hsum, ← checksumWord_eq hchecksum hnine (h.tenBits last ?_)]
    · exact hpacket
    · rw [hpacket]
      exact List.mem_append_right _ (List.mem_append_right _ (List.mem_singleton_self _))
  · have htwo : 2 < mid.length := by omega
    have hget : packet.getD 5 0 = mid.getD 2 0 := by
      rw [hpacket]
      exact List.getD_append _ _ _ _ htwo
    have hdc : (mid.map dropTo8).getD 2 0 = dropTo8 (mid.getD 2 0) := by
      rw [List.getD_eq_getElem _ _ (by rwa [List.length_map]), List.getElem_map,
        List.getD_eq_getElem _ _ htwo]
    rw [List.length_map, hdc, ← hget]
    omega

/-- The bytes behind the flags of a packet. -/
lemma unpackColumn_body (bytes : List UByte) (b : UByte) (tail : List UByte) (checksum : UWord) :
    unpackColumn (bytes.length + 1) checksum (bytes ++ b :: tail) =
      bytes.map AddEvenParity ++
        checksumWord (checksum + paritySum bytes) :: unpackColumn 0 0 tail := by
  induction bytes generalizing checksum with
  | nil =>
      rw [List.nil_append, List.length_nil, unpackColumn_one, unpackColumn_start]
      simp [paritySum]
  | cons a bytes ih =>
      rw [List.cons_append, List.length_cons, unpackColumn_succ, ih, List.map_cons,
        List.cons_append, paritySum, paritySum, List.map_cons, List.sum_cons, BitVec.add_assoc]

/-- **A packet and what follows it.** -/
lemma WellFormedPacket.unpack (h : WellFormedPacket packet)
    (hroom : 7 < (packet.map dropTo8 ++ tail).length) :
    unpackColumn 0 0 (packet.map dropTo8 ++ tail) = packet ++ unpackColumn 0 0 tail := by
  obtain ⟨bytes, hwords, hlength⟩ := h.words
  have hbytes : packet.map dropTo8 ++ tail =
      [0x00, 0xFF, 0xFF] ++ (bytes ++ dropTo8 (checksumWord (paritySum bytes)) :: tail) := by
    rw [hwords, packetWords, List.map_append, List.map_append, List.map_map]
    have hdrop : bytes.map (dropTo8 ∘ AddEvenParity) = bytes := by
      conv_rhs => rw [← List.map_id bytes]
      exact List.map_congr_left fun b _ => setWidth_AddEvenParity b
    rw [hdrop]
    simp only [List.map_cons, List.map_nil, List.append_assoc]
    rfl
  have hstart : StartsVanc (packet.map dropTo8 ++ tail) := by
    refine ⟨hroom, ?_⟩
    rw [hbytes]
    rfl
  have hcount : ((packet.map dropTo8 ++ tail).getD 5 0).toNat + 4 = bytes.length + 1 := by
    have hget : (bytes ++ dropTo8 (checksumWord (paritySum bytes)) :: tail).getD 2 0 =
        bytes.getD 2 0 := List.getD_append _ _ _ _ (by omega)
    rw [hbytes]
    show ((bytes ++ dropTo8 (checksumWord (paritySum bytes)) :: tail).getD 2 0).toNat + 4 = _
    rw [hget, hlength]
  rw [unpackColumn_header hstart, hcount, hbytes]
  show [0x000, 0x3FF, 0x3FF] ++ unpackColumn (bytes.length + 1) 0
    (bytes ++ dropTo8 (checksumWord (paritySum bytes)) :: tail) = _
  have hzero : 0 + paritySum bytes = paritySum bytes := BitVec.zero_add _
  rw [unpackColumn_body, hzero]
  conv_rhs => rw [hwords, packetWords]
  rw [List.append_assoc, List.append_assoc]
  rfl

lemma WellFormedPacket.seven_le (h : WellFormedPacket packet) : 7 ≤ packet.length := by
  rw [h.length_eq]
  omega

/-- **Packets with something behind them.** -/
lemma unpackColumn_packets (hpackets : ∀ packet ∈ packets, WellFormedPacket packet)
    (htail : tail ≠ []) :
    unpackColumn 0 0 (packets.flatten.map dropTo8 ++ tail) =
      packets.flatten ++ unpackColumn 0 0 tail := by
  induction packets with
  | nil => rfl
  | cons packet packets ih =>
      obtain ⟨hp, hrest⟩ := List.forall_mem_cons.mp hpackets
      have hseven := hp.seven_le
      have hroom : 7 < (packet.map dropTo8 ++ (packets.flatten.map dropTo8 ++ tail)).length := by
        have := List.length_pos_iff.mpr htail
        simp only [List.length_append, List.length_map]
        omega
      rw [List.flatten_cons, List.map_append, List.append_assoc, hp.unpack hroom, ih hrest,
        List.append_assoc]

/-- **The last packet** is recognised if it has a payload, and padded otherwise. -/
lemma WellFormedPacket.unpack_last (h : WellFormedPacket packet) :
    unpackColumn 0 0 (packet.map dropTo8) =
      if 7 < packet.length then packet else (packet.map dropTo8).map padByte := by
  split
  · next hlong =>
      have hunpack : unpackColumn 0 0 (packet.map dropTo8 ++ []) = packet ++ unpackColumn 0 0 [] :=
        h.unpack (by rwa [List.append_nil, List.length_map])
      rwa [List.append_nil, unpackColumn_nil, List.append_nil] at hunpack
  · next hshort =>
      refine unpackColumn_pad fun hstart => hshort ?_
      have := hstart.1
      rwa [List.length_map] at this

/-- The flags of a packet that is padded are not its flags. -/
lemma WellFormedPacket.pad_ne (h : WellFormedPacket packet) :
    (packet.map dropTo8).map padByte ≠ packet := by
  obtain ⟨bytes, hwords, -⟩ := h.words
  rw [hwords]
  intro heq
  have hsecond := congrArg (List.getD · 1 0) heq
  have hpad : padByte (dropTo8 0x3FF) ≠ 0x3FF := by decide
  exact hpad hsecond

end Packets

/-! ### Lines of packets -/

/-- A line of 10-bit words, chroma and luma in turn, of a width that is unpacked (that of HD lines
is 1280, 1920 or 2048) and whose places have 32 bits. -/
structure VancLine where
  numPixels : ℕ
  lt : 2 * numPixels < 2 ^ 32
  twelve_le : 12 ≤ numPixels
  four_dvd : 4 ∣ numPixels
  words : List UWord
  length_eq : words.length = 2 * numPixels

namespace VancLine

/-- The line with 8 bits of each word. -/
def to8Bit (line : VancLine) (i : ℕ) : UByte := dropTo8 (line.words.getD i 0)

/-- A component of the line is well-formed packets from the first pixel on, and other words. -/
structure Carries (line : VancLine) (comp : ℕ) (packets : List (List UWord)) (rest : List UWord) :
    Prop where
  packets_ok : ∀ packet ∈ packets, WellFormedPacket packet
  words_eq : component line.numPixels comp line.words = packets.flatten ++ rest

/-- The line that is unpacked has the packets of both components again. -/
structure RestoresPackets (line : VancLine) : Prop where
  succeeds : (Unpack8BitYCbCrToU16sVANCLine (some line.to8Bit) line.numPixels).1 = true
  restored : ∀ comp < 2, ∀ packets rest, line.Carries comp packets rest →
    (component line.numPixels comp
      (Unpack8BitYCbCrToU16sVANCLine (some line.to8Bit) line.numPixels).2).take
        packets.flatten.length = packets.flatten

/-- The last packet of a component has no payload and ends with the line. -/
def EndsWithBare (packets : List (List UWord)) (rest : List UWord) : Prop :=
  rest = [] ∧ ∃ packet, packets.getLast? = some packet ∧ packet.length = 7

section Restore

variable {line : VancLine} {comp : ℕ} {packets : List (List UWord)} {rest : List UWord}

/-- The bytes of a component are those of its words. -/
lemma componentBytes_to8Bit :
    componentBytes line.to8Bit line.numPixels comp =
      (component line.numPixels comp line.words).map dropTo8 := by
  rw [component, List.map_map]
  rfl

/-- **Packets are restored** unless the last one is bare at the end of the line. -/
lemma Carries.restored (h : line.Carries comp packets rest) (hend : ¬ EndsWithBare packets rest) :
    (unpackColumn 0 0 (componentBytes line.to8Bit line.numPixels comp)).take
      packets.flatten.length = packets.flatten := by
  have hok := h.packets_ok
  rw [componentBytes_to8Bit, h.words_eq, List.map_append]
  rcases rest with _ | ⟨w, rest⟩
  · rcases List.eq_nil_or_concat packets with rfl | ⟨front, packet, rfl⟩
    · rfl
    rw [List.concat_eq_append] at hok hend ⊢
    have hp : WellFormedPacket packet :=
      hok packet (List.mem_append_right _ (List.mem_singleton_self _))
    have hnil : packet.map dropTo8 ≠ [] := by
      rw [← List.length_pos_iff, List.length_map]
      have := hp.seven_le
      omega
    have hlong : 7 < packet.length :=
      hp.seven_le.lt_of_ne fun hseven => hend ⟨rfl, packet, List.getLast?_concat, hseven.symm⟩
    rw [List.map_nil, List.append_nil, List.flatten_append, List.map_append, List.flatten_singleton,
      unpackColumn_packets (fun p hmem => hok p (List.mem_append_left _ hmem)) hnil,
      hp.unpack_last, if_pos hlong, List.take_length]
  · rw [List.map_cons, unpackColumn_packets hok (List.cons_ne_nil _ _), List.take_left]

/-- **A bare packet at the end of the line** is not restored. -/
lemma Carries.not_restored (h : line.Carries comp packets rest) (hend : EndsWithBare packets rest) :
    (unpackColumn 0 0 (componentBytes line.to8Bit line.numPixels comp)).take
      packets.flatten.length ≠ packets.flatten := by
  have hok := h.packets_ok
  obtain ⟨rfl, packet, hlast, hseven⟩ := hend
  obtain ⟨front, rfl⟩ := List.getLast?_eq_some_iff.mp hlast
  have hp : WellFormedPacket packet :=
    hok packet (List.mem_append_right _ (List.mem_singleton_self _))
  have hnil : packet.map dropTo8 ≠ [] := by
    rw [← List.length_pos_iff, List.length_map]
    omega
  have hlength : (front.flatten ++ (packet.map dropTo8).map padByte).length =
      (front.flatten ++ packet).length := by
    simp only [List.length_append, List.length_map]
  rw [componentBytes_to8Bit, h.words_eq, List.append_nil, List.flatten_append,
    List.flatten_singleton, List.map_append,
    unpackColumn_packets (fun p hmem => hok p (List.mem_append_left _ hmem)) hnil, hp.unpack_last,
    if_neg (by omega), ← hlength, List.take_length]
  exact fun heq => hp.pad_ne (List.append_cancel_left heq)

/-- What is unpacked of the line. -/
lemma unpack_eq (line : VancLine) :
    (Unpack8BitYCbCrToU16sVANCLine (some line.to8Bit) line.numPixels).1 = true ∧
      ∀ comp < 2, component line.numPixels comp
        (Unpack8BitYCbCrToU16sVANCLine (some line.to8Bit) line.numPixels).2 =
          unpackColumn 0 0 (componentBytes line.to8Bit line.numPixels comp) := by
  obtain ⟨out, hout, hcomponent⟩ := component_unpack line.to8Bit line.twelve_le line.four_dvd
  rw [hout]
  exact ⟨rfl, hcomponent⟩

end Restore

/-- **The packets of a line are restored** exactly where in no component the last packet has no
payload and ends with the line. -/
theorem restoresPackets_iff (line : VancLine) :
    line.RestoresPackets ↔ ∀ comp < 2, ∀ packets rest, line.Carries comp packets rest →
      ¬ EndsWithBare packets rest := by
  obtain ⟨hsucceeds, hcomponent⟩ := line.unpack_eq
  constructor
  · intro h comp hcomp packets rest hcarries hend
    refine hcarries.not_restored hend ?_
    rw [← hcomponent comp hcomp]
    exact h.restored comp hcomp packets rest hcarries
  · intro h
    refine ⟨hsucceeds, fun comp hcomp packets rest hcarries => ?_⟩
    rw [hcomponent comp hcomp]
    exact hcarries.restored (h comp hcomp packets rest hcarries)

end VancLine

/-! ### A line that is not restored -/

/-- The packets of 1920 words, the last of them without a payload. -/
def barePackets : List (List UWord) :=
  List.replicate 238 (packetWords [0, 0, 1, 0]) ++
    [packetWords [0, 0, 2, 0, 0], packetWords [0, 0, 0]]

/-- A line with these packets in both components. -/
def bareLine : VancLine where
  numPixels := 1920
  lt := by decide
  twelve_le := by decide
  four_dvd := by decide
  words := (List.range 3840).map fun i => barePackets.flatten.getD (i / 2) 0
  length_eq := by rw [List.length_map, List.length_range]

lemma wellFormed_barePackets : ∀ packet ∈ barePackets, WellFormedPacket packet := by
  intro packet hmem
  rcases List.mem_append.mp hmem with hmem | hmem
  · rw [List.eq_of_mem_replicate hmem]
    exact wellFormed_packetWords rfl
  · rcases List.mem_pair.mp hmem with rfl | rfl
    · exact wellFormed_packetWords rfl
    · exact wellFormed_packetWords rfl

/-- The line carries the packets. -/
lemma bareLine_carries : bareLine.Carries 0 barePackets [] := by
  refine ⟨wellFormed_barePackets, ?_⟩
  have hlength : barePackets.flatten.length = 1920 := by decide +kernel
  rw [List.append_nil, component]
  refine List.ext_getElem (by simp [hlength, bareLine]) fun i hi hi' => ?_
  have hhalf : (2 * i + 0) / 2 = i := by omega
  have hword : bareLine.words.getD (2 * i + 0) 0 =
      barePackets.flatten.getD ((2 * i + 0) / 2) 0 := by
    rw [List.getD_eq_getElem _ _ (by rw [bareLine.length_eq]; simp [bareLine]; omega)]
    simp only [bareLine, List.getElem_map, List.getElem_range]
  rw [List.getElem_map, List.getElem_range, hword, hhalf, List.getD_eq_getElem _ _ hi']

/-- **The last packet is not restored.** -/
theorem not_restoresPackets_bareLine : ¬ bareLine.RestoresPackets := by
  intro h
  obtain ⟨-, hcomponent⟩ := bareLine.unpack_eq
  refine bareLine_carries.not_restored ⟨rfl, packetWords [0, 0, 0], by decide, by decide⟩ ?_
  rw [← hcomponent 0 (by decide)]
  exact h.restored 0 (by decide) barePackets [] bareLine_carries

end LibAjaNtv2
