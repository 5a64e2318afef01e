import LibAjaNtv2.Firmware.Bitfile

/-!
The format of a bitfile's header, and how its parts are read.

* `BitfileSections`: the sections of a header, `BitfileSections.bytes` one after the other;
* `sectionField_ok_iff`, `findSignature_true_iff`: **where a section is read** and the signature found;
* `setRawDesign_ok_iff`: **the designs that are accepted**, with no more than one user ID;
* `checkText_ok_iff`: the dates and times that pass.
-/

namespace LibAjaNtv2

/-! ### Sections -/

/-- A length of sixteen bits, the high byte first. -/
def be16 (n : ℕ) : ByteString := [BitVec.ofNat 8 (n / 256), BitVec.ofNat 8 n]

/-- A word of 32 bits, the high byte first. -/
def be32 (v : ULWord) : ByteString :=
  [BitVec.ofNat 8 (v.toNat / 16777216), BitVec.ofNat 8 (v.toNat / 65536),
    BitVec.ofNat 8 (v.toNat / 256), BitVec.ofNat 8 v.toNat]

/-- A section: its tag, its length and its field. -/
def sectionBytes (tag : Byte) (field : ByteString) : ByteString :=
  tag :: (be16 field.length ++ field)

/-- The sections of a header. -/
structure BitfileSections where
  design : ByteString
  part : ByteString
  date : ByteString
  time : ByteString
  progSize : ULWord
  program : ByteString

namespace BitfileSections

/-- The sections one after the other, behind the first bytes. -/
def bytes (s : BitfileSections) : ByteString :=
  gHead13 ++ (sectionBytes 0x61 s.design ++ (sectionBytes 0x62 s.part ++
    (sectionBytes 0x63 s.date ++ (sectionBytes 0x64 s.time ++
      (0x65 :: (be32 s.progSize ++ s.program))))))

/-- The layout of a header: fields with lengths of sixteen bits, a program with a size, and its
signature within a thousand bytes. -/
structure Laid (s : BitfileSections) : Prop where
  design : s.design ≠ [] ∧ s.design.length < 65536
  part : s.part ≠ [] ∧ s.part.length < 65536
  date : s.date ≠ [] ∧ s.date.length < 65536
  time : s.time ≠ [] ∧ s.time.length < 65536
  size : s.progSize ≠ 0
  signature : ∃ k < 1000, (s.program.drop k).take 8 = gSignature

end BitfileSections

/-! ### Reading sections -/

section Read

variable {buf : NTV2Buffer} {pos pos' : ℕ} {tag : Byte} {f rest : ByteString}

lemma headerLength_eq (h : buf.bytes.length < 2147483648) :
    buf.headerLength = buf.bytes.length := by
  rw [NTV2Buffer.headerLength, BitVec.toInt_eq_toNat_cond, fByteCount_toNat]
  omega

lemma lt_of_headerLength (h : 0 ≤ buf.headerLength) : buf.bytes.length < 2147483648 := by
  have hlt := buf.size_lt
  rw [NTV2Buffer.headerLength, BitVec.toInt_eq_toNat_cond, fByteCount_toNat] at h
  omega

/-- The bytes of a segment, if they are in the buffer. -/
lemma view_eq {size : ULWord} (h : pos + size.toNat < 4294967296) : buf.view pos size = .ok
      (if pos + size.toNat ≤ buf.bytes.length then (buf.bytes.drop pos).take size.toNat
      else []) := by
  have hstart : (BitVec.ofNat 32 pos).toNat = pos := by
    rw [BitVec.toNat_ofNat]
    omega
  have hsum : (BitVec.ofNat 32 pos + size).toNat = pos + size.toNat := by
    rw [BitVec.toNat_add, hstart]
    omega
  rw [NTV2Buffer.view, NTV2Buffer.segment]
  have hcount := fByteCount_toNat buf
  by_cases hend : buf.fByteCount ≤ BitVec.ofNat 32 pos
  · rw [BitVec.le_def, hstart, hcount] at hend
    rw [if_pos (by rw [BitVec.le_def, hstart, hcount]; exact hend)]
    by_cases hzero : size.toNat = 0
    · simp [hzero]
    · rw [if_neg (by omega)]
  · rw [if_neg hend]
    rw [BitVec.le_def, hstart, hcount] at hend
    by_cases hlong : buf.fByteCount < BitVec.ofNat 32 pos + size
    · rw [if_pos hlong]
      rw [BitVec.lt_def, hsum, hcount] at hlong
      rw [if_neg (by omega)]
    · rw [if_neg hlong]
      rw [BitVec.lt_def, hsum, hcount] at hlong
      have hnull : buf.isNULL = false := by
        rw [NTV2Buffer.isNULL, List.isEmpty_eq_false_iff]
        rintro hnil
        rw [hnil, List.length_nil] at hend
        omega
      have hstart' : ¬ buf.fByteCount ≤ BitVec.ofNat 32 pos := by
        rw [BitVec.le_def, hstart, hcount]
        exact hend
      rw [if_pos (by omega), NTV2Buffer.getHostAddress, hnull, if_neg (by simp), if_neg hstart',
        NTV2Buffer.setRange]
      by_cases hzero : size = 0
      · rw [if_pos hzero, hzero]
        rfl
      · rw [if_neg hzero]
        dsimp only
        rw [hstart, if_pos (by omega)]

/-- A segment with bytes. -/
lemma portion_ok_iff (h : buf.bytes.length < 2147483648) (hpos : pos ≤ buf.bytes.length)
    {size : ULWord} (hsize : size.toNat < 65536) :
    buf.portion pos size = .ok f ↔
      f ≠ [] ∧ f.length = size.toNat ∧ ∃ rest, buf.bytes.drop pos = f ++ rest := by
  rw [NTV2Buffer.portion, view_eq (by omega), except_ok_bind]
  by_cases hin : pos + size.toNat ≤ buf.bytes.length
  · have hlength : ((buf.bytes.drop pos).take size.toNat).length = size.toNat := by
      rw [List.length_take, List.length_drop]
      omega
    rw [if_pos hin]
    constructor
    · intro hok
      split_ifs at hok with hnil
      obtain rfl := Except.ok.inj hok
      exact ⟨hnil, hlength, _, (List.take_append_drop _ _).symm⟩
    · rintro ⟨hne, hlen, rest, hrest⟩
      rw [hrest, ← hlen, List.take_left, if_neg hne]
  · rw [if_neg hin]
    refine iff_of_false (by simp) ?_
    rintro ⟨-, hlen, rest, hrest⟩
    have hlength := congrArg List.length hrest
    rw [List.length_drop, List.length_append, hlen] at hlength
    omega

/-- The next place is in the buffer. -/
lemma bumpPos_ok_iff (h : buf.bytes.length < 2147483648) {inc : ℕ} :
    buf.bumpPos pos inc = .ok pos' ↔ pos' = pos + inc ∧ pos + inc < buf.bytes.length := by
  rw [NTV2Buffer.bumpPos, headerLength_eq h]
  split_ifs with hend
  · exact iff_of_false (by simp) (by omega)
  · rw [Except.ok.injEq, eq_comm]
    exact (and_iff_left (by omega)).symm

/-- What is behind the bytes at a place. -/
lemma drop_of_append {l x : ByteString} (hpos : pos ≤ l.length) (hdrop : l.drop pos = x ++ rest) :
    l.drop (pos + x.length) = rest ∧ pos + x.length + rest.length = l.length := by
  have hlength := congrArg List.length hdrop
  rw [List.length_drop, List.length_append] at hlength
  refine ⟨?_, by omega⟩
  rw [← List.drop_drop, hdrop, List.drop_left]

/-- The tag of a section, with something behind it. -/
lemma checkTag_ok_iff (h : buf.bytes.length < 2147483648) :
    checkTag buf tag pos = .ok pos' ↔
      pos' = pos + 1 ∧ ∃ rest, rest ≠ [] ∧ buf.bytes.drop pos = tag :: rest := by
  rw [checkTag, except_bind_ok_iff]
  constructor
  · rintro ⟨b, hb, hok⟩
    rw [NTV2Buffer.i8] at hb
    split at hb
    · cases hb
    · next b' hget =>
      obtain rfl := Except.ok.inj hb
      split_ifs at hok with htag
      obtain ⟨hpos, hlt⟩ := (bumpPos_ok_iff h).mp hok
      obtain ⟨hin, hval⟩ := List.getElem?_eq_some_iff.mp hget
      refine ⟨hpos, buf.bytes.drop (pos + 1), ?_, ?_⟩
      · intro hnil
        have := congrArg List.length hnil
        rw [List.length_drop, List.length_nil] at this
        omega
      · rw [List.drop_eq_getElem_cons hin, hval, not_not.mp htag]
  · rintro ⟨rfl, rest, hne, hdrop⟩
    have hget : buf.bytes[pos]? = some tag := by
      have hfirst : (buf.bytes.drop pos)[0]? = some tag := by rw [hdrop, List.getElem?_cons_zero]
      rwa [List.getElem?_drop, Nat.add_zero] at hfirst
    have hlength := congrArg List.length hdrop
    rw [List.length_drop, List.length_cons] at hlength
    have hpos := List.length_pos_iff.mpr hne
    refine ⟨tag, by rw [NTV2Buffer.i8, hget], ?_⟩
    rw [if_neg (not_not.mpr rfl)]
    exact (bumpPos_ok_iff h).mpr ⟨rfl, by omega⟩

/-- A length of sixteen bits is read back. -/
lemma swap16BtoH_ok_iff {l : ByteString} (hl : l.length = 2) {v : ULWord} :
    swap16BtoH l = .ok v ↔ v.toNat < 65536 ∧ l = be16 v.toNat := by
  obtain ⟨b₀, b₁, rfl⟩ := List.length_eq_two.mp hl
  rw [swap16BtoH, Except.ok.injEq, be16]
  constructor
  · rintro rfl
    have h₀ := b₀.isLt
    have h₁ := b₁.isLt
    rw [BitVec.toNat_ofNat]
    refine ⟨by omega, ?_⟩
    congr 1
    · apply BitVec.eq_of_toNat_eq
      rw [BitVec.toNat_ofNat]
      omega
    · congr 1
      apply BitVec.eq_of_toNat_eq
      rw [BitVec.toNat_ofNat]
      omega
  · rintro ⟨hv, heq⟩
    obtain ⟨rfl, rfl⟩ : b₀ = BitVec.ofNat 8 (v.toNat / 256) ∧ b₁ = BitVec.ofNat 8 v.toNat := by
      simpa using heq
    apply BitVec.eq_of_toNat_eq
    rw [BitVec.toNat_ofNat, BitVec.toNat_ofNat, BitVec.toNat_ofNat]
    omega

/-- A word is read back. -/
lemma swap32BtoH_ok_iff {l : ByteString} (hl : l.length = 4) {v : ULWord} :
    swap32BtoH l = .ok v ↔ l = be32 v := by
  obtain ⟨b₀, b₁, b₂, b₃, rfl⟩ : ∃ b₀ b₁ b₂ b₃, l = [b₀, b₁, b₂, b₃] := by
    match l, hl with
    | [b₀, b₁, b₂, b₃], _ => exact ⟨b₀, b₁, b₂, b₃, rfl⟩
  have hv := v.isLt
  rw [swap32BtoH, Except.ok.injEq, be32]
  constructor
  · rintro rfl
    have h₀ := b₀.isLt
    have h₁ := b₁.isLt
    have h₂ := b₂.isLt
    have h₃ := b₃.isLt
    rw [BitVec.toNat_ofNat]
    simp only [List.cons.injEq, and_true, ← BitVec.toNat_inj, BitVec.toNat_ofNat]
    omega
  · intro heq
    simp only [List.cons.injEq, and_true] at heq
    obtain ⟨rfl, rfl, rfl, rfl⟩ := heq
    simp only [← BitVec.toNat_inj, BitVec.toNat_ofNat]
    omega

/-- **A section is read** where its tag, its length and its field are at the place. -/
lemma sectionField_ok_iff (h : buf.bytes.length < 2147483648) (hpos : pos ≤ buf.bytes.length) :
    sectionField buf tag pos = .ok (f, pos') ↔ pos' = pos + 3 ∧ (f ≠ [] ∧ f.length < 65536) ∧
      ∃ rest, buf.bytes.drop pos = sectionBytes tag f ++ rest := by
  rw [sectionField]
  simp only [except_bind_ok_iff]
  constructor
  · rintro ⟨p₁, h₁, l, hl, v, hv, p₂, h₂, field, hfield, hret⟩
    obtain ⟨rfl, r₁, -, hr₁⟩ := (checkTag_ok_iff h).mp h₁
    obtain ⟨hdrop₁, hlen₁⟩ := drop_of_append hpos (show _ = [tag] ++ r₁ from hr₁)
    rw [List.length_singleton] at hdrop₁ hlen₁
    obtain ⟨-, hl2, r₂, hr₂⟩ := (portion_ok_iff h (by omega) (by decide)).mp hl
    obtain ⟨hv16, rfl⟩ := (swap16BtoH_ok_iff hl2).mp hv
    obtain ⟨hdrop₂, hlen₂⟩ := drop_of_append (by omega) hr₂
    obtain ⟨rfl, -⟩ := (bumpPos_ok_iff h).mp h₂
    change _ + 2 + _ = _ at hlen₂
    obtain ⟨hne, hflen, r₃, hr₃⟩ := (portion_ok_iff h (by omega) hv16).mp hfield
    obtain ⟨rfl, rfl⟩ := Prod.mk.inj (Except.ok.inj hret)
    refine ⟨by omega, ⟨hne, by omega⟩, r₃, ?_⟩
    change buf.bytes.drop (pos + 1 + 2) = r₂ at hdrop₂
    rw [hr₁, ← hdrop₁, hr₂, ← hdrop₂, hr₃, sectionBytes, hflen, List.cons_append,
      List.append_assoc]
  · rintro ⟨rfl, ⟨hne, hflen⟩, rest, hrest⟩
    rw [sectionBytes, List.cons_append, List.append_assoc] at hrest
    have htag : buf.bytes.drop pos = [tag] ++ (be16 f.length ++ (f ++ rest)) := hrest
    obtain ⟨hdrop₁, hlen₁⟩ := drop_of_append hpos htag
    rw [List.length_singleton] at hdrop₁ hlen₁
    obtain ⟨hdrop₂, hlen₂⟩ := drop_of_append (by omega) hdrop₁
    change buf.bytes.drop (pos + 1 + 2) = _ at hdrop₂
    change pos + 1 + 2 + _ = _ at hlen₂
    have hfpos := List.length_pos_iff.mpr hne
    rw [List.length_append] at hlen₂
    have hsize : (BitVec.ofNat 32 f.length).toNat = f.length := by
      rw [BitVec.toNat_ofNat]
      omega
    refine ⟨pos + 1, (checkTag_ok_iff h).mpr ⟨rfl, _, by simp [be16], hrest⟩, be16 f.length,
      (portion_ok_iff h (by omega) (by decide)).mpr ⟨by simp [be16], rfl, _, hdrop₁⟩,
      BitVec.ofNat 32 f.length, (swap16BtoH_ok_iff rfl).mpr ?_, pos + 1 + 2,
      (bumpPos_ok_iff h).mpr ⟨rfl, by omega⟩, f,
      (portion_ok_iff h (by omega) ?_).mpr ⟨hne, hsize.symm, rest, hdrop₂⟩, rfl⟩
    · rw [hsize]
      exact ⟨hflen, rfl⟩
    · rw [hsize]
      exact hflen

/-- **The signature is found** where it starts at one of the places. -/
lemma findSignature_true_iff (h : buf.bytes.length < 2147483648) {fuel : ℕ}
    (hpos : pos ≤ buf.bytes.length) :
    (∃ found, findSignature buf fuel pos = .ok found ∧ found.1 = true) ↔
      ∃ k < fuel, (buf.bytes.drop (pos + k)).take 8 = gSignature := by
  induction fuel generalizing pos with
  | zero => simp [findSignature]
  | succ fuel ih =>
      have hview := @view_eq buf pos 8 (by
        change pos + 8 < _
        omega)
      have hhere : (if pos + (8 : ULWord).toNat ≤ buf.bytes.length then
          (buf.bytes.drop pos).take (8 : ULWord).toNat else []) = gSignature ↔
          (buf.bytes.drop pos).take 8 = gSignature := by
        change (if pos + 8 ≤ _ then (buf.bytes.drop pos).take 8 else []) = _ ↔ _
        split_ifs with hin
        · rfl
        · refine iff_of_false (by decide) fun heq => ?_
          have := congrArg List.length heq
          rw [List.length_take, List.length_drop] at this
          change _ = 8 at this
          omega
      rw [findSignature, headerLength_eq h, hview, except_ok_bind]
      by_cases hend : (buf.bytes.length : Int) ≤ pos
      · rw [if_pos hend]
        refine iff_of_false (by simp) ?_
        rintro ⟨k, -, hk⟩
        rw [List.drop_of_length_le (by omega)] at hk
        cases hk
      · rw [if_neg hend]
        by_cases hfound : (buf.bytes.drop pos).take 8 = gSignature
        · rw [if_pos (hhere.mpr hfound)]
          exact iff_of_true ⟨_, rfl, rfl⟩ ⟨0, Nat.succ_pos _, hfound⟩
        · rw [if_neg (mt hhere.mp hfound), ih (by omega)]
          constructor
          · rintro ⟨k, hk, heq⟩
            exact ⟨k + 1, by omega, by rwa [← Nat.add_assoc, Nat.add_right_comm]⟩
          · rintro ⟨k, hk, heq⟩
            cases k with
            | zero => exact absurd heq hfound
            | succ k => exact ⟨k, by omega, by rwa [Nat.add_right_comm, Nat.add_assoc]⟩

end Read

/-! ### Strings -/

/-- The text of a field: its bytes up to a null character. -/
def textOf (field : ByteString) : ByteString := field.takeWhile (· ≠ 0)

/-- A string is the text of a field, cut to a number of characters. -/
lemma getString_eq (field : ByteString) {n : ℕ} (hn : n ≠ 0) :
    getString field n = (textOf field).take n := by
  rw [getString, textOf, List.take_takeWhile]
  by_cases hlong : n < field.length
  · rw [if_pos ⟨hn, hlong⟩]
  · rw [if_neg fun h => hlong h.2, List.take_length, List.take_of_length_le (not_lt.mp hlong)]

/-- The parameters of a design with a user ID. -/
def userIDs (design : ByteString) : List ByteString :=
  ((Aja.lowerString design).splitOn 0x3B).filter userIDKey.isPrefixOf

/-- A well-formed user ID: no second equals sign, at least three characters, and digits behind a
`0x`, if there is one. -/
structure WellFormedID (userIDValue : ByteString) : Prop where
  equals : 0x3D ∉ userIDValue
  long : 3 ≤ userIDValue.length
  digits : ∀ d ∈ userIDDigits userIDValue, (lowerHexDigit d).isSome = true

/-- The user ID of a design, which has none or one that is well formed. -/
def HasUserID (design : ByteString) : Option ℕ → Prop
  | none => userIDs design = []
  | some n => ∃ userIDValue, userIDs design = [userIDKey ++ userIDValue] ∧
      WellFormedID userIDValue ∧ n = hexNumber (userIDDigits userIDValue)

/-- A well-formed design: eight characters, a name, and no more than one user ID. -/
structure WellFormedDesign (design : ByteString) : Prop where
  long : 8 ≤ design.length
  name : design.takeWhile NTV2BitfileHeaderParser.isNameChar ≠ []
  userID : ∃ id, HasUserID design id

section Design

variable {design userIDSegment userIDValue : ByteString} {segments : List ByteString}
  {id id' : Option ℕ}

/-- The parameter with the user ID is the only one. -/
lemma findUserID_ok_iff (hu : userIDSegment = [] ∨ userIDKey.isPrefixOf userIDSegment = true)
    {r : ByteString} : findUserID design segments userIDSegment = .ok r ↔
      (if userIDSegment = [] then (segments.filter userIDKey.isPrefixOf = [] ∧ r = []) ∨
          (r ≠ [] ∧ segments.filter userIDKey.isPrefixOf = [r])
        else segments.filter userIDKey.isPrefixOf = [] ∧ r = userIDSegment) := by
  induction segments generalizing userIDSegment with
  | nil =>
      rw [findUserID, Except.ok.injEq, List.filter_nil]
      split_ifs with hnil
      · rw [hnil, eq_comm]
        simp
      · rw [eq_comm]
        simp
  | cons it segments ih =>
      rw [findUserID]
      by_cases hprefix : userIDKey.isPrefixOf it = true
      · have hne : it ≠ [] := by
          rintro rfl
          cases hprefix
        rw [if_pos hprefix, List.filter_cons_of_pos hprefix]
        by_cases hnil : userIDSegment = []
        · rw [if_pos hnil, if_pos hnil, ih (.inr hprefix), if_neg hne]
          constructor
          · rintro ⟨hnone, rfl⟩
            exact .inr ⟨hne, by rw [hnone]⟩
          · rintro (⟨h, -⟩ | ⟨-, h⟩)
            · cases h
            · obtain ⟨rfl, hnone⟩ := List.cons.inj h
              exact ⟨hnone, rfl⟩
        · rw [if_neg hnil, if_neg hnil]
          exact iff_of_false (by simp) fun h => by cases h.1
      · rw [if_neg hprefix, List.filter_cons_of_neg hprefix, ih hu]

/-- The user ID of a parameter. -/
lemma parseUserID_ok_iff {userID : ULWord} :
    parseUserID (userIDKey ++ userIDValue) = .ok userID ↔ WellFormedID userIDValue ∧
      userID = BitVec.ofNat 32 (stoulHex (userIDDigits userIDValue)) := by
  have hsplit : Aja.splitString (userIDKey ++ userIDValue) (bytesOf "=") =
      bytesOf "userid" :: userIDValue.splitOn 0x3D := by
    rw [show bytesOf "=" = [0x3D] by decide, Aja.splitString_singleton,
      show userIDKey ++ userIDValue = bytesOf "userid" ++ 0x3D :: userIDValue from rfl]
    exact List.splitOn_append_cons_self_of_not_mem (by decide) _
  rw [parseUserID, hsplit]
  by_cases hequals : 0x3D ∈ userIDValue
  · obtain ⟨item, rest, heq, hitem⟩ := List.eq_append_cons_of_mem hequals
    have hmany : ∃ x y l, userIDValue.splitOn 0x3D = x :: y :: l := by
      obtain ⟨y, l, hl⟩ := List.exists_cons_of_ne_nil (List.splitOn_ne_nil (0x3D : Byte) rest)
      exact ⟨item, y, l, by rw [heq, List.splitOn_append_cons_self_of_not_mem hitem, hl]⟩
    obtain ⟨x, y, l, hl⟩ := hmany
    rw [hl]
    refine iff_of_false ?_ fun h => h.1.equals hequals
    simp
  · rw [List.splitOn_eq_singleton hequals]
    dsimp only
    by_cases hlong : userIDValue.length < 3
    · rw [if_pos hlong]
      exact iff_of_false (by simp) fun h => absurd h.1.long (not_le.mpr hlong)
    · rw [if_neg hlong]
      cases hfind : (userIDDigits userIDValue).find? fun d => (lowerHexDigit d).isNone with
      | some d =>
          refine iff_of_false (by simp) fun h => ?_
          have hsome := h.1.digits d (List.mem_of_find?_eq_some hfind)
          have hnone := List.find?_some hfind
          rw [Option.isNone_iff_eq_none] at hnone
          rw [hnone] at hsome
          cases hsome
      | none =>
          rw [List.find?_eq_none] at hfind
          rw [Except.ok.injEq, eq_comm]
          refine ⟨fun h => ⟨⟨hequals, not_lt.mp hlong, fun d hd => ?_⟩, h⟩, fun h => h.2⟩
          simpa [Option.isSome_iff_ne_none] using hfind d hd

/-- A design has one user ID. -/
lemma HasUserID.unique (h : HasUserID design id) (h' : HasUserID design id') : id = id' := by
  cases id with
  | none =>
      cases id' with
      | none => rfl
      | some n =>
          obtain ⟨v, hv, -⟩ := h'
          rw [show userIDs design = [] from h] at hv
          cases hv
  | some n =>
      obtain ⟨v, hv, -, rfl⟩ := h
      cases id' with
      | none =>
          rw [show userIDs design = [] from h'] at hv
          cases hv
      | some n' =>
          obtain ⟨v', hv', -, rfl⟩ := h'
          rw [hv] at hv'
          rw [List.append_cancel_left (List.cons.inj hv').1]

/-- The fields with a design. -/
def withDesign (p : NTV2BitfileHeaderParser) (design : ByteString) (id : Option ℕ) :
    NTV2BitfileHeaderParser :=
  match id with
  | none => { p with mRawDesignName := design }
  | some n =>
      { p with mRawDesignName := design }.withUserID
        (BitVec.ofNat 32 (min n 18446744073709551615))

/-- **A design is accepted** where it is long enough and has no more than one user ID. -/
lemma setRawDesign_ok_iff (hzero : (0 : Byte) ∉ design) {p q : NTV2BitfileHeaderParser}
    {u : Unit} : setRawDesign design p = (.ok u, q) ↔
      8 ≤ design.length ∧ ∃ id, HasUserID design id ∧ q = withDesign p design id := by
  have hlast : design.getLast? ≠ some 0 := fun h => hzero (List.mem_of_getLast? h)
  have hsplit : Aja.splitString (Aja.lowerString design) (bytesOf ";") =
      (Aja.lowerString design).splitOn 0x3B := by
    rw [show bytesOf ";" = [0x3B] by decide, Aja.splitString_singleton]
  unfold setRawDesign
  simp only [Attempt.bind_ok_iff, Attempt.modify_ok_iff, Attempt.require_ok_iff,
    Attempt.lift_ok_iff, if_neg hlast, hsplit]
  constructor
  · rintro ⟨-, _, rfl, -, _, ⟨hlong, rfl⟩, -, _, rfl, segment, _, ⟨hfind, rfl⟩, hrest⟩
    refine ⟨hlong, ?_⟩
    rw [findUserID_ok_iff (.inl rfl), if_pos rfl] at hfind
    rcases hfind with ⟨hnone, rfl⟩ | ⟨hne, hone⟩
    · rw [if_pos rfl, Attempt.pure_ok_iff] at hrest
      exact ⟨none, hnone, hrest.2.symm⟩
    · have hprefix : userIDKey.isPrefixOf segment = true :=
        (List.mem_filter.mp (hone ▸ List.mem_singleton_self segment)).2
      obtain ⟨value, rfl⟩ := List.isPrefixOf_iff_prefix.mp hprefix
      rw [if_neg hne, Attempt.bind_ok_iff] at hrest
      obtain ⟨userID, t, hparse, hmodify⟩ := hrest
      rw [Attempt.lift_ok_iff, parseUserID_ok_iff] at hparse
      rw [Attempt.modify_ok_iff] at hmodify
      obtain ⟨⟨hwell, rfl⟩, rfl⟩ := hparse
      exact ⟨some _, ⟨value, hone, hwell, rfl⟩, hmodify.symm⟩
  · rintro ⟨hlong, id, hid, rfl⟩
    refine ⟨(), _, rfl, (), _, ⟨hlong, rfl⟩, (), _, rfl, ?_⟩
    cases id with
    | none =>
        refine ⟨[], _, ⟨(findUserID_ok_iff (.inl rfl)).mpr ?_, rfl⟩, ?_⟩
        · rw [if_pos rfl]
          exact .inl ⟨hid, rfl⟩
        · rw [if_pos rfl, Attempt.pure_ok_iff]
          exact ⟨rfl, rfl⟩
    | some n =>
        obtain ⟨value, hvalue, hwell, rfl⟩ := hid
        have hne : userIDKey ++ value ≠ [] := by simp [userIDKey, bytesOf]
        refine ⟨userIDKey ++ value, _, ⟨(findUserID_ok_iff (.inl rfl)).mpr ?_, rfl⟩, ?_⟩
        · rw [if_pos rfl]
          exact .inr ⟨hne, hvalue⟩
        · rw [if_neg hne, Attempt.bind_ok_iff]
          exact ⟨_, _, Attempt.lift_ok_iff.mpr ⟨parseUserID_ok_iff.mpr ⟨hwell, rfl⟩, rfl⟩,
            Attempt.modify_ok_iff.mpr rfl⟩

end Design

/-! ### Date and time -/

/-- What a check stands for: a digit, or the very character. -/
def CharCheck.Exact : CharCheck → Byte → Prop
  | .digit, ch => 0x30 ≤ ch ∧ ch ≤ 0x39
  | .char c, ch => ch = c

/-- What a check lets pass: a digit, or a character from the one on. -/
def CharCheck.Passes : CharCheck → Byte → Prop
  | .digit, ch => 0x30 ≤ ch ∧ ch ≤ 0x39
  | .char c, ch => c.sle ch = true

/-- The text has the characters that are checked for. -/
def MatchesExactly (checks : List CharCheck) (text : ByteString) : Prop :=
  List.Forall₂ CharCheck.Exact checks text

/-- The text passes the checks. -/
def PassesChecks (checks : List CharCheck) (text : ByteString) : Prop :=
  List.Forall₂ CharCheck.Passes checks text

/-- The very text passes. -/
lemma MatchesExactly.passes {checks : List CharCheck} {text : ByteString}
    (h : MatchesExactly checks text) : PassesChecks checks text := by
  refine h.imp fun check ch hch => ?_
  cases check with
  | digit => exact hch
  | char c =>
      rw [show ch = c from hch]
      exact BitVec.sle_iff_toInt_le.mpr le_rfl

/-- The characters of a text are accepted where they pass, from a place on. -/
lemma checkChars_ok_iff {checks : List CharCheck} {text : ByteString} {pos : ℕ}
    (hlength : pos + checks.length = text.length) {u : Unit} :
    checkChars text checks pos = .ok u ↔ PassesChecks checks (text.drop pos) := by
  induction checks generalizing pos with
  | nil =>
      rw [List.length_nil, Nat.add_zero] at hlength
      rw [List.drop_of_length_le hlength.ge]
      exact iff_of_true rfl .nil
  | cons check checks ih =>
      rw [List.length_cons] at hlength
      have hpos : pos < text.length := by omega
      rw [checkChars, List.getElem?_eq_getElem hpos, List.drop_eq_getElem_cons hpos,
        PassesChecks, List.forall₂_cons]
      have hrest := @ih (pos + 1) (by omega)
      rw [PassesChecks] at hrest
      cases check with
      | digit =>
          have hdigit : (text[pos].slt 0x30 || (0x39 : Byte).slt text[pos]) = true ↔
              ¬ CharCheck.Passes .digit text[pos] := by
            rw [CharCheck.Passes, Bool.or_eq_true, BitVec.slt_iff_toInt_lt,
              BitVec.slt_iff_toInt_lt, BitVec.le_def, BitVec.le_def,
              BitVec.toInt_eq_toNat_cond text[pos]]
            have hlt := text[pos].isLt
            simp only [show (0x30 : Byte).toInt = 48 by decide,
              show (0x39 : Byte).toInt = 57 by decide, show (0x30 : Byte).toNat = 48 by decide,
              show (0x39 : Byte).toNat = 57 by decide]
            omega
          dsimp only
          rw [← hrest]
          by_cases hbad : (text[pos].slt 0x30 || (0x39 : Byte).slt text[pos]) = true
          · rw [if_pos hbad]
            exact iff_of_false (by simp) fun h => hdigit.mp hbad h.1
          · rw [if_neg hbad]
            exact (and_iff_right (not_not.mp (mt hdigit.mpr hbad))).symm
      | char c =>
          have hchar : text[pos].slt c = true ↔ ¬ CharCheck.Passes (.char c) text[pos] := by
            rw [CharCheck.Passes, BitVec.slt_iff_toInt_lt, BitVec.sle_iff_toInt_le, not_le]
          dsimp only
          rw [← hrest]
          by_cases hbad : text[pos].slt c = true
          · rw [if_pos hbad]
            exact iff_of_false (by simp) fun h => hchar.mp hbad h.1
          · rw [if_neg hbad]
            exact (and_iff_right (not_not.mp (mt hchar.mpr hbad))).symm

/-- A text is accepted where it passes the checks. -/
lemma checkText_ok_iff {checks : List CharCheck} {text : ByteString} {u : Unit} :
    checkText checks text = .ok u ↔ PassesChecks checks text := by
  rw [checkText]
  by_cases hlength : text.length = checks.length
  · rw [if_neg (not_not.mpr hlength), checkChars_ok_iff (by omega), List.drop_zero]
  · rw [if_pos hlength]
    exact iff_of_false (by simp) fun h => hlength h.length_eq.symm

end LibAjaNtv2
