import LibAjaNtv2.Firmware.BitfileFormat

/-!
What the parser of a bitfile's header accepts.

* `parseSections_ok_iff`: **the sections it accepts, and with what fields**;
* `parseSections_sound`: no read leaves the buffer, and a failed header is not valid;
* `BitfileSections.WellFormed`, `BitfileSections.Reports`: the format, and the fields that a header
  gives;
* `parseHeader_exact_iff`: **the parser accepts exactly the format** where the strings are short, the
  separators right and the user ID is a word.
-/

namespace LibAjaNtv2

/-! ### The parser -/

/-- The sections are accepted: a buffer below 2 GB, a design well formed as far as it is read, and
a date and a time that pass. -/
structure BitfileSections.Accepted (s : BitfileSections) : Prop where
  short : s.bytes.length < 2147483648
  design : WellFormedDesign ((textOf s.design).take 128)
  date : PassesChecks dateChecks ((textOf s.date).take 10)
  time : PassesChecks timeChecks ((textOf s.time).take 8)

/-- The fields of a parser with the sections. -/
def BitfileSections.parsed (s : BitfileSections) (p : NTV2BitfileHeaderParser) (id : Option ℕ) :
    NTV2BitfileHeaderParser :=
  { withDesign p.clear ((textOf s.design).take 128) id with
    mPartName := (textOf s.part).take 128
    mDate := (textOf s.date).take 10
    mTime := (textOf s.time).take 8
    mProgSizeBytes := s.progSize
    mProgOffsetBytes := BitVec.ofNat 32 (s.bytes.length - s.program.length) }

section Parse

variable {buf : NTV2Buffer} {pos pos₁ pos₂ : ℕ} {tag : Byte} {f : ByteString}

/-- The first bytes are read, and more behind them. -/
lemma head_ok_iff (h : buf.bytes.length < 2147483648) :
    buf.view 0 13 = .ok gHead13 ∧ buf.bumpPos 0 13 = .ok pos ↔
      pos = 13 ∧ ∃ rest, rest ≠ [] ∧ buf.bytes = gHead13 ++ rest := by
  rw [bumpPos_ok_iff h, view_eq (by decide), Except.ok.injEq]
  change (if 0 + 13 ≤ _ then (buf.bytes.drop 0).take 13 else []) = _ ∧ _ ↔ _
  simp only [List.drop_zero, Nat.zero_add]
  constructor
  · rintro ⟨hhead, rfl, hlong⟩
    rw [if_pos hlong.le] at hhead
    refine ⟨rfl, buf.bytes.drop 13, ?_, by rw [← hhead, List.take_append_drop]⟩
    rw [Ne, List.drop_eq_nil_iff]
    omega
  · rintro ⟨rfl, rest, hne, heq⟩
    have hlength := congrArg List.length heq
    have hpos := List.length_pos_iff.mpr hne
    rw [List.length_append, show gHead13.length = 13 from rfl] at hlength
    refine ⟨?_, rfl, by omega⟩
    rw [if_pos (by omega), heq]
    exact List.take_left' rfl

/-- **A section is passed** where it is at the place and something is behind it. -/
lemma passSection_iff (h : buf.bytes.length < 2147483648) (hpos : pos ≤ buf.bytes.length) :
    sectionField buf tag pos = .ok (f, pos₁) ∧ buf.bumpPos pos₁ f.length = .ok pos₂ ↔
      pos₁ = pos + 3 ∧ pos₂ = pos + (sectionBytes tag f).length ∧ (f ≠ [] ∧ f.length < 65536) ∧
        ∃ rest, rest ≠ [] ∧ buf.bytes.drop pos = sectionBytes tag f ++ rest := by
  have hsection : (sectionBytes tag f).length = 3 + f.length := by
    rw [sectionBytes, List.length_cons, List.length_append]
    change 2 + f.length + 1 = _
    omega
  rw [sectionField_ok_iff h hpos, bumpPos_ok_iff h, hsection]
  constructor
  · rintro ⟨⟨rfl, hf, rest, hrest⟩, rfl, hlt⟩
    have hlen := (drop_of_append hpos hrest).2
    refine ⟨rfl, by omega, hf, rest, ?_, hrest⟩
    rintro rfl
    rw [hsection, List.length_nil] at hlen
    omega
  · rintro ⟨rfl, rfl, hf, rest, hne, hrest⟩
    have hlen := (drop_of_append hpos hrest).2
    have hpos' := List.length_pos_iff.mpr hne
    rw [hsection] at hlen
    exact ⟨⟨rfl, hf, rest, hrest⟩, by omega, by omega⟩

/-- The size of the program is read, and what is behind it. -/
lemma progSize_ok_iff (h : buf.bytes.length < 2147483648) (hpos : pos ≤ buf.bytes.length)
    {progSize : ULWord} :
    (∃ tagPos, checkTag buf tag pos = .ok tagPos ∧ ∃ size, buf.portion tagPos 4 = .ok size ∧
        swap32BtoH size = .ok progSize ∧ buf.bumpPos tagPos 4 = .ok pos₁) ↔
      pos₁ = pos + 5 ∧ ∃ rest, rest ≠ [] ∧
        buf.bytes.drop pos = (tag :: be32 progSize) ++ rest := by
  constructor
  · rintro ⟨tagPos, htag, size, hsize, hswap, hbump⟩
    obtain ⟨rfl, r₁, -, hr₁⟩ := (checkTag_ok_iff h).mp htag
    obtain ⟨hdrop₁, hlen₁⟩ := drop_of_append hpos (show _ = [tag] ++ r₁ from hr₁)
    rw [List.length_singleton] at hdrop₁ hlen₁
    obtain ⟨-, hl4, r₂, hr₂⟩ := (portion_ok_iff h (by omega) (by decide)).mp hsize
    obtain rfl := (swap32BtoH_ok_iff hl4).mp hswap
    obtain ⟨rfl, hlt⟩ := (bumpPos_ok_iff h).mp hbump
    have hlen₂ := (drop_of_append (by omega) hr₂).2
    change _ + 4 + _ = _ at hlen₂
    refine ⟨rfl, r₂, ?_, ?_⟩
    · rintro rfl
      rw [List.length_nil] at hlen₂
      omega
    · rw [hr₁, ← hdrop₁, hr₂, List.cons_append]
  · rintro ⟨rfl, rest, hne, hrest⟩
    rw [List.cons_append] at hrest
    obtain ⟨hdrop₁, hlen₁⟩ := drop_of_append hpos (show _ = [tag] ++ (be32 progSize ++ rest) from hrest)
    rw [List.length_singleton, List.length_append] at hlen₁
    rw [List.length_singleton] at hdrop₁
    change pos + 1 + (4 + _) = _ at hlen₁
    have hpos' := List.length_pos_iff.mpr hne
    refine ⟨pos + 1, (checkTag_ok_iff h).mpr ⟨rfl, _, by simp [be32], hrest⟩, be32 progSize,
      (portion_ok_iff h (by omega) (by decide)).mpr ⟨by simp [be32], rfl, rest, hdrop₁⟩,
      (swap32BtoH_ok_iff rfl).mpr rfl, (bumpPos_ok_iff h).mpr ⟨rfl, by omega⟩⟩

/-- A check that leaves the parser as it is, before a change of it. -/
lemma checked_iff {P : Prop} {p q : NTV2BitfileHeaderParser}
    {change : NTV2BitfileHeaderParser → NTV2BitfileHeaderParser} :
    (∃ (_ : Unit) (p' : NTV2BitfileHeaderParser), (P ∧ p = p') ∧ change p' = q) ↔
      P ∧ change p = q := by
  constructor
  · rintro ⟨_, _, ⟨h, rfl⟩, hq⟩
    exact ⟨h, hq⟩
  · rintro ⟨h, hq⟩
    exact ⟨(), p, ⟨h, rfl⟩, hq⟩

/-- `SetDate` accepts what passes its checks. -/
lemma setDate_ok_iff {p q : NTV2BitfileHeaderParser} {u : Unit} :
    setDate f p = (.ok u, q) ↔ PassesChecks dateChecks f ∧ { p with mDate := f } = q := by
  rw [setDate]
  simp only [Attempt.bind_ok_iff, Attempt.lift_ok_iff, Attempt.modify_ok_iff, checkText_ok_iff]
  exact checked_iff

/-- `SetTime` accepts what passes its checks. -/
lemma setTime_ok_iff {p q : NTV2BitfileHeaderParser} {u : Unit} :
    setTime f p = (.ok u, q) ↔ PassesChecks timeChecks f ∧ { p with mTime := f } = q := by
  rw [setTime]
  simp only [Attempt.bind_ok_iff, Attempt.lift_ok_iff, Attempt.modify_ok_iff, checkText_ok_iff]
  exact checked_iff

/-- `SetProgramSizeBytes` accepts what is not zero. -/
lemma setProgramSizeBytes_ok_iff {p q : NTV2BitfileHeaderParser} {u : Unit} {v : ULWord} :
    setProgramSizeBytes v p = (.ok u, q) ↔ v ≠ 0 ∧ { p with mProgSizeBytes := v } = q := by
  rw [setProgramSizeBytes]
  simp only [Attempt.bind_ok_iff, Attempt.require_ok_iff, Attempt.modify_ok_iff]
  exact checked_iff

/-- `SetProgramOffsetBytes` accepts what is not zero. -/
lemma setProgramOffsetBytes_ok_iff {p q : NTV2BitfileHeaderParser} {u : Unit} {v : ULWord} :
    setProgramOffsetBytes v p = (.ok u, q) ↔ v ≠ 0 ∧ { p with mProgOffsetBytes := v } = q := by
  rw [setProgramOffsetBytes]
  simp only [Attempt.bind_ok_iff, Attempt.require_ok_iff, Attempt.modify_ok_iff]
  exact checked_iff

lemma zero_notMem_textOf (field : ByteString) (n : ℕ) : (0 : Byte) ∉ (textOf field).take n := by
  intro hmem
  have hzero := List.mem_takeWhile_imp (List.mem_of_mem_take hmem)
  simp at hzero

@[simp] lemma withDesign_mRawDesignName (p : NTV2BitfileHeaderParser) (design : ByteString)
    (id : Option ℕ) : (withDesign p design id).mRawDesignName = design := by
  cases id <;> rfl

/-- A place is only passed in a buffer below 2 GB. -/
lemma lt_of_bumpPos {inc : ℕ} (h : buf.bumpPos pos inc = .ok pos₁) :
    buf.bytes.length < 2147483648 := by
  rw [NTV2Buffer.bumpPos] at h
  split_ifs at h with hend
  exact lt_of_headerLength (by omega)

/-- **The parser accepts** the sections that are laid out and pass its checks, with their
fields. -/
lemma parseSections_ok_iff {p q : NTV2BitfileHeaderParser} {u : Unit} :
    parseSections buf p = (.ok u, q) ↔
      ∃ s : BitfileSections, s.bytes = buf.bytes ∧ s.Laid ∧ s.Accepted ∧
        ∃ id, HasUserID ((textOf s.design).take 128) id ∧ q = s.parsed p id := by
  unfold parseSections
  simp only [Attempt.bind_ok_iff, Attempt.lift_ok_iff, Attempt.modify_ok_iff,
    Attempt.require_ok_iff, Attempt.get_ok_iff, setDate_ok_iff, setTime_ok_iff,
    setProgramSizeBytes_ok_iff, setProgramOffsetBytes_ok_iff,
    setRawDesign_ok_iff (zero_notMem_textOf _ _), getString_eq _ (show 128 ≠ 0 by decide),
    getString_eq _ (show 10 ≠ 0 by decide), getString_eq _ (show 8 ≠ 0 by decide), Prod.exists,
    exists_and_left, exists_eq_left', exists_const, and_assoc]
  constructor
  · rintro ⟨head, hview, rfl, pos₀, hpos₀, design, b₁, hdesign, hlong, x, ⟨id, hid, rfl⟩, hname,
      pos₁, hpos₁, part, b₂, hpart, pos₂, hpos₂, date, b₃, hdate, hdateOk, pos₃, hpos₃, time, b₄,
      htime, htimeOk, pos₄, hpos₄, tagPos, htag, size, hsize, progSize, hswap, hne, pos₅, hpos₅,
      -, found, e, hfind, hfound, rfl⟩
    have h := lt_of_bumpPos hpos₀
    obtain ⟨rfl, r₀, -, hr₀⟩ := (head_ok_iff h).mp ⟨hview, hpos₀⟩
    obtain ⟨hd₀, hl₀⟩ := drop_of_append (Nat.zero_le _) hr₀
    change buf.bytes.drop 13 = r₀ at hd₀
    change 13 + _ = _ at hl₀
    obtain ⟨rfl, rfl, hf₁, r₁, -, hr₁⟩ :=
      (passSection_iff h (by omega)).mp ⟨hdesign, hpos₁⟩
    obtain ⟨hd₁, hl₁⟩ := drop_of_append (by omega) hr₁
    obtain ⟨rfl, rfl, hf₂, r₂, -, hr₂⟩ := (passSection_iff h (by omega)).mp ⟨hpart, hpos₂⟩
    obtain ⟨hd₂, hl₂⟩ := drop_of_append (by omega) hr₂
    obtain ⟨rfl, rfl, hf₃, r₃, -, hr₃⟩ := (passSection_iff h (by omega)).mp ⟨hdate, hpos₃⟩
    obtain ⟨hd₃, hl₃⟩ := drop_of_append (by omega) hr₃
    obtain ⟨rfl, rfl, hf₄, r₄, -, hr₄⟩ := (passSection_iff h (by omega)).mp ⟨htime, hpos₄⟩
    obtain ⟨hd₄, hl₄⟩ := drop_of_append (by omega) hr₄
    obtain ⟨rfl, r₅, -, hr₅⟩ :=
      (progSize_ok_iff h (by omega)).mp ⟨tagPos, htag, size, hsize, hswap, hpos₅⟩
    obtain ⟨hd₅, hl₅⟩ := drop_of_append (by omega) hr₅
    change buf.bytes.drop (_ + 5) = r₅ at hd₅
    change _ + 5 + _ = _ at hl₅
    have hbytes : (BitfileSections.mk design part date time progSize r₅).bytes = buf.bytes := by
      rw [BitfileSections.bytes, ← List.cons_append, ← hr₅, hd₄, ← hr₄, hd₃, ← hr₃, hd₂, ← hr₂,
        hd₁, ← hr₁, hd₀, ← hr₀]
    refine ⟨⟨design, part, date, time, progSize, r₅⟩, hbytes, ⟨hf₁, hf₂, hf₃, hf₄, hne, ?_⟩,
      ⟨hbytes ▸ h, ⟨hlong, ?_, id, hid⟩, hdateOk, htimeOk⟩, id, hid, ?_⟩
    · obtain ⟨k, hk, heq⟩ :=
        (findSignature_true_iff h (by omega)).mp ⟨_, hfind, hfound⟩
      exact ⟨k, hk, by rwa [← List.drop_drop, hd₅] at heq⟩
    · rwa [NTV2BitfileHeaderParser.designName, withDesign_mRawDesignName] at hname
    · have hoffset : buf.bytes.length - r₅.length = _ := Nat.sub_eq_of_eq_add hl₅.symm
      rw [BitfileSections.parsed, hbytes, hoffset]
  · rintro ⟨⟨design, part, date, time, progSize, program⟩, hbytes, hlaid, haccepted, id, hid, rfl⟩
    have h : buf.bytes.length < 2147483648 := hbytes ▸ haccepted.short
    have hr₀ := hbytes.symm
    rw [BitfileSections.bytes] at hr₀
    dsimp only at hr₀
    obtain ⟨hview, hpos₀⟩ := (head_ok_iff h).mpr ⟨rfl, _, by simp [sectionBytes], hr₀⟩
    obtain ⟨hd₀, hl₀⟩ := drop_of_append (Nat.zero_le _) hr₀
    change buf.bytes.drop 13 = _ at hd₀
    change 13 + _ = _ at hl₀
    obtain ⟨hdesign, hpos₁⟩ := (passSection_iff h (by omega)).mpr
      ⟨rfl, rfl, hlaid.design, _, by simp [sectionBytes], hd₀⟩
    obtain ⟨hd₁, hl₁⟩ := drop_of_append (by omega) hd₀
    obtain ⟨hpart, hpos₂⟩ := (passSection_iff h (by omega)).mpr
      ⟨rfl, rfl, hlaid.part, _, by simp [sectionBytes], hd₁⟩
    obtain ⟨hd₂, hl₂⟩ := drop_of_append (by omega) hd₁
    obtain ⟨hdate, hpos₃⟩ := (passSection_iff h (by omega)).mpr
      ⟨rfl, rfl, hlaid.date, _, by simp [sectionBytes], hd₂⟩
    obtain ⟨hd₃, hl₃⟩ := drop_of_append (by omega) hd₂
    obtain ⟨htime, hpos₄⟩ := (passSection_iff h (by omega)).mpr
      ⟨rfl, rfl, hlaid.time, _, by simp, hd₃⟩
    obtain ⟨hd₄, hl₄⟩ := drop_of_append (by omega) hd₃
    obtain ⟨k, hk, hsignature⟩ := hlaid.signature
    have hprogram : program ≠ [] := by
      rintro rfl
      rw [List.drop_nil, List.take_nil] at hsignature
      cases hsignature
    rw [← List.cons_append] at hd₄
    obtain ⟨tagPos, htag, size, hsize, hswap, hpos₅⟩ :=
      (progSize_ok_iff h (by omega)).mpr ⟨rfl, _, hprogram, hd₄⟩
    obtain ⟨hd₅, hl₅⟩ := drop_of_append (by omega) hd₄
    change buf.bytes.drop (_ + 5) = _ at hd₅
    change _ + 5 + _ = _ at hl₅
    obtain ⟨⟨found, e⟩, hfind, hfound⟩ :=
      (@findSignature_true_iff buf _ h 1000 (Nat.le.intro hl₅)).mpr
        ⟨k, hk, by rwa [← List.drop_drop, hd₅]⟩
    refine ⟨gHead13, hview, rfl, _, hpos₀, design, _, hdesign, haccepted.design.long, _,
      ⟨id, hid, rfl⟩, ?_, _, hpos₁, part, _, hpart, _, hpos₂, date, _, hdate, haccepted.date, _,
      hpos₃, time, _, htime, haccepted.time, _, hpos₄, tagPos, htag, size, hsize, progSize, hswap,
      hlaid.size, _, hpos₅, ?_, found, e, hfind, hfound, ?_⟩
    · rw [NTV2BitfileHeaderParser.designName, withDesign_mRawDesignName]
      exact haccepted.design.name
    · rw [Ne, ← BitVec.toNat_inj, BitVec.toNat_ofNat]
      change ¬ _ = 0
      omega
    · have hoffset : buf.bytes.length - program.length = _ := Nat.sub_eq_of_eq_add hl₅.symm
      rw [BitfileSections.parsed, hbytes, hoffset]

end Parse

/-! ### Reads and failures -/

section Failures

variable {buf : NTV2Buffer} {pos : ℕ} {tag : Byte} {l : ByteString} {e : BitfileStop}

lemma view_inside {size : ULWord} (h : pos + size.toNat < 4294967296) :
    buf.view pos size = .error e → e ≠ .outside := by
  rw [view_eq h]
  rintro ⟨⟩

/-- Nor is one that must have bytes. -/
lemma portion_inside {size : ULWord} (h : pos + size.toNat < 4294967296) :
    buf.portion pos size = .error e → e ≠ .outside := by
  rw [NTV2Buffer.portion, view_eq h, except_ok_bind]
  by_cases hnil : (if pos + size.toNat ≤ buf.bytes.length then
      (buf.bytes.drop pos).take size.toNat else []) = []
  · rw [if_pos hnil]
    rintro ⟨⟩ ⟨⟩
  · rw [if_neg hnil]
    rintro ⟨⟩

/-- To pass a place reads nothing. -/
lemma bumpPos_inside {inc : ℕ} : buf.bumpPos pos inc = .error e → e ≠ .outside := by
  rw [NTV2Buffer.bumpPos]
  split_ifs
  · rintro ⟨⟩ ⟨⟩
  · rintro ⟨⟩

/-- A tag is read inside of the buffer. -/
lemma checkTag_inside (hpos : pos < buf.bytes.length) :
    checkTag buf tag pos = .error e → e ≠ .outside := by
  have hread : buf.i8 pos = .ok buf.bytes[pos] := by
    rw [NTV2Buffer.i8, List.getElem?_eq_getElem hpos]
  rw [checkTag, hread, except_ok_bind]
  split_ifs
  · rintro ⟨⟩ ⟨⟩
  · exact bumpPos_inside

/-- A length has the bytes that are read. -/
lemma swap16BtoH_inside (hl : l.length = 2) : swap16BtoH l = .error e → e ≠ .outside := by
  obtain ⟨b₀, b₁, rfl⟩ := List.length_eq_two.mp hl
  rintro ⟨⟩

lemma swap32BtoH_inside (hl : l.length = 4) : swap32BtoH l = .error e → e ≠ .outside := by
  match l, hl with
  | [b₀, b₁, b₂, b₃], _ => rintro ⟨⟩

/-- **A section is read inside of the buffer.** -/
lemma sectionField_inside (h : buf.bytes.length < 2147483648) (hpos : pos < buf.bytes.length) :
    sectionField buf tag pos = .error e → e ≠ .outside := by
  rw [sectionField]
  intro herror
  rcases except_bind_error herror with htag | ⟨p₁, htag, herror⟩
  · exact checkTag_inside hpos htag
  obtain ⟨rfl, r₁, hr₁, hdrop₁⟩ := (checkTag_ok_iff h).mp htag
  have hlen₁ := (drop_of_append hpos.le (show _ = [tag] ++ r₁ from hdrop₁)).2
  rw [List.length_singleton] at hlen₁
  rcases except_bind_error herror with hlength | ⟨length, hlength, herror⟩
  · exact portion_inside (by change _ + 2 < _; omega) hlength
  obtain ⟨-, hl2, -⟩ := (portion_ok_iff h (by omega) (by decide)).mp hlength
  rcases except_bind_error herror with hswap | ⟨fieldLen, hswap, herror⟩
  · exact swap16BtoH_inside hl2 hswap
  have hlen := ((swap16BtoH_ok_iff hl2).mp hswap).1
  rcases except_bind_error herror with hbump | ⟨p₂, hbump, herror⟩
  · exact bumpPos_inside hbump
  obtain ⟨rfl, hlt⟩ := (bumpPos_ok_iff h).mp hbump
  rcases except_bind_error herror with hfield | ⟨field, -, hret⟩
  · exact portion_inside (by omega) hfield
  · cases hret

/-- **The search stays inside of the buffer.** -/
lemma findSignature_inside (h : buf.bytes.length < 2147483648) {fuel : ℕ} :
    findSignature buf fuel pos = .error e → e ≠ .outside := by
  induction fuel generalizing pos with
  | zero => rintro ⟨⟩
  | succ fuel ih =>
      rw [findSignature, headerLength_eq h]
      split_ifs with hend
      · rintro ⟨⟩
      · have hview := @view_eq buf pos 8 (by
          change pos + 8 < _
          omega)
        rw [hview, except_ok_bind]
        by_cases hfound : (if pos + (8 : ULWord).toNat ≤ buf.bytes.length then
            (buf.bytes.drop pos).take (8 : ULWord).toNat else []) = gSignature
        · rw [if_pos hfound]
          rintro ⟨⟩
        · rw [if_neg hfound]
          exact ih

/-- The search for a user ID fails with an error. -/
lemma findUserID_inside {design userIDSegment : ByteString} {segments : List ByteString} :
    findUserID design segments userIDSegment = .error e → e ≠ .outside := by
  induction segments generalizing userIDSegment with
  | nil => rintro ⟨⟩
  | cons it segments ih =>
      rw [findUserID]
      split_ifs
      · exact ih
      · rintro ⟨⟩ ⟨⟩
      · exact ih

/-- A user ID is refused with an error. -/
lemma parseUserID_inside {userIDSegment : ByteString} :
    parseUserID userIDSegment = .error e → e ≠ .outside := by
  rw [parseUserID]
  split
  · split_ifs
    · rintro ⟨⟩ ⟨⟩
    · dsimp only
      split
      · rintro ⟨⟩ ⟨⟩
      · rintro ⟨⟩
  · split_ifs
    · rintro ⟨⟩ ⟨⟩
    · rintro ⟨⟩ ⟨⟩

/-- The characters of a text are read inside of it. -/
lemma checkChars_inside {text : ByteString} {checks : List CharCheck}
    (hlength : pos + checks.length = text.length) :
    checkChars text checks pos = .error e → e ≠ .outside := by
  induction checks generalizing pos with
  | nil => rintro ⟨⟩
  | cons check checks ih =>
      rw [List.length_cons] at hlength
      rw [checkChars, List.getElem?_eq_getElem (by omega)]
      cases check with
      | digit =>
          dsimp only
          split_ifs
          · rintro ⟨⟩ ⟨⟩
          · exact ih (by omega)
      | char c =>
          dsimp only
          split_ifs
          · rintro ⟨⟩ ⟨⟩
          · exact ih (by omega)

/-- A text is refused with an error. -/
lemma checkText_inside {text : ByteString} {checks : List CharCheck} :
    checkText checks text = .error e → e ≠ .outside := by
  rw [checkText]
  split_ifs with hlength
  · rintro ⟨⟩ ⟨⟩
  · exact checkChars_inside (by omega)

end Failures

/-- The fields are not valid, and no read is outside of the buffer. -/
abbrev BitfileSound {α : Type} (x : BitfileParse α) (p : NTV2BitfileHeaderParser) : Prop :=
  Attempt.Sound (fun p => p.mValid = false) (· ≠ .outside) x p

section Sound

variable {p : NTV2BitfileHeaderParser}

/-- A design leaves the fields not valid. -/
lemma setRawDesign_sound (design : ByteString) (hp : p.mValid = false) :
    BitfileSound (setRawDesign design) p := by
  unfold setRawDesign
  refine Attempt.Sound.modify_bind hp ?_
  refine Attempt.Sound.require_bind hp (by rintro ⟨⟩) fun _ => ?_
  refine Attempt.Sound.modify_bind hp ?_
  refine Attempt.Sound.lift_bind hp (fun _ => findUserID_inside) fun segment _ => ?_
  by_cases hnil : segment = []
  · rw [if_pos hnil]
    exact Attempt.Sound.pure _ hp
  · rw [if_neg hnil]
    refine Attempt.Sound.lift_bind hp (fun _ => parseUserID_inside) fun userID _ => ?_
    exact Attempt.Sound.modify hp

/-- So does a date. -/
lemma setDate_sound (text : ByteString) (hp : p.mValid = false) :
    BitfileSound (setDate text) p :=
  Attempt.Sound.lift_bind hp (fun _ => checkText_inside) fun _ _ => Attempt.Sound.modify hp

/-- So does a time. -/
lemma setTime_sound (text : ByteString) (hp : p.mValid = false) :
    BitfileSound (setTime text) p :=
  Attempt.Sound.lift_bind hp (fun _ => checkText_inside) fun _ _ => Attempt.Sound.modify hp

/-- So does a size. -/
lemma setProgramSizeBytes_sound (v : ULWord) (hp : p.mValid = false) :
    BitfileSound (setProgramSizeBytes v) p :=
  Attempt.Sound.require_bind hp (by rintro ⟨⟩) fun _ => Attempt.Sound.modify hp

lemma setProgramOffsetBytes_sound (v : ULWord) (hp : p.mValid = false) :
    BitfileSound (setProgramOffsetBytes v) p :=
  Attempt.Sound.require_bind hp (by rintro ⟨⟩) fun _ => Attempt.Sound.modify hp

/-- What follows a place that is passed. -/
lemma bumpPos_sound {buf : NTV2Buffer} {pos inc : ℕ} {k : ℕ → BitfileParse Unit}
    (hp : p.mValid = false) (h : buf.bytes.length < 2147483648)
    (hk : ∀ pos', pos' < buf.bytes.length → BitfileSound (k pos') p) :
    BitfileSound (Attempt.lift (buf.bumpPos pos inc) >>= k) p := by
  refine Attempt.Sound.lift_bind hp (fun _ => bumpPos_inside) fun pos' hpos' => ?_
  obtain ⟨rfl, hlt⟩ := (bumpPos_ok_iff h).mp hpos'
  exact hk _ hlt

/-- What follows a section. -/
lemma section_sound {buf : NTV2Buffer} {pos : ℕ} {tag : Byte}
    {k : ByteString × ℕ → BitfileParse Unit} (hp : p.mValid = false)
    (h : buf.bytes.length < 2147483648) (hpos : pos < buf.bytes.length)
    (hk : ∀ f pos', BitfileSound (k (f, pos')) p) :
    BitfileSound (Attempt.lift (sectionField buf tag pos) >>= k) p :=
  Attempt.Sound.lift_bind hp (fun _ => sectionField_inside h hpos) fun x _ => hk x.1 x.2

/-- **Until the header is valid**, no read is outside of the buffer, and the fields are not
valid. -/
lemma parseSections_sound (buf : NTV2Buffer) : BitfileSound (parseSections buf) p := by
  unfold parseSections
  refine Attempt.Sound.modify_bind rfl ?_
  refine Attempt.Sound.lift_bind rfl (fun _ => view_inside (by decide)) fun head _ => ?_
  refine Attempt.Sound.require_bind rfl (by rintro ⟨⟩) fun _ => ?_
  refine Attempt.Sound.lift_bind rfl (fun _ => bumpPos_inside) fun pos₀ hpos₀ => ?_
  have h := lt_of_bumpPos hpos₀
  obtain ⟨rfl, hlt₀⟩ := (bumpPos_ok_iff h).mp hpos₀
  refine section_sound rfl h hlt₀ fun design _ => ?_
  refine (setRawDesign_sound _ rfl).bind fun _ p₁ _ hp₁ => ?_
  refine Attempt.Sound.get_bind hp₁ ?_
  refine Attempt.Sound.require_bind hp₁ (by rintro ⟨⟩) fun _ => ?_
  refine bumpPos_sound hp₁ h fun pos₁ hpos₁ => ?_
  refine section_sound hp₁ h hpos₁ fun part _ => ?_
  refine Attempt.Sound.modify_bind hp₁ ?_
  refine bumpPos_sound hp₁ h fun pos₂ hpos₂ => ?_
  refine section_sound hp₁ h hpos₂ fun date _ => ?_
  refine Attempt.Sound.bind (setDate_sound _ hp₁) fun _ p₃ _ hp₃ => ?_
  refine bumpPos_sound hp₃ h fun pos₃ hpos₃ => ?_
  refine section_sound hp₃ h hpos₃ fun time _ => ?_
  refine Attempt.Sound.bind (setTime_sound _ hp₃) fun _ p₄ _ hp₄ => ?_
  refine bumpPos_sound hp₄ h fun pos₄ hpos₄ => ?_
  refine Attempt.Sound.lift_bind hp₄ (fun _ => checkTag_inside hpos₄) fun tagPos htag => ?_
  obtain ⟨rfl, rest, hrest, hdrop⟩ := (checkTag_ok_iff h).mp htag
  refine Attempt.Sound.lift_bind hp₄ (fun _ => portion_inside ?_) fun size hsize => ?_
  · change _ + 4 < _
    omega
  obtain ⟨-, hl4, -⟩ := (portion_ok_iff h (by omega) (by decide)).mp hsize
  refine Attempt.Sound.lift_bind hp₄ (fun _ => swap32BtoH_inside hl4) fun progSize _ => ?_
  refine (setProgramSizeBytes_sound _ hp₄).bind fun _ p₅ _ hp₅ => ?_
  refine bumpPos_sound hp₅ h fun pos₅ hpos₅ => ?_
  refine (setProgramOffsetBytes_sound _ hp₅).bind fun _ p₆ _ hp₆ => ?_
  refine Attempt.Sound.lift_bind hp₆ (fun _ => findSignature_inside h) fun found _ => ?_
  exact Attempt.Sound.require hp₆ (by rintro ⟨⟩)

end Sound

/-! ### The format -/

/-- A length of sixteen bits tells it. -/
lemma be16_inj {n m : ℕ} (hn : n < 65536) (hm : m < 65536) (h : be16 n = be16 m) : n = m := by
  have hread : swap16BtoH (be16 n) = .ok (BitVec.ofNat 32 m) := by
    rw [swap16BtoH_ok_iff rfl, BitVec.toNat_ofNat, Nat.mod_eq_of_lt (by omega)]
    exact ⟨hm, h⟩
  rw [(swap16BtoH_ok_iff (v := BitVec.ofNat 32 n) rfl).mpr ?_, Except.ok.injEq,
    ← BitVec.toNat_inj, BitVec.toNat_ofNat, BitVec.toNat_ofNat] at hread
  · omega
  · rw [BitVec.toNat_ofNat, Nat.mod_eq_of_lt (by omega)]
    exact ⟨hn, rfl⟩

/-- A section tells its field, and what is behind it. -/
lemma sectionBytes_append_inj {tag : Byte} {f g r t : ByteString} (hf : f.length < 65536)
    (hg : g.length < 65536) (h : sectionBytes tag f ++ r = sectionBytes tag g ++ t) :
    f = g ∧ r = t := by
  rw [sectionBytes, sectionBytes, List.cons_append, List.cons_append, List.append_assoc,
    List.append_assoc] at h
  obtain ⟨hlength, hrest⟩ := List.append_inj (List.cons.inj h).2 rfl
  exact List.append_inj hrest (be16_inj hf hg hlength)

/-- **The bytes tell the sections.** -/
lemma BitfileSections.Laid.bytes_inj {s t : BitfileSections} (hs : s.Laid) (ht : t.Laid)
    (h : s.bytes = t.bytes) : s = t := by
  rw [BitfileSections.bytes, BitfileSections.bytes] at h
  have hhead := List.append_cancel_left h
  obtain ⟨hdesign, h₁⟩ := sectionBytes_append_inj hs.design.2 ht.design.2 hhead
  obtain ⟨hpart, h₂⟩ := sectionBytes_append_inj hs.part.2 ht.part.2 h₁
  obtain ⟨hdate, h₃⟩ := sectionBytes_append_inj hs.date.2 ht.date.2 h₂
  obtain ⟨htime, h₄⟩ := sectionBytes_append_inj hs.time.2 ht.time.2 h₃
  obtain ⟨hsize, hprogram⟩ := List.append_inj (List.cons.inj h₄).2 rfl
  have hread := (swap32BtoH_ok_iff rfl).mpr hsize
  rw [(swap32BtoH_ok_iff rfl).mpr rfl, Except.ok.injEq] at hread
  cases s
  cases t
  simp_all

namespace BitfileSections

/-- The format of a header: a design with no more than one user ID, which is well formed, a date
`dddd/dd/dd` and a time `dd:dd:dd`. -/
structure WellFormed (s : BitfileSections) : Prop where
  laid : s.Laid
  design : WellFormedDesign (textOf s.design)
  date : MatchesExactly dateChecks ((textOf s.date).take 10)
  time : MatchesExactly timeChecks ((textOf s.time).take 8)

/-- The fields are those of the sections. -/
structure Reports (s : BitfileSections) (q : NTV2BitfileHeaderParser) : Prop where
  design : q.mRawDesignName = textOf s.design
  part : q.mPartName = textOf s.part
  date : q.mDate = (textOf s.date).take 10
  time : q.mTime = (textOf s.time).take 8
  userID : ∃ id, HasUserID (textOf s.design) id ∧ q.mUserID.toNat = id.getD 0
  designID : q.mDesignID.toNat = q.mUserID.toNat / 16777216
  designVersion : q.mDesignVersion.toNat = q.mUserID.toNat / 65536 % 256
  bitfileID : q.mBitfileID.toNat = q.mUserID.toNat / 256 % 256
  bitfileVersion : q.mBitfileVersion.toNat = q.mUserID.toNat % 256
  size : q.mProgSizeBytes = s.progSize
  offset : q.mProgOffsetBytes.toNat = s.bytes.length - s.program.length

/-- What the parser relies on: a buffer below 2 GB, a design and a part of 128 characters, the very
separators in date and time, and a user ID of 32 bits. -/
structure Tidy (s : BitfileSections) : Prop where
  short : s.bytes.length < 2147483648
  design : (textOf s.design).length ≤ 128
  part : (textOf s.part).length ≤ 128
  date : MatchesExactly dateChecks ((textOf s.date).take 10)
  time : MatchesExactly timeChecks ((textOf s.time).take 8)
  userID : ∀ n, HasUserID (textOf s.design) (some n) → n < 4294967296

end BitfileSections

/-- The parser reads inside of the buffer, is valid where it succeeds, and succeeds exactly on the
format, with the fields of the sections. -/
structure ParsesExactly (buf : NTV2Buffer) (p : NTV2BitfileHeaderParser) : Prop where
  inside : (parseHeader buf p).1 ≠ .error .outside
  valid : (parseHeader buf p).2.mValid = true ↔ (parseHeader buf p).1 = .ok ()
  accepts : (parseHeader buf p).1 = .ok () ↔
    ∃ s : BitfileSections, s.bytes = buf.bytes ∧ s.WellFormed
  reports : (parseHeader buf p).1 = .ok () → ∀ s : BitfileSections, s.bytes = buf.bytes →
    s.Laid → s.Reports (parseHeader buf p).2

section Exact

variable {buf : NTV2Buffer} {p q : NTV2BitfileHeaderParser} {s : BitfileSections}
  {id : Option ℕ}

lemma byte_toNat {u mask : ULWord} {n : ℕ} (hmask : (mask >>> n).toNat = 2 ^ 8 - 1) :
    ((u &&& mask) >>> n).toNat = u.toNat / 2 ^ n % 256 := by
  rw [BitVec.ushiftRight_and_distrib, BitVec.toNat_and, hmask, Nat.and_two_pow_sub_one_eq_mod,
    BitVec.toNat_ushiftRight, Nat.shiftRight_eq_div_pow]

/-- The user ID of the fields with a design, and its bytes. -/
lemma withDesign_userID (p : NTV2BitfileHeaderParser) (design : ByteString) (id : Option ℕ) :
    (withDesign p.clear design id).mUserID.toNat =
        min (id.getD 0) 18446744073709551615 % 4294967296 ∧
      (withDesign p.clear design id).mDesignID.toNat =
        (withDesign p.clear design id).mUserID.toNat / 16777216 ∧
      (withDesign p.clear design id).mDesignVersion.toNat =
        (withDesign p.clear design id).mUserID.toNat / 65536 % 256 ∧
      (withDesign p.clear design id).mBitfileID.toNat =
        (withDesign p.clear design id).mUserID.toNat / 256 % 256 ∧
      (withDesign p.clear design id).mBitfileVersion.toNat =
        (withDesign p.clear design id).mUserID.toNat % 256 := by
  cases id with
  | none => simp [withDesign, NTV2BitfileHeaderParser.clear]
  | some n =>
      have htop := byte_toNat (u := BitVec.ofNat 32 (min n 18446744073709551615))
        (show ((0xff000000 : ULWord) >>> 24).toNat = 2 ^ 8 - 1 by decide)
      have hlow := byte_toNat (u := BitVec.ofNat 32 (min n 18446744073709551615))
        (show ((0x000000ff : ULWord) >>> 0).toNat = 2 ^ 8 - 1 by decide)
      refine ⟨BitVec.toNat_ofNat _ _, ?_, byte_toNat (by decide), byte_toNat (by decide), ?_⟩
      · have hlt := (BitVec.ofNat 32 (min n 18446744073709551615)).isLt
        refine htop.trans (Nat.mod_eq_of_lt ?_)
        omega
      · rwa [Nat.pow_zero, Nat.div_one] at hlow

lemma parseHeader_of_ok (h : parseSections buf p = (.ok (), q)) :
    parseHeader buf p = (.ok (), { q with mValid := true }) := by
  rw [parseHeader, Attempt.bind_ok h]
  rfl

lemma parseHeader_of_error {e : BitfileStop} (h : parseSections buf p = (.error e, q)) :
    parseHeader buf p = (.error e, q) := by
  rw [parseHeader, Attempt.bind_error h]

/-- **No read is outside of the buffer, and what is valid has succeeded.** -/
lemma parseHeader_sound (buf : NTV2Buffer) (p : NTV2BitfileHeaderParser) :
    (parseHeader buf p).1 ≠ .error .outside ∧
      ((parseHeader buf p).2.mValid = true ↔ (parseHeader buf p).1 = .ok ()) := by
  obtain ⟨hkeeps, herrors⟩ := @parseSections_sound p buf
  rcases h : parseSections buf p with ⟨e | u, q⟩
  · rw [h] at hkeeps herrors
    rw [parseHeader_of_error h]
    refine ⟨fun heq => ?_, ?_⟩
    · exact herrors e rfl (Except.error.inj heq)
    · rw [show q.mValid = false from hkeeps]
      exact iff_of_false (by simp) (by simp)
  · rw [parseHeader_of_ok h]
    exact ⟨by simp, iff_of_true rfl rfl⟩

/-- The header is accepted where its sections are. -/
lemma parseHeader_ok_iff : (parseHeader buf p).1 = .ok () ↔
    ∃ s : BitfileSections, s.bytes = buf.bytes ∧ s.Laid ∧ s.Accepted := by
  rcases h : parseSections buf p with ⟨e | u, q⟩
  · rw [parseHeader_of_error h]
    refine iff_of_false (by simp) ?_
    rintro ⟨s, hbytes, hlaid, haccepted⟩
    obtain ⟨id, hid⟩ := haccepted.design.userID
    have hok := (@parseSections_ok_iff buf p _ ()).mpr
      ⟨s, hbytes, hlaid, haccepted, id, hid, rfl⟩
    rw [h] at hok
    cases hok
  · rw [parseHeader_of_ok h]
    obtain ⟨s, hbytes, hlaid, haccepted, -⟩ := parseSections_ok_iff.mp h
    exact iff_of_true rfl ⟨s, hbytes, hlaid, haccepted⟩

/-- The fields of a header that is accepted. -/
lemma parseHeader_fields (hbytes : s.bytes = buf.bytes) (hlaid : s.Laid) (haccepted : s.Accepted)
    (hid : HasUserID ((textOf s.design).take 128) id) :
    (parseHeader buf p).2 = { s.parsed p id with mValid := true } := by
  have hok := (@parseSections_ok_iff buf p _ ()).mpr
    ⟨s, hbytes, hlaid, haccepted, id, hid, rfl⟩
  rw [parseHeader_of_ok hok]

namespace BitfileSections

lemma Accepted.wellFormed (ha : s.Accepted) (hlaid : s.Laid) (ht : s.Tidy) : s.WellFormed := by
  have hdesign := ha.design
  rw [List.take_of_length_le ht.design] at hdesign
  exact ⟨hlaid, hdesign, ht.date, ht.time⟩

lemma WellFormed.accepted (hw : s.WellFormed) (ht : s.Tidy) : s.Accepted := by
  refine ⟨ht.short, ?_, ht.date.passes, ht.time.passes⟩
  rw [List.take_of_length_le ht.design]
  exact hw.design

/-- The fields of tidy sections are theirs. -/
lemma Tidy.reports (ht : s.Tidy) (hid : HasUserID (textOf s.design) id) :
    s.Reports { s.parsed p id with mValid := true } := by
  obtain ⟨huser, hids⟩ := withDesign_userID p ((textOf s.design).take 128) id
  refine ⟨?_, List.take_of_length_le ht.part, rfl, rfl, ⟨id, hid, huser.trans ?_⟩, hids.1,
    hids.2.1, hids.2.2.1, hids.2.2.2, rfl, ?_⟩
  · change (withDesign p.clear ((textOf s.design).take 128) id).mRawDesignName = _
    rw [withDesign_mRawDesignName, List.take_of_length_le ht.design]
  · have hlt : id.getD 0 < 4294967296 := by
      cases id with
      | none => decide
      | some n => exact ht.userID n hid
    rw [Nat.min_eq_left (by omega), Nat.mod_eq_of_lt hlt]
  · have hshort := ht.short
    change (BitVec.ofNat 32 (s.bytes.length - s.program.length)).toNat = _
    rw [BitVec.toNat_ofNat, Nat.mod_eq_of_lt (by omega)]

/-- Sections whose fields are reported are tidy. -/
lemma Reports.tidy (ha : s.Accepted) (hw : s.WellFormed)
    (hr : s.Reports { s.parsed p id with mValid := true }) : s.Tidy := by
  have hdesign : (textOf s.design).take 128 = textOf s.design := by
    have hraw : (withDesign p.clear ((textOf s.design).take 128) id).mRawDesignName = _ := hr.design
    rwa [withDesign_mRawDesignName] at hraw
  have hpart : (textOf s.part).take 128 = textOf s.part := hr.part
  rw [List.take_eq_self_iff] at hdesign hpart
  refine ⟨ha.short, hdesign, hpart, hw.date, hw.time, fun n hn => ?_⟩
  obtain ⟨id', hid', huser⟩ := hr.userID
  obtain rfl := hn.unique hid'
  rw [show n = _ from huser.symm]
  exact BitVec.isLt _

end BitfileSections

/-- **The parser accepts exactly the format, with the fields of the sections,** where they are
tidy. -/
theorem parseHeader_exact_iff (buf : NTV2Buffer) (p : NTV2BitfileHeaderParser) :
    ParsesExactly buf p ↔ ∀ s : BitfileSections, s.bytes = buf.bytes → s.Laid →
      s.Accepted ∨ s.WellFormed → s.Tidy := by
  constructor
  · rintro ⟨-, -, haccepts, hreports⟩ s hbytes hlaid h
    have hok : (parseHeader buf p).1 = .ok () := by
      rcases h with ha | hw
      · exact parseHeader_ok_iff.mpr ⟨s, hbytes, hlaid, ha⟩
      · exact haccepts.mpr ⟨s, hbytes, hw⟩
    obtain ⟨t, htbytes, hw⟩ := haccepts.mp hok
    obtain rfl := hlaid.bytes_inj hw.laid (hbytes.trans htbytes.symm)
    obtain ⟨t, htbytes, htlaid, ha⟩ := parseHeader_ok_iff.mp hok
    obtain rfl := hlaid.bytes_inj htlaid (hbytes.trans htbytes.symm)
    obtain ⟨id, hid⟩ := ha.design.userID
    have hr := hreports hok s hbytes hlaid
    rw [parseHeader_fields hbytes hlaid ha hid] at hr
    exact hr.tidy ha hw
  · intro h
    obtain ⟨hinside, hvalid⟩ := parseHeader_sound buf p
    refine ⟨hinside, hvalid, ⟨fun hok => ?_, ?_⟩, fun hok s hbytes hlaid => ?_⟩
    · obtain ⟨s, hbytes, hlaid, ha⟩ := parseHeader_ok_iff.mp hok
      exact ⟨s, hbytes, ha.wellFormed hlaid (h s hbytes hlaid (.inl ha))⟩
    · rintro ⟨s, hbytes, hw⟩
      exact parseHeader_ok_iff.mpr
        ⟨s, hbytes, hw.laid, hw.accepted (h s hbytes hw.laid (.inr hw))⟩
    · obtain ⟨t, htbytes, htlaid, ha⟩ := parseHeader_ok_iff.mp hok
      obtain rfl := hlaid.bytes_inj htlaid (hbytes.trans htbytes.symm)
      have ht := h s hbytes hlaid (.inl ha)
      obtain ⟨id, hid⟩ := ha.design.userID
      rw [parseHeader_fields hbytes hlaid ha hid]
      rw [List.take_of_length_le ht.design] at hid
      exact ht.reports hid

end Exact

/-- Sections with colons in the date. -/
def colonSections : BitfileSections :=
  { design := bytesOf "abcdefgh"
    part := bytesOf "part"
    date := bytesOf "2024:10:15"
    time := bytesOf "10:20:30"
    progSize := 1
    program := gSignature }

/-- They are laid out. -/
lemma colonSections_laid : colonSections.Laid :=
  ⟨by decide, by decide, by decide, by decide, by decide, 0, by decide, by decide⟩

/-- And they pass. -/
lemma colonSections_accepted : colonSections.Accepted := by
  refine ⟨by decide, ⟨by decide, by decide, none, ?_⟩, ?_, ?_⟩
  · change userIDs (bytesOf "abcdefgh") = []
    decide +kernel
  · change List.Forall₂ _ _ (bytesOf "2024:10:15")
    simp [dateChecks, CharCheck.Passes, bytesOf]
  · change List.Forall₂ _ _ (bytesOf "10:20:30")
    simp [timeChecks, CharCheck.Passes, bytesOf]

/-- **The parser accepts more than its format:** a date with colons. -/
theorem not_parsesExactly_colons :
    ¬ ∀ (buf : NTV2Buffer) (p : NTV2BitfileHeaderParser), ParsesExactly buf p := by
  intro h
  obtain ⟨-, -, haccepts, -⟩ := h ⟨colonSections.bytes, 0, by decide⟩
    ⟨[], [], [], [], 0, 0, 0, 0, 0, 0, 0, false⟩
  obtain ⟨s, hbytes, hw⟩ := haccepts.mp
    (parseHeader_ok_iff.mpr ⟨colonSections, rfl, colonSections_laid, colonSections_accepted⟩)
  obtain rfl := hw.laid.bytes_inj colonSections_laid hbytes
  have hdate := hw.date
  revert hdate
  change ¬ List.Forall₂ _ _ (bytesOf "2024:10:15")
  simp [dateChecks, CharCheck.Exact, bytesOf]

end LibAjaNtv2
