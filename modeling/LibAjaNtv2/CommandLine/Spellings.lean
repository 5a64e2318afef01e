import Mathlib.Data.List.TakeWhile
import LibAjaNtv2.CommandLine.Parser

/-!
The spellings of an option on the command line (`AJACommandLineParser::Parse`).

* `changeFirst_congr`: two names of one option change the same;
* `RefusedArg`: an argument whose name is unknown; `parseOption_eq_none_iff`: **where
  `kErrorOnUnknownArgs` ends the parsing**;
* `parseLoop_before`: the arguments before an option;
* `spellings`: `-cv`, `-c=v`, `-c v`, `--w=v` and `--w v`; `Spelled.loop`: **what they do**;
* `spelledAlike_iff`: **when the spellings are equivalent**.
-/

namespace LibAjaNtv2

/-! ### Options by their names -/

section Names

variable {options : List AJACommandLineOption} {name name' : ArgString}
  {f : AJACommandLineOption → AJACommandLineOption}

/-- The names of all options. -/
def allNames (options : List AJACommandLineOption) : List (List ArgString) :=
  options.map (·.names)

/-- A change of an option that keeps its names keeps all. -/
lemma allNames_changeFirst (hf : ∀ opt, (f opt).names = opt.names) :
    allNames (changeFirst name f options) = allNames options := by
  induction options with
  | nil => rfl
  | cons opt options ih =>
      rw [changeFirst]
      split
      · rw [allNames, allNames, List.map_cons, List.map_cons, hf]
      · rw [allNames, List.map_cons, ← allNames, ih]
        rfl

lemma haveOption_eq (options : List AJACommandLineOption) (name : ArgString) :
    HaveOption options name = (allNames options).any fun names => decide (name ∈ names) := by
  rw [HaveOption, allNames, List.any_map]
  rfl

/-- Two names belong to the same options. -/
def SameOption (options : List AJACommandLineOption) (name name' : ArgString) : Prop :=
  ∀ names ∈ allNames options, name ∈ names ↔ name' ∈ names

/-- **Two names of one option** change the same. -/
theorem changeFirst_congr (h : SameOption options name name') :
    changeFirst name f options = changeFirst name' f options := by
  induction options with
  | nil => rfl
  | cons opt options ih =>
      have hopt : name ∈ opt.names ↔ name' ∈ opt.names := h opt.names List.mem_cons_self
      have hrest : SameOption options name name' := fun names hn =>
        h names (List.mem_cons_of_mem _ hn)
      rw [changeFirst, changeFirst, ih hrest]
      simp only [hopt]

/-- The names of different options differ, as `AddOption` sees to. -/
def DistinctNames (options : List AJACommandLineOption) : Prop :=
  options.Pairwise fun opt opt' => ∀ name ∈ opt.names, name ∉ opt'.names

/-- `AJACommandLineParser::AddOption`. -/
def AddOption (options : List AJACommandLineOption) (option : AJACommandLineOption) :
    Bool × List AJACommandLineOption :=
  if option.names.any (HaveOption options) then (false, options)
  else (true, options ++ [option])

/-- Adding an option keeps the names distinct. -/
lemma DistinctNames.addOption (h : DistinctNames options) (option : AJACommandLineOption) :
    DistinctNames (AddOption options option).2 := by
  rw [AddOption]
  split
  · exact h
  · next hnew =>
      refine List.pairwise_append.mpr ⟨h, List.pairwise_singleton _ _, fun opt hopt opt' hopt' => ?_⟩
      intro name hname hname'
      rw [List.mem_singleton.mp hopt'] at hname'
      refine hnew (List.any_eq_true.mpr ⟨name, hname', ?_⟩)
      exact List.any_eq_true.mpr ⟨opt, hopt, decide_eq_true hname⟩

/-- Two names of one option, where the names are distinct. -/
lemma DistinctNames.sameOption (h : DistinctNames options)
    (hknown : ∃ opt ∈ options, name ∈ opt.names ∧ name' ∈ opt.names) :
    SameOption options name name' := by
  obtain ⟨opt, hopt, hname, hname'⟩ := hknown
  have heq : ∀ opt' ∈ options, (∃ n ∈ opt.names, n ∈ opt'.names) → opt' = opt := by
    rintro opt' hopt' ⟨n, hn, hn'⟩
    by_contra hne
    have hsymm : Std.Symm fun opt opt' : AJACommandLineOption =>
        ∀ name ∈ opt.names, name ∉ opt'.names :=
      ⟨fun _ _ hdis name hmem hmem' => hdis name hmem' hmem⟩
    exact List.Pairwise.forall h hopt hopt' (Ne.symm hne) n hn hn'
  intro names hnames
  obtain ⟨opt', hopt', rfl⟩ := List.mem_map.1 hnames
  constructor
  · intro hn
    rw [heq opt' hopt' ⟨name, hname, hn⟩]
    exact hname'
  · intro hn
    rw [heq opt' hopt' ⟨name', hname', hn⟩]
    exact hname

/-- The number of values that have been collected. -/
def valueCount (options : List AJACommandLineOption) : ℕ :=
  (options.map fun opt => opt.values.length).sum

/-- A change of an option in place of another. -/
lemma valueCount_changeFirst_le (hf : ∀ opt, opt.values.length ≤ (f opt).values.length) :
    valueCount options ≤ valueCount (changeFirst name f options) := by
  induction options with
  | nil => exact le_rfl
  | cons opt options ih =>
      rw [changeFirst]
      split
      · simp only [valueCount, List.map_cons, List.sum_cons]
        exact Nat.add_le_add_right (hf opt) _
      · simp only [valueCount, List.map_cons, List.sum_cons]
        exact Nat.add_le_add_left ih _

/-- One more value. -/
lemma valueCount_addValue (h : HaveOption options name) (value : ArgString) :
    valueCount (changeFirst name (·.AddValue value) options) = valueCount options + 1 := by
  induction options with
  | nil => cases h
  | cons opt options ih =>
      rw [HaveOption, List.any_cons, Bool.or_eq_true, decide_eq_true_eq] at h
      rw [changeFirst]
      split
      · simp only [valueCount, List.map_cons, List.sum_cons, AJACommandLineOption.AddValue,
          List.length_append, List.length_singleton]
        omega
      · rename_i hno
        have := ih (h.resolve_left hno)
        simp only [valueCount, List.map_cons, List.sum_cons] at this ⊢
        omega

/-- An option that is set, with a value if there is one. -/
def withOption (options : List AJACommandLineOption) (name value : ArgString) :
    List AJACommandLineOption :=
  setOption (setOptionValue options name value) name true

/-- Setting an option keeps the names. -/
@[simp] lemma allNames_withOption (value : ArgString) :
    allNames (withOption options name value) = allNames options := by
  have hset : allNames (setOptionValue options name value) = allNames options := by
    rw [setOptionValue]
    split
    · exact allNames_changeFirst fun _ => rfl
    · rfl
  have hmark : ∀ opts : List AJACommandLineOption,
      allNames (changeFirst name (·.MarkSet true) opts) = allNames opts :=
    fun _ => allNames_changeFirst fun _ => rfl
  exact (hmark _).trans hset

/-- Setting an option takes no value away. -/
lemma valueCount_withOption_le (value : ArgString) :
    valueCount options ≤ valueCount (withOption options name value) := by
  have hset : valueCount options ≤ valueCount (setOptionValue options name value) := by
    rw [setOptionValue]
    split
    · exact valueCount_changeFirst_le fun opt => by
        rw [AJACommandLineOption.AddValue, List.length_append]
        exact Nat.le_add_right _ _
    · exact le_rfl
  exact hset.trans (valueCount_changeFirst_le fun _ => le_rfl)

/-- Setting a known option to a value adds one. -/
lemma valueCount_lt_withOption (h : HaveOption options name) {value : ArgString}
    (hvalue : value ≠ []) : valueCount options < valueCount (withOption options name value) := by
  have hset : valueCount (setOptionValue options name value) = valueCount options + 1 := by
    rw [setOptionValue, if_pos hvalue, valueCount_addValue h]
  refine lt_of_lt_of_le (by omega) (valueCount_changeFirst_le fun _ => le_rfl)

/-- Two names of one option are set the same. -/
lemma withOption_congr (h : SameOption options name name') (value : ArgString) :
    withOption options name value = withOption options name' value := by
  have hset : setOptionValue options name value = setOptionValue options name' value := by
    rw [setOptionValue, setOptionValue, changeFirst_congr h]
  have hsame : SameOption (setOptionValue options name' value) name name' := by
    have hnames : allNames (setOptionValue options name' value) = allNames options := by
      rw [setOptionValue]
      split
      · exact allNames_changeFirst fun _ => rfl
      · rfl
    rw [SameOption, hnames]
    exact h
  rw [withOption, withOption, hset, setOption, setOption, changeFirst_congr hsame]

end Names

/-! ### One argument -/

section Argument

variable {flags : AJACommandLineParserFlags} {options options' : List AJACommandLineOption}
  {arg : ArgString} {nextArg : Option ArgString}

/-- The name in an argument that starts with a dash: what stands between the dashes and the
assignment. -/
def nameOf (arg : ArgString) : ArgString :=
  let argStr := if arg.take 2 == kDoubleDash then arg.drop 2 else arg.drop 1
  argStr.takeWhile (· ≠ '=')

/-- An argument whose name is unknown. -/
def RefusedArg (options : List AJACommandLineOption) (arg : ArgString) : Prop :=
  hasOptionPrefix arg = true ∧ HaveOption options (nameOf arg) = false

instance : Decidable (RefusedArg options arg) := inferInstanceAs (Decidable (_ ∧ _))

lemma applyOption_eq (optName optValue : ArgString) :
    applyOption flags options optName optValue =
      if HaveOption options optName then some (withOption options optName optValue)
      else if flags.kErrorOnUnknownArgs then none else some options := rfl

/-- An unknown name ends the parsing, if it has to. -/
lemma applyOption_eq_none_iff (optName optValue : ArgString) :
    applyOption flags options optName optValue = none ↔
      flags.kErrorOnUnknownArgs = true ∧ HaveOption options optName = false := by
  rw [applyOption_eq]
  cases HaveOption options optName <;> cases flags.kErrorOnUnknownArgs <;> simp

/-- The names of the options stay, and so do their values. -/
lemma applyOption_kept {optName optValue : ArgString}
    (h : applyOption flags options optName optValue = some options') :
    allNames options' = allNames options ∧ valueCount options ≤ valueCount options' := by
  rw [applyOption_eq] at h
  split at h
  · obtain rfl := Option.some.inj h
    exact ⟨allNames_withOption _, valueCount_withOption_le _⟩
  · split at h
    · cases h
    · obtain rfl := Option.some.inj h
      exact ⟨rfl, le_rfl⟩

/-- The loop over the prefixes ends the parsing where the whole argument is unknown. -/
lemma prefixLoop_eq_none_iff (argStr : ArgString) (n : ℕ) :
    prefixLoop flags options argStr (n + 1) = none ↔
      flags.kErrorOnUnknownArgs = true ∧ HaveOption options (argStr.take (n + 1)) = false := by
  induction n with
  | zero =>
      rw [prefixLoop]
      cases HaveOption options (argStr.take 1) <;> cases flags.kErrorOnUnknownArgs <;>
        simp [prefixLoop]
  | succ n ih =>
      rw [prefixLoop]
      cases HaveOption options (argStr.take (n + 1 + 1)) with
      | true => simp
      | false =>
          cases hk : flags.kErrorOnUnknownArgs with
          | true => simp
          | false =>
              rw [hk] at ih
              simpa using ih

/-- The loop over the prefixes of nothing. -/
lemma prefixLoop_of_length (argStr : ArgString) :
    prefixLoop flags options argStr argStr.length = none ↔
      flags.kErrorOnUnknownArgs = true ∧ argStr ≠ [] ∧ HaveOption options argStr = false := by
  cases argStr with
  | nil => simp [prefixLoop]
  | cons ch argStr =>
      rw [List.length_cons, prefixLoop_eq_none_iff, List.take_of_length_le (by simp)]
      simp

/-- Where unknown names end the parsing, the loop finds the whole argument. -/
lemma prefixLoop_of_error (hk : flags.kErrorOnUnknownArgs = true) {argStr : ArgString}
    {found : ArgString × ArgString}
    (h : prefixLoop flags options argStr argStr.length = some found) : found = (argStr, []) := by
  cases argStr with
  | nil => exact (Option.some.inj h).symm
  | cons ch argStr =>
      rw [List.length_cons, prefixLoop, List.take_of_length_le (by simp),
        List.drop_eq_nil_of_le (by simp)] at h
      split at h
      · exact (Option.some.inj h).symm
      · cases h

/-- **One argument ends the parsing** exactly where its name is unknown, and that is an error. -/
theorem parseOption_eq_none_iff (hshort : flags.kShortOptionsAsLong = false)
    (harg : hasOptionPrefix arg = true) :
    parseOption flags options arg nextArg = none ↔
      flags.kErrorOnUnknownArgs = true ∧ RefusedArg options arg := by
  have hwhole : ∀ argStr : ArgString, '=' ∉ argStr → argStr.takeWhile (· ≠ '=') = argStr := by
    intro argStr hno
    rw [List.takeWhile_eq_self_iff]
    intro ch hch
    rw [decide_eq_true_eq]
    rintro rfl
    exact hno hch
  rw [RefusedArg, nameOf, parseOption]
  simp only [harg, true_and, hshort, Bool.false_eq_true, if_false]
  generalize hstr : (if (arg.take 2 == kDoubleDash) = true then arg.drop 2 else arg.drop 1) =
    argStr
  by_cases hassign : '=' ∈ argStr
  · rw [if_pos hassign]
    exact applyOption_eq_none_iff _ _
  · rw [if_neg hassign, hwhole argStr hassign]
    by_cases hdouble : (arg.take 2 == kDoubleDash) = true
    · rw [if_pos hdouble]
      exact applyOption_eq_none_iff _ _
    · rw [if_neg hdouble, Option.bind_eq_bind, Option.bind_eq_none_iff]
      constructor
      · intro h
        cases hloop : prefixLoop flags options argStr argStr.length with
        | none =>
            obtain ⟨hk, -, hno⟩ := prefixLoop_of_length argStr |>.1 hloop
            exact ⟨hk, hno⟩
        | some found =>
            obtain ⟨hk, hno⟩ := (applyOption_eq_none_iff _ _).1 (h found hloop)
            rw [prefixLoop_of_error hk hloop] at hno
            exact ⟨hk, hno⟩
      · rintro ⟨hk, hno⟩ found hfound
        refine (applyOption_eq_none_iff _ _).2 ⟨hk, ?_⟩
        rw [prefixLoop_of_error hk hfound]
        exact hno

/-- The names of the options stay, and so do their values. -/
lemma parseOption_kept (hshort : flags.kShortOptionsAsLong = false)
    (h : parseOption flags options arg nextArg = some options') :
    allNames options' = allNames options ∧ valueCount options ≤ valueCount options' := by
  rw [parseOption] at h
  simp only [hshort, Bool.false_eq_true, if_false] at h
  generalize (if (arg.take 2 == kDoubleDash) = true then arg.drop 2 else arg.drop 1) = argStr at h
  split at h
  · exact applyOption_kept h
  · split at h
    · exact applyOption_kept h
    · rw [Option.bind_eq_bind, Option.bind_eq_some_iff] at h
      obtain ⟨found, -, h⟩ := h
      exact applyOption_kept h

/-- A next argument that is an option is none to take a value from. -/
lemma parseOption_of_dash {next : ArgString} (hnext : hasOptionPrefix next = true) :
    parseOption flags options arg (some next) = parseOption flags options arg none := by
  have hvalue : ∀ optValue, valueOrNext optValue (some next) = valueOrNext optValue none := by
    intro optValue
    rw [valueOrNext, valueOrNext]
    simp only [hnext, if_true]
  rw [parseOption, parseOption]
  simp only [hvalue]

end Argument

/-! ### The arguments before and behind -/

section Around

variable {flags : AJACommandLineParserFlags} {options : List AJACommandLineOption}
  {positionalArgs : List ArgString}

lemma refusedArg_congr {options' : List AJACommandLineOption}
    (h : allNames options' = allNames options) (arg : ArgString) :
    RefusedArg options' arg ↔ RefusedArg options arg := by
  rw [RefusedArg, RefusedArg, haveOption_eq, haveOption_eq, h]

/-- The loop takes no value away. -/
lemma valueCount_parseLoop_le (options : List AJACommandLineOption)
    (positionalArgs : List ArgString) (hshort : flags.kShortOptionsAsLong = false)
    (args : List ArgString) (havePositionalArgs : Bool) :
    valueCount options ≤
      valueCount (parseLoop flags args havePositionalArgs options positionalArgs).2.1 := by
  induction args generalizing havePositionalArgs options positionalArgs with
  | nil => exact le_rfl
  | cons arg rest ih =>
      rw [parseLoop]
      split
      · exact ih _ _ _
      · split
        · exact ih _ _ _
        · split
          · split
            · exact le_rfl
            · rename_i options' heq
              exact (parseOption_kept hshort heq).2.trans (ih _ _ _)
          · exact ih _ _ _

/-- An option behind an argument is no value for it. -/
lemma parseOption_before {next : ArgString} (hnext : hasOptionPrefix next = true)
    (arg : ArgString) (pre rest : List ArgString) :
    parseOption flags options arg (pre ++ next :: rest).head? =
      parseOption flags options arg pre.head? := by
  cases pre with
  | nil => exact parseOption_of_dash hnext
  | cons arg' pre => rfl

/-- What the arguments before an option come to. -/
structure LeadsTo (flags : AJACommandLineParserFlags) (options : List AJACommandLineOption)
    (positionalArgs : List ArgString) (pre : List ArgString)
    (options' : List AJACommandLineOption) : Prop where
  names : allNames options' = allNames options
  refused : flags.kErrorOnUnknownArgs = true → (∃ arg ∈ pre, RefusedArg options arg) →
    ∀ next rest, hasOptionPrefix next = true →
      parseLoop flags (pre ++ next :: rest) false options positionalArgs =
        (false, options', positionalArgs)
  passed : (flags.kErrorOnUnknownArgs = true → ∀ arg ∈ pre, ¬ RefusedArg options arg) →
    ∀ next rest, hasOptionPrefix next = true →
      parseLoop flags (pre ++ next :: rest) false options positionalArgs =
        parseLoop flags (next :: rest) false options' positionalArgs

/-- An argument that changes nothing. -/
lemma LeadsTo.cons {arg : ArgString} {pre : List ArgString}
    {options₁ options' : List AJACommandLineOption}
    (hnames : allNames options₁ = allNames options)
    (hround : ∀ next rest, hasOptionPrefix next = true →
      parseLoop flags (arg :: (pre ++ next :: rest)) false options positionalArgs =
        parseLoop flags (pre ++ next :: rest) false options₁ positionalArgs)
    (harg : flags.kErrorOnUnknownArgs = true → ¬ RefusedArg options arg)
    (h : LeadsTo flags options₁ positionalArgs pre options') :
    LeadsTo flags options positionalArgs (arg :: pre) options' where
  names := h.names.trans hnames
  refused hk hex next rest hnext := by
    rw [List.cons_append, hround next rest hnext]
    obtain ⟨arg', hmem, hrefused⟩ := hex
    rcases List.mem_cons.1 hmem with rfl | hmem
    · exact absurd hrefused (harg hk)
    · exact h.refused hk ⟨arg', hmem, (refusedArg_congr hnames _).2 hrefused⟩ next rest hnext
  passed hall next rest hnext := by
    rw [List.cons_append, hround next rest hnext]
    refine h.passed (fun hk arg' hmem hrefused => ?_) next rest hnext
    exact hall hk arg' (List.mem_cons_of_mem _ hmem) ((refusedArg_congr hnames _).1 hrefused)

/-- **The arguments before an option** end the parsing where one is refused, and lead to the same
options whatever follows. -/
theorem parseLoop_before (options : List AJACommandLineOption) (positionalArgs : List ArgString)
    (hshort : flags.kShortOptionsAsLong = false) (pre : List ArgString) (hpre : kDoubleDash ∉ pre) :
    ∃ options', LeadsTo flags options positionalArgs pre options' := by
  induction pre generalizing options with
  | nil =>
      refine ⟨options, rfl, ?_, fun _ _ _ _ => rfl⟩
      rintro - ⟨arg, hmem, -⟩
      cases hmem
  | cons arg pre ih =>
      obtain ⟨hne, hpre⟩ := not_or.1 (List.mem_cons.not.1 hpre)
      have hdash : (arg == kDoubleDash) = false := by
        rw [beq_eq_false_iff_ne]
        exact Ne.symm hne
      cases harg : hasOptionPrefix arg with
      | false =>
          obtain ⟨options', h⟩ := ih options hpre
          refine ⟨options', h.cons rfl (fun next rest _ => ?_) fun _ hrefused => ?_⟩
          · rw [parseLoop, hdash, harg]
            rfl
          · rw [hrefused.1] at harg
            cases harg
      | true =>
          cases hone : parseOption flags options arg pre.head? with
          | none =>
              obtain ⟨hk, hrefused⟩ := (parseOption_eq_none_iff hshort harg).1 hone
              refine ⟨options, rfl, fun _ _ next rest hnext => ?_, fun hall => ?_⟩
              · rw [List.cons_append, parseLoop, hdash, harg, if_neg Bool.false_ne_true, if_pos rfl,
                  parseOption_before hnext, hone]
                rfl
              · exact absurd hrefused (hall hk arg List.mem_cons_self)
          | some options₁ =>
              obtain ⟨options', h⟩ := ih options₁ hpre
              refine ⟨options', h.cons (parseOption_kept hshort hone).1
                (fun next rest hnext => ?_) fun hk hrefused => ?_⟩
              · rw [parseLoop, hdash, harg, if_neg Bool.false_ne_true, if_pos rfl,
                  parseOption_before hnext, hone]
                rfl
              · rw [(parseOption_eq_none_iff hshort harg).2 ⟨hk, hrefused⟩] at hone
                cases hone

end Around

/-! ### The spellings -/

/-- An option with the names `c` and `w`, and a value that can be spelled. -/
structure Spelled (options : List AJACommandLineOption) (c : Char) (w v : ArgString) : Prop where
  distinct : DistinctNames options
  option : ∃ opt ∈ options, [c] ∈ opt.names ∧ w ∈ opt.names
  short : c ≠ '-' ∧ c ≠ '='
  long : w ≠ [] ∧ '=' ∉ w
  value : v ≠ [] ∧ hasOptionPrefix v = false ∧ '=' ∉ v
  alone : ∀ n < v.length, HaveOption options (c :: v.take (n + 1)) = false

/-- The spellings of an option with a value. -/
def spellings (c : Char) (w v : ArgString) : List (List ArgString) :=
  [['-' :: c :: v], ['-' :: c :: '=' :: v], [['-', c], v], ['-' :: '-' :: (w ++ '=' :: v)],
    ['-' :: '-' :: w, v]]

section Spelling

variable {flags : AJACommandLineParserFlags} {options options' : List AJACommandLineOption}
  {c : Char} {w v : ArgString} {nextArg : Option ArgString}

/-- The names decide whether an option can be spelled. -/
lemma Spelled.congr (h : Spelled options c w v) (hnames : allNames options' = allNames options) :
    Spelled options' c w v where
  distinct := by
    have hmap : ∀ opts, DistinctNames opts ↔
        (allNames opts).Pairwise fun names names' => ∀ name ∈ names, name ∉ names' := by
      intro opts
      rw [DistinctNames, allNames, List.pairwise_map]
    rw [hmap, hnames, ← hmap]
    exact h.distinct
  option := by
    obtain ⟨opt, hopt, hboth⟩ := h.option
    have hmem : opt.names ∈ allNames options' := by
      rw [hnames]
      exact List.mem_map_of_mem hopt
    obtain ⟨opt', hopt', heq⟩ := List.mem_map.1 hmem
    exact ⟨opt', hopt', heq ▸ hboth⟩
  short := h.short
  long := h.long
  value := h.value
  alone n hn := by
    rw [haveOption_eq, hnames, ← haveOption_eq]
    exact h.alone n hn

lemma Spelled.haveShort (h : Spelled options c w v) : HaveOption options [c] = true := by
  obtain ⟨opt, hopt, hc, -⟩ := h.option
  exact List.any_eq_true.2 ⟨opt, hopt, decide_eq_true hc⟩

lemma Spelled.haveLong (h : Spelled options c w v) : HaveOption options w = true := by
  obtain ⟨opt, hopt, -, hw⟩ := h.option
  exact List.any_eq_true.2 ⟨opt, hopt, decide_eq_true hw⟩

lemma Spelled.applyShort (h : Spelled options c w v) :
    applyOption flags options [c] v = some (withOption options w v) := by
  rw [applyOption_eq, if_pos h.haveShort, withOption_congr (h.distinct.sameOption h.option)]

lemma Spelled.applyLong (h : Spelled options c w v) :
    applyOption flags options w v = some (withOption options w v) := by
  rw [applyOption_eq, if_pos h.haveLong]

/-- What stands before the assignment, and behind it. -/
lemma split_assign {name : ArgString} (hname : '=' ∉ name) (value : ArgString) :
    (name ++ '=' :: value).takeWhile (· ≠ '=') = name ∧
      ((name ++ '=' :: value).dropWhile (· ≠ '=')).drop 1 = value := by
  induction name with
  | nil => simp
  | cons ch name ih =>
      obtain ⟨hch, hname⟩ := not_or.1 (List.mem_cons.not.1 hname)
      have hp : decide (ch ≠ '=') = true := decide_eq_true (Ne.symm hch)
      simp only [List.cons_append, List.takeWhile_cons, List.dropWhile_cons, hp, if_true]
      exact ⟨by rw [(ih hname).1], (ih hname).2⟩

/-- The prefixes of a name with its value attached. -/
lemma Spelled.prefixLoop_attached (h : Spelled options c w v)
    (hk : flags.kErrorOnUnknownArgs = false) (n : ℕ) (hn : n ≤ v.length) :
    prefixLoop flags options (c :: v) (n + 1) = some ([c], v) := by
  induction n with
  | zero =>
      rw [prefixLoop, List.take_succ_cons, List.take_zero, if_pos h.haveShort]
      rfl
  | succ n ih =>
      rw [prefixLoop, List.take_succ_cons, h.alone n (by omega), if_neg (by simp),
        if_neg (by simp [hk])]
      exact ih (by omega)

/-- A single dash is no double one. -/
lemma single_dash (hc : c ≠ '-') (rest : ArgString) :
    (('-' :: c :: rest).take 2 == kDoubleDash) = false := by
  rw [beq_eq_false_iff_ne, kDoubleDash, List.take_succ_cons, List.take_succ_cons, List.take_zero]
  intro heq
  exact hc (List.cons.inj (List.cons.inj heq).2).1

/-- `-cv`, where unknown names do not matter. -/
lemma Spelled.parse_attached (h : Spelled options c w v)
    (hshort : flags.kShortOptionsAsLong = false) (hk : flags.kErrorOnUnknownArgs = false) :
    parseOption flags options ('-' :: c :: v) nextArg = some (withOption options w v) := by
  have hno : '=' ∉ c :: v := by
    rw [List.mem_cons, not_or]
    exact ⟨Ne.symm h.short.2, h.value.2.2⟩
  rw [parseOption, single_dash h.short.1]
  simp only [Bool.false_eq_true, if_false, List.drop_succ_cons, List.drop_zero, if_neg hno, hshort]
  rw [List.length_cons, h.prefixLoop_attached hk _ le_rfl]
  exact (congrArg (applyOption flags options [c]) (if_neg h.value.1)).trans h.applyShort

/-- `-cv`, where unknown names are an error. -/
lemma Spelled.parse_attached_error (h : Spelled options c w v)
    (hshort : flags.kShortOptionsAsLong = false) (hk : flags.kErrorOnUnknownArgs = true) :
    parseOption flags options ('-' :: c :: v) nextArg = none := by
  refine (parseOption_eq_none_iff hshort rfl).2 ⟨hk, rfl, ?_⟩
  have hno : '=' ∉ c :: v := by
    rw [List.mem_cons, not_or]
    exact ⟨Ne.symm h.short.2, h.value.2.2⟩
  have hwhole : (c :: v).takeWhile (· ≠ '=') = c :: v := by
    rw [List.takeWhile_eq_self_iff]
    intro ch hch
    rw [decide_eq_true_eq]
    rintro rfl
    exact hno hch
  have hlen := List.length_pos_of_ne_nil h.value.1
  have hlast := h.alone (v.length - 1) (by omega)
  rw [Nat.sub_add_cancel hlen, List.take_length] at hlast
  rw [nameOf, single_dash h.short.1]
  simp only [Bool.false_eq_true, if_false, List.drop_succ_cons, List.drop_zero, hwhole, hlast]

/-- `-c=v`. -/
lemma Spelled.parse_assigned (h : Spelled options c w v) :
    parseOption flags options ('-' :: c :: '=' :: v) nextArg = some (withOption options w v) := by
  have hno : '=' ∉ [c] := by
    rw [List.mem_singleton]
    exact Ne.symm h.short.2
  have hsplit := split_assign hno v
  rw [List.singleton_append] at hsplit
  rw [parseOption, single_dash h.short.1]
  simp only [Bool.false_eq_true, if_false, List.drop_succ_cons, List.drop_zero]
  rw [if_pos (by simp), hsplit.1, hsplit.2]
  exact h.applyShort

/-- `-c v`. -/
lemma Spelled.parse_short (h : Spelled options c w v)
    (hshort : flags.kShortOptionsAsLong = false) :
    parseOption flags options ['-', c] (some v) = some (withOption options w v) := by
  have hno : '=' ∉ [c] := by
    rw [List.mem_singleton]
    exact Ne.symm h.short.2
  rw [parseOption, single_dash h.short.1]
  simp only [Bool.false_eq_true, if_false, List.drop_succ_cons, List.drop_zero, if_neg hno, hshort]
  have hloop : prefixLoop flags options [c] [c].length = some ([c], []) := by
    rw [List.length_singleton, prefixLoop, List.take_succ_cons, List.take_zero,
      if_pos h.haveShort]
    rfl
  have hnext : valueOrNext [] (some v) = v := by simp [valueOrNext, h.value.2.1]
  rw [hloop]
  exact (congrArg (applyOption flags options [c]) hnext).trans h.applyShort

/-- `--w=v`. -/
lemma Spelled.parse_long_assigned (h : Spelled options c w v) :
    parseOption flags options ('-' :: '-' :: (w ++ '=' :: v)) nextArg =
      some (withOption options w v) := by
  have hsplit := split_assign h.long.2 v
  have hdash : (('-' :: '-' :: (w ++ '=' :: v)).take 2 == kDoubleDash) = true := rfl
  rw [parseOption, hdash]
  simp only [if_true, List.drop_succ_cons, List.drop_zero]
  rw [if_pos (by simp), hsplit.1, hsplit.2]
  exact h.applyLong

/-- `--w v`. -/
lemma Spelled.parse_long (h : Spelled options c w v) :
    parseOption flags options ('-' :: '-' :: w) (some v) = some (withOption options w v) := by
  have hdash : (('-' :: '-' :: w).take 2 == kDoubleDash) = true := rfl
  have hnext : valueOrNext [] (some v) = v := by simp [valueOrNext, h.value.2.1]
  rw [parseOption, hdash]
  simp only [if_true, List.drop_succ_cons, List.drop_zero, if_neg h.long.2, hnext]
  exact h.applyLong

end Spelling

/-! ### Whole command lines -/

/-- What a caller sees of a parse: whether it succeeds, and the options after it. -/
def outcome (parse : Except ParseFault (Bool × AJACommandLineParser)) :
    Except ParseFault (Bool × List AJACommandLineOption) :=
  parse.map fun (ok, .mk _ _ _ options _ _) => (ok, options)

/-- The spellings of an option come to the same. -/
def SpelledAlike (parser : AJACommandLineParser) (exe : ArgString) (pre post : List ArgString)
    (c : Char) (w v : ArgString) : Prop :=
  ∀ s ∈ spellings c w v, ∀ s' ∈ spellings c w v,
    outcome (parser.Parse (exe :: (pre ++ s ++ post))) =
      outcome (parser.Parse (exe :: (pre ++ s' ++ post)))

/-- Where the arguments are parsed, unknown names matter only if there is one before. -/
structure AlikeWhen (flags : AJACommandLineParserFlags) (options : List AJACommandLineOption)
    (name : ArgString) (pre : List ArgString) (c : Char) (w v : ArgString) : Prop where
  entered : name = [] ∨ pre.head? = some name → flags.kErrorOnUnknownArgs = true →
    ∃ arg ∈ pre, RefusedArg options arg
  passed : name ≠ [] → pre = [] → ∀ s ∈ spellings c w v, s.head? ≠ some name

section Lines

variable {flags : AJACommandLineParserFlags} {options options' : List AJACommandLineOption}
  {positionalArgs : List ArgString} {c : Char} {w v exe name : ArgString}
  {pre post : List ArgString} {subParsers subParsers' : SubParserMap}

/-- The end of `Parse` keeps the options. -/
lemma outcome_finish (flags : AJACommandLineParserFlags) (parser : AJACommandLineParser)
    (hcommand : ∃ flags' name subParsers,
    parser = .mk flags' name [] options positionalArgs subParsers) :
    ∃ ok, outcome (parser.finish flags) = .ok (ok, options) := by
  obtain ⟨flags', name, subParsers, rfl⟩ := hcommand
  have hasked : ∀ noDefault name', ∃ b, AJACommandLineParser.asked noDefault name'
      (.mk flags' name [] options positionalArgs subParsers) = .ok b := by
    intro noDefault name'
    rw [AJACommandLineParser.asked]
    split
    · exact ⟨_, rfl⟩
    · rw [AJACommandLineParser.IsSet, if_neg (by simp)]
      exact ⟨_, rfl⟩
  rw [AJACommandLineParser.finish]
  obtain ⟨help, hhelp⟩ := hasked flags.kNoDefaultHelpOption ['h', 'e', 'l', 'p']
  obtain ⟨usage, husage⟩ := hasked flags.kNoDefaultUsageOption ['u', 's', 'a', 'g', 'e']
  rw [hhelp, husage]
  cases help with
  | true => exact ⟨false, rfl⟩
  | false => exact ⟨!usage, rfl⟩

/-- The rest of `Parse`, from what the loop comes to. -/
def afterLoop (flags : AJACommandLineParserFlags) (name : ArgString) (subParsers : SubParserMap)
    (loop : Bool × List AJACommandLineOption × List ArgString) :
    Except ParseFault (Bool × AJACommandLineParser) :=
  match loop with
  | (false, options, positionalArgs) =>
      .ok (false, .mk flags name [] options positionalArgs subParsers)
  | (true, options, positionalArgs) =>
      AJACommandLineParser.finish flags (.mk flags name [] options positionalArgs subParsers)

/-- The options are those of the loop. -/
lemma outcome_afterLoop (flags : AJACommandLineParserFlags) (name : ArgString)
    (subParsers : SubParserMap) (loop : Bool × List AJACommandLineOption × List ArgString) :
    ∃ ok, outcome (afterLoop flags name subParsers loop) = .ok (ok, loop.2.1) ∧
      (loop.1 = false → ok = false) := by
  obtain ⟨_ | _, options, positionalArgs⟩ := loop
  · exact ⟨false, rfl, fun _ => rfl⟩
  · obtain ⟨ok, h⟩ := outcome_finish flags _
      ⟨flags, name, subParsers, rfl⟩
    exact ⟨ok, h, fun h => by cases h⟩

/-- `Parse`, where no command is named. -/
lemma parse_eq {rest : List ArgString} (hne : rest ≠ [])
    (hsubs : subParsers.ParseAll (exe :: rest) [] = .ok (true, [], subParsers')) :
    AJACommandLineParser.Parse (exe :: rest)
        (.mk flags name [] options positionalArgs subParsers) =
      if name ≠ [] ∧ rest.head? ≠ some name then
        .ok (true, .mk flags name [] options positionalArgs subParsers')
      else afterLoop flags name subParsers' (parseLoop flags rest false options positionalArgs) := by
  rw [AJACommandLineParser.Parse, hsubs]
  simp only [hne, and_false, if_false]
  split
  · rfl
  · rfl

/-- An option is taken, and the loop goes on. -/
lemma parseLoop_option {arg : ArgString} {rest : List ArgString}
    (harg : hasOptionPrefix arg = true) (hne : arg ≠ kDoubleDash) :
    parseLoop flags (arg :: rest) false options positionalArgs =
      match parseOption flags options arg rest.head? with
      | none => (false, options, positionalArgs)
      | some options => parseLoop flags rest false options positionalArgs := by
  rw [parseLoop, beq_eq_false_iff_ne.2 hne]
  simp only [harg, if_true]
  rfl

/-- A value is passed over. -/
lemma parseLoop_value (hv : hasOptionPrefix v = false) (rest : List ArgString) :
    parseLoop flags (v :: rest) false options positionalArgs =
      parseLoop flags rest false options positionalArgs := by
  have hne : v ≠ kDoubleDash := by
    rintro rfl
    cases hv
  rw [parseLoop, beq_eq_false_iff_ne.2 hne, hv]
  rfl

/-- A spelling starts with an option. -/
lemma Spelled.starts (h : Spelled options c w v) {s : List ArgString}
    (hs : s ∈ spellings c w v) :
    ∃ arg rest, s = arg :: rest ∧ hasOptionPrefix arg = true ∧ arg ≠ kDoubleDash := by
  have hsingle : ∀ rest, '-' :: c :: rest ≠ kDoubleDash := fun rest heq =>
    h.short.1 (List.cons.inj (List.cons.inj heq).2).1
  have hdouble : ∀ rest, rest ≠ [] → '-' :: '-' :: rest ≠ kDoubleDash := fun rest hne heq =>
    hne (List.cons.inj (List.cons.inj heq).2).2
  simp only [spellings, List.mem_cons, List.not_mem_nil, or_false] at hs
  rcases hs with rfl | rfl | rfl | rfl | rfl
  · exact ⟨_, _, rfl, rfl, hsingle _⟩
  · exact ⟨_, _, rfl, rfl, hsingle _⟩
  · exact ⟨_, _, rfl, rfl, hsingle _⟩
  · exact ⟨_, _, rfl, rfl, hdouble _ (by simp)⟩
  · exact ⟨_, _, rfl, rfl, hdouble _ h.long.1⟩

/-- **A spelling sets the option**, but for an attached value where unknown names are an error. -/
theorem Spelled.loop (h : Spelled options c w v) (hshort : flags.kShortOptionsAsLong = false)
    {s : List ArgString} (hs : s ∈ spellings c w v)
    (hk : flags.kErrorOnUnknownArgs = true → s ≠ ['-' :: c :: v]) :
    parseLoop flags (s ++ post) false options positionalArgs =
      parseLoop flags post false (withOption options w v) positionalArgs := by
  obtain ⟨arg, rest, rfl, harg, hne⟩ := h.starts hs
  rw [List.cons_append, parseLoop_option harg hne]
  simp only [spellings, List.mem_cons, List.cons.injEq, List.not_mem_nil, or_false] at hs
  rcases hs with ⟨rfl, rfl⟩ | ⟨rfl, rfl⟩ | ⟨rfl, rfl⟩ | ⟨rfl, rfl⟩ | ⟨rfl, rfl⟩
  · have hkno : flags.kErrorOnUnknownArgs = false := by
      by_contra hyes
      exact hk (by simpa using hyes) rfl
    rw [h.parse_attached hshort hkno]
    rfl
  · rw [h.parse_assigned]
    rfl
  · rw [List.cons_append, List.head?_cons, h.parse_short hshort]
    exact parseLoop_value h.value.2.1 _
  · rw [h.parse_long_assigned]
    rfl
  · rw [List.cons_append, List.head?_cons, h.parse_long]
    exact parseLoop_value h.value.2.1 _

/-- An attached value, where unknown names are an error. -/
lemma Spelled.loop_error (h : Spelled options c w v)
    (hshort : flags.kShortOptionsAsLong = false) (hk : flags.kErrorOnUnknownArgs = true) :
    parseLoop flags (['-' :: c :: v] ++ post) false options positionalArgs =
      (false, options, positionalArgs) := by
  obtain ⟨arg, rest, heq, harg, hne⟩ := h.starts (s := ['-' :: c :: v]) List.mem_cons_self
  obtain ⟨rfl, rfl⟩ := List.cons.inj heq
  rw [List.cons_append, parseLoop_option harg hne, h.parse_attached_error hshort hk]

/-- The other spellings start otherwise than an attached value. -/
lemma Spelled.head_ne (h : Spelled options c w v) {s : List ArgString} (hs : s ∈ spellings c w v)
    (hne : s ≠ ['-' :: c :: v]) : s.head? ≠ some ('-' :: c :: v) := by
  have hdouble : ∀ rest, '-' :: '-' :: rest ≠ '-' :: c :: v := fun rest heq =>
    h.short.1 (List.cons.inj (List.cons.inj heq).2).1.symm
  simp only [spellings, List.mem_cons, List.not_mem_nil, or_false] at hs
  rcases hs with rfl | rfl | rfl | rfl | rfl
  · exact absurd rfl hne
  · intro heq
    have hlen := congrArg List.length (Option.some.inj heq)
    simp at hlen
  · intro heq
    exact h.value.1 (List.cons.inj (List.cons.inj (Option.some.inj heq)).2).2.symm
  · exact fun heq => hdouble _ (Option.some.inj heq)
  · exact fun heq => hdouble _ (Option.some.inj heq)

/-- What stands before a spelling is passed. -/
lemma Spelled.loop_passed (h : Spelled options c w v)
    (hleads : LeadsTo flags options positionalArgs pre options')
    (hall : flags.kErrorOnUnknownArgs = true → ∀ arg ∈ pre, ¬ RefusedArg options arg)
    {s : List ArgString} (hs : s ∈ spellings c w v) :
    parseLoop flags (pre ++ s ++ post) false options positionalArgs =
      parseLoop flags (s ++ post) false options' positionalArgs := by
  obtain ⟨arg, rest, rfl, harg, -⟩ := h.starts hs
  rw [List.append_assoc, List.cons_append]
  exact hleads.passed hall arg _ harg

/-- What stands before a spelling is refused. -/
lemma Spelled.loop_refused (h : Spelled options c w v)
    (hleads : LeadsTo flags options positionalArgs pre options')
    (hk : flags.kErrorOnUnknownArgs = true) (hex : ∃ arg ∈ pre, RefusedArg options arg)
    {s : List ArgString} (hs : s ∈ spellings c w v) :
    parseLoop flags (pre ++ s ++ post) false options positionalArgs =
      (false, options', positionalArgs) := by
  obtain ⟨arg, rest, rfl, harg, -⟩ := h.starts hs
  rw [List.append_assoc, List.cons_append]
  exact hleads.refused hk hex arg _ harg

/-- The first argument of all. -/
lemma Spelled.first (h : Spelled options c w v) {s : List ArgString}
    (hs : s ∈ spellings c w v) :
    (pre ++ s ++ post).head? = if pre = [] then s.head? else pre.head? := by
  obtain ⟨arg, rest, rfl, -⟩ := h.starts hs
  cases pre with
  | nil => rfl
  | cons arg pre => rfl

/-- What a spelling that is parsed comes to differs from what leaves the options. -/
lemma outcome_ne (hshort : flags.kShortOptionsAsLong = false) (h : Spelled options c w v)
    (parse : Except ParseFault (Bool × AJACommandLineParser)) {ok : Bool}
    (hparse : outcome parse = .ok (ok, options)) :
    outcome (afterLoop flags name subParsers
      (parseLoop flags post false (withOption options w v) positionalArgs)) ≠ outcome parse := by
  intro heq
  obtain ⟨ok', hloop, -⟩ := outcome_afterLoop flags name subParsers
    (parseLoop flags post false (withOption options w v) positionalArgs)
  rw [hloop, hparse, Except.ok.injEq, Prod.mk.injEq] at heq
  have hle := valueCount_parseLoop_le (withOption options w v) positionalArgs hshort post false
  have hlt := valueCount_lt_withOption h.haveLong h.value.1
  rw [heq.2] at hle
  omega

end Lines

/-- **The spellings are equivalent** exactly where unknown names are no error or one stands before,
or where the arguments are not parsed; an argument that names the parser is no spelling. -/
theorem spelledAlike_iff (flags : AJACommandLineParserFlags) (name exe : ArgString)
    (options : List AJACommandLineOption) (positionalArgs pre post : List ArgString)
    (subParsers subParsers' : SubParserMap) (c : Char) (w v : ArgString)
    (hshort : flags.kShortOptionsAsLong = false) (h : Spelled options c w v)
    (hpre : kDoubleDash ∉ pre)
    (hsubs : ∀ s ∈ spellings c w v,
      subParsers.ParseAll (exe :: (pre ++ s ++ post)) [] = .ok (true, [], subParsers')) :
    SpelledAlike (.mk flags name [] options positionalArgs subParsers) exe pre post c w v ↔
      AlikeWhen flags options name pre c w v := by
  obtain ⟨options', hleads⟩ :=
    parseLoop_before options positionalArgs hshort pre hpre
  have hspelled := h.congr hleads.names
  have hparse : ∀ s ∈ spellings c w v,
      AJACommandLineParser.Parse (exe :: (pre ++ s ++ post))
          (.mk flags name [] options positionalArgs subParsers) =
        if name ≠ [] ∧ (if pre = [] then s.head? else pre.head?) ≠ some name then
          .ok (true, .mk flags name [] options positionalArgs subParsers')
        else afterLoop flags name subParsers'
          (parseLoop flags (pre ++ s ++ post) false options positionalArgs) := by
    intro s hs
    obtain ⟨arg, rest, heq, -⟩ := h.starts hs
    rw [parse_eq (by simp [heq]) (hsubs s hs), h.first hs]
  have henter : name = [] ∨ pre.head? = some name → ∀ s : List ArgString,
      ¬ (name ≠ [] ∧ (if pre = [] then s.head? else pre.head?) ≠ some name) := by
    rintro (hname | hhead) s ⟨hne, hfirst⟩
    · exact hne hname
    · have hpre : pre ≠ [] := by
        rintro rfl
        cases hhead
      rw [if_neg hpre] at hfirst
      exact hfirst hhead
  constructor
  · intro hall
    refine ⟨fun hentered hk => ?_, fun hname hnil s hs hhead => ?_⟩
    · by_contra hno
      have hnone : ∀ arg ∈ pre, ¬ RefusedArg options arg := fun arg hmem hrefused =>
        hno ⟨arg, hmem, hrefused⟩
      have hattached : ['-' :: c :: v] ∈ spellings c w v := List.mem_cons_self
      have hassigned : ['-' :: c :: '=' :: v] ∈ spellings c w v :=
        List.mem_cons_of_mem _ List.mem_cons_self
      have heq := hall _ hassigned _ hattached
      rw [hparse _ hassigned, hparse _ hattached, if_neg (henter hentered _),
        if_neg (henter hentered _), h.loop_passed hleads (fun _ => hnone) hassigned,
        h.loop_passed hleads (fun _ => hnone) hattached, hspelled.loop_error hshort hk,
        hspelled.loop hshort hassigned (fun _ hsame => by simp at hsame)] at heq
      exact outcome_ne hshort hspelled _ rfl heq
    · subst hnil
      obtain ⟨s', hs', hhead'⟩ : ∃ s' ∈ spellings c w v, s'.head? ≠ s.head? := by
        by_cases hsame : s = ['-' :: c :: v]
        · refine ⟨['-' :: c :: '=' :: v], List.mem_cons_of_mem _ List.mem_cons_self, ?_⟩
          rw [hsame]
          exact h.head_ne (List.mem_cons_of_mem _ List.mem_cons_self) (by simp)
        · exact ⟨['-' :: c :: v], List.mem_cons_self, fun heq => h.head_ne hs hsame heq.symm⟩
      have heq := hall s hs s' hs'
      rw [hparse s hs, hparse s' hs', if_pos rfl, if_pos rfl, if_neg (fun hno => hno.2 hhead),
        if_pos ⟨hname, fun hno => hhead' (hno.trans hhead.symm)⟩, List.nil_append] at heq
      by_cases hbad : flags.kErrorOnUnknownArgs = true ∧ s = ['-' :: c :: v]
      · rw [hbad.2, h.loop_error hshort hbad.1] at heq
        cases heq
      · rw [h.loop hshort hs (fun hk hsame => hbad ⟨hk, hsame⟩)] at heq
        exact outcome_ne hshort h _ rfl heq
  · intro hwhen s hs s' hs'
    refine congrArg outcome ?_
    rw [hparse s hs, hparse s' hs']
    by_cases hentered : name = [] ∨ pre.head? = some name
    · rw [if_neg (henter hentered s), if_neg (henter hentered s')]
      refine congrArg (afterLoop flags name subParsers') ?_
      cases hk : flags.kErrorOnUnknownArgs with
      | true =>
          have hex := hwhen.entered hentered hk
          rw [h.loop_refused hleads hk hex hs, h.loop_refused hleads hk hex hs']
      | false =>
          have hno : flags.kErrorOnUnknownArgs = true → False := fun hyes => by
            rw [hk] at hyes
            cases hyes
          rw [h.loop_passed hleads (fun hyes => (hno hyes).elim) hs,
            h.loop_passed hleads (fun hyes => (hno hyes).elim) hs',
            hspelled.loop hshort hs (fun hyes => (hno hyes).elim),
            hspelled.loop hshort hs' (fun hyes => (hno hyes).elim)]
    · obtain ⟨hname, hhead⟩ := not_or.1 hentered
      have hfirst : ∀ s ∈ spellings c w v,
          (if pre = [] then s.head? else pre.head?) ≠ some name := by
        intro s hs
        split
        · rename_i hnil
          exact hwhen.passed hname hnil s hs
        · exact hhead
      rw [if_pos ⟨hname, hfirst s hs⟩, if_pos ⟨hname, hfirst s' hs'⟩]

/-- An option with a short and a long name. -/
def catOption : AJACommandLineOption := ⟨[['c'], ['c', 'a', 't']], [], false⟩

/-- A parser with this option. -/
def catParser (kErrorOnUnknownArgs : Bool) : AJACommandLineParser :=
  .mk ⟨false, true, true, kErrorOnUnknownArgs⟩ [] [] [catOption] [] .nil

/-- The option can be spelled with the value `1`. -/
lemma spelled_cat : Spelled [catOption] 'c' ['c', 'a', 't'] ['1'] where
  distinct := List.pairwise_singleton _ _
  option := ⟨catOption, List.mem_cons_self, by decide, by decide⟩
  short := by decide
  long := by decide
  value := by decide
  alone := by decide

/-- Its spellings are equivalent, where unknown names are no error. -/
theorem spelledAlike_cat : Spelled [catOption] 'c' ['c', 'a', 't'] ['1'] ∧
    SpelledAlike (catParser false) ['p'] [['x']] [['y']] 'c' ['c', 'a', 't'] ['1'] :=
  ⟨spelled_cat, (spelledAlike_iff ⟨false, true, true, false⟩ [] ['p'] [catOption] [] [['x']]
    [['y']] .nil .nil 'c' ['c', 'a', 't'] ['1'] rfl spelled_cat (by decide)
    (fun _ _ => rfl)).2 ⟨fun _ hk => (by cases hk), fun hne => absurd rfl hne⟩⟩

/-- Where they are, an attached value is refused. -/
theorem not_spelledAlike_error :
    outcome ((catParser true).Parse [['p'], ['-', 'c', '=', '1']]) =
      .ok (true, [⟨[['c'], ['c', 'a', 't']], [['1']], true⟩]) ∧
    outcome ((catParser true).Parse [['p'], ['-', 'c', '1']]) = .ok (false, [catOption]) ∧
    ¬ ∀ (flags : AJACommandLineParserFlags) (exe : ArgString)
        (options : List AJACommandLineOption) (pre post : List ArgString) (c : Char)
        (w v : ArgString),
      flags.kShortOptionsAsLong = false → Spelled options c w v → kDoubleDash ∉ pre →
        SpelledAlike (.mk flags [] [] options [] .nil) exe pre post c w v := by
  refine ⟨by rfl, by rfl, fun hall => ?_⟩
  have heq := hall ⟨false, true, true, true⟩ ['p'] [catOption] [] [] 'c' ['c', 'a', 't'] ['1'] rfl
    spelled_cat (by decide) ['-' :: 'c' :: ['1']] List.mem_cons_self
    ['-' :: 'c' :: '=' :: ['1']] (List.mem_cons_of_mem _ List.mem_cons_self)
  cases heq

end LibAjaNtv2
