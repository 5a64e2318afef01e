import Mathlib.Tactic

/-!
The command-line parser (`AJACommandLineParser`).

* `AJACommandLineOption`: the names of an option, and what has been collected for it;
* `parseOption`: one argument that starts with a dash; `parseLoop`: the loop over all;
* `AJACommandLineParser`, `SubParserMap`: a parser with its sub-parsers;
* `Parse`: what it returns, and the parser after it;
* `valueRight_iff`: **when `Value` is right**;
* `parse_ne_pastTheEnd_iff`: **when `Parse` reads existing arguments only**;
* `parseRight_iff`: **when parsing and reading the values are safe**.
-/

namespace LibAjaNtv2

/-- A string of the command line. -/
abbrev ArgString := List Char

/-! ### Options -/

/-- `AJACommandLineOption`. -/
structure AJACommandLineOption where
  names : List ArgString
  values : List ArgString
  isSet : Bool
  deriving DecidableEq, Repr

namespace AJACommandLineOption

/-- `AJACommandLineOption::AddValue`. -/
def AddValue (opt : AJACommandLineOption) (value : ArgString) : AJACommandLineOption :=
  { opt with values := opt.values ++ [value] }

/-- `AJACommandLineOption::MarkSet`. -/
def MarkSet (opt : AJACommandLineOption) (isSet : Bool) : AJACommandLineOption :=
  { opt with isSet := isSet }

/-- `AJACommandLineOption::Value`: nothing where `std::vector::at` throws. -/
def Value (opt : AJACommandLineOption) (index : ℕ) : Option ArgString :=
  if opt.values.length < index ∨ opt.values = [] then some [] else opt.values[index]?

/-- What `Value` is for. -/
def ValueRight (opt : AJACommandLineOption) (index : ℕ) : Prop :=
  opt.Value index = some (opt.values.getD index [])

/-- **The value of an index** is there for every index but the number of the values. -/
theorem valueRight_iff (opt : AJACommandLineOption) (index : ℕ) :
    opt.ValueRight index ↔ ¬ (index = opt.values.length ∧ 0 < index) := by
  rw [ValueRight, Value, List.getD_eq_getElem?_getD]
  rcases Nat.lt_trichotomy index opt.values.length with hlt | heq | hgt
  · have hne : opt.values ≠ [] := List.ne_nil_of_length_pos (Nat.zero_lt_of_lt hlt)
    rw [if_neg (by simp [hne]; omega), List.getElem?_eq_getElem hlt]
    exact iff_of_true rfl (by omega)
  · rw [List.getElem?_eq_none heq.ge]
    by_cases hnil : opt.values = []
    · rw [if_pos (.inr hnil)]
      rw [hnil] at heq
      exact iff_of_true rfl (by rw [heq]; simp)
    · rw [if_neg (by simp [hnil]; omega)]
      have hpos := List.length_pos_of_ne_nil hnil
      exact iff_of_false (fun h => by cases h) (by omega)
  · rw [if_pos (.inl hgt), List.getElem?_eq_none hgt.le]
    exact iff_of_true rfl (by omega)

end AJACommandLineOption

/-- `AJACommandLineParserFlags`. -/
structure AJACommandLineParserFlags where
  kShortOptionsAsLong : Bool
  kNoDefaultHelpOption : Bool
  kNoDefaultUsageOption : Bool
  kErrorOnUnknownArgs : Bool
  deriving DecidableEq, Repr

/-- `kDoubleDash`. -/
def kDoubleDash : ArgString := ['-', '-']

/-- `AJACommandLineParser::hasOptionPrefix`. -/
def hasOptionPrefix (name : ArgString) : Bool := name.head? == some '-'

/-- `AJACommandLineParser::HaveOption`. -/
def HaveOption (options : List AJACommandLineOption) (name : ArgString) : Bool :=
  options.any fun opt => decide (name ∈ opt.names)

/-- The first option with a name, changed. -/
def changeFirst (name : ArgString) (f : AJACommandLineOption → AJACommandLineOption) :
    List AJACommandLineOption → List AJACommandLineOption
  | [] => []
  | opt :: options =>
      if name ∈ opt.names then f opt :: options else opt :: changeFirst name f options

/-- `AJACommandLineParser::setOptionValue`. -/
def setOptionValue (options : List AJACommandLineOption) (name value : ArgString) :
    List AJACommandLineOption :=
  if value ≠ [] then changeFirst name (·.AddValue value) options else options

/-- `AJACommandLineParser::setOption`. -/
def setOption (options : List AJACommandLineOption) (name : ArgString) (isSet : Bool) :
    List AJACommandLineOption :=
  changeFirst name (·.MarkSet isSet) options

/-! ### The arguments -/

section Arguments

variable (flags : AJACommandLineParserFlags)

/-- The loop over the prefixes of a single-dash argument, the longest first; nothing where `Parse`
returns false. -/
def prefixLoop (options : List AJACommandLineOption) (argStr : ArgString) :
    ℕ → Option (ArgString × ArgString)
  | 0 => some ([], [])
  | n + 1 =>
      let subStr := argStr.take (n + 1)
      if HaveOption options subStr then some (subStr, argStr.drop (n + 1))
      else if flags.kErrorOnUnknownArgs then none
      else prefixLoop options argStr n

/-- The value of an option: where it has none, the next argument, if that is no option. -/
def valueOrNext (optValue : ArgString) (nextArg : Option ArgString) : ArgString :=
  if optValue = [] then
    match nextArg with
    | some next => if hasOptionPrefix next then [] else next
    | none => []
  else optValue

/-- The end of the round: the option is set, if there is one; nothing where `Parse` returns
false. -/
def applyOption (options : List AJACommandLineOption) (optName optValue : ArgString) :
    Option (List AJACommandLineOption) :=
  if HaveOption options optName then
    some (setOption (setOptionValue options optName optValue) optName true)
  else if flags.kErrorOnUnknownArgs then none
  else some options

/-- An argument that starts with a dash. -/
def parseOption (options : List AJACommandLineOption) (arg : ArgString)
    (nextArg : Option ArgString) : Option (List AJACommandLineOption) :=
  let doubleDash := arg.take 2 == kDoubleDash
  let argStr := if doubleDash then arg.drop 2 else arg.drop 1
  if '=' ∈ argStr then
    applyOption flags options (argStr.takeWhile (· ≠ '=')) ((argStr.dropWhile (· ≠ '=')).drop 1)
  else if doubleDash then applyOption flags options argStr (valueOrNext [] nextArg)
  else if flags.kShortOptionsAsLong then
    some (argStr.foldl (fun options ch =>
      if HaveOption options [ch] then setOption options [ch] true else options) options)
  else do
    let (optName, optValue) ← prefixLoop flags options argStr argStr.length
    applyOption flags options optName (valueOrNext optValue nextArg)

/-- The loop over the arguments behind the path: whether it comes to the end, the options and
the positional arguments. -/
def parseLoop : List ArgString → Bool → List AJACommandLineOption → List ArgString →
    Bool × List AJACommandLineOption × List ArgString
  | [], _, options, positionalArgs => (true, options, positionalArgs)
  | arg :: rest, havePositionalArgs, options, positionalArgs =>
      if !havePositionalArgs && arg == kDoubleDash then
        parseLoop rest true options positionalArgs
      else if havePositionalArgs then parseLoop rest true options (positionalArgs ++ [arg])
      else if hasOptionPrefix arg then
        match parseOption flags options arg rest.head? with
        | none => (false, options, positionalArgs)
        | some options => parseLoop rest false options positionalArgs
      else parseLoop rest false options positionalArgs

end Arguments

/-! ### Parsers -/

mutual

/-- `AJACommandLineParser`. -/
inductive AJACommandLineParser
  | mk (flags : AJACommandLineParserFlags) (name commandName : ArgString)
      (options : List AJACommandLineOption) (positionalArgs : List ArgString)
      (subParsers : SubParserMap)

/-- `SubParserMap`: names with parsers, some of which are null, in the order of the names. -/
inductive SubParserMap
  | nil
  | null (name : ArgString) (rest : SubParserMap)
  | sub (name : ArgString) (parser : AJACommandLineParser) (rest : SubParserMap)

end

/-- What stops a parser: an iterator that is moved past the end of the arguments or read there,
and a name of a command that `std::map::at` does not find. -/
inductive ParseFault
  | pastTheEnd
  | outOfRange
  deriving DecidableEq, Repr

mutual

/-- `AJACommandLineParser::IsSet`. -/
def AJACommandLineParser.IsSet (name : ArgString) :
    AJACommandLineParser → Except ParseFault Bool
  | .mk _ _ commandName options _ subParsers =>
      if commandName ≠ [] then subParsers.isSetAt name commandName
      else .ok ((options.find? fun opt => decide (name ∈ opt.names)).any (·.isSet))

/-- The option of the sub-parser of a command. -/
def SubParserMap.isSetAt (name commandName : ArgString) :
    SubParserMap → Except ParseFault Bool
  | .nil => .error .outOfRange
  | .null key rest => if key = commandName then .ok false else rest.isSetAt name commandName
  | .sub key parser rest =>
      if key = commandName then parser.IsSet name else rest.isSetAt name commandName

end

/-- Whether a default option has been asked for. -/
def AJACommandLineParser.asked (noDefault : Bool) (name : ArgString)
    (parser : AJACommandLineParser) : Except ParseFault Bool :=
  if noDefault then .ok false else parser.IsSet name

/-- The end of `Parse`: it returns false where help or the usage has been asked for. -/
def AJACommandLineParser.finish (flags : AJACommandLineParserFlags)
    (parser : AJACommandLineParser) : Except ParseFault (Bool × AJACommandLineParser) :=
  match parser.asked flags.kNoDefaultHelpOption ['h', 'e', 'l', 'p'] with
  | .error fault => .error fault
  | .ok true => .ok (false, parser)
  | .ok false =>
    match parser.asked flags.kNoDefaultUsageOption ['u', 's', 'a', 'g', 'e'] with
    | .error fault => .error fault
    | .ok usage => .ok (!usage, parser)

mutual

/-- `AJACommandLineParser::Parse`: what it returns, and the parser after it. -/
def AJACommandLineParser.Parse (args : List ArgString) :
    AJACommandLineParser → Except ParseFault (Bool × AJACommandLineParser)
  | .mk flags name commandName options positionalArgs subParsers =>
      match args with
      | [] => .error .pastTheEnd
      | _ :: rest =>
        match subParsers.ParseAll args commandName with
        | .error fault => .error fault
        | .ok (false, commandName, subParsers) =>
            .ok (false, .mk flags name commandName options positionalArgs subParsers)
        | .ok (true, commandName, subParsers) =>
          if name ≠ [] ∧ rest = [] then .error .pastTheEnd
          else if name ≠ [] ∧ rest.head? ≠ some name then
            .ok (true, .mk flags name commandName options positionalArgs subParsers)
          else
            match parseLoop flags rest false options positionalArgs with
            | (false, options, positionalArgs) =>
                .ok (false, .mk flags name commandName options positionalArgs subParsers)
            | (true, options, positionalArgs) =>
                AJACommandLineParser.finish flags
                  (.mk flags name commandName options positionalArgs subParsers)

/-- The loop over the sub-parsers: whether all succeed, the name of the command, and they. -/
def SubParserMap.ParseAll (args : List ArgString) (commandName : ArgString) :
    SubParserMap → Except ParseFault (Bool × ArgString × SubParserMap)
  | .nil => .ok (true, commandName, .nil)
  | .null key rest =>
      match args.tail.head? with
      | none => .error .pastTheEnd
      | some second =>
        match rest.ParseAll args (if second = key then second else commandName) with
        | .error fault => .error fault
        | .ok (ok, commandName, rest) => .ok (ok, commandName, .null key rest)
  | .sub key parser rest =>
      match args.tail.head? with
      | none => .error .pastTheEnd
      | some second =>
        match parser.Parse args with
        | .error fault => .error fault
        | .ok (false, parser) =>
            .ok (false, if second = key then second else commandName, .sub key parser rest)
        | .ok (true, parser) =>
          match rest.ParseAll args (if second = key then second else commandName) with
          | .error fault => .error fault
          | .ok (ok, commandName, rest) => .ok (ok, commandName, .sub key parser rest)

end

/-! ### Reading existing arguments -/

mutual

/-- `IsSet` reads no argument. -/
lemma isSet_ne_pastTheEnd (name : ArgString) :
    ∀ parser : AJACommandLineParser, parser.IsSet name ≠ .error .pastTheEnd
  | .mk _ _ commandName options _ subParsers => by
      rw [AJACommandLineParser.IsSet]
      split
      · exact isSetAt_ne_pastTheEnd name commandName subParsers
      · exact fun h => by cases h

/-- Neither does it in a sub-parser. -/
lemma isSetAt_ne_pastTheEnd (name commandName : ArgString) :
    ∀ subParsers : SubParserMap, subParsers.isSetAt name commandName ≠ .error .pastTheEnd
  | .nil => fun h => by cases h
  | .null key rest => by
      rw [SubParserMap.isSetAt]
      split
      · exact fun h => by cases h
      · exact isSetAt_ne_pastTheEnd name commandName rest
  | .sub key parser rest => by
      rw [SubParserMap.isSetAt]
      split
      · exact isSet_ne_pastTheEnd name parser
      · exact isSetAt_ne_pastTheEnd name commandName rest

end

/-- Nor does the end of `Parse`. -/
lemma finish_ne_pastTheEnd (flags : AJACommandLineParserFlags) (parser : AJACommandLineParser) :
    parser.finish flags ≠ .error .pastTheEnd := by
  have hasked : ∀ noDefault name, parser.asked noDefault name ≠ .error .pastTheEnd := by
    intro noDefault name
    rw [AJACommandLineParser.asked]
    split
    · exact fun h => by cases h
    · exact isSet_ne_pastTheEnd name parser
  rw [AJACommandLineParser.finish]
  split
  · rename_i fault heq
    exact fun h => hasked _ _ (heq.trans (by cases h; rfl))
  · exact fun h => by cases h
  · split
    · rename_i fault heq
      exact fun h => hasked _ _ (heq.trans (by cases h; rfl))
    · exact fun h => by cases h

mutual

/-- With an argument behind the path no other is read. -/
lemma parse_ne_pastTheEnd (exe second : ArgString) (rest : List ArgString) :
    ∀ parser : AJACommandLineParser,
      parser.Parse (exe :: second :: rest) ≠ .error .pastTheEnd
  | .mk flags name commandName options positionalArgs subParsers => by
      have hsubs := parseAll_ne_pastTheEnd exe second rest subParsers commandName
      rw [AJACommandLineParser.Parse]
      split
      · rename_i fault heq
        rw [heq] at hsubs
        exact fun h => hsubs (by cases h; rfl)
      · exact fun h => by cases h
      · rw [if_neg (fun h => List.cons_ne_nil _ _ h.2)]
        split
        · exact fun h => by cases h
        · split
          · exact fun h => by cases h
          · exact finish_ne_pastTheEnd _ _

/-- Neither by the sub-parsers. -/
lemma parseAll_ne_pastTheEnd (exe second : ArgString) (rest : List ArgString) :
    ∀ (subParsers : SubParserMap) (commandName : ArgString),
      subParsers.ParseAll (exe :: second :: rest) commandName ≠ .error .pastTheEnd
  | .nil, _ => fun h => by cases h
  | .null key subs, commandName => by
      have hrest := parseAll_ne_pastTheEnd exe second rest subs
        (if second = key then second else commandName)
      rw [SubParserMap.ParseAll]
      simp only [List.tail_cons, List.head?_cons]
      split
      · rename_i fault heq
        rw [heq] at hrest
        exact fun h => hrest (by cases h; rfl)
      · exact fun h => by cases h
  | .sub key parser subs, commandName => by
      have hparser := parse_ne_pastTheEnd exe second rest parser
      have hrest := parseAll_ne_pastTheEnd exe second rest subs
        (if second = key then second else commandName)
      rw [SubParserMap.ParseAll]
      simp only [List.tail_cons, List.head?_cons]
      split
      · rename_i fault heq
        rw [heq] at hparser
        exact fun h => hparser (by cases h; rfl)
      · exact fun h => by cases h
      · split
        · rename_i fault heq
          rw [heq] at hrest
          exact fun h => hrest (by cases h; rfl)
        · exact fun h => by cases h

end

namespace AJACommandLineParser

/-- The name of a parser. -/
def name : AJACommandLineParser → ArgString
  | .mk _ name _ _ _ _ => name

/-- The sub-parsers of a parser. -/
def subParsers : AJACommandLineParser → SubParserMap
  | .mk _ _ _ _ _ subParsers => subParsers

/-- **`Parse` reads existing arguments only** exactly where there is one behind the path of the
program, or only that path, and neither a name nor a sub-parser to compare. -/
theorem parse_ne_pastTheEnd_iff (parser : AJACommandLineParser) (args : List ArgString) :
    parser.Parse args ≠ .error .pastTheEnd ↔
      2 ≤ args.length ∨ args.length = 1 ∧ parser.subParsers = .nil ∧ parser.name = [] := by
  obtain ⟨flags, name, commandName, options, positionalArgs, subParsers⟩ := parser
  rcases args with _ | ⟨exe, _ | ⟨second, rest⟩⟩
  · exact iff_of_false (fun h => h rfl) (by simp)
  · rw [Parse, AJACommandLineParser.subParsers, AJACommandLineParser.name]
    cases subParsers with
    | nil =>
        by_cases hname : name = []
        · refine iff_of_true ?_ (.inr ⟨rfl, rfl, hname⟩)
          simp only [SubParserMap.ParseAll, hname, ne_eq, not_true_eq_false, false_and, if_false,
            parseLoop]
          exact finish_ne_pastTheEnd _ _
        · refine iff_of_false (fun h => h ?_) ?_
          · simp only [SubParserMap.ParseAll]
            exact if_pos ⟨hname, trivial⟩
          · simp [hname]
    | null key subs => exact iff_of_false (fun h => h rfl) (by simp)
    | sub key parser subs => exact iff_of_false (fun h => h rfl) (by simp)
  · exact iff_of_true (parse_ne_pastTheEnd exe second rest _) (.inl (by simp))

end AJACommandLineParser

/-- What the caller relies on: `Parse` reads existing arguments, and an option has its values. -/
structure ParseRight (parser : AJACommandLineParser) (args : List ArgString)
    (opt : AJACommandLineOption) (index : ℕ) : Prop where
  parse : parser.Parse args ≠ .error .pastTheEnd
  value : opt.ValueRight index

/-- **Parsing and reading the values are safe** exactly where there is an argument to compare, and
the index is not the number of the values. -/
theorem parseRight_iff (parser : AJACommandLineParser) (args : List ArgString)
    (opt : AJACommandLineOption) (index : ℕ) :
    ParseRight parser args opt index ↔
      (2 ≤ args.length ∨ args.length = 1 ∧ parser.subParsers = .nil ∧ parser.name = []) ∧
        ¬ (index = opt.values.length ∧ 0 < index) := by
  rw [← parser.parse_ne_pastTheEnd_iff, ← opt.valueRight_iff]
  exact ⟨fun h => ⟨h.parse, h.value⟩, fun h => ⟨h.1, h.2⟩⟩

/-- A parser without options. -/
def plainParser (name : ArgString) : AJACommandLineParser :=
  .mk ⟨false, false, false, false⟩ name [] [] [] .nil

/-- An empty list is read past its end, and so is one value past the values. -/
theorem not_parseRight_empty_last :
    (plainParser []).Parse [] = .error .pastTheEnd ∧
    (plainParser ['a']).Parse [['p']] = .error .pastTheEnd ∧
    (AJACommandLineOption.mk [['a']] [['1']] true).Value 1 = none ∧
    ¬ ∀ parser args opt index, ParseRight parser args opt index := by
  refine ⟨rfl, rfl, rfl, fun h => ?_⟩
  exact (h (plainParser []) [] ⟨[], [], false⟩ 0).parse rfl

end LibAjaNtv2
