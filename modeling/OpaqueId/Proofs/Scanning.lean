import Mathlib.Data.Nat.Digits.Lemmas
import OpaqueId.CommandLine.Invocation
import OpaqueId.Proofs.Recording

/-! # Scanning: what a command line asks for

    The environment only fills gaps: what a command line asks for, it asks for
    in every environment, with the same command and format and with settings
    that come before those of the environment (`parse_eq_ok_iff`).

    The other half of the module writes command lines.  An option with its
    value attached takes any text for the value, dashes and equals signs
    included (`scan_attached`), and a number written in decimal digits is read
    back (`readNumber?_toString`).  So all settings can be saved by a command
    line (`parse_saveArgs`), and consecutive values can be minted as a range
    (`parse_rangeArgs`) or one by one (`parse_valuesArgs`). -/

namespace OpaqueId

theorem Settings.orElse_empty (s : Settings) : s.orElse .empty = s := by
  obtain ⟨template, alphabet⟩ := s
  cases template <;> cases alphabet <;> rfl

namespace CommandLine

/-! ## The environment -/

/-- A command line that is accepted under one judge of the innermost level is
    accepted under any other that accepts as much. -/
theorem scan_ok_of_finish {α : Type} {finish finish' : Level → Given → Except Usage α}
    (hfinish : ∀ l g result, finish l g = .ok result → finish' l g = .ok result) {s : Scan}
    {args : List String} {result : α × Given} (h : scan finish s args = .ok result) :
    scan finish' s args = .ok result := by
  have hkept : Kept fun _ => True :=
    ⟨trivial, fun _ _ => trivial, fun _ _ => trivial, fun _ => trivial⟩
  obtain ⟨l, g, -, hjudge, hothers⟩ := hkept.judged trivial h
  exact hothers (hfinish l g result.1 hjudge)

/-- The environment has no say in whether a command is complete. -/
theorem commandOf_ok_of_ok {environment environment' : Settings} {l : Level} {g : Given}
    {command : Command} (h : commandOf environment l g = .ok command) :
    commandOf environment' l g = .ok command := by
  cases l with
  | program | config => cases h
  | inspect | mint | validate | decode | checkdigit | configShow | configPath | configSet
  | configClear => exact h

/-- A command line is understood if its scan ends in a command, and the rest is taken from
    what was given on the way. -/
theorem parse_eq_ok_iff_scan (environment : Settings) (args : List String) (i : Invocation) :
    parse environment args = .ok i ↔
      ∃ g, scan (commandOf environment) (.start .program) args = .ok (i.command, g) ∧
        i.format = Format.ofName (g.format.getD "table") ∧
        i.settings = Settings.orElse ⟨g.template, g.alphabet⟩ environment ∧
        i.verbose = g.verbose := by
  rw [parse]
  cases hscan : scan (commandOf environment) (.start .program) args with
  | error u =>
      constructor
      · intro h
        cases h
      · rintro ⟨_, h, -⟩
        cases h
  | ok result =>
      -- an invocation is its four parts
      obtain ⟨command, g⟩ := result
      constructor
      · intro h
        cases h
        exact ⟨g, rfl, rfl, rfl, rfl⟩
      · obtain ⟨command', format, settings, verbose⟩ := i
        rintro ⟨_, h, hformat, hsettings, hverbose⟩
        cases h
        dsimp only at hformat hsettings hverbose
        rw [hformat, hsettings, hverbose]
        rfl

/-- What a command line asks for does not depend on the environment, whose settings
    only fill the gaps of those on the command line. -/
theorem parse_eq_ok_iff (environment : Settings) (args : List String) (i : Invocation) :
    parse environment args = .ok i ↔
      ∃ options : Settings, parse .empty args = .ok { i with settings := options } ∧
        i.settings = options.orElse environment := by
  rw [parse_eq_ok_iff_scan]
  constructor
  · rintro ⟨g, hscan, hformat, hsettings, hverbose⟩
    refine ⟨⟨g.template, g.alphabet⟩, ?_, hsettings⟩
    rw [parse_eq_ok_iff_scan]
    exact ⟨g, scan_ok_of_finish (fun _ _ _ => commandOf_ok_of_ok) hscan, hformat,
      (Settings.orElse_empty _).symm, hverbose⟩
  · rintro ⟨options, hparse, hsettings⟩
    obtain ⟨g, hscan, hformat, hoptions, hverbose⟩ := (parse_eq_ok_iff_scan _ _ _).mp hparse
    rw [Settings.orElse_empty] at hoptions
    refine ⟨g, scan_ok_of_finish (fun _ _ _ => commandOf_ok_of_ok) hscan, hformat, ?_, hverbose⟩
    rw [hsettings, ← hoptions]

/-! ## Options with their values attached -/

/-- The name of an option. -/
def Key.name : Key → String
  | .format => "format"
  | .template => "template"
  | .alphabet => "alphabet"
  | .start => "start"
  | .count => "count"

/-- An option with its value attached. -/
def Key.attached (key : Key) (text : String) : String := "--" ++ (key.name ++ ("=" ++ text))

/-- An argument that begins with a dash names no command. -/
theorem child?_eq_none {arg : String} {rest : List Char} (h : arg.toList = '-' :: rest)
    (l : Level) : l.child? arg = none := by
  have hne : ∀ name : String, name.toList.head? ≠ some '-' → arg ≠ name := by
    rintro name hname rfl
    rw [h] at hname
    exact hname rfl
  cases l with
  | program =>
      rw [Level.child?, if_neg (hne _ (by decide)), if_neg (hne _ (by decide)),
        if_neg (hne _ (by decide)), if_neg (hne _ (by decide)), if_neg (hne _ (by decide)),
        if_neg (hne _ (by decide))]
  | config =>
      rw [Level.child?, if_neg (hne _ (by decide)), if_neg (hne _ (by decide)),
        if_neg (hne _ (by decide)), if_neg (hne _ (by decide))]
  | inspect | mint | validate | decode | checkdigit | configShow | configPath | configSet
  | configClear => rfl

theorem toList_attached (key : Key) (text : String) :
    (key.attached text).toList = '-' :: '-' :: (key.name.toList ++ '=' :: text.toList) := by
  rw [Key.attached, String.toList_append, String.toList_append, String.toList_append]
  rfl

/-- An option with its value attached is read as both. -/
theorem dashed?_attached (key : Key) (text : String) :
    dashed? (key.attached text) = some (.long key.name (some text)) := by
  have hsplit : splitAttached (key.name.toList ++ '=' :: text.toList) =
      (key.name, some text) := by
    cases key <;> simp [splitAttached, Key.name]
  rw [dashed?, toList_attached]
  cases key <;> simp_all [Key.name]

/-- An option with its value attached is recorded, whatever characters the value has. -/
theorem scan_attached {α : Type} (finish : Level → Given → Except Usage α) {l : Level}
    {g g' : Given} {key : Key} {text : String} (hlong : l.long? key.name = some (.key key))
    (hrecord : g.record key text = .ok g') (args : List String) :
    scan finish ⟨l, g, .nothing, false⟩ (key.attached text :: args) =
      scan finish ⟨l, g', .nothing, false⟩ args := by
  have htext := toList_attached key text
  have hhelp : key.attached text ≠ "help" := by
    intro h
    rw [h] at htext
    exact nomatch htext
  have hword : Scan.word ⟨l, g, .nothing, false⟩ (key.attached text) =
      .long key.name (some text) := by
    simp [Scan.word, child?_eq_none htext, dashed?_attached, hhelp]
  have hstep : Scan.long ⟨l, g, .nothing, false⟩ key.name (some text) =
      .ok ⟨l, g', .nothing, false⟩ := by
    simp only [Scan.long, hlong]
    show (g.record key text).bind _ = _
    rw [hrecord]
    rfl
  rw [scan, hword]
  simp only [hstep]

/-- The flag that asks for more to be logged. -/
def verboseArgs (verbose : Bool) : List String := if verbose then ["--verbose"] else []

/-- Settings, the name of a format and the flag as options. -/
def optionArgs (s : Settings) (format : Option String) (verbose : Bool) : List String :=
  (s.template.map Key.template.attached).toList ++
    ((s.alphabet.map Key.alphabet.attached).toList ++
      ((format.map Key.format.attached).toList ++ verboseArgs verbose))

/-- What a level was given by options alone. -/
def Given.ofOptions (s : Settings) (format : Option String) (verbose : Bool) : Given :=
  { Given.nothing with
    template := s.template, alphabet := s.alphabet, format := format, verbose := verbose }

/-- Every level takes the flag, once. -/
theorem scan_verbose {α : Type} (finish : Level → Given → Except Usage α) {l : Level}
    {g : Given} (hg : g.verbose = false) (args : List String) :
    scan finish ⟨l, g, .nothing, false⟩ ("--verbose" :: args) =
      scan finish ⟨l, { g with verbose := true }, .nothing, false⟩ args := by
  have hchild : l.child? "--verbose" = none := by cases l <;> rfl
  have hdashed : dashed? "--verbose" = some (.long "verbose" none) := by decide +kernel
  have hword : Scan.word ⟨l, g, .nothing, false⟩ "--verbose" = .long "verbose" none := by
    simp [Scan.word, hchild, hdashed]
  have hlong : l.long? "verbose" = some (.flag .verbose) := by cases l <;> rfl
  have hstep : Scan.long ⟨l, g, .nothing, false⟩ "verbose" none =
      .ok ⟨l, { g with verbose := true }, .nothing, false⟩ := by
    simp only [Scan.long, hlong, Scan.raise, Scan.settle]
    show (if g.verbose = true then _ else _) = _
    rw [hg]
    rfl
  rw [scan, hword]
  simp only [hstep]

/-- Every level takes settings, a format and the flag as options. -/
theorem scan_optionArgs {α : Type} (finish : Level → Given → Except Usage α) (l : Level)
    (s : Settings) (format : Option String) (verbose : Bool) (args : List String) :
    scan finish (.start l) (optionArgs s format verbose ++ args) =
      scan finish ⟨l, .ofOptions s format verbose, .nothing, false⟩ args := by
  have htemplate : ∀ (text : String) (args : List String),
      scan finish ⟨l, .ofOptions ⟨none, none⟩ none false, .nothing, false⟩
          (Key.template.attached text :: args) =
        scan finish ⟨l, .ofOptions ⟨some text, none⟩ none false, .nothing, false⟩ args :=
    fun text args => scan_attached finish rfl rfl args
  have halphabet : ∀ (template : Option String) (text : String) (args : List String),
      scan finish ⟨l, .ofOptions ⟨template, none⟩ none false, .nothing, false⟩
          (Key.alphabet.attached text :: args) =
        scan finish ⟨l, .ofOptions ⟨template, some text⟩ none false, .nothing, false⟩ args :=
    fun template text args => scan_attached finish rfl rfl args
  have hformat : ∀ (s : Settings) (text : String) (args : List String),
      scan finish ⟨l, .ofOptions s none false, .nothing, false⟩
          (Key.format.attached text :: args) =
        scan finish ⟨l, .ofOptions s (some text) false, .nothing, false⟩ args :=
    fun s text args => scan_attached finish rfl rfl args
  have hverbose : ∀ (s : Settings) (format : Option String) (args : List String),
      scan finish ⟨l, .ofOptions s format false, .nothing, false⟩ ("--verbose" :: args) =
        scan finish ⟨l, .ofOptions s format true, .nothing, false⟩ args :=
    fun s format args => scan_verbose finish rfl args
  obtain ⟨template, alphabet⟩ := s
  -- a level starts with nothing given, and every option fills one place
  show scan finish ⟨l, .ofOptions ⟨none, none⟩ none false, .nothing, false⟩ _ = _
  cases template <;> cases alphabet <;> cases format <;> cases verbose <;>
    simp only [optionArgs, verboseArgs, Option.map_some, Option.map_none, Option.toList_some,
      Option.toList_none, List.nil_append, List.cons_append, if_true, if_false,
      Bool.false_eq_true, htemplate, halphabet, hformat, hverbose]

/-! ## Saving -/

/-- A command leads to its level, whose options come before those outside. -/
theorem scan_command {α : Type} (finish : Level → Given → Except Usage α) {l l' : Level}
    {name : String} (hhelp : name ≠ "help") (hchild : l.child? name = some l') (g : Given)
    (args : List String) :
    scan finish ⟨l, g, .nothing, false⟩ (name :: args) =
      (scan finish (.start l') args).map fun (result, inner) => (result, inner.within g) := by
  have hword : Scan.word ⟨l, g, .nothing, false⟩ name = .command l' := by
    simp [Scan.word, hchild, hhelp]
  rw [scan, hword]
  dsimp only
  cases scan finish (.start l') args with
  | error u => rfl
  | ok result => rfl

theorem Given.within_nothing (g : Given) : g.within .nothing = g := by
  simp [Given.within, Given.nothing]

/-- A command line that saves settings. -/
def saveArgs (s : Settings) (format : Option String) : List String :=
  "config" :: "set" :: optionArgs s format false

/-- All settings can be given to be saved. -/
theorem parse_saveArgs (environment s : Settings) (format : Option String) :
    parse environment (saveArgs s format) =
      .ok ⟨.change .save, Format.ofName (format.getD "table"), s.orElse environment,
        false⟩ := by
  have hset : scan (commandOf environment) (.start .configSet) (optionArgs s format false) =
      .ok (.change .save, .ofOptions s format false) := by
    rw [← List.append_nil (optionArgs s format false), scan_optionArgs]
    rfl
  have hscan : scan (commandOf environment) (.start .program) (saveArgs s format) =
      .ok (.change .save, .ofOptions s format false) := by
    rw [saveArgs, Scan.start, scan_command _ (by decide) rfl, Scan.start,
      scan_command _ (by decide) rfl, hset]
    simp [Except.map, Given.within_nothing]
  rw [parse_eq_ok_iff_scan]
  exact ⟨_, hscan, rfl, rfl, rfl⟩

/-! ## Numbers -/

/-- A number is written with a digit in front, so it is not taken for an option. -/
theorem exists_toList_toString (n : Nat) :
    ∃ c rest, (toString n).toList = c :: rest ∧ c.isDigit = true := by
  rw [Nat.toString_eq_repr, Nat.toList_repr]
  cases hdigits : Nat.toDigits 10 n with
  | nil => exact absurd hdigits Nat.toDigits_ne_nil
  | cons c rest =>
      refine ⟨c, rest, rfl, ?_⟩
      refine Nat.isDigit_of_mem_toDigits (b := 10) (n := n) (by decide) (by decide) ?_
      rw [hdigits]
      exact List.mem_cons_self ..

/-- A number in decimal digits is no option. -/
theorem dashed?_toString (n : Nat) : dashed? (toString n) = none := by
  obtain ⟨c, rest, htext, hdigit⟩ := exists_toList_toString n
  have hdash : c ≠ '-' := by
    rintro rfl
    exact absurd hdigit (by decide)
  rw [dashed?, htext]
  split <;> simp_all

/-- The digits of a number below the limit are read as the number. -/
theorem digitsToNumber?_toDigits {n : Nat} (h : n < numberLimit) :
    digitsToNumber? (Nat.toDigits 10 n) = some n := by
  have hvalue : (Nat.toDigits 10 n).foldl (fun n c => n * 10 + (c.toNat - 48)) 0 = n := by
    -- the library's reader multiplies from the other side
    have hdigits := Nat.ofDigitChars_ten_toDigits (n := n)
    rw [Nat.ofDigitChars_eq_foldl] at hdigits
    simp only [Nat.mul_comm 10] at hdigits
    exact hdigits
  have hall : (Nat.toDigits 10 n).all Char.isDigit = true := by
    rw [List.all_eq_true]
    exact fun c => Nat.isDigit_of_mem_toDigits (by decide) (by decide)
  rw [digitsToNumber?]
  simp only [hvalue]
  rw [if_pos ⟨Nat.toDigits_ne_nil, hall, h⟩]

/-- A number in decimal digits is read back. -/
theorem readNumber?_toString {n : Nat} (h : n < numberLimit) :
    readNumber? (toString n) = some n := by
  obtain ⟨c, rest, htext, hdigit⟩ := exists_toList_toString n
  have hplus : c ≠ '+' := by
    rintro rfl
    exact absurd hdigit (by decide)
  have hdigits := digitsToNumber?_toDigits h
  rw [← Nat.toList_repr, ← Nat.toString_eq_repr, htext] at hdigits
  rw [readNumber?, htext]
  split
  · simp_all
  · exact hdigits

/-- Numbers that are written one by one are read back. -/
theorem mapM_readNumber?_toString {values : List Nat} (h : ∀ n ∈ values, n < numberLimit) :
    (values.map toString).mapM readNumber? = some values := by
  induction values with
  | nil => rfl
  | cons n values ih =>
      obtain ⟨hn, hvalues⟩ := List.forall_mem_cons.mp h
      rw [List.map_cons, List.mapM_cons, readNumber?_toString hn, ih hvalues]
      rfl

/-! ## Commands behind options -/

/-- Options in front of a command count for it. -/
theorem parse_commandArgs (environment s : Settings) (format : Option String) (verbose : Bool)
    {name : String} {l : Level} (hhelp : name ≠ "help") (hchild : Level.child? .program name = some l)
    {args : List String} {command : Command} {g : Given}
    (hscan : scan (commandOf environment) (.start l) args = .ok (command, g))
    (hformat : g.format = none) (htemplate : g.template = none) (halphabet : g.alphabet = none)
    (hverbose : g.verbose = false) :
    parse environment (optionArgs s format verbose ++ name :: args) =
      .ok ⟨command, Format.ofName (format.getD "table"), s.orElse environment, verbose⟩ := by
  rw [parse_eq_ok_iff_scan]
  refine ⟨g.within (.ofOptions s format verbose), ?_, ?_, ?_, ?_⟩
  · rw [scan_optionArgs, scan_command _ hhelp hchild, hscan]
    rfl
  · simp [Given.within, Given.ofOptions, hformat]
  · simp [Given.within, Given.ofOptions, htemplate, halphabet]
  · simp [Given.within, Given.ofOptions, hverbose]

/-! ## Minting -/

/-- Where no option waits for its value, a dashed argument is an option and any other
    one an operand. -/
theorem word_mint {pending : Pending} (hpending : ∀ key, pending ≠ .key key none) (g : Given)
    (arg : String) :
    Scan.word ⟨.mint, g, pending, false⟩ arg = (dashed? arg).getD .operand := by
  cases pending with
  | nothing | operands _ => rfl
  | key key value =>
      cases value with
      | none => exact absurd rfl (hpending key)
      | some text => rfl

/-- An option whose value is the number behind it. -/
theorem scan_numberOption {α : Type} (finish : Level → Given → Except Usage α) {g g' : Given}
    (key : Key) (hkey : Level.long? .mint key.name = some (.key key)) {pending : Pending}
    (hsettle : Scan.settle ⟨.mint, g, pending, false⟩ = .ok ⟨.mint, g', .nothing, false⟩)
    (n : Nat) (args : List String) :
    scan finish ⟨.mint, g, pending, false⟩ (("--" ++ key.name) :: toString n :: args) =
      scan finish ⟨.mint, g', .key key (some (toString n)), false⟩ args := by
  have hpending : ∀ other, pending ≠ .key other none := by
    rintro other rfl
    exact nomatch hsettle
  have hdashed : dashed? ("--" ++ key.name) = some (.long key.name none) := by
    cases key <;> rfl
  have hstep : Scan.long ⟨.mint, g, pending, false⟩ key.name none =
      .ok ⟨.mint, g', .key key none, false⟩ := by
    simp only [Scan.long, hkey, Scan.await, hsettle]
    rfl
  have hvalue : Scan.word ⟨.mint, g', .key key none, false⟩ (toString n) = .value key := by
    show (dashed? (toString n)).getD (.value key) = .value key
    rw [dashed?_toString]
    rfl
  rw [scan, word_mint hpending, hdashed]
  simp only [Option.getD_some, hstep]
  rw [scan, hvalue]

/-- A range of values on a command line. -/
def rangeArgs (start count : Nat) : List String :=
  ["--start", toString start, "--count", toString count]

/-- The options of a range, whose first value need not be given. -/
def rangeOptions (start? : Option Nat) (count : Nat) : List String :=
  (start?.map fun start => ["--start", toString start]).getD [] ++ ["--count", toString count]

/-- The number of values ends a range. -/
theorem scan_count (environment : Settings) {g : Given} {pending : Pending} {start? : Option Nat}
    (hsettle : Scan.settle ⟨.mint, g, pending, false⟩ =
      .ok ⟨.mint, { Given.nothing with start := start? }, .nothing, false⟩)
    {count : Nat} (hcount : count < numberLimit) :
    scan (commandOf environment) ⟨.mint, g, pending, false⟩ ["--count", toString count] =
      .ok (.ask (.mint (.range (start?.getD 0) count)),
        { Given.nothing with start := start?, count := some count }) := by
  have hlast : Scan.settle ⟨.mint, { Given.nothing with start := start? },
        .key .count (some (toString count)), false⟩ =
      .ok ⟨.mint, { Given.nothing with start := start?, count := some count },
        .nothing, false⟩ := by
    simp only [Scan.settle, Given.record, setNumber, Given.nothing, readNumber?_toString hcount]
    rfl
  refine (scan_numberOption _ .count rfl hsettle count []).trans ?_
  rw [scan, hlast]
  cases start? <;> rfl

/-- A range can be given by its length, and by its first value where that is not zero. -/
theorem parse_rangeOptions (environment s : Settings) (format : Option String) (verbose : Bool)
    {start? : Option Nat} {count : Nat}
    (hstart : ∀ start, start? = some start → start < numberLimit)
    (hcount : count < numberLimit) :
    parse environment (optionArgs s format verbose ++ "mint" :: rangeOptions start? count) =
      .ok ⟨.ask (.mint (.range (start?.getD 0) count)), Format.ofName (format.getD "table"),
        s.orElse environment, verbose⟩ := by
  have hnothing : Scan.settle ⟨.mint, .nothing, .nothing, false⟩ =
      .ok ⟨.mint, .nothing, .nothing, false⟩ := rfl
  have hscan : scan (commandOf environment) (.start .mint) (rangeOptions start? count) =
      .ok (.ask (.mint (.range (start?.getD 0) count)),
        { Given.nothing with start := start?, count := some count }) := by
    cases start? with
    | none => exact scan_count environment hnothing hcount
    | some start =>
        have hfirst : Scan.settle ⟨.mint, .nothing, .key .start (some (toString start)), false⟩ =
            .ok ⟨.mint, { Given.nothing with start := some start }, .nothing, false⟩ := by
          simp only [Scan.settle, Given.record, setNumber, Given.nothing,
            readNumber?_toString (hstart start rfl)]
          rfl
        refine (scan_numberOption _ .start rfl hnothing start _).trans ?_
        exact scan_count environment hfirst hcount
  exact parse_commandArgs environment s format verbose (by decide) rfl hscan rfl rfl rfl rfl

/-- A range can be given by its first value and its length. -/
theorem parse_rangeArgs (environment s : Settings) (format : Option String) (verbose : Bool)
    {start count : Nat}
    (hstart : start < numberLimit) (hcount : count < numberLimit) :
    parse environment (optionArgs s format verbose ++ "mint" :: rangeArgs start count) =
      .ok ⟨.ask (.mint (.range start count)), Format.ofName (format.getD "table"),
        s.orElse environment, verbose⟩ := by
  have hsome : ∀ first, some start = some first → first < numberLimit := by
    rintro _ ⟨⟩
    exact hstart
  exact parse_rangeOptions environment s format verbose hsome hcount

/-- A number is an operand of `mint`. -/
theorem scan_number {α : Type} (finish : Level → Given → Except Usage α)
    {pending pending' : Pending} {n : Nat}
    (hadd : Scan.addOperand ⟨.mint, .nothing, pending, false⟩ (toString n) =
      .ok ⟨.mint, .nothing, pending', false⟩) (args : List String) :
    scan finish ⟨.mint, .nothing, pending, false⟩ (toString n :: args) =
      scan finish ⟨.mint, .nothing, pending', false⟩ args := by
  have hpending : ∀ key, pending ≠ .key key none := by
    rintro key rfl
    exact nomatch hadd
  have hoperand : Scan.operand ⟨.mint, .nothing, pending, false⟩ (toString n) =
      .ok ⟨.mint, .nothing, pending', false⟩ := hadd
  rw [scan, word_mint hpending, dashed?_toString]
  simp only [Option.getD_none, hoperand]

/-- Numbers behind an operand are further operands. -/
theorem scan_numbers {α : Type} (finish : Level → Given → Except Usage α) (values : List Nat)
    (texts : List String) :
    scan finish ⟨.mint, .nothing, .operands texts, false⟩ (values.map toString) =
      scan finish ⟨.mint, .nothing, .operands ((values.map toString).reverse ++ texts), false⟩
        [] := by
  induction values generalizing texts with
  | nil => rfl
  | cons n values ih =>
      have hadd : Scan.addOperand ⟨.mint, .nothing, .operands texts, false⟩ (toString n) =
          .ok ⟨.mint, .nothing, .operands (toString n :: texts), false⟩ := rfl
      refine (scan_number finish hadd _).trans ?_
      rw [ih, List.map_cons, List.reverse_cons, List.append_assoc, List.singleton_append]

/-- Values can be given one by one. -/
theorem parse_valuesArgs (environment s : Settings) (format : Option String) (verbose : Bool)
    {values : List Nat}
    (h : ∀ n ∈ values, n < numberLimit) :
    parse environment (optionArgs s format verbose ++ "mint" :: values.map toString) =
      .ok ⟨.ask (.mint (.values values)), Format.ofName (format.getD "table"),
        s.orElse environment, verbose⟩ := by
  have hscan : scan (commandOf environment) (.start .mint) (values.map toString) =
      .ok (.ask (.mint (.values values)), { Given.nothing with numbers := values }) := by
    cases values with
    | nil => rfl
    | cons n values =>
        have hadd : Scan.addOperand ⟨.mint, .nothing, .nothing, false⟩ (toString n) =
            .ok ⟨.mint, .nothing, .operands [toString n], false⟩ := rfl
        refine (scan_number _ hadd _).trans ?_
        rw [scan_numbers]
        have hsettle : Scan.settle ⟨.mint, .nothing,
              .operands ((values.map toString).reverse ++ [toString n]), false⟩ =
            .ok ⟨.mint, { Given.nothing with numbers := n :: values }, .nothing, false⟩ := by
          rw [← List.reverse_cons, ← List.map_cons, Scan.settle]
          simp only [List.reverse_reverse, Given.recordOperands, Level.operands,
            mapM_readNumber?_toString h]
          rfl
        rw [scan, hsettle]
        rfl
  exact parse_commandArgs environment s format verbose (by decide) rfl hscan rfl rfl rfl rfl

end CommandLine

end OpaqueId
