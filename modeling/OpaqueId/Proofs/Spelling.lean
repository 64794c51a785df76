import OpaqueId.Proofs.Scanning

/-! # Spelling: a command line for every query

    Every recording keeps the numbers of a level below the limit
    (`kept_bounded`), so they are when the level is judged.

    So the queries that command lines ask are those whose numbers are below the
    limit and whose operands are not missing (`Query.Sayable`), and each of them
    can be asked in every format and with any settings as options: operands that
    may begin with a dash stand behind two dashes (`parse_askArgs`).

    Main statement: `sayable_iff_parse`. -/

namespace OpaqueId

namespace CommandLine

/-! ## Numbers below the limit -/

/-- The numbers of a level are below the limit. -/
structure Given.Bounded (g : Given) : Prop where
  start : ∀ n, g.start = some n → n < numberLimit
  count : ∀ n, g.count = some n → n < numberLimit
  numbers : ∀ n ∈ g.numbers, n < numberLimit

/-- What is read as a number stays below the limit. -/
theorem digitsToNumber?_lt {digits : List Char} {n : Nat} (h : digitsToNumber? digits = some n) :
    n < numberLimit := by
  rw [digitsToNumber?] at h
  split at h
  · rename_i hcond
    cases h
    exact hcond.2.2
  · cases h

theorem readNumber?_lt {text : String} {n : Nat} (h : readNumber? text = some n) :
    n < numberLimit := by
  rw [readNumber?] at h
  split at h
  · exact digitsToNumber?_lt h
  · exact digitsToNumber?_lt h

theorem mapM_readNumber?_lt {texts : List String} {numbers : List Nat}
    (h : texts.mapM readNumber? = some numbers) : ∀ n ∈ numbers, n < numberLimit := by
  induction texts generalizing numbers with
  | nil =>
      cases h
      exact List.forall_mem_nil _
  | cons text texts ih =>
      rw [List.mapM_cons] at h
      obtain ⟨n, hn, h⟩ := Option.bind_eq_some_iff.mp h
      obtain ⟨rest, hrest, h⟩ := Option.bind_eq_some_iff.mp h
      cases h
      exact List.forall_mem_cons.mpr ⟨readNumber?_lt hn, ih hrest⟩

theorem setNumber_lt {place place' : Option Nat} {text : String}
    (h : setNumber place text = .ok place') : ∀ n, place' = some n → n < numberLimit := by
  unfold setNumber at h
  split at h
  · cases h
  · split at h
    · rename_i hread
      cases h
      rintro _ ⟨⟩
      exact readNumber?_lt hread
    · cases h

/-- Nothing that is recorded brings in a larger number. -/
theorem kept_bounded : Kept Given.Bounded where
  nothing := ⟨fun _ h => (nomatch h), fun _ h => (nomatch h), fun _ h => (nomatch h)⟩
  verbose h := ⟨h.start, h.count, h.numbers⟩
  record := by
    intro g g' key text hg h
    cases key with
    | format | template | alphabet =>
        obtain ⟨v, -, rfl⟩ := Except.map_eq_ok_iff.mp h
        exact ⟨hg.start, hg.count, hg.numbers⟩
    -- only these two keys record a number
    | start =>
        obtain ⟨v, hv, rfl⟩ := Except.map_eq_ok_iff.mp h
        exact ⟨setNumber_lt hv, hg.count, hg.numbers⟩
    | count =>
        obtain ⟨v, hv, rfl⟩ := Except.map_eq_ok_iff.mp h
        exact ⟨hg.start, setNumber_lt hv, hg.numbers⟩
  recordOperands := by
    intro g g' kind texts hg h
    unfold Given.recordOperands at h
    split at h
    · split at h
      · rename_i numbers hnumbers
        cases h
        refine ⟨hg.start, hg.count, ?_⟩
        exact List.forall_mem_append.mpr ⟨hg.numbers, mapM_readNumber?_lt hnumbers⟩
      · cases h
    · cases h
      exact ⟨hg.start, hg.count, hg.numbers⟩

/-! ## Queries as they are spelled -/

/-- What a command line can ask: no number is too large and no operand missing. -/
def Query.Sayable : Query → Prop
  | .mint (.values values) => ∀ n ∈ values, n < numberLimit
  | .mint (.range start count) => start < numberLimit ∧ count < numberLimit
  | .validate ids | .decode ids => ids ≠ []
  | .inspect | .checkSymbol _ | .savedSettings | .savedPlace => True

/-- A query as command and operands. -/
def Query.words : Query → List String
  | .inspect => ["inspect"]
  | .mint (.values values) => "mint" :: values.map toString
  | .mint (.range start count) => "mint" :: rangeArgs start count
  | .validate ids => "validate" :: "--" :: ids
  | .decode ids => "decode" :: "--" :: ids
  | .checkSymbol text => ["checkdigit", "--", text]
  | .savedSettings => ["config", "show"]
  | .savedPlace => ["config", "path"]

/-- The name of a format, which the plain one does not need. -/
def Format.name? : Format → Option String
  | .plain => none
  | .json => some "json"

/-- Every format has a name, or is the one without. -/
theorem Format.ofName_name? (format : Format) :
    Format.ofName (format.name?.getD "table") = format := by
  cases format <;> rfl

/-- A command line that asks a query, with settings as options. -/
def askArgs (s : Settings) (format : Format) (verbose : Bool) (q : Query) : List String :=
  optionArgs s format.name? verbose ++ q.words

/-- A sequence that was given can be said again. -/
theorem sayable_of_sequenceOf {g : Given} (hg : g.Bounded) {sequence : Sequence}
    (h : sequenceOf g = .ok sequence) : (Query.mint sequence).Sayable := by
  unfold sequenceOf at h
  split at h
  · cases h
    exact hg.numbers
  · split at h
    · cases h
    · split at h
      · cases h
      · rename_i count hcount
        cases h
        refine ⟨?_, hg.count _ hcount⟩
        cases hstart : g.start with
        | none => exact Nat.lt_of_le_of_lt (Nat.zero_le _) (hg.count _ hcount)
        | some start => exact hg.start _ hstart

theorem ne_nil_of_needTexts {texts ids : List String} (h : needTexts texts = .ok ids) : ids ≠ [] := by
  rw [needTexts] at h
  split at h
  · cases h
  · cases h
    assumption

/-- The innermost level asks only what can be said. -/
theorem sayable_of_commandOf {environment : Settings} {l : Level} {g : Given} (hg : g.Bounded)
    {q : Query} (h : commandOf environment l g = .ok (.ask q)) : q.Sayable := by
  cases l with
  | program | config | configSet | configClear => cases h
  | inspect | configShow | configPath =>
      cases h
      trivial
  | mint =>
      obtain ⟨sequence, hsequence, hq⟩ := Except.map_eq_ok_iff.mp h
      cases hq
      exact sayable_of_sequenceOf hg hsequence
  | validate | decode =>
      obtain ⟨ids, hids, hq⟩ := Except.map_eq_ok_iff.mp h
      cases hq
      exact ne_nil_of_needTexts hids
  | checkdigit =>
      rw [commandOf] at h
      split at h
      · cases h
      · cases h
        trivial

/-- A query that a command line asks can be said. -/
theorem sayable_of_parse {environment settings : Settings} {args : List String} {format : Format}
    {verbose : Bool} {q : Query}
    (h : parse environment args = .ok ⟨.ask q, format, settings, verbose⟩) : q.Sayable := by
  obtain ⟨g, hscan, -⟩ := (parse_eq_ok_iff_scan _ _ _).mp h
  obtain ⟨l, inner, hinner, hjudge, -⟩ := kept_bounded.judged kept_bounded.nothing hscan
  exact sayable_of_commandOf hinner hjudge

/-! ## Operands behind two dashes -/

/-- Behind two dashes all arguments are operands. -/
theorem scan_plain {α : Type} (finish : Level → Given → Except Usage α) {l : Level}
    (hl : l.operands = .texts) (ids texts : List String) :
    scan finish ⟨l, .nothing, .operands texts, true⟩ ids =
      scan finish ⟨l, .nothing, .operands (ids.reverse ++ texts), true⟩ [] := by
  induction ids generalizing texts with
  | nil => rfl
  | cons id ids ih =>
      have hoperand : Scan.operand ⟨l, .nothing, .operands texts, true⟩ id =
          .ok ⟨l, .nothing, .operands (id :: texts), true⟩ := by
        unfold Scan.operand
        rw [hl]
        rfl
      have hword : Scan.word ⟨l, .nothing, .operands texts, true⟩ id = .operand := rfl
      have hstep : scan finish ⟨l, .nothing, .operands texts, true⟩ (id :: ids) =
          scan finish ⟨l, .nothing, .operands (id :: texts), true⟩ ids := by
        rw [scan, hword]
        simp only [hoperand]
      rw [hstep, ih, List.reverse_cons, List.append_assoc, List.singleton_append]

/-- A level that takes texts takes any of them behind two dashes. -/
theorem scan_texts (environment : Settings) {l : Level} (hl : l = .validate ∨ l = .decode)
    {ids : List String} (hids : ids ≠ []) :
    scan (commandOf environment) (.start l) ("--" :: ids) =
      (commandOf environment l { Given.nothing with texts := ids }).map
        (·, { Given.nothing with texts := ids }) := by
  obtain ⟨id, ids, rfl⟩ := List.exists_cons_of_ne_nil hids
  have htexts : l.operands = .texts := by
    rcases hl with rfl | rfl <;> rfl
  have hdivider : scan (commandOf environment) (.start l) ("--" :: id :: ids) =
      scan (commandOf environment) ⟨l, .nothing, .operands [id], true⟩ ids := by
    rcases hl with rfl | rfl <;> rfl
  have hsettle : Scan.settle ⟨l, .nothing, .operands (ids.reverse ++ [id]), true⟩ =
      .ok ⟨l, { Given.nothing with texts := id :: ids }, .nothing, true⟩ := by
    rw [← List.reverse_cons, Scan.settle]
    simp only [List.reverse_reverse, htexts]
    rfl
  rw [hdivider, scan_plain _ htexts, scan, hsettle]

/-- Every query that can be said can be asked in every format, with any settings as options. -/
theorem parse_askArgs (environment s : Settings) (format : Format) (verbose : Bool) {q : Query}
    (h : q.Sayable) :
    parse environment (askArgs s format verbose q) =
      .ok ⟨.ask q, format, s.orElse environment, verbose⟩ := by
  have hformat := Format.ofName_name? format
  -- options first, then a command with operands or options of its own
  have hcommand : ∀ {name : String} {l : Level} {args : List String} {g : Given},
      name ≠ "help" → Level.child? .program name = some l →
      scan (commandOf environment) (.start l) args = .ok (.ask q, g) →
      g.format = none ∧ g.template = none ∧ g.alphabet = none ∧ g.verbose = false →
      parse environment (optionArgs s format.name? verbose ++ name :: args) =
        .ok ⟨.ask q, format, s.orElse environment, verbose⟩ := by
    intro name l args g hhelp hchild hscan ⟨hnone, htemplate, halphabet, hverbose⟩
    have hparse := parse_commandArgs environment s format.name? verbose hhelp hchild hscan hnone
      htemplate halphabet hverbose
    rw [hformat] at hparse
    exact hparse
  cases q with
  | inspect => exact hcommand (by decide) rfl rfl ⟨rfl, rfl, rfl, rfl⟩
  | mint sequence =>
      cases sequence with
      | values values =>
          have hparse := parse_valuesArgs environment s format.name? verbose h
          rw [hformat] at hparse
          exact hparse
      | range start count =>
          have hparse := parse_rangeArgs environment s format.name? verbose h.1 h.2
          rw [hformat] at hparse
          exact hparse
  | validate ids =>
      have hscan := scan_texts environment (.inl rfl) h
      rw [commandOf, needTexts, if_neg h] at hscan
      exact hcommand (by decide) rfl hscan ⟨rfl, rfl, rfl, rfl⟩
  | decode ids =>
      have hscan := scan_texts environment (.inr rfl) h
      rw [commandOf, needTexts, if_neg h] at hscan
      exact hcommand (by decide) rfl hscan ⟨rfl, rfl, rfl, rfl⟩
  | checkSymbol text => exact hcommand (by decide) rfl rfl ⟨rfl, rfl, rfl, rfl⟩
  | savedSettings => exact hcommand (by decide) rfl rfl ⟨rfl, rfl, rfl, rfl⟩
  | savedPlace => exact hcommand (by decide) rfl rfl ⟨rfl, rfl, rfl, rfl⟩

example : askArgs ⟨some "bc.sdk", none⟩ .json true (.decode ["-x"]) =
    ["--template=bc.sdk", "--format=json", "--verbose", "decode", "--", "-x"] := by rfl

/-- The queries that command lines ask are those that can be said. -/
theorem sayable_iff_parse (q : Query) (format : Format) (s : Settings) (verbose : Bool) :
    q.Sayable ↔ ∃ args, parse .empty args = .ok ⟨.ask q, format, s, verbose⟩ := by
  constructor
  · intro h
    have hparse := parse_askArgs .empty s format verbose h
    rw [Settings.orElse_empty] at hparse
    exact ⟨_, hparse⟩
  · rintro ⟨args, hparse⟩
    exact sayable_of_parse hparse

end CommandLine

end OpaqueId
