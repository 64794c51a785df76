import OpaqueId.Session.Step
import OpaqueId.Proofs.Computations
import OpaqueId.Proofs.Reading

/-! # Effects: what one step can do

    Settings can be used if their alphabet is accepted, and over it their
    template and its pattern (`Settings.Usable`), which is what is checked
    before they are saved.  Otherwise the first thing that is wrong with them is
    reported (`Unsaved`).

    `Effect` lists all that a step can end in, together with what has to hold
    for it; what is true of every step follows by cases from `stepOn_effect`. -/

namespace OpaqueId

variable [PatternCompiler]

namespace Settings

/-! ## Usable settings -/

/-- The alphabet, if there is one, is accepted, and so is the template, if
    there is one, over that alphabet or else the default one. -/
structure Usable (s : Settings) : Prop where
  alphabet : ∀ symbols, s.alphabet = some symbols → ∃ a, Alphabet.ofText symbols = .ok a
  template : ∀ text a, s.template = some text → s.resolveAlphabet = .ok a →
    ∃ scheme, Scheme.ofText text a = .ok scheme

theorem usable_empty : empty.Usable :=
  ⟨fun _ h => (nomatch h), fun _ _ h => (nomatch h)⟩

omit [PatternCompiler] in
/-- There is an alphabet unless symbols are set that are refused. -/
theorem exists_resolveAlphabet_iff (s : Settings) :
    (∃ a, s.resolveAlphabet = .ok a) ↔
      ∀ symbols, s.alphabet = some symbols → ∃ a, Alphabet.ofText symbols = .ok a := by
  obtain ⟨template, alphabet⟩ := s
  cases alphabet with
  | none => simp [resolveAlphabet]
  | some symbols =>
      constructor
      · rintro ⟨a, ha⟩ _ ⟨⟩
        exact ⟨a, Except.mapError_eq_ok_iff.mp ha⟩
      · intro h
        obtain ⟨a, ha⟩ := h symbols rfl
        exact ⟨a, Except.mapError_eq_ok_iff.mpr ha⟩

omit [PatternCompiler] in
/-- The alphabet is missing only where symbols are set that are refused. -/
theorem exists_of_resolveAlphabet_error {s : Settings} {refusal : Refusal}
    (h : s.resolveAlphabet = .error refusal) :
    ∃ symbols fault, s.alphabet = some symbols ∧ Alphabet.ofText symbols = .error fault ∧
      refusal = .alphabet fault := by
  rw [resolveAlphabet] at h
  cases halphabet : s.alphabet with
  | none =>
      rw [halphabet] at h
      cases h
  | some symbols =>
      rw [halphabet] at h
      obtain ⟨fault, hsymbols, rfl⟩ := Except.mapError_eq_error_iff.mp h
      exact ⟨symbols, fault, rfl, hsymbols, rfl⟩

/-- The scheme of settings is read from their template over their alphabet. -/
theorem resolveScheme_eq_ok_iff (s : Settings) (scheme : Scheme) :
    s.resolveScheme = .ok scheme ↔
      ∃ text a, s.template = some text ∧ s.resolveAlphabet = .ok a ∧
        Scheme.ofText text a = .ok scheme := by
  rw [resolveScheme]
  cases s.template with
  | none =>
      constructor
      · rintro ⟨⟩
      · rintro ⟨_, _, ⟨⟩, -⟩
  | some text =>
      simp only [Except.mapError_eq_ok_iff]
      constructor
      · intro h
        obtain ⟨a, ha, hscheme⟩ := Except.bind_eq_ok_iff.mp h
        exact ⟨text, a, rfl, ha, hscheme⟩
      · rintro ⟨_, a, ⟨⟩, ha, hscheme⟩
        exact Except.bind_eq_ok_iff.mpr ⟨a, ha, hscheme⟩

/-- Settings that can be used give the scheme of their template. -/
theorem Usable.exists_scheme {s : Settings} (h : s.Usable) {text : String}
    (htemplate : s.template = some text) : ∃ scheme, s.resolveScheme = .ok scheme := by
  obtain ⟨a, ha⟩ := (exists_resolveAlphabet_iff s).mpr h.alphabet
  obtain ⟨scheme, hscheme⟩ := h.template text a htemplate ha
  exact ⟨scheme, (resolveScheme_eq_ok_iff s scheme).mpr ⟨text, a, htemplate, ha, hscheme⟩⟩

omit [PatternCompiler] in
theorem empty_orElse (s : Settings) : empty.orElse s = s := by
  cases s
  rfl

end Settings

namespace Session

open CommandLine (Format Change Query Usage)

/-- The check that is made before settings are saved is right. -/
theorem checkSettings_eq_ok_iff (s : Settings) : checkSettings s = .ok () ↔ s.Usable := by
  cases ha : s.resolveAlphabet with
  | error refusal =>
      have hnone : ¬ s.Usable := by
        intro h
        obtain ⟨a, ha'⟩ := (Settings.exists_resolveAlphabet_iff s).mpr h.alphabet
        cases ha.symm.trans ha'
      rw [checkSettings, ha]
      exact iff_of_false (fun h => (nomatch h)) hnone
  | ok a =>
      have halphabet := (Settings.exists_resolveAlphabet_iff s).mp ⟨a, ha⟩
      rw [checkSettings, ha]
      constructor
      · intro h
        refine ⟨halphabet, ?_⟩
        intro text a' htemplate ha'
        cases ha.symm.trans ha'
        rw [htemplate] at h
        obtain ⟨scheme, hscheme, -⟩ := Except.map_eq_ok_iff.mp h
        exact ⟨scheme, hscheme⟩
      · intro h
        cases htemplate : s.template with
        | none => rfl
        | some text =>
            obtain ⟨scheme, hscheme⟩ := h.template text a htemplate ha
            exact Except.map_eq_ok_iff.mpr ⟨scheme, hscheme, rfl⟩

/-! ## Steps -/

/-- The settings that a change is to leave, out of those that are given and those
    that were saved. -/
def wanted : Change → (given saved : Settings) → Settings
  | .save, given, saved => given.orElse saved
  | .clear, _, _ => .empty

/-- Why settings are not saved: nothing was given, or else the alphabet is refused
    that there would be, or else the template, or else the pattern of the two. -/
inductive Unsaved (given merged : Settings) : Failure → Prop where
  | nothing : given = .empty → Unsaved given merged .nothingToSave
  | alphabet {symbols : String} {fault : Alphabet.Fault} : given ≠ .empty →
      merged.alphabet = some symbols → Alphabet.ofText symbols = .error fault →
      Unsaved given merged (.refused (.alphabet fault))
  | template {text : String} {fault : Template.Fault} : given ≠ .empty →
      (∃ a, merged.resolveAlphabet = .ok a) →
      merged.template = some text → Template.parse text = .error fault →
      Unsaved given merged (.refused (.template text fault))
  | pattern {text : String} {t : Template} {a : Alphabet} {complaint : String} :
      given ≠ .empty → merged.resolveAlphabet = .ok a → merged.template = some text →
      Template.parse text = .ok t → PatternCompiler.complaint? t a = some complaint →
      Unsaved given merged (.refused (.pattern complaint))

/-- What a step can do: it answers and leaves the file as it is, or it writes the
    settings that a change is to leave. -/
inductive Effect (p : Place) (d : Disk) (file : StoredFile) (environment : Settings)
    (args : List String) : StoredFile → Outcome → Prop where
  | refused {u : Usage} : CommandLine.parse environment args = .error u →
      Effect p d file environment args file (.usage u)
  | unread {q : Query} {format : Format} {given : Settings} {verbose : Bool}
      {fault : StoredFile.Fault} :
      CommandLine.parse environment args = .ok ⟨.ask q, format, given, verbose⟩ →
      d.load file = .error fault →
      Effect p d file environment args file (.report (.fail (.file fault)))
  | answered {q : Query} {format : Format} {given saved : Settings} {verbose : Bool} :
      CommandLine.parse environment args = .ok ⟨.ask q, format, given, verbose⟩ →
      d.load file = .ok saved →
      Effect p d file environment args file (.report (answer p format given saved q))
  | unsaved {format : Format} {given : Settings} {verbose : Bool} {failure : Failure} :
      CommandLine.parse environment args = .ok ⟨.change .save, format, given, verbose⟩ →
      Unsaved given (given.orElse (d.loadOrNone file)) failure →
      Effect p d file environment args file (.report (.fail failure))
  | unwritten {c : Change} {format : Format} {given : Settings} {verbose : Bool}
      {fault : StoredFile.Fault} :
      CommandLine.parse environment args = .ok ⟨.change c, format, given, verbose⟩ →
      d.save (wanted c given (d.loadOrNone file)) file = .error fault →
      Effect p d file environment args file (.report (.fail (.file fault)))
  | written {c : Change} {format : Format} {given : Settings} {verbose : Bool}
      {sentence : String} :
      CommandLine.parse environment args = .ok ⟨.change c, format, given, verbose⟩ →
      (c = .save → given ≠ .empty) →
      (wanted c given (d.loadOrNone file)).Usable →
      Effect p d file environment args (.text (wanted c given (d.loadOrNone file)).render)
        (.report (.success (confirm sentence format)))

/-- Settings that are refused have an alphabet, a template or a pattern that is refused. -/
theorem unsaved_of_checkSettings {given merged : Settings} {refusal : Refusal}
    (hgiven : given ≠ .empty) (h : checkSettings merged = .error refusal) :
    Unsaved given merged (.refused refusal) := by
  rw [checkSettings] at h
  cases ha : merged.resolveAlphabet with
  | error fault =>
      rw [ha] at h
      cases h
      obtain ⟨symbols, fault, halphabet, hsymbols, rfl⟩ :=
        Settings.exists_of_resolveAlphabet_error ha
      exact .alphabet hgiven halphabet hsymbols
  | ok a =>
      rw [ha] at h
      cases htemplate : merged.template with
      | none =>
          rw [htemplate] at h
          cases h
      | some text =>
          rw [htemplate] at h
          have hscheme : Scheme.ofText text a = .error refusal := Except.map_eq_error_iff.mp h
          -- the alphabet is accepted, so the template or its pattern is refused
          rcases Scheme.exists_of_ofText_error hscheme with
            ⟨fault, hparse, rfl⟩ | ⟨t, complaint, hparse, hcomplaint, rfl⟩
          · exact .template hgiven ⟨a, ha⟩ htemplate hparse
          · exact .pattern hgiven ha htemplate hparse hcomplaint

variable (p : Place) (d : Disk) (file : StoredFile) (environment : Settings)
  (args : List String)

omit [PatternCompiler] in
/-- Writing ends with the file that was there and a failure, or with the settings. -/
theorem write_cases (settings : Settings) (sentence : String) (format : Format) :
    (∃ fault, d.save settings file = .error fault ∧
      write d file settings sentence format = (file, .fail (.file fault))) ∨
    write d file settings sentence format =
      (.text settings.render, .success (confirm sentence format)) := by
  rw [write]
  cases hsave : d.save settings file with
  | error fault => exact .inl ⟨fault, rfl, rfl⟩
  | ok after =>
      rw [Disk.eq_of_save hsave]
      exact .inr rfl

/-- Saving stops in front of the file or goes on to write checked settings. -/
theorem change_save_cases (format : Format) (given : Settings) :
    (∃ failure, Unsaved given (given.orElse (d.loadOrNone file)) failure ∧
      change d file format given .save = (file, .fail failure)) ∨
    given ≠ .empty ∧ (given.orElse (d.loadOrNone file)).Usable ∧
      change d file format given .save =
        write d file (given.orElse (d.loadOrNone file)) "Saved defaults" format := by
  rw [change]
  by_cases hgiven : given = .empty
  · rw [if_pos hgiven]
    exact .inl ⟨_, .nothing hgiven, rfl⟩
  · rw [if_neg hgiven]
    cases hcheck : checkSettings (given.orElse (d.loadOrNone file)) with
    | error refusal => exact .inl ⟨_, unsaved_of_checkSettings hgiven hcheck, rfl⟩
    | ok => exact .inr ⟨hgiven, (checkSettings_eq_ok_iff _).mp hcheck, rfl⟩

/-- Every step has one of the effects. -/
theorem stepOn_effect :
    Effect p d file environment args (stepOn p d file environment args).1
      (stepOn p d file environment args).2 := by
  rw [stepOn]
  cases hparse : CommandLine.parse environment args with
  | error u => exact .refused hparse
  | ok i =>
      obtain ⟨command, format, given, verbose⟩ := i
      cases command with
      | ask q =>
          simp only [carryOut]
          -- a query needs a file that loads
          cases hload : d.load file with
          | error fault => exact .unread hparse hload
          | ok saved => exact .answered hparse hload
      | change c =>
          simp only [carryOut]
          -- a change goes as far as the disk lets it
          cases c with
          | clear =>
              rw [change]
              rcases write_cases d file .empty "Cleared saved defaults" format with
                ⟨fault, hsave, hwrite⟩ | hwrite
              · rw [hwrite]
                exact .unwritten hparse hsave
              · rw [hwrite]
                exact .written hparse (fun h => (nomatch h)) Settings.usable_empty
          | save =>
              rcases change_save_cases d file format given with
                ⟨failure, hunsaved, hchange⟩ | ⟨hgiven, husable, hchange⟩
              · rw [hchange]
                exact .unsaved hparse hunsaved
              · rw [hchange]
                rcases write_cases d file (given.orElse (d.loadOrNone file)) "Saved defaults"
                  format with ⟨fault, hsave, hwrite⟩ | hwrite
                · rw [hwrite]
                  exact .unwritten hparse hsave
                · rw [hwrite]
                  exact .written hparse (fun _ => hgiven) husable

/-- A query is answered out of the settings that are given and those of the file. -/
theorem stepOn_ask {q : Query} {format : Format} {given saved : Settings} {verbose : Bool}
    (hparse : CommandLine.parse environment args = .ok ⟨.ask q, format, given, verbose⟩)
    (hload : d.load file = .ok saved) :
    stepOn p d file environment args = (file, .report (answer p format given saved q)) := by
  rw [stepOn, hparse]
  simp only [carryOut, hload]

/-- A command line asks a query, and the settings that are given and those of the file
    come to a scheme to answer it with. -/
def Asks (d : Disk) (file : StoredFile) (environment : Settings) (args : List String)
    (q : Query) (format : Format) (s : Scheme) : Prop :=
  ∃ given saved verbose,
    CommandLine.parse environment args = .ok ⟨.ask q, format, given, verbose⟩ ∧
    d.load file = .ok saved ∧ (given.orElse saved).resolveScheme = .ok s

end Session

end OpaqueId
