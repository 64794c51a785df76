import OpaqueId.Proofs.SavedSettings
import OpaqueId.Proofs.Scanning

/-! # Changes: what becomes of the settings file

    Of all command lines only those that save or clear settings write the
    file, and only if they succeed; then it holds the settings that the change
    was to leave (`only_changes_write`).  Queries and command lines that are
    refused can be left out of any history.

    What a change leaves does not depend on what the file held before, except
    for the settings that can be loaded from it: saving puts the given ones
    before those, field by field, and checks the outcome, clearing leaves none
    (`change_merges`).  A file that cannot be loaded counts as empty, so that
    it can be replaced. -/

namespace OpaqueId

open CommandLine (Format Change)

namespace Session

/-! ## Nothing else writes -/

/-- The command line asks for a change of the saved settings. -/
def AsksChange (environment : Settings) (args : List String) (c : Change) : Prop :=
  ∃ format given verbose,
    CommandLine.parse environment args = .ok ⟨.change c, format, given, verbose⟩

section

variable [PatternCompiler] (p : Place) (d : Disk) (file : StoredFile) (environment : Settings)
  (args : List String)

/-- A step that changes nothing or fails leaves the file as it is. -/
theorem stepOn_unchanged (h : (∀ c, ¬ AsksChange environment args c) ∨
      (stepOn p d file environment args).2.exitCode ≠ 0) :
    (stepOn p d file environment args).1 = file := by
  have heffect := stepOn_effect p d file environment args
  generalize stepOn p d file environment args = result at heffect h
  obtain ⟨after, outcome⟩ := result
  cases heffect with
  | refused | unread | answered | unsaved | unwritten => rfl
  | written hparse =>
      rcases h with hasks | hexit
      · exact absurd ⟨_, _, _, hparse⟩ (hasks _)
      · exact absurd rfl hexit

/-- A change that succeeds leaves the settings that it was to leave. -/
theorem stepOn_changed {c : Change} {format : Format} {given : Settings} {verbose : Bool}
    (hparse : CommandLine.parse environment args = .ok ⟨.change c, format, given, verbose⟩)
    (hexit : (stepOn p d file environment args).2.exitCode = 0) :
    (stepOn p d file environment args).1 =
      .text (wanted c given (d.loadOrNone file)).render := by
  have heffect := stepOn_effect p d file environment args
  generalize stepOn p d file environment args = result at heffect hexit
  obtain ⟨after, outcome⟩ := result
  cases heffect with
  | refused hother | unread hother | answered hother => cases hparse.symm.trans hother
  | unsaved | unwritten => exact nomatch hexit
  | written hother =>
      cases hparse.symm.trans hother
      rfl

end

/-- Whether the command line of a request asks for a change. -/
def Request.changes (r : Request) : Bool :=
  match CommandLine.parse r.environment r.args with
  | .ok ⟨.change _, _, _, _⟩ => true
  | _ => false

/-- A request that changes nothing asks for no change. -/
theorem Request.not_asksChange {r : Request} (h : r.changes = false) (c : Change) :
    ¬ AsksChange r.environment r.args c := by
  rintro ⟨format, given, verbose, hparse⟩
  rw [changes, hparse] at h
  cases h

section

variable [PatternCompiler]

/-- The changes among requests are all that matters to the file. -/
theorem run_filter_changes (p : Place) (file : StoredFile) (requests : List Request) :
    run p file (requests.filter Request.changes) = run p file requests := by
  induction requests generalizing file with
  | nil => rfl
  | cons r requests ih =>
      have hrun : run p file (r :: requests) =
          run p (stepOn p r.disk file r.environment r.args).1 requests := rfl
      cases h : r.changes with
      | true =>
          rw [List.filter_cons_of_pos h, hrun, ← ih]
          rfl
      | false =>
          rw [List.filter_cons_of_neg (by rw [h]; exact Bool.false_ne_true), hrun, ih,
            stepOn_unchanged p r.disk file r.environment r.args (.inl (Request.not_asksChange h))]

/-- **Only changes write.**  Whatever lies at the place of the file and whichever
    file operations go through, a step that does not ask for a change, or does not
    exit with 0, leaves the file exactly as it is; a change that exits with 0
    leaves the settings it was to leave.  So a run of requests leaves what its
    changes alone would have left. -/
theorem only_changes_write (p : Place) (file : StoredFile) :
    (∀ (d : Disk) (environment : Settings) (args : List String),
      ((∀ c, ¬ AsksChange environment args c) ∨
          (stepOn p d file environment args).2.exitCode ≠ 0 →
        (stepOn p d file environment args).1 = file) ∧
      (∀ c format given verbose,
        CommandLine.parse environment args = .ok ⟨.change c, format, given, verbose⟩ →
        (stepOn p d file environment args).2.exitCode = 0 →
        (stepOn p d file environment args).1 =
          .text (wanted c given (d.loadOrNone file)).render)) ∧
    ∀ requests, run p file requests = run p file (requests.filter Request.changes) := by
  refine ⟨fun d environment args => ⟨?_, ?_⟩, fun requests => ?_⟩
  · exact stepOn_unchanged p d file environment args
  · intro c format given verbose hparse hexit
    exact stepOn_changed p d file environment args hparse hexit
  · exact (run_filter_changes p file requests).symm

end

section

open scoped SizeLimit

/-- Over a file that cannot be read, a template without classes is not saved and one
    that can be used is; a directory of the file's name is not cleared away; and
    inspecting leaves no trace. -/
theorem corrupt_file_written :
    (step ⟨"/noid"⟩ (.text "not json") .empty ["config", "set", "-t", "bc.s"]).1 =
        .text "not json" ∧
      (step ⟨"/noid"⟩ .directory .empty ["config", "clear"]).1 = .directory ∧
      (step ⟨"/noid"⟩ (.text "not json") .empty ["config", "set", "-t", "bc.sd"]).1 =
        .text (Settings.render ⟨some "bc.sd", none⟩) ∧
      run ⟨"/noid"⟩ .directory [⟨["inspect", "-t", "bc.sd"], .empty, .sound⟩] = .directory := by
  obtain ⟨hsteps, -⟩ := only_changes_write ⟨"/noid"⟩ (.text "not json")
  obtain ⟨hsteps', hruns⟩ := only_changes_write ⟨"/noid"⟩ .directory
  have hsaved := (hsteps .sound .empty ["config", "set", "-t", "bc.sd"]).2 .save .plain
    ⟨some "bc.sd", none⟩ false rfl (by decide +kernel)
  have hnone : Disk.sound.loadOrNone (.text "not json") = .empty := by decide +kernel
  rw [hnone] at hsaved
  refine ⟨?_, ?_, hsaved, hruns _⟩
  · exact (hsteps .sound .empty ["config", "set", "-t", "bc.s"]).1 (.inr (by decide +kernel))
  · exact (hsteps' .sound .empty ["config", "clear"]).1 (.inr (by decide +kernel))

end

/-! ## Merging -/

end Session

namespace StoredFile

/-- Nothing is in the way of a settings file: there is none, or a file with any bytes. -/
def Writable (file : StoredFile) : Prop :=
  file = .absent ∨ ∃ bytes, file = .ofBytes bytes

end StoredFile

namespace Disk

/-- The settings of a file are those that can be loaded, or none if it cannot be loaded. -/
def Gives (d : Disk) (file : StoredFile) (saved : Settings) : Prop :=
  d.load file = .ok saved ∨ (∃ fault, d.load file = .error fault) ∧ saved = .empty

theorem Gives.loadOrNone_eq {d : Disk} {file : StoredFile} {saved : Settings}
    (h : d.Gives file saved) : d.loadOrNone file = saved := by
  rw [loadOrNone]
  rcases h with hload | ⟨⟨fault, hload⟩, rfl⟩
  · rw [hload]
  · rw [hload]

/-- Where writing goes through, a writable file takes any settings. -/
theorem save_of_writable {d : Disk} (hmakes : d.makesDirectory = true)
    (hwrites : d.writes = true) {file : StoredFile} (hfile : file.Writable)
    (settings : Settings) : d.save settings file = .ok (.text settings.render) := by
  have hsave : file.save settings = .ok (.text settings.render) := by
    rcases hfile with rfl | ⟨bytes, rfl⟩
    · rfl
    · rw [StoredFile.ofBytes]
      cases String.fromUTF8? ⟨bytes.toArray⟩ <;> rfl
  rw [save, if_pos hmakes, hsave]
  simp only [if_pos hwrites]

end Disk

namespace Session

section

variable [PatternCompiler]

/-- Settings can be used if both are accepted, and so is the pattern of the two. -/
theorem usable_iff (s : Settings) :
    s.Usable ↔
      (∀ symbols, s.alphabet = some symbols → ∃ a, Alphabet.ofText symbols = .ok a) ∧
      (∀ text, s.template = some text → ∃ t, Template.parse text = .ok t) ∧
      ∀ text t a, s.template = some text → Template.parse text = .ok t →
        s.resolveAlphabet = .ok a → t.Compiles a := by
  constructor
  · rintro ⟨halphabet, htemplate⟩
    refine ⟨halphabet, fun text htext => ?_, fun text t a htext ht ha => ?_⟩
    · obtain ⟨a, ha⟩ := (Settings.exists_resolveAlphabet_iff s).mpr halphabet
      obtain ⟨scheme, hscheme⟩ := htemplate text a htext ha
      exact ⟨_, ((Scheme.ofText_eq_ok_iff text a scheme).mp hscheme).1⟩
    · obtain ⟨scheme, hscheme⟩ := htemplate text a htext ha
      obtain ⟨hparse, -, hcompiles⟩ := (Scheme.ofText_eq_ok_iff text a scheme).mp hscheme
      cases ht.symm.trans hparse
      exact hcompiles
  · rintro ⟨halphabet, htemplate, hpattern⟩
    refine ⟨halphabet, fun text a htext ha => ?_⟩
    obtain ⟨t, ht⟩ := htemplate text htext
    exact ⟨⟨t, a, Template.mask_ne_nil_of_parse ht⟩,
      (Scheme.ofText_eq_ok_iff text a _).mpr ⟨ht, rfl, hpattern text t a htext ht ha⟩⟩

variable {given merged : Settings} {failure failure' : Failure}

/-- What is not saved was not given or cannot be used. -/
theorem Unsaved.not_usable (h : Unsaved given merged failure) :
    ¬ (given ≠ .empty ∧ merged.Usable) := by
  rintro ⟨hgiven, husable⟩
  cases h with
  | nothing hempty => exact hgiven hempty
  | alphabet _ halphabet hfault =>
      obtain ⟨a, ha⟩ := husable.alphabet _ halphabet
      cases hfault.symm.trans ha
  | template _ _ htemplate hfault =>
      obtain ⟨t, ht⟩ := ((usable_iff merged).mp husable).2.1 _ htemplate
      cases hfault.symm.trans ht
  | pattern _ ha htemplate ht hcomplaint =>
      have hcompiles := ((usable_iff merged).mp husable).2.2 _ _ _ htemplate ht ha
      cases hcomplaint.symm.trans hcompiles

/-- There is at most one reason why settings are not saved. -/
theorem Unsaved.unique (h : Unsaved given merged failure) (h' : Unsaved given merged failure') :
    failure = failure' := by
  -- each reason presupposes that none of the earlier ones applies
  cases h with
  | nothing hempty =>
      cases h' with
      | nothing => rfl
      | alphabet hgiven | template hgiven | pattern hgiven => exact absurd hempty hgiven
  | alphabet hgiven halphabet hfault =>
      cases h' with
      | nothing hempty => exact absurd hempty hgiven
      | alphabet _ halphabet' hfault' =>
          cases halphabet.symm.trans halphabet'
          cases hfault.symm.trans hfault'
          rfl
      | template _ haccepted =>
          obtain ⟨a, ha⟩ := (Settings.exists_resolveAlphabet_iff merged).mp haccepted _ halphabet
          cases hfault.symm.trans ha
      | pattern _ haccepted =>
          obtain ⟨a, ha⟩ := (Settings.exists_resolveAlphabet_iff merged).mp ⟨_, haccepted⟩ _
            halphabet
          cases hfault.symm.trans ha
  | template hgiven haccepted htemplate hfault =>
      cases h' with
      | nothing hempty => exact absurd hempty hgiven
      | alphabet _ halphabet' hfault' =>
          obtain ⟨a, ha⟩ := (Settings.exists_resolveAlphabet_iff merged).mp haccepted _ halphabet'
          cases hfault'.symm.trans ha
      | template _ _ htemplate' hfault' =>
          cases htemplate.symm.trans htemplate'
          cases hfault.symm.trans hfault'
          rfl
      | pattern _ _ htemplate' ht =>
          cases htemplate.symm.trans htemplate'
          cases hfault.symm.trans ht
  | pattern hgiven ha htemplate ht hcomplaint =>
      cases h' with
      | nothing hempty => exact absurd hempty hgiven
      | alphabet _ halphabet' hfault' =>
          obtain ⟨b, hb⟩ := (Settings.exists_resolveAlphabet_iff merged).mp ⟨_, ha⟩ _ halphabet'
          cases hfault'.symm.trans hb
      | template _ _ htemplate' hfault' =>
          cases htemplate.symm.trans htemplate'
          cases ht.symm.trans hfault'
      | pattern _ ha' htemplate' ht' hcomplaint' =>
          cases ha.symm.trans ha'
          cases htemplate.symm.trans htemplate'
          cases ht.symm.trans ht'
          cases hcomplaint.symm.trans hcomplaint'
          rfl

end

section

variable [PatternCompiler] (p : Place) {d : Disk} (hmakes : d.makesDirectory = true) (hwrites : d.writes = true)
  {file : StoredFile} (hfile : file.Writable) {saved : Settings} (hsaved : d.Gives file saved)
  {environment given : Settings} {args : List String} {format : Format} {verbose : Bool}

include hmakes hwrites hfile hsaved

/-- Saving stops for one of the reasons and leaves the file, or it leaves the merged
    settings, which can be used. -/
theorem stepOn_save_cases
    (hparse : CommandLine.parse environment args =
      .ok ⟨.change .save, format, given, verbose⟩) :
    (∃ failure, Unsaved given (given.orElse saved) failure ∧
      stepOn p d file environment args = (file, .report (.fail failure))) ∨
    given ≠ .empty ∧ (given.orElse saved).Usable ∧ ∃ output,
      stepOn p d file environment args =
        (.text (given.orElse saved).render, .report (.success output)) := by
  have heffect := stepOn_effect p d file environment args
  generalize stepOn p d file environment args = result at heffect ⊢
  obtain ⟨after, outcome⟩ := result
  cases heffect with
  | refused hother | unread hother | answered hother => cases hparse.symm.trans hother
  | unsaved hother hunsaved =>
      cases hparse.symm.trans hother
      rw [hsaved.loadOrNone_eq] at hunsaved
      exact .inl ⟨_, hunsaved, rfl⟩
  | unwritten _ hsave => cases (Disk.save_of_writable hmakes hwrites hfile _).symm.trans hsave
  | written hother hgiven husable =>
      cases hparse.symm.trans hother
      rw [hsaved.loadOrNone_eq] at husable ⊢
      exact .inr ⟨hgiven rfl, husable, _, rfl⟩

/-- Clearing always goes through. -/
theorem stepOn_clear
    (hparse : CommandLine.parse environment args =
      .ok ⟨.change .clear, format, given, verbose⟩) :
    ∃ output, stepOn p d file environment args =
      (.text Settings.empty.render, .report (.success output)) := by
  have heffect := stepOn_effect p d file environment args
  generalize stepOn p d file environment args = result at heffect ⊢
  obtain ⟨after, outcome⟩ := result
  cases heffect with
  | refused hother | unread hother | answered hother => cases hparse.symm.trans hother
  | unsaved hother => cases hparse.symm.trans hother
  | unwritten _ hsave => cases (Disk.save_of_writable hmakes hwrites hfile _).symm.trans hsave
  | written hother =>
      cases hparse.symm.trans hother
      exact ⟨_, rfl⟩

/-- **Saving merges, clearing empties**, whatever bytes the file holds.  The given
    settings, those of the command line before those of the environment, are put
    before the ones that the file gives.  Saving them succeeds exactly if something
    is given, both the merged alphabet and the merged template are accepted and the
    pattern of the two is compiled, and then the file loads to the merged settings;
    else the first reason is reported.
    Clearing succeeds and leaves a file that loads to no settings.  A file that
    cannot be loaded can be replaced by any usable settings at once. -/
theorem change_merges :
    (∀ environment args format options verbose given,
      CommandLine.parse .empty args = .ok ⟨.change .save, format, options, verbose⟩ →
      given = options.orElse environment →
      ((stepOn p d file environment args).2.exitCode = 0 ↔ given ≠ .empty ∧
        (∀ symbols, (given.orElse saved).alphabet = some symbols →
          ∃ a, Alphabet.ofText symbols = .ok a) ∧
        (∀ text, (given.orElse saved).template = some text →
          ∃ t, Template.parse text = .ok t) ∧
        ∀ text t a, (given.orElse saved).template = some text → Template.parse text = .ok t →
          (given.orElse saved).resolveAlphabet = .ok a → t.Compiles a) ∧
      ((stepOn p d file environment args).2.exitCode = 0 →
        (stepOn p d file environment args).1.load = .ok (given.orElse saved)) ∧
      ((stepOn p d file environment args).2.exitCode ≠ 0 → ∃ failure,
        (stepOn p d file environment args).2 = .report (.fail failure)) ∧
      ∀ failure, (stepOn p d file environment args).2 = .report (.fail failure) ↔
        Unsaved given (given.orElse saved) failure) ∧
    (∀ environment args format options verbose,
      CommandLine.parse .empty args = .ok ⟨.change .clear, format, options, verbose⟩ →
      (stepOn p d file environment args).2.exitCode = 0 ∧
        (stepOn p d file environment args).1.load = .ok .empty) ∧
    ((∃ fault, d.load file = .error fault) → ∀ settings : Settings, settings ≠ .empty →
      settings.Usable →
      (stepOn p d file .empty (CommandLine.saveArgs settings none)).2.exitCode = 0 ∧
        (stepOn p d file .empty (CommandLine.saveArgs settings none)).1.load =
          .ok settings) := by
  refine ⟨?_, ?_, ?_⟩
  · intro environment args format options verbose given hoptions hgiven
    have hparse := (CommandLine.parse_eq_ok_iff environment args
      ⟨.change .save, format, given, verbose⟩).mpr ⟨options, hoptions, hgiven⟩
    -- the second to fourth conditions say that the merged settings can be used
    rw [← usable_iff]
    rcases stepOn_save_cases p hmakes hwrites hfile hsaved hparse with
      ⟨failure, hunsaved, hstep⟩ | ⟨hne, husable, output, hstep⟩
    · rw [hstep]
      refine ⟨iff_of_false (fun h => (nomatch h)) hunsaved.not_usable, fun h => (nomatch h),
        fun _ => ⟨failure, rfl⟩, fun other => ?_⟩
      constructor
      · rintro ⟨⟩
        exact hunsaved
      · intro hother
        -- a save is refused for one reason only
        rw [hunsaved.unique hother]
    · rw [hstep]
      refine ⟨iff_of_true rfl ⟨hne, husable⟩, fun _ => StoredFile.load_render _,
        fun h => absurd rfl h, fun other => ?_⟩
      exact iff_of_false (fun h => (nomatch h)) fun hother => hother.not_usable ⟨hne, husable⟩
  · intro environment args format options verbose hoptions
    have hparse := (CommandLine.parse_eq_ok_iff environment args
      ⟨.change .clear, format, options.orElse environment, verbose⟩).mpr ⟨options, hoptions, rfl⟩
    obtain ⟨output, hstep⟩ := stepOn_clear p hmakes hwrites hfile hsaved hparse
    rw [hstep]
    exact ⟨rfl, StoredFile.load_render _⟩
  · rintro ⟨fault, hload⟩ settings hne husable
    -- a file that does not load counts as empty
    have hempty : saved = .empty := by
      rcases hsaved with hother | ⟨-, hempty⟩
      · exact nomatch hload.symm.trans hother
      · exact hempty
    have hparse := CommandLine.parse_saveArgs .empty settings none
    rw [Settings.orElse_empty] at hparse
    rcases stepOn_save_cases p hmakes hwrites hfile hsaved hparse with
      ⟨failure, hunsaved, -⟩ | ⟨-, -, output, hstep⟩
    · rw [hempty, Settings.orElse_empty] at hunsaved
      exact absurd ⟨hne, husable⟩ hunsaved.not_usable
    · rw [hstep, hempty, Settings.orElse_empty]
      exact ⟨rfl, StoredFile.load_render _⟩

end

/-- The bytes of a list with the template `h.s`, which has no class. -/
def brokenTemplate : List UInt8 := [91, 34, 104, 46, 115, 34, 93]

section

open scoped SizeLimit

/-- Over a byte that is no text, an alphabet of the environment and a template of the
    command line are both saved, and it can be replaced or cleared at once; over the
    list an accepted alphabet is refused for the template. -/
theorem corrupt_bytes_merged :
    ((stepOn ⟨"/noid"⟩ .sound (.ofBytes [255]) ⟨none, some "0123456789abcdef"⟩
        ["config", "set", "-t", "h.seek"]).2.exitCode = 0 ∧
      (stepOn ⟨"/noid"⟩ .sound (.ofBytes [255]) ⟨none, some "0123456789abcdef"⟩
        ["config", "set", "-t", "h.seek"]).1.load =
        .ok ⟨some "h.seek", some "0123456789abcdef"⟩) ∧
    (stepOn ⟨"/noid"⟩ .sound (.ofBytes [255]) ⟨some "h.s", none⟩
        ["config", "clear"]).1.load = .ok .empty ∧
    (stepOn ⟨"/noid"⟩ .sound (.ofBytes [255]) .empty
        (CommandLine.saveArgs ⟨some "h.seek", none⟩ none)).1.load =
      .ok ⟨some "h.seek", none⟩ ∧
    (stepOn ⟨"/noid"⟩ .sound (.ofBytes brokenTemplate) .empty
        ["config", "set", "--alphabet", "0123456789abcdef"]).2 =
      .report (.fail (.refused (.template "h.s" .noClass))) := by
  have hload : Disk.sound.load (.ofBytes [255]) = .error .unreadable := by decide +kernel
  have hload' : Disk.sound.load (.ofBytes brokenTemplate) = .ok ⟨some "h.s", none⟩ := by
    decide +kernel
  have haccepted : ∃ a, Settings.resolveAlphabet ⟨some "h.s", some "0123456789abcdef"⟩ = .ok a :=
    ⟨⟨"0123456789abcdef".toList, by decide, by decide⟩, by decide +kernel⟩
  have husable : Settings.Usable ⟨some "h.seek", none⟩ := (checkSettings_eq_ok_iff _).mp rfl
  obtain ⟨hsave, hclear, hreplace⟩ := change_merges ⟨"/noid"⟩ (d := .sound) rfl rfl
    (.inr ⟨[255], rfl⟩) (.inr ⟨⟨.unreadable, hload⟩, rfl⟩)
  obtain ⟨hsave', -⟩ := change_merges ⟨"/noid"⟩ (d := .sound) rfl rfl
    (.inr ⟨brokenTemplate, rfl⟩) (.inl hload')
  obtain ⟨-, hmerged, -⟩ := hsave ⟨none, some "0123456789abcdef"⟩
    ["config", "set", "-t", "h.seek"] .plain ⟨some "h.seek", none⟩ false _ rfl rfl
  obtain ⟨-, -, -, hrefused⟩ := hsave' .empty
    ["config", "set", "--alphabet", "0123456789abcdef"] .plain
    ⟨none, some "0123456789abcdef"⟩ false _ rfl rfl
  have hexit : (stepOn ⟨"/noid"⟩ .sound (.ofBytes [255]) ⟨none, some "0123456789abcdef"⟩
      ["config", "set", "-t", "h.seek"]).2.exitCode = 0 := by decide +kernel
  refine ⟨⟨hexit, hmerged hexit⟩, ?_, ?_, ?_⟩
  · exact (hclear ⟨some "h.s", none⟩ ["config", "clear"] .plain .empty false rfl).2
  · exact (hreplace ⟨_, hload⟩ ⟨some "h.seek", none⟩ (by decide) husable).2
  · exact (hrefused _).mpr (.template (by decide) haccepted rfl (by decide +kernel))

end

end Session

end OpaqueId
