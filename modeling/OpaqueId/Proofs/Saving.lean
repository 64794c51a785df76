import OpaqueId.Proofs.Changes
import OpaqueId.Proofs.PatternSize

/-! # Saving: settings stay as they were given

    Settings are saved as the bytes of one text, whatever the file held before,
    and these bytes are read back as the same text and then as the same
    settings (`saved_settings_kept`).

    So a change finds just what the last one saved, and what a whole list of
    changes leaves can be said without the files in between: the settings that
    were given, the later ones before the earlier ones (`carryOutAll_saves`).
    Whether settings are accepted is decided field by field, and merging takes
    each field from settings that are (`Settings.Accepted.orElse`); so of
    accepted settings only the pattern of a template over an alphabet can still
    be refused (`step_save_cases`).  A template and an alphabet fill different
    fields, and where their patterns are compiled it does not matter which of
    them is saved first, or whether they are saved at once (`saving_commutes`).
    Under a limit on the size of patterns there are templates that are not saved
    at all (`long_template_refused`). -/

namespace OpaqueId

open CommandLine (Format saveArgs)

/-! ## Bytes -/

/-- The bytes of a text are a file with that text. -/
theorem StoredFile.ofBytes_toByteArray (content : String) :
    ofBytes content.toByteArray.data.toList = .text content := by
  have hbytes : String.fromUTF8? ⟨content.toByteArray.data.toList.toArray⟩ = some content := by
    rw [Array.toArray_toList, String.fromUTF8?, dif_pos content.isValidUTF8]
    rfl
  rw [ofBytes, hbytes]

/-- A disk that finds and reads the file loads what is in it. -/
theorem Disk.load_of_reads {d : Disk} (hfinds : d.finds = true) (hreads : d.reads = true)
    (content : String) : d.load (.text content) = (StoredFile.text content).load := by
  rw [load, if_pos hfinds]
  exact if_pos hreads

/-- **Saved settings are kept.**  For all settings there are bytes that a writable file has
    after the settings have been saved in it, whatever bytes it had before or if there was
    none; wherever saving succeeds, these are the bytes of the file.  Where the file can be
    found and read, just these settings are loaded from them. -/
theorem saved_settings_kept (s : Settings) : ∃ bytes : List UInt8,
    (∀ (d : Disk) (file : StoredFile), d.makesDirectory = true → d.writes = true →
      file.Writable → d.save s file = .ok (.ofBytes bytes)) ∧
    (∀ (d : Disk) (file after : StoredFile), d.save s file = .ok after →
      after = .ofBytes bytes) ∧
    ∀ d : Disk, d.finds = true → d.reads = true → d.load (.ofBytes bytes) = .ok s := by
  refine ⟨s.render.toByteArray.data.toList, ?_, ?_, ?_⟩
  · intro d file hmakes hwrites hfile
    rw [StoredFile.ofBytes_toByteArray]
    exact Disk.save_of_writable hmakes hwrites hfile s
  · intro d file after h
    rw [StoredFile.ofBytes_toByteArray]
    exact Disk.eq_of_save h
  · intro d hfinds hreads
    rw [StoredFile.ofBytes_toByteArray, Disk.load_of_reads hfinds hreads,
      StoredFile.load_render]

/-- Marks, a backslash, line breaks, a control character and a character outside the basic
    plane, in a template that nothing could be made of. -/
def hardSettings : Settings := ⟨some "\"\\\n\x01\t😀", some ""⟩

/-- Over a byte that is no text, such settings are saved and loaded again. -/
theorem hardSettings_kept : ∃ after,
    Disk.sound.save hardSettings (.ofBytes [255]) = .ok after ∧
      Disk.sound.load after = .ok hardSettings := by
  obtain ⟨bytes, hsave, -, hload⟩ := saved_settings_kept hardSettings
  exact ⟨.ofBytes bytes, hsave .sound _ rfl rfl (.inr ⟨[255], rfl⟩), hload .sound rfl rfl⟩

/-! ## Merging -/

namespace Settings

/-- Settings that are given one after the other, over those that were there before. -/
def merge (saved : Settings) (givens : List Settings) : Settings :=
  givens.foldl (fun before given => given.orElse before) saved

/-- Both settings are accepted, each on its own. -/
structure Accepted (s : Settings) : Prop where
  alphabet : ∀ symbols, s.alphabet = some symbols → ∃ a, Alphabet.ofText symbols = .ok a
  template : ∀ text, s.template = some text → ∃ t, Template.parse text = .ok t

/-- Merging takes each field from one side or the other, so it keeps fields accepted. -/
theorem Accepted.orElse {s t : Settings} (hs : s.Accepted) (ht : t.Accepted) :
    (s.orElse t).Accepted := by
  refine ⟨fun symbols h => ?_, fun text h => ?_⟩
  · rcases Option.or_eq_some_iff.mp h with h | ⟨-, h⟩
    · exact hs.alphabet symbols h
    · exact ht.alphabet symbols h
  · rcases Option.or_eq_some_iff.mp h with h | ⟨-, h⟩
    · exact hs.template text h
    · exact ht.template text h

/-- A template and symbols that are accepted make settings, each alone and both together. -/
theorem accepted_of_eq_ok {text symbols : String} {t : Template} {a : Alphabet}
    (htext : Template.parse text = .ok t) (hsymbols : Alphabet.ofText symbols = .ok a) :
    ∀ given ∈ [⟨some text, none⟩, ⟨none, some symbols⟩, (⟨some text, some symbols⟩ : Settings)],
      given ≠ .empty ∧ given.Accepted := by
  have hfirst : Accepted ⟨some text, none⟩ :=
    ⟨by rintro _ ⟨⟩, by rintro _ ⟨⟩; exact ⟨t, htext⟩⟩
  have hsecond : Accepted ⟨none, some symbols⟩ :=
    ⟨by rintro _ ⟨⟩; exact ⟨a, hsymbols⟩, by rintro _ ⟨⟩⟩
  refine List.forall_mem_cons.mpr ⟨⟨by rintro ⟨⟩, hfirst⟩, List.forall_mem_cons.mpr
    ⟨⟨by rintro ⟨⟩, hsecond⟩, List.forall_mem_singleton.mpr ⟨by rintro ⟨⟩, ?_⟩⟩⟩
  exact hfirst.orElse hsecond

section

variable [PatternCompiler]

/-- Settings that can be used are accepted. -/
theorem Usable.accepted {s : Settings} (h : s.Usable) : s.Accepted := by
  obtain ⟨halphabet, htemplate, -⟩ := (Session.usable_iff s).mp h
  exact ⟨halphabet, htemplate⟩

/-- Accepted settings can be used if the pattern of the two is compiled. -/
theorem Accepted.usable_iff {s : Settings} (h : s.Accepted) {a : Alphabet}
    (ha : s.resolveAlphabet = .ok a) :
    s.Usable ↔ ∀ text t, s.template = some text → Template.parse text = .ok t → t.Compiles a := by
  rw [Session.usable_iff]
  constructor
  · rintro ⟨-, -, hpattern⟩ text t htext ht
    exact hpattern text t a htext ht ha
  · intro hpattern
    refine ⟨h.alphabet, h.template, fun text t b htext ht hb => ?_⟩
    cases ha.symm.trans hb
    exact hpattern text t htext ht

/-- A template that is accepted can be used over an alphabet if its pattern is compiled. -/
theorem usable_iff_compiles {text : String} {t : Template} (ht : Template.parse text = .ok t)
    {alphabet : Option String} {a : Alphabet}
    (ha : resolveAlphabet ⟨some text, alphabet⟩ = .ok a) :
    Usable ⟨some text, alphabet⟩ ↔ t.Compiles a := by
  have haccepted : Accepted ⟨some text, alphabet⟩ := by
    refine ⟨(exists_resolveAlphabet_iff _).mp ⟨a, ha⟩, ?_⟩
    rintro _ ⟨⟩
    exact ⟨t, ht⟩
  rw [haccepted.usable_iff ha]
  constructor
  · exact fun h => h text t rfl ht
  · rintro h _ u ⟨⟩ hu
    cases ht.symm.trans hu
    exact h

/-- Settings that are given one after the other can be used at every point. -/
def AllUsable (saved : Settings) : (givens : List Settings) → Prop
  | [] => True
  | given :: givens => (given.orElse saved).Usable ∧ (given.orElse saved).AllUsable givens

end

end Settings

/-! ## One change after the other -/

namespace StoredFile

variable [PatternCompiler]

/-- Usable settings are loaded from the file, and any others can be saved in it. -/
structure Keeps (file : StoredFile) (saved : Settings) : Prop where
  load : file.load = .ok saved
  usable : saved.Usable
  writable : file.Writable

omit [PatternCompiler] in
theorem writable_text (content : String) : (text content).Writable :=
  .inr ⟨_, (ofBytes_toByteArray content).symm⟩

/-- Usable settings are kept by the file that they are written to. -/
theorem keeps_render {s : Settings} (h : s.Usable) : (text s.render).Keeps s :=
  ⟨load_render s, h, writable_text s.render⟩

/-- A file in order keeps some settings. -/
theorem InOrder.exists_keeps {file : StoredFile} (h : file.InOrder) :
    ∃ saved, file.Keeps saved := by
  cases h with
  | absent => exact ⟨.empty, rfl, Settings.usable_empty, .inl rfl⟩
  | saved hs => exact ⟨_, keeps_render hs⟩

end StoredFile

namespace Session

/-- The command line asks that the given settings be saved, and no others, where the
    environment gives none. -/
def AsksToSave (args : List String) (given : Settings) : Prop :=
  ∃ format verbose,
    CommandLine.parse .empty args = .ok ⟨.change .save, format, given, verbose⟩

/-- All settings can be asked to be saved. -/
theorem asksToSave_saveArgs (given : Settings) (format : Option String) :
    AsksToSave (saveArgs given format) given := by
  have hparse := CommandLine.parse_saveArgs .empty given format
  rw [Settings.orElse_empty] at hparse
  exact ⟨_, _, hparse⟩

section

variable [PatternCompiler]

/-- Carries out command lines one after the other in an empty environment: the file that
    they leave, and the exit code of each. -/
def carryOutAll (p : Place) (file : StoredFile) : (commands : List (List String)) →
    StoredFile × List Nat
  | [] => (file, [])
  | args :: rest =>
    let first := step p file .empty args
    let others := carryOutAll p first.1 rest
    (others.1, first.2.exitCode :: others.2)

/-- Settings that are accepted are refused for their pattern, if at all. -/
theorem Unsaved.exists_complaint {given merged : Settings} {failure : Failure}
    (h : Unsaved given merged failure) (hgiven : given ≠ .empty) (haccepted : merged.Accepted) :
    ∃ complaint, failure = .refused (.pattern complaint) := by
  cases h with
  | nothing hempty => exact absurd hempty hgiven
  | alphabet _ halphabet hfault =>
      obtain ⟨a, ha⟩ := haccepted.alphabet _ halphabet
      cases hfault.symm.trans ha
  | template _ _ htemplate hfault =>
      obtain ⟨t, ht⟩ := haccepted.template _ htemplate
      cases hfault.symm.trans ht
  | pattern => exact ⟨_, rfl⟩

variable (p : Place)

/-- Accepted settings are saved over those that the file keeps if they can be used with
    them; else the pattern is refused and the file is left as it is. -/
theorem step_save_cases {file : StoredFile} {saved given : Settings} {args : List String}
    (hfile : file.Keeps saved) (hasks : AsksToSave args given) (hgiven : given ≠ .empty)
    (haccepted : given.Accepted) :
    ((given.orElse saved).Usable ∧
      (step p file .empty args).1 = .text (given.orElse saved).render ∧
      (step p file .empty args).2.exitCode = 0) ∨
    (¬ (given.orElse saved).Usable ∧ ∃ complaint,
      step p file .empty args = (file, .report (.fail (.refused (.pattern complaint))))) := by
  obtain ⟨format, verbose, hparse⟩ := hasks
  have hgives : Disk.sound.Gives file saved := .inl ((Disk.load_sound file).trans hfile.load)
  rcases stepOn_save_cases p rfl rfl hfile.writable hgives hparse with
    ⟨failure, hunsaved, hstep⟩ | ⟨-, husable, output, hstep⟩
  · right
    obtain ⟨complaint, rfl⟩ :=
      hunsaved.exists_complaint hgiven (haccepted.orElse hfile.usable.accepted)
    exact ⟨fun husable => hunsaved.not_usable ⟨hgiven, husable⟩, complaint, hstep⟩
  · left
    rw [step, hstep]
    exact ⟨husable, rfl, rfl⟩

/-- Of a list of changes that save something accepted every one succeeds exactly if the
    settings can be used at every point, and then the last one leaves what they all come
    to. -/
theorem carryOutAll_saves {file : StoredFile} {saved : Settings} (hfile : file.Keeps saved)
    {commands : List (List String)} {givens : List Settings}
    (hasks : List.Forall₂ AsksToSave commands givens)
    (hgivens : ∀ given ∈ givens, given ≠ .empty ∧ given.Accepted) :
    ((carryOutAll p file commands).2 = List.replicate commands.length 0 ↔
      saved.AllUsable givens) ∧
    (saved.AllUsable givens → givens ≠ [] →
      (carryOutAll p file commands).1 = .text (saved.merge givens).render) := by
  induction hasks generalizing file saved with
  | nil => exact ⟨iff_of_true rfl trivial, fun _ hne => absurd rfl hne⟩
  | @cons args given commands givens hfirst hrest ih =>
      obtain ⟨⟨hgiven, haccepted⟩, hothers⟩ := List.forall_mem_cons.mp hgivens
      rw [carryOutAll, List.length_cons, List.replicate_succ, Settings.AllUsable]
      rcases step_save_cases p hfile hfirst hgiven haccepted with
        ⟨husable, hnext, hexit⟩ | ⟨hunusable, complaint, hstep⟩
      · obtain ⟨hcodes, hleft⟩ := ih (StoredFile.keeps_render husable) hothers
        simp only [hnext, hexit, List.cons.injEq, true_and, hcodes]
        refine ⟨(and_iff_right husable).symm, fun ⟨_, hall⟩ _ => ?_⟩
        -- only the first change meets a file that may not be there
        by_cases hlast : givens = []
        · subst hlast
          cases hrest
          rfl
        · exact hleft hall hlast
      · refine ⟨iff_of_false ?_ fun h => hunusable h.1, fun h => absurd h.1 hunusable⟩
        rw [hstep]
        intro h
        exact absurd (List.cons.inj h).1 Nat.one_ne_zero

/-- All the commands exit with 0 exactly under the condition, and then leave the file. -/
structure Saves (file : StoredFile) (commands : List (List String)) (condition : Prop)
    (after : StoredFile) : Prop where
  exitCodes : (carryOutAll p file commands).2 = List.replicate commands.length 0 ↔ condition
  leaves : condition → (carryOutAll p file commands).1 = after

/-- Commands that ask one by one to save accepted settings exit with 0 under a condition on
    the settings alone, and leave what they all come to. -/
theorem saves_of_asks {file : StoredFile} {saved : Settings} (hfile : file.Keeps saved)
    {commands : List (List String)} {givens : List Settings}
    (hasks : List.Forall₂ AsksToSave commands givens)
    (hgivens : ∀ given ∈ givens, given ≠ .empty ∧ given.Accepted) (hne : givens ≠ [])
    {condition : Prop} (hcondition : saved.AllUsable givens ↔ condition) :
    Saves p file commands condition (.text (saved.merge givens).render) := by
  obtain ⟨hcodes, hleft⟩ := carryOutAll_saves p hfile hasks hgivens
  exact ⟨hcodes.trans hcondition, fun h => hleft (hcondition.mpr h) hne⟩

/-- **Saving a template and an alphabet commutes, as far as patterns are compiled.**  From
    an empty place on, whatever command lines were carried out in whatever environments, a
    file is left that loads and has an alphabet, which is the default one if none was saved.
    Let a template and symbols be accepted, and take any command lines that ask to save the
    one, the other, or both; there are some for all settings.

    The template first, the symbols first, or both at once: every command line exits with 0
    exactly if the pattern of each template over each alphabet that come together on the way
    is compiled, and where all do the files that are left are the same and load to the two.
    A command line that does not exit with 0 reports the complaint about a pattern and
    leaves the file as it is. -/
theorem saving_commutes (requests : List Request) {text symbols : String} {t : Template}
    {a : Alphabet} (htext : Template.parse text = .ok t)
    (hsymbols : Alphabet.ofText symbols = .ok a) :
    (∀ given, AsksToSave (saveArgs given none) given) ∧
    ∃ file saved base after, file = run p .absent requests ∧ file.load = .ok saved ∧
      saved.resolveAlphabet = .ok base ∧ after.load = .ok ⟨some text, some symbols⟩ ∧
      (∀ template alphabet both, AsksToSave template ⟨some text, none⟩ →
        AsksToSave alphabet ⟨none, some symbols⟩ →
        AsksToSave both ⟨some text, some symbols⟩ →
        Saves p file [template, alphabet] (t.Compiles base ∧ t.Compiles a) after ∧
        Saves p file [alphabet, template]
          ((∀ old u, saved.template = some old → Template.parse old = .ok u → u.Compiles a) ∧
            t.Compiles a) after ∧
        Saves p file [both] (t.Compiles a) after) ∧
      ∀ args given, given ∈ [⟨some text, none⟩, ⟨none, some symbols⟩,
          (⟨some text, some symbols⟩ : Settings)] →
        AsksToSave args given → (step p file .empty args).2.exitCode ≠ 0 → ∃ complaint,
          step p file .empty args = (file, .report (.fail (.refused (.pattern complaint)))) := by
  obtain ⟨saved, hfile⟩ := (run_inOrder p .absent requests).exists_keeps
  have hsaved := hfile.usable.accepted
  obtain ⟨base, hbase⟩ := (Settings.exists_resolveAlphabet_iff saved).mpr hsaved.alphabet
  have hgivens := Settings.accepted_of_eq_ok htext hsymbols
  obtain ⟨hfirst, hothers⟩ := List.forall_mem_cons.mp hgivens
  obtain ⟨hsecond, hboth⟩ := List.forall_mem_cons.mp hothers
  have hresolve : ∀ template, Settings.resolveAlphabet ⟨template, some symbols⟩ = .ok a :=
    fun _ => Except.mapError_eq_ok_iff.mpr hsymbols
  have htogether : Settings.Usable ⟨some text, some symbols⟩ ↔ t.Compiles a :=
    Settings.usable_iff_compiles htext (hresolve _)
  refine ⟨fun given => asksToSave_saveArgs given none, _, saved, base,
    .text (Settings.render ⟨some text, some symbols⟩), rfl, hfile.load, hbase,
    StoredFile.load_render _, ?_, ?_⟩
  · intro template alphabet both htemplate halphabet hasks
    -- the three orders differ in the settings in between, and come to the same in the end
    refine ⟨?_, ?_, ?_⟩
    · refine saves_of_asks p hfile (.cons htemplate (.cons halphabet .nil))
        (List.forall_mem_cons.mpr ⟨hfirst, List.forall_mem_singleton.mpr hsecond⟩)
        (List.cons_ne_nil _ _) ?_
      have hover : ((⟨some text, none⟩ : Settings).orElse saved).Usable ↔ t.Compiles base :=
        Settings.usable_iff_compiles htext hbase
      exact and_congr hover ((and_iff_left trivial).trans htogether)
    · refine saves_of_asks p hfile (.cons halphabet (.cons htemplate .nil))
        (List.forall_mem_cons.mpr ⟨hsecond, List.forall_mem_singleton.mpr hfirst⟩)
        (List.cons_ne_nil _ _) ?_
      have hover := (hsecond.2.orElse hsaved).usable_iff (hresolve saved.template)
      exact and_congr hover ((and_iff_left trivial).trans htogether)
    · exact saves_of_asks p hfile (.cons hasks .nil) hboth
        (List.cons_ne_nil _ _) ((and_iff_left trivial).trans htogether)
  · intro args given hmem hasks hexit
    obtain ⟨hgiven, haccepted⟩ := hgivens given hmem
    rcases step_save_cases p hfile hasks hgiven haccepted with ⟨-, -, hzero⟩ | ⟨-, hstep⟩
    · exact absurd hzero hexit
    · exact hstep

end

/-- An alphabet is saved from the environment, and a template with an unknown class is
    refused. -/
def alphabetRequests : List Request :=
  [⟨["config", "set"], ⟨none, some "0123456789é"⟩, .sound⟩,
   ⟨["config", "set", "--template=bc.sx"], .empty, .sound⟩]

/-- A template whose stem has three million characters of four bytes. -/
def longTemplate : Template := SizeLimit.repeated '😀' 3000000 .decimal 1

section

open scoped SizeLimit

/-- Over the alphabet saved before, a template that begins with a dash and another alphabet
    are saved in either order, and at once. -/
theorem dashed_template_commutes : ∃ after,
    carryOutAll ⟨"/noid"⟩ (run ⟨"/noid"⟩ .absent alphabetRequests)
        [["config", "set", "--template=-x.zdk"], ["--alphabet", "0123456789x", "config", "set"]] =
      (after, [0, 0]) ∧
    carryOutAll ⟨"/noid"⟩ (run ⟨"/noid"⟩ .absent alphabetRequests)
        [["--alphabet", "0123456789x", "config", "set"], ["config", "set", "--template=-x.zdk"]] =
      (after, [0, 0]) ∧
    carryOutAll ⟨"/noid"⟩ (run ⟨"/noid"⟩ .absent alphabetRequests)
        [["config", "-t-x.zdk", "set", "--alphabet=0123456789x"]] = (after, [0]) ∧
    after.load = .ok ⟨some "-x.zdk", some "0123456789x"⟩ := by
  have htext : Template.parse "-x.zdk" = .ok ⟨"-x", .extensible, [.decimal], true⟩ := by
    decide +kernel
  have hsymbols : Alphabet.ofText "0123456789x" =
      .ok ⟨decimalDigits ++ ['x'], rfl, by decide⟩ :=
    (Alphabet.ofText_eq_ok_iff _ _).mpr (by decide +kernel)
  obtain ⟨-, file, saved, base, after, hfile, hload, hbase, hafter, hruns, -⟩ :=
    saving_commutes ⟨"/noid"⟩ alphabetRequests htext hsymbols
  obtain ⟨hfirst, hsecond, hboth⟩ := hruns ["config", "set", "--template=-x.zdk"]
    ["--alphabet", "0123456789x", "config", "set"]
    ["config", "-t-x.zdk", "set", "--alphabet=0123456789x"]
    ⟨.plain, false, rfl⟩ ⟨.plain, false, rfl⟩ ⟨.plain, false, rfl⟩
  -- the alphabet of the environment was saved, and no template
  have hsaved : saved = ⟨none, some "0123456789é"⟩ := by
    have hleft : (run ⟨"/noid"⟩ .absent alphabetRequests).load =
        .ok ⟨none, some "0123456789é"⟩ := by decide +kernel
    rw [hfile, hleft] at hload
    exact (Except.ok.inj hload).symm
  have hcompiles : Template.Compiles ⟨"-x", .extensible, [.decimal], true⟩
      ⟨decimalDigits ++ ['x'], rfl, by decide⟩ := SizeLimit.compiles_of_le (by decide)
  have hcompiles' : Template.Compiles ⟨"-x", .extensible, [.decimal], true⟩ base := by
    have halphabet : base = ⟨decimalDigits ++ ['é'], rfl, by decide⟩ := by
      have hread : (Alphabet.ofText "0123456789é").mapError Refusal.alphabet = .ok base := by
        rw [hsaved] at hbase
        exact hbase
      have haccepted : Alphabet.ofText "0123456789é" =
          .ok ⟨decimalDigits ++ ['é'], rfl, by decide⟩ :=
        (Alphabet.ofText_eq_ok_iff _ _).mpr (by decide +kernel)
      exact Except.ok.inj ((Except.mapError_eq_ok_iff.mp hread).symm.trans haccepted)
    rw [halphabet]
    exact SizeLimit.compiles_of_le (by decide)
  have hnone : ∀ old u, saved.template = some old → Template.parse old = .ok u →
      u.Compiles ⟨decimalDigits ++ ['x'], rfl, by decide⟩ := by
    rw [hsaved]
    rintro _ _ ⟨⟩
  rw [hfile] at hfirst hsecond hboth
  exact ⟨after,
    Prod.ext (hfirst.leaves ⟨hcompiles', hcompiles⟩) (hfirst.exitCodes.mpr ⟨hcompiles', hcompiles⟩),
    Prod.ext (hsecond.leaves ⟨hnone, hcompiles⟩) (hsecond.exitCodes.mpr ⟨hnone, hcompiles⟩),
    Prod.ext (hboth.leaves hcompiles) (hboth.exitCodes.mpr hcompiles), hafter⟩

/-- A template of such length is accepted, and saving it fails all the same. -/
theorem long_template_refused :
    Template.parse longTemplate.render = .ok longTemplate ∧
    AsksToSave (saveArgs ⟨some longTemplate.render, none⟩ none) ⟨some longTemplate.render, none⟩ ∧
    step ⟨"/noid"⟩ .absent .empty (saveArgs ⟨some longTemplate.render, none⟩ none) =
      (.absent, .report (.fail (.refused (.pattern SizeLimit.tooLarge)))) := by
  have hparse : Template.parse longTemplate.render = .ok longTemplate :=
    Template.parse_render (SizeLimit.mask_repeated_ne_nil _ _ _ (by decide))
  have hlarge : SizeLimit.limit < SizeLimit.patternSize longTemplate .betanumeric := by
    have hbytes : Char.utf8Size '😀' = 4 := by decide
    rw [longTemplate, SizeLimit.patternSize_repeated, hbytes]
    exact Nat.lt_of_lt_of_le (by decide) (Nat.le_add_right _ _)
  have hunsaved : Unsaved ⟨some longTemplate.render, none⟩ ⟨some longTemplate.render, none⟩
      (.refused (.pattern SizeLimit.tooLarge)) :=
    .pattern (by rintro ⟨⟩) rfl rfl hparse (SizeLimit.complaint?_of_lt hlarge)
  have hasks := asksToSave_saveArgs ⟨some longTemplate.render, none⟩ none
  refine ⟨hparse, hasks, ?_⟩
  obtain ⟨format, verbose, hsave⟩ := hasks
  rcases stepOn_save_cases ⟨"/noid"⟩ (d := .sound) rfl rfl (.inl rfl) (.inl rfl) hsave with
    ⟨failure, hother, hstep⟩ | ⟨hgiven, husable, -⟩
  · rw [Settings.orElse_empty] at hother
    rw [step, hstep, hother.unique hunsaved]
  · rw [Settings.orElse_empty] at husable
    exact absurd ⟨hgiven, husable⟩ hunsaved.not_usable

end

end Session

end OpaqueId
