import OpaqueId.Proofs.Effects
import OpaqueId.Proofs.SavedText

/-! # Saved settings: what is saved can be used

    A step leaves the settings file as it is or writes settings that were
    checked (`stepOn_cases`), whatever lay there before and whatever file
    operation fails.  So from an empty place on, the file is absent or holds
    usable settings (`run_inOrder`), and what was written is read back.

    Main statement: `run_saved_usable`. -/

namespace OpaqueId

section

variable [PatternCompiler]

namespace Session

/-- A step leaves the file as it is or writes settings that can be used. -/
theorem stepOn_cases (p : Place) (d : Disk) (file : StoredFile) (environment : Settings)
    (args : List String) :
    (stepOn p d file environment args).1 = file ∨
      ∃ s : Settings, s.Usable ∧ (stepOn p d file environment args).1 = .text s.render := by
  have heffect := stepOn_effect p d file environment args
  generalize stepOn p d file environment args = result at heffect
  obtain ⟨after, outcome⟩ := result
  cases heffect with
  | written _ _ husable => exact .inr ⟨_, husable, rfl⟩
  | refused | unread | answered | unsaved | unwritten => exact .inl rfl

end Session

/-! ## Files that only steps have written -/

omit [PatternCompiler] in
/-- Settings that were written are loaded as they were. -/
theorem StoredFile.load_render (s : Settings) : (StoredFile.text s.render).load = .ok s := by
  rw [StoredFile.load, Settings.read?_render]

/-- Nothing lies at the place, or usable settings as they are saved. -/
inductive StoredFile.InOrder : StoredFile → Prop
  | absent : InOrder .absent
  | saved {s : Settings} (h : s.Usable) : InOrder (.text s.render)

/-- A file in order is absent or holds settings that were saved, and these can be used. -/
theorem StoredFile.InOrder.load {file : StoredFile} (h : file.InOrder) :
    ∃ saved : Settings, file.load = .ok saved ∧ saved.Usable ∧
      (file = .absent ∨ file = .text saved.render) := by
  cases h with
  | absent => exact ⟨.empty, rfl, Settings.usable_empty, .inl rfl⟩
  | @saved s h => exact ⟨s, StoredFile.load_render s, h, .inr rfl⟩

namespace Session

open CommandLine (Format)

/-- A step keeps a file in order, whatever the disk allows: it saves what was checked, or
    leaves the file alone. -/
theorem stepOn_inOrder (p : Place) (d : Disk) {file : StoredFile} (h : file.InOrder)
    (environment : Settings) (args : List String) :
    (stepOn p d file environment args).1.InOrder := by
  rcases stepOn_cases p d file environment args with hfile | ⟨s, hs, hfile⟩
  · rw [hfile]
    exact h
  · rw [hfile]
    exact .saved hs

/-- A run keeps a file in order, since every step does. -/
theorem run_inOrder (p : Place) {file : StoredFile} (h : file.InOrder)
    (requests : List Request) : (run p file requests).InOrder := by
  induction requests generalizing file with
  | nil => exact h
  | cons r requests ih => exact ih (stepOn_inOrder p r.disk h r.environment r.args)

/-- What is given to be saved is saved with what was saved before, if it can
    be used with that. -/
theorem stepOn_save (p : Place) {file : StoredFile} {saved given environment : Settings}
    {args : List String} {format : Format} {verbose : Bool} (hload : file.load = .ok saved)
    (hsave : ∀ s : Settings, file.save s = .ok (.text s.render))
    (hparse : CommandLine.parse environment args = .ok ⟨.change .save, format, given, verbose⟩)
    (hgiven : given ≠ .empty) (husable : (given.orElse saved).Usable) :
    stepOn p .sound file environment args =
      (.text (given.orElse saved).render,
        .report (.success (confirm "Saved defaults" format))) := by
  have hsaved : Disk.sound.loadOrNone file = saved := by
    rw [Disk.loadOrNone, Disk.load_sound, hload]
  have hcheck := (checkSettings_eq_ok_iff _).mpr husable
  rw [stepOn, hparse]
  simp only [carryOut, change, if_neg hgiven, hsaved, hcheck, write, Disk.save_sound, hsave]

/-- Inspecting without options shows the scheme of the saved settings. -/
theorem step_inspect (p : Place) {file : StoredFile} {saved : Settings}
    (h : file.load = .ok saved) :
    (step p file .empty ["inspect"]).2 =
      .report (.ofExcept (saved.resolveScheme.map fun s => inspect s .plain)) := by
  have hparse : CommandLine.parse .empty ["inspect"] =
      .ok ⟨.ask .inspect, .plain, .empty, false⟩ := by
    rfl
  rw [step, stepOn_ask p .sound file .empty ["inspect"] hparse ((Disk.load_sound file).trans h)]
  simp only [answer, Settings.empty_orElse]
  cases saved.resolveScheme <;> rfl

/-- From an empty place on, whatever command lines are carried out in whatever
    environments and whichever file operations fail, the saved settings can be
    read and used, so that inspecting fails only where no template is saved. -/
theorem run_saved_usable (p : Place) (requests : List Request) :
    ∃ saved : Settings,
      (run p .absent requests).load = .ok saved ∧ saved.Usable ∧
      (run p .absent requests = .absent ∨ run p .absent requests = .text saved.render) ∧
      (saved.template ≠ none →
        (step p (run p .absent requests) .empty ["inspect"]).2.exitCode = 0) ∧
      (saved.template = none →
        (step p (run p .absent requests) .empty ["inspect"]).2 = .report (.fail .noTemplate)) := by
  obtain ⟨saved, hload, husable, hfile⟩ := (run_inOrder p .absent requests).load
  refine ⟨saved, hload, husable, hfile, ?_, ?_⟩
  · intro htemplate
    obtain ⟨text, htext⟩ := Option.ne_none_iff_exists'.mp htemplate
    obtain ⟨scheme, hscheme⟩ := husable.exists_scheme htext
    rw [step_inspect p hload, hscheme]
    rfl
  · intro htemplate
    rw [step_inspect p hload, Settings.resolveScheme, htemplate]
    rfl

end Session

end

namespace Session

/-- A template from the environment, then an alphabet, then a disk that does
    not let them be cleared. -/
def specimenRequests : List Request :=
  [⟨["config", "set"], ⟨some "bc.zeek", none⟩, .sound⟩,
   ⟨["config", "set", "--alphabet", "0123456789abcdef"], .empty, .sound⟩,
   ⟨["config", "clear"], .empty, ⟨true, true, true, false⟩⟩]

section

open scoped SizeLimit

theorem specimenRequests_saved :
    (run ⟨"/noid"⟩ .absent specimenRequests).load =
        .ok ⟨some "bc.zeek", some "0123456789abcdef"⟩ ∧
      (step ⟨"/noid"⟩ (run ⟨"/noid"⟩ .absent specimenRequests) .empty
        ["inspect"]).2.exitCode = 0 := by
  obtain ⟨saved, hload, -, -, hinspect, -⟩ := run_saved_usable ⟨"/noid"⟩ specimenRequests
  -- the second step reads what the first one wrote
  have hparse : CommandLine.parse .empty ["config", "set", "--alphabet", "0123456789abcdef"] =
      .ok ⟨.change .save, .plain, ⟨none, some "0123456789abcdef"⟩, false⟩ := by
    rfl
  have husable : Settings.Usable ⟨some "bc.zeek", some "0123456789abcdef"⟩ :=
    (checkSettings_eq_ok_iff _).mp rfl
  have hsecond := stepOn_save ⟨"/noid"⟩ (StoredFile.load_render ⟨some "bc.zeek", none⟩)
    (fun _ => rfl) hparse (by decide) husable
  have hfile : run ⟨"/noid"⟩ .absent specimenRequests =
      .text (Settings.render ⟨some "bc.zeek", some "0123456789abcdef"⟩) := by
    show (stepOn _ _
      (stepOn ⟨"/noid"⟩ .sound (.text (Settings.render ⟨some "bc.zeek", none⟩)) .empty
        ["config", "set", "--alphabet", "0123456789abcdef"]).1 .empty
      ["config", "clear"]).1 = _
    rw [hsecond]
    rfl
  have hsaved : (run ⟨"/noid"⟩ .absent specimenRequests).load =
      .ok ⟨some "bc.zeek", some "0123456789abcdef"⟩ := by
    rw [hfile, StoredFile.load_render]
  cases hload.symm.trans hsaved
  exact ⟨hsaved, hinspect (by simp)⟩

end

end Session

end OpaqueId
