import OpaqueId.Proofs.Batches
import OpaqueId.Proofs.Changes

/-! # Defaults: what saved settings are good for

    Settings are saved only if a scheme can be built from them, but building a
    scheme does not take a look at its stem.  Zero is a value that every scheme
    holds, so whether it is minted from the saved settings depends on the stem
    alone (`step_mint_zero`): a checked scheme over a stem with a character
    outside the alphabet is saved like any other, and then mints no value and
    accepts no text.

    The check before saving asks too little by this one condition
    (`saved_defaults_mint_iff`, `useless_defaults_saved`). -/

namespace OpaqueId

theorem Scheme.holds_zero (s : Scheme) : s.Holds 0 :=
  .inr s.volume_bases_pos

namespace Session

open CommandLine (Format saveArgs)
open Except (FailsFirst)

section

variable [PatternCompiler]

/-- Saving that succeeds leaves the given settings in front of those saved before, and
    they can be used. -/
theorem usable_of_saved (p : Place) {d : Disk} {file : StoredFile} {environment given : Settings}
    {args : List String} {format : Format} {verbose : Bool}
    (hparse : CommandLine.parse environment args = .ok ⟨.change .save, format, given, verbose⟩)
    (hexit : (stepOn p d file environment args).2.exitCode = 0) :
    (given.orElse (d.loadOrNone file)).Usable ∧
      (stepOn p d file environment args).1 =
        .text (given.orElse (d.loadOrNone file)).render := by
  have heffect := stepOn_effect p d file environment args
  generalize stepOn p d file environment args = result at heffect hexit ⊢
  obtain ⟨after, outcome⟩ := result
  cases heffect with
  | refused hother | unread hother | answered hother => cases hparse.symm.trans hother
  | unsaved | unwritten => exact nomatch hexit
  | written hother _ husable =>
      cases hparse.symm.trans hother
      exact ⟨husable, rfl⟩

/-- From the settings of a file zero is minted, and the identifier is accepted, or the
    leftmost foreign character of the stem is named. -/
theorem step_mint_zero (p : Place) {file : StoredFile} {saved : Settings} {s : Scheme}
    (hload : file.load = .ok saved) (hscheme : saved.resolveScheme = .ok s) :
    (¬ s.ForeignStem ∧ ∃ id, s.check id = .ok () ∧
      step p file .empty ["mint", "0"] = (file, .report (.success (unlines [id])))) ∨
    (s.ForeignStem ∧ ∃ found, s.alphabet.LeftmostForeign s.stem found ∧
      step p file .empty ["mint", "0"] = (file, .report (.fail (.refused (.foreign found))))) := by
  have hasks : Asks .sound file .empty ["mint", "0"] (.mint (.values [0])) .plain s := by
    refine ⟨.empty, saved, false, rfl, (Disk.load_sound file).trans hload, ?_⟩
    rw [Settings.empty_orElse]
    exact hscheme
  obtain ⟨r, hstep, hbatch⟩ := mint_allOrNothing p (List.cons_ne_nil 0 []) hasks
  rw [step, hstep]
  by_cases hstem : s.ForeignStem
  · obtain ⟨hchecked, found, hfound⟩ := s.foreignStem_iff.mp hstem
    have hforeign := (s.mint_eq_foreign_iff 0 found).mpr ⟨s.holds_zero, hchecked, hfound⟩
    have hfirst : FailsFirst s.mint [0] 0 (.foreign found) :=
      ⟨[], [], rfl, List.forall_mem_nil _, hforeign⟩
    rw [hbatch.eq_fail hfirst]
    exact .inr ⟨hstem, found, hfound, rfl⟩
  · obtain ⟨id, hid⟩ := (s.exists_mint_eq_ok_iff 0).mpr ⟨s.holds_zero, hstem⟩
    rw [hbatch.eq_success (.cons hid .nil)]
    exact .inl ⟨hstem, id, Scheme.check_of_mint hid, rfl⟩

/-- **Saved defaults mint unless their stem is foreign.**  Whatever lay at the place of
    the file and wherever the settings come from, a change that saves them and leaves a
    template leaves one that a scheme can be built from.  With the saved settings alone
    that scheme then mints zero to an identifier that it accepts, unless it is checked
    and its stem has a character outside the alphabet; such a scheme is saved all the
    same, and it mints no value and accepts no text. -/
theorem saved_defaults_mint_iff (p : Place) (d : Disk) (file : StoredFile)
    (environment : Settings) (args : List String) (format : Format) (given : Settings)
    (verbose : Bool)
    (hparse : CommandLine.parse environment args = .ok ⟨.change .save, format, given, verbose⟩)
    (hexit : (stepOn p d file environment args).2.exitCode = 0) :
    ∃ after saved, after = (stepOn p d file environment args).1 ∧ after.load = .ok saved ∧
      saved = given.orElse (d.loadOrNone file) ∧
      ∀ text, saved.template = some text → ∃ s, saved.resolveScheme = .ok s ∧
        ((step p after .empty ["mint", "0"]).2.exitCode = 0 ↔ ¬ s.ForeignStem) ∧
        (¬ s.ForeignStem → ∃ id, s.check id = .ok () ∧
          step p after .empty ["mint", "0"] = (after, .report (.success (unlines [id])))) ∧
        (s.ForeignStem →
          (∃ found, s.alphabet.LeftmostForeign s.stem found ∧
            step p after .empty ["mint", "0"] =
              (after, .report (.fail (.refused (.foreign found))))) ∧
          (∀ n id, s.mint n ≠ .ok id) ∧ ∀ id, s.check id ≠ .ok ()) := by
  obtain ⟨husable, hafter⟩ := usable_of_saved p hparse hexit
  refine ⟨_, given.orElse (d.loadOrNone file), hafter.symm, StoredFile.load_render _, rfl, ?_⟩
  intro text htemplate
  obtain ⟨s, hscheme⟩ := husable.exists_scheme htemplate
  refine ⟨s, hscheme, ?_⟩
  rcases step_mint_zero p (StoredFile.load_render _) hscheme with
    ⟨hstem, id, hcheck, hstep⟩ | ⟨hstem, found, hfound, hstep⟩
  · refine ⟨iff_of_true (by rw [hstep]; rfl) hstem, fun _ => ⟨id, hcheck, hstep⟩,
      fun hforeign => absurd hforeign hstem⟩
  · refine ⟨iff_of_false (by rw [hstep]; exact Nat.one_ne_zero) (not_not_intro hstem),
      fun hnot => absurd hstem hnot, fun _ => ⟨⟨found, hfound, hstep⟩, ?_, hstem.check_ne_ok⟩⟩
    -- what is minted would be accepted
    intro n id hid
    exact hstem.check_ne_ok id (Scheme.check_of_mint hid)

end

/-- A settings file with the template `bc.zdk` and no alphabet. -/
def templateFile : StoredFile := .text (Settings.render ⟨some "bc.zdk", none⟩)

/-- The scheme `bc.zdk` over an alphabet. -/
def letterScheme (a : Alphabet) : Scheme := ⟨⟨"bc", .extensible, [.decimal], true⟩, a, by decide⟩

section

open scoped SizeLimit

/-- Where `bc.zdk` is saved, an alphabet of digits alone is saved too and stops the
    minting; an alphabet with both letters does not. -/
theorem alphabets_saved :
    (step ⟨"/noid"⟩ (step ⟨"/noid"⟩ templateFile .empty
        (saveArgs ⟨none, some "0123456789"⟩ none)).1 .empty ["mint", "0"]).2.exitCode ≠ 0 ∧
      (step ⟨"/noid"⟩ (step ⟨"/noid"⟩ templateFile .empty
        (saveArgs ⟨none, some "0123456789bc"⟩ none)).1 .empty ["mint", "0"]).2.exitCode = 0 := by
  have hmints : ∀ symbols a, Alphabet.ofText symbols = .ok a →
      (stepOn ⟨"/noid"⟩ .sound templateFile .empty
        (saveArgs ⟨none, some symbols⟩ none)).2.exitCode = 0 →
      ((step ⟨"/noid"⟩ (step ⟨"/noid"⟩ templateFile .empty
        (saveArgs ⟨none, some symbols⟩ none)).1 .empty ["mint", "0"]).2.exitCode = 0 ↔
        ¬ (letterScheme a).ForeignStem) := by
    intro symbols a ha hexit
    obtain ⟨_, saved, rfl, -, hsaved, hschemes⟩ := saved_defaults_mint_iff ⟨"/noid"⟩ .sound
      templateFile .empty _ _ _ _ (CommandLine.parse_saveArgs .empty ⟨none, some symbols⟩ none) hexit
    have hload : Disk.sound.loadOrNone templateFile = ⟨some "bc.zdk", none⟩ := by
      rw [Disk.loadOrNone, Disk.load_sound, templateFile, StoredFile.load_render]
    rw [Settings.orElse_empty, hload] at hsaved
    obtain ⟨s, hs, hzero, -⟩ := hschemes "bc.zdk" (by rw [hsaved]; rfl)
    -- the scheme that is resolved is the one with the letters
    have hletter : s = letterScheme a := by
      obtain ⟨text, b, htext, hb, hscheme⟩ := (Settings.resolveScheme_eq_ok_iff saved s).mp hs
      rw [hsaved] at htext hb
      cases htext
      cases hb.symm.trans (Except.mapError_eq_ok_iff.mpr ha)
      obtain ⟨hparse, halphabet, -⟩ := (Scheme.ofText_eq_ok_iff _ _ _).mp hscheme
      have hletters : Template.parse "bc.zdk" = .ok ⟨"bc", .extensible, [.decimal], true⟩ := by
        decide +kernel
      have htemplate := Except.ok.inj (hparse.symm.trans hletters)
      cases s
      cases htemplate
      cases halphabet
      rfl
    rw [hletter] at hzero
    exact hzero
  constructor
  · have hforeign : (letterScheme ⟨decimalDigits, rfl, by decide⟩).ForeignStem :=
      ⟨rfl, 'b', by decide +kernel, by decide⟩
    have hdigits := hmints "0123456789" _ rfl (by decide +kernel)
    exact fun hzero => hdigits.mp hzero hforeign
  · have hnot : ¬ (letterScheme ⟨decimalDigits ++ ['b', 'c'], rfl, by decide⟩).ForeignStem := by
      have hletters : ∀ a, (letterScheme a).stem = ['b', 'c'] := by
        intro a
        show String.toList "bc" = ['b', 'c']
        decide +kernel
      rw [Scheme.not_foreignStem_iff, hletters, List.forall_mem_cons, List.forall_mem_singleton]
      exact .inr (by decide)
    exact (hmints "0123456789bc" _ rfl (by decide +kernel)).mpr hnot

/-- The template `ark:/.sdk` is saved, although the default alphabet has no `a` and nothing
    can be minted from it. -/
theorem useless_defaults_saved :
    step ⟨"/noid"⟩ .absent .empty ["config", "set", "-t", "ark:/.sdk"] =
        (.text (Settings.render ⟨some "ark:/.sdk", none⟩),
          .report (.success "Success: Saved defaults\n")) ∧
      step ⟨"/noid"⟩ (.text (Settings.render ⟨some "ark:/.sdk", none⟩)) .empty ["mint", "0"] =
        (.text (Settings.render ⟨some "ark:/.sdk", none⟩),
          .report (.fail (.refused (.foreign ⟨'a', 0⟩)))) := by
  constructor <;> decide +kernel

end

end Session

end OpaqueId
