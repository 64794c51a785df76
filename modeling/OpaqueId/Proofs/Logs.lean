import OpaqueId.Proofs.Ranges
import OpaqueId.Session.Log

/-! # Logs: what the error stream shows besides failures

    A query that is answered logs that the file was loaded, if there is one,
    and then what can be told from the settings alone (`logOn_ask`): the place
    of the file and the file itself are in the first event and nowhere else.
    None of its events is a warning: neither the loading, nor any item that is
    minted, decoded or judged (`severity_queryLog`).  A range of values is no
    exception, since it logs what the list of its values logs
    (`sequenceLog_range`).  So the error stream has no log unless the command
    line or the environment asks for one (`errorStream_quiet`). -/

namespace OpaqueId.Session

open CommandLine (Query Sequence Format numberLimit)

/-! ## Which events are written -/

namespace Logging

variable (l : Logging) {verbose : Bool} {log : List Event}

/-- Events that are not written leave the lines as they are, wherever they come first. -/
theorem text_append_of_hidden (h : ∀ e ∈ log, l.shows verbose e = false) (later : List Event) :
    l.text verbose (log ++ later) = l.text verbose later := by
  have hnone : log.filter (l.shows verbose) = [] :=
    List.filter_eq_nil_iff.mpr fun e he => by rw [h e he]; exact Bool.false_ne_true
  rw [text, List.filter_append, hnone, List.nil_append, text]

/-- Where nobody asks for a log, only warnings are written. -/
theorem shows_eq_false (hfilter : l.filter? = none) {e : Event} (h : e.severity ≠ .warn) :
    l.shows false e = false := by
  rw [shows, hfilter]
  cases hseverity : e.severity with
  | trace | debug => simp [Severity.rank]
  | warn => exact absurd hseverity h

/-- Where nobody asks for a log, one without warnings is not written at all. -/
theorem text_of_no_warning (hfilter : l.filter? = none)
    (h : ∀ e ∈ log, e.severity ≠ .warn) : l.text false log = "" := by
  have htext := l.text_append_of_hidden (fun e he => l.shows_eq_false hfilter (h e he)) []
  rw [List.append_nil] at htext
  rw [htext]
  rfl

end Logging

/-! ## Severities -/

theorem severity_mintLog (s : Scheme) (value : Nat) :
    ∀ e ∈ s.mintLog value, e.severity ≠ .warn := by
  rw [Scheme.mintLog]
  cases s.mint value with
  | error refusal => exact List.forall_mem_nil _
  | ok id => exact List.forall_mem_singleton.mpr (by rintro ⟨⟩)

/-- Judging a text tells what is wrong with it, and does not warn. -/
theorem severity_checkLog (s : Scheme) (text : String) :
    ∀ e ∈ s.checkLog text, e.severity ≠ .warn := by
  rw [Scheme.checkLog]
  split
  · exact List.forall_mem_singleton.mpr (by rintro ⟨⟩)
  · exact List.forall_mem_singleton.mpr (by rintro ⟨⟩)
  · exact List.forall_mem_nil _
  · exact List.forall_mem_nil _
  · exact List.forall_mem_nil _

/-- What holds of the events of every item holds of those of a list of items. -/
theorem forall_mem_logUntil {α β ε : Type} {f : α → Except ε β} {log : α → List Event}
    {P : Event → Prop} (h : ∀ x, ∀ e ∈ log x, P e) (xs : List α) :
    ∀ e ∈ logUntil f log xs, P e := by
  induction xs with
  | nil => exact List.forall_mem_nil _
  | cons x xs ih =>
      rw [logUntil]
      cases f x with
      | error _ => exact h x
      | ok _ => exact List.forall_mem_append.mpr ⟨h x, ih⟩

theorem severity_validateLog (s : Scheme) (id : String) :
    ∀ e ∈ validateLog s id, e.severity ≠ .warn := by
  rw [validateLog]
  cases s.check id with
  | ok _ => exact severity_checkLog s id
  | error rejection =>
      exact List.forall_mem_append.mpr
        ⟨severity_checkLog s id, List.forall_mem_singleton.mpr (by rintro ⟨⟩)⟩

/-! ## Ranges -/

/-- A range of values logs what the list of its values logs. -/
theorem rangeLog_eq (s : Scheme) (start count : Nat) :
    rangeLog s start count = logUntil s.mint s.mintLog (List.range' start count) := by
  induction count generalizing start with
  | zero => rfl
  | succ count ih =>
      rw [rangeLog, List.range'_succ, logUntil, ih]
      cases s.mint start <;> rfl

/-- So both forms of a sequence log the same, if the range is short enough. -/
theorem sequenceLog_range {start count : Nat} (hend : start + count < numberLimit)
    (s : Scheme) :
    sequenceLog s (.range start count) = sequenceLog s (.values (List.range' start count)) := by
  show (if start + count < numberLimit then rangeLog s start count else []) = _
  rw [if_pos hend, rangeLog_eq]
  rfl

/-- A sequence does not warn, whichever of its values fails. -/
theorem severity_sequenceLog (s : Scheme) (sequence : Sequence) :
    ∀ e ∈ sequenceLog s sequence, e.severity ≠ .warn := by
  cases sequence with
  | values values => exact forall_mem_logUntil (severity_mintLog s) values
  | range start count =>
      -- a range that is too long logs nothing, any other is a list of values
      by_cases hend : start + count < numberLimit
      · rw [sequenceLog_range hend]
        exact forall_mem_logUntil (severity_mintLog s) _
      · rw [sequenceLog, if_neg hend]
        exact List.forall_mem_nil _

/-! ## Queries -/

section

variable [PatternCompiler]

/-- What holds of the first event and of those behind it holds of all. -/
theorem forall_mem_schemeLog {settings : Settings} {further : Scheme → List Event}
    (h : ∀ s, ∀ e ∈ further s, e.severity ≠ .warn) :
    ∀ e ∈ schemeLog settings further, e.severity ≠ .warn := by
  rw [schemeLog]
  cases settings.resolveScheme with
  | error _ => exact List.forall_mem_nil _
  | ok s => exact List.forall_mem_cons.mpr ⟨by rintro ⟨⟩, h s⟩

/-- No query warns. -/
theorem severity_queryLog (settings : Settings) (q : Query) :
    ∀ e ∈ queryLog settings q, e.severity ≠ .warn := by
  cases q with
  | inspect => exact forall_mem_schemeLog fun s => severity_mintLog s 0
  | mint sequence => exact forall_mem_schemeLog fun s => severity_sequenceLog s sequence
  | validate ids =>
      refine forall_mem_schemeLog fun s e he => ?_
      obtain ⟨id, -, he⟩ := List.mem_flatMap.mp he
      exact severity_validateLog s id e he
  | decode ids =>
      exact forall_mem_schemeLog fun s => forall_mem_logUntil (severity_checkLog s) ids
  | checkSymbol _ | savedSettings | savedPlace => exact List.forall_mem_nil _

omit [PatternCompiler] in
/-- A file that has been loaded is nothing to warn of. -/
theorem severity_loadLog (p : Place) (d : Disk) (file : StoredFile) :
    ∀ e ∈ loadLog p d file, e.severity ≠ .warn := by
  rw [loadLog]
  split
  · exact List.forall_mem_singleton.mpr (by rintro ⟨⟩)
  · exact List.forall_mem_nil _

variable (p : Place) {d : Disk} {file : StoredFile} {environment given saved : Settings}
  {args : List String} {q : Query} {format : Format} {verbose : Bool}

/-- A query that is answered logs that the file was loaded, and then what the settings say. -/
theorem logOn_ask
    (hparse : CommandLine.parse environment args = .ok ⟨.ask q, format, given, verbose⟩)
    (hload : d.load file = .ok saved) :
    logOn p d file environment args = loadLog p d file ++ queryLog (given.orElse saved) q := by
  rw [logOn, hparse]
  simp only [logOf, hload]

/-- The error stream of a query that is answered: the log, and why it fails if it does. -/
theorem errorStream_ask (l : Logging)
    (hparse : CommandLine.parse environment args = .ok ⟨.ask q, format, given, verbose⟩)
    (hload : d.load file = .ok saved) :
    errorStream l p d file environment args =
      l.text verbose (loadLog p d file ++ queryLog (given.orElse saved) q) ++
        (answer p format given saved q).errorText p := by
  rw [errorStream, hparse]
  simp only [logOf, carryOut, hload]

/-- The error stream of a query over a file that is not loaded: only what is printed about
    that, since nothing is logged before. -/
theorem errorStream_unloaded (l : Logging) {fault : StoredFile.Fault}
    (hparse : CommandLine.parse environment args = .ok ⟨.ask q, format, given, verbose⟩)
    (hload : d.load file = .error fault) :
    errorStream l p d file environment args = (Report.fail (.file fault)).errorText p := by
  have hnothing : l.text verbose [] = "" := rfl
  rw [errorStream, hparse]
  simp only [logOf, carryOut, hload]
  rw [hnothing, String.empty_append]

/-- **No query writes a log unasked.**  Where neither the command line nor the environment
    asks for a log, the error stream of a query that is answered is what is printed about
    its failure, and empty if it succeeds. -/
theorem errorStream_quiet {l : Logging} (hfilter : l.filter? = none)
    (hparse : CommandLine.parse environment args = .ok ⟨.ask q, format, given, false⟩)
    (hload : d.load file = .ok saved) :
    errorStream l p d file environment args = (answer p format given saved q).errorText p := by
  have hsilent : l.text false (loadLog p d file ++ queryLog (given.orElse saved) q) = "" :=
    l.text_of_no_warning hfilter
      (List.forall_mem_append.mpr ⟨severity_loadLog p d file, severity_queryLog _ q⟩)
  rw [errorStream_ask p l hparse hload, hsilent, String.empty_append]

end

end OpaqueId.Session
