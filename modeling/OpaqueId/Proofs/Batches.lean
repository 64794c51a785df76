import OpaqueId.Proofs.Decoding
import OpaqueId.Proofs.Printing
import OpaqueId.Proofs.Ranges

/-! # Batches: many values or identifiers on one command line

    Minting and decoding are all or nothing (`AllOrNothing`): they print what
    came out of every item, in the order given, or else nothing, and fail as
    the first item that fails.  Both run one computation after the other, each
    with its item beside the result, so one lemma covers them
    (`allOrNothing_ofExcept`).

    Validating never stops early.  It prints a row for every identifier and
    counts the invalid ones afterwards (`Verdict`, `stepOn_validate`).  A batch
    that it finds nothing wrong with can fail to be decoded only for a value
    that is too large.

    Main statement: `batches_reported`. -/

namespace OpaqueId

/-- Words that begin a message keep it longer than a dash. -/
theorem one_lt_length_append {first : String} (h : 1 < first.length) (rest : String) :
    1 < (first ++ rest).length := by
  rw [String.length_append]
  omega

/-- No rejection is worded as a dash. -/
theorem Rejection.message_ne_dash (r : Rejection) : r.message ≠ "-" := by
  have hlength : 1 < r.message.length := by
    cases r with
    | wrongStem expected =>
        exact one_lt_length_append (one_lt_length_append (by decide) expected) "'"
    | checkMismatch expected actual =>
        have hwords : 1 < "check symbol mismatch: expected '".length := by decide
        have hexpected := one_lt_length_append hwords (String.singleton expected)
        have hgot := one_lt_length_append hexpected "', got '"
        exact one_lt_length_append (one_lt_length_append hgot (String.singleton actual)) "'"
    | malformed | overflow => decide
  intro h
  rw [h] at hlength
  exact absurd hlength (by decide)

/-- A text that is accepted but not decoded stands for too large a value. -/
theorem Scheme.eq_overflow_of_check {s : Scheme} {text : String} {rejection : Rejection}
    (hcheck : s.check text = .ok ()) (h : s.decode text = .error rejection) :
    rejection = .overflow := by
  obtain ⟨digits, -, -, hdecode⟩ := exists_numeral_of_check hcheck
  rw [hdecode] at h
  split at h <;> cases h
  rfl

namespace Session

open CommandLine (Format Query)
open Except (FailsFirst labelled)

theorem Report.exitCode_eq_one_iff (r : Report) : r.exitCode = 1 ↔ r.failure.isSome = true := by
  rw [exitCode]
  cases r.failure with
  | none => exact iff_of_false Nat.zero_ne_one Bool.false_ne_true
  | some failure => exact iff_of_true rfl rfl

/-! ## All or nothing -/

/-- A report prints what came out of every item, or it fails as the first item that
    fails and prints nothing. -/
structure AllOrNothing {α β ε : Type} (f : α → Except ε β) (failure : α → ε → Failure)
    (output : List β → String) (items : List α) (r : Report) : Prop where
  exitCode : r.exitCode = 0 ↔ ∀ x ∈ items, ∃ b, f x = .ok b
  all : r.exitCode = 0 → ∃ results, List.Forall₂ (fun x b => f x = .ok b) items results ∧
    r = ⟨output results, none⟩
  nothing : r.exitCode ≠ 0 → ∃ x e, FailsFirst f items x e ∧ r = ⟨"", some (failure x e)⟩

section

variable {α β ε : Type} {f : α → Except ε β} {failure : α → ε → Failure}
  {output : List β → String} {items : List α} {r : Report}

/-- What comes out of all items is printed. -/
theorem AllOrNothing.eq_success (h : AllOrNothing f failure output items r) {results : List β}
    (hresults : List.Forall₂ (fun x b => f x = .ok b) items results) :
    r = ⟨output results, none⟩ := by
  have hexit : r.exitCode = 0 := h.exitCode.mpr (Except.exists_forall₂_iff.mp ⟨results, hresults⟩)
  obtain ⟨results', hresults', hr⟩ := h.all hexit
  cases (Except.mapM_eq_ok_iff.mpr hresults).symm.trans (Except.mapM_eq_ok_iff.mpr hresults')
  exact hr

/-- What fails first is reported. -/
theorem AllOrNothing.eq_fail (h : AllOrNothing f failure output items r) {x : α} {e : ε}
    (hfirst : FailsFirst f items x e) : r = ⟨"", some (failure x e)⟩ := by
  have hexit : r.exitCode ≠ 0 := fun hzero => hfirst.not_all (h.exitCode.mp hzero)
  obtain ⟨x', e', hfirst', hr⟩ := h.nothing hexit
  obtain ⟨rfl, rfl⟩ := hfirst.unique hfirst'
  exact hr

/-- Computations that run one after the other are all or nothing. -/
theorem allOrNothing_ofExcept {text : List (α × β) → String}
    (htext : ∀ results, items.length = results.length → text (items.zip results) = output results) :
    AllOrNothing f failure output items
      (.ofExcept ((items.mapM (labelled f failure)).map text)) := by
  rcases Except.forall₂_or_failsFirst f items with ⟨results, hresults⟩ | ⟨x, e, hfirst⟩
  · rw [Except.mapM_labelled_of_forall₂ hresults]
    refine ⟨iff_of_true rfl (Except.exists_forall₂_iff.mp ⟨results, hresults⟩),
      fun _ => ⟨results, hresults, ?_⟩, fun h => absurd rfl h⟩
    rw [← htext results hresults.length_eq]
    rfl
  · rw [Except.mapM_labelled_of_failsFirst hfirst]
    exact ⟨iff_of_false (fun h => (nomatch h)) hfirst.not_all, fun h => (nomatch h),
      fun _ => ⟨x, e, hfirst, rfl⟩⟩

end

/-! ## A row for every identifier -/

/-- What validation says of an identifier: whether it is valid, and why if it is not. -/
inductive Verdict (s : Scheme) (id : String) : (valid : Bool) → (reason : String) → Prop where
  | accepted : s.check id = .ok () → Verdict s id true "-"
  | rejected {rejection : Rejection} : s.check id = .error rejection →
      Verdict s id false rejection.message

/-- Either part of a verdict tells whether the identifier is accepted. -/
theorem Verdict.accepted_iff {s : Scheme} {id : String} {valid : Bool} {reason : String}
    (h : Verdict s id valid reason) :
    (valid = true ↔ s.check id = .ok ()) ∧ (reason = "-" ↔ s.check id = .ok ()) := by
  cases h with
  | accepted hcheck => exact ⟨iff_of_true rfl hcheck, iff_of_true rfl hcheck⟩
  | @rejected rejection hcheck =>
      have hne : s.check id ≠ .ok () := by
        rw [hcheck]
        exact fun h => (nomatch h)
      exact ⟨iff_of_false Bool.false_ne_true hne, iff_of_false rejection.message_ne_dash hne⟩

/-- The verdict on an identifier. -/
def verdictOn (s : Scheme) (id : String) : Bool × String :=
  ((validateOne s id).2.isNone, reasonText (validateOne s id).2)

/-- The verdict that is computed is the right one. -/
theorem verdict_verdictOn (s : Scheme) (id : String) :
    Verdict s id (verdictOn s id).1 (verdictOn s id).2 := by
  cases hcheck : s.check id with
  | ok =>
      simp only [verdictOn, validateOne, hcheck]
      exact .accepted hcheck
  | error rejection =>
      simp only [verdictOn, validateOne, hcheck]
      exact .rejected hcheck

theorem validateOne_eq (s : Scheme) (id : String) :
    validateOne s id = (id, (validateOne s id).2) := by
  rw [validateOne]
  cases s.check id <;> rfl

/-- Validating shows the verdicts on all identifiers. -/
theorem showsVerdicts_validateOne (s : Scheme) (ids : List String) (format : Format) :
    ShowsVerdicts ids (ids.map (verdictOn s)) format
      (showValidated (ids.map (validateOne s)) format) := by
  have hshown := showsVerdicts (ids.map (validateOne s)) format
  have hids : (ids.map (validateOne s)).map (·.1) = ids := by
    rw [List.map_map]
    refine (List.map_congr_left fun id _ => ?_).trans (List.map_id ids)
    rw [Function.comp_apply, validateOne_eq]
    rfl
  rw [hids, List.map_map] at hshown
  exact hshown

/-- The failure of a batch of verdicts, if there is one. -/
def verdictsFailure? (verdicts : List (Bool × String)) : Option Failure :=
  let invalid := verdicts.countP fun verdict => !verdict.1
  if invalid = 0 then none else some (.invalidIdentifiers invalid verdicts.length)

/-- Validation shows its verdicts, and fails afterwards if it fails. -/
theorem validate_eq (s : Scheme) (ids : List String) (format : Format) :
    validate s ids format =
      ⟨showValidated (ids.map (validateOne s)) format,
        verdictsFailure? (ids.map (verdictOn s))⟩ := by
  have hinvalid : (fun row : Validated => row.2.isSome) ∘ validateOne s =
      (fun verdict : Bool × String => !verdict.1) ∘ verdictOn s := by
    funext id
    simp [verdictOn]
  simp only [validate, verdictsFailure?, List.countP_map, hinvalid, List.length_map]

/-- Some verdict is a failure exactly if some identifier is not accepted. -/
theorem verdictsFailure?_isSome_iff (s : Scheme) (ids : List String) :
    (verdictsFailure? (ids.map (verdictOn s))).isSome = true ↔
      ∃ id ∈ ids, s.check id ≠ .ok () := by
  have hcount : (ids.map (verdictOn s)).countP (fun verdict => !verdict.1) = 0 ↔
      ∀ id ∈ ids, s.check id = .ok () := by
    simp only [List.countP_eq_zero, List.forall_mem_map, Bool.not_eq_true', Bool.not_eq_false]
    exact forall₂_congr fun id _ => (verdict_verdictOn s id).accepted_iff.1
  rw [verdictsFailure?]
  by_cases hvalid : ∀ id ∈ ids, s.check id = .ok ()
  · rw [if_pos (hcount.mpr hvalid)]
    refine iff_of_false Bool.false_ne_true ?_
    rintro ⟨id, hid, hne⟩
    exact hne (hvalid id hid)
  · rw [if_neg fun h => hvalid (hcount.mp h)]
    refine iff_of_true rfl ?_
    simpa only [not_forall, exists_prop] using hvalid

/-! ## Batches as command lines -/

section

variable [PatternCompiler] (p : Place) {d : Disk} {file : StoredFile}
  {environment : Settings} {args : List String} {format : Format} {s : Scheme}

/-- A list of values is all or nothing. -/
theorem mint_allOrNothing {values : List Nat} (hne : values ≠ [])
    (h : Asks d file environment args (.mint (.values values)) format s) :
    ∃ r, stepOn p d file environment args = (file, .report r) ∧
      AllOrNothing s.mint (fun _ => .refused) (mintedText values · format) values r := by
  obtain ⟨given, saved, verbose, hparse, hload, hscheme⟩ := h
  refine ⟨_, stepOn_mint p hparse hload hscheme, ?_⟩
  rw [mintSequence_values hne]
  exact allOrNothing_ofExcept fun _ hlength => showMinted_zip hlength format

/-- What a command line leaves and reports that decodes. -/
theorem stepOn_decode {ids : List String}
    (h : Asks d file environment args (.decode ids) format s) :
    stepOn p d file environment args =
      (file, .report (.ofExcept ((ids.mapM (decodeOne s)).map (showDecoded · format)))) := by
  obtain ⟨given, saved, verbose, hparse, hload, hscheme⟩ := h
  rw [stepOn_ask p d file environment args hparse hload]
  simp only [answer, hscheme]
  show (file, Outcome.report (.ofExcept ((ids.mapM (decodeOne s)).bind _))) = _
  cases ids.mapM (decodeOne s) <;> rfl

/-- A list of identifiers to be decoded is all or nothing. -/
theorem decode_allOrNothing {ids : List String}
    (h : Asks d file environment args (.decode ids) format s) :
    ∃ r, stepOn p d file environment args = (file, .report r) ∧
      AllOrNothing s.decode .undecodable (decodedText ids · format) ids r :=
  ⟨_, stepOn_decode p h,
    allOrNothing_ofExcept fun _ hlength => showDecoded_zip hlength format⟩

/-- Of identifiers that are all accepted, one can only stand for too large a value. -/
theorem failure_of_decode {ids : List String}
    (h : Asks d file environment args (.decode ids) format s)
    (hvalid : ∀ id ∈ ids, s.check id = .ok ()) {output : String} {failure : Failure}
    (hstep : (stepOn p d file environment args).2 = .report ⟨output, some failure⟩) :
    ∃ id ∈ ids, failure = .undecodable id .overflow := by
  obtain ⟨r, hr, hbatch⟩ := decode_allOrNothing p h
  rw [hr] at hstep
  cases hstep
  obtain ⟨id, rejection, ⟨before, after, hids, -, hid⟩, hfail⟩ := hbatch.nothing Nat.one_ne_zero
  have hmem : id ∈ ids := by
    rw [hids]
    exact List.mem_append_right before (List.mem_cons_self ..)
  cases hfail
  rw [Scheme.eq_overflow_of_check (hvalid id hmem) hid]
  exact ⟨id, hmem, rfl⟩

/-- What a command line leaves and reports that validates. -/
theorem stepOn_validate {ids : List String}
    (h : Asks d file environment args (.validate ids) format s) :
    stepOn p d file environment args =
      (file, .report ⟨showValidated (ids.map (validateOne s)) format,
        verdictsFailure? (ids.map (verdictOn s))⟩) := by
  obtain ⟨given, saved, verbose, hparse, hload, hscheme⟩ := h
  rw [stepOn_ask p d file environment args hparse hload]
  simp only [answer, hscheme, validate_eq]

/-- Validating exits with 1 exactly if some identifier is not accepted. -/
theorem exitCode_validate_iff {ids : List String}
    (h : Asks d file environment args (.validate ids) format s) :
    (stepOn p d file environment args).2.exitCode = 1 ↔ ∃ id ∈ ids, s.check id ≠ .ok () := by
  rw [stepOn_validate p h, ← verdictsFailure?_isSome_iff]
  exact Report.exitCode_eq_one_iff _

/-- **Batches report every item or the first that fails.**  Minting and decoding
    succeed exactly if every item does and then print all results in order; else they
    print nothing and name the first item that fails and why.  Validating prints a row
    for every identifier in order, whatever it says, and fails afterwards with the
    number of invalid ones if there are any.  What it accepts as a whole fails to be
    decoded, on whatever command line, only for a value that is too large. -/
theorem batches_reported :
    (∀ values, values ≠ [] → Asks d file environment args (.mint (.values values)) format s →
      ∃ r, stepOn p d file environment args = (file, .report r) ∧
        AllOrNothing s.mint (fun _ => .refused) (mintedText values · format) values r) ∧
    (∀ ids, Asks d file environment args (.decode ids) format s →
      ∃ r, stepOn p d file environment args = (file, .report r) ∧
        AllOrNothing s.decode .undecodable (decodedText ids · format) ids r) ∧
    (∀ ids, Asks d file environment args (.validate ids) format s →
      (∃ verdicts output, List.Forall₂ (fun id v => Verdict s id v.1 v.2) ids verdicts ∧
        ShowsVerdicts ids verdicts format output ∧
        stepOn p d file environment args =
          (file, .report ⟨output, verdictsFailure? verdicts⟩)) ∧
      ((stepOn p d file environment args).2.exitCode = 1 ↔ ∃ id ∈ ids, s.check id ≠ .ok ()) ∧
      ((stepOn p d file environment args).2.exitCode = 0 →
        ∀ d' file' environment' args' format',
          Asks d' file' environment' args' (.decode ids) format' s → ∀ output failure,
          (stepOn p d' file' environment' args').2 = .report ⟨output, some failure⟩ →
          ∃ id ∈ ids, failure = .undecodable id .overflow)) ∧
    ∀ id valid reason, Verdict s id valid reason →
      (valid = true ↔ s.check id = .ok ()) ∧ (reason = "-" ↔ s.check id = .ok ()) := by
  refine ⟨fun values hne h => mint_allOrNothing p hne h,
    fun ids h => decode_allOrNothing p h, fun ids h => ⟨?_, ?_, ?_⟩,
    fun id valid reason h => h.accepted_iff⟩
  · refine ⟨ids.map (verdictOn s), _, ?_, showsVerdicts_validateOne s ids format,
      stepOn_validate p h⟩
    rw [List.forall₂_map_right_iff, List.forall₂_same]
    exact fun id _ => verdict_verdictOn s id
  · exact exitCode_validate_iff p h
  · intro hzero d' file' environment' args' format' h' output failure
    refine failure_of_decode p h' fun id hid => ?_
    -- one that is not accepted would have shown in the exit code
    by_contra hne
    rw [(exitCode_validate_iff p h).mpr ⟨id, hid, hne⟩] at hzero
    exact absurd hzero Nat.one_ne_zero

end

/-- The scheme `bc.sdk` over the default alphabet. -/
def smallSpecimen : Scheme := ⟨⟨"bc", .sequential, [.decimal], true⟩, .betanumeric, by decide⟩

section

open scoped SizeLimit

/-- A command line that gives the template `bc.sdk` asks about that scheme. -/
theorem asks_smallSpecimen (args : List String) {q : Query}
    (hparse : CommandLine.parse .empty ("-t" :: "bc.sdk" :: args) =
      .ok ⟨.ask q, .plain, ⟨some "bc.sdk", none⟩, false⟩) :
    Asks .sound .absent .empty ("-t" :: "bc.sdk" :: args) q .plain smallSpecimen :=
  ⟨_, .empty, _, hparse, rfl, rfl⟩

/-- Of three values `bc.sdk` refuses the second one, of three identifiers it does not
    decode the second one, and the validation of these exits with 1. -/
theorem smallSpecimen_batches :
    step ⟨"/noid"⟩ .absent .empty ["-t", "bc.sdk", "mint", "9", "10", "11"] =
        (.absent, .report ⟨"", some (.refused (.beyondCapacity 10 10))⟩) ∧
      step ⟨"/noid"⟩ .absent .empty ["-t", "bc.sdk", "decode", "bc03", "bc04", "xy"] =
        (.absent, .report ⟨"", some (.undecodable "bc04" (.checkMismatch '3' '4'))⟩) ∧
      (step ⟨"/noid"⟩ .absent .empty
        ["-t", "bc.sdk", "validate", "bc03", "bc04", "xy"]).2.exitCode = 1 := by
  refine ⟨?_, ?_, ?_⟩
  · have hminted : smallSpecimen.mint 9 = .ok "bc91" := by decide +kernel
    have hfirst : FailsFirst smallSpecimen.mint [9, 10, 11] 10 (.beyondCapacity 10 10) :=
      ⟨[9], [11], rfl, List.forall_mem_singleton.mpr ⟨_, hminted⟩, by decide +kernel⟩
    obtain ⟨hmints, -⟩ := batches_reported ⟨"/noid"⟩
    obtain ⟨r, hstep, hbatch⟩ := hmints [9, 10, 11] (by decide)
      (asks_smallSpecimen ["mint", "9", "10", "11"] rfl)
    rw [step, hstep, hbatch.eq_fail hfirst]
  · have hdecoded : smallSpecimen.decode "bc03" = .ok 0 := by decide +kernel
    have hfirst : FailsFirst smallSpecimen.decode ["bc03", "bc04", "xy"] "bc04"
        (.checkMismatch '3' '4') :=
      ⟨["bc03"], ["xy"], rfl, List.forall_mem_singleton.mpr ⟨_, hdecoded⟩, by decide +kernel⟩
    obtain ⟨-, hdecodes, -⟩ := batches_reported ⟨"/noid"⟩
    obtain ⟨r, hstep, hbatch⟩ := hdecodes ["bc03", "bc04", "xy"]
      (asks_smallSpecimen ["decode", "bc03", "bc04", "xy"] rfl)
    rw [step, hstep, hbatch.eq_fail hfirst]
  · obtain ⟨-, -, hvalidates, -⟩ := batches_reported ⟨"/noid"⟩
    obtain ⟨-, hexit, -⟩ := hvalidates ["bc03", "bc04", "xy"]
      (asks_smallSpecimen ["validate", "bc03", "bc04", "xy"] rfl)
    exact hexit.mpr ⟨"bc04", by decide, by decide +kernel⟩

end

end Session

end OpaqueId
