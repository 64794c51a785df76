import OpaqueId.Proofs.Carrying
import OpaqueId.Proofs.Pattern

/-! # Diagnosis: why a text is no identifier

    `Scheme.Judged` lists the answers to a text together with what each of
    them means, without a word about how they are found.  The answers exclude
    each other and one of them always applies, so `locate` gives an answer
    exactly if the text is judged so (`locate_eq_iff`).

    Main statement: `check_diagnosis`, which spells the meaning of the four
    answers of `check` out, and ties the shape to the scheme's pattern. -/

namespace OpaqueId

/-- There is nothing behind a start that the text does not have. -/
theorem Text.afterStart?_eq_none_iff (start text : List Char) :
    afterStart? start text = none ↔ ¬ start <+: text := by
  rw [Option.eq_none_iff_forall_ne_some]
  constructor
  · rintro h ⟨rest, rfl⟩
    exact h rest ((afterStart?_eq_some_iff _ _ _).mpr rfl)
  · intro h rest hrest
    exact h ⟨rest, ((afterStart?_eq_some_iff _ _ _).mp hrest).symm⟩

namespace Scheme

/-- What each answer to a text means. -/
inductive Judged (s : Scheme) (text : String) : Except Rejection (List Char) → Prop where
  | wrongStem : ¬ s.stem <+: text.toList →
      Judged s text (.error (.wrongStem s.template.stem))
  | misshapen (rest : List Char) : text.toList = s.stem ++ rest → ¬ s.ShapedRest rest →
      Judged s text (.error .malformed)
  | foreignStem (rest : List Char) : text.toList = s.stem ++ rest → s.ForeignStem →
      Judged s text (.error .malformed)
  | mismatch (code : List Char) (expected actual : Char) : s.template.checked = true →
      text.toList = s.stem ++ (code ++ [actual]) → s.Shaped code →
      actual ∈ s.alphabet.symbols →
      s.alphabet.checkSymbolOf (s.stem ++ code) = .ok expected → expected ≠ actual →
      Judged s text (.error (.checkMismatch expected actual))
  | accepted (code : List Char) : s.Shaped code → s.Carries text code →
      Judged s text (.ok code)

/-! ## Each meaning gives its answer -/

/-- Behind the stem only the rest of the text matters. -/
theorem locate_of_rest {s : Scheme} {text : String} {rest : List Char}
    (h : text.toList = s.stem ++ rest) : s.locate text = s.locateCode rest := by
  rw [locate, (Text.afterStart?_eq_some_iff _ _ _).mpr h]

/-- Without a check symbol the rest as a whole is the code. -/
theorem locateCode_unchecked {s : Scheme} (hchecked : s.template.checked = false)
    (rest : List Char) :
    s.locateCode rest = if s.allowsCode rest then .ok rest else .error .malformed := by
  rw [locateCode, if_neg (by rw [hchecked]; exact Bool.false_ne_true)]

/-- With a check symbol the last character is taken for it, and all that is in front for the
    code. -/
theorem locateCode_concat {s : Scheme} (hchecked : s.template.checked = true)
    (code : List Char) (actual : Char) :
    s.locateCode (code ++ [actual]) =
      if s.allowsCode code && s.alphabet.contains actual then s.verifyCheckSymbol code actual
      else .error .malformed := by
  rw [locateCode, if_pos hchecked, List.getLast?_concat, List.dropLast_concat]

theorem shapedRest_unchecked {s : Scheme} (hchecked : s.template.checked = false)
    (rest : List Char) : s.ShapedRest rest ↔ s.Shaped rest := by
  rw [ShapedRest, if_neg (by rw [hchecked]; exact Bool.false_ne_true)]

/-- A rest in shape ends in a symbol, behind a code in shape. -/
theorem shapedRest_checked {s : Scheme} (hchecked : s.template.checked = true)
    (rest : List Char) :
    s.ShapedRest rest ↔ ∃ code actual, rest = code ++ [actual] ∧ s.Shaped code ∧
      actual ∈ s.alphabet.symbols := by
  rw [ShapedRest, if_pos hchecked]

/-- A rest that is out of shape is malformed, and its check symbol is not looked at. -/
theorem locateCode_of_misshapen {s : Scheme} {rest : List Char} (h : ¬ s.ShapedRest rest) :
    s.locateCode rest = .error .malformed := by
  cases hchecked : s.template.checked with
  | false =>
      rw [shapedRest_unchecked hchecked, ← allowsCode_iff_shaped] at h
      rw [locateCode_unchecked hchecked, if_neg h]
  | true =>
      rw [shapedRest_checked hchecked] at h
      rcases List.eq_nil_or_concat rest with rfl | ⟨code, actual, rfl⟩
      · rw [locateCode, if_pos hchecked]
        rfl
      · rw [List.concat_eq_append] at h ⊢
        -- the last character is the only one that can be the check symbol
        rw [locateCode_concat hchecked, if_neg]
        intro hallowed
        rw [Bool.and_eq_true, allowsCode_iff_shaped, Alphabet.contains_iff_mem] at hallowed
        exact h ⟨code, actual, rfl, hallowed⟩

/-- Of a rest in shape only the check symbol is left to be verified. -/
theorem locateCode_of_shaped {s : Scheme} (hchecked : s.template.checked = true)
    {code : List Char} {actual : Char} (hshaped : s.Shaped code)
    (hactual : actual ∈ s.alphabet.symbols) :
    s.locateCode (code ++ [actual]) = s.verifyCheckSymbol code actual := by
  rw [locateCode_concat hchecked, if_pos]
  rw [Bool.and_eq_true, allowsCode_iff_shaped, Alphabet.contains_iff_mem]
  exact ⟨hshaped, hactual⟩

/-- Where the stem is foreign no check symbol is right. -/
theorem locateCode_of_foreignStem {s : Scheme} (h : s.ForeignStem) (rest : List Char) :
    s.locateCode rest = .error .malformed := by
  by_cases hrest : s.ShapedRest rest
  · obtain ⟨hchecked, c, hc, hforeign⟩ := h
    obtain ⟨code, actual, rfl, hshaped, hactual⟩ := (shapedRest_checked hchecked rest).mp hrest
    rw [locateCode_of_shaped hchecked hshaped hactual, verifyCheckSymbol]
    cases hsymbol : s.alphabet.checkSymbolOf (s.stem ++ code) with
    | error found => rfl
    | ok symbol =>
        have hall := (s.alphabet.exists_checkSymbolOf_iff _).mp ⟨symbol, hsymbol⟩
        exact absurd (hall c (List.mem_append_left _ hc)) hforeign
  · exact locateCode_of_misshapen hrest

/-- The answer that a text is judged to deserve is the one that it gets. -/
theorem Judged.locate_eq {s : Scheme} {text : String} {verdict : Except Rejection (List Char)}
    (h : s.Judged text verdict) : s.locate text = verdict := by
  cases h with
  | wrongStem hstem => rw [locate, (Text.afterStart?_eq_none_iff _ _).mpr hstem]
  | misshapen rest htext hrest => rw [locate_of_rest htext, locateCode_of_misshapen hrest]
  | foreignStem rest htext hstem => rw [locate_of_rest htext, locateCode_of_foreignStem hstem]
  | mismatch code expected actual hchecked htext hshaped hactual hsymbol hne =>
      rw [locate_of_rest htext, locateCode_of_shaped hchecked hshaped hactual,
        verifyCheckSymbol, hsymbol]
      exact if_neg hne
  | accepted code hshaped hcarries =>
      cases hchecked : s.template.checked with
      | false =>
          rw [carries_of_unchecked hchecked] at hcarries
          rw [locate_of_rest hcarries, locateCode_unchecked hchecked,
            if_pos ((allowsCode_iff_shaped s code).mpr hshaped)]
      | true =>
          obtain ⟨symbol, hsymbol, htext⟩ := (carries_of_checked hchecked text code).mp hcarries
          rw [List.append_assoc] at htext
          rw [locate_of_rest htext, locateCode_of_shaped hchecked hshaped
            (Alphabet.mem_of_checkSymbolOf hsymbol), verifyCheckSymbol, hsymbol]
          exact if_pos rfl

/-! ## One meaning always applies -/

/-- Every text is judged: first by its stem, then by its shape, then by its check symbol. -/
theorem exists_judged (s : Scheme) (text : String) : ∃ verdict, s.Judged text verdict := by
  by_cases hstem : s.stem <+: text.toList
  · obtain ⟨rest, htext⟩ := hstem
    by_cases hrest : s.ShapedRest rest
    · by_cases hforeign : s.ForeignStem
      · exact ⟨_, .foreignStem rest htext.symm hforeign⟩
      · cases hchecked : s.template.checked with
        | false =>
            rw [shapedRest_unchecked hchecked] at hrest
            exact ⟨_, .accepted rest hrest ((carries_of_unchecked hchecked _ _).mpr htext.symm)⟩
        | true =>
            obtain ⟨code, actual, rfl, hshaped, hactual⟩ :=
              (shapedRest_checked hchecked rest).mp hrest
            obtain ⟨id, hid⟩ := (exists_carries_iff hshaped.mem).mpr hforeign
            obtain ⟨expected, hsymbol, -⟩ := (carries_of_checked hchecked id code).mp hid
            -- a carrier of the code exists; only its last character can differ
            by_cases hsame : expected = actual
            · refine ⟨_, .accepted code hshaped ((carries_of_checked hchecked _ _).mpr ?_)⟩
              refine ⟨actual, hsame ▸ hsymbol, ?_⟩
              rw [← htext, List.append_assoc]
            · exact ⟨_, .mismatch code expected actual hchecked htext.symm hshaped hactual
                hsymbol hsame⟩
    · exact ⟨_, .misshapen rest htext.symm hrest⟩
  · exact ⟨_, .wrongStem hstem⟩

/-- **Answers are judgements.**  A text gets an answer exactly if it is judged so, since no
    text is judged in two ways. -/
theorem locate_eq_iff (s : Scheme) (text : String) (verdict : Except Rejection (List Char)) :
    s.locate text = verdict ↔ s.Judged text verdict := by
  constructor
  · rintro rfl
    obtain ⟨verdict, h⟩ := s.exists_judged text
    rw [h.locate_eq]
    exact h
  · exact Judged.locate_eq

/-- A code is found exactly if it is shaped and carried by the text. -/
theorem locate_eq_ok_iff (s : Scheme) (text : String) (code : List Char) :
    s.locate text = .ok code ↔ s.Shaped code ∧ s.Carries text code := by
  rw [locate_eq_iff]
  constructor
  · intro h
    cases h with
    | accepted _ hshaped hcarries => exact ⟨hshaped, hcarries⟩
  · rintro ⟨hshaped, hcarries⟩
    exact .accepted code hshaped hcarries

/-- Rejections are passed on as they are. -/
theorem check_eq_error_iff (s : Scheme) (text : String) (rejection : Rejection) :
    s.check text = .error rejection ↔ s.Judged text (.error rejection) := by
  rw [← locate_eq_iff, check]
  cases s.locate text with
  | error e =>
      show (.error e : Except Rejection Unit) = .error rejection ↔ _
      rw [Except.error.injEq, Except.error.injEq]
  | ok code =>
      constructor
      · intro h
        exact nomatch h
      · intro h
        exact nomatch h

/-- Accepted are the texts that carry a code in shape. -/
theorem check_eq_ok_iff (s : Scheme) (text : String) :
    s.check text = .ok () ↔ ∃ code, s.Shaped code ∧ s.Carries text code := by
  simp only [← locate_eq_ok_iff, check]
  cases s.locate text with
  | error e =>
      constructor
      · intro h
        exact nomatch h
      · rintro ⟨code, h⟩
        exact nomatch h
  | ok code => exact ⟨fun _ => ⟨code, rfl⟩, fun _ => rfl⟩

/-! ## The four answers -/

/-- An accepted text ends in the right check symbol, if one is asked for. -/
theorem exists_carries_rest_iff {s : Scheme} {text : String} {rest : List Char}
    (htext : text.toList = s.stem ++ rest) :
    (∃ code, s.Shaped code ∧ s.Carries text code) ↔
      s.ShapedRest rest ∧ (s.template.checked = true → ∃ code actual,
        rest = code ++ [actual] ∧ s.alphabet.checkSymbolOf (s.stem ++ code) = .ok actual) := by
  cases hchecked : s.template.checked with
  | false =>
      simp only [carries_of_unchecked hchecked, shapedRest_unchecked hchecked, htext,
        List.append_cancel_left_eq]
      constructor
      · rintro ⟨code, hshaped, rfl⟩
        exact ⟨hshaped, fun h => nomatch h⟩
      · rintro ⟨hshaped, -⟩
        exact ⟨rest, hshaped, rfl⟩
  | true =>
      simp only [carries_of_checked hchecked, shapedRest_checked hchecked, htext,
        List.append_assoc, List.append_cancel_left_eq]
      constructor
      · rintro ⟨code, hshaped, actual, hsymbol, rfl⟩
        have hactual := Alphabet.mem_of_checkSymbolOf hsymbol
        exact ⟨⟨code, actual, rfl, hshaped, hactual⟩, fun _ => ⟨code, actual, rfl, hsymbol⟩⟩
      · rintro ⟨⟨code, actual, rfl, hshaped, -⟩, h⟩
        obtain ⟨code', actual', hsame, hsymbol⟩ := h trivial
        obtain ⟨rfl, hactual⟩ := List.append_inj' hsame rfl
        exact ⟨code, hshaped, actual', hsymbol, hsame⟩

theorem check_eq_wrongStem_iff (s : Scheme) (text : String) :
    s.check text = .error (.wrongStem s.template.stem) ↔ ¬ s.stem <+: text.toList := by
  rw [check_eq_error_iff]
  constructor
  · intro h
    cases h with
    | wrongStem hstem => exact hstem
  · exact .wrongStem

/-- Malformed is a rest out of shape, and any rest behind a foreign stem. -/
theorem check_eq_malformed_iff {s : Scheme} {text : String} {rest : List Char}
    (htext : text.toList = s.stem ++ rest) :
    s.check text = .error .malformed ↔ ¬ s.ShapedRest rest ∨ s.ForeignStem := by
  rw [check_eq_error_iff]
  constructor
  · intro h
    cases h with
    | misshapen rest' htext' hrest =>
        -- the stem can be taken off in one way only
        rw [List.append_cancel_left (htext.symm.trans htext')]
        exact Or.inl hrest
    | foreignStem rest' htext' hstem => exact Or.inr hstem
  · rintro (hrest | hstem)
    · exact .misshapen rest htext hrest
    · exact .foreignStem rest htext hstem

/-- A mismatch names the check symbol of stem and code, and the other symbol in its
    place. -/
theorem check_eq_mismatch_iff {s : Scheme} {text : String} {rest : List Char}
    (htext : text.toList = s.stem ++ rest) (expected actual : Char) :
    s.check text = .error (.checkMismatch expected actual) ↔
      s.ShapedRest rest ∧ s.template.checked = true ∧ ∃ code, rest = code ++ [actual] ∧
        s.alphabet.checkSymbolOf (s.stem ++ code) = .ok expected ∧ expected ≠ actual := by
  rw [check_eq_error_iff]
  constructor
  · intro h
    cases h with
    | mismatch code _ _ hchecked htext' hshaped hactual hsymbol hne =>
        have hrest := List.append_cancel_left (htext.symm.trans htext')
        exact ⟨(shapedRest_checked hchecked rest).mpr ⟨code, actual, hrest, hshaped, hactual⟩,
          hchecked, code, hrest, hsymbol, hne⟩
  · rintro ⟨hrest, hchecked, code, rfl, hsymbol, hne⟩
    obtain ⟨code', actual', hsame, hshaped, hactual⟩ :=
      (shapedRest_checked hchecked _).mp hrest
    obtain ⟨rfl, hlast⟩ := List.append_inj' hsame rfl
    obtain rfl := List.singleton_inj.mp hlast
    exact .mismatch code expected actual hchecked htext hshaped hactual hsymbol hne

/-- **The four answers of `check`.**  A text that does not begin with the stem
    is answered with the stem.  Of the others, those whose rest is not in shape
    are malformed, and so are all where the stem is foreign; a shaped rest with
    a check symbol other than that of stem and code is a mismatch between the
    two, and everything else is accepted.  In shape are exactly the texts that
    the scheme's pattern matches. -/
theorem check_diagnosis (s : Scheme) (text : String) :
    (s.check text = .error (.wrongStem s.template.stem) ↔ ¬ s.stem <+: text.toList) ∧
    ∀ rest, text.toList = s.stem ++ rest →
      (s.check text = .error .malformed ↔ ¬ s.ShapedRest rest ∨ s.ForeignStem) ∧
      (∀ expected actual, s.check text = .error (.checkMismatch expected actual) ↔
        s.ShapedRest rest ∧ s.template.checked = true ∧ ∃ code, rest = code ++ [actual] ∧
          s.alphabet.checkSymbolOf (s.stem ++ code) = .ok expected ∧ expected ≠ actual) ∧
      (s.check text = .ok () ↔
        s.ShapedRest rest ∧ (s.template.checked = true → ∃ code actual,
          rest = code ++ [actual] ∧ s.alphabet.checkSymbolOf (s.stem ++ code) = .ok actual)) ∧
      (s.ShapedRest rest ↔ text.toList ∈ s.pattern.matches') := by
  refine ⟨s.check_eq_wrongStem_iff text, fun rest htext => ⟨?_, ?_, ?_, ?_⟩⟩
  · exact check_eq_malformed_iff htext
  · exact check_eq_mismatch_iff htext
  · rw [check_eq_ok_iff, exists_carries_rest_iff htext]
  · rw [htext, shapedRest_iff_mem_pattern]

/-- The scheme `bc.zedk` over the default alphabet. -/
def specimen : Scheme := ⟨⟨"bc", .extensible, [.extended, .decimal], true⟩, .betanumeric,
  by decide⟩

theorem specimen_stem_mem : ∀ c ∈ specimen.stem, c ∈ specimen.alphabet.symbols := by
  have hstem : specimen.stem = ['b', 'c'] := by decide +kernel
  rw [hstem, List.forall_mem_cons, List.forall_mem_singleton]
  decide

/-- In `bc.zedk` the text `bc100t` has the right shape and a wrong check symbol. -/
theorem specimen_mismatch :
    specimen.check "bc100t" = .error (.checkMismatch '6' 't') ∧
      specimen.ShapedRest ['1', '0', '0', 't'] ∧ ¬ specimen.ForeignStem ∧
      "bc100t".toList ∈ specimen.pattern.matches' := by
  have htext : "bc100t".toList = specimen.stem ++ ['1', '0', '0', 't'] := by decide +kernel
  have hcheck : specimen.check "bc100t" = .error (.checkMismatch '6' 't') := by decide +kernel
  obtain ⟨hmalformed, hmismatch, -, hpattern⟩ :=
    (check_diagnosis specimen "bc100t").2 _ htext
  have hshaped := ((hmismatch '6' 't').mp hcheck).1
  refine ⟨hcheck, hshaped, fun hforeign => ?_, hpattern.mp hshaped⟩
  have hother := hmalformed.mpr (Or.inr hforeign)
  rw [hcheck] at hother
  exact nomatch hother

end Scheme

end OpaqueId
