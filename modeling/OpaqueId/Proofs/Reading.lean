import OpaqueId.Proofs.Grammar

/-! # Reading: the template or the first fault of a text

    The reader does not look for a division of its text into parts.  It takes
    the last dot, one letter, and a `k` at the end if there is one, and then
    reads class by class.  Each of these steps is described by what it finds
    (`splitAtLastDot_cases`, `stripCheckMark_cases`, `mapM_readClass_cases`).

    `Fault.Found` says for each fault what it is about, whatever else may be
    wrong with the text, and `FirstFault` picks the one that is looked for
    first.  `parse_cases` walks through the reader once: either the template
    that it returns spells the text, or the fault that it names is the first
    one.  A text that is spelled by parts has no fault and no other parts, so
    both answers are equivalences (`parse_eq_ok_iff`, `parse_eq_error_iff`).

    Main statement: `parse_grammar`. -/

namespace OpaqueId

/-! ## What each step finds -/

/-- The scan divides a text at its last dot, and gives up on a text without one. -/
theorem splitAtLastDot_cases (text : List Char) :
    (splitAtLastDot text = none ∧ '.' ∉ text) ∨
      ∃ stem mask, splitAtLastDot text = some (stem, mask) ∧ text = stem ++ '.' :: mask ∧
        '.' ∉ mask := by
  unfold splitAtLastDot
  extract_lets step
  -- from the right, the scan holds the whole text until it meets a dot, and the
  -- two parts from then on
  have hscan : (text.foldr step (.inl []) = .inl text ∧ '.' ∉ text) ∨
      ∃ stem mask, text.foldr step (.inl []) = .inr (stem, mask) ∧
        text = stem ++ '.' :: mask ∧ '.' ∉ mask := by
    induction text with
    | nil => exact Or.inl ⟨rfl, List.not_mem_nil⟩
    | cons c text ih =>
        rw [List.foldr_cons]
        rcases ih with ⟨hheld, hmem⟩ | ⟨stem, mask, hheld, rfl, hmem⟩
        · rw [hheld]
          by_cases hc : c = '.'
          · exact Or.inr ⟨[], text, if_pos hc, by rw [hc]; rfl, hmem⟩
          · refine Or.inl ⟨if_neg hc, fun hdot => ?_⟩
            rcases List.mem_cons.mp hdot with heq | hdot
            · exact hc heq.symm
            · exact hmem hdot
        · rw [hheld]
          exact Or.inr ⟨c :: stem, mask, rfl, rfl, hmem⟩
  rcases hscan with ⟨hheld, hmem⟩ | ⟨stem, mask, hheld, htext, hmem⟩
  · exact Or.inl ⟨by rw [hheld], hmem⟩
  · exact Or.inr ⟨stem, mask, by rw [hheld], htext, hmem⟩

/-- Taking the check mark off leaves the classes, and says whether there was one. -/
theorem stripCheckMark_cases (text : List Char) :
    ∃ classes checked, stripCheckMark text = (classes, checked) ∧ Leaves text classes ∧
      text = classes ++ checkMark checked := by
  unfold stripCheckMark
  by_cases hlast : text.getLast? = some 'k'
  · obtain ⟨classes, rfl⟩ := List.getLast?_eq_some_iff.mp hlast
    refine ⟨classes, true, ?_, Or.inl rfl, rfl⟩
    rw [if_pos hlast, List.dropLast_concat]
  · exact ⟨text, false, if_neg hlast, Or.inr ⟨rfl, hlast⟩, (List.append_nil text).symm⟩

namespace Template

/-- Reading letters either gives the classes that they stand for or stops at the
    first one that stands for none. -/
theorem mapM_readClass_cases (letters : List Char) :
    (∃ mask, letters.mapM readClass = .ok mask ∧ mask.map SymbolClass.toChar = letters) ∨
      ∃ c, letters.mapM readClass = .error (.unknownClass c) ∧
        letters.find? (· ∉ SymbolClass.letters) = some c := by
  induction letters with
  | nil => exact Or.inl ⟨[], rfl, rfl⟩
  | cons c letters ih =>
      rw [List.mapM_cons, readClass]
      cases hc : SymbolClass.ofChar? c with
      | none =>
          have hunknown := (SymbolClass.ofChar?_eq_none_iff c).mp hc
          exact Or.inr ⟨c, rfl, List.find?_cons_of_pos (decide_eq_true hunknown)⟩
      | some k =>
          have hk : k.toChar = c := ((SymbolClass.ofChar?_eq_some_iff c k).mp hc).symm
          have hletter : c ∈ SymbolClass.letters := (SymbolClass.mem_letters_iff c).mpr ⟨k, hk⟩
          rcases ih with ⟨mask, hmask, hletters⟩ | ⟨d, herror, hd⟩
          · refine Or.inl ⟨k :: mask, by rw [hmask]; rfl, ?_⟩
            rw [List.map_cons, hk, hletters]
          · refine Or.inr ⟨d, by rw [herror]; rfl, ?_⟩
            rw [List.find?_cons_of_neg (by simpa using hletter), hd]

/-! ## Faults -/

/-- What each fault is about, whatever else may be wrong with the text. -/
inductive Fault.Found (text : List Char) : Fault → Prop where
  | noDot : '.' ∉ text → Found text .noDot
  | noGenerator : AfterLastDot text [] → Found text .noGenerator
  | unknownGenerator {g : Char} {rest : List Char} : AfterLastDot text (g :: rest) →
      g ∉ Generator.letters → Found text (.unknownGenerator g)
  | noClass {g : Char} {rest : List Char} : AfterLastDot text (g :: rest) →
      Leaves rest [] → Found text .noClass
  | unknownClass {g c : Char} {rest classes : List Char} : AfterLastDot text (g :: rest) →
      Leaves rest classes → classes.find? (· ∉ SymbolClass.letters) = some c →
      Found text (.unknownClass c)

/-- The order in which faults are looked for. -/
def Fault.rank : Fault → Nat
  | .noDot => 0
  | .noGenerator => 1
  | .unknownGenerator _ => 2
  | .noClass => 3
  | .unknownClass _ => 4

/-- The fault is there, and none that is looked for earlier. -/
def FirstFault (text : List Char) (fault : Fault) : Prop :=
  fault.Found text ∧ ∀ other : Fault, other.Found text → fault.rank ≤ other.rank

/-- Behind a dot, faults have to be found in the mask. -/
theorem Fault.Found.one_le {text mask : List Char} {fault : Fault} (h : fault.Found text)
    (hmask : AfterLastDot text mask) : 1 ≤ fault.rank := by
  cases h with
  | noDot hdot => exact absurd hmask.mem hdot
  | noGenerator | unknownGenerator | noClass | unknownClass => simp [Fault.rank]

/-- Where something stands behind the last dot, what can be wrong is its first letter or
    what comes later. -/
theorem Fault.Found.two_le {text rest : List Char} {g : Char} {fault : Fault}
    (h : fault.Found text) (hmask : AfterLastDot text (g :: rest)) : 2 ≤ fault.rank := by
  cases h with
  | noDot hdot => exact absurd hmask.mem hdot
  | noGenerator hnil => exact nomatch hmask.unique hnil
  | unknownGenerator | noClass | unknownClass => simp [Fault.rank]

theorem Fault.Found.three_le {text rest : List Char} {g : Char} {fault : Fault}
    (h : fault.Found text) (hmask : AfterLastDot text (g :: rest))
    (hg : g ∈ Generator.letters) : 3 ≤ fault.rank := by
  have htwo := h.two_le hmask
  cases h with
  | noDot | noGenerator => simp [Fault.rank] at htwo
  | unknownGenerator hmask' hg' =>
      obtain ⟨rfl, -⟩ := List.cons.inj (hmask.unique hmask')
      exact absurd hg hg'
  | noClass | unknownClass => simp [Fault.rank]

theorem Fault.Found.four_le {text rest classes : List Char} {g : Char} {fault : Fault}
    (h : fault.Found text) (hmask : AfterLastDot text (g :: rest))
    (hg : g ∈ Generator.letters) (hclasses : Leaves rest classes) (hne : classes ≠ []) :
    4 ≤ fault.rank := by
  have hthree := h.three_le hmask hg
  cases h with
  | noDot | noGenerator | unknownGenerator => simp [Fault.rank] at hthree
  | noClass hmask' hnil =>
      obtain ⟨-, rfl⟩ := List.cons.inj (hmask.unique hmask')
      exact absurd (hclasses.unique hnil) hne
  | unknownClass => simp [Fault.rank]

/-- A text that is spelled by parts has no fault. -/
theorem Parts.Spell.not_found {p : Parts} {text : List Char} (h : p.Spell text)
    (fault : Fault) : ¬ fault.Found text := by
  intro hfound
  obtain ⟨hmask, hclasses⟩ := h.afterLastDot
  have hfour := hfound.four_le hmask h.generator_mem hclasses h.classes_ne_nil
  cases hfound with
  | noDot | noGenerator | unknownGenerator | noClass => simp [Fault.rank] at hfour
  | unknownClass hmask' hclasses' hunknown =>
      obtain ⟨-, rfl⟩ := List.cons.inj (hmask.unique hmask')
      obtain rfl := hclasses.unique hclasses'
      have hletter := h.classes_mem _ (List.mem_of_find?_eq_some hunknown)
      exact absurd hletter (by simpa using List.find?_some hunknown)

/-- No two faults are looked for first. -/
theorem FirstFault.unique {text : List Char} {fault fault' : Fault} (h : FirstFault text fault)
    (h' : FirstFault text fault') : fault = fault' := by
  obtain ⟨hfound, hfirst⟩ := h
  obtain ⟨hfound', hfirst'⟩ := h'
  have hrank : fault.rank = fault'.rank :=
    Nat.le_antisymm (hfirst fault' hfound') (hfirst' fault hfound)
  cases hfound with
  | noDot => cases fault' <;> simp_all [Fault.rank]
  | noGenerator => cases fault' <;> simp_all [Fault.rank]
  | noClass => cases fault' <;> simp_all [Fault.rank]
  | unknownGenerator hmask =>
      cases hfound' with
      | unknownGenerator hmask' => rw [(List.cons.inj (hmask.unique hmask')).1]
      | noDot | noGenerator | noClass | unknownClass => simp [Fault.rank] at hrank
  | unknownClass hmask hclasses hc =>
      cases hfound' with
      | unknownClass hmask' hclasses' hc' =>
          obtain ⟨-, rfl⟩ := List.cons.inj (hmask.unique hmask')
          obtain rfl := hclasses.unique hclasses'
          rw [Option.some.inj (hc.symm.trans hc')]
      | noDot | noGenerator | noClass | unknownGenerator => simp [Fault.rank] at hrank

/-! ## Reading -/

/-- The reader either returns a template that spells the text or names the
    first fault of the text. -/
theorem parse_cases (text : String) :
    (∃ t, parse text = .ok t ∧ t.parts.Spell text.toList) ∨
      ∃ fault, parse text = .error fault ∧ FirstFault text.toList fault := by
  rw [parse]
  -- one case for each step of the parser; the faults before it are ruled out on the way
  rcases splitAtLastDot_cases text.toList with ⟨hnone, hdot⟩ | ⟨stem, mask, hsome, htext, hdot⟩
  · rw [hnone]
    exact Or.inr ⟨.noDot, rfl, .noDot hdot, fun _ _ => Nat.zero_le _⟩
  rw [hsome]
  dsimp only
  have hmask : AfterLastDot text.toList mask := ⟨stem, htext, hdot⟩
  cases mask with
  | nil =>
      refine Or.inr ⟨.noGenerator, rfl, .noGenerator hmask, fun other hother => ?_⟩
      exact hother.one_le hmask
  | cons g rest =>
      rw [parseMask]
      cases hg : Generator.ofChar? g with
      | none =>
          have hletter := (Generator.ofChar?_eq_none_iff g).mp hg
          refine Or.inr ⟨.unknownGenerator g, rfl, .unknownGenerator hmask hletter, ?_⟩
          exact fun other hother => hother.two_le hmask
      | some generator =>
          have hletter := (Generator.ofChar?_eq_some_iff g generator).mp hg
          have hmem := (Generator.mem_letters_iff g).mpr ⟨generator, hletter.symm⟩
          obtain ⟨classes, checked, hstrip, hleaves, hrest⟩ := stripCheckMark_cases rest
          dsimp only
          rw [hstrip]
          cases classes with
          | nil =>
              refine Or.inr ⟨.noClass, rfl, .noClass hmask hleaves, ?_⟩
              exact fun other hother => hother.three_le hmask hmem
          | cons c classes =>
              dsimp only
              rcases mapM_readClass_cases (c :: classes) with
                ⟨mask, hread, hletters⟩ | ⟨d, hread, hunknown⟩
              · rw [hread]
                refine Or.inl ⟨_, rfl, ?_⟩
                rw [spell_parts_iff]
                -- all steps went through: the parts spell the text
                constructor
                · rintro rfl
                  exact nomatch hletters
                · rw [toList_render, htext, hrest, hletter]
                  simp [parts, classText, hletters]
              · rw [hread]
                refine Or.inr ⟨.unknownClass d, rfl, .unknownClass hmask hleaves hunknown, ?_⟩
                exact fun other hother =>
                  hother.four_le hmask hmem hleaves (List.cons_ne_nil c classes)

/-- A text is accepted if the parts of the template spell it. -/
theorem parse_eq_ok_iff (text : String) (t : Template) :
    parse text = .ok t ↔ t.parts.Spell text.toList := by
  constructor
  · intro h
    rcases parse_cases text with ⟨u, hu, hspell⟩ | ⟨fault, hfault, -⟩
    · rw [Except.ok.inj (h.symm.trans hu)]
      exact hspell
    · exact nomatch h.symm.trans hfault
  · intro h
    rcases parse_cases text with ⟨u, hu, hspell⟩ | ⟨fault, -, hfound, -⟩
    · rw [hu, parts_injective (h.unique hspell)]
    · exact absurd hfound (h.not_found fault)

/-- What is reported of a text is its first fault. -/
theorem parse_eq_error_iff (text : String) (fault : Fault) :
    parse text = .error fault ↔ FirstFault text.toList fault := by
  constructor
  · intro h
    rcases parse_cases text with ⟨u, hu, -⟩ | ⟨found, hfound, hfirst⟩
    · exact nomatch h.symm.trans hu
    · rw [Except.error.inj (h.symm.trans hfound)]
      exact hfirst
  · intro h
    rcases parse_cases text with ⟨u, -, hspell⟩ | ⟨found, hfound, hfirst⟩
    · exact absurd h.1 (hspell.not_found fault)
    · rw [hfound, h.unique hfirst]

/-- A template with a class is read back from what is written for it. -/
theorem parse_render {t : Template} (h : t.mask ≠ []) : parse t.render = .ok t :=
  (parse_eq_ok_iff t.render t).mpr ((spell_parts_iff t _).mpr ⟨h, rfl⟩)

/-- A template that was read is written as the same text again. -/
theorem render_of_parse {text : String} {t : Template} (h : parse text = .ok t) :
    t.render = text := by
  have htext := ((spell_parts_iff t _).mp ((parse_eq_ok_iff text t).mp h)).2
  exact String.toList_injective htext.symm

end Template

/-! ## Schemes -/

namespace Scheme

variable [PatternCompiler]

/-- A text that is no template is refused as it is without an alphabet. -/
theorem ofText_of_parse_error {text : String} {fault : Template.Fault}
    (h : Template.parse text = .error fault) (a : Alphabet) :
    ofText text a = .error (.template text fault) := by
  unfold ofText
  split
  · rename_i found hfound
    rw [Except.error.inj (hfound.symm.trans h)]
  · rename_i t ht
    exact nomatch ht.symm.trans h

/-- Of a text that is a template only the pattern can still be refused. -/
theorem ofText_of_parse {text : String} {t : Template} (h : Template.parse text = .ok t)
    (a : Alphabet) :
    ofText text a =
      match PatternCompiler.complaint? t a with
      | some complaint => .error (.pattern complaint)
      | none => .ok ⟨t, a, Template.mask_ne_nil_of_parse h⟩ := by
  unfold ofText
  split
  · rename_i fault hfault
    exact nomatch hfault.symm.trans h
  · rename_i u hu
    obtain rfl := Except.ok.inj (hu.symm.trans h)
    rfl

/-- A scheme is read from a text that is its template, if its pattern is compiled. -/
theorem ofText_eq_ok_iff (text : String) (a : Alphabet) (s : Scheme) :
    ofText text a = .ok s ↔
      Template.parse text = .ok s.template ∧ s.alphabet = a ∧ s.template.Compiles a := by
  cases hparse : Template.parse text with
  | error fault =>
      rw [ofText_of_parse_error hparse a]
      constructor
      · rintro ⟨⟩
      · rintro ⟨⟨⟩, -⟩
  | ok t =>
      rw [ofText_of_parse hparse a]
      constructor
      · intro h
        split at h
        · cases h
        · rename_i hnone
          cases h
          exact ⟨rfl, rfl, hnone⟩
      · obtain ⟨template, alphabet, hmask⟩ := s
        rintro ⟨⟨⟩, rfl, hnone⟩
        rw [Template.Compiles] at hnone
        dsimp only at hnone
        rw [hnone]

/-- A scheme that is refused has a template that is refused, or a pattern. -/
theorem exists_of_ofText_error {text : String} {a : Alphabet} {refusal : Refusal}
    (h : ofText text a = .error refusal) :
    (∃ fault, Template.parse text = .error fault ∧ refusal = .template text fault) ∨
      ∃ t complaint, Template.parse text = .ok t ∧
        PatternCompiler.complaint? t a = some complaint ∧ refusal = .pattern complaint := by
  cases hparse : Template.parse text with
  | error fault =>
      rw [ofText_of_parse_error hparse a] at h
      exact .inl ⟨fault, rfl, (Except.error.inj h).symm⟩
  | ok t =>
      rw [ofText_of_parse hparse a] at h
      split at h
      · rename_i complaint hcomplaint
        exact .inr ⟨t, complaint, rfl, hcomplaint, (Except.error.inj h).symm⟩
      · cases h

/-- Two schemes that were read are the same only if they were read from the same
    text over the same alphabet. -/
theorem eq_iff_of_ofText {text text' : String} {a a' : Alphabet} {s s' : Scheme}
    (h : ofText text a = .ok s) (h' : ofText text' a' = .ok s') :
    s = s' ↔ text = text' ∧ a = a' := by
  constructor
  · rintro rfl
    obtain ⟨hparse, rfl, -⟩ := (ofText_eq_ok_iff text a s).mp h
    obtain ⟨hparse', rfl, -⟩ := (ofText_eq_ok_iff text' a' s).mp h'
    refine ⟨?_, rfl⟩
    rw [← Template.render_of_parse hparse, Template.render_of_parse hparse']
  · rintro ⟨rfl, rfl⟩
    exact Except.ok.inj (h.symm.trans h')

end Scheme

namespace Template

/-- **Reading accepts exactly the grammar**, and rendering is its inverse.  A
    template is read from a text if and only if its parts follow the grammar and
    spell the text; each text is spelled by one division into parts at most, and
    every such division is that of a template.  Any other text is refused with
    the text itself and the first of its faults.  So schemes that were read are
    told apart by their texts and alphabets. -/
theorem parse_grammar [PatternCompiler] (text : String) :
    (∀ t, parse text = .ok t ↔ t.parts.Spell text.toList) ∧
    (∀ p : Parts, p.Spell text.toList → ∃ t, parse text = .ok t ∧ t.parts = p) ∧
    (∀ p q : Parts, p.Spell text.toList → q.Spell text.toList → p = q) ∧
    (∀ t, parse text = .ok t → t.render = text) ∧
    (∀ t : Template, t.mask ≠ [] → parse t.render = .ok t) ∧
    (∀ fault, parse text = .error fault ↔ FirstFault text.toList fault) ∧
    ((¬ ∃ p : Parts, p.Spell text.toList) → ∃ fault, parse text = .error fault ∧
      ∀ a, Scheme.ofText text a = .error (.template text fault)) ∧
    (∀ (a a' : Alphabet) (text' : String) (s s' : Scheme), Scheme.ofText text a = .ok s →
      Scheme.ofText text' a' = .ok s' → (s = s' ↔ text = text' ∧ a = a')) := by
  refine ⟨parse_eq_ok_iff text, ?_, fun p q hp hq => hp.unique hq,
    fun t h => render_of_parse h, fun t h => parse_render h, parse_eq_error_iff text, ?_,
    fun a a' text' s s' h h' => Scheme.eq_iff_of_ofText h h'⟩
  · intro p hp
    obtain ⟨t, rfl⟩ := hp.exists_template
    exact ⟨t, (parse_eq_ok_iff text t).mpr hp, rfl⟩
  · intro hnone
    rcases parse_cases text with ⟨t, -, hspell⟩ | ⟨fault, hfault, -⟩
    · exact absurd ⟨_, hspell⟩ hnone
    · exact ⟨fault, hfault, fun a => Scheme.ofText_of_parse_error hfault a⟩

section

open scoped SizeLimit

/-- The text `a.k.zdek` is read in one way only, although its stem looks like the
    end of a template; `a.k.zkdk` is refused, since only the last `k` can be a
    check mark; and one check mark more makes another scheme. -/
theorem dotted_grammar :
    (∃ t, parse "a.k.zdek" = .ok t ∧ t.parts = ⟨['a', '.', 'k'], 'z', ['d', 'e'], ['k']⟩ ∧
      t.render = "a.k.zdek" ∧ parse t.render = .ok t ∧
      ∀ p : Parts, p.Spell "a.k.zdek".toList → p = t.parts) ∧
    Scheme.ofText "a.k.zkdk" .betanumeric =
      .error (.template "a.k.zkdk" (.unknownClass 'k')) ∧
    ∃ s s', Scheme.ofText "a.k.zde" .betanumeric = .ok s ∧
      Scheme.ofText "a.k.zdek" .betanumeric = .ok s' ∧ s ≠ s' := by
  have hread : parse "a.k.zdek" = .ok ⟨"a.k", .extensible, [.decimal, .extended], true⟩ := by
    decide +kernel
  have hplain : parse "a.k.zde" = .ok ⟨"a.k", .extensible, [.decimal, .extended], false⟩ := by
    decide +kernel
  have hrefused : parse "a.k.zkdk" = .error (.unknownClass 'k') := by decide +kernel
  refine ⟨?_, ?_, ?_⟩
  · obtain ⟨hok, -, hunique, hrender, hback, -⟩ := parse_grammar "a.k.zdek"
    have hspell := (hok _).mp hread
    refine ⟨_, hread, by decide +kernel, hrender _ hread, hback _ (List.cons_ne_nil _ _), ?_⟩
    exact fun p hp => hunique p _ hp hspell
  · obtain ⟨-, hparts, -, -, -, -, hfault, -⟩ := parse_grammar "a.k.zkdk"
    have hnone : ¬ ∃ p : Parts, p.Spell "a.k.zkdk".toList := by
      rintro ⟨p, hp⟩
      obtain ⟨t, ht, -⟩ := hparts p hp
      exact nomatch hrefused.symm.trans ht
    obtain ⟨fault, hparse, hrefusal⟩ := hfault hnone
    rw [hrefusal, Except.error.inj (hparse.symm.trans hrefused)]
  · obtain ⟨-, -, -, -, -, -, -, hsame⟩ := parse_grammar "a.k.zde"
    have hcompiles : ∀ checked, Template.Compiles
        ⟨"a.k", .extensible, [.decimal, .extended], checked⟩ .betanumeric := by decide +kernel
    have hs := (Scheme.ofText_eq_ok_iff "a.k.zde" .betanumeric
      ⟨_, .betanumeric, mask_ne_nil_of_parse hplain⟩).mpr ⟨hplain, rfl, hcompiles _⟩
    have hs' := (Scheme.ofText_eq_ok_iff "a.k.zdek" .betanumeric
      ⟨_, .betanumeric, mask_ne_nil_of_parse hread⟩).mpr ⟨hread, rfl, hcompiles _⟩
    refine ⟨_, _, hs, hs', fun heq => ?_⟩
    exact absurd ((hsame _ _ _ _ _ hs hs').mp heq).1 (by decide)

end

end Template

end OpaqueId
