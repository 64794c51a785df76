import OpaqueId.Proofs.PatternSize
import OpaqueId.Proofs.Reading
import OpaqueId.Serial

/-! # Serial forms: what a JSON string keeps

    A literal that was written is read as its text, whatever characters that
    has, and then judged like any other text (`Serial.read_literal`).  So it
    remains to see that what is written is accepted again: an alphabet is
    written as its symbols, which are an alphabet, and a scheme as its
    template, which is read back from what is written for it.

    An alphabet comes back as it was (`Alphabet.ofSerial_toSerial`).  A scheme
    leaves its alphabet behind: whatever it was, the scheme is read over the
    default one.  That takes another pattern, and a scheme whose own pattern is
    compiled is not read back where this one is refused
    (`Scheme.ofSerial_toSerial`), as happens to long masks of few symbols under
    a limit on the size of patterns (`crowded_scheme_not_read_back`).

    Main statement: `serial_forms_read_back`. -/

namespace OpaqueId

/-! ## Literals -/

/-- The content of a literal is judged, and nothing else. -/
theorem Serial.read_literal {α : Type} (content : String → Except Refusal α) (s : String) :
    read content (Json.literal s) = (content s).mapError .refused := by
  have hquote : (Json.literal s).toList.dropWhile Json.isBlank =
      '"' :: ((Json.quote s.toList).tail ++ []) := by
    rw [Json.literal, String.toList_ofList, List.append_nil]
    rfl
  rw [read, hquote]
  simp only [Json.readBody_quote, Json.join_chars, String.ofList_toList]
  cases content s <;> rfl

/-! ## Alphabets and schemes -/

/-- The serial form of an alphabet is read as the same alphabet. -/
theorem Alphabet.ofSerial_toSerial (a : Alphabet) : ofSerial a.toSerial = .ok a := by
  rw [ofSerial, toSerial, Serial.read_literal, (ofText_eq_ok_iff a.text a).mpr rfl]
  rfl

section

variable [PatternCompiler]

/-- A scheme is read back over the default alphabet, if its template has a pattern there. -/
theorem Scheme.ofSerial_toSerial (s : Scheme) :
    ofSerial s.toSerial =
      match PatternCompiler.complaint? s.template .betanumeric with
      | some complaint => .error (.refused (.pattern complaint))
      | none => .ok { s with alphabet := .betanumeric } := by
  rw [ofSerial, toSerial, Serial.read_literal,
    ofText_of_parse (Template.parse_render s.mask_ne_nil)]
  cases PatternCompiler.complaint? s.template .betanumeric <;> rfl

omit [PatternCompiler] in
theorem Scheme.withAlphabet_eq_self_iff (s : Scheme) (a : Alphabet) :
    { s with alphabet := a } = s ↔ s.alphabet = a := by
  constructor
  · intro h
    exact (congrArg alphabet h).symm
  · rintro rfl
    rfl

/-- **Serial forms are read back.**  The serial form of an alphabet is the literal of the
    text that it was taken from, and is read as the same alphabet.  The serial form of a
    scheme is the literal of the text of its template, whatever its alphabet, and is read
    over the default alphabet.  This succeeds if the template has a pattern there, as it
    does if that was the alphabet of the scheme; else the complaint about the pattern is
    reported.  What is read has the same stem, generator, mask and check mark, is written
    the same, and has the default alphabet.  So it is the same scheme if and only if that
    was its alphabet. -/
theorem serial_forms_read_back :
    (∀ text a, Alphabet.ofText text = .ok a →
      a.toSerial = Json.literal text ∧ Alphabet.ofSerial a.toSerial = .ok a) ∧
    ∀ text a s, Scheme.ofText text a = .ok s →
      s.toSerial = Json.literal text ∧
      (a = .betanumeric → s.template.Compiles .betanumeric) ∧
      (s.template.Compiles .betanumeric ↔ ∃ s', Scheme.ofSerial s.toSerial = .ok s') ∧
      (∀ s', Scheme.ofSerial s.toSerial = .ok s' →
        s'.template.stem = s.template.stem ∧ s'.template.generator = s.template.generator ∧
        s'.template.mask = s.template.mask ∧ s'.template.checked = s.template.checked ∧
        s'.template.render = text ∧ s'.alphabet = .betanumeric ∧
        (s' = s ↔ a = .betanumeric)) ∧
      ∀ complaint, PatternCompiler.complaint? s.template .betanumeric = some complaint →
        Scheme.ofSerial s.toSerial = .error (.refused (.pattern complaint)) := by
  constructor
  · intro text a h
    obtain rfl := (Alphabet.ofText_eq_ok_iff text a).mp h
    exact ⟨rfl, a.ofSerial_toSerial⟩
  · intro text a s h
    obtain ⟨hparse, rfl, hcompiles⟩ := (Scheme.ofText_eq_ok_iff text a s).mp h
    have htext := Template.render_of_parse hparse
    have hread := s.ofSerial_toSerial
    have hdefault : s.alphabet = .betanumeric → s.template.Compiles .betanumeric := by
      intro hsame
      rw [hsame] at hcompiles
      exact hcompiles
    refine ⟨congrArg Json.literal htext, hdefault, ?_, ?_, ?_⟩
    · rw [hread, Template.Compiles]
      -- reading decides by the complaint about the pattern over the default alphabet
      cases PatternCompiler.complaint? s.template .betanumeric with
      | none => exact iff_of_true rfl ⟨_, rfl⟩
      | some complaint =>
          refine iff_of_false (Option.some_ne_none complaint) ?_
          rintro ⟨s', ⟨⟩⟩
    · intro s' hs'
      rw [hread] at hs'
      split at hs'
      · cases hs'
      · cases hs'
        exact ⟨rfl, rfl, rfl, rfl, htext, rfl, s.withAlphabet_eq_self_iff _⟩
    · intro complaint hcomplaint
      rw [hread, hcomplaint]

end

/-- An alphabet whose symbols have to be escaped, or lie outside the basic plane. -/
def escapedAlphabet : Alphabet where
  symbols := decimalDigits ++ ['"', '\\', '\n', '\x01', '😀']
  digits_first := rfl
  nodup := by decide

/-- A template with such a stem over such an alphabet. -/
def escapedScheme : Scheme where
  template := ⟨"\"\\\n.", .extensible, [.extended, .decimal], true⟩
  alphabet := escapedAlphabet
  mask_ne_nil := by decide

theorem take_decimalDigits : decimalDigits.take 10 = decimalDigits := rfl

theorem nodup_decimalDigits : decimalDigits.Nodup := by decide

/-- The digits alone. -/
def digitAlphabet : Alphabet := ⟨decimalDigits, take_decimalDigits, nodup_decimalDigits⟩

/-- A long stem and so many symbols behind it that their alphabet matters. -/
def crowdedScheme : Scheme where
  template := SizeLimit.repeated '😀' 2058089 .extended 50000
  alphabet := digitAlphabet
  mask_ne_nil := SizeLimit.mask_repeated_ne_nil _ _ _ (by decide)

section

open scoped SizeLimit

/-- The alphabet comes back as it was, and the scheme with its stem but as another scheme. -/
theorem escapedAlphabet_read_back :
    Alphabet.ofText "0123456789\"\\\n\x01😀" = .ok escapedAlphabet ∧
      Alphabet.ofSerial escapedAlphabet.toSerial = .ok escapedAlphabet ∧
      Scheme.ofText "\"\\\n..zedk" escapedAlphabet = .ok escapedScheme ∧
      ∃ s', Scheme.ofSerial escapedScheme.toSerial = .ok s' ∧
        s'.template.stem = "\"\\\n." ∧ s' ≠ escapedScheme := by
  obtain ⟨halphabets, hschemes⟩ := serial_forms_read_back
  have halphabet : Alphabet.ofText "0123456789\"\\\n\x01😀" = .ok escapedAlphabet :=
    (Alphabet.ofText_eq_ok_iff _ _).mpr (by decide +kernel)
  have hscheme : Scheme.ofText "\"\\\n..zedk" escapedAlphabet = .ok escapedScheme :=
    (Scheme.ofText_eq_ok_iff _ _ _).mpr ⟨by decide +kernel, rfl, by decide +kernel⟩
  obtain ⟨-, -, hread, hparts, -⟩ := hschemes _ _ _ hscheme
  obtain ⟨s', hs'⟩ := hread.mp (SizeLimit.compiles_of_le (by decide))
  obtain ⟨hstem, -, -, -, -, -, hsame⟩ := hparts s' hs'
  have hother : s' ≠ escapedScheme := by
    intro h
    exact absurd (congrArg Alphabet.symbols (hsame.mp h)) (by decide)
  exact ⟨halphabet, (halphabets _ _ halphabet).2, hscheme, s', hs', hstem, hother⟩

/-- A scheme that is built over the digits is not read back, because its pattern is too
    large over the default alphabet. -/
theorem crowded_scheme_not_read_back :
    Scheme.ofText crowdedScheme.template.render digitAlphabet = .ok crowdedScheme ∧
      Scheme.ofSerial crowdedScheme.toSerial =
        .error (.refused (.pattern SizeLimit.tooLarge)) := by
  have hdigits : SizeLimit.positionSize digitAlphabet .extended = 72 := by decide +kernel
  have hdefault : SizeLimit.positionSize .betanumeric .extended = 128 := by decide +kernel
  have hbytes : Char.utf8Size '😀' = 4 := by decide
  constructor
  · refine (Scheme.ofText_eq_ok_iff _ _ _).mpr
      ⟨Template.parse_render crowdedScheme.mask_ne_nil, rfl, ?_⟩
    rw [SizeLimit.compiles_iff, crowdedScheme, SizeLimit.patternSize_repeated, hdigits, hbytes]
    decide
  · have hlarge : SizeLimit.limit < SizeLimit.patternSize crowdedScheme.template .betanumeric := by
      rw [crowdedScheme, SizeLimit.patternSize_repeated, hdefault, hbytes]
      decide
    rw [Scheme.ofSerial_toSerial, SizeLimit.complaint?_of_lt hlarge]

end

end OpaqueId
