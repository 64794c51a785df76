import Mathlib.Computability.RegularExpressions
import OpaqueId.Proofs.Shape

/-! # Patterns: the shape of identifiers as a regular expression

    Up to their check symbol the identifiers of a scheme form a regular
    language.  `Scheme.pattern` writes it down from left to right: the stem
    letter by letter, any number of symbols of the last class if the generator
    is extensible, one symbol for each class of the mask, and one symbol of the
    alphabet if the scheme is checked.

    Nothing in a stem or an alphabet has a meaning of its own in a pattern: a
    character matches itself.  Main statement: `mem_pattern_iff`, the pattern
    matches exactly the stem followed by a shaped rest. -/

namespace OpaqueId

open Computability

namespace Pattern

/-- Matches one character, which is one of those given. -/
def anyOf (symbols : List Char) : RegularExpression Char := (symbols.map .char).sum

/-- Matches the given text. -/
def literal (text : List Char) : RegularExpression Char := (text.map .char).prod

/-- A choice of symbols matches each of them. -/
theorem mem_anyOf (symbols text : List Char) :
    text ∈ (anyOf symbols).matches' ↔ ∃ c ∈ symbols, text = [c] := by
  induction symbols with
  | nil =>
      constructor
      · intro h
        exact absurd h (Language.notMem_zero text)
      · rintro ⟨c, hc, -⟩
        exact nomatch hc
  | cons symbol symbols ih =>
      rw [anyOf, List.map_cons, List.sum_cons, RegularExpression.matches'_add,
        Language.mem_add, List.exists_mem_cons_iff, ← ih]
      exact Iff.rfl

/-- A literal matches itself. -/
theorem mem_literal (expected text : List Char) :
    text ∈ (literal expected).matches' ↔ text = expected := by
  induction expected generalizing text with
  | nil => exact Language.mem_one text
  | cons c expected ih =>
      rw [literal, List.map_cons, List.prod_cons, RegularExpression.matches'_mul,
        Language.mem_mul]
      constructor
      · rintro ⟨front, hfront, back, hback, rfl⟩
        have hc : front = [c] := hfront
        rw [hc, (ih back).mp hback]
        rfl
      · rintro rfl
        exact ⟨[c], rfl, expected, (ih expected).mpr rfl, rfl⟩

end Pattern

/-- Matches one character that the class permits. -/
def SymbolClass.pattern (a : Alphabet) : SymbolClass → RegularExpression Char
  | .extended => Pattern.anyOf a.symbols
  | .decimal => Pattern.anyOf decimalDigits

/-- The pattern of a class matches the symbols that the class permits. -/
theorem SymbolClass.mem_pattern (a : Alphabet) (k : SymbolClass) (text : List Char) :
    text ∈ (k.pattern a).matches' ↔ ∃ c, k.Permits a c ∧ text = [c] := by
  cases k with
  | extended => exact Pattern.mem_anyOf a.symbols text
  | decimal =>
      refine (Pattern.mem_anyOf decimalDigits text).trans (exists_congr fun c => ?_)
      rw [Permits, mem_decimalDigits_iff]

/-- A run of one class: every character is permitted. -/
theorem SymbolClass.mem_star_pattern (a : Alphabet) (k : SymbolClass) (text : List Char) :
    text ∈ (k.pattern a).star.matches' ↔ ∀ c ∈ text, k.Permits a c := by
  rw [RegularExpression.matches'_star, Language.mem_kstar]
  constructor
  · rintro ⟨pieces, rfl, hpieces⟩ c hc
    obtain ⟨piece, hpiece, hmem⟩ := List.mem_flatten.mp hc
    obtain ⟨d, hd, rfl⟩ := (k.mem_pattern a piece).mp (hpieces piece hpiece)
    rw [List.mem_singleton.mp hmem]
    exact hd
  · intro h
    refine ⟨text.map fun c => [c], (List.flatMap_singleton' text).symm, ?_⟩
    intro piece hpiece
    obtain ⟨c, hc, rfl⟩ := List.mem_map.mp hpiece
    exact (k.mem_pattern a [c]).mpr ⟨c, h c hc, rfl⟩

/-- One symbol for each class. -/
theorem Alphabet.mem_prod_pattern (a : Alphabet) (classes : List SymbolClass)
    (text : List Char) :
    text ∈ ((classes.map (SymbolClass.pattern a)).prod).matches' ↔ a.Follows classes text := by
  induction classes generalizing text with
  | nil => exact (Language.mem_one text).trans List.forall₂_nil_left_iff.symm
  | cons k classes ih =>
      rw [List.map_cons, List.prod_cons, RegularExpression.matches'_mul, Language.mem_mul]
      constructor
      · rintro ⟨front, hfront, back, hback, rfl⟩
        obtain ⟨c, hc, rfl⟩ := (k.mem_pattern a front).mp hfront
        exact List.Forall₂.cons hc ((ih back).mp hback)
      · intro h
        obtain ⟨c, rest, hc, hrest, rfl⟩ := List.forall₂_cons_left_iff.mp h
        exact ⟨[c], (k.mem_pattern a [c]).mpr ⟨c, hc, rfl⟩, rest, (ih rest).mpr hrest, rfl⟩

namespace Scheme

/-- Matches the codes of the scheme. -/
def codePattern (s : Scheme) : RegularExpression Char :=
  (if s.template.generator.isExtensible then (s.lastClass.pattern s.alphabet).star else 1)
    * (s.template.mask.map (SymbolClass.pattern s.alphabet)).prod

/-- Matches the texts that look like identifiers of the scheme. -/
def pattern (s : Scheme) : RegularExpression Char :=
  Pattern.literal s.stem * s.codePattern
    * (if s.template.checked then Pattern.anyOf s.alphabet.symbols else 1)

/-- What may stand in front of the mask. -/
theorem mem_front_iff (s : Scheme) (front : List Char) :
    front ∈ (if s.template.generator.isExtensible then (s.lastClass.pattern s.alphabet).star
        else 1 : RegularExpression Char).matches' ↔
      s.Fits (front.length + s.template.width) ∧ ∀ c ∈ front, s.lastClass.Permits s.alphabet c := by
  rw [Fits]
  cases s.template.generator.isExtensible with
  | true =>
      rw [if_pos rfl, if_pos rfl, SymbolClass.mem_star_pattern]
      exact (and_iff_right (Nat.le_add_left _ _)).symm
  | false =>
      rw [if_neg Bool.false_ne_true, if_neg Bool.false_ne_true,
        RegularExpression.matches'_epsilon, Language.mem_one]
      constructor
      · rintro rfl
        exact ⟨Nat.zero_add _, List.forall_mem_nil _⟩
      · rintro ⟨hlength, -⟩
        exact List.eq_nil_of_length_eq_zero (by omega)

theorem mem_codePattern_iff (s : Scheme) (code : List Char) :
    code ∈ s.codePattern.matches' ↔ s.Shaped code := by
  rw [codePattern, RegularExpression.matches'_mul, Language.mem_mul]
  constructor
  · rintro ⟨front, hfront, back, hback, rfl⟩
    obtain ⟨hfits, hpermits⟩ := (s.mem_front_iff front).mp hfront
    have hfollows := (s.alphabet.mem_prod_pattern _ back).mp hback
    -- the mask takes a fixed number of characters, so the two parts are the only ones
    have hback : back.length = s.template.width := (List.Forall₂.length_eq hfollows).symm
    have hsplit : (front ++ back).length - s.template.width = front.length := by
      rw [List.length_append, hback, Nat.add_sub_cancel]
    refine ⟨?_, ?_, ?_⟩
    · rw [List.length_append, hback]
      exact hfits
    · rw [hsplit, List.drop_left]
      exact hfollows
    · rw [hsplit, List.take_left]
      exact hpermits
  · intro h
    refine ⟨code.take (code.length - s.template.width), ?_,
      code.drop (code.length - s.template.width), ?_, List.take_append_drop _ _⟩
    · have hlength : (code.take (code.length - s.template.width)).length + s.template.width
          = code.length := by
        rw [List.length_take, Nat.min_eq_left (Nat.sub_le _ _)]
        exact Nat.sub_add_cancel h.fits.width_le
      rw [mem_front_iff, hlength]
      exact ⟨h.fits, h.front⟩
    · exact (s.alphabet.mem_prod_pattern _ _).mpr h.mask

/-- The pattern matches exactly the stem followed by a shaped rest. -/
theorem mem_pattern_iff (s : Scheme) (text : List Char) :
    text ∈ s.pattern.matches' ↔ ∃ rest, text = s.stem ++ rest ∧ s.ShapedRest rest := by
  simp only [pattern, RegularExpression.matches'_mul, Language.mem_mul, Pattern.mem_literal,
    mem_codePattern_iff, ShapedRest]
  cases s.template.checked with
  | true =>
      simp only [if_pos, Pattern.mem_anyOf]
      constructor
      · rintro ⟨_, ⟨_, rfl, code, hcode, rfl⟩, _, ⟨actual, hactual, rfl⟩, rfl⟩
        exact ⟨code ++ [actual], List.append_assoc .., code, actual, rfl, hcode, hactual⟩
      · rintro ⟨_, rfl, code, actual, rfl, hcode, hactual⟩
        exact ⟨s.stem ++ code, ⟨s.stem, rfl, code, hcode, rfl⟩, [actual],
          ⟨actual, hactual, rfl⟩, List.append_assoc ..⟩
  | false =>
      simp only [Bool.false_eq_true, if_false, RegularExpression.matches'_epsilon,
        Language.mem_one]
      constructor
      · rintro ⟨_, ⟨_, rfl, code, hcode, rfl⟩, _, rfl, rfl⟩
        exact ⟨code, List.append_nil _, hcode⟩
      · rintro ⟨code, rfl, hcode⟩
        exact ⟨s.stem ++ code, ⟨s.stem, rfl, code, hcode, rfl⟩, [], rfl, List.append_nil _⟩

/-- **The pattern matches what is in shape**: a rest is in shape exactly if the pattern
    matches it behind the stem. -/
theorem shapedRest_iff_mem_pattern (s : Scheme) (rest : List Char) :
    s.ShapedRest rest ↔ s.stem ++ rest ∈ s.pattern.matches' := by
  rw [mem_pattern_iff]
  constructor
  · intro hrest
    exact ⟨rest, rfl, hrest⟩
  · rintro ⟨rest', hsame, hrest⟩
    rw [List.append_cancel_left hsame]
    exact hrest

end Scheme

end OpaqueId
