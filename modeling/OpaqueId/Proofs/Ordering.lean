import Mathlib.Data.Char
import Mathlib.Data.List.Shortlex
import OpaqueId.Proofs.Generators

/-! # Order: greater values have later codes

    Under the same bases numbers compare as their digits do, the most
    significant first (`value_lt_value_iff_lex`): the first digit that differs
    outweighs all digits behind it, since these stay below the volume of their
    bases.  A number that needs more positions than another is greater, so all
    numbers compare as their numerals do, first by length and then from the
    left (`lt_iff_shortlex_digits`).

    Symbols compare as their indices do, and the order of numerals is that of
    codes.  Identifiers of a bounded generator differ only behind the stem and
    have codes of one length, so that the check symbol is never compared unless
    the codes are the same.  If the alphabet lists its symbols in the order of
    characters, the identifiers are then ordered as texts.

    Main statement: `mint_order`. -/

namespace OpaqueId

/-! ## Digits -/

namespace MixedRadix

/-- What stands behind a digit is outweighed by the digit. -/
theorem mul_add_lt_mul_add_iff {volume v w : Nat} (hv : v < volume) (hw : w < volume)
    (d e : Nat) : d * volume + v < e * volume + w ↔ d < e ∨ d = e ∧ v < w := by
  rcases Nat.lt_trichotomy d e with hlt | rfl | hgt
  · have hstep : d * volume + volume ≤ e * volume := by
      rw [← Nat.succ_mul]
      exact Nat.mul_le_mul_right volume hlt
    exact iff_of_true (by omega) (Or.inl hlt)
  · omega
  · have hstep : e * volume + volume ≤ d * volume := by
      rw [← Nat.succ_mul]
      exact Nat.mul_le_mul_right volume hgt
    exact iff_of_false (by omega) (by omega)

/-- Numbers under the same bases compare as their digits do, from the left. -/
theorem value_lt_value_iff_lex {bases ds es : List Nat} (hds : Within bases ds)
    (hes : Within bases es) :
    value bases ds < value bases es ↔ List.Lex (· < ·) ds es := by
  induction hds generalizing es with
  | nil =>
      cases hes
      exact iff_of_false (Nat.lt_irrefl _) List.not_lex_nil
  | @cons base d bases ds hd hds ih =>
      cases hes with
      | @cons _ e _ es he hes =>
          rw [value_cons _ _ _ _ (Within.length_eq hds), value_cons _ _ _ _ (Within.length_eq hes),
            mul_add_lt_mul_add_iff (value_lt_volume hds) (value_lt_volume hes), ih hes,
            List.cons_lex_cons_iff]

end MixedRadix

/-! ## Symbols -/

namespace Alphabet

/-- The first character is a symbol that stands before the second one. -/
def Precedes (a : Alphabet) (c d : Char) : Prop :=
  ∃ i j, a.index? c = some i ∧ a.index? d = some j ∧ i < j

/-- The symbols are listed in the order of characters. -/
def Ascending (a : Alphabet) : Prop := a.symbols.Pairwise (· < ·)

theorem betanumeric_ascending : betanumeric.Ascending := by
  unfold Ascending
  decide

/-- Symbols precede each other as their indices do. -/
theorem precedes_symbolFor_iff {a : Alphabet} {d e : Nat} (hd : d < a.size) (he : e < a.size) :
    a.Precedes (a.symbolFor d) (a.symbolFor e) ↔ d < e := by
  rw [Precedes, index?_symbolFor hd, index?_symbolFor he]
  simp

/-- Written digits compare as the digits do. -/
theorem lex_map_symbolFor_iff {a : Alphabet} {ds es : List Nat} (hds : ∀ d ∈ ds, d < a.size)
    (hes : ∀ e ∈ es, e < a.size) :
    List.Lex a.Precedes (ds.map a.symbolFor) (es.map a.symbolFor) ↔ List.Lex (· < ·) ds es := by
  induction ds generalizing es with
  | nil => cases es <;> simp
  | cons d ds ih =>
      cases es with
      | nil => simp
      | cons e es =>
          obtain ⟨hd, hds⟩ := List.forall_mem_cons.mp hds
          obtain ⟨he, hes⟩ := List.forall_mem_cons.mp hes
          have hsame : a.symbolFor d = a.symbolFor e ↔ d = e := by
            constructor
            · intro h
              have hindex := index?_symbolFor hd
              rw [h, index?_symbolFor he] at hindex
              exact (Option.some.inj hindex).symm
            · exact congrArg a.symbolFor
          rw [List.map_cons, List.map_cons, List.cons_lex_cons_iff, List.cons_lex_cons_iff,
            precedes_symbolFor_iff hd he, hsame, ih hds hes]

/-- In an ascending alphabet a later symbol is a greater character. -/
theorem Ascending.lt_of_precedes {a : Alphabet} (h : a.Ascending) {c d : Char}
    (hcd : a.Precedes c d) : c < d := by
  obtain ⟨i, j, hi, hj, hij⟩ := hcd
  rw [index?_eq_some_iff] at hi hj
  obtain ⟨hilt, rfl⟩ := List.getElem?_eq_some_iff.mp hi
  obtain ⟨hjlt, rfl⟩ := List.getElem?_eq_some_iff.mp hj
  exact List.pairwise_iff_getElem.mp h i j hilt hjlt hij

end Alphabet

/-! ## Codes -/

namespace Scheme

open MixedRadix

/-- A larger number needs as many positions, or more. -/
theorem extension_le_of_le (s : Scheme) {m n : Nat} (h : m ≤ n) :
    s.extension m ≤ s.extension n := by
  have hroom := (s.extension_le_iff n _).mp (Nat.le_refl (s.extension n))
  exact (s.extension_le_iff m _).mpr (h.trans_lt hroom)

/-- Numbers compare as their numerals do: the shorter one first, and of the same
    length from the left. -/
theorem lt_iff_shortlex_digits (s : Scheme) (m n : Nat) :
    m < n ↔ List.Shortlex (· < ·) (s.digits m) (s.digits n) := by
  rw [List.shortlex_def, length_digits, length_digits]
  rcases Nat.lt_trichotomy (s.extension m) (s.extension n) with hlt | heq | hgt
  · refine iff_of_true ?_ (Or.inl (Nat.add_lt_add_left hlt _))
    exact Nat.lt_of_not_le fun hle => absurd (s.extension_le_of_le hle) (Nat.not_le.mpr hlt)
  · -- as long as each other, the two are numerals under the same bases
    have hm := (s.numeral_digits m).within
    have hn := (s.numeral_digits n).within
    have hvalue := s.numberOf_digits m
    have hvalue' := s.numberOf_digits n
    rw [numberOf, length_digits, heq] at hvalue
    rw [numberOf, length_digits] at hvalue'
    rw [length_digits, heq] at hm
    rw [length_digits] at hn
    have hlex := value_lt_value_iff_lex hm hn
    rw [hvalue, hvalue'] at hlex
    rw [hlex, heq]
    simp
  · refine iff_of_false ?_ (by omega)
    exact fun hlt => absurd (s.extension_le_of_le hlt.le) (Nat.not_le.mpr hgt)

/-- Values compare as the codes that they are written as. -/
theorem lt_iff_shortlex_code (s : Scheme) (m n : Nat) :
    m < n ↔ List.Shortlex s.alphabet.Precedes ((s.digits m).map s.alphabet.symbolFor)
      ((s.digits n).map s.alphabet.symbolFor) := by
  rw [lt_iff_shortlex_digits s, List.shortlex_def, List.shortlex_def, List.length_map,
    List.length_map, Alphabet.lex_map_symbolFor_iff
      (Alphabet.lt_size_of_within (s.numeral_digits m).within)
      (Alphabet.lt_size_of_within (s.numeral_digits n).within)]

/-! ## Texts -/

/-- What stands behind lists of one length does not matter while they differ. -/
theorem lex_append_of_length_eq {α : Type} {r : α → α → Prop} {xs ys : List α}
    (h : List.Lex r xs ys) (hlen : xs.length = ys.length) (us vs : List α) :
    List.Lex r (xs ++ us) (ys ++ vs) := by
  induction h with
  | nil => exact nomatch hlen
  | rel hr => exact List.Lex.rel hr
  | cons _ ih => exact List.Lex.cons (ih (Nat.succ.inj hlen))

/-- A text that carries a code begins with stem and code. -/
theorem Carries.exists_append {s : Scheme} {text : String} {code : List Char}
    (h : s.Carries text code) : ∃ tail, text.toList = s.stem ++ (code ++ tail) := by
  cases hchecked : s.template.checked with
  | false =>
      refine ⟨[], ?_⟩
      rw [(carries_of_unchecked hchecked text code).mp h, List.append_nil]
  | true =>
      obtain ⟨symbol, -, htext⟩ := (carries_of_checked hchecked text code).mp h
      exact ⟨[symbol], by rw [htext, List.append_assoc]⟩

/-- Over an ascending alphabet the identifiers of a bounded generator ascend as
    texts. -/
theorem lt_of_mint_of_lt {s : Scheme} (hbounded : s.template.generator.isExtensible = false)
    (hascending : s.alphabet.Ascending) {m n : Nat} {id id' : String}
    (hm : s.mint m = .ok id) (hn : s.mint n = .ok id') (h : m < n) : id < id' := by
  obtain ⟨hholds, hcarries⟩ := (s.mint_eq_ok_iff_carries m id).mp hm
  obtain ⟨hholds', hcarries'⟩ := (s.mint_eq_ok_iff_carries n id').mp hn
  obtain ⟨tail, htext⟩ := hcarries.exists_append
  obtain ⟨tail', htext'⟩ := hcarries'.exists_append
  have hlength := (fits_of_bounded hbounded _).mp hholds.shaped.fits
  rw [← (fits_of_bounded hbounded _).mp hholds'.shaped.fits] at hlength
  have hlex := (List.shortlex_iff_lex hlength).mp ((s.lt_iff_shortlex_code m n).mp h)
  have hchars := hlex.imp fun _ _ => hascending.lt_of_precedes
  show id.toList < id'.toList
  rw [htext, htext']
  exact (lex_append_of_length_eq hchars hlength tail tail').append_left _ s.stem

/-- **Identifiers keep the order of their values.**  One value is less than another
    exactly if its code comes first, where shorter codes come before longer ones
    and codes of one length are compared from the left by the indices of their
    symbols.  If the generator is bounded and the alphabet lists its symbols in
    the order of characters, it is exactly if its identifier is the lesser text. -/
theorem mint_order (s : Scheme) {m n : UInt64} {id id' : String}
    (hm : s.mint m.toNat = .ok id) (hn : s.mint n.toNat = .ok id') :
    (m < n ↔ List.Shortlex s.alphabet.Precedes (s.codeOf id) (s.codeOf id')) ∧
    (s.template.generator.isExtensible = false → s.alphabet.Ascending →
      (m < n ↔ id < id')) := by
  rw [UInt64.lt_iff_toNat_lt]
  constructor
  · obtain ⟨-, hcarries⟩ := (s.mint_eq_ok_iff_carries _ id).mp hm
    obtain ⟨-, hcarries'⟩ := (s.mint_eq_ok_iff_carries _ id').mp hn
    rw [hcarries.codeOf_eq, hcarries'.codeOf_eq]
    exact s.lt_iff_shortlex_code m.toNat n.toNat
  · intro hbounded hascending
    refine ⟨lt_of_mint_of_lt hbounded hascending hm hn, fun h => ?_⟩
    -- the other two cases would order the texts the other way
    rcases Nat.lt_trichotomy m.toNat n.toNat with hlt | heq | hgt
    · exact hlt
    · rw [heq, hn] at hm
      rw [Except.ok.inj hm] at h
      exact absurd h (List.lt_irrefl _)
    · exact absurd h (List.lt_asymm (lt_of_mint_of_lt hbounded hascending hn hm hgt))

/-- In `bc.zedk` the code grows a position from 289 to 290, so that the text of 290
    is the lesser one; in `bc.sedk` the text of 10 is the greater one, whose check
    symbol is less than that of 9. -/
theorem specimen_ordered :
    List.Shortlex specimen.alphabet.Precedes (specimen.codeOf "bcz97")
        (specimen.codeOf "bc1006") ∧
      "bc09b" < "bc106" := by
  have hm : specimen.mint 289 = .ok "bcz97" := by decide +kernel
  have hn : specimen.mint 290 = .ok "bc1006" := by decide +kernel
  have hm' : (specimen.withGenerator .sequential).mint 9 = .ok "bc09b" := by decide +kernel
  have hn' : (specimen.withGenerator .sequential).mint 10 = .ok "bc106" := by decide +kernel
  obtain ⟨hcodes, -⟩ := mint_order specimen (m := 289) (n := 290) hm hn
  obtain ⟨-, htexts⟩ :=
    mint_order (specimen.withGenerator .sequential) (m := 9) (n := 10) hm' hn'
  exact ⟨hcodes.mp (by decide), (htexts rfl Alphabet.betanumeric_ascending).mp (by decide)⟩

end Scheme

end OpaqueId
