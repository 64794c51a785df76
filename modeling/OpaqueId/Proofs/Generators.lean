import OpaqueId.Proofs.Counting

/-! # Generators: what changes when only the generator changes

    Of all that a scheme computes, the generator decides two things: which
    values the scheme holds, and which lengths a code may have.  Digits, bases,
    stem and check symbol do not depend on it.  So two generators mint a value
    alike if they agree on whether it is held (`mint_withGenerator_congr`), and
    answer a text alike if they agree on the length of its code
    (`locate_withGenerator_congr`).

    The two bounded generators agree on everything.  The extensible one agrees
    with them on the values below the volume of the mask and on the texts that
    are as long as the identifiers of those values; whatever else it mints or
    accepts is longer.

    Main statement: `extensible_conservative`. -/

namespace OpaqueId.Scheme

open MixedRadix

/-- The scheme with another generator. -/
def withGenerator (s : Scheme) (g : Generator) : Scheme :=
  ⟨{ s.template with generator := g }, s.alphabet, s.mask_ne_nil⟩

/-- The length of the identifiers whose code is as long as the mask. -/
def plainLength (s : Scheme) : Nat :=
  s.stem.length + s.template.width + if s.template.checked then 1 else 0

variable {s : Scheme} {g g' : Generator}

theorem checked_withGenerator : (s.withGenerator g).template.checked = s.template.checked :=
  rfl

/-! ## Agreement on a value -/

/-- Generators that agree on whether a value is held give it the same code. -/
theorem encode_withGenerator_congr {value : Nat}
    (h : (s.withGenerator g).Holds value ↔ (s.withGenerator g').Holds value) :
    (s.withGenerator g).encode value = (s.withGenerator g').encode value := by
  by_cases hholds : (s.withGenerator g').Holds value
  · rw [encode_of_holds hholds, encode_of_holds (h.mpr hholds)]
    rfl
  · rw [encode_of_not_holds hholds, encode_of_not_holds fun hg => hholds (h.mp hg)]
    rfl

/-- Generators that agree on whether a value is held mint it alike. -/
theorem mint_withGenerator_congr {value : Nat}
    (h : (s.withGenerator g).Holds value ↔ (s.withGenerator g').Holds value) :
    (s.withGenerator g).mint value = (s.withGenerator g').mint value := by
  rw [mint, mint, encode_withGenerator_congr h]
  rfl

/-- A value below the volume of the mask is held under every generator. -/
theorem holds_withGenerator_of_lt {value : Nat} (h : value < s.bases.prod) :
    (s.withGenerator g).Holds value := by
  rw [← volume_eq_prod] at h
  exact Or.inr h

/-! ## Agreement on a text -/

/-- A code is allowed alike if its length is. -/
theorem allowsCode_withGenerator_congr {code : List Char}
    (h : (s.withGenerator g).Fits code.length ↔ (s.withGenerator g').Fits code.length) :
    (s.withGenerator g).allowsCode code = (s.withGenerator g').allowsCode code := by
  rw [← allowsLength_iff_fits, ← allowsLength_iff_fits, ← Bool.eq_iff_iff] at h
  rw [allowsCode, allowsCode, h]
  rfl

section Agreement

variable {text : String}
  (hfits : (s.withGenerator g).Fits (s.codeOf text).length ↔
    (s.withGenerator g').Fits (s.codeOf text).length)

include hfits

/-- Generators that agree on the length of a text's code answer the text alike. -/
theorem locate_withGenerator_congr :
    (s.withGenerator g).locate text = (s.withGenerator g').locate text := by
  have hcode := allowsCode_withGenerator_congr hfits
  by_cases hstem : s.stem <+: text.toList
  · obtain ⟨rest, htext⟩ := hstem
    have hrest (g : Generator) : (s.withGenerator g).locate text =
        (s.withGenerator g).locateCode rest := locate_of_rest htext.symm
    rw [hrest, hrest]
    rw [codeOf, ← htext, List.drop_left] at hcode
    cases hchecked : s.template.checked with
    | false =>
        rw [hchecked, if_neg Bool.false_ne_true] at hcode
        rw [locateCode_unchecked (s := s.withGenerator g) hchecked,
          locateCode_unchecked (s := s.withGenerator g') hchecked, hcode]
    | true =>
        rw [hchecked, if_pos rfl] at hcode
        rw [locateCode, locateCode, checked_withGenerator, checked_withGenerator, hchecked,
          if_pos rfl, if_pos rfl, hcode]
        rfl
  · have hwrong (g : Generator) : (s.withGenerator g).locate text =
        .error (.wrongStem s.template.stem) := Judged.locate_eq (.wrongStem hstem)
    rw [hwrong, hwrong]

theorem check_withGenerator_congr :
    (s.withGenerator g).check text = (s.withGenerator g').check text := by
  rw [check, check, locate_withGenerator_congr hfits]

theorem decode_withGenerator_congr :
    (s.withGenerator g).decode text = (s.withGenerator g').decode text := by
  rw [decode, decode, locate_withGenerator_congr hfits]
  rfl

end Agreement

/-! ## Lengths -/

/-- A text of the plain length has a code of the width of the mask. -/
theorem length_codeOf_of_plain {text : String} (h : text.toList.length = s.plainLength) :
    (s.codeOf text).length = s.template.width := by
  rw [plainLength] at h
  rw [codeOf]
  cases hchecked : s.template.checked with
  | false =>
      rw [hchecked, if_neg Bool.false_ne_true] at h
      rw [if_neg Bool.false_ne_true, List.length_drop, h]
      omega
  | true =>
      rw [hchecked, if_pos rfl] at h
      rw [if_pos rfl, List.length_dropLast, List.length_drop, h]
      omega

/-- A code of the width of the mask fits under every generator. -/
theorem fits_withGenerator_width : (s.withGenerator g).Fits s.template.width := by
  cases hextensible : g.isExtensible with
  | true => exact (fits_of_extensible hextensible _).mpr (Nat.le_refl _)
  | false => exact (fits_of_bounded hextensible _).mpr rfl

/-- A bounded generator accepts texts of one length only. -/
theorem length_of_check (hbounded : s.template.generator.isExtensible = false) {text : String}
    (h : s.check text = .ok ()) : text.toList.length = s.plainLength := by
  obtain ⟨code, hshaped, hcarries⟩ := (s.check_eq_ok_iff text).mp h
  rw [hcarries.length_eq, (fits_of_bounded hbounded _).mp hshaped.fits, plainLength]

/-- A bounded generator accepts texts of the plain length only. -/
theorem exists_rejection_of_length_ne (hbounded : s.template.generator.isExtensible = false)
    {text : String} (h : text.toList.length ≠ s.plainLength) :
    ∃ rejection, s.check text = .error rejection := by
  cases hcheck : s.check text with
  | error rejection => exact ⟨rejection, rfl⟩
  | ok => exact absurd (length_of_check hbounded hcheck) h

/-- A value that the mask does not hold makes its identifier longer. -/
theorem plainLength_lt_of_mint {value : Nat} {id : String} (h : s.mint value = .ok id)
    (hbeyond : s.bases.prod ≤ value) : s.plainLength < id.toList.length := by
  obtain ⟨-, hcarries⟩ := (s.mint_eq_ok_iff_carries value id).mp h
  have hextension : s.extension value ≠ 0 := by
    rw [Ne, extension_eq_zero_iff, volume_eq_prod]
    exact Nat.not_lt.mpr hbeyond
  rw [hcarries.length_eq, List.length_map, length_digits, plainLength]
  omega

/-- A value that is refused for the capacity is not held. -/
theorem not_holds_of_beyondCapacity {value named capacity : Nat}
    (h : s.mint value = .error (.beyondCapacity named capacity)) : ¬ s.Holds value := by
  rw [mint_eq_iff] at h
  cases h with
  | beyond hbeyond => exact hbeyond

/-! ## The three generators -/

/-- **An extensible generator conserves the bounded ones.**  The two bounded
    generators cannot be told apart.  Below the volume of the mask an extensible
    generator mints what they mint, refusals included, and it answers a text of
    the one length that they accept as they do.  Where they are out of
    identifiers it goes on, with longer ones, unless the stem is foreign. -/
theorem extensible_conservative (s : Scheme) :
    (∀ n : UInt64, (s.withGenerator .random).mint n.toNat =
      (s.withGenerator .sequential).mint n.toNat) ∧
    (∀ text, (s.withGenerator .random).check text = (s.withGenerator .sequential).check text ∧
      (s.withGenerator .random).decode text = (s.withGenerator .sequential).decode text) ∧
    (∀ n : UInt64, n.toNat < s.bases.prod → (s.withGenerator .extensible).mint n.toNat =
      (s.withGenerator .sequential).mint n.toNat) ∧
    (∀ text : String, text.length = s.plainLength →
      (s.withGenerator .extensible).check text = (s.withGenerator .sequential).check text ∧
      (s.withGenerator .extensible).decode text = (s.withGenerator .sequential).decode text) ∧
    (∀ text : String, text.length ≠ s.plainLength →
      ∃ rejection, (s.withGenerator .sequential).check text = .error rejection) ∧
    (∀ n : UInt64, (∃ value capacity,
        (s.withGenerator .sequential).mint n.toNat = .error (.beyondCapacity value capacity)) →
      (s.template.checked = false ∨ ∀ c ∈ s.stem, c ∈ s.alphabet.symbols) →
      ∃ id, (s.withGenerator .extensible).mint n.toNat = .ok id ∧
        ∀ text, (s.withGenerator .sequential).check text = .ok () → text.length < id.length) := by
  refine ⟨fun n => ?_, fun text => ?_, fun n hn => ?_, fun text htext => ?_,
    fun text htext => ?_, ?_⟩
  · exact mint_withGenerator_congr Iff.rfl
  · exact ⟨check_withGenerator_congr Iff.rfl, decode_withGenerator_congr Iff.rfl⟩
  · exact mint_withGenerator_congr
      (iff_of_true (holds_withGenerator_of_lt hn) (holds_withGenerator_of_lt hn))
  · rw [← String.length_toList] at htext
    have hfits : (s.withGenerator .extensible).Fits (s.codeOf text).length ↔
        (s.withGenerator .sequential).Fits (s.codeOf text).length := by
      rw [length_codeOf_of_plain htext]
      exact iff_of_true fits_withGenerator_width fits_withGenerator_width
    exact ⟨check_withGenerator_congr hfits, decode_withGenerator_congr hfits⟩
  · rw [← String.length_toList] at htext
    exact exists_rejection_of_length_ne (s := s.withGenerator .sequential) rfl htext
  · rintro n ⟨value, capacity, hrefused⟩ hstem
    -- a value that is refused needs a longer code than the mask has
    have hbeyond : s.bases.prod ≤ n.toNat :=
      ((not_holds_iff _ _).mp (not_holds_of_beyondCapacity hrefused)).2
    have hforeign : ¬ (s.withGenerator .extensible).ForeignStem := s.not_foreignStem_iff.mpr hstem
    obtain ⟨id, hid⟩ := (exists_mint_eq_ok_iff _ n.toNat).mpr ⟨Or.inl rfl, hforeign⟩
    refine ⟨id, hid, fun text htext => ?_⟩
    have hplain : text.toList.length = s.plainLength :=
      length_of_check (s := s.withGenerator .sequential) rfl htext
    have hlonger : s.plainLength < id.toList.length :=
      plainLength_lt_of_mint (s := s.withGenerator .extensible) hid hbeyond
    rw [← String.length_toList, ← String.length_toList, hplain]
    exact hlonger

/-- In `bc.zedk` the value 289 is minted as in `bc.sedk`, where 290 is refused; its
    identifier in `bc.zedk` is longer than all of `bc.sedk`, which rejects it. -/
theorem specimen_conserves :
    (specimen.withGenerator .extensible).mint 289 =
        (specimen.withGenerator .sequential).mint 289 ∧
      (specimen.withGenerator .extensible).decode "bcz96" =
        (specimen.withGenerator .sequential).decode "bcz96" ∧
      (∃ rejection,
        (specimen.withGenerator .sequential).check "bc1008" = .error rejection) ∧
      ∃ id, (specimen.withGenerator .extensible).mint 290 = .ok id ∧
        ∀ text, (specimen.withGenerator .sequential).check text = .ok () →
          text.length < id.length := by
  obtain ⟨-, -, hbelow, hplain, hother, hbeyond⟩ := extensible_conservative specimen
  have hrefused : (specimen.withGenerator .sequential).mint 290 =
      .error (.beyondCapacity 290 290) := by decide +kernel
  exact ⟨hbelow 289 (by decide +kernel), (hplain "bcz96" (by decide +kernel)).2,
    hother "bc1008" (by decide +kernel), hbeyond 290 ⟨290, 290, hrefused⟩ (Or.inr specimen_stem_mem)⟩

end OpaqueId.Scheme
