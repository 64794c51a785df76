import OpaqueId.Proofs.RoundTrip

/-! # Decoding: the exact value of every accepted text

    The decoder multiplies and adds from the left and stops at the first
    number that is too large for a sequence value.  What it computes can be
    said without it: a position of a code counts as many units as the
    positions behind it hold numbers, and the value of a code is the sum of
    its digits, each times what its position counts (`expansion`).

    Main statement: `decode_exact`.  A text is decoded if and only if it is
    accepted and that sum, taken without any limit, is a sequence value;
    stopping early never loses one. -/

namespace OpaqueId

open MixedRadix

/-- What one unit of each position counts: the volume of the bases behind it. -/
def MixedRadix.placeValues : (bases : List Nat) → List Nat
  | [] => []
  | _ :: bases => volume bases :: placeValues bases

/-- Reading digits from the left comes to the sum of the digits, each times
    what its position counts. -/
theorem MixedRadix.value_eq_sum {bases digits : List Nat} (h : digits.length = bases.length) :
    value bases digits = (List.zipWith (· * ·) digits (placeValues bases)).sum := by
  induction bases generalizing digits with
  | nil =>
      rw [List.eq_nil_of_length_eq_zero h]
      rfl
  | cons base bases ih =>
      cases digits with
      | nil => exact nomatch h
      | cons digit digits =>
          have hrest : digits.length = bases.length := Nat.succ.inj h
          rw [value_cons _ _ _ _ hrest, ih hrest, placeValues, List.zipWith_cons_cons,
            List.sum_cons]

namespace Scheme

/-- The bases of a code of the given length: those of the mask, and that of its
    last class for every position in front of it. -/
def positionBases (s : Scheme) (length : Nat) : List Nat :=
  List.replicate (length - s.template.width) (s.lastClass.base s.alphabet)
    ++ s.template.mask.map (SymbolClass.base s.alphabet)

/-- The exact number that the digits of a code stand for. -/
def expansion (s : Scheme) (digits : List Nat) : Nat :=
  (List.zipWith (· * ·) digits (placeValues (s.positionBases digits.length))).sum

/-- The base of a position is that of its class, or of the last class in front of the
    mask. -/
theorem positionBases_eq (s : Scheme) (length : Nat) :
    s.positionBases length = s.basesFor length := by
  rw [basesFor_eq, lastBase_eq]
  rfl

/-- The expansion of a numeral is the number that it stands for. -/
theorem Numeral.expansion_eq {s : Scheme} {digits : List Nat} (h : s.Numeral digits) :
    s.expansion digits = s.numberOf digits := by
  rw [expansion, positionBases_eq, numberOf, value_eq_sum h.within.length_eq]

/-! ## Rejected and accepted texts -/

/-- Decoding begins with the check. -/
theorem decode_of_check_error {s : Scheme} {text : String} {rejection : Rejection}
    (h : s.check text = .error rejection) : s.decode text = .error rejection := by
  rw [check] at h
  rw [decode]
  cases hlocate : s.locate text with
  | error found =>
      rw [hlocate] at h
      have hfound : found = rejection := Except.error.inj h
      rw [hfound]
  | ok code =>
      rw [hlocate] at h
      cases h

/-- The code of an accepted text is a numeral, symbol by symbol, and it is
    decoded to the number of the numeral if that is a sequence value. -/
theorem exists_numeral_of_check {s : Scheme} {text : String} (h : s.check text = .ok ()) :
    ∃ digits, s.Numeral digits ∧ s.codeOf text = digits.map s.alphabet.symbolFor ∧
      s.decode text =
        if s.expansion digits < valueLimit then .ok (s.expansion digits)
        else .error .overflow := by
  obtain ⟨code, hshaped, hcarries⟩ := (s.check_eq_ok_iff text).mp h
  obtain ⟨digits, hnumeral, rfl⟩ := hshaped.exists_numeral
  refine ⟨digits, hnumeral, hcarries.codeOf_eq, ?_⟩
  rw [hnumeral.expansion_eq]
  exact decode_of_carries hnumeral hshaped hcarries

/-- Each symbol of a numeral's code has its digit for index. -/
theorem Numeral.forall₂_index? {s : Scheme} {digits : List Nat} (h : s.Numeral digits) :
    List.Forall₂ (fun c digit => s.alphabet.index? c = some digit)
      (digits.map s.alphabet.symbolFor) digits :=
  (s.alphabet.mapM_index?_eq_some_iff _ digits).mp (digitsOf?_map_symbolFor h.within)

/-- A code has one list of digits. -/
theorem eq_of_forall₂_index? {s : Scheme} {code : List Char} {digits expected : List Nat}
    (h : List.Forall₂ (fun c digit => s.alphabet.index? c = some digit) code digits)
    (hexpected : s.digitsOf? code = some expected) : digits = expected := by
  have hdigits := (s.alphabet.mapM_index?_eq_some_iff code digits).mpr h
  exact Option.some.inj (hdigits.symm.trans hexpected)

/-- A decoded value is one that the capacity contains. -/
theorem contains_of_decode {s : Scheme} {text : String} {value : Nat}
    (h : s.decode text = .ok value) : s.capacity.contains value = true := by
  obtain ⟨digits, hnumeral, hshaped, -, rfl, hrange⟩ := exists_numeral_of_decode h
  rw [s.capacity_contains_iff hrange]
  exact holds_numberOf hnumeral hshaped

/-- **Decoding is exact.**  A rejected text is answered with its rejection.  In
    an accepted text every symbol of the code has an index below the base of its
    position, and the text is decoded to the exact sum of these indices, each
    times what its position counts, if that has 64 bits; else it overflows.  The
    values of a scheme that cannot be extended are within its capacity. -/
theorem decode_exact (s : Scheme) (text : String) :
    (∀ rejection, s.check text = .error rejection → s.decode text = .error rejection) ∧
    (s.check text = .ok () → ∃ digits,
      List.Forall₂ (fun c digit => s.alphabet.index? c = some digit) (s.codeOf text) digits ∧
      List.Forall₂ (fun base digit => digit < base)
        (s.positionBases (s.codeOf text).length) digits ∧
      (s.decode text = .ok (s.expansion digits) ↔ s.expansion digits ≤ 2 ^ 64 - 1) ∧
      (s.decode text = .error .overflow ↔ 2 ^ 64 ≤ s.expansion digits)) ∧
    (s.template.generator.isExtensible = false → ∀ value, s.decode text = .ok value →
      s.capacity.contains value = true) := by
  refine ⟨fun rejection h => decode_of_check_error h, fun h => ?_,
    fun _ value h => contains_of_decode h⟩
  obtain ⟨digits, hnumeral, hcode, hdecode⟩ := exists_numeral_of_check h
  have hlimit : valueLimit = 2 ^ 64 := rfl
  have hwithin : List.Forall₂ (fun base digit => digit < base)
      (s.positionBases (s.codeOf text).length) digits := by
    rw [hcode, List.length_map, positionBases_eq]
    exact hnumeral.within
  refine ⟨digits, ?_, hwithin, ?_⟩
  · rw [hcode]
    exact hnumeral.forall₂_index?
  · rw [hdecode]
    -- the expansion has 64 bits or overflows
    by_cases hrange : s.expansion digits < valueLimit
    · rw [if_pos hrange]
      constructor
      · exact ⟨fun _ => by omega, fun _ => rfl⟩
      · exact ⟨fun h => (nomatch h), fun _ => by omega⟩
    · rw [if_neg hrange]
      constructor
      · exact ⟨fun h => (nomatch h), fun _ => by omega⟩
      · exact ⟨fun _ => by omega, fun _ => rfl⟩

/-- In `bc.zedk` two needless zeros do no harm: the first text stands for the
    largest sequence value, the second for the number after it. -/
theorem specimen_decodes_to_limit :
    specimen.decode "bc0063609462323136384v5p" = .ok (2 ^ 64 - 1) ∧
      specimen.decode "bc0063609462323136384v6g" = .error .overflow := by
  constructor
  · obtain ⟨digits, hsymbols, -, hvalue, -⟩ :=
      (decode_exact specimen "bc0063609462323136384v5p").2.1 (by decide +kernel)
    have hdigits : digits = [0, 0, 6, 3, 6, 0, 9, 4, 6, 2, 3, 2, 3, 1, 3, 6, 3, 8, 4, 25, 5] :=
      eq_of_forall₂_index? hsymbols (by decide +kernel)
    have hexpansion : specimen.expansion digits = 2 ^ 64 - 1 := by
      rw [hdigits]
      decide +kernel
    rw [hexpansion] at hvalue
    exact hvalue.mpr (Nat.le_refl _)
  · obtain ⟨digits, hsymbols, -, -, hover⟩ :=
      (decode_exact specimen "bc0063609462323136384v6g").2.1 (by decide +kernel)
    have hdigits : digits = [0, 0, 6, 3, 6, 0, 9, 4, 6, 2, 3, 2, 3, 1, 3, 6, 3, 8, 4, 25, 6] :=
      eq_of_forall₂_index? hsymbols (by decide +kernel)
    have hexpansion : specimen.expansion digits = 2 ^ 64 := by
      rw [hdigits]
      decide +kernel
    rw [hexpansion] at hover
    exact hover.mpr (Nat.le_refl _)

end Scheme

end OpaqueId
