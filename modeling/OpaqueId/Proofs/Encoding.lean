import OpaqueId.Proofs.Numeral

/-! # Encoding: numerals as codes, and back

    A value is encoded if the scheme holds it (`Holds`): always if the
    generator is extensible, else below the volume of the mask.  Its code is
    the numeral of the value, symbol by symbol (`encode_eq_ok_iff`), and has
    the shape of the mask (`Holds.shaped`).

    Decoding such a code reads the number of the numeral, unless that is
    beyond the range of sequence values (`decodeCode_map_symbolFor`). -/

namespace OpaqueId

open MixedRadix

/-- A saturating product is the product, cut off at the largest count. -/
theorem Capacity.foldl_min_mul {bases : List Nat} (hpos : ∀ base ∈ bases, 0 < base)
    (start : Nat) :
    bases.foldl (fun count base => min (count * base) largest) (min start largest) =
      min (start * volume bases) largest := by
  induction bases generalizing start with
  | nil => rw [volume, Nat.mul_one]; rfl
  | cons base bases ih =>
      have hbase : 0 < base := hpos base (List.mem_cons_self ..)
      -- once the count is cut off, a further factor leaves it there
      have hstep : min (min start largest * base) largest = min (start * base) largest := by
        rcases Nat.le_total start largest with hle | hle
        · rw [Nat.min_eq_left hle]
        · rw [Nat.min_eq_right hle, Nat.min_eq_right (Nat.le_mul_of_pos_right _ hbase),
            Nat.min_eq_right (hle.trans (Nat.le_mul_of_pos_right _ hbase))]
      rw [List.foldl_cons, hstep, ih fun b hb => hpos b (List.mem_cons_of_mem _ hb), volume,
        Nat.mul_assoc]

/-- A bounded capacity is the volume, up to the largest number that can be stored. -/
theorem Capacity.ofBases_eq {bases : List Nat} (hpos : ∀ base ∈ bases, 0 < base) :
    ofBases bases = .bounded (min (volume bases) largest) := by
  have h := foldl_min_mul hpos 1
  rw [Nat.one_mul] at h
  exact congrArg bounded h

namespace Scheme

/-- The value has a code: the generator is extensible, or the mask has room. -/
def Holds (s : Scheme) (value : Nat) : Prop :=
  s.template.generator.isExtensible = true ∨ value < volume s.bases

theorem capacity_eq (s : Scheme) :
    s.capacity = if s.template.generator.isExtensible then .unbounded
      else .bounded (min (volume s.bases) Capacity.largest) := by
  rw [capacity, Capacity.ofBases_eq s.bases_pos]

/-- No position is added for the numbers that the mask has room for. -/
theorem extension_eq_zero_iff (s : Scheme) (value : Nat) :
    s.extension value = 0 ↔ value < volume s.bases := by
  rw [← Nat.le_zero, extension_le_iff, Nat.add_zero, basesFor_width]

/-- The digits of a value that is held are as many as a code may have. -/
theorem Holds.fits {s : Scheme} {value : Nat} (h : s.Holds value) :
    s.Fits (s.digits value).length := by
  rw [length_digits]
  cases hextensible : s.template.generator.isExtensible with
  | true => exact (fits_of_extensible hextensible _).mpr (Nat.le_add_right ..)
  | false =>
      rw [fits_of_bounded hextensible]
      rcases h with htrue | hroom
      · exact absurd (hextensible.symm.trans htrue) Bool.false_ne_true
      · rw [(s.extension_eq_zero_iff value).mpr hroom]
        rfl

/-- The symbols of these digits are in shape. -/
theorem Holds.shaped {s : Scheme} {value : Nat} (h : s.Holds value) :
    s.Shaped ((s.digits value).map s.alphabet.symbolFor) :=
  shaped_map_symbolFor h.fits (s.numeral_digits value).within

/-- The code of a value is its numeral, symbol by symbol. -/
theorem encode_of_holds {s : Scheme} {value : Nat} (h : s.Holds value) :
    s.encode value = .ok ((s.digits value).map s.alphabet.symbolFor) := by
  rw [encode, capacity_eq]
  cases hextensible : s.template.generator.isExtensible with
  | true => rfl
  | false =>
      rcases h with htrue | hroom
      · exact absurd (hextensible.symm.trans htrue) Bool.false_ne_true
      · -- the mask has room, so nothing is left over
        rw [if_neg Bool.false_ne_true]
        dsimp only
        rw [split_snd, Nat.div_eq_of_lt hroom, if_pos rfl]

/-- A value that the scheme does not hold is answered with the capacity. -/
theorem encode_of_not_holds {s : Scheme} {value : Nat} (h : ¬ s.Holds value) :
    s.encode value =
      .error (.beyondCapacity value (min (volume s.bases) Capacity.largest)) := by
  have hbounded : s.template.generator.isExtensible = false := by
    cases hextensible : s.template.generator.isExtensible with
    | false => rfl
    | true => exact absurd (Or.inl hextensible) h
  have hbeyond : volume s.bases ≤ value := Nat.not_lt.mp fun hroom => h (Or.inr hroom)
  have hleft : value / volume s.bases ≠ 0 := by
    have := Nat.div_pos hbeyond s.volume_bases_pos
    omega
  rw [encode, capacity_eq, hbounded, if_neg Bool.false_ne_true]
  dsimp only
  rw [split_snd, if_neg hleft]

/-- The code of a value is the text of its digits, and only values that are held have
    one. -/
theorem encode_eq_ok_iff (s : Scheme) (value : Nat) (code : List Char) :
    s.encode value = .ok code ↔
      s.Holds value ∧ code = (s.digits value).map s.alphabet.symbolFor := by
  by_cases h : s.Holds value
  · rw [encode_of_holds h, Except.ok.injEq]
    constructor
    · intro hcode
      exact ⟨h, hcode.symm⟩
    · rintro ⟨-, hcode⟩
      exact hcode.symm
  · rw [encode_of_not_holds h]
    constructor
    · intro hcode
      exact nomatch hcode
    · rintro ⟨hholds, -⟩
      exact absurd hholds h

/-! ## Decoding -/

/-- A code in shape is the text of a numeral. -/
theorem Shaped.exists_numeral {s : Scheme} {code : List Char} (h : s.Shaped code) :
    ∃ digits, s.Numeral digits ∧ code = digits.map s.alphabet.symbolFor := by
  obtain ⟨digits, hwithin, hcode⟩ := h.exists_digits
  have hlength : code.length = digits.length := by rw [hcode, List.length_map]
  refine ⟨digits, ⟨?_, ?_⟩, hcode⟩
  · rw [← hlength]
    exact h.fits.width_le
  · rw [← hlength]
    exact hwithin

/-- The code of a numeral is decoded to its number, if that is in range. -/
theorem decodeCode_map_symbolFor {s : Scheme} {digits : List Nat} (h : s.Numeral digits) :
    s.decodeCode (digits.map s.alphabet.symbolFor) =
      if s.numberOf digits < valueLimit then .ok (s.numberOf digits) else .error .overflow := by
  have hlimit : 0 < valueLimit := by decide
  rw [decodeCode, digitsOf?_map_symbolFor h.within]
  dsimp only
  rw [List.length_map, valueBelow?_eq hlimit (s.basesFor_pos _), ← numberOf]
  by_cases hrange : s.numberOf digits < valueLimit
  · rw [if_pos hrange, if_pos hrange]
  · rw [if_neg hrange, if_neg hrange]

end Scheme

end OpaqueId
