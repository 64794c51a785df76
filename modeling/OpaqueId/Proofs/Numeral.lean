import OpaqueId.Proofs.Shape

/-! # Numerals: the digits of a code and the number they stand for

    Digits are a numeral of a scheme if there are at least as many as the mask
    has positions and each stays below its base.  A numeral may have zeros in
    front that it could do without; `digits` writes every number as the one
    numeral that has none (`eq_digits_of_canonical`).

    The argument is a count.  One more position in front multiplies the volume
    by the last base, `extension` is the least number of such positions that
    makes room for the number (`extension_le_iff`), and a numeral whose first
    digit is not zero could not do with one position less. -/

namespace OpaqueId.Scheme

open MixedRadix

/-- The number that the digits of a code stand for. -/
def numberOf (s : Scheme) (digits : List Nat) : Nat :=
  value (s.basesFor digits.length) digits

/-- Digits that a code of the scheme can have. -/
structure Numeral (s : Scheme) (digits : List Nat) : Prop where
  /-- there is a digit for each position of the mask -/
  width_le : s.template.width ≤ digits.length
  /-- each digit stays below its base -/
  within : Within (s.basesFor digits.length) digits

/-- The digits have no zero in front that the mask does not ask for. -/
def Canonical (s : Scheme) (digits : List Nat) : Prop :=
  digits.length = s.template.width ∨ digits.head? ≠ some 0

/-! ## Room for a number -/

/-- One position more in front of the mask. -/
theorem basesFor_succ (s : Scheme) {length : Nat} (h : s.template.width ≤ length) :
    s.basesFor (length + 1) = s.lastBase :: s.basesFor length := by
  rw [basesFor_eq, basesFor_eq, Nat.succ_sub h, List.replicate_succ, List.cons_append]

/-- There is a base for each position, down to the width of the mask. -/
theorem length_basesFor (s : Scheme) {length : Nat} (h : s.template.width ≤ length) :
    (s.basesFor length).length = length := by
  rw [basesFor, List.length_map, s.length_classesFor h]

/-- Positions in front of the mask multiply its volume by the last base. -/
theorem volume_basesFor (s : Scheme) (count : Nat) :
    volume (s.basesFor (s.template.width + count)) = s.lastBase ^ count * volume s.bases := by
  rw [basesFor_eq, Nat.add_sub_cancel_left, volume_append, volume_replicate]

/-- The extension is the least number of positions in front of the mask that
    makes room for the number. -/
theorem extension_le_iff (s : Scheme) (number count : Nat) :
    s.extension number ≤ count ↔
      number < volume (s.basesFor (s.template.width + count)) := by
  rw [extension, length_le_iff s.one_lt_lastBase, split_snd, volume_basesFor,
    Nat.div_lt_iff_lt_mul s.volume_bases_pos]

/-! ## The digits of a number are a numeral -/

@[simp] theorem length_digits (s : Scheme) (number : Nat) :
    (s.digits number).length = s.template.width + s.extension number := by
  rw [digits, length_split, s.length_basesFor (Nat.le_add_right ..)]

/-- The digits of a number are a numeral. -/
theorem numeral_digits (s : Scheme) (number : Nat) : s.Numeral (s.digits number) := by
  constructor
  · rw [length_digits]
    exact Nat.le_add_right ..
  · rw [length_digits, digits]
    exact within_split (s.basesFor_pos _) number

/-- The digits of a number stand for it. -/
@[simp] theorem numberOf_digits (s : Scheme) (number : Nat) :
    s.numberOf (s.digits number) = number := by
  have hroom := (s.extension_le_iff number _).mp (Nat.le_refl (s.extension number))
  have hvalue := value_split (s.basesFor (s.template.width + s.extension number)) number
  rw [split_snd, Nat.div_eq_of_lt hroom, Nat.zero_mul, Nat.zero_add] at hvalue
  rw [numberOf, length_digits]
  exact hvalue

/-! ## Zeros in front -/

/-- A digit in front of a numeral counts in volumes of the numeral. -/
theorem numberOf_cons (s : Scheme) {digit : Nat} {digits : List Nat}
    (h : s.template.width ≤ digits.length) :
    s.numberOf (digit :: digits) =
      digit * volume (s.basesFor digits.length) + s.numberOf digits := by
  rw [numberOf, List.length_cons, s.basesFor_succ h,
    value_cons _ _ _ _ (s.length_basesFor h).symm, numberOf]

/-- Behind a digit in front of the mask there is a numeral. -/
theorem Numeral.tail {s : Scheme} {digit : Nat} {digits : List Nat}
    (h : s.Numeral (digit :: digits)) (hwidth : s.template.width ≤ digits.length) :
    s.Numeral digits := by
  have hwithin := h.within
  rw [List.length_cons, s.basesFor_succ hwidth] at hwithin
  exact ⟨hwidth, (List.forall₂_cons.mp hwithin).2⟩

theorem Numeral.numberOf_lt {s : Scheme} {digits : List Nat} (h : s.Numeral digits) :
    s.numberOf digits < volume (s.basesFor digits.length) :=
  value_lt_volume h.within

/-- A canonical numeral has no more positions than its number needs. -/
theorem length_le_of_canonical {s : Scheme} {digits : List Nat} (h : s.Numeral digits)
    (hcanonical : s.Canonical digits) :
    digits.length ≤ s.template.width + s.extension (s.numberOf digits) := by
  by_contra hlong
  obtain ⟨digit, rest, rfl⟩ : ∃ digit rest, digits = digit :: rest := by
    cases digits with
    | nil => exact absurd (Nat.zero_le _) hlong
    | cons digit rest => exact ⟨digit, rest, rfl⟩
  rw [List.length_cons] at hlong
  have hwidth : s.template.width ≤ rest.length := by omega
  -- the first digit is not zero, so the number fills the positions behind it
  have hdigit : digit ≠ 0 := by
    rcases hcanonical with hlength | hhead
    · rw [List.length_cons] at hlength
      omega
    · exact fun hzero => hhead (congrArg some hzero)
  have hfull : volume (s.basesFor rest.length) ≤ s.numberOf (digit :: rest) := by
    rw [s.numberOf_cons hwidth]
    exact Nat.le_add_right_of_le (Nat.le_mul_of_pos_left _ (Nat.pos_of_ne_zero hdigit))
  have hroom := (s.extension_le_iff (s.numberOf (digit :: rest))
    (rest.length - s.template.width)).mp (by omega)
  rw [Nat.add_sub_cancel' hwidth] at hroom
  exact absurd hroom (Nat.not_lt.mpr hfull)

/-- A numeral has as many positions as its number needs, or more. -/
theorem Numeral.extension_le {s : Scheme} {digits : List Nat} (h : s.Numeral digits) :
    s.template.width + s.extension (s.numberOf digits) ≤ digits.length := by
  have hroom : s.extension (s.numberOf digits) ≤ digits.length - s.template.width := by
    rw [extension_le_iff, Nat.add_sub_cancel' h.width_le]
    exact h.numberOf_lt
  have := h.width_le
  omega

/-- **One numeral for every number**: without needless zeros in front, the
    digits of a number are those that are written for it. -/
theorem eq_digits_of_canonical {s : Scheme} {digits : List Nat} (h : s.Numeral digits)
    (hcanonical : s.Canonical digits) : s.digits (s.numberOf digits) = digits := by
  have hlength : s.template.width + s.extension (s.numberOf digits) = digits.length :=
    Nat.le_antisymm h.extension_le (length_le_of_canonical h hcanonical)
  have hdigits := s.numeral_digits (s.numberOf digits)
  have hvalue := s.numberOf_digits (s.numberOf digits)
  have hwithin := hdigits.within
  -- both are numerals under the same bases
  rw [length_digits, hlength] at hwithin
  rw [numberOf, length_digits, hlength, numberOf] at hvalue
  exact value_injective hwithin h.within hvalue

end OpaqueId.Scheme
