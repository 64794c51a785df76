import OpaqueId.Proofs.Lookup
import OpaqueId.Proofs.RoundTrip
import OpaqueId.Proofs.SerialForms

/-! # Uniform masks: ordinary numerals

    Where all classes of a mask are the same, so are all bases, those in front of the
    mask included.  The digits of the mask and the digits in front of it are then
    digits of one numeral, and what the mask adds to it is zeros
    (`digits_of_uniform`).

    A decimal mask asks nothing of the alphabet but its first ten symbols, which are
    the same in all: bases, shape and digits of a code do not change with the
    alphabet, and without a check symbol nothing else depends on it
    (`mint_withAlphabet`, `locate_withAlphabet`, `decode_withAlphabet`).

    Main statement: `uniform_mask`. -/

namespace OpaqueId

/-- The digits of a number in one base, the most significant first.  There is no zero in
    front, and zero is the one digit zero. -/
def MixedRadix.numeral (base n : Nat) : List Nat :=
  if n = 0 then [0] else (Nat.digits base n).reverse

namespace MixedRadix

/-- Under equal bases a number that they can hold is split into its digits, behind zeros. -/
theorem split_replicate {base : Nat} (hbase : 1 < base) (count : Nat) {n : Nat}
    (h : n < base ^ count) :
    (split (List.replicate count base) n).1 = (Nat.digits base n).reverse.leftpad count 0 := by
  induction count generalizing n with
  | zero =>
      obtain rfl : n = 0 := Nat.lt_one_iff.mp h
      rw [Nat.digits_zero]
      rfl
  | succ count ih =>
      have hrest : n / base < base ^ count := by
        rw [Nat.pow_succ] at h
        exact Nat.div_lt_of_lt_mul (by rwa [Nat.mul_comm])
      rw [List.replicate_succ', split_append]
      show (split (List.replicate count base) (n / base)).1 ++ [n % base] = _
      rw [ih hrest]
      by_cases hn : n = 0
      · subst hn
        simp [List.leftpad, List.replicate_succ']
      · rw [Nat.digits_def' hbase (Nat.pos_of_ne_zero hn)]
        simp [List.leftpad]

/-- The zeros that fill a mask up hide that zero has no digits. -/
theorem leftpad_digits {base width : Nat} (hwidth : 0 < width) (n : Nat) :
    (Nat.digits base n).reverse.leftpad width 0 = (numeral base n).leftpad width 0 := by
  rw [numeral]
  by_cases hn : n = 0
  · obtain ⟨width, rfl⟩ := Nat.exists_eq_add_one_of_ne_zero hwidth.ne'
    rw [if_pos hn, hn, Nat.digits_zero]
    simp [List.leftpad, List.replicate_succ']
  · rw [if_neg hn]

/-- A numeral is one digit, or the numeral of the quotient and the remainder behind it. -/
theorem numeral_eq_if {base : Nat} (hbase : 1 < base) (n : Nat) :
    numeral base n = if n < base then [n] else numeral base (n / base) ++ [n % base] := by
  by_cases hn : n = 0
  · rw [numeral, if_pos hn, hn, if_pos (Nat.zero_lt_of_lt hbase)]
  · rw [numeral, if_neg hn]
    by_cases hlt : n < base
    · rw [if_pos hlt, Nat.digits_of_lt base n hn hlt]
      rfl
    · have hquotient : n / base ≠ 0 := by
        have := Nat.div_pos (Nat.not_lt.mp hlt) (Nat.zero_lt_of_lt hbase)
        omega
      rw [if_neg hlt, Nat.digits_def' hbase (Nat.pos_of_ne_zero hn), List.reverse_cons, numeral,
        if_neg hquotient]

end MixedRadix

open MixedRadix

namespace Alphabet

/-- A digit below ten has its decimal digit for a symbol. -/
theorem symbolFor_of_lt_ten (a : Alphabet) {digit : Nat} (h : digit < 10) :
    a.symbolFor digit = Nat.digitChar digit :=
  symbolFor_of_index? (a.index?_digitChar ⟨digit, h⟩)

/-- Under every alphabet a decimal numeral is written as numbers are. -/
theorem map_symbolFor_numeral (a : Alphabet) (n : Nat) :
    (numeral 10 n).map a.symbolFor = (toString n).toList := by
  rw [Nat.toString_eq_ofList_toDigits, String.toList_ofList]
  induction n using Nat.strongRecOn with
  | ind n ih =>
      rw [numeral_eq_if (by decide), Nat.toDigits_eq_if (by decide)]
      by_cases hlt : n < 10
      · rw [if_pos hlt, if_pos hlt, List.map_singleton, a.symbolFor_of_lt_ten hlt]
      · rw [if_neg hlt, if_neg hlt, List.map_append, ih (n / 10) (by omega), List.map_singleton,
          a.symbolFor_of_lt_ten (Nat.mod_lt n (by decide))]

end Alphabet

namespace Scheme

/-! ## One class -/

section Uniform

variable {s : Scheme} {k : SymbolClass} (hmask : ∀ c ∈ s.template.mask, c = k)

include hmask

/-- In front of the mask and in it, every position has the one class. -/
theorem eq_of_mem_classesFor {length : Nat} : ∀ c ∈ s.template.classesFor length, c = k := by
  rw [classesFor_eq, List.forall_mem_append]
  refine ⟨fun c hc => ?_, hmask⟩
  rw [List.eq_of_mem_replicate hc]
  exact hmask _ (List.getLast_mem s.mask_ne_nil)

/-- Positions in front of a uniform mask are like those in it. -/
theorem classesFor_of_uniform {length : Nat} (h : s.template.width ≤ length) :
    s.template.classesFor length = List.replicate length k :=
  List.eq_replicate_iff.mpr ⟨s.length_classesFor h, eq_of_mem_classesFor hmask⟩

/-- Positions of a uniform mask have the volume of a power. -/
theorem volume_basesFor_of_uniform (count : Nat) :
    volume (s.basesFor (s.template.width + count)) =
      k.base s.alphabet ^ (s.template.width + count) := by
  rw [basesFor, classesFor_of_uniform hmask (Nat.le_add_right ..), List.map_replicate,
    volume_replicate]

/-- The digits of a value are those of its numeral, behind zeros that fill the mask up. -/
theorem digits_of_uniform (value : Nat) :
    s.digits value = (numeral (k.base s.alphabet) value).leftpad s.template.width 0 := by
  have hbase : 1 < k.base s.alphabet := by
    have := k.ten_le_base s.alphabet
    omega
  have hwidth : 0 < s.template.width := List.length_pos_of_ne_nil s.mask_ne_nil
  -- mask and extension together hold just as many positions as the numeral has digits
  have hextension (count : Nat) : s.extension value ≤ count ↔
      (Nat.digits (k.base s.alphabet) value).length ≤ s.template.width + count := by
    rw [extension_le_iff, volume_basesFor_of_uniform hmask, Nat.digits_length_le_iff hbase]
  have hroom := (hextension _).mp (Nat.le_refl _)
  have hleast := (hextension
    ((Nat.digits (k.base s.alphabet) value).length - s.template.width)).mpr (by omega)
  rw [digits, basesFor, classesFor_of_uniform hmask (Nat.le_add_right ..), List.map_replicate,
    split_replicate hbase _ ((Nat.digits_length_le_iff hbase _).mp hroom),
    ← leftpad_digits hwidth, List.leftpad, List.leftpad, List.length_reverse]
  congr 2
  omega

/-- A code is in shape if its length fits the mask and the one class permits its symbols. -/
theorem shaped_iff_of_uniform (code : List Char) :
    s.Shaped code ↔ s.Fits code.length ∧ ∀ c ∈ code, k.Permits s.alphabet c := by
  rw [shaped_iff_follows]
  refine and_congr_right fun hfits => ?_
  have hfollows := follows_replicate_append_iff s.alphabet code.length k [] code (Nat.le_refl _)
  rw [List.append_nil, List.take_length, List.drop_length] at hfollows
  rw [classesFor_of_uniform hmask hfits.width_le, hfollows]
  exact and_iff_left List.Forall₂.nil

/-- The code of an identifier is the numeral of its value, with zeros in front up to the
    width. -/
theorem codeOf_of_uniform {value : Nat} {id : String} (h : s.mint value = .ok id) :
    s.codeOf id = ((numeral (k.base s.alphabet) value).map s.alphabet.symbolFor).leftpad
      s.template.width '0' := by
  obtain ⟨-, hcarries⟩ := (s.mint_eq_ok_iff_carries value id).mp h
  rw [hcarries.codeOf_eq, digits_of_uniform hmask, List.leftpad, List.leftpad, List.map_append,
    List.map_replicate, Alphabet.symbolFor_zero, List.length_map]

end Uniform

/-! ## Decimal masks under two alphabets -/

/-- The scheme over another alphabet. -/
def withAlphabet (s : Scheme) (a : Alphabet) : Scheme := ⟨s.template, a, s.mask_ne_nil⟩

section Decimal

variable {s : Scheme} (hmask : ∀ c ∈ s.template.mask, c = .decimal) (a : Alphabet)

include hmask

/-- Ten symbols are in every alphabet, so decimal bases do not depend on it. -/
theorem basesFor_withAlphabet (length : Nat) :
    (s.withAlphabet a).basesFor length = s.basesFor length := by
  refine List.map_congr_left fun c hc => ?_
  rw [eq_of_mem_classesFor (s := s) hmask c hc]
  rfl

theorem bases_withAlphabet : (s.withAlphabet a).bases = s.bases := by
  rw [← basesFor_width, ← basesFor_width]
  exact basesFor_withAlphabet hmask a _

theorem capacity_withAlphabet : (s.withAlphabet a).capacity = s.capacity := by
  rw [capacity, capacity, bases_withAlphabet hmask a]
  rfl

theorem holds_withAlphabet_iff (value : Nat) :
    (s.withAlphabet a).Holds value ↔ s.Holds value := by
  rw [Holds, Holds, bases_withAlphabet hmask a]
  rfl

theorem numberOf_withAlphabet (digits : List Nat) :
    (s.withAlphabet a).numberOf digits = s.numberOf digits := by
  rw [numberOf, numberOf, basesFor_withAlphabet hmask a]

theorem numeral_withAlphabet_iff (digits : List Nat) :
    (s.withAlphabet a).Numeral digits ↔ s.Numeral digits := by
  constructor
  · rintro ⟨hwidth, hwithin⟩
    rw [basesFor_withAlphabet hmask a] at hwithin
    exact ⟨hwidth, hwithin⟩
  · rintro ⟨hwidth, hwithin⟩
    rw [← basesFor_withAlphabet hmask a] at hwithin
    exact ⟨hwidth, hwithin⟩

/-- The symbols of a numeral are the same under both alphabets. -/
theorem map_symbolFor_withAlphabet {digits : List Nat} (h : s.Numeral digits) :
    digits.map a.symbolFor = digits.map s.alphabet.symbolFor := by
  have hten : ∀ digit ∈ digits, digit < 10 := by
    refine h.within.lt_of_le fun base hbase => ?_
    obtain ⟨k, hk, rfl⟩ := List.mem_map.mp hbase
    rw [eq_of_mem_classesFor hmask k hk]
    exact Nat.le_refl 10
  refine List.map_congr_left fun digit hdigit => ?_
  rw [a.symbolFor_of_lt_ten (hten digit hdigit),
    s.alphabet.symbolFor_of_lt_ten (hten digit hdigit)]

/-- The digits of a value do not depend on the alphabet. -/
theorem digits_withAlphabet (value : Nat) :
    (s.withAlphabet a).digits value = s.digits value := by
  rw [digits_of_uniform (s := s.withAlphabet a) hmask, digits_of_uniform hmask]
  rfl

/-- Decimal digits have the same symbols in every alphabet, so the code is the same. -/
theorem encode_withAlphabet (value : Nat) :
    (s.withAlphabet a).encode value = s.encode value := by
  by_cases hholds : s.Holds value
  · rw [encode_of_holds hholds, encode_of_holds ((holds_withAlphabet_iff hmask a value).mpr hholds),
      digits_withAlphabet hmask]
    exact congrArg Except.ok (map_symbolFor_withAlphabet hmask a (s.numeral_digits value))
  · rw [encode_of_not_holds hholds,
      encode_of_not_holds (mt (holds_withAlphabet_iff hmask a value).mp hholds),
      bases_withAlphabet hmask]

/-- The same codes are allowed. -/
theorem allowsCode_withAlphabet (code : List Char) :
    (s.withAlphabet a).allowsCode code = s.allowsCode code := by
  rw [Bool.eq_iff_iff, allowsCode_iff_shaped, allowsCode_iff_shaped, shaped_iff_of_uniform hmask,
    shaped_iff_of_uniform (s := s.withAlphabet a) hmask]
  exact Iff.rfl

section Unchecked

variable (hchecked : s.template.checked = false)

include hchecked

/-- Without a check symbol the code is all that minting computes. -/
theorem mint_withAlphabet (value : Nat) : (s.withAlphabet a).mint value = s.mint value := by
  rw [mint, mint, encode_withAlphabet hmask]
  cases s.encode value with
  | error refusal => rfl
  | ok code =>
      dsimp only
      rw [addCheckSymbol_of_unchecked hchecked,
        addCheckSymbol_of_unchecked (s := s.withAlphabet a) hchecked]
      rfl

/-- Without a check symbol the code is all that a text is judged by. -/
theorem locate_withAlphabet (text : String) : (s.withAlphabet a).locate text = s.locate text := by
  rw [locate, locate, show (s.withAlphabet a).stem = s.stem from rfl]
  cases Text.afterStart? s.stem text.toList with
  | none => rfl
  | some rest =>
      dsimp only
      rw [locateCode_unchecked hchecked, locateCode_unchecked (s := s.withAlphabet a) hchecked,
        allowsCode_withAlphabet hmask]

theorem decode_withAlphabet (text : String) : (s.withAlphabet a).decode text = s.decode text := by
  rw [decode, decode, locate_withAlphabet hmask a hchecked]
  cases hlocate : s.locate text with
  | error rejection => rfl
  | ok code =>
      obtain ⟨hshaped, -⟩ := (s.locate_eq_ok_iff text code).mp hlocate
      obtain ⟨digits, hnumeral, rfl⟩ := hshaped.exists_numeral
      have hnumeral' := (numeral_withAlphabet_iff hmask a digits).mpr hnumeral
      dsimp only
      rw [decodeCode_map_symbolFor hnumeral, ← map_symbolFor_withAlphabet hmask a hnumeral]
      refine (decodeCode_map_symbolFor hnumeral').trans ?_
      rw [numberOf_withAlphabet hmask]

end Unchecked

end Decimal

/-- **Uniform masks mint ordinary numerals.**  If all classes of the mask are the same, the
    code of a minted identifier is the numeral of its value in the base of that class,
    written in symbols and filled up with zeros to the width of the mask.  If that class is
    the decimal one, it is the value as numbers are written; and without a check symbol
    every alphabet gives the same identifiers and refusals, the same answers to every text,
    the same values and the same capacity. -/
theorem uniform_mask (s : Scheme) (k : SymbolClass) (hmask : ∀ c ∈ s.template.mask, c = k) :
    (∀ (n : UInt64) id, s.mint n.toNat = .ok id →
      s.codeOf id = ((numeral (k.base s.alphabet) n.toNat).map s.alphabet.symbolFor).leftpad
        s.template.width '0' ∧
      (k = .decimal →
        s.codeOf id = (toString n.toNat).toList.leftpad s.template.width '0')) ∧
    (k = .decimal → s.template.checked = false → ∀ a,
      (∀ n : UInt64, (s.withAlphabet a).mint n.toNat = s.mint n.toNat) ∧
      (∀ text, (s.withAlphabet a).check text = s.check text ∧
        (s.withAlphabet a).decode text = s.decode text) ∧
      (s.withAlphabet a).capacity = s.capacity) := by
  constructor
  · intro n id hid
    have hcode := codeOf_of_uniform hmask hid
    refine ⟨hcode, ?_⟩
    rintro rfl
    rw [hcode]
    exact congrArg _ (s.alphabet.map_symbolFor_numeral n.toNat)
  · rintro rfl hchecked a
    refine ⟨fun n => mint_withAlphabet hmask a hchecked n.toNat, fun text => ⟨?_, ?_⟩,
      capacity_withAlphabet hmask a⟩
    · rw [check, check, locate_withAlphabet hmask a hchecked]
    · exact decode_withAlphabet hmask a hchecked text

/-- The scheme `no.zddd` over the default alphabet. -/
def plainSpecimen : Scheme :=
  ⟨⟨"no", .extensible, [.decimal, .decimal, .decimal], false⟩, .betanumeric, by decide⟩

/-- In `no.zddd` seven is filled up with zeros, a number with five digits is not, and both are
    the same over an alphabet with a quote and a line feed in it. -/
theorem plainSpecimen_ordinary :
    plainSpecimen.mint 7 = .ok "no007" ∧ plainSpecimen.mint 12345 = .ok "no12345" ∧
      plainSpecimen.codeOf "no007" = (toString 7).toList.leftpad 3 '0' ∧
      plainSpecimen.codeOf "no12345" = (toString 12345).toList.leftpad 3 '0' ∧
      (plainSpecimen.withAlphabet escapedAlphabet).mint 12345 = plainSpecimen.mint 12345 ∧
      (plainSpecimen.withAlphabet escapedAlphabet).decode "no007" =
        plainSpecimen.decode "no007" := by
  have hshort : plainSpecimen.mint 7 = .ok "no007" := by decide +kernel
  have hlong : plainSpecimen.mint 12345 = .ok "no12345" := by decide +kernel
  obtain ⟨hvalues, halphabets⟩ := uniform_mask plainSpecimen .decimal (by decide)
  obtain ⟨hmint, htexts, -⟩ := halphabets rfl rfl escapedAlphabet
  exact ⟨hshort, hlong, (hvalues 7 _ hshort).2 rfl, (hvalues 12345 _ hlong).2 rfl, hmint 12345,
    (htexts "no007").2⟩

end Scheme

end OpaqueId
