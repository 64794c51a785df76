import Mathlib.Data.Char
import OpaqueId.Scheme
import OpaqueId.Proofs.MixedRadix

/-! # Symbols: the digits that stand at a position

    A class is described twice: by the characters it permits and by the base
    of its positions.  Both come to the same: the permitted characters are
    exactly the symbols whose index is below the base (`permits_iff_index`),
    because the decimal digits are the first ten symbols of every alphabet.

    For whole codes this gives a dictionary between characters and numbers:
    the codes that follow a list of classes are the symbols of the digits
    `Within` the bases of the classes (`follows_iff_exists_digits`). -/

namespace OpaqueId

open MixedRadix

/-- The decimal digits are the characters from `0` to `9`. -/
theorem mem_decimalDigits_iff (c : Char) : c ∈ decimalDigits ↔ '0' ≤ c ∧ c ≤ '9' := by
  have hrange : decimalDigits.all (fun c => '0' ≤ c ∧ c ≤ '9') = true := by decide
  have hcodes : ∀ n < 58, 48 ≤ n → Char.ofNat n ∈ decimalDigits := by decide
  constructor
  · intro hc
    exact of_decide_eq_true (List.all_eq_true.mp hrange c hc)
  · rintro ⟨hlow, hhigh⟩
    -- characters are ordered by their codes, of which there are ten to be looked at
    have hlow' : 48 ≤ c.toNat := hlow
    have hhigh' : c.toNat ≤ 57 := hhigh
    rw [← Char.ofNat_toNat c]
    exact hcodes c.toNat (by omega) hlow'

namespace Alphabet

/-- Only foreign characters have no index. -/
theorem index?_eq_none_iff (a : Alphabet) (symbol : Char) :
    a.index? symbol = none ↔ symbol ∉ a.symbols := by
  rw [← a.contains_iff_mem, contains]
  cases a.index? symbol <;> simp

/-- An index stays below the size. -/
theorem index?_lt_size {a : Alphabet} {symbol : Char} {index : Nat}
    (h : a.index? symbol = some index) : index < a.size := by
  have hget := (a.index?_eq_some_iff symbol index).mp h
  exact (List.getElem?_eq_some_iff.mp hget).1

/-- The symbol at the index of a symbol is that symbol. -/
theorem symbolFor_of_index? {a : Alphabet} {symbol : Char} {index : Nat}
    (h : a.index? symbol = some index) : a.symbolFor index = symbol := by
  rw [symbolFor, (a.index?_eq_some_iff symbol index).mp h]
  rfl

/-- The index of the symbol of a digit is that digit. -/
theorem index?_symbolFor {a : Alphabet} {digit : Nat} (h : digit < a.size) :
    a.index? (a.symbolFor digit) = some digit := by
  have hget : a.symbol? digit = some (a.symbols[digit]) := List.getElem?_eq_getElem h
  rw [index?_eq_some_iff, symbolFor, hget]
  rfl

theorem symbol?_eq_some_symbolFor {a : Alphabet} {digit : Nat} (h : digit < a.size) :
    a.symbol? digit = some (a.symbolFor digit) :=
  (a.index?_eq_some_iff _ _).mp (index?_symbolFor h)

theorem symbolFor_mem {a : Alphabet} {digit : Nat} (h : digit < a.size) :
    a.symbolFor digit ∈ a.symbols := by
  rw [← a.contains_iff_mem, contains, index?_symbolFor h]
  rfl

/-- The symbols of the first ten digits are the digits. -/
theorem symbol?_of_lt_ten (a : Alphabet) {digit : Nat} (h : digit < 10) :
    a.symbol? digit = decimalDigits[digit]? := by
  rw [← a.digits_first, List.getElem?_take, if_pos h]
  rfl

@[simp] theorem symbolFor_zero (a : Alphabet) : a.symbolFor 0 = '0' := by
  rw [symbolFor, a.symbol?_of_lt_ten (by decide)]
  rfl

/-- The zero is the symbol of the digit zero only. -/
theorem symbolFor_eq_zero_iff {a : Alphabet} {digit : Nat} (h : digit < a.size) :
    a.symbolFor digit = '0' ↔ digit = 0 := by
  rw [← a.symbolFor_zero]
  constructor
  · intro hsame
    have hindex := index?_symbolFor h
    rw [hsame, index?_symbolFor a.size_pos] at hindex
    exact (Option.some.inj hindex).symm
  · rintro rfl
    rfl

/-- The decimal digits are the symbols whose index is below ten. -/
theorem mem_decimalDigits_iff_index (a : Alphabet) (symbol : Char) :
    symbol ∈ decimalDigits ↔ ∃ digit, a.index? symbol = some digit ∧ digit < 10 := by
  constructor
  · intro hmem
    obtain ⟨digit, hget⟩ := List.mem_iff_getElem?.mp hmem
    have hlt : digit < 10 := (List.getElem?_eq_some_iff.mp hget).1
    refine ⟨digit, ?_, hlt⟩
    rw [index?_eq_some_iff, a.symbol?_of_lt_ten hlt]
    exact hget
  · rintro ⟨digit, hindex, hlt⟩
    rw [index?_eq_some_iff, a.symbol?_of_lt_ten hlt] at hindex
    exact List.mem_of_getElem? hindex

end Alphabet

namespace SymbolClass

/-- The characters that a class stands for: any symbol of the alphabet, or a
    character from `0` to `9`. -/
def Permits (a : Alphabet) : SymbolClass → Char → Prop
  | .extended, c => c ∈ a.symbols
  | .decimal, c => '0' ≤ c ∧ c ≤ '9'

/-- What is allowed is what is permitted. -/
theorem allows_iff_permits (a : Alphabet) (k : SymbolClass) (c : Char) :
    k.allows a c = true ↔ k.Permits a c := by
  cases k with
  | extended => exact a.contains_iff_mem c
  | decimal =>
      rw [Permits, ← mem_decimalDigits_iff]
      exact decide_eq_true_iff

/-- A class permits the symbols of the digits below its base. -/
theorem permits_iff_index (a : Alphabet) (k : SymbolClass) (c : Char) :
    k.Permits a c ↔ ∃ digit, a.index? c = some digit ∧ digit < k.base a := by
  cases k with
  | decimal => rw [Permits, ← mem_decimalDigits_iff, a.mem_decimalDigits_iff_index]; rfl
  | extended =>
      rw [Permits, ← a.contains_iff_mem, Alphabet.contains, Option.isSome_iff_exists]
      constructor
      · rintro ⟨digit, h⟩
        exact ⟨digit, h, Alphabet.index?_lt_size h⟩
      · rintro ⟨digit, h, -⟩
        exact ⟨digit, h⟩

/-- A base does not exceed the number of symbols. -/
theorem base_le_size (a : Alphabet) (k : SymbolClass) : k.base a ≤ a.size := by
  cases k with
  | extended => exact Nat.le_refl _
  | decimal => exact a.ten_le_size

/-- What is permitted is a symbol. -/
theorem Permits.mem {a : Alphabet} {k : SymbolClass} {c : Char} (h : k.Permits a c) :
    c ∈ a.symbols := by
  obtain ⟨digit, hindex, -⟩ := (permits_iff_index a k c).mp h
  rw [← a.contains_iff_mem, Alphabet.contains, hindex]
  rfl

end SymbolClass

/-! ## Codes and their digits -/

namespace Alphabet

/-- Each character of a code is permitted by the class of its position. -/
def Follows (a : Alphabet) (classes : List SymbolClass) (code : List Char) : Prop :=
  List.Forall₂ (SymbolClass.Permits a) classes code

/-- The digits of a code are the indices of its characters, one by one. -/
theorem mapM_index?_eq_some_iff (a : Alphabet) (code : List Char) (digits : List Nat) :
    code.mapM a.index? = some digits ↔
      List.Forall₂ (fun c digit => a.index? c = some digit) code digits := by
  induction code generalizing digits with
  | nil => cases digits <;> simp
  | cons c code ih =>
      rw [List.mapM_cons, List.forall₂_cons_left_iff]
      constructor
      · intro h
        cases hc : a.index? c with
        | none => rw [hc] at h; exact nomatch h
        | some digit =>
            cases hcode : code.mapM a.index? with
            | none => rw [hc, hcode] at h; exact nomatch h
            | some rest =>
                rw [hc, hcode] at h
                exact ⟨digit, rest, rfl, (ih rest).mp hcode, (Option.some.inj h).symm⟩
      · rintro ⟨digit, rest, hc, hrest, rfl⟩
        rw [hc, (ih rest).mpr hrest]
        rfl

/-- The symbols of digits have these digits for indices. -/
theorem mapM_index?_symbolFor {a : Alphabet} {digits : List Nat}
    (h : ∀ digit ∈ digits, digit < a.size) :
    (digits.map a.symbolFor).mapM a.index? = some digits := by
  rw [mapM_index?_eq_some_iff, List.forall₂_map_left_iff, List.forall₂_same]
  exact fun digit hmem => index?_symbolFor (h digit hmem)

theorem lt_size_of_within {a : Alphabet} {classes : List SymbolClass} {digits : List Nat}
    (h : Within (classes.map (SymbolClass.base a)) digits) :
    ∀ digit ∈ digits, digit < a.size := by
  refine h.lt_of_le fun base hbase => ?_
  obtain ⟨k, -, rfl⟩ := List.mem_map.mp hbase
  exact k.base_le_size a

/-- The codes that follow the classes are the symbols of the digits below
    their bases. -/
theorem follows_iff_exists_digits (a : Alphabet) (classes : List SymbolClass)
    (code : List Char) :
    a.Follows classes code ↔
      ∃ digits, Within (classes.map (SymbolClass.base a)) digits ∧
        code = digits.map a.symbolFor := by
  constructor
  · intro h
    induction h with
    | nil => exact ⟨[], List.Forall₂.nil, rfl⟩
    | @cons k c classes code hc _ ih =>
        obtain ⟨digit, hindex, hlt⟩ := (k.permits_iff_index a c).mp hc
        obtain ⟨digits, hwithin, rfl⟩ := ih
        refine ⟨digit :: digits, List.Forall₂.cons hlt hwithin, ?_⟩
        rw [List.map_cons, symbolFor_of_index? hindex]
  · rintro ⟨digits, hwithin, rfl⟩
    rw [Within, List.forall₂_map_left_iff] at hwithin
    -- position by position a digit below the base is the index of its symbol
    rw [Follows, List.forall₂_map_right_iff]
    refine List.Forall₂.imp (fun k digit hlt => ?_) hwithin
    rw [k.permits_iff_index a]
    exact ⟨digit, index?_symbolFor (Nat.lt_of_lt_of_le hlt (k.base_le_size a)), hlt⟩

/-- What follows classes is made of symbols. -/
theorem Follows.mem {a : Alphabet} {classes : List SymbolClass} {code : List Char}
    (h : a.Follows classes code) : ∀ c ∈ code, c ∈ a.symbols := by
  induction h with
  | nil => exact fun _ hmem => nomatch hmem
  | cons hc _ ih =>
      intro d hd
      rcases List.mem_cons.mp hd with rfl | hd
      · exact hc.mem
      · exact ih d hd

end Alphabet

end OpaqueId
