import Mathlib.Algebra.Group.Action.Defs
import Mathlib.Algebra.Order.Group.Nat
import Mathlib.Algebra.Order.BigOperators.Group.List
import OpaqueId.Matcher

/-! # Pattern sizes: which templates are too long to be matched

    Under the size limit the pattern of a template is compiled exactly if it is
    estimated to stay within the limit (`compiles_iff`).  A character takes at
    most four bytes and a symbol a range of its own at most, so the estimate is
    linear in the stem, and in the mask times the alphabet
    (`patternSize_le`): templates of any ordinary length are compiled
    (`compiles_of_le`).

    How long a template has to be to come out too large can be said of those
    that repeat one character and one class (`patternSize_repeated`). -/

namespace OpaqueId.SizeLimit

/-- What the compiler says of a pattern that is too large. -/
def tooLarge : String := "Compiled regex exceeds size limit of 268435456 bytes."

/-- A pattern over the limit is complained about. -/
theorem complaint?_of_lt {t : Template} {a : Alphabet} (h : limit < patternSize t a) :
    PatternCompiler.complaint? t a = some tooLarge := by
  have hwords : "Compiled regex exceeds size limit of " ++ toString limit ++ " bytes." =
      tooLarge := by decide +kernel
  show (if limit < patternSize t a then some _ else none) = _
  rw [if_pos h, hwords]

/-- A pattern is compiled exactly if it stays within the limit. -/
theorem compiles_iff (t : Template) (a : Alphabet) : t.Compiles a ↔ patternSize t a ≤ limit := by
  rw [← Nat.not_lt]
  constructor
  · intro h hlarge
    cases h.symm.trans (complaint?_of_lt hlarge)
  · intro h
    exact if_neg h

/-! ## Bounds -/

/-- Sizes that have a bound come to their number times the bound at most. -/
theorem total_map_le {α : Type} {size : α → Nat} {bound : Nat} (h : ∀ x, size x ≤ bound)
    (xs : List α) : total (xs.map size) ≤ xs.length * bound := by
  have hall : ∀ n ∈ xs.map size, n ≤ bound := by
    intro n hn
    obtain ⟨x, -, rfl⟩ := List.mem_map.mp hn
    exact h x
  have hsum := List.sum_le_card_nsmul _ bound hall
  rw [List.length_map, smul_eq_mul] at hsum
  exact hsum

/-- The bytes of a character of four bytes, or of a range of such characters. -/
def largestSize : Nat := 128

theorem textSize_le (text : List Char) : textSize text ≤ largestSize * text.length := by
  have hsum := total_map_le Char.utf8Size_le_four text
  simp only [textSize, stateSize, largestSize]
  omega

/-- Ranges of characters of four bytes are the largest. -/
theorem rangeSize_le (c : Char) : rangeSize c ≤ largestSize := by
  have hfour := c.utf8Size_le_four
  simp only [rangeSize, arcSize, stateSize, largestSize]
  omega

/-- At worst every symbol is a range of its own. -/
theorem classSize_le (symbols : List Char) :
    classSize symbols ≤ 64 + largestSize * symbols.length := by
  have hsum : total ((symbols.filter (beginsRange symbols)).map rangeSize) ≤
      symbols.length * largestSize :=
    (total_map_le rangeSize_le _).trans
      (Nat.mul_le_mul_right _ (List.length_filter_le _ _))
  simp only [classSize, stateSize, largestSize] at hsum ⊢
  omega

theorem positionSize_le (a : Alphabet) (k : SymbolClass) :
    positionSize a k ≤ 64 + largestSize * a.size := by
  cases k with
  | extended => exact classSize_le a.symbols
  | decimal =>
      have hdigits : classSize decimalDigits ≤ 64 + largestSize * 10 := classSize_le decimalDigits
      have hten := a.ten_le_size
      show classSize decimalDigits ≤ _
      simp only [largestSize] at hdigits ⊢
      omega

/-- A pattern has at most two classes more than the mask. -/
theorem length_classes_le (t : Template) : (classes t).length ≤ t.mask.length + 2 := by
  have hextension : (if t.generator.isExtensible then t.mask.getLast?.toList else []).length ≤
      1 := by
    split
    · cases t.mask.getLast? <;> simp
    · exact Nat.zero_le _
  have hcheck : (if t.checked then [SymbolClass.extended] else []).length ≤ 1 := by
    split <;> simp
  simp only [classes, List.length_append]
  omega

/-- Every class of a list is one of the two. -/
theorem count_add_count (ks : List SymbolClass) :
    ks.count .extended + ks.count .decimal = ks.length := by
  induction ks with
  | nil => rfl
  | cons k ks ih =>
      cases k with
      | extended =>
          rw [List.count_cons_self, List.count_cons_of_ne (by decide), List.length_cons]
          omega
      | decimal =>
          rw [List.count_cons_self, List.count_cons_of_ne (by decide), List.length_cons]
          omega

/-- The estimate is linear in the stem, and in the mask times the alphabet. -/
theorem patternSize_le (t : Template) (a : Alphabet) :
    patternSize t a ≤ largestSize * t.stem.length +
      (t.mask.length + 2) * (64 + largestSize * a.size) := by
  have hstem : textSize t.stem.toList ≤ largestSize * t.stem.length := by
    have hle := textSize_le t.stem.toList
    rwa [String.length_toList] at hle
  have hextended := Nat.mul_le_mul_left ((classes t).count .extended)
    (positionSize_le a .extended)
  have hdecimal := Nat.mul_le_mul_left ((classes t).count .decimal) (positionSize_le a .decimal)
  -- each class of the mask is one of the two, so the counts come to its length
  have hlength : ((classes t).count .extended + (classes t).count .decimal) *
      (64 + largestSize * a.size) ≤ (t.mask.length + 2) * (64 + largestSize * a.size) := by
    rw [count_add_count]
    exact Nat.mul_le_mul_right _ (length_classes_le t)
  rw [Nat.add_mul] at hlength
  rw [patternSize]
  omega

/-- **Templates of ordinary length are compiled.** -/
theorem compiles_of_le {t : Template} {a : Alphabet}
    (h : largestSize * t.stem.length + (t.mask.length + 2) * (64 + largestSize * a.size) ≤
      limit) : t.Compiles a :=
  (compiles_iff t a).mpr ((patternSize_le t a).trans h)

/-! ## Long templates -/

/-- A template that repeats one character for its stem and one class for its mask. -/
def repeated (c : Char) (length : Nat) (k : SymbolClass) (width : Nat) : Template :=
  ⟨String.ofList (List.replicate length c), .sequential, List.replicate width k, false⟩

theorem mask_repeated_ne_nil (c : Char) (length : Nat) (k : SymbolClass) {width : Nat}
    (h : width ≠ 0) : (repeated c length k width).mask ≠ [] :=
  fun hnil => h ((List.replicate_eq_nil_iff k).mp hnil)

/-- Repeated characters and classes multiply what one of them takes. -/
theorem patternSize_repeated (c : Char) (length : Nat) (k : SymbolClass) (width : Nat)
    (a : Alphabet) :
    patternSize (repeated c length k width) a =
      stateSize * (length * c.utf8Size) + width * positionSize a k := by
  have hstem : textSize (repeated c length k width).stem.toList =
      stateSize * (length * c.utf8Size) := by
    have hsum : total (List.replicate length c.utf8Size) = length * c.utf8Size := by
      rw [← smul_eq_mul, ← List.sum_replicate]
      rfl
    rw [repeated, String.toList_ofList, textSize, List.map_replicate, hsum]
  have hclasses : classes (repeated c length k width) = List.replicate width k :=
    List.append_nil _
  rw [patternSize, hstem, hclasses]
  cases k with
  | extended =>
      rw [List.count_replicate_self, List.count_replicate, if_neg (by decide), Nat.zero_mul]
      rfl
  | decimal =>
      rw [List.count_replicate_self, List.count_replicate, if_neg (by decide), Nat.zero_mul,
        Nat.add_zero]

end OpaqueId.SizeLimit
