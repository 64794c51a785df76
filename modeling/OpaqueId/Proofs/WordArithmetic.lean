import Mathlib.Algebra.BigOperators.Fin
import Mathlib.Data.Fintype.Card
import OpaqueId.Proofs.Balance

/-! # Word arithmetic: the check sum in 64 bits

    The walk over a text reduces the weight and the sum at every step.  What it
    comes to can be said without that, and without a walk: every index times its
    position, counted from one, in one exact sum (`weightedSum_map_eq_sum`).

    Carried out in words of 64 bits, the walk gives the same (`sumInWords?_eq`).
    The symbols of an alphabet are distinct, so there are no more of them than
    code points (`size_le`), and a reduced sum with a product of an index and a
    reduced weight on top stays far below the largest word.  The one number that
    is not reduced is the position, which outgrows a word behind 2^64 symbols
    and not before.

    Main statement: `checkSymbol_exact`. -/

namespace OpaqueId

/-- The number, if it has no more than 64 bits. -/
def word? (n : Nat) : Option Nat := if n < 2 ^ 64 then some n else none

/-- A number with 64 bits is a word. -/
theorem word?_of_lt {n : Nat} (h : n < 2 ^ 64) : word? n = some n := if_pos h

namespace Alphabet

/-! ## The exact sum -/

/-- The sum over a text, which is taken position by position. -/
theorem weightedSum_map_eq_sum (f : Char → Nat) (text : List Char) (position : Nat) :
    weightedSum (text.map f) position =
      ∑ i : Fin text.length, f text[i] * (position + i + 1) := by
  induction text generalizing position with
  | nil => rfl
  | cons c text ih =>
      rw [List.map_cons, weightedSum, ih]
      refine Eq.trans ?_ (Fin.sum_univ_succ (n := text.length) _).symm
      refine congrArg (f c * (position + 1) + ·) (Finset.sum_congr rfl fun i _ => ?_)
      show f text[i] * (position + 1 + i + 1) = f text[i] * (position + (i + 1) + 1)
      rw [Nat.add_right_comm position 1 i, ← Nat.add_assoc]

/-- A symbol of the right index is the check symbol of a text over the alphabet. -/
theorem checkSymbolOf_eq_ok_iff_symbol? (a : Alphabet) (text : List Char) (symbol : Char) :
    a.checkSymbolOf text = .ok symbol ↔ (∀ c ∈ text, c ∈ a.symbols) ∧
      a.symbol? ((∑ i : Fin text.length, a.indexOf text[i] * (i + 1)) % a.size) =
        some symbol := by
  have hsum : ∑ i : Fin text.length, a.indexOf text[i] * (i + 1) =
      weightedSum (text.map a.indexOf) 0 := by
    rw [weightedSum_map_eq_sum]
    simp only [Nat.zero_add]
  rw [hsum]
  have hlt := Nat.mod_lt (weightedSum (text.map a.indexOf) 0) a.size_pos
  rw [symbol?_eq_some_symbolFor hlt, Option.some.injEq]
  constructor
  · intro h
    have htext := (a.exists_checkSymbolOf_iff text).mp ⟨symbol, h⟩
    rw [checkSymbolOf, runningSum_eq htext 0 a.size_pos, Nat.zero_add] at h
    exact ⟨htext, Except.ok.inj h⟩
  · rintro ⟨htext, rfl⟩
    rw [checkSymbolOf, runningSum_eq htext 0 a.size_pos, Nat.zero_add]
    rfl

/-! ## Words -/

/-- An alphabet has no more symbols than there are code points. -/
theorem size_le (a : Alphabet) : a.size ≤ 0x110000 := by
  have hcode : ∀ c : Char, c.toNat < 0x110000 := by
    intro c
    rcases (show c.toNat.isValidChar from c.valid) with hlow | ⟨-, hhigh⟩
    · omega
    · exact hhigh
  have hinjective : Function.Injective fun c : Char => (⟨c.toNat, hcode c⟩ : Fin 0x110000) :=
    fun c d h => Char.toNat_inj.mp (Fin.mk.inj h)
  have hlength := (a.nodup.map hinjective).length_le_card
  rwa [List.length_map, Fintype.card_fin] at hlength

/-- What is added to the sum in one step leaves it far below the largest word. -/
theorem sum_add_product_lt (a : Alphabet) {sum index : Nat} (hsum : sum < a.size)
    (hindex : index < a.size) (position : Nat) :
    sum + index * (position % a.size) < 2 ^ 64 := by
  have hsize := a.size_le
  have hweight := Nat.mod_lt position a.size_pos
  calc sum + index * (position % a.size)
      ≤ 0x110000 + 0x110000 * 0x110000 :=
        Nat.add_le_add (by omega) (Nat.mul_le_mul (by omega) (by omega))
    _ < 2 ^ 64 := by decide

/-- The running sum where every number on the way has to be a word. -/
def sumInWords? (a : Alphabet) : (text : List Char) → (position sum : Nat) →
    Option (Except ForeignCharacter Nat)
  | [], _, sum => some (.ok sum)
  | c :: rest, position, sum =>
    match a.index? c with
    | none => some (.error ⟨c, position⟩)
    | some index => do
      let size ← word? a.size
      let index ← word? index
      let next ← word? (position + 1)
      let product ← word? (index * (next % size))
      let total ← word? (sum + product)
      a.sumInWords? rest next (total % size)

/-- The check symbol, or the leftmost foreign character, by a sum in words. -/
def checkSymbolInWords? (a : Alphabet) (text : List Char) :
    Option (Except ForeignCharacter Char) :=
  (a.sumInWords? text 0 0).map (·.map a.symbolFor)

theorem takeWhile_contains_cons {a : Alphabet} {c : Char} {index : Nat}
    (h : a.index? c = some index) (rest : List Char) :
    (c :: rest).takeWhile a.contains = c :: rest.takeWhile a.contains :=
  List.takeWhile_cons_of_pos (by rw [contains, h]; rfl)

/-- In a word the sum goes one step further unless the position does not. -/
theorem sumInWords?_cons {a : Alphabet} {c : Char} {index : Nat} (hindex : a.index? c = some index)
    (rest : List Char) (position : Nat) {sum : Nat} (hsum : sum < a.size) :
    a.sumInWords? (c :: rest) position sum =
      (word? (position + 1)).bind fun next =>
        a.sumInWords? rest next ((sum + index * (next % a.size)) % a.size) := by
  have hlt := index?_lt_size hindex
  have hsize : a.size < 2 ^ 64 := Nat.lt_of_le_of_lt a.size_le (by decide)
  rw [sumInWords?, hindex]
  show (word? a.size).bind _ = _
  rw [word?_of_lt hsize]
  show (word? index).bind _ = _
  rw [word?_of_lt (hlt.trans hsize)]
  refine congrArg (word? (position + 1)).bind (funext fun next => ?_)
  have htotal := a.sum_add_product_lt hsum hlt next
  show (word? (index * (next % a.size))).bind _ = _
  rw [word?_of_lt (Nat.lt_of_le_of_lt (Nat.le_add_left _ _) htotal)]
  show (word? (sum + index * (next % a.size))).bind _ = _
  rw [word?_of_lt htotal]
  rfl

/-- In words the walk comes to the running sum, unless it counts more positions than a
    word can hold before it stops. -/
theorem sumInWords?_eq (a : Alphabet) (text : List Char) {position sum : Nat}
    (hposition : position < 2 ^ 64) (hsum : sum < a.size) :
    a.sumInWords? text position sum =
      if position + (text.takeWhile a.contains).length < 2 ^ 64 then
        some (a.runningSum text position sum)
      else none := by
  induction text generalizing position sum with
  | nil => exact (if_pos hposition).symm
  | cons c rest ih =>
      -- the walk stops at a foreign character, and counts one more position at a symbol
      cases hc : a.index? c with
      | none =>
          have hstop : (c :: rest).takeWhile a.contains = [] :=
            List.takeWhile_cons_of_neg (by rw [contains, hc]; exact Bool.false_ne_true)
          rw [hstop, List.length_nil, Nat.add_zero, if_pos hposition, sumInWords?, runningSum, hc]
      | some index =>
          have hcount : position + ((c :: rest).takeWhile a.contains).length =
              position + 1 + (rest.takeWhile a.contains).length := by
            rw [takeWhile_contains_cons hc, List.length_cons]
            omega
          rw [sumInWords?_cons hc rest position hsum, hcount, runningSum, hc]
          by_cases hnext : position + 1 < 2 ^ 64
          · rw [word?_of_lt hnext, Option.bind_some]
            exact ih hnext (Nat.mod_lt _ a.size_pos)
          · rw [word?, if_neg hnext, if_neg (by omega)]
            rfl

/-- The computation in words goes through as long as fewer than 2^64 symbols are counted,
    and then has the exact result. -/
theorem checkSymbolInWords?_eq (a : Alphabet) (text : List Char) :
    a.checkSymbolInWords? text =
      if (text.takeWhile a.contains).length < 2 ^ 64 then some (a.checkSymbolOf text)
      else none := by
  rw [checkSymbolInWords?, a.sumInWords?_eq text (by decide) a.size_pos, Nat.zero_add]
  split <;> rfl

/-- **The check symbol is the exact one**, for every text.  There is one if and only if
    all characters are symbols, and then it has the index that is left of the exact sum
    of all indices times their positions, counted from one, modulo the number of
    symbols.  Otherwise the leftmost foreign character is named, with the number of
    characters in front of it.  The same comes out in words of 64 bits, where no number
    on the way is too large if there are less than 2^64 symbols to be counted. -/
theorem checkSymbol_exact (a : Alphabet) (text : String) :
    ((∃ symbol, a.checkSymbol text = .ok symbol) ↔ ∀ c ∈ text.toList, c ∈ a.symbols) ∧
    (∀ symbol, a.checkSymbol text = .ok symbol ↔ (∀ c ∈ text.toList, c ∈ a.symbols) ∧
      a.symbol? ((∑ i : Fin text.toList.length, a.indexOf text.toList[i] * (i + 1)) % a.size) =
        some symbol) ∧
    (∀ found, a.checkSymbol text = .error found ↔ a.LeftmostForeign text.toList found) ∧
    (a.checkSymbolInWords? text.toList = some (a.checkSymbol text) ↔
      (text.toList.takeWhile a.contains).length < 2 ^ 64) := by
  refine ⟨a.exists_checkSymbolOf_iff _, a.checkSymbolOf_eq_ok_iff_symbol? _,
    a.checkSymbolOf_eq_error_iff _, ?_⟩
  rw [checkSymbolInWords?_eq]
  constructor
  · intro h
    by_contra hcount
    rw [if_neg hcount] at h
    exact nomatch h
  · intro hcount
    rw [if_pos hcount]
    rfl

/-- A text longer than the alphabet, so that the weights begin anew. -/
def longText : String := "13030xf93rqgdz27hjkmnpqrstvwxz4"

/-- The sum of the long text is 9105, which is 28 modulo 29; in `bca` the third
    character is no symbol.  Neither walk meets a number of more than 64 bits. -/
theorem betanumeric_sums :
    betanumeric.checkSymbol longText = .ok 'z' ∧
      betanumeric.checkSymbol "bca" = .error ⟨'a', 2⟩ ∧
      betanumeric.checkSymbolInWords? longText.toList = some (betanumeric.checkSymbol longText) ∧
      betanumeric.checkSymbolInWords? "bca".toList = some (betanumeric.checkSymbol "bca") := by
  obtain ⟨-, hsymbol, -, hwords⟩ := checkSymbol_exact betanumeric longText
  obtain ⟨-, -, hforeign, hwords'⟩ := checkSymbol_exact betanumeric "bca"
  have hall : longText.toList.all betanumeric.contains = true := by decide +kernel
  refine ⟨(hsymbol _).mpr ⟨?_, by decide +kernel⟩, (hforeign _).mpr ?_,
    hwords.mpr (by decide +kernel), hwords'.mpr (by decide +kernel)⟩
  · exact fun c hc => (contains_iff_mem _ c).mp (List.all_eq_true.mp hall c hc)
  · refine ⟨['b', 'c'], [], by decide +kernel, rfl, ?_, by decide⟩
    exact List.forall_mem_cons.mpr ⟨by decide, List.forall_mem_singleton.mpr (by decide)⟩

end Alphabet

end OpaqueId
