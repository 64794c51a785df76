import OpaqueId.Alphabet

/-! # Check symbols: a position-weighted sum modulo the alphabet's size

    Every character contributes its index times its position, counted from
    one; the sum modulo the number of symbols selects the check symbol.
    `runningSum` reduces both the weight and the sum at each step, so its
    numbers stay below the square of the size plus the size, while
    `weightedSum` is the same sum in exact arithmetic. -/

namespace OpaqueId

/-- A character outside the alphabet and its position, counted from zero. -/
structure ForeignCharacter where
  character : Char
  position : Nat
deriving DecidableEq

namespace Alphabet

/-- The weighted sum of the remaining text modulo the size, on top of `sum`;
    `position` characters stand before it. -/
def runningSum (a : Alphabet) : (text : List Char) → (position sum : Nat) →
    Except ForeignCharacter Nat
  | [], _, sum => .ok sum
  | c :: rest, position, sum =>
    match a.index? c with
    | none => .error ⟨c, position⟩
    | some index =>
      a.runningSum rest (position + 1) ((sum + index * ((position + 1) % a.size)) % a.size)

/-- The exact sum of index times one-based position over a list of indices,
    when `position` indices stand before it. -/
def weightedSum : (indices : List Nat) → (position : Nat) → Nat
  | [], _ => 0
  | index :: rest, position => index * (position + 1) + weightedSum rest (position + 1)

/-- The check symbol of a list of characters, or its leftmost foreign one. -/
def checkSymbolOf (a : Alphabet) (text : List Char) : Except ForeignCharacter Char :=
  (a.runningSum text 0 0).map a.symbolFor

/-- The check symbol of a text, or its leftmost foreign character. -/
def checkSymbol (a : Alphabet) (text : String) : Except ForeignCharacter Char :=
  a.checkSymbolOf text.toList

/-- The running sum stays below the size. -/
theorem runningSum_lt (a : Alphabet) {text : List Char} {position sum total : Nat}
    (hsum : sum < a.size) (h : a.runningSum text position sum = .ok total) :
    total < a.size := by
  induction text generalizing position sum with
  | nil =>
      rw [runningSum] at h
      cases h
      exact hsum
  | cons c rest ih =>
      rw [runningSum] at h
      cases hc : a.index? c with
      | none => simp [hc] at h
      | some index =>
          rw [hc] at h
          exact ih (Nat.mod_lt _ a.size_pos) h

end Alphabet

end OpaqueId
