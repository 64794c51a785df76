/-! # Mixed radix: digits under a list of bases

    A position in a list of bases has its own base; lists run from the most
    significant position to the least significant.  `split` writes a number
    under the bases and returns what does not fit, `value` reads digits back
    in exact arithmetic, and `valueBelow?` reads them with a bound that is
    checked at every step.

    Main statements: `value_split` (the digits and what is left over rebuild
    the number) and `length_split` (there is one digit per base). -/

namespace OpaqueId.MixedRadix

/-- One digit per base, the last base first, and what is left over. -/
def split (bases : List Nat) (n : Nat) : List Nat × Nat :=
  bases.foldr (fun base (digits, left) => (left % base :: digits, left / base)) ([], n)

/-- How many numbers fit the bases: their product. -/
def volume : (bases : List Nat) → Nat
  | [] => 1
  | base :: bases => base * volume bases

/-- The number that digits stand for under their bases. -/
def value (bases digits : List Nat) : Nat :=
  (bases.zip digits).foldl (fun v (base, digit) => v * base + digit) 0

/-- The number that digits stand for, or nothing as soon as the digits read
    so far reach the limit. -/
def valueBelow? (limit : Nat) (bases digits : List Nat) : Option Nat :=
  (bases.zip digits).foldlM
    (fun v (base, digit) =>
      if v * base + digit < limit then some (v * base + digit) else none) 0

/-- How many digits a number has in one base; zero has none. -/
def length (base n : Nat) : Nat :=
  if h : n = 0 ∨ base < 2 then 0 else length base (n / base) + 1
termination_by n
decreasing_by exact Nat.div_lt_self (by omega) (by omega)

theorem split_cons (base : Nat) (bases : List Nat) (n : Nat) :
    split (base :: bases) n =
      ((split bases n).2 % base :: (split bases n).1, (split bases n).2 / base) := rfl

/-- There is one digit per base. -/
theorem length_split (bases : List Nat) (n : Nat) :
    (split bases n).1.length = bases.length := by
  induction bases with
  | nil => rfl
  | cons base bases ih => simp [split_cons, ih]

/-- Reading goes on from the number read so far, scaled by all the bases. -/
theorem foldl_value (bases digits : List Nat) (start : Nat)
    (hlen : digits.length = bases.length) :
    (bases.zip digits).foldl (fun v (base, digit) => v * base + digit) start
      = start * volume bases + value bases digits := by
  induction bases generalizing digits start with
  | nil => simp [value, volume]
  | cons base bases ih =>
      cases digits with
      | nil => simp at hlen
      | cons digit digits =>
          have hlen' : digits.length = bases.length := by simpa using hlen
          have hstart := ih digits (start * base + digit) hlen'
          have hzero := ih digits (0 * base + digit) hlen'
          unfold value
          rw [List.zip_cons_cons, List.foldl_cons, List.foldl_cons, hstart, hzero, volume]
          grind

/-- The first digit counts as often as the other positions have room. -/
theorem value_cons (base digit : Nat) (bases digits : List Nat)
    (hlen : digits.length = bases.length) :
    value (base :: bases) (digit :: digits) = digit * volume bases + value bases digits := by
  have h := foldl_value bases digits (0 * base + digit) hlen
  rw [Nat.zero_mul, Nat.zero_add] at h
  rw [← h]
  simp [value]

/-- The digits and what is left over rebuild the number. -/
theorem value_split (bases : List Nat) (n : Nat) :
    (split bases n).2 * volume bases + value bases (split bases n).1 = n := by
  induction bases with
  | nil => simp [split, value, volume]
  | cons base bases ih =>
      rw [split_cons, value_cons _ _ _ _ (length_split bases n), volume]
      have hdiv := Nat.div_add_mod (split bases n).2 base
      calc (split bases n).2 / base * (base * volume bases)
            + ((split bases n).2 % base * volume bases + value bases (split bases n).1)
          = (base * ((split bases n).2 / base) + (split bases n).2 % base) * volume bases
            + value bases (split bases n).1 := by grind
        _ = n := by rw [hdiv]; exact ih

end OpaqueId.MixedRadix
