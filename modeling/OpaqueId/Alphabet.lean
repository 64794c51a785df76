/-! # Alphabets: ordered symbols that begin with the ten digits

    An alphabet is the digit set of identifiers and, at the same time, the
    index space of their check symbol.  Its type holds the two facts that
    everything else rests on: the ten decimal digits come first, in order,
    and no symbol occurs twice.  `Alphabet.ofText` decides both for a given
    text and names the first fact that fails.

    Main statements: `index?_eq_some_iff` (the index of a symbol and the
    symbol at an index are inverse to each other), `firstRepeat_eq_none_iff`
    (the scan for repeats succeeds exactly on lists without repeats) and
    `ofText_eq_ok_iff` (an alphabet is taken from its own text only). -/

namespace OpaqueId

/-- The ten decimal digits in order. -/
def decimalDigits : List Char := ['0', '1', '2', '3', '4', '5', '6', '7', '8', '9']

/-- An ordered collection of distinct symbols whose first ten are the digits. -/
structure Alphabet where
  symbols : List Char
  digits_first : symbols.take 10 = decimalDigits
  nodup : symbols.Nodup
deriving DecidableEq

/-- Scans from the left for the first symbol that was seen before it. -/
def firstRepeat : (symbols seen : List Char) → Option Char
  | [], _ => none
  | c :: rest, seen => if c ∈ seen then some c else firstRepeat rest (c :: seen)

/-- The scan finds nothing exactly when no symbol repeats and none was
    already seen. -/
theorem firstRepeat_eq_none_iff (symbols seen : List Char) :
    firstRepeat symbols seen = none ↔ symbols.Nodup ∧ ∀ c ∈ symbols, c ∉ seen := by
  induction symbols generalizing seen with
  | nil => simp [firstRepeat]
  | cons c rest ih =>
      by_cases h : c ∈ seen
      · simp [firstRepeat, h]
      · rw [firstRepeat, if_neg h, ih, List.nodup_cons]
        constructor
        · rintro ⟨hnodup, hfresh⟩
          refine ⟨⟨fun hc => hfresh c hc (List.mem_cons_self ..), hnodup⟩, ?_⟩
          intro d hd
          rcases List.mem_cons.mp hd with rfl | hd
          · exact h
          · exact fun hs => hfresh d hd (List.mem_cons_of_mem _ hs)
        · rintro ⟨⟨hc, hnodup⟩, hfresh⟩
          refine ⟨hnodup, fun d hd hs => ?_⟩
          rcases List.mem_cons.mp hs with rfl | hs
          · exact hc hd
          · exact hfresh d (List.mem_cons_of_mem _ hd) hs

namespace Alphabet

/-- Why a text is no alphabet. -/
inductive Fault where
  /-- fewer than ten symbols -/
  | tooFew (count : Nat)
  /-- the symbol stands in two places -/
  | repeated (symbol : Char)
  /-- the first ten symbols are not `0` to `9` in order -/
  | digitsNotFirst
deriving DecidableEq

/-- The wording of a fault. -/
def Fault.reason : Fault → String
  | .tooFew count => "need at least 10 symbols, got " ++ toString count
  | .repeated symbol => "symbol '" ++ String.singleton symbol ++ "' appears more than once"
  | .digitsNotFirst => "the first ten symbols must be the digits 0-9 in order"

/-- Takes a text for an alphabet.  Of several faults the count is reported
    first, then a repeat, then the order of the digits. -/
def ofText (text : String) : Except Fault Alphabet :=
  if text.toList.length < 10 then .error (.tooFew text.toList.length)
  else
    match h : firstRepeat text.toList [] with
    | some symbol => .error (.repeated symbol)
    | none =>
      if hd : text.toList.take 10 = decimalDigits then
        .ok ⟨text.toList, hd, ((firstRepeat_eq_none_iff _ _).mp h).1⟩
      else .error .digitsNotFirst

/-- The digits followed by the lowercase consonants other than `l` and `y`. -/
def betanumeric : Alphabet where
  symbols := ['0', '1', '2', '3', '4', '5', '6', '7', '8', '9', 'b', 'c', 'd', 'f', 'g',
    'h', 'j', 'k', 'm', 'n', 'p', 'q', 'r', 's', 't', 'v', 'w', 'x', 'z']
  digits_first := rfl
  nodup := by decide

instance : Inhabited Alphabet := ⟨betanumeric⟩

/-- The number of symbols. -/
def size (a : Alphabet) : Nat := a.symbols.length

/-- The symbols as one text, in order. -/
def text (a : Alphabet) : String := String.ofList a.symbols

/-- The symbol at an index that counts from zero. -/
def symbol? (a : Alphabet) (index : Nat) : Option Char := a.symbols[index]?

/-- The index of a symbol, counted from zero. -/
def index? (a : Alphabet) (symbol : Char) : Option Nat := a.symbols.idxOf? symbol

/-- Whether a character is one of the symbols. -/
def contains (a : Alphabet) (symbol : Char) : Bool := (a.index? symbol).isSome

/-- The symbol that stands for a digit; past the last symbol it is `0`, which
    no digit below the base of its position ever asks for. -/
def symbolFor (a : Alphabet) (digit : Nat) : Char := (a.symbol? digit).getD '0'

/-- The ten digits are among the symbols. -/
theorem ten_le_size (a : Alphabet) : 10 ≤ a.size := by
  have h := congrArg List.length a.digits_first
  rw [List.length_take] at h
  have h10 : decimalDigits.length = 10 := rfl
  unfold size
  omega

theorem size_pos (a : Alphabet) : 0 < a.size := by
  have := a.ten_le_size
  omega

/-- Looking up a symbol and looking up its index are inverse to each other. -/
theorem index?_eq_some_iff (a : Alphabet) (symbol : Char) (index : Nat) :
    a.index? symbol = some index ↔ a.symbol? index = some symbol := by
  unfold index? symbol?
  rw [List.idxOf?_eq_some_iff, List.getElem?_eq_some_iff]
  constructor
  · rintro ⟨hlt, hget, -⟩
    exact ⟨hlt, hget⟩
  · rintro ⟨hlt, hget⟩
    refine ⟨hlt, hget, fun j hj heq => ?_⟩
    have := (List.getElem_inj a.nodup).mp (heq.trans hget.symm)
    omega

theorem contains_iff_mem (a : Alphabet) (symbol : Char) :
    a.contains symbol = true ↔ symbol ∈ a.symbols := by
  unfold contains index?
  rw [List.isSome_idxOf?]

/-- An alphabet is taken from the text of its symbols and from no other. -/
theorem ofText_eq_ok_iff (text : String) (a : Alphabet) : ofText text = .ok a ↔ a.text = text := by
  unfold ofText
  constructor
  · intro h
    split at h
    · cases h
    · split at h
      · cases h
      · split at h
        · cases h
          exact String.ofList_toList
        · cases h
  · rintro rfl
    -- none of the three faults can be found in the symbols of an alphabet
    have hsymbols : a.text.toList = a.symbols := String.toList_ofList
    split
    · rename_i hfew
      rw [hsymbols] at hfew
      exact absurd a.ten_le_size (Nat.not_le.mpr hfew)
    · split
      · rename_i symbol hrepeat
        have hnone := (firstRepeat_eq_none_iff a.symbols []).mpr ⟨a.nodup, by simp⟩
        rw [hsymbols, hnone] at hrepeat
        cases hrepeat
      · split
        · simp only [hsymbols]
        · rename_i hdigits
          rw [hsymbols] at hdigits
          exact absurd a.digits_first hdigits

end Alphabet

end OpaqueId
