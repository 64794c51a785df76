import OpaqueId.Json.Quoted
import OpaqueId.Text.Start

/-! # Tokens: the words of a JSON text

    `Token.next?` takes one token off a text and `tokens` divides a whole
    text, blanks dropped.  Numbers and truth values are read by the full
    grammar and then forgotten, since no reader here asks for them. -/

namespace OpaqueId.Json

/-- The two kinds of brackets. -/
inductive Bracket where
  | square
  | brace
deriving DecidableEq

inductive Token where
  | opening (bracket : Bracket)
  | closing (bracket : Bracket)
  | comma
  | colon
  | null
  /-- a number or a truth value -/
  | plain
  | string (pieces : List Piece)
deriving DecidableEq

/-- The four characters that may stand between tokens. -/
def isBlank (c : Char) : Bool := c = ' ' || c = '\t' || c = '\n' || c = '\r'

/-- Takes one or more digits off a text. -/
def dropDigits? : (text : List Char) → Option (List Char)
  | c :: rest => if c.isDigit then some (rest.dropWhile Char.isDigit) else none
  | [] => none

/-- Takes the whole part of a number off a text: a lone zero, or digits that
    do not begin with zero. -/
def dropWhole? : (text : List Char) → Option (List Char)
  | '0' :: rest => some rest
  | text => dropDigits? text

/-- Takes a fraction, if there is one, off a text. -/
def dropFraction? : (text : List Char) → Option (List Char)
  | '.' :: rest => dropDigits? rest
  | text => some text

/-- Takes one leading sign out of the given ones off a text. -/
def dropSign (signs : List Char) : (text : List Char) → List Char
  | c :: rest => if c ∈ signs then rest else c :: rest
  | [] => []

/-- Takes an exponent, if there is one, off a text. -/
def dropExponent? : (text : List Char) → Option (List Char)
  | c :: rest =>
    if c = 'e' ∨ c = 'E' then dropDigits? (dropSign ['+', '-'] rest) else some (c :: rest)
  | [] => some []

/-- Takes a number off a text. -/
def dropNumber? (text : List Char) : Option (List Char) := do
  let fraction ← dropWhole? (dropSign ['-'] text)
  let exponent ← dropFraction? fraction
  dropExponent? exponent

/-- The token that a character is all by itself. -/
def Token.punctuation? (c : Char) : Option Token :=
  if c = '[' then some (.opening .square)
  else if c = ']' then some (.closing .square)
  else if c = '\x7b' then some (.opening .brace)
  else if c = '\x7d' then some (.closing .brace)
  else if c = ',' then some .comma
  else if c = ':' then some .colon
  else none

/-- Takes the token that begins with the given character off a text. -/
def Token.next? (c : Char) (rest : List Char) : Option (Token × List Char) :=
  match punctuation? c with
  | some t => some (t, rest)
  | none =>
    if c = '"' then (readBody rest []).map fun (pieces, rest) => (.string pieces, rest)
    else if c = 'n' then (Text.afterStart? ['u', 'l', 'l'] rest).map (.null, ·)
    else if c = 't' then (Text.afterStart? ['r', 'u', 'e'] rest).map (.plain, ·)
    else if c = 'f' then (Text.afterStart? ['a', 'l', 's', 'e'] rest).map (.plain, ·)
    else (dropNumber? (c :: rest)).map (.plain, ·)

theorem length_dropWhile_le {α : Type} (p : α → Bool) (l : List α) :
    (l.dropWhile p).length ≤ l.length :=
  (List.dropWhile_sublist p).length_le

/-- At least one digit is taken off. -/
theorem length_lt_of_dropDigits? {text rest : List Char} (h : dropDigits? text = some rest) :
    rest.length < text.length := by
  unfold dropDigits? at h
  split at h
  · split at h
    · cases h
      rename_i c tail _
      have := length_dropWhile_le Char.isDigit tail
      simp only [List.length_cons]
      omega
    · cases h
  · cases h

theorem length_lt_of_dropWhole? {text rest : List Char} (h : dropWhole? text = some rest) :
    rest.length < text.length := by
  unfold dropWhole? at h
  split at h
  · cases h
    simp
  · exact length_lt_of_dropDigits? h

/-- There may be no fraction. -/
theorem length_le_of_dropFraction? {text rest : List Char}
    (h : dropFraction? text = some rest) : rest.length ≤ text.length := by
  unfold dropFraction? at h
  split at h
  · have := length_lt_of_dropDigits? h
    simp only [List.length_cons]
    omega
  · cases h
    exact Nat.le_refl _

theorem length_dropSign_le (signs text : List Char) :
    (dropSign signs text).length ≤ text.length := by
  unfold dropSign
  split
  · split <;> simp
  · exact Nat.le_refl _

/-- There may be no exponent. -/
theorem length_le_of_dropExponent? {text rest : List Char}
    (h : dropExponent? text = some rest) : rest.length ≤ text.length := by
  unfold dropExponent? at h
  split at h
  · split at h
    · rename_i c tail _
      have := length_lt_of_dropDigits? h
      have := length_dropSign_le ['+', '-'] tail
      simp only [List.length_cons]
      omega
    · cases h
      exact Nat.le_refl _
  · cases h
    exact Nat.le_refl _

/-- A number has a whole part at least. -/
theorem length_lt_of_dropNumber? {text rest : List Char} (h : dropNumber? text = some rest) :
    rest.length < text.length := by
  unfold dropNumber? at h
  obtain ⟨fraction, hw, h⟩ := Option.bind_eq_some_iff.mp h
  obtain ⟨exponent, hf, he⟩ := Option.bind_eq_some_iff.mp h
  have := length_lt_of_dropWhole? hw
  have := length_le_of_dropFraction? hf
  have := length_le_of_dropExponent? he
  have := length_dropSign_le ['-'] text
  omega

theorem length_le_of_afterStart? {start text rest : List Char}
    (h : Text.afterStart? start text = some rest) : rest.length ≤ text.length := by
  rw [(Text.afterStart?_eq_some_iff start text rest).mp h, List.length_append]
  exact Nat.le_add_left _ _

/-- A token takes at least its first character. -/
theorem Token.length_le_of_next? {c : Char} {text rest : List Char} {t : Token}
    (h : next? c text = some (t, rest)) : rest.length ≤ text.length := by
  have hword : ∀ {word : List Char} {u : Token},
      (Text.afterStart? word text).map (u, ·) = some (t, rest) → rest.length ≤ text.length := by
    intro word u h
    obtain ⟨r, hr, hpair⟩ := Option.map_eq_some_iff.mp h
    cases hpair
    exact length_le_of_afterStart? hr
  unfold next? at h
  split at h
  · cases h
    exact Nat.le_refl _
  split at h
  · obtain ⟨⟨pieces, r⟩, hr, hpair⟩ := Option.map_eq_some_iff.mp h
    cases hpair
    exact Nat.le_of_lt (length_lt_of_readBody hr)
  split at h
  · exact hword h
  split at h
  · exact hword h
  split at h
  · exact hword h
  · obtain ⟨r, hr, hpair⟩ := Option.map_eq_some_iff.mp h
    cases hpair
    have := length_lt_of_dropNumber? hr
    simp only [List.length_cons] at this
    omega

/-- Divides a text into tokens, put behind those in `done` (last one first). -/
def tokensFrom (text : List Char) (done : List Token) : Option (List Token) :=
  match _hblank : text.dropWhile isBlank with
  | [] => some done.reverse
  | c :: rest =>
    match _hnext : Token.next? c rest with
    | none => none
    | some (t, rest) => tokensFrom rest (t :: done)
termination_by text.length
decreasing_by
  have hle := length_dropWhile_le isBlank text
  have htoken := Token.length_le_of_next? _hnext
  rw [_hblank, List.length_cons] at hle
  omega

/-- Divides a text into tokens, unless some part of it is none. -/
def tokens (text : List Char) : Option (List Token) := tokensFrom text []

end OpaqueId.Json
