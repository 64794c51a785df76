import OpaqueId.Json.Token

/-! # Members: the fields of an object, read one level deep

    An object that is read for a few fields of text has to be a correct
    object all the same.  `members?` lists its fields in order; a value that
    is neither null nor a string is skipped by the grammar, to any depth, and
    only remembered as something else. -/

namespace OpaqueId.Json

/-- A value as far as a reader of texts needs to know it. -/
inductive Shallow where
  | null
  | string (pieces : List Piece)
  | other
deriving DecidableEq

/-- What the next token inside open brackets has to be. -/
inductive Expectation where
  | value
  | valueOrEnd
  | name
  | nameOrEnd
  | colon
  | separator
deriving DecidableEq

/-- Closes the innermost bracket, if it is of the given kind. -/
def closeBracket? (bracket : Bracket) : (opened : List Bracket) → Option (List Bracket)
  | [] => none
  | inner :: outer => if inner = bracket then some outer else none

/-- What follows a comma inside the innermost bracket. -/
def afterComma? : (opened : List Bracket) → Option Expectation
  | [] => none
  | .square :: _ => some .value
  | .brace :: _ => some .name

/-- One token further inside open brackets, the innermost first. -/
def advance? (opened : List Bracket) : Expectation → Token → Option (Expectation × List Bracket)
  | .value, .opening .square => some (.valueOrEnd, .square :: opened)
  | .value, .opening .brace => some (.nameOrEnd, .brace :: opened)
  | .value, .null => some (.separator, opened)
  | .value, .plain => some (.separator, opened)
  | .value, .string _ => some (.separator, opened)
  | .valueOrEnd, .opening .square => some (.valueOrEnd, .square :: opened)
  | .valueOrEnd, .opening .brace => some (.nameOrEnd, .brace :: opened)
  | .valueOrEnd, .null => some (.separator, opened)
  | .valueOrEnd, .plain => some (.separator, opened)
  | .valueOrEnd, .string _ => some (.separator, opened)
  | .valueOrEnd, .closing .square => (closeBracket? .square opened).map (.separator, ·)
  | .name, .string _ => some (.colon, opened)
  | .nameOrEnd, .string _ => some (.colon, opened)
  | .nameOrEnd, .closing .brace => (closeBracket? .brace opened).map (.separator, ·)
  | .colon, .colon => some (.value, opened)
  | .separator, .comma => (afterComma? opened).map (·, opened)
  | .separator, .closing bracket => (closeBracket? bracket opened).map (.separator, ·)
  | _, _ => none

/-- Skips tokens until all brackets are closed and returns the rest. -/
def skipNested : Expectation → (opened : List Bracket) → (tokens : List Token) →
    Option (List Token)
  | _, _, [] => none
  | expecting, opened, t :: rest =>
    match advance? opened expecting t with
    | none => none
    | some (_, []) => some rest
    | some (next, bracket :: opened) => skipNested next (bracket :: opened) rest

/-- Takes one value off a list of tokens. -/
def value? : (tokens : List Token) → Option (Shallow × List Token)
  | .null :: rest => some (.null, rest)
  | .string pieces :: rest => some (.string pieces, rest)
  | .plain :: rest => some (.other, rest)
  | .opening .square :: rest => (skipNested .valueOrEnd [.square] rest).map (.other, ·)
  | .opening .brace :: rest => (skipNested .nameOrEnd [.brace] rest).map (.other, ·)
  | _ => none

/-- Skipping a nested value takes tokens off. -/
theorem length_lt_of_skipNested {expecting : Expectation} {opened : List Bracket}
    {tokens rest : List Token} (h : skipNested expecting opened tokens = some rest) :
    rest.length < tokens.length := by
  induction tokens generalizing expecting opened with
  | nil => simp [skipNested] at h
  | cons t tokens ih =>
      rw [skipNested] at h
      split at h
      · cases h
      · cases h
        simp
      · have := ih h
        simp only [List.length_cons]
        omega

/-- Reading a value takes tokens off. -/
theorem length_lt_of_value? {tokens rest : List Token} {v : Shallow}
    (h : value? tokens = some (v, rest)) : rest.length < tokens.length := by
  unfold value? at h
  split at h
  · cases h
    simp
  · cases h
    simp
  · cases h
    simp
  · obtain ⟨r, hr, hpair⟩ := Option.map_eq_some_iff.mp h
    cases hpair
    have := length_lt_of_skipNested hr
    simp only [List.length_cons]
    omega
  · obtain ⟨r, hr, hpair⟩ := Option.map_eq_some_iff.mp h
    cases hpair
    have := length_lt_of_skipNested hr
    simp only [List.length_cons]
    omega
  · cases h

/-- A field of an object: its name, which may stand for no text, and value. -/
abbrev Member := List Piece × Shallow

/-- Reads fields up to the closing brace, which must be the last token, and
    puts them behind those in `done` (last one first). -/
def membersFrom (done : List Member) : (tokens : List Token) → Option (List Member)
  | .string name :: .colon :: rest =>
    match _hvalue : value? rest with
    | some (v, .comma :: rest) => membersFrom ((name, v) :: done) rest
    | some (v, [.closing .brace]) => some ((name, v) :: done).reverse
    | _ => none
  | _ => none
termination_by tokens => tokens.length
decreasing_by
  have := length_lt_of_value? _hvalue
  simp only [List.length_cons] at this ⊢
  omega

/-- The fields of an object in order, from the tokens behind its opening
    brace. -/
def members? : (tokens : List Token) → Option (List Member)
  | [.closing .brace] => some []
  | tokens => membersFrom [] tokens

end OpaqueId.Json
