/-! # Quoted strings: JSON string literals over lists of characters

    `quote` writes a literal: the quotation mark, the backslash and the
    control characters below the space are escaped, everything else stands
    for itself.  Reading has two steps, because a literal can be well formed
    and yet stand for no text: `readBody` finds the closing mark and resolves
    every escape to a piece, and `join` puts the pieces together, pairing the
    halves of surrogate pairs and refusing halves that stand alone.

    Main statements: `readBody_quote` and `join_chars`, which together say
    that a written literal reads back as the text it was written for. -/

namespace OpaqueId.Json

/-- The lower-case hexadecimal digit of a number below sixteen. -/
def hexDigit (n : Nat) : Char :=
  if n < 10 then Char.ofNat (48 + n) else Char.ofNat (87 + n)

/-- The written form of one character inside a literal. -/
def escape (c : Char) : List Char :=
  if c = '"' then ['\\', '"']
  else if c = '\\' then ['\\', '\\']
  else if c = '\x08' then ['\\', 'b']
  else if c = '\x0c' then ['\\', 'f']
  else if c = '\n' then ['\\', 'n']
  else if c = '\r' then ['\\', 'r']
  else if c = '\t' then ['\\', 't']
  else if c.toNat < 32 then
    ['\\', 'u', '0', '0', hexDigit (c.toNat / 16), hexDigit (c.toNat % 16)]
  else [c]

/-- The literal of a text, with its quotation marks. -/
def quote (text : List Char) : List Char :=
  '"' :: (text.flatMap escape ++ ['"'])

/-- The value of a hexadecimal digit of either case. -/
def hexValue? (c : Char) : Option Nat :=
  if '0' ≤ c ∧ c ≤ '9' then some (c.toNat - 48)
  else if 'a' ≤ c ∧ c ≤ 'f' then some (c.toNat - 87)
  else if 'A' ≤ c ∧ c ≤ 'F' then some (c.toNat - 55)
  else none

/-- The number that four hexadecimal digits spell. -/
def codeUnit? (h₁ h₂ h₃ h₄ : Char) : Option Nat := do
  let a ← hexValue? h₁
  let b ← hexValue? h₂
  let c ← hexValue? h₃
  let d ← hexValue? h₄
  return ((a * 16 + b) * 16 + c) * 16 + d

/-- What one escape or one plain character of a literal stands for. -/
inductive Piece where
  | char (c : Char)
  /-- half of a surrogate pair, as its 16-bit unit -/
  | half (unit : Nat)
deriving DecidableEq

/-- A 16-bit unit is half of a pair or a character of its own. -/
def Piece.ofUnit (unit : Nat) : Piece :=
  if 0xD800 ≤ unit ∧ unit < 0xE000 then .half unit else .char (Char.ofNat unit)

/-- The character that a backslash and one letter stand for. -/
def unescape? (c : Char) : Option Char :=
  if c = '"' ∨ c = '\\' ∨ c = '/' then some c
  else if c = 'b' then some '\x08'
  else if c = 'f' then some '\x0c'
  else if c = 'n' then some '\n'
  else if c = 'r' then some '\r'
  else if c = 't' then some '\t'
  else none

/-- Reads a literal from behind its opening mark: its pieces, put behind those
    in `done` (last one first), and the text after the closing mark. -/
def readBody : (text : List Char) → (done : List Piece) → Option (List Piece × List Char)
  | [], _ => none
  | c :: rest, done =>
    if c = '"' then some (done.reverse, rest)
    else if c = '\\' then
      match rest with
      | 'u' :: h₁ :: h₂ :: h₃ :: h₄ :: rest =>
        match codeUnit? h₁ h₂ h₃ h₄ with
        | some unit => readBody rest (.ofUnit unit :: done)
        | none => none
      | e :: rest =>
        match unescape? e with
        | some d => readBody rest (.char d :: done)
        | none => none
      | [] => none
    else if c.toNat < 32 then none
    else readBody rest (.char c :: done)

/-- The character that a high and a low half stand for together. -/
def pair? (high low : Nat) : Option Char :=
  if high < 0xDC00 ∧ 0xDC00 ≤ low then
    some (Char.ofNat (0x10000 + (high - 0xD800) * 0x400 + (low - 0xDC00)))
  else none

/-- Puts pieces together behind the characters in `done` (last one first). -/
def joinFrom : (pieces : List Piece) → (done : List Char) → Option (List Char)
  | [], done => some done.reverse
  | .char c :: rest, done => joinFrom rest (c :: done)
  | .half high :: .half low :: rest, done =>
    match pair? high low with
    | some c => joinFrom rest (c :: done)
    | none => none
  | .half _ :: _, _ => none

/-- The text that pieces stand for, if no half stands alone. -/
def join (pieces : List Piece) : Option (List Char) := joinFrom pieces []

/-- Reading a literal takes its closing mark and maybe more off the text. -/
theorem length_lt_of_readBody {text : List Char} {done pieces : List Piece}
    {rest : List Char} (h : readBody text done = some (pieces, rest)) :
    rest.length < text.length := by
  fun_induction readBody text done with
  | case1 => cases h
  | case2 =>
      cases h
      simp
  | case3 _ _ _ _ _ _ _ _ _ ih =>
      have := ih h
      simp only [List.length_cons]
      omega
  | case4 => cases h
  | case5 _ _ _ _ _ _ _ ih =>
      have := ih h
      simp only [List.length_cons]
      omega
  | case6 => cases h
  | case7 => cases h
  | case8 => cases h
  | case9 _ _ _ _ _ _ ih =>
      have := ih h
      simp only [List.length_cons]
      omega

theorem joinFrom_chars (text done : List Char) :
    joinFrom (text.map Piece.char) done = some (done.reverse ++ text) := by
  induction text generalizing done with
  | nil => simp [joinFrom]
  | cons c rest ih => simp [joinFrom, ih]

/-- Pieces that are characters stand for those characters. -/
theorem join_chars (text : List Char) : join (text.map Piece.char) = some text := by
  simp [join, joinFrom_chars]

/-- Each control character is the character of its own two-digit escape. -/
theorem codeUnit?_hexDigit (n : Nat) (h : n < 32) :
    codeUnit? '0' '0' (hexDigit (n / 16)) (hexDigit (n % 16)) = some n := by
  have hall : ∀ m < 32,
      codeUnit? '0' '0' (hexDigit (m / 16)) (hexDigit (m % 16)) = some m := by decide
  exact hall n h

/-- Reading decides by the first character of the text. -/
theorem readBody_cons (c : Char) (rest : List Char) (done : List Piece) :
    readBody (c :: rest) done =
      if c = '"' then some (done.reverse, rest)
      else if c = '\\' then
        match rest with
        | 'u' :: h₁ :: h₂ :: h₃ :: h₄ :: rest =>
          match codeUnit? h₁ h₂ h₃ h₄ with
          | some unit => readBody rest (.ofUnit unit :: done)
          | none => none
        | e :: rest =>
          match unescape? e with
          | some d => readBody rest (.char d :: done)
          | none => none
        | [] => none
      else if c.toNat < 32 then none
      else readBody rest (.char c :: done) := by
  conv => lhs; unfold readBody

/-- Reading takes the written form of one character for that character. -/
theorem readBody_escape (c : Char) (rest : List Char) (done : List Piece) :
    readBody (escape c ++ rest) done = readBody rest (.char c :: done) := by
  by_cases hmark : c = '"'
  · subst hmark; rfl
  by_cases hslash : c = '\\'
  · subst hslash; rfl
  by_cases hb : c = '\x08'
  · subst hb; rfl
  by_cases hf : c = '\x0c'
  · subst hf; rfl
  by_cases hn : c = '\n'
  · subst hn; rfl
  by_cases hr : c = '\r'
  · subst hr; rfl
  by_cases ht : c = '\t'
  · subst ht; rfl
  by_cases hctl : c.toNat < 32
  · have hunit : Piece.ofUnit c.toNat = .char c := by
      unfold Piece.ofUnit
      rw [if_neg (by omega), Char.ofNat_toNat]
    unfold escape
    rw [if_neg hmark, if_neg hslash, if_neg hb, if_neg hf, if_neg hn, if_neg hr, if_neg ht,
      if_pos hctl]
    simp [readBody, codeUnit?_hexDigit _ hctl, hunit]
  · unfold escape
    rw [if_neg hmark, if_neg hslash, if_neg hb, if_neg hf, if_neg hn, if_neg hr, if_neg ht,
      if_neg hctl, List.singleton_append, readBody_cons, if_neg hmark, if_neg hslash, if_neg hctl]

theorem readBody_flatMap_escape (text rest : List Char) (done : List Piece) :
    readBody (text.flatMap escape ++ '"' :: rest) done
      = some (done.reverse ++ text.map Piece.char, rest) := by
  induction text generalizing done with
  | nil => simp [readBody_cons]
  | cons c text ih =>
      rw [List.flatMap_cons, List.append_assoc, readBody_escape, ih]
      simp

/-- A literal that was written reads back as the characters of its text. -/
theorem readBody_quote (text rest : List Char) :
    readBody ((quote text).tail ++ rest) [] = some (text.map Piece.char, rest) := by
  have h := readBody_flatMap_escape text rest []
  simpa [quote] using h

end OpaqueId.Json
