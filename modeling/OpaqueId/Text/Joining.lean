import OpaqueId.Text.WidthTable

/-! # Joining: characters that are drawn as one sign

    A line is measured from its end, so that the text behind a character is
    known when the character is reached.  A `Sequel` is what of that text
    can still become one sign with the characters in front of it: an emoji
    with its skin tone and the emoji that joiners attach to it, a flag, or
    letters that some scripts draw together.  `Sequel.join?` says when a
    character joins and how many columns the sign gains or loses by it. -/

namespace OpaqueId.Text

/-- Letters that letters in front of them join, invisible marks between
    them or not. -/
inductive Ligature where
  /-- Hebrew lamed, which a joiner ties to alef -/
  | lamed
  /-- a Khmer letter, which a coeng sets below the letter in front -/
  | subscript
  /-- Buginese ya, which a joiner ties to the vowel sign i -/
  | ya
  /-- the Buginese vowel sign i, tied to ya, which rests on the letter a -/
  | vowelOnYa
  /-- a Tifinagh consonant, which a joiner ties to another one -/
  | consonant
  /-- the Tifinagh consonant joiner and the consonant behind it -/
  | joinedConsonant
  /-- a Lisu tone letter that may follow another one -/
  | tone
  /-- Old Turkic orkhon i, which a joiner ties to orkhon s -/
  | orkhonI
deriving DecidableEq

/-- What a text begins with, as far as it can become one sign with the
    characters in front of it. -/
inductive Sequel where
  /-- nothing that joins -/
  | other
  /-- an alef, in front of which a lam is drawn together with it -/
  | alef
  /-- a letter of a ligature, and whether a joiner stands in front of it -/
  | ligature (letter : Ligature) (joiner : Bool)
  /-- the Kirat Rai vowel sign e -/
  | kiratE
  /-- the Kirat Rai vowel sign ai -/
  | kiratAi
  /-- a skin tone -/
  | skinTone
  /-- a run of regional indicators -/
  | indicators (count : Nat)
  /-- an emoji -/
  | emoji
  /-- a joiner and an emoji -/
  | joinedEmoji
  /-- a keycap in front of a joined emoji -/
  | joinedKeycap
  /-- a run of regional indicators in front of a joined emoji -/
  | joinedIndicators (count : Nat)
  /-- the tags that end a flag in front of a joined emoji: letters at the
      end, digits before them -/
  | joinedTags (letters digits : Nat)
deriving DecidableEq

namespace Ligature

/-- The ligature whose last letter is the given one. -/
def ofChar? (c : Char) : Option Ligature :=
  if c.toNat = 0x5DC then some .lamed
  else if inRanges khmerSubscript c then some .subscript
  else if c.toNat = 0x1A10 then some .ya
  else if inRanges tifinagh c then some .consonant
  else if inRanges lisuSecondTone c then some .tone
  else if c.toNat = 0x10C03 then some .orkhonI
  else none

/-- How a character joins the letter behind it: the columns that it adds,
    and the sequel of the character in front. -/
def join? (c : Char) (joiner : Bool) : Ligature → Option (Int × Sequel)
  | .lamed => if joiner && c.toNat = 0x5D0 then some (0, .other) else none
  | .subscript => if c.toNat = 0x17D2 then some (-1, .other) else none
  | .ya => if joiner && c.toNat = 0x1A17 then some (0, .ligature .vowelOnYa false) else none
  | .vowelOnYa => if c.toNat = 0x1A15 then some (0, .other) else none
  | .consonant =>
    if c.toNat = 0x2D7F then some (1, .ligature .joinedConsonant false)
    else if joiner && inRanges tifinagh c then some (0, .other)
    else none
  | .joinedConsonant => if inRanges tifinagh c then some (-1, .other) else none
  | .tone => if inRanges lisuFirstTone c then some (0, .other) else none
  | .orkhonI => if joiner && c.toNat = 0x10C32 then some (0, .other) else none

end Ligature

namespace Sequel

/-- The sequel that a character makes on its own. -/
def ofChar (c : Char) : Sequel :=
  if inRanges emojiPresentation c then .emoji
  else if inRanges emojiModifier c then .skinTone
  else if inRanges regionalIndicator c then .indicators 1
  else if inRanges arabicAlef c then .alef
  else if c.toNat = 0x16D67 then .kiratE
  else if c.toNat = 0x16D68 then .kiratAi
  else match Ligature.ofChar? c with
    | some letter => .ligature letter false
    | none => .other

/-- Whether a variation selector in front leaves the letters as they are. -/
def isLetter : Sequel → Bool
  | .alef | .ligature .. => true
  | _ => false

/-- Whether the character in front of an emoji selector is part of an emoji
    that has its columns already. -/
def isAttached : Sequel → Bool
  | .joinedEmoji | .joinedKeycap => true
  | _ => false

/-- A joiner in front of an emoji or of a whole flag. -/
def joiner? (c : Char) : Option (Int × Sequel) :=
  if c = '\u200d' then some (0, .joinedEmoji) else none

/-- A tag in front of the tags of a flag; a region has two letters or three
    digits and up to four letters behind them. -/
def tag? (c : Char) (letters digits : Nat) : Option (Int × Sequel) :=
  if inRanges tagLetter c && digits == 0 && letters < 6 then
    some (0, .joinedTags (letters + 1) 0)
  else if inRanges tagDigit c && letters ≤ 4 && digits < 3 then
    some (0, .joinedTags letters (digits + 1))
  else if c.toNat = 0x1F3F4 && (digits == 3 || digits == 0 && 3 ≤ letters) then some (0, .emoji)
  else none

/-- How a character joins the text behind it: the columns that it adds, and
    the sequel of the character in front.  There is none when the character
    starts a sign of its own. -/
def join? (c : Char) : Sequel → Option (Int × Sequel)
  | .other => none
  | .alef =>
    if inRanges arabicLam c then some (0, .other)
    else if inRanges zeroWidth c && !inRanges separating c then some (0, .alef)
    else none
  | .ligature letter joiner =>
    if c = '\u200d' then some (0, .ligature letter true)
    else if inRanges ignorableMark c then some (0, .ligature letter joiner)
    else letter.join? c joiner
  | .kiratE =>
    if c.toNat = 0x16D63 || c.toNat = 0x16D69 then some (0, .other)
    else if c.toNat = 0x16D67 then some (0, .kiratAi)
    else if c.toNat = 0x16D68 then some (1, .kiratE)
    else none
  | .kiratAi => if c.toNat = 0x16D63 then some (0, .other) else none
  | .skinTone => if inRanges modifierBase c then some (0, .emoji) else joiner? c
  | .indicators count =>
    if inRanges regionalIndicator c then some (1, .indicators (count + 1))
    else if 2 ≤ count then joiner? c
    else none
  | .emoji => joiner? c
  | .joinedEmoji =>
    if inRanges emojiPresentation c then some (0, .emoji)
    else if inRanges emojiModifier c then some (0, .skinTone)
    else if inRanges regionalIndicator c then some (1, .joinedIndicators 1)
    else if c.toNat = 0x20E3 then some (0, .joinedKeycap)
    else if c.toNat = 0xE007F then some (0, .joinedTags 0 0)
    else none
  | .joinedKeycap => none
  | .joinedIndicators count =>
    if inRanges regionalIndicator c then
      some (if count % 2 = 1 then -1 else 3, .joinedIndicators (count + 1))
    else if 2 ≤ count then joiner? c
    else none
  | .joinedTags letters digits => tag? c letters digits

end Sequel

end OpaqueId.Text
