import OpaqueId.Alphabet
import OpaqueId.Template

/-! # Pattern compilers: whether a scheme can be matched

    The identifiers of a scheme are matched by a pattern that is compiled when
    the scheme is built.  The compiler comes from elsewhere, so it is left
    open: a `PatternCompiler` says for which templates and alphabets it has a
    complaint, and in which words.

    What is known of the compiler in use is that it complains about patterns
    that come out too large.  `SizeLimit` is one that estimates their size from
    the states of the machine they are compiled to; it has to be opened to be
    used. -/

namespace OpaqueId

/-- A compiler of patterns, known by its complaints. -/
class PatternCompiler where
  /-- what is wrong with the pattern of a template over an alphabet, if anything -/
  complaint? : Template → Alphabet → Option String

/-- The pattern of the template over the alphabet is compiled. -/
def Template.Compiles [PatternCompiler] (t : Template) (a : Alphabet) : Prop :=
  PatternCompiler.complaint? t a = none

instance [PatternCompiler] (t : Template) (a : Alphabet) : Decidable (t.Compiles a) :=
  inferInstanceAs (Decidable (_ = _))

namespace SizeLimit

/-- The bytes that a compiled pattern may take. -/
def limit : Nat := 268435456

/-- The bytes of a state. -/
def stateSize : Nat := 32

/-- The bytes of an arc between states where there are several. -/
def arcSize : Nat := 8

/-- Sizes together. -/
def total (sizes : List Nat) : Nat := sizes.foldr (· + ·) 0

/-- A text takes a state for each of its bytes. -/
def textSize (text : List Char) : Nat := stateSize * total (text.map Char.utf8Size)

/-- Whether a symbol begins a range of symbols that follow each other. -/
def beginsRange (symbols : List Char) (c : Char) : Bool :=
  symbols.all fun d => d.toNat + 1 ≠ c.toNat

/-- A range takes an arc for each byte of its symbols, and a state between two bytes. -/
def rangeSize (first : Char) : Nat :=
  arcSize * first.utf8Size + stateSize * (first.utf8Size - 1)

/-- A class takes two states besides its ranges. -/
def classSize (symbols : List Char) : Nat :=
  2 * stateSize + total ((symbols.filter (beginsRange symbols)).map rangeSize)

/-- The bytes of one position. -/
def positionSize (a : Alphabet) : SymbolClass → Nat
  | .extended => classSize a.symbols
  | .decimal => classSize decimalDigits

/-- The classes of a pattern: the one that is repeated in front of an extensible mask, the
    mask, and the one for the check symbol. -/
def classes (t : Template) : List SymbolClass :=
  (if t.generator.isExtensible then t.mask.getLast?.toList else []) ++ t.mask
    ++ if t.checked then [.extended] else []

/-- The bytes that a compiled pattern takes. -/
def patternSize (t : Template) (a : Alphabet) : Nat :=
  textSize t.stem.toList + (classes t).count .extended * positionSize a .extended
    + (classes t).count .decimal * positionSize a .decimal

/-- A compiler that only complains about the size of a pattern. -/
scoped instance compiler : PatternCompiler where
  complaint? t a :=
    if limit < patternSize t a then
      some ("Compiled regex exceeds size limit of " ++ toString limit ++ " bytes.")
    else none

end SizeLimit

end OpaqueId
