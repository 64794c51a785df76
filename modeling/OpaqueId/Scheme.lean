import OpaqueId.Refusal
import OpaqueId.Capacity
import OpaqueId.Matcher

/-! # Schemes: a template over an alphabet

    The code of an identifier, the part between stem and check symbol, has
    one symbol per class of the mask.  The codes of an extensible generator
    may be longer: the positions in front of the mask are governed by the
    mask's last class.  `classesFor` lists the class of each position of a
    code of a given length; allowed symbols and bases both follow from it. -/

namespace OpaqueId

/-- Whether a class allows a character under an alphabet. -/
def SymbolClass.allows (a : Alphabet) : SymbolClass → Char → Bool
  | .extended, c => a.contains c
  | .decimal, c => c ∈ decimalDigits

/-- The digit base of a position of this class. -/
def SymbolClass.base (a : Alphabet) : SymbolClass → Nat
  | .extended => a.size
  | .decimal => 10

namespace Template

/-- The number of positions of the mask. -/
def width (t : Template) : Nat := t.mask.length

/-- The class of each position of a code of the given length: the mask,
    behind as many copies of its last class as the length asks for. -/
def classesFor (t : Template) (length : Nat) : List SymbolClass :=
  List.replicate (length - t.width) (t.mask.getLast?.getD .decimal) ++ t.mask

end Template

/-- A template with at least one class, over an alphabet. -/
structure Scheme where
  template : Template
  alphabet : Alphabet
  mask_ne_nil : template.mask ≠ []
deriving DecidableEq

namespace Scheme

/-- Reads a template over an alphabet.  A text that is a template is refused
    if the pattern is not compiled that its identifiers would be matched by. -/
def ofText [PatternCompiler] (text : String) (a : Alphabet) : Except Refusal Scheme :=
  match h : Template.parse text with
  | .error fault => .error (.template text fault)
  | .ok t =>
    match PatternCompiler.complaint? t a with
    | some complaint => .error (.pattern complaint)
    | none => .ok ⟨t, a, Template.mask_ne_nil_of_parse h⟩

/-- The stem as characters. -/
def stem (s : Scheme) : List Char := s.template.stem.toList

/-- The bases of a code of the given length, most significant first. -/
def basesFor (s : Scheme) (length : Nat) : List Nat :=
  (s.template.classesFor length).map (SymbolClass.base s.alphabet)

/-- The bases of the mask, most significant first. -/
def bases (s : Scheme) : List Nat := s.template.mask.map (SymbolClass.base s.alphabet)

/-- The base of every position in front of the mask. -/
def lastBase (s : Scheme) : Nat :=
  (s.template.mask.getLast?.getD .decimal).base s.alphabet

/-- The number of identifiers of the scheme. -/
def capacity (s : Scheme) : Capacity :=
  if s.template.generator.isExtensible then .unbounded else .ofBases s.bases

/-- The check symbol of a text under the scheme's alphabet. -/
def checkSymbol (s : Scheme) (text : String) : Except Refusal Char :=
  (s.alphabet.checkSymbol text).mapError .foreign

end Scheme

/-- Every position has at least ten digits. -/
theorem SymbolClass.ten_le_base (a : Alphabet) (k : SymbolClass) : 10 ≤ k.base a := by
  cases k with
  | extended => exact a.ten_le_size
  | decimal => exact Nat.le_refl 10

end OpaqueId
