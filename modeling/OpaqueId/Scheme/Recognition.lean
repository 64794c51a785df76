import OpaqueId.Scheme
import OpaqueId.MixedRadix
import OpaqueId.Text.Start

/-! # Recognition: from a text back to its sequence value

    A text belongs to a scheme if it begins with the stem, if the code that
    follows has a length and symbols that the mask allows, and if the check
    symbol of a checked scheme is the right one.  `locate` decides that and
    finds the code, `decode` goes on to read the value. -/

namespace OpaqueId.Scheme

/-- Sequence values have 64 bits. -/
def valueLimit : Nat := UInt64.size

/-- Whether a code of this length can belong to the scheme. -/
def allowsLength (s : Scheme) (length : Nat) : Bool :=
  if s.template.generator.isExtensible then s.template.width ≤ length
  else length = s.template.width

/-- Whether a code has an allowed length and allowed symbols. -/
def allowsCode (s : Scheme) (code : List Char) : Bool :=
  s.allowsLength code.length &&
    ((s.template.classesFor code.length).zip code).all
      fun (k, c) => k.allows s.alphabet c

/-- Compares the check symbol of stem and code with the one that was found.
    Where it cannot be computed, no symbol is right. -/
def verifyCheckSymbol (s : Scheme) (code : List Char) (actual : Char) :
    Except Rejection (List Char) :=
  match s.alphabet.checkSymbolOf (s.stem ++ code) with
  | .error _ => .error .malformed
  | .ok expected =>
    if expected = actual then .ok code else .error (.checkMismatch expected actual)

/-- Judges what follows the stem and returns the code in it. -/
def locateCode (s : Scheme) (rest : List Char) : Except Rejection (List Char) :=
  if s.template.checked then
    match rest.getLast? with
    | none => .error .malformed
    | some actual =>
      if s.allowsCode rest.dropLast && s.alphabet.contains actual then
        s.verifyCheckSymbol rest.dropLast actual
      else .error .malformed
  else if s.allowsCode rest then .ok rest
  else .error .malformed

/-- Judges a text and returns the code in it. -/
def locate (s : Scheme) (text : String) : Except Rejection (List Char) :=
  match Text.afterStart? s.stem text.toList with
  | none => .error (.wrongStem s.template.stem)
  | some rest => s.locateCode rest

/-- Judges whether a text is an identifier of the scheme. -/
def check (s : Scheme) (text : String) : Except Rejection Unit :=
  (s.locate text).map fun _ => ()

/-- The digits that the symbols of a code stand for. -/
def digitsOf? (s : Scheme) (code : List Char) : Option (List Nat) :=
  code.mapM s.alphabet.index?

/-- Reads the value of a code. -/
def decodeCode (s : Scheme) (code : List Char) : Except Rejection Nat :=
  match s.digitsOf? code with
  | none => .error .malformed
  | some digits =>
    match MixedRadix.valueBelow? valueLimit (s.basesFor code.length) digits with
    | none => .error .overflow
    | some value => .ok value

/-- The sequence value of an identifier. -/
def decode (s : Scheme) (text : String) : Except Rejection Nat :=
  match s.locate text with
  | .error rejection => .error rejection
  | .ok code => s.decodeCode code

end OpaqueId.Scheme
