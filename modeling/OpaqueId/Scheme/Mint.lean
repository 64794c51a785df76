import OpaqueId.Scheme
import OpaqueId.MixedRadix

/-! # Minting: from a sequence value to its identifier

    The value is written in the bases of the mask.  What the mask cannot
    hold makes the code of an extensible generator longer, by as many
    positions as it has digits in the base of the mask's last class; any
    other generator is out of identifiers then.  A checked scheme adds the
    check symbol of stem and code. -/

namespace OpaqueId.Scheme

/-- How many positions in front of the mask a value needs. -/
def extension (s : Scheme) (value : Nat) : Nat :=
  MixedRadix.length s.lastBase (MixedRadix.split s.bases value).2

/-- The digits of a value, with as many positions as it needs. -/
def digits (s : Scheme) (value : Nat) : List Nat :=
  (MixedRadix.split (s.basesFor (s.template.width + s.extension value)) value).1

/-- The code of a value, or the capacity that the value is beyond. -/
def encode (s : Scheme) (value : Nat) : Except Refusal (List Char) :=
  match s.capacity with
  | .unbounded => .ok ((s.digits value).map s.alphabet.symbolFor)
  | .bounded count =>
    if (MixedRadix.split s.bases value).2 = 0 then
      .ok ((s.digits value).map s.alphabet.symbolFor)
    else .error (.beyondCapacity value count)

/-- Puts the check symbol of a checked scheme behind stem and code. -/
def addCheckSymbol (s : Scheme) (body : List Char) : Except Refusal (List Char) :=
  if s.template.checked then
    match s.alphabet.checkSymbolOf body with
    | .ok symbol => .ok (body ++ [symbol])
    | .error found => .error (.foreign found)
  else .ok body

/-- The identifier of a sequence value. -/
def mint (s : Scheme) (value : Nat) : Except Refusal String :=
  match s.encode value with
  | .error refusal => .error refusal
  | .ok code => (s.addCheckSymbol (s.stem ++ code)).map String.ofList

end OpaqueId.Scheme
