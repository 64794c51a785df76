import OpaqueId.Alphabet.CheckSymbol
import OpaqueId.Template

/-! # Refusals and rejections: what can go wrong, and its wording

    A `Refusal` says why a scheme cannot be built or a value not minted; a
    `Rejection` says why a text is no identifier of a scheme. -/

namespace OpaqueId

/-- Why a scheme cannot be built, a value cannot be minted or a check symbol
    cannot be computed. -/
inductive Refusal where
  | template (text : String) (fault : Template.Fault)
  /-- the sequence value lies beyond a bounded capacity -/
  | beyondCapacity (value capacity : Nat)
  /-- the check sum met a character outside the alphabet -/
  | foreign (found : ForeignCharacter)
  | alphabet (fault : Alphabet.Fault)
  /-- the pattern of the scheme is not compiled -/
  | pattern (complaint : String)
deriving DecidableEq

def Refusal.message : Refusal → String
  | .template text fault => "invalid template '" ++ text ++ "': " ++ fault.reason
  | .beyondCapacity value capacity =>
    "sequence value " ++ toString value ++ " exceeds template capacity " ++ toString capacity
  | .foreign found =>
    "character '" ++ String.singleton found.character ++ "' at position "
      ++ toString found.position ++ " is not in the alphabet"
  | .alphabet fault => "invalid alphabet: " ++ fault.reason
  | .pattern complaint => "failed to compile validation pattern: " ++ complaint

/-- Why a text is not taken for an identifier. -/
inductive Rejection where
  /-- it does not begin with the stem -/
  | wrongStem (expected : String)
  /-- what follows the stem does not have the shape of the mask -/
  | malformed
  | checkMismatch (expected actual : Char)
  /-- the value is too large for a sequence value -/
  | overflow
deriving DecidableEq

def Rejection.message : Rejection → String
  | .wrongStem expected => "identifier does not start with prefix '" ++ expected ++ "'"
  | .malformed => "identifier body does not match the template mask"
  | .checkMismatch expected actual =>
    "check symbol mismatch: expected '" ++ String.singleton expected ++ "', got '"
      ++ String.singleton actual ++ "'"
  | .overflow => "identifier encodes a sequence value beyond u64"

end OpaqueId
