import OpaqueId.Json.Token
import OpaqueId.Json.Record
import OpaqueId.Scheme

/-! # Serial forms: alphabets and schemes as JSON strings

    An alphabet is written as its symbols and a scheme as its template; a
    scheme is read over the default alphabet.  The content of a literal is
    judged before the text behind it is looked at. -/

namespace OpaqueId

/-- Why a text is no serial form. -/
inductive SerialFault where
  /-- it is not one JSON string -/
  | notAString
  /-- it is one, but its content is refused -/
  | refused (refusal : Refusal)
deriving DecidableEq

namespace Serial

/-- Reads one string with a reader for its content. -/
def read {α : Type} (content : String → Except Refusal α) (text : String) :
    Except SerialFault α :=
  match text.toList.dropWhile Json.isBlank with
  | '"' :: body =>
    match Json.readBody body [] with
    | none => .error .notAString
    | some (pieces, rest) =>
      match Json.join pieces with
      | none => .error .notAString
      | some s =>
        match content (String.ofList s) with
        | .error refusal => .error (.refused refusal)
        | .ok value => if rest.all Json.isBlank then .ok value else .error .notAString
  | _ => .error .notAString

end Serial

/-- The symbols as a JSON string. -/
def Alphabet.toSerial (a : Alphabet) : String := Json.literal a.text

/-- Reads an alphabet from a JSON string. -/
def Alphabet.ofSerial (text : String) : Except SerialFault Alphabet :=
  Serial.read (fun s => (Alphabet.ofText s).mapError .alphabet) text

/-- The template as a JSON string. -/
def Scheme.toSerial (s : Scheme) : String := Json.literal s.template.render

/-- Reads a scheme over the default alphabet from a JSON string. -/
def Scheme.ofSerial [PatternCompiler] (text : String) : Except SerialFault Scheme :=
  Serial.read (fun s => Scheme.ofText s .betanumeric) text

end OpaqueId
