import OpaqueId.Json.Members
import OpaqueId.Json.Record

/-! # Settings: the template and alphabet that were saved

    Both settings are optional.  `render` writes them as an object without
    the absent ones; `read?` accepts any object whose fields of these names
    occur at most once and are texts or null, and also a list of at most two
    such values, the template first. -/

namespace OpaqueId

/-- A template and an alphabet, each of which may be absent. -/
structure Settings where
  template : Option String
  alphabet : Option String
deriving DecidableEq

namespace Settings

/-- No settings at all. -/
def empty : Settings := ⟨none, none⟩

/-- These settings, with gaps filled from others. -/
def orElse (first second : Settings) : Settings where
  template := first.template.or second.template
  alphabet := first.alphabet.or second.alphabet

/-- The fields of the settings that are there. -/
def fields (s : Settings) : Json.Record :=
  (s.template.map fun t => ("template", Json.Value.text t)).toList
    ++ (s.alphabet.map fun a => ("alphabet", Json.Value.text a)).toList

/-- The settings as a text to be saved. -/
def render (s : Settings) : String := Json.Record.render 0 s.fields

/-- A null is an absent text. -/
def textOf? : Json.Shallow → Option (Option String)
  | .null => some none
  | .string pieces => (Json.join pieces).map fun t => some (String.ofList t)
  | .other => none

/-- The setting of a name, out of named values. -/
def setting? (members : List (List Char × Json.Shallow)) (name : String) :
    Option (Option String) :=
  match members.filter fun (n, _) => n = name.toList with
  | [] => some none
  | [(_, v)] => textOf? v
  | _ => none

/-- A field with its name put together. -/
def named? : Json.Member → Option (List Char × Json.Shallow)
  | (pieces, v) => (Json.join pieces).map (·, v)

/-- Settings out of the fields of an object. -/
def ofMembers? (members : List Json.Member) : Option Settings := do
  let members ← members.mapM named?
  let template ← setting? members "template"
  let alphabet ← setting? members "alphabet"
  return ⟨template, alphabet⟩

/-- One item of a list of settings. -/
def item? : Json.Token → Option (Option String)
  | .null => textOf? .null
  | .string pieces => textOf? (.string pieces)
  | _ => none

/-- Settings out of the tokens of a whole text. -/
def ofTokens? : List Json.Token → Option Settings
  | .opening .brace :: rest => (Json.members? rest).bind ofMembers?
  | [.opening .square, .closing .square] => some empty
  | [.opening .square, t, .closing .square] => do return ⟨← item? t, none⟩
  | [.opening .square, t, .comma, a, .closing .square] => do return ⟨← item? t, ← item? a⟩
  | _ => none

/-- Reads settings that were saved. -/
def read? (text : String) : Option Settings := (Json.tokens text.toList).bind ofTokens?

end Settings

end OpaqueId
