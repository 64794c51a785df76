import OpaqueId.Json.Quoted

/-! # Records: laid-out JSON objects

    A record is a list of named values and keeps their order.  It is written
    one field a line, indented by two spaces per level; an empty list or
    object is written on one line. -/

namespace OpaqueId.Json

/-- The values that records hold. -/
inductive Value where
  | null
  | flag (b : Bool)
  | count (n : Nat)
  | text (s : String)
  | counts (ns : List Nat)
deriving DecidableEq

/-- A text or its absence. -/
def Value.ofText? : Option String → Value
  | some s => .text s
  | none => .null

abbrev Record := List (String × Value)

/-- The literal of a text. -/
def literal (s : String) : String := String.ofList (quote s.toList)

/-- The blanks in front of a line at the given depth. -/
def indent (depth : Nat) : String := String.ofList (List.replicate (2 * depth) ' ')

/-- Items between brackets, one a line. -/
def layOut (opening closing : String) (depth : Nat) (items : List String) : String :=
  if items.isEmpty then opening ++ closing
  else
    opening ++ "\n" ++ String.intercalate ",\n" (items.map fun item => indent (depth + 1) ++ item)
      ++ "\n" ++ indent depth ++ closing

/-- A value whose first character stands at the given depth. -/
def Value.render (depth : Nat) : Value → String
  | .null => "null"
  | .flag b => if b then "true" else "false"
  | .count n => toString n
  | .text s => literal s
  | .counts ns => layOut "[" "]" depth (ns.map toString)

/-- A record whose opening brace stands at the given depth. -/
def Record.render (depth : Nat) (record : Record) : String :=
  layOut "\x7b" "\x7d" depth
    (record.map fun (name, value) => literal name ++ ": " ++ value.render (depth + 1))

/-- A list of records. -/
def renderAll (records : List Record) : String :=
  layOut "[" "]" 0 (records.map (Record.render 1))

end OpaqueId.Json
