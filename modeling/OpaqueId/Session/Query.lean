import OpaqueId.CommandLine.Invocation
import OpaqueId.Scheme.Mint
import OpaqueId.Scheme.Recognition
import OpaqueId.Session.Failure

/-! # Queries: what the commands that change nothing print

    Minting and decoding are all or nothing and name the first value that
    fails; validation prints a row for every identifier and fails afterwards
    if one is invalid. -/

namespace OpaqueId

open CommandLine (Format Sequence Query)

namespace Settings

/-- The alphabet that is set, or the default one. -/
def resolveAlphabet (s : Settings) : Except Refusal Alphabet :=
  match s.alphabet with
  | some symbols => (Alphabet.ofText symbols).mapError .alphabet
  | none => .ok .betanumeric

/-- The scheme of the template that is set. -/
def resolveScheme [PatternCompiler] (s : Settings) : Except Session.Failure Scheme :=
  match s.template with
  | none => .error .noTemplate
  | some template =>
    (s.resolveAlphabet.bind (Scheme.ofText template)).mapError .refused

end Settings

namespace Session

/-- A text, or a dash for an empty one. -/
def orDash (text : String) : String := if text = "" then "-" else text

/-- The identifier of the value zero, if it can be minted. -/
def firstIdentifier? (s : Scheme) : Option String := (s.mint 0).toOption

/-- The parts of a scheme as a record. -/
def schemeRecord (s : Scheme) : Json.Record :=
  [("template", .text s.template.render),
   ("prefix", .text s.template.stem),
   ("generator", .text s.template.generator.name),
   ("classes", .text (String.ofList s.template.classText)),
   ("checkdigit", .flag s.template.checked),
   ("radix_sizes", .counts s.bases),
   ("capacity", .text s.capacity.text),
   ("min", .count 0),
   ("first", .ofText? (firstIdentifier? s)),
   ("alphabet", .text s.alphabet.text)]

/-- The parts of a scheme, one a line. -/
def schemeLines (s : Scheme) : List String :=
  ["template:    " ++ s.template.render,
   "prefix:      " ++ orDash s.template.stem,
   "generator:   " ++ s.template.generator.name,
   "classes:     " ++ String.ofList s.template.classText,
   "checkdigit:  " ++ toString s.template.checked,
   "radix sizes: " ++ String.intercalate " x " (s.bases.map toString),
   "capacity:    " ++ s.capacity.text,
   "min:         0",
   "first:       " ++ (firstIdentifier? s).getD "-",
   "alphabet:    " ++ s.alphabet.text]

/-- Shows the parts of a scheme. -/
def inspect (s : Scheme) : Format → String
  | .json => (schemeRecord s).render 0 ++ "\n"
  | .plain => unlines (schemeLines s)

/-- A sequence value and its identifier. -/
abbrev Minted := Nat × String

/-- Mints a value. -/
def mintOne (s : Scheme) (value : Nat) : Except Failure Minted :=
  ((s.mint value).map (value, ·)).mapError .refused

/-- Mints `count` consecutive values, up to the first that fails, behind those
    in `done` (last one first). -/
def mintRange (s : Scheme) : (start count : Nat) → (done : List Minted) →
    Except Failure (List Minted)
  | _, 0, done => .ok done.reverse
  | start, count + 1, done =>
    match mintOne s start with
    | .error failure => .error failure
    | .ok minted => mintRange s (start + 1) count (minted :: done)

/-- Mints a sequence of values, in order. -/
def mintSequence (s : Scheme) : Sequence → Except Failure (List Minted)
  | .values [] => .error .noValues
  | .values values => values.mapM (mintOne s)
  | .range start count =>
    if start + count < CommandLine.numberLimit then mintRange s start count []
    else .error (.rangeOverflow start count)

/-- Shows identifiers that were minted. -/
def showMinted (minted : List Minted) : Format → String
  | .json => Json.renderAll (minted.map fun (value, id) =>
      [("sequence", .count value), ("identifier", .text id)]) ++ "\n"
  | .plain => unlines (minted.map (·.2))

/-- An identifier and the reason why it is invalid, if it is. -/
abbrev Validated := String × Option Rejection

/-- Validates an identifier. -/
def validateOne (s : Scheme) (id : String) : Validated :=
  match s.check id with
  | .ok _ => (id, none)
  | .error rejection => (id, some rejection)

/-- The wording of a verdict. -/
def reasonText : Option Rejection → String
  | none => "-"
  | some rejection => rejection.message

/-- The three cells of a row. -/
def validatedCells (row : Validated) : Fin 3 → String
  | 0 => row.1
  | 1 => toString row.2.isNone
  | 2 => reasonText row.2

/-- The heads of the three columns. -/
def validatedHeads : Fin 3 → String
  | 0 => "Identifier"
  | 1 => "Valid"
  | 2 => "Reason"

/-- Shows verdicts. -/
def showValidated (rows : List Validated) : Format → String
  | .json => Json.renderAll (rows.map fun row =>
      [("identifier", .text row.1), ("valid", .flag row.2.isNone),
       ("reason", .text (reasonText row.2))]) ++ "\n"
  | .plain => (Text.Grid.render ⟨validatedHeads :: rows.map validatedCells⟩) ++ "\n"

/-- Validates identifiers and fails if one is invalid, but shows all. -/
def validate (s : Scheme) (ids : List String) (format : Format) : Report :=
  let rows := ids.map (validateOne s)
  let invalid := rows.countP fun row => row.2.isSome
  { output := showValidated rows format
    failure := if invalid = 0 then none else some (.invalidIdentifiers invalid rows.length) }

/-- Decodes an identifier. -/
def decodeOne (s : Scheme) (id : String) : Except Failure (String × Nat) :=
  ((s.decode id).map (id, ·)).mapError (.undecodable id)

/-- Shows values that were decoded. -/
def showDecoded (decoded : List (String × Nat)) : Format → String
  | .json => Json.renderAll (decoded.map fun (id, value) =>
      [("identifier", .text id), ("sequence", .count value)]) ++ "\n"
  | .plain => unlines (decoded.map fun (_, value) => toString value)

/-- Shows the check symbol of a text. -/
def showCheckSymbol (text : String) (symbol : Char) : Format → String
  | .json => Json.Record.render 0
      [("input", .text text), ("checkdigit", .text (String.singleton symbol)),
       ("identifier", .text (text.push symbol))] ++ "\n"
  | .plain => unlines [String.singleton symbol]

/-- Shows saved settings. -/
def showSettings (p : Place) (saved : Settings) : Format → String
  | .json => Json.Record.render 0
      [("path", .text p.path), ("template", .ofText? saved.template),
       ("alphabet", .ofText? saved.alphabet)] ++ "\n"
  | .plain => unlines
      ["path: " ++ p.path, "template: " ++ saved.template.getD "-",
       "alphabet: " ++ saved.alphabet.getD "-"]

/-- Answers a query; `given` comes before `saved`, setting by setting. -/
def answer [PatternCompiler] (p : Place) (format : Format) (given saved : Settings) :
    Query → Report
  | .inspect => .ofExcept do
      let s ← (given.orElse saved).resolveScheme
      return inspect s format
  | .mint sequence => .ofExcept do
      let s ← (given.orElse saved).resolveScheme
      let minted ← mintSequence s sequence
      return showMinted minted format
  | .validate ids =>
    match (given.orElse saved).resolveScheme with
    | .error failure => .fail failure
    | .ok s => validate s ids format
  | .decode ids => .ofExcept do
      let s ← (given.orElse saved).resolveScheme
      let decoded ← ids.mapM (decodeOne s)
      return showDecoded decoded format
  | .checkSymbol text => .ofExcept do
      let a ← (given.orElse saved).resolveAlphabet.mapError .refused
      let symbol ← (a.checkSymbol text).mapError fun found => .refused (.foreign found)
      return showCheckSymbol text symbol format
  | .savedSettings => .success (showSettings p saved format)
  | .savedPlace => .success (unlines [p.path])

end Session

end OpaqueId
