import OpaqueId.CommandLine.Scan
import OpaqueId.Settings

/-! # Invocations: command lines that can be carried out

    An invocation is a command with its operands, the format of its output,
    the settings that the command line, or else the environment, gives, and
    whether the command line asks for more to be logged.  Commands either ask
    something or change the saved settings. -/

namespace OpaqueId.CommandLine

/-- The layout of what is printed. -/
inductive Format where
  | plain
  | json
deriving DecidableEq

/-- Every name but `json` stands for the plain format. -/
def Format.ofName (name : String) : Format := if name = "json" then .json else .plain

/-- The sequence values to mint. -/
inductive Sequence where
  /-- the values themselves, in minting order -/
  | values (values : List Nat)
  /-- consecutive values, `count` of them -/
  | range (start count : Nat)
deriving DecidableEq

/-- Commands that leave the saved settings alone. -/
inductive Query where
  | inspect
  | mint (sequence : Sequence)
  | validate (ids : List String)
  | decode (ids : List String)
  | checkSymbol (text : String)
  | savedSettings
  | savedPlace
deriving DecidableEq

/-- Commands that write the saved settings anew. -/
inductive Change where
  | save
  | clear
deriving DecidableEq

inductive Command where
  | ask (query : Query)
  | change (change : Change)
deriving DecidableEq

structure Invocation where
  command : Command
  format : Format
  /-- the settings from the command line or the environment -/
  settings : Settings
  /-- more of what happens is logged -/
  verbose : Bool
deriving DecidableEq

/-- The operands of a command that needs at least one. -/
def needTexts (texts : List String) : Except Usage (List String) :=
  if texts = [] then .error .missingArgument else .ok texts

/-- A level that only leads to others has been left too early. -/
def noCommand (environment : Settings) (g : Given) : Usage :=
  if g = .nothing ∧ environment = .empty then .nothingGiven else .noCommand

/-- The sequence values that were asked for.  A range and single values
    exclude each other, and a range needs its count. -/
def sequenceOf (g : Given) : Except Usage Sequence :=
  match g.start, g.count with
  | none, none => .ok (.values g.numbers)
  | start, count =>
    if g.numbers ≠ [] then .error .conflict
    else
      match count with
      | none => .error .missingArgument
      | some count => .ok (.range (start.getD 0) count)

/-- The command of the innermost level. -/
def commandOf (environment : Settings) : (level : Level) → (g : Given) → Except Usage Command
  | .program, g | .config, g => .error (noCommand environment g)
  | .inspect, _ => .ok (.ask .inspect)
  | .mint, g => (sequenceOf g).map fun s => .ask (.mint s)
  | .validate, g => (needTexts g.texts).map fun ids => .ask (.validate ids)
  | .decode, g => (needTexts g.texts).map fun ids => .ask (.decode ids)
  | .checkdigit, g =>
    match g.texts with
    | [] => .error .missingArgument
    | text :: _ => .ok (.ask (.checkSymbol text))
  | .configShow, _ => .ok (.ask .savedSettings)
  | .configPath, _ => .ok (.ask .savedPlace)
  | .configSet, _ => .ok (.change .save)
  | .configClear, _ => .ok (.change .clear)

/-- Reads a command line.  Options count for the whole command line wherever
    they stand, the innermost first, and come before the environment. -/
def parse (environment : Settings) (args : List String) : Except Usage Invocation :=
  (scan (commandOf environment) (.start .program) args).map fun (command, g) =>
    { command := command
      format := Format.ofName (g.format.getD "table")
      settings := Settings.orElse ⟨g.template, g.alphabet⟩ environment
      verbose := g.verbose }

end OpaqueId.CommandLine
