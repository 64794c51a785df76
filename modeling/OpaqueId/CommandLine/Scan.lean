import OpaqueId.CommandLine.Level
import OpaqueId.CommandLine.Usage

/-! # Scanning: the arguments of a command line, one after the other

    A scan holds what a level was given so far and what is still pending: an
    option that waits for its value, or operands that more may follow.  What
    is pending is settled when the next option or the end is reached, and
    only then are values judged; an argument that is unknown is refused
    without settling anything. -/

namespace OpaqueId.CommandLine

/-- What one level was given. -/
structure Given where
  format : Option String
  template : Option String
  alphabet : Option String
  start : Option Nat
  count : Option Nat
  verbose : Bool
  numbers : List Nat
  texts : List String
deriving DecidableEq

namespace Given

def nothing : Given := ⟨none, none, none, none, none, false, [], []⟩

/-- What a level was given, with the options that an outer level was given
    where this one has none. -/
def within (inner outer : Given) : Given :=
  { inner with
    format := inner.format.or outer.format
    template := inner.template.or outer.template
    alphabet := inner.alphabet.or outer.alphabet
    verbose := inner.verbose || outer.verbose }

end Given

/-- Numbers on a command line have 64 bits. -/
def numberLimit : Nat := UInt64.size

/-- The number that digits spell, below the limit. -/
def digitsToNumber? (digits : List Char) : Option Nat :=
  let number := digits.foldl (fun n c => n * 10 + (c.toNat - 48)) 0
  if digits ≠ [] ∧ digits.all Char.isDigit ∧ number < numberLimit then some number else none

/-- Reads a number: decimal digits, behind a plus sign if there is one. -/
def readNumber? (text : String) : Option Nat :=
  match text.toList with
  | '+' :: digits => digitsToNumber? digits
  | digits => digitsToNumber? digits

/-- Puts a text where there is none yet. -/
def setText (place : Option String) (text : String) : Except Usage (Option String) :=
  match place with
  | none => .ok (some text)
  | some _ => .error .conflict

/-- Puts a number where there is none yet. -/
def setNumber (place : Option Nat) (text : String) : Except Usage (Option Nat) :=
  match place with
  | some _ => .error .conflict
  | none =>
    match readNumber? text with
    | some n => .ok (some n)
    | none => .error .notANumber

/-- Records the value of an option. -/
def Given.record (g : Given) (key : Key) (text : String) : Except Usage Given :=
  match key with
  | .format => (setText g.format text).map fun v => { g with format := v }
  | .template => (setText g.template text).map fun v => { g with template := v }
  | .alphabet => (setText g.alphabet text).map fun v => { g with alphabet := v }
  | .start => (setNumber g.start text).map fun v => { g with start := v }
  | .count => (setNumber g.count text).map fun v => { g with count := v }

/-- Records operands in the order given. -/
def Given.recordOperands (g : Given) (kind : Operands) (texts : List String) :
    Except Usage Given :=
  match kind with
  | .numbers =>
    match texts.mapM readNumber? with
    | some numbers => .ok { g with numbers := g.numbers ++ numbers }
    | none => .error .notANumber
  | _ => .ok { g with texts := g.texts ++ texts }

/-- What a level waits for or has not judged yet. -/
inductive Pending where
  | nothing
  | key (key : Key) (value : Option String)
  /-- operands, the last one first -/
  | operands (texts : List String)
deriving DecidableEq

/-- How far the arguments of one level have been read. -/
structure Scan where
  level : Level
  given : Given
  pending : Pending
  /-- all further arguments are operands -/
  plain : Bool
deriving DecidableEq

namespace Scan

/-- Nothing read yet at a level. -/
def start (l : Level) : Scan := ⟨l, .nothing, .nothing, false⟩

/-- Judges and records what is pending. -/
def settle (s : Scan) : Except Usage Scan :=
  match s.pending with
  | .nothing => .ok s
  | .key _ none => .error .missingValue
  | .key key (some text) =>
    (s.given.record key text).map fun g => { s with given := g, pending := .nothing }
  | .operands texts =>
    (s.given.recordOperands s.level.operands texts.reverse).map
      fun g => { s with given := g, pending := .nothing }

/-- An option with its value attached. -/
def attach (s : Scan) (key : Key) (text : String) : Except Usage Scan := do
  let s ← s.settle
  let g ← s.given.record key text
  return { s with given := g }

/-- An option whose value is the next argument. -/
def await (s : Scan) (key : Key) : Except Usage Scan :=
  s.settle.map fun s => { s with pending := .key key none }

/-- An option that stands alone. -/
def raise (s : Scan) (flag : Flag) : Except Usage Scan := do
  let s ← s.settle
  match flag with
  | .help => .error .help
  | .version => .error .version
  | .verbose =>
    if s.given.verbose then .error .conflict
    else return { s with given := { s.given with verbose := true } }

/-- An argument that begins with two dashes. -/
def long (s : Scan) (name : String) (value : Option String) : Except Usage Scan :=
  match s.level.long? name, value with
  | none, _ => .error .unknownArgument
  | some (.flag _), some _ => .error .surplusValue
  | some (.flag flag), none => s.raise flag
  | some (.key key), some text => s.attach key text
  | some (.key key), none => s.await key

/-- The letters behind one dash: flags, and at most one option whose value
    is the rest of the argument or else the next one. -/
def short (s : Scan) : (letters : List Char) → Except Usage Scan
  | [] => .ok s
  | c :: rest =>
    match s.level.short? c with
    | none => .error .unknownArgument
    | some (.flag flag) =>
      match s.raise flag with
      | .error u => .error u
      | .ok s => s.short rest
    | some (.key key) =>
      match rest with
      | [] => s.await key
      | '=' :: text => s.attach key (String.ofList text)
      | text => s.attach key (String.ofList text)

/-- Whether an argument names a level below this one. -/
def namesCommand (s : Scan) (arg : String) : Bool :=
  s.level.hasChildren && (arg = "help" || (s.level.child? arg).isSome)

/-- An operand of a level that takes many. -/
def addOperand (s : Scan) (arg : String) : Except Usage Scan :=
  match s.pending with
  | .operands texts => .ok { s with pending := .operands (arg :: texts) }
  | _ => s.settle.map fun s => { s with pending := .operands [arg] }

/-- Whether the level already has its only operand. -/
def isFilled (s : Scan) : Bool :=
  match s.pending with
  | .operands _ => true
  | _ => s.given.texts ≠ []

/-- An argument that is no option. -/
def operand (s : Scan) (arg : String) : Except Usage Scan :=
  match s.level.operands with
  | .none =>
    if s.level.hasChildren ∧ ¬ (s.plain ∧ s.namesCommand arg) then .error .unknownCommand
    else .error .unknownArgument
  | .one => if s.isFilled then .error .unknownArgument else s.addOperand arg
  | .texts | .numbers => s.addOperand arg

end Scan

/-- What the form of an argument makes of it. -/
inductive Word where
  /-- the rest of the command line asks for help -/
  | help
  | command (level : Level)
  /-- two dashes: all further arguments are operands -/
  | divider
  | long (name : String) (value : Option String)
  | short (letters : List Char)
  /-- the value of the option that waits for one -/
  | value (key : Key)
  | operand
deriving DecidableEq

/-- Divides a long option at its first equals sign. -/
def splitAttached (text : List Char) : String × Option String :=
  match text.dropWhile (· ≠ '=') with
  | [] => (String.ofList text, none)
  | _ :: value => (String.ofList (text.takeWhile (· ≠ '=')), some (String.ofList value))

/-- The word that an argument with leading dashes is, if it is one. -/
def dashed? (arg : String) : Option Word :=
  match arg.toList with
  | ['-', '-'] => some .divider
  | '-' :: '-' :: text => some (.long (splitAttached text).1 (splitAttached text).2)
  | ['-'] => none
  | '-' :: letters => some (.short letters)
  | _ => none

/-- The word that an argument is where the scan stands.  An option that waits
    for its value takes any argument that is not dashed, even a command. -/
def Scan.word (s : Scan) (arg : String) : Word :=
  if s.plain then .operand
  else
    match s.pending with
    | .key key none => (dashed? arg).getD (.value key)
    | _ =>
      if s.level.hasChildren ∧ arg = "help" then .help
      else
        match s.level.child? arg with
        | some l => .command l
        | none => (dashed? arg).getD .operand

/-- Follows a path of commands for help; the help command itself has none
    below it. -/
def helpOn : (level : Level) → (path : List String) → Usage
  | _, [] => .help
  | l, name :: path =>
    if l.hasChildren ∧ name = "help" then
      if path = [] then .help else .unknownCommand
    else
      match l.child? name with
      | some l => helpOn l path
      | none => .unknownCommand

/-- Reads the arguments of a level and of the levels below it.  The innermost
    level is judged by `finish`, and before anything outside of it is settled. -/
def scan {α : Type} (finish : Level → Given → Except Usage α) (s : Scan) :
    (args : List String) → Except Usage (α × Given)
  | [] =>
    match s.settle with
    | .error u => .error u
    | .ok s => (finish s.level s.given).map (·, s.given)
  | arg :: args =>
    match s.word arg with
    | .help => .error (helpOn s.level args)
    | .command l =>
      match scan finish (.start l) args with
      | .error u => .error u
      | .ok (result, inner) => s.settle.map fun outer => (result, inner.within outer.given)
    | .divider => scan finish { s with plain := true } args
    | .value key => scan finish { s with pending := .key key (some arg) } args
    | .operand =>
      match s.operand arg with
      | .error u => .error u
      | .ok s => scan finish s args
    | .long name value =>
      match s.long name value with
      | .error u => .error u
      | .ok s => scan finish s args
    | .short letters =>
      match s.short letters with
      | .error u => .error u
      | .ok s => scan finish s args

end OpaqueId.CommandLine
