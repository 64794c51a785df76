/-! # Levels: what a command line may say, and where

    A command line descends through levels: the program itself, one of its
    commands, one of the actions of `config`.  This module is the grammar as
    data: the names of the levels below a level, its options and their
    spellings, and what it takes as operands. -/

namespace OpaqueId.CommandLine

/-- Where on a command line an argument stands. -/
inductive Level where
  | program
  | inspect
  | mint
  | validate
  | decode
  | checkdigit
  | config
  | configShow
  | configPath
  | configSet
  | configClear
deriving DecidableEq

/-- Options that take a value. -/
inductive Key where
  | format
  | template
  | alphabet
  | start
  | count
deriving DecidableEq

/-- Options that stand alone. -/
inductive Flag where
  | verbose
  | help
  | version
deriving DecidableEq

/-- An option of either kind. -/
inductive Switch where
  | key (key : Key)
  | flag (flag : Flag)
deriving DecidableEq

/-- What a level takes besides options. -/
inductive Operands where
  | none
  /-- a single text -/
  | one
  /-- any number of texts -/
  | texts
  /-- any number of sequence values -/
  | numbers
deriving DecidableEq

namespace Level

/-- The level that a command's name leads to. -/
def child? : Level → (name : String) → Option Level
  | .program, name =>
    if name = "inspect" then some .inspect
    else if name = "mint" then some .mint
    else if name = "validate" then some .validate
    else if name = "decode" then some .decode
    else if name = "checkdigit" then some .checkdigit
    else if name = "config" then some .config
    else none
  | .config, name =>
    if name = "show" then some .configShow
    else if name = "path" then some .configPath
    else if name = "set" then some .configSet
    else if name = "clear" then some .configClear
    else none
  | _, _ => none

/-- Whether there are levels below; such a level also knows `help`. -/
def hasChildren : Level → Bool
  | .program | .config => true
  | _ => false

def operands : Level → Operands
  | .mint => .numbers
  | .validate | .decode => .texts
  | .checkdigit => .one
  | _ => .none

/-- The option of a long name. -/
def long? (l : Level) (name : String) : Option Switch :=
  if name = "format" then some (.key .format)
  else if name = "template" then some (.key .template)
  else if name = "alphabet" then some (.key .alphabet)
  else if name = "verbose" then some (.flag .verbose)
  else if name = "help" then some (.flag .help)
  else if name = "version" ∧ l = .program then some (.flag .version)
  else if name = "start" ∧ l = .mint then some (.key .start)
  else if name = "count" ∧ l = .mint then some (.key .count)
  else none

/-- The option of a one-letter name. -/
def short? (l : Level) (name : Char) : Option Switch :=
  if name = 't' then some (.key .template)
  else if name = 'v' then some (.flag .verbose)
  else if name = 'h' then some (.flag .help)
  else if name = 'V' ∧ l = .program then some (.flag .version)
  else none

end Level

end OpaqueId.CommandLine
