/-! # Usage: command lines that are not carried out

    Either help or the version is asked for, or the command line breaks the
    grammar. -/

namespace OpaqueId.CommandLine

/-- What is wrong with a command line, or asked for instead of a command. -/
inductive Usage where
  | help
  | version
  /-- a level ends with nothing said at all -/
  | nothingGiven
  /-- a level ends without the command it needs -/
  | noCommand
  | unknownCommand
  | unknownArgument
  /-- an option ends without its value -/
  | missingValue
  /-- a value is no sequence value -/
  | notANumber
  /-- two arguments exclude each other -/
  | conflict
  /-- an operand or an option that another one needs is missing -/
  | missingArgument
  /-- an option that stands alone was given a value -/
  | surplusValue
deriving DecidableEq

namespace Usage

/-- Only questions leave the program successfully. -/
def exitCode : Usage → Nat
  | .help | .version => 0
  | _ => 2

/-- What is wrong, in a few words. -/
def summary : Usage → String
  | .help | .nothingGiven => "mint and validate opaque identifiers from a template"
  | .version => "noid 0.1.0"
  | .noCommand => "error: a command is missing"
  | .unknownCommand => "error: there is no such command"
  | .unknownArgument => "error: there is no such argument"
  | .missingValue => "error: an option needs a value"
  | .notANumber => "error: a sequence value is a number below 2^64"
  | .conflict => "error: these arguments exclude each other"
  | .missingArgument => "error: a required argument is missing"
  | .surplusValue => "error: this option takes no value"

/-- The forms of a command line. -/
def synopsis : List String :=
  ["Usage: noid [OPTIONS] <COMMAND>",
   "",
   "Commands:",
   "  inspect                               show the parts of the template",
   "  mint [VALUES]... | --count N [--start N]",
   "                                        turn sequence values into identifiers",
   "  validate <IDENTIFIERS>...             check identifiers",
   "  decode <IDENTIFIERS>...               recover sequence values",
   "  checkdigit <TEXT>                     compute a check symbol",
   "  config show | path | set | clear      manage the saved defaults",
   "",
   "Options:",
   "  -t, --template <TEMPLATE>             [env: NOID_TEMPLATE]",
   "      --alphabet <SYMBOLS>              [env: NOID_ALPHABET]",
   "      --format <table|json>",
   "  -v, --verbose",
   "  -h, --help",
   "  -V, --version"]

/-- The lines to print instead of carrying out a command. -/
def lines : Usage → List String
  | .version => [summary .version]
  | u => u.summary :: "" :: synopsis

end Usage

end OpaqueId.CommandLine
