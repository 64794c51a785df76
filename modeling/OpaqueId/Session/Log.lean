import OpaqueId.Session.Step

/-! # Logs: what is told along the way

    While a command line is carried out, events are logged: a template was
    read, an identifier was minted, the settings file was loaded or saved.
    `logOf` lists those of an invocation in order.

    Reports leave them out.  Which events are written, and how, is settled by
    a `Logging`: the filter of the environment, or else the severity, which
    `--verbose` lowers, and lines with a time of their own.  They come before
    what is printed about a failure, and both make the error stream of a
    command line (`errorStream`). -/

namespace OpaqueId

/-- How much an event matters. -/
inductive Severity where
  | trace
  | debug
  | warn
deriving DecidableEq

def Severity.rank : Severity → Nat
  | .trace => 0
  | .debug => 1
  | .warn => 2

/-- Something that happened while a command line was carried out. -/
structure Event where
  severity : Severity
  /-- the part of the program that tells it -/
  origin : String
  message : String
  /-- particulars under their names -/
  fields : List (String × String)
deriving DecidableEq

namespace Scheme

/-- A scheme was built. -/
def parsed (s : Scheme) : Event where
  severity := .debug
  origin := "noid_core::template"
  message := "parsed identifier template"
  fields :=
    [("template", s.template.render), ("generator", s.template.generator.name),
     ("width", toString s.template.width), ("checkdigit", toString s.template.checked),
     ("capacity", s.capacity.text)]

/-- What minting a value logs; a value that is refused is not mentioned. -/
def mintLog (s : Scheme) (value : Nat) : List Event :=
  match s.mint value with
  | .error _ => []
  | .ok id =>
    [{ severity := .trace
       origin := "noid_core::mint"
       message := "minted identifier"
       fields := [("sequence", toString value), ("identifier", id)] }]

/-- What judging a text logs; only a wrong stem and a wrong check symbol are mentioned. -/
def checkLog (s : Scheme) (text : String) : List Event :=
  match s.check text with
  | .error (.wrongStem _) =>
    [{ severity := .trace
       origin := "noid_core::validate"
       message := "prefix mismatch"
       fields := [("identifier", text)] }]
  | .error (.checkMismatch expected actual) =>
    [{ severity := .trace
       origin := "noid_core::validate"
       message := "check symbol mismatch"
       fields :=
         [("identifier", text), ("expected", String.singleton expected),
          ("actual", String.singleton actual)] }]
  | .ok _ | .error .malformed | .error .overflow => []

end Scheme

namespace Session

open CommandLine (Query Change Sequence Invocation)

/-! ## The settings file -/

/-- Whether there is something to be loaded. -/
def sees (d : Disk) (file : StoredFile) : Bool :=
  d.finds && file ≠ .absent && file ≠ .blocked

/-- What is told about the settings file. -/
def fileEvent (p : Place) (severity : Severity) (message : String)
    (fields : List (String × String)) : Event where
  severity := severity
  origin := "noid::config"
  message := message
  fields := ("path", p.path) :: fields

/-- What loading logs if it succeeds; where there is no file nothing is told. -/
def loadLog (p : Place) (d : Disk) (file : StoredFile) : List Event :=
  if sees d file then [fileEvent p .debug "loaded config" []] else []

/-- What loading logs where a file that cannot be loaded counts as empty. -/
def loadOrNoneLog (p : Place) (d : Disk) (file : StoredFile) : List Event :=
  match d.load file with
  | .ok _ => loadLog p d file
  | .error fault =>
    [fileEvent p .warn "ignoring unreadable config" [("error", fileMessage p fault)]]

/-- What saving logs. -/
def saveLog (p : Place) (d : Disk) (settings : Settings) (file : StoredFile) : List Event :=
  match d.save settings file with
  | .ok _ => [fileEvent p .debug "saved config" []]
  | .error _ => []

/-! ## Queries and changes -/

/-- What items that are gone through one after the other log, up to the first that fails. -/
def logUntil {α β ε : Type} (f : α → Except ε β) (log : α → List Event) : List α → List Event
  | [] => []
  | x :: xs =>
    match f x with
    | .error _ => log x
    | .ok _ => log x ++ logUntil f log xs

/-- What minting `count` consecutive values logs, up to the first that fails. -/
def rangeLog (s : Scheme) : (start count : Nat) → List Event
  | _, 0 => []
  | start, count + 1 =>
    match s.mint start with
    | .error _ => s.mintLog start
    | .ok _ => s.mintLog start ++ rangeLog s (start + 1) count

/-- What minting a sequence of values logs. -/
def sequenceLog (s : Scheme) : Sequence → List Event
  | .values values => logUntil s.mint s.mintLog values
  | .range start count =>
    if start + count < CommandLine.numberLimit then rangeLog s start count else []

/-- What validating an identifier logs. -/
def validateLog (s : Scheme) (id : String) : List Event :=
  match s.check id with
  | .ok _ => s.checkLog id
  | .error rejection =>
    s.checkLog id ++
      [{ severity := .debug
         origin := "noid::commands::validate"
         message := "identifier rejected"
         fields := [("identifier", id), ("error", rejection.message)] }]

variable [PatternCompiler]

/-- What building the scheme of the settings logs, and what is done with it. -/
def schemeLog (settings : Settings) (further : Scheme → List Event) : List Event :=
  match settings.resolveScheme with
  | .error _ => []
  | .ok s => s.parsed :: further s

/-- What answering a query logs. -/
def queryLog (settings : Settings) : Query → List Event
  | .inspect => schemeLog settings fun s => s.mintLog 0
  | .mint sequence => schemeLog settings fun s => sequenceLog s sequence
  | .validate ids => schemeLog settings fun s => ids.flatMap (validateLog s)
  | .decode ids => schemeLog settings fun s => logUntil s.decode s.checkLog ids
  | .checkSymbol _ | .savedSettings | .savedPlace => []

/-- What changing the saved settings logs. -/
def changeLog (p : Place) (d : Disk) (file : StoredFile) (given : Settings) :
    Change → List Event
  | .save =>
    if given = .empty then []
    else
      let merged := given.orElse (d.loadOrNone file)
      schemeLog merged (fun _ => []) ++
        match checkSettings merged with
        | .error _ => []
        | .ok _ => saveLog p d merged file
  | .clear => saveLog p d .empty file

/-- The events of an invocation, in order. -/
def logOf (p : Place) (d : Disk) (file : StoredFile) (i : Invocation) : List Event :=
  match i.command with
  | .change c => loadOrNoneLog p d file ++ changeLog p d file i.settings c
  | .ask query =>
    match d.load file with
    | .error _ => []
    | .ok saved => loadLog p d file ++ queryLog (i.settings.orElse saved) query

/-! ## Writing -/

/-- What settles which events are written, and how. -/
structure Logging where
  /-- the filter of the environment, if it has one -/
  filter? : Option (Event → Bool)
  /-- the line of an event, with its time, behind so many others -/
  line : (before : Nat) → Event → String

namespace Logging

/-- Whether an event is written. -/
def shows (l : Logging) (verbose : Bool) (e : Event) : Bool :=
  match l.filter? with
  | some filter => filter e
  | none => (if verbose then Severity.debug else .warn).rank ≤ e.severity.rank

/-- The lines of the events that are written. -/
def text (l : Logging) (verbose : Bool) (log : List Event) : String :=
  unlines ((log.filter (l.shows verbose)).mapIdx l.line)

end Logging

/-- The events of a command line, in order; there are none before it has been read. -/
def logOn (p : Place) (d : Disk) (file : StoredFile) (environment : Settings)
    (args : List String) : List Event :=
  match CommandLine.parse environment args with
  | .error _ => []
  | .ok i => logOf p d file i

/-- All that a command line writes to the error stream: its log, and what is printed about
    its failure if it has one, or else what is wrong with the command line. -/
def errorStream (l : Logging) (p : Place) (d : Disk) (file : StoredFile)
    (environment : Settings) (args : List String) : String :=
  match CommandLine.parse environment args with
  | .error u => if u.exitCode = 0 then "" else unlines u.lines
  | .ok i => l.text i.verbose (logOf p d file i) ++ (carryOut p d file i).2.errorText p

end Session

end OpaqueId
