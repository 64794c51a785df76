import OpaqueId.Session.Log

/-! # The program: one command line on the files of a home directory

    Of the filters for the log only the names of levels are known here, and
    the lines of the log have no time. -/

namespace OpaqueId.Program

open scoped SizeLimit

/-- The directory of all configuration, from the environment. -/
def configurationHome? : IO (Option String) := do
  match ← IO.getEnv "XDG_CONFIG_HOME" with
  | some directory =>
    if directory.startsWith "/" then return some directory
  | none => pure ()
  match ← IO.getEnv "HOME" with
  | some home => if home = "" then return none else return some (home ++ "/.config")
  | none => return none

/-- Looks at the place of the settings file, below the directory of all
    configuration. -/
def look (configurationHome : String) (p : Session.Place) : IO StoredFile := do
  let here ← IO.currentDir
  for directory in [configurationHome, p.directory] do
    if (← (here / directory).pathExists) && !(← (here / directory).isDir) then return .blocked
  if ← (here / p.path).isDir then return .directory
  if ← (here / p.path).pathExists then
    try return .ofBytes (← IO.FS.readBinFile p.path).toList
    catch _ => return .directory
  return .absent

/-- Writes the settings file, and says which operations went through. -/
def keep (p : Session.Place) (content : String) : IO Disk := do
  try IO.FS.createDirAll p.directory
  catch _ => return { Disk.sound with makesDirectory := false }
  try IO.FS.writeFile p.path content
  catch _ => return { Disk.sound with writes := false }
  return .sound

/-- The settings that the environment gives. -/
def environment : IO Settings := do
  return ⟨← IO.getEnv "NOID_TEMPLATE", ← IO.getEnv "NOID_ALPHABET"⟩

/-- The filter that a level stands for, if the text is the name of one. -/
def filterOf? (level : String) : Option (Event → Bool) :=
  let above (least : Severity) : Event → Bool := fun e => least.rank ≤ e.severity.rank
  if level = "trace" then some (above .trace)
  else if level = "debug" then some (above .debug)
  else if level = "info" ∨ level = "warn" then some (above .warn)
  else if level = "error" ∨ level = "off" then some fun _ => false
  else none

/-- The line of an event. -/
def line (e : Event) : String :=
  let level := match e.severity with
    | .trace => "TRACE"
    | .debug => "DEBUG"
    | .warn => " WARN"
  String.intercalate " " (level :: e.message :: e.fields.map fun (name, value) =>
    name ++ "=" ++ value)

/-- The logging that the environment asks for. -/
def logging : IO Session.Logging := do
  return ⟨(← IO.getEnv "RUST_LOG").bind filterOf?, fun _ => line⟩

/-- What a command line that was carried out, or not, writes to the output stream. -/
def output : Session.Outcome → String
  | .usage u => if u.exitCode = 0 then Session.unlines u.lines else ""
  | .report r => r.output

/-- Carries out a command line.  Only writing the settings file tells whether that goes
    through, and so what is to be printed. -/
def run (args : List String) : IO UInt32 := do
  let some configurationHome ← configurationHome?
    | IO.eprintln "Error: Could not determine config directory"
      return 1
  let p : Session.Place := ⟨configurationHome ++ "/noid"⟩
  let before ← look configurationHome p
  let environment ← environment
  let disk ← match (Session.step p before environment args).1 with
    | .text content => if before = .text content then pure .sound else keep p content
    | _ => pure .sound
  let outcome := (Session.stepOn p disk before environment args).2
  IO.print (output outcome)
  IO.eprint (Session.errorStream (← logging) p disk before environment args)
  return outcome.exitCode.toUInt32

end OpaqueId.Program

def main (args : List String) : IO UInt32 := OpaqueId.Program.run args
