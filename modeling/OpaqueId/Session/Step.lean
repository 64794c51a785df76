import OpaqueId.Session.Query
import OpaqueId.StoredFile.Disk

/-! # Steps: one command line after the other

    A step reads a command line and carries it out on the settings file.
    Queries load the file and leave it as it is.  Changes take a file that
    cannot be loaded for an empty one, and write only settings that a scheme
    can be built from.  File operations go through as far as the disk lets
    them; `step` is the step on a sound disk. -/

namespace OpaqueId.Session

open CommandLine (Format Change Command Invocation Usage)

variable [PatternCompiler]

/-- Confirms a change. -/
def confirm (sentence : String) : Format → String
  | .json => Json.Record.render 0 [("ok", .flag true)] ++ "\n"
  | .plain => unlines ["Success: " ++ sentence]

/-- Whether settings can be used: the alphabet, and over it the template. -/
def checkSettings (s : Settings) : Except Refusal Unit := do
  let a ← s.resolveAlphabet
  match s.template with
  | none => return ()
  | some template => (Scheme.ofText template a).map fun _ => ()

/-- Writes settings, or leaves the file and fails. -/
def write (d : Disk) (file : StoredFile) (settings : Settings) (sentence : String)
    (format : Format) : StoredFile × Report :=
  match d.save settings file with
  | .ok file => (file, .success (confirm sentence format))
  | .error fault => (file, .fail (.file fault))

/-- Changes the saved settings. -/
def change (d : Disk) (file : StoredFile) (format : Format) (given : Settings) :
    Change → StoredFile × Report
  | .save =>
    if given = .empty then (file, .fail .nothingToSave)
    else
      match checkSettings (given.orElse (d.loadOrNone file)) with
      | .error refusal => (file, .fail (.refused refusal))
      | .ok _ => write d file (given.orElse (d.loadOrNone file)) "Saved defaults" format
  | .clear => write d file .empty "Cleared saved defaults" format

/-- Carries out an invocation. -/
def carryOut (p : Place) (d : Disk) (file : StoredFile) (i : Invocation) :
    StoredFile × Report :=
  match i.command with
  | .change c => change d file i.format i.settings c
  | .ask query =>
    match d.load file with
    | .error fault => (file, .fail (.file fault))
    | .ok saved => (file, answer p i.format i.settings saved query)

/-- What becomes of a command line. -/
inductive Outcome where
  /-- it is not carried out -/
  | usage (usage : Usage)
  | report (report : Report)
deriving DecidableEq

def Outcome.exitCode : Outcome → Nat
  | .usage u => u.exitCode
  | .report r => r.exitCode

/-- Reads a command line and carries it out on a disk. -/
def stepOn (p : Place) (d : Disk) (file : StoredFile) (environment : Settings)
    (args : List String) : StoredFile × Outcome :=
  match CommandLine.parse environment args with
  | .error u => (file, .usage u)
  | .ok i =>
    let (file, report) := carryOut p d file i
    (file, .report report)

/-- Reads a command line and carries it out. -/
def step (p : Place) (file : StoredFile) (environment : Settings) (args : List String) :
    StoredFile × Outcome :=
  stepOn p .sound file environment args

/-- A command line and what it meets with: the environment's settings and the
    disk. -/
structure Request where
  args : List String
  environment : Settings
  disk : Disk
deriving DecidableEq

/-- The settings file after command lines have been carried out one after the
    other. -/
def run (p : Place) (file : StoredFile) (requests : List Request) : StoredFile :=
  requests.foldl (fun file r => (stepOn p r.disk file r.environment r.args).1) file

end OpaqueId.Session
